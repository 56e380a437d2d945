import AutoItNav.Proofs.Definition.Beside
import AutoItNav.Proofs.Definition.Included
import AutoItNav.Proofs.Include.Reading
import AutoItNav.Proofs.Text.Cursor

/-!
What a cursor on an include directive leads to: the script that the search for declarations takes
the directive to mean. Only where that search drops the directive a file beside the document may be
opened, and it is none of the project's scripts.
-/
namespace AutoItNav

open Text

namespace Include

variable {t : Text} {n : Nat} {d : Include} {dir : Path}

theorem ReadOn.exists_seen (read : ReadOn t n d) {p : Position} (here : p.line.toNat = n) :
    ∃ offset line, offsetAt? t p = some offset ∧ lineAt? t offset = some line ∧
      parseLine? line p.line = some d := by
  obtain ⟨line, listed, parsed⟩ := read.exists_line
  obtain ⟨above, whole, below, row, _, same⟩ := getElem?_lines.mp listed
  obtain ⟨offset, found, seen⟩ := row.lineAt? here
  refine ⟨offset, _, found, seen, ?_⟩
  have number : p.line = n.toUInt32 := by
    rw [← here]
    exact (UInt32.ofNat_toNat).symm
  have complete : parseLine? line n.toUInt32 = parseLine? whole n.toUInt32 := by
    split at same
    · rw [same]
    · obtain ⟨trail, cut, returns⟩ := exists_chomp_append whole
      rw [same]
      conv_rhs => rw [cut, parseLine?_append returns]
  obtain ⟨trail, cut, returns⟩ := exists_dropTrailing_append isReturn whole
  rw [number, ← parsed, complete]
  conv_rhs => rw [cut]
  rw [parseLine?_append]
  intro c member
  exact of_decide_eq_true (returns c member)

/-- A directive that means no candidate has none at its place beside the document. -/
theorem not_same_of_unresolved {candidates : List Path}
    (unresolved : d.resolve? (some dir) candidates = none)
    (target : d.targetPath.normalized.bytes ≠ []) :
    ∀ c ∈ candidates, ¬c.same (dir.join d.targetPath).normalized = true := by
  have apart := ((Include.resolve?_eq_none_iff target).mp unresolved).1
  exact apart _ (place?_normalized d.targetPath dir)

end Include

namespace Script

variable {s : Script} {fs : FileSystem} {layout : Layout} {path dir : Path} {roots : Roots}
  {d : Include} {p : Position} {builds : Identifier → Bool}

theorem exists_directory? (file : s.path? = some path) (rooted : layout.roots? path = some roots) :
    ∃ dir, s.directory? = some dir := by
  obtain ⟨source, named, _⟩ := Option.map_eq_some_iff.mp rooted
  obtain ⟨dir, upper, _⟩ := Option.bind_eq_some_iff.mp named
  exact ⟨dir, by rw [directory?, file, Option.bind_some, upper]⟩

theorem includeAt?_of_readOn {n : Nat} (read : Include.ReadOn s.text n d)
    (here : p.line.toNat = n) : s.includeAt? p = some d := by
  obtain ⟨offset, line, found, seen, parsed⟩ := read.exists_seen here
  rw [includeAt?, found, Option.bind_eq_bind, Option.bind_some, seen, Option.bind_eq_bind,
    Option.bind_some, parsed]

theorem run_besideFile?_of_directory (folder : s.directory? = some dir) :
    ((s.besideFile? d).run fs).1 =
      if fs.isFile (dir.join d.targetPath).normalized then some (dir.join d.targetPath).normalized
      else none := by
  rw [run_besideFile?, folder, Include.place?_normalized, Option.filter_some]

theorem run_includeTarget? (file : s.path? = some path) (rooted : layout.roots? path = some roots) :
    ((s.includeTarget? d layout).run fs).1 =
      ((d.resolve? s.directory? ((roots.found layout fs).map Path.normalized)).bind
        ((roots.found layout fs)[·]?)).or ((s.besideFile? d).run fs).1 := by
  rw [includeTarget?, file]
  dsimp only
  rw [rooted, FileM.run_bind]
  dsimp only
  rw [FileM.run_bind, roots.run_scripts, FileM.run_pure]
  dsimp only
  split
  · next target meant => rw [meant]; rfl
  · next meant => rw [meant]; rfl

theorem run_includeLocation? (seen : s.includeAt? p = some d) :
    ((s.includeLocation? p layout).run fs).1 =
      ((s.includeTarget? d layout).run fs).1.bind (Location.ofPath? · .zero) := by
  rw [includeLocation?, seen]
  dsimp only
  rw [FileM.run_bind]
  rfl

theorem run_includeLocation?_of_bare (bare : s.includeAt? p = none) :
    ((s.includeLocation? p layout).run fs).1 = none := by
  rw [includeLocation?, bare]
  rfl

theorem run_answerAt_of_include {location : Location}
    (found : ((s.includeLocation? p layout).run fs).1 = some location) :
    ((s.answerAt p layout builds).run fs).1 = ⟨some location, .includeLine, .none⟩ := by
  rw [answerAt, FileM.run_bind, found]
  rfl

/-- Where the include line leads nowhere, the word under the cursor is looked for. -/
theorem run_answerAt_of_missed {id : Identifier} {word : Text} {span : Span}
    (missed : ((s.includeLocation? p layout).run fs).1 = none)
    (seen : wordAt s.text p = some (word, span)) (named : Identifier.ofWord? word = some id) :
    ((s.answerAt p layout builds).run fs).1 = ((s.answerFor id layout builds).run fs).1 := by
  rw [answerAt, FileM.run_bind, missed]
  dsimp only
  rw [seen, Option.bind_some, named]

/-- Every directive stands on some line. Where it means a script of the project, a cursor anywhere
on that line leads to that script, and the script is one of those that are searched. Where it means
none, only the file at its place beside the document is opened, if it is a file, and no script of
the project has that place. -/
theorem run_answerAt_of_readOn (absolute : fs.Absolute) (file : s.path? = some path)
    (rooted : layout.roots? path = some roots) (written : d ∈ Include.parseText s.text)
    (target : d.targetPath.normalized.bytes ≠ []) :
    let candidates := roots.found layout fs
    let meant := d.resolve? s.directory? (candidates.map Path.normalized)
    (∃ n, Include.ReadOn s.text n d) ∧
      ∀ n p, Include.ReadOn s.text n d → p.line.toNat = n →
        (∀ i, meant = some i → ∃ c uri, candidates[i]? = some c ∧ Uri.ofPath? c = some uri ∧
          (∀ builds, ((s.answerAt p layout builds).run fs).1 =
            ⟨some ⟨uri, .zero⟩, .includeLine, .none⟩) ∧
          c ∈ ((s.includes layout).run fs).1.1) ∧
        (meant = none → ∃ dir, s.directory? = some dir ∧
          let beside := (dir.join d.targetPath).normalized
          ((s.includeLocation? p layout).run fs).1 =
              (if fs.isFile beside then Location.ofPath? beside .zero else none) ∧
            ∀ c ∈ candidates, ¬c.normalized.same beside = true) := by
  intro candidates meant
  refine ⟨Include.mem_parseText.mp written, ?_⟩
  intro n p read here
  have location : ((s.includeLocation? p layout).run fs).1 =
      ((meant.bind (candidates[·]?)).or ((s.besideFile? d).run fs).1).bind
        (Location.ofPath? · .zero) := by
    rw [run_includeLocation? (includeAt?_of_readOn read here), run_includeTarget? file rooted]
  refine ⟨?_, ?_⟩
  · intro i found
    have inside := (Include.firstOfKind_resolve? found).lt
    rw [List.length_map] at inside
    have listed : candidates[i]? = some candidates[i] := List.getElem?_eq_getElem inside
    have rootedPath : candidates[i].isAbsolute = true :=
      Roots.isAbsolute_of_mem_found absolute (List.getElem_mem inside)
    obtain ⟨uri, named⟩ : ∃ uri, Uri.ofPath? candidates[i] = some uri := by
      rw [Uri.ofPath?, if_pos rootedPath]
      exact ⟨_, rfl⟩
    refine ⟨candidates[i], uri, listed, named, ?_, ?_⟩
    · intro builds
      apply run_answerAt_of_include
      rw [location, found, Option.bind_some, listed, Option.some_or, Option.bind_some,
        Location.ofPath?, named]
      rfl
    · rw [run_includes file rooted]
      exact Include.mem_select.mpr ⟨d, written, i, found, listed⟩
  · intro unresolved
    obtain ⟨dir, folder⟩ := exists_directory? file rooted
    refine ⟨dir, folder, ?_, ?_⟩
    · rw [location, unresolved, Option.bind_none, Option.none_or, run_besideFile?_of_directory folder]
      split <;> rfl
    · dsimp only [meant] at unresolved
      rw [folder] at unresolved
      have apart := Include.not_same_of_unresolved unresolved target
      intro c member
      exact apart c.normalized (List.mem_map_of_mem member)

/-- The upper directive leads up and down again to a script of the project, the lower one to a file
that is no script of it. -/
theorem run_answerAt_of_readOn_both :
    let s : Script :=
      ⟨⟨Uri.fileScheme, some ⟨[], [], none⟩, "/p/src/a.au3".toList, none, none⟩,
        "\t#INCLUDE '..\\lib/./b.au3' ; b\r\r\n#include <c.au3>".toList⟩
    let library : Path := .ofString "/p/lib/b.au3"
    let lone : Path := .ofString "/p/src/c.au3"
    let fs : FileSystem :=
      { listDir := fun dir => if dir = .ofString "/p/lib" then some [⟨library, .file⟩] else none
        readText := fun _ => none
        isFile := fun file => file = lone }
    let upper : Include := ⟨"..\\lib/./b.au3".toList, .quoted, 0⟩
    let lower : Include := ⟨"c.au3".toList, .library, 1⟩
    Include.parseText s.text = [upper, lower] ∧
      (∃ uri, Uri.ofPath? library = some uri ∧
        ((s.answerAt ⟨0, 40⟩ .standard).run fs).1 = ⟨some ⟨uri, .zero⟩, .includeLine, .none⟩) ∧
      ((s.includeLocation? ⟨1, 2⟩ .standard).run fs).1 = Location.ofPath? lone .zero := by
  intro s library lone fs upper lower
  have absolute : fs.Absolute := by
    intro dir entries listed e entry
    dsimp only [fs] at listed
    split at listed
    · cases listed
      rw [List.mem_singleton.mp entry]
      decide
    · cases listed
  have file : s.path? = some (.ofString "/p/src/a.au3") := by decide +kernel
  have folder : s.directory? = some (.ofString "/p/src") := by decide +kernel
  have rooted : Layout.standard.roots? (.ofString "/p/src/a.au3") =
      some ⟨.ofString "/p/src", .ofString "/p/lib"⟩ := by decide +kernel
  have found : Roots.found ⟨.ofString "/p/src", .ofString "/p/lib"⟩ .standard fs = [library] := by
    decide +kernel
  have written : Include.parseText s.text = [upper, lower] := by decide +kernel
  have above : Include.ReadOn s.text 0 upper := ⟨_, rfl, by decide +kernel⟩
  have below : Include.ReadOn s.text 1 lower := ⟨_, rfl, by decide +kernel⟩
  obtain ⟨_, first⟩ := run_answerAt_of_readOn (d := upper) absolute file rooted
    (by simp [written]) (by decide +kernel)
  obtain ⟨_, second⟩ := run_answerAt_of_readOn (d := lower) absolute file rooted
    (by simp [written]) (by decide +kernel)
  refine ⟨written, ?_, ?_⟩
  · obtain ⟨c, uri, listed, named, answer, _⟩ :=
      (first 0 ⟨0, 40⟩ above rfl).1 0 (by rw [found]; decide +kernel)
    rw [found] at listed
    obtain rfl := Option.some.inj listed
    exact ⟨uri, named, answer _⟩
  · obtain ⟨dir, here, answer, _⟩ :=
      (second 1 ⟨1, 2⟩ below rfl).2 (by rw [found]; decide +kernel)
    obtain rfl := Option.some.inj (folder.symm.trans here)
    rw [answer]
    decide +kernel

end Script

end AutoItNav
