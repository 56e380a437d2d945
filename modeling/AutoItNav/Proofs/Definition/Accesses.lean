import AutoItNav.Proofs.Definition.Included

/-!
What the search through the included scripts asks of a file system: listings first, then the texts
of the included scripts up to the first that declares the identifier, none of them twice. Nothing
else in the file system has a part in the answer.
-/
namespace AutoItNav

variable {fs : FileSystem} {s : Script} {id : Identifier} {layout : Layout}

theorem Roots.listing_of_mem_scripts {roots : Roots} {a : Access}
    (member : a ∈ ((roots.scripts layout).run fs).2) : ∃ dir, a = .listDir dir := by
  simp only [Roots.scripts, FileM.run_bind, FileM.run_pure, List.append_nil, List.mem_append]
    at member
  rcases member with source | library
  · exact listing_of_mem_scanBelow source
  · exact listing_of_mem_scanBelow library

namespace Script

theorem listing_of_mem_includes {a : Access} (member : a ∈ ((s.includes layout).run fs).2) :
    ∃ dir, a = .listDir dir := by
  unfold includes at member
  split at member
  · cases member
  · simp only [FileM.run_bind, FileM.run_pure, List.append_nil] at member
    exact Roots.listing_of_mem_scripts member

theorem distinct_includes (s : Script) (layout : Layout) (fs : FileSystem) :
    ((s.includes layout).run fs).1.1.Pairwise
      fun p q => ¬p.normalized.same q.normalized = true := by
  cases file : s.path?.bind layout.roots? with
  | none =>
      rw [includes, file]
      exact List.Pairwise.nil
  | some roots =>
      obtain ⟨path, file, rooted⟩ := Option.bind_eq_some_iff.mp file
      rw [run_includes file rooted]
      exact (Include.included_select ..).distinct

/-- How far a search through `included` reads: up to the script that it ends in, or through all of
them in vain. -/
inductive ReadsTo (id : Identifier) (fs : FileSystem) (included : List Path) :
    (reads : List Path) → (answer : Option Location) → Prop
  | winner (m : ScriptMatch) (passed : List Path) (wins : m.Wins id fs passed included) :
      ReadsTo id fs included (passed ++ [m.path]) m.location?
  | nowhere (silent : ∀ p ∈ included, id.SilentIn fs p) : ReadsTo id fs included included none

theorem ReadsTo.initial {included reads : List Path} {answer : Option Location}
    (reading : ReadsTo id fs included reads answer) : reads <+: included := by
  cases reading with
  | winner m passed wins =>
      obtain ⟨unread, rfl⟩ := wins.place
      exact ⟨unread, by simp⟩
  | nowhere silent => exact List.prefix_refl included

theorem exists_readsTo (id : Identifier) (fs : FileSystem) (included : List Path) :
    ∃ reads found read, (id.firstScript? 0 included).run fs =
        ((found, read), reads.map .readText) ∧
      ReadsTo id fs included reads (found.bind ScriptMatch.location?) := by
  rcases id.wins_or_silent fs included with ⟨m, passed, wins⟩ | silent
  · exact ⟨_, _, _, Identifier.run_firstScript?_of_wins wins, .winner m passed wins⟩
  · exact ⟨_, _, _, Identifier.run_firstScript?_of_silent silent, .nowhere silent⟩

/-- The search lists directories, reads scripts that the document includes in their order up to the
first that declares the identifier, none of them twice, and does nothing else. Its answer and its
work are the same over all file systems with the same listings and the same texts of the scripts
read. -/
theorem accesses_includedDeclaration? (s : Script) (id : Identifier) (layout : Layout)
    (fs : FileSystem) :
    ∃ scan reads,
      ((s.includedDeclaration? id layout).run fs).2 = scan ++ reads.map .readText ∧
      (∀ a ∈ scan, ∃ dir, a = .listDir dir) ∧
      ReadsTo id fs ((s.includes layout).run fs).1.1 reads
        ((s.includedDeclaration? id layout).run fs).1.1 ∧
      reads <+: ((s.includes layout).run fs).1.1 ∧
      (∀ path roots, s.path? = some path → layout.roots? path = some roots →
        ((s.includes layout).run fs).1.1 =
          Include.select s.text s.directory? (roots.found layout fs)) ∧
      (reads.Pairwise fun p q => ¬p.normalized.same q.normalized = true) ∧
      ∀ fs' : FileSystem, fs'.listDir = fs.listDir →
        (∀ p ∈ reads, fs'.readText p = fs.readText p) →
        (s.includedDeclaration? id layout).run fs' =
          (s.includedDeclaration? id layout).run fs := by
  obtain ⟨reads, found, read, searched, reading⟩ :=
    exists_readsTo id fs ((s.includes layout).run fs).1.1
  have run : (s.includedDeclaration? id layout).run fs =
      ((found.bind ScriptMatch.location?, { ((s.includes layout).run fs).1.2 with read }),
        ((s.includes layout).run fs).2 ++ reads.map .readText) := by
    rw [run_includedDeclaration?]
    generalize (s.includes layout).run fs = scan at searched
    obtain ⟨⟨included, work⟩, scanned⟩ := scan
    dsimp only at searched ⊢
    rw [searched]
  refine ⟨((s.includes layout).run fs).2, reads, ?_, ?_, ?_, reading.initial, ?_, ?_, ?_⟩
  · rw [run]
  · intro a member
    exact listing_of_mem_includes member
  · rw [run]
    exact reading
  · intro path roots file rooted
    rw [run_includes file rooted]
  · exact (distinct_includes s layout fs).sublist reading.initial.sublist
  · intro fs' listings texts
    apply FileM.run_eq_of_alike
    intro a member
    rw [run] at member
    rcases List.mem_append.mp member with scanned | opened
    · obtain ⟨dir, rfl⟩ := listing_of_mem_includes scanned
      exact congrFun listings dir
    · obtain ⟨p, inside, rfl⟩ := List.mem_map.mp opened
      exact texts p inside

/-- Both roots are the same directory, so every script is a candidate twice, and two directives mean
one script. It is read once; the script included last is not read and may be anything. -/
theorem accesses_includedDeclaration?_twice :
    let id : Identifier := ⟨['g', 'o'], by decide⟩
    let s : Script :=
      ⟨⟨Uri.fileScheme, some ⟨[], [], none⟩, "/p/src/a.au3".toList, none, none⟩,
        "#include <b.au3>\n#include \"../src/./b.au3\"\n#include <c.au3>".toList⟩
    let layout : Layout := { Layout.standard with libraryDir := "src" }
    let here : Path := .ofString "/p/src"
    let first : Path := .ofString "/p/src/b.au3"
    let last : Path := .ofString "/p/src/c.au3"
    let fs : FileSystem :=
      { listDir := fun dir => if dir = here then some [⟨first, .file⟩, ⟨last, .file⟩] else none
        readText := fun _ => some "Func go()".toList
        isFile := fun _ => true }
    let fs' : FileSystem :=
      { fs with
        readText := fun file => if file = first then some "Func go()".toList else none
        isFile := fun _ => false }
    (s.includedDeclaration? id layout).run fs' = (s.includedDeclaration? id layout).run fs ∧
      ((s.includedDeclaration? id layout).run fs).2 =
        [.listDir here, .listDir here, .readText first] ∧
      ((s.includedDeclaration? id layout).run fs).1.2 = ⟨4, 2, 1⟩ := by
  intro id s layout here first last fs fs'
  have made : ((s.includedDeclaration? id layout).run fs).2 =
      [.listDir here, .listDir here, .readText first] := by decide +kernel
  obtain ⟨scan, reads, accesses, _, _, _, _, _, alike⟩ :=
    accesses_includedDeclaration? s id layout fs
  refine ⟨?_, made, by decide +kernel⟩
  apply alike fs' rfl
  intro p member
  have opened : Access.readText p ∈ ((s.includedDeclaration? id layout).run fs).2 := by
    rw [accesses]
    exact List.mem_append_right scan (List.mem_map_of_mem member)
  have only : p = first := by
    rw [made] at opened
    simpa using opened
  rw [only]
  rfl

end Script

end AutoItNav
