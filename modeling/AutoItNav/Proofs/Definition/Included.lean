import AutoItNav.Definition.Included
import AutoItNav.Proofs.Files.Scan
import AutoItNav.Proofs.Include.Select

/-!
The search through included scripts: the first one that can be read and declares the identifier
wins, and none behind it is read.
-/
namespace AutoItNav

/-- The script cannot be read, or a search through it finds nothing or is given up. -/
def Identifier.SilentIn (id : Identifier) (fs : FileSystem) (p : Path) : Prop :=
  ∀ t d, fs.readText p = some t → id.find t ≠ .ok (some d)

/-- How many of the files can be read. -/
def FileSystem.readable (fs : FileSystem) (files : List Path) : Nat :=
  files.countP fun p => (fs.readText p).isSome

theorem FileSystem.readable_cons (fs : FileSystem) (p : Path) (files : List Path) :
    fs.readable (p :: files) = fs.readable files + if (fs.readText p).isSome then 1 else 0 :=
  List.countP_cons

/-- The match is in the first of the scripts that declares the identifier, right behind those that
were passed over. -/
structure ScriptMatch.Wins (m : ScriptMatch) (id : Identifier) (fs : FileSystem)
    (passed scripts : List Path) : Prop where
  place : ∃ unread, scripts = passed ++ m.path :: unread
  silent : ∀ p ∈ passed, id.SilentIn fs p
  text : fs.readText m.path = some m.text
  declaration : id.find m.text = .ok (some m.declaration)

variable {id : Identifier} {fs : FileSystem} {passed included : List Path} {m : ScriptMatch}

theorem ScriptMatch.Wins.mem (wins : m.Wins id fs passed included) : m.path ∈ included := by
  obtain ⟨unread, rfl⟩ := wins.place
  simp

namespace Identifier

theorem run_firstScript?_append (silent : ∀ p ∈ passed, id.SilentIn fs p) (count : Nat)
    (rest : List Path) :
    (id.firstScript? count (passed ++ rest)).run fs =
      (let later := (id.firstScript? (count + fs.readable passed) rest).run fs
       (later.1, passed.map .readText ++ later.2)) := by
  induction passed generalizing count with
  | nil => rfl
  | cons p passed ih =>
      have later := ih fun q member => silent q (List.mem_cons_of_mem p member)
      have here := silent p List.mem_cons_self
      rw [List.cons_append, firstScript?, FileM.run_readText]
      cases read : fs.readText p with
      | none =>
          have skipped : fs.readable (p :: passed) = fs.readable passed := by
            rw [FileSystem.readable_cons, read]
            rfl
          dsimp only
          rw [later, skipped]
          rfl
      | some t =>
          have counted : count + fs.readable (p :: passed) = count + 1 + fs.readable passed := by
            rw [FileSystem.readable_cons, read, Option.isSome_some, if_pos rfl]
            omega
          dsimp only
          split
          · next d found => exact absurd found (here t d read)
          · rw [later, counted]
            rfl

theorem run_firstScript?_of_wins (wins : m.Wins id fs passed included) :
    (id.firstScript? 0 included).run fs =
      ((some m, fs.readable passed + 1), (passed ++ [m.path]).map .readText) := by
  obtain ⟨unread, rfl⟩ := wins.place
  rw [run_firstScript?_append wins.silent, firstScript?, FileM.run_readText, wins.text]
  dsimp only
  rw [wins.declaration]
  simp

theorem run_firstScript?_of_silent (silent : ∀ p ∈ included, id.SilentIn fs p) :
    (id.firstScript? 0 included).run fs =
      ((none, fs.readable included), included.map .readText) := by
  have all := run_firstScript?_append silent 0 []
  simpa [firstScript?] using all

theorem wins_or_silent (id : Identifier) (fs : FileSystem) (included : List Path) :
    (∃ m passed, ScriptMatch.Wins m id fs passed included) ∨ ∀ p ∈ included, id.SilentIn fs p := by
  induction included with
  | nil => exact .inr (by simp)
  | cons p rest ih =>
      by_cases silent : id.SilentIn fs p
      · rcases ih with ⟨m, passed, ⟨⟨unread, rfl⟩, passed_silent, text, declaration⟩⟩ | rest_silent
        · exact .inl ⟨m, p :: passed, ⟨unread, rfl⟩,
            List.forall_mem_cons.mpr ⟨silent, passed_silent⟩, text, declaration⟩
        · exact .inr (List.forall_mem_cons.mpr ⟨silent, rest_silent⟩)
      · left
        simp only [SilentIn, not_forall, not_not] at silent
        obtain ⟨t, d, read, found⟩ := silent
        exact ⟨⟨p, t, d⟩, [], ⟨rest, rfl⟩, by simp, read, found⟩

end Identifier

/-- The scripts found below the roots, sources before libraries. -/
def Roots.found (roots : Roots) (layout : Layout) (fs : FileSystem) : List Path :=
  ((AutoItNav.scripts roots.source layout.extension).run fs).1 ++
    ((AutoItNav.scripts roots.library layout.extension).run fs).1

theorem Roots.run_scripts (roots : Roots) (layout : Layout) (fs : FileSystem) :
    ((roots.scripts layout).run fs).1 = roots.found layout fs := by
  simp [Roots.scripts, Roots.found]

theorem Roots.isAbsolute_of_mem_found {roots : Roots} {layout : Layout} {p : Path}
    (absolute : fs.Absolute) (member : p ∈ roots.found layout fs) : p.isAbsolute = true := by
  rcases List.mem_append.mp member with source | library
  · exact isAbsolute_of_mem_scripts absolute source
  · exact isAbsolute_of_mem_scripts absolute library

namespace Script

variable {s : Script} {layout : Layout} {path : Path} {roots : Roots}

theorem run_includes (file : s.path? = some path) (rooted : layout.roots? path = some roots) :
    (s.includes layout).run fs =
      (let candidates := roots.found layout fs
       let included := Include.select s.text s.directory? candidates
       ((included, ⟨candidates.length, included.length, 0⟩),
         ((roots.scripts layout).run fs).2)) := by
  rw [includes, file, Option.bind_some, rooted, ← roots.run_scripts]
  simp

theorem run_includedDeclaration? (s : Script) (id : Identifier) (layout : Layout)
    (fs : FileSystem) :
    (s.includedDeclaration? id layout).run fs =
      (let ((included, work), scanned) := (s.includes layout).run fs
       let ((found, read), reads) := (id.firstScript? 0 included).run fs
       ((found.bind ScriptMatch.location?, { work with read }), scanned ++ reads)) := by
  simp [includedDeclaration?]

end Script

end AutoItNav
