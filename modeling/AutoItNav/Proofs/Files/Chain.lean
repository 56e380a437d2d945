import AutoItNav.Files.Scan
import AutoItNav.Proofs.Files.Run
import AutoItNav.Proofs.Path.Extension
import Mathlib.Data.List.Basic

/-!
What a scan finds, chain by chain. A script is found once for every way in which listings lead down
to it over at most 32 directories below the root, and the ways come in the order of the listings.
-/
namespace AutoItNav

/-- A way down to a script: the directories on it, each with the number of the entry that leads on,
and the script. -/
structure Chain where
  turns : List (Path × Nat)
  script : Path

namespace Chain

def numbers (c : Chain) : List Nat := c.turns.map Prod.snd

/-- The chain from `dir` that goes on with `c` behind its entry `i`. -/
def below (dir : Path) (i : Nat) (c : Chain) : Chain := ⟨(dir, i) :: c.turns, c.script⟩

/-- The chain comes by none of the directories in question. -/
def avoids (failed : Path → Bool) (c : Chain) : Bool := c.turns.all fun turn => !failed turn.1

end Chain

namespace FileSystem

/-- The listings lead from a directory to a script. -/
inductive Leads (fs : FileSystem) (extension : String) : Path → Chain → Prop
  | script {dir : Path} {entries : List Entry} {i : Nat} {e : Entry}
      (listed : fs.listDir dir = some entries) (entry : entries[i]? = some e)
      (file : e.kind = .file) (fits : e.path.EndsIn extension.toList) :
      Leads fs extension dir ⟨[(dir, i)], e.path⟩
  | down {dir : Path} {entries : List Entry} {i : Nat} {e : Entry} {c : Chain}
      (listed : fs.listDir dir = some entries) (entry : entries[i]? = some e)
      (directory : e.kind = .directory) (leads : Leads fs extension e.path c) :
      Leads fs extension dir (c.below dir i)

/-- The listings of some directories fail, and all else is as before. -/
def failing (fs : FileSystem) (failed : Path → Bool) : FileSystem where
  listDir dir := if failed dir then none else fs.listDir dir
  readText := fs.readText
  isFile := fs.isFile

/-- The chains that go on with one entry of `dir`, from the chains that begin below it. -/
def chainsOver (extension : String) (dir : Path) (onward : Path → List Chain) (x : Entry × Nat) :
    List Chain :=
  match x.1.kind with
  | .file => if x.1.path.hasExtension extension then [⟨[(dir, x.2)], x.1.path⟩] else []
  | .directory => (onward x.1.path).map (.below dir x.2)
  | .other => []

/-- The chains from a directory over at most `levels` directories, in the order of the listings. -/
def chains (fs : FileSystem) (extension : String) : (levels : Nat) → Path → List Chain
  | 0, _ => []
  | levels + 1, dir =>
    match fs.listDir dir with
    | none => []
    | some entries => entries.zipIdx.flatMap (chainsOver extension dir (fs.chains extension levels))

variable {fs : FileSystem} {extension : String} {dir : Path} {levels : Nat} {c : Chain}
  {entries : List Entry} {failed : Path → Bool}

theorem chains_of_unlisted (unlisted : fs.listDir dir = none) :
    fs.chains extension levels dir = [] := by
  cases levels with
  | zero => rfl
  | succ levels => rw [chains, unlisted]

theorem chains_of_listed (listed : fs.listDir dir = some entries) :
    fs.chains extension (levels + 1) dir =
      entries.zipIdx.flatMap (chainsOver extension dir (fs.chains extension levels)) := by
  rw [chains, listed]

/-- The scan finds the script of every chain. -/
theorem run_scanBelow (fs : FileSystem) (extension : String) (levels : Nat) (dir : Path) :
    ((scanBelow extension levels dir).run fs).1 =
      (fs.chains extension levels dir).map Chain.script := by
  induction levels generalizing dir with
  | zero => rfl
  | succ levels ih =>
      rw [scanBelow, FileM.run_listDir]
      cases listed : fs.listDir dir with
      | none => rw [chains_of_unlisted listed]; rfl
      | some entries =>
          dsimp only
          rw [chains_of_listed listed, FileM.run_concat, List.map_flatMap]
          conv_lhs => rw [← List.zipIdx_map_fst 0 entries, List.flatMap_map]
          apply List.flatMap_congr
          rintro ⟨e, i⟩ _
          unfold chainsOver
          cases e.kind with
          | file => dsimp only; split <;> rfl
          | directory =>
              dsimp only
              rw [ih, List.map_map]
              rfl
          | other => rfl

theorem Leads.turns_pos (leads : fs.Leads extension dir c) : 0 < c.turns.length := by
  cases leads <;> exact Nat.succ_pos _

theorem mem_chainsOver {onward : Path → List Chain} {e : Entry} {i : Nat} :
    c ∈ chainsOver extension dir onward (e, i) ↔
      e.kind = .file ∧ e.path.EndsIn extension.toList ∧ c = ⟨[(dir, i)], e.path⟩ ∨
        e.kind = .directory ∧ ∃ rest ∈ onward e.path, c = rest.below dir i := by
  rw [← Path.hasExtension_iff]
  unfold chainsOver
  cases kind : e.kind with
  | file => by_cases fits : e.path.hasExtension extension = true <;> simp [fits]
  | directory =>
      simp only [List.mem_map, reduceCtorEq, false_and, true_and, false_or]
      exact exists_congr fun rest => and_congr_right fun _ => eq_comm
  | other => simp

theorem mem_chains_succ : c ∈ fs.chains extension (levels + 1) dir ↔
    ∃ entries i e, fs.listDir dir = some entries ∧ entries[i]? = some e ∧
      (e.kind = .file ∧ e.path.EndsIn extension.toList ∧ c = ⟨[(dir, i)], e.path⟩ ∨
        e.kind = .directory ∧ ∃ rest ∈ fs.chains extension levels e.path,
          c = rest.below dir i) := by
  cases listed : fs.listDir dir with
  | none => simp [chains_of_unlisted listed]
  | some entries =>
      rw [chains_of_listed listed, List.mem_flatMap]
      constructor
      · rintro ⟨⟨e, i⟩, entry, member⟩
        exact ⟨entries, i, e, rfl, List.mem_zipIdx_iff_getElem?.mp entry,
          mem_chainsOver.mp member⟩
      · rintro ⟨_, i, e, ⟨⟩, entry, member⟩
        exact ⟨(e, i), List.mem_zipIdx_iff_getElem?.mpr entry, mem_chainsOver.mpr member⟩

/-- All chains over at most so many directories are listed, and nothing else is. -/
theorem mem_chains : c ∈ fs.chains extension levels dir ↔
    fs.Leads extension dir c ∧ c.turns.length ≤ levels := by
  induction levels generalizing dir c with
  | zero =>
      constructor
      · intro member
        cases member
      · rintro ⟨leads, short⟩
        exact absurd leads.turns_pos (Nat.not_lt.mpr short)
  | succ levels ih =>
      rw [mem_chains_succ]
      constructor
      · rintro ⟨entries, i, e, listed, entry, ⟨file, fits, rfl⟩ | ⟨directory, rest, member, rfl⟩⟩
        · exact ⟨.script listed entry file fits, Nat.succ_pos levels⟩
        · obtain ⟨leads, short⟩ := ih.mp member
          exact ⟨.down listed entry directory leads, Nat.succ_le_succ short⟩
      · rintro ⟨leads, short⟩
        cases leads with
        | script listed entry file fits =>
            exact ⟨_, _, _, listed, entry, .inl ⟨file, fits, rfl⟩⟩
        | down listed entry directory leads =>
            have member := ih.mpr ⟨leads, Nat.le_of_succ_le_succ short⟩
            exact ⟨_, _, _, listed, entry, .inr ⟨directory, _, member, rfl⟩⟩

theorem exists_numbers_of_mem_chainsOver {onward : Path → List Chain} {x : Entry × Nat}
    (member : c ∈ chainsOver extension dir onward x) : ∃ later, c.numbers = x.2 :: later := by
  rcases mem_chainsOver.mp member with ⟨_, _, rfl⟩ | ⟨_, c, _, rfl⟩
  · exact ⟨[], rfl⟩
  · exact ⟨c.numbers, rfl⟩

theorem pairwise_zipIdx {α : Type} (l : List α) : l.zipIdx.Pairwise fun x y => x.2 < y.2 := by
  have numbers : (List.range' 0 l.length).Pairwise (· < ·) := List.pairwise_lt_range'
  rw [← List.zipIdx_map_snd] at numbers
  exact List.pairwise_map.mp numbers

/-- Chains are listed in the order of the entries that they take. -/
theorem pairwise_chains (fs : FileSystem) (extension : String) (levels : Nat) (dir : Path) :
    (fs.chains extension levels dir).Pairwise fun c c' => c.numbers < c'.numbers := by
  induction levels generalizing dir with
  | zero => exact .nil
  | succ levels ih =>
      cases listed : fs.listDir dir with
      | none =>
          rw [chains_of_unlisted listed]
          exact .nil
      | some entries =>
          rw [chains_of_listed listed, List.pairwise_flatMap]
          constructor
          · rintro ⟨e, i⟩ _
            unfold chainsOver
            cases e.kind with
            | file =>
                dsimp only
                split
                · exact List.pairwise_singleton ..
                · exact .nil
            | directory =>
                apply List.pairwise_map.mpr
                apply (ih e.path).imp
                intro c c' before
                exact List.cons_lt_cons_iff.mpr (.inr ⟨rfl, before⟩)
            | other => exact .nil
          · apply (pairwise_zipIdx entries).imp
            intro x y before c member c' member'
            obtain ⟨later, numbers⟩ := exists_numbers_of_mem_chainsOver member
            obtain ⟨later', numbers'⟩ := exists_numbers_of_mem_chainsOver member'
            rw [numbers, numbers']
            exact List.cons_lt_cons_iff.mpr (.inl before)

theorem listDir_failing (failing : failed dir = true) : (fs.failing failed).listDir dir = none :=
  if_pos failing

theorem listDir_spared (spared : failed dir = false) :
    (fs.failing failed).listDir dir = fs.listDir dir :=
  if_neg (by simp [spared])

/-- Every chain from a directory comes by that directory. -/
theorem Leads.not_avoids (leads : fs.Leads extension dir c) (failing : failed dir = true) :
    c.avoids failed = false := by
  cases leads <;> simp [Chain.avoids, Chain.below, failing]

theorem avoids_comp_below (spared : failed dir = false) (i : Nat) :
    Chain.avoids failed ∘ Chain.below dir i = Chain.avoids failed := by
  funext c
  change (!failed dir && c.avoids failed) = c.avoids failed
  rw [spared]
  rfl

/-- Where listings fail the chains over them are gone, and the others are as before. -/
theorem chains_failing (fs : FileSystem) (extension : String) (failed : Path → Bool)
    (levels : Nat) (dir : Path) : (fs.failing failed).chains extension levels dir =
      (fs.chains extension levels dir).filter (·.avoids failed) := by
  induction levels generalizing dir with
  | zero => rfl
  | succ levels ih =>
      cases here : failed dir with
      | true =>
          rw [chains_of_unlisted (listDir_failing here), eq_comm, List.filter_eq_nil_iff]
          intro c member
          rw [(mem_chains.mp member).1.not_avoids here]
          exact Bool.false_ne_true
      | false =>
          cases listed : fs.listDir dir with
          | none =>
              rw [chains_of_unlisted ((listDir_spared here).trans listed),
                chains_of_unlisted listed]
              rfl
          | some entries =>
              rw [chains_of_listed ((listDir_spared here).trans listed), chains_of_listed listed,
                List.filter_flatMap]
              apply List.flatMap_congr
              rintro ⟨e, i⟩ _
              unfold chainsOver
              cases e.kind with
              | file =>
                  dsimp only
                  split
                  · simp [Chain.avoids, here]
                  · rfl
              | directory =>
                  dsimp only
                  rw [ih, List.filter_map, avoids_comp_below here]
              | other => rfl

end FileSystem

/-- A scan finds each script once for every chain to it over the root and at most 32 directories
below, in the order of the listings; where listings fail, it loses the chains over them only. -/
theorem scripts_eq_chains (fs : FileSystem) (root : Path) (extension : String) :
    ∃ chains : List Chain,
      (∀ c, c ∈ chains ↔ fs.Leads extension root c ∧ c.turns.length ≤ 1 + 32) ∧
      (chains.Pairwise fun c c' => c.numbers < c'.numbers) ∧
      ((scripts root extension).run fs).1 = chains.map (·.script) ∧
      ∀ failed : Path → Bool, ((scripts root extension).run (fs.failing failed)).1 =
        (chains.filter (·.avoids failed)).map (·.script) := by
  refine ⟨fs.chains extension scanLevels root, fun c => FileSystem.mem_chains,
    fs.pairwise_chains extension scanLevels root, fs.run_scanBelow extension scanLevels root, ?_⟩
  intro failed
  rw [scripts, FileSystem.run_scanBelow, FileSystem.chains_failing]

/-- A directory that lists itself is listed at every level, and its script is found at each. -/
example :
    let fs : FileSystem :=
      ⟨fun _ => some [⟨.ofString "/r", .directory⟩, ⟨.ofString "/r/a.au3", .file⟩],
        fun _ => none, fun _ => false⟩
    ((scripts (.ofString "/r") "AU3").run fs).1 = List.replicate 33 (.ofString "/r/a.au3") := by
  decide +kernel

end AutoItNav
