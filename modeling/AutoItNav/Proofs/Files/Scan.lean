import AutoItNav.Files.Scan
import AutoItNav.Proofs.Files.Run

/-!
What a scan finds: files that some listing names. It asks for nothing but listings.
-/
namespace AutoItNav

/-- Every listing gives absolute paths. -/
def FileSystem.Absolute (fs : FileSystem) : Prop :=
  ∀ dir entries, fs.listDir dir = some entries → ∀ e ∈ entries, e.path.isAbsolute = true

variable {fs : FileSystem} {extension : String} {dir p : Path}

theorem listed_of_mem_scanBelow {levels : Nat}
    (member : p ∈ ((scanBelow extension levels dir).run fs).1) :
    ∃ parent entries, fs.listDir parent = some entries ∧ ∃ e ∈ entries, e.path = p := by
  induction levels generalizing dir with
  | zero => cases member
  | succ levels ih =>
      rw [scanBelow, FileM.run_listDir] at member
      cases listed : fs.listDir dir with
      | none =>
          rw [listed] at member
          cases member
      | some entries =>
          rw [listed] at member
          dsimp only at member
          rw [FileM.run_concat, List.mem_flatMap] at member
          obtain ⟨e, entry, member⟩ := member
          split at member
          · split at member
            · exact ⟨dir, entries, listed, e, entry, (List.mem_singleton.mp member).symm⟩
            · cases member
          · exact ih member
          · cases member

theorem isAbsolute_of_mem_scripts (absolute : fs.Absolute)
    (member : p ∈ ((scripts dir extension).run fs).1) : p.isAbsolute = true := by
  obtain ⟨parent, entries, listed, e, entry, rfl⟩ := listed_of_mem_scanBelow member
  exact absolute parent entries listed e entry

/-- A scan does nothing but list directories. -/
theorem listing_of_mem_scanBelow {levels : Nat} {a : Access}
    (member : a ∈ ((scanBelow extension levels dir).run fs).2) : ∃ dir, a = .listDir dir := by
  induction levels generalizing dir with
  | zero => cases member
  | succ levels ih =>
      rw [scanBelow, FileM.run_listDir] at member
      rcases List.mem_cons.mp member with first | member
      · exact ⟨dir, first⟩
      · cases listed : fs.listDir dir with
        | none =>
            rw [listed] at member
            cases member
        | some entries =>
            rw [listed] at member
            dsimp only at member
            rw [FileM.accesses_concat, List.mem_flatMap] at member
            obtain ⟨e, _, member⟩ := member
            split at member
            · cases member
            · exact ih member
            · cases member

end AutoItNav
