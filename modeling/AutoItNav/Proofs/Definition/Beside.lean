import AutoItNav.Definition.Answer
import AutoItNav.Proofs.Files.Run
import AutoItNav.Proofs.Include.Precedence

/-!
The place of a target beside the document. It is the same whether the target is put into normal form
before it is joined to the directory, as for the scripts of the project, or after, as for a file
that is none of them.
-/
namespace AutoItNav

open Include

theorem Include.resolve?_eq (d : Include) (dir : Option Path) (candidates : List Path) :
    d.resolve? dir candidates =
      if d.targetPath.normalized.bytes = [] then none
      else
        let beside :=
          (place? d.targetPath.normalized dir).bind fun w => candidates.findIdx? (·.same w)
        let trailing := trailingIn? d.targetPath.normalized candidates
        match d.kind with
        | .quoted => beside.or trailing
        | .library => trailing.or beside := by
  split
  · next unnamed => rw [resolve?, if_pos (by simp [unnamed])]
  · next named =>
      dsimp only
      rw [← besideIn?_eq]
      split
      · next quoted => exact resolve?_of_quoted named quoted
      · next library => exact resolve?_of_library named library

namespace Script

/-- The file beside the document is looked for at the place of its target, and nowhere else. -/
theorem run_besideFile? (s : Script) (d : Include) (fs : FileSystem) :
    (s.besideFile? d).run fs =
      ((place? d.targetPath.normalized s.directory?).filter fs.isFile,
        (place? d.targetPath.normalized s.directory?).toList.map .isFile) := by
  rw [place?_eq, besideFile?]
  split
  · next nowhere =>
      rw [nowhere]
      rfl
  · next w place =>
      rw [place, FileM.run_isFile, Option.filter_some]
      rfl

/-- Two paths may be put into normal form before they are joined. So the scripts of the project are
compared with the place at which the file beside the document is looked for, whatever the target. -/
theorem normalized_join (s : Script) (d : Include) :
    (∀ p q : Path, (p.join q).normalized = (p.normalized.join q.normalized).normalized) ∧
      ∃ place : Option Path,
        (∀ candidates, d.resolve? s.directory? candidates =
          if d.targetPath.normalized.bytes = [] then none
          else
            let beside := place.bind fun w => candidates.findIdx? (·.same w)
            let trailing := trailingIn? d.targetPath.normalized candidates
            match d.kind with
            | .quoted => beside.or trailing
            | .library => trailing.or beside) ∧
        ∀ fs : FileSystem, (s.besideFile? d).run fs =
          (place.filter fs.isFile, place.toList.map .isFile) := by
  refine ⟨?_, place? d.targetPath.normalized s.directory?, ?_, ?_⟩
  · intro p q
    exact (Path.normalized_join_parts p q).symm
  · exact d.resolve?_eq s.directory?
  · exact s.run_besideFile? d

/-- A step up from a directory that leads up itself, and one that is lost at the root. -/
example :
    ((Path.ofString "a/..").join (.ofString "../b")).normalized = .ofString "../b" ∧
      ((Path.ofString "/").join (.ofString "../b")).normalized = .ofString "/b" := by
  decide +kernel

end Script

end AutoItNav
