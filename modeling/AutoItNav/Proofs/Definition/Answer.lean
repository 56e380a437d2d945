import AutoItNav.Definition.Answer
import AutoItNav.Proofs.Definition.Included

/-!
How an identifier is resolved: in the document itself, else in the first included script that
declares it.
-/
namespace AutoItNav.Script

variable {s : Script} {id : Identifier} {fs : FileSystem} {layout : Layout}
  {builds : Identifier → Bool}

theorem answerFor_of_built (built : builds id = true) :
    s.answerFor id layout builds = s.answerFor id layout := by
  rw [answerFor, answerFor, built]

theorem answerFor_of_unbuilt (unbuilt : builds id = false) :
    s.answerFor id layout builds = .done .nothing := by
  rw [answerFor, unbuilt]
  rfl

theorem builds_of_location {l : Location}
    (found : ((s.answerFor id layout builds).run fs).1.location = some l) : builds id = true := by
  cases built : builds id with
  | true => rfl
  | false =>
      rw [answerFor_of_unbuilt built] at found
      cases found

theorem declares?_eq_some {d : Declaration} (found : id.find s.text = .ok (some d)) :
    s.declares? id = some ⟨s.uri, d.nameSpan s.text⟩ := by
  rw [declares?, found]

theorem declares?_eq_none (silent : ∀ d, id.find s.text ≠ .ok (some d)) :
    s.declares? id = none := by
  unfold declares?
  split
  · next d found => exact absurd found (silent d)
  · rfl

theorem run_answerFor_of_found {d : Declaration} (found : id.find s.text = .ok (some d)) :
    (s.answerFor id layout).run fs =
      (⟨some ⟨s.uri, d.nameSpan s.text⟩, .document, .none⟩, []) := by
  rw [answerFor, declares?_eq_some found]
  rfl

theorem run_answerFor_of_silent (silent : ∀ d, id.find s.text ≠ .ok (some d))
    (searched : layout.searchIncludes = true) :
    (s.answerFor id layout).run fs =
      (let ((location, work), accesses) := (s.includedDeclaration? id layout).run fs
       (⟨location, if location.isSome then .includedScript else .nothing, work⟩, accesses)) := by
  rw [answerFor, declares?_eq_none silent]
  simp [searched]

end AutoItNav.Script
