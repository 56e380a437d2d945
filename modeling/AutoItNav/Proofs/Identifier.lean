import AutoItNav.Identifier
import AutoItNav.Proofs.Text.Trim

/-!
Identifiers are never blank at their ends, and variables begin with the sigil.
-/
namespace AutoItNav

theorem IsIdentifier.tight {t : Text} (valid : IsIdentifier t) : Text.Tight t := by
  rw [← valid.2.2]
  exact Text.tight_trim t

namespace Identifier

theorem text_ne_nil (id : Identifier) : id.text ≠ [] := id.valid.1

theorem head?_of_variable {id : Identifier} (kind : id.kind = .variable) :
    id.text.head? = some sigil := by
  unfold Identifier.kind at kind
  split at kind
  · assumption
  · cases kind

end Identifier

end AutoItNav
