import AutoItNav.Files.Basic

/-!
Directory listings in a fixed order: entries ascend by the bytes of their names, and those whose
links lead nowhere are left out.
-/
namespace AutoItNav

def bytesLe : Bytes → Bytes → Bool
  | [], _ => true
  | _ :: _, [] => false
  | a :: as, b :: bs => a < b || (a = b && bytesLe as bs)

/-- The entries of a directory from its names and what each leads to. -/
def listing (dir : Path) (names : List (Bytes × Option EntryKind)) : List Entry :=
  (names.mergeSort fun a b => bytesLe a.1 b.1).filterMap fun (name, kind) =>
    kind.map fun kind => ⟨dir.join ⟨name⟩, kind⟩

end AutoItNav
