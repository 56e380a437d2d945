import AutoItNav.Proofs.Declaration.Returns
import AutoItNav.Proofs.Definition.Accesses
import AutoItNav.Proofs.Definition.Answer

/-!
Answers do not depend on how lines end: carriage returns in the document and in all scripts change
neither what is found nor where it is reported.
-/
namespace AutoItNav

open Text

/-- The document with carriage returns. -/
def Script.withReturns (s : Script) : Script := { s with text := Text.withReturns s.text }

/-- The file system with carriage returns in every text. -/
def FileSystem.withReturns (fs : FileSystem) : FileSystem :=
  { fs with readText := fun file => (fs.readText file).map Text.withReturns }

/-- The match in the text with carriage returns. -/
def ScriptMatch.withReturns (m : ScriptMatch) : ScriptMatch :=
  ⟨m.path, Text.withReturns m.text, m.declaration.moved (m.text.row m.declaration.start)⟩

variable {fs : FileSystem} {s : Script} {id : Identifier} {layout : Layout} {m : ScriptMatch}
  {passed included : List Path} {p : Path}

/-- No search through the text of this file is given up. -/
def Identifier.CompletesIn (id : Identifier) (fs : FileSystem) (p : Path) : Prop :=
  ∀ t, fs.readText p = some t → id.Completes t

namespace Include

end Include

theorem Identifier.SilentIn.withReturns (unbroken : '\n' ∉ id.text)
    (completes : id.CompletesIn fs p) (silent : id.SilentIn fs p) :
    id.SilentIn fs.withReturns p := by
  intro moved d read answer
  obtain ⟨t, plain, rfl⟩ := Option.map_eq_some_iff.mp read
  obtain ⟨found, here, there⟩ := exists_find_withReturns unbroken (completes t plain)
  cases found with
  | none => cases there.symm.trans answer
  | some d => exact silent t d plain here

namespace ScriptMatch

theorem Wins.withReturns (unbroken : '\n' ∉ id.text)
    (completes : ∀ p ∈ included, id.CompletesIn fs p) (wins : m.Wins id fs passed included) :
    m.withReturns.Wins id fs.withReturns passed included := by
  have opened := completes m.path wins.mem m.text wins.text
  obtain ⟨found, here, there⟩ := Identifier.exists_find_withReturns unbroken opened
  obtain rfl := Except.ok.inj (here.symm.trans wins.declaration)
  refine ⟨wins.place, ?_, ?_, there⟩
  · intro p member
    obtain ⟨unread, cut⟩ := wins.place
    have inside : p ∈ included := by
      rw [cut]
      exact List.mem_append_left _ member
    exact (wins.silent p member).withReturns unbroken (completes p inside)
  · exact congrArg (Option.map Text.withReturns) wins.text

end ScriptMatch

namespace Script

end Script

end AutoItNav
