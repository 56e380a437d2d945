import AutoItNav.Proofs.Declaration.Spelled
import AutoItNav.Proofs.Definition.Answer
import AutoItNav.Proofs.Text.Projection

/-!
Where an answer leads: read back in the text that it was found in, its span begins and ends right
around a spelling of the identifier.
-/
namespace AutoItNav

open Text

/-- In `t`, cut into `before`, `spelled` and `after`, the span is the place of `spelled`, and that
is the identifier's text. -/
structure Span.Covers (span : Span) (id : Identifier) (t before spelled after : Text) : Prop where
  cut : t = before ++ spelled ++ after
  start : offsetAt? t span.start = some (byteSize before)
  stop : offsetAt? t span.stop = some (byteSize (before ++ spelled))
  ordered : byteSize before < byteSize (before ++ spelled)
  exact : id.kind = .function → spelled = id.text
  folded : id.kind = .variable → spelled.map foldCase = id.text.map foldCase
  single : '\n' ∉ id.text → span.start.line = span.stop.line

namespace Declaration.Spells

variable {d : Declaration} {id : Identifier} {t before spelled after : Text}

theorem byteSize_lt (spells : d.Spells id.spelling id.text t before spelled after) :
    byteSize before < byteSize (before ++ spelled) := by
  rw [byteSize_append]
  cases spelled with
  | nil => exact absurd (List.length_eq_zero_iff.mp spells.reads.length_eq.symm) id.text_ne_nil
  | cons c spelled =>
      have size := c.utf8Size_pos
      rw [byteSize_cons]
      omega

/-- The span of a declared name covers the name. -/
theorem covers (spells : d.Spells id.spelling id.text t before spelled after)
    (small : byteSize t < UInt32.size) : (d.nameSpan t).Covers id t before spelled after := by
  have size : byteSize t = byteSize before + byteSize spelled + byteSize after := by
    rw [spells.cut, byteSize_append, byteSize_append]
  have ends : d.offset + d.length = byteSize (before ++ spelled) := by
    rw [spells.offset, spells.length, byteSize_append]
  have span : d.nameSpan t =
      ⟨positionAt t (byteSize before), positionAt t (byteSize (before ++ spelled))⟩ := by
    rw [nameSpan, ends, spells.offset]
  rw [span]
  obtain rfl := spells.cut
  constructor
  · rfl
  · rw [List.append_assoc]
    exact offsetAt?_positionAt (by omega)
  · exact offsetAt?_positionAt (by rw [byteSize_append]; omega)
  · exact spells.byteSize_lt
  · intro kind
    have reads := spells.reads
    rwa [Identifier.spelling, kind] at reads
  · intro kind
    have reads := spells.reads
    rwa [Identifier.spelling, kind] at reads
  · intro unbroken
    exact (positionAt_line_eq (spells.reads.unbroken unbroken) before after).symm

end Declaration.Spells

theorem Identifier.exists_covers {id : Identifier} {t : Text} {d : Declaration}
    (found : id.find t = .ok (some d)) (small : byteSize t < UInt32.size) :
    ∃ before spelled after, (d.nameSpan t).Covers id t before spelled after := by
  obtain ⟨before, spelled, after, spells, _⟩ := (declares_of_find found).spelled
  exact ⟨before, spelled, after, spells.covers small⟩

namespace Script

/-- The text that an answer points into: the document's own, or the one that was read from the
first of the included scripts to declare the identifier. -/
inductive PointsInto (s : Script) (id : Identifier) (fs : FileSystem) (included : List Path)
    (answer : Answer) (l : Location) : Text → Prop
  | document (origin : answer.origin = .document) (uri : l.uri = s.uri) :
      PointsInto s id fs included answer l s.text
  | script (m : ScriptMatch) (passed : List Path) (origin : answer.origin = .includedScript)
      (wins : m.Wins id fs passed included) (uri : Uri.ofPath? m.path = some l.uri) :
      PointsInto s id fs included answer l m.text

variable {s : Script} {id : Identifier} {fs : FileSystem} {layout : Layout} {l : Location}
  {builds : Identifier → Bool}

theorem searchIncludes_of_location (silent : ∀ d, id.find s.text ≠ .ok (some d))
    (found : ((s.answerFor id layout).run fs).1.location = some l) :
    layout.searchIncludes = true := by
  cases searched : layout.searchIncludes with
  | true => rfl
  | false =>
      rw [answerFor, declares?_eq_none silent, searched] at found
      cases found

/-- An answer is the span of a declaration found in the text that it points into. -/
theorem exists_pointsInto (found : ((s.answerFor id layout builds).run fs).1.location = some l) :
    ∃ t d, s.PointsInto id fs ((s.includes layout).run fs).1.1
        ((s.answerFor id layout builds).run fs).1 l t ∧
      id.find t = .ok (some d) ∧ l.span = d.nameSpan t := by
  have built := builds_of_location found
  rw [answerFor_of_built built] at found ⊢
  by_cases own : ∃ d, id.find s.text = .ok (some d)
  · obtain ⟨d, declared⟩ := own
    rw [run_answerFor_of_found declared] at found ⊢
    cases found
    exact ⟨s.text, d, .document rfl rfl, declared, rfl⟩
  · have silent : ∀ d, id.find s.text ≠ .ok (some d) := not_exists.mp own
    have searched := searchIncludes_of_location silent found
    rw [run_answerFor_of_silent silent searched, run_includedDeclaration?] at found ⊢
    dsimp only at found ⊢
    rcases id.wins_or_silent fs ((s.includes layout).run fs).1.1 with ⟨m, passed, wins⟩ | nowhere
    · rw [Identifier.run_firstScript?_of_wins wins, Option.bind_some] at found ⊢
      obtain ⟨uri, named, rfl⟩ := Option.map_eq_some_iff.mp found
      have some : m.location?.isSome = true := by rw [found]; rfl
      exact ⟨m.text, m.declaration, .script m passed (if_pos some) wins named, wins.declaration,
        rfl⟩
    · rw [Identifier.run_firstScript?_of_silent nowhere] at found
      cases found

/-- A location that is answered covers the identifier in the text that it points into. -/
theorem covers_of_run_answerFor
    (found : ((s.answerFor id layout builds).run fs).1.location = some l) :
    ∃ t, s.PointsInto id fs ((s.includes layout).run fs).1.1
        ((s.answerFor id layout builds).run fs).1 l t ∧
      (byteSize t < UInt32.size →
        ∃ before spelled after, l.span.Covers id t before spelled after) := by
  obtain ⟨t, d, into, declared, span⟩ := exists_pointsInto found
  refine ⟨t, into, ?_⟩
  rw [span]
  exact Identifier.exists_covers declared

/-- The name is spelled with a Kelvin sign, two bytes longer than the letter looked for, and stands
behind a character of two units. -/
theorem covers_of_run_answerFor_kelvin :
    let id : Identifier := ⟨['$', 'k'], by decide⟩
    let s : Script :=
      ⟨⟨Uri.fileScheme, some ⟨[], [], none⟩, "/p/src/a.au3".toList, none, none⟩,
        "#include <b.au3>\n".toList⟩
    let library : Path := .ofString "/p/lib/b.au3"
    let t := "; \r\n'😀' & Global $\u212A".toList
    let fs : FileSystem :=
      { listDir := fun dir => if dir = .ofString "/p/lib" then some [⟨library, .file⟩] else none
        readText := fun file => if file = library then some t else none
        isFile := fun file => file = library }
    let l : Location :=
      ⟨⟨Uri.fileScheme, some ⟨[], [], none⟩, "/p/lib/b.au3".toList, none, none⟩,
        ⟨⟨1, 14⟩, ⟨1, 16⟩⟩⟩
    ((s.answerFor id .standard).run fs).1.location = some l ∧
      ∃ before spelled after, l.span.Covers id t before spelled after := by
  intro id s library t fs l
  have found : ((s.answerFor id .standard).run fs).1.location = some l := by decide +kernel
  refine ⟨found, ?_⟩
  obtain ⟨_, into, covers⟩ := covers_of_run_answerFor found
  cases into with
  | document origin uri => exact absurd uri (by decide)
  | script m passed origin wins uri =>
      have same : m.text = t := by
        have read := wins.text
        dsimp only [fs] at read
        split at read
        · exact (Option.some.inj read).symm
        · cases read
      rw [same] at covers
      exact covers (by decide +kernel)

end Script

end AutoItNav
