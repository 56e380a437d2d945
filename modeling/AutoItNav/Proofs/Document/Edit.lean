import AutoItNav.Proofs.Document.Synchrony
import AutoItNav.Proofs.Text.Checked
import AutoItNav.Proofs.Text.Column

/-!
Edits with any positions. An edit replaces what stands between the offsets that its ends are clamped
to, and it is left out if one of its lines is missing or its ends are in the wrong order. No slice
misses a boundary on the way.
-/
namespace AutoItNav

namespace Text

variable {t : Text} {p q : Position} {span : Span} {start stop offset offset' : Nat}

/-- The offset that stands for a position: the first boundary of its line at or behind its column,
or the line's end if there is none. -/
def Clamps (t : Text) (p : Position) (offset : Nat) : Prop :=
  IsLeast {b | ∃ c, p.character.toNat ≤ c ∧ Place t p.line.toNat c b} offset ∨
    (∀ c b, Place t p.line.toNat c b → c < p.character.toNat) ∧ LineEnd t p.line.toNat offset

def Lacks (t : Text) (p : Position) : Prop := t.count '\n' < p.line.toNat

/-- An edit of this span changes nothing: a line is missing, or the end is before the start. -/
def Ignores (t : Text) (span : Span) : Prop :=
  t.Lacks span.start ∨ t.Lacks span.stop ∨
    ∃ start stop, t.Clamps span.start start ∧ t.Clamps span.stop stop ∧ stop < start

theorem clamps_of_offsetAt? (found : offsetAt? t p = some offset) : t.Clamps p offset := by
  obtain ⟨above, front, back, below, row, rfl, stops⟩ := exists_row_of_offsetAt? found
  by_cases reached : p.character.toNat ≤ units front
  · exact .inl (isLeast_of_stopsAt row stops reached)
  · exact .inr (lineEnd_of_stopsAt row stops (Nat.not_le.mp reached))

theorem Clamps.exists_row (clamps : t.Clamps p offset) :
    ∃ above line below, Row t p.line.toNat above line below := by
  rcases clamps with least | ⟨_, above, line, below, row, _⟩
  · obtain ⟨c, _, above, front, back, below, row, _⟩ := least.1
    exact ⟨above, front ++ back, below, row⟩
  · exact ⟨above, line, below, row⟩

theorem Clamps.unique (clamps : t.Clamps p offset) (clamps' : t.Clamps p offset') :
    offset = offset' := by
  rcases clamps with least | ⟨left, above, line, below, row, rfl⟩
  · rcases clamps' with least' | ⟨left', _⟩
    · exact least.unique least'
    · obtain ⟨c, right, place⟩ := least.1
      exact absurd (left' c offset place) (Nat.not_lt.mpr right)
  · rcases clamps' with ⟨⟨c, right, place⟩, _⟩ | ⟨_, above', line', below', row', rfl⟩
    · exact absurd (left c offset' place) (Nat.not_lt.mpr right)
    · obtain ⟨rfl, rfl, _⟩ := row.unique row'
      rfl

theorem clamps_iff : t.Clamps p offset ↔ offsetAt? t p = some offset := by
  refine ⟨fun clamps => ?_, clamps_of_offsetAt?⟩
  cases found : offsetAt? t p with
  | none =>
      obtain ⟨above, line, below, row⟩ := clamps.exists_row
      exact absurd row.le_count (Nat.not_le.mpr (offsetAt?_eq_none_iff.mp found))
  | some offset' => rw [(clamps_of_offsetAt? found).unique clamps]

theorem isBoundary_of_offsetAt? (found : offsetAt? t p = some offset) : IsBoundary t offset := by
  obtain ⟨above, front, back, below, row, rfl, _⟩ := exists_row_of_offsetAt? found
  exact row.place.isBoundary

theorem ignores_iff : t.Ignores span ↔ ∀ start stop, offsetAt? t span.start = some start →
    offsetAt? t span.stop = some stop → stop < start := by
  unfold Ignores Lacks
  simp only [clamps_iff, ← offsetAt?_eq_none_iff]
  cases offsetAt? t span.start with
  | none => simp
  | some start => cases offsetAt? t span.stop <;> simp

/-- A span that is not ignored cuts the text in three. -/
theorem exists_cut_of_not_ignores (counts : ¬t.Ignores span) : ∃ before old after,
    t = before ++ old ++ after ∧ offsetAt? t span.start = some (byteSize before) ∧
      offsetAt? t span.stop = some (byteSize (before ++ old)) := by
  simp only [ignores_iff, not_forall, Nat.not_lt] at counts
  obtain ⟨start, stop, found, found', ordered⟩ := counts
  have begins := isBoundary_of_offsetAt? found
  have ends := isBoundary_of_offsetAt? found'
  rcases ordered.eq_or_lt with rfl | earlier
  · obtain ⟨before, ⟨after, rfl⟩, rfl⟩ := begins
    exact ⟨before, [], after, by simp, found, by simpa using found'⟩
  · obtain ⟨before, old, after, cut, _, rfl, rfl⟩ := begins.exists_between ends earlier
    exact ⟨before, old, after, cut, found, found'⟩

/-- A span in reading order is ignored only where a line is missing. -/
theorem Ignores.lacks (ignores : t.Ignores span)
    (ordered : span.start = span.stop ∨ span.start.before span.stop) :
    t.Lacks span.start ∨ t.Lacks span.stop := by
  rcases ignores with lacks | lacks | ⟨start, stop, begins, ends, reversed⟩
  · exact .inl lacks
  · exact .inr lacks
  · have inOrder := offsetAt?_mono (clamps_iff.mp begins) (clamps_iff.mp ends) ordered
    exact absurd reversed (Nat.not_lt.mpr inOrder)

namespace Checked

/-- Puts `new` in the place of the bytes from `start` up to `stop`; none if one of the two is no
boundary or they are in the wrong order. -/
def replace (t : Text) (start stop : Nat) (new : Text) : Option Text := do
  let before ← slice? t 0 start
  let _ ← slice? t start stop
  let after ← slice? t stop (byteSize t)
  return before ++ new ++ after

def edited (t : Text) (e : Edit) : Option Text := do
  match e.span with
  | none => return e.text
  | some span =>
    match ← offsetAt t span.start, ← offsetAt t span.stop with
    | some start, some stop => if start ≤ stop then replace t start stop e.text else return t
    | _, _ => return t

theorem replace_span (before old after new : Text) :
    replace (before ++ old ++ after) (byteSize before) (byteSize (before ++ old)) new =
      some (before ++ new ++ after) := by
  have front : slice? (before ++ old ++ after) 0 (byteSize before) = some before := by
    rw [List.append_assoc, slice?_front]
  have middle : slice? (before ++ old ++ after) (byteSize before) (byteSize (before ++ old)) =
      some old :=
    slice?_eq_some_iff.mpr ⟨before, after, rfl, rfl, rfl⟩
  rw [replace, front, middle, slice?_rest]
  rfl

end Checked

end Text

open Text

namespace Edit

/-- What becomes of a text by one edit. -/
inductive Effect : Text → Edit → Text → Prop
  | whole (t new : Text) : Effect t ⟨none, new⟩ new
  | replaced {before old after : Text} {span : Span} (new : Text)
      (start : (before ++ old ++ after).Clamps span.start (byteSize before))
      (stop : (before ++ old ++ after).Clamps span.stop (byteSize (before ++ old))) :
      Effect (before ++ old ++ after) ⟨some span, new⟩ (before ++ new ++ after)
  | ignored {t : Text} {span : Span} (new : Text) (ignores : t.Ignores span) :
      Effect t ⟨some span, new⟩ t

/-- What becomes of a text by the edits of a batch, one after the other. -/
inductive Effects : Text → List Edit → Text → Prop
  | nil (t : Text) : Effects t [] t
  | cons {t t' t'' : Text} {e : Edit} {edits : List Edit} :
      Effect t e t' → Effects t' edits t'' → Effects t (e :: edits) t''

variable {t t' : Text} {e : Edit} {edits : List Edit}

theorem exists_effect (t : Text) (e : Edit) : ∃ t', Effect t e t' := by
  obtain ⟨_ | span, new⟩ := e
  · exact ⟨new, .whole t new⟩
  · by_cases ignores : t.Ignores span
    · exact ⟨t, .ignored new ignores⟩
    · obtain ⟨before, old, after, rfl, start, stop⟩ := exists_cut_of_not_ignores ignores
      exact ⟨_, .replaced new (clamps_iff.mpr start) (clamps_iff.mpr stop)⟩

/-- An edit has its effect, and no slice on the way fails. -/
theorem Effect.result (effect : Effect t e t') :
    t.edited e = t' ∧ Checked.edited t e = some t' := by
  cases effect with
  | whole t new => exact ⟨rfl, rfl⟩
  | @replaced before old after span new start stop =>
      rw [clamps_iff] at start stop
      have ordered : byteSize before ≤ byteSize (before ++ old) := by
        rw [byteSize_append]
        exact Nat.le_add_right _ _
      simp only [edited, Checked.edited, Checked.offsetAt_eq, start, stop, if_pos ordered,
        Option.bind_eq_bind, Option.bind_some]
      exact ⟨replace_span before old after new, Checked.replace_span before old after new⟩
  | @ignored t span new ignores =>
      have reversed := ignores_iff.mp ignores
      simp only [edited, Checked.edited, Checked.offsetAt_eq, Option.bind_eq_bind,
        Option.bind_some]
      cases found : offsetAt? t span.start with
      | none => exact ⟨rfl, rfl⟩
      | some start =>
          cases found' : offsetAt? t span.stop with
          | none => exact ⟨rfl, rfl⟩
          | some stop =>
              have apart : ¬start ≤ stop := Nat.not_le.mpr (reversed start stop found found')
              exact ⟨if_neg apart, if_neg apart⟩

theorem effect_iff : Effect t e t' ↔ t' = t.edited e := by
  constructor
  · intro effect
    exact effect.result.1.symm
  · rintro rfl
    obtain ⟨t', effect⟩ := exists_effect t e
    exact effect.result.1.symm ▸ effect

theorem effects_iff : Effects t edits t' ↔ t' = edits.foldl edited t := by
  induction edits generalizing t with
  | nil =>
      constructor
      · rintro ⟨⟩
        rfl
      · rintro rfl
        exact .nil _
  | cons e edits ih =>
      constructor
      · intro effects
        cases effects with
        | cons first later =>
            obtain rfl := effect_iff.mp first
            exact ih.mp later
      · intro result
        exact .cons (effect_iff.mpr rfl) (ih.mpr result)

end Edit

theorem Text.Checked.edited_eq (t : Text) (e : Edit) : Checked.edited t e = some (t.edited e) :=
  (Edit.effect_iff.mpr rfl).result.2

namespace Document

/-- The document after a batch of edits; none if a slice on the way fails. -/
def change? (d : Document) (edits : List Edit) (version : Int) : Option Document := do
  let text ← edits.foldlM Checked.edited d.text
  return { d with text, version }

theorem change?_eq (d : Document) (edits : List Edit) (version : Int) :
    d.change? edits version = some (d.change edits version) := by
  have total : Checked.edited = fun t e => pure (t.edited e) := by
    funext t e
    exact Checked.edited_eq t e
  rw [change?, total, List.foldlM_pure]
  rfl

/-- A batch of edits with any positions never slices a text off its boundaries. Each edit has its
effect on the text that the ones before it left, and the document takes the version. A span in
reading order is ignored only if a line of it is missing. -/
theorem change_effects (d : Document) (edits : List Edit) (version : Int) :
    d.change? edits version = some (d.change edits version) ∧
    (∀ t, Edit.Effects d.text edits t ↔ t = (d.change edits version).text) ∧
    (d.change edits version).version = version ∧ (d.change edits version).uri = d.uri ∧
    ∀ (t : Text) (span : Span), span.start = span.stop ∨ span.start.before span.stop →
      t.Ignores span → t.Lacks span.start ∨ t.Lacks span.stop := by
  refine ⟨change?_eq d edits version, fun t => Edit.effects_iff, rfl, rfl, ?_⟩
  intro t span ordered ignores
  exact ignores.lacks ordered

/-- Of three edits the first names a line beyond the text, the second is reversed, and the third
begins inside a face, so it leaves the face as it is. -/
theorem change_effects_face :
    let uri : Uri := ⟨['f', 'i', 'l', 'e'], none, ['/', 'a'], none, none⟩
    let d : Document := ⟨uri, "a😀\r\nb".toList, 1⟩
    let beyond : Span := ⟨⟨0, 2⟩, ⟨7, 0⟩⟩
    let edits : List Edit := [⟨some beyond, ['x']⟩, ⟨some ⟨⟨1, 9⟩, ⟨0, 0⟩⟩, ['y']⟩,
      ⟨some ⟨⟨0, 2⟩, ⟨1, 0⟩⟩, ['é']⟩]
    beyond.start.before beyond.stop ∧ d.text.Ignores beyond ∧
      (d.text.Lacks beyond.start ∨ d.text.Lacks beyond.stop) ∧
      Edit.Effects d.text edits "a😀éb".toList ∧
      d.change? edits 7 = some ⟨uri, "a😀éb".toList, 7⟩ := by
  intro uri d beyond edits
  obtain ⟨total, effects, _, _, missing⟩ := change_effects d edits 7
  have ordered : beyond.start.before beyond.stop := by decide
  have ignores : d.text.Ignores beyond := .inr (.inl (by unfold Lacks; decide))
  have result : d.change edits 7 = ⟨uri, "a😀éb".toList, 7⟩ := by decide +kernel
  refine ⟨ordered, ignores, missing d.text beyond (.inr ordered) ignores, ?_, ?_⟩
  · exact (effects _).mpr (by rw [result])
  · rw [total, result]

end Document

end AutoItNav
