import AutoItNav.Proofs.Declaration.Captured
import AutoItNav.Proofs.Text.Rows

/-!
What a search finds is written in the text, whatever characters the name has: at the reported place
stands a declaration, and in it a spelling of the name.
-/
namespace AutoItNav

namespace Declaration

open Text

/-- The declared name is spelled at the offset and with the length that the declaration gives. -/
structure Spells (d : Declaration) (s : Spelling) (name t before spelled after : Text) : Prop where
  cut : t = before ++ spelled ++ after
  reads : s.Reads name spelled
  offset : d.offset = byteSize before
  length : d.length = byteSize spelled

end Declaration

namespace Identifier

open Declaration Text

variable {id : Identifier} {t : Text}

theorem DeclaredAt.spelled {h : Head} (declared : id.DeclaredAt t h) :
    ∃ lead spelled after, t = lead ++ spelled ++ after ∧ '\n' ∉ lead ∧
      id.spelling.Reads id.text spelled ∧ h.keyword = byteSize lead ∧
      h.name = byteSize spelled := by
  unfold DeclaredAt at declared
  unfold spelling
  match kind : id.kind with
  | .variable =>
      rw [kind] at declared
      obtain ⟨keyword, gap, _, rfl, scope, spelled, after, rfl, reads, _, _, rfl⟩ := declared
      exact ⟨keyword ++ gap, spelled, after, (List.append_assoc ..).symm, unbroken_scope scope,
        reads, rfl, rfl⟩
  | .function =>
      rw [kind] at declared
      obtain ⟨gap, space, body, rfl, _, blank, _, _, rfl⟩ := declared
      exact ⟨funcKeyword ++ gap, id.text, space ++ '(' :: body, List.append_assoc ..,
        List.not_mem_append (by decide) blank.unbroken, rfl, rfl, rfl⟩

/-- The name is spelled on the row that its declaration starts on. -/
theorem Declares.spelled {d : Declaration} (declared : id.Declares t d) :
    ∃ before spelled after, d.Spells id.spelling id.text t before spelled after ∧
      t.row d.start = before.count '\n' := by
  obtain ⟨above, lower, rfl, _, line, rest, rfl, clear, declared, start⟩ := declared
  obtain ⟨lead, spelled, after, rfl, single, reads, keyword, length⟩ := declared.spelled
  refine ⟨above ++ line ++ lead, spelled, after, ⟨?_, reads, ?_, length⟩, ?_⟩
  · simp only [List.append_assoc]
  · rw [Declaration.offset, start, byteSize_append, byteSize_append, ← keyword]
  · rw [start, ← byteSize_append, ← List.append_assoc, row_boundary, List.count_append,
      List.count_append, List.count_append, List.count_eq_zero.mpr single, Nat.add_zero]

namespace Cursor

/-- Both the current line and the text ahead are the rest of the whole text from some place on, the
line from its start. -/
structure Within (whole : Text) (cur : Cursor) (here : Nat) (ahead : Text) : Prop where
  line : ∃ above, whole = above ++ cur.line ∧ LineStart above ∧ cur.lineStart = byteSize above
  ahead : ∃ passed, whole = passed ++ ahead ∧ here = byteSize passed

variable {whole : Text} {cur : Cursor} {here : Nat} {c : Char}

theorem Within.step (inside : Within whole cur here (c :: t)) :
    Within whole (cur.step c (here + c.utf8Size) t) (here + c.utf8Size) t := by
  obtain ⟨passed, cut, place⟩ := inside.ahead
  have next : whole = passed ++ [c] ++ t ∧ here + c.utf8Size = byteSize (passed ++ [c]) := by
    simp [cut, place]
  refine ⟨?_, passed ++ [c], next⟩
  unfold Cursor.step
  split
  · next newline =>
      subst c
      exact ⟨passed ++ ['\n'], next.1, lineStart_snoc passed, next.2⟩
  · exact inside.line

theorem Within.occurred {n : Nat} {tried : Bool} (inside : Within whole cur here t) :
    Within whole { cur with within := n, tried } here t :=
  ⟨inside.line, inside.ahead⟩

theorem Within.declares {d : Declaration} (inside : Within whole cur here t)
    (found : id.tryLine cur.lineStart cur.line = .ok (some d)) : id.Declares whole d := by
  obtain ⟨above, cut, start, place⟩ := inside.line
  have first := id.firstOf_declarationOnLine? cur.lineStart cur.line
  rw [← tryLine_eq_ok found, place] at first
  exact ⟨above, cur.line, cut, start, first.1⟩

end Cursor

theorem declares_of_search {whole : Text} {cur : Cursor} {here : Nat} {d : Declaration}
    (inside : cur.Within whole here t) (found : id.search cur here t = .ok (some d)) :
    id.Declares whole d := by
  induction t generalizing cur here with
  | nil => cases found
  | cons c t ih =>
      rw [search] at found
      dsimp only at found
      split at found
      · split at found
        · exact ih inside.occurred.step found
        · split at found
          · exact ih inside.occurred.step found
          · exact inside.declares found
      · exact ih inside.step found

/-- A declaration found is one that is written, also when the name holds line breaks. -/
theorem declares_of_find {d : Declaration} (found : id.find t = .ok (some d)) :
    id.Declares t d :=
  declares_of_search ⟨⟨[], rfl, lineStart_nil, rfl⟩, [], rfl, rfl⟩ found

end Identifier

end AutoItNav
