import AutoItNav.Proofs.Document.Store
import AutoItNav.Proofs.Text.Projection
import AutoItNav.Server.Handler
import Mathlib.Logic.Function.Basic

/-!
Keeping documents in step with a client. The client tells where it edits in positions of its own
text; whatever it opens, edits and closes, the store holds the texts that the client has.
-/
namespace AutoItNav

/-- What a client tells about its documents. -/
inductive DocumentNotice where
  | opened (document : Document)
  | changed (uri : Uri) (edits : List Edit) (version : Int)
  | closed (uri : Uri)

namespace DocumentNotice

def uri : DocumentNotice → Uri
  | opened document => document.uri
  | changed uri _ _ => uri
  | closed uri => uri

def handler : DocumentNotice → Server.Handler
  | opened document => Server.openHandler document
  | changed uri edits version => Server.changeHandler uri edits version
  | closed uri => Server.closeHandler uri

def update (s : Store) : DocumentNotice → Store
  | opened document => s.insert document
  | changed uri edits version => s.change uri edits version
  | closed uri => s.close uri

theorem get?_update_other {n : DocumentNotice} {uri : Uri} (other : n.uri ≠ uri) (s : Store) :
    (n.update s).get? uri = s.get? uri := by
  cases n with
  | opened document => exact (Store.get?_insert s uri document).trans (if_neg other)
  | changed named edits version =>
      exact (Store.get?_change s named uri edits version).trans (if_neg other)
  | closed named => exact (Store.get?_close s named uri).trans (if_neg other)

theorem get?_update_congr {n : DocumentNotice} {s s' : Store}
    (same : s.get? n.uri = s'.get? n.uri) : (n.update s).get? n.uri = (n.update s').get? n.uri := by
  cases n with
  | opened document =>
      simp only [update, uri, Store.get?_insert, ↓reduceIte]
  | changed named edits version =>
      simp only [update, uri, Store.get?_change, ↓reduceIte] at same ⊢
      rw [same]
  | closed named =>
      simp only [update, uri, Store.get?_close, ↓reduceIte]

end DocumentNotice

namespace Server.Shared

def take (shared : Shared) (n : DocumentNotice) : Shared := (n.handler.run shared).1

theorem take_eq (shared : Shared) (n : DocumentNotice) :
    shared.take n = { shared with documents := n.update shared.documents } := by
  unfold take
  cases n with
  | opened document =>
      simp only [DocumentNotice.handler, openHandler, Handler.run, DocumentNotice.update]
      split <;> rfl
  | changed uri edits version => rfl
  | closed uri => rfl

def replay (shared : Shared) (notices : List DocumentNotice) : Shared :=
  notices.foldl take shared

end Server.Shared

namespace Text

theorem splitAtByte_boundary (back before after : Text) :
    splitAtByte back (byteSize before) (before ++ after) = (back.reverse ++ before, after) := by
  induction before generalizing back with
  | nil => simp [splitAtByte]
  | cons c before ih =>
      obtain ⟨n, size⟩ : ∃ n, c.utf8Size + byteSize before = n + 1 :=
        Nat.exists_eq_succ_of_ne_zero (by have := c.utf8Size_pos; omega)
      have rest : n + 1 - c.utf8Size = byteSize before := by omega
      rw [byteSize_cons, size, List.cons_append, splitAtByte, rest, ih]
      simp

theorem replace_span (before old after new : Text) :
    (before ++ old ++ after).replace (byteSize before) (byteSize (before ++ old)) new =
      before ++ new ++ after := by
  have first := splitAtByte_boundary [] before (old ++ after)
  have second := splitAtByte_boundary [] old after
  have length : byteSize (before ++ old) - byteSize before = byteSize old := by
    rw [byteSize_append, Nat.add_sub_cancel_left]
  simp only [replace, length, List.append_assoc, first, second]
  simp

end Text

/-- The edit that puts `new` in the place of the bytes of `t` from `start` up to `stop`, told in
positions of `t`. -/
def Edit.over (t : Text) (start stop : Nat) (new : Text) : Edit :=
  ⟨some ⟨t.positionAt start, t.positionAt stop⟩, new⟩

/-- One edit as a client makes it: its own text before, what it sends and its own text after. -/
inductive Edit.Made : Text → Edit → Text → Prop
  | whole (t new : Text) : Made t ⟨none, new⟩ new
  | span {t : Text} (before old after new : Text) (cut : t = before ++ old ++ after)
      (small : t.byteSize < UInt32.size) :
      Made t (.over t (Text.byteSize before) (Text.byteSize (before ++ old)) new)
        (before ++ new ++ after)

/-- The edits of one batch, each made to the text that the one before it left. -/
inductive Edit.MadeAll : Text → List Edit → Text → Prop
  | nil (t : Text) : MadeAll t [] t
  | cons {t t' t'' : Text} {e : Edit} {edits : List Edit} :
      Made t e t' → MadeAll t' edits t'' → MadeAll t (e :: edits) t''

theorem Text.edited_of_made {t t' : Text} {e : Edit} (made : e.Made t t') :
    t.edited e = t' := by
  cases made with
  | whole => rfl
  | span before old after new cut small =>
      subst cut
      rw [byteSize_append, byteSize_append] at small
      have start : offsetAt? (before ++ old ++ after)
          (positionAt (before ++ old ++ after) (byteSize before)) = some (byteSize before) := by
        rw [List.append_assoc]
        exact offsetAt?_positionAt (by omega)
      have stop : offsetAt? (before ++ old ++ after)
          (positionAt (before ++ old ++ after) (byteSize (before ++ old))) =
            some (byteSize (before ++ old)) :=
        offsetAt?_positionAt (by rw [byteSize_append]; omega)
      have ordered : byteSize before ≤ byteSize (before ++ old) := by
        rw [byteSize_append]
        omega
      simp only [edited, Edit.over, start, stop, if_pos ordered]
      exact replace_span before old after new

theorem Text.foldl_edited_of_madeAll {t t' : Text} {edits : List Edit}
    (made : Edit.MadeAll t edits t') : edits.foldl edited t = t' := by
  induction made with
  | nil t => rfl
  | cons first rest ih => rw [List.foldl_cons, edited_of_made first, ih]

/-- The documents that a client has open, each with its text and the version sent last. -/
abbrev Client := Uri → Option (Text × Int)

namespace Client

def initial : Client := fun _ => none

/-- What a client does when it sends a notice. -/
inductive Sends : Client → DocumentNotice → Client → Prop
  | opens (c : Client) (uri : Uri) (text : Text) (version : Int) :
      Sends c (.opened ⟨uri, text, version⟩) (Function.update c uri (some (text, version)))
  | edits {c : Client} {uri : Uri} {text text' : Text} {last : Int} {batch : List Edit}
      (isOpen : c uri = some (text, last)) (made : Edit.MadeAll text batch text')
      (version : Int) :
      Sends c (.changed uri batch version) (Function.update c uri (some (text', version)))
  | strays {c : Client} {uri : Uri} (notOpen : c uri = none) (batch : List Edit)
      (version : Int) : Sends c (.changed uri batch version) c
  | closes (c : Client) (uri : Uri) : Sends c (.closed uri) (Function.update c uri none)

inductive Run : Client → List DocumentNotice → Client → Prop
  | done (c : Client) : Run c [] c
  | send {c c' c'' : Client} {n : DocumentNotice} {later : List DocumentNotice} :
      Sends c n c' → Run c' later c'' → Run c (n :: later) c''

theorem Run.split {c c'' : Client} {early later : List DocumentNotice}
    (run : Run c (early ++ later) c'') : ∃ c', Run c early c' ∧ Run c' later c'' := by
  induction early generalizing c with
  | nil => exact ⟨c, .done c, run⟩
  | cons n early ih =>
      cases run with
      | send first rest =>
          obtain ⟨c', before, after⟩ := ih rest
          exact ⟨c', .send first before, after⟩

end Client

/-- The store holds what the client has open and nothing else. -/
def Store.Mirrors (s : Store) (c : Client) : Prop :=
  ∀ uri, s.get? uri = (c uri).map fun (text, version) => ⟨uri, text, version⟩

theorem Store.Mirrors.update {s : Store} {c c' : Client} {n : DocumentNotice}
    (mirrors : s.Mirrors c) (sent : c.Sends n c') : (n.update s).Mirrors c' := by
  intro asked
  have before := mirrors asked
  cases sent with
  | opens uri text version =>
      rw [DocumentNotice.update, get?_insert, Function.update_apply]
      by_cases same : uri = asked
      · simp [same]
      · simpa [same, Ne.symm same] using before
  | @edits uri text text' last batch isOpen made version =>
      rw [DocumentNotice.update, get?_change, Function.update_apply]
      by_cases same : uri = asked
      · subst same
        rw [isOpen] at before
        simp [before, Document.change, Text.foldl_edited_of_madeAll made]
      · simpa [same, Ne.symm same] using before
  | @strays uri notOpen batch version =>
      have absent : s.get? uri = none := by rw [mirrors uri, notOpen]; rfl
      rw [DocumentNotice.update, change_of_not_open absent]
      exact before
  | closes uri =>
      rw [DocumentNotice.update, get?_close, Function.update_apply]
      by_cases same : uri = asked
      · simp [same]
      · simpa [same, Ne.symm same] using before

theorem Server.Shared.mirrors_replay (shared : Server.Shared) {c c' : Client}
    {notices : List DocumentNotice} (mirrors : shared.documents.Mirrors c)
    (run : c.Run notices c') : (shared.replay notices).documents.Mirrors c' := by
  induction run generalizing shared with
  | done c => exact mirrors
  | @send c c' c'' n later sent rest ih =>
      apply ih (shared.take n)
      rw [Server.Shared.take_eq]
      exact mirrors.update sent

/-- However a client's messages about any number of documents follow each other, after each part of
them the server holds, under every URI, the client's own text with the version sent last. -/
theorem replay_mirrors_client (settings : Settings) {early later : List DocumentNotice}
    {c : Client} (run : Client.initial.Run (early ++ later) c) :
    ∃ now, Client.initial.Run early now ∧ now.Run later c ∧
      let shared := Server.Shared.replay ⟨.empty, settings⟩ early
      (∀ uri text version, now uri = some (text, version) →
        shared.documents.get? uri = some ⟨uri, text, version⟩) ∧
      (∀ uri, now uri = none → shared.documents.get? uri = none ∧
        ∀ batch version, shared.take (.changed uri batch version) = shared) ∧
      ∀ (n : DocumentNotice) (uri : Uri), n.uri ≠ uri →
        (shared.take n).documents.get? uri = shared.documents.get? uri := by
  obtain ⟨now, before, after⟩ := run.split
  have mirrors := Server.Shared.mirrors_replay ⟨.empty, settings⟩ (fun _ => rfl) before
  refine ⟨now, before, after, ?_, ?_, ?_⟩
  · intro uri text version isOpen
    rw [mirrors uri, isOpen]
    rfl
  · intro uri notOpen
    have absent := mirrors uri
    rw [notOpen] at absent
    refine ⟨absent, fun batch version => ?_⟩
    rw [Server.Shared.take_eq, DocumentNotice.update, Store.change_of_not_open absent]
  · intro n uri other
    rw [Server.Shared.take_eq]
    exact DocumentNotice.get?_update_other other _

/-- Two edits in one batch: the first shortens a line, so the second is placed in a text that the
client has never sent. -/
theorem replay_mirrors_client_batch :
    let uri : Uri := ⟨['f', 'i', 'l', 'e'], none, ['/', 'a'], none, none⟩
    let notices : List DocumentNotice :=
      [.opened ⟨uri, ['a', '😀', '\r', '\n', 'b'], 1⟩,
        .changed uri [⟨some ⟨⟨0, 1⟩, ⟨0, 3⟩⟩, ['é']⟩, ⟨some ⟨⟨0, 2⟩, ⟨1, 1⟩⟩, ['c', 'd']⟩] 2]
    (∃ c, Client.initial.Run notices c) ∧
      (Server.Shared.replay ⟨.empty, .standard⟩ notices).documents.get? uri =
        some ⟨uri, ['a', 'é', 'c', 'd'], 2⟩ := by
  intro uri notices
  have batch : Edit.MadeAll ['a', '😀', '\r', '\n', 'b']
      [⟨some ⟨⟨0, 1⟩, ⟨0, 3⟩⟩, ['é']⟩, ⟨some ⟨⟨0, 2⟩, ⟨1, 1⟩⟩, ['c', 'd']⟩]
      ['a', 'é', 'c', 'd'] :=
    .cons (.span ['a'] ['😀'] ['\r', '\n', 'b'] ['é'] rfl (by decide))
      (.cons (.span ['a', 'é'] ['\r', '\n', 'b'] [] ['c', 'd'] rfl (by decide)) (.nil _))
  have run : Client.initial.Run (notices ++ []) _ :=
    .send (.opens _ uri _ 1) (.send (.edits (Function.update_self ..) batch 2) (.done _))
  refine ⟨⟨_, run⟩, ?_⟩
  obtain ⟨now, _, after, holds, _⟩ := replay_mirrors_client .standard run
  cases after
  exact holds uri _ 2 (Function.update_self ..)

end AutoItNav
