import AutoItNav.Proofs.Server.Step
import AutoItNav.Proofs.Settings.Layout

/-!
A session seen from what it was told. Its answers depend on the notices about the document asked
for and on the payloads of settings, folded in their order, and on nothing else that went on.
-/
namespace AutoItNav

deriving instance DecidableEq for DocumentNotice

namespace DocumentNotice

/-- The text under the URI of a notice, from the one that was there. -/
def textAfter (text : Option Text) : DocumentNotice → Option Text
  | opened document => some document.text
  | changed _ edits _ => text.map fun t => edits.foldl Text.edited t
  | closed _ => none

theorem text_update (n : DocumentNotice) (s : Store) :
    ((n.update s).get? n.uri).map Document.text =
      textAfter ((s.get? n.uri).map Document.text) n := by
  cases n with
  | opened document => simp [update, uri, textAfter, Store.get?_insert]
  | changed uri edits version =>
      simp [update, DocumentNotice.uri, textAfter, Store.get?_change, Option.map_map,
        Function.comp_def, Document.change]
  | closed uri => simp [update, DocumentNotice.uri, textAfter, Store.get?_close]

end DocumentNotice

namespace Server

/-- The notices about one document among calls. -/
def noticesOf (uri : Uri) (calls : List (Call × Nat)) : List DocumentNotice :=
  (calls.filterMap (·.1.notice?)).filter (·.uri = uri)

namespace Shared

theorem text_hear (shared : Shared) (timed : Call × Nat) (uri : Uri) :
    ((shared.hear timed.1).documents.get? uri).map Document.text =
      (noticesOf uri [timed]).foldl DocumentNotice.textAfter
        ((shared.documents.get? uri).map Document.text) := by
  cases told : timed.1.notice? with
  | none => simp [hear, noticesOf, told]
  | some n =>
      by_cases about : n.uri = uri
      · subst about
        simp [hear, noticesOf, told, DocumentNotice.text_update]
      · simp [hear, noticesOf, told, about, DocumentNotice.get?_update_other about]

def hearAll (shared : Shared) (calls : List (Call × Nat)) : Shared :=
  calls.foldl (fun shared timed => shared.hear timed.1) shared

theorem text_hearAll (shared : Shared) (calls : List (Call × Nat)) (uri : Uri) :
    ((shared.hearAll calls).documents.get? uri).map Document.text =
      (noticesOf uri calls).foldl DocumentNotice.textAfter
        ((shared.documents.get? uri).map Document.text) := by
  induction calls generalizing shared with
  | nil => rfl
  | cons timed calls ih =>
      have split : noticesOf uri (timed :: calls) =
          noticesOf uri [timed] ++ noticesOf uri calls := by
        rw [noticesOf, noticesOf, noticesOf, ← List.filter_append, ← List.filterMap_append]
        rfl
      rw [split, List.foldl_append, ← text_hear]
      exact ih (shared.hear timed.1)

theorem settings_hearAll (shared : Shared) (calls : List (Call × Nat)) :
    (shared.hearAll calls).settings =
      (calls.filterMap (·.1.payload?)).foldl Settings.merged shared.settings := by
  induction calls generalizing shared with
  | nil => rfl
  | cons timed calls ih =>
      refine (ih (shared.hear timed.1)).trans ?_
      cases given : timed.1.payload? with
      | none => simp [hear, given]
      | some payload => simp [hear, given]

end Shared

namespace Session

theorem after_of_ready (fs : FileSystem) {s : Session} {calls : List (Call × Nat)}
    (ready : s.phase = .ready) (goesOn : ∀ timed ∈ calls, timed.1.ends = false) :
    (s.after fs calls).phase = .ready ∧ (s.after fs calls).shared = s.shared.hearAll calls := by
  induction calls generalizing s with
  | nil => exact ⟨ready, rfl⟩
  | cons timed calls ih =>
      obtain ⟨tally, stepped⟩ :=
        step_of_ready fs ready (goesOn timed List.mem_cons_self) timed.2
      -- the first call leaves a ready session, so the later ones find what it told
      have still : (s.step fs timed).1.phase = .ready := by rw [stepped]; exact ready
      have heard : (s.step fs timed).1.shared = s.shared.hear timed.1 := by rw [stepped]
      obtain ⟨phase, shared⟩ :=
        ih still fun later member => goesOn later (List.mem_cons_of_mem timed member)
      exact ⟨phase, shared.trans (by rw [heard]; rfl)⟩

/-- The request that starts a session makes it ready, with no document open. -/
theorem step_start (fs : FileSystem) (echo : Bool) {opening : Call × Nat} {options : Option Json}
    (initializes : opening.1.Initializes options) :
    ((start echo).step fs opening).1 =
      ⟨.ready, ⟨.empty, .initial options⟩, .zero, echo⟩ := by
  obtain ⟨named, awaited, readable⟩ := initializes
  have known : Method.ofName? opening.1.method = some .start := by rw [named]; rfl
  simp [step, receive, start, begin, known, awaited, readable]

end Session

/-- What a provider that has served nothing before makes of a place. -/
def provided (fs : FileSystem) (script : Script) (p : Position) (layout : Layout) :
    Option Location :=
  ((Tally.zero.serve (.place script p layout) 0).run fs).1.1.location

theorem provided_eq (fs : FileSystem) (script : Script) (p : Position) (layout : Layout) :
    provided fs script p layout = ((script.answerAt p layout).run fs).1.location := by
  simp [provided, Tally.serve, Request.answer]

/-- A session up to some moment before its end: the request that started it, with its options, and
the calls since then, each with the time that finding an answer takes. -/
structure Conversation where
  echo : Bool
  opening : Call × Nat
  options : Option Json
  calls : List (Call × Nat)
  initializes : opening.1.Initializes options
  goesOn : ∀ timed ∈ calls, timed.1.ends = false

namespace Conversation

def session (c : Conversation) (fs : FileSystem) : Session :=
  (Session.start c.echo).after fs (c.opening :: c.calls)

/-- What the next call brings about. -/
def next (c : Conversation) (fs : FileSystem) (timed : Call × Nat) : Session × Outcome :=
  (c.session fs).step fs timed

def notices (c : Conversation) (uri : Uri) : List DocumentNotice := noticesOf uri c.calls

def payloads (c : Conversation) : List Json :=
  c.options.toList ++ c.calls.filterMap (·.1.payload?)

/-- The text under a URI, if it is open. -/
def text? (c : Conversation) (uri : Uri) : Option Text :=
  (c.notices uri).foldl DocumentNotice.textAfter none

def settings (c : Conversation) : Settings := c.payloads.foldl Settings.merged .standard

variable (c : Conversation) (fs : FileSystem)

theorem session_spec :
    (c.session fs).phase = .ready ∧
      (c.session fs).shared = Shared.hearAll ⟨.empty, .initial c.options⟩ c.calls := by
  have started := Session.step_start fs c.echo c.initializes
  have gone := Session.after_of_ready fs (s := ((Session.start c.echo).step fs c.opening).1)
    (by rw [started]) c.goesOn
  exact ⟨gone.1, gone.2.trans (by rw [started])⟩

theorem text_session (uri : Uri) :
    ((c.session fs).shared.documents.get? uri).map Document.text = c.text? uri := by
  rw [(c.session_spec fs).2, Shared.text_hearAll]
  rfl

theorem settings_session : (c.session fs).shared.settings = c.settings := by
  rw [(c.session_spec fs).2, Shared.settings_hearAll, settings, payloads, List.foldl_append]
  congr 1
  cases c.options <;> rfl

theorem locate_session (uri : Uri) (p : Position) :
    (c.session fs).shared.locate fs uri p =
      (c.text? uri).bind fun text => provided fs ⟨uri, text⟩ p c.settings.layout := by
  rw [Shared.locate, ← c.text_session fs, ← c.settings_session fs, Option.bind_map]
  cases found : (c.session fs).shared.documents.get? uri with
  | none => rfl
  | some document => 
      simp [provided_eq, Document.script, Store.uri_of_get? found]

theorem reply_next {request : Call} {uri : Uri} {p : Position}
    (asks : request.question? = some (uri, p)) (elapsed : Nat) :
    (c.next fs (request, elapsed)).2.reply =
      some (.result (.orNull locationJson ((c.text? uri).bind fun text =>
        provided fs ⟨uri, text⟩ p c.settings.layout))) := by
  rw [next, Session.reply_of_ready fs (c.session_spec fs).1 asks, locate_session]

theorem layout_settings :
    c.settings.layout =
      (c.payloads.map Settings.layoutPatches).foldl Layout.merged .standard :=
  Settings.layout_foldl_merged .standard c.payloads

/-- What a session answers follows from the text and the layout that it was told, as a provider
without a past finds it, and no request changes what later answers follow from. Neither requests,
nor other documents, nor levels, nor the echo tell two sessions apart. -/
theorem reply_stateless {request : Call} {uri : Uri} {p : Position}
    (asks : request.question? = some (uri, p)) (elapsed : Nat) :
    (c.text? uri = none → (c.next fs (request, elapsed)).2.reply = some (.result .null)) ∧
      (∀ text, c.text? uri = some text → (c.next fs (request, elapsed)).2.reply =
        some (.result (.orNull locationJson (provided fs ⟨uri, text⟩ p c.settings.layout)))) ∧
      (∀ (other : Conversation) (again : Call) (took : Nat),
        other.notices uri = c.notices uri →
        other.payloads.map Settings.layoutPatches = c.payloads.map Settings.layoutPatches →
        again.question? = some (uri, p) →
        (other.next fs (again, took)).2.reply = (c.next fs (request, elapsed)).2.reply) ∧
      ∀ (call : Call) (took : Nat), call.awaitsReply = true → call.ends = false →
        (c.next fs (call, took)).1.shared = (c.session fs).shared := by
  have replied := c.reply_next fs asks elapsed
  refine ⟨?_, ?_, ?_, ?_⟩
  · intro closed
    rw [replied, closed]
    rfl
  · intro text isOpen
    rw [replied, isOpen]
    rfl
  · intro other again took notices payloads asksAgain
    have texts : other.text? uri = c.text? uri := by rw [text?, notices, text?]
    have layouts : other.settings.layout = c.settings.layout := by
      rw [layout_settings, payloads, layout_settings]
    rw [other.reply_next fs asksAgain, replied, texts, layouts]
  · intro call took awaited goesOn
    obtain ⟨tally, stepped⟩ :=
      Session.step_of_ready fs (c.session_spec fs).1 goesOn took
    rw [next, stepped]
    exact Shared.hear_of_quiet (Call.notice?_of_awaitsReply awaited)
      (Call.payload?_of_awaitsReply awaited) _

/-- An unsaved edit counts at once and alike in two sessions, one of them with another level, with
the echo on, with a second document that declares the same name and with a request on the way. -/
theorem reply_stateless_unsaved :
    let about (uri : String) (fields : List (String × Json)) : String × Json :=
      ("textDocument", .object (("uri", .string uri) :: fields))
    let opened (uri text : String) : Call :=
      ⟨"textDocument/didOpen", some (.object [about uri [("languageId", .string "autoit"),
        ("version", .integer 1), ("text", .string text)]]), false⟩
    let changed (uri text : String) : Call :=
      ⟨"textDocument/didChange", some (.object [about uri [("version", .integer 2)],
        ("contentChanges", .array [.object [("text", .string text)]])]), false⟩
    let asked (method : String) : Call :=
      ⟨method, some (.object [about "file:///p/a.au3" [], ("position", positionJson ⟨1, 0⟩)]),
        true⟩
    let opening (options : Json) : Call :=
      ⟨"initialize", some (.object [("capabilities", .object []),
        ("initializationOptions", options)]), true⟩
    let level : Json := .object [("logging", .object [("level", .string "error")])]
    let edited : Call × Nat := (changed "file:///p/a.au3" "Func go()\ngo()", 0)
    let plain : Conversation :=
      { echo := false
        opening := (opening (.object []), 0)
        options := some (.object [])
        calls := [(opened "file:///p/a.au3" "", 0), edited]
        initializes := ⟨rfl, rfl, rfl⟩
        goesOn := by decide +kernel }
    let busy : Conversation :=
      { echo := true
        opening := (opening level, 0)
        options := some level
        calls := [(opened "file:///p/a.au3" "", 0), (opened "file:///p/b.au3" "Func go()", 0),
          (asked "textDocument/definition", 5), edited]
        initializes := ⟨rfl, rfl, rfl⟩
        goesOn := by decide +kernel }
    let uri : Uri := ⟨"file".toList, some ⟨[], [], none⟩, "/p/a.au3".toList, none, none⟩
    let fs : FileSystem := ⟨fun _ => none, fun _ => none, fun _ => false⟩
    let answer : Reply := .result (locationJson ⟨uri, ⟨⟨0, 5⟩, ⟨0, 7⟩⟩⟩)
    (plain.next fs (asked "textDocument/definition", 0)).2.reply = some answer ∧
      (busy.next fs (asked "textDocument/declaration", 7)).2.reply = some answer := by
  intro about opened changed asked opening level edited plain busy uri fs answer
  have definition : (asked "textDocument/definition").question? = some (uri, ⟨1, 0⟩) := by
    decide +kernel
  have declaration : (asked "textDocument/declaration").question? = some (uri, ⟨1, 0⟩) := by
    decide +kernel
  have text : plain.text? uri = some "Func go()\ngo()".toList := by decide +kernel
  have place : provided fs ⟨uri, "Func go()\ngo()".toList⟩ ⟨1, 0⟩ plain.settings.layout =
      some ⟨uri, ⟨⟨0, 5⟩, ⟨0, 7⟩⟩⟩ := by decide +kernel
  have notices : busy.notices uri = plain.notices uri := by decide +kernel
  have payloads : busy.payloads.map Settings.layoutPatches =
      plain.payloads.map Settings.layoutPatches := by decide +kernel
  obtain ⟨-, isOpen, alike, -⟩ := plain.reply_stateless fs definition 0
  have reply := (isOpen _ text).trans (by rw [place])
  exact ⟨reply, (alike busy _ 7 notices payloads declaration).trans reply⟩

end Conversation

end Server

end AutoItNav
