import AutoItNav.Proofs.Document.Synchrony
import AutoItNav.Proofs.Files.Run
import AutoItNav.Server.Session

/-!
What one call does to a ready session. Notifications tell of documents or bring settings, and only
they change what handlers share; requests are answered from it and leave it as it is.
-/
namespace AutoItNav.Server

namespace Call

/-- What a call tells of documents; a call that awaits a reply tells nothing. -/
def notice? (call : Call) : Option DocumentNotice :=
  if call.awaitsReply then none
  else match Method.ofName? call.method with
    | some .opened => (call.params.bind Server.opened?).map .opened
    | some .changed => (call.params.bind change?).map fun c => .changed c.uri c.edits c.version
    | some .closed => (call.params.bind closed?).map .closed
    | _ => none

/-- The payload of a change of settings. -/
def payload? (call : Call) : Option Json :=
  if call.awaitsReply then none
  else match Method.ofName? call.method with
    | some .configuration => call.params.bind configuration?
    | _ => none

/-- The place whose definition or declaration a call asks for. -/
def question? (call : Call) : Option (Uri × Position) :=
  if !call.awaitsReply then none
  else match Method.ofName? call.method with
    | some .definition | some .declaration => call.params.bind definition?
    | _ => none

/-- Whether a call brings the session to its end. -/
def ends (call : Call) : Bool :=
  match Method.ofName? call.method with
  | some .shutdown | some .exit => true
  | _ => false

/-- A request that starts a session, with the options that it gives. -/
structure Initializes (call : Call) (options : Option Json) : Prop where
  method : call.method = "initialize"
  awaited : call.awaitsReply = true
  readable : call.params.bind initialization? = some options

theorem notice?_of_awaitsReply {call : Call} (awaited : call.awaitsReply = true) :
    call.notice? = none := if_pos awaited

theorem payload?_of_awaitsReply {call : Call} (awaited : call.awaitsReply = true) :
    call.payload? = none := if_pos awaited

/-- Definition and declaration requests are read alike. -/
theorem of_question? {call : Call} {place : Uri × Position}
    (asks : call.question? = some place) :
    call.awaitsReply = true ∧ call.params.bind definition? = some place ∧
      (Method.ofName? call.method = some .definition ∨
        Method.ofName? call.method = some .declaration) := by
  unfold question? at asks
  split at asks
  · cases asks
  · next awaited =>
      refine ⟨by simpa using awaited, ?_⟩
      split at asks
      · next known => exact ⟨asks, .inl known⟩
      · next known => exact ⟨asks, .inr known⟩
      · cases asks

end Call

/-- What a call adds to the documents and the settings. -/
def Shared.hear (shared : Shared) (call : Call) : Shared where
  documents := call.notice?.elim shared.documents (·.update shared.documents)
  settings := call.payload?.elim shared.settings shared.settings.merged

theorem Shared.hear_of_quiet {call : Call} (told : call.notice? = none)
    (given : call.payload? = none) (shared : Shared) : shared.hear call = shared := by
  rw [hear, told, given]
  rfl

/-- Where the documents and the settings of the moment place a definition. -/
def Shared.locate (fs : FileSystem) (shared : Shared) (uri : Uri) (p : Position) :
    Option Location :=
  (shared.documents.get? uri).bind fun document =>
    ((document.script.answerAt p shared.settings.layout).run fs).1.location

theorem run_configurationHandler (payload : Json) (shared : Shared) :
    (configurationHandler payload).run shared =
      ({ shared with settings := shared.settings.merged payload }, []) := by
  by_cases same : shared.settings.merged payload = shared.settings
  · simp [configurationHandler, Handler.run, same]
  · simp [configurationHandler, Handler.run, same]

namespace Session

variable {s : Session} {call : Call} (fs : FileSystem)

/-- Takes a call over `fs`, given the time that finding an answer takes. -/
def step (s : Session) (timed : Call × Nat) : Session × Outcome :=
  ((s.receive timed.1).run fs).1 timed.2

def after (s : Session) (calls : List (Call × Nat)) : Session :=
  calls.foldl (fun s timed => (s.step fs timed).1) s

/-- Noting a handler runs it, unless the call awaits the reply that notifications have none of. -/
theorem run_note (handler : Option Handler) (elapsed : Nat) :
    (((serve.note s call handler).run fs).1 elapsed).1 =
      if call.awaitsReply then s
      else { s with shared := handler.elim s.shared fun h => (h.run s.shared).1 } := by
  cases handler with
  | none => simp [serve.note, serve.immediate]
  | some handler =>
      cases awaited : call.awaitsReply with
      | true => simp [serve.note, serve.immediate, awaited]
      | false => simp [serve.note, handle, awaited]

theorem run_note_notice {decoded : Option α} (tell : α → DocumentNotice)
    (told : call.notice? = if call.awaitsReply then none else decoded.map tell)
    (given : call.payload? = none) (elapsed : Nat) :
    (((serve.note s call (decoded.map fun a => (tell a).handler)).run fs).1 elapsed).1 =
      { s with shared := s.shared.hear call } := by
  rw [run_note, Shared.hear, told, given]
  split
  · rfl
  · cases decoded with
    | none => rfl
    | some a =>
        have taken := s.shared.take_eq (tell a)
        rw [Shared.take] at taken
        simp [taken]

theorem run_note_payload {payload : Option Json} (told : call.notice? = none)
    (given : call.payload? = if call.awaitsReply then none else payload) (elapsed : Nat) :
    (((serve.note s call (payload.map configurationHandler)).run fs).1 elapsed).1 =
      { s with shared := s.shared.hear call } := by
  rw [run_note, Shared.hear, told, given]
  split
  · rfl
  · cases payload with
    | none => rfl
    | some payload => simp [run_configurationHandler]

theorem run_define (request : String) (uri : Uri) (p : Position) (elapsed : Nat) :
    (∃ tally, (((s.define request uri p).run fs).1 elapsed).1 = { s with tally }) ∧
      (((s.define request uri p).run fs).1 elapsed).2.reply =
        some (.result (.orNull locationJson (s.shared.locate fs uri p))) := by
  unfold define Shared.locate
  cases s.shared.documents.get? uri with
  | none => exact ⟨⟨s.tally, rfl⟩, rfl⟩
  | some document =>
      simp only [FileM.run_bind, FileM.run_pure, Option.bind_some, and_true]
      exact ⟨_, rfl⟩

theorem run_place (request : String) (elapsed : Nat) :
    ∃ tally, (((serve.place s call request).run fs).1 elapsed).1 = { s with tally } := by
  unfold serve.place
  split
  · exact ⟨s.tally, rfl⟩
  · split
    · exact (run_define ..).1
    · exact ⟨s.tally, rfl⟩

/-- Serving leaves a session as it was, but for what the call tells and for the tally. -/
theorem run_serve {method : Method} (known : Method.ofName? call.method = some method)
    (elapsed : Nat) : ∃ tally, (((s.serve call method).run fs).1 elapsed).1 =
      { s with shared := s.shared.hear call, tally } := by
  cases method with
  | opened =>
      exact ⟨s.tally, run_note_notice fs .opened (by simp [Call.notice?, known])
        (by simp [Call.payload?, known]) elapsed⟩
  | changed =>
      exact ⟨s.tally, run_note_notice fs (fun c : Change => .changed c.uri c.edits c.version)
        (by simp [Call.notice?, known]) (by simp [Call.payload?, known]) elapsed⟩
  | closed =>
      exact ⟨s.tally, run_note_notice fs .closed (by simp [Call.notice?, known])
        (by simp [Call.payload?, known]) elapsed⟩
  | configuration =>
      exact ⟨s.tally, run_note_payload fs (by simp [Call.notice?, known])
        (by simp [Call.payload?, known]) elapsed⟩
  | definition | declaration =>
      rw [Shared.hear_of_quiet (by simp [Call.notice?, known]) (by simp [Call.payload?, known])]
      exact run_place fs _ elapsed
  | _ =>
      rw [Shared.hear_of_quiet (by simp [Call.notice?, known]) (by simp [Call.payload?, known])]
      exact ⟨s.tally, rfl⟩

/-- A ready session goes on as it was, but for what the call tells and for the tally. -/
theorem step_of_ready (ready : s.phase = .ready) (goesOn : call.ends = false) (elapsed : Nat) :
    ∃ tally, (s.step fs (call, elapsed)).1 =
      { s with shared := s.shared.hear call, tally } := by
  have serving : s.phase ≠ .ended := by simp [ready]
  simp only [step, receive, if_neg serving]
  cases known : Method.ofName? call.method with
  | none =>
      rw [Shared.hear_of_quiet (by simp [Call.notice?, known]) (by simp [Call.payload?, known])]
      exact ⟨s.tally, rfl⟩
  | some method =>
      have served := run_serve (s := s) fs known elapsed
      cases method with
      | shutdown | exit => simp [Call.ends, known] at goesOn
      | start =>
          have refused : s.begin call = (s, .failure call .invalidRequest) :=
            if_pos (by rw [ready]; decide)
          rw [Shared.hear_of_quiet (by simp [Call.notice?, known]) (by simp [Call.payload?, known])]
          exact ⟨s.tally, congrArg Prod.fst refused⟩
      | _ => simpa only [ready] using served

theorem reply_of_ready (ready : s.phase = .ready) {uri : Uri} {p : Position}
    (asks : call.question? = some (uri, p)) (elapsed : Nat) :
    (s.step fs (call, elapsed)).2.reply =
      some (.result (.orNull locationJson (s.shared.locate fs uri p))) := by
  obtain ⟨awaited, decoded, known⟩ := Call.of_question? asks
  have placed (request : String) : serve.place s call request = s.define request uri p := by
    simp [serve.place, awaited, decoded]
  rcases known with known | known
  · simp only [step, receive, known, ready, serve, placed]
    exact (run_define ..).2
  · simp only [step, receive, known, ready, serve, placed]
    exact (run_define ..).2

end Session

end AutoItNav.Server
