import AutoItNav.Definition.Tally
import AutoItNav.Server.Duration
import AutoItNav.Server.Handler
import AutoItNav.Server.Method

/-!
A session with a client. It answers definition and declaration requests from the documents that
the client has open and the settings that it has given; both requests mean the same.
-/
namespace AutoItNav.Server

/-- How far a session is: requests are served only when it is ready. -/
inductive Phase where
  | starting
  | ready
  | shutDown
  | ended
deriving DecidableEq, Repr

structure Session where
  phase : Phase
  shared : Shared
  tally : Tally
  /-- Whether the outcome of every definition request is told to the client. -/
  echo : Bool
deriving DecidableEq, Repr

def Session.start (echo : Bool) : Session :=
  ⟨.starting, ⟨.empty, .standard⟩, .zero, echo⟩

structure Call where
  method : String
  params : Option Json
  awaitsReply : Bool

inductive Failure where
  | notInitialized
  | invalidRequest
  | methodNotFound
  | invalidParams
deriving DecidableEq, Repr

def Failure.code : Failure → Int
  | .notInitialized => -32002
  | .invalidRequest => -32600
  | .methodNotFound => -32601
  | .invalidParams => -32602

def Failure.message : Failure → String
  | .notInitialized => "Server not initialized"
  | .invalidRequest => "Invalid request"
  | .methodNotFound => "Method not found"
  | .invalidParams => "Invalid params"

inductive Reply where
  | result (value : Json)
  | failure (failure : Failure)
  /-- The session has ended and takes no more calls. -/
  | ended
deriving Repr

/-- What a call brings about besides the new session: notices to the client and log lines. -/
structure Outcome where
  reply : Option Reply
  notices : List Notice
  logged : List String
deriving Repr

def Outcome.nothing : Outcome := ⟨none, [], []⟩

def Outcome.result (value : Json) : Outcome := ⟨some (.result value), [], []⟩

def Outcome.failure (call : Call) (f : Failure) : Outcome :=
  ⟨if call.awaitsReply then some (.failure f) else none, [], []⟩

def positionJson (p : Position) : Json :=
  .object [("line", .nat p.line.toNat), ("character", .nat p.character.toNat)]

def locationJson (l : Location) : Json :=
  .object [("uri", .string l.uri.toString),
    ("range", .object [("start", positionJson l.span.start), ("end", positionJson l.span.stop)])]

def initializeResult : Json :=
  .object
    [("capabilities", .object
      [("textDocumentSync", .nat 2), ("definitionProvider", .bool true),
       ("declarationProvider", .bool true)]),
     ("serverInfo", .object [("name", .string "au3-analyzer"), ("version", .string "0.1.0")])]

def outcomeText : Option Location → String
  | some l => String.ofList l.uri.shortName ++ ":" ++ toString (l.span.start.line + 1)
  | none => "none"

def echoNotice (request : String) (uri : Uri) (p : Position) (answer : Option Location)
    (elapsed : Nat) : Notice :=
  ⟨.log, messageStart ++ request ++ " " ++ String.ofList uri.shortName ++ ":" ++
    toString (p.line + 1) ++ ":" ++ toString (p.character + 1) ++ " → " ++ outcomeText answer ++
    " (" ++ durationText elapsed ++ ")"⟩

namespace Session

/-- A call together with the time that finding the answer took. -/
abbrev Timed := Nat → Session × Outcome

def define (s : Session) (request : String) (uri : Uri) (p : Position) : FileM Timed :=
  match s.shared.documents.get? uri with
  | none => .done fun _ => (s, .result .null)
  | some document => do
    let answer ← document.script.answerAt p s.shared.settings.layout
    return fun elapsed =>
      let (tally, logged) := s.tally.record elapsed answer.origin answer.work
      let notices :=
        if s.echo then [echoNotice request uri p answer.location elapsed] else []
      ({ s with tally }, ⟨some (.result (.orNull locationJson answer.location)), notices, logged⟩)

def handle (s : Session) (handler : Handler) : Session × Outcome :=
  let (shared, notices) := handler.run s.shared
  ({ s with shared }, ⟨none, notices, []⟩)

def begin (s : Session) (call : Call) : Session × Outcome :=
  if s.phase ≠ .starting then (s, .failure call .invalidRequest)
  else if !call.awaitsReply then (s, .nothing)
  else match call.params.bind initialization? with
    | none => (s, .failure call .invalidParams)
    | some options =>
      ({ s with phase := .ready, shared := { s.shared with settings := .initial options } },
        .result initializeResult)

def shutdown (s : Session) (call : Call) : Session × Outcome :=
  let s := { s with phase := .shutDown }
  if !call.awaitsReply then (s, .nothing)
  else if call.params.isSome then (s, .failure call .invalidParams)
  else (s, ⟨some (.result .null), [], [s.tally.summary]⟩)

/-- Calls that are served only in a ready session. -/
def serve (s : Session) (call : Call) : Method → FileM Timed
  | .definition => place "goto-def"
  | .declaration => place "goto-decl"
  | .opened => note ((call.params.bind opened?).map openHandler)
  | .changed =>
    note ((call.params.bind change?).map fun c => changeHandler c.uri c.edits c.version)
  | .closed => note ((call.params.bind closed?).map closeHandler)
  | .configuration => note ((call.params.bind configuration?).map configurationHandler)
  | .unoffered accepts =>
    immediate s (.failure call
      (if call.params.any accepts then .methodNotFound else .invalidParams))
  | _ => immediate s .nothing
where
  immediate (s : Session) (outcome : Outcome) : FileM Timed := .done fun _ => (s, outcome)
  note (handler : Option Handler) : FileM Timed :=
    match handler with
    | some handler =>
      if call.awaitsReply then immediate s .nothing else .done fun _ => s.handle handler
    | none => immediate s .nothing
  place (request : String) : FileM Timed :=
    if !call.awaitsReply then immediate s .nothing
    else match call.params.bind definition? with
      | some (uri, p) => s.define request uri p
      | none => immediate s (.failure call .invalidParams)

/-- Takes one call. -/
def receive (s : Session) (call : Call) : FileM Timed :=
  if s.phase = .ended then .done fun _ => (s, ⟨some .ended, [], []⟩)
  else match Method.ofName? call.method with
    | none =>
      let quiet := call.method.startsWith "$/"
      .done fun _ => (s, if quiet then .nothing else .failure call .methodNotFound)
    | some .exit => .done fun _ => ({ s with phase := .ended }, .nothing)
    | some .start => .done fun _ => s.begin call
    | some method =>
      match s.phase with
      | .starting => .done fun _ => (s, .failure call .notInitialized)
      | .ready =>
        match method with
        | .shutdown => .done fun _ => s.shutdown call
        | _ => s.serve call method
      | _ => .done fun _ => (s, .failure call .invalidRequest)

end Session

end AutoItNav.Server
