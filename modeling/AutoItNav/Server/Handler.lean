import AutoItNav.Document.Store
import AutoItNav.Settings.Patch

/-!
How notifications are handled. A handler may pause where it reads or writes the settings or sends a
message to the client, and other handlers may go on meanwhile; between pauses it runs alone.
-/
namespace AutoItNav.Server

inductive Severity where
  | info
  | log
deriving DecidableEq, Repr

/-- A message for the client's log. -/
structure Notice where
  severity : Severity
  text : String
deriving DecidableEq, Repr

/-- What handlers share. -/
structure Shared where
  documents : Store
  settings : Settings
deriving DecidableEq, Repr

/-- What is left to do for a notification. -/
inductive Handler where
  | finished
  | update (change : Store → Store) (next : Handler)
  | readSettings (next : Settings → Handler)
  | writeSettings (settings : Settings) (next : Handler)
  | send (notice : Notice) (next : Handler)

namespace Handler

/-- Runs on to the next pause. -/
def settle (shared : Shared) : Handler → Shared × Handler
  | update change next => settle { shared with documents := change shared.documents } next
  | handler => (shared, handler)

/-- Resumes a paused handler and runs it on to its next pause. -/
def resume (shared : Shared) : Handler → Shared × Handler
  | finished => (shared, finished)
  | update change next => settle shared (update change next)
  | readSettings next => settle shared (next shared.settings)
  | writeSettings settings next => settle { shared with settings } next
  | send _ next => settle shared next

/-- Runs a handler to its end without others in between, with the notices it sends. -/
def run (shared : Shared) : Handler → Shared × List Notice
  | finished => (shared, [])
  | update change next => run { shared with documents := change shared.documents } next
  | readSettings next => run shared (next shared.settings)
  | writeSettings settings next => run { shared with settings } next
  | send notice next =>
    let (shared, later) := run shared next
    (shared, notice :: later)

end Handler

def messageStart : String := "au3-analyzer: "

def openHandler (d : Document) : Handler :=
  .readSettings fun settings =>
    let store := Handler.update (·.insert d) .finished
    if settings.level.allowsInfo then
      .send ⟨.info, messageStart ++ "Opened " ++ String.ofList d.uri.shortName⟩ store
    else store

def changeHandler (uri : Uri) (edits : List Edit) (version : Int) : Handler :=
  .update (·.change uri edits version) .finished

def closeHandler (uri : Uri) : Handler := .update (·.close uri) .finished

/-- Settings that a payload leaves as they are get no new value. -/
def configurationHandler (payload : Json) : Handler :=
  .readSettings fun settings =>
    let merged := settings.merged payload
    if merged = settings then .finished else .writeSettings merged .finished

end AutoItNav.Server
