import AutoItNav.Document.Store
import AutoItNav.Json.Basic

/-!
What clients send, decoded. Objects may also be written as lists of their fields in order; whole
numbers have to fit their width.
-/
namespace AutoItNav

namespace Server

/-- The fields of an object by name, or of a list by place. -/
def fields? (names : List String) : Json → Option (List (Option Json))
  | .object members => some (names.map fun name => (Json.object members).get? name)
  | .array items => if items.length = names.length then some (items.map some) else none
  | _ => none

def uri? (j : Json) : Option Uri := j.string?.bind Uri.ofString?

def position? (j : Json) : Option Position := do
  match ← fields? ["line", "character"] j with
  | [some line, some character] => some ⟨← line.word32?, ← character.word32?⟩
  | _ => none

def span? (j : Json) : Option Span := do
  match ← fields? ["start", "end"] j with
  | [some start, some stop] => some ⟨← position? start, ← position? stop⟩
  | _ => none

def documentId? (j : Json) : Option Uri := do
  match ← fields? ["uri"] j with
  | [some uri] => uri? uri
  | _ => none

def versionedId? (j : Json) : Option (Uri × Int) := do
  match ← fields? ["uri", "version"] j with
  | [some uri, some version] => some (← uri? uri, ← version.signed32?)
  | _ => none

def opened? (j : Json) : Option Document := do
  let [some item] ← fields? ["textDocument"] j | none
  match ← fields? ["uri", "languageId", "version", "text"] item with
  | [some uri, some language, some version, some text] =>
    let _ ← language.string?
    some ⟨← uri? uri, (← text.string?).toList, ← version.signed32?⟩
  | _ => none

def edit? (j : Json) : Option Edit := do
  match ← fields? ["range", "rangeLength", "text"] j with
  | [range, length, some text] =>
    let _ ← Json.optional Json.word32? length
    some ⟨← Json.optional span? range, (← text.string?).toList⟩
  | _ => none

structure Change where
  uri : Uri
  edits : List Edit
  version : Int

def change? (j : Json) : Option Change := do
  match ← fields? ["textDocument", "contentChanges"] j with
  | [some document, some changes] =>
    let (uri, version) ← versionedId? document
    some ⟨uri, ← (← changes.array?).mapM edit?, version⟩
  | _ => none

def closed? (j : Json) : Option Uri := do
  match ← fields? ["textDocument"] j with
  | [some document] => documentId? document
  | _ => none

def configuration? (j : Json) : Option Json := do
  match ← fields? ["settings"] j with
  | [some settings] => some settings
  | _ => none

/-- A progress token is a number or a string. -/
def isToken (j : Json) : Bool := j.signed32?.isSome || j.string?.isSome

def token? (j : Json) : Option Unit := if isToken j then some () else none

/-- A place in a document. -/
def place? (j : Json) : Option (Uri × Position) := do
  let uri ← documentId? (← j.get? "textDocument")
  some (uri, ← position? (← j.get? "position"))

def definition? (j : Json) : Option (Uri × Position) := do
  let place ← place? j
  let _ ← Json.optional token? (j.get? "workDoneToken")
  let _ ← Json.optional token? (j.get? "partialResultToken")
  some place

def folder? (j : Json) : Option Unit := do
  match ← fields? ["uri", "name"] j with
  | [some uri, some name] => do
    let _ ← uri? uri
    let _ ← name.string?
    some ()
  | _ => none

def client? (j : Json) : Option Unit := do
  match ← fields? ["name", "version"] j with
  | [some name, version] => do
    let _ ← name.string?
    let _ ← Json.optional Json.string? version
    some ()
  | _ => none

def trace? (j : Json) : Option Unit := do
  if ["off", "messages", "verbose"].contains (← j.string?) then some () else none

def capabilities? (j : Json) : Option Unit := do
  let j ← j.object?
  for name in ["workspace", "textDocument", "notebookDocument", "window", "general"] do
    let _ ← Json.optional Json.object? (j.get? name)
  some ()

/-- The options that a client initializes the session with. -/
def initialization? (j : Json) : Option (Option Json) := do
  let _ ← Json.optional Json.word32? (j.get? "processId")
  let _ ← Json.optional Json.string? (j.get? "rootPath")
  let _ ← Json.optional uri? (j.get? "rootUri")
  capabilities? (← j.get? "capabilities")
  let _ ← Json.optional trace? (j.get? "trace")
  let folders ← Json.optional Json.array? (j.get? "workspaceFolders")
  let _ ← (folders.getD []).mapM folder?
  let _ ← Json.optional client? (j.get? "clientInfo")
  let _ ← Json.optional Json.string? (j.get? "locale")
  some ((j.get? "initializationOptions").filter (!·.isNull))

end Server

end AutoItNav
