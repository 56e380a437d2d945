import AutoItNav.Server.Message

/-!
The methods of the protocol. Requests that are known but not offered still have their parameters
checked first.
-/
namespace AutoItNav.Server

inductive Method where
  | start
  | shutdown
  | exit
  | definition
  | declaration
  | opened
  | changed
  | closed
  | configuration
  /-- Known notifications that change nothing. -/
  | silent
  /-- Known requests that are not offered, with the test of their parameters. -/
  | unoffered (accepts : Json → Bool)

def isPlace (j : Json) : Bool := (definition? j).isSome

def isDocument (j : Json) : Bool := ((j.get? "textDocument").bind documentId?).isSome

def hasField (decode : Json → Option α) (name : String) (j : Json) : Bool :=
  ((j.get? name).bind decode).isSome

def isFormatting (j : Json) : Bool :=
  isDocument j && hasField (fun o => do
    let _ ← (← o.get? "tabSize").word32?
    (← o.get? "insertSpaces").bool?) "options" j

def isItem (j : Json) : Bool := j.object?.isSome

def strings? (j : Json) : Option (List String) := do (← j.array?).mapM Json.string?

def unofferedTests : List (String × (Json → Bool)) :=
  [("textDocument/hover", isPlace),
   ("textDocument/completion", isPlace),
   ("textDocument/signatureHelp", isPlace),
   ("textDocument/typeDefinition", isPlace),
   ("textDocument/implementation", isPlace),
   ("textDocument/documentHighlight", isPlace),
   ("textDocument/prepareCallHierarchy", isPlace),
   ("textDocument/prepareTypeHierarchy", isPlace),
   ("textDocument/linkedEditingRange", isPlace),
   ("textDocument/moniker", isPlace),
   ("textDocument/prepareRename", isPlace),
   ("textDocument/rename", fun j => isPlace j && hasField Json.string? "newName" j),
   ("textDocument/references", fun j => isPlace j &&
     hasField (fun c => do (← c.get? "includeDeclaration").bool?) "context" j),
   ("textDocument/documentLink", isDocument),
   ("textDocument/codeLens", isDocument),
   ("textDocument/foldingRange", isDocument),
   ("textDocument/documentSymbol", isDocument),
   ("textDocument/documentColor", isDocument),
   ("textDocument/diagnostic", isDocument),
   ("textDocument/semanticTokens/full", isDocument),
   ("textDocument/semanticTokens/full/delta", fun j =>
     isDocument j && hasField Json.string? "previousResultId" j),
   ("textDocument/semanticTokens/range", fun j => isDocument j && hasField span? "range" j),
   ("textDocument/inlayHint", fun j => isDocument j && hasField span? "range" j),
   ("textDocument/inlineValue", fun j =>
     isDocument j && hasField span? "range" j && hasField Json.object? "context" j),
   ("textDocument/selectionRange", fun j =>
     isDocument j && hasField (fun p => do (← p.array?).mapM position?) "positions" j),
   ("textDocument/codeAction", fun j =>
     isDocument j && hasField span? "range" j && hasField Json.object? "context" j),
   ("textDocument/colorPresentation", fun j =>
     isDocument j && hasField span? "range" j && hasField Json.object? "color" j),
   ("textDocument/formatting", isFormatting),
   ("textDocument/rangeFormatting", fun j => isFormatting j && hasField span? "range" j),
   ("textDocument/onTypeFormatting", fun j =>
     isFormatting j && isPlace j && hasField Json.string? "ch" j),
   ("textDocument/willSaveWaitUntil", fun j => isDocument j && hasField Json.integer? "reason" j),
   ("callHierarchy/incomingCalls", hasField Json.object? "item"),
   ("callHierarchy/outgoingCalls", hasField Json.object? "item"),
   ("typeHierarchy/supertypes", hasField Json.object? "item"),
   ("typeHierarchy/subtypes", hasField Json.object? "item"),
   ("documentLink/resolve", hasField span? "range"),
   ("codeLens/resolve", hasField span? "range"),
   ("codeAction/resolve", hasField Json.string? "title"),
   ("completionItem/resolve", hasField Json.string? "label"),
   ("inlayHint/resolve", hasField position? "position"),
   ("workspaceSymbol/resolve", hasField Json.string? "name"),
   ("workspace/symbol", hasField Json.string? "query"),
   ("workspace/diagnostic", hasField Json.array? "previousResultIds"),
   ("workspace/executeCommand", hasField Json.string? "command"),
   ("workspace/willCreateFiles", hasField Json.array? "files"),
   ("workspace/willRenameFiles", hasField Json.array? "files"),
   ("workspace/willDeleteFiles", hasField Json.array? "files")]

def silentNames : List String :=
  ["initialized", "textDocument/willSave", "textDocument/didSave", "notebookDocument/didOpen",
   "notebookDocument/didChange", "notebookDocument/didSave", "notebookDocument/didClose",
   "workspace/didChangeWorkspaceFolders", "workspace/didChangeWatchedFiles",
   "workspace/didCreateFiles", "workspace/didRenameFiles", "workspace/didDeleteFiles",
   "window/workDoneProgress/cancel", "$/cancelRequest"]

def Method.ofName? (name : String) : Option Method :=
  match name with
  | "initialize" => some .start
  | "shutdown" => some .shutdown
  | "exit" => some .exit
  | "textDocument/definition" => some .definition
  | "textDocument/declaration" => some .declaration
  | "textDocument/didOpen" => some .opened
  | "textDocument/didChange" => some .changed
  | "textDocument/didClose" => some .closed
  | "workspace/didChangeConfiguration" => some .configuration
  | _ =>
    if silentNames.contains name then some .silent
    else (unofferedTests.find? (·.1 == name)).map fun entry => .unoffered entry.2

end AutoItNav.Server
