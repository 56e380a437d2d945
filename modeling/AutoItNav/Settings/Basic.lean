import AutoItNav.Project.Layout
import AutoItNav.Text.Blank

/-!
Settings of a session: the project's layout and how much is logged to the client.
-/
namespace AutoItNav

inductive LogLevel where
  | error
  | warn
  | info
  | debug
  | trace
deriving DecidableEq, Repr

namespace LogLevel

def all : List LogLevel := [.error, .warn, .info, .debug, .trace]

def name : LogLevel → String
  | .error => "error"
  | .warn => "warn"
  | .info => "info"
  | .debug => "debug"
  | .trace => "trace"

def ofName? (s : String) : Option LogLevel := all.find? (·.name == s)

def allowsInfo : LogLevel → Bool
  | .error | .warn => false
  | .info | .debug | .trace => true

end LogLevel

structure Settings where
  layout : Layout
  level : LogLevel
deriving DecidableEq, Repr

/-- A name without surrounding blanks, or the fallback if nothing else is left. -/
def nonBlankOr (value fallback : String) : String :=
  let t := trimmed value
  if t.isEmpty then fallback else t

/-- An extension is written with or without dots in front. -/
def undotted (value : String) : String :=
  String.ofList ((trimmed value).toList.dropWhile (· = '.'))

namespace Settings

def standard : Settings := ⟨.standard, .info⟩

def normalized (s : Settings) : Settings :=
  { s with
    layout :=
      { s.layout with
        sourceDir := nonBlankOr s.layout.sourceDir Layout.standard.sourceDir
        libraryDir := nonBlankOr s.layout.libraryDir Layout.standard.libraryDir
        extension := nonBlankOr (undotted s.layout.extension) Layout.standard.extension } }

end Settings

end AutoItNav
