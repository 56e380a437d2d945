import AutoItNav.Json.Basic
import AutoItNav.Settings.Basic

/-!
Changes of settings as clients send them. A payload counts on its own and once more by its own
section; either is taken whole or, if any known part of it is ill-typed, not at all.
-/
namespace AutoItNav

structure Patch where
  sourceDir : Option String
  libraryDir : Option String
  extension : Option String
  searchIncludes : Option Bool
  level : Option LogLevel
deriving DecidableEq, Repr

/-- A level is written by its name, or as an object that maps its name to null. -/
def LogLevel.ofJson? : Json → Option LogLevel
  | .string name => ofName? name
  | .object [(name, .null)] => ofName? name
  | _ => none

def Patch.ofJson? (j : Json) : Option Patch := do
  let whole ← j.object?
  let navigation ← Json.optional Json.object? (whole.get? "navigation")
  let logging ← Json.optional Json.object? (whole.get? "logging")
  let sourceDir ← Json.optional Json.string? (navigation.bind (·.get? "sourceDirName"))
  let libraryDir ← Json.optional Json.string? (navigation.bind (·.get? "libraryDirName"))
  let extension ← Json.optional Json.string? (navigation.bind (·.get? "scriptExtension"))
  let searchIncludes ← Json.optional Json.bool? (navigation.bind (·.get? "searchIncludes"))
  let level ← Json.optional LogLevel.ofJson? (logging.bind (·.get? "level"))
  some { sourceDir, libraryDir, extension, searchIncludes, level }

namespace Settings

/-- What a patch leaves out stays as it is. -/
def patched (s : Settings) (p : Patch) : Settings :=
  { layout :=
      { sourceDir := p.sourceDir.getD s.layout.sourceDir
        libraryDir := p.libraryDir.getD s.layout.libraryDir
        extension := p.extension.getD s.layout.extension
        searchIncludes := p.searchIncludes.getD s.layout.searchIncludes }
    level := p.level.getD s.level }

def sectionName : String := "au3-analyzer"

/-- The payload itself, then the server's own section of it. -/
def candidates (payload : Json) : List Json :=
  payload :: (payload.get? sectionName).toList

def merged (s : Settings) (payload : Json) : Settings :=
  (((candidates payload).filterMap Patch.ofJson?).foldl patched s).normalized

/-- Settings of a session that begins with `payload`, if any. -/
def initial (payload : Option Json) : Settings :=
  payload.elim standard standard.merged

end Settings

end AutoItNav
