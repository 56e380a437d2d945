import AutoItNav.Declaration.Search
import AutoItNav.Uri.File

/-!
Answers to a search: a place in a document, given by its URI.
-/
namespace AutoItNav

structure Location where
  uri : Uri
  span : Span
deriving DecidableEq, Repr

/-- A place in a file; a relative path names none. -/
def Location.ofPath? (p : Path) (span : Span) : Option Location :=
  (Uri.ofPath? p).map fun uri => ⟨uri, span⟩

/-- The span of the declared name in its text. -/
def Declaration.nameSpan (d : Declaration) (t : Text) : Span :=
  ⟨Text.positionAt t d.offset, Text.positionAt t (d.offset + d.length)⟩

/-- The document that a request comes from. -/
structure Script where
  uri : Uri
  text : Text
deriving DecidableEq, Repr

namespace Script

def path? (s : Script) : Option Path := s.uri.filePath?

def directory? (s : Script) : Option Path := s.path?.bind Path.parent?

/-- Where the script itself declares the identifier; a search given up finds nothing. -/
def declares? (s : Script) (id : Identifier) : Option Location :=
  match id.find s.text with
  | .ok (some d) => some ⟨s.uri, d.nameSpan s.text⟩
  | _ => none

end Script

end AutoItNav
