import AutoItNav.Document.Basic

/-!
The documents that are open, at most one for each URI.
-/
namespace AutoItNav

structure Store where
  documents : List Document
deriving DecidableEq, Repr

namespace Store

def empty : Store := ⟨[]⟩

def get? (s : Store) (uri : Uri) : Option Document := s.documents.find? (·.uri = uri)

def size (s : Store) : Nat := s.documents.length

def isEmpty (s : Store) : Bool := s.documents.isEmpty

def close (s : Store) (uri : Uri) : Store := ⟨s.documents.filter (·.uri ≠ uri)⟩

/-- Opens a document, in the place of one that was open under the same URI. -/
def insert (s : Store) (d : Document) : Store := ⟨d :: (s.close d.uri).documents⟩

/-- Changes an open document; there is nothing to change in one that is not open. -/
def change (s : Store) (uri : Uri) (edits : List Edit) (version : Int) : Store :=
  ⟨s.documents.map fun d => if d.uri = uri then d.change edits version else d⟩

end Store

end AutoItNav
