import AutoItNav.Path.Basic
import AutoItNav.Uri.Reader

/-!
Files and their URIs. Every absolute path has one; a URI names a file whatever its scheme, as long
as its path is absolute and its host is the local one.
-/
namespace AutoItNav.Uri

def isLocal (u : Uri) : Bool :=
  match u.authority with
  | none => true
  | some a => a.host.isEmpty || a.host = "localhost".toList

/-- A path that ends in a drive gets the slash that drives end in. -/
def closeDrive (bytes : Bytes) : Bytes :=
  match bytes.reverse with
  | mark :: letter :: _ :: _ =>
    if isDrive [Char.ofNat letter.toNat, Char.ofNat mark.toNat] then bytes ++ [slash] else bytes
  | _ => bytes

def filePath? (u : Uri) : Option Path :=
  match u.path with
  | '/' :: rest =>
    if u.isLocal then
      let segments := (pieces '/' rest).map fun s => percentDecode (Utf8.encode s)
      some ⟨closeDrive (segments.flatMap (slash :: ·))⟩
    else none
  | _ => none

def fileScheme : Text := ['f', 'i', 'l', 'e']

/-- The URI of a file; relative paths have none. -/
def ofPath? (p : Path) : Option Uri :=
  if p.isAbsolute then
    let steps := p.components.drop 1
    let path := steps.flatMap fun c => '/' :: percentEncode segmentReserved c.bytes
    some
      { scheme := fileScheme
        authority := some ⟨[], [], none⟩
        path := if path.isEmpty then ['/'] else path
        query := none
        fragment := none }
  else none

/-- The part of the path behind its last slash, as it is printed. -/
def shortName (u : Uri) : Text := (u.path.reverse.takeWhile (· ≠ '/')).reverse

end AutoItNav.Uri
