import AutoItNav.Files.Listing

/-!
A file system given by its contents. Files imply the directories above them, and the listing of a
directory may also be given as such. Paths count by their components.
-/
namespace AutoItNav

/-- A file without text exists and cannot be read; a directory without a listing cannot be
listed. -/
structure Memory where
  files : List (Path × Option Text)
  listings : List (Path × Option (List (Bytes × EntryKind)))

namespace Memory

/-- What the path of a file says about the directory `dir`: the name below it that leads to the
file, and whether more follows. -/
def below? (dir file : List Component) : Option (Bytes × Bool) :=
  if dir.isPrefixOf file then
    match file.drop dir.length with
    | .name bytes :: rest => some (bytes, !rest.isEmpty)
    | _ => none
  else none

/-- One entry for each name; it is a directory if any file lies below it. -/
def mergeNames : List (Bytes × Bool) → List (Bytes × EntryKind)
  | [] => []
  | (name, deeper) :: rest =>
    let others := mergeNames rest
    match others.find? (·.1 = name) with
    | none => (name, if deeper then .directory else .file) :: others
    | some _ =>
      if deeper then others.map fun e => if e.1 = name then (name, .directory) else e else others

def implied (m : Memory) (dir : Path) : List (Bytes × EntryKind) :=
  mergeNames (m.files.filterMap fun file => below? dir.components file.1.components)

def listDir (m : Memory) (dir : Path) : Option (List Entry) :=
  match m.listings.find? (·.1.same dir) with
  | some (_, given) =>
    given.map fun entries => entries.map fun (name, kind) => ⟨dir.join ⟨name⟩, kind⟩
  | none =>
    let entries := m.implied dir
    if entries.isEmpty then none
    else some (listing dir (entries.map fun (name, kind) => (name, some kind)))

def file? (m : Memory) (path : Path) : Option (Path × Option Text) := m.files.find? (·.1.same path)

def fileSystem (m : Memory) : FileSystem where
  listDir := m.listDir
  readText path := (m.file? path).bind (·.2)
  isFile path := (m.file? path).isSome

end Memory

end AutoItNav
