import AutoItNav.Files.Listing

/-!
A directory tree with symbolic links. Every access follows links; names, links and `..` are
resolved step by step from the root, and a walk over too many links is a loop.
-/
namespace AutoItNav

inductive FileError where
  | notFound
  | notADirectory
  | isADirectory
  | linkLoop
  /-- A file was to be listed. -/
  | cannotList (path : Path)
  | invalidText
deriving DecidableEq, Repr

inductive Node where
  | directory
  | file (bytes : Bytes)
  | link (target : Path)
  /-- Neither a file nor a directory, such as a device. -/
  | special
deriving DecidableEq, Repr

/-- The nodes below the root by the names that lead to them. -/
structure Tree where
  nodes : List (List Bytes × Node)

namespace Tree

def empty : Tree := ⟨[]⟩

/-- Links that one walk may follow. -/
def linkLimit : Nat := 40

def node? (t : Tree) (place : List Bytes) : Option Node :=
  if place.isEmpty then some .directory else (t.nodes.find? (·.1 = place)).map (·.2)

/-- The pieces of a path that a walk has to take; a trailing slash asks for a directory. -/
def stepsOf (p : Path) : List Bytes := (pieces slash p.bytes).filter (· ≠ [])

def asksDirectory (p : Path) : Bool :=
  match (pieces slash p.bytes).getLast? with
  | some last => last = [] || last = [dot]
  | none => false

/-- Walks on from `place`, the names passed in reverse. `links` more links may be followed. -/
def walk (t : Tree) (links : Nat) : (fuel : Nat) → (place steps : List Bytes) →
    Except FileError (List Bytes)
  | 0, _, _ => .error .linkLoop
  | _ + 1, place, [] => .ok place
  | fuel + 1, place, step :: rest =>
    if t.node? place.reverse ≠ some .directory then .error .notADirectory
    else if step = [dot] then t.walk links fuel place rest
    else if step = [dot, dot] then t.walk links fuel place.tail rest
    else
      match t.node? (step :: place).reverse with
      | none => .error .notFound
      | some (.link target) =>
        match links with
        | 0 => .error .linkLoop
        | links + 1 =>
          let start := if target.isAbsolute then [] else place
          t.walk links fuel start (stepsOf target ++ rest)
      | some _ => t.walk links fuel (step :: place) rest

/-- Steps that suffice for any walk over at most `linkLimit` links. -/
def walkFuel (t : Tree) (p : Path) : Nat :=
  let longest := (t.nodes.map fun n => match n.2 with
    | .link target => target.bytes.length
    | _ => 0).foldl max 0
  p.bytes.length + (linkLimit + 1) * (longest + 2)

/-- Where an absolute path leads: the names down to it and the node there. -/
def locate (t : Tree) (p : Path) : Except FileError (List Bytes × Node) := do
  let place := (← t.walk linkLimit (t.walkFuel p) [] (stepsOf p)).reverse
  match t.node? place with
  | none => .error .notFound
  | some node =>
    if asksDirectory p ∧ node ≠ .directory then .error .notADirectory else .ok (place, node)

def kindOf : Node → EntryKind
  | .directory => .directory
  | .file _ => .file
  | _ => .other

def insert (t : Tree) (place : List Bytes) (node : Node) : Tree :=
  ⟨t.nodes.filter (·.1 ≠ place) ++ [(place, node)]⟩

/-- Makes the directories that are missing on the way down, through links where there are any. -/
def makeDirectories (t : Tree) (place : List Bytes) : List Bytes → Tree × List Bytes
  | [] => (t, place)
  | step :: rest =>
    match t.locate ⟨(place ++ [step]).flatMap (slash :: ·)⟩ with
    | .ok (place, _) => t.makeDirectories place rest
    | .error _ => (t.insert (place ++ [step]) .directory).makeDirectories (place ++ [step]) rest

/-- Adds a node under a path together with the directories above it. -/
def add (t : Tree) (p : Path) (node : Node) : Tree :=
  let steps := stepsOf p
  match steps.getLast? with
  | none => t
  | some name =>
    match node with
    | .directory => (t.makeDirectories [] steps).1
    | _ =>
      let (t, place) := t.makeDirectories [] steps.dropLast
      t.insert (place ++ [name]) node

/-- What the entry `name` of the directory at `place` leads to. A link back to the directory that
is being listed counts as leading nowhere. -/
def entryKind? (t : Tree) (place : List Bytes) (name : Bytes) : Option EntryKind :=
  match t.node? (place ++ [name]) with
  | some (.link _) =>
    match t.locate ⟨(place ++ [name]).flatMap (slash :: ·)⟩ with
    | .ok (target, node) => if target = place then none else some (kindOf node)
    | .error _ => none
  | some node => some (kindOf node)
  | none => none

def childName? (place path : List Bytes) : Option Bytes :=
  if place.isPrefixOf path then
    match path.drop place.length with
    | [name] => some name
    | _ => none
  else none

def listDir (t : Tree) (dir : Path) : Except FileError (List Entry) := do
  let (place, node) ← t.locate dir
  if node ≠ .directory then .error (.cannotList dir)
  else
    let names := t.nodes.filterMap fun n => childName? place n.1
    .ok (listing dir (names.map fun name => (name, t.entryKind? place name)))

def readText (t : Tree) (file : Path) : Except FileError Text := do
  match ← t.locate file with
  | (_, .file bytes) =>
    match Utf8.decode? bytes with
    | some text => .ok text
    | none => .error .invalidText
  | (_, .directory) => .error .isADirectory
  | _ => .ok []

def isFile (t : Tree) (path : Path) : Bool :=
  match t.locate path with
  | .ok (_, .file _) => true
  | _ => false

def fileSystem (t : Tree) : FileSystem where
  listDir dir := (t.listDir dir).toOption
  readText file := (t.readText file).toOption
  isFile := t.isFile

end Tree

end AutoItNav
