import AutoItNav.Path.Basic

/-!
Access to files. A computation that needs files names each access and goes on with its answer, so
the same computation runs against any file system and its accesses can be told in order.
-/
namespace AutoItNav

inductive EntryKind where
  | file
  | directory
  | other
deriving DecidableEq, Repr

structure Entry where
  path : Path
  kind : EntryKind
deriving DecidableEq, Repr

/-- What a file system answers; a failure shows as `none`, whatever its cause. -/
structure FileSystem where
  listDir : Path → Option (List Entry)
  readText : Path → Option Text
  isFile : Path → Bool

inductive Access where
  | listDir (dir : Path)
  | readText (file : Path)
  | isFile (path : Path)
deriving DecidableEq, Repr

inductive FileM (α : Type) where
  | done (value : α)
  | listDir (dir : Path) (next : Option (List Entry) → FileM α)
  | readText (file : Path) (next : Option Text → FileM α)
  | isFile (path : Path) (next : Bool → FileM α)

namespace FileM

def bind (m : FileM α) (f : α → FileM β) : FileM β :=
  match m with
  | done value => f value
  | listDir dir next => listDir dir fun answer => (next answer).bind f
  | readText file next => readText file fun answer => (next answer).bind f
  | isFile path next => isFile path fun answer => (next answer).bind f

instance : Monad FileM where
  pure := done
  bind := bind

/-- The value computed over `fs` and the accesses made on the way. -/
def run (fs : FileSystem) : FileM α → α × List Access
  | done value => (value, [])
  | listDir dir next =>
    let (value, later) := (next (fs.listDir dir)).run fs
    (value, .listDir dir :: later)
  | readText file next =>
    let (value, later) := (next (fs.readText file)).run fs
    (value, .readText file :: later)
  | isFile path next =>
    let (value, later) := (next (fs.isFile path)).run fs
    (value, .isFile path :: later)

/-- All results of `f` in order. -/
def concat (f : α → FileM (List β)) : List α → FileM (List β)
  | [] => done []
  | a :: rest => (f a).bind fun here => (concat f rest).bind fun later => done (here ++ later)

end FileM

end AutoItNav
