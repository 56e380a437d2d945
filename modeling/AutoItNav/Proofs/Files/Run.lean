import AutoItNav.Files.Basic

/-!
Running file computations: values are passed on, and accesses add up in order. What is computed
depends on nothing but the answers to the accesses made.
-/
namespace AutoItNav.FileM

variable {α β : Type} {fs : FileSystem}

@[simp] theorem run_done (value : α) : (done value).run fs = (value, []) := rfl

@[simp] theorem run_pure (value : α) : (pure value : FileM α).run fs = (value, []) := rfl

@[simp] theorem run_listDir (dir : Path) (next : Option (List Entry) → FileM α) :
    (listDir dir next).run fs =
      (((next (fs.listDir dir)).run fs).1, .listDir dir :: ((next (fs.listDir dir)).run fs).2) :=
  rfl

@[simp] theorem run_readText (file : Path) (next : Option Text → FileM α) :
    (readText file next).run fs =
      (((next (fs.readText file)).run fs).1,
        .readText file :: ((next (fs.readText file)).run fs).2) :=
  rfl

@[simp] theorem run_isFile (path : Path) (next : Bool → FileM α) :
    (isFile path next).run fs =
      (((next (fs.isFile path)).run fs).1, .isFile path :: ((next (fs.isFile path)).run fs).2) :=
  rfl

@[simp] theorem run_bind (m : FileM α) (f : α → FileM β) :
    (m >>= f).run fs =
      (((f (m.run fs).1).run fs).1, (m.run fs).2 ++ ((f (m.run fs).1).run fs).2) := by
  change (m.bind f).run fs = _
  induction m with
  | done value => rfl
  | listDir dir next ih =>
      rw [bind, run, ih]
      rfl
  | readText file next ih =>
      rw [bind, run, ih]
      rfl
  | isFile path next ih =>
      rw [bind, run, ih]
      rfl

theorem run_concat (f : α → FileM (List β)) (l : List α) :
    ((concat f l).run fs).1 = l.flatMap fun a => ((f a).run fs).1 := by
  induction l with
  | nil => rfl
  | cons a rest ih =>
      change ((f a >>= fun here =>
        concat f rest >>= fun later => done (here ++ later)).run fs).1 = _
      rw [run_bind, run_bind, ih]
      rfl

theorem accesses_concat (f : α → FileM (List β)) (l : List α) :
    ((concat f l).run fs).2 = l.flatMap fun a => ((f a).run fs).2 := by
  induction l with
  | nil => rfl
  | cons a rest ih =>
      change ((f a >>= fun here =>
        concat f rest >>= fun later => done (here ++ later)).run fs).2 = _
      rw [run_bind, run_bind, ih]
      simp

end AutoItNav.FileM

namespace AutoItNav

/-- Two file systems answer an access alike. -/
def FileSystem.Alike (fs fs' : FileSystem) : Access → Prop
  | .listDir dir => fs'.listDir dir = fs.listDir dir
  | .readText file => fs'.readText file = fs.readText file
  | .isFile path => fs'.isFile path = fs.isFile path

/-- A computation does not tell two file systems apart that answer alike whatever it asks. -/
theorem FileM.run_eq_of_alike {α : Type} {fs fs' : FileSystem} (m : FileM α)
    (alike : ∀ a ∈ (m.run fs).2, fs.Alike fs' a) : m.run fs' = m.run fs := by
  induction m with
  | done value => rfl
  | listDir dir next ih =>
      obtain ⟨here, later⟩ := List.forall_mem_cons.mp alike
      change fs'.listDir dir = fs.listDir dir at here
      rw [run_listDir, run_listDir, here, ih _ later]
  | readText file next ih =>
      obtain ⟨here, later⟩ := List.forall_mem_cons.mp alike
      change fs'.readText file = fs.readText file at here
      rw [run_readText, run_readText, here, ih _ later]
  | isFile path next ih =>
      obtain ⟨here, later⟩ := List.forall_mem_cons.mp alike
      change fs'.isFile path = fs.isFile path at here
      rw [run_isFile, run_isFile, here, ih _ later]

end AutoItNav
