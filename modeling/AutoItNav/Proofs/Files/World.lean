import AutoItNav.Proofs.Files.Run

/-!
File systems that change while they are asked. What is answered may depend on all accesses made so
far, so a computation runs with those in hand; over a file system that stays as it is nothing is
gained by them.
-/
namespace AutoItNav

/-- What is answered after some accesses, the last of them first. -/
abbrev World := List Access → FileSystem

namespace FileM

variable {α β : Type} {w : World}

/-- The value computed in `w` after the accesses `past`, with all accesses then made. -/
def runIn (w : World) (past : List Access) : FileM α → α × List Access
  | done value => (value, past)
  | listDir dir next => (next ((w past).listDir dir)).runIn w (.listDir dir :: past)
  | readText file next => (next ((w past).readText file)).runIn w (.readText file :: past)
  | isFile path next => (next ((w past).isFile path)).runIn w (.isFile path :: past)

variable {past : List Access}

@[simp] theorem runIn_done (value : α) : (done value).runIn w past = (value, past) := rfl

@[simp] theorem runIn_pure (value : α) : (pure value : FileM α).runIn w past = (value, past) := rfl

/-- The later computation meets the world as the earlier one left it. -/
@[simp] theorem runIn_bind (m : FileM α) (f : α → FileM β) :
    (m >>= f).runIn w past = (f (m.runIn w past).1).runIn w (m.runIn w past).2 := by
  change (m.bind f).runIn w past = _
  induction m generalizing past with
  | done value => rfl
  | listDir dir next ih => exact ih _
  | readText file next ih => exact ih _
  | isFile path next ih => exact ih _

theorem runIn_unchanging (fs : FileSystem) (m : FileM α) :
    m.runIn (fun _ => fs) past = ((m.run fs).1, (m.run fs).2.reverse ++ past) := by
  induction m generalizing past with
  | done value => rfl
  | listDir dir next ih =>
      rw [runIn, ih, run_listDir]
      simp
  | readText file next ih =>
      rw [runIn, ih, run_readText]
      simp
  | isFile path next ih =>
      rw [runIn, ih, run_isFile]
      simp

end FileM

end AutoItNav
