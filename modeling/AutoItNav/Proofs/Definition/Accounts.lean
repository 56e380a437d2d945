import AutoItNav.Proofs.Definition.Visit
import Mathlib.Data.List.Perm.Basic
import Mathlib.Data.UInt

/-!
The counts over all definition requests. A request is counted in one place, by the way in which it
ends, so the counts tell how many requests ended how and what their searches took, in whatever order
they came. All counts are modulo `2 ^ 64`.
-/
namespace AutoItNav

namespace Visit

/-- What the searches took that were run. -/
def searches (visits : List Visit) : List Work := visits.filterMap fun v => v.search?.map (·.2)

theorem sum_searches (measure : Work → Nat) (idle : measure .none = 0) (visits : List Visit) :
    ((searches visits).map measure).sum = (visits.map fun v => measure v.answer.work).sum := by
  induction visits with
  | nil => rfl
  | cons v rest ih =>
      rw [List.map_cons, List.sum_cons, ← ih, work_answer, searches, List.filterMap_cons]
      cases v.search? with
      | none => simp [idle, searches]
      | some result => simp [searches]

end Visit

namespace Tally

/-- The count of the answers from an origin. -/
def under (t : Tally) : Origin → UInt64
  | .includeLine => t.includeHits
  | .document => t.documentHits
  | .includedScript => t.scriptHits
  | .nothing => t.misses

theorem ext_under {t u : Tally} (requests : t.requests = u.requests)
    (under : ∀ o, t.under o = u.under o) (candidates : t.candidates = u.candidates)
    (reads : t.reads = u.reads) (nanoseconds : t.nanoseconds = u.nanoseconds) : t = u := by
  obtain ⟨_, _, _, _, _, _, _, _⟩ := t
  obtain ⟨_, _, _, _, _, _, _, _⟩ := u
  have includeHits := under .includeLine
  have documentHits := under .document
  have scriptHits := under .includedScript
  have misses := under .nothing
  simp_all [Tally.under]

/-- The tally after one request. -/
def after (t : Tally) (v : Visit) : Tally := t.count v.elapsed v.answer.origin v.answer.work

variable (t : Tally) (v : Visit) (visits : List Visit)

@[simp] theorem requests_after : (t.after v).requests = t.requests + 1 := by
  unfold after count countOrigin
  cases v.answer.origin <;> rfl

@[simp] theorem under_after (o : Origin) :
    (t.after v).under o = t.under o + if v.endsAt o then 1 else 0 := by
  simp only [← v.origin_answer_iff o]
  unfold after count countOrigin
  cases v.answer.origin <;> cases o <;> simp [under]

@[simp] theorem candidates_after :
    (t.after v).candidates = t.candidates + v.answer.work.candidates.toUInt64 := by
  unfold after count countOrigin
  cases v.answer.origin <;> rfl

@[simp] theorem reads_after : (t.after v).reads = t.reads + v.answer.work.read.toUInt64 := by
  unfold after count countOrigin
  cases v.answer.origin <;> rfl

@[simp] theorem nanoseconds_after :
    (t.after v).nanoseconds = t.nanoseconds + (min v.elapsed (UInt64.size - 1)).toUInt64 := by
  unfold after count countOrigin
  cases v.answer.origin <;> rfl

/-- Which of two requests comes first makes no difference to the tally. -/
theorem after_right_comm (u v : Visit) : (t.after u).after v = (t.after v).after u := by
  apply ext_under
  · simp
  · intro o
    simp [add_right_comm]
  · simp [add_right_comm]
  · simp [add_right_comm]
  · simp [add_right_comm]

/-- A count that every request adds its share to is the sum of the shares. -/
theorem count_foldl_after (count : Tally → UInt64) (share : Visit → Nat)
    (step : ∀ t v, count (after t v) = count t + (share v).toUInt64) :
    count (visits.foldl after t) = count t + (visits.map share).sum.toUInt64 := by
  induction visits generalizing t with
  | nil => simp
  | cons v rest ih =>
      rw [List.foldl_cons, ih, step, List.map_cons, List.sum_cons, add_assoc]
      exact congrArg (count t + ·) (UInt64.ofNat_add _ _).symm

theorem requests_foldl_after :
    (visits.foldl after t).requests = t.requests + visits.length.toUInt64 := by
  simpa using count_foldl_after t visits requests (fun _ => 1) requests_after

theorem under_foldl_after (o : Origin) :
    (visits.foldl after t).under o = t.under o + (visits.countP (·.endsAt o)).toUInt64 := by
  have counted : (visits.map fun v => if v.endsAt o then 1 else 0).sum =
      visits.countP (·.endsAt o) := by
    induction visits with
    | nil => rfl
    | cons v rest ih => simp [ih, List.countP_cons, add_comm]
  rw [← counted]
  apply count_foldl_after t visits (under · o)
  intro t v
  rw [under_after]
  split <;> rfl

/-- Every request is counted under one origin. -/
def Balanced (t : Tally) : Prop :=
  t.requests = t.includeHits + t.documentHits + t.scriptHits + t.misses

variable {t} in
theorem Balanced.after (balanced : t.Balanced) : (t.after v).Balanced := by
  unfold Balanced Tally.after count countOrigin at *
  cases v.answer.origin <;> grind

variable {t} in
theorem Balanced.foldl_after (balanced : t.Balanced) : (visits.foldl Tally.after t).Balanced := by
  induction visits generalizing t with
  | nil => exact balanced
  | cons v rest ih => exact ih (balanced.after v)

/-- Answers and counts a request as it is met. -/
def visit (t : Tally) (v : Visit) : Answer × Tally × List String :=
  ((t.serve v.request v.elapsed v.builds).runIn v.world []).1

/-- Answers and counts requests one after another. -/
def serveAll (t : Tally) : List Visit → Tally × List (Answer × List String)
  | [] => (t, [])
  | v :: rest =>
    let (answer, t, logged) := t.visit v
    let (last, replies) := t.serveAll rest
    (last, (answer, logged) :: replies)

/-- The summary, if one is due. -/
def due (t : Tally) : List String := if t.requests % 200 = 0 then [t.summary] else []

theorem visit_eq : t.visit v = (v.answer, t.after v, (t.after v).due) := by
  simp [visit, serve, Visit.answer, after, record]
  rfl

theorem serveAll_cons (rest : List Visit) :
    t.serveAll (v :: rest) = (((t.after v).serveAll rest).1,
      (v.answer, (t.after v).due) :: ((t.after v).serveAll rest).2) := by
  rw [serveAll, visit_eq]

theorem serveAll_last : (t.serveAll visits).1 = visits.foldl after t := by
  induction visits generalizing t with
  | nil => rfl
  | cons v rest ih =>
      rw [serveAll_cons]
      exact ih _

theorem serveAll_answers : (t.serveAll visits).2.map (·.1) = visits.map Visit.answer := by
  induction visits generalizing t with
  | nil => rfl
  | cons v rest ih =>
      rw [serveAll_cons]
      simp [ih]

theorem serveAll_logs : (t.serveAll visits).2.map (·.2) =
    visits.mapIdx fun n _ => (t.serveAll (visits.take (n + 1))).1.due := by
  induction visits generalizing t with
  | nil => rfl
  | cons v rest ih =>
      rw [serveAll_cons, List.mapIdx_cons, List.map_cons, ih]
      simp [serveAll_cons, serveAll]

theorem serveAll_ends :
    List.Forall₂ (fun v reply => v.Ends reply.1) visits (t.serveAll visits).2 := by
  induction visits generalizing t with
  | nil => exact .nil
  | cons v rest ih =>
      rw [serveAll_cons]
      exact .cons v.ends (ih _)

theorem under_serveAll (o : Origin) :
    (zero.serveAll visits).1.under o = (visits.countP (·.endsAt o)).toUInt64 := by
  rw [serveAll_last, under_foldl_after]
  cases o <;> exact zero_add _

theorem unanswered_serveAll :
    (t.serveAll visits).2.countP (·.1.location.isNone) = visits.countP (·.endsAt .nothing) := by
  have unanswered := congrArg (List.countP fun answer => answer.location.isNone)
    (serveAll_answers t visits)
  rwa [List.countP_map, List.countP_map] at unanswered

/-- How the tally after some requests, and the replies to them, go with the ways in which the
requests end. -/
structure Accounts (visits : List Visit) (t : Tally) (replies : List (Answer × List String)) :
    Prop where
  ends : List.Forall₂ (fun v reply => v.Ends reply.1) visits replies
  requests : t.requests = visits.length.toUInt64
  origins : t.requests = t.includeHits + t.documentHits + t.scriptHits + t.misses
  misses : t.misses = (replies.countP (·.1.location.isNone)).toUInt64
  includeHits : t.includeHits = (visits.countP (·.led?.isSome)).toUInt64
  documentHits : t.documentHits = (visits.countP (·.own?.isSome)).toUInt64
  scriptHits : t.scriptHits = (visits.countP (·.found?.isSome)).toUInt64
  candidates : t.candidates = ((Visit.searches visits).map Work.candidates).sum.toUInt64
  reads : t.reads = ((Visit.searches visits).map Work.read).sum.toUInt64
  summaries : replies.map (·.2) = visits.mapIdx fun n _ =>
    let met := (zero.serveAll (visits.take (n + 1))).1
    if met.requests % 200 = 0 then [met.summary] else []

/-- The tally accounts for every request, and the order in which they come has no part in it. -/
theorem accounts_serveAll (visits : List Visit) :
    Accounts visits (zero.serveAll visits).1 (zero.serveAll visits).2 ∧
      ∀ others : List Visit, others.Perm visits →
        (zero.serveAll others).1 = (zero.serveAll visits).1 := by
  have last := serveAll_last zero visits
  refine ⟨?_, ?_⟩
  · constructor
    · exact serveAll_ends zero visits
    · rw [last, requests_foldl_after]
      exact zero_add _
    · rw [last]
      exact Balanced.foldl_after visits rfl
    · rw [unanswered_serveAll]
      exact under_serveAll visits .nothing
    · exact under_serveAll visits .includeLine
    · exact under_serveAll visits .document
    · exact under_serveAll visits .includedScript
    · rw [last, Visit.sum_searches Work.candidates rfl,
        count_foldl_after zero visits candidates _ candidates_after]
      exact zero_add _
    · rw [last, Visit.sum_searches Work.read rfl,
        count_foldl_after zero visits reads _ reads_after]
      exact zero_add _
    · exact serveAll_logs zero visits
  · intro others same
    rw [last, serveAll_last]
    exact same.foldl_eq' (fun u _ v _ t => t.after_right_comm u v) zero

/-- One request for each way to end. In the fourth the included script is listed but can no longer
be read, for the last no pattern can be built. -/
theorem accounts_serveAll_reverse :
    let s : Script :=
      ⟨⟨Uri.fileScheme, some ⟨[], [], none⟩, "/p/src/a.au3".toList, none, none⟩,
        "#include <b.au3>\nLocal $x\ngo()".toList⟩
    let library : Path := .ofString "/p/lib/b.au3"
    let fs : FileSystem :=
      { listDir := fun dir => if dir = .ofString "/p/lib" then some [⟨library, .file⟩] else none
        readText := fun file => if file = library then some "Func go()".toList else none
        isFile := fun file => file = library }
    let visits : List Visit :=
      [⟨.place s ⟨0, 3⟩ .standard, fun _ => true, fun _ => fs, 7⟩,
        ⟨.place s ⟨1, 7⟩ .standard, fun _ => true, fun _ => fs, 5⟩,
        ⟨.place s ⟨2, 1⟩ .standard, fun _ => true, fun _ => fs, 3⟩,
        ⟨.place s ⟨2, 1⟩ .standard, fun _ => true,
          fun past => if past = [] then fs else { fs with readText := fun _ => none }, 2⟩,
        ⟨.place s ⟨1, 7⟩ .standard, fun _ => false, fun _ => fs, 1⟩]
    (zero.serveAll visits.reverse).1 = ⟨5, 1, 1, 1, 2, 2, 1, 18⟩ ∧
      ((zero.serveAll visits).2.countP (·.1.location.isNone)).toUInt64 = 2 := by
  intro s library fs visits
  obtain ⟨accounts, reordered⟩ := accounts_serveAll visits
  have last : (zero.serveAll visits).1 = ⟨5, 1, 1, 1, 2, 2, 1, 18⟩ := by decide +kernel
  refine ⟨(reordered _ visits.reverse_perm).trans last, ?_⟩
  rw [← accounts.misses, last]

end Tally

end AutoItNav
