import AutoItNav.Proofs.Server.Step
import Mathlib.Data.List.Induction
import Mathlib.Logic.Relation

/-!
Handlers that overlap. They start in the order in which notifications arrive, and wherever one
pauses, later ones may start or go on. A document, and likewise the settings, ends up as if each
notification had been handled before the next one arrived, if the handlers that are about it go on
in turn; what other handlers do meanwhile makes no difference.
-/
namespace AutoItNav.Server

inductive Notification where
  | document (notice : DocumentNotice)
  | configuration (payload : Json)

/-- What a notification is about: one document, or the settings. -/
inductive Topic where
  | document (uri : Uri)
  | settings
deriving DecidableEq

namespace Notification

def handler : Notification → Handler
  | document notice => notice.handler
  | configuration payload => configurationHandler payload

def topic : Notification → Topic
  | document notice => .document notice.uri
  | configuration _ => .settings

end Notification

namespace Shared

/-- The part of what is shared that a topic stands for. -/
def view (shared : Shared) : Topic → Option Document ⊕ Settings
  | .document uri => .inl (shared.documents.get? uri)
  | .settings => .inr shared.settings

def handle (shared : Shared) (n : Notification) : Shared := (n.handler.run shared).1

/-- Handles one notification after another, each to its end. -/
def handleAll (shared : Shared) (notifications : List Notification) : Shared :=
  notifications.foldl handle shared

end Shared

namespace Handler

instance : (h : Handler) → Decidable (h = .finished)
  | .finished => .isTrue rfl
  | .update .. => .isFalse (by rintro ⟨⟩)
  | .readSettings .. => .isFalse (by rintro ⟨⟩)
  | .writeSettings .. => .isFalse (by rintro ⟨⟩)
  | .send .. => .isFalse (by rintro ⟨⟩)

end Handler

/-- A handler that was started, with what is left of it to do. -/
structure Task where
  notification : Notification
  rest : Handler

/-- What is shared, and the handlers that were started, in the order of their notifications. -/
structure Crowd where
  shared : Shared
  tasks : List Task

namespace Crowd

def notifications (c : Crowd) : List Notification := c.tasks.map Task.notification

/-- The handlers of this topic are at their ends. -/
def Idle (τ : Topic) (tasks : List Task) : Prop :=
  ∀ task ∈ tasks, task.notification.topic = τ → task.rest = .finished

def Finished (c : Crowd) : Prop := ∀ task ∈ c.tasks, task.rest = .finished

instance (τ : Topic) (tasks : List Task) : Decidable (Idle τ tasks) :=
  inferInstanceAs (Decidable (∀ _ ∈ _, _))

instance (c : Crowd) : Decidable c.Finished := inferInstanceAs (Decidable (∀ _ ∈ _, _))

def start (c : Crowd) (n : Notification) : Crowd where
  shared := (n.handler.settle c.shared).1
  tasks := c.tasks ++ [⟨n, (n.handler.settle c.shared).2⟩]

/-- One handler starts or goes on, up to its next pause. About a topic in `T`, a handler goes on in
turn only, when those before it are at their ends; one that does not pause at its start has to be in
turn already there. -/
inductive Step (T : Set Topic) : Crowd → Crowd → Prop
  | start (c : Crowd) (n : Notification)
      (turn : n.topic ∈ T → (n.handler.settle c.shared).2 = .finished → Idle n.topic c.tasks) :
      Step T c (c.start n)
  | resume (shared : Shared) (front : List Task) (task : Task) (back : List Task)
      (turn : task.notification.topic ∈ T → Idle task.notification.topic front) :
      Step T ⟨shared, front ++ task :: back⟩
        ⟨(task.rest.resume shared).1,
          front ++ ⟨task.notification, (task.rest.resume shared).2⟩ :: back⟩

/-- Handlers overlap, beginning with none. -/
def Run (T : Set Topic) (shared : Shared) (c : Crowd) : Prop :=
  Relation.ReflTransGen (Step T) ⟨shared, []⟩ c

end Crowd

namespace Handler

variable {h : Handler} {shared : Shared}

/-- A pause makes no difference to a handler that runs alone. -/
theorem run_settle (h : Handler) (shared : Shared) :
    ((h.settle shared).2.run (h.settle shared).1).1 = (h.run shared).1 := by
  induction h generalizing shared with
  | update change next ih => exact ih _
  | finished | readSettings next ih | writeSettings settings next ih | send notice next ih => rfl

theorem run_resume (h : Handler) (shared : Shared) :
    ((h.resume shared).2.run (h.resume shared).1).1 = (h.run shared).1 := by
  cases h with
  | finished => rfl
  | update change next => exact run_settle _ _
  | readSettings next => exact run_settle _ _
  | writeSettings settings next => exact run_settle _ _
  | send notice next => exact run_settle _ _

end Handler

/-- How far the handler of a notification can be. -/
inductive Stage : Notification → Handler → Prop
  | fresh (n : Notification) : Stage n n.handler
  | announcing (document : Document) (notice : Notice) :
      Stage (.document (.opened document)) (.send notice (.update (·.insert document) .finished))
  | writing (payload : Json) (settings : Settings) :
      Stage (.configuration payload) (.writeSettings settings .finished)
  | finished (n : Notification) : Stage n .finished

namespace Stage

variable {n : Notification} {h : Handler} {shared a b : Shared} {τ : Topic}

/-- A handler starts by pausing, or acts and is at its end. -/
theorem start_cases (n : Notification) (shared : Shared) :
    n.handler.settle shared = (shared, n.handler) ∨
      (n.handler.settle shared).2 = .finished := by
  cases n with
  | configuration payload => exact .inl rfl
  | document notice =>
      cases notice with
      | opened document => exact .inl rfl
      | changed uri edits version => exact .inr rfl
      | closed uri => exact .inr rfl

theorem start (n : Notification) (shared : Shared) : Stage n (n.handler.settle shared).2 := by
  rcases start_cases n shared with paused | acted
  · rw [paused]
    exact .fresh n
  · rw [acted]
    exact .finished n

theorem resume (stage : Stage n h) (shared : Shared) : Stage n (h.resume shared).2 := by
  cases stage with
  | announcing document notice => exact .finished _
  | writing payload settings => exact .finished _
  | finished n => exact .finished n
  | fresh n =>
      cases n with
      | configuration payload =>
          simp only [Notification.handler, configurationHandler, Handler.resume]
          split
          · exact .finished _
          · exact .writing payload _
      | document notice =>
          cases notice with
          | changed uri edits version => exact .finished _
          | closed uri => exact .finished _
          | opened document =>
              simp only [Notification.handler, DocumentNotice.handler, openHandler, Handler.resume]
              split
              · exact .announcing document _
              · exact .finished _

/-- What is left of a handler changes the document that it is about, or the settings, or nothing. -/
theorem run_cases (stage : Stage n h) :
    (∀ shared, (h.run shared).1 = shared) ∨
      (∃ notice, n = .document notice ∧ ∀ shared, (h.run shared).1 =
        { shared with documents := notice.update shared.documents }) ∨
      ∃ (payload : Json) (change : Settings → Settings), n = .configuration payload ∧
        ∀ shared, (h.run shared).1 = { shared with settings := change shared.settings } := by
  cases stage with
  | announcing document notice => exact .inr (.inl ⟨.opened document, rfl, fun _ => rfl⟩)
  | writing payload settings => exact .inr (.inr ⟨payload, fun _ => settings, rfl, fun _ => rfl⟩)
  | finished n => exact .inl fun _ => rfl
  | fresh n =>
      cases n with
      | document notice => exact .inr (.inl ⟨notice, rfl, fun shared => shared.take_eq notice⟩)
      | configuration payload =>
          refine .inr (.inr ⟨payload, (·.merged payload), rfl, ?_⟩)
          intro shared
          exact congrArg Prod.fst (run_configurationHandler payload shared)

/-- Other topics are left as they are. -/
theorem view_run_other (stage : Stage n h) (other : n.topic ≠ τ) (shared : Shared) :
    (h.run shared).1.view τ = shared.view τ := by
  rcases stage.run_cases with idle | ⟨notice, rfl, effect⟩ | ⟨payload, change, rfl, effect⟩
  · rw [idle]
  · rw [effect]
    cases τ with
    | settings => rfl
    | document uri =>
        have apart : notice.uri ≠ uri := mt (congrArg Topic.document) other
        exact congrArg Sum.inl (DocumentNotice.get?_update_other apart _)
  · rw [effect]
    cases τ with
    | settings => exact absurd rfl other
    | document uri => rfl

/-- What becomes of a topic depends on nothing but what it was. -/
theorem view_run_congr (stage : Stage n h) (same : a.view τ = b.view τ) :
    (h.run a).1.view τ = (h.run b).1.view τ := by
  by_cases own : n.topic = τ
  · subst own
    rcases stage.run_cases with idle | ⟨notice, rfl, effect⟩ | ⟨payload, change, rfl, effect⟩
    · rw [idle, idle, same]
    · rw [effect, effect]
      exact congrArg Sum.inl (DocumentNotice.get?_update_congr (Sum.inl.inj same))
    · rw [effect, effect]
      exact congrArg (fun settings => Sum.inr (change settings)) (Sum.inr.inj same)
  · rw [stage.view_run_other own, stage.view_run_other own, same]

/-- Going on to the next pause leaves other topics as they are. -/
theorem view_resume_other (stage : Stage n h) (other : n.topic ≠ τ) (shared : Shared) :
    (h.resume shared).1.view τ = shared.view τ :=
  calc
    _ = ((h.resume shared).2.run (h.resume shared).1).1.view τ :=
      ((stage.resume shared).view_run_other other _).symm
    _ = (h.run shared).1.view τ := by rw [Handler.run_resume]
    _ = shared.view τ := stage.view_run_other other shared

end Stage

namespace Crowd

/-- Lets the tasks run to their ends, one after another. -/
def runAll (tasks : List Task) (shared : Shared) : Shared :=
  tasks.foldl (fun shared task => (task.rest.run shared).1) shared

def Staged (tasks : List Task) : Prop := ∀ task ∈ tasks, Stage task.notification task.rest

variable {T : Set Topic} {shared a b : Shared} {τ : Topic} {tasks front back : List Task}
  {c c' : Crowd}

theorem runAll_cons (task : Task) (tasks : List Task) (shared : Shared) :
    runAll (task :: tasks) shared = runAll tasks (task.rest.run shared).1 := rfl

theorem view_runAll_congr (staged : Staged tasks) (same : a.view τ = b.view τ) :
    (runAll tasks a).view τ = (runAll tasks b).view τ := by
  induction tasks generalizing a b with
  | nil => exact same
  | cons task tasks ih =>
      obtain ⟨first, later⟩ := List.forall_mem_cons.mp staged
      exact ih later (first.view_run_congr same)

theorem view_runAll_idle (staged : Staged tasks) (idle : Idle τ tasks) (shared : Shared) :
    (runAll tasks shared).view τ = shared.view τ := by
  induction tasks generalizing shared with
  | nil => rfl
  | cons task tasks ih =>
      obtain ⟨first, later⟩ := List.forall_mem_cons.mp staged
      obtain ⟨quiet, rest⟩ := List.forall_mem_cons.mp idle
      rw [runAll_cons, ih later rest]
      by_cases own : task.notification.topic = τ
      · rw [quiet own]
        rfl
      · exact first.view_run_other own shared

theorem runAll_append (front back : List Task) (shared : Shared) :
    runAll (front ++ back) shared = runAll back (runAll front shared) :=
  List.foldl_append

theorem runAll_of_finished (finished : ∀ task ∈ tasks, task.rest = .finished) (shared : Shared) :
    runAll tasks shared = shared := by
  induction tasks with
  | nil => rfl
  | cons task tasks ih =>
      obtain ⟨first, later⟩ := List.forall_mem_cons.mp finished
      rw [runAll_cons, first]
      exact ih later

/-- What a start makes of a topic is what handling the notification last would make of it. -/
theorem view_runAll_start {n : Notification} (staged : Staged c.tasks)
    (turn : n.topic = τ → (n.handler.settle c.shared).2 = .finished → Idle τ c.tasks) :
    (runAll (c.start n).tasks (c.start n).shared).view τ =
      ((runAll c.tasks c.shared).handle n).view τ := by
  have alone : ((n.handler.settle c.shared).2.run (n.handler.settle c.shared).1).1 =
      c.shared.handle n := Handler.run_settle n.handler c.shared
  rw [start, runAll_append]
  change ((n.handler.settle c.shared).2.run (runAll c.tasks (n.handler.settle c.shared).1)).1.view τ
    = _
  rcases Stage.start_cases n c.shared with paused | acted
  · rw [paused]
    rfl
  · rw [acted] at alone ⊢
    change (n.handler.settle c.shared).1 = _ at alone
    change (runAll c.tasks (n.handler.settle c.shared).1).view τ = _
    rw [alone]
    by_cases own : n.topic = τ
    · have idle := turn own acted
      rw [view_runAll_idle staged idle]
      exact (Stage.fresh n).view_run_congr (view_runAll_idle staged idle c.shared).symm
    · have still : (c.shared.handle n).view τ = c.shared.view τ :=
        (Stage.fresh n).view_run_other own c.shared
      rw [view_runAll_congr staged still]
      exact ((Stage.fresh n).view_run_other own _).symm

/-- Going on in turn makes no difference to what the topic becomes. -/
theorem view_runAll_resume {task : Task} (staged : Staged (front ++ task :: back))
    (turn : task.notification.topic = τ → Idle τ front) :
    (runAll (front ++ ⟨task.notification, (task.rest.resume shared).2⟩ :: back)
        (task.rest.resume shared).1).view τ =
      (runAll (front ++ task :: back) shared).view τ := by
  obtain ⟨early, rest⟩ := List.forall_mem_append.mp staged
  obtain ⟨stage, late⟩ := List.forall_mem_cons.mp rest
  have next : Stage task.notification (task.rest.resume shared).2 := stage.resume shared
  rw [runAll_append, runAll_append]
  apply view_runAll_congr late
  by_cases own : task.notification.topic = τ
  · have idle := turn own
    calc
      _ = ((task.rest.resume shared).2.run (task.rest.resume shared).1).1.view τ :=
        next.view_run_congr (view_runAll_idle early idle _)
      _ = (task.rest.run shared).1.view τ := by rw [Handler.run_resume]
      _ = _ := stage.view_run_congr (view_runAll_idle early idle shared).symm
  · calc
      _ = (runAll front (task.rest.resume shared).1).view τ := next.view_run_other own _
      _ = (runAll front shared).view τ :=
        view_runAll_congr early (stage.view_resume_other own shared)
      _ = _ := (stage.view_run_other own _).symm

/-- What a step preserves: once the tasks have run to their ends, the topics are what handling the
notifications one after another makes of them. -/
structure Serial (T : Set Topic) (origin : Shared) (c : Crowd) : Prop where
  staged : Staged c.tasks
  views : ∀ τ ∈ T,
    (runAll c.tasks c.shared).view τ = (origin.handleAll c.notifications).view τ

theorem Serial.step {origin : Shared} (serial : Serial T origin c) (step : Step T c c') :
    Serial T origin c' := by
  cases step with
  | start _ n turn =>
      constructor
      · refine List.forall_mem_append.mpr ⟨serial.staged, ?_⟩
        exact List.forall_mem_singleton.mpr (Stage.start n c.shared)
      · intro τ member
        have told : (c.start n).notifications = c.notifications ++ [n] := List.map_append
        rw [told, Shared.handleAll, List.foldl_append]
        refine (view_runAll_start serial.staged ?_).trans ?_
        · rintro rfl
          exact turn member
        · exact (Stage.fresh n).view_run_congr (serial.views τ member)
  | resume shared front task back turn =>
      have early := fun other member => serial.staged other (List.mem_append_left _ member)
      have late := fun other member => serial.staged other (List.mem_append_right _ member)
      constructor
      · refine List.forall_mem_append.mpr ⟨early, List.forall_mem_cons.mpr ⟨?_, ?_⟩⟩
        · exact (List.forall_mem_cons.mp late).1.resume shared
        · exact (List.forall_mem_cons.mp late).2
      · intro τ member
        refine (view_runAll_resume serial.staged ?_).trans ?_
        · rintro rfl
          exact turn member
        · rw [serial.views τ member, notifications, notifications]
          simp

theorem Serial.of_run {origin : Shared} (run : Run T origin c) : Serial T origin c := by
  induction run with
  | refl => exact ⟨List.forall_mem_nil _, fun _ _ => rfl⟩
  | tail earlier step ih => exact ih.step step

/-- With the tasks before it at their ends, the last task can go on to its own end. -/
theorem steps_to_end (n : Notification) (finished : ∀ task ∈ front, task.rest = .finished)
    (h : Handler) (shared : Shared) :
    Relation.ReflTransGen (Step T)
      ⟨(h.settle shared).1, front ++ [⟨n, (h.settle shared).2⟩]⟩
      ⟨(h.run shared).1, front ++ [⟨n, .finished⟩]⟩ := by
  have turn : n.topic ∈ T → Idle n.topic front := fun _ task member _ => finished task member
  induction h generalizing shared with
  | finished => exact .refl
  | update change next ih => exact ih _
  | readSettings next ih =>
      exact .head (.resume shared front ⟨n, .readSettings next⟩ [] turn) (ih shared.settings shared)
  | writeSettings settings next ih =>
      exact .head (.resume shared front ⟨n, .writeSettings settings next⟩ [] turn) (ih _)
  | send notice next ih =>
      exact .head (.resume shared front ⟨n, .send notice next⟩ [] turn) (ih _)

/-- Handling one notification at a time is one way for the handlers to overlap, and keeps all
turns. -/
theorem exists_run (T : Set Topic) (shared : Shared) (notifications : List Notification) :
    ∃ c, Run T shared c ∧ c.Finished ∧ c.notifications = notifications ∧
      c.shared = shared.handleAll notifications := by
  induction notifications using List.reverseRecOn with
  | nil => exact ⟨⟨shared, []⟩, .refl, List.forall_mem_nil _, rfl, rfl⟩
  | append_singleton notifications n ih =>
      obtain ⟨c, run, finished, rfl, reached⟩ := ih
      have started : Step T c (c.start n) := .start c n fun _ _ task member _ => finished task member
      refine ⟨_, (run.tail started).trans (steps_to_end n finished n.handler c.shared), ?_, ?_, ?_⟩
      · exact List.forall_mem_append.mpr ⟨finished, List.forall_mem_singleton.mpr rfl⟩
      · exact List.map_append
      · rw [reached, Shared.handleAll, Shared.handleAll, List.foldl_append]
        rfl

/-- However handlers overlap, once all are at their ends every document whose handlers went on in
turn is what it would be if the notifications had been handled one at a time as they arrived, and so
are the settings. -/
theorem serial_of_run (run : Run T shared c) (finished : c.Finished) :
    (∀ uri, Topic.document uri ∈ T → c.shared.documents.get? uri =
      (shared.handleAll c.notifications).documents.get? uri) ∧
      (Topic.settings ∈ T → c.shared.settings = (shared.handleAll c.notifications).settings) := by
  have serial := Serial.of_run run
  have ended := runAll_of_finished finished c.shared
  refine ⟨?_, ?_⟩
  · intro uri member
    have same := serial.views _ member
    rw [ended] at same
    exact Sum.inl.inj same
  · intro member
    have same := serial.views _ member
    rw [ended] at same
    exact Sum.inr.inj same

/-- The document is stored between the reading and the writing of the settings. -/
theorem serial_of_run_between :
    let d : Document := ⟨⟨"file".toList, none, "/a".toList, none, none⟩, ['x'], 1⟩
    let payload : Json := .object [("logging", .object [("level", .string "error")])]
    let notifications : List Notification := [.configuration payload, .document (.opened d)]
    ∃ c, Run Set.univ ⟨.empty, .standard⟩ c ∧ c.Finished ∧ c.notifications = notifications ∧
      c.shared.documents.get? d.uri = some d ∧ c.shared.settings.level = .error := by
  intro d payload notifications
  have started : Run Set.univ ⟨.empty, .standard⟩ ((Crowd.mk ⟨.empty, .standard⟩ []).start
      (.configuration payload) |>.start (.document (.opened d))) :=
    (Relation.ReflTransGen.refl.tail (.start _ _ fun _ => by decide +kernel)).tail
      (.start _ _ fun _ => by decide +kernel)
  have read := (started.tail (.resume _ [] _ [_] fun _ => by decide +kernel))
  have stored := (read.tail (.resume _ [_] _ [] fun _ => by decide +kernel)).tail
    (.resume _ [_] _ [] fun _ => by decide +kernel)
  have written := stored.tail (.resume _ [] _ [_] fun _ => by decide +kernel)
  obtain ⟨c, run, finished, told⟩ : ∃ c, Run Set.univ ⟨.empty, .standard⟩ c ∧ c.Finished ∧
      c.notifications = notifications := ⟨_, written, by decide +kernel, rfl⟩
  obtain ⟨documents, settings⟩ := serial_of_run run finished
  refine ⟨c, run, finished, told, (documents d.uri trivial).trans ?_, ?_⟩
  · rw [told]
    decide +kernel
  · rw [settings trivial, told]
    decide +kernel

/-- Out of turn updates are lost: a document that was opened and closed stays open when the closing
overtakes the opening, and of two payloads that are read before either is written only the second
one counts. -/
theorem lost_out_of_turn :
    let origin : Shared := ⟨.empty, .standard⟩
    let d : Document := ⟨⟨"file".toList, none, "/a".toList, none, none⟩, ['x'], 1⟩
    let first : Json := .object [("navigation", .object [("sourceDirName", .string "code")])]
    let second : Json := .object [("logging", .object [("level", .string "error")])]
    (∃ c, Run ∅ origin c ∧ c.Finished ∧
      c.notifications = [.document (.opened d), .document (.closed d.uri)] ∧
      c.shared.documents.get? d.uri = some d ∧
      (origin.handleAll c.notifications).documents.get? d.uri = none) ∧
    ∃ c, Run ∅ origin c ∧ c.Finished ∧
      c.notifications = [.configuration first, .configuration second] ∧
      c.shared.settings.layout.sourceDir = "src" ∧
      (origin.handleAll c.notifications).settings.layout.sourceDir = "code" := by
  intro origin d first second
  have free : ∀ {P : Prop} {τ : Topic}, τ ∈ (∅ : Set Topic) → P := fun member => member.elim
  refine ⟨?_, ?_⟩
  · have started : Run ∅ origin (((Crowd.mk origin []).start (.document (.opened d))).start
        (.document (.closed d.uri))) :=
      (Relation.ReflTransGen.refl.tail (.start _ _ free)).tail (.start _ _ free)
    have stored := (started.tail (.resume _ [] _ [_] free)).tail (.resume _ [] _ [_] free)
    exact ⟨_, stored, by decide +kernel, rfl, by decide +kernel, by decide +kernel⟩
  · have started : Run ∅ origin (((Crowd.mk origin []).start (.configuration first)).start
        (.configuration second)) :=
      (Relation.ReflTransGen.refl.tail (.start _ _ free)).tail (.start _ _ free)
    have read := (started.tail (.resume _ [] _ [_] free)).tail (.resume _ [_] _ [] free)
    have written := (read.tail (.resume _ [] _ [_] free)).tail (.resume _ [_] _ [] free)
    exact ⟨_, written, by decide +kernel, rfl, by decide +kernel, by decide +kernel⟩

end Crowd

end AutoItNav.Server
