import SalesAgent.A2a.Tasks

/-!
# What the A2A server reports of a task

Calls interleave, and each task is written by the call that created it and by the
cancellations that name it.  An event is therefore a list of writes to the objects behind
the names, and a run is all of them in order.

**Results.**
* `getTask_replays`: the task reported under an identifier is the one created last under
  it, after its own events, whatever happened to other tasks in between.
* `reported_task_results`: what every task reported in a run carries.
* `cancel_sticks_iff`: a cancelled task stays cancelled exactly as long as its call does not
  come back with another state.
-/

namespace SalesAgent
namespace A2a

open Idempotency Runs NamedObjects

/-! ### Events as writes -/

/-- The task object an event creates, with its name. -/
def Agent.created
    (agent : Agent) : Event → Option (String × Sent)
  | .messageSend params hasHeaders taskId =>
      match invocationOf params with
      | .error _ => none
      | .ok scan => some (taskId, (agent.opened params hasHeaders taskId scan).1)
  | _ => none

/-- What an event writes. -/
def Agent.writesOf
    (agent : Agent)
    (event : Event) : List (Write String Sent) :=
  match event with
  | .messageSend _ _ _ => (agent.created event).toList.map (fun new => .bind new.1 new.2)
  | .answered call messageId answer => [.change call (Sent.answered messageId answer)]
  | .abandoned call => [.change call Sent.abandoned]
  | .getTask _ => []
  | .cancelTask taskId => [.changeNamed taskId Sent.cancelled]

/-- What an event does to the task object at place `n`, which is named `taskId`. -/
def ownEvent
    (n : Nat)
    (taskId : String)
    (sent : Sent) : Event → Sent
  | .answered call messageId answer =>
      if call = n then sent.answered messageId answer else sent
  | .abandoned call => if call = n then sent.abandoned else sent
  | .cancelTask other => if other = taskId then sent.cancelled else sent
  | _ => sent

section Writes

variable {agent : Agent}

theorem step_eq_run
    {handler handler' : Handler}
    {event : Event}
    (h : agent.Step handler event handler') :
    handler' = handler.run (agent.writesOf event) := by
  obtain ⟨reply, h⟩ := h
  cases event with
  | messageSend params hasHeaders taskId =>
      simp only [Agent.step, Agent.onMessageSend, Option.some.injEq] at h
      simp only [Agent.writesOf, Agent.created]
      cases hinvocation : invocationOf params with
      | error error =>
          rw [hinvocation] at h
          cases h
          rfl
      | ok scan =>
          rw [hinvocation] at h
          cases h
          rfl
  | answered call messageId answer =>
      simp only [Agent.step] at h
      split at h
      · obtain ⟨sent, -, hsent⟩ := Option.map_eq_some_iff.mp h
        cases hsent
        rfl
      · cases h
  | abandoned call =>
      simp only [Agent.step] at h
      split at h
      · cases h
        rfl
      · cases h
  | getTask taskId =>
      cases h
      rfl
  | cancelTask taskId =>
      simp only [Agent.step, onCancelTask, getTaskOrRaise, Option.some.injEq] at h
      change handler' = handler.changeNamed taskId Sent.cancelled
      cases hfind : handler.find taskId with
      | none =>
          rw [hfind] at h
          cases h
          simp only [changeNamed, (find_eq_none_iff handler taskId).mp hfind]
      | some sent =>
          rw [hfind] at h
          cases h
          rfl

theorem run_eq_run
    {handler handler' : Handler}
    {es : List Event}
    (h : Run agent.Step handler es handler') :
    handler' = handler.run (es.flatMap agent.writesOf) := by
  induction h with
  | nil s => rfl
  | cons hstep _ ih =>
      rw [ih, step_eq_run hstep, List.flatMap_cons, NamedObjects.run, NamedObjects.run,
        NamedObjects.run, List.foldl_append]

theorem not_binds_of_not_created
    {event : Event}
    {taskId : String}
    (h : ∀ sent, agent.created event ≠ some (taskId, sent)) :
    ∀ w ∈ agent.writesOf event, ¬ w.Binds taskId := by
  intro w hw hbinds
  cases event with
  | messageSend params hasHeaders name =>
      obtain ⟨new, hnew, rfl⟩ := List.mem_map.mp hw
      obtain ⟨other, sent⟩ := new
      have hother : other = taskId := hbinds
      subst hother
      exact h sent (by simpa using hnew)
  | answered call messageId answer =>
      rw [List.mem_singleton.mp hw] at hbinds
      exact hbinds
  | abandoned call =>
      rw [List.mem_singleton.mp hw] at hbinds
      exact hbinds
  | getTask name => cases hw
  | cancelTask name =>
      rw [List.mem_singleton.mp hw] at hbinds
      exact hbinds

theorem not_binds_of_none_created
    {es : List Event}
    {taskId : String}
    (h : ∀ event ∈ es, ∀ sent, agent.created event ≠ some (taskId, sent)) :
    ∀ w ∈ es.flatMap agent.writesOf, ¬ w.Binds taskId := by
  intro w hw
  obtain ⟨event, hevent, hw⟩ := List.mem_flatMap.mp hw
  exact not_binds_of_not_created (h event hevent) w hw

theorem foldl_own_writesOf
    (n : Nat)
    (taskId : String)
    (event : Event)
    (sent : Sent) :
    (agent.writesOf event).foldl (fun sent w => w.own n taskId sent) sent =
      ownEvent n taskId sent event := by
  cases event with
  | messageSend params hasHeaders name =>
      simp only [Agent.writesOf, ownEvent]
      cases agent.created (.messageSend params hasHeaders name) <;> rfl
  | answered call messageId answer => rfl
  | abandoned call => rfl
  | getTask name => rfl
  | cancelTask name => rfl

theorem foldl_own_flatMap
    (n : Nat)
    (taskId : String)
    (es : List Event)
    (sent : Sent) :
    (es.flatMap agent.writesOf).foldl (fun sent w => w.own n taskId sent) sent =
      es.foldl (ownEvent n taskId) sent := by
  induction es generalizing sent with
  | nil => rfl
  | cons event rest ih =>
      rw [List.flatMap_cons, List.foldl_append, foldl_own_writesOf, ih, List.foldl_cons]

theorem length_objects_run
    {handler handler' : Handler}
    {es : List Event}
    (h : Run agent.Step handler es handler') :
    handler'.objects.length =
      handler.objects.length + es.countP (fun event => (agent.created event).isSome) := by
  induction h with
  | nil s => rfl
  | @cons s t u event es hstep _ ih =>
      have hlength : t.objects.length =
          s.objects.length + if (agent.created event).isSome then 1 else 0 := by
        rw [step_eq_run hstep]
        cases event with
        | messageSend params hasHeaders name =>
            simp only [Agent.writesOf]
            cases agent.created (.messageSend params hasHeaders name) with
            | none => rfl
            | some new => exact List.length_append
        | answered call messageId answer => exact List.length_modify _ _ _
        | abandoned call => exact List.length_modify _ _ _
        | getTask name => rfl
        | cancelTask name =>
            change (s.changeNamed name Sent.cancelled).objects.length = _
            unfold changeNamed
            split
            · rfl
            · exact List.length_modify _ _ _
      rw [ih, hlength, List.countP_cons]
      omega

theorem step_of_created
    {handler handler' : Handler}
    {event : Event}
    {taskId : String}
    {sent : Sent}
    (hcreated : agent.created event = some (taskId, sent))
    (h : agent.Step handler event handler') :
    handler' = handler.bind taskId sent := by
  rw [step_eq_run h]
  cases event with
  | messageSend params hasHeaders name =>
      simp only [Agent.writesOf, hcreated]
      rfl
  | _ => cases hcreated

theorem find_of_created
    {before later : List Event}
    {event : Event}
    {handler : Handler}
    {taskId : String}
    {sent : Sent}
    (h : Run agent.Step NamedObjects.empty (before ++ event :: later) handler)
    (hcreated : agent.created event = some (taskId, sent))
    (hlast : ∀ event ∈ later, ∀ sent, agent.created event ≠ some (taskId, sent)) :
    handler.refer taskId = some (before.countP (fun event => (agent.created event).isSome)) ∧
      handler.find taskId =
        some (later.foldl
          (ownEvent (before.countP (fun event => (agent.created event).isSome)) taskId) sent) := by
  obtain ⟨start, hbefore, hrest⟩ := h.split
  obtain ⟨middle, hstep, hlater⟩ := hrest.uncons
  have hlength : start.objects.length =
      before.countP (fun event => (agent.created event).isSome) := by
    rw [length_objects_run hbefore]
    exact Nat.zero_add _
  have hmiddle := step_of_created hcreated hstep
  have hkeep := not_binds_of_none_created hlast
  rw [run_eq_run hlater, hmiddle, ← hlength]
  constructor
  · rw [refer_run_of_not_bound _ taskId hkeep, refer_bind_self]
  · rw [find_after_bind start taskId sent hkeep, foldl_own_flatMap]

theorem find_of_not_created
    {es : List Event}
    {handler : Handler}
    {taskId : String}
    (h : Run agent.Step NamedObjects.empty es handler)
    (hnone : ∀ event ∈ es, ∀ sent, agent.created event ≠ some (taskId, sent)) :
    handler.find taskId = none := by
  rw [run_eq_run h]
  exact find_eq_none_of_not_bound taskId (not_binds_of_none_created hnone)

end Writes

/-- What `tasks/get` answers in any run: an identifier under which no task was created is
not found; otherwise the task is the one created last under it, as its own events left it,
which are the answer to its own call and the cancellations that name it. -/
theorem getTask_replays
    {agent : Agent}
    {es : List Event}
    {handler : Handler}
    (h : Run agent.Step NamedObjects.empty es handler)
    (taskId : String) :
    ((∀ event ∈ es, ∀ sent, agent.created event ≠ some (taskId, sent)) →
      onGetTask handler taskId =
        .refused (.taskNotFound ("Task not found: " ++ taskId) taskId)) ∧
    (∀ before event later sent, es = before ++ event :: later →
      agent.created event = some (taskId, sent) →
      (∀ event ∈ later, ∀ sent, agent.created event ≠ some (taskId, sent)) →
      onGetTask handler taskId =
        .task (later.foldl
          (ownEvent (before.countP (fun event => (agent.created event).isSome)) taskId)
          sent).task) := by
  constructor
  · intro hnone
    rw [onGetTask, getTaskOrRaise, find_of_not_created h hnone]
  · rintro before event later sent rfl hcreated hlast
    rw [onGetTask, getTaskOrRaise, (find_of_created h hcreated hlast).2]

/-- A server with one skill. -/
def oneSkill : Agent where
  tools := [("get_products", true)]
  reprOf := fun _ => ""
  failureResponse := fun _ => .null
  failureMessage := fun _ => ""

/-- A message that invokes it. -/
def oneInvocation : SendMessageRequest where
  messageId := "m"
  contextId := ""
  parts := [.text "hello ", .data (.obj [("skill", .str "get_products")])]
  configuration := none

/-- The answer of a skill that completed. -/
def completedAnswer : ServeAnswer :=
  .response [("status", .str "completed")]

/-- The task object the invocation creates. -/
def waitingSent : Sent :=
  ⟨newTask oneInvocation ⟨["hello "], .str "get_products", .obj []⟩ "task_1",
    .awaiting "get_products" (.obj [])⟩

/-- What happens after the invocation. -/
def answeredThenCancelled : List Event :=
  [.answered 0 "msg_1" completedAnswer, .cancelTask "task_1"]

theorem not_created_in_answeredThenCancelled
    (event : Event)
    (hevent : event ∈ answeredThenCancelled)
    (sent : Sent) :
    oneSkill.created event ≠ some ("task_1", sent) := by
  simp only [answeredThenCancelled, List.mem_cons, List.not_mem_nil, or_false] at hevent
  rcases hevent with rfl | rfl <;> exact fun h => nomatch h

theorem getTask_replays_sample :
    ∃ handler, onGetTask handler "task_1" =
      .task (answeredThenCancelled.foldl (ownEvent 0 "task_1") waitingSent).task :=
  ⟨_, (@getTask_replays oneSkill _ _
    (.cons ⟨_, rfl⟩ (.cons ⟨_, rfl⟩ (.cons ⟨_, rfl⟩ (.nil _)))) "task_1").2
    [] (.messageSend oneInvocation true "task_1") answeredThenCancelled waitingSent rfl rfl
    not_created_in_answeredThenCancelled⟩

/-! ### What the answer of a skill leaves -/

/-- The state an answer leaves its task in. -/
def endState
    (answer : ServeAnswer) : TaskState :=
  match dispatched answer with
  | .error _ => .failed
  | .ok result =>
      match statusOf result, resultParts result with
      | .ok status, .ok _ => taskStateByAdcpStatus status
      | _, _ => .failed

/-- The artifacts an answer adds to its task. -/
def deliveredArtifacts
    (skill : String)
    (answer : ServeAnswer) : List Artifact :=
  match dispatched answer with
  | .error _ => []
  | .ok result =>
      match statusOf result, resultParts result with
      | .ok status, .ok parts =>
          if status = .submitted then [] else [⟨"skill_result_1", skill ++ "_result", parts⟩]
      | _, _ => []

/-- The skill a call asked. -/
def Call.skill : Call → String
  | .awaiting skill _ => skill
  | .ended => ""

/-- The answers to the call that holds the object at place `n`. -/
def answersTo
    (n : Nat)
    (es : List Event) : List ServeAnswer :=
  es.filterMap (fun event =>
    match event with
    | .answered call _ answer => if call = n then some answer else none
    | _ => none)

theorem taskStateByAdcpStatus_eq_submitted_iff
    (status : LibraryTaskStatus) :
    taskStateByAdcpStatus status = .submitted ↔ status = .submitted := by
  cases status <;> decide

theorem answered_of_awaiting
    {sent : Sent}
    {skill : String}
    {parameters : Json}
    (hcall : sent.call = .awaiting skill parameters)
    (messageId : String)
    (answer : ServeAnswer) :
    (sent.answered messageId answer).call = .ended ∧
      (sent.answered messageId answer).task.id = sent.task.id ∧
      (sent.answered messageId answer).task.artifacts =
        sent.task.artifacts ++ deliveredArtifacts skill answer ∧
      (sent.answered messageId answer).task.status.state = endState answer ∧
      ((sent.answered messageId answer).task.status.message.isSome ↔
        endState answer = .submitted) := by
  obtain ⟨task, call⟩ := sent
  cases hcall
  simp only [Sent.answered, Task.finished, endState, deliveredArtifacts]
  cases dispatched answer with
  | error fault => simp [Task.withStatus]
  | ok result =>
      simp only [Task.concluded]
      cases statusOf result with
      | error fault => simp [Task.withStatus]
      | ok status =>
          cases resultParts result with
          | error fault => simp [Task.withStatus]
          | ok parts =>
              simp only [taskStateByAdcpStatus_eq_submitted_iff]
              by_cases hsubmitted : status = .submitted
              · subst hsubmitted
                simp [Task.withStatus, taskStateByAdcpStatus]
              · simp [hsubmitted]

theorem deliveredArtifacts_of_submitted
    {answer : ServeAnswer}
    (skill : String)
    (h : endState answer = .submitted) :
    deliveredArtifacts skill answer = [] := by
  unfold endState at h
  unfold deliveredArtifacts
  cases hdispatched : dispatched answer with
  | error fault => rfl
  | ok result =>
      rw [hdispatched] at h
      cases hstatus : statusOf result with
      | error fault => simp only [hstatus]
      | ok status =>
          cases hparts : resultParts result with
          | error fault => simp only [hstatus, hparts]
          | ok parts =>
              simp only [hstatus, hparts, taskStateByAdcpStatus_eq_submitted_iff] at h
              simp only [hstatus, hparts, h, if_true]

/-- What holds of every task object, in any state of the handler. -/
structure Sent.Sound (sent : Sent) : Prop where
  waiting : sent.call ≠ .ended → sent.task.artifacts = []
  interim : sent.task.status.message.isSome ↔ sent.task.status.state = .submitted
  bare : sent.task.status.state = .submitted → sent.task.artifacts = []

theorem Sent.Sound.answered
    {sent : Sent}
    (h : sent.Sound)
    (messageId : String)
    (answer : ServeAnswer) :
    (sent.answered messageId answer).Sound := by
  cases hcall : sent.call with
  | ended =>
      have hsame : sent.answered messageId answer = sent := by
        simp only [Sent.answered, hcall]
      rw [hsame]
      exact h
  | awaiting skill parameters =>
      obtain ⟨hended, -, hartifacts, hstate, hmessage⟩ :=
        answered_of_awaiting hcall messageId answer
      have hnone : sent.task.artifacts = [] := h.waiting (by rw [hcall]; simp)
      refine ⟨fun hne => absurd hended hne, by rw [hmessage, hstate], ?_⟩
      intro hsubmitted
      rw [hstate] at hsubmitted
      rw [hartifacts, hnone, deliveredArtifacts_of_submitted skill hsubmitted, List.append_nil]

theorem Sent.Sound.abandoned
    {sent : Sent}
    (h : sent.Sound) :
    sent.abandoned.Sound :=
  ⟨fun hne => absurd rfl hne, h.interim, h.bare⟩

theorem Sent.Sound.cancelled
    {sent : Sent}
    (h : sent.Sound) :
    sent.cancelled.Sound where
  waiting := h.waiting
  interim := by simp [Sent.cancelled, Task.withStatus]
  bare := by
    intro hstate
    cases hstate

theorem Agent.opened_sound
    (agent : Agent)
    (params : SendMessageRequest)
    (hasHeaders : Bool)
    (taskId : String)
    (scan : Scan) :
    (agent.opened params hasHeaders taskId scan).1.Sound ∧
      (agent.opened params hasHeaders taskId scan).1.task.id = taskId ∧
      (agent.opened params hasHeaders taskId scan).1.task.artifacts = [] := by
  unfold Agent.opened
  cases hasHeaders with
  | false => exact ⟨⟨fun _ => rfl, by simp [Task.withStatus], fun h => nomatch h⟩, rfl, rfl⟩
  | true =>
      simp only [if_true]
      cases agent.dispatchSkill scan.skill with
      | await skill => exact ⟨⟨fun _ => rfl, by simp [newTask], fun h => nomatch h⟩, rfl, rfl⟩
      | refuse error => exact ⟨⟨fun _ => rfl, by simp [newTask], fun h => nomatch h⟩, rfl, rfl⟩
      | fault fault =>
          exact ⟨⟨fun _ => rfl, by simp [Task.withStatus], fun h => nomatch h⟩, rfl, rfl⟩

section Objects

variable {agent : Agent}

theorem created_sound
    {event : Event}
    {taskId : String}
    {sent : Sent}
    (h : agent.created event = some (taskId, sent)) :
    sent.Sound ∧ sent.task.id = taskId ∧ sent.task.artifacts = [] := by
  cases event with
  | messageSend params hasHeaders name =>
      simp only [Agent.created] at h
      cases hinvocation : invocationOf params with
      | error error =>
          rw [hinvocation] at h
          cases h
      | ok scan =>
          rw [hinvocation] at h
          cases h
          exact agent.opened_sound params hasHeaders taskId scan
  | _ => cases h

theorem writesOf_keeps_sound
    (event : Event) :
    ∀ w ∈ agent.writesOf event, w.Keeps Sent.Sound := by
  intro w hw
  cases event with
  | messageSend params hasHeaders name =>
      obtain ⟨new, hnew, rfl⟩ := List.mem_map.mp hw
      obtain ⟨other, sent⟩ := new
      exact (created_sound (by simpa using hnew)).1
  | answered call messageId answer =>
      rw [List.mem_singleton.mp hw]
      exact fun sent h => h.answered messageId answer
  | abandoned call =>
      rw [List.mem_singleton.mp hw]
      exact fun sent h => h.abandoned
  | getTask name => cases hw
  | cancelTask name =>
      rw [List.mem_singleton.mp hw]
      exact fun sent h => h.cancelled

theorem objects_sound
    {es : List Event}
    {handler : Handler}
    (h : Run agent.Step NamedObjects.empty es handler) :
    ∀ sent ∈ handler.objects, sent.Sound := by
  rw [run_eq_run h]
  refine forall_objects_run (fun sent hsent => nomatch hsent) ?_
  intro w hw
  obtain ⟨event, -, hw⟩ := List.mem_flatMap.mp hw
  exact writesOf_keeps_sound event w hw

theorem step_own
    {handler handler' : Handler}
    {event : Event}
    {n : Nat}
    {taskId : String}
    {sent : Sent}
    (h : agent.Step handler event handler')
    (hrefer : handler.refer taskId = some n)
    (hobject : handler.objects[n]? = some sent)
    (hlast : ∀ sent, agent.created event ≠ some (taskId, sent)) :
    handler'.refer taskId = some n ∧
      handler'.objects[n]? = some (ownEvent n taskId sent event) := by
  rw [step_eq_run h, ← @foldl_own_writesOf agent n taskId event sent]
  exact run_own hrefer hobject (not_binds_of_not_created hlast)

theorem awaiting_of_answered
    {handler handler' : Handler}
    {n : Nat}
    {messageId : String}
    {answer : ServeAnswer}
    {sent : Sent}
    (h : agent.Step handler (.answered n messageId answer) handler')
    (hobject : handler.objects[n]? = some sent) :
    sent.call ≠ .ended := by
  obtain ⟨reply, h⟩ := h
  intro hended
  simp only [Agent.step] at h
  split at h
  · rename_i hwaits
    obtain ⟨task, call⟩ := sent
    cases hended
    simp [waits, hobject] at hwaits
  · cases h

theorem ownEvent_of_not_answer
    {n : Nat}
    {taskId : String}
    {sent : Sent}
    {event : Event}
    (h : answersTo n [event] = []) :
    (ownEvent n taskId sent event).task.artifacts = sent.task.artifacts ∧
      (ownEvent n taskId sent event).task.id = sent.task.id ∧
      (event ≠ .cancelTask taskId →
        (ownEvent n taskId sent event).task.status = sent.task.status) ∧
      ((ownEvent n taskId sent event).call = sent.call ∨
        (ownEvent n taskId sent event).call = .ended) := by
  cases event with
  | answered call messageId answer =>
      have hne : call ≠ n := by
        intro hsame
        simp [answersTo, hsame] at h
      simp [ownEvent, hne]
  | abandoned call =>
      by_cases hsame : call = n
      · simp [ownEvent, hsame, Sent.abandoned]
      · simp [ownEvent, hsame]
  | cancelTask other =>
      by_cases hsame : other = taskId
      · simp [ownEvent, hsame, Sent.cancelled, Task.withStatus]
      · simp [ownEvent, hsame]
  | messageSend params hasHeaders other => simp [ownEvent]
  | getTask other => simp [ownEvent]

theorem answersTo_cons
    (n : Nat)
    (event : Event)
    (rest : List Event) :
    answersTo n (event :: rest) = answersTo n [event] ++ answersTo n rest := by
  rw [answersTo, answersTo, answersTo, ← List.filterMap_append]
  rfl

/-- Along a run, a call is answered at most once, and not at all once it ended; its task
gains the artifacts of that answer, and no others, and without cancellations its state is
that of the answer. -/
theorem answers_of_run
    {handler handler' : Handler}
    {es : List Event}
    {n : Nat}
    {taskId : String}
    {sent : Sent}
    (h : Run agent.Step handler es handler')
    (hrefer : handler.refer taskId = some n)
    (hobject : handler.objects[n]? = some sent)
    (hlast : ∀ event ∈ es, ∀ sent, agent.created event ≠ some (taskId, sent)) :
    (answersTo n es).length ≤ 1 ∧
      (sent.call = .ended → answersTo n es = []) ∧
      (es.foldl (ownEvent n taskId) sent).task.id = sent.task.id ∧
      (es.foldl (ownEvent n taskId) sent).task.artifacts =
        sent.task.artifacts ++ (answersTo n es).flatMap (deliveredArtifacts sent.call.skill) ∧
      ((∀ event ∈ es, event ≠ .cancelTask taskId) →
        (es.foldl (ownEvent n taskId) sent).task.status.state =
          (((answersTo n es).head?).map endState).getD sent.task.status.state) := by
  induction h generalizing sent with
  | nil s => simp [answersTo]
  | @cons s t u event es hstep hrun ih =>
      obtain ⟨hrefer', hobject'⟩ :=
        step_own hstep hrefer hobject (hlast event List.mem_cons_self)
      obtain ⟨hlength, hended, hid, hartifacts, hstates⟩ := ih hrefer' hobject'
        (fun event hevent => hlast event (List.mem_cons_of_mem _ hevent))
      rw [answersTo_cons, List.foldl_cons]
      cases hanswers : answersTo n [event] with
      | nil =>
          obtain ⟨hsame, hid', hstatus, hcall⟩ :=
            @ownEvent_of_not_answer n taskId sent event hanswers
          have hstate : (∀ event' ∈ event :: es, event' ≠ .cancelTask taskId) →
              (es.foldl (ownEvent n taskId) (ownEvent n taskId sent event)).task.status.state =
                (((answersTo n es).head?).map endState).getD sent.task.status.state := by
            intro hnone
            rw [hstates (fun event' h => hnone event' (List.mem_cons_of_mem _ h)),
              hstatus (hnone event List.mem_cons_self)]
          rw [List.nil_append, hid, hid', hartifacts, hsame]
          rcases hcall with hcall | hcall
          · rw [hcall]
            exact ⟨hlength, fun h => hended (hcall.trans h), rfl, rfl, hstate⟩
          · rw [hended hcall] at hstate ⊢
            exact ⟨Nat.zero_le _, fun _ => rfl, rfl, rfl, hstate⟩
      | cons answer others =>
          -- the event is the answer itself, and the call waits for it
          obtain ⟨messageId, rfl⟩ : ∃ messageId, event = .answered n messageId answer := by
            cases event with
            | answered call messageId answer' =>
                by_cases hsame : call = n
                · simp only [answersTo, List.filterMap_cons, hsame, if_true,
                    List.filterMap_nil, List.cons.injEq] at hanswers
                  exact ⟨messageId, by rw [hsame, hanswers.1]⟩
                · simp [answersTo, hsame] at hanswers
            | _ => simp [answersTo] at hanswers
          have hothers : others = [] := by
            simp only [answersTo, List.filterMap_cons, if_true, List.filterMap_nil,
              List.cons.injEq] at hanswers
            exact hanswers.2.symm
          subst hothers
          have hwaits := awaiting_of_answered hstep hobject
          cases hcall : sent.call with
          | ended => exact absurd hcall hwaits
          | awaiting skill parameters =>
              obtain ⟨hdone, hid', hgained, hend, -⟩ :=
                answered_of_awaiting hcall messageId answer
              have hown : ownEvent n taskId sent (.answered n messageId answer) =
                  sent.answered messageId answer := if_pos rfl
              rw [hown] at hended hid hartifacts hstates
              rw [hown, hended hdone, hid, hid', hartifacts, hgained, hended hdone]
              refine ⟨Nat.le_refl 1, (fun h => nomatch h), rfl, by simp [Call.skill], ?_⟩
              intro hnone
              rw [hstates (fun event h => hnone event (List.mem_cons_of_mem _ h)), hended hdone,
                hend]
              rfl

end Objects

/-- What `tasks/get` reports of a task in any run: its own identifier; the artifacts of the
one answer its call can get, neither lost nor doubled by cancellations or other calls; and
a status message exactly while it is submitted, when it has no artifacts. -/
theorem reported_task_results
    {agent : Agent}
    {before later : List Event}
    {event : Event}
    {handler : Handler}
    {taskId : String}
    {sent : Sent}
    (h : Run agent.Step NamedObjects.empty (before ++ event :: later) handler)
    (hcreated : agent.created event = some (taskId, sent))
    (hlast : ∀ event ∈ later, ∀ sent, agent.created event ≠ some (taskId, sent)) :
    ∃ task, onGetTask handler taskId = .task task ∧
      task.id = taskId ∧
      (answersTo (before.countP (fun event => (agent.created event).isSome)) later).length ≤ 1 ∧
      task.artifacts =
        (answersTo (before.countP (fun event => (agent.created event).isSome)) later).flatMap
          (deliveredArtifacts sent.call.skill) ∧
      (task.status.message.isSome ↔ task.status.state = .submitted) ∧
      (task.status.state = .submitted → task.artifacts = []) := by
  obtain ⟨hrefer, hfind⟩ := find_of_created h hcreated hlast
  have hsound := objects_sound h
  obtain ⟨start, hbefore, hrest⟩ := h.split
  obtain ⟨middle, hstep, hlater⟩ := hrest.uncons
  have hlength : start.objects.length =
      before.countP (fun event => (agent.created event).isSome) := by
    rw [length_objects_run hbefore]
    exact Nat.zero_add _
  rw [← hlength] at hrefer hfind ⊢
  have hmiddle := step_of_created hcreated hstep
  have hrefer' : middle.refer taskId = some start.objects.length := by
    rw [hmiddle, refer_bind_self]
  have hobject' : middle.objects[start.objects.length]? = some sent := by
    rw [hmiddle]
    simp [NamedObjects.bind]
  obtain ⟨hone, -, hid, hartifacts, -⟩ := answers_of_run hlater hrefer' hobject' hlast
  obtain ⟨-, hcreatedId, hbare⟩ := created_sound hcreated
  have hfinal : (later.foldl (ownEvent start.objects.length taskId) sent).Sound := by
    obtain ⟨n, -, hobject⟩ := (find_eq_some_iff _ _ _).mp hfind
    exact hsound _ (List.mem_of_getElem? hobject)
  refine ⟨_, by rw [onGetTask, getTaskOrRaise, hfind], hid.trans hcreatedId, hone, ?_,
    hfinal.interim, hfinal.bare⟩
  rw [hartifacts, hbare, List.nil_append]

theorem reported_task_results_sample :
    ∃ handler task, onGetTask handler "task_1" = .task task ∧ task.id = "task_1" ∧
      (answersTo 0 answeredThenCancelled).length ≤ 1 ∧
      task.artifacts =
        (answersTo 0 answeredThenCancelled).flatMap (deliveredArtifacts "get_products") ∧
      (task.status.message.isSome ↔ task.status.state = .submitted) ∧
      (task.status.state = .submitted → task.artifacts = []) :=
  ⟨_, @reported_task_results oneSkill [] answeredThenCancelled
    (.messageSend oneInvocation true "task_1") _ "task_1" waitingSent
    (.cons ⟨_, rfl⟩ (.cons ⟨_, rfl⟩ (.cons ⟨_, rfl⟩ (.nil _)))) rfl
    not_created_in_answeredThenCancelled⟩

/-- A task that was cancelled, and is not cancelled again, is reported cancelled exactly as
long as its call does not come back with another state.  A call that has ended does not come
back, so there the cancellation is for good; a call that still waits overwrites it. -/
theorem cancel_sticks_iff
    {agent : Agent}
    {handler cancelled handler' : Handler}
    {later : List Event}
    {taskId : String}
    {sent : Sent}
    (hfound : handler.find taskId = some sent)
    (hcancel : agent.Step handler (.cancelTask taskId) cancelled)
    (hlater : Run agent.Step cancelled later handler')
    (hlast : ∀ event ∈ later, ∀ sent, agent.created event ≠ some (taskId, sent))
    (honce : ∀ event ∈ later, event ≠ .cancelTask taskId) :
    ∃ n task, handler.refer taskId = some n ∧
      onGetTask handler' taskId = .task task ∧
      (sent.call = .ended → answersTo n later = []) ∧
      (task.status.state = .canceled ↔
        ∀ answer ∈ answersTo n later, endState answer = .canceled) := by
  obtain ⟨n, hrefer, hobject⟩ := (find_eq_some_iff _ _ _).mp hfound
  obtain ⟨hrefer', hobject'⟩ := step_own hcancel hrefer hobject (fun sent h => nomatch h)
  have hown : ownEvent n taskId sent (.cancelTask taskId) = sent.cancelled := if_pos rfl
  rw [hown] at hobject'
  obtain ⟨hlength, hended, -, -, hstate⟩ := answers_of_run hlater hrefer' hobject' hlast
  have hkeep := not_binds_of_none_created hlast
  obtain ⟨hrefer'', hobject''⟩ := run_own hrefer' hobject' hkeep
  rw [← run_eq_run hlater, foldl_own_flatMap] at hobject''
  rw [← run_eq_run hlater] at hrefer''
  have hfind := (find_eq_some_iff _ _ _).mpr ⟨n, hrefer'', hobject''⟩
  refine ⟨n, _, hrefer, by rw [onGetTask, getTaskOrRaise, hfind], hended, ?_⟩
  rw [hstate honce]
  cases hanswers : answersTo n later with
  | nil => simp [Sent.cancelled, Task.withStatus]
  | cons answer others =>
      have hnone : others = [] := by
        rw [hanswers, List.length_cons] at hlength
        exact List.eq_nil_of_length_eq_zero (by omega)
      simp [hnone]

theorem cancel_sticks_iff_sample :
    ∃ handler' n task, (NamedObjects.empty.bind "task_1" waitingSent).refer "task_1" = some n ∧
      onGetTask handler' "task_1" = .task task ∧
      (waitingSent.call = .ended → answersTo n [.answered 0 "msg_1" completedAnswer] = []) ∧
      (task.status.state = .canceled ↔
        ∀ answer ∈ answersTo n [.answered 0 "msg_1" completedAnswer],
          endState answer = .canceled) :=
  ⟨_, @cancel_sticks_iff oneSkill _ _ _ _ _ waitingSent rfl ⟨_, rfl⟩
    (.cons ⟨_, rfl⟩ (.nil _))
    (fun event hevent sent h => by
      rw [List.mem_singleton.mp hevent] at h
      cases h)
    (fun event hevent h => by
      rw [List.mem_singleton.mp hevent] at h
      cases h)⟩

end A2a
end SalesAgent
