import SalesAgent.Background.OrderApproval

/-!
# Jobs and their workers

Each event of the approval service changes at most one job with its worker, or inserts one.
What a worker did is read off its phase: the calls it made, the answers it got, and the
outcome it wrote and announced.

**Results.**
* `step_change`: what an event does to the jobs and their workers.
* `forall_of_run`: the invariant rule for properties of a job and its worker.
* `Change.sound`: every change keeps `Approval.Sound`.
-/

namespace SalesAgent
namespace Background

open Runs (Run Restrict)

section Changes

variable {s t : Service} {e : ApprovalEvent} {a a' : Approval}

/-- What an event may do to a job and its worker. -/
inductive Change
    (s : Service) : ApprovalEvent → Approval → Approval → Prop
  | reserve {a : Approval}
      (hphase : a.worker.phase = .inserted) :
      Change s (.reserve a.job.syncId) a (a.enter .reserved)
  | register {a : Approval}
      (hphase : a.worker.phase = .reserved) :
      Change s (.register a.job.syncId) a (a.enter .registered)
  | startThread {a : Approval}
      (hphase : a.worker.phase = .registered) :
      Change s (.startThread a.job.syncId) a (a.enter .started)
  | cancel {a : Approval}
      (hsignal : s.stopSignals a.job.syncId ≠ none) :
      Change s (.cancel a.job.syncId) a a.cancelled
  | work {a : Approval} {move : Move} {next : Phase}
      (hmove : runApprovalThread a.worker move = some next) :
      Change s (.work a.job.syncId move) a (a.work move next (s.stopSignals a.job.syncId))
  | die {a : Approval} :
      Change s (.die a.job.syncId) a (a.enter .dead)
  | restart {a : Approval}
      (hphase : a.worker.phase ≠ .finished) :
      Change s .restart a (a.enter .dead)

theorem find_eq_some_iff
    {id : String} :
    s.approvals.find id = some a ↔ a ∈ s.approvals ∧ a.job.syncId = id := by
  rw [IndexedTable.find_eq_some_iff]
  exact and_congr_right' Option.some_inj

theorem mem_of_modify
    {id : String} {f : Approval → Approval}
    (hf : ∀ a, (f a).primaryKey = a.primaryKey)
    (h : a' ∈ s.approvals.modify id f hf) :
    a' ∈ s.approvals ∨ ∃ a, s.approvals.find id = some a ∧ a' = f a := by
  obtain ⟨a, ha, hchanged⟩ := (IndexedTable.mem_modify s.approvals).mp h
  split at hchanged
  · next hkey =>
      exact .inr ⟨a, (IndexedTable.find_eq_some_iff _).mpr ⟨ha, hkey⟩, hchanged.symm⟩
  · exact .inl (hchanged ▸ ha)

theorem change_of_enter
    {id : String} {phase next : Phase} {inserted : Prop}
    (hphase : s.phaseOf id = some phase)
    (h : a' ∈ (s.enter id next).approvals)
    (hchange : ∀ a, a.job.syncId = id → a.worker.phase = phase → Change s e a (a.enter next)) :
    a' ∈ s.approvals ∨ (∃ a ∈ s.approvals, Change s e a a') ∨ inserted := by
  rcases mem_of_modify (primaryKey_enter next) h with hold | ⟨a, hfind, rfl⟩
  · exact .inl hold
  · obtain ⟨ha, hid⟩ := find_eq_some_iff.mp hfind
    refine .inr (.inl ⟨a, ha, hchange a hid ?_⟩)
    unfold Service.phaseOf at hphase
    rw [hfind] at hphase
    exact Option.some.inj hphase

/-- What an event does: a job is left alone, changed, or inserted by a start that passed its
check. -/
theorem step_change
    (h : ApprovalStep s e t)
    (ha' : a' ∈ t.approvals) :
    a' ∈ s.approvals ∨ (∃ a ∈ s.approvals, Change s e a a') ∨
      ∃ req now, e = .insert req now ∧ a' = newApproval req now := by
  unfold ApprovalStep Runs.FoldStep at h
  cases e with
  | check req =>
      cases h
      refine .inl ?_
      unfold Service.checkStart at ha'
      split at ha'
      · exact ha'
      · exact ha'
  | insert req now =>
      simp only [perform] at h
      split at h
      · cases h
        unfold Service.insertJob at ha'
        split at ha'
        · next hinsert =>
            rcases (IndexedTable.mem_insert hinsert a').mp ha' with hnew | hold
            · exact .inr (.inr ⟨req, now, rfl, hnew⟩)
            · exact .inl hold
        · exact .inl ha'
      · cases h
  | reserve id =>
      simp only [perform] at h
      split at h
      · next hphase =>
          cases h
          exact change_of_enter hphase ha' (fun _ hid hphase => hid ▸ .reserve hphase)
      · cases h
  | register id =>
      simp only [perform] at h
      split at h
      · next hphase =>
          cases h
          exact change_of_enter hphase ha' (fun _ hid hphase => hid ▸ .register hphase)
      · cases h
  | startThread id =>
      simp only [perform] at h
      split at h
      · next hphase =>
          cases h
          exact change_of_enter hphase ha' (fun _ hid hphase => hid ▸ .startThread hphase)
      · cases h
  | cancel id =>
      cases h
      unfold Service.cancelOrderApproval at ha'
      split at ha'
      · exact .inl ha'
      · next hsignal =>
          rcases mem_of_modify primaryKey_cancelled ha' with hold | ⟨a, hfind, rfl⟩
          · exact .inl hold
          · obtain ⟨ha, rfl⟩ := find_eq_some_iff.mp hfind
            exact .inr (.inl ⟨a, ha, .cancel (by rw [hsignal]; nofun)⟩)
  | readRegistry =>
      cases h
      exact .inl ha'
  | work id move =>
      simp only [perform] at h
      split at h
      · cases h
      · next a hfind =>
          split at h
          · cases h
          · next next hmove =>
              cases h
              rcases mem_of_modify (primaryKey_work _ _ _) ha' with hold | ⟨b, hfind', rfl⟩
              · exact .inl hold
              · rw [hfind] at hfind'
                cases hfind'
                obtain ⟨ha, rfl⟩ := find_eq_some_iff.mp hfind
                exact .inr (.inl ⟨a, ha, .work hmove⟩)
  | die id =>
      simp only [perform] at h
      split at h
      · cases h
      · next phase hphase =>
          split at h
          · cases h
          · cases h
            exact change_of_enter hphase ha' (fun _ hid _ => hid ▸ .die)
  | restart =>
      cases h
      have hmem : a' ∈ s.approvals.map Approval.ended primaryKey_ended := ha'
      obtain ⟨a, ha, hchanged⟩ := (IndexedTable.mem_map s.approvals).mp hmem
      unfold Approval.ended at hchanged
      split at hchanged
      · exact .inl (hchanged ▸ ha)
      · next hphase =>
          exact .inr (.inl ⟨a, ha, hchanged ▸ .restart hphase⟩)

/-- Invariant rule: what the inserted jobs satisfy and every change keeps, all jobs of a run
satisfy. -/
theorem forall_of_run
    {cond : Service → ApprovalEvent → Prop}
    {P : Approval → Prop}
    (hnew : ∀ s req now, cond s (.insert req now) → P (newApproval req now))
    (hchange : ∀ s e a a', cond s e → a ∈ s.approvals → P a → Change s e a a' → P a')
    {es : List ApprovalEvent}
    (hrun : Run (Restrict ApprovalStep cond) .empty es s) :
    ∀ a ∈ s.approvals, P a := by
  have hpreserved : Runs.Preserved (Restrict ApprovalStep cond)
      (fun s => ∀ a ∈ s.approvals, P a) := by
    rintro s e t ⟨hstep, hcond⟩ hinv a' ha'
    rcases step_change hstep ha' with hold | ⟨a, ha, hchanged⟩ | ⟨req, now, rfl, rfl⟩
    · exact hinv a' hold
    · exact hchange s e a a' hcond ha (hinv a ha) hchanged
    · exact hnew s req now hcond
  exact hrun.preserves hpreserved (fun a ha => absurd ha (IndexedTable.not_mem_empty a))

end Changes

section Workers

variable {a a' : Approval} {w : Worker}

/-- The worker asks again after the answer, if it has tries left. -/
def AdServerAnswer.goesOn
    (answer : AdServerAnswer) : Bool :=
  match approveOrder answer with
  | .ok approved => !approved
  | .error error => forecastPending error

/-- The status of a job after an outcome. -/
def Outcome.status : Outcome → JobStatus
  | .completed _ => .completed
  | .failed _ => .failed

/-- The outcome is what happened: the last answer approved the order, or none did and the
worker had no try left, or was told to stop, or never asked. -/
def Outcome.Matches
    (w : Worker) : Outcome → Prop
  | .completed attempts => w.answers.length = attempts ∧ w.answers.getLast? = some .performed
  | .failed _ =>
      .performed ∉ w.answers ∧
        (w.answers = [] ∨ w.answers.length = w.request.maxAttempts ∨
          ∃ answer, w.answers.getLast? = some answer ∧ answer.goesOn = false)

/-- What a worker did up to its phase. -/
def Worker.AtPhase
    (w : Worker) : Prop :=
  match w.phase with
  | .inserted | .reserved | .registered | .started =>
      w.calls = 0 ∧ w.answers = [] ∧ w.marks = []
  | .attempting attempt =>
      attempt ≤ w.request.maxAttempts ∧ w.calls + 1 = attempt ∧ w.answers.length = w.calls ∧
        (∀ answer ∈ w.answers, answer.goesOn = true) ∧ w.marks = []
  | .calling attempt =>
      attempt ≤ w.request.maxAttempts ∧ w.calls = attempt ∧ w.answers.length + 1 = w.calls ∧
        (∀ answer ∈ w.answers, answer.goesOn = true) ∧ w.marks = []
  | .sleeping attempt =>
      attempt < w.request.maxAttempts ∧ w.calls = attempt ∧ w.answers.length = w.calls ∧
        (∀ answer ∈ w.answers, answer.goesOn = true) ∧ w.marks = []
  | .marking outcome => w.answers.length = w.calls ∧ outcome.Matches w ∧ w.marks = []
  | .announcing outcome => w.marks = [outcome] ∧ w.announced = []
  | .leaving | .finished =>
      (w.marks = [] ∧ w.request.maxAttempts = 0) ∨ ∃ outcome, w.marks = [outcome]
  | .dead => True

/-- What holds of a job and its worker in every state. -/
structure Approval.Sound
    (a : Approval) : Prop where
  phase : a.worker.AtPhase
  goesOn : ∀ answer ∈ a.worker.answers.dropLast, answer.goesOn = true
  answered : a.worker.answers.length ≤ a.worker.calls
  bounded : a.worker.calls ≤ a.worker.request.maxAttempts
  marks : a.worker.marks = [] ∧ a.job.status = .running ∧ a.worker.announced = [] ∨
    ∃ outcome, a.worker.marks = [outcome] ∧ outcome.Matches a.worker ∧
      a.job.status = outcome.status ∧
      (a.worker.announced = [] ∨
        ∃ job, a.worker.announced = [approvalUpdate outcome a.worker.request job])
  progress : ∃ p, a.job.progress = some p ∧ p.orderId = some a.worker.request.orderId ∧
    p.attempts = some 0

theorem newApproval_sound
    (req : StartRequest)
    (now : DateTime) :
    (newApproval req now).Sound where
  phase := ⟨rfl, rfl, rfl⟩
  goesOn := fun _ h => absurd h List.not_mem_nil
  answered := Nat.le_refl 0
  bounded := Nat.zero_le _
  marks := .inl ⟨rfl, rfl, rfl⟩
  progress := ⟨_, rfl, rfl, rfl⟩

theorem Approval.Sound.enter
    (h : a.Sound)
    {next : Phase}
    (hphase : Worker.AtPhase { a.worker with phase := next }) :
    (a.enter next).Sound :=
  ⟨hphase, h.goesOn, h.answered, h.bounded, h.marks, h.progress⟩

theorem Approval.Sound.cancelled
    (h : a.Sound) :
    a.cancelled.Sound :=
  ⟨h.phase, h.goesOn, h.answered, h.bounded, h.marks, h.progress⟩

theorem afterCall_cases
    (w : Worker)
    (attempt : Nat)
    (answer : AdServerAnswer) :
    (answer.goesOn = true ∧ attempt < w.request.maxAttempts ∧
        afterCall w attempt (approveOrder answer) = .sleeping attempt) ∨
      (answer = .performed ∧
        afterCall w attempt (approveOrder answer) = .marking (.completed attempt)) ∨
      answer ≠ .performed ∧ (answer.goesOn = false ∨ w.request.maxAttempts ≤ attempt) ∧
        ∃ error, afterCall w attempt (approveOrder answer) = .marking (.failed error) := by
  cases answer with
  | performed => exact .inr (.inl ⟨rfl, rfl⟩)
  | raised error =>
      by_cases hleft : attempt < w.request.maxAttempts
      · refine .inl ⟨rfl, hleft, ?_⟩
        simp [approveOrder, afterCall, hleft]
      · refine .inr (.inr ⟨nofun, .inr (Nat.le_of_not_lt hleft), ?_⟩)
        simp [approveOrder, afterCall, hleft]
  | timedOut error =>
      cases hpending : forecastPending error with
      | false =>
          refine .inr (.inr ⟨nofun, .inl hpending, ?_⟩)
          simp [approveOrder, afterCall, hpending]
      | true =>
          by_cases hleft : attempt < w.request.maxAttempts
          · refine .inl ⟨hpending, hleft, ?_⟩
            simp [approveOrder, afterCall, hpending, hleft]
          · refine .inr (.inr ⟨nofun, .inr (Nat.le_of_not_lt hleft), ?_⟩)
            simp [approveOrder, afterCall, hpending, hleft]

theorem mem_concat
    {answers : List AdServerAnswer} {answer x : AdServerAnswer} :
    x ∈ answers ++ [answer] ↔ x ∈ answers ∨ x = answer := by
  simp

theorem performed_not_mem
    {answers : List AdServerAnswer}
    (h : ∀ answer ∈ answers, answer.goesOn = true) :
    .performed ∉ answers := by
  intro hmem
  cases h _ hmem

/-- The steps a worker can take. -/
inductive Moves
    (w : Worker) : Move → Phase → Prop
  | refused {setup : Setup} {error : String}
      (hphase : w.phase = .started) :
      Moves w (.configure setup) (.marking (.failed error))
  | ready
      (hphase : w.phase = .started) :
      Moves w (.configure .ready) (nextAttempt w 1)
  | attempt {attempt : Nat}
      (hphase : w.phase = .attempting attempt) :
      Moves w .attempt (.calling attempt)
  | answer {attempt : Nat} {answer : AdServerAnswer}
      (hphase : w.phase = .calling attempt) :
      Moves w (.answer answer) (afterCall w attempt (approveOrder answer))
  | wake {attempt : Nat}
      (hphase : w.phase = .sleeping attempt) :
      Moves w .wake (nextAttempt w (attempt + 1))
  | mark {outcome : Outcome} {now : DateTime}
      (hphase : w.phase = .marking outcome) :
      Moves w (.mark now) (if w.request.announces then .announcing outcome else .leaving)
  | announce {outcome : Outcome} {ready : Bool}
      (hphase : w.phase = .announcing outcome) :
      Moves w (.announce ready) .leaving
  | leave
      (hphase : w.phase = .leaving) :
      Moves w .leave .finished

theorem moves_of_run
    {move : Move} {next : Phase}
    (h : runApprovalThread w move = some next) :
    Moves w move next := by
  unfold runApprovalThread at h
  split at h
  · next hphase => cases h; exact .refused hphase
  · next hphase => cases h; exact .refused hphase
  · next hphase => cases h; exact .ready hphase
  · next hphase => cases h; exact .attempt hphase
  · next hphase => cases h; exact .answer hphase
  · next hphase => cases h; exact .wake hphase
  · next hphase => cases h; exact .mark hphase
  · next hphase => cases h; exact .announce hphase
  · next hphase => cases h; exact .leave hphase
  · cases h

theorem Approval.Sound.undecided
    (h : a.Sound)
    (hmarks : a.worker.marks = []) :
    a.job.status = .running ∧ a.worker.announced = [] := by
  rcases h.marks with ⟨-, hstatus, hannounced⟩ | ⟨outcome, hmarked, -⟩
  · exact ⟨hstatus, hannounced⟩
  · rw [hmarks] at hmarked
    cases hmarked

theorem Approval.Sound.updateApprovalProgress_eq
    (h : a.Sound)
    (attempt maxAttempts : Nat) :
    updateApprovalProgress attempt maxAttempts a.job = a.job := by
  obtain ⟨p, hp, -⟩ := h.progress
  unfold updateApprovalProgress
  rw [hp]

theorem work_eq_enter
    {move : Move} {next : Phase} {stopSignal : Option Bool}
    (hmove : (∃ setup, move = .configure setup) ∨ move = .wake ∨ move = .leave) :
    a.work move next stopSignal = a.enter next := by
  rcases hmove with ⟨setup, rfl⟩ | rfl | rfl
  · rfl
  · rfl
  · rfl

theorem work_attempt
    {attempt : Nat} {next : Phase} {stopSignal : Option Bool}
    (hphase : a.worker.phase = .attempting attempt) :
    a.work .attempt next stopSignal =
      { job := updateApprovalProgress attempt a.worker.request.maxAttempts a.job
        worker := { a.worker with phase := next, calls := a.worker.calls + 1 } } := by
  unfold Approval.work
  rw [hphase]

theorem work_mark
    {outcome : Outcome} {now : DateTime} {next : Phase} {stopSignal : Option Bool}
    (hphase : a.worker.phase = .marking outcome) :
    a.work (.mark now) next stopSignal =
      { job := markApproval outcome now a.job
        worker := { a.worker with phase := next, marks := a.worker.marks ++ [outcome] } } := by
  unfold Approval.work
  rw [hphase]

theorem work_announce
    {outcome : Outcome} {ready : Bool} {next : Phase} {stopSignal : Option Bool}
    (hphase : a.worker.phase = .announcing outcome) :
    a.work (.announce ready) next stopSignal =
      { a with worker := { a.worker with
          phase := next
          announced := a.worker.announced ++
            if ready = true ∧ stopSignal ≠ some true then
              [approvalUpdate outcome a.worker.request a.job]
            else [] } } := by
  unfold Approval.work
  rw [hphase]

theorem nextAttempt_cases
    (w : Worker)
    (attempt : Nat) :
    (attempt ≤ w.request.maxAttempts ∧ nextAttempt w attempt = .attempting attempt) ∨
      w.request.maxAttempts < attempt ∧ nextAttempt w attempt = .leaving := by
  unfold nextAttempt
  split
  · next h => exact .inl ⟨h, rfl⟩
  · next h => exact .inr ⟨Nat.lt_of_not_le h, rfl⟩

theorem Approval.Sound.attempt
    {attempt : Nat} {stopSignal : Option Bool}
    (h : a.Sound)
    (hphase : a.worker.phase = .attempting attempt) :
    (a.work .attempt (.calling attempt) stopSignal).Sound := by
  have hat := h.phase
  unfold Worker.AtPhase at hat
  rw [hphase] at hat
  obtain ⟨hle, hcalls, hlength, hgoesOn, hmarks⟩ := hat
  rw [work_attempt hphase, h.updateApprovalProgress_eq]
  refine ⟨⟨hle, hcalls, ?_, hgoesOn, hmarks⟩, h.goesOn, ?_, ?_, h.marks, h.progress⟩
  · exact congrArg (· + 1) hlength
  · exact Nat.le_succ_of_le h.answered
  · exact hcalls.le.trans hle

/-- A try ends. -/
theorem Approval.Sound.answer
    {attempt : Nat} {answer : AdServerAnswer} {stopSignal : Option Bool}
    (h : a.Sound)
    (hphase : a.worker.phase = .calling attempt) :
    (a.work (.answer answer) (afterCall a.worker attempt (approveOrder answer))
      stopSignal).Sound := by
  have hat := h.phase
  unfold Worker.AtPhase at hat
  rw [hphase] at hat
  obtain ⟨hle, hcalls, hlength, hgoesOn, hmarks⟩ := hat
  have hlast : (a.worker.answers ++ [answer]).length = a.worker.calls := by
    rw [List.length_append]
    exact hlength
  have hdrop : ∀ x ∈ (a.worker.answers ++ [answer]).dropLast, x.goesOn = true := by
    rw [List.dropLast_concat]
    exact hgoesOn
  have hundecided := h.undecided hmarks
  refine ⟨?_, hdrop, hlast.le, h.bounded, .inl ⟨hmarks, hundecided⟩, h.progress⟩
  change Worker.AtPhase { a.worker with
    phase := afterCall a.worker attempt (approveOrder answer)
    answers := a.worker.answers ++ [answer] }
  rcases afterCall_cases a.worker attempt answer with
    ⟨hgoes, hleft, hnext⟩ | ⟨rfl, hnext⟩ | ⟨hother, hwhy, error, hnext⟩
  · rw [hnext]
    refine ⟨hleft, hcalls, hlast, ?_, hmarks⟩
    intro x hx
    rcases mem_concat.mp hx with hold | rfl
    · exact hgoesOn x hold
    · exact hgoes
  · rw [hnext]
    exact ⟨hlast, ⟨hlast.trans hcalls, List.getLast?_concat⟩, hmarks⟩
  · rw [hnext]
    refine ⟨hlast, ⟨?_, ?_⟩, hmarks⟩
    · intro hx
      rcases mem_concat.mp hx with hold | hsame
      · exact performed_not_mem hgoesOn hold
      · exact hother hsame.symm
    · rcases hwhy with hstop | hused
      · exact .inr (.inr ⟨answer, List.getLast?_concat, hstop⟩)
      · exact .inr (.inl (hlast.trans (hcalls.trans (Nat.le_antisymm hle hused))))

/-- The outcome is written. -/
theorem Approval.Sound.mark
    {outcome : Outcome} {now : DateTime} {stopSignal : Option Bool}
    (h : a.Sound)
    (hphase : a.worker.phase = .marking outcome) :
    (a.work (.mark now) (if a.worker.request.announces then .announcing outcome else .leaving)
      stopSignal).Sound := by
  have hat := h.phase
  unfold Worker.AtPhase at hat
  rw [hphase] at hat
  obtain ⟨hlength, hmatches, hmarks⟩ := hat
  obtain ⟨-, hannounced⟩ := h.undecided hmarks
  have hmarked : a.worker.marks ++ [outcome] = [outcome] := by
    rw [hmarks]
    rfl
  rw [work_mark hphase]
  refine ⟨?_, h.goesOn, h.answered, h.bounded, ?_, ?_⟩
  · split
    · exact ⟨hmarked, hannounced⟩
    · exact .inr ⟨outcome, hmarked⟩
  · refine .inr ⟨outcome, hmarked, ?_, ?_, .inl hannounced⟩
    · cases outcome with
      | completed attempts => exact hmatches
      | failed error => exact hmatches
    · cases outcome with
      | completed attempts => rfl
      | failed error => rfl
  · cases outcome with
    | completed attempts => exact h.progress
    | failed error => exact h.progress

/-- The outcome is announced, or not. -/
theorem Approval.Sound.announce
    {outcome : Outcome} {ready : Bool} {stopSignal : Option Bool}
    (h : a.Sound)
    (hphase : a.worker.phase = .announcing outcome) :
    (a.work (.announce ready) .leaving stopSignal).Sound := by
  have hat := h.phase
  unfold Worker.AtPhase at hat
  rw [hphase] at hat
  obtain ⟨hmarks, hannounced⟩ := hat
  rcases h.marks with ⟨hnone, -⟩ | ⟨outcome', hmarked, hmatches, hstatus, -⟩
  · rw [hnone] at hmarks
    cases hmarks
  · rw [hmarks] at hmarked
    cases hmarked
    rw [work_announce hphase]
    refine ⟨.inr ⟨outcome, hmarks⟩, h.goesOn, h.answered, h.bounded, ?_, h.progress⟩
    refine .inr ⟨outcome, hmarks, ?_, hstatus, ?_⟩
    · cases outcome with
      | completed attempts => exact hmatches
      | failed error => exact hmatches
    · dsimp only
      rw [hannounced]
      split
      · exact .inr ⟨a.job, rfl⟩
      · exact .inl rfl

/-- Every step of a worker keeps the invariant. -/
theorem Approval.Sound.work
    {move : Move} {next : Phase} {stopSignal : Option Bool}
    (h : a.Sound)
    (hmove : runApprovalThread a.worker move = some next) :
    (a.work move next stopSignal).Sound := by
  have hat := h.phase
  unfold Worker.AtPhase at hat
  cases moves_of_run hmove with
  | refused hphase =>
      rw [hphase] at hat
      obtain ⟨hcalls, hanswers, hmarks⟩ := hat
      rw [work_eq_enter (.inl ⟨_, rfl⟩)]
      refine h.enter ⟨?_, ⟨?_, .inl hanswers⟩, hmarks⟩
      · change a.worker.answers.length = a.worker.calls
        rw [hanswers, hcalls]
        rfl
      · change _ ∉ a.worker.answers
        rw [hanswers]
        exact List.not_mem_nil
  | ready hphase =>
      rw [hphase] at hat
      obtain ⟨hcalls, hanswers, hmarks⟩ := hat
      rw [work_eq_enter (.inl ⟨_, rfl⟩)]
      rcases nextAttempt_cases a.worker 1 with ⟨hle, hnext⟩ | ⟨hlt, hnext⟩
      · rw [hnext]
        refine h.enter ⟨hle, congrArg (· + 1) hcalls, ?_, ?_, hmarks⟩
        · change a.worker.answers.length = a.worker.calls
          rw [hanswers, hcalls]
          rfl
        · intro x hx
          rw [show a.worker.answers = [] from hanswers] at hx
          cases hx
      · rw [hnext]
        exact h.enter (.inl ⟨hmarks, Nat.lt_one_iff.mp hlt⟩)
  | attempt hphase => exact h.attempt hphase
  | answer hphase => exact h.answer hphase
  | wake hphase =>
      rw [hphase] at hat
      obtain ⟨hlt, hcalls, hlength, hgoesOn, hmarks⟩ := hat
      rw [work_eq_enter (.inr (.inl rfl))]
      rcases nextAttempt_cases a.worker (_ + 1) with ⟨hle, hnext⟩ | ⟨hused, -⟩
      · rw [hnext]
        exact h.enter ⟨hle, congrArg (· + 1) hcalls, hlength, hgoesOn, hmarks⟩
      · exact absurd hlt (Nat.not_lt_of_le (Nat.lt_succ_iff.mp hused))
  | mark hphase => exact h.mark hphase
  | announce hphase => exact h.announce hphase
  | leave hphase =>
      rw [hphase] at hat
      rw [work_eq_enter (.inr (.inr rfl))]
      exact h.enter hat

/-- Every change keeps the invariant. -/
theorem Change.sound
    {s : Service} {e : ApprovalEvent}
    (h : Change s e a a')
    (hsound : a.Sound) :
    a'.Sound := by
  have hat := hsound.phase
  unfold Worker.AtPhase at hat
  cases h with
  | reserve hphase =>
      rw [hphase] at hat
      exact hsound.enter hat
  | register hphase =>
      rw [hphase] at hat
      exact hsound.enter hat
  | startThread hphase =>
      rw [hphase] at hat
      exact hsound.enter hat
  | cancel => exact hsound.cancelled
  | work hmove => exact hsound.work hmove
  | die => exact hsound.enter trivial
  | restart => exact hsound.enter trivial

end Workers

end Background
end SalesAgent
