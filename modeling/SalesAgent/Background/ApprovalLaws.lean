import SalesAgent.Background.ApprovalWorkers

/-!
# What background approvals keep

A worker is bounded, stops at the first approval, writes one terminal status and announces
it once, along any run.  What else is asked of the service depends on what happens to it:
the starts of one order must not overlap, errors of the ad server are asked about again, a
cancelled worker goes on polling, and a job whose worker is gone refuses every later start.
The attempts of a job stay as they were inserted.

**Results.**
* `served_of_sound`: the laws of any run.
* `oneWorker_of_run`, `stopsAtErrors_of_run`, `cancelsObeyed_of_run`, `unblocked_of_run`: the
  laws of the runs that meet a condition.
* `approval_laws`: all of them.
-/

namespace SalesAgent
namespace Background

open Runs (Run Restrict)

section Laws

variable {s t : Service} {a a' : Approval} {e : ApprovalEvent} {es : List ApprovalEvent}

/-- The attempts that the row of the job records. -/
def Approval.recordedAttempts
    (a : Approval) : Option Nat :=
  a.job.progress.bind (·.attempts)

/-- What every worker keeps. -/
structure Service.Served
    (s : Service) : Prop where
  bounded : ∀ a ∈ s.approvals, a.worker.calls ≤ a.worker.request.maxAttempts
  /-- no try follows an approval -/
  approved : ∀ a ∈ s.approvals, ∀ answer ∈ a.worker.answers.dropLast, answer ≠ .performed
  /-- a worker that had any try ends with one terminal status, which is what happened -/
  ended : ∀ a ∈ s.approvals, a.worker.phase = .finished → 0 < a.worker.request.maxAttempts →
    ∃ outcome, a.worker.marks = [outcome] ∧ outcome.Matches a.worker ∧
      a.job.status = outcome.status
  /-- and no worker writes two -/
  markedOnce : ∀ a ∈ s.approvals, a.worker.marks.length ≤ 1
  /-- the outcome is announced once, if at all -/
  announced : ∀ a ∈ s.approvals, a.worker.announced = [] ∨
    ∃ outcome job, a.worker.marks = [outcome] ∧ a.job.status = outcome.status ∧
      a.worker.announced = [approvalUpdate outcome a.worker.request job]
  /-- the recorded attempts are the calls made exactly while none was made -/
  attempts : ∀ a ∈ s.approvals,
    a.recordedAttempts = some a.worker.calls ↔ a.worker.calls = 0

/-- At most one worker polls an order. -/
def Service.OneWorker
    (s : Service) : Prop :=
  ∀ a ∈ s.approvals, ∀ b ∈ s.approvals, a.worker.phase.polls = true →
    b.worker.phase.polls = true → a.worker.request.orderId = b.worker.request.orderId → a = b

/-- No try follows an error that is not worth one. -/
def Service.StopsAtErrors
    (s : Service) : Prop :=
  ∀ a ∈ s.approvals, ∀ answer ∈ a.worker.answers.dropLast, answer.retryable = true

/-- No try begins after a cancellation that returned true. -/
def Service.CancelsObeyed
    (s : Service) : Prop :=
  ∀ a ∈ s.approvals, ∀ calls, a.worker.cancelledAt = some calls → a.worker.calls ≤ calls

/-- A job that refuses a start has a worker. -/
def Service.Unblocked
    (s : Service) : Prop :=
  ∀ orderId a, s.approvalRunning orderId = some a →
    a.worker.phase ≠ .dead ∧ a.worker.phase ≠ .finished

/-- A start inserts its job while no job of the order runs. -/
def SoleStart
    (s : Service) : ApprovalEvent → Prop
  | .insert req _ => s.approvalRunning req.orderId = none
  | _ => True

/-- An error of the ad server that is not worth another try comes with the last one. -/
def ErrorsLast
    (s : Service) : ApprovalEvent → Prop
  | .work id (.answer (.raised error)) =>
      forecastPending error = true ∨
        ∀ a, s.approvals.find id = some a → a.worker.calls = a.worker.request.maxAttempts
  | _ => True

/-- The worker has a try ahead of it, whatever the answer it waits for. -/
def Phase.beforeCall : Phase → Bool
  | .inserted | .reserved | .registered | .started | .attempting _ | .sleeping _ => true
  | _ => false

/-- A worker is cancelled during its last try, or later. -/
def CancelledLate
    (s : Service) : ApprovalEvent → Prop
  | .cancel id => s.stopSignals id = none ∨
      ∀ a, s.approvals.find id = some a → a.worker.phase.beforeCall = false
  | .work id (.answer answer) =>
      ∀ a, s.approvals.find id = some a → a.worker.cancelledAt ≠ none →
        answer.goesOn = false ∨ a.worker.calls = a.worker.request.maxAttempts
  | _ => True

/-- Workers have tries, and none is gone before its job is written. -/
def Survives
    (s : Service) : ApprovalEvent → Prop
  | .insert req _ => 0 < req.maxAttempts
  | .die id => ∀ a, s.approvals.find id = some a → a.job.status ≠ .running
  | .restart => ∀ a ∈ s.approvals, a.worker.phase ≠ .finished → a.job.status ≠ .running
  | _ => True

theorem sound_of_run
    (hrun : Run ApprovalStep .empty es s) :
    ∀ a ∈ s.approvals, a.Sound := by
  have hrun' : Run (Restrict ApprovalStep (fun _ _ => True)) .empty es s :=
    hrun.mono (fun _ _ _ hstep => ⟨hstep, trivial⟩)
  exact forall_of_run (fun _ req now _ => newApproval_sound req now)
    (fun _ _ _ _ _ _ hsound hchange => hchange.sound hsound) hrun'

theorem find_of_mem
    (ha : a ∈ s.approvals) :
    s.approvals.find a.job.syncId = some a :=
  find_eq_some_iff.mpr ⟨ha, rfl⟩

theorem Approval.Sound.running_of_polls
    (h : a.Sound)
    (hpolls : a.worker.phase.polls = true) :
    a.job.status = .running := by
  have hat := h.phase
  unfold Worker.AtPhase at hat
  unfold Phase.polls at hpolls
  split at hpolls
  · next hphase =>
      rw [hphase] at hat
      exact (h.undecided hat.2.2.2.2).1
  · next hphase =>
      rw [hphase] at hat
      exact (h.undecided hat.2.2.2.2).1
  · next hphase =>
      rw [hphase] at hat
      exact (h.undecided hat.2.2.2.2).1
  · cases hpolls

theorem Approval.Sound.orderId_eq
    (h : a.Sound) :
    a.orderId = some a.worker.request.orderId := by
  obtain ⟨p, hp, horder, -⟩ := h.progress
  unfold Approval.orderId
  rw [hp]
  exact horder

/-- The unconditional laws. -/
theorem served_of_sound
    (h : ∀ a ∈ s.approvals, a.Sound) :
    s.Served where
  bounded := fun a ha => (h a ha).bounded
  approved := fun a ha answer hanswer hperformed => by
    have hgoes := (h a ha).goesOn answer hanswer
    rw [hperformed] at hgoes
    cases hgoes
  ended := fun a ha hfinished htries => by
    have hat := (h a ha).phase
    unfold Worker.AtPhase at hat
    rw [hfinished] at hat
    rcases hat with ⟨-, hzero⟩ | ⟨outcome, hmarks⟩
    · exact absurd hzero htries.ne'
    · rcases (h a ha).marks with ⟨hnone, -⟩ | ⟨outcome', hmarked, hmatches, hstatus, -⟩
      · rw [hnone] at hmarks
        cases hmarks
      · exact ⟨outcome', hmarked, hmatches, hstatus⟩
  markedOnce := fun a ha => by
    rcases (h a ha).marks with ⟨hnone, -⟩ | ⟨outcome, hmarked, -⟩
    · rw [hnone]
      exact Nat.zero_le 1
    · rw [hmarked]
      exact Nat.le_refl 1
  announced := fun a ha => by
    rcases (h a ha).marks with ⟨-, -, hsilent⟩ | ⟨outcome, hmarked, -, hstatus, hannounced⟩
    · exact .inl hsilent
    · rcases hannounced with hsilent | ⟨job, hposted⟩
      · exact .inl hsilent
      · exact .inr ⟨outcome, job, hmarked, hstatus, hposted⟩
  attempts := fun a ha => by
    obtain ⟨p, hp, -, hattempts⟩ := (h a ha).progress
    have hrecorded : a.recordedAttempts = some 0 := by
      unfold Approval.recordedAttempts
      rw [hp]
      exact hattempts
    rw [hrecorded, Option.some_inj, eq_comm]

/-- A change keeps the id and the request, and restarts no job. -/
theorem Change.descends
    (h : Change s e a a') :
    a'.job.syncId = a.job.syncId ∧ a'.worker.request = a.worker.request ∧
      (a'.job.status = .running → a.job.status = .running) := by
  cases h with
  | work hmove =>
      refine ⟨Option.some.inj (primaryKey_work _ _ _ a), ?_, ?_⟩
      · unfold Approval.work
        split
        · rfl
        · rfl
        · rfl
        · rfl
        · rfl
      · intro hrunning
        unfold Approval.work at hrunning
        split at hrunning
        · unfold updateApprovalProgress at hrunning
          split at hrunning
          · exact hrunning
          · exact hrunning
        · exact hrunning
        · unfold markApproval at hrunning
          split at hrunning
          · cases hrunning
          · cases hrunning
        · exact hrunning
        · exact hrunning
  | reserve => exact ⟨rfl, rfl, id⟩
  | register => exact ⟨rfl, rfl, id⟩
  | startThread => exact ⟨rfl, rfl, id⟩
  | cancel => exact ⟨rfl, rfl, id⟩
  | die => exact ⟨rfl, rfl, id⟩
  | restart => exact ⟨rfl, rfl, id⟩

/-- No two jobs of an order run. -/
def Service.SoleRunning
    (s : Service) : Prop :=
  ∀ a ∈ s.approvals, ∀ b ∈ s.approvals, a.job.status = .running → b.job.status = .running →
    a.orderId = b.orderId → a = b

theorem descends_or_inserted
    (hsound : ∀ a ∈ s.approvals, a.Sound)
    (hstep : ApprovalStep s e t)
    (ha' : a' ∈ t.approvals) :
    (∃ a ∈ s.approvals, a'.job.syncId = a.job.syncId ∧ a'.orderId = a.orderId ∧
        (a'.job.status = .running → a.job.status = .running)) ∨
      ∃ req now, e = .insert req now ∧ a' = newApproval req now := by
  rcases step_change hstep ha' with hold | ⟨a, ha, hchange⟩ | hinserted
  · exact .inl ⟨a', hold, rfl, rfl, id⟩
  · obtain ⟨hid, hrequest, hrunning⟩ := hchange.descends
    refine .inl ⟨a, ha, hid, ?_, hrunning⟩
    rw [(hchange.sound (hsound a ha)).orderId_eq, (hsound a ha).orderId_eq, hrequest]
  · exact .inr hinserted

theorem not_running_of_sole
    {orderId : String}
    (h : s.approvalRunning orderId = none)
    (ha : a ∈ s.approvals)
    (horder : a.orderId = some orderId) :
    a.job.status ≠ .running := by
  intro hrunning
  have hno := List.find?_eq_none.mp h a ha
  simp [hrunning, horder] at hno

theorem soleRunning_step
    (hsound : ∀ a ∈ s.approvals, a.Sound)
    (hsole : s.SoleRunning)
    (hstep : ApprovalStep s e t)
    (hcond : SoleStart s e) :
    t.SoleRunning := by
  intro a' ha' b' hb' harunning hbrunning horder
  rcases descends_or_inserted hsound hstep ha' with
    ⟨a, ha, haid, haorder, harun⟩ | ⟨req, now, rfl, hanew⟩
  · rcases descends_or_inserted hsound hstep hb' with
      ⟨b, hb, hbid, hborder, hbrun⟩ | ⟨req, now, rfl, rfl⟩
    · have hsame : a = b := hsole a ha b hb (harun harunning) (hbrun hbrunning)
        (haorder.symm.trans (horder.trans hborder))
      refine t.approvals.eq_of_key_eq ha' hb' rfl ?_
      exact congrArg some (hbid.trans (hsame ▸ haid.symm))
    · exact absurd (harun harunning)
        (not_running_of_sole hcond ha (haorder.symm.trans horder))
  · rcases descends_or_inserted hsound hstep hb' with
      ⟨b, hb, hbid, hborder, hbrun⟩ | ⟨req', now', heq, rfl⟩
    · subst hanew
      exact absurd (hbrun hbrunning)
        (not_running_of_sole hcond hb (hborder.symm.trans horder.symm))
    · cases heq
      exact hanew

/-- Starts that do not overlap leave one worker to each order. -/
theorem oneWorker_of_run
    (hrun : Run (Restrict ApprovalStep SoleStart) .empty es s) :
    s.OneWorker := by
  have hpreserved : Runs.Preserved (Restrict ApprovalStep SoleStart)
      (fun s => (∀ a ∈ s.approvals, a.Sound) ∧ s.SoleRunning) := by
    rintro s e t ⟨hstep, hcond⟩ ⟨hsound, hsole⟩
    refine ⟨fun a' ha' => ?_, soleRunning_step hsound hsole hstep hcond⟩
    rcases step_change hstep ha' with hold | ⟨a, ha, hchange⟩ | ⟨req, now, -, rfl⟩
    · exact hsound a' hold
    · exact hchange.sound (hsound a ha)
    · exact newApproval_sound req now
  obtain ⟨hsound, hsole⟩ := hrun.preserves hpreserved
    ⟨fun a ha => absurd ha (IndexedTable.not_mem_empty a),
      fun a ha => absurd ha (IndexedTable.not_mem_empty a)⟩
  intro a ha b hb hapolls hbpolls horder
  refine hsole a ha b hb ((hsound a ha).running_of_polls hapolls)
    ((hsound b hb).running_of_polls hbpolls) ?_
  rw [(hsound a ha).orderId_eq, (hsound b hb).orderId_eq, horder]

theorem retryable_of_goesOn
    {answer : AdServerAnswer}
    (ha : a ∈ s.approvals)
    (hcond : ErrorsLast s (.work a.job.syncId (.answer answer)))
    (hgoes : answer.goesOn = true)
    (hleft : a.worker.calls < a.worker.request.maxAttempts) :
    answer.retryable = true := by
  cases answer with
  | performed => cases hgoes
  | raised error =>
      rcases hcond with hpending | hlast
      · exact hpending
      · exact absurd (hlast a (find_of_mem ha)) hleft.ne
  | timedOut error => exact hgoes

/-- The answers of a worker that still polls, and all but the last of any worker. -/
def Worker.Retried
    (w : Worker) : Prop :=
  (∀ answer ∈ w.answers.dropLast, answer.retryable = true) ∧
    (w.phase.polls = true → ∀ answer ∈ w.answers, answer.retryable = true)

theorem Worker.Retried.enter
    (h : a.worker.Retried)
    {next : Phase}
    (hpolls : next.polls = true → a.worker.phase.polls = true) :
    (a.enter next).worker.Retried :=
  ⟨h.1, fun hnext => h.2 (hpolls hnext)⟩

/-- Errors that are not worth another try end the polling, where they come last. -/
theorem stopsAtErrors_of_run
    (hrun : Run (Restrict ApprovalStep ErrorsLast) .empty es s) :
    s.StopsAtErrors := by
  have hall : ∀ a ∈ s.approvals, a.Sound ∧ a.worker.Retried := by
    refine forall_of_run ?_ ?_ hrun
    · exact fun _ req now _ => ⟨newApproval_sound req now, fun _ h => absurd h List.not_mem_nil,
        fun _ _ h => absurd h List.not_mem_nil⟩
    · rintro s e a a' hcond ha ⟨hsound, hretried⟩ hchange
      refine ⟨hchange.sound hsound, ?_⟩
      have hat := hsound.phase
      unfold Worker.AtPhase at hat
      cases hchange with
      | reserve => exact hretried.enter nofun
      | register => exact hretried.enter nofun
      | startThread => exact hretried.enter nofun
      | cancel => exact hretried
      | die => exact hretried.enter nofun
      | restart => exact hretried.enter nofun
      | work hmove =>
          cases moves_of_run hmove with
          | refused => exact hretried.enter nofun
          | ready hphase =>
              rw [hphase] at hat
              refine ⟨hretried.1, fun _ answer hanswer => ?_⟩
              change answer ∈ a.worker.answers at hanswer
              rw [hat.2.1] at hanswer
              cases hanswer
          | attempt hphase =>
              rw [work_attempt hphase]
              exact ⟨hretried.1, fun _ => hretried.2 (by rw [hphase]; rfl)⟩
          | @answer attempt answer hphase =>
              rw [hphase] at hat
              have hprevious := hretried.2 (by rw [hphase]; rfl)
              refine ⟨?_, fun hpolls => ?_⟩
              · change ∀ x ∈ (a.worker.answers ++ [answer]).dropLast, x.retryable = true
                rw [List.dropLast_concat]
                exact hprevious
              · change (afterCall a.worker attempt (approveOrder answer)).polls = true at hpolls
                change ∀ x ∈ a.worker.answers ++ [answer], x.retryable = true
                rcases afterCall_cases a.worker attempt answer with
                  ⟨hgoes, hleft, -⟩ | ⟨-, hnext⟩ | ⟨-, -, error, hnext⟩
                · intro x hx
                  rcases mem_concat.mp hx with hold | rfl
                  · exact hprevious x hold
                  · exact retryable_of_goesOn ha hcond hgoes (by rw [hat.2.1]; exact hleft)
                · rw [hnext] at hpolls
                  cases hpolls
                · rw [hnext] at hpolls
                  cases hpolls
          | wake hphase => exact hretried.enter (fun _ => by rw [hphase]; rfl)
          | mark hphase =>
              rw [work_mark hphase]
              refine ⟨hretried.1, fun hpolls => ?_⟩
              dsimp only at hpolls
              split at hpolls
              · cases hpolls
              · cases hpolls
          | announce hphase =>
              rw [work_announce hphase]
              exact ⟨hretried.1, nofun⟩
          | leave => exact hretried.enter nofun
  exact fun a ha => (hall a ha).2.1

/-- A cancelled worker is past its last try, or in it. -/
def Worker.CancelledLate
    (w : Worker) : Prop :=
  ∀ calls, w.cancelledAt = some calls → w.calls ≤ calls ∧ w.phase.beforeCall = false

theorem Worker.CancelledLate.enter
    (h : a.worker.CancelledLate)
    {next : Phase}
    (hnext : a.worker.phase.beforeCall = false → next.beforeCall = false) :
    (a.enter next).worker.CancelledLate :=
  fun calls hcancelled => ⟨(h calls hcancelled).1, hnext (h calls hcancelled).2⟩

/-- A worker cancelled during its last try makes no further one. -/
theorem cancelsObeyed_of_run
    (hrun : Run (Restrict ApprovalStep CancelledLate) .empty es s) :
    s.CancelsObeyed := by
  have hall : ∀ a ∈ s.approvals, a.Sound ∧ a.worker.CancelledLate := by
    refine forall_of_run (fun _ req now _ => ⟨newApproval_sound req now, nofun⟩) ?_ hrun
    rintro s e a a' hcond ha ⟨hsound, hlate⟩ hchange
    refine ⟨hchange.sound hsound, ?_⟩
    have hat := hsound.phase
    unfold Worker.AtPhase at hat
    cases hchange with
    | reserve hphase => exact hlate.enter (by rw [hphase]; nofun)
    | register hphase => exact hlate.enter (by rw [hphase]; nofun)
    | startThread hphase => exact hlate.enter (by rw [hphase]; nofun)
    | die => exact hlate.enter (fun _ => rfl)
    | restart => exact hlate.enter (fun _ => rfl)
    | cancel hsignal =>
        intro calls hcancelled
        have hpast : a.worker.phase.beforeCall = false := by
          rcases hcond with hnone | hpast
          · exact absurd hnone hsignal
          · exact hpast a (find_of_mem ha)
        refine ⟨?_, hpast⟩
        change some (a.worker.cancelledAt.getD a.worker.calls) = some calls at hcancelled
        cases hfirst : a.worker.cancelledAt with
        | none =>
            rw [hfirst] at hcancelled
            exact (Option.some.inj hcancelled).le
        | some first =>
            rw [hfirst] at hcancelled
            exact (hlate first hfirst).1.trans (Option.some.inj hcancelled).le
    | work hmove =>
        cases moves_of_run hmove with
        | refused hphase => exact hlate.enter (fun _ => rfl)
        | ready hphase => exact hlate.enter (by rw [hphase]; nofun)
        | attempt hphase =>
            rw [work_attempt hphase]
            intro calls hcancelled
            have hpast := (hlate calls hcancelled).2
            rw [hphase] at hpast
            cases hpast
        | @answer attempt answer hphase =>
            rw [hphase] at hat
            intro calls hcancelled
            change a.worker.cancelledAt = some calls at hcancelled
            refine ⟨(hlate calls hcancelled).1, ?_⟩
            change (afterCall a.worker attempt (approveOrder answer)).beforeCall = false
            rcases afterCall_cases a.worker attempt answer with
              ⟨hgoes, hleft, -⟩ | ⟨-, hnext⟩ | ⟨-, -, error, hnext⟩
            · rcases hcond a (find_of_mem ha) (by rw [hcancelled]; nofun) with hstop | hlast
              · rw [hgoes] at hstop
                cases hstop
              · exact absurd (hat.2.1.symm.trans hlast) hleft.ne
            · rw [hnext]
              rfl
            · rw [hnext]
              rfl
        | wake hphase => exact hlate.enter (by rw [hphase]; nofun)
        | mark hphase =>
            rw [work_mark hphase]
            intro calls hcancelled
            refine ⟨(hlate calls hcancelled).1, ?_⟩
            dsimp only
            split
            · rfl
            · rfl
        | announce hphase =>
            rw [work_announce hphase]
            exact fun calls hcancelled => ⟨(hlate calls hcancelled).1, rfl⟩
        | leave => exact hlate.enter (fun _ => rfl)
  exact fun a ha calls hcancelled => ((hall a ha).2 calls hcancelled).1

/-- A job that runs has a worker. -/
def Approval.Attended
    (a : Approval) : Prop :=
  0 < a.worker.request.maxAttempts ∧
    (a.job.status = .running → a.worker.phase ≠ .dead ∧ a.worker.phase ≠ .finished)

theorem Approval.Attended.enter
    (h : a.Attended)
    {next : Phase}
    (hnext : next ≠ .dead ∧ next ≠ .finished) :
    (a.enter next).Attended :=
  ⟨h.1, fun _ => hnext⟩

theorem Approval.Sound.written_of_leaving
    (h : a.Sound)
    (hphase : a.worker.phase = .leaving)
    (htries : 0 < a.worker.request.maxAttempts) :
    a.job.status ≠ .running := by
  have hat := h.phase
  unfold Worker.AtPhase at hat
  rw [hphase] at hat
  rcases hat with ⟨-, hzero⟩ | ⟨outcome, hmarks⟩
  · exact absurd hzero htries.ne'
  · rcases h.marks with ⟨hnone, -⟩ | ⟨outcome', -, -, hstatus, -⟩
    · rw [hnone] at hmarks
      cases hmarks
    · rw [hstatus]
      cases outcome' with
      | completed attempts => nofun
      | failed error => nofun

/-- Where workers survive until their job is written, a job that refuses a start has one. -/
theorem unblocked_of_run
    (hrun : Run (Restrict ApprovalStep Survives) .empty es s) :
    s.Unblocked := by
  have hall : ∀ a ∈ s.approvals, a.Sound ∧ a.Attended := by
    refine forall_of_run
      (fun _ req now htries => ⟨newApproval_sound req now, htries, fun _ => ⟨nofun, nofun⟩⟩) ?_ hrun
    rintro s e a a' hcond ha ⟨hsound, hattended⟩ hchange
    refine ⟨hchange.sound hsound, ?_⟩
    cases hchange with
    | reserve => exact hattended.enter ⟨nofun, nofun⟩
    | register => exact hattended.enter ⟨nofun, nofun⟩
    | startThread => exact hattended.enter ⟨nofun, nofun⟩
    | cancel => exact hattended
    | die =>
        exact ⟨hattended.1, fun hrunning => absurd hrunning (hcond a (find_of_mem ha))⟩
    | restart hphase =>
        exact ⟨hattended.1, fun hrunning => absurd hrunning (hcond a ha hphase)⟩
    | work hmove =>
        cases moves_of_run hmove with
        | refused => exact hattended.enter ⟨nofun, nofun⟩
        | ready =>
            refine hattended.enter ?_
            rcases nextAttempt_cases a.worker 1 with ⟨-, hnext⟩ | ⟨-, hnext⟩
            · rw [hnext]
              exact ⟨nofun, nofun⟩
            · rw [hnext]
              exact ⟨nofun, nofun⟩
        | attempt hphase =>
            rw [work_attempt hphase]
            exact ⟨hattended.1, fun _ => ⟨nofun, nofun⟩⟩
        | @answer attempt answer hphase =>
            refine ⟨hattended.1, fun _ => ?_⟩
            change afterCall a.worker attempt (approveOrder answer) ≠ .dead ∧
              afterCall a.worker attempt (approveOrder answer) ≠ .finished
            rcases afterCall_cases a.worker attempt answer with
              ⟨-, -, hnext⟩ | ⟨-, hnext⟩ | ⟨-, -, error, hnext⟩
            · rw [hnext]
              exact ⟨nofun, nofun⟩
            · rw [hnext]
              exact ⟨nofun, nofun⟩
            · rw [hnext]
              exact ⟨nofun, nofun⟩
        | @wake attempt hphase =>
            refine hattended.enter ?_
            rcases nextAttempt_cases a.worker (attempt + 1) with ⟨-, hnext⟩ | ⟨-, hnext⟩
            · rw [hnext]
              exact ⟨nofun, nofun⟩
            · rw [hnext]
              exact ⟨nofun, nofun⟩
        | mark hphase =>
            rw [work_mark hphase]
            refine ⟨hattended.1, fun _ => ?_⟩
            dsimp only
            split
            · exact ⟨nofun, nofun⟩
            · exact ⟨nofun, nofun⟩
        | announce hphase =>
            rw [work_announce hphase]
            exact ⟨hattended.1, fun _ => ⟨nofun, nofun⟩⟩
        | leave hphase =>
            exact ⟨hattended.1, fun hrunning =>
              absurd hrunning (hsound.written_of_leaving hphase hattended.1)⟩
  intro orderId a hrunning
  have hmem := List.mem_of_find?_eq_some hrunning
  have htest := List.find?_some hrunning
  simp only [Bool.and_eq_true, decide_eq_true_eq] at htest
  exact (hall a hmem).2.2 htest.1

/-- No worker asks the ad server. -/
def NoTries : ApprovalEvent → Prop
  | .work _ .attempt => False
  | _ => True

theorem calls_of_noTries
    (hrun : Run (Restrict ApprovalStep (fun _ e => NoTries e)) .empty es s) :
    ∀ a ∈ s.approvals, a.worker.calls = 0 := by
  refine forall_of_run (fun _ _ _ _ => rfl) ?_ hrun
  intro s e a a' hcond _ hcalls hchange
  cases hchange with
  | reserve => exact hcalls
  | register => exact hcalls
  | startThread => exact hcalls
  | cancel => exact hcalls
  | die => exact hcalls
  | restart => exact hcalls
  | @work move next hmove =>
      unfold Approval.work
      split
      · exact hcond.elim
      · exact hcalls
      · exact hcalls
      · exact hcalls
      · exact hcalls

/-- What is asked of the service. -/
structure Service.AsPromised
    (s : Service) : Prop where
  served : s.Served
  ended : ∀ a ∈ s.approvals, a.worker.phase = .finished →
    ∃ outcome, a.worker.marks = [outcome] ∧ outcome.Matches a.worker ∧
      a.job.status = outcome.status
  oneWorker : s.OneWorker
  stopsAtErrors : s.StopsAtErrors
  cancelsObeyed : s.CancelsObeyed
  unblocked : s.Unblocked
  recorded : ∀ a ∈ s.approvals, a.recordedAttempts = some a.worker.calls

/-- Every condition at once. -/
structure Careful
    (s : Service)
    (e : ApprovalEvent) : Prop where
  soleStart : SoleStart s e
  errorsLast : ErrorsLast s e
  cancelledLate : CancelledLate s e
  survives : Survives s e
  noTries : NoTries e

/-- What holds along a run, and under which conditions. -/
structure ApprovalLaws
    (es : List ApprovalEvent)
    (s : Service) : Prop where
  served : s.Served
  oneWorker : Run (Restrict ApprovalStep SoleStart) .empty es s → s.OneWorker
  stopsAtErrors : Run (Restrict ApprovalStep ErrorsLast) .empty es s → s.StopsAtErrors
  cancelsObeyed : Run (Restrict ApprovalStep CancelledLate) .empty es s → s.CancelsObeyed
  unblocked : Run (Restrict ApprovalStep Survives) .empty es s → s.Unblocked
  asPromised : Run (Restrict ApprovalStep Careful) .empty es s → s.AsPromised

theorem tries_of_survives
    (hrun : Run (Restrict ApprovalStep Survives) .empty es s) :
    ∀ a ∈ s.approvals, 0 < a.worker.request.maxAttempts := by
  refine forall_of_run (fun _ _ _ htries => htries) ?_ hrun
  intro s e a a' _ _ htries hchange
  rw [hchange.descends.2.1]
  exact htries

/-- The laws of background approvals, for every run. -/
theorem approval_laws
    (hrun : Run ApprovalStep .empty es s) :
    ApprovalLaws es s where
  served := served_of_sound (sound_of_run hrun)
  oneWorker := oneWorker_of_run
  stopsAtErrors := stopsAtErrors_of_run
  cancelsObeyed := cancelsObeyed_of_run
  unblocked := unblocked_of_run
  asPromised := fun hcareful => by
    have hserved := served_of_sound (sound_of_run hrun)
    have hsurvives : Run (Restrict ApprovalStep Survives) .empty es s :=
      hcareful.mono (fun _ _ _ h => ⟨h.1, h.2.survives⟩)
    refine ⟨hserved, ?_, ?_, ?_, ?_, unblocked_of_run hsurvives, ?_⟩
    · exact fun a ha hfinished =>
        hserved.ended a ha hfinished (tries_of_survives hsurvives a ha)
    · exact oneWorker_of_run (hcareful.mono (fun _ _ _ h => ⟨h.1, h.2.soleStart⟩))
    · exact stopsAtErrors_of_run (hcareful.mono (fun _ _ _ h => ⟨h.1, h.2.errorsLast⟩))
    · exact cancelsObeyed_of_run (hcareful.mono (fun _ _ _ h => ⟨h.1, h.2.cancelledLate⟩))
    · exact fun a ha => (hserved.attempts a ha).mpr
        (calls_of_noTries (hcareful.mono (fun _ _ _ h => ⟨h.1, h.2.noTries⟩)) a ha)

end Laws

section Samples

/-- The order of a sample. -/
def sampleStart : StartRequest where
  orderId := "7"
  mediaBuyId := "mb_7"
  tenantId := "tenant"
  principalId := "principal"

/-- The events of a start up to the first try. -/
def startEvents
    (req : StartRequest)
    (now : DateTime) : List ApprovalEvent :=
  let id := approvalId req.orderId now
  [.insert req now, .reserve id, .register id, .startThread id, .work id (.configure .ready)]

/-- The worker of the sample is told that the order may not be approved, is cancelled, and
asks again. -/
def disobedientEvents : List ApprovalEvent :=
  .check sampleStart :: startEvents sampleStart 0 ++
    [.work "approval_7_0" .attempt,
      .work "approval_7_0" (.answer (.raised "PERMISSION_DENIED")),
      .cancel "approval_7_0",
      .work "approval_7_0" .wake,
      .work "approval_7_0" .attempt,
      .work "approval_7_0" (.answer .performed)]

/-- Two starts of the sample check before either inserts. -/
def overlappingEvents : List ApprovalEvent :=
  [.check sampleStart, .check sampleStart] ++ startEvents sampleStart 0 ++
    startEvents sampleStart 1000000

/-- The process ends while the worker of the sample polls. -/
def abandonedEvents : List ApprovalEvent :=
  .check sampleStart :: startEvents sampleStart 0 ++ [.restart]

/-- A start whose worker has made no call yet meets every condition. -/
theorem run_careful :
    ∃ s, Run (Restrict ApprovalStep Careful) .empty
      (.check sampleStart :: startEvents sampleStart 0) s := by
  have hfree : SoleStart (Service.empty.checkStart sampleStart) (.insert sampleStart 0) := rfl
  have htries : 0 < sampleStart.maxAttempts := by decide
  exact ⟨_, .cons ⟨rfl, trivial, trivial, trivial, trivial, trivial⟩
    (.cons ⟨rfl, hfree, trivial, trivial, htries, trivial⟩
    (.cons ⟨rfl, trivial, trivial, trivial, trivial, trivial⟩
    (.cons ⟨rfl, trivial, trivial, trivial, trivial, trivial⟩
    (.cons ⟨rfl, trivial, trivial, trivial, trivial, trivial⟩
    (.single ⟨rfl, trivial, trivial, trivial, trivial, trivial⟩)))))⟩

/-- The laws of the sample history, and all that is promised of a start that meets the
conditions. -/
theorem approval_laws_sample :
    (∃ s, ApprovalLaws disobedientEvents s ∧ s.approvals.rows.length = 1) ∧
      ∃ s, Run (Restrict ApprovalStep Careful) .empty
        (.check sampleStart :: startEvents sampleStart 0) s ∧ s.AsPromised := by
  have hreached : (disobedientEvents.foldlM perform Service.empty).toOption.any
      (fun s => s.approvals.rows.length = 1) = true := by decide +kernel
  obtain ⟨s, hrun, hone⟩ := Runs.exists_run_of_foldlM hreached
  obtain ⟨t, hcareful⟩ := run_careful
  exact ⟨⟨s, approval_laws hrun, of_decide_eq_true hone⟩,
    t, hcareful, (approval_laws (hcareful.mono fun _ _ _ h => h.1)).asPromised hcareful⟩

/-- Counterexample: a worker makes a second call after an error that is not worth one and
after a cancellation that returned true, and its job records none; two overlapping starts
leave two workers that poll one order; and a job whose worker died with the process refuses
every later start. -/
theorem approvals_unkept :
    (∃ s, Run ApprovalStep .empty disobedientEvents s ∧ ¬ s.StopsAtErrors ∧ ¬ s.CancelsObeyed ∧
      ¬ ∀ a ∈ s.approvals, a.recordedAttempts = some a.worker.calls) ∧
    (∃ s, Run ApprovalStep .empty overlappingEvents s ∧ ¬ s.OneWorker) ∧
    (∃ s, Run ApprovalStep .empty abandonedEvents s ∧ ¬ s.Unblocked) := by
  refine ⟨?_, ?_, ?_⟩
  · have hreached : (disobedientEvents.foldlM perform Service.empty).toOption.any
        (fun s => s.approvals.rows.any (fun a => a.worker.calls = 2 &&
          a.recordedAttempts = some 0 && a.worker.cancelledAt = some 1 &&
          a.worker.answers.dropLast.any (fun answer => !answer.retryable))) = true := by
      decide +kernel
    obtain ⟨s, hrun, htest⟩ := Runs.exists_run_of_foldlM hreached
    obtain ⟨a, ha, htest⟩ := List.any_eq_true.mp htest
    simp only [Bool.and_eq_true, decide_eq_true_eq] at htest
    obtain ⟨⟨⟨hcalls, hrecorded⟩, hcancelled⟩, hanswer⟩ := htest
    obtain ⟨answer, hanswer, hfinal⟩ := List.any_eq_true.mp hanswer
    refine ⟨s, hrun, fun hstops => ?_, fun hobeyed => ?_, fun hrecords => ?_⟩
    · rw [hstops a ha answer hanswer] at hfinal
      cases hfinal
    · have hle := hobeyed a ha 1 hcancelled
      rw [hcalls] at hle
      exact absurd hle (by decide)
    · have hsame := hrecords a ha
      rw [hrecorded, hcalls] at hsame
      cases hsame
  · have hreached : (overlappingEvents.foldlM perform Service.empty).toOption.any
        (fun s => s.approvals.rows.any (fun a => a.worker.phase.polls && a.orderId = some "7" &&
          a.worker.request.orderId = "7" && s.approvals.rows.any (fun b => b.worker.phase.polls &&
            b.worker.request.orderId = "7" && a ≠ b))) = true := by decide +kernel
    obtain ⟨s, hrun, htest⟩ := Runs.exists_run_of_foldlM hreached
    obtain ⟨a, ha, htest⟩ := List.any_eq_true.mp htest
    simp only [Bool.and_eq_true, decide_eq_true_eq] at htest
    obtain ⟨⟨⟨hapolls, -⟩, haorder⟩, hother⟩ := htest
    obtain ⟨b, hb, htest⟩ := List.any_eq_true.mp hother
    simp only [Bool.and_eq_true, decide_eq_true_eq] at htest
    obtain ⟨⟨hbpolls, hborder⟩, hne⟩ := htest
    exact ⟨s, hrun, fun hone => hne (hone a ha b hb hapolls hbpolls
      (haorder.trans hborder.symm))⟩
  · have hreached : (abandonedEvents.foldlM perform Service.empty).toOption.any
        (fun s => (s.approvalRunning "7").any (fun a => a.worker.phase = .dead)) = true := by
      decide +kernel
    obtain ⟨s, hrun, htest⟩ := Runs.exists_run_of_foldlM hreached
    obtain ⟨a, hrunning, hdead⟩ := (Option.any_eq_true _ _).mp htest
    exact ⟨s, hrun, fun hunblocked =>
      (hunblocked "7" a hrunning).1 (of_decide_eq_true hdead)⟩

end Samples

end Background
end SalesAgent
