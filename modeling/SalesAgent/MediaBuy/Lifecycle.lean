import SalesAgent.Lib.Runs
import SalesAgent.MediaBuy.Creatives
import SalesAgent.MediaBuy.Repository

/-!
# The life of one media buy

The state of one buy is its row, the tenant's creatives and assignments, the
executions of its approval that are under way, and how many orders the ad server
has created for it.  `execute_approved_media_buy` is not one transaction: it
reads the creative gate, calls the ad server, and writes the status afterwards.
Its three points are phases of a numbered execution, and everything else may
happen between them.

Three routes start an execution.  The two admin approval routes ask that the row
is `pending_approval`; the creative-approval route asks that it is
`pending_creatives` or `draft` and that no assigned creative is unapproved.

**Results.**
* `LifeStep.rowChange`: how a step can change the row.  It inserts one, leaves it
  alone, or applies one writer of the repository, and a writer that commits does
  so for an execution that holds an order or to make the row active.
* `LifeStep.orders_le`, `ordersBacked_preserved`: orders are never lost, and an
  execution holds an order only if the ad server has one.
-/

namespace SalesAgent
namespace MediaBuys

open Runs

/-- How far an execution of the approved buy has come. -/
inductive ExecPhase
  /-- a route decided to execute -/
  | admitted
  /-- the creative gate was passed -/
  | gated
  /-- the ad server answered with an order -/
  | ordered
  deriving DecidableEq, Repr

/-- One buy, what its gates read, its executions and its ad-server orders. -/
structure LifeState where
  row : Option MediaBuy
  creatives : List Creative
  assignments : List CreativeAssignment
  running : Nat → Option ExecPhase
  orders : Nat

/-- No row and no order; the tenant's creatives may exist. -/
def LifeState.init
    (creatives : List Creative)
    (assignments : List CreativeAssignment) : LifeState where
  row := none
  creatives := creatives
  assignments := assignments
  running := fun _ => none
  orders := 0

namespace LifeState

/-- Commit the row. -/
def write
    (s : LifeState)
    (row : MediaBuy) : LifeState :=
  { s with row := some row }

/-- An execution reaches a phase. -/
def advance
    (s : LifeState)
    (i : Nat)
    (phase : ExecPhase) : LifeState :=
  { s with running := Function.update s.running i (some phase) }

/-- An execution is over. -/
def drop
    (s : LifeState)
    (i : Nat) : LifeState :=
  { s with running := Function.update s.running i none }

end LifeState

/-- What a create request decides about its buy. -/
structure NewBuy where
  mediaBuyId : String
  tenantId : String
  principalId : String
  accountId : Option String
  idempotencyKey : Option String
  currency : Option String
  startTime : DateTime
  endTime : DateTime
  hasCreatives : Bool

/-- The row of a create whose adapter call returned; its creatives are unapproved. -/
def NewBuy.syncRow
    (b : NewBuy)
    (now : DateTime) : MediaBuy :=
  MediaBuy.createFromRequest b.mediaBuyId b.tenantId b.principalId b.accountId b.idempotencyKey
    b.currency b.startTime b.endTime
    (determineMediaBuyStatus false b.hasCreatives (! b.hasCreatives) b.startTime b.endTime now)
    now true

/-- The row of a create that waits for manual approval. -/
def NewBuy.manualRow
    (b : NewBuy)
    (now : DateTime) : MediaBuy :=
  MediaBuy.createFromRequest b.mediaBuyId b.tenantId b.principalId b.accountId b.idempotencyKey
    b.currency b.startTime b.endTime .pendingApproval now

/-- What happens in the life of a buy. -/
inductive LifeEvent
  | createSync (b : NewBuy) (now : DateTime)
  | createManual (b : NewBuy) (now : DateTime)
  | approvalRoute (i : Nat)
  | creativeRoute (i : Nat)
  | held (i : Nat) (now : DateTime) (approvedAt : Option DateTime) (approvedBy : Option String)
  | gatePassed (i : Nat)
  | abandoned (i : Nat)
  | adapterOk (i : Nat)
  | adapterRaised (i : Nat) (now : DateTime)
  | executed (i : Nat) (now : DateTime) (approvedAt : Option DateTime)
      (approvedBy : Option String)
  | failedAfterOrder (i : Nat) (now : DateTime)
  | died (i : Nat)
  | rejected (now : DateTime)
  | swept (now : DateTime)
  | updated (updates : MediaBuy.FieldUpdates) (now : DateTime)
  | creativesChanged (creatives : List Creative) (assignments : List CreativeAssignment)
  | draftAssigned (now : DateTime)

/-- The statuses the sweep selects. -/
def sweptStatuses : List PersistedMediaBuyStatus :=
  .active :: activatableStatuses

/-- One step in the life of a buy, each database transaction being one step. -/
inductive LifeStep : LifeState → LifeEvent → LifeState → Prop
  /-- the adapter returned and the row was inserted as committed -/
  | createSync {s b now} :
      s.row = none →
      LifeStep s (.createSync b now) { s.write (b.syncRow now) with orders := s.orders + 1 }
  /-- the row waits for approval, the ad server was not asked -/
  | createManual {s b now} :
      s.row = none →
      LifeStep s (.createManual b now) (s.write (b.manualRow now))
  /-- `approve_workflow_step` or `approve_media_buy` saw a pending row -/
  | approvalRoute {s i row} :
      s.row = some row →
      row.status = .pendingApproval →
      s.running i = none →
      LifeStep s (.approvalRoute i) (s.advance i .admitted)
  /-- `approve_creative` saw an unblocked row -/
  | creativeRoute {s i row} :
      s.row = some row →
      row.status = .pendingCreatives ∨ row.status = .draft →
      unapprovedCreativeIds s.creatives s.assignments row.tenantId row.mediaBuyId = [] →
      s.running i = none →
      LifeStep s (.creativeRoute i) (s.advance i .admitted)
  /-- the gate found an unapproved creative -/
  | held {s i row now approvedAt approvedBy} :
      s.row = some row →
      s.running i = some .admitted →
      unapprovedCreativeIds s.creatives s.assignments row.tenantId row.mediaBuyId ≠ [] →
      LifeStep s (.held i now approvedAt approvedBy)
        ((s.write (row.updateStatus .pendingCreatives now false approvedAt approvedBy)).drop i)
  | gatePassed {s i row} :
      s.row = some row →
      s.running i = some .admitted →
      unapprovedCreativeIds s.creatives s.assignments row.tenantId row.mediaBuyId = [] →
      LifeStep s (.gatePassed i) (s.advance i .gated)
  /-- the stored buy could not be rebuilt; the row is left as it was -/
  | abandoned {s i} :
      s.running i = some .gated →
      LifeStep s (.abandoned i) (s.drop i)
  | adapterOk {s i} :
      s.running i = some .gated →
      LifeStep s (.adapterOk i) { s.advance i .ordered with orders := s.orders + 1 }
  | adapterRaised {s i row now} :
      s.row = some row →
      s.running i = some .gated →
      LifeStep s (.adapterRaised i now) ((s.write (row.updateStatus .failed now)).drop i)
  /-- the post-adapter write -/
  | executed {s i row now approvedAt approvedBy} :
      s.row = some row →
      s.running i = some .ordered →
      LifeStep s (.executed i now approvedAt approvedBy)
        ((s.write (row.updateStatus (resolveFlightWindowStatus row now true) now true
          approvedAt approvedBy)).drop i)
  /-- uploading creatives or approving the order failed -/
  | failedAfterOrder {s i row now} :
      s.row = some row →
      s.running i = some .ordered →
      LifeStep s (.failedAfterOrder i now) ((s.write (row.updateStatus .failed now)).drop i)
  /-- the process died, or FAILED could not be recorded -/
  | died {s i phase} :
      s.running i = some phase →
      LifeStep s (.died i) (s.drop i)
  | rejected {s row now} :
      s.row = some row →
      row.status = .pendingApproval →
      LifeStep s (.rejected now) (s.write (row.updateStatus .rejected now))
  | swept {s row now status} :
      s.row = some row →
      row.status ∈ sweptStatuses →
      computeNewStatus row now
        (areCreativesApproved s.creatives s.assignments row.tenantId row.mediaBuyId) =
          some status →
      LifeStep s (.swept now)
        (s.write (row.updateStatus status now (decide (status = .active))))
  /-- pause, resume and flight dates from `update_media_buy` -/
  | updated {s row updates now} :
      s.row = some row →
      updates.status = none →
      LifeStep s (.updated updates now) (s.write (row.updateFields updates now))
  /-- creatives are synced, reviewed, assigned or unassigned -/
  | creativesChanged {s creatives assignments} :
      LifeStep s (.creativesChanged creatives assignments)
        { s with creatives := creatives, assignments := assignments }
  /-- an assignment to an approved draft -/
  | draftAssigned {s row now} :
      s.row = some row →
      row.status = .draft →
      row.approvedAt ≠ none →
      LifeStep s (.draftAssigned now) (s.write (row.updateStatus .pendingCreatives now))

/-- How one step changes the row. -/
inductive RowChange (s t : LifeState) : Prop
  | insertedSync (b : NewBuy) (now : DateTime) :
      s.row = none → t.row = some (b.syncRow now) → 0 < t.orders → RowChange s t
  | insertedManual (b : NewBuy) (now : DateTime) :
      s.row = none → t.row = some (b.manualRow now) → RowChange s t
  | kept : t.row = s.row → RowChange s t
  | written (row row' : MediaBuy) (committed : Bool) :
      s.row = some row →
      t.row = some row' →
      MediaBuy.WriterSpec row row' committed →
      (row'.status = .active → row.status = .active ∨ committed = true) →
      (committed = true → (∃ i, s.running i = some .ordered) ∨ row'.status = .active) →
      RowChange s t

/-- A step inserts the row, keeps it, or applies one writer of the repository. -/
theorem LifeStep.rowChange
    {s t : LifeState} {e : LifeEvent}
    (h : LifeStep s e t) :
    RowChange s t := by
  cases h with
  | createSync hnone =>
      exact .insertedSync _ _ hnone rfl (Nat.succ_pos _)
  | createManual hnone =>
      exact .insertedManual _ _ hnone rfl
  | approvalRoute _ _ _ => exact .kept rfl
  | creativeRoute _ _ _ _ => exact .kept rfl
  | held hrow _ _ =>
      exact .written _ _ false hrow rfl (MediaBuy.updateStatus_spec _ _ _ _ _ _)
        (by simp) (by simp)
  | gatePassed _ _ _ => exact .kept rfl
  | abandoned _ => exact .kept rfl
  | adapterOk _ => exact .kept rfl
  | adapterRaised hrow _ =>
      exact .written _ _ false hrow rfl (MediaBuy.updateStatus_spec _ _ _ _ _ _)
        (by simp) (by simp)
  | executed hrow hi =>
      exact .written _ _ true hrow rfl (MediaBuy.updateStatus_spec _ _ _ _ _ _)
        (fun _ => .inr rfl) (fun _ => .inl ⟨_, hi⟩)
  | failedAfterOrder hrow _ =>
      exact .written _ _ false hrow rfl (MediaBuy.updateStatus_spec _ _ _ _ _ _)
        (by simp) (by simp)
  | died _ => exact .kept rfl
  | rejected hrow _ =>
      exact .written _ _ false hrow rfl (MediaBuy.updateStatus_spec _ _ _ _ _ _)
        (by simp) (by simp)
  | swept hrow _ _ =>
      exact .written _ _ _ hrow rfl (MediaBuy.updateStatus_spec _ _ _ _ _ _)
        (by simpa using fun h => .inr h) (by simpa using fun h => .inr h)
  | updated hrow hstatus =>
      exact .written _ _ false hrow rfl (MediaBuy.updateFields_spec _ _ _ _)
        (by simp [hstatus]) (by simp)
  | creativesChanged => exact .kept rfl
  | draftAssigned hrow _ _ =>
      exact .written _ _ false hrow rfl (MediaBuy.updateStatus_spec _ _ _ _ _ _)
        (by simp) (by simp)

/-- No step takes an order back. -/
theorem LifeStep.orders_le
    {s t : LifeState} {e : LifeEvent}
    (h : LifeStep s e t) :
    s.orders ≤ t.orders := by
  cases h <;> simp [LifeState.write, LifeState.advance, LifeState.drop]

theorem LifeState.running_advance
    {s : LifeState} {i j : Nat} {phase phase' : ExecPhase} :
    (s.advance i phase).running j = some phase' ↔
      (j = i ∧ phase = phase') ∨ (j ≠ i ∧ s.running j = some phase') := by
  by_cases h : j = i
  · subst h
    simp [LifeState.advance]
  · simp [LifeState.advance, h]

theorem LifeState.running_drop
    {s : LifeState} {i j : Nat} {phase : ExecPhase} :
    (s.drop i).running j = some phase ↔ j ≠ i ∧ s.running j = some phase := by
  by_cases h : j = i
  · subst h
    simp [LifeState.drop]
  · simp [LifeState.drop, h]

/-- An execution holds an order only if the ad server has one. -/
def OrdersBacked
    (s : LifeState) : Prop :=
  ∀ i, s.running i = some .ordered → 0 < s.orders

theorem ordersBacked_preserved :
    Preserved LifeStep OrdersBacked := by
  have hadvance : ∀ s i phase, phase ≠ .ordered → OrdersBacked s →
      OrdersBacked (s.advance i phase) := by
    intro s i phase hphase hs j hj
    rcases LifeState.running_advance.mp hj with ⟨-, heq⟩ | ⟨-, hold⟩
    · exact absurd heq hphase
    · exact hs j hold
  have hdrop : ∀ s i, OrdersBacked s → OrdersBacked (s.drop i) := by
    intro s i hs j hj
    exact hs j (LifeState.running_drop.mp hj).2
  intro s e t hstep hs
  cases hstep with
  | createSync _ => exact fun i hi => Nat.succ_pos _
  | createManual _ => exact hs
  | approvalRoute _ _ _ => exact hadvance _ _ _ (by simp) hs
  | creativeRoute _ _ _ _ => exact hadvance _ _ _ (by simp) hs
  | held _ _ _ => exact hdrop _ _ hs
  | gatePassed _ _ _ => exact hadvance _ _ _ (by simp) hs
  | abandoned _ => exact hdrop _ _ hs
  | adapterOk _ => exact fun i hi => Nat.succ_pos _
  | adapterRaised _ _ => exact hdrop _ _ hs
  | executed _ _ => exact hdrop _ _ hs
  | failedAfterOrder _ _ => exact hdrop _ _ hs
  | died _ => exact hdrop _ _ hs
  | rejected _ _ => exact hs
  | swept _ _ _ => exact hs
  | updated _ _ => exact hs
  | creativesChanged => exact hs
  | draftAssigned _ _ _ => exact hs

theorem OrdersBacked.init
    (creatives : List Creative)
    (assignments : List CreativeAssignment) :
    OrdersBacked (LifeState.init creatives assignments) := by
  intro i hi
  cases hi

/-- A buy that flies on the first two days and asks for no creatives. -/
def sampleBuy : NewBuy where
  mediaBuyId := "mb_1"
  tenantId := "tenant"
  principalId := "principal"
  accountId := some "acc"
  idempotencyKey := some "key-0123456789abcdef"
  currency := some "USD"
  startTime := 0
  endTime := 172800000000
  hasCreatives := false

end MediaBuys
end SalesAgent
