import SalesAgent.DateTime

/-!
# The media-buy row and the status its flight window implies

The `media_buys.status` column holds one of a closed vocabulary.  Three rules
choose a member: the synchronous create, the flight-window rule that approvals
and the scheduler share, and the guard with which the scheduler moves a row.

**Results.**
* `computeNewStatus_eq_some`: the moves a sweep makes.
-/

namespace SalesAgent
namespace MediaBuys

/-- The closed vocabulary of the status column. -/
inductive PersistedMediaBuyStatus
  | pendingCreatives
  | pendingStart
  | active
  | paused
  | completed
  | rejected
  | canceled
  | draft
  | pending
  | pendingApproval
  | pendingActivation
  | scheduled
  | approved
  | ready
  | failed
  deriving DecidableEq, Repr

/-- A row of `media_buys`. -/
structure MediaBuy where
  mediaBuyId : String
  tenantId : String
  principalId : String
  accountId : Option String
  idempotencyKey : Option String
  currency : Option String
  startDate : Int
  endDate : Int
  startTime : Option DateTime
  endTime : Option DateTime
  status : PersistedMediaBuyStatus
  isPaused : Bool
  revision : Nat
  confirmedAt : Option DateTime
  approvedAt : Option DateTime
  approvedBy : Option String
  createdAt : DateTime
  deriving DecidableEq, Repr

/-- Microseconds of a day. -/
def dayLength : Timedelta := 86400000000

/-- Midnight UTC of a date. -/
def utcFlightStart
    (date : Int) : DateTime :=
  date * dayLength

/-- The last instant of a date. -/
def utcFlightEnd
    (date : Int) : DateTime :=
  date * dayLength + (dayLength - 1)

/-- The date an instant falls on. -/
def dateOf
    (t : DateTime) : Int :=
  t / dayLength

/-- The buy's window; instants win over the days they fall in. -/
def flightWindow
    (mediaBuy : MediaBuy) : DateTime × DateTime :=
  (mediaBuy.startTime.getD (utcFlightStart mediaBuy.startDate),
    mediaBuy.endTime.getD (utcFlightEnd mediaBuy.endDate))

/-- The status the flight window implies; its end is checked first. -/
def resolveFlightWindowStatus
    (mediaBuy : MediaBuy)
    (now : DateTime)
    (creativesApproved : Bool) : PersistedMediaBuyStatus :=
  let (start, «end») := flightWindow mediaBuy
  if «end» < now then .completed
  else if now < start then .scheduled
  else if ! creativesApproved then .pendingCreatives
  else .active

/-- The status of a buy created without approval. -/
def determineMediaBuyStatus
    (manualApprovalRequired hasCreatives creativesApproved : Bool)
    (startTime endTime now : DateTime) : PersistedMediaBuyStatus :=
  if endTime < now then .completed
  else if ! hasCreatives || ! creativesApproved then .pendingCreatives
  else if manualApprovalRequired || decide (now < startTime) then .pendingStart
  else .active

/-- The statuses a sweep may activate. -/
def activatableStatuses : List PersistedMediaBuyStatus :=
  [.pendingStart, .pendingActivation, .scheduled]

/-- The status a sweep writes, or `none` to leave the row alone. -/
def computeNewStatus
    (mediaBuy : MediaBuy)
    (now : DateTime)
    (creativesApproved : Bool) : Option PersistedMediaBuyStatus :=
  let target := resolveFlightWindowStatus mediaBuy now creativesApproved
  if target = mediaBuy.status then none
  else if target = .completed then some target
  else if target = .active ∧ mediaBuy.status ∈ activatableStatuses then some target
  else none

theorem resolve_of_approved
    (mediaBuy : MediaBuy)
    (now : DateTime) :
    resolveFlightWindowStatus mediaBuy now true ∈
      [PersistedMediaBuyStatus.completed, .scheduled, .active] := by
  simp only [resolveFlightWindowStatus]
  split
  · simp
  · split <;> simp

/-- A sweep completes a buy or activates one that waits to start. -/
theorem computeNewStatus_eq_some
    {mediaBuy : MediaBuy} {now : DateTime} {creativesApproved : Bool}
    {status : PersistedMediaBuyStatus}
    (h : computeNewStatus mediaBuy now creativesApproved = some status) :
    (status = .completed ∨ status = .active ∧ mediaBuy.status ∈ activatableStatuses) ∧
      status = resolveFlightWindowStatus mediaBuy now creativesApproved ∧
      status ≠ mediaBuy.status := by
  simp only [computeNewStatus] at h
  split at h
  · cases h
  · next hne =>
      split at h
      · next hdone =>
          cases h
          exact ⟨.inl hdone, rfl, hne⟩
      · split at h
        · next hact =>
            cases h
            exact ⟨.inr hact, rfl, hne⟩
        · cases h

end MediaBuys
end SalesAgent
