import SalesAgent.MediaBuy.Status

/-!
# Writers of the media-buy row

Each writer of `MediaBuyRepository` that changes a buy stamps `confirmed_at` if
the seller committed, then bumps `revision` with a SQL expression, so the
database serializes concurrent bumps.  `revision` and `confirmed_at` are columns
the repository owns: no writer takes a value for them.

**Results.**  For each writer: the revision afterwards, `confirmed_at` once set
stays, and when it becomes set.  `WriterSpec` states the three together and is
what later invariants use of a writer.
-/

namespace SalesAgent
namespace MediaBuys

namespace MediaBuy

/-- Move the concurrency token. -/
def bumpRevision
    (row : MediaBuy) : MediaBuy :=
  { row with revision := row.revision + 1 }

/-- Write `confirmed_at` the first time the seller commits. -/
def stampConfirmationIfNeeded
    (row : MediaBuy)
    (sellerCommitted : Bool)
    (now : DateTime) : MediaBuy :=
  if row.confirmedAt ≠ none then row
  else if ! sellerCommitted then row
  else { row with confirmedAt := some now }

/-- Write the status and, where given, the approval columns. -/
def updateStatus
    (row : MediaBuy)
    (status : PersistedMediaBuyStatus)
    (now : DateTime)
    (sellerCommitted : Bool := false)
    (approvedAt : Option DateTime := none)
    (approvedBy : Option String := none) : MediaBuy :=
  (({ row with
        status := status
        approvedAt := approvedAt <|> row.approvedAt
        approvedBy := approvedBy <|> row.approvedBy }).stampConfirmationIfNeeded
      sellerCommitted now).bumpRevision

/-- The columns `update_fields` is called with; the immutable ones are not among them. -/
structure FieldUpdates where
  status : Option PersistedMediaBuyStatus := none
  isPaused : Option Bool := none
  startTime : Option DateTime := none
  endTime : Option DateTime := none
  deriving DecidableEq, Repr

/-- Write the given columns. -/
def updateFields
    (row : MediaBuy)
    (updates : FieldUpdates)
    (now : DateTime)
    (sellerCommitted : Bool := false) : MediaBuy :=
  (({ row with
        status := updates.status.getD row.status
        isPaused := updates.isPaused.getD row.isPaused
        startTime := updates.startTime <|> row.startTime
        endTime := updates.endTime <|> row.endTime }).stampConfirmationIfNeeded
      sellerCommitted now).bumpRevision

/-- The row a create inserts; the repository derives `revision` and `confirmed_at`. -/
def createFromRequest
    (mediaBuyId tenantId principalId : String)
    (accountId idempotencyKey currency : Option String)
    (startTime endTime : DateTime)
    (status : PersistedMediaBuyStatus)
    (now : DateTime)
    (sellerCommitted : Bool := false) : MediaBuy :=
  ({ mediaBuyId := mediaBuyId
     tenantId := tenantId
     principalId := principalId
     accountId := accountId
     idempotencyKey := idempotencyKey
     currency := currency
     startDate := dateOf startTime
     endDate := dateOf endTime
     startTime := some startTime
     endTime := some endTime
     status := status
     isPaused := false
     revision := 1
     confirmedAt := none
     approvedAt := none
     approvedBy := none
     createdAt := now } : MediaBuy).stampConfirmationIfNeeded sellerCommitted now

section Stamp

variable (row : MediaBuy) (sellerCommitted : Bool) (now : DateTime)

theorem stamp_eq :
    ∃ confirmedAt, row.stampConfirmationIfNeeded sellerCommitted now =
      { row with confirmedAt := confirmedAt } := by
  unfold stampConfirmationIfNeeded
  split
  · exact ⟨_, rfl⟩
  · split
    · exact ⟨_, rfl⟩
    · exact ⟨_, rfl⟩

@[simp] theorem stamp_status :
    (row.stampConfirmationIfNeeded sellerCommitted now).status = row.status := by
  obtain ⟨confirmedAt, hstamp⟩ := stamp_eq row sellerCommitted now
  rw [hstamp]

@[simp] theorem stamp_revision :
    (row.stampConfirmationIfNeeded sellerCommitted now).revision = row.revision := by
  obtain ⟨confirmedAt, hstamp⟩ := stamp_eq row sellerCommitted now
  rw [hstamp]

@[simp] theorem stamp_uncommitted :
    row.stampConfirmationIfNeeded false now = row := by
  simp [stampConfirmationIfNeeded]

@[simp] theorem stamp_mediaBuyId :
    (row.stampConfirmationIfNeeded sellerCommitted now).mediaBuyId = row.mediaBuyId := by
  obtain ⟨confirmedAt, hstamp⟩ := stamp_eq row sellerCommitted now
  rw [hstamp]

@[simp] theorem stamp_tenantId :
    (row.stampConfirmationIfNeeded sellerCommitted now).tenantId = row.tenantId := by
  obtain ⟨confirmedAt, hstamp⟩ := stamp_eq row sellerCommitted now
  rw [hstamp]

theorem stamp_committed :
    (row.stampConfirmationIfNeeded true now).confirmedAt ≠ none := by
  unfold stampConfirmationIfNeeded
  split
  · assumption
  · simp

theorem stamp_of_confirmed
    {c : DateTime}
    (h : row.confirmedAt = some c) :
    row.stampConfirmationIfNeeded sellerCommitted now = row := by
  simp [stampConfirmationIfNeeded, h]

theorem stamp_confirmed_inv
    (h : (row.stampConfirmationIfNeeded sellerCommitted now).confirmedAt ≠ none) :
    row.confirmedAt ≠ none ∨ sellerCommitted = true := by
  cases sellerCommitted with
  | true => exact .inr rfl
  | false =>
      rw [stamp_uncommitted] at h
      exact .inl h

end Stamp

/-- What a writer of the repository does to the columns it owns. -/
structure WriterSpec (row row' : MediaBuy) (sellerCommitted : Bool) : Prop where
  revision : row'.revision = row.revision + 1
  write_once : ∀ c, row.confirmedAt = some c → row'.confirmedAt = some c
  committed : sellerCommitted = true → row'.confirmedAt ≠ none
  confirmed_inv : row'.confirmedAt ≠ none → row.confirmedAt ≠ none ∨ sellerCommitted = true

theorem writerSpec_of_stamp
    {row base : MediaBuy} {sellerCommitted : Bool} {now : DateTime}
    (hrevision : base.revision = row.revision)
    (hconfirmed : base.confirmedAt = row.confirmedAt) :
    WriterSpec row (base.stampConfirmationIfNeeded sellerCommitted now).bumpRevision
      sellerCommitted where
  revision := by
    simp [bumpRevision, hrevision]
  write_once := by
    intro c hc
    have hbase : base.confirmedAt = some c := hconfirmed.trans hc
    simp [bumpRevision, stamp_of_confirmed base sellerCommitted now hbase, hbase]
  committed := by
    rintro rfl
    exact stamp_committed base now
  confirmed_inv := by
    intro h
    rw [← hconfirmed]
    exact stamp_confirmed_inv base sellerCommitted now h

theorem updateStatus_spec
    (row : MediaBuy)
    (status : PersistedMediaBuyStatus)
    (now : DateTime)
    (sellerCommitted : Bool)
    (approvedAt : Option DateTime)
    (approvedBy : Option String) :
    WriterSpec row (row.updateStatus status now sellerCommitted approvedAt approvedBy)
      sellerCommitted :=
  writerSpec_of_stamp rfl rfl

@[simp] theorem updateStatus_status
    (row : MediaBuy)
    (status : PersistedMediaBuyStatus)
    (now : DateTime)
    (sellerCommitted : Bool)
    (approvedAt : Option DateTime)
    (approvedBy : Option String) :
    (row.updateStatus status now sellerCommitted approvedAt approvedBy).status = status := by
  simp [updateStatus, bumpRevision]

theorem updateFields_spec
    (row : MediaBuy)
    (updates : FieldUpdates)
    (now : DateTime)
    (sellerCommitted : Bool) :
    WriterSpec row (row.updateFields updates now sellerCommitted) sellerCommitted :=
  writerSpec_of_stamp rfl rfl

@[simp] theorem updateFields_status
    (row : MediaBuy)
    (updates : FieldUpdates)
    (now : DateTime)
    (sellerCommitted : Bool) :
    (row.updateFields updates now sellerCommitted).status =
      updates.status.getD row.status := by
  simp [updateFields, bumpRevision]

@[simp] theorem createFromRequest_status
    {mediaBuyId tenantId principalId : String}
    {accountId idempotencyKey currency : Option String}
    {startTime endTime now : DateTime}
    {status : PersistedMediaBuyStatus} {sellerCommitted : Bool} :
    (createFromRequest mediaBuyId tenantId principalId accountId idempotencyKey currency
      startTime endTime status now sellerCommitted).status = status := by
  simp [createFromRequest]

end MediaBuy

end MediaBuys
end SalesAgent
