import SalesAgent.MediaBuy.Commitment

/-!
# The status a read tool reports

The writer of the status column compares instants; the read tools refine the stored status by
dates.  `_media_buy_transitions` says that the two agree on whole days only.  An edge of the
flight window may be stored as a date or as an instant with an offset; the writer converts the
instant to UTC and the reader takes its date as it stands.

**Results.**  `flight_status_laws`: when the reader agrees with the writer, and that along a
history without decisions the reported status never goes backwards and an active buy carries its
commitment instant.
-/

namespace SalesAgent
namespace MediaBuys

open Runs

section Vocabulary

/-- The members of the vocabulary, by declaration. -/
def PersistedMediaBuyStatus.members : List PersistedMediaBuyStatus :=
  [.pendingCreatives, .pendingStart, .active, .paused, .completed, .rejected, .canceled, .draft,
    .pending, .pendingApproval, .pendingActivation, .scheduled, .approved, .ready, .failed]

/-- The text of a member in the column. -/
def PersistedMediaBuyStatus.wire : PersistedMediaBuyStatus → String
  | .pendingCreatives => "pending_creatives"
  | .pendingStart => "pending_start"
  | .active => "active"
  | .paused => "paused"
  | .completed => "completed"
  | .rejected => "rejected"
  | .canceled => "canceled"
  | .draft => "draft"
  | .pending => "pending"
  | .pendingApproval => "pending_approval"
  | .pendingActivation => "pending_activation"
  | .scheduled => "scheduled"
  | .approved => "approved"
  | .ready => "ready"
  | .failed => "failed"

/-- `parse_or_none` -/
def PersistedMediaBuyStatus.parseOrNone
    (raw : String) : Option PersistedMediaBuyStatus :=
  PersistedMediaBuyStatus.members.find? fun status => status.wire = raw.toLower

/-- `AdCPPersistedStateError` of the status column. -/
structure PersistedStateError where
  mediaBuyId : Option String
  rejectedValue : String
  acceptedValues : List String
  field : String
  deriving DecidableEq, Repr

/-- `PersistedMediaBuyStatus.parse` -/
def PersistedMediaBuyStatus.parse
    (raw : String)
    (mediaBuyId : Option String) : Except PersistedStateError PersistedMediaBuyStatus :=
  match PersistedMediaBuyStatus.parseOrNone raw with
  | some status => .ok status
  | none =>
      .error
        { mediaBuyId := mediaBuyId
          rejectedValue := raw
          acceptedValues :=
            ["active", "approved", "canceled", "completed", "draft", "failed", "paused", "pending",
              "pending_activation", "pending_approval", "pending_creatives", "pending_start",
              "ready", "rejected", "scheduled"]
          field := "status" }

/-- The statuses of the wire. -/
inductive CanonicalStatus
  | pendingCreatives
  | pendingStart
  | active
  | paused
  | completed
  | rejected
  | canceled
  | failed
  deriving DecidableEq, Repr

/-- `PERSISTED_STATUS_TO_CANONICAL` -/
def persistedStatusToCanonical : PersistedMediaBuyStatus → CanonicalStatus
  | .active => .active
  | .approved => .active
  | .ready => .active
  | .scheduled => .active
  | .pendingActivation => .pendingStart
  | .paused => .paused
  | .completed => .completed
  | .rejected => .rejected
  | .canceled => .canceled
  | .failed => .failed
  | .draft => .pendingCreatives
  | .pending => .pendingStart
  | .pendingApproval => .pendingStart
  | .pendingCreatives => .pendingCreatives
  | .pendingStart => .pendingStart

@[simp] theorem PersistedMediaBuyStatus.parse_wire
    (status : PersistedMediaBuyStatus)
    (mediaBuyId : Option String) :
    PersistedMediaBuyStatus.parse status.wire mediaBuyId = .ok status := by
  have hfound : PersistedMediaBuyStatus.parseOrNone status.wire = some status := by
    cases status <;> decide +kernel
  rw [PersistedMediaBuyStatus.parse, hfound]

theorem PersistedMediaBuyStatus.wire_ne_empty
    (status : PersistedMediaBuyStatus) :
    status.wire ≠ "" := by
  cases status <;> decide +kernel

end Vocabulary

section Reading

/-- A datetime of a column: its instant, a naive one being UTC, and its offset from UTC. -/
structure Stamp where
  instant : DateTime
  offset : Option Timedelta
  deriving DecidableEq, Repr

/-- `.date()`, which is that of the wall clock. -/
def Stamp.date
    (stamp : Stamp) : Int :=
  dateOf (stamp.instant + stamp.offset.getD 0)

/-- The columns of a buy that its status is read from. -/
structure StoredBuy where
  mediaBuyId : String
  status : Option String
  startDate : Option Int
  endDate : Option Int
  startTime : Option Stamp
  endTime : Option Stamp
  isPaused : Bool
  deriving DecidableEq, Repr

namespace StoredBuy

variable (buy : StoredBuy)

/-- The start of the flight, instants winning over dates. -/
def flightStart : Option DateTime :=
  (buy.startTime.map Stamp.instant).orElse fun _ => buy.startDate.map utcFlightStart

/-- The end of the flight. -/
def flightEnd : Option DateTime :=
  (buy.endTime.map Stamp.instant).orElse fun _ => buy.endDate.map utcFlightEnd

/-- `flight_window` -/
def flightWindow : Option (DateTime × DateTime) :=
  match buy.flightStart, buy.flightEnd with
  | some start, some «end» => some (start, «end»)
  | _, _ => none

/-- The status that a window implies. -/
def windowStatus
    (window : DateTime × DateTime)
    (now : DateTime)
    (creativesApproved : Bool) : PersistedMediaBuyStatus :=
  if window.2 < now then .completed
  else if now < window.1 then .scheduled
  else if ! creativesApproved then .pendingCreatives
  else .active

/-- `resolve_flight_window_status` -/
def resolveFlightWindowStatus
    (now : DateTime)
    (creativesApproved : Bool) : Option PersistedMediaBuyStatus :=
  buy.flightWindow.map fun window => windowStatus window now creativesApproved

/-- `start_compare` -/
def startCompare : Option Int :=
  match buy.startTime with
  | some stamp => some stamp.date
  | none => buy.startDate

/-- `end_compare` -/
def endCompare : Option Int :=
  match buy.endTime with
  | some stamp => some stamp.date
  | none => buy.endDate

/-- The refinement of the serving state by dates. -/
def refineServing
    (referenceDate : Int) : CanonicalStatus :=
  if buy.isPaused then .paused
  else
    match buy.startCompare, buy.endCompare with
    | some start, some «end» =>
        if referenceDate < start then .pendingStart
        else if «end» < referenceDate then .completed
        else .active
    | _, _ => .active

/-- What is reported of a member of the vocabulary. -/
def reported
    (status : CanonicalStatus)
    (referenceDate : Int) : CanonicalStatus :=
  if status = .active then buy.refineServing referenceDate else status

/-- `resolve_canonical_status` -/
def resolveCanonicalStatus
    (referenceDate : Int) : Except PersistedStateError CanonicalStatus :=
  match buy.status with
  | none => .ok (buy.reported .active referenceDate)
  | some raw =>
      if raw = "" then .ok (buy.reported .active referenceDate)
      else
        match PersistedMediaBuyStatus.parse raw (some buy.mediaBuyId) with
        | .error refusal => .error refusal
        | .ok status => .ok (buy.reported (persistedStatusToCanonical status) referenceDate)

/-- The buy with a status stored. -/
def storing
    (status : PersistedMediaBuyStatus) : StoredBuy :=
  { buy with status := some status.wire }

end StoredBuy

/-- A row as the reader loads it, its instants with the offsets of their columns. -/
def MediaBuy.stored
    (row : MediaBuy)
    (startOffset endOffset : Option Timedelta) : StoredBuy where
  mediaBuyId := row.mediaBuyId
  status := some row.status.wire
  startDate := some row.startDate
  endDate := some row.endDate
  startTime := row.startTime.map fun t => ⟨t, startOffset⟩
  endTime := row.endTime.map fun t => ⟨t, endOffset⟩
  isPaused := row.isPaused

theorem resolveCanonicalStatus_of_wire
    {buy : StoredBuy}
    {status : PersistedMediaBuyStatus}
    (h : buy.status = some status.wire)
    (referenceDate : Int) :
    buy.resolveCanonicalStatus referenceDate
      = .ok (buy.reported (persistedStatusToCanonical status) referenceDate) := by
  rw [StoredBuy.resolveCanonicalStatus, h]
  dsimp only
  rw [if_neg status.wire_ne_empty, PersistedMediaBuyStatus.parse_wire]

end Reading

section Agreement

/-- What the wire says of a status that the window implies. -/
def wireProjection : PersistedMediaBuyStatus → CanonicalStatus
  | .scheduled => .pendingStart
  | status => persistedStatusToCanonical status

/-- The reader, asked at the date of the instant, reports what the writer stored. -/
def Agrees
    (buy : StoredBuy)
    (now : DateTime)
    (status : PersistedMediaBuyStatus) : Prop :=
  (buy.storing status).resolveCanonicalStatus (dateOf now) = .ok (wireProjection status)

/-- Before the window the date is before the stored start date; inside it, with the creatives
approved, the date is between the stored dates; and the buy is not paused there. -/
def SameDays
    (buy : StoredBuy)
    (window : DateTime × DateTime)
    (now : DateTime)
    (creativesApproved : Bool) : Prop :=
  (now ≤ window.2 → now < window.1 →
      buy.isPaused = false ∧ ∃ start, buy.startCompare = some start ∧ dateOf now < start)
    ∧ (window.1 ≤ now → now ≤ window.2 → creativesApproved = true →
        buy.isPaused = false
          ∧ ∃ start «end», buy.startCompare = some start ∧ buy.endCompare = some «end»
            ∧ start ≤ dateOf now ∧ dateOf now ≤ «end»)

theorem startCompare_isSome
    {buy : StoredBuy}
    {start : DateTime}
    (h : buy.flightStart = some start) :
    ∃ day, buy.startCompare = some day := by
  rw [StoredBuy.flightStart] at h
  rw [StoredBuy.startCompare]
  cases hstart : buy.startTime with
  | some stamp => exact ⟨_, rfl⟩
  | none =>
      rw [hstart] at h
      cases hdate : buy.startDate with
      | none =>
          rw [hdate] at h
          cases h
      | some day => exact ⟨day, rfl⟩

theorem endCompare_isSome
    {buy : StoredBuy}
    {«end» : DateTime}
    (h : buy.flightEnd = some «end») :
    ∃ day, buy.endCompare = some day := by
  rw [StoredBuy.flightEnd] at h
  rw [StoredBuy.endCompare]
  cases hend : buy.endTime with
  | some stamp => exact ⟨_, rfl⟩
  | none =>
      rw [hend] at h
      cases hdate : buy.endDate with
      | none =>
          rw [hdate] at h
          cases h
      | some day => exact ⟨day, rfl⟩

theorem flightWindow_eq_some
    {buy : StoredBuy}
    {window : DateTime × DateTime}
    (h : buy.flightWindow = some window) :
    buy.flightStart = some window.1 ∧ buy.flightEnd = some window.2 := by
  rw [StoredBuy.flightWindow] at h
  cases hstart : buy.flightStart with
  | none =>
      rw [hstart] at h
      cases h
  | some start =>
      cases hend : buy.flightEnd with
      | none =>
          rw [hstart, hend] at h
          cases h
      | some «end» =>
          rw [hstart, hend] at h
          cases h
          exact ⟨rfl, rfl⟩

section Refined

variable {buy : StoredBuy} {start «end» referenceDate : Int}

theorem refineServing_of_dates
    (hpaused : buy.isPaused = false)
    (hstart : buy.startCompare = some start)
    (hend : buy.endCompare = some «end»)
    (referenceDate : Int) :
    buy.refineServing referenceDate
      = if referenceDate < start then .pendingStart
        else if «end» < referenceDate then .completed else .active := by
  rw [StoredBuy.refineServing, hpaused, hstart, hend]
  rfl

theorem refineServing_pendingStart_iff
    (hstart : buy.startCompare = some start)
    (hend : buy.endCompare = some «end») :
    buy.refineServing referenceDate = .pendingStart
      ↔ buy.isPaused = false ∧ referenceDate < start := by
  cases hpaused : buy.isPaused with
  | true =>
      rw [StoredBuy.refineServing, hpaused]
      simp
  | false =>
      rw [refineServing_of_dates hpaused hstart hend]
      split
      · next hearly => simp [hearly]
      · next hlate => split <;> simp [hlate]

theorem refineServing_active_iff
    (hstart : buy.startCompare = some start)
    (hend : buy.endCompare = some «end») :
    buy.refineServing referenceDate = .active
      ↔ buy.isPaused = false ∧ start ≤ referenceDate ∧ referenceDate ≤ «end» := by
  cases hpaused : buy.isPaused with
  | true =>
      rw [StoredBuy.refineServing, hpaused]
      simp
  | false =>
      rw [refineServing_of_dates hpaused hstart hend]
      split
      · next hearly => simp [not_le_of_gt hearly]
      · next hstarted =>
          split
          · next hpast => simp [not_le_of_gt hpast]
          · next hopen => simp [le_of_not_gt hstarted, le_of_not_gt hopen]

end Refined

theorem agrees_iff
    {buy : StoredBuy}
    {window : DateTime × DateTime}
    (hwindow : buy.flightWindow = some window)
    (now : DateTime)
    (creativesApproved : Bool) :
    Agrees buy now (StoredBuy.windowStatus window now creativesApproved)
      ↔ SameDays buy window now creativesApproved := by
  obtain ⟨hstart, hend⟩ := flightWindow_eq_some hwindow
  obtain ⟨start, hstart⟩ := startCompare_isSome hstart
  obtain ⟨«end», hend⟩ := endCompare_isSome hend
  have hreported (status : PersistedMediaBuyStatus) :
      Agrees buy now status
        ↔ buy.reported (persistedStatusToCanonical status) (dateOf now)
          = wireProjection status := by
    rw [Agrees, resolveCanonicalStatus_of_wire rfl, Except.ok.injEq]
    exact Iff.rfl
  rw [hreported, StoredBuy.windowStatus, SameDays]
  by_cases hpast : window.2 < now
  · rw [if_pos hpast]
    refine ⟨fun _ => ⟨?_, ?_⟩, fun _ => rfl⟩
    · intro hle
      exact absurd hpast (not_lt_of_ge hle)
    · intro _ hle
      exact absurd hpast (not_lt_of_ge hle)
  · rw [if_neg hpast]
    have hopen : now ≤ window.2 := le_of_not_gt hpast
    by_cases hearly : now < window.1
    · rw [if_pos hearly]
      have hserving : buy.reported (persistedStatusToCanonical .scheduled) (dateOf now)
          = buy.refineServing (dateOf now) := if_pos rfl
      rw [hserving, wireProjection, refineServing_pendingStart_iff hstart hend]
      refine ⟨fun h => ⟨fun _ _ => ⟨h.1, start, hstart, h.2⟩, ?_⟩, fun h => ?_⟩
      · intro hle
        exact absurd hearly (not_lt_of_ge hle)
      · obtain ⟨hpaused, day, hday, hlt⟩ := h.1 hopen hearly
        rw [hstart] at hday
        cases hday
        exact ⟨hpaused, hlt⟩
    · rw [if_neg hearly]
      cases creativesApproved with
      | false =>
          refine ⟨fun _ => ⟨fun _ hlt => absurd hlt hearly, ?_⟩, fun _ => rfl⟩
          intro _ _ happroved
          cases happroved
      | true =>
          have hserving : buy.reported (persistedStatusToCanonical .active) (dateOf now)
              = buy.refineServing (dateOf now) := if_pos rfl
          show buy.reported (persistedStatusToCanonical .active) (dateOf now) = .active ↔ _
          rw [hserving, refineServing_active_iff hstart hend]
          refine ⟨fun h => ⟨fun _ hlt => absurd hlt hearly, fun _ _ _ =>
            ⟨h.1, start, «end», hstart, hend, h.2⟩⟩, fun h => ?_⟩
          obtain ⟨hpaused, day, last, hday, hlast, hdays⟩ :=
            h.2 (le_of_not_gt hearly) hopen rfl
          rw [hstart] at hday
          rw [hend] at hlast
          cases hday
          cases hlast
          exact ⟨hpaused, hdays⟩

end Agreement

section Days

/-- The edges that are stored as instants have no offset from UTC. -/
def StoredBuy.InUtc
    (buy : StoredBuy) : Prop :=
  (∀ stamp, buy.startTime = some stamp → stamp.offset.getD 0 = 0)
    ∧ ∀ stamp, buy.endTime = some stamp → stamp.offset.getD 0 = 0

/-- The instant is in front of the window on the day on which the window opens. -/
def OpeningDay
    (window : DateTime × DateTime)
    (now : DateTime) : Prop :=
  now < window.1 ∧ now ≤ window.2 ∧ dateOf now = dateOf window.1

theorem dateOf_mono
    {t u : DateTime}
    (h : t ≤ u) :
    dateOf t ≤ dateOf u :=
  Int.ediv_le_ediv (by decide) h

@[simp] theorem dateOf_utcFlightStart
    (day : Int) :
    dateOf (utcFlightStart day) = day := by
  rw [dateOf, utcFlightStart, dayLength]
  omega

@[simp] theorem dateOf_utcFlightEnd
    (day : Int) :
    dateOf (utcFlightEnd day) = day := by
  rw [dateOf, utcFlightEnd, dayLength]
  omega

theorem startCompare_inUtc
    {buy : StoredBuy}
    {start : DateTime}
    (hutc : buy.InUtc)
    (h : buy.flightStart = some start) :
    buy.startCompare = some (dateOf start) := by
  rw [StoredBuy.flightStart] at h
  rw [StoredBuy.startCompare]
  cases hstamp : buy.startTime with
  | some stamp =>
      rw [hstamp] at h
      cases h
      dsimp only
      rw [Stamp.date, hutc.1 stamp hstamp, add_zero]
  | none =>
      rw [hstamp] at h
      cases hdate : buy.startDate with
      | none =>
          rw [hdate] at h
          cases h
      | some day =>
          rw [hdate] at h
          cases h
          exact congrArg some (dateOf_utcFlightStart day).symm

theorem endCompare_inUtc
    {buy : StoredBuy}
    {«end» : DateTime}
    (hutc : buy.InUtc)
    (h : buy.flightEnd = some «end») :
    buy.endCompare = some (dateOf «end») := by
  rw [StoredBuy.flightEnd] at h
  rw [StoredBuy.endCompare]
  cases hstamp : buy.endTime with
  | some stamp =>
      rw [hstamp] at h
      cases h
      dsimp only
      rw [Stamp.date, hutc.2 stamp hstamp, add_zero]
  | none =>
      rw [hstamp] at h
      cases hdate : buy.endDate with
      | none =>
          rw [hdate] at h
          cases h
      | some day =>
          rw [hdate] at h
          cases h
          exact congrArg some (dateOf_utcFlightEnd day).symm

/-- With edges in UTC, the days are the same away from the opening day. -/
theorem sameDays_inUtc
    {buy : StoredBuy}
    {window : DateTime × DateTime}
    {now : DateTime}
    (hutc : buy.InUtc)
    (hpaused : buy.isPaused = false)
    (hwindow : buy.flightWindow = some window)
    (hday : ¬ OpeningDay window now)
    (creativesApproved : Bool) :
    SameDays buy window now creativesApproved := by
  obtain ⟨hstart, hend⟩ := flightWindow_eq_some hwindow
  refine ⟨?_, ?_⟩
  · intro hopen hearly
    refine ⟨hpaused, _, startCompare_inUtc hutc hstart, ?_⟩
    have hle : dateOf now ≤ dateOf window.1 := dateOf_mono (le_of_lt hearly)
    refine lt_of_le_of_ne hle ?_
    intro hsame
    exact hday ⟨hearly, hopen, hsame⟩
  · intro hstarted hopen _
    exact ⟨hpaused, _, _, startCompare_inUtc hutc hstart, endCompare_inUtc hutc hend,
      dateOf_mono hstarted, dateOf_mono hopen⟩

/-- On the opening day a scheduled buy is reported active before its window opens. -/
theorem openingDay_active
    {buy : StoredBuy}
    {window : DateTime × DateTime}
    {now : DateTime}
    (hutc : buy.InUtc)
    (hpaused : buy.isPaused = false)
    (hwindow : buy.flightWindow = some window)
    (hday : OpeningDay window now)
    (creativesApproved : Bool) :
    (buy.storing (StoredBuy.windowStatus window now creativesApproved)).resolveCanonicalStatus
      (dateOf now) = .ok .active := by
  obtain ⟨hstart, hend⟩ := flightWindow_eq_some hwindow
  obtain ⟨hearly, hopen, hsame⟩ := hday
  have hstatus : StoredBuy.windowStatus window now creativesApproved = .scheduled := by
    rw [StoredBuy.windowStatus, if_neg (not_lt_of_ge hopen), if_pos hearly]
  rw [hstatus, resolveCanonicalStatus_of_wire rfl]
  have hserving : buy.refineServing (dateOf now) = .active := by
    rw [refineServing_active_iff (startCompare_inUtc hutc hstart) (endCompare_inUtc hutc hend)]
    exact ⟨hpaused, le_of_eq hsame.symm, dateOf_mono hopen⟩
  exact congrArg Except.ok ((if_pos rfl).trans hserving)

end Days

section Time

/-- How far a reported status of the flight is. -/
def CanonicalStatus.rank : CanonicalStatus → Option Nat
  | .pendingStart => some 0
  | .active => some 1
  | .completed => some 2
  | _ => none

/-- A later report is not behind an earlier one. -/
def NotBackwards
    (earlier later : CanonicalStatus) : Prop :=
  ∀ rank rank', earlier.rank = some rank → later.rank = some rank' → rank ≤ rank'

/-- An event that is not a decision about the buy: the sweep, and what does not write its row. -/
def LifeEvent.Unattended : LifeEvent → Prop
  | .swept _ => True
  | .creativesChanged _ _ => True
  | .gatePassed _ => True
  | .abandoned _ => True
  | .adapterOk _ => True
  | .died _ => True
  | _ => False

/-- What such events do to a row. -/
structure Advanced
    (row row' : MediaBuy) : Prop where
  startDate : row'.startDate = row.startDate
  endDate : row'.endDate = row.endDate
  startTime : row'.startTime = row.startTime
  endTime : row'.endTime = row.endTime
  isPaused : row'.isPaused = row.isPaused
  status :
    row'.status = row.status ∨ row'.status = .completed
      ∨ row'.status = .active ∧ row.status ∈ activatableStatuses

theorem Advanced.refl
    (row : MediaBuy) :
    Advanced row row :=
  ⟨rfl, rfl, rfl, rfl, rfl, .inl rfl⟩

theorem Advanced.trans
    {row row' row'' : MediaBuy}
    (h : Advanced row row')
    (h' : Advanced row' row'') :
    Advanced row row'' := by
  refine ⟨h'.startDate.trans h.startDate, h'.endDate.trans h.endDate,
    h'.startTime.trans h.startTime, h'.endTime.trans h.endTime,
    h'.isPaused.trans h.isPaused, ?_⟩
  rcases h'.status with hkept | hdone | ⟨hactive, hwaiting⟩
  · rw [hkept]
    exact h.status
  · exact .inr (.inl hdone)
  · rcases h.status with hkept | hdone | ⟨hactive', -⟩
    · exact .inr (.inr ⟨hactive, hkept ▸ hwaiting⟩)
    · rw [hdone] at hwaiting
      exact absurd hwaiting (by decide)
    · rw [hactive'] at hwaiting
      exact absurd hwaiting (by decide)

theorem Advanced.of_sweep
    {row : MediaBuy}
    {now : DateTime}
    {creativesApproved : Bool}
    {status : PersistedMediaBuyStatus}
    (h : computeNewStatus row now creativesApproved = some status)
    (later : DateTime)
    (committed : Bool) :
    Advanced row (row.updateStatus status later committed) := by
  obtain ⟨hmove, -, -⟩ := computeNewStatus_eq_some h
  obtain ⟨confirmedAt, hstamp⟩ := MediaBuy.stamp_eq
    ({ row with
        status := status
        approvedAt := (none : Option DateTime) <|> row.approvedAt
        approvedBy := (none : Option String) <|> row.approvedBy } : MediaBuy) committed later
  have hrow : row.updateStatus status later committed
      = { row with
          status := status
          approvedAt := (none : Option DateTime) <|> row.approvedAt
          approvedBy := (none : Option String) <|> row.approvedBy
          confirmedAt := confirmedAt
          revision := row.revision + 1 } := by
    rw [MediaBuy.updateStatus, hstamp]
    rfl
  rw [hrow]
  exact ⟨rfl, rfl, rfl, rfl, rfl, .inr hmove⟩

/-- The rows before and after. -/
def RowAdvanced
    (s t : LifeState) : Prop :=
  ∀ row, s.row = some row → ∃ row', t.row = some row' ∧ Advanced row row'

theorem LifeStep.advanced
    {s t : LifeState} {e : LifeEvent}
    (h : LifeStep s e t)
    (hunattended : e.Unattended) :
    RowAdvanced s t := by
  intro row hrow
  cases h with
  | swept hrow' _ hstatus =>
      rw [hrow] at hrow'
      cases hrow'
      exact ⟨_, rfl, Advanced.of_sweep hstatus _ _⟩
  | creativesChanged => exact ⟨row, hrow, Advanced.refl row⟩
  | gatePassed _ _ _ => exact ⟨row, hrow, Advanced.refl row⟩
  | abandoned _ => exact ⟨row, hrow, Advanced.refl row⟩
  | adapterOk _ => exact ⟨row, hrow, Advanced.refl row⟩
  | died _ => exact ⟨row, hrow, Advanced.refl row⟩
  | createSync _ => exact hunattended.elim
  | createManual _ => exact hunattended.elim
  | approvalRoute _ _ _ => exact hunattended.elim
  | creativeRoute _ _ _ _ => exact hunattended.elim
  | held _ _ _ => exact hunattended.elim
  | adapterRaised _ _ => exact hunattended.elim
  | executed _ _ => exact hunattended.elim
  | failedAfterOrder _ _ => exact hunattended.elim
  | rejected _ _ => exact hunattended.elim
  | updated _ _ => exact hunattended.elim
  | draftAssigned _ _ _ => exact hunattended.elim

theorem rowAdvanced_of_run
    {s t : LifeState} {es : List LifeEvent}
    (hrun : Run (Restrict LifeStep fun _ e => e.Unattended) s es t) :
    RowAdvanced s t := by
  refine hrun.relates (fun s row hrow => ⟨row, hrow, Advanced.refl row⟩) ?_ ?_
  · intro s t u hst htu row hrow
    obtain ⟨row', hrow', hadvanced⟩ := hst row hrow
    obtain ⟨row'', hrow'', hadvanced'⟩ := htu row' hrow'
    exact ⟨row'', hrow'', hadvanced.trans hadvanced'⟩
  · intro s e t hstep
    exact hstep.1.advanced hstep.2

theorem NotBackwards.refl
    (status : CanonicalStatus) :
    NotBackwards status status := by
  intro rank rank' hrank hrank'
  rw [hrank] at hrank'
  cases hrank'
  exact le_refl rank

theorem NotBackwards.of_completed
    (earlier : CanonicalStatus) :
    NotBackwards earlier .completed := by
  intro rank rank' hrank hrank'
  cases hrank'
  cases earlier <;> cases hrank <;> decide

theorem NotBackwards.of_pendingStart
    (later : CanonicalStatus) :
    NotBackwards .pendingStart later := by
  intro rank rank' hrank hrank'
  cases hrank
  exact Nat.zero_le _

theorem refineServing_notBackwards
    (buy : StoredBuy)
    {day day' : Int}
    (hdays : day ≤ day') :
    NotBackwards (buy.refineServing day) (buy.refineServing day') := by
  cases hpaused : buy.isPaused with
  | true =>
      have hreported (day : Int) : buy.refineServing day = .paused := by
        rw [StoredBuy.refineServing, hpaused]
        rfl
      rw [hreported day]
      rintro rank rank' ⟨⟩
  | false =>
      cases hstart : buy.startCompare with
      | none =>
          have hreported (day : Int) : buy.refineServing day = .active := by
            rw [StoredBuy.refineServing, hpaused, hstart]
            rfl
          rw [hreported, hreported]
          exact NotBackwards.refl _
      | some start =>
          cases hend : buy.endCompare with
          | none =>
              have hreported (day : Int) : buy.refineServing day = .active := by
                rw [StoredBuy.refineServing, hpaused, hstart, hend]
                rfl
              rw [hreported, hreported]
              exact NotBackwards.refl _
          | some «end» =>
              rw [refineServing_of_dates hpaused hstart hend,
                refineServing_of_dates hpaused hstart hend]
              by_cases hearly : day < start
              · rw [if_pos hearly]
                exact NotBackwards.of_pendingStart _
              · have hstarted : ¬ day' < start := fun h => hearly (lt_of_le_of_lt hdays h)
                rw [if_neg hearly, if_neg hstarted]
                by_cases hpast : «end» < day
                · rw [if_pos hpast, if_pos (lt_of_lt_of_le hpast hdays)]
                  exact NotBackwards.refl _
                · rw [if_neg hpast]
                  by_cases hpast' : «end» < day'
                  · rw [if_pos hpast']
                    exact NotBackwards.of_completed _
                  · rw [if_neg hpast']
                    exact NotBackwards.refl _

theorem reported_notBackwards
    (buy : StoredBuy)
    (status : CanonicalStatus)
    {day day' : Int}
    (hdays : day ≤ day') :
    NotBackwards (buy.reported status day) (buy.reported status day') := by
  rw [StoredBuy.reported, StoredBuy.reported]
  by_cases hserving : status = .active
  · rw [if_pos hserving, if_pos hserving]
    exact refineServing_notBackwards buy hdays
  · rw [if_neg hserving, if_neg hserving]
    exact NotBackwards.refl status

/-- An advanced row is not reported behind the row it was. -/
theorem Advanced.notBackwards
    {row row' : MediaBuy}
    (h : Advanced row row')
    (startOffset endOffset : Option Timedelta)
    {day day' : Int}
    (hdays : day ≤ day') :
    NotBackwards
      ((row.stored startOffset endOffset).reported (persistedStatusToCanonical row.status) day)
      ((row'.stored startOffset endOffset).reported
        (persistedStatusToCanonical row'.status) day') := by
  have hstart : (row'.stored startOffset endOffset).startCompare
      = (row.stored startOffset endOffset).startCompare := by
    rw [StoredBuy.startCompare, MediaBuy.stored, h.startTime, h.startDate]
    rfl
  have hend : (row'.stored startOffset endOffset).endCompare
      = (row.stored startOffset endOffset).endCompare := by
    rw [StoredBuy.endCompare, MediaBuy.stored, h.endTime, h.endDate]
    rfl
  have hpaused : (row'.stored startOffset endOffset).isPaused
      = (row.stored startOffset endOffset).isPaused := h.isPaused
  have hrefine : (row'.stored startOffset endOffset).refineServing day'
      = (row.stored startOffset endOffset).refineServing day' := by
    rw [StoredBuy.refineServing, StoredBuy.refineServing, hstart, hend, hpaused]
  have hreported (status : CanonicalStatus) :
      (row'.stored startOffset endOffset).reported status day'
        = (row.stored startOffset endOffset).reported status day' := by
    rw [StoredBuy.reported, StoredBuy.reported, hrefine]
  rw [hreported]
  rcases h.status with hkept | hdone | ⟨hactive, hwaiting⟩
  · rw [hkept]
    exact reported_notBackwards _ _ hdays
  · rw [hdone]
    exact NotBackwards.of_completed _
  · rw [hactive]
    simp only [activatableStatuses, List.mem_cons, List.not_mem_nil, or_false] at hwaiting
    rcases hwaiting with hpending | hpending | hscheduled
    · rw [hpending]
      exact NotBackwards.of_pendingStart _
    · rw [hpending]
      exact NotBackwards.of_pendingStart _
    · rw [hscheduled]
      exact reported_notBackwards _ .active hdays

end Time

section Commitment

/-- A row that the wire may report active carries a commitment instant. -/
def ServingConfirmed
    (s : LifeState) : Prop :=
  ∀ row, s.row = some row → persistedStatusToCanonical row.status = .active →
    row.confirmedAt ≠ none

theorem ServingConfirmed.of_write
    {s : LifeState}
    {row row' : MediaBuy}
    {committed : Bool}
    (hs : ServingConfirmed s)
    (hrow : s.row = some row)
    (hspec : MediaBuy.WriterSpec row row' committed)
    (hstatus : persistedStatusToCanonical row'.status = .active →
      row'.status = row.status ∨ committed = true)
    (hserving : persistedStatusToCanonical row'.status = .active) :
    row'.confirmedAt ≠ none := by
  rcases hstatus hserving with hkept | hcommitted
  · rw [hkept] at hserving
    obtain ⟨c, hc⟩ := Option.ne_none_iff_exists'.mp (hs row hrow hserving)
    rw [hspec.write_once c hc]
    exact Option.some_ne_none c
  · exact hspec.committed hcommitted

theorem servingConfirmed_preserved :
    Preserved LifeStep ServingConfirmed := by
  intro s e t hstep hs row' hrow' hserving
  cases hstep with
  | createSync _ =>
      cases hrow'
      exact NewBuy.syncRow_confirmed _ _
  | createManual _ =>
      cases hrow'
      rw [NewBuy.manualRow_status] at hserving
      cases hserving
  | approvalRoute _ _ _ => exact hs row' hrow' hserving
  | creativeRoute _ _ _ _ => exact hs row' hrow' hserving
  | held hrow _ _ =>
      cases hrow'
      exact hs.of_write hrow (MediaBuy.updateStatus_spec _ _ _ _ _ _)
        (by simp [persistedStatusToCanonical]) hserving
  | gatePassed _ _ _ => exact hs row' hrow' hserving
  | abandoned _ => exact hs row' hrow' hserving
  | adapterOk _ => exact hs row' hrow' hserving
  | adapterRaised hrow _ =>
      cases hrow'
      exact hs.of_write hrow (MediaBuy.updateStatus_spec _ _ _ _ _ _)
        (by simp [persistedStatusToCanonical]) hserving
  | executed hrow _ =>
      cases hrow'
      exact hs.of_write hrow (MediaBuy.updateStatus_spec _ _ _ _ _ _) (fun _ => .inr rfl) hserving
  | failedAfterOrder hrow _ =>
      cases hrow'
      exact hs.of_write hrow (MediaBuy.updateStatus_spec _ _ _ _ _ _)
        (by simp [persistedStatusToCanonical]) hserving
  | died _ => exact hs row' hrow' hserving
  | rejected hrow _ =>
      cases hrow'
      exact hs.of_write hrow (MediaBuy.updateStatus_spec _ _ _ _ _ _)
        (by simp [persistedStatusToCanonical]) hserving
  | swept hrow _ hstatus =>
      cases hrow'
      refine hs.of_write hrow (MediaBuy.updateStatus_spec _ _ _ _ _ _) ?_ hserving
      obtain ⟨hmove, -, -⟩ := computeNewStatus_eq_some hstatus
      rcases hmove with rfl | ⟨rfl, -⟩
      · simp [persistedStatusToCanonical]
      · simp
  | updated hrow hstatus =>
      cases hrow'
      exact hs.of_write hrow (MediaBuy.updateFields_spec _ _ _ _)
        (fun _ => .inl (by simp [hstatus])) hserving
  | creativesChanged => exact hs row' hrow' hserving
  | draftAssigned hrow _ _ =>
      cases hrow'
      exact hs.of_write hrow (MediaBuy.updateStatus_spec _ _ _ _ _ _)
        (by simp [persistedStatusToCanonical]) hserving

theorem serving_of_reported
    {buy : StoredBuy}
    {status : CanonicalStatus}
    {day : Int}
    (h : buy.reported status day = .active) :
    status = .active := by
  rw [StoredBuy.reported] at h
  by_cases hserving : status = .active
  · exact hserving
  · rw [if_neg hserving] at h
    exact h

end Commitment

/-- The reader agrees with the writer exactly on the same days, which with edges in UTC leaves
out the opening day in front of the window; and along a history without decisions the reported
status never goes backwards, an active buy carrying its commitment instant. -/
theorem flight_status_laws :
    (∀ buy window now creativesApproved status, StoredBuy.flightWindow buy = some window →
      buy.resolveFlightWindowStatus now creativesApproved = some status →
      (Agrees buy now status ↔ SameDays buy window now creativesApproved)
        ∧ (buy.InUtc → buy.isPaused = false →
            (¬ OpeningDay window now → Agrees buy now status)
              ∧ (OpeningDay window now →
                  (buy.storing status).resolveCanonicalStatus (dateOf now) = .ok .active)))
    ∧ (∀ s es t row row' startOffset endOffset (now now' : DateTime) reported reported',
        Run (Restrict LifeStep fun _ e => e.Unattended) s es t →
        s.row = some row → t.row = some row' → now ≤ now' →
        (row.stored startOffset endOffset).resolveCanonicalStatus (dateOf now) = .ok reported →
        (row'.stored startOffset endOffset).resolveCanonicalStatus (dateOf now') = .ok reported' →
        NotBackwards reported reported')
    ∧ ∀ creatives assignments es s row startOffset endOffset now,
        Run LifeStep (LifeState.init creatives assignments) es s → s.row = some row →
        (row.stored startOffset endOffset).resolveCanonicalStatus (dateOf now) = .ok .active →
        row.confirmedAt ≠ none := by
  refine ⟨?_, ?_, ?_⟩
  · intro buy window now creativesApproved status hwindow hstatus
    rw [StoredBuy.resolveFlightWindowStatus, hwindow] at hstatus
    cases hstatus
    refine ⟨agrees_iff hwindow now creativesApproved, fun hutc hpaused => ⟨?_, ?_⟩⟩
    · intro hday
      exact (agrees_iff hwindow now creativesApproved).mpr
        (sameDays_inUtc hutc hpaused hwindow hday creativesApproved)
    · intro hday
      exact openingDay_active hutc hpaused hwindow hday creativesApproved
  · intro s es t row row' startOffset endOffset now now' reported reported' hrun hrow hrow' hle
      hreported hreported'
    obtain ⟨found, hfound, hadvanced⟩ := rowAdvanced_of_run hrun row hrow
    rw [hrow'] at hfound
    cases hfound
    rw [resolveCanonicalStatus_of_wire rfl] at hreported hreported'
    cases hreported
    cases hreported'
    exact hadvanced.notBackwards startOffset endOffset (dateOf_mono hle)
  · intro creatives assignments es s row startOffset endOffset now hrun hrow hreported
    have hinit : ServingConfirmed (LifeState.init creatives assignments) := by
      intro row hrow
      cases hrow
    rw [resolveCanonicalStatus_of_wire rfl] at hreported
    cases hreported' : (row.stored startOffset endOffset).reported
        (persistedStatusToCanonical row.status) (dateOf now) with
    | active =>
        exact hrun.preserves servingConfirmed_preserved hinit row hrow
          (serving_of_reported hreported')
    | _ =>
        rw [hreported'] at hreported
        cases hreported

/-- A buy that opens at noon of its day. -/
def noonBuy : StoredBuy where
  mediaBuyId := "mb_1"
  status := none
  startDate := some 1
  endDate := some 2
  startTime := some ⟨utcFlightStart 1 + 43200000000, some 0⟩
  endTime := some ⟨utcFlightEnd 2, some 0⟩
  isPaused := false

/-- On the morning of its first day the buy is stored as scheduled and reported active. -/
theorem noonBuy_reported_active :
    noonBuy.resolveFlightWindowStatus (utcFlightStart 1) true = some .scheduled
      ∧ (noonBuy.storing .scheduled).resolveCanonicalStatus (dateOf (utcFlightStart 1))
        = .ok .active
      ∧ ¬ Agrees noonBuy (utcFlightStart 1) .scheduled := by
  have hreported : (noonBuy.storing .scheduled).resolveCanonicalStatus
      (dateOf (utcFlightStart 1)) = .ok .active := by
    rw [resolveCanonicalStatus_of_wire rfl]
    rfl
  refine ⟨rfl, hreported, ?_⟩
  rw [Agrees, hreported]
  rintro ⟨⟩

end MediaBuys
end SalesAgent
