import SalesAgent.MediaBuy.Lifecycle
import SalesAgent.MediaBuy.Update

/-!
# The sweep beside other writers

The sweep runs in one transaction.  It loads the buys that may move, then decides on one
after the other from the row as it was loaded, and its update of a row is unconditional:
other transactions may commit between the load and the update.  From the update on the
row is locked until the sweep commits.

A writer here is any transaction, of any kind, that commits while the sweep runs.

**Results.**
* `commitSafe_of_run`: what a sweep moves when the writers beside it leave alone what
  it is about to write.
* `wholeSweep_idempotent`: a second sweep at the same instant.
* `sweepSafe_of_run`: both, from any state that writers and a sweep reach.
-/

namespace SalesAgent
namespace MediaBuys

open Runs (Run Restrict)

/-- An update of the sweep: the row as it was loaded, and the status for it. -/
structure SweepWrite where
  old : MediaBuy
  status : PersistedMediaBuyStatus
  later : DateTime
  deriving DecidableEq, Repr

/-- The loaded row as `update_status` leaves it in the session. -/
def SweepWrite.written
    (w : SweepWrite) : MediaBuy :=
  w.old.updateStatus w.status w.later (decide (w.status = .active))

/-- The session writes the columns it changed; `revision` is a SQL expression. -/
def SweepWrite.change
    (w : SweepWrite) : BuyRows.BuyChange where
  apply := fun b =>
    { b with
      status := w.status
      confirmedAt := if w.written.confirmedAt = w.old.confirmedAt then b.confirmedAt
        else w.written.confirmedAt
      revision := b.revision + 1 }
  mediaBuyId := fun _ => rfl
  tenantId := fun _ => rfl

/-- A sweep under way: its clock, the rows still to visit, its updates so far. -/
structure Sweep where
  now : DateTime
  loaded : List MediaBuy
  written : List SweepWrite

/-- The committed rows, and the sweep if one is under way. -/
structure SweepState where
  rows : BuyRows
  sweep : Option Sweep

/-- What happens to the rows and to the sweep. -/
inductive SweepEvent
  | load (now : DateTime)
  | visit (later : DateTime)
  | commit
  | rollback
  | write
  deriving DecidableEq, Repr

section Definitions

variable (rows : BuyRows)

/-- `get_all_by_statuses`, across all tenants. -/
def loadSweep
    (now : DateTime) : Sweep where
  now := now
  loaded := rows.mediaBuys.rows.filter (fun b => b.status ∈ sweptStatuses)
  written := []

/-- What the loaded row calls for, with the creatives as they are now. -/
def sweepTarget
    (now : DateTime)
    (old : MediaBuy) : Option PersistedMediaBuyStatus :=
  computeNewStatus old now
    (areCreativesApproved rows.creatives.rows rows.assignments.rows old.tenantId old.mediaBuyId)

/-- The update of a loaded row; a row that has vanished is skipped. -/
def sweepWrite
    (now later : DateTime)
    (old : MediaBuy) : Option SweepWrite :=
  if (rows.getById old.tenantId old.mediaBuyId).isNone then none
  else (sweepTarget rows now old).map (fun status => ⟨old, status, later⟩)

/-- Commit the updates. -/
def commitSweep
    (written : List SweepWrite) : BuyRows :=
  written.foldl (fun rows w => rows.modifyBuy w.old.tenantId w.old.mediaBuyId w.change) rows

end Definitions

/-- One step of the rows with a sweep beside other writers. -/
inductive SweepStep : SweepState → SweepEvent → SweepState → Prop
  | load {rows : BuyRows} {now : DateTime} :
      SweepStep ⟨rows, none⟩ (.load now) ⟨rows, some (loadSweep rows now)⟩
  | visit {rows : BuyRows} {sweep : Sweep} {old : MediaBuy} {rest : List MediaBuy}
      {later : DateTime}
      (hloaded : sweep.loaded = old :: rest) :
      SweepStep ⟨rows, some sweep⟩ (.visit later)
        ⟨rows, some
          { sweep with
            loaded := rest
            written := sweep.written ++ (sweepWrite rows sweep.now later old).toList }⟩
  | commit {rows : BuyRows} {sweep : Sweep}
      (hloaded : sweep.loaded = []) :
      SweepStep ⟨rows, some sweep⟩ .commit ⟨commitSweep rows sweep.written, none⟩
  /-- an exception ends the sweep -/
  | rollback {rows : BuyRows} {sweep : Sweep} :
      SweepStep ⟨rows, some sweep⟩ .rollback ⟨rows, none⟩
  /-- another transaction commits; the rows the sweep has updated are locked -/
  | write {rows rows' : BuyRows} {sweep : Option Sweep}
      (hlocked : ∀ s, sweep = some s → ∀ w ∈ s.written,
        rows'.mediaBuys.find w.old.mediaBuyId = rows.mediaBuys.find w.old.mediaBuyId) :
      SweepStep ⟨rows, sweep⟩ .write ⟨rows', sweep⟩

/-- A buy the sweep is about to move still has a status that the sweep selects. -/
def Undisturbed
    (s : SweepState)
    (e : SweepEvent) : Prop :=
  ∀ sweep old rest later, s.sweep = some sweep → sweep.loaded = old :: rest → e = .visit later →
    (sweepTarget s.rows sweep.now old).isSome →
    ∀ b, s.rows.getById old.tenantId old.mediaBuyId = some b → b.status ∈ sweptStatuses

/-- The moves of a sweep, by the status a buy has when it is written. -/
inductive SweepMove : PersistedMediaBuyStatus → PersistedMediaBuyStatus → Prop
  | activated {status : PersistedMediaBuyStatus}
      (hwaiting : status ∈ activatableStatuses) :
      SweepMove status .active
  | serving : SweepMove .active .active
  | completed {status : PersistedMediaBuyStatus}
      (hswept : status ∈ sweptStatuses) :
      SweepMove status .completed

/-- A commit leaves each buy as it was or moves it. -/
def CommitSafe
    (rows rows' : BuyRows) : Prop :=
  ∀ tenantId mediaBuyId b', rows'.getById tenantId mediaBuyId = some b' →
    ∃ b, rows.getById tenantId mediaBuyId = some b ∧ (b' = b ∨ SweepMove b.status b'.status)

/-- A sweep from its load to its commit with no writer beside it. -/
def WholeSweep
    (now : DateTime)
    (rows rows' : BuyRows) : Prop :=
  ∃ laters : List DateTime,
    Run SweepStep ⟨rows, none⟩ (.load now :: (laters.map .visit ++ [.commit])) ⟨rows', none⟩

section Updates

variable {rows rows' : BuyRows} {now later : DateTime} {old : MediaBuy}

theorem sweepWrite_eq_some
    {w : SweepWrite}
    (h : sweepWrite rows now later old = some w) :
    (∃ b, rows.getById old.tenantId old.mediaBuyId = some b) ∧
      sweepTarget rows now old = some w.status ∧ w.old = old := by
  unfold sweepWrite at h
  split at h
  · cases h
  · next hstored =>
      obtain ⟨status, hstatus, rfl⟩ := Option.map_eq_some_iff.mp h
      refine ⟨Option.ne_none_iff_exists'.mp ?_, hstatus, rfl⟩
      simpa using hstored

theorem sweepMove_of_target
    {status current : PersistedMediaBuyStatus}
    (htarget : sweepTarget rows now old = some status)
    (hcurrent : current ∈ sweptStatuses) :
    SweepMove current status := by
  obtain ⟨hmove, -, -⟩ := computeNewStatus_eq_some htarget
  rcases hmove with rfl | ⟨rfl, -⟩
  · exact .completed hcurrent
  · rcases List.mem_cons.mp hcurrent with rfl | hwaiting
    · exact .serving
    · exact .activated hwaiting

theorem SweepMove.swept
    {before after : PersistedMediaBuyStatus}
    (h : SweepMove before after) :
    before ∈ sweptStatuses := by
  cases h with
  | activated hwaiting => exact List.mem_cons_of_mem _ hwaiting
  | serving => exact List.mem_cons_self
  | completed hswept => exact hswept

theorem commitSweep_frame
    (rows : BuyRows)
    (written : List SweepWrite) :
    (commitSweep rows written).creatives = rows.creatives ∧
      (commitSweep rows written).assignments = rows.assignments := by
  induction written generalizing rows with
  | nil => exact ⟨rfl, rfl⟩
  | cons w ws ih =>
      exact ih (rows.modifyBuy w.old.tenantId w.old.mediaBuyId w.change)

theorem getById_commitSweep
    {written : List SweepWrite} {tenantId mediaBuyId : String} {b' : MediaBuy}
    (h : (commitSweep rows written).getById tenantId mediaBuyId = some b') :
    ∃ b, rows.getById tenantId mediaBuyId = some b ∧ b.revision ≤ b'.revision ∧
      ((∀ w ∈ written, ¬ (w.old.tenantId = tenantId ∧ w.old.mediaBuyId = mediaBuyId)) ∧ b' = b ∨
        ∃ w ∈ written, w.old.tenantId = tenantId ∧ w.old.mediaBuyId = mediaBuyId ∧
          b'.status = w.status ∧ flightWindow b' = flightWindow b) := by
  induction written generalizing rows with
  | nil => exact ⟨b', h, le_refl _, .inl ⟨fun w hw => absurd hw List.not_mem_nil, rfl⟩⟩
  | cons w ws ih =>
      have htail : (commitSweep (rows.modifyBuy w.old.tenantId w.old.mediaBuyId w.change)
          ws).getById tenantId mediaBuyId = some b' := h
      obtain ⟨b₁, hb₁, hrevision, hrest⟩ := ih htail
      by_cases hkey : w.old.tenantId = tenantId ∧ w.old.mediaBuyId = mediaBuyId
      · obtain ⟨rfl, rfl⟩ := hkey
        rw [BuyRows.getById_modifyBuy] at hb₁
        obtain ⟨b, hb, rfl⟩ := Option.map_eq_some_iff.mp hb₁
        have hbumped : b.revision ≤ b'.revision := le_trans (Nat.le_succ _) hrevision
        refine ⟨b, hb, hbumped, .inr ?_⟩
        rcases hrest with ⟨-, rfl⟩ | ⟨w', hw', htenant, hid, hstatus, hflight⟩
        · exact ⟨w, List.mem_cons_self, rfl, rfl, rfl, rfl⟩
        · exact ⟨w', List.mem_cons_of_mem _ hw', htenant, hid, hstatus, hflight⟩
      · have hsame : rows.getById tenantId mediaBuyId = some b₁ := by
          by_cases hid : mediaBuyId = w.old.mediaBuyId
          · subst hid
            have htenant : tenantId ≠ w.old.tenantId := fun h => hkey ⟨h.symm, rfl⟩
            rwa [BuyRows.getById_modifyBuy_of_tenant_ne rows w.change htenant] at hb₁
          · rwa [BuyRows.getById_modifyBuy_of_ne rows w.change hid] at hb₁
        refine ⟨b₁, hsame, hrevision, ?_⟩
        rcases hrest with ⟨hnone, rfl⟩ | ⟨w', hw', hfacts⟩
        · exact .inl ⟨List.forall_mem_cons.mpr ⟨hkey, hnone⟩, rfl⟩
        · exact .inr ⟨w', List.mem_cons_of_mem _ hw', hfacts⟩

end Updates

section Interleaved

/-- Each update of the sweep is a move of the row as it is stored. -/
def WritesMove
    (s : SweepState) : Prop :=
  ∀ sweep, s.sweep = some sweep → ∀ w ∈ sweep.written,
    ∃ b, s.rows.getById w.old.tenantId w.old.mediaBuyId = some b ∧ SweepMove b.status w.status

theorem writesMove_preserved :
    Runs.Preserved (Restrict SweepStep Undisturbed) WritesMove := by
  rintro s e t ⟨hstep, hcond⟩ hinv
  cases hstep with
  | load =>
      rintro sweep ⟨⟩ w hw
      cases hw
  | @visit rows sweep old rest later hloaded =>
      rintro sweep' ⟨⟩ w hw
      rcases List.mem_append.mp hw with hold | hnew
      · exact hinv sweep rfl w hold
      · obtain ⟨⟨b, hb⟩, htarget, rfl⟩ := sweepWrite_eq_some (Option.mem_toList.mp hnew)
        have hswept := hcond sweep w.old rest later rfl hloaded rfl (by rw [htarget]; rfl) b hb
        exact ⟨b, hb, sweepMove_of_target htarget hswept⟩
  | commit => rintro sweep ⟨⟩
  | rollback => rintro sweep ⟨⟩
  | @write rows rows' sweep hlocked =>
      intro s hs w hw
      obtain ⟨b, hb, hmove⟩ := hinv s hs w hw
      refine ⟨b, ?_, hmove⟩
      unfold BuyRows.getById at hb ⊢
      simp only at hb ⊢
      rw [hlocked s hs w hw]
      exact hb

/-- Where the writers beside a sweep leave what it is about to move in a status that it
selects, its commit moves buys only as it may. -/
theorem commitSafe_of_run
    {rows : BuyRows} {es : List SweepEvent} {s s' : SweepState}
    (hrun : Run (Restrict SweepStep Undisturbed) ⟨rows, none⟩ es s)
    (hcommit : SweepStep s .commit s') :
    CommitSafe s.rows s'.rows := by
  have hstart : WritesMove ⟨rows, none⟩ := by rintro sweep ⟨⟩
  have hinv := hrun.preserves writesMove_preserved hstart
  cases hcommit with
  | commit hloaded =>
      intro tenantId mediaBuyId b' hb'
      obtain ⟨b, hb, -, hkept | ⟨w, hw, rfl, rfl, hstatus, -⟩⟩ := getById_commitSweep hb'
      · exact ⟨b, hb, .inl hkept.2⟩
      · obtain ⟨stored, hstored, hmove⟩ := hinv _ rfl w hw
        rw [hb] at hstored
        cases hstored
        exact ⟨b, hb, .inr (by rw [hstatus]; exact hmove)⟩

end Interleaved

section Alone

variable {rows rows₁ rows₂ : BuyRows} {now : DateTime}

theorem visits_of_run
    {sweep : Sweep} {laters : List DateTime} {t : SweepState}
    (hrun : Run SweepStep ⟨rows, some sweep⟩ (laters.map .visit) t) :
    ∃ sweep', t = ⟨rows, some sweep'⟩ ∧ ∃ visited : List (MediaBuy × DateTime),
      sweep.loaded = visited.map Prod.fst ++ sweep'.loaded ∧
      sweep'.written = sweep.written ++
        visited.filterMap (fun p => sweepWrite rows sweep.now p.2 p.1) := by
  induction laters generalizing sweep with
  | nil =>
      cases hrun
      exact ⟨sweep, rfl, [], rfl, by simp⟩
  | cons later laters ih =>
      obtain ⟨middle, hstep, hrest⟩ := hrun.uncons
      cases hstep with
      | @visit _ _ old rest _ hloaded =>
          obtain ⟨sweep', rfl, visited, hvisited, hwritten⟩ := ih hrest
          refine ⟨sweep', rfl, (old, later) :: visited, ?_, ?_⟩
          · rw [hloaded, List.map_cons, List.cons_append]
            exact congrArg _ hvisited
          · rw [hwritten, List.append_assoc]
            cases hwrite : sweepWrite rows sweep.now later old with
            | none => simp [hwrite]
            | some w => simp [hwrite]

theorem wholeSweep_eq
    (h : WholeSweep now rows rows₁) :
    ∃ visited : List (MediaBuy × DateTime),
      visited.map Prod.fst = rows.mediaBuys.rows.filter (fun b => b.status ∈ sweptStatuses) ∧
      rows₁ = commitSweep rows
        (visited.filterMap (fun p => sweepWrite rows now p.2 p.1)) := by
  obtain ⟨laters, hrun⟩ := h
  obtain ⟨loaded, hload, hrest⟩ := hrun.uncons
  cases hload
  obtain ⟨t, hvisits, hcommit⟩ := hrest.split
  obtain ⟨sweep, rfl, visited, hvisited, hwritten⟩ := visits_of_run hvisits
  obtain ⟨last, hlast, hdone⟩ := hcommit.uncons
  cases hdone
  cases hlast with
  | commit hempty =>
      refine ⟨visited, ?_, ?_⟩
      · rw [hempty, List.append_nil] at hvisited
        exact hvisited.symm
      · rw [hwritten]
        rfl

theorem resolve_congr
    {a b : MediaBuy} {creativesApproved : Bool}
    (h : flightWindow a = flightWindow b) :
    resolveFlightWindowStatus a now creativesApproved =
      resolveFlightWindowStatus b now creativesApproved := by
  unfold resolveFlightWindowStatus
  rw [h]

theorem getById_of_mem
    {b : MediaBuy}
    (h : b ∈ rows.mediaBuys.rows) :
    rows.getById b.tenantId b.mediaBuyId = some b := by
  have hfound : rows.mediaBuys.find b.mediaBuyId = some b :=
    (IndexedTable.find_eq_some_iff _).mpr ⟨h, rfl⟩
  unfold BuyRows.getById
  rw [hfound]
  simp

theorem mem_of_getById
    {tenantId mediaBuyId : String} {b : MediaBuy}
    (h : rows.getById tenantId mediaBuyId = some b) :
    b ∈ rows.mediaBuys.rows :=
  ((IndexedTable.find_eq_some_iff _).mp (BuyRows.getById_eq_some h).1).1

theorem sweepTarget_of_wholeSweep
    (h : WholeSweep now rows rows₁)
    {b' : MediaBuy}
    (hmem : b' ∈ rows₁.mediaBuys.rows)
    (hswept : b'.status ∈ sweptStatuses) :
    sweepTarget rows₁ now b' = none := by
  obtain ⟨visited, hvisited, rfl⟩ := wholeSweep_eq h
  obtain ⟨hcreatives, hassignments⟩ := commitSweep_frame rows
    (visited.filterMap (fun p => sweepWrite rows now p.2 p.1))
  obtain ⟨b, hb, -, ⟨huntouched, rfl⟩ | ⟨w, hw, htenant, hid, hstatus, hflight⟩⟩ :=
    getById_commitSweep (getById_of_mem hmem)
  · -- the row was loaded, and an update of it would have been written
    unfold sweepTarget
    rw [hcreatives, hassignments]
    by_contra htarget
    obtain ⟨status, hstatus⟩ := Option.ne_none_iff_exists'.mp htarget
    have hloaded : b' ∈ visited.map Prod.fst := by
      rw [hvisited]
      exact List.mem_filter.mpr ⟨mem_of_getById hb, by simpa using hswept⟩
    obtain ⟨⟨old, later⟩, hpair, rfl⟩ := List.mem_map.mp hloaded
    refine huntouched ⟨old, status, later⟩ (List.mem_filterMap.mpr ⟨(old, later), hpair, ?_⟩)
      ⟨rfl, rfl⟩
    unfold sweepWrite
    rw [hb]
    exact congrArg (Option.map _) hstatus
  · obtain ⟨⟨old, later⟩, hpair, hwrite⟩ := List.mem_filterMap.mp hw
    obtain ⟨-, htarget, rfl⟩ := sweepWrite_eq_some hwrite
    have hold : w.old ∈ rows.mediaBuys.rows := by
      have hloaded : w.old ∈ visited.map Prod.fst := List.mem_map_of_mem (f := Prod.fst) hpair
      rw [hvisited] at hloaded
      exact (List.mem_filter.mp hloaded).1
    have hsame : w.old = b := by
      have hfound := getById_of_mem hold
      rw [htenant, hid, hb] at hfound
      exact (Option.some.inj hfound).symm
    obtain ⟨hmove, hresolve, -⟩ := computeNewStatus_eq_some htarget
    rcases hmove with hcompleted | ⟨hactive, -⟩
    · rw [hstatus, hcompleted] at hswept
      simp [sweptStatuses, activatableStatuses] at hswept
    · unfold sweepTarget computeNewStatus
      rw [hcreatives, hassignments, ← htenant, ← hid, resolve_congr hflight, ← hsame,
        ← hresolve, hstatus]
      simp

/-- A second sweep at the same instant with no writer beside the two changes nothing. -/
theorem wholeSweep_idempotent
    (hfirst : WholeSweep now rows rows₁)
    (hsecond : WholeSweep now rows₁ rows₂) :
    rows₂ = rows₁ := by
  obtain ⟨visited, hvisited, rfl⟩ := wholeSweep_eq hsecond
  have hnone : visited.filterMap (fun p => sweepWrite rows₁ now p.2 p.1) = [] := by
    rw [List.filterMap_eq_nil_iff]
    rintro ⟨old, later⟩ hpair
    have hloaded : old ∈ visited.map Prod.fst := List.mem_map_of_mem (f := Prod.fst) hpair
    rw [hvisited] at hloaded
    obtain ⟨hmem, hswept⟩ := List.mem_filter.mp hloaded
    unfold sweepWrite
    rw [sweepTarget_of_wholeSweep hfirst hmem (by simpa using hswept)]
    simp
  rw [hnone]
  rfl

/-- Where the writers beside a sweep leave what it is about to move in a status that it
selects, every commit moves buys only as it may; and from any rows a second sweep at the
same instant changes nothing. -/
theorem sweepSafe_of_run
    {es : List SweepEvent} {s : SweepState}
    (hrun : Run (Restrict SweepStep Undisturbed) ⟨rows, none⟩ es s) :
    (∀ s', SweepStep s .commit s' → CommitSafe s.rows s'.rows) ∧
      ∀ now rows₁ rows₂, WholeSweep now s.rows rows₁ → WholeSweep now rows₁ rows₂ →
        rows₂ = rows₁ :=
  ⟨fun _ hcommit => commitSafe_of_run hrun hcommit,
    fun _ _ _ hfirst hsecond => wholeSweep_idempotent hfirst hsecond⟩

end Alone

section Samples

/-- The sample buy, scheduled, in a flight that has begun. -/
def dueRow : MediaBuy :=
  { sampleRow with status := .scheduled }

/-- The rows of that buy. -/
def dueRows : BuyRows where
  mediaBuys := IndexedTable.empty.put dueRow
  packages := .empty
  creatives := .empty
  assignments := .empty
  packagesOwned := by simp

/-- The same rows after another writer set the buy's status. -/
def rewrittenRows
    (status : PersistedMediaBuyStatus) : BuyRows :=
  dueRows.modifyBuy "tenant" "mb_1" (.updateStatus status 2)

/-- The sweep's update of the buy as it was loaded. -/
def dueWrite : SweepWrite where
  old := dueRow
  status := .active
  later := 3

theorem dueSweep_load :
    SweepStep ⟨dueRows, none⟩ (.load 1) ⟨dueRows, some ⟨1, [dueRow], []⟩⟩ :=
  .load

theorem dueSweep_write
    (status : PersistedMediaBuyStatus) :
    SweepStep ⟨dueRows, some ⟨1, [dueRow], []⟩⟩ .write
      ⟨rewrittenRows status, some ⟨1, [dueRow], []⟩⟩ := by
  refine .write ?_
  rintro s ⟨⟩ w hw
  cases hw

theorem dueSweep_visit
    (status : PersistedMediaBuyStatus) :
    SweepStep ⟨rewrittenRows status, some ⟨1, [dueRow], []⟩⟩ (.visit 3)
      ⟨rewrittenRows status, some ⟨1, [], [dueWrite]⟩⟩ := by
  have hwrite : sweepWrite (rewrittenRows status) 1 3 dueRow = some dueWrite := by
    cases status <;> decide
  have hstep := @SweepStep.visit (rewrittenRows status) ⟨1, [dueRow], []⟩ dueRow [] 3 rfl
  rwa [hwrite] at hstep

/-- A writer that leaves the buy waiting does not disturb the sweep, which activates it. -/
theorem sweepSafe_of_run_due :
    CommitSafe (rewrittenRows .pendingStart)
      (commitSweep (rewrittenRows .pendingStart) [dueWrite]) := by
  have hundisturbed :
      Undisturbed ⟨rewrittenRows .pendingStart, some ⟨1, [dueRow], []⟩⟩ (.visit 3) := by
    rintro sweep old rest later ⟨⟩ ⟨⟩ - - b hb
    have hstored : (rewrittenRows .pendingStart).getById "tenant" "mb_1" =
        some (dueRow.updateStatus .pendingStart 2) := by decide
    obtain rfl := Option.some.inj (hstored.symm.trans hb)
    decide
  have hrun : Run (Restrict SweepStep Undisturbed) ⟨dueRows, none⟩ [.load 1, .write, .visit 3]
      ⟨rewrittenRows .pendingStart, some ⟨1, [], [dueWrite]⟩⟩ :=
    .cons ⟨dueSweep_load, by rintro sweep old rest later ⟨⟩⟩
      (.cons ⟨dueSweep_write _, by rintro sweep old rest later ⟨⟩ ⟨⟩ ⟨⟩⟩
        (.single ⟨dueSweep_visit _, hundisturbed⟩))
  exact (sweepSafe_of_run hrun).1 _ (.commit rfl)

/-- Counterexample: a cancellation that commits between the load and the update is
written over. -/
theorem canceled_buy_is_activated :
    ∃ s s', Run SweepStep ⟨dueRows, none⟩ [.load 1, .write, .visit 3] s ∧
      SweepStep s .commit s' ∧ ¬ CommitSafe s.rows s'.rows := by
  refine ⟨_, _, .cons dueSweep_load (.cons (dueSweep_write .canceled)
    (.single (dueSweep_visit .canceled))), .commit rfl, fun hsafe => ?_⟩
  have hbefore : statusOf "tenant" "mb_1" (rewrittenRows .canceled) = some .canceled := by decide
  have hafter : statusOf "tenant" "mb_1" (commitSweep (rewrittenRows .canceled) [dueWrite]) =
      some .active := by decide
  obtain ⟨b', hb', hactive⟩ := Option.map_eq_some_iff.mp hafter
  obtain ⟨b, hb, hsame | hmove⟩ := hsafe _ _ b' hb'
  all_goals
    unfold statusOf at hbefore
    rw [hb] at hbefore
    have hcanceled : b.status = .canceled := Option.some.inj hbefore
  · rw [hsame, hcanceled] at hactive
    cases hactive
  · have hswept := hmove.swept
    rw [hcanceled] at hswept
    simp [sweptStatuses, activatableStatuses] at hswept

end Samples

end MediaBuys
end SalesAgent
