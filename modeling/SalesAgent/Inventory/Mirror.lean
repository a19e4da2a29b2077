import SalesAgent.Inventory.Threads

/-!
# The mirror of the inventory

What the one thread of a tenant has done is read off its phase.  The types it has gone
through hold everything that was last changed before its job started; of the type it is at,
the listed items are still to be written; and the types to come hold what they held when the
sync that it refers to started.

**Results.**
* `copied_of_step`: every completed sync misses none of the items, given that no listing is
  cut short, that nothing changes in the instant a sync starts, and that an incremental sync
  starts only while no deletion is unrepaired.
-/

namespace SalesAgent
namespace Inventory

open Runs (Run Restrict)
open Refresh (Writes UpTo Pending Within)

section Phases

/-- The place of a type in the order of a sync. -/
def InventoryType.index : InventoryType → Nat
  | .adUnit => 0
  | .placement => 1
  | .label => 2
  | .customTargetingKey => 3
  | .audienceSegment => 4

/-- How many types a thread has written. -/
def Phase.written : Phase → Nat
  | .discovering t | .loading t _ | .writing t _ _ => t.index
  | .markingStale | .completing => 5
  | .starting | .deleting | .finished | .dead => 0

/-- How many types a thread has listed. -/
def Phase.listed : Phase → Nat
  | .discovering t => t.index
  | .loading t _ | .writing t _ _ => t.index + 1
  | .markingStale | .completing => 5
  | .starting | .deleting | .finished | .dead => 0

/-- What a thread has listed and not written. -/
def Phase.pending : Phase → Option (InventoryType × List Item)
  | .loading t items | .writing t _ items => some (t, items)
  | _ => none

/-- The thread has come to the types. -/
def Phase.pastDelete : Phase → Bool
  | .starting | .deleting => false
  | _ => true

variable {w : Worker} {t u : InventoryType}

theorem index_lt_of_type
    (t : InventoryType) :
    t.index < 5 := by
  cases t <;> decide

theorem mem_allTypes
    (t : InventoryType) :
    t ∈ [InventoryType.adUnit, .placement, .label, .customTargetingKey, .audienceSegment] := by
  cases t <;> decide

theorem eq_of_index
    (h : t.index = u.index) :
    t = u := by
  cases t <;> cases u <;> first | rfl | cases h

@[simp] theorem after_written
    (w : Worker)
    (t : InventoryType) :
    (w.after t).written = t.index + 1 := by
  unfold Worker.after
  cases t <;> cases w.full <;> rfl

@[simp] theorem after_listed
    (w : Worker)
    (t : InventoryType) :
    (w.after t).listed = t.index + 1 := by
  unfold Worker.after
  cases t <;> cases w.full <;> rfl

@[simp] theorem after_pending
    (w : Worker)
    (t : InventoryType) :
    (w.after t).pending = none := by
  unfold Worker.after
  cases t <;> cases w.full <;> rfl

@[simp] theorem after_live
    (w : Worker)
    (t : InventoryType) :
    (w.after t).live = true := by
  unfold Worker.after
  cases t <;> cases w.full <;> rfl

theorem written_le_listed
    (p : Phase) :
    p.written ≤ p.listed := by
  cases p <;> simp [Phase.written, Phase.listed]

theorem listed_of_pending
    {p : Phase} {items : List Item}
    (h : p.pending = some (t, items)) :
    t.index < p.listed := by
  cases p with
  | loading u items' =>
      cases h
      exact Nat.lt_succ_self _
  | writing u existing items' =>
      cases h
      exact Nat.lt_succ_self _
  | _ => cases h

/-- The mode of a thread is settled when it starts. -/
structure Worker.Consistent
    (w : Worker) : Prop where
  starting : w.phase = .starting → w.full = false ∧ w.since = none
  deleting : w.phase = .deleting → w.full = true
  markingStale : w.phase = .markingStale → w.full = true
  full : w.full = true → w.since = none

theorem Worker.Consistent.enter
    (h : w.Consistent)
    {phase : Phase}
    (hstarting : phase ≠ .starting)
    (hdeleting : phase = .deleting → w.full = true)
    (hmarking : phase = .markingStale → w.full = true) :
    Worker.Consistent { w with phase := phase } where
  starting := fun h => absurd h hstarting
  deleting := hdeleting
  markingStale := hmarking
  full := h.full

theorem Worker.Consistent.after
    (h : w.Consistent)
    (t : InventoryType) :
    Worker.Consistent { w with phase := w.after t } := by
  refine h.enter ?_ ?_ ?_
  · unfold Worker.after
    cases t <;> cases w.full <;> nofun
  · unfold Worker.after
    cases t <;> cases w.full <;> nofun
  · unfold Worker.after
    cases hfull : w.full with
    | true => exact fun _ => rfl
    | false => cases t <;> nofun

end Phases

section Tracking

variable {s t : Service} {y : Sync} {e : SyncEvent}

/-- What a thread knows of the ad server and of the other jobs. -/
structure Tracks
    (s : Service)
    (y : Sync) : Prop where
  newest : ∀ r ∈ s.syncs, r.job.startedAt ≤ y.job.startedAt
  found : ∀ k, k ∉ y.worker.changed → s.server.find k = y.worker.found.find k
  foundOld : ∀ i ∈ y.worker.found, i.lastModified ≤ y.job.startedAt
  consistent : y.worker.Consistent

/-- What holds of the ad server and of the jobs in every state. -/
structure Steady
    (s : Service) : Prop extends Sole s where
  dated : ∀ i ∈ s.server, i.lastModified ≤ s.now
  archives : ∀ i ∈ s.server, i.status = .archived → i.inventoryType.archivable = true
  tracks : ∀ y ∈ s.syncs, y.worker.phase.live = true → Tracks s y

theorem Tracks.of_same
    (h : Tracks s y)
    (hserver : t.server = s.server)
    (hsyncs : ∀ r ∈ t.syncs, ∃ r' ∈ s.syncs, r.job.startedAt = r'.job.startedAt) :
    Tracks t y where
  newest := fun r hr => by
    obtain ⟨r', hr', hsame⟩ := hsyncs r hr
    rw [hsame]
    exact h.newest r' hr'
  found := fun k hk => by
    rw [hserver]
    exact h.found k hk
  foundOld := h.foundOld
  consistent := h.consistent

theorem Tracks.touch
    (h : Tracks s y)
    {k : Key} {server : AdServer}
    (hothers : ∀ k', k' ≠ k → server.find k' = s.server.find k') :
    Tracks (s.serverChanged k server) (y.touch k) where
  newest := fun r hr => by
    have hmem : r ∈ s.syncs.map (Sync.touch k) (fun _ => rfl) := hr
    obtain ⟨r', hr', rfl⟩ := (IndexedTable.mem_map s.syncs).mp hmem
    exact h.newest r' hr'
  found := fun k' hk' => by
    obtain ⟨hne, hrest⟩ := not_or.mp (fun hor => hk' (List.mem_cons.mpr hor))
    exact (hothers k' hne).trans (h.found k' hrest)
  foundOld := h.foundOld
  consistent := ⟨h.consistent.1, h.consistent.2, h.consistent.3, h.consistent.4⟩

theorem find_put_item
    (server : AdServer)
    (item : Item)
    {k : Key}
    (h : k ≠ item.key) :
    (server.put item).find k = server.find k :=
  IndexedTable.find_put_of_ne server (fun hkey => h (Option.some.inj hkey).symm)

theorem find_remove_item
    (server : AdServer)
    {k k' : Key}
    (h : k' ≠ k) :
    (server.deleteWhere (fun i => i.key = k)).find k' = server.find k' :=
  IndexedTable.find_deleteWhere_of_key server (fun i hkey =>
    decide_eq_false (fun heq => h ((Option.some.inj hkey).symm.trans heq)))

theorem eq_of_mem_setSync
    {y' : Sync} {job : SyncJob} {worker : Worker}
    (h : y' ∈ (s.setSync y job worker).syncs)
    (hid : y'.syncId = y.syncId) :
    y' = ⟨y.syncId, job, worker⟩ := by
  rcases mem_setSync h with hself | ⟨-, hne⟩
  · exact hself
  · exact absurd hid hne

/-- A step leaves what the thread knows of the ad server, and settles its mode. -/
theorem Moved.keeps
    {move : Move} {y' : Sync}
    (h : Moved s y move t)
    (hy : y.worker.Consistent)
    (hy' : y' ∈ t.syncs)
    (hid : y'.syncId = y.syncId) :
    y'.worker.found = y.worker.found ∧ y'.worker.changed = y.worker.changed ∧
      y'.worker.Consistent := by
  cases h with
  | start hphase hlast =>
      obtain ⟨hfull, hsince⟩ := hy.starting hphase
      unfold Service.startThread Service.beginTypes at hy'
      split at hy'
      · obtain rfl := eq_of_mem_setSync hy' hid
        exact ⟨rfl, rfl, nofun, fun _ => rfl, nofun, fun _ => hsince⟩
      · obtain rfl := eq_of_mem_setSync hy' hid
        exact ⟨rfl, rfl, nofun, nofun, nofun, fun _ => hsince⟩
      · split at hy'
        · obtain rfl := eq_of_mem_setSync hy' hid
          exact ⟨rfl, rfl, nofun, fun _ => rfl, nofun, fun _ => hsince⟩
        · obtain rfl := eq_of_mem_setSync hy' hid
          refine ⟨rfl, rfl, nofun, nofun, nofun, fun h => ?_⟩
          rw [show y.worker.full = true from h] at hfull
          cases hfull
  | delete hphase =>
      obtain rfl := eq_of_mem_setSync hy' hid
      exact ⟨rfl, rfl, nofun, nofun, nofun, hy.full⟩
  | discoverNone hphase hlisted =>
      obtain rfl := eq_of_mem_setSync hy' hid
      exact ⟨rfl, rfl, hy.after _⟩
  | discover hphase hlisted =>
      obtain rfl := eq_of_mem_setSync hy' hid
      exact ⟨rfl, rfl, hy.enter nofun nofun nofun⟩
  | load hphase =>
      obtain rfl := eq_of_mem_setSync hy' hid
      exact ⟨rfl, rfl, hy.enter nofun nofun nofun⟩
  | flushLast hphase hflush =>
      obtain rfl := eq_of_mem_setSync hy' hid
      exact ⟨rfl, rfl, hy.after _⟩
  | flush hphase hflush =>
      obtain rfl := eq_of_mem_setSync hy' hid
      exact ⟨rfl, rfl, hy.enter nofun nofun nofun⟩
  | markStale hphase =>
      obtain rfl := eq_of_mem_setSync hy' hid
      exact ⟨rfl, rfl, hy.enter nofun nofun nofun⟩
  | complete hphase =>
      obtain rfl := eq_of_mem_setSync hy' hid
      exact ⟨rfl, rfl, hy.enter nofun nofun nofun⟩
  | fail hlive =>
      obtain rfl := eq_of_mem_setSync hy' hid
      exact ⟨rfl, rfl, hy.enter nofun nofun nofun⟩
  | unmarked hmove hlive =>
      obtain rfl := eq_of_mem_setSync hy' hid
      exact ⟨rfl, rfl, hy.enter nofun nofun nofun⟩

theorem Sole.not_live_other
    (hs : Sole s)
    {y' : Sync}
    (hy : y ∈ s.syncs)
    (hlive : y.worker.phase.live = true)
    (hy' : y' ∈ s.syncs)
    (hne : y'.syncId ≠ y.syncId) :
    y'.worker.phase.live ≠ true := by
  intro hother
  obtain rfl := hs.eq_of_live hy hy' hlive hother
  exact hne rfl

theorem Happened.same_starts
    (h : Happened s e t)
    (hold : ∀ mode, e ≠ .insert mode) :
    ∀ r ∈ t.syncs, ∃ r' ∈ s.syncs, r.job.startedAt = r'.job.startedAt := by
  intro r hr
  rcases h.evolves hr with ⟨r', hr', heq⟩ | ⟨mode, hinsert, -⟩
  · exact ⟨r', hr', heq.startedAt⟩
  · exact absurd hinsert (hold mode)

theorem steady_of_step
    (hs : Steady s)
    (h : Happened s e t)
    (hsole : SoleStart s e) :
    Steady t := by
  have htracks : ∀ y' ∈ t.syncs, y'.worker.phase.live = true → Tracks t y' := by
    intro y' hy' hlive
    cases h with
    | tick hle => exact (hs.tracks y' hy' hlive).of_same rfl (fun r hr => ⟨r, hr, rfl⟩)
    | @store item hdated harchived =>
        have hmem : y' ∈ s.syncs.map (Sync.touch item.key) (fun _ => rfl) := hy'
        obtain ⟨y, hy, rfl⟩ := (IndexedTable.mem_map s.syncs).mp hmem
        exact (hs.tracks y hy hlive).touch (fun k => find_put_item s.server item)
    | @remove k =>
        have hmem : y' ∈ s.syncs.map (Sync.touch k) (fun _ => rfl) := hy'
        obtain ⟨y, hy, rfl⟩ := (IndexedTable.mem_map s.syncs).mp hmem
        exact (hs.tracks y hy hlive).touch (fun k' => find_remove_item s.server)
    | check => exact (hs.tracks y' hy' hlive).of_same rfl (fun r hr => ⟨r, hr, rfl⟩)
    | checkStale hy hstale =>
        rw [hs.not_stale hy] at hstale
        cases hstale
    | @insert mode syncs hinsert =>
        rcases (IndexedTable.mem_insert hinsert y').mp hy' with rfl | hold
        · refine ⟨fun r hr => ?_, fun _ _ => rfl, hs.dated, ?_⟩
          · rcases (IndexedTable.mem_insert hinsert r).mp hr with rfl | hr
            · exact le_rfl
            · exact hs.started r hr
          · exact ⟨fun _ => ⟨rfl, rfl⟩, nofun, nofun, fun _ => rfl⟩
        · exact absurd (hs.running y' hold hlive) (hsole y' hold)
    | @work y move t hy hmoved =>
        have hsame := hmoved.replaced
        obtain ⟨-, hserver, job, worker, hsyncs, hstarted, -, -⟩ := hsame
        have htrack := hs.tracks y hy hmoved.live
        by_cases hid : y'.syncId = y.syncId
        · obtain ⟨hfound, hchanged, hconsistent⟩ := hmoved.keeps htrack.consistent hy' hid
          have hstart : y'.job.startedAt = y.job.startedAt := by
            rw [hsyncs] at hy'
            rw [eq_of_mem_setSync hy' hid]
            exact hstarted
          have hstarts := Happened.same_starts (.work hy hmoved) nofun
          refine ⟨fun r hr => ?_, fun k hk => ?_, fun i hi => ?_, hconsistent⟩
          · obtain ⟨r', hr', hstartedAt⟩ := hstarts r hr
            rw [hstartedAt, hstart]
            exact htrack.newest r' hr'
          · rw [hserver, hfound]
            exact htrack.found k (hchanged ▸ hk)
          · rw [hstart]
            exact htrack.foundOld i (hfound ▸ hi)
        · rw [hsyncs] at hy'
          rcases mem_setSync hy' with rfl | ⟨hold, hne⟩
          · exact absurd rfl hid
          · exact absurd hlive (hs.not_live_other hy hmoved.live hold hne)
    | @crash y hy hylive =>
        rcases mem_setSync hy' with rfl | ⟨hold, hne⟩
        · cases hlive
        · exact absurd hlive (hs.not_live_other hy hylive hold hne)
    | @reset y hy hrunning =>
        have hended := hsole y (find_sync.mpr ⟨hy, rfl⟩)
        have hstarts := Happened.same_starts (.reset hy hrunning) nofun
        rcases mem_setSync hy' with rfl | ⟨hold, hne⟩
        · rw [show y.worker.phase.live = true from hlive] at hended
          cases hended
        · exact (hs.tracks y' hold hlive).of_same rfl hstarts
  refine ⟨sole_of_step hs.toSole h hsole, fun i hi => ?_, fun i hi => ?_, htracks⟩
  · cases h with
    | tick hle => exact (hs.dated i hi).trans hle
    | @store item hdated harchived =>
        rcases (IndexedTable.mem_put s.server).mp hi with rfl | ⟨hold, -⟩
        · exact hdated.le
        · exact hs.dated i hold
    | remove => exact hs.dated i ((IndexedTable.mem_deleteWhere _ _ _).mp hi).1
    | work hy hmoved =>
        obtain ⟨hnow, hserver, -⟩ := hmoved.replaced
        rw [hnow]
        exact hs.dated i (hserver ▸ hi)
    | _ => exact hs.dated i hi
  · cases h with
    | @store item hdated harchived =>
        rcases (IndexedTable.mem_put s.server).mp hi with rfl | ⟨hold, -⟩
        · exact harchived
        · exact hs.archives i hold
    | remove => exact hs.archives i ((IndexedTable.mem_deleteWhere _ _ _).mp hi).1
    | work hy hmoved => exact hs.archives i (hmoved.replaced.2.1 ▸ hi)
    | _ => exact hs.archives i hi

theorem Service.Initial.steady
    (h : s.Initial) :
    Steady s where
  toSole := h.sole
  dated := h.dated
  archives := h.archives
  tracks := fun y hy => absurd hy (h.not_mem y)

end Tracking

section Missing

variable {s t : Service} {y : Sync} {e : SyncEvent}

/-- The completed sync misses nothing: an item that the ad server had, and that has not
changed there since, is stored as it is. -/
def Completion.MissesNone
    (c : Completion) : Prop :=
  ∀ i ∈ c.found, i.mirrored = true → i.key ∉ c.changed →
    ∃ r ∈ c.rows, r.key = i.key ∧ r.status ≠ .stale ∧ r.stored = i.stored

/-- What a thread has copied. -/
structure Copies
    (server : AdServer)
    (rows : InventoryRows)
    (y : Sync) : Prop where
  written : ∀ u : InventoryType, u.index < y.worker.phase.written →
    UpTo (sourceOf server) (copyOf rows) (keysOf u) y.job.startedAt
  pending : ∀ u items, y.worker.phase.pending = some (u, items) →
    Pending (sourceOf server) (copyOf rows) (keysOf u) y.job.startedAt (items.map Item.entry) ∧
      (items.map Item.key).Nodup
  trusted : ∀ since, y.worker.since = some since → since < y.job.startedAt ∧
    ∀ u : InventoryType, u.archivable = true →
      UpTo (sourceOf server) (copyOf rows) (keysOf u) since
  synced : y.worker.full = true → y.worker.phase.pastDelete = true →
    ∀ r ∈ rows, r.lastSynced = y.worker.syncTime

/-- The state of the copy in sole runs. -/
structure Copied
    (s : Service) : Prop extends Steady s where
  reference : ∀ r ∈ s.syncs, r.job.status = .completed → ∀ u : InventoryType,
    u.archivable = true → u ∉ s.emptied →
      UpTo (sourceOf s.server) (copyOf s.inventory) (keysOf u) r.job.startedAt
  copies : ∀ y ∈ s.syncs, y.worker.phase.live = true → Copies s.server s.inventory y
  missesNone : ∀ c ∈ s.completions, c.MissesNone

/-- The sync has completed, or has listed the type. -/
def Sync.hasListed
    (y : Sync)
    (u : InventoryType) : Prop :=
  y.job.status = .completed ∨ y.worker.phase.live = true ∧ u.index < y.worker.phase.listed

/-- A mirrored item changes after the start of every sync that has listed its type; an
incremental sync refers to an earlier one only while the rows of the filtered types are not
deleted and unrepaired; and no listing loses an item. -/
def KeepsAll
    (s : Service) : SyncEvent → Prop
  | .store item => item.mirrored = true →
      ∀ y ∈ s.syncs, y.hasListed item.inventoryType → y.job.startedAt < s.now
  | .work id (.start last) => ∀ y, s.syncs.find id = some y → y.worker.mode = .incremental →
      last ≠ none → ∀ u ∈ s.emptied, u.archivable = false
  | .work id (.discover listing) => ∀ y, s.syncs.find id = some y →
      ∀ u, y.worker.phase = .discovering u →
        discovered u (s.listed y u) listing = some (s.listed y u)
  | _ => True

theorem Copies.enter
    {server : AdServer} {rows : InventoryRows}
    (h : Copies server rows y)
    {phase : Phase}
    (hwritten : phase.written = y.worker.phase.written)
    (hpending : phase.pending = y.worker.phase.pending)
    (hpast : phase.pastDelete = y.worker.phase.pastDelete) :
    Copies server rows ⟨y.syncId, y.job, { y.worker with phase := phase }⟩ where
  written := fun u hu => h.written u (hwritten ▸ hu)
  pending := fun u items hitems => h.pending u items (hpending ▸ hitems)
  trusted := h.trusted
  synced := fun hfull hphase => h.synced hfull (hpast ▸ hphase)

theorem sourceOf_put
    {server : AdServer} {item : Item} {v : Stored} {m : DateTime}
    (h : sourceOf (server.put item) item.key = some (v, m)) :
    item.mirrored = true ∧ m = item.lastModified := by
  obtain ⟨i, hi, hkey, hmirrored, -, rfl⟩ := sourceOf_eq_some.mp h
  have hfind : (server.put item).find item.key = some item := IndexedTable.find_put_self server rfl
  rw [find_item.mpr ⟨hi, hkey⟩] at hfind
  cases hfind
  exact ⟨hmirrored, rfl⟩

theorem sourceOf_remove
    {server : AdServer} {k : Key} {v : Stored} {m : DateTime} :
    sourceOf (server.deleteWhere (fun i => i.key = k)) k ≠ some (v, m) := by
  intro h
  obtain ⟨i, hi, hkey, -⟩ := sourceOf_eq_some.mp h
  have hkept := ((IndexedTable.mem_deleteWhere _ _ _).mp hi).2
  exact absurd hkey (of_decide_eq_false hkept)

/-- A change on the ad server, later than the starts that it could concern. -/
theorem Copies.change
    {server server' : AdServer} {rows : InventoryRows} {k : Key} {now : DateTime}
    (h : Copies server rows y)
    (hlive : y.worker.phase.live = true)
    (hstarted : y.job.startedAt ≤ now)
    (hothers : ∀ k', k' ≠ k → server'.find k' = server.find k')
    (hdated : ∀ v m, sourceOf server' k = some (v, m) → m = now ∧
      (y.hasListed k.1 → y.job.startedAt < now)) :
    Copies server' rows (y.touch k) where
  written := fun u hu => by
    refine (h.written u hu).change (fun k' hk' => sourceOf_congr (hothers k' hk')) ?_
    rintro rfl v m hsrc
    obtain ⟨rfl, hlate⟩ := hdated v m hsrc
    exact hlate (.inr ⟨hlive, lt_of_lt_of_le hu (written_le_listed _)⟩)
  pending := fun u items hitems => by
    obtain ⟨hpending, hnodup⟩ := h.pending u items hitems
    refine ⟨hpending.change (fun k' hk' => sourceOf_congr (hothers k' hk')) ?_, hnodup⟩
    rintro rfl v m hsrc
    obtain ⟨rfl, hlate⟩ := hdated v m hsrc
    exact hlate (.inr ⟨hlive, listed_of_pending hitems⟩)
  trusted := fun since hsince => by
    obtain ⟨hbefore, hupTo⟩ := h.trusted since hsince
    refine ⟨hbefore, fun u hu => ?_⟩
    refine (hupTo u hu).change (fun k' hk' => sourceOf_congr (hothers k' hk')) ?_
    intro _ v m hsrc
    obtain ⟨rfl, -⟩ := hdated v m hsrc
    exact lt_of_lt_of_le hbefore hstarted
  synced := h.synced

/-- A batch of the pending items. -/
theorem Copies.flush
    {server : AdServer} {rows rows' : InventoryRows} {u : InventoryType}
    {existing : List (String × Nat)} {items batch left : List Item} {nextId nextId' : Nat}
    (h : Copies server rows y)
    (hphase : y.worker.phase = .writing u existing items)
    (hsplit : items = batch ++ left)
    (hflush : flushBatch existing y.worker.syncTime batch rows nextId = some (rows', nextId')) :
    Copies server rows'
        ⟨y.syncId, y.job, { y.worker with phase := .writing u existing left }⟩ ∧
      Writes (copyOf rows) (copyOf rows') (batch.map Item.entry) := by
  obtain ⟨hpending, hnodup⟩ := h.pending u items (by rw [hphase]; rfl)
  subst hsplit
  rw [List.map_append] at hpending hnodup
  have hwrites := flushBatch_writes hflush (List.nodup_append.mp hnodup).1
  have hcurrent : ∀ since ≤ y.job.startedAt, ∀ p ∈ batch.map Item.entry, ∀ v m,
      sourceOf server p.1 = some (v, m) → m ≤ since → v = p.2 := fun since hle p hp =>
    hpending.current_of_le hle p (List.mem_append_left _ hp)
  refine ⟨⟨fun v hv => ?_, fun v items hitems => ?_, fun since hsince => ?_, ?_⟩, hwrites⟩
  · have hbefore : v.index < y.worker.phase.written := by
      rw [hphase]
      exact hv
    exact (h.written v hbefore).write hwrites (hcurrent _ le_rfl)
  · cases hitems
    exact ⟨hpending.write hwrites, (List.nodup_append.mp hnodup).2.1⟩
  · obtain ⟨hlt, hupTo⟩ := h.trusted since hsince
    exact ⟨hlt, fun v hv => (hupTo v hv).write hwrites (hcurrent since hlt.le)⟩
  · intro hfull _
    have hsynced := h.synced hfull (by rw [hphase]; rfl)
    exact forall_flushBatch hflush hsynced (fun _ _ => rfl)

/-- The thread goes on to the next type. -/
theorem Copies.leaveType
    {server : AdServer} {rows : InventoryRows} {u : InventoryType}
    (h : Copies server rows y)
    (hwritten : y.worker.phase.written = u.index)
    (hpast : y.worker.phase.pastDelete = true)
    (hdone : UpTo (sourceOf server) (copyOf rows) (keysOf u) y.job.startedAt) :
    Copies server rows ⟨y.syncId, y.job, { y.worker with phase := y.worker.after u }⟩ where
  written := fun v hv => by
    rw [after_written] at hv
    rcases Nat.lt_or_ge v.index u.index with hless | hge
    · exact h.written v (hwritten ▸ hless)
    · rw [eq_of_index (Nat.le_antisymm (Nat.le_of_lt_succ hv) hge)]
      exact hdone
  pending := fun v items hitems => by
    rw [after_pending] at hitems
    cases hitems
  trusted := h.trusted
  synced := fun hfull _ => h.synced hfull hpast

/-- A statement without a time selects all mirrored items of its type; with one, those that
changed since. -/
theorem selects_statementOf
    {since : Option DateTime} {i : Item}
    (hmirrored : i.mirrored = true)
    (hsince : i.inventoryType.archivable = true → ∀ m ∈ since, m < i.lastModified) :
    (statementOf since i.inventoryType).selects i = true := by
  unfold Item.mirrored at hmirrored
  obtain ⟨hstatus, hparty⟩ := Bool.and_eq_true_iff.mp hmirrored
  have hall : i.inventoryType.archivable = true → since.all (· < i.lastModified) = true := by
    intro harchivable
    rw [Option.all_eq_true]
    exact fun m hm => decide_eq_true (hsince harchivable m hm)
  unfold statementOf Statement.selects
  cases htype : i.inventoryType with
  | adUnit =>
      have hlate := hall (by rw [htype]; rfl)
      simp only [discoverAdUnits, hstatus, hlate, Bool.not_true, Bool.not_false, Bool.false_or,
        Bool.true_or, Bool.and_self]
  | placement =>
      have hlate := hall (by rw [htype]; rfl)
      simp only [discoverPlacements, hstatus, hlate, Bool.not_true, Bool.not_false, Bool.false_or,
        Bool.true_or, Bool.and_self]
  | label => simp [discoverLabels]
  | customTargetingKey => simp [discoverCustomTargeting]
  | audienceSegment => simpa [discoverAudienceSegments, htype] using hparty

theorem mem_listed
    {u : InventoryType} {i : Item} :
    i ∈ s.listed y u ↔ i ∈ s.server ∧ i.inventoryType = u ∧
      (statementOf y.worker.since u).selects i = true := by
  unfold Service.listed
  rw [IndexedTable.mem_part, Bool.and_eq_true, decide_eq_true_eq]

theorem nodup_listed
    (s : Service)
    (y : Sync)
    (u : InventoryType) :
    ((s.listed y u).map Item.key).Nodup := by
  have hunique : (s.server.rows.map Item.key).Nodup := by
    refine List.pairwise_map.mpr (s.server.unique.imp ?_)
    exact fun h heq => h _ rfl (congrArg some heq.symm)
  exact hunique.sublist (List.filter_sublist.map Item.key)

/-- What a whole listing leaves to be written. -/
theorem pending_listed
    {u : InventoryType} {rows : InventoryRows} {σ : DateTime}
    (htrusted : ∀ since, y.worker.since = some since → u.archivable = true →
      UpTo (sourceOf s.server) (copyOf rows) (keysOf u) since) :
    Pending (sourceOf s.server) (copyOf rows) (keysOf u) σ ((s.listed y u).map Item.entry) := by
  have hwithin : ∀ p ∈ (s.listed y u).map Item.entry, p.1 ∈ keysOf u := by
    intro p hp
    obtain ⟨i, hi, rfl⟩ := List.mem_map.mp hp
    exact (mem_listed.mp hi).2.1
  have hlisted : ∀ p ∈ (s.listed y u).map Item.entry, ∀ v m,
      sourceOf s.server p.1 = some (v, m) → v = p.2 := by
    intro p hp v m hsrc
    obtain ⟨i, hi, rfl⟩ := List.mem_map.mp hp
    obtain ⟨j, hj, hkey, -, rfl, -⟩ := sourceOf_eq_some.mp hsrc
    have hfind : s.server.find i.key = some j := find_item.mpr ⟨hj, hkey⟩
    rw [find_item.mpr ⟨(mem_listed.mp hi).1, rfl⟩] at hfind
    cases hfind
    rfl
  have hselected : ∀ k ∈ keysOf u, ∀ v m, sourceOf s.server k = some (v, m) →
      (u.archivable = true → ∀ since ∈ y.worker.since, since < m) →
        (k, v) ∈ (s.listed y u).map Item.entry := by
    rintro k rfl v m hsrc hlate
    obtain ⟨i, hi, rfl, hmirrored, rfl, rfl⟩ := sourceOf_eq_some.mp hsrc
    exact List.mem_map.mpr ⟨i, mem_listed.mpr ⟨hi, rfl, selects_statementOf hmirrored hlate⟩, rfl⟩
  cases hsince : y.worker.since with
  | none =>
      refine .of_all hwithin (fun k hk v m hsrc => ?_) hlisted
      exact hselected k hk v m hsrc (fun _ since h => by rw [hsince] at h; cases h)
  | some since =>
      cases harchivable : u.archivable with
      | true =>
          refine .of_since hwithin (htrusted since hsince harchivable) (fun k hk v m hsrc hlt => ?_)
            hlisted
          refine hselected k hk v m hsrc (fun _ since' h => ?_)
          rw [hsince] at h
          cases h
          exact hlt
      | false =>
          refine .of_all hwithin (fun k hk v m hsrc => ?_) hlisted
          refine hselected k hk v m hsrc (fun h => ?_)
          rw [harchivable] at h
          cases h

/-- The one thread that is alive takes a step that does not end it. -/
theorem Copied.advance
    {u : Service} {worker : Worker}
    (hs : Copied s)
    (hy : y ∈ s.syncs)
    (hlive : y.worker.phase.live = true)
    (hsteady : Steady (u.setSync y y.job worker))
    (hsyncs : u.syncs = s.syncs)
    (hserver : u.server = s.server)
    (hcompletions : u.completions = s.completions)
    (hreference : ∀ r ∈ s.syncs, r.job.status = .completed → ∀ v : InventoryType,
      v.archivable = true → v ∉ u.emptied →
        UpTo (sourceOf s.server) (copyOf u.inventory) (keysOf v) r.job.startedAt)
    (hcopies : Copies s.server u.inventory ⟨y.syncId, y.job, worker⟩) :
    Copied (u.setSync y y.job worker) where
  toSteady := hsteady
  reference := fun r hr hcompleted => by
    rw [show (u.setSync y y.job worker).server = s.server from hserver]
    rcases mem_setSync hr with rfl | ⟨hold, -⟩
    · have hrunning := hs.running y hy hlive
      rw [show y.job.status = .completed from hcompleted] at hrunning
      cases hrunning
    · exact hreference r (hsyncs ▸ hold) hcompleted
  copies := fun z hz hzlive => by
    rw [show (u.setSync y y.job worker).server = s.server from hserver]
    rcases mem_setSync hz with rfl | ⟨hold, hne⟩
    · exact hcopies
    · exact absurd hzlive (hs.not_live_other hy hlive (hsyncs ▸ hold) hne)
  missesNone := fun c hc => hs.missesNone c (hcompletions ▸ hc)

/-- The one thread that is alive ends. -/
theorem Copied.finish
    {u : Service} {job : SyncJob} {worker : Worker}
    (hs : Copied s)
    (hy : y ∈ s.syncs)
    (hlive : y.worker.phase.live = true)
    (hsteady : Steady (u.setSync y job worker))
    (hsame : u.syncs = s.syncs ∧ u.server = s.server ∧ u.inventory = s.inventory ∧
      u.emptied = s.emptied)
    (hcompletions : ∀ c ∈ u.completions, c.MissesNone)
    (hended : worker.phase.live = false)
    (hcompleted : job.status = .completed → job.startedAt = y.job.startedAt ∧
      y.worker.phase.written = 5) :
    Copied (u.setSync y job worker) where
  toSteady := hsteady
  reference := fun r hr hstatus v harchivable hkept => by
    obtain ⟨hsyncs, hserver, hinventory, hemptied⟩ := hsame
    rw [show (u.setSync y job worker).server = s.server from hserver,
      show (u.setSync y job worker).inventory = s.inventory from hinventory]
    rw [show (u.setSync y job worker).emptied = s.emptied from hemptied] at hkept
    rcases mem_setSync hr with rfl | ⟨hold, -⟩
    · obtain ⟨hstarted, hwritten⟩ := hcompleted hstatus
      rw [hstarted]
      refine (hs.copies y hy hlive).written v ?_
      rw [hwritten]
      exact index_lt_of_type v
    · exact hs.reference r (hsyncs ▸ hold) hstatus v harchivable hkept
  copies := fun z hz hzlive => by
    rcases mem_setSync hz with rfl | ⟨hold, hne⟩
    · rw [show worker.phase.live = true from hzlive] at hended
      cases hended
    · exact absurd hzlive (hs.not_live_other hy hlive (hsame.1 ▸ hold) hne)
  missesNone := hcompletions

theorem Copied.reference_leave
    {rows : InventoryRows} {u : InventoryType} {full : Bool}
    (hs : Copied s)
    (hy : y ∈ s.syncs)
    (hlive : y.worker.phase.live = true)
    (hkept : ∀ r ∈ s.syncs, r.job.status = .completed → ∀ v : InventoryType,
      v.archivable = true → v ∉ s.emptied →
        UpTo (sourceOf s.server) (copyOf rows) (keysOf v) r.job.startedAt)
    (hdone : UpTo (sourceOf s.server) (copyOf rows) (keysOf u) y.job.startedAt) :
    ∀ r ∈ s.syncs, r.job.status = .completed → ∀ v : InventoryType, v.archivable = true →
      v ∉ (if full then s.emptied.filter (· ≠ u) else s.emptied) →
        UpTo (sourceOf s.server) (copyOf rows) (keysOf v) r.job.startedAt := by
  intro r hr hcompleted v harchivable hnot
  by_cases hemptied : v ∈ s.emptied
  · have hvu : v = u := by
      by_contra hne
      refine hnot ?_
      split
      · exact List.mem_filter.mpr ⟨hemptied, decide_eq_true hne⟩
      · exact hemptied
    subst hvu
    exact hdone.mono ((hs.tracks y hy hlive).newest r hr)
  · exact hkept r hr hcompleted v harchivable hemptied

/-- What a completed sync has copied. -/
theorem Copied.completion
    (hs : Copied s)
    (hy : y ∈ s.syncs)
    (hphase : y.worker.phase = .completing) :
    Completion.MissesNone ⟨y.worker.found, y.worker.changed, s.inventory⟩ := by
  have hlive : y.worker.phase.live = true := by
    rw [hphase]
    rfl
  intro i hi hmirrored hunchanged
  have htracks := hs.tracks y hy hlive
  have hfind : s.server.find i.key = some i := by
    rw [htracks.found i.key hunchanged]
    exact find_item.mpr ⟨hi, rfl⟩
  have hsrc : sourceOf s.server i.key = some (i.stored, i.lastModified) :=
    sourceOf_eq_some.mpr ⟨i, (find_item.mp hfind).1, rfl, hmirrored, rfl, rfl⟩
  have hwritten : i.inventoryType.index < y.worker.phase.written := by
    rw [hphase]
    exact index_lt_of_type _
  exact copyOf_eq_some.mp ((hs.copies y hy hlive).written i.inventoryType hwritten i.key rfl _ _
    hsrc (htracks.foundOld i hi))

theorem exists_ref
    {last : Option Int} {ref : Sync}
    (hlast : s.isLastCompleted last = true)
    (hfind : last.bind s.syncs.find = some ref) :
    ref ∈ s.syncs ∧ ref.job.status = .completed := by
  cases last with
  | none => cases hfind
  | some id =>
      obtain ⟨found, hfound, htest⟩ := (Option.any_eq_true _ _).mp hlast
      rw [show s.syncs.find id = some ref from hfind] at hfound
      cases hfound
      exact ⟨(find_sync.mp hfind).1, of_decide_eq_true (Bool.and_eq_true_iff.mp htest).1⟩

theorem Steady.lt_of_completed
    (hs : Steady s)
    {ref : Sync}
    (hy : y ∈ s.syncs)
    (hlive : y.worker.phase.live = true)
    (href : ref ∈ s.syncs)
    (hcompleted : ref.job.status = .completed) :
    ref.job.startedAt < y.job.startedAt := by
  refine lt_of_le_of_ne ((hs.tracks y hy hlive).newest ref href) (fun heq => ?_)
  have hid : ref.syncId = y.syncId := by
    rw [hs.ids ref href, hs.ids y hy, heq]
  obtain rfl := sync_eq_of_id hy href hid
  have hrunning := hs.running ref hy hlive
  rw [hcompleted] at hrunning
  cases hrunning

theorem map_markStale
    {rows : InventoryRows} {syncTime : DateTime}
    (h : ∀ r ∈ rows, r.lastSynced = syncTime) :
    rows.map (GAMInventory.markStale syncTime) (markStale_uniqueKey syncTime) = rows := by
  refine IndexedTable.eq_of_rows ?_
  refine (List.map_congr_left (fun r hr => ?_)).trans (List.map_id _)
  have hfresh : ¬ (r.lastSynced < syncTime - Timedelta.seconds 1 ∧ r.inventoryType ≠ .adUnit) := by
    rintro ⟨hlt, -⟩
    rw [h r hr] at hlt
    exact absurd hlt (not_lt_of_ge (sub_le_self syncTime (by decide)))
  unfold GAMInventory.markStale
  rw [if_neg hfresh]
  rfl

/-- A step of the one thread keeps the copy. -/
theorem Copied.moved
    {move : Move}
    (hs : Copied s)
    (hsteady : Steady t)
    (hy : y ∈ s.syncs)
    (h : Moved s y move t)
    (hkeeps : KeepsAll s (.work y.syncId move)) :
    Copied t := by
  have hlive := h.live
  have hfound : s.syncs.find y.syncId = some y := find_sync.mpr ⟨hy, rfl⟩
  have hcopies := hs.copies y hy hlive
  have hconsistent := (hs.tracks y hy hlive).consistent
  cases h with
  | @start last hphase hlast =>
      obtain ⟨hfull, hsince⟩ := hconsistent.starting hphase
      have hnone : ∀ worker : Worker, worker.phase = .deleting → worker.since = y.worker.since →
          Copies s.server s.inventory ⟨y.syncId, y.job, worker⟩ := by
        intro worker hdeleting hsame
        refine ⟨fun u hu => ?_, fun u items hitems => ?_, fun since h => ?_, fun _ hpast => ?_⟩
        · rw [hdeleting] at hu
          cases hu
        · rw [hdeleting] at hitems
          cases hitems
        · rw [show worker.since = none from hsame.trans hsince] at h
          cases h
        · rw [hdeleting] at hpast
          cases hpast
      unfold Service.startThread Service.beginTypes at hsteady ⊢
      cases hmode : y.worker.mode with
      | full =>
          rw [hmode] at hsteady
          exact hs.advance hy hlive hsteady rfl rfl rfl hs.reference (hnone _ rfl rfl)
      | other =>
          rw [hmode] at hsteady
          refine hs.advance hy hlive hsteady rfl rfl rfl hs.reference ⟨nofun, nofun, ?_, ?_⟩
          · intro since h
            rw [show y.worker.since = some since from h] at hsince
            cases hsince
          · intro h
            rw [show y.worker.full = true from h] at hfull
            cases hfull
      | incremental =>
          rw [hmode] at hsteady
          dsimp only at hsteady ⊢
          cases href : last.bind s.syncs.find with
          | none =>
              rw [href] at hsteady
              exact hs.advance hy hlive hsteady rfl rfl rfl hs.reference (hnone _ rfl rfl)
          | some ref =>
              rw [href] at hsteady
              obtain ⟨hmem, hcompleted⟩ := exists_ref (hlast hmode) href
              refine hs.advance hy hlive hsteady rfl rfl rfl hs.reference ⟨nofun, nofun, ?_, ?_⟩
              · intro since h
                cases h
                have hbefore := hs.lt_of_completed hy hlive hmem hcompleted
                refine ⟨hbefore, fun u harchivable => ?_⟩
                refine hs.reference ref hmem hcompleted u harchivable (fun hemptied => ?_)
                have hkept := hkeeps y hfound hmode (fun h => by rw [h] at href; cases href) u hemptied
                rw [harchivable] at hkept
                cases hkept
              · intro h
                rw [show y.worker.full = true from h] at hfull
                cases hfull
  | delete hphase =>
      have hsince := hconsistent.full (hconsistent.deleting hphase)
      refine hs.advance hy hlive hsteady rfl rfl rfl ?_ ⟨nofun, nofun, ?_, ?_⟩
      · intro r hr _ u _ hkept
        exact absurd (mem_allTypes u) hkept
      · intro since h
        rw [show y.worker.since = some since from h] at hsince
        cases hsince
      · exact fun _ _ r hr => absurd hr (IndexedTable.not_mem_empty r)
  | @discoverNone u listing hphase hlisted =>
      have hwhole := hkeeps y hfound u hphase
      rw [hlisted] at hwhole
      have hpending := @pending_listed s y u s.inventory y.job.startedAt
        (fun since hsince => (hcopies.trusted since hsince).2 u)
      rw [← Option.some.inj hwhole] at hpending
      have hdone := hpending.upTo
      refine hs.advance hy hlive hsteady rfl rfl rfl ?_ (hcopies.leaveType ?_ ?_ hdone)
      · exact hs.reference_leave hy hlive hs.reference hdone
      · rw [hphase]
        rfl
      · rw [hphase]
        rfl
  | @discover u listing items hphase hlisted =>
      have hwhole := hkeeps y hfound u hphase
      rw [hlisted] at hwhole
      cases hwhole
      refine hs.advance hy hlive hsteady rfl rfl rfl hs.reference ⟨fun v hv => ?_, ?_,
        hcopies.trusted, fun hfull _ => hcopies.synced hfull (by rw [hphase]; rfl)⟩
      · refine hcopies.written v ?_
        rw [hphase]
        exact hv
      · intro v items hitems
        cases hitems
        exact ⟨pending_listed (fun since hsince => (hcopies.trusted since hsince).2 u),
          nodup_listed s y u⟩
  | @load u items hphase =>
      refine hs.advance hy hlive hsteady rfl rfl rfl hs.reference (hcopies.enter ?_ ?_ ?_)
      · rw [hphase]
        rfl
      · rw [hphase]
        rfl
      · rw [hphase]
        rfl
  | @flushLast u existing items rows nextId hphase hflush =>
      obtain ⟨hwritten, hwrites⟩ := hcopies.flush hphase (List.append_nil items).symm hflush
      have hdone : UpTo (sourceOf s.server) (copyOf rows) (keysOf u) y.job.startedAt :=
        (hwritten.pending u [] rfl).1.upTo
      have hcurrent := (hcopies.pending u items (by rw [hphase]; rfl)).1
      refine hs.advance hy hlive hsteady rfl rfl rfl ?_ (hwritten.leaveType rfl rfl hdone)
      refine hs.reference_leave hy hlive (fun r hr hcompleted v harchivable hkept => ?_) hdone
      have hle := (hs.tracks y hy hlive).newest r hr
      exact (hs.reference r hr hcompleted v harchivable hkept).write hwrites
        (hcurrent.current_of_le hle)
  | @flush u existing items rows nextId hphase hflush =>
      obtain ⟨hwritten, hwrites⟩ := hcopies.flush hphase (List.take_append_drop batchSize items).symm
        hflush
      have hcurrent := (hcopies.pending u items (by rw [hphase]; rfl)).1
      refine hs.advance hy hlive hsteady rfl rfl rfl ?_ hwritten
      intro r hr hcompleted v harchivable hkept
      have hle := (hs.tracks y hy hlive).newest r hr
      refine (hs.reference r hr hcompleted v harchivable hkept).write hwrites ?_
      exact fun p hp => hcurrent.current_of_le hle p
        (List.map_subset _ (List.take_subset _ _) hp)
  | markStale hphase =>
      have hfull := hconsistent.markingStale hphase
      have hsame := map_markStale (hcopies.synced hfull (by rw [hphase]; rfl))
      rw [hsame] at hsteady ⊢
      refine hs.advance hy hlive hsteady rfl rfl rfl hs.reference (hcopies.enter ?_ ?_ ?_)
      · rw [hphase]
        rfl
      · rw [hphase]
        rfl
      · rw [hphase]
        rfl
  | complete hphase =>
      refine hs.finish hy hlive hsteady ⟨rfl, rfl, rfl, rfl⟩ (fun c hc => ?_) rfl (fun _ => ?_)
      · rcases List.mem_cons.mp hc with rfl | hold
        · exact hs.completion hy hphase
        · exact hs.missesNone c hold
      · rw [hphase]
        exact ⟨rfl, rfl⟩
  | fail =>
      exact hs.finish hy hlive hsteady ⟨rfl, rfl, rfl, rfl⟩ hs.missesNone rfl nofun
  | unmarked =>
      refine hs.finish hy hlive hsteady ⟨rfl, rfl, rfl, rfl⟩ hs.missesNone rfl (fun h => ?_)
      have hrunning := hs.running y hy hlive
      rw [h] at hrunning
      cases hrunning

/-- A change of the ad server leaves the copy behind it. -/
theorem Copied.changed
    {k : Key} {server : AdServer}
    (hs : Copied s)
    (hsteady : Steady (s.serverChanged k server))
    (hothers : ∀ k', k' ≠ k → server.find k' = s.server.find k')
    (hdated : ∀ v m, sourceOf server k = some (v, m) → m = s.now ∧
      ∀ y ∈ s.syncs, y.hasListed k.1 → y.job.startedAt < s.now) :
    Copied (s.serverChanged k server) where
  toSteady := hsteady
  reference := fun r' hr' hcompleted u harchivable hkept => by
    have hmem : r' ∈ s.syncs.map (Sync.touch k) (fun _ => rfl) := hr'
    obtain ⟨r, hr, rfl⟩ := (IndexedTable.mem_map s.syncs).mp hmem
    refine (hs.reference r hr hcompleted u harchivable hkept).change
      (fun k' hk' => sourceOf_congr (hothers k' hk')) ?_
    rintro rfl v m hsrc
    obtain ⟨rfl, hlate⟩ := hdated v m hsrc
    exact hlate r hr (.inl hcompleted)
  copies := fun y' hy' hlive => by
    have hmem : y' ∈ s.syncs.map (Sync.touch k) (fun _ => rfl) := hy'
    obtain ⟨y, hy, rfl⟩ := (IndexedTable.mem_map s.syncs).mp hmem
    exact (hs.copies y hy hlive).change hlive (hs.started y hy) hothers
      (fun v m hsrc => ⟨(hdated v m hsrc).1, (hdated v m hsrc).2 y hy⟩)
  missesNone := hs.missesNone

theorem copied_of_step
    (hs : Copied s)
    (h : Happened s e t)
    (hsole : SoleStart s e)
    (hkeeps : KeepsAll s e) :
    Copied t := by
  have hsteady := steady_of_step hs.toSteady h hsole
  cases h with
  | tick hle => exact ⟨hsteady, hs.reference, hs.copies, hs.missesNone⟩
  | @store item hdated harchived =>
      refine hs.changed hsteady (fun k => find_put_item s.server item) (fun v m hsrc => ?_)
      obtain ⟨hmirrored, rfl⟩ := sourceOf_put hsrc
      exact ⟨hdated, hkeeps hmirrored⟩
  | remove =>
      exact hs.changed hsteady (fun k' => find_remove_item s.server)
        (fun v m hsrc => absurd hsrc sourceOf_remove)
  | check => exact ⟨hsteady, hs.reference, hs.copies, hs.missesNone⟩
  | checkStale hy hstale =>
      rw [hs.not_stale hy] at hstale
      cases hstale
  | @insert mode syncs hinsert =>
      refine ⟨hsteady, fun r hr hcompleted => ?_, fun y hy hlive => ?_, hs.missesNone⟩
      · rcases (IndexedTable.mem_insert hinsert r).mp hr with rfl | hold
        · cases hcompleted
        · exact hs.reference r hold hcompleted
      · rcases (IndexedTable.mem_insert hinsert y).mp hy with rfl | hold
        · exact ⟨nofun, nofun, nofun, nofun⟩
        · exact absurd (hs.running y hold hlive) (hsole y hold)
  | work hy hmoved => exact hs.moved hsteady hy hmoved hkeeps
  | @crash y hy hlive =>
      refine hs.finish hy hlive hsteady ⟨rfl, rfl, rfl, rfl⟩ hs.missesNone rfl (fun h => ?_)
      have hrunning := hs.running y hy hlive
      rw [h] at hrunning
      cases hrunning
  | @reset y hy hrunning =>
      refine ⟨hsteady, fun r hr hcompleted => ?_, fun z hz hlive => ?_, hs.missesNone⟩
      · rcases mem_setSync hr with rfl | ⟨hold, -⟩
        · cases hcompleted
        · exact hs.reference r hold hcompleted
      · rcases mem_setSync hz with rfl | ⟨hold, -⟩
        · have hended := hsole y (find_sync.mpr ⟨hy, rfl⟩)
          rw [show y.worker.phase.live = true from hlive] at hended
          cases hended
        · exact hs.copies z hold hlive

theorem Service.Initial.copied
    (h : s.Initial) :
    Copied s where
  toSteady := h.steady
  reference := fun r hr => absurd hr (h.not_mem r)
  copies := fun y hy => absurd hy (h.not_mem y)
  missesNone := fun c hc => by
    rw [h.completions] at hc
    exact absurd hc List.not_mem_nil

end Missing

end Inventory
end SalesAgent
