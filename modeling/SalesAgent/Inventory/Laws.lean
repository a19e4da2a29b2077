import SalesAgent.Inventory.Mirror

/-!
# The laws of the inventory mirror

A completed sync leaves exactly what the ad server had when it started, one sync writes at a
time, and no dead thread blocks the syncs after it: each holds along every run whose steps
meet its condition.  A full sync that fails behind its deletion, an item that is archived, a
second start between the check and the insert of a first, and a thread that dies break them.

**Results.**
* `mirror_laws`: the laws, for every run.
* `mirror_unkept`: runs that break them.
-/

namespace SalesAgent
namespace Inventory

open Runs (Run Restrict)
open Refresh (Writes UpTo Pending Within)

section Leaving

variable {s t : Service} {y : Sync} {e : SyncEvent}

/-- The completed sync leaves nothing behind: the item of every row in use was there, and was
to be mirrored, unless it has changed since. -/
def Completion.LeavesNone
    (c : Completion) : Prop :=
  ∀ r ∈ c.rows, r.status ≠ .stale → r.key ∉ c.changed →
    ∃ i ∈ c.found, i.key = r.key ∧ i.mirrored = true

/-- The keys a sync may leave rows of. -/
def Sync.allowed
    (y : Sync) : Set Key :=
  fun k => k ∈ y.worker.changed ∨ ∃ i ∈ y.worker.found, i.key = k ∧ i.mirrored = true

/-- Where the rows are from that a thread leaves. -/
structure Trims
    (rows : InventoryRows)
    (y : Sync) : Prop where
  listed : ∀ u : InventoryType, u.index < y.worker.phase.listed →
    Within (copyOf rows) (keysOf u) y.allowed
  pending : ∀ u items, y.worker.phase.pending = some (u, items) →
    (items.map Item.key).Nodup ∧ ∀ i ∈ items, i.inventoryType = u ∧ i.key ∈ y.allowed
  cleared : y.worker.full = true → y.worker.phase.pastDelete = true → ∀ u : InventoryType,
    y.worker.phase.listed ≤ u.index → Within (copyOf rows) (keysOf u) ∅

/-- The state of the rows in sole runs. -/
structure Trimmed
    (s : Service) : Prop extends Steady s where
  trims : ∀ y ∈ s.syncs, y.worker.phase.live = true → Trims s.inventory y
  leavesNone : ∀ c ∈ s.completions, c.LeavesNone

/-- A sync that is not full comes, when it lists a type, across no row in use whose item is
gone or archived. -/
def MeetsNoGone
    (s : Service) : SyncEvent → Prop
  | .work id (.discover _) => ∀ y, s.syncs.find id = some y → y.worker.full = false →
      ∀ u, y.worker.phase = .discovering u → ∀ r ∈ s.inventory, r.inventoryType = u →
        r.status ≠ .stale → ∃ i ∈ s.server, i.key = r.key ∧ i.mirrored = true
  | _ => True

theorem mirrored_of_selects
    {since : Option DateTime} {i : Item}
    (harchives : i.status = .archived → i.inventoryType.archivable = true)
    (h : (statementOf since i.inventoryType).selects i = true) :
    i.mirrored = true := by
  unfold Statement.selects at h
  obtain ⟨hrest, -⟩ := Bool.and_eq_true_iff.mp h
  obtain ⟨hstatus, hparty⟩ := Bool.and_eq_true_iff.mp hrest
  have hkept : i.inventoryType.archivable = false → i.status ≠ .archived := by
    intro hfalse harchived
    rw [harchives harchived] at hfalse
    cases hfalse
  unfold Item.mirrored
  cases htype : i.inventoryType with
  | adUnit => simpa [htype, statementOf, discoverAdUnits] using hstatus
  | placement => simpa [htype, statementOf, discoverPlacements] using hstatus
  | label => simpa [htype] using hkept (by rw [htype]; rfl)
  | customTargetingKey => simpa [htype] using hkept (by rw [htype]; rfl)
  | audienceSegment =>
      have hfirst : i.firstParty = true := by
        simpa [htype, statementOf, discoverAudienceSegments] using hparty
      simpa [hfirst] using hkept (by rw [htype]; rfl)

theorem sublist_of_discovered
    {u : InventoryType} {items found : List Item} {listing : Listing}
    (h : discovered u items listing = some found) :
    found.Sublist items := by
  cases listing with
  | whole =>
      cases h
      exact List.Sublist.refl _
  | cutShort listed =>
      obtain ⟨-, heq⟩ := Option.ite_none_right_eq_some.mp h
      cases heq
      exact List.take_sublist _ _
  | typeError =>
      obtain ⟨-, heq⟩ := Option.ite_none_right_eq_some.mp h
      cases heq
      exact List.nil_sublist _

theorem Steady.allowed_of_mem
    (hs : Steady s)
    (hy : y ∈ s.syncs)
    (hlive : y.worker.phase.live = true)
    {i : Item}
    (hi : i ∈ s.server)
    (hmirrored : i.mirrored = true) :
    i.key ∈ y.allowed := by
  by_cases hchanged : i.key ∈ y.worker.changed
  · exact .inl hchanged
  · have hfind := (hs.tracks y hy hlive).found i.key hchanged
    rw [find_item.mpr ⟨hi, rfl⟩] at hfind
    exact .inr ⟨i, (find_item.mp hfind.symm).1, rfl, hmirrored⟩

theorem isSome_copyOf_markStale
    {rows : InventoryRows} {syncTime : DateTime} {k : Key}
    (h : (copyOf (rows.map (GAMInventory.markStale syncTime) (markStale_uniqueKey syncTime))
      k).isSome) :
    (copyOf rows k).isSome := by
  obtain ⟨v, hv⟩ := Option.isSome_iff_exists.mp h
  obtain ⟨r', hr', hkey, hcurrent, -⟩ := copyOf_eq_some.mp hv
  obtain ⟨r, hr, rfl⟩ := (IndexedTable.mem_map rows).mp hr'
  have hsame : r.markStale syncTime = r := by
    unfold GAMInventory.markStale at hcurrent ⊢
    split at hcurrent
    · exact absurd rfl hcurrent
    · next hfresh => rw [if_neg hfresh]
  rw [hsame] at hkey hcurrent
  exact Option.isSome_iff_exists.mpr ⟨_, copyOf_eq_some.mpr ⟨r, hr, hkey, hcurrent, rfl⟩⟩

/-- A thread that has trimmed the same. -/
theorem Trims.enter
    {rows rows' : InventoryRows}
    (h : Trims rows y)
    {phase : Phase}
    (hrows : ∀ k, (copyOf rows' k).isSome → (copyOf rows k).isSome)
    (hlisted : phase.listed = y.worker.phase.listed)
    (hpending : ∀ u items, phase.pending = some (u, items) →
      ∃ items', y.worker.phase.pending = some (u, items') ∧ items.Sublist items')
    (hpast : y.worker.phase.pastDelete = true) :
    Trims rows' ⟨y.syncId, y.job, { y.worker with phase := phase }⟩ where
  listed := fun u hu k hk hsome => h.listed u (hlisted ▸ hu) k hk (hrows k hsome)
  pending := fun u items hitems => by
    obtain ⟨items', hitems', hsub⟩ := hpending u items hitems
    obtain ⟨hnodup, hall⟩ := h.pending u items' hitems'
    exact ⟨hnodup.sublist (hsub.map _), fun i hi => hall i (hsub.subset hi)⟩
  cleared := fun hfull _ u hu k hk hsome =>
    h.cleared hfull hpast u (hlisted ▸ hu) k hk (hrows k hsome)

/-- A batch of the pending items. -/
theorem Trims.flush
    {rows rows' : InventoryRows} {u : InventoryType} {existing : List (String × Nat)}
    {items batch : List Item}
    (h : Trims rows y)
    (hphase : y.worker.phase = .writing u existing items)
    (hbatch : batch ⊆ items)
    (hwrites : Writes (copyOf rows) (copyOf rows') (batch.map Item.entry)) :
    Trims rows' y where
  listed := fun v hv => (h.listed v hv).write hwrites (fun p hp _ => by
    obtain ⟨i, hi, rfl⟩ := List.mem_map.mp hp
    exact ((h.pending u items (by rw [hphase]; rfl)).2 i (hbatch hi)).2)
  pending := h.pending
  cleared := fun hfull hpast v hv => (h.cleared hfull hpast v hv).write hwrites (fun p hp hkey => by
    obtain ⟨i, hi, rfl⟩ := List.mem_map.mp hp
    have htype := ((h.pending u items (by rw [hphase]; rfl)).2 i (hbatch hi)).1
    rw [hphase] at hv
    have hvu : v = u := (show i.inventoryType = v from hkey).symm.trans htype
    subst hvu
    exact absurd hv (Nat.not_succ_le_self _))

/-- The one thread that is alive takes a step that does not end it. -/
theorem Trimmed.advance
    {u : Service} {worker : Worker}
    (hs : Trimmed s)
    (hy : y ∈ s.syncs)
    (hlive : y.worker.phase.live = true)
    {job : SyncJob}
    (hsteady : Steady (u.setSync y job worker))
    (hsyncs : u.syncs = s.syncs)
    (hcompletions : ∀ c ∈ u.completions, c.LeavesNone)
    (htrims : worker.phase.live = true → Trims u.inventory ⟨y.syncId, job, worker⟩) :
    Trimmed (u.setSync y job worker) where
  toSteady := hsteady
  trims := fun z hz hzlive => by
    rcases mem_setSync hz with rfl | ⟨hold, hne⟩
    · exact htrims hzlive
    · exact absurd hzlive (hs.not_live_other hy hlive (hsyncs ▸ hold) hne)
  leavesNone := hcompletions

/-- What a listing trims. -/
theorem Trimmed.listing
    {u : InventoryType} {listing : Listing} {items : List Item} {phase : Phase}
    (hs : Trimmed s)
    (hy : y ∈ s.syncs)
    (hphase : y.worker.phase = .discovering u)
    (hlisted : discovered u (s.listed y u) listing = some items)
    (hgone : MeetsNoGone s (.work y.syncId (.discover listing)))
    (hnext : phase.listed = u.index + 1)
    (hpending : ∀ v found, phase.pending = some (v, found) → v = u ∧ found = items) :
    Trims s.inventory ⟨y.syncId, y.job, { y.worker with phase := phase }⟩ := by
  have hlive : y.worker.phase.live = true := by
    rw [hphase]
    rfl
  have hpast : y.worker.phase.pastDelete = true := by
    rw [hphase]
    rfl
  have hbefore : y.worker.phase.listed = u.index := by
    rw [hphase]
    rfl
  have htrims := hs.trims y hy hlive
  refine ⟨fun v hv => ?_, fun v found hfound => ?_, fun hfull _ v hv => ?_⟩
  · rw [show ({ y.worker with phase := phase } : Worker).phase.listed = u.index + 1 from hnext]
      at hv
    rcases Nat.lt_or_ge v.index u.index with hless | hge
    · exact htrims.listed v (hbefore ▸ hless)
    · obtain rfl := eq_of_index (Nat.le_antisymm (Nat.le_of_lt_succ hv) hge)
      cases hfull : y.worker.full with
      | true =>
          exact (htrims.cleared hfull hpast v hbefore.le).mono (Set.empty_subset _)
      | false =>
          intro k hk hsome
          obtain ⟨w, hw⟩ := Option.isSome_iff_exists.mp hsome
          obtain ⟨r, hr, rfl, hcurrent, -⟩ := copyOf_eq_some.mp hw
          obtain ⟨i, hi, hkey, hmirrored⟩ :=
            hgone y (find_sync.mpr ⟨hy, rfl⟩) hfull v hphase r hr hk hcurrent
          rw [← hkey]
          exact hs.allowed_of_mem hy hlive hi hmirrored
  · obtain ⟨rfl, rfl⟩ := hpending v found hfound
    have hsub := sublist_of_discovered hlisted
    refine ⟨(nodup_listed s y v).sublist (hsub.map _), fun i hi => ?_⟩
    obtain ⟨hserver, htype, hselects⟩ := mem_listed.mp (hsub.subset hi)
    rw [← htype] at hselects
    exact ⟨htype, hs.allowed_of_mem hy hlive hserver
      (mirrored_of_selects (hs.archives i hserver) hselects)⟩
  · rw [show ({ y.worker with phase := phase } : Worker).phase.listed = u.index + 1 from hnext]
      at hv
    refine htrims.cleared hfull hpast v ?_
    rw [hbefore]
    exact Nat.le_of_succ_le hv

theorem Trims.of_nothing
    {rows : InventoryRows} {worker : Worker} {job : SyncJob} {id : Int}
    (hlisted : worker.phase.listed = 0)
    (hpending : worker.phase.pending = none)
    (hcleared : worker.full = true → worker.phase.pastDelete = true → rows = .empty) :
    Trims rows ⟨id, job, worker⟩ where
  listed := fun u hu => by
    rw [show (Sync.mk id job worker).worker.phase.listed = 0 from hlisted] at hu
    cases hu
  pending := fun u items h => by
    rw [show (Sync.mk id job worker).worker.phase.pending = none from hpending] at h
    cases h
  cleared := fun hfull hpast u _ k _ hsome => by
    rw [hcleared hfull hpast] at hsome
    cases hsome

/-- A step of the one thread. -/
theorem Trimmed.moved
    {move : Move}
    (hs : Trimmed s)
    (hsteady : Steady t)
    (hy : y ∈ s.syncs)
    (h : Moved s y move t)
    (hgone : MeetsNoGone s (.work y.syncId move)) :
    Trimmed t := by
  have hlive := h.live
  have htrims := hs.trims y hy hlive
  have hconsistent := (hs.tracks y hy hlive).consistent
  cases h with
  | @start last hphase hlast =>
      obtain ⟨hfull, -⟩ := hconsistent.starting hphase
      have hnotFull : ∀ {P : Prop}, y.worker.full = true → P := fun h => by
        rw [h] at hfull
        cases hfull
      unfold Service.startThread Service.beginTypes at hsteady ⊢
      cases hmode : y.worker.mode with
      | full =>
          rw [hmode] at hsteady
          exact hs.advance hy hlive hsteady rfl hs.leavesNone (fun _ => .of_nothing rfl rfl nofun)
      | other =>
          rw [hmode] at hsteady
          exact hs.advance hy hlive hsteady rfl hs.leavesNone
            (fun _ => .of_nothing rfl rfl (fun h => hnotFull h))
      | incremental =>
          rw [hmode] at hsteady
          dsimp only at hsteady ⊢
          cases href : last.bind s.syncs.find with
          | none =>
              rw [href] at hsteady
              exact hs.advance hy hlive hsteady rfl hs.leavesNone
                (fun _ => .of_nothing rfl rfl nofun)
          | some ref =>
              rw [href] at hsteady
              exact hs.advance hy hlive hsteady rfl hs.leavesNone
                (fun _ => .of_nothing rfl rfl (fun h => hnotFull h))
  | delete hphase =>
      exact hs.advance hy hlive hsteady rfl hs.leavesNone
        (fun _ => .of_nothing rfl rfl (fun _ _ => rfl))
  | @discoverNone u listing hphase hlisted =>
      refine hs.advance hy hlive hsteady rfl hs.leavesNone (fun _ => ?_)
      refine hs.listing hy hphase hlisted hgone (after_listed _ u) (fun v found h => ?_)
      rw [after_pending] at h
      cases h
  | @discover u listing items hphase hlisted =>
      refine hs.advance hy hlive hsteady rfl hs.leavesNone (fun _ => ?_)
      refine hs.listing hy hphase hlisted hgone rfl (fun v found h => ?_)
      cases h
      exact ⟨rfl, rfl⟩
  | @load u items hphase =>
      refine hs.advance hy hlive hsteady rfl hs.leavesNone (fun _ => ?_)
      refine htrims.enter (fun _ hsome => hsome) ?_ (fun v found h => ?_) ?_
      · rw [hphase]
        rfl
      · cases h
        exact ⟨items, by rw [hphase]; rfl, List.Sublist.refl _⟩
      · rw [hphase]
        rfl
  | @flushLast u existing items rows nextId hphase hflush =>
      refine hs.advance hy hlive hsteady rfl hs.leavesNone (fun _ => ?_)
      have hflushed := htrims.flush hphase (List.Subset.refl _)
        (flushBatch_writes hflush (htrims.pending u items (by rw [hphase]; rfl)).1)
      refine hflushed.enter (fun _ hsome => hsome) ?_ (fun v found h => ?_) ?_
      · rw [after_listed, hphase]
        rfl
      · rw [after_pending] at h
        cases h
      · rw [hphase]
        rfl
  | @flush u existing items rows nextId hphase hflush =>
      refine hs.advance hy hlive hsteady rfl hs.leavesNone (fun _ => ?_)
      have hnodup := (htrims.pending u items (by rw [hphase]; rfl)).1
      have hflushed := htrims.flush hphase (List.take_subset _ _)
        (flushBatch_writes hflush (hnodup.sublist ((List.take_sublist _ _).map _)))
      refine hflushed.enter (fun _ hsome => hsome) ?_ (fun v found h => ?_) ?_
      · rw [hphase]
        rfl
      · cases h
        exact ⟨items, by rw [hphase]; rfl, List.drop_sublist _ _⟩
      · rw [hphase]
        rfl
  | markStale hphase =>
      refine hs.advance hy hlive hsteady rfl hs.leavesNone (fun _ => ?_)
      refine htrims.enter (fun _ => isSome_copyOf_markStale) ?_ nofun ?_
      · rw [hphase]
        rfl
      · rw [hphase]
        rfl
  | complete hphase =>
      refine hs.advance hy hlive hsteady rfl (fun c hc => ?_) nofun
      rcases List.mem_cons.mp hc with rfl | hold
      · intro r hr hcurrent hunchanged
        have hlisted : r.inventoryType.index < y.worker.phase.listed := by
          rw [hphase]
          exact index_lt_of_type _
        have hallowed := htrims.listed r.inventoryType hlisted r.key rfl
          (Option.isSome_iff_exists.mpr ⟨_, copyOf_eq_some.mpr ⟨r, hr, rfl, hcurrent, rfl⟩⟩)
        rcases hallowed with hchanged | hfound
        · exact absurd hchanged hunchanged
        · exact hfound
      · exact hs.leavesNone c hold
  | fail => exact hs.advance hy hlive hsteady rfl hs.leavesNone nofun
  | unmarked => exact hs.advance hy hlive hsteady rfl hs.leavesNone nofun

theorem Trims.touch
    {rows : InventoryRows} {k : Key}
    (h : Trims rows y) :
    Trims rows (y.touch k) := by
  have hallowed : y.allowed ⊆ (y.touch k).allowed := fun k' hk' =>
    hk'.imp_left (List.mem_cons_of_mem k)
  refine ⟨fun u hu => (h.listed u hu).mono hallowed, fun u items hitems => ?_, h.cleared⟩
  obtain ⟨hnodup, hall⟩ := h.pending u items hitems
  exact ⟨hnodup, fun i hi => ⟨(hall i hi).1, hallowed (hall i hi).2⟩⟩

theorem Trimmed.changed
    {k : Key} {server : AdServer}
    (hs : Trimmed s)
    (hsteady : Steady (s.serverChanged k server)) :
    Trimmed (s.serverChanged k server) where
  toSteady := hsteady
  trims := fun y' hy' hlive => by
    have hmem : y' ∈ s.syncs.map (Sync.touch k) (fun _ => rfl) := hy'
    obtain ⟨y, hy, rfl⟩ := (IndexedTable.mem_map s.syncs).mp hmem
    exact (hs.trims y hy hlive).touch
  leavesNone := hs.leavesNone

theorem trimmed_of_step
    (hs : Trimmed s)
    (h : Happened s e t)
    (hsole : SoleStart s e)
    (hgone : MeetsNoGone s e) :
    Trimmed t := by
  have hsteady := steady_of_step hs.toSteady h hsole
  cases h with
  | tick => exact ⟨hsteady, hs.trims, hs.leavesNone⟩
  | store => exact hs.changed hsteady
  | remove => exact hs.changed hsteady
  | check => exact ⟨hsteady, hs.trims, hs.leavesNone⟩
  | checkStale hy hstale =>
      rw [hs.not_stale hy] at hstale
      cases hstale
  | @insert mode syncs hinsert =>
      refine ⟨hsteady, fun y hy hlive => ?_, hs.leavesNone⟩
      rcases (IndexedTable.mem_insert hinsert y).mp hy with rfl | hold
      · exact .of_nothing rfl rfl (fun hfull => by cases hfull)
      · exact absurd (hs.running y hold hlive) (hsole y hold)
  | work hy hmoved => exact hs.moved hsteady hy hmoved hgone
  | @crash y hy hlive =>
      exact hs.advance hy hlive hsteady rfl hs.leavesNone (fun hdead => by cases hdead)
  | @reset y hy hrunning =>
      refine ⟨hsteady, fun z hz hlive => ?_, hs.leavesNone⟩
      rcases mem_setSync hz with rfl | ⟨hold, -⟩
      · have hended := hsole y (find_sync.mpr ⟨hy, rfl⟩)
        rw [show y.worker.phase.live = true from hlive] at hended
        cases hended
      · exact hs.trims z hold hlive

theorem Service.Initial.trimmed
    (h : s.Initial) :
    Trimmed s where
  toSteady := h.steady
  trims := fun y hy => absurd hy (h.not_mem y)
  leavesNone := fun c hc => by
    rw [h.completions] at hc
    exact absurd hc List.not_mem_nil

end Leaving

section Blocking

variable {s t start : Service} {y : Sync} {e : SyncEvent} {es : List SyncEvent}

/-- The job runs, and its thread has ended. -/
def Sync.Abandoned
    (y : Sync) : Prop :=
  y.job.status = .running ∧ y.worker.phase.live = false

/-- Every later start is refused, whatever happens, until an administrator resets the job. -/
def Service.BlockedBy
    (s : Service)
    (y : Sync) : Prop :=
  ∀ es t, Run SyncStep s es t → .reset y.syncId ∉ es → ∃ refusal, t.checkStart = .error refusal

/-- No job whose thread has died blocks the starts after it for ever. -/
def Service.NeverBlocks
    (s : Service) : Prop :=
  ∀ y ∈ s.syncs, y.Abandoned → ¬ s.BlockedBy y

theorem recorded_of_run
    (hs : Recorded s)
    (hrun : Run SyncStep s es t) :
    Recorded t := by
  have hpreserved : Runs.Preserved SyncStep Recorded := fun s e t h hs =>
    recorded_of_step hs (happened_of_step h)
  exact hrun.preserves hpreserved hs

theorem abandoned_of_step
    (hs : Recorded s)
    (hy : y ∈ s.syncs)
    (habandoned : y.Abandoned)
    (h : Happened s e t)
    (hreset : e ≠ .reset y.syncId) :
    ∃ y' ∈ t.syncs, y'.syncId = y.syncId ∧ y'.Abandoned := by
  obtain ⟨y', hy', heq⟩ := h.evolves_to hy
  refine ⟨y', hy', heq.syncId, ?_, ?_⟩
  · rcases heq.status with hsame | ⟨-, hended | hadmin | hstale⟩
    · exact hsame.trans habandoned.1
    · rw [habandoned.2] at hended
      cases hended.1
    · exact absurd hadmin hreset
    · rw [hs.not_stale hy] at hstale
      cases hstale
  · cases hlive : y'.worker.phase.live with
    | false => rfl
    | true =>
        have hwas := heq.live hlive
        rw [habandoned.2] at hwas
        cases hwas

/-- While a job runs, a start is refused. -/
theorem checkStart_refused
    (hs : Recorded s)
    (hy : y ∈ s.syncs)
    (hrunning : y.job.status = .running) :
    ∃ refusal, s.checkStart = .error refusal := by
  unfold Service.checkStart
  cases hfind : s.syncs.rows.find? (fun z => y.job.status = z.job.status) with
  | none =>
      have hno := List.find?_eq_none.mp hfind y hy
      simp at hno
  | some existing =>
      have hmem : existing ∈ s.syncs := List.mem_of_find?_eq_some hfind
      have hsame : s.syncs.rows.find? (fun z => z.job.status = .running) = some existing := by
        rw [← hfind, hrunning]
        simp only [eq_comm]
      rw [hsame]
      dsimp only
      rw [hs.not_stale hmem]
      exact ⟨_, rfl⟩

theorem blockedBy_of_abandoned
    (hs : Recorded s)
    (hy : y ∈ s.syncs)
    (habandoned : y.Abandoned) :
    s.BlockedBy y := by
  intro es t hrun hreset
  induction hrun generalizing y with
  | nil => exact checkStart_refused hs hy habandoned.1
  | cons hstep hrest ih =>
      have h := happened_of_step hstep
      obtain ⟨hfirst, hlater⟩ := not_or.mp (fun hor => hreset (List.mem_cons.mpr hor))
      obtain ⟨y', hy', hid, habandoned'⟩ :=
        abandoned_of_step hs hy habandoned h (fun heq => hfirst heq.symm)
      exact ih (recorded_of_step hs h) hy' habandoned' (hid ▸ hlater)

/-- No thread dies, and each that ends can mark its job. -/
def Survives
    (_ : Service) : SyncEvent → Prop
  | .crash _ => False
  | .work _ move => move ≠ .complete false ∧ move ≠ .fail false
  | _ => True

/-- A thread that marks its job leaves it running only while it lives. -/
theorem Moved.survives
    {move : Move} {y' : Sync}
    (h : Moved s y move t)
    (hkept : move ≠ .complete false ∧ move ≠ .fail false)
    (hy' : y' ∈ t.syncs)
    (hid : y'.syncId = y.syncId) :
    y'.job.status ≠ .running ∨ y'.worker.phase.live = true := by
  cases h with
  | start hphase hlast =>
      unfold Service.startThread Service.beginTypes at hy'
      split at hy'
      · obtain rfl := eq_of_mem_setSync hy' hid
        exact .inr rfl
      · obtain rfl := eq_of_mem_setSync hy' hid
        exact .inr rfl
      · split at hy'
        · obtain rfl := eq_of_mem_setSync hy' hid
          exact .inr rfl
        · obtain rfl := eq_of_mem_setSync hy' hid
          exact .inr rfl
  | delete hphase =>
      obtain rfl := eq_of_mem_setSync hy' hid
      exact .inr rfl
  | discoverNone hphase hlisted =>
      obtain rfl := eq_of_mem_setSync hy' hid
      exact .inr (after_live _ _)
  | discover hphase hlisted =>
      obtain rfl := eq_of_mem_setSync hy' hid
      exact .inr rfl
  | load hphase =>
      obtain rfl := eq_of_mem_setSync hy' hid
      exact .inr rfl
  | flushLast hphase hflush =>
      obtain rfl := eq_of_mem_setSync hy' hid
      exact .inr (after_live _ _)
  | flush hphase hflush =>
      obtain rfl := eq_of_mem_setSync hy' hid
      exact .inr rfl
  | markStale hphase =>
      obtain rfl := eq_of_mem_setSync hy' hid
      exact .inr rfl
  | complete hphase =>
      obtain rfl := eq_of_mem_setSync hy' hid
      exact .inl (fun h => by cases h)
  | fail hlive =>
      obtain rfl := eq_of_mem_setSync hy' hid
      exact .inl (fun h => by cases h)
  | unmarked hmove hlive => exact absurd hmove (not_or.mpr hkept)

theorem none_abandoned_of_step
    (hs : ∀ y ∈ s.syncs, ¬ y.Abandoned)
    (h : Happened s e t)
    (hsurvives : Survives s e) :
    ∀ y ∈ t.syncs, ¬ y.Abandoned := by
  intro y' hy' habandoned
  have hset : ∀ (y : Sync) (job : SyncJob), y ∈ s.syncs →
      (job.status = .running → y.job.status = .running) →
        ¬ y' ∈ (s.setSync y job y.worker).syncs := by
    intro y job hy hran hmem
    rcases mem_setSync hmem with rfl | ⟨hold, -⟩
    · exact hs y hy ⟨hran habandoned.1, habandoned.2⟩
    · exact hs y' hold habandoned
  have hmap : ∀ k server, ¬ y' ∈ (s.serverChanged k server).syncs := by
    intro k server hmem
    have hmem' : y' ∈ s.syncs.map (Sync.touch k) (fun _ => rfl) := hmem
    obtain ⟨y, hy, rfl⟩ := (IndexedTable.mem_map s.syncs).mp hmem'
    exact hs y hy habandoned
  cases h with
  | tick => exact hs y' hy' habandoned
  | @store item => exact hmap item.key _ hy'
  | @remove k => exact hmap k _ hy'
  | check => exact hs y' hy' habandoned
  | checkStale hy hstale => exact hset _ _ hy (fun h => by cases h) hy'
  | @insert mode syncs hinsert =>
      rcases (IndexedTable.mem_insert hinsert y').mp hy' with rfl | hold
      · cases habandoned.2
      · exact hs y' hold habandoned
  | @work y move t hy hmoved =>
      by_cases hid : y'.syncId = y.syncId
      · rcases hmoved.survives hsurvives hy' hid with hended | hlive
        · exact hended habandoned.1
        · rw [habandoned.2] at hlive
          cases hlive
      · obtain ⟨-, -, job, worker, hsyncs, -⟩ := hmoved.replaced
        rw [hsyncs] at hy'
        rcases mem_setSync hy' with rfl | ⟨hold, -⟩
        · exact hid rfl
        · exact hs y' hold habandoned
  | crash => exact hsurvives
  | reset hy hrunning => exact hset _ _ hy (fun h => by cases h) hy'

end Blocking

section Laws

variable {s start : Service} {es : List SyncEvent}

/-- The mirror after a completed sync: each row once, no item missed and none left behind. -/
structure Completion.Mirrors
    (c : Completion) : Prop where
  once : (c.rows.rows.map GAMInventory.key).Nodup
  missesNone : c.MissesNone
  leavesNone : c.LeavesNone

/-- No step that could break the mirror. -/
def Faultless
    (s : Service)
    (e : SyncEvent) : Prop :=
  SoleStart s e ∧ KeepsAll s e ∧ MeetsNoGone s e ∧ Survives s e

/-- The laws of the mirror, each with the steps it needs. -/
structure MirrorLaws
    (start : Service)
    (es : List SyncEvent)
    (s : Service) : Prop where
  once : ∀ c ∈ s.completions, (c.rows.rows.map GAMInventory.key).Nodup
  oneWriter : Run (Restrict SyncStep SoleStart) start es s → s.OneWriter
  missesNone : Run (Restrict SyncStep (fun s e => SoleStart s e ∧ KeepsAll s e)) start es s →
    ∀ c ∈ s.completions, c.MissesNone
  leavesNone : Run (Restrict SyncStep (fun s e => SoleStart s e ∧ MeetsNoGone s e)) start es s →
    ∀ c ∈ s.completions, c.LeavesNone
  unblocked : s.NeverBlocks ↔ ∀ y ∈ s.syncs, ¬ y.Abandoned
  survives : Run (Restrict SyncStep Survives) start es s → s.NeverBlocks
  asPromised : Run (Restrict SyncStep Faultless) start es s →
    (∀ c ∈ s.completions, c.Mirrors) ∧ s.OneWriter ∧ s.NeverBlocks

theorem nodup_rows
    (rows : InventoryRows) :
    (rows.rows.map GAMInventory.key).Nodup := by
  refine List.pairwise_map.mpr (rows.unique.imp ?_)
  exact fun h heq => h _ rfl (congrArg some heq.symm)

theorem missesNone_of_run
    (hstart : start.Initial)
    (hrun : Run (Restrict SyncStep (fun s e => SoleStart s e ∧ KeepsAll s e)) start es s) :
    ∀ c ∈ s.completions, c.MissesNone := by
  have hpreserved : Runs.Preserved
      (Restrict SyncStep (fun s e => SoleStart s e ∧ KeepsAll s e)) Copied :=
    fun s e t h hs => copied_of_step hs (happened_of_step h.1) h.2.1 h.2.2
  exact (hrun.preserves hpreserved hstart.copied).missesNone

theorem leavesNone_of_run
    (hstart : start.Initial)
    (hrun : Run (Restrict SyncStep (fun s e => SoleStart s e ∧ MeetsNoGone s e)) start es s) :
    ∀ c ∈ s.completions, c.LeavesNone := by
  have hpreserved : Runs.Preserved
      (Restrict SyncStep (fun s e => SoleStart s e ∧ MeetsNoGone s e)) Trimmed :=
    fun s e t h hs => trimmed_of_step hs (happened_of_step h.1) h.2.1 h.2.2
  exact (hrun.preserves hpreserved hstart.trimmed).leavesNone

theorem neverBlocks_of_run
    (hstart : start.Initial)
    (hrun : Run (Restrict SyncStep Survives) start es s) :
    s.NeverBlocks := by
  have hpreserved : Runs.Preserved (Restrict SyncStep Survives)
      (fun s => ∀ y ∈ s.syncs, ¬ y.Abandoned) :=
    fun s e t h hs => none_abandoned_of_step hs (happened_of_step h.1) h.2
  have hnone := hrun.preserves hpreserved (fun y hy => absurd hy (hstart.not_mem y))
  exact fun y hy habandoned => absurd habandoned (hnone y hy)

theorem mirror_laws
    (hstart : start.Initial)
    (hrun : Run SyncStep start es s) :
    MirrorLaws start es s where
  once := fun c _ => nodup_rows c.rows
  oneWriter := oneWriter_of_run hstart
  missesNone := missesNone_of_run hstart
  leavesNone := leavesNone_of_run hstart
  unblocked := by
    have hrecorded := recorded_of_run hstart.sole.toRecorded hrun
    refine ⟨fun hnever y hy habandoned => ?_, fun hnone y hy habandoned => ?_⟩
    · exact hnever y hy habandoned (blockedBy_of_abandoned hrecorded hy habandoned)
    · exact absurd habandoned (hnone y hy)
  survives := neverBlocks_of_run hstart
  asPromised := fun hfaultless => by
    have hone := oneWriter_of_run hstart (hfaultless.mono (fun _ _ _ h => ⟨h.1, h.2.1⟩))
    have hmisses := missesNone_of_run hstart
      (hfaultless.mono (fun _ _ _ h => ⟨h.1, h.2.1, h.2.2.1⟩))
    have hleaves := leavesNone_of_run hstart
      (hfaultless.mono (fun _ _ _ h => ⟨h.1, h.2.1, h.2.2.2.1⟩))
    have hnever := neverBlocks_of_run hstart (hfaultless.mono (fun _ _ _ h => ⟨h.1, h.2.2.2.2⟩))
    exact ⟨fun c hc => ⟨nodup_rows c.rows, hmisses c hc, hleaves c hc⟩, hone, hnever⟩

end Laws

section Samples

/-- An ad unit of the sample ad server. -/
def sampleUnit : Item where
  inventoryType := .adUnit
  id := "u1"
  details := "Homepage"
  status := .active
  firstParty := false
  lastModified := 0

/-- A tenant whose ad server has the sample unit. -/
def sampleService : Service where
  now := 0
  server := IndexedTable.empty.put sampleUnit
  inventory := .empty
  nextId := 1
  syncs := .empty
  admitted := []
  emptied := []
  completions := []

theorem sampleService_initial :
    sampleService.Initial := by
  have hmem : ∀ i ∈ sampleService.server, i = sampleUnit := fun i hi =>
    ((IndexedTable.mem_put _).mp hi).elim id (fun h => absurd h.1 (IndexedTable.not_mem_empty i))
  refine ⟨rfl, rfl, fun i hi => ?_, fun i hi harchived => ?_⟩
  · rw [hmem i hi]
    exact le_rfl
  · rw [hmem i hi] at harchived
    cases harchived

/-- A start at an instant. -/
def startEvents
    (mode : SyncMode)
    (now : DateTime) : List SyncEvent :=
  [.tick now, .check mode, .insert mode]

/-- The first full sync, at the first second: only ad units are listed. -/
def firstSync : List SyncEvent :=
  startEvents .full 1000000 ++
    ([.start none, .delete, .discover .whole, .load, .flush, .discover .whole, .discover .whole,
      .discover .whole, .discover .whole, .markStale, .complete true].map (SyncEvent.work 1))

/-- An incremental sync at the twentieth second that is answered with nothing. -/
def laterSync : List SyncEvent :=
  startEvents .incremental 20000000 ++
    ([.start (some 1), .discover .whole, .discover .whole, .discover .whole, .discover .whole,
      .discover .whole, .complete true].map (SyncEvent.work 20))

/-- The unit is archived between a full sync and an incremental one. -/
def archivedEvents : List SyncEvent :=
  firstSync ++ [.tick 10000000,
    .store { sampleUnit with status := .archived, lastModified := 10000000 }] ++ laterSync

/-- A second full sync fails behind its deletion. -/
def deletedEvents : List SyncEvent :=
  firstSync ++ startEvents .full 10000000 ++
    [.work 10 (.start none), .work 10 .delete, .work 10 (.fail true)] ++ laterSync

/-- Two starts read the running jobs before either inserts its own. -/
def racingEvents : List SyncEvent :=
  [.tick 1000000, .check .full, .check .full, .insert .full, .tick 2000000, .insert .full]

/-- The thread of a sync dies. -/
def crashedEvents : List SyncEvent :=
  startEvents .full 1000000 ++ [.crash 1]

/-- The laws after the first sync. -/
theorem mirror_laws_sample :
    ∃ s, Run SyncStep sampleService firstSync s ∧ MirrorLaws sampleService firstSync s ∧
      s.completions.length = 1 ∧ s.inventory.rows.length = 1 := by
  have hreached : (firstSync.foldlM perform sampleService).toOption.any
      (fun s => s.completions.length = 1 && s.inventory.rows.length = 1) = true := by
    decide +kernel
  obtain ⟨s, hrun, htest⟩ := Runs.exists_run_of_foldlM hreached
  obtain ⟨hone, hrow⟩ := Bool.and_eq_true_iff.mp htest
  exact ⟨s, hrun, mirror_laws sampleService_initial hrun, of_decide_eq_true hone,
    of_decide_eq_true hrow⟩

/-- Counterexample: an incremental sync leaves the row of an archived unit active; one after
a full sync that failed behind its deletion misses the unit; two threads write at once; and
the job of a dead thread blocks the tenant. -/
theorem mirror_unkept :
    sampleService.Initial ∧
    (∃ s, Run SyncStep sampleService archivedEvents s ∧ ∃ c ∈ s.completions, ¬ c.LeavesNone) ∧
    (∃ s, Run SyncStep sampleService deletedEvents s ∧ ∃ c ∈ s.completions, ¬ c.MissesNone) ∧
    (∃ s, Run SyncStep sampleService racingEvents s ∧ ¬ s.OneWriter) ∧
    ∃ s, Run SyncStep sampleService crashedEvents s ∧ ¬ s.NeverBlocks := by
  refine ⟨sampleService_initial, ?_, ?_, ?_, ?_⟩
  · have hreached : (archivedEvents.foldlM perform sampleService).toOption.any
        (fun s => s.completions.any (fun c => c.rows.rows.any (fun r =>
          r.status ≠ .stale && (r.key ∉ c.changed && c.found.rows.all (fun i =>
            !(decide (i.key = r.key) && i.mirrored)))))) = true := by
      decide +kernel
    obtain ⟨s, hrun, htest⟩ := Runs.exists_run_of_foldlM hreached
    obtain ⟨c, hc, hrows⟩ := List.any_eq_true.mp htest
    obtain ⟨r, hr, hrow⟩ := List.any_eq_true.mp hrows
    obtain ⟨hcurrent, hrest⟩ := Bool.and_eq_true_iff.mp hrow
    obtain ⟨hunchanged, hgone⟩ := Bool.and_eq_true_iff.mp hrest
    refine ⟨s, hrun, c, hc, fun hleaves => ?_⟩
    obtain ⟨i, hi, hkey, hmirrored⟩ :=
      hleaves r hr (of_decide_eq_true hcurrent) (of_decide_eq_true hunchanged)
    have hno := List.all_eq_true.mp hgone i hi
    simp [hkey, hmirrored] at hno
  · have hreached : (deletedEvents.foldlM perform sampleService).toOption.any
        (fun s => s.completions.any (fun c => c.rows.rows.isEmpty && c.found.rows.any (fun i =>
          i.mirrored && decide (i.key ∉ c.changed)))) = true := by
      decide +kernel
    obtain ⟨s, hrun, htest⟩ := Runs.exists_run_of_foldlM hreached
    obtain ⟨c, hc, hboth⟩ := List.any_eq_true.mp htest
    obtain ⟨hempty, hany⟩ := Bool.and_eq_true_iff.mp hboth
    obtain ⟨i, hi, hitem⟩ := List.any_eq_true.mp hany
    obtain ⟨hmirrored, hunchanged⟩ := Bool.and_eq_true_iff.mp hitem
    refine ⟨s, hrun, c, hc, fun hmisses => ?_⟩
    obtain ⟨r, hr, -⟩ := hmisses i hi hmirrored (of_decide_eq_true hunchanged)
    rw [IndexedTable.mem_def, List.isEmpty_iff.mp hempty] at hr
    exact List.not_mem_nil hr
  · have hreached : (racingEvents.foldlM perform sampleService).toOption.any
        (fun s => s.syncs.rows.any (fun y => s.syncs.rows.any (fun z =>
          y.worker.phase.live && (z.worker.phase.live && decide (y.syncId ≠ z.syncId))))) =
            true := by
      decide +kernel
    obtain ⟨s, hrun, htest⟩ := Runs.exists_run_of_foldlM hreached
    obtain ⟨y, hy, hany⟩ := List.any_eq_true.mp htest
    obtain ⟨z, hz, hboth⟩ := List.any_eq_true.mp hany
    obtain ⟨hylive, hrest⟩ := Bool.and_eq_true_iff.mp hboth
    obtain ⟨hzlive, hne⟩ := Bool.and_eq_true_iff.mp hrest
    refine ⟨s, hrun, fun hone => ?_⟩
    exact of_decide_eq_true hne (congrArg Sync.syncId (hone y hy z hz hylive hzlive))
  · have hreached : (crashedEvents.foldlM perform sampleService).toOption.any
        (fun s => s.syncs.rows.any (fun y =>
          decide (y.job.status = .running) && !y.worker.phase.live)) = true := by
      decide +kernel
    obtain ⟨s, hrun, htest⟩ := Runs.exists_run_of_foldlM hreached
    obtain ⟨y, hy, hboth⟩ := List.any_eq_true.mp htest
    obtain ⟨hrunning, hdead⟩ := Bool.and_eq_true_iff.mp hboth
    have habandoned : y.Abandoned :=
      ⟨of_decide_eq_true hrunning, (Bool.not_eq_true' _).mp hdead⟩
    have hrecorded := recorded_of_run sampleService_initial.sole.toRecorded hrun
    exact ⟨s, hrun, fun hnever =>
      hnever y hy habandoned (blockedBy_of_abandoned hrecorded hy habandoned)⟩

end Samples

end Inventory
end SalesAgent
