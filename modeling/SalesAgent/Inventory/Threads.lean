import SalesAgent.Inventory.Writes

/-!
# Jobs and threads

An event replaces one job with its thread, inserts one, or notes a change of the ad server in
every thread.  Where every start inserts its job while none is running and an administrator
resets only jobs whose thread has ended, at most one thread of the tenant is alive.

**Results.**
* `moved_of_runSyncThread`: the steps of a thread.
* `Happened.evolves`: what an event does to a job and its thread.
* `sole_of_step`: with sole starts, one thread is alive and its job is the one that runs.
-/

namespace SalesAgent
namespace Inventory

open Runs (Run Restrict)

section Steps

variable {s t : Service} {y y' : Sync} {e : SyncEvent}

theorem find_sync
    {id : Int} :
    s.syncs.find id = some y ↔ y ∈ s.syncs ∧ y.syncId = id := by
  rw [IndexedTable.find_eq_some_iff]
  exact and_congr_right' Option.some_inj

theorem sync_eq_of_id
    (hy : y ∈ s.syncs)
    (hy' : y' ∈ s.syncs)
    (hid : y'.syncId = y.syncId) :
    y' = y :=
  s.syncs.eq_of_key_eq hy' hy (congrArg some hid) rfl

theorem mem_setSync
    {job : SyncJob} {worker : Worker}
    (h : y' ∈ (s.setSync y job worker).syncs) :
    y' = ⟨y.syncId, job, worker⟩ ∨ (y' ∈ s.syncs ∧ y'.syncId ≠ y.syncId) := by
  have hmem : y' ∈ s.syncs.modify y.syncId (fun z => ⟨z.syncId, job, worker⟩) (fun _ => rfl) := h
  obtain ⟨z, hz, hchanged⟩ := (IndexedTable.mem_modify s.syncs).mp hmem
  split at hchanged
  · next hkey =>
      obtain rfl := hchanged
      exact .inl (by rw [show z.syncId = y.syncId from Option.some.inj hkey])
  · next hkey =>
      obtain rfl := hchanged
      exact .inr ⟨hz, fun h => hkey (congrArg some h)⟩

/-- A step of a thread, by what it does. -/
inductive Moved
    (s : Service)
    (y : Sync) : Move → Service → Prop
  | start {last : Option Int}
      (hphase : y.worker.phase = .starting)
      (hlast : y.worker.mode = .incremental → s.isLastCompleted last = true) :
      Moved s y (.start last) (s.startThread y last)
  | delete
      (hphase : y.worker.phase = .deleting) :
      Moved s y .delete (s.deleteInventory y)
  | discoverNone {u : InventoryType} {listing : Listing}
      (hphase : y.worker.phase = .discovering u)
      (hlisted : discovered u (s.listed y u) listing = some []) :
      Moved s y (.discover listing) (s.leaveType y u)
  | discover {u : InventoryType} {listing : Listing} {items : List Item}
      (hphase : y.worker.phase = .discovering u)
      (hlisted : discovered u (s.listed y u) listing = some items) :
      Moved s y (.discover listing)
        (s.setSync y y.job { y.worker with phase := .loading u items })
  | load {u : InventoryType} {items : List Item}
      (hphase : y.worker.phase = .loading u items) :
      Moved s y .load (s.setSync y y.job
        { y.worker with phase := .writing u (existingIds s.inventory u) items })
  | flushLast {u : InventoryType} {existing : List (String × Nat)} {items : List Item}
      {rows : InventoryRows} {nextId : Nat}
      (hphase : y.worker.phase = .writing u existing items)
      (hflush : flushBatch existing y.worker.syncTime items s.inventory s.nextId =
        some (rows, nextId)) :
      Moved s y .flush
        (Service.leaveType { s with inventory := rows, nextId := nextId } y u)
  | flush {u : InventoryType} {existing : List (String × Nat)} {items : List Item}
      {rows : InventoryRows} {nextId : Nat}
      (hphase : y.worker.phase = .writing u existing items)
      (hflush : flushBatch existing y.worker.syncTime (items.take batchSize) s.inventory s.nextId =
        some (rows, nextId)) :
      Moved s y .flush (Service.setSync { s with inventory := rows, nextId := nextId } y y.job
        { y.worker with phase := .writing u existing (items.drop batchSize) })
  | markStale
      (hphase : y.worker.phase = .markingStale) :
      Moved s y .markStale (Service.setSync { s with
        inventory := s.inventory.map (GAMInventory.markStale y.worker.syncTime)
          (markStale_uniqueKey y.worker.syncTime) } y y.job
            { y.worker with phase := .completing })
  | complete
      (hphase : y.worker.phase = .completing) :
      Moved s y (.complete true) (s.markSyncComplete y)
  | fail
      (hlive : y.worker.phase.live = true) :
      Moved s y (.fail true) (s.markSyncFailed y)
  | unmarked {move : Move}
      (hmove : move = .complete false ∨ move = .fail false)
      (hlive : y.worker.phase.live = true) :
      Moved s y move (s.endUnmarked y)

theorem moved_of_runSyncThread
    {move : Move}
    (h : runSyncThread s y move = some t) :
    Moved s y move t := by
  unfold runSyncThread at h
  split at h
  · next last hphase =>
      split at h
      · next hlast =>
          cases h
          exact .start hphase hlast
      · cases h
  · next hphase =>
      cases h
      exact .delete hphase
  · next u listing hphase =>
      split at h
      · cases h
      · next hlisted =>
          cases h
          exact .discoverNone hphase hlisted
      · next item items hlisted =>
          cases h
          exact .discover hphase hlisted
  · next u items hphase =>
      cases h
      exact .load hphase
  · next u existing items hphase =>
      split at h
      · cases h
      · next rows nextId hflush =>
          dsimp only at h
          split at h
          · next hlast =>
              cases h
              rw [List.take_of_length_le hlast] at hflush
              exact .flushLast hphase hflush
          · cases h
            exact .flush hphase hflush
  · next hphase =>
      cases h
      exact .markStale hphase
  · next kept hphase =>
      cases h
      cases kept with
      | true => exact .complete hphase
      | false => exact .unmarked (.inl rfl) (by rw [hphase]; rfl)
  · next kept =>
      split at h
      · next hlive =>
          cases h
          cases kept with
          | true => exact .fail hlive
          | false => exact .unmarked (.inr rfl) hlive
      · cases h
  · cases h

/-- A thread that takes a step is alive. -/
theorem Moved.live
    {move : Move}
    (h : Moved s y move t) :
    y.worker.phase.live = true := by
  cases h with
  | start hphase => rw [hphase]; rfl
  | delete hphase => rw [hphase]; rfl
  | discoverNone hphase => rw [hphase]; rfl
  | discover hphase => rw [hphase]; rfl
  | load hphase => rw [hphase]; rfl
  | flushLast hphase => rw [hphase]; rfl
  | flush hphase => rw [hphase]; rfl
  | markStale hphase => rw [hphase]; rfl
  | complete hphase => rw [hphase]; rfl
  | fail hlive => exact hlive
  | unmarked _ hlive => exact hlive

theorem Moved.replaced
    {move : Move}
    (h : Moved s y move t) :
    t.now = s.now ∧ t.server = s.server ∧
      ∃ job worker, t.syncs = (s.setSync y job worker).syncs ∧ job.startedAt = y.job.startedAt ∧
      job.progress = y.job.progress ∧
      (job.status = y.job.status ∨ job.status ≠ .running ∧ worker.phase.live = false) := by
  cases h with
  | start hphase hlast =>
      unfold Service.startThread
      split
      · exact ⟨rfl, rfl, _, _, rfl, rfl, rfl, .inl rfl⟩
      · exact ⟨rfl, rfl, _, _, rfl, rfl, rfl, .inl rfl⟩
      · split
        · exact ⟨rfl, rfl, _, _, rfl, rfl, rfl, .inl rfl⟩
        · exact ⟨rfl, rfl, _, _, rfl, rfl, rfl, .inl rfl⟩
  | delete hphase => exact ⟨rfl, rfl, _, _, rfl, rfl, rfl, .inl rfl⟩
  | discoverNone hphase hlisted => exact ⟨rfl, rfl, _, _, rfl, rfl, rfl, .inl rfl⟩
  | discover hphase hlisted => exact ⟨rfl, rfl, _, _, rfl, rfl, rfl, .inl rfl⟩
  | load hphase => exact ⟨rfl, rfl, _, _, rfl, rfl, rfl, .inl rfl⟩
  | flushLast hphase hflush => exact ⟨rfl, rfl, _, _, rfl, rfl, rfl, .inl rfl⟩
  | flush hphase hflush => exact ⟨rfl, rfl, _, _, rfl, rfl, rfl, .inl rfl⟩
  | markStale hphase => exact ⟨rfl, rfl, _, _, rfl, rfl, rfl, .inl rfl⟩
  | complete hphase => exact ⟨rfl, rfl, _, _, rfl, rfl, rfl, .inr ⟨nofun, rfl⟩⟩
  | fail hlive => exact ⟨rfl, rfl, _, _, rfl, rfl, rfl, .inr ⟨nofun, rfl⟩⟩
  | unmarked hmove hlive => exact ⟨rfl, rfl, _, _, rfl, rfl, rfl, .inl rfl⟩

/-- What an event does to a job and its thread. -/
structure Evolves
    (s : Service)
    (e : SyncEvent)
    (y y' : Sync) : Prop where
  syncId : y'.syncId = y.syncId
  startedAt : y'.job.startedAt = y.job.startedAt
  progress : y'.job.progress = y.job.progress
  live : y'.worker.phase.live = true → y.worker.phase.live = true
  status : y'.job.status = y.job.status ∨ y'.job.status ≠ .running ∧
    (y.worker.phase.live = true ∧ y'.worker.phase.live = false ∨ e = .reset y.syncId ∨
      y.job.isStale s.now = true)

theorem Evolves.refl
    (s : Service)
    (e : SyncEvent)
    (y : Sync) :
    Evolves s e y y :=
  ⟨rfl, rfl, rfl, id, .inl rfl⟩

/-- The events, by what they do. -/
inductive Happened
    (s : Service) : SyncEvent → Service → Prop
  | tick {now : DateTime}
      (hle : s.now ≤ now) :
      Happened s (.tick now) { s with now := now }
  | store {item : Item}
      (hdated : item.lastModified = s.now)
      (harchived : item.status = .archived → item.inventoryType.archivable = true) :
      Happened s (.store item) (s.serverChanged item.key (s.server.put item))
  | remove {k : Key} :
      Happened s (.remove k)
        (s.serverChanged k (s.server.deleteWhere (fun i => i.key = k)))
  | check {mode : SyncMode} :
      Happened s (.check mode) { s with admitted := mode :: s.admitted }
  | checkStale {mode : SyncMode} {existing : Sync}
      (hy : existing ∈ s.syncs)
      (hstale : existing.job.isStale s.now = true) :
      Happened s (.check mode)
        { s.setSync existing
            { existing.job with status := .failed, completedAt := some s.now } existing.worker with
          admitted := mode :: s.admitted }
  | insert {mode : SyncMode} {syncs : IndexedTable Sync Int Sync.primaryKey}
      (hinsert : s.syncs.insert (newSync s mode) = some syncs) :
      Happened s (.insert mode) { s with syncs := syncs, admitted := s.admitted.erase mode }
  | work {y : Sync} {move : Move} {t : Service}
      (hy : y ∈ s.syncs)
      (hmoved : Moved s y move t) :
      Happened s (.work y.syncId move) t
  | crash {y : Sync}
      (hy : y ∈ s.syncs)
      (hlive : y.worker.phase.live = true) :
      Happened s (.crash y.syncId) (s.setSync y y.job { y.worker with phase := .dead })
  | reset {y : Sync}
      (hy : y ∈ s.syncs)
      (hrunning : y.job.status = .running) :
      Happened s (.reset y.syncId)
        (s.setSync y { y.job with status := .failed, completedAt := some s.now } y.worker)

theorem happened_of_step
    (h : SyncStep s e t) :
    Happened s e t := by
  unfold SyncStep Runs.FoldStep at h
  cases e with
  | tick now =>
      simp only [perform] at h
      split at h
      · next hle =>
          cases h
          exact .tick hle
      · cases h
  | store item =>
      simp only [perform] at h
      split at h
      · next hitem =>
          cases h
          exact .store hitem.1 hitem.2
      · cases h
  | remove k =>
      cases h
      exact .remove
  | check mode =>
      simp only [perform] at h
      split at h
      · next u hcheck =>
          cases h
          unfold Service.checkStart at hcheck
          split at hcheck
          · cases hcheck
            exact .check
          · next existing hfind =>
              split at hcheck
              · next hstale =>
                  cases hcheck
                  exact .checkStale (List.mem_of_find?_eq_some hfind) hstale
              · cases hcheck
      · cases h
  | insert mode =>
      simp only [perform] at h
      split at h
      · split at h
        · next syncs hinsert =>
            cases h
            exact .insert hinsert
        · cases h
      · cases h
  | work id move =>
      simp only [perform] at h
      split at h
      · cases h
      · next y hfind =>
          obtain ⟨hy, rfl⟩ := find_sync.mp hfind
          split at h
          · next u hmove =>
              cases h
              exact .work hy (moved_of_runSyncThread hmove)
          · cases h
  | crash id =>
      simp only [perform] at h
      split at h
      · cases h
      · next y hfind =>
          obtain ⟨hy, rfl⟩ := find_sync.mp hfind
          split at h
          · next hlive =>
              cases h
              exact .crash hy hlive
          · cases h
  | reset id =>
      simp only [perform] at h
      split at h
      · cases h
      · next y hfind =>
          obtain ⟨hy, rfl⟩ := find_sync.mp hfind
          split at h
          · next hrunning =>
              cases h
              exact .reset hy hrunning
          · cases h

/-- An event changes the jobs that are there, and a start inserts one. -/
theorem Happened.evolves
    (h : Happened s e t)
    (hy' : y' ∈ t.syncs) :
    (∃ y ∈ s.syncs, Evolves s e y y') ∨ ∃ mode, e = .insert mode ∧ y' = newSync s mode := by
  have hold : y' ∈ s.syncs → ∃ y ∈ s.syncs, Evolves s e y y' := fun hmem =>
    ⟨y', hmem, .refl s e y'⟩
  cases h with
  | tick hle => exact .inl (hold hy')
  | @store item hdated harchived =>
      have hmem : y' ∈ s.syncs.map (Sync.touch item.key) (fun _ => rfl) := hy'
      obtain ⟨y, hy, rfl⟩ := (IndexedTable.mem_map s.syncs).mp hmem
      exact .inl ⟨y, hy, rfl, rfl, rfl, id, .inl rfl⟩
  | @remove k =>
      have hmem : y' ∈ s.syncs.map (Sync.touch k) (fun _ => rfl) := hy'
      obtain ⟨y, hy, rfl⟩ := (IndexedTable.mem_map s.syncs).mp hmem
      exact .inl ⟨y, hy, rfl, rfl, rfl, id, .inl rfl⟩
  | check => exact .inl (hold hy')
  | @checkStale mode existing hy hstale =>
      rcases mem_setSync hy' with rfl | ⟨hmem, -⟩
      · exact .inl ⟨existing, hy, rfl, rfl, rfl, id, .inr ⟨nofun, .inr (.inr hstale)⟩⟩
      · exact .inl (hold hmem)
  | @insert mode syncs hinsert =>
      rcases (IndexedTable.mem_insert hinsert y').mp hy' with hnew | hmem
      · exact .inr ⟨mode, rfl, hnew⟩
      · exact .inl (hold hmem)
  | @work y move t hy hmoved =>
      obtain ⟨-, -, job, worker, hsyncs, hstarted, hprogress, hstatus⟩ := hmoved.replaced
      rw [hsyncs] at hy'
      rcases mem_setSync hy' with rfl | ⟨hmem, -⟩
      · exact .inl ⟨y, hy, rfl, hstarted, hprogress, fun _ => hmoved.live,
          hstatus.imp_right fun hended => ⟨hended.1, .inl ⟨hmoved.live, hended.2⟩⟩⟩
      · exact .inl (hold hmem)
  | @crash y hy hlive =>
      rcases mem_setSync hy' with rfl | ⟨hmem, -⟩
      · exact .inl ⟨y, hy, rfl, rfl, rfl, nofun, .inl rfl⟩
      · exact .inl (hold hmem)
  | @reset y hy hrunning =>
      rcases mem_setSync hy' with rfl | ⟨hmem, -⟩
      · exact .inl ⟨y, hy, rfl, rfl, rfl, fun hlive => hlive, .inr ⟨nofun, .inr (.inl rfl)⟩⟩
      · exact .inl (hold hmem)

theorem Happened.find_sync_isSome
    (h : Happened s e t)
    (hy : y ∈ s.syncs) :
    (t.syncs.find y.syncId).isSome := by
  have hfound : (s.syncs.find y.syncId).isSome := by
    rw [find_sync.mpr ⟨hy, rfl⟩]
    rfl
  have hset : ∀ (z : Sync) (job : SyncJob) (worker : Worker),
      ((s.setSync z job worker).syncs.find y.syncId).isSome := fun z job worker =>
    (IndexedTable.isSome_find_modify s.syncs z.syncId y.syncId
      (fun x => ⟨x.syncId, job, worker⟩) (fun _ => rfl)).trans hfound
  have hmap : ∀ k server, ((s.serverChanged k server).syncs.find y.syncId).isSome := by
    intro k server
    have hfind : (s.serverChanged k server).syncs.find y.syncId =
        (s.syncs.find y.syncId).map (Sync.touch k) :=
      IndexedTable.find_map s.syncs (Sync.touch k) (fun _ => rfl) _
    rw [hfind, Option.isSome_map]
    exact hfound
  cases h with
  | tick => exact hfound
  | @store item => exact hmap item.key _
  | @remove k => exact hmap k _
  | check => exact hfound
  | checkStale => exact hset _ _ _
  | insert hinsert => exact IndexedTable.isSome_find_insert hinsert hfound
  | work hy' hmoved =>
      obtain ⟨-, -, job, worker, hsyncs, -⟩ := hmoved.replaced
      rw [hsyncs]
      exact hset _ _ _
  | crash => exact hset _ _ _
  | reset => exact hset _ _ _

theorem Happened.evolves_to
    (h : Happened s e t)
    (hy : y ∈ s.syncs) :
    ∃ y' ∈ t.syncs, Evolves s e y y' := by
  obtain ⟨y', hfind⟩ := Option.isSome_iff_exists.mp (h.find_sync_isSome hy)
  obtain ⟨hy', hid⟩ := find_sync.mp hfind
  rcases h.evolves hy' with ⟨y₀, hy₀, heq⟩ | ⟨mode, rfl, rfl⟩
  · obtain rfl := sync_eq_of_id hy hy₀ (heq.syncId.symm.trans hid)
    exact ⟨y', hy', heq⟩
  · cases h with
    | insert hinsert =>
        refine absurd ?_ ((IndexedTable.insert_eq_some_iff _).mp hinsert).1
        exact ⟨_, rfl, y, hy, congrArg some hid.symm⟩

theorem Happened.now
    (h : Happened s e t) :
    s.now ≤ t.now := by
  cases h with
  | tick hle => exact hle
  | work hy hmoved => exact le_of_eq hmoved.replaced.1.symm
  | _ => exact le_rfl

end Steps

section Sole

variable {s t : Service} {e : SyncEvent} {start : Service} {es : List SyncEvent}

/-- What the jobs record of their starts. -/
structure Recorded
    (s : Service) : Prop where
  ids : ∀ y ∈ s.syncs, y.syncId = syncIdOf y.job.startedAt
  started : ∀ y ∈ s.syncs, y.job.startedAt ≤ s.now
  progress : ∀ y ∈ s.syncs, y.job.progress ≠ none

theorem recorded_of_step
    (hs : Recorded s)
    (h : Happened s e t) :
    Recorded t := by
  refine ⟨fun y' hy' => ?_, fun y' hy' => ?_, fun y' hy' => ?_⟩
  · rcases h.evolves hy' with ⟨y, hy, heq⟩ | ⟨mode, -, rfl⟩
    · rw [heq.syncId, heq.startedAt]
      exact hs.ids y hy
    · rfl
  · rcases h.evolves hy' with ⟨y, hy, heq⟩ | ⟨mode, -, rfl⟩
    · rw [heq.startedAt]
      exact (hs.started y hy).trans h.now
    · exact h.now
  · rcases h.evolves hy' with ⟨y, hy, heq⟩ | ⟨mode, -, rfl⟩
    · rw [heq.progress]
      exact hs.progress y hy
    · nofun

theorem Recorded.not_stale
    (hs : Recorded s)
    {y : Sync}
    (hy : y ∈ s.syncs) :
    y.job.isStale s.now = false := by
  unfold SyncJob.isStale
  cases hprogress : y.job.progress with
  | none => exact absurd hprogress (hs.progress y hy)
  | some phase => exact Bool.and_false _

/-- A start inserts its job while none is running, and an administrator resets a job only
when its thread has ended. -/
def SoleStart
    (s : Service) : SyncEvent → Prop
  | .insert _ => ∀ y ∈ s.syncs, y.job.status ≠ .running
  | .reset id => ∀ y, s.syncs.find id = some y → y.worker.phase.live = false
  | _ => True

/-- One job is running, and one thread alive. -/
structure Sole
    (s : Service) : Prop extends Recorded s where
  running : ∀ y ∈ s.syncs, y.worker.phase.live = true → y.job.status = .running
  sole : ∀ y ∈ s.syncs, ∀ z ∈ s.syncs, y.job.status = .running → z.job.status = .running → y = z

theorem Sole.eq_of_live
    (hs : Sole s)
    {y z : Sync}
    (hy : y ∈ s.syncs)
    (hz : z ∈ s.syncs)
    (hylive : y.worker.phase.live = true)
    (hzlive : z.worker.phase.live = true) :
    y = z :=
  hs.sole y hy z hz (hs.running y hy hylive) (hs.running z hz hzlive)

theorem Happened.was_running
    (h : Happened s e t)
    {y' : Sync}
    (hy' : y' ∈ t.syncs)
    (hrunning : y'.job.status = .running) :
    (∃ y ∈ s.syncs, y'.syncId = y.syncId ∧ y.job.status = .running) ∨
      ∃ mode, e = .insert mode ∧ y' = newSync s mode := by
  refine (h.evolves hy').imp_left ?_
  rintro ⟨y, hy, heq⟩
  refine ⟨y, hy, heq.syncId, ?_⟩
  rcases heq.status with hsame | ⟨hended, -⟩
  · exact hsame ▸ hrunning
  · exact absurd hrunning hended

theorem sole_of_step
    (hs : Sole s)
    (h : Happened s e t)
    (hsole : SoleStart s e) :
    Sole t := by
  refine ⟨recorded_of_step hs.toRecorded h, fun y' hy' hlive => ?_,
    fun y' hy' z' hz' hyrunning hzrunning => ?_⟩
  · rcases h.evolves hy' with ⟨y, hy, heq⟩ | ⟨mode, -, rfl⟩
    · have hrunning := hs.running y hy (heq.live hlive)
      rcases heq.status with hsame | ⟨-, hends | rfl | hstale⟩
      · rw [hsame, hrunning]
      · rw [hends.2] at hlive
        cases hlive
      · have hended := hsole y (find_sync.mpr ⟨hy, rfl⟩)
        rw [heq.live hlive] at hended
        cases hended
      · rw [hs.not_stale hy] at hstale
        cases hstale
    · rfl
  · rcases h.was_running hy' hyrunning with ⟨y, hy, hyid, hyran⟩ | ⟨mode, rfl, rfl⟩
    · rcases h.was_running hz' hzrunning with ⟨z, hz, hzid, hzran⟩ | ⟨mode, rfl, rfl⟩
      · obtain rfl := hs.sole y hy z hz hyran hzran
        exact sync_eq_of_id hz' hy' (hyid.trans hzid.symm)
      · exact absurd hyran (hsole y hy)
    · rcases h.was_running hz' hzrunning with ⟨z, hz, hzid, hzran⟩ | ⟨mode', heq, rfl⟩
      · exact absurd hzran (hsole z hz)
      · cases heq
        rfl

/-- No sync has been started. -/
structure Service.Initial
    (s : Service) : Prop where
  syncs : s.syncs.rows = []
  completions : s.completions = []
  dated : ∀ i ∈ s.server, i.lastModified ≤ s.now
  archives : ∀ i ∈ s.server, i.status = .archived → i.inventoryType.archivable = true

theorem Service.Initial.not_mem
    (h : s.Initial)
    (y : Sync) :
    ¬ y ∈ s.syncs := by
  rw [IndexedTable.mem_def, h.syncs]
  exact List.not_mem_nil

theorem Service.Initial.sole
    (h : s.Initial) :
    Sole s where
  ids := fun y hy => absurd hy (h.not_mem y)
  started := fun y hy => absurd hy (h.not_mem y)
  progress := fun y hy => absurd hy (h.not_mem y)
  running := fun y hy => absurd hy (h.not_mem y)
  sole := fun y hy => absurd hy (h.not_mem y)

/-- At most one sync of the tenant writes at a time. -/
def Service.OneWriter
    (s : Service) : Prop :=
  ∀ y ∈ s.syncs, ∀ z ∈ s.syncs, y.worker.phase.live = true → z.worker.phase.live = true → y = z

theorem oneWriter_of_run
    (hstart : start.Initial)
    (hrun : Run (Restrict SyncStep SoleStart) start es s) :
    s.OneWriter := by
  have hpreserved : Runs.Preserved (Restrict SyncStep SoleStart) Sole :=
    fun s e t h hs => sole_of_step hs (happened_of_step h.1) h.2
  have hs := hrun.preserves hpreserved hstart.sole
  exact fun y hy z hz => hs.eq_of_live hy hz

end Sole

end Inventory
end SalesAgent
