import SalesAgent.DateTime
import SalesAgent.Lib.IndexedTable
import SalesAgent.Lib.Runs

/-!
# Background syncs of the inventory

A tenant's inventory is mirrored from its ad server by syncs that run in background threads.
A full sync first deletes every row, and commits that; an incremental sync asks the ad server
only for what changed since the last completed sync started.  Both then go through the types
of items one after the other: they list a type, read which rows of it are there, and write
the listed items in batches, each committed by itself.

The starts of syncs, the steps of their threads, the changes on the ad server and an
administrator's resets interleave.  A start is a read of the running jobs and then the insert
of a job.

**Contents.**
* `statementOf`, `convertItemToDbFormat`: what a sync asks for, and what it stores.
* `runSyncThread`: the steps of a thread.
* `perform`: the events of the service.
-/

namespace SalesAgent
namespace Inventory

section Items

/-- The values of `inventory_type` that a sync mirrors. -/
inductive InventoryType
  | adUnit
  | placement
  | label
  | customTargetingKey
  | audienceSegment
  deriving DecidableEq

/-- `inventory_type` and `inventory_id`, unique in a tenant -/
abbrev Key := InventoryType × String

inductive ItemStatus
  | active
  | inactive
  | archived
  | unknown
  deriving DecidableEq

/-- An item of the ad server.  Its details are the name, the path and the metadata. -/
structure Item where
  inventoryType : InventoryType
  id : String
  details : String
  status : ItemStatus
  /-- for audience segments -/
  firstParty : Bool
  lastModified : DateTime
  deriving DecidableEq

def Item.key
    (i : Item) : Key :=
  (i.inventoryType, i.id)

def Item.uniqueKey
    (i : Item) : Option Key :=
  some i.key

/-- The items of the ad server. -/
abbrev AdServer := IndexedTable Item Key Item.uniqueKey

/-- Only ad units and placements are ever archived. -/
def InventoryType.archivable : InventoryType → Bool
  | .adUnit | .placement => true
  | .label | .customTargetingKey | .audienceSegment => false

/-- `status` of a row -/
inductive RowStatus
  | active
  | inactive
  | archived
  | unknown
  | stale
  deriving DecidableEq

def ItemStatus.value : ItemStatus → RowStatus
  | .active => .active
  | .inactive => .inactive
  | .archived => .archived
  | .unknown => .unknown

/-- The status a row takes over.  `AdUnit.from_gam_object` makes every ad unit active, and a
label is active or not. -/
def Item.rowStatus
    (i : Item) : RowStatus :=
  match i.inventoryType with
  | .adUnit => .active
  | .label => if i.status = .active then .active else .inactive
  | .placement | .customTargetingKey | .audienceSegment => i.status.value

/-- A row of `gam_inventory`. -/
structure GAMInventory where
  id : Nat
  inventoryType : InventoryType
  inventoryId : String
  details : String
  status : RowStatus
  lastSynced : DateTime
  deriving DecidableEq

def GAMInventory.key
    (r : GAMInventory) : Key :=
  (r.inventoryType, r.inventoryId)

def GAMInventory.uniqueKey
    (r : GAMInventory) : Option Key :=
  some r.key

/-- `gam_inventory` with its unique constraint. -/
abbrev InventoryRows := IndexedTable GAMInventory Key GAMInventory.uniqueKey

/-- `_convert_item_to_db_format` and the dictionaries of `_write_custom_targeting_keys`. -/
def convertItemToDbFormat
    (item : Item)
    (syncTime : DateTime)
    (id : Nat) : GAMInventory where
  id := id
  inventoryType := item.inventoryType
  inventoryId := item.id
  details := item.details
  status := item.rowStatus
  lastSynced := syncTime

end Items

section Discovery

/-- The conditions of a statement. -/
structure Statement where
  /-- `status != :archived` -/
  notArchived : Bool := false
  /-- `type = FIRST_PARTY` -/
  firstPartyOnly : Bool := false
  /-- `lastModifiedDateTime > :since` -/
  since : Option DateTime := none

/-- The ad server answers a statement with these items. -/
def Statement.selects
    (q : Statement)
    (i : Item) : Bool :=
  (!q.notArchived || i.status ≠ .archived) && (!q.firstPartyOnly || i.firstParty) &&
    q.since.all (· < i.lastModified)

def discoverAdUnits
    (since : Option DateTime) : Statement :=
  { notArchived := true, since := since }

def discoverPlacements
    (since : Option DateTime) : Statement :=
  { notArchived := true, since := since }

/-- The label service cannot filter by modification. -/
def discoverLabels
    (_since : Option DateTime) : Statement :=
  {}

/-- Nor can the custom targeting service. -/
def discoverCustomTargeting
    (_since : Option DateTime) : Statement :=
  {}

def discoverAudienceSegments
    (since : Option DateTime) : Statement :=
  { firstPartyOnly := true, since := since }

/-- What a sync asks for of a type; it always asks for all audience segments. -/
def statementOf
    (since : Option DateTime) : InventoryType → Statement
  | .adUnit => discoverAdUnits since
  | .placement => discoverPlacements since
  | .label => discoverLabels since
  | .customTargetingKey => discoverCustomTargeting since
  | .audienceSegment => discoverAudienceSegments none

/-- How a listing ends. -/
inductive Listing
  | whole
  /-- a page of audience segments raised, after so many segments -/
  | cutShort (listed : Nat)
  /-- the library could not read a fault of the label service -/
  | typeError
  deriving DecidableEq

/-- What the discovery returns of the items that the ad server has.  A fault among the
audience segments ends their listing, and one of the label service makes it empty. -/
def discovered
    (t : InventoryType)
    (items : List Item) : Listing → Option (List Item)
  | .whole => some items
  | .cutShort listed => if t = .audienceSegment then some (items.take listed) else none
  | .typeError => if t = .label then some [] else none

end Discovery

section Jobs

inductive SyncMode
  | full
  | incremental
  /-- any other text a caller may send -/
  | other
  deriving DecidableEq

inductive JobStatus
  | running
  | completed
  | failed
  deriving DecidableEq

/-- A row of `sync_jobs`. -/
structure SyncJob where
  status : JobStatus
  startedAt : DateTime
  completedAt : Option DateTime
  /-- the phase that the first progress document names; each later one names a phase too -/
  progress : Option String
  deriving DecidableEq

/-- `is_stale`: running for more than an hour, without progress. -/
def SyncJob.isStale
    (j : SyncJob)
    (now : DateTime) : Bool :=
  Timedelta.seconds 3600 < now - j.startedAt && j.progress.isNone

/-- Where the thread of a sync is. -/
inductive Phase
  | starting
  | deleting
  | discovering (t : InventoryType)
  /-- the type is listed -/
  | loading (t : InventoryType) (items : List Item)
  /-- the rows of the type, with their ids, were read -/
  | writing (t : InventoryType) (existing : List (String × Nat)) (items : List Item)
  | markingStale
  | completing
  | finished
  | dead
  deriving DecidableEq

/-- The thread has not ended. -/
def Phase.live : Phase → Bool
  | .finished | .dead => false
  | _ => true

/-- A thread, with what the ad server had when its job was inserted and the keys that have
changed there since. -/
structure Worker where
  mode : SyncMode
  full : Bool
  since : Option DateTime
  syncTime : DateTime
  phase : Phase
  found : AdServer
  changed : List Key

/-- A job with its thread. -/
structure Sync where
  syncId : Int
  job : SyncJob
  worker : Worker

def Sync.primaryKey
    (y : Sync) : Option Int :=
  some y.syncId

/-- `sync_id` names the second of the start. -/
def syncIdOf
    (now : DateTime) : Int :=
  now / 1000000

/-- The phases after the first, in their order. -/
def InventoryType.next : InventoryType → Option InventoryType
  | .adUnit => some .placement
  | .placement => some .label
  | .label => some .customTargetingKey
  | .customTargetingKey => some .audienceSegment
  | .audienceSegment => none

/-- What a thread does after a type. -/
def Worker.after
    (w : Worker)
    (t : InventoryType) : Phase :=
  match t.next with
  | some u => .discovering u
  | none => if w.full then .markingStale else .completing

/-- What a sync that completed left behind: what the ad server had when it started, what has
changed there since, and the rows. -/
structure Completion where
  found : AdServer
  changed : List Key
  rows : InventoryRows

/-- The ad server, the tables of the tenant and the threads. -/
structure Service where
  now : DateTime
  server : AdServer
  inventory : InventoryRows
  nextId : Nat
  syncs : IndexedTable Sync Int Sync.primaryKey
  /-- starts that read the running jobs and have not inserted theirs -/
  admitted : List SyncMode
  /-- types whose rows a full sync deleted and no whole listing has repaired since -/
  emptied : List InventoryType
  completions : List Completion

/-- Replace a job and its thread. -/
def Service.setSync
    (s : Service)
    (y : Sync)
    (job : SyncJob)
    (worker : Worker) : Service :=
  { s with
    syncs := s.syncs.modify y.syncId (fun z => ⟨z.syncId, job, worker⟩) (fun _ => rfl) }

end Jobs

section Writing

def batchSize : Nat := 500

/-- The listed items that have no row yet. -/
def toInsert
    (existing : List (String × Nat))
    (items : List Item) : List Item :=
  items.filter (fun i => (existing.lookup i.id).isNone)

def toUpdate
    (existing : List (String × Nat))
    (items : List Item) : List Item :=
  items.filter (fun i => (existing.lookup i.id).isSome)

/-- One row of `bulk_insert_mappings`. -/
def insertItem
    (syncTime : DateTime)
    (state : InventoryRows × Nat)
    (item : Item) : Option (InventoryRows × Nat) :=
  (state.1.insert (convertItemToDbFormat item syncTime state.2)).map (·, state.2 + 1)

/-- One row of `bulk_update_mappings`; a row that is gone, or has another id, is an error. -/
def updateItem
    (existing : List (String × Nat))
    (syncTime : DateTime)
    (rows : InventoryRows)
    (item : Item) : Option InventoryRows :=
  match rows.find item.key with
  | none => none
  | some r =>
      if existing.lookup item.id = some r.id then
        some (rows.put (convertItemToDbFormat item syncTime r.id))
      else
        none

/-- `_flush_batch`: a batch is written and committed, or nothing of it. -/
def flushBatch
    (existing : List (String × Nat))
    (syncTime : DateTime)
    (items : List Item)
    (rows : InventoryRows)
    (nextId : Nat) : Option (InventoryRows × Nat) := do
  let inserted ← (toInsert existing items).foldlM (insertItem syncTime) (rows, nextId)
  let updated ← (toUpdate existing items).foldlM (updateItem existing syncTime) inserted.1
  some (updated, inserted.2)

/-- `_mark_stale_inventory` on one row. -/
def GAMInventory.markStale
    (syncTime : DateTime)
    (r : GAMInventory) : GAMInventory :=
  if r.lastSynced < syncTime - Timedelta.seconds 1 ∧ r.inventoryType ≠ .adUnit then
    { r with status := .stale }
  else
    r

theorem markStale_uniqueKey
    (syncTime : DateTime)
    (r : GAMInventory) :
    (r.markStale syncTime).uniqueKey = r.uniqueKey := by
  unfold GAMInventory.markStale
  split
  · rfl
  · rfl

end Writing

section Thread

/-- The job is one of those that completed last. -/
def Service.isLastCompleted
    (s : Service) : Option Int → Bool
  | none => s.syncs.rows.all (fun y => y.job.status ≠ .completed)
  | some id =>
      (s.syncs.find id).any fun last =>
        last.job.status = .completed &&
          s.syncs.rows.all fun y =>
            y.job.status ≠ .completed ||
              y.job.completedAt.all (fun t => last.job.completedAt.all (t ≤ ·))

/-- What a thread does next. -/
inductive Move
  /-- the configuration was read, and the last completed job -/
  | start (last : Option Int)
  | delete
  | discover (listing : Listing)
  | load
  | flush
  | markStale
  /-- whether the job could be marked -/
  | complete (kept : Bool)
  | fail (kept : Bool)
  deriving DecidableEq

/-- The thread is through with a type. -/
def Service.leaveType
    (s : Service)
    (y : Sync)
    (t : InventoryType) : Service :=
  { s with
    emptied := if y.worker.since.isNone then s.emptied.filter (· ≠ t) else s.emptied }.setSync y y.job
      { y.worker with phase := y.worker.after t }

/-- The thread goes on to list the items. -/
def Service.beginTypes
    (s : Service)
    (y : Sync)
    (worker : Worker) : Service :=
  s.setSync y y.job
    { worker with
      syncTime := s.now
      phase := .discovering .adUnit }

/-- `_run_sync_thread` determines its mode.  Without a completed job an incremental sync is a
full one. -/
def Service.startThread
    (s : Service)
    (y : Sync)
    (last : Option Int) : Service :=
  let deleting : Worker := { y.worker with full := true, phase := .deleting }
  match y.worker.mode with
  | .full => s.setSync y y.job deleting
  | .other => s.beginTypes y y.worker
  | .incremental =>
      match last.bind s.syncs.find with
      | none => s.setSync y y.job deleting
      | some ref => s.beginTypes y { y.worker with since := some ref.job.startedAt }

/-- Phase 0: every row is deleted, and that is committed. -/
def Service.deleteInventory
    (s : Service)
    (y : Sync) : Service :=
  { s with
    inventory := .empty
    emptied := [.adUnit, .placement, .label, .customTargetingKey, .audienceSegment] }.beginTypes y
      y.worker

/-- The items a thread is answered. -/
def Service.listed
    (s : Service)
    (y : Sync)
    (t : InventoryType) : List Item :=
  s.server.part (fun i => i.inventoryType = t && (statementOf y.worker.since t).selects i)

/-- The ids of the rows of a type. -/
def existingIds
    (rows : InventoryRows)
    (t : InventoryType) : List (String × Nat) :=
  (rows.part (fun r => r.inventoryType = t)).map (fun r => (r.inventoryId, r.id))

/-- `_mark_sync_complete` -/
def Service.markSyncComplete
    (s : Service)
    (y : Sync) : Service :=
  { s with completions := ⟨y.worker.found, y.worker.changed, s.inventory⟩ :: s.completions }.setSync
    y { y.job with status := .completed, completedAt := some s.now }
      { y.worker with phase := .finished }

/-- `_mark_sync_failed` -/
def Service.markSyncFailed
    (s : Service)
    (y : Sync) : Service :=
  s.setSync y { y.job with status := .failed, completedAt := some s.now }
    { y.worker with phase := .finished }

/-- The thread ends, and its job could not be marked. -/
def Service.endUnmarked
    (s : Service)
    (y : Sync) : Service :=
  s.setSync y y.job { y.worker with phase := .finished }

/-- `_run_sync_thread`, one step of it. -/
def runSyncThread
    (s : Service)
    (y : Sync)
    (move : Move) : Option Service :=
  match y.worker.phase, move with
  | .starting, .start last =>
      if y.worker.mode = .incremental → s.isLastCompleted last = true then
        some (s.startThread y last)
      else
        none
  | .deleting, .delete => some (s.deleteInventory y)
  | .discovering t, .discover listing =>
      match discovered t (s.listed y t) listing with
      | none => none
      | some [] => some (s.leaveType y t)
      | some (item :: items) =>
          some (s.setSync y y.job { y.worker with phase := .loading t (item :: items) })
  | .loading t items, .load =>
      some (s.setSync y y.job
        { y.worker with phase := .writing t (existingIds s.inventory t) items })
  | .writing t existing items, .flush =>
      match flushBatch existing y.worker.syncTime (items.take batchSize) s.inventory s.nextId with
      | none => none
      | some (rows, nextId) =>
          let written := { s with inventory := rows, nextId := nextId }
          if items.length ≤ batchSize then
            some (written.leaveType y t)
          else
            some (written.setSync y y.job
              { y.worker with phase := .writing t existing (items.drop batchSize) })
  | .markingStale, .markStale =>
      some ({ s with
        inventory := s.inventory.map (GAMInventory.markStale y.worker.syncTime)
          (markStale_uniqueKey y.worker.syncTime) }.setSync y y.job
            { y.worker with phase := .completing })
  | .completing, .complete kept =>
      some (if kept then s.markSyncComplete y else s.endUnmarked y)
  | phase, .fail kept =>
      if phase.live then some (if kept then s.markSyncFailed y else s.endUnmarked y) else none
  | _, _ => none

end Thread

section Events

/-- The events. -/
inductive SyncEvent
  | tick (now : DateTime)
  /-- an item is created or changed on the ad server -/
  | store (item : Item)
  | remove (key : Key)
  /-- a start reads the running jobs -/
  | check (mode : SyncMode)
  /-- and inserts its job -/
  | insert (mode : SyncMode)
  | work (id : Int) (move : Move)
  | crash (id : Int)
  /-- `reset_stuck_sync` on the job it found running -/
  | reset (id : Int)
  deriving DecidableEq

/-- The key changed while the thread ran. -/
def Sync.touch
    (k : Key)
    (y : Sync) : Sync :=
  { y with worker := { y.worker with changed := k :: y.worker.changed } }

/-- The ad server has changed under a key. -/
def Service.serverChanged
    (s : Service)
    (k : Key)
    (server : AdServer) : Service :=
  { s with
    server := server
    syncs := s.syncs.map (Sync.touch k) (fun _ => rfl) }

/-- The first part of `start_inventory_sync_background`. -/
def Service.checkStart
    (s : Service) : Except String Service :=
  match s.syncs.rows.find? (fun y => y.job.status = .running) with
  | none => .ok s
  | some existing =>
      if existing.job.isStale s.now then
        .ok (s.setSync existing
          { existing.job with status := .failed, completedAt := some s.now } existing.worker)
      else
        .error ("Sync already running: " ++ toString existing.syncId)

/-- The job a start inserts. -/
def newSync
    (s : Service)
    (mode : SyncMode) : Sync where
  syncId := syncIdOf s.now
  job :=
    { status := .running
      startedAt := s.now
      completedAt := none
      progress := some "Starting" }
  worker :=
    { mode := mode
      full := false
      since := none
      syncTime := s.now
      phase := .starting
      found := s.server
      changed := [] }

/-- The events of the service; one that cannot happen is an error, as is a refused start. -/
def perform
    (s : Service) : SyncEvent → Except String Service
  | .tick now => if s.now ≤ now then .ok { s with now := now } else .error "clock"
  | .store item =>
      if item.lastModified = s.now ∧
          (item.status = .archived → item.inventoryType.archivable = true) then
        .ok (s.serverChanged item.key (s.server.put item))
      else
        .error "item"
  | .remove k => .ok (s.serverChanged k (s.server.deleteWhere (fun i => i.key = k)))
  | .check mode =>
      match s.checkStart with
      | .ok t => .ok { t with admitted := mode :: t.admitted }
      | .error e => .error e
  | .insert mode =>
      if mode ∈ s.admitted then
        match s.syncs.insert (newSync s mode) with
        | some syncs => .ok { s with syncs := syncs, admitted := s.admitted.erase mode }
        | none => .error "sync_id"
      else
        .error "not checked"
  | .work id move =>
      match s.syncs.find id with
      | none => .error "no job"
      | some y =>
          match runSyncThread s y move with
          | some t => .ok t
          | none => .error "move"
  | .crash id =>
      match s.syncs.find id with
      | none => .error "no job"
      | some y =>
          if y.worker.phase.live then
            .ok (s.setSync y y.job { y.worker with phase := .dead })
          else
            .error "ended"
  | .reset id =>
      match s.syncs.find id with
      | none => .error "no job"
      | some y =>
          if y.job.status = .running then
            .ok (s.setSync y { y.job with status := .failed, completedAt := some s.now } y.worker)
          else
            .error "not running"

/-- One event. -/
def SyncStep : Service → SyncEvent → Service → Prop :=
  Runs.FoldStep perform

end Events

end Inventory
end SalesAgent
