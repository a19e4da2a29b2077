import SalesAgent.Inventory.Sync
import SalesAgent.Lib.Refresh
import Mathlib.Data.List.Nodup

/-!
# What a sync reads and writes

The ad server is a source that changes: under a key it holds what a sync would store of the
item there, if it mirrors it.  The rows are a copy of it.

**Results.**
* `flushBatch_writes`: a batch writes its items to the copy, and nothing else.
* `forall_flushBatch`: the rows after a batch.
-/

namespace SalesAgent
namespace Inventory

open Refresh (Writes UpTo Pending Within)

section Views

/-- What a row keeps of an item. -/
abbrev Stored := String × RowStatus

def Item.stored
    (i : Item) : Stored :=
  (i.details, i.rowStatus)

def GAMInventory.stored
    (r : GAMInventory) : Stored :=
  (r.details, r.status)

/-- The item belongs into the mirror: it is not archived, and no segment of a third party. -/
def Item.mirrored
    (i : Item) : Bool :=
  i.status ≠ .archived && (i.inventoryType ≠ .audienceSegment || i.firstParty)

/-- The ad server as the source of the mirror. -/
def sourceOf
    (server : AdServer)
    (k : Key) : Option (Stored × DateTime) :=
  ((server.find k).filter Item.mirrored).map (fun i => (i.stored, i.lastModified))

/-- The rows as a copy of it. -/
def copyOf
    (rows : InventoryRows)
    (k : Key) : Option Stored :=
  ((rows.find k).filter (·.status ≠ .stale)).map GAMInventory.stored

/-- The keys of a type. -/
def keysOf
    (t : InventoryType) : Set Key :=
  fun k => k.1 = t

variable {server : AdServer} {rows : InventoryRows} {k : Key}

theorem find_item
    {i : Item} :
    server.find k = some i ↔ i ∈ server ∧ i.key = k := by
  rw [IndexedTable.find_eq_some_iff]
  exact and_congr_right' Option.some_inj

theorem find_row
    {r : GAMInventory} :
    rows.find k = some r ↔ r ∈ rows ∧ r.key = k := by
  rw [IndexedTable.find_eq_some_iff]
  exact and_congr_right' Option.some_inj

theorem sourceOf_eq_some
    {v : Stored} {m : DateTime} :
    sourceOf server k = some (v, m) ↔
      ∃ i ∈ server, i.key = k ∧ i.mirrored = true ∧ i.stored = v ∧ i.lastModified = m := by
  unfold sourceOf
  rw [Option.map_eq_some_iff]
  constructor
  · rintro ⟨i, hi, heq⟩
    obtain ⟨hfind, hmirrored⟩ := Option.filter_eq_some_iff.mp hi
    obtain ⟨hmem, hkey⟩ := find_item.mp hfind
    cases heq
    exact ⟨i, hmem, hkey, hmirrored, rfl, rfl⟩
  · rintro ⟨i, hmem, hkey, hmirrored, rfl, rfl⟩
    exact ⟨i, Option.filter_eq_some_iff.mpr ⟨find_item.mpr ⟨hmem, hkey⟩, hmirrored⟩, rfl⟩

theorem copyOf_eq_some
    {v : Stored} :
    copyOf rows k = some v ↔
      ∃ r ∈ rows, r.key = k ∧ r.status ≠ .stale ∧ r.stored = v := by
  unfold copyOf
  rw [Option.map_eq_some_iff]
  constructor
  · rintro ⟨r, hr, rfl⟩
    obtain ⟨hfind, hcurrent⟩ := Option.filter_eq_some_iff.mp hr
    obtain ⟨hmem, hkey⟩ := find_row.mp hfind
    exact ⟨r, hmem, hkey, of_decide_eq_true hcurrent, rfl⟩
  · rintro ⟨r, hmem, hkey, hcurrent, rfl⟩
    exact ⟨r, Option.filter_eq_some_iff.mpr
      ⟨find_row.mpr ⟨hmem, hkey⟩, decide_eq_true hcurrent⟩, rfl⟩

theorem sourceOf_congr
    {server' : AdServer}
    (h : server'.find k = server.find k) :
    sourceOf server' k = sourceOf server k := by
  unfold sourceOf
  rw [h]

theorem copyOf_congr
    {rows' : InventoryRows}
    (h : rows'.find k = rows.find k) :
    copyOf rows' k = copyOf rows k := by
  unfold copyOf
  rw [h]

theorem rowStatus_ne_stale
    (i : Item) :
    i.rowStatus ≠ .stale := by
  have hvalue : ∀ status : ItemStatus, status.value ≠ .stale := by
    intro status
    cases status <;> simp [ItemStatus.value]
  unfold Item.rowStatus
  split
  · nofun
  · split <;> nofun
  · exact hvalue _
  · exact hvalue _
  · exact hvalue _

end Views

section Batches

/-- What is written of an item. -/
def Item.entry
    (i : Item) : Key × Stored :=
  (i.key, i.stored)

theorem writes_of_find
    {rows rows' : InventoryRows} {item : Item} {syncTime : DateTime} {id : Nat}
    (hself : rows'.find item.key = some (convertItemToDbFormat item syncTime id))
    (hothers : ∀ k, k ≠ item.key → rows'.find k = rows.find k) :
    Writes (copyOf rows) (copyOf rows') [item.entry] where
  written := fun p hp => by
    obtain rfl := List.mem_singleton.mp hp
    refine copyOf_eq_some.mpr ⟨_, (find_row.mp hself).1, rfl, rowStatus_ne_stale item, rfl⟩
  others := fun k hk => by
    have hne : k ≠ item.key := fun h => hk item.entry List.mem_cons_self h.symm
    exact copyOf_congr (hothers k hne)

theorem insertItem_writes
    {syncTime : DateTime} {state state' : InventoryRows × Nat} {item : Item}
    (h : insertItem syncTime state item = some state') :
    Writes (copyOf state.1) (copyOf state'.1) [item.entry] := by
  obtain ⟨rows', hrows, rfl⟩ := Option.map_eq_some_iff.mp h
  refine writes_of_find (IndexedTable.find_insert_self hrows rfl) (fun k hk => ?_)
  exact IndexedTable.find_insert_of_ne hrows (fun hkey => hk (Option.some.inj hkey).symm)

theorem updateItem_eq_some
    {existing : List (String × Nat)} {syncTime : DateTime} {rows rows' : InventoryRows}
    {item : Item}
    (h : updateItem existing syncTime rows item = some rows') :
    ∃ id, rows' = rows.put (convertItemToDbFormat item syncTime id) := by
  unfold updateItem at h
  split at h
  · cases h
  · next r hfind =>
      split at h
      · cases h
        exact ⟨r.id, rfl⟩
      · cases h

theorem updateItem_writes
    {existing : List (String × Nat)} {syncTime : DateTime} {rows rows' : InventoryRows}
    {item : Item}
    (h : updateItem existing syncTime rows item = some rows') :
    Writes (copyOf rows) (copyOf rows') [item.entry] := by
  obtain ⟨id, rfl⟩ := updateItem_eq_some h
  refine writes_of_find (IndexedTable.find_put_self rows rfl) (fun k hk => ?_)
  exact IndexedTable.find_put_of_ne rows (fun hkey => hk (Option.some.inj hkey).symm)

variable {existing : List (String × Nat)} {syncTime : DateTime} {items : List Item}
variable {rows rows' : InventoryRows} {nextId nextId' : Nat}

theorem flushBatch_eq_some
    (h : flushBatch existing syncTime items rows nextId = some (rows', nextId')) :
    ∃ inserted, (toInsert existing items).foldlM (insertItem syncTime) (rows, nextId) =
        some inserted ∧
      (toUpdate existing items).foldlM (updateItem existing syncTime) inserted.1 =
        some rows' := by
  unfold flushBatch at h
  obtain ⟨inserted, hinserted, hrest⟩ := Option.bind_eq_some_iff.mp h
  obtain ⟨updated, hupdated, heq⟩ := Option.bind_eq_some_iff.mp hrest
  cases heq
  exact ⟨inserted, hinserted, hupdated⟩

/-- A batch writes its items. -/
theorem flushBatch_writes
    (h : flushBatch existing syncTime items rows nextId = some (rows', nextId'))
    (hnodup : (items.map Item.key).Nodup) :
    Writes (copyOf rows) (copyOf rows') (items.map Item.entry) := by
  obtain ⟨inserted, hinserted, hupdated⟩ := flushBatch_eq_some h
  have hsub : ∀ p : Item → Bool, ((items.filter p).map Item.key).Nodup := fun p =>
    hnodup.sublist (List.filter_sublist.map Item.key)
  have hfirst : Writes (copyOf rows) (copyOf inserted.1)
      ((toInsert existing items).map Item.entry) :=
    @Writes.foldlM _ _ _ _ (insertItem syncTime) (fun state => copyOf state.1) Item.entry
      (fun _ _ _ => insertItem_writes) _ _ _ hinserted (hsub _)
  have hsecond : Writes (copyOf inserted.1) (copyOf rows')
      ((toUpdate existing items).map Item.entry) :=
    Writes.foldlM (fun _ _ _ => updateItem_writes) hupdated (hsub _)
  have hkeys : ∀ i ∈ items, ∀ j ∈ items, i.key = j.key → i = j := fun i hi j hj hkey =>
    List.inj_on_of_nodup_map hnodup hi hj hkey
  refine (hfirst.append hsecond ?_).congr ?_
  · intro p hp q hq hkey
    obtain ⟨i, hi, rfl⟩ := List.mem_map.mp hp
    obtain ⟨j, hj, rfl⟩ := List.mem_map.mp hq
    obtain ⟨hi, hnone⟩ := List.mem_filter.mp hi
    obtain ⟨hj, hsome⟩ := List.mem_filter.mp hj
    rw [hkeys j hj i hi hkey] at hsome
    cases hlookup : existing.lookup i.id with
    | none => simp [hlookup] at hsome
    | some id => simp [hlookup] at hnone
  · intro p
    simp only [List.mem_append, List.mem_map, toInsert, toUpdate, List.mem_filter]
    constructor
    · rintro ⟨i, hi, rfl⟩
      cases hlookup : existing.lookup i.id with
      | none => exact .inl ⟨i, ⟨hi, by simp [hlookup]⟩, rfl⟩
      | some id => exact .inr ⟨i, ⟨hi, by simp [hlookup]⟩, rfl⟩
    · rintro (⟨i, ⟨hi, -⟩, rfl⟩ | ⟨i, ⟨hi, -⟩, rfl⟩)
      · exact ⟨i, hi, rfl⟩
      · exact ⟨i, hi, rfl⟩

theorem foldlM_invariant
    {σ α : Type*}
    {f : σ → α → Option σ} {Inv : σ → Prop}
    (hstep : ∀ s a s', f s a = some s' → Inv s → Inv s')
    {l : List α} {s s' : σ}
    (h : l.foldlM f s = some s')
    (hs : Inv s) :
    Inv s' := by
  induction l generalizing s with
  | nil =>
      cases h
      exact hs
  | cons a l ih =>
      rw [List.foldlM_cons] at h
      obtain ⟨middle, hfirst, hlater⟩ := Option.bind_eq_some_iff.mp h
      exact ih hlater (hstep s a middle hfirst hs)

/-- What the rows and the written ones satisfy. -/
theorem forall_flushBatch
    {P : GAMInventory → Prop}
    (h : flushBatch existing syncTime items rows nextId = some (rows', nextId'))
    (hrows : ∀ r ∈ rows, P r)
    (hnew : ∀ item id, P (convertItemToDbFormat item syncTime id)) :
    ∀ r ∈ rows', P r := by
  obtain ⟨inserted, hinserted, hupdated⟩ := flushBatch_eq_some h
  have hfirst : ∀ r ∈ inserted.1, P r := by
    have hstep : ∀ (state : InventoryRows × Nat) item state',
        insertItem syncTime state item = some state' → (∀ r ∈ state.1, P r) →
          ∀ r ∈ state'.1, P r := by
      intro state item state' hstep hP r hr
      obtain ⟨rows, hrows, rfl⟩ := Option.map_eq_some_iff.mp hstep
      rcases (IndexedTable.mem_insert hrows r).mp hr with rfl | hold
      · exact hnew item _
      · exact hP r hold
    exact foldlM_invariant hstep hinserted hrows
  have hstep : ∀ (state : InventoryRows) item state',
      updateItem existing syncTime state item = some state' → (∀ r ∈ state, P r) →
        ∀ r ∈ state', P r := by
    intro state item state' hstep hP r hr
    obtain ⟨id, rfl⟩ := updateItem_eq_some hstep
    rcases (IndexedTable.mem_put state).mp hr with rfl | ⟨hold, -⟩
    · exact hnew item id
    · exact hP r hold
  exact foldlM_invariant hstep hupdated hfirst

end Batches

end Inventory
end SalesAgent
