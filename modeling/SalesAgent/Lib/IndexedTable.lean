import Mathlib.Data.List.Basic

/-!
# Tables with a partial unique index

A table is a list of rows.  A partial unique index reads a key off each row,
or nothing: rows without a key are outside the index, and no two rows of the
table carry the same key.  The index is a field of the table, so a table that
violates it cannot be built.

**Operations.**
* `insert` refuses a row whose key another row already carries.
* `deleteWhere` removes the rows that satisfy a test.
* `find` returns the row that carries a key.
* `modify` changes the row under a key, `map` changes every row, and `put` stores a
  row under its key whether or not the key was taken.

**Results.**  `find_eq_some_iff` reads a lookup as membership; `mem_insert`,
`mem_deleteWhere`, `mem_modify` and `mem_put` say what each operation does to the
set of rows, and `find_insert_self`, `find_modify_self` and `find_put_self`, with the lemmas
of the other keys, what it does to later lookups.  The rows of one owner are a `part` of the table: a key that only
they can carry is looked up among them, and what is done to them is done to the part.
-/

namespace SalesAgent

universe u v w

/-- Rows with a partial unique index `key`. -/
structure IndexedTable (ρ : Type u) (κ : Type v) (key : ρ → Option κ) where
  rows : List ρ
  unique : rows.Pairwise (fun r r' => ∀ k, key r = some k → key r' ≠ some k)

namespace IndexedTable

variable {ρ : Type u} {κ : Type v} {key : ρ → Option κ}

instance : Membership ρ (IndexedTable ρ κ key) where
  mem t r := r ∈ t.rows

theorem mem_def
    (t : IndexedTable ρ κ key)
    (r : ρ) :
    r ∈ t ↔ r ∈ t.rows :=
  Iff.rfl

/-- The table without rows. -/
def empty : IndexedTable ρ κ key where
  rows := []
  unique := List.Pairwise.nil

@[simp] theorem not_mem_empty
    (r : ρ) :
    ¬ r ∈ (empty : IndexedTable ρ κ key) := by
  simp [mem_def, empty]

theorem eq_of_rows
    {t t' : IndexedTable ρ κ key}
    (h : t.rows = t'.rows) :
    t = t' := by
  cases t
  cases t'
  simpa using h

theorem eq_of_key_eq
    (t : IndexedTable ρ κ key)
    {r r' : ρ} {k : κ}
    (hr : r ∈ t)
    (hr' : r' ∈ t)
    (hk : key r = some k)
    (hk' : key r' = some k) :
    r = r' := by
  rcases t with ⟨rows, hrows⟩
  change r ∈ rows at hr
  change r' ∈ rows at hr'
  induction rows with
  | nil =>
      simp at hr
  | cons x xs ih =>
      rw [List.pairwise_cons] at hrows
      rcases List.mem_cons.mp hr with rfl | hxs
      · rcases List.mem_cons.mp hr' with rfl | hxs'
        · rfl
        · exact absurd hk' (hrows.1 r' hxs' k hk)
      · rcases List.mem_cons.mp hr' with rfl | hxs'
        · exact absurd hk (hrows.1 r hxs k hk')
        · exact ih hrows.2 hxs hxs'

/-- Delete the rows that satisfy a test. -/
def deleteWhere
    (t : IndexedTable ρ κ key)
    (p : ρ → Bool) : IndexedTable ρ κ key where
  rows := t.rows.filter (fun r => ! p r)
  unique := t.unique.sublist List.filter_sublist

@[simp] theorem mem_deleteWhere
    (t : IndexedTable ρ κ key)
    (p : ρ → Bool)
    (r : ρ) :
    r ∈ t.deleteWhere p ↔ r ∈ t ∧ p r = false := by
  simp [mem_def, deleteWhere]

variable [DecidableEq κ]

/-- The row that carries the key. -/
def find
    (t : IndexedTable ρ κ key)
    (k : κ) : Option ρ :=
  t.rows.find? (fun r => key r = some k)

theorem find_eq_some_iff
    (t : IndexedTable ρ κ key)
    {k : κ} {r : ρ} :
    t.find k = some r ↔ r ∈ t ∧ key r = some k := by
  constructor
  · intro h
    have hkey := List.find?_some h
    exact ⟨List.mem_of_find?_eq_some h, by simpa using hkey⟩
  · rintro ⟨hmem, hkey⟩
    cases hfind : t.find k with
    | none =>
        have hnone := List.find?_eq_none.mp hfind r hmem
        simp [hkey] at hnone
    | some r' =>
        have hkey' : key r' = some k := by
          simpa using List.find?_some hfind
        have hmem' : r' ∈ t := List.mem_of_find?_eq_some hfind
        rw [t.eq_of_key_eq hmem' hmem hkey' hkey]

theorem find_eq_none_iff
    (t : IndexedTable ρ κ key)
    {k : κ} :
    t.find k = none ↔ ∀ r ∈ t, key r ≠ some k := by
  simp [find, List.find?_eq_none, mem_def]

/-- The rows that already carry the key of `r`. -/
def Conflicts
    (t : IndexedTable ρ κ key)
    (r : ρ) : Prop :=
  ∃ k, key r = some k ∧ ∃ r' ∈ t, key r' = some k

theorem conflicts_iff_find
    (t : IndexedTable ρ κ key)
    {r : ρ} {k : κ}
    (hk : key r = some k) :
    t.Conflicts r ↔ (t.find k).isSome := by
  rw [Option.isSome_iff_exists]
  constructor
  · rintro ⟨k', hk', r', hmem, hkey⟩
    rw [hk] at hk'
    cases hk'
    exact ⟨r', t.find_eq_some_iff.mpr ⟨hmem, hkey⟩⟩
  · rintro ⟨r', hfind⟩
    have h := t.find_eq_some_iff.mp hfind
    exact ⟨k, hk, r', h.1, h.2⟩

instance
    (t : IndexedTable ρ κ key)
    (r : ρ) :
    Decidable (∀ r' ∈ t.rows, ∀ k, key r = some k → key r' ≠ some k) :=
  match hk : key r with
  | none => isTrue (fun _ _ k h => by simp at h)
  | some k =>
      decidable_of_iff (∀ r' ∈ t.rows, key r' ≠ some k)
        ⟨fun h r' hr' k' hk' => by cases hk'; exact h r' hr',
          fun h r' hr' => h r' hr' k rfl⟩

/-- Insert a row, or refuse it with a unique violation. -/
def insert
    (t : IndexedTable ρ κ key)
    (r : ρ) : Option (IndexedTable ρ κ key) :=
  if h : ∀ r' ∈ t.rows, ∀ k, key r = some k → key r' ≠ some k then
    some ⟨r :: t.rows, List.pairwise_cons.mpr ⟨h, t.unique⟩⟩
  else
    none

theorem insert_eq_some_iff
    (t : IndexedTable ρ κ key)
    {r : ρ} {t' : IndexedTable ρ κ key} :
    t.insert r = some t' ↔ ¬ t.Conflicts r ∧ t'.rows = r :: t.rows := by
  unfold insert Conflicts
  split
  · next h =>
      constructor
      · intro heq
        cases heq
        exact ⟨fun ⟨k, hk, r', hr', hk'⟩ => h r' hr' k hk hk', rfl⟩
      · rintro ⟨-, hrows⟩
        cases t'
        simp_all
  · next h =>
      push Not at h
      rcases h with ⟨r', hr', k, hk, hk'⟩
      simp only [reduceCtorEq, false_iff, not_and]
      exact fun hno => absurd ⟨k, hk, r', hr', hk'⟩ hno

theorem insert_eq_none_iff
    (t : IndexedTable ρ κ key)
    {r : ρ} :
    t.insert r = none ↔ t.Conflicts r := by
  cases h : t.insert r with
  | none =>
      simp only [true_iff]
      by_contra hno
      unfold insert at h
      split at h
      · cases h
      · next hall =>
          push Not at hall
          rcases hall with ⟨r', hr', k, hk, hk'⟩
          exact hno ⟨k, hk, r', hr', hk'⟩
  | some t' =>
      simpa using (t.insert_eq_some_iff.mp h).1

theorem mem_insert
    {t t' : IndexedTable ρ κ key} {r : ρ}
    (h : t.insert r = some t')
    (r' : ρ) :
    r' ∈ t' ↔ r' = r ∨ r' ∈ t := by
  rw [mem_def, (t.insert_eq_some_iff.mp h).2, List.mem_cons, mem_def]

theorem insert_eq_none_congr
    {t t' : IndexedTable ρ κ key} {r : ρ} {k : κ}
    (hkey : key r = some k)
    (h : t.find k = t'.find k) :
    t.insert r = none ↔ t'.insert r = none := by
  rw [insert_eq_none_iff, insert_eq_none_iff, conflicts_iff_find _ hkey, conflicts_iff_find _ hkey,
    h]

/-- After an accepted insert, the row is found under its key. -/
theorem find_insert_self
    {t t' : IndexedTable ρ κ key} {r : ρ} {k : κ}
    (h : t.insert r = some t')
    (hk : key r = some k) :
    t'.find k = some r :=
  t'.find_eq_some_iff.mpr ⟨(mem_insert h r).mpr (.inl rfl), hk⟩

theorem find_insert_of_ne
    {t t' : IndexedTable ρ κ key} {r : ρ} {k : κ}
    (h : t.insert r = some t')
    (hk : key r ≠ some k) :
    t'.find k = t.find k := by
  unfold find
  rw [(t.insert_eq_some_iff.mp h).2, List.find?_cons_of_neg (by simpa using hk)]

theorem find_deleteWhere_of_keep
    {t : IndexedTable ρ κ key} {p : ρ → Bool} {r : ρ} {k : κ}
    (h : t.find k = some r)
    (hp : p r = false) :
    (t.deleteWhere p).find k = some r := by
  have hmem := t.find_eq_some_iff.mp h
  exact (t.deleteWhere p).find_eq_some_iff.mpr
    ⟨(t.mem_deleteWhere p r).mpr ⟨hmem.1, hp⟩, hmem.2⟩

theorem find_deleteWhere_of_key
    (t : IndexedTable ρ κ key)
    {p : ρ → Bool} {k : κ}
    (hp : ∀ r, key r = some k → p r = false) :
    (t.deleteWhere p).find k = t.find k := by
  ext r
  constructor
  · intro h
    obtain ⟨hmem, hk⟩ := (find_eq_some_iff _).mp h
    exact t.find_eq_some_iff.mpr ⟨((t.mem_deleteWhere p r).mp hmem).1, hk⟩
  · intro h
    exact find_deleteWhere_of_keep h (hp r (t.find_eq_some_iff.mp h).2)

/-- Change the row under a key; the change keeps the key. -/
def modify
    (t : IndexedTable ρ κ key)
    (k : κ)
    (f : ρ → ρ)
    (hf : ∀ r, key (f r) = key r) : IndexedTable ρ κ key where
  rows := t.rows.map (fun r => if key r = some k then f r else r)
  unique := by
    have hkey : ∀ r, key (if key r = some k then f r else r) = key r := by
      intro r
      split
      · exact hf r
      · rfl
    rw [List.pairwise_map]
    simpa only [hkey] using t.unique

theorem mem_modify
    (t : IndexedTable ρ κ key)
    {k : κ} {f : ρ → ρ} {hf : ∀ r, key (f r) = key r} {r' : ρ} :
    r' ∈ t.modify k f hf ↔ ∃ r ∈ t, (if key r = some k then f r else r) = r' := by
  simp [mem_def, modify]

theorem mem_modify_self
    {t : IndexedTable ρ κ key}
    {k : κ} {f : ρ → ρ} {r : ρ}
    (hf : ∀ r, key (f r) = key r)
    (hr : r ∈ t)
    (hk : key r = some k) :
    f r ∈ t.modify k f hf :=
  t.mem_modify.mpr ⟨r, hr, if_pos hk⟩

theorem mem_modify_of_ne
    {t : IndexedTable ρ κ key}
    {k : κ} {f : ρ → ρ} {r : ρ}
    (hf : ∀ r, key (f r) = key r)
    (hr : r ∈ t)
    (hk : key r ≠ some k) :
    r ∈ t.modify k f hf :=
  t.mem_modify.mpr ⟨r, hr, if_neg hk⟩

theorem find_modify_self
    (t : IndexedTable ρ κ key)
    (k : κ)
    (f : ρ → ρ)
    (hf : ∀ r, key (f r) = key r) :
    (t.modify k f hf).find k = (t.find k).map f := by
  cases h : t.find k with
  | none =>
      have hnone := t.find_eq_none_iff.mp h
      refine (find_eq_none_iff _).mpr ?_
      intro r' hr'
      rcases t.mem_modify.mp hr' with ⟨r, hr, rfl⟩
      rw [if_neg (hnone r hr)]
      exact hnone r hr
  | some r =>
      have hr := t.find_eq_some_iff.mp h
      refine (find_eq_some_iff _).mpr ⟨t.mem_modify.mpr ⟨r, hr.1, if_pos hr.2⟩, ?_⟩
      rw [hf]
      exact hr.2

theorem find_modify_of_ne
    (t : IndexedTable ρ κ key)
    {k k' : κ}
    (f : ρ → ρ)
    (hf : ∀ r, key (f r) = key r)
    (hne : k' ≠ k) :
    (t.modify k f hf).find k' = t.find k' := by
  have hkey : ∀ r, key (if key r = some k then f r else r) = key r := by
    intro r
    split
    · exact hf r
    · rfl
  have hkeep : ∀ r, key r = some k' → (if key r = some k then f r else r) = r := by
    intro r hr
    rw [if_neg]
    rw [hr]
    simpa using hne
  ext r
  constructor
  · intro h
    obtain ⟨hmem, hk⟩ := (find_eq_some_iff _).mp h
    obtain ⟨r₀, hr₀, rfl⟩ := t.mem_modify.mp hmem
    rw [hkey] at hk
    rw [hkeep r₀ hk]
    exact t.find_eq_some_iff.mpr ⟨hr₀, hk⟩
  · intro h
    obtain ⟨hmem, hk⟩ := t.find_eq_some_iff.mp h
    exact (find_eq_some_iff _).mpr ⟨t.mem_modify.mpr ⟨r, hmem, hkeep r hk⟩, hk⟩

theorem isSome_find_modify
    (t : IndexedTable ρ κ key)
    (k k' : κ)
    (f : ρ → ρ)
    (hf : ∀ r, key (f r) = key r) :
    ((t.modify k f hf).find k').isSome = (t.find k').isSome := by
  by_cases h : k' = k
  · subst h
    rw [find_modify_self, Option.isSome_map]
  · rw [find_modify_of_ne t f hf h]

theorem isSome_find_insert
    {t t' : IndexedTable ρ κ key} {r : ρ} {k : κ}
    (h : t.insert r = some t')
    (hk : (t.find k).isSome) :
    (t'.find k).isSome := by
  by_cases hr : key r = some k
  · rw [find_insert_self h hr]
    rfl
  · rw [find_insert_of_ne h hr]
    exact hk

/-- Store a row under its key, in place of the row that carried it. -/
def put
    (t : IndexedTable ρ κ key)
    (r : ρ) : IndexedTable ρ κ key where
  rows := r :: t.rows.filter (fun r' => key r = none ∨ key r' ≠ key r)
  unique := by
    refine List.pairwise_cons.mpr ⟨?_, t.unique.sublist List.filter_sublist⟩
    intro r' hr' k hk hk'
    have hkeep := (List.mem_filter.mp hr').2
    simp [hk, hk'] at hkeep

theorem mem_put
    (t : IndexedTable ρ κ key)
    {r r' : ρ} :
    r' ∈ t.put r ↔ r' = r ∨ r' ∈ t ∧ (key r = none ∨ key r' ≠ key r) := by
  simp [mem_def, put]

theorem find_put_self
    (t : IndexedTable ρ κ key)
    {r : ρ} {k : κ}
    (hk : key r = some k) :
    (t.put r).find k = some r :=
  (find_eq_some_iff _).mpr ⟨t.mem_put.mpr (.inl rfl), hk⟩

theorem find_put_of_ne
    (t : IndexedTable ρ κ key)
    {r : ρ} {k : κ}
    (hk : key r ≠ some k) :
    (t.put r).find k = t.find k := by
  ext r'
  constructor
  · intro h
    obtain ⟨hmem, hk'⟩ := (find_eq_some_iff _).mp h
    rcases t.mem_put.mp hmem with rfl | ⟨hold, -⟩
    · exact absurd hk' hk
    · exact t.find_eq_some_iff.mpr ⟨hold, hk'⟩
  · intro h
    obtain ⟨hmem, hk'⟩ := t.find_eq_some_iff.mp h
    refine (find_eq_some_iff _).mpr ⟨t.mem_put.mpr (.inr ⟨hmem, .inr ?_⟩), hk'⟩
    rw [hk']
    exact fun h => hk h.symm

section Map

variable {ρ' : Type w} {key' : ρ' → Option κ}

/-- Change every row; the change keeps the keys. -/
def map
    (t : IndexedTable ρ κ key)
    (f : ρ → ρ')
    (hf : ∀ r, key' (f r) = key r) : IndexedTable ρ' κ key' where
  rows := t.rows.map f
  unique := by
    rw [List.pairwise_map]
    simpa only [hf] using t.unique

omit [DecidableEq κ] in
theorem mem_map
    (t : IndexedTable ρ κ key)
    {f : ρ → ρ'} {hf : ∀ r, key' (f r) = key r} {r' : ρ'} :
    r' ∈ t.map f hf ↔ ∃ r ∈ t, f r = r' := by
  simp [mem_def, map]

theorem find_map
    (t : IndexedTable ρ κ key)
    (f : ρ → ρ')
    (hf : ∀ r, key' (f r) = key r)
    (k : κ) :
    (t.map f hf).find k = (t.find k).map f := by
  cases h : t.find k with
  | none =>
      refine (find_eq_none_iff _).mpr ?_
      intro r' hr'
      obtain ⟨r, hr, rfl⟩ := t.mem_map.mp hr'
      rw [hf]
      exact t.find_eq_none_iff.mp h r hr
  | some r =>
      have hr := t.find_eq_some_iff.mp h
      refine (find_eq_some_iff _).mpr ⟨t.mem_map.mpr ⟨r, hr.1, rfl⟩, ?_⟩
      rw [hf]
      exact hr.2

end Map

section Part

/-- The rows that satisfy a test, in their order. -/
def part
    (t : IndexedTable ρ κ key)
    (p : ρ → Bool) : List ρ :=
  t.rows.filter p

omit [DecidableEq κ] in
theorem mem_part
    (t : IndexedTable ρ κ key)
    {p : ρ → Bool} {r : ρ} :
    r ∈ t.part p ↔ r ∈ t ∧ p r = true :=
  List.mem_filter

theorem find_eq_find?_part
    (t : IndexedTable ρ κ key)
    {p : ρ → Bool} {k : κ}
    (hp : ∀ r ∈ t, key r = some k → p r = true) :
    t.find k = (t.part p).find? (fun r => key r = some k) := by
  rw [find, part, List.find?_filter, ← List.head?_filter, ← List.head?_filter]
  refine congrArg List.head? (List.filter_congr ?_)
  intro r hr
  by_cases hk : key r = some k
  · simp [hk, hp r hr hk]
  · simp [hk]

theorem part_put
    (t : IndexedTable ρ κ key)
    {p : ρ → Bool} {r : ρ}
    (hp : p r = true) :
    (t.put r).part p =
      r :: (t.part p).filter (fun r' => key r = none ∨ key r' ≠ key r) := by
  simp only [part, put, List.filter_cons, hp, if_true, List.filter_filter]
  congr 2
  funext r'
  exact Bool.and_comm _ _

theorem part_put_of_not
    (t : IndexedTable ρ κ key)
    {p : ρ → Bool} {r : ρ}
    (hp : p r = false)
    (hkey : ∀ r' ∈ t, p r' = true → key r' ≠ key r) :
    (t.put r).part p = t.part p := by
  simp only [part, put, List.filter_cons, hp, Bool.false_eq_true, if_false, List.filter_filter]
  refine List.filter_congr ?_
  intro r' hr'
  by_cases hr : p r' = true
  · simp [hr, hkey r' hr' hr]
  · simp [Bool.eq_false_iff.mpr hr]

omit [DecidableEq κ] in
theorem part_deleteWhere_not
    (t : IndexedTable ρ κ key)
    (p : ρ → Bool) :
    (t.deleteWhere (fun r => ! p r)).part p = t.part p := by
  simp [part, deleteWhere, List.filter_filter]

theorem part_insert
    {t t' : IndexedTable ρ κ key} {p : ρ → Bool} {r : ρ}
    (h : t.insert r = some t')
    (hp : p r = true) :
    t'.part p = r :: t.part p := by
  simp only [part, (t.insert_eq_some_iff.mp h).2, List.filter_cons, hp, if_true]

theorem part_insert_of_not
    {t t' : IndexedTable ρ κ key} {p : ρ → Bool} {r : ρ}
    (h : t.insert r = some t')
    (hp : p r = false) :
    t'.part p = t.part p := by
  simp only [part, (t.insert_eq_some_iff.mp h).2, List.filter_cons, hp, Bool.false_eq_true,
    if_false]

theorem part_modify
    (t : IndexedTable ρ κ key)
    {p : ρ → Bool} {k : κ} {f : ρ → ρ}
    (hf : ∀ r, key (f r) = key r)
    (hp : ∀ r, p (f r) = p r) :
    (t.modify k f hf).part p =
      (t.part p).map (fun r => if key r = some k then f r else r) := by
  simp only [part, modify, List.filter_map]
  congr 2
  funext r
  simp only [Function.comp_apply]
  split
  · exact hp r
  · rfl

omit [DecidableEq κ] in
theorem part_map
    (t : IndexedTable ρ κ key)
    {p : ρ → Bool} {f : ρ → ρ}
    (hf : ∀ r, key (f r) = key r)
    (hp : ∀ r, p (f r) = p r) :
    (t.map f hf).part p = (t.part p).map f := by
  simp only [part, map, List.filter_map]
  congr 2
  funext r
  exact hp r

end Part

end IndexedTable
end SalesAgent
