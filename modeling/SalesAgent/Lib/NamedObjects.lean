import Mathlib.Data.List.Basic

/-!
# Objects behind names

A program that keeps mutable objects in a dictionary has two things: the objects, which
stay where they are, and the names, each of which refers to the object last bound to it.
Code that holds an object writes to the object, whatever its name refers to by then; code
that is given a name writes to the object the name refers to.

**Results.**
* `find_after_bind`: after a binding, and as long as the name is not bound again, the
  object found under the name is the bound object after its own writes, in order.
* `find_eq_none_of_not_bound`: a name that was never bound refers to nothing.
* `forall_objects_run`: what every bound object has and every write keeps, all objects have.
-/

namespace SalesAgent

universe u v

/-- Objects, and the names that refer to them.  A name refers to an object that exists, and
no two names refer to one object. -/
structure NamedObjects (κ : Type u) (α : Type v) [DecidableEq κ] where
  objects : List α
  names : List (κ × Nat)
  bound : ∀ name n, names.lookup name = some n → n < objects.length
  apart : ∀ name name' n,
    names.lookup name = some n → names.lookup name' = some n → name = name'

namespace NamedObjects

variable {κ : Type u} {α : Type v} [DecidableEq κ]

/-- No objects. -/
def empty : NamedObjects κ α where
  objects := []
  names := []
  bound := by
    intro name n h
    cases h
  apart := by
    intro name name' n h
    cases h

/-- The object a name refers to, by its place. -/
def refer
    (s : NamedObjects κ α)
    (name : κ) : Option Nat :=
  s.names.lookup name

/-- The object a name refers to. -/
def find
    (s : NamedObjects κ α)
    (name : κ) : Option α :=
  (s.refer name).bind (fun n => s.objects[n]?)

theorem lookup_cons_eq_ite
    (names : List (κ × Nat))
    (name other : κ)
    (n : Nat) :
    ((name, n) :: names).lookup other = if other = name then some n else names.lookup other := by
  rw [List.lookup_cons]
  by_cases h : other = name
  · simp [h]
  · simp [h, beq_eq_false_iff_ne.mpr h]

/-- Bind a name to a new object. -/
def bind
    (s : NamedObjects κ α)
    (name : κ)
    (object : α) : NamedObjects κ α where
  objects := s.objects ++ [object]
  names := (name, s.objects.length) :: s.names
  bound := by
    intro other n h
    rw [lookup_cons_eq_ite] at h
    rw [List.length_append, List.length_singleton]
    split at h
    · cases h
      omega
    · have := s.bound other n h
      omega
  apart := by
    intro first second n hfirst hsecond
    rw [lookup_cons_eq_ite] at hfirst hsecond
    split at hfirst <;> split at hsecond
    · rename_i h h'
      exact h.trans h'.symm
    · cases hfirst
      exact absurd (s.bound _ _ hsecond) (Nat.lt_irrefl _)
    · cases hsecond
      exact absurd (s.bound _ _ hfirst) (Nat.lt_irrefl _)
    · exact s.apart first second n hfirst hsecond

/-- Write to the object at a place. -/
def change
    (s : NamedObjects κ α)
    (n : Nat)
    (f : α → α) : NamedObjects κ α where
  objects := s.objects.modify n f
  names := s.names
  bound := by
    intro name m h
    rw [List.length_modify]
    exact s.bound name m h
  apart := s.apart

/-- Write to the object a name refers to. -/
def changeNamed
    (s : NamedObjects κ α)
    (name : κ)
    (f : α → α) : NamedObjects κ α :=
  match s.refer name with
  | none => s
  | some n => s.change n f

/-- What a program can do to the objects. -/
inductive Write (κ : Type u) (α : Type v)
  | bind (name : κ) (object : α)
  | change (n : Nat) (f : α → α)
  | changeNamed (name : κ) (f : α → α)

/-- One write. -/
def write
    (s : NamedObjects κ α) : Write κ α → NamedObjects κ α
  | .bind name object => s.bind name object
  | .change n f => s.change n f
  | .changeNamed name f => s.changeNamed name f

/-- The writes of a program, in order. -/
def run
    (s : NamedObjects κ α)
    (writes : List (Write κ α)) : NamedObjects κ α :=
  writes.foldl write s

/-- The write binds the name. -/
def Write.Binds
    (name : κ) : Write κ α → Prop
  | .bind other _ => other = name
  | _ => False

/-- What a write does to the object at place `n`, to which `name` refers. -/
def Write.own
    (n : Nat)
    (name : κ) : Write κ α → α → α
  | .bind _ _, object => object
  | .change m f, object => if m = n then f object else object
  | .changeNamed other f, object => if other = name then f object else object

/-- What a write makes of an object, where it does anything to it. -/
def Write.Keeps
    (P : α → Prop) : Write κ α → Prop
  | .bind _ object => P object
  | .change _ f => ∀ object, P object → P (f object)
  | .changeNamed _ f => ∀ object, P object → P (f object)

@[simp] theorem refer_changeNamed
    (s : NamedObjects κ α)
    (other : κ)
    (f : α → α)
    (name : κ) :
    (s.changeNamed other f).refer name = s.refer name := by
  unfold changeNamed
  split
  · rfl
  · rfl

theorem refer_bind_self
    (s : NamedObjects κ α)
    (name : κ)
    (object : α) :
    (s.bind name object).refer name = some s.objects.length :=
  (lookup_cons_eq_ite s.names name name s.objects.length).trans (if_pos rfl)

theorem refer_bind_of_ne
    (s : NamedObjects κ α)
    {other name : κ}
    (object : α)
    (hne : other ≠ name) :
    (s.bind other object).refer name = s.refer name :=
  (lookup_cons_eq_ite s.names other name s.objects.length).trans (if_neg (Ne.symm hne))

theorem find_eq_some_iff
    (s : NamedObjects κ α)
    (name : κ)
    (object : α) :
    s.find name = some object ↔ ∃ n, s.refer name = some n ∧ s.objects[n]? = some object := by
  simp [find, Option.bind_eq_some_iff]

theorem find_eq_none_iff
    (s : NamedObjects κ α)
    (name : κ) :
    s.find name = none ↔ s.refer name = none := by
  constructor
  · intro h
    cases hrefer : s.refer name with
    | none => rfl
    | some n =>
        have hlt := s.bound name n hrefer
        rw [find, hrefer, Option.bind_some, List.getElem?_eq_none_iff] at h
        omega
  · intro h
    rw [find, h, Option.bind_none]

/-- A write to the object a name refers to, and no other. -/
theorem objects_changeNamed
    (s : NamedObjects κ α)
    {n : Nat}
    {name other : κ}
    {object : α}
    (f : α → α)
    (hrefer : s.refer name = some n)
    (hobject : s.objects[n]? = some object) :
    (s.changeNamed other f).objects[n]? = some (if other = name then f object else object) := by
  unfold changeNamed
  by_cases hsame : other = name
  · subst hsame
    simp [hrefer, change, hobject]
  · rw [if_neg hsame]
    cases hother : s.refer other with
    | none => exact hobject
    | some m =>
        have hne : m ≠ n := fun h => hsame (s.apart other name n (h ▸ hother) hrefer)
        simp [change, hne, hobject]

/-- A write that does not bind the name does its own part to the object. -/
theorem write_own
    (s : NamedObjects κ α)
    {n : Nat}
    {name : κ}
    {object : α}
    {w : Write κ α}
    (hrefer : s.refer name = some n)
    (hobject : s.objects[n]? = some object)
    (hkeep : ¬ w.Binds name) :
    (s.write w).refer name = some n ∧
      (s.write w).objects[n]? = some (w.own n name object) := by
  cases w with
  | bind other new =>
      refine ⟨(s.refer_bind_of_ne new hkeep).trans hrefer, ?_⟩
      have hlt := s.bound name n hrefer
      change (s.objects ++ [new])[n]? = some object
      rw [List.getElem?_append_left hlt, hobject]
  | change m f =>
      refine ⟨hrefer, ?_⟩
      change (s.objects.modify m f)[n]? = some (if m = n then f object else object)
      rw [List.getElem?_modify, hobject]
      by_cases h : m = n
      · simp [h]
      · simp [h]
  | changeNamed other f =>
      exact ⟨(s.refer_changeNamed other f name).trans hrefer,
        s.objects_changeNamed f hrefer hobject⟩

/-- An object after the writes that do not bind its name again. -/
theorem run_own
    {s : NamedObjects κ α}
    {n : Nat}
    {name : κ}
    {object : α}
    {writes : List (Write κ α)}
    (hrefer : s.refer name = some n)
    (hobject : s.objects[n]? = some object)
    (hkeep : ∀ w ∈ writes, ¬ w.Binds name) :
    (s.run writes).refer name = some n ∧
      (s.run writes).objects[n]? =
        some (writes.foldl (fun object w => w.own n name object) object) := by
  induction writes generalizing s object with
  | nil => exact ⟨hrefer, hobject⟩
  | cons w rest ih =>
      obtain ⟨hrefer', hobject'⟩ := s.write_own hrefer hobject (hkeep w List.mem_cons_self)
      exact ih hrefer' hobject' (fun w' hw' => hkeep w' (List.mem_cons_of_mem _ hw'))

/-- After a binding, the name finds the bound object after its own writes. -/
theorem find_after_bind
    (s : NamedObjects κ α)
    (name : κ)
    (object : α)
    {writes : List (Write κ α)}
    (hkeep : ∀ w ∈ writes, ¬ w.Binds name) :
    ((s.bind name object).run writes).find name =
      some (writes.foldl (fun object w => w.own s.objects.length name object) object) := by
  have hobject : (s.bind name object).objects[s.objects.length]? = some object := by
    simp [bind]
  obtain ⟨hrefer', hobject'⟩ := run_own (s.refer_bind_self name object) hobject hkeep
  exact (find_eq_some_iff _ _ _).mpr ⟨_, hrefer', hobject'⟩

theorem refer_run_of_not_bound
    (s : NamedObjects κ α)
    (name : κ)
    {writes : List (Write κ α)}
    (hkeep : ∀ w ∈ writes, ¬ w.Binds name) :
    (s.run writes).refer name = s.refer name := by
  induction writes generalizing s with
  | nil => rfl
  | cons w rest ih =>
      have hrest := ih (s.write w) (fun w' hw' => hkeep w' (List.mem_cons_of_mem _ hw'))
      refine hrest.trans ?_
      cases w with
      | bind other new => exact s.refer_bind_of_ne new (hkeep _ List.mem_cons_self)
      | change m f => rfl
      | changeNamed other f => exact s.refer_changeNamed other f name

/-- A name that was never bound refers to nothing. -/
theorem find_eq_none_of_not_bound
    (name : κ)
    {writes : List (Write κ α)}
    (hkeep : ∀ w ∈ writes, ¬ w.Binds name) :
    ((empty : NamedObjects κ α).run writes).find name = none := by
  rw [find_eq_none_iff, refer_run_of_not_bound _ name hkeep]
  rfl

theorem forall_change
    {P : α → Prop}
    {s : NamedObjects κ α}
    {n : Nat}
    {f : α → α}
    (hall : ∀ object ∈ s.objects, P object)
    (hf : ∀ object, P object → P (f object)) :
    ∀ object ∈ (s.change n f).objects, P object := by
  intro object hobject
  obtain ⟨m, hm⟩ := List.getElem?_of_mem hobject
  change (s.objects.modify n f)[m]? = some object at hm
  rw [List.getElem?_modify] at hm
  obtain ⟨before, hbefore, rfl⟩ := Option.map_eq_some_iff.mp hm
  have hP : P before := hall before (List.mem_of_getElem? hbefore)
  split
  · exact hf before hP
  · exact hP

/-- A write keeps a property of all objects. -/
theorem forall_objects_write
    {P : α → Prop}
    {s : NamedObjects κ α}
    {w : Write κ α}
    (hall : ∀ object ∈ s.objects, P object)
    (hkeeps : w.Keeps P) :
    ∀ object ∈ (s.write w).objects, P object := by
  cases w with
  | bind name new =>
      intro object hobject
      rcases List.mem_append.mp hobject with hold | hnew
      · exact hall object hold
      · rw [List.mem_singleton.mp hnew]
        exact hkeeps
  | change n f => exact forall_change hall hkeeps
  | changeNamed name f =>
      change ∀ object ∈ (s.changeNamed name f).objects, P object
      unfold changeNamed
      split
      · exact hall
      · exact forall_change hall hkeeps

/-- Writes keep a property of all objects. -/
theorem forall_objects_run
    {P : α → Prop}
    {s : NamedObjects κ α}
    {writes : List (Write κ α)}
    (hall : ∀ object ∈ s.objects, P object)
    (hkeeps : ∀ w ∈ writes, w.Keeps P) :
    ∀ object ∈ (s.run writes).objects, P object := by
  induction writes generalizing s with
  | nil => exact hall
  | cons w rest ih =>
      exact ih (forall_objects_write hall (hkeeps w List.mem_cons_self))
        (fun w' hw' => hkeeps w' (List.mem_cons_of_mem _ hw'))

end NamedObjects
end SalesAgent
