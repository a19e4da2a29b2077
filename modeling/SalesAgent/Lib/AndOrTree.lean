import Mathlib.Data.List.Forall2

/-!
# Trees of conjunctions and disjunctions

A tree over leaves whose nodes carry an operator.  An operator that is read as a connective
combines its children; a node whose operator is read as none holds of nothing.

**Results.**
* `holds_node`, `holds_node_leaves`: a node by its children.
* `Connective.holds_congr`, `Connective.holds_map`, `Connective.holds_forall₂`,
  `Connective.holds_image`: how connectives combine.
-/

namespace SalesAgent

universe u v

/-- Conjunction and disjunction. -/
inductive Connective
  | all
  | any
  deriving DecidableEq, Repr

namespace Connective

variable {β : Type u} {γ : Type v}

/-- What a connective says of a list. -/
def Holds
    (connective : Connective)
    (xs : List β)
    (P : β → Prop) : Prop :=
  match connective with
  | .all => ∀ x ∈ xs, P x
  | .any => ∃ x ∈ xs, P x

theorem holds_congr
    {connective : Connective}
    {xs : List β}
    {P Q : β → Prop}
    (h : ∀ x ∈ xs, P x ↔ Q x) :
    connective.Holds xs P ↔ connective.Holds xs Q := by
  cases connective with
  | all =>
      constructor
      · intro hall x hx
        exact (h x hx).mp (hall x hx)
      · intro hall x hx
        exact (h x hx).mpr (hall x hx)
  | any =>
      constructor
      · rintro ⟨x, hx, hP⟩
        exact ⟨x, hx, (h x hx).mp hP⟩
      · rintro ⟨x, hx, hQ⟩
        exact ⟨x, hx, (h x hx).mpr hQ⟩

theorem holds_map
    {connective : Connective}
    {xs : List β}
    {f : β → γ}
    {P : γ → Prop} :
    connective.Holds (xs.map f) P ↔ connective.Holds xs fun x => P (f x) := by
  cases connective with
  | all => exact List.forall_mem_map
  | any =>
      constructor
      · rintro ⟨y, hy, hP⟩
        obtain ⟨x, hx, rfl⟩ := List.mem_map.mp hy
        exact ⟨x, hx, hP⟩
      · rintro ⟨x, hx, hP⟩
        exact ⟨f x, List.mem_map_of_mem hx, hP⟩

/-- Lists that correspond item by item combine alike. -/
theorem holds_forall₂
    {connective : Connective}
    {R : β → γ → Prop}
    {xs : List β} {ys : List γ}
    {P : β → Prop} {Q : γ → Prop}
    (hlists : List.Forall₂ R xs ys)
    (h : ∀ x y, R x y → (P x ↔ Q y)) :
    connective.Holds xs P ↔ connective.Holds ys Q := by
  induction hlists with
  | nil =>
      cases connective with
      | all =>
          refine iff_of_true ?_ ?_
          · exact fun x hx => absurd hx List.not_mem_nil
          · exact fun y hy => absurd hy List.not_mem_nil
      | any =>
          refine iff_of_false ?_ ?_
          · rintro ⟨x, hx, -⟩
            exact absurd hx List.not_mem_nil
          · rintro ⟨y, hy, -⟩
            exact absurd hy List.not_mem_nil
  | @cons x y xs ys hfirst _ ih =>
      cases connective with
      | all =>
          show (∀ x' ∈ x :: xs, P x') ↔ ∀ y' ∈ y :: ys, Q y'
          rw [List.forall_mem_cons, List.forall_mem_cons]
          exact and_congr (h x y hfirst) ih
      | any =>
          show (∃ x' ∈ x :: xs, P x') ↔ ∃ y' ∈ y :: ys, Q y'
          simp only [List.mem_cons, exists_eq_or_imp]
          exact or_congr (h x y hfirst) ih

/-- Lists over the same items combine alike. -/
theorem holds_image
    {connective : Connective}
    {xs : List β} {ys : List γ}
    {f : β → γ}
    {P : γ → Prop}
    (h : ∀ y, y ∈ ys ↔ ∃ x ∈ xs, y = f x) :
    connective.Holds ys P ↔ connective.Holds xs fun x => P (f x) := by
  cases connective with
  | all =>
      constructor
      · intro hall x hx
        exact hall (f x) ((h (f x)).mpr ⟨x, hx, rfl⟩)
      · intro hall y hy
        obtain ⟨x, hx, rfl⟩ := (h y).mp hy
        exact hall x hx
  | any =>
      constructor
      · rintro ⟨y, hy, hP⟩
        obtain ⟨x, hx, rfl⟩ := (h y).mp hy
        exact ⟨x, hx, hP⟩
      · rintro ⟨x, hx, hP⟩
        exact ⟨f x, (h (f x)).mpr ⟨x, hx, rfl⟩, hP⟩

end Connective

/-- A tree whose nodes carry operators. -/
inductive AndOrTree (ω : Type u) (α : Type v)
  | leaf (x : α)
  | node (operator : ω) (children : List (AndOrTree ω α))

namespace AndOrTree

variable {ω : Type u} {α : Type v}

mutual

/-- What a tree says, by what its leaves say and by how its operators are read. -/
def Holds
    (read : ω → Option Connective)
    (P : α → Prop) : AndOrTree ω α → Prop
  | .leaf x => P x
  | .node operator children =>
      match read operator with
      | some .all => AllHold read P children
      | some .any => AnyHolds read P children
      | none => False

def AllHold
    (read : ω → Option Connective)
    (P : α → Prop) : List (AndOrTree ω α) → Prop
  | [] => True
  | t :: ts => Holds read P t ∧ AllHold read P ts

def AnyHolds
    (read : ω → Option Connective)
    (P : α → Prop) : List (AndOrTree ω α) → Prop
  | [] => False
  | t :: ts => Holds read P t ∨ AnyHolds read P ts

end

variable {read : ω → Option Connective} {P : α → Prop}

theorem allHold_iff
    {ts : List (AndOrTree ω α)} :
    AllHold read P ts ↔ ∀ t ∈ ts, Holds read P t := by
  induction ts with
  | nil => exact iff_of_true trivial (fun t ht => absurd ht List.not_mem_nil)
  | cons t ts ih => rw [AllHold, ih, List.forall_mem_cons]

theorem anyHolds_iff
    {ts : List (AndOrTree ω α)} :
    AnyHolds read P ts ↔ ∃ t ∈ ts, Holds read P t := by
  induction ts with
  | nil =>
      refine iff_of_false id ?_
      rintro ⟨t, ht, -⟩
      exact absurd ht List.not_mem_nil
  | cons t ts ih =>
      rw [AnyHolds, ih]
      simp only [List.mem_cons, exists_eq_or_imp]

/-- A node combines its children. -/
theorem holds_node
    {operator : ω}
    {connective : Connective}
    (hread : read operator = some connective)
    {children : List (AndOrTree ω α)} :
    Holds read P (.node operator children) ↔ connective.Holds children (Holds read P) := by
  rw [Holds, hread]
  cases connective with
  | all => exact allHold_iff
  | any => exact anyHolds_iff

/-- A node of leaves combines them. -/
theorem holds_node_leaves
    {operator : ω}
    {connective : Connective}
    (hread : read operator = some connective)
    {xs : List α} :
    Holds read P (.node operator (xs.map .leaf)) ↔ connective.Holds xs P := by
  rw [holds_node hread, Connective.holds_map]
  exact Connective.holds_congr fun x _ => by rw [Holds]

end AndOrTree
end SalesAgent
