import Mathlib.Data.List.Basic

/-!
# Worklists

Tasks wait in a list.  Performing one changes the world, puts further tasks at the end of
the list, and may halt the work.  Serving the list one task at a time and serving it
generation by generation, where a generation is what the one before it has put on the
list, are the same order.

**Rules.**
* `Serves.fifo`: tasks are performed in the order in which they were put on the list.
* `Serves.trans`: services compose.
* `serves_generations`: whole generations are served first in, first out.
-/

namespace SalesAgent
namespace Worklist

universe u v w

/-- What performing a task does. -/
structure Turn (α : Type u) (σ : Type v) (ε : Type w) where
  queued : List α
  world : σ
  halt : Option ε

variable {α : Type u} {σ : Type v} {ε : Type w}

/-- First in, first out: of a list and a world, the tasks performed, the tasks they put on
the list, and the list and the world that are left. -/
inductive Serves
    (perform : α → σ → Turn α σ ε) :
    List α → σ → List α → List α → List α → σ → Prop
  | refl
      (waiting : List α)
      (world : σ) :
      Serves perform waiting world [] [] waiting world
  | next
      {a : α} {rest left ran log : List α} {world world' : σ}
      (hgo : (perform a world).halt = none)
      (hrest : Serves perform (rest ++ (perform a world).queued) (perform a world).world ran log
        left world') :
      Serves perform (a :: rest) world (a :: ran) ((perform a world).queued ++ log) left world'

section Rules

variable {perform : α → σ → Turn α σ ε}
variable {waiting middle left ran ran' log log' : List α} {world world' world'' : σ}

/-- What was put on the list is performed or still waits, in that order. -/
theorem Serves.fifo
    (h : Serves perform waiting world ran log left world') :
    ran ++ left = waiting ++ log := by
  induction h with
  | refl waiting world => simp
  | next hgo hrest ih => simpa using ih

theorem Serves.trans
    (h : Serves perform waiting world ran log middle world')
    (h' : Serves perform middle world' ran' log' left world'') :
    Serves perform waiting world (ran ++ ran') (log ++ log') left world'' := by
  induction h with
  | refl waiting world => exact h'
  | next hgo hrest ih =>
      rw [List.cons_append, List.append_assoc]
      exact .next hgo (ih h')

end Rules

section Generations

variable (perform : α → σ → Turn α σ ε)

/-- Perform the tasks of one generation: the next one, and the world. -/
def generation : List α → σ → List α × σ
  | [], world => ([], world)
  | a :: rest, world =>
      ((perform a world).queued ++ (generation rest (perform a world).world).1,
        (generation rest (perform a world).world).2)

/-- No task of the generation halts. -/
def Quiet : List α → σ → Prop
  | [], _ => True
  | a :: rest, world => (perform a world).halt = none ∧ Quiet rest (perform a world).world

/-- The `k`-th generation, and the world before it. -/
def generationAt : Nat → List α → σ → List α × σ
  | 0, waiting, world => (waiting, world)
  | k + 1, waiting, world =>
      generationAt k (generation perform waiting world).1 (generation perform waiting world).2

/-- The tasks of the first `k` generations, one generation after the other. -/
def generations : Nat → List α → σ → List α
  | 0, _, _ => []
  | k + 1, waiting, world =>
      waiting ++ generations k (generation perform waiting world).1
        (generation perform waiting world).2

/-- No task of the first `k` generations halts. -/
def QuietFor : Nat → List α → σ → Prop
  | 0, _, _ => True
  | k + 1, waiting, world =>
      Quiet perform waiting world ∧
        QuietFor k (generation perform waiting world).1 (generation perform waiting world).2

variable {perform}
variable {waiting : List α} {world : σ}

/-- A generation is served while what it puts on the list waits behind. -/
theorem serves_generation
    (hquiet : Quiet perform waiting world)
    (back : List α) :
    Serves perform (waiting ++ back) world waiting (generation perform waiting world).1
      (back ++ (generation perform waiting world).1) (generation perform waiting world).2 := by
  induction waiting generalizing back world with
  | nil => simpa [generation] using Serves.refl back world
  | cons a rest ih =>
      obtain ⟨hgo, hquiet'⟩ := hquiet
      rw [List.cons_append]
      refine .next hgo ?_
      have hrest := ih hquiet' (back ++ (perform a world).queued)
      rw [List.append_assoc] at hrest
      simpa only [generation, List.append_assoc] using hrest

/-- The generations are served first in, first out. -/
theorem serves_generations
    {k : Nat}
    (hquiet : QuietFor perform k waiting world) :
    ∃ log, Serves perform waiting world (generations perform k waiting world) log
      (generationAt perform k waiting world).1 (generationAt perform k waiting world).2 := by
  induction k generalizing waiting world with
  | zero => exact ⟨[], .refl waiting world⟩
  | succ k ih =>
      obtain ⟨hfirst, hlater⟩ := hquiet
      have hgeneration := serves_generation hfirst []
      rw [List.append_nil, List.nil_append] at hgeneration
      obtain ⟨log, hserves⟩ := ih hlater
      exact ⟨_, hgeneration.trans hserves⟩

@[simp] theorem generationAt_nil
    (k : Nat)
    (world : σ) :
    generationAt perform k [] world = ([], world) := by
  induction k with
  | zero => rfl
  | succ k ih => exact ih

theorem generationAt_eq_nil_of_le
    {j k : Nat}
    (hle : j ≤ k)
    (hempty : (generationAt perform j waiting world).1 = []) :
    (generationAt perform k waiting world).1 = [] := by
  induction j generalizing k waiting world with
  | zero =>
      obtain rfl : waiting = [] := hempty
      simp
  | succ j ih =>
      obtain ⟨i, rfl⟩ : ∃ i, k = i + 1 := ⟨k - 1, by omega⟩
      exact ih (k := i) (Nat.le_of_succ_le_succ hle) hempty

theorem QuietFor.quiet
    {j k : Nat}
    (hquiet : QuietFor perform k waiting world)
    (hlt : j < k) :
    Quiet perform (generationAt perform j waiting world).1
      (generationAt perform j waiting world).2 := by
  induction j generalizing k waiting world with
  | zero =>
      obtain ⟨i, rfl⟩ : ∃ i, k = i + 1 := ⟨k - 1, by omega⟩
      exact hquiet.1
  | succ j ih =>
      obtain ⟨i, rfl⟩ : ∃ i, k = i + 1 := ⟨k - 1, by omega⟩
      exact ih (k := i) hquiet.2 (Nat.lt_of_succ_lt_succ hlt)

theorem generations_succ
    (k : Nat)
    (waiting : List α)
    (world : σ) :
    generations perform (k + 1) waiting world =
      generations perform k waiting world ++ (generationAt perform k waiting world).1 := by
  induction k generalizing waiting world with
  | zero => simp [generations, generationAt]
  | succ k ih => rw [generations, ih, generations, List.append_assoc, generationAt]

theorem generations_mono
    {j k : Nat}
    (hle : j ≤ k) :
    generations perform j waiting world <+: generations perform k waiting world := by
  induction hle with
  | refl => exact List.prefix_rfl
  | @step k hle ih =>
      rw [generations_succ]
      exact ih.trans (List.prefix_append _ _)

theorem generations_append_mono
    {j k : Nat}
    {front : List α}
    (hlt : j < k)
    (back : List α)
    (hgeneration : (generationAt perform j waiting world).1 = front ++ back) :
    generations perform j waiting world ++ front <+: generations perform k waiting world := by
  refine List.IsPrefix.trans ?_ (generations_mono hlt)
  rw [generations_succ, hgeneration, ← List.append_assoc]
  exact List.prefix_append _ _

end Generations

end Worklist
end SalesAgent
