import Mathlib.Data.List.Perm.Basic
import Mathlib.Data.List.Flatten

/-!
# A list of parties of which one moves

The parties of a system are a list.  A move replaces one of them, at its place.  What the
parties hold between them is collected over the list, and as a collection it does not
depend on the place.

**Results.**
* `exists_split`: the parties around the one that moves.
* `filterMap_split`, `flatMap_split`: what is held, that of the moving party first.
* `forall_of_split`: what holds of every party after a move.
-/

namespace SalesAgent
namespace Parties

universe u v

variable {α : Type u} {β : Type v}

/-- The party at a place, with those before and behind it; a move keeps these. -/
theorem exists_split
    {l : List α} {i : Nat} {a : α}
    (h : l[i]? = some a) :
    ∃ pre post, l = pre ++ a :: post ∧ pre.length = i ∧ ∀ b, l.set i b = pre ++ b :: post := by
  obtain ⟨hi, rfl⟩ := List.getElem?_eq_some_iff.mp h
  refine ⟨l.take i, l.drop (i + 1), ?_, List.length_take_of_le (Nat.le_of_lt hi), fun b => ?_⟩
  · rw [← List.drop_eq_getElem_cons hi, List.take_append_drop]
  · rw [List.set_eq_take_append_cons_drop, if_pos hi]

/-- What the parties hold, that of one of them first. -/
theorem filterMap_split
    (f : α → Option β)
    (pre : List α)
    (a : α)
    (post : List α) :
    ((pre ++ a :: post).filterMap f).Perm ((f a).toList ++ (pre ++ post).filterMap f) := by
  cases h : f a with
  | none => simp [h]
  | some b =>
      simp only [List.filterMap_append, List.filterMap_cons_some h, Option.toList_some]
      exact List.perm_middle

theorem filterMap_concat_of_none
    {f : α → Option β} {a : α}
    (h : f a = none)
    (l : List α) :
    (l ++ [a]).filterMap f = l.filterMap f := by
  rw [List.filterMap_append, List.filterMap_cons_none h, List.filterMap_nil, List.append_nil]

/-- What the parties hold in lists, that of one of them first. -/
theorem flatMap_split
    (f : α → List β)
    (pre : List α)
    (a : α)
    (post : List α) :
    ((pre ++ a :: post).flatMap f).Perm (f a ++ (pre ++ post).flatMap f) := by
  simp only [List.flatMap_append, List.flatMap_cons]
  exact List.perm_append_comm_assoc _ _ _

/-- Every party has a property after a move, where the one that moved has it. -/
theorem forall_of_split
    {P Q : α → Prop} {pre post : List α} {a b : α}
    (h : ∀ c ∈ pre ++ a :: post, P c)
    (hmono : ∀ c, P c → Q c)
    (hb : P a → Q b) :
    ∀ c ∈ pre ++ b :: post, Q c := by
  intro c hc
  rcases List.mem_append.mp hc with hpre | hpost
  · exact hmono c (h c (List.mem_append_left _ hpre))
  · rcases List.mem_cons.mp hpost with rfl | hpost
    · exact hb (h a (List.mem_append_right _ List.mem_cons_self))
    · exact hmono c (h c (List.mem_append_right _ (List.mem_cons_of_mem _ hpost)))

end Parties
end SalesAgent
