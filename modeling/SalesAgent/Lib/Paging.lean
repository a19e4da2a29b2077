import Mathlib.Data.List.Basic
import Mathlib.Data.List.Perm.Basic
import Mathlib.Data.List.Perm.Lattice

/-!
# Offset paging over an order that ties

A query orders its rows by a total preorder and returns a window of them.  Rows that tie
may come in any order, and in another order at the next query, so the pages of a walk are
windows of different arrangements of the same rows.

**Results.**  `flatten_pagesFrom_perm`: the pages of a walk hold every row as often as the
query matches it, where no group of tied rows stands across a page boundary.
`exists_walk_repeats`: where one does, the queries may find arrangements whose walk shows a
row twice.
-/

namespace SalesAgent
namespace Paging

universe u

variable {α : Type u}

section Arrangements

/-- An order under which a query may return the rows. -/
structure Arranges
    (le : α → α → Bool)
    (rows arranged : List α) : Prop where
  perm : arranged.Perm rows
  sorted : arranged.Pairwise fun a b => le a b = true

/-- A comparison of sort keys. -/
structure TotalPreorder
    (le : α → α → Bool) : Prop where
  trans : ∀ a b c, le a b = true → le b c = true → le a c = true
  total : ∀ a b, le a b = true ∨ le b a = true

/-- A group of tied rows with rows on both sides of a boundary. -/
def Straddled
    (le : α → α → Bool)
    (rows : List α)
    (boundary : Nat) : Prop :=
  ∃ a ∈ rows, rows.countP (fun b => ! le a b) < boundary ∧ boundary < rows.countP fun b => le b a

instance
    (le : α → α → Bool)
    (rows : List α)
    (boundary : Nat) :
    Decidable (Straddled le rows boundary) :=
  inferInstanceAs (Decidable (∃ a ∈ rows, _ ∧ _))

variable {le : α → α → Bool} {rows arranged other : List α}

theorem straddled_congr
    (hperm : rows.Perm other)
    (boundary : Nat) :
    Straddled le rows boundary ↔ Straddled le other boundary := by
  unfold Straddled
  simp only [hperm.countP_eq, hperm.mem_iff]

theorem eq_filter_append
    {p : α → Bool}
    (hsorted : arranged.Pairwise fun a b => le a b = true)
    (hdown : ∀ a b, le a b = true → p b = true → p a = true) :
    arranged = arranged.filter p ++ arranged.filter fun a => ! p a := by
  induction arranged with
  | nil =>
      rfl
  | cons a rest ih =>
      rw [List.pairwise_cons] at hsorted
      by_cases ha : p a = true
      · rw [List.filter_cons_of_pos ha, List.filter_cons_of_neg (by simp [ha]), List.cons_append,
          ← ih hsorted.2]
      · have hnone : ∀ b ∈ rest, ¬ p b = true := fun b hb hp => ha (hdown a b (hsorted.1 b hb) hp)
        have hall : ∀ b ∈ rest, (! p b) = true := fun b hb => by simp [hnone b hb]
        rw [List.filter_cons_of_neg ha, List.filter_cons_of_pos (by simp [ha]),
          List.filter_eq_nil_iff.mpr hnone, List.filter_eq_self.mpr hall, List.nil_append]

theorem take_countP
    {p : α → Bool}
    (hsorted : arranged.Pairwise fun a b => le a b = true)
    (hdown : ∀ a b, le a b = true → p b = true → p a = true) :
    arranged.take (arranged.countP p) = arranged.filter p := by
  conv_lhs =>
    rw [eq_filter_append hsorted hdown]
  rw [List.take_append_of_le_length (by simp [List.countP_append, List.countP_eq_length_filter]),
    List.take_of_length_le (by simp [List.countP_append, List.countP_eq_length_filter])]

theorem down_before
    (hle : TotalPreorder le)
    (a : α) :
    ∀ b c, le b c = true → (! le a c) = true → (! le a b) = true := by
  intro b c hbc hac
  rw [Bool.not_eq_true', Bool.eq_false_iff] at hac ⊢
  exact fun hab => hac (hle.trans a b c hab hbc)

theorem down_upTo
    (hle : TotalPreorder le)
    (a : α) :
    ∀ b c, le b c = true → le c a = true → le b a = true :=
  fun b c hbc hca => hle.trans b c a hbc hca

theorem not_before_self
    (hle : TotalPreorder le)
    (a : α) :
    ¬ (! le a a) = true := by
  have hrefl : le a a = true := (hle.total a a).elim id id
  simp [hrefl]

theorem holds_iff_lt_countP
    {p : α → Bool}
    (hsorted : arranged.Pairwise fun a b => le a b = true)
    (hdown : ∀ a b, le a b = true → p b = true → p a = true)
    {i : Nat}
    {a : α}
    (ha : arranged[i]? = some a) :
    p a = true ↔ i < arranged.countP p := by
  rw [eq_filter_append hsorted hdown] at ha
  rw [List.countP_eq_length_filter]
  by_cases hi : i < (arranged.filter p).length
  · rw [List.getElem?_append_left hi] at ha
    exact iff_of_true (List.of_mem_filter (List.mem_of_getElem? ha)) hi
  · rw [List.getElem?_append_right (Nat.not_lt.mp hi)] at ha
    have hnot : (! p a) = true := List.of_mem_filter (p := fun b => ! p b) (List.mem_of_getElem? ha)
    exact iff_of_false (by simpa using hnot) hi

/-- What stands in front of a boundary that no group straddles does not depend on the
arrangement. -/
theorem take_perm_take
    (hle : TotalPreorder le)
    {boundary : Nat}
    (hboundary : ¬ Straddled le rows boundary)
    (harranged : Arranges le rows arranged)
    (hother : Arranges le rows other) :
    (arranged.take boundary).Perm (other.take boundary) := by
  have hperm : arranged.Perm other := harranged.perm.trans hother.perm.symm
  cases hget : arranged[boundary]? with
  | none =>
      have hlength : arranged.length ≤ boundary := List.getElem?_eq_none_iff.mp hget
      rw [List.take_of_length_le hlength, List.take_of_length_le (hperm.length_eq ▸ hlength)]
      exact hperm
  | some a =>
      have hmem : a ∈ rows := harranged.perm.mem_iff.mp (List.mem_of_getElem? hget)
      have hupTo : boundary < rows.countP fun b => le b a := by
        rw [← harranged.perm.countP_eq]
        refine (holds_iff_lt_countP harranged.sorted (down_upTo hle a) hget).mp ?_
        exact (hle.total a a).elim id id
      have hfront : boundary ≤ rows.countP fun b => ! le a b :=
        Nat.not_lt.mp fun hlt => hboundary ⟨a, hmem, hlt, hupTo⟩
      have hback : rows.countP (fun b => ! le a b) ≤ boundary := by
        rw [← harranged.perm.countP_eq]
        refine Nat.not_lt.mp fun hlt => not_before_self hle a ?_
        exact (holds_iff_lt_countP harranged.sorted (down_before hle a) hget).mpr hlt
      have hcount : boundary = rows.countP fun b => ! le a b := Nat.le_antisymm hfront hback
      have htake {list : List α} (hlist : Arranges le rows list) :
          list.take boundary = list.filter fun b => ! le a b := by
        rw [hcount, ← hlist.perm.countP_eq, take_countP hlist.sorted (down_before hle a)]
      rw [htake harranged, htake hother]
      exact hperm.filter _

theorem window_perm_window
    (hle : TotalPreorder le)
    {boundary size : Nat}
    (hboundary : ¬ Straddled le rows boundary)
    (hnext : ¬ Straddled le rows (boundary + size))
    (harranged : Arranges le rows arranged)
    (hother : Arranges le rows other) :
    ((arranged.drop boundary).take size).Perm ((other.drop boundary).take size) := by
  have hfront := take_perm_take hle hboundary harranged hother
  have hboth := take_perm_take hle hnext harranged hother
  rw [List.take_add, List.take_add] at hboth
  exact (List.perm_append_left_iff _).mp ((hfront.symm.append_right _).trans hboth)

/-- A straddling group can be arranged in two ways, with one of its rows in front of the
boundary or behind it. -/
theorem exists_arrangement_repeats
    (hle : TotalPreorder le)
    {boundary : Nat}
    (hboundary : Straddled le rows boundary)
    (harranged : Arranges le rows arranged) :
    ∃ front a b rest, arranged = front ++ a :: b :: rest ∧ boundary = front.length + 1
      ∧ Arranges le rows (front ++ b :: a :: rest) := by
  obtain ⟨c, -, hbefore, hupTo⟩ := hboundary
  rw [← harranged.perm.countP_eq] at hbefore hupTo
  obtain ⟨position, rfl⟩ : ∃ position, boundary = position + 1 :=
    ⟨boundary - 1, by omega⟩
  have hlength : position + 1 < arranged.length :=
    Nat.lt_of_lt_of_le hupTo (List.countP_le_length ..)
  have hfirst : arranged[position]? = some arranged[position] :=
    List.getElem?_eq_getElem (by omega)
  have hsecond : arranged[position + 1]? = some arranged[position + 1] :=
    List.getElem?_eq_getElem hlength
  have hca : le c arranged[position] = true := by
    have hnot := mt (holds_iff_lt_countP harranged.sorted (down_before hle c) hfirst).mp
      (by omega)
    simpa using hnot
  have hbc : le arranged[position + 1] c = true :=
    (holds_iff_lt_countP harranged.sorted (down_upTo hle c) hsecond).mpr hupTo
  have hback : le arranged[position + 1] arranged[position] = true :=
    hle.trans _ _ _ hbc hca
  have hsplit : arranged = arranged.take position
      ++ arranged[position] :: arranged[position + 1] :: arranged.drop (position + 2) := by
    rw [← List.drop_eq_getElem_cons, ← List.drop_eq_getElem_cons, List.take_append_drop]
  refine ⟨_, _, _, _, hsplit, ?_, ?_, ?_⟩
  · rw [List.length_take]
    omega
  · refine List.Perm.trans ?_ harranged.perm
    conv_rhs => rw [hsplit]
    exact (List.Perm.swap _ _ _).append_left _
  · have hsorted := harranged.sorted
    rw [hsplit, List.pairwise_append, List.pairwise_cons, List.pairwise_cons] at hsorted
    obtain ⟨hfront, ⟨ha, hb, hrest⟩, hcross⟩ := hsorted
    rw [List.pairwise_append, List.pairwise_cons, List.pairwise_cons]
    refine ⟨hfront, ⟨?_, ?_, hrest⟩, ?_⟩
    · intro d hd
      rcases List.mem_cons.mp hd with rfl | hd
      · exact hback
      · exact hb d hd
    · exact fun d hd => ha d (List.mem_cons_of_mem _ hd)
    · intro d hd e he
      refine hcross d hd e ?_
      simp only [List.mem_cons] at he ⊢
      tauto

end Arrangements

section Walks

/-- The pages of a walk: each is a window of the arrangement its query finds, and the next one
begins where it ends, until the total is reached. -/
def pagesFrom
    (arrange : Nat → List α)
    (limit total : Nat) : Nat → Nat → List (List α)
  | 0, _ => []
  | fuel + 1, offset =>
      let page := ((arrange offset).drop offset).take limit
      if offset + page.length < total then
        page :: pagesFrom arrange limit total fuel (offset + page.length)
      else
        [page]

variable {le : α → α → Bool} {rows reference : List α} {arrange : Nat → List α} {limit : Nat}

theorem arranges_mergeSort
    (hle : TotalPreorder le)
    (rows : List α) :
    Arranges le rows (rows.mergeSort le) where
  perm := List.mergeSort_perm rows le
  sorted := List.pairwise_mergeSort hle.trans
    (fun a b => Bool.or_eq_true _ _ ▸ hle.total a b) rows

theorem length_window
    {list : List α}
    (hlength : list.length = rows.length)
    (offset : Nat) :
    ((list.drop offset).take limit).length = min limit (rows.length - offset) := by
  rw [List.length_take, List.length_drop, hlength]

theorem flatten_pagesFrom_const
    (hlimit : 0 < limit)
    {list : List α}
    {offset : Nat}
    (harrange : ∀ o, offset ≤ o → arrange o = list)
    {fuel : Nat}
    (hfuel : list.length - offset < fuel) :
    (pagesFrom arrange limit list.length fuel offset).flatten = list.drop offset := by
  induction fuel generalizing offset with
  | zero =>
      exact absurd hfuel (Nat.not_lt_zero _)
  | succ fuel ih =>
      have hpage : ((list.drop offset).take limit).length = min limit (list.length - offset) :=
        length_window rfl offset
      rw [pagesFrom, harrange offset (Nat.le_refl _)]
      by_cases hmore : offset + ((list.drop offset).take limit).length < list.length
      · have hfull : ((list.drop offset).take limit).length = limit := by omega
        rw [if_pos hmore, hfull, List.flatten_cons,
          ih (fun o ho => harrange o (by omega)) (by omega), ← List.drop_drop,
          List.take_append_drop]
      · rw [if_neg hmore, List.flatten_singleton, List.take_of_length_le]
        rw [List.length_drop]
        omega

/-- A walk whose queries change the arrangement at a boundary shows the front of the one and
the back of the other. -/
theorem flatten_pagesFrom_switch
    (hlimit : 0 < limit)
    {first second : List α}
    (hlength : second.length = first.length)
    {boundary : Nat}
    (hwithin : boundary ≤ first.length)
    {fuel steps : Nat}
    {offset : Nat}
    (hsteps : boundary = offset + steps * limit)
    (hfuel : first.length - offset < fuel) :
    (pagesFrom (fun o => if o < boundary then first else second) limit first.length fuel
        offset).flatten
      =
    (first.take boundary).drop offset ++ second.drop boundary := by
  induction steps generalizing offset fuel with
  | zero =>
      obtain rfl : boundary = offset := by simpa using hsteps
      have hempty : (first.take boundary).drop boundary = [] :=
        List.drop_eq_nil_of_le (List.length_take_le _ _)
      rw [← hlength] at hfuel ⊢
      rw [flatten_pagesFrom_const hlimit (fun o ho => if_neg (Nat.not_lt.mpr ho)) hfuel, hempty,
        List.nil_append]
  | succ steps ih =>
      rw [Nat.succ_mul] at hsteps
      cases fuel with
      | zero =>
          exact absurd hfuel (Nat.not_lt_zero _)
      | succ fuel =>
          have hbefore : offset < boundary := by omega
          have hpage : ((first.drop offset).take limit).length = limit := by
            rw [List.length_take, List.length_drop]
            omega
          have hwindow : (first.take boundary).drop offset
              = (first.drop offset).take limit ++ (first.take boundary).drop (offset + limit) := by
            have hfront : (first.drop offset).take limit
                = ((first.take boundary).drop offset).take limit := by
              rw [List.drop_take, List.take_take, Nat.min_eq_left (by omega)]
            rw [hfront, ← List.drop_drop, List.take_append_drop]
          rw [pagesFrom]
          simp only [if_pos hbefore, hpage]
          by_cases hmore : offset + limit < first.length
          · rw [if_pos hmore, List.flatten_cons, ih (by omega) (by omega), hwindow,
              List.append_assoc]
          · have hempty : (first.take boundary).drop (offset + limit) = [] :=
              List.drop_eq_nil_of_le (by rw [List.length_take]; omega)
            have hback : second.drop boundary = [] := List.drop_eq_nil_of_le (by omega)
            rw [if_neg hmore, List.flatten_singleton, hwindow, hempty, hback, List.append_nil,
              List.append_nil]

/-- Where no group straddles a page boundary, a walk shows what one arrangement shows. -/
theorem flatten_pagesFrom
    (hle : TotalPreorder le)
    (hlimit : 0 < limit)
    (hreference : Arranges le rows reference)
    (harrange : ∀ o, Arranges le rows (arrange o))
    (hclear : ∀ k, ¬ Straddled le rows (k * limit))
    {fuel k : Nat}
    (hfuel : rows.length - k * limit < fuel) :
    (pagesFrom arrange limit rows.length fuel (k * limit)).flatten.Perm
      (reference.drop (k * limit)) := by
  induction fuel generalizing k with
  | zero =>
      exact absurd hfuel (Nat.not_lt_zero _)
  | succ fuel ih =>
      have hnext : k * limit + limit = (k + 1) * limit := (Nat.succ_mul k limit).symm
      have hpage : (((arrange (k * limit)).drop (k * limit)).take limit).length
          = min limit (rows.length - k * limit) :=
        length_window (harrange (k * limit)).perm.length_eq (k * limit)
      have hwindow := window_perm_window hle (hclear k) (hnext ▸ hclear (k + 1))
        (harrange (k * limit)) hreference
      rw [pagesFrom]
      by_cases hmore : k * limit
          + (((arrange (k * limit)).drop (k * limit)).take limit).length < rows.length
      · have hfull : (((arrange (k * limit)).drop (k * limit)).take limit).length = limit := by
          omega
        rw [if_pos hmore, hfull, List.flatten_cons, hnext]
        refine (hwindow.append (ih (by omega))).trans ?_
        rw [← hnext, ← List.drop_drop, List.take_append_drop]
      · rw [if_neg hmore, List.flatten_singleton]
        refine hwindow.trans ?_
        rw [List.take_of_length_le]
        rw [List.length_drop, hreference.perm.length_eq]
        omega

/-- A walk shows each row as often as the query matches it, whatever arrangements its queries
find, where no group of tied rows straddles a page boundary. -/
theorem flatten_pagesFrom_perm
    (hle : TotalPreorder le)
    (hlimit : 0 < limit)
    (harrange : ∀ o, Arranges le rows (arrange o))
    (hclear : ∀ k, ¬ Straddled le rows (k * limit))
    {fuel : Nat}
    (hfuel : rows.length < fuel) :
    (pagesFrom arrange limit rows.length fuel 0).flatten.Perm rows := by
  have hstart : rows.length - 0 * limit < fuel := by omega
  have hwalk := flatten_pagesFrom hle hlimit (arranges_mergeSort hle rows) harrange hclear hstart
  rw [Nat.zero_mul, List.drop_zero] at hwalk
  exact hwalk.trans (arranges_mergeSort hle rows).perm

/-- Where a group of tied rows straddles a page boundary, the queries may find arrangements of
rows without duplicates whose walk is none of the rows: it shows one of them twice. -/
theorem exists_walk_repeats
    (hle : TotalPreorder le)
    (hlimit : 0 < limit)
    (hrows : rows.Nodup)
    {k : Nat}
    (hstraddled : Straddled le rows (k * limit)) :
    ∃ arrange : Nat → List α, (∀ o, Arranges le rows (arrange o)) ∧ ∀ fuel, rows.length < fuel →
      ¬ (pagesFrom arrange limit rows.length fuel 0).flatten.Perm rows := by
  obtain ⟨front, a, b, rest, hfirst, hboundary, hsecond⟩ :=
    exists_arrangement_repeats hle hstraddled (arranges_mergeSort hle rows)
  have hsorted := arranges_mergeSort hle rows
  generalize rows.mergeSort le = first at hfirst hsorted
  refine ⟨fun o => if o < k * limit then first else front ++ b :: a :: rest, ?_, ?_⟩
  · intro o
    dsimp only
    by_cases ho : o < k * limit
    · rw [if_pos ho]
      exact hsorted
    · rw [if_neg ho]
      exact hsecond
  · intro fuel hfuel hperm
    have hlength : (front ++ b :: a :: rest).length = first.length := by
      rw [hfirst]
      simp
    have hwithin : k * limit ≤ first.length := by
      rw [hboundary, hfirst]
      simp
    have hfront : (front ++ a :: b :: rest).take (front.length + 1) = front ++ [a] := by
      simp [List.take_append]
    have hback : (front ++ b :: a :: rest).drop (front.length + 1) = a :: rest := by
      simp
    rw [← hsorted.perm.length_eq, flatten_pagesFrom_switch hlimit hlength hwithin
      (Nat.zero_add _).symm (by rw [hsorted.perm.length_eq]; omega), hboundary, hfirst,
      List.drop_zero, hfront, hback] at hperm
    have hnodup := hperm.nodup_iff.mpr hrows
    simp [List.nodup_append] at hnodup

end Walks

end Paging
end SalesAgent
