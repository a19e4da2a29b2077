import SalesAgent.MediaBuy.Lifecycle

/-!
# One ad-server order per media buy

`execute_approved_media_buy` does not ask whether an order exists, so the routes
decide from the status column alone.  `pending_creatives` names two states: a
buy held before the ad server was reached, and a synchronously created buy whose
order exists and whose creatives are still missing.  The creative-approval route
executes both.

A second order needs an execution that starts beside another, an execution of a
buy that is already confirmed, or an execution that dies between its order and
its status write.

**Results.**
* `OneOrder.preserved`: the invariant of the guarded steps.
* `one_order_per_buy`: along every run of guarded steps the buy has one order.
* `two_orders_for_one_buy`: a synchronous create followed by the approval of its
  first creative creates a second order.
-/

namespace SalesAgent
namespace MediaBuys

open Runs

/-- No execution of the buy is under way. -/
def NoneRunning
    (s : LifeState) : Prop :=
  ∀ i, s.running i = none

/-- The row carries no commitment instant. -/
def Unconfirmed
    (s : LifeState) : Prop :=
  ∀ row, s.row = some row → row.confirmedAt = none

/-- Executions start alone and unconfirmed, and none dies on its order. -/
def KeepsOneOrder
    (s : LifeState) : LifeEvent → Prop
  | .approvalRoute _ => NoneRunning s ∧ Unconfirmed s
  | .creativeRoute _ => NoneRunning s ∧ Unconfirmed s
  | .died i => s.running i ≠ some .ordered
  | _ => True

/-- The row, or the execution under way, accounts for an order. -/
def OrderRecorded
    (s : LifeState) : Prop :=
  (∃ row, s.row = some row ∧ (row.confirmedAt ≠ none ∨ row.status = .failed)) ∨
    ∃ row i, s.row = some row ∧ s.running i = some .ordered

/-- What guarded steps keep. -/
structure OneOrder (s : LifeState) : Prop where
  one_running : ∀ i j p q, s.running i = some p → s.running j = some q → i = j
  has_row : ∀ i p, s.running i = some p → s.row ≠ none
  one_order : s.orders ≤ 1
  fresh : ∀ i p, s.running i = some p → p ≠ .ordered → s.orders = 0
  recorded : 0 < s.orders → OrderRecorded s

namespace OneOrder

theorem init
    (creatives : List Creative)
    (assignments : List CreativeAssignment) :
    OneOrder (LifeState.init creatives assignments) where
  one_running := by simp [LifeState.init]
  has_row := by simp [LifeState.init]
  one_order := by simp [LifeState.init]
  fresh := by simp [LifeState.init]
  recorded := by simp [LifeState.init]

theorem orders_eq_zero_of_no_row
    {s : LifeState}
    (hs : OneOrder s)
    (hnone : s.row = none) :
    s.orders = 0 := by
  by_contra hne
  rcases hs.recorded (Nat.pos_of_ne_zero hne) with ⟨row, hrow, -⟩ | ⟨row, i, hrow, -⟩
  · rw [hnone] at hrow
    cases hrow
  · rw [hnone] at hrow
    cases hrow

theorem orders_eq_zero_of_unconfirmed
    {s : LifeState} {row : MediaBuy}
    (hs : OneOrder s)
    (hrow : s.row = some row)
    (hfailed : row.status ≠ .failed)
    (hnone : NoneRunning s)
    (hunconfirmed : Unconfirmed s) :
    s.orders = 0 := by
  by_contra hne
  rcases hs.recorded (Nat.pos_of_ne_zero hne) with ⟨row', hrow', hwhy⟩ | ⟨row', i, -, hi⟩
  · rw [hrow] at hrow'
    cases hrow'
    rcases hwhy with hconfirmed | hstatus
    · exact hconfirmed (hunconfirmed row hrow)
    · exact hfailed hstatus
  · rw [hnone i] at hi
    cases hi

theorem inserted
    {s : LifeState} {row : MediaBuy} {orders : Nat}
    (hs : OneOrder s)
    (hnone : s.row = none)
    (horders : orders ≤ 1)
    (hconfirmed : 0 < orders → row.confirmedAt ≠ none) :
    OneOrder { s.write row with orders := orders } where
  one_running := hs.one_running
  has_row := by simp [LifeState.write]
  one_order := horders
  fresh := by
    intro i p hi
    exact absurd hnone (hs.has_row i p hi)
  recorded := fun h => .inl ⟨row, rfl, .inl (hconfirmed h)⟩

/-- A new execution of a buy that has no order. -/
theorem admitted
    {s : LifeState} {i : Nat} {row : MediaBuy}
    (hs : OneOrder s)
    (hrow : s.row = some row)
    (hnone : NoneRunning s)
    (horders : s.orders = 0) :
    OneOrder (s.advance i .admitted) where
  one_running := by
    intro j j' p q hj hj'
    rcases LifeState.running_advance.mp hj with ⟨rfl, -⟩ | ⟨-, hold⟩
    · rcases LifeState.running_advance.mp hj' with ⟨rfl, -⟩ | ⟨-, hold⟩
      · rfl
      · rw [hnone j'] at hold
        cases hold
    · rw [hnone j] at hold
      cases hold
  has_row := by
    intro j p _ habsent
    rw [show (s.advance i .admitted).row = s.row from rfl, hrow] at habsent
    cases habsent
  one_order := hs.one_order
  fresh := fun _ _ _ _ => horders
  recorded := fun h => absurd horders (Nat.pos_iff_ne_zero.mp h)

/-- An execution moves on; with its order it becomes the record of it. -/
theorem advanced
    {s : LifeState} {i : Nat} {row : MediaBuy} {phase phase' : ExecPhase} {orders : Nat}
    (hs : OneOrder s)
    (hrow : s.row = some row)
    (hi : s.running i = some phase)
    (horders : orders ≤ 1)
    (hfresh : phase' ≠ .ordered → orders = 0) :
    OneOrder { s.advance i phase' with orders := orders } where
  one_running := by
    intro j j' p q hj hj'
    have halone : ∀ k r, (s.advance i phase').running k = some r → k = i := by
      intro k r hk
      rcases LifeState.running_advance.mp hk with ⟨rfl, -⟩ | ⟨-, hold⟩
      · rfl
      · exact hs.one_running k i r phase hold hi
    rw [halone j p hj, halone j' q hj']
  has_row := by
    intro j p _ habsent
    rw [show ({ s.advance i phase' with orders := orders } : LifeState).row = s.row from rfl,
      hrow] at habsent
    cases habsent
  one_order := horders
  fresh := by
    intro j p hj hp
    rcases LifeState.running_advance.mp hj with ⟨-, rfl⟩ | ⟨hne, hold⟩
    · exact hfresh hp
    · exact absurd (hs.one_running j i p phase hold hi) hne
  recorded := by
    intro hpos
    by_cases hphase : phase' = .ordered
    · subst hphase
      exact .inr ⟨row, i, hrow, LifeState.running_advance.mpr (.inl ⟨rfl, rfl⟩)⟩
    · exact absurd (hfresh hphase) (Nat.pos_iff_ne_zero.mp hpos)

/-- An execution ends; what it held is recorded by the row it leaves. -/
theorem finished
    {s : LifeState} {i : Nat} {row : MediaBuy} {phase : ExecPhase}
    (hs : OneOrder s)
    (hi : s.running i = some phase)
    (hrecord : phase = .ordered → row.confirmedAt ≠ none ∨ row.status = .failed) :
    OneOrder ((s.write row).drop i) where
  one_running := by
    intro j j' p q hj hj'
    exact hs.one_running j j' p q (LifeState.running_drop.mp hj).2
      (LifeState.running_drop.mp hj').2
  has_row := by simp [LifeState.write, LifeState.drop]
  one_order := hs.one_order
  fresh := fun j p hj hp => hs.fresh j p (LifeState.running_drop.mp hj).2 hp
  recorded := by
    intro hpos
    by_cases hphase : phase = .ordered
    · exact .inl ⟨row, rfl, hrecord hphase⟩
    · exact absurd (hs.fresh i phase hi hphase) (Nat.pos_iff_ne_zero.mp hpos)

theorem dropped
    {s : LifeState} {i : Nat} {phase : ExecPhase}
    (hs : OneOrder s)
    (hi : s.running i = some phase)
    (hphase : phase ≠ .ordered) :
    OneOrder (s.drop i) where
  one_running := by
    intro j j' p q hj hj'
    exact hs.one_running j j' p q (LifeState.running_drop.mp hj).2
      (LifeState.running_drop.mp hj').2
  has_row := fun j p hj => hs.has_row j p (LifeState.running_drop.mp hj).2
  one_order := hs.one_order
  fresh := fun j p hj hp => hs.fresh j p (LifeState.running_drop.mp hj).2 hp
  recorded := fun hpos => absurd (hs.fresh i phase hi hphase) (Nat.pos_iff_ne_zero.mp hpos)

/-- A writer that leaves `failed` only from another status keeps the record. -/
theorem written
    {s : LifeState} {row row' : MediaBuy} {committed : Bool}
    (hs : OneOrder s)
    (hrow : s.row = some row)
    (hspec : MediaBuy.WriterSpec row row' committed)
    (hfailed : row.status = .failed → row'.status = .failed) :
    OneOrder (s.write row') where
  one_running := hs.one_running
  has_row := by simp [LifeState.write]
  one_order := hs.one_order
  fresh := hs.fresh
  recorded := by
    intro hpos
    rcases hs.recorded hpos with ⟨old, hold, hwhy⟩ | ⟨_, i, -, hi⟩
    · rw [hrow] at hold
      cases hold
      refine .inl ⟨row', rfl, ?_⟩
      rcases hwhy with hconfirmed | hstatus
      · obtain ⟨c, hc⟩ := Option.ne_none_iff_exists'.mp hconfirmed
        exact .inl (by simp [hspec.write_once c hc])
      · exact .inr (hfailed hstatus)
    · exact .inr ⟨row', i, rfl, hi⟩

/-- The guarded steps keep the invariant. -/
theorem preserved :
    Preserved (Restrict LifeStep KeepsOneOrder) OneOrder := by
  rintro s e t ⟨hstep, hguard⟩ hs
  cases hstep with
  | createSync hnone =>
      have hzero := hs.orders_eq_zero_of_no_row hnone
      exact hs.inserted hnone (by omega) (fun _ => MediaBuy.stamp_committed _ _)
  | createManual hnone =>
      have hzero := hs.orders_eq_zero_of_no_row hnone
      exact hs.inserted hnone (by omega) (fun h => by omega)
  | approvalRoute hrow hstatus _ =>
      exact hs.admitted hrow hguard.1
        (hs.orders_eq_zero_of_unconfirmed hrow (by simp [hstatus]) hguard.1 hguard.2)
  | creativeRoute hrow hstatus _ _ =>
      refine hs.admitted hrow hguard.1
        (hs.orders_eq_zero_of_unconfirmed hrow ?_ hguard.1 hguard.2)
      rcases hstatus with h | h <;> simp [h]
  | held _ hi _ => exact hs.finished hi (by simp)
  | gatePassed hrow hi _ =>
      exact hs.advanced hrow hi hs.one_order (fun _ => hs.fresh _ _ hi (by simp))
  | abandoned hi => exact hs.dropped hi (by simp)
  | adapterOk hi =>
      obtain ⟨row, hrow⟩ := Option.ne_none_iff_exists'.mp (hs.has_row _ _ hi)
      have hzero := hs.fresh _ _ hi (by simp)
      exact hs.advanced hrow hi (by omega) (by simp)
  | adapterRaised _ hi => exact hs.finished hi (by simp)
  | executed _ hi =>
      exact hs.finished hi (fun _ => .inl ((MediaBuy.updateStatus_spec _ _ _ _ _ _).committed rfl))
  | failedAfterOrder _ hi => exact hs.finished hi (by simp)
  | died hi =>
      refine hs.dropped hi ?_
      rintro rfl
      exact hguard hi
  | rejected hrow hstatus =>
      exact hs.written hrow (MediaBuy.updateStatus_spec _ _ _ _ _ _) (by simp [hstatus])
  | swept hrow hstatus _ =>
      refine hs.written hrow (MediaBuy.updateStatus_spec _ _ _ _ _ _) ?_
      intro hfailed
      simp [hfailed, sweptStatuses, activatableStatuses] at hstatus
  | updated hrow hnone =>
      exact hs.written hrow (MediaBuy.updateFields_spec _ _ _ _) (by simp [hnone])
  | creativesChanged => exact ⟨hs.1, hs.2, hs.3, hs.4, hs.5⟩
  | draftAssigned hrow hstatus _ =>
      exact hs.written hrow (MediaBuy.updateStatus_spec _ _ _ _ _ _) (by simp [hstatus])

end OneOrder

/-- Along every run of guarded steps, the buy has at most one ad-server order. -/
theorem one_order_per_buy
    {creatives : List Creative} {assignments : List CreativeAssignment}
    {es : List LifeEvent} {s : LifeState}
    (hrun : Run (Restrict LifeStep KeepsOneOrder)
      (LifeState.init creatives assignments) es s) :
    s.orders ≤ 1 :=
  (hrun.preserves OneOrder.preserved (OneOrder.init creatives assignments)).one_order

/-- A buy approved once and executed has one order. -/
theorem approved_once_one_order :
    ∃ s, Run (Restrict LifeStep KeepsOneOrder) (LifeState.init [] [])
        [.createManual sampleBuy 0, .approvalRoute 0, .gatePassed 0, .adapterOk 0,
          .executed 0 5 (some 5) (some "admin")] s ∧
      s.orders ≤ 1 := by
  have hunconfirmed : Unconfirmed ((LifeState.init [] []).write (sampleBuy.manualRow 0)) := by
    intro row hrow
    cases hrow
    rfl
  have hrun : Run (Restrict LifeStep KeepsOneOrder) (LifeState.init [] [])
      [.createManual sampleBuy 0, .approvalRoute 0, .gatePassed 0, .adapterOk 0,
        .executed 0 5 (some 5) (some "admin")] _ :=
    .cons ⟨.createManual rfl, trivial⟩
      (.cons ⟨.approvalRoute rfl rfl rfl, fun _ => rfl, hunconfirmed⟩
        (.cons ⟨.gatePassed rfl rfl rfl, trivial⟩
          (.cons ⟨.adapterOk rfl, trivial⟩ (.single ⟨.executed rfl rfl, trivial⟩))))
  exact ⟨_, hrun, one_order_per_buy hrun⟩

/-- The approved creative that unblocks the buy, and its assignment. -/
def sampleCreative : Creative where
  creativeId := "c_1"
  tenantId := "tenant"
  principalId := "principal"
  format := none
  status := .approved
  createdAt := 1
  updatedAt := none

def sampleAssignment : CreativeAssignment where
  tenantId := "tenant"
  principalId := "principal"
  mediaBuyId := "mb_1"
  packageId := "pkg_1"
  creativeId := "c_1"
  weight := 100
  placementIds := none

/-- Approving the first creative of a synchronously created buy orders it again. -/
theorem two_orders_for_one_buy :
    ¬ ∀ (creatives : List Creative) (assignments : List CreativeAssignment)
      (es : List LifeEvent) (s : LifeState),
      Run LifeStep (LifeState.init creatives assignments) es s →
      s.orders ≤ 1 := by
  intro h
  have hrun : Run LifeStep (LifeState.init [] [])
      [.createSync sampleBuy 0, .creativesChanged [sampleCreative] [sampleAssignment],
        .creativeRoute 0, .gatePassed 0, .adapterOk 0] _ :=
    .cons (.createSync rfl) (.cons .creativesChanged
      (.cons (.creativeRoute rfl (.inl rfl) rfl rfl)
        (.cons (.gatePassed rfl rfl rfl) (.single (.adapterOk rfl)))))
  have htwo := h _ _ _ _ hrun
  simp [LifeState.advance, LifeState.write, LifeState.init] at htwo

end MediaBuys
end SalesAgent
