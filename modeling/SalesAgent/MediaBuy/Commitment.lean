import SalesAgent.MediaBuy.Lifecycle

/-!
# The commitment instant of a media buy

`confirmed_at` is stamped only when a writer passes `seller_committed`, and the
status column is written by eight call sites.  The invariant is derived from
what one step can do to the row (`LifeStep.rowChange`), not from each call site.

**Results.**
* `activeConfirmed_preserved`: an active row carries a commitment instant.
* `confirmedAt_kept`: the instant, once set, never changes or clears.
* `commitment_origin`: it is set only if the ad server created an order for the
  buy or the row was active before.
* `commitment_invariant`: the three, over every run.
-/

namespace SalesAgent
namespace MediaBuys

open Runs

/-- An active row carries a commitment instant. -/
def ActiveConfirmed
    (s : LifeState) : Prop :=
  ∀ row, s.row = some row → row.status = .active → row.confirmedAt ≠ none

theorem NewBuy.syncRow_confirmed
    (b : NewBuy)
    (now : DateTime) :
    (b.syncRow now).confirmedAt ≠ none :=
  MediaBuy.stamp_committed _ _

theorem NewBuy.manualRow_unconfirmed
    (b : NewBuy)
    (now : DateTime) :
    (b.manualRow now).confirmedAt = none := by
  simp [NewBuy.manualRow, MediaBuy.createFromRequest]

theorem NewBuy.manualRow_status
    (b : NewBuy)
    (now : DateTime) :
    (b.manualRow now).status = .pendingApproval :=
  MediaBuy.createFromRequest_status

theorem activeConfirmed_preserved :
    Preserved LifeStep ActiveConfirmed := by
  intro s e t hstep hs row' hrow' hactive
  cases hstep.rowChange with
  | insertedSync b now _ hins _ =>
      rw [hins] at hrow'
      cases hrow'
      exact b.syncRow_confirmed now
  | insertedManual b now _ hins =>
      rw [hins] at hrow'
      cases hrow'
      rw [b.manualRow_status now] at hactive
      cases hactive
  | kept hkept =>
      exact hs row' (hkept ▸ hrow') hactive
  | written row written committed hrow hwritten hspec hstatus _ =>
      rw [hwritten] at hrow'
      cases hrow'
      rcases hstatus hactive with hwas | hcommitted
      · obtain ⟨c, hc⟩ := Option.ne_none_iff_exists'.mp (hs row hrow hwas)
        simp [hspec.write_once c hc]
      · exact hspec.committed hcommitted

theorem confirmedAt_step
    {s t : LifeState} {e : LifeEvent} {c : DateTime}
    (hstep : LifeStep s e t)
    (hs : ∃ row, s.row = some row ∧ row.confirmedAt = some c) :
    ∃ row, t.row = some row ∧ row.confirmedAt = some c := by
  obtain ⟨row, hrow, hc⟩ := hs
  cases hstep.rowChange with
  | insertedSync _ _ hnone _ _ =>
      rw [hrow] at hnone
      cases hnone
  | insertedManual _ _ hnone _ =>
      rw [hrow] at hnone
      cases hnone
  | kept hkept =>
      exact ⟨row, hkept.trans hrow, hc⟩
  | written old row' committed hold hwritten hspec _ _ =>
      rw [hrow] at hold
      cases hold
      exact ⟨row', hwritten, hspec.write_once c hc⟩

/-- The commitment instant, once set, never changes or clears. -/
theorem confirmedAt_kept
    {s t : LifeState} {es : List LifeEvent} {row : MediaBuy} {c : DateTime}
    (hrun : Run LifeStep s es t)
    (hrow : s.row = some row)
    (hc : row.confirmedAt = some c) :
    ∃ row', t.row = some row' ∧ row'.confirmedAt = some c :=
  hrun.preserves (fun _ _ _ hstep hs => confirmedAt_step hstep hs) ⟨row, hrow, hc⟩

/-- The row was active at some point of the history. -/
def ReachedActive
    (s₀ : LifeState)
    (es : List LifeEvent) : Prop :=
  ∃ es₁ es₂ s₁ row, es = es₁ ++ es₂ ∧ Run LifeStep s₀ es₁ s₁ ∧
    s₁.row = some row ∧ row.status = .active

theorem ReachedActive.append
    {s₀ : LifeState} {es : List LifeEvent}
    (h : ReachedActive s₀ es)
    (fs : List LifeEvent) :
    ReachedActive s₀ (es ++ fs) := by
  obtain ⟨es₁, es₂, s₁, row, rfl, hrun, hrow, hactive⟩ := h
  exact ⟨es₁, es₂ ++ fs, s₁, row, by simp, hrun, hrow, hactive⟩

/-- A commitment instant has an order or an active row behind it. -/
structure Committed (s₀ : LifeState) (es : List LifeEvent) (s : LifeState) : Prop where
  run : Run LifeStep s₀ es s
  backed : OrdersBacked s
  origin : ∀ row, s.row = some row → row.confirmedAt ≠ none →
    0 < s.orders ∨ ReachedActive s₀ es

theorem Committed.step
    {s₀ s t : LifeState} {es : List LifeEvent} {e : LifeEvent}
    (hs : Committed s₀ es s)
    (hstep : LifeStep s e t) :
    Committed s₀ (es ++ [e]) t where
  run := hs.run.append (.single hstep)
  backed := ordersBacked_preserved hstep hs.backed
  origin := by
    have hold : 0 < s.orders ∨ ReachedActive s₀ es →
        0 < t.orders ∨ ReachedActive s₀ (es ++ [e]) := by
      rintro (horders | hreached)
      · exact .inl (lt_of_lt_of_le horders hstep.orders_le)
      · exact .inr (hreached.append [e])
    intro row' hrow' hconfirmed
    cases hstep.rowChange with
    | insertedSync _ _ _ _ horders => exact .inl horders
    | insertedManual b now _ hins =>
        rw [hins] at hrow'
        cases hrow'
        exact absurd (b.manualRow_unconfirmed now) hconfirmed
    | kept hkept =>
        exact hold (hs.origin row' (hkept ▸ hrow') hconfirmed)
    | written row written committed hrow hwritten hspec _ hcommit =>
        rw [hwritten] at hrow'
        cases hrow'
        rcases hspec.confirmed_inv hconfirmed with hbefore | hcommitted
        · exact hold (hs.origin row hrow hbefore)
        · rcases hcommit hcommitted with ⟨i, hi⟩ | hactive
          · exact hold (.inl (hs.backed i hi))
          · exact .inr ⟨es ++ [e], [], t, row', by simp,
              hs.run.append (.single hstep), hwritten, hactive⟩

/-- A set instant means an order, or a row that was active. -/
theorem commitment_origin
    {creatives : List Creative} {assignments : List CreativeAssignment}
    {es : List LifeEvent} {s : LifeState}
    (hrun : Run LifeStep (LifeState.init creatives assignments) es s) :
    Committed (LifeState.init creatives assignments) es s := by
  have hinit : Committed (LifeState.init creatives assignments) []
      (LifeState.init creatives assignments) :=
    ⟨.nil _, OrdersBacked.init creatives assignments, fun row hrow => by cases hrow⟩
  have h := hrun.preserves_history (fun _ _ _ _ hs hstep => Committed.step hs hstep) hinit
  simpa using h

/-- The commitment invariant of a media-buy row, over every run. -/
theorem commitment_invariant
    {creatives : List Creative} {assignments : List CreativeAssignment}
    {es : List LifeEvent} {s : LifeState}
    (hrun : Run LifeStep (LifeState.init creatives assignments) es s) :
    (∀ row, s.row = some row → row.status = .active → row.confirmedAt ≠ none) ∧
    (∀ row c fs t, s.row = some row → row.confirmedAt = some c → Run LifeStep s fs t →
      ∃ row', t.row = some row' ∧ row'.confirmedAt = some c) ∧
    (∀ row, s.row = some row → row.confirmedAt ≠ none →
      0 < s.orders ∨ ReachedActive (LifeState.init creatives assignments) es) := by
  refine ⟨?_, ?_, ?_⟩
  · have hinit : ActiveConfirmed (LifeState.init creatives assignments) := by
      intro row hrow
      cases hrow
    exact hrun.preserves activeConfirmed_preserved hinit
  · intro row c fs t hrow hc hlater
    exact confirmedAt_kept hlater hrow hc
  · exact (commitment_origin hrun).origin

/-- Approving the buy inside its flight activates it, with its instant set. -/
theorem approved_buy_committed :
    ∃ s row, Run LifeStep (LifeState.init [] [])
        [.createManual sampleBuy 0, .approvalRoute 0, .gatePassed 0, .adapterOk 0,
          .executed 0 5 (some 5) (some "admin")] s ∧
      s.row = some row ∧ row.status = .active ∧ row.confirmedAt ≠ none := by
  have hrun : Run LifeStep (LifeState.init [] [])
      [.createManual sampleBuy 0, .approvalRoute 0, .gatePassed 0, .adapterOk 0,
        .executed 0 5 (some 5) (some "admin")] _ :=
    .cons (.createManual rfl) (.cons (.approvalRoute rfl rfl rfl)
      (.cons (.gatePassed rfl rfl rfl) (.cons (.adapterOk rfl)
        (.single (.executed rfl rfl)))))
  exact ⟨_, _, hrun, rfl, rfl, (commitment_invariant hrun).1 _ rfl rfl⟩

end MediaBuys
end SalesAgent
