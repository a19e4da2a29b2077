import SalesAgent.MediaBuy.Creatives
import Mathlib.Data.List.Basic

/-!
# The two readings of a buy's creatives

The approval gate and the status scheduler ask of the same assignments whether a buy is
free of its creatives, in two queries.  Both look creatives up by id within the tenant,
although an id is the buyer's choice and may name a creative of each of several
principals; both skip an id without a row; and they do not agree on `active`.

**Results.**
* `gatesMeet_iff`: the stores on which both read the buy's own creatives, miss none, and
  agree.
* `foreign_creative_holds_buy`: a creative of another principal holds a buy whose own
  creatives are all approved.
-/

namespace SalesAgent
namespace MediaBuys

section Gates

variable (creatives : List Creative) (assignments : List CreativeAssignment)
variable (tenantId principalId mediaBuyId : String)

/-- The creatives of one principal. -/
def ownCreatives : List Creative :=
  creatives.filter (fun c => c.tenantId = tenantId ∧ c.principalId = principalId)

/-- The assignments of the buy. -/
def assignmentsOfBuy : List CreativeAssignment :=
  assignments.filter (fun a => a.tenantId = tenantId ∧ a.mediaBuyId = mediaBuyId)

/-- The principal has a row for an assigned creative. -/
def HasRow
    (a : CreativeAssignment) : Prop :=
  ∃ c ∈ ownCreatives creatives tenantId principalId, c.creativeId = a.creativeId

/-- Both readings of a buy are about the creatives of its own principal, count a missing
row as not approved, and agree. -/
structure GatesMeet : Prop where
  gateOwn : unapprovedCreativeIds creatives assignments tenantId mediaBuyId =
    unapprovedCreativeIds (ownCreatives creatives tenantId principalId) assignments tenantId
      mediaBuyId
  schedulerOwn : areCreativesApproved creatives assignments tenantId mediaBuyId =
    areCreativesApproved (ownCreatives creatives tenantId principalId) assignments tenantId
      mediaBuyId
  missing : ∀ a ∈ assignmentsOfBuy assignments tenantId mediaBuyId,
    ¬ HasRow creatives tenantId principalId a →
      unapprovedCreativeIds creatives assignments tenantId mediaBuyId ≠ [] ∧
        areCreativesApproved creatives assignments tenantId mediaBuyId = false
  agree : unapprovedCreativeIds creatives assignments tenantId mediaBuyId = [] ↔
    areCreativesApproved creatives assignments tenantId mediaBuyId = true

/-- Every creative of another principal under an assigned id is cleared; and one of the
buy's own creatives is not, or each assigned creative has its row and all of that id are
approved. -/
structure WellReferenced : Prop where
  foreign : ∀ c ∈ assignedCreatives creatives assignments tenantId mediaBuyId,
    c.principalId ≠ principalId → c.status.cleared = true
  own : (∃ c ∈ assignedCreatives creatives assignments tenantId mediaBuyId,
      c.principalId = principalId ∧ c.status.cleared = false) ∨
    (∀ a ∈ assignmentsOfBuy assignments tenantId mediaBuyId,
      HasRow creatives tenantId principalId a) ∧
    ∀ c ∈ assignedCreatives creatives assignments tenantId mediaBuyId, c.status = .approved

variable {creatives assignments tenantId principalId mediaBuyId}

theorem assignedCreatives_own :
    assignedCreatives (ownCreatives creatives tenantId principalId) assignments tenantId mediaBuyId =
      (assignedCreatives creatives assignments tenantId mediaBuyId).filter
        (fun c => c.principalId = principalId) := by
  unfold assignedCreatives ownCreatives
  simp only [List.filter_filter]
  refine List.filter_congr ?_
  intro c _
  by_cases htenant : c.tenantId = tenantId
  · simp [htenant, Bool.and_comm]
  · simp [htenant]

theorem gateOwn_iff :
    unapprovedCreativeIds creatives assignments tenantId mediaBuyId =
        unapprovedCreativeIds (ownCreatives creatives tenantId principalId) assignments tenantId
          mediaBuyId ↔
      ∀ c ∈ assignedCreatives creatives assignments tenantId mediaBuyId,
        c.principalId ≠ principalId → c.status.cleared = true := by
  unfold unapprovedCreativeIds
  rw [assignedCreatives_own, List.filter_comm]
  constructor
  · intro heq c hc hforeign
    by_contra huncleared
    -- an uncleared foreign creative makes the gate's list longer
    have hmem : c ∈ (assignedCreatives creatives assignments tenantId mediaBuyId).filter
        (fun c => ! c.status.cleared) :=
      List.mem_filter.mpr ⟨hc, by simpa using huncleared⟩
    have hlonger := (List.length_filter_lt_length_iff_exists
      (p := fun c => decide (c.principalId = principalId))).mpr ⟨c, hmem, by simpa using hforeign⟩
    have hlength := congrArg List.length heq
    rw [List.length_map, List.length_map] at hlength
    omega
  · intro hcleared
    congr 1
    refine (List.filter_eq_self.mpr ?_).symm
    intro c hc
    obtain ⟨hassigned, huncleared⟩ := List.mem_filter.mp hc
    by_contra hforeign
    rw [hcleared c hassigned (by simpa using hforeign)] at huncleared
    cases huncleared

theorem areCreativesApproved_iff :
    areCreativesApproved creatives assignments tenantId mediaBuyId = true ↔
      ∀ c ∈ assignedCreatives creatives assignments tenantId mediaBuyId,
        c.status = .approved := by
  simp [areCreativesApproved]

theorem areCreativesApproved_own_iff :
    areCreativesApproved (ownCreatives creatives tenantId principalId) assignments tenantId
        mediaBuyId = true ↔
      ∀ c ∈ assignedCreatives creatives assignments tenantId mediaBuyId,
        c.principalId = principalId → c.status = .approved := by
  rw [areCreativesApproved_iff, assignedCreatives_own]
  simp [List.mem_filter]

theorem cleared_of_approved
    {status : CreativeStatus}
    (h : status = .approved) :
    status.cleared = true := by
  rw [h]
  rfl

theorem held_of_uncleared
    {c : Creative}
    (hc : c ∈ assignedCreatives creatives assignments tenantId mediaBuyId)
    (huncleared : c.status.cleared = false) :
    unapprovedCreativeIds creatives assignments tenantId mediaBuyId ≠ [] ∧
      areCreativesApproved creatives assignments tenantId mediaBuyId = false := by
  refine ⟨fun hnil => ?_, ?_⟩
  · rw [unapprovedCreativeIds_eq_nil_iff.mp hnil c hc] at huncleared
    cases huncleared
  · rw [Bool.eq_false_iff]
    intro happroved
    rw [cleared_of_approved (areCreativesApproved_iff.mp happroved c hc)] at huncleared
    cases huncleared

/-- The two readings are about the buy's own creatives and agree exactly on these
stores. -/
theorem gatesMeet_iff :
    GatesMeet creatives assignments tenantId principalId mediaBuyId ↔
      WellReferenced creatives assignments tenantId principalId mediaBuyId := by
  constructor
  · intro h
    have hforeign := gateOwn_iff.mp h.gateOwn
    refine ⟨hforeign, ?_⟩
    by_cases hheld : ∃ c ∈ assignedCreatives creatives assignments tenantId mediaBuyId,
        c.principalId = principalId ∧ c.status.cleared = false
    · exact .inl hheld
    · have hcleared : ∀ c ∈ assignedCreatives creatives assignments tenantId mediaBuyId,
          c.status.cleared = true := by
        intro c hc
        by_cases hown : c.principalId = principalId
        · by_contra huncleared
          exact hheld ⟨c, hc, hown, by simpa using huncleared⟩
        · exact hforeign c hc hown
      have hpasses := unapprovedCreativeIds_eq_nil_iff.mpr hcleared
      refine .inr ⟨fun a ha => ?_, areCreativesApproved_iff.mp (h.agree.mp hpasses)⟩
      by_contra hmissing
      exact (h.missing a ha hmissing).1 hpasses
  · rintro ⟨hforeign, hown⟩
    have hgate := gateOwn_iff.mpr hforeign
    rcases hown with ⟨c, hc, hprincipal, huncleared⟩ | ⟨hrows, happroved⟩
    · have hheld := held_of_uncleared hc huncleared
      refine ⟨hgate, ?_, fun _ _ _ => hheld, fun hnil => absurd hnil hheld.1, fun happroved => ?_⟩
      · rw [hheld.2, eq_comm, Bool.eq_false_iff]
        intro happroved
        have hstatus := areCreativesApproved_own_iff.mp happroved c hc hprincipal
        rw [cleared_of_approved hstatus] at huncleared
        cases huncleared
      · rw [hheld.2] at happroved
        cases happroved
    · have hscheduler := areCreativesApproved_iff.mpr happroved
      refine ⟨hgate, ?_, fun a ha hmissing => absurd (hrows a ha) hmissing, fun _ => hscheduler,
        unapproved_nil_of_areCreativesApproved⟩
      rw [hscheduler, areCreativesApproved_own_iff.mpr (fun c hc _ => happroved c hc)]

end Gates

/-- A creative named `c1`. -/
def sampleCreativeOf
    (principalId : String)
    (status : CreativeStatus) : Creative where
  creativeId := "c1"
  tenantId := "t1"
  principalId := principalId
  format := none
  status := status
  createdAt := 0
  updatedAt := none

/-- The creative `c1` of `p1`, assigned to its buy. -/
def sampleAssigned : CreativeAssignment where
  tenantId := "t1"
  principalId := "p1"
  mediaBuyId := "b1"
  packageId := "k1"
  creativeId := "c1"
  weight := 100
  placementIds := none

/-- The creative another principal has under the same id holds a buy whose own creative
is approved. -/
theorem foreign_creative_holds_buy :
    ¬ GatesMeet [sampleCreativeOf "p1" .approved, sampleCreativeOf "p2" .pendingReview]
      [sampleAssigned] "t1" "p1" "b1" := by
  intro h
  have hsame := h.gateOwn
  revert hsame
  decide

end MediaBuys
end SalesAgent
