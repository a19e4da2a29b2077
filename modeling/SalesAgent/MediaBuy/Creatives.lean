import SalesAgent.MediaBuy.Status

/-!
# Creatives, their assignments and the two approval readings

A creative counts for a buy through its assignments.  The approval gate reads
the creatives assigned to the buy and collects those not cleared to serve; the
scheduler asks whether all of them are approved.  Both skip an assignment whose
creative row is missing.

**Results.**
* `unapprovedCreativeIds_eq_nil_iff`: when the gate lets an order be created.
* `unapproved_nil_of_areCreativesApproved`: what the scheduler calls approved
  passes the gate.
-/

namespace SalesAgent
namespace MediaBuys

/-- The statuses a creative row is written or compared with. -/
inductive CreativeStatus
  | processing
  | pendingReview
  | approved
  | active
  | rejected
  | error
  | archived
  deriving DecidableEq, Repr

/-- A format, identified by the canonical URL of its agent and its id there. -/
structure FormatIdentity where
  agentUrl : String
  id : String
  deriving DecidableEq, Repr

/-- A row of `creatives`; the id is unique under tenant and principal. -/
structure Creative where
  creativeId : String
  tenantId : String
  principalId : String
  /-- `none` when the stored format names no usable format -/
  format : Option FormatIdentity
  status : CreativeStatus
  createdAt : DateTime
  updatedAt : Option DateTime
  deriving DecidableEq, Repr

/-- A row of `creative_assignments`. -/
structure CreativeAssignment where
  tenantId : String
  principalId : String
  mediaBuyId : String
  packageId : String
  creativeId : String
  weight : Int
  placementIds : Option (List String)
  deriving DecidableEq, Repr

/-- The creatives of the tenant that the buy's assignments name. -/
def assignedCreatives
    (creatives : List Creative)
    (assignments : List CreativeAssignment)
    (tenantId mediaBuyId : String) : List Creative :=
  let creativeIds :=
    (assignments.filter (fun a => a.tenantId = tenantId ∧ a.mediaBuyId = mediaBuyId)).map
      (·.creativeId)
  creatives.filter (fun c => c.tenantId = tenantId ∧ c.creativeId ∈ creativeIds)

/-- `approved` and `active` both count as cleared to serve. -/
def CreativeStatus.cleared
    (status : CreativeStatus) : Bool :=
  status = .approved ∨ status = .active

/-- Creative ids assigned to the buy that are not cleared to serve. -/
def unapprovedCreativeIds
    (creatives : List Creative)
    (assignments : List CreativeAssignment)
    (tenantId mediaBuyId : String) : List String :=
  ((assignedCreatives creatives assignments tenantId mediaBuyId).filter
    (fun c => ! c.status.cleared)).map (·.creativeId)

/-- Whether the sweep may activate the buy. -/
def areCreativesApproved
    (creatives : List Creative)
    (assignments : List CreativeAssignment)
    (tenantId mediaBuyId : String) : Bool :=
  (assignedCreatives creatives assignments tenantId mediaBuyId).all
    (fun c => c.status = .approved)

section Gates

variable {creatives : List Creative} {assignments : List CreativeAssignment}
variable {tenantId mediaBuyId : String}

theorem unapprovedCreativeIds_eq_nil_iff :
    unapprovedCreativeIds creatives assignments tenantId mediaBuyId = [] ↔
      ∀ c ∈ assignedCreatives creatives assignments tenantId mediaBuyId,
        c.status.cleared = true := by
  simp [unapprovedCreativeIds]

/-- What the scheduler calls approved passes the gate. -/
theorem unapproved_nil_of_areCreativesApproved
    (h : areCreativesApproved creatives assignments tenantId mediaBuyId = true) :
    unapprovedCreativeIds creatives assignments tenantId mediaBuyId = [] := by
  rw [unapprovedCreativeIds_eq_nil_iff]
  intro c hc
  have happroved : c.status = .approved := by
    simpa using List.all_eq_true.mp h c hc
  simp [CreativeStatus.cleared, happroved]

end Gates

end MediaBuys
end SalesAgent
