import SalesAgent.Idempotency.Canonical
import SalesAgent.Lib.FloatRounding
import SalesAgent.Lib.IndexedTable
import SalesAgent.MediaBuy.Creatives
import SalesAgent.MediaBuy.Repository
import Mathlib.Data.Rat.Defs

/-!
# The rows a media buy is made of

A media buy owns its packages and the creative assignments of its packages; the
creatives belong to the principal.  Workflow steps and their mappings to objects
carry human decisions.  Every table carries its unique index, so a store that
violates one cannot be built.

A package keeps its budget twice: in a column, which `get_media_buys` reads, and
inside `package_config`, the JSON the adapters and the approval replay read.

**Results.**  What each row update does to later lookups.
-/

namespace SalesAgent
namespace MediaBuys

open Idempotency (Json)

/-- The codes the create and update tools raise. -/
inductive ErrorCode
  | validationError
  | invalidRequest
  | invalidState
  | notCancellable
  | permissionDenied
  | mediaBuyNotFound
  | packageNotFound
  | productNotFound
  | creativeNotFound
  | unsupportedFeature
  | budgetTooLow
  | budgetExceeded
  | creativeRejected
  | configurationError
  | serviceUnavailable
  | internalError
  deriving DecidableEq, Repr

/-- An error as the buyer sees it: its code and the field it names. -/
structure BuyerError where
  code : ErrorCode
  field : Option String := none
  deriving DecidableEq, Repr

/-- The indexed pointer of a per-package field. -/
def packageFieldPath
    (attr : String)
    (index : Nat) : String :=
  "packages[" ++ toString index ++ "]." ++ attr

/-- Decimal amounts and the numbers a request carries. -/
abbrev Decimal := ℚ

/-- `int(x)`, which drops the fraction. -/
def Decimal.truncate
    (x : Decimal) : Int :=
  x.num.tdiv x.den

/-- `float(x)`, the nearest double. -/
def Decimal.float
    (x : Decimal) : Decimal :=
  FloatRounding.nearest 53 x

/-- A targeting overlay, as it is stored. -/
abbrev Targeting := Json

/-- `package_config["budget"]`: the object a create writes or the number an adapter writes. -/
inductive ConfigBudget
  | object (total : Decimal) (currency : String)
  | number (amount : Decimal)
  deriving DecidableEq, Repr

/-- The amount of a stored budget. -/
def ConfigBudget.amount : ConfigBudget → Decimal
  | .object total _ => total
  | .number amount => amount

/-- The pricing models of the protocol. -/
inductive PricingModel
  | cpm
  | vcpm
  | cpc
  | cpcv
  | cpv
  | cpp
  | flatRate
  | cpa
  | time
  deriving DecidableEq, Repr

/-- The pricing terms a package is stored with. -/
structure PricingInfo where
  pricingModel : PricingModel
  rate : Option Decimal
  currency : String
  isFixed : Bool
  bidPrice : Option Decimal
  deriving DecidableEq, Repr

/-- The members of `package_config` the tools read or write. -/
structure PackageConfig where
  productId : Option String
  budget : Option ConfigBudget
  targetingOverlay : Option Targeting
  paused : Option Bool
  pricingInfo : Option PricingInfo := none

/-- A row of `media_packages`. -/
structure MediaPackage where
  mediaBuyId : String
  packageId : String
  budget : Option Decimal
  config : PackageConfig

/-- A pricing option of a product. -/
structure PricingOption where
  pricingOptionId : String
  pricingModel : PricingModel
  currency : String
  isFixed : Bool
  rate : Option Decimal
  /-- the floor of its price guidance -/
  floor : Option Decimal
  minSpendPerPackage : Option Decimal
  deriving DecidableEq, Repr

/-- A reference to a format, as a product or a request writes it. -/
structure FormatId where
  agentUrl : String
  id : String
  width : Option Nat
  height : Option Nat
  durationMs : Option Decimal
  /-- the canonical form of the URL; `none` when the reference is not usable -/
  canonicalUrl : Option String
  deriving DecidableEq, Repr

/-- `format_identity_or_none`. -/
def FormatId.identity
    (f : FormatId) : Option FormatIdentity :=
  f.canonicalUrl.map (fun url => ⟨url, f.id⟩)

/-- Whether a product sells reserved inventory. -/
inductive DeliveryType
  | guaranteed
  | nonGuaranteed
  deriving DecidableEq, Repr

/-- A catalogue product, as the tools read it. -/
structure Product where
  productId : String
  name : String
  deliveryType : DeliveryType
  pricingOptions : List PricingOption
  formats : List FormatId
  /-- the formats of the inventory profile it is sold from, where it has one -/
  profileFormats : Option (List FormatId)
  /-- the `placement_id` of each placement it defines -/
  placements : List (Option String)
  propertyTargetingAllowed : Bool
  /-- `auto_create_enabled` of its `implementation_config` -/
  autoCreateEnabled : Option Bool
  deriving DecidableEq, Repr

/-- `product_format_identities`. -/
def Product.formatIds
    (p : Product) : List FormatIdentity :=
  p.formats.filterMap FormatId.identity

/-- `effective_format_ids`: those of the inventory profile come first. -/
def Product.effectiveFormats
    (p : Product) : List FormatId :=
  p.profileFormats.getD p.formats

/-- A product without formats, or no product, restricts nothing. -/
def Product.accepts
    (product : Option Product)
    (format : Option FormatIdentity) : Bool :=
  match product with
  | none => true
  | some p => p.formatIds.isEmpty || format.any (fun f => f ∈ p.formatIds)

/-- The statuses a workflow step is written with or compared with. -/
inductive WorkflowStepStatus
  | pending
  | inProgress
  | requiresApproval
  | pendingApproval
  | approved
  | rejected
  | completed
  | failed
  deriving DecidableEq, Repr

/-- A row of `workflow_steps`, with tenant and principal of its context. -/
structure WorkflowStep where
  stepId : String
  tenantId : String
  principalId : String
  toolName : String
  status : WorkflowStepStatus
  deriving DecidableEq, Repr

/-- A row of `object_workflow_mapping`. -/
structure ObjectWorkflowMapping where
  stepId : String
  objectType : String
  objectId : String
  action : String
  deriving DecidableEq, Repr

/-- The primary key of a buy. -/
def MediaBuy.primaryKey
    (b : MediaBuy) : Option String :=
  some b.mediaBuyId

/-- The primary key of a package. -/
def MediaPackage.primaryKey
    (p : MediaPackage) : Option (String × String) :=
  some (p.mediaBuyId, p.packageId)

/-- Change the JSON of a package. -/
def MediaPackage.withConfig
    (change : PackageConfig → PackageConfig)
    (p : MediaPackage) : MediaPackage :=
  { p with config := change p.config }

theorem MediaPackage.primaryKey_withConfig
    (change : PackageConfig → PackageConfig)
    (p : MediaPackage) :
    (p.withConfig change).primaryKey = p.primaryKey :=
  rfl

/-- The primary key of a creative. -/
def Creative.primaryKey
    (c : Creative) : Option (String × String × String) :=
  some (c.creativeId, c.tenantId, c.principalId)

/-- The index `uq_creative_assignment`; the principal is not part of it. -/
def CreativeAssignment.uniqueKey
    (a : CreativeAssignment) : Option (String × String × String × String) :=
  some (a.tenantId, a.creativeId, a.mediaBuyId, a.packageId)

/-- The primary key of a workflow step. -/
def WorkflowStep.primaryKey
    (s : WorkflowStep) : Option String :=
  some s.stepId

/-- Write the status of a step. -/
def WorkflowStep.withStatus
    (status : WorkflowStepStatus)
    (s : WorkflowStep) : WorkflowStep :=
  { s with status := status }

theorem WorkflowStep.primaryKey_withStatus
    (status : WorkflowStepStatus)
    (s : WorkflowStep) :
    (s.withStatus status).primaryKey = s.primaryKey :=
  rfl

/-- The stored rows of media buys, packages, creatives and assignments; the foreign
key of a package names a stored buy. -/
structure BuyRows where
  mediaBuys : IndexedTable MediaBuy String MediaBuy.primaryKey
  packages : IndexedTable MediaPackage (String × String) MediaPackage.primaryKey
  creatives : IndexedTable Creative (String × String × String) Creative.primaryKey
  assignments : IndexedTable CreativeAssignment (String × String × String × String)
    CreativeAssignment.uniqueKey
  packagesOwned : ∀ p ∈ packages, (mediaBuys.find p.mediaBuyId).isSome

/-- The rows of the buys together with the workflow rows. -/
structure Store extends BuyRows where
  steps : IndexedTable WorkflowStep String WorkflowStep.primaryKey
  mappings : List ObjectWorkflowMapping

namespace BuyRows

/-- No rows. -/
def empty : BuyRows where
  mediaBuys := .empty
  packages := .empty
  creatives := .empty
  assignments := .empty
  packagesOwned := by simp

/-- `get_by_id`: every query is filtered by tenant. -/
def getById
    (rows : BuyRows)
    (tenantId mediaBuyId : String) : Option MediaBuy :=
  (rows.mediaBuys.find mediaBuyId).filter (fun b => b.tenantId = tenantId)

/-- `get_package`: joined through the buy, whose tenant it checks. -/
def getPackage
    (rows : BuyRows)
    (tenantId mediaBuyId packageId : String) : Option MediaPackage :=
  if (rows.getById tenantId mediaBuyId).isSome then
    rows.packages.find (mediaBuyId, packageId)
  else
    none

/-- `find_package_with_media_buy`: by package id alone, within the tenant. -/
def findPackageWithMediaBuy
    (rows : BuyRows)
    (tenantId packageId : String) : Option (MediaPackage × MediaBuy) :=
  rows.packages.rows.findSome? (fun p =>
    if p.packageId = packageId then
      (rows.getById tenantId p.mediaBuyId).map (fun b => (p, b))
    else
      none)

/-- `get_by_media_buy_and_package`. -/
def assignmentsOf
    (rows : BuyRows)
    (tenantId mediaBuyId packageId : String) : List CreativeAssignment :=
  rows.assignments.rows.filter (fun a =>
    a.tenantId = tenantId ∧ a.mediaBuyId = mediaBuyId ∧ a.packageId = packageId)

/-- A change of a buy that leaves its key and tenant alone. -/
structure BuyChange where
  apply : MediaBuy → MediaBuy
  mediaBuyId : ∀ b, (apply b).mediaBuyId = b.mediaBuyId
  tenantId : ∀ b, (apply b).tenantId = b.tenantId

/-- The change `update_status` makes. -/
def BuyChange.updateStatus
    (status : PersistedMediaBuyStatus)
    (now : DateTime)
    (sellerCommitted : Bool := false)
    (approvedAt : Option DateTime := none)
    (approvedBy : Option String := none) : BuyChange where
  apply := fun b => b.updateStatus status now sellerCommitted approvedAt approvedBy
  mediaBuyId := fun b => by
    simp [MediaBuy.updateStatus, MediaBuy.bumpRevision]
  tenantId := fun b => by
    simp [MediaBuy.updateStatus, MediaBuy.bumpRevision]

/-- The change `update_fields` makes. -/
def BuyChange.updateFields
    (updates : MediaBuy.FieldUpdates)
    (now : DateTime)
    (sellerCommitted : Bool := false) : BuyChange where
  apply := fun b => b.updateFields updates now sellerCommitted
  mediaBuyId := fun b => by
    simp [MediaBuy.updateFields, MediaBuy.bumpRevision]
  tenantId := fun b => by
    simp [MediaBuy.updateFields, MediaBuy.bumpRevision]

/-- Change one buy of the tenant. -/
def modifyBuy
    (rows : BuyRows)
    (tenantId mediaBuyId : String)
    (change : BuyChange) : BuyRows :=
  { rows with
    mediaBuys := rows.mediaBuys.modify mediaBuyId
      (fun b => if b.tenantId = tenantId then change.apply b else b)
      (by
        intro b
        split
        · simp [MediaBuy.primaryKey, change.mediaBuyId]
        · rfl)
    packagesOwned := by
      intro p hp
      rw [IndexedTable.isSome_find_modify]
      exact rows.packagesOwned p hp }

/-- Change the JSON of one package. -/
def modifyConfig
    (rows : BuyRows)
    (mediaBuyId packageId : String)
    (change : PackageConfig → PackageConfig) : BuyRows :=
  { rows with
    packages := rows.packages.modify (mediaBuyId, packageId)
      (MediaPackage.withConfig change)
      (MediaPackage.primaryKey_withConfig change)
    packagesOwned := by
      intro p hp
      obtain ⟨q, hq, rfl⟩ := rows.packages.mem_modify.mp hp
      have howned := rows.packagesOwned q hq
      split
      · exact howned
      · exact howned }

/-- Insert a buy, or refuse it: its id is taken. -/
def insertBuy
    (rows : BuyRows)
    (b : MediaBuy) : Option BuyRows :=
  match h : rows.mediaBuys.insert b with
  | none => none
  | some mediaBuys =>
      some { rows with
        mediaBuys := mediaBuys
        packagesOwned := fun p hp =>
          IndexedTable.isSome_find_insert h (rows.packagesOwned p hp) }

/-- Insert a package, or refuse it: its buy is missing or its key is taken. -/
def insertPackage
    (rows : BuyRows)
    (p : MediaPackage) : Option BuyRows :=
  if hbuy : (rows.mediaBuys.find p.mediaBuyId).isSome then
    match h : rows.packages.insert p with
    | none => none
    | some packages =>
        some { rows with
          packages := packages
          packagesOwned := by
            intro q hq
            rcases (IndexedTable.mem_insert h q).mp hq with rfl | hold
            · exact hbuy
            · exact rows.packagesOwned q hold }
  else none

theorem insertBuy_eq_some
    {rows rows' : BuyRows} {b : MediaBuy}
    (h : rows.insertBuy b = some rows') :
    rows.mediaBuys.insert b = some rows'.mediaBuys ∧ rows'.packages = rows.packages ∧
      rows'.creatives = rows.creatives ∧ rows'.assignments = rows.assignments := by
  unfold insertBuy at h
  split at h
  · cases h
  · next hinsert =>
      cases h
      exact ⟨hinsert, rfl, rfl, rfl⟩

theorem insertPackage_eq_some
    {rows rows' : BuyRows} {p : MediaPackage}
    (h : rows.insertPackage p = some rows') :
    rows.packages.insert p = some rows'.packages ∧ rows'.mediaBuys = rows.mediaBuys ∧
      rows'.creatives = rows.creatives ∧ rows'.assignments = rows.assignments := by
  unfold insertPackage at h
  split at h
  · split at h
    · cases h
    · next hinsert =>
        cases h
        exact ⟨hinsert, rfl, rfl, rfl⟩
  · cases h

theorem getById_modifyBuy
    (rows : BuyRows)
    (tenantId mediaBuyId : String)
    (change : BuyChange) :
    (rows.modifyBuy tenantId mediaBuyId change).getById tenantId mediaBuyId =
      (rows.getById tenantId mediaBuyId).map change.apply := by
  unfold modifyBuy getById
  rw [IndexedTable.find_modify_self]
  cases rows.mediaBuys.find mediaBuyId with
  | none => rfl
  | some b =>
      by_cases h : b.tenantId = tenantId
      · simp [h, change.tenantId, Option.filter]
      · simp [h, Option.filter]

theorem getById_modifyBuy_of_ne
    (rows : BuyRows)
    {tenantId tenantId' mediaBuyId mediaBuyId' : String}
    (change : BuyChange)
    (hne : mediaBuyId' ≠ mediaBuyId) :
    (rows.modifyBuy tenantId mediaBuyId change).getById tenantId' mediaBuyId' =
      rows.getById tenantId' mediaBuyId' := by
  unfold modifyBuy getById
  rw [IndexedTable.find_modify_of_ne _ _ _ hne]

theorem getById_modifyBuy_of_tenant_ne
    (rows : BuyRows)
    {tenantId tenantId' mediaBuyId : String}
    (change : BuyChange)
    (hne : tenantId' ≠ tenantId) :
    (rows.modifyBuy tenantId mediaBuyId change).getById tenantId' mediaBuyId =
      rows.getById tenantId' mediaBuyId := by
  unfold modifyBuy getById
  rw [IndexedTable.find_modify_self]
  cases rows.mediaBuys.find mediaBuyId with
  | none => rfl
  | some b =>
      by_cases h : b.tenantId = tenantId
      · have hother : b.tenantId ≠ tenantId' := fun hb => hne (hb.symm.trans h)
        simp [h, change.tenantId, Option.filter, Ne.symm hne]
      · simp [h]

/-- The tenant has the buy, and it has the property. -/
def HasBuy
    (rows : BuyRows)
    (tenantId mediaBuyId : String)
    (P : MediaBuy → Prop) : Prop :=
  ∃ b, rows.getById tenantId mediaBuyId = some b ∧ P b

/-- A property that a change keeps holds of a buy after the change of any buy. -/
theorem HasBuy.modifyBuy
    {rows : BuyRows} {tenantId tenantId' mediaBuyId mediaBuyId' : String}
    {P : MediaBuy → Prop} {change : BuyChange}
    (hkeep : ∀ b, P b → P (change.apply b))
    (h : rows.HasBuy tenantId mediaBuyId P) :
    (rows.modifyBuy tenantId' mediaBuyId' change).HasBuy tenantId mediaBuyId P := by
  obtain ⟨b, hfound, hb⟩ := h
  by_cases hid : mediaBuyId = mediaBuyId'
  · subst hid
    by_cases htenant : tenantId = tenantId'
    · subst htenant
      refine ⟨change.apply b, ?_, hkeep b hb⟩
      rw [getById_modifyBuy, hfound]
      rfl
    · exact ⟨b, by rw [getById_modifyBuy_of_tenant_ne rows change htenant, hfound], hb⟩
  · exact ⟨b, by rw [getById_modifyBuy_of_ne rows change hid, hfound], hb⟩

theorem find_modifyConfig
    (rows : BuyRows)
    (mediaBuyId packageId : String)
    (change : PackageConfig → PackageConfig) :
    (rows.modifyConfig mediaBuyId packageId change).packages.find (mediaBuyId, packageId) =
      (rows.packages.find (mediaBuyId, packageId)).map
        (MediaPackage.withConfig change) := by
  unfold modifyConfig
  rw [IndexedTable.find_modify_self]

theorem find_modifyConfig_of_ne
    (rows : BuyRows)
    {mediaBuyId packageId : String} {key : String × String}
    (change : PackageConfig → PackageConfig)
    (hne : key ≠ (mediaBuyId, packageId)) :
    (rows.modifyConfig mediaBuyId packageId change).packages.find key =
      rows.packages.find key := by
  unfold modifyConfig
  rw [IndexedTable.find_modify_of_ne _ _ _ hne]

theorem getById_eq_some
    {rows : BuyRows} {tenantId mediaBuyId : String} {b : MediaBuy}
    (h : rows.getById tenantId mediaBuyId = some b) :
    rows.mediaBuys.find mediaBuyId = some b ∧ b.tenantId = tenantId ∧
      b.mediaBuyId = mediaBuyId := by
  rw [getById, Option.filter_eq_some_iff] at h
  refine ⟨h.1, by simpa using h.2, ?_⟩
  have hkey := ((IndexedTable.find_eq_some_iff _).mp h.1).2
  simpa [MediaBuy.primaryKey] using hkey

theorem getById_of_other_tenant
    {rows : BuyRows} {tenantId tenantId' mediaBuyId : String} {b : MediaBuy}
    (h : rows.getById tenantId' mediaBuyId = some b)
    (hne : tenantId ≠ tenantId') :
    rows.getById tenantId mediaBuyId = none := by
  obtain ⟨hfind, hown, -⟩ := getById_eq_some h
  unfold getById
  rw [hfind]
  simp [Option.filter, hown, Ne.symm hne]

end BuyRows

/-- The stored status of a buy of the tenant. -/
def statusOf
    (tenantId mediaBuyId : String)
    (rows : BuyRows) : Option PersistedMediaBuyStatus :=
  (rows.getById tenantId mediaBuyId).map (·.status)

namespace Store

/-- No rows. -/
def empty : Store where
  toBuyRows := .empty
  steps := .empty
  mappings := []

/-- A new step, committed at once; its id is fresh. -/
def createWorkflowStep
    (store : Store)
    (step : WorkflowStep) : Store :=
  { store with steps := store.steps.put step }

/-- Write the status of a step, if it exists. -/
def updateWorkflowStep
    (store : Store)
    (stepId : String)
    (status : WorkflowStepStatus) : Store :=
  { store with
    steps := store.steps.modify stepId (WorkflowStep.withStatus status)
      (WorkflowStep.primaryKey_withStatus status) }

/-- Map a step to an object. -/
def linkWorkflowToObject
    (store : Store)
    (mapping : ObjectWorkflowMapping) : Store :=
  { store with mappings := store.mappings ++ [mapping] }

@[simp] theorem createWorkflowStep_toBuyRows
    (store : Store)
    (step : WorkflowStep) :
    (store.createWorkflowStep step).toBuyRows = store.toBuyRows :=
  rfl

@[simp] theorem updateWorkflowStep_toBuyRows
    (store : Store)
    (stepId : String)
    (status : WorkflowStepStatus) :
    (store.updateWorkflowStep stepId status).toBuyRows = store.toBuyRows :=
  rfl

@[simp] theorem linkWorkflowToObject_toBuyRows
    (store : Store)
    (mapping : ObjectWorkflowMapping) :
    (store.linkWorkflowToObject mapping).toBuyRows = store.toBuyRows :=
  rfl

theorem find_createWorkflowStep
    (store : Store)
    (step : WorkflowStep) :
    (store.createWorkflowStep step).steps.find step.stepId = some step :=
  IndexedTable.find_put_self _ rfl

theorem find_updateWorkflowStep
    (store : Store)
    (stepId : String)
    (status : WorkflowStepStatus) :
    (store.updateWorkflowStep stepId status).steps.find stepId =
      (store.steps.find stepId).map (WorkflowStep.withStatus status) := by
  unfold updateWorkflowStep
  rw [IndexedTable.find_modify_self]

end Store

end MediaBuys
end SalesAgent
