import SalesAgent.Lib.UnitOfWork
import SalesAgent.MediaBuy.Financial
import SalesAgent.MediaBuy.SyncCreatives

/-!
# The `update_media_buy` tool

The tool runs inside one unit of work.  Gates on the buy, its status and the
targeting come first; a tenant whose adapter asks for manual approval gets a
submitted task; the daily-spend check follows.  Then the request is applied: a
campaign-level pause or resume ends the call, otherwise the package entries are
taken in order, and the flight dates last.

Applying a request mixes three kinds of acts.  Checks and row writes belong to
the tool's own transaction.  Calls of the ad-server adapter and uploads of inline
creatives happen outside it: the tool reads its configuration through a nested
session before it applies anything, so adapters and the creative sync work in
sessions of their own.

**Definitions.**
* `Adapter`: what an ad-server adapter answers to an update call.
* `packageActs`, `datesActs`, `pauseActs`: the acts of a request, in source order.
* `updateMediaBuy`: the tool.
-/

namespace SalesAgent
namespace MediaBuys

open UnitOfWork

/-- An entry of `creative_assignments`. -/
structure AssignmentUpdate where
  creativeId : String
  weight : Option Decimal
  placementIds : Option (List String)
  deriving DecidableEq, Repr

/-- A package entry of an update request. -/
structure PackageUpdate where
  packageId : String
  paused : Option Bool := none
  budget : Option Decimal := none
  creativeIds : Option (List String) := none
  creatives : List CreativeUpload := []
  creativeAssignments : List AssignmentUpdate := []
  targetingOverlay : Option Targeting := none

/-- A start: at once, or at an instant. -/
inductive StartTiming
  | asap
  | at (t : DateTime)
  deriving DecidableEq, Repr

/-- A validated `update_media_buy` request. -/
structure UpdateRequest where
  mediaBuyId : String
  canceled : Bool := false
  paused : Option Bool := none
  startTime : Option StartTiming := none
  endTime : Option DateTime := none
  packages : List PackageUpdate := []

/-- The buyer actions the state machine of the protocol knows. -/
inductive BuyerAction
  | pause
  | resume
  | updateBudget
  | updateDates
  | updatePackages
  deriving DecidableEq, Repr

/-- The protocol library's state machine. -/
structure StateMachine where
  isTerminal : PersistedMediaBuyStatus → Bool
  validActions : PersistedMediaBuyStatus → List BuyerAction
  defines : PersistedMediaBuyStatus → Bool

/-- The actions of `AdServerAdapter.update_media_buy` the tool asks for. -/
inductive AdapterAction
  | pauseMediaBuy
  | resumeMediaBuy
  | pausePackage
  | resumePackage
  | updatePackageBudget
  deriving DecidableEq, Repr

/-- The arguments of `AdServerAdapter.update_media_buy`. -/
structure AdapterCall where
  mediaBuyId : String
  action : AdapterAction
  packageId : Option String
  budget : Option Int
  deriving DecidableEq, Repr

/-- An adapter returns, perhaps after storing the budget it was given, or raises,
perhaps after changing some items of the ad server. -/
inductive AdapterAnswer
  | returned (affectedPackages : List String) (storesBudget : Bool)
  | raised (err : BuyerError) (mutated : Bool)
  deriving DecidableEq, Repr

/-- An ad-server adapter, by its answers to the calls of a request: the `n`-th call that
leaves the tool is answered in light of whatever it reads then. -/
structure Adapter where
  manualApprovalRequired : Bool
  manualApprovalOperations : List String
  updateMediaBuy : Nat → AdapterCall → AdapterAnswer

/-- What left the tool's own transaction. -/
inductive OutsideCall
  | adapter (call : AdapterCall) (answer : AdapterAnswer)
  | upload (packageId : String) (creatives : List CreativeUpload)

/-- What the tool is given besides the request and the rows. -/
structure UpdateEnv where
  tenantId : String
  principalId : String
  /-- the clock at the checks and the uploads -/
  now : DateTime
  /-- the clock at the row writes -/
  later : DateTime
  stepId : String
  /-- what the gate on webhook URLs answers -/
  registrationGate : Option BuyerError
  states : StateMachine
  adapter : Adapter
  currencyLimit : String → Option CurrencyLimit
  product : String → Option Product
  collectTargetingViolations : Targeting → List String
  hasPropertyList : Targeting → Bool
  verdict : CreativeUpload → Option Creative → CreativeVerdict

/-- The caller and the parameters of the creative sync. -/
def UpdateEnv.sync
    (env : UpdateEnv) : SyncEnv where
  tenantId := env.tenantId
  principalId := env.principalId
  now := env.now
  verdict := env.verdict
  product := env.product

section Gates

variable (env : UpdateEnv) (req : UpdateRequest)

/-- The actions a request implies. -/
def requestedActions : List BuyerAction :=
  (if req.paused = some true then [.pause] else []) ++
    (if req.paused = some false then [.resume] else []) ++
    (if req.packages.any (fun p => p.budget.isSome) then [.updateBudget] else []) ++
    (if req.startTime.isSome || req.endTime.isSome then [.updateDates] else []) ++
    (if req.packages.isEmpty then [] else [.updatePackages])

/-- Ownership of the buy. -/
def verifyPrincipal
    (rows : BuyRows) : Option BuyerError :=
  match rows.getById env.tenantId req.mediaBuyId with
  | none => some ⟨.mediaBuyNotFound, none⟩
  | some b => if b.principalId ≠ env.principalId then some ⟨.permissionDenied, none⟩ else none

/-- Terminal statuses refuse every request, the others the actions not in their set. -/
def stateGate
    (b : MediaBuy) : Option BuyerError :=
  if env.states.isTerminal b.status then
    if req.canceled then some ⟨.notCancellable, some "media_buy_id"⟩
    else some ⟨.invalidState, some "media_buy_id"⟩
  else
    let allowed := env.states.validActions b.status
    if (! allowed.isEmpty || env.states.defines b.status) &&
        (requestedActions req).any (fun a => a ∉ allowed) then
      some ⟨.invalidState, some "media_buy_id"⟩
    else none

/-- The gates in front of the workflow step. -/
def preconditionGate
    (rows : BuyRows) : Option BuyerError :=
  env.registrationGate <|>
    (if req.mediaBuyId = "" then some ⟨.validationError, none⟩ else none) <|>
    verifyPrincipal env req rows <|>
    (rows.getById env.tenantId req.mediaBuyId).bind (stateGate env req)

/-- Whether an overlay breaks the property rule of the package's product. -/
def violatesPropertyTargeting
    (rows : BuyRows)
    (pkg : PackageUpdate) : Bool :=
  match pkg.targetingOverlay with
  | none => false
  | some overlay =>
      env.hasPropertyList overlay && pkg.packageId ≠ "" &&
        match rows.getPackage env.tenantId req.mediaBuyId pkg.packageId with
        | none => false
        | some package =>
            match package.config.productId.bind env.product with
            | none => false
            | some product => ! product.propertyTargetingAllowed

/-- The targeting rules shared with create. -/
def targetingGate
    (rows : BuyRows) : Option BuyerError :=
  if req.packages.any (fun p =>
      p.targetingOverlay.any (fun t => ! (env.collectTargetingViolations t).isEmpty)) then
    some ⟨.invalidRequest, some "targeting_overlay"⟩
  else if req.packages.any (violatesPropertyTargeting env req rows) then
    some ⟨.validationError, some "packages"⟩
  else none

/-- Whether the update waits for a human. -/
def needsManualApproval : Bool :=
  env.adapter.manualApprovalRequired &&
    "update_media_buy" ∈ env.adapter.manualApprovalOperations

/-- The currency a buy is denominated in. -/
def MediaBuy.requestCurrency
    (b : MediaBuy) : String :=
  match b.currency with
  | some c => if c = "" then "USD" else c
  | none => "USD"

/-- The start the daily check uses. -/
def checkedStart
    (b : MediaBuy) : DateTime :=
  match req.startTime with
  | some .asap => env.now
  | some (.at t) => t
  | none => b.startTime.getD env.now

/-- The end the daily check uses. -/
def checkedEnd
    (b : MediaBuy) : DateTime :=
  match req.endTime with
  | some t => t
  | none => b.endTime.getD (checkedStart env req b + dayLength)

/-- The daily-spend check runs when the flight or a budget changes, on the budgets
that the request carries. -/
def dailySpendGate
    (rows : BuyRows) : Option BuyerError :=
  if req.startTime.isSome || req.endTime.isSome ||
      req.packages.any (fun p => p.budget.any (fun x => x ≠ 0)) then
    match rows.getById env.tenantId req.mediaBuyId with
    | none => none
    | some b =>
        match env.currencyLimit b.requestCurrency with
        | none => some ⟨.unsupportedFeature, none⟩
        | some limit =>
            match CurrencyLimit.truthy limit.maxDailyPackageSpend with
            | none => none
            | some maxDaily =>
                let days := flightDays (checkedStart env req b) (checkedEnd env req b)
                if req.packages.any (fun p =>
                    p.budget.any (fun x => validateMaxDailyPackageSpend x days maxDaily)) then
                  some ⟨.budgetExceeded, none⟩
                else none
  else none

end Gates

section Acts

variable (env : UpdateEnv) (req : UpdateRequest)

/-- An act of the tool. -/
abbrev UpdateAct := Act BuyRows OutsideCall BuyerError

/-- A budget an adapter stores goes into the JSON of the package. -/
def AdapterAnswer.commit
    (answer : AdapterAnswer)
    (call : AdapterCall)
    (rows : BuyRows) : BuyRows :=
  match answer, call.packageId, call.budget with
  | .returned _ true, some packageId, some budget =>
      rows.modifyConfig call.mediaBuyId packageId
        (fun c => { c with budget := some (.number budget) })
  | _, _, _ => rows

/-- What the tool raises for an answer. -/
def AdapterAnswer.error : AdapterAnswer → Option BuyerError
  | .returned _ _ => none
  | .raised err _ => some err

/-- Call the adapter. -/
def adapterAct
    (action : AdapterAction)
    (packageId : Option String)
    (budget : Option Int) : UpdateAct :=
  .outside fun n rows =>
    let call : AdapterCall := ⟨req.mediaBuyId, action, packageId, budget⟩
    let answer := env.adapter.updateMediaBuy n call
    ⟨.adapter call answer, answer.commit call rows, answer.error⟩

/-- A package-level change names its package. -/
def packageIdError
    (index : Nat)
    (pkg : PackageUpdate) : Option BuyerError :=
  if pkg.packageId = "" then some ⟨.validationError, some (packageFieldPath "package_id" index)⟩
  else none

/-- `get_package_or_raise`. -/
def packageError
    (rows : BuyRows)
    (pkg : PackageUpdate) : Option BuyerError :=
  match rows.getPackage env.tenantId req.mediaBuyId pkg.packageId with
  | none => some ⟨.packageNotFound, none⟩
  | some _ => none

/-- `get_by_id_or_raise`. -/
def mediaBuyError
    (rows : BuyRows) : Option BuyerError :=
  match rows.getById env.tenantId req.mediaBuyId with
  | none => some ⟨.mediaBuyNotFound, none⟩
  | some _ => none

/-- The positivity and minimum rules of a package budget. -/
def budgetError
    (index : Nat)
    (budget : Decimal)
    (rows : BuyRows) : Option BuyerError :=
  let currency := (rows.getById env.tenantId req.mediaBuyId).elim "USD" MediaBuy.requestCurrency
  let minimum := (env.currencyLimit currency).bind
    (fun limit => CurrencyLimit.truthy limit.minPackageBudget)
  if validateBudgetPositive budget then
    some ⟨.budgetTooLow, some (packageFieldPath "budget" index)⟩
  else if minimum.any (validateMinPackageBudget budget) then
    some ⟨.budgetTooLow, none⟩
  else none

/-- Existence, status and format of the creatives assigned to a package. -/
def validateCreativesForAssignment
    (rows : BuyRows)
    (pkg : PackageUpdate)
    (creativeIds : List String)
    (field : String) : Option BuyerError :=
  let found := creativeIds.filterMap
    (fun c => rows.creatives.find (env.sync.creativeKey c))
  let product :=
    ((rows.getPackage env.tenantId req.mediaBuyId pkg.packageId).bind (·.config.productId)).bind
      env.product
  if creativeIds.any (fun c => (rows.creatives.find (env.sync.creativeKey c)).isNone) then
    some ⟨.creativeNotFound, some field⟩
  else if found.any (fun c => c.status = .error ∨ c.status = .rejected) then
    some ⟨.invalidState, none⟩
  else if found.any (fun c => ! Product.accepts product c.format) then
    some ⟨.validationError, none⟩
  else none

/-- Placements must be ones the product of the package defines. -/
def placementError
    (rows : BuyRows)
    (pkg : PackageUpdate) : Option BuyerError :=
  let requested := pkg.creativeAssignments.flatMap (fun ca => ca.placementIds.getD [])
  if requested.isEmpty then none
  else match rows.getPackage env.tenantId req.mediaBuyId pkg.packageId with
    | none => some ⟨.packageNotFound, none⟩
    | some package =>
        match package.config.productId.bind env.product with
        | none => none
        | some product =>
            if product.placements.isEmpty then some ⟨.unsupportedFeature, none⟩
            else if requested.any (fun p => some p ∉ product.placements) then
              some ⟨.validationError, some "creative_assignments[].placement_ids"⟩
            else none

/-- The unique index on assignments does not look at the principal. -/
def assignmentConflict
    (rows : BuyRows)
    (pkg : PackageUpdate) : Option BuyerError :=
  if pkg.creativeAssignments.any (fun ca =>
      (rows.assignments.find
        (env.tenantId, ca.creativeId, req.mediaBuyId, pkg.packageId)).any
          (fun a => a.principalId ≠ env.principalId)) then
    some ⟨.internalError, none⟩
  else none

/-- The key of a creative's assignment to the package. -/
def assignmentKey
    (pkg : PackageUpdate)
    (creativeId : String) : String × String × String × String :=
  (env.tenantId, creativeId, req.mediaBuyId, pkg.packageId)

/-- Delete the assignments of the package that were seen and are not requested. -/
def dropAssignments
    (pkg : PackageUpdate)
    (requested : List String)
    (seen rows : BuyRows) : BuyRows :=
  let dropped := (seen.assignmentsOf env.tenantId req.mediaBuyId pkg.packageId).filterMap
    (fun a => if a.creativeId ∈ requested then none else a.uniqueKey)
  { rows with
    assignments := rows.assignments.deleteWhere (fun a => a.uniqueKey.any (· ∈ dropped)) }

/-- The row of one requested creative: the one seen under new terms, or a new one. -/
def assignmentRow
    (pkg : PackageUpdate)
    (seen : BuyRows)
    (ca : AssignmentUpdate) : CreativeAssignment :=
  match seen.assignments.find (assignmentKey env req pkg ca.creativeId) with
  | some existing =>
      { existing with
        weight := (ca.weight.map Decimal.truncate).getD existing.weight
        placementIds := ca.placementIds <|> existing.placementIds }
  | none =>
      { tenantId := env.tenantId
        principalId := env.principalId
        mediaBuyId := req.mediaBuyId
        packageId := pkg.packageId
        creativeId := ca.creativeId
        weight := (ca.weight.map Decimal.truncate).getD 100
        placementIds := ca.placementIds }

/-- Write the assignment of one creative, unless it was seen as it should be; the
rows seen follow the unit's own writes. -/
def putAssignment
    (pkg : PackageUpdate)
    (state : BuyRows × BuyRows)
    (ca : AssignmentUpdate) : BuyRows × BuyRows :=
  let row := assignmentRow env req pkg state.1 ca
  if state.1.assignments.find (assignmentKey env req pkg ca.creativeId) = some row then state
  else
    ({ state.1 with assignments := state.1.assignments.put row },
      { state.2 with assignments := state.2.assignments.put row })

/-- The assignments of the package become the requested ones. -/
def writeAssignments
    (pkg : PackageUpdate)
    (requested : List AssignmentUpdate)
    (seen rows : BuyRows) : BuyRows :=
  (requested.foldl (putAssignment env req pkg)
    (seen, dropAssignments env req pkg (requested.map (·.creativeId)) seen rows)).2

/-- Write the assignments; an approved draft then waits for its creatives. -/
def replaceAssignments
    (pkg : PackageUpdate)
    (requested : List AssignmentUpdate)
    (seen rows : BuyRows) : BuyRows :=
  let written := writeAssignments env req pkg requested seen rows
  if requested.isEmpty then written
  else markPendingCreatives env.tenantId req.mediaBuyId env.later seen written

/-- The JSON of the package is written whole, as it was seen but for the overlay. -/
def writeTargeting
    (packageId : String)
    (overlay : Targeting)
    (seen rows : BuyRows) : BuyRows :=
  match seen.packages.find (req.mediaBuyId, packageId) with
  | none => rows
  | some package =>
      rows.modifyConfig req.mediaBuyId packageId
        (fun _ => { package.config with targetingOverlay := some overlay })

/-- The pause or resume of a package. -/
def pausedActs
    (pkg : PackageUpdate) : List UpdateAct :=
  match pkg.paused with
  | none => []
  | some paused =>
      [adapterAct env req (if paused then .pausePackage else .resumePackage)
        (some pkg.packageId) none]

/-- The budget of a package: its rules, then the adapter. -/
def budgetActs
    (index : Nat)
    (pkg : PackageUpdate) : List UpdateAct :=
  match pkg.budget with
  | none => []
  | some budget =>
      [.check (fun rows =>
          packageIdError index pkg <|> budgetError env req index budget rows <|>
            packageError env req rows pkg),
        adapterAct env req .updatePackageBudget (some pkg.packageId) (some budget.truncate)]

/-- The creatives of a package, by id. -/
def creativeIdsActs
    (index : Nat)
    (pkg : PackageUpdate) : List UpdateAct :=
  match pkg.creativeIds with
  | none => []
  | some creativeIds =>
      [.inside (fun rows =>
          packageIdError index pkg <|> mediaBuyError env req rows <|>
            validateCreativesForAssignment env req rows pkg creativeIds
              (packageFieldPath "creative_ids" index))
        (replaceAssignments env req pkg (creativeIds.map (fun c => ⟨c, none, none⟩)))]

/-- Upload the inline creatives of a package. -/
def uploadAct
    (pkg : PackageUpdate) : UpdateAct :=
  .outside fun _ rows =>
    let result := syncCreatives env.sync pkg.creatives pkg.packageId rows
    ⟨.upload pkg.packageId pkg.creatives, result.rows,
      result.raised <|> if result.failed.isEmpty then none else some ⟨.serviceUnavailable, none⟩⟩

/-- The inline creatives of a package. -/
def creativesActs
    (index : Nat)
    (pkg : PackageUpdate) : List UpdateAct :=
  if pkg.creatives.isEmpty then []
  else [.check (fun _ => packageIdError index pkg), uploadAct env pkg]

/-- The creatives of a package, with weights and placements. -/
def creativeAssignmentsActs
    (index : Nat)
    (pkg : PackageUpdate) : List UpdateAct :=
  if pkg.creativeAssignments.isEmpty then []
  else
    [.inside (fun rows =>
        packageIdError index pkg <|> mediaBuyError env req rows <|>
          validateCreativesForAssignment env req rows pkg
            (pkg.creativeAssignments.map (·.creativeId))
            (packageFieldPath "creative_assignments" index) <|>
          placementError env req rows pkg <|> assignmentConflict env req rows pkg)
      (replaceAssignments env req pkg pkg.creativeAssignments)]

/-- The targeting of a package goes to its row alone. -/
def targetingActs
    (index : Nat)
    (pkg : PackageUpdate) : List UpdateAct :=
  match pkg.targetingOverlay with
  | none => []
  | some overlay =>
      [.inside (fun rows => packageIdError index pkg <|> packageError env req rows pkg)
        (writeTargeting req pkg.packageId overlay)]

/-- A package entry's pause, budget, creatives and targeting, in this order. -/
def packageActs
    (index : Nat)
    (pkg : PackageUpdate) : List UpdateAct :=
  pausedActs env req pkg ++ budgetActs env req index pkg ++ creativeIdsActs env req index pkg ++
    creativesActs env index pkg ++ creativeAssignmentsActs env req index pkg ++
    targetingActs env req index pkg

/-- `update_fields` on the buy. -/
def updateBuyFields
    (updates : MediaBuy.FieldUpdates)
    (_seen rows : BuyRows) : BuyRows :=
  rows.modifyBuy env.tenantId req.mediaBuyId (.updateFields updates env.later)

/-- The instant a requested start is written as. -/
def StartTiming.resolve
    (later : DateTime) : StartTiming → DateTime
  | .asap => later
  | .at t => t

/-- The flight columns a request carries. -/
def requestedDates : MediaBuy.FieldUpdates where
  startTime := req.startTime.map (StartTiming.resolve env.later)
  endTime := req.endTime

/-- The flight must end after it starts, whichever of the two is requested. -/
def datesError
    (rows : BuyRows) : Option BuyerError :=
  match rows.getById env.tenantId req.mediaBuyId with
  | none => some ⟨.mediaBuyNotFound, none⟩
  | some b =>
      match (requestedDates env req).startTime <|> b.startTime,
          (requestedDates env req).endTime <|> b.endTime with
      | some s, some e => if e ≤ s then some ⟨.validationError, some "end_time"⟩ else none
      | _, _ => none

/-- The flight dates go to the row alone. -/
def datesActs : List UpdateAct :=
  if req.startTime.isSome || req.endTime.isSome then
    [.inside (datesError env req) (updateBuyFields env req (requestedDates env req))]
  else []

/-- A campaign-level pause or resume. -/
def pauseActs
    (paused : Bool) : List UpdateAct :=
  [adapterAct env req (if paused then .pauseMediaBuy else .resumeMediaBuy) none none,
    .inside (fun _ => none) (updateBuyFields env req { isPaused := some paused })]

/-- The read of the row the response is built from. -/
def responseAct : UpdateAct :=
  .check (mediaBuyError env req)

/-- The acts of a request; a campaign-level pause ends it. -/
def applyActs : List UpdateAct :=
  match req.paused with
  | some paused => pauseActs env req paused ++ [responseAct env req]
  | none =>
      (req.packages.zipIdx.flatMap (fun (pkg, index) => packageActs env req index pkg)) ++
        datesActs env req ++ [responseAct env req]

/-- The adapter calls a request asks for. -/
inductive Asks : AdapterAction → Option String → Option Int → Prop
  | mediaBuy {paused : Bool} (hpaused : req.paused = some paused) :
      Asks (if paused then .pauseMediaBuy else .resumeMediaBuy) none none
  | paused {pkg : PackageUpdate} {paused : Bool} (hnone : req.paused = none)
      (hpkg : pkg ∈ req.packages) (hpaused : pkg.paused = some paused) :
      Asks (if paused then .pausePackage else .resumePackage) (some pkg.packageId) none
  | budget {pkg : PackageUpdate} {budget : Decimal} (hnone : req.paused = none)
      (hpkg : pkg ∈ req.packages) (hbudget : pkg.budget = some budget) :
      Asks .updatePackageBudget (some pkg.packageId) (some budget.truncate)

/-- The writes of a package entry. -/
inductive PackageWrites (pkg : PackageUpdate) : (BuyRows → BuyRows → BuyRows) → Prop
  | none : PackageWrites pkg (fun _ => id)
  | assignments (requested : List AssignmentUpdate) :
      PackageWrites pkg (replaceAssignments env req pkg requested)
  | targeting {overlay : Targeting} (hoverlay : pkg.targetingOverlay = some overlay) :
      PackageWrites pkg (writeTargeting req pkg.packageId overlay)

/-- The writes of a request in the tool's own transaction. -/
inductive Writes : (BuyRows → BuyRows → BuyRows) → Prop
  | none : Writes (fun _ => id)
  | assignments (pkg : PackageUpdate) (requested : List AssignmentUpdate) :
      Writes (replaceAssignments env req pkg requested)
  | targeting {pkg : PackageUpdate} {overlay : Targeting} (hpkg : pkg ∈ req.packages)
      (hoverlay : pkg.targetingOverlay = some overlay) :
      Writes (writeTargeting req pkg.packageId overlay)
  | fields (updates : MediaBuy.FieldUpdates) : Writes (updateBuyFields env req updates)

variable {env req}

theorem assignmentRow_uniqueKey
    (pkg : PackageUpdate)
    (seen : BuyRows)
    (ca : AssignmentUpdate) :
    (assignmentRow env req pkg seen ca).uniqueKey =
      some (assignmentKey env req pkg ca.creativeId) := by
  unfold assignmentRow
  cases hfound : seen.assignments.find (assignmentKey env req pkg ca.creativeId) with
  | none => rfl
  | some existing => exact ((IndexedTable.find_eq_some_iff _).mp hfound).2

theorem foldl_putAssignment_keeps
    {Inv : BuyRows → Prop}
    {pkg : PackageUpdate}
    (hput : ∀ (rows : BuyRows) (row : CreativeAssignment) (creativeId : String),
      row.uniqueKey = some (assignmentKey env req pkg creativeId) → Inv rows →
      Inv { rows with assignments := rows.assignments.put row })
    (requested : List AssignmentUpdate)
    {state : BuyRows × BuyRows}
    (hstate : Inv state.2) :
    Inv (requested.foldl (putAssignment env req pkg) state).2 := by
  induction requested generalizing state with
  | nil => exact hstate
  | cons ca cas ih =>
      rw [List.foldl_cons]
      refine ih ?_
      unfold putAssignment
      simp only
      split
      · exact hstate
      · exact hput state.2 _ ca.creativeId (assignmentRow_uniqueKey pkg state.1 ca) hstate

/-- Writing assignments changes nothing else. -/
theorem writeAssignments_eq
    (pkg : PackageUpdate)
    (requested : List AssignmentUpdate)
    (seen rows : BuyRows) :
    ∃ assignments, writeAssignments env req pkg requested seen rows =
      { rows with assignments := assignments } := by
  have hput : ∀ (r : BuyRows) (row : CreativeAssignment) (c : String),
      row.uniqueKey = some (assignmentKey env req pkg c) →
      (∃ assignments, r = { rows with assignments := assignments }) →
      ∃ assignments, ({ r with assignments := r.assignments.put row } : BuyRows) =
        { rows with assignments := assignments } := by
    rintro r row c - ⟨assignments, rfl⟩
    exact ⟨_, rfl⟩
  exact foldl_putAssignment_keeps hput requested ⟨_, rfl⟩

theorem writeAssignments_packages
    (pkg : PackageUpdate)
    (requested : List AssignmentUpdate)
    (seen rows : BuyRows) :
    (writeAssignments env req pkg requested seen rows).packages = rows.packages := by
  obtain ⟨assignments, h⟩ := @writeAssignments_eq env req pkg requested seen rows
  rw [h]

theorem writeAssignments_mediaBuys
    (pkg : PackageUpdate)
    (requested : List AssignmentUpdate)
    (seen rows : BuyRows) :
    (writeAssignments env req pkg requested seen rows).mediaBuys = rows.mediaBuys := by
  obtain ⟨assignments, h⟩ := @writeAssignments_eq env req pkg requested seen rows
  rw [h]

theorem replaceAssignments_packages
    (pkg : PackageUpdate)
    (requested : List AssignmentUpdate)
    (seen rows : BuyRows) :
    (replaceAssignments env req pkg requested seen rows).packages = rows.packages := by
  have hwritten : (writeAssignments env req pkg requested seen rows).packages = rows.packages :=
    writeAssignments_packages pkg requested seen rows
  unfold replaceAssignments markPendingCreatives
  simp only
  split
  · exact hwritten
  · split
    · exact hwritten
    · exact hwritten

theorem mem_applyActs_of_mem_packageActs
    {act : UpdateAct} {index : Nat} {pkg : PackageUpdate}
    (hnone : req.paused = none)
    (hpkg : req.packages[index]? = some pkg)
    (hact : act ∈ packageActs env req index pkg) :
    act ∈ applyActs env req := by
  unfold applyActs
  rw [hnone]
  simp only [List.append_assoc]
  refine List.mem_append_left _ (List.mem_flatMap.mpr ⟨(pkg, index), ?_, hact⟩)
  exact List.mk_mem_zipIdx_iff_getElem?.mpr hpkg

theorem mem_applyActs
    {act : UpdateAct}
    (h : act ∈ applyActs env req) :
    (∃ paused, req.paused = some paused ∧ act ∈ pauseActs env req paused) ∨
      (req.paused = none ∧ ∃ index pkg, pkg ∈ req.packages ∧
        act ∈ packageActs env req index pkg) ∨
      (req.paused = none ∧ act ∈ datesActs env req) ∨ act = responseAct env req := by
  unfold applyActs at h
  cases hpaused : req.paused with
  | some paused =>
      rw [hpaused] at h
      rcases List.mem_append.mp h with hpause | hresponse
      · exact .inl ⟨paused, rfl, hpause⟩
      · exact .inr (.inr (.inr (List.mem_singleton.mp hresponse)))
  | none =>
      rw [hpaused] at h
      simp only [List.append_assoc] at h
      rcases List.mem_append.mp h with hpackages | hrest
      · obtain ⟨⟨pkg, index⟩, hpkg, hact⟩ := List.mem_flatMap.mp hpackages
        exact .inr (.inl ⟨rfl, index, pkg, List.fst_mem_of_mem_zipIdx hpkg, hact⟩)
      · rcases List.mem_append.mp hrest with hdates | hresponse
        · exact .inr (.inr (.inl ⟨rfl, hdates⟩))
        · exact .inr (.inr (.inr (List.mem_singleton.mp hresponse)))

theorem mem_packageActs
    {act : UpdateAct} {index : Nat} {pkg : PackageUpdate} :
    act ∈ packageActs env req index pkg ↔
      act ∈ pausedActs env req pkg ∨ act ∈ budgetActs env req index pkg ∨
        act ∈ creativeIdsActs env req index pkg ∨ act ∈ creativesActs env index pkg ∨
        act ∈ creativeAssignmentsActs env req index pkg ∨ act ∈ targetingActs env req index pkg := by
  simp only [packageActs, List.mem_append, or_assoc]

theorem adapterAct_mem_applyActs
    {action : AdapterAction} {packageId : Option String} {budget : Option Int}
    (h : Asks req action packageId budget) :
    adapterAct env req action packageId budget ∈ applyActs env req := by
  cases h with
  | mediaBuy hpaused => simp [applyActs, hpaused, pauseActs]
  | @paused pkg paused hnone hpkg hpaused =>
      obtain ⟨index, hindex⟩ := List.mem_iff_getElem?.mp hpkg
      refine mem_applyActs_of_mem_packageActs hnone hindex (mem_packageActs.mpr (.inl ?_))
      simp [pausedActs, hpaused]
  | @budget pkg budget hnone hpkg hbudget =>
      obtain ⟨index, hindex⟩ := List.mem_iff_getElem?.mp hpkg
      refine mem_applyActs_of_mem_packageActs hnone hindex (mem_packageActs.mpr (.inr (.inl ?_)))
      simp [budgetActs, hbudget]

theorem outside_mem_applyActs
    {call : Nat → BuyRows → Answer BuyRows OutsideCall BuyerError}
    (h : Act.outside call ∈ applyActs env req) :
    (∃ action packageId budget, Asks req action packageId budget ∧
        Act.outside call = adapterAct env req action packageId budget) ∨
      ∃ pkg ∈ req.packages, pkg.creatives ≠ [] ∧ Act.outside call = uploadAct env pkg := by
  rcases mem_applyActs h with ⟨paused, hpaused, hact⟩ | ⟨hnone, index, pkg, hpkg, hact⟩ |
    ⟨-, hact⟩ | hact
  · simp only [pauseActs, List.mem_cons, reduceCtorEq, List.not_mem_nil, or_false] at hact
    exact .inl ⟨_, _, _, .mediaBuy hpaused, hact⟩
  · rcases mem_packageActs.mp hact with hact | hact | hact | hact | hact | hact
    · unfold pausedActs at hact
      split at hact
      · cases hact
      · next paused hpaused =>
          exact .inl ⟨_, _, _, .paused hnone hpkg hpaused, List.mem_singleton.mp hact⟩
    · unfold budgetActs at hact
      split at hact
      · cases hact
      · next budget hbudget =>
          simp only [Act.check, List.mem_cons, reduceCtorEq, List.not_mem_nil, or_false,
            false_or] at hact
          exact .inl ⟨_, _, _, .budget hnone hpkg hbudget, hact⟩
    · unfold creativeIdsActs at hact
      split at hact <;> simp at hact
    · unfold creativesActs at hact
      split at hact
      · cases hact
      · next hcreatives =>
          simp only [Act.check, List.mem_cons, reduceCtorEq, List.not_mem_nil, or_false,
            false_or] at hact
          exact .inr ⟨pkg, hpkg, by simpa using hcreatives, hact⟩
    · unfold creativeAssignmentsActs at hact
      split at hact <;> simp at hact
    · unfold targetingActs at hact
      split at hact <;> simp at hact
  · unfold datesActs at hact
    split at hact <;> simp at hact
  · cases hact

theorem inside_mem_packageActs
    {refuses : BuyRows → Option BuyerError} {write : BuyRows → BuyRows → BuyRows}
    {index : Nat} {pkg : PackageUpdate}
    (h : Act.inside refuses write ∈ packageActs env req index pkg) :
    PackageWrites env req pkg write := by
  rcases mem_packageActs.mp h with hact | hact | hact | hact | hact | hact
  · unfold pausedActs at hact
    split at hact <;> simp [adapterAct] at hact
  · unfold budgetActs at hact
    split at hact
    · cases hact
    · simp only [Act.check, adapterAct, List.mem_cons, reduceCtorEq, Act.inside.injEq,
        List.not_mem_nil, or_false] at hact
      rw [hact.2]
      exact .none
  · unfold creativeIdsActs at hact
    split at hact
    · cases hact
    · simp only [List.mem_cons, Act.inside.injEq, List.not_mem_nil, or_false] at hact
      rw [hact.2]
      exact .assignments _
  · unfold creativesActs at hact
    split at hact
    · cases hact
    · simp only [Act.check, uploadAct, List.mem_cons, reduceCtorEq, Act.inside.injEq,
        List.not_mem_nil, or_false] at hact
      rw [hact.2]
      exact .none
  · unfold creativeAssignmentsActs at hact
    split at hact
    · cases hact
    · simp only [List.mem_cons, Act.inside.injEq, List.not_mem_nil, or_false] at hact
      rw [hact.2]
      exact .assignments _
  · unfold targetingActs at hact
    split at hact
    · cases hact
    · next overlay hoverlay =>
        simp only [List.mem_cons, Act.inside.injEq, List.not_mem_nil, or_false] at hact
        rw [hact.2]
        exact .targeting hoverlay

theorem inside_mem_applyActs
    {refuses : BuyRows → Option BuyerError} {write : BuyRows → BuyRows → BuyRows}
    (h : Act.inside refuses write ∈ applyActs env req) :
    Writes env req write := by
  rcases mem_applyActs h with ⟨paused, -, hact⟩ | ⟨-, index, pkg, hpkg, hact⟩ | ⟨-, hact⟩ | hact
  · simp only [pauseActs, adapterAct, List.mem_cons, reduceCtorEq, Act.inside.injEq,
      List.not_mem_nil, or_false, false_or] at hact
    rw [hact.2]
    exact .fields _
  · cases inside_mem_packageActs hact with
    | none => exact .none
    | assignments requested => exact .assignments pkg requested
    | targeting hoverlay => exact .targeting hpkg hoverlay
  · unfold datesActs at hact
    split at hact
    · simp only [List.mem_cons, Act.inside.injEq, List.not_mem_nil, or_false] at hact
      rw [hact.2]
      exact .fields _
    · cases hact
  · simp only [responseAct, Act.check, Act.inside.injEq] at hact
    rw [hact.2]
    exact .none

theorem call_keeps_buy
    {P : MediaBuy → Prop}
    (hkeep : ∀ b, P b → P (b.updateStatus .pendingCreatives env.now))
    {call : Nat → BuyRows → Answer BuyRows OutsideCall BuyerError}
    (hcall : Act.outside call ∈ applyActs env req)
    (n : Nat)
    {rows : BuyRows} {tenantId mediaBuyId : String}
    (hrows : rows.HasBuy tenantId mediaBuyId P) :
    (call n rows).rows.HasBuy tenantId mediaBuyId P := by
  rcases outside_mem_applyActs hcall with ⟨action, packageId, budget, -, hact⟩ |
    ⟨pkg, -, -, hact⟩
  · cases hact
    simp only [AdapterAnswer.commit]
    split
    · exact hrows
    · exact hrows
  · cases hact
    have hkept : KeptByUpload env.sync (fun r => r.HasBuy tenantId mediaBuyId P) := by
      exact ⟨fun _ _ _ hr => hr, fun _ _ hr => hr, fun r t m hr => hr.modifyBuy hkeep⟩
    exact syncCreatives_keeps hkept _ _ hrows

theorem hasBuy_afterCalls
    {P : MediaBuy → Prop}
    (hkeep : ∀ b, P b → P (b.updateStatus .pendingCreatives env.now))
    {rows : BuyRows} {tenantId mediaBuyId : String}
    (hrows : rows.HasBuy tenantId mediaBuyId P) :
    (afterCalls (applyActs env req) rows).HasBuy tenantId mediaBuyId P := by
  have hcalls : ∀ call, Act.outside call ∈ applyActs env req → ∀ n (r : BuyRows),
      r.HasBuy tenantId mediaBuyId P → (call n r).rows.HasBuy tenantId mediaBuyId P := by
    intro call hcall n r hr
    exact call_keeps_buy hkeep hcall n hr
  exact afterCalls_keeps hcalls hrows

end Acts

/-- What the buyer is told. -/
inductive UpdateReply
  | failed (err : BuyerError)
  | submitted (taskId : String)
  | completed (revision : Nat) (affectedPackages : List String)
  deriving DecidableEq, Repr

/-- The store after a call, what left the transaction, and the reply. -/
structure UpdateOutcome where
  store : Store
  calls : List OutsideCall
  reply : UpdateReply

section Tool

variable (env : UpdateEnv) (req : UpdateRequest)

/-- One affected package for each change the entries of the request carry. -/
def affectedByEntries : List String :=
  req.packages.flatMap (fun p =>
    (if p.budget.isSome then [p.packageId] else []) ++
      (if p.creativeIds.isSome then [p.packageId] else []) ++
      (if p.creatives.isEmpty then [] else [p.packageId]) ++
      (if p.creativeAssignments.isEmpty then [] else [p.packageId]) ++
      (if p.targetingOverlay.isSome then [p.packageId] else []))

/-- The packages the adapter named when the whole buy was paused or resumed. -/
def affectedByAdapter : List OutsideCall → List String
  | .adapter _ (.returned affected _) :: _ => affected
  | _ => []

/-- The workflow step of the call. -/
def updateStep : WorkflowStep where
  stepId := env.stepId
  tenantId := env.tenantId
  principalId := env.principalId
  toolName := "update_media_buy"
  status := .inProgress

/-- The mapping of the call's step to the buy. -/
def updateMapping : ObjectWorkflowMapping where
  stepId := env.stepId
  objectType := "media_buy"
  objectId := req.mediaBuyId
  action := "update"

/-- `_update_media_buy_impl`. -/
def updateMediaBuy
    (store : Store) : UpdateOutcome :=
  match preconditionGate env req store.toBuyRows with
  | some err => ⟨store, [], .failed err⟩
  | none =>
      let started := store.createWorkflowStep (updateStep env)
      match targetingGate env req store.toBuyRows with
      | some err => ⟨started.updateWorkflowStep env.stepId .failed, [], .failed err⟩
      | none =>
          if needsManualApproval env then
            ⟨(started.updateWorkflowStep env.stepId .requiresApproval).linkWorkflowToObject
                (updateMapping env req), [], .submitted env.stepId⟩
          else match dailySpendGate env req store.toBuyRows with
            | some err => ⟨started.updateWorkflowStep env.stepId .failed, [], .failed err⟩
            | none =>
                let outcome := block (applyActs env req) store.toBuyRows
                match outcome.raised with
                | some err =>
                    ⟨{ started.updateWorkflowStep env.stepId .failed with
                        toBuyRows := outcome.rows }, outcome.log, .failed err⟩
                | none =>
                    let finished : Store :=
                      { started.updateWorkflowStep env.stepId .completed with
                        toBuyRows := outcome.rows }
                    let revision :=
                      (outcome.rows.getById env.tenantId req.mediaBuyId).elim 0 (·.revision)
                    match req.paused with
                    | some _ =>
                        ⟨finished, outcome.log,
                          .completed revision (affectedByAdapter outcome.log)⟩
                    | none =>
                        ⟨finished.linkWorkflowToObject (updateMapping env req), outcome.log,
                          .completed revision (affectedByEntries req)⟩

end Tool

section Inversion

variable {env : UpdateEnv} {req : UpdateRequest} {store : Store}

/-- Whether a gate ends the call before anything is applied. -/
def EndsAtGate
    (env : UpdateEnv)
    (req : UpdateRequest)
    (rows : BuyRows) : Prop :=
  preconditionGate env req rows ≠ none ∨ targetingGate env req rows ≠ none ∨
    needsManualApproval env = true ∨ dailySpendGate env req rows ≠ none

theorem updateMediaBuy_of_endsAtGate
    (h : EndsAtGate env req store.toBuyRows) :
    (updateMediaBuy env req store).calls = [] ∧
      (updateMediaBuy env req store).store.toBuyRows = store.toBuyRows ∧
      ∀ revision affected,
        (updateMediaBuy env req store).reply ≠ .completed revision affected := by
  unfold updateMediaBuy
  split
  · simp
  · next hpre =>
      split
      · simp
      · next htargeting =>
          split
          · simp
          · next hmanual =>
              split
              · simp
              · next hdaily =>
                  rcases h with h | h | h | h
                  · exact absurd hpre h
                  · exact absurd htargeting h
                  · exact absurd h hmanual
                  · exact absurd hdaily h

theorem hasBuy_of_not_endsAtGate
    {rows : BuyRows}
    (h : ¬ EndsAtGate env req rows) :
    rows.HasBuy env.tenantId req.mediaBuyId (fun b => b.principalId = env.principalId) := by
  simp only [EndsAtGate, not_or, not_not] at h
  have hpre := h.1
  simp only [preconditionGate, Option.orElse_eq_orElse, Option.orElse_eq_or,
    Option.or_eq_none_iff] at hpre
  have hverified := hpre.2.2.1
  unfold verifyPrincipal at hverified
  cases hfound : rows.getById env.tenantId req.mediaBuyId with
  | none =>
      rw [hfound] at hverified
      cases hverified
  | some b =>
      rw [hfound] at hverified
      refine ⟨b, hfound, ?_⟩
      by_contra hne
      simp [hne] at hverified

theorem updateMediaBuy_of_not_endsAtGate
    (h : ¬ EndsAtGate env req store.toBuyRows) :
    (updateMediaBuy env req store).calls =
        (block (applyActs env req) store.toBuyRows).log ∧
      (updateMediaBuy env req store).store.toBuyRows =
        (block (applyActs env req) store.toBuyRows).rows ∧
      ∀ err, (updateMediaBuy env req store).reply = .failed err ↔
        (block (applyActs env req) store.toBuyRows).raised = some err := by
  simp only [EndsAtGate, not_or, not_not] at h
  obtain ⟨hpre, htargeting, hmanual, hdaily⟩ := h
  unfold updateMediaBuy
  simp only [hpre, htargeting, hmanual, hdaily, Bool.false_eq_true, if_false]
  cases hraised : (block (applyActs env req) store.toBuyRows).raised with
  | some err => simp
  | none =>
      cases req.paused with
      | some paused => simp
      | none => simp

theorem updateMediaBuy_completed
    {revision : Nat} {affected : List String}
    (h : (updateMediaBuy env req store).reply = .completed revision affected) :
    ¬ EndsAtGate env req store.toBuyRows ∧
      (block (applyActs env req) store.toBuyRows).raised = none := by
  have hgate : ¬ EndsAtGate env req store.toBuyRows := by
    intro hends
    exact (updateMediaBuy_of_endsAtGate hends).2.2 revision affected h
  refine ⟨hgate, ?_⟩
  by_contra hraised
  obtain ⟨err, herr⟩ := Option.ne_none_iff_exists'.mp hraised
  have hfailed := ((updateMediaBuy_of_not_endsAtGate hgate).2.2 err).mpr herr
  rw [h] at hfailed
  cases hfailed

end Inversion

section Samples

/-- The mock ad server: it names no package and stores a new budget of a known package. -/
def mockAdapter : Adapter where
  manualApprovalRequired := false
  manualApprovalOperations := []
  updateMediaBuy := fun _ _ => .returned [] true

/-- An active buy that flies for ten days. -/
def sampleRow : MediaBuy where
  mediaBuyId := "mb_1"
  tenantId := "tenant"
  principalId := "principal"
  accountId := none
  idempotencyKey := none
  currency := some "USD"
  startDate := 0
  endDate := 10
  startTime := some 0
  endTime := some 864000000000
  status := .active
  isPaused := false
  revision := 3
  confirmedAt := some 0
  approvedAt := none
  approvedBy := none
  createdAt := 0

/-- Its package, of 900 dollars. -/
def samplePackage : MediaPackage where
  mediaBuyId := "mb_1"
  packageId := "pkg_1"
  budget := some 900
  config :=
    { productId := some "prod_1"
      budget := some (.object 900 "USD")
      targetingOverlay := none
      paused := some false }

/-- The rows of the one buy. -/
def sampleStore : Store where
  mediaBuys := IndexedTable.empty.put sampleRow
  packages := IndexedTable.empty.put samplePackage
  creatives := .empty
  assignments := .empty
  packagesOwned := by
    intro p hp
    rcases (IndexedTable.mem_put _).mp hp with rfl | ⟨hold, -⟩
    · rfl
    · exact absurd hold (IndexedTable.not_mem_empty p)
  steps := .empty
  mappings := []

/-- A ceiling of 100 a day. -/
def sampleLimit : CurrencyLimit where
  minPackageBudget := none
  maxDailyPackageSpend := some 100
  maxDaily_isCents := by
    intro m hm
    cases hm
    exact ⟨10000, by norm_num⟩

/-- A tenant with that ceiling in every currency; every status allows every action. -/
def sampleUpdateEnv : UpdateEnv where
  tenantId := "tenant"
  principalId := "principal"
  now := 1000000
  later := 2000000
  stepId := "step_1"
  registrationGate := none
  states :=
    { isTerminal := fun status => status = .completed
      validActions := fun _ => [.pause, .resume, .updateBudget, .updateDates, .updatePackages]
      defines := fun _ => true }
  adapter := mockAdapter
  currencyLimit := fun _ => some sampleLimit
  product := fun _ => none
  collectTargetingViolations := fun _ => []
  hasPropertyList := fun _ => false
  verdict := fun _ _ => .accepted .approved none

end Samples

end MediaBuys
end SalesAgent
