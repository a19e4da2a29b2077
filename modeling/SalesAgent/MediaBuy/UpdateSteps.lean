import SalesAgent.MediaBuy.Update

/-!
# The steps of an update, and when each of them passes

A request fixes which checks, calls and writes the tool goes through.  Whether a
step passes is told here from the request, the rows stored before the call, the
adapter's answers and the verdicts on uploaded creatives: an earlier step matters
only where an upload stored a creative that a later step looks up, or an entry of
the same package dropped an assignment.

**Definitions.**
* `updateSteps`: the steps of a request, in source order.
* `UpdateStep.Passes`: a step passes, after the steps ahead of it.
* `UpdateStep.Quiet`: a first call raises and changes nothing.

**Results.**
* `map_updateSteps`: the steps are the acts of the tool.
-/

namespace SalesAgent
namespace MediaBuys

open UnitOfWork

/-- A step of an update. -/
inductive UpdateStep
  | adapter (action : AdapterAction) (packageId : Option String) (amount : Option Int)
  | isPaused (paused : Bool)
  | budget (index : Nat) (pkg : PackageUpdate) (amount : Decimal)
  | creativeIds (index : Nat) (pkg : PackageUpdate) (requested : List String)
  | creatives (index : Nat) (pkg : PackageUpdate)
  | upload (pkg : PackageUpdate)
  | creativeAssignments (index : Nat) (pkg : PackageUpdate)
  | targeting (index : Nat) (pkg : PackageUpdate) (overlay : Targeting)
  | dates
  | response

section Steps

variable (env : UpdateEnv) (req : UpdateRequest)

/-- What the tool does at a step. -/
def UpdateStep.act : UpdateStep → UpdateAct
  | .adapter action packageId amount => adapterAct env req action packageId amount
  | .isPaused paused =>
      .inside (fun _ => none) (updateBuyFields env req { isPaused := some paused })
  | .budget index pkg amount =>
      .check (fun rows =>
        packageIdError index pkg <|> budgetError env req index amount rows <|>
          packageError env req rows pkg)
  | .creativeIds index pkg requested =>
      .inside (fun rows =>
          packageIdError index pkg <|> mediaBuyError env req rows <|>
            validateCreativesForAssignment env req rows pkg requested
              (packageFieldPath "creative_ids" index))
        (replaceAssignments env req pkg (requested.map (fun c => ⟨c, none, none⟩)))
  | .creatives index pkg => .check (fun _ => packageIdError index pkg)
  | .upload pkg => uploadAct env pkg
  | .creativeAssignments index pkg =>
      .inside (fun rows =>
          packageIdError index pkg <|> mediaBuyError env req rows <|>
            validateCreativesForAssignment env req rows pkg
              (pkg.creativeAssignments.map (·.creativeId))
              (packageFieldPath "creative_assignments" index) <|>
            placementError env req rows pkg <|> assignmentConflict env req rows pkg)
        (replaceAssignments env req pkg pkg.creativeAssignments)
  | .targeting index pkg overlay =>
      .inside (fun rows => packageIdError index pkg <|> packageError env req rows pkg)
        (writeTargeting req pkg.packageId overlay)
  | .dates => .inside (datesError env req) (updateBuyFields env req (requestedDates env req))
  | .response => responseAct env req

/-- The steps of a package entry. -/
def packageSteps
    (index : Nat)
    (pkg : PackageUpdate) : List UpdateStep :=
  pkg.paused.toList.map (fun paused =>
      .adapter (if paused then .pausePackage else .resumePackage) (some pkg.packageId) none) ++
    pkg.budget.toList.flatMap (fun budget =>
      [.budget index pkg budget,
        .adapter .updatePackageBudget (some pkg.packageId) (some budget.truncate)]) ++
    pkg.creativeIds.toList.map (.creativeIds index pkg) ++
    (if pkg.creatives.isEmpty then [] else [.creatives index pkg, .upload pkg]) ++
    (if pkg.creativeAssignments.isEmpty then [] else [.creativeAssignments index pkg]) ++
    pkg.targetingOverlay.toList.map (.targeting index pkg)

/-- The steps of a request; a campaign-level pause ends it. -/
def updateSteps : List UpdateStep :=
  match req.paused with
  | some paused =>
      [.adapter (if paused then .pauseMediaBuy else .resumeMediaBuy) none none, .isPaused paused,
        .response]
  | none =>
      (req.packages.zipIdx.flatMap (fun (pkg, index) => packageSteps index pkg)) ++
        (if req.startTime.isSome || req.endTime.isSome then [.dates] else []) ++ [.response]

theorem map_packageSteps
    (index : Nat)
    (pkg : PackageUpdate) :
    (packageSteps index pkg).map (·.act env req) = packageActs env req index pkg := by
  unfold packageSteps packageActs pausedActs budgetActs creativeIdsActs creativesActs
    creativeAssignmentsActs targetingActs
  simp only [List.map_append]
  congr 1
  · congr 1
    · congr 1
      · congr 1
        · congr 1
          · cases pkg.paused <;> rfl
          · cases pkg.budget <;> rfl
        · cases pkg.creativeIds <;> rfl
      · split <;> rfl
    · split <;> rfl
  · cases pkg.targetingOverlay <;> rfl

/-- The steps of a request are the acts of the tool. -/
theorem map_updateSteps :
    (updateSteps req).map (·.act env req) = applyActs env req := by
  unfold updateSteps applyActs
  cases req.paused with
  | some paused => rfl
  | none =>
      simp only [List.map_append, List.map_flatMap, map_packageSteps]
      unfold datesActs
      split <;> rfl

end Steps

section Ahead

/-- The step calls the adapter or uploads creatives. -/
def UpdateStep.isCall : UpdateStep → Bool
  | .adapter _ _ _ | .upload _ => true
  | _ => false

/-- How many calls the steps make. -/
def callsOf
    (steps : List UpdateStep) : Nat :=
  steps.countP UpdateStep.isCall

/-- The creatives that a step uploads. -/
def UpdateStep.uploads : UpdateStep → List CreativeUpload
  | .upload pkg => pkg.creatives
  | _ => []

/-- The creatives that the steps upload. -/
def uploadsOf
    (steps : List UpdateStep) : List CreativeUpload :=
  steps.flatMap UpdateStep.uploads

/-- The package whose assignments a step replaces, and the creatives it requests. -/
def UpdateStep.replaces : UpdateStep → Option (String × List String)
  | .creativeIds _ pkg requested => some (pkg.packageId, requested)
  | .creativeAssignments _ pkg =>
      some (pkg.packageId, pkg.creativeAssignments.map (·.creativeId))
  | _ => none

/-- No step drops the assignment of the creative to the package. -/
def Requested
    (steps : List UpdateStep)
    (packageId creativeId : String) : Prop :=
  ∀ step ∈ steps, ∀ requested, step.replaces = some (packageId, requested) →
    creativeId ∈ requested

variable (env : UpdateEnv)

/-- The row of a creative after an upload of it. -/
def UpdateEnv.uploaded
    (stored : Option Creative)
    (creative : CreativeUpload) : Option Creative :=
  match env.verdict creative stored with
  | .accepted status format =>
      some (env.sync.creativeRow stored creative.creativeId status format)
  | .failed (some (status, format)) =>
      stored.map (fun _ => env.sync.creativeRow stored creative.creativeId status format)
  | .failed none => stored
  | .transient _ => stored

/-- The caller's creative of an id: the stored row after the uploads of it. -/
def creativeAfter
    (rows : BuyRows)
    (uploads : List CreativeUpload)
    (creativeId : String) : Option Creative :=
  (uploads.filter (fun u => u.creativeId = creativeId)).foldl env.uploaded
    (rows.creatives.find (env.sync.creativeKey creativeId))

/-- The stored assignment belongs to another principal. -/
def HeldByOther
    (rows : BuyRows)
    (mediaBuyId packageId creativeId : String) : Prop :=
  ∃ a, rows.assignments.find (env.tenantId, creativeId, mediaBuyId, packageId) = some a ∧
    a.principalId ≠ env.principalId

end Ahead

section Passing

variable (env : UpdateEnv) (req : UpdateRequest) (rows : BuyRows)

/-- The creative, stored or uploaded ahead, can be assigned to the package. -/
def Assignable
    (before : List UpdateStep)
    (pkg : PackageUpdate)
    (creativeId : String) : Prop :=
  ∃ creative, creativeAfter env rows (uploadsOf before) creativeId = some creative ∧
    creative.status ≠ .error ∧ creative.status ≠ .rejected ∧
    Product.accepts
      (((rows.getPackage env.tenantId req.mediaBuyId pkg.packageId).bind
        (·.config.productId)).bind env.product) creative.format

/-- The upload of a creative is accepted, after the uploads ahead of it. -/
def Accepted
    (ahead : List CreativeUpload)
    (creative : CreativeUpload) : Prop :=
  ∃ status format,
    env.verdict creative (creativeAfter env rows ahead creative.creativeId) =
      .accepted status format

/-- The creative agent answers for a creative, after the uploads ahead of it. -/
def Answered
    (ahead : List CreativeUpload)
    (creative : CreativeUpload) : Prop :=
  ∀ err, env.verdict creative (creativeAfter env rows ahead creative.creativeId) ≠ .transient err

/-- A creative is reported as failed, and its row is not touched. -/
def FailsUntouched
    (creative : CreativeUpload) : Prop :=
  ∃ touched, env.verdict creative
      (rows.creatives.find (env.sync.creativeKey creative.creativeId)) = .failed touched ∧
    (touched = none ∨ rows.creatives.find (env.sync.creativeKey creative.creativeId) = none)

/-- An uploaded creative can be assigned to the package its upload names. -/
def Placeable
    (uploads : List CreativeUpload)
    (packageId creativeId : String) : Prop :=
  ∃ package buy creative,
    rows.findPackageWithMediaBuy env.tenantId packageId = some (package, buy) ∧
      creativeAfter env rows uploads creativeId = some creative ∧
      Product.accepts (package.config.productId.bind env.product) creative.format ∧
      ¬ HeldByOther env rows buy.mediaBuyId packageId creativeId

/-- The step passes, after the steps ahead of it. -/
def UpdateStep.Passes
    (before : List UpdateStep) : UpdateStep → Prop
  | .adapter action packageId amount =>
      (env.adapter.updateMediaBuy (callsOf before)
        ⟨req.mediaBuyId, action, packageId, amount⟩).error = none
  | .isPaused _ => True
  | .budget index pkg amount =>
      pkg.packageId ≠ "" ∧ budgetError env req index amount rows = none ∧
        packageError env req rows pkg = none
  | .creativeIds _ pkg requested =>
      pkg.packageId ≠ "" ∧ ∀ c ∈ requested, Assignable env req rows before pkg c
  | .creatives _ pkg => pkg.packageId ≠ ""
  | .upload pkg =>
      AllPass (Accepted env rows) (uploadsOf before) pkg.creatives ∧
        ∀ creative ∈ pkg.creatives, creative.creativeId ≠ "" →
          Placeable env rows (uploadsOf before ++ pkg.creatives) pkg.packageId
            creative.creativeId
  | .creativeAssignments _ pkg =>
      pkg.packageId ≠ "" ∧
        (∀ ca ∈ pkg.creativeAssignments, Assignable env req rows before pkg ca.creativeId) ∧
        placementError env req rows pkg = none ∧
        ∀ ca ∈ pkg.creativeAssignments,
          HeldByOther env rows req.mediaBuyId pkg.packageId ca.creativeId →
            ¬ Requested before pkg.packageId ca.creativeId
  | .targeting _ pkg _ => pkg.packageId ≠ "" ∧ packageError env req rows pkg = none
  | .dates => datesError env req rows = none
  | .response => True

/-- The step, if it is the first call, raises and changes nothing. -/
def UpdateStep.Quiet : UpdateStep → Prop
  | .adapter action packageId amount =>
      ∃ err, env.adapter.updateMediaBuy 0 ⟨req.mediaBuyId, action, packageId, amount⟩ =
        .raised err false
  | .upload pkg =>
      ¬ AllPass (Answered env rows) [] pkg.creatives ∨
        pkg.creatives ≠ [] ∧ ∀ creative ∈ pkg.creatives, FailsUntouched env rows creative
  | _ => False

end Passing

end MediaBuys
end SalesAgent
