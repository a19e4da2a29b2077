import SalesAgent.MediaBuy.Update

/-!
# Which changes of a completed update take hold

A change takes hold when the stored rows show it afterwards and a returned adapter
call carried it.  A campaign-level pause returns before the package entries and
the dates are looked at.  On the other branch the pause and the budget of a
package go to the adapter alone, and targeting, creatives and dates to the rows
alone.

**Results.**
* `change_applied_iff`: when one change of a completed update takes hold.
* `update_applied_iff`: when all of them do.
-/

namespace SalesAgent
namespace MediaBuys

open UnitOfWork

/-- One change a request asks for. -/
inductive Change
  | buyPaused (paused : Bool)
  | packagePaused (packageId : String) (paused : Bool)
  | budget (packageId : String) (amount : Decimal)
  | targeting (packageId : String) (overlay : Targeting)
  | creativeIds (packageId : String) (creativeIds : List String)
  | creatives (packageId : String) (creatives : List CreativeUpload)
  | creativeAssignments (packageId : String) (assignments : List AssignmentUpdate)
  | startTime (start : StartTiming)
  | endTime (endTime : DateTime)

/-- The changes of a package entry. -/
def packageChanges
    (pkg : PackageUpdate) : List Change :=
  (pkg.paused.map (.packagePaused pkg.packageId)).toList ++
    (pkg.budget.map (.budget pkg.packageId)).toList ++
    (pkg.creativeIds.map (.creativeIds pkg.packageId)).toList ++
    (if pkg.creatives.isEmpty then [] else [.creatives pkg.packageId pkg.creatives]) ++
    (if pkg.creativeAssignments.isEmpty then []
      else [.creativeAssignments pkg.packageId pkg.creativeAssignments]) ++
    (pkg.targetingOverlay.map (.targeting pkg.packageId)).toList

/-- The changes of a request. -/
def changesOf
    (req : UpdateRequest) : List Change :=
  (req.paused.map .buyPaused).toList ++ req.packages.flatMap packageChanges ++
    (req.startTime.map .startTime).toList ++ (req.endTime.map .endTime).toList

section Readings

variable (env : UpdateEnv) (req : UpdateRequest)

/-- What a buyer reads of a package: the budget column and the paused flag. -/
def packageReading
    (rows : BuyRows)
    (packageId : String) : Option (Option Decimal × Option Bool) :=
  (rows.packages.find (req.mediaBuyId, packageId)).map (fun p => (p.budget, p.config.paused))

/-- The creatives assigned to a package. -/
def assignedIds
    (rows : BuyRows)
    (packageId : String) : List String :=
  (rows.assignmentsOf env.tenantId req.mediaBuyId packageId).map (·.creativeId)

/-- The stored rows show the change. -/
def Change.Stored
    (rows : BuyRows)
    (change : Change) : Prop :=
  match change with
  | .buyPaused b =>
      (rows.getById env.tenantId req.mediaBuyId).map (·.isPaused) = some b
  | .packagePaused packageId paused =>
      (packageReading req rows packageId).bind (·.2) = some paused
  | .budget packageId amount => (packageReading req rows packageId).bind (·.1) = some amount
  | .targeting packageId overlay =>
      (rows.packages.find (req.mediaBuyId, packageId)).bind (·.config.targetingOverlay) =
        some overlay
  | .creativeIds packageId ids =>
      ∀ c, c ∈ assignedIds env req rows packageId ↔ c ∈ ids
  | .creatives packageId uploads =>
      ∀ c ∈ uploads, c.creativeId ∈ assignedIds env req rows packageId
  | .creativeAssignments packageId assignments =>
      ∀ c, c ∈ assignedIds env req rows packageId ↔ c ∈ assignments.map (·.creativeId)
  | .startTime start =>
      (rows.getById env.tenantId req.mediaBuyId).bind (·.startTime) =
        some (start.resolve env.later)
  | .endTime t =>
      (rows.getById env.tenantId req.mediaBuyId).bind (·.endTime) = some t

/-- The adapter call carries the change; its arguments know neither targeting nor
creatives nor dates. -/
def AdapterCall.Carries
    (call : AdapterCall)
    (change : Change) : Prop :=
  match change with
  | .buyPaused paused =>
      call.action = (if paused then .pauseMediaBuy else .resumeMediaBuy)
  | .packagePaused packageId paused =>
      call.action = (if paused then .pausePackage else .resumePackage) ∧
        call.packageId = some packageId
  | .budget packageId amount =>
      call.action = .updatePackageBudget ∧ call.packageId = some packageId ∧
        ∃ n : Int, call.budget = some n ∧ (n : Decimal) = amount
  | _ => False

/-- An adapter call for the buy that returned carried the change. -/
def Change.Forwarded
    (calls : List OutsideCall)
    (change : Change) : Prop :=
  ∃ call affected storesBudget, .adapter call (.returned affected storesBudget) ∈ calls ∧
    call.mediaBuyId = req.mediaBuyId ∧ call.Carries change

/-- Every change of the request takes hold. -/
def AppliesAll
    (store : Store) : Prop :=
  ∀ change ∈ changesOf req,
    change.Stored env req (updateMediaBuy env req store).store.toBuyRows ∧
      change.Forwarded req (updateMediaBuy env req store).calls

/-- The changes that take hold: the pause of the buy; and, without one, a paused flag
that is stored already, and a stored budget that is a whole number. -/
def Change.TakesHold
    (rows : BuyRows)
    (change : Change) : Prop :=
  match change with
  | .buyPaused _ => True
  | .packagePaused packageId paused =>
      req.paused = none ∧ (packageReading req rows packageId).bind (·.2) = some paused
  | .budget packageId amount =>
      req.paused = none ∧ (∃ n : Int, (n : Decimal) = amount) ∧
        (packageReading req rows packageId).bind (·.1) = some amount
  | _ => False

end Readings

section Frames

variable {env : UpdateEnv} {req : UpdateRequest} {rows : BuyRows}

theorem packageReading_eq
    {rows rows' : BuyRows}
    (h : rows'.packages = rows.packages)
    (packageId : String) :
    packageReading req rows' packageId = packageReading req rows packageId := by
  unfold packageReading
  rw [h]

theorem packageReading_modifyConfig
    (rows : BuyRows)
    (mediaBuyId packageId packageId' : String)
    (change : PackageConfig → PackageConfig)
    (hpaused : ∀ c, (change c).paused = c.paused) :
    packageReading req (rows.modifyConfig mediaBuyId packageId change) packageId' =
      packageReading req rows packageId' := by
  unfold packageReading
  by_cases hkey : (req.mediaBuyId, packageId') = (mediaBuyId, packageId)
  · rw [hkey, BuyRows.find_modifyConfig, Option.map_map]
    congr 1
    funext p
    simp [MediaPackage.withConfig, hpaused]
  · rw [BuyRows.find_modifyConfig_of_ne _ _ hkey]

theorem packageReading_write
    {write : BuyRows → BuyRows → BuyRows}
    (hwrite : Writes env req write)
    {seen rows : BuyRows} {packageId : String}
    {reading : Option (Option Decimal × Option Bool)}
    (hseen : packageReading req seen packageId = reading)
    (hrows : packageReading req rows packageId = reading) :
    packageReading req (write seen rows) packageId = reading := by
  cases hwrite with
  | none => exact hrows
  | assignments pkg requested =>
      rw [packageReading_eq (replaceAssignments_packages pkg requested seen rows), hrows]
  | @targeting pkg overlay _ _ =>
      unfold writeTargeting
      cases hfound : seen.packages.find (req.mediaBuyId, pkg.packageId) with
      | none => exact hrows
      | some package =>
          by_cases hid : packageId = pkg.packageId
          · subst hid
            unfold packageReading at hseen hrows ⊢
            rw [hfound] at hseen
            rw [BuyRows.find_modifyConfig]
            cases hcurrent : rows.packages.find (req.mediaBuyId, pkg.packageId) with
            | none =>
                rw [hcurrent] at hrows
                rw [← hrows] at hseen
                cases hseen
            | some current =>
                rw [hcurrent, ← hseen] at hrows
                simp only [Option.map_some, Option.some.injEq, Prod.mk.injEq] at hrows
                rw [← hseen]
                simp [MediaPackage.withConfig, hrows.1]
          · have hne : (req.mediaBuyId, packageId) ≠ (req.mediaBuyId, pkg.packageId) := by
              simpa using hid
            unfold packageReading at hrows ⊢
            rw [BuyRows.find_modifyConfig_of_ne _ _ hne]
            exact hrows
  | fields updates => exact hrows

/-- No adapter and no upload changes them either. -/
theorem packageReading_call
    {call : Nat → BuyRows → Answer BuyRows OutsideCall BuyerError}
    (hcall : Act.outside call ∈ applyActs env req)
    (n : Nat)
    (rows : BuyRows)
    (packageId : String) :
    packageReading req (call n rows).rows packageId = packageReading req rows packageId := by
  rcases outside_mem_applyActs hcall with ⟨action, packageId', budget, -, hact⟩ |
    ⟨pkg, -, -, hact⟩
  · cases hact
    simp only [AdapterAnswer.commit]
    split
    · exact packageReading_modifyConfig rows _ _ packageId _ (fun _ => rfl)
    · rfl
  · cases hact
    exact packageReading_eq (syncCreatives_packages _ _ rows) packageId

/-- A unit that passes leaves every budget column and paused flag as it was. -/
theorem packageReading_block
    (hpass : (block (applyActs env req) rows).raised = none)
    (packageId : String) :
    packageReading req (block (applyActs env req) rows).rows packageId =
      packageReading req rows packageId := by
  have hwrites : ∀ refuses write, Act.inside refuses write ∈ applyActs env req →
      ∀ seen r, packageReading req seen packageId = packageReading req rows packageId →
      packageReading req r packageId = packageReading req rows packageId →
      packageReading req (write seen r) packageId = packageReading req rows packageId := by
    intro refuses write hact seen r hseen hr
    exact packageReading_write (inside_mem_applyActs hact) hseen hr
  have hcalls : ∀ call, Act.outside call ∈ applyActs env req → ∀ n r,
      packageReading req r packageId = packageReading req rows packageId →
      packageReading req (call n r).rows packageId = packageReading req rows packageId := by
    intro call hcall n r hr
    rw [packageReading_call hcall, hr]
  exact block_keeps hwrites hcalls hpass rfl

/-- A unit that passes a campaign-level pause has written it. -/
theorem isPaused_block
    {paused : Bool} {P : MediaBuy → Prop}
    (hpaused : req.paused = some paused)
    (hfound : rows.HasBuy env.tenantId req.mediaBuyId P)
    (hpass : (block (applyActs env req) rows).raised = none) :
    ((block (applyActs env req) rows).rows.getById env.tenantId req.mediaBuyId).map
      (·.isPaused) = some paused := by
  have hwrites : writes (applyActs env req) =
      [updateBuyFields env req { isPaused := some paused }, fun _ => id] := by
    simp only [applyActs, hpaused]
    rfl
  have hstart : rows.HasBuy env.tenantId req.mediaBuyId (fun _ => True) :=
    hfound.imp (fun _ hb => ⟨hb.1, trivial⟩)
  obtain ⟨b, hb, -⟩ := hasBuy_afterCalls (fun _ h => h) hstart
  obtain ⟨seens, hlength, hblock⟩ := block_rows_eq_commit hpass
  rw [hwrites] at hlength hblock
  obtain ⟨seen, seen', rfl⟩ := List.length_eq_two.mp hlength
  rw [hblock]
  simp only [commit, List.zip_cons_cons, List.zip_nil_right, List.foldl_cons, List.foldl_nil, id,
    updateBuyFields, BuyRows.getById_modifyBuy]
  rw [hb]
  simp [BuyRows.BuyChange.updateFields, MediaBuy.updateFields, MediaBuy.bumpRevision]

end Frames

section Calls

variable {env : UpdateEnv} {req : UpdateRequest} {rows : BuyRows}

theorem logged_of_asks
    {action : AdapterAction} {packageId : Option String} {budget : Option Int}
    (hasks : Asks req action packageId budget)
    (hpass : (block (applyActs env req) rows).raised = none) :
    ∃ affected storesBudget,
      .adapter ⟨req.mediaBuyId, action, packageId, budget⟩ (.returned affected storesBudget) ∈
        (block (applyActs env req) rows).log := by
  rw [block_raised] at hpass
  rw [block_log]
  obtain ⟨n, r, hreturned, hlogged⟩ := run_logs hpass (adapterAct_mem_applyActs hasks)
  simp only at hreturned hlogged
  cases hanswer : env.adapter.updateMediaBuy n ⟨req.mediaBuyId, action, packageId, budget⟩ with
  | returned affected storesBudget =>
      rw [hanswer] at hlogged
      exact ⟨affected, storesBudget, hlogged⟩
  | raised err mutated =>
      rw [hanswer] at hreturned
      cases hreturned

theorem paused_none_of_asks
    {action : AdapterAction} {packageId : Option String} {budget : Option Int}
    (hasks : Asks req action packageId budget)
    (hpackage : packageId ≠ none) :
    req.paused = none := by
  cases hasks with
  | mediaBuy hpaused => exact absurd rfl hpackage
  | paused hnone hpkg hpaused => exact hnone
  | budget hnone hpkg hbudget => exact hnone

theorem asks_of_logged
    {call : AdapterCall} {answer : AdapterAnswer}
    (h : .adapter call answer ∈ (block (applyActs env req) rows).log) :
    Asks req call.action call.packageId call.budget := by
  rw [block_log] at h
  rcases mem_run_log h with hstart | ⟨outside, hact, n, r, hentry⟩
  · cases hstart
  · rcases outside_mem_applyActs hact with ⟨action, packageId, budget, hasks, hcall⟩ |
      ⟨pkg, -, -, hcall⟩
    · cases hcall
      cases hentry
      exact hasks
    · cases hcall
      cases hentry

end Calls

section Changes

variable {env : UpdateEnv} {req : UpdateRequest} {store : Store}

theorem paused_of_mem_changesOf
    {paused : Bool}
    (h : .buyPaused paused ∈ changesOf req) :
    req.paused = some paused := by
  simpa [changesOf, packageChanges] using h

theorem packagePaused_of_mem_changesOf
    {packageId : String} {paused : Bool}
    (h : .packagePaused packageId paused ∈ changesOf req) :
    ∃ pkg ∈ req.packages, pkg.packageId = packageId ∧ pkg.paused = some paused := by
  obtain ⟨pkg, hpkg, hpaused, hid⟩ : ∃ pkg ∈ req.packages,
      pkg.paused = some paused ∧ pkg.packageId = packageId := by
    simpa [changesOf, packageChanges] using h
  exact ⟨pkg, hpkg, hid, hpaused⟩

theorem budget_of_mem_changesOf
    {packageId : String} {amount : Decimal}
    (h : .budget packageId amount ∈ changesOf req) :
    ∃ pkg ∈ req.packages, pkg.packageId = packageId ∧ pkg.budget = some amount := by
  obtain ⟨pkg, hpkg, hbudget, hid⟩ : ∃ pkg ∈ req.packages,
      pkg.budget = some amount ∧ pkg.packageId = packageId := by
    simpa [changesOf, packageChanges] using h
  exact ⟨pkg, hpkg, hid, hbudget⟩

theorem Decimal.truncate_intCast
    (n : Int) :
    Decimal.truncate (n : Decimal) = n := by
  simp [Decimal.truncate]

/-- When one change of a completed update takes hold. -/
theorem change_applied_iff
    {revision : Nat} {affected : List String}
    (hdone : (updateMediaBuy env req store).reply = .completed revision affected)
    {change : Change}
    (hchange : change ∈ changesOf req) :
    (change.Stored env req (updateMediaBuy env req store).store.toBuyRows ∧
        change.Forwarded req (updateMediaBuy env req store).calls) ↔
      change.TakesHold req store.toBuyRows := by
  obtain ⟨hgate, hpass⟩ := updateMediaBuy_completed hdone
  obtain ⟨hcalls, hrows, -⟩ := updateMediaBuy_of_not_endsAtGate hgate
  rw [hcalls, hrows]
  cases change with
  | buyPaused paused =>
      have hpaused := paused_of_mem_changesOf hchange
      obtain ⟨affected, storesBudget, hlogged⟩ := logged_of_asks (.mediaBuy hpaused) hpass
      refine iff_of_true ⟨?_, _, _, _, hlogged, rfl, rfl⟩ trivial
      exact isPaused_block hpaused (hasBuy_of_not_endsAtGate hgate) hpass
  | packagePaused packageId paused =>
      simp only [Change.Stored, Change.TakesHold, packageReading_block hpass]
      refine ⟨fun ⟨hstored, hforwarded⟩ => ⟨?_, hstored⟩, fun ⟨hnone, hstored⟩ => ⟨hstored, ?_⟩⟩
      · obtain ⟨call, _, _, hlogged, -, hcarries⟩ := hforwarded
        exact paused_none_of_asks (asks_of_logged hlogged) (by simp [hcarries.2])
      · obtain ⟨pkg, hpkg, rfl, hpaused⟩ := packagePaused_of_mem_changesOf hchange
        obtain ⟨affected, storesBudget, hlogged⟩ :=
          logged_of_asks (.paused hnone hpkg hpaused) hpass
        exact ⟨_, _, _, hlogged, rfl, rfl, rfl⟩
  | budget packageId amount =>
      simp only [Change.Stored, Change.TakesHold, packageReading_block hpass]
      refine ⟨fun ⟨hstored, hforwarded⟩ => ?_, fun ⟨hnone, hwhole, hstored⟩ => ⟨hstored, ?_⟩⟩
      · obtain ⟨call, _, _, hlogged, -, -, hid, n, -, hamount⟩ := hforwarded
        exact ⟨paused_none_of_asks (asks_of_logged hlogged) (by simp [hid]), ⟨n, hamount⟩, hstored⟩
      · obtain ⟨pkg, hpkg, rfl, hbudget⟩ := budget_of_mem_changesOf hchange
        obtain ⟨n, rfl⟩ := hwhole
        obtain ⟨affected, storesBudget, hlogged⟩ :=
          logged_of_asks (.budget hnone hpkg hbudget) hpass
        exact ⟨_, _, _, hlogged, rfl, rfl, rfl, n, congrArg some (Decimal.truncate_intCast n), rfl⟩
  | _ =>
      -- no adapter call carries these
      refine iff_of_false ?_ not_false
      rintro ⟨-, _, _, _, -, -, hcarries⟩
      exact hcarries

/-- A completed update applies all it was asked for exactly when each change is one
that takes hold. -/
theorem update_applied_iff
    {env : UpdateEnv} {req : UpdateRequest} {store : Store}
    {revision : Nat} {affected : List String}
    (hdone : (updateMediaBuy env req store).reply = .completed revision affected) :
    AppliesAll env req store ↔
      ∀ change ∈ changesOf req, change.TakesHold req store.toBuyRows :=
  forall₂_congr (fun _ hchange => change_applied_iff hdone hchange)

/-- A pause of the whole buy is such a change. -/
theorem pause_applied :
    AppliesAll sampleUpdateEnv { mediaBuyId := "mb_1", paused := some true } sampleStore := by
  have hdone : (updateMediaBuy sampleUpdateEnv { mediaBuyId := "mb_1", paused := some true }
      sampleStore).reply = .completed 4 [] := by
    decide +kernel
  refine (update_applied_iff hdone).mpr ?_
  simp [changesOf, Change.TakesHold]

/-- A pause with new dates answers `completed` and drops the dates. -/
theorem pause_drops_dates :
    (updateMediaBuy sampleUpdateEnv
        { mediaBuyId := "mb_1", paused := some true, endTime := some 1728000000000 }
        sampleStore).reply = .completed 4 [] ∧
      ¬ AppliesAll sampleUpdateEnv
        { mediaBuyId := "mb_1", paused := some true, endTime := some 1728000000000 }
        sampleStore := by
  refine ⟨by decide +kernel, ?_⟩
  intro h
  obtain ⟨hstored, -⟩ := h (.endTime 1728000000000) (by simp [changesOf])
  revert hstored
  simp only [Change.Stored]
  decide +kernel

end Changes

end MediaBuys
end SalesAgent
