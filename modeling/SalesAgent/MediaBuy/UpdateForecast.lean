import SalesAgent.MediaBuy.UpdateSteps

/-!
# The steps of an update do what the stored rows foretell

An update changes rows as it goes, in its own transaction and in those of the adapter
and of the creative sync.  Its checks read what none of these changes: which packages
there are and of which product, the buys with their currency and flight, and, along
with the uploads and replacements ahead, the creatives and who holds an assignment.

**Results.**
* `Kept`: what stays as stored while the steps pass.
* `kept_replaceAssignments`: assignments that replace others.
* `upload_spec`: what an upload needs, and what it leaves.
* `update_forecast`: every step does what the plan of the request tells.
-/

namespace SalesAgent
namespace MediaBuys

open UnitOfWork

/-- What the checks read of a package. -/
def MediaPackage.head
    (p : MediaPackage) : String × String × Option String :=
  (p.mediaBuyId, p.packageId, p.config.productId)

/-- What the checks read of a buy at every step. -/
def MediaBuy.terms
    (b : MediaBuy) : String × String :=
  (b.mediaBuyId, b.requestCurrency)

/-- What the check of the dates reads. -/
def MediaBuy.flight
    (b : MediaBuy) : Option DateTime × Option DateTime :=
  (b.startTime, b.endTime)

/-- What stays as stored while the steps pass. -/
structure Kept
    (env : UpdateEnv)
    (req : UpdateRequest)
    (stored : BuyRows)
    (before : List UpdateStep)
    (rows : BuyRows) : Prop where
  packages : rows.packages.rows.map MediaPackage.head = stored.packages.rows.map MediaPackage.head
  buys : ∀ mediaBuyId, (rows.getById env.tenantId mediaBuyId).map MediaBuy.terms =
    (stored.getById env.tenantId mediaBuyId).map MediaBuy.terms
  flight : UpdateStep.dates ∉ before → ∀ mediaBuyId,
    (rows.getById env.tenantId mediaBuyId).map MediaBuy.flight =
      (stored.getById env.tenantId mediaBuyId).map MediaBuy.flight
  held : ∀ mediaBuyId packageId creativeId,
    HeldByOther env rows mediaBuyId packageId creativeId ↔
      HeldByOther env stored mediaBuyId packageId creativeId ∧
        (mediaBuyId = req.mediaBuyId → Requested before packageId creativeId)

section Readings

variable {env : UpdateEnv} {req : UpdateRequest} {stored rows : BuyRows}
  {before : List UpdateStep}

theorem Kept.start :
    Kept env req stored [] stored where
  packages := rfl
  buys := fun _ => rfl
  flight := fun _ _ => rfl
  held := by
    intro mediaBuyId packageId creativeId
    simp [Requested]

theorem Kept.snoc
    {step : UpdateStep}
    (h : Kept env req stored before rows)
    (hreplaces : step.replaces = none) :
    Kept env req stored (before ++ [step]) rows where
  packages := h.packages
  buys := h.buys
  flight := fun hdates => h.flight (fun hmem => hdates (List.mem_append_left _ hmem))
  held := by
    intro mediaBuyId packageId creativeId
    have hsame : Requested (before ++ [step]) packageId creativeId ↔
        Requested before packageId creativeId := by
      simp [Requested, or_imp, forall_and, hreplaces]
    rw [hsame]
    exact h.held mediaBuyId packageId creativeId

theorem Kept.getById_isSome
    (h : Kept env req stored before rows)
    (mediaBuyId : String) :
    (rows.getById env.tenantId mediaBuyId).isSome =
      (stored.getById env.tenantId mediaBuyId).isSome := by
  simpa using congrArg Option.isSome (h.buys mediaBuyId)

theorem Kept.find_product
    (h : Kept env req stored before rows)
    (key : String × String) :
    (rows.packages.find key).map (·.config.productId) =
      (stored.packages.find key).map (·.config.productId) := by
  have hread : ∀ r : BuyRows, (r.packages.find key).map (·.config.productId) =
      ((r.packages.rows.map MediaPackage.head).find?
        (fun x => (x.1, x.2.1) = key)).map (·.2.2) := by
    intro r
    rw [List.find?_map, Option.map_map]
    unfold IndexedTable.find MediaPackage.primaryKey
    simp only [Option.some.injEq]
    rfl
  rw [hread, hread, h.packages]

theorem Kept.getPackage_product
    (h : Kept env req stored before rows)
    (mediaBuyId packageId : String) :
    (rows.getPackage env.tenantId mediaBuyId packageId).map (·.config.productId) =
      (stored.getPackage env.tenantId mediaBuyId packageId).map (·.config.productId) := by
  unfold BuyRows.getPackage
  rw [h.getById_isSome]
  split
  · exact h.find_product _
  · rfl

/-- The lookup of a package by its id alone finds the same package and buy. -/
theorem Kept.findPackage
    (h : Kept env req stored before rows)
    (packageId : String) :
    (rows.findPackageWithMediaBuy env.tenantId packageId).map
        (fun x => (x.1.config.productId, x.2.mediaBuyId)) =
      (stored.findPackageWithMediaBuy env.tenantId packageId).map
        (fun x => (x.1.config.productId, x.2.mediaBuyId)) := by
  have hread : ∀ r : BuyRows, (r.findPackageWithMediaBuy env.tenantId packageId).map
      (fun x => (x.1.config.productId, x.2.mediaBuyId)) =
        (r.packages.rows.map MediaPackage.head).findSome? (fun x =>
          if x.2.1 = packageId then
            ((r.getById env.tenantId x.1).map MediaBuy.terms).map (fun t => (x.2.2, t.1))
          else none) := by
    intro r
    unfold BuyRows.findPackageWithMediaBuy
    rw [List.map_findSome?, List.findSome?_map]
    congr 1
    funext p
    simp only [Function.comp, MediaPackage.head]
    by_cases hid : p.packageId = packageId
    · simp [hid, Function.comp_def, MediaBuy.terms]
    · simp [hid]
  rw [hread, hread, h.packages]
  simp only [h.buys]

theorem Kept.mediaBuyError
    (h : Kept env req stored before rows)
    (hbuy : (stored.getById env.tenantId req.mediaBuyId).isSome) :
    mediaBuyError env req rows = none := by
  have hsome := hbuy
  rw [← h.getById_isSome, Option.isSome_iff_exists] at hsome
  obtain ⟨b, hb⟩ := hsome
  unfold MediaBuys.mediaBuyError
  rw [hb]

theorem Kept.packageError
    (h : Kept env req stored before rows)
    (pkg : PackageUpdate) :
    packageError env req rows pkg = packageError env req stored pkg := by
  have hpackage := h.getPackage_product req.mediaBuyId pkg.packageId
  unfold MediaBuys.packageError
  cases hrows : rows.getPackage env.tenantId req.mediaBuyId pkg.packageId with
  | none =>
      rw [hrows] at hpackage
      rw [Option.map_eq_none_iff.mp hpackage.symm]
  | some p =>
      rw [hrows] at hpackage
      obtain ⟨q, hq, -⟩ := Option.map_eq_some_iff.mp hpackage.symm
      rw [hq]

theorem Kept.budgetError
    (h : Kept env req stored before rows)
    (index : Nat)
    (budget : Decimal) :
    budgetError env req index budget rows = budgetError env req index budget stored := by
  have hcurrency : ∀ r : BuyRows,
      (r.getById env.tenantId req.mediaBuyId).elim "USD" MediaBuy.requestCurrency =
        ((r.getById env.tenantId req.mediaBuyId).map MediaBuy.terms).elim "USD" Prod.snd := by
    intro r
    cases r.getById env.tenantId req.mediaBuyId <;> rfl
  unfold MediaBuys.budgetError
  rw [hcurrency, hcurrency, h.buys]

theorem Kept.placementError
    (h : Kept env req stored before rows)
    (pkg : PackageUpdate) :
    placementError env req rows pkg = placementError env req stored pkg := by
  have hpackage := h.getPackage_product req.mediaBuyId pkg.packageId
  unfold MediaBuys.placementError
  cases hrows : rows.getPackage env.tenantId req.mediaBuyId pkg.packageId with
  | none =>
      rw [hrows] at hpackage
      rw [Option.map_eq_none_iff.mp hpackage.symm]
  | some p =>
      rw [hrows] at hpackage
      obtain ⟨q, hq, hproduct⟩ := Option.map_eq_some_iff.mp hpackage.symm
      simp only [hq, hproduct]

theorem Kept.datesError
    (h : Kept env req stored before rows)
    (hdates : UpdateStep.dates ∉ before) :
    datesError env req rows = datesError env req stored := by
  have hflight := h.flight hdates req.mediaBuyId
  unfold MediaBuys.datesError
  cases hrows : rows.getById env.tenantId req.mediaBuyId with
  | none =>
      rw [hrows] at hflight
      rw [Option.map_eq_none_iff.mp hflight.symm]
  | some b =>
      rw [hrows] at hflight
      obtain ⟨b', hb', hsame⟩ := Option.map_eq_some_iff.mp hflight.symm
      simp only [MediaBuy.flight, Prod.mk.injEq] at hsame
      simp only [hb', hsame.1, hsame.2]

/-- Creatives pass for a package where each of them can be assigned to it. -/
theorem Kept.validateCreatives
    (h : Kept env req stored before rows)
    (hcreatives : ∀ c, rows.creatives.find (env.sync.creativeKey c) =
      creativeAfter env stored (uploadsOf before) c)
    (pkg : PackageUpdate)
    (creativeIds : List String)
    (field : String) :
    validateCreativesForAssignment env req rows pkg creativeIds field = none ↔
      ∀ c ∈ creativeIds, Assignable env req stored before pkg c := by
  have hproduct : (rows.getPackage env.tenantId req.mediaBuyId pkg.packageId).bind
      (·.config.productId) = (stored.getPackage env.tenantId req.mediaBuyId pkg.packageId).bind
        (·.config.productId) := by
    have hpackage := congrArg (·.bind id) (h.getPackage_product req.mediaBuyId pkg.packageId)
    simpa only [Option.bind_map, Function.id_comp] using hpackage
  unfold validateCreativesForAssignment
  simp only [hcreatives, hproduct]
  constructor
  · intro hnone c hc
    split at hnone
    · cases hnone
    · next hfound =>
        split at hnone
        · cases hnone
        · next hstatus =>
            split at hnone
            · cases hnone
            · next hformat =>
                simp only [List.any_eq_true, not_exists, not_and, Bool.not_eq_true,
                  Option.isNone_eq_false_iff, Option.isSome_iff_exists] at hfound
                obtain ⟨creative, hcreative⟩ := hfound c hc
                have hmem : creative ∈ creativeIds.filterMap
                    (fun c => creativeAfter env stored (uploadsOf before) c) :=
                  List.mem_filterMap.mpr ⟨c, hc, hcreative⟩
                simp only [List.any_eq_true, not_exists, not_and] at hstatus hformat
                have hs := hstatus creative hmem
                have hf := hformat creative hmem
                simp only [decide_eq_true_eq, not_or] at hs
                exact ⟨creative, hcreative, hs.1, hs.2, by simpa using hf⟩
  · intro hall
    rw [if_neg, if_neg, if_neg]
    · simp only [List.any_eq_true, List.mem_filterMap, not_exists, not_and]
      rintro creative ⟨c, hc, hcreative⟩
      obtain ⟨creative', hcreative', -, -, haccepts⟩ := hall c hc
      rw [hcreative] at hcreative'
      cases hcreative'
      simpa using haccepts
    · simp only [List.any_eq_true, List.mem_filterMap, not_exists, not_and]
      rintro creative ⟨c, hc, hcreative⟩
      obtain ⟨creative', hcreative', herror, hrejected, -⟩ := hall c hc
      rw [hcreative] at hcreative'
      cases hcreative'
      simp [herror, hrejected]
    · simp only [List.any_eq_true, not_exists, not_and]
      intro c hc
      obtain ⟨creative, hcreative, -⟩ := hall c hc
      simp [hcreative]

theorem assignmentConflict_eq_none_iff
    (pkg : PackageUpdate) :
    assignmentConflict env req rows pkg = none ↔
      ∀ ca ∈ pkg.creativeAssignments,
        ¬ HeldByOther env rows req.mediaBuyId pkg.packageId ca.creativeId := by
  unfold assignmentConflict HeldByOther
  simp [Option.any_eq_true]

end Readings

section Writes

variable {env : UpdateEnv} {req : UpdateRequest} {stored rows seen : BuyRows}
  {before : List UpdateStep}

/-- What a change of a buy keeps of it, a lookup keeps. -/
theorem getById_modifyBuy_map
    {α : Type}
    {f : MediaBuy → α} {change : BuyRows.BuyChange}
    (hf : ∀ b, f (change.apply b) = f b)
    (tenantId mediaBuyId tenantId' mediaBuyId' : String) :
    ((rows.modifyBuy tenantId mediaBuyId change).getById tenantId' mediaBuyId').map f =
      (rows.getById tenantId' mediaBuyId').map f := by
  by_cases hid : mediaBuyId' = mediaBuyId
  · subst hid
    by_cases htenant : tenantId' = tenantId
    · subst htenant
      rw [BuyRows.getById_modifyBuy, Option.map_map]
      congr 1
      funext b
      exact hf b
    · rw [BuyRows.getById_modifyBuy_of_tenant_ne rows change htenant]
  · rw [BuyRows.getById_modifyBuy_of_ne rows change hid]

theorem MediaBuy.terms_updateStatus
    (status : PersistedMediaBuyStatus)
    (now : DateTime)
    (b : MediaBuy) :
    (b.updateStatus status now).terms = b.terms ∧
      (b.updateStatus status now).flight = b.flight := by
  unfold MediaBuy.updateStatus
  rw [MediaBuy.stamp_uncommitted]
  exact ⟨rfl, rfl⟩

theorem MediaBuy.terms_updateFields
    (updates : MediaBuy.FieldUpdates)
    (now : DateTime)
    (b : MediaBuy) :
    (b.updateFields updates now).terms = b.terms := by
  unfold MediaBuy.updateFields
  rw [MediaBuy.stamp_uncommitted]
  rfl

theorem MediaBuy.flight_updateFields
    {updates : MediaBuy.FieldUpdates}
    (hstart : updates.startTime = none)
    (hend : updates.endTime = none)
    (now : DateTime)
    (b : MediaBuy) :
    (b.updateFields updates now).flight = b.flight := by
  unfold MediaBuy.updateFields
  rw [MediaBuy.stamp_uncommitted, hstart, hend]
  rfl

theorem Kept.modifyBuy
    {change : BuyRows.BuyChange}
    (h : Kept env req stored before rows)
    (hterms : ∀ b, (change.apply b).terms = b.terms)
    (hflight : UpdateStep.dates ∉ before → ∀ b, (change.apply b).flight = b.flight)
    (tenantId mediaBuyId : String) :
    Kept env req stored before (rows.modifyBuy tenantId mediaBuyId change) where
  packages := h.packages
  buys := fun id => (getById_modifyBuy_map hterms _ _ _ _).trans (h.buys id)
  flight := fun hdates id =>
    (getById_modifyBuy_map (hflight hdates) _ _ _ _).trans (h.flight hdates id)
  held := h.held

theorem Kept.markPendingCreatives
    (h : Kept env req stored before rows)
    (tenantId mediaBuyId : String)
    (now : DateTime)
    (seen : BuyRows) :
    Kept env req stored before (markPendingCreatives tenantId mediaBuyId now seen rows) := by
  unfold MediaBuys.markPendingCreatives
  split
  · exact h.modifyBuy (fun b => (MediaBuy.terms_updateStatus _ _ b).1)
      (fun _ b => (MediaBuy.terms_updateStatus _ _ b).2) _ _
  · exact h

theorem Kept.modifyConfig
    {mediaBuyId packageId : String} {change : PackageConfig → PackageConfig}
    (h : Kept env req stored before rows)
    (hchange : ∀ p, rows.packages.find (mediaBuyId, packageId) = some p →
      (change p.config).productId = p.config.productId) :
    Kept env req stored before (rows.modifyConfig mediaBuyId packageId change) where
  packages := by
    rw [← h.packages]
    unfold BuyRows.modifyConfig IndexedTable.modify
    simp only [List.map_map]
    refine List.map_congr_left ?_
    intro p hp
    simp only [Function.comp]
    split
    · next hkey =>
        simp only [MediaPackage.head, MediaPackage.withConfig,
          hchange p ((IndexedTable.find_eq_some_iff _).mpr ⟨hp, hkey⟩)]
    · rfl
  buys := h.buys
  flight := h.flight
  held := h.held

theorem commit_creatives
    (answer : AdapterAnswer)
    (call : AdapterCall)
    (rows : BuyRows) :
    (answer.commit call rows).creatives = rows.creatives := by
  unfold AdapterAnswer.commit
  split <;> rfl

theorem Kept.commit
    (h : Kept env req stored before rows)
    (answer : AdapterAnswer)
    (call : AdapterCall) :
    Kept env req stored before (answer.commit call rows) := by
  unfold AdapterAnswer.commit
  split
  · exact h.modifyConfig (fun _ _ => rfl)
  · exact h

/-- The JSON that was seen is of the same product. -/
theorem Kept.writeTargeting
    (hseen : Kept env req stored before seen)
    (h : Kept env req stored before rows)
    (packageId : String)
    (overlay : Targeting) :
    Kept env req stored before (writeTargeting req packageId overlay seen rows) := by
  unfold MediaBuys.writeTargeting
  split
  · exact h
  · next package hpackage =>
      refine h.modifyConfig ?_
      intro p hp
      have hsame := (hseen.find_product (req.mediaBuyId, packageId)).trans
        (h.find_product (req.mediaBuyId, packageId)).symm
      rw [hpackage, hp] at hsame
      exact Option.some.inj hsame

theorem heldByOther_put_of_ne
    {row : CreativeAssignment} {mediaBuyId packageId creativeId : String}
    (hkey : row.uniqueKey ≠ some (env.tenantId, creativeId, mediaBuyId, packageId)) :
    HeldByOther env { rows with assignments := rows.assignments.put row } mediaBuyId packageId
        creativeId ↔
      HeldByOther env rows mediaBuyId packageId creativeId := by
  unfold HeldByOther
  simp only [IndexedTable.find_put_of_ne _ hkey]

theorem heldByOther_put_self
    {row : CreativeAssignment} {mediaBuyId packageId creativeId : String}
    (hkey : row.uniqueKey = some (env.tenantId, creativeId, mediaBuyId, packageId)) :
    HeldByOther env { rows with assignments := rows.assignments.put row } mediaBuyId packageId
        creativeId ↔
      row.principalId ≠ env.principalId := by
  unfold HeldByOther
  simp only [IndexedTable.find_put_self _ hkey, Option.some.injEq, exists_eq_left']

/-- Writing one assignment does not change whom it belongs to. -/
theorem heldByOther_putAssignment
    {P : Prop} {pkg : PackageUpdate} {state : BuyRows × BuyRows}
    (ca : AssignmentUpdate)
    {mediaBuyId packageId creativeId : String}
    (hseen : HeldByOther env state.1 mediaBuyId packageId creativeId ↔ P)
    (hrows : HeldByOther env state.2 mediaBuyId packageId creativeId ↔ P) :
    (HeldByOther env (putAssignment env req pkg state ca).1 mediaBuyId packageId creativeId ↔ P) ∧
      (HeldByOther env (putAssignment env req pkg state ca).2 mediaBuyId packageId creativeId ↔
        P) := by
  unfold putAssignment
  simp only
  split
  · exact ⟨hseen, hrows⟩
  · have hrow := @assignmentRow_uniqueKey env req pkg state.1 ca
    by_cases hkey : assignmentKey env req pkg ca.creativeId =
        (env.tenantId, creativeId, mediaBuyId, packageId)
    · rw [hkey] at hrow
      have hprincipal : (assignmentRow env req pkg state.1 ca).principalId ≠ env.principalId ↔
          P := by
        rw [← hseen]
        unfold HeldByOther assignmentRow
        rw [hkey]
        cases state.1.assignments.find (env.tenantId, creativeId, mediaBuyId, packageId) with
        | none => simp
        | some existing => simp
      exact ⟨(heldByOther_put_self hrow).trans hprincipal,
        (heldByOther_put_self hrow).trans hprincipal⟩
    · have hne : (assignmentRow env req pkg state.1 ca).uniqueKey ≠
          some (env.tenantId, creativeId, mediaBuyId, packageId) := by
        rw [hrow]
        simpa using hkey
      exact ⟨(heldByOther_put_of_ne hne).trans hseen, (heldByOther_put_of_ne hne).trans hrows⟩

theorem find_putAssignment_of_ne
    {pkg : PackageUpdate} {state : BuyRows × BuyRows} {ca : AssignmentUpdate}
    {key : String × String × String × String}
    (hkey : assignmentKey env req pkg ca.creativeId ≠ key) :
    (putAssignment env req pkg state ca).2.assignments.find key =
      state.2.assignments.find key := by
  unfold putAssignment
  simp only
  split
  · rfl
  · refine IndexedTable.find_put_of_ne _ ?_
    rw [assignmentRow_uniqueKey]
    simpa using hkey

/-- Replacing the assignments of a package drops those that are not requested. -/
theorem heldByOther_writeAssignments
    {P : Prop} {pkg : PackageUpdate} {requested : List AssignmentUpdate}
    {mediaBuyId packageId creativeId : String}
    (hseen : HeldByOther env seen mediaBuyId packageId creativeId ↔ P)
    (hrows : HeldByOther env rows mediaBuyId packageId creativeId ↔ P) :
    HeldByOther env (writeAssignments env req pkg requested seen rows) mediaBuyId packageId
        creativeId ↔
      P ∧ (mediaBuyId = req.mediaBuyId → packageId = pkg.packageId →
        creativeId ∈ requested.map (·.creativeId)) := by
  by_cases hkept : mediaBuyId = req.mediaBuyId → packageId = pkg.packageId →
      creativeId ∈ requested.map (·.creativeId)
  · -- the assignment is not dropped, and what is written keeps its principal
    have hdrop : HeldByOther env
        (dropAssignments env req pkg (requested.map (·.creativeId)) seen rows) mediaBuyId
          packageId creativeId ↔ P := by
      rw [← hrows]
      unfold HeldByOther dropAssignments
      rw [IndexedTable.find_deleteWhere_of_key]
      intro a ha
      rw [ha]
      simp only [Option.any_some, decide_eq_false_iff_not, List.mem_filterMap, not_exists,
        not_and]
      intro b hb hdropped
      split at hdropped
      · cases hdropped
      · next hnot =>
          simp only [CreativeAssignment.uniqueKey, Option.some.injEq, Prod.mk.injEq] at hdropped
          simp only [BuyRows.assignmentsOf, List.mem_filter, decide_eq_true_eq] at hb
          obtain ⟨-, rfl, rfl, rfl⟩ := hdropped
          exact hnot (hkept hb.2.2.1 hb.2.2.2)
    have hfold : ∀ (cas : List AssignmentUpdate) (state : BuyRows × BuyRows),
        (HeldByOther env state.1 mediaBuyId packageId creativeId ↔ P) →
        (HeldByOther env state.2 mediaBuyId packageId creativeId ↔ P) →
        (HeldByOther env (cas.foldl (putAssignment env req pkg) state).2 mediaBuyId packageId
          creativeId ↔ P) := by
      intro cas
      induction cas with
      | nil => exact fun _ _ h => h
      | cons ca cas ih =>
          intro state h₁ h₂
          obtain ⟨h₁', h₂'⟩ := @heldByOther_putAssignment env req P pkg state ca _ _ _ h₁ h₂
          exact ih _ h₁' h₂'
    rw [and_iff_left hkept]
    exact hfold requested _ hseen hdrop
  · simp only [Classical.not_imp] at hkept
    obtain ⟨rfl, rfl, hnot⟩ := hkept
    have hkey : ∀ ca ∈ requested, assignmentKey env req pkg ca.creativeId ≠
        (env.tenantId, creativeId, req.mediaBuyId, pkg.packageId) := by
      intro ca hca heq
      simp only [assignmentKey, Prod.mk.injEq] at heq
      exact hnot (List.mem_map.mpr ⟨ca, hca, heq.2.1⟩)
    have hfold : ∀ (cas : List AssignmentUpdate) (state : BuyRows × BuyRows),
        (∀ ca ∈ cas, ca ∈ requested) →
        (cas.foldl (putAssignment env req pkg) state).2.assignments.find
            (env.tenantId, creativeId, req.mediaBuyId, pkg.packageId) =
          state.2.assignments.find (env.tenantId, creativeId, req.mediaBuyId, pkg.packageId) := by
      intro cas
      induction cas with
      | nil => exact fun _ _ => rfl
      | cons ca cas ih =>
          intro state hcas
          rw [List.foldl_cons, ih _ (fun c hc => hcas c (List.mem_cons_of_mem _ hc)),
            find_putAssignment_of_ne (hkey ca (hcas ca List.mem_cons_self))]
    simp only [hnot, imp_false, not_true_eq_false, and_false, iff_false]
    unfold HeldByOther writeAssignments
    rw [hfold requested _ (fun _ h => h)]
    rintro ⟨a, ha, hother⟩
    unfold dropAssignments at ha
    obtain ⟨hmem, hakey⟩ := (IndexedTable.find_eq_some_iff _).mp ha
    rw [IndexedTable.mem_deleteWhere] at hmem
    have hheld : HeldByOther env rows req.mediaBuyId pkg.packageId creativeId :=
      ⟨a, (IndexedTable.find_eq_some_iff _).mpr ⟨hmem.1, hakey⟩, hother⟩
    obtain ⟨b, hb, -⟩ := hseen.mpr (hrows.mp hheld)
    -- the row seen under the key is among the dropped ones
    obtain ⟨hbmem, hbkey⟩ := (IndexedTable.find_eq_some_iff _).mp hb
    have hbkey' := hbkey
    simp only [CreativeAssignment.uniqueKey, Option.some.injEq, Prod.mk.injEq] at hbkey'
    have hdropped := hmem.2
    rw [hakey] at hdropped
    simp only [Option.any_some, decide_eq_false_iff_not, List.mem_filterMap, not_exists,
      not_and] at hdropped
    refine hdropped b ?_ ?_
    · simp only [BuyRows.assignmentsOf, List.mem_filter, decide_eq_true_eq]
      exact ⟨hbmem, hbkey'.1, hbkey'.2.2.1, hbkey'.2.2.2⟩
    · rw [if_neg, hbkey]
      rw [hbkey'.2.1]
      exact hnot

theorem replaceAssignments_creatives
    (pkg : PackageUpdate)
    (requested : List AssignmentUpdate)
    (seen rows : BuyRows) :
    (replaceAssignments env req pkg requested seen rows).creatives = rows.creatives := by
  obtain ⟨assignments, h⟩ := @writeAssignments_eq env req pkg requested seen rows
  unfold replaceAssignments markPendingCreatives
  simp only [h]
  split
  · rfl
  · split <;> rfl

/-- Assignments that replace others keep the rest, and drop what they do not request. -/
theorem kept_replaceAssignments
    {step : UpdateStep} {pkg : PackageUpdate} {requested : List AssignmentUpdate}
    (hstep : step.replaces = some (pkg.packageId, requested.map (·.creativeId)))
    (hseen : Kept env req stored before seen)
    (h : Kept env req stored before rows) :
    Kept env req stored (before ++ [step])
      (replaceAssignments env req pkg requested seen rows) := by
  have hwritten : Kept env req stored (before ++ [step])
      (writeAssignments env req pkg requested seen rows) := by
    have hbuys : ∀ id, (writeAssignments env req pkg requested seen rows).getById env.tenantId
        id = rows.getById env.tenantId id := by
      intro id
      unfold BuyRows.getById
      rw [writeAssignments_mediaBuys]
    refine ⟨?_, ?_, ?_, ?_⟩
    · rw [writeAssignments_packages]
      exact h.packages
    · intro id
      rw [hbuys]
      exact h.buys id
    · intro hdates id
      rw [hbuys]
      exact h.flight (fun hmem => hdates (List.mem_append_left _ hmem)) id
    · intro mediaBuyId packageId creativeId
      rw [heldByOther_writeAssignments (hseen.held mediaBuyId packageId creativeId)
        (h.held mediaBuyId packageId creativeId)]
      have hsplit : Requested (before ++ [step]) packageId creativeId ↔
          Requested before packageId creativeId ∧ (packageId = pkg.packageId →
            creativeId ∈ requested.map (·.creativeId)) := by
        simp only [Requested, List.mem_append, List.mem_singleton, or_imp, forall_and,
          forall_eq, hstep, Option.some.injEq, Prod.mk.injEq]
        constructor
        · rintro ⟨hold, hnew⟩
          exact ⟨hold, fun hid => hnew _ ⟨hid.symm, rfl⟩⟩
        · rintro ⟨hold, hnew⟩
          refine ⟨hold, ?_⟩
          rintro requested' ⟨hid, rfl⟩
          exact hnew hid.symm
      rw [hsplit, and_assoc, ← imp_and]
  unfold replaceAssignments
  simp only
  split
  · exact hwritten
  · exact hwritten.markPendingCreatives _ _ _ _

end Writes

section Uploads

variable {env : UpdateEnv} {req : UpdateRequest} {stored rows : BuyRows}

/-- The creatives are the stored ones after the uploads. -/
def UploadsDone
    (env : UpdateEnv)
    (stored : BuyRows)
    (uploads : List CreativeUpload)
    (rows : BuyRows) : Prop :=
  ∀ c, rows.creatives.find (env.sync.creativeKey c) = creativeAfter env stored uploads c

theorem creativeAfter_snoc
    (uploads : List CreativeUpload)
    (creative : CreativeUpload)
    (c : String) :
    creativeAfter env stored (uploads ++ [creative]) c =
      if creative.creativeId = c then env.uploaded (creativeAfter env stored uploads c) creative
      else creativeAfter env stored uploads c := by
  unfold creativeAfter
  rw [List.filter_append, List.foldl_append]
  by_cases hc : creative.creativeId = c
  · simp [hc]
  · simp [hc]

theorem creativeRow_key
    {sync : SyncEnv} {old : Option Creative} {creativeId : String}
    (hold : ∀ e, old = some e → e.primaryKey = some (sync.creativeKey creativeId))
    (status : CreativeStatus)
    (format : Option FormatIdentity) :
    (sync.creativeRow old creativeId status format).primaryKey =
      some (sync.creativeKey creativeId) := by
  cases old with
  | none => rfl
  | some e => exact hold e rfl

theorem find_storeCreative
    (sync : SyncEnv)
    (creativeId : String)
    (status : CreativeStatus)
    (format : Option FormatIdentity)
    (c : String) :
    (storeCreative sync rows creativeId status format).creatives.find (sync.creativeKey c) =
      if creativeId = c then
        some (sync.creativeRow (rows.creatives.find (sync.creativeKey c)) c status format)
      else rows.creatives.find (sync.creativeKey c) := by
  have hkey := @creativeRow_key sync (rows.creatives.find (sync.creativeKey creativeId)) creativeId
    (fun e he => ((IndexedTable.find_eq_some_iff _).mp he).2) status format
  unfold storeCreative
  split
  · next heq =>
      subst heq
      exact IndexedTable.find_put_self _ hkey
  · next hne =>
      refine IndexedTable.find_put_of_ne _ ?_
      rw [hkey]
      simpa [SyncEnv.creativeKey] using hne

theorem syncCreative_spec
    {uploads : List CreativeUpload} {state state' : BuyRows × List String}
    {creative : CreativeUpload}
    (hdone : UploadsDone env stored uploads state.1)
    (h : syncCreative env.sync state creative = .ok state') :
    Answered env stored uploads creative ∧
      UploadsDone env stored (uploads ++ [creative]) state'.1 ∧
      (Accepted env stored uploads creative ∧ state'.2 = state.2 ∨
        ¬ Accepted env stored uploads creative ∧ state'.2 ≠ []) := by
  have hverdict : env.sync.verdict creative
      (state.1.creatives.find (env.sync.creativeKey creative.creativeId)) =
        env.verdict creative (creativeAfter env stored uploads creative.creativeId) := by
    rw [hdone]
    rfl
  have hrow : ∀ (status : CreativeStatus) (format : Option FormatIdentity) (c : String),
      (storeCreative env.sync state.1 creative.creativeId status format).creatives.find
          (env.sync.creativeKey c) =
        if creative.creativeId = c then
          some (env.sync.creativeRow (creativeAfter env stored uploads c) c status format)
        else creativeAfter env stored uploads c := by
    intro status format c
    rw [find_storeCreative, hdone]
  unfold syncCreative at h
  simp only [hverdict] at h
  unfold Answered Accepted
  cases hv : env.verdict creative (creativeAfter env stored uploads creative.creativeId) with
  | accepted status format =>
      rw [hv] at h
      cases h
      refine ⟨by simp, ?_, .inl ⟨⟨status, format, rfl⟩, rfl⟩⟩
      intro c
      rw [hrow, creativeAfter_snoc]
      split
      · next hc =>
          subst hc
          simp [UpdateEnv.uploaded, hv]
      · rfl
  | failed touched =>
      rw [hv] at h
      cases h
      refine ⟨by simp, ?_, .inr ⟨by simp, by simp⟩⟩
      intro c
      rw [creativeAfter_snoc, hdone creative.creativeId]
      by_cases hc : creative.creativeId = c
      · subst hc
        rw [if_pos rfl]
        unfold UpdateEnv.uploaded
        rw [hv]
        cases hold : creativeAfter env stored uploads creative.creativeId with
        | none => rcases touched with _ | ⟨status, format⟩ <;> exact (hdone _).trans hold
        | some e =>
            rcases touched with _ | ⟨status, format⟩
            · exact (hdone _).trans hold
            · simp [hrow, hold]
      · rw [if_neg hc]
        split
        · rw [hrow, if_neg hc]
        · exact hdone c
  | transient err =>
      rw [hv] at h
      cases h

theorem syncCreative_error
    {uploads : List CreativeUpload} {state : BuyRows × List String} {creative : CreativeUpload}
    {err : BuyerError}
    (hdone : UploadsDone env stored uploads state.1)
    (h : syncCreative env.sync state creative = .error err) :
    ¬ Answered env stored uploads creative := by
  unfold syncCreative at h
  simp only [hdone creative.creativeId] at h
  intro hanswered
  cases hv : env.verdict creative (creativeAfter env stored uploads creative.creativeId) with
  | accepted status format =>
      change env.sync.verdict creative _ = _ at hv
      rw [hv] at h
      cases h
  | failed touched =>
      change env.sync.verdict creative _ = _ at hv
      rw [hv] at h
      cases h
  | transient err' => exact hanswered err' hv

theorem syncAll_spec
    {creatives uploads : List CreativeUpload} {state : BuyRows × List String}
    (hdone : UploadsDone env stored uploads state.1) :
    (∃ err, creatives.foldlM (syncCreative env.sync) state = .error err ∧
        ¬ AllPass (Answered env stored) uploads creatives) ∨
      ∃ state', creatives.foldlM (syncCreative env.sync) state = .ok state' ∧
        AllPass (Answered env stored) uploads creatives ∧
        UploadsDone env stored (uploads ++ creatives) state'.1 ∧ state.2 <+: state'.2 ∧
        (AllPass (Accepted env stored) uploads creatives ∧ state'.2 = state.2 ∨
          ¬ AllPass (Accepted env stored) uploads creatives ∧ state'.2 ≠ []) := by
  induction creatives generalizing uploads state with
  | nil =>
      refine .inr ⟨state, rfl, allPass_nil, by simpa using hdone, List.prefix_rfl, ?_⟩
      exact .inl ⟨allPass_nil, rfl⟩
  | cons creative creatives ih =>
      rw [List.foldlM_cons, allPass_cons, allPass_cons]
      cases hstep : syncCreative env.sync state creative with
      | error err =>
          exact .inl ⟨err, rfl, fun h => syncCreative_error hdone hstep h.1⟩
      | ok middle =>
          obtain ⟨hanswered, hmiddle, haccepted⟩ := syncCreative_spec hdone hstep
          have hgrows : state.2 <+: middle.2 := syncCreative_failed hstep
          rcases ih hmiddle with ⟨err, herr, hnot⟩ |
            ⟨state', hok, hall, hdone', hprefix, hfailed⟩
          · exact .inl ⟨err, herr, fun h => hnot h.2⟩
          · refine .inr ⟨state', hok, ⟨hanswered, hall⟩, by simpa using hdone',
              hgrows.trans hprefix, ?_⟩
            rcases haccepted with ⟨hfirst, hsame⟩ | ⟨hfirst, hsome⟩
            · rcases hfailed with ⟨hrest, hsame'⟩ | ⟨hrest, hsome'⟩
              · exact .inl ⟨⟨hfirst, hrest⟩, hsame'.trans hsame⟩
              · exact .inr ⟨fun h => hrest h.2, hsome'⟩
            · refine .inr ⟨fun h => hfirst h.1, ?_⟩
              intro hnil
              rw [hnil] at hprefix
              exact hsome (List.prefix_nil.mp hprefix)

theorem processAssignment_ok_iff
    {uploads : List CreativeUpload} {packageId creativeId : String}
    (hkept : Kept env req stored [] rows)
    (hdone : UploadsDone env stored uploads rows) :
    (∃ rows', processAssignment env.sync packageId [] rows creativeId = .ok rows') ↔
      Placeable env stored uploads packageId creativeId := by
  have hpackage := hkept.findPackage packageId
  unfold processAssignment Placeable
  rw [if_neg (List.not_mem_nil), hdone creativeId]
  cases hcreative : creativeAfter env stored uploads creativeId with
  | none => simp
  | some creative =>
      cases hfound : rows.findPackageWithMediaBuy env.sync.tenantId packageId with
      | none =>
          change rows.findPackageWithMediaBuy env.tenantId packageId = _ at hfound
          rw [hfound] at hpackage
          simp [Option.map_eq_none_iff.mp hpackage.symm]
      | some found =>
          change rows.findPackageWithMediaBuy env.tenantId packageId = _ at hfound
          rw [hfound] at hpackage
          obtain ⟨⟨package, buy⟩, hstored, hsame⟩ := Option.map_eq_some_iff.mp hpackage.symm
          obtain ⟨package', buy'⟩ := found
          simp only [Prod.mk.injEq] at hsame
          have hheld := hkept.held buy'.mediaBuyId packageId creativeId
          simp only [Requested, List.not_mem_nil, false_imp_iff, implies_true, and_true] at hheld
          have hplaced : (∃ package' buy', ∃ creative',
              stored.findPackageWithMediaBuy env.tenantId packageId = some (package', buy') ∧
                some creative = some creative' ∧
                Product.accepts (package'.config.productId.bind env.product) creative'.format ∧
                ¬ HeldByOther env stored buy'.mediaBuyId packageId creativeId) ↔
              Product.accepts (package.config.productId.bind env.product) creative.format ∧
                ¬ HeldByOther env stored buy.mediaBuyId packageId creativeId := by
            simp [hstored]
          rw [hplaced, hsame.1, hsame.2, ← hheld]
          unfold HeldByOther
          simp only [UpdateEnv.sync]
          by_cases haccepts :
              Product.accepts (package'.config.productId.bind env.product) creative.format = true
          · cases hplace : rows.assignments.find
              (env.tenantId, creativeId, buy'.mediaBuyId, packageId) with
            | none => simp [haccepts]
            | some existing =>
                by_cases hown : existing.principalId = env.principalId
                · simp [haccepts, hown]
                · simp [haccepts, hown]
          · simp [haccepts]

theorem kept_processAssignment
    {uploads : List CreativeUpload} {packageId creativeId : String} {rows' : BuyRows}
    (hkept : Kept env req stored [] rows)
    (hdone : UploadsDone env stored uploads rows)
    (h : processAssignment env.sync packageId [] rows creativeId = .ok rows') :
    Kept env req stored [] rows' ∧ UploadsDone env stored uploads rows' := by
  obtain ⟨package, buy, creative, hstored, -, -, hfree⟩ :=
    (processAssignment_ok_iff hkept hdone).mp ⟨rows', h⟩
  rcases processAssignment_cases h with ⟨hfailed, -⟩ | ⟨-, package', buy', hfound, rfl⟩
  · cases hfailed
  · have hpackage := hkept.findPackage packageId
    change rows.findPackageWithMediaBuy env.tenantId packageId = _ at hfound
    rw [hfound, hstored] at hpackage
    simp only [Option.map_some, Option.some.injEq, Prod.mk.injEq] at hpackage
    refine ⟨⟨hkept.packages, hkept.buys, hkept.flight, ?_⟩, hdone⟩
    intro mediaBuyId packageId' creativeId'
    rw [← hkept.held]
    by_cases hkey : (env.sync.standingAssignment buy' packageId creativeId).uniqueKey =
        some (env.tenantId, creativeId', mediaBuyId, packageId')
    · rw [heldByOther_put_self hkey]
      have hkey' := hkey
      simp only [CreativeAssignment.uniqueKey, SyncEnv.standingAssignment, Option.some.injEq,
        Prod.mk.injEq] at hkey'
      obtain ⟨-, rfl, rfl, rfl⟩ := hkey'
      have hnot : ¬ HeldByOther env rows buy'.mediaBuyId packageId creativeId := by
        rw [hkept.held, hpackage.2]
        exact fun hheld => hfree hheld.1
      simp only [hnot, iff_false, not_not]
      rfl
    · exact heldByOther_put_of_ne hkey

theorem kept_foldlM_processAssignment
    {uploads : List CreativeUpload} {packageId : String} {creativeIds : List String}
    (hkept : Kept env req stored [] rows)
    (hdone : UploadsDone env stored uploads rows) :
    ((∃ rows', creativeIds.foldlM (processAssignment env.sync packageId []) rows = .ok rows') ↔
        ∀ c ∈ creativeIds, Placeable env stored uploads packageId c) ∧
      ∀ rows', creativeIds.foldlM (processAssignment env.sync packageId []) rows = .ok rows' →
        Kept env req stored [] rows' ∧ UploadsDone env stored uploads rows' := by
  induction creativeIds generalizing rows with
  | nil =>
      refine ⟨⟨fun _ c hc => absurd hc List.not_mem_nil, fun _ => ⟨rows, rfl⟩⟩, ?_⟩
      intro rows' h
      cases h
      exact ⟨hkept, hdone⟩
  | cons c cs ih =>
      have hfirst := @processAssignment_ok_iff env req stored rows uploads packageId c hkept hdone
      rw [List.foldlM_cons, List.forall_mem_cons, ← hfirst]
      cases hstep : processAssignment env.sync packageId [] rows c with
      | error err =>
          refine ⟨⟨?_, ?_⟩, ?_⟩
          · rintro ⟨rows', h⟩
            cases h
          · rintro ⟨⟨rows', h⟩, -⟩
            cases h
          · intro rows' h
            cases h
      | ok middle =>
          obtain ⟨hkept', hdone'⟩ := kept_processAssignment hkept hdone hstep
          obtain ⟨hrest, hkeeps⟩ := ih hkept' hdone'
          exact ⟨hrest.trans (and_iff_right ⟨middle, rfl⟩).symm, hkeeps⟩

theorem processAssignments_spec
    {uploads : List CreativeUpload} {packageId : String} {creativeIds : List String}
    (hkept : Kept env req stored [] rows)
    (hdone : UploadsDone env stored uploads rows) :
    ((∃ rows', processAssignments env.sync packageId [] creativeIds rows = .ok rows') ↔
        ∀ c ∈ creativeIds, Placeable env stored uploads packageId c) ∧
      ∀ rows', processAssignments env.sync packageId [] creativeIds rows = .ok rows' →
        Kept env req stored [] rows' ∧ UploadsDone env stored uploads rows' := by
  obtain ⟨hiff, hkeeps⟩ :=
    @kept_foldlM_processAssignment env req stored rows uploads packageId creativeIds hkept hdone
  rw [← hiff]
  have hcreatives : ∀ rows', processAssignments env.sync packageId [] creativeIds rows =
      .ok rows' → UploadsDone env stored uploads rows' := by
    intro rows' h c
    rw [processAssignments_creatives h]
    exact hdone c
  cases hassigned : creativeIds.foldlM (processAssignment env.sync packageId []) rows with
  | error err =>
      have herror : processAssignments env.sync packageId [] creativeIds rows = .error err := by
        unfold processAssignments
        rw [hassigned]
        rfl
      rw [herror]
      simp
  | ok assigned =>
      have hok : ∃ rows', processAssignments env.sync packageId [] creativeIds rows = .ok rows' ∧
          Kept env req stored [] rows' := by
        unfold processAssignments
        rw [hassigned]
        simp only [bind, Except.bind, pure, Except.pure]
        split
        · split
          · exact ⟨_, rfl, (hkeeps assigned hassigned).1.markPendingCreatives _ _ _ _⟩
          · exact ⟨_, rfl, (hkeeps assigned hassigned).1⟩
        · exact ⟨_, rfl, (hkeeps assigned hassigned).1⟩
      obtain ⟨rows', hrows', hkept'⟩ := hok
      refine ⟨⟨fun _ => ⟨assigned, rfl⟩, fun _ => ⟨rows', hrows'⟩⟩, ?_⟩
      intro rows'' h
      refine ⟨?_, hcreatives rows'' h⟩
      rw [hrows'] at h
      cases h
      exact hkept'

theorem upload_spec
    {before : List UpdateStep} {pkg : PackageUpdate}
    (hkept : Kept env req stored [] rows)
    (hdone : UploadsDone env stored (uploadsOf before) rows) :
    (((syncCreatives env.sync pkg.creatives pkg.packageId rows).raised = none ∧
          (syncCreatives env.sync pkg.creatives pkg.packageId rows).failed = []) ↔
        (UpdateStep.upload pkg).Passes env req stored before) ∧
      ((syncCreatives env.sync pkg.creatives pkg.packageId rows).raised = none →
        (syncCreatives env.sync pkg.creatives pkg.packageId rows).failed = [] →
          Kept env req stored [] (syncCreatives env.sync pkg.creatives pkg.packageId rows).rows ∧
            UploadsDone env stored (uploadsOf before ++ pkg.creatives)
              (syncCreatives env.sync pkg.creatives pkg.packageId rows).rows) := by
  have hids : ∀ P : String → Prop,
      (∀ c ∈ (pkg.creatives.map (·.creativeId)).filter (fun c => c ≠ ""), P c) ↔
        ∀ creative ∈ pkg.creatives, creative.creativeId ≠ "" → P creative.creativeId := by
    intro P
    simp only [List.mem_filter, List.mem_map, decide_eq_true_eq]
    constructor
    · intro h creative hcreative hne
      exact h _ ⟨⟨creative, hcreative, rfl⟩, hne⟩
    · rintro h c ⟨⟨creative, hcreative, rfl⟩, hne⟩
      exact h creative hcreative hne
  unfold syncCreatives UpdateStep.Passes
  rcases @syncAll_spec env stored pkg.creatives (uploadsOf before) (rows, []) hdone with
    ⟨err, herr, hnot⟩ | ⟨⟨synced, failed⟩, hok, -, hsynced, -, hfailed⟩
  · rw [herr]
    refine ⟨⟨fun h => absurd h.1 (by simp), ?_⟩, fun h => absurd h (by simp)⟩
    rintro ⟨haccepted, -⟩
    refine absurd ?_ hnot
    intro ahead creative behind hsplit
    obtain ⟨status, format, hverdict⟩ := haccepted ahead creative behind hsplit
    intro err' htransient
    rw [hverdict] at htransient
    cases htransient
  · rw [hok]
    simp only
    have hsyncedKept : Kept env req stored [] synced := by
      have hinv : Runs.Preserved (Runs.FoldStep (syncCreative env.sync))
          (fun s => Kept env req stored [] s.1) := by
        intro s c t hstep hs
        exact syncCreative_keeps (fun _ _ _ h => ⟨h.packages, h.buys, h.flight, h.held⟩) hstep hs
      exact (Runs.run_of_foldlM hok).preserves hinv hkept
    rcases hfailed with ⟨haccepted, hnone⟩ | ⟨hrefused, hsome⟩
    · have hnone' : failed = [] := hnone
      subst hnone'
      obtain ⟨hiff, hkeeps⟩ := @processAssignments_spec env req stored synced
        (uploadsOf before ++ pkg.creatives) pkg.packageId
        ((pkg.creatives.map (·.creativeId)).filter (fun c => c ≠ "")) hsyncedKept hsynced
      rw [← hids]
      cases hassigned : processAssignments env.sync pkg.packageId []
        ((pkg.creatives.map (·.creativeId)).filter (fun c => c ≠ "")) synced with
      | error err =>
          rw [hassigned] at hiff
          simp only [reduceCtorEq, false_and, false_iff, not_and, exists_false] at hiff ⊢
          exact ⟨fun _ h => hiff h, fun h => by cases h⟩
      | ok assigned =>
          exact ⟨⟨fun _ => ⟨haccepted, hiff.mp ⟨assigned, hassigned⟩⟩, fun _ => ⟨rfl, rfl⟩⟩,
            fun _ _ => hkeeps assigned hassigned⟩
    · have hsome' : failed ≠ [] := hsome
      cases hassigned : processAssignments env.sync pkg.packageId failed
        ((pkg.creatives.map (·.creativeId)).filter (fun c => c ≠ "")) synced with
      | error err =>
          exact ⟨⟨fun h => absurd h.1 (by simp), fun h => absurd h.1 hrefused⟩,
            fun h => absurd h (by simp)⟩
      | ok assigned =>
          exact ⟨⟨fun h => absurd h.2 hsome', fun h => absurd h.1 hrefused⟩,
            fun _ h => absurd h hsome'⟩

end Uploads

section QuietUploads

variable {env : UpdateEnv} {req : UpdateRequest} {stored rows : BuyRows}

theorem syncAll_of_failsUntouched
    {creatives : List CreativeUpload} {state : BuyRows × List String}
    (h : ∀ creative ∈ creatives, FailsUntouched env state.1 creative) :
    creatives.foldlM (syncCreative env.sync) state =
      .ok (state.1, state.2 ++ creatives.map (·.creativeId)) := by
  induction creatives generalizing state with
  | nil => simp [pure, Except.pure]
  | cons creative creatives ih =>
      obtain ⟨touched, hverdict, huntouched⟩ := h creative List.mem_cons_self
      have hstep : syncCreative env.sync state creative =
          .ok (state.1, state.2 ++ [creative.creativeId]) := by
        change env.sync.verdict creative _ = _ at hverdict
        unfold syncCreative
        simp only [hverdict]
        rcases huntouched with rfl | hnone
        · cases state.1.creatives.find (env.sync.creativeKey creative.creativeId) <;> rfl
        · rw [hnone]
      rw [List.foldlM_cons, hstep]
      have hrest := @ih (state.1, state.2 ++ [creative.creativeId])
        (fun c hc => h c (List.mem_cons_of_mem _ hc))
      simpa [bind, Except.bind] using hrest

theorem failsUntouched_of_syncAll
    {creatives : List CreativeUpload} {state state' : BuyRows × List String}
    (h : creatives.foldlM (syncCreative env.sync) state = .ok state')
    (hfresh : ¬ Stamped env.now state'.1) :
    ∀ creative ∈ creatives, FailsUntouched env state.1 creative := by
  induction creatives generalizing state with
  | nil => exact fun _ hc => absurd hc List.not_mem_nil
  | cons creative creatives ih =>
      obtain ⟨middle, hfirst, hrest⟩ := Runs.foldlM_cons_eq_ok.mp h
      have hmiddle : ¬ Stamped env.now middle.1 := by
        intro hstamped
        exact hfresh (run_syncCreative_keeps keptByUpload_stamped.creative
          (Runs.run_of_foldlM hrest) hstamped)
      have hstored : ∀ (status : CreativeStatus) (format : Option FormatIdentity),
          Stamped env.now (storeCreative env.sync state.1 creative.creativeId status format) := by
        intro status format
        obtain ⟨row, hwritten, hstore⟩ := @storeCreative_written env.sync state.1
          creative.creativeId status format
        rw [hstore]
        exact stamped_put state.1 hwritten
      have hhead : FailsUntouched env state.1 creative ∧ middle.1 = state.1 := by
        unfold syncCreative at hfirst
        simp only at hfirst
        unfold FailsUntouched
        change (∃ touched, env.sync.verdict creative _ = _ ∧ _) ∧ _
        cases hverdict : env.sync.verdict creative
            (state.1.creatives.find (env.sync.creativeKey creative.creativeId)) with
        | accepted status format =>
            rw [hverdict] at hfirst
            cases hfirst
            exact absurd (hstored status format) hmiddle
        | failed touched =>
            rw [hverdict] at hfirst
            cases hfirst
            cases hold : state.1.creatives.find (env.sync.creativeKey creative.creativeId) with
            | none => exact ⟨⟨touched, rfl, .inr rfl⟩, by simp⟩
            | some e =>
                rcases touched with _ | ⟨status, format⟩
                · exact ⟨⟨none, rfl, .inl rfl⟩, by simp⟩
                · simp only [hold] at hmiddle
                  exact absurd (hstored status format) hmiddle
        | transient err =>
            rw [hverdict] at hfirst
            cases hfirst
      intro c hc
      rcases List.mem_cons.mp hc with rfl | htail
      · exact hhead.1
      · rw [← hhead.2]
        exact ih hrest c htail

theorem upload_of_quiet
    {pkg : PackageUpdate}
    (h : (UpdateStep.upload pkg).Quiet env req stored) :
    ((syncCreatives env.sync pkg.creatives pkg.packageId stored).raised ≠ none ∨
        (syncCreatives env.sync pkg.creatives pkg.packageId stored).failed ≠ []) ∧
      (syncCreatives env.sync pkg.creatives pkg.packageId stored).rows = stored := by
  unfold syncCreatives
  rcases h with hanswered | ⟨hne, huntouched⟩
  · rcases @syncAll_spec env stored pkg.creatives [] (stored, []) (fun _ => rfl) with
      ⟨err, herr, -⟩ | ⟨state', -, hall, -⟩
    · rw [herr]
      exact ⟨.inl (by simp), rfl⟩
    · exact absurd hall hanswered
  · rw [@syncAll_of_failsUntouched env pkg.creatives (stored, []) huntouched]
    simp only [List.nil_append]
    have hskips : ∀ ids, (∀ c ∈ ids, c ∈ pkg.creatives.map (·.creativeId)) →
        processAssignments env.sync pkg.packageId (pkg.creatives.map (·.creativeId)) ids stored =
          .ok stored := by
      intro ids hids
      have hfold : ids.foldlM (processAssignment env.sync pkg.packageId
          (pkg.creatives.map (·.creativeId))) stored = .ok stored := by
        induction ids with
        | nil => rfl
        | cons c cs ih =>
            rw [List.foldlM_cons]
            unfold processAssignment
            rw [if_pos (hids c List.mem_cons_self)]
            exact ih (fun d hd => hids d (List.mem_cons_of_mem _ hd))
      have hany : ids.any (fun c => c ∉ pkg.creatives.map (·.creativeId)) = false := by
        simpa using hids
      unfold processAssignments
      rw [hfold]
      simp only [bind, Except.bind, pure, Except.pure, hany]
      split <;> rfl
    rw [hskips _ (fun c hc => (List.mem_filter.mp hc).1)]
    exact ⟨.inr (by simpa using hne), rfl⟩

theorem quiet_of_upload
    {pkg : PackageUpdate}
    (hfresh : ¬ Stamped env.now stored)
    (hfails : (syncCreatives env.sync pkg.creatives pkg.packageId stored).raised ≠ none ∨
      (syncCreatives env.sync pkg.creatives pkg.packageId stored).failed ≠ [])
    (hrows : (syncCreatives env.sync pkg.creatives pkg.packageId stored).rows = stored) :
    (UpdateStep.upload pkg).Quiet env req stored := by
  unfold syncCreatives at hfails hrows
  rcases @syncAll_spec env stored pkg.creatives [] (stored, []) (fun _ => rfl) with
    ⟨err, -, hnot⟩ | ⟨⟨synced, failed⟩, hok, -, -⟩
  · exact .inl hnot
  · rw [hok] at hfails hrows
    simp only at hfails hrows
    have hsynced : ¬ Stamped env.now synced := by
      have hcreatives : synced.creatives = stored.creatives := by
        rw [← hrows]
        split
        · rfl
        · next hassigned => exact (processAssignments_creatives hassigned).symm
      unfold Stamped
      rw [hcreatives]
      exact hfresh
    refine .inr ⟨?_, @failsUntouched_of_syncAll env pkg.creatives (stored, []) _ hok hsynced⟩
    intro hnil
    rw [hnil] at hok hfails
    cases hok
    have hempty : processAssignments env.sync pkg.packageId [] [] stored = .ok stored := by
      unfold processAssignments
      cases stored.findPackageWithMediaBuy env.sync.tenantId pkg.packageId <;> rfl
    simp only [List.map_nil, List.filter_nil, hempty, ne_eq, not_true_eq_false, or_self] at hfails

end QuietUploads

/-! ### The forecast -/

/-- The worlds that the steps ahead lead to when all of them pass. -/
structure Reached
    (env : UpdateEnv)
    (req : UpdateRequest)
    (stored : BuyRows)
    (before : List UpdateStep)
    (world : World BuyRows OutsideCall) : Prop where
  calls : world.log.length = callsOf before
  first : world.log = [] → world.committed = stored ∧ uploadsOf before = []
  committed : Kept env req stored [] world.committed
  uploads : UploadsDone env stored (uploadsOf before) world.committed
  pending : ∀ rows, Kept env req stored [] rows →
    Kept env req stored before (world.pending.foldl (fun r f => f r) rows)
  creatives : ∀ f ∈ world.pending, ∀ rows, (f rows).creatives = rows.creatives

section Forecasts

variable {env : UpdateEnv} {req : UpdateRequest} {stored : BuyRows}
  {before : List UpdateStep} {world : World BuyRows OutsideCall} {step : UpdateStep}

theorem reached_start :
    Reached env req stored [] (World.start stored) where
  calls := rfl
  first := fun _ => ⟨rfl, rfl⟩
  committed := .start
  uploads := fun _ => rfl
  pending := fun _ h => h
  creatives := fun _ h => absurd h List.not_mem_nil

theorem Reached.view
    (h : Reached env req stored before world) :
    Kept env req stored before world.view ∧
      UploadsDone env stored (uploadsOf before) world.view := by
  refine ⟨h.pending _ h.committed, ?_⟩
  have hsame : world.view.creatives = world.committed.creatives :=
    @World.view_of_keeps _ _ world (fun r => r.creatives = world.committed.creatives)
      (fun f hf rows hrows => (h.creatives f hf rows).trans hrows) rfl
  intro c
  rw [hsame]
  exact h.uploads c

/-- A write of the tool that passes leads on. -/
theorem Reached.write
    {write : BuyRows → BuyRows → BuyRows}
    (h : Reached env req stored before world)
    (hcall : step.isCall = false)
    (huploads : step.uploads = [])
    (hkeeps : ∀ seen rows, Kept env req stored before seen → Kept env req stored before rows →
      Kept env req stored (before ++ [step]) (write seen rows))
    (hcreatives : ∀ seen rows, (write seen rows).creatives = rows.creatives) :
    Reached env req stored (before ++ [step]) (world.write (write world.view)) where
  calls := by
    rw [World.log_write, h.calls]
    simp [callsOf, hcall]
  first := by
    intro hlog
    obtain ⟨hcommitted, hnone⟩ := h.first hlog
    exact ⟨hcommitted, by simpa [uploadsOf, huploads] using hnone⟩
  committed := h.committed
  uploads := by
    have hsame : uploadsOf (before ++ [step]) = uploadsOf before := by
      simp [uploadsOf, huploads]
    rw [hsame]
    exact h.uploads
  pending := by
    intro rows hrows
    unfold World.write
    rw [List.foldl_append]
    exact hkeeps _ _ h.view.1 (h.pending rows hrows)
  creatives := by
    intro f hf rows
    rcases List.mem_append.mp hf with hold | hnew
    · exact h.creatives f hold rows
    · rw [List.mem_singleton.mp hnew]
      exact hcreatives _ rows

/-- A call that passes leads on. -/
theorem Reached.called
    {call : Nat → BuyRows → Answer BuyRows OutsideCall BuyerError}
    (h : Reached env req stored before world)
    (hcall : step.isCall = true)
    (hreplaces : step.replaces = none)
    (hcommitted : Kept env req stored [] (world.answer call).rows)
    (huploads : UploadsDone env stored (uploadsOf before ++ step.uploads) (world.answer call).rows) :
    Reached env req stored (before ++ [step]) (world.called call) where
  calls := by
    rw [World.log_called, List.length_append, h.calls]
    simp [callsOf, hcall]
  first := by
    intro hlog
    simp at hlog
  committed := hcommitted
  uploads := by
    have hsame : uploadsOf (before ++ [step]) = uploadsOf before ++ step.uploads := by
      simp [uploadsOf]
    rw [hsame]
    exact huploads
  pending := fun rows hrows => (h.pending rows hrows).snoc hreplaces
  creatives := h.creatives

theorem packageIdError_eq_none_iff
    (index : Nat)
    (pkg : PackageUpdate) :
    packageIdError index pkg = none ↔ pkg.packageId ≠ "" := by
  unfold packageIdError
  split
  · next hempty => simp [hempty]
  · next hne => simp [hne]

theorem Reached.check
    (h : Reached env req stored before world)
    (hcall : step.isCall = false)
    (huploads : step.uploads = [])
    (hreplaces : step.replaces = none) :
    Reached env req stored (before ++ [step]) (world.write id) :=
  @Reached.write env req stored before world step (fun _ => id) h hcall huploads
    (fun _ _ _ hrows => hrows.snoc hreplaces) (fun _ _ => rfl)

/-- The step writes the dates. -/
def UpdateStep.isDates : UpdateStep → Bool
  | .dates => true
  | _ => false

theorem dates_not_mem_before
    {behind : List UpdateStep}
    (h : updateSteps req = before ++ .dates :: behind) :
    UpdateStep.dates ∉ before := by
  have hpackages : (req.packages.zipIdx.flatMap fun entry =>
      packageSteps entry.2 entry.1).countP UpdateStep.isDates = 0 := by
    refine List.countP_eq_zero.mpr ?_
    intro s hs hdates
    obtain ⟨⟨pkg, index⟩, -, hin⟩ := List.mem_flatMap.mp hs
    cases s with
    | dates => simp [packageSteps] at hin
    | _ => cases hdates
  have hcount : (updateSteps req).countP UpdateStep.isDates ≤ 1 := by
    unfold updateSteps
    split
    · simp [UpdateStep.isDates]
    · rw [List.countP_append, List.countP_append, hpackages]
      split <;> simp [UpdateStep.isDates]
  rw [h, List.countP_append, List.countP_cons_of_pos rfl] at hcount
  intro hmem
  have hpos : 0 < before.countP UpdateStep.isDates := List.countP_pos_iff.mpr ⟨_, hmem, rfl⟩
  omega

/-- A check or write of the tool passes as foretold, and leads on. -/
theorem inside_forecast
    {behind : List UpdateStep}
    {refuses : BuyRows → Option BuyerError} {write : BuyRows → BuyRows → BuyRows}
    (hbuy : (stored.getById env.tenantId req.mediaBuyId).isSome)
    (hplan : updateSteps req = before ++ step :: behind)
    (h : Reached env req stored before world)
    (hact : step.act env req = .inside refuses write) :
    (refuses world.view = none ↔ step.Passes env req stored before) ∧
      (step.Passes env req stored before →
        Reached env req stored (before ++ [step]) (world.write (write world.view))) := by
  obtain ⟨hview, hcreatives⟩ := h.view
  have hfound := hview.mediaBuyError hbuy
  cases step with
  | adapter action packageId amount => cases hact
  | upload pkg => cases hact
  | isPaused paused =>
      cases hact
      refine ⟨by simp [UpdateStep.Passes], fun _ => h.write rfl rfl ?_ (fun _ _ => rfl)⟩
      intro seen rows _ hrows
      exact (hrows.snoc rfl).modifyBuy (MediaBuy.terms_updateFields _ _)
        (fun _ => MediaBuy.flight_updateFields rfl rfl _) _ _
  | budget index pkg amount =>
      cases hact
      refine ⟨?_, fun _ => h.check rfl rfl rfl⟩
      simp only [UpdateStep.Passes, Option.orElse_eq_orElse, Option.orElse_eq_or,
        Option.or_eq_none_iff, packageIdError_eq_none_iff, hview.budgetError, hview.packageError]
  | creativeIds index pkg requested =>
      cases hact
      refine ⟨?_, fun _ => h.write rfl rfl ?_ ?_⟩
      · simp only [UpdateStep.Passes, Option.orElse_eq_orElse, Option.orElse_eq_or,
          Option.or_eq_none_iff, packageIdError_eq_none_iff, hfound, true_and,
          hview.validateCreatives hcreatives]
      · intro seen rows hseen hrows
        refine kept_replaceAssignments ?_ hseen hrows
        simp [UpdateStep.replaces, Function.comp_def]
      · exact replaceAssignments_creatives pkg _
  | creatives index pkg =>
      cases hact
      exact ⟨packageIdError_eq_none_iff index pkg, fun _ => h.check rfl rfl rfl⟩
  | creativeAssignments index pkg =>
      cases hact
      refine ⟨?_, fun _ => h.write rfl rfl ?_ ?_⟩
      · simp only [UpdateStep.Passes, Option.orElse_eq_orElse, Option.orElse_eq_or,
          Option.or_eq_none_iff, packageIdError_eq_none_iff, hfound, true_and,
          hview.validateCreatives hcreatives, hview.placementError,
          assignmentConflict_eq_none_iff, List.forall_mem_map, hview.held, not_and,
          forall_const]
      · intro seen rows hseen hrows
        exact kept_replaceAssignments rfl hseen hrows
      · exact replaceAssignments_creatives pkg _
  | targeting index pkg overlay =>
      cases hact
      refine ⟨?_, fun _ => h.write rfl rfl ?_ ?_⟩
      · simp only [UpdateStep.Passes, Option.orElse_eq_orElse, Option.orElse_eq_or,
          Option.or_eq_none_iff, packageIdError_eq_none_iff, hview.packageError]
      · intro seen rows hseen hrows
        exact (hseen.writeTargeting hrows pkg.packageId overlay).snoc rfl
      · intro seen rows
        unfold writeTargeting
        split <;> rfl
  | dates =>
      cases hact
      refine ⟨?_, fun _ => h.write rfl rfl ?_ (fun _ _ => rfl)⟩
      · simp only [UpdateStep.Passes, hview.datesError (dates_not_mem_before hplan)]
      · intro seen rows _ hrows
        exact (hrows.snoc rfl).modifyBuy (MediaBuy.terms_updateFields _ _)
          (fun hnot => absurd (by simp) hnot) _ _
  | response =>
      cases hact
      exact ⟨by simp [UpdateStep.Passes, hfound], fun _ => h.check rfl rfl rfl⟩

/-- A call passes as foretold, and leads on. -/
theorem outside_forecast
    {call : Nat → BuyRows → Answer BuyRows OutsideCall BuyerError}
    (h : Reached env req stored before world)
    (hact : step.act env req = .outside call) :
    ((world.answer call).raised = none ↔ step.Passes env req stored before) ∧
      (step.Passes env req stored before →
        Reached env req stored (before ++ [step]) (world.called call)) := by
  cases step with
  | adapter action packageId amount =>
      cases hact
      refine ⟨by simp only [World.answer, UpdateStep.Passes, h.calls], fun _ => ?_⟩
      refine h.called rfl rfl (h.committed.commit _ _) ?_
      simp only [UpdateStep.uploads, List.append_nil]
      intro c
      simp only [World.answer, commit_creatives]
      exact h.uploads c
  | upload pkg =>
      cases hact
      obtain ⟨hiff, hkeeps⟩ := @upload_spec env req stored world.committed before pkg
        h.committed h.uploads
      have hraised : (world.answer fun _ rows =>
          let result := syncCreatives env.sync pkg.creatives pkg.packageId rows
          (⟨.upload pkg.packageId pkg.creatives, result.rows,
            result.raised <|> if result.failed.isEmpty then none
              else some ⟨.serviceUnavailable, none⟩⟩ :
            Answer BuyRows OutsideCall BuyerError)).raised = none ↔
          (UpdateStep.upload pkg).Passes env req stored before := by
        rw [← hiff]
        simp [World.answer, Option.or_eq_none_iff]
      refine ⟨hraised, fun hpass => ?_⟩
      obtain ⟨hnone, hfailed⟩ := hiff.mpr hpass
      exact h.called rfl rfl (hkeeps hnone hfailed).1 (hkeeps hnone hfailed).2
  | _ => cases hact

/-- Every step of an update does what the plan of the request tells. -/
theorem update_forecast
    (hbuy : (stored.getById env.tenantId req.mediaBuyId).isSome) :
    Forecast (·.act env req) (updateSteps req) (fun before step =>
      step.Passes env req stored before) (Reached env req stored) where
  inside := inside_forecast hbuy
  outside := fun _ => outside_forecast

end Forecasts

end MediaBuys
end SalesAgent
