import SalesAgent.Lib.Runs
import SalesAgent.MediaBuy.Create
import SalesAgent.MediaBuy.UpdateApplied

/-!
# The daily-spend ceiling of a media buy

A create and an update compare package budgets with the ceiling of the currency
times the days of the flight.  Both look at the budgets of their request only: an
update that moves the flight leaves the stored budgets of the other packages
unread, and the budget column of every package.  A start at once is checked at one
reading of the clock and written at a later one.

**Results.**
* `createMediaBuy_ceiling`: a create stores budgets under the ceiling.
* `updateMediaBuy_ceiling`: so does an update whose unread budgets pass the check.
* `dailyCeiling_of_run`: the ceiling holds along every run of such updates.
-/

namespace SalesAgent
namespace MediaBuys

open Runs UnitOfWork

/-- The amounts stored of a package: the column and the JSON. -/
def MediaPackage.amounts
    (p : MediaPackage) : List Decimal :=
  p.budget.toList ++ (p.config.budget.map ConfigBudget.amount).toList

theorem mem_amounts
    {p : MediaPackage} {x : Decimal} :
    x ∈ p.amounts ↔ x ∈ p.budget ∨ ∃ budget ∈ p.config.budget, budget.amount = x := by
  simp [MediaPackage.amounts]

/-- The currency and the flight of a buy. -/
structure MediaBuy.Flies
    (b : MediaBuy)
    (currency : String)
    (s e : DateTime) : Prop where
  startTime : b.startTime = some s
  endTime : b.endTime = some e
  currency : b.requestCurrency = currency

/-- The buy of the tenant has the currency and the flight. -/
def FliesFor
    (tenantId mediaBuyId currency : String)
    (s e : DateTime)
    (rows : BuyRows) : Prop :=
  rows.HasBuy tenantId mediaBuyId (fun b => b.Flies currency s e)

/-- Every stored amount of the buy stays under the ceiling over the stored flight. -/
def DailyCeiling
    (tenantId mediaBuyId currency : String)
    (maxDaily : Decimal)
    (rows : BuyRows) : Prop :=
  ∃ s e, FliesFor tenantId mediaBuyId currency s e rows ∧
    ∀ packageId p, rows.packages.find (mediaBuyId, packageId) = some p →
      ∀ x ∈ p.amounts, x ≤ maxDaily * flightDays s e

section Conditions

variable (env : UpdateEnv) (req : UpdateRequest)

/-- The start an update leaves behind. -/
def writtenStart
    (s : DateTime) : DateTime :=
  (requestedDates env req).startTime.getD s

/-- The end an update leaves behind. -/
def writtenEnd
    (e : DateTime) : DateTime :=
  (requestedDates env req).endTime.getD e

/-- A budget of the request takes the place of the one in the JSON: the adapter stores
what it accepts, and no earlier entry writes the JSON back. -/
def Rebudgets
    (packageId : String) : Prop :=
  (∀ n budget affected stores,
      env.adapter.updateMediaBuy n
          ⟨req.mediaBuyId, .updatePackageBudget, some packageId, some budget⟩ =
        .returned affected stores → stores = true) ∧
    ∃ before pkg behind, req.packages = before ++ pkg :: behind ∧ pkg.packageId = packageId ∧
      pkg.budget.isSome ∧ ∀ q ∈ before, q.packageId = packageId → q.targetingOverlay = none

/-- What the daily check of an update leaves out passes it, for the flight the update
leaves behind: the columns, the JSON budgets that are not replaced, and the requested
budgets where the clock decides the start. -/
def UnreadBudgetsPass
    (maxDaily : Decimal)
    (rows : BuyRows) : Prop :=
  req.paused = none → ∀ b s e, rows.getById env.tenantId req.mediaBuyId = some b →
    b.startTime = some s → b.endTime = some e →
    (∀ packageId p, rows.packages.find (req.mediaBuyId, packageId) = some p →
      (∀ x ∈ p.budget, x ≤ maxDaily * flightDays (writtenStart env req s) (writtenEnd env req e)) ∧
      (¬ Rebudgets env req packageId → ∀ x ∈ p.config.budget,
        x.amount ≤ maxDaily * flightDays (writtenStart env req s) (writtenEnd env req e))) ∧
    (req.startTime = some .asap → ∀ pkg ∈ req.packages, ∀ x ∈ pkg.budget,
      (x.truncate : ℚ) ≤
        maxDaily * flightDays (writtenStart env req s) (writtenEnd env req e))

end Conditions

section Create

variable {env : CreateEnv} {req : CreateRequest} {store : Store} {ids : GeneratedIds store}

theorem budget_le_of_createGate
    {limit : CurrencyLimit} {maxDaily : Decimal}
    (hgate : createGate env req = none)
    (hlimit : env.currencyLimit (campaignCurrency env req) = some limit)
    (hmax : CurrencyLimit.truthy limit.maxDailyPackageSpend = some maxDaily)
    {pkg : PackageRequest} (hpkg : pkg ∈ req.packages)
    {x : Decimal} (hx : pkg.budget = some x)
    (hne : x ≠ 0) :
    x ≤ maxDaily * flightDays (requestedStart env req) (requestedEnd env req) := by
  simp only [createGate, Option.orElse_eq_orElse, Option.orElse_eq_or,
    Option.or_eq_none_iff] at hgate
  obtain ⟨-, -, -, -, -, -, -, hdaily, -⟩ := hgate
  unfold createDailySpendGate at hdaily
  rw [hlimit] at hdaily
  simp only [hmax] at hdaily
  split at hdaily
  · cases hdaily
  · next hnone =>
      refine (validateMaxDailyPackageSpend_eq_false_iff (flightDays_pos _ _)).mp ?_
      by_contra hobjects
      refine hnone (List.any_eq_true.mpr ⟨pkg, hpkg, ?_⟩)
      rw [hx]
      simpa [hne] using hobjects

/-- What a create books stays under the ceiling. -/
theorem booked_ceiling
    {b : NewBuy} {row : MediaBuy} {packages : List MediaPackage} {status : WorkflowStepStatus}
    {after : Store} {maxDaily : Decimal}
    (hbooked : Booked env ids row packages status after)
    (hrow : InsertedAs b row)
    (howned : ∀ p ∈ packages, ∀ x ∈ p.amounts,
      x ≤ maxDaily * flightDays b.startTime b.endTime)
    (hcurrency : b.currency = some (campaignCurrency env req)) :
    DailyCeiling b.tenantId row.mediaBuyId (campaignCurrency env req) maxDaily
      after.toBuyRows := by
  refine ⟨b.startTime, b.endTime, ⟨row, ?_, hrow.startTime, hrow.endTime, ?_⟩, ?_⟩
  · unfold BuyRows.getById
    rw [hbooked.mediaBuy]
    simp [Option.filter, hrow.tenantId]
  · have hnonempty : campaignCurrency env req ≠ "" := by
      unfold campaignCurrency
      split
      · split
        · decide
        · assumption
      · decide
    unfold MediaBuy.requestCurrency
    rw [hrow.currency, hcurrency]
    simp [hnonempty]
  · intro packageId p hp
    obtain ⟨hmem, hkey⟩ := (IndexedTable.find_eq_some_iff _).mp hp
    have hid : p.mediaBuyId = row.mediaBuyId := by
      simp only [MediaPackage.primaryKey, Option.some.injEq, Prod.mk.injEq] at hkey
      exact hkey.1
    rcases (hbooked.mem_packages p).mp hmem with hnew | hold
    · exact howned p hnew
    · -- the buy is new, so no package that was stored before names it
      have howner := store.packagesOwned p hold
      rw [hid, hbooked.unbooked] at howner
      cases howner

/-- A create that maps its step to a buy stores it under the ceiling. -/
theorem createMediaBuy_ceiling
    {limit : CurrencyLimit} {maxDaily : Decimal} {mediaBuyId : String}
    (haccepted : ∀ err, (createMediaBuy env req ids).reply ≠ .failed err)
    (hlimit : env.currencyLimit (campaignCurrency env req) = some limit)
    (hmax : CurrencyLimit.truthy limit.maxDailyPackageSpend = some maxDaily)
    (hbuy : createMapping ids mediaBuyId ∈ (createMediaBuy env req ids).store.mappings) :
    DailyCeiling env.tenantId mediaBuyId (campaignCurrency env req) maxDaily
      (createMediaBuy env req ids).store.toBuyRows := by
  have hunmapped : createMapping ids mediaBuyId ∉ store.mappings :=
    fun hold => ids.stepId_unmapped _ hold rfl
  have hnamed : ∀ {row : MediaBuy} {packages : List MediaPackage} {status : WorkflowStepStatus}
      {after : Store}, Booked env ids row packages status after →
      createMapping ids mediaBuyId ∈ after.mappings → mediaBuyId = row.mediaBuyId := by
    intro row packages status after hbooked hmem
    rw [hbooked.mappings] at hmem
    rcases List.mem_append.mp hmem with hold | hnew
    · exact absurd hold hunmapped
    · exact congrArg ObjectWorkflowMapping.objectId (List.mem_singleton.mp hnew)
  obtain ⟨hgate, haccepted⟩ := createMediaBuy_accepted haccepted
  generalize createMediaBuy env req ids = outcome at hbuy haccepted
  cases haccepted with
  | @pending packages rows after _ hupload hbooked =>
      rw [hnamed hbooked hbuy]
      refine booked_ceiling hbooked (NewBuy.manualRow_inserted _ _) ?_ rfl
      intro p hp x hx
      obtain ⟨named, hnames, rfl⟩ := List.mem_map.mp hp
      cases hbudget : named.1.budget with
      | none => simp [MediaPackage.amounts, pendingPackage, hbudget] at hx
      | some budget =>
          have hcents : budget.toCents > 0 := by
            refine hbooked.columns_pos _ hp _ ?_
            simp [pendingPackage, hbudget]
          have hne : budget ≠ 0 := by
            rintro rfl
            norm_num [Decimal.toCents] at hcents
          obtain ⟨pkg, hpkg, hsame⟩ : ∃ pkg ∈ req.packages, UploadedAs pkg named.1 := by
            obtain ⟨⟨updated, index⟩, hzip, hname⟩ := List.mem_map.mp hnames
            have hmem : updated ∈ packages := List.fst_mem_of_mem_zipIdx hzip
            obtain ⟨i, hi, rfl⟩ := List.mem_iff_getElem.mp hmem
            have hsame := uploadCreatives_ok hupload
            have hlength := hsame.length_eq
            refine ⟨req.packages[i], List.getElem_mem _, ?_⟩
            rw [← hname]
            exact hsame.get (by omega) hi
          have hrequested : pkg.budget = some budget := by
            obtain ⟨creativeIds, hupdated⟩ := hsame
            rw [hupdated] at hbudget
            exact hbudget
          have hle := budget_le_of_createGate hgate hlimit hmax hpkg hrequested hne
          have hmaxCents : maxDaily.IsCents := by
            refine limit.maxDaily_isCents maxDaily ?_
            exact (Option.filter_eq_some_iff.mp hmax).1
          simp only [MediaPackage.amounts, pendingPackage, hbudget, Option.map_some,
            Option.toList_some, List.cons_append, List.nil_append, List.mem_cons,
            List.not_mem_nil, or_false, ConfigBudget.amount] at hx
          rcases hx with rfl | rfl
          · exact Decimal.toCents_le (hmaxCents.mul_days _) hle
          · exact hle
  | configured _ _ hstep =>
      rw [hstep.mappings] at hbuy
      exact absurd hbuy hunmapped
  | ordered _ _ hbooked =>
      rw [hnamed hbooked hbuy]
      refine booked_ceiling hbooked (NewBuy.syncRow_inserted _ _) ?_ rfl
      intro p hp x hx
      obtain ⟨answered, -, rfl⟩ := List.mem_map.mp hp
      simp [MediaPackage.amounts, orderedPackage] at hx

end Create

section Update

variable {env : UpdateEnv} {req : UpdateRequest} {rows : BuyRows} {currency : String}
  {s e : DateTime}

/-- The JSON budget of a package stays under a bound. -/
def ConfigUnder
    (mediaBuyId packageId : String)
    (bound : Decimal)
    (rows : BuyRows) : Prop :=
  ∀ p, rows.packages.find (mediaBuyId, packageId) = some p → ∀ x ∈ p.config.budget,
    x.amount ≤ bound

theorem configUnder_modifyConfig
    {mediaBuyId packageId packageId' : String} {bound : Decimal}
    {change : PackageConfig → PackageConfig}
    (hrows : ConfigUnder mediaBuyId packageId bound rows)
    (hchange : packageId = packageId' → ∀ c, ∀ x ∈ (change c).budget, x.amount ≤ bound) :
    ConfigUnder mediaBuyId packageId bound (rows.modifyConfig mediaBuyId packageId' change) := by
  intro p hp x hx
  by_cases hid : packageId = packageId'
  · subst hid
    rw [BuyRows.find_modifyConfig] at hp
    obtain ⟨q, -, rfl⟩ := Option.map_eq_some_iff.mp hp
    exact hchange rfl q.config x hx
  · rw [BuyRows.find_modifyConfig_of_ne _ _ (by simp [hid])] at hp
    exact hrows p hp x hx

theorem configUnder_write
    {write : BuyRows → BuyRows → BuyRows}
    (hwrite : Writes env req write)
    {packageId : String} {bound : Decimal} {seen : BuyRows}
    (hseen : ConfigUnder req.mediaBuyId packageId bound seen)
    (hrows : ConfigUnder req.mediaBuyId packageId bound rows) :
    ConfigUnder req.mediaBuyId packageId bound (write seen rows) := by
  cases hwrite with
  | none => exact hrows
  | assignments pkg requested =>
      unfold ConfigUnder
      rw [replaceAssignments_packages]
      exact hrows
  | @targeting pkg overlay _ _ =>
      unfold writeTargeting
      cases hfound : seen.packages.find (req.mediaBuyId, pkg.packageId) with
      | none => exact hrows
      | some package =>
          refine configUnder_modifyConfig hrows ?_
          rintro rfl c x hx
          exact hseen package hfound x hx
  | fields updates => exact hrows

/-- The requested budgets, as an adapter is given them, stay under the bound. -/
def RequestedUnder
    (req : UpdateRequest)
    (bound : Decimal) : Prop :=
  req.paused = none → ∀ pkg ∈ req.packages, ∀ x ∈ pkg.budget, (x.truncate : ℚ) ≤ bound

/-- An adapter stores a budget it was given. -/
theorem configUnder_commit
    {mediaBuyId packageId : String} {bound : Decimal} {call : AdapterCall}
    (hbudget : ∀ n ∈ call.budget, (n : ℚ) ≤ bound)
    (answer : AdapterAnswer)
    (hrows : ConfigUnder mediaBuyId packageId bound rows) :
    ConfigUnder mediaBuyId packageId bound (answer.commit call rows) := by
  obtain ⟨mediaBuyId', action, packageId', budget⟩ := call
  rcases answer with ⟨affected, _ | _⟩ | ⟨err, mutated⟩
  · exact hrows
  · rcases packageId' with _ | packageId'
    · exact hrows
    · rcases budget with _ | n
      · exact hrows
      · intro p hp x hx
        simp only [AdapterAnswer.commit] at hp
        by_cases hkey : (mediaBuyId, packageId) = (mediaBuyId', packageId')
        · rw [hkey, BuyRows.find_modifyConfig] at hp
          obtain ⟨q, -, rfl⟩ := Option.map_eq_some_iff.mp hp
          cases hx
          exact hbudget n rfl
        · rw [BuyRows.find_modifyConfig_of_ne _ _ hkey] at hp
          exact hrows p hp x hx
  · exact hrows

theorem configUnder_call
    {packageId : String} {bound : Decimal}
    (hrequested : RequestedUnder req bound)
    {call : Nat → BuyRows → Answer BuyRows OutsideCall BuyerError}
    (hcall : Act.outside call ∈ applyActs env req)
    (n : Nat)
    (hrows : ConfigUnder req.mediaBuyId packageId bound rows) :
    ConfigUnder req.mediaBuyId packageId bound (call n rows).rows := by
  rcases outside_mem_applyActs hcall with ⟨action, packageId', budget, hasks, hact⟩ |
    ⟨pkg, -, -, hact⟩
  · cases hact
    refine configUnder_commit ?_ _ hrows
    intro k hk
    cases hasks with
    | mediaBuy => cases hk
    | paused => cases hk
    | @budget pkg requested hnone hpkg hbudget =>
        cases hk
        exact hrequested hnone pkg hpkg requested hbudget
  · cases hact
    unfold ConfigUnder
    rw [syncCreatives_packages]
    exact hrows

theorem configUnder_block
    {packageId : String} {bound : Decimal}
    (hrequested : RequestedUnder req bound)
    (hpass : (block (applyActs env req) rows).raised = none)
    (hrows : ConfigUnder req.mediaBuyId packageId bound rows) :
    ConfigUnder req.mediaBuyId packageId bound (block (applyActs env req) rows).rows := by
  refine block_keeps ?_ ?_ hpass hrows
  · intro refuses write hact seen r hseen hr
    exact configUnder_write (inside_mem_applyActs hact) hseen hr
  · intro call hcall n r hr
    exact configUnder_call hrequested hcall n hr

theorem exists_acts_around
    {before behind : List PackageUpdate} {pkg : PackageUpdate}
    {first last : List UpdateAct} {act : UpdateAct}
    (hnone : req.paused = none)
    (hpackages : req.packages = before ++ pkg :: behind)
    (hsplit : budgetActs env req before.length pkg = first ++ act :: last) :
    ∃ post, applyActs env req =
      (before.zipIdx.flatMap (fun (q, index) => packageActs env req index q) ++
        (pausedActs env req pkg ++ first)) ++ act :: post := by
  unfold applyActs
  rw [hnone, hpackages, List.zipIdx_append, List.flatMap_append, List.zipIdx_cons,
    List.flatMap_cons]
  simp only [packageActs, Nat.zero_add, hsplit, List.append_assoc, List.cons_append]
  exact ⟨_, rfl⟩

theorem configUnder_of_rebudgets
    {packageId : String} {bound : Decimal}
    (hnone : req.paused = none)
    (hrebudgets : Rebudgets env req packageId)
    (hrequested : RequestedUnder req bound)
    (hpass : (block (applyActs env req) rows).raised = none) :
    ConfigUnder req.mediaBuyId packageId bound (block (applyActs env req) rows).rows := by
  obtain ⟨hstores, before, pkg, behind, hpackages, rfl, hbudget, hoverlay⟩ := hrebudgets
  obtain ⟨budget, hbudget⟩ := Option.isSome_iff_exists.mp hbudget
  have hpkg : pkg ∈ req.packages := by simp [hpackages]
  obtain ⟨first, last, hsplit⟩ : ∃ first last, budgetActs env req before.length pkg =
      first ++ adapterAct env req .updatePackageBudget (some pkg.packageId)
        (some budget.truncate) :: last :=
    List.append_of_mem (by simp [budgetActs, hbudget])
  obtain ⟨post, hacts⟩ := exists_acts_around hnone hpackages hsplit
  have hmem : ∀ act ∈ post, act ∈ applyActs env req := by
    intro act hact
    rw [hacts]
    exact List.mem_append_right _ (List.mem_cons_of_mem _ hact)
  refine block_of_call hacts ?_ ?_ ?_ ?_ hpass
  · intro w hw seen r hr
    obtain ⟨refuses, hact⟩ := mem_writes.mp hw
    simp only [List.mem_append] at hact
    rcases hact with hearlier | hpaused | hfirst
    · obtain ⟨⟨q, index⟩, hq, hact⟩ := List.mem_flatMap.mp hearlier
      cases inside_mem_packageActs hact with
      | none => exact hr
      | assignments requested =>
          unfold ConfigUnder
          rw [replaceAssignments_packages]
          exact hr
      | @targeting overlay hsome =>
          have hother : pkg.packageId ≠ q.packageId := by
            intro hsame
            rw [hoverlay q (List.fst_mem_of_mem_zipIdx hq) hsame.symm] at hsome
            cases hsome
          unfold writeTargeting
          split
          · exact hr
          · exact configUnder_modifyConfig hr (fun hsame => absurd hsame hother)
    · unfold pausedActs at hpaused
      split at hpaused
      · cases hpaused
      · cases List.mem_singleton.mp hpaused
    · have hbudgetAct : Act.inside refuses w ∈ budgetActs env req before.length pkg := by
        rw [hsplit]
        exact List.mem_append_left _ hfirst
      unfold budgetActs at hbudgetAct
      rw [hbudget] at hbudgetAct
      simp only [Act.check, adapterAct, List.mem_cons, reduceCtorEq, Act.inside.injEq,
        List.not_mem_nil, or_false] at hbudgetAct
      rw [hbudgetAct.2]
      exact hr
  · intro n r hreturned
    simp only at hreturned ⊢
    cases hanswer : env.adapter.updateMediaBuy n
        ⟨req.mediaBuyId, .updatePackageBudget, some pkg.packageId, some budget.truncate⟩ with
    | raised err mutated =>
        rw [hanswer] at hreturned
        cases hreturned
    | returned affected stores =>
        rw [hstores n budget.truncate affected stores hanswer]
        intro p hp x hx
        simp only [AdapterAnswer.commit] at hp
        rw [BuyRows.find_modifyConfig] at hp
        obtain ⟨q, -, rfl⟩ := Option.map_eq_some_iff.mp hp
        cases hx
        exact hrequested hnone pkg hpkg budget hbudget
  · intro refuses write hact seen r hseen hr
    exact configUnder_write (inside_mem_applyActs (hmem _ hact)) hseen hr
  · intro call hcall n r hr
    exact configUnder_call hrequested (hmem _ hcall) n hr

theorem MediaBuy.Flies.updateStatus
    {b : MediaBuy}
    (h : b.Flies currency s e)
    (status : PersistedMediaBuyStatus)
    (now : DateTime) :
    (b.updateStatus status now).Flies currency s e := by
  unfold MediaBuy.updateStatus
  rw [MediaBuy.stamp_uncommitted]
  exact ⟨h.startTime, h.endTime, h.currency⟩

theorem MediaBuy.Flies.updateFields
    {b : MediaBuy}
    (h : b.Flies currency s e)
    (updates : MediaBuy.FieldUpdates)
    (now : DateTime) :
    (b.updateFields updates now).Flies currency (updates.startTime.getD s)
      (updates.endTime.getD e) := by
  unfold MediaBuy.updateFields
  rw [MediaBuy.stamp_uncommitted]
  refine ⟨?_, ?_, h.currency⟩
  · simp only [MediaBuy.bumpRevision, h.startTime]
    cases updates.startTime <;> rfl
  · simp only [MediaBuy.bumpRevision, h.endTime]
    cases updates.endTime <;> rfl

/-- The writes of a package entry keep the flight. -/
theorem flies_packageWrite
    {pkg : PackageUpdate} {write : BuyRows → BuyRows → BuyRows}
    (hwrite : PackageWrites env req pkg write)
    (seen : BuyRows)
    {tenantId mediaBuyId : String}
    (hrows : FliesFor tenantId mediaBuyId currency s e rows) :
    FliesFor tenantId mediaBuyId currency s e (write seen rows) := by
  cases hwrite with
  | none => exact hrows
  | assignments requested =>
      have hwritten : FliesFor tenantId mediaBuyId currency s e
          (writeAssignments env req pkg requested seen rows) := by
        unfold FliesFor BuyRows.HasBuy BuyRows.getById
        rw [writeAssignments_mediaBuys]
        exact hrows
      unfold replaceAssignments markPendingCreatives
      simp only
      split
      · exact hwritten
      · split
        · exact hwritten.modifyBuy (fun b hb => hb.updateStatus .pendingCreatives env.later)
        · exact hwritten
  | targeting hoverlay =>
      unfold writeTargeting
      split
      · exact hrows
      · exact hrows

theorem applyActs_of_dates
    (hnone : req.paused = none)
    (hdates : (req.startTime.isSome || req.endTime.isSome) = true) :
    applyActs env req =
      req.packages.zipIdx.flatMap (fun (pkg, index) => packageActs env req index pkg) ++
        .inside (datesError env req) (updateBuyFields env req (requestedDates env req)) ::
          [responseAct env req] := by
  unfold applyActs datesActs
  simp [hnone, hdates]

/-- A unit that passes leaves the flight as the request writes it. -/
theorem flies_block
    (hpass : (block (applyActs env req) rows).raised = none)
    (hrows : FliesFor env.tenantId req.mediaBuyId currency s e rows) :
    FliesFor env.tenantId req.mediaBuyId currency
      (if req.paused = none then writtenStart env req s else s)
      (if req.paused = none then writtenEnd env req e else e)
      (block (applyActs env req) rows).rows := by
  have hcalls : ∀ call, Act.outside call ∈ applyActs env req → ∀ n (r : BuyRows),
      FliesFor env.tenantId req.mediaBuyId currency s e r →
      FliesFor env.tenantId req.mediaBuyId currency s e (call n r).rows := by
    intro call hcall n r hr
    exact call_keeps_buy (fun b hb => hb.updateStatus .pendingCreatives env.now) hcall n hr
  by_cases hdates : req.paused = none ∧ (req.startTime.isSome || req.endTime.isSome) = true
  · obtain ⟨hnone, hdates⟩ := hdates
    rw [if_pos hnone, if_pos hnone]
    refine block_of_write (applyActs_of_dates hnone hdates) hcalls ?_ ?_ ?_ hpass hrows
    · intro w hw seen r hr
      obtain ⟨refuses, hact⟩ := mem_writes.mp hw
      obtain ⟨⟨pkg, index⟩, -, hact⟩ := List.mem_flatMap.mp hact
      exact flies_packageWrite (inside_mem_packageActs hact) seen hr
    · rintro seen r ⟨b, hb, hflies⟩
      refine ⟨_, ?_, hflies.updateFields (requestedDates env req) env.later⟩
      unfold updateBuyFields
      rw [BuyRows.getById_modifyBuy, hb]
      rfl
    · intro w hw seen r hr
      cases List.mem_singleton.mp hw
      exact hr
  · have hkept : FliesFor env.tenantId req.mediaBuyId currency s e
        (block (applyActs env req) rows).rows := by
      refine block_keeps ?_ hcalls hpass hrows
      intro refuses write hact seen r _ hr
      rcases mem_applyActs hact with ⟨paused, hpaused, hact⟩ | ⟨-, index, pkg, -, hact⟩ |
        ⟨hnone, hact⟩ | hact
      · simp only [pauseActs, adapterAct, List.mem_cons, reduceCtorEq, Act.inside.injEq,
          List.not_mem_nil, or_false, false_or] at hact
        rw [hact.2]
        exact hr.modifyBuy (fun b hb => hb.updateFields { isPaused := some paused } env.later)
      · exact flies_packageWrite (inside_mem_packageActs hact) seen hr
      · unfold datesActs at hact
        rw [if_neg (fun hsome => hdates ⟨hnone, hsome⟩)] at hact
        cases hact
      · cases hact
        exact hr
    split
    · next hnone =>
        have hdates' : req.startTime = none ∧ req.endTime = none := by
          have hneither := fun hsome => hdates ⟨hnone, hsome⟩
          simpa using hneither
        simpa [writtenStart, writtenEnd, requestedDates, hdates'.1, hdates'.2] using hkept
    · exact hkept

theorem column_of_block
    (hpass : (block (applyActs env req) rows).raised = none)
    {packageId : String} {p : MediaPackage}
    (hp : (block (applyActs env req) rows).rows.packages.find (req.mediaBuyId, packageId) =
      some p) :
    ∃ q, rows.packages.find (req.mediaBuyId, packageId) = some q ∧ q.budget = p.budget := by
  have hreading := packageReading_block hpass packageId
  unfold packageReading at hreading
  rw [hp] at hreading
  obtain ⟨q, hq, hsame⟩ := Option.map_eq_some_iff.mp hreading.symm
  exact ⟨q, hq, congrArg Prod.fst hsame⟩

theorem budget_pos_of_block
    (hpass : (block (applyActs env req) rows).raised = none)
    (hnone : req.paused = none)
    {pkg : PackageUpdate} (hpkg : pkg ∈ req.packages)
    {x : Decimal} (hx : pkg.budget = some x) :
    0 < x := by
  obtain ⟨index, hindex⟩ := List.mem_iff_getElem?.mp hpkg
  have hact : Act.check (fun r => packageIdError index pkg <|> budgetError env req index x r <|>
      packageError env req r pkg) ∈ applyActs env req := by
    refine mem_applyActs_of_mem_packageActs hnone hindex (mem_packageActs.mpr (.inr (.inl ?_)))
    simp [budgetActs, hx]
  rw [block_raised] at hpass
  obtain ⟨seen, hseen⟩ := run_checks hpass hact
  simp only [Option.orElse_eq_orElse, Option.orElse_eq_or, Option.or_eq_none_iff] at hseen
  have hbudget := hseen.2.1
  unfold budgetError at hbudget
  simp only at hbudget
  split at hbudget
  · cases hbudget
  · next hpositive => simpa [validateBudgetPositive] using hpositive

theorem budget_le_of_dailySpendGate
    {b : MediaBuy} {limit : CurrencyLimit} {maxDaily : Decimal}
    (hgate : dailySpendGate env req rows = none)
    (hfound : rows.getById env.tenantId req.mediaBuyId = some b)
    (hlimit : env.currencyLimit b.requestCurrency = some limit)
    (hmax : CurrencyLimit.truthy limit.maxDailyPackageSpend = some maxDaily)
    {pkg : PackageUpdate} (hpkg : pkg ∈ req.packages)
    {x : Decimal} (hx : pkg.budget = some x)
    (hne : x ≠ 0) :
    x ≤ maxDaily * flightDays (checkedStart env req b) (checkedEnd env req b) := by
  have hruns : (req.startTime.isSome || req.endTime.isSome ||
      req.packages.any (fun p => p.budget.any (fun x => x ≠ 0))) = true := by
    rw [Bool.or_eq_true]
    refine .inr (List.any_eq_true.mpr ⟨pkg, hpkg, ?_⟩)
    simp [hx, hne]
  unfold dailySpendGate at hgate
  rw [if_pos hruns, hfound] at hgate
  simp only [hlimit, hmax] at hgate
  split at hgate
  · cases hgate
  · next hobjects =>
      refine (validateMaxDailyPackageSpend_eq_false_iff (flightDays_pos _ _)).mp ?_
      by_contra hover
      refine hobjects (List.any_eq_true.mpr ⟨pkg, hpkg, ?_⟩)
      rw [hx]
      simpa using hover

/-- Where the clock does not decide the start, the flight that is checked is the flight
that is written. -/
theorem checked_eq_written
    {b : MediaBuy}
    (hflies : b.Flies currency s e)
    (hstart : req.startTime ≠ some .asap) :
    checkedStart env req b = writtenStart env req s ∧
      checkedEnd env req b = writtenEnd env req e := by
  unfold checkedStart checkedEnd writtenStart writtenEnd requestedDates
  rw [hflies.startTime, hflies.endTime]
  constructor
  · cases hreq : req.startTime with
    | none => rfl
    | some start =>
        cases start with
        | asap => exact absurd hreq hstart
        | «at» t => rfl
  · cases req.endTime <;> rfl

/-- An accepted update whose unread budgets pass the check keeps the ceiling. -/
theorem updateMediaBuy_ceiling
    {store : Store} {limit : CurrencyLimit} {maxDaily : Decimal}
    (hlimit : env.currencyLimit currency = some limit)
    (hmax : CurrencyLimit.truthy limit.maxDailyPackageSpend = some maxDaily)
    (haccepted : ∀ err, (updateMediaBuy env req store).reply ≠ .failed err)
    (hunread : UnreadBudgetsPass env req maxDaily store.toBuyRows)
    (hceiling : DailyCeiling env.tenantId req.mediaBuyId currency maxDaily store.toBuyRows) :
    DailyCeiling env.tenantId req.mediaBuyId currency maxDaily
      (updateMediaBuy env req store).store.toBuyRows := by
  by_cases hends : EndsAtGate env req store.toBuyRows
  · rw [(updateMediaBuy_of_endsAtGate hends).2.1]
    exact hceiling
  · obtain ⟨-, hrows, hraised⟩ := updateMediaBuy_of_not_endsAtGate hends
    have hpass : (block (applyActs env req) store.toBuyRows).raised = none := by
      by_contra hsome
      obtain ⟨err, herr⟩ := Option.ne_none_iff_exists'.mp hsome
      exact haccepted err ((hraised err).mpr herr)
    obtain ⟨s, e, ⟨b, hfound, hflies⟩, hstored⟩ := hceiling
    have hdaily : dailySpendGate env req store.toBuyRows = none := by
      simp only [EndsAtGate, not_or, not_not] at hends
      exact hends.2.2.2
    rw [hrows]
    refine ⟨_, _, flies_block hpass ⟨b, hfound, hflies⟩, ?_⟩
    intro packageId p hp x hx
    obtain hnone | hpaused := em (req.paused = none)
    · rw [if_pos hnone, if_pos hnone]
      obtain ⟨hunstored, hasap⟩ := hunread hnone b s e hfound hflies.startTime hflies.endTime
      have hrequested : RequestedUnder req
          (maxDaily * flightDays (writtenStart env req s) (writtenEnd env req e)) := by
        intro _ pkg hpkg y hy
        by_cases hstart : req.startTime = some .asap
        · exact hasap hstart pkg hpkg y hy
        · have hpos := budget_pos_of_block hpass hnone hpkg hy
          have hlimit' : env.currencyLimit b.requestCurrency = some limit := by
            rw [hflies.currency]
            exact hlimit
          have hle := budget_le_of_dailySpendGate hdaily hfound hlimit' hmax hpkg hy hpos.ne'
          obtain ⟨hs, he⟩ := checked_eq_written hflies hstart
          rw [hs, he] at hle
          exact (Decimal.truncate_le hpos.le).trans hle
      rcases mem_amounts.mp hx with hcolumn | ⟨budget, hbudget, rfl⟩
      · obtain ⟨q, hq, hsame⟩ := column_of_block hpass hp
        exact (hunstored packageId q hq).1 x (hsame ▸ hcolumn)
      · by_cases hrebudgets : Rebudgets env req packageId
        · exact configUnder_of_rebudgets hnone hrebudgets hrequested hpass p hp budget hbudget
        · have hold : ConfigUnder req.mediaBuyId packageId
              (maxDaily * flightDays (writtenStart env req s) (writtenEnd env req e))
              store.toBuyRows :=
            fun q hq => (hunstored packageId q hq).2 hrebudgets
          exact configUnder_block hrequested hpass hold p hp budget hbudget
    · rw [if_neg hpaused, if_neg hpaused]
      have hrequested : RequestedUnder req (maxDaily * flightDays s e) :=
        fun hnone => absurd hnone hpaused
      rcases mem_amounts.mp hx with hcolumn | ⟨budget, hbudget, rfl⟩
      · obtain ⟨q, hq, hsame⟩ := column_of_block hpass hp
        exact hstored packageId q hq x (mem_amounts.mpr (.inl (hsame ▸ hcolumn)))
      · have hold : ConfigUnder req.mediaBuyId packageId (maxDaily * flightDays s e)
            store.toBuyRows :=
          fun q hq y hy => hstored packageId q hq _ (mem_amounts.mpr (.inr ⟨y, hy, rfl⟩))
        exact configUnder_block hrequested hpass hold p hp budget hbudget

end Update

section Run

/-- A call of the tool for the buy that is not refused, under the limit. -/
inductive AcceptedUpdate
    (tenantId mediaBuyId currency : String)
    (limit : CurrencyLimit) : Store → UpdateEnv × UpdateRequest → Store → Prop
  | call {store : Store} {env : UpdateEnv} {req : UpdateRequest}
      (htenant : env.tenantId = tenantId) (hbuy : req.mediaBuyId = mediaBuyId)
      (hlimit : env.currencyLimit currency = some limit)
      (haccepted : ∀ err, (updateMediaBuy env req store).reply ≠ .failed err) :
      AcceptedUpdate tenantId mediaBuyId currency limit store (env, req)
        (updateMediaBuy env req store).store

theorem dailyCeiling_preserved
    {tenantId mediaBuyId currency : String} {limit : CurrencyLimit} {maxDaily : Decimal}
    (hmax : CurrencyLimit.truthy limit.maxDailyPackageSpend = some maxDaily) :
    Preserved
      (Restrict (AcceptedUpdate tenantId mediaBuyId currency limit)
        (fun store update => UnreadBudgetsPass update.1 update.2 maxDaily store.toBuyRows))
      (fun store => DailyCeiling tenantId mediaBuyId currency maxDaily store.toBuyRows) := by
  rintro store update after ⟨hstep, hunread⟩ hceiling
  cases hstep with
  | call htenant hbuy hlimit haccepted =>
      subst htenant hbuy
      exact updateMediaBuy_ceiling hlimit hmax haccepted hunread hceiling

/-- After an accepted create, every stored amount of its buy stays under the ceiling
along each run of accepted updates whose unread budgets pass the check; and the check
divides by zero for no flight. -/
theorem dailyCeiling_of_run
    {env : CreateEnv} {req : CreateRequest} {store : Store} {ids : GeneratedIds store}
    {limit : CurrencyLimit} {maxDaily : Decimal} {mediaBuyId : String}
    {updates : List (UpdateEnv × UpdateRequest)} {after : Store}
    (haccepted : ∀ err, (createMediaBuy env req ids).reply ≠ .failed err)
    (hlimit : env.currencyLimit (campaignCurrency env req) = some limit)
    (hmax : CurrencyLimit.truthy limit.maxDailyPackageSpend = some maxDaily)
    (hbuy : createMapping ids mediaBuyId ∈ (createMediaBuy env req ids).store.mappings)
    (hrun : Run
      (Restrict (AcceptedUpdate env.tenantId mediaBuyId (campaignCurrency env req) limit)
        (fun store update => UnreadBudgetsPass update.1 update.2 maxDaily store.toBuyRows))
      (createMediaBuy env req ids).store updates after) :
    DailyCeiling env.tenantId mediaBuyId (campaignCurrency env req) maxDaily after.toBuyRows ∧
      ∀ s e, dailyDivisor (flightDays s e) ≠ 0 := by
  refine ⟨?_, fun s e => (dailyDivisor_pos (flightDays s e)).ne'⟩
  exact hrun.preserves (dailyCeiling_preserved hmax)
    (createMediaBuy_ceiling haccepted hlimit hmax hbuy)

/-- The sample buy, as it waits for approval. -/
def sampleCreated : Store :=
  (createMediaBuy (sampleCreateEnv true true) sampleCreateRequest sampleIds).store

/-- Half the budget, over the same flight. -/
def sampleRebudget : UpdateRequest where
  mediaBuyId := "mb_1"
  packages := [{ packageId := "pkg_prod_1_token_1", budget := some 450 }]

/-- A flight that ends after two days. -/
def sampleShortening : UpdateRequest where
  mediaBuyId := "mb_1"
  endTime := some (86400000000 * 3)

theorem sampleCreated_flight
    {b : MediaBuy} {s e : DateTime}
    (hb : sampleCreated.getById "tenant" "mb_1" = some b)
    (hs : b.startTime = some s)
    (he : b.endTime = some e) :
    s = 86400000000 ∧ e = 86400000000 * 11 := by
  have hflight : (sampleCreated.getById "tenant" "mb_1").map (fun b => (b.startTime, b.endTime)) =
      some (some 86400000000, some (86400000000 * 11)) := by decide +kernel
  rw [hb] at hflight
  simpa [hs, he] using hflight

/-- A budget of the sample buy is halved. -/
theorem dailyCeiling_of_run_rebudget :
    DailyCeiling "tenant" "mb_1" "USD" 100
        (updateMediaBuy sampleUpdateEnv sampleRebudget sampleCreated).store.toBuyRows ∧
      ∀ s e, dailyDivisor (flightDays s e) ≠ 0 := by
  have hreply : (createMediaBuy (sampleCreateEnv true true) sampleCreateRequest
      sampleIds).reply = .submitted "step_1" := by decide +kernel
  have hupdated : (updateMediaBuy sampleUpdateEnv sampleRebudget sampleCreated).reply =
      .completed 1 ["pkg_prod_1_token_1"] := by decide +kernel
  have hamounts : sampleCreated.packages.rows.all
      (fun p => p.amounts.all (fun x => x ≤ 100 * 10)) = true := by decide +kernel
  have hunread : UnreadBudgetsPass sampleUpdateEnv sampleRebudget 100 sampleCreated.toBuyRows := by
    intro _ b s e hb hs he
    obtain ⟨rfl, rfl⟩ := sampleCreated_flight hb hs he
    have hdays : flightDays (writtenStart sampleUpdateEnv sampleRebudget 86400000000)
        (writtenEnd sampleUpdateEnv sampleRebudget (86400000000 * 11)) = 10 := by decide
    rw [hdays]
    have hstored : ∀ packageId p, sampleCreated.packages.find ("mb_1", packageId) = some p →
        ∀ x ∈ p.amounts, x ≤ 100 * ((10 : Int) : ℚ) := by
      intro packageId p hp x hx
      have hmem := ((IndexedTable.find_eq_some_iff _).mp hp).1
      have hall := List.all_eq_true.mp (List.all_eq_true.mp hamounts p hmem) x hx
      simpa using hall
    refine ⟨?_, ?_⟩
    · intro packageId p hp
      refine ⟨fun x hx => hstored packageId p hp x (mem_amounts.mpr (.inl hx)), ?_⟩
      intro _ x hx
      exact hstored packageId p hp x.amount (mem_amounts.mpr (.inr ⟨x, hx, rfl⟩))
    · intro hasap
      cases hasap
  have hcurrency : campaignCurrency (sampleCreateEnv true true) sampleCreateRequest = "USD" := by
    decide +kernel
  rw [← hcurrency]
  refine @dailyCeiling_of_run (sampleCreateEnv true true) sampleCreateRequest Store.empty sampleIds
    sampleLimit 100 "mb_1" [(sampleUpdateEnv, sampleRebudget)] _ ?_ rfl ?_ ?_
    (.single ⟨.call rfl rfl rfl ?_, hunread⟩)
  · intro err herr
    rw [hreply] at herr
    cases herr
  · decide +kernel
  · decide +kernel
  · intro err herr
    have hfailed := hupdated.symm.trans herr
    cases hfailed

/-- Counterexample: the sample buy is accepted with 900 dollars over ten days, and an
accepted update leaves it two days. -/
theorem shorter_flight_breaks_dailyCeiling :
    (createMediaBuy (sampleCreateEnv true true) sampleCreateRequest sampleIds).reply =
        .submitted "step_1" ∧
      ∃ after, Run (AcceptedUpdate "tenant" "mb_1" "USD" sampleLimit) sampleCreated
        [(sampleUpdateEnv, sampleShortening)] after ∧
        ¬ DailyCeiling "tenant" "mb_1" "USD" 100 after.toBuyRows := by
  have hupdated : (updateMediaBuy sampleUpdateEnv sampleShortening sampleCreated).reply =
      .completed 2 [] := by decide +kernel
  refine ⟨by decide +kernel, _, .single (.call rfl rfl rfl ?_), ?_⟩
  · intro err herr
    rw [hupdated] at herr
    cases herr
  · rintro ⟨s, e, ⟨b, hb, hflies⟩, hstored⟩
    have hflight : ((updateMediaBuy sampleUpdateEnv sampleShortening
        sampleCreated).store.getById "tenant" "mb_1").map (fun b => (b.startTime, b.endTime)) =
        some (some 86400000000, some (86400000000 * 3)) := by decide +kernel
    have hcolumn : ((updateMediaBuy sampleUpdateEnv sampleShortening
        sampleCreated).store.packages.find ("mb_1", "pkg_prod_1_token_1")).bind (·.budget) =
        some 900 := by decide +kernel
    obtain ⟨p, hp, hbudget⟩ := Option.bind_eq_some_iff.mp hcolumn
    have hb' : (updateMediaBuy sampleUpdateEnv sampleShortening sampleCreated).store.getById
        "tenant" "mb_1" = some b := hb
    rw [hb'] at hflight
    simp only [Option.map_some, hflies.startTime, hflies.endTime, Option.some.injEq,
      Prod.mk.injEq] at hflight
    obtain ⟨rfl, rfl⟩ := hflight
    have hle := hstored _ p hp 900 (mem_amounts.mpr (.inl hbudget))
    have hdays : flightDays 86400000000 (86400000000 * 3) = 2 := by decide
    rw [hdays] at hle
    norm_num at hle

end Run

end MediaBuys
end SalesAgent
