import SalesAgent.MediaBuy.Create

/-!
# Direct and approved creation

A buy that is created at once and one that waited for approval ought to order the
same packages.  The first takes the default price basis whatever the product
charges, spreads the total budget of the buy over each package, and honours the
requested formats and creatives.  The second takes the rate of the first pricing
option, the budget of the package, the formats of the stored product, and no
creatives.

**Results.**
* `rebuildPackage_eq_iff`: when one package is rebuilt as the direct one.
* `ordersSame_iff`: when all packages of an accepted create are.
-/

namespace SalesAgent
namespace MediaBuys

open Runs (mem_of_mapM_eq_ok exists_mapM_eq_ok_iff)

variable {env : CreateEnv} {req : CreateRequest} {store : Store} {ids : GeneratedIds store}

/-- The package is one that both branches order alike. -/
structure OrderedAlike
    (env : CreateEnv)
    (req : CreateRequest)
    (pkg : PackageRequest)
    (product : Product) : Prop where
  /-- the first pricing option charges the default price basis -/
  rate : (product.pricingOptions.head?).bind (·.rate) = some 10
  /-- the package's budget buys as many impressions as the total -/
  impressions : boughtImpressions (pkg.budget.getD 0) 10 = boughtImpressions (totalBudget req) 10
  /-- the formats in effect are the stored product's -/
  formats : directFormats product pkg.formatIds = product.formats
  formats_ne_nil : product.formats ≠ []
  formats_http : ∀ f ∈ product.formats, isHttpUrl f.agentUrl = true
  /-- no creatives are named or uploaded -/
  creatives : pkg.creativeIds = []

/-- The packages rebuilt from the rows of a buy are the ones given. -/
def OrdersSame
    (env : RebuildEnv)
    (rows : BuyRows)
    (mediaBuyId : String)
    (direct : List PricedPackage) : Prop :=
  ∃ rebuilt, rebuildPackages env rows mediaBuyId = .ok rebuilt ∧
    ∀ p, p ∈ rebuilt ↔ p ∈ direct

theorem packageId_ne_empty
    (pkg : PackageRequest)
    (index : Nat) :
    ids.packageId pkg index ≠ "" := by
  intro h
  have hlist := congrArg String.toList h
  simp [GeneratedIds.packageId] at hlist

theorem exists_option_of_packagePricing
    {pkg : PackageRequest} {product : Product} {info : PricingInfo}
    (hproduct : env.product pkg.productId = some product)
    (hpricing : packagePricing env req pkg = some info) :
    ∃ option rest, product.pricingOptions = option :: rest := by
  unfold packagePricing at hpricing
  rw [hproduct] at hpricing
  cases hoptions : product.pricingOptions with
  | nil => simp [validatePricingModelSelection, hoptions, Except.toOption] at hpricing
  | cons option rest => exact ⟨option, rest, rfl⟩

theorem rebuiltCpm_eq_ten_iff
    {option : PricingOption} :
    rebuiltCpm option = 10 ↔ option.rate = some 10 := by
  unfold rebuiltCpm CurrencyLimit.truthy
  cases option.rate with
  | none => simp
  | some rate =>
      by_cases hzero : rate = 0
      · subst hzero
        simp [Option.filter]
      · simp [Option.filter, hzero]

/-- The row of a pending package is rebuilt from the stored formats alone. -/
theorem rebuildPackage_pending
    {read : Targeting → Option (Option Targeting)} {named : PackageRequest × String}
    {product : Product} {option : PricingOption} {rest : List PricingOption} {info : PricingInfo}
    (hread : ∀ t ∈ named.1.targetingOverlay, read t = some (some t))
    (hid : named.2 ≠ "")
    (hproductId : named.1.productId ≠ "")
    (hproduct : env.product named.1.productId = some product)
    (hoptions : product.pricingOptions = option :: rest)
    (hpricing : packagePricing env req named.1 = some info) :
    rebuildPackage ⟨env.product, read⟩ (pendingPackage env req ids named) =
      (rebuildFormats product.formats).map (fun formats =>
        { packageId := named.2
          name := product.name
          deliveryType := product.deliveryType
          cpm := rebuiltCpm option
          impressions := rebuiltImpressions (named.1.budget.getD 0) (rebuiltCpm option)
          formatIds := formats
          targetingOverlay := named.1.targetingOverlay
          productId := named.1.productId
          budget := named.1.budget
          creativeIds := []
          pricing := some info }) := by
  have hoverlay : rebuildOverlay ⟨env.product, read⟩ named.1.targetingOverlay =
      .ok named.1.targetingOverlay := by
    unfold rebuildOverlay
    cases hstored : named.1.targetingOverlay with
    | none => rfl
    | some t =>
        simp only
        rw [hread t hstored]
  have hbudget : (named.1.budget.map (fun b =>
      ConfigBudget.object b (packageCurrency env req named.1))).map ConfigBudget.amount =
        named.1.budget := by
    cases named.1.budget <;> rfl
  unfold rebuildPackage pendingPackage
  simp only [Option.filter_some, hproductId, ne_eq, not_false_eq_true, decide_true, if_true,
    hproduct, hoptions, hoverlay, hid, if_false, hbudget, hpricing, Option.getD_some]
  cases rebuildFormats product.formats with
  | error err => rfl
  | ok formats => rfl

/-- One package is rebuilt as the direct one exactly if both branches order it alike. -/
theorem rebuildPackage_eq_iff
    {read : Targeting → Option (Option Targeting)} {named : PackageRequest × String}
    {product : Product} {info : PricingInfo}
    (hread : ∀ t ∈ named.1.targetingOverlay, read t = some (some t))
    (hid : named.2 ≠ "")
    (hproductId : named.1.productId ≠ "")
    (hproduct : env.product named.1.productId = some product)
    (hpricing : packagePricing env req named.1 = some info) :
    (∃ direct, directPackage env req named = some direct ∧
        rebuildPackage ⟨env.product, read⟩ (pendingPackage env req ids named) = .ok direct) ↔
      OrderedAlike env req named.1 product := by
  obtain ⟨option, rest, hoptions⟩ := exists_option_of_packagePricing hproduct hpricing
  rw [rebuildPackage_pending hread hid hproductId hproduct hoptions hpricing]
  unfold directPackage
  rw [hproduct]
  simp only [Option.map_some, Option.some.injEq, exists_eq_left', directCpm_eq, hpricing]
  constructor
  · intro h
    cases hformats : rebuildFormats product.formats with
    | error err =>
        rw [hformats] at h
        cases h
    | ok formats =>
        rw [hformats] at h
        simp only [Except.map, Except.ok.injEq, PricedPackage.mk.injEq, true_and] at h
        obtain ⟨hcpm, himpressions, hsame, hcreatives, -⟩ := h
        obtain ⟨hbuilt, hne, hhttp⟩ := rebuildFormats_ok.mp hformats
        rw [hcpm] at himpressions
        refine ⟨?_, ?_, ?_, hne, hhttp, ?_⟩
        · rw [hoptions]
          exact rebuiltCpm_eq_ten_iff.mp hcpm
        · simpa [rebuiltImpressions] using himpressions
        · rw [← hsame, hbuilt]
        · exact hcreatives.symm
  · intro h
    have hrate : rebuiltCpm option = 10 := by
      refine rebuiltCpm_eq_ten_iff.mpr ?_
      simpa [hoptions] using h.rate
    have hformats : rebuildFormats product.formats = .ok product.formats :=
      rebuildFormats_ok.mpr ⟨rfl, h.formats_ne_nil, h.formats_http⟩
    have himpressions : rebuiltImpressions (named.1.budget.getD 0) 10 =
        boughtImpressions (totalBudget req) 10 := by
      unfold rebuiltImpressions
      rw [if_pos (by norm_num)]
      exact h.impressions
    rw [hformats, hrate, himpressions, h.formats, h.creatives]
    rfl

section Validated

/-- A package of a request that passes validation names a product, which prices it. -/
theorem validated_package
    {pkg : PackageRequest}
    (hgate : createGate env req = none)
    (hpkg : pkg ∈ req.packages) :
    pkg.productId ≠ "" ∧ ∃ product info, env.product pkg.productId = some product ∧
      packagePricing env req pkg = some info := by
  simp only [createGate, Option.orElse_eq_orElse, Option.orElse_eq_or,
    Option.or_eq_none_iff] at hgate
  obtain ⟨-, -, -, hproducts, -, hpricing, -, -, -⟩ := hgate
  have hnamed : pkg.productId ≠ "" := by
    unfold productGate at hproducts
    simp only at hproducts
    split at hproducts
    · cases hproducts
    · split at hproducts
      · cases hproducts
      · next hnone =>
          have hall := List.findIdx?_eq_none_iff.mp hnone pkg hpkg
          simpa using hall
  have hproduct : (env.product pkg.productId).isSome := by
    unfold productGate at hproducts
    simp only at hproducts
    split at hproducts
    · cases hproducts
    · split at hproducts
      · cases hproducts
      · split at hproducts
        · cases hproducts
        · split at hproducts
          · cases hproducts
          · next hknown =>
              by_contra hmissing
              refine hknown (List.any_eq_true.mpr ⟨pkg.productId, ?_, ?_⟩)
              · exact List.mem_filter.mpr ⟨List.mem_map_of_mem hpkg, by simpa using hnamed⟩
              · simpa using hmissing
  obtain ⟨product, hproduct⟩ := Option.isSome_iff_exists.mp hproduct
  refine ⟨hnamed, product, ?_⟩
  unfold pricingGate at hpricing
  have hpriced := List.findSome?_eq_none_iff.mp hpricing pkg hpkg
  unfold packagePricing
  rw [hproduct] at hpriced ⊢
  simp only [Option.bind_some] at hpriced ⊢
  cases hvalidated : validatePricingModelSelection env req pkg product with
  | error err =>
      rw [hvalidated] at hpriced
      cases hpriced
  | ok info => exact ⟨info, trivial, rfl⟩

theorem UploadedAs.productId
    {pkg updated : PackageRequest}
    (h : UploadedAs pkg updated) :
    updated.productId = pkg.productId := by
  obtain ⟨creativeIds, rfl⟩ := h
  rfl

theorem UploadedAs.targetingOverlay
    {pkg updated : PackageRequest}
    (h : UploadedAs pkg updated) :
    updated.targetingOverlay = pkg.targetingOverlay := by
  obtain ⟨creativeIds, rfl⟩ := h
  rfl

theorem UploadedAs.pricing
    {pkg updated : PackageRequest}
    (h : UploadedAs pkg updated) :
    packagePricing env req updated = packagePricing env req pkg := by
  obtain ⟨creativeIds, rfl⟩ := h
  rfl

theorem exists_of_uploaded
    {packages updates : List PackageRequest} {updated : PackageRequest}
    (h : List.Forall₂ UploadedAs packages updates)
    (hupdated : updated ∈ updates) :
    ∃ pkg ∈ packages, UploadedAs pkg updated := by
  induction h with
  | nil => cases hupdated
  | cons hfirst _ ih =>
      rcases List.mem_cons.mp hupdated with rfl | htail
      · exact ⟨_, List.mem_cons_self, hfirst⟩
      · obtain ⟨pkg, hpkg, hsame⟩ := ih htail
        exact ⟨pkg, List.mem_cons_of_mem _ hpkg, hsame⟩

theorem mem_named
    {packages : List PackageRequest} {named : PackageRequest × String}
    (h : named ∈ ids.named packages) :
    named.1 ∈ packages ∧ named.2 ≠ "" := by
  obtain ⟨⟨pkg, index⟩, hzip, rfl⟩ := List.mem_map.mp h
  exact ⟨List.fst_mem_of_mem_zipIdx hzip, packageId_ne_empty pkg index⟩

theorem exists_named
    {packages : List PackageRequest} {pkg : PackageRequest}
    (h : pkg ∈ packages) :
    ∃ named ∈ ids.named packages, named.1 = pkg := by
  obtain ⟨index, hindex⟩ := List.mem_iff_getElem?.mp h
  refine ⟨(pkg, ids.packageId pkg index), List.mem_map.mpr ⟨(pkg, index), ?_, rfl⟩, rfl⟩
  exact List.mk_mem_zipIdx_iff_getElem?.mpr hindex

end Validated

section Approved

variable {packages : List PackageRequest} {uploaded : BuyRows} {row : MediaBuy}
  {status : WorkflowStepStatus} {after : Store}

theorem mem_packages_of_booked
    {stored : List MediaPackage}
    (hbooked : Booked env ids row stored status after)
    (hstored : ∀ p ∈ stored, p.mediaBuyId = row.mediaBuyId)
    (p : MediaPackage) :
    p ∈ after.packages.rows.filter (fun q => q.mediaBuyId = row.mediaBuyId) ↔ p ∈ stored := by
  rw [List.mem_filter, ← IndexedTable.mem_def, hbooked.mem_packages]
  constructor
  · rintro ⟨hnew | hold, hbuy⟩
    · exact hnew
    · have howner := store.packagesOwned p hold
      rw [of_decide_eq_true hbuy, hbooked.unbooked] at howner
      cases howner
  · intro hnew
    exact ⟨.inl hnew, by simpa using hstored p hnew⟩

theorem injOn_named
    (hnodup : (((ids.named packages).map (pendingPackage env req ids)).map
      MediaPackage.primaryKey).Nodup)
    {named named' : PackageRequest × String}
    (h : named ∈ ids.named packages)
    (h' : named' ∈ ids.named packages)
    (hid : named.2 = named'.2) :
    named = named' := by
  rw [List.map_map] at hnodup
  refine List.inj_on_of_nodup_map hnodup h h' ?_
  simp [MediaPackage.primaryKey, pendingPackage, hid]

theorem directPackage_packageId
    {named : PackageRequest × String} {direct : PricedPackage}
    (h : directPackage env req named = some direct) :
    direct.packageId = named.2 := by
  obtain ⟨product, -, rfl⟩ := Option.map_eq_some_iff.mp h
  rfl

theorem rebuildPackage_packageId
    {renv : RebuildEnv} {row : MediaPackage} {built : PricedPackage}
    (h : rebuildPackage renv row = .ok built) :
    built.packageId = row.packageId := by
  obtain ⟨product, option, rest, -, -, hid, -⟩ := rebuildPackage_eq_ok h
  exact hid

theorem ordersSame_iff_of_rows
    {renv : RebuildEnv} {rows : BuyRows}
    (hrows : ∀ p, p ∈ rows.packages.rows.filter (fun q => q.mediaBuyId = ids.mediaBuyId) ↔
      p ∈ (ids.named packages).map (pendingPackage env req ids))
    (hinj : ∀ {named named'}, named ∈ ids.named packages → named' ∈ ids.named packages →
      named.2 = named'.2 → named = named')
    (hne : ids.named packages ≠ []) :
    OrdersSame renv rows ids.mediaBuyId (directOrder env req ids packages) ↔
      ∀ named ∈ ids.named packages, ∃ direct, directPackage env req named = some direct ∧
        rebuildPackage renv (pendingPackage env req ids named) = .ok direct := by
  have hrebuild : rebuildPackages renv rows ids.mediaBuyId =
      (rows.packages.rows.filter (fun q => q.mediaBuyId = ids.mediaBuyId)).mapM
        (rebuildPackage renv) := by
    unfold rebuildPackages
    split
    · next hnil =>
        obtain ⟨named, hnamed⟩ := List.exists_mem_of_ne_nil _ hne
        have hmem := (hrows _).mpr (List.mem_map_of_mem hnamed)
        rw [hnil] at hmem
        cases hmem
    · next hcons => rw [hcons]
  unfold OrdersSame
  rw [hrebuild]
  constructor
  · rintro ⟨rebuilt, hrebuilt, hsame⟩ named hnamed
    have hrow := (hrows _).mpr (List.mem_map_of_mem hnamed)
    obtain ⟨built, hbuilt⟩ := exists_mapM_eq_ok_iff.mp ⟨rebuilt, hrebuilt⟩ _ hrow
    have hdirect := (hsame built).mp ((mem_of_mapM_eq_ok hrebuilt built).mpr ⟨_, hrow, hbuilt⟩)
    obtain ⟨named', hnamed', hdirect⟩ := List.mem_filterMap.mp hdirect
    have hid : named.2 = named'.2 :=
      (rebuildPackage_packageId hbuilt).symm.trans (directPackage_packageId hdirect)
    rw [hinj hnamed hnamed' hid] at hbuilt ⊢
    exact ⟨built, hdirect, hbuilt⟩
  · intro h
    obtain ⟨rebuilt, hrebuilt⟩ := exists_mapM_eq_ok_iff.mpr (fun row hrow => by
      obtain ⟨named, hnamed, rfl⟩ := List.mem_map.mp ((hrows row).mp hrow)
      obtain ⟨direct, -, hbuilt⟩ := h named hnamed
      exact ⟨direct, hbuilt⟩)
    refine ⟨rebuilt, hrebuilt, ?_⟩
    intro p
    rw [mem_of_mapM_eq_ok hrebuilt, directOrder, List.mem_filterMap]
    constructor
    · rintro ⟨row, hrow, hbuilt⟩
      obtain ⟨named, hnamed, rfl⟩ := List.mem_map.mp ((hrows row).mp hrow)
      obtain ⟨direct, hdirect, hbuilt'⟩ := h named hnamed
      rw [hbuilt] at hbuilt'
      cases hbuilt'
      exact ⟨named, hnamed, hdirect⟩
    · rintro ⟨named, hnamed, hdirect⟩
      obtain ⟨direct, hdirect', hbuilt⟩ := h named hnamed
      rw [hdirect] at hdirect'
      cases hdirect'
      exact ⟨_, (hrows _).mpr (List.mem_map_of_mem hnamed), hbuilt⟩

/-- The packages of an accepted create are rebuilt as the direct ones exactly if both
branches order each of them alike. -/
theorem ordersSame_iff
    {read : Targeting → Option (Option Targeting)}
    (haccepted : ∀ err, (createMediaBuy env req ids).reply ≠ .failed err)
    (hmanual : createNeedsApproval env = true)
    (hread : ∀ pkg ∈ req.packages, ∀ t ∈ pkg.targetingOverlay, read t = some (some t))
    (hupload : uploadCreatives env req.packages store.toBuyRows = (uploaded, .ok packages)) :
    OrdersSame ⟨env.product, read⟩ (createMediaBuy env req ids).store.toBuyRows ids.mediaBuyId
        (directOrder env req ids packages) ↔
      ∀ pkg ∈ packages, ∃ product, env.product pkg.productId = some product ∧
        OrderedAlike env req pkg product := by
  obtain ⟨hgate, haccepted⟩ := createMediaBuy_accepted haccepted
  have hsources := uploadCreatives_ok hupload
  -- every named package is validated, so the two constructions can be compared
  have halike : ∀ named ∈ ids.named packages,
      (∃ direct, directPackage env req named = some direct ∧
        rebuildPackage ⟨env.product, read⟩ (pendingPackage env req ids named) = .ok direct) ↔
      ∃ product, env.product named.1.productId = some product ∧
        OrderedAlike env req named.1 product := by
    intro named hnamed
    obtain ⟨hmem, hid⟩ := mem_named hnamed
    obtain ⟨pkg, hpkg, hsame⟩ := exists_of_uploaded hsources hmem
    have hproductId : named.1.productId = pkg.productId := hsame.productId
    have hoverlay : named.1.targetingOverlay = pkg.targetingOverlay := hsame.targetingOverlay
    have hpricing : packagePricing env req named.1 = packagePricing env req pkg := hsame.pricing
    obtain ⟨hne, product, info, hproduct, hinfo⟩ := validated_package hgate hpkg
    rw [← hproductId] at hne hproduct
    rw [← hpricing] at hinfo
    rw [rebuildPackage_eq_iff (fun t ht => hread pkg hpkg t (hoverlay ▸ ht)) hid hne hproduct hinfo]
    simp [hproduct]
  have hnames : ∀ pkg ∈ packages, ∃ named ∈ ids.named packages, named.1 = pkg :=
    fun pkg hpkg => exists_named hpkg
  generalize createMediaBuy env req ids = outcome at haccepted
  cases haccepted with
  | configured hdirect _ _ =>
      rw [hmanual] at hdirect
      cases hdirect
  | ordered hdirect _ _ =>
      rw [hmanual] at hdirect
      cases hdirect
  | @pending packages' rows after _ hupload' hbooked =>
      rw [hupload] at hupload'
      cases hupload'
      have hid : ((newBuy env req ids.mediaBuyId packages).manualRow env.later).mediaBuyId =
          ids.mediaBuyId := (NewBuy.manualRow_inserted _ _).mediaBuyId
      have hrows : ∀ p, p ∈ after.packages.rows.filter (fun q => q.mediaBuyId = ids.mediaBuyId) ↔
          p ∈ (ids.named packages).map (pendingPackage env req ids) := by
        intro p
        rw [← mem_packages_of_booked hbooked ?_ p, hid]
        intro q hq
        obtain ⟨named, -, rfl⟩ := List.mem_map.mp hq
        exact hid.symm
      rw [ordersSame_iff_of_rows hrows (injOn_named hbooked.keys_nodup) ?_]
      · constructor
        · intro h pkg hpkg
          obtain ⟨named, hnamed, rfl⟩ := hnames pkg hpkg
          exact (halike named hnamed).mp (h named hnamed)
        · intro h named hnamed
          exact (halike named hnamed).mpr (h named.1 (mem_named hnamed).1)
      · -- a request without packages has no positive budget
        obtain ⟨pkg, hpkg, -⟩ := exists_budget_of_totalBudget_pos (budgetGate_of_createGate hgate)
        obtain ⟨i, hi, -⟩ := List.mem_iff_getElem.mp hpkg
        have hlt : i < packages.length := hsources.length_eq ▸ hi
        have hmem : packages[i] ∈ packages := List.getElem_mem _
        obtain ⟨named, hnamed, -⟩ := hnames _ hmem
        exact List.ne_nil_of_mem hnamed

end Approved

section Samples

/-- The sample tenant, whose product charges 20. -/
def dearerEnv : CreateEnv :=
  { sampleCreateEnv true true with
    product := fun p => if p = "prod_1" then some
      { sampleProduct true with
        pricingOptions := (sampleProduct true).pricingOptions.map
          (fun o => { o with rate := some 20 }) } else none }

/-- The sample product charges the default price basis, so its package is rebuilt alike. -/
theorem ordersSame_iff_sample :
    OrdersSame ⟨(sampleCreateEnv true true).product, fun t => some (some t)⟩
      (createMediaBuy (sampleCreateEnv true true) sampleCreateRequest sampleIds).store.toBuyRows
      "mb_1"
      (directOrder (sampleCreateEnv true true) sampleCreateRequest sampleIds
        sampleCreateRequest.packages) := by
  have hreply : (createMediaBuy (sampleCreateEnv true true) sampleCreateRequest
      sampleIds).reply = .submitted "step_1" := by decide +kernel
  have haccepted : ∀ err, (createMediaBuy (sampleCreateEnv true true) sampleCreateRequest
      sampleIds).reply ≠ .failed err := by
    intro err herr
    rw [hreply] at herr
    cases herr
  refine (ordersSame_iff haccepted rfl (fun _ _ _ _ => rfl) rfl).mpr ?_
  intro pkg hpkg
  obtain rfl := List.mem_singleton.mp hpkg
  refine ⟨sampleProduct true, rfl, rfl, by decide +kernel, rfl, by decide, ?_, rfl⟩
  intro f hf
  obtain rfl := List.mem_singleton.mp hf
  decide

/-- Counterexample: a create at once orders impressions at 10 whatever the product
charges, an approved one at its rate. -/
theorem dearer_product_orders_differ :
    (createMediaBuy dearerEnv sampleCreateRequest sampleIds).reply = .submitted "step_1" ∧
      ¬ OrdersSame ⟨dearerEnv.product, fun t => some (some t)⟩
        (createMediaBuy dearerEnv sampleCreateRequest sampleIds).store.toBuyRows "mb_1"
        (directOrder dearerEnv sampleCreateRequest sampleIds sampleCreateRequest.packages) := by
  refine ⟨by decide +kernel, ?_⟩
  rintro ⟨rebuilt, hrebuilt, hsame⟩
  have happroved : (rebuildPackages ⟨dearerEnv.product, fun t => some (some t)⟩
      (createMediaBuy dearerEnv sampleCreateRequest sampleIds).store.toBuyRows
      "mb_1").toOption.map (fun ps => ps.map (·.cpm)) = some [20] := by decide +kernel
  have hdirect : (directOrder dearerEnv sampleCreateRequest sampleIds
      sampleCreateRequest.packages).map (·.cpm) = [10] := by decide +kernel
  rw [hrebuilt] at happroved
  have hcpm : rebuilt.map (·.cpm) = [20] := by simpa [Except.toOption] using happroved
  have hmem : (20 : Decimal) ∈ rebuilt.map (·.cpm) := by simp [hcpm]
  obtain ⟨p, hp, hprice⟩ := List.mem_map.mp hmem
  have hprice' : p.cpm ∈ [(10 : Decimal)] := hdirect ▸ List.mem_map_of_mem ((hsame p).mp hp)
  rw [hprice] at hprice'
  norm_num at hprice'

end Samples

end MediaBuys
end SalesAgent
