import SalesAgent.MediaBuy.Delivery
import SalesAgent.Lib.Runs

/-!
# What a delivery report accounts for

Failures are caught at two levels of the loop over buys, the accumulators are updated late in its
body, and the advisory errors come from separate passes.

**Results.**
* `accounted_preserved`, `Accounted.of_run`: after any number of buys, each of them is either in
  the entries or in the errors, and the accumulators are the sums over the entries.
* `delivery_accounting_laws`: what a report says of each requested id, and when it fails.
-/

namespace SalesAgent
namespace MediaBuys

open Idempotency (Json)
open Runs

section Accumulators

variable {env : DeliveryEnv} {options : List (String × TenantOption)} {referenceDate : Int}

/-- A metric of the entries in total; nothing where no entry reports it. -/
def metricTotal
    (metric : BuyDelivery → Option Decimal)
    (entries : List BuyDelivery) : Option Decimal :=
  match entries.filterMap metric with
  | [] => none
  | x :: xs => some (x :: xs).sum

/-- The ids of the entries and of the errors of the loop. -/
def Tally.ids
    (tally : Tally) : List String :=
  tally.deliveries.map (·.mediaBuyId) ++ tally.adapterErrors.map (·.mediaBuyId)

/-- The accumulators are the sums over the entries, and each buy of a list is accounted for. -/
structure Accounted
    (rows : List DeliveryRow)
    (tally : Tally) : Prop where
  ids : tally.ids.Perm (rows.map DeliveryRow.mediaBuyId)
  codes : ∀ advisory ∈ tally.adapterErrors, advisory.code ≠ .mediaBuyNotFound
  spend : tally.totalSpend = (tally.deliveries.map fun entry => entry.totals.spend).sum
  impressions :
    tally.totalImpressions = (tally.deliveries.map fun entry => entry.totals.impressions).sum
  clicks : tally.totalClicks = (tally.deliveries.map fun entry => entry.totals.clicks).sum
  count : tally.mediaBuyCount = tally.deliveries.length
  conversions :
    tally.totalConversions = metricTotal (fun entry => entry.totals.conversions) tally.deliveries
  conversionValue :
    tally.totalConversionValue
      = metricTotal (fun entry => entry.totals.conversionValue) tally.deliveries

theorem Accounted.empty :
    Accounted [] Tally.empty where
  ids := .refl _
  codes := fun _ hmem => absurd hmem List.not_mem_nil
  spend := rfl
  impressions := rfl
  clicks := rfl
  count := rfl
  conversions := rfl
  conversionValue := rfl

theorem metricTotal_append
    (metric : BuyDelivery → Option Decimal)
    (entries : List BuyDelivery)
    (entry : BuyDelivery) :
    metricTotal metric (entries ++ [entry])
      = addMetric (metricTotal metric entries) (metric entry) := by
  rw [metricTotal, metricTotal, List.filterMap_append]
  cases hmetric : metric entry with
  | none =>
      rw [List.filterMap_cons_none hmetric, List.filterMap_nil, List.append_nil]
      rfl
  | some x =>
      rw [List.filterMap_cons_some hmetric, List.filterMap_nil]
      cases hentries : entries.filterMap metric with
      | nil =>
          show some ([x] : List Decimal).sum = some (0 + x)
          rw [List.sum_singleton, zero_add]
      | cons y ys =>
          show some ((y :: ys) ++ [x]).sum = some ((y :: ys).sum + x)
          rw [List.sum_append, List.sum_singleton]

theorem Accounted.deliver
    {rows : List DeliveryRow} {tally : Tally} {row : DeliveryRow} {entry : BuyDelivery}
    (h : Accounted rows tally)
    (hid : entry.mediaBuyId = row.mediaBuyId) :
    Accounted (rows ++ [row]) (tally.deliver entry) where
  ids := by
    rw [List.map_append, List.map_singleton, ← hid]
    show (List.map _ (tally.deliveries ++ [entry]) ++ _).Perm _
    rw [List.map_append, List.append_assoc]
    refine (List.perm_middle.trans (List.Perm.cons _ h.ids)).trans ?_
    exact (List.perm_append_singleton _ _).symm
  codes := h.codes
  spend := by
    show tally.totalSpend + _ = (List.map _ (tally.deliveries ++ [entry])).sum
    rw [h.spend, List.map_append, List.sum_append, List.map_singleton, List.sum_singleton]
  impressions := by
    show tally.totalImpressions + _ = (List.map _ (tally.deliveries ++ [entry])).sum
    rw [h.impressions, List.map_append, List.sum_append, List.map_singleton, List.sum_singleton]
  clicks := by
    show tally.totalClicks + _ = (List.map _ (tally.deliveries ++ [entry])).sum
    rw [h.clicks, List.map_append, List.sum_append, List.map_singleton, List.sum_singleton]
  count := by
    show tally.mediaBuyCount + 1 = (tally.deliveries ++ [entry]).length
    rw [h.count, List.length_append, List.length_singleton]
  conversions := by
    show addMetric tally.totalConversions _ = metricTotal _ (tally.deliveries ++ [entry])
    rw [h.conversions, metricTotal_append]
  conversionValue := by
    show addMetric tally.totalConversionValue _ = metricTotal _ (tally.deliveries ++ [entry])
    rw [h.conversionValue, metricTotal_append]

theorem Accounted.advise
    {rows : List DeliveryRow} {tally : Tally} {row : DeliveryRow} {code : AdvisoryCode}
    (h : Accounted rows tally)
    (hcode : code ≠ .mediaBuyNotFound) :
    Accounted (rows ++ [row]) (tally.advise ⟨code, row.mediaBuyId⟩) where
  ids := by
    rw [List.map_append, List.map_singleton]
    show (List.map _ tally.deliveries ++ List.map _ (tally.adapterErrors ++ [_])).Perm _
    rw [List.map_append, ← List.append_assoc]
    exact h.ids.append_right _
  codes := by
    intro error hmem
    rcases List.mem_append.mp hmem with hmem | hmem
    · exact h.codes error hmem
    · rw [List.mem_singleton.mp hmem]
      exact hcode
  spend := h.spend
  impressions := h.impressions
  clicks := h.clicks
  count := h.count
  conversions := h.conversions
  conversionValue := h.conversionValue

/-- One turn of the loop accounts for its buy. -/
theorem accounted_preserved
    {rows : List DeliveryRow} {row : DeliveryRow} {tally tally' : Tally}
    (hstep : tallyBuy env options referenceDate tally row = .ok tally')
    (h : Accounted rows tally) :
    Accounted (rows ++ [row]) tally' := by
  have hspec := processBuy_spec env options referenceDate row
  rw [tallyBuy] at hstep
  cases houtcome : processBuy env options referenceDate row with
  | delivered entry =>
      rw [houtcome] at hstep hspec
      cases hstep
      cases hspec with
      | delivered _ _ _ _ _ _ => exact h.deliver rfl
  | advised code =>
      rw [houtcome] at hstep hspec
      cases hstep
      cases hspec with
      | unanswered _ => exact h.advise (fun hcode => by cases hcode)
      | crashed => exact h.advise (fun hcode => by cases hcode)
  | raised failure =>
      rw [houtcome] at hstep
      cases hstep

/-- A loop that ends accounts for all buys. -/
theorem Accounted.of_run
    {rows : List DeliveryRow} {tally : Tally}
    (h : rows.foldlM (tallyBuy env options referenceDate) Tally.empty = .ok tally) :
    Accounted rows tally := by
  have hrun := (run_of_foldlM h).preserves_history
    (fun _ _ _ _ hrows hstep => accounted_preserved hstep hrows) Accounted.empty
  rwa [List.nil_append] at hrun

end Accumulators

section Stages

variable {env : DeliveryEnv} {store : DeliveryStore} {req : DeliveryRequest}

theorem getMediaBuyDelivery_eq_ok_iff
    {report : DeliveryReport} :
    getMediaBuyDelivery env store req = .ok report
      ↔ ∃ period targets wanted tally,
        reportingPeriod env req = .ok period
          ∧ targetMediaBuys env store req (dateOf period.2) = .ok targets
          ∧ targets.mapM wantedOptions = .ok wanted
          ∧ targets.foldlM
              (tallyBuy env (pooledOptions store wanted.flatten) (dateOf period.2)) Tally.empty
            = .ok tally
          ∧ report = reportOf env store period (notFoundErrors req targets) tally := by
  rw [getMediaBuyDelivery]
  constructor
  · intro h
    cases hperiod : reportingPeriod env req with
    | error failure =>
        rw [hperiod] at h
        cases h
    | ok period =>
        rw [hperiod] at h
        change (targetMediaBuys env store req (dateOf period.2)).bind _ = _ at h
        cases htargets : targetMediaBuys env store req (dateOf period.2) with
        | error failure =>
            rw [htargets] at h
            cases h
        | ok targets =>
            rw [htargets] at h
            change (targets.mapM wantedOptions).bind _ = _ at h
            cases hwanted : targets.mapM wantedOptions with
            | error failure =>
                rw [hwanted] at h
                cases h
            | ok wanted =>
                rw [hwanted] at h
                change (targets.foldlM (tallyBuy env (pooledOptions store wanted.flatten)
                  (dateOf period.2)) Tally.empty).bind _ = _ at h
                cases htally : targets.foldlM (tallyBuy env (pooledOptions store wanted.flatten)
                    (dateOf period.2)) Tally.empty with
                | error failure =>
                    rw [htally] at h
                    cases h
                | ok tally =>
                    rw [htally] at h
                    cases h
                    exact ⟨period, targets, wanted, tally, rfl, htargets, hwanted, htally, rfl⟩
  · rintro ⟨period, targets, wanted, tally, hperiod, htargets, hwanted, htally, rfl⟩
    rw [hperiod]
    change (targetMediaBuys env store req (dateOf period.2)).bind _ = _
    rw [htargets]
    change (targets.mapM wantedOptions).bind _ = _
    rw [hwanted]
    change (targets.foldlM (tallyBuy env (pooledOptions store wanted.flatten)
      (dateOf period.2)) Tally.empty).bind _ = _
    rw [htally]
    rfl

/-- Whether a buy passes the status filter. -/
def passesFilter
    (req : DeliveryRequest)
    (referenceDate : Int)
    (row : DeliveryRow) : Bool :=
  match row.stored.resolveCanonicalStatus referenceDate with
  | .error _ => false
  | .ok status => status.wire ∈ filterStatuses req

theorem filterMap_matches
    {referenceDate : Int}
    {rows : List DeliveryRow}
    {found : List (Option DeliveryRow)}
    (h : rows.mapM (matchesFilter req referenceDate) = .ok found) :
    found.filterMap id = rows.filter (passesFilter req referenceDate) := by
  induction rows generalizing found with
  | nil =>
      cases h
      rfl
  | cons row rows ih =>
      obtain ⟨first, rest, hfirst, hrest, rfl⟩ := mapM_cons_eq_ok.mp h
      rw [matchesFilter] at hfirst
      cases hstatus : row.stored.resolveCanonicalStatus referenceDate with
      | error refusal =>
          rw [hstatus] at hfirst
          cases hfirst
      | ok status =>
          rw [hstatus] at hfirst
          have hpasses : passesFilter req referenceDate row
              = decide (status.wire ∈ filterStatuses req) := by
            rw [passesFilter, hstatus]
          rw [List.filter_cons, hpasses, ← ih hrest]
          cases hfirst
          by_cases hmem : status.wire ∈ filterStatuses req
          · rw [if_pos hmem, if_pos (decide_eq_true hmem)]
            rfl
          · rw [if_neg hmem, if_neg (by rw [decide_eq_true_iff]; exact hmem)]
            rfl

theorem targetMediaBuys_eq
    {referenceDate : Int}
    {targets : List DeliveryRow}
    (h : targetMediaBuys env store req referenceDate = .ok targets) :
    targets = (fetchedBuys env store req).filter (passesFilter req referenceDate) := by
  rw [targetMediaBuys] at h
  cases hfound : (fetchedBuys env store req).mapM (matchesFilter req referenceDate) with
  | error failure =>
      rw [hfound] at h
      cases h
  | ok found =>
      rw [hfound] at h
      cases h
      exact filterMap_matches hfound

theorem nodup_targets
    {referenceDate : Int}
    {targets : List DeliveryRow}
    (h : targetMediaBuys env store req referenceDate = .ok targets) :
    (targets.map DeliveryRow.mediaBuyId).Nodup := by
  rw [targetMediaBuys_eq h]
  have hsub : ((fetchedBuys env store req).filter (passesFilter req referenceDate)).Sublist
      store.mediaBuys :=
    List.filter_sublist.trans List.filter_sublist
  exact store.unique.sublist (hsub.map _)

end Stages

section Accounting

variable {env : DeliveryEnv} {store : DeliveryStore} {req : DeliveryRequest}

/-- How often a report names a buy among its entries. -/
def DeliveryReport.entryCount
    (report : DeliveryReport)
    (mediaBuyId : String) : Nat :=
  (report.mediaBuyDeliveries.map (·.mediaBuyId)).count mediaBuyId

/-- The errors of a report that name a buy. -/
def DeliveryReport.errorsOf
    (report : DeliveryReport)
    (mediaBuyId : String) : List Advisory :=
  report.errors.filter fun advisory => advisory.mediaBuyId = mediaBuyId

/-- The sums over the returned entries, their number, and the notification they allow. -/
structure SumsUp
    (report : DeliveryReport) : Prop where
  spend :
    report.aggregatedTotals.spend
      = (report.mediaBuyDeliveries.map fun entry => entry.totals.spend).sum
  impressions :
    report.aggregatedTotals.impressions
      = (((report.mediaBuyDeliveries.map fun entry => entry.totals.impressions).sum : Int) : Decimal)
  clicks :
    report.aggregatedTotals.clicks.getD 0
      = (((report.mediaBuyDeliveries.map fun entry => entry.totals.clicks).sum : Int) : Decimal)
  conversions :
    report.aggregatedTotals.conversions
      = metricTotal (fun entry => entry.totals.conversions) report.mediaBuyDeliveries
  conversionValue :
    report.aggregatedTotals.conversionValue
      = metricTotal (fun entry => entry.totals.conversionValue) report.mediaBuyDeliveries
  count : report.aggregatedTotals.mediaBuyCount = report.mediaBuyDeliveries.length
  final :
    report.notificationType = some .final →
      report.mediaBuyDeliveries ≠ []
        ∧ ∀ entry ∈ report.mediaBuyDeliveries, entry.status.noMoreData = true

/-- What a report says of the buys it goes over and of the ids that are requested. -/
structure AccountsFor
    (req : DeliveryRequest)
    (targets : List DeliveryRow)
    (report : DeliveryReport) : Prop where
  once :
    ∀ row ∈ targets,
      report.entryCount row.mediaBuyId + (report.errorsOf row.mediaBuyId).length = 1
        ∧ ∀ advisory ∈ report.errorsOf row.mediaBuyId, advisory.code ≠ .mediaBuyNotFound
  notFound :
    ∀ mediaBuyId ∉ targets.map DeliveryRow.mediaBuyId,
      report.entryCount mediaBuyId = 0
        ∧ report.errorsOf mediaBuyId
          = List.replicate (req.mediaBuyIds.count mediaBuyId) ⟨.mediaBuyNotFound, mediaBuyId⟩

theorem notFound_filter
    (targets : List DeliveryRow)
    (mediaBuyId : String) :
    (notFoundErrors req targets).filter (fun advisory => advisory.mediaBuyId = mediaBuyId)
      = if mediaBuyId ∈ targets.map DeliveryRow.mediaBuyId then []
        else List.replicate (req.mediaBuyIds.count mediaBuyId) ⟨.mediaBuyNotFound, mediaBuyId⟩ := by
  rw [notFoundErrors]
  induction req.mediaBuyIds with
  | nil =>
      split
      · rfl
      · rfl
  | cons first rest ih =>
      rw [List.filter_cons]
      by_cases hfirst : first ∈ targets.map DeliveryRow.mediaBuyId
      · rw [if_neg (by rw [decide_eq_true_iff]; exact not_not_intro hfirst), ih]
        split
        · rfl
        · next hmissing =>
            have hne : first ≠ mediaBuyId := fun heq => hmissing (heq ▸ hfirst)
            rw [List.count_cons_of_ne hne]
      · rw [if_pos (decide_eq_true hfirst), List.map_cons, List.filter_cons]
        by_cases heq : first = mediaBuyId
        · rw [if_pos (decide_eq_true heq), ih, ← heq, if_neg hfirst, if_neg hfirst,
            List.count_cons_self, List.replicate_succ]
        · rw [if_neg (by rw [decide_eq_true_iff]; exact heq), ih, List.count_cons_of_ne heq]

theorem length_filter_id
    (errors : List Advisory)
    (mediaBuyId : String) :
    (errors.filter fun advisory => advisory.mediaBuyId = mediaBuyId).length
      = (errors.map (·.mediaBuyId)).count mediaBuyId := by
  induction errors with
  | nil => rfl
  | cons first rest ih =>
      rw [List.filter_cons, List.map_cons]
      by_cases heq : first.mediaBuyId = mediaBuyId
      · rw [if_pos (decide_eq_true heq), List.length_cons, ih, heq, List.count_cons_self]
      · rw [if_neg (by rw [decide_eq_true_iff]; exact heq), ih, List.count_cons_of_ne heq]

theorem accountsFor_of_accounted
    {period : DateTime × DateTime}
    {targets : List DeliveryRow}
    {tally : Tally}
    (h : Accounted targets tally)
    (hnodup : (targets.map DeliveryRow.mediaBuyId).Nodup) :
    AccountsFor req targets (reportOf env store period (notFoundErrors req targets) tally) := by
  have hcount (mediaBuyId : String) :
      (tally.deliveries.map (·.mediaBuyId)).count mediaBuyId
          + (tally.adapterErrors.map (·.mediaBuyId)).count mediaBuyId
        = (targets.map DeliveryRow.mediaBuyId).count mediaBuyId := by
    rw [← h.ids.count_eq mediaBuyId, Tally.ids, List.count_append]
  have herrors (mediaBuyId : String) :
      (reportOf env store period (notFoundErrors req targets) tally).errorsOf mediaBuyId
        = (notFoundErrors req targets).filter (fun advisory => advisory.mediaBuyId = mediaBuyId)
          ++ tally.adapterErrors.filter fun advisory => advisory.mediaBuyId = mediaBuyId :=
    List.filter_append _ _
  constructor
  · intro row hrow
    have hmem : row.mediaBuyId ∈ targets.map DeliveryRow.mediaBuyId := List.mem_map_of_mem hrow
    have hone := hcount row.mediaBuyId
    rw [List.count_eq_one_of_mem hnodup hmem, ← length_filter_id] at hone
    rw [herrors, notFound_filter, if_pos hmem, List.nil_append]
    refine ⟨hone, fun advisory hadvisory => ?_⟩
    exact h.codes advisory (List.mem_filter.mp hadvisory).1
  · intro mediaBuyId hmissing
    have hzero := hcount mediaBuyId
    rw [List.count_eq_zero_of_not_mem hmissing, ← length_filter_id] at hzero
    obtain ⟨hentries, hadvisories⟩ := Nat.add_eq_zero_iff.mp hzero
    rw [herrors, notFound_filter, if_neg hmissing, List.eq_nil_of_length_eq_zero hadvisories,
      List.append_nil]
    exact ⟨hentries, rfl⟩

theorem sumsUp_of_accounted
    {period : DateTime × DateTime}
    {notFound : List Advisory}
    {targets : List DeliveryRow}
    {tally : Tally}
    (h : Accounted targets tally) :
    SumsUp (reportOf env store period notFound tally) where
  spend := h.spend
  impressions := congrArg Int.cast h.impressions
  clicks := by
    show (if tally.totalClicks = 0 then none else some (tally.totalClicks : Decimal)).getD 0 = _
    have hclicks : ((tally.totalClicks : Int) : Decimal)
        = (((tally.deliveries.map fun entry => entry.totals.clicks).sum : Int) : Decimal) :=
      congrArg Int.cast h.clicks
    by_cases hzero : tally.totalClicks = 0
    · rw [if_pos hzero]
      rw [hzero, Int.cast_zero] at hclicks
      exact hclicks
    · rw [if_neg hzero]
      exact hclicks
  conversions := h.conversions
  conversionValue := h.conversionValue
  count := h.count
  final := by
    intro hfinal
    change notificationTypeOf tally.deliveries = some .final at hfinal
    rw [notificationTypeOf] at hfinal
    split at hfinal
    · cases hfinal
    · next hsome =>
        split at hfinal
        · next hall => exact ⟨hsome, fun entry hmem => List.all_eq_true.mp hall entry hmem⟩
        · cases hfinal

/-- The option of an id in the pool: the last one of the tenant's products that has it. -/
def pooledOption
    (store : DeliveryStore)
    (pricingOptionId : String) : Option TenantOption :=
  store.pricingOptions.reverse.find? fun option => option.pricingOptionId = pricingOptionId

/-- The option that a package of a raw request is reported with. -/
def optionOf
    (store : DeliveryStore)
    (pkg : List (String × Json)) : Option TenantOption :=
  match pricingOptionIdOf pkg with
  | some (.str pricingOptionId) => pooledOption store pricingOptionId
  | _ => none

theorem lookup_map_id
    (options : List TenantOption)
    (key : String) :
    (options.map fun option => (option.pricingOptionId, option)).lookup key
      = options.find? fun option => option.pricingOptionId = key := by
  induction options with
  | nil => rfl
  | cons option options ih =>
      rw [List.map_cons, List.lookup_cons, List.find?_cons, ih]
      by_cases heq : option.pricingOptionId = key
      · rw [decide_eq_true heq, beq_iff_eq.mpr heq.symm]
      · rw [decide_eq_false heq, beq_false_of_ne (Ne.symm heq)]

theorem dictGet_pooledOptions
    {wanted : List Json}
    {key : String}
    (hmem : .str key ∈ wanted) :
    dictGet (pooledOptions store wanted) (.str key) = .ok (pooledOption store key) := by
  show Except.ok ((pooledOptions store wanted).reverse.lookup key) = _
  rw [pooledOptions, ← List.map_reverse, lookup_map_id, ← List.filter_reverse, List.find?_filter,
    pooledOption]
  refine congrArg Except.ok (congrArg (fun test => List.find? test _) ?_)
  funext option
  by_cases heq : option.pricingOptionId = key
  · simp [heq, hmem]
  · simp [heq]

theorem optionOf_eq
    {row : DeliveryRow}
    {pkgs : List (List (String × Json))}
    {own wanted : List Json}
    (hown : wantedOptions row = .ok own)
    (hwanted : ∀ id ∈ own, id ∈ wanted)
    (hpkgs : rawPackages row.rawRequest = .ok pkgs)
    {pkg : List (String × Json)}
    (hpkg : pkg ∈ pkgs) :
    (pricingOptionIdOf pkg).elim (.ok none) (dictGet (pooledOptions store wanted))
      = .ok (optionOf store pkg) := by
  rw [wantedOptions, hpkgs] at hown
  dsimp only at hown
  split at hown
  · next hhashable =>
      cases hown
      cases hid : pricingOptionIdOf pkg with
      | none =>
          rw [optionOf, hid]
          rfl
      | some id =>
          obtain ⟨hlookup, htruthy⟩ := Option.filter_eq_some_iff.mp hid
          have hne : id ≠ .null := by
            intro hnull
            rw [hnull] at htruthy
            cases htruthy
          have hmem : id ∈ pkgs.filterMap fun pkg =>
              (pkg.lookup "pricing_option_id").filter (· ≠ .null) := by
            refine List.mem_filterMap.mpr ⟨pkg, hpkg, ?_⟩
            rw [hlookup]
            exact Option.filter_some_pos (decide_eq_true hne)
          have hhash := List.all_eq_true.mp hhashable id hmem
          rw [optionOf, hid]
          cases id with
          | str key => exact dictGet_pooledOptions (hwanted _ hmem)
          | null => rfl
          | bool b => rfl
          | num text => rfl
          | arr items => cases hhash
          | obj fields => cases hhash
  · cases hown

/-- The terms of each package are stated, by what was agreed for it or by the option it names. -/
def Termed
    (env : DeliveryEnv)
    (store : DeliveryStore)
    (row : DeliveryRow) : Prop :=
  ∀ pricing pkgs, packagePricingMap row.packages = .ok pricing →
    rawPackages row.rawRequest = .ok pkgs →
    ∀ pkg ∈ pkgs.zipIdx, ∀ info, dictGet pricing (packageIdOf env pkg.2 pkg.1) = .ok info →
      info.elim (.ok none) (termsOfInfo env) ≠ .ok none
        ∨ ((optionOf store pkg.1).bind TenantOption.terms).isSome

theorem termsOfInfo_ne_untermed
    (info packageId : Json) :
    termsOfInfo env info ≠ .error (.untermed packageId) := by
  rw [termsOfInfo.eq_def]
  split
  · split
    · split
      · exact fun h => by cases h
      · exact fun h => by cases h
    · exact fun h => by cases h
  · exact fun h => by cases h

theorem statedTerms_untermed
    {packageId id : Json}
    {info : Option Json}
    {option : Option TenantOption}
    (h : statedTerms env packageId info option = .error (.untermed id)) :
    info.elim (.ok none) (termsOfInfo env) = .ok none
      ∧ option.bind TenantOption.terms = none := by
  rw [statedTerms] at h
  cases hinfo : (info.elim (.ok none) (termsOfInfo env) : Except BuyFailure (Option PackageTerms)) with
  | error failure =>
      rw [hinfo] at h
      cases h
      cases info with
      | none => cases hinfo
      | some document => exact absurd hinfo (termsOfInfo_ne_untermed _ _)
  | ok stated =>
      rw [hinfo] at h
      cases stated with
      | some terms => cases h
      | none =>
          dsimp only at h
          cases hoption : option.bind TenantOption.terms with
          | none => exact ⟨rfl, rfl⟩
          | some terms =>
              rw [hoption] at h
              cases h

/-- A buy with a readable status and stated terms fails no request. -/
theorem processBuy_ne_raised
    {referenceDate : Int}
    {row : DeliveryRow}
    {status : CanonicalStatus}
    {own wanted : List Json}
    (hstatus : row.stored.resolveCanonicalStatus referenceDate = .ok status)
    (hown : wantedOptions row = .ok own)
    (hwanted : ∀ id ∈ own, id ∈ wanted)
    (htermed : Termed env store row)
    (failure : RequestFailure) :
    processBuy env (pooledOptions store wanted) referenceDate row ≠ .raised failure := by
  intro houtcome
  have hspec := processBuy_spec env (pooledOptions store wanted) referenceDate row
  rw [houtcome] at hspec
  cases hspec with
  | unreadable hrefused =>
      rw [hstatus] at hrefused
      cases hrefused
  | untermed hpricing hpkgs hitems =>
      obtain ⟨pkg, hpkg, hfails⟩ := packageDeliveries_eq_error hitems
      obtain ⟨info, option, hinfo, hoption, hterms⟩ := packageDelivery_untermed hfails
      rw [optionOf_eq hown hwanted hpkgs (List.fst_mem_of_mem_zipIdx hpkg)] at hoption
      cases hoption
      obtain ⟨hagreed, hnamed⟩ := statedTerms_untermed hterms
      rcases htermed _ _ hpricing hpkgs pkg hpkg info hinfo with hne | hsome
      · exact hne hagreed
      · rw [hnamed] at hsome
        cases hsome

/-- A loop over buys none of which fails the request ends. -/
theorem exists_tally
    {options : List (String × TenantOption)}
    {referenceDate : Int}
    {rows : List DeliveryRow}
    (tally : Tally)
    (hrows : ∀ row ∈ rows, ∀ failure,
      processBuy env options referenceDate row ≠ .raised failure) :
    ∃ tally', rows.foldlM (tallyBuy env options referenceDate) tally = .ok tally' := by
  cases hfold : rows.foldlM (tallyBuy env options referenceDate) tally with
  | ok tally' => exact ⟨tally', rfl⟩
  | error failure =>
      obtain ⟨_, row, reached, -, hrow, hfails⟩ := exists_step_of_foldlM_error hfold
      rw [tallyBuy] at hfails
      cases houtcome : processBuy env options referenceDate row with
      | delivered entry =>
          rw [houtcome] at hfails
          cases hfails
      | advised code =>
          rw [houtcome] at hfails
          cases hfails
      | raised failure' => exact absurd houtcome (hrows row hrow failure')

/-- The delivery report of a request. -/
theorem delivery_accounting_laws
    (env : DeliveryEnv)
    (store : DeliveryStore)
    (req : DeliveryRequest) :
    (∀ period, reportingPeriod env req = .ok period →
      (∀ row ∈ fetchedBuys env store req, ∃ status,
        row.stored.resolveCanonicalStatus (dateOf period.2) = .ok status) →
      (∀ row ∈ fetchedBuys env store req, passesFilter req (dateOf period.2) row = true →
        (∃ wanted, wantedOptions row = .ok wanted) ∧ Termed env store row) →
      ∃ report, getMediaBuyDelivery env store req = .ok report)
    ∧ ∀ report, getMediaBuyDelivery env store req = .ok report →
      ∃ period targets, reportingPeriod env req = .ok period
        ∧ (∀ row, row ∈ targets
          ↔ row ∈ fetchedBuys env store req ∧ passesFilter req (dateOf period.2) row = true)
        ∧ AccountsFor req targets report
        ∧ SumsUp report := by
  refine ⟨?_, ?_⟩
  · intro period hperiod hreadable htermed
    have hmatched : ∀ row ∈ fetchedBuys env store req, ∃ found,
        matchesFilter req (dateOf period.2) row = .ok found := by
      intro row hrow
      obtain ⟨status, hstatus⟩ := hreadable row hrow
      rw [matchesFilter, hstatus]
      exact ⟨_, rfl⟩
    obtain ⟨found, hfound⟩ := exists_mapM_eq_ok_iff.mpr hmatched
    have htargets : targetMediaBuys env store req (dateOf period.2)
        = .ok (found.filterMap id) := by
      rw [targetMediaBuys, hfound]
      rfl
    have hmem (row : DeliveryRow) (hrow : row ∈ found.filterMap id) :
        row ∈ fetchedBuys env store req ∧ passesFilter req (dateOf period.2) row = true := by
      rw [targetMediaBuys_eq htargets] at hrow
      exact List.mem_filter.mp hrow
    obtain ⟨wanted, hwanted⟩ := exists_mapM_eq_ok_iff.mpr
      (fun row hrow => (htermed row (hmem row hrow).1 (hmem row hrow).2).1)
    obtain ⟨tally, htally⟩ := @exists_tally env (pooledOptions store wanted.flatten)
      (dateOf period.2) (found.filterMap id) Tally.empty (by
        intro row hrow failure
        obtain ⟨hfetched, hpasses⟩ := hmem row hrow
        obtain ⟨status, hstatus⟩ := hreadable row hfetched
        obtain ⟨⟨own, hown⟩, hterms⟩ := htermed row hfetched hpasses
        refine processBuy_ne_raised hstatus hown (fun id hid => ?_) hterms failure
        exact List.mem_flatten.mpr ⟨own, (mem_of_mapM_eq_ok hwanted own).mpr ⟨row, hrow, hown⟩, hid⟩)
    exact ⟨_, getMediaBuyDelivery_eq_ok_iff.mpr
      ⟨period, _, wanted, tally, hperiod, htargets, hwanted, htally, rfl⟩⟩
  · intro report hreport
    obtain ⟨period, targets, wanted, tally, hperiod, htargets, -, htally, rfl⟩ :=
      getMediaBuyDelivery_eq_ok_iff.mp hreport
    have haccounted := Accounted.of_run htally
    refine ⟨period, targets, hperiod, fun row => ?_, ?_, sumsUp_of_accounted haccounted⟩
    · rw [targetMediaBuys_eq htargets]
      exact List.mem_filter
    · exact accountsFor_of_accounted haccounted (nodup_targets htargets)

end Accounting

section Samples

/-- An active buy in its flight with one package, which names a pricing option. -/
def servingRow
    (mediaBuyId pricingOptionId : String) : DeliveryRow where
  stored :=
    { mediaBuyId := mediaBuyId
      status := some "active"
      startDate := some 0
      endDate := some 30
      startTime := none
      endTime := none
      isPaused := false }
  tenantId := "acme"
  principalId := "buyer"
  rawRequest :=
    .obj [("packages",
      .arr [.obj [("package_id", .str "p1"), ("pricing_option_id", .str pricingOptionId)]])]
  packages := []

theorem servingRows_unique :
    ([servingRow "mb_1" "cpm_usd_fixed", servingRow "mb_2" "cpm_usd_auction"].map
      DeliveryRow.mediaBuyId).Nodup := by
  decide

/-- Two buys; the option of the second has no rate. -/
def servingStore : DeliveryStore where
  mediaBuys := [servingRow "mb_1" "cpm_usd_fixed", servingRow "mb_2" "cpm_usd_auction"]
  pricingOptions :=
    [⟨"prod_1", "cpm_usd_fixed", "cpm", some 10, "USD"⟩,
      ⟨"prod_1", "cpm_usd_auction", "cpm", none, "USD"⟩]
  maxSequence := fun _ => 0
  unique := servingRows_unique

/-- An adapter that answers ten impressions for each buy. -/
def servingEnv : DeliveryEnv where
  tenantId := "acme"
  principalId := "buyer"
  now := 0
  later := 0
  adapter := fun _ => some ⟨[], { impressions := some 10, spend := some 1 }⟩
  reportingCircuitOpen := false
  float := fun _ => none
  reprOf := fun _ => ""
  breakdowns := fun _ _ _ _ => some .null
  fitsPackage := fun _ => true
  fitsBuy := fun _ => true

/-- A package without terms fails the report of another buy, and an id that is asked for twice is
twice not found. -/
theorem delivery_accounting_fails :
    (∃ failure, getMediaBuyDelivery servingEnv servingStore
        { mediaBuyIds := ["mb_1", "mb_2"] } = .error failure)
      ∧ ∃ report, getMediaBuyDelivery servingEnv servingStore
          { mediaBuyIds := ["mb_3", "mb_3"] } = .ok report
        ∧ (report.errorsOf "mb_3").length = 2 := by
  refine ⟨?_, _, rfl, rfl⟩
  have hfails : (getMediaBuyDelivery servingEnv servingStore
      { mediaBuyIds := ["mb_1", "mb_2"] }).toBool = false := by
    decide +kernel
  cases hreport : getMediaBuyDelivery servingEnv servingStore
      { mediaBuyIds := ["mb_1", "mb_2"] } with
  | error failure => exact ⟨failure, rfl⟩
  | ok report =>
      rw [hreport] at hfails
      cases hfails

end Samples

end MediaBuys
end SalesAgent
