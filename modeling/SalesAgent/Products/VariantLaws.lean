import SalesAgent.Products.Variants
import Mathlib.Data.List.Nodup

/-!
# What a brief does to the variants

A brief goes through the active templates, and for every template through the signals that it
takes; each signal with a usable key is an offer, which creates the variant of its key or keeps
it longer.  The rows that are returned and the ids that are stored are read off the offers.

The answers of the signals agents are kept apart here, since a template may name its agents.

**Results.**
* `offered_generated`: the rows that are returned and stored are those of the offers.
* `repeated_brief`: a brief that is repeated creates no product.
* `variant_laws_iff`: when a brief keeps the variants of different keys, templates and agents
  apart, returns each variant once, and leaves the archived ones alone.
-/

namespace SalesAgent
namespace Products

section Offers

variable (env : SignalsEnv)

/-- What is hashed of a key. -/
def hashInput : ActivationKey → String
  | .keyValue k v => k ++ ":" ++ v
  | .segmentId s => "segment:" ++ s

/-- The part of the hash that an id carries. -/
def hashSuffix
    (md5Hex : String → String)
    (input : String) : List Char :=
  (md5Hex input).toList.take 8

theorem generateVariantId_eq
    (md5Hex : String → String)
    (templateId : String)
    (key : ActivationKey) :
    generateVariantId md5Hex templateId key
      = templateId ++ "__variant_" ++ String.ofList (hashSuffix md5Hex (hashInput key)) := by
  cases key with
  | keyValue k v => rfl
  | segmentId s => rfl

/-- The usable keys of signals, in order. -/
def usableKeys
    (signals : List Signal) : List ActivationKey :=
  signals.filterMap fun signal => extractActivationKey signal env.ourAgentUrl

/-- A key offered for a template. -/
abbrev Offer := ProductRow × ActivationKey

/-- The id of the variant of an offer. -/
def Offer.variantId
    (offer : Offer) : String :=
  generateVariantId env.md5Hex offer.1.productId offer.2

/-- The offers of templates, in the order in which they are made. -/
def offers
    (templates : List ProductRow)
    (signals : List Signal) : List Offer :=
  templates.flatMap fun template =>
    (usableKeys env (templateSignals template signals)).map fun key => (template, key)

/-- The variant that an offer gives in a table. -/
def offeredVariant
    (catalogue : Catalogue)
    (template : ProductRow)
    (signal : Signal)
    (key : ActivationKey) : ProductRow :=
  match catalogue.find (template.tenantId, generateVariantId env.md5Hex template.productId key) with
  | some existing => refreshVariant env template existing
  | none =>
      createVariantFromTemplate env template signal key
        (generateVariantId env.md5Hex template.productId key)

theorem offerSignal_of_key
    {template : ProductRow}
    {generated : Generated}
    {signal : Signal}
    {key : ActivationKey}
    (h : extractActivationKey signal env.ourAgentUrl = some key) :
    offerSignal env template generated signal
      = (generated.1 ++ [offeredVariant env generated.2 template signal key],
          generated.2.put (offeredVariant env generated.2 template signal key)) := by
  rw [offerSignal, h]
  rfl

theorem offerSignal_of_none
    {template : ProductRow}
    {generated : Generated}
    {signal : Signal}
    (h : extractActivationKey signal env.ourAgentUrl = none) :
    offerSignal env template generated signal = generated := by
  rw [offerSignal, h]

/-- A variant is stored under the id of its offer. -/
theorem offeredVariant_key
    (catalogue : Catalogue)
    (template : ProductRow)
    (signal : Signal)
    (key : ActivationKey) :
    (offeredVariant env catalogue template signal key).tenantId = template.tenantId
      ∧ (offeredVariant env catalogue template signal key).productId
        = generateVariantId env.md5Hex template.productId key := by
  rw [offeredVariant]
  cases hfound : catalogue.find
      (template.tenantId, generateVariantId env.md5Hex template.productId key) with
  | none => exact ⟨rfl, rfl⟩
  | some existing =>
      have hkey := (catalogue.find_eq_some_iff.mp hfound).2
      simp only [Option.some.injEq, Prod.mk.injEq] at hkey
      exact hkey

/-- The rows that a run of offers touches, and what it does to them. -/
structure Offered
    (before : Catalogue)
    (made : List Offer)
    (generated : Generated) : Prop where
  /-- the ids that are returned -/
  ids : generated.1.map ProductRow.productId = made.map (Offer.variantId env)
  /-- a stored row is kept but for its dates -/
  kept :
    ∀ id row, before.find id = some row →
      ∃ lastSyncedAt expiresAt, generated.2.find id
        = some { row with lastSyncedAt := lastSyncedAt, expiresAt := expiresAt }
  /-- a row that was not stored is the variant of an offer -/
  created :
    ∀ id row, before.find id = none → generated.2.find id = some row →
      row.isDynamic = false ∧ row.archivedAt = none
  /-- the ids that are stored -/
  stored :
    ∀ id, (generated.2.find id).isSome
      ↔ (before.find id).isSome ∨ ∃ offer ∈ made, id = (offer.1.tenantId, offer.variantId env)
  /-- a row that no offer names is left alone -/
  untouched :
    ∀ id, (∀ offer ∈ made, id ≠ (offer.1.tenantId, offer.variantId env)) →
      generated.2.find id = before.find id
  /-- a returned row is archived as the stored one was -/
  archived :
    ∀ row ∈ generated.1, row.archivedAt
      = (before.find (row.tenantId, row.productId)).bind ProductRow.archivedAt
  /-- a returned row is that of an offer -/
  returned :
    ∀ row ∈ generated.1, ∃ offer ∈ made, row.tenantId = offer.1.tenantId
      ∧ row.productId = offer.variantId env

end Offers

section Runs

variable {env : SignalsEnv}

theorem Offered.nil
    (before : Catalogue) :
    Offered env before [] ([], before) where
  ids := rfl
  kept := fun id row h => ⟨row.lastSyncedAt, row.expiresAt, h⟩
  created := fun id row hnone hsome => by
    rw [hnone] at hsome
    cases hsome
  stored := fun id => by simp
  untouched := fun id _ => rfl
  archived := fun row h => absurd h List.not_mem_nil
  returned := fun row h => absurd h List.not_mem_nil

/-- One more offer. -/
theorem Offered.snoc
    {before : Catalogue}
    {made : List Offer}
    {generated : Generated}
    (h : Offered env before made generated)
    (template : ProductRow)
    (signal : Signal)
    (key : ActivationKey) :
    Offered env before (made ++ [(template, key)])
      (generated.1 ++ [offeredVariant env generated.2 template signal key],
        generated.2.put (offeredVariant env generated.2 template signal key)) := by
  obtain ⟨htenant, hid⟩ := offeredVariant_key env generated.2 template signal key
  let variant := offeredVariant env generated.2 template signal key
  let named : String × String :=
    (template.tenantId, generateVariantId env.md5Hex template.productId key)
  have hkey : some (variant.tenantId, variant.productId) = some named := by
    rw [htenant, hid]
  have hself : (generated.2.put variant).find named = some variant :=
    generated.2.find_put_self hkey
  have hother (id : String × String) (hne : id ≠ named) :
      (generated.2.put variant).find id = generated.2.find id := by
    refine generated.2.find_put_of_ne ?_
    rw [hkey]
    exact fun heq => hne (Option.some.inj heq).symm
  have hvariant : variant = match generated.2.find named with
      | some existing => refreshVariant env template existing
      | none => createVariantFromTemplate env template signal key named.2 := rfl
  have harchived : variant.archivedAt
      = (before.find (variant.tenantId, variant.productId)).bind ProductRow.archivedAt := by
    rw [Option.some.inj hkey]
    cases hbefore : before.find named with
    | some row =>
        obtain ⟨lastSyncedAt, expiresAt, hfound⟩ := h.kept named row hbefore
        rw [hvariant, hfound]
        rfl
    | none =>
        cases hfound : generated.2.find named with
        | none =>
            rw [hvariant, hfound]
            rfl
        | some row =>
            rw [hvariant, hfound]
            exact (h.created named row hbefore hfound).2
  constructor
  · rw [List.map_append, List.map_append, h.ids]
    exact congrArg (made.map (Offer.variantId env) ++ [·]) hid
  · intro id row hbefore
    obtain ⟨lastSyncedAt, expiresAt, hfound⟩ := h.kept id row hbefore
    by_cases hsame : id = named
    · subst hsame
      refine ⟨some env.now, variant.expiresAt, hself.trans ?_⟩
      rw [hvariant, hfound]
      rfl
    · exact ⟨lastSyncedAt, expiresAt, (hother id hsame).trans hfound⟩
  · intro id row hbefore hfound
    by_cases hsame : id = named
    · subst hsame
      have hrow : variant = row := Option.some.inj (hself.symm.trans hfound)
      rw [← hrow]
      cases hprior : generated.2.find named with
      | none =>
          rw [hvariant, hprior]
          exact ⟨rfl, rfl⟩
      | some existing =>
          rw [hvariant, hprior]
          exact h.created named existing hbefore hprior
    · exact h.created id row hbefore ((hother id hsame).symm.trans hfound)
  · intro id
    by_cases hsame : id = named
    · subst hsame
      refine iff_of_true ?_ (.inr ⟨(template, key), ?_, rfl⟩)
      · exact Option.isSome_iff_exists.mpr ⟨variant, hself⟩
      · exact List.mem_append_right _ (List.mem_singleton_self _)
    · have hprior := h.stored id
      rw [← hother id hsame] at hprior
      refine hprior.trans (or_congr Iff.rfl ⟨?_, ?_⟩)
      · rintro ⟨offer, hmem, heq⟩
        exact ⟨offer, List.mem_append_left _ hmem, heq⟩
      · rintro ⟨offer, hmem, heq⟩
        rcases List.mem_append.mp hmem with hmem | hmem
        · exact ⟨offer, hmem, heq⟩
        · rw [List.mem_singleton.mp hmem] at heq
          exact absurd heq hsame
  · intro id hnone
    have hne : id ≠ named :=
      hnone (template, key) (List.mem_append_right _ (List.mem_singleton_self _))
    rw [hother id hne]
    exact h.untouched id fun offer hmem => hnone offer (List.mem_append_left _ hmem)
  · intro row hmem
    rcases List.mem_append.mp hmem with hmem | hmem
    · exact h.archived row hmem
    · rw [List.mem_singleton.mp hmem]
      exact harchived
  · intro row hmem
    rcases List.mem_append.mp hmem with hmem | hmem
    · obtain ⟨offer, hmade, hsame⟩ := h.returned row hmem
      exact ⟨offer, List.mem_append_left _ hmade, hsame⟩
    · rw [List.mem_singleton.mp hmem]
      exact ⟨(template, key), List.mem_append_right _ (List.mem_singleton_self _), htenant, hid⟩

theorem usableKeys_cons_none
    {signal : Signal}
    (h : extractActivationKey signal env.ourAgentUrl = none)
    (signals : List Signal) :
    usableKeys env (signal :: signals) = usableKeys env signals :=
  List.filterMap_cons_none h

theorem usableKeys_cons_some
    {signal : Signal}
    {key : ActivationKey}
    (h : extractActivationKey signal env.ourAgentUrl = some key)
    (signals : List Signal) :
    usableKeys env (signal :: signals) = key :: usableKeys env signals :=
  List.filterMap_cons_some h

theorem Offered.signals
    {before : Catalogue}
    (template : ProductRow)
    (signals : List Signal)
    {made : List Offer}
    {generated : Generated}
    (h : Offered env before made generated) :
    Offered env before (made ++ (usableKeys env signals).map fun key => (template, key))
      (generateVariantsFromSignals env template signals generated) := by
  rw [generateVariantsFromSignals]
  induction signals generalizing made generated with
  | nil =>
      rw [usableKeys, List.filterMap_nil, List.map_nil, List.append_nil]
      exact h
  | cons signal signals ih =>
      rw [List.foldl_cons]
      cases hkey : extractActivationKey signal env.ourAgentUrl with
      | none =>
          rw [offerSignal_of_none env hkey, usableKeys_cons_none hkey]
          exact ih h
      | some key =>
          rw [offerSignal_of_key env hkey, usableKeys_cons_some hkey, List.map_cons,
            List.append_cons]
          exact ih (h.snoc template signal key)

theorem Offered.templates
    {before : Catalogue}
    (signals : List Signal)
    (templates : List ProductRow)
    {made : List Offer}
    {generated : Generated}
    (h : Offered env before made generated) :
    Offered env before (made ++ offers env templates signals)
      (templates.foldl
        (fun generated template =>
          generateVariantsFromSignals env template (templateSignals template signals) generated)
        generated) := by
  induction templates generalizing made generated with
  | nil =>
      rw [offers, List.flatMap_nil, List.append_nil]
      exact h
  | cons template templates ih =>
      rw [List.foldl_cons, offers, List.flatMap_cons, ← List.append_assoc]
      exact ih (h.signals template _)

end Runs

section Briefs

variable {env : SignalsEnv}

/-- The active templates of the tenant. -/
def activeTemplates
    (tenantId : String)
    (catalogue : Catalogue) : List ProductRow :=
  catalogue.rows.filter (ProductRow.activeTemplate tenantId)

theorem mem_activeTemplates
    {tenantId : String}
    {catalogue : Catalogue}
    {row : ProductRow} :
    row ∈ activeTemplates tenantId catalogue
      ↔ row ∈ catalogue ∧ row.activeTemplate tenantId = true :=
  List.mem_filter

theorem tenantId_of_active
    {tenantId : String}
    {row : ProductRow}
    (h : row.activeTemplate tenantId = true) :
    row.tenantId = tenantId := by
  rw [ProductRow.activeTemplate, Bool.and_eq_true, Bool.and_eq_true] at h
  exact of_decide_eq_true h.1.1

theorem takesSignals_of_silent
    {template : ProductRow}
    (h : template.asksSignals = false) :
    template.takesSignals = false := by
  rw [ProductRow.asksSignals] at h
  rw [ProductRow.takesSignals]
  cases hids : template.signalsAgentIds with
  | none => rfl
  | some ids =>
      rw [hids] at h
      exact h

theorem offers_of_silent
    {templates : List ProductRow}
    (h : templates.any ProductRow.asksSignals = false)
    (signals : List Signal) :
    offers env templates signals = [] := by
  rw [offers, List.flatMap_eq_nil_iff]
  intro template hmem
  have hsilent : template.asksSignals = false := by
    have hfalse := List.any_eq_false.mp h template hmem
    exact Bool.eq_false_iff.mpr hfalse
  rw [templateSignals, takesSignals_of_silent hsilent]
  rfl

/-- What a brief does is what its offers do. -/
theorem offered_generated
    {brief : String}
    {signals : List Signal}
    (hsignals : env.getSignals brief = some signals)
    (catalogue : Catalogue) :
    Offered env catalogue (offers env (activeTemplates env.tenantId catalogue) signals)
      (generateVariantsForBrief env brief catalogue) := by
  rw [generateVariantsForBrief]
  cases hasks : (catalogue.rows.filter (ProductRow.activeTemplate env.tenantId)).any
      ProductRow.asksSignals with
  | false =>
      rw [if_neg Bool.false_ne_true, activeTemplates, offers_of_silent hasks]
      exact Offered.nil catalogue
  | true =>
      rw [if_pos rfl, hsignals]
      exact (Offered.nil catalogue).templates signals (activeTemplates env.tenantId catalogue)

/-- The id of a variant tells its template and the hash of its key. -/
theorem generateVariantId_inj
    {md5Hex : String → String}
    (hlength : ∀ input, 8 ≤ (md5Hex input).toList.length)
    {templateId templateId' : String}
    {key key' : ActivationKey}
    (h : generateVariantId md5Hex templateId key = generateVariantId md5Hex templateId' key') :
    templateId = templateId'
      ∧ hashSuffix md5Hex (hashInput key) = hashSuffix md5Hex (hashInput key') := by
  have hsuffix (input : String) : (hashSuffix md5Hex input).length = 8 := by
    rw [hashSuffix, List.length_take]
    exact Nat.min_eq_left (hlength input)
  rw [generateVariantId_eq, generateVariantId_eq] at h
  have hlists := congrArg String.toList h
  simp only [String.toList_append, String.toList_ofList] at hlists
  obtain ⟨hfront, hback⟩ := List.append_inj' hlists (by rw [hsuffix, hsuffix])
  exact ⟨String.toList_inj.mp (List.append_cancel_right hfront), hback⟩

theorem generateVariantId_congr
    {md5Hex : String → String}
    (templateId : String)
    {key key' : ActivationKey}
    (h : hashInput key = hashInput key') :
    generateVariantId md5Hex templateId key = generateVariantId md5Hex templateId key' := by
  rw [generateVariantId_eq, generateVariantId_eq, h]

/-- The hash tells the keys of these signals apart as far as their inputs do. -/
def SeparatesInputs
    (env : SignalsEnv)
    (signals : List Signal) : Prop :=
  ∀ key ∈ usableKeys env signals, ∀ key' ∈ usableKeys env signals,
    hashSuffix env.md5Hex (hashInput key) = hashSuffix env.md5Hex (hashInput key') →
    hashInput key = hashInput key'

theorem usableKeys_subset
    {signals taken : List Signal}
    (h : taken ⊆ signals) :
    usableKeys env taken ⊆ usableKeys env signals := by
  intro key hkey
  obtain ⟨signal, hmem, hsignal⟩ := List.mem_filterMap.mp hkey
  exact List.mem_filterMap.mpr ⟨signal, h hmem, hsignal⟩

theorem templateSignals_subset
    (template : ProductRow)
    (signals : List Signal) :
    templateSignals template signals ⊆ signals := by
  rw [templateSignals]
  cases template.takesSignals with
  | false => exact List.nil_subset _
  | true => exact List.take_subset _ _

theorem mem_offers
    {templates : List ProductRow}
    {signals : List Signal}
    {offer : Offer} :
    offer ∈ offers env templates signals
      ↔ offer.1 ∈ templates ∧ offer.2 ∈ usableKeys env (templateSignals offer.1 signals) := by
  rw [offers, List.mem_flatMap]
  constructor
  · rintro ⟨template, hmem, hoffer⟩
    obtain ⟨key, hkey, rfl⟩ := List.mem_map.mp hoffer
    exact ⟨hmem, hkey⟩
  · rintro ⟨hmem, hkey⟩
    exact ⟨offer.1, hmem, List.mem_map.mpr ⟨offer.2, hkey, rfl⟩⟩

/-- The keys that a template takes are hashed from different inputs. -/
def DistinctKeys
    (env : SignalsEnv)
    (catalogue : Catalogue)
    (signals : List Signal) : Prop :=
  ∀ template ∈ catalogue, template.activeTemplate env.tenantId = true →
    ((usableKeys env (templateSignals template signals)).map hashInput).Nodup

theorem active_eq_of_productId
    {catalogue : Catalogue}
    {template template' : ProductRow}
    (h : template ∈ activeTemplates env.tenantId catalogue)
    (h' : template' ∈ activeTemplates env.tenantId catalogue)
    (hid : template.productId = template'.productId) :
    template = template' := by
  obtain ⟨hmem, hactive⟩ := mem_activeTemplates.mp h
  obtain ⟨hmem', hactive'⟩ := mem_activeTemplates.mp h'
  refine catalogue.eq_of_key_eq hmem hmem' rfl ?_
  rw [tenantId_of_active hactive, tenantId_of_active hactive', hid]

theorem nodup_keys_iff
    {signals : List Signal}
    (hlength : ∀ input, 8 ≤ (env.md5Hex input).toList.length)
    (hseparates : SeparatesInputs env signals)
    (templateId : String)
    {taken : List Signal}
    (htaken : taken ⊆ signals) :
    ((usableKeys env taken).map (generateVariantId env.md5Hex templateId)).Nodup
      ↔ ((usableKeys env taken).map hashInput).Nodup := by
  rw [List.nodup_iff_pairwise_ne, List.nodup_iff_pairwise_ne, List.pairwise_map,
    List.pairwise_map]
  refine List.Pairwise.iff_of_mem ?_
  intro key key' hkey hkey'
  refine not_congr ⟨fun h => ?_, generateVariantId_congr templateId⟩
  exact hseparates key (usableKeys_subset htaken hkey) key' (usableKeys_subset htaken hkey')
    (generateVariantId_inj hlength h).2

theorem nodup_ids_iff
    {brief : String}
    {signals : List Signal}
    (hsignals : env.getSignals brief = some signals)
    (hlength : ∀ input, 8 ≤ (env.md5Hex input).toList.length)
    (hseparates : SeparatesInputs env signals)
    (catalogue : Catalogue) :
    ((generateVariantsForBrief env brief catalogue).1.map ProductRow.productId).Nodup
      ↔ DistinctKeys env catalogue signals := by
  have hids : (offers env (activeTemplates env.tenantId catalogue) signals).map
      (Offer.variantId env)
        = (activeTemplates env.tenantId catalogue).flatMap fun template =>
            (usableKeys env (templateSignals template signals)).map
              (generateVariantId env.md5Hex template.productId) := by
    rw [offers, List.map_flatMap]
    simp only [List.map_map]
    rfl
  have hdisjoint : (activeTemplates env.tenantId catalogue).Pairwise
      (Function.onFun List.Disjoint fun template =>
        (usableKeys env (templateSignals template signals)).map
          (generateVariantId env.md5Hex template.productId)) := by
    have hunique : (activeTemplates env.tenantId catalogue).Pairwise fun row row' =>
        ∀ id, some (row.tenantId, row.productId) = some id →
          some (row'.tenantId, row'.productId) ≠ some id :=
      catalogue.unique.sublist List.filter_sublist
    refine hunique.imp_of_mem ?_
    intro template template' hmem hmem' hne id hid hid'
    obtain ⟨key, -, rfl⟩ := List.mem_map.mp hid
    obtain ⟨key', -, heq⟩ := List.mem_map.mp hid'
    refine hne _ rfl ?_
    rw [tenantId_of_active (mem_activeTemplates.mp hmem).2,
      tenantId_of_active (mem_activeTemplates.mp hmem').2, (generateVariantId_inj hlength heq).1]
  rw [(offered_generated hsignals catalogue).ids, hids, List.nodup_flatMap,
    and_iff_left hdisjoint]
  constructor
  · intro h template hmem hactive
    exact (nodup_keys_iff hlength hseparates template.productId
      (templateSignals_subset template signals)).mp
        (h template (mem_activeTemplates.mpr ⟨hmem, hactive⟩))
  · intro h template hmem
    obtain ⟨hmem, hactive⟩ := mem_activeTemplates.mp hmem
    exact (nodup_keys_iff hlength hseparates template.productId
      (templateSignals_subset template signals)).mpr (h template hmem hactive)

/-- An active template after a brief is one of those before it, but for its dates. -/
theorem Offered.active
    {catalogue : Catalogue}
    {made : List Offer}
    {generated : Generated}
    (h : Offered env catalogue made generated)
    {template : ProductRow}
    (hmem : template ∈ generated.2)
    (hactive : template.activeTemplate env.tenantId = true) :
    ∃ prior ∈ activeTemplates env.tenantId catalogue, ∃ lastSyncedAt expiresAt,
      template = { prior with lastSyncedAt := lastSyncedAt, expiresAt := expiresAt } := by
  have hfound : generated.2.find (template.tenantId, template.productId) = some template :=
    generated.2.find_eq_some_iff.mpr ⟨hmem, rfl⟩
  cases hprior : catalogue.find (template.tenantId, template.productId) with
  | none =>
      have hdynamic := (h.created _ template hprior hfound).1
      rw [ProductRow.activeTemplate, hdynamic] at hactive
      simp at hactive
  | some prior =>
      obtain ⟨lastSyncedAt, expiresAt, hkept⟩ := h.kept _ prior hprior
      have hrow : template
          = { prior with lastSyncedAt := lastSyncedAt, expiresAt := expiresAt } :=
        Option.some.inj (hfound.symm.trans hkept)
      refine ⟨prior, mem_activeTemplates.mpr
        ⟨(catalogue.find_eq_some_iff.mp hprior).1, ?_⟩, lastSyncedAt, expiresAt, hrow⟩
      rw [hrow] at hactive
      exact hactive

/-- A brief that is repeated, at another time, creates no product. -/
theorem repeated_brief
    {brief : String}
    {signals : List Signal}
    (hsignals : env.getSignals brief = some signals)
    (catalogue : Catalogue)
    (later : DateTime)
    (id : String × String) :
    ((generateVariantsForBrief { env with now := later } brief
        (generateVariantsForBrief env brief catalogue).2).2.find id).isSome
      ↔ ((generateVariantsForBrief env brief catalogue).2.find id).isSome := by
  have hfirst := offered_generated hsignals catalogue
  have hsignals' : ({ env with now := later } : SignalsEnv).getSignals brief = some signals :=
    hsignals
  have hagain := offered_generated hsignals' (generateVariantsForBrief env brief catalogue).2
  rw [hagain.stored id]
  refine ⟨?_, .inl⟩
  rintro (hstored | ⟨offer, hoffer, rfl⟩)
  · exact hstored
  · obtain ⟨htemplate, hkey⟩ := mem_offers.mp hoffer
    obtain ⟨hmem, hactive⟩ := mem_activeTemplates.mp htemplate
    obtain ⟨prior, hprior, lastSyncedAt, expiresAt, hrow⟩ := hfirst.active hmem hactive
    rw [hfirst.stored]
    refine .inr ⟨(prior, offer.2), mem_offers.mpr ⟨hprior, ?_⟩, ?_⟩
    · rw [hrow] at hkey
      exact hkey
    · rw [Offer.variantId, Offer.variantId, hrow]

theorem DistinctKeys.again
    {brief : String}
    {signals : List Signal}
    (hsignals : env.getSignals brief = some signals)
    {catalogue : Catalogue}
    (h : DistinctKeys env catalogue signals) :
    DistinctKeys env (generateVariantsForBrief env brief catalogue).2 signals := by
  intro template hmem hactive
  obtain ⟨prior, hprior, lastSyncedAt, expiresAt, hrow⟩ :=
    (offered_generated hsignals catalogue).active hmem hactive
  obtain ⟨hmem, hactive⟩ := mem_activeTemplates.mp hprior
  rw [hrow]
  exact h prior hmem hactive

end Briefs

section Laws

/-- What each signals agent answers, by its id; nothing when asking it failed. -/
abbrev AgentAnswers :=
  List (String × Option (List Signal))

/-- `get_signals` of the registry: the answers one after the other. -/
def allSignals
    (answers : AgentAnswers) : List Signal :=
  answers.flatMap fun answer => answer.2.getD []

/-- The signals of the agents with these ids. -/
def signalsOf
    (ids : List String)
    (answers : AgentAnswers) : List Signal :=
  allSignals (answers.filter fun answer => answer.1 ∈ ids)

/-- The agents that a template names. -/
def ProductRow.namedAgents
    (row : ProductRow) : List String :=
  row.signalsAgentIds.getD []

/-- What a brief should do to the variants. -/
structure VariantLaws
    (env : SignalsEnv)
    (answers : AgentAnswers)
    (brief : String)
    (catalogue : Catalogue) : Prop where
  /-- signals with different keys never share a variant of one template -/
  separate :
    ∀ template ∈ catalogue, template.activeTemplate env.tenantId = true →
      ∀ key ∈ usableKeys env (templateSignals template (allSignals answers)),
        ∀ key' ∈ usableKeys env (templateSignals template (allSignals answers)), key ≠ key' →
          generateVariantId env.md5Hex template.productId key
            ≠ generateVariantId env.md5Hex template.productId key'
  /-- no product is returned twice -/
  once : ((generateVariantsForBrief env brief catalogue).1.map ProductRow.productId).Nodup
  /-- the brief repeated creates no product and returns none twice -/
  repeated :
    ∀ later,
      (∀ id, ((generateVariantsForBrief { env with now := later } brief
            (generateVariantsForBrief env brief catalogue).2).2.find id).isSome
          ↔ ((generateVariantsForBrief env brief catalogue).2.find id).isSome)
        ∧ ((generateVariantsForBrief { env with now := later } brief
            (generateVariantsForBrief env brief catalogue).2).1.map ProductRow.productId).Nodup
  /-- the key of a variant is that of this seller's deployment, where the signal has one -/
  own :
    ∀ url, url ≠ "" → env.ourAgentUrl = some url →
      ∀ template ∈ catalogue, template.activeTemplate env.tenantId = true →
        ∀ signal ∈ templateSignals template (allSignals answers),
          (∃ deployment ∈ signal.deployments, deployment.agentUrl = some url) →
          ∀ key, extractActivationKey signal env.ourAgentUrl = some key →
            ∃ deployment ∈ signal.deployments, deployment.agentUrl = some url
              ∧ deployment.activationKey = some key
  /-- a template that names no agent has a variant of each signal that it takes -/
  everyAgent :
    ∀ template ∈ catalogue, template.activeTemplate env.tenantId = true →
      template.namedAgents = [] →
      ∀ key ∈ usableKeys env ((allSignals answers).take template.maxSignals),
        generateVariantId env.md5Hex template.productId key
          ∈ (generateVariantsForBrief env brief catalogue).1.map ProductRow.productId
  /-- a template that names agents has variants of their signals only -/
  onlyTheirs :
    ∀ template ∈ catalogue, template.activeTemplate env.tenantId = true →
      template.namedAgents ≠ [] →
      ∀ key ∈ usableKeys env (allSignals answers),
        generateVariantId env.md5Hex template.productId key
          ∈ (generateVariantsForBrief env brief catalogue).1.map ProductRow.productId →
        ∃ key' ∈ usableKeys env (signalsOf template.namedAgents answers),
          generateVariantId env.md5Hex template.productId key'
            = generateVariantId env.md5Hex template.productId key
  /-- no archived variant is returned -/
  hidden : ∀ row ∈ (generateVariantsForBrief env brief catalogue).1, row.archivedAt = none
  /-- and none is changed -/
  unrevived :
    ∀ id row, catalogue.find id = some row → row.archivedAt ≠ none →
      (generateVariantsForBrief env brief catalogue).2.find id = some row

/-- This seller's deployments carry the key that is taken from a signal. -/
def OwnKeyTaken
    (signal : Signal)
    (url : String) : Prop :=
  (∃ deployment ∈ signal.deployments,
      deployment.agentUrl = some url ∧ deployment.liveKey ≠ none)
    ∨ (∀ deployment ∈ signal.deployments, deployment.liveKey = none)
    ∨ ∃ key, signal.deployments.findSome? Deployment.liveKey = some key
        ∧ ∃ deployment ∈ signal.deployments, deployment.agentUrl = some url
          ∧ deployment.activationKey = some key

/-- When it does so. -/
structure VariantCondition
    (env : SignalsEnv)
    (answers : AgentAnswers)
    (catalogue : Catalogue) : Prop where
  /-- no template takes one hash input from two signals -/
  distinct : DistinctKeys env catalogue (allSignals answers)
  /-- a signal of this seller that a template takes is live there, or nowhere -/
  own :
    ∀ url, url ≠ "" → env.ourAgentUrl = some url →
      ∀ template ∈ catalogue, template.activeTemplate env.tenantId = true →
        ∀ signal ∈ templateSignals template (allSignals answers),
          (∃ deployment ∈ signal.deployments, deployment.agentUrl = some url) →
          OwnKeyTaken signal url
  /-- no signal is offered to a template that names no agent -/
  everyAgent :
    ∀ template ∈ catalogue, template.activeTemplate env.tenantId = true →
      template.namedAgents = [] →
      usableKeys env ((allSignals answers).take template.maxSignals) = []
  /-- the agents that a template names offer what it takes -/
  onlyTheirs :
    ∀ template ∈ catalogue, template.activeTemplate env.tenantId = true →
      template.namedAgents ≠ [] →
      ∀ key ∈ usableKeys env ((allSignals answers).take template.maxSignals),
        ∃ key' ∈ usableKeys env (signalsOf template.namedAgents answers),
          hashInput key' = hashInput key
  /-- no variant that is offered is archived -/
  live :
    ∀ template ∈ catalogue, template.activeTemplate env.tenantId = true →
      ∀ key ∈ usableKeys env (templateSignals template (allSignals answers)), ∀ row,
        catalogue.find (template.tenantId, generateVariantId env.md5Hex template.productId key)
          = some row →
        row.archivedAt = none

variable {env : SignalsEnv} {answers : AgentAnswers}

theorem signalsOf_subset
    (ids : List String)
    (answers : AgentAnswers) :
    signalsOf ids answers ⊆ allSignals answers := by
  intro signal hmem
  obtain ⟨answer, hanswer, hsignal⟩ := List.mem_flatMap.mp hmem
  exact List.mem_flatMap.mpr ⟨answer, (List.mem_filter.mp hanswer).1, hsignal⟩

theorem templateSignals_of_unnamed
    {template : ProductRow}
    (h : template.namedAgents = [])
    (signals : List Signal) :
    templateSignals template signals = [] := by
  have htakes : template.takesSignals = false := by
    rw [ProductRow.takesSignals]
    rw [ProductRow.namedAgents] at h
    cases hids : template.signalsAgentIds with
    | none => rfl
    | some ids =>
        rw [hids] at h
        exact decide_eq_false (fun hne => hne h)
  rw [templateSignals, htakes]
  rfl

theorem templateSignals_of_named
    {template : ProductRow}
    (h : template.namedAgents ≠ [])
    (signals : List Signal) :
    templateSignals template signals = signals.take template.maxSignals := by
  have htakes : template.takesSignals = true := by
    rw [ProductRow.takesSignals]
    rw [ProductRow.namedAgents] at h
    cases hids : template.signalsAgentIds with
    | none =>
        rw [hids] at h
        exact absurd rfl h
    | some ids =>
        rw [hids] at h
        exact decide_eq_true h
  rw [templateSignals, htakes]
  rfl

theorem extractActivationKey_of_url
    {url : String}
    (hurl : url ≠ "")
    (henv : env.ourAgentUrl = some url)
    (signal : Signal) :
    extractActivationKey signal env.ourAgentUrl
      = ((signal.deployments.filter fun d : Deployment => d.agentUrl = some url).findSome?
          Deployment.liveKey).or (signal.deployments.findSome? Deployment.liveKey) := by
  have hfilter : env.ourAgentUrl.filter (fun url => url ≠ "") = some url := by
    rw [henv, Option.filter_some, if_pos (decide_eq_true hurl)]
  rw [extractActivationKey, hfilter]

theorem activationKey_of_liveKey
    {deployment : Deployment}
    {key : ActivationKey}
    (h : deployment.liveKey = some key) :
    deployment.activationKey = some key := by
  rw [Deployment.liveKey] at h
  by_cases hlive : deployment.isLive = true
  · rw [if_pos hlive] at h
    exact h
  · rw [if_neg hlive] at h
    cases h

theorem ownKey_iff
    {url : String}
    (hurl : url ≠ "")
    (henv : env.ourAgentUrl = some url)
    (signal : Signal) :
    (∀ key, extractActivationKey signal env.ourAgentUrl = some key →
        ∃ deployment ∈ signal.deployments, deployment.agentUrl = some url
          ∧ deployment.activationKey = some key)
      ↔ OwnKeyTaken signal url := by
  rw [extractActivationKey_of_url hurl henv]
  cases hours : (signal.deployments.filter fun d : Deployment => d.agentUrl = some url).findSome?
      Deployment.liveKey with
  | some key =>
      obtain ⟨deployment, hmem, hkey⟩ := List.exists_of_findSome?_eq_some hours
      obtain ⟨hmem, hours⟩ := List.mem_filter.mp hmem
      have hurl' : deployment.agentUrl = some url := of_decide_eq_true hours
      refine iff_of_true ?_ (.inl ⟨deployment, hmem, hurl', ?_⟩)
      · rintro found ⟨⟩
        exact ⟨deployment, hmem, hurl', activationKey_of_liveKey hkey⟩
      · rw [hkey]
        exact Option.some_ne_none key
  | none =>
      have hnone : ∀ deployment ∈ signal.deployments, deployment.agentUrl = some url →
          deployment.liveKey = none := by
        intro deployment hmem hagent
        exact List.findSome?_eq_none_iff.mp hours deployment
          (List.mem_filter.mpr ⟨hmem, decide_eq_true hagent⟩)
      rw [Option.none_or]
      constructor
      · intro h
        cases hfirst : signal.deployments.findSome? Deployment.liveKey with
        | none => exact .inr (.inl (List.findSome?_eq_none_iff.mp hfirst))
        | some key => exact .inr (.inr ⟨key, hfirst, h key hfirst⟩)
      · rintro (⟨deployment, hmem, hagent, hlive⟩ | hdead | ⟨key, hfirst, howned⟩) found hfound
        · exact absurd (hnone deployment hmem hagent) hlive
        · rw [List.findSome?_eq_none_iff.mpr hdead] at hfound
          cases hfound
        · rw [hfirst] at hfound
          cases hfound
          exact howned

theorem mem_ids_iff
    {brief : String}
    {signals : List Signal}
    (hsignals : env.getSignals brief = some signals)
    (hlength : ∀ input, 8 ≤ (env.md5Hex input).toList.length)
    (hseparates : SeparatesInputs env signals)
    {catalogue : Catalogue}
    {template : ProductRow}
    (htemplate : template ∈ activeTemplates env.tenantId catalogue)
    {key : ActivationKey}
    (hkey : key ∈ usableKeys env signals) :
    generateVariantId env.md5Hex template.productId key
        ∈ (generateVariantsForBrief env brief catalogue).1.map ProductRow.productId
      ↔ ∃ taken ∈ usableKeys env (templateSignals template signals),
          hashInput taken = hashInput key := by
  rw [(offered_generated hsignals catalogue).ids]
  constructor
  · intro hmem
    obtain ⟨⟨template', taken⟩, hoffer, hid⟩ := List.mem_map.mp hmem
    obtain ⟨htemplate', htaken⟩ := mem_offers.mp hoffer
    obtain ⟨hproduct, hsuffix⟩ := generateVariantId_inj hlength hid
    have hsame : template' = template :=
      active_eq_of_productId htemplate' htemplate hproduct
    subst hsame
    exact ⟨taken, htaken, hseparates taken
      (usableKeys_subset (templateSignals_subset _ _) htaken) key hkey hsuffix⟩
  · rintro ⟨taken, htaken, hinput⟩
    exact List.mem_map.mpr ⟨(template, taken), mem_offers.mpr ⟨htemplate, htaken⟩,
      generateVariantId_congr template.productId hinput⟩

section Archived

variable {brief : String} {signals : List Signal} {catalogue : Catalogue}

theorem hidden_iff
    (hsignals : env.getSignals brief = some signals) :
    (∀ row ∈ (generateVariantsForBrief env brief catalogue).1, row.archivedAt = none)
      ↔ ∀ template ∈ catalogue, template.activeTemplate env.tenantId = true →
          ∀ key ∈ usableKeys env (templateSignals template signals), ∀ row,
            catalogue.find (template.tenantId,
              generateVariantId env.md5Hex template.productId key) = some row →
            row.archivedAt = none := by
  have hoffered := offered_generated hsignals catalogue
  constructor
  · intro h template hmem hactive key hkey row hfound
    have hoffer : (template, key) ∈ offers env (activeTemplates env.tenantId catalogue) signals :=
      mem_offers.mpr ⟨mem_activeTemplates.mpr ⟨hmem, hactive⟩, hkey⟩
    have hid : Offer.variantId env (template, key)
        ∈ (generateVariantsForBrief env brief catalogue).1.map ProductRow.productId := by
      rw [hoffered.ids]
      exact List.mem_map_of_mem hoffer
    obtain ⟨returned, hreturned, hproduct⟩ := List.mem_map.mp hid
    obtain ⟨other, hother, htenant, -⟩ := hoffered.returned returned hreturned
    have hactive' := (mem_activeTemplates.mp (mem_offers.mp hother).1).2
    have hkeys : (returned.tenantId, returned.productId)
        = (template.tenantId, generateVariantId env.md5Hex template.productId key) := by
      rw [htenant, tenantId_of_active hactive', tenantId_of_active hactive, hproduct]
      rfl
    have harchived := hoffered.archived returned hreturned
    rw [hkeys, hfound, h returned hreturned] at harchived
    exact harchived.symm
  · intro h row hmem
    obtain ⟨offer, hoffer, htenant, hproduct⟩ := hoffered.returned row hmem
    obtain ⟨htemplate, hkey⟩ := mem_offers.mp hoffer
    obtain ⟨htemplate, hactive⟩ := mem_activeTemplates.mp htemplate
    rw [hoffered.archived row hmem, htenant, hproduct]
    cases hfound : catalogue.find (offer.1.tenantId, offer.variantId env) with
    | none => rfl
    | some stored => exact h offer.1 htemplate hactive offer.2 hkey stored hfound

theorem unrevived_of_live
    (hsignals : env.getSignals brief = some signals)
    (hlive : ∀ template ∈ catalogue, template.activeTemplate env.tenantId = true →
      ∀ key ∈ usableKeys env (templateSignals template signals), ∀ row,
        catalogue.find (template.tenantId,
          generateVariantId env.md5Hex template.productId key) = some row →
        row.archivedAt = none)
    {id : String × String}
    {row : ProductRow}
    (hfound : catalogue.find id = some row)
    (harchived : row.archivedAt ≠ none) :
    (generateVariantsForBrief env brief catalogue).2.find id = some row := by
  rw [(offered_generated hsignals catalogue).untouched id, hfound]
  rintro offer hoffer rfl
  obtain ⟨htemplate, hkey⟩ := mem_offers.mp hoffer
  obtain ⟨htemplate, hactive⟩ := mem_activeTemplates.mp htemplate
  exact harchived (hlive offer.1 htemplate hactive offer.2 hkey row hfound)

end Archived

/-- The variants are kept as they should be exactly under the condition, the hash telling
different inputs apart. -/
theorem variant_laws_iff
    (env : SignalsEnv)
    (answers : AgentAnswers)
    (brief : String)
    (catalogue : Catalogue)
    (hanswers : env.getSignals brief = some (allSignals answers))
    (hlength : ∀ input, 8 ≤ (env.md5Hex input).toList.length)
    (hseparates : SeparatesInputs env (allSignals answers)) :
    VariantLaws env answers brief catalogue ↔ VariantCondition env answers catalogue := by
  have hnodup := nodup_ids_iff hanswers hlength hseparates
  constructor
  · intro h
    refine
      { distinct := (hnodup catalogue).mp h.once
        own := ?_
        everyAgent := ?_
        onlyTheirs := ?_
        live := (hidden_iff hanswers).mp h.hidden }
    · intro url hurl henv template hmem hactive signal htaken howned
      exact (ownKey_iff hurl henv signal).mp
        (h.own url hurl henv template hmem hactive signal htaken howned)
    · intro template hmem hactive hnamed
      refine List.eq_nil_iff_forall_not_mem.mpr ?_
      intro key hkey
      have htemplate := mem_activeTemplates.mpr ⟨hmem, hactive⟩
      have hreturned := h.everyAgent template hmem hactive hnamed key hkey
      obtain ⟨taken, htaken, -⟩ := (mem_ids_iff hanswers hlength hseparates htemplate
        (usableKeys_subset (List.take_subset _ _) hkey)).mp hreturned
      rw [templateSignals_of_unnamed hnamed] at htaken
      exact List.not_mem_nil htaken
    · intro template hmem hactive hnamed key hkey
      have htemplate := mem_activeTemplates.mpr ⟨hmem, hactive⟩
      have hall : key ∈ usableKeys env (allSignals answers) :=
        usableKeys_subset (List.take_subset _ _) hkey
      have hreturned := (mem_ids_iff hanswers hlength hseparates htemplate hall).mpr
        ⟨key, by rwa [templateSignals_of_named hnamed], rfl⟩
      obtain ⟨key', hkey', hid⟩ := h.onlyTheirs template hmem hactive hnamed key hall hreturned
      exact ⟨key', hkey', hseparates key' (usableKeys_subset (signalsOf_subset _ _) hkey') key hall
        (generateVariantId_inj hlength hid).2⟩
  · intro h
    refine
      { separate := ?_
        once := (hnodup catalogue).mpr h.distinct
        repeated := ?_
        own := ?_
        everyAgent := ?_
        onlyTheirs := ?_
        hidden := (hidden_iff hanswers).mpr h.live
        unrevived := ?_ }
    · intro template hmem hactive key hkey key' hkey' hne hid
      have hsubset : usableKeys env (templateSignals template (allSignals answers))
          ⊆ usableKeys env (allSignals answers) :=
        usableKeys_subset (templateSignals_subset template _)
      have hinput := hseparates key (hsubset hkey) key' (hsubset hkey')
        (generateVariantId_inj hlength hid).2
      exact hne (List.inj_on_of_nodup_map (h.distinct template hmem hactive) hkey hkey' hinput)
    · intro later
      refine ⟨repeated_brief hanswers catalogue later, ?_⟩
      have hanswers' : ({ env with now := later } : SignalsEnv).getSignals brief
          = some (allSignals answers) := hanswers
      exact (nodup_ids_iff hanswers' hlength hseparates _).mpr (h.distinct.again hanswers)
    · intro url hurl henv template hmem hactive signal htaken howned
      exact (ownKey_iff hurl henv signal).mpr
        (h.own url hurl henv template hmem hactive signal htaken howned)
    · intro template hmem hactive hnamed key hkey
      rw [h.everyAgent template hmem hactive hnamed] at hkey
      exact absurd hkey List.not_mem_nil
    · intro template hmem hactive hnamed key hkey hreturned
      have htemplate := mem_activeTemplates.mpr ⟨hmem, hactive⟩
      obtain ⟨taken, htaken, hinput⟩ :=
        (mem_ids_iff hanswers hlength hseparates htemplate hkey).mp hreturned
      rw [templateSignals_of_named hnamed] at htaken
      obtain ⟨key', hkey', hinput'⟩ := h.onlyTheirs template hmem hactive hnamed taken htaken
      exact ⟨key', hkey', generateVariantId_congr template.productId (hinput'.trans hinput)⟩
    · intro id row hfound harchived
      exact unrevived_of_live hanswers h.live hfound harchived

end Laws

section Samples

/-- Signals of these keys, live on the deployment of the seller. -/
def sampleSignals
    (keys : List ActivationKey) : List Signal :=
  keys.map fun key => { deployments := [⟨some "https://seller.example", true, some key⟩] }

/-- The signals agents answer with these keys. -/
def sampleSignalsEnv
    (keys : List ActivationKey) : SignalsEnv where
  tenantId := "tenant"
  now := 0
  ourAgentUrl := some "https://seller.example"
  getSignals := fun _ => some (sampleSignals keys)
  md5Hex := fun input => input ++ "00000000"

/-- A template that names the agent `1`. -/
def sampleTemplate : ProductRow where
  tenantId := "tenant"
  productId := "prod"
  name := "Audience"
  formatIds := []
  deliveryType := .nonGuaranteed
  pricingOptions := []
  isDynamic := true
  signalsAgentIds := some ["1"]

/-- The catalogue of the template. -/
def sampleTemplates : Catalogue where
  rows := [sampleTemplate]
  unique := List.pairwise_singleton _ _

theorem sample_md5_length
    (keys : List ActivationKey)
    (input : String) :
    8 ≤ ((sampleSignalsEnv keys).md5Hex input).toList.length := by
  show 8 ≤ (input ++ "00000000").toList.length
  rw [String.toList_append, List.length_append]
  exact Nat.le_add_left 8 _

theorem variant_laws_sample :
    VariantLaws (sampleSignalsEnv [.segmentId "s"])
      [("1", some (sampleSignals [.segmentId "s"]))] "shoes" sampleTemplates := by
  have honly : usableKeys (sampleSignalsEnv [.segmentId "s"]) (sampleSignals [.segmentId "s"])
      = [.segmentId "s"] := by decide +kernel
  have hanswers : allSignals [("1", some (sampleSignals [.segmentId "s"]))]
      = sampleSignals [.segmentId "s"] := by decide +kernel
  have hone : ∀ key ∈ usableKeys (sampleSignalsEnv [.segmentId "s"])
      (allSignals [("1", some (sampleSignals [.segmentId "s"]))]), key = .segmentId "s" := by
    rw [hanswers, honly]
    intro key hkey
    exact List.mem_singleton.mp hkey
  have hseparates : SeparatesInputs (sampleSignalsEnv [.segmentId "s"])
      (allSignals [("1", some (sampleSignals [.segmentId "s"]))]) := by
    intro key hkey key' hkey' _
    rw [hone key hkey, hone key' hkey']
  refine (variant_laws_iff (sampleSignalsEnv [.segmentId "s"])
    [("1", some (sampleSignals [.segmentId "s"]))] "shoes" sampleTemplates
    (congrArg some hanswers.symm) (sample_md5_length _) hseparates).mpr ?_
  constructor
  · intro template hmem _
    rw [List.mem_singleton.mp hmem]
    decide +kernel
  · rintro url - hurl template - - signal htaken -
    cases hurl
    have hmem := templateSignals_subset template _ htaken
    rw [hanswers, sampleSignals, List.map_singleton, List.mem_singleton] at hmem
    subst hmem
    exact .inl ⟨_, List.mem_singleton_self _, rfl, by decide +kernel⟩
  · intro template hmem _ hnamed
    rw [List.mem_singleton.mp hmem] at hnamed
    cases hnamed
  · intro template hmem _ _ key hkey
    rw [List.mem_singleton.mp hmem]
    refine ⟨.segmentId "s", by decide +kernel, ?_⟩
    rw [hone key (usableKeys_subset (List.take_subset _ _) hkey)]
  · intro template hmem _ key hkey row hfound
    rw [List.mem_singleton.mp hmem] at hfound hkey
    have hmissing : sampleTemplates.find ("tenant",
        generateVariantId (sampleSignalsEnv [.segmentId "s"]).md5Hex "prod" (.segmentId "s"))
          = none := by decide +kernel
    rw [hone key (usableKeys_subset (templateSignals_subset _ _) hkey)] at hfound
    exact absurd (hmissing.symm.trans hfound) (by rintro ⟨⟩)

/-- Two key-values that read the same once joined share a variant, which is returned twice. -/
theorem joined_keys_share_variant :
    ¬ VariantLaws (sampleSignalsEnv [.keyValue "a" "b:c", .keyValue "a:b" "c"])
      [("1", some (sampleSignals [.keyValue "a" "b:c", .keyValue "a:b" "c"]))] "shoes"
      sampleTemplates := by
  intro h
  refine h.separate sampleTemplate (List.mem_singleton_self _) (by decide +kernel)
    (.keyValue "a" "b:c") (by decide +kernel) (.keyValue "a:b" "c") (by decide +kernel)
    (by decide) ?_
  exact generateVariantId_congr "prod" (by decide +kernel)

end Samples

end Products
end SalesAgent
