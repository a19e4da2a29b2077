import Mathlib.Data.List.Sort
import Mathlib.Data.Rat.Floor
import Mathlib.Tactic.Linarith
import SalesAgent.CreativeSync.Assignments
import SalesAgent.Gam.CustomTargeting

/-!
# Targeting of the GAM adapter

`build_targeting` translates an overlay dimension by dimension: locations by the static mapping,
key values and segments to a tree of criteria, media types to an environment.  Dimensions without
a translation are refused.  The line item takes the result over, adds the inventory and the custom
keys of the product, and caps the frequency.

**Results.**
* `buildTargeting_eq_ok`: what a translation that succeeds has read, refused and built.
* `build_targeting_exact`: the translation, and the line item built from it, reach exactly whom
  the overlay asks for.
-/

namespace SalesAgent
namespace Gam

open CreativeSync (dictSet)
open Idempotency (Json)
open Webhooks (truthy)

section Overlay

/-- `MetroAreaSystem` -/
inductive MetroAreaSystem
  | nielsenDma
  | other (value : String)
  deriving DecidableEq, Repr

/-- The text of a metro system. -/
def MetroAreaSystem.value : MetroAreaSystem → String
  | .nielsenDma => "nielsen_dma"
  | .other value => value

/-- A `GeoMetro`. -/
structure GeoMetro where
  system : MetroAreaSystem
  values : List String
  deriving DecidableEq, Repr

/-- `device_platform` -/
inductive DevicePlatform
  | ios
  | android
  | windows
  | macos
  | linux
  | chromeos
  | tvos
  | tizen
  | webos
  | fireOs
  | rokuOs
  | unknown
  deriving DecidableEq, Repr

/-- `_PLATFORM_TO_FORM_FACTORS` -/
def platformToFormFactors : DevicePlatform → List String
  | .ios => ["mobile", "tablet"]
  | .android => ["mobile", "tablet"]
  | .windows => ["desktop"]
  | .macos => ["desktop"]
  | .linux => ["desktop"]
  | .chromeos => ["desktop"]
  | .tvos => ["ctv"]
  | .tizen => ["ctv"]
  | .webos => ["ctv"]
  | .fireOs => ["ctv"]
  | .rokuOs => ["ctv"]
  | .unknown => []

/-- `frequency_cap` of an overlay; a buyer may leave out the minutes. -/
structure AdcpFrequencyCap where
  suppressMinutes : Option ℚ

/-- A `Targeting` overlay; an absent list is an empty one. -/
structure Overlay where
  geoCountries : List String := []
  geoRegions : List String := []
  geoMetros : List GeoMetro := []
  geoPostalAreas : List Json := []
  geoCountriesExclude : List String := []
  geoRegionsExclude : List String := []
  geoMetrosExclude : List GeoMetro := []
  geoPostalAreasExclude : List Json := []
  devicePlatform : List DevicePlatform := []
  deviceTypeAnyOf : List String := []
  deviceTypeNoneOf : List String := []
  osAnyOf : List String := []
  osNoneOf : List String := []
  browserAnyOf : List String := []
  browserNoneOf : List String := []
  contentCatAnyOf : List String := []
  contentCatNoneOf : List String := []
  keywordsAnyOf : List String := []
  keywordsNoneOf : List String := []
  audiencesAnyOf : List String := []
  audiencesNoneOf : List String := []
  signals : List String := []
  mediaTypeAnyOf : List String := []
  mediaTypeNoneOf : List String := []
  connectionTypeAnyOf : List Int := []
  connectionTypeNoneOf : List Int := []
  custom : List (String × Json) := []
  axeIncludeSegment : Option String := none
  axeExcludeSegment : Option String := none
  propertyList : Option Json := none
  collectionList : Option Json := none
  collectionListExclude : Option Json := none
  frequencyCap : Option AdcpFrequencyCap := none

/-- `Targeting.device_form_factors` -/
def Overlay.deviceFormFactors
    (overlay : Overlay) : List String :=
  if overlay.deviceTypeAnyOf.isEmpty then
    (overlay.devicePlatform.flatMap platformToFormFactors).dedup.insertionSort (· ≤ ·)
  else overlay.deviceTypeAnyOf

end Overlay

section Manager

/-- A `GAMTargetingManager`. -/
structure TargetingManager where
  values : ValueEnv
  geoCountryMap : List (String × String)
  geoRegionMap : List (String × List (String × String))
  geoMetroMap : List (String × String)
  axeIncludeKey : Option String
  axeExcludeKey : Option String
  customTargetingKeyIds : List (String × String)

/-- `CapabilityRefusalDetails` -/
structure CapabilityRefusalDetails where
  capability : String
  rejectedValue : Option Json := none
  acceptedValues : List String := []

/-- Why a translation stops. -/
inductive TargetingRefusal
  /-- `AdCPCapabilityNotSupportedError` -/
  | capability (details : CapabilityRefusalDetails)
  /-- `AdCPConfigurationError` -/
  | configuration
  /-- any other exception -/
  | failure

/-- `geoTargeting`: the ids of locations, where some are asked for. -/
structure GeoTargeting where
  targetedLocations : Option (List String)
  excludedLocations : Option (List String)
  deriving DecidableEq

/-- What `build_targeting` returns. -/
structure GamTargeting where
  geoTargeting : GeoTargeting
  customTargeting : Option CustomTargeting
  mediaTypeEnvironment : Option String

/-- A text that is there and not empty. -/
def present : Option String → Option String
  | some text => if text = "" then none else some text
  | none => none

/-- `str.split(separator, 1)`, where the separator occurs. -/
def splitOnce
    (separator : Char)
    (text : String) : Option (String × String) :=
  match text.toList.span (· ≠ separator) with
  | (_, []) => none
  | (first, _ :: rest) => some (String.ofList first, String.ofList rest)

/-- A list of texts as a value. -/
def textsJson
    (texts : List String) : Json :=
  .arr (texts.map .str)

/-- Refuse a dimension that is asked for. -/
def refuseIf
    (requested : Bool)
    (details : CapabilityRefusalDetails) : Except TargetingRefusal Unit :=
  if requested then .error (.capability details) else .ok ()

namespace TargetingManager

variable (manager : TargetingManager)

/-- `_lookup_region_id` -/
def lookupRegionId
    (code : String) : Option String :=
  match splitOnce '-' code with
  | some (country, region) => ((manager.geoRegionMap.lookup country).getD []).lookup region
  | none => manager.geoRegionMap.findSome? fun entry => entry.2.lookup code

/-- The ids of metros; a system other than Nielsen's is refused. -/
def metroIds
    (metro : GeoMetro) : Except TargetingRefusal (List String) :=
  if metro.system = .nielsenDma then
    .ok (metro.values.filterMap fun code => manager.geoMetroMap.lookup code)
  else .error (.capability
    ⟨"geo_system", some (.str metro.system.value), ["nielsen_dma"]⟩)

/-- The ids of locations to target or to exclude, where any are asked for; codes without an id are
left out. -/
def locations
    (countries regions : List String)
    (metros : List GeoMetro) : Except TargetingRefusal (Option (List String)) :=
  if countries.isEmpty && regions.isEmpty && metros.isEmpty then .ok none
  else do
    let metroLists ← metros.mapM manager.metroIds
    return some (countries.filterMap (fun code => manager.geoCountryMap.lookup code)
      ++ regions.filterMap (fun code => present (manager.lookupRegionId code))
      ++ metroLists.flatten)

/-- An item of the argument of `dict.update`, a pair. -/
def pairOf : Json → Option (String × Json)
  | .arr [.str key, value] => some (key, value)
  | .obj [(key, _), (value, _)] => some (key, .str value)
  | .str text =>
      match text.toList with
      | [key, value] => some (String.singleton key, .str (String.singleton value))
      | _ => none
  | _ => none

/-- The entries that `dict.update` enters into an empty dictionary. -/
def updateEntries : Json → Option (List (String × Json))
  | .obj fields => some fields
  | .arr items => do
      let pairs ← items.mapM pairOf
      return pairs.foldl (fun dict pair => dictSet pair.1 pair.2 dict) []
  | .str text => if text = "" then some [] else none
  | _ => none

/-- The key values of the overlay for GAM. -/
def gamKeyValues
    (custom : List (String × Json)) : Except TargetingRefusal (List (String × Json)) :=
  match custom.lookup "gam" with
  | none => .ok []
  | some (.obj gam) =>
      match updateEntries ((gam.lookup "key_values").getD (.obj [])) with
      | some entries => .ok entries
      | none => .error .failure
  | some _ => .error .failure

/-- Enter a segment under the id of its key; `negation` is the sign of an excluded one. -/
def enterSegment
    (key segment : Option String)
    (capability negation : String)
    (dict : List (String × Json)) : Except TargetingRefusal (List (String × Json)) :=
  match present segment with
  | none => .ok dict
  | some text =>
      match present key with
      | none => .error (.capability { capability })
      | some name =>
          match manager.customTargetingKeyIds.lookup name with
          | none => .error .configuration
          | some id => .ok (dictSet (negation ++ id) (.str text) dict)

/-- The tree of the key values and segments, where there are any. -/
def customTargetingOf
    (dict : List (String × Json)) : Except TargetingRefusal (Option CustomTargeting) :=
  if dict.isEmpty then .ok none
  else
    match buildCustomTargetingStructure manager.values dict with
    | some built => .ok (some built)
    | none => .error .failure

/-- `media_type_map` -/
def mediaTypeMap : List (String × String) :=
  [("video", "VIDEO_PLAYER"), ("display", "BROWSER"), ("native", "BROWSER")]

/-- The environment of the media types; one at most. -/
def environmentOf : List String → Except TargetingRefusal (Option String)
  | [] => .ok none
  | [mediaType] =>
      match mediaTypeMap.lookup mediaType with
      | some environment => .ok (some environment)
      | none => .error (.capability
          ⟨"media_type", some (.str mediaType), ["display", "native", "video"]⟩)
  | mediaTypes => .error (.capability ⟨"media_type_any_of", some (textsJson mediaTypes), []⟩)

/-- `build_targeting`, of an overlay. -/
def buildTargeting
    (overlay : Overlay) : Except TargetingRefusal GamTargeting := do
  refuseIf (! overlay.geoPostalAreas.isEmpty) ⟨"geo_postal_areas", none, []⟩
  refuseIf (! overlay.geoPostalAreasExclude.isEmpty) ⟨"geo_postal_areas_exclude", none, []⟩
  let targetedLocations ← manager.locations overlay.geoCountries overlay.geoRegions
    overlay.geoMetros
  let excludedLocations ← manager.locations overlay.geoCountriesExclude
    overlay.geoRegionsExclude overlay.geoMetrosExclude
  refuseIf (! overlay.deviceFormFactors.isEmpty)
    ⟨if overlay.deviceTypeAnyOf.isEmpty then "device_platform" else "device_type_any_of",
      some (textsJson overlay.deviceFormFactors), []⟩
  refuseIf (! overlay.osAnyOf.isEmpty) ⟨"os_any_of", some (textsJson overlay.osAnyOf), []⟩
  refuseIf (! overlay.browserAnyOf.isEmpty)
    ⟨"browser_any_of", some (textsJson overlay.browserAnyOf), []⟩
  refuseIf (! overlay.contentCatAnyOf.isEmpty)
    ⟨"content_cat_any_of", some (textsJson overlay.contentCatAnyOf), []⟩
  refuseIf (! overlay.keywordsAnyOf.isEmpty)
    ⟨"keywords_any_of", some (textsJson overlay.keywordsAnyOf), []⟩
  let keyValues ← gamKeyValues overlay.custom
  let included ← manager.enterSegment manager.axeIncludeKey overlay.axeIncludeSegment
    "axe_include_segment" "" keyValues
  let entered ← manager.enterSegment manager.axeExcludeKey overlay.axeExcludeSegment
    "axe_exclude_segment" "NOT_" included
  let customTargeting ← manager.customTargetingOf entered
  refuseIf (! overlay.audiencesAnyOf.isEmpty || ! overlay.signals.isEmpty)
    ⟨"audiences", some (textsJson (overlay.audiencesAnyOf ++ overlay.signals)), []⟩
  let mediaTypeEnvironment ← environmentOf overlay.mediaTypeAnyOf
  return ⟨⟨targetedLocations, excludedLocations⟩, customTargeting, mediaTypeEnvironment⟩

end TargetingManager

end Manager

section LineItems

/-- A frequency cap of a line item, or of the configuration of a product. -/
structure FrequencyCap where
  maxImpressions : Int
  numTimeUnits : Int
  timeUnit : String
  deriving DecidableEq, Repr

/-- What a line item takes from the `implementation_config` of its product. -/
structure ImplConfig where
  targetedAdUnitIds : List Json := []
  includeDescendants : Bool := true
  targetedPlacementIds : List Json := []
  customTargetingKeys : List (String × Json) := []
  frequencyCaps : List FrequencyCap := []
  environmentType : String := "BROWSER"

/-- `customTargeting` of a line item: what was built, and entries put beside it. -/
structure CustomTargetingDict where
  built : CustomTargeting
  beside : List (String × Json)

/-- The targeting of a line item, its environment and its caps. -/
structure LineItem where
  targetedAdUnits : List (Json × Bool)
  targetedPlacements : List Json
  geoTargeting : GeoTargeting
  customTargeting : Option CustomTargetingDict
  environmentType : String
  frequencyCaps : List FrequencyCap

/-- The keys of a `customTargeting` that was built. -/
def CustomTargeting.keys : CustomTargeting → List String
  | .empty => []
  | .tree _ => ["xsi_type", "logicalOperator", "children"]

/-- The custom keys of a product are put into the dictionary that was built, where it has none of
the name. -/
def mergeProductKeys
    (custom : Option CustomTargeting)
    (productKeys : List (String × Json)) : Option CustomTargetingDict :=
  if productKeys.isEmpty then custom.map fun built => ⟨built, []⟩
  else
    let built := custom.getD .empty
    some ⟨built, productKeys.filter fun entry => entry.1 ∉ built.keys⟩

/-- `int` of a float -/
def truncate
    (x : ℚ) : Int :=
  if x < 0 then -⌊-x⌋ else ⌊x⌋

/-- The cap of so many minutes, in the largest unit that they reach. -/
def buyerCap
    (suppressMinutes : ℚ) : FrequencyCap :=
  if suppressMinutes < 60 then ⟨1, truncate suppressMinutes, "MINUTE"⟩
  else if suppressMinutes < 1440 then ⟨1, ⌊suppressMinutes / 60⌋, "HOUR"⟩
  else ⟨1, ⌊suppressMinutes / 1440⌋, "DAY"⟩

/-- The cap of the buyer, if any; nothing where the comparison with a missing number raises. -/
def buyerCaps : Option AdcpFrequencyCap → Option (List FrequencyCap)
  | none => some []
  | some cap => cap.suppressMinutes.map fun minutes => [buyerCap minutes]

/-- The part of `create_line_items` that builds on the targeting of a package. -/
def TargetingManager.lineItem
    (manager : TargetingManager)
    (config : ImplConfig)
    (targeting : GamTargeting)
    (cap : Option AdcpFrequencyCap) : Except TargetingRefusal LineItem :=
  if config.targetedAdUnitIds.any fun id => ! manager.values.isDigit (manager.values.text id) then
    .error .configuration
  else if config.targetedAdUnitIds.isEmpty && config.targetedPlacementIds.isEmpty then
    .error .configuration
  else
    match buyerCaps cap with
    | none => .error .failure
    | some caps =>
        .ok
          { targetedAdUnits := config.targetedAdUnitIds.map fun id => (id, config.includeDescendants)
            targetedPlacements := config.targetedPlacementIds
            geoTargeting := targeting.geoTargeting
            customTargeting := mergeProductKeys targeting.customTargeting config.customTargetingKeys
            environmentType := targeting.mediaTypeEnvironment.getD config.environmentType
            frequencyCaps := config.frequencyCaps ++ caps }

end LineItems

section Semantics

/-- A request for an ad: the ids of the locations it comes from, the values of its keys, its
environment, and which of the other dimensions of an overlay it meets. -/
structure Visitor where
  inside : String → Prop
  keyValues : Int → Int → Prop
  environment : String
  meets : String → Prop

/-- Whom locations reach; the ad server reads an empty list as no constraint. -/
def GeoTargeting.Reaches
    (geo : GeoTargeting)
    (inside : String → Prop) : Prop :=
  (geo.targetedLocations.getD [] ≠ [] → ∃ id ∈ geo.targetedLocations.getD [], inside id)
    ∧ ∀ id ∈ geo.excludedLocations.getD [], ¬ inside id

/-- Whom a translated overlay reaches. -/
def GamTargeting.Reaches
    (targeting : GamTargeting)
    (visitor : Visitor) : Prop :=
  targeting.geoTargeting.Reaches visitor.inside
    ∧ (∀ custom, targeting.customTargeting = some custom → custom.Reaches visitor.keyValues)
    ∧ ∀ environment, targeting.mediaTypeEnvironment = some environment →
      visitor.environment = environment

/-- Whom a line item reaches; an entry beside the criteria is none of them. -/
def LineItem.Reaches
    (item : LineItem)
    (visitor : Visitor) : Prop :=
  item.geoTargeting.Reaches visitor.inside
    ∧ (∀ custom, item.customTargeting = some custom → custom.built.Reaches visitor.keyValues)
    ∧ visitor.environment = item.environmentType

/-- The ids that codes are mapped to. -/
def TargetingManager.Locates
    (manager : TargetingManager)
    (countries regions : List String)
    (metros : List GeoMetro)
    (id : String) : Prop :=
  (∃ code ∈ countries, manager.geoCountryMap.lookup code = some id)
    ∨ (∃ code ∈ regions, present (manager.lookupRegionId code) = some id)
    ∨ ∃ metro ∈ metros, ∃ code ∈ metro.values, manager.geoMetroMap.lookup code = some id

/-- The id of the key that a segment is entered under, where the segment is asked for. -/
def TargetingManager.segmentKey
    (manager : TargetingManager)
    (key segment : Option String) : Option (String × String) := do
  let text ← present segment
  let name ← present key
  let id ← manager.customTargetingKeyIds.lookup name
  return (id, text)

/-- What a segment asks of the values of keys. -/
def TargetingManager.SegmentAsks
    (manager : TargetingManager)
    (a : Int → Int → Prop)
    (key segment : Option String)
    (excluded : Bool) : Prop :=
  present segment ≠ none → ∃ id text keyId valueId,
    manager.segmentKey key segment = some (id, text)
      ∧ manager.values.int (.str id) = some keyId
      ∧ manager.values.getOrCreateValue (.str id) (.str text) = some valueId
      ∧ if excluded then ¬ a keyId valueId else a keyId valueId

/-- The dimensions asked for that no line of the translation reads. -/
def Overlay.unread
    (overlay : Overlay) : List String :=
  [("device_type_none_of", overlay.deviceTypeNoneOf.isEmpty),
    ("os_none_of", overlay.osNoneOf.isEmpty),
    ("browser_none_of", overlay.browserNoneOf.isEmpty),
    ("content_cat_none_of", overlay.contentCatNoneOf.isEmpty),
    ("keywords_none_of", overlay.keywordsNoneOf.isEmpty),
    ("audiences_none_of", overlay.audiencesNoneOf.isEmpty),
    ("media_type_none_of", overlay.mediaTypeNoneOf.isEmpty),
    ("connection_type_any_of", overlay.connectionTypeAnyOf.isEmpty),
    ("connection_type_none_of", overlay.connectionTypeNoneOf.isEmpty),
    ("property_list", overlay.propertyList.isNone),
    ("collection_list", overlay.collectionList.isNone),
    ("collection_list_exclude", overlay.collectionListExclude.isNone)].filterMap
      fun dimension => if dimension.2 then none else some dimension.1

/-- The dimensions that have no translation. -/
def Overlay.untranslated
    (overlay : Overlay) : Prop :=
  overlay.geoPostalAreas ≠ [] ∨ overlay.geoPostalAreasExclude ≠ []
    ∨ (∃ metro ∈ overlay.geoMetros ++ overlay.geoMetrosExclude, metro.system ≠ .nielsenDma)
    ∨ overlay.deviceFormFactors ≠ [] ∨ overlay.osAnyOf ≠ [] ∨ overlay.browserAnyOf ≠ []
    ∨ overlay.contentCatAnyOf ≠ [] ∨ overlay.keywordsAnyOf ≠ [] ∨ overlay.audiencesAnyOf ≠ []
    ∨ overlay.signals ≠ [] ∨ overlay.mediaTypeAnyOf.length > 1
    ∨ ∃ mediaType ∈ overlay.mediaTypeAnyOf, mediaType ∉ ["video", "display", "native"]

/-- The key values of an overlay, written in one of the formats; `none` where there are none. -/
def Overlay.KeyValuesWrittenAs
    (overlay : Overlay) : Option TargetingConfig → Prop
  | none => TargetingManager.gamKeyValues overlay.custom = .ok []
  | some config => ∃ fields, TargetingManager.gamKeyValues overlay.custom = .ok fields
      ∧ config.WrittenAs fields ∧ config.operator = .all

/-- Whom an overlay asks for, as far as its codes are mapped. -/
def Overlay.Asks
    (overlay : Overlay)
    (manager : TargetingManager)
    (keyValues : Option TargetingConfig)
    (visitor : Visitor) : Prop :=
  ((∃ id, manager.Locates overlay.geoCountries overlay.geoRegions overlay.geoMetros id) →
      ∃ id, manager.Locates overlay.geoCountries overlay.geoRegions overlay.geoMetros id
        ∧ visitor.inside id)
    ∧ (∀ id, manager.Locates overlay.geoCountriesExclude overlay.geoRegionsExclude
        overlay.geoMetrosExclude id → ¬ visitor.inside id)
    ∧ (∀ config, keyValues = some config → config.Means manager.values visitor.keyValues)
    ∧ manager.SegmentAsks visitor.keyValues manager.axeIncludeKey overlay.axeIncludeSegment false
    ∧ manager.SegmentAsks visitor.keyValues manager.axeExcludeKey overlay.axeExcludeSegment true
    ∧ (∀ mediaType ∈ overlay.mediaTypeAnyOf,
      TargetingManager.mediaTypeMap.lookup mediaType = some visitor.environment)
    ∧ ∀ dimension ∈ overlay.unread, visitor.meets dimension

/-- The keys under which the segments of an overlay are entered. -/
def Overlay.segmentKeys
    (overlay : Overlay)
    (manager : TargetingManager) : List String :=
  (manager.segmentKey manager.axeIncludeKey overlay.axeIncludeSegment).toList.map (·.1)
    ++ (manager.segmentKey manager.axeExcludeKey overlay.axeExcludeSegment).toList.map
      fun entry => "NOT_" ++ entry.1

/-- Segments are entered apart from the key values: these come in the legacy format, and have none
of the keys. -/
def Overlay.SegmentsApart
    (overlay : Overlay)
    (manager : TargetingManager)
    (keyValues : Option TargetingConfig) : Prop :=
  overlay.segmentKeys manager = []
    ∨ ∃ entries, keyValues.getD (.legacy [] .all) = .legacy entries .all
      ∧ ((entries.map (·.1)) ++ overlay.segmentKeys manager).Nodup

/-- The ids of keys are plain: none is the name of a format or looks like a negation. -/
def TargetingManager.PlainKeyIds
    (manager : TargetingManager) : Prop :=
  ∀ entry ∈ manager.customTargetingKeyIds,
    legacyKey entry.2 = (entry.2, false) ∧ entry.2 ∉ ["groups", "include", "exclude"]

/-- The minutes of a time unit, where it has a fixed length. -/
def unitMinutes : String → Option ℚ
  | "MINUTE" => some 1
  | "HOUR" => some 60
  | "DAY" => some 1440
  | "WEEK" => some 10080
  | _ => none

/-- Impressions, by their minutes, that a cap allows: so many in each window of its length. -/
def FrequencyCap.Allows
    (cap : FrequencyCap)
    (times : List ℚ) : Prop :=
  ∀ minutes, unitMinutes cap.timeUnit = some minutes → ∀ start,
    ((times.filter fun t => start ≤ t ∧ t < start + cap.numTimeUnits * minutes).length : Int)
      ≤ cap.maxImpressions

/-- Impressions at least so many minutes apart. -/
def Suppressed
    (minutes : ℚ)
    (times : List ℚ) : Prop :=
  times.Pairwise fun t u => minutes ≤ t - u ∨ minutes ≤ u - t

/-- Minutes that are whole in the unit that they are written in. -/
def WholeUnits
    (minutes : ℚ) : Prop :=
  ∃ n : Int, 0 ≤ n ∧ minutes =
    n * if minutes < 60 then 1 else if minutes < 1440 then 60 else 1440

end Semantics

section Translation

variable {manager : TargetingManager}

theorem dictSet_of_not_mem
    {α : Type}
    {key : String} {value : α} {dict : List (String × α)}
    (h : key ∉ dict.map (·.1)) :
    dictSet key value dict = dict ++ [(key, value)] := by
  induction dict with
  | nil => rfl
  | cons entry dict ih =>
      rw [List.map_cons, List.mem_cons, not_or] at h
      rw [dictSet, if_neg (Ne.symm h.1), ih h.2, List.cons_append]

theorem refuseIf_eq_ok
    {requested : Bool} {details : CapabilityRefusalDetails} :
    refuseIf requested details = .ok () ↔ requested = false := by
  cases requested with
  | false => exact iff_of_true rfl rfl
  | true =>
      constructor
      · intro h
        cases h
      · intro h
        cases h

theorem eq_nil_of_not_isEmpty
    {α : Type}
    {xs : List α}
    (h : (! xs.isEmpty) = false) :
    xs = [] := by
  rw [Bool.not_eq_false'] at h
  exact List.isEmpty_iff.mp h

theorem eq_nil_of_refuseIf
    {α : Type}
    {xs : List α} {details : CapabilityRefusalDetails}
    (h : refuseIf (! xs.isEmpty) details = .ok ()) :
    xs = [] :=
  eq_nil_of_not_isEmpty (refuseIf_eq_ok.mp h)

theorem bind_eq_ok
    {ε α β : Type}
    {x : Except ε α} {f : α → Except ε β} {b : β} :
    (x >>= f) = .ok b ↔ ∃ a, x = .ok a ∧ f a = .ok b := by
  cases x with
  | error e =>
      constructor
      · intro h
        cases h
      · rintro ⟨a, ha, -⟩
        cases ha
  | ok a =>
      constructor
      · intro h
        exact ⟨a, rfl, h⟩
      · rintro ⟨a', ha', h⟩
        cases ha'
        exact h

theorem metroIds_eq_ok
    {metro : GeoMetro} {ids : List String}
    (h : manager.metroIds metro = .ok ids) :
    metro.system = .nielsenDma
      ∧ ids = metro.values.filterMap fun code => manager.geoMetroMap.lookup code := by
  rw [TargetingManager.metroIds] at h
  split at h
  · next hsystem =>
      cases h
      exact ⟨hsystem, rfl⟩
  · cases h

theorem locations_eq_ok
    {countries regions : List String} {metros : List GeoMetro} {found : Option (List String)}
    (h : manager.locations countries regions metros = .ok found) :
    (∀ id, id ∈ found.getD [] ↔ manager.Locates countries regions metros id)
      ∧ ∀ metro ∈ metros, metro.system = .nielsenDma := by
  rw [TargetingManager.locations] at h
  split at h
  · next hempty =>
      cases h
      simp only [Bool.and_eq_true, List.isEmpty_iff] at hempty
      obtain ⟨⟨rfl, rfl⟩, rfl⟩ := hempty
      refine ⟨?_, fun metro hmetro => absurd hmetro List.not_mem_nil⟩
      intro id
      simp [TargetingManager.Locates]
  · obtain ⟨lists, hlists, hfound⟩ := bind_eq_ok.mp h
    cases hfound
    refine ⟨?_, ?_⟩
    · intro id
      simp only [Option.getD_some, List.mem_append, List.mem_filterMap, List.mem_flatten,
        TargetingManager.Locates, or_assoc]
      refine or_congr_right (or_congr_right ?_)
      constructor
      · rintro ⟨ids, hids, hid⟩
        obtain ⟨metro, hmetro, hfound⟩ := (Runs.mem_of_mapM_eq_ok hlists ids).mp hids
        obtain ⟨-, rfl⟩ := metroIds_eq_ok hfound
        obtain ⟨code, hcode, hlookup⟩ := List.mem_filterMap.mp hid
        exact ⟨metro, hmetro, code, hcode, hlookup⟩
      · rintro ⟨metro, hmetro, code, hcode, hlookup⟩
        obtain ⟨ids, hids⟩ := Runs.exists_mapM_eq_ok_iff.mp ⟨lists, hlists⟩ metro hmetro
        refine ⟨ids, (Runs.mem_of_mapM_eq_ok hlists ids).mpr ⟨metro, hmetro, hids⟩, ?_⟩
        rw [(metroIds_eq_ok hids).2]
        exact List.mem_filterMap.mpr ⟨code, hcode, hlookup⟩
    · intro metro hmetro
      obtain ⟨ids, hids⟩ := Runs.exists_mapM_eq_ok_iff.mp ⟨lists, hlists⟩ metro hmetro
      exact (metroIds_eq_ok hids).1

theorem enterSegment_eq_ok
    {key segment : Option String} {capability negation : String}
    {dict entered : List (String × Json)}
    (h : manager.enterSegment key segment capability negation dict = .ok entered) :
    (present segment ≠ none → manager.segmentKey key segment ≠ none)
      ∧ entered = match manager.segmentKey key segment with
        | none => dict
        | some (id, text) => dictSet (negation ++ id) (.str text) dict := by
  rw [TargetingManager.enterSegment] at h
  rw [TargetingManager.segmentKey]
  cases hsegment : present segment with
  | none =>
      rw [hsegment] at h
      cases h
      exact ⟨fun hne => absurd rfl hne, rfl⟩
  | some text =>
      rw [hsegment] at h
      dsimp only at h
      cases hkey : present key with
      | none =>
          rw [hkey] at h
          cases h
      | some name =>
          rw [hkey] at h
          dsimp only at h
          simp only [Option.bind_eq_bind, Option.bind_some, Option.pure_def]
          cases hid : manager.customTargetingKeyIds.lookup name with
          | none =>
              rw [hid] at h
              cases h
          | some id =>
              rw [hid] at h
              cases h
              exact ⟨fun _ => Option.some_ne_none _, rfl⟩

theorem customTargetingOf_eq_ok
    {dict : List (String × Json)} {custom : Option CustomTargeting}
    (h : manager.customTargetingOf dict = .ok custom) :
    (dict = [] ∧ custom = none)
      ∨ ∃ built, custom = some built
        ∧ buildCustomTargetingStructure manager.values dict = some built := by
  rw [TargetingManager.customTargetingOf] at h
  cases dict with
  | nil =>
      cases h
      exact .inl ⟨rfl, rfl⟩
  | cons entry dict =>
      rw [List.isEmpty_cons, if_neg Bool.false_ne_true] at h
      cases hbuilt : buildCustomTargetingStructure manager.values (entry :: dict) with
      | none =>
          rw [hbuilt] at h
          cases h
      | some built =>
          rw [hbuilt] at h
          cases h
          exact .inr ⟨built, rfl, rfl⟩

theorem environmentOf_eq_ok
    {mediaTypes : List String} {environment : Option String}
    (h : TargetingManager.environmentOf mediaTypes = .ok environment) :
    mediaTypes.length ≤ 1
      ∧ (mediaTypes = [] → environment = none)
      ∧ ∀ mediaType ∈ mediaTypes, ∃ mapped,
        TargetingManager.mediaTypeMap.lookup mediaType = some mapped
          ∧ environment = some mapped := by
  rcases mediaTypes with - | ⟨mediaType, - | ⟨second, rest⟩⟩
  · cases h
    exact ⟨Nat.zero_le 1, fun _ => rfl, fun mediaType hmem => absurd hmem List.not_mem_nil⟩
  · rw [TargetingManager.environmentOf] at h
    cases hmapped : TargetingManager.mediaTypeMap.lookup mediaType with
    | none =>
        rw [hmapped] at h
        cases h
    | some mapped =>
        rw [hmapped] at h
        cases h
        refine ⟨Nat.le_refl 1, fun hnil => absurd hnil (List.cons_ne_nil _ _), ?_⟩
        intro mediaType' hmem
        rw [List.mem_singleton.mp hmem]
        exact ⟨mapped, hmapped, rfl⟩
  · cases h

/-- What a translation that succeeds has read, refused and built. -/
structure Translated
    (manager : TargetingManager)
    (overlay : Overlay)
    (targeting : GamTargeting) : Prop where
  postal : overlay.geoPostalAreas = [] ∧ overlay.geoPostalAreasExclude = []
  targeted : manager.locations overlay.geoCountries overlay.geoRegions overlay.geoMetros
    = .ok targeting.geoTargeting.targetedLocations
  excluded : manager.locations overlay.geoCountriesExclude overlay.geoRegionsExclude
    overlay.geoMetrosExclude = .ok targeting.geoTargeting.excludedLocations
  devices : overlay.deviceFormFactors = []
  refused : overlay.osAnyOf = [] ∧ overlay.browserAnyOf = [] ∧ overlay.contentCatAnyOf = []
    ∧ overlay.keywordsAnyOf = [] ∧ overlay.audiencesAnyOf = [] ∧ overlay.signals = []
  custom : ∃ keyValues included entered,
    TargetingManager.gamKeyValues overlay.custom = .ok keyValues
      ∧ manager.enterSegment manager.axeIncludeKey overlay.axeIncludeSegment
        "axe_include_segment" "" keyValues = .ok included
      ∧ manager.enterSegment manager.axeExcludeKey overlay.axeExcludeSegment
        "axe_exclude_segment" "NOT_" included = .ok entered
      ∧ manager.customTargetingOf entered = .ok targeting.customTargeting
  environment : TargetingManager.environmentOf overlay.mediaTypeAnyOf
    = .ok targeting.mediaTypeEnvironment

/-- A translation that succeeds. -/
theorem buildTargeting_eq_ok
    {overlay : Overlay} {targeting : GamTargeting}
    (h : manager.buildTargeting overlay = .ok targeting) :
    Translated manager overlay targeting := by
  rw [TargetingManager.buildTargeting] at h
  obtain ⟨⟨⟩, hpostal, h⟩ := bind_eq_ok.mp h
  obtain ⟨⟨⟩, hpostalExclude, h⟩ := bind_eq_ok.mp h
  obtain ⟨targeted, htargeted, h⟩ := bind_eq_ok.mp h
  obtain ⟨excluded, hexcluded, h⟩ := bind_eq_ok.mp h
  obtain ⟨⟨⟩, hdevices, h⟩ := bind_eq_ok.mp h
  obtain ⟨⟨⟩, hos, h⟩ := bind_eq_ok.mp h
  obtain ⟨⟨⟩, hbrowser, h⟩ := bind_eq_ok.mp h
  obtain ⟨⟨⟩, hcontent, h⟩ := bind_eq_ok.mp h
  obtain ⟨⟨⟩, hkeywords, h⟩ := bind_eq_ok.mp h
  obtain ⟨keyValues, hkeyValues, h⟩ := bind_eq_ok.mp h
  obtain ⟨included, hincluded, h⟩ := bind_eq_ok.mp h
  obtain ⟨entered, hentered, h⟩ := bind_eq_ok.mp h
  obtain ⟨custom, hcustom, h⟩ := bind_eq_ok.mp h
  obtain ⟨⟨⟩, haudiences, h⟩ := bind_eq_ok.mp h
  obtain ⟨environment, henvironment, h⟩ := bind_eq_ok.mp h
  cases h
  rw [refuseIf_eq_ok, Bool.or_eq_false_iff] at haudiences
  exact
    { postal := ⟨eq_nil_of_refuseIf hpostal, eq_nil_of_refuseIf hpostalExclude⟩
      targeted := htargeted
      excluded := hexcluded
      devices := eq_nil_of_refuseIf hdevices
      refused := ⟨eq_nil_of_refuseIf hos, eq_nil_of_refuseIf hbrowser,
        eq_nil_of_refuseIf hcontent, eq_nil_of_refuseIf hkeywords,
        eq_nil_of_not_isEmpty haudiences.1, eq_nil_of_not_isEmpty haudiences.2⟩
      custom := ⟨keyValues, included, entered, hkeyValues, hincluded, hentered, hcustom⟩
      environment := henvironment }

theorem Translated.not_untranslated
    {overlay : Overlay} {targeting : GamTargeting}
    (h : Translated manager overlay targeting) :
    ¬ overlay.untranslated := by
  have hmetros := (locations_eq_ok h.targeted).2
  have hmetrosExclude := (locations_eq_ok h.excluded).2
  obtain ⟨hlength, -, hmapped⟩ := environmentOf_eq_ok h.environment
  obtain ⟨hos, hbrowser, hcontent, hkeywords, haudiences, hsignals⟩ := h.refused
  rintro (h' | h' | ⟨metro, hmetro, hsystem⟩ | h' | h' | h' | h' | h' | h' | h' | h'
    | ⟨mediaType, hmedia, hunknown⟩)
  · exact h' h.postal.1
  · exact h' h.postal.2
  · rcases List.mem_append.mp hmetro with hmem | hmem
    · exact hsystem (hmetros metro hmem)
    · exact hsystem (hmetrosExclude metro hmem)
  · exact h' h.devices
  · exact h' hos
  · exact h' hbrowser
  · exact h' hcontent
  · exact h' hkeywords
  · exact h' haudiences
  · exact h' hsignals
  · exact absurd hlength (Nat.not_le.mpr h')
  · obtain ⟨mapped, hlookup, -⟩ := hmapped mediaType hmedia
    have hnone : TargetingManager.mediaTypeMap.lookup mediaType = none := by
      rw [List.lookup_eq_none_iff]
      intro entry hentry
      refine bne_iff_ne.mpr ?_
      rintro rfl
      exact hunknown (List.mem_map_of_mem hentry)
    rw [hnone] at hlookup
    cases hlookup

end Translation

section KeyValues

variable {manager : TargetingManager} {overlay : Overlay}

theorem legacyKey_not
    (id : String) :
    legacyKey ("NOT_" ++ id) = (id, true) := by
  have hlist : ("NOT_" ++ id).toList = "NOT_".toList ++ id.toList := String.toList_append
  rw [legacyKey, hlist, List.isPrefixOf_iff_prefix.mpr (List.prefix_append _ _), if_pos rfl]
  refine Prod.ext ?_ rfl
  show String.ofList (id.toList) = id
  exact String.ofList_toList

/-- The entries of the legacy format that the segments of an overlay are. -/
def Overlay.segmentEntries
    (overlay : Overlay)
    (manager : TargetingManager) : List (String × String) :=
  (manager.segmentKey manager.axeIncludeKey overlay.axeIncludeSegment).toList
    ++ (manager.segmentKey manager.axeExcludeKey overlay.axeExcludeSegment).toList.map
      fun entry => ("NOT_" ++ entry.1, entry.2)

theorem segmentEntries_keys
    (overlay : Overlay)
    (manager : TargetingManager) :
    (overlay.segmentEntries manager).map (·.1) = overlay.segmentKeys manager := by
  rw [Overlay.segmentEntries, Overlay.segmentKeys, List.map_append, List.map_map]
  rfl

theorem segmentKey_plain
    (hplain : manager.PlainKeyIds)
    {key segment : Option String} {id text : String}
    (h : manager.segmentKey key segment = some (id, text)) :
    legacyKey id = (id, false) ∧ id ∉ ["groups", "include", "exclude"] := by
  simp only [TargetingManager.segmentKey, Option.bind_eq_bind, Option.bind_eq_some_iff,
    Option.pure_def, Option.some.injEq, Prod.mk.injEq] at h
  obtain ⟨text', -, name, -, id', hlookup, rfl, rfl⟩ := h
  obtain ⟨before, after, heq, -⟩ := List.lookup_eq_some_iff.mp hlookup
  have hmem : (name, id') ∈ manager.customTargetingKeyIds := by
    rw [heq]
    exact List.mem_append_right _ List.mem_cons_self
  exact hplain _ hmem

theorem not_format_of_negation
    (id : String) :
    "NOT_" ++ id ∉ ["groups", "include", "exclude"] := by
  have hplain : ∀ name ∈ ["groups", "include", "exclude"], (legacyKey name).2 = false := by decide
  intro hmem
  have hnegative := hplain _ hmem
  rw [legacyKey_not] at hnegative
  cases hnegative

theorem enterSegment_fresh
    {key segment : Option String} {capability negation : String}
    {dict entered : List (String × Json)}
    (h : manager.enterSegment key segment capability negation dict = .ok entered)
    (hfresh : ∀ entry ∈ (manager.segmentKey key segment).toList,
      negation ++ entry.1 ∉ dict.map (·.1)) :
    entered = dict
      ++ (manager.segmentKey key segment).toList.map fun entry =>
        (negation ++ entry.1, .str entry.2) := by
  obtain ⟨-, hentered⟩ := enterSegment_eq_ok h
  cases hkey : manager.segmentKey key segment with
  | none =>
      rw [hkey] at hentered
      rw [hentered, Option.toList_none, List.map_nil, List.append_nil]
  | some entry =>
      rw [hkey] at hentered hfresh
      rw [hentered]
      exact dictSet_of_not_mem (hfresh entry (Option.mem_toList.mpr rfl))

theorem entered_eq
    {keyValues included entered : List (String × Json)}
    (hincluded : manager.enterSegment manager.axeIncludeKey overlay.axeIncludeSegment
      "axe_include_segment" "" keyValues = .ok included)
    (hentered : manager.enterSegment manager.axeExcludeKey overlay.axeExcludeSegment
      "axe_exclude_segment" "NOT_" included = .ok entered)
    (hnodup : (keyValues.map (·.1) ++ overlay.segmentKeys manager).Nodup) :
    entered = keyValues
      ++ (overlay.segmentEntries manager).map fun entry => (entry.1, .str entry.2) := by
  rw [Overlay.segmentKeys] at hnodup
  have hplus : ∀ id : String, "" ++ id = id := fun id => String.empty_append
  have hfirst := enterSegment_fresh hincluded (by
    intro entry hentry hmem
    rw [hplus] at hmem
    refine (List.nodup_append.mp hnodup).2.2 entry.1 hmem entry.1 ?_ rfl
    exact List.mem_append_left _ (List.mem_map_of_mem hentry))
  simp only [hplus] at hfirst
  have hsecond := enterSegment_fresh hentered (by
    intro entry hentry hmem
    rw [hfirst, List.map_append, List.map_map] at hmem
    rw [← List.append_assoc] at hnodup
    exact (List.nodup_append.mp hnodup).2.2 ("NOT_" ++ entry.1) hmem _
      (List.mem_map_of_mem hentry) rfl)
  rw [hsecond, hfirst, Overlay.segmentEntries, List.map_append, List.map_map, List.append_assoc]
  rfl

theorem segmentAsks_iff
    {a : Int → Int → Prop}
    {key segment : Option String} {excluded : Bool}
    {negate : String → String}
    (hpresent : present segment ≠ none → manager.segmentKey key segment ≠ none)
    (hnegate : ∀ entry ∈ (manager.segmentKey key segment).toList,
      legacyKey (negate entry.1) = (entry.1, excluded)) :
    manager.SegmentAsks a key segment excluded
      ↔ ∀ entry ∈ (manager.segmentKey key segment).toList,
        LegacySays manager.values a (negate entry.1, entry.2) := by
  cases hkey : manager.segmentKey key segment with
  | none =>
      refine iff_of_true ?_ (fun entry hentry => absurd hentry List.not_mem_nil)
      exact fun hsome => absurd hkey (hpresent hsome)
  | some entry =>
      obtain ⟨id, text⟩ := entry
      have hsome : present segment ≠ none := by
        intro hnone
        rw [TargetingManager.segmentKey, hnone] at hkey
        cases hkey
      have hlegacy := hnegate (id, text) (Option.mem_toList.mpr hkey)
      rw [TargetingManager.SegmentAsks, imp_iff_right hsome, Option.toList_some,
        List.forall_mem_singleton, LegacySays, hlegacy, hkey]
      constructor
      · rintro ⟨id', text', keyId, valueId, heq, hint, hvalue, hsays⟩
        cases heq
        exact ⟨keyId, valueId, hint, hvalue, hsays⟩
      · rintro ⟨keyId, valueId, hint, hvalue, hsays⟩
        exact ⟨id, text, keyId, valueId, rfl, hint, hvalue, hsays⟩

theorem legacy_exact
    (hplain : manager.PlainKeyIds)
    {entries : List (String × String)}
    (hformats : ∀ entry ∈ entries, entry.1 ∉ ["groups", "include", "exclude"])
    {custom : Option CustomTargeting}
    (hcustom : manager.customTargetingOf
      ((entries ++ overlay.segmentEntries manager).map fun entry => (entry.1, .str entry.2))
        = .ok custom)
    {a : Int → Int → Prop} :
    (∀ built, custom = some built → built.Reaches a)
      ↔ ∀ entry ∈ entries ++ overlay.segmentEntries manager,
        LegacySays manager.values a entry := by
  have hwritten : (TargetingConfig.legacy (entries ++ overlay.segmentEntries manager)
      .all).WrittenAs
        ((entries ++ overlay.segmentEntries manager).map fun entry => (entry.1, .str entry.2)) := by
    refine ⟨rfl, ?_⟩
    intro entry hentry
    rcases List.mem_append.mp hentry with hmem | hmem
    · exact hformats entry hmem
    · rw [Overlay.segmentEntries] at hmem
      rcases List.mem_append.mp hmem with hincluded | hexcluded
      · exact (segmentKey_plain hplain (Option.mem_toList.mp hincluded)).2
      · obtain ⟨entry', -, rfl⟩ := List.mem_map.mp hexcluded
        exact not_format_of_negation entry'.1
  rcases customTargetingOf_eq_ok hcustom with ⟨hempty, rfl⟩ | ⟨built, rfl, hbuilt⟩
  · rw [List.map_eq_nil_iff] at hempty
    rw [hempty]
    refine iff_of_true ?_ (fun entry hentry => absurd hentry List.not_mem_nil)
    exact fun built hnone => absurd hnone.symm (Option.some_ne_none _)
  · have hholds := @build_holds manager.values _ _ hwritten built hbuilt a
    constructor
    · exact fun h => hholds.mp (h built rfl)
    · rintro h built' heq
      cases heq
      exact hholds.mpr h

/-- The segments of an overlay ask what their entries say. -/
theorem segmentEntries_say
    (hplain : manager.PlainKeyIds)
    {keyValues included entered : List (String × Json)}
    (hincluded : manager.enterSegment manager.axeIncludeKey overlay.axeIncludeSegment
      "axe_include_segment" "" keyValues = .ok included)
    (hentered : manager.enterSegment manager.axeExcludeKey overlay.axeExcludeSegment
      "axe_exclude_segment" "NOT_" included = .ok entered)
    {a : Int → Int → Prop} :
    (manager.SegmentAsks a manager.axeIncludeKey overlay.axeIncludeSegment false
        ∧ manager.SegmentAsks a manager.axeExcludeKey overlay.axeExcludeSegment true)
      ↔ ∀ entry ∈ overlay.segmentEntries manager, LegacySays manager.values a entry := by
  have hfirst := @segmentAsks_iff manager a _ _ false (fun id => id)
    (enterSegment_eq_ok hincluded).1
    (fun entry hentry => (segmentKey_plain hplain (Option.mem_toList.mp hentry)).1)
  have hsecond := @segmentAsks_iff manager a _ _ true (fun id => "NOT_" ++ id)
    (enterSegment_eq_ok hentered).1 (fun entry _ => legacyKey_not entry.1)
  rw [hfirst, hsecond, Overlay.segmentEntries, List.forall_mem_append, List.forall_mem_map]

theorem means_of_writtenAs_nil
    {config : TargetingConfig}
    (hwritten : config.WrittenAs [])
    (hoperator : config.operator = .all)
    {a : Int → Int → Prop} :
    config.Means manager.values a := by
  cases config with
  | legacy entries operator =>
      obtain ⟨hempty, -⟩ := hwritten
      have hnil := List.map_eq_nil_iff.mp hempty.symm
      change operator = .all at hoperator
      rw [hoperator, hnil]
      exact fun entry hentry => absurd hentry List.not_mem_nil
  | enhanced included excluded operator => cases hwritten.2.1
  | groups parts =>
      obtain ⟨items, hitems, -⟩ := hwritten
      cases hitems

theorem custom_exact
    (hplain : manager.PlainKeyIds)
    {config : Option TargetingConfig}
    (hconfig : overlay.KeyValuesWrittenAs config)
    (hapart : overlay.SegmentsApart manager config)
    {targeting : GamTargeting}
    (h : Translated manager overlay targeting)
    {a : Int → Int → Prop} :
    (∀ custom, targeting.customTargeting = some custom → custom.Reaches a)
      ↔ (∀ c, config = some c → c.Means manager.values a)
        ∧ manager.SegmentAsks a manager.axeIncludeKey overlay.axeIncludeSegment false
        ∧ manager.SegmentAsks a manager.axeExcludeKey overlay.axeExcludeSegment true := by
  obtain ⟨keyValues, included, entered, hkeyValues, hincluded, hentered, hcustom⟩ := h.custom
  rw [segmentEntries_say hplain hincluded hentered]
  rcases hapart with hnone | ⟨entries, hlegacy, hnodup⟩
  · rw [← segmentEntries_keys, List.map_eq_nil_iff] at hnone
    rw [hnone]
    have hkeys := List.append_eq_nil_iff.mp hnone
    have hfirst := enterSegment_fresh hincluded (by
      rw [hkeys.1]
      exact fun entry hentry => absurd hentry List.not_mem_nil)
    have hsecond := enterSegment_fresh hentered (by
      rw [List.map_eq_nil_iff.mp hkeys.2]
      exact fun entry hentry => absurd hentry List.not_mem_nil)
    rw [hkeys.1, List.map_nil, List.append_nil] at hfirst
    rw [List.map_eq_nil_iff.mp hkeys.2, List.map_nil, List.append_nil, hfirst] at hsecond
    rw [hsecond] at hcustom
    have htrivial : ∀ entry ∈ ([] : List (String × String)), LegacySays manager.values a entry :=
      fun entry hentry => absurd hentry List.not_mem_nil
    rw [and_iff_left htrivial]
    rcases customTargetingOf_eq_ok hcustom with ⟨hempty, hbuilt⟩ | ⟨built, hbuilt, hstructure⟩
    · rw [hbuilt]
      refine iff_of_true (fun custom hc => absurd hc.symm (Option.some_ne_none _)) ?_
      rintro c rfl
      obtain ⟨fields, hfields, hwritten, hoperator⟩ := hconfig
      rw [hkeyValues] at hfields
      cases hfields
      rw [hempty] at hwritten
      exact means_of_writtenAs_nil hwritten hoperator
    · rw [hbuilt]
      cases config with
      | none =>
          rw [Overlay.KeyValuesWrittenAs, hkeyValues] at hconfig
          cases hconfig
          change Except.ok none = _ at hcustom
          rw [hbuilt] at hcustom
          cases hcustom
      | some c =>
          obtain ⟨fields, hfields, hwritten, hoperator⟩ := hconfig
          rw [hkeyValues] at hfields
          cases hfields
          have hbuild : c.build manager.values keyValues = some built := by
            rw [TargetingConfig.build, hoperator]
            exact hstructure
          constructor
          · rintro hall c' heq
            cases heq
            exact (build_holds hwritten hbuild).mp (hall built rfl)
          · rintro hall built' heq
            cases heq
            exact (build_holds hwritten hbuild).mpr (hall c rfl)
  · have hkv : keyValues = (entries.map fun entry => (entry.1, .str entry.2))
        ∧ (∀ entry ∈ entries, entry.1 ∉ ["groups", "include", "exclude"])
        ∧ ((∀ c, config = some c → c.Means manager.values a)
          ↔ ∀ entry ∈ entries, LegacySays manager.values a entry) := by
      cases config with
      | none =>
          cases hlegacy
          rw [Overlay.KeyValuesWrittenAs, hkeyValues] at hconfig
          cases hconfig
          refine ⟨rfl, fun entry hentry => absurd hentry List.not_mem_nil, ?_⟩
          refine iff_of_true (fun c hc => absurd hc.symm (Option.some_ne_none _)) ?_
          exact fun entry hentry => absurd hentry List.not_mem_nil
      | some c =>
          obtain ⟨fields, hfields, hwritten, -⟩ := hconfig
          rw [hkeyValues] at hfields
          cases hfields
          change c = _ at hlegacy
          subst hlegacy
          refine ⟨hwritten.1, hwritten.2, ?_⟩
          constructor
          · exact fun hall => hall _ rfl
          · rintro hall c heq
            cases heq
            exact hall
    obtain ⟨rfl, hformats, hmeans⟩ := hkv
    rw [hmeans, ← List.forall_mem_append]
    have hkeys : (entries.map fun entry => (entry.1, Json.str entry.2)).map (·.1)
        = entries.map (·.1) := by
      rw [List.map_map]
      rfl
    rw [← hkeys] at hnodup
    have hall := entered_eq hincluded hentered hnodup
    rw [← List.map_append] at hall
    rw [hall] at hcustom
    exact legacy_exact hplain hformats hcustom

end KeyValues

section Exactness

variable {manager : TargetingManager} {overlay : Overlay} {targeting : GamTargeting}

theorem geo_exact
    (h : Translated manager overlay targeting)
    {inside : String → Prop} :
    targeting.geoTargeting.Reaches inside
      ↔ ((∃ id, manager.Locates overlay.geoCountries overlay.geoRegions overlay.geoMetros id) →
          ∃ id, manager.Locates overlay.geoCountries overlay.geoRegions overlay.geoMetros id
            ∧ inside id)
        ∧ ∀ id, manager.Locates overlay.geoCountriesExclude overlay.geoRegionsExclude
          overlay.geoMetrosExclude id → ¬ inside id := by
  have htargeted := (locations_eq_ok h.targeted).1
  have hexcluded := (locations_eq_ok h.excluded).1
  have hsome : targeting.geoTargeting.targetedLocations.getD [] ≠ []
      ↔ ∃ id, manager.Locates overlay.geoCountries overlay.geoRegions overlay.geoMetros id := by
    simp only [← htargeted]
    exact ⟨List.exists_mem_of_ne_nil _, fun ⟨id, hid⟩ => List.ne_nil_of_mem hid⟩
  rw [GeoTargeting.Reaches, hsome]
  simp only [htargeted, hexcluded]

theorem Translated.reaches_iff
    (hplain : manager.PlainKeyIds)
    {config : Option TargetingConfig}
    (hconfig : overlay.KeyValuesWrittenAs config)
    (hapart : overlay.SegmentsApart manager config)
    (hread : overlay.unread = [])
    (h : Translated manager overlay targeting)
    {visitor : Visitor} :
    targeting.Reaches visitor ↔ overlay.Asks manager config visitor := by
  obtain ⟨-, hnone, hmapped⟩ := environmentOf_eq_ok h.environment
  have henvironment : (∀ environment, targeting.mediaTypeEnvironment = some environment →
        visitor.environment = environment)
      ↔ ∀ mediaType ∈ overlay.mediaTypeAnyOf,
        TargetingManager.mediaTypeMap.lookup mediaType = some visitor.environment := by
    constructor
    · intro hall mediaType hmedia
      obtain ⟨mapped, hlookup, heq⟩ := hmapped mediaType hmedia
      rw [hlookup, hall mapped heq]
    · intro hall environment heq
      rcases List.eq_nil_or_concat overlay.mediaTypeAnyOf with hnil | ⟨rest, mediaType, hlist⟩
      · rw [hnone hnil] at heq
        cases heq
      · have hmedia : mediaType ∈ overlay.mediaTypeAnyOf := by
          rw [hlist, List.concat_eq_append]
          exact List.mem_append_right _ List.mem_cons_self
        obtain ⟨mapped, hlookup, heq'⟩ := hmapped mediaType hmedia
        rw [heq] at heq'
        cases heq'
        exact Option.some.inj ((hall mediaType hmedia).symm.trans hlookup)
  have hunread : ∀ dimension ∈ overlay.unread, visitor.meets dimension := by
    rw [hread]
    exact fun dimension hmem => absurd hmem List.not_mem_nil
  rw [GamTargeting.Reaches, Overlay.Asks, geo_exact h, custom_exact hplain hconfig hapart h,
    henvironment]
  constructor
  · rintro ⟨⟨hinside, houtside⟩, ⟨hmeans, hincluded, hexcluded⟩, hmedia⟩
    exact ⟨hinside, houtside, hmeans, hincluded, hexcluded, hmedia, hunread⟩
  · rintro ⟨hinside, houtside, hmeans, hincluded, hexcluded, hmedia, -⟩
    exact ⟨⟨hinside, houtside⟩, ⟨hmeans, hincluded, hexcluded⟩, hmedia⟩

theorem lineItem_eq_ok
    {config : ImplConfig} {cap : Option AdcpFrequencyCap} {item : LineItem}
    (h : manager.lineItem config targeting cap = .ok item) :
    item.geoTargeting = targeting.geoTargeting
      ∧ item.customTargeting
        = mergeProductKeys targeting.customTargeting config.customTargetingKeys
      ∧ item.environmentType = targeting.mediaTypeEnvironment.getD config.environmentType
      ∧ ∃ caps, buyerCaps cap = some caps ∧ item.frequencyCaps = config.frequencyCaps ++ caps := by
  rw [TargetingManager.lineItem] at h
  split at h
  · cases h
  · split at h
    · cases h
    · split at h
      · cases h
      · next caps hcaps =>
          cases h
          exact ⟨rfl, rfl, rfl, caps, hcaps, rfl⟩

/-- A line item of a product without custom keys reaches whom the translation reaches, in its
environment. -/
theorem lineItem_reaches_iff
    {config : ImplConfig} {cap : Option AdcpFrequencyCap} {item : LineItem}
    (hkeys : config.customTargetingKeys = [])
    (h : manager.lineItem config targeting cap = .ok item)
    {visitor : Visitor} :
    item.Reaches visitor
      ↔ targeting.Reaches visitor ∧ visitor.environment = item.environmentType := by
  obtain ⟨hgeo, hcustom, henvironment, -⟩ := lineItem_eq_ok h
  have hcustomIff : (∀ custom, item.customTargeting = some custom →
        custom.built.Reaches visitor.keyValues)
      ↔ ∀ custom, targeting.customTargeting = some custom →
        custom.Reaches visitor.keyValues := by
    rw [hcustom, hkeys]
    cases targeting.customTargeting with
    | none =>
        refine iff_of_true ?_ ?_
        · exact fun custom hc => absurd hc.symm (Option.some_ne_none _)
        · exact fun custom hc => absurd hc.symm (Option.some_ne_none _)
    | some built =>
        constructor
        · rintro hall custom heq
          cases heq
          exact hall _ rfl
        · rintro hall custom heq
          cases heq
          exact hall _ rfl
  rw [LineItem.Reaches, GamTargeting.Reaches, hgeo, hcustomIff]
  constructor
  · rintro ⟨hinside, hvalues, hplace⟩
    refine ⟨⟨hinside, hvalues, ?_⟩, hplace⟩
    intro environment hsome
    rw [hplace, henvironment, hsome, Option.getD_some]
  · rintro ⟨⟨hinside, hvalues, -⟩, hplace⟩
    exact ⟨hinside, hvalues, hplace⟩

theorem floor_mul_div
    {n : Int} {unit : ℚ}
    (hunit : unit ≠ 0) :
    ⌊(n * unit) / unit⌋ = n := by
  rw [mul_div_cancel_right₀ _ hunit, Int.floor_intCast]

/-- A cap in whole units is as long as the minutes it was made from. -/
theorem buyerCap_minutes
    {minutes : ℚ}
    (hwhole : WholeUnits minutes) :
    (buyerCap minutes).maxImpressions = 1
      ∧ ∃ unit, unitMinutes (buyerCap minutes).timeUnit = some unit
        ∧ (buyerCap minutes).numTimeUnits * unit = minutes := by
  obtain ⟨n, hn, heq⟩ := hwhole
  rw [buyerCap]
  by_cases hminute : minutes < 60
  · rw [if_pos hminute] at heq ⊢
    rw [mul_one] at heq
    refine ⟨rfl, 1, rfl, ?_⟩
    have hnonneg : ¬ (n : ℚ) < 0 := not_lt.mpr (Int.cast_nonneg hn)
    show ((truncate minutes : Int) : ℚ) * 1 = minutes
    rw [heq, truncate, if_neg hnonneg, Int.floor_intCast, mul_one]
  · rw [if_neg hminute] at heq ⊢
    by_cases hhour : minutes < 1440
    · rw [if_pos hhour] at heq ⊢
      refine ⟨rfl, 60, rfl, ?_⟩
      show ((⌊minutes / 60⌋ : Int) : ℚ) * 60 = minutes
      rw [heq, floor_mul_div (by decide)]
    · rw [if_neg hhour] at heq ⊢
      refine ⟨rfl, 1440, rfl, ?_⟩
      show ((⌊minutes / 1440⌋ : Int) : ℚ) * 1440 = minutes
      rw [heq, floor_mul_div (by decide)]

/-- A cap of one impression keeps impressions its length apart. -/
theorem FrequencyCap.suppresses
    {cap : FrequencyCap} {unit : ℚ} {times : List ℚ}
    (hone : cap.maxImpressions = 1)
    (hunit : unitMinutes cap.timeUnit = some unit)
    (h : cap.Allows times) :
    Suppressed (cap.numTimeUnits * unit) times := by
  rw [Suppressed, List.pairwise_iff_forall_sublist]
  intro t u hsub
  by_contra hclose
  rw [not_or, not_le, not_le] at hclose
  obtain ⟨htu, hut⟩ := hclose
  have hwindow := h unit hunit (min t u)
  have hfirst : min t u ≤ t ∧ t < min t u + cap.numTimeUnits * unit := by
    refine ⟨min_le_left t u, ?_⟩
    rcases min_choice t u with hmin | hmin <;> rw [hmin] <;> linarith
  have hsecond : min t u ≤ u ∧ u < min t u + cap.numTimeUnits * unit := by
    refine ⟨min_le_right t u, ?_⟩
    rcases min_choice t u with hmin | hmin <;> rw [hmin] <;> linarith
  have hpair := (hsub.filter fun x =>
    decide (min t u ≤ x ∧ x < min t u + cap.numTimeUnits * unit)).length_le
  rw [List.filter_eq_self.mpr (by
    intro x hx
    rcases List.mem_cons.mp hx with rfl | hx
    · exact decide_eq_true hfirst
    · rw [List.mem_singleton.mp hx]
      exact decide_eq_true hsecond)] at hpair
  rw [hone] at hwindow
  have htwo : ([t, u] : List ℚ).length = 2 := rfl
  omega

/-- An overlay is translated or refused: the translation, and the line item built from it, reach
exactly whom the overlay asks for as far as its codes are mapped, and the cap of the buyer keeps
impressions as far apart as it asks. -/
theorem build_targeting_exact
    (hplain : manager.PlainKeyIds)
    {config : Option TargetingConfig}
    (hconfig : overlay.KeyValuesWrittenAs config)
    (hapart : overlay.SegmentsApart manager config)
    (hread : overlay.unread = [])
    (h : manager.buildTargeting overlay = .ok targeting) :
    ¬ overlay.untranslated
      ∧ (∀ visitor, targeting.Reaches visitor ↔ overlay.Asks manager config visitor)
      ∧ ∀ product item, product.customTargetingKeys = [] →
        manager.lineItem product targeting overlay.frequencyCap = .ok item →
        (∀ visitor, item.Reaches visitor
          ↔ overlay.Asks manager config visitor ∧ visitor.environment = item.environmentType)
        ∧ (∀ cap ∈ product.frequencyCaps, cap ∈ item.frequencyCaps)
        ∧ ∀ minutes, overlay.frequencyCap = some ⟨some minutes⟩ → WholeUnits minutes →
          ∀ times, (∀ cap ∈ item.frequencyCaps, cap.Allows times) → Suppressed minutes times := by
  have htranslated := buildTargeting_eq_ok h
  refine ⟨htranslated.not_untranslated, ?_, ?_⟩
  · intro visitor
    exact htranslated.reaches_iff hplain hconfig hapart hread
  · intro product item hkeys hitem
    obtain ⟨-, -, -, caps, hbuyer, hcaps⟩ := lineItem_eq_ok hitem
    refine ⟨?_, ?_, ?_⟩
    · intro visitor
      rw [lineItem_reaches_iff hkeys hitem, htranslated.reaches_iff hplain hconfig hapart hread]
    · intro cap hcap
      rw [hcaps]
      exact List.mem_append_left _ hcap
    · intro minutes hminutes hwhole times hallowed
      obtain ⟨hone, unit, hunit, hlength⟩ := buyerCap_minutes hwhole
      have hcap : buyerCap minutes ∈ item.frequencyCaps := by
        rw [hminutes] at hbuyer
        cases hbuyer
        rw [hcaps]
        exact List.mem_append_right _ List.mem_cons_self
      rw [← hlength]
      exact FrequencyCap.suppresses hone hunit (hallowed _ hcap)

/-- A manager that maps one country, and has a key for segments. -/
def sampleManager : TargetingManager where
  values :=
    { sampleEnv with
      getOrCreateValue := fun _ value =>
        match value with
        | .str "sports" => some 901
        | _ => some 900 }
  geoCountryMap := [("US", "2840")]
  geoRegionMap := []
  geoMetroMap := []
  axeIncludeKey := some "axe"
  axeExcludeKey := none
  customTargetingKeyIds := [("axe", "111")]

/-- A country that has no id. -/
def unmappedOverlay : Overlay where
  geoCountries := ["ZZ"]

/-- A code without an id is skipped, also where it was the only one: the translation reaches every
location. -/
theorem build_targeting_widens :
    sampleManager.buildTargeting unmappedOverlay = .ok ⟨⟨some [], none⟩, none, none⟩
      ∧ ∀ inside, GeoTargeting.Reaches ⟨some [], none⟩ inside := by
  refine ⟨rfl, ?_⟩
  intro inside
  exact ⟨fun hne => absurd rfl hne, fun id hid => absurd hid List.not_mem_nil⟩

/-- A dimension that no line reads. -/
example :
    sampleManager.buildTargeting { osNoneOf := ["Android"] }
      = .ok ⟨⟨none, none⟩, none, none⟩ := rfl

/-- A segment overwrites the key value under its own key. -/
example :
    sampleManager.buildTargeting
        { custom := [("gam", .obj [("key_values", .obj [("111", .str "sports")])])]
          axeIncludeSegment := some "x8dj3k" }
      = .ok ⟨⟨none, none⟩, some (.tree (.node (.str "AND") [.leaf ⟨111, false, [900]⟩])), none⟩ :=
  rfl

/-- A country, a segment beside a key value and a cap of two hours. -/
def sampleOverlay : Overlay where
  geoCountries := ["US"]
  custom := [("gam", .obj [("key_values", .obj [("222", .str "sports")])])]
  axeIncludeSegment := some "x8dj3k"
  frequencyCap := some ⟨some 120⟩

theorem build_targeting_exact_sample :
    ¬ sampleOverlay.untranslated
      ∧ ∀ times, (∀ cap ∈ [FrequencyCap.mk 1 2 "HOUR"], cap.Allows times) →
        Suppressed 120 times := by
  have hplain : sampleManager.PlainKeyIds := by
    rw [TargetingManager.PlainKeyIds]
    decide
  have hwritten : sampleOverlay.KeyValuesWrittenAs (some (.legacy [("222", "sports")] .all)) :=
    ⟨_, rfl, ⟨rfl, by decide⟩, rfl⟩
  have hapart : sampleOverlay.SegmentsApart sampleManager
      (some (.legacy [("222", "sports")] .all)) := .inr ⟨_, rfl, by decide⟩
  obtain ⟨hrefused, -, hitem⟩ := @build_targeting_exact sampleManager sampleOverlay
    ⟨⟨some ["2840"], none⟩, some (.tree (.node (.str "AND")
      [.leaf ⟨222, false, [901]⟩, .leaf ⟨111, false, [900]⟩])), none⟩
    hplain _ hwritten hapart rfl rfl
  have hwhole : WholeUnits 120 := ⟨2, by decide, by decide +kernel⟩
  have hcaps : ([] ++ [buyerCap 120]) = [⟨1, 2, "HOUR"⟩] := by
    decide +kernel
  refine ⟨hrefused, ?_⟩
  obtain ⟨-, -, hsuppressed⟩ := hitem { targetedAdUnitIds := [.str "5"] } _ rfl rfl
  intro times hallowed
  refine hsuppressed 120 rfl hwhole times ?_
  intro cap hcap
  exact hallowed cap (hcaps ▸ hcap)

end Exactness

end Gam
end SalesAgent
