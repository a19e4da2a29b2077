import SalesAgent.MediaBuy.Financial
import SalesAgent.MediaBuy.ReadStatus
import SalesAgent.Webhooks.Registration

/-!
# Listing of media buys

`get_media_buys` reads every row of the caller, resolves its status and its revision, and renders
what its untyped columns hold.  A required field that cannot be published refuses the request
where the caller named rows and omits the row elsewhere; an optional one is left out with an
advisory.

**Results.**
* `fetchTargets_eq`, `getMediaBuys_follows`: what the rows are split into, and when they are
  rendered.
* `listing_tolerance_iff`: one row that cannot be rendered never hides the others, exactly where
  the columns hold nothing that a reader outside the rule trips over.
-/

namespace SalesAgent
namespace BuyListing

open Idempotency (Json)
open MediaBuys
open Webhooks (truthy)

section Rows

/-- A row of a media buy as the listing reads it. -/
structure BuyRow where
  stored : StoredBuy
  principalId : String
  accountId : Option String
  revision : Option Int
  rawRequest : Json
  currency : Option String
  budget : Option Decimal
  createdAt : Option DateTime
  updatedAt : Option DateTime
  confirmedAt : Option DateTime

/-- A row of a package. -/
structure PackageRow where
  mediaBuyId : String
  packageId : String
  packageConfig : Json
  budget : Option Decimal
  bidPrice : Option Decimal

/-- The rows of a tenant, in the order of the database. -/
structure Store where
  buys : List BuyRow
  packages : List PackageRow

/-- Who lists; an account where the request named one. -/
structure Caller where
  principalId : String
  accountId : Option String

/-- A `GetMediaBuysRequest`. -/
structure Request where
  mediaBuyIds : Option (List String)
  statusFilter : Option (List String)
  includeSnapshot : Bool

/-- What the listing uses of the day, the pinned schema, the SDK and the adapter. -/
structure Env where
  today : Int
  /-- `revision_minimum` -/
  revisionMinimum : Int
  /-- whether a value is of the annotation of a field of a package -/
  accepts : String → Json → Bool
  /-- whether the model of a package takes a value for a field -/
  constructs : String → Json → Bool
  /-- `Targeting(**fields)`; `none` is a validation error -/
  targeting : List (String × Json) → Option Json
  /-- the creative approvals of a package of a buy -/
  approvals : String → String → List Json
  /-- `adapter.capabilities.supports_realtime_reporting` -/
  supportsRealtimeReporting : Bool
  /-- `adapter.get_packages_snapshot`, of a package of a buy and its line item -/
  snapshot : String → String → Json → Option Json
  /-- `valid_actions_for_status` -/
  validActions : CanonicalStatus → List String

end Rows

section Answers

/-- `SnapshotUnavailableReason` -/
inductive SnapshotUnavailableReason
  | snapshotUnsupported
  | snapshotTemporarilyUnavailable
  deriving DecidableEq, Repr

/-- A `GetMediaBuysPackage`; `null` is an absent value. -/
structure PackageView where
  packageId : String
  budget : Option Decimal
  bidPrice : Option Decimal
  fields : List (String × Json)
  targetingOverlay : Option Json
  creativeApprovals : List Json
  snapshot : Option Json
  snapshotUnavailableReason : Option SnapshotUnavailableReason

/-- A `GetMediaBuysMediaBuy`. -/
structure BuyView where
  mediaBuyId : String
  buyerCampaignRef : Json
  status : CanonicalStatus
  validActions : List String
  currency : String
  totalBudget : Decimal
  packages : List PackageView
  createdAt : Option DateTime
  updatedAt : Option DateTime
  confirmedAt : Option DateTime
  revision : Int

/-- An advisory of the code `CONFIGURATION_ERROR`. -/
structure Advisory where
  field : String
  reasons : List String := []
  mediaBuyId : Option String := none
  packageId : Option String := none
  deriving DecidableEq, Repr

/-- A `GetMediaBuysResponse`. -/
structure Response where
  mediaBuys : List BuyView
  errors : List Advisory
  message : String

/-- What ends a listing. -/
inductive ListingError
  /-- `AdCPPersistedStateError` -/
  | persisted (refusal : PersistedStateError)
  /-- `AdCPValidationError` of the status filter -/
  | statusFilter
  /-- `TypeError` of a JSON column that holds no dictionary and no list -/
  | unreadableColumn
  /-- `AttributeError` of a value that has no `get` -/
  | noGet
  /-- `ValidationError` of a model -/
  | validation
  deriving DecidableEq, Repr

end Answers

section Fetching

/-- `_buyer_named_rows` -/
def buyerNamedRows
    (req : Request) : Bool :=
  ! (req.mediaBuyIds.getD []).isEmpty

/-- `MediaBuyStatus`, by its value. -/
def mediaBuyStatus : String → Option CanonicalStatus
  | "pending_creatives" => some .pendingCreatives
  | "pending_start" => some .pendingStart
  | "active" => some .active
  | "paused" => some .paused
  | "completed" => some .completed
  | "rejected" => some .rejected
  | "canceled" => some .canceled
  | _ => none

/-- `_resolve_status_filter` -/
def resolveStatusFilter
    (statusFilter : Option (List String))
    (skipDefault : Bool) : Except ListingError (Option (List CanonicalStatus)) :=
  match statusFilter with
  | none => .ok (if skipDefault then none else some [.active])
  | some raw =>
      match raw.mapM mediaBuyStatus with
      | some statuses => .ok (some statuses)
      | none => .error .statusFilter

/-- `_compute_status` -/
def computeStatus
    (row : BuyRow)
    (today : Int) : Except PersistedStateError CanonicalStatus :=
  match row.stored.resolveCanonicalStatus today with
  | .error refusal => .error refusal
  | .ok .failed => .ok .rejected
  | .ok status => .ok status

/-- `repr` of a revision -/
def reprRevision : Option Int → String
  | none => "None"
  | some revision => toString revision

/-- `_persisted_revision` -/
def persistedRevision
    (minimum : Int)
    (row : BuyRow) : Except PersistedStateError Int :=
  match row.revision with
  | some revision =>
      if revision < minimum then .error (refusal (some revision)) else .ok revision
  | none => .error (refusal none)
where
  refusal (revision : Option Int) : PersistedStateError :=
    { mediaBuyId := some row.stored.mediaBuyId
      rejectedValue := reprRevision revision
      acceptedValues := []
      field := "revision" }

/-- A row to render, with its status and its revision. -/
structure Target where
  row : BuyRow
  status : CanonicalStatus
  revision : Int

/-- One row: refused, left out by the filter, or to render. -/
def fetchTarget
    (env : Env)
    (filter : Option (List CanonicalStatus))
    (row : BuyRow) : Except PersistedStateError (Option Target) :=
  match computeStatus row env.today with
  | .error refusal => .error refusal
  | .ok status =>
      if (filter.map fun statuses => decide (status ∈ statuses)).getD true then
        match persistedRevision env.revisionMinimum row with
        | .error refusal => .error refusal
        | .ok revision => .ok (some ⟨row, status, revision⟩)
      else .ok none

/-- `_omitted_row_advisory` -/
def omittedRowAdvisory
    (mediaBuyId : String) : Advisory where
  field := "media_buys[]"
  reasons := ["MEDIA_BUY_UNRENDERABLE"]
  mediaBuyId := some mediaBuyId

/-- The rows of the fetch, and the advisories of those left out. -/
def fetchTargets
    (env : Env)
    (filter : Option (List CanonicalStatus))
    (named : Bool) : List BuyRow → Except ListingError (List Target × List Advisory)
  | [] => .ok ([], [])
  | row :: rest =>
      match fetchTarget env filter row with
      | .error refusal =>
          if named then .error (.persisted refusal)
          else do
            let (targets, advisories) ← fetchTargets env filter named rest
            return (targets, omittedRowAdvisory row.stored.mediaBuyId :: advisories)
      | .ok none => fetchTargets env filter named rest
      | .ok (some target) => do
          let (targets, advisories) ← fetchTargets env filter named rest
          return (target :: targets, advisories)

/-- What a JSON column gives: the type of the column refuses scalars. -/
def loads : Json → Bool
  | .null => true
  | .arr _ => true
  | .obj _ => true
  | _ => false

/-- The rows of the caller, on the account where the request named one. -/
def Store.owned
    (store : Store)
    (caller : Caller) : List BuyRow :=
  store.buys.filter fun row =>
    decide (row.principalId = caller.principalId)
      && (caller.accountId.map fun account => decide (row.accountId = some account)).getD true

/-- `get_by_principal` -/
def Store.selected
    (store : Store)
    (caller : Caller)
    (req : Request) : List BuyRow :=
  (store.owned caller).filter fun row =>
    (req.mediaBuyIds.map fun ids => decide (row.stored.mediaBuyId ∈ ids)).getD true

/-- The packages of a buy. -/
def Store.packagesOf
    (store : Store)
    (mediaBuyId : String) : List PackageRow :=
  store.packages.filter fun pkg => decide (pkg.mediaBuyId = mediaBuyId)

end Fetching

section Rendering

variable (env : Env)

/-- `(value or {}).get`: an empty value has no entries, a list has no `get`. -/
def entriesOf
    (value : Json) : Except ListingError (List (String × Json)) :=
  if truthy value then
    match value with
    | .obj fields => .ok fields
    | _ => .error .noGet
  else .ok []

/-- `dict.get` -/
def get
    (fields : List (String × Json))
    (key : String) : Json :=
  (fields.lookup key).getD .null

/-- `_resolve_blob_field`: the value where the field accepts it, and whether it was dropped. -/
def resolveBlobField
    (accepts : Json → Bool)
    (value : Json) : Json × Bool :=
  match value with
  | .null => (.null, false)
  | value => if accepts value then (value, false) else (.null, true)

/-- The advisory of a field that was dropped. -/
def droppedAdvisory
    (field : String)
    (dropped : Bool) : List Advisory :=
  if dropped then [{ field }] else []

/-- The advisory of a targeting overlay that is no dictionary. -/
def targetingAdvisory
    (mediaBuyId packageId : String) : Advisory where
  field := "media_buys[].packages[" ++ packageId ++ "].targeting_overlay"
  reasons := ["targeting_rehydration_failed"]
  mediaBuyId := some mediaBuyId
  packageId := some packageId

/-- The stored overlay, under its own key or the legacy one. -/
def targetingRaw
    (config : List (String × Json)) : Json :=
  if truthy (get config "targeting_overlay") then get config "targeting_overlay"
  else get config "targeting"

/-- The overlay of a package, and whether it was dropped. -/
def rehydrateTargeting
    (config : List (String × Json)) : Except ListingError (Option Json × Bool) :=
  if truthy (targetingRaw config) then
    match targetingRaw config with
    | .obj fields =>
        match env.targeting fields with
        | some targeting => .ok (some targeting, false)
        | none => .error .validation
    | _ => .ok (none, true)
  else .ok (none, false)

/-- The fields of a package that are read from its configuration. -/
def blobKeys : List String :=
  ["product_id", "start_time", "end_time", "paused"]

/-- A field of a package. -/
def blobField
    (config : List (String × Json))
    (key : String) : Json × Bool :=
  resolveBlobField (env.accepts key) (get config key)

/-- The advisories of the fields of a package. -/
def blobAdvisories
    (packageId : String)
    (config : List (String × Json)) : List Advisory :=
  blobKeys.flatMap fun key =>
    droppedAdvisory ("media_buys[].packages[" ++ packageId ++ "]." ++ key)
      (blobField env config key).2

/-- The snapshot of a package. -/
def snapshotOf
    (req : Request)
    (pkg : PackageRow)
    (config : List (String × Json)) : Option Json :=
  if req.includeSnapshot && env.supportsRealtimeReporting then
    env.snapshot pkg.mediaBuyId pkg.packageId (get config "platform_line_item_id")
  else none

/-- Why a package has no snapshot. -/
def unavailableReason
    (req : Request)
    (snapshot : Option Json) : Option SnapshotUnavailableReason :=
  if req.includeSnapshot && snapshot.isNone then
    some (if env.supportsRealtimeReporting then .snapshotTemporarilyUnavailable
      else .snapshotUnsupported)
  else none

/-- A package as the response shows it. -/
def packageView
    (req : Request)
    (pkg : PackageRow)
    (config : List (String × Json))
    (targeting : Option Json) : PackageView where
  packageId := pkg.packageId
  budget := pkg.budget
  bidPrice := pkg.bidPrice
  fields := blobKeys.map fun key => (key, (blobField env config key).1)
  targetingOverlay := targeting
  creativeApprovals := env.approvals pkg.mediaBuyId pkg.packageId
  snapshot := snapshotOf env req pkg config
  snapshotUnavailableReason := unavailableReason env req (snapshotOf env req pkg config)

/-- Whether the model of a package takes the values of its fields. -/
def constructsPackage
    (config : List (String × Json)) : Bool :=
  blobKeys.all fun key =>
    match (blobField env config key).1 with
    | .null => true
    | value => env.constructs key value

/-- One package, and its advisories. -/
def renderPackage
    (req : Request)
    (pkg : PackageRow) : Except ListingError (PackageView × List Advisory) := do
  let config ← entriesOf pkg.packageConfig
  let (targeting, dropped) ← rehydrateTargeting env config
  if constructsPackage env config then
    return (packageView env req pkg config targeting,
      (if dropped then [targetingAdvisory pkg.mediaBuyId pkg.packageId] else [])
        ++ blobAdvisories env pkg.packageId config)
  else .error .validation

/-- `str | None` accepts a text. -/
def acceptsText : Json → Bool
  | .str _ => true
  | _ => false

/-- The campaign reference of a buyer, from the request that was stored. -/
def campaignRef
    (rawRequest : List (String × Json)) : Json × Bool :=
  resolveBlobField acceptsText (get rawRequest "buyer_campaign_ref")

/-- A buy as the response shows it. -/
def buyView
    (target : Target)
    (rawRequest : List (String × Json))
    (packages : List PackageView) : BuyView where
  mediaBuyId := target.row.stored.mediaBuyId
  buyerCampaignRef := (campaignRef rawRequest).1
  status := target.status
  validActions := env.validActions target.status
  currency := match target.row.currency with
    | some currency => if currency = "" then "USD" else currency
    | none => "USD"
  totalBudget := target.row.budget.getD 0
  packages := packages
  createdAt := target.row.createdAt
  updatedAt := target.row.updatedAt
  confirmedAt := target.row.confirmedAt
  revision := target.revision

/-- One buy, and its advisories. -/
def renderBuy
    (req : Request)
    (store : Store)
    (target : Target) : Except ListingError (BuyView × List Advisory) := do
  let packages ← (store.packagesOf target.row.stored.mediaBuyId).mapM (renderPackage env req)
  let rawRequest ← entriesOf target.row.rawRequest
  return (buyView env target rawRequest (packages.map (·.1)),
    (packages.map (·.2)).flatten
      ++ droppedAdvisory ("media_buys[" ++ target.row.stored.mediaBuyId ++ "].buyer_campaign_ref")
        (campaignRef rawRequest).2)

/-- The configurations that are read for the snapshots. -/
def snapshotConfigs
    (req : Request)
    (packages : List PackageRow) : Except ListingError (List (List (String × Json))) :=
  if req.includeSnapshot && env.supportsRealtimeReporting then
    packages.mapM fun pkg => entriesOf pkg.packageConfig
  else .ok []

/-- The packages of the rows to render. -/
def Store.targetPackages
    (store : Store)
    (targets : List Target) : List PackageRow :=
  targets.flatMap fun target => store.packagesOf target.row.stored.mediaBuyId

/-- The message of a response. -/
def messageOf
    (count : Nat) : String :=
  if count = 0 then "No media buys found."
  else "Found " ++ toString count ++ " media buy" ++ (if count = 1 then "" else "s") ++ "."

/-- `_get_media_buys_impl` -/
def getMediaBuys
    (caller : Caller)
    (req : Request)
    (store : Store) : Except ListingError Response := do
  let filter ← resolveStatusFilter req.statusFilter (buyerNamedRows req)
  if (store.selected caller req).all fun row => loads row.rawRequest then
    let (targets, omitted) ← fetchTargets env filter (buyerNamedRows req)
      (store.selected caller req)
    if (store.targetPackages targets).all fun pkg => loads pkg.packageConfig then
      let _ ← snapshotConfigs env req (store.targetPackages targets)
      let rendered ← targets.mapM (renderBuy env req store)
      return ⟨rendered.map (·.1), omitted ++ (rendered.map (·.2)).flatten,
        messageOf rendered.length⟩
    else .error .unreadableColumn
  else .error .unreadableColumn

end Rendering

section Rule

variable (env : Env)

/-- Whether a value is stored: neither `null` nor an empty dictionary. -/
def isStored : Json → Bool
  | .null => false
  | .obj [] => false
  | _ => true

/-- The entries of a dictionary; anything else has none. -/
def entries : Json → List (String × Json)
  | .obj fields => fields
  | _ => []

/-- The overlay that a package shows. -/
def shownTargeting
    (config : List (String × Json)) : Option Json :=
  match targetingRaw config with
  | .obj (first :: rest) => env.targeting (first :: rest)
  | _ => none

/-- Whether an overlay is stored and not shown. -/
def droppedTargeting
    (config : List (String × Json)) : Bool :=
  (isStored (get config "targeting_overlay") || isStored (get config "targeting"))
    && (shownTargeting env config).isNone

/-- A package under the rule: what can be rendered is shown. -/
def shownPackage
    (req : Request)
    (pkg : PackageRow) : PackageView :=
  packageView env req pkg (entries pkg.packageConfig)
    (shownTargeting env (entries pkg.packageConfig))

/-- An advisory for each field of a package that is dropped. -/
def packageAdvisories
    (pkg : PackageRow) : List Advisory :=
  (if droppedTargeting env (entries pkg.packageConfig) then
      [targetingAdvisory pkg.mediaBuyId pkg.packageId]
    else [])
    ++ blobAdvisories env pkg.packageId (entries pkg.packageConfig)

/-- A buy under the rule. -/
def shownBuy
    (req : Request)
    (store : Store)
    (target : Target) : BuyView :=
  buyView env target (entries target.row.rawRequest)
    ((store.packagesOf target.row.stored.mediaBuyId).map (shownPackage env req))

/-- An advisory for each field of a buy and its packages that is dropped. -/
def buyAdvisories
    (store : Store)
    (target : Target) : List Advisory :=
  (store.packagesOf target.row.stored.mediaBuyId).flatMap (packageAdvisories env)
    ++ droppedAdvisory ("media_buys[" ++ target.row.stored.mediaBuyId ++ "].buyer_campaign_ref")
      (campaignRef (entries target.row.rawRequest)).2

/-- The rows whose required fields can be published, of those that match the filter. -/
def targetsOf
    (filter : Option (List CanonicalStatus))
    (rows : List BuyRow) : List Target :=
  rows.filterMap fun row =>
    match fetchTarget env filter row with
    | .ok target => target
    | .error _ => none

/-- A row whose required fields cannot be published. -/
def Broken
    (filter : Option (List CanonicalStatus))
    (row : BuyRow) : Prop :=
  ∃ refusal, fetchTarget env filter row = .error refusal

/-- The ids of the rows whose required fields cannot be published. -/
def brokenIds
    (filter : Option (List CanonicalStatus))
    (rows : List BuyRow) : List String :=
  rows.filterMap fun row =>
    match fetchTarget env filter row with
    | .ok _ => none
    | .error _ => some row.stored.mediaBuyId

/-- The store without a buy. -/
def Store.without
    (store : Store)
    (mediaBuyId : String) : Store :=
  { store with buys := store.buys.filter fun row => row.stored.mediaBuyId ≠ mediaBuyId }

variable (caller : Caller) (req : Request) (store : Store)

/-- A listing that names no rows shows every row that can be shown, as it is without any other
row, and has one advisory for each row omitted and each field dropped. -/
def ListsTheRest
    (filter : Option (List CanonicalStatus)) : Prop :=
  ∃ response, getMediaBuys env caller req store = .ok response
    ∧ response.mediaBuys
      = (targetsOf env filter (store.owned caller)).map (shownBuy env req store)
    ∧ response.errors
      = (brokenIds env filter (store.owned caller)).map omittedRowAdvisory
        ++ (targetsOf env filter (store.owned caller)).flatMap (buyAdvisories env store)
    ∧ ∀ mediaBuyId, ∃ response',
      getMediaBuys env caller req (store.without mediaBuyId) = .ok response'
        ∧ response'.mediaBuys
          = response.mediaBuys.filter fun buy => buy.mediaBuyId ≠ mediaBuyId

/-- A request that names a broken row fails with the error of a broken row that it names. -/
def RefusesNamed
    (filter : Option (List CanonicalStatus)) : Prop :=
  (∃ row ∈ store.selected caller req, Broken env filter row) →
    ∃ row ∈ store.selected caller req, ∃ refusal,
      fetchTarget env filter row = .error refusal
        ∧ refusal.mediaBuyId = some row.stored.mediaBuyId
        ∧ getMediaBuys env caller req store = .error (.persisted refusal)

/-- One row that cannot be rendered never hides the others. -/
def ToleratesRows : Prop :=
  ∀ filter, resolveStatusFilter req.statusFilter (buyerNamedRows req) = .ok filter →
    if buyerNamedRows req then RefusesNamed env caller req store filter
    else ListsTheRest env caller req store filter

/-- A column that gives a dictionary or nothing. -/
def Readable
    (value : Json) : Prop :=
  loads value = true ∧ (truthy value = true → ∃ fields, value = .obj fields)

/-- An overlay that is shown, dropped with an advisory, or not stored: one that is a dictionary is
valid, and an empty value is `null` or an empty dictionary. -/
def TargetingSound
    (config : List (String × Json)) : Prop :=
  if truthy (targetingRaw config) then
    ∀ fields, targetingRaw config = .obj fields → (env.targeting fields).isSome
  else isStored (get config "targeting_overlay") = false ∧ isStored (get config "targeting") = false

/-- A package whose configuration is read without a fault outside the rule. -/
def PackageSound
    (pkg : PackageRow) : Prop :=
  Readable pkg.packageConfig
    ∧ TargetingSound env (entries pkg.packageConfig)
    ∧ constructsPackage env (entries pkg.packageConfig) = true

/-- A buy whose columns are read without a fault outside the rule. -/
def BuySound
    (target : Target) : Prop :=
  Readable target.row.rawRequest
    ∧ ∀ pkg ∈ store.packagesOf target.row.stored.mediaBuyId, PackageSound env pkg

/-- What the rows hold where the rule is kept. -/
def RowsSound : Prop :=
  ∀ filter, resolveStatusFilter req.statusFilter (buyerNamedRows req) = .ok filter →
    if buyerNamedRows req then
      (∃ row ∈ store.selected caller req, Broken env filter row) →
        ∀ row ∈ store.selected caller req, loads row.rawRequest = true
    else
      (req.mediaBuyIds = none ∨ targetsOf env filter (store.owned caller) = []
          ∧ brokenIds env filter (store.owned caller) = [])
        ∧ (∀ row ∈ store.selected caller req, loads row.rawRequest = true)
        ∧ ∀ target ∈ targetsOf env filter (store.selected caller req), BuySound env store target

end Rule

section Following

variable {α β γ ε : Type}

/-- A result that follows a rule: it is what the rule says where the input is sound, and one with as
many advisories as the rule has says that it is. -/
def Follows
    (result : Except ε (β × List γ))
    (view : β)
    (advisories : List γ)
    (sound : Prop) : Prop :=
  (sound → result = .ok (view, advisories))
    ∧ ∀ r, result = .ok r → r.1 = view ∧ r.2.length ≤ advisories.length
      ∧ (r.2.length = advisories.length → sound)

/-- The results of a list, together. -/
def gathered
    (result : Except ε (List (β × List γ))) : Except ε (List β × List γ) :=
  result.map fun rs => (rs.map (·.1), (rs.map (·.2)).flatten)

theorem gathered_eq_ok
    {result : Except ε (List (β × List γ))} {r : List β × List γ}
    (h : gathered result = .ok r) :
    ∃ rs, result = .ok rs ∧ r = (rs.map (·.1), (rs.map (·.2)).flatten) := by
  cases result with
  | error e => cases h
  | ok rs =>
      cases h
      exact ⟨rs, rfl, rfl⟩

/-- A list follows the rule where each of its items does. -/
theorem follows_mapM
    {f : α → Except ε (β × List γ)}
    {view : α → β} {advisories : α → List γ} {sound : α → Prop}
    {xs : List α}
    (h : ∀ x ∈ xs, Follows (f x) (view x) (advisories x) (sound x)) :
    Follows (gathered (xs.mapM f)) (xs.map view) (xs.flatMap advisories) (∀ x ∈ xs, sound x) := by
  induction xs with
  | nil =>
      refine ⟨fun _ => rfl, ?_⟩
      intro r hr
      cases hr
      exact ⟨rfl, Nat.le_refl 0, fun _ x hx => absurd hx List.not_mem_nil⟩
  | cons x xs ih =>
      obtain ⟨hx, hxs⟩ := List.forall_mem_cons.mp h
      obtain ⟨hfirst, hfirstOnly⟩ := hx
      obtain ⟨hrest, hrestOnly⟩ := ih hxs
      constructor
      · intro hsound
        obtain ⟨hsoundFirst, hsoundRest⟩ := List.forall_mem_cons.mp hsound
        obtain ⟨rs, hrs, heq⟩ := gathered_eq_ok (hrest hsoundRest)
        have hall : (x :: xs).mapM f = .ok ((view x, advisories x) :: rs) :=
          Runs.mapM_cons_eq_ok.mpr ⟨_, rs, hfirst hsoundFirst, hrs, rfl⟩
        obtain ⟨hviews, hadvisories⟩ := Prod.mk.inj heq
        rw [hall, List.map_cons, List.flatMap_cons, hviews, hadvisories]
        rfl
      · intro r hr
        obtain ⟨all, hall, rfl⟩ := gathered_eq_ok hr
        obtain ⟨first, rs, hf, hrs, rfl⟩ := Runs.mapM_cons_eq_ok.mp hall
        obtain ⟨hview, hle, hsoundFirst⟩ := hfirstOnly first hf
        obtain ⟨hviews, hles, hsoundRest⟩ := hrestOnly (rs.map (·.1), (rs.map (·.2)).flatten) (by
          rw [gathered, hrs]
          rfl)
        dsimp only at hviews hles hsoundRest ⊢
        rw [List.map_cons, List.map_cons, List.map_cons, List.flatten_cons, List.flatMap_cons,
          List.length_append, List.length_append, hview, hviews]
        refine ⟨rfl, Nat.add_le_add hle hles, ?_⟩
        intro heq
        exact List.forall_mem_cons.mpr ⟨hsoundFirst (by omega), hsoundRest (by omega)⟩

end Following

section Columns

theorem entriesOf_eq_ok_iff
    {value : Json} {fields : List (String × Json)} :
    entriesOf value = .ok fields
      ↔ (truthy value = true → ∃ fields, value = .obj fields) ∧ fields = entries value := by
  rw [entriesOf.eq_def]
  by_cases htruthy : truthy value = true
  · rw [if_pos htruthy]
    cases value with
    | obj entries =>
        constructor
        · intro h
          cases h
          exact ⟨fun _ => ⟨_, rfl⟩, rfl⟩
        · rintro ⟨-, rfl⟩
          rfl
    | _ =>
        refine iff_of_false ?_ ?_
        · intro h
          cases h
        · rintro ⟨h, -⟩
          obtain ⟨fields, hfields⟩ := h htruthy
          cases hfields
  · rw [if_neg htruthy]
    have hempty : entries value = [] := by
      cases value with
      | obj entries =>
          cases entries with
          | nil => rfl
          | cons first rest => exact absurd rfl htruthy
      | _ => rfl
    rw [hempty]
    constructor
    · intro h
      cases h
      exact ⟨fun h => absurd h htruthy, rfl⟩
    · rintro ⟨-, rfl⟩
      rfl

variable {env : Env} {config : List (String × Json)}

theorem isStored_of_truthy
    {value : Json}
    (h : truthy value = true) :
    isStored value = true := by
  cases value with
  | null => cases h
  | obj fields =>
      cases fields with
      | nil => cases h
      | cons first rest => rfl
  | _ => rfl

theorem stored_of_raw
    (h : truthy (targetingRaw config) = true) :
    (isStored (get config "targeting_overlay") || isStored (get config "targeting")) = true := by
  rw [targetingRaw] at h
  by_cases hown : truthy (get config "targeting_overlay") = true
  · rw [isStored_of_truthy hown, Bool.true_or]
  · rw [if_neg hown] at h
    rw [isStored_of_truthy h, Bool.or_true]

theorem rehydrateTargeting_cases
    (env : Env)
    (config : List (String × Json)) :
    (truthy (targetingRaw config) = false
        ∧ rehydrateTargeting env config = .ok (none, false)
        ∧ shownTargeting env config = none)
      ∨ (∃ fields, truthy (targetingRaw config) = true ∧ targetingRaw config = .obj fields
        ∧ shownTargeting env config = env.targeting fields
        ∧ rehydrateTargeting env config = match env.targeting fields with
          | some targeting => .ok (some targeting, false)
          | none => .error .validation)
      ∨ (truthy (targetingRaw config) = true ∧ (∀ fields, targetingRaw config ≠ .obj fields)
        ∧ rehydrateTargeting env config = .ok (none, true)
        ∧ shownTargeting env config = none) := by
  rw [rehydrateTargeting.eq_def, shownTargeting.eq_def]
  generalize targetingRaw config = raw
  by_cases htruthy : truthy raw = true
  · rw [if_pos htruthy]
    cases raw with
    | obj fields =>
        refine .inr (.inl ⟨fields, htruthy, rfl, ?_, rfl⟩)
        cases fields with
        | nil => cases htruthy
        | cons first rest => rfl
    | _ =>
        refine .inr (.inr ⟨htruthy, ?_, rfl, rfl⟩)
        intro fields heq
        cases heq
  · rw [if_neg htruthy]
    refine .inl ⟨Bool.not_eq_true _ ▸ htruthy, rfl, ?_⟩
    cases raw with
    | obj fields =>
        cases fields with
        | nil => rfl
        | cons first rest => exact absurd rfl htruthy
    | _ => rfl

theorem rehydrateTargeting_of_sound
    (h : TargetingSound env config) :
    rehydrateTargeting env config
      = .ok (shownTargeting env config, droppedTargeting env config) := by
  rw [TargetingSound] at h
  rcases rehydrateTargeting_cases env config with ⟨hempty, hresult, hshown⟩
    | ⟨fields, htruthy, hraw, hshown, hresult⟩ | ⟨htruthy, -, hresult, hshown⟩
  · rw [hempty, if_neg Bool.false_ne_true] at h
    rw [hresult, droppedTargeting, h.1, h.2, hshown]
    rfl
  · rw [if_pos htruthy] at h
    obtain ⟨targeting, htargeting⟩ := Option.isSome_iff_exists.mp (h fields hraw)
    rw [hresult, droppedTargeting, hshown, htargeting, Option.isNone_some, Bool.and_false]
  · rw [hresult, droppedTargeting, stored_of_raw htruthy, hshown]
    rfl

theorem sound_of_rehydrateTargeting
    {targeting : Option Json} {dropped : Bool}
    (h : rehydrateTargeting env config = .ok (targeting, dropped)) :
    targeting = shownTargeting env config
      ∧ (dropped = true → droppedTargeting env config = true)
      ∧ (droppedTargeting env config = dropped → TargetingSound env config) := by
  rw [TargetingSound]
  rcases rehydrateTargeting_cases env config with ⟨hempty, hresult, hshown⟩
    | ⟨fields, htruthy, hraw, hshown, hresult⟩ | ⟨htruthy, hraw, hresult, hshown⟩
  · rw [hresult] at h
    cases h
    refine ⟨hshown.symm, fun h => absurd h Bool.false_ne_true, ?_⟩
    intro hdropped
    rw [hempty, if_neg Bool.false_ne_true]
    rw [droppedTargeting, hshown, Option.isNone_none, Bool.and_true, Bool.or_eq_false_iff]
      at hdropped
    exact hdropped
  · rw [hresult] at h
    cases htargeting : env.targeting fields with
    | none =>
        rw [htargeting] at h
        cases h
    | some found =>
        rw [htargeting] at h
        cases h
        refine ⟨by rw [hshown, htargeting], fun h => absurd h Bool.false_ne_true, ?_⟩
        intro _
        rw [if_pos htruthy]
        intro fields' hraw'
        rw [hraw] at hraw'
        cases hraw'
        exact Option.isSome_iff_exists.mpr ⟨found, htargeting⟩
  · rw [hresult] at h
    cases h
    refine ⟨hshown.symm, fun _ => ?_, fun _ => ?_⟩
    · rw [droppedTargeting, stored_of_raw htruthy, hshown]
      rfl
    · rw [if_pos htruthy]
      exact fun fields hfields => absurd hfields (hraw fields)

end Columns

section Rendered

variable {env : Env} {req : Request} {store : Store}

/-- A package that is loaded follows the rule. -/
theorem renderPackage_follows
    {pkg : PackageRow}
    (hloads : loads pkg.packageConfig = true) :
    Follows (renderPackage env req pkg) (shownPackage env req pkg) (packageAdvisories env pkg)
      (PackageSound env pkg) := by
  constructor
  · rintro ⟨⟨-, hreadable⟩, htargeting, hconstructs⟩
    have hconfig := entriesOf_eq_ok_iff.mpr ⟨hreadable, @rfl _ (entries pkg.packageConfig)⟩
    rw [renderPackage, hconfig]
    show (rehydrateTargeting env (entries pkg.packageConfig)).bind _ = _
    rw [rehydrateTargeting_of_sound htargeting]
    exact if_pos hconstructs
  · intro r hr
    rw [renderPackage] at hr
    cases hconfig : entriesOf pkg.packageConfig with
    | error e =>
        rw [hconfig] at hr
        cases hr
    | ok config =>
        obtain ⟨hreadable, rfl⟩ := entriesOf_eq_ok_iff.mp hconfig
        rw [hconfig] at hr
        change (rehydrateTargeting env (entries pkg.packageConfig)).bind _ = _ at hr
        cases hread : rehydrateTargeting env (entries pkg.packageConfig) with
        | error e =>
            rw [hread] at hr
            cases hr
        | ok read =>
            obtain ⟨targeting, dropped⟩ := read
            rw [hread] at hr
            obtain ⟨hshown, hreported, hsound⟩ := sound_of_rehydrateTargeting hread
            change (if constructsPackage env (entries pkg.packageConfig) = true then
              (.ok (packageView env req pkg (entries pkg.packageConfig) targeting,
                (if dropped = true then [targetingAdvisory pkg.mediaBuyId pkg.packageId] else [])
                  ++ blobAdvisories env pkg.packageId (entries pkg.packageConfig)))
              else Except.error ListingError.validation) = .ok r at hr
            by_cases hconstructs : constructsPackage env (entries pkg.packageConfig) = true
            · rw [if_pos hconstructs] at hr
              cases hr
              rw [hshown, packageAdvisories, List.length_append, List.length_append]
              refine ⟨rfl, ?_, ?_⟩
              · refine Nat.add_le_add_right ?_ _
                cases dropped with
                | false => exact Nat.zero_le _
                | true => rw [hreported rfl]
              · intro hlength
                refine ⟨⟨hloads, hreadable⟩, hsound ?_, hconstructs⟩
                have hsame := Nat.add_right_cancel hlength
                revert hsame
                cases droppedTargeting env (entries pkg.packageConfig) with
                | false =>
                    cases dropped with
                    | false => exact fun _ => rfl
                    | true => exact fun h => absurd h Nat.one_ne_zero
                | true =>
                    cases dropped with
                    | false => exact fun h => absurd h.symm Nat.one_ne_zero
                    | true => exact fun _ => rfl
            · rw [if_neg hconstructs] at hr
              cases hr

/-- A buy whose columns are loaded follows the rule. -/
theorem renderBuy_follows
    {target : Target}
    (hloads : loads target.row.rawRequest = true)
    (hpackages : ∀ pkg ∈ store.packagesOf target.row.stored.mediaBuyId,
      loads pkg.packageConfig = true) :
    Follows (renderBuy env req store target) (shownBuy env req store target)
      (buyAdvisories env store target) (BuySound env store target) := by
  obtain ⟨hall, honly⟩ := follows_mapM fun pkg hpkg =>
    @renderPackage_follows env req pkg (hpackages pkg hpkg)
  constructor
  · rintro ⟨⟨-, hreadable⟩, hsound⟩
    have hraw := entriesOf_eq_ok_iff.mpr ⟨hreadable, @rfl _ (entries target.row.rawRequest)⟩
    obtain ⟨rs, hrs, heq⟩ := gathered_eq_ok (hall hsound)
    obtain ⟨hviews, hadvisories⟩ := Prod.mk.inj heq
    rw [renderBuy, hrs]
    change (entriesOf target.row.rawRequest).bind _ = _
    rw [hraw, shownBuy, buyAdvisories, hviews, hadvisories]
    rfl
  · intro r hr
    rw [renderBuy] at hr
    cases hrs : (store.packagesOf target.row.stored.mediaBuyId).mapM (renderPackage env req) with
    | error e =>
        rw [hrs] at hr
        cases hr
    | ok rs =>
        rw [hrs] at hr
        change (entriesOf target.row.rawRequest).bind _ = _ at hr
        cases hraw : entriesOf target.row.rawRequest with
        | error e =>
            rw [hraw] at hr
            cases hr
        | ok rawRequest =>
            obtain ⟨hreadable, rfl⟩ := entriesOf_eq_ok_iff.mp hraw
            rw [hraw] at hr
            cases hr
            obtain ⟨hviews, hle, hsound⟩ := honly (rs.map (·.1), (rs.map (·.2)).flatten) (by
              rw [gathered, hrs]
              rfl)
            dsimp only at hviews hle hsound ⊢
            rw [hviews, buyAdvisories, List.length_append, List.length_append]
            refine ⟨rfl, Nat.add_le_add_right hle _, ?_⟩
            intro hlength
            exact ⟨⟨hloads, hreadable⟩, hsound (Nat.add_right_cancel hlength)⟩

end Rendered

section Fetched

variable {env : Env} {filter : Option (List CanonicalStatus)}

theorem targetsOf_cons
    (row : BuyRow)
    (rows : List BuyRow) :
    targetsOf env filter (row :: rows)
      = match fetchTarget env filter row with
        | .ok (some target) => target :: targetsOf env filter rows
        | _ => targetsOf env filter rows := by
  rw [targetsOf, List.filterMap_cons]
  cases fetchTarget env filter row with
  | error refusal => rfl
  | ok target =>
      cases target with
      | none => rfl
      | some target => rfl

theorem brokenIds_cons
    (row : BuyRow)
    (rows : List BuyRow) :
    brokenIds env filter (row :: rows)
      = match fetchTarget env filter row with
        | .ok _ => brokenIds env filter rows
        | .error _ => row.stored.mediaBuyId :: brokenIds env filter rows := by
  rw [brokenIds, List.filterMap_cons]
  cases fetchTarget env filter row with
  | error refusal => rfl
  | ok target => rfl

/-- Without names, the rows are split into those to render and those omitted. -/
theorem fetchTargets_eq
    (rows : List BuyRow) :
    fetchTargets env filter false rows
      = .ok (targetsOf env filter rows, (brokenIds env filter rows).map omittedRowAdvisory) := by
  induction rows with
  | nil => rfl
  | cons row rows ih =>
      rw [fetchTargets, targetsOf_cons, brokenIds_cons, ih]
      cases fetchTarget env filter row with
      | error refusal => rfl
      | ok target =>
          cases target with
          | none => rfl
          | some target => rfl

/-- With names, the first row that cannot be published refuses the request. -/
theorem fetchTargets_named
    {rows : List BuyRow}
    (h : ∃ row ∈ rows, Broken env filter row) :
    ∃ row ∈ rows, ∃ refusal, fetchTarget env filter row = .error refusal
      ∧ fetchTargets env filter true rows = .error (.persisted refusal) := by
  induction rows with
  | nil =>
      obtain ⟨row, hrow, -⟩ := h
      exact absurd hrow List.not_mem_nil
  | cons row rows ih =>
      cases hfetch : fetchTarget env filter row with
      | error refusal =>
          refine ⟨row, List.mem_cons_self, refusal, hfetch, ?_⟩
          rw [fetchTargets, hfetch]
          rfl
      | ok target =>
          have hrest : ∃ row ∈ rows, Broken env filter row := by
            obtain ⟨broken, hmem, refusal, hbroken⟩ := h
            rcases List.mem_cons.mp hmem with rfl | hmem
            · rw [hfetch] at hbroken
              cases hbroken
            · exact ⟨broken, hmem, refusal, hbroken⟩
          obtain ⟨broken, hmem, refusal, hbroken, herror⟩ := ih hrest
          refine ⟨broken, List.mem_cons_of_mem _ hmem, refusal, hbroken, ?_⟩
          rw [fetchTargets, hfetch, herror]
          cases target with
          | none => rfl
          | some target => rfl

theorem mediaBuyId_of_resolveCanonicalStatus
    {buy : StoredBuy} {today : Int} {refusal : PersistedStateError}
    (h : buy.resolveCanonicalStatus today = .error refusal) :
    refusal.mediaBuyId = some buy.mediaBuyId := by
  rw [StoredBuy.resolveCanonicalStatus] at h
  cases hstatus : buy.status with
  | none =>
      rw [hstatus] at h
      cases h
  | some raw =>
      rw [hstatus] at h
      dsimp only at h
      by_cases hempty : raw = ""
      · rw [if_pos hempty] at h
        cases h
      · rw [if_neg hempty, PersistedMediaBuyStatus.parse] at h
        cases hparsed : PersistedMediaBuyStatus.parseOrNone raw with
        | none =>
            rw [hparsed] at h
            cases h
            rfl
        | some status =>
            rw [hparsed] at h
            cases h

theorem mediaBuyId_of_fetchTarget
    {row : BuyRow} {refusal : PersistedStateError}
    (h : fetchTarget env filter row = .error refusal) :
    refusal.mediaBuyId = some row.stored.mediaBuyId := by
  rw [fetchTarget] at h
  cases hstatus : computeStatus row env.today with
  | error unread =>
      rw [hstatus] at h
      cases h
      rw [computeStatus] at hstatus
      cases hcanonical : row.stored.resolveCanonicalStatus env.today with
      | error refusal =>
          rw [hcanonical] at hstatus
          cases hstatus
          exact mediaBuyId_of_resolveCanonicalStatus hcanonical
      | ok status =>
          rw [hcanonical] at hstatus
          cases status <;> cases hstatus
  | ok status =>
      rw [hstatus] at h
      dsimp only at h
      split at h
      · rw [persistedRevision] at h
        cases hrevision : row.revision with
        | none =>
            rw [hrevision] at h
            cases h
            rfl
        | some revision =>
            rw [hrevision] at h
            dsimp only at h
            by_cases hlow : revision < env.revisionMinimum
            · rw [if_pos hlow] at h
              cases h
              rfl
            · rw [if_neg hlow] at h
              cases h
      · cases h

theorem row_of_fetchTarget
    {row : BuyRow} {target : Target}
    (h : fetchTarget env filter row = .ok (some target)) :
    target.row = row := by
  rw [fetchTarget] at h
  cases hstatus : computeStatus row env.today with
  | error unread =>
      rw [hstatus] at h
      cases h
  | ok status =>
      rw [hstatus] at h
      dsimp only at h
      split at h
      · cases hrevision : persistedRevision env.revisionMinimum row with
        | error refusal =>
            rw [hrevision] at h
            cases h
        | ok revision =>
            rw [hrevision] at h
            cases h
            rfl
      · cases h

theorem mem_of_mem_targetsOf
    {rows : List BuyRow} {target : Target}
    (h : target ∈ targetsOf env filter rows) :
    target.row ∈ rows := by
  obtain ⟨row, hrow, hfetched⟩ := List.mem_filterMap.mp h
  cases hfetch : fetchTarget env filter row with
  | error refusal =>
      rw [hfetch] at hfetched
      cases hfetched
  | ok found =>
      rw [hfetch] at hfetched
      cases hfetched
      rwa [row_of_fetchTarget hfetch]

/-- The targets of some of the rows are those of the targets. -/
theorem targetsOf_filter
    (keep : BuyRow → Bool)
    (rows : List BuyRow) :
    targetsOf env filter (rows.filter keep)
      = (targetsOf env filter rows).filter fun target => keep target.row := by
  induction rows with
  | nil => rfl
  | cons row rows ih =>
      rw [List.filter_cons, targetsOf_cons]
      cases hfetch : fetchTarget env filter row with
      | error refusal =>
          split
          · rw [targetsOf_cons, hfetch]
            exact ih
          · exact ih
      | ok found =>
          cases found with
          | none =>
              split
              · rw [targetsOf_cons, hfetch]
                exact ih
              · exact ih
          | some target =>
              dsimp only
              rw [List.filter_cons, row_of_fetchTarget hfetch]
              by_cases hkeep : keep row = true
              · rw [if_pos hkeep, if_pos hkeep, targetsOf_cons, hfetch]
                exact congrArg (target :: ·) ih
              · rw [if_neg hkeep, if_neg hkeep]
                exact ih

end Fetched

section Tolerance

variable {env : Env} {caller : Caller} {req : Request} {store : Store}
  {filter : Option (List CanonicalStatus)}

/-- What a listing without names shows and reports. -/
def listed
    (result : Except ListingError Response) : Except ListingError (List BuyView × List Advisory) :=
  result.map fun response => (response.mediaBuys, response.errors)

/-- The columns of a listing: every row of the caller is loaded, and every buy to render is
sound. -/
def ListingSound
    (env : Env)
    (store : Store)
    (filter : Option (List CanonicalStatus))
    (rows : List BuyRow) : Prop :=
  (∀ row ∈ rows, loads row.rawRequest = true)
    ∧ ∀ target ∈ targetsOf env filter rows, BuySound env store target

/-- The packages of the targets are loaded. -/
def PackagesLoad
    (env : Env)
    (store : Store)
    (filter : Option (List CanonicalStatus))
    (rows : List BuyRow) : Prop :=
  ∀ target ∈ targetsOf env filter rows, ∀ pkg ∈ store.packagesOf target.row.stored.mediaBuyId,
    loads pkg.packageConfig = true

theorem all_targetPackages
    {rows : List BuyRow} :
    (store.targetPackages (targetsOf env filter rows)).all (fun pkg => loads pkg.packageConfig)
        = true
      ↔ PackagesLoad env store filter rows := by
  rw [List.all_eq_true, Store.targetPackages, List.forall_mem_flatMap]
  rfl

theorem snapshotConfigs_of_readable
    {packages : List PackageRow}
    (h : ∀ pkg ∈ packages, Readable pkg.packageConfig) :
    ∃ configs, snapshotConfigs env req packages = .ok configs := by
  rw [snapshotConfigs]
  split
  · refine Runs.exists_mapM_eq_ok_iff.mpr ?_
    intro pkg hpkg
    exact ⟨_, entriesOf_eq_ok_iff.mpr ⟨(h pkg hpkg).2, rfl⟩⟩
  · exact ⟨[], rfl⟩

theorem getMediaBuys_of_loads
    (hnamed : buyerNamedRows req = false)
    (hfilter : resolveStatusFilter req.statusFilter (buyerNamedRows req) = .ok filter)
    (hrows : ∀ row ∈ store.selected caller req, loads row.rawRequest = true)
    (hpackages : PackagesLoad env store filter (store.selected caller req)) :
    listed (getMediaBuys env caller req store)
      = (snapshotConfigs env req
          (store.targetPackages (targetsOf env filter (store.selected caller req)))).bind fun _ =>
        (gathered ((targetsOf env filter (store.selected caller req)).mapM
          (renderBuy env req store))).map fun r =>
            (r.1, (brokenIds env filter (store.selected caller req)).map omittedRowAdvisory
              ++ r.2) := by
  rw [getMediaBuys, hfilter]
  change listed (if _ then _ else _) = _
  rw [if_pos (List.all_eq_true.mpr hrows), hnamed, fetchTargets_eq]
  change listed (if (store.targetPackages (targetsOf env filter (store.selected caller req))).all
    (fun pkg => loads pkg.packageConfig) = true then _ else _) = _
  rw [if_pos (all_targetPackages.mpr hpackages)]
  cases snapshotConfigs env req
      (store.targetPackages (targetsOf env filter (store.selected caller req))) with
  | error e => rfl
  | ok configs =>
      cases (targetsOf env filter (store.selected caller req)).mapM (renderBuy env req store) with
      | error e => rfl
      | ok rendered => rfl

theorem loads_of_getMediaBuys
    (hnamed : buyerNamedRows req = false)
    (hfilter : resolveStatusFilter req.statusFilter (buyerNamedRows req) = .ok filter)
    {r : List BuyView × List Advisory}
    (h : listed (getMediaBuys env caller req store) = .ok r) :
    (∀ row ∈ store.selected caller req, loads row.rawRequest = true)
      ∧ PackagesLoad env store filter (store.selected caller req) := by
  rw [getMediaBuys, hfilter] at h
  change listed (if _ then _ else _) = _ at h
  by_cases hrows : (store.selected caller req).all (fun row => loads row.rawRequest) = true
  · rw [if_pos hrows, hnamed, fetchTargets_eq] at h
    change listed (if (store.targetPackages (targetsOf env filter
      (store.selected caller req))).all (fun pkg => loads pkg.packageConfig) = true
        then _ else _) = _ at h
    by_cases hpackages : (store.targetPackages (targetsOf env filter
        (store.selected caller req))).all (fun pkg => loads pkg.packageConfig) = true
    · exact ⟨List.all_eq_true.mp hrows, all_targetPackages.mp hpackages⟩
    · rw [if_neg hpackages] at h
      cases h
  · rw [if_neg hrows] at h
    cases h

/-- A listing without names follows the rule. -/
theorem getMediaBuys_follows
    (hnamed : buyerNamedRows req = false)
    (hfilter : resolveStatusFilter req.statusFilter (buyerNamedRows req) = .ok filter) :
    Follows (listed (getMediaBuys env caller req store))
      ((targetsOf env filter (store.selected caller req)).map (shownBuy env req store))
      ((brokenIds env filter (store.selected caller req)).map omittedRowAdvisory
        ++ (targetsOf env filter (store.selected caller req)).flatMap (buyAdvisories env store))
      (ListingSound env store filter (store.selected caller req)) := by
  have hbuys : (∀ row ∈ store.selected caller req, loads row.rawRequest = true) →
      PackagesLoad env store filter (store.selected caller req) →
      Follows (gathered ((targetsOf env filter (store.selected caller req)).mapM
          (renderBuy env req store)))
        ((targetsOf env filter (store.selected caller req)).map (shownBuy env req store))
        ((targetsOf env filter (store.selected caller req)).flatMap (buyAdvisories env store))
        (∀ target ∈ targetsOf env filter (store.selected caller req),
          BuySound env store target) := fun hrows hpackages =>
    follows_mapM fun target htarget => renderBuy_follows
      (hrows target.row (mem_of_mem_targetsOf htarget)) (hpackages target htarget)
  constructor
  · rintro ⟨hrows, hsound⟩
    have hpackages : PackagesLoad env store filter (store.selected caller req) :=
      fun target htarget pkg hpkg => ((hsound target htarget).2 pkg hpkg).1.1
    obtain ⟨configs, hconfigs⟩ := @snapshotConfigs_of_readable env req
      (store.targetPackages (targetsOf env filter (store.selected caller req))) (by
        rw [Store.targetPackages, List.forall_mem_flatMap]
        exact fun target htarget pkg hpkg => ((hsound target htarget).2 pkg hpkg).1)
    rw [getMediaBuys_of_loads hnamed hfilter hrows hpackages, hconfigs,
      (hbuys hrows hpackages).1 hsound]
    rfl
  · intro r hr
    obtain ⟨hrows, hpackages⟩ := loads_of_getMediaBuys hnamed hfilter hr
    rw [getMediaBuys_of_loads hnamed hfilter hrows hpackages] at hr
    cases hconfigs : snapshotConfigs env req
        (store.targetPackages (targetsOf env filter (store.selected caller req))) with
    | error e =>
        rw [hconfigs] at hr
        cases hr
    | ok configs =>
        rw [hconfigs] at hr
        cases hgathered : gathered ((targetsOf env filter (store.selected caller req)).mapM
            (renderBuy env req store)) with
        | error e =>
            rw [hgathered] at hr
            cases hr
        | ok found =>
            rw [hgathered] at hr
            cases hr
            obtain ⟨hviews, hle, hsound⟩ := (hbuys hrows hpackages).2 found hgathered
            rw [List.length_append, List.length_append]
            refine ⟨hviews, Nat.add_le_add_left hle _, ?_⟩
            intro hlength
            exact ⟨hrows, hsound (Nat.add_left_cancel hlength)⟩

theorem listed_eq_ok
    {result : Except ListingError Response} {r : List BuyView × List Advisory}
    (h : listed result = .ok r) :
    ∃ response, result = .ok response ∧ r = (response.mediaBuys, response.errors) := by
  cases result with
  | error e => cases h
  | ok response =>
      cases h
      exact ⟨response, rfl, rfl⟩

theorem selected_without
    (mediaBuyId : String) :
    (store.without mediaBuyId).selected caller req
      = (store.selected caller req).filter fun row => row.stored.mediaBuyId ≠ mediaBuyId := by
  rw [Store.selected, Store.selected, Store.owned, Store.owned, Store.without, List.filter_filter,
    List.filter_filter, List.filter_filter, List.filter_filter]
  refine List.filter_congr fun row _ => ?_
  simp only [Bool.and_assoc, Bool.and_comm, Bool.and_left_comm]

/-- A listing without a buy shows the others as they are. -/
theorem getMediaBuys_without
    (hnamed : buyerNamedRows req = false)
    (hfilter : resolveStatusFilter req.statusFilter (buyerNamedRows req) = .ok filter)
    (hsound : ListingSound env store filter (store.selected caller req))
    (mediaBuyId : String) :
    ∃ response', getMediaBuys env caller req (store.without mediaBuyId) = .ok response'
      ∧ response'.mediaBuys
        = ((targetsOf env filter (store.selected caller req)).map
            (shownBuy env req store)).filter fun buy => buy.mediaBuyId ≠ mediaBuyId := by
  have hless : ListingSound env (store.without mediaBuyId) filter
      ((store.without mediaBuyId).selected caller req) := by
    rw [selected_without, ListingSound, targetsOf_filter]
    refine ⟨?_, ?_⟩
    · exact fun row hrow => hsound.1 row (List.mem_of_mem_filter hrow)
    · exact fun target htarget => hsound.2 target (List.mem_of_mem_filter htarget)
  obtain ⟨response', hresponse', heq⟩ :=
    listed_eq_ok ((getMediaBuys_follows hnamed hfilter).1 hless)
  refine ⟨response', hresponse', ?_⟩
  rw [← (Prod.mk.inj heq).1, selected_without, targetsOf_filter, List.filter_map]
  rfl

theorem listsTheRest_iff
    (hnamed : buyerNamedRows req = false)
    (hfilter : resolveStatusFilter req.statusFilter (buyerNamedRows req) = .ok filter) :
    ListsTheRest env caller req store filter
      ↔ (req.mediaBuyIds = none ∨ targetsOf env filter (store.owned caller) = []
          ∧ brokenIds env filter (store.owned caller) = [])
        ∧ ListingSound env store filter (store.selected caller req) := by
  obtain ⟨hall, honly⟩ := @getMediaBuys_follows env caller req store filter hnamed hfilter
  cases hids : req.mediaBuyIds with
  | none =>
      have hselected : store.selected caller req = store.owned caller := by
        rw [Store.selected, hids]
        exact List.filter_true _
      rw [hselected] at hall honly ⊢
      rw [and_iff_right (.inl rfl)]
      constructor
      · rintro ⟨response, hresponse, -, herrors, -⟩
        refine (honly (response.mediaBuys, response.errors) (by
          rw [hresponse]
          rfl)).2.2 ?_
        rw [herrors]
      · intro hsound
        obtain ⟨response, hresponse, heq⟩ := listed_eq_ok (hall hsound)
        obtain ⟨hviews, herrors⟩ := Prod.mk.inj heq
        refine ⟨response, hresponse, hviews.symm, herrors.symm, ?_⟩
        intro mediaBuyId
        rw [← hviews, ← hselected]
        rw [← hselected] at hsound
        exact getMediaBuys_without hnamed hfilter hsound mediaBuyId
  | some ids =>
      have hnil : ids = [] := by
        rw [buyerNamedRows, hids, Bool.not_eq_false'] at hnamed
        exact List.isEmpty_iff.mp hnamed
      have hselected : ∀ store : Store, store.selected caller req = [] := by
        intro store
        rw [Store.selected, hids, hnil]
        exact List.filter_false _
      have hsound : ∀ store : Store,
          ListingSound env store filter (store.selected caller req) := by
        intro store
        rw [hselected]
        exact ⟨fun row hrow => absurd hrow List.not_mem_nil,
          fun target htarget => absurd htarget List.not_mem_nil⟩
      rw [and_iff_left (hsound store)]
      have hempty : ∀ store : Store, ∃ response,
          getMediaBuys env caller req store = .ok response
            ∧ response.mediaBuys = [] ∧ response.errors = [] := by
        intro store
        obtain ⟨response, hresponse, heq⟩ := listed_eq_ok
          ((@getMediaBuys_follows env caller req store filter hnamed hfilter).1 (hsound store))
        rw [hselected store] at heq
        obtain ⟨hviews, herrors⟩ := Prod.mk.inj heq
        exact ⟨response, hresponse, hviews.symm, herrors.symm⟩
      constructor
      · rintro ⟨response, hresponse, hviews, herrors, -⟩
        obtain ⟨response', hresponse', hnone, hnoErrors⟩ := hempty store
        rw [hresponse] at hresponse'
        cases hresponse'
        rw [hnone] at hviews
        rw [hnoErrors] at herrors
        refine .inr ⟨List.map_eq_nil_iff.mp hviews.symm, ?_⟩
        exact List.map_eq_nil_iff.mp (List.append_eq_nil_iff.mp herrors.symm).1
      · rintro (hnone | ⟨htargets, hbroken⟩)
        · cases hnone
        · obtain ⟨response, hresponse, hviews, herrors⟩ := hempty store
          refine ⟨response, hresponse, ?_, ?_, ?_⟩
          · rw [hviews, htargets]
            rfl
          · rw [herrors, htargets, hbroken]
            rfl
          · intro mediaBuyId
            obtain ⟨response', hresponse', hviews', -⟩ := hempty (store.without mediaBuyId)
            exact ⟨response', hresponse', by rw [hviews, hviews']; rfl⟩

/-- A request that names broken rows is refused by one of them exactly where the rows it names are
loaded. -/
theorem refusesNamed_iff
    (hnamed : buyerNamedRows req = true)
    (hfilter : resolveStatusFilter req.statusFilter (buyerNamedRows req) = .ok filter) :
    RefusesNamed env caller req store filter
      ↔ ((∃ row ∈ store.selected caller req, Broken env filter row) →
        ∀ row ∈ store.selected caller req, loads row.rawRequest = true) := by
  refine imp_congr_right fun hbroken => ?_
  constructor
  · rintro ⟨row, -, refusal, -, -, herror⟩
    rw [getMediaBuys, hfilter] at herror
    change (if _ then _ else _) = _ at herror
    by_cases hrows : (store.selected caller req).all (fun row => loads row.rawRequest) = true
    · exact List.all_eq_true.mp hrows
    · rw [if_neg hrows] at herror
      cases herror
  · intro hrows
    obtain ⟨row, hrow, refusal, hfetch, herror⟩ := fetchTargets_named hbroken
    refine ⟨row, hrow, refusal, hfetch, mediaBuyId_of_fetchTarget hfetch, ?_⟩
    rw [getMediaBuys, hfilter]
    change (if _ then _ else _) = _
    rw [if_pos (List.all_eq_true.mpr hrows), hnamed, herror]
    rfl

/-- One row that cannot be rendered never hides the others, and a broken row that is named is
refused, exactly where the columns are read without a fault outside the rule. -/
theorem listing_tolerance_iff
    (env : Env)
    (caller : Caller)
    (req : Request)
    (store : Store) :
    ToleratesRows env caller req store ↔ RowsSound env caller req store := by
  refine forall₂_congr fun filter hfilter => ?_
  cases hnamed : buyerNamedRows req with
  | true =>
      rw [if_pos rfl, if_pos rfl]
      exact refusesNamed_iff hnamed hfilter
  | false =>
      rw [if_neg Bool.false_ne_true, if_neg Bool.false_ne_true]
      exact listsTheRest_iff hnamed hfilter

/-- An environment without an adapter or approvals, where every value is accepted. -/
def plainEnv : Env where
  today := 0
  revisionMinimum := 1
  accepts := fun _ _ => true
  constructs := fun _ _ => true
  targeting := fun fields => some (.obj fields)
  approvals := fun _ _ => []
  supportsRealtimeReporting := false
  snapshot := fun _ _ _ => none
  validActions := fun _ => []

/-- A paused buy of the first principal, with what its request column holds. -/
def pausedRow
    (mediaBuyId : String)
    (rawRequest : Json) : BuyRow where
  stored :=
    { mediaBuyId := mediaBuyId
      status := some "paused"
      startDate := some 0
      endDate := some 9
      startTime := none
      endTime := none
      isPaused := true }
  principalId := "p1"
  accountId := none
  revision := some 1
  rawRequest := rawRequest
  currency := some "USD"
  budget := none
  createdAt := none
  updatedAt := none
  confirmedAt := none

/-- Two paused buys, one with a list in its request column. -/
def mixedStore : Store where
  buys := [pausedRow "mb_1" (.obj []), pausedRow "mb_2" (.arr [.str "x"])]
  packages := []

/-- A listing of paused buys that names no ids. -/
def pausedListing : Request where
  mediaBuyIds := none
  statusFilter := some ["paused"]
  includeSnapshot := false

/-- The ids that a listing shows. -/
def shownIds
    (listing : Except ListingError Response) : Except ListingError (List String) :=
  listing.map fun response => response.mediaBuys.map (·.mediaBuyId)

/-- Counterexample: one buy whose request column holds a list fails a listing that shows the other
buy where that row is absent. -/
theorem listing_hidden_by_one_row :
    shownIds (getMediaBuys plainEnv ⟨"p1", none⟩ pausedListing mixedStore) = .error .noGet
      ∧ shownIds (getMediaBuys plainEnv ⟨"p1", none⟩ pausedListing (mixedStore.without "mb_2"))
        = .ok ["mb_1"]
      ∧ ¬ ToleratesRows plainEnv ⟨"p1", none⟩ pausedListing mixedStore := by
  have herror : shownIds (getMediaBuys plainEnv ⟨"p1", none⟩ pausedListing mixedStore)
      = .error .noGet := by
    decide +kernel
  refine ⟨herror, by decide +kernel, ?_⟩
  intro htolerates
  obtain ⟨response, hresponse, -⟩ := htolerates (some [.paused]) (by decide +kernel)
  rw [hresponse] at herror
  cases herror

end Tolerance

end BuyListing
end SalesAgent
