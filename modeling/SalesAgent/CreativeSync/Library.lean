import SalesAgent.MediaBuy.Store

/-!
# The creative library and its requests

A principal keeps its creatives in the library of the tenant; a row is identified by
its id together with tenant and principal, so one id may name a creative of each of
several principals.  `sync_creatives` receives creatives to create or update and
assignments of creatives to packages, and answers with one result per creative.

Here a creative row has all the columns the sync writes.  The rows of buys, packages
and assignments are those of `MediaBuy/Store.lean`, whose creatives are a projection
of the library.

**Results.**  `SyncStore.find_creatives`: the projection is looked up as the library is.
-/

namespace SalesAgent
namespace CreativeSync

open Idempotency (Json)
open MediaBuys (BuyRows Creative CreativeStatus Decimal FormatIdentity)

/-- The codes of the errors a sync reports. -/
inductive SyncErrorCode
  | validationError
  | referenceNotFound
  | creativeNotFound
  | packageNotFound
  | provenanceRequired
  | provenanceDigitalSourceTypeMissing
  | provenanceDisclosureMissing
  | provenanceEmbeddedMissing
  | creativeRejected
  | configurationError
  | rateLimited
  | serviceUnavailable
  | internalError
  deriving DecidableEq, Repr

/-- `recovery == "transient"`. -/
def SyncErrorCode.transient
    (code : SyncErrorCode) : Bool :=
  code = .rateLimited ∨ code = .serviceUnavailable

/-- A typed error: its code and the field it names. -/
structure SyncError where
  code : SyncErrorCode
  field : Option String := none
  deriving DecidableEq, Repr

/-- A string that Python takes as true. -/
def truthy
    (s : Option String) : Bool :=
  s.any (· ≠ "")

/-- What the sync reads of one asset. -/
structure AssetVariant where
  url : Option String := none
  content : Option String := none
  text : Option String := none
  provenance : Bool := false
  deriving DecidableEq, Repr

/-- The value of an asset slot: one asset, or the list of a repeatable slot. -/
abbrev AssetValue := List AssetVariant

/-- `asset_value_attr`: of a repeatable slot, the first asset counts. -/
def AssetValue.attr
    (value : AssetValue)
    (read : AssetVariant → Option String) : Option String :=
  (value.head?.bind read).filter (· ≠ "")

/-- The asset map of a creative, in the order of its keys. -/
abbrev AssetMap := List (String × AssetValue)

/-- The disclosure part of AI provenance metadata. -/
structure Disclosure where
  required : Option Bool
  jurisdictions : List String
  deriving DecidableEq, Repr

/-- AI provenance metadata. -/
structure Provenance where
  digitalSourceType : Option String
  disclosure : Option Disclosure
  embeddedProvenance : Bool
  deriving DecidableEq, Repr

/-- A reference to a format in a request. -/
structure FormatRef where
  agentUrl : String
  id : String
  parameters : Option Json

/-- One creative of the request. -/
structure CreativeAsset where
  creativeId : String
  name : String
  formatId : Option FormatRef
  assets : AssetMap := []
  url : Option String := none
  clickUrl : Option String := none
  width : Option Decimal := none
  height : Option Decimal := none
  duration : Option Decimal := none
  snippet : Option String := none
  snippetType : Option String := none
  templateVariables : Option Json := none
  provenance : Option Provenance := none
  /-- `inputs[0].context_description` -/
  contextDescription : Option String := none

/-- The `data` column of a creative. -/
structure CreativeData where
  url : Option String := none
  clickUrl : Option String := none
  width : Option Decimal := none
  height : Option Decimal := none
  duration : Option Decimal := none
  assets : Option AssetMap := none
  snippet : Option (String × Option String) := none
  templateVariables : Option Json := none
  provenance : Option Provenance := none
  generativeBuildResult : Option Json := none
  generativeStatus : Option String := none
  generativeContextId : Option String := none
  outputFormat : Option Json := none
  previewResponse : Option Json := none

/-- A row of `creatives` with the columns a sync writes. -/
structure CreativeRow extends Creative where
  name : String
  agentUrl : String
  /-- the column `format` -/
  formatId : String
  formatParameters : Option Json
  data : CreativeData

/-- The primary key of a creative. -/
def CreativeRow.primaryKey
    (row : CreativeRow) : Option (String × String × String) :=
  row.toCreative.primaryKey

/-- The rows a sync reads and writes. -/
structure SyncStore where
  library : IndexedTable CreativeRow (String × String × String) CreativeRow.primaryKey
  rows : BuyRows
  coherent : rows.creatives = library.map CreativeRow.toCreative (fun _ => rfl)

namespace SyncStore

/-- No rows. -/
def empty : SyncStore where
  library := .empty
  rows := .empty
  coherent := rfl

/-- Write the library. -/
def withLibrary
    (s : SyncStore)
    (library : IndexedTable CreativeRow (String × String × String) CreativeRow.primaryKey) :
    SyncStore where
  library := library
  rows := { s.rows with creatives := library.map CreativeRow.toCreative (fun _ => rfl) }
  coherent := rfl

/-- The projected creatives are looked up as the library is. -/
theorem find_creatives
    (s : SyncStore)
    (key : String × String × String) :
    s.rows.creatives.find key = (s.library.find key).map CreativeRow.toCreative := by
  rw [s.coherent]
  exact IndexedTable.find_map _ _ _ _

end SyncStore

/-- The terms of an assignment: its weight and the placements it is restricted to. -/
structure AssignmentTerms where
  weight : Option Decimal
  placementIds : Option (List String)
  deriving DecidableEq, Repr

/-- One entry of the request's `assignments`. -/
structure AssignmentEntry where
  creativeId : String
  packageId : String
  terms : AssignmentTerms := ⟨none, none⟩
  deriving DecidableEq, Repr

/-- A request to sync creatives. -/
structure SyncCreativesRequest where
  creatives : List CreativeAsset
  creativeIds : List String := []
  assignments : List AssignmentEntry := []
  deleteMissing : Bool := false
  dryRun : Bool := false
  /-- `validation_mode` is `strict` -/
  strict : Bool := true
  /-- `_delete_missing_needs_the_whole_library` -/
  wholeLibrary : deleteMissing = true → creativeIds = [] := by decide

theorem wholeLibrary_of_kept : false = true → ([] : List String) = [] :=
  fun _ => rfl

/-- `action` of a result. -/
inductive CreativeAction
  | created
  | updated
  | unchanged
  | failed
  | deleted
  deriving DecidableEq, Repr

/-- Why one package of a creative was not assigned. -/
inductive AssignmentFault
  | notSynced
  | creativeNotFound
  | packageNotFound
  | formatMismatch (productName : String) (supported : List FormatIdentity)
  deriving DecidableEq, Repr

/-- The result of one creative. -/
structure SyncCreativeResult where
  creativeId : String
  action : CreativeAction
  internalStatus : Option CreativeStatus := none
  changes : List String := []
  errors : List SyncError := []
  assignedTo : List String := []
  assignmentErrors : List (String × AssignmentFault) := []
  deriving DecidableEq, Repr

/-- `_failed_sync_result`. -/
def failedSyncResult
    (creativeId : String)
    (source : SyncError) : SyncCreativeResult where
  creativeId := creativeId
  action := .failed
  errors := [source]

/-- The results report the creative as failed. -/
def ReportsFailed
    (results : List SyncCreativeResult)
    (creativeId : String) : Prop :=
  ∃ r ∈ results, r.action = .failed ∧ r.creativeId = creativeId

/-- The results mention the creative. -/
def Mentions
    (results : List SyncCreativeResult)
    (creativeId : String) : Prop :=
  ∃ r ∈ results, r.creativeId = creativeId

section Reports

variable {results results' : List SyncCreativeResult} {creativeId : String}

theorem reportsFailed_append :
    ReportsFailed (results ++ results') creativeId ↔
      ReportsFailed results creativeId ∨ ReportsFailed results' creativeId := by
  simp only [ReportsFailed, List.mem_append, or_and_right, exists_or]

theorem mentions_append :
    Mentions (results ++ results') creativeId ↔
      Mentions results creativeId ∨ Mentions results' creativeId := by
  simp only [Mentions, List.mem_append, or_and_right, exists_or]

@[simp] theorem not_reportsFailed_nil :
    ¬ ReportsFailed [] creativeId := by
  simp [ReportsFailed]

@[simp] theorem reportsFailed_singleton
    (r : SyncCreativeResult) :
    ReportsFailed [r] creativeId ↔ r.action = .failed ∧ r.creativeId = creativeId := by
  simp [ReportsFailed]

@[simp] theorem mentions_singleton
    (r : SyncCreativeResult) :
    Mentions [r] creativeId ↔ r.creativeId = creativeId := by
  simp [Mentions]

end Reports

end CreativeSync
end SalesAgent
