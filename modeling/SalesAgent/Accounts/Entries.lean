import SalesAgent.Accounts.Records

/-!
# One entry of a sync_accounts request

An entry provisions an account under its natural key, or updates the settings of the
account it refers to.  Gates refuse an entry before anything is written: the billing
policy, the sandbox capability and the notification configs with their activation
proofs.  One table says of every field what each of the two modes does with it.

The check of a webhook registration and the answer of a challenged endpoint are
parameters; the answer accounts for the time budget of the request.

**Results.**  `applyFields_indexKey`: no applied field is part of a natural key.
-/

namespace SalesAgent
namespace Accounts

open Idempotency (Json)

/-- A reference to an account. -/
inductive AccountRef
  | byId (accountId : String)
  | byNaturalKey (brand : Brand) (operator : String) (sandbox : Option Bool)
  deriving DecidableEq

/-- An entry of either shape. -/
structure SyncEntry where
  account : Option AccountRef := none
  brand : Option Brand := none
  operator : Option String := none
  billing : Option String := none
  paymentTerms : Option String := none
  sandbox : Option Bool := none
  notificationConfigs : Option (List NotificationConfig) := none
  billingEntity : Option BusinessEntity := none
  governanceAgents : Option (List Json) := none
  deriving DecidableEq

/-- What the sync reads of the caller, its tenant and the services. -/
structure AccountsEnv where
  tenantId : String
  principalId : String
  supportedBilling : Option (List String)
  billingPartyValues : List String
  accountSandbox : Bool
  accountApprovalMode : Option String
  now : DateTime
  mintAccountId : Nat → String
  refusedRegistration : String → Option Authentication → Option String
  proves : Nat → String → NotificationConfig → Bool

/-- `FailureClass` -/
inductive FailureClass
  | unsupportedField
  | billingNotSupported
  | sandboxNotSupported
  | notificationConfigInvalid
  deriving DecidableEq, Repr

/-- The codes of the errors of an entry. -/
inductive EntryErrorCode
  | unsupportedFeature
  | billingNotSupported
  | validationError
  | unsupportedProvisioning
  deriving DecidableEq, Repr

/-- `_FAILURE_CLASS_TO_CODE` -/
def FailureClass.code : FailureClass → EntryErrorCode
  | .unsupportedField => .unsupportedFeature
  | .billingNotSupported => .billingNotSupported
  | .sandboxNotSupported => .unsupportedFeature
  | .notificationConfigInvalid => .validationError

/-- The details of an error of an entry. -/
inductive EntryErrorDetails
  | billing (scope : String) (supportedBilling : Option (List String))
  | reasons (reasons : List String)
  deriving DecidableEq, Repr

/-- `GateFailure` -/
structure GateFailure where
  failureClass : FailureClass
  field : Option String := none
  details : Option EntryErrorDetails := none
  deriving DecidableEq, Repr

/-- An error of an entry. -/
structure EntryError where
  code : EntryErrorCode
  field : Option String := none
  details : Option EntryErrorDetails := none
  deriving DecidableEq, Repr

/-- `_gate_failures_to_errors` -/
def gateFailuresToErrors
    (failures : List GateFailure) : List EntryError :=
  failures.map fun f => { code := f.failureClass.code, field := f.field, details := f.details }

/-- `resolve_supported_billing` -/
def resolveSupportedBilling
    (env : AccountsEnv) : List String :=
  env.supportedBilling.getD env.billingPartyValues

/-- `_check_billing_policy` -/
def checkBillingPolicy
    (env : AccountsEnv)
    (billing : Option String) : Option (List GateFailure) :=
  match billing with
  | none => none
  | some value =>
      let supported := resolveSupportedBilling env
      if value ∈ supported then
        none
      else
        some [{ failureClass := .billingNotSupported
                details := some (.billing "capability"
                  (if supported = [] then none else some supported)) }]

/-- `_check_sandbox_capability` -/
def checkSandboxCapability
    (env : AccountsEnv)
    (sandbox : Option Bool) : Option (List GateFailure) :=
  if sandbox ≠ some true then
    none
  else if env.accountSandbox then
    none
  else
    some [{ failureClass := .sandboxNotSupported, field := some "sandbox" }]

/-- `_MEDIA_BUY_ANCHORED_EVENT_TYPES` -/
def mediaBuyAnchoredEventTypes : List String :=
  ["scheduled", "final", "delayed", "adjusted", "impairment"]

/-- A pointer into the submitted array of notification configs. -/
def configField
    (index : Nat)
    (rest : String) : String :=
  "notification_configs[" ++ toString index ++ "]" ++ rest

/-- The one failure a refused notification config produces. -/
def configFailure
    (field : String) : List GateFailure :=
  [{ failureClass := .notificationConfigInvalid, field := some field }]

/-- One round of the loop of `_check_notification_configs`. -/
def checkNotificationConfig
    (env : AccountsEnv)
    (seenSubscribers : List String)
    (index : Nat)
    (config : NotificationConfig) : Option (List GateFailure) :=
  if config.subscriberId ∈ seenSubscribers then
    some (configFailure (configField index ".subscriber_id"))
  else
    match config.eventTypes.findIdx? (· ∈ mediaBuyAnchoredEventTypes) with
    | some eventIndex =>
        some (configFailure
          (configField index (".event_types[" ++ toString eventIndex ++ "]")))
    | none =>
        match env.refusedRegistration config.url config.authentication with
        | some half => some (configFailure (configField index half))
        | none => none

/-- `_check_notification_configs`, from the config at `index` on -/
def checkNotificationConfigs
    (env : AccountsEnv)
    (seenSubscribers : List String)
    (index : Nat) : List NotificationConfig → Option (List GateFailure)
  | [] => none
  | config :: configs =>
      match checkNotificationConfig env seenSubscribers index config with
      | some failures => some failures
      | none =>
          checkNotificationConfigs env (config.subscriberId :: seenSubscribers) (index + 1) configs

/-- The configs of an entry that declare `active: true`, with their positions. -/
def SyncEntry.activating
    (entry : SyncEntry) : List (NotificationConfig × Nat) :=
  (entry.notificationConfigs.getD []).zipIdx.filter (·.1.active)

/-- `_proof_error` -/
def proofError
    (configIndex : Nat) : GateFailure :=
  { failureClass := .notificationConfigInvalid, field := some (configField configIndex ".url") }

/-- Strip the slashes at the end of a URL. -/
def stripSlashes
    (url : String) : String :=
  String.ofList ((url.toList.reverse.dropWhile (· = '/')).reverse)

/-- `_proof_tuple`.  The block it reads a scheme off has schemes and no scheme, so that
the third component is always missing. -/
def proofTuple
    (config : NotificationConfig) : String × String × Option String × List String :=
  (config.subscriberId, stripSlashes config.url, none, config.eventTypes.mergeSort (· ≤ ·))

instance decidableMemProofTuples
    (tuple : String × String × Option String × List String)
    (tuples : List (String × String × Option String × List String)) :
    Decidable (tuple ∈ tuples) :=
  List.instDecidableMemOfLawfulBEq tuple tuples

/-- `NaturalKey.from_reference` and `NaturalKey.from_parts` -/
def naturalKey
    (brand : Brand)
    (operator : String)
    (sandbox : Option Bool) : NaturalKey :=
  { domain := brand.domain, brandId := brand.brandId, operator := operator, sandbox := sandbox }

/-- `_resolve_settings_update_target` -/
def resolveSettingsUpdateTarget
    (env : AccountsEnv)
    (rows : AccountRows) : AccountRef → Option Account
  | .byId accountId => rows.getById env.tenantId accountId
  | .byNaturalKey brand operator sandbox =>
      rows.getByNaturalKey env.tenantId (naturalKey brand operator sandbox)

/-- `_lookup_existing_for_entry` -/
def lookupExistingForEntry
    (env : AccountsEnv)
    (rows : AccountRows)
    (entry : SyncEntry) : Option Account :=
  match entry.account with
  | some ref => resolveSettingsUpdateTarget env rows ref
  | none =>
      match entry.brand, entry.operator with
      | some brand, some operator =>
          rows.getByNaturalKey env.tenantId (naturalKey brand operator entry.sandbox)
      | _, _ => none

/-- Of `_resolve_activation_proofs`, the errors of the entry at `index`.  A preview sends
no challenge and keeps the error of the last config; otherwise a config is challenged,
in the name of the account the entry resolves to, unless that account has it active. -/
def resolveActivationProofs
    (env : AccountsEnv)
    (dryRun : Bool)
    (rows : AccountRows)
    (index : Nat)
    (entry : SyncEntry) : Option (List GateFailure) :=
  if dryRun then
    entry.activating.getLast?.map fun c => [proofError c.2]
  else
    let existing := lookupExistingForEntry env rows entry
    let accountId := (existing.map (·.accountId)).getD (env.mintAccountId index)
    let alreadyProven :=
      (((existing.bind (·.notificationConfigs)).getD []).filter (·.active)).map proofTuple
    let failures := entry.activating.filter fun c =>
      proofTuple c.1 ∉ alreadyProven && ! env.proves index accountId c.1
    if failures = [] then none else some (failures.map fun c => proofError c.2)

/-- `_notification_configs_gate` -/
def notificationConfigsGate
    (env : AccountsEnv)
    (entry : SyncEntry)
    (proofErrors : Option (List GateFailure)) : Option (List GateFailure) :=
  match checkNotificationConfigs env [] 0 (entry.notificationConfigs.getD []) with
  | some failures => some failures
  | none => proofErrors

/-- `_first_gate_failure` -/
def firstGateFailure
    (gates : List (Option (List GateFailure))) : Option (List EntryError) :=
  (gates.findSome? id).map gateFailuresToErrors

/-- `_provisioning_gates` -/
def provisioningGates
    (env : AccountsEnv)
    (entry : SyncEntry)
    (proofErrors : Option (List GateFailure)) : List (Option (List GateFailure)) :=
  [checkBillingPolicy env entry.billing,
    checkSandboxCapability env entry.sandbox,
    notificationConfigsGate env entry proofErrors]

/-- The two modes of an entry. -/
inductive EntryMode
  | provisioning
  | settingsUpdate
  deriving DecidableEq, Repr

/-- `DispositionKind` -/
inductive DispositionKind
  | applied
  | rejected
  | specForbidden
  | localExtension
  | ignoredByDesign
  deriving DecidableEq, Repr

/-- The rows of `_FIELD_POLICY`. -/
inductive PolicyField
  | paymentTerms
  | notificationConfigs
  | billingEntity
  | billing
  | sandbox
  | governanceAgents
  | preferredReportingProtocol
  deriving DecidableEq, Repr

/-- `_FIELD_POLICY` -/
def disposition : PolicyField → EntryMode → DispositionKind
  | .billing, .settingsUpdate => .specForbidden
  | .sandbox, .settingsUpdate => .rejected
  | .governanceAgents, .settingsUpdate => .localExtension
  | .preferredReportingProtocol, _ => .ignoredByDesign
  | _, _ => .applied

/-- `ResolvedFields`: a field is there where its resolver reported a change. -/
structure ResolvedFields where
  paymentTerms : Option String := none
  notificationConfigs : Option (List NotificationConfig) := none
  billingEntity : Option BusinessEntity := none
  billing : Option String := none
  sandbox : Option (Option Bool) := none
  governanceAgents : Option (List Json) := none
  deriving DecidableEq

/-- The value of a field that the policy applies. -/
def whenApplied {α : Type}
    (field : PolicyField)
    (mode : EntryMode)
    (value : Option α) : Option α :=
  if disposition field mode = .applied then value else none

/-- `_resolve_entry_changes`; the sandbox flag is resolved at a create only -/
def resolveEntryChanges
    (entry : SyncEntry)
    (existing : Option Account)
    (mode : EntryMode) : ResolvedFields where
  paymentTerms := whenApplied .paymentTerms mode entry.paymentTerms
  notificationConfigs := whenApplied .notificationConfigs mode entry.notificationConfigs
  billingEntity := whenApplied .billingEntity mode entry.billingEntity
  billing := whenApplied .billing mode entry.billing
  sandbox := whenApplied .sandbox mode (if existing.isSome then none else some entry.sandbox)
  governanceAgents := whenApplied .governanceAgents mode entry.governanceAgents

/-- The resolved fields whose value is not what the row has. -/
def ResolvedFields.changed
    (fields : ResolvedFields)
    (existing : Account) : ResolvedFields where
  paymentTerms := fields.paymentTerms.filter (existing.paymentTerms ≠ some ·)
  notificationConfigs := fields.notificationConfigs.filter (existing.notificationConfigs ≠ some ·)
  billingEntity := fields.billingEntity.filter (existing.billingEntity ≠ some ·)
  billing := fields.billing.filter (existing.billing ≠ some ·)
  sandbox := fields.sandbox.filter (existing.sandbox ≠ ·)
  governanceAgents := fields.governanceAgents.filter (existing.governanceAgents ≠ some ·)

/-- Write the fields that are there. -/
def Account.applyFields
    (a : Account)
    (fields : ResolvedFields) : Account :=
  { a with
    paymentTerms := fields.paymentTerms <|> a.paymentTerms
    notificationConfigs := fields.notificationConfigs <|> a.notificationConfigs
    billingEntity := fields.billingEntity <|> a.billingEntity
    billing := fields.billing <|> a.billing
    governanceAgents := fields.governanceAgents <|> a.governanceAgents }

theorem applyFields_primaryKey
    (fields : ResolvedFields)
    (a : Account) :
    (a.applyFields fields).primaryKey = a.primaryKey :=
  rfl

theorem applyFields_indexKey
    (fields : ResolvedFields)
    (a : Account) :
    (a.applyFields fields).indexKey = a.indexKey :=
  rfl

/-- `_rejected_field_errors` of a settings update: the one rejected field is the sandbox
flag. -/
def rejectedFieldErrors
    (entry : SyncEntry)
    (mode : EntryMode) : Option (List GateFailure) :=
  if disposition .sandbox mode = .rejected ∧ entry.sandbox.isSome then
    some [{ failureClass := .unsupportedField, field := some "sandbox" }]
  else
    none

/-- The gates of a settings update. -/
def settingsUpdateGates
    (env : AccountsEnv)
    (entry : SyncEntry)
    (proofErrors : Option (List GateFailure)) : List (Option (List GateFailure)) :=
  [notificationConfigsGate env entry proofErrors, rejectedFieldErrors entry .settingsUpdate]

end Accounts
end SalesAgent
