import SalesAgent.Accounts.Entries

/-!
# The sync_accounts request

The request proves the endpoints it activates, and then runs its entries, in their
order, in one transaction: each is provisioned or updates settings, and answers with one
result.  Where it asks for it, the accounts of the principal that no entry touched are
closed.  An exception discards everything; a preview discards what it wrote and answers
as the live request would.
-/

namespace SalesAgent
namespace Accounts

/-- `sync_accounts` -/
structure SyncAccountsRequest where
  accounts : List SyncEntry
  deleteMissing : Bool := false
  dryRun : Bool := false
  pushNotificationConfig : Option (String × Option Authentication) := none

/-- What ends the request. -/
inductive SyncAccountsFault
  | validation (field : Option String) (index : Option Nat)
  | configuration (accountId : Option String)
  | conflict (accountId : String)
  | immutableField
  | integrityError
  deriving DecidableEq, Repr

/-- `Setup` -/
structure Setup where
  message : String
  url : Option String := none
  expiresAt : Option DateTime := none
  deriving DecidableEq, Repr

/-- `action` -/
inductive SyncAction
  | created
  | updated
  | unchanged
  | failed
  deriving DecidableEq, Repr

/-- The brand of a result; an unmatched account id has none to echo. -/
inductive EchoBrand
  | reference (brand : Brand)
  | unknown
  deriving DecidableEq

/-- `SyncResponseAccount` -/
structure SyncResponseAccount where
  brand : EchoBrand
  operator : String
  action : SyncAction
  status : AccountStatus
  accountId : Option String := none
  name : Option String := none
  billing : Option String := none
  paymentTerms : Option String := none
  sandbox : Option Bool := none
  errors : Option (List EntryError) := none
  setup : Option Setup := none
  notificationConfigs : Option (List NotificationConfig) := none
  billingEntity : Option BusinessEntity := none
  deriving DecidableEq

/-- `scrub_notification_credentials` -/
def scrubNotificationCredentials
    (configs : Option (List NotificationConfig)) : Option (List NotificationConfig) :=
  configs.map fun list => list.map fun config =>
    { config with authentication :=
        config.authentication.map fun auth => { auth with credentials := none } }

/-- `scrub_business_entity` -/
def scrubBusinessEntity
    (entity : Option BusinessEntity) : Option BusinessEntity :=
  entity.map fun e => { e with bank := none }

/-- `_build_failed_result` -/
def buildFailedResult
    (brand : EchoBrand)
    (operator : String)
    (billing : Option String)
    (sandbox : Option Bool)
    (errors : List EntryError) : SyncResponseAccount where
  brand := brand
  operator := operator
  action := .failed
  status := .rejected
  billing := billing
  sandbox := sandbox
  errors := some errors

/-- `_unmatched_settings_update_result` -/
def unmatchedSettingsUpdateResult
    (ref : AccountRef) : SyncResponseAccount :=
  let errors : List EntryError :=
    [{ code := .unsupportedProvisioning
       details := some (.reasons ["settings_update_never_provisions"]) }]
  match ref with
  | .byId _ => buildFailedResult .unknown "unknown" none none errors
  | .byNaturalKey brand operator _ =>
      buildFailedResult (.reference brand) (if operator = "" then "unknown" else operator)
        none none errors

/-- `_generate_account_name` -/
def generateAccountName
    (brand : Brand)
    (operator : String) : String :=
  (match brand.brandId with
    | some brandId => brand.domain ++ ":" ++ brandId
    | none => brand.domain) ++ " c/o " ++ operator

/-- `_build_setup_for_approval` -/
def buildSetupForApproval
    (env : AccountsEnv) : Option Setup :=
  match env.accountApprovalMode.getD "auto" with
  | "credit_review" =>
      some
        { message := "Account requires credit review before activation. " ++
            "Please complete the credit application."
          url := some ("https://seller.example.com/accounts/review?tenant=" ++ env.tenantId)
          expiresAt := some (env.now + Timedelta.seconds (7 * 86400)) }
  | "legal_review" =>
      some
        { message := "Account requires legal review before activation. " ++
            "Our team will review your application." }
  | _ => none

/-- `update_fields`; a field of the natural key is refused -/
def AccountRows.updateFields
    (rows : AccountRows)
    (tenantId accountId : String)
    (fields : ResolvedFields) : Except SyncAccountsFault AccountRows :=
  if fields.sandbox.isSome then
    .error .immutableField
  else
    .ok (rows.modify tenantId accountId (·.applyFields fields)
      (applyFields_primaryKey fields) (applyFields_indexKey fields))

/-- Write the changed fields, where there are any.  The row in hand is the row of the
session, so that it has what was written. -/
def writeChanges
    (env : AccountsEnv)
    (rows : AccountRows)
    (existing : Account)
    (changes : ResolvedFields) : Except SyncAccountsFault (AccountRows × Account) :=
  if changes = {} then
    .ok (rows, existing)
  else
    (rows.updateFields env.tenantId existing.accountId changes).map fun rows' =>
      (rows', existing.applyFields changes)

/-- The action an update reports. -/
def updateAction
    (changes : ResolvedFields) : SyncAction :=
  if changes = {} then .unchanged else .updated

/-- The result of a settings update, off the row as it was left. -/
def settingsUpdateResult
    (brand : Brand)
    (state : Account)
    (changes : ResolvedFields) : SyncResponseAccount where
  brand := .reference brand
  operator := state.operator.getD ""
  action := updateAction changes
  status := state.status
  accountId := some state.accountId
  name := some state.name
  billing := state.billing
  paymentTerms := state.paymentTerms
  sandbox := state.sandbox
  notificationConfigs := scrubNotificationCredentials state.notificationConfigs
  billingEntity := scrubBusinessEntity state.billingEntity

/-- `_process_settings_update_entry` -/
def processSettingsUpdateEntry
    (env : AccountsEnv)
    (rows : AccountRows)
    (entry : SyncEntry)
    (ref : AccountRef)
    (proofErrors : Option (List GateFailure)) :
    Except SyncAccountsFault (AccountRows × SyncResponseAccount) :=
  match resolveSettingsUpdateTarget env rows ref with
  | none => .ok (rows, unmatchedSettingsUpdateResult ref)
  | some existing =>
      match existing.brand with
      | none => .error (.configuration (some existing.accountId))
      | some brand =>
          match firstGateFailure (settingsUpdateGates env entry proofErrors) with
          | some errors =>
              .ok (rows, buildFailedResult (.reference brand) (existing.operator.getD "")
                existing.billing existing.sandbox errors)
          | none =>
              let changes :=
                (resolveEntryChanges entry (some existing) .settingsUpdate).changed existing
              (writeChanges env rows existing changes).map fun written =>
                (written.1, settingsUpdateResult brand written.2 changes)

/-- `_build_update_result`, off the row as it was left -/
def buildUpdateResult
    (brand : Brand)
    (operator : String)
    (state : Account)
    (changes : ResolvedFields) : SyncResponseAccount where
  brand := .reference brand
  operator := operator
  action := updateAction changes
  status := state.status
  accountId := some state.accountId
  name := some state.name
  billing := state.billing
  sandbox := state.sandbox
  notificationConfigs := scrubNotificationCredentials state.notificationConfigs
  billingEntity := scrubBusinessEntity state.billingEntity

/-- `_apply_to_existing_account` -/
def applyToExistingAccount
    (env : AccountsEnv)
    (rows : AccountRows)
    (entry : SyncEntry)
    (brand : Brand)
    (operator : String)
    (existing : Account) : Except SyncAccountsFault (AccountRows × SyncResponseAccount) :=
  let changes := (resolveEntryChanges entry (some existing) .provisioning).changed existing
  (writeChanges env rows existing changes).map fun written =>
    (written.1, buildUpdateResult brand operator written.2 changes)

/-- `build_row`, with the fields of a create; the flag has a column default -/
def buildRow
    (env : AccountsEnv)
    (accountId : String)
    (brand : Brand)
    (operator : String)
    (createdFields : ResolvedFields) : Account where
  tenantId := env.tenantId
  accountId := accountId
  name := generateAccountName brand operator
  status := if (buildSetupForApproval env).isSome then .pendingApproval else .active
  operator := some operator
  billing := createdFields.billing
  paymentTerms := createdFields.paymentTerms
  brand := some brand
  governanceAgents := createdFields.governanceAgents
  notificationConfigs := createdFields.notificationConfigs
  billingEntity := createdFields.billingEntity
  sandbox := createdFields.sandbox.getD (some false)
  principalId := some env.principalId

/-- The result of a create. -/
def createdResult
    (env : AccountsEnv)
    (entry : SyncEntry)
    (brand : Brand)
    (operator : String)
    (account : Account) : SyncResponseAccount where
  brand := .reference brand
  operator := operator
  action := .created
  status := account.status
  accountId := some account.accountId
  name := some account.name
  billing := account.billing
  sandbox := entry.sandbox
  setup := buildSetupForApproval env
  notificationConfigs := scrubNotificationCredentials account.notificationConfigs
  billingEntity := scrubBusinessEntity account.billingEntity

/-- A provisioning entry behind its gates: upsert by natural key.  An insert that lost
to another transaction resolves to the account that won. -/
def provision
    (env : AccountsEnv)
    (rows : AccountRows)
    (index : Nat)
    (entry : SyncEntry)
    (brand : Brand)
    (operator : String) : Except SyncAccountsFault (AccountRows × SyncResponseAccount) :=
  match rows.getByNaturalKey env.tenantId (naturalKey brand operator entry.sandbox) with
  | some existing => applyToExistingAccount env rows entry brand operator existing
  | none =>
      let account := buildRow env (env.mintAccountId index) brand operator
        (resolveEntryChanges entry none .provisioning)
      match rows.create account env.principalId with
      | .created rows' => .ok (rows', createdResult env entry brand operator account)
      | .integrityError => .error .integrityError
      | .conflict rows' existing =>
          match rows'.getById env.tenantId existing.accountId with
          | some winner => applyToExistingAccount env rows' entry brand operator winner
          | none => .error (.conflict existing.accountId)

/-- What the loop carries: the rows, the results and the ids of the accounts they are
about. -/
structure SyncState where
  rows : AccountRows
  results : List SyncResponseAccount := []
  seenAccountIds : List String := []

/-- Record the result of an entry; a failed one has no account id. -/
def SyncState.record
    (s : SyncState)
    (outcome : AccountRows × SyncResponseAccount) : SyncState where
  rows := outcome.1
  results := s.results ++ [outcome.2]
  seenAccountIds := s.seenAccountIds ++ outcome.2.accountId.toList

/-- An entry of one mode that has a field of the other. -/
def SyncEntry.mixed
    (entry : SyncEntry) : Bool :=
  entry.account.isSome && (entry.brand.isSome || entry.operator.isSome || entry.billing.isSome)

/-- The pointer of an entry. -/
def entryField
    (index : Nat) : String :=
  "accounts[" ++ toString index ++ "]"

/-- What an entry does to the rows and answers. -/
def answerEntry
    (env : AccountsEnv)
    (rows : AccountRows)
    (index : Nat)
    (entry : SyncEntry)
    (proofErrors : Option (List GateFailure)) :
    Except SyncAccountsFault (AccountRows × SyncResponseAccount) :=
  if entry.mixed then
    .error (.validation (some (entryField index)) (some index))
  else
    match entry.account with
    | some ref => processSettingsUpdateEntry env rows entry ref proofErrors
    | none =>
        match entry.brand, entry.operator with
        | some brand, some operator =>
            match firstGateFailure (provisioningGates env entry proofErrors) with
            | some errors =>
                .ok (rows, buildFailedResult (.reference brand) operator entry.billing
                  entry.sandbox errors)
            | none => provision env rows index entry brand operator
        | _, _ => .error (.validation none none)

/-- One round of the loop over the entries. -/
def syncEntry
    (env : AccountsEnv)
    (dryRun : Bool)
    (before : AccountRows)
    (s : SyncState)
    (indexed : SyncEntry × Nat) : Except SyncAccountsFault SyncState :=
  (answerEntry env s.rows indexed.2 indexed.1
    (resolveActivationProofs env dryRun before indexed.2 indexed.1)).map s.record

/-- One round of the loop that closes the missing accounts. -/
def closeMissing
    (env : AccountsEnv)
    (s : SyncState)
    (account : Account) : Except SyncAccountsFault SyncState :=
  match account.brand with
  | none => .error (.configuration (some account.accountId))
  | some brand =>
      .ok { s with
        rows := s.rows.updateStatus env.tenantId account.accountId .closed
        results := s.results ++
          [{ brand := .reference brand
             operator := account.operator.getD ""
             action := .updated
             status := .closed
             accountId := some account.accountId
             name := some account.name
             billing := account.billing
             sandbox := account.sandbox }] }

/-- `delete_missing` -/
def deleteMissing
    (env : AccountsEnv)
    (s : SyncState) : Except SyncAccountsFault SyncState :=
  ((s.rows.listByPrincipal env.tenantId env.principalId).filter
    (·.accountId ∉ s.seenAccountIds)).foldlM (closeMissing env) s

/-- What the request answers. -/
structure SyncAccountsResponse where
  accounts : List SyncResponseAccount
  dryRun : Option Bool
  deriving DecidableEq

/-- The rows after the request, and its answer. -/
structure SyncAccountsOutcome where
  rows : AccountRows
  response : Except SyncAccountsFault SyncAccountsResponse

/-- What refuses the request before its first transaction. -/
def refusedRequest
    (env : AccountsEnv)
    (req : SyncAccountsRequest) : Option SyncAccountsFault :=
  if req.accounts = [] then
    some (.validation (some "accounts") none)
  else
    (req.pushNotificationConfig.bind fun config => env.refusedRegistration config.1 config.2).map
      fun half => .validation (some ("push_notification_config" ++ half)) none

/-- The entries, and the closing of the missing accounts, in the one transaction. -/
def runEntries
    (env : AccountsEnv)
    (req : SyncAccountsRequest)
    (before : AccountRows) : Except SyncAccountsFault SyncState := do
  let s ← req.accounts.zipIdx.foldlM (syncEntry env req.dryRun before) { rows := before }
  if req.deleteMissing then deleteMissing env s else pure s

/-- `_sync_accounts_impl` -/
def syncAccounts
    (env : AccountsEnv)
    (req : SyncAccountsRequest)
    (before : AccountRows) : SyncAccountsOutcome :=
  match refusedRequest env req with
  | some fault => ⟨before, .error fault⟩
  | none =>
      match runEntries env req before with
      | .error fault => ⟨before, .error fault⟩
      | .ok s =>
          ⟨if req.dryRun then before else s.rows,
            .ok ⟨s.results, if req.dryRun then some true else none⟩⟩

end Accounts
end SalesAgent
