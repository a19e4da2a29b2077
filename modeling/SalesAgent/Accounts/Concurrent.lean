import SalesAgent.Accounts.PrivateEntries
import SalesAgent.Lib.Runs

/-!
# Requests that run at the same time

Every request runs in a transaction of its own and works through its entries, a
statement at a time.  It is shown the committed accounts, with the rows it has written
itself in their place; rows that other requests have inserted and not committed are
hidden from its queries, and the unique indexes see them all the same.  A row that one
request has written is locked until that request ends, by a commit, which makes its rows
the committed ones, or otherwise, which discards them.

A provisioning entry takes a lookup by natural key, the check before the insert, the
insert in its savepoint, and after a refused insert the check once more; other requests
can do anything in between.  A statement that waits for another request takes no step
until that request has ended.

**Results.**
* `Session.acted`: what the statement that answers an entry does.
* `Session.Acted.rewrites`: it keeps the keys of the rows, and those of a new row are new.
-/

namespace SalesAgent
namespace Accounts

/-- What a challenge that was answered was sent for. -/
structure Challenge where
  accountId : String
  subscriberId : String
  url : String
  eventTypes : List String
  authentication : Option Authentication
  deriving DecidableEq, Repr

/-- The challenge of a config, in the name of an account. -/
def challengeOf
    (accountId : String)
    (config : NotificationConfig) : Challenge where
  accountId := accountId
  subscriberId := config.subscriberId
  url := config.url
  eventTypes := config.eventTypes
  authentication := config.authentication

/-- A provisioning entry that has passed its gates. -/
structure Provisioning where
  index : Nat
  entry : SyncEntry
  brand : Brand
  operator : String
  deriving DecidableEq

/-- `_extract_natural_key` -/
def Provisioning.naturalKey
    (p : Provisioning) : NaturalKey :=
  Accounts.naturalKey p.brand p.operator p.entry.sandbox

/-- How far a request is with its entry, with what it saw on the way. -/
inductive Stage
  | ready
  | missed (looked : AccountRows)
  | unoccupied (looked : AccountRows)
  | occupied (looked decided : AccountRows) (accountId : String)
  | found (looked decided : AccountRows) (existing : Account)
  | closed

/-- A request that runs. -/
structure Session where
  env : AccountsEnv
  req : SyncAccountsRequest
  before : AccountRows
  own : List Account := []
  stage : Stage := .ready
  results : List SyncResponseAccount := []

namespace Session

variable (s : Session)

/-- The entry that is next. -/
def entry : Option SyncEntry :=
  s.req.accounts[s.results.length]?

/-- The proof errors of the entry that is next. -/
def proofErrors
    (entry : SyncEntry) : Option (List GateFailure) :=
  resolveActivationProofs s.env s.req.dryRun s.before s.results.length entry

/-- The entry that is next, where it provisions and its gates let it. -/
def provisioning : Option Provisioning :=
  match s.entry with
  | none => none
  | some entry =>
      match entry.account, entry.brand, entry.operator with
      | none, some brand, some operator =>
          if firstGateFailure (provisioningGates s.env entry (s.proofErrors entry)) = none then
            some ⟨s.results.length, entry, brand, operator⟩
          else
            none
      | _, _, _ => none

/-- The row the entry would insert. -/
def newRow
    (p : Provisioning) : Account :=
  createdRow s.env p.index p.entry p.brand p.operator

/-- The key in the unique index that the entry stands for. -/
def indexKey
    (p : Provisioning) : IndexKey :=
  p.naturalKey.indexKey s.env.tenantId

/-- What a statement that reads makes of the rows it is shown. -/
def advance
    (p : Provisioning)
    (rows : AccountRows) : Option Stage :=
  match s.stage with
  | .ready =>
      match rows.getByNaturalKey s.env.tenantId p.naturalKey with
      | some existing => some (.found rows rows existing)
      | none => some (.missed rows)
  | .missed looked =>
      match rows.findNaturalKeyConflict (s.newRow p) with
      | some existing => some (.occupied looked rows existing.accountId)
      | none => some (.unoccupied looked)
  | .unoccupied looked =>
      -- the insert was refused, and the key is looked up again
      match rows.findNaturalKeyConflict (s.newRow p) with
      | some existing => some (.occupied looked rows existing.accountId)
      | none => none
  | .occupied looked decided accountId =>
      (rows.getById s.env.tenantId accountId).map (.found looked decided)
  | .found _ _ _ => none
  | .closed => none

/-- What the statement that answers the entry makes of the rows it is shown. -/
def act
    (rows : AccountRows) : Option (AccountRows × SyncResponseAccount) :=
  match s.provisioning with
  | none =>
      match s.stage, s.entry with
      | .ready, some entry =>
          (answerEntry s.env rows s.results.length entry (s.proofErrors entry)).toOption
      | _, _ => none
  | some p =>
      match s.stage with
      | .found _ _ existing =>
          (applyToExistingAccount s.env rows p.entry p.brand p.operator existing).toOption
      | .unoccupied _ =>
          match rows.create (s.newRow p) s.env.principalId with
          | .created rows' =>
              some (rows', createdResult s.env p.entry p.brand p.operator (s.newRow p))
          | _ => none
      | _ => none

/-- The accounts the results are about. -/
def seenAccountIds : List String :=
  s.results.flatMap (·.accountId.toList)

/-- The rows the request has written, once it has turned the rows it was shown into
others. -/
def wrote
    (rows rows' : AccountRows) : List Account :=
  rows'.accounts.rows.filter fun a =>
    rows'.visible a && a.tenantId = s.env.tenantId &&
      (a.accountId ∈ s.own.map (·.accountId) || a ∉ rows.accounts.rows)

/-- The request with its entry answered. -/
def answered
    (rows : AccountRows)
    (outcome : AccountRows × SyncResponseAccount) : Session :=
  { s with
    own := s.wrote rows outcome.1
    stage := .ready
    results := s.results ++ [outcome.2] }

/-- All entries are answered. -/
def Answered : Prop :=
  s.results.length = s.req.accounts.length

end Session

/-- The accounts of a tenant, the requests that run, and the challenges that were
answered. -/
structure System where
  committed : List Account
  sessions : Nat → Option Session
  proven : List Challenge

/-- The committed rows, with the written ones in their place. -/
def overlay
    (own committed : List Account) : List Account :=
  own ++ committed.filter (fun a => a.accountId ∉ own.map (·.accountId))

namespace System

variable (sys : System)

/-- A row, as committed or as a request has written it. -/
def Version
    (a : Account) : Prop :=
  a ∈ sys.committed ∨ ∃ i s, sys.sessions i = some s ∧ a ∈ s.own

/-- A row that another request has inserted. -/
def Hidden
    (i : Nat)
    (a : Account) : Prop :=
  (∃ j s, j ≠ i ∧ sys.sessions j = some s ∧ a ∈ s.own) ∧
    a.accountId ∉ sys.committed.map (·.accountId)

/-- The rows are the ones request `i`, which has written `own`, is shown, in any order. -/
structure Shows
    (tenantId : String)
    (i : Nat)
    (own : List Account)
    (rows : AccountRows) : Prop where
  visible : ∀ a, a.tenantId = tenantId →
    (a ∈ rows.accounts ∧ rows.visible a = true ↔ a ∈ overlay own sys.committed)
  hidden : ∀ a, a.tenantId = tenantId →
    (a ∈ rows.accounts ∧ rows.visible a = false ↔ sys.Hidden i a)

/-- No other request has locked one of the rows. -/
def Unlocked
    (i : Nat)
    (own : List Account) : Prop :=
  ∀ j s, j ≠ i → sys.sessions j = some s → ∀ a ∈ own,
    a.accountId ∉ s.own.map (·.accountId)

/-- The system after request `i` has gone on. -/
def put
    (i : Nat)
    (s : Session) : System :=
  { sys with sessions := fun j => if j = i then some s else sys.sessions j }

/-- The system after request `i` has ended. -/
def drop
    (i : Nat) : System :=
  { sys with sessions := fun j => if j = i then none else sys.sessions j }

end System

/-- The account id a challenge of the entry names. -/
def challengedAccountId
    (env : AccountsEnv)
    (rows : AccountRows)
    (index : Nat)
    (entry : SyncEntry) : String :=
  ((lookupExistingForEntry env rows entry).map (·.accountId)).getD (env.mintAccountId index)

/-- The active configs of the account the entry resolves to. -/
def activeConfigs
    (env : AccountsEnv)
    (rows : AccountRows)
    (entry : SyncEntry) : List NotificationConfig :=
  (((lookupExistingForEntry env rows entry).bind (·.notificationConfigs)).getD []).filter (·.active)

/-- The challenges of the request that are answered, before its transaction opens. -/
def provenChallenges
    (env : AccountsEnv)
    (req : SyncAccountsRequest)
    (rows : AccountRows) : List Challenge :=
  if req.dryRun then
    []
  else
    req.accounts.zipIdx.flatMap fun (entry, index) =>
      (entry.activating.filter fun c =>
        proofTuple c.1 ∉ (activeConfigs env rows entry).map proofTuple &&
          env.proves index (challengedAccountId env rows index entry) c.1).map
        fun c => challengeOf (challengedAccountId env rows index entry) c.1

/-- What happens. -/
inductive Event
  | opened (i : Nat) (env : AccountsEnv) (req : SyncAccountsRequest)
  | read (i : Nat)
  | answered (i : Nat) (s : Session) (rows after : AccountRows) (result : SyncResponseAccount)
  | closed (i : Nat)
  | ended (i : Nat) (committed : Bool)

/-- One statement of one request. -/
inductive Step
    (tenantId : String) : System → Event → System → Prop
  /-- the request is admitted, and its endpoints are proven -/
  | opened {sys : System} {i : Nat} {env : AccountsEnv} {req : SyncAccountsRequest}
      {before : AccountRows}
      (hfree : sys.sessions i = none)
      (htenant : env.tenantId = tenantId)
      (haccepted : refusedRequest env req = none)
      (hshows : sys.Shows tenantId i [] before) :
      Step tenantId sys (.opened i env req)
        ({ sys with proven := provenChallenges env req before ++ sys.proven }.put i
          { env := env, req := req, before := before })
  | read {sys : System} {i : Nat} {s : Session} {p : Provisioning} {rows : AccountRows}
      {stage : Stage}
      (hsession : sys.sessions i = some s)
      (hprovisioning : s.provisioning = some p)
      (hshows : sys.Shows tenantId i s.own rows)
      (hadvance : s.advance p rows = some stage) :
      Step tenantId sys (.read i) (sys.put i { s with stage := stage })
  | answered {sys : System} {i : Nat} {s : Session} {rows after : AccountRows}
      {result : SyncResponseAccount}
      (hsession : sys.sessions i = some s)
      (hshows : sys.Shows tenantId i s.own rows)
      (hact : s.act rows = some (after, result))
      (hunlocked : sys.Unlocked i (s.wrote rows after)) :
      Step tenantId sys (.answered i s rows after result)
        (sys.put i (s.answered rows (after, result)))
  /-- `delete_missing` -/
  | closed {sys : System} {i : Nat} {s : Session} {rows : AccountRows} {closed : SyncState}
      (hsession : sys.sessions i = some s)
      (hstage : s.stage = .ready)
      (hanswered : s.Answered)
      (hmissing : s.req.deleteMissing = true)
      (hshows : sys.Shows tenantId i s.own rows)
      (hclosed : deleteMissing s.env ⟨rows, s.results, s.seenAccountIds⟩ = .ok closed)
      (hunlocked : sys.Unlocked i (s.wrote rows closed.rows)) :
      Step tenantId sys (.closed i)
        (sys.put i { s with own := s.wrote rows closed.rows, stage := .closed })
  | committed {sys : System} {i : Nat} {s : Session}
      (hsession : sys.sessions i = some s)
      (hanswered : s.Answered)
      (hstage : if s.req.deleteMissing then s.stage = .closed else s.stage = .ready)
      (hlive : s.req.dryRun = false) :
      Step tenantId sys (.ended i true)
        ({ sys with committed := overlay s.own sys.committed }.drop i)
  /-- a preview, or an exception at any point -/
  | discarded {sys : System} {i : Nat} {s : Session}
      (hsession : sys.sessions i = some s) :
      Step tenantId sys (.ended i false) (sys.drop i)

section Rewrites

variable {env : AccountsEnv} {rows rows' : AccountRows}

/-- Every row stands for one that was there, under its keys, or is a new one of the tenant,
under keys that no row had. -/
structure Rewrites
    (tenantId : String)
    (rows rows' : AccountRows) : Prop where
  staged : rows'.staged = rows.staged
  stands : ∀ a' ∈ rows'.accounts,
    (∃ a ∈ rows.accounts, a.tenantId = a'.tenantId ∧ a.accountId = a'.accountId ∧
      a.indexKey = a'.indexKey) ∨
    (rows.accounts.find (a'.tenantId, a'.accountId) = none ∧
      ∀ k, a'.indexKey = some k → rows.byNaturalKey.find k = none)
  kept : ∀ a ∈ rows.accounts, ∃ a' ∈ rows'.accounts, a'.tenantId = a.tenantId ∧
    a'.accountId = a.accountId ∧ a'.indexKey = a.indexKey

theorem Rewrites.refl
    (tenantId : String)
    (rows : AccountRows) :
    Rewrites tenantId rows rows where
  staged := rfl
  stands := fun a ha => .inl ⟨a, ha, rfl, rfl, rfl⟩
  kept := fun a ha => ⟨a, ha, rfl, rfl, rfl⟩

theorem Rewrites.modify
    (tenantId : String)
    {accountId : String} {f : Account → Account}
    (hprimary : ∀ a, (f a).primaryKey = a.primaryKey)
    (hindex : ∀ a, (f a).indexKey = a.indexKey) :
    Rewrites tenantId rows (rows.modify tenantId accountId f hprimary hindex) := by
  have hsame : ∀ a : Account, (f a).tenantId = a.tenantId ∧ (f a).accountId = a.accountId := by
    intro a
    have hkey := hprimary a
    simpa only [Account.primaryKey, Option.some.injEq, Prod.mk.injEq] using hkey
  refine ⟨rfl, ?_, ?_⟩
  · intro a' ha'
    obtain ⟨a, ha, rfl⟩ := AccountRows.mem_modify.mp ha'
    refine .inl ⟨a, ha, ?_⟩
    split
    · exact ⟨(hsame a).1.symm, (hsame a).2.symm, (hindex a).symm⟩
    · exact ⟨rfl, rfl, rfl⟩
  · intro a ha
    refine ⟨_, AccountRows.mem_modify.mpr ⟨a, ha, rfl⟩, ?_⟩
    split
    · exact ⟨(hsame a).1, (hsame a).2, hindex a⟩
    · exact ⟨rfl, rfl, rfl⟩

theorem Rewrites.write
    (tenantId accountId : String)
    (changes : ResolvedFields) :
    Rewrites tenantId rows (rows.write tenantId accountId changes) := by
  unfold AccountRows.write
  split
  · exact .refl tenantId rows
  · exact .modify tenantId _ _

theorem Rewrites.insertGranted
    (tenantId : String)
    {account : Account} {principalId : String}
    (hprimary : rows.accounts.find (account.tenantId, account.accountId) = none)
    (hindex : ∀ k, account.indexKey = some k → rows.byNaturalKey.find k = none) :
    Rewrites tenantId rows (rows.insertGranted account principalId hprimary hindex) where
  staged := rfl
  stands := by
    intro a' ha'
    rcases List.mem_cons.mp ha' with rfl | hold
    · exact .inr ⟨hprimary, hindex⟩
    · exact .inl ⟨a', hold, rfl, rfl, rfl⟩
  kept := fun a ha => ⟨a, List.mem_cons_of_mem _ ha, rfl, rfl, rfl⟩

theorem Rewrites.trans
    {tenantId : String} {rows'' : AccountRows}
    (h : Rewrites tenantId rows rows')
    (h' : Rewrites tenantId rows' rows'') :
    Rewrites tenantId rows rows'' where
  staged := h'.staged.trans h.staged
  stands := by
    intro a'' ha''
    rcases h'.stands a'' ha'' with ⟨a', ha', htenant, hid, hkey⟩ | ⟨hprimary, hindex⟩
    · rcases h.stands a' ha' with ⟨a, ha, htenant', hid', hkey'⟩ | ⟨hprimary, hindex⟩
      · exact .inl ⟨a, ha, htenant'.trans htenant, hid'.trans hid, hkey'.trans hkey⟩
      · refine .inr ⟨?_, ?_⟩
        · rwa [← htenant, ← hid]
        · rwa [← hkey]
    · refine .inr ⟨?_, ?_⟩
      · refine rows.accounts.find_eq_none_iff.mpr ?_
        intro a ha hkey
        obtain ⟨a', ha', htenant, hid, -⟩ := h.kept a ha
        refine rows'.accounts.find_eq_none_iff.mp hprimary a' ha' ?_
        rw [Account.primaryKey, htenant, hid]
        exact hkey
      · intro k hk
        refine rows.byNaturalKey.find_eq_none_iff.mpr ?_
        intro a ha hkey
        obtain ⟨a', ha', -, -, hkey'⟩ := h.kept a ha
        exact rows'.byNaturalKey.find_eq_none_iff.mp (hindex k hk) a' ha' (hkey'.trans hkey)
  kept := by
    intro a ha
    obtain ⟨a', ha', htenant, hid, hkey⟩ := h.kept a ha
    obtain ⟨a'', ha'', htenant', hid', hkey'⟩ := h'.kept a' ha'
    exact ⟨a'', ha'', htenant'.trans htenant, hid'.trans hid, hkey'.trans hkey⟩

theorem deleteMissing_relates
    {R : AccountRows → AccountRows → Prop}
    (hrefl : ∀ rows, R rows rows)
    (htrans : ∀ rows rows' rows'', R rows rows' → R rows' rows'' → R rows rows'')
    (hclose : ∀ rows accountId, R rows (rows.updateStatus env.tenantId accountId .closed))
    {s s' : SyncState}
    (h : deleteMissing env s = .ok s') :
    R s.rows s'.rows := by
  unfold deleteMissing at h
  generalize (s.rows.listByPrincipal env.tenantId env.principalId).filter
    (·.accountId ∉ s.seenAccountIds) = missing at h
  induction missing generalizing s with
  | nil =>
      cases h
      exact hrefl _
  | cons account missing ih =>
      rw [List.foldlM_cons] at h
      cases hbrand : account.brand with
      | none =>
          rw [closeMissing, hbrand] at h
          cases h
      | some brand =>
          rw [closeMissing, hbrand] at h
          exact htrans _ _ _ (hclose s.rows account.accountId) (ih h)

theorem rewrites_deleteMissing
    {s s' : SyncState}
    (h : deleteMissing env s = .ok s') :
    Rewrites env.tenantId s.rows s'.rows :=
  deleteMissing_relates (.refl env.tenantId) (fun _ _ _ => .trans)
    (fun _ _ => .modify (f := fun a => { a with status := .closed }) env.tenantId
      (fun _ => rfl) (fun _ => rfl)) h

end Rewrites

section Acted

variable {s : Session} {p : Provisioning}

/-- An entry that provisions, behind its gates. -/
structure Session.Provisions
    (s : Session)
    (p : Provisioning) : Prop where
  entry : s.entry = some p.entry
  index : p.index = s.results.length
  account : p.entry.account = none
  brand : p.entry.brand = some p.brand
  operator : p.entry.operator = some p.operator
  gates : firstGateFailure (provisioningGates s.env p.entry (s.proofErrors p.entry)) = none

theorem Session.provisions
    (h : s.provisioning = some p) :
    s.Provisions p := by
  unfold Session.provisioning at h
  split at h
  · cases h
  · next entry hentry =>
      split at h
      · next brand operator haccount hbrand hoperator =>
          split at h
          · next hgates =>
              cases h
              exact ⟨hentry, rfl, haccount, hbrand, hoperator, hgates⟩
          · cases h
      · cases h

/-- What the statement that answers an entry does. -/
inductive Session.Acted
    (s : Session)
    (rows : AccountRows) : AccountRows → SyncResponseAccount → Prop
  | failed {result : SyncResponseAccount}
      (hresult : result.accountId = none)
      (haction : result.action = .failed) :
      Acted s rows rows result
  | settings {entry : SyncEntry} {ref : AccountRef} {existing : Account}
      {result : SyncResponseAccount}
      (hprovisioning : s.provisioning = none)
      (hentry : s.entry = some entry)
      (haccount : entry.account = some ref)
      (hfound : resolveSettingsUpdateTarget s.env rows ref = some existing)
      (hgates : firstGateFailure (settingsUpdateGates s.env entry (s.proofErrors entry)) = none)
      (hresult : result.accountId = some existing.accountId) :
      Acted s rows
        (rows.write s.env.tenantId existing.accountId (changesOf entry existing .settingsUpdate))
        result
  | applied {p : Provisioning} {looked decided : AccountRows} {existing : Account}
      {result : SyncResponseAccount}
      (hprovisioning : s.provisioning = some p)
      (hstage : s.stage = .found looked decided existing)
      (hresult : result.accountId = some existing.accountId)
      (haction : result.action ≠ .created) :
      Acted s rows
        (rows.write s.env.tenantId existing.accountId (changesOf p.entry existing .provisioning))
        result
  | created {p : Provisioning} {looked : AccountRows} {result : SyncResponseAccount}
      (hprovisioning : s.provisioning = some p)
      (hstage : s.stage = .unoccupied looked)
      (hprimary : rows.accounts.find ((s.newRow p).tenantId, (s.newRow p).accountId) = none)
      (hindex : ∀ k, (s.newRow p).indexKey = some k → rows.byNaturalKey.find k = none)
      (hresult : result.accountId = some (s.newRow p).accountId)
      (haction : result.action = .created) :
      Acted s rows (rows.insertGranted (s.newRow p) s.env.principalId hprimary hindex) result

theorem updateAction_ne
    (changes : ResolvedFields) :
    updateAction changes ≠ .created := by
  unfold updateAction
  split <;> decide

theorem Session.acted_of_answerEntry
    {entry : SyncEntry} {rows after : AccountRows} {result : SyncResponseAccount}
    (hentry : s.entry = some entry)
    (hprovisioning : s.provisioning = none)
    (h : answerEntry s.env rows s.results.length entry (s.proofErrors entry) =
      .ok (after, result)) :
    s.Acted rows after result := by
  unfold answerEntry at h
  split at h
  · cases h
  · cases haccount : entry.account with
    | some ref =>
        rw [haccount] at h
        simp only at h
        cases hfound : resolveSettingsUpdateTarget s.env rows ref with
        | none =>
            rw [processSettingsUpdateEntry, hfound] at h
            cases h
            exact .failed (by cases ref <;> rfl) (by cases ref <;> rfl)
        | some existing =>
            cases hbrand : existing.brand with
            | none =>
                rw [processSettingsUpdateEntry, hfound] at h
                simp only [hbrand] at h
                cases h
            | some brand =>
                rw [processSettingsUpdateEntry_of_some hfound hbrand] at h
                cases hgates : firstGateFailure
                    (settingsUpdateGates s.env entry (s.proofErrors entry)) with
                | some errors =>
                    rw [hgates] at h
                    cases h
                    exact .failed rfl rfl
                | none =>
                    rw [hgates] at h
                    cases h
                    exact .settings hprovisioning hentry haccount hfound hgates rfl
    | none =>
        rw [haccount] at h
        cases hbrand : entry.brand with
        | none =>
            rw [hbrand] at h
            cases h
        | some brand =>
            cases hoperator : entry.operator with
            | none =>
                rw [hbrand, hoperator] at h
                cases h
            | some operator =>
                rw [hbrand, hoperator] at h
                simp only at h
                cases hgates : firstGateFailure
                    (provisioningGates s.env entry (s.proofErrors entry)) with
                | some errors =>
                    rw [hgates] at h
                    cases h
                    exact .failed rfl rfl
                | none =>
                    -- such an entry would provision
                    unfold Session.provisioning at hprovisioning
                    rw [hentry] at hprovisioning
                    simp only [haccount, hbrand, hoperator, hgates] at hprovisioning
                    cases hprovisioning

theorem Session.acted
    {rows after : AccountRows} {result : SyncResponseAccount}
    (h : s.act rows = some (after, result)) :
    s.Acted rows after result := by
  unfold Session.act at h
  split at h
  · next hprovisioning =>
      split at h
      · next entry hstage hentry =>
          cases hanswer : answerEntry s.env rows s.results.length entry (s.proofErrors entry) with
          | error err =>
              rw [hanswer] at h
              cases h
          | ok outcome =>
              rw [hanswer] at h
              cases h
              exact acted_of_answerEntry hentry hprovisioning hanswer
      · cases h
  · next p hprovisioning =>
      split at h
      · next looked decided existing hstage =>
          rw [applyToExistingAccount_eq] at h
          cases h
          exact .applied hprovisioning hstage rfl (updateAction_ne _)
      · next looked hstage =>
          split at h
          · next rows' hcreate =>
              cases h
              obtain ⟨hprimary, hindex, rfl⟩ := AccountRows.create_created hcreate
              exact .created hprovisioning hstage hprimary hindex rfl rfl
          · cases h
      · cases h

theorem Session.Acted.rewrites
    {rows after : AccountRows} {result : SyncResponseAccount}
    (h : s.Acted rows after result) :
    Rewrites s.env.tenantId rows after := by
  cases h with
  | failed => exact .refl _ _
  | settings => exact .write _ _ _
  | applied => exact .write _ _ _
  | created => exact .insertGranted _ _ _

end Acted

end Accounts
end SalesAgent
