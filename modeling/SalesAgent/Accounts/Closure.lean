import SalesAgent.Accounts.Upsert

/-!
# The closing of missing accounts

A request with `delete_missing` closes the accounts its principal created that none of
its entries was answered with.  An entry that fails is answered with no account and does
not shield the one it refers to; an account that is closed is not listed again, and no
entry changes a status.

**Results.**
* `answerEntry_answered`: what an entry is answered with, and what it leaves of the rows.
* `account_closure`: what each request of a sequence closes and reports, and that what was
  closed stays closed.
* `failed_entry_does_not_shield`: an account that an entry refers to, closed.
-/

namespace SalesAgent
namespace Accounts

open Runs (Run FoldStep)

variable {env : AccountsEnv} {rows rows' rows'' before : AccountRows}
variable {entry : SyncEntry} {index : Nat}

section Statuses

/-- Two rows of one account, with one status and one creator. -/
def SameStatus
    (a a' : Account) : Prop :=
  a.tenantId = a'.tenantId ∧ a.accountId = a'.accountId ∧ a.status = a'.status ∧
    a.principalId = a'.principalId

theorem SameStatus.refl
    (a : Account) :
    SameStatus a a :=
  ⟨rfl, rfl, rfl, rfl⟩

theorem SameStatus.trans
    {a a' a'' : Account}
    (h : SameStatus a a')
    (h' : SameStatus a' a'') :
    SameStatus a a'' :=
  ⟨h.1.trans h'.1, h.2.1.trans h'.2.1, h.2.2.1.trans h'.2.2.1, h.2.2.2.trans h'.2.2.2⟩

/-- Accounts keep their statuses, and new ones satisfy a test. -/
structure StatusKept
    (new : Account → Prop)
    (rows rows' : AccountRows) : Prop where
  kept : ∀ a ∈ rows.accounts, ∃ a' ∈ rows'.accounts, SameStatus a a'
  old : ∀ a' ∈ rows'.accounts, (∃ a ∈ rows.accounts, SameStatus a a') ∨ new a'
  staged : rows.staged = [] → rows'.staged = []

theorem StatusKept.refl
    (new : Account → Prop)
    (rows : AccountRows) :
    StatusKept new rows rows where
  kept := fun a ha => ⟨a, ha, .refl a⟩
  old := fun a ha => .inl ⟨a, ha, .refl a⟩
  staged := id

/-- Accounts that are new stay new where the test looks at their statuses only. -/
theorem StatusKept.trans
    {new new' : Account → Prop}
    (h : StatusKept new rows rows')
    (h' : StatusKept new' rows' rows'')
    (hnew : ∀ a a', new a → SameStatus a a' → new' a') :
    StatusKept new' rows rows'' where
  kept := by
    intro a ha
    obtain ⟨a', ha', hsame⟩ := h.kept a ha
    obtain ⟨a'', ha'', hsame'⟩ := h'.kept a' ha'
    exact ⟨a'', ha'', hsame.trans hsame'⟩
  old := by
    intro a'' ha''
    rcases h'.old a'' ha'' with ⟨a', ha', hsame'⟩ | hn
    · rcases h.old a' ha' with ⟨a, ha, hsame⟩ | hn
      · exact .inl ⟨a, ha, hsame.trans hsame'⟩
      · exact .inr (hnew a' a'' hn hsame')
    · exact .inr hn
  staged := fun hstaged => h'.staged (h.staged hstaged)

theorem StatusKept.write
    (new : Account → Prop)
    (tenantId accountId : String)
    (changes : ResolvedFields) :
    StatusKept new rows (rows.write tenantId accountId changes) := by
  unfold AccountRows.write
  split
  · exact .refl new rows
  · refine ⟨?_, ?_, id⟩
    · intro a ha
      refine ⟨_, AccountRows.mem_modify.mpr ⟨a, ha, rfl⟩, ?_⟩
      split
      · exact ⟨rfl, rfl, rfl, rfl⟩
      · exact .refl a
    · intro a' ha'
      obtain ⟨a, ha, rfl⟩ := AccountRows.mem_modify.mp ha'
      refine .inl ⟨a, ha, ?_⟩
      split
      · exact ⟨rfl, rfl, rfl, rfl⟩
      · exact .refl a

theorem StatusKept.insertGranted
    {new : Account → Prop} {account : Account} {principalId : String}
    (hprimary : rows.accounts.find (account.tenantId, account.accountId) = none)
    (hindex : ∀ k, account.indexKey = some k → rows.byNaturalKey.find k = none)
    (hnew : new account) :
    StatusKept new rows (rows.insertGranted account principalId hprimary hindex) where
  kept := fun a ha => ⟨a, List.mem_cons_of_mem _ ha, .refl a⟩
  old := by
    intro a' ha'
    rcases List.mem_cons.mp ha' with rfl | hold
    · exact .inr hnew
    · exact .inl ⟨a', hold, .refl a'⟩
  staged := id

theorem StatusKept.committedOne
    (new : Account → Prop)
    (h : CommittedOne rows rows') :
    StatusKept new rows rows' := by
  rcases h with rfl | ⟨rival, -, -, rfl⟩
  · exact .refl new rows'
  · refine ⟨fun a ha => ⟨a, ha, .refl a⟩, fun a ha => .inl ⟨a, ha, .refl a⟩, ?_⟩
    intro hstaged
    simp only [AccountRows.commitStaged, hstaged, List.filter_nil]

end Statuses

section Answers

/-- What an entry is answered with: no account, one that it refers to, or a new one. -/
inductive EntryAnswered
    (env : AccountsEnv)
    (index : Nat)
    (entry : SyncEntry)
    (rows : AccountRows) : AccountRows → SyncResponseAccount → Prop
  | failed {result : SyncResponseAccount}
      (hresult : result.accountId = none) :
      EntryAnswered env index entry rows rows result
  | wrote {rows₀ : AccountRows} {existing : Account} {result : SyncResponseAccount}
      (changes : ResolvedFields)
      (hcommitted : CommittedOne rows rows₀)
      (hmem : existing ∈ rows.accounts)
      (htenant : existing.tenantId = env.tenantId)
      (hresult : result.accountId = some existing.accountId)
      (hstatus : result.status = existing.status) :
      EntryAnswered env index entry rows
        (rows₀.write env.tenantId existing.accountId changes) result
  | created {account : Account} {result : SyncResponseAccount}
      (hprimary : rows.accounts.find (account.tenantId, account.accountId) = none)
      (hindex : ∀ k, account.indexKey = some k → rows.byNaturalKey.find k = none)
      (htenant : account.tenantId = env.tenantId)
      (hresult : result.accountId = some account.accountId)
      (hstatus : result.status = account.status)
      (hopen : account.status ≠ .closed) :
      EntryAnswered env index entry rows
        (rows.insertGranted account env.principalId hprimary hindex) result

theorem createdRow_status
    (brand : Brand)
    (operator : String) :
    (createdRow env index entry brand operator).status ≠ .closed := by
  simp only [createdRow, buildRow]
  split <;> decide

theorem provision_answered
    {brand : Brand} {operator : String} {result : SyncResponseAccount}
    (h : provision env rows index entry brand operator = .ok (rows', result)) :
    EntryAnswered env index entry rows rows' result := by
  cases hfound : rows.getByNaturalKey env.tenantId
      (naturalKey brand operator entry.sandbox) with
  | some existing =>
      obtain ⟨hmem, -, htenant, -⟩ := AccountRows.mem_of_getByNaturalKey hfound
      rw [provision_of_found hfound, applyToExistingAccount_eq] at h
      cases h
      exact .wrote _ (.inl rfl) hmem htenant rfl rfl
  | none =>
      unfold provision at h
      rw [hfound] at h
      simp only at h
      cases hcreate : rows.create (createdRow env index entry brand operator)
          env.principalId with
      | integrityError =>
          rw [createdRow] at hcreate
          rw [hcreate] at h
          cases h
      | created rows₀ =>
          have hbuilt := hcreate
          rw [createdRow] at hbuilt
          rw [hbuilt] at h
          cases h
          obtain ⟨hprimary, hindex, rfl⟩ := AccountRows.create_created hcreate
          exact .created hprimary hindex rfl rfl rfl (createdRow_status brand operator)
      | conflict rows₀ existing =>
          have hcommitted := AccountRows.committedOne_of_conflict hcreate
          rw [createdRow] at hcreate
          rw [hcreate] at h
          simp only at h
          cases hwinner : rows₀.getById env.tenantId existing.accountId with
          | none =>
              rw [hwinner] at h
              cases h
          | some winner =>
              rw [hwinner] at h
              simp only [applyToExistingAccount_eq] at h
              cases h
              obtain ⟨⟨hmem, htenant, -⟩, -⟩ := AccountRows.getById_eq_some_iff.mp hwinner
              refine .wrote _ hcommitted ?_ htenant rfl rfl
              rcases hcommitted with rfl | ⟨_, -, -, rfl⟩
              · exact hmem
              · exact hmem

/-- What an entry is answered with. -/
theorem answerEntry_answered
    {proofErrors : Option (List GateFailure)} {result : SyncResponseAccount}
    (h : answerEntry env rows index entry proofErrors = .ok (rows', result)) :
    EntryAnswered env index entry rows rows' result := by
  unfold answerEntry at h
  by_cases hmixed : entry.mixed = true
  · rw [if_pos hmixed] at h
    cases h
  rw [if_neg hmixed] at h
  cases haccount : entry.account with
  | some ref =>
      rw [haccount] at h
      simp only at h
      cases hfound : resolveSettingsUpdateTarget env rows ref with
      | none =>
          rw [processSettingsUpdateEntry, hfound] at h
          cases h
          exact .failed (by cases ref <;> rfl)
      | some existing =>
          obtain ⟨hmem, htenant, -⟩ := answers_of_resolveSettingsUpdateTarget index haccount hfound
          cases hbrand : existing.brand with
          | none =>
              rw [processSettingsUpdateEntry, hfound] at h
              simp only [hbrand] at h
              cases h
          | some brand =>
              rw [processSettingsUpdateEntry_of_some hfound hbrand] at h
              cases hgates : firstGateFailure (settingsUpdateGates env entry proofErrors) with
              | some errors =>
                  rw [hgates] at h
                  cases h
                  exact .failed rfl
              | none =>
                  rw [hgates] at h
                  cases h
                  exact .wrote _ (.inl rfl) hmem htenant rfl rfl
  | none =>
      rw [haccount] at h
      simp only at h
      cases hbrand : entry.brand with
      | none =>
          rw [hbrand] at h
          cases h
      | some brand =>
          cases hoperator : entry.operator with
          | none =>
              rw [hbrand, hoperator] at h
              cases h
          | some operator =>
              rw [hbrand, hoperator] at h
              simp only at h
              cases hgates : firstGateFailure (provisioningGates env entry proofErrors) with
              | some errors =>
                  rw [hgates] at h
                  cases h
                  exact .failed rfl
              | none =>
                  rw [hgates] at h
                  exact provision_answered h

end Answers

section Entries

theorem EntryAnswered.statusKept
    {result : SyncResponseAccount}
    (h : EntryAnswered env index entry rows rows' result) :
    StatusKept (fun a => result.accountId = some a.accountId ∧ a.status ≠ .closed) rows rows' := by
  cases h with
  | failed => exact .refl _ rows
  | wrote changes hcommitted =>
      exact (StatusKept.committedOne (fun _ => False) hcommitted).trans (.write _ _ _ changes)
        (fun _ _ hno => hno.elim)
  | created hprimary hindex htenant hresult hstatus hopen =>
      exact .insertGranted hprimary hindex ⟨hresult, hopen⟩

/-- The account an entry is answered with has the status of the result. -/
theorem EntryAnswered.status
    {result : SyncResponseAccount}
    (h : EntryAnswered env index entry rows rows' result)
    {accountId : String}
    (hid : result.accountId = some accountId) :
    ∃ a ∈ rows'.accounts, a.tenantId = env.tenantId ∧ a.accountId = accountId ∧
      a.status = result.status := by
  cases h with
  | failed hresult =>
      rw [hresult] at hid
      cases hid
  | wrote changes hcommitted hmem htenant hresult hstatus =>
      rename_i rows₀ existing
      obtain ⟨a₀, hmem₀, hsame₀⟩ :=
        (StatusKept.committedOne (fun _ => False) hcommitted).kept existing hmem
      obtain ⟨a', hmem', hsame⟩ := (StatusKept.write (fun _ => False) env.tenantId
        existing.accountId changes).kept a₀ hmem₀
      obtain ⟨htenant', hid', hstatus', -⟩ := hsame₀.trans hsame
      rw [hresult] at hid
      cases hid
      exact ⟨a', hmem', htenant'.symm.trans htenant, hid'.symm, hstatus'.symm.trans hstatus.symm⟩
  | created hprimary hindex htenant hresult hstatus hopen =>
      rename_i account
      rw [hresult] at hid
      cases hid
      exact ⟨account, List.mem_cons_self, htenant, rfl, hstatus.symm⟩

/-- The loop over the entries: accounts keep their statuses, a new one is open and seen,
and a result has the status of its account. -/
structure Entered
    (env : AccountsEnv)
    (before : AccountRows)
    (s : SyncState) : Prop where
  kept : StatusKept (fun a => a.accountId ∈ s.seenAccountIds ∧ a.status ≠ .closed) before s.rows
  seen : s.seenAccountIds = s.results.flatMap (·.accountId.toList)
  status : ∀ r ∈ s.results, ∀ accountId, r.accountId = some accountId →
    ∃ a ∈ s.rows.accounts, a.tenantId = env.tenantId ∧ a.accountId = accountId ∧
      a.status = r.status

theorem Entered.syncEntry
    {dryRun : Bool} {s s' : SyncState} {indexed : SyncEntry × Nat}
    (h : Entered env before s)
    (hstep : syncEntry env dryRun before s indexed = .ok s') :
    Entered env before s' ∧ s'.results.length = s.results.length + 1 := by
  unfold Accounts.syncEntry at hstep
  cases hanswer : answerEntry env s.rows indexed.2 indexed.1
      (resolveActivationProofs env dryRun before indexed.2 indexed.1) with
  | error fault =>
      rw [hanswer] at hstep
      cases hstep
  | ok outcome =>
      obtain ⟨rows', result⟩ := outcome
      rw [hanswer] at hstep
      cases hstep
      have hanswered := answerEntry_answered hanswer
      have hkept := hanswered.statusKept
      refine ⟨⟨?_, ?_, ?_⟩, ?_⟩
      · refine ⟨?_, ?_, ?_⟩
        · intro a ha
          obtain ⟨a₁, ha₁, hsame⟩ := h.kept.kept a ha
          obtain ⟨a₂, ha₂, hsame'⟩ := hkept.kept a₁ ha₁
          exact ⟨a₂, ha₂, hsame.trans hsame'⟩
        · intro a₂ ha₂
          rcases hkept.old a₂ ha₂ with ⟨a₁, ha₁, hsame'⟩ | ⟨hid, hopen⟩
          · rcases h.kept.old a₁ ha₁ with ⟨a, ha, hsame⟩ | ⟨hseen, hopen⟩
            · exact .inl ⟨a, ha, hsame.trans hsame'⟩
            · refine .inr ⟨?_, ?_⟩
              · rw [← hsame'.2.1]
                exact List.mem_append_left _ hseen
              · rw [← hsame'.2.2.1]
                exact hopen
          · refine .inr ⟨List.mem_append_right _ ?_, hopen⟩
            rw [hid]
            exact List.mem_singleton_self _
        · exact fun hstaged => hkept.staged (h.kept.staged hstaged)
      · simp only [SyncState.record, h.seen, List.flatMap_append, List.flatMap_cons,
          List.flatMap_nil, List.append_nil]
      · intro r hr accountId hid
        rcases List.mem_append.mp hr with hold | hnew
        · obtain ⟨a, ha, htenant, haid, hstatus⟩ := h.status r hold accountId hid
          obtain ⟨a', ha', hsame⟩ := hkept.kept a ha
          exact ⟨a', ha', hsame.1.symm.trans htenant, hsame.2.1.symm.trans haid,
            hsame.2.2.1.symm.trans hstatus⟩
        · rw [List.mem_singleton.mp hnew] at hid ⊢
          exact hanswered.status hid
      · simp only [SyncState.record, List.length_append, List.length_singleton]

theorem Entered.entries
    {dryRun : Bool} {entries : List (SyncEntry × Nat)} {s s' : SyncState}
    (h : Entered env before s)
    (hrun : Run (FoldStep (Accounts.syncEntry env dryRun before)) s entries s') :
    Entered env before s' ∧ s'.results.length = s.results.length + entries.length := by
  induction hrun with
  | nil s => exact ⟨h, rfl⟩
  | cons hstep _ ih =>
      obtain ⟨hnext, hlength⟩ := h.syncEntry hstep
      obtain ⟨hlast, hlengths⟩ := ih hnext
      refine ⟨hlast, ?_⟩
      rw [hlengths, hlength, List.length_cons]
      omega

end Entries

section Missing

/-- The result of an account that is closed. -/
def closedResult
    (account : Account)
    (brand : Brand) : SyncResponseAccount where
  brand := .reference brand
  operator := account.operator.getD ""
  action := .updated
  status := .closed
  accountId := some account.accountId
  name := some account.name
  billing := account.billing
  sandbox := account.sandbox

/-- An account once the ones under some ids are closed. -/
def closing
    (tenantId : String)
    (accountIds : List String)
    (a : Account) : Account :=
  if a.tenantId = tenantId ∧ a.accountId ∈ accountIds then { a with status := .closed } else a

theorem closing_cons
    (tenantId accountId : String)
    (accountIds : List String)
    (a : Account) :
    closing tenantId accountIds (closing tenantId [accountId] a) =
      closing tenantId (accountId :: accountIds) a := by
  simp only [closing, List.mem_cons]
  by_cases htenant : a.tenantId = tenantId
  · by_cases hid : a.accountId = accountId
    · simp [htenant, hid]
    · simp [htenant, hid]
  · simp [htenant]

theorem mem_updateStatus
    {tenantId accountId : String} {a' : Account} :
    a' ∈ (rows.updateStatus tenantId accountId .closed).accounts ↔
      ∃ a ∈ rows.accounts, closing tenantId [accountId] a = a' := by
  have hmem : a' ∈ (rows.updateStatus tenantId accountId .closed).accounts ↔
      ∃ a ∈ rows.accounts,
        (if a.primaryKey = some (tenantId, accountId) then { a with status := .closed } else a) =
          a' :=
    AccountRows.mem_modify
  rw [hmem]
  simp only [closing, Account.primaryKey, Option.some.injEq, Prod.mk.injEq, List.mem_singleton]

/-- What closing a list of accounts leaves and reports. -/
theorem closeMissing_fold
    {missing : List Account} {s s' : SyncState}
    (h : missing.foldlM (closeMissing env) s = .ok s') :
    (∃ reported, s'.results = s.results ++ reported ∧
      reported.map (·.accountId) = missing.map (fun a => some a.accountId) ∧
      ∀ r ∈ reported, r.status = .closed) ∧
    s'.rows.staged = s.rows.staged ∧
    ∀ a', a' ∈ s'.rows.accounts ↔ ∃ a ∈ s.rows.accounts,
      closing env.tenantId (missing.map (·.accountId)) a = a' := by
  induction missing generalizing s with
  | nil =>
      cases h
      refine ⟨⟨[], by simp, rfl, fun r hr => absurd hr List.not_mem_nil⟩, rfl, ?_⟩
      intro a'
      simp [closing]
  | cons account missing ih =>
      rw [List.foldlM_cons] at h
      cases hbrand : account.brand with
      | none =>
          rw [closeMissing, hbrand] at h
          cases h
      | some brand =>
          rw [closeMissing, hbrand] at h
          obtain ⟨⟨reported, hresults, hids, hclosed⟩, hstaged, hrows⟩ := ih h
          refine ⟨⟨closedResult account brand :: reported, ?_, ?_, ?_⟩, hstaged, ?_⟩
          · rw [hresults]
            simp only [closedResult, List.append_assoc, List.singleton_append]
          · rw [List.map_cons, List.map_cons, hids]
            rfl
          · intro r hr
            rcases List.mem_cons.mp hr with rfl | hrest
            · rfl
            · exact hclosed r hrest
          · intro a'
            rw [hrows a']
            constructor
            · rintro ⟨b, hb, rfl⟩
              obtain ⟨a, ha, rfl⟩ := mem_updateStatus.mp hb
              exact ⟨a, ha, (closing_cons env.tenantId account.accountId _ a).symm⟩
            · rintro ⟨a, ha, rfl⟩
              exact ⟨_, mem_updateStatus.mpr ⟨a, ha, rfl⟩,
                closing_cons env.tenantId account.accountId _ a⟩

end Missing

section Closure

/-- The account under an id is closed. -/
def AccountRows.Closed
    (rows : AccountRows)
    (tenantId accountId : String) : Prop :=
  ∃ a, rows.accounts.find (tenantId, accountId) = some a ∧ a.status = .closed

/-- An account the principal created that is not closed and that no result is about. -/
def AccountRows.Missing
    (rows : AccountRows)
    (env : AccountsEnv)
    (answered : List SyncResponseAccount)
    (accountId : String) : Prop :=
  (∃ a, rows.accounts.find (env.tenantId, accountId) = some a ∧
    a.principalId = some env.principalId ∧ a.status ≠ .closed) ∧
  ∀ r ∈ answered, r.accountId ≠ some accountId

/-- What a live request with `delete_missing` closes and reports.  The answers to its
entries come first in its response. -/
structure ClosesMissing
    (env : AccountsEnv)
    (req : SyncAccountsRequest)
    (rows : AccountRows)
    (response : SyncAccountsResponse) : Prop where
  closes : ∀ tenantId accountId, (syncAccounts env req rows).rows.Closed tenantId accountId ↔
    rows.Closed tenantId accountId ∨ tenantId = env.tenantId ∧
      rows.Missing env (response.accounts.take req.accounts.length) accountId
  reports : ∀ accountId,
    some accountId ∈ (response.accounts.drop req.accounts.length).map (·.accountId) ↔
      rows.Missing env (response.accounts.take req.accounts.length) accountId
  once : ((response.accounts.drop req.accounts.length).map (·.accountId)).Nodup
  closed : ∀ r ∈ response.accounts.drop req.accounts.length, r.status = .closed

/-- The accounts that are closed, where accounts keep their statuses and new ones are
open. -/
theorem StatusKept.closed_iff
    {new : Account → Prop}
    (h : StatusKept new rows rows')
    (hnew : ∀ a, new a → a.status ≠ .closed)
    (tenantId accountId : String) :
    rows'.Closed tenantId accountId ↔ rows.Closed tenantId accountId := by
  constructor
  · rintro ⟨a', hfind, hclosed⟩
    obtain ⟨hmem, htenant, hid⟩ := AccountRows.find_eq_some_iff.mp hfind
    rcases h.old a' hmem with ⟨a, ha, hsame⟩ | hn
    · exact ⟨a, AccountRows.find_eq_some_iff.mpr
        ⟨ha, hsame.1.trans htenant, hsame.2.1.trans hid⟩, hsame.2.2.1.trans hclosed⟩
    · exact absurd hclosed (hnew a' hn)
  · rintro ⟨a, hfind, hclosed⟩
    obtain ⟨hmem, htenant, hid⟩ := AccountRows.find_eq_some_iff.mp hfind
    obtain ⟨a', ha', hsame⟩ := h.kept a hmem
    exact ⟨a', AccountRows.find_eq_some_iff.mpr
      ⟨ha', hsame.1.symm.trans htenant, hsame.2.1.symm.trans hid⟩,
      hsame.2.2.1.symm.trans hclosed⟩

theorem runEntries_eq_ok
    {req : SyncAccountsRequest} {s : SyncState}
    (h : runEntries env req before = .ok s) :
    ∃ entered, Entered env before entered ∧
      entered.results.length = req.accounts.length ∧
      (if req.deleteMissing then deleteMissing env entered else .ok entered) = .ok s := by
  unfold runEntries at h
  cases hloop : req.accounts.zipIdx.foldlM (syncEntry env req.dryRun before)
      { rows := before } with
  | error fault =>
      rw [hloop] at h
      cases h
  | ok entered =>
      rw [hloop] at h
      have hinit : Entered env before { rows := before } :=
        ⟨.refl _ before, rfl, fun r hr => absurd hr List.not_mem_nil⟩
      obtain ⟨hentered, hlength⟩ := hinit.entries (Runs.run_of_foldlM hloop)
      refine ⟨entered, hentered, ?_, ?_⟩
      · rw [hlength, List.length_zipIdx]
        exact Nat.zero_add _
      · simp only [Bind.bind, Except.bind] at h
        split
        · next hmissing =>
            rw [if_pos hmissing] at h
            exact h
        · next hmissing =>
            rw [if_neg hmissing] at h
            exact h

theorem syncAccounts_cases
    (env : AccountsEnv)
    (req : SyncAccountsRequest)
    (rows : AccountRows) :
    (∃ fault, syncAccounts env req rows = ⟨rows, .error fault⟩) ∨
      ∃ s, runEntries env req rows = .ok s ∧
        syncAccounts env req rows = ⟨if req.dryRun then rows else s.rows,
          .ok ⟨s.results, if req.dryRun then some true else none⟩⟩ := by
  unfold syncAccounts
  cases refusedRequest env req with
  | some fault => exact .inl ⟨fault, rfl⟩
  | none =>
      cases hrun : runEntries env req rows with
      | error fault => exact .inl ⟨fault, rfl⟩
      | ok s => exact .inr ⟨s, rfl, rfl⟩

theorem mem_missing
    {s : SyncState}
    (h : Entered env before s)
    (hstaged : before.staged = [])
    (accountId : String) :
    accountId ∈ ((s.rows.listByPrincipal env.tenantId env.principalId).filter
        (·.accountId ∉ s.seenAccountIds)).map (·.accountId) ↔
      before.Missing env s.results accountId := by
  have hseen : ∀ id, id ∈ s.seenAccountIds ↔ ∃ r ∈ s.results, r.accountId = some id := by
    intro id
    rw [h.seen, List.mem_flatMap]
    simp only [Option.mem_toList]
  have hvisible : ∀ a, s.rows.visible a = true := by
    intro a
    rw [AccountRows.visible, h.kept.staged hstaged]
    exact decide_eq_true List.not_mem_nil
  simp only [List.mem_map, List.mem_filter, AccountRows.listByPrincipal, Bool.and_eq_true,
    decide_eq_true_eq, hvisible, true_and]
  constructor
  · rintro ⟨a', ⟨⟨hmem, ⟨htenant, hprincipal⟩, hopen⟩, hunseen⟩, rfl⟩
    refine ⟨?_, fun r hr hid => hunseen ((hseen _).mpr ⟨r, hr, hid⟩)⟩
    rcases h.kept.old a' hmem with ⟨a, ha, hsame⟩ | ⟨hin, -⟩
    · exact ⟨a, AccountRows.find_eq_some_iff.mpr ⟨ha, hsame.1.trans htenant, hsame.2.1⟩,
        hsame.2.2.2.trans hprincipal, by rw [hsame.2.2.1]; exact hopen⟩
    · exact absurd hin hunseen
  · rintro ⟨⟨a, hfind, hprincipal, hopen⟩, hunseen⟩
    obtain ⟨hmem, htenant, rfl⟩ := AccountRows.find_eq_some_iff.mp hfind
    obtain ⟨a', ha', hsame⟩ := h.kept.kept a hmem
    refine ⟨a', ⟨⟨ha', ⟨hsame.1.symm.trans htenant, hsame.2.2.2.symm.trans hprincipal⟩, ?_⟩, ?_⟩,
      hsame.2.1.symm⟩
    · rw [← hsame.2.2.1]
      exact hopen
    · rw [← hsame.2.1]
      intro hin
      obtain ⟨r, hr, hid⟩ := (hseen _).mp hin
      exact hunseen r hr hid

/-- Each account is listed once. -/
theorem nodup_missing
    (env : AccountsEnv)
    (s : SyncState) :
    (((s.rows.listByPrincipal env.tenantId env.principalId).filter
      (·.accountId ∉ s.seenAccountIds)).map (·.accountId)).Nodup := by
  rw [List.Nodup, List.pairwise_map]
  have hunique : ((s.rows.listByPrincipal env.tenantId env.principalId).filter
      (·.accountId ∉ s.seenAccountIds)).Pairwise
        (fun a a' => ∀ k, a.primaryKey = some k → a'.primaryKey ≠ some k) :=
    s.rows.accounts.unique.sublist (List.filter_sublist.trans List.filter_sublist)
  have htenant : ∀ a ∈ (s.rows.listByPrincipal env.tenantId env.principalId).filter
      (·.accountId ∉ s.seenAccountIds), a.tenantId = env.tenantId := by
    intro a ha
    obtain ⟨-, hcond⟩ := List.mem_filter.mp (List.mem_of_mem_filter ha)
    simp only [Bool.and_eq_true, decide_eq_true_eq] at hcond
    exact hcond.1.1.2
  refine hunique.imp_of_mem ?_
  intro a a' ha ha' hkeys hid
  refine hkeys (a.tenantId, a.accountId) rfl ?_
  rw [Account.primaryKey, htenant a' ha', ← htenant a ha, ← hid]

/-- A live request with `delete_missing` that answers. -/
theorem closesMissing
    {req : SyncAccountsRequest} {response : SyncAccountsResponse}
    (hstaged : rows.staged = [])
    (hmissing : req.deleteMissing = true)
    (hlive : req.dryRun = false)
    (hresponse : (syncAccounts env req rows).response = .ok response) :
    ClosesMissing env req rows response := by
  rcases syncAccounts_cases env req rows with ⟨fault, hrun⟩ | ⟨s, hrun, hanswer⟩
  · rw [hrun] at hresponse
    cases hresponse
  obtain ⟨entered, hentered, hlength, hclose⟩ := runEntries_eq_ok hrun
  rw [if_pos hmissing] at hclose
  obtain ⟨⟨reported, hresults, hids, hclosed⟩, -, hrows⟩ := closeMissing_fold hclose
  have hrowsEq : (syncAccounts env req rows).rows = s.rows := by
    rw [hanswer, hlive]
    rfl
  rw [hanswer] at hresponse
  cases hresponse
  have htake : s.results.take req.accounts.length = entered.results := by
    rw [hresults, ← hlength, List.take_left]
  have hdrop : s.results.drop req.accounts.length = reported := by
    rw [hresults, ← hlength, List.drop_left]
  have hlisted := mem_missing hentered hstaged
  refine ⟨?_, ?_, ?_, ?_⟩
  · intro tenantId accountId
    rw [hrowsEq, htake, ← hentered.kept.closed_iff (fun a ha => ha.2) tenantId accountId,
      ← hlisted accountId]
    constructor
    · rintro ⟨a', hfind, hstatus⟩
      obtain ⟨hmem, htenant, hid⟩ := AccountRows.find_eq_some_iff.mp hfind
      obtain ⟨a, ha, rfl⟩ := (hrows a').mp hmem
      unfold closing at htenant hid hstatus
      split at hstatus
      · next hin =>
          rw [if_pos hin] at htenant hid
          rw [← htenant, ← hid]
          exact .inr hin
      · next hout =>
          rw [if_neg hout] at htenant hid
          exact .inl ⟨a, AccountRows.find_eq_some_iff.mpr ⟨ha, htenant, hid⟩, hstatus⟩
    · rintro (⟨a, hfind, hstatus⟩ | ⟨rfl, hin⟩)
      · obtain ⟨hmem, htenant, hid⟩ := AccountRows.find_eq_some_iff.mp hfind
        refine ⟨_, AccountRows.find_eq_some_iff.mpr ⟨(hrows _).mpr ⟨a, hmem, rfl⟩, ?_, ?_⟩, ?_⟩
        · unfold closing
          split <;> exact htenant
        · unfold closing
          split <;> exact hid
        · unfold closing
          split
          · rfl
          · exact hstatus
      · obtain ⟨a, ha, rfl⟩ := List.mem_map.mp hin
        obtain ⟨hmem, hcond⟩ := List.mem_filter.mp (List.mem_of_mem_filter ha)
        simp only [Bool.and_eq_true, decide_eq_true_eq] at hcond
        have hboth : a.tenantId = env.tenantId ∧ a.accountId ∈ _ := ⟨hcond.1.1.2, hin⟩
        refine ⟨{ a with status := .closed }, AccountRows.find_eq_some_iff.mpr
          ⟨(hrows _).mpr ⟨a, hmem, ?_⟩, hboth.1, rfl⟩, rfl⟩
        rw [closing, if_pos hboth]
  · intro accountId
    rw [htake, hdrop, ← hlisted accountId, hids, List.mem_map, List.mem_map]
    simp only [Option.some.injEq]
  · rw [hdrop, hids]
    have hnodup := (nodup_missing env entered).map (Option.some_injective _)
    rwa [List.map_map] at hnodup
  · rw [hdrop]
    exact hclosed

theorem closed_of_not_closing
    {req : SyncAccountsRequest}
    (h : req.deleteMissing = false ∨ req.dryRun = true ∨
      ∃ fault, (syncAccounts env req rows).response = .error fault)
    (tenantId accountId : String) :
    (syncAccounts env req rows).rows.Closed tenantId accountId ↔
      rows.Closed tenantId accountId := by
  rcases syncAccounts_cases env req rows with ⟨fault, hrun⟩ | ⟨s, hrun, hanswer⟩
  · rw [hrun]
  · obtain ⟨entered, hentered, -, hclose⟩ := runEntries_eq_ok hrun
    rw [hanswer] at h ⊢
    cases hdry : req.dryRun with
    | true => rfl
    | false =>
        rcases h with hno | hdry' | ⟨fault, hfault⟩
        · rw [hno] at hclose
          cases hclose
          exact hentered.kept.closed_iff (fun a ha => ha.2) tenantId accountId
        · rw [hdry] at hdry'
          cases hdry'
        · cases hfault

/-- A closed account stays closed, and every result about it says so. -/
theorem Closed.syncAccounts
    {accountId : String}
    (hclosed : rows.Closed env.tenantId accountId)
    (hstaged : rows.staged = [])
    (req : SyncAccountsRequest) :
    (Accounts.syncAccounts env req rows).rows.Closed env.tenantId accountId ∧
      ∀ response, (Accounts.syncAccounts env req rows).response = .ok response →
        ∀ r ∈ response.accounts, r.accountId = some accountId → r.status = .closed := by
  refine ⟨?_, ?_⟩
  · cases hresponse : (Accounts.syncAccounts env req rows).response with
    | error fault =>
        exact (closed_of_not_closing (.inr (.inr ⟨fault, hresponse⟩)) _ _).mpr hclosed
    | ok response =>
        cases hmissing : req.deleteMissing with
        | false => exact (closed_of_not_closing (.inl hmissing) _ _).mpr hclosed
        | true =>
            cases hlive : req.dryRun with
            | true => exact (closed_of_not_closing (.inr (.inl hlive)) _ _).mpr hclosed
            | false =>
                exact ((closesMissing hstaged hmissing hlive hresponse).closes _ _).mpr
                  (.inl hclosed)
  · intro response hresponse r hr hid
    rcases syncAccounts_cases env req rows with ⟨fault, hrun⟩ | ⟨s, hrun, hanswer⟩
    · rw [hrun] at hresponse
      cases hresponse
    rw [hanswer] at hresponse
    cases hresponse
    obtain ⟨entered, hentered, -, hclose⟩ := runEntries_eq_ok hrun
    -- an entry was answered with the account, or it was closed by the request
    have hentry : ∀ r ∈ entered.results, r.accountId = some accountId → r.status = .closed := by
      intro r hr hid
      obtain ⟨a, ha, htenant, haid, hstatus⟩ := hentered.status r hr accountId hid
      obtain ⟨b, hfind, hb⟩ :=
        (hentered.kept.closed_iff (fun a ha => ha.2) env.tenantId accountId).mpr hclosed
      obtain ⟨hbmem, hbtenant, hbid⟩ := AccountRows.find_eq_some_iff.mp hfind
      have hsame := entered.rows.eq_of_accountId ha hbmem (htenant.trans hbtenant.symm)
        (haid.trans hbid.symm)
      rw [← hstatus, hsame]
      exact hb
    cases hmissing : req.deleteMissing with
    | false =>
        rw [hmissing] at hclose
        cases hclose
        exact hentry r hr hid
    | true =>
        rw [if_pos hmissing] at hclose
        obtain ⟨⟨reported, hresults, -, hreported⟩, -, -⟩ := closeMissing_fold hclose
        rw [hresults] at hr
        rcases List.mem_append.mp hr with hold | hnew
        · exact hentry r hold hid
        · exact hreported r hnew

/-- No request of the sequence leaves rows of another transaction. -/
theorem staged_syncAccounts
    (hstaged : rows.staged = [])
    (req : SyncAccountsRequest) :
    (syncAccounts env req rows).rows.staged = [] := by
  rcases syncAccounts_cases env req rows with ⟨fault, hrun⟩ | ⟨s, hrun, hanswer⟩
  · rw [hrun]
    exact hstaged
  · rw [hanswer]
    cases req.dryRun with
    | true => exact hstaged
    | false =>
        obtain ⟨entered, hentered, -, hclose⟩ := runEntries_eq_ok hrun
        have hnone := hentered.kept.staged hstaged
        cases hmissing : req.deleteMissing with
        | false =>
            rw [hmissing] at hclose
            cases hclose
            exact hnone
        | true =>
            rw [if_pos hmissing] at hclose
            exact (closeMissing_fold hclose).2.1.trans hnone

/-- The requests of the principals of a tenant, one after the other. -/
def Requests
    (tenantId : String)
    (rows : AccountRows)
    (e : AccountsEnv × SyncAccountsRequest)
    (rows' : AccountRows) : Prop :=
  e.1.tenantId = tenantId ∧ rows' = (syncAccounts e.1 e.2 rows).rows

/-- In every state that a sequence of requests reaches, a live request with
`delete_missing` closes exactly the accounts its principal created that no entry was
answered with, and reports each once; any other closes nothing; and what was closed when
the sequence began is still closed, and answered as closed. -/
theorem account_closure
    {tenantId : String} {start : AccountRows} {es : List (AccountsEnv × SyncAccountsRequest)}
    (hstaged : start.staged = [])
    (hrun : Run (Requests tenantId) start es rows) :
    (∀ env req response, env.tenantId = tenantId → req.deleteMissing = true →
      req.dryRun = false → (syncAccounts env req rows).response = .ok response →
      ClosesMissing env req rows response) ∧
    (∀ env req, env.tenantId = tenantId → req.deleteMissing = false ∨ req.dryRun = true ∨
        (∃ fault, (syncAccounts env req rows).response = .error fault) →
      ∀ otherId accountId, (syncAccounts env req rows).rows.Closed otherId accountId ↔
        rows.Closed otherId accountId) ∧
    (∀ accountId, start.Closed tenantId accountId → rows.Closed tenantId accountId ∧
      ∀ env req response, env.tenantId = tenantId →
        (syncAccounts env req rows).response = .ok response →
        ∀ r ∈ response.accounts, r.accountId = some accountId → r.status = .closed) := by
  have halone : Runs.Preserved (Requests tenantId) (fun s => s.staged = []) := by
    rintro s e t ⟨-, rfl⟩ hs
    exact staged_syncAccounts hs e.2
  have hnone : rows.staged = [] := hrun.preserves halone hstaged
  refine ⟨?_, ?_, ?_⟩
  · intro env req response _ hmissing hlive hresponse
    exact closesMissing hnone hmissing hlive hresponse
  · intro env req _ h otherId accountId
    exact closed_of_not_closing h otherId accountId
  · intro accountId hclosed
    have hkeeps : Runs.Preserved (Requests tenantId)
        (fun s => s.staged = [] ∧ s.Closed tenantId accountId) := by
      rintro s e t ⟨rfl, rfl⟩ ⟨hs, hc⟩
      exact ⟨staged_syncAccounts hs e.2, (Closed.syncAccounts hc hs e.2).1⟩
    have hstill : rows.staged = [] ∧ rows.Closed tenantId accountId :=
      hrun.preserves hkeeps ⟨hstaged, hclosed⟩
    refine ⟨hstill.2, ?_⟩
    rintro env req response rfl hresponse
    exact (Closed.syncAccounts hstill.2 hstill.1 req).2 response hresponse

/-- An account of the principal, in some status. -/
def ownAccount
    (status : AccountStatus) : Account :=
  { sparkAccount with status := status, principalId := some "buyer" }

/-- The account is named by an entry that may not set the sandbox flag. -/
def refusedEntry : SyncEntry where
  account := some (.byId "spark")
  sandbox := some true

def closingRequest : SyncAccountsRequest where
  accounts := [refusedEntry]
  deleteMissing := true

theorem closingRequest_rows :
    (syncAccounts upsertEnv closingRequest (singleRows (ownAccount .active))).rows.accounts.rows =
      [ownAccount .closed] := by
  decide +kernel

/-- The request closes the account, which then stays closed. -/
theorem account_closure_of_ownAccount :
    (∀ response, (syncAccounts upsertEnv closingRequest
          (singleRows (ownAccount .active))).response = .ok response →
        ClosesMissing upsertEnv closingRequest (singleRows (ownAccount .active)) response) ∧
      ∃ rows : AccountRows, rows.Closed "t" "spark" ∧
        ∀ env req response, env.tenantId = "t" →
          (syncAccounts env req rows).response = .ok response →
          ∀ r ∈ response.accounts, r.accountId = some "spark" → r.status = .closed := by
  have hclosed : (syncAccounts upsertEnv closingRequest
      (singleRows (ownAccount .active))).rows.Closed "t" "spark" := by
    refine ⟨ownAccount .closed, ?_, rfl⟩
    rw [IndexedTable.find, closingRequest_rows]
    rfl
  have hrun : Run (Requests "t")
      (syncAccounts upsertEnv closingRequest (singleRows (ownAccount .active))).rows
      [(upsertEnv, closingRequest)] _ := .single ⟨rfl, rfl⟩
  exact ⟨fun response => (account_closure rfl (.nil _)).1 upsertEnv closingRequest response
      (rfl : _ = "t") rfl rfl,
    _, (account_closure (staged_syncAccounts rfl _) hrun).2.2 "spark" hclosed⟩

/-- An entry that fails refers to an account, and the request closes it. -/
theorem failed_entry_does_not_shield :
    ¬ ∀ env req rows response, rows.staged = [] → req.deleteMissing = true →
      req.dryRun = false → (syncAccounts env req rows).response = .ok response →
      ∀ a ∈ rows.accounts, a.status ≠ .closed →
        (∃ entry index, (entry, index) ∈ req.accounts.zipIdx ∧ entry.AnsweredBy env index a) →
        ¬ (syncAccounts env req rows).rows.Closed a.tenantId a.accountId := by
  intro h
  have hanswers : (syncAccounts upsertEnv closingRequest
      (singleRows (ownAccount .active))).response.toOption.isSome = true := by
    decide +kernel
  cases hresponse : (syncAccounts upsertEnv closingRequest
      (singleRows (ownAccount .active))).response with
  | error fault =>
      rw [hresponse] at hanswers
      cases hanswers
  | ok response =>
      refine h upsertEnv closingRequest _ response rfl rfl rfl hresponse (ownAccount .active)
        (List.mem_singleton_self _) (by decide)
        ⟨refusedEntry, 0, List.mem_singleton_self _, rfl⟩ ⟨ownAccount .closed, ?_, rfl⟩
      rw [IndexedTable.find, closingRequest_rows]
      rfl

end Closure

end Accounts
end SalesAgent
