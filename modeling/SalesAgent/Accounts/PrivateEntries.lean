import SalesAgent.Accounts.Access

/-!
# Entries that name no one else's account

Most of what an entry does follows from what it can find.  Where no account of someone
else answers to it, it finds the same in all stores that look the same to the principal,
writes to accounts of the principal only, and leaves every other account as it is, so
that the entries after it are as private as they were.

**Results.**
* `answerEntry_wrote`: what an entry can do to the rows.
* `answerEntry_alike`: a private entry answers alike in stores that look the same.
-/

namespace SalesAgent
namespace Accounts

open TwoRuns (Alike)

variable {env : AccountsEnv} {rows rows' before before' : AccountRows}
variable {entry : SyncEntry} {index : Nat}

section Write

/-- The rows after the changes were written. -/
def AccountRows.write
    (rows : AccountRows)
    (tenantId accountId : String)
    (changes : ResolvedFields) : AccountRows :=
  if changes = {} then
    rows
  else
    rows.modify tenantId accountId (·.applyFields changes)
      (applyFields_primaryKey changes) (applyFields_indexKey changes)

theorem changed_sandbox
    (entry : SyncEntry)
    (existing : Account)
    (mode : EntryMode) :
    ((resolveEntryChanges entry (some existing) mode).changed existing).sandbox = none := by
  cases mode <;> rfl

theorem writeChanges_eq
    {existing : Account} {changes : ResolvedFields}
    (h : changes.sandbox = none) :
    writeChanges env rows existing changes =
      .ok (rows.write env.tenantId existing.accountId changes, existing.applyFields changes) := by
  unfold writeChanges AccountRows.write
  split
  · next hempty =>
      rw [hempty]
      rfl
  · rw [AccountRows.updateFields, h]
    rfl

theorem SameView.write
    (h : SameView env rows rows')
    (accountId : String)
    (changes : ResolvedFields) :
    SameView env (rows.write env.tenantId accountId changes)
      (rows'.write env.tenantId accountId changes) := by
  unfold AccountRows.write
  split
  · exact h
  · exact h.modify (fun _ => rfl)

end Write

section Wrote

/-- The rows after another transaction may have committed an account with a brand. -/
def CommittedOne
    (rows rows' : AccountRows) : Prop :=
  rows' = rows ∨ ∃ rival ∈ rows.accounts, rival.brand.isSome ∧ rows' = rows.commitStaged rival

/-- What an entry does: nothing, to no account; writes to an account that answers to it;
or the creation of one. -/
inductive EntryWrote
    (env : AccountsEnv)
    (index : Nat)
    (entry : SyncEntry)
    (rows : AccountRows) : AccountRows → Option String → Prop
  | nothing : EntryWrote env index entry rows rows none
  | wrote
      {rows₀ : AccountRows} {existing : Account}
      (changes : ResolvedFields)
      (hcommitted : CommittedOne rows rows₀)
      (hmem : existing ∈ rows.accounts)
      (htenant : existing.tenantId = env.tenantId)
      (hbrand : existing.brand.isSome)
      (hanswers : entry.AnsweredBy env index existing) :
      EntryWrote env index entry rows
        (rows₀.write env.tenantId existing.accountId changes) (some existing.accountId)
  | created
      {account : Account} {brand : Brand} {operator : String}
      (hprimary : rows.accounts.find (account.tenantId, account.accountId) = none)
      (hindex : ∀ k, account.indexKey = some k → rows.byNaturalKey.find k = none)
      (haccount : entry.account = none)
      (hbrand : entry.brand = some brand)
      (hoperator : entry.operator = some operator)
      (hkey : account.indexKey =
        some ((naturalKey brand operator entry.sandbox).indexKey env.tenantId))
      (hid : account.accountId = env.mintAccountId index)
      (htenant : account.tenantId = env.tenantId)
      (hprincipal : account.principalId = some env.principalId)
      (hgate : account.brand.isSome) :
      EntryWrote env index entry rows
        (rows.insertGranted account env.principalId hprimary hindex) (some account.accountId)

theorem brand_of_matches
    {key : NaturalKey} {a : Account}
    (h : key.matches a = true) :
    a.brand.isSome := by
  simp only [NaturalKey.matches, Bool.and_eq_true, Option.any_eq_true] at h
  obtain ⟨⟨-, brand, hbrand, -⟩, -⟩ := h
  rw [hbrand]
  rfl

theorem brand_of_indexKey
    {a : Account} {k : IndexKey}
    (h : a.indexKey = some k) :
    a.brand.isSome := by
  obtain ⟨brand, hbrand, -⟩ := Option.map_eq_some_iff.mp h
  rw [hbrand]
  rfl

theorem AccountRows.create_created
    {account : Account} {principalId : String}
    (h : rows.create account principalId = .created rows') :
    ∃ hprimary hindex, rows' = rows.insertGranted account principalId hprimary hindex := by
  unfold AccountRows.create at h
  split at h
  · cases h
  · split at h
    · next hprimary =>
        split at h
        · split at h <;> cases h
        · cases h
          exact ⟨_, _, rfl⟩
    · cases h

theorem AccountRows.committedOne_of_conflict
    {account existing : Account} {principalId : String}
    (h : rows.create account principalId = .conflict rows' existing) :
    CommittedOne rows rows' := by
  unfold AccountRows.create at h
  split at h
  · cases h
    exact .inl rfl
  · split at h
    · split at h
      · next rival hrival =>
          split at h
          · cases h
            obtain ⟨k, hk, hfind⟩ := Option.bind_eq_some_iff.mp hrival
            obtain ⟨hmem, hkey⟩ := rows.byNaturalKey.find_eq_some_iff.mp hfind
            exact .inr ⟨rival, hmem, brand_of_indexKey hkey, rfl⟩
          · cases h
      · cases h
    · cases h

/-- The changes an entry makes to an account that exists. -/
def changesOf
    (entry : SyncEntry)
    (existing : Account)
    (mode : EntryMode) : ResolvedFields :=
  (resolveEntryChanges entry (some existing) mode).changed existing

theorem applyToExistingAccount_eq
    (rows : AccountRows)
    (brand : Brand)
    (operator : String)
    (existing : Account) :
    applyToExistingAccount env rows entry brand operator existing =
      .ok (rows.write env.tenantId existing.accountId (changesOf entry existing .provisioning),
        buildUpdateResult brand operator
          (existing.applyFields (changesOf entry existing .provisioning))
          (changesOf entry existing .provisioning)) := by
  rw [applyToExistingAccount, writeChanges_eq (changed_sandbox entry existing .provisioning)]
  rfl

theorem processSettingsUpdateEntry_of_some
    {ref : AccountRef} {existing : Account} {brand : Brand}
    {proofErrors : Option (List GateFailure)}
    (hfound : resolveSettingsUpdateTarget env rows ref = some existing)
    (hbrand : existing.brand = some brand) :
    processSettingsUpdateEntry env rows entry ref proofErrors =
      match firstGateFailure (settingsUpdateGates env entry proofErrors) with
      | some errors =>
          .ok (rows, buildFailedResult (.reference brand) (existing.operator.getD "")
            existing.billing existing.sandbox errors)
      | none =>
          .ok (rows.write env.tenantId existing.accountId
              (changesOf entry existing .settingsUpdate),
            settingsUpdateResult brand
              (existing.applyFields (changesOf entry existing .settingsUpdate))
              (changesOf entry existing .settingsUpdate)) := by
  simp only [processSettingsUpdateEntry, hfound, hbrand,
    writeChanges_eq (changed_sandbox entry existing .settingsUpdate)]
  rfl

theorem answers_of_resolveSettingsUpdateTarget
    (index : Nat)
    {ref : AccountRef} {existing : Account}
    (haccount : entry.account = some ref)
    (h : resolveSettingsUpdateTarget env rows ref = some existing) :
    existing ∈ rows.accounts ∧ existing.tenantId = env.tenantId ∧
      entry.AnsweredBy env index existing := by
  cases ref with
  | byId accountId =>
      obtain ⟨⟨hmem, htenant, hid⟩, -⟩ := AccountRows.getById_eq_some_iff.mp h
      refine ⟨hmem, htenant, ?_⟩
      simpa only [SyncEntry.AnsweredBy, haccount] using hid
  | byNaturalKey brand operator sandbox =>
      obtain ⟨hmem, -, htenant, hmatches⟩ := AccountRows.mem_of_getByNaturalKey h
      refine ⟨hmem, htenant, ?_⟩
      simpa only [SyncEntry.AnsweredBy, haccount] using hmatches

/-- The row a provisioning entry would create. -/
def createdRow
    (env : AccountsEnv)
    (index : Nat)
    (entry : SyncEntry)
    (brand : Brand)
    (operator : String) : Account :=
  buildRow env (env.mintAccountId index) brand operator
    (resolveEntryChanges entry none .provisioning)

section Provision

variable {brand : Brand} {operator : String}

theorem createdRow_indexKey :
    (createdRow env index entry brand operator).indexKey =
      some ((naturalKey brand operator entry.sandbox).indexKey env.tenantId) :=
  rfl

theorem provision_of_found
    {existing : Account}
    (hfound : rows.getByNaturalKey env.tenantId (naturalKey brand operator entry.sandbox) =
      some existing) :
    provision env rows index entry brand operator =
      applyToExistingAccount env rows entry brand operator existing := by
  rw [provision, hfound]

theorem provision_of_conflict
    {existing : Account} {rows₀ : AccountRows}
    (hfound : rows.getByNaturalKey env.tenantId (naturalKey brand operator entry.sandbox) = none)
    (hcreate : rows.create (createdRow env index entry brand operator) env.principalId =
      .conflict rows₀ existing)
    (hmem : existing ∈ rows₀.accounts)
    (htenant : existing.tenantId = env.tenantId)
    (hvisible : rows₀.visible existing = true) :
    provision env rows index entry brand operator =
      applyToExistingAccount env rows₀ entry brand operator existing := by
  have hwinner := AccountRows.getById_of_visible hmem hvisible
  rw [htenant] at hwinner
  rw [createdRow] at hcreate
  simp only [provision, hfound, hcreate, hwinner]

theorem provision_of_free
    (hfound : rows.getByNaturalKey env.tenantId (naturalKey brand operator entry.sandbox) = none)
    (hseen : rows.findNaturalKeyConflict (createdRow env index entry brand operator) = none)
    (hprimary : rows.accounts.find (env.tenantId, env.mintAccountId index) = none)
    (hindex : ∀ k, (createdRow env index entry brand operator).indexKey = some k →
      rows.byNaturalKey.find k = none) :
    provision env rows index entry brand operator =
      .ok (rows.insertGranted (createdRow env index entry brand operator) env.principalId
          hprimary hindex,
        createdResult env entry brand operator (createdRow env index entry brand operator)) := by
  have hcreate : rows.create (buildRow env (env.mintAccountId index) brand operator
      (resolveEntryChanges entry none .provisioning)) env.principalId = .created _ :=
    AccountRows.create_of_free hseen hprimary hindex
  simp only [provision, hfound, hcreate]
  rfl

theorem provision_of_taken
    (hfound : rows.getByNaturalKey env.tenantId (naturalKey brand operator entry.sandbox) = none)
    (hseen : rows.findNaturalKeyConflict (createdRow env index entry brand operator) = none)
    (htaken : rows.accounts.find (env.tenantId, env.mintAccountId index) ≠ none) :
    provision env rows index entry brand operator = .error .integrityError := by
  have hcreate : rows.create (buildRow env (env.mintAccountId index) brand operator
      (resolveEntryChanges entry none .provisioning)) env.principalId = .integrityError :=
    AccountRows.create_of_taken hseen htaken
  simp only [provision, hfound, hcreate]

end Provision

theorem provision_wrote
    {brand : Brand} {operator : String}
    (haccount : entry.account = none)
    (hbrand : entry.brand = some brand)
    (hoperator : entry.operator = some operator) :
    (∃ rows' result, provision env rows index entry brand operator = .ok (rows', result) ∧
      EntryWrote env index entry rows rows' result.accountId) ∨
    (provision env rows index entry brand operator = .error .integrityError ∧
      rows.accounts.find (env.tenantId, env.mintAccountId index) ≠ none) := by
  have hanswers : ∀ a, ((naturalKey brand operator entry.sandbox).matches a = true ∨
      a.indexKey = some ((naturalKey brand operator entry.sandbox).indexKey env.tenantId) ∨
      a.accountId = env.mintAccountId index) → entry.AnsweredBy env index a := by
    intro a h
    simpa only [SyncEntry.AnsweredBy, haccount, hbrand, hoperator] using h
  cases hfound : rows.getByNaturalKey env.tenantId
      (naturalKey brand operator entry.sandbox) with
  | some existing =>
      obtain ⟨hmem, -, htenant, hmatches⟩ := AccountRows.mem_of_getByNaturalKey hfound
      exact .inl ⟨_, _, (provision_of_found hfound).trans
        (applyToExistingAccount_eq rows brand operator existing),
        .wrote (changesOf entry existing .provisioning) (.inl rfl) hmem htenant
          (brand_of_matches hmatches) (hanswers existing (.inl hmatches))⟩
  | none =>
      have hconflict : ∀ rows₀ existing, CommittedOne rows rows₀ →
          existing ∈ rows.accounts → rows₀.visible existing = true →
          existing.indexKey =
            some ((naturalKey brand operator entry.sandbox).indexKey env.tenantId) →
          rows.create (createdRow env index entry brand operator) env.principalId =
            .conflict rows₀ existing →
          ∃ rows' result, provision env rows index entry brand operator = .ok (rows', result) ∧
            EntryWrote env index entry rows rows' result.accountId := by
        intro rows₀ existing hcommitted hmem hvisible hkey hcreate
        have htenant : existing.tenantId = env.tenantId :=
          AccountRows.tenantId_of_indexKey hkey (@createdRow_indexKey env entry index brand operator)
        have hmem₀ : existing ∈ rows₀.accounts := by
          rcases hcommitted with rfl | ⟨_, -, -, rfl⟩
          · exact hmem
          · exact hmem
        exact ⟨_, _, (provision_of_conflict hfound hcreate hmem₀ htenant hvisible).trans
          (applyToExistingAccount_eq rows₀ brand operator existing),
          .wrote (changesOf entry existing .provisioning) hcommitted hmem htenant
            (brand_of_indexKey hkey) (hanswers existing (.inr (.inl hkey)))⟩
      cases hseen : rows.findNaturalKeyConflict (createdRow env index entry brand operator) with
      | some existing =>
          obtain ⟨hmem, hvisible, k, hk, hkey⟩ := AccountRows.mem_of_findNaturalKeyConflict hseen
          rw [createdRow_indexKey] at hk
          cases hk
          exact .inl (hconflict rows existing (.inl rfl) hmem hvisible hkey
            (AccountRows.create_of_conflict hseen))
      | none =>
          by_cases hprimary : rows.accounts.find (env.tenantId, env.mintAccountId index) = none
          · cases hrival : rows.byNaturalKey.find
                ((naturalKey brand operator entry.sandbox).indexKey env.tenantId) with
            | some rival =>
                obtain ⟨hmem, hkey⟩ := rows.byNaturalKey.find_eq_some_iff.mp hrival
                refine .inl (hconflict _ rival
                  (.inr ⟨rival, hmem, brand_of_indexKey hkey, rfl⟩) hmem ?_ hkey
                  (AccountRows.create_of_rival hseen hprimary hrival))
                simp [AccountRows.visible, AccountRows.commitStaged]
            | none =>
                have hindex : ∀ k, (createdRow env index entry brand operator).indexKey = some k →
                    rows.byNaturalKey.find k = none := by
                  intro k hk
                  rw [createdRow_indexKey] at hk
                  cases hk
                  exact hrival
                exact .inl ⟨_, _, provision_of_free hfound hseen hprimary hindex,
                  .created hprimary hindex haccount hbrand hoperator createdRow_indexKey
                    rfl rfl rfl rfl⟩
          · exact .inr ⟨provision_of_taken hfound hseen hprimary, hprimary⟩

theorem answerEntry_cases
    (env : AccountsEnv)
    (index : Nat)
    (entry : SyncEntry)
    (rows : AccountRows)
    (proofErrors : Option (List GateFailure)) :
    (∃ rows' result, answerEntry env rows index entry proofErrors = .ok (rows', result) ∧
      EntryWrote env index entry rows rows' result.accountId) ∨
    (answerEntry env rows index entry proofErrors =
        .error (.validation (some (entryField index)) (some index)) ∧ entry.mixed = true) ∨
    (answerEntry env rows index entry proofErrors = .error (.validation none none) ∧
      entry.account = none ∧ (entry.brand = none ∨ entry.operator = none)) ∨
    (∃ existing accountId, answerEntry env rows index entry proofErrors =
        .error (.configuration (some accountId)) ∧ entry.account = some (.byId accountId) ∧
      existing ∈ rows.accounts ∧ existing.tenantId = env.tenantId ∧
      existing.accountId = accountId ∧ rows.visible existing = true ∧ existing.brand = none) ∨
    (answerEntry env rows index entry proofErrors = .error .integrityError ∧
      entry.account = none ∧
      rows.accounts.find (env.tenantId, env.mintAccountId index) ≠ none) := by
  unfold answerEntry
  by_cases hmixed : entry.mixed = true
  · rw [if_pos hmixed]
    exact .inr (.inl ⟨rfl, hmixed⟩)
  rw [if_neg hmixed]
  cases haccount : entry.account with
  | some ref =>
      simp only
      cases hfound : resolveSettingsUpdateTarget env rows ref with
      | none =>
          refine .inl ⟨rows, unmatchedSettingsUpdateResult ref, ?_, ?_⟩
          · rw [processSettingsUpdateEntry, hfound]
          · cases ref <;> exact .nothing
      | some existing =>
          obtain ⟨hmem, htenant, hanswers⟩ :=
            answers_of_resolveSettingsUpdateTarget index haccount hfound
          cases hbrand : existing.brand with
          | none =>
              cases ref with
              | byId accountId =>
                  obtain ⟨⟨-, -, hid⟩, hvisible⟩ := AccountRows.getById_eq_some_iff.mp hfound
                  refine .inr (.inr (.inr (.inl ⟨existing, accountId, ?_, rfl, hmem, htenant,
                    hid, hvisible, hbrand⟩)))
                  simp only [processSettingsUpdateEntry, hfound, hbrand, hid]
              | byNaturalKey brand operator sandbox =>
                  obtain ⟨-, -, -, hmatches⟩ := AccountRows.mem_of_getByNaturalKey hfound
                  have hsome := brand_of_matches hmatches
                  rw [hbrand] at hsome
                  cases hsome
          | some brand =>
              rw [processSettingsUpdateEntry_of_some hfound hbrand]
              left
              cases firstGateFailure (settingsUpdateGates env entry proofErrors) with
              | some errors => exact ⟨_, _, rfl, .nothing⟩
              | none =>
                  exact ⟨_, _, rfl, .wrote (changesOf entry existing .settingsUpdate) (.inl rfl)
                    hmem htenant (by rw [hbrand]; rfl) hanswers⟩
  | none =>
      cases hbrand : entry.brand with
      | none => exact .inr (.inr (.inl ⟨rfl, rfl, .inl rfl⟩))
      | some brand =>
          cases hoperator : entry.operator with
          | none => exact .inr (.inr (.inl ⟨rfl, rfl, .inr rfl⟩))
          | some operator =>
              simp only
              cases firstGateFailure (provisioningGates env entry proofErrors) with
              | some errors => exact .inl ⟨_, _, rfl, .nothing⟩
              | none =>
                  rcases provision_wrote haccount hbrand hoperator with hran | ⟨hrun, htaken⟩
                  · exact .inl hran
                  · exact .inr (.inr (.inr (.inr ⟨hrun, trivial, htaken⟩)))

theorem answerEntry_wrote
    {proofErrors : Option (List GateFailure)} {result : SyncResponseAccount}
    (h : answerEntry env rows index entry proofErrors = .ok (rows', result)) :
    EntryWrote env index entry rows rows' result.accountId := by
  rcases answerEntry_cases env index entry rows proofErrors with
    ⟨_, _, hrun, hwrote⟩ | ⟨hrun, -⟩ | ⟨hrun, -⟩ | ⟨_, _, hrun, -⟩ | ⟨hrun, -⟩
  · rw [h] at hrun
    cases hrun
    exact hwrote
  all_goals
    rw [h] at hrun
    cases hrun

end Wrote

section Kept

theorem Kept.refl
    (env : AccountsEnv)
    (rows : AccountRows) :
    Kept env rows rows :=
  fun _ => .inr (.inr ⟨rfl, fun _ _ => rfl⟩)

theorem Kept.confined
    (h : Kept env before rows) :
    Confined env before rows := by
  intro key hchanged
  rcases h key with ⟨a, -, hfind, hown, -⟩ | hcreated | ⟨hsame, -⟩
  · exact .inl ⟨a, hfind, hown⟩
  · exact .inr hcreated
  · exact absurd hsame hchanged

theorem Private.of_kept
    (h : Private env index entry before)
    (hkept : Kept env before rows) :
    Private env index entry rows := by
  intro a ha htenant hanswers
  have hfound : rows.accounts.find (a.tenantId, a.accountId) = some a :=
    AccountRows.find_eq_some_iff.mpr ⟨ha, rfl, rfl⟩
  rcases hkept (a.tenantId, a.accountId) with
    ⟨_, a', -, -, hfind, hown⟩ | ⟨-, a', hfind, htenant', hprincipal⟩ | ⟨hsame, howns⟩
  · rw [hfound] at hfind
    cases hfind
    exact hown
  · rw [hfound] at hfind
    cases hfind
    exact owns_of_principalId htenant' hprincipal
  · rw [hfound] at hsame
    have hmem := (AccountRows.find_eq_some_iff.mp hsame.symm).1
    rw [howns a hsame.symm]
    exact h a hmem htenant hanswers

/-- Changing an account of the principal. -/
theorem Kept.modify
    (h : Kept env before rows)
    {accountId : String} {f : Account → Account}
    {hprimary : ∀ a, (f a).primaryKey = a.primaryKey}
    {hindex : ∀ a, (f a).indexKey = a.indexKey}
    (hprincipal : ∀ a, (f a).principalId = a.principalId)
    (hown : ∀ a, rows.accounts.find (env.tenantId, accountId) = some a →
      env.owns rows a = true) :
    Kept env before (rows.modify env.tenantId accountId f hprimary hindex) := by
  intro key
  by_cases hkey : key = (env.tenantId, accountId)
  · rw [hkey]
    have hfind : (rows.modify env.tenantId accountId f hprimary hindex).accounts.find
        (env.tenantId, accountId) = (rows.accounts.find (env.tenantId, accountId)).map f :=
      IndexedTable.find_modify_self _ _ _ hprimary
    have hstill : ∀ a, env.owns (rows.modify env.tenantId accountId f hprimary hindex) (f a) =
        env.owns rows a :=
      owns_change hprimary hprincipal
    rw [hfind]
    rcases h (env.tenantId, accountId) with
      ⟨a, a', hbefore, howned, hnow, hown'⟩ | ⟨hbefore, a, hnow, htenant, hcreator⟩ |
      ⟨hsame, howns⟩
    · rw [hnow]
      exact .inl ⟨a, _, hbefore, howned, rfl, (hstill a').trans hown'⟩
    · have hkeys := hprimary a
      simp only [Account.primaryKey, Option.some.injEq, Prod.mk.injEq] at hkeys
      rw [hnow]
      exact .inr (.inl ⟨hbefore, _, rfl, hkeys.1.trans htenant, (hprincipal a).trans hcreator⟩)
    · cases hnow : rows.accounts.find (env.tenantId, accountId) with
      | none => exact .inr (.inr ⟨by rw [← hsame, hnow]; rfl, howns⟩)
      | some a =>
          have hbefore := hsame.symm.trans hnow
          exact .inl ⟨a, _, hbefore, (howns a hbefore).symm.trans (hown a hnow), rfl,
            (hstill a).trans (hown a hnow)⟩
  · have hfind : (rows.modify env.tenantId accountId f hprimary hindex).accounts.find key =
        rows.accounts.find key :=
      IndexedTable.find_modify_of_ne _ _ hprimary hkey
    rw [hfind]
    exact h key

theorem Kept.write
    (h : Kept env before rows)
    {accountId : String} {changes : ResolvedFields}
    (hown : ∀ a, rows.accounts.find (env.tenantId, accountId) = some a →
      env.owns rows a = true) :
    Kept env before (rows.write env.tenantId accountId changes) := by
  unfold AccountRows.write
  split
  · exact h
  · exact h.modify (fun _ => rfl) hown

theorem Kept.insertGranted
    (h : Kept env before rows)
    {account : Account}
    {hprimary : rows.accounts.find (account.tenantId, account.accountId) = none}
    {hindex : ∀ k, account.indexKey = some k → rows.byNaturalKey.find k = none}
    (htenant : account.tenantId = env.tenantId)
    (hprincipal : account.principalId = some env.principalId) :
    Kept env before (rows.insertGranted account env.principalId hprimary hindex) := by
  intro key
  by_cases hkey : key = (account.tenantId, account.accountId)
  · have hfind : (rows.insertGranted account env.principalId hprimary hindex).accounts.find key =
        some account :=
      AccountRows.find_eq_some_iff.mpr (hkey ▸ ⟨List.mem_cons_self, rfl, rfl⟩)
    rw [hfind]
    rw [hkey]
    rcases h (account.tenantId, account.accountId) with
      ⟨_, a', -, -, hnow, -⟩ | ⟨-, a', hnow, -⟩ | ⟨hsame, -⟩
    · rw [hprimary] at hnow
      cases hnow
    · rw [hprimary] at hnow
      cases hnow
    · exact .inr (.inl ⟨hsame.symm.trans hprimary, account, rfl, htenant, hprincipal⟩)
  · have hfind : (rows.insertGranted account env.principalId hprimary hindex).accounts.find key =
        rows.accounts.find key := by
      have hne : account.primaryKey ≠ some key := fun heq => hkey (Option.some.inj heq).symm
      exact List.find?_cons_of_neg (by simpa using hne)
    have howns : ∀ a, rows.accounts.find key = some a →
        env.owns (rows.insertGranted account env.principalId hprimary hindex) a =
          env.owns rows a := by
      intro a ha
      refine owns_insertGranted ?_
      rw [← Option.some.inj (rows.accounts.find_eq_some_iff.mp ha).2] at hkey
      exact hkey
    rw [hfind]
    rcases h key with ⟨a, a', hbefore, howned, hnow, hown'⟩ | hcreated | ⟨hsame, hkept⟩
    · exact .inl ⟨a, a', hbefore, howned, hnow, (howns a' hnow).trans hown'⟩
    · exact .inr (.inl hcreated)
    · exact .inr (.inr ⟨hsame, fun a ha => (howns a (hsame.trans ha)).trans (hkept a ha)⟩)

theorem Kept.committedOne
    {rows₀ : AccountRows}
    (h : Kept env before rows)
    (hcommitted : CommittedOne rows rows₀) :
    Kept env before rows₀ := by
  rcases hcommitted with rfl | ⟨_, -, -, rfl⟩
  · exact h
  · exact h

/-- A private entry keeps everyone else's accounts. -/
theorem Kept.wrote
    {accountId : Option String}
    (h : Kept env before rows)
    (hprivate : Private env index entry rows)
    (hwrote : EntryWrote env index entry rows rows' accountId) :
    Kept env before rows' := by
  cases hwrote with
  | nothing => exact h
  | @wrote rows₀ existing changes hcommitted hmem htenant hbrand hanswers =>
      refine (h.committedOne hcommitted).write ?_
      intro a ha
      have hsame : rows₀.accounts = rows.accounts ∧ rows₀.access = rows.access := by
        rcases hcommitted with rfl | ⟨_, -, -, rfl⟩
        · exact ⟨rfl, rfl⟩
        · exact ⟨rfl, rfl⟩
      have hown : env.owns rows₀ a = env.owns rows a := by
        rw [AccountsEnv.owns, AccountsEnv.owns, AccountRows.hasAccess, AccountRows.hasAccess,
          hsame.2]
      rw [hsame.1] at ha
      obtain ⟨hmem', htenant', hid⟩ := AccountRows.find_eq_some_iff.mp ha
      rw [hown, AccountRows.eq_of_accountId rows hmem' hmem (htenant'.trans htenant.symm) hid]
      exact hprivate existing hmem htenant hanswers
  | created hprimary hindex _ _ _ _ _ htenant hprincipal _ =>
      exact h.insertGranted htenant hprincipal

end Kept

section TwoStores

/-- Two answers that look the same. -/
def SameAnswer
    (env : AccountsEnv)
    (outcome outcome' : AccountRows × SyncResponseAccount) : Prop :=
  SameView env outcome.1 outcome'.1 ∧ outcome.2 = outcome'.2

theorem resolveSettingsUpdateTarget_of_private
    {ref : AccountRef}
    (hview : SameView env rows rows')
    (haccount : entry.account = some ref)
    (hprivate : Private env index entry rows)
    (hprivate' : Private env index entry rows') :
    resolveSettingsUpdateTarget env rows ref = resolveSettingsUpdateTarget env rows' ref := by
  cases ref with
  | byId accountId =>
      refine getById_of_sameView hview ?_ ?_
      · intro a ha htenant hid
        exact hprivate a ha htenant (by simpa only [SyncEntry.AnsweredBy, haccount] using hid)
      · intro a ha htenant hid
        exact hprivate' a ha htenant (by simpa only [SyncEntry.AnsweredBy, haccount] using hid)
  | byNaturalKey brand operator sandbox =>
      refine getByNaturalKey_of_sameView hview ?_ ?_
      · intro a ha htenant hmatches
        exact hprivate a ha htenant
          (by simpa only [SyncEntry.AnsweredBy, haccount] using hmatches)
      · intro a ha htenant hmatches
        exact hprivate' a ha htenant
          (by simpa only [SyncEntry.AnsweredBy, haccount] using hmatches)

theorem processSettingsUpdateEntry_alike
    {ref : AccountRef} {proofErrors : Option (List GateFailure)}
    (hview : SameView env rows rows')
    (haccount : entry.account = some ref)
    (hprivate : Private env index entry rows)
    (hprivate' : Private env index entry rows') :
    Alike (SameAnswer env) (processSettingsUpdateEntry env rows entry ref proofErrors)
      (processSettingsUpdateEntry env rows' entry ref proofErrors) := by
  have hsame := resolveSettingsUpdateTarget_of_private hview haccount hprivate hprivate'
  cases hfound : resolveSettingsUpdateTarget env rows ref with
  | none =>
      rw [processSettingsUpdateEntry, processSettingsUpdateEntry, ← hsame, hfound]
      exact .ok ⟨hview, rfl⟩
  | some existing =>
      cases hbrand : existing.brand with
      | none =>
          simp only [processSettingsUpdateEntry, ← hsame, hfound, hbrand]
          exact .error _
      | some brand =>
          rw [processSettingsUpdateEntry_of_some hfound hbrand,
            processSettingsUpdateEntry_of_some (hsame ▸ hfound) hbrand]
          cases firstGateFailure (settingsUpdateGates env entry proofErrors) with
          | some errors => exact .ok ⟨hview, rfl⟩
          | none => exact .ok ⟨hview.write _ _, rfl⟩

theorem Private.provisioning
    {brand : Brand} {operator : String}
    (h : Private env index entry rows)
    (haccount : entry.account = none)
    (hbrand : entry.brand = some brand)
    (hoperator : entry.operator = some operator)
    {a : Account}
    (ha : a ∈ rows.accounts)
    (htenant : a.tenantId = env.tenantId)
    (hanswers : (naturalKey brand operator entry.sandbox).matches a = true ∨
      a.indexKey = some ((naturalKey brand operator entry.sandbox).indexKey env.tenantId) ∨
      a.accountId = env.mintAccountId index) :
    env.owns rows a = true :=
  h a ha htenant (by
    simpa only [SyncEntry.AnsweredBy, haccount, hbrand, hoperator] using hanswers)

theorem provision_alike
    {brand : Brand} {operator : String}
    (hview : SameView env rows rows')
    (haccount : entry.account = none)
    (hbrand : entry.brand = some brand)
    (hoperator : entry.operator = some operator)
    (hprivate : Private env index entry rows)
    (hprivate' : Private env index entry rows') :
    Alike (SameAnswer env) (provision env rows index entry brand operator)
      (provision env rows' index entry brand operator) := by
  have hown : ∀ a ∈ rows.accounts, a.tenantId = env.tenantId → _ → env.owns rows a = true :=
    fun a ha htenant => hprivate.provisioning haccount hbrand hoperator ha htenant
  have hown' : ∀ a ∈ rows'.accounts, a.tenantId = env.tenantId → _ → env.owns rows' a = true :=
    fun a ha htenant => hprivate'.provisioning haccount hbrand hoperator ha htenant
  have htenantOf : ∀ a : Account, a.indexKey =
      some ((naturalKey brand operator entry.sandbox).indexKey env.tenantId) →
        a.tenantId = env.tenantId :=
    fun a ha => AccountRows.tenantId_of_indexKey ha
      (@createdRow_indexKey env entry index brand operator)
  have hlookup : rows.getByNaturalKey env.tenantId (naturalKey brand operator entry.sandbox) =
      rows'.getByNaturalKey env.tenantId (naturalKey brand operator entry.sandbox) :=
    getByNaturalKey_of_sameView hview (fun a ha htenant hm => hown a ha htenant (.inl hm))
      (fun a ha htenant hm => hown' a ha htenant (.inl hm))
  cases hfound : rows.getByNaturalKey env.tenantId
      (naturalKey brand operator entry.sandbox) with
  | some existing =>
      rw [provision_of_found hfound, provision_of_found (hlookup ▸ hfound),
        applyToExistingAccount_eq, applyToExistingAccount_eq]
      exact .ok ⟨hview.write _ _, rfl⟩
  | none =>
      have hfound' := hlookup ▸ hfound
      have hconflict : rows.findNaturalKeyConflict (createdRow env index entry brand operator) =
          rows'.findNaturalKeyConflict (createdRow env index entry brand operator) := by
        refine findNaturalKeyConflict_of_sameView hview ?_ ?_
        · intro a ha k hk hkey
          cases hk
          exact hown a ha (htenantOf a hkey) (.inr (.inl hkey))
        · intro a ha k hk hkey
          cases hk
          exact hown' a ha (htenantOf a hkey) (.inr (.inl hkey))
      cases hseen : rows.findNaturalKeyConflict (createdRow env index entry brand operator) with
      | some existing =>
          have hseen' := hconflict ▸ hseen
          obtain ⟨hmem, hvisible, k, hk, hkey⟩ := AccountRows.mem_of_findNaturalKeyConflict hseen
          obtain ⟨hmem', hvisible', -⟩ := AccountRows.mem_of_findNaturalKeyConflict hseen'
          cases hk
          rw [provision_of_conflict hfound (AccountRows.create_of_conflict hseen) hmem
              (htenantOf existing hkey) hvisible,
            provision_of_conflict hfound' (AccountRows.create_of_conflict hseen') hmem'
              (htenantOf existing hkey) hvisible',
            applyToExistingAccount_eq, applyToExistingAccount_eq]
          exact .ok ⟨hview.write _ _, rfl⟩
      | none =>
          have hseen' := hconflict ▸ hseen
          have hid : rows.accounts.find (env.tenantId, env.mintAccountId index) =
              rows'.accounts.find (env.tenantId, env.mintAccountId index) := by
            refine find?_of_sameView hview ?_ ?_
            · intro a ha hkey
              simp only [Account.primaryKey, Option.some.injEq, Prod.mk.injEq,
                decide_eq_true_eq] at hkey
              exact hown a ha hkey.1 (.inr (.inr hkey.2))
            · intro a ha hkey
              simp only [Account.primaryKey, Option.some.injEq, Prod.mk.injEq,
                decide_eq_true_eq] at hkey
              exact hown' a ha hkey.1 (.inr (.inr hkey.2))
          by_cases hprimary : rows.accounts.find (env.tenantId, env.mintAccountId index) = none
          · have hprimary' := hid ▸ hprimary
            have hindexes : rows.byNaturalKey.find
                ((naturalKey brand operator entry.sandbox).indexKey env.tenantId) =
                  rows'.byNaturalKey.find
                    ((naturalKey brand operator entry.sandbox).indexKey env.tenantId) :=
              findIndex_of_sameView hview
                (fun a ha hkey => hown a ha (htenantOf a hkey) (.inr (.inl hkey)))
                (fun a ha hkey => hown' a ha (htenantOf a hkey) (.inr (.inl hkey)))
            cases hrival : rows.byNaturalKey.find
                ((naturalKey brand operator entry.sandbox).indexKey env.tenantId) with
            | some rival =>
                have hrival' := hindexes ▸ hrival
                obtain ⟨hmem, hkey⟩ := rows.byNaturalKey.find_eq_some_iff.mp hrival
                obtain ⟨hmem', -⟩ := rows'.byNaturalKey.find_eq_some_iff.mp hrival'
                have hvisible : ∀ t : AccountRows, (t.commitStaged rival).visible rival = true := by
                  intro t
                  simp [AccountRows.visible, AccountRows.commitStaged]
                rw [provision_of_conflict hfound
                    (AccountRows.create_of_rival hseen hprimary hrival) hmem
                    (htenantOf rival hkey) (hvisible rows),
                  provision_of_conflict hfound'
                    (AccountRows.create_of_rival hseen' hprimary' hrival') hmem'
                    (htenantOf rival hkey) (hvisible rows'),
                  applyToExistingAccount_eq, applyToExistingAccount_eq]
                exact .ok ⟨(hview.commitStaged rival).write _ _, rfl⟩
            | none =>
                have hrival' := hindexes ▸ hrival
                have hfree : ∀ t : AccountRows, t.byNaturalKey.find
                    ((naturalKey brand operator entry.sandbox).indexKey env.tenantId) = none →
                    ∀ k, (createdRow env index entry brand operator).indexKey = some k →
                      t.byNaturalKey.find k = none := by
                  intro t ht k hk
                  cases hk
                  exact ht
                rw [provision_of_free hfound hseen hprimary (hfree rows hrival),
                  provision_of_free hfound' hseen' hprimary' (hfree rows' hrival')]
                exact .ok ⟨hview.insertGranted hprimary (hfree rows hrival) hprimary'
                  (hfree rows' hrival') rfl rfl, rfl⟩
          · rw [provision_of_taken hfound hseen hprimary,
              provision_of_taken hfound' hseen' (hid ▸ hprimary)]
            exact .error _

/-- A private entry answers alike. -/
theorem answerEntry_alike
    (proofErrors : Option (List GateFailure))
    (hview : SameView env rows rows')
    (hprivate : Private env index entry rows)
    (hprivate' : Private env index entry rows') :
    Alike (SameAnswer env) (answerEntry env rows index entry proofErrors)
      (answerEntry env rows' index entry proofErrors) := by
  unfold answerEntry
  split
  · exact .error _
  · cases haccount : entry.account with
    | some ref => exact processSettingsUpdateEntry_alike hview haccount hprivate hprivate'
    | none =>
        cases hbrand : entry.brand with
        | none => exact .error _
        | some brand =>
            cases hoperator : entry.operator with
            | none => exact .error _
            | some operator =>
                simp only
                cases firstGateFailure (provisioningGates env entry proofErrors) with
                | some errors => exact .ok ⟨hview, rfl⟩
                | none =>
                    exact provision_alike hview haccount hbrand hoperator hprivate hprivate'

end TwoStores

end Accounts
end SalesAgent
