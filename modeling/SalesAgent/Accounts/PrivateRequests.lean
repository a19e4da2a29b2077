import SalesAgent.Accounts.PrivateEntries

/-!
# Requests that name no one else's account

An entry that a gate refuses before any lookup reads no account.  Where every other
entry of a request is private, in two stores that look the same to the principal, the
entries run alike, and so does the closing of the missing accounts, which reads the
accounts the principal created.

**Results.**
* `syncAccounts_alike`: the two responses are the same.
* `syncAccounts_confined`: every account that changed is the principal's.
-/

namespace SalesAgent
namespace Accounts

open TwoRuns (Alike)

variable {env : AccountsEnv} {req : SyncAccountsRequest}
variable {rows rows' before before' : AccountRows} {s s' : SyncState}
variable {entry : SyncEntry} {index : Nat} {dryRun : Bool}

/-- The activation errors of a preview, which sends no challenge. -/
def previewErrors
    (entry : SyncEntry) : Option (List GateFailure) :=
  entry.activating.getLast?.map fun c => [proofError c.2]

/-- A provisioning entry that a gate refuses whatever the store. -/
def refusedOutright
    (env : AccountsEnv)
    (dryRun : Bool)
    (entry : SyncEntry) : Bool :=
  entry.account.isNone &&
    (firstGateFailure (provisioningGates env entry
      (if dryRun then previewErrors entry else none))).isSome

/-- An entry that gets as far as a lookup. -/
def SyncEntry.Reads
    (env : AccountsEnv)
    (dryRun : Bool)
    (entry : SyncEntry) : Prop :=
  entry.mixed = false ∧ refusedOutright env dryRun entry = false

/-- No account of someone else answers to an entry of the request. -/
def Unshared
    (env : AccountsEnv)
    (req : SyncAccountsRequest)
    (rows : AccountRows) : Prop :=
  ∀ e ∈ req.accounts.zipIdx, e.1.Reads env req.dryRun → Private env e.2 e.1 rows

section Refused

theorem gates_of_refusedOutright
    (h : refusedOutright env dryRun entry = true) :
    ∃ errors, ∀ before index, firstGateFailure (provisioningGates env entry
      (resolveActivationProofs env dryRun before index entry)) = some errors := by
  simp only [refusedOutright, Bool.and_eq_true] at h
  obtain ⟨errors, herrors⟩ := Option.isSome_iff_exists.mp h.2
  refine ⟨errors, fun before index => ?_⟩
  cases dryRun with
  | true => exact herrors
  | false =>
      revert herrors
      simp only [firstGateFailure, provisioningGates, notificationConfigsGate,
        Bool.false_eq_true, if_false]
      cases checkBillingPolicy env entry.billing with
      | some failures => exact id
      | none =>
          cases checkSandboxCapability env entry.sandbox with
          | some failures => exact id
          | none =>
              cases checkNotificationConfigs env [] 0 (entry.notificationConfigs.getD []) with
              | some failures => exact id
              | none => exact fun hnone => by cases hnone

theorem answerEntry_of_not_reads
    (index : Nat)
    (h : ¬ entry.Reads env dryRun) :
    (∃ fault, ∀ rows before, answerEntry env rows index entry
      (resolveActivationProofs env dryRun before index entry) = .error fault) ∨
    ∃ result, result.accountId = none ∧ ∀ rows before, answerEntry env rows index entry
      (resolveActivationProofs env dryRun before index entry) = .ok (rows, result) := by
  by_cases hmixed : entry.mixed = true
  · exact .inl ⟨_, fun rows before => if_pos hmixed⟩
  have hrefused : refusedOutright env dryRun entry = true := by
    by_contra hnot
    exact h ⟨by simpa using hmixed, by simpa using hnot⟩
  obtain ⟨errors, hgates⟩ := gates_of_refusedOutright hrefused
  have haccount : entry.account = none := by
    simp only [refusedOutright, Bool.and_eq_true, Option.isNone_iff_eq_none] at hrefused
    exact hrefused.1
  cases hbrand : entry.brand with
  | none =>
      refine .inl ⟨.validation none none, fun rows before => ?_⟩
      rw [answerEntry, if_neg hmixed, haccount, hbrand]
  | some brand =>
      cases hoperator : entry.operator with
      | none =>
          refine .inl ⟨.validation none none, fun rows before => ?_⟩
          rw [answerEntry, if_neg hmixed, haccount, hbrand, hoperator]
      | some operator =>
          refine .inr ⟨buildFailedResult (.reference brand) operator entry.billing entry.sandbox
            errors, rfl, fun rows before => ?_⟩
          simp only [answerEntry, hmixed, haccount, hbrand, hoperator, hgates]
          rfl

theorem resolveActivationProofs_of_private
    (hview : SameView env before before')
    (hprivate : Private env index entry before)
    (hprivate' : Private env index entry before') :
    resolveActivationProofs env dryRun before index entry =
      resolveActivationProofs env dryRun before' index entry := by
  have hlookup : lookupExistingForEntry env before entry =
      lookupExistingForEntry env before' entry := by
    unfold lookupExistingForEntry
    cases haccount : entry.account with
    | some ref =>
        exact resolveSettingsUpdateTarget_of_private hview haccount hprivate hprivate'
    | none =>
        cases hbrand : entry.brand with
        | none => rfl
        | some brand =>
            cases hoperator : entry.operator with
            | none => rfl
            | some operator =>
                exact getByNaturalKey_of_sameView hview
                  (fun a ha htenant hm =>
                    hprivate.provisioning haccount hbrand hoperator ha htenant (.inl hm))
                  (fun a ha htenant hm =>
                    hprivate'.provisioning haccount hbrand hoperator ha htenant (.inl hm))
  rw [resolveActivationProofs, resolveActivationProofs, hlookup]

end Refused

section Runs

/-- What two runs over stores that look the same have in common. -/
structure RunsAlike
    (env : AccountsEnv)
    (before before' : AccountRows)
    (s s' : SyncState) : Prop where
  view : SameView env s.rows s'.rows
  results : s.results = s'.results
  seen : s.seenAccountIds = s'.seenAccountIds
  kept : Kept env before s.rows
  kept' : Kept env before' s'.rows

theorem syncEntry_alike
    (hview : SameView env before before')
    (hprivate : entry.Reads env dryRun → Private env index entry before)
    (hprivate' : entry.Reads env dryRun → Private env index entry before')
    (h : RunsAlike env before before' s s') :
    Alike (RunsAlike env before before')
      (syncEntry env dryRun before s (entry, index))
      (syncEntry env dryRun before' s' (entry, index)) := by
  unfold syncEntry
  by_cases hreads : entry.Reads env dryRun
  · have hnow := (hprivate hreads).of_kept h.kept
    have hnow' := (hprivate' hreads).of_kept h.kept'
    have halike := answerEntry_alike
      (resolveActivationProofs env dryRun before index entry) h.view hnow hnow'
    simp only [← resolveActivationProofs_of_private hview (hprivate hreads) (hprivate' hreads)]
    generalize hrun : answerEntry env s.rows index entry
      (resolveActivationProofs env dryRun before index entry) = outcome at halike ⊢
    generalize hrun' : answerEntry env s'.rows index entry
      (resolveActivationProofs env dryRun before index entry) = outcome' at halike ⊢
    cases halike with
    | error fault => exact .error fault
    | @ok o o' hsame =>
        obtain ⟨hrows, hresult⟩ := hsame
        refine .ok ⟨hrows, ?_, ?_, h.kept.wrote hnow (answerEntry_wrote hrun),
          h.kept'.wrote hnow' (answerEntry_wrote hrun')⟩
        · simp only [SyncState.record, h.results, hresult]
        · simp only [SyncState.record, h.seen, hresult]
  · rcases answerEntry_of_not_reads index hreads with
      ⟨fault, hfault⟩ | ⟨result, -, hresult⟩
    · rw [hfault, hfault]
      exact .error fault
    · rw [hresult, hresult]
      refine .ok ⟨h.view, ?_, ?_, h.kept, h.kept'⟩
      · simp only [SyncState.record, h.results]
      · simp only [SyncState.record, h.seen]

/-- The rows under the ids of some accounts were created by the principal. -/
def CreatedByPrincipal
    (env : AccountsEnv)
    (accounts : List Account)
    (rows : AccountRows) : Prop :=
  ∀ c ∈ accounts, ∀ a, rows.accounts.find (env.tenantId, c.accountId) = some a →
    a.principalId = some env.principalId

theorem CreatedByPrincipal.updateStatus
    {accounts : List Account} {accountId : String} {status : AccountStatus}
    (h : CreatedByPrincipal env accounts rows) :
    CreatedByPrincipal env accounts (rows.updateStatus env.tenantId accountId status) := by
  intro c hc a ha
  obtain ⟨hmem, htenant, hid⟩ := AccountRows.find_eq_some_iff.mp ha
  obtain ⟨a₀, ha₀, rfl⟩ := AccountRows.mem_modify.mp hmem
  have hprincipal : a₀.tenantId = env.tenantId → a₀.accountId = c.accountId →
      a₀.principalId = some env.principalId :=
    fun htenant hid => h c hc a₀ (AccountRows.find_eq_some_iff.mpr ⟨ha₀, htenant, hid⟩)
  revert htenant hid
  split
  · exact hprincipal
  · exact hprincipal

theorem SameView.updateStatus
    (h : SameView env rows rows')
    (accountId : String)
    (status : AccountStatus) :
    SameView env (rows.updateStatus env.tenantId accountId status)
      (rows'.updateStatus env.tenantId accountId status) := by
  unfold AccountRows.updateStatus
  exact h.modify (fun _ => rfl)

theorem Kept.updateStatus
    {accounts : List Account} {account : Account} {status : AccountStatus}
    (h : Kept env before rows)
    (hcreated : CreatedByPrincipal env accounts rows)
    (ha : account ∈ accounts) :
    Kept env before (rows.updateStatus env.tenantId account.accountId status) := by
  refine h.modify (fun _ => rfl) ?_
  intro a hfind
  exact owns_of_principalId (AccountRows.find_eq_some_iff.mp hfind).2.1
    (hcreated account ha a hfind)

theorem createdByPrincipal_listByPrincipal
    (env : AccountsEnv)
    (rows : AccountRows)
    (p : Account → Bool) :
    CreatedByPrincipal env
      ((rows.listByPrincipal env.tenantId env.principalId).filter p) rows := by
  intro c hc a hfind
  obtain ⟨hmem, htenant, hid⟩ := AccountRows.find_eq_some_iff.mp hfind
  obtain ⟨hmem', hcond⟩ := List.mem_filter.mp (List.mem_of_mem_filter hc)
  simp only [Bool.and_eq_true, decide_eq_true_eq] at hcond
  rw [AccountRows.eq_of_accountId rows hmem hmem' (htenant.trans hcond.1.1.2.symm) hid]
  exact hcond.1.2

theorem deleteMissing_alike
    (h : RunsAlike env before before' s s') :
    Alike (RunsAlike env before before') (deleteMissing env s) (deleteMissing env s') := by
  unfold deleteMissing
  rw [← listByPrincipal_of_sameView h.view, ← h.seen]
  have hcreated := createdByPrincipal_listByPrincipal env s.rows
    (fun a => a.accountId ∉ s.seenAccountIds)
  have hcreated' := createdByPrincipal_listByPrincipal env s'.rows
    (fun a => a.accountId ∉ s.seenAccountIds)
  rw [← listByPrincipal_of_sameView h.view] at hcreated'
  generalize (s.rows.listByPrincipal env.tenantId env.principalId).filter _ = missing
    at hcreated hcreated' ⊢
  have hloop : Alike (fun t t' => RunsAlike env before before' t t' ∧
      CreatedByPrincipal env missing t.rows ∧ CreatedByPrincipal env missing t'.rows)
      (missing.foldlM (closeMissing env) s) (missing.foldlM (closeMissing env) s') := by
    refine Alike.foldlM ?_ ⟨h, hcreated, hcreated'⟩
    rintro account haccount t t' ⟨hrun, hown, hown'⟩
    unfold closeMissing
    cases account.brand with
    | none => exact .error _
    | some brand =>
        refine .ok ⟨⟨hrun.view.updateStatus _ _, ?_, hrun.seen,
          hrun.kept.updateStatus hown haccount, hrun.kept'.updateStatus hown' haccount⟩,
          hown.updateStatus, hown'.updateStatus⟩
        simp only [hrun.results]
  exact hloop.mono fun _ _ ht => ht.1

theorem runEntries_alike
    (hview : SameView env before before')
    (hunshared : Unshared env req before)
    (hunshared' : Unshared env req before') :
    Alike (RunsAlike env before before') (runEntries env req before)
      (runEntries env req before') := by
  have hentries : Alike (RunsAlike env before before')
      (req.accounts.zipIdx.foldlM (syncEntry env req.dryRun before) { rows := before })
      (req.accounts.zipIdx.foldlM (syncEntry env req.dryRun before') { rows := before' }) := by
    refine Alike.foldlM ?_ ⟨hview, rfl, rfl, .refl env before, .refl env before'⟩
    rintro ⟨entry, index⟩ he t t' ht
    exact syncEntry_alike hview (hunshared _ he) (hunshared' _ he) ht
  unfold runEntries
  generalize req.accounts.zipIdx.foldlM (syncEntry env req.dryRun before) _ = a at hentries ⊢
  generalize req.accounts.zipIdx.foldlM (syncEntry env req.dryRun before') _ = b at hentries ⊢
  cases hentries with
  | error fault => exact .error fault
  | ok h =>
      change Alike _ (if req.deleteMissing then deleteMissing env _ else pure _)
        (if req.deleteMissing then deleteMissing env _ else pure _)
      split
      · exact deleteMissing_alike h
      · exact .ok h

/-- Stores that look the same, in which no one else's account is named, answer the same. -/
theorem syncAccounts_alike
    (hview : SameView env before before')
    (hunshared : Unshared env req before)
    (hunshared' : Unshared env req before') :
    (syncAccounts env req before).response = (syncAccounts env req before').response := by
  have halike := runEntries_alike hview hunshared hunshared'
  unfold syncAccounts
  cases refusedRequest env req with
  | some fault => rfl
  | none =>
      generalize runEntries env req before = a at halike ⊢
      generalize runEntries env req before' = b at halike ⊢
      cases halike with
      | error fault => rfl
      | ok h => simp only [h.results]

/-- Where no one else's account is named, no one else's account is changed. -/
theorem syncAccounts_confined
    (hunshared : Unshared env req before) :
    Confined env before (syncAccounts env req before).rows := by
  have halike := runEntries_alike (.refl env before) hunshared hunshared
  unfold syncAccounts
  cases refusedRequest env req with
  | some fault => exact (Kept.refl env before).confined
  | none =>
      generalize runEntries env req before = a at halike ⊢
      cases halike with
      | error fault => exact (Kept.refl env before).confined
      | ok h =>
          simp only
          split
          · exact (Kept.refl env before).confined
          · exact h.kept.confined

end Runs

end Accounts
end SalesAgent
