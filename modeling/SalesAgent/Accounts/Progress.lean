import SalesAgent.Accounts.PrivateRequests
import SalesAgent.Lib.Runs

/-!
# How far the entries of a request get

An entry ends the request where it is of neither mode, where it names no natural key, or
where the account it refers to by id is the principal's own and has no brand.  All other
entries that refer by id to the principal's accounts go through, whatever else the store
holds: an account without a brand is found by id only and never changed, so that what
ends a request is settled before it starts.

**Results.**
* `entries_reach`: the entries before the first that ends the request go through.
* `deleteMissing_eq`: the closing fails at the first account without a brand.
* `brandless_of_configuration`: a configuration error names an account without a brand.
-/

namespace SalesAgent
namespace Accounts

variable {env : AccountsEnv} {req : SyncAccountsRequest}
variable {rows rows' before : AccountRows} {s s' : SyncState}
variable {entry : SyncEntry} {index : Nat} {dryRun : Bool}

/-- The account without what the sync can change. -/
def Account.identity
    (a : Account) : Account :=
  { a with
    billing := none
    paymentTerms := none
    governanceAgents := none
    notificationConfigs := none
    billingEntity := none }

/-- The accounts without a brand. -/
def AccountRows.brandless
    (rows : AccountRows) : List Account :=
  rows.accounts.rows.filter (·.brand.isNone)

/-- The principal can access the account under the id. -/
def OwnsId
    (env : AccountsEnv)
    (rows : AccountRows)
    (accountId : String) : Prop :=
  ∃ a ∈ rows.accounts, a.accountId = accountId ∧ env.owns rows a = true

/-- An entry that ends the request. -/
def EndsRequest
    (env : AccountsEnv)
    (rows : AccountRows)
    (entry : SyncEntry) : Prop :=
  entry.mixed = true ∨ (entry.account = none ∧ (entry.brand = none ∨ entry.operator = none)) ∨
    ∃ a ∈ rows.accounts, entry.account = some (.byId a.accountId) ∧ env.owns rows a = true ∧
      rows.visible a = true ∧ a.brand = none

/-- How such an entry ends the request. -/
def endFault
    (index : Nat)
    (entry : SyncEntry) : SyncAccountsFault :=
  if entry.mixed then
    .validation (some (entryField index)) (some index)
  else
    match entry.account with
    | some (.byId accountId) => .configuration (some accountId)
    | _ => .validation none none

/-- The ids a request mints are its own: they differ, the request does not name them, and
no account has them. -/
structure Fresh
    (env : AccountsEnv)
    (req : SyncAccountsRequest)
    (rows : AccountRows) : Prop where
  distinct : ∀ i < req.accounts.length, ∀ j < req.accounts.length,
    env.mintAccountId i = env.mintAccountId j → i = j
  unnamed : ∀ e ∈ req.accounts, ∀ accountId, e.account = some (.byId accountId) →
    ∀ i < req.accounts.length, env.mintAccountId i ≠ accountId
  unused : ∀ i < req.accounts.length,
    rows.accounts.find (env.tenantId, env.mintAccountId i) = none

section Effect

theorem write_identity
    (rows : AccountRows)
    (tenantId accountId : String)
    (changes : ResolvedFields) :
    (rows.write tenantId accountId changes).accounts.rows.map Account.identity =
      rows.accounts.rows.map Account.identity := by
  unfold AccountRows.write
  split
  · rfl
  · change (rows.accounts.rows.map _).map Account.identity = _
    rw [List.map_map]
    refine List.map_congr_left ?_
    intro a _
    simp only [Function.comp_apply]
    split <;> rfl

theorem fields_of_identity
    {a a' : Account}
    (h : a.identity = a'.identity) :
    a.tenantId = a'.tenantId ∧ a.accountId = a'.accountId ∧ a.operator = a'.operator ∧
      a.brand = a'.brand ∧ a.sandbox = a'.sandbox := by
  simp only [Account.identity, Account.mk.injEq] at h
  tauto

theorem identity_of_mem
    (h : rows'.accounts.rows.map Account.identity = rows.accounts.rows.map Account.identity)
    {a : Account}
    (ha : a ∈ rows.accounts) :
    ∃ a' ∈ rows'.accounts, a'.identity = a.identity := by
  have hmem : a.identity ∈ rows'.accounts.rows.map Account.identity := by
    rw [h]
    exact List.mem_map_of_mem ha
  exact List.mem_map.mp hmem

theorem accounts_of_committedOne
    {rows₀ : AccountRows}
    (h : CommittedOne rows rows₀) :
    rows₀.accounts = rows.accounts := by
  rcases h with rfl | ⟨_, -, -, rfl⟩
  · rfl
  · rfl

theorem identity_of_wrote
    {rows₀ : AccountRows} {tenantId accountId : String} {changes : ResolvedFields}
    (h : CommittedOne rows rows₀) :
    (rows₀.write tenantId accountId changes).accounts.rows.map Account.identity =
      rows.accounts.rows.map Account.identity := by
  rw [write_identity, accounts_of_committedOne h]

/-- An account without a brand is never changed. -/
theorem EntryWrote.brandless
    {accountId : Option String}
    (h : EntryWrote env index entry rows rows' accountId) :
    rows'.brandless = rows.brandless := by
  cases h with
  | nothing => rfl
  | @wrote rows₀ existing changes hcommitted hmem htenant hbrand _ =>
      have hsame : rows₀.brandless = rows.brandless := by
        rw [AccountRows.brandless, AccountRows.brandless, accounts_of_committedOne hcommitted]
      rw [← hsame]
      unfold AccountRows.write
      split
      · rfl
      · change List.filter _ (rows₀.accounts.rows.map _) = List.filter _ rows₀.accounts.rows
        have hkeep : ∀ a : Account,
            ((if a.primaryKey = some (env.tenantId, existing.accountId) then
              a.applyFields changes else a).brand.isNone) = a.brand.isNone := by
          intro a
          split <;> rfl
        rw [List.filter_map]
        simp only [Function.comp_def, hkeep]
        conv_rhs => rw [← List.map_id (List.filter _ rows₀.accounts.rows)]
        refine List.map_congr_left ?_
        intro a ha
        obtain ⟨ha, hnone⟩ := List.mem_filter.mp ha
        have hmem₀ : a ∈ rows.accounts := accounts_of_committedOne hcommitted ▸ ha
        rw [if_neg, id_eq]
        intro hkey
        simp only [Account.primaryKey, Option.some.injEq, Prod.mk.injEq] at hkey
        rw [AccountRows.eq_of_accountId rows hmem₀ hmem (hkey.1.trans htenant.symm) hkey.2,
          Option.isNone_iff_eq_none] at hnone
        rw [hnone] at hbrand
        cases hbrand
  | created hprimary hindex _ _ _ _ _ _ _ hgate =>
      rw [Option.isSome_iff_ne_none, ne_eq, ← Option.isNone_iff_eq_none] at hgate
      change List.filter _ (_ :: rows.accounts.rows) = List.filter _ rows.accounts.rows
      rw [List.filter_cons_of_neg (by simpa using hgate)]

/-- An account without a brand is as visible as it was. -/
theorem EntryWrote.visible
    {accountId : Option String}
    (h : EntryWrote env index entry rows rows' accountId)
    {a : Account}
    (ha : a ∈ rows.accounts)
    (hbrand : a.brand = none) :
    rows'.visible a = rows.visible a := by
  have hcommit : ∀ rows₀, CommittedOne rows rows₀ → rows₀.visible a = rows.visible a := by
    rintro rows₀ (rfl | ⟨rival, hrival, hsome, rfl⟩)
    · rfl
    · have hne : (a.tenantId, a.accountId) ≠ (rival.tenantId, rival.accountId) := by
        intro heq
        simp only [Prod.mk.injEq] at heq
        rw [← AccountRows.eq_of_accountId rows ha hrival heq.1 heq.2, hbrand] at hsome
        cases hsome
      simp [AccountRows.visible, AccountRows.commitStaged, hne]
  cases h with
  | nothing => rfl
  | @wrote rows₀ existing changes hcommitted _ _ _ _ =>
      rw [← hcommit rows₀ hcommitted]
      unfold AccountRows.write
      split <;> rfl
  | created => rfl

/-- The only new id is the minted one. -/
theorem EntryWrote.ids
    {accountId : Option String}
    (h : EntryWrote env index entry rows rows' accountId)
    {a : Account}
    (ha : a ∈ rows'.accounts) :
    (∃ a₀ ∈ rows.accounts, a₀.tenantId = a.tenantId ∧ a₀.accountId = a.accountId) ∨
      a.accountId = env.mintAccountId index := by
  cases h with
  | nothing => exact .inl ⟨a, ha, rfl, rfl⟩
  | wrote changes hcommitted _ _ _ _ =>
      obtain ⟨a₀, ha₀, hsame⟩ := identity_of_mem (identity_of_wrote hcommitted).symm ha
      obtain ⟨htenant, hid, -⟩ := fields_of_identity hsame
      exact .inl ⟨a₀, ha₀, htenant, hid⟩
  | created hprimary hindex _ _ _ _ hid _ _ _ =>
      rcases List.mem_cons.mp ha with rfl | hold
      · exact .inr hid
      · exact .inl ⟨a, hold, rfl, rfl⟩

theorem EntryWrote.branded
    {accountId : Option String}
    (h : EntryWrote env index entry rows rows' accountId)
    {a : Account}
    (ha : a ∈ rows.accounts)
    (hbrand : a.brand.isSome) :
    ∃ a' ∈ rows'.accounts, a'.tenantId = a.tenantId ∧ a'.accountId = a.accountId ∧
      a'.brand.isSome := by
  cases h with
  | nothing => exact ⟨a, ha, rfl, rfl, hbrand⟩
  | wrote changes hcommitted _ _ _ _ =>
      obtain ⟨a', ha', hsame⟩ := identity_of_mem (identity_of_wrote hcommitted) ha
      obtain ⟨htenant, hid, -, hsameBrand, -⟩ := fields_of_identity hsame
      exact ⟨a', ha', htenant, hid, hsameBrand ▸ hbrand⟩
  | created => exact ⟨a, List.mem_cons_of_mem _ ha, rfl, rfl, hbrand⟩

theorem EntryWrote.answered
    {accountId : String}
    (h : EntryWrote env index entry rows rows' (some accountId)) :
    ∃ a ∈ rows'.accounts, a.tenantId = env.tenantId ∧ a.accountId = accountId ∧
      a.brand.isSome := by
  cases h with
  | @wrote rows₀ existing changes hcommitted hmem htenant hbrand _ =>
      obtain ⟨a', ha', hsame⟩ := identity_of_mem
        (@identity_of_wrote rows rows₀ env.tenantId existing.accountId changes hcommitted) hmem
      obtain ⟨htenant', hid, -, hsameBrand, -⟩ := fields_of_identity hsame
      exact ⟨a', ha', htenant'.trans htenant, hid, hsameBrand ▸ hbrand⟩
  | @created account _ _ _ _ _ _ _ _ _ htenant _ hgate =>
      exact ⟨account, List.mem_cons_self, htenant, rfl, hgate⟩

end Effect

section Reach

/-- What holds after the first entries went through. -/
structure InRun
    (env : AccountsEnv)
    (before : AccountRows)
    (count : Nat)
    (s : SyncState) : Prop where
  brandless : s.rows.brandless = before.brandless
  visible : ∀ a ∈ before.brandless, s.rows.visible a = before.visible a
  ids : ∀ a ∈ s.rows.accounts,
    (∃ a₀ ∈ before.accounts, a₀.tenantId = a.tenantId ∧ a₀.accountId = a.accountId) ∨
      ∃ j < count, a.accountId = env.mintAccountId j
  seen : ∀ accountId ∈ s.seenAccountIds, ∃ a ∈ s.rows.accounts,
    a.tenantId = env.tenantId ∧ a.accountId = accountId ∧ a.brand.isSome
  results : s.results.length = count

theorem InRun.start
    (env : AccountsEnv)
    (before : AccountRows) :
    InRun env before 0 { rows := before } where
  brandless := rfl
  visible := fun _ _ => rfl
  ids := fun a ha => .inl ⟨a, ha, rfl, rfl⟩
  seen := fun _ h => absurd h List.not_mem_nil
  results := rfl

theorem InRun.mem_brandless
    (h : InRun env before index s)
    {a : Account}
    (hbrand : a.brand = none) :
    a ∈ s.rows.accounts ↔ a ∈ before.accounts := by
  have hmem : ∀ rows : AccountRows, a ∈ rows.brandless ↔ a ∈ rows.accounts := by
    intro rows
    rw [AccountRows.brandless, List.mem_filter, hbrand]
    exact ⟨fun hm => hm.1, fun hm => ⟨hm, rfl⟩⟩
  rw [← hmem, ← hmem, h.brandless]

/-- An entry that went through is one more. -/
theorem InRun.next
    {result : SyncResponseAccount}
    (h : InRun env before index s)
    (hwrote : EntryWrote env index entry s.rows rows' result.accountId) :
    InRun env before (index + 1) (s.record (rows', result)) where
  brandless := hwrote.brandless.trans h.brandless
  visible := by
    intro a ha
    have hbrand : a.brand = none :=
      Option.isNone_iff_eq_none.mp (List.mem_filter.mp ha).2
    have hmem : a ∈ s.rows.accounts :=
      (h.mem_brandless hbrand).mpr (List.mem_of_mem_filter ha)
    exact (hwrote.visible hmem hbrand).trans (h.visible a ha)
  ids := by
    intro a ha
    rcases hwrote.ids ha with ⟨a₀, ha₀, htenant, hid⟩ | hminted
    · rcases h.ids a₀ ha₀ with ⟨a₁, ha₁, htenant', hid'⟩ | ⟨j, hj, hminted⟩
      · exact .inl ⟨a₁, ha₁, htenant'.trans htenant, hid'.trans hid⟩
      · exact .inr ⟨j, by omega, hid.symm.trans hminted⟩
    · exact .inr ⟨index, by omega, hminted⟩
  seen := by
    intro accountId hid
    rcases List.mem_append.mp hid with hold | hnew
    · obtain ⟨a, ha, htenant, hsame, hbrand⟩ := h.seen accountId hold
      obtain ⟨a', ha', htenant', hid', hbrand'⟩ := hwrote.branded ha hbrand
      exact ⟨a', ha', htenant'.trans htenant, hid'.trans hsame, hbrand'⟩
    · rw [Option.mem_toList] at hnew
      change result.accountId = some accountId at hnew
      rw [hnew] at hwrote
      exact hwrote.answered
  results := by
    simp only [SyncState.record, List.length_append, List.length_singleton, h.results]

theorem syncEntry_eq_ok
    (h : syncEntry env dryRun before s (entry, index) = .ok s') :
    ∃ rows' result, answerEntry env s.rows index entry
        (resolveActivationProofs env dryRun before index entry) = .ok (rows', result) ∧
      s' = s.record (rows', result) := by
  unfold syncEntry at h
  cases hrun : answerEntry env s.rows index entry
      (resolveActivationProofs env dryRun before index entry) with
  | error fault =>
      rw [hrun] at h
      cases h
  | ok outcome =>
      rw [hrun] at h
      cases h
      exact ⟨outcome.1, outcome.2, rfl, rfl⟩

theorem syncEntry_reach
    (dryRun : Bool)
    (hfresh : Fresh env req before)
    (hindex : index < req.accounts.length)
    (h : InRun env before index s)
    (hnot : ¬ EndsRequest env before entry)
    (hown : ∀ accountId, entry.account = some (.byId accountId) →
      OwnsId env before accountId) :
    ∃ s', syncEntry env dryRun before s (entry, index) = .ok s' ∧
      InRun env before (index + 1) s' := by
  rcases answerEntry_cases env index entry s.rows
      (resolveActivationProofs env dryRun before index entry) with
    ⟨rows', result, hrun, hwrote⟩ | ⟨-, hmixed⟩ | ⟨-, haccount, hmissing⟩ |
    ⟨existing, accountId, -, haccount, hmem, htenant, hid, hvisible, hbrand⟩ |
    ⟨-, -, htaken⟩
  · refine ⟨_, ?_, h.next hwrote⟩
    rw [syncEntry, hrun]
    rfl
  · exact absurd (.inl hmixed) hnot
  · exact absurd (.inr (.inl ⟨haccount, hmissing⟩)) hnot
  · -- the account without a brand was there from the start, and it is the principal's
    have hbefore : existing ∈ before.accounts := (h.mem_brandless hbrand).mp hmem
    obtain ⟨a, ha, hsameId, howned⟩ := hown accountId haccount
    have hsame : a = existing :=
      AccountRows.eq_of_accountId before ha hbefore
        ((tenantId_of_owns howned).trans htenant.symm) (hsameId.trans hid.symm)
    rw [hsame] at howned
    have hwas : before.visible existing = true := by
      rw [← h.visible existing (List.mem_filter.mpr ⟨hbefore, by rw [hbrand]; rfl⟩)]
      exact hvisible
    exact absurd (.inr (.inr ⟨existing, hbefore, by rw [hid]; exact haccount, howned, hwas,
      hbrand⟩)) hnot
  · -- the minted id is no one's
    exfalso
    obtain ⟨a, hfound⟩ := Option.ne_none_iff_exists'.mp htaken
    obtain ⟨hmem, htenant, hid⟩ := AccountRows.find_eq_some_iff.mp hfound
    rcases h.ids a hmem with ⟨a₀, ha₀, htenant₀, hid₀⟩ | ⟨j, hj, hminted⟩
    · have hnone := hfresh.unused index hindex
      rw [AccountRows.find_eq_some_iff.mpr
        ⟨ha₀, htenant₀.trans htenant, hid₀.trans hid⟩] at hnone
      cases hnone
    · have hsame := hfresh.distinct index hindex j (by omega) (hid.symm.trans hminted)
      omega

/-- The entries before the first that ends the request go through. -/
theorem entries_reach
    (dryRun : Bool)
    {entries : List SyncEntry} {count : Nat}
    (hfresh : Fresh env req before)
    (hlength : count + entries.length ≤ req.accounts.length)
    (h : InRun env before count s)
    (hnot : ∀ e ∈ entries, ¬ EndsRequest env before e)
    (hown : ∀ e ∈ entries, ∀ accountId, e.account = some (.byId accountId) →
      OwnsId env before accountId) :
    ∃ s', (entries.zipIdx count).foldlM (syncEntry env dryRun before) s = .ok s' ∧
      InRun env before (count + entries.length) s' := by
  induction entries generalizing count s with
  | nil => exact ⟨s, rfl, h⟩
  | cons entry entries ih =>
      rw [List.length_cons] at hlength
      have hnextLength : count + 1 + entries.length ≤ req.accounts.length := by omega
      obtain ⟨middle, hfirst, hnext⟩ := syncEntry_reach dryRun hfresh (by omega) h
        (hnot entry List.mem_cons_self) (hown entry List.mem_cons_self)
      obtain ⟨s', hrest, hs'⟩ := ih hnextLength hnext
        (fun e he => hnot e (List.mem_cons_of_mem _ he))
        (fun e he => hown e (List.mem_cons_of_mem _ he))
      refine ⟨s', ?_, ?_⟩
      · rw [List.zipIdx_cons]
        exact Runs.foldlM_cons_eq_ok.mpr ⟨middle, hfirst, hrest⟩
      · rw [List.length_cons]
        have hcount : count + (entries.length + 1) = count + 1 + entries.length := by omega
        rw [hcount]
        exact hs'

/-- The entry that ends the request. -/
theorem syncEntry_ends
    (h : InRun env before index s)
    (hends : EndsRequest env before entry) :
    syncEntry env dryRun before s (entry, index) = .error (endFault index entry) := by
  have hanswer : answerEntry env s.rows index entry
      (resolveActivationProofs env dryRun before index entry) = .error (endFault index entry) := by
    by_cases hmixed : entry.mixed = true
    · rw [answerEntry, if_pos hmixed, endFault, if_pos hmixed]
    rw [answerEntry, if_neg hmixed, endFault, if_neg hmixed]
    rcases hends with hmixed' | ⟨haccount, hmissing⟩ | ⟨a, ha, haccount, hown, hvisible, hbrand⟩
    · exact absurd hmixed' hmixed
    · rw [haccount]
      rcases hmissing with hmissing | hmissing
      · rw [hmissing]
      · cases hbrand : entry.brand with
        | none => rfl
        | some brand => rw [hmissing]
    · rw [haccount]
      have hfound : resolveSettingsUpdateTarget env s.rows (.byId a.accountId) = some a := by
        refine AccountRows.getById_eq_some_iff.mpr
          ⟨⟨(h.mem_brandless hbrand).mpr ha, tenantId_of_owns hown, rfl⟩, ?_⟩
        rw [h.visible a (List.mem_filter.mpr ⟨ha, by rw [hbrand]; rfl⟩)]
        exact hvisible
      simp only [processSettingsUpdateEntry, hfound, hbrand]
  rw [syncEntry, hanswer]
  rfl

end Reach

section Closing

/-- The accounts the closing fails at: open, created by the principal, without a brand. -/
def openBrandless
    (env : AccountsEnv)
    (rows : AccountRows) : List Account :=
  (rows.listByPrincipal env.tenantId env.principalId).filter (·.brand.isNone)

/-- A loop that closes accounts fails at the first that has no brand. -/
theorem foldlM_closeMissing
    (env : AccountsEnv)
    (missing : List Account)
    (s : SyncState) :
    (missing.filter (·.brand.isNone) = [] ∧
      ∃ more s', missing.foldlM (closeMissing env) s = .ok s' ∧ s'.results = s.results ++ more) ∨
    ∃ a rest, missing.filter (·.brand.isNone) = a :: rest ∧
      missing.foldlM (closeMissing env) s = .error (.configuration (some a.accountId)) := by
  induction missing generalizing s with
  | nil => exact .inl ⟨rfl, [], s, rfl, (List.append_nil _).symm⟩
  | cons account missing ih =>
      rw [List.foldlM_cons]
      cases hbrand : account.brand with
      | none =>
          refine .inr ⟨account, missing.filter (·.brand.isNone), ?_, ?_⟩
          · rw [List.filter_cons_of_pos (by rw [hbrand]; rfl)]
          · rw [closeMissing, hbrand]
            rfl
      | some brand =>
          have hcons : (account :: missing).filter (·.brand.isNone) =
              missing.filter (·.brand.isNone) := by
            rw [List.filter_cons_of_neg (by simp [hbrand])]
          rw [hcons]
          obtain ⟨middle, hmiddle, result, hresults⟩ : ∃ middle,
              closeMissing env s account = .ok middle ∧
                ∃ result, middle.results = s.results ++ [result] := by
            unfold closeMissing
            rw [hbrand]
            exact ⟨_, rfl, _, rfl⟩
          rw [hmiddle]
          rcases ih middle with ⟨hnone, more, s', hrest, hmore⟩ | hfails
          · refine .inl ⟨hnone, result :: more, s', hrest, ?_⟩
            rw [hmore, hresults, List.append_assoc]
            rfl
          · exact .inr hfails

theorem InRun.openBrandless_eq
    (h : InRun env before index s) :
    ((s.rows.listByPrincipal env.tenantId env.principalId).filter
      (·.accountId ∉ s.seenAccountIds)).filter (·.brand.isNone) =
        openBrandless env before := by
  have hmove : ∀ (rows : AccountRows) (p : Account → Bool),
      ((rows.listByPrincipal env.tenantId env.principalId).filter p).filter (·.brand.isNone) =
        rows.brandless.filter fun a => (rows.visible a && a.tenantId = env.tenantId &&
          a.principalId = some env.principalId && a.status ≠ .closed) && p a := by
    intro rows p
    simp only [AccountRows.listByPrincipal, AccountRows.brandless, List.filter_filter]
    refine List.filter_congr ?_
    intro a _
    cases a.brand.isNone <;> simp [Bool.and_comm]
  have hall : openBrandless env before = before.brandless.filter fun a =>
      (before.visible a && a.tenantId = env.tenantId &&
        a.principalId = some env.principalId && a.status ≠ .closed) && true := by
    rw [← hmove before (fun _ => true), openBrandless, List.filter_true]
  rw [hmove s.rows, hall, h.brandless]
  refine List.filter_congr ?_
  intro a ha
  rw [h.visible a ha]
  by_cases htenant : a.tenantId = env.tenantId
  · have hbrand : a.brand = none := Option.isNone_iff_eq_none.mp (List.mem_filter.mp ha).2
    have hunseen : a.accountId ∉ s.seenAccountIds := by
      intro hseen
      obtain ⟨a', ha', htenant', hid, hsome⟩ := h.seen a.accountId hseen
      have hmem : a ∈ s.rows.accounts :=
        (h.mem_brandless hbrand).mpr (List.mem_of_mem_filter ha)
      rw [AccountRows.eq_of_accountId s.rows ha' hmem (htenant'.trans htenant.symm) hid,
        hbrand] at hsome
      cases hsome
    simp [hunseen]
  · simp [htenant]

/-- The closing of the missing accounts, after the entries went through. -/
theorem deleteMissing_eq
    (h : InRun env before index s) :
    (openBrandless env before = [] ∧
      ∃ more s', deleteMissing env s = .ok s' ∧ s'.results = s.results ++ more) ∨
    ∃ a rest, openBrandless env before = a :: rest ∧
      deleteMissing env s = .error (.configuration (some a.accountId)) := by
  rw [← h.openBrandless_eq]
  exact foldlM_closeMissing env _ s

/-- A request that fails over the configuration of an account names one without a brand,
there from the start. -/
theorem brandless_of_configuration
    {accountId : String}
    (h : runEntries env req before = .error (.configuration (some accountId))) :
    ∃ a ∈ before.accounts, a.tenantId = env.tenantId ∧ a.accountId = accountId := by
  have hpreserved : Runs.Preserved (Runs.FoldStep (syncEntry env req.dryRun before))
      (fun u => u.rows.brandless = before.brandless) := by
    rintro u ⟨entry, index⟩ u' hstep hu
    obtain ⟨rows', result, hanswer, rfl⟩ := syncEntry_eq_ok hstep
    exact (answerEntry_wrote hanswer).brandless.trans hu
  have hkeeps : ∀ t, (∃ es, Runs.Run (Runs.FoldStep (syncEntry env req.dryRun before))
      { rows := before } es t) → t.rows.brandless = before.brandless := by
    rintro t ⟨es, hrun⟩
    exact hrun.preserves hpreserved rfl
  have hback : ∀ t : AccountRows, t.brandless = before.brandless →
      ∀ a ∈ t.accounts, a.brand = none → a ∈ before.accounts := by
    intro t ht a ha hbrand
    have hmem : a ∈ t.brandless := List.mem_filter.mpr ⟨ha, by rw [hbrand]; rfl⟩
    rw [ht] at hmem
    exact List.mem_of_mem_filter hmem
  unfold runEntries at h
  cases hentries : req.accounts.zipIdx.foldlM (syncEntry env req.dryRun before)
      { rows := before } with
  | error fault =>
      rw [hentries] at h
      cases h
      obtain ⟨es, ⟨entry, index⟩, u, hrun, -, hfail⟩ := Runs.exists_step_of_foldlM_error hentries
      unfold syncEntry at hfail
      rcases answerEntry_cases env index entry u.rows
          (resolveActivationProofs env req.dryRun before index entry) with
        ⟨_, _, hanswer, -⟩ | ⟨hanswer, -⟩ | ⟨hanswer, -⟩ |
        ⟨existing, _, hanswer, -, hmem, htenant, hid, -, hbrand⟩ | ⟨hanswer, -⟩
      · rw [hanswer] at hfail
        cases hfail
      · rw [hanswer] at hfail
        cases hfail
      · rw [hanswer] at hfail
        cases hfail
      · rw [hanswer] at hfail
        cases hfail
        exact ⟨existing, hback u.rows (hkeeps u ⟨es, hrun⟩) existing hmem hbrand, htenant, hid⟩
      · rw [hanswer] at hfail
        cases hfail
  | ok s =>
      rw [hentries] at h
      change (if req.deleteMissing then deleteMissing env s else pure s) = _ at h
      split at h
      · rcases foldlM_closeMissing env
            ((s.rows.listByPrincipal env.tenantId env.principalId).filter
              (·.accountId ∉ s.seenAccountIds)) s with
          ⟨-, _, _, hok, -⟩ | ⟨a, rest, hfirst, herror⟩
        · rw [deleteMissing, hok] at h
          cases h
        · rw [deleteMissing, herror] at h
          cases h
          have hmem : a ∈ ((s.rows.listByPrincipal env.tenantId env.principalId).filter
              (·.accountId ∉ s.seenAccountIds)).filter (·.brand.isNone) := by
            rw [hfirst]
            exact List.mem_cons_self
          obtain ⟨hmem, hbrand⟩ := List.mem_filter.mp hmem
          obtain ⟨hmem, hcond⟩ := List.mem_filter.mp (List.mem_of_mem_filter hmem)
          simp only [Bool.and_eq_true, decide_eq_true_eq] at hcond
          exact ⟨a, hback s.rows (hkeeps s ⟨_, Runs.run_of_foldlM hentries⟩) a hmem
            (Option.isNone_iff_eq_none.mp hbrand), hcond.1.1.2, rfl⟩
      · cases h

end Closing

end Accounts
end SalesAgent
