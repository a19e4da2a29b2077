import SalesAgent.Accounts.Sync
import SalesAgent.Lib.TwoRuns

/-!
# What a principal can access

A principal can access the accounts of its tenant that it created and those it was
granted access to.  Two stores look the same to it where they agree on these accounts
and on its grants.

An entry is private where every account of the tenant that one of its lookups can return
is one the principal can access; a private entry does the same in two stores that look
the same.

**Results.**
* `getById_of_sameView`, `getByNaturalKey_of_sameView`, `listByPrincipal_of_sameView`: the
  principal's lookups find the same in stores that look the same.
* `SameView.modify`, `SameView.insertGranted`, `SameView.commitStaged`: its writes keep them
  looking the same.
-/

namespace SalesAgent
namespace Accounts

open TwoRuns (Alike)

variable {env : AccountsEnv} {rows rows' before : AccountRows}

/-- An account the principal created or was granted access to. -/
def AccountsEnv.owns
    (env : AccountsEnv)
    (rows : AccountRows)
    (a : Account) : Bool :=
  a.tenantId = env.tenantId &&
    (a.principalId = some env.principalId ||
      rows.hasAccess env.tenantId env.principalId a.accountId)

/-- A grant of the principal. -/
def AccountsEnv.ownsAccess
    (env : AccountsEnv)
    (g : AgentAccountAccess) : Bool :=
  g.tenantId = env.tenantId && g.principalId = env.principalId

/-- Two stores that differ only in accounts the principal cannot access. -/
structure SameView
    (env : AccountsEnv)
    (rows rows' : AccountRows) : Prop where
  accounts : rows.accounts.part (env.owns rows) = rows'.accounts.part (env.owns rows')
  access : rows.access.part env.ownsAccess = rows'.access.part env.ownsAccess
  visible : ∀ a ∈ rows.accounts.part (env.owns rows), rows.visible a = rows'.visible a

/-- Every account that changed is one the principal could access, or one it created. -/
def Confined
    (env : AccountsEnv)
    (before after : AccountRows) : Prop :=
  ∀ key, after.accounts.find key ≠ before.accounts.find key →
    (∃ a, before.accounts.find key = some a ∧ env.owns before a = true) ∨
      (before.accounts.find key = none ∧
        ∃ a, after.accounts.find key = some a ∧ a.tenantId = env.tenantId ∧
          a.principalId = some env.principalId)

/-- Per account: accessible before and after, created by the principal, or left as it was. -/
def Kept
    (env : AccountsEnv)
    (before rows : AccountRows) : Prop :=
  ∀ key,
    (∃ a a', before.accounts.find key = some a ∧ env.owns before a = true ∧
      rows.accounts.find key = some a' ∧ env.owns rows a' = true) ∨
    (before.accounts.find key = none ∧
      ∃ a, rows.accounts.find key = some a ∧ a.tenantId = env.tenantId ∧
        a.principalId = some env.principalId) ∨
    (rows.accounts.find key = before.accounts.find key ∧
      ∀ a, before.accounts.find key = some a → env.owns rows a = env.owns before a)

/-- The key of the row a provisioning entry would create. -/
def NaturalKey.indexKey
    (tenantId : String)
    (key : NaturalKey) : IndexKey where
  tenantId := tenantId
  operator := some key.operator
  domain := key.domain
  brandId := key.brandId
  sandbox := key.sandbox.getD false

/-- An account that a lookup of the entry at `index` can return. -/
def SyncEntry.AnsweredBy
    (env : AccountsEnv)
    (index : Nat)
    (entry : SyncEntry)
    (a : Account) : Prop :=
  match entry.account with
  | some (.byId accountId) => a.accountId = accountId
  | some (.byNaturalKey brand operator sandbox) =>
      (naturalKey brand operator sandbox).matches a = true
  | none =>
      match entry.brand, entry.operator with
      | some brand, some operator =>
          (naturalKey brand operator entry.sandbox).matches a = true ∨
            a.indexKey = some ((naturalKey brand operator entry.sandbox).indexKey env.tenantId) ∨
            a.accountId = env.mintAccountId index
      | _, _ => False

/-- No account of someone else answers to the entry. -/
def Private
    (env : AccountsEnv)
    (index : Nat)
    (entry : SyncEntry)
    (rows : AccountRows) : Prop :=
  ∀ a ∈ rows.accounts, a.tenantId = env.tenantId → entry.AnsweredBy env index a →
    env.owns rows a = true

section Ownership

theorem tenantId_of_owns
    {a : Account}
    (h : env.owns rows a = true) :
    a.tenantId = env.tenantId := by
  simp only [AccountsEnv.owns, Bool.and_eq_true, decide_eq_true_eq] at h
  exact h.1

theorem owns_of_principalId
    {a : Account}
    (htenant : a.tenantId = env.tenantId)
    (hprincipal : a.principalId = some env.principalId) :
    env.owns rows a = true := by
  simp [AccountsEnv.owns, htenant, hprincipal]

theorem SameView.refl
    (env : AccountsEnv)
    (rows : AccountRows) :
    SameView env rows rows :=
  ⟨rfl, rfl, fun _ _ => rfl⟩

theorem SameView.symm
    (h : SameView env rows rows') :
    SameView env rows' rows :=
  ⟨h.accounts.symm, h.access.symm, fun a ha => (h.visible a (h.accounts ▸ ha)).symm⟩

theorem SameView.trans
    {rows'' : AccountRows}
    (h : SameView env rows rows')
    (h' : SameView env rows' rows'') :
    SameView env rows rows'' :=
  ⟨h.accounts.trans h'.accounts, h.access.trans h'.access,
    fun a ha => (h.visible a ha).trans (h'.visible a (h.accounts ▸ ha))⟩

theorem SameView.mem
    (h : SameView env rows rows')
    {a : Account}
    (ha : a ∈ rows.accounts)
    (hown : env.owns rows a = true) :
    a ∈ rows'.accounts ∧ env.owns rows' a = true :=
  (IndexedTable.mem_part _).mp (h.accounts ▸ (IndexedTable.mem_part _).mpr ⟨ha, hown⟩)

end Ownership

section Lookups

theorem find?_of_sameView
    (h : SameView env rows rows')
    {p : Account → Bool}
    (hp : ∀ a ∈ rows.accounts, p a = true → env.owns rows a = true)
    (hp' : ∀ a ∈ rows'.accounts, p a = true → env.owns rows' a = true) :
    rows.accounts.rows.find? p = rows'.accounts.rows.find? p := by
  have hpart : ∀ (t : AccountRows), (∀ a ∈ t.accounts, p a = true → env.owns t a = true) →
      t.accounts.rows.find? p = (t.accounts.part (env.owns t)).find? p := by
    intro t ht
    rw [IndexedTable.part, List.find?_filter, ← List.head?_filter, ← List.head?_filter]
    refine congrArg List.head? (List.filter_congr ?_)
    intro a ha
    by_cases hpa : p a = true
    · simp [hpa, ht a ha hpa]
    · simp [hpa]
  rw [hpart rows hp, hpart rows' hp', h.accounts]

theorem find?_visible_of_sameView
    (h : SameView env rows rows')
    {p : Account → Bool}
    (hp : ∀ a ∈ rows.accounts, p a = true → env.owns rows a = true)
    (hp' : ∀ a ∈ rows'.accounts, p a = true → env.owns rows' a = true) :
    rows.accounts.rows.find? (fun a => rows.visible a && p a) =
      rows'.accounts.rows.find? (fun a => rows'.visible a && p a) := by
  have hpart : ∀ (t : AccountRows), (∀ a ∈ t.accounts, p a = true → env.owns t a = true) →
      t.accounts.rows.find? (fun a => t.visible a && p a) =
        (t.accounts.part (env.owns t)).find? (fun a => t.visible a && p a) := by
    intro t ht
    rw [IndexedTable.part, List.find?_filter, ← List.head?_filter, ← List.head?_filter]
    refine congrArg List.head? (List.filter_congr ?_)
    intro a ha
    by_cases hpa : p a = true
    · simp [hpa, ht a ha hpa]
    · simp [hpa]
  rw [hpart rows hp, hpart rows' hp', ← h.accounts, ← List.head?_filter, ← List.head?_filter]
  refine congrArg List.head? (List.filter_congr ?_)
  intro a ha
  rw [h.visible a ha]

theorem getById_of_sameView
    (h : SameView env rows rows')
    {accountId : String}
    (hp : ∀ a ∈ rows.accounts, a.tenantId = env.tenantId → a.accountId = accountId →
      env.owns rows a = true)
    (hp' : ∀ a ∈ rows'.accounts, a.tenantId = env.tenantId → a.accountId = accountId →
      env.owns rows' a = true) :
    rows.getById env.tenantId accountId = rows'.getById env.tenantId accountId := by
  have hfind : rows.accounts.find (env.tenantId, accountId) =
      rows'.accounts.find (env.tenantId, accountId) := by
    refine find?_of_sameView h ?_ ?_
    · intro a ha hkey
      simp only [Account.primaryKey, Option.some.injEq, Prod.mk.injEq, decide_eq_true_eq] at hkey
      exact hp a ha hkey.1 hkey.2
    · intro a ha hkey
      simp only [Account.primaryKey, Option.some.injEq, Prod.mk.injEq, decide_eq_true_eq] at hkey
      exact hp' a ha hkey.1 hkey.2
  rw [AccountRows.getById, AccountRows.getById, ← hfind]
  cases hfound : rows.accounts.find (env.tenantId, accountId) with
  | none => rfl
  | some a =>
      obtain ⟨hmem, htenant, hid⟩ := AccountRows.find_eq_some_iff.mp hfound
      have hown := (IndexedTable.mem_part _).mpr ⟨hmem, hp a hmem htenant hid⟩
      rw [Option.filter_some, Option.filter_some, h.visible a hown]

theorem getByNaturalKey_of_sameView
    (h : SameView env rows rows')
    {key : NaturalKey}
    (hp : ∀ a ∈ rows.accounts, a.tenantId = env.tenantId → key.matches a = true →
      env.owns rows a = true)
    (hp' : ∀ a ∈ rows'.accounts, a.tenantId = env.tenantId → key.matches a = true →
      env.owns rows' a = true) :
    rows.getByNaturalKey env.tenantId key = rows'.getByNaturalKey env.tenantId key := by
  simp only [AccountRows.getByNaturalKey, Bool.and_assoc]
  refine find?_visible_of_sameView h ?_ ?_
  · intro a ha hcond
    simp only [Bool.and_eq_true, decide_eq_true_eq] at hcond
    exact hp a ha hcond.1 hcond.2
  · intro a ha hcond
    simp only [Bool.and_eq_true, decide_eq_true_eq] at hcond
    exact hp' a ha hcond.1 hcond.2

theorem findIndex_of_sameView
    (h : SameView env rows rows')
    {k : IndexKey}
    (hp : ∀ a ∈ rows.accounts, a.indexKey = some k → env.owns rows a = true)
    (hp' : ∀ a ∈ rows'.accounts, a.indexKey = some k → env.owns rows' a = true) :
    rows.byNaturalKey.find k = rows'.byNaturalKey.find k := by
  refine find?_of_sameView h ?_ ?_
  · intro a ha hkey
    exact hp a ha (by simpa using hkey)
  · intro a ha hkey
    exact hp' a ha (by simpa using hkey)

theorem findNaturalKeyConflict_of_sameView
    (h : SameView env rows rows')
    {account : Account}
    (hp : ∀ a ∈ rows.accounts, ∀ k, account.indexKey = some k → a.indexKey = some k →
      env.owns rows a = true)
    (hp' : ∀ a ∈ rows'.accounts, ∀ k, account.indexKey = some k → a.indexKey = some k →
      env.owns rows' a = true) :
    rows.findNaturalKeyConflict account = rows'.findNaturalKeyConflict account := by
  rw [AccountRows.findNaturalKeyConflict, AccountRows.findNaturalKeyConflict]
  cases hkey : account.indexKey with
  | none => rfl
  | some k =>
      rw [Option.bind_some, Option.bind_some,
        ← findIndex_of_sameView h (fun a ha => hp a ha k hkey) (fun a ha => hp' a ha k hkey)]
      cases hfound : rows.byNaturalKey.find k with
      | none => rfl
      | some a =>
          obtain ⟨hmem, hk⟩ := rows.byNaturalKey.find_eq_some_iff.mp hfound
          have hown := (IndexedTable.mem_part _).mpr ⟨hmem, hp a hmem k hkey hk⟩
          rw [Option.filter_some, Option.filter_some, h.visible a hown]

theorem listByPrincipal_of_sameView
    (h : SameView env rows rows') :
    rows.listByPrincipal env.tenantId env.principalId =
      rows'.listByPrincipal env.tenantId env.principalId := by
  have hpart : ∀ t : AccountRows, t.listByPrincipal env.tenantId env.principalId =
      (t.accounts.part (env.owns t)).filter fun a =>
        t.visible a && a.tenantId = env.tenantId && a.principalId = some env.principalId &&
          a.status ≠ .closed := by
    intro t
    rw [AccountRows.listByPrincipal, IndexedTable.part, List.filter_filter]
    refine List.filter_congr ?_
    intro a _
    by_cases htenant : a.tenantId = env.tenantId
    · by_cases hprincipal : a.principalId = some env.principalId
      · simp [htenant, hprincipal, owns_of_principalId htenant hprincipal]
      · simp [hprincipal]
    · simp [htenant]
  rw [hpart, hpart, ← h.accounts]
  refine List.filter_congr ?_
  intro a ha
  rw [h.visible a ha]

end Lookups

section Writes

variable {tenantId accountId : String} {f : Account → Account}

theorem owns_change
    (hprimary : ∀ a, (f a).primaryKey = a.primaryKey)
    (hprincipal : ∀ a, (f a).principalId = a.principalId)
    (a : Account) :
    env.owns rows (f a) = env.owns rows a := by
  have hkey := hprimary a
  simp only [Account.primaryKey, Option.some.injEq, Prod.mk.injEq] at hkey
  simp only [AccountsEnv.owns, hkey.1, hkey.2, hprincipal]

theorem SameView.modify
    (h : SameView env rows rows')
    {hprimary : ∀ a, (f a).primaryKey = a.primaryKey}
    {hindex : ∀ a, (f a).indexKey = a.indexKey}
    (hprincipal : ∀ a, (f a).principalId = a.principalId) :
    SameView env (rows.modify tenantId accountId f hprimary hindex)
      (rows'.modify tenantId accountId f hprimary hindex) := by
  have hpart : ∀ t : AccountRows,
      (t.modify tenantId accountId f hprimary hindex).accounts.part (env.owns t) =
        (t.accounts.part (env.owns t)).map
          (fun a => if a.primaryKey = some (tenantId, accountId) then f a else a) :=
    fun t => t.accounts.part_modify hprimary (owns_change hprimary hprincipal)
  refine ⟨?_, h.access, ?_⟩
  · change (rows.modify _ _ f hprimary hindex).accounts.part (env.owns rows) =
      (rows'.modify _ _ f hprimary hindex).accounts.part (env.owns rows')
    rw [hpart, hpart, h.accounts]
  · intro a ha
    change a ∈ (rows.modify _ _ f hprimary hindex).accounts.part (env.owns rows) at ha
    rw [hpart] at ha
    obtain ⟨a₀, ha₀, rfl⟩ := List.mem_map.mp ha
    have hvisible := h.visible a₀ ha₀
    split
    · have hkey := hprimary a₀
      simp only [Account.primaryKey, Option.some.injEq, Prod.mk.injEq] at hkey
      simpa only [AccountRows.visible, AccountRows.modify, hkey.1, hkey.2] using hvisible
    · exact hvisible

theorem owns_insertGranted
    {account : Account}
    {hprimary : rows.accounts.find (account.tenantId, account.accountId) = none}
    {hindex : ∀ k, account.indexKey = some k → rows.byNaturalKey.find k = none}
    {a : Account}
    (hne : (a.tenantId, a.accountId) ≠ (account.tenantId, account.accountId)) :
    env.owns (rows.insertGranted account env.principalId hprimary hindex) a = env.owns rows a := by
  by_cases htenant : a.tenantId = env.tenantId
  · have hkey : (AgentAccountAccess.mk account.tenantId env.principalId account.accountId).primaryKey ≠
        some (env.tenantId, env.principalId, a.accountId) := by
      intro heq
      simp only [AgentAccountAccess.primaryKey, Option.some.injEq, Prod.mk.injEq] at heq
      exact hne (by rw [htenant, heq.1, heq.2.2])
    have haccess : (rows.insertGranted account env.principalId hprimary hindex).hasAccess
        env.tenantId env.principalId a.accountId =
          rows.hasAccess env.tenantId env.principalId a.accountId := by
      simp only [AccountRows.hasAccess, AccountRows.insertGranted, IndexedTable.find]
      rw [List.find?_cons_of_neg (by simpa using hkey)]
    rw [AccountsEnv.owns, AccountsEnv.owns, haccess]
  · simp [AccountsEnv.owns, htenant]

theorem SameView.insertGranted
    (h : SameView env rows rows')
    {account : Account}
    (hprimary : rows.accounts.find (account.tenantId, account.accountId) = none)
    (hindex : ∀ k, account.indexKey = some k → rows.byNaturalKey.find k = none)
    (hprimary' : rows'.accounts.find (account.tenantId, account.accountId) = none)
    (hindex' : ∀ k, account.indexKey = some k → rows'.byNaturalKey.find k = none)
    (htenant : account.tenantId = env.tenantId)
    (hprincipal : account.principalId = some env.principalId) :
    SameView env (rows.insertGranted account env.principalId hprimary hindex)
      (rows'.insertGranted account env.principalId hprimary' hindex') := by
  have hpart : ∀ (t : AccountRows)
      (hp : t.accounts.find (account.tenantId, account.accountId) = none)
      (hi : ∀ k, account.indexKey = some k → t.byNaturalKey.find k = none),
      (t.insertGranted account env.principalId hp hi).accounts.part
          (env.owns (t.insertGranted account env.principalId hp hi)) =
        account :: t.accounts.part (env.owns t) := by
    intro t hp hi
    simp only [IndexedTable.part]
    change List.filter _ (account :: t.accounts.rows) = _
    rw [List.filter_cons, if_pos (owns_of_principalId htenant hprincipal)]
    refine congrArg (account :: ·) (List.filter_congr ?_)
    intro a ha
    refine owns_insertGranted ?_
    intro heq
    exact t.accounts.find_eq_none_iff.mp hp a ha (by rw [Account.primaryKey, heq])
  refine ⟨by rw [hpart, hpart, h.accounts], ?_, ?_⟩
  · have hown : env.ownsAccess
        ⟨account.tenantId, env.principalId, account.accountId⟩ = true := by
      simp [AccountsEnv.ownsAccess, htenant]
    change List.filter _ (_ :: rows.access.rows) = List.filter _ (_ :: rows'.access.rows)
    rw [List.filter_cons, List.filter_cons, if_pos hown, if_pos hown]
    exact congrArg _ h.access
  · intro a ha
    rw [hpart] at ha
    rcases List.mem_cons.mp ha with rfl | hold
    · have hnew : ∀ t : AccountRows, t.accounts.find (a.tenantId, a.accountId) = none →
          t.visible a = true := by
        intro t ht
        refine decide_eq_true fun hstaged => ?_
        have hsome := t.stagedOfAccounts _ hstaged
        rw [ht] at hsome
        exact absurd hsome (by simp)
      exact (hnew rows hprimary).trans (hnew rows' hprimary').symm
    · exact h.visible a hold

theorem SameView.commitStaged
    (h : SameView env rows rows')
    (a : Account) :
    SameView env (rows.commitStaged a) (rows'.commitStaged a) := by
  refine ⟨h.accounts, h.access, ?_⟩
  intro a' ha'
  have hvisible := h.visible a' ha'
  simp only [AccountRows.visible, decide_eq_decide] at hvisible
  simp only [AccountRows.visible, AccountRows.commitStaged, List.mem_filter, decide_eq_decide]
  tauto

end Writes

end Accounts
end SalesAgent
