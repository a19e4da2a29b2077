import SalesAgent.Accounts.Progress
import Mathlib.Data.Fintype.EquivFin

/-!
# Stores beside the principal's view

The part of a store the principal can see is a store of its own.  Beside it another
principal may have an account under any free id and natural key: the two stores look the
same.

**Results.**  `sameView_ownStore` and `sameView_insertGranted`; `exists_strangerBrand`: a
natural key that the principal does not hold in full leaves room for the account of
someone else that answers to it.
-/

namespace SalesAgent
namespace Accounts

variable {env : AccountsEnv} {req : SyncAccountsRequest} {rows : AccountRows}

/-- The accounts and grants the principal can see. -/
def ownStore
    (env : AccountsEnv)
    (rows : AccountRows) : AccountRows where
  accounts := rows.accounts.deleteWhere (fun a => ! env.owns rows a)
  naturalKeys := rows.naturalKeys.sublist List.filter_sublist
  access := rows.access.deleteWhere (fun g => ! env.ownsAccess g)
  accessOfAccounts := by
    intro g hg
    obtain ⟨hmem, hown⟩ := (IndexedTable.mem_deleteWhere _ _ _).mp hg
    rw [Bool.not_eq_false'] at hown
    obtain ⟨a, hfound⟩ := Option.isSome_iff_exists.mp (rows.accessOfAccounts g hmem)
    obtain ⟨hmem', htenant, hid⟩ := AccountRows.find_eq_some_iff.mp hfound
    have hgrant : rows.hasAccess env.tenantId env.principalId a.accountId = true := by
      simp only [AccountsEnv.ownsAccess, Bool.and_eq_true, decide_eq_true_eq] at hown
      rw [AccountRows.hasAccess, Option.isSome_iff_exists]
      refine ⟨g, rows.access.find_eq_some_iff.mpr ⟨hmem, ?_⟩⟩
      rw [AgentAccountAccess.primaryKey, hown.1, hown.2, hid]
    have howns : env.owns rows a = true := by
      simp only [AccountsEnv.ownsAccess, Bool.and_eq_true, decide_eq_true_eq] at hown
      simp [AccountsEnv.owns, htenant, hown.1, hgrant]
    rw [IndexedTable.find_deleteWhere_of_keep hfound (by simp [howns])]
    rfl
  staged := rows.staged.filter fun k =>
    ((rows.accounts.deleteWhere (fun a => ! env.owns rows a)).find k).isSome
  stagedOfAccounts := fun _ hk => (List.mem_filter.mp hk).2

theorem mem_ownStore
    {a : Account} :
    a ∈ (ownStore env rows).accounts ↔ a ∈ rows.accounts ∧ env.owns rows a = true := by
  rw [ownStore, IndexedTable.mem_deleteWhere, Bool.not_eq_false']

theorem owns_ownStore
    (a : Account) :
    env.owns (ownStore env rows) a = env.owns rows a := by
  have haccess : (ownStore env rows).access.find (env.tenantId, env.principalId, a.accountId) =
      rows.access.find (env.tenantId, env.principalId, a.accountId) := by
    refine IndexedTable.find_deleteWhere_of_key _ ?_
    intro g hkey
    simp only [AgentAccountAccess.primaryKey, Option.some.injEq, Prod.mk.injEq] at hkey
    simp [AccountsEnv.ownsAccess, hkey.1, hkey.2.1]
  rw [AccountsEnv.owns, AccountsEnv.owns, AccountRows.hasAccess, AccountRows.hasAccess, haccess]

theorem sameView_ownStore
    (env : AccountsEnv)
    (rows : AccountRows) :
    SameView env rows (ownStore env rows) := by
  refine ⟨?_, (IndexedTable.part_deleteWhere_not _ _).symm, ?_⟩
  · have howns : env.owns (ownStore env rows) = env.owns rows := funext owns_ownStore
    rw [howns]
    exact (IndexedTable.part_deleteWhere_not _ _).symm
  · intro a ha
    obtain ⟨hmem, hown⟩ := (IndexedTable.mem_part _).mp ha
    have hfound : ((ownStore env rows).accounts.find (a.tenantId, a.accountId)).isSome = true := by
      rw [AccountRows.find_eq_some_iff.mpr ⟨mem_ownStore.mpr ⟨hmem, hown⟩, rfl, rfl⟩]
      rfl
    simp only [AccountRows.visible, decide_eq_decide]
    refine not_congr ⟨fun h => List.mem_filter.mpr ⟨h, hfound⟩, List.mem_of_mem_filter⟩

/-- An account of someone else, under a free id and natural key, is not seen. -/
theorem sameView_insertGranted
    (env : AccountsEnv)
    (account : Account)
    {other : String}
    (hprimary : rows.accounts.find (account.tenantId, account.accountId) = none)
    (hindex : ∀ k, account.indexKey = some k → rows.byNaturalKey.find k = none)
    (hother : other ≠ env.principalId)
    (htenant : account.tenantId = env.tenantId)
    (hprincipal : account.principalId = some other) :
    SameView env rows (rows.insertGranted account other hprimary hindex) := by
  have hgrant : ∀ a : Account,
      (rows.insertGranted account other hprimary hindex).hasAccess env.tenantId env.principalId
        a.accountId = rows.hasAccess env.tenantId env.principalId a.accountId := by
    intro a
    have hkey : (AgentAccountAccess.mk account.tenantId other account.accountId).primaryKey ≠
        some (env.tenantId, env.principalId, a.accountId) := by
      intro heq
      simp only [AgentAccountAccess.primaryKey, Option.some.injEq, Prod.mk.injEq] at heq
      exact hother heq.2.1
    simp only [AccountRows.hasAccess, AccountRows.insertGranted, IndexedTable.find]
    rw [List.find?_cons_of_neg (by simpa using hkey)]
  have howns : env.owns (rows.insertGranted account other hprimary hindex) = env.owns rows := by
    funext a
    rw [AccountsEnv.owns, AccountsEnv.owns, hgrant]
  have hstranger : ¬ env.owns rows account = true := by
    intro hown
    simp only [AccountsEnv.owns, htenant, hprincipal, Option.some.injEq, hother, decide_true,
      decide_false, Bool.false_or, Bool.true_and] at hown
    obtain ⟨g, hg⟩ := Option.isSome_iff_exists.mp hown
    obtain ⟨hmem, hkey⟩ := rows.access.find_eq_some_iff.mp hg
    simp only [AgentAccountAccess.primaryKey, Option.some.injEq, Prod.mk.injEq] at hkey
    have hsome := rows.accessOfAccounts g hmem
    rw [hkey.1, hkey.2.2, ← htenant, hprimary] at hsome
    cases hsome
  refine ⟨?_, ?_, fun _ _ => rfl⟩
  · rw [howns]
    change List.filter _ rows.accounts.rows = List.filter _ (account :: rows.accounts.rows)
    rw [List.filter_cons_of_neg hstranger]
  · change List.filter _ rows.access.rows = List.filter _ (_ :: rows.access.rows)
    rw [List.filter_cons_of_neg (by simp [AccountsEnv.ownsAccess, hother])]

theorem Fresh.ownStore
    (h : Fresh env req rows) :
    Fresh env req (ownStore env rows) := by
  refine ⟨h.distinct, h.unnamed, fun i hi => ?_⟩
  rw [IndexedTable.find_eq_none_iff]
  intro a ha
  exact (rows.accounts.find_eq_none_iff.mp (h.unused i hi)) a (mem_ownStore.mp ha).1

theorem Fresh.insertGranted
    (h : Fresh env req rows)
    {account : Account} {other : String}
    (hprimary : rows.accounts.find (account.tenantId, account.accountId) = none)
    (hindex : ∀ k, account.indexKey = some k → rows.byNaturalKey.find k = none)
    (hid : ∀ i < req.accounts.length, env.mintAccountId i ≠ account.accountId) :
    Fresh env req (rows.insertGranted account other hprimary hindex) := by
  refine ⟨h.distinct, h.unnamed, fun i hi => ?_⟩
  rw [IndexedTable.find_eq_none_iff]
  intro a ha
  rcases List.mem_cons.mp ha with rfl | hold
  · intro hkey
    simp only [Account.primaryKey, Option.some.injEq, Prod.mk.injEq] at hkey
    exact hid i hi hkey.2.symm
  · exact (rows.accounts.find_eq_none_iff.mp (h.unused i hi)) a hold

/-- An account of another principal. -/
def strangerRow
    (env : AccountsEnv)
    (accountId : String)
    (brand : Option Brand)
    (operator : Option String)
    (sandbox : Option Bool)
    (configs : Option (List NotificationConfig))
    (other : String) : Account where
  tenantId := env.tenantId
  accountId := accountId
  name := ""
  status := .active
  operator := operator
  brand := brand
  notificationConfigs := configs
  sandbox := sandbox
  principalId := some other

theorem indexKey_of_matches_brand
    {brand : Brand} {operator : String} {sandbox : Option Bool} {a : Account}
    (htenant : a.tenantId = env.tenantId)
    (h : (naturalKey brand operator sandbox).matches a = true)
    {brand' : Brand}
    (hbrand : a.brand = some brand') :
    a.indexKey = some
      { tenantId := env.tenantId
        operator := some operator
        domain := brand.domain
        brandId := brand'.brandId
        sandbox := sandbox.getD false } := by
  simp only [NaturalKey.matches, naturalKey, hbrand, Option.any_some, Bool.and_eq_true,
    decide_eq_true_eq] at h
  obtain ⟨⟨hoperator, hdomain, -⟩, hsandbox⟩ := h
  have hoperator' : a.operator = some operator := of_decide_eq_true hoperator
  have hdomain' : brand'.domain = brand.domain := of_decide_eq_true hdomain
  have hflag : a.sandbox.getD false = sandbox.getD false := by
    cases sandbox with
    | some flag =>
        simp only [decide_eq_true_eq] at hsandbox
        rw [hsandbox]
    | none =>
        simp only [ne_eq, decide_eq_true_eq] at hsandbox
        cases hvalue : a.sandbox with
        | none => rfl
        | some flag =>
            rw [hvalue] at hsandbox
            cases flag with
            | false => rfl
            | true => exact absurd rfl hsandbox
  rw [Account.indexKey, hbrand, Option.map_some, htenant, hoperator', hdomain', hflag]

theorem matches_strangerRow
    {brand brand' : Brand}
    (hdomain : brand'.domain = brand.domain)
    (hid : brand.brandId = none ∨ brand'.brandId = brand.brandId)
    (operator accountId : String)
    (sandbox : Option Bool)
    (configs : Option (List NotificationConfig))
    (other : String) :
    (naturalKey brand operator sandbox).matches
      (strangerRow env accountId (some brand') (some operator) sandbox configs other) = true := by
  rcases hid with hid | hid
  · cases sandbox <;> simp [NaturalKey.matches, naturalKey, strangerRow, hdomain, hid]
  · cases sandbox <;> simp [NaturalKey.matches, naturalKey, strangerRow, hdomain, hid]

/-- Where the principal does not hold a natural key with its brand id, someone else's
account can answer to it. -/
theorem exists_strangerBrand
    (env : AccountsEnv)
    (rows : AccountRows)
    (brand : Brand)
    (operator : String)
    (sandbox : Option Bool)
    (hfree : brand.brandId.isSome → ∀ a ∈ rows.accounts,
      a.indexKey ≠ some ((naturalKey brand operator sandbox).indexKey env.tenantId)) :
    ∃ brand' : Brand, ∀ accountId configs other,
      (naturalKey brand operator sandbox).matches
        (strangerRow env accountId (some brand') (some operator) sandbox configs other) = true ∧
      ∀ k, (strangerRow env accountId (some brand') (some operator) sandbox configs
        other).indexKey = some k → rows.byNaturalKey.find k = none := by
  cases hid : brand.brandId with
  | some brandId =>
      refine ⟨brand, fun accountId configs other =>
        ⟨matches_strangerRow rfl (.inr rfl) operator accountId sandbox configs other, ?_⟩⟩
      · intro k hk
        refine rows.byNaturalKey.find_eq_none_iff.mpr fun a ha hkey => ?_
        refine hfree (by rw [hid]; rfl) a ha ?_
        rw [hkey, ← hk]
        rfl
  | none =>
      obtain ⟨brandId, hfresh⟩ := Infinite.exists_notMem_finset
        ("" :: rows.accounts.rows.filterMap (fun a => a.brand.bind (·.brandId))).toFinset
      simp only [List.mem_toFinset, List.mem_cons, not_or, List.mem_filterMap, not_exists,
        not_and] at hfresh
      refine ⟨⟨brand.domain, some brandId, brand.domain_ne,
        fun h => hfresh.1 (Option.some.inj h)⟩, fun accountId configs other => ⟨?_, ?_⟩⟩
      · refine matches_strangerRow ?_ (.inl hid) operator accountId sandbox configs other
        rfl
      · intro k hk
        refine rows.byNaturalKey.find_eq_none_iff.mpr fun a ha hkey => hfresh.2 a ha ?_
        rw [← hk] at hkey
        obtain ⟨brand', hbrand, hsame⟩ := Option.map_eq_some_iff.mp hkey
        rw [hbrand, Option.bind_some]
        exact congrArg IndexKey.brandId hsame

end Accounts
end SalesAgent
