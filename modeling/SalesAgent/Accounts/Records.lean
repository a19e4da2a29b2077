import SalesAgent.DateTime
import SalesAgent.Idempotency.Canonical
import SalesAgent.Lib.IndexedTable

/-!
# The accounts of a tenant

An account is the billing relationship between a buyer and the seller.  A row is
identified by tenant and account id; brand domain, brand id, operator and sandbox flag
are its natural key, and a unique index lets one row of a tenant carry each key.  A
second table says which principals were granted access to which account.

Other transactions insert accounts while a request runs.  Their rows are in the table
from the start, `staged`: no query returns such a row, but the unique indexes see it,
and an insert that meets its natural key waits until it is committed and loses.

**Results.**  `getById_eq_some_iff`, `mem_of_getByNaturalKey` and
`mem_of_findNaturalKeyConflict` read the lookups; `create_of_conflict`, `create_of_taken`,
`create_of_rival` and `create_of_free` are the outcomes of an insert.
-/

namespace SalesAgent
namespace Accounts

open Idempotency (Json)

/-- `BrandReference`, with the two patterns of its schema. -/
structure Brand where
  domain : String
  brandId : Option String
  domain_ne : domain ≠ ""
  brandId_ne : brandId ≠ some ""
  deriving DecidableEq

/-- `Authentication`. -/
structure Authentication where
  schemes : List String
  credentials : Option String
  deriving DecidableEq, Repr

/-- `NotificationConfig`. -/
structure NotificationConfig where
  subscriberId : String
  url : String
  eventTypes : List String
  authentication : Option Authentication := none
  active : Bool := false
  deriving DecidableEq, Repr

/-- `BusinessEntity`: its bank details are write-only. -/
structure BusinessEntity where
  profile : Json
  bank : Option Json
  deriving DecidableEq

/-- `Account.status`. -/
inductive AccountStatus
  | active
  | pendingApproval
  | rejected
  | paymentRequired
  | suspended
  | closed
  deriving DecidableEq, Repr

/-- A row of `accounts`, in the columns the sync reads or writes. -/
structure Account where
  tenantId : String
  accountId : String
  name : String
  status : AccountStatus
  operator : Option String
  billing : Option String := none
  paymentTerms : Option String := none
  brand : Option Brand
  governanceAgents : Option (List Json) := none
  notificationConfigs : Option (List NotificationConfig) := none
  billingEntity : Option BusinessEntity := none
  sandbox : Option Bool := none
  principalId : Option String := none
  deriving DecidableEq

/-- A row of `agent_account_access`. -/
structure AgentAccountAccess where
  tenantId : String
  principalId : String
  accountId : String
  deriving DecidableEq, Repr

/-- What `uq_accounts_natural_key` indexes. -/
structure IndexKey where
  tenantId : String
  operator : Option String
  domain : String
  brandId : Option String
  sandbox : Bool
  deriving DecidableEq, Repr

/-- The primary key. -/
def Account.primaryKey
    (a : Account) : Option (String × String) :=
  some (a.tenantId, a.accountId)

/-- The key in `uq_accounts_natural_key`; a row without a brand is outside the index. -/
def Account.indexKey
    (a : Account) : Option IndexKey :=
  a.brand.map fun brand =>
    { tenantId := a.tenantId
      operator := a.operator
      domain := brand.domain
      brandId := brand.brandId
      sandbox := a.sandbox.getD false }

/-- The primary key. -/
def AgentAccountAccess.primaryKey
    (g : AgentAccountAccess) : Option (String × String × String) :=
  some (g.tenantId, g.principalId, g.accountId)

/-- `NaturalKey`. -/
structure NaturalKey where
  domain : String
  brandId : Option String
  operator : String
  sandbox : Option Bool
  deriving DecidableEq, Repr

/-- The conditions of `get_by_natural_key`: an omitted brand id matches any, an omitted
sandbox flag matches a row without the flag or with a false one. -/
def NaturalKey.matches
    (key : NaturalKey)
    (a : Account) : Bool :=
  a.operator = some key.operator &&
    a.brand.any (fun brand =>
      brand.domain = key.domain && (key.brandId.isNone || brand.brandId = key.brandId)) &&
    (match key.sandbox with
      | some flag => a.sandbox = some flag
      | none => a.sandbox ≠ some true)

/-- The accounts and grants, with the indexes of the schema. -/
structure AccountRows where
  accounts : IndexedTable Account (String × String) Account.primaryKey
  naturalKeys : accounts.rows.Pairwise
    (fun a a' => ∀ k, a.indexKey = some k → a'.indexKey ≠ some k)
  access : IndexedTable AgentAccountAccess (String × String × String) AgentAccountAccess.primaryKey
  accessOfAccounts : ∀ g ∈ access, (accounts.find (g.tenantId, g.accountId)).isSome
  staged : List (String × String)
  stagedOfAccounts : ∀ k ∈ staged, (accounts.find k).isSome

namespace AccountRows

/-- No rows. -/
def empty : AccountRows where
  accounts := .empty
  naturalKeys := List.Pairwise.nil
  access := .empty
  accessOfAccounts := fun _ hg => absurd hg (IndexedTable.not_mem_empty _)
  staged := []
  stagedOfAccounts := fun _ hk => absurd hk List.not_mem_nil

/-- The accounts, under their natural keys. -/
def byNaturalKey
    (rows : AccountRows) : IndexedTable Account IndexKey Account.indexKey :=
  ⟨rows.accounts.rows, rows.naturalKeys⟩

/-- A row that queries return. -/
def visible
    (rows : AccountRows)
    (a : Account) : Bool :=
  (a.tenantId, a.accountId) ∉ rows.staged

/-- `get_by_id` -/
def getById
    (rows : AccountRows)
    (tenantId accountId : String) : Option Account :=
  (rows.accounts.find (tenantId, accountId)).filter rows.visible

/-- `get_by_natural_key`, the first row in the order of the table -/
def getByNaturalKey
    (rows : AccountRows)
    (tenantId : String)
    (key : NaturalKey) : Option Account :=
  rows.accounts.rows.find? (fun a => rows.visible a && a.tenantId = tenantId && key.matches a)

/-- `_find_natural_key_conflict` -/
def findNaturalKeyConflict
    (rows : AccountRows)
    (account : Account) : Option Account :=
  (account.indexKey.bind rows.byNaturalKey.find).filter rows.visible

/-- `list_by_principal`, without the closed accounts -/
def listByPrincipal
    (rows : AccountRows)
    (tenantId principalId : String) : List Account :=
  rows.accounts.rows.filter fun a =>
    rows.visible a && a.tenantId = tenantId && a.principalId = some principalId &&
      a.status ≠ .closed

/-- `has_access` -/
def hasAccess
    (rows : AccountRows)
    (tenantId principalId accountId : String) : Bool :=
  (rows.access.find (tenantId, principalId, accountId)).isSome

/-- Change the row under a key, the columns of its indexes excepted. -/
def modify
    (rows : AccountRows)
    (tenantId accountId : String)
    (f : Account → Account)
    (hprimary : ∀ a, (f a).primaryKey = a.primaryKey)
    (hindex : ∀ a, (f a).indexKey = a.indexKey) : AccountRows where
  accounts := rows.accounts.modify (tenantId, accountId) f hprimary
  naturalKeys := by
    have hkeep : ∀ a : Account,
        (if a.primaryKey = some (tenantId, accountId) then f a else a).indexKey = a.indexKey := by
      intro a
      split
      · exact hindex a
      · rfl
    change List.Pairwise _ (rows.accounts.rows.map _)
    rw [List.pairwise_map]
    simpa only [hkeep] using rows.naturalKeys
  access := rows.access
  accessOfAccounts := by
    intro g hg
    rw [IndexedTable.isSome_find_modify]
    exact rows.accessOfAccounts g hg
  staged := rows.staged
  stagedOfAccounts := by
    intro k hk
    rw [IndexedTable.isSome_find_modify]
    exact rows.stagedOfAccounts k hk

/-- `update_status` -/
def updateStatus
    (rows : AccountRows)
    (tenantId accountId : String)
    (status : AccountStatus) : AccountRows :=
  rows.modify tenantId accountId (fun a => { a with status := status })
    (fun _ => rfl) (fun _ => rfl)

/-- Insert an account and grant its creator access, where both indexes allow it. -/
def insertGranted
    (rows : AccountRows)
    (account : Account)
    (principalId : String)
    (hprimary : rows.accounts.find (account.tenantId, account.accountId) = none)
    (hindex : ∀ k, account.indexKey = some k → rows.byNaturalKey.find k = none) : AccountRows where
  accounts :=
    ⟨account :: rows.accounts.rows, List.pairwise_cons.mpr ⟨by
      intro a ha k hk
      cases hk
      exact (rows.accounts.find_eq_none_iff.mp hprimary) a ha, rows.accounts.unique⟩⟩
  naturalKeys := List.pairwise_cons.mpr
    ⟨fun a ha k hk => rows.byNaturalKey.find_eq_none_iff.mp (hindex k hk) a ha, rows.naturalKeys⟩
  access :=
    ⟨⟨account.tenantId, principalId, account.accountId⟩ :: rows.access.rows,
      List.pairwise_cons.mpr ⟨by
        intro g hg k hk hk'
        have heq : (g.tenantId, g.accountId) = (account.tenantId, account.accountId) := by
          rw [← hk] at hk'
          simp only [AgentAccountAccess.primaryKey, Option.some.injEq, Prod.mk.injEq] at hk'
          rw [hk'.1, hk'.2.2]
        have hsome := rows.accessOfAccounts g hg
        rw [heq, hprimary] at hsome
        exact absurd hsome (by simp), rows.access.unique⟩⟩
  accessOfAccounts := by
    intro g hg
    rw [IndexedTable.find, List.find?_isSome]
    rcases List.mem_cons.mp hg with rfl | hold
    · exact ⟨account, List.mem_cons_self, by simp [Account.primaryKey]⟩
    · have hsome := rows.accessOfAccounts g hold
      rw [IndexedTable.find, List.find?_isSome] at hsome
      obtain ⟨a, ha, hkey⟩ := hsome
      exact ⟨a, List.mem_cons_of_mem _ ha, hkey⟩
  staged := rows.staged
  stagedOfAccounts := by
    intro k hk
    have hsome := rows.stagedOfAccounts k hk
    rw [IndexedTable.find, List.find?_isSome] at hsome ⊢
    obtain ⟨a, ha, hkey⟩ := hsome
    exact ⟨a, List.mem_cons_of_mem _ ha, hkey⟩

/-- Another transaction commits a row it has staged. -/
def commitStaged
    (rows : AccountRows)
    (a : Account) : AccountRows :=
  { rows with
    staged := rows.staged.filter (· ≠ (a.tenantId, a.accountId))
    stagedOfAccounts := fun k hk => rows.stagedOfAccounts k (List.mem_of_mem_filter hk) }

/-- What `create` comes to: the new row, the occupant of its natural key, or a violation
of the other index. -/
inductive CreateOutcome
  | created (rows : AccountRows)
  | conflict (rows : AccountRows) (existing : Account)
  | integrityError

/-- `create`, and after it `grant_access`.  Where another transaction has staged the
natural key, the insert loses to it and the conflict is looked up again. -/
def create
    (rows : AccountRows)
    (account : Account)
    (principalId : String) : CreateOutcome :=
  match rows.findNaturalKeyConflict account with
  | some existing => .conflict rows existing
  | none =>
      if hprimary : rows.accounts.find (account.tenantId, account.accountId) = none then
        match hrival : account.indexKey.bind rows.byNaturalKey.find with
        | some rival =>
            match (rows.commitStaged rival).findNaturalKeyConflict account with
            | some existing => .conflict (rows.commitStaged rival) existing
            | none => .integrityError
        | none =>
            .created (rows.insertGranted account principalId hprimary (fun k hk => by
              rw [hk] at hrival
              exact hrival))
      else
        .integrityError

theorem eq_of_indexKey
    (rows : AccountRows)
    {a a' : Account} {k : IndexKey}
    (ha : a ∈ rows.accounts)
    (ha' : a' ∈ rows.accounts)
    (hk : a.indexKey = some k)
    (hk' : a'.indexKey = some k) :
    a = a' :=
  rows.byNaturalKey.eq_of_key_eq ha ha' hk hk'

theorem eq_of_accountId
    (rows : AccountRows)
    {a a' : Account}
    (ha : a ∈ rows.accounts)
    (ha' : a' ∈ rows.accounts)
    (htenant : a.tenantId = a'.tenantId)
    (hid : a.accountId = a'.accountId) :
    a = a' :=
  rows.accounts.eq_of_key_eq ha ha' rfl (by rw [Account.primaryKey, htenant, hid])

theorem find_eq_some_iff
    {rows : AccountRows} {tenantId accountId : String} {a : Account} :
    rows.accounts.find (tenantId, accountId) = some a ↔
      a ∈ rows.accounts ∧ a.tenantId = tenantId ∧ a.accountId = accountId := by
  rw [IndexedTable.find_eq_some_iff]
  simp [Account.primaryKey]

theorem getById_eq_some_iff
    {rows : AccountRows} {tenantId accountId : String} {a : Account} :
    rows.getById tenantId accountId = some a ↔
      (a ∈ rows.accounts ∧ a.tenantId = tenantId ∧ a.accountId = accountId) ∧
        rows.visible a = true := by
  rw [getById, Option.filter_eq_some_iff, find_eq_some_iff]

theorem mem_of_getByNaturalKey
    {rows : AccountRows} {tenantId : String} {key : NaturalKey} {a : Account}
    (h : rows.getByNaturalKey tenantId key = some a) :
    a ∈ rows.accounts ∧ rows.visible a = true ∧ a.tenantId = tenantId ∧ key.matches a = true := by
  have hcond := List.find?_some h
  simp only [Bool.and_eq_true, decide_eq_true_eq] at hcond
  exact ⟨List.mem_of_find?_eq_some h, hcond.1.1, hcond.1.2, hcond.2⟩

theorem mem_of_findNaturalKeyConflict
    {rows : AccountRows} {account a : Account}
    (h : rows.findNaturalKeyConflict account = some a) :
    a ∈ rows.accounts ∧ rows.visible a = true ∧ ∃ k, account.indexKey = some k ∧
      a.indexKey = some k := by
  rw [findNaturalKeyConflict, Option.filter_eq_some_iff, Option.bind_eq_some_iff] at h
  obtain ⟨⟨k, hk, hfind⟩, hvisible⟩ := h
  obtain ⟨hmem, hkey⟩ := rows.byNaturalKey.find_eq_some_iff.mp hfind
  exact ⟨hmem, hvisible, k, hk, hkey⟩

theorem tenantId_of_indexKey
    {a a' : Account} {k : IndexKey}
    (hk : a.indexKey = some k)
    (hk' : a'.indexKey = some k) :
    a.tenantId = a'.tenantId := by
  simp only [Account.indexKey, Option.map_eq_some_iff] at hk hk'
  obtain ⟨_, -, rfl⟩ := hk
  obtain ⟨_, -, heq⟩ := hk'
  exact (congrArg IndexKey.tenantId heq).symm

theorem mem_modify
    {rows : AccountRows} {tenantId accountId : String} {f : Account → Account}
    {hprimary : ∀ a, (f a).primaryKey = a.primaryKey}
    {hindex : ∀ a, (f a).indexKey = a.indexKey} {a' : Account} :
    a' ∈ (rows.modify tenantId accountId f hprimary hindex).accounts ↔
      ∃ a ∈ rows.accounts,
        (if a.primaryKey = some (tenantId, accountId) then f a else a) = a' :=
  @IndexedTable.mem_modify _ _ _ _ rows.accounts _ f hprimary a'

/-- The natural key is seen to be taken. -/
theorem create_of_conflict
    {rows : AccountRows} {account existing : Account} {principalId : String}
    (h : rows.findNaturalKeyConflict account = some existing) :
    rows.create account principalId = .conflict rows existing := by
  rw [create, h]

/-- The account id is taken. -/
theorem create_of_taken
    {rows : AccountRows} {account : Account} {principalId : String}
    (h : rows.findNaturalKeyConflict account = none)
    (htaken : rows.accounts.find (account.tenantId, account.accountId) ≠ none) :
    rows.create account principalId = .integrityError := by
  rw [create, h]
  exact dif_neg htaken

/-- The natural key is staged: the insert loses to the row that has it. -/
theorem create_of_rival
    {rows : AccountRows} {account rival : Account} {principalId : String}
    (h : rows.findNaturalKeyConflict account = none)
    (hprimary : rows.accounts.find (account.tenantId, account.accountId) = none)
    (hrival : account.indexKey.bind rows.byNaturalKey.find = some rival) :
    rows.create account principalId = .conflict (rows.commitStaged rival) rival := by
  obtain ⟨k, hk, hfind⟩ := Option.bind_eq_some_iff.mp hrival
  have hagain : (rows.commitStaged rival).findNaturalKeyConflict account = some rival := by
    rw [findNaturalKeyConflict, hk, Option.bind_some, Option.filter_eq_some_iff]
    exact ⟨hfind, by simp [visible, commitStaged]⟩
  unfold create
  rw [h]
  simp only [dif_pos hprimary]
  split
  · next found hfound =>
      rw [hrival] at hfound
      cases hfound
      rw [hagain]
  · next hfree =>
      rw [hrival] at hfree
      cases hfree

/-- Nothing is in the way. -/
theorem create_of_free
    {rows : AccountRows} {account : Account} {principalId : String}
    (h : rows.findNaturalKeyConflict account = none)
    (hprimary : rows.accounts.find (account.tenantId, account.accountId) = none)
    (hindex : ∀ k, account.indexKey = some k → rows.byNaturalKey.find k = none) :
    rows.create account principalId =
      .created (rows.insertGranted account principalId hprimary hindex) := by
  unfold create
  rw [h]
  simp only [dif_pos hprimary]
  split
  · next found hfound =>
      obtain ⟨k, hk, hfind⟩ := Option.bind_eq_some_iff.mp hfound
      rw [hindex k hk] at hfind
      cases hfind
  · rfl

theorem getById_of_visible
    {rows : AccountRows} {a : Account}
    (ha : a ∈ rows.accounts)
    (hvisible : rows.visible a = true) :
    rows.getById a.tenantId a.accountId = some a :=
  getById_eq_some_iff.mpr ⟨⟨ha, rfl, rfl⟩, hvisible⟩

end AccountRows
end Accounts
end SalesAgent
