import SalesAgent.Accounts.Entries
import SalesAgent.Signing.Capture
import SalesAgent.Signing.Posture

/-!
# The directory of a deployment

Tenants, their principals and their accounts, with the lookups the resolver of identities
makes.  A tenant is found by the host it is served at or by its id, and only while it is
active; a principal is a row of one tenant, found by the hash of its token or by the agent
URL it was onboarded at; an account is found for a principal that was granted access.

**Results.**
* `addressedTenant_eq_some_iff`: the tenant found is the one the headers name.
* `getPrincipalFromToken_eq_some_iff`, `getPrincipalByAgentUrl_eq_some_iff`: the principal
  found is the one that holds the token, or that was onboarded at the URL.
* `accessible_of_findAccount`: the account found is accessible.
-/

namespace SalesAgent
namespace Identity

open Accounts (Account AccountRef AccountRows NaturalKey)
open Signing (CapabilityDeclarations Headers getHeaderCaseInsensitive)

/-- A row of `tenants`, in the columns the resolver reads. -/
structure Tenant where
  tenantId : String
  virtualHostName : String
  isActive : Bool := true
  brandManifestPolicy : String := "require_auth"
  capabilityDeclarations : CapabilityDeclarations := .readable none
  deriving DecidableEq, Repr

/-- A row of `principals`, in the columns the resolver reads. -/
structure PrincipalRow where
  tenantId : String
  principalId : String
  name : String
  tokenHash : String
  agentUrl : Option String := none
  deriving DecidableEq, Repr

/-- `TenantContext`, in the fields the resolver reads. -/
structure TenantContext where
  tenantId : String
  brandManifestPolicy : String
  capabilityDeclarations : CapabilityDeclarations
  deriving DecidableEq, Repr

/-- `Principal`, without its adapter mappings. -/
structure Principal where
  principalId : String
  name : String
  agentUrl : Option String
  deriving DecidableEq, Repr

/-- `from_orm_model` -/
def Tenant.context
    (t : Tenant) : TenantContext :=
  ⟨t.tenantId, t.brandManifestPolicy, t.capabilityDeclarations⟩

/-- `from_row` -/
def PrincipalRow.principal
    (p : PrincipalRow) : Principal :=
  ⟨p.principalId, p.name, p.agentUrl⟩

/-- The primary key. -/
def Tenant.primaryKey
    (t : Tenant) : Option String :=
  some t.tenantId

/-- What `ux_tenants_virtual_host_name` indexes. -/
def Tenant.hostKey
    (t : Tenant) : Option String :=
  some t.virtualHostName

/-- The primary key. -/
def PrincipalRow.primaryKey
    (p : PrincipalRow) : Option (String × String) :=
  some (p.tenantId, p.principalId)

/-- The unique column. -/
def PrincipalRow.hashKey
    (p : PrincipalRow) : Option String :=
  some p.tokenHash

/-- What `uq_principals_tenant_agent_url` indexes. -/
def PrincipalRow.agentKey
    (p : PrincipalRow) : Option (String × String) :=
  p.agentUrl.map fun url => (p.tenantId, url)

/-- The rows, with the unique indexes of the schema. -/
structure Directory where
  tenants : IndexedTable Tenant String Tenant.primaryKey
  hostNames : tenants.rows.Pairwise
    (fun t t' => ∀ k, t.hostKey = some k → t'.hostKey ≠ some k)
  principals : IndexedTable PrincipalRow (String × String) PrincipalRow.primaryKey
  tokenHashes : principals.rows.Pairwise
    (fun p p' => ∀ k, p.hashKey = some k → p'.hashKey ≠ some k)
  agentUrls : principals.rows.Pairwise
    (fun p p' => ∀ k, p.agentKey = some k → p'.agentKey ≠ some k)
  accounts : AccountRows

/-- `urlsplit(f"//{host}").hostname or host`, for a host that `urlsplit` accepts. -/
def hostnameOf
    (host : String) : String :=
  let netloc := host.toList.takeWhile (· ∉ ['/', '?', '#'])
  let hostinfo := (netloc.reverse.takeWhile (· ≠ '@')).reverse
  let name :=
    if '[' ∈ hostinfo then
      ((hostinfo.dropWhile (· ≠ '[')).drop 1).takeWhile (· ≠ ']')
    else
      hostinfo.takeWhile (· ≠ ':')
  if name = [] then host else (String.ofList name).toLower

section Lookups

variable (dir : Directory) (headers : Headers)

/-- `active_tenant_id_for_virtual_host` -/
def Directory.activeTenantIdForVirtualHost
    (virtualHost : String) : Option String :=
  (dir.tenants.rows.find? fun t =>
    t.virtualHostName = hostnameOf virtualHost && t.isActive).map Tenant.tenantId

/-- `TenantContext.load`, through `find_active_by_id` -/
def Directory.loadTenant
    (tenantId : String) : Option TenantContext :=
  (dir.tenants.rows.find? fun t => t.tenantId = tenantId && t.isActive).map Tenant.context

/-- `find_by_token_hash` -/
def Directory.findByTokenHash
    (tenantId tokenHash : String) : Option PrincipalRow :=
  dir.principals.rows.find? fun p => p.tenantId = tenantId && p.tokenHash = tokenHash

/-- `find_by_agent_url` -/
def Directory.findByAgentUrl
    (tenantId agentUrl : String) : Option PrincipalRow :=
  dir.principals.rows.find? fun p => p.tenantId = tenantId && p.agentUrl = some agentUrl

/-- `get_principal_from_token` -/
def Directory.getPrincipalFromToken
    (hashToken : String → String)
    (token tenantId : String) : Option Principal :=
  (dir.findByTokenHash tenantId (hashToken token)).map PrincipalRow.principal

/-- `get_principal_by_agent_url` -/
def Directory.getPrincipalByAgentUrl
    (agentUrl tenantId : String) : Option Principal :=
  (dir.findByAgentUrl tenantId agentUrl).map PrincipalRow.principal

/-- The value of an optional text that is present and not empty. -/
def nonempty
    (text : Option String) : Option String :=
  text.filter (· ≠ "")

/-- `_detect_tenant` -/
def detectTenant : Option String :=
  match nonempty ((nonempty (getHeaderCaseInsensitive headers "host")).bind
      dir.activeTenantIdForVirtualHost) with
  | some tenantId => some tenantId
  | none => getHeaderCaseInsensitive headers "x-adcp-tenant"

/-- `_addressed_tenant` -/
def addressedTenant : Option TenantContext :=
  (nonempty (detectTenant dir headers)).bind dir.loadTenant

/-- The tenant is served at the requested host. -/
def Directory.ServedAt
    (t : Tenant) : Prop :=
  ∃ host, getHeaderCaseInsensitive headers "host" = some host ∧ host ≠ "" ∧
    t.virtualHostName = hostnameOf host

/-- The headers name an active tenant: by the host it is served at or, where no tenant is
served there, by its id. -/
structure Directory.Named
    (t : Tenant) : Prop where
  mem : t ∈ dir.tenants
  active : t.isActive = true
  ne : t.tenantId ≠ ""
  how : ServedAt headers t ∨
    (∀ t' ∈ dir.tenants, t'.isActive = true → t'.tenantId ≠ "" → ¬ ServedAt headers t') ∧
      getHeaderCaseInsensitive headers "x-adcp-tenant" = some t.tenantId

end Lookups

section Accounts

/-- A refusal of `find_account`. -/
inductive AccountRefusal
  | notFound
  | noAccess
  | ambiguous (matchCount : Nat)
  | setupRequired
  | suspended
  | paymentRequired
  deriving DecidableEq, Repr

variable (rows : AccountRows) (tenantId principalId : String)

/-- `_require_access` -/
def requireAccess
    (accountId : String) : Except AccountRefusal Unit :=
  if rows.hasAccess tenantId principalId accountId then .ok () else .error .noAccess

/-- `_check_status` -/
def checkStatus
    (account : Account) : Except AccountRefusal Unit :=
  match account.status with
  | .pendingApproval => .error .setupRequired
  | .suspended => .error .suspended
  | .paymentRequired => .error .paymentRequired
  | .active | .rejected | .closed => .ok ()

/-- The rows `list_by_natural_key` and `count_by_natural_key` select. -/
def scopedByNaturalKey
    (key : NaturalKey) : List Account :=
  rows.accounts.rows.filter fun a =>
    rows.visible a && a.tenantId = tenantId && key.matches a &&
      rows.hasAccess tenantId principalId a.accountId

/-- `_by_id` -/
def accountById
    (accountId : String) : Except AccountRefusal Account :=
  match rows.getById tenantId accountId with
  | none => .error .notFound
  | some account => do
      requireAccess rows tenantId principalId accountId
      checkStatus account
      return account

/-- `_by_natural_key` -/
def accountByNaturalKey
    (key : NaturalKey) : Except AccountRefusal Account :=
  match (scopedByNaturalKey rows tenantId principalId key).take 2 with
  | [] => .error .notFound
  | [account] => do
      requireAccess rows tenantId principalId account.accountId
      checkStatus account
      return account
  | _ => .error (.ambiguous (scopedByNaturalKey rows tenantId principalId key).length)

/-- `find_account` -/
def findAccount : AccountRef → Except AccountRefusal Account
  | .byId accountId => accountById rows tenantId principalId accountId
  | .byNaturalKey brand operator sandbox =>
      accountByNaturalKey rows tenantId principalId
        { domain := brand.domain, brandId := brand.brandId, operator := operator, sandbox := sandbox }

/-- The account is one of the tenant that the principal may use. -/
structure Accessible
    (account : Account) : Prop where
  mem : account ∈ rows.accounts
  tenant : account.tenantId = tenantId
  access : rows.hasAccess tenantId principalId account.accountId = true

end Accounts

section Addressing

variable {dir : Directory} {headers : Headers}

theorem nonempty_eq_some_iff
    {text : Option String}
    {value : String} :
    nonempty text = some value ↔ text = some value ∧ value ≠ "" := by
  simp [nonempty, Option.filter_eq_some_iff]

/-- The tenants under their host names. -/
def Directory.byHost
    (dir : Directory) : IndexedTable Tenant String Tenant.hostKey :=
  ⟨dir.tenants.rows, dir.hostNames⟩

theorem eq_of_servedAt
    {t t' : Tenant}
    (ht : t ∈ dir.tenants)
    (ht' : t' ∈ dir.tenants)
    (h : Directory.ServedAt headers t)
    (h' : Directory.ServedAt headers t') :
    t = t' := by
  obtain ⟨host, hhost, _, hname⟩ := h
  obtain ⟨host', hhost', _, hname'⟩ := h'
  have heq : host = host' := Option.some.inj (hhost.symm.trans hhost')
  subst heq
  refine dir.byHost.eq_of_key_eq (k := hostnameOf host) ht ht' ?_ ?_
  · rw [Tenant.hostKey, hname]
  · rw [Tenant.hostKey, hname']

theorem loadTenant_eq_some_iff
    {tenantId : String}
    {context : TenantContext} :
    dir.loadTenant tenantId = some context ↔
      ∃ t ∈ dir.tenants, t.tenantId = tenantId ∧ t.isActive = true ∧ t.context = context := by
  rw [Directory.loadTenant, Option.map_eq_some_iff]
  constructor
  · rintro ⟨t, hfind, hcontext⟩
    have hprop := List.find?_some hfind
    simp only [Bool.and_eq_true, decide_eq_true_eq] at hprop
    exact ⟨t, List.mem_of_find?_eq_some hfind, hprop.1, hprop.2, hcontext⟩
  · rintro ⟨t, hmem, hid, hactive, hcontext⟩
    cases hfind : dir.tenants.rows.find? fun t => t.tenantId = tenantId && t.isActive with
    | none =>
        have hno := List.find?_eq_none.mp hfind t hmem
        simp [hid, hactive] at hno
    | some t' =>
        have hprop := List.find?_some hfind
        simp only [Bool.and_eq_true, decide_eq_true_eq] at hprop
        have heq : t' = t := by
          refine dir.tenants.eq_of_key_eq (k := tenantId) (List.mem_of_find?_eq_some hfind) hmem ?_ ?_
          · rw [Tenant.primaryKey, hprop.1]
          · rw [Tenant.primaryKey, hid]
        exact ⟨t', rfl, heq ▸ hcontext⟩

theorem activeTenantId_eq_some_iff
    {tenantId : String} :
    (nonempty (getHeaderCaseInsensitive headers "host")).bind dir.activeTenantIdForVirtualHost =
        some tenantId ↔
      ∃ t ∈ dir.tenants, t.isActive = true ∧ Directory.ServedAt headers t ∧
        t.tenantId = tenantId := by
  constructor
  · intro h
    obtain ⟨host, hhost, hfound⟩ := Option.bind_eq_some_iff.mp h
    obtain ⟨hheader, hne⟩ := nonempty_eq_some_iff.mp hhost
    obtain ⟨t, hfind, hid⟩ := Option.map_eq_some_iff.mp hfound
    have hprop := List.find?_some hfind
    simp only [Bool.and_eq_true, decide_eq_true_eq] at hprop
    exact ⟨t, List.mem_of_find?_eq_some hfind, hprop.2, ⟨host, hheader, hne, hprop.1⟩, hid⟩
  · rintro ⟨t, hmem, hactive, hserved, hid⟩
    have hserved' := hserved
    obtain ⟨host, hheader, hne, hname⟩ := hserved
    refine Option.bind_eq_some_iff.mpr ⟨host, nonempty_eq_some_iff.mpr ⟨hheader, hne⟩, ?_⟩
    cases hfind : dir.tenants.rows.find? fun t =>
        t.virtualHostName = hostnameOf host && t.isActive with
    | none =>
        have hno := List.find?_eq_none.mp hfind t hmem
        simp [hname, hactive] at hno
    | some t' =>
        have hprop := List.find?_some hfind
        simp only [Bool.and_eq_true, decide_eq_true_eq] at hprop
        have heq : t' = t :=
          eq_of_servedAt (List.mem_of_find?_eq_some hfind) hmem ⟨host, hheader, hne, hprop.1⟩ hserved'
        rw [Directory.activeTenantIdForVirtualHost, hfind, Option.map_some, heq, hid]

theorem detectTenant_of_named
    {t : Tenant}
    (h : dir.Named headers t) :
    detectTenant dir headers = some t.tenantId := by
  rw [detectTenant]
  rcases h.how with hserved | ⟨hnone, hheader⟩
  · have hfound : nonempty ((nonempty (getHeaderCaseInsensitive headers "host")).bind
        dir.activeTenantIdForVirtualHost) = some t.tenantId :=
      nonempty_eq_some_iff.mpr
        ⟨activeTenantId_eq_some_iff.mpr ⟨t, h.mem, h.active, hserved, rfl⟩, h.ne⟩
    rw [hfound]
  · cases hfound : nonempty ((nonempty (getHeaderCaseInsensitive headers "host")).bind
        dir.activeTenantIdForVirtualHost) with
    | none =>
        exact hheader
    | some tenantId =>
        obtain ⟨hactive, hne⟩ := nonempty_eq_some_iff.mp hfound
        obtain ⟨t', hmem, hactive', hserved, hid⟩ := activeTenantId_eq_some_iff.mp hactive
        exact absurd hserved (hnone t' hmem hactive' (hid ▸ hne))

theorem named_of_detectTenant
    {t : Tenant}
    (hmem : t ∈ dir.tenants)
    (hactive : t.isActive = true)
    (hne : t.tenantId ≠ "")
    (h : detectTenant dir headers = some t.tenantId) :
    dir.Named headers t := by
  refine ⟨hmem, hactive, hne, ?_⟩
  rw [detectTenant] at h
  cases hfound : nonempty ((nonempty (getHeaderCaseInsensitive headers "host")).bind
      dir.activeTenantIdForVirtualHost) with
  | some tenantId =>
      rw [hfound] at h
      cases h
      obtain ⟨t', hmem', _, hserved, hid⟩ :=
        activeTenantId_eq_some_iff.mp (nonempty_eq_some_iff.mp hfound).1
      have heq : t' = t := by
        refine dir.tenants.eq_of_key_eq (k := t.tenantId) hmem' hmem ?_ rfl
        rw [Tenant.primaryKey, hid]
      exact Or.inl (heq ▸ hserved)
  | none =>
      rw [hfound] at h
      refine Or.inr ⟨fun t' hmem' hactive' hne' hserved => ?_, h⟩
      have hsome := nonempty_eq_some_iff.mpr
        ⟨activeTenantId_eq_some_iff.mpr ⟨t', hmem', hactive', hserved, rfl⟩, hne'⟩
      rw [hfound] at hsome
      cases hsome

/-- The tenant found is the one the headers name. -/
theorem addressedTenant_eq_some_iff
    {context : TenantContext} :
    addressedTenant dir headers = some context ↔
      ∃ t, dir.Named headers t ∧ t.context = context := by
  rw [addressedTenant, Option.bind_eq_some_iff]
  constructor
  · rintro ⟨tenantId, hdetect, hload⟩
    obtain ⟨hdetected, hne⟩ := nonempty_eq_some_iff.mp hdetect
    obtain ⟨t, hmem, hid, hactive, hcontext⟩ := loadTenant_eq_some_iff.mp hload
    subst hid
    exact ⟨t, named_of_detectTenant hmem hactive hne hdetected, hcontext⟩
  · rintro ⟨t, hnamed, hcontext⟩
    exact ⟨t.tenantId, nonempty_eq_some_iff.mpr ⟨detectTenant_of_named hnamed, hnamed.ne⟩,
      loadTenant_eq_some_iff.mpr ⟨t, hnamed.mem, rfl, hnamed.active, hcontext⟩⟩

end Addressing

section Principals

variable {dir : Directory}

/-- A principal of the tenant holds a token with this hash. -/
def Directory.HoldsToken
    (dir : Directory)
    (tenantId tokenHash : String)
    (p : Principal) : Prop :=
  ∃ row ∈ dir.principals, row.tenantId = tenantId ∧ row.tokenHash = tokenHash ∧
    row.principal = p

/-- A principal of the tenant was onboarded at this agent URL. -/
def Directory.OnboardedAt
    (dir : Directory)
    (tenantId agentUrl : String)
    (p : Principal) : Prop :=
  ∃ row ∈ dir.principals, row.tenantId = tenantId ∧ row.agentUrl = some agentUrl ∧
    row.principal = p

/-- The lookup by token finds the principal that holds it. -/
theorem getPrincipalFromToken_eq_some_iff
    {hashToken : String → String}
    {token tenantId : String}
    {p : Principal} :
    dir.getPrincipalFromToken hashToken token tenantId = some p ↔
      dir.HoldsToken tenantId (hashToken token) p := by
  rw [Directory.getPrincipalFromToken, Option.map_eq_some_iff]
  constructor
  · rintro ⟨row, hfind, hp⟩
    have hprop := List.find?_some hfind
    simp only [Bool.and_eq_true, decide_eq_true_eq] at hprop
    exact ⟨row, List.mem_of_find?_eq_some hfind, hprop.1, hprop.2, hp⟩
  · rintro ⟨row, hmem, htenant, hhash, hp⟩
    cases hfind : dir.findByTokenHash tenantId (hashToken token) with
    | none =>
        have hno := List.find?_eq_none.mp hfind row hmem
        simp [htenant, hhash] at hno
    | some row' =>
        have hprop := List.find?_some hfind
        simp only [Bool.and_eq_true, decide_eq_true_eq] at hprop
        have heq : row' = row := by
          let byHash : IndexedTable PrincipalRow String PrincipalRow.hashKey :=
            ⟨dir.principals.rows, dir.tokenHashes⟩
          refine byHash.eq_of_key_eq (k := hashToken token)
            (List.mem_of_find?_eq_some hfind) hmem ?_ ?_
          · rw [PrincipalRow.hashKey, hprop.2]
          · rw [PrincipalRow.hashKey, hhash]
        exact ⟨row', rfl, heq ▸ hp⟩

/-- The lookup by agent URL finds the principal that was onboarded there. -/
theorem getPrincipalByAgentUrl_eq_some_iff
    {agentUrl tenantId : String}
    {p : Principal} :
    dir.getPrincipalByAgentUrl agentUrl tenantId = some p ↔
      dir.OnboardedAt tenantId agentUrl p := by
  rw [Directory.getPrincipalByAgentUrl, Option.map_eq_some_iff]
  constructor
  · rintro ⟨row, hfind, hp⟩
    have hprop := List.find?_some hfind
    simp only [Bool.and_eq_true, decide_eq_true_eq] at hprop
    exact ⟨row, List.mem_of_find?_eq_some hfind, hprop.1, hprop.2, hp⟩
  · rintro ⟨row, hmem, htenant, hurl, hp⟩
    cases hfind : dir.findByAgentUrl tenantId agentUrl with
    | none =>
        have hno := List.find?_eq_none.mp hfind row hmem
        simp [htenant, hurl] at hno
    | some row' =>
        have hprop := List.find?_some hfind
        simp only [Bool.and_eq_true, decide_eq_true_eq] at hprop
        have heq : row' = row := by
          let byUrl : IndexedTable PrincipalRow (String × String) PrincipalRow.agentKey :=
            ⟨dir.principals.rows, dir.agentUrls⟩
          refine byUrl.eq_of_key_eq (k := (tenantId, agentUrl))
            (List.mem_of_find?_eq_some hfind) hmem ?_ ?_
          · rw [PrincipalRow.agentKey, hprop.2, Option.map_some, hprop.1]
          · rw [PrincipalRow.agentKey, hurl, Option.map_some, htenant]
        exact ⟨row', rfl, heq ▸ hp⟩

end Principals

section Accounts

variable {rows : AccountRows} {tenantId principalId : String}

theorem accessible_of_checks
    {found account : Account}
    (hmem : found ∈ rows.accounts)
    (htenant : found.tenantId = tenantId)
    (h : (do
      requireAccess rows tenantId principalId found.accountId
      checkStatus found
      return found) = Except.ok account) :
    Accessible rows tenantId principalId account := by
  cases haccess : rows.hasAccess tenantId principalId found.accountId with
  | false =>
      rw [requireAccess, haccess] at h
      cases h
  | true =>
      rw [requireAccess, haccess] at h
      cases hstatus : checkStatus found with
      | error refusal =>
          rw [hstatus] at h
          cases h
      | ok _ =>
          rw [hstatus] at h
          cases h
          exact ⟨hmem, htenant, haccess⟩

/-- The account found for a principal is accessible to it. -/
theorem accessible_of_findAccount
    {ref : AccountRef}
    {account : Account}
    (h : findAccount rows tenantId principalId ref = .ok account) :
    Accessible rows tenantId principalId account := by
  cases ref with
  | byId accountId =>
      rw [findAccount, accountById] at h
      cases hget : rows.getById tenantId accountId with
      | none =>
          rw [hget] at h
          cases h
      | some found =>
          rw [hget] at h
          obtain ⟨⟨hmem, htenant, hid⟩, _⟩ := AccountRows.getById_eq_some_iff.mp hget
          subst hid
          exact accessible_of_checks hmem htenant h
  | byNaturalKey brand operator sandbox =>
      rw [findAccount, accountByNaturalKey] at h
      split at h
      · cases h
      · next found hfound =>
          have hmem : found ∈ scopedByNaturalKey rows tenantId principalId
              { domain := brand.domain, brandId := brand.brandId, operator := operator,
                sandbox := sandbox } :=
            List.mem_of_mem_take (hfound ▸ List.mem_singleton_self found)
          obtain ⟨hrow, hprop⟩ := List.mem_filter.mp hmem
          simp only [Bool.and_eq_true, decide_eq_true_eq] at hprop
          exact accessible_of_checks hrow hprop.1.1.2 h
      · cases h

end Accounts

end Identity
end SalesAgent
