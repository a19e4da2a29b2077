import Mathlib.Data.List.Sort
import Mathlib.Data.Prod.Lex
import Mathlib.Data.String.Basic
import SalesAgent.DateTime
import SalesAgent.Lib.IndexedTable

/-!
# The signing keys of a tenant

A row binds the id of a key to both of its halves.  Three selectors read the table: the
key that signs at an instant, by its window; the keys that are published at an instant,
by their revocation and a grace period; and every key ever revoked.  Rows are written in
two places: provisioning mints a key, and a revocation stamps one.

The key operations of the SDK are parameters, as are the random parts of a mint and the
time the database gives a row.

**Results.**
* `mem_publishableAt`: what is published.
* `resolveSigningMaterial_eq_ok`: the row behind the material a tenant signs with.
* `mem_revokedKids`, `revokedKids_stampRow`: what a revocation list names, and when a second
  revocation leaves it as it is.
* `provisionSigningKey_eq_ok`: what provisioning writes.
-/

namespace SalesAgent
namespace SigningKeys

/-- An `AdCPConfigurationError`: the field it names, and the capability it is about. -/
structure ConfigurationError where
  field : Option String
  capability : String
  rejectedValue : Option String
  deriving DecidableEq, Repr

/-- `MINTABLE_PURPOSES` -/
def mintablePurposes : List String :=
  ["request-signing"]

/-- A purpose the check constraint of the column admits. -/
abbrev Purpose :=
  { purpose : String // purpose ∈ mintablePurposes }

/-- `REQUEST_SIGNING` -/
def requestSigning : Purpose :=
  ⟨"request-signing", by decide⟩

theorem Purpose.eq_requestSigning
    (purpose : Purpose) :
    purpose = requestSigning :=
  Subtype.ext (List.mem_singleton.mp purpose.2)

/-- `narrow_purpose` -/
def narrowPurpose
    (purpose : String) : Except ConfigurationError Purpose :=
  if h : purpose ∈ mintablePurposes then .ok ⟨purpose, h⟩
  else .error ⟨some "purpose", "signing_purpose", some purpose⟩

/-- `SIGNING_ALG_VALUES` -/
def signingAlgValues : List String :=
  ["ecdsa-p256-sha256", "ed25519"]

/-- An algorithm the check constraint of the column admits. -/
abbrev SigningAlgorithm :=
  { alg : String // alg ∈ signingAlgValues }

/-- `narrow_alg` -/
def narrowAlg
    (alg : String) : Except ConfigurationError SigningAlgorithm :=
  if h : alg ∈ signingAlgValues then .ok ⟨alg, h⟩
  else .error ⟨some "alg", "signing_alg", some alg⟩

/-- `mint_kid`, with the time as it is formatted and the random token. -/
def mintKid
    (tenantId stamp token : String) : Except ConfigurationError String :=
  if tenantId = "" then .error ⟨some "tenant_id", "signing_key", none⟩
  else .ok (tenantId ++ "-" ++ stamp ++ "-" ++ token)

/-- `CACHE_MAX_AGE_SECONDS` -/
def cacheMaxAgeSeconds : Int :=
  300

/-- The settings of the signing layer that govern its keys. -/
structure KeySettings where
  graceSeconds : Int
  revocationIntervalSeconds : Int
  keyPassphrase : Option String
  grace_exceeds : cacheMaxAgeSeconds < graceSeconds
  interval_floor : cacheMaxAgeSeconds ≤ revocationIntervalSeconds
  interval_ceiling : revocationIntervalSeconds ≤ 1800

/-- The key operations of the SDK. -/
structure KeySdk (Jwk PrivateKey : Type) where
  loadPrivateKeyPem : List UInt8 → Option String → Option PrivateKey
  pemToAdcpJwk : List UInt8 → String → Purpose → Option String → Jwk

/-- A row of `signing_keys`. -/
structure SigningKey (Jwk : Type) where
  tenantId : String
  kid : String
  alg : SigningAlgorithm
  purpose : Purpose
  publicJwk : Jwk
  privateKeyPemEncrypted : List UInt8
  notBefore : DateTime
  notAfter : Option DateTime
  revokedAt : Option DateTime
  createdAt : DateTime

variable {Jwk PrivateKey : Type}

/-- `uq_signing_keys_tenant_kid` -/
def SigningKey.tenantKid
    (key : SigningKey Jwk) : Option (String × String) :=
  some (key.tenantId, key.kid)

/-- The table `signing_keys`. -/
abbrev KeyTable (Jwk : Type) :=
  IndexedTable (SigningKey Jwk) (String × String) SigningKey.tenantKid

section Repository

variable (keys : KeyTable Jwk) (tenantId : String)

/-- The rows of a query, in its order. -/
def ordered
    {α : Type} [LinearOrder α]
    (sortKey : SigningKey Jwk → α)
    (rows : List (SigningKey Jwk)) : List (SigningKey Jwk) :=
  rows.insertionSort (fun a b => sortKey a ≤ sortKey b)

/-- `created_at DESC, kid ASC` -/
def SigningKey.newestFirst
    (key : SigningKey Jwk) : Int ×ₗ String :=
  toLex (-key.createdAt, key.kid)

/-- `revoked_at DESC, kid ASC`, of revoked keys. -/
def SigningKey.lastRevokedFirst
    (key : SigningKey Jwk) : Int ×ₗ String :=
  toLex (-(key.revokedAt.getD 0), key.kid)

@[simp] theorem mem_ordered
    {α : Type} [LinearOrder α]
    (sortKey : SigningKey Jwk → α)
    (rows : List (SigningKey Jwk))
    (key : SigningKey Jwk) :
    key ∈ ordered sortKey rows ↔ key ∈ rows :=
  List.mem_insertionSort _

theorem pairwise_ordered
    {α : Type} [LinearOrder α]
    (sortKey : SigningKey Jwk → α)
    (rows : List (SigningKey Jwk)) :
    (ordered sortKey rows).Pairwise (fun a b => sortKey a ≤ sortKey b) := by
  have htotal : Std.Total (fun a b : SigningKey Jwk => sortKey a ≤ sortKey b) :=
    ⟨fun a b => le_total (sortKey a) (sortKey b)⟩
  have htrans : IsTrans (SigningKey Jwk) (fun a b => sortKey a ≤ sortKey b) :=
    ⟨fun _ _ _ => le_trans⟩
  exact List.pairwise_insertionSort _ rows

theorem map_ordered_map
    {α : Type} [LinearOrder α]
    {sortKey : SigningKey Jwk → α} {rows : List (SigningKey Jwk)}
    {change : SigningKey Jwk → SigningKey Jwk}
    (h : (ordered sortKey rows).Pairwise
      (fun a b => sortKey (change a) ≤ sortKey (change b))) :
    (ordered sortKey (rows.map change)).map sortKey =
      (ordered sortKey rows).map (fun key => sortKey (change key)) := by
  have hsame : ((ordered sortKey (rows.map change)).map sortKey).Perm
      ((ordered sortKey rows).map (fun key => sortKey (change key))) := by
    refine ((List.perm_insertionSort _ _).map sortKey).trans ?_
    rw [List.map_map]
    exact ((List.perm_insertionSort _ rows).map (sortKey ∘ change)).symm
  exact hsame.eq_of_pairwise' (List.pairwise_map.mpr (pairwise_ordered sortKey _))
    (List.pairwise_map.mpr h)

/-- `get_by_kid` -/
def getByKid
    (kid : String) : Option (SigningKey Jwk) :=
  keys.find (tenantId, kid)

/-- The window of a key is open, and it is not revoked. -/
def SigningKey.activeAt
    (now : DateTime)
    (key : SigningKey Jwk) : Bool :=
  key.revokedAt.isNone && key.notBefore ≤ now && key.notAfter.all (now < ·)

/-- `active_at` -/
def activeAt
    (now : DateTime)
    (purpose : Purpose) : Option (SigningKey Jwk) :=
  (ordered SigningKey.newestFirst (keys.rows.filter (fun key =>
    key.tenantId = tenantId && key.purpose = purpose && key.activeAt now))).head?

/-- A key is not revoked, or its grace period runs. -/
def SigningKey.publishableAt
    (now : DateTime)
    (graceSeconds : Int)
    (key : SigningKey Jwk) : Bool :=
  key.revokedAt.all (now - Timedelta.seconds graceSeconds < ·)

/-- `publishable_at` -/
def publishableAt
    (now : DateTime)
    (graceSeconds : Int)
    (purpose : Purpose) : List (SigningKey Jwk) :=
  ordered SigningKey.newestFirst (keys.rows.filter (fun key =>
    key.tenantId = tenantId && key.purpose = purpose && key.publishableAt now graceSeconds))

/-- `all_revoked` -/
def allRevoked
    (purpose : Purpose) : List (SigningKey Jwk) :=
  ordered SigningKey.lastRevokedFirst (keys.rows.filter (fun key =>
    key.tenantId = tenantId && key.purpose = purpose && key.revokedAt.isSome))

section Selected

variable {keys tenantId}

theorem activeAt_eq_some
    {now : DateTime} {purpose : Purpose} {row : SigningKey Jwk}
    (h : activeAt keys tenantId now purpose = some row) :
    row ∈ keys ∧ row.tenantId = tenantId ∧ row.activeAt now = true := by
  have hmem := List.mem_of_mem_head? (Option.mem_def.mpr h)
  rw [mem_ordered, List.mem_filter] at hmem
  simp only [Bool.and_eq_true, decide_eq_true_eq] at hmem
  exact ⟨hmem.1, hmem.2.1.1, hmem.2.2⟩

/-- What is published. -/
theorem mem_publishableAt
    {now : DateTime} {graceSeconds : Int} {purpose : Purpose} {row : SigningKey Jwk} :
    row ∈ publishableAt keys tenantId now graceSeconds purpose ↔
      row ∈ keys ∧ row.tenantId = tenantId ∧ row.publishableAt now graceSeconds = true := by
  rw [publishableAt, mem_ordered, List.mem_filter, row.purpose.eq_requestSigning,
    purpose.eq_requestSigning]
  simp [IndexedTable.mem_def]

theorem mem_allRevoked
    {purpose : Purpose} {row : SigningKey Jwk} :
    row ∈ allRevoked keys tenantId purpose ↔
      row ∈ keys ∧ row.tenantId = tenantId ∧ row.revokedAt.isSome = true := by
  rw [allRevoked, mem_ordered, List.mem_filter, row.purpose.eq_requestSigning,
    purpose.eq_requestSigning]
  simp [IndexedTable.mem_def]

end Selected

/-- `create_from_keypair` -/
def createFromKeypair
    (key : SigningKey Jwk) : Option (KeyTable Jwk) :=
  keys.insert key

/-- The stamp of a revocation. -/
def SigningKey.stamped
    (stamp : DateTime)
    (key : SigningKey Jwk) : SigningKey Jwk :=
  { key with revokedAt := some stamp }

/-- The rows with one key of the tenant stamped. -/
def stampRow
    (kid : String)
    (stamp : DateTime) : KeyTable Jwk :=
  keys.modify (tenantId, kid) (SigningKey.stamped stamp) (fun _ => rfl)

/-- `revoke`: the rows it leaves, where the tenant has the key. -/
def revoke
    (kid : String)
    (stamp : DateTime) : Option (KeyTable Jwk) :=
  (getByKid keys tenantId kid).map (fun _ => stampRow keys tenantId kid stamp)

end Repository

theorem mem_stampRow
    {keys : KeyTable Jwk} {tenantId kid : String} {stamp : DateTime} {row : SigningKey Jwk} :
    row ∈ stampRow keys tenantId kid stamp ↔
      ∃ old ∈ keys,
        row = if old.tenantKid = some (tenantId, kid) then old.stamped stamp else old :=
  (IndexedTable.mem_modify keys).trans
    ⟨fun ⟨old, hold, h⟩ => ⟨old, hold, h.symm⟩, fun ⟨old, hold, h⟩ => ⟨old, hold, h.symm⟩⟩

section Provider

variable [DecidableEq Jwk]
variable (sdk : KeySdk Jwk PrivateKey) (settings : KeySettings)
variable (keys : KeyTable Jwk) (tenantId : String) (now : DateTime)

/-- `assert_pem_publishes_jwk` -/
def assertPemPublishesJwk
    (pem : List UInt8)
    (kid : String)
    (purpose : Purpose)
    (publicJwk : Jwk) : Except ConfigurationError PrivateKey :=
  match sdk.loadPrivateKeyPem pem settings.keyPassphrase with
  | none => .error ⟨none, "signing_key", some kid⟩
  | some privateKey =>
      if sdk.pemToAdcpJwk pem kid purpose settings.keyPassphrase = publicJwk then .ok privateKey
      else .error ⟨none, "signing_key", some kid⟩

/-- `_select_row` -/
def selectRow
    (purpose : Purpose) : Option String → Except ConfigurationError (SigningKey Jwk)
  | some kid =>
      match getByKid keys tenantId kid with
      | none => .error ⟨none, "signing_key", some kid⟩
      | some row =>
          if row.revokedAt.isSome then .error ⟨none, "signing_key", some kid⟩
          else .ok row
  | none =>
      match activeAt keys tenantId now purpose with
      | none => .error ⟨none, purpose.1, none⟩
      | some row => .ok row

/-- `SigningMaterial` -/
structure SigningMaterial (PrivateKey : Type) where
  privateKey : PrivateKey
  kid : String
  alg : SigningAlgorithm

/-- `_build_material` -/
def buildMaterial
    (row : SigningKey Jwk) : Except ConfigurationError (SigningMaterial PrivateKey) :=
  (assertPemPublishesJwk sdk settings row.privateKeyPemEncrypted row.kid row.purpose
    row.publicJwk).map (⟨·, row.kid, row.alg⟩)

/-- `resolve_signing_material` -/
def resolveSigningMaterial
    (purpose : Purpose)
    (kid : Option String) : Except ConfigurationError (SigningMaterial PrivateKey) :=
  (selectRow keys tenantId now purpose kid).bind (buildMaterial sdk settings)

variable {sdk settings keys tenantId now}

omit [DecidableEq Jwk] in
theorem selectRow_eq_ok
    {purpose : Purpose} {kid : Option String} {row : SigningKey Jwk}
    (h : selectRow keys tenantId now purpose kid = .ok row) :
    row ∈ keys ∧ row.tenantId = tenantId ∧ row.revokedAt = none := by
  cases kid with
  | some kid =>
      rw [selectRow] at h
      cases hfind : getByKid keys tenantId kid with
      | none =>
          rw [hfind] at h
          cases h
      | some found =>
          rw [hfind] at h
          dsimp only at h
          split at h
          · cases h
          · next hlive =>
              cases h
              obtain ⟨hmem, hkey⟩ := keys.find_eq_some_iff.mp hfind
              exact ⟨hmem, (Prod.mk.inj (Option.some.inj hkey)).1,
                Option.not_isSome_iff_eq_none.mp hlive⟩
  | none =>
      rw [selectRow] at h
      cases hactive : activeAt keys tenantId now purpose with
      | none =>
          rw [hactive] at h
          cases h
      | some found =>
          rw [hactive] at h
          cases h
          obtain ⟨hmem, htenant, hopen⟩ := activeAt_eq_some hactive
          rw [SigningKey.activeAt, Bool.and_eq_true, Bool.and_eq_true] at hopen
          exact ⟨hmem, htenant, Option.isNone_iff_eq_none.mp hopen.1.1⟩

/-- The row behind the material a tenant signs with. -/
theorem resolveSigningMaterial_eq_ok
    {purpose : Purpose} {kid : Option String} {material : SigningMaterial PrivateKey}
    (h : resolveSigningMaterial sdk settings keys tenantId now purpose kid = .ok material) :
    ∃ row ∈ keys, row.tenantId = tenantId ∧ row.revokedAt = none ∧ material.kid = row.kid := by
  rw [resolveSigningMaterial] at h
  cases hselect : selectRow keys tenantId now purpose kid with
  | error err =>
      rw [hselect] at h
      cases h
  | ok row =>
      obtain ⟨hmem, htenant, hlive⟩ := selectRow_eq_ok hselect
      refine ⟨row, hmem, htenant, hlive, ?_⟩
      rw [hselect] at h
      change buildMaterial sdk settings row = .ok material at h
      rw [buildMaterial] at h
      cases hload : assertPemPublishesJwk sdk settings row.privateKeyPemEncrypted row.kid
          row.purpose row.publicJwk with
      | error err =>
          rw [hload] at h
          cases h
      | ok privateKey =>
          rw [hload] at h
          cases h
          rfl

end Provider

section Provisioning

variable [DecidableEq Jwk]
variable (sdk : KeySdk Jwk PrivateKey) (settings : KeySettings) (keys : KeyTable Jwk)

/-- What is asked of `provision_signing_key`. -/
structure ProvisionRequest where
  tenantId : String
  alg : String
  kid : Option String := none
  purpose : String := requestSigning.1

/-- What a mint draws: the minted key, the parts of its id, and the time of its row. -/
structure Draw (Jwk : Type) where
  pem : List UInt8
  publicJwk : Jwk
  stamp : String
  token : String
  createdAt : DateTime

/-- Why nothing is provisioned. -/
inductive ProvisionFailure
  | configuration (err : ConfigurationError)
  /-- the unique constraint refuses the row -/
  | integrity
  deriving DecidableEq, Repr

/-- `kid or mint_kid(tenant_id, now)` -/
def ProvisionRequest.kidOrMinted
    (request : ProvisionRequest)
    (draw : Draw Jwk) : Except ConfigurationError String :=
  match request.kid.filter (· ≠ "") with
  | some kid => .ok kid
  | none => mintKid request.tenantId draw.stamp draw.token

/-- The row a mint is to write, or why it refuses. -/
def mintedRow
    (repoTenant : String)
    (now : DateTime)
    (request : ProvisionRequest)
    (draw : Draw Jwk) : Except ConfigurationError (SigningKey Jwk) := do
  if request.tenantId ≠ repoTenant then
    throw ⟨none, "signing_key", some request.tenantId⟩
  let storedAlg ← narrowAlg request.alg
  let storedPurpose ← narrowPurpose request.purpose
  let kid ← request.kidOrMinted draw
  if kid = "" then
    throw ⟨none, "signing_key", some kid⟩
  if settings.keyPassphrase.isNone then
    throw ⟨none, "signing_key", none⟩
  let _ ← assertPemPublishesJwk sdk settings draw.pem kid storedPurpose draw.publicJwk
  return {
    tenantId := repoTenant
    kid := kid
    alg := storedAlg
    purpose := storedPurpose
    publicJwk := draw.publicJwk
    privateKeyPemEncrypted := draw.pem
    notBefore := now
    notAfter := none
    revokedAt := none
    createdAt := draw.createdAt }

/-- `provision_signing_key`, with the table it leaves. -/
def provisionSigningKey
    (repoTenant : String)
    (now : DateTime)
    (request : ProvisionRequest)
    (draw : Draw Jwk) : Except ProvisionFailure (KeyTable Jwk × String) :=
  match mintedRow sdk settings repoTenant now request draw with
  | .error err => .error (.configuration err)
  | .ok row =>
      match createFromKeypair keys row with
      | none => .error .integrity
      | some written => .ok (written, row.kid)

variable {sdk settings keys}

theorem mintedRow_eq_ok
    {repoTenant : String} {now : DateTime} {request : ProvisionRequest} {draw : Draw Jwk}
    {row : SigningKey Jwk}
    (h : mintedRow sdk settings repoTenant now request draw = .ok row) :
    row.tenantId = repoTenant ∧ row.notBefore = now ∧ row.notAfter = none ∧
      row.revokedAt = none := by
  unfold mintedRow at h
  simp only [bind, Except.bind, pure, Except.pure, throw, throwThe, MonadExceptOf.throw] at h
  repeat' split at h
  all_goals first | cases h; exact ⟨rfl, rfl, rfl, rfl⟩ | cases h

/-- What provisioning writes. -/
theorem provisionSigningKey_eq_ok
    {repoTenant : String} {now : DateTime} {request : ProvisionRequest} {draw : Draw Jwk}
    {written : KeyTable Jwk} {kid : String}
    (h : provisionSigningKey sdk settings keys repoTenant now request draw = .ok (written, kid)) :
    ∃ row, keys.insert row = some written ∧ row.tenantId = repoTenant ∧ row.kid = kid ∧
      row.revokedAt = none := by
  unfold provisionSigningKey at h
  cases hminted : mintedRow sdk settings repoTenant now request draw with
  | error err =>
      rw [hminted] at h
      cases h
  | ok row =>
      obtain ⟨htenant, -, -, hlive⟩ := mintedRow_eq_ok hminted
      rw [hminted] at h
      dsimp only [createFromKeypair] at h
      cases hinsert : keys.insert row with
      | none =>
          rw [hinsert] at h
          cases h
      | some library =>
          rw [hinsert] at h
          cases h
          exact ⟨row, hinsert, htenant, rfl, hlive⟩

end Provisioning

section RevocationLists

/-- The payload of a combined revocation list. -/
structure RevocationList where
  version : Int
  issuer : String
  updated : DateTime
  nextUpdate : DateTime
  revokedKids : List String
  deriving DecidableEq, Repr

/-- `int(now.timestamp()) // interval_seconds * interval_seconds` -/
def updatedTs
    (now : DateTime)
    (intervalSeconds : Int) : Int :=
  now.tdiv 1000000 / intervalSeconds * intervalSeconds

/-- `build_revocation_list` -/
def buildRevocationList
    (issuer : String)
    (revokedKeys : List (SigningKey Jwk))
    (now : DateTime)
    (intervalSeconds : Int) : RevocationList :=
  let updated : DateTime := Timedelta.seconds (updatedTs now intervalSeconds)
  { version := updatedTs now intervalSeconds
    issuer := issuer
    updated := updated
    nextUpdate := updated + Timedelta.seconds intervalSeconds
    revokedKids := revokedKeys.map (·.kid) }

/-- A signed list: the header names the algorithm and the key that signed it. -/
structure SignedRevocationList where
  alg : SigningAlgorithm
  kid : String
  payload : RevocationList

/-- `publishable_revocation_list` -/
def publishableRevocationList
    [DecidableEq Jwk]
    (sdk : KeySdk Jwk PrivateKey)
    (settings : KeySettings)
    (keys : KeyTable Jwk)
    (tenantId issuer : String)
    (now : DateTime) : Option (SignedRevocationList × DateTime) :=
  match resolveSigningMaterial sdk settings keys tenantId now requestSigning none with
  | .error _ => none
  | .ok material =>
      let payload := buildRevocationList issuer (allRevoked keys tenantId requestSigning) now
        settings.revocationIntervalSeconds
      some (⟨material.alg, material.kid, payload⟩, payload.nextUpdate)

theorem publishableRevocationList_eq_some
    [DecidableEq Jwk]
    {sdk : KeySdk Jwk PrivateKey} {settings : KeySettings} {keys : KeyTable Jwk}
    {tenantId issuer : String} {now nextUpdate : DateTime} {document : SignedRevocationList}
    (h : publishableRevocationList sdk settings keys tenantId issuer now =
      some (document, nextUpdate)) :
    document.payload = buildRevocationList issuer (allRevoked keys tenantId requestSigning) now
      settings.revocationIntervalSeconds := by
  unfold publishableRevocationList at h
  split at h
  · cases h
  · cases h
    rfl

theorem updatedTs_mono
    {now later : DateTime} {intervalSeconds : Int}
    (hpositive : 0 < intervalSeconds)
    (h : now ≤ later) :
    updatedTs now intervalSeconds ≤ updatedTs later intervalSeconds := by
  have hseconds : now.tdiv 1000000 ≤ later.tdiv 1000000 :=
    Int.tdiv_le_tdiv (by decide) h
  have hbuckets := Int.ediv_le_ediv hpositive hseconds
  exact mul_le_mul_of_nonneg_right hbuckets hpositive.le

variable (keys : KeyTable Jwk) (tenantId : String)

/-- The ids a list of the tenant names. -/
def revokedKids : List String :=
  (allRevoked keys tenantId requestSigning).map (·.kid)

theorem mem_revokedKids
    {kid : String} :
    kid ∈ revokedKids keys tenantId ↔
      ∃ row ∈ keys, row.tenantId = tenantId ∧ row.kid = kid ∧ row.revokedAt.isSome = true := by
  simp only [revokedKids, List.mem_map, mem_allRevoked]
  constructor
  · rintro ⟨row, ⟨hmem, htenant, hrevoked⟩, hkid⟩
    exact ⟨row, hmem, htenant, hkid, hrevoked⟩
  · rintro ⟨row, hmem, htenant, hkid, hrevoked⟩
    exact ⟨row, ⟨hmem, htenant, hrevoked⟩, hkid⟩

variable {keys tenantId}

theorem revokedKids_insert
    {written : KeyTable Jwk} {row : SigningKey Jwk}
    (h : keys.insert row = some written)
    (hlive : row.revokedAt = none) :
    revokedKids written tenantId = revokedKids keys tenantId := by
  rw [revokedKids, allRevoked, (keys.insert_eq_some_iff.mp h).2,
    List.filter_cons_of_neg (by simp [hlive])]
  rfl

theorem revokedKids_of_ordered
    {tenant kid : String} {stamp : DateTime}
    (hrevoked : ∀ key ∈ keys, key.tenantId = tenantId → key.tenantKid = some (tenant, kid) →
      key.revokedAt.isSome = true)
    (hordered : (allRevoked keys tenantId requestSigning).Pairwise (fun a b =>
      (if a.tenantKid = some (tenant, kid) then a.stamped stamp else a).lastRevokedFirst ≤
        (if b.tenantKid = some (tenant, kid) then b.stamped stamp else b).lastRevokedFirst)) :
    revokedKids (stampRow keys tenant kid stamp) tenantId = revokedKids keys tenantId := by
  have hkept : (stampRow keys tenant kid stamp).rows.filter (fun key =>
        key.tenantId = tenantId && key.purpose = requestSigning && key.revokedAt.isSome) =
      (keys.rows.filter (fun key =>
        key.tenantId = tenantId && key.purpose = requestSigning && key.revokedAt.isSome)).map
          (fun key => if key.tenantKid = some (tenant, kid) then key.stamped stamp else key) := by
    have hrows : (stampRow keys tenant kid stamp).rows = keys.rows.map
        (fun key => if key.tenantKid = some (tenant, kid) then key.stamped stamp else key) := rfl
    rw [hrows, List.filter_map]
    congr 1
    refine List.filter_congr fun key hkey => ?_
    by_cases hstamped : key.tenantKid = some (tenant, kid)
    · by_cases htenant : key.tenantId = tenantId
      · simp [hstamped, SigningKey.stamped, htenant, hrevoked key hkey htenant hstamped]
      · simp [hstamped, SigningKey.stamped, htenant]
    · simp [hstamped]
  have hsorted := congrArg (List.map (fun place => (ofLex place).2)) (map_ordered_map hordered)
  rw [List.map_map, List.map_map] at hsorted
  rw [revokedKids, allRevoked, hkept]
  refine hsorted.trans (List.map_congr_left fun key _ => ?_)
  dsimp only [Function.comp_apply, SigningKey.lastRevokedFirst, ofLex_toLex]
  split <;> rfl

theorem revokedKids_stampRow_of_ne
    {tenant kid : String} {stamp : DateTime}
    (h : tenant ≠ tenantId) :
    revokedKids (stampRow keys tenant kid stamp) tenantId = revokedKids keys tenantId := by
  have hother : ∀ key : SigningKey Jwk, key.tenantId = tenantId →
      ¬ key.tenantKid = some (tenant, kid) := by
    intro key htenant hkey
    exact h ((Prod.mk.inj (Option.some.inj hkey)).1.symm.trans htenant)
  refine revokedKids_of_ordered (fun key _ htenant hkey => absurd hkey (hother key htenant)) ?_
  refine (pairwise_ordered _ _).imp_of_mem fun {a b} ha hb hab => ?_
  rw [if_neg (hother a (mem_allRevoked.mp ha).2.1), if_neg (hother b (mem_allRevoked.mp hb).2.1)]
  exact hab

/-- A key keeps its place when it is revoked again: every key listed before it was revoked at
the same instant, with a smaller id. -/
structure KeepsPlace
    (keys : KeyTable Jwk)
    (row : SigningKey Jwk)
    (stamp : DateTime) : Prop where
  revoked : row.revokedAt.isSome = true
  place : ∀ other ∈ allRevoked keys row.tenantId requestSigning,
    other.lastRevokedFirst < row.lastRevokedFirst →
      other.revokedAt = some stamp ∧ other.kid < row.kid

theorem stamped_le
    {a b : SigningKey Jwk} {stamp : DateTime}
    (h : a.lastRevokedFirst ≤ b.lastRevokedFirst)
    (ha : a.revokedAt.isSome = true)
    (hb : b.revokedAt.isSome = true)
    (hapast : ∀ r, a.revokedAt = some r → r ≤ stamp)
    (hbpast : ∀ r, b.revokedAt = some r → r ≤ stamp) :
    (a.stamped stamp).lastRevokedFirst ≤ b.lastRevokedFirst := by
  obtain ⟨ra, hra⟩ := Option.isSome_iff_exists.mp ha
  obtain ⟨rb, hrb⟩ := Option.isSome_iff_exists.mp hb
  have haStamp : ra ≤ stamp := hapast ra hra
  have hbStamp : rb ≤ stamp := hbpast rb hrb
  rw [SigningKey.lastRevokedFirst, SigningKey.lastRevokedFirst, Prod.Lex.toLex_le_toLex] at h ⊢
  simp only [SigningKey.stamped, hra, hrb, Option.getD_some] at h ⊢
  rcases lt_or_eq_of_le hbStamp with hlt | rfl
  · exact .inl (neg_lt_neg hlt)
  · rcases h with hlt | ⟨-, hkid⟩
    · exact absurd haStamp (not_le.mpr (neg_lt_neg_iff.mp hlt))
    · exact .inr ⟨rfl, hkid⟩

/-- A second revocation of a key that keeps its place leaves the list as it is. -/
theorem revokedKids_stampRow
    {row : SigningKey Jwk} {stamp : DateTime}
    (hmem : row ∈ keys)
    (hpast : ∀ key ∈ keys, ∀ r, key.revokedAt = some r → r ≤ stamp)
    (hplace : KeepsPlace keys row stamp) :
    revokedKids (stampRow keys row.tenantId row.kid stamp) tenantId =
      revokedKids keys tenantId := by
  by_cases htenant : row.tenantId = tenantId
  · subst htenant
    have hself : ∀ key ∈ keys, key.tenantKid = some (row.tenantId, row.kid) → key = row :=
      fun key hkey hsame => keys.eq_of_key_eq hkey hmem hsame rfl
    refine revokedKids_of_ordered (fun key hkey _ hsame => ?_) ?_
    · rw [hself key hkey hsame]
      exact hplace.revoked
    · refine (pairwise_ordered _ _).imp_of_mem fun {a b} ha hb hab => ?_
      have ha' := mem_allRevoked.mp ha
      have hb' := mem_allRevoked.mp hb
      by_cases hastamped : a.tenantKid = some (row.tenantId, row.kid)
      · by_cases hbstamped : b.tenantKid = some (row.tenantId, row.kid)
        · rw [if_pos hastamped, if_pos hbstamped, hself a ha'.1 hastamped,
            hself b hb'.1 hbstamped]
        · rw [if_pos hastamped, if_neg hbstamped]
          exact stamped_le hab ha'.2.2 hb'.2.2 (hpast a ha'.1) (hpast b hb'.1)
      · by_cases hbstamped : b.tenantKid = some (row.tenantId, row.kid)
        · rw [if_neg hastamped, if_pos hbstamped]
          obtain rfl := hself b hb'.1 hbstamped
          have hbefore : a.lastRevokedFirst < b.lastRevokedFirst := by
            refine lt_of_le_of_ne hab fun hsame => hastamped ?_
            have hkid : a.kid = b.kid := congrArg (fun place => (ofLex place).2) hsame
            rw [SigningKey.tenantKid, hkid, ha'.2.1]
          obtain ⟨hstamp, hkid⟩ := hplace.place a ha hbefore
          rw [SigningKey.lastRevokedFirst, SigningKey.lastRevokedFirst, Prod.Lex.toLex_le_toLex]
          exact .inr ⟨by rw [hstamp]; rfl, hkid.le⟩
        · rw [if_neg hastamped, if_neg hbstamped]
          exact hab
  · exact revokedKids_stampRow_of_ne htenant

end RevocationLists

end SigningKeys
end SalesAgent
