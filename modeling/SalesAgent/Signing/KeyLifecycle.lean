import SalesAgent.Lib.Runs
import SalesAgent.Signing.Keys

/-!
# The life of a signing key

Time passes; keys are provisioned and revoked; revocation lists are built and served.  A
key that signs is published until its grace period after a revocation is over, it never
signs once it is revoked, and every later list names it.

Two operations break what the documents promise.  A revocation in the middle of a version
bucket changes the list under a version that was served before.  A key that is revoked
again after its grace period is published again.

**Results.**
* `Step.sound`: what the table and the log of revocations have to do with each other.
* `keyLaws_of_disciplined`: the laws of the lifecycle, along every run that avoids the two.
* `version_reused`: one version with two contents.
-/

namespace SalesAgent
namespace SigningKeys

open Runs (Run Restrict Preserved)

/-- A revocation that was carried out. -/
structure Revocation where
  tenantId : String
  kid : String
  revokedAt : DateTime
  deriving DecidableEq, Repr

/-- The clock, the table, the revocations so far and the lists served, latest first. -/
structure KeyState (Jwk : Type) where
  clock : DateTime
  keys : KeyTable Jwk
  revocations : List Revocation
  served : List (String × RevocationList)

/-- What happens. -/
inductive KeyEvent (Jwk : Type)
  | passed (elapsed : Nat)
  | provisioned (repoTenant : String) (request : ProvisionRequest) (draw : Draw Jwk)
  | revoked (tenantId kid : String)
  | listed (tenantId : String)

variable {Jwk PrivateKey : Type} [DecidableEq Jwk]

section Lifecycle

variable (sdk : KeySdk Jwk PrivateKey) (settings : KeySettings) (issuer : String → String)

/-- The state an event leaves. -/
def KeyState.after
    (s : KeyState Jwk) : KeyEvent Jwk → KeyState Jwk
  | .passed elapsed => { s with clock := s.clock + elapsed }
  | .provisioned repoTenant request draw =>
      match provisionSigningKey sdk settings s.keys repoTenant s.clock request draw with
      | .error _ => s
      | .ok (written, _) => { s with keys := written }
  | .revoked tenantId kid =>
      match revoke s.keys tenantId kid s.clock with
      | none => s
      | some stamped =>
          { s with
            keys := stamped
            revocations := ⟨tenantId, kid, s.clock⟩ :: s.revocations }
  | .listed tenantId =>
      match publishableRevocationList sdk settings s.keys tenantId (issuer tenantId) s.clock with
      | none => s
      | some (document, _) => { s with served := (tenantId, document.payload) :: s.served }

/-- A state leads to the one its event leaves. -/
def Step
    (s : KeyState Jwk)
    (e : KeyEvent Jwk)
    (t : KeyState Jwk) : Prop :=
  s.after sdk settings issuer e = t

/-- The keys a tenant publishes. -/
def KeyState.published
    (s : KeyState Jwk)
    (tenantId : String) : List (SigningKey Jwk) :=
  publishableAt s.keys tenantId s.clock settings.graceSeconds requestSigning

/-- The key of the id was revoked, and its grace period runs; or it was never revoked. -/
def KeyState.InGrace
    (s : KeyState Jwk)
    (tenantId kid : String) : Prop :=
  (∀ r ∈ s.revocations, ¬ (r.tenantId = tenantId ∧ r.kid = kid)) ∨
    ∃ r ∈ s.revocations, r.tenantId = tenantId ∧ r.kid = kid ∧
      s.clock < r.revokedAt + Timedelta.seconds settings.graceSeconds

/-- The laws of the lifecycle, between an earlier state and a later one. -/
structure KeyLaws
    (s t : KeyState Jwk) : Prop where
  /-- a key that resolves is published up to its revocation and the grace period -/
  published : ∀ tenantId purpose kid row,
    selectRow s.keys tenantId s.clock purpose kid = .ok row →
      t.InGrace settings tenantId row.kid →
        ∃ row' ∈ t.published settings tenantId,
          row'.kid = row.kid ∧ row'.publicJwk = row.publicJwk
  /-- a revoked key does not sign -/
  retired : ∀ r ∈ s.revocations, ∀ purpose kid material,
    resolveSigningMaterial sdk settings t.keys r.tenantId t.clock purpose kid = .ok material →
      material.kid ≠ r.kid
  /-- every later list names a revoked key -/
  listed : ∀ r ∈ s.revocations, ∀ document nextUpdate,
    publishableRevocationList sdk settings t.keys r.tenantId (issuer r.tenantId) t.clock =
        some (document, nextUpdate) →
      r.kid ∈ document.payload.revokedKids
  /-- versions do not go back, and one version has one content -/
  versioned : ∀ tenantId list, (tenantId, list) ∈ s.served → ∀ document nextUpdate,
    publishableRevocationList sdk settings t.keys tenantId (issuer tenantId) t.clock =
        some (document, nextUpdate) →
      list.version ≤ document.payload.version ∧ list.updated ≤ document.payload.updated ∧
        (list.version = document.payload.version →
          list.revokedKids = document.payload.revokedKids)
  /-- a key that is no longer published is not published again -/
  removed : ∀ row ∈ s.keys, row ∉ s.published settings row.tenantId →
    ∀ row' ∈ t.published settings row.tenantId, row'.kid ≠ row.kid

/-- A list of the tenant was served under the version of the present bucket. -/
def KeyState.BucketServed
    (s : KeyState Jwk)
    (tenantId : String) : Prop :=
  ∃ list, (tenantId, list) ∈ s.served ∧
    list.version = updatedTs s.clock settings.revocationIntervalSeconds

/-- A revocation is of a key that is published, and after a list of the same bucket it does
not move the key in the list. -/
def Disciplined
    (s : KeyState Jwk) : KeyEvent Jwk → Prop
  | .passed _ => True
  | .provisioned _ _ _ => True
  | .revoked tenantId kid =>
      ∀ row, getByKid s.keys tenantId kid = some row →
        row.publishableAt s.clock settings.graceSeconds = true ∧
          (s.BucketServed settings tenantId → KeepsPlace s.keys row s.clock)
  | .listed _ => True

variable {sdk settings issuer}

/-- What a step does. -/
inductive Effect (s : KeyState Jwk) : KeyEvent Jwk → KeyState Jwk → Prop
  | passed (elapsed : Nat) :
      Effect s (.passed elapsed) { s with clock := s.clock + elapsed }
  | inserted {e : KeyEvent Jwk} {row : SigningKey Jwk} {written : KeyTable Jwk} :
      s.keys.insert row = some written →
      row.revokedAt = none →
      Effect s e { s with keys := written }
  | stamped {row : SigningKey Jwk} :
      row ∈ s.keys →
      Effect s (.revoked row.tenantId row.kid)
        { s with
          keys := stampRow s.keys row.tenantId row.kid s.clock
          revocations := ⟨row.tenantId, row.kid, s.clock⟩ :: s.revocations }
  | listed {tenantId : String} {document : SignedRevocationList} {nextUpdate : DateTime} :
      publishableRevocationList sdk settings s.keys tenantId (issuer tenantId) s.clock =
        some (document, nextUpdate) →
      Effect s (.listed tenantId)
        { s with served := (tenantId, document.payload) :: s.served }
  | unchanged (e : KeyEvent Jwk) :
      Effect s e s

theorem Step.effect
    {s t : KeyState Jwk} {e : KeyEvent Jwk}
    (h : Step sdk settings issuer s e t) :
    @Effect Jwk PrivateKey _ sdk settings issuer s e t := by
  subst h
  cases e with
  | passed elapsed => exact .passed elapsed
  | provisioned repoTenant request draw =>
      rw [KeyState.after]
      split
      · exact .unchanged _
      · next written kid hprovisioned =>
          obtain ⟨row, hinsert, -, -, hlive⟩ := provisionSigningKey_eq_ok hprovisioned
          exact .inserted hinsert hlive
  | revoked tenantId kid =>
      rw [KeyState.after, revoke]
      cases hfind : getByKid s.keys tenantId kid with
      | none => exact .unchanged _
      | some row =>
          obtain ⟨hmem, hkey⟩ := s.keys.find_eq_some_iff.mp hfind
          obtain ⟨rfl, rfl⟩ := Prod.mk.inj (Option.some.inj hkey)
          exact .stamped hmem
  | listed tenantId =>
      rw [KeyState.after]
      split
      · exact .unchanged _
      · next document nextUpdate hlist => exact .listed hlist

/-- The table has a row of this key, with these public halves. -/
def KeyState.Has
    (s : KeyState Jwk)
    (key : String × String)
    (publicJwk : Jwk) : Prop :=
  ∃ row ∈ s.keys, row.tenantKid = some key ∧ row.publicJwk = publicJwk

theorem Step.has
    {key : String × String} {publicJwk : Jwk} :
    Preserved (Step sdk settings issuer) (fun s => s.Has key publicJwk) := by
  intro s e t hstep hhas
  obtain ⟨row, hrow, hkey, hjwk⟩ := hhas
  cases hstep.effect with
  | passed elapsed => exact ⟨row, hrow, hkey, hjwk⟩
  | inserted hinsert hlive =>
      exact ⟨row, (IndexedTable.mem_insert hinsert row).mpr (.inr hrow), hkey, hjwk⟩
  | @stamped stamped hmem =>
      refine ⟨_, mem_stampRow.mpr ⟨row, hrow, rfl⟩, ?_, ?_⟩
      · split <;> exact hkey
      · split <;> exact hjwk
  | listed hlist => exact ⟨row, hrow, hkey, hjwk⟩
  | unchanged => exact ⟨row, hrow, hkey, hjwk⟩

/-- What the table and the log of revocations have to do with each other. -/
structure Sound
    (s : KeyState Jwk) : Prop where
  past : ∀ row ∈ s.keys, ∀ r, row.revokedAt = some r → r ≤ s.clock
  logged : ∀ row ∈ s.keys, ∀ r, row.revokedAt = some r →
    ⟨row.tenantId, row.kid, r⟩ ∈ s.revocations
  stamped : ∀ r ∈ s.revocations, ∃ row ∈ s.keys, row.tenantKid = some (r.tenantId, r.kid) ∧
    ∃ stamp, row.revokedAt = some stamp ∧ r.revokedAt ≤ stamp

theorem Step.sound :
    Preserved (Step sdk settings issuer) Sound := by
  intro s e t hstep h
  cases hstep.effect with
  | passed elapsed =>
      refine ⟨fun row hrow r hr => ?_, h.logged, h.stamped⟩
      have hpast := h.past row hrow r hr
      change r ≤ s.clock + elapsed
      exact le_add_of_le_of_nonneg hpast (Int.natCast_nonneg elapsed)
  | @inserted _ row written hinsert hlive =>
      refine ⟨fun key hkey r hr => ?_, fun key hkey r hr => ?_, fun r hr => ?_⟩
      · rcases (IndexedTable.mem_insert hinsert key).mp hkey with rfl | hold
        · rw [hlive] at hr
          cases hr
        · exact h.past key hold r hr
      · rcases (IndexedTable.mem_insert hinsert key).mp hkey with rfl | hold
        · rw [hlive] at hr
          cases hr
        · exact h.logged key hold r hr
      · obtain ⟨key, hkey, hstamped⟩ := h.stamped r hr
        exact ⟨key, (IndexedTable.mem_insert hinsert key).mpr (.inr hkey), hstamped⟩
  | @stamped row hmem =>
      refine ⟨fun key hkey r hr => ?_, fun key hkey r hr => ?_, fun r hr => ?_⟩
      · obtain ⟨old, hold, rfl⟩ := mem_stampRow.mp hkey
        split at hr
        · cases hr
          exact le_refl s.clock
        · exact h.past old hold r hr
      · obtain ⟨old, hold, rfl⟩ := mem_stampRow.mp hkey
        split at hr
        · next hsame =>
            cases hr
            rw [if_pos hsame]
            obtain ⟨htenant, hkid⟩ := Prod.mk.inj (Option.some.inj hsame)
            refine List.mem_cons.mpr (.inl ?_)
            simp only [SigningKey.stamped, htenant, hkid]
        · next hother =>
            rw [if_neg hother]
            exact List.mem_cons_of_mem _ (h.logged old hold r hr)
      · rcases List.mem_cons.mp hr with rfl | hold
        · have hself : row.tenantKid = some (row.tenantId, row.kid) := rfl
          exact ⟨_, mem_stampRow.mpr ⟨row, hmem, rfl⟩, by rw [if_pos hself]; rfl, s.clock,
            by rw [if_pos hself]; rfl, le_refl s.clock⟩
        · obtain ⟨old, hmemOld, hkey, stamp, hstamp, hle⟩ := h.stamped r hold
          by_cases hsame : old.tenantKid = some (row.tenantId, row.kid)
          · refine ⟨_, mem_stampRow.mpr ⟨old, hmemOld, rfl⟩, by rw [if_pos hsame]; exact hkey,
              s.clock, by rw [if_pos hsame]; rfl, ?_⟩
            exact hle.trans (h.past old hmemOld stamp hstamp)
          · exact ⟨_, mem_stampRow.mpr ⟨old, hmemOld, rfl⟩, by rw [if_neg hsame]; exact hkey,
              stamp, by rw [if_neg hsame]; exact hstamp, hle⟩
  | listed hlist => exact ⟨h.past, h.logged, h.stamped⟩
  | unchanged => exact h

/-- The key of the id has left the published set. -/
def KeyState.Gone
    (settings : KeySettings)
    (s : KeyState Jwk)
    (key : String × String) : Prop :=
  ∃ row ∈ s.keys, row.tenantKid = some key ∧
    row.publishableAt s.clock settings.graceSeconds = false

omit [DecidableEq Jwk] in
theorem publishableAt_mono
    {row : SigningKey Jwk} {now later : DateTime} {graceSeconds : Int}
    (hle : now ≤ later)
    (h : row.publishableAt now graceSeconds = false) :
    row.publishableAt later graceSeconds = false := by
  unfold SigningKey.publishableAt at h ⊢
  cases hrevoked : row.revokedAt with
  | none =>
      rw [hrevoked] at h
      cases h
  | some r =>
      rw [hrevoked] at h
      simp only [Option.all_some, decide_eq_false_iff_not, not_lt] at h ⊢
      exact h.trans (sub_le_sub_right hle _)

/-- Without a second revocation after the grace period, what has left stays away. -/
theorem Step.gone
    {key : String × String} :
    Preserved (Restrict (Step sdk settings issuer) (Disciplined settings))
      (fun s => s.Gone settings key) := by
  intro s e t hstep hgone
  obtain ⟨row, hrow, hkey, hover⟩ := hgone
  obtain ⟨hstep, hcond⟩ := hstep
  cases hstep.effect with
  | passed elapsed =>
      exact ⟨row, hrow, hkey, publishableAt_mono
        (le_add_of_nonneg_right (Int.natCast_nonneg elapsed)) hover⟩
  | inserted hinsert hlive =>
      exact ⟨row, (IndexedTable.mem_insert hinsert row).mpr (.inr hrow), hkey, hover⟩
  | @stamped stamped hmem =>
      have hshown := (hcond stamped (s.keys.find_eq_some_iff.mpr ⟨hmem, rfl⟩)).1
      have hother : ¬ row.tenantKid = some (stamped.tenantId, stamped.kid) := by
        intro hsame
        obtain rfl := s.keys.eq_of_key_eq hrow hmem hsame rfl
        rw [hover] at hshown
        cases hshown
      refine ⟨row, mem_stampRow.mpr ⟨row, hrow, ?_⟩, hkey, hover⟩
      rw [if_neg hother]
  | listed hlist => exact ⟨row, hrow, hkey, hover⟩
  | unchanged => exact ⟨row, hrow, hkey, hover⟩

/-- The lists served agree with the table: no version is of a later bucket, and a list of the
present bucket is the one the table gives. -/
structure ListsAgree
    (settings : KeySettings)
    (s : KeyState Jwk) : Prop where
  dated : ∀ served ∈ s.served, served.2.updated = Timedelta.seconds served.2.version
  version : ∀ served ∈ s.served,
    served.2.version ≤ updatedTs s.clock settings.revocationIntervalSeconds
  content : ∀ served ∈ s.served,
    served.2.version = updatedTs s.clock settings.revocationIntervalSeconds →
      served.2.revokedKids = revokedKids s.keys served.1

theorem KeySettings.interval_pos
    (settings : KeySettings) :
    0 < settings.revocationIntervalSeconds :=
  lt_of_lt_of_le (by decide) settings.interval_floor

/-- Where no revocation moves a list under a version that was served, the lists agree. -/
theorem Step.listsAgree :
    Preserved (Restrict (Step sdk settings issuer) (Disciplined settings))
      (fun s => Sound s ∧ ListsAgree settings s) := by
  intro s e t hstep h
  obtain ⟨hsound, h⟩ := h
  obtain ⟨hstep, hcond⟩ := hstep
  refine ⟨Step.sound hstep hsound, ?_⟩
  cases hstep.effect with
  | passed elapsed =>
      have hlater : updatedTs s.clock settings.revocationIntervalSeconds ≤
          updatedTs (s.clock + elapsed) settings.revocationIntervalSeconds :=
        updatedTs_mono settings.interval_pos
          (le_add_of_nonneg_right (Int.natCast_nonneg elapsed))
      refine ⟨h.dated, fun served hserved => (h.version served hserved).trans hlater,
        fun served hserved hversion => h.content served hserved ?_⟩
      exact le_antisymm (h.version served hserved) (hlater.trans_eq hversion.symm)
  | inserted hinsert hlive =>
      refine ⟨h.dated, h.version, fun served hserved hversion => ?_⟩
      exact (h.content served hserved hversion).trans (revokedKids_insert hinsert hlive).symm
  | @stamped row hmem =>
      refine ⟨h.dated, h.version, fun served hserved hversion => ?_⟩
      refine (h.content served hserved hversion).trans ?_
      by_cases htenant : row.tenantId = served.1
      · have hplace := (hcond row (s.keys.find_eq_some_iff.mpr ⟨hmem, rfl⟩)).2
          ⟨served.2, by rw [htenant]; exact hserved, hversion⟩
        exact (revokedKids_stampRow hmem hsound.past hplace).symm
      · exact (revokedKids_stampRow_of_ne htenant).symm
  | @listed tenantId document nextUpdate hlist =>
      have hpayload := publishableRevocationList_eq_some hlist
      refine ⟨fun served hserved => ?_, fun served hserved => ?_,
        fun served hserved hversion => ?_⟩
      · rcases List.mem_cons.mp hserved with rfl | hold
        · rw [hpayload]
          rfl
        · exact h.dated served hold
      · rcases List.mem_cons.mp hserved with rfl | hold
        · rw [hpayload]
          exact le_refl _
        · exact h.version served hold
      · rcases List.mem_cons.mp hserved with rfl | hold
        · rw [hpayload]
          rfl
        · exact h.content served hold hversion
  | unchanged => exact h

theorem Step.keeps_revocation
    {r : Revocation} :
    Preserved (Step sdk settings issuer) (fun s => r ∈ s.revocations) := by
  intro s e t hstep hr
  cases hstep.effect with
  | passed elapsed => exact hr
  | inserted hinsert hlive => exact hr
  | stamped hmem => exact List.mem_cons_of_mem _ hr
  | listed hlist => exact hr
  | unchanged => exact hr

theorem Step.keeps_served
    {served : String × RevocationList} :
    Preserved (Step sdk settings issuer) (fun s => served ∈ s.served) := by
  intro s e t hstep hserved
  cases hstep.effect with
  | passed elapsed => exact hserved
  | inserted hinsert hlive => exact hserved
  | stamped hmem => exact hserved
  | listed hlist => exact List.mem_cons_of_mem _ hserved
  | unchanged => exact hserved

theorem sound_start
    (settings : KeySettings)
    (start : DateTime) :
    Sound (⟨start, .empty, [], []⟩ : KeyState Jwk) ∧
      ListsAgree settings (⟨start, .empty, [], []⟩ : KeyState Jwk) :=
  ⟨⟨fun row hrow => absurd hrow (IndexedTable.not_mem_empty row),
      fun row hrow => absurd hrow (IndexedTable.not_mem_empty row), nofun⟩,
    ⟨nofun, nofun, nofun⟩⟩

theorem resolveSigningMaterial_not_revoked
    {s : KeyState Jwk} {r : Revocation} {purpose : Purpose} {kid : Option String}
    {material : SigningMaterial PrivateKey}
    (hsound : Sound s)
    (hr : r ∈ s.revocations)
    (h : resolveSigningMaterial sdk settings s.keys r.tenantId s.clock purpose kid =
      .ok material) :
    material.kid ≠ r.kid := by
  intro hkid
  obtain ⟨row, hrow, htenant, hlive, hsame⟩ := resolveSigningMaterial_eq_ok h
  obtain ⟨key, hkey, hkeyed, stamp, hstamp, -⟩ := hsound.stamped r hr
  have hrowKeyed : row.tenantKid = some (r.tenantId, r.kid) := by
    rw [SigningKey.tenantKid, htenant, ← hsame, hkid]
  obtain rfl := s.keys.eq_of_key_eq hkey hrow hkeyed hrowKeyed
  rw [hlive] at hstamp
  cases hstamp

theorem mem_revokedKids_of_logged
    {s : KeyState Jwk} {r : Revocation}
    (hsound : Sound s)
    (hr : r ∈ s.revocations) :
    r.kid ∈ revokedKids s.keys r.tenantId := by
  obtain ⟨key, hkey, hkeyed, stamp, hstamp, -⟩ := hsound.stamped r hr
  obtain ⟨htenant, hkid⟩ := Prod.mk.inj (Option.some.inj hkeyed)
  exact (mem_revokedKids _ _).mpr ⟨key, hkey, htenant, hkid, by rw [hstamp]; rfl⟩

theorem published_of_inGrace
    {s : KeyState Jwk} {row : SigningKey Jwk}
    (hsound : Sound s)
    (hrow : row ∈ s.keys)
    (hgrace : s.InGrace settings row.tenantId row.kid) :
    row ∈ s.published settings row.tenantId := by
  refine mem_publishableAt.mpr ⟨hrow, rfl, ?_⟩
  unfold SigningKey.publishableAt
  cases hrevoked : row.revokedAt with
  | none => rfl
  | some stamp =>
      have hlogged := hsound.logged row hrow stamp hrevoked
      rcases hgrace with hnever | ⟨r, hr, htenant, hkid, hrunning⟩
      · exact absurd ⟨rfl, rfl⟩ (hnever _ hlogged)
      · obtain ⟨key, hkey, hsame, last, hlast, hle⟩ := hsound.stamped r hr
        rw [htenant, hkid] at hsame
        obtain rfl := s.keys.eq_of_key_eq hkey hrow hsame rfl
        rw [hrevoked] at hlast
        cases hlast
        simp only [Option.all_some, decide_eq_true_eq]
        exact sub_lt_iff_lt_add.mpr (hrunning.trans_le (add_le_add_left hle _))

/-- The laws hold between any two states of a run that revokes only published keys, and moves
no key in a list under a version that was served. -/
theorem keyLaws_of_disciplined
    {start : DateTime} {s t : KeyState Jwk} {es fs : List (KeyEvent Jwk)}
    (hbefore : Run (Restrict (Step sdk settings issuer) (Disciplined settings))
      ⟨start, .empty, [], []⟩ es s)
    (hafter : Run (Restrict (Step sdk settings issuer) (Disciplined settings)) s fs t) :
    KeyLaws sdk settings issuer s t := by
  obtain ⟨hsoundS, -⟩ := hbefore.preserves Step.listsAgree (sound_start settings start)
  obtain ⟨hsound, hlists⟩ :=
    (hbefore.append hafter).preserves Step.listsAgree (sound_start settings start)
  have hplain := hafter.of_restrict
  refine ⟨?_, ?_, ?_, ?_, ?_⟩
  · intro tenantId purpose kid row hselect hgrace
    obtain ⟨hrow, rfl, -⟩ := selectRow_eq_ok hselect
    obtain ⟨later, hlater, hkeyed, hjwk⟩ :=
      hplain.preserves Step.has (⟨row, hrow, rfl, rfl⟩ : s.Has _ row.publicJwk)
    obtain ⟨htenant, hkid⟩ := Prod.mk.inj (Option.some.inj hkeyed)
    rw [← htenant, ← hkid] at hgrace
    rw [← htenant]
    exact ⟨later, published_of_inGrace hsound hlater hgrace, hkid, hjwk⟩
  · intro r hr purpose kid material hmaterial
    exact resolveSigningMaterial_not_revoked hsound (hplain.preserves Step.keeps_revocation hr)
      hmaterial
  · intro r hr document nextUpdate hlist
    rw [publishableRevocationList_eq_some hlist]
    exact mem_revokedKids_of_logged hsound (hplain.preserves Step.keeps_revocation hr)
  · intro tenantId list hserved document nextUpdate hlist
    have hlater := hplain.preserves Step.keeps_served hserved
    have hversion := hlists.version _ hlater
    rw [publishableRevocationList_eq_some hlist]
    refine ⟨hversion, ?_, hlists.content _ hlater⟩
    rw [hlists.dated _ hlater]
    exact mul_le_mul_of_nonneg_right hversion (by decide)
  · intro row hrow hremoved row' hpublished hsame
    have hover : row.publishableAt s.clock settings.graceSeconds = false := by
      rw [Bool.eq_false_iff]
      exact fun hshown => hremoved (mem_publishableAt.mpr ⟨hrow, rfl, hshown⟩)
    obtain ⟨later, hlater, hkeyed, hstill⟩ :=
      hafter.preserves Step.gone ⟨row, hrow, rfl, hover⟩
    obtain ⟨hmem, htenant, hshown⟩ := mem_publishableAt.mp hpublished
    have hkeyed' : row'.tenantKid = some (row.tenantId, row.kid) := by
      rw [SigningKey.tenantKid, htenant, hsame]
    obtain rfl := t.keys.eq_of_key_eq hmem hlater hkeyed' hkeyed
    rw [hstill] at hshown
    cases hshown

end Lifecycle

section Samples

/-- An SDK that reads every key. -/
def sampleSdk : KeySdk String Unit where
  loadPrivateKeyPem _ _ := some ()
  pemToAdcpJwk _ kid _ _ := kid

/-- The settings of a deployment that sets none. -/
def sampleSettings : KeySettings where
  graceSeconds := 600
  revocationIntervalSeconds := 300
  keyPassphrase := some "passphrase"
  grace_exceeds := by decide
  interval_floor := by decide
  interval_ceiling := by decide

/-- The key of an id is provisioned for the tenant. -/
def provisions
    (kid : String) : KeyEvent String :=
  .provisioned "t1" { tenantId := "t1", alg := "ed25519", kid := some kid }
    ⟨[], kid, "", "", 0⟩

/-- The state after some events, from no keys. -/
def sampleState
    (es : List (KeyEvent String)) : KeyState String :=
  es.foldl (KeyState.after sampleSdk sampleSettings id) ⟨0, .empty, [], []⟩

/-- A key is provisioned, and revoked in a bucket without a list. -/
theorem laws_of_first_revocation :
    KeyLaws sampleSdk sampleSettings id (sampleState [provisions "k1"])
        (sampleState [provisions "k1", .revoked "t1" "k1"]) ∧
      ((sampleState [provisions "k1", .revoked "t1" "k1"]).published sampleSettings "t1").map
        (·.kid) = ["k1"] := by
  have hminted : Step sampleSdk sampleSettings id ⟨0, .empty, [], []⟩ (provisions "k1")
      (sampleState [provisions "k1"]) := rfl
  have hrevoked : Step sampleSdk sampleSettings id (sampleState [provisions "k1"])
      (.revoked "t1" "k1") (sampleState [provisions "k1", .revoked "t1" "k1"]) := rfl
  refine ⟨keyLaws_of_disciplined (.single ⟨hminted, trivial⟩) (.single ⟨hrevoked, ?_⟩),
    by decide +kernel⟩
  intro row hrow
  have hfresh : (getByKid (sampleState [provisions "k1"]).keys "t1" "k1").map (·.revokedAt) =
      some none := by
    decide +kernel
  have hunserved : (sampleState [provisions "k1"]).served = [] := by
    decide +kernel
  have hlive : row.revokedAt = none := by
    have hrow' : getByKid (sampleState [provisions "k1"]).keys "t1" "k1" = some row := hrow
    rw [hrow'] at hfresh
    exact Option.some.inj hfresh
  refine ⟨by rw [SigningKey.publishableAt, hlive]; rfl, ?_⟩
  rintro ⟨list, hserved, -⟩
  have hserved' : ("t1", list) ∈ (sampleState [provisions "k1"]).served := hserved
  rw [hunserved] at hserved'
  cases hserved'

/-- A key is revoked after a list of the same bucket: the version stays, and the list of ids
changes.  A key is revoked again after its grace period: it is published again. -/
theorem version_reused :
    ¬ KeyLaws sampleSdk sampleSettings id
        (sampleState [provisions "k1", .listed "t1"])
        (sampleState [provisions "k1", .listed "t1", provisions "k2", .revoked "t1" "k1"]) ∧
      ¬ KeyLaws sampleSdk sampleSettings id
        (sampleState [provisions "k1", .revoked "t1" "k1", .passed 601000000])
        (sampleState [provisions "k1", .revoked "t1" "k1", .passed 601000000,
          .revoked "t1" "k1"]) := by
  constructor
  · intro h
    have hserved : (sampleState [provisions "k1", .listed "t1"]).served =
        [("t1", ⟨0, "t1", 0, 300000000, []⟩)] := by
      decide +kernel
    have hlist : (publishableRevocationList sampleSdk sampleSettings
        (sampleState [provisions "k1", .listed "t1", provisions "k2", .revoked "t1" "k1"]).keys
        "t1" "t1" 0).map (·.1.payload) = some ⟨0, "t1", 0, 300000000, ["k1"]⟩ := by
      decide +kernel
    obtain ⟨⟨document, nextUpdate⟩, hdocument, hpayload⟩ := Option.map_eq_some_iff.mp hlist
    have hsame := (h.versioned "t1" ⟨0, "t1", 0, 300000000, []⟩
      (by rw [hserved]; exact List.mem_singleton_self _) document nextUpdate hdocument).2.2
    dsimp only at hpayload hsame
    rw [hpayload] at hsame
    cases hsame rfl
  · intro h
    have hremoved : (sampleState [provisions "k1", .revoked "t1" "k1", .passed 601000000]
        ).published sampleSettings "t1" = [] := by
      decide +kernel
    have hagain : ((sampleState [provisions "k1", .revoked "t1" "k1", .passed 601000000,
        .revoked "t1" "k1"]).published sampleSettings "t1").map (·.kid) = ["k1"] := by
      decide +kernel
    have hfound : (getByKid (sampleState [provisions "k1", .revoked "t1" "k1",
        .passed 601000000]).keys "t1" "k1").isSome = true := by
      decide +kernel
    obtain ⟨row, hrow⟩ := Option.isSome_iff_exists.mp hfound
    obtain ⟨hmem, hkey⟩ := (IndexedTable.find_eq_some_iff _).mp hrow
    obtain ⟨htenant, hkid⟩ := Prod.mk.inj (Option.some.inj hkey)
    obtain ⟨row', hrow', hkid'⟩ := List.mem_map.mp (hagain ▸ List.mem_singleton_self "k1")
    refine h.removed row hmem ?_ row' ?_ (hkid'.trans hkid.symm)
    · rw [htenant, hremoved]
      exact List.not_mem_nil
    · rw [htenant]
      exact hrow'

end Samples

end SigningKeys
end SalesAgent
