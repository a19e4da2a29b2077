import Mathlib.Algebra.Order.Ring.Int
import SalesAgent.Lib.IndexedTable
import SalesAgent.Lib.Runs

/-!
# Claims on signature nonces

Workers share one table of claimed nonces and one database clock.  A verification checks
the capacity of the key id, checks the signature, claims the nonce, and extends the claim
to the lifetime of the signature.  Each is one statement; the capacity check and the claim
run in one transaction and read the clock as it was when that began.  Anything can happen
between two statements: other verifications, a sweep of expired rows, a crash.

The claim is a lease.  It lasts for the claim TTL, which is meant to bridge the two
statements up to the extension; a verification that extends later than that may have lost
the nonce to another one.

**Results.**
* `Step.kept`: no step deletes a live row or shortens its life.
* `Step.guarded`: the invariant of rows, claims and acceptances.
* `replay_protection`: at most one acceptance of a nonce while its signature lives.
* `stalled_claim_is_taken_over`: two acceptances, one of them of a claim that had run out.
-/

namespace SalesAgent
namespace Signing

open Runs (Run Restrict Preserved)

/-- A row of `adcp_replay`; times are those of the database clock, in microseconds. -/
structure ReplayNonce where
  keyid : String
  nonce : String
  expiresAt : Int
  deriving DecidableEq, Repr

/-- The primary key. -/
def ReplayNonce.key
    (row : ReplayNonce) : Option (String × String) :=
  some (row.keyid, row.nonce)

/-- The table `adcp_replay`. -/
abbrev ReplayNonces :=
  IndexedTable ReplayNonce (String × String) ReplayNonce.key

section Statements

variable (rows : ReplayNonces) (now : Int) (keyid nonce : String)

/-- `_upsert_expiry`: insert, or update where the conflicting row satisfies a test. -/
def upsertExpiry
    (expiresAt : Int)
    (conflictWhen : Int → Bool) : ReplayNonces × Bool :=
  match rows.find (keyid, nonce) with
  | none => (rows.put ⟨keyid, nonce, expiresAt⟩, true)
  | some row =>
      if conflictWhen row.expiresAt then
        (rows.put ⟨keyid, nonce, expiresAt⟩, true)
      else
        (rows, false)

/-- `claim`: whether the pair was already live. -/
def claim
    (claimTtl : Int) : ReplayNonces × Bool :=
  let wrote := upsertExpiry rows keyid nonce (now + claimTtl) (fun expiresAt => expiresAt ≤ now)
  (wrote.1, ! wrote.2)

/-- `extend` -/
def extend
    (ttl : Int) : ReplayNonces :=
  (upsertExpiry rows keyid nonce (now + ttl) (fun expiresAt => expiresAt < now + ttl)).1

/-- `at_or_above_cap` -/
def atOrAboveCap
    (cap : Int) : Bool :=
  if cap ≤ 0 then
    true
  else
    ! ((rows.rows.filter fun row => row.keyid = keyid && now < row.expiresAt).drop
      (cap - 1).toNat).isEmpty

/-- The rows `reap` deletes: expired ones, of which the limit selects some. -/
def doomed
    (selected : ReplayNonce → Bool)
    (row : ReplayNonce) : Bool :=
  row.expiresAt ≤ now && selected row

/-- `reap` -/
def reap
    (selected : ReplayNonce → Bool) : ReplayNonces :=
  rows.deleteWhere (doomed now selected)

end Statements

/-- The settings of the replay store. -/
structure SigningSettings where
  perKeyidCap : Int
  perKeyidCapOverrides : String → Option Int
  replayTtlOverrides : String → Option Int
  replayClaimTtl : Int
  maxSkew : Int

/-- `_REAP_BATCH` -/
def reapBatch : Nat :=
  20000

section Store

variable (config : SigningSettings) (rows : ReplayNonces) (now : Int) (keyid nonce : String)

/-- `_clamped_ttl` -/
def clampedTtl
    (ttl : Int) : Int :=
  match config.replayTtlOverrides keyid with
  | none => ttl
  | some limit => min ttl limit

/-- `seen` -/
def seen : ReplayNonces × Bool :=
  claim rows now keyid nonce (clampedTtl config keyid config.replayClaimTtl)

/-- `remember` -/
def remember
    (ttl : Int) : ReplayNonces :=
  extend rows now keyid nonce (clampedTtl config keyid ttl)

/-- `at_capacity` -/
def atCapacity : Bool :=
  atOrAboveCap rows now keyid
    ((config.perKeyidCapOverrides keyid).getD config.perKeyidCap)

end Store

/-- The parameters of a signature. -/
structure SignedRequest where
  keyid : String
  nonce : String
  expires : Int
  deriving DecidableEq, Repr

/-- How far a verification is: its transaction has begun, or it has claimed its nonce. -/
inductive Progress
  | admitted (began : Int)
  | claimed (leasedUntil : Int)
  deriving DecidableEq, Repr

/-- A verification under way, with the time it read when it started. -/
structure Verification where
  request : SignedRequest
  readAt : Int
  progress : Progress
  deriving DecidableEq, Repr

/-- An accepted request, and when. -/
structure Acceptance where
  request : SignedRequest
  acceptedAt : Int
  deriving DecidableEq, Repr

/-- The table, the clock, the verifications under way and the accepted requests, the
latest first. -/
structure ReplayState where
  clock : Int
  rows : ReplayNonces
  underWay : Nat → Option Verification
  accepted : List Acceptance

/-- A verification goes on, or ends. -/
def ReplayState.put
    (s : ReplayState)
    (i : Nat)
    (v : Option Verification) : ReplayState :=
  { s with underWay := fun j => if j = i then v else s.underWay j }

/-- When the signature is past its expiry and the skew. -/
def SignedRequest.validUntil
    (config : SigningSettings)
    (request : SignedRequest) : Int :=
  request.expires + config.maxSkew

/-- The lifetime the verifier remembers a nonce for. -/
def Verification.ttl
    (config : SigningSettings)
    (v : Verification) : Int :=
  v.request.expires - v.readAt + config.maxSkew

/-- What happens. -/
inductive Event
  | ticked
  | refusedForCapacity (i : Nat)
  | admitted (i : Nat)
  | replayed (i : Nat)
  | claimed (i : Nat)
  | remembered (i : Nat)
  | abandoned (i : Nat)
  | reaped

/-- One statement of one worker. -/
inductive Step
    (config : SigningSettings) : ReplayState → Event → ReplayState → Prop
  | ticked {s : ReplayState} {later : Int}
      (hlater : s.clock ≤ later) :
      Step config s .ticked { s with clock := later }
  | refusedForCapacity {s : ReplayState} {i : Nat} {request : SignedRequest} {now : Int}
      (hnow : now ≤ s.clock)
      (hcapacity : atCapacity config s.rows now request.keyid = true) :
      Step config s (.refusedForCapacity i) s
  | admitted {s : ReplayState} {i : Nat} {request : SignedRequest} {readAt now : Int}
      (hfree : s.underWay i = none)
      (hread : readAt ≤ now)
      (hnow : now ≤ s.clock)
      (hcapacity : atCapacity config s.rows now request.keyid = false) :
      Step config s (.admitted i) (s.put i (some ⟨request, readAt, .admitted now⟩))
  | replayed {s : ReplayState} {i : Nat} {v : Verification} {now : Int}
      (hunder : s.underWay i = some v)
      (hprogress : v.progress = .admitted now)
      (hseen : (seen config s.rows now v.request.keyid v.request.nonce).2 = true) :
      Step config s (.replayed i)
        ({ s with rows := (seen config s.rows now v.request.keyid v.request.nonce).1 }.put i none)
  | claimed {s : ReplayState} {i : Nat} {v : Verification} {now : Int}
      (hunder : s.underWay i = some v)
      (hprogress : v.progress = .admitted now)
      (hseen : (seen config s.rows now v.request.keyid v.request.nonce).2 = false) :
      Step config s (.claimed i)
        ({ s with rows := (seen config s.rows now v.request.keyid v.request.nonce).1 }.put i
          (some { v with
            progress := .claimed (now + clampedTtl config v.request.keyid config.replayClaimTtl) }))
  | remembered {s : ReplayState} {i : Nat} {v : Verification} {leasedUntil now : Int}
      (hunder : s.underWay i = some v)
      (hprogress : v.progress = .claimed leasedUntil)
      (hread : v.readAt ≤ now)
      (hnow : now ≤ s.clock) :
      Step config s (.remembered i)
        ({ s with
          rows := remember config s.rows now v.request.keyid v.request.nonce (v.ttl config)
          accepted := ⟨v.request, s.clock⟩ :: s.accepted }.put i none)
  /-- the signature does not verify, or the worker stops -/
  | abandoned {s : ReplayState} {i : Nat} {v : Verification}
      (hunder : s.underWay i = some v) :
      Step config s (.abandoned i) (s.put i none)
  | reaped {s : ReplayState} {selected : ReplayNonce → Bool} {now : Int}
      (hnow : now ≤ s.clock)
      (hlimit : (s.rows.rows.filter (doomed now selected)).length ≤ reapBatch) :
      Step config s .reaped { s with rows := reap s.rows now selected }

section Rows

variable {rows : ReplayNonces} {now ttl : Int} {keyid nonce : String}

/-- The pair is claimed until a time or longer. -/
def Covers
    (rows : ReplayNonces)
    (pair : String × String)
    (time : Int) : Prop :=
  ∃ row, rows.find pair = some row ∧ time ≤ row.expiresAt

theorem upsertExpiry_cases
    (rows : ReplayNonces)
    (keyid nonce : String)
    (expiresAt : Int)
    (conflictWhen : Int → Bool) :
    (upsertExpiry rows keyid nonce expiresAt conflictWhen =
        (rows.put ⟨keyid, nonce, expiresAt⟩, true) ∧
      ∀ row, rows.find (keyid, nonce) = some row → conflictWhen row.expiresAt = true) ∨
    (upsertExpiry rows keyid nonce expiresAt conflictWhen = (rows, false) ∧
      ∃ row, rows.find (keyid, nonce) = some row ∧ conflictWhen row.expiresAt = false) := by
  unfold upsertExpiry
  cases hfind : rows.find (keyid, nonce) with
  | none =>
      refine .inl ⟨rfl, ?_⟩
      intro row hrow
      cases hrow
  | some row =>
      simp only
      by_cases hconflict : conflictWhen row.expiresAt = true
      · rw [if_pos hconflict]
        refine .inl ⟨rfl, ?_⟩
        intro row' hrow'
        cases hrow'
        exact hconflict
      · rw [if_neg hconflict]
        exact .inr ⟨rfl, row, rfl, Bool.eq_false_iff.mpr hconflict⟩

theorem find_put_pair
    (expiresAt : Int) :
    (rows.put ⟨keyid, nonce, expiresAt⟩).find (keyid, nonce) = some ⟨keyid, nonce, expiresAt⟩ :=
  IndexedTable.find_put_self rows rfl

theorem Covers.put_of_ne
    {pair : String × String} {time expiresAt : Int}
    (h : Covers rows pair time)
    (hne : pair ≠ (keyid, nonce)) :
    Covers (rows.put ⟨keyid, nonce, expiresAt⟩) pair time := by
  obtain ⟨row, hfind, htime⟩ := h
  refine ⟨row, ?_, htime⟩
  rw [IndexedTable.find_put_of_ne]
  · exact hfind
  · intro hkey
    exact hne (Option.some.inj hkey).symm

theorem claim_of_replayed
    (h : (claim rows now keyid nonce ttl).2 = true) :
    (claim rows now keyid nonce ttl).1 = rows := by
  unfold claim at h ⊢
  rcases upsertExpiry_cases rows keyid nonce (now + ttl) (fun expiresAt => expiresAt ≤ now) with
    ⟨hwrote, -⟩ | ⟨hkept, -⟩
  · simp only [hwrote] at h
    cases h
  · rw [hkept]

theorem claim_of_claimed
    (h : (claim rows now keyid nonce ttl).2 = false) :
    (claim rows now keyid nonce ttl).1 = rows.put ⟨keyid, nonce, now + ttl⟩ ∧
      ∀ row, rows.find (keyid, nonce) = some row → row.expiresAt ≤ now := by
  unfold claim at h ⊢
  rcases upsertExpiry_cases rows keyid nonce (now + ttl) (fun expiresAt => expiresAt ≤ now) with
    ⟨hwrote, hexpired⟩ | ⟨hkept, -⟩
  · rw [hwrote]
    exact ⟨rfl, fun row hrow => of_decide_eq_true (hexpired row hrow)⟩
  · simp only [hkept] at h
    cases h

/-- What was covered stays covered by an extension. -/
theorem Covers.extend
    {pair : String × String} {time : Int}
    (h : Covers rows pair time) :
    Covers (extend rows now keyid nonce ttl) pair time := by
  unfold Signing.extend
  rcases upsertExpiry_cases rows keyid nonce (now + ttl)
      (fun expiresAt => expiresAt < now + ttl) with ⟨hwrote, hshorter⟩ | ⟨hkept, -⟩
  · rw [hwrote]
    by_cases hpair : pair = (keyid, nonce)
    · subst hpair
      obtain ⟨row, hfind, htime⟩ := h
      have hlonger := of_decide_eq_true (hshorter row hfind)
      exact ⟨_, find_put_pair (now + ttl), htime.trans (Int.le_of_lt hlonger)⟩
    · exact h.put_of_ne hpair
  · rw [hkept]
    exact h

theorem covers_extend
    (rows : ReplayNonces)
    (now ttl : Int)
    (keyid nonce : String) :
    Covers (extend rows now keyid nonce ttl) (keyid, nonce) (now + ttl) := by
  unfold Signing.extend
  rcases upsertExpiry_cases rows keyid nonce (now + ttl)
      (fun expiresAt => expiresAt < now + ttl) with ⟨hwrote, -⟩ | ⟨hkept, row, hfind, hlonger⟩
  · rw [hwrote]
    exact ⟨_, find_put_pair (now + ttl), le_refl _⟩
  · rw [hkept]
    refine ⟨row, hfind, ?_⟩
    have hnot := of_decide_eq_false hlonger
    omega

theorem Covers.reap
    {pair : String × String} {time : Int} {selected : ReplayNonce → Bool}
    (h : Covers rows pair time)
    (hlive : now < time) :
    Covers (reap rows now selected) pair time := by
  obtain ⟨row, hfind, htime⟩ := h
  refine ⟨row, IndexedTable.find_deleteWhere_of_keep hfind ?_, htime⟩
  have hnot : ¬ row.expiresAt ≤ now := by omega
  simp only [doomed, decide_eq_false hnot, Bool.false_and]

theorem clampedTtl_of_none
    {config : SigningSettings}
    (h : config.replayTtlOverrides keyid = none) :
    clampedTtl config keyid ttl = ttl := by
  rw [clampedTtl, h]

end Rows

section Protection

variable {config : SigningSettings} {s s' : ReplayState}

/-- The nonce of a request. -/
def SignedRequest.pair
    (request : SignedRequest) : String × String :=
  (request.keyid, request.nonce)

/-- The invariant: an acceptance is covered while its signature lives; a claim that has not
run out is covered, alone, and after every acceptance of its nonce. -/
structure Guarded
    (config : SigningSettings)
    (s : ReplayState) : Prop where
  admitted : ∀ i v now, s.underWay i = some v → v.progress = .admitted now → now ≤ s.clock
  accepted : ∀ a ∈ s.accepted, s.clock < a.request.validUntil config →
    Covers s.rows a.request.pair (a.request.validUntil config)
  claimed : ∀ i v leasedUntil, s.underWay i = some v → v.progress = .claimed leasedUntil →
    s.clock < leasedUntil → Covers s.rows v.request.pair leasedUntil
  after : ∀ i v leasedUntil, s.underWay i = some v → v.progress = .claimed leasedUntil →
    s.clock < leasedUntil → ∀ a ∈ s.accepted, a.request.pair = v.request.pair →
      a.request.validUntil config ≤ s.clock
  alone : ∀ i j v w leasedUntil leasedUntil', s.underWay i = some v → s.underWay j = some w →
    v.progress = .claimed leasedUntil → w.progress = .claimed leasedUntil' →
    s.clock < leasedUntil → s.clock < leasedUntil' → v.request.pair = w.request.pair → i = j
  once : s.accepted.Pairwise fun later earlier =>
    later.request.pair = earlier.request.pair →
      earlier.request.validUntil config ≤ later.acceptedAt

/-- A claim is extended while it lasts. -/
def ExtendedInTime
    (s : ReplayState)
    (e : Event) : Prop :=
  match e with
  | .remembered i => ∀ v leasedUntil, s.underWay i = some v →
      v.progress = .claimed leasedUntil → s.clock < leasedUntil
  | _ => True

theorem underWay_put
    {s : ReplayState} {i j : Nat} {v : Option Verification} {w : Verification}
    (h : (s.put i v).underWay j = some w) :
    (j = i ∧ v = some w) ∨ (j ≠ i ∧ s.underWay j = some w) := by
  simp only [ReplayState.put] at h
  by_cases hj : j = i
  · rw [if_pos hj] at h
    exact .inl ⟨hj, h⟩
  · rw [if_neg hj] at h
    exact .inr ⟨hj, h⟩

/-- A verification that is not a claim goes on, or ends. -/
theorem Guarded.put
    (h : Guarded config s)
    {i : Nat} {v : Option Verification}
    (hv : ∀ w, v = some w → ∃ now, w.progress = .admitted now ∧ now ≤ s.clock) :
    Guarded config (s.put i v) := by
  have hclaimed : ∀ j w leasedUntil, (s.put i v).underWay j = some w →
      w.progress = .claimed leasedUntil → s.underWay j = some w := by
    intro j w leasedUntil hj hprogress
    rcases underWay_put hj with ⟨-, hw⟩ | ⟨-, hold⟩
    · obtain ⟨now, hadmitted, -⟩ := hv w hw
      rw [hprogress] at hadmitted
      cases hadmitted
    · exact hold
  refine ⟨?_, h.accepted, ?_, ?_, ?_, h.once⟩
  · intro j w now hj hprogress
    rcases underWay_put hj with ⟨-, hw⟩ | ⟨-, hold⟩
    · obtain ⟨now', hadmitted, hnow⟩ := hv w hw
      rw [hprogress] at hadmitted
      cases hadmitted
      exact hnow
    · exact h.admitted j w now hold hprogress
  · intro j w leasedUntil hj hprogress
    exact h.claimed j w leasedUntil (hclaimed j w leasedUntil hj hprogress) hprogress
  · intro j w leasedUntil hj hprogress
    exact h.after j w leasedUntil (hclaimed j w leasedUntil hj hprogress) hprogress
  · intro j k w x l l' hj hk hw hx
    exact h.alone j k w x l l' (hclaimed j w l hj hw) (hclaimed k x l' hk hx) hw hx

/-- A nonce is claimed. -/
theorem Guarded.claim
    (h : Guarded config s)
    {i : Nat} {v : Verification} {now leasedUntil : Int}
    (hnow : now ≤ s.clock)
    (hexpired : ∀ row, s.rows.find v.request.pair = some row → row.expiresAt ≤ now) :
    Guarded config
      ({ s with rows := s.rows.put ⟨v.request.keyid, v.request.nonce, leasedUntil⟩ }.put i
        (some { v with progress := .claimed leasedUntil })) := by
  -- nothing covers the pair at present
  have hfree : ∀ {time}, Covers s.rows v.request.pair time → time ≤ s.clock := by
    rintro time ⟨row, hfind, htime⟩
    exact htime.trans ((hexpired row hfind).trans hnow)
  have hkept : ∀ {pair time}, Covers s.rows pair time → s.clock < time →
      Covers (s.rows.put ⟨v.request.keyid, v.request.nonce, leasedUntil⟩) pair time := by
    intro pair time hcovers hlive
    refine hcovers.put_of_ne ?_
    rintro rfl
    have hdead := hfree hcovers
    omega
  refine ⟨?_, ?_, ?_, ?_, ?_, h.once⟩
  · intro j w now' hj hprogress
    rcases underWay_put hj with ⟨-, hw⟩ | ⟨-, hold⟩
    · cases hw
      cases hprogress
    · exact h.admitted j w now' hold hprogress
  · intro a ha hlive
    exact hkept (h.accepted a ha hlive) hlive
  · intro j w l hj hprogress hlive
    rcases underWay_put hj with ⟨-, hw⟩ | ⟨-, hold⟩
    · cases hw
      cases hprogress
      exact ⟨_, find_put_pair leasedUntil, le_refl _⟩
    · exact hkept (h.claimed j w l hold hprogress hlive) hlive
  · intro j w l hj hprogress hlive a ha hpair
    rcases underWay_put hj with ⟨-, hw⟩ | ⟨-, hold⟩
    · cases hw
      by_contra hnot
      have hcovers := h.accepted a ha (Int.not_le.mp hnot)
      rw [hpair] at hcovers
      exact hnot (hfree hcovers)
    · exact h.after j w l hold hprogress hlive a ha hpair
  · intro j k w x l l' hj hk hw hx hlive hlive' hpair
    rcases underWay_put hj with ⟨hji, hw'⟩ | ⟨hji, hold⟩
    · rcases underWay_put hk with ⟨hki, -⟩ | ⟨hki, hold'⟩
      · exact hji.trans hki.symm
      · cases hw'
        have hcovers := h.claimed k x l' hold' hx hlive'
        rw [← hpair] at hcovers
        have hdead := hfree hcovers
        change s.clock < l' at hlive'
        omega
    · rcases underWay_put hk with ⟨hki, hx'⟩ | ⟨hki, hold'⟩
      · cases hx'
        have hcovers := h.claimed j w l hold hw hlive
        rw [hpair] at hcovers
        have hdead := hfree hcovers
        change s.clock < l at hlive
        omega
      · exact h.alone j k w x l l' hold hold' hw hx hlive hlive' hpair

/-- A claim that lasts is extended, and its request accepted. -/
theorem Guarded.accept
    (h : Guarded config s)
    {i : Nat} {v : Verification} {leasedUntil : Int} {rows : ReplayNonces}
    (hunder : s.underWay i = some v)
    (hprogress : v.progress = .claimed leasedUntil)
    (hlive : s.clock < leasedUntil)
    (hkept : ∀ pair time, Covers s.rows pair time → Covers rows pair time)
    (hcovers : Covers rows v.request.pair (v.request.validUntil config)) :
    Guarded config
      ({ s with rows := rows, accepted := ⟨v.request, s.clock⟩ :: s.accepted }.put i none) := by
  have hunder' : ∀ j w, ({ s with
      rows := rows, accepted := ⟨v.request, s.clock⟩ :: s.accepted }.put i none).underWay j =
        some w → j ≠ i ∧ s.underWay j = some w := by
    intro j w hj
    rcases underWay_put hj with ⟨-, hw⟩ | hold
    · cases hw
    · exact hold
  refine ⟨?_, ?_, ?_, ?_, ?_, ?_⟩
  · intro j w now hj
    exact h.admitted j w now (hunder' j w hj).2
  · intro a ha hliving
    rcases List.mem_cons.mp ha with rfl | hold
    · exact hcovers
    · exact hkept _ _ (h.accepted a hold hliving)
  · intro j w l hj hw hliving
    exact hkept _ _ (h.claimed j w l (hunder' j w hj).2 hw hliving)
  · intro j w l hj hw hliving a ha hpair
    obtain ⟨hne, hj'⟩ := hunder' j w hj
    rcases List.mem_cons.mp ha with rfl | hold
    · exact absurd (h.alone j i w v l leasedUntil hj' hunder hw hprogress hliving hlive
        hpair.symm) hne
    · exact h.after j w l hj' hw hliving a hold hpair
  · intro j k w x l l' hj hk
    exact h.alone j k w x l l' (hunder' j w hj).2 (hunder' k x hk).2
  · refine List.pairwise_cons.mpr ⟨?_, h.once⟩
    intro a ha hpair
    exact h.after i v leasedUntil hunder hprogress hlive a ha hpair.symm

/-- Every statement keeps the invariant, where claims are extended in time. -/
theorem Step.guarded
    {e : Event}
    (hno : ∀ keyid, config.replayTtlOverrides keyid = none)
    (hstep : Restrict (Step config) ExtendedInTime s e s')
    (h : Guarded config s) :
    Guarded config s' := by
  obtain ⟨hstep, hintime⟩ := hstep
  cases hstep with
  | ticked hlater =>
      rename_i later
      refine ⟨?_, ?_, ?_, ?_, ?_, h.once⟩
      · exact fun i v now hi hp => (h.admitted i v now hi hp).trans hlater
      · exact fun a ha hlive => h.accepted a ha (lt_of_le_of_lt hlater hlive)
      · exact fun i v l hi hp hlive => h.claimed i v l hi hp (lt_of_le_of_lt hlater hlive)
      · exact fun i v l hi hp hlive a ha hpair =>
          (h.after i v l hi hp (lt_of_le_of_lt hlater hlive) a ha hpair).trans hlater
      · exact fun i j v w l l' hi hj hv hw hlive hlive' hpair =>
          h.alone i j v w l l' hi hj hv hw (lt_of_le_of_lt hlater hlive)
            (lt_of_le_of_lt hlater hlive') hpair
  | refusedForCapacity => exact h
  | admitted hfree hread hnow hcapacity =>
      refine h.put ?_
      rintro w hw
      cases hw
      exact ⟨_, rfl, hnow⟩
  | replayed hunder hprogress hseen =>
      rw [seen, claim_of_replayed hseen]
      exact h.put (fun w hw => by cases hw)
  | claimed hunder hprogress hseen =>
      rename_i i v now
      obtain ⟨hrows, hexpired⟩ := claim_of_claimed hseen
      rw [seen, hrows]
      exact h.claim (h.admitted i v now hunder hprogress) hexpired
  | remembered hunder hprogress hread hnow =>
      rename_i i v leasedUntil now
      refine h.accept hunder hprogress (hintime v leasedUntil hunder hprogress) ?_ ?_
      · exact fun pair time hcovers => hcovers.extend
      · rw [remember, clampedTtl_of_none (hno v.request.keyid)]
        obtain ⟨row, hfind, htime⟩ :=
          covers_extend s.rows now (v.ttl config) v.request.keyid v.request.nonce
        refine ⟨row, hfind, le_trans ?_ htime⟩
        unfold SignedRequest.validUntil Verification.ttl
        omega
  | abandoned hunder => exact h.put (fun w hw => by cases hw)
  | reaped hnow hlimit =>
      refine ⟨h.admitted, ?_, ?_, h.after, h.alone, h.once⟩
      · exact fun a ha hlive => (h.accepted a ha hlive).reap (lt_of_le_of_lt hnow hlive)
      · exact fun i v l hi hp hlive =>
          (h.claimed i v l hi hp hlive).reap (lt_of_le_of_lt hnow hlive)

/-- The transaction of a verification did not begin in the future. -/
def Timely
    (s : ReplayState) : Prop :=
  ∀ i v now, s.underWay i = some v → v.progress = .admitted now → now ≤ s.clock

theorem Timely.put
    {s : ReplayState}
    (h : Timely s)
    {i : Nat} {v : Option Verification}
    (hv : ∀ w now, v = some w → w.progress = .admitted now → now ≤ s.clock) :
    Timely (s.put i v) := by
  intro j w now hj hprogress
  rcases underWay_put hj with ⟨-, hw⟩ | ⟨-, hold⟩
  · exact hv w now hw hprogress
  · exact h j w now hold hprogress

theorem Step.timely
    {e : Event}
    (hstep : Step config s e s')
    (h : Timely s) :
    Timely s' := by
  cases hstep with
  | ticked hlater => exact fun i v now hi hp => (h i v now hi hp).trans hlater
  | refusedForCapacity => exact h
  | admitted hfree hread hnow hcapacity =>
      refine h.put ?_
      intro w now hw hprogress
      cases hw
      cases hprogress
      exact hnow
  | replayed =>
      refine Timely.put h ?_
      intro w now hw
      cases hw
  | claimed =>
      refine Timely.put h ?_
      intro w now hw hprogress
      cases hw
      cases hprogress
  | remembered =>
      refine Timely.put h ?_
      intro w now hw
      cases hw
  | abandoned =>
      refine h.put ?_
      intro w now hw
      cases hw
  | reaped => exact h

/-- No step deletes a live row or shortens its life. -/
theorem Step.kept
    {e : Event}
    (hstep : Step config s e s')
    (h : Timely s)
    {pair : String × String} {time : Int}
    (hcovers : Covers s.rows pair time)
    (hlive : s.clock < time) :
    Covers s'.rows pair time := by
  cases hstep with
  | ticked => exact hcovers
  | refusedForCapacity => exact hcovers
  | admitted => exact hcovers
  | replayed hunder hprogress hseen =>
      rw [seen, claim_of_replayed hseen]
      exact hcovers
  | claimed hunder hprogress hseen =>
      rename_i i v now
      obtain ⟨hrows, hexpired⟩ := claim_of_claimed hseen
      rw [seen, hrows]
      refine hcovers.put_of_ne ?_
      rintro rfl
      obtain ⟨row, hfind, htime⟩ := hcovers
      have hdead := hexpired row hfind
      have hnow := h i v now hunder hprogress
      omega
  | remembered => exact hcovers.extend
  | abandoned => exact hcovers
  | reaped hnow hlimit => exact hcovers.reap (lt_of_le_of_lt hnow hlive)

/-- No verification is under way, and none was accepted. -/
structure AtStart
    (s : ReplayState) : Prop where
  underWay : ∀ i, s.underWay i = none
  accepted : s.accepted = []

theorem AtStart.guarded
    (h : AtStart s) :
    Guarded config s := by
  have hnone : ∀ i v, s.underWay i = some v → False := by
    intro i v hi
    rw [h.underWay] at hi
    cases hi
  refine ⟨fun i v _ hi => (hnone i v hi).elim, ?_, fun i v _ hi => (hnone i v hi).elim,
    fun i v _ hi => (hnone i v hi).elim, fun i _ v _ _ _ hi => (hnone i v hi).elim, ?_⟩
  · rw [h.accepted]
    exact fun a ha => absurd ha List.not_mem_nil
  · rw [h.accepted]
    exact List.Pairwise.nil

/-- No nonce is accepted again before its signature has expired and the skew has passed. -/
def AtMostOnce
    (config : SigningSettings)
    (s : ReplayState) : Prop :=
  s.accepted.Pairwise fun later earlier =>
    later.request.pair = earlier.request.pair →
      earlier.request.validUntil config ≤ later.acceptedAt

/-- However the statements of the workers interleave: where claims are extended in time, a
nonce is accepted at most once while its signature lives; and in every state reached the
next step keeps every live row, an extension shortens no row, and a request that is refused
for capacity leaves everything as it is. -/
theorem replay_protection
    {start : ReplayState}
    (hstart : AtStart start)
    (hno : ∀ keyid, config.replayTtlOverrides keyid = none) :
    (∀ es s, Run (Restrict (Step config) ExtendedInTime) start es s → AtMostOnce config s) ∧
    (∀ es s e s', Run (Step config) start es s → Step config s e s' →
      (∀ pair time, Covers s.rows pair time → s.clock < time → Covers s'.rows pair time) ∧
      (∀ i, e = .remembered i →
        ∀ pair time, Covers s.rows pair time → Covers s'.rows pair time) ∧
      (∀ i, e = .refusedForCapacity i → s' = s)) := by
  have hpreserved : Preserved (Restrict (Step config) ExtendedInTime) (Guarded config) :=
    fun _ _ _ hstep h => Step.guarded hno hstep h
  have htimely : Preserved (Step config) Timely := fun _ _ _ hstep h => hstep.timely h
  have hguarded : Guarded config start := hstart.guarded
  refine ⟨fun es s hrun => (hrun.preserves hpreserved hguarded).once, ?_⟩
  intro es s e s' hrun hstep
  have hnow := hrun.preserves htimely hguarded.admitted
  refine ⟨fun pair time hcovers hlive => hstep.kept hnow hcovers hlive, ?_, ?_⟩
  · rintro i rfl pair time hcovers
    cases hstep with
    | remembered => exact hcovers.extend
  · rintro i rfl
    cases hstep with
    | refusedForCapacity => rfl

/-- A claim lasts a minute. -/
def minuteClaims : SigningSettings where
  perKeyidCap := 1000
  perKeyidCapOverrides := fun _ => none
  replayTtlOverrides := fun _ => none
  replayClaimTtl := 60
  maxSkew := 60

/-- An empty table at the beginning of time. -/
def emptyStore : ReplayState where
  clock := 0
  rows := .empty
  underWay := fun _ => none
  accepted := []

/-- A request whose signature lives for six minutes, the skew included. -/
def signedRequest : SignedRequest :=
  ⟨"key", "nonce", 300⟩

/-- Of two overlapping verifications of one message the one that claims the nonce goes on. -/
theorem run_once :
    ∃ s, Run (Restrict (Step minuteClaims) ExtendedInTime) emptyStore
      [.admitted 0, .admitted 1, .claimed 0, .replayed 1, .remembered 0] s ∧
      s.accepted = [⟨signedRequest, 0⟩] := by
  refine ⟨_, .cons ⟨@Step.admitted minuteClaims emptyStore 0 signedRequest 0 0 rfl (by decide)
      (by decide) (by decide), trivial⟩
    (.cons ⟨@Step.admitted minuteClaims _ 1 signedRequest 0 0 rfl (by decide) (by decide)
      (by decide), trivial⟩
    (.cons ⟨@Step.claimed minuteClaims _ 0 ⟨signedRequest, 0, .admitted 0⟩ 0 rfl rfl (by decide),
      trivial⟩
    (.cons ⟨@Step.replayed minuteClaims _ 1 ⟨signedRequest, 0, .admitted 0⟩ 0 rfl rfl (by decide),
      trivial⟩
    (.cons ⟨@Step.remembered minuteClaims _ 0 ⟨signedRequest, 0, .claimed 60⟩ 60 0 rfl rfl
      (by decide) (by decide), ?_⟩ (.nil _))))), rfl⟩
  intro v leasedUntil hunder hprogress
  cases hunder
  cases hprogress
  decide

/-- The second verification claims the nonce after the claim of the first has run out, and
both are accepted. -/
theorem run_stalled :
    ∃ s, Run (Step minuteClaims) emptyStore
      [.admitted 0, .claimed 0, .ticked, .admitted 1, .claimed 1, .remembered 0, .remembered 1]
      s ∧ s.accepted = [⟨signedRequest, 60⟩, ⟨signedRequest, 60⟩] :=
  ⟨_, .cons (@Step.admitted minuteClaims emptyStore 0 signedRequest 0 0 rfl (by decide)
      (by decide) (by decide))
    (.cons (@Step.claimed minuteClaims _ 0 ⟨signedRequest, 0, .admitted 0⟩ 0 rfl rfl (by decide))
    (.cons (@Step.ticked minuteClaims _ 60 (by decide))
    (.cons (@Step.admitted minuteClaims _ 1 signedRequest 60 60 rfl (by decide) (by decide)
      (by decide))
    (.cons (@Step.claimed minuteClaims _ 1 ⟨signedRequest, 60, .admitted 60⟩ 60 rfl rfl
      (by decide))
    (.cons (@Step.remembered minuteClaims _ 0 ⟨signedRequest, 0, .claimed 60⟩ 60 60 rfl rfl
      (by decide) (by decide))
    (.cons (@Step.remembered minuteClaims _ 1 ⟨signedRequest, 60, .claimed 120⟩ 120 60 rfl rfl
      (by decide) (by decide)) (.nil _))))))), rfl⟩

theorem atStart_emptyStore : AtStart emptyStore :=
  ⟨fun _ => rfl, rfl⟩

/-- The message is accepted once. -/
theorem replay_protection_of_once :
    ∃ s, s.accepted = [⟨signedRequest, 0⟩] ∧ AtMostOnce minuteClaims s := by
  obtain ⟨s, hrun, haccepted⟩ := run_once
  have hprotection := @replay_protection minuteClaims emptyStore atStart_emptyStore (fun _ => rfl)
  exact ⟨s, haccepted, hprotection.1 _ s hrun⟩

/-- A nonce is accepted twice within a minute, five minutes before its signature expires. -/
theorem stalled_claim_is_taken_over :
    ¬ ∀ (config : SigningSettings) (start s : ReplayState) (es : List Event), AtStart start →
      (∀ keyid, config.replayTtlOverrides keyid = none) →
      Run (Step config) start es s → AtMostOnce config s := by
  intro h
  obtain ⟨s, hrun, haccepted⟩ := run_stalled
  have honce := h minuteClaims emptyStore s _ atStart_emptyStore (fun _ => rfl) hrun
  rw [AtMostOnce, haccepted] at honce
  have hexpired := (List.pairwise_cons.mp honce).1 _ (List.mem_singleton_self _) rfl
  exact absurd hexpired (by decide)

end Protection

end Signing
end SalesAgent
