import SalesAgent.Idempotency.Replay
import SalesAgent.Lib.Runs

/-!
# The insert ceiling over histories

A keyed request probes the cache; on a miss the ceiling is checked, the tool runs, and its
success is inserted afterwards.  Requests of one scope overlap, the creation instant of a row is
the database's clock and its expiry the application's, and rows are evicted once they are
expired.

**Results.**
* `room_preserved`: with at most `K` requests in flight, the rows of a scope and the requests in
  flight leave room for `K - 1` successes above the bound at most.
* `rate_promise`, `storage_promise`: what a `retry_after` promises.
* `insert_ceiling_laws`: the bounds, the replays and the promises together.
-/

namespace SalesAgent
namespace Idempotency

open Runs

section Model

variable {Hash : Type} [DecidableEq Hash]

/-- The cache, the application's clock, the requests of the scope between probe and insert, and
the instants at which its successes were cached. -/
structure CeilingState (Hash : Type) where
  attempts : Attempts Hash
  now : DateTime
  inFlight : List Scope
  cachedAt : List DateTime

/-- What happens to a scope. -/
inductive CeilingEvent
  | tick
  | admitted
  | unreadable
  | answered
  | cached (created : DateTime)
  | dropped
  | evicted
  | other
  deriving DecidableEq, Repr

/-- The row of a success; the database dates its creation. -/
def successRow
    (scope : Scope)
    (toolName : String)
    (responseEnvelope : Envelope)
    (payloadHash : Hash)
    (now created : DateTime) : IdempotencyAttempt Hash where
  scope := scope
  toolName := toolName
  responseEnvelope := responseEnvelope
  payloadHash := some payloadHash
  expiresAt := now + defaultReplayTtl
  createdAt := created

/-- The rows of a scope. -/
def ownRows
    (p : ScopePrefix)
    (attempts : Attempts Hash) : List (IdempotencyAttempt Hash) :=
  attempts.rows.filter fun row => row.scope.scopePrefix = p

/-- One step of a scope among others. -/
inductive CeilingStep
    (limits : LimitSettings)
    (p : ScopePrefix) : CeilingState Hash → CeilingEvent → CeilingState Hash → Prop
  | tick {s : CeilingState Hash} {later : DateTime}
      (hlater : s.now ≤ later) :
      CeilingStep limits p s .tick { s with now := later }
  /-- a miss that the ceiling lets through -/
  | admitted {s : CeilingState Hash} {scope : Scope} {hash : Hash}
      {deserialize : Envelope → Option AdcpResponse}
      (hscope : scope.scopePrefix = p)
      (hmiss : s.attempts.findByKey scope s.now = none)
      (hprobe : lookupCachedReplay limits s.attempts scope hash deserialize s.now = .ok none) :
      CeilingStep limits p s .admitted { s with inFlight := scope :: s.inFlight }
  /-- a hit whose envelope no longer validates is executed like a miss -/
  | unreadable {s : CeilingState Hash} {scope : Scope} {hash : Hash}
      {deserialize : Envelope → Option AdcpResponse} {row : IdempotencyAttempt Hash}
      (hscope : scope.scopePrefix = p)
      (hhit : s.attempts.findByKey scope s.now = some row)
      (hprobe : lookupCachedReplay limits s.attempts scope hash deserialize s.now = .ok none) :
      CeilingStep limits p s .unreadable { s with inFlight := scope :: s.inFlight }
  /-- a replay, a conflict or a refusal -/
  | answered {s : CeilingState Hash} :
      CeilingStep limits p s .answered s
  /-- the success of a request is cached, unless its key has a row -/
  | cached {s : CeilingState Hash} {before after : List Scope} {scope : Scope}
      {toolName : String} {envelope : Envelope} {hash : Hash} {created : DateTime}
      {attempts' : Attempts Hash}
      (hflight : s.inFlight = before ++ scope :: after)
      (hscope : scope.scopePrefix = p)
      (hinsert : s.attempts.insert (successRow scope toolName envelope hash s.now created)
        = some attempts') :
      CeilingStep limits p s (.cached created)
        { s with
          attempts := attempts'
          inFlight := before ++ after
          cachedAt := created :: s.cachedAt }
  /-- a request fails, or finds its key taken when it would cache -/
  | dropped {s : CeilingState Hash} {before after : List Scope} {scope : Scope}
      (hflight : s.inFlight = before ++ scope :: after) :
      CeilingStep limits p s .dropped { s with inFlight := before ++ after }
  | evicted {s : CeilingState Hash} {tenantId : String} :
      CeilingStep limits p s .evicted { s with attempts := s.attempts.expireOld tenantId s.now }
  /-- the rows of other scopes -/
  | other {s : CeilingState Hash} {attempts' : Attempts Hash}
      (hown : ownRows p attempts' = ownRows p s.attempts) :
      CeilingStep limits p s .other { s with attempts := attempts' }

/-- The rate window. -/
def rateWindow
    (limits : LimitSettings) : Timedelta :=
  Timedelta.seconds limits.idempotencyInsertRateWindowSeconds

/-- The rows of the scope created in the window that ends now. -/
def recentRows
    (limits : LimitSettings)
    (p : ScopePrefix)
    (s : CeilingState Hash) : Nat :=
  (ownRows p s.attempts).countP fun row => s.now - rateWindow limits < row.createdAt

/-- The unexpired rows of the scope. -/
def activeRows
    (p : ScopePrefix)
    (s : CeilingState Hash) : Nat :=
  (ownRows p s.attempts).countP fun row => s.now < row.expiresAt

/-- The successes of the scope that were cached in the window that ends now. -/
def recentSuccesses
    (limits : LimitSettings)
    (s : CeilingState Hash) : Nat :=
  s.cachedAt.countP fun created => s.now - rateWindow limits < created

/-- At most `K` requests of the scope overlap, stored successes can be read, and a row outlives
the window of its creation. -/
def Orderly
    (limits : LimitSettings)
    (K : Nat)
    (s : CeilingState Hash) : CeilingEvent → Prop
  | .admitted => s.inFlight.length < K
  | .unreadable => False
  | .cached created => created + rateWindow limits ≤ s.now + defaultReplayTtl
  | _ => True

/-- A scope before its first request. -/
structure Fresh
    (p : ScopePrefix)
    (s : CeilingState Hash) : Prop where
  rows : ownRows p s.attempts = []
  inFlight : s.inFlight = []
  cachedAt : s.cachedAt = []

end Model

section Counting

variable {Hash : Type}
variable {limits : LimitSettings} {p : ScopePrefix} {s t : CeilingState Hash}

theorem countInsertsSince_eq
    (attempts : Attempts Hash)
    (p : ScopePrefix)
    (since : DateTime) :
    (attempts.countInsertsSince p since).1
      = (ownRows p attempts).countP fun row => since < row.createdAt := by
  rw [ownRows, List.countP_filter, Attempts.countInsertsSince, ← List.countP_eq_length_filter]
  exact List.countP_congr fun row _ => by simp [and_comm]

theorem countActive_eq
    (attempts : Attempts Hash)
    (p : ScopePrefix)
    (now : DateTime) :
    (attempts.countActive p now).1
      = (ownRows p attempts).countP fun row => now < row.expiresAt := by
  rw [ownRows, List.countP_filter, Attempts.countActive, ← List.countP_eq_length_filter]
  exact List.countP_congr fun row _ => by simp [and_comm]

theorem ownRows_insert
    {attempts attempts' : Attempts Hash}
    {row : IdempotencyAttempt Hash}
    (hscope : row.scope.scopePrefix = p)
    (h : attempts.insert row = some attempts') :
    ownRows p attempts' = row :: ownRows p attempts := by
  rw [ownRows, (attempts.insert_eq_some_iff.mp h).2]
  exact List.filter_cons_of_pos (decide_eq_true hscope)

theorem ownRows_expireOld
    (attempts : Attempts Hash)
    (p : ScopePrefix)
    (tenantId : String)
    (now : DateTime) :
    ownRows p (attempts.expireOld tenantId now)
      = (ownRows p attempts).filter fun row =>
          ! decide (row.scope.tenantId = tenantId ∧ row.expiresAt ≤ now) := by
  rw [ownRows, ownRows, Attempts.expireOld, IndexedTable.deleteWhere]
  exact List.filter_comm _ _ _

theorem countP_expireOld
    {q : IdempotencyAttempt Hash → Bool}
    {attempts : Attempts Hash}
    {tenantId : String}
    {now : DateTime}
    (hlive : ∀ row ∈ ownRows p attempts, q row = true → now < row.expiresAt) :
    (ownRows p (attempts.expireOld tenantId now)).countP q = (ownRows p attempts).countP q := by
  rw [ownRows_expireOld, List.countP_filter]
  refine List.countP_congr fun row hmem => ?_
  rw [Bool.and_eq_true]
  refine and_iff_left_of_imp fun hq => ?_
  rw [Bool.not_eq_true', decide_eq_false_iff_not]
  rintro ⟨-, hexpired⟩
  exact absurd (hlive row hmem hq) (not_lt_of_ge hexpired)

theorem countP_lt_of_mem
    {rows rows' : List (IdempotencyAttempt Hash)}
    {q q' : IdempotencyAttempt Hash → Bool}
    (hrows : rows'.Sublist rows)
    (himp : ∀ row ∈ rows, q' row = true → q row = true)
    {row : IdempotencyAttempt Hash}
    (hmem : row ∈ rows)
    (hq : q row = true)
    (hq' : q' row = false) :
    rows'.countP q' < rows.countP q := by
  refine lt_of_le_of_lt hrows.countP_le ?_
  rw [List.countP_eq_length_filter, List.countP_eq_length_filter]
  have hsub : rows.filter q' = (rows.filter q).filter q' := by
    rw [List.filter_filter]
    refine List.filter_congr fun row hmem => ?_
    cases hrow : q' row with
    | false => rfl
    | true => rw [himp row hmem hrow]; rfl
  rw [hsub]
  refine List.length_filter_lt_length_iff_exists.mpr ⟨row, List.mem_filter.mpr ⟨hmem, hq⟩, ?_⟩
  rw [hq']
  exact Bool.false_ne_true

variable [DecidableEq Hash]

theorem room_of_admitted
    {scope : Scope}
    {hash : Hash}
    {deserialize : Envelope → Option AdcpResponse}
    (hscope : scope.scopePrefix = p)
    (hmiss : s.attempts.findByKey scope s.now = none)
    (hprobe : lookupCachedReplay limits s.attempts scope hash deserialize s.now = .ok none) :
    recentRows limits p s < limits.idempotencyMaxInsertsPerWindow
      ∧ activeRows p s < limits.idempotencyMaxActiveAttemptsPerScope := by
  have hroom : enforceInsertCeiling limits s.attempts p s.now = none := by
    cases hceiling : enforceInsertCeiling limits s.attempts p s.now with
    | none => rfl
    | some retryAfter =>
        simp only [lookupCachedReplay, hmiss, hscope, hceiling] at hprobe
        cases hprobe
  rw [recentRows, activeRows, ← countInsertsSince_eq, ← countActive_eq]
  rw [enforceInsertCeiling] at hroom
  dsimp only at hroom
  by_cases hrate : limits.idempotencyMaxInsertsPerWindow
      ≤ (s.attempts.countInsertsSince p
          (s.now - Timedelta.seconds limits.idempotencyInsertRateWindowSeconds)).1
  · rw [if_pos hrate] at hroom
    cases hroom
  · rw [if_neg hrate] at hroom
    refine ⟨Nat.lt_of_not_le hrate, ?_⟩
    by_cases hactive : (s.attempts.countActive p s.now).1
        < limits.idempotencyMaxActiveAttemptsPerScope
    · exact hactive
    · rw [if_neg hactive] at hroom
      cases hroom

end Counting

section Bounds

variable {Hash : Type}
variable {limits : LimitSettings} {p : ScopePrefix} {K : Nat} {s t : CeilingState Hash}

/-- Rows and requests in flight leave room for `K - 1` above the limit. -/
def Room
    (limit K rows inFlight : Nat) : Prop :=
  rows + inFlight = 0 ∨ rows + inFlight + 1 ≤ limit + K

theorem Room.of_le
    {limit K rows rows' inFlight : Nat}
    (h : Room limit K rows inFlight)
    (hle : rows' ≤ rows) :
    Room limit K rows' inFlight := by
  rcases h with hempty | hroom
  · refine .inl ?_
    omega
  · refine .inr ?_
    omega

theorem Room.admitted
    {limit K rows inFlight : Nat}
    (hrows : rows < limit)
    (hflight : inFlight < K) :
    Room limit K rows (inFlight + 1) := by
  refine .inr ?_
  omega

theorem Room.leave
    {limit K rows inFlight : Nat}
    (h : Room limit K rows (inFlight + 1)) :
    Room limit K rows inFlight := by
  rcases h with hempty | hroom
  · omega
  · refine .inr ?_
    omega

theorem Room.insert
    {limit K rows rows' inFlight : Nat}
    (h : Room limit K rows (inFlight + 1))
    (hle : rows' ≤ rows + 1) :
    Room limit K rows' inFlight := by
  rcases h with hempty | hroom
  · omega
  · refine .inr ?_
    omega

theorem Room.rows_le
    {limit K rows inFlight : Nat}
    (h : Room limit K rows inFlight) :
    rows ≤ limit + (K - 1) := by
  rcases h with hempty | hroom
  · omega
  · omega

/-- What holds of a scope along its histories. -/
structure CeilingInvariant
    (limits : LimitSettings)
    (p : ScopePrefix)
    (K : Nat)
    (s : CeilingState Hash) : Prop where
  rate :
    Room limits.idempotencyMaxInsertsPerWindow K (recentRows limits p s) s.inFlight.length
  storage :
    Room limits.idempotencyMaxActiveAttemptsPerScope K (activeRows p s) s.inFlight.length
  /-- a row outlives the window of its creation -/
  outlives : ∀ row ∈ ownRows p s.attempts, row.createdAt + rateWindow limits ≤ row.expiresAt
  /-- the successes since an instant in the window still have their rows -/
  recorded :
    ∀ since, s.now - rateWindow limits ≤ since →
      s.cachedAt.countP (fun created => since < created)
        ≤ (ownRows p s.attempts).countP fun row => since < row.createdAt

theorem length_flight
    {before after : List Scope}
    {scope : Scope}
    (h : s.inFlight = before ++ scope :: after) :
    s.inFlight.length = (before ++ after).length + 1 := by
  rw [h, List.length_append, List.length_cons, List.length_append]
  omega

theorem CeilingInvariant.of_fresh
    (h : Fresh p s) :
    CeilingInvariant limits p K s := by
  constructor
  · refine .inl ?_
    rw [recentRows, h.rows, h.inFlight]
    rfl
  · refine .inl ?_
    rw [activeRows, h.rows, h.inFlight]
    rfl
  · rw [h.rows]
    exact fun row hmem => absurd hmem List.not_mem_nil
  · intro since _
    rw [h.cachedAt]
    exact Nat.zero_le _

variable [DecidableEq Hash]

/-- With at most `K` requests in flight, a step keeps the invariant. -/
theorem room_preserved :
    Preserved (Restrict (CeilingStep limits p) (Orderly limits K))
      (@CeilingInvariant Hash limits p K) := by
  rintro s e t ⟨hstep, horderly⟩ hs
  cases hstep with
  | @tick later hlater =>
      refine ⟨hs.rate.of_le ?_, hs.storage.of_le ?_, hs.outlives, ?_⟩
      · refine List.countP_mono_left fun row _ hrecent => ?_
        refine decide_eq_true (lt_of_le_of_lt ?_ (of_decide_eq_true hrecent))
        exact Int.sub_le_sub_right hlater _
      · refine List.countP_mono_left fun row _ hactive => ?_
        exact decide_eq_true (lt_of_le_of_lt hlater (of_decide_eq_true hactive))
      · intro since hsince
        exact hs.recorded since (le_trans (Int.sub_le_sub_right hlater _) hsince)
  | admitted hscope hmiss hprobe =>
      obtain ⟨hrate, hstorage⟩ := room_of_admitted hscope hmiss hprobe
      exact ⟨.admitted hrate horderly, .admitted hstorage horderly, hs.outlives, hs.recorded⟩
  | unreadable _ _ _ => exact horderly.elim
  | answered => exact hs
  | @cached before after scope toolName envelope hash created attempts' hflight hscope hinsert =>
      have hrate := hs.rate
      have hstorage := hs.storage
      rw [length_flight hflight] at hrate hstorage
      have hrows : ownRows p attempts'
          = successRow scope toolName envelope hash s.now created :: ownRows p s.attempts :=
        ownRows_insert hscope hinsert
      have hcount (q : IdempotencyAttempt Hash → Bool) :
          (ownRows p attempts').countP q ≤ (ownRows p s.attempts).countP q + 1 := by
        rw [hrows, List.countP_cons]
        split
        · exact le_refl _
        · exact Nat.le_succ _
      refine ⟨hrate.insert (hcount _), hstorage.insert (hcount _), ?_, ?_⟩
      · intro row hmem
        rw [hrows] at hmem
        rcases List.mem_cons.mp hmem with rfl | hmem
        · exact horderly
        · exact hs.outlives row hmem
      · intro since hsince
        show (created :: s.cachedAt).countP (fun created => since < created)
          ≤ (ownRows p attempts').countP fun row => since < row.createdAt
        rw [hrows, List.countP_cons, List.countP_cons]
        exact Nat.add_le_add_right (hs.recorded since hsince) _
  | @dropped before after scope hflight =>
      have hrate := hs.rate
      have hstorage := hs.storage
      rw [length_flight hflight] at hrate hstorage
      exact ⟨hrate.leave, hstorage.leave, hs.outlives, hs.recorded⟩
  | @evicted tenantId =>
      have hkept (since : DateTime) (hsince : s.now - rateWindow limits ≤ since) :
          (ownRows p (s.attempts.expireOld tenantId s.now)).countP
              (fun row => since < row.createdAt)
            = (ownRows p s.attempts).countP fun row => since < row.createdAt := by
        refine countP_expireOld fun row hmem hcreated => ?_
        have hcreated : since < row.createdAt := of_decide_eq_true hcreated
        have houtlives := hs.outlives row hmem
        have hwindow : s.now < row.createdAt + rateWindow limits :=
          Int.lt_add_of_sub_right_lt (lt_of_le_of_lt hsince hcreated)
        exact lt_of_lt_of_le hwindow houtlives
      refine ⟨?_, ?_, ?_, ?_⟩
      · exact hs.rate.of_le (le_of_eq (hkept _ (le_refl _)))
      · refine hs.storage.of_le (le_of_eq (countP_expireOld fun row _ hactive => ?_))
        exact of_decide_eq_true hactive
      · intro row hmem
        rw [ownRows_expireOld] at hmem
        exact hs.outlives row (List.mem_of_mem_filter hmem)
      · intro since hsince
        show s.cachedAt.countP (fun created => since < created)
          ≤ (ownRows p (s.attempts.expireOld tenantId s.now)).countP fun row =>
              since < row.createdAt
        rw [hkept since hsince]
        exact hs.recorded since hsince
  | @other attempts' hown =>
      constructor
      · show Room _ _ ((ownRows p attempts').countP _) _
        rw [hown]
        exact hs.rate
      · show Room _ _ ((ownRows p attempts').countP _) _
        rw [hown]
        exact hs.storage
      · show ∀ row ∈ ownRows p attempts', _
        rw [hown]
        exact hs.outlives
      · show ∀ since, _ → _ ≤ (ownRows p attempts').countP _
        rw [hown]
        exact hs.recorded

end Bounds

section Promises

variable {Hash : Type}
variable {limits : LimitSettings} {p : ScopePrefix} {s t : CeilingState Hash}

/-- The scope is at its rate limit: a miss is refused for the rate. -/
def RateRefused
    (limits : LimitSettings)
    (p : ScopePrefix)
    (s : CeilingState Hash) : Prop :=
  limits.idempotencyMaxInsertsPerWindow ≤ recentRows limits p s

/-- The scope is at its storage ceiling and below its rate limit: a miss is refused for the
storage. -/
def StorageRefused
    (limits : LimitSettings)
    (p : ScopePrefix)
    (s : CeilingState Hash) : Prop :=
  ¬ RateRefused limits p s ∧ limits.idempotencyMaxActiveAttemptsPerScope ≤ activeRows p s

theorem enforceInsertCeiling_isSome_iff :
    (enforceInsertCeiling limits s.attempts p s.now).isSome
      ↔ RateRefused limits p s ∨ StorageRefused limits p s := by
  rw [StorageRefused, RateRefused, recentRows, activeRows, ← countInsertsSince_eq,
    ← countActive_eq, enforceInsertCeiling]
  dsimp only
  rw [← rateWindow]
  by_cases hrate : limits.idempotencyMaxInsertsPerWindow
      ≤ (s.attempts.countInsertsSince p (s.now - rateWindow limits)).1
  · rw [if_pos hrate]
    exact iff_of_true rfl (.inl hrate)
  · rw [if_neg hrate]
    by_cases hactive : (s.attempts.countActive p s.now).1
        < limits.idempotencyMaxActiveAttemptsPerScope
    · rw [if_pos hactive]
      refine iff_of_false Bool.false_ne_true ?_
      rintro (hlimit | ⟨-, hceiling⟩)
      · exact hrate hlimit
      · exact absurd hactive (Nat.not_lt_of_le hceiling)
    · rw [if_neg hactive]
      exact iff_of_true rfl (.inr ⟨hrate, Nat.le_of_not_lt hactive⟩)

variable [DecidableEq Hash]

/-- No success of the scope is cached. -/
def Quiet : CeilingEvent → Prop
  | .cached _ => False
  | _ => True

/-- Meanwhile the clock goes on and the rows of the scope only become fewer. -/
structure Meanwhile
    (p : ScopePrefix)
    (s t : CeilingState Hash) : Prop where
  now : s.now ≤ t.now
  rows : (ownRows p t.attempts).Sublist (ownRows p s.attempts)

theorem meanwhile_of_run
    {es : List CeilingEvent}
    (hrun : Run (Restrict (CeilingStep limits p) fun _ e => Quiet e) s es t) :
    Meanwhile p s t := by
  refine hrun.relates (fun s => ⟨le_refl _, List.Sublist.refl _⟩) ?_ ?_
  · intro s t u hst htu
    exact ⟨le_trans hst.now htu.now, htu.rows.trans hst.rows⟩
  · rintro s e t ⟨hstep, hquiet⟩
    cases hstep with
    | tick hlater => exact ⟨hlater, List.Sublist.refl _⟩
    | admitted _ _ _ => exact ⟨le_refl _, List.Sublist.refl _⟩
    | unreadable _ _ _ => exact ⟨le_refl _, List.Sublist.refl _⟩
    | answered => exact ⟨le_refl _, List.Sublist.refl _⟩
    | cached _ _ _ => exact hquiet.elim
    | dropped _ => exact ⟨le_refl _, List.Sublist.refl _⟩
    | evicted =>
        refine ⟨le_refl _, ?_⟩
        rw [ownRows_expireOld]
        exact List.filter_sublist
    | other hown => exact ⟨le_refl _, by rw [hown]⟩

theorem lookupCachedReplay_rateLimited_iff
    {scope : Scope}
    {hash : Hash}
    {deserialize : Envelope → Option AdcpResponse}
    {retryAfter : Int} :
    lookupCachedReplay limits s.attempts scope hash deserialize s.now
        = .error (.rateLimited retryAfter)
      ↔ s.attempts.findByKey scope s.now = none
        ∧ enforceInsertCeiling limits s.attempts scope.scopePrefix s.now = some retryAfter := by
  cases hfind : s.attempts.findByKey scope s.now with
  | none =>
      cases hceiling : enforceInsertCeiling limits s.attempts scope.scopePrefix s.now with
      | none =>
          simp only [lookupCachedReplay, hfind, hceiling]
          refine iff_of_false (fun h => by cases h) ?_
          rintro ⟨-, h⟩
          cases h
      | some wait =>
          simp only [lookupCachedReplay, hfind, hceiling]
          constructor
          · intro h
            cases h
            exact ⟨trivial, rfl⟩
          · rintro ⟨-, h⟩
            cases h
            rfl
  | some row =>
      simp only [lookupCachedReplay, hfind]
      refine iff_of_false ?_ ?_
      · cases hhash : row.payloadHash with
        | none => exact fun h => by cases h
        | some stored =>
            rw [raiseOnPayloadConflict_some]
            by_cases heq : stored = hash
            · rw [if_pos heq]
              exact fun h => by cases h
            · rw [if_neg heq]
              exact fun h => by cases h
      · rintro ⟨h, -⟩
        cases h

theorem le_seconds_clamp
    (wait : Int)
    (h : wait ≤ 3600 * 1000000) :
    wait ≤ min (max 1 (-((-wait) / 1000000))) 3600 * 1000000 := by
  omega

theorem le_clampRetryAfter
    {wait : Timedelta}
    (h : wait ≤ Timedelta.seconds retryAfterMax) :
    wait ≤ Timedelta.seconds (clampRetryAfter wait) :=
  le_seconds_clamp wait h

theorem wait_le
    (oldest created now window hour : Int)
    (hleast : oldest ≤ created)
    (hhour : created + window ≤ now + hour) :
    window - (now - oldest) ≤ hour := by
  omega

theorem left_window
    (created now later retryAfter window : Int)
    (hpast : created ≤ now)
    (hclamp : window * 1000000 - (now - created) ≤ retryAfter * 1000000)
    (hwait : now + min retryAfter window * 1000000 ≤ later) :
    created ≤ later - window * 1000000 := by
  rcases le_total retryAfter window with hle | hle
  · rw [min_eq_left hle] at hwait
    omega
  · rw [min_eq_right hle] at hwait
    omega

omit [DecidableEq Hash] in
/-- The least time among a scope's rows that meet a condition is the time of such a row. -/
theorem exists_least
    {attempts : Attempts Hash}
    {P : IdempotencyAttempt Hash → Prop}
    [DecidablePred P]
    {soon : IdempotencyAttempt Hash}
    (time : IdempotencyAttempt Hash → DateTime)
    (hsoon : soon ∈ ownRows p attempts)
    (hP : P soon) :
    ∃ row ∈ ownRows p attempts, P row ∧ time row ≤ time soon
      ∧ ((attempts.rows.filter fun row => row.scope.scopePrefix = p ∧ P row).map time).min?
        = some (time row) := by
  obtain ⟨hstored, hscope⟩ := List.mem_filter.mp hsoon
  have hmem : soon ∈ attempts.rows.filter fun row => row.scope.scopePrefix = p ∧ P row :=
    List.mem_filter.mpr ⟨hstored, decide_eq_true ⟨of_decide_eq_true hscope, hP⟩⟩
  cases hleast :
      ((attempts.rows.filter fun row => row.scope.scopePrefix = p ∧ P row).map time).min? with
  | none =>
      rw [List.min?_eq_none_iff, List.map_eq_nil_iff] at hleast
      rw [hleast] at hmem
      cases hmem
  | some least =>
      obtain ⟨row, hrow, rfl⟩ := List.mem_map.mp (List.min?_mem hleast)
      obtain ⟨hrowstored, hactive⟩ := List.mem_filter.mp hrow
      have hactive := of_decide_eq_true hactive
      exact ⟨row, List.mem_filter.mpr ⟨hrowstored, decide_eq_true hactive.1⟩, hactive.2,
        (List.min?_eq_some_iff.mp hleast).2 _ (List.mem_map.mpr ⟨soon, hmem, rfl⟩), rfl⟩

/-- A refusal for the rate, at the limit exactly, does not come again after its wait. -/
theorem rate_promise
    {es : List CeilingEvent}
    {retryAfter : Int}
    (hrun : Run (Restrict (CeilingStep limits p) fun _ e => Quiet e) s es t)
    (hrefused : RateRefused limits p s)
    (hretry : enforceInsertCeiling limits s.attempts p s.now = some retryAfter)
    (hwait : s.now + Timedelta.seconds retryAfter ≤ t.now)
    (hexact : recentRows limits p s = limits.idempotencyMaxInsertsPerWindow)
    (hhour : ∃ row ∈ ownRows p s.attempts, s.now - rateWindow limits < row.createdAt
      ∧ row.createdAt ≤ s.now
      ∧ row.createdAt + rateWindow limits ≤ s.now + Timedelta.seconds retryAfterMax) :
    ¬ RateRefused limits p t := by
  have hmeanwhile := meanwhile_of_run hrun
  obtain ⟨soon, hsoon, hsoonrecent, hsoonpast, hsoonhour⟩ := hhour
  have hcount : limits.idempotencyMaxInsertsPerWindow
      ≤ (s.attempts.countInsertsSince p (s.now - rateWindow limits)).1 := by
    rw [countInsertsSince_eq]
    exact hrefused
  obtain ⟨oldest, hown, hrecent, hleast, hmin⟩ :=
    exists_least (P := fun row => s.now - rateWindow limits < row.createdAt) (·.createdAt)
      hsoon hsoonrecent
  rw [enforceInsertCeiling] at hretry
  dsimp only at hretry
  rw [← rateWindow, if_pos hcount, Attempts.countInsertsSince] at hretry
  dsimp only at hretry
  rw [hmin] at hretry
  have hclamp := @le_clampRetryAfter (rateWindow limits - (s.now - oldest.createdAt))
    (wait_le _ _ _ _ _ hleast hsoonhour)
  have hleft : oldest.createdAt ≤ t.now - rateWindow limits := by
    cases hretry
    exact left_window _ _ _ _ _ (le_trans hleast hsoonpast) hclamp hwait
  have hsmaller : recentRows limits p t < recentRows limits p s := by
    refine countP_lt_of_mem hmeanwhile.rows ?_ hown (decide_eq_true hrecent) ?_
    · intro other _ hother
      refine decide_eq_true (lt_of_le_of_lt ?_ (of_decide_eq_true hother))
      exact Int.sub_le_sub_right hmeanwhile.now _
    · exact decide_eq_false (not_lt_of_ge hleft)
  rw [RateRefused, ← hexact]
  exact Nat.not_le_of_lt hsmaller

/-- A refusal for the storage, at the ceiling exactly and with a row that expires within the
hour, does not come again after its wait. -/
theorem storage_promise
    {es : List CeilingEvent}
    {retryAfter : Int}
    (hrun : Run (Restrict (CeilingStep limits p) fun _ e => Quiet e) s es t)
    (hrefused : StorageRefused limits p s)
    (hretry : enforceInsertCeiling limits s.attempts p s.now = some retryAfter)
    (hwait : s.now + Timedelta.seconds retryAfter ≤ t.now)
    (hexact : activeRows p s = limits.idempotencyMaxActiveAttemptsPerScope)
    (hhour : ∃ row ∈ ownRows p s.attempts, s.now < row.expiresAt
      ∧ row.expiresAt ≤ s.now + Timedelta.seconds retryAfterMax) :
    ¬ StorageRefused limits p t := by
  have hmeanwhile := meanwhile_of_run hrun
  have hrate : ¬ limits.idempotencyMaxInsertsPerWindow
      ≤ (s.attempts.countInsertsSince p (s.now - rateWindow limits)).1 := by
    rw [countInsertsSince_eq]
    exact hrefused.1
  have hfull : ¬ (s.attempts.countActive p s.now).1
      < limits.idempotencyMaxActiveAttemptsPerScope := by
    rw [countActive_eq]
    exact Nat.not_lt_of_le hrefused.2
  obtain ⟨soon, hsoon, hsoonlive, hsoonhour⟩ := hhour
  obtain ⟨oldest, hown, hlive, hleast, hmin⟩ :=
    exists_least (P := fun row => s.now < row.expiresAt) (·.expiresAt) hsoon hsoonlive
  rw [enforceInsertCeiling] at hretry
  dsimp only at hretry
  rw [← rateWindow, if_neg hrate, if_neg hfull, Attempts.countActive] at hretry
  dsimp only at hretry
  rw [hmin] at hretry
  have hexpired : oldest.expiresAt ≤ t.now := by
    have hclamp := @le_clampRetryAfter (oldest.expiresAt - s.now)
      (Int.sub_left_le_of_le_add (le_trans hleast hsoonhour))
    cases hretry
    exact le_trans (Int.le_add_of_sub_left_le hclamp) hwait
  have hsmaller : activeRows p t < activeRows p s := by
    refine countP_lt_of_mem hmeanwhile.rows ?_ hown (decide_eq_true hlive) ?_
    · intro other _ hother
      exact decide_eq_true (lt_of_le_of_lt hmeanwhile.now (of_decide_eq_true hother))
    · exact decide_eq_false (not_lt_of_ge hexpired)
  rintro ⟨-, hagain⟩
  rw [← hexact] at hagain
  exact absurd hsmaller (Nat.not_lt_of_le hagain)

/-- The insert ceiling of a scope. -/
theorem insert_ceiling_laws
    (limits : LimitSettings)
    (p : ScopePrefix) :
    (∀ (K : Nat) (s t : CeilingState Hash) (es : List CeilingEvent),
      Fresh p s →
      Run (Restrict (CeilingStep limits p) (Orderly limits K)) s es t →
      recentSuccesses limits t ≤ limits.idempotencyMaxInsertsPerWindow + (K - 1)
        ∧ recentRows limits p t ≤ limits.idempotencyMaxInsertsPerWindow + (K - 1)
        ∧ activeRows p t ≤ limits.idempotencyMaxActiveAttemptsPerScope + (K - 1))
    ∧ (∀ (s : CeilingState Hash) (scope : Scope) (hash : Hash)
        (deserialize : Envelope → Option AdcpResponse) (row : IdempotencyAttempt Hash)
        (retryAfter : Int),
      s.attempts.findByKey scope s.now = some row →
      lookupCachedReplay limits s.attempts scope hash deserialize s.now
        ≠ .error (.rateLimited retryAfter))
    ∧ (∀ (s t : CeilingState Hash) (es : List CeilingEvent) (scope : Scope) (hash : Hash)
        (deserialize : Envelope → Option AdcpResponse) (retryAfter : Int),
      scope.scopePrefix = p →
      lookupCachedReplay limits s.attempts scope hash deserialize s.now
        = .error (.rateLimited retryAfter) →
      Run (Restrict (CeilingStep limits p) fun _ e => Quiet e) s es t →
      s.now + Timedelta.seconds retryAfter ≤ t.now →
      (RateRefused limits p s ∨ StorageRefused limits p s)
        ∧ (RateRefused limits p s →
          recentRows limits p s = limits.idempotencyMaxInsertsPerWindow →
          (∃ row ∈ ownRows p s.attempts, s.now - rateWindow limits < row.createdAt
            ∧ row.createdAt ≤ s.now
            ∧ row.createdAt + rateWindow limits ≤ s.now + Timedelta.seconds retryAfterMax) →
          ¬ RateRefused limits p t)
        ∧ (StorageRefused limits p s →
          activeRows p s = limits.idempotencyMaxActiveAttemptsPerScope →
          (∃ row ∈ ownRows p s.attempts, s.now < row.expiresAt
            ∧ row.expiresAt ≤ s.now + Timedelta.seconds retryAfterMax) →
          ¬ StorageRefused limits p t)) := by
  refine ⟨?_, ?_, ?_⟩
  · intro K s t es hfresh hrun
    have hinv := hrun.preserves room_preserved (CeilingInvariant.of_fresh hfresh)
    refine ⟨?_, hinv.rate.rows_le, hinv.storage.rows_le⟩
    exact le_trans (hinv.recorded _ (le_refl _)) hinv.rate.rows_le
  · intro s scope hash deserialize row retryAfter hhit hrefused
    obtain ⟨hmiss, -⟩ := lookupCachedReplay_rateLimited_iff.mp hrefused
    rw [hhit] at hmiss
    cases hmiss
  · intro s t es scope hash deserialize retryAfter hscope hprobe hrun hwait
    obtain ⟨-, hretry⟩ := lookupCachedReplay_rateLimited_iff.mp hprobe
    rw [hscope] at hretry
    refine ⟨?_, ?_, ?_⟩
    · refine enforceInsertCeiling_isSome_iff.mp ?_
      rw [hretry]
      rfl
    · intro hrefused hexact hhour
      exact rate_promise hrun hrefused hretry hwait hexact hhour
    · intro hrefused hexact hhour
      exact storage_promise hrun hrefused hretry hwait hexact hhour

end Promises

section Overshoot

/-- A request of one buyer. -/
def buyerScope
    (key : String) : Scope where
  tenantId := "acme"
  principalId := "buyer"
  accountId := none
  idempotencyKey := key

def buyerState
    (now : DateTime) : CeilingState Unit where
  attempts := IndexedTable.empty
  now := now
  inFlight := []
  cachedAt := []

def buyerEnvelope : Envelope where
  status := "completed"
  response := .null

theorem exists_insert_buyer
    {attempts : Attempts Unit}
    {key : String}
    (now created : DateTime)
    (hfree : ∀ row ∈ attempts, row.scope ≠ buyerScope key) :
    ∃ attempts', attempts.insert
        (successRow (buyerScope key) "create_media_buy" buyerEnvelope () now created)
      = some attempts' := by
  refine Option.isSome_iff_exists.mp (Option.isSome_iff_ne_none.mpr fun hnone => ?_)
  obtain ⟨k, hkey, row, hmem, hrow⟩ := attempts.insert_eq_none_iff.mp hnone
  cases hkey
  exact hfree row hmem (Option.some.inj hrow)

/-- The cache after one success at the epoch. -/
def buyerAttempts : Attempts Unit where
  rows := [successRow (buyerScope "a") "create_media_buy" buyerEnvelope () 0 0]
  unique := List.pairwise_singleton _ _

theorem insert_buyerAttempts :
    (buyerState 0).attempts.insert
        (successRow (buyerScope "a") "create_media_buy" buyerEnvelope () 0 0)
      = some buyerAttempts := by
  refine (IndexedTable.insert_eq_some_iff _).mpr ⟨?_, rfl⟩
  rintro ⟨key, -, row, hmem, -⟩
  exact absurd hmem List.not_mem_nil

/-- Two requests that probe before either inserts exceed a limit of one; and a scope at its
ceiling is refused again after the wait it was told, which ends an hour later at the latest. -/
theorem insert_ceiling_exceeded :
    (∃ (limits : LimitSettings) (s t : CeilingState Unit) (es : List CeilingEvent),
      Fresh (buyerScope "a").scopePrefix s
        ∧ Run (CeilingStep limits (buyerScope "a").scopePrefix) s es t
        ∧ limits.idempotencyMaxInsertsPerWindow < recentSuccesses limits t)
    ∧ ∃ (limits : LimitSettings) (s t u : CeilingState Unit) (es es' : List CeilingEvent)
        (retryAfter : Int),
      Fresh (buyerScope "a").scopePrefix s
        ∧ Run (CeilingStep limits (buyerScope "a").scopePrefix) s es t
        ∧ lookupCachedReplay limits t.attempts (buyerScope "b") () (fun _ => none) t.now
          = .error (.rateLimited retryAfter)
        ∧ Run (Restrict (CeilingStep limits (buyerScope "a").scopePrefix) fun _ e => Quiet e)
          t es' u
        ∧ t.now + Timedelta.seconds retryAfter ≤ u.now
        ∧ StorageRefused limits (buyerScope "a").scopePrefix t
        ∧ StorageRefused limits (buyerScope "a").scopePrefix u := by
  refine ⟨?_, ?_⟩
  · obtain ⟨attempts', hsecond⟩ := @exists_insert_buyer buyerAttempts "b" 0 0 (by
      intro row hmem
      rcases List.mem_cons.mp hmem with rfl | hmem
      · decide
      · exact absurd hmem List.not_mem_nil)
    refine ⟨⟨1000, 10, 1⟩, buyerState 0, ⟨attempts', 0, [], [0, 0]⟩,
      [.admitted, .admitted, .cached 0, .cached 0], ⟨rfl, rfl, rfl⟩, ?_, ?_⟩
    · refine .cons (@CeilingStep.admitted _ _ _ _ _ (buyerScope "b") () (fun _ => none)
        rfl rfl rfl) ?_
      refine .cons (@CeilingStep.admitted _ _ _ _ _ (buyerScope "a") () (fun _ => none)
        rfl rfl rfl) ?_
      refine .cons (@CeilingStep.cached _ _ _ _ _ [] [buyerScope "b"] (buyerScope "a")
        "create_media_buy" buyerEnvelope () 0 buyerAttempts rfl rfl insert_buyerAttempts) ?_
      refine .cons (@CeilingStep.cached _ _ _ _ _ [] [] (buyerScope "b")
        "create_media_buy" buyerEnvelope () 0 attempts' rfl rfl hsecond) ?_
      exact .nil _
    · exact (by decide : 1 < [(0 : Int), 0].countP fun created =>
        0 - Timedelta.seconds 10 < created)
  · refine ⟨⟨1, 10, 300⟩, buyerState 0, ⟨buyerAttempts, 11000000, [], [0]⟩,
      ⟨buyerAttempts, 3611000000, [], [0]⟩, [.admitted, .cached 0, .tick], [.tick], 3600,
      ⟨rfl, rfl, rfl⟩, ?_, rfl, ?_, by decide, ?_, ?_⟩
    · refine .cons (@CeilingStep.admitted _ _ _ _ _ (buyerScope "a") () (fun _ => none)
        rfl rfl rfl) ?_
      refine .cons (@CeilingStep.cached _ _ _ _ _ [] [] (buyerScope "a")
        "create_media_buy" buyerEnvelope () 0 buyerAttempts rfl rfl insert_buyerAttempts) ?_
      exact .cons (.tick (by decide)) (.nil _)
    · exact .cons ⟨.tick (by decide), trivial⟩ (.nil _)
    · rw [StorageRefused, RateRefused]
      decide
    · rw [StorageRefused, RateRefused]
      decide

end Overshoot

end Idempotency
end SalesAgent
