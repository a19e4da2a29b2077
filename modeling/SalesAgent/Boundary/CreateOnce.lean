import SalesAgent.Boundary.Invoke

/-!
# One ad-server order per idempotency key

A keyed `create_media_buy` probes the cache, runs the implementation, calls the
ad server, inserts the media buy under the backstop index, and caches its
success.  Attempts interleave between these steps, and any of them may raise or
die.  The state holds the cached rows, the media-buy rows as the idempotency
path reads them, the attempts past their probe, and the ad server's orders.

The backstop is reached only after the order exists, so it reports a second
order and does not prevent it.  Two orders for one key need one of three things:
a probe that misses while another attempt for the key has not recorded its
outcome, a probe that misses although a confirmed media buy carries the key, or
an attempt that ends between its order and its media-buy row.

**Results.**
* `OneOrder.preserved`: the invariant of the guarded steps.
* `at_most_one_order`: along every run of guarded steps a key has one order.
* `two_orders`: two concurrent attempts of one key reach two orders.
-/

namespace SalesAgent
namespace Boundary

open Idempotency Runs

section Degraded

variable {Hash : Type} [DecidableEq Hash]

/-- The columns of a media-buy row that the idempotency path reads. -/
structure BookedBuy (Hash : Type) where
  key : Option Scope
  payloadHash : Option Hash
  createdAt : DateTime
  confirmedAt : Option DateTime

/-- The index `idx_media_buys_idempotency_key`; keyless rows stay out of it. -/
abbrev BookedBuys (Hash : Type) :=
  IndexedTable (BookedBuy Hash) Scope BookedBuy.key

/-- Which kind of loss a request is told when the backstop fired. -/
def raiseDegradedReplayOutcome
    (buys : BookedBuys Hash)
    (attempts : Attempts Hash)
    (scope : Scope)
    (requestHash : Hash)
    (now : DateTime) : AdcpError :=
  match buys.find scope with
  | none => .configurationError scope.idempotencyKey
  | some existing =>
      let windowExpired := match attempts.findIncludingExpired scope with
        | some cached => decide (cached.expiresAt ≤ now)
        | none => decide (defaultReplayTtl < now - existing.createdAt)
      if windowExpired then
        .idempotencyExpired
      else
        match raiseOnPayloadConflict existing.payloadHash (some requestHash) with
        | .error err => err
        | .ok () => .serviceUnavailable 1

end Degraded

section CreateSteps

variable {Hash : Type} [DecidableEq Hash]

/-- How far an attempt past its probe has come. -/
inductive Phase
  /-- the implementation runs and has not called the ad server -/
  | probed
  /-- the ad server answered with an order -/
  | ordered
  /-- the media buy, or the approval task, is stored -/
  | recorded
  deriving DecidableEq, Repr

/-- An attempt past its probe. -/
structure CreateAttempt (cfg : Config Hash) where
  request : KeyedRequest cfg
  phase : Phase

/-- The stores a create touches, the running attempts and the ad server's orders. -/
structure CreateState (cfg : Config Hash) where
  attempts : Attempts Hash
  buys : BookedBuys Hash
  flight : Nat → Option (CreateAttempt cfg)
  orders : List Scope

/-- Nothing stored, nothing running, no order. -/
def CreateState.init
    (cfg : Config Hash) : CreateState cfg where
  attempts := IndexedTable.empty
  buys := IndexedTable.empty
  flight := fun _ => none
  orders := []

/-- What happens to the attempt with a number. -/
inductive CreateEvent (cfg : Config Hash)
  | answered (k : KeyedRequest cfg) (now : DateTime) (answer : Except AdcpError AdcpResponse)
  | started (i : Nat) (k : KeyedRequest cfg) (now : DateTime)
  | ordered (i : Nat)
  | booked (i : Nat) (now : DateTime)
  | submitted (i : Nat) (now : DateTime) (persists : Bool)
  | lostRace (i : Nat) (now : DateTime) (err : AdcpError)
  | ended (i : Nat) (err : Option AdcpError)
  | finished (i : Nat) (now : DateTime) (r : AdcpResponse) (evicts cached : Bool)

/-- The media-buy row an attempt inserts; a synchronous create is confirmed. -/
def bookedBuy
    (cfg : Config Hash)
    (k : KeyedRequest cfg)
    (now : DateTime)
    (committed : Bool) : BookedBuy Hash where
  key := some k.scope
  payloadHash := some (canonicalRequestHash cfg.engine k.req)
  createdAt := now
  confirmedAt := if committed then some now else none

namespace CreateState

variable {cfg : Config Hash}

/-- The attempt reaches a phase. -/
def advance
    (s : CreateState cfg)
    (i : Nat)
    (a : CreateAttempt cfg) : CreateState cfg :=
  { s with flight := Function.update s.flight i (some a) }

/-- The attempt is over. -/
def drop
    (s : CreateState cfg)
    (i : Nat) : CreateState cfg :=
  { s with flight := Function.update s.flight i none }

end CreateState

/-- One step of one attempt, any attempt's step between any others. -/
inductive CreateStep (cfg : Config Hash) :
    CreateState cfg → CreateEvent cfg → CreateState cfg → Prop
  | refused {s k now err} :
      probe cfg s.attempts k now = .error err →
      CreateStep cfg s (.answered k now (.error err)) s
  | replayed {s k now r} :
      probe cfg s.attempts k now = .ok (some r) →
      CreateStep cfg s (.answered k now (.ok r)) s
  | started {s i k now} :
      probe cfg s.attempts k now = .ok none →
      s.flight i = none →
      CreateStep cfg s (.started i k now) (s.advance i ⟨k, .probed⟩)
  /-- the adapter's `create_media_buy` returned -/
  | ordered {s i k} :
      s.flight i = some ⟨k, .probed⟩ →
      CreateStep cfg s (.ordered i)
        { s.advance i ⟨k, .ordered⟩ with orders := k.scope :: s.orders }
  /-- the synchronous INSERT was accepted -/
  | booked {s i k now buys} :
      s.flight i = some ⟨k, .ordered⟩ →
      s.buys.insert (bookedBuy cfg k now true) = some buys →
      CreateStep cfg s (.booked i now) { s.advance i ⟨k, .recorded⟩ with buys := buys }
  /-- the manual-approval INSERT was accepted; the ad server is not asked -/
  | submitted {s i k now buys} :
      s.flight i = some ⟨k, .probed⟩ →
      s.buys.insert (bookedBuy cfg k now false) = some buys →
      CreateStep cfg s (.submitted i now true) { s.advance i ⟨k, .recorded⟩ with buys := buys }
  /-- the configuration-approval branch stores no media buy -/
  | submittedUnstored {s i k now} :
      s.flight i = some ⟨k, .probed⟩ →
      CreateStep cfg s (.submitted i now false) (s.advance i ⟨k, .recorded⟩)
  /-- an INSERT hit the backstop, synchronous or for approval -/
  | lostRace {s i k phase now committed} :
      s.flight i = some ⟨k, phase⟩ →
      (phase = .ordered ∧ committed = true) ∨ (phase = .probed ∧ committed = false) →
      s.buys.insert (bookedBuy cfg k now committed) = none →
      CreateStep cfg s
        (.lostRace i now (raiseDegradedReplayOutcome s.buys s.attempts k.scope
          (canonicalRequestHash cfg.engine k.req) now))
        (s.drop i)
  /-- the attempt raised, or its process died -/
  | ended {s i a err} :
      s.flight i = some a →
      CreateStep cfg s (.ended i err) (s.drop i)
  /-- the boundary wrote the cache, or the write failed, and answered -/
  | finished {s i k now r evicts cached} :
      s.flight i = some ⟨k, .recorded⟩ →
      CreateStep cfg s (.finished i now r evicts cached)
        { s.drop i with
          attempts := if cached then recordAndEvict cfg s.attempts k now r evicts else s.attempts }

end CreateSteps

section AtMostOnce

variable {Hash : Type} {cfg : Config Hash}

theorem CreateState.flight_advance
    {s : CreateState cfg} {i j : Nat} {a b : CreateAttempt cfg} :
    (s.advance i a).flight j = some b ↔
      (j = i ∧ a = b) ∨ (j ≠ i ∧ s.flight j = some b) := by
  by_cases h : j = i
  · subst h
    simp [CreateState.advance]
  · simp [CreateState.advance, h]

theorem CreateState.flight_drop
    {s : CreateState cfg} {i j : Nat} {b : CreateAttempt cfg} :
    (s.drop i).flight j = some b ↔ j ≠ i ∧ s.flight j = some b := by
  by_cases h : j = i
  · subst h
    simp [CreateState.drop]
  · simp [CreateState.drop, h]

/-- An attempt for the scope is between its probe and its record. -/
def Running
    (flight : Nat → Option (CreateAttempt cfg))
    (scope : Scope) : Prop :=
  ∃ i a, flight i = some a ∧ a.phase ≠ .recorded ∧ a.request.scope = scope

/-- A media buy that carries the scope's key is confirmed. -/
def Confirmed
    (buys : BookedBuys Hash)
    (scope : Scope) : Prop :=
  ∃ row ∈ buys, row.key = some scope ∧ row.confirmedAt ≠ none

/-- No attempt starts beside another or past a booking, and none ends on its order. -/
def KeepsOneOrder
    (s : CreateState cfg) : CreateEvent cfg → Prop
  | .started _ k _ => ¬ Running s.flight k.scope ∧ ¬ Confirmed s.buys k.scope
  | .lostRace i _ _ => ∀ k, s.flight i ≠ some ⟨k, .ordered⟩
  | .ended i _ => ∀ k, s.flight i ≠ some ⟨k, .ordered⟩
  | _ => True

/-- The attempt that holds the scope's order. -/
def HoldsOrder
    (flight : Nat → Option (CreateAttempt cfg))
    (scope : Scope) : Prop :=
  ∃ i k, flight i = some ⟨k, .ordered⟩ ∧ k.scope = scope

/-- What guarded steps keep: a key's order is held by its one attempt or its row. -/
structure OneOrder (s : CreateState cfg) : Prop where
  one_running : ∀ i j a b, s.flight i = some a → s.flight j = some b →
    a.phase ≠ .recorded → b.phase ≠ .recorded →
    a.request.scope = b.request.scope → i = j
  one_order : ∀ scope, s.orders.count scope ≤ 1
  fresh : ∀ i k, s.flight i = some ⟨k, .probed⟩ → k.scope ∉ s.orders
  held : ∀ scope ∈ s.orders, Confirmed s.buys scope ∨ HoldsOrder s.flight scope

namespace OneOrder

theorem init :
    OneOrder (CreateState.init cfg) where
  one_running := by simp [CreateState.init]
  one_order := by simp [CreateState.init]
  fresh := by simp [CreateState.init]
  held := by simp [CreateState.init]

theorem no_order
    {s : CreateState cfg} {scope : Scope}
    (hs : OneOrder s)
    (hrunning : ¬ Running s.flight scope)
    (hconfirmed : ¬ Confirmed s.buys scope) :
    scope ∉ s.orders := by
  intro hmem
  rcases hs.held scope hmem with hbooked | ⟨i, k, hi, hk⟩
  · exact hconfirmed hbooked
  · exact hrunning ⟨i, _, hi, by simp, hk⟩

theorem started
    {s : CreateState cfg} {i : Nat} {k : KeyedRequest cfg}
    (hs : OneOrder s)
    (hi : s.flight i = none)
    (hrunning : ¬ Running s.flight k.scope)
    (hconfirmed : ¬ Confirmed s.buys k.scope) :
    OneOrder (s.advance i ⟨k, .probed⟩) where
  one_running := by
    intro j j' a b ha hb hpa hpb hscope
    rw [CreateState.flight_advance] at ha hb
    rcases ha with ⟨rfl, rfl⟩ | ⟨hj, ha⟩ <;> rcases hb with ⟨rfl, rfl⟩ | ⟨hj', hb⟩
    · rfl
    · exact absurd ⟨j', b, hb, hpb, hscope.symm⟩ hrunning
    · exact absurd ⟨j, a, ha, hpa, hscope⟩ hrunning
    · exact hs.one_running j j' a b ha hb hpa hpb hscope
  one_order := hs.one_order
  fresh := by
    intro j k' hj
    rcases CreateState.flight_advance.mp hj with ⟨-, heq⟩ | ⟨-, hold⟩
    · cases heq
      exact hs.no_order hrunning hconfirmed
    · exact hs.fresh j k' hold
  held := by
    intro scope hmem
    rcases hs.held scope hmem with hbooked | ⟨j, k', hj, hk'⟩
    · exact .inl hbooked
    · have hne : j ≠ i := by
        rintro rfl
        rw [hi] at hj
        cases hj
      exact .inr ⟨j, k', CreateState.flight_advance.mpr (.inr ⟨hne, hj⟩), hk'⟩

theorem one_running_advance
    {s : CreateState cfg} {i : Nat} {k : KeyedRequest cfg} {phase phase' : Phase}
    (hs : OneOrder s)
    (hi : s.flight i = some ⟨k, phase⟩)
    (hphase : phase' ≠ .recorded → phase ≠ .recorded) :
    ∀ j j' a b, (s.advance i ⟨k, phase'⟩).flight j = some a →
      (s.advance i ⟨k, phase'⟩).flight j' = some b →
      a.phase ≠ .recorded → b.phase ≠ .recorded →
      a.request.scope = b.request.scope → j = j' := by
  intro j j' a b ha hb hpa hpb hscope
  rw [CreateState.flight_advance] at ha hb
  rcases ha with ⟨rfl, rfl⟩ | ⟨hj, ha⟩ <;> rcases hb with ⟨rfl, rfl⟩ | ⟨hj', hb⟩
  · rfl
  · exact hs.one_running j j' _ b hi hb (hphase hpa) hpb hscope
  · exact hs.one_running j j' a _ ha hi hpa (hphase hpb) hscope
  · exact hs.one_running j j' a b ha hb hpa hpb hscope

theorem ordered
    {s : CreateState cfg} {i : Nat} {k : KeyedRequest cfg}
    (hs : OneOrder s)
    (hi : s.flight i = some ⟨k, .probed⟩) :
    OneOrder { s.advance i ⟨k, .ordered⟩ with orders := k.scope :: s.orders } where
  one_running := hs.one_running_advance hi (fun _ => by simp)
  one_order := by
    intro scope
    by_cases hscope : k.scope = scope
    · have hzero : s.orders.count scope = 0 :=
        List.count_eq_zero.mpr (hscope ▸ hs.fresh i k hi)
      simp [hscope, hzero]
    · simpa [List.count_cons, hscope] using hs.one_order scope
  fresh := by
    intro j k' hj
    rcases CreateState.flight_advance.mp hj with ⟨-, heq⟩ | ⟨hne, hold⟩
    · cases heq
    · have hscope : k'.scope ≠ k.scope := fun h =>
        hne (hs.one_running j i _ _ hold hi (by simp) (by simp) h)
      simpa [hscope] using hs.fresh j k' hold
  held := by
    intro scope hmem
    rcases List.mem_cons.mp hmem with rfl | hold
    · exact .inr ⟨i, k, CreateState.flight_advance.mpr (.inl ⟨rfl, rfl⟩), rfl⟩
    · rcases hs.held scope hold with hbooked | ⟨j, k', hj, hk'⟩
      · exact .inl hbooked
      · have hne : j ≠ i := by
          rintro rfl
          rw [hi] at hj
          cases hj
        exact .inr ⟨j, k', CreateState.flight_advance.mpr (.inr ⟨hne, hj⟩), hk'⟩

/-- Storing a row keeps the invariant, if an attempt that held an order confirms it. -/
theorem recorded
    {s : CreateState cfg} {i : Nat} {k : KeyedRequest cfg} {phase : Phase}
    {buys : BookedBuys Hash}
    (hs : OneOrder s)
    (hi : s.flight i = some ⟨k, phase⟩)
    (hkeep : ∀ scope, Confirmed s.buys scope → Confirmed buys scope)
    (hbooks : phase = .ordered → Confirmed buys k.scope) :
    OneOrder { s.advance i ⟨k, .recorded⟩ with buys := buys } where
  one_running := hs.one_running_advance hi (fun h => absurd rfl h)
  one_order := hs.one_order
  fresh := by
    intro j k' hj
    rcases CreateState.flight_advance.mp hj with ⟨-, heq⟩ | ⟨-, hold⟩
    · cases heq
    · exact hs.fresh j k' hold
  held := by
    intro scope hmem
    rcases hs.held scope hmem with hbooked | ⟨j, k', hj, hk'⟩
    · exact .inl (hkeep scope hbooked)
    · by_cases hne : j = i
      · subst hne
        rw [hi] at hj
        cases hj
        exact .inl (hk' ▸ hbooks rfl)
      · exact .inr ⟨j, k', CreateState.flight_advance.mpr (.inr ⟨hne, hj⟩), hk'⟩

/-- An attempt that does not hold an order leaves without losing one. -/
theorem dropped
    {s : CreateState cfg} {i : Nat}
    (hs : OneOrder s)
    (hi : ∀ k, s.flight i ≠ some ⟨k, .ordered⟩) :
    OneOrder (s.drop i) where
  one_running := by
    intro j j' a b ha hb
    exact hs.one_running j j' a b (CreateState.flight_drop.mp ha).2
      (CreateState.flight_drop.mp hb).2
  one_order := hs.one_order
  fresh := fun j k hj => hs.fresh j k (CreateState.flight_drop.mp hj).2
  held := by
    intro scope hmem
    rcases hs.held scope hmem with hbooked | ⟨j, k', hj, hk'⟩
    · exact .inl hbooked
    · have hne : j ≠ i := by
        rintro rfl
        exact hi k' hj
      exact .inr ⟨j, k', CreateState.flight_drop.mpr ⟨hne, hj⟩, hk'⟩

theorem with_attempts
    {s : CreateState cfg}
    (hs : OneOrder s)
    (attempts : Attempts Hash) :
    OneOrder { s with attempts := attempts } where
  one_running := hs.one_running
  one_order := hs.one_order
  fresh := hs.fresh
  held := hs.held

end OneOrder

theorem Confirmed.insert
    {buys buys' : BookedBuys Hash} {row : BookedBuy Hash} {scope : Scope}
    (hinsert : buys.insert row = some buys')
    (h : Confirmed buys scope) :
    Confirmed buys' scope := by
  obtain ⟨row', hmem, hkey, hat⟩ := h
  exact ⟨row', (IndexedTable.mem_insert hinsert row').mpr (.inr hmem), hkey, hat⟩

theorem Confirmed.booked
    {buys buys' : BookedBuys Hash} {k : KeyedRequest cfg} {now : DateTime}
    (hinsert : buys.insert (bookedBuy cfg k now true) = some buys') :
    Confirmed buys' k.scope :=
  ⟨_, (IndexedTable.mem_insert hinsert _).mpr (.inl rfl), rfl, by simp [bookedBuy]⟩

variable [DecidableEq Hash]

/-- The guarded steps keep the invariant. -/
theorem OneOrder.preserved :
    Preserved (Restrict (CreateStep cfg) KeepsOneOrder)
      (fun s : CreateState cfg => OneOrder s) := by
  rintro s e t ⟨hstep, hguard⟩ hs
  cases hstep with
  | refused _ => exact hs
  | replayed _ => exact hs
  | started _ hi => exact hs.started hi hguard.1 hguard.2
  | ordered hi => exact hs.ordered hi
  | booked hi hinsert =>
      exact hs.recorded hi (fun _ => Confirmed.insert hinsert)
        (fun _ => Confirmed.booked hinsert)
  | submitted hi hinsert =>
      exact hs.recorded hi (fun _ => Confirmed.insert hinsert) (fun h => by cases h)
  | submittedUnstored hi =>
      exact hs.recorded hi (fun _ h => h) (fun h => by cases h)
  | lostRace _ _ _ => exact hs.dropped hguard
  | ended _ => exact hs.dropped hguard
  | finished hi =>
      refine OneOrder.with_attempts (hs.dropped ?_) _
      intro k hk
      rw [hi] at hk
      cases hk

/-- Along every run of guarded steps, a key has at most one ad-server order. -/
theorem at_most_one_order
    {es : List (CreateEvent cfg)} {s : CreateState cfg}
    (hrun : Run (Restrict (CreateStep cfg) KeepsOneOrder) (CreateState.init cfg) es s)
    (scope : Scope) :
    s.orders.count scope ≤ 1 :=
  (hrun.preserves OneOrder.preserved OneOrder.init).one_order scope

end AtMostOnce

section Concurrent

/-- The same request with the same key, of another principal. -/
def otherKeyed : KeyedRequest sampleConfig where
  req := sampleCreate "acme"
  identity := ⟨"tenant", some "other", some "acc"⟩
  scope := ⟨"tenant", "other", some "acc", "key-0123456789abcdef"⟩
  keyed := by
    simp [keyedScope, sampleCreate, PublicIdentity.replayScope]

/-- Attempts of two principals overlap; the one that books its order and caches its success has
one order. -/
theorem one_attempt_one_order :
    ∃ s, Run (Restrict (CreateStep sampleConfig) KeepsOneOrder)
        (CreateState.init sampleConfig)
        [.started 0 (sampleKeyed "acme") 0, .started 1 otherKeyed 0, .ordered 1, .ordered 0,
          .booked 0 1, .finished 0 2 (sampleResponse "acme") false true] s ∧
      s.orders.count (sampleKeyed "acme").scope ≤ 1 := by
  have hfresh : ∀ scope, ¬ Running (CreateState.init sampleConfig).flight scope := by
    rintro scope ⟨i, a, hi, -, -⟩
    cases hi
  have hother : ¬ Running ((CreateState.init sampleConfig).advance 0
      ⟨sampleKeyed "acme", .probed⟩).flight otherKeyed.scope := by
    rintro ⟨i, a, hi, -, hscope⟩
    rw [CreateState.flight_advance] at hi
    rcases hi with ⟨-, rfl⟩ | ⟨-, hi⟩
    · exact absurd hscope (by decide)
    · cases hi
  have hunbooked : ∀ scope, ¬ Confirmed (CreateState.init sampleConfig).buys scope := by
    rintro scope ⟨row, hmem, -, -⟩
    exact IndexedTable.not_mem_empty row hmem
  have hrun : Run (Restrict (CreateStep sampleConfig) KeepsOneOrder)
      (CreateState.init sampleConfig)
      [.started 0 (sampleKeyed "acme") 0, .started 1 otherKeyed 0, .ordered 1, .ordered 0,
        .booked 0 1, .finished 0 2 (sampleResponse "acme") false true] _ :=
    .cons ⟨.started rfl rfl, hfresh _, hunbooked _⟩
      (.cons ⟨.started rfl rfl, hother, hunbooked _⟩
        (.cons ⟨.ordered rfl, trivial⟩ (.cons ⟨.ordered rfl, trivial⟩
          (.cons ⟨.booked rfl rfl, trivial⟩ (.single ⟨.finished rfl, trivial⟩)))))
  exact ⟨_, hrun, at_most_one_order hrun _⟩

theorem two_attempts_run :
    ∃ s, Run (CreateStep sampleConfig) (CreateState.init sampleConfig)
        [.started 0 (sampleKeyed "acme") 0, .started 1 (sampleKeyed "acme") 0,
          .ordered 0, .ordered 1] s ∧
      s.orders.count (sampleKeyed "acme").scope = 2 := by
  refine ⟨_, .cons (.started rfl rfl) (.cons (.started rfl rfl)
    (.cons (.ordered rfl) (.single (.ordered rfl)))), ?_⟩
  simp [CreateState.advance, CreateState.init]

/-- Concurrent attempts of one create reach two orders for its key. -/
theorem two_orders :
    ¬ ∀ (es : List (CreateEvent sampleConfig)) (s : CreateState sampleConfig),
      Run (CreateStep sampleConfig) (CreateState.init sampleConfig) es s →
      s.orders.count (sampleKeyed "acme").scope ≤ 1 := by
  intro h
  obtain ⟨s, hrun, hcount⟩ := two_attempts_run
  have hone := h _ s hrun
  omega

end Concurrent

end Boundary
end SalesAgent
