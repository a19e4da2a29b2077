import SalesAgent.Lib.SharedCache

/-!
# The property lists that buyers refer to

A buyer refers to a list of properties by the URL of an agent and an identifier, and may add a
token for that agent.  The list is fetched with the token and kept as long as the agent said, or
for five minutes; what is kept is looked up without the token.

**Results.**
* `resolver_uses_cache`: the resolver uses its dictionary as a shared cache.
* `resolvePropertyList_answered`: in every interleaving, a list that is not fetched anew is the
  last one that the agent of the reference answered, before it ran out; and it was fetched with
  the token of some reference to it, whichever token this one has.
-/

namespace SalesAgent
namespace Discovery
namespace PropertyLists

open Runs
open SharedCache (Uses Usage)

/-- `PropertyListReference` -/
structure Reference where
  agentUrl : String
  listId : String
  authToken : Option String
  deriving DecidableEq, Repr

/-- The fields of `GetPropertyListResponse` that are read. -/
structure Answer where
  identifiers : Option (List String)
  cacheValidUntil : Option Int
  deriving DecidableEq, Repr

/-- The request to the agent of a list. -/
structure Dial where
  url : String
  /-- the `Authorization` header -/
  authorization : Option String
  deriving DecidableEq, Repr

/-- What a call comes to before it waits for the agent. -/
inductive Resolved
  | identifiers (values : List String)
  | dialled (dial : Dial)
  deriving DecidableEq, Repr

/-- An entry of the cache: the identifiers, and when they run out. -/
structure Entry where
  identifiers : List String
  expiresAt : Int
  deriving DecidableEq, Repr

/-- The key of a reference. -/
def cacheKey
    (ref : Reference) : String × String :=
  (ref.agentUrl, ref.listId)

/-- `str.rstrip("/")` -/
def withoutTrailingSlashes
    (url : String) : String :=
  String.ofList (url.toList.reverse.dropWhile (· = '/')).reverse

/-- The request for a list, which carries the token of the reference. -/
def dialOf
    (ref : Reference) : Dial where
  url := withoutTrailingSlashes ref.agentUrl ++ "/lists/" ++ ref.listId
  authorization :=
    (ref.authToken.filter (fun token => token ≠ "")).map (fun token => "Bearer " ++ token)

/-- `resolve_property_list`, up to where it waits for the agent. -/
def resolvePropertyList
    (cache : String × String → Option Entry)
    (ref : Reference)
    (now : Int) : Resolved :=
  match cache (cacheKey ref) with
  | none => .dialled (dialOf ref)
  | some entry =>
      if now < entry.expiresAt then .identifiers entry.identifiers else .dialled (dialOf ref)

/-- The cache after the lookup: an entry that ran out is deleted. -/
def cacheAfter
    (cache : String × String → Option Entry)
    (ref : Reference)
    (now : Int) : String × String → Option Entry :=
  match cache (cacheKey ref) with
  | none => cache
  | some entry =>
      if now < entry.expiresAt then cache else Function.update cache (cacheKey ref) none

/-- `_DEFAULT_CACHE_TTL_SECONDS` -/
def defaultCacheTtlSeconds : Int :=
  300

/-- The entry that an answer is kept as. -/
def entryOf
    (answer : Answer)
    (now : Int) : Entry where
  identifiers := answer.identifiers.getD []
  expiresAt := answer.cacheValidUntil.getD (now + defaultCacheTtlSeconds)

/-- The cache, and the calls that wait for an agent. -/
abbrev Resolver :=
  SharedCache.State (String × String) Reference Entry

inductive Event
  /-- a call starts -/
  | call (ticket : Nat) (ref : Reference) (now : Int)
  /-- the agent's answer arrives, or the fetch fails -/
  | fetched (ticket : Nat) (answer : Option Answer) (now : Int)

/-- What an event does to the resolver. -/
def step
    (resolver : Resolver) : Event → Resolver
  | .call ticket ref now =>
      match resolvePropertyList resolver.entries ref now with
      | .identifiers _ => { resolver with entries := cacheAfter resolver.entries ref now }
      | .dialled _ =>
          { entries := cacheAfter resolver.entries ref now
            waiting := Function.update resolver.waiting ticket (some ref) }
  | .fetched ticket answer now =>
      match resolver.waiting ticket with
      | none => resolver
      | some ref =>
          { entries :=
              match answer with
              | none => resolver.entries
              | some answer =>
                  Function.update resolver.entries (cacheKey ref) (some (entryOf answer now))
            waiting := Function.update resolver.waiting ticket none }

/-- The steps of the resolver. -/
def Step
    (resolver : Resolver)
    (event : Event)
    (resolver' : Resolver) : Prop :=
  step resolver event = resolver'

/-- How calls use the cache. -/
def usage : Usage (String × String) Reference Entry where
  key := cacheKey
  reads := fun _ => true
  stores := fun _ => true
  usable := fun now entry => now < entry.expiresAt
  removes := true

/-- What an event is to the cache. -/
def act : Event → SharedCache.Event Reference Entry
  | .call ticket ref now => .ask ticket ref now
  | .fetched ticket answer now => .answer ticket (answer.map fun answer => entryOf answer now)

theorem find_usage
    (resolver : Resolver)
    (ref : Reference)
    (now : Int) :
    resolver.find usage ref now =
      (resolver.entries (cacheKey ref)).filter (fun entry => now < entry.expiresAt) := by
  rfl

/-- A call is answered from the cache where it finds an entry that has not run out, and dials
otherwise, having deleted the entry. -/
theorem resolvePropertyList_eq
    (resolver : Resolver)
    (ref : Reference)
    (now : Int) :
    (∀ entry, resolver.find usage ref now = some entry →
        resolvePropertyList resolver.entries ref now = .identifiers entry.identifiers ∧
          cacheAfter resolver.entries ref now = resolver.entries) ∧
      (resolver.find usage ref now = none →
        resolvePropertyList resolver.entries ref now = .dialled (dialOf ref) ∧
          cacheAfter resolver.entries ref now =
            Function.update resolver.entries (cacheKey ref) none) := by
  rw [find_usage]
  unfold resolvePropertyList cacheAfter
  cases hentry : resolver.entries (cacheKey ref) with
  | none =>
      have hsame : Function.update resolver.entries (cacheKey ref) none = resolver.entries := by
        rw [← hentry, Function.update_eq_self]
      exact ⟨fun _ h => (nomatch h), fun _ => ⟨rfl, hsame.symm⟩⟩
  | some entry =>
      by_cases hfresh : now < entry.expiresAt
      · simp [hfresh]
      · simp [hfresh, Int.not_lt.mp hfresh]

/-- The resolver uses its dictionary as a shared cache. -/
theorem resolver_uses_cache :
    Uses usage Step id act := by
  rintro resolver event _ rfl
  cases event with
  | fetched ticket answer now =>
      simp only [act, SharedCache.step, id, step]
      cases resolver.waiting ticket with
      | none => rfl
      | some ref =>
          cases answer with
          | none => rfl
          | some answer => rfl
  | call ticket ref now =>
      obtain ⟨hhit, hmiss⟩ := resolvePropertyList_eq resolver ref now
      simp only [act, SharedCache.step, id, step]
      cases hfind : resolver.find usage ref now with
      | some entry =>
          obtain ⟨hresolved, hafter⟩ := hhit entry hfind
          rw [hresolved, hafter]
          rfl
      | none =>
          obtain ⟨hresolved, hafter⟩ := hmiss hfind
          rw [hresolved, hafter]
          rfl

theorem identifiers_of_token
    {cache : String × String → Option Entry}
    {ref : Reference}
    {now : Int}
    {values : List String}
    (h : resolvePropertyList cache ref now = .identifiers values)
    (token : Option String) :
    resolvePropertyList cache { ref with authToken := token } now = .identifiers values := by
  have hkey : cacheKey { ref with authToken := token } = cacheKey ref := rfl
  unfold resolvePropertyList at h ⊢
  rw [hkey]
  cases hentry : cache (cacheKey ref) with
  | none =>
      rw [hentry] at h
      cases h
  | some entry =>
      rw [hentry] at h
      dsimp only at h ⊢
      split at h
      · rename_i hfresh
        rw [if_pos hfresh]
        exact h
      · cases h

/-- The event brings an answer for the list of a reference. -/
def Brings
    (resolver : Resolver)
    (ref : Reference)
    (answer : Answer)
    (fetchedAt : Int) : Event → Prop
  | .call _ _ _ => False
  | .fetched ticket brought now =>
      brought = some answer ∧ now = fetchedAt ∧
        ∃ asked, resolver.waiting ticket = some asked ∧ cacheKey asked = cacheKey ref

/-- The list is what the last fetch of it brought, and has not run out by the agent's own time,
or by five minutes where the agent named none.  The fetch was dialled for some reference to the
list, with the token of that reference. -/
def FromLastAnswer
    (events : List Event)
    (resolver : Resolver)
    (ref : Reference)
    (now : Int)
    (values : List String) : Prop :=
  ∃ answer fetchedAt ticket asked earlier later before after,
    events = earlier ++ .fetched ticket (some answer) fetchedAt :: later ∧
    Run Step SharedCache.State.empty earlier before ∧
    before.waiting ticket = some asked ∧ cacheKey asked = cacheKey ref ∧
    CameAbout Step SharedCache.State.empty (fun s e => ∃ askedAt,
      e = .call ticket asked askedAt ∧
        resolvePropertyList s.entries asked askedAt = .dialled (dialOf asked)) earlier ∧
    Step before (.fetched ticket (some answer) fetchedAt) after ∧
    Run (Restrict Step fun s e => ∀ other time, Brings s ref other time e →
      entryOf other time = entryOf answer fetchedAt) after later resolver ∧
    values = answer.identifiers.getD [] ∧
    now < answer.cacheValidUntil.getD (fetchedAt + 300)

/-- A list that a call is answered with at once, in any interleaving of the fetches, is what the
last fetch of it brought; the token of the reference makes no difference. -/
theorem resolvePropertyList_answered
    {resolver : Resolver}
    {events : List Event}
    (hrun : Run Step SharedCache.State.empty events resolver)
    {ref : Reference}
    {now : Int}
    {values : List String}
    (h : resolvePropertyList resolver.entries ref now = .identifiers values) :
    (∀ token, resolvePropertyList resolver.entries { ref with authToken := token } now =
        .identifiers values) ∧
      FromLastAnswer events resolver ref now values := by
  refine ⟨fun token => identifiers_of_token h token, ?_⟩
  cases hfind : resolver.find usage ref now with
  | none =>
      rw [((resolvePropertyList_eq resolver ref now).2 hfind).1] at h
      cases h
  | some entry =>
      rw [((resolvePropertyList_eq resolver ref now).1 entry hfind).1] at h
      cases h
      obtain ⟨-, hentry, hfresh⟩ := SharedCache.State.find_eq_some_iff.mp hfind
      obtain ⟨earlier, event, later, before, after, heq, hbefore, hstores, hstep, hsince⟩ :=
        resolver_uses_cache.stored rfl hrun hentry
      cases event with
      | call ticket asked askedAt => exact hstores.elim
      | fetched ticket brought fetchedAt =>
          obtain ⟨hbrought, asked, hasked, -, hkey⟩ := hstores
          cases brought with
          | none => cases hbrought
          | some answer =>
              cases hbrought
              obtain ⟨earlier', event, later', s, heq', hrun', askedAt, hact, hmissed⟩ :=
                resolver_uses_cache.waiting rfl hbefore hasked
              refine ⟨answer, fetchedAt, ticket, asked, earlier, later, before, after, heq, hbefore,
                hasked, hkey, ⟨earlier', event, later', s, heq', hrun', ?_⟩, hstep, ?_, rfl, ?_⟩
              · cases event with
                | fetched ticket' brought now' => cases hact
                | call ticket' asked' now' =>
                    cases hact
                    exact ⟨askedAt, rfl, ((resolvePropertyList_eq s asked askedAt).2 hmissed).1⟩
              · refine hsince.mono ?_
                rintro s e t ⟨hse, honly⟩
                refine ⟨hse, fun other time hbrings => ?_⟩
                cases e with
                | call ticket' asked' now' => exact hbrings.elim
                | fetched ticket' brought now' =>
                    obtain ⟨rfl, rfl, asked', hasked', hkey'⟩ := hbrings
                    exact honly (entryOf other now') ⟨rfl, asked', hasked', rfl, hkey'⟩
              · simpa [usage, entryOf, defaultCacheTtlSeconds] using hfresh

/-- A list that its agent keeps for those with a token. -/
def privateList : Reference where
  agentUrl := "https://lists.example/"
  listId := "l1"
  authToken := some "secret"

/-- The list is fetched with the token. -/
def fetchedWithToken : List Event :=
  [.call 0 privateList 0, .fetched 0 (some ⟨some ["p1"], none⟩) 10]

theorem resolvePropertyList_answered_sample :
    (∀ token, resolvePropertyList (fetchedWithToken.foldl step SharedCache.State.empty).entries
        { privateList with authToken := token } 20 = .identifiers ["p1"]) ∧
      FromLastAnswer fetchedWithToken (fetchedWithToken.foldl step SharedCache.State.empty)
        privateList 20 ["p1"] :=
  @resolvePropertyList_answered (fetchedWithToken.foldl step SharedCache.State.empty)
    fetchedWithToken (.cons rfl (.cons rfl (.nil _))) privateList 20 ["p1"] (by decide)

end PropertyLists
end Discovery
end SalesAgent
