import Mathlib.Data.List.Basic
import Mathlib.Order.Basic
import Mathlib.Tactic.Common

/-!
# Fetches that are cached

Values are fetched under keys, and a fetch may fail.  A value is fetched again when its age is
over a bound, and a fetch that failed is not repeated before a cooldown is over; in the meantime
the value that was fetched last is used, whatever its age.  A log of the fetches, the newest
first, determines what is remembered.

**Results.**
* `Spaced.consult`: fetches of one key keep their distances.
* `remembered_cases`: the value in use comes from the last fetch that succeeded, and is older than
  the bound only where it was fetched just now or a later fetch failed.
* `lastFailure_of_remembered_none`: without a value, the last fetch failed.
-/

namespace SalesAgent
namespace CachedFetch

universe u v w

variable {κ : Type u} {ν : Type v} {ε : Type w}

/-- A fetch: for which key, when, and with what answer. -/
structure Fetch (κ : Type u) (ν : Type v) (ε : Type w) where
  key : κ
  time : Int
  answer : Except ε ν

/-- How long a value is used, and how long a failure is remembered. -/
structure Schedule (ν : Type v) where
  ttl : Int
  cooldown : Int
  fetchedAt : ν → Int

section Log

variable [DecidableEq κ]

/-- The value of a fetch of the key that succeeded. -/
def Fetch.valueOf
    (key : κ)
    (fetch : Fetch κ ν ε) : Option ν :=
  if fetch.key = key then fetch.answer.toOption else none

/-- The failure of a fetch. -/
def Fetch.failure
    (fetch : Fetch κ ν ε) : Option (Int × ε) :=
  match fetch.answer with
  | .error e => some (fetch.time, e)
  | .ok _ => none

/-- The value that was fetched last. -/
def remembered
    (log : List (Fetch κ ν ε))
    (key : κ) : Option ν :=
  log.findSome? (Fetch.valueOf key)

/-- The failure of the last fetch, where it failed. -/
def lastFailure
    (log : List (Fetch κ ν ε))
    (key : κ) : Option (Int × ε) :=
  (log.find? fun fetch => decide (fetch.key = key)).bind Fetch.failure

variable (s : Schedule ν) (log : List (Fetch κ ν ε)) (now : Int) (key : κ)

/-- The value is young enough to be used. -/
def fresh : Bool :=
  (remembered log key).any fun value => decide (now - s.fetchedAt value ≤ s.ttl)

/-- The last fetch failed a moment ago. -/
def coolingDown : Bool :=
  (lastFailure log key).any fun failure => decide (now - failure.1 < s.cooldown)

/-- The log after the key was asked for. -/
def consult
    (answer : Except ε ν) : List (Fetch κ ν ε) :=
  if fresh s log now key || coolingDown s log now key then log
  else ⟨key, now, answer⟩ :: log

/-- A fetch keeps its distance from an earlier one of its key. -/
def Apart
    (later earlier : Fetch κ ν ε) : Prop :=
  later.key = earlier.key →
    match earlier.answer with
    | .error _ => earlier.time + s.cooldown ≤ later.time
    | .ok value => s.fetchedAt value + s.ttl < later.time

/-- All fetches of a log keep their distances, and their times do not decrease. -/
structure Spaced : Prop where
  apart : log.Pairwise (Apart s)
  times : log.Pairwise fun later earlier => earlier.time ≤ later.time

end Log

section Laws

variable [DecidableEq κ]
variable {s : Schedule ν} {log : List (Fetch κ ν ε)} {now : Int} {key : κ}

omit [DecidableEq κ] in
theorem Spaced.nil :
    Spaced s ([] : List (Fetch κ ν ε)) where
  apart := .nil
  times := .nil

@[simp] theorem remembered_cons
    (fetch : Fetch κ ν ε) :
    remembered (fetch :: log) key = (fetch.valueOf key).or (remembered log key) := by
  rw [remembered, List.findSome?_cons]
  cases fetch.valueOf key with
  | none => rfl
  | some value => rfl

theorem lastFailure_cons_self
    (fetch : Fetch κ ν ε) :
    lastFailure (fetch :: log) fetch.key = fetch.failure := by
  rw [lastFailure, List.find?_cons_of_pos (by simp)]
  rfl

theorem lastFailure_cons_of_ne
    {fetch : Fetch κ ν ε}
    (h : fetch.key ≠ key) :
    lastFailure (fetch :: log) key = lastFailure log key := by
  rw [lastFailure, List.find?_cons_of_neg (by simpa using h), lastFailure]

theorem valueOf_eq_some
    {fetch : Fetch κ ν ε} {value : ν}
    (h : fetch.valueOf key = some value) :
    fetch.key = key ∧ fetch.answer = .ok value := by
  rw [Fetch.valueOf] at h
  by_cases hkey : fetch.key = key
  · rw [if_pos hkey] at h
    refine ⟨hkey, ?_⟩
    cases hanswer : fetch.answer with
    | error e =>
        rw [hanswer] at h
        cases h
    | ok found =>
        rw [hanswer] at h
        cases h
        rfl
  · rw [if_neg hkey] at h
    cases h

theorem failed_of_valueOf_none
    {fetch : Fetch κ ν ε}
    (h : fetch.valueOf key = none)
    (hkey : fetch.key = key) :
    ∃ e, fetch.answer = .error e := by
  rw [Fetch.valueOf, if_pos hkey] at h
  cases hanswer : fetch.answer with
  | error e => exact ⟨e, rfl⟩
  | ok found =>
      rw [hanswer] at h
      cases h

theorem remembered_eq_some
    {value : ν}
    (h : remembered log key = some value) :
    ∃ newer fetch older, log = newer ++ fetch :: older ∧ fetch.key = key
      ∧ fetch.answer = .ok value
      ∧ ∀ later ∈ newer, later.key = key → ∃ e, later.answer = .error e := by
  obtain ⟨newer, fetch, older, hlog, hvalue, hnewer⟩ := List.findSome?_eq_some_iff.mp h
  obtain ⟨hkey, hanswer⟩ := valueOf_eq_some hvalue
  exact ⟨newer, fetch, older, hlog, hkey, hanswer,
    fun later hlater hsame => failed_of_valueOf_none (hnewer later hlater) hsame⟩

theorem lastFailure_eq_some
    {failure : Int × ε}
    (h : lastFailure log key = some failure) :
    ∃ newer fetch older, log = newer ++ fetch :: older ∧ fetch.key = key
      ∧ fetch.time = failure.1 ∧ fetch.answer = .error failure.2
      ∧ ∀ later ∈ newer, later.key ≠ key := by
  obtain ⟨fetch, hfind, hfailure⟩ := Option.bind_eq_some_iff.mp h
  obtain ⟨hkey, newer, older, hlog, hnewer⟩ := List.find?_eq_some_iff_append.mp hfind
  rw [Fetch.failure] at hfailure
  cases hanswer : fetch.answer with
  | ok value =>
      rw [hanswer] at hfailure
      cases hfailure
  | error e =>
      rw [hanswer] at hfailure
      cases hfailure
      exact ⟨newer, fetch, older, hlog, of_decide_eq_true hkey, rfl, hanswer,
        fun later hlater => by simpa using hnewer later hlater⟩

theorem apart_of_due
    {answer : Except ε ν}
    (hspaced : Spaced s log)
    (htimes : ∀ fetch ∈ log, fetch.time ≤ now)
    (hfresh : fresh s log now key = false)
    (hcooling : coolingDown s log now key = false) :
    ∀ earlier ∈ log, Apart s ⟨key, now, answer⟩ earlier := by
  intro earlier hearlier hkey
  -- the last fetch of the key, and the last that succeeded, bound all others
  cases hanswer : earlier.answer with
  | ok value =>
      have hsome : ∃ found, remembered log key = some found := by
        rw [← Option.isSome_iff_exists, remembered, List.findSome?_isSome_iff]
        refine ⟨earlier, hearlier, ?_⟩
        rw [Fetch.valueOf, if_pos hkey.symm, hanswer]
        rfl
      obtain ⟨found, hfound⟩ := hsome
      obtain ⟨newer, fetch, older, hlog, hfetch, hok, hnewer⟩ := remembered_eq_some hfound
      rw [fresh, hfound] at hfresh
      have hold : s.fetchedAt found + s.ttl < now := by
        have hage : ¬ now - s.fetchedAt found ≤ s.ttl := of_decide_eq_false hfresh
        omega
      rw [hlog] at hearlier
      rcases List.mem_append.mp hearlier with hin | hin
      · obtain ⟨e, he⟩ := hnewer earlier hin hkey.symm
        rw [he] at hanswer
        cases hanswer
      · rcases List.mem_cons.mp hin with heq | hin
        · subst heq
          rw [hok] at hanswer
          cases hanswer
          exact hold
        · have hapart := hspaced.apart
          rw [hlog] at hapart
          have hpair := List.rel_of_pairwise_cons (List.pairwise_append.mp hapart).2.1 hin
            (hfetch.trans hkey)
          rw [hanswer] at hpair
          have htime := htimes fetch (hlog ▸ List.mem_append_right _ List.mem_cons_self)
          exact Int.lt_of_lt_of_le hpair htime
  | error e =>
      change earlier.time + s.cooldown ≤ now
      have hsome : ∃ last, (log.find? fun fetch => decide (fetch.key = key)) = some last := by
        rw [← Option.isSome_iff_exists, List.find?_isSome]
        exact ⟨earlier, hearlier, decide_eq_true hkey.symm⟩
      obtain ⟨last, hlast⟩ := hsome
      obtain ⟨hlastKey, newer, older, hlog, hnewer⟩ := List.find?_eq_some_iff_append.mp hlast
      have hlastTime := htimes last (hlog ▸ List.mem_append_right _ List.mem_cons_self)
      rw [hlog] at hearlier
      rcases List.mem_append.mp hearlier with hin | hin
      · exact absurd hkey.symm (by simpa using hnewer earlier hin)
      · rcases List.mem_cons.mp hin with heq | hin
        · subst heq
          rw [coolingDown, lastFailure, hlast, Option.bind_some, Fetch.failure, hanswer] at hcooling
          have hlate : ¬ now - earlier.time < s.cooldown := of_decide_eq_false hcooling
          omega
        · have hapart := hspaced.apart
          rw [hlog] at hapart
          have hpair := List.rel_of_pairwise_cons (List.pairwise_append.mp hapart).2.1 hin
            ((of_decide_eq_true hlastKey).trans hkey)
          rw [hanswer] at hpair
          exact Int.le_trans hpair hlastTime

/-- Fetches of one key keep their distances. -/
theorem Spaced.consult
    {answer : Except ε ν}
    (hspaced : Spaced s log)
    (htimes : ∀ fetch ∈ log, fetch.time ≤ now) :
    Spaced s (consult s log now key answer) := by
  rw [CachedFetch.consult]
  by_cases hdue : (fresh s log now key || coolingDown s log now key) = true
  · rw [if_pos hdue]
    exact hspaced
  · rw [if_neg hdue]
    rw [Bool.not_eq_true, Bool.or_eq_false_iff] at hdue
    exact ⟨.cons (apart_of_due hspaced htimes hdue.1 hdue.2) hspaced.apart,
      .cons htimes hspaced.times⟩

/-- The value in use after the key was asked for comes from the last fetch that succeeded; it is
older than the bound only where it was fetched just now or a later fetch failed. -/
theorem remembered_cases
    {answer : Except ε ν} {value : ν}
    (h : remembered (consult s log now key answer) key = some value) :
    ∃ newer fetch older, consult s log now key answer = newer ++ fetch :: older
      ∧ fetch.key = key ∧ fetch.answer = .ok value
      ∧ (∀ later ∈ newer, later.key = key → ∃ e, later.answer = .error e)
      ∧ (s.fetchedAt value + s.ttl < now →
        newer = [] ∧ fetch.time = now ∨ ∃ later ∈ newer, later.key = key) := by
  obtain ⟨newer, fetch, older, hlog, hkey, hok, hnewer⟩ := remembered_eq_some h
  refine ⟨newer, fetch, older, hlog, hkey, hok, hnewer, ?_⟩
  intro hold
  by_contra hno
  rw [not_or, not_and] at hno
  obtain ⟨hjust, hnone⟩ := hno
  rw [consult] at hlog h
  by_cases hdue : (fresh s log now key || coolingDown s log now key) = true
  · rw [if_pos hdue] at hlog h
    rw [Bool.or_eq_true] at hdue
    rcases hdue with hfresh | hcooling
    · rw [fresh, h] at hfresh
      have hage : now - s.fetchedAt value ≤ s.ttl := of_decide_eq_true hfresh
      omega
    · obtain ⟨failure, hfailure⟩ : ∃ failure, lastFailure log key = some failure := by
        cases hfailure : lastFailure log key with
        | none =>
            rw [coolingDown, hfailure] at hcooling
            cases hcooling
        | some failure => exact ⟨failure, rfl⟩
      obtain ⟨newer', last, older', hlog', hlast, -, hfailed, hnewer'⟩ :=
        lastFailure_eq_some hfailure
      -- the last fetch failed, so it is after the one in use
      rw [hlog] at hlog'
      rcases List.append_eq_append_iff.mp hlog' with ⟨between, hnew, hrest⟩ | ⟨between, hnew, hrest⟩
      · cases between with
        | nil =>
            obtain ⟨rfl, -⟩ := List.cons.inj hrest
            rw [hok] at hfailed
            cases hfailed
        | cons first rest =>
            obtain ⟨rfl, -⟩ := List.cons.inj hrest
            refine hnewer' _ ?_ hkey
            rw [hnew]
            exact List.mem_append_right _ List.mem_cons_self
      · cases between with
        | nil =>
            obtain ⟨rfl, -⟩ := List.cons.inj hrest
            rw [hok] at hfailed
            cases hfailed
        | cons first rest =>
            obtain ⟨rfl, -⟩ := List.cons.inj hrest
            refine hnone ⟨_, ?_, hlast⟩
            rw [hnew]
            exact List.mem_append_right _ List.mem_cons_self
  · rw [if_neg hdue] at hlog h
    cases newer with
    | nil =>
        obtain ⟨rfl, -⟩ := List.cons.inj hlog
        exact hjust rfl rfl
    | cons first rest =>
        obtain ⟨rfl, -⟩ := List.cons.inj hlog
        exact hnone ⟨_, List.mem_cons_self, rfl⟩

/-- Where there is no value after the key was asked for, its last fetch failed. -/
theorem lastFailure_of_remembered_none
    {answer : Except ε ν}
    (h : remembered (consult s log now key answer) key = none) :
    ∃ failure, lastFailure (consult s log now key answer) key = some failure := by
  rw [consult] at h ⊢
  by_cases hdue : (fresh s log now key || coolingDown s log now key) = true
  · rw [if_pos hdue] at h ⊢
    rw [fresh, h, Option.any_none, Bool.false_or, coolingDown] at hdue
    cases hfailure : lastFailure log key with
    | none =>
        rw [hfailure] at hdue
        cases hdue
    | some failure => exact ⟨failure, rfl⟩
  · rw [if_neg hdue] at h ⊢
    rw [remembered_cons, Option.or_eq_none_iff] at h
    obtain ⟨e, he⟩ := failed_of_valueOf_none h.1 rfl
    change answer = .error e at he
    rw [lastFailure_cons_self ⟨key, now, answer⟩, Fetch.failure, he]
    exact ⟨_, rfl⟩

end Laws

end CachedFetch
end SalesAgent
