import SalesAgent.Webhooks.DeliveryQueue

/-!
# What becomes of a queued webhook

A webhook that was put in a queue is in the queue, or held by the call that took it off, or
delivered.  A queue holds as many webhooks as calls wait on it, so no call finds it empty
and none is left when all calls have returned.

A call that takes off out of turn holds the webhook of another call, and concludes about it
as about its own.

**Results.**
* `nothing_lost`: every webhook is delivered exactly once, in every run without an
  exception out of a delivery.
* `attributed_in_turn`: where calls take off in the order in which they put in, each
  concludes about its own webhook.
* `swapped_conclusions`: two calls that conclude about each other's.
-/

namespace SalesAgent
namespace Webhooks

open Runs (Run Restrict Preserved)

variable {Figures : Type}

section Views

/-- The queue a call of this phase waits on, and what it put in. -/
def Phase.awaits : Phase Figures → Option (Nat × Entry Figures)
  | .waiting _ _ queue own => some (queue, own)
  | _ => none

/-- What a call of this phase took off and has not delivered. -/
def Phase.held : Phase Figures → Option (Entry Figures)
  | .holding _ _ _ taken => some taken
  | _ => none

/-- The queue a call waits on, and what it put in. -/
def DeliveryCall.awaits
    (call : DeliveryCall Figures) : Option (Nat × Entry Figures) :=
  call.phase.awaits

/-- What a call took off and has not delivered. -/
def DeliveryCall.held
    (call : DeliveryCall Figures) : Option (Entry Figures) :=
  call.phase.held

/-- What a call put in the queue, where it waits on this one. -/
def DeliveryCall.awaitsOn
    (queue : Nat)
    (call : DeliveryCall Figures) : Option (Entry Figures) :=
  (call.awaits.filter (·.1 = queue)).map (·.2)

/-- The webhooks in a queue, the oldest first. -/
def entriesAt
    (queues : List (WebhookQueue Figures))
    (queue : Nat) : List (Entry Figures) :=
  ((queues[queue]?).map (·.entries)).getD []

/-- The queues as one list. -/
def waitingEntries
    (queues : List (WebhookQueue Figures)) : List (Entry Figures) :=
  queues.flatMap (·.entries)

end Views

section Effects

variable {policy : BreakerPolicy}

/-- What a move does to the queues and to what was delivered. -/
inductive MoveEffect
    (s : DeliveryService Figures)
    (call : DeliveryCall Figures) :
    Move → DeliveryService Figures → DeliveryCall Figures → Prop
  | apart {m : Move} {t : DeliveryService Figures} {moved : DeliveryCall Figures} :
      (∀ queue, entriesAt t.queues queue = entriesAt s.queues queue) →
      (waitingEntries t.queues).Perm (waitingEntries s.queues) →
      t.queued = s.queued → t.taken = s.taken → t.deliveries = s.deliveries →
      call.awaits = none → moved.awaits = none → call.held = none → moved.held = none →
      MoveEffect s call m t moved
  | put {m : Move} {t : DeliveryService Figures} {moved : DeliveryCall Figures}
      {queue : Nat} {own : Entry Figures} :
      own.ticket = s.queued.length →
      entriesAt t.queues queue = entriesAt s.queues queue ++ [own] →
      (∀ other, other ≠ queue → entriesAt t.queues other = entriesAt s.queues other) →
      (waitingEntries t.queues).Perm (own :: waitingEntries s.queues) →
      t.queued = s.queued ++ [own] → t.taken = s.taken → t.deliveries = s.deliveries →
      call.awaits = none → moved.awaits = some (queue, own) →
      call.held = none → moved.held = none →
      MoveEffect s call m t moved
  | took {t : DeliveryService Figures} {moved : DeliveryCall Figures}
      {queue : Nat} {own oldest : Entry Figures} {entries : List (Entry Figures)} :
      entriesAt s.queues queue = oldest :: entries →
      entriesAt t.queues queue = entries →
      (∀ other, other ≠ queue → entriesAt t.queues other = entriesAt s.queues other) →
      (waitingEntries s.queues).Perm (oldest :: waitingEntries t.queues) →
      t.queued = s.queued → t.taken = s.taken ++ [oldest] → t.deliveries = s.deliveries →
      call.awaits = some (queue, own) → moved.awaits = none →
      call.held = none → moved.held = some oldest →
      MoveEffect s call .dequeue t moved
  | missed {moved : DeliveryCall Figures} {queue : Nat} {own : Entry Figures} :
      entriesAt s.queues queue = [] →
      call.awaits = some (queue, own) →
      MoveEffect s call .dequeue s moved
  | delivered {t : DeliveryService Figures} {moved : DeliveryCall Figures}
      {taken : Entry Figures} {outcome : DeliveryOutcome} :
      (∀ queue, entriesAt t.queues queue = entriesAt s.queues queue) →
      (waitingEntries t.queues).Perm (waitingEntries s.queues) →
      t.queued = s.queued → t.taken = s.taken →
      t.deliveries = s.deliveries ++ [(taken, outcome)] →
      call.awaits = none → moved.awaits = none →
      call.held = some taken → moved.held = none →
      MoveEffect s call (.deliver (some outcome)) t moved
  | escaped {moved : DeliveryCall Figures} :
      call.awaits = none → moved.awaits = none → moved.held = none →
      MoveEffect s call (.deliver none) s moved

/-- Another queue in the place of one. -/
theorem entriesAt_set
    {queues : List (WebhookQueue Figures)} {queue : Nat} {shared : WebhookQueue Figures}
    (h : queues[queue]? = some shared)
    (changed : WebhookQueue Figures) :
    entriesAt queues queue = shared.entries ∧
      entriesAt (queues.set queue changed) queue = changed.entries ∧
      (∀ other, other ≠ queue →
        entriesAt (queues.set queue changed) other = entriesAt queues other) ∧
      ∃ rest, (waitingEntries queues).Perm (shared.entries ++ rest) ∧
        (waitingEntries (queues.set queue changed)).Perm (changed.entries ++ rest) := by
  obtain ⟨pre, post, hsplit, hlength, hset⟩ := Parties.exists_split h
  have hlt : queue < queues.length := (List.getElem?_eq_some_iff.mp h).1
  refine ⟨?_, ?_, fun other hne => ?_, (pre ++ post).flatMap (·.entries), ?_, ?_⟩
  · rw [entriesAt, h]
    rfl
  · rw [entriesAt, List.getElem?_set_self hlt]
    rfl
  · rw [entriesAt, List.getElem?_set_ne hne.symm]
    rfl
  · rw [waitingEntries, hsplit]
    exact Parties.flatMap_split _ _ _ _
  · rw [waitingEntries, hset]
    exact Parties.flatMap_split _ _ _ _

/-- Every move has one of these effects. -/
theorem moveEffect
    {s t : DeliveryService Figures} {call moved : DeliveryCall Figures} {m : Move}
    (h : s.move policy call m = some (t, moved)) :
    MoveEffect s call m t moved := by
  unfold DeliveryService.move at h
  split at h
  · next configs hphase =>
      split at h
      · cases h
        exact .apart (fun _ => rfl) (.refl _) rfl rfl rfl (congrArg Phase.awaits hphase) rfl
          (congrArg Phase.held hphase) rfl
      · cases h
        exact .apart (fun _ => rfl) (.refl _) rfl rfl rfl (congrArg Phase.awaits hphase) rfl
          (congrArg Phase.held hphase) rfl
  · next hphase =>
      cases h
      exact .apart (fun _ => rfl) (.refl _) rfl rfl rfl (congrArg Phase.awaits hphase) rfl
        (congrArg Phase.held hphase) rfl
  · next config rest hphase =>
      split at h
      · cases h
        exact .apart (fun _ => rfl) (.refl _) rfl rfl rfl (congrArg Phase.awaits hphase) rfl
          (congrArg Phase.held hphase) rfl
      · cases h
        exact .apart (fun _ => rfl) (.refl _) rfl rfl rfl (congrArg Phase.awaits hphase) rfl
          (congrArg Phase.held hphase) rfl
  · next config rest present hphase =>
      split at h
      · cases h
        exact .apart (fun _ => rfl) (.refl _) rfl rfl rfl (congrArg Phase.awaits hphase) rfl
          (congrArg Phase.held hphase) rfl
      · cases h
        refine .apart (fun queue => ?_) ?_ rfl rfl rfl (congrArg Phase.awaits hphase) rfl
          (congrArg Phase.held hphase) rfl
        · simp only [entriesAt]
          rcases lt_trichotomy queue s.queues.length with hlt | rfl | hgt
          · rw [List.getElem?_append_left hlt]
          · simp
          · rw [List.getElem?_eq_none (by simpa using Nat.succ_le_of_lt hgt),
              List.getElem?_eq_none (Nat.le_of_lt hgt)]
        · simp [waitingEntries]
  · next config rest hphase =>
      obtain ⟨queue, -, hmoved⟩ := Option.map_eq_some_iff.mp h
      cases hmoved
      exact .apart (fun _ => rfl) (.refl _) rfl rfl rfl (congrArg Phase.awaits hphase) rfl
        (congrArg Phase.held hphase) rfl
  · next config rest queue now hphase =>
      cases h
      refine .apart (fun _ => rfl) (.refl _) rfl rfl rfl (congrArg Phase.awaits hphase) ?_
        (congrArg Phase.held hphase) ?_
      · rw [DeliveryCall.awaits, apply_ite Phase.awaits]
        exact ite_self none
      · rw [DeliveryCall.held, apply_ite Phase.held]
        exact ite_self none
  · next config rest queue idempotencyKey now hphase =>
      obtain ⟨shared, hshared, hmoved⟩ := Option.map_eq_some_iff.mp h
      split at hmoved
      · cases hmoved
        obtain ⟨hentries, hset, hothers, rest', hbefore, hafter⟩ :=
          entriesAt_set hshared { shared with droppedCount := shared.droppedCount + 1 }
        refine .apart (fun other => ?_) ?_ rfl rfl rfl (congrArg Phase.awaits hphase) rfl
          (congrArg Phase.held hphase) rfl
        · by_cases hother : other = queue
          · rw [hother, hset, hentries]
          · exact hothers other hother
        · exact hafter.trans hbefore.symm
      · cases hmoved
        obtain ⟨hentries, hset, hothers, rest', hbefore, hafter⟩ :=
          entriesAt_set hshared { shared with entries := shared.entries ++
            [⟨s.queued.length, call.webhook config idempotencyKey now⟩] }
        refine .put rfl ?_ hothers ?_ rfl rfl rfl (congrArg Phase.awaits hphase) rfl
          (congrArg Phase.held hphase) rfl
        · rw [hset, hentries]
        · refine hafter.trans ?_
          rw [List.append_assoc]
          exact List.perm_middle.trans (hbefore.symm.cons _)
  · next config rest queue own hphase =>
      obtain ⟨shared, hshared, hmoved⟩ := Option.map_eq_some_iff.mp h
      split at hmoved
      · next hempty =>
          cases hmoved
          refine .missed ?_ (congrArg Phase.awaits hphase)
          rw [entriesAt, hshared]
          exact hempty
      · next oldest entries hqueue =>
          cases hmoved
          obtain ⟨hentries, hset, hothers, rest', hbefore, hafter⟩ :=
            entriesAt_set hshared { shared with entries := entries }
          rw [hqueue] at hentries hbefore
          exact .took hentries hset hothers (hbefore.trans (hafter.symm.cons _)) rfl rfl rfl
            (congrArg Phase.awaits hphase) rfl (congrArg Phase.held hphase) rfl
  · next config rest own taken hphase =>
      cases h
      exact .escaped (congrArg Phase.awaits hphase) rfl rfl
  · next config rest own taken outcome hphase =>
      cases h
      exact .delivered (fun _ => rfl) (.refl _) rfl rfl rfl (congrArg Phase.awaits hphase) rfl
        (congrArg Phase.held hphase) rfl
  · next config rest own taken outcome written now hphase =>
      cases h
      exact .apart (fun _ => rfl) (.refl _) rfl rfl rfl (congrArg Phase.awaits hphase) rfl
        (congrArg Phase.held hphase) rfl
  · cases h

end Effects

section Conservation

variable {policy : BreakerPolicy}

theorem awaitsOn_of_none
    {call : DeliveryCall Figures}
    (h : call.awaits = none)
    (queue : Nat) :
    call.awaitsOn queue = none := by
  rw [DeliveryCall.awaitsOn, h]
  rfl

theorem awaitsOn_self
    {call : DeliveryCall Figures} {queue : Nat} {own : Entry Figures}
    (h : call.awaits = some (queue, own)) :
    call.awaitsOn queue = some own := by
  rw [DeliveryCall.awaitsOn, h]
  simp

theorem awaitsOn_of_ne
    {call : DeliveryCall Figures} {queue other : Nat} {own : Entry Figures}
    (h : call.awaits = some (queue, own))
    (hne : other ≠ queue) :
    call.awaitsOn other = none := by
  rw [DeliveryCall.awaitsOn, h]
  simp [hne.symm]

/-- What the calls wait for on one queue. -/
def DeliveryState.waitingOn
    (s : DeliveryState Figures)
    (queue : Nat) : List (Entry Figures) :=
  s.calls.filterMap (DeliveryCall.awaitsOn queue)

/-- What was queued is in a queue, in a call's hands, or delivered; and a queue is as long as
the list of the calls that wait on it. -/
structure Conserved
    (s : DeliveryState Figures) : Prop where
  balance : s.service.queued.Perm (s.service.taken ++ waitingEntries s.service.queues)
  inHand : s.service.taken.Perm
    (s.service.deliveries.map (·.1) ++ s.calls.filterMap DeliveryCall.held)
  lengths : ∀ queue, (s.waitingOn queue).length = (entriesAt s.service.queues queue).length

/-- No exception escapes a delivery. -/
def calm : DeliveryEvent Figures → Bool
  | .moved _ (.deliver none) => false
  | _ => true

theorem waitingOn_split
    (service : DeliveryService Figures)
    (pre : List (DeliveryCall Figures))
    (call : DeliveryCall Figures)
    (post : List (DeliveryCall Figures))
    (queue : Nat) :
    ((⟨service, pre ++ call :: post⟩ : DeliveryState Figures).waitingOn queue).Perm
      ((call.awaitsOn queue).toList ++
        (pre ++ post).filterMap (DeliveryCall.awaitsOn queue)) :=
  Parties.filterMap_split _ _ _ _

/-- A move of a call keeps the balance. -/
theorem conserved_move
    {s t : DeliveryService Figures} {call moved : DeliveryCall Figures} {m : Move}
    {pre post : List (DeliveryCall Figures)}
    (heffect : MoveEffect s call m t moved)
    (hcalm : m ≠ .deliver none)
    (h : Conserved ⟨s, pre ++ call :: post⟩) :
    Conserved ⟨t, pre ++ moved :: post⟩ := by
  obtain ⟨hbalance, hhand, hlengths⟩ := h
  have hhand' : s.taken.Perm (s.deliveries.map (·.1) ++
      (call.held.toList ++ (pre ++ post).filterMap DeliveryCall.held)) :=
    hhand.trans ((Parties.filterMap_split DeliveryCall.held pre call post).append_left _)
  have hlengths' : ∀ queue, ((call.awaitsOn queue).toList ++
      (pre ++ post).filterMap (DeliveryCall.awaitsOn queue)).length =
        (entriesAt s.queues queue).length :=
    fun queue => (waitingOn_split s pre call post queue).length_eq.symm.trans (hlengths queue)
  suffices hsplit : t.queued.Perm (t.taken ++ waitingEntries t.queues) ∧
      t.taken.Perm (t.deliveries.map (·.1) ++
        (moved.held.toList ++ (pre ++ post).filterMap DeliveryCall.held)) ∧
      ∀ queue, ((moved.awaitsOn queue).toList ++
        (pre ++ post).filterMap (DeliveryCall.awaitsOn queue)).length =
          (entriesAt t.queues queue).length by
    refine ⟨hsplit.1, hsplit.2.1.trans ?_, fun queue => ?_⟩
    · exact (Parties.filterMap_split DeliveryCall.held pre moved post).symm.append_left _
    · exact (waitingOn_split t pre moved post queue).length_eq.trans (hsplit.2.2 queue)
  cases heffect with
  | apart hentries hwaiting hqueued htaken hdeliveries hawaits hawaits' hheld hheld' =>
      refine ⟨?_, ?_, fun queue => ?_⟩
      · rw [hqueued, htaken]
        exact hbalance.trans (hwaiting.symm.append_left _)
      · rw [htaken, hdeliveries, hheld']
        rw [hheld] at hhand'
        exact hhand'
      · have hlength := hlengths' queue
        rw [awaitsOn_of_none hawaits] at hlength
        rw [awaitsOn_of_none hawaits', hentries]
        exact hlength
  | @put _ _ _ queue own hticket hself hothers hwaiting hqueued htaken hdeliveries hawaits hawaits'
      hheld hheld' =>
      refine ⟨?_, ?_, fun other => ?_⟩
      · rw [hqueued, htaken]
        refine List.perm_append_comm.trans ((hbalance.cons own).trans ?_)
        exact List.perm_middle.symm.trans (hwaiting.symm.append_left _)
      · rw [htaken, hdeliveries, hheld']
        rw [hheld] at hhand'
        exact hhand'
      · have hlength := hlengths' other
        rw [awaitsOn_of_none hawaits] at hlength
        by_cases hother : other = queue
        · subst hother
          rw [awaitsOn_self hawaits', hself, List.length_append, List.length_append, ← hlength]
          simp [Nat.add_comm]
        · rw [awaitsOn_of_ne hawaits' hother, hothers other hother]
          exact hlength
  | @took _ _ queue own oldest entries hqueue hself hothers hwaiting hqueued htaken hdeliveries
      hawaits hawaits' hheld hheld' =>
      refine ⟨?_, ?_, fun other => ?_⟩
      · rw [hqueued, htaken, List.append_assoc]
        exact hbalance.trans (hwaiting.append_left _)
      · rw [htaken, hdeliveries, hheld']
        rw [hheld] at hhand'
        exact List.perm_append_comm.trans ((hhand'.cons oldest).trans List.perm_middle.symm)
      · have hlength := hlengths' other
        rw [awaitsOn_of_none hawaits']
        by_cases hother : other = queue
        · subst hother
          rw [awaitsOn_self hawaits, hqueue] at hlength
          rw [hself]
          simpa using hlength
        · rw [awaitsOn_of_ne hawaits hother] at hlength
          rw [hothers other hother]
          exact hlength
  | @missed _ queue own hempty hawaits =>
      have hlength := hlengths' queue
      rw [awaitsOn_self hawaits, hempty] at hlength
      cases hlength
  | @delivered _ _ taken outcome hentries hwaiting hqueued htaken hdeliveries hawaits hawaits' hheld
      hheld' =>
      refine ⟨?_, ?_, fun queue => ?_⟩
      · rw [hqueued, htaken]
        exact hbalance.trans (hwaiting.symm.append_left _)
      · rw [htaken, hdeliveries, hheld', List.map_append, List.append_assoc]
        rw [hheld] at hhand'
        exact hhand'
      · have hlength := hlengths' queue
        rw [awaitsOn_of_none hawaits] at hlength
        rw [awaitsOn_of_none hawaits', hentries]
        exact hlength
  | escaped => exact absurd rfl hcalm

/-- A step keeps the balance. -/
theorem DeliveryStep.conserved :
    Preserved (Restrict (DeliveryStep policy) (fun _ e => calm e = true))
      (fun s : DeliveryState Figures => Conserved s) := by
  rintro s e t ⟨hstep, hcalm⟩ h
  rcases hstep.cases with ⟨request, now, -, hservice, n, hcalls⟩ |
    ⟨i, m, pre, call, post, service, moved, rfl, -, hsplit, hmove, rfl⟩
  · obtain ⟨hbalance, hhand, hlengths⟩ := h
    refine ⟨?_, ?_, fun queue => ?_⟩
    · rw [congrArg DeliveryService.queued hservice, congrArg DeliveryService.taken hservice,
        congrArg DeliveryService.queues hservice]
      exact hbalance
    · rw [congrArg DeliveryService.taken hservice, congrArg DeliveryService.deliveries hservice,
        hcalls, Parties.filterMap_concat_of_none rfl]
      exact hhand
    · rw [DeliveryState.waitingOn, hcalls, Parties.filterMap_concat_of_none rfl,
        congrArg DeliveryService.queues hservice]
      exact hlengths queue
  · obtain ⟨service', calls⟩ := s
    dsimp only at hsplit
    subst hsplit
    refine conserved_move (moveEffect hmove) ?_ h
    rintro rfl
    cases hcalm

/-- Once all calls have returned, what was queued is what was delivered, and the queues are
empty. -/
theorem nothing_lost
    {t : DeliveryState Figures} {es : List (DeliveryEvent Figures)}
    (hrun : Run (Restrict (DeliveryStep policy) (fun _ e => calm e = true)) {} es t)
    (hreturned : ∀ call ∈ t.calls, ∃ sent, call.phase = .returned sent) :
    t.service.queued.Perm (t.service.deliveries.map (·.1)) ∧
      ∀ queue, entriesAt t.service.queues queue = [] := by
  have hstart : Conserved ({} : DeliveryState Figures) :=
    ⟨.refl _, .refl _, fun queue => rfl⟩
  obtain ⟨hbalance, hhand, hlengths⟩ := hrun.preserves DeliveryStep.conserved hstart
  have hqueues : ∀ queue, entriesAt t.service.queues queue = [] := by
    intro queue
    have hnone : t.waitingOn queue = [] := by
      refine List.filterMap_eq_nil_iff.mpr fun call hcall => ?_
      obtain ⟨sent, hphase⟩ := hreturned call hcall
      exact awaitsOn_of_none (congrArg Phase.awaits hphase) queue
    have hlength := hlengths queue
    rw [hnone] at hlength
    exact List.length_eq_zero_iff.mp hlength.symm
  have hheld : t.calls.filterMap DeliveryCall.held = [] := by
    refine List.filterMap_eq_nil_iff.mpr fun call hcall => ?_
    obtain ⟨sent, hphase⟩ := hreturned call hcall
    exact congrArg Phase.held hphase
  have hempty : waitingEntries t.service.queues = [] := by
    refine List.flatMap_eq_nil_iff.mpr fun shared hshared => ?_
    obtain ⟨queue, hqueue⟩ := List.mem_iff_getElem?.mp hshared
    have hentries := hqueues queue
    rw [entriesAt, hqueue] at hentries
    exact hentries
  rw [hempty, List.append_nil] at hbalance
  rw [hheld, List.append_nil] at hhand
  exact ⟨hbalance.trans hhand, hqueues⟩

end Conservation

section Turns

variable {policy : BreakerPolicy}

/-- A call that takes off put in before every other call that waits on the queue. -/
def inTurn
    (s : DeliveryState Figures) : DeliveryEvent Figures → Bool
  | .moved i .dequeue =>
      ((s.calls[i]?).bind (·.awaits)).all (fun waiting =>
        (s.waitingOn waiting.1).all (waiting.2.ticket ≤ ·.ticket))
  | _ => true

/-- A queue holds what the calls that wait on it put in, in the order of the tickets. -/
structure Matched
    (s : DeliveryState Figures) : Prop where
  sorted : ∀ queue, (entriesAt s.service.queues queue).Pairwise (fun a b => a.ticket < b.ticket)
  issued : ∀ queue, ∀ entry ∈ entriesAt s.service.queues queue,
    entry.ticket < s.service.queued.length
  matched : ∀ queue, (s.waitingOn queue).Perm (entriesAt s.service.queues queue)

/-- In turn, the oldest webhook in the queue is the one the call put in. -/
theorem Matched.oldest
    {s : DeliveryState Figures} {call : DeliveryCall Figures} {queue : Nat} {own : Entry Figures}
    (h : Matched s)
    (hcall : call ∈ s.calls)
    (hawaits : call.awaits = some (queue, own))
    (hturn : ∀ other ∈ s.waitingOn queue, own.ticket ≤ other.ticket) :
    ∃ entries, entriesAt s.service.queues queue = own :: entries := by
  have hown : own ∈ entriesAt s.service.queues queue :=
    (h.matched queue).mem_iff.mp (List.mem_filterMap.mpr ⟨call, hcall, awaitsOn_self hawaits⟩)
  have hsorted := h.sorted queue
  have hmatched := h.matched queue
  cases hentries : entriesAt s.service.queues queue with
  | nil =>
      rw [hentries] at hown
      cases hown
  | cons oldest entries =>
      rw [hentries] at hown hsorted hmatched
      rcases List.mem_cons.mp hown with rfl | hlater
      · exact ⟨entries, rfl⟩
      · have hbefore := (List.pairwise_cons.mp hsorted).1 own hlater
        have hafter := hturn oldest (hmatched.mem_iff.mpr List.mem_cons_self)
        exact absurd hbefore (Nat.not_lt.mpr hafter)

/-- A move in turn keeps the queues matched. -/
theorem matched_move
    {s t : DeliveryService Figures} {call moved : DeliveryCall Figures} {m : Move}
    {pre post : List (DeliveryCall Figures)}
    (heffect : MoveEffect s call m t moved)
    (hturn : ∀ queue own, m = .dequeue → call.awaits = some (queue, own) →
      ∃ entries, entriesAt s.queues queue = own :: entries)
    (h : Matched ⟨s, pre ++ call :: post⟩) :
    Matched ⟨t, pre ++ moved :: post⟩ := by
  obtain ⟨hsorted, hissued, hmatched⟩ := h
  have hmatched' : ∀ queue, ((call.awaitsOn queue).toList ++
      (pre ++ post).filterMap (DeliveryCall.awaitsOn queue)).Perm (entriesAt s.queues queue) :=
    fun queue => (waitingOn_split s pre call post queue).symm.trans (hmatched queue)
  suffices hsplit : (∀ queue, (entriesAt t.queues queue).Pairwise (fun a b => a.ticket < b.ticket)) ∧
      (∀ queue, ∀ entry ∈ entriesAt t.queues queue, entry.ticket < t.queued.length) ∧
      ∀ queue, ((moved.awaitsOn queue).toList ++
        (pre ++ post).filterMap (DeliveryCall.awaitsOn queue)).Perm (entriesAt t.queues queue) by
    exact ⟨hsplit.1, hsplit.2.1, fun queue =>
      (waitingOn_split t pre moved post queue).trans (hsplit.2.2 queue)⟩
  cases heffect with
  | apart hentries hwaiting hqueued htaken hdeliveries hawaits hawaits' hheld hheld' =>
      refine ⟨fun queue => ?_, fun queue entry hentry => ?_, fun queue => ?_⟩
      · rw [hentries]
        exact hsorted queue
      · rw [hentries] at hentry
        rw [hqueued]
        exact hissued queue entry hentry
      · have hperm := hmatched' queue
        rw [awaitsOn_of_none hawaits] at hperm
        rw [awaitsOn_of_none hawaits', hentries]
        exact hperm
  | @put _ _ _ queue own hticket hself hothers hwaiting hqueued htaken hdeliveries hawaits hawaits'
      hheld hheld' =>
      refine ⟨fun other => ?_, fun other entry hentry => ?_, fun other => ?_⟩
      · by_cases hother : other = queue
        · rw [hother, hself]
          refine List.pairwise_append.mpr ⟨hsorted queue, List.pairwise_singleton _ _, ?_⟩
          intro entry hentry last hlast
          rw [List.mem_singleton.mp hlast, hticket]
          exact hissued queue entry hentry
        · rw [hothers other hother]
          exact hsorted other
      · rw [hqueued, List.length_append]
        by_cases hother : other = queue
        · rw [hother, hself] at hentry
          rcases List.mem_append.mp hentry with hold | hnew
          · exact Nat.lt_succ_of_lt (hissued queue entry hold)
          · rw [List.mem_singleton.mp hnew, hticket]
            exact Nat.lt_succ_self _
        · rw [hothers other hother] at hentry
          exact Nat.lt_succ_of_lt (hissued other entry hentry)
      · have hperm := hmatched' other
        rw [awaitsOn_of_none hawaits] at hperm
        by_cases hother : other = queue
        · subst hother
          rw [awaitsOn_self hawaits', hself]
          exact (hperm.cons own).trans (List.perm_append_singleton own _).symm
        · rw [awaitsOn_of_ne hawaits' hother, hothers other hother]
          exact hperm
  | @took _ _ queue own oldest entries hqueue hself hothers hwaiting hqueued htaken hdeliveries
      hawaits hawaits' hheld hheld' =>
      obtain ⟨rest, hrest⟩ := hturn queue own rfl hawaits
      obtain ⟨rfl, -⟩ := List.cons.inj (hqueue.symm.trans hrest)
      refine ⟨fun other => ?_, fun other entry hentry => ?_, fun other => ?_⟩
      · by_cases hother : other = queue
        · have hall := hsorted queue
          rw [hqueue] at hall
          rw [hother, hself]
          exact (List.pairwise_cons.mp hall).2
        · rw [hothers other hother]
          exact hsorted other
      · rw [hqueued]
        by_cases hother : other = queue
        · rw [hother, hself] at hentry
          refine hissued queue entry ?_
          rw [hqueue]
          exact List.mem_cons_of_mem _ hentry
        · rw [hothers other hother] at hentry
          exact hissued other entry hentry
      · have hperm := hmatched' other
        rw [awaitsOn_of_none hawaits']
        by_cases hother : other = queue
        · subst hother
          rw [awaitsOn_self hawaits, hqueue] at hperm
          rw [hself]
          exact hperm.cons_inv
        · rw [awaitsOn_of_ne hawaits hother] at hperm
          rw [hothers other hother]
          exact hperm
  | @missed _ queue own hempty hawaits =>
      obtain ⟨rest, hrest⟩ := hturn queue own rfl hawaits
      rw [hempty] at hrest
      cases hrest
  | @delivered _ _ taken outcome hentries hwaiting hqueued htaken hdeliveries hawaits hawaits' hheld
      hheld' =>
      refine ⟨fun queue => ?_, fun queue entry hentry => ?_, fun queue => ?_⟩
      · rw [hentries]
        exact hsorted queue
      · rw [hentries] at hentry
        rw [hqueued]
        exact hissued queue entry hentry
      · have hperm := hmatched' queue
        rw [awaitsOn_of_none hawaits] at hperm
        rw [awaitsOn_of_none hawaits', hentries]
        exact hperm
  | escaped hawaits hawaits' hheld' =>
      refine ⟨hsorted, hissued, fun queue => ?_⟩
      have hperm := hmatched' queue
      rw [awaitsOn_of_none hawaits] at hperm
      rw [awaitsOn_of_none hawaits']
      exact hperm

/-- What a call of this phase put in and has not concluded about. -/
def Phase.own : Phase Figures → Option (Entry Figures)
  | .waiting _ _ _ own => some own
  | .holding _ _ own _ => some own
  | .concluding _ _ own _ _ => some own
  | _ => none

/-- The conclusion is about the call's own webhook. -/
structure ConclusionSound
    (s : DeliveryService Figures)
    (call : DeliveryCall Figures)
    (c : Conclusion Figures) : Prop where
  own : c.own.webhook.payload.result = call.result
  taken : c.taken = c.own
  delivered : (c.own, c.outcome) ∈ s.deliveries
  row : ∀ row, c.row = some row →
    row.mediaBuyId = call.result.mediaBuyId ∧ row.sequenceNumber = call.result.sequenceNumber ∧
      c.outcome.kind.logStatus = some row.status

/-- What a call has in its hands is its own. -/
def PhaseSound
    (s : DeliveryService Figures)
    (call : DeliveryCall Figures) : Prop :=
  match call.phase with
  | .resolving => call.sentCount = 0
  | .waiting _ _ _ own => own.webhook.payload.result = call.result
  | .holding _ _ own taken => own.webhook.payload.result = call.result ∧ taken = own
  | .concluding _ _ own taken outcome =>
      own.webhook.payload.result = call.result ∧ taken = own ∧ (own, outcome) ∈ s.deliveries
  | .returned sent => sent = decide (0 < call.sentCount)
  | _ => True

/-- What a call concluded is about what it put in, and its answer is what it concluded. -/
structure CallSound
    (s : DeliveryService Figures)
    (call : DeliveryCall Figures) : Prop where
  buy : call.result.mediaBuyId = call.ctx.mediaBuyId
  sequence : call.result.sequenceNumber = call.ctx.sequenceNumber
  settled : call.queued = call.conclusions.map (·.own) ++ call.phase.own.toList
  counted : call.sentCount = call.conclusions.countP (·.outcome.kind = .delivered)
  concluded : ∀ c ∈ call.conclusions, ConclusionSound s call c
  phase : PhaseSound s call

theorem ConclusionSound.mono
    {s t : DeliveryService Figures} {call moved : DeliveryCall Figures} {c : Conclusion Figures}
    (h : ConclusionSound s call c)
    (hdeliveries : s.deliveries ⊆ t.deliveries)
    (hresult : moved.result = call.result) :
    ConclusionSound t moved c := by
  refine ⟨h.own.trans hresult.symm, h.taken, hdeliveries h.delivered, fun row hrow => ?_⟩
  rw [hresult]
  exact h.row row hrow

/-- Another call goes on being sound. -/
theorem CallSound.mono
    {s t : DeliveryService Figures} {call : DeliveryCall Figures}
    (h : CallSound s call)
    (hdeliveries : s.deliveries ⊆ t.deliveries) :
    CallSound t call := by
  refine ⟨h.buy, h.sequence, h.settled, h.counted,
    fun c hc => (h.concluded c hc).mono hdeliveries rfl, ?_⟩
  have hphase := h.phase
  unfold PhaseSound at hphase ⊢
  cases hcase : call.phase with
  | concluding config rest own taken outcome =>
      rw [hcase] at hphase
      exact ⟨hphase.1, hphase.2.1, hdeliveries hphase.2.2⟩
  | _ =>
      rw [hcase] at hphase
      exact hphase

theorem CallSound.enter
    {s t : DeliveryService Figures} {call : DeliveryCall Figures} {phase : Phase Figures}
    (h : CallSound s call)
    (hdeliveries : s.deliveries ⊆ t.deliveries)
    (hown : phase.own = call.phase.own)
    (hphase : PhaseSound t { call with phase := phase }) :
    CallSound t { call with phase := phase } := by
  refine ⟨h.buy, h.sequence, ?_, h.counted,
    fun c hc => (h.concluded c hc).mono hdeliveries rfl, hphase⟩
  rw [hown]
  exact h.settled

theorem recordOutcome_eq_some
    {ctx : TaskContext} {url : String} {outcome : DeliveryOutcome} {row : DeliveryLogRow}
    (h : recordOutcome ctx url outcome = some row) :
    row.mediaBuyId = ctx.mediaBuyId ∧ row.sequenceNumber = ctx.sequenceNumber ∧
      outcome.kind.logStatus = some row.status := by
  unfold recordOutcome at h
  cases hstatus : outcome.kind.logStatus with
  | none =>
      rw [hstatus] at h
      cases h
  | some status =>
      rw [hstatus] at h
      dsimp only at h
      split at h
      · cases h
      · cases h
        exact ⟨rfl, rfl, rfl⟩

/-- The call that moves stays sound, where it takes its own webhook off. -/
theorem callSound_move
    {s t : DeliveryService Figures} {call moved : DeliveryCall Figures} {m : Move}
    (hmove : s.move policy call m = some (t, moved))
    (hcalm : m ≠ .deliver none)
    (hturn : ∀ queue own, m = .dequeue → call.awaits = some (queue, own) →
      ∃ entries, entriesAt s.queues queue = own :: entries)
    (h : CallSound s call) :
    CallSound t moved := by
  have hphase := h.phase
  unfold PhaseSound at hphase
  unfold DeliveryService.move at hmove
  split at hmove
  · next configs hcase =>
      split at hmove
      · cases hmove
        rw [hcase] at hphase
        exact h.enter (fun _ => id) (by rw [hcase]; rfl) (by rw [PhaseSound, hphase]; rfl)
      · cases hmove
        exact h.enter (fun _ => id) (by rw [hcase]; rfl) trivial
  · next hcase =>
      cases hmove
      exact h.enter (fun _ => id) (by rw [hcase]; rfl) rfl
  · next config rest hcase =>
      split at hmove
      · cases hmove
        exact h.enter (fun _ => id) (by rw [hcase]; rfl) trivial
      · cases hmove
        exact h.enter (fun _ => id) (by rw [hcase]; rfl) trivial
  · next config rest present hcase =>
      split at hmove
      · cases hmove
        exact h.enter (fun _ => id) (by rw [hcase]; rfl) trivial
      · cases hmove
        exact h.enter (fun _ => id) (by rw [hcase]; rfl) trivial
  · next config rest hcase =>
      obtain ⟨queue, -, hmoved⟩ := Option.map_eq_some_iff.mp hmove
      cases hmoved
      exact h.enter (fun _ => id) (by rw [hcase]; rfl) trivial
  · next config rest queue now hcase =>
      cases hmove
      generalize ((s.breakers (call.endpointKey config)).canAttempt policy now).2 = admitted
      cases admitted with
      | true => exact h.enter (fun _ => id) (by rw [hcase]; rfl) trivial
      | false => exact h.enter (fun _ => id) (by rw [hcase]; rfl) trivial
  · next config rest queue idempotencyKey now hcase =>
      obtain ⟨shared, -, hmoved⟩ := Option.map_eq_some_iff.mp hmove
      split at hmoved
      · cases hmoved
        exact h.enter (fun _ => id) (by rw [hcase]; rfl) trivial
      · cases hmoved
        refine ⟨h.buy, h.sequence, ?_, h.counted,
          fun c hc => (h.concluded c hc).mono (fun _ => id) rfl, rfl⟩
        have hsettled := h.settled
        rw [hcase] at hsettled
        rw [hsettled]
        simp [Phase.own]
  · next config rest queue own hcase =>
      obtain ⟨shared, hshared, hmoved⟩ := Option.map_eq_some_iff.mp hmove
      obtain ⟨entries, hentries⟩ := hturn queue own rfl (congrArg Phase.awaits hcase)
      rw [entriesAt, hshared] at hentries
      split at hmoved
      · next hempty =>
          rw [Option.map_some, Option.getD_some, hempty] at hentries
          cases hentries
      · next oldest rest' hqueue =>
          rw [Option.map_some, Option.getD_some, hqueue] at hentries
          obtain ⟨rfl, -⟩ := List.cons.inj hentries
          cases hmoved
          rw [hcase] at hphase
          exact h.enter (fun _ => id) (by rw [hcase]; rfl) ⟨hphase, rfl⟩
  · exact absurd rfl hcalm
  · next config rest own taken outcome hcase =>
      cases hmove
      rw [hcase] at hphase
      obtain ⟨hown, rfl⟩ := hphase
      exact h.enter (List.subset_append_left _ _) (by rw [hcase]; rfl)
        ⟨hown, rfl, List.mem_append_right _ (List.mem_singleton_self _)⟩
  · next config rest own taken outcome written now hcase =>
      cases hmove
      rw [hcase] at hphase
      obtain ⟨hown, rfl, hdelivered⟩ := hphase
      refine ⟨h.buy, h.sequence, ?_, ?_, fun c hc => ?_, trivial⟩
      · have hsettled := h.settled
        rw [hcase] at hsettled
        rw [hsettled]
        simp [Phase.own]
      · rw [h.counted, List.countP_append, List.countP_singleton]
        split <;> simp_all
      · rcases List.mem_append.mp hc with hold | hnew
        · exact (h.concluded c hold).mono (fun _ => id) rfl
        · rw [List.mem_singleton.mp hnew]
          refine ⟨hown, rfl, hdelivered, fun row hrow => ?_⟩
          dsimp only at hrow
          split at hrow
          · rw [h.buy, h.sequence]
            exact recordOutcome_eq_some hrow
          · cases hrow
  · cases hmove

theorem MoveEffect.deliveries_subset
    {s t : DeliveryService Figures} {call moved : DeliveryCall Figures} {m : Move}
    (h : MoveEffect s call m t moved) :
    s.deliveries ⊆ t.deliveries := by
  cases h with
  | apart _ _ _ _ hdeliveries => exact (congrArg (s.deliveries ⊆ ·) hdeliveries).mpr (fun _ => id)
  | put _ _ _ _ _ _ hdeliveries => exact (congrArg (s.deliveries ⊆ ·) hdeliveries).mpr (fun _ => id)
  | took _ _ _ _ _ _ hdeliveries =>
      exact (congrArg (s.deliveries ⊆ ·) hdeliveries).mpr (fun _ => id)
  | missed => exact fun _ => id
  | delivered _ _ _ _ hdeliveries =>
      rw [hdeliveries]
      exact List.subset_append_left _ _
  | escaped => exact fun _ => id

/-- Nothing escapes a delivery, and calls take off in turn. -/
def orderly
    (s : DeliveryState Figures)
    (e : DeliveryEvent Figures) : Bool :=
  calm e && inTurn s e

theorem callSound_begin
    (s : DeliveryService Figures)
    (request : ReportRequest Figures)
    (n : Nat)
    (now : Int) :
    CallSound s (.begin request n now) :=
  ⟨rfl, rfl, rfl, rfl, fun _ hc => absurd hc List.not_mem_nil, rfl⟩

/-- A step in turn keeps the queues matched and the calls sound. -/
theorem DeliveryStep.sound :
    Preserved (Restrict (DeliveryStep policy) (fun s e => orderly s e = true))
      (fun s : DeliveryState Figures => Matched s ∧ ∀ call ∈ s.calls, CallSound s.service call) := by
  rintro s e t ⟨hstep, horderly⟩ ⟨hmatched, hsound⟩
  obtain ⟨hcalm, hturn⟩ := Bool.and_eq_true_iff.mp horderly
  rcases hstep.cases with ⟨request, now, -, hservice, n, hcalls⟩ |
    ⟨i, m, pre, call, post, service, moved, rfl, hcall, hsplit, hmove, rfl⟩
  · have hqueues := congrArg DeliveryService.queues hservice
    have hdeliveries := congrArg DeliveryService.deliveries hservice
    refine ⟨⟨?_, ?_, fun queue => ?_⟩, fun call hcall => ?_⟩
    · rw [hqueues]
      exact hmatched.sorted
    · rw [hqueues, congrArg DeliveryService.queued hservice]
      exact hmatched.issued
    · rw [DeliveryState.waitingOn, hcalls, Parties.filterMap_concat_of_none rfl, hqueues]
      exact hmatched.matched queue
    · rw [hcalls] at hcall
      rcases List.mem_append.mp hcall with hold | hnew
      · refine (hsound call hold).mono ?_
        rw [hdeliveries]
        exact fun _ => id
      · rw [List.mem_singleton.mp hnew]
        exact callSound_begin _ _ _ _
  · have hoff : ∀ queue own, m = .dequeue → call.awaits = some (queue, own) →
        ∃ entries, entriesAt s.service.queues queue = own :: entries := by
      rintro queue own rfl hawaits
      refine hmatched.oldest (List.mem_of_getElem? hcall) hawaits fun other hother => ?_
      rw [inTurn, hcall, Option.bind_some, hawaits, Option.all_some] at hturn
      exact of_decide_eq_true (List.all_eq_true.mp hturn other hother)
    have heffect := moveEffect hmove
    obtain ⟨service', calls⟩ := s
    dsimp only at hsplit
    subst hsplit
    refine ⟨matched_move heffect hoff hmatched, ?_⟩
    exact Parties.forall_of_split hsound (fun c hc => hc.mono heffect.deliveries_subset)
      (callSound_move hmove (by rintro rfl; cases hcalm) hoff)

/-- What the deliveries of a run are to the calls that asked for them. -/
structure Attributed
    (s : DeliveryState Figures) : Prop where
  /-- a conclusion is about the call's own webhook, and so are its row and its report -/
  conclusions : ∀ call ∈ s.calls, ∀ c ∈ call.conclusions, ConclusionSound s.service call c
  /-- a call that has returned concluded about all it queued, and says whether any was
  delivered -/
  answers : ∀ call ∈ s.calls, ∀ sent, call.phase = .returned sent →
    call.queued = call.conclusions.map (·.own) ∧
      (sent = true ↔ ∃ c ∈ call.conclusions, c.outcome.kind = .delivered)
  /-- once all calls have returned, each webhook was delivered exactly once -/
  once : (∀ call ∈ s.calls, ∃ sent, call.phase = .returned sent) →
    s.service.queued.Perm (s.service.deliveries.map (·.1)) ∧
      ∀ queue, entriesAt s.service.queues queue = []

/-- In turn, every conclusion is about the webhook of the call that makes it. -/
theorem attributed_in_turn
    {s : DeliveryState Figures} {es : List (DeliveryEvent Figures)}
    (hrun : Run (Restrict (DeliveryStep policy) (fun s e => orderly s e = true)) {} es s) :
    Attributed s := by
  have hstart : Matched ({} : DeliveryState Figures) ∧
      ∀ call ∈ ({} : DeliveryState Figures).calls,
        CallSound ({} : DeliveryState Figures).service call :=
    ⟨⟨fun _ => .nil, fun _ _ h => absurd h List.not_mem_nil, fun _ => .refl _⟩,
      fun _ h => absurd h List.not_mem_nil⟩
  obtain ⟨-, hsound⟩ := hrun.preserves DeliveryStep.sound hstart
  refine ⟨fun call hcall => (hsound call hcall).concluded, fun call hcall sent hphase => ?_,
    nothing_lost (hrun.mono fun _ _ _ h => ⟨h.1, (Bool.and_eq_true_iff.mp h.2).1⟩)⟩
  have hown := (hsound call hcall).settled
  have hcounted := (hsound call hcall).counted
  have hanswer := (hsound call hcall).phase
  rw [PhaseSound, hphase] at hanswer
  rw [hphase] at hown
  refine ⟨hown.trans (List.append_nil _), ?_⟩
  rw [hanswer, hcounted, decide_eq_true_eq, List.countP_pos_iff]
  simp

end Turns

section Samples

variable {policy : BreakerPolicy}

/-- The events in order, while each meets a condition. -/
def performed
    (policy : BreakerPolicy)
    (cond : DeliveryState Figures → DeliveryEvent Figures → Bool) :
    List (DeliveryEvent Figures) → DeliveryState Figures → Option (DeliveryState Figures)
  | [], s => some s
  | e :: es, s =>
      if cond s e then (s.after policy e).bind (performed policy cond es) else none

theorem run_of_performed
    {cond : DeliveryState Figures → DeliveryEvent Figures → Bool}
    {es : List (DeliveryEvent Figures)} {s t : DeliveryState Figures}
    (h : performed policy cond es s = some t) :
    Run (Restrict (DeliveryStep policy) (fun s e => cond s e = true)) s es t := by
  induction es generalizing s with
  | nil =>
      cases h
      exact .nil _
  | cons e es ih =>
      rw [performed] at h
      split at h
      · next hcond =>
          obtain ⟨u, hu, hrest⟩ := Option.bind_eq_some_iff.mp h
          exact .cons ⟨hu, hcond⟩ (ih hrest)
      · cases h

/-- A report of one media buy. -/
def sampleReport
    (mediaBuyId : String) : ReportRequest Unit where
  mediaBuyId := mediaBuyId
  tenantId := "t1"
  principalId := "p1"
  reportingPeriodStart := 0
  reportingPeriodEnd := 86400000000
  currency := "USD"
  status := "active"
  figures := ()

/-- Two reports to one endpoint, each up to its place in the queue. -/
def bothQueued : List (DeliveryEvent Unit) :=
  let configs : List PushConfig := [{ url := "https://buyer.example/hook" }]
  [.began (sampleReport "mb_1") 0, .began (sampleReport "mb_2") 0] ++
    [0, 1].flatMap (fun i => [.moved i (.read configs), .moved i .look, .moved i .create,
      .moved i .fetch, .moved i (.ask 0), .moved i (.enqueue "key" 0)])

/-- Both take off and deliver; the delivery of the second report fails. -/
def bothConclude
    (first second : Nat)
    (deliveredBy : Nat) : List (DeliveryEvent Unit) :=
  [.moved first .dequeue, .moved second .dequeue] ++
    [0, 1].flatMap (fun i =>
      [.moved i (.deliver (some ⟨if i = deliveredBy then .delivered else .exhausted, 3,
          none, none, none⟩)), .moved i (.conclude true 0), .moved i .look])

/-- In turn, the first call says that its report was delivered. -/
theorem attributed_two_calls :
    ∃ s, Run (Restrict (DeliveryStep samplePolicy) (fun s e => orderly s e = true)) {}
        (bothQueued ++ bothConclude 0 1 0) s ∧
      Attributed s := by
  have hruns : (performed samplePolicy orderly (bothQueued ++ bothConclude 0 1 0) {}).isSome =
      true := by
    decide +kernel
  obtain ⟨s, hs⟩ := Option.isSome_iff_exists.mp hruns
  exact ⟨s, run_of_performed hs, attributed_in_turn (run_of_performed hs)⟩

/-- Out of turn, each call concludes about the webhook of the other one. -/
theorem swapped_conclusions :
    ∃ s, Run (Restrict (DeliveryStep samplePolicy) (fun _ e => calm e = true)) {}
        (bothQueued ++ bothConclude 1 0 1) s ∧
      ¬ Attributed s := by
  have hruns : (performed samplePolicy (fun _ e => calm e)
      (bothQueued ++ bothConclude 1 0 1) {}).map (fun s => s.calls.map (fun call =>
        call.conclusions.map (fun c => (c.own.ticket, c.taken.ticket)))) =
      some [[(0, 1)], [(1, 0)]] := by
    decide +kernel
  obtain ⟨s, hs, hcalls⟩ := Option.map_eq_some_iff.mp hruns
  refine ⟨s, run_of_performed hs, fun h => ?_⟩
  obtain ⟨call, hcall, hconclusions⟩ := List.mem_map.mp (hcalls ▸ List.mem_cons_self)
  obtain ⟨c, hc, htickets⟩ := List.mem_map.mp (hconclusions ▸ List.mem_cons_self)
  have htaken := (h.conclusions call hcall c hc).taken
  rw [htaken] at htickets
  cases (Prod.mk.inj htickets).1.symm.trans (Prod.mk.inj htickets).2

end Samples

end Webhooks
end SalesAgent
