import SalesAgent.Database.Effects

/-!
# Nests of units of work

A nest is a unit that no other encloses, with the units opened inside it.  A unit opened
while the thread still has the session of the one around it shares that session; a later
one has its own.

**Results.**
* `exec_flat`: what a block without units does to its session.
* `exec_committing`: what work leaves whose units all commit.
* `exec_uncommitted`: what work leaves of which no unit commits.
* `lawful_of_uniform`: when writes, effects and outbound calls obey the law.
-/

namespace SalesAgent
namespace Database

universe u v

section Flat

variable {ω : Type u} {κ : Type v} {sid : Nat}

/-- The session `sid` replaced, and calls made. -/
def Thread.become
    (t : Thread ω κ)
    (sid : Nat)
    (s : Session ω)
    (made : List κ) : Thread ω κ :=
  { t with
    sessions := Function.update t.sessions sid s
    performed := t.performed ++ made }

@[simp] theorem Thread.become_session
    (t : Thread ω κ)
    (s : Session ω)
    (made : List κ) :
    (t.become sid s made).sessions sid = s := by
  simp [Thread.become]

@[simp] theorem Thread.become_become
    (t : Thread ω κ)
    (s s' : Session ω)
    (made made' : List κ) :
    (t.become sid s made).become sid s' made' = t.become sid s' (made ++ made') := by
  simp [Thread.become]

theorem Thread.become_self
    (t : Thread ω κ) :
    t.become sid (t.sessions sid) [] = t := by
  simp [Thread.become]

theorem Thread.onSession_eq
    (t : Thread ω κ)
    (change : Session ω → Session ω) :
    t.onSession sid change = t.become sid (change (t.sessions sid)) [] := by
  simp [Thread.onSession, Thread.become]

/-- A session that can be written to, under the scope of the unit that writes. -/
structure Session.Under
    (s : Session ω)
    (scope : EffectScope)
    (below : List EffectScope) : Prop where
  scopes : s.scopes = scope :: below
  unblocked : s.blocked = false

/-- The session after work that adds these writes and effects to it. -/
def Session.extended
    (s : Session ω)
    (scope : EffectScope)
    (below : List EffectScope)
    (writes : List ω)
    (effects : List DeferredEffect) : Session ω :=
  { s with
    pending := s.pending ++ writes
    scopes := { scope with queue := scope.queue ++ effects } :: below }

theorem Session.Under.become_extended
    {t : Thread ω κ} {scope : EffectScope} {below : List EffectScope}
    (h : (t.sessions sid).Under scope below)
    (writes : List ω)
    (effects : List DeferredEffect)
    {made : List κ} :
    ((t.become sid ((t.sessions sid).extended scope below writes effects) made).sessions sid).Under
      { scope with queue := scope.queue ++ effects } below := by
  rw [Thread.become_session]
  exact ⟨rfl, h.unblocked⟩

/-- A savepoint keeps what its block added, or takes it back. -/
theorem Session.Under.endSavepoint_extended
    {s : Session ω} {scope : EffectScope} {below : List EffectScope}
    (h : s.Under scope below)
    (raised : Bool)
    {writes : List ω} {effects : List DeferredEffect} :
    (s.beginNested.extended scope below writes effects).endSavepoint s.captureScope raised =
      s.extended scope below (if raised then [] else writes)
        (if raised then [] else effects) := by
  have hcapture : s.captureScope = some (below.length, scope.queue.length) := by
    simp [Session.captureScope, h.scopes]
  rw [hcapture]
  cases raised
  · simp [Session.endSavepoint, Session.endNested, Session.extended, Session.beginNested,
      h.unblocked]
  · simp [Session.endSavepoint, Session.endNested, Session.extended, Session.beginNested,
      Session.truncateScope, h.unblocked]

/-- A block without units writes to its session and queues in the scope on top, and a
savepoint that rolls back takes both back. -/
theorem exec_flat
    {p : Work ω κ}
    (hflat : Flat p)
    {t : Thread ω κ} {scope : EffectScope} {below : List EffectScope}
    (hunder : (t.sessions sid).Under scope below) :
    exec sid p t =
      t.become sid ((t.sessions sid).extended scope below (survivors p) (queued p))
        (calls (scope :: below |>.any (·.preview)) p) := by
  induction p generalizing t scope with
  | done =>
      have hsame : (t.sessions sid).extended scope below [] [] = t.sessions sid := by
        simp [Session.extended, ← hunder.scopes]
      simp only [exec, survivors, queued, calls, hsame]
      exact t.become_self.symm
  | write w rest ih =>
      have hwritten : t.onSession sid (Session.write w) =
          t.become sid ((t.sessions sid).extended scope below [w] []) [] := by
        rw [Thread.onSession_eq]
        simp [Session.write, Session.extended, hunder.unblocked, ← hunder.scopes]
      simp only [exec, hwritten]
      rw [ih hflat (hunder.become_extended [w] [])]
      simp [Session.extended, survivors, queued, calls]
  | afterCommit e rest ih =>
      have hqueued : t.onSession sid (Session.registerAfterCommit e) =
          t.become sid ((t.sessions sid).extended scope below [] [e]) [] := by
        rw [Thread.onSession_eq]
        simp [Session.registerAfterCommit, Session.extended, hunder.scopes]
      simp only [exec, hqueued]
      rw [ih hflat (hunder.become_extended [] [e])]
      simp [Session.extended, survivors, queued, calls]
  | outbound call rest ih =>
      have hcalled : t.outbound sid call =
          t.become sid ((t.sessions sid).extended scope below [] [])
            (if (scope :: below).any (·.preview) then [] else [call]) := by
        have hsame : (t.sessions sid).extended scope below [] [] = t.sessions sid := by
          simp [Session.extended, ← hunder.scopes]
        rw [hsame]
        unfold Thread.outbound Session.isPreview
        rw [hunder.scopes]
        split
        · exact t.become_self.symm
        · simp [Thread.become]
      simp only [exec, hcalled]
      rw [ih hflat (hunder.become_extended [] [])]
      cases hpreview : (scope :: below).any (·.preview) with
      | false =>
          have hlive : (scope.preview || below.any (·.preview)) = false := hpreview
          simp [Session.extended, survivors, queued, calls, hlive]
      | true =>
          have hsuppressed : (scope.preview || below.any (·.preview)) = true := hpreview
          simp [Session.extended, survivors, queued, calls, hsuppressed]
  | savepoint body raised rest ihBody ihRest =>
      have hbegun : t.onSession sid Session.beginNested =
          t.become sid (Session.beginNested (t.sessions sid)) [] := t.onSession_eq _
      have hnested : ((t.onSession sid Session.beginNested).sessions sid).Under scope below := by
        rw [hbegun, Thread.become_session]
        exact ⟨hunder.scopes, hunder.unblocked⟩
      simp only [exec, hunder.unblocked, Bool.false_eq_true, if_false]
      rw [ihBody hflat.1 hnested, hbegun, Thread.become_session, Thread.become_become,
        Thread.onSession_eq, Thread.become_session, Thread.become_become,
        hunder.endSavepoint_extended raised]
      rw [ihRest hflat.2 (hunder.become_extended _ _)]
      cases raised
      · simp [Session.extended, survivors, queued, calls]
      · simp [Session.extended, survivors, queued, calls]
  | unit preview body exit rest _ _ => exact hflat.elim

end Flat

section Nests

variable {ω : Type u} {κ : Type v} {sid : Nat} {t t' : Thread ω κ}

/-- The thread between two units: the sessions it has not used are new. -/
structure Outside
    (t : Thread ω κ) : Prop where
  registry : t.registry = none
  fresh : ∀ id, t.next ≤ id → t.sessions id = {}

/-- The thread in the block of a unit, outside its savepoints. -/
structure Inside
    (sid : Nat)
    (t : Thread ω κ) : Prop where
  registry : t.registry = none ∨ t.registry = some sid
  known : sid < t.next
  fresh : ∀ id, t.next ≤ id → t.sessions id = {}
  marks : (t.sessions sid).marks = []
  unblocked : (t.sessions sid).blocked = false

/-- What a unit that no other encloses leaves. -/
structure UnitDone
    (unit : UnitCall ω κ)
    (t t' : Thread ω κ) : Prop where
  outside : Outside t'
  writes : t'.durable.Perm (t.durable ++ survivors unit.work)
  effects : t'.ran = t.ran ++ released unit.work
  outbound : t'.performed = t.performed ++ calls false unit.work
  next : t.next ≤ t'.next
  others : ∀ id, id < t.next → t'.sessions id = t.sessions id

theorem closeSession_eq
    (hregistry : t.registry = none ∨ t.registry = some sid)
    (hmarks : (t.sessions sid).marks = []) :
    t.closeSession sid =
      { t.become sid { scopes := (t.sessions sid).scopes } [] with registry := none } := by
  unfold Thread.closeSession
  rcases hregistry with hnone | hsome
  · simp [Thread.onSession, Thread.become, Session.endTransaction, hmarks, hnone]
  · simp [Thread.onSession, Thread.become, Session.endTransaction, hmarks, hsome]

theorem drained_eq
    {es : List DeferredEffect}
    (h : ∀ e ∈ es.dropLast, e.stops = false) :
    Thread.drained es = es := by
  induction es with
  | nil => rfl
  | cons e es ih =>
      cases es with
      | nil =>
          unfold Thread.drained
          split <;> rfl
      | cons e' es =>
          have hhead : e.stops = false := h e (by simp)
          have htail : Thread.drained (e' :: es) = e' :: es :=
            ih (fun x hx => h x (by rw [List.dropLast_cons_cons]; exact List.mem_cons_of_mem _ hx))
          unfold Thread.drained
          rw [hhead, htail]
          rfl

/-- A commit that succeeds makes the writes of the session durable and runs the queue. -/
theorem exitUnit_clean
    (hinside : Inside sid t)
    {scope : EffectScope} {below : List EffectScope}
    (hscopes : (t.sessions sid).scopes = scope :: below)
    (hdrains : ∀ e ∈ scope.queue.dropLast, e.stops = false) :
    t.exitUnit sid false .clean =
      { t.become sid { scopes := below } [] with
        registry := none
        durable := t.durable ++ (t.sessions sid).pending
        ran := t.ran ++ scope.queue } := by
  unfold Thread.exitUnit
  simp only [Bool.not_false, ne_eq, reduceCtorEq, not_false_eq_true, decide_true, Bool.and_self,
    if_true, hinside.unblocked]
  have hclosed := closeSession_eq
    (t := { t with durable := t.durable ++ (t.sessions sid).pending })
    hinside.registry hinside.marks
  rw [hclosed]
  simp [Thread.drainAfterCommit, Thread.onSession, Thread.become, Session.endEffects, hscopes,
    drained_eq hdrains]

/-- What work whose units all commit leaves: its own writes wait with those of the
session, the ones of its units are durable, and their effects have run. -/
structure Committed
    (sid : Nat)
    (p : Work ω κ)
    (scope : EffectScope)
    (below : List EffectScope)
    (t t' : Thread ω κ) : Prop where
  inside : Inside sid t'
  scopes : (t'.sessions sid).scopes = { scope with queue := scope.queue ++ queued p } :: below
  writes : (t'.durable ++ (t'.sessions sid).pending).Perm
    (t.durable ++ (t.sessions sid).pending ++ survivors p)
  effects : t'.ran = t.ran ++ released p
  outbound : t'.performed = t.performed ++ calls false p
  next : t.next ≤ t'.next
  others : ∀ id, id < t.next → id ≠ sid → t'.sessions id = t.sessions id

/-- The work leaves that wherever it is done under live scopes. -/
def CommitsAs
    (p : Work ω κ) : Prop :=
  ∀ sid (t : Thread ω κ) scope below, Inside sid t →
    (t.sessions sid).scopes = scope :: below → (scope :: below).any (·.preview) = false →
    Committed sid p scope below t (exec sid p t)

/-- The work `r` is `p` and then `q`. -/
structure Sequence
    (p q r : Work ω κ) : Prop where
  exec : ∀ sid (t : Thread ω κ), exec sid r t = exec sid q (exec sid p t)
  survivors : survivors r = survivors p ++ survivors q
  queued : queued r = queued p ++ queued q
  released : released r = released p ++ released q
  calls : ∀ preview, calls preview r = calls preview p ++ calls preview q

theorem CommitsAs.sequence
    {p q r : Work ω κ}
    (hseq : Sequence p q r)
    (hp : CommitsAs p)
    (hq : CommitsAs q) :
    CommitsAs r := by
  intro sid t scope below hinside hscopes hlive
  have hfirst := hp sid t scope below hinside hscopes hlive
  have hsecond := hq sid (exec sid p t) _ below hfirst.inside hfirst.scopes hlive
  rw [hseq.exec]
  refine ⟨hsecond.inside, ?_, ?_, ?_, ?_, Nat.le_trans hfirst.next hsecond.next, ?_⟩
  · rw [hsecond.scopes, hseq.queued, List.append_assoc]
  · refine hsecond.writes.trans ?_
    rw [hseq.survivors, ← List.append_assoc]
    exact hfirst.writes.append_right _
  · rw [hsecond.effects, hfirst.effects, hseq.released, List.append_assoc]
  · rw [hsecond.outbound, hfirst.outbound, hseq.calls, List.append_assoc]
  · intro id hid hne
    rw [hsecond.others id (Nat.lt_of_lt_of_le hid hfirst.next) hne, hfirst.others id hid hne]

theorem released_of_flat
    {p : Work ω κ}
    (hflat : Flat p) :
    released p = [] := by
  induction p with
  | done => rfl
  | write _ _ ih => exact ih hflat
  | afterCommit _ _ ih => exact ih hflat
  | outbound _ _ ih => exact ih hflat
  | savepoint body raised rest ihBody ihRest =>
      simp [released, ihBody hflat.1, ihRest hflat.2]
  | unit => exact hflat.elim

theorem Inside.become
    (h : Inside sid t)
    {s : Session ω}
    (hmarks : s.marks = [])
    (hunblocked : s.blocked = false)
    {made : List κ} :
    Inside sid (t.become sid s made) := by
  refine ⟨h.registry, h.known, ?_, by simpa using hmarks, by simpa using hunblocked⟩
  intro id hid
  have hne : id ≠ sid := Nat.ne_of_gt (Nat.lt_of_lt_of_le h.known hid)
  simp only [Thread.become, Function.update_of_ne hne]
  exact h.fresh id hid

theorem commitsAs_of_flat
    {p : Work ω κ}
    (hflat : Flat p) :
    CommitsAs p := by
  intro sid t scope below hinside hscopes hlive
  rw [exec_flat hflat ⟨hscopes, hinside.unblocked⟩, hlive]
  have hmarks : ((t.sessions sid).extended scope below (survivors p) (queued p)).marks = [] :=
    hinside.marks
  refine ⟨hinside.become hmarks hinside.unblocked, ?_, ?_, ?_, rfl, Nat.le_refl _, ?_⟩
  · simp [Session.extended]
  · simp [Session.extended, Thread.become]
  · simp [Thread.become, released_of_flat hflat]
  · intro id _ hne
    simp [Thread.become, Function.update_of_ne hne]

theorem ending_eq_commits
    {preview : Bool} {exit : UnitExit} :
    ending preview exit = .commits ↔ preview = false ∧ exit = .clean := by
  cases preview <;> cases exit <;> simp [ending]

@[simp] theorem enterUnit_durable
    (preview : Bool) :
    (t.enterUnit preview).durable = t.durable :=
  rfl

@[simp] theorem enterUnit_ran
    (preview : Bool) :
    (t.enterUnit preview).ran = t.ran :=
  rfl

@[simp] theorem enterUnit_performed
    (preview : Bool) :
    (t.enterUnit preview).performed = t.performed :=
  rfl

theorem enterUnit_outside
    (houtside : Outside t)
    (preview : Bool) :
    t.enterUnit preview =
      { t.become t.next { scopes := [{ preview := preview }] } [] with
        registry := some t.next
        next := t.next + 1 } := by
  simp [Thread.enterUnit, Thread.scopedSession, Thread.onSession, Thread.become,
    Session.beginEffects, houtside.registry, houtside.fresh t.next (Nat.le_refl _)]

theorem inside_of_outside
    (houtside : Outside t)
    (preview : Bool) :
    Inside t.next (t.enterUnit preview) ∧
      ((t.enterUnit preview).sessions t.next).scopes = [{ preview := preview }] ∧
      ((t.enterUnit preview).sessions t.next).pending = [] := by
  rw [enterUnit_outside houtside]
  refine ⟨⟨.inr rfl, Nat.lt_succ_self _, ?_, ?_, ?_⟩, ?_, ?_⟩
  · intro id hid
    have hne : id ≠ t.next := Nat.ne_of_gt hid
    simp only [Thread.become, Function.update_of_ne hne]
    exact houtside.fresh id (Nat.le_of_succ_le hid)
  all_goals simp [Thread.become]

theorem enterUnit_shared
    (hregistry : t.registry = some sid)
    (preview : Bool) :
    t.enterUnit preview = t.become sid ((t.sessions sid).beginEffects preview) [] := by
  simp [Thread.enterUnit, Thread.scopedSession, Thread.onSession, Thread.become, hregistry]

theorem unitDone_of_commitsAs
    {body : Work ω κ}
    (hbody : CommitsAs body)
    (hdrains : ∀ e ∈ (queued body).dropLast, e.stops = false)
    (houtside : Outside t) :
    UnitDone ⟨false, body, .clean⟩ t (execUnit t ⟨false, body, .clean⟩) := by
  obtain ⟨hinside, hscopes, hpending⟩ := inside_of_outside houtside false
  have hdone := hbody t.next (t.enterUnit false) _ [] hinside hscopes rfl
  have hsession : t.scopedSession = t.next := by simp [Thread.scopedSession, houtside.registry]
  unfold execUnit
  simp only [hsession]
  rw [exitUnit_clean hdone.inside hdone.scopes (by simpa using hdrains)]
  have hentered := enterUnit_outside houtside false
  refine ⟨⟨rfl, ?_⟩, ?_, ?_, ?_, ?_, ?_⟩
  · intro id hid
    have hne : id ≠ t.next := Nat.ne_of_gt (Nat.lt_of_lt_of_le hdone.inside.known hid)
    simp only [Thread.become, Function.update_of_ne hne]
    exact hdone.inside.fresh id hid
  · have hwrites := hdone.writes
    rw [hpending, List.append_nil] at hwrites
    simpa [UnitCall.work, survivors, ending] using hwrites
  · simp [UnitCall.work, released, ending, hdone.effects]
  · simp [UnitCall.work, calls, Thread.become, hdone.outbound]
  · have hnext : (t.enterUnit false).next = t.next + 1 := by rw [hentered]
    have hgrown := hdone.next
    rw [hnext] at hgrown
    exact Nat.le_of_succ_le hgrown
  · intro id hid
    have hne : id ≠ t.next := Nat.ne_of_lt hid
    have hknown : id < (t.enterUnit false).next := by
      rw [hentered]
      exact Nat.lt_succ_of_lt hid
    simp only [Thread.become, Function.update_of_ne hne]
    rw [hdone.others id hknown hne, hentered]
    simp [Thread.become, Function.update_of_ne hne]

theorem committed_of_shared
    {body : Work ω κ} {scope : EffectScope} {below : List EffectScope}
    (hbody : CommitsAs body)
    (hdrains : ∀ e ∈ (queued body).dropLast, e.stops = false)
    (hinside : Inside sid t)
    (hregistry : t.registry = some sid)
    (hscopes : (t.sessions sid).scopes = scope :: below)
    (hlive : (scope :: below).any (·.preview) = false) :
    Committed sid (.unit false body .clean .done) scope below t
      (execUnit t ⟨false, body, .clean⟩) := by
  have hentered := enterUnit_shared hregistry false
  have hinside' : Inside sid (t.enterUnit false) := by
    have hmarks : ((t.sessions sid).beginEffects false).marks = [] := hinside.marks
    rw [hentered]
    exact hinside.become hmarks hinside.unblocked
  have hscopes' : ((t.enterUnit false).sessions sid).scopes =
      { preview := false } :: scope :: below := by
    rw [hentered, Thread.become_session, Session.beginEffects, hscopes]
  have hdone := hbody sid (t.enterUnit false) _ _ hinside' hscopes' (by simpa using hlive)
  have hsession : t.scopedSession = sid := by simp [Thread.scopedSession, hregistry]
  unfold execUnit
  simp only [hsession]
  rw [exitUnit_clean hdone.inside hdone.scopes (by simpa using hdrains)]
  refine ⟨⟨.inl rfl, ?_, ?_, ?_, ?_⟩, ?_, ?_, ?_, ?_, ?_, ?_⟩
  · exact hdone.inside.known
  · intro id hid
    have hne : id ≠ sid := Nat.ne_of_gt (Nat.lt_of_lt_of_le hdone.inside.known hid)
    simp only [Thread.become, Function.update_of_ne hne]
    exact hdone.inside.fresh id hid
  · simp [Thread.become]
  · simp [Thread.become]
  · simp [Thread.become, queued]
  · have hwrites := hdone.writes
    have hpending : ((t.enterUnit false).sessions sid).pending = (t.sessions sid).pending := by
      rw [hentered, Thread.become_session]
      rfl
    rw [hpending] at hwrites
    simpa [survivors, ending, Thread.become] using hwrites
  · simp [released, ending, hdone.effects]
  · simp [calls, Thread.become, hdone.outbound]
  · have hnext : (t.enterUnit false).next = t.next := by
      rw [hentered]
      rfl
    have hgrown := hdone.next
    rw [hnext] at hgrown
    exact hgrown
  · intro id hid hne
    have hknown : id < (t.enterUnit false).next := by
      rw [hentered]
      exact hid
    simp only [Thread.become, Function.update_of_ne hne]
    rw [hdone.others id hknown hne, hentered]
    simp [Thread.become, Function.update_of_ne hne]

theorem committed_of_fresh
    {body : Work ω κ} {scope : EffectScope} {below : List EffectScope}
    (hinside : Inside sid t)
    (hscopes : (t.sessions sid).scopes = scope :: below)
    (hdone : UnitDone ⟨false, body, .clean⟩ t t') :
    Committed sid (.unit false body .clean .done) scope below t t' := by
  have hsame := hdone.others sid hinside.known
  refine ⟨⟨.inl hdone.outside.registry, Nat.lt_of_lt_of_le hinside.known hdone.next,
    hdone.outside.fresh, ?_, ?_⟩, ?_, ?_, hdone.effects, hdone.outbound, hdone.next,
    fun id hid _ => hdone.others id hid⟩
  · rw [hsame]
    exact hinside.marks
  · rw [hsame]
    exact hinside.unblocked
  · rw [hsame, hscopes]
    simp [queued]
  · rw [hsame]
    refine (hdone.writes.append_right _).trans ?_
    rw [List.append_assoc, List.append_assoc]
    exact (List.perm_append_comm).append_left _

/-- Work whose units all commit, none of them in a savepoint. -/
theorem exec_committing
    {p : Work ω κ}
    (hunits : UnitsEnd .commits p)
    (hsavepoints : FlatSavepoints p)
    (hdrains : DrainsAll p) :
    CommitsAs p := by
  induction p with
  | done => exact commitsAs_of_flat trivial
  | write w rest ih =>
      refine .sequence (p := .write w .done) (q := rest) ?_ (commitsAs_of_flat trivial)
        (ih hunits hsavepoints hdrains)
      constructor <;> intros <;> simp [exec, survivors, queued, released, calls]
  | afterCommit e rest ih =>
      refine .sequence (p := .afterCommit e .done) (q := rest) ?_ (commitsAs_of_flat trivial)
        (ih hunits hsavepoints hdrains)
      constructor <;> intros <;> simp [exec, survivors, queued, released, calls]
  | outbound call rest ih =>
      refine .sequence (p := .outbound call .done) (q := rest) ?_ (commitsAs_of_flat trivial)
        (ih hunits hsavepoints hdrains)
      constructor <;> intros <;> simp [exec, survivors, queued, released, calls]
      split <;> simp
  | savepoint body raised rest _ ih =>
      refine .sequence (p := .savepoint body raised .done) (q := rest) ?_
        (commitsAs_of_flat ⟨hsavepoints.1, trivial⟩) (ih hunits.2 hsavepoints.2 hdrains.2)
      constructor <;> intros <;> simp [exec, survivors, queued, released, calls]
      split <;> rfl
  | unit preview body exit rest ihBody ihRest =>
      obtain ⟨rfl, rfl⟩ := ending_eq_commits.mp hunits.1
      have hbody := ihBody hunits.2.1 hsavepoints.1 hdrains.2.1
      have hqueue := hdrains.1 hunits.1
      refine .sequence (p := .unit false body .clean .done) (q := rest) ?_ ?_
        (ihRest hunits.2.2 hsavepoints.2 hdrains.2.2)
      · constructor <;> intros <;> simp [exec, survivors, queued, released, calls]
      · intro sid t scope below hinside hscopes hlive
        rcases hinside.registry with hnone | hsome
        · exact committed_of_fresh hinside hscopes
            (unitDone_of_commitsAs hbody hqueue ⟨hnone, hinside.fresh⟩)
        · exact committed_of_shared hbody hqueue hinside hsome hscopes hlive

/-- What work leaves in a nest of which no unit commits, where the units are all
previews or all live. -/
structure Uncommitted
    (preview : Bool)
    (sid : Nat)
    (p : Work ω κ)
    (t t' : Thread ω κ) : Prop where
  inside : Inside sid t'
  scopes : ∀ scope ∈ (t'.sessions sid).scopes, scope.preview = preview
  depth : (t.sessions sid).scopes.length ≤ (t'.sessions sid).scopes.length
  writes : t'.durable.Perm t.durable
  effects : t'.ran = t.ran
  outbound : t'.performed = t.performed ++ calls preview p
  next : t.next ≤ t'.next
  others : ∀ id, id < t.next → id ≠ sid → t'.sessions id = t.sessions id

/-- The work leaves that wherever it is done under scopes of that kind. -/
def RollsBackAs
    (preview : Bool)
    (p : Work ω κ) : Prop :=
  ∀ sid (t : Thread ω κ), Inside sid t → 0 < (t.sessions sid).scopes.length →
    (∀ scope ∈ (t.sessions sid).scopes, scope.preview = preview) →
    Uncommitted preview sid p t (exec sid p t)

theorem RollsBackAs.sequence
    {preview : Bool} {p q r : Work ω κ}
    (hseq : Sequence p q r)
    (hp : RollsBackAs preview p)
    (hq : RollsBackAs preview q) :
    RollsBackAs preview r := by
  intro sid t hinside hdepth hscopes
  have hfirst := hp sid t hinside hdepth hscopes
  have hsecond := hq sid (exec sid p t) hfirst.inside (Nat.lt_of_lt_of_le hdepth hfirst.depth)
    hfirst.scopes
  rw [hseq.exec]
  refine ⟨hsecond.inside, hsecond.scopes, Nat.le_trans hfirst.depth hsecond.depth,
    hsecond.writes.trans hfirst.writes, hsecond.effects.trans hfirst.effects, ?_,
    Nat.le_trans hfirst.next hsecond.next, ?_⟩
  · rw [hsecond.outbound, hfirst.outbound, hseq.calls, List.append_assoc]
  · intro id hid hne
    rw [hsecond.others id (Nat.lt_of_lt_of_le hid hfirst.next) hne, hfirst.others id hid hne]

theorem rollsBackAs_of_flat
    {preview : Bool} {p : Work ω κ}
    (hflat : Flat p) :
    RollsBackAs preview p := by
  intro sid t hinside hdepth hkind
  obtain ⟨scope, below, hscopes⟩ := List.exists_cons_of_length_pos hdepth
  have hpreview : (scope :: below).any (·.preview) = preview := by
    rw [hscopes] at hkind
    cases preview
    · simpa using hkind
    · simp [hkind scope List.mem_cons_self]
  rw [exec_flat hflat ⟨hscopes, hinside.unblocked⟩, hpreview]
  have hmarks : ((t.sessions sid).extended scope below (survivors p) (queued p)).marks = [] :=
    hinside.marks
  refine ⟨hinside.become hmarks hinside.unblocked, ?_, ?_, .refl _, rfl, rfl, Nat.le_refl _, ?_⟩
  · rw [hscopes] at hkind
    simpa [Session.extended] using hkind
  · simp [Session.extended, hscopes]
  · intro id _ hne
    simp [Thread.become, Function.update_of_ne hne]

theorem exitUnit_uncommitted
    {preview : Bool} {exit : UnitExit}
    (hinside : Inside sid t)
    (hending : ending preview exit ≠ .commits) :
    ∃ scopes, t.exitUnit sid preview exit =
        { t.become sid { scopes := scopes } [] with registry := none } ∧
      (scopes = (t.sessions sid).scopes ∨ scopes = (t.sessions sid).scopes.tail) := by
  have hclosed := closeSession_eq hinside.registry hinside.marks
  have hpopped : (t.closeSession sid).onSession sid Session.endEffects =
      { t.become sid { scopes := (t.sessions sid).scopes.tail } [] with registry := none } := by
    rw [hclosed]
    simp [Thread.onSession, Thread.become, Session.endEffects]
  cases preview with
  | true => exact ⟨_, by simpa [Thread.exitUnit] using hpopped, .inr rfl⟩
  | false =>
      cases exit with
      | clean => exact absurd rfl hending
      | commitFails => exact ⟨_, by simpa [Thread.exitUnit] using hclosed, .inl rfl⟩
      | raised => exact ⟨_, by simpa [Thread.exitUnit] using hpopped, .inr rfl⟩

theorem unitDone_of_rollsBackAs
    {preview : Bool} {body : Work ω κ} {exit : UnitExit}
    (hbody : RollsBackAs preview body)
    (hending : ending preview exit ≠ .commits)
    (houtside : Outside t) :
    UnitDone ⟨preview, body, exit⟩ t (execUnit t ⟨preview, body, exit⟩) := by
  obtain ⟨hinside, hscopes, -⟩ := inside_of_outside houtside preview
  have hdone := hbody t.next (t.enterUnit preview) hinside (by simp [hscopes])
    (by simp [hscopes])
  have hsession : t.scopedSession = t.next := by simp [Thread.scopedSession, houtside.registry]
  have hentered := enterUnit_outside houtside preview
  obtain ⟨scopes, hexit, -⟩ := exitUnit_uncommitted hdone.inside hending
  unfold execUnit
  simp only [hsession, hexit]
  refine ⟨⟨rfl, ?_⟩, ?_, ?_, ?_, ?_, ?_⟩
  · intro id hid
    have hne : id ≠ t.next := Nat.ne_of_gt (Nat.lt_of_lt_of_le hdone.inside.known hid)
    simp only [Thread.become, Function.update_of_ne hne]
    exact hdone.inside.fresh id hid
  · simpa [UnitCall.work, survivors, hending, Thread.become] using hdone.writes
  · simp [UnitCall.work, released, hending, hdone.effects, Thread.become]
  · simp [UnitCall.work, calls, Thread.become, hdone.outbound]
  · have hnext : (t.enterUnit preview).next = t.next + 1 := by rw [hentered]
    have hgrown := hdone.next
    rw [hnext] at hgrown
    exact Nat.le_of_succ_le hgrown
  · intro id hid
    have hne : id ≠ t.next := Nat.ne_of_lt hid
    have hknown : id < (t.enterUnit preview).next := by
      rw [hentered]
      exact Nat.lt_succ_of_lt hid
    simp only [Thread.become, Function.update_of_ne hne]
    rw [hdone.others id hknown hne, hentered]
    simp [Thread.become, Function.update_of_ne hne]

theorem uncommitted_of_shared
    {preview : Bool} {body : Work ω κ} {exit : UnitExit}
    (hbody : RollsBackAs preview body)
    (hending : ending preview exit ≠ .commits)
    (hinside : Inside sid t)
    (hregistry : t.registry = some sid)
    (hdepth : 0 < (t.sessions sid).scopes.length)
    (hkind : ∀ scope ∈ (t.sessions sid).scopes, scope.preview = preview) :
    Uncommitted preview sid (.unit preview body exit .done) t
      (execUnit t ⟨preview, body, exit⟩) := by
  have hentered := enterUnit_shared hregistry preview
  have hinside' : Inside sid (t.enterUnit preview) := by
    have hmarks : ((t.sessions sid).beginEffects preview).marks = [] := hinside.marks
    rw [hentered]
    exact hinside.become hmarks hinside.unblocked
  have hscopes : ((t.enterUnit preview).sessions sid).scopes =
      { preview := preview } :: (t.sessions sid).scopes := by
    rw [hentered, Thread.become_session]
    rfl
  have hdone := hbody sid (t.enterUnit preview) hinside' (by simp [hscopes])
    (by simpa [hscopes] using hkind)
  have hsession : t.scopedSession = sid := by simp [Thread.scopedSession, hregistry]
  obtain ⟨scopes, hexit, hleft⟩ := exitUnit_uncommitted hdone.inside hending
  unfold execUnit
  simp only [hsession, hexit]
  have hgrew := hdone.depth
  rw [hscopes, List.length_cons] at hgrew
  refine ⟨⟨.inl rfl, hdone.inside.known, ?_, ?_, ?_⟩, ?_, ?_, hdone.writes, hdone.effects, ?_, ?_,
    ?_⟩
  · intro id hid
    have hne : id ≠ sid := Nat.ne_of_gt (Nat.lt_of_lt_of_le hdone.inside.known hid)
    simp only [Thread.become, Function.update_of_ne hne]
    exact hdone.inside.fresh id hid
  · simp [Thread.become]
  · simp [Thread.become]
  · intro scope hscope
    have hmem : scope ∈ scopes := by simpa [Thread.become] using hscope
    rcases hleft with rfl | rfl
    · exact hdone.scopes scope hmem
    · exact hdone.scopes scope (List.mem_of_mem_tail hmem)
  · have hlength : (t.sessions sid).scopes.length ≤ scopes.length := by
      rcases hleft with rfl | rfl
      · omega
      · rw [List.length_tail]
        omega
    simpa [Thread.become] using hlength
  · simp [calls, Thread.become, hdone.outbound]
  · have hnext : (t.enterUnit preview).next = t.next := by
      rw [hentered]
      rfl
    have hgrown := hdone.next
    rw [hnext] at hgrown
    exact hgrown
  · intro id hid hne
    have hknown : id < (t.enterUnit preview).next := by
      rw [hentered]
      exact hid
    simp only [Thread.become, Function.update_of_ne hne]
    rw [hdone.others id hknown hne, hentered]
    simp [Thread.become, Function.update_of_ne hne]

theorem uncommitted_of_fresh
    {preview : Bool} {body : Work ω κ} {exit : UnitExit}
    (hending : ending preview exit ≠ .commits)
    (hinside : Inside sid t)
    (hkind : ∀ scope ∈ (t.sessions sid).scopes, scope.preview = preview)
    (hdone : UnitDone ⟨preview, body, exit⟩ t t') :
    Uncommitted preview sid (.unit preview body exit .done) t t' := by
  have hsame := hdone.others sid hinside.known
  refine ⟨⟨.inl hdone.outside.registry, Nat.lt_of_lt_of_le hinside.known hdone.next,
    hdone.outside.fresh, ?_, ?_⟩, ?_, ?_, ?_, ?_, ?_, hdone.next,
    fun id hid _ => hdone.others id hid⟩
  · rw [hsame]
    exact hinside.marks
  · rw [hsame]
    exact hinside.unblocked
  · rw [hsame]
    exact hkind
  · exact Nat.le_of_eq (by rw [hsame])
  · simpa [UnitCall.work, survivors, hending] using hdone.writes
  · simpa [UnitCall.work, released, hending] using hdone.effects
  · simpa [UnitCall.work, calls] using hdone.outbound

theorem preview_of_ending
    {preview : Bool} {exit : UnitExit} {how : Ending}
    (hhow : how ≠ .commits)
    (h : ending preview exit = how) :
    preview = decide (how = .previews) := by
  subst h
  cases preview <;> cases exit <;> simp_all [ending]

/-- Work of which no unit commits and whose units are of one kind, none of them in a
savepoint. -/
theorem exec_uncommitted
    {how : Ending} {p : Work ω κ}
    (hhow : how ≠ .commits)
    (hunits : UnitsEnd how p)
    (hsavepoints : FlatSavepoints p) :
    RollsBackAs (decide (how = .previews)) p := by
  induction p with
  | done => exact rollsBackAs_of_flat trivial
  | write w rest ih =>
      refine .sequence (p := .write w .done) (q := rest) ?_ (rollsBackAs_of_flat trivial)
        (ih hunits hsavepoints)
      constructor <;> intros <;> simp [exec, survivors, queued, released, calls]
  | afterCommit e rest ih =>
      refine .sequence (p := .afterCommit e .done) (q := rest) ?_ (rollsBackAs_of_flat trivial)
        (ih hunits hsavepoints)
      constructor <;> intros <;> simp [exec, survivors, queued, released, calls]
  | outbound call rest ih =>
      refine .sequence (p := .outbound call .done) (q := rest) ?_ (rollsBackAs_of_flat trivial)
        (ih hunits hsavepoints)
      constructor <;> intros <;> simp [exec, survivors, queued, released, calls]
      split <;> simp
  | savepoint body raised rest _ ih =>
      refine .sequence (p := .savepoint body raised .done) (q := rest) ?_
        (rollsBackAs_of_flat ⟨hsavepoints.1, trivial⟩) (ih hunits.2 hsavepoints.2)
      constructor <;> intros <;> simp [exec, survivors, queued, released, calls]
      split <;> rfl
  | unit preview body exit rest ihBody ihRest =>
      obtain ⟨hending, hinner, hrest⟩ := hunits
      have hbody := ihBody hinner hsavepoints.1
      rw [← preview_of_ending hhow hending] at hbody ⊢
      have hnone : ending preview exit ≠ .commits := hending ▸ hhow
      have hafter := ihRest hrest hsavepoints.2
      rw [← preview_of_ending hhow hending] at hafter
      refine .sequence (p := .unit preview body exit .done) (q := rest) ?_ ?_ hafter
      · constructor <;> intros <;> simp [exec, survivors, queued, released, calls]
      · intro sid t hinside hdepth hkind
        rcases hinside.registry with hregistry | hregistry
        · exact uncommitted_of_fresh hnone hinside hkind
            (unitDone_of_rollsBackAs hbody hnone ⟨hregistry, hinside.fresh⟩)
        · exact uncommitted_of_shared hbody hnone hinside hregistry hdepth hkind

theorem durable_of_flat
    (unit : UnitCall ω κ)
    (hflat : Flat unit.body)
    (hdrains : ending unit.preview unit.exit = .commits →
      ∀ e ∈ (queued unit.body).dropLast, e.stops = false)
    (houtside : Outside t) :
    (execUnit t unit).durable = t.durable ++ survivors unit.work := by
  obtain ⟨preview, body, exit⟩ := unit
  obtain ⟨hinside, hscopes, hpending⟩ := inside_of_outside houtside preview
  have hsession : t.scopedSession = t.next := by simp [Thread.scopedSession, houtside.registry]
  have hbody := exec_flat hflat ⟨hscopes, hinside.unblocked⟩
  have hmarks : (((t.enterUnit preview).sessions t.next).extended { preview := preview } []
      (survivors body) (queued body)).marks = [] := hinside.marks
  have hexec : Inside t.next (exec t.next body (t.enterUnit preview)) := by
    rw [hbody]
    exact hinside.become hmarks hinside.unblocked
  unfold execUnit
  simp only [hsession]
  by_cases hcommits : ending preview exit = .commits
  · obtain ⟨rfl, rfl⟩ := ending_eq_commits.mp hcommits
    have hqueue : ((exec t.next body (t.enterUnit false)).sessions t.next).scopes =
        { preview := false, queue := queued body } :: [] := by
      rw [hbody]
      simp [Session.extended]
    rw [exitUnit_clean hexec hqueue (hdrains hcommits), hbody]
    simp [Session.extended, hpending, Thread.become, UnitCall.work, survivors, ending]
  · obtain ⟨scopes, hexit, -⟩ := exitUnit_uncommitted hexec hcommits
    rw [hexit, hbody]
    simp [Thread.become, UnitCall.work, survivors, hcommits]

theorem unitDone_of_flat
    (unit : UnitCall ω κ)
    (hflat : Flat unit.body)
    (hdrains : ending unit.preview unit.exit = .commits →
      ∀ e ∈ (queued unit.body).dropLast, e.stops = false)
    (houtside : Outside t) :
    UnitDone unit t (execUnit t unit) := by
  obtain ⟨preview, body, exit⟩ := unit
  by_cases hcommits : ending preview exit = .commits
  · obtain ⟨rfl, rfl⟩ := ending_eq_commits.mp hcommits
    exact unitDone_of_commitsAs (commitsAs_of_flat hflat) (hdrains hcommits) houtside
  · exact unitDone_of_rollsBackAs (rollsBackAs_of_flat hflat) hcommits houtside

theorem unitDone_of_uniform
    {unit : UnitCall ω κ}
    (huniform : unit.Uniform)
    (houtside : Outside t) :
    UnitDone unit t (execUnit t unit) := by
  obtain ⟨preview, body, exit⟩ := unit
  obtain ⟨halike, hsavepoints, hqueue, hdrains, -⟩ := huniform
  by_cases hcommits : ending preview exit = .commits
  · obtain ⟨rfl, rfl⟩ := ending_eq_commits.mp hcommits
    exact unitDone_of_commitsAs (exec_committing halike hsavepoints hdrains) (hqueue hcommits)
      houtside
  · have hbody := exec_uncommitted hcommits halike hsavepoints
    rw [← preview_of_ending hcommits rfl] at hbody
    exact unitDone_of_rollsBackAs hbody hcommits houtside

/-- The units of a thread one after the other. -/
theorem foldl_execUnit
    {units : List (UnitCall ω κ)}
    (huniform : ∀ unit ∈ units, unit.Uniform)
    (houtside : Outside t) :
    (units.foldl execUnit t).durable.Perm
        (t.durable ++ units.flatMap (fun unit => survivors unit.work)) ∧
      (units.foldl execUnit t).ran =
        t.ran ++ units.flatMap (fun unit => released unit.work) ∧
      (units.foldl execUnit t).performed =
        t.performed ++ units.flatMap (fun unit => calls false unit.work) := by
  induction units generalizing t with
  | nil => simp
  | cons unit units ih =>
      have hdone := unitDone_of_uniform (huniform unit List.mem_cons_self) houtside
      obtain ⟨hwrites, heffects, houtbound⟩ :=
        ih (fun u hu => huniform u (List.mem_cons_of_mem _ hu)) hdone.outside
      simp only [List.foldl_cons, List.flatMap_cons]
      refine ⟨?_, ?_, ?_⟩
      · rw [← List.append_assoc]
        exact hwrites.trans (hdone.writes.append_right _)
      · rw [heffects, hdone.effects, List.append_assoc]
      · rw [houtbound, hdone.outbound, List.append_assoc]

/-- A thread whose units, with all the units opened inside each, end alike obeys the law
of nested transactions. -/
theorem lawful_of_uniform
    {units : List (UnitCall ω κ)}
    (huniform : ∀ unit ∈ units, unit.Uniform) :
    Lawful units (runThread units) := by
  have houtside : Outside (Thread.start : Thread ω κ) := ⟨rfl, fun _ _ => rfl⟩
  obtain ⟨hwrites, heffects, houtbound⟩ := foldl_execUnit huniform houtside
  exact ⟨hwrites, heffects, houtbound⟩

end Nests

section Samples

/-- A notification whose failure is swallowed. -/
def notification
    (label : String) : DeferredEffect where
  label := label
  fatal := false
  raises := false

/-- A unit that commits with a unit that commits inside it and a savepoint that rolls
back, and a unit that an exception ends. -/
def uniformUnits : List (UnitCall Nat Nat) :=
  [⟨false,
      .write 1 (.afterCommit (notification "outer") (.savepoint
        (.write 2 (.afterCommit (notification "lost") .done)) true
        (.unit false (.write 3 (.afterCommit (notification "inner") .done)) .clean
          (.write 4 .done)))), .clean⟩,
    ⟨false, .write 5 (.outbound 6 .done), .raised⟩]

/-- Both units obey the law. -/
theorem lawful_of_uniform_units :
    Lawful uniformUnits (runThread uniformUnits) := by
  refine lawful_of_uniform ?_
  intro unit hunit
  rcases List.mem_cons.mp hunit with rfl | hlast
  · exact ⟨by simp [UnitsEnd, ending], by simp [FlatSavepoints, Flat],
      by simp [DrainsAll, UnitCall.work, queued, ending]⟩
  · obtain rfl := List.mem_singleton.mp hlast
    exact ⟨by simp [UnitsEnd], by simp [FlatSavepoints],
      by simp [DrainsAll, UnitCall.work, queued]⟩

/-- A unit that an exception ends after a unit inside it has committed. -/
def mixedUnits : List (UnitCall Nat Nat) :=
  [⟨false, .write 1 (.unit false (.write 2 .done) .clean .done), .raised⟩]

/-- Counterexample: the writes of both units survive. -/
theorem nested_commit_survives :
    (runThread mixedUnits).durable = [1, 2] ∧ ¬ Lawful mixedUnits (runThread mixedUnits) := by
  refine ⟨rfl, fun hlawful => ?_⟩
  have hlength : 2 = 0 := hlawful.writes.length_eq
  exact absurd hlength (by decide)

end Samples

end Database
end SalesAgent
