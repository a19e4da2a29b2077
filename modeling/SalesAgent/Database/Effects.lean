import Mathlib.Data.List.Perm.Basic
import Mathlib.Logic.Function.Basic

/-!
# Units of work and the effects they own

A thread has one scoped session.  A unit of work takes that session, pushes a scope for
its effects on it, and at its end commits or rolls back the whole session, closes it and
removes it from the thread, whether or not another unit is still open.  After a commit it
runs the effects of its scope and pops the scope; a commit that raises pops nothing.

A unit opened inside another therefore shares its session only until the first of the two
ends.  What the enclosing unit does afterwards is a new transaction of the old session,
and the next unit opened in it has a session of its own.

The work of a thread is a tree: the block of a unit or of a savepoint ends in a way of its
own, since an exception may be caught around any block.

The law is the one of nested transactions: what a block does counts where no block around
it rolls back.
-/

namespace SalesAgent
namespace Database

universe u v

/-- `_DeferredEffect`, and whether running it raises. -/
structure DeferredEffect where
  label : String
  fatal : Bool
  raises : Bool
  deriving DecidableEq, Repr

/-- Running the effect ends the drain. -/
def DeferredEffect.stops
    (e : DeferredEffect) : Bool :=
  e.fatal && e.raises

/-- `_EffectScope`. -/
structure EffectScope where
  preview : Bool
  queue : List DeferredEffect := []

/-- How the block of a unit ends: a clean exit, whose commit may fail, or an exception. -/
inductive UnitExit
  | clean
  | commitFails
  | raised
  deriving DecidableEq, Repr

/-- What a thread does inside a unit of work. -/
inductive Work (ω : Type u) (κ : Type v)
  | done
  | write (w : ω) (rest : Work ω κ)
  | afterCommit (e : DeferredEffect) (rest : Work ω κ)
  | outbound (call : κ) (rest : Work ω κ)
  | savepoint (body : Work ω κ) (raised : Bool) (rest : Work ω κ)
  | unit (preview : Bool) (body : Work ω κ) (exit : UnitExit) (rest : Work ω κ)

/-- A session: the writes of its transaction, the savepoints open on it with the number
of writes before each, and the scopes in its `info`, the last first. -/
structure Session (ω : Type u) where
  pending : List ω := []
  marks : List Nat := []
  /-- the transaction ended under an open savepoint: nothing runs until its block ends -/
  blocked : Bool := false
  scopes : List EffectScope := []

namespace Session

variable {ω : Type u}

/-- A write of a repository. -/
def write
    (w : ω)
    (s : Session ω) : Session ω :=
  if s.blocked then s else { s with pending := s.pending ++ [w] }

/-- `register_after_commit`; outside a unit of work it raises. -/
def registerAfterCommit
    (e : DeferredEffect)
    (s : Session ω) : Session ω :=
  match s.scopes with
  | [] => s
  | scope :: below => { s with scopes := { scope with queue := scope.queue ++ [e] } :: below }

/-- `is_preview`: any scope of the session is one. -/
def isPreview
    (s : Session ω) : Bool :=
  s.scopes.any (·.preview)

/-- `begin_effects`. -/
def beginEffects
    (preview : Bool)
    (s : Session ω) : Session ω :=
  { s with scopes := { preview := preview } :: s.scopes }

/-- `end_effects`. -/
def endEffects
    (s : Session ω) : Session ω :=
  { s with scopes := s.scopes.tail }

/-- The end of the transaction, by a commit, a rollback or a close. -/
def endTransaction
    (s : Session ω) : Session ω :=
  { s with pending := [], blocked := ! s.marks.isEmpty }

/-- `begin_nested`. -/
def beginNested
    (s : Session ω) : Session ω :=
  { s with marks := s.pending.length :: s.marks }

/-- The scope a savepoint captures, by the number below it, and the length of its queue. -/
def captureScope
    (s : Session ω) : Option (Nat × Nat) :=
  match s.scopes with
  | [] => none
  | scope :: below => some (below.length, scope.queue.length)

/-- Cut the queue of the captured scope back. -/
def truncateScope
    (below mark : Nat) : List EffectScope → List EffectScope
  | [] => []
  | scope :: rest =>
      if rest.length = below then { scope with queue := scope.queue.take mark } :: rest
      else scope :: truncateScope below mark rest

/-- The end of the block of a savepoint. -/
def endNested
    (raised : Bool)
    (s : Session ω) : Session ω :=
  match s.marks with
  | [] => s
  | mark :: marks =>
      { s with
        marks := marks
        pending := if raised && ! s.blocked then s.pending.take mark else s.pending
        blocked := s.blocked && ! marks.isEmpty }

/-- `effect_savepoint` on the way out of its block. -/
def endSavepoint
    (captured : Option (Nat × Nat))
    (raised : Bool)
    (s : Session ω) : Session ω :=
  match captured with
  | none => s.endNested raised
  | some (below, mark) =>
      let ended := s.endNested raised
      if raised then { ended with scopes := truncateScope below mark ended.scopes } else ended

end Session

/-- A thread: its scoped session, its sessions so far, and what it has brought about. -/
structure Thread (ω : Type u) (κ : Type v) where
  registry : Option Nat
  next : Nat
  sessions : Nat → Session ω
  durable : List ω
  ran : List DeferredEffect
  performed : List κ

namespace Thread

variable {ω : Type u} {κ : Type v}

/-- A thread that has done nothing yet. -/
def start : Thread ω κ where
  registry := none
  next := 0
  sessions := fun _ => {}
  durable := []
  ran := []
  performed := []

/-- Change one session. -/
def onSession
    (t : Thread ω κ)
    (sid : Nat)
    (change : Session ω → Session ω) : Thread ω κ :=
  { t with sessions := Function.update t.sessions sid (change (t.sessions sid)) }

/-- `outbound`, which a preview suppresses. -/
def outbound
    (t : Thread ω κ)
    (sid : Nat)
    (call : κ) : Thread ω κ :=
  if (t.sessions sid).isPreview then t else { t with performed := t.performed ++ [call] }

/-- The session `get_db_session` hands out: the one of the thread, or a new one. -/
def scopedSession
    (t : Thread ω κ) : Nat :=
  t.registry.getD t.next

/-- `BaseUoW.__enter__`. -/
def enterUnit
    (t : Thread ω κ)
    (preview : Bool) : Thread ω κ :=
  ({ t with
      registry := some t.scopedSession
      next := if t.registry.isSome then t.next else t.next + 1 } : Thread ω κ).onSession t.scopedSession
    (Session.beginEffects preview)

/-- The end of `get_db_session`: the session is closed, and so is the thread's. -/
def closeSession
    (t : Thread ω κ)
    (sid : Nat) : Thread ω κ :=
  let closed := t.onSession sid Session.endTransaction
  match closed.registry with
  | none => closed
  | some current => { closed.onSession current Session.endTransaction with registry := none }

/-- The effects a drain runs: up to the first that is fatal and raises. -/
def drained : List DeferredEffect → List DeferredEffect
  | [] => []
  | e :: es => if e.stops then [e] else e :: drained es

/-- `drain_after_commit`. -/
def drainAfterCommit
    (t : Thread ω κ)
    (sid : Nat) : Thread ω κ :=
  { t with ran := t.ran ++ drained ((t.sessions sid).scopes.head?.elim [] (·.queue)) }

/-- `BaseUoW.__exit__`. -/
def exitUnit
    (t : Thread ω κ)
    (sid : Nat)
    (preview : Bool)
    (exit : UnitExit) : Thread ω κ :=
  if ! preview && exit ≠ .raised then
    if exit = .clean && ! (t.sessions sid).blocked then
      let committed := { t with durable := t.durable ++ (t.sessions sid).pending }
      ((committed.closeSession sid).drainAfterCommit sid).onSession sid Session.endEffects
    -- the commit raised, and the scope stays on the session
    else t.closeSession sid
  else (t.closeSession sid).onSession sid Session.endEffects

end Thread

section Execution

variable {ω : Type u} {κ : Type v}

/-- Do the work of a unit on its session. -/
def exec
    (sid : Nat) : Work ω κ → Thread ω κ → Thread ω κ
  | .done, t => t
  | .write w rest, t => exec sid rest (t.onSession sid (Session.write w))
  | .afterCommit e rest, t => exec sid rest (t.onSession sid (Session.registerAfterCommit e))
  | .outbound call rest, t => exec sid rest (t.outbound sid call)
  | .savepoint body raised rest, t =>
      -- `begin_nested` raises on a blocked session
      if (t.sessions sid).blocked then exec sid rest t
      else
        exec sid rest
          ((exec sid body (t.onSession sid Session.beginNested)).onSession sid
            (Session.endSavepoint (t.sessions sid).captureScope raised))
  | .unit preview body exit rest, t =>
      exec sid rest ((exec t.scopedSession body (t.enterUnit preview)).exitUnit t.scopedSession preview exit)

/-- A unit of work that no other encloses. -/
structure UnitCall (ω : Type u) (κ : Type v) where
  preview : Bool
  body : Work ω κ
  exit : UnitExit

/-- A unit from its entry to its exit. -/
def execUnit
    (t : Thread ω κ)
    (unit : UnitCall ω κ) : Thread ω κ :=
  (exec t.scopedSession unit.body (t.enterUnit unit.preview)).exitUnit t.scopedSession unit.preview unit.exit

/-- The units of a thread, one after the other. -/
def runThread
    (units : List (UnitCall ω κ)) : Thread ω κ :=
  units.foldl execUnit .start

end Execution

section Law

variable {ω : Type u} {κ : Type v}

/-- How a unit ends: with a commit, without one, or as a preview. -/
inductive Ending
  | commits
  | aborts
  | previews
  deriving DecidableEq, Repr

/-- The ending of a unit, by its kind and its exit. -/
def ending
    (preview : Bool)
    (exit : UnitExit) : Ending :=
  if preview then .previews else if exit = .clean then .commits else .aborts

/-- The writes for which no enclosing block of the work rolls back. -/
def survivors : Work ω κ → List ω
  | .done => []
  | .write w rest => w :: survivors rest
  | .afterCommit _ rest => survivors rest
  | .outbound _ rest => survivors rest
  | .savepoint body raised rest => (if raised then [] else survivors body) ++ survivors rest
  | .unit preview body exit rest =>
      (if ending preview exit = .commits then survivors body else []) ++ survivors rest

/-- The effects the work registers itself and does not roll back. -/
def queued : Work ω κ → List DeferredEffect
  | .done => []
  | .write _ rest => queued rest
  | .afterCommit e rest => e :: queued rest
  | .outbound _ rest => queued rest
  | .savepoint body raised rest => (if raised then [] else queued body) ++ queued rest
  | .unit _ _ _ rest => queued rest

/-- The effects of the units inside the work, each unit's at its end and in order. -/
def released : Work ω κ → List DeferredEffect
  | .done => []
  | .write _ rest => released rest
  | .afterCommit _ rest => released rest
  | .outbound _ rest => released rest
  | .savepoint body raised rest => (if raised then [] else released body) ++ released rest
  | .unit preview body exit rest =>
      (if ending preview exit = .commits then released body ++ queued body else []) ++ released rest

/-- The outbound calls that no preview encloses. -/
def calls
    (preview : Bool) : Work ω κ → List κ
  | .done => []
  | .write _ rest => calls preview rest
  | .afterCommit _ rest => calls preview rest
  | .outbound call rest => if preview then calls preview rest else call :: calls preview rest
  | .savepoint body _ rest => calls preview body ++ calls preview rest
  | .unit preview' body _ rest => calls (preview || preview') body ++ calls preview rest

/-- The work that consists of the one unit. -/
def UnitCall.work
    (unit : UnitCall ω κ) : Work ω κ :=
  .unit unit.preview unit.body unit.exit .done

/-- What a thread brings about obeys the law of nested transactions: a write survives,
and an effect runs after the commit of its unit, where no enclosing block rolls back; an
outbound call is made where no enclosing unit is a preview. -/
structure Lawful
    (units : List (UnitCall ω κ))
    (t : Thread ω κ) : Prop where
  writes : t.durable.Perm (units.flatMap (fun unit => survivors unit.work))
  effects : t.ran = units.flatMap (fun unit => released unit.work)
  outbound : t.performed = units.flatMap (fun unit => calls false unit.work)

/-- Each unit inside the work ends so. -/
def UnitsEnd
    (how : Ending) : Work ω κ → Prop
  | .done => True
  | .write _ rest => UnitsEnd how rest
  | .afterCommit _ rest => UnitsEnd how rest
  | .outbound _ rest => UnitsEnd how rest
  | .savepoint body _ rest => UnitsEnd how body ∧ UnitsEnd how rest
  | .unit preview body exit rest =>
      ending preview exit = how ∧ UnitsEnd how body ∧ UnitsEnd how rest

/-- The work opens no unit. -/
def Flat : Work ω κ → Prop
  | .done => True
  | .write _ rest => Flat rest
  | .afterCommit _ rest => Flat rest
  | .outbound _ rest => Flat rest
  | .savepoint body _ rest => Flat body ∧ Flat rest
  | .unit _ _ _ _ => False

/-- No savepoint of the work has a unit opened inside. -/
def FlatSavepoints : Work ω κ → Prop
  | .done => True
  | .write _ rest => FlatSavepoints rest
  | .afterCommit _ rest => FlatSavepoints rest
  | .outbound _ rest => FlatSavepoints rest
  | .savepoint body _ rest => Flat body ∧ FlatSavepoints rest
  | .unit _ body _ rest => FlatSavepoints body ∧ FlatSavepoints rest

/-- No effect that is fatal and raises has another queued behind it in a unit that commits. -/
def DrainsAll : Work ω κ → Prop
  | .done => True
  | .write _ rest => DrainsAll rest
  | .afterCommit _ rest => DrainsAll rest
  | .outbound _ rest => DrainsAll rest
  | .savepoint body _ rest => DrainsAll body ∧ DrainsAll rest
  | .unit preview body exit rest =>
      (ending preview exit = .commits → ∀ e ∈ (queued body).dropLast, e.stops = false) ∧
        DrainsAll body ∧ DrainsAll rest

/-- The units of one nest end alike, none of them is opened inside a savepoint, and every
commit runs the effects of its unit. -/
structure UnitCall.Uniform
    (unit : UnitCall ω κ) : Prop where
  alike : UnitsEnd (ending unit.preview unit.exit) unit.body
  savepoints : FlatSavepoints unit.body
  drains : DrainsAll unit.work

end Law

end Database
end SalesAgent
