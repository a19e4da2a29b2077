import SalesAgent.Lib.Savepoint
import Mathlib.Data.List.Infix

/-!
# Recovering from a lost race for a unique index

A write against a unique index is tried after the caller's own check has found nothing.
Where it loses a race, it is rolled back to a savepoint and the check is run again, so that
the loser is answered what the winner's check would have told it.  Which constraint was
violated is read off the name the driver reports, matched by prefix, or off its message.

**Results.**
* `Check.run_course`: what a check leaves.
* `race_recovery`: the write is there once, or nothing of it is left and the answer is the
  check's own, or the call raises; the work staged before is kept.
-/

namespace SalesAgent
namespace Database
namespace RaceRecovery

open Savepoint

universe u v w x

section Code

/-- An error of the driver. -/
inductive DriverError
  /-- An `IntegrityError`: the constraint that is violated, whether `diag.constraint_name`
  holds it, and the message. -/
  | integrity (violated : String) (structured : Bool) (message : String)
  | other (message : String)
  deriving DecidableEq, Repr

/-- `is_constraint_violation` -/
def isConstraintViolation
    (violated : String)
    (structured : Bool)
    (message : String)
    (constraint : String)
    (messageToken : Option String) : Bool :=
  if structured ∧ violated ≠ "" then constraint.toList.isPrefixOf violated.toList
  else
    let token := if messageToken.getD "" = "" then constraint else messageToken.getD ""
    decide (token.toList <:+: message.toList)

/-- Whether the fault is an `IntegrityError` of the constraint. -/
def violates
    {ε : Type x}
    (constraint : String) : Fault DriverError ε → Bool
  | .database (.rejected (.integrity violated structured message)) =>
      isConstraintViolation violated structured message constraint none
  | _ => false

/-- A check the caller makes: it reads, and is clear, raises, or has an answer, for which it
may change rows it has found. -/
inductive Check (σ : Type u) (ω : Type v) (ε : Type x) (α : Type w)
  | clear
  | answer (a : α) (changes : List ω)
  | raise (err : ε)
  | read (rest : σ × List ω → Check σ ω ε α)

variable {σ : Type u} {ω : Type v} {ε : Type x} {α : Type w}
variable (server : Server σ ω DriverError)

/-- Run a check. -/
def Check.run :
    Check σ ω ε α → Transaction σ ω → Transaction σ ω × Except (Fault DriverError ε) (Option α)
  | .clear, s => (s, .ok none)
  | .answer a changes, s => ({ s with staged := s.staged ++ changes }, .ok (some a))
  | .raise err, s => (s, .error (.raised err))
  | .read rest, s =>
      match query server s with
      | (s', .error fault) => (s', .error fault)
      | (s', .ok view) => (rest view).run s'

/-- `resolve_or_write` -/
def resolveOrWrite
    (conflict : Check σ ω ε α)
    (write : Script σ ω ε)
    (names : List String)
    (s : Transaction σ ω) : Transaction σ ω × Except (Fault DriverError ε) (Option α) :=
  match conflict.run server s with
  | (checked, .error fault) => (checked, .error fault)
  | (checked, .ok (some a)) => (checked, .ok (some a))
  | (checked, .ok none) =>
      match inSavepoint server write checked with
      | (tried, .ok _) => (tried, .ok none)
      | (tried, .error fault) =>
          match names.find? (violates · fault) with
          | none => (tried, .error fault)
          | some _ =>
              match conflict.run server tried with
              | (resolved, .ok (some a)) => (resolved, .ok (some a))
              | (resolved, .ok none) => (resolved, .error fault)
              | (resolved, .error fault') => (resolved, .error fault')

end Code

section Law

variable {σ : Type u} {ω : Type v} {ε : Type x} {α : Type w}
variable (server : Server σ ω DriverError)

/-- Why a transaction cannot be used any more: the server refused what was staged before the
call or did not answer the check, the connection dropped, or it was so before. -/
inductive Lost
    (before : Transaction σ ω) :
    Fault DriverError ε → Prop
  | refused {fault : Fault DriverError ε} (h : Refused server before.staged fault) :
      Lost before fault
  | unanswered {fault : Fault DriverError ε} (h : Unanswered server fault) : Lost before fault
  | disconnected : Lost before (.database .disconnected)
  | inactive (h : before.status ≠ .active) : Lost before .inactive

/-- What a call promises. -/
structure Recovered
    (conflict : Check σ ω ε α)
    (write : Script σ ω ε)
    (names : List String)
    (before : Transaction σ ω)
    (result : Transaction σ ω × Except (Fault DriverError ε) (Option α)) : Prop where
  /-- `None`: the statements of the write are there once, after the work staged before. -/
  written : result.2 = .ok none → ∃ opened ran put, Opened before opened ∧
    write.run server opened = (ran, .ok put) ∧ Advances before result.1 put ∧
    result.1.staged = []
  /-- An answer: it is the check's own, of a transaction with the work staged before and
  nothing else, which is still there with the changes of the answer. -/
  answered : ∀ a, result.2 = .ok (some a) → ∃ seen changes, Advances before seen [] ∧
    conflict.run server seen = result ∧ Advances before result.1 changes
  /-- A violation that is swallowed is, as the driver reports it, of a constraint named, and
  the check run again on a usable transaction with the work staged before answers. -/
  swallows : ∀ checked tried fault a, conflict.run server before = (checked, .ok none) →
    inSavepoint server write checked = (tried, .error fault) → result.2 = .ok (some a) →
    (∃ name ∈ names, violates name fault = true) ∧ tried.status = .active ∧
      Advances before tried [] ∧ conflict.run server tried = result
  /-- Every other fault of the write is raised as it is. -/
  propagates : ∀ checked tried fault, conflict.run server before = (checked, .ok none) →
    inSavepoint server write checked = (tried, .error fault) →
    (∀ name ∈ names, violates name fault = false) → result = (tried, .error fault)
  /-- A call that raises keeps the work staged before and nothing else, or the transaction
  cannot be used any more. -/
  raises : ∀ fault, result.2 = .error fault → Advances before result.1 [] ∨
    result.1.below = before.below ∧ result.1.status ≠ .active ∧ Lost server before fault

end Law

section Checks

variable {σ : Type u} {ω : Type v} {ε : Type x} {α : Type w}
variable {server : Server σ ω DriverError}

/-- A check leaves the transaction as it was, but for the changes of its answer. -/
inductive CheckCourse
    (server : Server σ ω DriverError)
    (check : Check σ ω ε α)
    (s : Transaction σ ω) :
    Transaction σ ω × Except (Fault DriverError ε) (Option α) → Prop
  | cleared
      {s' : Transaction σ ω}
      (hadvances : Advances s s' [])
      (hflushed : check = .clear ∧ s' = s ∨ s'.staged = []) :
      CheckCourse server check s (s', .ok none)
  | answered
      {s' : Transaction σ ω} {a : α} {changes : List ω}
      (hadvances : Advances s s' changes) :
      CheckCourse server check s (s', .ok (some a))
  | raised
      {s' : Transaction σ ω} {err : ε}
      (hadvances : Advances s s' []) :
      CheckCourse server check s (s', .error (.raised err))
  | failed
      {s' : Transaction σ ω} {fault : Fault DriverError ε}
      (hbelow : s'.below = s.below)
      (hlost : s'.status ≠ .active)
      (hrefused : Refused server s.staged fault ∨ Unanswered server fault) :
      CheckCourse server check s (s', .error fault)
  | inactive
      (hinactive : s.status ≠ .active) :
      CheckCourse server check s (s, .error .inactive)

/-- A check that has read goes on with nothing staged. -/
theorem CheckCourse.after_read
    {check : Check σ ω ε α} {rest : σ × List ω → Check σ ω ε α} {s s' : Transaction σ ω}
    {result : Transaction σ ω × Except (Fault DriverError ε) (Option α)}
    (hadvances : Advances s s' [])
    (hstaged : s'.staged = [])
    (hactive : s'.status = .active)
    (h : CheckCourse server check s' result) :
    CheckCourse server (.read rest) s result := by
  cases h with
  | cleared hadvances' hflushed =>
      refine .cleared (hadvances.trans hadvances') (.inr ?_)
      rcases hflushed with ⟨-, rfl⟩ | hempty
      · exact hstaged
      · exact hempty
  | answered hadvances' => exact .answered (hadvances.trans hadvances')
  | raised hadvances' => exact .raised (hadvances.trans hadvances')
  | failed hbelow hlost hrefused =>
      refine .failed (hbelow.trans hadvances.below) hlost ?_
      rcases hrefused with hrefused | hunanswered
      · exact absurd hstaged hrefused.ne_nil
      · exact .inr hunanswered
  | inactive hinactive => exact absurd hactive hinactive

theorem Check.run_course
    (server : Server σ ω DriverError)
    (check : Check σ ω ε α)
    (s : Transaction σ ω) :
    CheckCourse server check s (check.run server s) := by
  induction check generalizing s with
  | clear => exact .cleared (.refl s) (.inl ⟨rfl, rfl⟩)
  | answer a changes => exact .answered ⟨rfl, (List.append_assoc _ _ _).symm, rfl⟩
  | raise err => exact .raised (.refl s)
  | read rest ih =>
      have hquery := query_course (ε := ε) server s
      rw [Check.run]
      cases hanswer : query (ε := ε) server s with
      | mk s' answer =>
          rw [hanswer] at hquery
          cases hquery with
          | failed hbreaks hlost hrefused => exact .failed hbreaks.below hlost hrefused
          | inactive hinactive => exact .inactive hinactive
          | @answered s' view hactive hadvances hstaged =>
              exact (ih view s').after_read hadvances hstaged (hadvances.status.trans hactive)

end Checks

section Recovery

variable {σ : Type u} {ω : Type v} {ε : Type x} {α : Type w}
variable {server : Server σ ω DriverError}
variable {conflict : Check σ ω ε α} {write : Script σ ω ε} {names : List String}
variable {before checked tried : Transaction σ ω} {fault : Fault DriverError ε}

theorem resolve_of_unmatched
    (hcheck : conflict.run server before = (checked, .ok none))
    (hwrite : inSavepoint server write checked = (tried, .error fault))
    (hnone : names.find? (violates · fault) = none) :
    resolveOrWrite server conflict write names before = (tried, .error fault) := by
  simp only [resolveOrWrite, hcheck, hwrite, hnone]

theorem resolve_of_matched
    {name : String}
    (hcheck : conflict.run server before = (checked, .ok none))
    (hwrite : inSavepoint server write checked = (tried, .error fault))
    (hsome : names.find? (violates · fault) = some name) :
    resolveOrWrite server conflict write names before =
      match conflict.run server tried with
      | (resolved, .ok (some a)) => (resolved, .ok (some a))
      | (resolved, .ok none) => (resolved, .error fault)
      | (resolved, .error fault') => (resolved, .error fault') := by
  simp only [resolveOrWrite, hcheck, hwrite, hsome]

theorem ne_disconnected_of_violates
    {name : String}
    (h : violates name fault = true) :
    fault ≠ .database .disconnected := by
  rintro rfl
  cases h

/-- What a call that raises leaves. -/
def Raised
    (server : Server σ ω DriverError)
    (before after : Transaction σ ω)
    (fault : Fault DriverError ε) : Prop :=
  Advances before after [] ∨
    after.below = before.below ∧ after.status ≠ .active ∧ Lost server before fault

theorem raised_after
    {after : Transaction σ ω}
    (hadvances : Advances before checked [])
    (hflushed : checked = before ∨ checked.staged = [])
    (hbelow : after.below = checked.below)
    (hlost : after.status ≠ .active)
    (hrefused : Refused server checked.staged fault ∨ Unanswered server fault) :
    Raised server before after fault := by
  refine .inr ⟨hbelow.trans hadvances.below, hlost, ?_⟩
  rcases hrefused with hrefused | hunanswered
  · rcases hflushed with rfl | hempty
    · exact .refused hrefused
    · exact absurd hempty hrefused.ne_nil
  · exact .unanswered hunanswered

theorem recovered_of_raised
    {after : Transaction σ ω} {fault' : Fault DriverError ε}
    (hcheck : conflict.run server before = (checked, .ok none))
    (hwrite : inSavepoint server write checked = (tried, .error fault))
    (hraised : Raised server before after fault')
    (hpropagates : (∀ name ∈ names, violates name fault = false) →
      (after, (.error fault' : Except (Fault DriverError ε) (Option α))) = (tried, .error fault)) :
    Recovered server conflict write names before (after, .error fault') where
  written h := by cases h
  answered a h := by cases h
  swallows checked' tried' fault'' a _ _ h := by cases h
  propagates checked' tried' fault'' hcheck' hwrite' hnone := by
    rw [hcheck] at hcheck'
    cases hcheck'
    rw [hwrite] at hwrite'
    cases hwrite'
    exact hpropagates hnone
  raises fault'' h := by
    cases h
    exact hraised

theorem recovered_of_answer
    {after : Transaction σ ω} {a : α} {changes : List ω} {name : String}
    (hcheck : conflict.run server before = (checked, .ok none))
    (hwrite : inSavepoint server write checked = (tried, .error fault))
    (hname : name ∈ names)
    (hviolates : violates name fault = true)
    (hactive : tried.status = .active)
    (hbefore : Advances before tried [])
    (hagain : conflict.run server tried = (after, .ok (some a)))
    (hafter : Advances tried after changes) :
    Recovered server conflict write names before (after, .ok (some a)) where
  written h := by cases h
  answered a' h := by
    cases h
    exact ⟨tried, changes, hbefore, hagain, hbefore.trans hafter⟩
  swallows checked' tried' fault' a' hcheck' hwrite' h := by
    rw [hcheck] at hcheck'
    cases hcheck'
    rw [hwrite] at hwrite'
    cases hwrite'
    exact ⟨⟨name, hname, hviolates⟩, hactive, hbefore, hagain⟩
  propagates checked' tried' fault' hcheck' hwrite' hnone := by
    rw [hcheck] at hcheck'
    cases hcheck'
    rw [hwrite] at hwrite'
    cases hwrite'
    rw [hnone name hname] at hviolates
    cases hviolates
  raises fault' h := by cases h

theorem recovered_of_matched
    {name : String}
    (hcheck : conflict.run server before = (checked, .ok none))
    (hadvances : Advances before checked [])
    (hflushed : conflict = .clear ∧ checked = before ∨ checked.staged = [])
    (hwrite : inSavepoint server write checked = (tried, .error fault))
    (hsome : names.find? (violates · fault) = some name) :
    Recovered server conflict write names before
      (resolveOrWrite server conflict write names before) := by
  have hname : name ∈ names := List.mem_of_find?_eq_some hsome
  have hviolates : violates name fault = true := by simpa using List.find?_some hsome
  have hnever : (∀ name ∈ names, violates name fault = false) → False := by
    intro hnone
    rw [hnone name hname] at hviolates
    cases hviolates
  rw [resolve_of_matched hcheck hwrite hsome]
  have hblock := inSavepoint_course server write checked
  rw [hwrite] at hblock
  cases hblock with
  | inactive _ => cases hviolates
  | refused hbelow hlost hrefused =>
      -- the check has read nothing, or nothing was staged any more
      rcases hflushed with ⟨rfl, rfl⟩ | hempty
      · exact recovered_of_raised hcheck hwrite
          (raised_after hadvances (.inl rfl) hbelow hlost (.inl hrefused))
          (fun hnone => (hnever hnone).elim)
      · exact absurd hempty hrefused.ne_nil
  | undone hbelow happlied hstaged hactive hstatus =>
      have hstatus' : tried.status = .active :=
        hstatus.resolve_right fun h => ne_disconnected_of_violates hviolates h.2
      have hbefore : Advances before tried [] := by
        refine hadvances.trans ⟨hbelow, ?_, hstatus'.trans hactive.symm⟩
        rw [Transaction.work, happlied, hstaged]
      have hagain := conflict.run_course server tried
      cases hrun : conflict.run server tried with
      | mk after answer =>
          rw [hrun] at hagain
          cases hagain with
          | cleared hadvances' _ =>
              exact recovered_of_raised hcheck hwrite (.inl (hbefore.trans hadvances'))
                (fun hnone => (hnever hnone).elim)
          | answered hadvances' =>
              exact recovered_of_answer hcheck hwrite hname hviolates hstatus' hbefore hrun
                hadvances'
          | raised hadvances' =>
              exact recovered_of_raised hcheck hwrite (.inl (hbefore.trans hadvances'))
                (fun hnone => (hnever hnone).elim)
          | failed hbelow' hlost hrefused =>
              exact recovered_of_raised hcheck hwrite
                (raised_after hbefore (.inr hstaged) hbelow' hlost hrefused)
                (fun hnone => (hnever hnone).elim)
          | inactive hinactive => exact absurd hstatus' hinactive

theorem recovered_of_unmatched
    (hcheck : conflict.run server before = (checked, .ok none))
    (hadvances : Advances before checked [])
    (hflushed : conflict = .clear ∧ checked = before ∨ checked.staged = [])
    (hwrite : inSavepoint server write checked = (tried, .error fault))
    (hnone : names.find? (violates · fault) = none) :
    Recovered server conflict write names before
      (resolveOrWrite server conflict write names before) := by
  rw [resolve_of_unmatched hcheck hwrite hnone]
  refine recovered_of_raised hcheck hwrite ?_ (fun _ => rfl)
  have hblock := inSavepoint_course server write checked
  rw [hwrite] at hblock
  cases hblock with
  | inactive _ => exact .inl hadvances
  | refused hbelow hlost hrefused =>
      exact raised_after hadvances (hflushed.imp And.right id) hbelow hlost (.inl hrefused)
  | undone hbelow happlied hstaged hactive hstatus =>
      rcases hstatus with hstatus | ⟨hcut, rfl⟩
      · refine .inl (hadvances.trans ⟨hbelow, ?_, hstatus.trans hactive.symm⟩)
        rw [Transaction.work, happlied, hstaged]
      · refine .inr ⟨hbelow.trans hadvances.below, ?_, .disconnected⟩
        rw [hcut]
        exact fun h => by cases h

theorem resolve_of_check
    {result : Except (Fault DriverError ε) (Option α)}
    (hcheck : conflict.run server before = (checked, result))
    (hends : result ≠ .ok none) :
    resolveOrWrite server conflict write names before = (checked, result) := by
  cases result with
  | error fault => simp only [resolveOrWrite, hcheck]
  | ok answer =>
      cases answer with
      | none => exact absurd rfl hends
      | some a => simp only [resolveOrWrite, hcheck]

theorem recovered_of_check_fault
    (hcheck : conflict.run server before = (checked, .error fault))
    (hraised : Raised server before checked fault) :
    Recovered server conflict write names before
      (resolveOrWrite server conflict write names before) := by
  rw [resolve_of_check hcheck (fun h => by cases h)]
  constructor
  case written =>
    intro h
    cases h
  case answered =>
    intro a h
    cases h
  case swallows =>
    intro checked' tried' fault' a hcheck'
    rw [hcheck] at hcheck'
    cases hcheck'
  case propagates =>
    intro checked' tried' fault' hcheck'
    rw [hcheck] at hcheck'
    cases hcheck'
  case raises =>
    intro fault' h
    cases h
    exact hraised

theorem recovered_of_check_answer
    {a : α} {changes : List ω}
    (hcheck : conflict.run server before = (checked, .ok (some a)))
    (hadvances : Advances before checked changes) :
    Recovered server conflict write names before
      (resolveOrWrite server conflict write names before) := by
  rw [resolve_of_check hcheck (fun h => by cases h)]
  constructor
  case written =>
    intro h
    cases h
  case answered =>
    intro a' h
    cases h
    exact ⟨before, changes, .refl before, hcheck, hadvances⟩
  case swallows =>
    intro checked' tried' fault' a' hcheck'
    rw [hcheck] at hcheck'
    cases hcheck'
  case propagates =>
    intro checked' tried' fault' hcheck'
    rw [hcheck] at hcheck'
    cases hcheck'
  case raises =>
    intro fault' h
    cases h

theorem recovered_of_written
    {put : List ω}
    (hcheck : conflict.run server before = (checked, .ok none))
    (hadvances : Advances before checked [])
    (hwrite : inSavepoint server write checked = (tried, .ok put)) :
    Recovered server conflict write names before
      (resolveOrWrite server conflict write names before) := by
  have hresult : resolveOrWrite server conflict write names before = (tried, .ok none) := by
    simp only [resolveOrWrite, hcheck, hwrite]
  have hblock := inSavepoint_course server write checked
  rw [hwrite] at hblock
  rw [hresult]
  cases hblock with
  | @written opened ran tried put hopened hrun hbelow happlied hstaged hstatus =>
      have hput : Advances checked tried put := by
        refine ⟨hbelow, ?_, hstatus.2.trans hstatus.1.symm⟩
        rw [Transaction.work, happlied, hstaged, List.append_nil]
      have hopened' : Opened before opened := by
        refine ⟨?_, hopened.applied, hopened.staged, hopened.status⟩
        rw [hopened.below, hadvances.work, hadvances.below, List.append_nil]
      constructor
      case written => exact fun _ => ⟨opened, ran, put, hopened', hrun, hadvances.trans hput, hstaged⟩
      case answered =>
        intro a h
        cases h
      case swallows =>
        intro checked' tried' fault' a hcheck' hwrite'
        rw [hcheck] at hcheck'
        cases hcheck'
        rw [hwrite] at hwrite'
        cases hwrite'
      case propagates =>
        intro checked' tried' fault' hcheck' hwrite'
        rw [hcheck] at hcheck'
        cases hcheck'
        rw [hwrite] at hwrite'
        cases hwrite'
      case raises =>
        intro fault h
        cases h

/-- The write is there once, or nothing of it is left and the answer is the check's own, or
the call raises; a violation is swallowed only where the driver's report names a constraint
of the caller's; the work staged before is kept unless the server refuses it. -/
theorem race_recovery
    (server : Server σ ω DriverError)
    (conflict : Check σ ω ε α)
    (write : Script σ ω ε)
    (names : List String)
    (before : Transaction σ ω) :
    Recovered server conflict write names before
      (resolveOrWrite server conflict write names before) := by
  have hcourse := conflict.run_course server before
  cases hcheck : conflict.run server before with
  | mk checked answer =>
      rw [hcheck] at hcourse
      cases hcourse with
      | answered hadvances => exact recovered_of_check_answer hcheck hadvances
      | raised hadvances => exact recovered_of_check_fault hcheck (.inl hadvances)
      | inactive _ => exact recovered_of_check_fault hcheck (.inl (.refl before))
      | failed hbelow hlost hrefused =>
          exact recovered_of_check_fault hcheck
            (raised_after (.refl before) (.inl rfl) hbelow hlost hrefused)
      | cleared hadvances hflushed =>
          cases hwrite : inSavepoint server write checked with
          | mk tried result =>
              cases result with
              | ok put => exact recovered_of_written hcheck hadvances hwrite
              | error fault =>
                  cases hname : names.find? (violates · fault) with
                  | none => exact recovered_of_unmatched hcheck hadvances hflushed hwrite hname
                  | some name => exact recovered_of_matched hcheck hadvances hflushed hwrite hname

end Recovery

section Samples

/-- A server on which another session takes an address in the end; an insert of it violates an
index whose name begins with that of another one, and one statement is always refused. -/
def sampleServer : Server Bool String DriverError where
  others n taken := taken || 2 ≤ n
  refuses taken _ op :=
    if op = "insert user" ∧ taken then
      some (.rejected (.integrity "uq_users_tenant_email_lower" true "duplicate key value"))
    else if op = "insert role" then
      some (.rejected (.integrity "ck_users_role" true "violates check constraint"))
    else none
  queryFails _ _ := none

/-- The check for the address. -/
def addressTaken : Check Bool String Unit String :=
  .read fun view => if view.1 then .answer "taken" [] else .clear

/-- The insert of a user. -/
def insertUser : Script Bool String Unit :=
  .stage "insert user" .done

/-- A session with earlier work. -/
def sampleSession
    (staged : List String) : Transaction Bool String where
  rows := false
  staged := staged

/-- The violation of a constraint whose name merely begins with the one named is swallowed, and
work staged before that the server refuses is lost. -/
theorem longer_name_is_swallowed :
    (addressTaken.run sampleServer (sampleSession ["rename tenant"])).2 = .ok none ∧
      (inSavepoint sampleServer insertUser
          (addressTaken.run sampleServer (sampleSession ["rename tenant"])).1).2 =
        .error (.database (.rejected
          (.integrity "uq_users_tenant_email_lower" true "duplicate key value"))) ∧
      "uq_users_tenant_email_lower" ∉ ["uq_users_tenant_email"] ∧
      (resolveOrWrite sampleServer addressTaken insertUser ["uq_users_tenant_email"]
          (sampleSession ["rename tenant"])).2 = .ok (some "taken") ∧
      (sampleSession ["insert role"]).work ≠ [] ∧
      (resolveOrWrite sampleServer addressTaken insertUser ["uq_users_tenant_email"]
          (sampleSession ["insert role"])).1.work = [] := by
  decide +kernel

end Samples

end RaceRecovery
end Database
end SalesAgent
