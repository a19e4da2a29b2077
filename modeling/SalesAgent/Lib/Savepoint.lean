import Mathlib.Data.List.Basic

/-!
# Sessions with savepoints

A session stages statements and sends them to the server when it flushes; a query flushes
first.  A statement that the server rejects fails the transaction back to the innermost
savepoint.  A savepoint is opened after a flush, so that nothing staged before is undone
with it.  Before each access other sessions may commit.

**Rules.**
* `flush_course`, `query_course`: what a flush and a query leave.
* `Script.run_course`: what a script puts into the transaction.
* `inSavepoint_course`: a block in a savepoint is there once, or leaves nothing.
-/

namespace SalesAgent
namespace Savepoint

universe u v w x

/-- What an access to the server ends with when it is not answered. -/
inductive DbError (δ : Type w)
  | rejected (e : δ)
  | disconnected
  deriving DecidableEq, Repr

/-- What a program that uses the session raises. -/
inductive Fault (δ : Type w) (ε : Type x)
  | database (e : DbError δ)
  /-- the transaction has failed and was not rolled back -/
  | inactive
  | raised (err : ε)
  deriving DecidableEq, Repr

/-- The server: what the other sessions commit before an access, and its answer in view of
the rows committed and the statements of the transaction. -/
structure Server (σ : Type u) (ω : Type v) (δ : Type w) where
  others : Nat → σ → σ
  refuses : σ → List ω → ω → Option (DbError δ)
  queryFails : σ → List ω → Option (DbError δ)

/-- Whether the transaction of a session can be used. -/
inductive Status
  | active
  | failed
  | disconnected
  deriving DecidableEq, Repr

/-- A transaction: the rows the others have committed, the statements before each open savepoint,
the innermost first, those since, and the staged ones. -/
structure Transaction (σ : Type u) (ω : Type v) where
  rows : σ
  clock : Nat := 0
  below : List (List ω) := []
  applied : List ω := []
  staged : List ω := []
  status : Status := .active

namespace Transaction

variable {σ : Type u} {ω : Type v} {δ : Type w}

/-- The statements since the innermost savepoint, sent or not. -/
def work
    (s : Transaction σ ω) : List ω :=
  s.applied ++ s.staged

/-- The statements of the transaction that the server has taken. -/
def taken
    (s : Transaction σ ω) : List ω :=
  s.below.reverse.flatten ++ s.applied

/-- The other sessions commit. -/
def elapse
    (server : Server σ ω δ)
    (s : Transaction σ ω) : Transaction σ ω :=
  { s with rows := server.others s.clock s.rows, clock := s.clock + 1 }

/-- The transaction fails back to the innermost savepoint. -/
def fail
    (e : DbError δ)
    (s : Transaction σ ω) : Transaction σ ω :=
  { s with
    applied := []
    staged := []
    status := match e with
      | .rejected _ => .failed
      | .disconnected => .disconnected }

/-- Stage a statement. -/
def stage
    (op : ω)
    (s : Transaction σ ω) : Transaction σ ω :=
  { s with staged := s.staged ++ [op] }

/-- `SAVEPOINT` -/
def savepoint
    (s : Transaction σ ω) : Transaction σ ω :=
  { s with below := s.applied :: s.below, applied := [] }

/-- `RELEASE SAVEPOINT` -/
def release
    (s : Transaction σ ω) : Transaction σ ω :=
  match s.below with
  | [] => s
  | layer :: below => { s with below := below, applied := layer ++ s.applied }

/-- `ROLLBACK TO SAVEPOINT`, which also drops what was staged since. -/
def rollbackTo
    (s : Transaction σ ω) : Transaction σ ω :=
  match s.below with
  | [] => s
  | layer :: below =>
      { s with
        below := below
        applied := layer
        staged := []
        status := if s.status = .disconnected then .disconnected else .active }

end Transaction

section Accesses

variable {σ : Type u} {ω : Type v} {δ : Type w} {ε : Type x} (server : Server σ ω δ)

/-- Send a statement. -/
def perform
    (op : ω)
    (s : Transaction σ ω) : Transaction σ ω × Option (DbError δ) :=
  let s' := s.elapse server
  match server.refuses s'.rows s'.taken op with
  | some e => (s'.fail e, some e)
  | none => ({ s' with applied := s'.applied ++ [op] }, none)

/-- Send statements up to the first that is refused. -/
def performAll : List ω → Transaction σ ω → Transaction σ ω × Option (DbError δ)
  | [], s => (s, none)
  | op :: rest, s =>
      match perform server op s with
      | (s', some e) => (s', some e)
      | (s', none) => performAll rest s'

/-- `Session.flush` -/
def flush
    (s : Transaction σ ω) : Transaction σ ω × Option (Fault δ ε) :=
  if s.status = .active then
    match performAll server s.staged { s with staged := [] } with
    | (s', some e) => (s', some (.database e))
    | (s', none) => (s', none)
  else (s, some .inactive)

/-- A query, after a flush: the rows committed and the statements of the transaction. -/
def query
    (s : Transaction σ ω) : Transaction σ ω × Except (Fault δ ε) (σ × List ω) :=
  match flush server s with
  | (s', some fault) => (s', .error fault)
  | (s', none) =>
      let seen := s'.elapse server
      match server.queryFails seen.rows seen.taken with
      | some e => (seen.fail e, .error (.database e))
      | none => (seen, .ok (seen.rows, seen.taken))

end Accesses

/-- A program that uses the session. -/
inductive Script (σ : Type u) (ω : Type v) (ε : Type x)
  | done
  | stage (op : ω) (rest : Script σ ω ε)
  | execute (op : ω) (rest : Script σ ω ε)
  | read (rest : σ × List ω → Script σ ω ε)
  | raise (err : ε)

section Programs

variable {σ : Type u} {ω : Type v} {δ : Type w} {ε : Type x} (server : Server σ ω δ)

/-- Run the program: the statements it has put into the transaction, or its fault. -/
def Script.run : Script σ ω ε → Transaction σ ω → Transaction σ ω × Except (Fault δ ε) (List ω)
  | .done, s => (s, .ok [])
  | .stage op rest, s =>
      match rest.run (s.stage op) with
      | (s', .ok put) => (s', .ok (op :: put))
      | (s', .error fault) => (s', .error fault)
  | .execute op rest, s =>
      match flush server (s.stage op) with
      | (s', some fault) => (s', .error fault)
      | (s', none) =>
          match rest.run s' with
          | (s'', .ok put) => (s'', .ok (op :: put))
          | (s'', .error fault) => (s'', .error fault)
  | .read rest, s =>
      match query server s with
      | (s', .error fault) => (s', .error fault)
      | (s', .ok view) => (rest view).run s'
  | .raise err, s => (s, .error (.raised err))

/-- `with session.begin_nested(): body(); session.flush()` -/
def inSavepoint
    (body : Script σ ω ε)
    (s : Transaction σ ω) : Transaction σ ω × Except (Fault δ ε) (List ω) :=
  match flush server s with
  | (flushed, some fault) => (flushed, .error fault)
  | (flushed, none) =>
      match body.run server flushed.savepoint with
      | (ran, .error fault) => (ran.rollbackTo, .error fault)
      | (ran, .ok put) =>
          match flush server ran with
          | (sent, some fault) => (sent.rollbackTo, .error fault)
          | (sent, none) => (sent.release, .ok put)

end Programs

section Courses

variable {σ : Type u} {ω : Type v} {δ : Type w} {ε : Type x} {server : Server σ ω δ}

/-- The second session is the first with more work since the innermost savepoint. -/
structure Advances
    (s s' : Transaction σ ω)
    (put : List ω) : Prop where
  below : s'.below = s.below
  work : s'.work = s.work ++ put
  status : s'.status = s.status

theorem Advances.refl
    (s : Transaction σ ω) :
    Advances s s [] :=
  ⟨rfl, (List.append_nil _).symm, rfl⟩

theorem Advances.trans
    {s s' s'' : Transaction σ ω} {put put' : List ω}
    (h : Advances s s' put)
    (h' : Advances s' s'' put') :
    Advances s s'' (put ++ put') :=
  ⟨h'.below.trans h.below, by rw [h'.work, h.work, List.append_assoc], h'.status.trans h.status⟩

/-- The second session is the first after a fault: the savepoints stay open. -/
structure Breaks
    (s s' : Transaction σ ω)
    (fault : Fault δ ε) : Prop where
  below : s'.below = s.below
  cut : s'.status = .disconnected →
    s.status = .disconnected ∨ fault = .database .disconnected

theorem Advances.breaks
    {s s' s'' : Transaction σ ω} {put : List ω} {fault : Fault δ ε}
    (h : Advances s s' put)
    (h' : Breaks s' s'' fault) :
    Breaks s s'' fault :=
  ⟨h'.below.trans h.below, by rw [← h.status]; exact h'.cut⟩

/-- The server refuses one of the statements. -/
inductive Refused
    (server : Server σ ω δ)
    (staged : List ω) :
    Fault δ ε → Prop
  | intro
      {e : DbError δ} {rows : σ} {prior : List ω} {op : ω}
      (hop : op ∈ staged)
      (hrefuses : server.refuses rows prior op = some e) :
      Refused server staged (.database e)

theorem Refused.ne_nil
    {staged : List ω} {fault : Fault δ ε}
    (h : Refused server staged fault) :
    staged ≠ [] := by
  cases h with
  | intro hop _ => exact List.ne_nil_of_mem hop

/-- The server does not answer a query. -/
inductive Unanswered
    (server : Server σ ω δ) :
    Fault δ ε → Prop
  | intro
      {e : DbError δ} {rows : σ} {prior : List ω}
      (hfails : server.queryFails rows prior = some e) :
      Unanswered server (.database e)

theorem fail_cut
    {e : DbError δ} {s : Transaction σ ω}
    (hcut : (s.fail e).status = .disconnected) :
    e = .disconnected := by
  cases e with
  | rejected e => cases hcut
  | disconnected => rfl

theorem fail_not_active
    (e : DbError δ)
    (s : Transaction σ ω) :
    (s.fail e).status ≠ .active := by
  cases e with
  | rejected e => exact fun h => by cases h
  | disconnected => exact fun h => by cases h

/-- Statements are sent in order, or the first that is refused fails the transaction. -/
theorem performAll_course
    (server : Server σ ω δ)
    (ops : List ω)
    (s : Transaction σ ω) :
    (∃ s', performAll server ops s = (s', none) ∧ s'.below = s.below ∧
        s'.applied = s.applied ++ ops ∧ s'.staged = s.staged ∧ s'.status = s.status) ∨
      ∃ s' e, performAll server ops s = (s', some e) ∧ s'.below = s.below ∧
        s'.status ≠ .active ∧ (s'.status = .disconnected → e = .disconnected) ∧
        ∃ op ∈ ops, ∃ rows prior, server.refuses rows prior op = some e := by
  induction ops generalizing s with
  | nil => exact .inl ⟨s, rfl, rfl, (List.append_nil _).symm, rfl, rfl⟩
  | cons op ops ih =>
      cases hrefuses : server.refuses (s.elapse server).rows (s.elapse server).taken op with
      | some e =>
          have hperform : perform server op s = ((s.elapse server).fail e, some e) := by
            simp only [perform, hrefuses]
          refine .inr ⟨(s.elapse server).fail e, e, ?_, rfl, fail_not_active e _, fail_cut, op,
            List.mem_cons_self, _, _, hrefuses⟩
          rw [performAll, hperform]
      | none =>
          have hperform : perform server op s =
              ({ s.elapse server with applied := (s.elapse server).applied ++ [op] }, none) := by
            simp only [perform, hrefuses]
          rcases ih { s.elapse server with applied := (s.elapse server).applied ++ [op] } with
            ⟨s', hall, hbelow, happlied, hstaged, hstatus⟩ |
              ⟨s', e, hall, hbelow, hactive, hcut, op', hop', hrefused⟩
          · refine .inl ⟨s', ?_, hbelow, ?_, hstaged, hstatus⟩
            · rw [performAll, hperform]
              exact hall
            · rw [happlied, List.append_assoc, List.singleton_append]
              rfl
          · refine .inr ⟨s', e, ?_, hbelow, hactive, hcut, op', List.mem_cons_of_mem op hop', hrefused⟩
            rw [performAll, hperform]
            exact hall

/-- A flush sends what is staged, or fails the transaction. -/
inductive FlushCourse
    (server : Server σ ω δ)
    (s : Transaction σ ω) :
    Transaction σ ω × Option (Fault δ ε) → Prop
  | flushed
      {s' : Transaction σ ω}
      (hactive : s.status = .active)
      (hadvances : Advances s s' [])
      (hstaged : s'.staged = []) :
      FlushCourse server s (s', none)
  | refused
      {s' : Transaction σ ω} {fault : Fault δ ε}
      (hbreaks : Breaks s s' fault)
      (hlost : s'.status ≠ .active)
      (hrefused : Refused server s.staged fault) :
      FlushCourse server s (s', some fault)
  | inactive
      (hinactive : s.status ≠ .active) :
      FlushCourse server s (s, some .inactive)

theorem flush_course
    (server : Server σ ω δ)
    (s : Transaction σ ω) :
    FlushCourse server s (flush (ε := ε) server s) := by
  by_cases hactive : s.status = .active
  · rcases performAll_course server s.staged { s with staged := [] } with
      ⟨s', hall, hbelow, happlied, hstaged, hstatus⟩ |
        ⟨s', e, hall, hbelow, hlost, hcut, op, hop, rows, prior, hrefuses⟩
    · have hflush : flush (ε := ε) server s = (s', none) := by
        simp only [flush, if_pos hactive, hall]
      rw [hflush]
      refine .flushed hactive ⟨hbelow, ?_, hstatus⟩ hstaged
      simp only [Transaction.work, happlied, hstaged, List.append_nil]
    · have hflush : flush (ε := ε) server s = (s', some (.database e)) := by
        simp only [flush, if_pos hactive, hall]
      rw [hflush]
      exact .refused ⟨hbelow, fun h => .inr (by rw [hcut h])⟩ hlost (.intro hop hrefuses)
  · have hflush : flush (ε := ε) server s = (s, some .inactive) := by
      rw [flush, if_neg hactive]
    rw [hflush]
    exact .inactive hactive

/-- A query flushes and reads, or fails the transaction. -/
inductive QueryCourse
    (server : Server σ ω δ)
    (s : Transaction σ ω) :
    Transaction σ ω × Except (Fault δ ε) (σ × List ω) → Prop
  | answered
      {s' : Transaction σ ω} {view : σ × List ω}
      (hactive : s.status = .active)
      (hadvances : Advances s s' [])
      (hstaged : s'.staged = []) :
      QueryCourse server s (s', .ok view)
  | failed
      {s' : Transaction σ ω} {fault : Fault δ ε}
      (hbreaks : Breaks s s' fault)
      (hlost : s'.status ≠ .active)
      (hrefused : Refused server s.staged fault ∨ Unanswered server fault) :
      QueryCourse server s (s', .error fault)
  | inactive
      (hinactive : s.status ≠ .active) :
      QueryCourse server s (s, .error .inactive)

theorem query_course
    (server : Server σ ω δ)
    (s : Transaction σ ω) :
    QueryCourse server s (query (ε := ε) server s) := by
  have hcourse := flush_course (ε := ε) server s
  cases hflush : flush (ε := ε) server s with
  | mk s' fault =>
      rw [hflush] at hcourse
      cases hcourse with
      | refused hbreaks hlost hrefused =>
          simp only [query, hflush]
          exact .failed hbreaks hlost (.inl hrefused)
      | inactive hinactive =>
          simp only [query, hflush]
          exact .inactive hinactive
      | flushed hactive hadvances hstaged =>
          cases hfails : server.queryFails (s'.elapse server).rows (s'.elapse server).taken with
          | some e =>
              simp only [query, hflush, hfails]
              refine .failed ⟨hadvances.below, fun h => .inr ?_⟩ (fail_not_active e _)
                (.inr (.intro hfails))
              rw [fail_cut h]
          | none =>
              simp only [query, hflush, hfails]
              exact .answered hactive ⟨hadvances.below, hadvances.work, hadvances.status⟩ hstaged

/-- A program puts its statements into the transaction, each once, or leaves the savepoints
as they are. -/
inductive RunCourse
    (s : Transaction σ ω) :
    Transaction σ ω × Except (Fault δ ε) (List ω) → Prop
  | put
      {s' : Transaction σ ω} {put : List ω}
      (hadvances : Advances s s' put) :
      RunCourse s (s', .ok put)
  | fault
      {s' : Transaction σ ω} {fault : Fault δ ε}
      (hbreaks : Breaks s s' fault) :
      RunCourse s (s', .error fault)

theorem Advances.stage
    (op : ω)
    (s : Transaction σ ω) :
    Advances s (s.stage op) [op] :=
  ⟨rfl, (List.append_assoc _ _ _).symm, rfl⟩

theorem FlushCourse.breaks
    {s s' : Transaction σ ω} {fault : Fault δ ε}
    (h : FlushCourse server s (s', some fault)) :
    Breaks s s' fault := by
  cases h with
  | refused hbreaks _ _ => exact hbreaks
  | inactive _ => exact ⟨rfl, .inl⟩

theorem Script.run_course
    (server : Server σ ω δ)
    (script : Script σ ω ε)
    (s : Transaction σ ω) :
    RunCourse s (script.run server s) := by
  induction script generalizing s with
  | done => exact .put (.refl s)
  | raise err => exact .fault ⟨rfl, .inl⟩
  | stage op rest ih =>
      have hstage := Advances.stage op s
      have hrest := ih (s.stage op)
      rw [Script.run]
      cases hrun : rest.run server (s.stage op) with
      | mk s' result =>
          rw [hrun] at hrest
          cases hrest with
          | put hadvances => exact .put (hstage.trans hadvances)
          | fault hbreaks => exact .fault (hstage.breaks hbreaks)
  | execute op rest ih =>
      have hstage := Advances.stage op s
      have hflush := flush_course (ε := ε) server (s.stage op)
      rw [Script.run]
      cases hflushed : flush (ε := ε) server (s.stage op) with
      | mk s' failed =>
          rw [hflushed] at hflush
          cases failed with
          | some fault => exact .fault (hstage.breaks hflush.breaks)
          | none =>
              cases hflush with
              | flushed _ hadvances _ =>
                  have hrest := ih s'
                  simp only
                  cases hrun : rest.run server s' with
                  | mk s'' result =>
                      rw [hrun] at hrest
                      cases hrest with
                      | put hput => exact .put ((hstage.trans hadvances).trans hput)
                      | fault hbreaks => exact .fault ((hstage.trans hadvances).breaks hbreaks)
  | read rest ih =>
      have hquery := query_course (ε := ε) server s
      rw [Script.run]
      cases hanswer : query (ε := ε) server s with
      | mk s' answer =>
          rw [hanswer] at hquery
          cases hquery with
          | failed hbreaks _ _ => exact .fault hbreaks
          | inactive _ => exact .fault ⟨rfl, .inl⟩
          | @answered s' view _ hadvances _ =>
              have hrest := ih view s'
              simp only
              cases hrun : (rest view).run server s' with
              | mk s'' result =>
                  rw [hrun] at hrest
                  cases hrest with
                  | put hput => exact .put (hadvances.trans hput)
                  | fault hbreaks => exact .fault (hadvances.breaks hbreaks)

/-- The session just after a savepoint was opened on the work of another. -/
structure Opened
    (s s' : Transaction σ ω) : Prop where
  below : s'.below = s.work :: s.below
  applied : s'.applied = []
  staged : s'.staged = []
  status : s'.status = .active

/-- A block in a savepoint: the flush before it fails, its program has been put into the
transaction once, or nothing of it is left. -/
inductive BlockCourse
    (server : Server σ ω δ)
    (body : Script σ ω ε)
    (s : Transaction σ ω) :
    Transaction σ ω × Except (Fault δ ε) (List ω) → Prop
  | refused
      {s' : Transaction σ ω} {fault : Fault δ ε}
      (hbelow : s'.below = s.below)
      (hlost : s'.status ≠ .active)
      (hrefused : Refused server s.staged fault) :
      BlockCourse server body s (s', .error fault)
  | inactive
      (hinactive : s.status ≠ .active) :
      BlockCourse server body s (s, .error .inactive)
  | written
      {opened ran s' : Transaction σ ω} {put : List ω}
      (hopened : Opened s opened)
      (hrun : body.run server opened = (ran, .ok put))
      (hbelow : s'.below = s.below)
      (happlied : s'.applied = s.work ++ put)
      (hstaged : s'.staged = [])
      (hstatus : s.status = .active ∧ s'.status = .active) :
      BlockCourse server body s (s', .ok put)
  | undone
      {s' : Transaction σ ω} {fault : Fault δ ε}
      (hbelow : s'.below = s.below)
      (happlied : s'.applied = s.work)
      (hstaged : s'.staged = [])
      (hactive : s.status = .active)
      (hstatus : s'.status = .active ∨
        s'.status = .disconnected ∧ fault = .database .disconnected) :
      BlockCourse server body s (s', .error fault)

/-- Rolling back to a savepoint leaves the work before it. -/
theorem Opened.undone
    {body : Script σ ω ε} {s opened s' : Transaction σ ω} {fault : Fault δ ε}
    (h : Opened s opened)
    (hactive : s.status = .active)
    (hbreaks : Breaks opened s' fault) :
    BlockCourse server body s (s'.rollbackTo, .error fault) := by
  have hlayers : s'.below = s.work :: s.below := hbreaks.below.trans h.below
  refine .undone ?_ ?_ ?_ hactive ?_
  · simp only [Transaction.rollbackTo, hlayers]
  · simp only [Transaction.rollbackTo, hlayers]
  · simp only [Transaction.rollbackTo, hlayers]
  · simp only [Transaction.rollbackTo, hlayers]
    by_cases hcut : s'.status = .disconnected
    · rcases hbreaks.cut hcut with hopened | hfault
      · rw [h.status] at hopened
        cases hopened
      · rw [if_pos hcut]
        exact .inr ⟨rfl, hfault⟩
    · rw [if_neg hcut]
      exact .inl rfl

theorem inSavepoint_course
    (server : Server σ ω δ)
    (body : Script σ ω ε)
    (s : Transaction σ ω) :
    BlockCourse server body s (inSavepoint server body s) := by
  have hfirst := flush_course (ε := ε) server s
  rw [inSavepoint]
  cases hflush : flush (ε := ε) server s with
  | mk s₁ failed =>
      rw [hflush] at hfirst
      cases hfirst with
      | refused hbreaks hlost hrefused => exact .refused hbreaks.below hlost hrefused
      | inactive hinactive => exact .inactive hinactive
      | flushed hactive hadvances hstaged =>
          have hwork : s₁.applied = s.work := by
            have hwork := hadvances.work
            rwa [Transaction.work, hstaged, List.append_nil, List.append_nil] at hwork
          have hopened : Opened s s₁.savepoint :=
            ⟨by rw [Transaction.savepoint, hwork, hadvances.below], rfl, hstaged,
              hadvances.status.trans hactive⟩
          have hbody := body.run_course server s₁.savepoint
          simp only
          cases hrun : body.run server s₁.savepoint with
          | mk s₂ result =>
              rw [hrun] at hbody
              cases hbody with
              | fault hbreaks => exact hopened.undone hactive hbreaks
              | @put s₂ put hput =>
                  have hlast := flush_course (ε := ε) server s₂
                  simp only
                  cases hflush' : flush (ε := ε) server s₂ with
                  | mk s₃ failed' =>
                      rw [hflush'] at hlast
                      cases failed' with
                      | some fault => exact hopened.undone hactive (hput.breaks hlast.breaks)
                      | none =>
                          cases hlast with
                          | flushed hactive' hadvances' hstaged' =>
                              have hlayers : s₃.below = s.work :: s.below :=
                                hadvances'.below.trans (hput.below.trans hopened.below)
                              have hput' : s₃.applied = put := by
                                have hwork' := hadvances'.work
                                rw [hput.work] at hwork'
                                simpa [Transaction.work, hstaged', hopened.applied, hopened.staged]
                                  using hwork'
                              refine .written hopened hrun ?_ ?_ ?_ ⟨hactive, ?_⟩
                              · simp only [Transaction.release, hlayers]
                              · simp only [Transaction.release, hlayers, hput']
                              · simp only [Transaction.release, hlayers, hstaged']
                              · simp only [Transaction.release, hlayers]
                                exact hadvances'.status.trans hactive'

end Courses

end Savepoint
end SalesAgent
