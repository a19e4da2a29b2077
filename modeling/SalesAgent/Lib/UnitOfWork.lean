import Mathlib.Data.List.Basic

/-!
# A unit of work that also acts outside its transaction

A unit of work runs its acts in order.  An inside act checks the rows the unit
sees and then writes in the unit's own transaction: what to write is settled by
the rows seen, the write itself is pending until the unit commits, and a raise
rolls it back.  An outside act calls another system, which records the call, may
commit rows in a transaction of its own, and may raise.  Nothing takes an outside
act back.

**Rules.**
* `run_append`: acts compose.
* `run_log_extends`, `run_keeps`: an outside act is never undone.
* `block_rows_of_passed`, `block_keeps`: what a unit that passes writes and keeps.
* `block_of_write`, `block_of_call`: what one of its acts brings about and the others keep.
* `run_logs`: a unit that passes has made each of its calls.
* `Forecast.traceless_of_inTime`, `Forecast.inTime_of_traceless`: when a unit that raises
  leaves no trace, read off its plan, where what every step does can be told beforehand.
-/

namespace SalesAgent
namespace UnitOfWork

universe u v w

/-- The rows of the database, the writes not committed yet, and the calls made. -/
structure World (σ : Type u) (ω : Type v) where
  committed : σ
  pending : List (σ → σ)
  log : List ω

/-- What an outside system did: its record, the rows it left, and its raise. -/
structure Answer (σ : Type u) (ω : Type v) (ε : Type w) where
  entry : ω
  rows : σ
  raised : Option ε

/-- One act of a unit of work; a write is settled by the rows seen, and the `n`-th
outside call sees the committed rows. -/
inductive Act (σ : Type u) (ω : Type v) (ε : Type w)
  | inside (refuses : σ → Option ε) (write : σ → σ → σ)
  | outside (call : Nat → σ → Answer σ ω ε)

/-- An act that writes nothing. -/
def Act.check
    {σ : Type u} {ω : Type v} {ε : Type w}
    (refuses : σ → Option ε) : Act σ ω ε :=
  .inside refuses (fun _ => id)

/-- The rows after a unit of work, the calls it made and what it raised. -/
structure Outcome (σ : Type u) (ω : Type v) (ε : Type w) where
  rows : σ
  log : List ω
  raised : Option ε

variable {σ : Type u} {ω : Type v} {ε : Type w}

namespace World

/-- The rows the unit sees: the committed ones under its own writes. -/
def view
    (world : World σ ω) : σ :=
  world.pending.foldl (fun rows f => f rows) world.committed

/-- The unit writes in its own transaction. -/
def write
    (world : World σ ω)
    (f : σ → σ) : World σ ω :=
  { world with pending := world.pending ++ [f] }

/-- What the next outside call is answered. -/
def answer
    (world : World σ ω)
    (call : Nat → σ → Answer σ ω ε) : Answer σ ω ε :=
  call world.log.length world.committed

/-- An outside system was called. -/
def called
    (world : World σ ω)
    (call : Nat → σ → Answer σ ω ε) : World σ ω :=
  { world with
    committed := (world.answer call).rows
    log := world.log ++ [(world.answer call).entry] }

/-- Before the first act. -/
def start
    (rows : σ) : World σ ω :=
  ⟨rows, [], []⟩

@[simp] theorem log_write
    (world : World σ ω)
    (f : σ → σ) :
    (world.write f).log = world.log :=
  rfl

@[simp] theorem log_called
    (world : World σ ω)
    (call : Nat → σ → Answer σ ω ε) :
    (world.called call).log = world.log ++ [(world.answer call).entry] :=
  rfl

theorem view_of_keeps
    {world : World σ ω} {Inv : σ → Prop}
    (hpending : ∀ f ∈ world.pending, ∀ rows, Inv rows → Inv (f rows))
    (hcommitted : Inv world.committed) :
    Inv world.view :=
  List.foldlRecOn world.pending _ hcommitted (fun rows hrows f hf => hpending f hf rows hrows)

end World

/-- Perform the acts up to the first that raises. -/
def run : List (Act σ ω ε) → World σ ω → World σ ω × Option ε
  | [], world => (world, none)
  | .inside refuses write :: acts, world =>
      match refuses world.view with
      | some err => (world, some err)
      | none => run acts (world.write (write world.view))
  | .outside call :: acts, world =>
      match (world.answer call).raised with
      | some err => (world.called call, some err)
      | none => run acts (world.called call)

/-- The writes of the acts, in order. -/
def writes : List (Act σ ω ε) → List (σ → σ → σ)
  | [] => []
  | .inside _ write :: acts => write :: writes acts
  | .outside _ :: acts => writes acts

/-- The writes, each settled by rows seen that have the property. -/
def Settled
    (P : σ → Prop)
    (ws : List (σ → σ → σ))
    (fs : List (σ → σ)) : Prop :=
  List.Forall₂ (fun w f => ∃ seen, P seen ∧ f = w seen) ws fs

/-- The transaction of the writes, each settled by the rows its act saw.  Other units
may have committed in between. -/
def commit
    (ws : List (σ → σ → σ))
    (seens : List σ)
    (rows : σ) : σ :=
  (ws.zip seens).foldl (fun r w => w.1 w.2 r) rows

/-- A unit of work: commit at the end, roll back on a raise. -/
def block
    (acts : List (Act σ ω ε))
    (rows : σ) : Outcome σ ω ε :=
  match run acts (World.start rows) with
  | (world, some err) => ⟨world.committed, world.log, some err⟩
  | (world, none) => ⟨world.view, world.log, none⟩

section Rules

variable {acts : List (Act σ ω ε)} {world : World σ ω}

theorem run_append
    (as bs : List (Act σ ω ε))
    (world : World σ ω) :
    run (as ++ bs) world =
      match run as world with
      | (world', some err) => (world', some err)
      | (world', none) => run bs world' := by
  induction as generalizing world with
  | nil => rfl
  | cons a as ih =>
      cases a with
      | inside refuses write =>
          simp only [List.cons_append, run]
          cases refuses world.view with
          | some err => rfl
          | none => exact ih _
      | outside call =>
          simp only [List.cons_append, run]
          cases (world.answer call).raised with
          | some err => rfl
          | none => exact ih _

/-- No call is taken back. -/
theorem run_log_extends
    (acts : List (Act σ ω ε))
    (world : World σ ω) :
    world.log <+: (run acts world).1.log := by
  induction acts generalizing world with
  | nil => exact List.prefix_rfl
  | cons a as ih =>
      cases a with
      | inside refuses write =>
          simp only [run]
          cases refuses world.view with
          | some err => exact List.prefix_rfl
          | none => exact ih (world.write (write world.view))
      | outside call =>
          have hcalled : world.log <+: (world.called call).log := List.prefix_append _ _
          simp only [run]
          cases (world.answer call).raised with
          | some err => exact hcalled
          | none => exact hcalled.trans (ih (world.called call))

/-- What every outside call keeps, the committed rows keep. -/
theorem run_keeps
    {Inv : σ → Prop}
    (hkeep : ∀ call, Act.outside call ∈ acts → ∀ n rows, Inv rows → Inv (call n rows).rows)
    (hworld : Inv world.committed) :
    Inv (run acts world).1.committed := by
  induction acts generalizing world with
  | nil => exact hworld
  | cons a as ih =>
      have htail := fun call hcall => hkeep call (List.mem_cons_of_mem a hcall)
      cases a with
      | inside refuses write =>
          simp only [run]
          cases refuses world.view with
          | some err => exact hworld
          | none => exact ih htail hworld
      | outside call =>
          have hcalled : Inv (world.called call).committed :=
            hkeep call List.mem_cons_self _ _ hworld
          simp only [run]
          cases (world.answer call).raised with
          | some err => exact hcalled
          | none => exact ih htail hcalled

theorem mem_writes
    {write : σ → σ → σ} :
    write ∈ writes acts ↔ ∃ refuses, Act.inside refuses write ∈ acts := by
  induction acts with
  | nil => simp [writes]
  | cons a as ih =>
      cases a with
      | inside refuses write' =>
          simp only [writes, List.mem_cons, ih, Act.inside.injEq]
          constructor
          · rintro (rfl | ⟨r, hr⟩)
            · exact ⟨refuses, .inl ⟨rfl, rfl⟩⟩
            · exact ⟨r, .inr hr⟩
          · rintro ⟨r, ⟨-, rfl⟩ | hr⟩
            · exact .inl rfl
            · exact .inr ⟨r, hr⟩
      | outside call => simp [writes, ih]

/-- What is pending when a unit passes is what its acts write; where every call and
write keeps a property, the writes are settled by rows that have it. -/
theorem run_pending
    {Inv : σ → Prop}
    (hinside : ∀ refuses write, Act.inside refuses write ∈ acts → ∀ seen rows, Inv seen →
      Inv rows → Inv (write seen rows))
    (houtside : ∀ call, Act.outside call ∈ acts → ∀ n rows, Inv rows → Inv (call n rows).rows)
    (hpending : ∀ f ∈ world.pending, ∀ rows, Inv rows → Inv (f rows))
    (hworld : Inv world.committed)
    (hpass : (run acts world).2 = none) :
    ∃ fs, Settled Inv (writes acts) fs ∧ (run acts world).1.pending = world.pending ++ fs := by
  induction acts generalizing world with
  | nil => exact ⟨[], .nil, by simp [run]⟩
  | cons a as ih =>
      have hinside' := fun r f h => hinside r f (List.mem_cons_of_mem a h)
      have houtside' := fun c h => houtside c (List.mem_cons_of_mem a h)
      cases a with
      | inside refuses write =>
          simp only [run, writes] at hpass ⊢
          cases hrefuses : refuses world.view with
          | some err =>
              rw [hrefuses] at hpass
              cases hpass
          | none =>
              rw [hrefuses] at hpass
              have hview : Inv world.view := World.view_of_keeps hpending hworld
              have hnext : ∀ f ∈ (world.write (write world.view)).pending, ∀ rows, Inv rows →
                  Inv (f rows) := by
                intro f hf
                rcases List.mem_append.mp hf with hold | hnew
                · exact hpending f hold
                · rw [List.mem_singleton] at hnew
                  subst hnew
                  intro rows hrows
                  exact hinside refuses write List.mem_cons_self _ rows hview hrows
              obtain ⟨fs, hsettled, hfs⟩ := ih hinside' houtside' hnext hworld hpass
              exact ⟨write world.view :: fs, .cons ⟨_, hview, rfl⟩ hsettled,
                by simpa [World.write] using hfs⟩
      | outside call =>
          simp only [run, writes] at hpass ⊢
          cases hraised : (world.answer call).raised with
          | some err =>
              rw [hraised] at hpass
              cases hpass
          | none =>
              rw [hraised] at hpass
              exact ih hinside' houtside' hpending (houtside call List.mem_cons_self _ _ hworld)
                hpass

theorem Settled.exists_write
    {P : σ → Prop} {ws : List (σ → σ → σ)} {fs : List (σ → σ)} {f : σ → σ}
    (h : Settled P ws fs)
    (hf : f ∈ fs) :
    ∃ write ∈ ws, ∃ seen, P seen ∧ f = write seen := by
  unfold Settled at h
  induction h with
  | nil => cases hf
  | @cons write g ws gs hg _ ih =>
      rcases List.mem_cons.mp hf with rfl | htail
      · exact ⟨write, List.mem_cons_self, hg⟩
      · obtain ⟨write', hwrite', hseen⟩ := ih htail
        exact ⟨write', List.mem_cons_of_mem _ hwrite', hseen⟩

theorem Settled.eq_commit
    {P : σ → Prop} {ws : List (σ → σ → σ)} {fs : List (σ → σ)}
    (h : Settled P ws fs) :
    ∃ seens, seens.length = ws.length ∧
      ∀ rows, fs.foldl (fun r f => f r) rows = commit ws seens rows := by
  unfold Settled at h
  induction h with
  | nil => exact ⟨[], rfl, fun _ => rfl⟩
  | @cons write f ws fs hf _ ih =>
      obtain ⟨seen, -, rfl⟩ := hf
      obtain ⟨seens, hlength, hcommit⟩ := ih
      refine ⟨seen :: seens, by simp [hlength], ?_⟩
      intro rows
      exact hcommit (write seen rows)

/-- A property that one of the settled writes brings about, on rows that the writes before
it keep in shape, holds in the end if the later writes keep it. -/
theorem Settled.foldl_of_write
    {P Inv Out : σ → Prop} {ws ws' : List (σ → σ → σ)} {write : σ → σ → σ}
    {fs : List (σ → σ)} {rows : σ}
    (h : Settled P (ws ++ write :: ws') fs)
    (hpre : ∀ w ∈ ws, ∀ seen r, Inv r → Inv (w seen r))
    (hwrite : ∀ seen r, Inv r → Out (write seen r))
    (hpost : ∀ w ∈ ws', ∀ seen r, Out r → Out (w seen r))
    (hrows : Inv rows) :
    Out (fs.foldl (fun r f => f r) rows) := by
  induction ws generalizing fs rows with
  | nil =>
      cases h with
      | cons hfirst hrest =>
          obtain ⟨seen, -, rfl⟩ := hfirst
          rw [List.foldl_cons]
          refine List.foldlRecOn _ _ (hwrite seen rows hrows) ?_
          intro r hr f hf
          obtain ⟨w, hw, seen', -, rfl⟩ := Settled.exists_write hrest hf
          exact hpost w hw seen' r hr
  | cons w ws ih =>
      cases h with
      | cons hfirst hrest =>
          obtain ⟨seen, -, rfl⟩ := hfirst
          have hnext : Inv (w seen rows) := hpre w List.mem_cons_self seen rows hrows
          rw [List.foldl_cons]
          exact ih hrest (fun w' hw' => hpre w' (List.mem_cons_of_mem _ hw')) hnext

theorem Settled.mem
    {P : σ → Prop} {fs : List (σ → σ)} {f : σ → σ}
    (h : Settled P (writes acts) fs)
    (hf : f ∈ fs) :
    ∃ refuses write seen, Act.inside refuses write ∈ acts ∧ P seen ∧ f = write seen := by
  obtain ⟨write, hwrite, seen, hseen, hf⟩ := h.exists_write hf
  obtain ⟨refuses, hact⟩ := mem_writes.mp hwrite
  exact ⟨refuses, write, seen, hact, hseen, hf⟩

/-- A unit that passes has made each of its calls, and none of them raised. -/
theorem run_logs
    (hpass : (run acts world).2 = none)
    {call : Nat → σ → Answer σ ω ε}
    (hcall : Act.outside call ∈ acts) :
    ∃ n rows, (call n rows).raised = none ∧ (call n rows).entry ∈ (run acts world).1.log := by
  induction acts generalizing world with
  | nil => cases hcall
  | cons a as ih =>
      cases a with
      | inside refuses write =>
          simp only [run] at hpass ⊢
          cases hrefuses : refuses world.view with
          | some err =>
              rw [hrefuses] at hpass
              cases hpass
          | none =>
              rw [hrefuses] at hpass
              exact ih hpass (by simpa using hcall)
      | outside call' =>
          simp only [run] at hpass ⊢
          cases hraised : (world.answer call').raised with
          | some err =>
              rw [hraised] at hpass
              cases hpass
          | none =>
              rw [hraised] at hpass
              rcases List.mem_cons.mp hcall with heq | htail
              · cases heq
                refine ⟨_, _, hraised, ?_⟩
                exact (run_log_extends as (world.called call)).subset (by simp [World.answer])
              · exact ih hpass htail

/-- A unit that passes has passed each of its checks. -/
theorem run_checks
    (hpass : (run acts world).2 = none)
    {refuses : σ → Option ε} {write : σ → σ → σ}
    (hact : Act.inside refuses write ∈ acts) :
    ∃ seen, refuses seen = none := by
  induction acts generalizing world with
  | nil => cases hact
  | cons a as ih =>
      cases a with
      | inside refuses' write' =>
          simp only [run] at hpass
          cases hrefuses : refuses' world.view with
          | some err =>
              rw [hrefuses] at hpass
              cases hpass
          | none =>
              rw [hrefuses] at hpass
              rcases List.mem_cons.mp hact with heq | htail
              · cases heq
                exact ⟨_, hrefuses⟩
              · exact ih hpass htail
      | outside call =>
          simp only [run] at hpass
          cases hraised : (world.answer call).raised with
          | some err =>
              rw [hraised] at hpass
              cases hpass
          | none =>
              rw [hraised] at hpass
              exact ih hpass (by simpa using hact)

theorem writes_append
    (as bs : List (Act σ ω ε)) :
    writes (as ++ bs) = writes as ++ writes bs := by
  induction as with
  | nil => rfl
  | cons a as ih =>
      cases a with
      | inside refuses write => simp [writes, ih]
      | outside call => simp [writes, ih]

theorem mem_run_log
    {entry : ω}
    (hentry : entry ∈ (run acts world).1.log) :
    entry ∈ world.log ∨ ∃ call, Act.outside call ∈ acts ∧ ∃ n rows, (call n rows).entry = entry := by
  induction acts generalizing world with
  | nil => exact .inl hentry
  | cons a as ih =>
      cases a with
      | inside refuses write =>
          simp only [run] at hentry
          cases hrefuses : refuses world.view with
          | some err =>
              rw [hrefuses] at hentry
              exact .inl hentry
          | none =>
              rw [hrefuses] at hentry
              rcases ih hentry with hold | ⟨call, hcall, hanswer⟩
              · exact .inl hold
              · exact .inr ⟨call, List.mem_cons_of_mem _ hcall, hanswer⟩
      | outside call =>
          have hcalled : entry ∈ (world.called call).log →
              entry ∈ world.log ∨
                ∃ c, Act.outside c ∈ Act.outside call :: as ∧ ∃ n rows, (c n rows).entry = entry := by
            intro h
            rcases List.mem_append.mp h with hold | hnew
            · exact .inl hold
            · exact .inr ⟨call, List.mem_cons_self, _, _, (List.mem_singleton.mp hnew).symm⟩
          simp only [run] at hentry
          cases hraised : (world.answer call).raised with
          | some err =>
              rw [hraised] at hentry
              exact hcalled hentry
          | none =>
              rw [hraised] at hentry
              rcases ih hentry with hold | ⟨c, hc, hanswer⟩
              · exact hcalled hold
              · exact .inr ⟨c, List.mem_cons_of_mem _ hc, hanswer⟩

end Rules

/-- The rows that the outside calls of a unit of work left. -/
def afterCalls
    (acts : List (Act σ ω ε))
    (rows : σ) : σ :=
  (run acts (World.start rows)).1.committed

section Blocks

variable {acts : List (Act σ ω ε)} {rows : σ}

theorem afterCalls_keeps
    {Inv : σ → Prop}
    (hkeep : ∀ call, Act.outside call ∈ acts → ∀ n rows, Inv rows → Inv (call n rows).rows)
    (hrows : Inv rows) :
    Inv (afterCalls acts rows) :=
  run_keeps hkeep hrows

theorem block_raised
    (acts : List (Act σ ω ε))
    (rows : σ) :
    (block acts rows).raised = (run acts (World.start rows)).2 := by
  unfold block
  rcases run acts (World.start rows) with ⟨world, _ | err⟩ <;> rfl

theorem block_log
    (acts : List (Act σ ω ε))
    (rows : σ) :
    (block acts rows).log = (run acts (World.start rows)).1.log := by
  unfold block
  rcases run acts (World.start rows) with ⟨world, _ | err⟩ <;> rfl

theorem block_rows_of_raised
    (h : (block acts rows).raised ≠ none) :
    (block acts rows).rows = afterCalls acts rows := by
  rw [block_raised] at h
  unfold block afterCalls
  rcases hrun : run acts (World.start rows) with ⟨world, _ | err⟩
  · rw [hrun] at h
    exact absurd rfl h
  · rfl

/-- A unit that passes applies its writes to the rows its calls left; where every
call and write keeps a property, the writes are settled by rows that have it. -/
theorem block_rows_of_passed
    {Inv : σ → Prop}
    (hinside : ∀ refuses write, Act.inside refuses write ∈ acts → ∀ seen rows, Inv seen →
      Inv rows → Inv (write seen rows))
    (houtside : ∀ call, Act.outside call ∈ acts → ∀ n rows, Inv rows → Inv (call n rows).rows)
    (hrows : Inv rows)
    (hpass : (block acts rows).raised = none) :
    ∃ fs, Settled Inv (writes acts) fs ∧
      (block acts rows).rows = fs.foldl (fun r f => f r) (afterCalls acts rows) := by
  rw [block_raised] at hpass
  have hstart : ∀ f ∈ (World.start rows : World σ ω).pending, ∀ r, Inv r → Inv (f r) := by
    intro f hf
    cases hf
  obtain ⟨fs, hsettled, hpending⟩ := run_pending hinside houtside hstart hrows hpass
  refine ⟨fs, hsettled, ?_⟩
  unfold block afterCalls
  rcases hrun : run acts (World.start rows) with ⟨world, _ | err⟩
  · rw [hrun] at hpending
    simp only [World.start, List.nil_append] at hpending
    simp only [World.view, hpending]
  · rw [hrun] at hpass
    cases hpass

theorem block_rows_eq_commit
    (hpass : (block acts rows).raised = none) :
    ∃ seens, seens.length = (writes acts).length ∧
      (block acts rows).rows = commit (writes acts) seens (afterCalls acts rows) := by
  obtain ⟨fs, hsettled, hrows⟩ := @block_rows_of_passed _ _ _ acts rows (fun _ => True)
    (fun _ _ _ _ _ _ _ => trivial) (fun _ _ _ _ _ => trivial) trivial hpass
  obtain ⟨seens, hlength, hcommit⟩ := hsettled.eq_commit
  exact ⟨seens, hlength, hrows.trans (hcommit _)⟩

/-- What every write and call keeps, a unit that passes keeps. -/
theorem block_keeps
    {Inv : σ → Prop}
    (hinside : ∀ refuses write, Act.inside refuses write ∈ acts → ∀ seen rows, Inv seen →
      Inv rows → Inv (write seen rows))
    (houtside : ∀ call, Act.outside call ∈ acts → ∀ n rows, Inv rows → Inv (call n rows).rows)
    (hpass : (block acts rows).raised = none)
    (hrows : Inv rows) :
    Inv (block acts rows).rows := by
  obtain ⟨fs, hsettled, hblock⟩ := block_rows_of_passed hinside houtside hrows hpass
  rw [hblock]
  refine List.foldlRecOn fs _ (afterCalls_keeps houtside hrows) ?_
  intro r hr f hf
  obtain ⟨refuses, write, seen, hact, hseen, rfl⟩ := hsettled.mem hf
  exact hinside refuses write hact seen r hseen hr

/-- A property that one write brings about, on rows that the acts before it and every
call keep in shape, holds in the end if the later writes keep it. -/
theorem block_of_write
    {Inv Out : σ → Prop} {pre post : List (Act σ ω ε)}
    {refuses : σ → Option ε} {write : σ → σ → σ}
    (hacts : acts = pre ++ .inside refuses write :: post)
    (hcalls : ∀ call, Act.outside call ∈ acts → ∀ n r, Inv r → Inv (call n r).rows)
    (hpre : ∀ w ∈ writes pre, ∀ seen r, Inv r → Inv (w seen r))
    (hwrite : ∀ seen r, Inv r → Out (write seen r))
    (hpost : ∀ w ∈ writes post, ∀ seen r, Out r → Out (w seen r))
    (hpass : (block acts rows).raised = none)
    (hrows : Inv rows) :
    Out (block acts rows).rows := by
  obtain ⟨fs, hsettled, hblock⟩ := @block_rows_of_passed _ _ _ acts rows (fun _ => True)
    (fun _ _ _ _ _ _ _ => trivial) (fun _ _ _ _ _ => trivial) trivial hpass
  have hwrites : writes acts = writes pre ++ (write :: writes post) := by
    rw [hacts, writes_append]
    rfl
  have hcalled : Inv (afterCalls acts rows) := afterCalls_keeps hcalls hrows
  rw [hblock]
  rw [hwrites] at hsettled
  exact hsettled.foldl_of_write hpre hwrite hpost hcalled

/-- A property that one call brings about holds in the end if the writes before it and
all acts behind it keep it. -/
theorem block_of_call
    {Out : σ → Prop} {pre post : List (Act σ ω ε)} {call : Nat → σ → Answer σ ω ε}
    (hacts : acts = pre ++ .outside call :: post)
    (hpre : ∀ w ∈ writes pre, ∀ seen r, Out r → Out (w seen r))
    (hcall : ∀ n r, (call n r).raised = none → Out (call n r).rows)
    (hinside : ∀ refuses write, Act.inside refuses write ∈ post → ∀ seen r, Out seen → Out r →
      Out (write seen r))
    (houtside : ∀ c, Act.outside c ∈ post → ∀ n r, Out r → Out (c n r).rows)
    (hpass : (block acts rows).raised = none) :
    Out (block acts rows).rows := by
  have hrun : (run acts (World.start rows)).2 = none := by
    rw [← block_raised]
    exact hpass
  have hrows : (block acts rows).rows = (run acts (World.start rows)).1.view := by
    unfold block
    rcases hresult : run acts (World.start rows) with ⟨world, _ | err⟩
    · rfl
    · rw [hresult] at hrun
      cases hrun
  rw [hrows]
  rw [hacts, run_append] at hrun ⊢
  rcases hfirst : run pre (World.start rows) with ⟨world, _ | err⟩
  · rw [hfirst] at hrun
    simp only at hrun ⊢
    obtain ⟨fs, hsettled, hpending⟩ := @run_pending _ _ _ pre (World.start rows) (fun _ => True)
      (fun _ _ _ _ _ _ _ => trivial) (fun _ _ _ _ _ => trivial) (fun _ _ _ _ => trivial) trivial
      (by rw [hfirst])
    rw [hfirst] at hpending
    have hkeep : ∀ f ∈ world.pending, ∀ r, Out r → Out (f r) := by
      intro f hf r hr
      rw [hpending] at hf
      obtain ⟨w, hw, seen, -, rfl⟩ := hsettled.exists_write (by simpa [World.start] using hf)
      exact hpre w hw seen r hr
    simp only [run] at hrun ⊢
    cases hraised : (world.answer call).raised with
    | some err =>
        rw [hraised] at hrun
        cases hrun
    | none =>
        rw [hraised] at hrun
        simp only at hrun ⊢
        have hcalled : Out (world.called call).committed := hcall _ _ hraised
        have hkeep' : ∀ f ∈ (world.called call).pending, ∀ r, Out r → Out (f r) := hkeep
        obtain ⟨gs, hsettled', hpending'⟩ := run_pending hinside houtside hkeep' hcalled hrun
        refine World.view_of_keeps ?_ (run_keeps houtside hcalled)
        intro f hf r hr
        rw [hpending'] at hf
        rcases List.mem_append.mp hf with hold | hnew
        · exact hkeep f hold r hr
        · obtain ⟨refuses, write, seen, hact, hseen, rfl⟩ := hsettled'.mem hnew
          exact hinside refuses write hact seen r hseen hr
  · rw [hfirst] at hrun
    cases hrun

end Blocks

section Atomicity

/-- If the unit raises, every call was clean and every row is as it was. -/
def LeavesNoTrace
    (clean : ω → Prop)
    (outcome : Outcome σ ω ε)
    (rows : σ) : Prop :=
  outcome.raised ≠ none → (∀ entry ∈ outcome.log, clean entry) ∧ outcome.rows = rows

theorem leavesNoTrace_block_iff
    {clean : ω → Prop} {acts : List (Act σ ω ε)} {rows : σ} :
    LeavesNoTrace clean (block acts rows) rows ↔
      ((run acts (World.start rows)).2 ≠ none →
        (∀ entry ∈ (run acts (World.start rows)).1.log, clean entry) ∧
          (run acts (World.start rows)).1.committed = rows) := by
  unfold LeavesNoTrace
  rw [block_log, block_raised]
  refine imp_congr_right fun hraised => and_congr_right fun _ => ?_
  rw [← block_raised] at hraised
  rw [block_rows_of_raised hraised]
  rfl

/-! ### Reading the outcome off a plan -/

/-- The act calls another system. -/
def Act.IsCall : Act σ ω ε → Prop
  | .inside _ _ => False
  | .outside _ => True

section Plans

variable {κ : Type*}

/-- Every step passes, after the steps ahead of it. -/
def AllPass
    (passes : List κ → κ → Prop)
    (before steps : List κ) : Prop :=
  ∀ ahead step behind, steps = ahead ++ step :: behind → passes (before ++ ahead) step

/-- A step ahead of the first call does not pass, or that call raises quietly, or it and
everything behind it pass. -/
def InTime
    (isCall : κ → Prop)
    (passes quiet : List κ → κ → Prop)
    (before steps : List κ) : Prop :=
  ∀ ahead step behind, steps = ahead ++ step :: behind → isCall step →
    (∀ s ∈ ahead, ¬ isCall s) →
    ¬ AllPass passes before ahead ∨ quiet (before ++ ahead) step ∨
      AllPass passes (before ++ ahead) (step :: behind)

variable {isCall : κ → Prop} {passes quiet : List κ → κ → Prop}
  {before steps : List κ} {step : κ}

theorem allPass_nil :
    AllPass passes before [] := by
  intro ahead s behind h
  exact absurd h.symm (by simp)

theorem allPass_cons :
    AllPass passes before (step :: steps) ↔
      passes before step ∧ AllPass passes (before ++ [step]) steps := by
  constructor
  · intro h
    refine ⟨by simpa using h [] step steps rfl, ?_⟩
    intro ahead s behind hsteps
    have hpass := h (step :: ahead) s behind (by rw [hsteps]; rfl)
    simpa using hpass
  · rintro ⟨hfirst, hrest⟩ ahead s behind hsteps
    rcases List.cons_eq_append_iff.mp hsteps with ⟨rfl, hnil⟩ | ⟨ahead', rfl, hcons⟩
    · cases hnil
      simpa using hfirst
    · simpa using hrest ahead' s behind hcons

theorem inTime_nil :
    InTime isCall passes quiet before [] := by
  intro ahead s behind h
  exact absurd h.symm (by simp)

theorem inTime_cons_of_not_call
    (hstep : ¬ isCall step) :
    InTime isCall passes quiet before (step :: steps) ↔
      (passes before step → InTime isCall passes quiet (before ++ [step]) steps) := by
  constructor
  · intro h hpass ahead s behind hsteps hcall hahead
    have hwhole := h (step :: ahead) s behind (by rw [hsteps]; rfl) hcall
      (List.forall_mem_cons.mpr ⟨hstep, hahead⟩)
    rw [allPass_cons] at hwhole
    simpa [hpass] using hwhole
  · intro h ahead s behind hsteps hcall hahead
    rcases List.cons_eq_append_iff.mp hsteps with ⟨rfl, hnil⟩ | ⟨ahead', rfl, hcons⟩
    · cases hnil
      exact absurd hcall hstep
    · by_cases hpass : passes before step
      · have hrest := h hpass ahead' s behind hcons hcall
          (fun s' hs' => hahead s' (List.mem_cons_of_mem _ hs'))
        rw [allPass_cons]
        simpa [hpass] using hrest
      · exact .inl (fun hall => hpass (allPass_cons.mp hall).1)

theorem inTime_cons_of_call
    (hstep : isCall step) :
    InTime isCall passes quiet before (step :: steps) ↔
      quiet before step ∨ AllPass passes before (step :: steps) := by
  constructor
  · intro h
    rcases h [] step steps rfl hstep (by simp) with hrefused | hquiet | hall
    · exact absurd allPass_nil hrefused
    · exact .inl (by simpa using hquiet)
    · exact .inr (by simpa using hall)
  · intro h ahead s behind hsteps hcall hahead
    rcases List.cons_eq_append_iff.mp hsteps with ⟨rfl, hnil⟩ | ⟨ahead', rfl, hcons⟩
    · cases hnil
      exact .inr (by simpa using h)
    · exact absurd hstep (hahead step List.mem_cons_self)

end Plans

section Forecasts

variable {κ : Type*}

/-- What each step of a plan does is told beforehand, from the steps ahead of it; `reached`
describes the worlds that these lead to when all of them pass. -/
structure Forecast
    (act : κ → Act σ ω ε)
    (plan : List κ)
    (passes : List κ → κ → Prop)
    (reached : List κ → World σ ω → Prop) : Prop where
  inside : ∀ {before : List κ} {step : κ} {behind : List κ} {world : World σ ω} {refuses write},
    plan = before ++ step :: behind → reached before world → act step = .inside refuses write →
      (refuses world.view = none ↔ passes before step) ∧
        (passes before step → reached (before ++ [step]) (world.write (write world.view)))
  outside : ∀ {before : List κ} {step : κ} {behind : List κ} {world : World σ ω} {call},
    plan = before ++ step :: behind → reached before world → act step = .outside call →
      ((world.answer call).raised = none ↔ passes before step) ∧
        (passes before step → reached (before ++ [step]) (world.called call))

variable {act : κ → Act σ ω ε} {passes quiet : List κ → κ → Prop}
  {reached : List κ → World σ ω → Prop} {isCall : κ → Prop} {clean : ω → Prop}
  {stamped : σ → Prop} {plan before steps : List κ} {world : World σ ω}

theorem Forecast.run_eq_none_iff
    (h : Forecast act plan passes reached)
    (hplan : plan = before ++ steps)
    (hreached : reached before world) :
    (run (steps.map act) world).2 = none ↔ AllPass passes before steps := by
  induction steps generalizing before world with
  | nil => exact ⟨fun _ => allPass_nil, fun _ => rfl⟩
  | cons step steps ih =>
      have hplan' : plan = before ++ [step] ++ steps := by simpa using hplan
      rw [List.map_cons, allPass_cons]
      cases hact : act step with
      | inside refuses write =>
          obtain ⟨hpass, hnext⟩ := h.inside hplan hreached hact
          rw [← hpass]
          simp only [run]
          cases hrefuses : refuses world.view with
          | some err => simp
          | none => simpa using ih hplan' (hnext (hpass.mp hrefuses))
      | outside call =>
          obtain ⟨hpass, hnext⟩ := h.outside hplan hreached hact
          rw [← hpass]
          simp only [run]
          cases hraised : (world.answer call).raised with
          | some err => simp
          | none => simpa using ih hplan' (hnext (hpass.mp hraised))

/-- A plan in time is a unit that raises without a trace, where a first call that is quiet
by the plan does. -/
theorem Forecast.traceless_of_inTime
    (h : Forecast act plan passes reached)
    (hplan : plan = before ++ steps)
    (hcall : ∀ step, isCall step ↔ (act step).IsCall)
    (hquiet : ∀ {before step world call}, reached before world → world.log = [] →
      act step = .outside call → quiet before step →
        ∃ err, (world.answer call).raised = some err ∧ clean (world.answer call).entry ∧
          (world.answer call).rows = world.committed)
    (hreached : reached before world)
    (hlog : world.log = [])
    (hintime : InTime isCall passes quiet before steps)
    (hraised : (run (steps.map act) world).2 ≠ none) :
    (∀ entry ∈ (run (steps.map act) world).1.log, clean entry) ∧
      (run (steps.map act) world).1.committed = world.committed := by
  induction steps generalizing before world with
  | nil => exact absurd rfl hraised
  | cons step steps ih =>
      have hplan' : plan = before ++ [step] ++ steps := by simpa using hplan
      cases hact : act step with
      | inside refuses write =>
          obtain ⟨hpass, hnext⟩ := h.inside hplan hreached hact
          rw [inTime_cons_of_not_call (by rw [hcall, hact]; exact not_false)] at hintime
          simp only [List.map_cons, hact, run] at hraised ⊢
          cases hrefuses : refuses world.view with
          | some err => simp [hlog]
          | none =>
              rw [hrefuses] at hraised
              exact ih hplan' (hnext (hpass.mp hrefuses)) hlog (hintime (hpass.mp hrefuses)) hraised
      | outside call =>
          rw [inTime_cons_of_call (by rw [hcall, hact]; trivial)] at hintime
          rcases hintime with hq | hall
          · obtain ⟨err, hanswer, hclean, hrows⟩ := hquiet hreached hlog hact hq
            simp only [List.map_cons, hact, run, hanswer]
            exact ⟨by simpa [hlog] using hclean, hrows⟩
          · exact absurd ((h.run_eq_none_iff hplan hreached).mpr hall) hraised

/-- A unit without a trace has a plan in time, where a first call that raises without a
trace is quiet by the plan.  The stamp is what a call that returns leaves in the rows,
unless its record is not clean. -/
theorem Forecast.inTime_of_traceless
    (h : Forecast act plan passes reached)
    (hplan : plan = before ++ steps)
    (hcall : ∀ step, isCall step ↔ (act step).IsCall)
    (hquiet : ∀ {before step world call err}, reached before world → world.log = [] →
      act step = .outside call → (world.answer call).raised = some err →
        clean (world.answer call).entry → (world.answer call).rows = world.committed →
          quiet before step)
    (hmark : ∀ call, Act.outside call ∈ steps.map act → ∀ n rows, (call n rows).raised = none →
      ¬ clean (call n rows).entry ∨ stamped (call n rows).rows)
    (hkeep : ∀ call, Act.outside call ∈ steps.map act → ∀ n rows, stamped rows →
      stamped (call n rows).rows)
    (hreached : reached before world)
    (hlog : world.log = [])
    (hfresh : ¬ stamped world.committed)
    (htraceless : (run (steps.map act) world).2 ≠ none →
      (∀ entry ∈ (run (steps.map act) world).1.log, clean entry) ∧
        (run (steps.map act) world).1.committed = world.committed) :
    InTime isCall passes quiet before steps := by
  induction steps generalizing before world with
  | nil => exact inTime_nil
  | cons step steps ih =>
      have hplan' : plan = before ++ [step] ++ steps := by simpa using hplan
      have hmark' := fun c hc => hmark c (List.mem_cons_of_mem _ hc)
      have hkeep' := fun c hc => hkeep c (List.mem_cons_of_mem _ hc)
      cases hact : act step with
      | inside refuses write =>
          obtain ⟨hpass, hnext⟩ := h.inside hplan hreached hact
          rw [inTime_cons_of_not_call (by rw [hcall, hact]; exact not_false)]
          intro hp
          simp only [List.map_cons, hact, run, hpass.mpr hp] at htraceless
          exact ih hplan' hmark' hkeep' (hnext hp) hlog hfresh htraceless
      | outside call =>
          rw [inTime_cons_of_call (by rw [hcall, hact]; trivial)]
          by_cases hall : AllPass passes before (step :: steps)
          · exact .inr hall
          · left
            obtain ⟨hclean, hrows⟩ := htraceless
              (fun hnone => hall ((h.run_eq_none_iff hplan hreached).mp hnone))
            simp only [List.map_cons, hact, run] at hclean hrows
            cases hraised : (world.answer call).raised with
            | some err =>
                rw [hraised] at hclean hrows
                exact hquiet hreached hlog hact hraised (hclean _ (by simp)) hrows
            | none =>
                rw [hraised] at hclean hrows
                have hmem : Act.outside call ∈ (step :: steps).map act := by simp [hact]
                rcases hmark call hmem _ _ hraised with hdirty | hstamp
                · refine absurd (hclean _ ((run_log_extends _ (world.called call)).subset ?_)) hdirty
                  simp [World.answer]
                · have hend := run_keeps hkeep' (show stamped (world.called call).committed from hstamp)
                  rw [hrows] at hend
                  exact absurd hend hfresh

end Forecasts

end Atomicity

end UnitOfWork
end SalesAgent
