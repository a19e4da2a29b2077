import SalesAgent.CreativeSync.Processing
import SalesAgent.Lib.Runs

/-!
# Verdicts of the background review

Under AI approval a sync leaves a creative pending and submits its review to a pool of
threads.  The review reads the creative, asks a model, reads the creative again, and
commits a verdict.  In between, administrators decide on creatives and buyers sync them
again, each in a transaction of its own.

The review knows its creative by the id alone, which creatives of several principals may
carry.  Its second read loads whatever row carries the id by then, and the commit writes the
verdict over the status of that row, and the loaded data over its data.

**Results.**
* `Step.fits`: the invariant of the reviews in flight.
* `verdict_sound`: a verdict is committed to the version it was asked for, which is still
  pending, in every run in which reviews are left alone.
* `verdict_overwrites`: a verdict over a rejection, and one on another principal's row.
-/

namespace SalesAgent
namespace CreativeReview

open CreativeSync (ApprovalMode)
open Idempotency (Json)
open MediaBuys (CreativeStatus)
open Runs (Preserved Restrict Run)

/-- The `data` column, a JSON object. -/
abbrev Data :=
  List (String × Json)

/-- `data[key] = value` -/
def Data.set
    (data : Data)
    (key : String)
    (value : Json) : Data :=
  data.filter (fun entry => entry.1 ≠ key) ++ [(key, value)]

/-- A row of `creatives` of one tenant; `revision` counts the syncs that wrote it. -/
structure Creative where
  principalId : String
  creativeId : String
  status : CreativeStatus
  data : Data
  revision : Nat

/-- The primary key within the tenant. -/
def Creative.primaryKey
    (c : Creative) : Option (String × String) :=
  some (c.principalId, c.creativeId)

/-- The creatives of the tenant. -/
abbrev Creatives :=
  IndexedTable Creative (String × String) Creative.primaryKey

/-- How far a review has come. -/
inductive Phase
  | submitted
  /-- the model was asked about the row that was read, unless the review gave up before -/
  | asked (loaded : Option Creative)
  /-- the second read returned a row, on which the verdict is going to be committed -/
  | decided (object : Creative) (verdict : CreativeStatus)
  | done

/-- A review of the pool, with what it was submitted for. -/
structure Review where
  task : Nat
  principalId : String
  creativeId : String
  revision : Nat
  phase : Phase

/-- The id of its task. -/
def Review.key
    (r : Review) : Option Nat :=
  some r.task

/-- The reviews of the pool. -/
abbrev Reviews :=
  IndexedTable Review Nat Review.key

/-- The creatives of a tenant and the reviews of the pool. -/
structure System where
  creatives : Creatives
  reviews : Reviews

/-- A transaction or a read of some party. -/
inductive Event
  /-- `sync_creatives` commits a creative and, under AI approval, submits its review -/
  | sync (principalId creativeId : String) (mode : ApprovalMode) (data : Data) (task : Nat)
  /-- `approve_creative`, on the row that its lookup by creative id returned -/
  | approve (row : String × String)
  /-- `reject_creative`, on the row that its lookup by creative id returned -/
  | reject (row : String × String) (reason : Json)
  /-- the first read of a review -/
  | ask (task : Nat) (row : Option (String × String))
  /-- the model answered, and the second read returned a row -/
  | decide (task : Nat) (row : String × String) (verdict : CreativeStatus)
  /-- the review commits its verdict -/
  | commit (task : Nat) (answer : Json)
  /-- the review failed, and marks the row that another lookup returned -/
  | fail (task : Nat) (row : Option (String × String)) (error : Json)

section Writes

variable (s : System)

/-- What a sync makes of a creative on file, or of a new one. -/
def synced
    (principalId creativeId : String)
    (mode : ApprovalMode)
    (data : Data) : Creative where
  principalId := principalId
  creativeId := creativeId
  status := mode.status
  data := data
  revision :=
    match s.creatives.find (principalId, creativeId) with
    | some row => row.revision + 1
    | none => 0

/-- The review that a sync submits. -/
def submittedReview
    (task : Nat)
    (row : Creative) : Review where
  task := task
  principalId := row.principalId
  creativeId := row.creativeId
  revision := row.revision
  phase := .submitted

/-- A review moves on. -/
def Reviews.advance
    (reviews : Reviews)
    (task : Nat)
    (phase : Phase) : Reviews :=
  reviews.modify task (fun r => { r with phase := phase }) (fun _ => rfl)

/-- `approve_creative` -/
def Creative.approve
    (c : Creative) : Creative :=
  { c with status := .approved }

/-- `reject_creative` -/
def Creative.reject
    (reason : Json)
    (c : Creative) : Creative :=
  { c with status := .rejected, data := Data.set c.data "rejection_reason" reason }

/-- The columns that the commit of a verdict writes: the status where it differs from the
loaded one, and the loaded data with the answer. -/
def Creative.withVerdict
    (object : Creative)
    (verdict : CreativeStatus)
    (answer : Json)
    (c : Creative) : Creative :=
  { c with
      status := if verdict = object.status then c.status else verdict
      data := Data.set object.data "ai_review" answer }

/-- The mark of a review that failed. -/
def Creative.withError
    (error : Json)
    (c : Creative) : Creative :=
  { c with status := .pendingReview, data := Data.set c.data "ai_review_error" error }

end Writes

/-- What an event does; a lookup by creative id may return any row that carries the id. -/
inductive Step : System → Event → System → Prop
  | sync
      {s : System} {reviews : Reviews}
      {principalId creativeId : String} {mode : ApprovalMode} {data : Data} {task : Nat}
      (hsubmit : if mode = .aiPowered then
          s.reviews.insert (submittedReview task (synced s principalId creativeId mode data)) =
            some reviews
        else reviews = s.reviews) :
      Step s (.sync principalId creativeId mode data task)
        ⟨s.creatives.put (synced s principalId creativeId mode data), reviews⟩
  | approve
      {s : System} {row : String × String} :
      Step s (.approve row) ⟨s.creatives.modify row Creative.approve (fun _ => rfl), s.reviews⟩
  | reject
      {s : System} {row : String × String} {reason : Json} :
      Step s (.reject row reason)
        ⟨s.creatives.modify row (Creative.reject reason) (fun _ => rfl), s.reviews⟩
  | ask
      {s : System} {review : Review} {loaded : Option Creative}
      (hreview : review ∈ s.reviews)
      (hphase : review.phase = .submitted)
      (hloaded : ∀ c, loaded = some c → c ∈ s.creatives ∧ c.creativeId = review.creativeId) :
      Step s (.ask review.task (loaded.bind Creative.primaryKey))
        ⟨s.creatives, s.reviews.advance review.task (.asked loaded)⟩
  | decide
      {s : System} {review : Review} {loaded : Option Creative} {row : Creative}
      {verdict : CreativeStatus}
      (hreview : review ∈ s.reviews)
      (hphase : review.phase = .asked loaded)
      (hrow : row ∈ s.creatives)
      (hid : row.creativeId = review.creativeId)
      (hverdict : loaded = none → verdict = .pendingReview) :
      Step s (.decide review.task (row.principalId, row.creativeId) verdict)
        ⟨s.creatives, s.reviews.advance review.task (.decided row verdict)⟩
  | commit
      {s : System} {review : Review} {object : Creative} {verdict : CreativeStatus} {answer : Json}
      (hreview : review ∈ s.reviews)
      (hphase : review.phase = .decided object verdict) :
      Step s (.commit review.task answer)
        ⟨s.creatives.modify (object.principalId, object.creativeId)
            (Creative.withVerdict object verdict answer) (fun _ => rfl),
          s.reviews.advance review.task .done⟩
  | fail
      {s : System} {review : Review} {row : Creative} {error : Json}
      (hreview : review ∈ s.reviews)
      (hrow : row ∈ s.creatives)
      (hid : row.creativeId = review.creativeId) :
      Step s (.fail review.task (some (row.principalId, row.creativeId)) error)
        ⟨s.creatives.modify (row.principalId, row.creativeId)
            (Creative.withError error) (fun _ => rfl),
          s.reviews.advance review.task .done⟩
  -- a review that finds no row to mark
  | vanish
      {s : System} {review : Review} {error : Json}
      (hreview : review ∈ s.reviews) :
      Step s (.fail review.task none error)
        ⟨s.creatives, s.reviews.advance review.task .done⟩

section Properties

variable (s : System)

/-- Some review of a creative with this id has not concluded. -/
def UnderReview
    (creativeId : String) : Prop :=
  ∃ review ∈ s.reviews, review.creativeId = creativeId ∧ review.phase ≠ .done

/-- The verdict of a review is committed to the row of the principal and the version that
the review was submitted for, while this is pending. -/
def VerdictSound
    (task : Nat) : Prop :=
  ∀ review ∈ s.reviews, review.task = task →
    ∀ object verdict, review.phase = .decided object verdict →
      ∀ row ∈ s.creatives, row.primaryKey = object.primaryKey →
        row.principalId = review.principalId ∧ row.creativeId = review.creativeId ∧
          row.revision = review.revision ∧ row.status = .pendingReview

/-- The event leaves the reviews in flight alone: no decision and no sync on a creative
under review, and no submission for an id that another principal's creative carries. -/
def LeavesAlone : Event → Prop
  | .sync principalId creativeId mode _ _ =>
      ¬ UnderReview s creativeId ∧
        (mode = .aiPowered →
          ∀ row ∈ s.creatives, row.creativeId = creativeId → row.principalId = principalId)
  | .approve row => ¬ UnderReview s row.2
  | .reject row _ => ¬ UnderReview s row.2
  | _ => True

end Properties

section Tables

variable {creatives creatives' : Creatives} {reviews : Reviews} {r r' : Review}

/-- The rows that carry an id are the same. -/
def SameRows
    (creatives creatives' : Creatives)
    (creativeId : String) : Prop :=
  ∀ row, row.creativeId = creativeId → (row ∈ creatives' ↔ row ∈ creatives)

theorem sameRows_modify
    {key : String × String}
    {f : Creative → Creative}
    (hf : ∀ c, (f c).primaryKey = c.primaryKey)
    {creativeId : String}
    (hne : creativeId ≠ key.2) :
    SameRows creatives (creatives.modify key f hf) creativeId := by
  intro row hrow
  have hid : ∀ c : Creative, c.primaryKey = some key → c.creativeId = key.2 := by
    intro c hc
    cases hc
    rfl
  rw [IndexedTable.mem_modify]
  constructor
  · rintro ⟨c, hc, heq⟩
    split_ifs at heq with hkey
    · have hkept : row.primaryKey = some key := by
        rw [← heq, hf, hkey]
      exact absurd (hrow.symm.trans (hid row hkept)) hne
    · exact heq ▸ hc
  · intro hmem
    refine ⟨row, hmem, if_neg fun hkey => hne ?_⟩
    exact hrow.symm.trans (hid row hkey)

theorem sameRows_put
    {row : Creative}
    {creativeId : String}
    (hne : creativeId ≠ row.creativeId) :
    SameRows creatives (creatives.put row) creativeId := by
  intro c hc
  rw [IndexedTable.mem_put]
  constructor
  · rintro (heq | ⟨hmem, _⟩)
    · exact absurd (hc.symm.trans (congrArg Creative.creativeId heq)) hne
    · exact hmem
  · intro hmem
    refine Or.inr ⟨hmem, Or.inr fun hkey => hne ?_⟩
    have hkeys : (c.principalId, c.creativeId) = (row.principalId, row.creativeId) :=
      Option.some.inj hkey
    exact hc.symm.trans (Prod.mk.inj hkeys).2

/-- The row that a review was submitted for stands: it has the version of the review, is
pending, and no other principal's row carries its id. -/
structure Standing
    (creatives : Creatives)
    (r : Review) : Prop where
  own : ∃ row ∈ creatives, row.primaryKey = some (r.principalId, r.creativeId) ∧
    row.revision = r.revision ∧ row.status = .pendingReview
  alone : ∀ row ∈ creatives, row.creativeId = r.creativeId → row.principalId = r.principalId

theorem Standing.of_sameRows
    (h : Standing creatives r)
    (hsame : SameRows creatives creatives' r.creativeId) :
    Standing creatives' r := by
  obtain ⟨row, hmem, hkey, hrow⟩ := h.own
  have hid : row.creativeId = r.creativeId := (Prod.mk.inj (Option.some.inj hkey)).2
  exact ⟨⟨row, (hsame row hid).mpr hmem, hkey, hrow⟩,
    fun c hc hcid => h.alone c ((hsame c hcid).mp hc) hcid⟩

/-- A mark that leaves a row pending leaves it standing. -/
theorem Standing.modify
    {key : String × String}
    {f : Creative → Creative}
    (hf : ∀ c, (f c).primaryKey = c.primaryKey)
    (hrevision : ∀ c, (f c).revision = c.revision)
    (hstatus : ∀ c, (f c).status = .pendingReview)
    (h : Standing creatives r) :
    Standing (creatives.modify key f hf) r := by
  have hkept : ∀ c, (if c.primaryKey = some key then f c else c).primaryKey = c.primaryKey := by
    intro c
    split_ifs
    · exact hf c
    · rfl
  obtain ⟨row, hmem, hkey, hrow, hpending⟩ := h.own
  refine ⟨⟨if row.primaryKey = some key then f row else row,
    IndexedTable.mem_modify _ |>.mpr ⟨row, hmem, rfl⟩, (hkept row).trans hkey, ?_, ?_⟩, ?_⟩
  · split_ifs
    · exact (hrevision row).trans hrow
    · exact hrow
  · split_ifs
    · exact hstatus row
    · exact hpending
  · intro c hc hcid
    obtain ⟨c', hc', heq⟩ := (IndexedTable.mem_modify _).mp hc
    have hkeys : some (c.principalId, c.creativeId) = some (c'.principalId, c'.creativeId) := by
      rw [← heq]
      exact hkept c'
    obtain ⟨hprincipal, hid⟩ := Prod.mk.inj (Option.some.inj hkeys)
    rw [hprincipal]
    exact h.alone c' hc' (hid.symm.trans hcid)

/-- The reviews have the same subject. -/
structure SameSubject
    (r r' : Review) : Prop where
  task : r'.task = r.task
  principalId : r'.principalId = r.principalId
  creativeId : r'.creativeId = r.creativeId
  revision : r'.revision = r.revision

theorem Standing.of_sameSubject
    (h : Standing creatives r)
    (hsame : SameSubject r r') :
    Standing creatives r' := by
  refine ⟨?_, ?_⟩
  · rw [hsame.principalId, hsame.creativeId, hsame.revision]
    exact h.own
  · rw [hsame.principalId, hsame.creativeId]
    exact h.alone

theorem inFlight_of_advance
    {task : Nat}
    {phase : Phase}
    (hmem : r' ∈ reviews.advance task phase)
    (hflight : r'.phase ≠ .done)
    (hlive : phase ≠ .done → ∀ r ∈ reviews, r.task = task → r.phase ≠ .done) :
    ∃ r ∈ reviews, r.phase ≠ .done ∧ SameSubject r r' ∧
      (r' = r ∧ r.task ≠ task ∨ r.task = task ∧ r'.phase = phase) := by
  obtain ⟨r, hr, heq⟩ := (IndexedTable.mem_modify _).mp hmem
  by_cases htask : r.task = task
  · have hkey : r.key = some task := by
      rw [Review.key, htask]
    rw [if_pos hkey] at heq
    subst heq
    exact ⟨r, hr, hlive hflight r hr htask, ⟨rfl, rfl, rfl, rfl⟩, Or.inr ⟨htask, rfl⟩⟩
  · have hkey : ¬ r.key = some task := fun hkey => htask (Option.some.inj hkey)
    rw [if_neg hkey] at heq
    subst heq
    exact ⟨r, hr, hflight, ⟨rfl, rfl, rfl, rfl⟩, Or.inl ⟨rfl, htask⟩⟩

theorem eq_of_task
    (hr : r ∈ reviews)
    (hr' : r' ∈ reviews)
    (h : r.task = r'.task) :
    r = r' := by
  refine reviews.eq_of_key_eq hr hr' (k := r.task) rfl ?_
  rw [Review.key, h]

end Tables

section Invariant

variable {s t : System} {e : Event}

/-- A review in flight fits the creatives: its row stands, what it decided on is that row, and
no other review of the id is in flight. -/
structure Fits
    (s : System)
    (r : Review) : Prop where
  standing : Standing s.creatives r
  object : ∀ c verdict, r.phase = .decided c verdict →
    c.primaryKey = some (r.principalId, r.creativeId)
  single : ∀ r' ∈ s.reviews, r'.creativeId = r.creativeId → r'.phase ≠ .done → r'.task = r.task

/-- Every review in flight fits the creatives. -/
def Fitting
    (s : System) : Prop :=
  ∀ r ∈ s.reviews, r.phase ≠ .done → Fits s r

theorem Fitting.write
    {creatives : Creatives}
    (h : Fitting s)
    (hstanding : ∀ r ∈ s.reviews, r.phase ≠ .done → Standing creatives r) :
    Fitting ⟨creatives, s.reviews⟩ := fun r hr hflight =>
  { standing := hstanding r hr hflight
    object := (h r hr hflight).object
    single := (h r hr hflight).single }

theorem Fitting.decision
    {key : String × String}
    {f : Creative → Creative}
    (hf : ∀ c, (f c).primaryKey = c.primaryKey)
    (h : Fitting s)
    (halone : ¬ UnderReview s key.2) :
    Fitting ⟨s.creatives.modify key f hf, s.reviews⟩ :=
  h.write fun r hr hflight => (h r hr hflight).standing.of_sameRows
    (sameRows_modify hf fun hid => halone ⟨r, hr, hid, hflight⟩)

/-- A review moves on, to a phase that fits. -/
theorem Fitting.advance
    {creatives : Creatives}
    {task : Nat}
    {phase : Phase}
    (h : Fitting s)
    (hlive : phase ≠ .done → ∀ r ∈ s.reviews, r.task = task → r.phase ≠ .done)
    (hstanding : ∀ r ∈ s.reviews, r.phase ≠ .done → r.task ≠ task ∨ phase ≠ .done →
      Standing creatives r)
    (hobject : ∀ r ∈ s.reviews, r.task = task → ∀ c verdict, phase = .decided c verdict →
      c.primaryKey = some (r.principalId, r.creativeId)) :
    Fitting ⟨creatives, s.reviews.advance task phase⟩ := by
  intro r' hr' hflight'
  obtain ⟨r, hr, hflight, hsame, hcase⟩ := inFlight_of_advance hr' hflight' hlive
  have hfits := h r hr hflight
  refine ⟨?_, ?_, ?_⟩
  · refine (hstanding r hr hflight ?_).of_sameSubject hsame
    rcases hcase with ⟨_, hne⟩ | ⟨_, hphase⟩
    · exact Or.inl hne
    · exact Or.inr (hphase ▸ hflight')
  · intro c verdict hc
    rw [hsame.principalId, hsame.creativeId]
    rcases hcase with ⟨heq, _⟩ | ⟨htask, hphase⟩
    · exact hfits.object c verdict (heq ▸ hc)
    · exact hobject r hr htask c verdict (hphase ▸ hc)
  · intro other' hother' hid hlive'
    obtain ⟨other, hother, hflightOther, hsameOther, _⟩ := inFlight_of_advance hother' hlive' hlive
    rw [hsameOther.task, hsame.task]
    refine hfits.single other hother ?_ hflightOther
    rw [← hsameOther.creativeId, hid, hsame.creativeId]

theorem Fitting.submit
    {row : Creative}
    {reviews : Reviews}
    {task : Nat}
    (h : Fitting s)
    (halone : ¬ UnderReview s row.creativeId)
    (hown : ∀ c ∈ s.creatives, c.creativeId = row.creativeId → c.principalId = row.principalId)
    (hpending : row.status = .pendingReview)
    (hinsert : s.reviews.insert (submittedReview task row) = some reviews) :
    Fitting ⟨s.creatives.put row, reviews⟩ := by
  intro r hr hflight
  rcases (IndexedTable.mem_insert hinsert r).mp hr with rfl | hold
  · have hstanding : Standing (s.creatives.put row) (submittedReview task row) := by
      refine ⟨⟨row, (IndexedTable.mem_put _).mpr (Or.inl rfl), rfl, rfl, hpending⟩, ?_⟩
      intro c hc hid
      rcases (IndexedTable.mem_put _).mp hc with rfl | ⟨hmem, _⟩
      · rfl
      · exact hown c hmem hid
    refine ⟨hstanding, nofun, ?_⟩
    intro r' hr' hid hlive
    rcases (IndexedTable.mem_insert hinsert r').mp hr' with rfl | hold'
    · rfl
    · exact absurd ⟨r', hold', hid, hlive⟩ halone
  · have hfits := h r hold hflight
    have hne : r.creativeId ≠ row.creativeId := fun hid => halone ⟨r, hold, hid, hflight⟩
    refine ⟨hfits.standing.of_sameRows (sameRows_put hne), hfits.object, ?_⟩
    intro r' hr' hid hlive
    rcases (IndexedTable.mem_insert hinsert r').mp hr' with rfl | hold'
    · exact absurd hid.symm hne
    · exact hfits.single r' hold' hid hlive

theorem Fits.secondRead
    {r : Review} {row : Creative}
    (h : Fits s r)
    (hrow : row ∈ s.creatives)
    (hid : row.creativeId = r.creativeId) :
    row.primaryKey = some (r.principalId, r.creativeId) := by
  rw [Creative.primaryKey, h.standing.alone row hrow hid, hid]

/-- Step lemma: every step that leaves the reviews alone keeps them fitting. -/
theorem Step.fits :
    Preserved (Restrict Step LeavesAlone) Fitting := by
  rintro s e t ⟨hstep, hcond⟩ h
  cases hstep with
  | @sync reviews principalId creativeId mode data task hsubmit =>
      obtain ⟨halone, hown⟩ := hcond
      by_cases hmode : mode = .aiPowered
      · rw [if_pos hmode] at hsubmit
        refine h.submit halone (hown hmode) ?_ hsubmit
        rw [hmode]
        rfl
      · rw [if_neg hmode] at hsubmit
        subst hsubmit
        exact h.write fun r hr hflight => (h r hr hflight).standing.of_sameRows
          (sameRows_put fun hid => halone ⟨r, hr, hid, hflight⟩)
  | approve =>
      exact h.decision _ hcond
  | reject =>
      exact h.decision _ hcond
  | @ask review loaded hreview hphase hloaded =>
      have hflight : review.phase ≠ .done := by
        rw [hphase]
        exact nofun
      refine h.advance ?_ (fun r hr hlive _ => (h r hr hlive).standing)
        (fun _ _ _ _ _ hc => nomatch hc)
      rintro - r hr htask
      rw [eq_of_task hr hreview htask]
      exact hflight
  | @decide review loaded row verdict hreview hphase hrow hid hverdict =>
      have hflight : review.phase ≠ .done := by
        rw [hphase]
        exact nofun
      refine h.advance ?_ (fun r hr hlive _ => (h r hr hlive).standing)
        ?_
      · rintro - r hr htask
        rw [eq_of_task hr hreview htask]
        exact hflight
      · rintro r hr htask c verdict' hc
        rw [eq_of_task hr hreview htask]
        cases hc
        exact (h review hreview hflight).secondRead hrow hid
  | @commit review object verdict answer hreview hphase =>
      have hflight : review.phase ≠ .done := by
        rw [hphase]
        exact nofun
      have hfits := h review hreview hflight
      have hid : object.creativeId = review.creativeId :=
        (Prod.mk.inj (Option.some.inj (hfits.object object verdict hphase))).2
      refine h.advance (absurd rfl) ?_ (fun _ _ _ _ _ hc => nomatch hc)
      intro r hr hlive hother
      refine (h r hr hlive).standing.of_sameRows (sameRows_modify _ fun hsame => ?_)
      exact hother.elim (fun hne => hne (hfits.single r hr (hsame.trans hid) hlive)) (absurd rfl)
  | @fail review row error hreview hrow hid =>
      refine h.advance (absurd rfl) ?_ (fun _ _ _ _ _ hc => nomatch hc)
      intro r hr hlive _
      exact (h r hr hlive).standing.modify _ (fun _ => rfl) (fun _ => rfl)
  | vanish hreview =>
      exact h.advance (absurd rfl) (fun r hr hlive _ => (h r hr hlive).standing)
        (fun _ _ _ _ _ hc => nomatch hc)

theorem Fits.verdictSound
    {r : Review}
    (h : Fits s r)
    {c : Creative} {verdict : CreativeStatus}
    (hphase : r.phase = .decided c verdict) :
    ∀ row ∈ s.creatives, row.primaryKey = c.primaryKey →
      row.principalId = r.principalId ∧ row.creativeId = r.creativeId ∧
        row.revision = r.revision ∧ row.status = .pendingReview := by
  intro row hrow hkey
  have hown := hkey.trans (h.object c verdict hphase)
  obtain ⟨own, hmem, hkeyOwn, hrevision, hpending⟩ := h.standing.own
  have heq : row = own := s.creatives.eq_of_key_eq hrow hmem hown hkeyOwn
  subst heq
  obtain ⟨hprincipal, hid⟩ := Prod.mk.inj (Option.some.inj hown)
  exact ⟨hprincipal, hid, hrevision, hpending⟩

/-- The commit of a sound verdict writes no creative that is decided or another's. -/
theorem VerdictSound.keeps
    {task : Nat} {answer : Json}
    (h : VerdictSound s task)
    (hstep : Step s (.commit task answer) t)
    {review : Review}
    (hreview : review ∈ s.reviews)
    (htask : review.task = task)
    {row : Creative}
    (hrow : row ∈ s.creatives)
    (hother : row.status ≠ .pendingReview ∨ row.principalId ≠ review.principalId) :
    row ∈ t.creatives := by
  generalize heq : Event.commit task answer = e at hstep
  cases hstep with
  | @commit review' object verdict answer' hreview' hphase =>
      cases heq
      rw [eq_of_task hreview hreview' htask] at hother
      have hkept : ¬ row.primaryKey = some (object.principalId, object.creativeId) := by
        intro hkey
        obtain ⟨hprincipal, -, -, hpending⟩ :=
          h review' hreview' rfl object verdict hphase row hrow hkey
        exact hother.elim (fun hne => hne hpending) (fun hne => hne hprincipal)
      exact IndexedTable.mem_modify_of_ne (f := Creative.withVerdict object verdict answer)
        (fun _ => rfl) hrow hkept
  | _ => cases heq

variable {creatives : Creatives} {es : List Event}

/-- In every run that leaves the reviews alone, a verdict is committed to the row that the
review was submitted for, in its version and while it is pending; every decided creative and
every creative of another principal stays as it is. -/
theorem verdict_sound
    (hrun : Run (Restrict Step LeavesAlone) ⟨creatives, .empty⟩ es s)
    (task : Nat) :
    VerdictSound s task ∧
      ∀ answer t, Step s (.commit task answer) t →
        ∀ review ∈ s.reviews, review.task = task →
          ∀ row ∈ s.creatives,
            row.status ≠ .pendingReview ∨ row.principalId ≠ review.principalId →
              row ∈ t.creatives := by
  have hstart : Fitting ⟨creatives, .empty⟩ :=
    fun r hr => absurd hr (IndexedTable.not_mem_empty r)
  have hfitting : Fitting s := hrun.preserves Step.fits hstart
  have hsound : VerdictSound s task := by
    intro review hreview _ object verdict hphase
    have hflight : review.phase ≠ .done := by
      rw [hphase]
      exact nofun
    exact (hfitting review hreview hflight).verdictSound hphase
  exact ⟨hsound, fun answer t hstep review hreview htask row hrow =>
    hsound.keeps hstep hreview htask hrow⟩

end Invariant

section Samples

/-- A creative after its first sync. -/
def sampleCreative
    (principalId : String)
    (status : CreativeStatus) : Creative :=
  ⟨principalId, "c1", status, [], 0⟩

/-- The first version of the creative is under review. -/
def reviewing
    (principalId : String)
    (creatives : Creatives)
    (phase : Phase) : System :=
  ⟨creatives, ⟨[⟨7, principalId, "c1", 0, phase⟩], List.pairwise_singleton _ _⟩⟩

variable {principalId : String} {creatives : Creatives} {row : Creative}

theorem synced_of_new
    {reviews : Reviews} {mode : ApprovalMode}
    (hnew : creatives.find (principalId, "c1") = none) :
    synced ⟨creatives, reviews⟩ principalId "c1" mode [] =
      sampleCreative principalId mode.status := by
  rw [synced, hnew]
  rfl

theorem reviewing_submitted
    (hnew : creatives.find (principalId, "c1") = none) :
    Step ⟨creatives, .empty⟩ (.sync principalId "c1" .aiPowered [] 7)
      (reviewing principalId (creatives.put (sampleCreative principalId .pendingReview))
        .submitted) := by
  have hsynced : synced ⟨creatives, .empty⟩ principalId "c1" .aiPowered [] =
      sampleCreative principalId .pendingReview := synced_of_new hnew
  rw [← hsynced]
  refine .sync ?_
  rw [hsynced]
  rfl

theorem reviewing_asked
    (hrow : row ∈ creatives)
    (hid : row.creativeId = "c1") :
    Step (reviewing principalId creatives .submitted) (.ask 7 row.primaryKey)
      (reviewing principalId creatives (.asked (some row))) := by
  have hloaded : ∀ c, some row = some c → c ∈ creatives ∧ c.creativeId = "c1" := by
    rintro c ⟨⟩
    exact ⟨hrow, hid⟩
  exact Step.ask (s := reviewing principalId creatives .submitted) (List.mem_singleton.mpr rfl)
    rfl hloaded

theorem reviewing_decided
    {object : Creative}
    (hrow : row ∈ creatives)
    (hid : row.creativeId = "c1") :
    Step (reviewing principalId creatives (.asked (some object)))
      (.decide 7 (row.principalId, row.creativeId) .approved)
      (reviewing principalId creatives (.decided row .approved)) :=
  Step.decide (s := reviewing principalId creatives (.asked (some object)))
    (List.mem_singleton.mpr rfl) rfl hrow hid
    (fun hnone => nomatch hnone : some object = none → CreativeStatus.approved = .pendingReview)

theorem reviewing_committed
    {object : Creative} {answer : Json} :
    Step (reviewing principalId creatives (.decided object .approved)) (.commit 7 answer)
      (reviewing principalId
        (creatives.modify (object.principalId, object.creativeId)
          (Creative.withVerdict object .approved answer) (fun _ => rfl))
        .done) :=
  Step.commit (s := reviewing principalId creatives (.decided object .approved))
    (List.mem_singleton.mpr rfl) rfl

theorem not_verdictSound
    {object : Creative}
    (hrow : row ∈ creatives)
    (hkey : row.primaryKey = object.primaryKey)
    (hbroken : row.principalId ≠ principalId ∨ row.status ≠ .pendingReview) :
    ¬ VerdictSound (reviewing principalId creatives (.decided object .approved)) 7 := by
  intro h
  obtain ⟨hprincipal, -, -, hpending⟩ :=
    h _ (List.mem_singleton.mpr rfl) rfl object .approved rfl row hrow hkey
  exact hbroken.elim (fun hne => hne hprincipal) (fun hne => hne hpending)

theorem mem_put_empty :
    row ∈ (IndexedTable.put .empty row : Creatives) :=
  (IndexedTable.mem_put _).mpr (Or.inl rfl)

/-- The verdict on a creative that was left alone. -/
theorem verdict_sound_of_untouched :
    ∃ s, Run (Restrict Step LeavesAlone) ⟨.empty, .empty⟩
        [.sync "alice" "c1" .aiPowered [] 7, .ask 7 (some ("alice", "c1")),
          .decide 7 ("alice", "c1") .approved] s ∧
      (∃ review ∈ s.reviews, review.task = 7 ∧
        ∃ object, review.phase = .decided object .approved) ∧
      VerdictSound s 7 := by
  let loaded := sampleCreative "alice" .pendingReview
  have hcond : LeavesAlone ⟨.empty, .empty⟩ (.sync "alice" "c1" .aiPowered [] 7) :=
    ⟨fun ⟨r, hr, _⟩ => IndexedTable.not_mem_empty r hr,
      fun _ row hrow => absurd hrow (IndexedTable.not_mem_empty row)⟩
  have hrun : Run (Restrict Step LeavesAlone) ⟨.empty, .empty⟩
      [.sync "alice" "c1" .aiPowered [] 7, .ask 7 (some ("alice", "c1")),
        .decide 7 ("alice", "c1") .approved]
      (reviewing "alice" (IndexedTable.put .empty loaded) (.decided loaded .approved)) :=
    .cons ⟨reviewing_submitted rfl, hcond⟩ <|
    .cons ⟨reviewing_asked mem_put_empty rfl, trivial⟩ <|
    .cons ⟨reviewing_decided mem_put_empty rfl, trivial⟩ <| .nil _
  exact ⟨_, hrun, ⟨_, List.mem_singleton.mpr rfl, rfl, _, rfl⟩, (verdict_sound hrun 7).1⟩

/-- A verdict is committed over the rejection of an administrator; and a review commits its
verdict to the creative of another principal. -/
theorem verdict_overwrites :
    (∃ es s t answer, Run Step ⟨.empty, .empty⟩ es s ∧ Step s (.commit 7 answer) t ∧
      ¬ VerdictSound s 7 ∧
      (∃ row ∈ s.creatives, row.primaryKey = some ("alice", "c1") ∧ row.status = .rejected) ∧
      ∃ row ∈ t.creatives, row.primaryKey = some ("alice", "c1") ∧ row.status = .approved) ∧
    ∃ es s t answer, Run Step ⟨.empty, .empty⟩ es s ∧ Step s (.commit 7 answer) t ∧
      ¬ VerdictSound s 7 ∧
      (∃ review ∈ s.reviews, review.task = 7 ∧ review.principalId = "bob") ∧
      (∃ row ∈ s.creatives, row.primaryKey = some ("alice", "c1") ∧ row.status = .pendingReview) ∧
      ∃ row ∈ t.creatives, row.primaryKey = some ("alice", "c1") ∧ row.status = .approved := by
  let loaded := sampleCreative "alice" .pendingReview
  have hloaded : loaded ∈ (IndexedTable.put .empty loaded : Creatives) := mem_put_empty
  constructor
  · -- the rejection falls between the two reads
    have hreject := IndexedTable.mem_modify_self (f := Creative.reject .null) (fun _ => rfl)
      hloaded rfl
    have hcommit := IndexedTable.mem_modify_self
      (f := Creative.withVerdict (loaded.reject .null) .approved .null) (fun _ => rfl) hreject rfl
    have hrun : Run Step ⟨.empty, .empty⟩
        [.sync "alice" "c1" .aiPowered [] 7, .ask 7 (some ("alice", "c1")),
          .reject ("alice", "c1") .null, .decide 7 ("alice", "c1") .approved]
        (reviewing "alice" _ (.decided (loaded.reject .null) .approved)) :=
      .cons (reviewing_submitted rfl) <| .cons (reviewing_asked mem_put_empty rfl) <|
      .cons .reject <| .cons (reviewing_decided hreject rfl) <| .nil _
    exact ⟨_, _, _, _, hrun, reviewing_committed, not_verdictSound hreject rfl (Or.inr nofun),
      ⟨_, hreject, rfl, rfl⟩, ⟨_, hcommit, rfl, rfl⟩⟩
  · -- two principals carry the id, and the lookup returns the row of the other
    have hother : loaded ∈ (IndexedTable.put (.put .empty loaded)
        (sampleCreative "bob" .pendingReview) : Creatives) :=
      (IndexedTable.mem_put _).mpr (Or.inr ⟨mem_put_empty, Or.inr (by decide)⟩)
    have hcommit := IndexedTable.mem_modify_self
      (f := Creative.withVerdict loaded .approved .null) (fun _ => rfl) hother rfl
    have hnew : (IndexedTable.put .empty loaded : Creatives).find ("bob", "c1") = none :=
      (IndexedTable.find_put_of_ne _ (by decide)).trans rfl
    have hsynced : Step ⟨.empty, .empty⟩ (.sync "alice" "c1" .requireHuman [] 0)
        ⟨IndexedTable.put .empty loaded, .empty⟩ := .sync rfl
    have hrun : Run Step ⟨.empty, .empty⟩
        [.sync "alice" "c1" .requireHuman [] 0, .sync "bob" "c1" .aiPowered [] 7,
          .ask 7 (some ("alice", "c1")), .decide 7 ("alice", "c1") .approved]
        (reviewing "bob" _ (.decided loaded .approved)) :=
      .cons hsynced <| .cons (reviewing_submitted hnew) <| .cons (reviewing_asked hother rfl) <|
      .cons (reviewing_decided hother rfl) <| .nil _
    exact ⟨_, _, _, _, hrun, reviewing_committed, not_verdictSound hother rfl (Or.inl (by decide)),
      ⟨_, List.mem_singleton.mpr rfl, rfl, rfl⟩, ⟨_, hother, rfl, rfl⟩, ⟨_, hcommit, rfl, rfl⟩⟩

end Samples

end CreativeReview
end SalesAgent
