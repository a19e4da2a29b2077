import SalesAgent.Accounts.Concurrent

/-!
# Upsert by natural key

Three predicates describe the natural key: the lookup of an entry, the check before its
insert, and the unique index.  The check and the index agree.  The lookup differs from
them twice.  Asked for a false sandbox flag it misses a row without the flag, which the
check then finds.  Asked for no brand id it takes a row with any, by design.

Whatever the order of the statements, the account ids and the natural keys of all rows,
committed or not, stay in step: a row a request has seen is there under the same key
until the request ends, rewritten by others or not.

**Results.**
* `Step.sound`: the invariant.
* `upsert_by_natural_key`: every natural key has one row, and the answer to an entry.
* `upsert_takes_other_brand`: an entry without a brand id, answered with an account that
  has one.
-/

namespace SalesAgent
namespace Accounts

open Runs (Run Restrict)

variable {tenantId : String} {sys sys' : System} {i : Nat} {s : Session}
variable {own : List Account} {rows rows' after : AccountRows}

theorem mem_overlay
    {own committed : List Account} {a : Account} :
    a ∈ overlay own committed ↔
      a ∈ own ∨ a ∈ committed ∧ a.accountId ∉ own.map (·.accountId) := by
  rw [overlay, List.mem_append, List.mem_filter, decide_eq_true_eq]

theorem exists_overlay
    {own committed : List Account} {a : Account}
    (ha : a ∈ own ∨ a ∈ committed) :
    ∃ a' ∈ overlay own committed, a'.accountId = a.accountId ∧
      (a' = a ∨ a' ∈ own) := by
  rcases ha with hown | hcommitted
  · exact ⟨a, mem_overlay.mpr (.inl hown), rfl, .inl rfl⟩
  · by_cases hid : a.accountId ∈ own.map (·.accountId)
    · obtain ⟨a', ha', heq⟩ := List.mem_map.mp hid
      exact ⟨a', mem_overlay.mpr (.inl ha'), heq, .inr ha'⟩
    · exact ⟨a, mem_overlay.mpr (.inr ⟨hcommitted, hid⟩), rfl, .inl rfl⟩

section Keys

/-- Account ids and natural keys determine each other. -/
structure UniqueKeys
    (tenantId : String)
    (sys : System) : Prop where
  tenant : ∀ a, sys.Version a → a.tenantId = tenantId
  sameId : ∀ a a', sys.Version a → sys.Version a' → a.accountId = a'.accountId →
    a.indexKey = a'.indexKey
  sameKey : ∀ a a' k, sys.Version a → sys.Version a' → a.indexKey = some k →
    a'.indexKey = some k → a.accountId = a'.accountId
  committed : (sys.committed.map (·.accountId)).Nodup
  own : ∀ i s, sys.sessions i = some s → (s.own.map (·.accountId)).Nodup

theorem System.Shows.version
    (h : sys.Shows tenantId i own rows)
    (hown : ∀ a ∈ own, sys.Version a)
    {a : Account}
    (ha : a ∈ rows.accounts)
    (htenant : a.tenantId = tenantId) :
    sys.Version a := by
  cases hvisible : rows.visible a with
  | true =>
      rcases mem_overlay.mp ((h.visible a htenant).mp ⟨ha, hvisible⟩) with hmine | ⟨hold, -⟩
      · exact hown a hmine
      · exact .inl hold
  | false =>
      obtain ⟨⟨j, s, -, hsession, hmem⟩, -⟩ := (h.hidden a htenant).mp ⟨ha, hvisible⟩
      exact .inr ⟨j, s, hsession, hmem⟩

/-- A row of the request, or a committed one, is shown under its keys. -/
theorem System.Shows.seen
    (h : sys.Shows tenantId i own rows)
    (hkeys : UniqueKeys tenantId sys)
    (hown : ∀ a ∈ own, sys.Version a)
    {a : Account}
    (ha : a ∈ own ∨ a ∈ sys.committed) :
    ∃ a' ∈ rows.accounts, rows.visible a' = true ∧ a'.tenantId = tenantId ∧
      a'.accountId = a.accountId ∧ a'.indexKey = a.indexKey := by
  have hversion : sys.Version a := ha.elim (hown a) .inl
  obtain ⟨a', ha', hid, hwhich⟩ := exists_overlay ha
  have hversion' : sys.Version a' := by
    rcases hwhich with rfl | hmine
    · exact hversion
    · exact hown a' hmine
  have htenant := hkeys.tenant a' hversion'
  obtain ⟨hmem, hvisible⟩ := (h.visible a' htenant).mpr ha'
  exact ⟨a', hmem, hvisible, htenant, hid, hkeys.sameId a' a hversion' hversion hid⟩

/-- Every version of a row is in the table, under its keys. -/
theorem System.Shows.covers
    (h : sys.Shows tenantId i s.own rows)
    (hkeys : UniqueKeys tenantId sys)
    (hsession : sys.sessions i = some s)
    {a : Account}
    (ha : sys.Version a) :
    ∃ a' ∈ rows.accounts, a'.tenantId = tenantId ∧ a'.accountId = a.accountId ∧
      a'.indexKey = a.indexKey := by
  have hown : ∀ a ∈ s.own, sys.Version a := fun a ha => .inr ⟨i, s, hsession, ha⟩
  have hshown : ∀ b, b ∈ s.own ∨ b ∈ sys.committed → b.accountId = a.accountId →
      sys.Version b → ∃ a' ∈ rows.accounts, a'.tenantId = tenantId ∧
        a'.accountId = a.accountId ∧ a'.indexKey = a.indexKey := by
    intro b hb hid hversion
    obtain ⟨a', hmem, -, htenant, hid', hkey'⟩ := h.seen hkeys hown hb
    exact ⟨a', hmem, htenant, hid'.trans hid, hkey'.trans (hkeys.sameId b a hversion ha hid)⟩
  rcases ha with hcommitted | ⟨j, s', hsession', hmem⟩
  · exact hshown a (.inr hcommitted) rfl (.inl hcommitted)
  · have hversion : sys.Version a := .inr ⟨j, s', hsession', hmem⟩
    by_cases hj : j = i
    · subst hj
      rw [hsession] at hsession'
      cases hsession'
      exact hshown a (.inl hmem) rfl hversion
    · by_cases hid : a.accountId ∈ sys.committed.map (·.accountId)
      · obtain ⟨b, hb, heq⟩ := List.mem_map.mp hid
        exact hshown b (.inr hb) heq (.inl hb)
      · have htenant := hkeys.tenant a hversion
        obtain ⟨hmem', -⟩ := (h.hidden a htenant).mpr ⟨⟨j, s', hj, hsession', hmem⟩, hid⟩
        exact ⟨a, hmem', htenant, rfl, rfl⟩

theorem Session.mem_wrote
    {a : Account}
    (ha : a ∈ s.wrote rows after) :
    a ∈ after.accounts ∧ a.tenantId = s.env.tenantId := by
  rw [wrote, List.mem_filter] at ha
  simp only [Bool.and_eq_true, decide_eq_true_eq] at ha
  exact ⟨ha.1, ha.2.1.2⟩

theorem Session.nodup_wrote
    (s : Session)
    (rows after : AccountRows) :
    ((s.wrote rows after).map (·.accountId)).Nodup := by
  rw [List.Nodup, List.pairwise_map]
  have hunique : (s.wrote rows after).Pairwise
      (fun a a' => ∀ k, a.primaryKey = some k → a'.primaryKey ≠ some k) :=
    after.accounts.unique.sublist List.filter_sublist
  refine hunique.imp_of_mem ?_
  intro a a' ha ha' hkeys hid
  refine hkeys (a.tenantId, a.accountId) rfl ?_
  rw [Account.primaryKey, (mem_wrote ha').2, ← (mem_wrote ha).2, ← hid]

theorem System.version_put
    {t : Session} {a : Account}
    (h : (sys.put i t).Version a) :
    sys.Version a ∨ a ∈ t.own := by
  rcases h with hcommitted | ⟨j, u, hsession, hmem⟩
  · exact .inl (.inl hcommitted)
  · simp only [System.put] at hsession
    split at hsession
    · cases hsession
      exact .inr hmem
    · exact .inl (.inr ⟨j, u, hsession, hmem⟩)

/-- A request writes rows under the keys they had, and new rows under new keys. -/
theorem UniqueKeys.wrote
    (h : UniqueKeys tenantId sys)
    (hsession : sys.sessions i = some s)
    (htenant : s.env.tenantId = tenantId)
    (hshows : sys.Shows tenantId i s.own rows)
    (hrewrites : Rewrites s.env.tenantId rows after)
    {t : Session}
    (hown : t.own = s.wrote rows after) :
    UniqueKeys tenantId (sys.put i t) := by
  have hversion : ∀ a ∈ rows.accounts, a.tenantId = tenantId → sys.Version a :=
    fun a ha => hshows.version (fun a ha => .inr ⟨i, s, hsession, ha⟩) ha
  -- a written row has the keys of a version, or keys no version has
  have hcases : ∀ a' ∈ t.own,
      (∃ a, sys.Version a ∧ a.accountId = a'.accountId ∧ a.indexKey = a'.indexKey) ∨
      (∀ a, sys.Version a → a.accountId ≠ a'.accountId ∧
        ∀ k, a'.indexKey = some k → a.indexKey ≠ some k) := by
    intro a' ha'
    rw [hown] at ha'
    obtain ⟨hmem, hof⟩ := Session.mem_wrote ha'
    rcases hrewrites.stands a' hmem with ⟨a, ha, hsame, hid, hkey⟩ | ⟨hprimary, hindex⟩
    · exact .inl ⟨a, hversion a ha (hsame.trans (hof.trans htenant)), hid, hkey⟩
    · refine .inr ?_
      intro a ha
      obtain ⟨b, hb, hbtenant, hbid, hbkey⟩ := hshows.covers h hsession ha
      constructor
      · intro hid
        refine rows.accounts.find_eq_none_iff.mp hprimary b hb ?_
        rw [Account.primaryKey, hbtenant, hbid, hid, hof, htenant]
      · intro k hk hkey
        exact rows.byNaturalKey.find_eq_none_iff.mp (hindex k hk) b hb (hbkey.trans hkey)
  have hsplit : ∀ a, (sys.put i t).Version a → sys.Version a ∨ a ∈ t.own :=
    fun a ha => System.version_put ha
  refine ⟨?_, ?_, ?_, h.committed, ?_⟩
  · intro a ha
    rcases hsplit a ha with hold | hmine
    · exact h.tenant a hold
    · rw [hown] at hmine
      exact (Session.mem_wrote hmine).2.trans htenant
  · intro a a' ha ha' hid
    rcases hsplit a ha with hold | hmine <;> rcases hsplit a' ha' with hold' | hmine'
    · exact h.sameId a a' hold hold' hid
    · rcases hcases a' hmine' with ⟨b, hb, hbid, hbkey⟩ | hnew
      · rw [← hbkey]
        exact h.sameId a b hold hb (hid.trans hbid.symm)
      · exact absurd hid (hnew a hold).1
    · rcases hcases a hmine with ⟨b, hb, hbid, hbkey⟩ | hnew
      · rw [← hbkey]
        exact h.sameId b a' hb hold' (hbid.trans hid)
      · exact absurd hid.symm (hnew a' hold').1
    · rw [hown] at hmine hmine'
      obtain ⟨hmem, hof⟩ := Session.mem_wrote hmine
      obtain ⟨hmem', hof'⟩ := Session.mem_wrote hmine'
      rw [after.eq_of_accountId hmem hmem' (hof.trans hof'.symm) hid]
  · intro a a' k ha ha' hk hk'
    rcases hsplit a ha with hold | hmine <;> rcases hsplit a' ha' with hold' | hmine'
    · exact h.sameKey a a' k hold hold' hk hk'
    · rcases hcases a' hmine' with ⟨b, hb, hbid, hbkey⟩ | hnew
      · exact (h.sameKey a b k hold hb hk (hbkey.trans hk')).trans hbid
      · exact absurd hk ((hnew a hold).2 k hk')
    · rcases hcases a hmine with ⟨b, hb, hbid, hbkey⟩ | hnew
      · exact hbid.symm.trans (h.sameKey b a' k hb hold' (hbkey.trans hk) hk')
      · exact absurd hk' ((hnew a' hold').2 k hk)
    · rw [hown] at hmine hmine'
      rw [after.eq_of_indexKey (Session.mem_wrote hmine).1 (Session.mem_wrote hmine').1 hk hk']
  · intro j u hu
    simp only [System.put] at hu
    split at hu
    · cases hu
      rw [hown]
      exact s.nodup_wrote rows after
    · exact h.own j u hu

theorem UniqueKeys.of_subset
    (h : UniqueKeys tenantId sys)
    (hversions : ∀ a, sys'.Version a → sys.Version a)
    (hcommitted : (sys'.committed.map (·.accountId)).Nodup)
    (hown : ∀ i s, sys'.sessions i = some s → (s.own.map (·.accountId)).Nodup) :
    UniqueKeys tenantId sys' where
  tenant := fun a ha => h.tenant a (hversions a ha)
  sameId := fun a a' ha ha' => h.sameId a a' (hversions a ha) (hversions a' ha')
  sameKey := fun a a' k ha ha' => h.sameKey a a' k (hversions a ha) (hversions a' ha')
  committed := hcommitted
  own := hown

theorem nodup_overlay
    {own committed : List Account}
    (hown : (own.map (·.accountId)).Nodup)
    (hcommitted : (committed.map (·.accountId)).Nodup) :
    ((overlay own committed).map (·.accountId)).Nodup := by
  rw [overlay, List.map_append, List.nodup_append]
  refine ⟨hown, hcommitted.sublist (List.filter_sublist.map _), ?_⟩
  intro id hid id' hid' heq
  obtain ⟨a, ha, rfl⟩ := List.mem_map.mp hid'
  have hkeep := (List.mem_filter.mp ha).2
  rw [decide_eq_true_eq] at hkeep
  rw [heq] at hid
  exact hkeep hid

end Keys

section Sound

/-- A committed row, or one that request `i` has written, is there under the id and the
key. -/
def System.Holds
    (sys : System)
    (i : Nat)
    (accountId : String)
    (key : Option IndexKey) : Prop :=
  ∃ a, (a ∈ sys.committed ∨ ∃ s, sys.sessions i = some s ∧ a ∈ s.own) ∧
    a.accountId = accountId ∧ a.indexKey = key

/-- What a request that is in the middle of an entry knows. -/
inductive Session.Tracked
    (s : Session)
    (holds : String → Option IndexKey → Prop) : Stage → Prop
  | ready : Tracked s holds .ready
  | closed : Tracked s holds .closed
  | missed {p : Provisioning} {looked : AccountRows}
      (hprovisioning : s.provisioning = some p)
      (hlooked : looked.getByNaturalKey s.env.tenantId p.naturalKey = none) :
      Tracked s holds (.missed looked)
  | unoccupied {p : Provisioning} {looked : AccountRows}
      (hprovisioning : s.provisioning = some p)
      (hlooked : looked.getByNaturalKey s.env.tenantId p.naturalKey = none) :
      Tracked s holds (.unoccupied looked)
  | occupied {p : Provisioning} {looked decided : AccountRows} {a : Account}
      (hprovisioning : s.provisioning = some p)
      (hlooked : looked.getByNaturalKey s.env.tenantId p.naturalKey = none)
      (hdecided : a ∈ decided.accounts)
      (hkey : a.indexKey = some (s.indexKey p))
      (hholds : holds a.accountId (some (s.indexKey p))) :
      Tracked s holds (.occupied looked decided a.accountId)
  /-- the row was found by the lookup -/
  | foundLooked {p : Provisioning} {looked : AccountRows} {existing : Account}
      (hprovisioning : s.provisioning = some p)
      (hlooked : looked.getByNaturalKey s.env.tenantId p.naturalKey = some existing)
      (hholds : holds existing.accountId existing.indexKey) :
      Tracked s holds (.found looked looked existing)
  /-- the row occupies the key -/
  | foundOccupant {p : Provisioning} {looked decided : AccountRows} {a existing : Account}
      (hprovisioning : s.provisioning = some p)
      (hlooked : looked.getByNaturalKey s.env.tenantId p.naturalKey = none)
      (hdecided : a ∈ decided.accounts)
      (hkey : a.indexKey = some (s.indexKey p))
      (hholds : holds existing.accountId (some (s.indexKey p))) :
      Tracked s holds (.found looked decided existing)

theorem Session.Tracked.mono
    {holds holds' : String → Option IndexKey → Prop} {stage : Stage}
    (h : s.Tracked holds stage)
    (himp : ∀ accountId key, holds accountId key → holds' accountId key) :
    s.Tracked holds' stage := by
  cases h with
  | ready => exact .ready
  | closed => exact .closed
  | missed hprovisioning hlooked => exact .missed hprovisioning hlooked
  | unoccupied hprovisioning hlooked => exact .unoccupied hprovisioning hlooked
  | occupied hprovisioning hlooked hdecided hkey hholds =>
      exact .occupied hprovisioning hlooked hdecided hkey (himp _ _ hholds)
  | foundLooked hprovisioning hlooked hholds =>
      exact .foundLooked hprovisioning hlooked (himp _ _ hholds)
  | foundOccupant hprovisioning hlooked hdecided hkey hholds =>
      exact .foundOccupant hprovisioning hlooked hdecided hkey (himp _ _ hholds)

theorem Session.Tracked.of_stage
    {holds : String → Option IndexKey → Prop} {stage stage' : Stage}
    (h : s.Tracked holds stage) :
    Session.Tracked { s with stage := stage' } holds stage := by
  cases h with
  | ready => exact .ready
  | closed => exact .closed
  | missed hprovisioning hlooked => exact .missed hprovisioning hlooked
  | unoccupied hprovisioning hlooked => exact .unoccupied hprovisioning hlooked
  | occupied hprovisioning hlooked hdecided hkey hholds =>
      exact .occupied hprovisioning hlooked hdecided hkey hholds
  | foundLooked hprovisioning hlooked hholds => exact .foundLooked hprovisioning hlooked hholds
  | foundOccupant hprovisioning hlooked hdecided hkey hholds =>
      exact .foundOccupant hprovisioning hlooked hdecided hkey hholds

/-- The invariant of the requests that run. -/
structure Sound
    (tenantId : String)
    (sys : System) : Prop where
  keys : UniqueKeys tenantId sys
  tenant : ∀ i s, sys.sessions i = some s → s.env.tenantId = tenantId
  tracked : ∀ i s, sys.sessions i = some s → s.Tracked (sys.Holds i) s.stage

theorem mem_getByNaturalKey_tenant
    {rows : AccountRows} {key : NaturalKey} {a : Account}
    (h : rows.getByNaturalKey tenantId key = some a) :
    a ∈ rows.accounts ∧ rows.visible a = true ∧ a.tenantId = tenantId :=
  let hmem := AccountRows.mem_of_getByNaturalKey h
  ⟨hmem.1, hmem.2.1, hmem.2.2.1⟩

theorem System.Shows.holds
    (h : sys.Shows tenantId i s.own rows)
    (hsession : sys.sessions i = some s)
    {a : Account}
    (ha : a ∈ rows.accounts)
    (hvisible : rows.visible a = true)
    (htenant : a.tenantId = tenantId) :
    sys.Holds i a.accountId a.indexKey := by
  refine ⟨a, ?_, rfl, rfl⟩
  rcases mem_overlay.mp ((h.visible a htenant).mp ⟨ha, hvisible⟩) with hmine | ⟨hold, -⟩
  · exact .inr ⟨s, hsession, hmine⟩
  · exact .inl hold

theorem Sound.exists_shown
    (h : Sound tenantId sys)
    (hsession : sys.sessions i = some s)
    (hshows : sys.Shows tenantId i s.own rows)
    {accountId : String} {key : Option IndexKey}
    (hholds : sys.Holds i accountId key) :
    ∃ a ∈ rows.accounts, rows.visible a = true ∧ a.tenantId = tenantId ∧
      a.accountId = accountId ∧ a.indexKey = key := by
  obtain ⟨a, hwhere, rfl, rfl⟩ := hholds
  refine hshows.seen h.keys (fun a ha => .inr ⟨i, s, hsession, ha⟩) ?_
  rcases hwhere with hcommitted | ⟨s', hsession', hmine⟩
  · exact .inr hcommitted
  · rw [hsession] at hsession'
    cases hsession'
    exact .inl hmine

/-- The read of a request that is in the middle of an entry. -/
theorem Sound.advance
    {p : Provisioning} {stage : Stage}
    (h : Sound tenantId sys)
    (hsession : sys.sessions i = some s)
    (hprovisioning : s.provisioning = some p)
    (hshows : sys.Shows tenantId i s.own rows)
    (hadvance : s.advance p rows = some stage) :
    s.Tracked (sys.Holds i) stage := by
  have htenant := h.tenant i s hsession
  have hoccupant : ∀ {existing : Account},
      rows.findNaturalKeyConflict (s.newRow p) = some existing →
      existing ∈ rows.accounts ∧ existing.indexKey = some (s.indexKey p) ∧
        sys.Holds i existing.accountId (some (s.indexKey p)) := by
    intro existing hconflict
    obtain ⟨hmem, hvisible, k, hk, hkey⟩ := AccountRows.mem_of_findNaturalKeyConflict hconflict
    have hown : (s.newRow p).indexKey = some (s.indexKey p) := createdRow_indexKey
    rw [hown] at hk
    rw [← hk] at hkey
    have hof : existing.tenantId = tenantId :=
      (AccountRows.tenantId_of_indexKey hkey hown).trans htenant
    exact ⟨hmem, hkey, hkey ▸ hshows.holds hsession hmem hvisible hof⟩
  have htracked := h.tracked i s hsession
  unfold Session.advance at hadvance
  cases hstage : s.stage with
  | ready =>
      rw [hstage] at hadvance
      simp only at hadvance
      cases hfound : rows.getByNaturalKey s.env.tenantId p.naturalKey with
      | some existing =>
          rw [hfound] at hadvance
          cases hadvance
          obtain ⟨hmem, hvisible, hof⟩ := mem_getByNaturalKey_tenant hfound
          exact .foundLooked hprovisioning hfound
            (hshows.holds hsession hmem hvisible (hof.trans htenant))
      | none =>
          rw [hfound] at hadvance
          cases hadvance
          exact .missed hprovisioning hfound
  | missed looked =>
      rw [hstage] at hadvance htracked
      simp only at hadvance
      cases htracked with
      | missed hprovisioning' hlooked =>
          rw [hprovisioning] at hprovisioning'
          cases hprovisioning'
          cases hconflict : rows.findNaturalKeyConflict (s.newRow p) with
          | some existing =>
              rw [hconflict] at hadvance
              cases hadvance
              obtain ⟨hmem, hkey, hholds⟩ := hoccupant hconflict
              exact .occupied hprovisioning hlooked hmem hkey hholds
          | none =>
              rw [hconflict] at hadvance
              cases hadvance
              exact .unoccupied hprovisioning hlooked
  | unoccupied looked =>
      rw [hstage] at hadvance htracked
      simp only at hadvance
      cases htracked with
      | unoccupied hprovisioning' hlooked =>
          rw [hprovisioning] at hprovisioning'
          cases hprovisioning'
          cases hconflict : rows.findNaturalKeyConflict (s.newRow p) with
          | some existing =>
              rw [hconflict] at hadvance
              cases hadvance
              obtain ⟨hmem, hkey, hholds⟩ := hoccupant hconflict
              exact .occupied hprovisioning hlooked hmem hkey hholds
          | none =>
              rw [hconflict] at hadvance
              cases hadvance
  | occupied looked decided accountId =>
      rw [hstage] at hadvance htracked
      simp only [Option.map_eq_some_iff] at hadvance
      obtain ⟨existing, hfound, rfl⟩ := hadvance
      cases htracked with
      | occupied hprovisioning' hlooked hdecided hkey hholds =>
          rw [hprovisioning] at hprovisioning'
          cases hprovisioning'
          obtain ⟨⟨-, -, hid⟩, -⟩ := AccountRows.getById_eq_some_iff.mp hfound
          rw [← hid] at hholds
          exact .foundOccupant hprovisioning hlooked hdecided hkey hholds
  | found looked decided existing =>
      rw [hstage] at hadvance
      cases hadvance
  | closed =>
      rw [hstage] at hadvance
      cases hadvance

/-- A request goes on. -/
theorem Sound.put
    (h : Sound tenantId sys)
    {t : Session}
    (hkeys : UniqueKeys tenantId (sys.put i t))
    (htenant : t.env.tenantId = tenantId)
    (htracked : t.Tracked ((sys.put i t).Holds i) t.stage) :
    Sound tenantId (sys.put i t) := by
  refine ⟨hkeys, ?_, ?_⟩
  · intro j u hu
    simp only [System.put] at hu
    split at hu
    · cases hu
      exact htenant
    · exact h.tenant j u hu
  · intro j u hu
    by_cases hj : j = i
    · subst hj
      simp only [System.put, if_true] at hu
      cases hu
      exact htracked
    · simp only [System.put, if_neg hj] at hu
      refine (h.tracked j u hu).mono ?_
      rintro accountId key ⟨a, hwhere, hid, hkey⟩
      refine ⟨a, ?_, hid, hkey⟩
      rcases hwhere with hcommitted | ⟨u', hu', hmine⟩
      · exact .inl hcommitted
      · exact .inr ⟨u', by simp only [System.put, if_neg hj]; exact hu', hmine⟩

theorem UniqueKeys.put_same
    (h : UniqueKeys tenantId sys)
    {t : Session}
    (hown : ∀ a ∈ t.own, sys.Version a)
    (hnodup : (t.own.map (·.accountId)).Nodup) :
    UniqueKeys tenantId (sys.put i t) := by
  refine h.of_subset ?_ h.committed ?_
  · intro a ha
    exact (System.version_put ha).elim id (hown a)
  · intro j u hu
    simp only [System.put] at hu
    split at hu
    · cases hu
      exact hnodup
    · exact h.own j u hu

/-- A request ends: its rows are committed or gone. -/
theorem Sound.drop
    (h : Sound tenantId sys)
    {committed : List Account}
    (hversions : ∀ a ∈ committed, sys.Version a)
    (hnodup : (committed.map (·.accountId)).Nodup)
    (hkept : ∀ a ∈ sys.committed, ∃ a' ∈ committed, a'.accountId = a.accountId) :
    Sound tenantId ({ sys with committed := committed }.drop i) := by
  have hsession : ∀ j u, ({ sys with committed := committed }.drop i).sessions j = some u →
      j ≠ i ∧ sys.sessions j = some u := by
    intro j u hu
    by_cases hj : j = i
    · simp only [System.drop, if_pos hj] at hu
      cases hu
    · simp only [System.drop, if_neg hj] at hu
      exact ⟨hj, hu⟩
  refine ⟨h.keys.of_subset ?_ hnodup ?_, ?_, ?_⟩
  · rintro a (hcommitted | ⟨j, u, hu, hmem⟩)
    · exact hversions a hcommitted
    · exact .inr ⟨j, u, (hsession j u hu).2, hmem⟩
  · exact fun j u hu => h.keys.own j u (hsession j u hu).2
  · exact fun j u hu => h.tenant j u (hsession j u hu).2
  · intro j u hu
    obtain ⟨hj, hu'⟩ := hsession j u hu
    refine (h.tracked j u hu').mono ?_
    rintro accountId key ⟨a, hwhere, hid, hkey⟩
    rcases hwhere with hcommitted | ⟨u', hu'', hmine⟩
    · obtain ⟨a', ha', hid'⟩ := hkept a hcommitted
      have hsame := h.keys.sameId a' a (hversions a' ha') (.inl hcommitted) hid'
      exact ⟨a', .inl ha', hid'.trans hid, hsame.trans hkey⟩
    · exact ⟨a, .inr ⟨u', by simp only [System.drop, if_neg hj]; exact hu'', hmine⟩, hid, hkey⟩

/-- Every statement of every request keeps the invariant. -/
theorem Step.sound
    {e : Event}
    (hstep : Step tenantId sys e sys')
    (h : Sound tenantId sys) :
    Sound tenantId sys' := by
  cases hstep with
  | opened hfree htenant haccepted hshows =>
      rename_i j env req before
      have hproven : Sound tenantId { sys with proven := provenChallenges env req before ++
          sys.proven } :=
        ⟨⟨h.keys.tenant, h.keys.sameId, h.keys.sameKey, h.keys.committed, h.keys.own⟩,
          h.tenant, h.tracked⟩
      exact hproven.put (hproven.keys.put_same (fun a ha => absurd ha List.not_mem_nil)
        List.nodup_nil) htenant .ready
  | read hsession hprovisioning hshows hadvance =>
      rename_i j s p rows stage
      have hkeys : UniqueKeys tenantId (sys.put j { s with stage := stage }) :=
        h.keys.put_same (fun a ha => .inr ⟨j, s, hsession, ha⟩) (h.keys.own j s hsession)
      refine h.put hkeys (h.tenant j s hsession) ?_
      have htracked : s.Tracked ((sys.put j { s with stage := stage }).Holds j) stage := by
        refine (h.advance hsession hprovisioning hshows hadvance).mono ?_
        rintro accountId key ⟨a, hwhere, hid, hkey⟩
        refine ⟨a, ?_, hid, hkey⟩
        rcases hwhere with hcommitted | ⟨s', hsession', hmine⟩
        · exact .inl hcommitted
        · rw [hsession] at hsession'
          cases hsession'
          exact .inr ⟨{ s with stage := stage }, by simp only [System.put, if_true], hmine⟩
      exact htracked.of_stage
  | answered hsession hshows hact hunlocked =>
      rename_i j s rows after result
      exact h.put (h.keys.wrote hsession (h.tenant j s hsession) hshows
        (Session.acted hact).rewrites rfl) (h.tenant j s hsession) .ready
  | closed hsession hstage hanswered hmissing hshows hclosed hunlocked =>
      rename_i j s rows closed
      exact h.put (h.keys.wrote hsession (h.tenant j s hsession) hshows
        (rewrites_deleteMissing hclosed) rfl) (h.tenant j s hsession) .closed
  | committed hsession hanswered hstage hlive =>
      rename_i j s
      refine h.drop ?_ (nodup_overlay (h.keys.own j s hsession) h.keys.committed) ?_
      · intro a ha
        rcases mem_overlay.mp ha with hmine | ⟨hold, -⟩
        · exact .inr ⟨j, s, hsession, hmine⟩
        · exact .inl hold
      · intro a ha
        obtain ⟨a', ha', hid, -⟩ := @exists_overlay s.own _ _ (.inr ha)
        exact ⟨a', ha', hid⟩
  | discarded hsession =>
      exact h.drop (fun a ha => .inl ha) h.keys.committed (fun a ha => ⟨a, ha, rfl⟩)

end Sound

section Upsert

theorem indexKey_of_matches
    {key : NaturalKey} {a : Account}
    (h : key.matches a = true) :
    ∃ brandId, (key.brandId = none ∨ brandId = key.brandId) ∧
      a.indexKey = some { key.indexKey a.tenantId with brandId := brandId } := by
  simp only [NaturalKey.matches, Bool.and_eq_true, decide_eq_true_eq, Option.any_eq_true,
    Bool.or_eq_true, Option.isNone_iff_eq_none] at h
  obtain ⟨⟨hoperator, brand, hbrand, hdomain, hbrandId⟩, hsandbox⟩ := h
  refine ⟨brand.brandId, hbrandId, ?_⟩
  have hflag : a.sandbox.getD false = key.sandbox.getD false := by
    cases hkey : key.sandbox with
    | some flag =>
        rw [hkey] at hsandbox
        rw [of_decide_eq_true hsandbox]
    | none =>
        rw [hkey] at hsandbox
        have hne := of_decide_eq_true hsandbox
        cases hs : a.sandbox with
        | none => rfl
        | some flag =>
            rw [hs] at hne
            cases flag with
            | false => rfl
            | true => exact absurd rfl hne
  simp only [Account.indexKey, NaturalKey.indexKey, hbrand, hoperator, hdomain, hflag,
    Option.map_some]

theorem NaturalKey.indexKey_without
    {key : NaturalKey}
    (h : key.brandId = none) :
    { key.indexKey tenantId with brandId := none } = key.indexKey tenantId := by
  simp only [NaturalKey.indexKey, h]

/-- The rows the lookup of the entry was shown. -/
def Stage.looked : Stage → Option AccountRows
  | .missed looked => some looked
  | .unoccupied looked => some looked
  | .occupied looked _ _ => some looked
  | .found looked _ _ => some looked
  | .ready => none
  | .closed => none

/-- The rows in which it is decided whether to insert: those of the statement that found
the account, or else those the insert meets. -/
def Stage.decided
    (rows : AccountRows) : Stage → AccountRows
  | .found _ decided _ => decided
  | _ => rows

/-- The answer to a provisioning entry: the account that has the key of the entry, or,
where the entry names no brand id, the account with one that its lookup returned; it is
created where the lookup returned none and no row had the key. -/
structure Upserted
    (tenantId : String)
    (key : NaturalKey)
    (stage : Stage)
    (rows after : AccountRows)
    (result : SyncResponseAccount) : Prop where
  account : ∃ a, result.accountId = some a.accountId ∧
    after.getById tenantId a.accountId = some a ∧
    (a.indexKey = some (key.indexKey tenantId) ∨
      key.brandId = none ∧
        ∃ looked existing brandId, stage.looked = some looked ∧
          looked.getByNaturalKey tenantId key = some existing ∧
          existing.accountId = a.accountId ∧
          a.indexKey = some { key.indexKey tenantId with brandId := some brandId })
  created : result.action = .created ↔
    stage.looked.bind (·.getByNaturalKey tenantId key) = none ∧
      ∀ a ∈ (stage.decided rows).accounts, a.indexKey ≠ some (key.indexKey tenantId)

theorem Rewrites.getById
    (h : Rewrites tenantId rows after)
    {a : Account}
    (ha : a ∈ rows.accounts)
    (hvisible : rows.visible a = true) :
    ∃ a', after.getById a.tenantId a.accountId = some a' ∧ a'.accountId = a.accountId ∧
      a'.indexKey = a.indexKey := by
  obtain ⟨a', ha', htenant, hid, hkey⟩ := h.kept a ha
  refine ⟨a', AccountRows.getById_eq_some_iff.mpr ⟨⟨ha', htenant, hid⟩, ?_⟩, hid, hkey⟩
  rw [AccountRows.visible, h.staged, htenant, hid]
  exact hvisible

theorem getById_insertGranted
    {account : Account} {principalId : String}
    (hprimary : rows.accounts.find (account.tenantId, account.accountId) = none)
    (hindex : ∀ k, account.indexKey = some k → rows.byNaturalKey.find k = none) :
    (rows.insertGranted account principalId hprimary hindex).getById
      account.tenantId account.accountId = some account := by
  refine AccountRows.getById_eq_some_iff.mpr ⟨⟨List.mem_cons_self, rfl, rfl⟩, ?_⟩
  rw [AccountRows.visible, decide_eq_true_eq]
  intro hstaged
  have hsome := rows.stagedOfAccounts _ hstaged
  rw [hprimary] at hsome
  cases hsome

/-- The answer to a provisioning entry that did not fail. -/
theorem Sound.upserted
    (h : Sound tenantId sys)
    (hsession : sys.sessions i = some s)
    (hshows : sys.Shows tenantId i s.own rows)
    {result : SyncResponseAccount}
    (hact : s.act rows = some (after, result))
    {entry : SyncEntry}
    (hentry : s.entry = some entry)
    (haccount : entry.account = none)
    (haction : result.action ≠ .failed) :
    ∃ brand operator, entry.brand = some brand ∧ entry.operator = some operator ∧
      Upserted tenantId (naturalKey brand operator entry.sandbox) s.stage rows after result := by
  have htenant := h.tenant i s hsession
  have htracked := h.tracked i s hsession
  have hacted := Session.acted hact
  have hrewrites := hacted.rewrites
  cases hacted with
  | failed hresult hfailed => exact absurd hfailed haction
  | settings hprovisioning hentry' haccount' hfound hgates hresult =>
      rw [hentry] at hentry'
      cases hentry'
      rw [haccount] at haccount'
      cases haccount'
  | applied hprovisioning hstage hresult hupdated =>
      rename_i p looked decided existing
      have hp := Session.provisions hprovisioning
      have heq := hentry.symm.trans hp.entry
      cases heq
      refine ⟨p.brand, p.operator, hp.brand, hp.operator, ?_⟩
      rw [hstage] at htracked ⊢
      have hwritten : ∀ key, sys.Holds i existing.accountId key →
          ∃ a', (rows.write s.env.tenantId existing.accountId
              (changesOf p.entry existing .provisioning)).getById tenantId existing.accountId =
                some a' ∧ a'.accountId = existing.accountId ∧ a'.indexKey = key := by
        intro key hholds
        obtain ⟨a, ha, hvisible, hof, hid, hkey⟩ := h.exists_shown hsession hshows hholds
        obtain ⟨a', hget, hid', hkey'⟩ := hrewrites.getById ha hvisible
        rw [hof, hid] at hget
        exact ⟨a', hget, hid'.trans hid, hkey'.trans hkey⟩
      cases htracked with
      | foundLooked hprovisioning' hlooked hholds =>
          rw [hprovisioning] at hprovisioning'
          cases hprovisioning'
          rw [htenant] at hlooked
          obtain ⟨a', hget, hid, hkey⟩ := hwritten _ hholds
          obtain ⟨-, -, hof, hmatches⟩ := AccountRows.mem_of_getByNaturalKey hlooked
          obtain ⟨brandId, hbrandId, hindex⟩ := indexKey_of_matches hmatches
          rw [hof] at hindex
          constructor
          · refine ⟨a', by rw [hresult, hid], by rw [hid]; exact hget, ?_⟩
            rcases hbrandId with hnone | rfl
            · cases brandId with
              | none =>
                  exact .inl (hkey.trans (hindex.trans
                    (congrArg some (NaturalKey.indexKey_without hnone))))
              | some value =>
                  exact .inr ⟨hnone, looked, existing, value, rfl, hlooked, hid.symm,
                    hkey.trans hindex⟩
            · exact .inl (hkey.trans hindex)
          · refine ⟨fun hcreated => absurd hcreated hupdated, ?_⟩
            rintro ⟨hnone, -⟩
            simp only [Stage.looked, Option.bind_some] at hnone
            rw [Provisioning.naturalKey] at hlooked
            rw [hlooked] at hnone
            cases hnone
      | foundOccupant hprovisioning' hlooked hdecided hkey hholds =>
          rw [hprovisioning] at hprovisioning'
          cases hprovisioning'
          rw [Session.indexKey, htenant] at hkey hholds
          obtain ⟨a', hget, hid, hkey'⟩ := hwritten _ hholds
          constructor
          · exact ⟨a', by rw [hresult, hid], by rw [hid]; exact hget, .inl hkey'⟩
          · refine ⟨fun hcreated => absurd hcreated hupdated, ?_⟩
            rintro ⟨-, hfree⟩
            exact absurd hkey (hfree _ hdecided)
  | created hprovisioning hstage hprimary hindex hresult hcreated =>
      rename_i p looked
      have hp := Session.provisions hprovisioning
      have heq := hentry.symm.trans hp.entry
      cases heq
      refine ⟨p.brand, p.operator, hp.brand, hp.operator, ?_⟩
      rw [hstage] at htracked ⊢
      have hown : (s.newRow p).indexKey = some (s.indexKey p) := createdRow_indexKey
      have hof : (s.newRow p).tenantId = tenantId := htenant
      cases htracked with
      | unoccupied hprovisioning' hlooked =>
          rw [hprovisioning] at hprovisioning'
          cases hprovisioning'
          constructor
          · refine ⟨s.newRow p, hresult, ?_, .inl ?_⟩
            · rw [← hof]
              exact getById_insertGranted hprimary hindex
            · rw [hown, Session.indexKey, htenant]
              rfl
          · refine ⟨fun _ => ⟨?_, ?_⟩, fun _ => hcreated⟩
            · rw [htenant] at hlooked
              exact hlooked
            · intro a ha hkey
              refine rows.byNaturalKey.find_eq_none_iff.mp (hindex _ hown) a ha ?_
              rw [Session.indexKey, htenant]
              exact hkey

/-- A tenant whose accounts have unique ids and natural keys, with no request under way. -/
structure AtRest
    (tenantId : String)
    (sys : System) : Prop where
  tenant : ∀ a ∈ sys.committed, a.tenantId = tenantId
  ids : (sys.committed.map (·.accountId)).Nodup
  keys : ∀ a ∈ sys.committed, ∀ a' ∈ sys.committed, ∀ k, a.indexKey = some k →
    a'.indexKey = some k → a.accountId = a'.accountId
  sessions : ∀ i, sys.sessions i = none

theorem AtRest.sound
    (h : AtRest tenantId sys) :
    Sound tenantId sys := by
  have hversion : ∀ a, sys.Version a → a ∈ sys.committed := by
    rintro a (hcommitted | ⟨i, s, hsession, -⟩)
    · exact hcommitted
    · rw [h.sessions] at hsession
      cases hsession
  have hnone : ∀ i s, sys.sessions i = some s → False := by
    intro i s hsession
    rw [h.sessions] at hsession
    cases hsession
  refine ⟨⟨fun a ha => h.tenant a (hversion a ha), ?_, ?_, h.ids, ?_⟩, ?_, ?_⟩
  · intro a a' ha ha' hid
    rw [List.inj_on_of_nodup_map h.ids (hversion a ha) (hversion a' ha') hid]
  · intro a a' k ha ha'
    exact h.keys a (hversion a ha) a' (hversion a' ha') k
  · exact fun i s hsession => (hnone i s hsession).elim
  · exact fun i s hsession => (hnone i s hsession).elim
  · exact fun i s hsession => (hnone i s hsession).elim

/-- No two committed rows share a natural key. -/
def OneRowPerKey
    (sys : System) : Prop :=
  sys.committed.Pairwise fun a a' => ∀ k, a.indexKey = some k → a'.indexKey ≠ some k

theorem UniqueKeys.oneRowPerKey
    (h : UniqueKeys tenantId sys) :
    OneRowPerKey sys := by
  have hids := h.committed
  rw [List.Nodup, List.pairwise_map] at hids
  refine hids.imp_of_mem ?_
  intro a a' ha ha' hne k hk hk'
  exact hne (h.sameKey a a' k (.inl ha) (.inl ha') hk hk')

theorem Sound.exists_step
    {start : System} {es : List Event} {e : Event}
    (h : Sound tenantId start)
    (hrun : Run (Step tenantId) start es sys)
    (he : e ∈ es) :
    ∃ s s', Sound tenantId s ∧ Step tenantId s e s' := by
  induction hrun with
  | nil s => cases he
  | cons hstep _ ih =>
      rcases List.mem_cons.mp he with rfl | hlater
      · exact ⟨_, _, h, hstep⟩
      · exact ih (hstep.sound h) hlater

/-- In every state that requests reach, however their statements interleave, a natural key
has one row, and every answer to a provisioning entry is an upsert by its key. -/
theorem upsert_by_natural_key
    {start : System} {es : List Event}
    (hstart : AtRest tenantId start)
    (hrun : Run (Step tenantId) start es sys) :
    OneRowPerKey sys ∧
      ∀ i s rows after result, Event.answered i s rows after result ∈ es →
        ∀ entry, s.entry = some entry → entry.account = none → result.action ≠ .failed →
          ∃ brand operator, entry.brand = some brand ∧ entry.operator = some operator ∧
            Upserted tenantId (naturalKey brand operator entry.sandbox) s.stage rows after
              result := by
  have hsound := hrun.preserves (fun _ _ _ hstep hs => Step.sound hstep hs) hstart.sound
  refine ⟨hsound.keys.oneRowPerKey, ?_⟩
  intro i s rows after result he entry hentry haccount haction
  obtain ⟨sys₁, sys₂, hsound₁, hstep⟩ := hstart.sound.exists_step hrun he
  cases hstep with
  | answered hsession hshows hact hunlocked =>
      exact hsound₁.upserted hsession hshows hact hentry haccount haction

/-- Nothing is refused and every challenge is answered. -/
def upsertEnv : AccountsEnv where
  tenantId := "t"
  principalId := "buyer"
  supportedBilling := none
  billingPartyValues := []
  accountSandbox := false
  accountApprovalMode := none
  now := 0
  mintAccountId := fun index => "minted" ++ toString index
  refusedRegistration := fun _ _ => none
  proves := fun _ _ _ => true

/-- One account and nothing else. -/
def singleRows
    (account : Account) : AccountRows where
  accounts := ⟨[account], List.pairwise_singleton _ _⟩
  naturalKeys := List.pairwise_singleton _ _
  access := .empty
  accessOfAccounts := fun _ hg => absurd hg (IndexedTable.not_mem_empty _)
  staged := []
  stagedOfAccounts := fun _ hk => absurd hk List.not_mem_nil

/-- A tenant with one account. -/
def singleSystem
    (account : Account)
    (proven : List Challenge) : System :=
  ⟨[account], fun _ => none, proven⟩

theorem singleRows_visible
    (account a : Account) :
    (singleRows account).visible a = true :=
  decide_eq_true List.not_mem_nil

theorem shows_singleRows
    {account : Account}
    (hcommitted : sys.committed = [account])
    (hown : ∀ j s, sys.sessions j = some s → s.own = []) :
    sys.Shows "t" 0 [] (singleRows account) where
  visible := by
    intro a _
    rw [mem_overlay, hcommitted]
    simp only [singleRows_visible, and_true, List.not_mem_nil, false_or, List.map_nil,
      not_false_eq_true]
    rfl
  hidden := by
    intro a _
    rw [singleRows_visible]
    refine ⟨fun h => absurd h.2 (by decide), ?_⟩
    rintro ⟨⟨j, s, -, hsession, hmem⟩, -⟩
    rw [hown j s hsession] at hmem
    cases hmem

theorem atRest_singleSystem
    {account : Account} {proven : List Challenge}
    (htenant : account.tenantId = "t") :
    AtRest "t" (singleSystem account proven) where
  tenant := by
    intro a ha
    rw [List.mem_singleton.mp ha]
    exact htenant
  ids := List.nodup_singleton _
  keys := by
    intro a ha a' ha' k _ _
    rw [List.mem_singleton.mp ha, List.mem_singleton.mp ha']
  sessions := fun _ => rfl

/-- A request of one entry, whose lookup finds the one account, runs to its commit. -/
theorem run_found
    {account : Account} {env : AccountsEnv} {entry : SyncEntry} {p : Provisioning}
    {result : SyncResponseAccount}
    (cond : System → Event → Prop)
    (proven : List Challenge)
    (s : Session)
    (hs : s = { env := env, req := { accounts := [entry] }, before := singleRows account })
    (htenant : env.tenantId = "t")
    (hprovisioning : s.provisioning = some p)
    (hfound : s.advance p (singleRows account) =
      some (.found (singleRows account) (singleRows account) account))
    (t : Session)
    (ht : t = { s with stage := .found (singleRows account) (singleRows account) account })
    (hact : t.act (singleRows account) = some (after, result))
    (hcond : ∀ sys e, e ∈ [Event.opened 0 env { accounts := [entry] }, .read 0,
      .answered 0 t (singleRows account) after result, .ended 0 true] → cond sys e) :
    ∃ sys, sys.committed = overlay (t.wrote (singleRows account) after) [account] ∧
      sys.proven = provenChallenges env { accounts := [entry] } (singleRows account) ++ proven ∧
      Run (Restrict (Step "t") cond) (singleSystem account proven)
        [.opened 0 env { accounts := [entry] }, .read 0,
          .answered 0 t (singleRows account) after result, .ended 0 true] sys := by
  subst hs
  have hone : ∀ (sys : System) (u : Session), (∀ j, sys.sessions j = none) → u.own = [] →
      ∀ j v, (sys.put 0 u).sessions j = some v → v.own = [] := by
    intro sys u hnone hown j v hv
    simp only [System.put] at hv
    split at hv
    · cases hv
      exact hown
    · rw [hnone] at hv
      cases hv
  have htwo : ∀ (sys : System) (u v : Session), (∀ j, sys.sessions j = none) → v.own = [] →
      ∀ j w, ((sys.put 0 u).put 0 v).sessions j = some w → w.own = [] := by
    intro sys u v hnone hown j w hw
    simp only [System.put] at hw
    split at hw
    · cases hw
      exact hown
    · rw [hnone] at hw
      cases hw
  subst ht
  refine ⟨_, ?_, ?_, .cons ⟨.opened rfl htenant rfl (shows_singleRows rfl ?_), hcond _ _ (by simp)⟩
    (.cons ⟨.read rfl hprovisioning (shows_singleRows rfl (hone _ _ (fun _ => rfl) rfl)) hfound,
      hcond _ _ (by simp)⟩
    (.cons ⟨.answered rfl (shows_singleRows rfl (htwo _ _ _ (fun _ => rfl) rfl)) hact ?_,
      hcond _ _ (by simp)⟩
    (.cons ⟨.committed rfl rfl rfl rfl, hcond _ _ (by simp)⟩ (.nil _))))⟩
  · rfl
  · rfl
  · intro j s hsession
    cases hsession
  · intro j s hj hsession a ha
    simp only [System.put, if_neg hj] at hsession
    cases hsession

/-- An account under a brand id. -/
def sparkAccount : Account where
  tenantId := "t"
  accountId := "spark"
  name := "nova.com:spark c/o agency"
  status := .active
  operator := some "agency"
  brand := some ⟨"nova.com", some "spark", by decide, by decide⟩

/-- The same operator and domain, without a brand id. -/
def novaEntry : SyncEntry where
  brand := some ⟨"nova.com", none, by decide, by decide⟩
  operator := some "agency"

/-- The request of the entry, when its lookup has found the account. -/
def sparkFound : Session where
  env := upsertEnv
  req := { accounts := [novaEntry] }
  before := singleRows sparkAccount
  stage := .found (singleRows sparkAccount) (singleRows sparkAccount) sparkAccount

def sparkResult : SyncResponseAccount :=
  buildUpdateResult ⟨"nova.com", none, by decide, by decide⟩ "agency" sparkAccount {}

theorem run_sparkSystem :
    ∃ sys, Run (Step "t") (singleSystem sparkAccount [])
      [.opened 0 upsertEnv { accounts := [novaEntry] }, .read 0,
        .answered 0 sparkFound (singleRows sparkAccount) (singleRows sparkAccount) sparkResult,
        .ended 0 true] sys := by
  obtain ⟨sys, -, -, hrun⟩ := run_found (fun _ _ => True) []
    (p := ⟨0, novaEntry, ⟨"nova.com", none, by decide, by decide⟩, "agency"⟩)
    { env := upsertEnv, req := { accounts := [novaEntry] }, before := singleRows sparkAccount }
    rfl rfl rfl rfl sparkFound rfl rfl (fun _ _ _ => trivial)
  exact ⟨sys, hrun.of_restrict⟩

/-- Such a run, in which an entry without a brand id meets an account that has one. -/
theorem upsert_of_sparkSystem :
    ∃ sys, OneRowPerKey sys ∧
      ∃ brand operator, novaEntry.brand = some brand ∧ novaEntry.operator = some operator ∧
        Upserted "t" (naturalKey brand operator novaEntry.sandbox) sparkFound.stage
          (singleRows sparkAccount) (singleRows sparkAccount) sparkResult := by
  obtain ⟨sys, hrun⟩ := run_sparkSystem
  have hupsert := upsert_by_natural_key (atRest_singleSystem rfl) hrun
  exact ⟨sys, hupsert.1, hupsert.2 0 sparkFound (singleRows sparkAccount)
    (singleRows sparkAccount) sparkResult (by simp) novaEntry rfl rfl (by decide)⟩

/-- An entry without a brand id is not always answered with the account under its own
key. -/
theorem upsert_takes_other_brand :
    ¬ ∀ (start sys : System) (es : List Event), AtRest "t" start →
      Run (Step "t") start es sys →
      ∀ i s rows after result, Event.answered i s rows after result ∈ es →
        ∀ entry, s.entry = some entry → entry.account = none → result.action ≠ .failed →
          ∃ brand operator a, entry.brand = some brand ∧ entry.operator = some operator ∧
            result.accountId = some a.accountId ∧
            after.getById "t" a.accountId = some a ∧
            a.indexKey = some ((naturalKey brand operator entry.sandbox).indexKey "t") := by
  intro h
  obtain ⟨sys, hrun⟩ := run_sparkSystem
  obtain ⟨brand, operator, a, hbrand, hoperator, -, hget, hkey⟩ :=
    h (singleSystem sparkAccount []) sys _ (atRest_singleSystem rfl) hrun 0 sparkFound
      (singleRows sparkAccount) (singleRows sparkAccount) sparkResult (by simp) novaEntry rfl rfl (by decide)
  obtain ⟨⟨ha, -, -⟩, -⟩ := AccountRows.getById_eq_some_iff.mp hget
  have hspark : a = sparkAccount := List.mem_singleton.mp ha
  subst hspark
  cases hbrand
  cases hoperator
  exact absurd hkey (by decide)

end Upsert

end Accounts
end SalesAgent
