import SalesAgent.Lib.Runs
import SalesAgent.MediaBuy.Update
import SalesAgent.MediaBuy.Writers

/-!
# The revision as a concurrency token

The history of a buy is a run of commits, of any callers in any order: repository
writes of the schedulers, the approval routes and the admin pages, transactions of
`update_media_buy`, and the transactions that adapters and the inline creative
upload commit in between.  A transaction of the tool is settled by the rows each
of its acts saw, which other commits may have overtaken.

The tool sets the targeting overlay and the assignment rows directly, past the
repository, so these writes do not move the token.

**Results.**
* `updateMediaBuy_run`: a call of the tool is such a run.
* `revision_sound`: where every commit moves the token or rests, the revision
  never falls and rises with every change of what is read.
-/

namespace SalesAgent
namespace MediaBuys

open Runs UnitOfWork

/-- A commit. -/
inductive TokenEvent
  | wrote (tenantId mediaBuyId : String) (write : RepositoryWrite) (now : DateTime)
  | committed (env : UpdateEnv) (req : UpdateRequest) (seens : List BuyRows)
  | adapterStored (call : AdapterCall) (answer : AdapterAnswer)
  | uploaded (env : SyncEnv) (creatives : List CreativeUpload) (packageId : String)

/-- What a commit does to the rows. -/
inductive TokenStep : BuyRows → TokenEvent → BuyRows → Prop
  | wrote {rows rows' : BuyRows} {tenantId mediaBuyId : String} {write : RepositoryWrite}
      {now : DateTime} (h : write.apply tenantId mediaBuyId now rows = some rows') :
      TokenStep rows (.wrote tenantId mediaBuyId write now) rows'
  | committed {rows : BuyRows} {env : UpdateEnv} {req : UpdateRequest} {seens : List BuyRows}
      (hfound : rows.HasBuy env.tenantId req.mediaBuyId (fun _ => True))
      (hseens : seens.length = (writes (applyActs env req)).length) :
      TokenStep rows (.committed env req seens) (commit (writes (applyActs env req)) seens rows)
  | adapterStored {rows : BuyRows} {call : AdapterCall} {answer : AdapterAnswer} :
      TokenStep rows (.adapterStored call answer) (answer.commit call rows)
  | uploaded {rows : BuyRows} {env : SyncEnv} {creatives : List CreativeUpload}
      {packageId : String} :
      TokenStep rows (.uploaded env creatives packageId)
        (syncCreatives env creatives packageId rows).rows

section Conditions

variable (env : UpdateEnv) (req : UpdateRequest)

/-- The package was seen with the requested assignments, under the requested terms,
and with no others. -/
def AssignedAlready
    (pkg : PackageUpdate)
    (requested : List AssignmentUpdate)
    (seen : BuyRows) : Prop :=
  (∀ a ∈ seen.assignmentsOf env.tenantId req.mediaBuyId pkg.packageId,
      a.creativeId ∈ requested.map (·.creativeId)) ∧
    ∀ ca ∈ requested, seen.assignments.find (assignmentKey env req pkg ca.creativeId) =
      some (assignmentRow env req pkg seen ca)

/-- The writes of the tool that move the token: columns of the buy, and assignments
of a buy that was seen as an approved draft. -/
inductive MovesToken : (BuyRows → BuyRows → BuyRows) → BuyRows → Prop
  | fields (updates : MediaBuy.FieldUpdates) (seen : BuyRows) :
      MovesToken (updateBuyFields env req updates) seen
  | draft {pkg : PackageUpdate} {requested : List AssignmentUpdate} {seen : BuyRows}
      (hne : requested ≠ [])
      (hdraft : awaitsCreatives seen env.tenantId req.mediaBuyId = true) :
      MovesToken (replaceAssignments env req pkg requested) seen

/-- The writes of the tool that change nothing that is read. -/
inductive Rests : (BuyRows → BuyRows → BuyRows) → BuyRows → Prop
  | check (seen : BuyRows) : Rests (fun _ => id) seen
  | assigned {pkg : PackageUpdate} {requested : List AssignmentUpdate} {seen : BuyRows}
      (h : AssignedAlready env req pkg requested seen) :
      Rests (replaceAssignments env req pkg requested) seen

end Conditions

/-- A commit that keeps the token: a transaction of the tool with a write that moves
the token, or whose writes all rest; an upload for an approved draft, or of creatives
that are assigned already. -/
def KeepsToken
    (rows : BuyRows) : TokenEvent → Prop
  | .wrote _ _ _ _ => True
  | .adapterStored _ _ => True
  | .committed env req seens =>
      (∃ w ∈ (writes (applyActs env req)).zip seens, MovesToken env req w.1 w.2) ∨
        ∀ w ∈ (writes (applyActs env req)).zip seens, Rests env req w.1 w.2
  | .uploaded env creatives packageId =>
      ∀ package buy, rows.findPackageWithMediaBuy env.tenantId packageId = some (package, buy) →
        awaitsCreatives rows env.tenantId buy.mediaBuyId = true ∨
          ∀ c ∈ creatives, c.creativeId ≠ "" →
            rows.assignments.find (env.tenantId, c.creativeId, buy.mediaBuyId, packageId) =
              some (env.standingAssignment buy packageId c.creativeId)

section ToolWrites

variable {env : UpdateEnv} {req : UpdateRequest} {tenantId mediaBuyId : String}

theorem modifyBuy_sound
    (rows : BuyRows)
    {tenantId' mediaBuyId' : String} {change : BuyRows.BuyChange}
    (hbump : ∀ b, (change.apply b).revision = b.revision + 1) :
    TokenSound tenantId mediaBuyId rows (rows.modifyBuy tenantId' mediaBuyId' change) := by
  by_cases h : tenantId = tenantId' ∧ mediaBuyId = mediaBuyId'
  · obtain ⟨rfl, rfl⟩ := h
    exact (modifyBuy_moved rows hbump).sound
  · have hbuy := modifyBuy_other rows change h
    exact TokenSound.of_same hbuy (contents_congr hbuy (fun _ => rfl) (fun _ _ => rfl))

/-- The keys of what is dropped are keys of the buy. -/
theorem dropAssignments_find
    (pkg : PackageUpdate)
    (requested : List String)
    (seen rows : BuyRows)
    (hne : mediaBuyId ≠ req.mediaBuyId)
    (p c : String) :
    (dropAssignments env req pkg requested seen rows).assignments.find
        (tenantId, c, mediaBuyId, p) =
      rows.assignments.find (tenantId, c, mediaBuyId, p) := by
  unfold dropAssignments
  refine IndexedTable.find_deleteWhere_of_key _ ?_
  intro r hr
  rw [hr]
  simp only [Option.any_some, decide_eq_false_iff_not, List.mem_filterMap, not_exists, not_and]
  intro a ha hkey
  split at hkey
  · cases hkey
  · have hbuy : a.mediaBuyId = req.mediaBuyId := by
      have hmem := (List.mem_filter.mp ha).2
      simp only [decide_eq_true_eq] at hmem
      exact hmem.2.1
    simp only [CreativeAssignment.uniqueKey, Option.some.injEq, Prod.mk.injEq] at hkey
    exact hne (hkey.2.2.1.symm.trans hbuy)

/-- The assignments of other buys stay. -/
theorem writeAssignments_other
    (pkg : PackageUpdate)
    (requested : List AssignmentUpdate)
    (seen rows : BuyRows)
    (hne : mediaBuyId ≠ req.mediaBuyId)
    (p c : String) :
    (writeAssignments env req pkg requested seen rows).assignments.find
        (tenantId, c, mediaBuyId, p) =
      rows.assignments.find (tenantId, c, mediaBuyId, p) := by
  have hput : ∀ (r : BuyRows) (row : CreativeAssignment) (c' : String),
      row.uniqueKey = some (assignmentKey env req pkg c') →
      r.assignments.find (tenantId, c, mediaBuyId, p) =
        rows.assignments.find (tenantId, c, mediaBuyId, p) →
      ({ r with assignments := r.assignments.put row } : BuyRows).assignments.find
        (tenantId, c, mediaBuyId, p) = rows.assignments.find (tenantId, c, mediaBuyId, p) := by
    intro r row c' hkey hr
    refine (IndexedTable.find_put_of_ne _ ?_).trans hr
    rw [hkey]
    simp [assignmentKey, Ne.symm hne]
  exact foldl_putAssignment_keeps hput requested
    (dropAssignments_find pkg (requested.map (·.creativeId)) seen rows hne p c)

/-- Assignments that were seen as requested are not written. -/
theorem writeAssignments_already
    {pkg : PackageUpdate} {requested : List AssignmentUpdate} {seen : BuyRows}
    (h : AssignedAlready env req pkg requested seen)
    (rows : BuyRows)
    (p c : String) :
    (writeAssignments env req pkg requested seen rows).assignments.find
        (tenantId, c, mediaBuyId, p) =
      rows.assignments.find (tenantId, c, mediaBuyId, p) := by
  have hfold : ∀ (cas : List AssignmentUpdate) (r : BuyRows), (∀ ca ∈ cas, ca ∈ requested) →
      cas.foldl (putAssignment env req pkg) (seen, r) = (seen, r) := by
    intro cas r hcas
    induction cas with
    | nil => rfl
    | cons ca cas ih =>
        have hput : putAssignment env req pkg (seen, r) ca = (seen, r) := by
          unfold putAssignment
          rw [if_pos (h.2 ca (hcas ca List.mem_cons_self))]
        rw [List.foldl_cons, hput]
        exact ih (fun ca' hca' => hcas ca' (List.mem_cons_of_mem _ hca'))
  have hdropped : (seen.assignmentsOf env.tenantId req.mediaBuyId pkg.packageId).filterMap
      (fun a => if a.creativeId ∈ requested.map (·.creativeId) then none else a.uniqueKey) =
        [] := by
    rw [List.filterMap_eq_nil_iff]
    intro a ha
    rw [if_pos (h.1 a ha)]
  unfold writeAssignments
  rw [hfold requested _ (fun _ hca => hca)]
  unfold dropAssignments
  simp only [hdropped]
  refine IndexedTable.find_deleteWhere_of_key _ ?_
  intro r hr
  simp

theorem tokenKept_of_mediaBuys
    {rows rows' : BuyRows}
    (h : rows'.mediaBuys = rows.mediaBuys) :
    TokenKept tenantId mediaBuyId rows rows' := by
  rintro n ⟨b, hb, hle⟩
  refine ⟨b, ?_, hle⟩
  unfold BuyRows.getById at hb ⊢
  rw [h]
  exact hb

theorem modifyConfig_other
    (rows : BuyRows)
    (packageId : String)
    (change : PackageConfig → PackageConfig)
    {mediaBuyId' : String}
    (hne : mediaBuyId ≠ mediaBuyId') :
    TokenSound tenantId mediaBuyId rows (rows.modifyConfig mediaBuyId' packageId change) := by
  refine TokenSound.of_same rfl (contents_congr rfl (fun p => ?_) (fun _ _ => rfl))
  rw [BuyRows.find_modifyConfig_of_ne _ _ (by simp [hne])]

theorem modifyConfig_budget_sound
    (rows : BuyRows)
    (mediaBuyId' packageId : String)
    (budget : Option ConfigBudget) :
    TokenSound tenantId mediaBuyId rows
      (rows.modifyConfig mediaBuyId' packageId (fun c => { c with budget := budget })) := by
  refine TokenSound.of_same rfl (contents_congr rfl (fun p => ?_) (fun _ _ => rfl))
  by_cases hkey : (mediaBuyId, p) = (mediaBuyId', packageId)
  · rw [hkey, BuyRows.find_modifyConfig, Option.map_map]
    rfl
  · rw [BuyRows.find_modifyConfig_of_ne _ _ hkey]

theorem markPendingCreatives_sound
    (tenantId' mediaBuyId' : String)
    (now : DateTime)
    (seen rows : BuyRows) :
    TokenSound tenantId mediaBuyId rows
      (markPendingCreatives tenantId' mediaBuyId' now seen rows) := by
  unfold markPendingCreatives
  split
  · exact modifyBuy_sound rows (updateStatus_bumps .pendingCreatives now false none none)
  · exact TokenSound.refl rows

theorem write_kept
    {write : BuyRows → BuyRows → BuyRows}
    (hwrite : Writes env req write)
    (seen rows : BuyRows) :
    TokenKept tenantId mediaBuyId rows (write seen rows) := by
  cases hwrite with
  | none => exact .refl rows
  | assignments pkg requested =>
      have hwritten : TokenKept tenantId mediaBuyId rows
          (writeAssignments env req pkg requested seen rows) :=
        tokenKept_of_mediaBuys (writeAssignments_mediaBuys pkg requested seen rows)
      unfold replaceAssignments
      simp only
      split
      · exact hwritten
      · exact hwritten.trans (markPendingCreatives_sound _ _ _ _ _).1
  | targeting =>
      unfold writeTargeting
      split
      · exact .refl rows
      · exact tokenKept_of_mediaBuys rfl
  | fields updates => exact (modifyBuy_sound rows (updateFields_bumps updates env.later false)).1

/-- The writes of the tool are not read from other buys. -/
theorem write_other
    {write : BuyRows → BuyRows → BuyRows}
    (hwrite : Writes env req write)
    (hne : mediaBuyId ≠ req.mediaBuyId)
    (seen rows : BuyRows) :
    TokenSound tenantId mediaBuyId rows (write seen rows) := by
  cases hwrite with
  | none => exact .refl rows
  | assignments pkg requested =>
      have hbuy : (writeAssignments env req pkg requested seen rows).getById tenantId mediaBuyId =
          rows.getById tenantId mediaBuyId := by
        unfold BuyRows.getById
        rw [writeAssignments_mediaBuys]
      have hwritten : TokenSound tenantId mediaBuyId rows
          (writeAssignments env req pkg requested seen rows) := by
        refine TokenSound.of_same hbuy (contents_congr hbuy (fun p => ?_) ?_)
        · rw [writeAssignments_packages]
        · exact writeAssignments_other pkg requested seen rows hne
      unfold replaceAssignments
      simp only
      split
      · exact hwritten
      · exact hwritten.trans (markPendingCreatives_sound _ _ _ _ _)
  | targeting =>
      unfold writeTargeting
      split
      · exact .refl rows
      · exact modifyConfig_other rows _ _ hne
  | fields updates => exact modifyBuy_sound rows (updateFields_bumps updates env.later false)

theorem write_moves
    {write : BuyRows → BuyRows → BuyRows} {seen : BuyRows}
    (h : MovesToken env req write seen)
    (rows : BuyRows) :
    TokenMoved env.tenantId req.mediaBuyId rows (write seen rows) := by
  cases h with
  | fields updates => exact modifyBuy_moved rows (updateFields_bumps updates env.later false)
  | @draft pkg requested _ hne hdraft =>
      have hwritten : TokenKept env.tenantId req.mediaBuyId rows
          (writeAssignments env req pkg requested seen rows) :=
        tokenKept_of_mediaBuys (writeAssignments_mediaBuys pkg requested seen rows)
      unfold replaceAssignments markPendingCreatives
      rw [if_neg (by simpa using hne), if_pos hdraft]
      exact hwritten.trans_moved
        (modifyBuy_moved _ (updateStatus_bumps .pendingCreatives env.later false none none))

/-- A write that rests is sound. -/
theorem write_rests
    {write : BuyRows → BuyRows → BuyRows} {seen : BuyRows}
    (h : Rests env req write seen)
    (rows : BuyRows) :
    TokenSound env.tenantId mediaBuyId rows (write seen rows) := by
  cases h with
  | check => exact .refl rows
  | @assigned pkg requested _ halready =>
      have hbuy : (writeAssignments env req pkg requested seen rows).getById env.tenantId
          mediaBuyId = rows.getById env.tenantId mediaBuyId := by
        unfold BuyRows.getById
        rw [writeAssignments_mediaBuys]
      have hwritten : TokenSound env.tenantId mediaBuyId rows
          (writeAssignments env req pkg requested seen rows) := by
        refine TokenSound.of_same hbuy (contents_congr hbuy (fun p => ?_) ?_)
        · rw [writeAssignments_packages]
        · exact writeAssignments_already halready rows
      unfold replaceAssignments
      simp only
      split
      · exact hwritten
      · exact hwritten.trans (markPendingCreatives_sound _ _ _ _ _)

theorem foldl_kept
    {zs : List ((BuyRows → BuyRows → BuyRows) × BuyRows)}
    (hkept : ∀ w ∈ zs, ∀ r, TokenKept tenantId mediaBuyId r (w.1 w.2 r))
    (rows : BuyRows) :
    TokenKept tenantId mediaBuyId rows (zs.foldl (fun r w => w.1 w.2 r) rows) := by
  refine List.foldlRecOn zs _ (TokenKept.refl rows) ?_
  intro r hr w hw
  exact hr.trans (hkept w hw r)

/-- A transaction is sound where one write moves the token and none lowers it, or
every write is sound. -/
theorem commit_sound
    {ws : List (BuyRows → BuyRows → BuyRows)} {seens : List BuyRows}
    (hkept : ∀ w ∈ ws.zip seens, ∀ r, TokenKept tenantId mediaBuyId r (w.1 w.2 r))
    (h : (∃ w ∈ ws.zip seens, ∀ r, TokenMoved tenantId mediaBuyId r (w.1 w.2 r)) ∨
      ∀ w ∈ ws.zip seens, ∀ r, TokenSound tenantId mediaBuyId r (w.1 w.2 r))
    (rows : BuyRows) :
    TokenSound tenantId mediaBuyId rows (commit ws seens rows) := by
  unfold commit
  rcases h with ⟨w, hw, hmoved⟩ | hsound
  · obtain ⟨before, after, hsplit⟩ := List.append_of_mem hw
    rw [hsplit] at hkept ⊢
    rw [List.foldl_append, List.foldl_cons]
    have hbefore := foldl_kept (fun w' hw' => hkept w' (List.mem_append_left _ hw')) rows
    have hafter := foldl_kept
      (fun w' hw' => hkept w' (List.mem_append_right _ (List.mem_cons_of_mem _ hw')))
      (w.1 w.2 (before.foldl (fun r w => w.1 w.2 r) rows))
    exact ((hbefore.trans_moved (hmoved _)).trans_kept hafter).sound
  · refine List.foldlRecOn (ws.zip seens) _ (TokenSound.refl rows) ?_
    intro r hr w hw
    exact hr.trans (hsound w hw r)

end ToolWrites

section Uploads

variable {env : SyncEnv} {tenantId mediaBuyId : String}

/-- The rows that differ in creatives at most. -/
def SameBuys
    (rows rows' : BuyRows) : Prop :=
  rows'.mediaBuys = rows.mediaBuys ∧ rows'.packages = rows.packages

theorem SameBuys.findPackage
    {rows rows' : BuyRows}
    (h : SameBuys rows rows')
    (tenantId packageId : String) :
    rows'.findPackageWithMediaBuy tenantId packageId =
      rows.findPackageWithMediaBuy tenantId packageId := by
  unfold BuyRows.findPackageWithMediaBuy BuyRows.getById
  rw [h.1, h.2]

theorem SameBuys.sound
    {rows rows' : BuyRows}
    (h : SameBuys rows rows')
    (hassignments : ∀ p c, rows'.assignments.find (tenantId, c, mediaBuyId, p) =
      rows.assignments.find (tenantId, c, mediaBuyId, p)) :
    TokenSound tenantId mediaBuyId rows rows' := by
  have hbuy : rows'.getById tenantId mediaBuyId = rows.getById tenantId mediaBuyId := by
    unfold BuyRows.getById
    rw [h.1]
  exact TokenSound.of_same hbuy (contents_congr hbuy (fun p => by rw [h.2]) hassignments)

/-- Assigning keeps the buys and the packages, and the assignments but those of the
buy and package that are found. -/
theorem processAssignments_frame
    {packageId : String} {failed creativeIds : List String} {rows rows' : BuyRows}
    (h : Run (FoldStep (processAssignment env packageId failed)) rows creativeIds rows') :
    SameBuys rows rows' ∧ ∀ k, (∀ package buy c,
      rows.findPackageWithMediaBuy env.tenantId packageId = some (package, buy) →
        c ∈ creativeIds → c ∉ failed → k = (env.tenantId, c, buy.mediaBuyId, packageId) →
          rows.assignments.find k = some (env.standingAssignment buy packageId c)) →
      rows'.assignments.find k = rows.assignments.find k := by
  have hinv : Preserved
      (Restrict (FoldStep (processAssignment env packageId failed)) (fun _ c => c ∈ creativeIds))
      (fun r => SameBuys rows r ∧ ∀ k, (∀ package buy c,
        rows.findPackageWithMediaBuy env.tenantId packageId = some (package, buy) →
          c ∈ creativeIds → c ∉ failed → k = (env.tenantId, c, buy.mediaBuyId, packageId) →
            rows.assignments.find k = some (env.standingAssignment buy packageId c)) →
        r.assignments.find k = rows.assignments.find k) := by
    rintro r c r' ⟨hstep, hc⟩ ⟨hsame, hfind⟩
    rcases processAssignment_cases hstep with ⟨-, rfl⟩ | ⟨hfailed, package, buy, hfound, rfl⟩
    · exact ⟨hsame, hfind⟩
    · rw [hsame.findPackage] at hfound
      refine ⟨hsame, fun k hk => ?_⟩
      by_cases hkey : k = (env.tenantId, c, buy.mediaBuyId, packageId)
      · rw [hk package buy c hfound hc hfailed hkey]
        exact IndexedTable.find_put_self _ (by rw [hkey]; rfl)
      · rw [← hfind k hk]
        exact IndexedTable.find_put_of_ne _ (fun heq => hkey (Option.some.inj heq).symm)
  exact h.of_events.preserves hinv ⟨⟨rfl, rfl⟩, fun _ _ => rfl⟩

theorem processAssignments_sound
    {packageId : String} {failed creativeIds : List String} {rows rows' : BuyRows}
    (hcond : ∀ package buy,
      rows.findPackageWithMediaBuy env.tenantId packageId = some (package, buy) →
        awaitsCreatives rows env.tenantId buy.mediaBuyId = true ∨
          ∀ c ∈ creativeIds,
            rows.assignments.find (env.tenantId, c, buy.mediaBuyId, packageId) =
              some (env.standingAssignment buy packageId c))
    (h : processAssignments env packageId failed creativeIds rows = .ok rows') :
    TokenSound tenantId mediaBuyId rows rows' := by
  unfold processAssignments at h
  cases hassigned : creativeIds.foldlM (processAssignment env packageId failed) rows with
  | error err =>
      rw [hassigned] at h
      cases h
  | ok assigned =>
      rw [hassigned] at h
      obtain ⟨hsame, hfind⟩ := processAssignments_frame (run_of_foldlM hassigned)
      simp only [bind, Except.bind, pure, Except.pure] at h
      cases hfound : rows.findPackageWithMediaBuy env.tenantId packageId with
      | none =>
          rw [hfound] at h
          cases h
          refine hsame.sound (fun p c => hfind _ ?_)
          intro package buy c' hsome
          rw [hfound] at hsome
          cases hsome
      | some found =>
          obtain ⟨package, buy⟩ := found
          rw [hfound] at h
          simp only at h
          have hunique : ∀ {package' : MediaPackage} {buy' : MediaBuy},
              rows.findPackageWithMediaBuy env.tenantId packageId = some (package', buy') →
                buy' = buy := by
            intro package' buy' hfound'
            rw [hfound] at hfound'
            cases hfound'
            rfl
          split at h
          · cases h
            rcases hcond package buy hfound with hdraft | hstanding
            · by_cases htarget : tenantId = env.tenantId ∧ mediaBuyId = buy.mediaBuyId
              · obtain ⟨rfl, rfl⟩ := htarget
                have hawaits : awaitsCreatives assigned env.tenantId buy.mediaBuyId = true := by
                  unfold awaitsCreatives BuyRows.getById
                  rw [hsame.1]
                  exact hdraft
                unfold markPendingCreatives
                rw [if_pos hawaits]
                exact ((tokenKept_of_mediaBuys hsame.1).trans_moved (modifyBuy_moved _
                  (updateStatus_bumps .pendingCreatives env.now false none none))).sound
              · refine TokenSound.trans (hsame.sound (fun p c => hfind _ ?_))
                  (markPendingCreatives_sound _ _ _ _ _)
                intro package' buy' c' hfound' _ _ hkey
                rw [hunique hfound'] at hkey
                simp only [Prod.mk.injEq] at hkey
                exact absurd ⟨hkey.1, hkey.2.2.1⟩ htarget
            · refine TokenSound.trans (hsame.sound (fun p c => hfind _ ?_))
                (markPendingCreatives_sound _ _ _ _ _)
              intro package' buy' c' hfound' hc' _ hkey
              rw [hunique hfound'] at hkey ⊢
              rw [hkey]
              exact hstanding c' hc'
          · next hnone =>
              cases h
              refine hsame.sound (fun p c => hfind _ ?_)
              intro package' buy' c' _ hc' hfailed
              exact absurd (List.any_eq_true.mpr ⟨c', hc', by simpa using hfailed⟩) hnone

theorem syncCreatives_sound
    {creatives : List CreativeUpload} {packageId : String} {rows : BuyRows}
    (hcond : KeepsToken rows (.uploaded env creatives packageId)) :
    TokenSound tenantId mediaBuyId rows (syncCreatives env creatives packageId rows).rows := by
  unfold syncCreatives
  cases hsync : creatives.foldlM (syncCreative env) (rows, []) with
  | error err => exact .refl rows
  | ok result =>
      obtain ⟨synced, failed⟩ := result
      have hcreative : ∀ (r : BuyRows) (row : Creative), row.WrittenAt env.now →
          SameBuys rows r ∧ r.assignments = rows.assignments →
          SameBuys rows { r with creatives := r.creatives.put row } ∧
            r.assignments = rows.assignments :=
        fun _ _ _ hr => hr
      obtain ⟨hsame, hassignments⟩ :=
        run_syncCreative_keeps hcreative (run_of_foldlM hsync) ⟨⟨rfl, rfl⟩, rfl⟩
      have hsynced : TokenSound tenantId mediaBuyId rows synced :=
        hsame.sound (fun p c => by rw [hassignments])
      simp only
      split
      · exact hsynced
      · next hassigned =>
          refine hsynced.trans (processAssignments_sound ?_ hassigned)
          intro package buy hfound
          rw [hsame.findPackage] at hfound
          rcases hcond package buy hfound with hdraft | hstanding
          · left
            unfold awaitsCreatives BuyRows.getById at hdraft ⊢
            rw [hsame.1]
            exact hdraft
          · right
            intro c hc
            obtain ⟨hmem, hne⟩ := List.mem_filter.mp hc
            obtain ⟨creative, hcreative, rfl⟩ := List.mem_map.mp hmem
            rw [hassignments]
            exact hstanding creative hcreative (by simpa using hne)

end Uploads

section Histories

variable {tenantId mediaBuyId : String}

theorem step_sound
    {rows rows' : BuyRows} {event : TokenEvent}
    (hstep : TokenStep rows event rows')
    (hcond : KeepsToken rows event) :
    TokenSound tenantId mediaBuyId rows rows' := by
  cases hstep with
  | wrote h => exact RepositoryWrite.apply_sound h
  | @committed env req seens hfound hseens =>
      have hwrites : ∀ w ∈ (writes (applyActs env req)).zip seens, Writes env req w.1 := by
        rintro ⟨w, seen⟩ hw
        obtain ⟨refuses, hact⟩ := mem_writes.mp (List.of_mem_zip hw).1
        exact inside_mem_applyActs hact
      have hkept : ∀ w ∈ (writes (applyActs env req)).zip seens, ∀ r,
          TokenKept tenantId mediaBuyId r (w.1 w.2 r) :=
        fun w hw r => write_kept (hwrites w hw) w.2 r
      by_cases hid : mediaBuyId = req.mediaBuyId
      · subst hid
        by_cases htenant : tenantId = env.tenantId
        · subst htenant
          refine commit_sound hkept ?_ rows
          rcases hcond with ⟨w, hw, hmoves⟩ | hrests
          · exact .inl ⟨w, hw, write_moves hmoves⟩
          · exact .inr (fun w hw => write_rests (hrests w hw))
        · -- the id belongs to the caller's tenant
          obtain ⟨b, hb, -⟩ := hfound
          exact .of_missing (BuyRows.getById_of_other_tenant hb htenant)
      · exact commit_sound hkept (.inr (fun w hw => write_other (hwrites w hw) hid w.2)) rows
  | @adapterStored call answer =>
      unfold AdapterAnswer.commit
      split
      · exact modifyConfig_budget_sound _ _ _ _
      · exact .refl rows
  | uploaded => exact syncCreatives_sound hcond

theorem exists_seen
    {ws : List (BuyRows → BuyRows → BuyRows)} {seens : List BuyRows}
    {write : BuyRows → BuyRows → BuyRows}
    (hlength : seens.length = ws.length)
    (hwrite : write ∈ ws) :
    ∃ seen, (write, seen) ∈ ws.zip seens := by
  obtain ⟨i, hi, rfl⟩ := List.mem_iff_getElem.mp hwrite
  have hlt : i < seens.length := by omega
  refine ⟨seens[i], List.mem_iff_getElem.mpr ⟨i, ?_, ?_⟩⟩
  · simp [hlength, hi]
  · simp

theorem keepsToken_of_row
    {env : UpdateEnv} {req : UpdateRequest} {seens : List BuyRows}
    (rows : BuyRows)
    (hrow : req.paused.isSome ∨ req.startTime.isSome ∨ req.endTime.isSome)
    (hseens : seens.length = (writes (applyActs env req)).length) :
    KeepsToken rows (.committed env req seens) := by
  have hfields : ∃ updates, updateBuyFields env req updates ∈ writes (applyActs env req) := by
    cases hpaused : req.paused with
    | some paused =>
        refine ⟨{ isPaused := some paused }, mem_writes.mpr ⟨fun _ => none, ?_⟩⟩
        simp [applyActs, hpaused, pauseActs]
    | none =>
        have hdates : (req.startTime.isSome || req.endTime.isSome) = true := by
          simpa [hpaused] using hrow
        refine ⟨requestedDates env req, mem_writes.mpr ⟨datesError env req, ?_⟩⟩
        unfold applyActs datesActs
        rw [hpaused]
        simp only [hdates, if_true]
        exact List.mem_append_left _ (List.mem_append_right _ List.mem_cons_self)
  obtain ⟨updates, hmem⟩ := hfields
  obtain ⟨seen, hseen⟩ := exists_seen hseens hmem
  exact .inl ⟨_, hseen, .fields updates seen⟩

/-- The history law: between any two states of a history whose commits keep the
token, the stored revision does not fall, and it rises if what is read changed. -/
theorem revision_sound
    {rows rows' : BuyRows} {events : List TokenEvent} {b : MediaBuy}
    (h : Run (Restrict TokenStep KeepsToken) rows events rows')
    (hb : rows.getById tenantId mediaBuyId = some b) :
    ∃ b', rows'.getById tenantId mediaBuyId = some b' ∧ b.revision ≤ b'.revision ∧
      (rows'.contents tenantId mediaBuyId ≠ rows.contents tenantId mediaBuyId →
        b.revision < b'.revision) := by
  have hsound : TokenSound tenantId mediaBuyId rows rows' :=
    h.relates TokenSound.refl (fun _ _ _ => TokenSound.trans)
      (fun _ _ _ hstep => step_sound hstep.1 hstep.2)
  exact hsound.revision hb

/-- What a call of the tool commits, in order. -/
theorem updateMediaBuy_run
    (env : UpdateEnv)
    (req : UpdateRequest)
    (store : Store) :
    ∃ events, Run TokenStep store.toBuyRows events
      (updateMediaBuy env req store).store.toBuyRows := by
  by_cases hgate : EndsAtGate env req store.toBuyRows
  · refine ⟨[], ?_⟩
    rw [(updateMediaBuy_of_endsAtGate hgate).2.1]
    exact .nil _
  · have hcalls : ∀ call, Act.outside call ∈ applyActs env req → ∀ n (r : BuyRows),
        (∃ events, Run TokenStep store.toBuyRows events r) →
          ∃ events, Run TokenStep store.toBuyRows events (call n r).rows := by
      rintro call hcall n r ⟨events, hrun⟩
      rcases outside_mem_applyActs hcall with ⟨_, _, _, -, hact⟩ | ⟨_, -, -, hact⟩
      · cases hact
        exact ⟨_, hrun.append (.single .adapterStored)⟩
      · cases hact
        exact ⟨_, hrun.append (.single .uploaded)⟩
    obtain ⟨events, hrun⟩ := afterCalls_keeps hcalls ⟨[], .nil _⟩
    rw [(updateMediaBuy_of_not_endsAtGate hgate).2.1]
    by_cases hraised : (block (applyActs env req) store.toBuyRows).raised = none
    · obtain ⟨seens, hseens, hrows⟩ := block_rows_eq_commit hraised
      have hstart : store.toBuyRows.HasBuy env.tenantId req.mediaBuyId (fun _ => True) :=
        (hasBuy_of_not_endsAtGate hgate).imp (fun _ hb => ⟨hb.1, trivial⟩)
      rw [hrows]
      exact ⟨_, hrun.append
        (.single (.committed (hasBuy_afterCalls (fun _ h => h) hstart) hseens))⟩
    · rw [block_rows_of_raised hraised]
      exact ⟨events, hrun⟩

end Histories

section Samples

/-- A request for a later end. -/
def sampleDatesRequest : UpdateRequest where
  mediaBuyId := "mb_1"
  endTime := some 1728000000000

/-- A request for other targeting. -/
def sampleTargetingRequest : UpdateRequest where
  mediaBuyId := "mb_1"
  packages := [{ packageId := "pkg_1", targetingOverlay := some (.obj [("geo", .str "US")]) }]

/-- An update of the dates that the scheduler follows. -/
theorem revision_sound_dates :
    ∃ (rows' : BuyRows) (b' : MediaBuy),
      sampleStore.toBuyRows.getById "tenant" "mb_1" = some sampleRow ∧
      rows'.getById "tenant" "mb_1" = some b' ∧ sampleRow.revision ≤ b'.revision ∧
      (rows'.contents "tenant" "mb_1" ≠ sampleStore.toBuyRows.contents "tenant" "mb_1" →
        sampleRow.revision < b'.revision) := by
  have hb : sampleStore.toBuyRows.getById "tenant" "mb_1" = some sampleRow := by rfl
  have hseens : [sampleStore.toBuyRows, sampleStore.toBuyRows].length =
      (writes (applyActs sampleUpdateEnv sampleDatesRequest)).length := by rfl
  have hrun : Run (Restrict TokenStep KeepsToken) sampleStore.toBuyRows
      [.committed sampleUpdateEnv sampleDatesRequest
          [sampleStore.toBuyRows, sampleStore.toBuyRows],
        .wrote "tenant" "mb_1" (.updateStatus .completed false none none) 0] _ :=
    .cons ⟨.committed ⟨_, hb, trivial⟩ hseens,
        keepsToken_of_row _ (.inr (.inr rfl)) hseens⟩
      (.single ⟨.wrote rfl, trivial⟩)
  obtain ⟨b', hrest⟩ := revision_sound hrun hb
  exact ⟨_, b', hb, hrest⟩

/-- New targeting under the old revision. -/
theorem targeting_keeps_revision :
    ¬ ∀ (rows rows' : BuyRows) (events : List TokenEvent) (b : MediaBuy),
      Run TokenStep rows events rows' → rows.getById "tenant" "mb_1" = some b →
        ∃ b', rows'.getById "tenant" "mb_1" = some b' ∧ b.revision ≤ b'.revision ∧
          (rows'.contents "tenant" "mb_1" ≠ rows.contents "tenant" "mb_1" →
            b.revision < b'.revision) := by
  intro h
  obtain ⟨events, hrun⟩ := updateMediaBuy_run sampleUpdateEnv sampleTargetingRequest sampleStore
  obtain ⟨b', hb', -, hrise⟩ := h _ _ events sampleRow hrun (by rfl)
  have hsame : (updateMediaBuy sampleUpdateEnv sampleTargetingRequest sampleStore).store.getById
      "tenant" "mb_1" = some sampleRow := by
    decide +kernel
  rw [hsame] at hb'
  cases hb'
  refine absurd (hrise ?_) (lt_irrefl _)
  intro hcontents
  have hread := congrArg
    (fun c => (c.package "pkg_1").map (fun r => r.targetingOverlay.isSome)) hcontents
  revert hread
  decide +kernel

end Samples

end MediaBuys
end SalesAgent
