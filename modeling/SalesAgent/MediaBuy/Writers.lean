import SalesAgent.MediaBuy.Store

/-!
# Repository writers and the concurrency token

A buyer reads a buy's status, pause and flight, the budget, pause and targeting of
its packages, and the creatives assigned to them.  `revision` is the token it
reads with them.  Every writer of `MediaBuyRepository` moves the token of the buy
it changes: the package writers through `_bump_parent_revision`.

**Results.**
* `TokenSound`: the token never falls, and rises where what is read changes; it is
  reflexive and transitive.
* `RepositoryWrite.apply_sound`: every repository writer is sound for every buy.
-/

namespace SalesAgent
namespace MediaBuys

/-- What is read of the row of a buy. -/
structure BuyReading where
  status : PersistedMediaBuyStatus
  isPaused : Bool
  startTime : Option DateTime
  endTime : Option DateTime
  deriving DecidableEq, Repr

/-- What is read of a package. -/
structure PackageReading where
  productId : Option String
  budget : Option Decimal
  paused : Option Bool
  targetingOverlay : Option Targeting

/-- What a buyer reads of a buy, besides its revision. -/
structure Contents where
  buy : Option BuyReading
  package : String → Option PackageReading
  assignment : String → String → Option (Int × Option (List String))

/-- The row of a buy, as it is read. -/
def MediaBuy.reading
    (b : MediaBuy) : BuyReading where
  status := b.status
  isPaused := b.isPaused
  startTime := b.startTime
  endTime := b.endTime

/-- A package, as it is read. -/
def MediaPackage.reading
    (p : MediaPackage) : PackageReading where
  productId := p.config.productId
  budget := p.budget
  paused := p.config.paused
  targetingOverlay := p.config.targetingOverlay

/-- A buy with its packages and assignments, as they are read. -/
def BuyRows.contents
    (rows : BuyRows)
    (tenantId mediaBuyId : String) : Contents where
  buy := (rows.getById tenantId mediaBuyId).map MediaBuy.reading
  package := fun p => (rows.packages.find (mediaBuyId, p)).map MediaPackage.reading
  assignment := fun p c =>
    (rows.assignments.find (tenantId, c, mediaBuyId, p)).map (fun a => (a.weight, a.placementIds))

/-- The buy is there and its revision is at least `n`. -/
def BuyRows.AtLeast
    (rows : BuyRows)
    (tenantId mediaBuyId : String)
    (n : Nat) : Prop :=
  rows.HasBuy tenantId mediaBuyId (fun b => n ≤ b.revision)

section Token

variable {tenantId mediaBuyId : String} {rows rows' rows'' : BuyRows}

/-- The token does not fall. -/
def TokenKept
    (tenantId mediaBuyId : String)
    (rows rows' : BuyRows) : Prop :=
  ∀ n, rows.AtLeast tenantId mediaBuyId n → rows'.AtLeast tenantId mediaBuyId n

/-- The token rises. -/
def TokenMoved
    (tenantId mediaBuyId : String)
    (rows rows' : BuyRows) : Prop :=
  ∀ n, rows.AtLeast tenantId mediaBuyId n → rows'.AtLeast tenantId mediaBuyId (n + 1)

/-- The token does not fall, and rises unless what is read stays the same. -/
def TokenSound
    (tenantId mediaBuyId : String)
    (rows rows' : BuyRows) : Prop :=
  TokenKept tenantId mediaBuyId rows rows' ∧
    (rows'.contents tenantId mediaBuyId = rows.contents tenantId mediaBuyId ∨
      TokenMoved tenantId mediaBuyId rows rows')

theorem TokenKept.refl
    (rows : BuyRows) :
    TokenKept tenantId mediaBuyId rows rows :=
  fun _ h => h

theorem TokenKept.trans
    (h₁ : TokenKept tenantId mediaBuyId rows rows')
    (h₂ : TokenKept tenantId mediaBuyId rows' rows'') :
    TokenKept tenantId mediaBuyId rows rows'' :=
  fun n h => h₂ n (h₁ n h)

theorem TokenMoved.trans_kept
    (h₁ : TokenMoved tenantId mediaBuyId rows rows')
    (h₂ : TokenKept tenantId mediaBuyId rows' rows'') :
    TokenMoved tenantId mediaBuyId rows rows'' :=
  fun n h => h₂ (n + 1) (h₁ n h)

theorem TokenKept.trans_moved
    (h₁ : TokenKept tenantId mediaBuyId rows rows')
    (h₂ : TokenMoved tenantId mediaBuyId rows' rows'') :
    TokenMoved tenantId mediaBuyId rows rows'' :=
  fun n h => h₂ n (h₁ n h)

theorem TokenMoved.kept
    (h : TokenMoved tenantId mediaBuyId rows rows') :
    TokenKept tenantId mediaBuyId rows rows' := by
  intro n hn
  obtain ⟨b, hb, hle⟩ := h n hn
  exact ⟨b, hb, Nat.le_of_succ_le hle⟩

theorem TokenMoved.sound
    (h : TokenMoved tenantId mediaBuyId rows rows') :
    TokenSound tenantId mediaBuyId rows rows' :=
  ⟨h.kept, .inr h⟩

theorem TokenSound.refl
    (rows : BuyRows) :
    TokenSound tenantId mediaBuyId rows rows :=
  ⟨.refl rows, .inl rfl⟩

theorem TokenSound.trans
    (h₁ : TokenSound tenantId mediaBuyId rows rows')
    (h₂ : TokenSound tenantId mediaBuyId rows' rows'') :
    TokenSound tenantId mediaBuyId rows rows'' := by
  refine ⟨h₁.1.trans h₂.1, ?_⟩
  rcases h₁.2 with hsame₁ | hmoved₁
  · rcases h₂.2 with hsame₂ | hmoved₂
    · exact .inl (hsame₂.trans hsame₁)
    · exact .inr (h₁.1.trans_moved hmoved₂)
  · exact .inr (hmoved₁.trans_kept h₂.1)

theorem TokenSound.of_missing
    (h : rows.getById tenantId mediaBuyId = none) :
    TokenSound tenantId mediaBuyId rows rows' := by
  have hmoved : TokenMoved tenantId mediaBuyId rows rows' := by
    rintro n ⟨b, hb, -⟩
    rw [h] at hb
    cases hb
  exact hmoved.sound

theorem TokenSound.of_same
    (hbuy : rows'.getById tenantId mediaBuyId = rows.getById tenantId mediaBuyId)
    (hcontents : rows'.contents tenantId mediaBuyId = rows.contents tenantId mediaBuyId) :
    TokenSound tenantId mediaBuyId rows rows' := by
  refine ⟨?_, .inl hcontents⟩
  rintro n ⟨b, hb, hle⟩
  exact ⟨b, hbuy.trans hb, hle⟩

theorem TokenSound.revision
    (h : TokenSound tenantId mediaBuyId rows rows')
    {b : MediaBuy}
    (hb : rows.getById tenantId mediaBuyId = some b) :
    ∃ b', rows'.getById tenantId mediaBuyId = some b' ∧ b.revision ≤ b'.revision ∧
      (rows'.contents tenantId mediaBuyId ≠ rows.contents tenantId mediaBuyId →
        b.revision < b'.revision) := by
  obtain ⟨b', hb', hle⟩ := h.1 b.revision ⟨b, hb, le_refl _⟩
  refine ⟨b', hb', hle, ?_⟩
  intro hchanged
  obtain ⟨b'', hb'', hlt⟩ := (h.2.resolve_left hchanged) b.revision ⟨b, hb, le_refl _⟩
  rw [hb'] at hb''
  cases hb''
  exact hlt

end Token

section Frames

variable {tenantId mediaBuyId : String} (rows : BuyRows)

theorem modifyBuy_moved
    {change : BuyRows.BuyChange}
    (hbump : ∀ b, (change.apply b).revision = b.revision + 1) :
    TokenMoved tenantId mediaBuyId rows (rows.modifyBuy tenantId mediaBuyId change) := by
  rintro n ⟨b, hb, hle⟩
  have hrise : n + 1 ≤ (change.apply b).revision := by
    rw [hbump]
    exact Nat.succ_le_succ hle
  refine ⟨change.apply b, ?_, hrise⟩
  rw [BuyRows.getById_modifyBuy, hb]
  rfl

theorem updateStatus_bumps
    (status : PersistedMediaBuyStatus)
    (now : DateTime)
    (sellerCommitted : Bool)
    (approvedAt : Option DateTime)
    (approvedBy : Option String)
    (b : MediaBuy) :
    ((BuyRows.BuyChange.updateStatus status now sellerCommitted approvedAt approvedBy).apply
      b).revision = b.revision + 1 :=
  (MediaBuy.updateStatus_spec b status now sellerCommitted approvedAt approvedBy).revision

theorem updateFields_bumps
    (updates : MediaBuy.FieldUpdates)
    (now : DateTime)
    (sellerCommitted : Bool)
    (b : MediaBuy) :
    ((BuyRows.BuyChange.updateFields updates now sellerCommitted).apply b).revision =
      b.revision + 1 :=
  (MediaBuy.updateFields_spec b updates now sellerCommitted).revision

theorem modifyBuy_other
    {tenantId' mediaBuyId' : String}
    (change : BuyRows.BuyChange)
    (hne : ¬ (tenantId = tenantId' ∧ mediaBuyId = mediaBuyId')) :
    (rows.modifyBuy tenantId' mediaBuyId' change).getById tenantId mediaBuyId =
      rows.getById tenantId mediaBuyId := by
  by_cases hid : mediaBuyId = mediaBuyId'
  · subst hid
    exact BuyRows.getById_modifyBuy_of_tenant_ne rows change (fun h => hne ⟨h, rfl⟩)
  · exact BuyRows.getById_modifyBuy_of_ne rows change hid

theorem contents_congr
    {rows rows' : BuyRows}
    (hbuy : rows'.getById tenantId mediaBuyId = rows.getById tenantId mediaBuyId)
    (hpackages : ∀ p, (rows'.packages.find (mediaBuyId, p)).map MediaPackage.reading =
      (rows.packages.find (mediaBuyId, p)).map MediaPackage.reading)
    (hassignments : ∀ p c, rows'.assignments.find (tenantId, c, mediaBuyId, p) =
      rows.assignments.find (tenantId, c, mediaBuyId, p)) :
    rows'.contents tenantId mediaBuyId = rows.contents tenantId mediaBuyId := by
  unfold BuyRows.contents
  simp only [hbuy, hassignments]
  congr 1
  funext p
  exact hpackages p

end Frames

/-- The writers of the repository, with the values they are called with. -/
inductive RepositoryWrite
  | updateStatus (status : PersistedMediaBuyStatus) (sellerCommitted : Bool)
      (approvedAt : Option DateTime) (approvedBy : Option String)
  | updateFields (updates : MediaBuy.FieldUpdates) (sellerCommitted : Bool)
  | createPackage (packageId : String) (config : PackageConfig) (budget : Option Decimal)
  | createPackagesBulk (packages : List MediaPackage)
  | updatePackageConfig (packageId : String) (config : PackageConfig)
  | updatePackageFields (packageId : String) (budget : Option (Option Decimal))
      (config : Option PackageConfig)

/-- `_bump_revision` on the parent row. -/
def bumpParentRevision : BuyRows.BuyChange where
  apply := MediaBuy.bumpRevision
  mediaBuyId := fun _ => rfl
  tenantId := fun _ => rfl

theorem bumpParentRevision_bumps
    (b : MediaBuy) :
    (bumpParentRevision.apply b).revision = b.revision + 1 :=
  rfl

/-- Add packages to a buy; a duplicate key refuses the flush. -/
def insertPackages
    (mediaBuyId : String)
    (packages : List MediaPackage)
    (rows : BuyRows) : Option BuyRows :=
  packages.foldlM (fun (r : BuyRows) p =>
    if p.mediaBuyId ≠ mediaBuyId then none else r.insertPackage p) rows

/-- Write columns of a package. -/
def MediaPackage.withFields
    (budget : Option (Option Decimal))
    (config : Option PackageConfig)
    (p : MediaPackage) : MediaPackage :=
  { p with budget := budget.getD p.budget, config := config.getD p.config }

theorem MediaPackage.primaryKey_withFields
    (budget : Option (Option Decimal))
    (config : Option PackageConfig)
    (p : MediaPackage) :
    (p.withFields budget config).primaryKey = p.primaryKey :=
  rfl

/-- Write columns of one package. -/
def BuyRows.modifyPackage
    (rows : BuyRows)
    (mediaBuyId packageId : String)
    (budget : Option (Option Decimal))
    (config : Option PackageConfig) : BuyRows :=
  { rows with
    packages := rows.packages.modify (mediaBuyId, packageId)
      (MediaPackage.withFields budget config)
      (MediaPackage.primaryKey_withFields budget config)
    packagesOwned := by
      intro p hp
      obtain ⟨q, hq, rfl⟩ := rows.packages.mem_modify.mp hp
      have howned := rows.packagesOwned q hq
      split
      · exact howned
      · exact howned }

/-- Run a writer; `none` when it raises, or finds nothing to write. -/
def RepositoryWrite.apply
    (write : RepositoryWrite)
    (tenantId mediaBuyId : String)
    (now : DateTime)
    (rows : BuyRows) : Option BuyRows :=
  if (rows.getById tenantId mediaBuyId).isNone then none
  else match write with
    | .updateStatus status sellerCommitted approvedAt approvedBy =>
        some (rows.modifyBuy tenantId mediaBuyId
          (.updateStatus status now sellerCommitted approvedAt approvedBy))
    | .updateFields updates sellerCommitted =>
        some (rows.modifyBuy tenantId mediaBuyId (.updateFields updates now sellerCommitted))
    | .createPackage packageId config budget =>
        (insertPackages mediaBuyId [⟨mediaBuyId, packageId, budget, config⟩] rows).map
          (fun r => r.modifyBuy tenantId mediaBuyId bumpParentRevision)
    | .createPackagesBulk packages =>
        (insertPackages mediaBuyId packages rows).map
          (fun r => r.modifyBuy tenantId mediaBuyId bumpParentRevision)
    | .updatePackageConfig packageId config =>
        if (rows.getPackage tenantId mediaBuyId packageId).isNone then none
        else some ((rows.modifyConfig mediaBuyId packageId (fun _ => config)).modifyBuy
          tenantId mediaBuyId bumpParentRevision)
    | .updatePackageFields packageId budget config =>
        if (rows.getPackage tenantId mediaBuyId packageId).isNone then none
        else some ((rows.modifyPackage mediaBuyId packageId budget config).modifyBuy
          tenantId mediaBuyId bumpParentRevision)

section Writers

variable {mediaBuyId mediaBuyId' : String} {rows rows' : BuyRows}

/-- Added packages are packages of the buy. -/
theorem insertPackages_frame
    {packages : List MediaPackage}
    (h : insertPackages mediaBuyId' packages rows = some rows') :
    rows'.mediaBuys = rows.mediaBuys ∧ rows'.assignments = rows.assignments ∧
      (mediaBuyId ≠ mediaBuyId' →
        ∀ p, rows'.packages.find (mediaBuyId, p) = rows.packages.find (mediaBuyId, p)) := by
  unfold insertPackages at h
  induction packages generalizing rows with
  | nil =>
      cases h
      exact ⟨rfl, rfl, fun _ _ => rfl⟩
  | cons q qs ih =>
      rw [List.foldlM_cons] at h
      split at h
      · cases h
      · next hbuy =>
          cases hinserted : rows.insertPackage q with
          | none =>
              rw [hinserted] at h
              cases h
          | some rows'' =>
              rw [hinserted] at h
              obtain ⟨hinsert, hbuys', -, hassignments'⟩ := BuyRows.insertPackage_eq_some hinserted
              obtain ⟨hbuys, hassignments, hfind⟩ := ih h
              refine ⟨hbuys.trans hbuys', hassignments.trans hassignments', ?_⟩
              intro hne p
              rw [hfind hne p]
              refine IndexedTable.find_insert_of_ne hinsert ?_
              simp only [MediaPackage.primaryKey, ne_eq, Option.some.injEq, Prod.mk.injEq, not_and]
              intro heq
              exact absurd (heq.symm.trans (not_not.mp hbuy)) hne

/-- A writer that also bumps the parent is sound, whatever it did to the packages of
the buy. -/
theorem packages_then_bump_sound
    {tenantId tenantId' : String}
    (rows written : BuyRows)
    (hbuys : written.mediaBuys = rows.mediaBuys)
    (hassignments : written.assignments = rows.assignments)
    (hpackages : mediaBuyId ≠ mediaBuyId' → ∀ p,
      written.packages.find (mediaBuyId, p) = rows.packages.find (mediaBuyId, p))
    (hfound : (rows.getById tenantId' mediaBuyId').isSome)
    {change : BuyRows.BuyChange}
    (hbump : ∀ b, (change.apply b).revision = b.revision + 1) :
    TokenSound tenantId mediaBuyId rows (written.modifyBuy tenantId' mediaBuyId' change) := by
  have hget : ∀ t m, written.getById t m = rows.getById t m := by
    intro t m
    unfold BuyRows.getById
    rw [hbuys]
  have hkept : TokenKept tenantId mediaBuyId rows written := by
    rintro n ⟨b, hb, hle⟩
    exact ⟨b, (hget _ _).trans hb, hle⟩
  by_cases hid : mediaBuyId = mediaBuyId'
  · subst hid
    by_cases htenant : tenantId = tenantId'
    · subst htenant
      exact (hkept.trans_moved (modifyBuy_moved written hbump)).sound
    · -- the id belongs to the other tenant
      obtain ⟨b, hb⟩ := Option.isSome_iff_exists.mp hfound
      exact .of_missing (BuyRows.getById_of_other_tenant hb htenant)
  · have hbuy : (written.modifyBuy tenantId' mediaBuyId' change).getById tenantId mediaBuyId =
        rows.getById tenantId mediaBuyId :=
      (modifyBuy_other written change (fun h => hid h.2)).trans (hget tenantId mediaBuyId)
    refine TokenSound.of_same hbuy (contents_congr hbuy ?_ ?_)
    · intro p
      exact congrArg _ (hpackages hid p)
    · intro p c
      exact congrArg (fun t => IndexedTable.find t (tenantId, c, mediaBuyId, p)) hassignments

/-- Every repository writer is sound, for the buy it writes and for every other. -/
theorem RepositoryWrite.apply_sound
    {write : RepositoryWrite} {tenantId tenantId' : String} {now : DateTime}
    (h : write.apply tenantId' mediaBuyId' now rows = some rows') :
    TokenSound tenantId mediaBuyId rows rows' := by
  unfold RepositoryWrite.apply at h
  split at h
  · cases h
  · next hfound =>
      have hsome : (rows.getById tenantId' mediaBuyId').isSome := by
        simpa [Option.isSome_iff_ne_none] using hfound
      cases write with
      | updateStatus status sellerCommitted approvedAt approvedBy =>
          cases h
          exact packages_then_bump_sound rows rows rfl rfl (fun _ _ => rfl) hsome
            (updateStatus_bumps status now sellerCommitted approvedAt approvedBy)
      | updateFields updates sellerCommitted =>
          cases h
          exact packages_then_bump_sound rows rows rfl rfl (fun _ _ => rfl) hsome
            (updateFields_bumps updates now sellerCommitted)
      | createPackage packageId config budget =>
          obtain ⟨written, hinsert, rfl⟩ := Option.map_eq_some_iff.mp h
          obtain ⟨hbuys, hassignments, hpackages⟩ := insertPackages_frame hinsert
          exact packages_then_bump_sound rows written hbuys hassignments hpackages hsome
            bumpParentRevision_bumps
      | createPackagesBulk packages =>
          obtain ⟨written, hinsert, rfl⟩ := Option.map_eq_some_iff.mp h
          obtain ⟨hbuys, hassignments, hpackages⟩ := insertPackages_frame hinsert
          exact packages_then_bump_sound rows written hbuys hassignments hpackages hsome
            bumpParentRevision_bumps
      | updatePackageConfig packageId config =>
          simp only at h
          split at h
          · cases h
          · cases h
            refine packages_then_bump_sound rows
              (rows.modifyConfig mediaBuyId' packageId (fun _ => config)) rfl rfl
              (fun hne p => ?_) hsome bumpParentRevision_bumps
            exact BuyRows.find_modifyConfig_of_ne _ _ (by simp [hne])
      | updatePackageFields packageId budget config =>
          simp only at h
          split at h
          · cases h
          · cases h
            refine packages_then_bump_sound rows
              (rows.modifyPackage mediaBuyId' packageId budget config) rfl rfl
              (fun hne p => ?_) hsome bumpParentRevision_bumps
            exact IndexedTable.find_modify_of_ne rows.packages _
              (MediaPackage.primaryKey_withFields budget config) (by simp [hne])

end Writers

end MediaBuys
end SalesAgent
