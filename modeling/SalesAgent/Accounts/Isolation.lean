import SalesAgent.Accounts.Strangers

/-!
# Which requests are isolated from other principals' accounts

Lookups by account id and by natural key search the whole tenant.  A request is isolated
from the accounts its principal cannot access exactly where these lookups have no room
for them: every account id it refers to is of an account the principal can access, and
every natural key it names is held, with its brand id, by such an account.  Where the
request fails as a whole, the natural keys do not matter.

**Results.**
* `namesOwnAccounts_of_isolatedFor` and `isolatedFor_of_namesOwnAccounts`, joined in
  `account_isolation_iff`.
* `foreign_account_is_updated`: a settings update of someone else's account.
-/

namespace SalesAgent
namespace Accounts

variable {env : AccountsEnv} {req : SyncAccountsRequest}
variable {rows rows' before before' : AccountRows} {s s' : SyncState}
variable {entry : SyncEntry} {index : Nat} {dryRun : Bool}

/-- The request changes accounts of the principal only, and answers the same over every
store that differs in other accounts. -/
structure IsolatedFor
    (env : AccountsEnv)
    (req : SyncAccountsRequest)
    (before : AccountRows) : Prop where
  confined : Confined env before (syncAccounts env req before).rows
  same : ∀ before', SameView env before before' → Fresh env req before' →
    (syncAccounts env req before).response = (syncAccounts env req before').response

/-- The natural key has a brand id, and the principal can access the account under it. -/
def HoldsKey
    (env : AccountsEnv)
    (rows : AccountRows)
    (key : NaturalKey) : Prop :=
  key.brandId.isSome ∧ ∃ a ∈ rows.accounts,
    a.indexKey = some (key.indexKey env.tenantId) ∧ env.owns rows a = true

/-- An entry whose natural key, if it is looked up, is the principal's. -/
def KeyClosed
    (env : AccountsEnv)
    (dryRun : Bool)
    (rows : AccountRows)
    (entry : SyncEntry) : Prop :=
  match entry.account with
  | some (.byId _) => True
  | some (.byNaturalKey brand operator sandbox) =>
      HoldsKey env rows (naturalKey brand operator sandbox)
  | none =>
      match entry.brand, entry.operator with
      | some brand, some operator =>
          refusedOutright env dryRun entry = true ∨
            HoldsKey env rows (naturalKey brand operator entry.sandbox)
      | _, _ => True

/-- Up to the first entry that ends the request, every account id is of an account of
the principal. -/
def OwnIds
    (env : AccountsEnv)
    (req : SyncAccountsRequest)
    (rows : AccountRows) : Prop :=
  ∀ pre entry post accountId, req.accounts = pre ++ entry :: post →
    (∀ e ∈ pre, ¬ EndsRequest env rows e) → entry.mixed = false →
    entry.account = some (.byId accountId) → OwnsId env rows accountId

/-- The request fails over one of its entries, or over an account of the principal that
it would close. -/
def FailsAsAWhole
    (env : AccountsEnv)
    (req : SyncAccountsRequest)
    (rows : AccountRows) : Prop :=
  (∃ e ∈ req.accounts, EndsRequest env rows e) ∨
    (req.deleteMissing = true ∧ openBrandless env rows ≠ [])

/-- The accounts a request names are the principal's. -/
def NamesOwnAccounts
    (env : AccountsEnv)
    (req : SyncAccountsRequest)
    (rows : AccountRows) : Prop :=
  refusedRequest env req ≠ none ∨
    (OwnIds env req rows ∧
      (FailsAsAWhole env req rows ∨ ∀ e ∈ req.accounts, KeyClosed env req.dryRun rows e))

section View

theorem ownsId_of_sameView
    (h : SameView env rows rows')
    {accountId : String}
    (hown : OwnsId env rows accountId) :
    OwnsId env rows' accountId := by
  obtain ⟨a, ha, hid, howned⟩ := hown
  obtain ⟨ha', howned'⟩ := h.mem ha howned
  exact ⟨a, ha', hid, howned'⟩

theorem endsRequest_of_sameView
    (h : SameView env rows rows')
    (hends : EndsRequest env rows entry) :
    EndsRequest env rows' entry := by
  rcases hends with hmixed | hmissing | ⟨a, ha, haccount, hown, hvisible, hbrand⟩
  · exact .inl hmixed
  · exact .inr (.inl hmissing)
  · obtain ⟨ha', hown'⟩ := h.mem ha hown
    refine .inr (.inr ⟨a, ha', haccount, hown', ?_, hbrand⟩)
    rw [← h.visible a ((IndexedTable.mem_part _).mpr ⟨ha, hown⟩)]
    exact hvisible

theorem openBrandless_of_sameView
    (h : SameView env rows rows') :
    openBrandless env rows = openBrandless env rows' := by
  rw [openBrandless, openBrandless, listByPrincipal_of_sameView h]

theorem holdsKey_of_sameView
    (h : SameView env rows rows')
    {key : NaturalKey}
    (hkey : HoldsKey env rows key) :
    HoldsKey env rows' key := by
  obtain ⟨hid, a, ha, hindex, hown⟩ := hkey
  obtain ⟨ha', hown'⟩ := h.mem ha hown
  exact ⟨hid, a, ha', hindex, hown'⟩

theorem keyClosed_of_sameView
    (h : SameView env rows rows')
    (hclosed : KeyClosed env dryRun rows entry) :
    KeyClosed env dryRun rows' entry := by
  unfold KeyClosed at hclosed ⊢
  cases haccount : entry.account with
  | some ref =>
      rw [haccount] at hclosed
      cases ref with
      | byId accountId => trivial
      | byNaturalKey brand operator sandbox => exact holdsKey_of_sameView h hclosed
  | none =>
      rw [haccount] at hclosed
      cases hbrand : entry.brand with
      | none => trivial
      | some brand =>
          cases hoperator : entry.operator with
          | none => trivial
          | some operator =>
              rw [hbrand, hoperator] at hclosed
              exact hclosed.imp_right (holdsKey_of_sameView h)

end View

section Closed

theorem owns_of_holdsKey
    {brand : Brand} {operator : String} {sandbox : Option Bool} {a : Account}
    (hkey : HoldsKey env rows (naturalKey brand operator sandbox))
    (ha : a ∈ rows.accounts)
    (htenant : a.tenantId = env.tenantId)
    (hanswers : (naturalKey brand operator sandbox).matches a = true ∨
      a.indexKey = some ((naturalKey brand operator sandbox).indexKey env.tenantId)) :
    env.owns rows a = true := by
  obtain ⟨hid, held, hheld, hindex, hown⟩ := hkey
  have hunder : a.indexKey =
      some ((naturalKey brand operator sandbox).indexKey env.tenantId) := by
    rcases hanswers with hmatches | hindexed
    · obtain ⟨brand', hbrand⟩ := Option.isSome_iff_exists.mp (brand_of_matches hmatches)
      rw [indexKey_of_matches_brand htenant hmatches hbrand]
      have hsameId : brand'.brandId = brand.brandId := by
        have hcond := hmatches
        simp only [NaturalKey.matches, naturalKey, hbrand, Option.any_some,
          Bool.and_eq_true, Bool.or_eq_true] at hcond
        rcases hcond.1.2.2 with hnone | hsome
        · rw [Option.isNone_iff_eq_none] at hnone
          change brand.brandId.isSome = true at hid
          rw [hnone] at hid
          cases hid
        · exact of_decide_eq_true hsome
      rw [hsameId]
      rfl
    · exact hindexed
  rw [AccountRows.eq_of_indexKey rows ha hheld hunder hindex]
  exact hown

theorem unshared_of_closed
    (hfresh : Fresh env req rows)
    (hown : ∀ e ∈ req.accounts, ∀ accountId, e.account = some (.byId accountId) →
      OwnsId env rows accountId)
    (hclosed : ∀ e ∈ req.accounts, KeyClosed env req.dryRun rows e) :
    Unshared env req rows := by
  rintro ⟨entry, index⟩ he hreads a ha htenant hanswers
  have hentry : entry ∈ req.accounts := List.fst_mem_of_mem_zipIdx he
  have hindex : index < req.accounts.length := List.snd_lt_of_mem_zipIdx he
  have hkey := hclosed entry hentry
  unfold KeyClosed at hkey
  unfold SyncEntry.AnsweredBy at hanswers
  cases haccount : entry.account with
  | some ref =>
      rw [haccount] at hkey hanswers
      cases ref with
      | byId accountId =>
          obtain ⟨held, hheld, hid, howned⟩ := hown entry hentry accountId haccount
          rw [AccountRows.eq_of_accountId rows ha hheld
            (htenant.trans (tenantId_of_owns howned).symm) (hanswers.trans hid.symm)]
          exact howned
      | byNaturalKey brand operator sandbox =>
          exact owns_of_holdsKey hkey ha htenant (.inl hanswers)
  | none =>
      rw [haccount] at hkey hanswers
      cases hbrand : entry.brand with
      | none =>
          rw [hbrand] at hanswers
          exact hanswers.elim
      | some brand =>
          cases hoperator : entry.operator with
          | none =>
              rw [hbrand, hoperator] at hanswers
              exact hanswers.elim
          | some operator =>
              simp only [hbrand, hoperator] at hkey hanswers
              rcases hkey with hrefused | hholds
              · exact absurd (hreads.2.symm.trans hrefused) (by simp)
              · rcases hanswers with hmatches | hindexed | hminted
                · exact owns_of_holdsKey hholds ha htenant (.inl hmatches)
                · exact owns_of_holdsKey hholds ha htenant (.inr hindexed)
                · exact absurd (AccountRows.find_eq_some_iff.mpr ⟨ha, htenant, hminted⟩)
                    (by rw [hfresh.unused index hindex]; simp)

end Closed

section Whole

theorem response_of_error
    {fault : SyncAccountsFault}
    (hrefused : refusedRequest env req = none)
    (h : runEntries env req before = .error fault) :
    syncAccounts env req before = ⟨before, .error fault⟩ := by
  rw [syncAccounts, hrefused, h]

theorem error_of_response
    {fault : SyncAccountsFault}
    (hrefused : refusedRequest env req = none)
    (h : (syncAccounts env req before).response = .error fault) :
    runEntries env req before = .error fault := by
  rw [syncAccounts, hrefused] at h
  cases hrun : runEntries env req before with
  | error fault' =>
      rw [hrun] at h
      cases h
      rfl
  | ok s =>
      rw [hrun] at h
      cases h

theorem runEntries_of_ends
    {pre post : List SyncEntry}
    (hfresh : Fresh env req before)
    (hsplit : req.accounts = pre ++ entry :: post)
    (hnot : ∀ e ∈ pre, ¬ EndsRequest env before e)
    (hown : ∀ e ∈ pre, ∀ accountId, e.account = some (.byId accountId) →
      OwnsId env before accountId)
    {fault : SyncAccountsFault}
    (hfails : ∀ s, InRun env before pre.length s →
      syncEntry env req.dryRun before s (entry, pre.length) = .error fault) :
    runEntries env req before = .error fault := by
  have hlength : 0 + pre.length ≤ req.accounts.length := by
    rw [hsplit, List.length_append]
    omega
  obtain ⟨s, hreach, hs⟩ := entries_reach req.dryRun hfresh hlength
    (.start env before) hnot hown
  rw [Nat.zero_add] at hs
  rw [runEntries, hsplit, List.zipIdx_append, List.foldlM_append, hreach, List.zipIdx_cons,
    Nat.zero_add]
  change ((List.foldlM _ s (_ :: _)) >>= _) = _
  rw [List.foldlM_cons, hfails s hs]
  rfl

theorem exists_first_end
    {entries : List SyncEntry}
    (h : ∃ e ∈ entries, EndsRequest env rows e) :
    ∃ pre entry post, entries = pre ++ entry :: post ∧ EndsRequest env rows entry ∧
      ∀ e ∈ pre, ¬ EndsRequest env rows e := by
  classical
  obtain ⟨e, he, hends⟩ := h
  have hsome : (entries.find? fun e => decide (EndsRequest env rows e)).isSome := by
    rw [List.find?_isSome]
    exact ⟨e, he, by simpa using hends⟩
  obtain ⟨first, hfirst⟩ := Option.isSome_iff_exists.mp hsome
  obtain ⟨hfirstEnds, pre, post, hsplit, hpre⟩ := List.find?_eq_some_iff_append.mp hfirst
  exact ⟨pre, first, post, hsplit, by simpa using hfirstEnds,
    fun e he => by simpa using hpre e he⟩

theorem OwnIds.before_end
    (h : OwnIds env req rows)
    {pre post : List SyncEntry}
    (hsplit : req.accounts = pre ++ post)
    (hnot : ∀ e ∈ pre, ¬ EndsRequest env rows e) :
    ∀ e ∈ pre, ∀ accountId, e.account = some (.byId accountId) → OwnsId env rows accountId := by
  intro e he accountId haccount
  obtain ⟨left, right, rfl⟩ := List.append_of_mem he
  refine h left e (right ++ post) accountId ?_ ?_ ?_ haccount
  · rw [hsplit, List.append_assoc, List.cons_append]
  · exact fun e' he' => hnot e' (List.mem_append_left _ he')
  · by_contra hmixed
    exact hnot e he (.inl (by simpa using hmixed))

theorem error_of_failsAsAWhole
    (hfresh : Fresh env req before)
    (hfresh' : Fresh env req before')
    (hview : SameView env before before')
    (hown : OwnIds env req before)
    (hfails : FailsAsAWhole env req before) :
    ∃ fault, runEntries env req before = .error fault ∧
      runEntries env req before' = .error fault := by
  have hownIds : OwnIds env req before' := by
    intro pre entry post accountId hsplit hnot hmixed haccount
    refine ownsId_of_sameView hview (hown pre entry post accountId hsplit ?_ hmixed haccount)
    exact fun e he hends => hnot e he (endsRequest_of_sameView hview hends)
  by_cases hends : ∃ e ∈ req.accounts, EndsRequest env before e
  · obtain ⟨pre, entry, post, hsplit, hentry, hnot⟩ := exists_first_end hends
    have hnot' : ∀ e ∈ pre, ¬ EndsRequest env before' e :=
      fun e he h => hnot e he (endsRequest_of_sameView hview.symm h)
    exact ⟨endFault pre.length entry,
      runEntries_of_ends hfresh hsplit hnot (hown.before_end hsplit hnot)
        (fun s hs => syncEntry_ends hs hentry),
      runEntries_of_ends hfresh' hsplit hnot' (hownIds.before_end hsplit hnot')
        (fun s hs => syncEntry_ends hs (endsRequest_of_sameView hview hentry))⟩
  · obtain ⟨hdelete, hopen⟩ := hfails.resolve_left hends
    have hclosing : ∀ rows, Fresh env req rows → OwnIds env req rows →
        (¬ ∃ e ∈ req.accounts, EndsRequest env rows e) → ∀ a rest,
        openBrandless env rows = a :: rest →
          runEntries env req rows = .error (.configuration (some a.accountId)) := by
      intro rows hfreshRows hownRows hnone a rest hlist
      have hnot : ∀ e ∈ req.accounts, ¬ EndsRequest env rows e :=
        fun e he h => hnone ⟨e, he, h⟩
      obtain ⟨s, hreach, hs⟩ := entries_reach req.dryRun hfreshRows
        (by rw [Nat.zero_add]) (.start env rows) hnot
        (hownRows.before_end (List.append_nil _).symm hnot)
      rw [runEntries, hreach]
      change (if req.deleteMissing then deleteMissing env s else pure s) = _
      rw [if_pos hdelete]
      rcases deleteMissing_eq hs with ⟨hnil, -⟩ | ⟨a', rest', hlist', herror⟩
      · rw [hlist] at hnil
        cases hnil
      · rw [hlist] at hlist'
        cases hlist'
        exact herror
    obtain ⟨a, rest, hlist⟩ := List.exists_cons_of_ne_nil hopen
    refine ⟨_, hclosing before hfresh hown hends a rest hlist,
      hclosing before' hfresh' hownIds ?_ a rest ?_⟩
    · rintro ⟨e, he, h⟩
      exact hends ⟨e, he, endsRequest_of_sameView hview.symm h⟩
    · rw [← openBrandless_of_sameView hview]
      exact hlist

theorem isolatedFor_of_refused
    (hrefused : refusedRequest env req ≠ none) :
    IsolatedFor env req before := by
  obtain ⟨fault, hfault⟩ := Option.ne_none_iff_exists'.mp hrefused
  have hsame : ∀ rows, syncAccounts env req rows = ⟨rows, .error fault⟩ := by
    intro rows
    rw [syncAccounts, hfault]
  refine ⟨?_, fun before' _ _ => ?_⟩
  · rw [hsame]
    exact (Kept.refl env before).confined
  · rw [hsame, hsame]

/-- A request that names the principal's accounts only is isolated. -/
theorem isolatedFor_of_namesOwnAccounts
    (hfresh : Fresh env req before)
    (h : NamesOwnAccounts env req before) :
    IsolatedFor env req before := by
  by_cases hrefused : refusedRequest env req = none
  · obtain ⟨hown, hrest⟩ := h.resolve_left (fun hno => hno hrefused)
    by_cases hfails : FailsAsAWhole env req before
    · refine ⟨?_, fun before' hview hfresh' => ?_⟩
      · obtain ⟨fault, hrun, -⟩ :=
          error_of_failsAsAWhole hfresh hfresh (.refl env before) hown hfails
        rw [response_of_error hrefused hrun]
        exact (Kept.refl env before).confined
      · obtain ⟨fault, hrun, hrun'⟩ := error_of_failsAsAWhole hfresh hfresh' hview hown hfails
        rw [response_of_error hrefused hrun, response_of_error hrefused hrun']
    · have hclosed := hrest.resolve_left hfails
      have hnot : ∀ e ∈ req.accounts, ¬ EndsRequest env before e :=
        fun e he hends => hfails (.inl ⟨e, he, hends⟩)
      have hids := hown.before_end (List.append_nil _).symm hnot
      have hunshared : Unshared env req before := unshared_of_closed hfresh hids hclosed
      refine ⟨syncAccounts_confined hunshared, fun before' hview hfresh' => ?_⟩
      refine syncAccounts_alike hview hunshared (unshared_of_closed hfresh' ?_ ?_)
      · exact fun e he accountId haccount =>
          ownsId_of_sameView hview (hids e he accountId haccount)
      · exact fun e he => keyClosed_of_sameView hview (hclosed e he)
  · exact isolatedFor_of_refused hrefused

end Whole

section Rooms

/-- Someone other than the principal. -/
def otherPrincipal
    (env : AccountsEnv) : String :=
  env.principalId ++ "-other"

theorem otherPrincipal_ne
    (env : AccountsEnv) :
    otherPrincipal env ≠ env.principalId := by
  intro h
  have hlength := congrArg String.length h
  simp [otherPrincipal] at hlength

theorem ownIds_of_isolatedFor
    (hfresh : Fresh env req before)
    (hrefused : refusedRequest env req = none)
    (h : IsolatedFor env req before) :
    OwnIds env req before := by
  intro pre
  induction hn : pre.length using Nat.strong_induction_on generalizing pre with
  | _ n ih =>
  intro entry post accountId hsplit hnot hmixed haccount
  by_contra hforeign
  -- the first reference to an account that is not the principal's
  have hpre : ∀ e ∈ pre, ∀ id, e.account = some (.byId id) → OwnsId env before id := by
    intro e he id hid
    obtain ⟨left, right, rfl⟩ := List.append_of_mem he
    refine ih left.length ?_ left rfl e (right ++ entry :: post) id ?_ ?_ ?_ hid
    · rw [← hn, List.length_append, List.length_cons]
      omega
    · rw [hsplit, List.append_assoc, List.cons_append]
    · exact fun e' he' => hnot e' (List.mem_append_left _ he')
    · by_contra hmixed
      exact hnot e he (.inl (by simpa using hmixed))
  have hentry : entry ∈ req.accounts := by
    rw [hsplit]
    exact List.mem_append_right _ List.mem_cons_self
  have hprimary : (ownStore env before).accounts.find (env.tenantId, accountId) = none := by
    rw [IndexedTable.find_eq_none_iff]
    intro a ha hkey
    simp only [Account.primaryKey, Option.some.injEq, Prod.mk.injEq] at hkey
    obtain ⟨hmem, hown⟩ := mem_ownStore.mp ha
    exact hforeign ⟨a, hmem, hkey.2, hown⟩
  have hown := sameView_ownStore env before
  have hbeside := sameView_insertGranted env
    (strangerRow env accountId none none none none (otherPrincipal env)) hprimary
    (fun k hk => by cases hk) (otherPrincipal_ne env) rfl rfl
  generalize hbesideRows : (ownStore env before).insertGranted
    (strangerRow env accountId none none none none (otherPrincipal env)) (otherPrincipal env)
    hprimary (fun k hk => by cases hk) = beside at hbeside
  have hview := hown.trans hbeside
  have hfreshBeside : Fresh env req beside := by
    rw [← hbesideRows]
    exact hfresh.ownStore.insertGranted hprimary (fun k hk => by cases hk)
      (hfresh.unnamed entry hentry accountId haccount)
  -- beside it, the account of someone else without a brand fails the request
  have hfails : runEntries env req beside = .error (.configuration (some accountId)) := by
    refine runEntries_of_ends hfreshBeside hsplit
      (fun e he hends => hnot e he (endsRequest_of_sameView hview.symm hends))
      (fun e he id hid => ownsId_of_sameView hview (hpre e he id hid)) ?_
    intro s hs
    have hmem : strangerRow env accountId none none none none (otherPrincipal env) ∈
        beside.accounts := by
      rw [← hbesideRows]
      exact List.mem_cons_self
    have hvisible : beside.visible
        (strangerRow env accountId none none none none (otherPrincipal env)) = true := by
      rw [← hbesideRows]
      refine decide_eq_true fun hstaged => ?_
      have hsome := (ownStore env before).stagedOfAccounts _ hstaged
      change ((ownStore env before).accounts.find (env.tenantId, accountId)).isSome = true at hsome
      rw [hprimary] at hsome
      cases hsome
    have hfound : resolveSettingsUpdateTarget env s.rows (.byId accountId) =
        some (strangerRow env accountId none none none none (otherPrincipal env)) := by
      refine AccountRows.getById_eq_some_iff.mpr
        ⟨⟨(hs.mem_brandless rfl).mpr hmem, rfl, rfl⟩, ?_⟩
      rw [hs.visible _ (List.mem_filter.mpr ⟨hmem, rfl⟩)]
      exact hvisible
    have hanswer : ∀ proofErrors, answerEntry env s.rows pre.length entry proofErrors =
        .error (.configuration (some accountId)) := by
      intro proofErrors
      rw [answerEntry, if_neg (by simp [hmixed]), haccount]
      simp only [processSettingsUpdateEntry, hfound]
      rfl
    rw [syncEntry, hanswer]
    rfl
  -- alone, no account of that id is there to fail it
  have halone : runEntries env req (ownStore env before) =
      .error (.configuration (some accountId)) := by
    refine error_of_response hrefused ?_
    rw [← h.same _ hown hfresh.ownStore, h.same _ hview hfreshBeside,
      response_of_error hrefused hfails]
  obtain ⟨a, ha, -, hid⟩ := brandless_of_configuration halone
  obtain ⟨hmem, howned⟩ := mem_ownStore.mp ha
  exact hforeign ⟨a, hmem, hid, howned⟩

theorem indexKey_of_identity
    {a a' : Account}
    (h : a.identity = a'.identity) :
    a.indexKey = a'.indexKey := by
  obtain ⟨htenant, -, hoperator, hbrand, hsandbox⟩ := fields_of_identity h
  rw [Account.indexKey, Account.indexKey, htenant, hoperator, hbrand, hsandbox]

/-- The accounts are the same but for what the sync can change, and none was staged. -/
structure SameIdentities
    (before rows : AccountRows) : Prop where
  accounts : rows.accounts.rows.map Account.identity = before.accounts.rows.map Account.identity
  staged : ∀ k ∈ rows.staged, k ∈ before.staged

/-- An entry whose natural key is the principal's creates nothing. -/
theorem SameIdentities.answerEntry
    {result : SyncResponseAccount}
    (h : SameIdentities before rows)
    (hclosed : KeyClosed env dryRun before entry)
    (hrun : answerEntry env rows index entry
      (resolveActivationProofs env dryRun before index entry) = .ok (rows', result)) :
    SameIdentities before rows' := by
  have hwrote := answerEntry_wrote hrun
  generalize hid : result.accountId = accountId at hwrote
  cases hwrote with
  | nothing => exact h
  | @wrote rows₀ existing changes hcommitted _ _ _ _ =>
      refine ⟨(identity_of_wrote hcommitted).trans h.accounts, fun k hk => h.staged k ?_⟩
      have hstaged : (rows₀.write env.tenantId existing.accountId changes).staged =
          rows₀.staged := by
        unfold AccountRows.write
        split <;> rfl
      rw [hstaged] at hk
      rcases hcommitted with rfl | ⟨_, -, -, rfl⟩
      · exact hk
      · exact List.mem_of_mem_filter hk
  | @created account brand operator hprimary hindex haccount hbrand hoperator hkey _ _ _ _ =>
      exfalso
      simp only [KeyClosed, haccount, hbrand, hoperator] at hclosed
      rcases hclosed with hrefused | ⟨-, held, hheld, hunder, -⟩
      · -- an entry that is refused answers about no account
        rcases answerEntry_of_not_reads index (fun hreads : entry.Reads env dryRun =>
            absurd (hreads.2.symm.trans hrefused) (by simp)) with
          ⟨fault, hfault⟩ | ⟨refused, hnone, hrefusedRun⟩
        · rw [hfault] at hrun
          cases hrun
        · rw [hrefusedRun] at hrun
          rw [← (Prod.mk.inj (Except.ok.inj hrun)).2, hnone] at hid
          cases hid
      · obtain ⟨a, ha, hsame⟩ := identity_of_mem h.accounts hheld
        exact absurd ((indexKey_of_identity hsame).trans hunder)
          (rows.byNaturalKey.find_eq_none_iff.mp (hindex _ hkey) a ha)

theorem SameIdentities.entries
    {entries : List SyncEntry} {count : Nat}
    (h : SameIdentities before s.rows)
    (hclosed : ∀ e ∈ entries, KeyClosed env dryRun before e)
    (hrun : (entries.zipIdx count).foldlM (syncEntry env dryRun before) s = .ok s') :
    SameIdentities before s'.rows := by
  induction entries generalizing count s with
  | nil =>
      cases hrun
      exact h
  | cons entry entries ih =>
      rw [List.zipIdx_cons] at hrun
      obtain ⟨middle, hfirst, hrest⟩ := Runs.foldlM_cons_eq_ok.mp hrun
      obtain ⟨rows', result, hanswer, rfl⟩ := syncEntry_eq_ok hfirst
      exact ih (h.answerEntry (hclosed entry List.mem_cons_self) hanswer)
        (fun e he => hclosed e (List.mem_cons_of_mem _ he)) hrest

theorem results_of_entries
    {entries : List (SyncEntry × Nat)}
    (hrun : entries.foldlM (syncEntry env dryRun before) s = .ok s') :
    ∃ more, s'.results = s.results ++ more := by
  induction entries generalizing s with
  | nil =>
      cases hrun
      exact ⟨[], (List.append_nil _).symm⟩
  | cons e entries ih =>
      obtain ⟨middle, hfirst, hrest⟩ := Runs.foldlM_cons_eq_ok.mp hrun
      obtain ⟨rows', result, -, rfl⟩ := syncEntry_eq_ok hfirst
      obtain ⟨more, hmore⟩ := ih hrest
      exact ⟨result :: more, by rw [hmore]; simp [SyncState.record]⟩

/-- A request that does not fail, at one of its entries. -/
theorem runEntries_at
    {pre post : List SyncEntry}
    (hfresh : Fresh env req before)
    (hsplit : req.accounts = pre ++ entry :: post)
    (hfails : ¬ FailsAsAWhole env req before)
    (hown : OwnIds env req before)
    (hclosed : ∀ e ∈ pre, KeyClosed env req.dryRun before e) :
    ∃ s₀ rows' result s more, InRun env before pre.length s₀ ∧
      SameIdentities before s₀.rows ∧
      answerEntry env s₀.rows pre.length entry
        (resolveActivationProofs env req.dryRun before pre.length entry) = .ok (rows', result) ∧
      runEntries env req before = .ok s ∧ s.results = s₀.results ++ result :: more := by
  have hnot : ∀ e ∈ req.accounts, ¬ EndsRequest env before e :=
    fun e he hends => hfails (.inl ⟨e, he, hends⟩)
  obtain ⟨s, hreach, hs⟩ := entries_reach req.dryRun hfresh (by rw [Nat.zero_add])
    (.start env before) hnot (hown.before_end (List.append_nil _).symm hnot)
  have hsteps := hreach
  rw [hsplit, List.zipIdx_append, List.zipIdx_cons, Nat.zero_add, List.foldlM_append] at hsteps
  obtain ⟨s₀, hpre, hpost⟩ : ∃ s₀, pre.zipIdx.foldlM (syncEntry env req.dryRun before)
      { rows := before } = .ok s₀ ∧
        ((entry, pre.length) :: post.zipIdx (pre.length + 1)).foldlM
          (syncEntry env req.dryRun before) s₀ = .ok s := by
    cases hfirst : pre.zipIdx.foldlM (syncEntry env req.dryRun before) { rows := before } with
    | error fault =>
        rw [hfirst] at hsteps
        cases hsteps
    | ok s₀ =>
        rw [hfirst] at hsteps
        exact ⟨s₀, rfl, hsteps⟩
  obtain ⟨middle, hentry, hrest⟩ := Runs.foldlM_cons_eq_ok.mp hpost
  obtain ⟨rows', result, hanswer, rfl⟩ := syncEntry_eq_ok hentry
  obtain ⟨more, hmore⟩ := results_of_entries hrest
  have hinPre : ∀ e ∈ pre, e ∈ req.accounts := by
    intro e he
    rw [hsplit]
    exact List.mem_append_left _ he
  have hlength : 0 + pre.length ≤ req.accounts.length := by
    rw [hsplit, List.length_append]
    omega
  obtain ⟨s₀', hpre', hs₀⟩ := entries_reach req.dryRun hfresh hlength (.start env before)
    (fun e he => hnot e (hinPre e he))
    (hown.before_end hsplit (fun e he => hnot e (hinPre e he)))
  rw [hpre] at hpre'
  cases hpre'
  rw [Nat.zero_add] at hs₀
  have hsame : SameIdentities before s₀.rows :=
    SameIdentities.entries (s := { rows := before }) ⟨rfl, fun _ hk => hk⟩ hclosed hpre
  have hresults : s.results = s₀.results ++ result :: more := by
    rw [hmore]
    simp [SyncState.record]
  by_cases hdelete : req.deleteMissing = true
  · rcases deleteMissing_eq hs with ⟨-, closed, s', hok, hclosedResults⟩ | ⟨a, rest, hopen, -⟩
    · refine ⟨s₀, rows', result, s', more ++ closed, hs₀, hsame, hanswer, ?_, ?_⟩
      · rw [runEntries, hreach]
        change (if req.deleteMissing then deleteMissing env s else pure s) = _
        rw [if_pos hdelete, hok]
      · rw [hclosedResults, hresults, List.append_assoc, List.cons_append]
    · exact absurd (.inr ⟨hdelete, by rw [hopen]; simp⟩) hfails
  · refine ⟨s₀, rows', result, s, more, hs₀, hsame, hanswer, ?_, hresults⟩
    rw [runEntries, hreach]
    change (if req.deleteMissing then deleteMissing env s else pure s) = _
    rw [if_neg hdelete]
    rfl

/-- An entry that looks up a natural key. -/
inductive LooksUp
    (env : AccountsEnv)
    (dryRun : Bool)
    (entry : SyncEntry) : Brand → String → Option Bool → Prop
  | settingsUpdate
      {brand : Brand} {operator : String} {sandbox : Option Bool}
      (haccount : entry.account = some (.byNaturalKey brand operator sandbox)) :
      LooksUp env dryRun entry brand operator sandbox
  | provisioning
      {brand : Brand} {operator : String}
      (haccount : entry.account = none)
      (hbrand : entry.brand = some brand)
      (hoperator : entry.operator = some operator)
      (hgates : refusedOutright env dryRun entry = false) :
      LooksUp env dryRun entry brand operator entry.sandbox

theorem looksUp_of_not_keyClosed
    (h : ¬ KeyClosed env dryRun rows entry) :
    ∃ brand operator sandbox, LooksUp env dryRun entry brand operator sandbox ∧
      ¬ HoldsKey env rows (naturalKey brand operator sandbox) := by
  unfold KeyClosed at h
  cases haccount : entry.account with
  | some ref =>
      rw [haccount] at h
      cases ref with
      | byId accountId => exact absurd trivial h
      | byNaturalKey brand operator sandbox =>
          exact ⟨brand, operator, sandbox, .settingsUpdate haccount, h⟩
  | none =>
      rw [haccount] at h
      cases hbrand : entry.brand with
      | none =>
          rw [hbrand] at h
          exact absurd trivial h
      | some brand =>
          cases hoperator : entry.operator with
          | none =>
              rw [hbrand, hoperator] at h
              exact absurd trivial h
          | some operator =>
              simp only [hbrand, hoperator, not_or] at h
              exact ⟨brand, operator, entry.sandbox,
                .provisioning haccount hbrand hoperator (by simpa using h.1), h.2⟩

theorem gates_not_unsupportedProvisioning
    {gates : List (Option (List GateFailure))} {errors : List EntryError}
    (h : firstGateFailure gates = some errors) :
    ∀ e ∈ errors, e.code ≠ .unsupportedProvisioning := by
  obtain ⟨failures, -, rfl⟩ := Option.map_eq_some_iff.mp h
  intro e he
  obtain ⟨failure, -, rfl⟩ := List.mem_map.mp he
  simp only
  cases failure.failureClass <;> simp [FailureClass.code]

theorem resolveActivationProofs_of_proven
    {existing : Account}
    (hfound : lookupExistingForEntry env before entry = some existing)
    (hconfigs : existing.notificationConfigs = entry.notificationConfigs) :
    resolveActivationProofs env dryRun before index entry =
      if dryRun then previewErrors entry else none := by
  unfold resolveActivationProofs
  split
  · rfl
  · simp only [hfound, Option.bind_some, hconfigs]
    rw [if_pos]
    refine List.filter_eq_nil_iff.mpr ?_
    rintro ⟨config, position⟩ hc
    obtain ⟨hmem, hactive⟩ := List.mem_filter.mp hc
    have hproven : proofTuple config ∈
        (((entry.notificationConfigs.getD []).filter (·.active)).map proofTuple) :=
      List.mem_map_of_mem (List.mem_filter.mpr ⟨List.fst_mem_of_mem_zipIdx hmem, hactive⟩)
    simp [hproven]

theorem getByNaturalKey_of_head
    {a : Account} {rest : List Account} {key : NaturalKey}
    (hrows : rows.accounts.rows = a :: rest)
    (hvisible : rows.visible a = true)
    (htenant : a.tenantId = env.tenantId)
    (hmatches : key.matches a = true) :
    rows.getByNaturalKey env.tenantId key = some a := by
  rw [AccountRows.getByNaturalKey, hrows, List.find?_cons_of_pos]
  simp [hvisible, htenant, hmatches]

theorem matches_of_identity
    {a a' : Account} {key : NaturalKey}
    (h : a.identity = a'.identity) :
    key.matches a = key.matches a' := by
  obtain ⟨-, -, hoperator, hbrand, hsandbox⟩ := fields_of_identity h
  rw [NaturalKey.matches, NaturalKey.matches, hoperator, hbrand, hsandbox]

theorem answer_beside
    {brand brand' : Brand} {operator : String} {sandbox : Option Bool} {stranger found : Account}
    {result : SyncResponseAccount}
    (hlooks : LooksUp env dryRun entry brand operator sandbox)
    (hbefore : before.getByNaturalKey env.tenantId (naturalKey brand operator sandbox) =
      some stranger)
    (hconfigs : stranger.notificationConfigs = entry.notificationConfigs)
    (hfound : rows.getByNaturalKey env.tenantId (naturalKey brand operator sandbox) = some found)
    (hbrand : found.brand = some brand')
    (hmixed : entry.mixed = false)
    (hrun : answerEntry env rows index entry
      (resolveActivationProofs env dryRun before index entry) = .ok (rows', result)) :
    (entry.account = none ∧ result.accountId = some found.accountId) ∨
      (entry.account = some (.byNaturalKey brand operator sandbox) ∧
        result.brand = .reference brand' ∧
        ∀ errors, result.errors = some errors → ∀ e ∈ errors,
          e.code ≠ .unsupportedProvisioning) := by
  cases hlooks with
  | settingsUpdate haccount =>
      right
      rw [answerEntry, if_neg (by simp [hmixed]), haccount] at hrun
      simp only at hrun
      have htarget : resolveSettingsUpdateTarget env rows
          (.byNaturalKey brand operator sandbox) = some found := hfound
      rw [processSettingsUpdateEntry_of_some htarget hbrand] at hrun
      cases hgates : firstGateFailure (settingsUpdateGates env entry
          (resolveActivationProofs env dryRun before index entry)) with
      | some errors =>
          rw [hgates] at hrun
          cases hrun
          refine ⟨haccount, rfl, fun errors' herrors => ?_⟩
          cases herrors
          exact gates_not_unsupportedProvisioning hgates
      | none =>
          rw [hgates] at hrun
          cases hrun
          exact ⟨haccount, rfl, fun errors' herrors => by cases herrors⟩
  | provisioning haccount hentryBrand hoperator hgates =>
      refine .inl ⟨haccount, ?_⟩
      have hlookup : lookupExistingForEntry env before entry = some stranger := by
        rw [lookupExistingForEntry, haccount, hentryBrand, hoperator]
        exact hbefore
      have hopen : firstGateFailure (provisioningGates env entry
          (resolveActivationProofs env dryRun before index entry)) = none := by
        rw [resolveActivationProofs_of_proven hlookup hconfigs]
        simpa [refusedOutright, haccount] using hgates
      simp only [answerEntry, hmixed, haccount, hentryBrand, hoperator, hopen,
        provision_of_found hfound, applyToExistingAccount_eq] at hrun
      cases hrun
      rfl

/-- What an entry answers where it finds no account of someone else. -/
theorem answer_alone
    {brand : Brand} {operator : String} {sandbox : Option Bool} {result : SyncResponseAccount}
    {proofErrors : Option (List GateFailure)}
    (haccount : entry.account = some (.byNaturalKey brand operator sandbox))
    (hmixed : entry.mixed = false)
    (hrun : answerEntry env rows index entry proofErrors = .ok (rows', result)) :
    (∃ errors e, result.errors = some errors ∧ e ∈ errors ∧
        e.code = .unsupportedProvisioning) ∨
      ∃ found brand', rows.getByNaturalKey env.tenantId (naturalKey brand operator sandbox) =
        some found ∧ found.brand = some brand' ∧ result.brand = .reference brand' := by
  rw [answerEntry, if_neg (by simp [hmixed]), haccount] at hrun
  simp only at hrun
  cases hfound : rows.getByNaturalKey env.tenantId (naturalKey brand operator sandbox) with
  | none =>
      have htarget : resolveSettingsUpdateTarget env rows
          (.byNaturalKey brand operator sandbox) = none := hfound
      rw [processSettingsUpdateEntry, htarget] at hrun
      cases hrun
      exact .inl ⟨_, _, rfl, List.mem_cons_self, rfl⟩
  | some found =>
      right
      obtain ⟨-, -, -, hmatches⟩ := AccountRows.mem_of_getByNaturalKey hfound
      obtain ⟨brand', hbrand⟩ := Option.isSome_iff_exists.mp (brand_of_matches hmatches)
      refine ⟨found, brand', rfl, hbrand, ?_⟩
      have htarget : resolveSettingsUpdateTarget env rows
          (.byNaturalKey brand operator sandbox) = some found := hfound
      rw [processSettingsUpdateEntry_of_some htarget hbrand] at hrun
      cases hgates : firstGateFailure (settingsUpdateGates env entry proofErrors) with
      | some errors =>
          rw [hgates] at hrun
          cases hrun
          rfl
      | none =>
          rw [hgates] at hrun
          cases hrun
          rfl

/-- A request that does not fail and is isolated names natural keys of the principal
only. -/
theorem keyClosed_of_isolatedFor
    (hfresh : Fresh env req before)
    (hrefused : refusedRequest env req = none)
    (hfails : ¬ FailsAsAWhole env req before)
    (h : IsolatedFor env req before) :
    ∀ pre entry post, req.accounts = pre ++ entry :: post →
      KeyClosed env req.dryRun before entry := by
  have hids := ownIds_of_isolatedFor hfresh hrefused h
  intro pre
  induction hn : pre.length using Nat.strong_induction_on generalizing pre with
  | _ n ih =>
  intro entry post hsplit
  by_contra hopen
  -- the first entry whose natural key is not the principal's
  have hpre : ∀ e ∈ pre, KeyClosed env req.dryRun before e := by
    intro e he
    obtain ⟨left, right, rfl⟩ := List.append_of_mem he
    refine ih left.length ?_ left rfl e (right ++ entry :: post) ?_
    · rw [← hn, List.length_append, List.length_cons]
      omega
    · rw [hsplit, List.append_assoc, List.cons_append]
  have hentry : entry ∈ req.accounts := by
    rw [hsplit]
    exact List.mem_append_right _ List.mem_cons_self
  have hmixed : entry.mixed = false := by
    by_contra hmixed
    exact hfails (.inl ⟨entry, hentry, .inl (by simpa using hmixed)⟩)
  obtain ⟨brand, operator, sandbox, hlooks, hholds⟩ := looksUp_of_not_keyClosed hopen
  have hown := sameView_ownStore env before
  -- room for an account of someone else that answers to the key
  obtain ⟨brand', hroom⟩ := exists_strangerBrand env (ownStore env before) brand operator
    sandbox (by
      intro hid a ha hindex
      obtain ⟨hmem, howned⟩ := mem_ownStore.mp ha
      exact hholds ⟨hid, a, hmem, hindex, howned⟩)
  obtain ⟨accountId, hnew⟩ := Infinite.exists_notMem_finset
    ((List.range req.accounts.length).map env.mintAccountId ++
      before.accounts.rows.map (·.accountId)).toFinset
  simp only [List.mem_toFinset, List.mem_append, List.mem_map, List.mem_range, not_or,
    not_exists, not_and] at hnew
  obtain ⟨hmatches, hindex⟩ := hroom accountId entry.notificationConfigs (otherPrincipal env)
  generalize hstranger : strangerRow env accountId (some brand') (some operator) sandbox
    entry.notificationConfigs (otherPrincipal env) = stranger at hmatches hindex
  have htenant : stranger.tenantId = env.tenantId := by
    rw [← hstranger]
    rfl
  have hid : stranger.accountId = accountId := by
    rw [← hstranger]
    rfl
  have hprimary : (ownStore env before).accounts.find
      (stranger.tenantId, stranger.accountId) = none := by
    rw [IndexedTable.find_eq_none_iff]
    intro a ha hkey
    simp only [Account.primaryKey, Option.some.injEq, Prod.mk.injEq] at hkey
    exact hnew.2 a (mem_ownStore.mp ha).1 (hkey.2.trans hid)
  have hbeside := sameView_insertGranted env stranger hprimary hindex (otherPrincipal_ne env)
    htenant (by rw [← hstranger]; rfl)
  generalize hbesideRows : (ownStore env before).insertGranted stranger (otherPrincipal env)
    hprimary hindex = beside at hbeside
  have hview := hown.trans hbeside
  have hfreshBeside : Fresh env req beside := by
    rw [← hbesideRows]
    exact hfresh.ownStore.insertGranted hprimary hindex
      (fun i hi heq => hnew.1 i hi (heq.trans hid))
  have htable : beside.accounts.rows = stranger :: (ownStore env before).accounts.rows := by
    rw [← hbesideRows]
    rfl
  have hunstaged : (stranger.tenantId, stranger.accountId) ∉ beside.staged := by
    rw [← hbesideRows]
    intro hstaged
    have hsome := (ownStore env before).stagedOfAccounts _ hstaged
    rw [hprimary] at hsome
    cases hsome
  -- both runs go through the entry
  have hfailsOf : ∀ rows, SameView env before rows → ¬ FailsAsAWhole env req rows := by
    rintro rows hsame (⟨e, he, hends⟩ | ⟨hdelete, hopenBrandless⟩)
    · exact hfails (.inl ⟨e, he, endsRequest_of_sameView hsame.symm hends⟩)
    · exact hfails (.inr ⟨hdelete, by rw [openBrandless_of_sameView hsame]; exact hopenBrandless⟩)
  have hidsOf : ∀ rows, SameView env before rows → OwnIds env req rows := by
    intro rows hsame pre' entry' post' id hsplit' hnot hmixed' haccount
    exact ownsId_of_sameView hsame (hids pre' entry' post' id hsplit'
      (fun e he hends => hnot e he (endsRequest_of_sameView hsame hends)) hmixed' haccount)
  obtain ⟨s, rows₁, result, t, more, hs, hsame, hrun, hall, hresults⟩ :=
    runEntries_at hfresh.ownStore hsplit (hfailsOf _ hown) (hidsOf _ hown)
      (fun e he => keyClosed_of_sameView hown (hpre e he))
  obtain ⟨s', rows₁', result', t', more', hs', hsame', hrun', hall', hresults'⟩ :=
    runEntries_at hfreshBeside hsplit (hfailsOf _ hview) (hidsOf _ hview)
      (fun e he => keyClosed_of_sameView hview (hpre e he))
  have hequal : result = result' := by
    have hresponse := (h.same _ hown hfresh.ownStore).symm.trans (h.same _ hview hfreshBeside)
    rw [syncAccounts, syncAccounts, hrefused, hall, hall'] at hresponse
    simp only [Except.ok.injEq, SyncAccountsResponse.mk.injEq, and_true] at hresponse
    rw [hresults, hresults'] at hresponse
    have htails := List.append_inj_right hresponse (hs.results.trans hs'.results.symm)
    exact (List.cons.inj htails).1
  -- beside the account of someone else, the entry finds it
  have hstart : beside.getByNaturalKey env.tenantId (naturalKey brand operator sandbox) =
      some stranger :=
    getByNaturalKey_of_head htable (decide_eq_true hunstaged) htenant hmatches
  obtain ⟨found, rest, hhead, hfoundSame⟩ : ∃ found rest,
      s'.rows.accounts.rows = found :: rest ∧ found.identity = stranger.identity := by
    have hmap := hsame'.accounts
    rw [htable, List.map_cons] at hmap
    obtain ⟨found, rest, hrows, hfound, -⟩ := List.map_eq_cons_iff.mp hmap
    exact ⟨found, rest, hrows, hfound⟩
  obtain ⟨htenant', hid', -, hbrand', -⟩ := fields_of_identity hfoundSame
  have hfound : s'.rows.getByNaturalKey env.tenantId (naturalKey brand operator sandbox) =
      some found := by
    refine getByNaturalKey_of_head hhead ?_ (htenant'.trans htenant)
      ((matches_of_identity hfoundSame).trans hmatches)
    refine decide_eq_true fun hstaged => hunstaged ?_
    rw [← htenant', ← hid']
    exact hsame'.staged _ hstaged
  have hconfigs : stranger.notificationConfigs = entry.notificationConfigs := by
    rw [← hstranger]
    rfl
  have hstrangerBrand : found.brand = some brand' := by
    rw [hbrand', ← hstranger]
    rfl
  rcases answer_beside hlooks hstart hconfigs hfound hstrangerBrand hmixed hrun' with
    ⟨haccount, hanswer⟩ | ⟨haccount, hanswer, hmatched⟩
  · -- alone, the answer is about an account of the principal, or a new one
    rw [← hequal, hid', hid] at hanswer
    have hwrote := answerEntry_wrote hrun
    rw [hanswer] at hwrote
    generalize hanswered : some accountId = answered at hwrote
    cases hwrote with
    | nothing => cases hanswered
    | @wrote _ existing _ _ hmem _ _ _ =>
        obtain ⟨a, ha, hidentity⟩ := identity_of_mem hsame.accounts.symm hmem
        obtain ⟨-, hidSame, -⟩ := fields_of_identity hidentity
        exact hnew.2 a (mem_ownStore.mp ha).1
          (hidSame.trans (Option.some.inj hanswered).symm)
    | created _ _ _ _ _ _ hminted _ _ _ =>
        refine hnew.1 pre.length ?_ (hminted.symm.trans (Option.some.inj hanswered).symm)
        rw [hsplit, List.length_append, List.length_cons]
        omega
  · -- alone, nothing matches, or an account of another brand does
    rcases answer_alone haccount hmixed hrun with
      ⟨errors, e, herrors, he, hcode⟩ | ⟨ownFound, ownBrand, hownFound, hownBrand, hownAnswer⟩
    · rw [hequal] at herrors
      exact hmatched errors herrors e he hcode
    · rw [hequal, hanswer] at hownAnswer
      cases hownAnswer
      obtain ⟨hmem, -, hownTenant, hownMatches⟩ := AccountRows.mem_of_getByNaturalKey hownFound
      obtain ⟨a, ha, hidentity⟩ := identity_of_mem hsame.accounts.symm hmem
      have hunder : a.indexKey = stranger.indexKey := by
        rw [indexKey_of_identity hidentity,
          indexKey_of_matches_brand hownTenant hownMatches hownBrand,
          indexKey_of_matches_brand htenant hmatches (hbrand'.symm.trans hstrangerBrand)]
      have hkey : ∃ k, stranger.indexKey = some k :=
        ⟨_, indexKey_of_matches_brand htenant hmatches (hbrand'.symm.trans hstrangerBrand)⟩
      obtain ⟨k, hk⟩ := hkey
      exact (ownStore env before).byNaturalKey.find_eq_none_iff.mp (hindex k hk) a ha
        (hunder.trans hk)

/-- An isolated request names the principal's accounts only. -/
theorem namesOwnAccounts_of_isolatedFor
    (hfresh : Fresh env req before)
    (h : IsolatedFor env req before) :
    NamesOwnAccounts env req before := by
  by_cases hrefused : refusedRequest env req = none
  · refine .inr ⟨ownIds_of_isolatedFor hfresh hrefused h, ?_⟩
    by_cases hfails : FailsAsAWhole env req before
    · exact .inl hfails
    · refine .inr fun e he => ?_
      obtain ⟨pre, post, hsplit⟩ := List.append_of_mem he
      exact keyClosed_of_isolatedFor hfresh hrefused hfails h pre e post hsplit
  · exact .inl hrefused

/-- A request is isolated from the accounts its principal cannot access exactly where it
names accounts of the principal only; between stores in which no one else's account
answers to it, it is isolated in any case. -/
theorem account_isolation_iff
    (hfresh : Fresh env req before) :
    (IsolatedFor env req before ↔ NamesOwnAccounts env req before) ∧
      ∀ before', SameView env before before' → Unshared env req before →
        Unshared env req before' →
          Confined env before (syncAccounts env req before).rows ∧
            (syncAccounts env req before).response = (syncAccounts env req before').response :=
  ⟨⟨namesOwnAccounts_of_isolatedFor hfresh, isolatedFor_of_namesOwnAccounts hfresh⟩,
    fun _ hview hunshared hunshared' =>
      ⟨syncAccounts_confined hunshared, syncAccounts_alike hview hunshared hunshared'⟩⟩

end Rooms

section Sample

/-- A tenant that supports every billing model, and its caller. -/
def sampleEnv : AccountsEnv where
  tenantId := "t"
  principalId := "p"
  supportedBilling := none
  billingPartyValues := ["operator", "agent"]
  accountSandbox := true
  accountApprovalMode := none
  now := 0
  mintAccountId := fun i => "acc_" ++ toString i
  refusedRegistration := fun _ _ => none
  proves := fun _ _ _ => true

/-- An account of a principal. -/
def sampleAccount
    (accountId domain principalId : String)
    (hdomain : domain ≠ "") : Account where
  tenantId := "t"
  accountId := accountId
  name := domain
  status := .active
  operator := some "agency.example"
  brand := some ⟨domain, none, hdomain, by simp⟩
  principalId := some principalId

/-- The caller's account. -/
def sampleOwnStore : AccountRows :=
  AccountRows.empty.insertGranted (sampleAccount "acc_a" "a.example" "p" (by decide)) "p" rfl
    (fun _ _ => rfl)

/-- The caller's account and another principal's. -/
def sampleStore : AccountRows :=
  sampleOwnStore.insertGranted (sampleAccount "acc_b" "b.example" "q" (by decide)) "q"
    (by decide) (by
      intro k hk
      cases hk
      decide)

/-- A settings update that sets the subscribers of an account. -/
def subscriberRequest
    (accountId : String) : SyncAccountsRequest where
  accounts :=
    [{ account := some (.byId accountId)
       notificationConfigs := some
         [{ subscriberId := "s1"
            url := "https://hooks.example/p"
            eventTypes := ["account.billing"] }] }]

/-- An update of the caller's own account is isolated. -/
theorem own_account_update_isolated :
    IsolatedFor sampleEnv (subscriberRequest "acc_a") sampleStore := by
  have hfresh : Fresh sampleEnv (subscriberRequest "acc_a") sampleStore := by
    refine ⟨?_, ?_, ?_⟩
    · intro i hi j hj _
      change i < 1 at hi
      change j < 1 at hj
      omega
    · intro e he id hid i hi
      change i < 1 at hi
      obtain rfl : i = 0 := by omega
      rw [List.mem_singleton.mp he] at hid
      cases hid
      decide
    · intro i hi
      change i < 1 at hi
      obtain rfl : i = 0 := by omega
      decide
  refine (account_isolation_iff hfresh).1.mpr (.inr ⟨?_, .inr ?_⟩)
  · intro pre entry post id hsplit _ _ hid
    have hentry : entry ∈ (subscriberRequest "acc_a").accounts := by
      rw [hsplit]
      exact List.mem_append_right _ List.mem_cons_self
    rw [List.mem_singleton.mp hentry] at hid
    cases hid
    exact ⟨sampleAccount "acc_a" "a.example" "p" (by decide),
      List.mem_cons_of_mem _ List.mem_cons_self, rfl, by decide⟩
  · intro e he
    rw [List.mem_singleton.mp he]
    trivial

/-- An update of another principal's account, by its id, goes through. -/
theorem foreign_account_is_updated :
    ¬ IsolatedFor sampleEnv (subscriberRequest "acc_b") sampleStore := by
  intro h
  have hchanged : (syncAccounts sampleEnv (subscriberRequest "acc_b") sampleStore).rows.accounts.find
      ("t", "acc_b") ≠ sampleStore.accounts.find ("t", "acc_b") := by
    decide +kernel
  rcases h.confined ("t", "acc_b") hchanged with ⟨a, hfind, hown⟩ | ⟨hnone, -⟩
  · have hb : sampleStore.accounts.find ("t", "acc_b") =
        some (sampleAccount "acc_b" "b.example" "q" (by decide)) := by
      decide +kernel
    rw [hb] at hfind
    cases hfind
    exact absurd hown (by decide +kernel)
  · exact absurd hnone (by decide +kernel)

end Sample

end Accounts
end SalesAgent
