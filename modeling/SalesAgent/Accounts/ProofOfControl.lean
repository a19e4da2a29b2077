import SalesAgent.Accounts.Upsert

/-!
# Proof of control

A notification config is stored active after its endpoint has answered a challenge that
named the account, the subscriber, the events and the delivery authentication.  The
challenges of a request go out before its transaction opens, in the name of the account
each entry resolves to by then, or of the id it would be created with.  A config is not
challenged again where its reduced tuple is that of a config the account has active.

Two things can come between the challenge and the row.  The reduced tuple drops the
authentication, because it reads a scheme off a block that has schemes, and the slashes
at the end of the URL; so a config can take the proof of another one.  And the entry can
end up at another account than the one that was named, where an earlier entry of the
batch, or another request, has created it in between.

**Results.**
* `Step.proven`: an answer that does neither keeps every active config challenged.
* `active_configs_proven`: the same over whole runs.
* `active_config_unproven`: a run in which a config with another authentication takes the
  proof.
-/

namespace SalesAgent
namespace Accounts

open Runs (Run Restrict)

variable {tenantId : String} {sys sys' : System} {i : Nat} {s : Session}
variable {rows after : AccountRows} {entry : SyncEntry}

section Challenges

/-- One of the challenges was sent for the config, in the name of the account. -/
def Challenged
    (proven : List Challenge)
    (accountId : String)
    (config : NotificationConfig) : Prop :=
  ∃ challenge ∈ proven, challenge.accountId = accountId ∧
    challenge.subscriberId = config.subscriberId ∧ challenge.url = config.url ∧
    challenge.eventTypes.Perm config.eventTypes ∧
    challenge.authentication = config.authentication

/-- The active configs of an account were challenged in its name. -/
def ConfigsProven
    (proven : List Challenge)
    (a : Account) : Prop :=
  ∀ config ∈ a.notificationConfigs.getD [], config.active = true →
    Challenged proven a.accountId config

theorem Challenged.mono
    {proven proven' : List Challenge} {accountId : String} {config : NotificationConfig}
    (h : Challenged proven accountId config)
    (hsub : ∀ challenge ∈ proven, challenge ∈ proven') :
    Challenged proven' accountId config := by
  obtain ⟨challenge, hmem, hfits⟩ := h
  exact ⟨challenge, hsub challenge hmem, hfits⟩

theorem of_proofTuple_eq
    {config config' : NotificationConfig}
    (h : proofTuple config = proofTuple config') :
    config.subscriberId = config'.subscriberId ∧
      config.eventTypes.Perm config'.eventTypes := by
  simp only [proofTuple, Prod.mk.injEq] at h
  obtain ⟨hsubscriber, -, -, hevents⟩ := h
  refine ⟨hsubscriber, (List.mergeSort_perm _ (· ≤ ·)).symm.trans ?_⟩
  rw [hevents]
  exact List.mergeSort_perm _ _

theorem exists_activating
    {configs : List NotificationConfig} {config : NotificationConfig}
    (hconfigs : entry.notificationConfigs = some configs)
    (hmem : config ∈ configs)
    (hactive : config.active = true) :
    ∃ index, (config, index) ∈ entry.activating := by
  obtain ⟨index, hlt, rfl⟩ := List.mem_iff_getElem.mp hmem
  refine ⟨index, List.mem_filter.mpr ⟨?_, hactive⟩⟩
  rw [hconfigs, Option.getD_some, List.mk_mem_zipIdx_iff_getElem?]
  exact List.getElem?_eq_getElem hlt

theorem challenged_of_proofErrors
    (hentry : s.entry = some entry)
    (herrors : s.proofErrors entry = none)
    {config : NotificationConfig} {index : Nat}
    (hactivating : (config, index) ∈ entry.activating) :
    challengeOf (challengedAccountId s.env s.before s.results.length entry) config ∈
        provenChallenges s.env s.req s.before ∨
      proofTuple config ∈ (activeConfigs s.env s.before entry).map proofTuple := by
  by_cases htuple : proofTuple config ∈ (activeConfigs s.env s.before entry).map proofTuple
  · exact .inr htuple
  · refine .inl ?_
    unfold Session.proofErrors resolveActivationProofs at herrors
    cases hdry : s.req.dryRun with
    | true =>
        -- a preview has proof errors wherever it activates anything
        rw [hdry, if_pos rfl, Option.map_eq_none_iff, List.getLast?_eq_none_iff] at herrors
        rw [herrors] at hactivating
        cases hactivating
    | false =>
        rw [hdry] at herrors
        simp only [Bool.false_eq_true, if_false, ite_eq_left_iff, reduceCtorEq, imp_false,
          not_not, List.filter_eq_nil_iff] at herrors
        have hanswered := herrors (config, index) hactivating
        simp only [Bool.and_eq_true, decide_eq_true_eq, Bool.not_eq_true', not_and,
          Bool.not_eq_false] at hanswered
        rw [provenChallenges, hdry, if_neg Bool.false_ne_true]
        refine List.mem_flatMap.mpr ⟨(entry, s.results.length),
          List.mk_mem_zipIdx_iff_getElem?.mpr hentry, ?_⟩
        refine List.mem_map.mpr ⟨(config, index), List.mem_filter.mpr ⟨hactivating, ?_⟩, rfl⟩
        rw [Bool.and_eq_true, decide_eq_true_eq]
        exact ⟨htuple, hanswered htuple⟩

end Challenges

section Conditions

/-- The account an entry writes to or creates. -/
def Session.target
    (s : Session)
    (rows : AccountRows)
    (entry : SyncEntry) : Option String :=
  match s.provisioning with
  | some p =>
      match s.stage with
      | .found _ _ existing => some existing.accountId
      | _ => some (s.env.mintAccountId p.index)
  | none =>
      (entry.account.bind (resolveSettingsUpdateTarget s.env rows)).map (·.accountId)

/-- The gates of an entry. -/
def Session.gates
    (s : Session)
    (entry : SyncEntry) : List (Option (List GateFailure)) :=
  match entry.account with
  | some _ => settingsUpdateGates s.env entry (s.proofErrors entry)
  | none => provisioningGates s.env entry (s.proofErrors entry)

/-- An entry behind its gates writes to the account its endpoints were challenged for, and
a config it activates takes the proof of a config with the same URL and the same
authentication only. -/
def Session.ProofFits
    (s : Session)
    (rows : AccountRows) : Prop :=
  ∀ entry, s.entry = some entry → firstGateFailure (s.gates entry) = none →
    ∀ accountId, s.target rows entry = some accountId →
      ∀ config index, (config, index) ∈ entry.activating →
        accountId = challengedAccountId s.env s.before s.results.length entry ∧
          (proofTuple config ∈ (activeConfigs s.env s.before entry).map proofTuple →
            ∃ proven ∈ activeConfigs s.env s.before entry, proofTuple proven = proofTuple config ∧
              proven.url = config.url ∧ proven.authentication = config.authentication)

/-- The condition on the statements of a run: one that answers an entry fits its proof. -/
def ProofFits
    (_ : System)
    (e : Event) : Prop :=
  match e with
  | .answered _ s rows _ _ => s.ProofFits rows
  | _ => True

/-- The invariant: every active config was challenged, also those a request saw before its
transaction, and its own answered challenges are on record. -/
structure Proven
    (tenantId : String)
    (sys : System) : Prop where
  sound : Sound tenantId sys
  versions : ∀ a, sys.Version a → ConfigsProven sys.proven a
  before : ∀ i s, sys.sessions i = some s → ∀ a ∈ s.before.accounts, a.tenantId = tenantId →
    ConfigsProven sys.proven a
  challenges : ∀ i s, sys.sessions i = some s →
    ∀ challenge ∈ provenChallenges s.env s.req s.before, challenge ∈ sys.proven

theorem mem_of_lookupExistingForEntry
    {env : AccountsEnv} {a : Account}
    (h : lookupExistingForEntry env rows entry = some a) :
    a ∈ rows.accounts ∧ a.tenantId = env.tenantId := by
  unfold lookupExistingForEntry at h
  cases haccount : entry.account with
  | some ref =>
      rw [haccount] at h
      cases ref with
      | byId accountId =>
          obtain ⟨⟨hmem, htenant, -⟩, -⟩ := AccountRows.getById_eq_some_iff.mp h
          exact ⟨hmem, htenant⟩
      | byNaturalKey brand operator sandbox =>
          obtain ⟨hmem, -, htenant⟩ := mem_getByNaturalKey_tenant h
          exact ⟨hmem, htenant⟩
  | none =>
      rw [haccount] at h
      simp only at h
      split at h
      · obtain ⟨hmem, -, htenant⟩ := mem_getByNaturalKey_tenant h
        exact ⟨hmem, htenant⟩
      · cases h

theorem proofErrors_of_gates
    (h : firstGateFailure (s.gates entry) = none) :
    s.proofErrors entry = none := by
  have hgate : notificationConfigsGate s.env entry (s.proofErrors entry) = none := by
    unfold Session.gates at h
    cases haccount : entry.account with
    | some ref =>
        rw [haccount] at h
        simp only [firstGateFailure, settingsUpdateGates, Option.map_eq_none_iff,
          List.findSome?_eq_none_iff, id_eq] at h
        exact h _ (by simp)
    | none =>
        rw [haccount] at h
        simp only [firstGateFailure, provisioningGates, Option.map_eq_none_iff,
          List.findSome?_eq_none_iff, id_eq] at h
        exact h _ (by simp)
  unfold notificationConfigsGate at hgate
  split at hgate
  · cases hgate
  · exact hgate

/-- The configs an entry declares active are proven for the account it writes to. -/
theorem Proven.of_entry
    (h : Proven tenantId sys)
    (hsession : sys.sessions i = some s)
    (hfits : s.ProofFits rows)
    (hentry : s.entry = some entry)
    (hgates : firstGateFailure (s.gates entry) = none)
    {accountId : String}
    (htarget : s.target rows entry = some accountId)
    {configs : List NotificationConfig}
    (hconfigs : entry.notificationConfigs = some configs)
    {config : NotificationConfig}
    (hmem : config ∈ configs)
    (hactive : config.active = true) :
    Challenged sys.proven accountId config := by
  obtain ⟨index, hactivating⟩ := exists_activating hconfigs hmem hactive
  obtain ⟨haccount, htuple⟩ := hfits entry hentry hgates accountId htarget config index hactivating
  rcases challenged_of_proofErrors hentry (proofErrors_of_gates hgates) hactivating with
    hsent | hreused
  · exact ⟨_, h.challenges i s hsession _ hsent, haccount.symm, rfl, rfl, List.Perm.refl _, rfl⟩
  · obtain ⟨proven, hproven, hsame, hurl, hauth⟩ := htuple hreused
    obtain ⟨hsubscriber, hevents⟩ := of_proofTuple_eq hsame
    -- the config whose proof is taken is one of the account that was looked up
    obtain ⟨hmem', hactive'⟩ := List.mem_filter.mp hproven
    cases hlookup : lookupExistingForEntry s.env s.before entry with
    | none =>
        rw [hlookup] at hmem'
        cases hmem'
    | some existing =>
        rw [hlookup, Option.bind_some] at hmem'
        rw [challengedAccountId, hlookup, Option.map_some, Option.getD_some] at haccount
        obtain ⟨hrow, htenant⟩ := mem_of_lookupExistingForEntry hlookup
        obtain ⟨challenge, hchallenge, hid, hsub', hurl', hevents', hauth'⟩ :=
          h.before i s hsession existing hrow (htenant.trans (h.sound.tenant i s hsession))
            proven hmem' hactive'
        exact ⟨challenge, hchallenge, hid.trans haccount.symm, hsub'.trans hsubscriber,
          hurl'.trans hurl, hevents'.trans hevents, hauth'.trans hauth⟩

end Conditions

section Runs

/-- The rows of a tenant keep their configs, or are the ones that were written. -/
def ConfigsFrom
    (rows : AccountRows)
    (written : Account → Prop)
    (after : AccountRows) : Prop :=
  ∀ a' ∈ after.accounts,
    (∃ a ∈ rows.accounts, a.tenantId = a'.tenantId ∧ a.accountId = a'.accountId ∧
      a.notificationConfigs = a'.notificationConfigs) ∨ written a'

theorem changesOf_notificationConfigs
    {existing : Account} {mode : EntryMode} {configs : List NotificationConfig}
    (h : (changesOf entry existing mode).notificationConfigs = some configs) :
    entry.notificationConfigs = some configs := by
  obtain ⟨hresolved, -⟩ := Option.filter_eq_some_iff.mp h
  simp only [resolveEntryChanges, whenApplied] at hresolved
  split at hresolved
  · exact hresolved
  · cases hresolved

/-- A write changes the configs of the account it is for, to those of the entry. -/
theorem configsFrom_write
    {accountId : String} {existing : Account} {mode : EntryMode} :
    ConfigsFrom rows
      (fun a => a.accountId = accountId ∧ a.notificationConfigs = entry.notificationConfigs)
      (rows.write tenantId accountId (changesOf entry existing mode)) := by
  intro a' ha'
  unfold AccountRows.write at ha'
  split at ha'
  · exact .inl ⟨a', ha', rfl, rfl, rfl⟩
  · obtain ⟨a, ha, rfl⟩ := AccountRows.mem_modify.mp ha'
    split
    · next hkey =>
        cases hconfigs : (changesOf entry existing mode).notificationConfigs with
        | none =>
            refine .inl ⟨a, ha, rfl, rfl, ?_⟩
            simp only [Account.applyFields, hconfigs]
            rfl
        | some configs =>
            refine .inr ⟨?_, ?_⟩
            · simp only [Account.primaryKey, Option.some.injEq, Prod.mk.injEq] at hkey
              exact hkey.2
            · rw [changesOf_notificationConfigs hconfigs]
              simp only [Account.applyFields, hconfigs]
              rfl
    · exact .inl ⟨a, ha, rfl, rfl, rfl⟩

/-- The configs of the rows an answer leaves. -/
theorem Session.Acted.configsFrom
    {result : SyncResponseAccount}
    (h : s.Acted rows after result) :
    ConfigsFrom rows
      (fun a => ∃ entry, s.entry = some entry ∧ firstGateFailure (s.gates entry) = none ∧
        s.target rows entry = some a.accountId ∧
        a.notificationConfigs = entry.notificationConfigs)
      after := by
  cases h with
  | failed => exact fun a ha => .inl ⟨a, ha, rfl, rfl, rfl⟩
  | settings hprovisioning hentry haccount hfound hgates hresult =>
      rename_i entry ref existing
      intro a' ha'
      refine (configsFrom_write a' ha').imp_right ?_
      rintro ⟨hid, hconfigs⟩
      refine ⟨entry, hentry, ?_, ?_, hconfigs⟩
      · rw [Session.gates, haccount]
        exact hgates
      · rw [Session.target, hprovisioning]
        simp only [haccount, Option.bind_some, hfound, Option.map_some, hid]
  | applied hprovisioning hstage hresult haction =>
      rename_i p looked decided existing
      have hp := Session.provisions hprovisioning
      intro a' ha'
      refine (configsFrom_write a' ha').imp_right ?_
      rintro ⟨hid, hconfigs⟩
      refine ⟨p.entry, hp.entry, ?_, ?_, hconfigs⟩
      · rw [Session.gates, hp.account]
        exact hp.gates
      · rw [Session.target, hprovisioning]
        simp only [hstage, hid]
  | created hprovisioning hstage hprimary hindex hresult haction =>
      rename_i p looked
      have hp := Session.provisions hprovisioning
      intro a' ha'
      rcases List.mem_cons.mp ha' with rfl | hold
      · refine .inr ⟨p.entry, hp.entry, ?_, ?_, rfl⟩
        · rw [Session.gates, hp.account]
          exact hp.gates
        · rw [Session.target, hprovisioning]
          simp only [hstage]
          rfl
      · exact .inl ⟨a', hold, rfl, rfl, rfl⟩

/-- Closing accounts leaves the configs. -/
theorem configsFrom_deleteMissing
    {env : AccountsEnv} {t t' : SyncState}
    (h : deleteMissing env t = .ok t') :
    ConfigsFrom t.rows (fun _ => False) t'.rows := by
  refine deleteMissing_relates (R := fun rows after => ConfigsFrom rows (fun _ => False) after)
    ?_ ?_ ?_ h
  · exact fun rows a ha => .inl ⟨a, ha, rfl, rfl, rfl⟩
  · intro rows rows' rows'' h₁ h₂ a'' ha''
    rcases h₂ a'' ha'' with ⟨a', ha', htenant, hid, hconfigs⟩ | hno
    · rcases h₁ a' ha' with ⟨a, ha, htenant', hid', hconfigs'⟩ | hno
      · exact .inl ⟨a, ha, htenant'.trans htenant, hid'.trans hid, hconfigs'.trans hconfigs⟩
      · exact .inr hno
    · exact .inr hno
  · intro rows accountId a' ha'
    obtain ⟨a, ha, rfl⟩ := AccountRows.mem_modify.mp ha'
    refine .inl ⟨a, ha, ?_⟩
    split
    · exact ⟨rfl, rfl, rfl⟩
    · exact ⟨rfl, rfl, rfl⟩

theorem ConfigsProven.of_same
    {proven : List Challenge} {a a' : Account}
    (h : ConfigsProven proven a)
    (hid : a.accountId = a'.accountId)
    (hconfigs : a.notificationConfigs = a'.notificationConfigs) :
    ConfigsProven proven a' := by
  intro config hmem hactive
  rw [← hconfigs] at hmem
  rw [← hid]
  exact h config hmem hactive

/-- What a request writes is proven, where the configs it changes are. -/
theorem Proven.wrote
    (h : Proven tenantId sys)
    (hsession : sys.sessions i = some s)
    (hshows : sys.Shows tenantId i s.own rows)
    {written : Account → Prop}
    (hfrom : ConfigsFrom rows written after)
    (hwritten : ∀ a, written a → ConfigsProven sys.proven a)
    {a : Account}
    (ha : a ∈ s.wrote rows after) :
    ConfigsProven sys.proven a := by
  obtain ⟨hmem, htenant⟩ := Session.mem_wrote ha
  rcases hfrom a hmem with ⟨b, hb, hbtenant, hid, hconfigs⟩ | hnew
  · have hof : b.tenantId = tenantId :=
      hbtenant.trans (htenant.trans (h.sound.tenant i s hsession))
    have hversion := hshows.version (fun a ha => .inr ⟨i, s, hsession, ha⟩) hb hof
    exact (h.versions b hversion).of_same hid hconfigs
  · exact hwritten a hnew

/-- A request goes on, with its challenges and the rows before them as they were. -/
theorem Proven.put
    (h : Proven tenantId sys)
    (hsession : sys.sessions i = some s)
    {t : Session}
    (hsound : Sound tenantId (sys.put i t))
    (hown : ∀ a ∈ t.own, ConfigsProven sys.proven a)
    (henv : t.env = s.env)
    (hreq : t.req = s.req)
    (hbefore : t.before = s.before) :
    Proven tenantId (sys.put i t) := by
  refine ⟨hsound, ?_, ?_, ?_⟩
  · intro a ha
    exact (System.version_put ha).elim (h.versions a) (hown a)
  · intro j u hu
    simp only [System.put] at hu
    split at hu
    · cases hu
      rw [hbefore]
      exact h.before i s hsession
    · exact h.before j u hu
  · intro j u hu
    simp only [System.put] at hu
    split at hu
    · cases hu
      rw [henv, hreq, hbefore]
      exact h.challenges i s hsession
    · exact h.challenges j u hu

/-- A request ends. -/
theorem Proven.drop
    (h : Proven tenantId sys)
    {committed : List Account}
    (hsound : Sound tenantId ({ sys with committed := committed }.drop i))
    (hversions : ∀ a ∈ committed, sys.Version a) :
    Proven tenantId ({ sys with committed := committed }.drop i) := by
  have hsession : ∀ j u, ({ sys with committed := committed }.drop i).sessions j = some u →
      sys.sessions j = some u := by
    intro j u hu
    simp only [System.drop] at hu
    split at hu
    · cases hu
    · exact hu
  refine ⟨hsound, ?_, fun j u hu => h.before j u (hsession j u hu),
    fun j u hu => h.challenges j u (hsession j u hu)⟩
  rintro a (hcommitted | ⟨j, u, hu, hmem⟩)
  · exact h.versions a (hversions a hcommitted)
  · exact h.versions a (.inr ⟨j, u, hsession j u hu, hmem⟩)

/-- A statement that fits its proof keeps every active config challenged. -/
theorem Step.proven
    {e : Event}
    (hstep : Restrict (Step tenantId) ProofFits sys e sys')
    (h : Proven tenantId sys) :
    Proven tenantId sys' := by
  obtain ⟨hstep, hfits⟩ := hstep
  have hsound := hstep.sound h.sound
  cases hstep with
  | opened hfree htenant haccepted hshows =>
      rename_i j env req before
      have hmono : ∀ challenge ∈ sys.proven,
          challenge ∈ provenChallenges env req before ++ sys.proven :=
        fun _ hmem => List.mem_append_right _ hmem
      have hgrown : ∀ a, ConfigsProven sys.proven a →
          ConfigsProven (provenChallenges env req before ++ sys.proven) a :=
        fun a ha config hmem hactive => (ha config hmem hactive).mono hmono
      refine ⟨hsound, ?_, ?_, ?_⟩
      · intro a ha
        rcases System.version_put ha with hold | hnone
        · exact hgrown a (h.versions a hold)
        · cases hnone
      · intro i u hu a ha hof
        simp only [System.put] at hu
        split at hu
        · cases hu
          exact hgrown a (h.versions a
            (hshows.version (fun a ha => absurd ha List.not_mem_nil) ha hof))
        · exact hgrown a (h.before i u hu a ha hof)
      · intro i u hu challenge hmem
        simp only [System.put] at hu
        split at hu
        · cases hu
          exact List.mem_append_left _ hmem
        · exact hmono _ (h.challenges i u hu challenge hmem)
  | read hsession hprovisioning hshows hadvance =>
      rename_i j s p rows stage
      exact h.put hsession hsound (fun a ha => h.versions a (.inr ⟨j, s, hsession, ha⟩))
        rfl rfl rfl
  | answered hsession hshows hact hunlocked =>
      rename_i j s rows after result
      refine h.put hsession hsound ?_ rfl rfl rfl
      intro a ha
      refine h.wrote hsession hshows (Session.acted hact).configsFrom ?_ ha
      rintro b ⟨entry, hentry, hgates, htarget, hconfigs⟩ config hmem hactive
      rw [hconfigs] at hmem
      cases hsome : entry.notificationConfigs with
      | none =>
          rw [hsome] at hmem
          cases hmem
      | some configs =>
          rw [hsome] at hmem
          exact h.of_entry hsession hfits hentry hgates htarget hsome hmem hactive
  | closed hsession hstage hanswered hmissing hshows hclosed hunlocked =>
      rename_i j s rows closed
      refine h.put hsession hsound ?_ rfl rfl rfl
      intro a ha
      exact h.wrote hsession hshows (configsFrom_deleteMissing hclosed)
        (fun _ hno => hno.elim) ha
  | committed hsession hanswered hstage hlive =>
      rename_i j s
      refine h.drop hsound ?_
      intro a ha
      rcases mem_overlay.mp ha with hmine | ⟨hold, -⟩
      · exact .inr ⟨j, s, hsession, hmine⟩
      · exact .inl hold
  | discarded hsession =>
      exact h.drop hsound (fun a ha => .inl ha)

/-- In a run whose answers fit their proofs, every active config of every account was
challenged in the name of that account, at that URL, for those events and with that
authentication. -/
theorem active_configs_proven
    {start : System} {es : List Event}
    (hstart : AtRest tenantId start)
    (hproven : ∀ a ∈ start.committed, ConfigsProven start.proven a)
    (hrun : Run (Restrict (Step tenantId) ProofFits) start es sys) :
    ∀ a, sys.Version a → ConfigsProven sys.proven a := by
  have hinit : Proven tenantId start := by
    refine ⟨hstart.sound, ?_, ?_, ?_⟩
    · rintro a (hcommitted | ⟨j, s, hsession, -⟩)
      · exact hproven a hcommitted
      · rw [hstart.sessions] at hsession
        cases hsession
    · intro j s hsession
      rw [hstart.sessions] at hsession
      cases hsession
    · intro j s hsession
      rw [hstart.sessions] at hsession
      cases hsession
  exact (hrun.preserves (fun _ _ _ hstep hs => Step.proven hstep hs) hinit).versions

/-- A config of one subscriber, for the events and with the credential. -/
def hookConfig
    (events : List String)
    (credentials : String) : NotificationConfig where
  subscriberId := "hook"
  url := "https://buyer.example/hook"
  eventTypes := events
  authentication := some ⟨["Bearer"], some credentials⟩
  active := true

/-- An account with an active config. -/
def hookAccount : Account :=
  { sparkAccount with notificationConfigs := some [hookConfig ["creative"] "old"] }

/-- The account with the config under another credential or for other events. -/
def hookEntry
    (config : NotificationConfig) : SyncEntry where
  brand := sparkAccount.brand
  operator := some "agency"
  notificationConfigs := some [config]

/-- The challenge that the endpoint of the account has answered. -/
def hookChallenge : Challenge :=
  challengeOf "spark" (hookConfig ["creative"] "old")

/-- The request of the entry, when its lookup has found the account. -/
def hookFound
    (config : NotificationConfig) : Session where
  env := upsertEnv
  req := { accounts := [hookEntry config] }
  before := singleRows hookAccount
  stage := .found (singleRows hookAccount) (singleRows hookAccount) hookAccount

/-- What a request does whose entry has another config. -/
theorem run_hook
    (cond : System → Event → Prop)
    (config : NotificationConfig)
    (hprovisioning : (hookFound config).provisioning =
      some ⟨0, hookEntry config, ⟨"nova.com", some "spark", by decide, by decide⟩, "agency"⟩)
    (hwrote : ((hookFound config).act (singleRows hookAccount)).map
      (fun o => (hookFound config).wrote (singleRows hookAccount) o.1) =
        some [{ hookAccount with notificationConfigs := some [config] }])
    (hcond : ∀ sys e, (match e with
      | .answered _ s rows _ _ => s = hookFound config ∧ rows = singleRows hookAccount
      | _ => True) → cond sys e) :
    ∃ sys es, { hookAccount with notificationConfigs := some [config] } ∈ sys.committed ∧
      sys.proven = provenChallenges upsertEnv { accounts := [hookEntry config] }
        (singleRows hookAccount) ++ [hookChallenge] ∧
      Run (Restrict (Step "t") cond) (singleSystem hookAccount [hookChallenge]) es sys := by
  cases hact : (hookFound config).act (singleRows hookAccount) with
  | none =>
      rw [hact] at hwrote
      cases hwrote
  | some outcome =>
      obtain ⟨after, result⟩ := outcome
      rw [hact, Option.map_some, Option.some.injEq] at hwrote
      obtain ⟨sys, hcommitted, hproven, hrun⟩ := run_found cond [hookChallenge]
        { env := upsertEnv, req := { accounts := [hookEntry config] },
          before := singleRows hookAccount }
        rfl rfl hprovisioning rfl (hookFound config) rfl hact (by
          intro sys e he
          simp only [List.mem_cons, List.not_mem_nil, or_false] at he
          rcases he with rfl | rfl | rfl | rfl <;> exact hcond _ _ (by simp))
      refine ⟨sys, _, ?_, hproven, hrun⟩
      rw [hcommitted, hwrote]
      exact mem_overlay.mpr (.inl (List.mem_singleton_self _))

theorem hookAccount_proven :
    ∀ a ∈ (singleSystem hookAccount [hookChallenge]).committed,
      ConfigsProven (singleSystem hookAccount [hookChallenge]).proven a := by
  intro a ha
  rw [List.mem_singleton.mp ha]
  intro config hmem _
  rw [List.mem_singleton.mp hmem]
  exact ⟨hookChallenge, List.mem_singleton_self _, rfl, rfl, rfl, List.Perm.refl _, rfl⟩

/-- Such a run, in which the config is for other events and is challenged for them. -/
theorem active_configs_proven_of_hook :
    ∃ sys : System, { hookAccount with
        notificationConfigs := some [hookConfig ["product"] "old"] } ∈ sys.committed ∧
      ∀ a, sys.Version a → ConfigsProven sys.proven a := by
  obtain ⟨sys, es, hcommitted, -, hrun⟩ := run_hook ProofFits
    (hookConfig ["product"] "old") (by decide +kernel) (by decide +kernel) (by
      rintro sys (⟨i, env, req⟩ | i | ⟨i, s, rows, after, result⟩ | i | ⟨i, ended⟩) he
      · trivial
      · trivial
      · obtain ⟨rfl, rfl⟩ := he
        intro entry hentry _ accountId htarget config index hactivating
        cases hentry
        have hspark : (hookFound (hookConfig ["product"] "old")).target (singleRows hookAccount)
            (hookEntry (hookConfig ["product"] "old")) = some "spark" := by
          decide +kernel
        obtain rfl : accountId = "spark" := Option.some.inj (htarget.symm.trans hspark)
        refine ⟨by decide +kernel, ?_⟩
        have hsame : config = hookConfig ["product"] "old" :=
          congrArg Prod.fst (List.mem_singleton.mp hactivating)
        rw [hsame]
        intro htuple
        exact absurd htuple (by decide +kernel)
      · trivial
      · trivial)
  exact ⟨sys, hcommitted, active_configs_proven (atRest_singleSystem rfl) hookAccount_proven hrun⟩

/-- A config with another credential is stored active without a challenge. -/
theorem active_config_unproven :
    ¬ ∀ (start sys : System) (es : List Event), AtRest "t" start →
      (∀ a ∈ start.committed, ConfigsProven start.proven a) →
      Run (Step "t") start es sys →
      ∀ a ∈ sys.committed, ConfigsProven sys.proven a := by
  intro h
  obtain ⟨sys, es, hcommitted, hproven, hrun⟩ := run_hook (fun _ _ => True)
    (hookConfig ["creative"] "new") (by decide +kernel) (by decide +kernel) (fun _ _ _ => trivial)
  have hnone : provenChallenges upsertEnv { accounts := [hookEntry (hookConfig ["creative"] "new")] }
      (singleRows hookAccount) = [] := by
    decide +kernel
  obtain ⟨challenge, hmem, -, -, -, -, hauth⟩ :=
    h _ sys es (atRest_singleSystem rfl) hookAccount_proven hrun.of_restrict _ hcommitted
      (hookConfig ["creative"] "new") (List.mem_singleton_self _) rfl
  rw [hproven, hnone, List.nil_append] at hmem
  rw [List.mem_singleton.mp hmem] at hauth
  exact absurd hauth (by decide)

end Runs

end Accounts
end SalesAgent
