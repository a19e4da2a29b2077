import SalesAgent.CreativeSync.Sync

/-!
# Whether creating and updating a creative validate alike

The functions that create and update a creative consult the agent of its format in two
bodies of nested branches.  They should accept the same payloads and store the same data
of the agent.

They differ in three places.  What is missing without previews is tested by the creation
behind the branch of the agents, and by the update behind the branch of the formats that
have none.  A generative creative without a message is built by the creation for want of
one, and left as it is by the update.

**Results.**
* `acceptedData_update`, `acceptedData_create`: what each consultation accepts.
* `validateAlike_iff`: the payloads and answers on which the two agree.
-/

namespace SalesAgent
namespace CreativeSync

open Idempotency (Json)
open MediaBuys (Decimal)

/-- What is stored of the agent's answers: URL, dimensions, preview and generative build. -/
structure AgentDerived where
  url : Option String
  width : Option Decimal
  height : Option Decimal
  duration : Option Decimal
  previewResponse : Option Json
  generativeBuildResult : Option Json
  generativeStatus : Option String
  generativeContextId : Option String
  outputFormat : Option Json

/-- The part of stored data that may come from the agent. -/
def CreativeData.agentDerived
    (data : CreativeData) : AgentDerived where
  url := data.url
  width := data.width
  height := data.height
  duration := data.duration
  previewResponse := data.previewResponse
  generativeBuildResult := data.generativeBuildResult
  generativeStatus := data.generativeStatus
  generativeContextId := data.generativeContextId
  outputFormat := data.outputFormat

section Consulting

variable (env : SyncEnv) (dryRun : Bool) (index : Nat) (creative : CreativeAsset)
variable (ref : FormatRef) (stored : CreativeData)

/-- The data of a consultation that is accepted. -/
def acceptedData : Except AgentFailure (Option (CreativeData × List String)) → Option CreativeData
  | .ok (some (data, _)) => some data
  | .ok none => none
  | .error _ => none

/-- A creative that needs no preview, with its data. -/
def withMediaUrl
    (data : CreativeData) : Option CreativeData :=
  if hasMediaUrl creative data then some data else none

/-- The data after a build; none where its assets do not fit. -/
def builtData
    (build : BuildResult) : Option CreativeData :=
  match applyBuild creative (buildCreativeData creative) build with
  | .ok (data, _) => some data
  | .error _ => none

/-- What an update accepts. -/
theorem acceptedData_update :
    acceptedData (consultForUpdate env dryRun index creative ref stored) =
      match findFormat env ref with
      | .error _ => none
      | .ok none => withMediaUrl creative (buildCreativeData creative)
      | .ok (some format) =>
          if ! format.isAgentBacked then withMediaUrl creative (buildCreativeData creative)
          else if format.isGenerative then
            if ! env.geminiApiKey then none
            else if ! truthy (extractMessageFromAssets creative) then
              some (keepGenerative stored (buildCreativeData creative))
            else match outbound dryRun (env.agents.buildCreative index) with
              | .error _ => none
              | .ok none => some (buildCreativeData creative)
              | .ok (some build) => builtData creative build
          else if ! assetKeysNamed creative.assets then none
          else match outbound dryRun (env.agents.previewCreative index) with
            | .error _ => none
            | .ok none => some (buildCreativeData creative)
            | .ok (some preview) =>
                some (if preview.previews.isEmpty then buildCreativeData creative
                  else (applyPreview (buildCreativeData creative) preview).1) := by
  unfold consultForUpdate withMediaUrl builtData
  cases findFormat env ref with
  | error err => rfl
  | ok found =>
      cases found with
      | none =>
          simp only [bind, Except.bind, pure, Except.pure]
          split <;> rfl
      | some format =>
          simp only [bind, Except.bind, pure, Except.pure]
          repeat' split
          all_goals simp_all [acceptedData, throw, throwThe, MonadExceptOf.throw]

/-- A creation without previews: a dry run, or a creative with a URL. -/
def withoutPreviews
    (data : CreativeData) : Option CreativeData :=
  if dryRun || hasMediaUrl creative data then some data else none

/-- What a creation accepts. -/
theorem acceptedData_create :
    acceptedData (consultForCreate env dryRun index creative ref) =
      match findFormat env ref with
      | .error _ => none
      | .ok none => some (buildCreativeData creative)
      | .ok (some format) =>
          if ! format.isAgentBacked then some (buildCreativeData creative)
          else if format.isGenerative then
            if ! env.geminiApiKey then none
            else match outbound dryRun (env.agents.buildCreative index) with
              | .error _ => none
              | .ok none => withoutPreviews dryRun creative (buildCreativeData creative)
              | .ok (some build) =>
                  (builtData creative build).bind (withoutPreviews dryRun creative)
          else if ! assetKeysNamed creative.assets then none
          else match outbound dryRun (env.agents.previewCreative index) with
            | .error _ => none
            | .ok none => withoutPreviews dryRun creative (buildCreativeData creative)
            | .ok (some preview) =>
                if preview.previews.isEmpty then
                  withoutPreviews dryRun creative (buildCreativeData creative)
                else some (applyPreview (buildCreativeData creative) preview).1 := by
  unfold consultForCreate withoutPreviews builtData
  cases findFormat env ref with
  | error err => rfl
  | ok found =>
      cases found with
      | none => rfl
      | some format =>
          simp only [bind, Except.bind, pure, Except.pure]
          by_cases hbacked : format.isAgentBacked = true
          · by_cases hgenerative : format.isGenerative = true
            · by_cases hgemini : env.geminiApiKey = true
              · simp only [hbacked, hgenerative, hgemini, Bool.not_true, Bool.false_eq_true,
                  if_true, if_false]
                cases outbound dryRun (env.agents.buildCreative index) with
                | error err => rfl
                | ok answer =>
                    cases answer with
                    | none =>
                        simp only
                        split <;> rfl
                    | some build =>
                        simp only
                        cases applyBuild creative (buildCreativeData creative) build with
                        | error err => rfl
                        | ok built =>
                            simp only [Option.bind_some]
                            split <;> rfl
              · simp [hbacked, hgenerative, hgemini, acceptedData, throw, throwThe,
                  MonadExceptOf.throw]
            · by_cases hnamed : assetKeysNamed creative.assets = true
              · simp only [hbacked, hgenerative, hnamed, Bool.not_true, Bool.false_eq_true,
                  if_true, if_false]
                cases outbound dryRun (env.agents.previewCreative index) with
                | error err => rfl
                | ok answer =>
                    cases answer with
                    | none =>
                        simp only
                        split <;> rfl
                    | some preview =>
                        by_cases hempty : preview.previews.isEmpty = true
                        · simp only [hempty, if_true]
                          split <;> rfl
                        · simp only [hempty, Bool.false_eq_true, if_false]
                          rfl
              · simp [hbacked, hgenerative, hnamed, acceptedData, throw, throwThe,
                  MonadExceptOf.throw]
          · simp [hbacked, acceptedData]

end Consulting

section Builds

variable (creative : CreativeAsset) (data : CreativeData) (build : BuildResult)

/-- The assets of a build take the place of absent ones and do not fit. -/
def spoils : Bool :=
  build.creativeOutput.any (fun output =>
    output.assets.any (! ·.isEmpty) && creative.assets.isEmpty && ! output.assetsFit)

/-- The build comes with a URL. -/
def suppliesUrl : Bool :=
  build.creativeOutput.any (fun output => output.outputFormat.isSome && truthy output.outputUrl)

/-- The row holds what the build would have it hold. -/
structure HoldsBuild
    (stored : CreativeData) : Prop where
  result : stored.generativeBuildResult = some build.document
  status : stored.generativeStatus = some (build.status.getD "draft")
  context : stored.generativeContextId = build.contextId
  format : stored.outputFormat = build.creativeOutput.bind (·.outputFormat)

variable {creative data build}

theorem builtData_eq_none_iff :
    builtData creative build = none ↔ spoils creative build = true := by
  unfold builtData applyBuild spoils
  cases build.creativeOutput with
  | none => simp
  | some output =>
      simp only [Option.any_some]
      by_cases htakes : (output.assets.any (! ·.isEmpty) && creative.assets.isEmpty) = true
      · by_cases hfit : output.assetsFit = true
        · simp [htakes, hfit]
        · simp [htakes, hfit]
      · simp [htakes]

theorem builtData_eq_some
    {built : CreativeData}
    (h : builtData creative build = some built) :
    built.agentDerived =
      { (buildCreativeData creative).agentDerived with
        url := if suppliesUrl build && ! truthy (buildCreativeData creative).url
          then build.creativeOutput.bind (·.outputUrl) else (buildCreativeData creative).url
        generativeBuildResult := some build.document
        generativeStatus := some (build.status.getD "draft")
        generativeContextId := build.contextId
        outputFormat := build.creativeOutput.bind (·.outputFormat) } := by
  unfold builtData applyBuild at h
  unfold suppliesUrl
  cases houtput : build.creativeOutput with
  | none =>
      simp only [houtput] at h
      cases h
      rfl
  | some output =>
      simp only [houtput] at h
      by_cases hspoils : (output.assets.any (! ·.isEmpty) && creative.assets.isEmpty &&
          ! output.assetsFit) = true
      · simp [hspoils] at h
      · simp only [hspoils, Bool.false_eq_true, if_false] at h
        cases h
        simp only [Option.any_some, Option.bind_some]
        by_cases htakes : (output.assets.any (! ·.isEmpty) && creative.assets.isEmpty) = true
        · cases hformat : output.outputFormat with
          | none => simp [htakes, CreativeData.agentDerived, buildCreativeData]
          | some format =>
              by_cases hurl : (truthy output.outputUrl &&
                  ! truthy (buildCreativeData creative).url) = true
              · simp [htakes, hurl, CreativeData.agentDerived]
              · simp [htakes, hurl, CreativeData.agentDerived]
        · cases hformat : output.outputFormat with
          | none => simp [htakes, CreativeData.agentDerived, buildCreativeData]
          | some format =>
              by_cases hurl : (truthy output.outputUrl &&
                  ! truthy (buildCreativeData creative).url) = true
              · simp [htakes, hurl, CreativeData.agentDerived]
              · simp [htakes, hurl, CreativeData.agentDerived]

theorem truthy_of_suppliesUrl
    (h : suppliesUrl build = true) :
    truthy (build.creativeOutput.bind (·.outputUrl)) = true := by
  unfold suppliesUrl at h
  cases houtput : build.creativeOutput with
  | none => simp [houtput] at h
  | some output =>
      rw [houtput, Option.any_some, Bool.and_eq_true] at h
      exact h.2

/-- A build that fits gives the creative a URL, or the creative has one. -/
theorem hasMediaUrl_built
    {built : CreativeData}
    (h : builtData creative build = some built) :
    hasMediaUrl creative built =
      (hasMediaUrl creative (buildCreativeData creative) || suppliesUrl build) := by
  have hurl : built.url = if suppliesUrl build && ! truthy (buildCreativeData creative).url
      then build.creativeOutput.bind (·.outputUrl) else (buildCreativeData creative).url :=
    congrArg AgentDerived.url (builtData_eq_some h)
  unfold hasMediaUrl
  rw [hurl]
  by_cases hsupplies : suppliesUrl build = true
  · have houtput := truthy_of_suppliesUrl hsupplies
    by_cases hown : truthy (buildCreativeData creative).url = true
    · simp [hsupplies, hown]
    · simp [hsupplies, hown, houtput]
  · simp [hsupplies]

theorem agentDerived_keepGenerative_eq
    {built stored : CreativeData}
    (h : builtData creative build = some built) :
    built.agentDerived = (keepGenerative stored (buildCreativeData creative)).agentDerived ↔
      HoldsBuild build stored ∧
        (suppliesUrl build = true → truthy (buildCreativeData creative).url = true) := by
  rw [builtData_eq_some h]
  simp only [CreativeData.agentDerived, keepGenerative, AgentDerived.mk.injEq, true_and]
  constructor
  · rintro ⟨hurl, hresult, hstatus, hcontext, hformat⟩
    refine ⟨⟨hresult.symm, hstatus.symm, hcontext.symm, hformat.symm⟩, fun hsupplies => ?_⟩
    by_contra hown
    have htruthy := truthy_of_suppliesUrl hsupplies
    rw [hsupplies, Bool.true_and, Bool.eq_false_iff.mpr hown, Bool.not_false, if_pos rfl] at hurl
    rw [← hurl] at hown
    exact hown htruthy
  · rintro ⟨⟨hresult, hstatus, hcontext, hformat⟩, howns⟩
    refine ⟨?_, hresult.symm, hstatus.symm, hcontext.symm, hformat.symm⟩
    by_cases hsupplies : suppliesUrl build = true
    · simp [hsupplies, howns hsupplies]
    · simp [hsupplies]

end Builds

section Agreement

variable (env : SyncEnv) (dryRun : Bool) (index : Nat) (creative : CreativeAsset)
variable (ref : FormatRef) (stored : CreativeData)

/-- A creation does without previews. -/
def doesWithoutPreviews : Bool :=
  dryRun || hasMediaUrl creative (buildCreativeData creative)

/-- A row without anything of a build. -/
structure HoldsNoBuild
    (stored : CreativeData) : Prop where
  result : stored.generativeBuildResult = none
  status : stored.generativeStatus = none
  context : stored.generativeContextId = none
  format : stored.outputFormat = none

/-- The payloads, rows and answers on which a creation and an update agree, by the branch
the format leads to. -/
def AgreesOn : Prop :=
  match findFormat env ref with
  | .error _ => True
  | .ok none => hasMediaUrl creative (buildCreativeData creative) = true
  | .ok (some format) =>
      if ! format.isAgentBacked then hasMediaUrl creative (buildCreativeData creative) = true
      else if format.isGenerative then
        if ! env.geminiApiKey then True
        else if truthy (extractMessageFromAssets creative) then
          match outbound dryRun (env.agents.buildCreative index) with
          | .error _ => True
          | .ok none => doesWithoutPreviews dryRun creative = true
          | .ok (some build) => spoils creative build = true ∨
              doesWithoutPreviews dryRun creative = true ∨ suppliesUrl build = true
        else
          match outbound dryRun (env.agents.buildCreative index) with
          | .error _ => False
          | .ok none => doesWithoutPreviews dryRun creative = true ∧ HoldsNoBuild stored
          | .ok (some build) => spoils creative build = false ∧
              doesWithoutPreviews dryRun creative = true ∧ HoldsBuild build stored ∧
              (suppliesUrl build = true → truthy (buildCreativeData creative).url = true)
      else if ! assetKeysNamed creative.assets then True
      else match outbound dryRun (env.agents.previewCreative index) with
        | .error _ => True
        | .ok none => doesWithoutPreviews dryRun creative = true
        | .ok (some preview) =>
            preview.previews ≠ [] ∨ doesWithoutPreviews dryRun creative = true

/-- Two consultations accept alike, with the same data of the agent. -/
structure AcceptAlike
    (created updated : Option CreativeData) : Prop where
  accept : created.isSome = updated.isSome
  data : ∀ d d', created = some d → updated = some d' → d.agentDerived = d'.agentDerived

variable {env dryRun index creative ref stored}

theorem acceptAlike_self
    (accepted : Option CreativeData) :
    AcceptAlike accepted accepted :=
  ⟨rfl, fun d d' hd hd' => by rw [Option.some.inj (hd.symm.trans hd')]⟩

theorem acceptAlike_some_iff
    {updated : CreativeData} {created : Option CreativeData} :
    AcceptAlike created (some updated) ↔
      ∃ d, created = some d ∧ d.agentDerived = updated.agentDerived := by
  constructor
  · intro h
    obtain ⟨d, hd⟩ := Option.isSome_iff_exists.mp (h.accept.trans rfl)
    exact ⟨d, hd, h.data d updated hd rfl⟩
  · rintro ⟨d, rfl, hsame⟩
    exact ⟨rfl, fun a b ha hb => by rw [← Option.some.inj ha, ← Option.some.inj hb, hsame]⟩

theorem acceptAlike_withMediaUrl_iff
    {data : CreativeData} :
    AcceptAlike (some data) (withMediaUrl creative data) ↔ hasMediaUrl creative data = true := by
  unfold withMediaUrl
  by_cases hmedia : hasMediaUrl creative data = true
  · simp only [hmedia, if_true, iff_true]
    exact acceptAlike_self _
  · simp only [hmedia, Bool.false_eq_true, if_false, iff_false]
    exact fun h => Bool.noConfusion h.accept

theorem acceptAlike_withoutPreviews_iff
    {data data' : CreativeData} :
    AcceptAlike (withoutPreviews dryRun creative data) (some data') ↔
      (dryRun || hasMediaUrl creative data) = true ∧ data.agentDerived = data'.agentDerived := by
  rw [acceptAlike_some_iff]
  unfold withoutPreviews
  split
  · next haccepted => simp [haccepted]
  · next hrefused => simp [hrefused]

theorem acceptAlike_built_iff
    {build : BuildResult} {data' : CreativeData} :
    AcceptAlike ((builtData creative build).bind (withoutPreviews dryRun creative)) (some data') ↔
      ∃ built, builtData creative build = some built ∧
        (doesWithoutPreviews dryRun creative || suppliesUrl build) = true ∧
          built.agentDerived = data'.agentDerived := by
  cases hbuilt : builtData creative build with
  | none =>
      simp only [Option.bind_none, reduceCtorEq, false_and, exists_false, iff_false]
      exact fun h => Bool.noConfusion h.accept
  | some built =>
      rw [Option.bind_some, acceptAlike_withoutPreviews_iff, hasMediaUrl_built hbuilt]
      simp [doesWithoutPreviews, Bool.or_assoc]

theorem acceptAlike_weighed_iff
    {build : BuildResult} :
    AcceptAlike ((builtData creative build).bind (withoutPreviews dryRun creative))
        (builtData creative build) ↔
      spoils creative build = true ∨
        doesWithoutPreviews dryRun creative = true ∨ suppliesUrl build = true := by
  cases hbuilt : builtData creative build with
  | none =>
      have hspoils := builtData_eq_none_iff.mp hbuilt
      simp only [Option.bind_none, hspoils, true_or, iff_true]
      exact acceptAlike_self _
  | some built =>
      have hfits : spoils creative build = false := by
        rw [Bool.eq_false_iff]
        intro hspoils
        rw [builtData_eq_none_iff.mpr hspoils] at hbuilt
        cases hbuilt
      rw [Option.bind_some, acceptAlike_withoutPreviews_iff, hasMediaUrl_built hbuilt]
      simp only [hfits, Bool.false_eq_true, false_or, doesWithoutPreviews, Bool.or_eq_true,
        and_true, or_assoc]

theorem acceptAlike_kept_iff
    {build : BuildResult} :
    AcceptAlike ((builtData creative build).bind (withoutPreviews dryRun creative))
        (some (keepGenerative stored (buildCreativeData creative))) ↔
      spoils creative build = false ∧
        doesWithoutPreviews dryRun creative = true ∧ HoldsBuild build stored ∧
        (suppliesUrl build = true → truthy (buildCreativeData creative).url = true) := by
  rw [acceptAlike_built_iff]
  constructor
  · rintro ⟨built, hbuilt, haccepted, hsame⟩
    obtain ⟨hholds, hurl⟩ := (agentDerived_keepGenerative_eq hbuilt).mp hsame
    refine ⟨?_, ?_, hholds, hurl⟩
    · rw [Bool.eq_false_iff]
      intro hspoils
      rw [builtData_eq_none_iff.mpr hspoils] at hbuilt
      cases hbuilt
    · rcases Bool.or_eq_true_iff.mp haccepted with h | hsupplies
      · exact h
      · simp [doesWithoutPreviews, hasMediaUrl, hurl hsupplies]
  · rintro ⟨hfits, hwithout, hholds, hurl⟩
    obtain ⟨built, hbuilt⟩ : ∃ built, builtData creative build = some built := by
      rw [← Option.ne_none_iff_exists']
      intro hnone
      rw [builtData_eq_none_iff.mp hnone] at hfits
      cases hfits
    exact ⟨built, hbuilt, by rw [hwithout, Bool.true_or],
      (agentDerived_keepGenerative_eq hbuilt).mpr ⟨hholds, hurl⟩⟩

theorem agentDerived_keepGenerative_eq_self :
    (buildCreativeData creative).agentDerived =
        (keepGenerative stored (buildCreativeData creative)).agentDerived ↔
      HoldsNoBuild stored := by
  simp only [CreativeData.agentDerived, keepGenerative, AgentDerived.mk.injEq, true_and]
  constructor
  · rintro ⟨hresult, hstatus, hcontext, hformat⟩
    exact ⟨hresult.symm, hstatus.symm, hcontext.symm, hformat.symm⟩
  · rintro ⟨hresult, hstatus, hcontext, hformat⟩
    exact ⟨hresult.symm, hstatus.symm, hcontext.symm, hformat.symm⟩

theorem acceptAlike_iff :
    AcceptAlike (acceptedData (consultForCreate env dryRun index creative ref))
        (acceptedData (consultForUpdate env dryRun index creative ref stored)) ↔
      AgreesOn env dryRun index creative ref stored := by
  rw [acceptedData_create, acceptedData_update]
  unfold AgreesOn
  cases findFormat env ref with
  | error err => exact iff_true_intro (acceptAlike_self _)
  | ok found =>
      cases found with
      | none => exact acceptAlike_withMediaUrl_iff
      | some format =>
          simp only
          by_cases hbacked : format.isAgentBacked = true
          · simp only [hbacked, Bool.not_true, Bool.false_eq_true, if_false]
            by_cases hgenerative : format.isGenerative = true
            · simp only [hgenerative, if_true]
              by_cases hgemini : env.geminiApiKey = true
              · simp only [hgemini, Bool.not_true, Bool.false_eq_true, if_false]
                by_cases hmessage : truthy (extractMessageFromAssets creative) = true
                · simp only [hmessage, Bool.not_true, Bool.false_eq_true, if_false, if_true]
                  cases outbound dryRun (env.agents.buildCreative index) with
                  | error err => exact iff_true_intro (acceptAlike_self _)
                  | ok answer =>
                      cases answer with
                      | none =>
                          rw [acceptAlike_withoutPreviews_iff]
                          exact and_iff_left rfl
                      | some build => exact acceptAlike_weighed_iff
                · simp only [hmessage, Bool.not_false, Bool.false_eq_true, if_false, if_true]
                  cases outbound dryRun (env.agents.buildCreative index) with
                  | error err => exact iff_false_intro fun h => Bool.noConfusion h.accept
                  | ok answer =>
                      cases answer with
                      | none =>
                          rw [acceptAlike_withoutPreviews_iff,
                            agentDerived_keepGenerative_eq_self]
                          exact Iff.rfl
                      | some build => exact acceptAlike_kept_iff
              · simp only [hgemini, Bool.not_false, if_true, iff_true]
                exact acceptAlike_self _
            · simp only [hgenerative, Bool.false_eq_true, if_false]
              by_cases hnamed : assetKeysNamed creative.assets = true
              · simp only [hnamed, Bool.not_true, Bool.false_eq_true, if_false]
                cases outbound dryRun (env.agents.previewCreative index) with
                | error err => exact iff_true_intro (acceptAlike_self _)
                | ok answer =>
                    cases answer with
                    | none =>
                        rw [acceptAlike_withoutPreviews_iff]
                        exact and_iff_left rfl
                    | some preview =>
                        simp only
                        cases hpreviews : preview.previews with
                        | nil =>
                            simp only [List.isEmpty_nil, if_true, ne_eq, not_true_eq_false,
                              false_or]
                            rw [acceptAlike_withoutPreviews_iff]
                            exact and_iff_left rfl
                        | cons url rest =>
                            simp only [List.isEmpty_cons, Bool.false_eq_true, if_false, ne_eq,
                              reduceCtorEq, not_false_eq_true, true_or, iff_true]
                            exact acceptAlike_self _
              · simp only [hnamed, Bool.not_false, if_true, iff_true]
                exact acceptAlike_self _
          · simp only [hbacked, Bool.not_false, if_true]
            exact acceptAlike_withMediaUrl_iff

end Agreement

section Functions

variable (env : SyncEnv) (dryRun : Bool) (index : Nat) (creative : CreativeAsset)
variable (ref : FormatRef)

/-- The function fails the creative: it raises, or the result it appends is a failed one. -/
def failsCreative : Except SyncError SyncState → Bool
  | .error _ => true
  | .ok s => s.results.getLast?.any (·.action = .failed)

/-- What a function leaves stored of the agent's answers, under the id of the creative. -/
def storedAgentData : Except SyncError SyncState → Option AgentDerived
  | .error _ => none
  | .ok s => (s.store.library.find (env.creativeKey (env.storedId index creative))).map
      (·.data.agentDerived)

/-- The two functions fail the creative alike, and store the same of the agent's answers. -/
structure ValidateAlike
    (created updated : Except SyncError SyncState) : Prop where
  fails : failsCreative created = failsCreative updated
  stored : failsCreative created = false → failsCreative updated = false →
    storedAgentData env index creative created = storedAgentData env index creative updated

variable {env dryRun index creative ref}

theorem consulted_of_accepted
    {consultation : Except AgentFailure (Option (CreativeData × List String))}
    {data : CreativeData} {changes : List String}
    (h : Consulted.of consultation = .accepted data changes) :
    acceptedData consultation = some data := by
  rcases consultation with err | answer
  · cases err <;> cases h
  · rcases answer with _ | ⟨data', changes'⟩
    · cases h
    · cases h
      rfl

theorem consulted_of_not_accepted
    {consultation : Except AgentFailure (Option (CreativeData × List String))}
    (h : (Consulted.of consultation).verdict ≠ .accepted) :
    acceptedData consultation = none := by
  rcases consultation with err | answer
  · rfl
  · rcases answer with _ | ⟨data', changes'⟩
    · rfl
    · exact absurd rfl h

theorem failsCreative_append
    {s : SyncState} {store : SyncStore} {queued : List ReviewJob} {result : SyncCreativeResult} :
    failsCreative (.ok { store := store, queued := queued, results := s.results ++ [result] }) =
      decide (result.action = .failed) := by
  simp [failsCreative]

/-- How a creation of a free id ends, and what it stores. -/
theorem createNewCreative_ends
    {s : SyncState}
    (hfree : s.store.library.find (env.creativeKey (env.storedId index creative)) = none) :
    failsCreative (createNewCreative env dryRun index creative ref s) =
        (! (acceptedData (consultForCreate env dryRun index creative ref)).isSome) ∧
      ∀ data, acceptedData (consultForCreate env dryRun index creative ref) = some data →
        storedAgentData env index creative (createNewCreative env dryRun index creative ref s) =
          some data.agentDerived := by
  unfold createNewCreative
  cases hends : Consulted.of (consultForCreate env dryRun index creative ref) with
  | raised err =>
      have hnone : acceptedData (consultForCreate env dryRun index creative ref) = none :=
        consulted_of_not_accepted (by rw [hends]; nofun)
      exact ⟨by rw [hnone]; rfl, fun data hdata => by rw [hnone] at hdata; cases hdata⟩
  | failed err =>
      have hnone : acceptedData (consultForCreate env dryRun index creative ref) = none :=
        consulted_of_not_accepted (by rw [hends]; nofun)
      refine ⟨?_, fun data hdata => by rw [hnone] at hdata; cases hdata⟩
      rw [hnone]
      exact failsCreative_append
  | accepted data changes =>
      have hsome := consulted_of_accepted hends
      have hkey : (newRow env index creative ref data).primaryKey =
          some (env.creativeKey (env.storedId index creative)) := rfl
      cases hinsert : s.store.library.insert (newRow env index creative ref data) with
      | none =>
          have hconflict := (IndexedTable.insert_eq_none_iff _).mp hinsert
          rw [IndexedTable.conflicts_iff_find _ hkey, hfree] at hconflict
          cases hconflict
      | some library =>
          simp only [hinsert]
          refine ⟨?_, fun data' hdata' => ?_⟩
          · rw [hsome]
            exact failsCreative_append
          · cases hsome.symm.trans hdata'
            simp only [storedAgentData, SyncStore.withLibrary,
              IndexedTable.find_insert_self hinsert hkey, Option.map_some]
            rfl

/-- How an update of the caller's row of the id ends, and what it stores. -/
theorem updateExistingCreative_ends
    {s : SyncState} {stored : CreativeRow}
    (hkey : stored.primaryKey = some (env.creativeKey (env.storedId index creative))) :
    failsCreative (updateExistingCreative env dryRun index creative ref s stored) =
        (! (acceptedData (consultForUpdate env dryRun index creative ref stored.data)).isSome) ∧
      ∀ data, acceptedData (consultForUpdate env dryRun index creative ref stored.data) =
          some data →
        storedAgentData env index creative
            (updateExistingCreative env dryRun index creative ref s stored) =
          some data.agentDerived := by
  unfold updateExistingCreative
  cases hends : Consulted.of (consultForUpdate env dryRun index creative ref stored.data) with
  | raised err =>
      have hnone : acceptedData (consultForUpdate env dryRun index creative ref stored.data) = none :=
        consulted_of_not_accepted (by rw [hends]; nofun)
      exact ⟨by rw [hnone]; rfl, fun data hdata => by rw [hnone] at hdata; cases hdata⟩
  | failed err =>
      have hnone : acceptedData (consultForUpdate env dryRun index creative ref stored.data) = none :=
        consulted_of_not_accepted (by rw [hends]; nofun)
      refine ⟨?_, fun data hdata => by rw [hnone] at hdata; cases hdata⟩
      rw [hnone]
      exact failsCreative_append
  | accepted data changes =>
      have hsome := consulted_of_accepted hends
      refine ⟨?_, fun data' hdata' => ?_⟩
      · rw [hsome]
        refine failsCreative_append.trans ?_
        dsimp only
        split <;> rfl
      · cases hsome.symm.trans hdata'
        have hrow : ({ touchRow env index creative ref stored with data := data } :
            CreativeRow).primaryKey = some (env.creativeKey (env.storedId index creative)) := hkey
        simp only [storedAgentData, SyncStore.withLibrary, IndexedTable.find_put_self _ hrow,
          Option.map_some]

end Functions

section Samples

/-- A static format whose agent has no preview of the creative. -/
def silentEnv : SyncEnv :=
  { sampleEnv with
    formats := [⟨⟨"https://creative.example", "banner"⟩, some "https://creative.example", []⟩] }

/-- A creative of the static format, without a URL. -/
def urlless : CreativeAsset where
  creativeId := "c1"
  name := "Banner"
  formatId := some ⟨"https://creative.example", "banner", none⟩

/-- The same creative with a URL. -/
def withUrl : CreativeAsset :=
  { urlless with url := some "https://cdn.example/banner.png" }

/-- The row the creative is stored in. -/
def bannerRow : CreativeRow where
  creativeId := "c1"
  tenantId := "t1"
  principalId := "p1"
  format := some ⟨"https://creative.example", "banner"⟩
  status := .approved
  createdAt := 10
  updatedAt := none
  name := "Banner"
  agentUrl := "https://creative.example"
  formatId := "banner"
  formatParameters := none
  data := {}

/-- The library that holds the row. -/
def bannerLibrary : SyncState where
  store := SyncStore.empty.withLibrary (SyncStore.empty.library.put bannerRow)
  queued := []
  results := []

/-- No rows yet. -/
def emptyLibrary : SyncState where
  store := .empty
  queued := []
  results := []

theorem withUrl_agreesOn :
    AgreesOn silentEnv false 0 withUrl ⟨"https://creative.example", "banner", none⟩
      bannerRow.data := by
  have hfind : findFormat silentEnv ⟨"https://creative.example", "banner", none⟩ =
      .ok silentEnv.formats.head? := by
    decide +kernel
  have hurl : doesWithoutPreviews false withUrl = true := by
    decide +kernel
  unfold AgreesOn
  rw [hfind]
  exact hurl

end Samples

end CreativeSync
end SalesAgent
