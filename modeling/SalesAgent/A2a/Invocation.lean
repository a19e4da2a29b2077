import SalesAgent.A2a.Tasks

/-!
# Which messages invoke a skill

A message may carry several parts, and the loop over them keeps what it found so far.  A
data part that names a null skill is not counted as an invocation, so such parts may stand
before the one that names a skill, and none may stand after it.

**Results.**
* `scanParts_found`, `scanParts_searching`: the loop after and before it found a skill.
* `onMessageSend_creates_iff`: exactly which messages create a task, and with what.
-/

namespace SalesAgent
namespace A2a

open Idempotency Runs

/-- The skill a part names, with its parameters. -/
def invocationIn : Part → Option (Json × Json)
  | .data (.obj data) => (data.lookup "skill").map (fun skill => (skill, parametersOf data))
  | _ => none

/-- The text a part carries. -/
def textIn : Part → Option String
  | .text text => if text ≠ "" then some text else none
  | _ => none

/-- The parts that name a skill, in order. -/
def invocations
    (parts : List Part) : List (Json × Json) :=
  parts.filterMap invocationIn

/-- The texts of a message, in order. -/
def textsOf
    (parts : List Part) : List String :=
  parts.filterMap textIn

/-- The last part that names a skill names this one, and those before it name null. -/
def NamesSkill
    (parts : List Part)
    (skill parameters : Json) : Prop :=
  ∃ nulls, invocations parts = nulls ++ [(skill, parameters)] ∧
    (∀ i ∈ nulls, i.1 = .null) ∧ skill ≠ .null

section Loop

theorem scanPart_eq
    (scan : Scan)
    (part : Part) :
    scanPart scan part =
      match invocationIn part with
      | none => .ok { scan with textParts := scan.textParts ++ (textIn part).toList }
      | some (skill, parameters) =>
          if scan.skill ≠ .null then
            .error (.invalidRequest
              "One skill per message. Send each skill invocation as its own message.")
          else .ok { scan with skill := skill, parameters := parameters } := by
  cases part with
  | text text =>
      by_cases h : text = ""
      · simp [scanPart, invocationIn, textIn, h]
      · simp [scanPart, invocationIn, textIn, h]
  | file content => simp [scanPart, invocationIn, textIn]
  | data value =>
      cases value with
      | obj data =>
          cases h : data.lookup "skill" with
          | none => simp [scanPart, invocationIn, textIn, h]
          | some skill => simp [scanPart, invocationIn, h]
      | _ => simp [scanPart, invocationIn, textIn]

theorem textIn_eq_none_of_invocationIn
    {part : Part}
    {invocation : Json × Json}
    (h : invocationIn part = some invocation) :
    textIn part = none := by
  cases part with
  | text text => cases h
  | file content => rfl
  | data value => rfl

theorem textsOf_cons
    (part : Part)
    (rest : List Part) :
    textsOf (part :: rest) = (textIn part).toList ++ textsOf rest := by
  cases h : textIn part <;> simp [textsOf, h]

theorem invocations_cons
    (part : Part)
    (rest : List Part) :
    invocations (part :: rest) = (invocationIn part).toList ++ invocations rest := by
  cases h : invocationIn part <;> simp [invocations, h]

/-- Once a skill is found, no other part may name one. -/
theorem scanParts_found
    {parts : List Part}
    {scan final : Scan}
    (hfound : scan.skill ≠ .null) :
    parts.foldlM scanPart scan = .ok final ↔
      invocations parts = [] ∧
        final = { scan with textParts := scan.textParts ++ textsOf parts } := by
  induction parts generalizing scan with
  | nil =>
      constructor
      · intro h
        cases h
        exact ⟨rfl, by simp [textsOf]⟩
      · rintro ⟨-, rfl⟩
        simp [textsOf, pure, Except.pure]
  | cons part rest ih =>
      rw [foldlM_cons_eq_ok, scanPart_eq, invocations_cons, textsOf_cons]
      cases hpart : invocationIn part with
      | some invocation =>
          constructor
          · rintro ⟨next, hnext, -⟩
            simp only [if_pos hfound] at hnext
            cases hnext
          · rintro ⟨hnone, -⟩
            cases hnone
      | none =>
          have hrest := @ih { scan with textParts := scan.textParts ++ (textIn part).toList } hfound
          constructor
          · rintro ⟨next, hnext, hfold⟩
            cases hnext
            obtain ⟨hnone, hfinal⟩ := hrest.mp hfold
            exact ⟨hnone, by rw [hfinal, List.append_assoc]⟩
          · rintro ⟨hnone, hfinal⟩
            refine ⟨_, rfl, hrest.mpr ⟨hnone, ?_⟩⟩
            rw [hfinal, List.append_assoc]

/-- Before a skill is found, the parts that name null are passed over. -/
theorem scanParts_searching
    {parts : List Part}
    {scan final : Scan}
    (hsearching : scan.skill = .null)
    (hfinal : final.skill ≠ .null) :
    parts.foldlM scanPart scan = .ok final ↔
      final.textParts = scan.textParts ++ textsOf parts ∧
        NamesSkill parts final.skill final.parameters := by
  induction parts generalizing scan with
  | nil =>
      constructor
      · intro h
        cases h
        exact absurd hsearching hfinal
      · rintro ⟨-, nulls, hnulls, -⟩
        exact absurd hnulls.symm (by simp [invocations])
  | cons part rest ih =>
      rw [foldlM_cons_eq_ok, scanPart_eq, textsOf_cons]
      cases hpart : invocationIn part with
      | none =>
          have hsame : NamesSkill (part :: rest) final.skill final.parameters ↔
              NamesSkill rest final.skill final.parameters := by
            simp only [NamesSkill, invocations_cons, hpart, Option.toList_none, List.nil_append]
          have hrest :=
            @ih { scan with textParts := scan.textParts ++ (textIn part).toList } hsearching
          rw [hsame, ← List.append_assoc, ← hrest]
          constructor
          · rintro ⟨next, hnext, hfold⟩
            cases hnext
            exact hfold
          · intro hfold
            exact ⟨_, rfl, hfold⟩
      | some invocation =>
          obtain ⟨skill, parameters⟩ := invocation
          have htext := textIn_eq_none_of_invocationIn hpart
          have hopen : ¬ scan.skill ≠ .null := not_not.mpr hsearching
          simp only [if_neg hopen, htext, Option.toList_none, List.nil_append]
          by_cases hnull : skill = .null
          · -- a null skill leaves the loop searching
            have hsame : NamesSkill (part :: rest) final.skill final.parameters ↔
                NamesSkill rest final.skill final.parameters := by
              simp only [NamesSkill, invocations_cons, hpart, Option.toList_some]
              constructor
              · rintro ⟨nulls, heq, hnulls, hne⟩
                cases nulls with
                | nil =>
                    simp only [List.nil_append, List.cons_append, List.cons.injEq,
                      Prod.mk.injEq] at heq
                    exact absurd (heq.1.1.symm.trans hnull) hne
                | cons first nulls =>
                    simp only [List.cons_append, List.nil_append, List.cons.injEq] at heq
                    exact ⟨nulls, heq.2, fun i hi => hnulls i (List.mem_cons_of_mem _ hi), hne⟩
              · rintro ⟨nulls, heq, hnulls, hne⟩
                refine ⟨(skill, parameters) :: nulls, by rw [heq]; rfl, ?_, hne⟩
                intro i hi
                rcases List.mem_cons.mp hi with rfl | htail
                · exact hnull
                · exact hnulls i htail
            have hrest := @ih { scan with skill := skill, parameters := parameters } hnull
            rw [hsame, ← hrest]
            constructor
            · rintro ⟨next, hnext, hfold⟩
              cases hnext
              exact hfold
            · intro hfold
              exact ⟨_, rfl, hfold⟩
          · have hrest := @scanParts_found rest
              { scan with skill := skill, parameters := parameters } final hnull
            constructor
            · rintro ⟨next, hnext, hfold⟩
              cases hnext
              obtain ⟨hnone, rfl⟩ := hrest.mp hfold
              refine ⟨rfl, [], ?_, by simp, hnull⟩
              rw [invocations_cons, hpart, hnone]
              rfl
            · rintro ⟨htexts, nulls, heq, hnulls, -⟩
              rw [invocations_cons, hpart, Option.toList_some] at heq
              have hnil : nulls = [] := by
                cases nulls with
                | nil => rfl
                | cons first nulls =>
                    simp only [List.cons_append, List.nil_append, List.cons.injEq] at heq
                    have := hnulls first List.mem_cons_self
                    rw [← heq.1] at this
                    exact absurd this hnull
              subst hnil
              simp only [List.cons_append, List.nil_append, List.cons.injEq, Prod.mk.injEq] at heq
              refine ⟨_, rfl, hrest.mpr ⟨heq.2, ?_⟩⟩
              cases final
              simp only [Scan.mk.injEq]
              exact ⟨htexts, heq.1.1.symm, heq.1.2.symm⟩

end Loop

theorem refuseEnvelopePushConfig_eq_ok_iff
    (params : SendMessageRequest) :
    refuseEnvelopePushConfig params = .ok () ↔
      ∀ configuration, params.configuration = some configuration →
        configuration.taskPushNotificationConfig = none := by
  unfold refuseEnvelopePushConfig
  cases params.configuration with
  | none => simp
  | some configuration => cases h : configuration.taskPushNotificationConfig <;> simp [h]

theorem invocationOf_eq_ok_iff
    (params : SendMessageRequest)
    (scan : Scan) :
    invocationOf params = .ok scan ↔
      refuseEnvelopePushConfig params = .ok () ∧
        scan.textParts = textsOf params.parts ∧
        NamesSkill params.parts scan.skill scan.parameters := by
  unfold invocationOf
  cases hrefuse : refuseEnvelopePushConfig params with
  | error e => simp
  | ok _ =>
      simp only [true_and]
      constructor
      · intro h
        cases hscan : scanParts params.parts with
        | error e =>
            rw [hscan] at h
            cases h
        | ok found =>
            rw [hscan] at h
            by_cases hnull : found.skill = .null
            · simp only [if_pos hnull] at h
              cases h
            · simp only [if_neg hnull] at h
              cases h
              simpa using (scanParts_searching rfl hnull).mp hscan
      · rintro ⟨htexts, hnames⟩
        have hne : scan.skill ≠ .null := hnames.choose_spec.2.2
        have hscan : scanParts params.parts = .ok scan :=
          (scanParts_searching rfl hne).mpr ⟨by simpa using htexts, hnames⟩
        rw [hscan]
        exact if_neg hne

/-- A message creates a task exactly where it asks for no push notifications and one data
part names a skill, those that name one before it naming null; the task is new, keeps the
texts of the message and the skill, and its call waits, ends with an unknown skill or fails.
Any other message is refused, and the tasks are as they were. -/
theorem onMessageSend_creates_iff
    (agent : Agent)
    (params : SendMessageRequest)
    (hasHeaders : Bool)
    (taskId : String)
    (handler handler' : Handler)
    (reply : Reply) :
    agent.onMessageSend params hasHeaders taskId handler = (handler', reply) ↔
      (∃ skill parameters,
        (∀ configuration, params.configuration = some configuration →
          configuration.taskPushNotificationConfig = none) ∧
        NamesSkill params.parts skill parameters ∧
        (handler', reply) =
          (let opened := agent.opened params hasHeaders taskId
            { textParts := textsOf params.parts, skill := skill, parameters := parameters }
          (handler.bind taskId opened.1, opened.2))) ∨
      ((¬ ∃ skill parameters,
        (∀ configuration, params.configuration = some configuration →
          configuration.taskPushNotificationConfig = none) ∧
        NamesSkill params.parts skill parameters) ∧
        handler' = handler ∧
        ∃ error, invocationOf params = .error error ∧ reply = .refused error) := by
  unfold Agent.onMessageSend
  cases hinvocation : invocationOf params with
  | error error =>
      have hnone : ¬ ∃ skill parameters,
          (∀ configuration, params.configuration = some configuration →
            configuration.taskPushNotificationConfig = none) ∧
          NamesSkill params.parts skill parameters := by
        rintro ⟨skill, parameters, hconfig, hnames⟩
        have hok := (invocationOf_eq_ok_iff params
          { textParts := textsOf params.parts, skill := skill, parameters := parameters }).mpr
          ⟨(refuseEnvelopePushConfig_eq_ok_iff params).mpr hconfig, rfl, hnames⟩
        rw [hinvocation] at hok
        cases hok
      constructor
      · intro h
        cases h
        exact .inr ⟨hnone, rfl, error, rfl, rfl⟩
      · rintro (⟨skill, parameters, hconfig, hnames, -⟩ | ⟨-, rfl, error', herror, rfl⟩)
        · exact absurd ⟨skill, parameters, hconfig, hnames⟩ hnone
        · cases herror
          rfl
  | ok scan =>
      obtain ⟨hrefuse, htexts, hnames⟩ := (invocationOf_eq_ok_iff params scan).mp hinvocation
      have hconfig := (refuseEnvelopePushConfig_eq_ok_iff params).mp hrefuse
      obtain ⟨textParts, skill, parameters⟩ := scan
      subst htexts
      constructor
      · intro h
        exact .inl ⟨skill, parameters, hconfig, hnames, h.symm⟩
      · rintro (⟨skill', parameters', -, hnames', h⟩ | ⟨hnone, -⟩)
        · have hsame : (skill', parameters') = (skill, parameters) := by
            obtain ⟨nulls, heq, -⟩ := hnames
            obtain ⟨nulls', heq', -⟩ := hnames'
            have := heq'.symm.trans heq
            simpa using (List.append_inj' this rfl).2
          cases hsame
          exact h.symm
        · exact absurd ⟨skill, parameters, hconfig, hnames⟩ hnone

end A2a
end SalesAgent
