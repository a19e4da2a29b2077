import SalesAgent.Idempotency.Canonical
import SalesAgent.Signing.Capture

/-!
# Webhook registrations

A registration is accepted at ingest, where its document is validated, and is a receipt from
then on.  It is kept in two ways: as a stash, which is the dump of the held document and is
read back without validating anything but its authentication block, and as flat columns.

The schema library is the SDK's: how it parses a URL and which operation ids and tokens it
takes are parameters, and an accepted URL is printed with its scheme, so it is not blank.

**Results.**  `fromStash_toStash`: what was accepted and stashed is read back as it was.
-/

namespace SalesAgent
namespace Webhooks

open Idempotency (Json)

section Schemas

/-- `AuthenticationScheme` -/
inductive AuthenticationScheme
  | bearer
  | hmacSha256
  deriving DecidableEq, Repr

/-- The spelling of a scheme. -/
def AuthenticationScheme.wire : AuthenticationScheme → String
  | .bearer => "Bearer"
  | .hmacSha256 => "HMAC-SHA256"

/-- The scheme of a spelling; no other spelling is folded to one. -/
def AuthenticationScheme.ofWire
    (spelling : String) : Option AuthenticationScheme :=
  if spelling = "Bearer" then some .bearer
  else if spelling = "HMAC-SHA256" then some .hmacSha256
  else none

/-- `PushAuthentication` as an instance holds its fields, validated or not. -/
structure PushAuthentication where
  schemes : List String
  credentials : Option String
  deriving DecidableEq, Repr

/-- A validated `PushAuthentication`: one scheme of the enumeration and a credential of at
least 32 characters. -/
structure ValidAuthentication where
  scheme : AuthenticationScheme
  credentials : String
  long : 32 ≤ credentials.length

/-- The fields of a validated block. -/
def ValidAuthentication.block
    (valid : ValidAuthentication) : PushAuthentication where
  schemes := [valid.scheme.wire]
  credentials := some valid.credentials

/-- One step of the location of a validation error. -/
inductive LocStep
  | key (name : String)
  | index (i : Nat)
  deriving DecidableEq, Repr

/-- The location of a validation error. -/
abbrev Loc :=
  List LocStep

/-- `schemes`: one entry, of the enumeration. -/
def validateSchemes : Option Json → Except Loc AuthenticationScheme
  | some (.arr [.str spelling]) =>
      match AuthenticationScheme.ofWire spelling with
      | some scheme => .ok scheme
      | none => .error [.key "schemes", .index 0]
  | some (.arr [_]) => .error [.key "schemes", .index 0]
  | _ => .error [.key "schemes"]

/-- `credentials`: a text of at least 32 characters. -/
def validateCredentials : Option Json → Except Loc { text : String // 32 ≤ text.length }
  | some (.str text) =>
      if h : 32 ≤ text.length then .ok ⟨text, h⟩ else .error [.key "credentials"]
  | _ => .error [.key "credentials"]

/-- `PushAuthentication.model_validate`, which forbids other keys. -/
def validateBlock : Json → Except Loc ValidAuthentication
  | .obj fields =>
      match validateSchemes (fields.lookup "schemes") with
      | .error loc => .error loc
      | .ok scheme =>
          match validateCredentials (fields.lookup "credentials") with
          | .error loc => .error loc
          | .ok credentials =>
              match fields.find? fun field => field.1 ∉ ["schemes", "credentials"] with
              | some extra => .error [.key extra.1]
              | none => .ok ⟨scheme, credentials.val, credentials.property⟩
  | _ => .error []

/-- A text without a character that is not blank. -/
def blank
    (text : String) : Bool :=
  text.toList.all Signing.isSpace

/-- The validators of the schema library for the other fields. -/
structure PushSchema where
  /-- the printed form of a parsed URL -/
  anyUrl : String → Option { url : String // blank url = false }
  operationId : String → Bool
  token : String → Bool

/-- A validated `PushNotificationConfig`. -/
structure ValidPushConfig where
  url : { url : String // blank url = false }
  operationId : Option String
  token : Option String
  authentication : Option ValidAuthentication

/-- `PushNotificationConfig` as an instance holds its fields, validated or not; null stands for
an absent value. -/
structure PushNotificationConfig where
  url : Json
  operationId : Json
  token : Json
  authentication : Option PushAuthentication
  deriving DecidableEq

/-- An optional text as a JSON value. -/
def optionalText : Option String → Json
  | none => .null
  | some text => .str text

/-- The fields of a validated config. -/
def ValidPushConfig.held
    (config : ValidPushConfig) : PushNotificationConfig where
  url := .str config.url.val
  operationId := optionalText config.operationId
  token := optionalText config.token
  authentication := config.authentication.map ValidAuthentication.block

/-- `url`, which is required. -/
def validateUrl
    (schema : PushSchema) : Option Json → Except Loc { url : String // blank url = false }
  | some (.str text) =>
      match schema.anyUrl text with
      | some url => .ok url
      | none => .error [.key "url"]
  | _ => .error [.key "url"]

/-- An optional text field. -/
def validateText
    (name : String)
    (accepts : String → Bool) : Option Json → Except Loc (Option String)
  | none => .ok none
  | some .null => .ok none
  | some (.str text) => if accepts text then .ok (some text) else .error [.key name]
  | some _ => .error [.key name]

/-- `authentication`, which is optional. -/
def validateAuthentication : Option Json → Except Loc (Option ValidAuthentication)
  | none => .ok none
  | some .null => .ok none
  | some document =>
      match validateBlock document with
      | .ok valid => .ok (some valid)
      | .error loc => .error (.key "authentication" :: loc)

/-- `PushNotificationConfig.model_validate` of a dictionary. -/
def validateConfig
    (schema : PushSchema)
    (fields : List (String × Json)) : Except Loc ValidPushConfig :=
  match validateUrl schema (fields.lookup "url") with
  | .error loc => .error loc
  | .ok url =>
      match validateText "operation_id" schema.operationId (fields.lookup "operation_id") with
      | .error loc => .error loc
      | .ok operationId =>
          match validateText "token" schema.token (fields.lookup "token") with
          | .error loc => .error loc
          | .ok token =>
              match validateAuthentication (fields.lookup "authentication") with
              | .error loc => .error loc
              | .ok authentication => .ok ⟨url, operationId, token, authentication⟩

end Schemas

section Values

variable (reprOf : Json → String)

/-- `str` of a JSON value; the text of a container is Python's. -/
def pyStr : Json → String
  | .null => "None"
  | .bool true => "True"
  | .bool false => "False"
  | .num text => text
  | .str text => text
  | container => reprOf container

/-- `bool` of a JSON value. -/
def truthy : Json → Bool
  | .null => false
  | .bool b => b
  | .num text => text ∉ ["0", "0.0", "-0.0"]
  | .str text => text ≠ ""
  | .arr items => ! items.isEmpty
  | .obj fields => ! fields.isEmpty

/-- `ValidatedWebhookRegistration` -/
structure ValidatedWebhookRegistration where
  config : PushNotificationConfig
  deriving DecidableEq

namespace ValidatedWebhookRegistration

/-- `url` -/
def url
    (registration : ValidatedWebhookRegistration) : String :=
  if registration.config.url = .null then "" else pyStr reprOf registration.config.url

/-- `authentication_type` -/
def authenticationType
    (registration : ValidatedWebhookRegistration) : Option String :=
  registration.config.authentication.bind fun block => block.schemes.head?

/-- `authentication_token` -/
def authenticationToken
    (registration : ValidatedWebhookRegistration) : Option String :=
  registration.config.authentication.bind PushAuthentication.credentials

/-- `operation_id` -/
def operationId
    (registration : ValidatedWebhookRegistration) : Option String :=
  if registration.config.operationId = .null then none
  else some (pyStr reprOf registration.config.operationId)

/-- `token` -/
def token
    (registration : ValidatedWebhookRegistration) : Option String :=
  if registration.config.token = .null then none
  else some (pyStr reprOf registration.config.token)

end ValidatedWebhookRegistration

/-- `WebhookConfigColumns` -/
structure WebhookConfigColumns where
  url : String
  authenticationType : Option String
  authenticationToken : Option String
  operationId : Option String
  token : Option String
  deriving DecidableEq, Repr

/-- `to_columns` -/
def ValidatedWebhookRegistration.toColumns
    (registration : ValidatedWebhookRegistration) : WebhookConfigColumns where
  url := registration.url reprOf
  authenticationType := registration.authenticationType
  authenticationToken := registration.authenticationToken
  operationId := registration.operationId reprOf
  token := registration.token reprOf

/-- A member that is dumped only where it has a value. -/
def present
    (name : String) : Json → List (String × Json)
  | .null => []
  | value => [(name, value)]

/-- The dump of an authentication block. -/
def PushAuthentication.dump
    (block : PushAuthentication) : Json :=
  .obj (("schemes", .arr (block.schemes.map Json.str))
    :: present "credentials" (optionalText block.credentials))

/-- `to_stash` -/
def ValidatedWebhookRegistration.toStash
    (registration : ValidatedWebhookRegistration) : Json :=
  .obj (present "url" registration.config.url
    ++ present "operation_id" registration.config.operationId
    ++ present "token" registration.config.token
    ++ match registration.config.authentication with
        | none => []
        | some block => [("authentication", block.dump)])

end Values

section Gates

/-- What refuses a registration. -/
inductive Refusal
  | validation (field : String)
  | blockedUrl (field : String)
  deriving DecidableEq, Repr

/-- A location joined with dots, as the rehydration names it. -/
def dotted : Loc → List String
  | [] => []
  | .key name :: rest => name :: dotted rest
  | .index i :: rest => toString i :: dotted rest

/-- `first_validation_error_field`, of the part behind the first step. -/
def bracketed : Loc → String
  | [] => ""
  | .key name :: rest => "." ++ name ++ bracketed rest
  | .index i :: rest => "[" ++ toString i ++ "]" ++ bracketed rest

/-- `_construct_stored_config` of a document whose block was validated. -/
def constructStoredConfig
    (fields : List (String × Json))
    (authentication : Option ValidAuthentication) : PushNotificationConfig where
  url := (fields.lookup "url").getD .null
  operationId := (fields.lookup "operation_id").getD .null
  token := (fields.lookup "token").getD .null
  authentication := authentication.map ValidAuthentication.block

/-- `from_stash` -/
def fromStash
    (reprOf : Json → String)
    (fieldPrefix : String)
    (stashed : Json) : Except Refusal ValidatedWebhookRegistration :=
  match stashed with
  | .obj fields =>
      let url := (fields.lookup "url").getD .null
      if blank (if truthy url then pyStr reprOf url else "") then
        .error (.validation (fieldPrefix ++ ".url"))
      else
        match fields.lookup "authentication" with
        | none => .ok ⟨constructStoredConfig fields none⟩
        | some .null => .ok ⟨constructStoredConfig fields none⟩
        | some document =>
            match validateBlock document with
            | .error loc =>
                .error (.validation (".".intercalate
                  (fieldPrefix :: "authentication" :: dotted loc)))
            | .ok valid => .ok ⟨constructStoredConfig fields (some valid)⟩
  | _ => .error (.validation fieldPrefix)

variable (schema : PushSchema) (blocked : String → Bool) (fieldPrefix : String)

/-- `reject_unsafe_webhook_registration_url` -/
def rejectUnsafeUrl
    (url : Option String)
    (field : String) : Except Refusal Unit :=
  match url with
  | none => .ok ()
  | some text => if blank text then .ok () else if blocked text then .error (.blockedUrl field)
      else .ok ()

/-- `_accept`, of a validated config. -/
def accept
    (config : ValidPushConfig) : Except Refusal ValidatedWebhookRegistration :=
  match rejectUnsafeUrl blocked (some config.url.val) (fieldPrefix ++ ".url") with
  | .error refusal => .error refusal
  | .ok () => .ok ⟨config.held⟩

/-- What a tool hands over as its config. -/
inductive ConfigInput
  | document (fields : List (String × Json))
  | model (config : ValidPushConfig)
  | other

/-- `accept_push_notification_config` -/
def acceptPushNotificationConfig :
    ConfigInput → Except Refusal ValidatedWebhookRegistration
  | .document fields =>
      match validateConfig schema fields with
      | .error loc => .error (.validation (fieldPrefix ++ bracketed loc))
      | .ok config => accept blocked fieldPrefix config
  | .model config => accept blocked fieldPrefix config
  | .other => .error (.validation fieldPrefix)

/-- The document of primitives: absent values leave no key. -/
def primitivesDocument
    (url scheme credentials token : Option String) : List (String × Json) :=
  present "url" (optionalText url) ++ present "token" (optionalText token)
    ++ if scheme = none ∧ credentials = none then []
      else [("authentication", .obj [("schemes", .arr [optionalText scheme]),
        ("credentials", optionalText credentials)])]

/-- `accept_push_notification_primitives` -/
def acceptPushNotificationPrimitives
    (url scheme credentials token : Option String) :
    Except Refusal ValidatedWebhookRegistration :=
  match rejectUnsafeUrl blocked url (fieldPrefix ++ ".url") with
  | .error refusal => .error refusal
  | .ok () =>
      match validateConfig schema (primitivesDocument url scheme credentials token) with
      | .error loc => .error (.validation (fieldPrefix ++ bracketed loc))
      | .ok config => accept blocked fieldPrefix config

end Gates

section RoundTrip

theorem ofWire_wire
    (scheme : AuthenticationScheme) :
    AuthenticationScheme.ofWire scheme.wire = some scheme := by
  cases scheme with
  | bearer => rfl
  | hmacSha256 => rfl

theorem wire_of_ofWire
    {spelling : String}
    {scheme : AuthenticationScheme}
    (h : AuthenticationScheme.ofWire spelling = some scheme) :
    spelling = scheme.wire := by
  rw [AuthenticationScheme.ofWire] at h
  by_cases hbearer : spelling = "Bearer"
  · rw [if_pos hbearer] at h
    cases h
    exact hbearer
  · rw [if_neg hbearer] at h
    by_cases hhmac : spelling = "HMAC-SHA256"
    · rw [if_pos hhmac] at h
      cases h
      exact hhmac
    · rw [if_neg hhmac] at h
      cases h

/-- The dump of a validated block is a valid block again. -/
theorem validateBlock_dump
    (valid : ValidAuthentication) :
    validateBlock valid.block.dump = .ok valid := by
  have hschemes : validateSchemes (some (.arr [.str valid.scheme.wire])) = .ok valid.scheme := by
    rw [validateSchemes, ofWire_wire]
  have hcredentials : validateCredentials (some (.str valid.credentials))
      = .ok ⟨valid.credentials, valid.long⟩ :=
    dif_pos valid.long
  have hdump : valid.block.dump = .obj [("schemes", .arr [.str valid.scheme.wire]),
      ("credentials", .str valid.credentials)] := rfl
  have hfirst : List.lookup "schemes" [("schemes", Json.arr [.str valid.scheme.wire]),
      ("credentials", .str valid.credentials)] = some (.arr [.str valid.scheme.wire]) := rfl
  have hsecond : List.lookup "credentials" [("schemes", Json.arr [.str valid.scheme.wire]),
      ("credentials", .str valid.credentials)] = some (.str valid.credentials) := rfl
  rw [hdump, validateBlock, hfirst, hsecond, hschemes]
  simp only [hcredentials]
  rfl

theorem lookup_present_ne
    {name wanted : String}
    (hne : (wanted == name) = false)
    (value : Json)
    (rest : List (String × Json)) :
    (present name value ++ rest).lookup wanted = rest.lookup wanted := by
  cases value with
  | null => rfl
  | bool b => simp [present, List.lookup_cons, hne]
  | num text => simp [present, List.lookup_cons, hne]
  | str text => simp [present, List.lookup_cons, hne]
  | arr items => simp [present, List.lookup_cons, hne]
  | obj fields => simp [present, List.lookup_cons, hne]

theorem lookup_present_self
    (name : String)
    (text : Option String)
    {rest : List (String × Json)}
    (hrest : rest.lookup name = none) :
    ((present name (optionalText text) ++ rest).lookup name).getD .null = optionalText text := by
  cases text with
  | none =>
      rw [optionalText, present, List.nil_append, hrest]
      rfl
  | some text => simp [optionalText, present, List.lookup_cons]

/-- What a stash of a validated config holds. -/
theorem lookup_toStash
    (config : ValidPushConfig) :
    ∃ fields, (ValidatedWebhookRegistration.toStash ⟨config.held⟩) = .obj fields
      ∧ fields.lookup "url" = some (.str config.url.val)
      ∧ (fields.lookup "operation_id").getD .null = optionalText config.operationId
      ∧ (fields.lookup "token").getD .null = optionalText config.token
      ∧ fields.lookup "authentication"
          = config.authentication.map fun valid => valid.block.dump := by
  obtain ⟨url, operationId, token, authentication⟩ := config
  let block : List (String × Json) :=
    match authentication.map ValidAuthentication.block with
    | none => []
    | some block => [("authentication", block.dump)]
  have hblock (wanted : String) (hne : (wanted == "authentication") = false) :
      block.lookup wanted = none := by
    cases authentication with
    | none => rfl
    | some valid => simp [block, List.lookup_cons, hne]
  refine ⟨("url", .str url.val) :: (present "operation_id" (optionalText operationId)
    ++ (present "token" (optionalText token) ++ block)), ?_, rfl, ?_, ?_, ?_⟩
  · simp only [← List.append_assoc]
    rfl
  · have hother : ("operation_id" == "token") = false := rfl
    rw [List.lookup_cons]
    exact lookup_present_self _ _
      ((lookup_present_ne hother _ _).trans (hblock "operation_id" rfl))
  · have hother : ("token" == "operation_id") = false := rfl
    rw [List.lookup_cons]
    exact (congrArg (·.getD Json.null) (lookup_present_ne hother _ _)).trans
      (lookup_present_self _ _ (hblock "token" rfl))
  · have hoperation : ("authentication" == "operation_id") = false := rfl
    have htoken : ("authentication" == "token") = false := rfl
    rw [List.lookup_cons]
    refine (lookup_present_ne hoperation _ _).trans ((lookup_present_ne htoken _ _).trans ?_)
    cases authentication with
    | none => rfl
    | some valid => rfl

/-- What was accepted and stashed is read back as it was. -/
theorem fromStash_toStash
    (reprOf : Json → String)
    (fieldPrefix : String)
    (config : ValidPushConfig) :
    fromStash reprOf fieldPrefix (ValidatedWebhookRegistration.toStash ⟨config.held⟩)
      = .ok ⟨config.held⟩ := by
  obtain ⟨fields, hstash, hurl, hoperation, htoken, hauthentication⟩ := lookup_toStash config
  have hsome : config.url.val ≠ "" := by
    intro hempty
    have hblank := config.url.property
    rw [hempty] at hblank
    cases hblank
  have htruthy : truthy (.str config.url.val) = true := decide_eq_true hsome
  have hheld (authentication : Option ValidAuthentication)
      (h : config.authentication = authentication) :
      constructStoredConfig fields authentication = config.held := by
    rw [constructStoredConfig, ValidPushConfig.held, hurl, hoperation, htoken, h]
    rfl
  rw [hstash, fromStash, hurl]
  simp only [Option.getD_some, htruthy, if_true, pyStr, config.url.property]
  cases hvalid : config.authentication with
  | none =>
      rw [hvalid] at hauthentication
      simp only [hauthentication, Option.map_none]
      rw [hheld none hvalid]
      rfl
  | some valid =>
      rw [hvalid] at hauthentication
      have hblock : valid.block.dump = .obj [("schemes", .arr [.str valid.scheme.wire]),
          ("credentials", .str valid.credentials)] := rfl
      simp only [hauthentication, Option.map_some, hblock]
      rw [← hblock, validateBlock_dump]
      dsimp only
      rw [hheld (some valid) hvalid]
      rfl

end RoundTrip

section Accepted

variable {schema : PushSchema} {blocked : String → Bool} {fieldPrefix : String}

/-- A registration accepted at ingest, by either gate. -/
inductive Accepted
    (schema : PushSchema)
    (blocked : String → Bool)
    (fieldPrefix : String)
    (registration : ValidatedWebhookRegistration) : Prop
  | config
      (input : ConfigInput)
      (h : acceptPushNotificationConfig schema blocked fieldPrefix input = .ok registration) :
      Accepted schema blocked fieldPrefix registration
  | primitives
      (url scheme credentials token : Option String)
      (h : acceptPushNotificationPrimitives schema blocked fieldPrefix url scheme credentials token
        = .ok registration) :
      Accepted schema blocked fieldPrefix registration

theorem held_of_accept
    {config : ValidPushConfig}
    {registration : ValidatedWebhookRegistration}
    (h : accept blocked fieldPrefix config = .ok registration) :
    registration = ⟨config.held⟩ := by
  rw [accept] at h
  cases hurl : rejectUnsafeUrl blocked (some config.url.val) (fieldPrefix ++ ".url") with
  | error refusal =>
      rw [hurl] at h
      cases h
  | ok passed =>
      rw [hurl] at h
      cases h
      rfl

/-- Whatever gate accepts a registration, it holds a validated config. -/
theorem Accepted.held
    {registration : ValidatedWebhookRegistration}
    (haccepted : Accepted schema blocked fieldPrefix registration) :
    ∃ config : ValidPushConfig, registration = ⟨config.held⟩ := by
  cases haccepted with
  | config input h =>
      cases input with
      | document fields =>
          rw [acceptPushNotificationConfig] at h
          cases hvalid : validateConfig schema fields with
          | error loc =>
              rw [hvalid] at h
              cases h
          | ok config =>
              rw [hvalid] at h
              exact ⟨config, held_of_accept h⟩
      | model config => exact ⟨config, held_of_accept h⟩
      | other => cases h
  | primitives url scheme credentials token h =>
      rw [acceptPushNotificationPrimitives] at h
      cases hrejected : rejectUnsafeUrl blocked url (fieldPrefix ++ ".url") with
      | error refusal =>
          rw [hrejected] at h
          cases h
      | ok passed =>
          rw [hrejected] at h
          dsimp only at h
          cases hvalid : validateConfig schema
              (primitivesDocument url scheme credentials token) with
          | error loc =>
              rw [hvalid] at h
              cases h
          | ok config =>
              rw [hvalid] at h
              exact ⟨config, held_of_accept h⟩

end Accepted

end Webhooks
end SalesAgent
