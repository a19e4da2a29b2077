import SalesAgent.Webhooks.DeliveryQueue
import SalesAgent.Webhooks.Registration

/-!
# How a webhook is authenticated

Every sender hands the stored scheme and credential to one seam, which validates the pair
against the type that ingest validated and then takes one of three arms: the legacy HMAC over
the body, a bearer token, or, where no block was registered, the signer of the tenant if it has
one.  A pair that does not validate is refused, and nothing is sent.

The legacy signing is the SDK's: it is a parameter, and what its documentation says of the
headers it adds is a hypothesis.

**Results.**  `webhook_registration_laws`: an accepted registration is read back from its stash
as it was and is delivered through the arm it registered, from the stash and from the columns
alike; and no stored pair is sent through another arm than the one it names.
-/

namespace SalesAgent
namespace Webhooks

open Idempotency (Json)

section Refusals

/-- `RefusalReason` -/
inductive RefusalReason
  | noCredentials
  | credentialsTooShort
  | schemeNotInSpec
  | multiScheme
  | noScheme
  deriving DecidableEq, Repr

/-- `_REFUSAL_DETAIL` -/
def refusalDetail : RefusalReason → String
  | .noCredentials => "the registration names an authentication scheme but stores no credential"
  | .credentialsTooShort =>
      "the stored credential is shorter than the 32 characters the spec requires"
  | .schemeNotInSpec => "the stored authentication scheme is not one this seller supports"
  | .multiScheme => "the registration names more than one authentication scheme"
  | .noScheme => "an authentication block was stored with no scheme"

/-- `WebhookDeliveryOutcome`, with what a refusal names. -/
structure SeamOutcome extends DeliveryOutcome where
  reason : Option RefusalReason := none
  scheme : Option String := none
  deriving DecidableEq, Repr

/-- `_refusal` -/
def refusal
    (scheme : Option String)
    (reason : RefusalReason) : SeamOutcome where
  kind := .refusedAuth
  attempts := 0
  detail := some (refusalDetail reason)
  reason := some reason
  scheme := scheme

/-- `_reason`, for a block of one scheme. -/
def reasonOf
    (credentials : Option String)
    (loc : Loc) : RefusalReason :=
  if .key "credentials" ∈ loc then
    if credentials = none then .noCredentials else .credentialsTooShort
  else
    .schemeNotInSpec

/-- What the seam decides about a stored pair. -/
inductive Decision
  | refused (outcome : SeamOutcome)
  | noAuthentication
  | block (valid : ValidAuthentication)

/-- The block a stored pair stands for. -/
def pairDocument
    (scheme : String)
    (credentials : Option String) : Json :=
  .obj [("schemes", .arr [.str scheme]), ("credentials", optionalText credentials)]

/-- `_authentication_or_refusal` -/
def authenticationOrRefusal
    (scheme credentials : Option String) : Decision :=
  if blank (scheme.getD "") then
    if blank (credentials.getD "") then .noAuthentication
    else .refused (refusal none .noScheme)
  else
    match validateBlock (pairDocument (scheme.getD "") credentials) with
    | .ok valid => .block valid
    | .error loc => .refused (refusal scheme (reasonOf credentials loc))

end Refusals

section Seam

variable {Payload Signer : Type}

/-- A header map. -/
abbrev HeaderMap :=
  List (String × String)

/-- `headers[name] = value` -/
def HeaderMap.set
    (headers : HeaderMap)
    (name value : String) : HeaderMap :=
  if (headers.lookup name).isSome then
    headers.map fun header => if header.1 = name then (name, value) else header
  else
    headers ++ [(name, value)]

/-- `headers.setdefault(name, value)` -/
def HeaderMap.setdefault
    (headers : HeaderMap)
    (name value : String) : HeaderMap :=
  if (headers.lookup name).isSome then headers else headers ++ [(name, value)]

/-- What the SDK and the JSON library do with a payload. -/
structure LegacySigning (Payload : Type) where
  hmacSha256 : (secret message : String) → String
  signLegacyWebhook : (secret : String) → Payload → HeaderMap → HeaderMap × String
  dumps : Payload → String

/-- `sign_legacy_webhook` as it is documented: it signs the timestamp and the body it returns,
and adds two headers. -/
def LegacySigning.SignsBody
    (sdk : LegacySigning Payload) : Prop :=
  ∀ secret payload headers, ∃ timestamp,
    (sdk.signLegacyWebhook secret payload headers).1.lookup "X-ADCP-Timestamp" = some timestamp
      ∧ (sdk.signLegacyWebhook secret payload headers).1.lookup "X-ADCP-Signature"
          = some ("sha256=" ++ sdk.hmacSha256 secret
              (timestamp ++ "." ++ (sdk.signLegacyWebhook secret payload headers).2))
      ∧ ∀ name, name ∉ ["X-ADCP-Timestamp", "X-ADCP-Signature"] →
          (sdk.signLegacyWebhook secret payload headers).1.lookup name = headers.lookup name

/-- `_check_signable_content_type` -/
def signableContentType
    (headers : HeaderMap) : Bool :=
  headers.all fun header =>
    header.1.toLower ≠ "content-type" || Signing.strip header.2 = "application/json"

/-- `_headers_for`: the headers, the HMAC secret and the signer of each attempt; nothing when a
signer may not cover the content type. -/
def headersFor
    (auth : Option ValidAuthentication)
    (headers : HeaderMap)
    (signer : Option Signer) : Option (HeaderMap × Option String × Option Signer) :=
  match auth with
  | none =>
      match signer with
      | none => some (headers, none, none)
      | some signer => if signableContentType headers then some (headers, none, some signer) else none
  | some valid =>
      match valid.scheme with
      | .hmacSha256 => some (headers, some valid.credentials, none)
      | .bearer => some (headers.set "Authorization" ("Bearer " ++ valid.credentials), none, none)

/-- `prepare_signed_request` -/
def prepareSignedRequest
    (sdk : LegacySigning Payload)
    (payload : Payload)
    (secret : Option String)
    (headers : HeaderMap) : HeaderMap × String :=
  let merged := headers.setdefault "Content-Type" "application/json"
  match secret with
  | none => (merged, sdk.dumps payload)
  | some secret =>
      if secret = "" then (merged, sdk.dumps payload)
      else sdk.signLegacyWebhook secret payload merged

/-- What is handed to `send`. -/
structure Transmission (Signer : Type) where
  url : String
  body : String
  headers : HeaderMap
  sign : Option Signer

/-- What becomes of a delivery in front of `send`. -/
inductive Dispatch (Signer : Type)
  | refused (outcome : SeamOutcome)
  | raised
  | sent (transmission : Transmission Signer)

/-- The request of a decided delivery. -/
def prepareRequest
    (sdk : LegacySigning Payload)
    (url : String)
    (payload : Payload)
    (auth : Option ValidAuthentication)
    (headers : HeaderMap)
    (signer : Option Signer) : Dispatch Signer :=
  match headersFor auth headers signer with
  | none => .raised
  | some (authHeaders, secret, sign) =>
      .sent
        { url := url
          body := (prepareSignedRequest sdk payload secret authHeaders).2
          headers := (prepareSignedRequest sdk payload secret authHeaders).1
          sign := sign }

/-- `deliver_webhook` up to the call of `send`. -/
def prepareDelivery
    (sdk : LegacySigning Payload)
    (url : String)
    (payload : Payload)
    (scheme credentials : Option String)
    (headers : HeaderMap)
    (signer : Option Signer) : Dispatch Signer :=
  match authenticationOrRefusal scheme credentials with
  | .refused outcome => .refused outcome
  | .noAuthentication => prepareRequest sdk url payload none headers signer
  | .block valid => prepareRequest sdk url payload (some valid) headers signer

/-- How `send` ends. -/
inductive SendResult
  | result (attempts : Nat) (httpStatus : Option Nat)
  | requestBlocked
  | failed (attempts : Option Nat) (httpStatus : Option Nat) (terminal : Bool)

/-- `_delivered` and `_outcome_for_outbound_error` -/
def outcomeOfSend
    (payloadSizeBytes : Nat) : SendResult → SeamOutcome
  | .result attempts httpStatus =>
      { kind := .delivered, attempts := attempts, httpStatus := httpStatus
        payloadSizeBytes := some payloadSizeBytes }
  | .requestBlocked =>
      { kind := .refusedDestination, attempts := 0
        detail := some "the destination was refused before any connection was made"
        payloadSizeBytes := some payloadSizeBytes }
  | .failed attempts httpStatus true =>
      { kind := .clientError, attempts := attempts.getD 0, httpStatus := httpStatus
        detail := some ("the receiver answered " ++ (httpStatus.map toString).getD "None"
          ++ " and will not be retried")
        payloadSizeBytes := some payloadSizeBytes }
  | .failed attempts httpStatus false =>
      { kind := .exhausted, attempts := attempts.getD 0, httpStatus := httpStatus
        detail := some "delivery did not succeed within the attempt budget"
        payloadSizeBytes := some payloadSizeBytes }

/-- `deliver_webhook`; nothing when it raises. -/
def deliverWebhook
    (sdk : LegacySigning Payload)
    (send : Transmission Signer → SendResult)
    (url : String)
    (payload : Payload)
    (scheme credentials : Option String)
    (headers : HeaderMap)
    (signer : Option Signer) : Option SeamOutcome :=
  match prepareDelivery sdk url payload scheme credentials headers signer with
  | .refused outcome => some outcome
  | .raised => none
  | .sent transmission =>
      some (outcomeOfSend transmission.body.utf8ByteSize (send transmission))

/-- The three senders of webhooks. -/
inductive Sender
  | protocol
  | approval (validationToken : Option String)
  | delivery

/-- The headers a sender hands over. -/
def Sender.headers : Sender → HeaderMap
  | .protocol => [("Content-Type", "application/json"), ("User-Agent", "AdCP-Sales-Agent/1.0")]
  | .approval validationToken =>
      [("Content-Type", "application/json"),
          ("User-Agent", "AdCP-Sales-Agent/1.0 (Order Approval Notifications)")]
        ++ match validationToken with
            | none => []
            | some token => if token = "" then [] else [("X-Webhook-Token", token)]
  | .delivery =>
      [("Content-Type", "application/json"),
        ("User-Agent", "AdCP-Sales-Agent/2.3 (Enhanced Webhooks)")]

end Seam

section Arms

variable {Payload Signer : Type}

/-- A way to authenticate a delivery. -/
inductive Arm (Signer : Type)
  | hmac (secret : String)
  | bearer (credential : String)
  | signed (signer : Signer)
  | plain

/-- The transmission is authenticated through this arm, and through no other. -/
def Takes
    (sdk : LegacySigning Payload)
    (transmission : Transmission Signer) : Arm Signer → Prop
  | .hmac secret =>
      (∃ timestamp, transmission.headers.lookup "X-ADCP-Timestamp" = some timestamp
          ∧ transmission.headers.lookup "X-ADCP-Signature"
              = some ("sha256=" ++ sdk.hmacSha256 secret (timestamp ++ "." ++ transmission.body)))
        ∧ transmission.headers.lookup "Authorization" = none
        ∧ transmission.sign = none
  | .bearer credential =>
      transmission.headers.lookup "Authorization" = some ("Bearer " ++ credential)
        ∧ transmission.headers.lookup "X-ADCP-Signature" = none
        ∧ transmission.sign = none
  | .signed signer =>
      transmission.headers.lookup "Authorization" = none
        ∧ transmission.headers.lookup "X-ADCP-Signature" = none
        ∧ transmission.sign = some signer
  | .plain =>
      transmission.headers.lookup "Authorization" = none
        ∧ transmission.headers.lookup "X-ADCP-Signature" = none
        ∧ transmission.sign = none

/-- The arm of an absent block: the signer, where the tenant has one. -/
def unregisteredArm : Option Signer → Arm Signer
  | none => .plain
  | some signer => .signed signer

/-- The arm of a validated block. -/
def ValidAuthentication.arm
    (valid : ValidAuthentication) : Arm Signer :=
  match valid.scheme with
  | .hmacSha256 => .hmac valid.credentials
  | .bearer => .bearer valid.credentials

/-- Headers that authenticate nothing and frame JSON. -/
structure Neutral
    (headers : HeaderMap) : Prop where
  authorization : headers.lookup "Authorization" = none
  signature : headers.lookup "X-ADCP-Signature" = none
  framed : (headers.lookup "Content-Type").isSome = true
  signable : signableContentType headers = true

/-- What the senders hand over authenticates nothing. -/
theorem Sender.neutral
    (sender : Sender) :
    Neutral sender.headers := by
  cases sender with
  | protocol => exact ⟨rfl, rfl, rfl, by decide +kernel⟩
  | delivery => exact ⟨rfl, rfl, rfl, by decide +kernel⟩
  | approval validationToken =>
      have hname : decide ("X-Webhook-Token".toLower ≠ "content-type") = true := by decide +kernel
      cases validationToken with
      | none => exact ⟨rfl, rfl, rfl, by decide +kernel⟩
      | some token =>
          rw [Sender.headers]
          by_cases hempty : token = ""
          · simp only [if_pos hempty]
            exact ⟨rfl, rfl, rfl, by decide +kernel⟩
          · simp only [if_neg hempty]
            refine ⟨rfl, rfl, rfl, ?_⟩
            rw [signableContentType, List.all_append, Bool.and_eq_true]
            refine ⟨by decide +kernel, ?_⟩
            rw [List.all_cons, hname]
            rfl

theorem lookup_append_of_none
    {headers rest : HeaderMap}
    {name : String}
    (hnone : headers.lookup name = none) :
    (headers ++ rest).lookup name = rest.lookup name := by
  induction headers with
  | nil =>
      rfl
  | cons header headers ih =>
      rw [List.lookup_cons] at hnone
      rw [List.cons_append, List.lookup_cons]
      cases hname : name == header.1 with
      | true =>
          rw [hname] at hnone
          cases hnone
      | false =>
          rw [hname] at hnone
          exact ih hnone

theorem lookup_append_ne
    (headers : HeaderMap)
    {name wanted value : String}
    (hne : (wanted == name) = false) :
    (headers ++ [(name, value)]).lookup wanted = headers.lookup wanted := by
  induction headers with
  | nil =>
      rw [List.nil_append, List.lookup_cons, hne]
  | cons header headers ih =>
      rw [List.cons_append, List.lookup_cons, List.lookup_cons, ih]

/-- A validated block, or its absence, is delivered through its arm. -/
theorem prepareRequest_takes
    {sdk : LegacySigning Payload}
    (hsdk : sdk.SignsBody)
    {headers : HeaderMap}
    (hneutral : Neutral headers)
    (url : String)
    (payload : Payload)
    (auth : Option ValidAuthentication)
    (signer : Option Signer) :
    ∃ transmission, prepareRequest sdk url payload auth headers signer = .sent transmission
      ∧ transmission.url = url
      ∧ Takes sdk transmission (auth.elim (unregisteredArm signer) ValidAuthentication.arm) := by
  have hframed : headers.setdefault "Content-Type" "application/json" = headers :=
    if_pos hneutral.framed
  cases auth with
  | none =>
      cases signer with
      | none =>
          refine ⟨_, rfl, rfl, ?_⟩
          dsimp only [prepareSignedRequest]
          rw [hframed]
          exact ⟨hneutral.authorization, hneutral.signature, rfl⟩
      | some signer =>
          have hheaders : headersFor none headers (some signer) = some (headers, none, some signer) :=
            if_pos hneutral.signable
          rw [prepareRequest, hheaders]
          refine ⟨_, rfl, rfl, ?_⟩
          dsimp only [prepareSignedRequest]
          rw [hframed]
          exact ⟨hneutral.authorization, hneutral.signature, rfl⟩
  | some valid =>
      obtain ⟨scheme, credentials, hlong⟩ := valid
      cases scheme with
      | hmacSha256 =>
          have hsecret : credentials ≠ "" := by
            rintro rfl
            exact absurd hlong (by decide)
          obtain ⟨timestamp, htimestamp, hsignature, hothers⟩ := hsdk credentials payload headers
          have hrequest : prepareSignedRequest sdk payload (some credentials) headers
              = sdk.signLegacyWebhook credentials payload headers := by
            rw [prepareSignedRequest, hframed]
            exact if_neg hsecret
          refine ⟨_, rfl, rfl, ?_⟩
          dsimp only
          rw [hrequest]
          refine ⟨⟨timestamp, htimestamp, hsignature⟩, ?_, rfl⟩
          rw [← hneutral.authorization]
          exact hothers "Authorization" (by decide)
      | bearer =>
          have hset : headers.set "Authorization" ("Bearer " ++ credentials)
              = headers ++ [("Authorization", "Bearer " ++ credentials)] :=
            if_neg (by rw [hneutral.authorization]; exact Bool.false_ne_true)
          have hkept : (headers ++ [("Authorization", "Bearer " ++ credentials)]).setdefault
              "Content-Type" "application/json"
                = headers ++ [("Authorization", "Bearer " ++ credentials)] := by
            refine if_pos ?_
            rw [lookup_append_ne headers (by decide)]
            exact hneutral.framed
          refine ⟨_, rfl, rfl, ?_⟩
          dsimp only [prepareSignedRequest]
          rw [hset, hkept]
          refine ⟨?_, ?_, rfl⟩
          · rw [lookup_append_of_none hneutral.authorization]
            simp
          · rw [lookup_append_ne headers (by decide)]
            exact hneutral.signature

end Arms

section Pairs

variable {Payload Signer : Type}

/-- A block validates to what it says. -/
theorem validateBlock_pair
    {scheme : String}
    {credentials : Option String}
    {valid : ValidAuthentication}
    (h : validateBlock (pairDocument scheme credentials) = .ok valid) :
    scheme = valid.scheme.wire ∧ credentials = some valid.credentials := by
  have hschemes : List.lookup "schemes" [("schemes", Json.arr [.str scheme]),
      ("credentials", optionalText credentials)] = some (.arr [.str scheme]) := rfl
  have hcredentials : List.lookup "credentials" [("schemes", Json.arr [.str scheme]),
      ("credentials", optionalText credentials)] = some (optionalText credentials) := rfl
  rw [pairDocument, validateBlock, hschemes, hcredentials, validateSchemes] at h
  cases hscheme : AuthenticationScheme.ofWire scheme with
  | none =>
      rw [hscheme] at h
      cases h
  | some found =>
      rw [hscheme] at h
      dsimp only at h
      cases credentials with
      | none => cases h
      | some text =>
          rw [optionalText, validateCredentials] at h
          by_cases hlong : 32 ≤ text.length
          · rw [dif_pos hlong] at h
            cases h
            exact ⟨wire_of_ofWire hscheme, rfl⟩
          · rw [dif_neg hlong] at h
            cases h

theorem validateBlock_own
    (valid : ValidAuthentication) :
    validateBlock (pairDocument valid.scheme.wire (some valid.credentials)) = .ok valid :=
  validateBlock_dump valid

/-- What a stored pair says of the arm it is delivered through. -/
inductive PairNames
    (scheme credentials : Option String)
    (signer : Option Signer) : Arm Signer → Prop
  | hmac
      (secret : String)
      (hscheme : scheme = some "HMAC-SHA256")
      (hcredentials : credentials = some secret) :
      PairNames scheme credentials signer (.hmac secret)
  | bearer
      (credential : String)
      (hscheme : scheme = some "Bearer")
      (hcredentials : credentials = some credential) :
      PairNames scheme credentials signer (.bearer credential)
  | absent
      (hscheme : blank (scheme.getD "") = true)
      (hcredentials : blank (credentials.getD "") = true) :
      PairNames scheme credentials signer (unregisteredArm signer)

theorem pairNames_of_block
    {scheme : String}
    {credentials : Option String}
    {valid : ValidAuthentication}
    (h : validateBlock (pairDocument scheme credentials) = .ok valid)
    (signer : Option Signer) :
    PairNames (some scheme) credentials signer valid.arm := by
  obtain ⟨rfl, rfl⟩ := validateBlock_pair h
  obtain ⟨found, text, hlong⟩ := valid
  cases found with
  | hmacSha256 => exact .hmac text rfl rfl
  | bearer => exact .bearer text rfl rfl

/-- A stored pair is refused, with nothing sent, or it is delivered through the arm it names. -/
structure StoredPairLaw
    (sdk : LegacySigning Payload)
    (scheme credentials : Option String)
    (headers : HeaderMap)
    (signer : Option Signer)
    (url : String)
    (payload : Payload) : Prop where
  outcome :
    (∃ outcome, prepareDelivery sdk url payload scheme credentials headers signer
          = .refused outcome
        ∧ outcome.kind = .refusedAuth ∧ outcome.attempts = 0)
      ∨ ∃ transmission arm,
          prepareDelivery sdk url payload scheme credentials headers signer = .sent transmission
            ∧ PairNames scheme credentials signer arm ∧ Takes sdk transmission arm
  refused :
    ∀ outcome, prepareDelivery sdk url payload scheme credentials headers signer = .refused outcome →
      ∀ send, deliverWebhook sdk send url payload scheme credentials headers signer = some outcome
  sent :
    ∀ transmission,
      prepareDelivery sdk url payload scheme credentials headers signer = .sent transmission →
        ∀ send, deliverWebhook sdk send url payload scheme credentials headers signer
          = some (outcomeOfSend transmission.body.utf8ByteSize (send transmission))

theorem deliverWebhook_of_sent
    {sdk : LegacySigning Payload}
    {url : String}
    {payload : Payload}
    {scheme credentials : Option String}
    {headers : HeaderMap}
    {signer : Option Signer}
    {transmission : Transmission Signer}
    (h : prepareDelivery sdk url payload scheme credentials headers signer = .sent transmission)
    (send : Transmission Signer → SendResult) :
    deliverWebhook sdk send url payload scheme credentials headers signer
      = some (outcomeOfSend transmission.body.utf8ByteSize (send transmission)) := by
  rw [deliverWebhook, h]

theorem storedPairLaw
    {sdk : LegacySigning Payload}
    (hsdk : sdk.SignsBody)
    (scheme credentials : Option String)
    {headers : HeaderMap}
    (hneutral : Neutral headers)
    (signer : Option Signer)
    (url : String)
    (payload : Payload) :
    StoredPairLaw sdk scheme credentials headers signer url payload := by
  refine ⟨?_, fun outcome h send => by rw [deliverWebhook, h],
    fun transmission h send => deliverWebhook_of_sent h send⟩
  rw [prepareDelivery, authenticationOrRefusal]
  by_cases hscheme : blank (scheme.getD "") = true
  · rw [if_pos hscheme]
    by_cases hcredentials : blank (credentials.getD "") = true
    · rw [if_pos hcredentials]
      obtain ⟨transmission, hsent, -, htakes⟩ :=
        prepareRequest_takes hsdk hneutral url payload none signer
      exact .inr ⟨transmission, _, hsent, .absent hscheme hcredentials, htakes⟩
    · rw [if_neg hcredentials]
      exact .inl ⟨_, rfl, rfl, rfl⟩
  · rw [if_neg hscheme]
    cases scheme with
    | none => exact absurd rfl hscheme
    | some scheme =>
        rw [Option.getD_some]
        cases hvalid : validateBlock (pairDocument scheme credentials) with
        | error loc => exact .inl ⟨_, rfl, rfl, rfl⟩
        | ok valid =>
            obtain ⟨transmission, hsent, -, htakes⟩ :=
              prepareRequest_takes hsdk hneutral url payload (some valid) signer
            exact .inr ⟨transmission, _, hsent, pairNames_of_block hvalid signer, htakes⟩

end Pairs

section Registrations

variable {Payload Signer : Type}

/-- The arm that a registration registers: that of its one scheme with its credential, or that
of an absent block. -/
inductive Registered
    (registration : ValidatedWebhookRegistration)
    (signer : Option Signer) : Arm Signer → Prop
  | hmac
      (secret : String)
      (hblock : registration.config.authentication = some ⟨["HMAC-SHA256"], some secret⟩) :
      Registered registration signer (.hmac secret)
  | bearer
      (credential : String)
      (hblock : registration.config.authentication = some ⟨["Bearer"], some credential⟩) :
      Registered registration signer (.bearer credential)
  | absent
      (hblock : registration.config.authentication = none) :
      Registered registration signer (unregisteredArm signer)

/-- What is stored delivers through the arm of the registration, whoever sends it, and is never
refused for its authentication. -/
structure DeliversAs
    (sdk : LegacySigning Payload)
    (url : String)
    (registration : ValidatedWebhookRegistration)
    (stored : WebhookConfigColumns)
    (sender : Sender)
    (signer : Option Signer)
    (payload : Payload) : Prop where
  arm :
    ∃ transmission arm,
      prepareDelivery sdk stored.url payload stored.authenticationType stored.authenticationToken
          sender.headers signer = .sent transmission
        ∧ transmission.url = url
        ∧ Registered registration signer arm
        ∧ Takes sdk transmission arm
        ∧ ∀ send, deliverWebhook sdk send stored.url payload stored.authenticationType
              stored.authenticationToken sender.headers signer
            = some (outcomeOfSend transmission.body.utf8ByteSize (send transmission))
  accepted :
    ∀ send, ∃ outcome,
      deliverWebhook sdk send stored.url payload stored.authenticationType
          stored.authenticationToken sender.headers signer = some outcome
        ∧ outcome.kind ≠ .refusedAuth

/-- What holds of an accepted registration. -/
structure RegistrationLaws
    (Signer : Type)
    (sdk : LegacySigning Payload)
    (reprOf : Json → String)
    (registration : ValidatedWebhookRegistration) : Prop where
  stash :
    ∀ fieldPrefix, ∃ readBack,
      fromStash reprOf fieldPrefix registration.toStash = .ok readBack
        ∧ readBack.url reprOf = registration.url reprOf
        ∧ readBack.authenticationType = registration.authenticationType
        ∧ readBack.authenticationToken = registration.authenticationToken
        ∧ readBack.operationId reprOf = registration.operationId reprOf
        ∧ readBack.token reprOf = registration.token reprOf
        ∧ ∀ (sender : Sender) (signer : Option Signer) payload,
            DeliversAs sdk (registration.url reprOf) registration (readBack.toColumns reprOf)
              sender signer payload
  columns :
    (registration.toColumns reprOf).url = registration.url reprOf
      ∧ (registration.toColumns reprOf).authenticationType = registration.authenticationType
      ∧ (registration.toColumns reprOf).authenticationToken = registration.authenticationToken
      ∧ (registration.toColumns reprOf).operationId = registration.operationId reprOf
      ∧ (registration.toColumns reprOf).token = registration.token reprOf
      ∧ ∀ (sender : Sender) (signer : Option Signer) payload,
          DeliversAs sdk (registration.url reprOf) registration (registration.toColumns reprOf)
            sender signer payload

theorem outcomeOfSend_accepted
    (size : Nat)
    (result : SendResult) :
    (outcomeOfSend size result).kind ≠ .refusedAuth := by
  cases result with
  | result attempts httpStatus => rintro ⟨⟩
  | requestBlocked => rintro ⟨⟩
  | failed attempts httpStatus terminal =>
      cases terminal with
      | true => rintro ⟨⟩
      | false => rintro ⟨⟩

theorem wire_not_blank
    (scheme : AuthenticationScheme) :
    blank scheme.wire = false := by
  cases scheme with
  | bearer => decide +kernel
  | hmacSha256 => decide +kernel

theorem registered_of_block
    {registration : ValidatedWebhookRegistration}
    {valid : ValidAuthentication}
    (h : registration.config.authentication = some valid.block)
    (signer : Option Signer) :
    Registered registration signer valid.arm := by
  obtain ⟨scheme, credentials, hlong⟩ := valid
  cases scheme with
  | hmacSha256 => exact .hmac credentials h
  | bearer => exact .bearer credentials h

/-- The columns of a held config deliver through its arm. -/
theorem deliversAs_held
    {sdk : LegacySigning Payload}
    (hsdk : sdk.SignsBody)
    (reprOf : Json → String)
    (config : ValidPushConfig)
    (sender : Sender)
    (signer : Option Signer)
    (payload : Payload) :
    DeliversAs sdk (ValidatedWebhookRegistration.url reprOf ⟨config.held⟩) ⟨config.held⟩
      (ValidatedWebhookRegistration.toColumns reprOf ⟨config.held⟩) sender signer payload := by
  have hsent : ∃ transmission arm,
      prepareDelivery sdk (ValidatedWebhookRegistration.url reprOf ⟨config.held⟩) payload
          (ValidatedWebhookRegistration.authenticationType ⟨config.held⟩)
          (ValidatedWebhookRegistration.authenticationToken ⟨config.held⟩)
          sender.headers signer = .sent transmission
        ∧ transmission.url = ValidatedWebhookRegistration.url reprOf ⟨config.held⟩
        ∧ Registered ⟨config.held⟩ signer arm
        ∧ Takes sdk transmission arm := by
    obtain ⟨url, operationId, token, authentication⟩ := config
    cases authentication with
    | none =>
        obtain ⟨transmission, hsent, hurl, htakes⟩ :=
          prepareRequest_takes hsdk sender.neutral _ payload none signer
        exact ⟨transmission, _, hsent, hurl, .absent rfl, htakes⟩
    | some valid =>
        obtain ⟨transmission, hsent, hurl, htakes⟩ :=
          prepareRequest_takes hsdk sender.neutral _ payload (some valid) signer
        have hdecided : authenticationOrRefusal (some valid.scheme.wire) (some valid.credentials)
            = .block valid := by
          rw [authenticationOrRefusal, Option.getD_some, wire_not_blank, validateBlock_own]
          rfl
        have hprepared (target : String) :
            prepareDelivery sdk target payload (some valid.scheme.wire) (some valid.credentials)
                sender.headers signer
              = prepareRequest sdk target payload (some valid) sender.headers signer := by
          rw [prepareDelivery, hdecided]
        exact ⟨transmission, _, (hprepared _).trans hsent, hurl, registered_of_block rfl signer,
          htakes⟩
  obtain ⟨transmission, arm, hprepared, hurl, hregistered, htakes⟩ := hsent
  have hdelivers := deliverWebhook_of_sent hprepared
  exact ⟨⟨transmission, arm, hprepared, hurl, hregistered, htakes, hdelivers⟩,
    fun send => ⟨_, hdelivers send, outcomeOfSend_accepted _ _⟩⟩

/-- An accepted registration is read back and delivered as it was registered, and no stored
pair is sent through another arm than the one it names. -/
theorem webhook_registration_laws
    (sdk : LegacySigning Payload)
    (hsdk : sdk.SignsBody)
    (reprOf : Json → String)
    (schema : PushSchema)
    (blocked : String → Bool)
    (fieldPrefix : String) :
    (∀ registration, Accepted schema blocked fieldPrefix registration →
        RegistrationLaws Signer sdk reprOf registration)
      ∧ ∀ scheme credentials (sender : Sender) (signer : Option Signer) url payload,
          StoredPairLaw sdk scheme credentials sender.headers signer url payload := by
  constructor
  · intro registration haccepted
    obtain ⟨config, rfl⟩ := haccepted.held
    refine ⟨fun stashPrefix => ⟨_, fromStash_toStash reprOf stashPrefix config,
      rfl, rfl, rfl, rfl, rfl, ?_⟩, rfl, rfl, rfl, rfl, rfl, ?_⟩
    · exact fun sender signer payload => deliversAs_held hsdk reprOf config sender signer payload
    · exact fun sender signer payload => deliversAs_held hsdk reprOf config sender signer payload
  · intro scheme credentials sender signer url payload
    exact storedPairLaw hsdk scheme credentials sender.neutral signer url payload

/-- An SDK whose tag is the key in front of the message. -/
def concatenatingSdk : LegacySigning String where
  hmacSha256 := fun secret message => secret ++ message
  signLegacyWebhook := fun secret payload headers =>
    (("X-ADCP-Timestamp", "1") :: ("X-ADCP-Signature", "sha256=" ++ (secret ++ ("1." ++ payload)))
      :: headers, payload)
  dumps := id

theorem concatenatingSdk_signsBody : concatenatingSdk.SignsBody := by
  intro secret payload headers
  refine ⟨"1", rfl, ?_, ?_⟩
  · show List.lookup "X-ADCP-Signature" (("X-ADCP-Timestamp", "1")
      :: ("X-ADCP-Signature", "sha256=" ++ (secret ++ ("1." ++ payload))) :: headers)
        = some ("sha256=" ++ (secret ++ (("1" ++ ".") ++ payload)))
    rfl
  · intro name hname
    simp only [List.mem_cons, List.not_mem_nil, or_false, not_or] at hname
    have htimestamp : (name == "X-ADCP-Timestamp") = false := beq_eq_false_iff_ne.mpr hname.1
    have hsignature : (name == "X-ADCP-Signature") = false := beq_eq_false_iff_ne.mpr hname.2
    show List.lookup name (("X-ADCP-Timestamp", "1")
      :: ("X-ADCP-Signature", "sha256=" ++ (secret ++ ("1." ++ payload))) :: headers)
        = headers.lookup name
    rw [List.lookup_cons, htimestamp, List.lookup_cons, hsignature]

/-- A schema that parses one URL. -/
def sampleSchema : PushSchema where
  anyUrl := fun text =>
    if text = "https://buyer.example/hook" then
      some ⟨"https://buyer.example/hook", by decide +kernel⟩
    else none
  operationId := fun _ => true
  token := fun _ => true

/-- A registration of a bearer credential by the primitives of the agent protocol. -/
def sampleRegistration : ValidatedWebhookRegistration :=
  ⟨⟨.str "https://buyer.example/hook", .null, .null,
    some ⟨["Bearer"], some "0123456789abcdef0123456789abcdef"⟩⟩⟩

theorem sampleRegistration_accepted :
    Accepted sampleSchema (fun _ => false) "push_notification_config" sampleRegistration :=
  .primitives (some "https://buyer.example/hook") (some "Bearer")
    (some "0123456789abcdef0123456789abcdef") none (by rfl)

theorem webhook_registration_laws_sample :
    Accepted sampleSchema (fun _ => false) "push_notification_config" sampleRegistration
      ∧ RegistrationLaws Nat concatenatingSdk (fun _ => "") sampleRegistration := by
  refine ⟨sampleRegistration_accepted, ?_⟩
  exact (webhook_registration_laws concatenatingSdk concatenatingSdk_signsBody (fun _ => "")
    sampleSchema (fun _ => false) "push_notification_config").1 sampleRegistration
      sampleRegistration_accepted

end Registrations

end Webhooks
end SalesAgent
