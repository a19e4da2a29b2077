import Mathlib.Data.List.Basic

/-!
# The posture of a tenant on request signing

A tenant may declare whether it verifies signatures, for which operations a signature is
required and for which it is verified.  The verifier enforces the declared posture only
while it is enabled; a declaration that cannot be read enforces nothing.

**Results.**  `enabled_of_supported`: a supported posture is one of an enabled verifier.
-/

namespace SalesAgent
namespace Signing

/-- `PostureBucket` -/
inductive PostureBucket
  | required
  | supported
  | none
  deriving DecidableEq, Repr

/-- `CoversDigestPolicy` -/
inductive CoversDigestPolicy
  | required
  | forbidden
  | either
  deriving DecidableEq, Repr

/-- `RequestSigningPosture`, in the properties a tenant can declare. -/
structure RequestSigningPosture where
  supported : Bool
  coversContentDigest : Option CoversDigestPolicy := none
  requiredFor : Option (List String) := none
  supportedFor : Option (List String) := none
  deriving DecidableEq, Repr

/-- `VerifierCapability` -/
structure VerifierCapability where
  supported : Bool
  coversContentDigest : CoversDigestPolicy
  requiredFor : List String
  supportedFor : List String
  deriving DecidableEq, Repr

/-- `bucket_names` -/
def bucketNames
    (items : Option (List String)) : List String :=
  items.getD []

/-- `_bucket_for` of the posture: an omitted `supported_for` names every operation. -/
def declaredBucketFor
    (name : String)
    (required supported : Option (List String)) : PostureBucket :=
  if name ∈ bucketNames required then
    .required
  else
    match supported with
    | none => .supported
    | some names => if name ∈ names then .supported else .none

/-- `bucket_for` -/
def RequestSigningPosture.bucketFor
    (posture : RequestSigningPosture)
    (operation : String) : PostureBucket :=
  if posture.supported then
    declaredBucketFor operation posture.requiredFor posture.supportedFor
  else
    .none

/-- `to_verifier_capability` -/
def RequestSigningPosture.toVerifierCapability
    (posture : RequestSigningPosture) : VerifierCapability where
  supported := posture.supported
  coversContentDigest := posture.coversContentDigest.getD .either
  requiredFor := bucketNames posture.requiredFor
  supportedFor := bucketNames posture.supportedFor

/-- `UNSUPPORTED_POSTURE` -/
def unsupportedPosture : RequestSigningPosture where
  supported := false

/-- `agent_level_posture` -/
def agentLevelPosture
    (verifierEnabled : Bool) : RequestSigningPosture where
  supported := verifierEnabled

/-- What a tenant stores of capability declarations, as its parser reads it. -/
inductive CapabilityDeclarations
  | unreadable
  | readable (requestSigning : Option RequestSigningPosture)
  deriving DecidableEq, Repr

/-- `posture_from_declarations` -/
def postureFromDeclarations
    (verifierEnabled : Bool)
    (requestSigning : Option RequestSigningPosture) : RequestSigningPosture :=
  match requestSigning with
  | none => agentLevelPosture verifierEnabled
  | some declared => if verifierEnabled then declared else unsupportedPosture

/-- `posture_for_tenant` -/
def postureForTenant
    (verifierEnabled : Bool)
    (declarations : CapabilityDeclarations) : RequestSigningPosture :=
  match declarations with
  | .unreadable => unsupportedPosture
  | .readable requestSigning => postureFromDeclarations verifierEnabled requestSigning

/-- Only an enabled verifier supports request signing. -/
theorem enabled_of_supported
    {verifierEnabled : Bool}
    {declarations : CapabilityDeclarations}
    (h : (postureForTenant verifierEnabled declarations).supported = true) :
    verifierEnabled = true := by
  cases verifierEnabled with
  | true => rfl
  | false =>
      cases declarations with
      | unreadable => cases h
      | readable requestSigning =>
          cases requestSigning with
          | none => cases h
          | some declared => cases h

end Signing
end SalesAgent
