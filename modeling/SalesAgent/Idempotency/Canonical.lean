import Mathlib.Data.List.Sort

/-!
# Canonical payloads of buyer requests

A keyed request is compared with a stored success by the canonical hash of its
payload: the request is dumped to JSON, the closed list of excluded fields is
stripped, object keys are sorted, and the result is hashed.  The hash engine
belongs to the SDK, so it is a parameter; the stripping and the ordering are
what the SDK documents and the repository's tests pin.

Four tools of the registry declare an `idempotency_key`.  The tool name is not
part of the hash, so whether two tools can produce one payload depends on their
request schemas: `ToolSchemas` records which top-level fields each declares.

**Results.**
* `hasKey_canonical`: canonicalization keeps the set of top-level fields that
  are not excluded.
* `BuyerRequest.tool_eq_of_canonicalPayload_eq`: requests with one canonical
  payload are requests of one tool.
-/

namespace SalesAgent
namespace Idempotency

/-- JSON documents; numbers are kept as the text the engine renders. -/
inductive Json
  | null
  | bool (b : Bool)
  | num (text : String)
  | str (s : String)
  | arr (items : List Json)
  | obj (fields : List (String × Json))

mutual

/-- Equality test of documents. -/
def Json.beq : Json → Json → Bool
  | .null, .null => true
  | .bool b, .bool c => b == c
  | .num s, .num t => s == t
  | .str s, .str t => s == t
  | .arr vs, .arr ws => beqItems vs ws
  | .obj ms, .obj ns => beqFields ms ns
  | _, _ => false

/-- Equality test of arrays. -/
def beqItems : List Json → List Json → Bool
  | [], [] => true
  | v :: vs, w :: ws => v.beq w && beqItems vs ws
  | _, _ => false

/-- Equality test of objects, member by member. -/
def beqFields : List (String × Json) → List (String × Json) → Bool
  | [], [] => true
  | (f, v) :: ms, (g, w) :: ns => f == g && v.beq w && beqFields ms ns
  | _, _ => false

end

mutual

theorem Json.beq_iff : ∀ v w : Json, v.beq w = true ↔ v = w
  | .null, w => by cases w <;> simp [Json.beq]
  | .bool _, w => by cases w <;> simp [Json.beq]
  | .num _, w => by cases w <;> simp [Json.beq]
  | .str _, w => by cases w <;> simp [Json.beq]
  | .arr vs, w => by cases w <;> simp [Json.beq, beqItems_iff vs]
  | .obj ms, w => by cases w <;> simp [Json.beq, beqFields_iff ms]

theorem beqItems_iff : ∀ vs ws : List Json, beqItems vs ws = true ↔ vs = ws
  | [], ws => by cases ws <;> simp [beqItems]
  | v :: vs, ws => by cases ws <;> simp [beqItems, Json.beq_iff v, beqItems_iff vs]

theorem beqFields_iff : ∀ ms ns : List (String × Json), beqFields ms ns = true ↔ ms = ns
  | [], ns => by cases ns <;> simp [beqFields]
  | (f, v) :: ms, ns => by
      cases ns with
      | nil => simp [beqFields]
      | cons n ns =>
          rcases n with ⟨g, w⟩
          simp [beqFields, Json.beq_iff v, beqFields_iff ms]

end

instance : DecidableEq Json :=
  fun v w => decidable_of_iff (v.beq w = true) (Json.beq_iff v w)

/-- The members of a JSON object, in the order they were dumped. -/
abbrev Fields := List (String × Json)

namespace Fields

/-- The object has a member with this key. -/
def HasKey
    (p : Fields)
    (f : String) : Prop :=
  f ∈ p.map Prod.fst

/-- Drop the members whose key satisfies a test. -/
def dropKeys
    (p : Fields)
    (drop : String → Bool) : Fields :=
  p.filter (fun m => ! drop m.1)

/-- Rewrite the value under a key, where it is present. -/
def mapAt
    (p : Fields)
    (f : String)
    (g : Json → Json) : Fields :=
  p.map (fun m => (m.1, if m.1 = f then g m.2 else m.2))

/-- Order members by key. -/
def sortKeys
    (p : Fields) : Fields :=
  p.insertionSort (fun m m' => m.1 ≤ m'.1)

@[simp] theorem hasKey_sortKeys
    (p : Fields)
    (f : String) :
    p.sortKeys.HasKey f ↔ p.HasKey f := by
  have hperm : (p.sortKeys.map Prod.fst).Perm (p.map Prod.fst) :=
    (List.perm_insertionSort _ p).map Prod.fst
  exact hperm.mem_iff

@[simp] theorem hasKey_mapAt
    (p : Fields)
    (g : String)
    (h : Json → Json)
    (f : String) :
    (p.mapAt g h).HasKey f ↔ p.HasKey f := by
  simp [HasKey, mapAt, Function.comp_def]

theorem hasKey_dropKeys
    (p : Fields)
    (drop : String → Bool)
    (f : String) :
    (p.dropKeys drop).HasKey f ↔ p.HasKey f ∧ drop f = false := by
  simp only [HasKey, dropKeys, List.mem_map, List.mem_filter, Bool.not_eq_true']
  constructor
  · rintro ⟨m, ⟨hmem, hdrop⟩, rfl⟩
    exact ⟨⟨m, hmem, rfl⟩, hdrop⟩
  · rintro ⟨⟨m, hmem, rfl⟩, hdrop⟩
    exact ⟨m, ⟨hmem, hdrop⟩, rfl⟩

end Fields

section Canonical

/-- The closed list of top-level fields left out of the hash. -/
def excludedFields : List String :=
  ["idempotency_key", "context", "governance_context"]

/-- Apply a rewriting to the members of an object; other values stay. -/
def Json.onObject
    (g : Fields → Fields) : Json → Json
  | .obj fields => .obj (g fields)
  | v => v

/-- Remove the excluded fields and the nested webhook credential. -/
def stripExcludedFields
    (p : Fields) : Fields :=
  (p.dropKeys (fun f => excludedFields.contains f)).mapAt "push_notification_config"
    (Json.onObject (fun config =>
      config.mapAt "authentication"
        (Json.onObject (fun auth => auth.dropKeys (fun f => f == "credentials")))))

mutual

/-- Sort the members of every object in a document. -/
def Json.canonical : Json → Json
  | .arr items => .arr (canonicalItems items)
  | .obj fields => .obj (Fields.sortKeys (canonicalFields fields))
  | v => v

/-- Canonicalize the items of an array. -/
def canonicalItems : List Json → List Json
  | [] => []
  | v :: vs => v.canonical :: canonicalItems vs

/-- Canonicalize the values of an object. -/
def canonicalFields : List (String × Json) → List (String × Json)
  | [] => []
  | (f, v) :: ms => (f, v.canonical) :: canonicalFields ms

end

/-- The document that is hashed for a dumped request. -/
def canonicalPayload
    (p : Fields) : Json :=
  (Json.obj (stripExcludedFields p)).canonical

@[simp] theorem canonicalFields_keys
    (p : Fields) :
    (canonicalFields p).map Prod.fst = p.map Prod.fst := by
  induction p with
  | nil =>
      simp [canonicalFields]
  | cons m ms ih =>
      rcases m with ⟨f, v⟩
      simp [canonicalFields, ih]

theorem hasKey_stripExcludedFields
    (p : Fields)
    (f : String) :
    (stripExcludedFields p).HasKey f ↔ p.HasKey f ∧ f ∉ excludedFields := by
  simp [stripExcludedFields, Fields.hasKey_dropKeys]

/-- The top-level fields of a document. -/
def Json.HasKey : Json → String → Prop
  | .obj fields, f => Fields.HasKey fields f
  | _, _ => False

/-- Canonicalization keeps the top-level fields that are not excluded. -/
theorem hasKey_canonical
    (p : Fields)
    (f : String) :
    (canonicalPayload p).HasKey f ↔ p.HasKey f ∧ f ∉ excludedFields := by
  rw [← hasKey_stripExcludedFields]
  simp only [canonicalPayload, Json.canonical, Json.HasKey, Fields.hasKey_sortKeys]
  simp [Fields.HasKey]

end Canonical

/-- The tools whose request declares an `idempotency_key`. -/
inductive Tool
  | syncAccounts
  | createMediaBuy
  | updateMediaBuy
  | syncCreatives
  deriving DecidableEq, Repr

namespace Tool

/-- The name a cached success is stored under. -/
def name : Tool → String
  | .syncAccounts => "sync_accounts"
  | .createMediaBuy => "create_media_buy"
  | .updateMediaBuy => "update_media_buy"
  | .syncCreatives => "sync_creatives"

/-- The fields the tool's request schema lists as required. -/
def requiredFields : Tool → List String
  | .syncAccounts => ["idempotency_key", "accounts"]
  | .createMediaBuy => ["account", "brand", "end_time", "idempotency_key", "start_time"]
  | .updateMediaBuy => ["idempotency_key", "account", "media_buy_id"]
  | .syncCreatives => ["idempotency_key", "account", "creatives"]

/-- A required field that the other keyed tools do not declare. -/
def ownField : Tool → Option String
  | .syncAccounts => some "accounts"
  | .createMediaBuy => none
  | .updateMediaBuy => some "media_buy_id"
  | .syncCreatives => some "creatives"

theorem ownField_required
    {t : Tool} {f : String}
    (h : t.ownField = some f) :
    f ∈ t.requiredFields ∧ f ∉ excludedFields := by
  cases t <;> simp [ownField] at h <;> subst h <;>
    simp [requiredFields, excludedFields]

end Tool

/-- Top-level fields of the request models the tools take from the SDK. -/
structure ToolSchemas where
  declared : Tool → List String
  ownField_only : ∀ t t' f, Tool.ownField t = some f → f ∈ declared t' → t' = t

/-- A validated request: what `model_dump` renders and the key it carries. -/
structure BuyerRequest (schemas : ToolSchemas) where
  tool : Tool
  fields : Fields
  idempotencyKey : Option String
  has_required : ∀ f ∈ tool.requiredFields, fields.HasKey f
  only_declared : ∀ f, fields.HasKey f → f ∈ schemas.declared tool

namespace BuyerRequest

variable {schemas : ToolSchemas}

/-- The document the request's hash is taken of. -/
def canonicalPayload
    (req : BuyerRequest schemas) : Json :=
  Idempotency.canonicalPayload req.fields

theorem tool_eq_of_ownField
    {req req' : BuyerRequest schemas} {f : String}
    (hpayload : req.canonicalPayload = req'.canonicalPayload)
    (hown : req.tool.ownField = some f) :
    req'.tool = req.tool := by
  have hreq := Tool.ownField_required hown
  have hkey : (req.canonicalPayload).HasKey f :=
    (hasKey_canonical req.fields f).mpr ⟨req.has_required f hreq.1, hreq.2⟩
  rw [hpayload] at hkey
  have hkey' := ((hasKey_canonical req'.fields f).mp hkey).1
  exact schemas.ownField_only req.tool req'.tool f hown (req'.only_declared f hkey')

/-- Requests with one canonical payload are requests of one tool. -/
theorem tool_eq_of_canonicalPayload_eq
    {req req' : BuyerRequest schemas}
    (hpayload : req.canonicalPayload = req'.canonicalPayload) :
    req.tool = req'.tool := by
  cases hown : req.tool.ownField with
  | some f =>
      exact (tool_eq_of_ownField hpayload hown).symm
  | none =>
      cases hown' : req'.tool.ownField with
      | some f =>
          exact tool_eq_of_ownField hpayload.symm hown'
      | none =>
          cases htool : req.tool <;> simp [Tool.ownField, htool] at hown
          cases htool' : req'.tool <;> simp [Tool.ownField, htool'] at hown'
          rfl

end BuyerRequest

/-- The SDK's digest of a document. -/
structure HashEngine (Hash : Type) where
  canonicalJsonSha256 : Json → Hash

/-- The hash of a request, its model dump included. -/
def canonicalRequestHash
    {Hash : Type}
    (engine : HashEngine Hash)
    {schemas : ToolSchemas}
    (req : BuyerRequest schemas) : Hash :=
  engine.canonicalJsonSha256 req.canonicalPayload

end Idempotency
end SalesAgent
