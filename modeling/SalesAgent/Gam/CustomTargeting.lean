import SalesAgent.Lib.AndOrTree
import SalesAgent.Lib.Runs
import SalesAgent.Webhooks.Registration

/-!
# Custom targeting of the GAM adapter

A key-value configuration comes in one of three formats: a dictionary of value names, whose keys
may carry a `NOT_`; lists of values to include and to exclude with an operator; or groups of
criteria.  Three builders turn it into a tree of criteria over key ids and value ids.

**Results.**
* `buildLegacy_holds`, `buildEnhanced_holds`, `buildGroups_holds`: what each tree says.
* `build_holds`, `isSome_build`: what a configuration is built into, and which are refused.
* `legacy_saysAs_enhanced`, `enhanced_saysAs_groups`: formats that say the same.
* `custom_targeting_meaning`: a configuration that is not refused keeps its meaning, in every
  format and between formats.
-/

namespace SalesAgent
namespace Gam

open Idempotency (Json)
open Webhooks (truthy)
open Runs

section Builders

/-- What the builders use of Python and of the ad server; `none` where a call raises. -/
structure ValueEnv where
  /-- `str.isdigit` -/
  isDigit : String → Bool
  /-- `str` -/
  text : Json → String
  /-- `int` -/
  int : Json → Option Int
  /-- `_get_or_create_custom_targeting_value`, of a key id and a value name -/
  getOrCreateValue : Json → Json → Option Int

/-- A `CustomCriteria`. -/
structure CustomCriteria where
  keyId : Int
  isNot : Bool
  valueIds : List Int
  deriving DecidableEq, Repr

/-- A `CustomCriteriaSet` or a `CustomCriteria`; a set carries its `logicalOperator`. -/
abbrev CriteriaTree := AndOrTree Json CustomCriteria

/-- What a builder returns: nothing to target by, or a tree. -/
inductive CustomTargeting
  | empty
  | tree (root : CriteriaTree)

variable (env : ValueEnv)

/-- Iteration: over the items of a list, the characters of a text or the keys of a dictionary. -/
def pyIter : Json → Option (List Json)
  | .arr items => some items
  | .str s => some (s.toList.map fun c => .str (String.singleton c))
  | .obj fields => some (fields.map fun field => .str field.1)
  | _ => none

/-- The id of a value: digits are an id, anything else is the name of a value of the key. -/
def resolveValue
    (keyId value : Json) : Option Int :=
  if env.isDigit (env.text value) then env.int value else env.getOrCreateValue keyId value

/-- A criterion over a key, from its values. -/
def criteriaOf
    (keyId : Json)
    (values : List Json)
    (isNot : Bool) : Option CustomCriteria := do
  let valueIds ← values.mapM (resolveValue env keyId)
  let id ← env.int keyId
  return ⟨id, isNot, valueIds⟩

/-- A key of the legacy format without its `NOT_`, and whether it had one. -/
def legacyKey
    (key : String) : String × Bool :=
  if "NOT_".toList.isPrefixOf key.toList then (String.ofList (key.toList.drop 4), true)
  else (key, false)

/-- A criterion of the legacy format, whose value is a name. -/
def legacyCriteria
    (entry : String × Json) : Option CustomCriteria := do
  let valueId ← env.getOrCreateValue (.str (legacyKey entry.1).1) entry.2
  let id ← env.int (.str (legacyKey entry.1).1)
  return ⟨id, (legacyKey entry.1).2, [valueId]⟩

/-- `_build_custom_targeting_structure`, of the legacy format. -/
def buildLegacy
    (fields : List (String × Json))
    (logicalOperator : String) : Option CustomTargeting := do
  let children ← fields.mapM (legacyCriteria env)
  return .tree (.node (.str logicalOperator) (children.map .leaf))

/-- The criteria of one dictionary of the enhanced format; keys without values are skipped. -/
def dictCriteria
    (isNot : Bool) : List (String × Json) → Option (List CustomCriteria)
  | [] => some []
  | (keyId, values) :: rest =>
      if truthy values then do
        let items ← pyIter values
        let criteria ← criteriaOf env (.str keyId) items isNot
        let others ← dictCriteria isNot rest
        return criteria :: others
      else dictCriteria isNot rest

/-- `dict.items`. -/
def dictItems : Json → Option (List (String × Json))
  | .obj fields => some fields
  | _ => none

/-- The set of the children, where there are any. -/
def criteriaSet
    (operator : Json) : List CriteriaTree → CustomTargeting
  | [] => .empty
  | children => .tree (.node operator children)

/-- `_build_enhanced_custom_targeting_structure` -/
def buildEnhanced
    (fields : List (String × Json)) : Option CustomTargeting := do
  let includeDict ← dictItems ((fields.lookup "include").getD (.obj []))
  let excludeDict ← dictItems ((fields.lookup "exclude").getD (.obj []))
  let included ← dictCriteria env false includeDict
  let excluded ← dictCriteria env true excludeDict
  return criteriaSet ((fields.lookup "operator").getD (.str "AND"))
    ((included ++ excluded).map .leaf)

/-- One criterion of a group; `some none` is a malformed one, which is skipped. -/
def groupCriterion : Json → Option (Option CustomCriteria)
  | .obj criterion =>
      let keyId := (criterion.lookup "keyId").getD .null
      let values := (criterion.lookup "values").getD (.arr [])
      if truthy keyId && truthy values then do
        let items ← pyIter values
        let criteria ← criteriaOf env keyId items
          (truthy ((criterion.lookup "exclude").getD (.bool false)))
        return some criteria
      else some none
  | _ => none

/-- One group: its criteria. -/
def groupCriteria : Json → Option (List CustomCriteria)
  | .obj group => do
      let criteria ← pyIter ((group.lookup "criteria").getD (.arr []))
      let built ← criteria.mapM (groupCriterion env)
      return built.filterMap id
  | _ => none

/-- `_build_groups_custom_targeting_structure`; groups left without criteria are skipped. -/
def buildGroups
    (fields : List (String × Json)) : Option CustomTargeting := do
  let groups ← pyIter ((fields.lookup "groups").getD (.arr []))
  let built ← groups.mapM (groupCriteria env)
  return criteriaSet (.str "OR") ((built.filter fun criteria => ! criteria.isEmpty).map
    fun criteria => .node (.str "AND") (criteria.map .leaf))

/-- `_build_custom_targeting_structure`: the format by the keys of the dictionary. -/
def buildCustomTargetingStructure
    (fields : List (String × Json))
    (logicalOperator : String := "AND") : Option CustomTargeting :=
  if (fields.lookup "groups").isSome then buildGroups env fields
  else if (fields.lookup "include").isSome || (fields.lookup "exclude").isSome then
    buildEnhanced env fields
  else buildLegacy env fields logicalOperator

end Builders

section Semantics

/-- How the ad server reads a logical operator. -/
def readOperator : Json → Option Connective
  | .str "AND" => some .all
  | .str "OR" => some .any
  | _ => none

/-- A criterion over an assignment of values to keys: one of its values is there, or none is. -/
def CustomCriteria.Holds
    (a : Int → Int → Prop)
    (criteria : CustomCriteria) : Prop :=
  if criteria.isNot then ∀ id ∈ criteria.valueIds, ¬ a criteria.keyId id
  else ∃ id ∈ criteria.valueIds, a criteria.keyId id

/-- Whom a built targeting reaches. -/
def CustomTargeting.Reaches
    (a : Int → Int → Prop) : CustomTargeting → Prop
  | .empty => True
  | .tree root => root.Holds readOperator (CustomCriteria.Holds a)

end Semantics

section Formats

/-- A criterion: a key, values and whether they are excluded. -/
structure Criterion where
  keyId : Json
  values : List Json
  exclude : Bool

/-- A configuration in one of the three formats. -/
inductive TargetingConfig
  | legacy (entries : List (String × String)) (operator : Connective)
  | enhanced (included excluded : List (String × List Json)) (operator : Connective)
  | groups (groups : List (List Criterion))

/-- The text of a logical operator. -/
def operatorText : Connective → String
  | .all => "AND"
  | .any => "OR"

theorem readOperator_text
    (connective : Connective) :
    readOperator (.str (operatorText connective)) = some connective := by
  cases connective with
  | all => rfl
  | any => rfl

/-- An entry of a dictionary, or its default. -/
def entryOr
    (fields : List (String × Json))
    (key : String)
    (fallback : Json) : Json :=
  (fields.lookup key).getD fallback

/-- A criterion of a group, written as a dictionary. -/
def Criterion.WrittenAs
    (criterion : Criterion)
    (json : Json) : Prop :=
  ∃ fields, json = .obj fields
    ∧ entryOr fields "keyId" .null = criterion.keyId
    ∧ entryOr fields "values" (.arr []) = .arr criterion.values
    ∧ entryOr fields "exclude" (.bool false) = .bool criterion.exclude

/-- A group, written as a dictionary. -/
def GroupWrittenAs
    (group : List Criterion)
    (json : Json) : Prop :=
  ∃ fields items, json = .obj fields
    ∧ entryOr fields "criteria" (.arr []) = .arr items
    ∧ List.Forall₂ Criterion.WrittenAs group items

/-- Lists of values by key, written as a dictionary. -/
def valuesJson
    (entries : List (String × List Json)) : Json :=
  .obj (entries.map fun entry => (entry.1, .arr entry.2))

/-- A dictionary in the format of a configuration; a legacy dictionary has none of the keys that
announce another format. -/
def TargetingConfig.WrittenAs
    (fields : List (String × Json)) : TargetingConfig → Prop
  | .legacy entries _ =>
      fields = (entries.map fun entry => (entry.1, .str entry.2))
        ∧ ∀ entry ∈ entries, entry.1 ∉ ["groups", "include", "exclude"]
  | .enhanced included excluded operator =>
      fields.lookup "groups" = none
        ∧ ((fields.lookup "include").isSome || (fields.lookup "exclude").isSome) = true
        ∧ entryOr fields "include" (.obj []) = valuesJson included
        ∧ entryOr fields "exclude" (.obj []) = valuesJson excluded
        ∧ entryOr fields "operator" (.str "AND") = .str (operatorText operator)
  | .groups parts =>
      ∃ items, fields.lookup "groups" = some (.arr items)
        ∧ List.Forall₂ GroupWrittenAs parts items

/-- The operator parameter, which only the legacy format reads. -/
def TargetingConfig.operator : TargetingConfig → Connective
  | .legacy _ operator => operator
  | _ => .all

/-- What the adapter builds from a dictionary that writes a configuration. -/
def TargetingConfig.build
    (env : ValueEnv)
    (config : TargetingConfig)
    (fields : List (String × Json)) : Option CustomTargeting :=
  buildCustomTargetingStructure env fields (operatorText config.operator)

/-- What a criterion says: one of its values is there, or none is. -/
def Criterion.Says
    (env : ValueEnv)
    (a : Int → Int → Prop)
    (criterion : Criterion) : Prop :=
  ∃ keyId, env.int criterion.keyId = some keyId
    ∧ if criterion.exclude then
        ∀ value ∈ criterion.values, ∀ id,
          resolveValue env criterion.keyId value = some id → ¬ a keyId id
      else
        ∃ value ∈ criterion.values, ∃ id,
          resolveValue env criterion.keyId value = some id ∧ a keyId id

/-- What an entry of the legacy format says. -/
def LegacySays
    (env : ValueEnv)
    (a : Int → Int → Prop)
    (entry : String × String) : Prop :=
  ∃ keyId id, env.int (.str (legacyKey entry.1).1) = some keyId
    ∧ env.getOrCreateValue (.str (legacyKey entry.1).1) (.str entry.2) = some id
    ∧ if (legacyKey entry.1).2 then ¬ a keyId id else a keyId id

/-- The criteria of two dictionaries, without the keys that have no values. -/
def dictionaryCriteria
    (included excluded : List (String × List Json)) : List Criterion :=
  ((included.filter fun entry => ! entry.2.isEmpty).map fun entry =>
      ⟨.str entry.1, entry.2, false⟩)
    ++ (excluded.filter fun entry => ! entry.2.isEmpty).map fun entry =>
      ⟨.str entry.1, entry.2, true⟩

/-- A criterion of a group counts when it has a key and values. -/
def Criterion.counts
    (criterion : Criterion) : Bool :=
  truthy criterion.keyId && ! criterion.values.isEmpty

/-- The criteria that count, in the groups that have any. -/
def countingGroups
    (groups : List (List Criterion)) : List (List Criterion) :=
  (groups.map fun group => group.filter Criterion.counts).filter fun group => ! group.isEmpty

/-- What a configuration says. -/
def TargetingConfig.Means
    (env : ValueEnv)
    (a : Int → Int → Prop) : TargetingConfig → Prop
  | .legacy entries operator => operator.Holds entries (LegacySays env a)
  | .enhanced included excluded operator =>
      dictionaryCriteria included excluded ≠ [] →
        operator.Holds (dictionaryCriteria included excluded) (Criterion.Says env a)
  | .groups parts =>
      countingGroups parts ≠ [] →
        ∃ group ∈ countingGroups parts, ∀ criterion ∈ group, criterion.Says env a

/-- A key and values that the adapter can resolve. -/
def Criterion.Resolvable
    (env : ValueEnv)
    (criterion : Criterion) : Prop :=
  (env.int criterion.keyId).isSome
    ∧ ∀ value ∈ criterion.values, (resolveValue env criterion.keyId value).isSome

/-- Every key and value that counts can be resolved. -/
def TargetingConfig.Resolvable
    (env : ValueEnv) : TargetingConfig → Prop
  | .legacy entries _ => ∀ entry ∈ entries,
      (env.int (.str (legacyKey entry.1).1)).isSome
        ∧ (env.getOrCreateValue (.str (legacyKey entry.1).1) (.str entry.2)).isSome
  | .enhanced included excluded _ =>
      ∀ criterion ∈ dictionaryCriteria included excluded, criterion.Resolvable env
  | .groups parts =>
      ∀ group ∈ countingGroups parts, ∀ criterion ∈ group, criterion.Resolvable env

/-- The criterion of an entry of the legacy format. -/
def legacyCriterion
    (entry : String × String) : Criterion :=
  ⟨.str (legacyKey entry.1).1, [.str entry.2], (legacyKey entry.1).2⟩

/-- The entries of the legacy format with or without `NOT_`, each a list of one value. -/
def legacyValues
    (entries : List (String × String))
    (negative : Bool) : List (String × List Json) :=
  (entries.filter fun entry => (legacyKey entry.1).2 == negative).map fun entry =>
    ((legacyKey entry.1).1, [.str entry.2])

/-- A legacy dictionary in the enhanced format. -/
def enhancedOf
    (entries : List (String × String))
    (operator : Connective) : TargetingConfig :=
  .enhanced (legacyValues entries false) (legacyValues entries true) operator

/-- Two dictionaries as groups: one group of every criterion, or one for each. -/
def groupsOf
    (included excluded : List (String × List Json))
    (operator : Connective) : TargetingConfig :=
  match operator with
  | .all => .groups [dictionaryCriteria included excluded]
  | .any => .groups ((dictionaryCriteria included excluded).map fun criterion => [criterion])

/-- Two configurations are refused together and reach the same, whatever dictionaries write
them. -/
def TargetingConfig.Agree
    (env : ValueEnv)
    (config other : TargetingConfig) : Prop :=
  ∀ fields fields', config.WrittenAs fields → other.WrittenAs fields' →
    ((config.build env fields).isSome ↔ (other.build env fields').isSome)
      ∧ ∀ built built', config.build env fields = some built →
        other.build env fields' = some built' → ∀ a, built.Reaches a ↔ built'.Reaches a

end Formats

section Meaning

variable {env : ValueEnv} {a : Int → Int → Prop}

theorem mapM_cons_eq_some
    {α β : Type}
    {f : α → Option β}
    {x : α} {xs : List α} {ys : List β} :
    (x :: xs).mapM f = some ys
      ↔ ∃ y rest, f x = some y ∧ xs.mapM f = some rest ∧ ys = y :: rest := by
  rw [List.mapM_cons]
  simp only [Option.bind_eq_bind, Option.bind_eq_some_iff, Option.pure_def, Option.some.injEq]
  constructor
  · rintro ⟨y, hy, rest, hrest, rfl⟩
    exact ⟨y, rest, hy, hrest, rfl⟩
  · rintro ⟨y, rest, hy, hrest, rfl⟩
    exact ⟨y, hy, rest, hrest, rfl⟩

theorem forall₂_of_mapM
    {α β : Type}
    {f : α → Option β}
    {xs : List α} {ys : List β}
    (h : xs.mapM f = some ys) :
    List.Forall₂ (fun x y => f x = some y) xs ys := by
  induction xs generalizing ys with
  | nil =>
      cases h
      exact .nil
  | cons x xs ih =>
      obtain ⟨y, rest, hy, hrest, rfl⟩ := mapM_cons_eq_some.mp h
      exact .cons hy (ih hrest)

theorem criteriaOf_eq_some
    {keyId : Json} {values : List Json} {isNot : Bool} {criteria : CustomCriteria}
    (h : criteriaOf env keyId values isNot = some criteria) :
    List.Forall₂ (fun value id => resolveValue env keyId value = some id) values criteria.valueIds
      ∧ env.int keyId = some criteria.keyId
      ∧ criteria.isNot = isNot := by
  simp only [criteriaOf, Option.bind_eq_bind, Option.bind_eq_some_iff, Option.pure_def,
    Option.some.injEq] at h
  obtain ⟨ids, hids, key, hkey, rfl⟩ := h
  exact ⟨forall₂_of_mapM hids, hkey, rfl⟩

/-- A criterion that is built says what it was written for. -/
theorem criteriaOf_holds
    {criterion : Criterion} {criteria : CustomCriteria}
    (h : criteriaOf env criterion.keyId criterion.values criterion.exclude = some criteria) :
    criterion.Says env a ↔ criteria.Holds a := by
  obtain ⟨hvalues, hkey, hnot⟩ := criteriaOf_eq_some h
  rw [Criterion.Says, CustomCriteria.Holds, hnot, hkey]
  have hall : Connective.all.Holds criterion.values
        (fun value => ∀ id, resolveValue env criterion.keyId value = some id →
          ¬ a criteria.keyId id)
      ↔ Connective.all.Holds criteria.valueIds (fun id => ¬ a criteria.keyId id) := by
    refine Connective.holds_forall₂ hvalues fun value id hid => ?_
    rw [hid]
    constructor
    · intro hnone
      exact hnone id rfl
    · rintro hnone id' heq
      cases heq
      exact hnone
  have hany : Connective.any.Holds criterion.values
        (fun value => ∃ id, resolveValue env criterion.keyId value = some id ∧ a criteria.keyId id)
      ↔ Connective.any.Holds criteria.valueIds (a criteria.keyId) := by
    refine Connective.holds_forall₂ hvalues fun value id hid => ?_
    rw [hid]
    constructor
    · rintro ⟨id', heq, hthere⟩
      cases heq
      exact hthere
    · intro hthere
      exact ⟨id, rfl, hthere⟩
  constructor
  · rintro ⟨keyId, heq, hsays⟩
    cases heq
    split
    · next hexclude =>
        rw [if_pos hexclude] at hsays
        exact hall.mp hsays
    · next hinclude =>
        rw [if_neg hinclude] at hsays
        exact hany.mp hsays
  · intro hholds
    refine ⟨_, rfl, ?_⟩
    split
    · next hexclude =>
        rw [if_pos hexclude] at hholds
        exact hall.mpr hholds
    · next hinclude =>
        rw [if_neg hinclude] at hholds
        exact hany.mpr hholds

theorem legacyCriteria_holds
    {entry : String × String} {criteria : CustomCriteria}
    (h : legacyCriteria env (entry.1, .str entry.2) = some criteria) :
    LegacySays env a entry ↔ criteria.Holds a := by
  simp only [legacyCriteria, Option.bind_eq_bind, Option.bind_eq_some_iff, Option.pure_def,
    Option.some.injEq] at h
  obtain ⟨id, hid, keyId, hkey, rfl⟩ := h
  rw [LegacySays, CustomCriteria.Holds]
  dsimp only
  rw [hid, hkey]
  constructor
  · rintro ⟨keyId', id', heq, heq', hsays⟩
    cases heq
    cases heq'
    split
    · next hnot =>
        rw [if_pos hnot] at hsays
        intro id' hmem
        rwa [List.mem_singleton.mp hmem]
    · next hnot =>
        rw [if_neg hnot] at hsays
        exact ⟨id, List.mem_singleton.mpr rfl, hsays⟩
  · intro hholds
    refine ⟨keyId, id, rfl, rfl, ?_⟩
    split
    · next hnot =>
        rw [if_pos hnot] at hholds
        exact hholds id (List.mem_singleton.mpr rfl)
    · next hnot =>
        rw [if_neg hnot] at hholds
        obtain ⟨id', hmem, hthere⟩ := hholds
        rwa [List.mem_singleton.mp hmem] at hthere

/-- A legacy dictionary. -/
theorem buildLegacy_holds
    {entries : List (String × String)} {operator : Connective} {built : CustomTargeting}
    (h : buildLegacy env (entries.map fun entry => (entry.1, .str entry.2)) (operatorText operator)
      = some built) :
    built.Reaches a ↔ operator.Holds entries (LegacySays env a) := by
  simp only [buildLegacy, Option.bind_eq_bind, Option.bind_eq_some_iff, Option.pure_def,
    Option.some.injEq, List.mapM_map] at h
  obtain ⟨children, hchildren, rfl⟩ := h
  rw [CustomTargeting.Reaches, AndOrTree.holds_node_leaves (readOperator_text operator)]
  exact (Connective.holds_forall₂ (forall₂_of_mapM hchildren)
    (fun entry criteria hbuilt => legacyCriteria_holds hbuilt)).symm

theorem dictCriteria_eq_some
    {isNot : Bool} {entries : List (String × List Json)} {built : List CustomCriteria}
    (h : dictCriteria env isNot (entries.map fun entry => (entry.1, .arr entry.2)) = some built) :
    List.Forall₂
      (fun criterion criteria =>
        criteriaOf env criterion.keyId criterion.values criterion.exclude = some criteria)
      ((entries.filter fun entry => ! entry.2.isEmpty).map fun entry =>
        Criterion.mk (.str entry.1) entry.2 isNot)
      built := by
  induction entries generalizing built with
  | nil =>
      cases h
      exact .nil
  | cons entry entries ih =>
      rw [List.map_cons, dictCriteria] at h
      have htruthy : truthy (.arr entry.2) = ! entry.2.isEmpty := rfl
      rw [htruthy] at h
      rw [List.filter_cons]
      by_cases hvalues : (! entry.2.isEmpty) = true
      · rw [if_pos hvalues] at h
        rw [if_pos hvalues, List.map_cons]
        simp only [pyIter, Option.bind_eq_bind, Option.bind_some, Option.bind_eq_some_iff,
          Option.pure_def, Option.some.injEq] at h
        obtain ⟨criteria, hcriteria, others, hothers, rfl⟩ := h
        exact .cons hcriteria (ih hothers)
      · rw [if_neg hvalues] at h
        rw [if_neg hvalues]
        exact ih h

theorem criteriaSet_leaves_reaches
    {operator : Json} {connective : Connective}
    (hread : readOperator operator = some connective)
    {criteria : List CustomCriteria} :
    (criteriaSet operator (criteria.map .leaf)).Reaches a
      ↔ (criteria ≠ [] → connective.Holds criteria (CustomCriteria.Holds a)) := by
  cases criteria with
  | nil => exact iff_of_true trivial (fun h => absurd rfl h)
  | cons first rest =>
      change AndOrTree.Holds readOperator (CustomCriteria.Holds a)
        (.node operator ((first :: rest).map .leaf)) ↔ _
      rw [AndOrTree.holds_node_leaves hread]
      constructor
      · exact fun h _ => h
      · exact fun h => h (List.cons_ne_nil _ _)

theorem buildEnhanced_eq
    {fields : List (String × Json)}
    {included excluded : List (String × List Json)} {operator : Connective}
    (hwritten : (TargetingConfig.enhanced included excluded operator).WrittenAs fields) :
    buildEnhanced env fields
      = (dictCriteria env false (included.map fun entry => (entry.1, .arr entry.2))).bind
        fun first =>
          (dictCriteria env true (excluded.map fun entry => (entry.1, .arr entry.2))).bind
            fun second => some
              (criteriaSet (.str (operatorText operator)) ((first ++ second).map .leaf)) := by
  obtain ⟨-, -, hincluded, hexcluded, hoperator⟩ := hwritten
  rw [entryOr] at hincluded hexcluded hoperator
  rw [buildEnhanced, hincluded, hexcluded, hoperator]
  rfl

theorem buildEnhanced_holds
    {fields : List (String × Json)}
    {included excluded : List (String × List Json)} {operator : Connective}
    (hwritten : (TargetingConfig.enhanced included excluded operator).WrittenAs fields)
    {built : CustomTargeting}
    (h : buildEnhanced env fields = some built) :
    built.Reaches a ↔ (TargetingConfig.enhanced included excluded operator).Means env a := by
  rw [buildEnhanced_eq hwritten] at h
  simp only [Option.bind_eq_some_iff, Option.some.injEq] at h
  obtain ⟨first, hfirst, second, hsecond, rfl⟩ := h
  have hlists := List.rel_append (dictCriteria_eq_some hfirst) (dictCriteria_eq_some hsecond)
  rw [criteriaSet_leaves_reaches (readOperator_text operator), TargetingConfig.Means]
  have hnil : first ++ second ≠ [] ↔ dictionaryCriteria included excluded ≠ [] := by
    rw [dictionaryCriteria, ← List.length_pos_iff, ← List.length_pos_iff, hlists.length_eq]
  have hholds := @Connective.holds_forall₂ _ _ operator _ _ _ (Criterion.Says env a)
    (CustomCriteria.Holds a) hlists (fun criterion criteria hbuilt => criteriaOf_holds hbuilt)
  rw [hnil]
  exact imp_congr_right fun _ => hholds.symm

theorem groupCriterion_writtenAs
    {criterion : Criterion} {json : Json}
    (hwritten : criterion.WrittenAs json) :
    groupCriterion env json
      = if criterion.counts then
          (criteriaOf env criterion.keyId criterion.values criterion.exclude).map some
        else some none := by
  obtain ⟨fields, rfl, hkey, hvalues, hexclude⟩ := hwritten
  rw [entryOr] at hkey hvalues hexclude
  rw [groupCriterion, hkey, hvalues, hexclude, Option.map_eq_bind]
  rfl

theorem groupCriteria_eq_some
    {group : List Criterion} {json : Json} {criteria : List CustomCriteria}
    (hwritten : GroupWrittenAs group json)
    (h : groupCriteria env json = some criteria) :
    List.Forall₂
      (fun criterion criteria =>
        criteriaOf env criterion.keyId criterion.values criterion.exclude = some criteria)
      (group.filter Criterion.counts) criteria := by
  obtain ⟨fields, items, rfl, hitems, hgroup⟩ := hwritten
  rw [entryOr] at hitems
  rw [groupCriteria, hitems] at h
  change (items.mapM (groupCriterion env)).bind
    (fun built => some (built.filterMap id)) = some criteria at h
  simp only [Option.bind_eq_some_iff, Option.some.injEq] at h
  obtain ⟨built, hbuilt, rfl⟩ := h
  clear hitems
  induction hgroup generalizing built with
  | nil =>
      cases hbuilt
      exact .nil
  | @cons criterion item group items hfirst _ ih =>
      obtain ⟨result, rest, hresult, hrest, rfl⟩ := mapM_cons_eq_some.mp hbuilt
      rw [groupCriterion_writtenAs hfirst] at hresult
      rw [List.filter_cons]
      by_cases hcounts : criterion.counts = true
      · rw [if_pos hcounts] at hresult
        rw [if_pos hcounts]
        obtain ⟨criteria, hcriteria, rfl⟩ := Option.map_eq_some_iff.mp hresult
        exact .cons hcriteria (ih rest hrest)
      · rw [if_neg hcounts] at hresult
        rw [if_neg hcounts]
        cases hresult
        exact ih rest hrest

theorem forall₂_filter_nonempty
    {α β : Type}
    {R : α → β → Prop}
    {xs : List (List α)} {ys : List (List β)}
    (h : List.Forall₂ (List.Forall₂ R) xs ys) :
    List.Forall₂ (List.Forall₂ R) (xs.filter fun x => ! x.isEmpty)
      (ys.filter fun y => ! y.isEmpty) := by
  induction h with
  | nil => exact .nil
  | @cons x y xs ys hfirst _ ih =>
      cases hfirst with
      | nil => exact ih
      | cons hhead htail => exact .cons (.cons hhead htail) ih

theorem buildGroups_eq
    {fields : List (String × Json)} {items : List Json}
    (hgroups : fields.lookup "groups" = some (.arr items)) :
    buildGroups env fields
      = (items.mapM (groupCriteria env)).bind fun found =>
        some (criteriaSet (.str (operatorText .any))
          ((found.filter fun criteria => ! criteria.isEmpty).map
            fun criteria => .node (.str (operatorText .all)) (criteria.map .leaf))) := by
  rw [buildGroups, hgroups]
  rfl

/-- Groups. -/
theorem buildGroups_holds
    {fields : List (String × Json)}
    {parts : List (List Criterion)} {built : CustomTargeting}
    (hwritten : (TargetingConfig.groups parts).WrittenAs fields)
    (h : buildGroups env fields = some built) :
    built.Reaches a ↔ (TargetingConfig.groups parts).Means env a := by
  obtain ⟨items, hitems, hparts⟩ := hwritten
  rw [buildGroups_eq hitems] at h
  simp only [Option.bind_eq_some_iff, Option.some.injEq] at h
  obtain ⟨found, hfound, rfl⟩ := h
  have hgroups : List.Forall₂ (List.Forall₂ fun criterion criteria =>
        criteriaOf env criterion.keyId criterion.values criterion.exclude = some criteria)
      (parts.map fun group => group.filter Criterion.counts) found := by
    rw [List.forall₂_map_left_iff]
    clear hitems
    induction hparts generalizing found with
    | nil =>
        cases hfound
        exact .nil
    | cons hfirst _ ih =>
        obtain ⟨criteria, rest, hcriteria, hrest, rfl⟩ := mapM_cons_eq_some.mp hfound
        exact .cons (groupCriteria_eq_some hfirst hcriteria) (ih rest hrest)
  have hcounting := forall₂_filter_nonempty hgroups
  generalize found.filter (fun criteria => ! criteria.isEmpty) = kept at hcounting
  rw [TargetingConfig.Means]
  change List.Forall₂ _ (countingGroups parts) kept at hcounting
  have hholds := @Connective.holds_forall₂ _ _ .any _ _ _
    (fun group => ∀ criterion ∈ group, Criterion.Says env a criterion)
    (fun criteria => ∀ criterion ∈ criteria, CustomCriteria.Holds a criterion) hcounting
    (fun group criteria hgroup => @Connective.holds_forall₂ _ _ .all _ _ _ _ _ hgroup
      (fun criterion criteria hbuilt => criteriaOf_holds hbuilt))
  generalize countingGroups parts = counting at hcounting hholds ⊢
  cases hcounting with
  | nil => exact iff_of_true trivial (fun hne => absurd rfl hne)
  | @cons _ criteria _ others hfirst hrest =>
      change AndOrTree.Holds readOperator (CustomCriteria.Holds a)
        (.node (.str (operatorText .any)) ((criteria :: others).map
          fun criteria => .node (.str (operatorText .all)) (criteria.map .leaf))) ↔ _
      rw [AndOrTree.holds_node (readOperator_text .any), Connective.holds_map]
      refine Iff.trans (Connective.holds_congr fun criteria _ => ?_) (hholds.symm.trans ?_)
      · exact AndOrTree.holds_node_leaves (readOperator_text .all)
      · exact ⟨fun hany _ => hany, fun hany => hany (List.cons_ne_nil _ _)⟩

end Meaning

section Refusals

variable {env : ValueEnv}

theorem isSome_mapM
    {α β : Type}
    {f : α → Option β}
    {xs : List α} :
    (xs.mapM f).isSome ↔ ∀ x ∈ xs, (f x).isSome := by
  induction xs with
  | nil => exact iff_of_true rfl (fun x hx => absurd hx List.not_mem_nil)
  | cons x xs ih =>
      rw [List.forall_mem_cons, ← ih]
      simp only [Option.isSome_iff_exists, mapM_cons_eq_some]
      constructor
      · rintro ⟨_, y, rest, hy, hrest, rfl⟩
        exact ⟨⟨y, hy⟩, rest, hrest⟩
      · rintro ⟨⟨y, hy⟩, rest, hrest⟩
        exact ⟨_, y, rest, hy, hrest, rfl⟩

theorem isSome_bind_some
    {α β : Type}
    {o : Option α} {f : α → β} :
    (o.bind fun x => some (f x)).isSome ↔ o.isSome := by
  cases o with
  | none => exact Iff.rfl
  | some x => exact iff_of_true rfl rfl

theorem isSome_bind_bind
    {α β γ : Type}
    {o : Option α} {q : Option β} {f : α → β → γ} :
    (o.bind fun x => q.bind fun y => some (f x y)).isSome ↔ o.isSome ∧ q.isSome := by
  cases o with
  | none => exact iff_of_false Bool.false_ne_true (fun h => absurd h.1 Bool.false_ne_true)
  | some x =>
      constructor
      · exact fun h => ⟨rfl, isSome_bind_some.mp h⟩
      · exact fun h => isSome_bind_some.mpr h.2

theorem isSome_criteriaOf
    {criterion : Criterion} :
    (criteriaOf env criterion.keyId criterion.values criterion.exclude).isSome
      ↔ criterion.Resolvable env := by
  rw [Criterion.Resolvable, ← isSome_mapM, and_comm]
  exact isSome_bind_bind

theorem isSome_buildLegacy
    {entries : List (String × String)} {operator : String} :
    (buildLegacy env (entries.map fun entry => (entry.1, .str entry.2)) operator).isSome
      ↔ ∀ entry ∈ entries,
        (env.int (.str (legacyKey entry.1).1)).isSome
          ∧ (env.getOrCreateValue (.str (legacyKey entry.1).1) (.str entry.2)).isSome := by
  refine isSome_bind_some.trans ?_
  rw [isSome_mapM, List.forall_mem_map]
  refine forall₂_congr fun entry _ => ?_
  rw [and_comm]
  exact isSome_bind_bind

theorem isSome_dictCriteria
    {isNot : Bool} {entries : List (String × List Json)} :
    (dictCriteria env isNot (entries.map fun entry => (entry.1, .arr entry.2))).isSome
      ↔ ∀ criterion ∈ (entries.filter fun entry => ! entry.2.isEmpty).map
          (fun entry => Criterion.mk (.str entry.1) entry.2 isNot),
        criterion.Resolvable env := by
  induction entries with
  | nil => exact iff_of_true rfl (fun x hx => absurd hx List.not_mem_nil)
  | cons entry entries ih =>
      rw [List.map_cons, dictCriteria]
      have htruthy : truthy (.arr entry.2) = ! entry.2.isEmpty := rfl
      rw [htruthy, List.filter_cons]
      by_cases hvalues : (! entry.2.isEmpty) = true
      · rw [if_pos hvalues, if_pos hvalues, List.map_cons, List.forall_mem_cons, ← ih,
          ← isSome_criteriaOf]
        exact isSome_bind_bind
      · rw [if_neg hvalues, if_neg hvalues]
        exact ih

theorem isSome_buildEnhanced
    {fields : List (String × Json)}
    {included excluded : List (String × List Json)} {operator : Connective}
    (hwritten : (TargetingConfig.enhanced included excluded operator).WrittenAs fields) :
    (buildEnhanced env fields).isSome
      ↔ ∀ criterion ∈ dictionaryCriteria included excluded, criterion.Resolvable env := by
  rw [buildEnhanced_eq hwritten, dictionaryCriteria, List.forall_mem_append,
    ← isSome_dictCriteria, ← isSome_dictCriteria]
  exact isSome_bind_bind

theorem isSome_groupCriterion
    {criterion : Criterion} {json : Json}
    (hwritten : criterion.WrittenAs json) :
    (groupCriterion env json).isSome
      ↔ (criterion.counts = true → criterion.Resolvable env) := by
  rw [groupCriterion_writtenAs hwritten]
  by_cases hcounts : criterion.counts = true
  · rw [if_pos hcounts, Option.isSome_map, isSome_criteriaOf, imp_iff_right hcounts]
  · rw [if_neg hcounts]
    exact iff_of_true rfl (fun h => absurd h hcounts)

theorem isSome_groupCriteria
    {group : List Criterion} {json : Json}
    (hwritten : GroupWrittenAs group json) :
    (groupCriteria env json).isSome
      ↔ ∀ criterion ∈ group.filter Criterion.counts, criterion.Resolvable env := by
  obtain ⟨fields, items, rfl, hitems, hgroup⟩ := hwritten
  rw [entryOr] at hitems
  rw [groupCriteria, hitems]
  refine isSome_bind_some.trans ?_
  clear hitems
  simp only [isSome_mapM, List.mem_filter, and_imp]
  induction hgroup with
  | nil =>
      exact iff_of_true (fun item hitem => absurd hitem List.not_mem_nil)
        (fun criterion hcriterion => absurd hcriterion List.not_mem_nil)
  | cons hfirst _ ih =>
      rw [List.forall_mem_cons, List.forall_mem_cons, ih, isSome_groupCriterion hfirst]

theorem mem_countingGroups_iff
    {parts : List (List Criterion)} {P : Criterion → Prop} :
    (∀ group ∈ countingGroups parts, ∀ criterion ∈ group, P criterion)
      ↔ ∀ part ∈ parts, ∀ criterion ∈ part.filter Criterion.counts, P criterion := by
  constructor
  · intro h part hpart criterion hcriterion
    refine h _ (List.mem_filter.mpr ⟨List.mem_map_of_mem hpart, ?_⟩) criterion hcriterion
    rw [Bool.not_eq_true', List.isEmpty_eq_false_iff]
    exact List.ne_nil_of_mem hcriterion
  · intro h group hgroup criterion hcriterion
    obtain ⟨part, hpart, rfl⟩ := List.mem_map.mp (List.mem_of_mem_filter hgroup)
    exact h part hpart criterion hcriterion

theorem isSome_buildGroups
    {fields : List (String × Json)}
    {parts : List (List Criterion)}
    (hwritten : (TargetingConfig.groups parts).WrittenAs fields) :
    (buildGroups env fields).isSome
      ↔ ∀ group ∈ countingGroups parts, ∀ criterion ∈ group, criterion.Resolvable env := by
  obtain ⟨items, hitems, hparts⟩ := hwritten
  rw [buildGroups_eq hitems, mem_countingGroups_iff]
  refine isSome_bind_some.trans ?_
  clear hitems
  rw [isSome_mapM]
  induction hparts with
  | nil =>
      exact iff_of_true (fun item hitem => absurd hitem List.not_mem_nil)
        (fun part hpart => absurd hpart List.not_mem_nil)
  | cons hfirst _ ih =>
      rw [List.forall_mem_cons, List.forall_mem_cons, ih, isSome_groupCriteria hfirst]

end Refusals

section Conclusions

variable {env : ValueEnv}

theorem build_legacy
    {fields : List (String × Json)}
    {entries : List (String × String)} {operator : Connective}
    (hwritten : (TargetingConfig.legacy entries operator).WrittenAs fields) :
    (TargetingConfig.legacy entries operator).build env fields
      = buildLegacy env (entries.map fun entry => (entry.1, .str entry.2))
          (operatorText operator) := by
  obtain ⟨rfl, hformed⟩ := hwritten
  have habsent : ∀ key ∈ ["groups", "include", "exclude"],
      (entries.map fun entry => (entry.1, Json.str entry.2)).lookup key = none := by
    intro key hkey
    rw [List.lookup_eq_none_iff]
    intro field hfield
    obtain ⟨entry, hentry, rfl⟩ := List.mem_map.mp hfield
    refine bne_iff_ne.mpr ?_
    rintro rfl
    exact hformed entry hentry hkey
  rw [TargetingConfig.build, buildCustomTargetingStructure,
    habsent "groups" (by decide), habsent "include" (by decide), habsent "exclude" (by decide)]
  rfl

theorem build_enhanced
    {fields : List (String × Json)}
    {included excluded : List (String × List Json)} {operator : Connective}
    (hwritten : (TargetingConfig.enhanced included excluded operator).WrittenAs fields) :
    (TargetingConfig.enhanced included excluded operator).build env fields
      = buildEnhanced env fields := by
  rw [TargetingConfig.build, buildCustomTargetingStructure, hwritten.1, if_pos hwritten.2.1]
  rfl

theorem build_groups
    {fields : List (String × Json)}
    {parts : List (List Criterion)}
    (hwritten : (TargetingConfig.groups parts).WrittenAs fields) :
    (TargetingConfig.groups parts).build env fields = buildGroups env fields := by
  obtain ⟨items, hitems, -⟩ := hwritten
  rw [TargetingConfig.build, buildCustomTargetingStructure, hitems]
  rfl

/-- A configuration that is not refused means what it says. -/
theorem build_holds
    {config : TargetingConfig} {fields : List (String × Json)}
    (hwritten : config.WrittenAs fields)
    {built : CustomTargeting}
    (h : config.build env fields = some built)
    {a : Int → Int → Prop} :
    built.Reaches a ↔ config.Means env a := by
  cases config with
  | legacy entries operator =>
      rw [build_legacy hwritten] at h
      exact buildLegacy_holds h
  | enhanced included excluded operator =>
      rw [build_enhanced hwritten] at h
      exact buildEnhanced_holds hwritten h
  | groups parts =>
      rw [build_groups hwritten] at h
      exact buildGroups_holds hwritten h

/-- A configuration is refused exactly when a part that counts cannot be resolved. -/
theorem isSome_build
    {config : TargetingConfig} {fields : List (String × Json)}
    (hwritten : config.WrittenAs fields) :
    (config.build env fields).isSome ↔ config.Resolvable env := by
  cases config with
  | legacy entries operator =>
      rw [build_legacy hwritten]
      exact isSome_buildLegacy
  | enhanced included excluded operator =>
      rw [build_enhanced hwritten]
      exact isSome_buildEnhanced hwritten
  | groups parts =>
      rw [build_groups hwritten]
      exact isSome_buildGroups hwritten

/-- Configurations with parts that resolve together and mean the same. -/
def TargetingConfig.SaysAs
    (env : ValueEnv)
    (config other : TargetingConfig) : Prop :=
  (config.Resolvable env ↔ other.Resolvable env)
    ∧ (config.Resolvable env → ∀ a, config.Means env a ↔ other.Means env a)

theorem TargetingConfig.SaysAs.agree
    {config other : TargetingConfig}
    (h : config.SaysAs env other) :
    config.Agree env other := by
  intro fields fields' hfields hfields'
  constructor
  · rw [isSome_build hfields, isSome_build hfields', h.1]
  · intro built built' hbuilt hbuilt' a
    have hresolved := (isSome_build hfields).mp (Option.isSome_iff_exists.mpr ⟨built, hbuilt⟩)
    rw [build_holds hfields hbuilt, build_holds hfields' hbuilt', h.2 hresolved]

theorem TargetingConfig.SaysAs.trans
    {first second third : TargetingConfig}
    (h : first.SaysAs env second)
    (h' : second.SaysAs env third) :
    first.SaysAs env third := by
  refine ⟨h.1.trans h'.1, ?_⟩
  intro hresolved a
  exact (h.2 hresolved a).trans (h'.2 (h.1.mp hresolved) a)

theorem mem_legacyCriteria
    {entries : List (String × String)} {criterion : Criterion} :
    criterion ∈ dictionaryCriteria (legacyValues entries false) (legacyValues entries true)
      ↔ ∃ entry ∈ entries, criterion = legacyCriterion entry := by
  simp only [dictionaryCriteria, legacyValues, List.mem_append, List.mem_map, List.mem_filter,
    beq_iff_eq]
  constructor
  · rintro (⟨field, ⟨⟨entry, ⟨hentry, hkey⟩, rfl⟩, -⟩, rfl⟩
      | ⟨field, ⟨⟨entry, ⟨hentry, hkey⟩, rfl⟩, -⟩, rfl⟩)
    · refine ⟨entry, hentry, ?_⟩
      rw [legacyCriterion, hkey]
    · refine ⟨entry, hentry, ?_⟩
      rw [legacyCriterion, hkey]
  · rintro ⟨entry, hentry, rfl⟩
    rw [legacyCriterion]
    cases hkey : (legacyKey entry.1).2 with
    | false => exact .inl ⟨_, ⟨⟨entry, ⟨hentry, hkey⟩, rfl⟩, rfl⟩, rfl⟩
    | true => exact .inr ⟨_, ⟨⟨entry, ⟨hentry, hkey⟩, rfl⟩, rfl⟩, rfl⟩

theorem resolveValue_name
    {keyId value : Json}
    (hname : env.isDigit (env.text value) = false) :
    resolveValue env keyId value = env.getOrCreateValue keyId value := by
  rw [resolveValue, hname]
  rfl

theorem legacyCriterion_resolvable
    {entry : String × String}
    (hname : env.isDigit (env.text (.str entry.2)) = false) :
    (legacyCriterion entry).Resolvable env
      ↔ (env.int (.str (legacyKey entry.1).1)).isSome
        ∧ (env.getOrCreateValue (.str (legacyKey entry.1).1) (.str entry.2)).isSome := by
  rw [Criterion.Resolvable, legacyCriterion, List.forall_mem_singleton, resolveValue_name hname]

/-- A legacy entry whose value is no number says what its criterion says. -/
theorem legacyCriterion_means
    {a : Int → Int → Prop}
    {entry : String × String}
    (hname : env.isDigit (env.text (.str entry.2)) = false)
    (hvalue : (env.getOrCreateValue (.str (legacyKey entry.1).1) (.str entry.2)).isSome) :
    (legacyCriterion entry).Says env a ↔ LegacySays env a entry := by
  obtain ⟨id, hid⟩ := Option.isSome_iff_exists.mp hvalue
  have hresolve := (@resolveValue_name env (.str (legacyKey entry.1).1) _ hname).trans hid
  rw [Criterion.Says, LegacySays, legacyCriterion]
  dsimp only
  rw [hid]
  constructor
  · rintro ⟨keyId, hkey, hsays⟩
    refine ⟨keyId, id, hkey, rfl, ?_⟩
    split
    · next hnot =>
        rw [if_pos hnot] at hsays
        exact hsays _ (List.mem_singleton.mpr rfl) id hresolve
    · next hnot =>
        rw [if_neg hnot] at hsays
        obtain ⟨value, hmem, id', hid', hthere⟩ := hsays
        rw [List.mem_singleton.mp hmem, hresolve] at hid'
        cases hid'
        exact hthere
  · rintro ⟨keyId, id', hkey, hid', hsays⟩
    cases hid'
    refine ⟨keyId, hkey, ?_⟩
    split
    · next hnot =>
        rw [if_pos hnot] at hsays
        intro value hmem id' hid'
        rw [List.mem_singleton.mp hmem, hresolve] at hid'
        cases hid'
        exact hsays
    · next hnot =>
        rw [if_neg hnot] at hsays
        exact ⟨_, List.mem_singleton.mpr rfl, id, hresolve, hsays⟩

/-- A legacy dictionary of names says as much as its enhanced form. -/
theorem legacy_saysAs_enhanced
    {entries : List (String × String)} {operator : Connective}
    (hne : entries ≠ [])
    (hnames : ∀ entry ∈ entries, env.isDigit (env.text (.str entry.2)) = false) :
    (TargetingConfig.legacy entries operator).SaysAs env (enhancedOf entries operator) := by
  refine ⟨?_, ?_⟩
  · constructor
    · intro h criterion hcriterion
      obtain ⟨entry, hentry, rfl⟩ := mem_legacyCriteria.mp hcriterion
      exact (legacyCriterion_resolvable (hnames entry hentry)).mpr (h entry hentry)
    · intro h entry hentry
      exact (legacyCriterion_resolvable (hnames entry hentry)).mp
        (h _ (mem_legacyCriteria.mpr ⟨entry, hentry, rfl⟩))
  · intro hresolved a
    have hsome : dictionaryCriteria (legacyValues entries false) (legacyValues entries true)
        ≠ [] := by
      obtain ⟨entry, hentry⟩ := List.exists_mem_of_ne_nil entries hne
      exact List.ne_nil_of_mem (mem_legacyCriteria.mpr ⟨entry, hentry, rfl⟩)
    rw [TargetingConfig.Means, enhancedOf, TargetingConfig.Means, imp_iff_right hsome,
      Connective.holds_image (fun criterion => mem_legacyCriteria)]
    exact Connective.holds_congr fun entry hentry =>
      (legacyCriterion_means (hnames entry hentry) (hresolved entry hentry).2).symm

theorem counts_of_dictionary
    {included excluded : List (String × List Json)}
    (hkeys : ∀ entry ∈ included ++ excluded, entry.1 ≠ "")
    {criterion : Criterion}
    (h : criterion ∈ dictionaryCriteria included excluded) :
    criterion.counts = true := by
  have hcounts : ∀ (entry : String × List Json) (exclude : Bool), entry.1 ≠ "" →
      (! entry.2.isEmpty) = true → (Criterion.mk (.str entry.1) entry.2 exclude).counts = true := by
    intro entry exclude hkey hvalues
    rw [Criterion.counts, hvalues, Bool.and_true]
    exact decide_eq_true hkey
  rcases List.mem_append.mp h with hincluded | hexcluded
  · obtain ⟨entry, hentry, rfl⟩ := List.mem_map.mp hincluded
    obtain ⟨hmem, hvalues⟩ := List.mem_filter.mp hentry
    exact hcounts entry _ (hkeys entry (List.mem_append_left _ hmem)) hvalues
  · obtain ⟨entry, hentry, rfl⟩ := List.mem_map.mp hexcluded
    obtain ⟨hmem, hvalues⟩ := List.mem_filter.mp hentry
    exact hcounts entry _ (hkeys entry (List.mem_append_right _ hmem)) hvalues

theorem mem_countingGroups
    {parts : List (List Criterion)}
    (hcounts : ∀ group ∈ parts, ∀ criterion ∈ group, criterion.counts = true)
    {group : List Criterion} :
    group ∈ countingGroups parts ↔ group ∈ parts ∧ group ≠ [] := by
  rw [countingGroups, List.mem_filter, Bool.not_eq_true', List.isEmpty_eq_false_iff,
    List.map_congr_left (fun part hpart => List.filter_eq_self.mpr (hcounts part hpart)),
    List.map_id']

/-- Dictionaries with keys say as much as their groups. -/
theorem enhanced_saysAs_groups
    {included excluded : List (String × List Json)} {operator : Connective}
    (hkeys : ∀ entry ∈ included ++ excluded, entry.1 ≠ "") :
    (TargetingConfig.enhanced included excluded operator).SaysAs env
      (groupsOf included excluded operator) := by
  have hcounts := fun criterion => @counts_of_dictionary included excluded hkeys criterion
  generalize hcriteria : dictionaryCriteria included excluded = criteria at hcounts
  cases operator with
  | all =>
      have hmem : ∀ group, group ∈ countingGroups [criteria] ↔ group = criteria ∧ group ≠ [] := by
        intro group
        rw [mem_countingGroups, List.mem_singleton]
        rintro group hgroup
        rw [List.mem_singleton.mp hgroup]
        exact hcounts
      refine ⟨?_, ?_⟩
      · rw [groupsOf, TargetingConfig.Resolvable, TargetingConfig.Resolvable, hcriteria]
        constructor
        · rintro h group hgroup
          rw [((hmem group).mp hgroup).1]
          exact h
        · intro h criterion hcriterion
          exact h criteria ((hmem criteria).mpr ⟨rfl, List.ne_nil_of_mem hcriterion⟩) criterion
            hcriterion
      · intro _ a
        rw [groupsOf, TargetingConfig.Means, TargetingConfig.Means, hcriteria]
        constructor
        · intro h hne
          obtain ⟨group, hgroup⟩ := List.exists_mem_of_ne_nil _ hne
          obtain ⟨rfl, hnonempty⟩ := (hmem group).mp hgroup
          exact ⟨group, hgroup, h hnonempty⟩
        · intro h hne
          have hkept := (hmem criteria).mpr ⟨rfl, hne⟩
          obtain ⟨group, hgroup, hall⟩ := h (List.ne_nil_of_mem hkept)
          rw [((hmem group).mp hgroup).1] at hall
          exact hall
  | any =>
      have hmem : ∀ group, group ∈ countingGroups (criteria.map fun criterion => [criterion])
          ↔ ∃ criterion ∈ criteria, group = [criterion] := by
        intro group
        rw [mem_countingGroups]
        · constructor
          · rintro ⟨hgroup, -⟩
            obtain ⟨criterion, hcriterion, rfl⟩ := List.mem_map.mp hgroup
            exact ⟨criterion, hcriterion, rfl⟩
          · rintro ⟨criterion, hcriterion, rfl⟩
            exact ⟨List.mem_map_of_mem hcriterion, List.cons_ne_nil _ _⟩
        · intro group hgroup criterion hcriterion
          obtain ⟨only, honly, rfl⟩ := List.mem_map.mp hgroup
          rw [List.mem_singleton.mp hcriterion]
          exact hcounts only honly
      refine ⟨?_, ?_⟩
      · rw [groupsOf, TargetingConfig.Resolvable, TargetingConfig.Resolvable, hcriteria]
        constructor
        · intro h group hgroup criterion hcriterion
          obtain ⟨only, honly, rfl⟩ := (hmem group).mp hgroup
          rw [List.mem_singleton.mp hcriterion]
          exact h only honly
        · intro h criterion hcriterion
          exact h [criterion] ((hmem _).mpr ⟨criterion, hcriterion, rfl⟩) criterion
            (List.mem_singleton.mpr rfl)
      · intro _ a
        rw [groupsOf, TargetingConfig.Means, TargetingConfig.Means, hcriteria]
        constructor
        · intro h hne
          obtain ⟨group, hgroup⟩ := List.exists_mem_of_ne_nil _ hne
          obtain ⟨first, hfirst, -⟩ := (hmem group).mp hgroup
          obtain ⟨criterion, hcriterion, hsays⟩ := h (List.ne_nil_of_mem hfirst)
          refine ⟨[criterion], (hmem _).mpr ⟨criterion, hcriterion, rfl⟩, ?_⟩
          rw [List.forall_mem_singleton]
          exact hsays
        · intro h hne
          obtain ⟨first, hfirst⟩ := List.exists_mem_of_ne_nil _ hne
          have hkept := (hmem [first]).mpr ⟨first, hfirst, rfl⟩
          obtain ⟨group, hgroup, hall⟩ := h (List.ne_nil_of_mem hkept)
          obtain ⟨criterion, hcriterion, rfl⟩ := (hmem group).mp hgroup
          exact ⟨criterion, hcriterion, hall criterion (List.mem_singleton.mpr rfl)⟩

/-- The built tree reaches whom the configuration says; a part that counts and cannot be resolved
refuses it; and formats that say the same agree. -/
theorem custom_targeting_meaning
    (env : ValueEnv) :
    (∀ config fields, TargetingConfig.WrittenAs fields config →
      ((config.build env fields).isSome ↔ config.Resolvable env)
        ∧ ∀ built, config.build env fields = some built →
          ∀ a, built.Reaches a ↔ config.Means env a)
      ∧ (∀ entries operator, entries ≠ [] →
        (∀ entry ∈ entries, env.isDigit (env.text (.str entry.2)) = false) →
        (TargetingConfig.legacy entries operator).Agree env (enhancedOf entries operator))
      ∧ (∀ included excluded operator,
        (∀ entry ∈ included ++ excluded, entry.1 ≠ "") →
        (TargetingConfig.enhanced included excluded operator).Agree env
          (groupsOf included excluded operator))
      ∧ ∀ entries operator, entries ≠ [] →
        (∀ entry ∈ entries, env.isDigit (env.text (.str entry.2)) = false) →
        (∀ entry ∈ entries, (legacyKey entry.1).1 ≠ "") →
        (TargetingConfig.legacy entries operator).Agree env
          (groupsOf (legacyValues entries false) (legacyValues entries true) operator) := by
  refine ⟨?_, ?_, ?_, ?_⟩
  · intro config fields hwritten
    refine ⟨isSome_build hwritten, ?_⟩
    intro built hbuilt a
    exact build_holds hwritten hbuilt
  · intro entries operator hne hnames
    exact (legacy_saysAs_enhanced hne hnames).agree
  · intro included excluded operator hkeys
    exact (enhanced_saysAs_groups hkeys).agree
  · intro entries operator hne hnames hkeys
    refine ((legacy_saysAs_enhanced hne hnames).trans (enhanced_saysAs_groups ?_)).agree
    intro entry hentry
    rcases List.mem_append.mp hentry with hmem | hmem
    · obtain ⟨field, hfield, rfl⟩ := List.mem_map.mp hmem
      exact hkeys field (List.mem_of_mem_filter hfield)
    · obtain ⟨field, hfield, rfl⟩ := List.mem_map.mp hmem
      exact hkeys field (List.mem_of_mem_filter hfield)

/-- The value of decimal digits. -/
def decimalValue
    (text : String) : Int :=
  text.toList.foldl (fun value digit => value * 10 + (digit.toNat - 48)) 0

/-- Texts whose names all have one value. -/
def sampleEnv : ValueEnv where
  isDigit text := ! text.toList.isEmpty && text.toList.all Char.isDigit
  text
    | .str text => text
    | _ => ""
  int
    | .str text => some (decimalValue text)
    | _ => none
  getOrCreateValue _ _ := some 900

/-- A group of two criteria, one of them without values. -/
def halfEmptyGroup : List Criterion :=
  [⟨.str "111", [.str "1"], false⟩, ⟨.str "222", [], false⟩]

/-- The dictionary that writes it. -/
def halfEmptyFields : List (String × Json) :=
  [("groups", .arr [.obj [("criteria", .arr
    [.obj [("keyId", .str "111"), ("values", .arr [.str "1"])],
      .obj [("keyId", .str "222"), ("values", .arr [])]])]])]

theorem halfEmptyFields_writtenAs :
    (TargetingConfig.groups [halfEmptyGroup]).WrittenAs halfEmptyFields := by
  refine ⟨_, rfl, .cons ⟨_, _, rfl, rfl, ?_⟩ .nil⟩
  exact .cons ⟨_, rfl, rfl, rfl, rfl⟩ (.cons ⟨_, rfl, rfl, rfl, rfl⟩ .nil)

/-- A criterion without values is dropped: the targeting reaches requests that the group as written
excludes. -/
theorem custom_targeting_without_values_widens :
    (TargetingConfig.groups [halfEmptyGroup]).WrittenAs halfEmptyFields
      ∧ ∃ built, (TargetingConfig.groups [halfEmptyGroup]).build sampleEnv halfEmptyFields
          = some built
        ∧ built.Reaches (fun keyId id => keyId = 111 ∧ id = 1)
        ∧ ¬ ∃ group ∈ [halfEmptyGroup], ∀ criterion ∈ group,
          criterion.Says sampleEnv (fun keyId id => keyId = 111 ∧ id = 1) := by
  refine ⟨halfEmptyFields_writtenAs,
    .tree (.node (.str "OR") [.node (.str "AND") [.leaf ⟨111, false, [1]⟩]]), rfl, ?_, ?_⟩
  · exact .inl ⟨⟨1, List.mem_singleton.mpr rfl, rfl, rfl⟩, trivial⟩
  · rintro ⟨group, hgroup, hall⟩
    rw [List.mem_singleton.mp hgroup] at hall
    obtain ⟨keyId, -, value, hvalue, -⟩ :=
      hall ⟨.str "222", [], false⟩ (List.mem_cons_of_mem _ (List.mem_singleton.mpr rfl))
    exact absurd hvalue List.not_mem_nil

/-- A name to include and one to exclude, in all three formats. -/
theorem custom_targeting_meaning_names :
    ((TargetingConfig.legacy [("111", "sports"), ("NOT_222", "adult")] .all).build sampleEnv
        [("111", .str "sports"), ("NOT_222", .str "adult")]).isSome
      ∧ (TargetingConfig.legacy [("111", "sports"), ("NOT_222", "adult")] .all).Agree sampleEnv
        (enhancedOf [("111", "sports"), ("NOT_222", "adult")] .all)
      ∧ (TargetingConfig.enhanced [("111", [.str "sports"])] [("222", [.str "adult"])] .all).Agree
        sampleEnv
        (.groups [[⟨.str "111", [.str "sports"], false⟩, ⟨.str "222", [.str "adult"], true⟩]]) := by
  obtain ⟨hbuild, hlegacy, henhanced, -⟩ := custom_targeting_meaning sampleEnv
  have hwritten : (TargetingConfig.legacy [("111", "sports"), ("NOT_222", "adult")] .all).WrittenAs
      [("111", .str "sports"), ("NOT_222", .str "adult")] := ⟨rfl, by decide⟩
  have hresolvable : (TargetingConfig.legacy [("111", "sports"), ("NOT_222", "adult")]
      .all).Resolvable sampleEnv := by
    rw [TargetingConfig.Resolvable]
    decide
  refine ⟨?_, ?_, ?_⟩
  · exact (hbuild _ _ hwritten).1.mpr hresolvable
  · exact hlegacy [("111", "sports"), ("NOT_222", "adult")] .all (List.cons_ne_nil _ _) (by decide)
  · exact henhanced [("111", [.str "sports"])] [("222", [.str "adult"])] .all (by decide)

end Conclusions

end Gam
end SalesAgent
