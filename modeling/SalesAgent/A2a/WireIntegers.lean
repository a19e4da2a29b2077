import SalesAgent.Lib.SignificantBits

/-!
# Integers on the A2A wire

A result travels in a protobuf `Value`, which has no integers: every number becomes a
double.  The route puts integers back before the body leaves, at the members whose names it
knows to be typed integer, and only where the member itself is a whole number.

**Results.**
* `widen_restore`: putting integers back changes no number.
* `restore_widen_iff`: exactly which results arrive as they were.
* `restore_laws`: both, and that the route may be passed twice.
-/

namespace SalesAgent
namespace A2a

/-- A double, finite.  Exponents are not bounded here: the widening of an integer from
2 ^ 1024 on, which raises, has a value. -/
abbrev Double :=
  Binary 53

/-- What `json` reads: whole numbers and doubles are told apart. -/
inductive Document
  | null
  | bool (b : Bool)
  | int (n : Int)
  | float (x : Double)
  | str (text : String)
  | arr (items : List Document)
  | obj (members : List (String × Document))

/-- `A2A_WIRE_INTEGER_FIELDS` -/
def A2A_WIRE_INTEGER_FIELDS : List String :=
  ["replay_ttl_seconds", "limit", "returned_count", "revision", "interval",
    "attribution_window_days", "total_processed", "created", "updated", "unchanged", "failed",
    "deleted", "total_assignments_processed", "assigned", "unassigned", "total_impressions",
    "active_count", "impressions"]

mutual

/-- `MessageToDict` of `_dict_to_value`: every number is a double. -/
def widen : Document → Document
  | .null => .null
  | .bool b => .bool b
  | .int n => .float (Binary.ofInt n)
  | .float x => .float x
  | .str text => .str text
  | .arr items => .arr (widenItems items)
  | .obj members => .obj (widenMembers members)

/-- Its items. -/
def widenItems : List Document → List Document
  | [] => []
  | item :: rest => widen item :: widenItems rest

/-- Its members. -/
def widenMembers : List (String × Document) → List (String × Document)
  | [] => []
  | (name, value) :: rest => (name, widen value) :: widenMembers rest

end

/-- `isinstance(value, float) and value.is_integer()`, with its integer. -/
def wholeFloat : Document → Option Int
  | .float x => if x.isInteger then some x.toInt else none
  | _ => none

/-- The value of a named member: an integer that a double can hold, no whole double, and
anything else as elsewhere. -/
def SurvivesNamed
    (value : Document)
    (elsewhere : Prop) : Prop :=
  match value with
  | .int n => Fits 53 n.natAbs
  | .float x => x.isInteger = false
  | _ => elsewhere

section Restore

variable (integerFieldNames : List String)

mutual

/-- `restore_a2a_integer_types` -/
def restoreA2aIntegerTypes : Document → Document
  | .obj members => .obj (restoreMembers members)
  | .arr items => .arr (restoreItems items)
  | data => data

/-- The list it builds. -/
def restoreItems : List Document → List Document
  | [] => []
  | item :: rest => restoreA2aIntegerTypes item :: restoreItems rest

/-- The dictionary it builds. -/
def restoreMembers : List (String × Document) → List (String × Document)
  | [] => []
  | (key, value) :: rest =>
      (key,
        if key ∈ integerFieldNames then
          match wholeFloat value with
          | some n => .int n
          | none => restoreA2aIntegerTypes value
        else restoreA2aIntegerTypes value) :: restoreMembers rest

end

mutual

/-- The document holds integers as named members only, which a double can hold, and no named
member is a whole double. -/
def Survives : Document → Prop
  | .int _ => False
  | .arr items => SurvivesItems items
  | .obj members => SurvivesMembers members
  | _ => True

def SurvivesItems : List Document → Prop
  | [] => True
  | item :: rest => Survives item ∧ SurvivesItems rest

def SurvivesMembers : List (String × Document) → Prop
  | [] => True
  | (key, value) :: rest =>
      (if key ∈ integerFieldNames then SurvivesNamed value (Survives value) else Survives value) ∧
        SurvivesMembers rest

end

end Restore

/-- The body of `_restore_a2a_wire_integers`: a JSON response with its integers put back; any
other response is handed on. -/
def restoreA2aWireIntegers
    (body : Option Document) : Option Document :=
  body.map (restoreA2aIntegerTypes A2A_WIRE_INTEGER_FIELDS)

section Laws

variable {names : List String}

theorem wholeFloat_eq_some_iff
    (value : Document)
    (n : Int) :
    wholeFloat value = some n ↔ ∃ x, value = .float x ∧ x.isInteger = true ∧ x.toInt = n := by
  cases value with
  | float x =>
      by_cases h : x.isInteger = true
      · simp [wholeFloat, h]
      · simp [wholeFloat, h]
  | _ => simp [wholeFloat]

mutual

/-- Putting integers back changes no number. -/
theorem widen_restore : ∀ d : Document,
    widen (restoreA2aIntegerTypes names d) = widen d
  | .null => rfl
  | .bool _ => rfl
  | .int _ => rfl
  | .float _ => rfl
  | .str _ => rfl
  | .arr items => by
      simp only [restoreA2aIntegerTypes, widen, widenItems_restore items]
  | .obj members => by
      simp only [restoreA2aIntegerTypes, widen, widenMembers_restore members]

theorem widenItems_restore : ∀ items : List Document,
    widenItems (restoreItems names items) = widenItems items
  | [] => rfl
  | item :: rest => by
      simp only [restoreItems, widenItems, widen_restore item, widenItems_restore rest]

theorem widenMembers_restore : ∀ members : List (String × Document),
    widenMembers (restoreMembers names members) = widenMembers members
  | [] => rfl
  | (key, value) :: rest => by
      simp only [restoreMembers, widenMembers, widenMembers_restore rest]
      congr 2
      by_cases hkey : key ∈ names
      · rw [if_pos hkey]
        cases hwhole : wholeFloat value with
        | none => exact widen_restore value
        | some n =>
            obtain ⟨x, rfl, hinteger, rfl⟩ := (wholeFloat_eq_some_iff value n).mp hwhole
            change Document.float (Binary.ofInt x.toInt) = .float x
            rw [Binary.ofInt_toInt hinteger]
      · rw [if_neg hkey]
        exact widen_restore value

end

mutual

theorem restore_restore : ∀ d : Document,
    restoreA2aIntegerTypes names (restoreA2aIntegerTypes names d) =
      restoreA2aIntegerTypes names d
  | .null => rfl
  | .bool _ => rfl
  | .int _ => rfl
  | .float _ => rfl
  | .str _ => rfl
  | .arr items => by
      simp only [restoreA2aIntegerTypes, restoreItems_restore items]
  | .obj members => by
      simp only [restoreA2aIntegerTypes, restoreMembers_restore members]

theorem restoreItems_restore : ∀ items : List Document,
    restoreItems names (restoreItems names items) = restoreItems names items
  | [] => rfl
  | item :: rest => by
      simp only [restoreItems, restore_restore item, restoreItems_restore rest]

theorem restoreMembers_restore : ∀ members : List (String × Document),
    restoreMembers names (restoreMembers names members) = restoreMembers names members
  | [] => rfl
  | (key, value) :: rest => by
      simp only [restoreMembers, restoreMembers_restore rest]
      congr 2
      by_cases hkey : key ∈ names
      · simp only [if_pos hkey]
        cases hwhole : wholeFloat value with
        | some n => rfl
        | none =>
            -- a value that is no whole double does not become one
            have hkept : wholeFloat (restoreA2aIntegerTypes names value) = none := by
              cases value with
              | float x => exact hwhole
              | _ => rfl
            simp only [hkept]
            exact restore_restore value
      · simp only [if_neg hkey]
        exact restore_restore value

end

theorem restoreMember_widen_iff
    (key : String)
    (value : Document)
    (hvalue : restoreA2aIntegerTypes names (widen value) = value ↔ Survives names value) :
    (if key ∈ names then
        match wholeFloat (widen value) with
        | some n => .int n
        | none => restoreA2aIntegerTypes names (widen value)
      else restoreA2aIntegerTypes names (widen value)) = value ↔
      (if key ∈ names then SurvivesNamed value (Survives names value)
      else Survives names value) := by
  by_cases hkey : key ∈ names
  · simp only [if_pos hkey]
    cases value with
    | int n =>
        have hwhole : wholeFloat (widen (.int n)) = some (Binary.ofInt n : Double).toInt := by
          rw [widen, wholeFloat, if_pos (@Binary.isInteger_ofInt 53 _ n)]
        simp only [hwhole, Document.int.injEq]
        exact Binary.toInt_ofInt_eq_iff n
    | float x =>
        by_cases hinteger : x.isInteger = true
        · simp [widen, wholeFloat, SurvivesNamed, hinteger]
        · simp [widen, wholeFloat, SurvivesNamed, hinteger, restoreA2aIntegerTypes]
    | null => exact hvalue
    | bool b => exact hvalue
    | str text => exact hvalue
    | arr items => exact hvalue
    | obj members => exact hvalue
  · simp only [if_neg hkey]
    exact hvalue

mutual

/-- Exactly which documents arrive as they were. -/
theorem restore_widen_iff : ∀ d : Document,
    restoreA2aIntegerTypes names (widen d) = d ↔ Survives names d
  | .null => by simp [widen, restoreA2aIntegerTypes, Survives]
  | .bool _ => by simp [widen, restoreA2aIntegerTypes, Survives]
  | .int _ => by simp [widen, restoreA2aIntegerTypes, Survives]
  | .float _ => by simp [widen, restoreA2aIntegerTypes, Survives]
  | .str _ => by simp [widen, restoreA2aIntegerTypes, Survives]
  | .arr items => by
      simp only [widen, restoreA2aIntegerTypes, Survives, Document.arr.injEq]
      exact restoreItems_widen_iff items
  | .obj members => by
      simp only [widen, restoreA2aIntegerTypes, Survives, Document.obj.injEq]
      exact restoreMembers_widen_iff members

theorem restoreItems_widen_iff : ∀ items : List Document,
    restoreItems names (widenItems items) = items ↔ SurvivesItems names items
  | [] => by simp [widenItems, restoreItems, SurvivesItems]
  | item :: rest => by
      simp only [widenItems, restoreItems, SurvivesItems, List.cons.injEq]
      exact and_congr (restore_widen_iff item) (restoreItems_widen_iff rest)

theorem restoreMembers_widen_iff : ∀ members : List (String × Document),
    restoreMembers names (widenMembers members) = members ↔ SurvivesMembers names members
  | [] => by simp [widenMembers, restoreMembers, SurvivesMembers]
  | (key, value) :: rest => by
      simp only [widenMembers, restoreMembers, SurvivesMembers, List.cons.injEq, Prod.mk.injEq,
        true_and]
      exact and_congr (restoreMember_widen_iff key value (restore_widen_iff value))
        (restoreMembers_widen_iff rest)

end

end Laws

/-- What the route does to the numbers of any result: it changes none of them, passing it
twice is passing it once, and the result arrives as it was exactly where its integers are
named members that a double can hold and no named member is a whole double. -/
theorem restore_laws
    (names : List String)
    (d : Document) :
    widen (restoreA2aIntegerTypes names d) = widen d ∧
      restoreA2aIntegerTypes names (restoreA2aIntegerTypes names d) =
        restoreA2aIntegerTypes names d ∧
      (restoreA2aIntegerTypes names (widen d) = d ↔ Survives names d) :=
  ⟨widen_restore d, restore_restore d, restore_widen_iff d⟩

end A2a
end SalesAgent
