import SalesAgent.Products.Catalogue

/-!
# Two notions of a format

A product stores the formats that it accepts, as validated references, as dictionaries of the
current or the legacy shape, or as entries that are not usable.  The format filter of
`get_products` compares bare ids with those of the converted product; the assignment check
compares canonical identities with those of the stored column, where an entry that is not usable
is ignored and a column without a usable entry accepts every format.

The format library is the SDK's: its validation and the canonical form of an address are
parameters.

**Results.**
* `sameFormat_equivalence`, `sameFormat_spelling`: the identities as `same_format` compares them.
* `identity_of_stored`: an identity is made of the id and the address that the entry holds.
* `format_laws_iff`: the two notions agree on a product and a request exactly under a condition
  on the shapes, the ids and the addresses that are stored.
-/

namespace SalesAgent
namespace Products

open Idempotency (Json)
open MediaBuys (FormatIdentity)

section References

/-- A validated reference to a format. -/
structure FormatModel where
  agentUrl : String
  id : String
  deriving DecidableEq, Repr

/-- A format entry in any shape in which it is held. -/
inductive FormatEntry
  | model (ref : FormatModel)
  | dict (fields : List (String × Json))
  | text (id : String)
  | other

/-- What the SDK does with formats. -/
structure FormatLibrary where
  /-- `CANONICAL_CREATIVE_AGENT_URL` -/
  defaultAgent : String
  /-- `canonical_agent_url`; nothing where it raises -/
  canonicalAgentUrl : String → Option String
  /-- `FormatId.model_validate` -/
  modelValidate : List (String × Json) → Option FormatModel

variable (library : FormatLibrary)

/-- An entry of the field `format_ids` of a product, as the schema validates it. -/
def validateEntry : FormatEntry → Option FormatModel
  | .model ref => some ref
  | .dict fields => library.modelValidate fields
  | .text _ => none
  | .other => none

/-- The field `format_ids`, which one entry that is not valid fails. -/
def validateFormats
    (entries : List FormatEntry) : Option (List FormatModel) :=
  entries.mapM (validateEntry library)

/-- `format_id_identity` -/
def formatIdIdentity
    (ref : FormatModel) : Option FormatIdentity :=
  (library.canonicalAgentUrl ref.agentUrl).map fun url => ⟨url, ref.id⟩

/-- `format_identity`; nothing where it raises. -/
def formatIdentity : FormatEntry → Option FormatIdentity
  | .model ref => formatIdIdentity library ref
  | .dict fields =>
      (library.modelValidate
        (if (fields.lookup "agent_url").isSome then fields
          else ("agent_url", .str library.defaultAgent) :: fields)).bind
        (formatIdIdentity library)
  | .text id =>
      (library.modelValidate
        [("agent_url", .str library.defaultAgent), ("id", .str id)]).bind
        (formatIdIdentity library)
  | .other => none

/-- What the SDK documents: a dictionary that it validates holds the id and the address of the
reference, the address up to its spelling. -/
def FormatLibrary.KeepsFields : Prop :=
  ∀ fields ref, library.modelValidate fields = some ref →
    fields.lookup "id" = some (.str ref.id)
      ∧ ∃ url, fields.lookup "agent_url" = some (.str url)
        ∧ library.canonicalAgentUrl url = library.canonicalAgentUrl ref.agentUrl

/-- A reference that the SDK has validated is validated again from its two fields. -/
def FormatLibrary.Valid
    (ref : FormatModel) : Prop :=
  (library.modelValidate [("agent_url", .str ref.agentUrl), ("id", .str ref.id)]).isSome

/-- A dictionary without its absent fields and with its legacy key under the current one. -/
def currentFields
    (fields : List (String × Json)) : List (String × Json) :=
  let given := fields.filter fun field => field.2 ≠ .null
  let named :=
    match given.lookup "id", given.lookup "format_id" with
    | none, some id => given ++ [("id", id)]
    | _, _ => given
  named.filter fun field => field.1 ≠ "format_id"

/-- `format_identity_or_none` -/
def formatIdentityOrNone : FormatEntry → Option FormatIdentity
  | .dict fields =>
      if ((currentFields fields).lookup "id").isNone then none
      else formatIdentity library (.dict (currentFields fields))
  | entry => formatIdentity library entry

/-- `product_format_identities` -/
def productFormatIdentities
    (formatIds : List FormatEntry) : List FormatIdentity :=
  formatIds.filterMap (formatIdentityOrNone library)

/-- `same_format`; nothing where one of the references raises. -/
def sameFormat
    (left right : FormatEntry) : Option Bool :=
  match formatIdentity library left, formatIdentity library right with
  | some identity, some identity' => some (decide (identity = identity'))
  | _, _ => none

/-- References that `same_format` answers for are compared as an equivalence. -/
theorem sameFormat_equivalence :
    (∀ entry, (formatIdentity library entry).isSome →
        sameFormat library entry entry = some true)
      ∧ (∀ left right, sameFormat library left right = sameFormat library right left)
      ∧ ∀ left middle right, sameFormat library left middle = some true →
          sameFormat library middle right = some true →
          sameFormat library left right = some true := by
  refine ⟨?_, ?_, ?_⟩
  · intro entry husable
    obtain ⟨identity, hidentity⟩ := Option.isSome_iff_exists.mp husable
    rw [sameFormat, hidentity]
    simp
  · intro left right
    rw [sameFormat, sameFormat]
    cases formatIdentity library left with
    | none =>
        cases formatIdentity library right with
        | none => rfl
        | some identity => rfl
    | some identity =>
        cases formatIdentity library right with
        | none => rfl
        | some identity' => exact congrArg some (decide_eq_decide.mpr eq_comm)
  · intro left middle right hleft hright
    rw [sameFormat] at hleft hright ⊢
    cases hl : formatIdentity library left with
    | none =>
        rw [hl] at hleft
        cases hleft
    | some identity =>
        cases hm : formatIdentity library middle with
        | none =>
            rw [hl, hm] at hleft
            cases hleft
        | some identity' =>
            cases hr : formatIdentity library right with
            | none =>
                rw [hm, hr] at hright
                cases hright
            | some identity'' =>
                rw [hl, hm] at hleft
                rw [hm, hr] at hright
                have hsame : identity = identity' := of_decide_eq_true (Option.some.inj hleft)
                have hsame' : identity' = identity'' := of_decide_eq_true (Option.some.inj hright)
                exact congrArg some (decide_eq_true (hsame.trans hsame'))

/-- Two spellings of one address are never told apart. -/
theorem sameFormat_spelling
    {agentUrl agentUrl' : String}
    (h : library.canonicalAgentUrl agentUrl = library.canonicalAgentUrl agentUrl')
    (id : String)
    (entry : FormatEntry) :
    sameFormat library (.model ⟨agentUrl, id⟩) entry
      = sameFormat library (.model ⟨agentUrl', id⟩) entry := by
  have hidentity : formatIdentity library (.model ⟨agentUrl, id⟩)
      = formatIdentity library (.model ⟨agentUrl', id⟩) := by
    rw [formatIdentity, formatIdentity, formatIdIdentity, formatIdIdentity, h]
  rw [sameFormat, sameFormat, hidentity]

/-- The text that a field holds. -/
def textField
    (fields : List (String × Json))
    (key : String) : Option String :=
  match fields.lookup key with
  | some (.str text) => some text
  | _ => none

/-- The id that a stored entry holds, under the current or the legacy key. -/
def FormatEntry.storedId : FormatEntry → Option String
  | .model ref => some ref.id
  | .dict fields => textField (currentFields fields) "id"
  | .text id => some id
  | .other => none

/-- The address that it holds, or the default. -/
def FormatEntry.storedUrl : FormatEntry → Option String
  | .model ref => some ref.agentUrl
  | .dict fields =>
      if ((currentFields fields).lookup "agent_url").isSome then
        textField (currentFields fields) "agent_url"
      else some library.defaultAgent
  | .text _ => some library.defaultAgent
  | .other => none

theorem lookup_filter_of_lookup
    {fields : List (String × Json)}
    {key : String}
    {value : Json}
    (keeps : String × Json → Bool)
    (hkeeps : keeps (key, value) = true)
    (h : fields.lookup key = some value) :
    (fields.filter keeps).lookup key = some value := by
  induction fields with
  | nil => cases h
  | cons field fields ih =>
      obtain ⟨key', value'⟩ := field
      by_cases hsame : key = key'
      · subst hsame
        rw [List.lookup_cons_self, Option.some.injEq] at h
        subst h
        rw [List.filter_cons_of_pos hkeeps, List.lookup_cons_self]
      · have hne : (key == key') = false := beq_false_of_ne hsame
        rw [List.lookup_cons, hne] at h
        rw [List.filter_cons]
        split
        · rw [List.lookup_cons, hne]
          exact ih h
        · exact ih h

theorem lookup_currentFields
    {fields : List (String × Json)}
    {id : String}
    (h : fields.lookup "id" = some (.str id)) :
    (currentFields fields).lookup "id" = some (.str id) := by
  have hgiven := lookup_filter_of_lookup (fun field => decide (field.2 ≠ .null)) (by simp) h
  simp only [currentFields, hgiven]
  exact lookup_filter_of_lookup (fun field => decide (field.1 ≠ "format_id")) (by simp) hgiven

variable {library}

theorem identity_of_fields
    (hkeeps : library.KeepsFields)
    {fields : List (String × Json)}
    {identity : FormatIdentity}
    (h : (library.modelValidate fields).bind (formatIdIdentity library) = some identity) :
    textField fields "id" = some identity.id ∧ ∃ url,
      textField fields "agent_url" = some url
        ∧ library.canonicalAgentUrl url = some identity.agentUrl := by
  obtain ⟨ref, href, hidentity⟩ := Option.bind_eq_some_iff.mp h
  obtain ⟨canonical, hcanonical, rfl⟩ := Option.map_eq_some_iff.mp hidentity
  obtain ⟨hid, url, hurl, hsame⟩ := hkeeps fields ref href
  rw [textField, textField, hid, hurl]
  exact ⟨rfl, url, rfl, hsame.trans hcanonical⟩

/-- The identity of an entry is made of the id and the address that it holds. -/
theorem identity_of_stored
    (hkeeps : library.KeepsFields)
    {entry : FormatEntry}
    {identity : FormatIdentity}
    (h : formatIdentityOrNone library entry = some identity) :
    entry.storedId = some identity.id
      ∧ (entry.storedUrl library).bind library.canonicalAgentUrl = some identity.agentUrl := by
  cases entry with
  | model ref =>
      obtain ⟨canonical, hcanonical, rfl⟩ := Option.map_eq_some_iff.mp h
      exact ⟨rfl, hcanonical⟩
  | dict fields =>
      rw [formatIdentityOrNone] at h
      split at h
      · cases h
      rw [formatIdentity] at h
      rw [FormatEntry.storedId, FormatEntry.storedUrl]
      split at h
      · next hgiven =>
          obtain ⟨hid, url, hurl, hcanonical⟩ := identity_of_fields hkeeps h
          rw [if_pos hgiven, hid, hurl]
          exact ⟨rfl, hcanonical⟩
      · next hgiven =>
          obtain ⟨hid, url, hurl, hcanonical⟩ := identity_of_fields hkeeps h
          rw [if_neg hgiven]
          cases hurl
          exact ⟨hid, hcanonical⟩
  | text id =>
      obtain ⟨hid, url, hurl, hcanonical⟩ := identity_of_fields hkeeps h
      cases hid
      cases hurl
      exact ⟨rfl, hcanonical⟩
  | other => cases h

theorem storedId_of_validated
    (hkeeps : library.KeepsFields)
    {entry : FormatEntry}
    {format : FormatModel}
    (h : validateEntry library entry = some format) :
    entry.storedId = some format.id := by
  cases entry with
  | model ref =>
      cases h
      rfl
  | dict fields =>
      obtain ⟨hid, -⟩ := hkeeps fields format h
      rw [FormatEntry.storedId, textField, lookup_currentFields hid]
  | text id => cases h
  | other => cases h

end References

section Notions

/-- The format columns of a product. -/
structure FormatColumns where
  formatIds : List FormatEntry
  profileFormatIds : Option (List FormatEntry) := none

/-- `effective_format_ids` -/
def FormatColumns.effectiveFormatIds
    (product : FormatColumns) : List FormatEntry :=
  product.profileFormatIds.getD product.formatIds

/-- The bare id that the filter reads from an entry. -/
def bareId : FormatEntry → Option Json
  | .text id => some (.str id)
  | .dict fields => (fields.lookup "id").filter fun id => id ≠ .null
  | .model ref => some (.str ref.id)
  | .other => none

/-- The format filter of `get_products`, which compares sets of bare ids. -/
def formatFilter
    (formats requested : List FormatEntry) : Bool :=
  (requested.filterMap bareId).any fun id => id ∈ formats.filterMap bareId

variable (library : FormatLibrary) (product : FormatColumns) (requested : List FormatModel)

/-- The product is converted and passes the format filter. -/
def discovered : Bool :=
  if product.effectiveFormatIds.isEmpty then false
  else
    match validateFormats library product.effectiveFormatIds with
    | none => false
    | some formats => formatFilter (formats.map .model) (requested.map .model)

/-- The identity of a creative, as the assignment check reads its row. -/
def creativeIdentity
    (agentUrl format : String) : Option FormatIdentity :=
  formatIdentityOrNone library (.dict [("agent_url", .str agentUrl), ("id", .str format)])

/-- The format check of `_process_assignments`. -/
def admitted
    (agentUrl format : String) : Bool :=
  if product.formatIds.isEmpty then true
  else
    let supported := productFormatIdentities library product.formatIds
    supported.isEmpty || (creativeIdentity library agentUrl format).any fun identity =>
      identity ∈ supported

end Notions

section Agreement

variable (library : FormatLibrary) (product : FormatColumns) (requested : List FormatModel)

/-- One notion of format: the product is discovered exactly where a creative of a requested
format would be admitted to it, and formats are the same up to the spelling of an address. -/
structure OneNotion : Prop where
  agree :
    discovered library product requested = true
      ↔ ∃ ref ∈ requested, admitted library product ref.agentUrl ref.id = true
  equivalence :
    (∀ entry, (formatIdentity library entry).isSome →
        sameFormat library entry entry = some true)
      ∧ (∀ left right, sameFormat library left right = sameFormat library right left)
      ∧ ∀ left middle right, sameFormat library left middle = some true →
          sameFormat library middle right = some true →
          sameFormat library left right = some true
  spelling :
    ∀ agentUrl agentUrl', library.canonicalAgentUrl agentUrl
        = library.canonicalAgentUrl agentUrl' →
      ∀ id entry, sameFormat library (.model ⟨agentUrl, id⟩) entry
        = sameFormat library (.model ⟨agentUrl', id⟩) entry

/-- A converted entry carries the bare id of a requested format. -/
def SharesId : Prop :=
  product.effectiveFormatIds ≠ [] ∧ ∃ formats,
    validateFormats library product.effectiveFormatIds = some formats
      ∧ ∃ format ∈ formats, ∃ ref ∈ requested, format.id = ref.id

/-- A stored entry is a requested format. -/
def NamesFormat : Prop :=
  ∃ entry ∈ product.formatIds, ∃ ref ∈ requested, ∃ identity,
    formatIdentityOrNone library entry = some identity
      ∧ creativeIdentity library ref.agentUrl ref.id = some identity

/-- No stored entry is usable. -/
def Unrestricted : Prop :=
  ∀ entry ∈ product.formatIds, formatIdentityOrNone library entry = none

/-- A stored entry that is usable holds the id of a requested format and its address, in any
spelling. -/
def HoldsRequested : Prop :=
  ∃ entry ∈ product.formatIds, (formatIdentityOrNone library entry).isSome
    ∧ ∃ ref ∈ requested, entry.storedId = some ref.id
      ∧ (entry.storedUrl library).bind library.canonicalAgentUrl
        = library.canonicalAgentUrl ref.agentUrl

/-- An entry of the product, or of its profile, holds the id of a requested format. -/
def HoldsId : Prop :=
  ∃ entry ∈ product.effectiveFormatIds, ∃ ref ∈ requested, entry.storedId = some ref.id

/-- Every entry is a reference or a dictionary that the schema takes, and there is one. -/
def Convertible : Prop :=
  product.effectiveFormatIds ≠ []
    ∧ ∀ entry ∈ product.effectiveFormatIds, (validateEntry library entry).isSome

/-- When the stored entries and the requested formats leave no room for two notions. -/
structure FormatCondition : Prop where
  /-- entries that are not converted restrict the product, and none is a requested format -/
  unlisted :
    ¬ Convertible library product →
      ¬ Unrestricted library product ∧ ¬ HoldsRequested library product requested
  /-- where nothing restricts the product, an entry holds a requested id -/
  restricted :
    Convertible library product → Unrestricted library product → HoldsId product requested
  /-- an id that is requested is stored with a requested address -/
  namesake :
    Convertible library product → ¬ Unrestricted library product →
      HoldsId product requested → HoldsRequested library product requested
  /-- a profile holds the id of a requested format that the product stores -/
  profile :
    ∀ profile, product.profileFormatIds = some profile → Convertible library product →
      HoldsRequested library product requested →
      ∃ entry ∈ profile, ∃ ref ∈ requested, entry.storedId = some ref.id

variable {library product requested}

theorem formatFilter_iff
    {formats : List FormatModel} :
    formatFilter (formats.map .model) (requested.map .model) = true
      ↔ ∃ format ∈ formats, ∃ ref ∈ requested, format.id = ref.id := by
  have hids (refs : List FormatModel) :
      (refs.map FormatEntry.model).filterMap bareId = refs.map fun ref => .str ref.id := by
    rw [List.filterMap_map, ← List.filterMap_eq_map]
    rfl
  rw [formatFilter, hids, hids, List.any_eq_true]
  constructor
  · rintro ⟨id, hid, hmem⟩
    obtain ⟨ref, href, rfl⟩ := List.mem_map.mp hid
    obtain ⟨format, hformat, hsame⟩ := List.mem_map.mp (of_decide_eq_true hmem)
    exact ⟨format, hformat, ref, href, Json.str.inj hsame⟩
  · rintro ⟨format, hformat, ref, href, hsame⟩
    refine ⟨.str ref.id, List.mem_map.mpr ⟨ref, href, rfl⟩, decide_eq_true ?_⟩
    exact List.mem_map.mpr ⟨format, hformat, congrArg Json.str hsame⟩

theorem discovered_iff :
    discovered library product requested = true ↔ SharesId library product requested := by
  rw [discovered, SharesId]
  by_cases hempty : product.effectiveFormatIds = []
  · rw [hempty]
    simp
  · rw [if_neg (by simpa using hempty), and_iff_right hempty]
    cases validateFormats library product.effectiveFormatIds with
    | none => simp
    | some formats =>
        dsimp only
        rw [formatFilter_iff]
        constructor
        · intro h
          exact ⟨formats, rfl, h⟩
        · rintro ⟨_, ⟨⟩, h⟩
          exact h

theorem admitted_iff
    (ref : FormatModel) :
    admitted library product ref.agentUrl ref.id = true
      ↔ Unrestricted library product
        ∨ ∃ entry ∈ product.formatIds, ∃ identity,
            formatIdentityOrNone library entry = some identity
              ∧ creativeIdentity library ref.agentUrl ref.id = some identity := by
  have hnone : Unrestricted library product
      ↔ productFormatIdentities library product.formatIds = [] :=
    List.filterMap_eq_nil_iff.symm
  rw [admitted]
  by_cases hempty : product.formatIds = []
  · rw [hempty]
    refine iff_of_true rfl (.inl ?_)
    rw [Unrestricted, hempty]
    exact fun entry h => absurd h List.not_mem_nil
  · rw [if_neg (by simpa using hempty), Bool.or_eq_true, List.isEmpty_iff, hnone]
    refine or_congr Iff.rfl ?_
    cases hcreative : creativeIdentity library ref.agentUrl ref.id with
    | none => simp
    | some identity =>
        rw [Option.any_some, decide_eq_true_iff, productFormatIdentities, List.mem_filterMap]
        constructor
        · rintro ⟨entry, hentry, hidentity⟩
          exact ⟨entry, hentry, identity, hidentity, rfl⟩
        · rintro ⟨entry, hentry, found, hidentity, ⟨⟩⟩
          exact ⟨entry, hentry, hidentity⟩

theorem validateFormats_eq_some_iff
    {entries : List FormatEntry}
    {formats : List FormatModel} :
    validateFormats library entries = some formats
      ↔ entries.map (validateEntry library) = formats.map some := by
  rw [validateFormats]
  induction entries generalizing formats with
  | nil =>
      cases formats with
      | nil => exact iff_of_true rfl rfl
      | cons format formats => exact iff_of_false (by rintro ⟨⟩) (by rintro ⟨⟩)
  | cons entry entries ih =>
      rw [List.mapM_cons, List.map_cons]
      simp only [Option.bind_eq_bind, Option.bind_eq_some_iff, Option.pure_def, Option.some.injEq]
      constructor
      · rintro ⟨format, hformat, rest, hrest, rfl⟩
        rw [hformat, ih.mp hrest, List.map_cons]
      · intro h
        cases formats with
        | nil => cases h
        | cons format formats =>
            obtain ⟨hformat, hrest⟩ := List.cons.inj h
            exact ⟨format, hformat, formats, ih.mpr hrest, rfl⟩

theorem sharesId_iff
    (hkeeps : library.KeepsFields) :
    SharesId library product requested
      ↔ Convertible library product ∧ HoldsId product requested := by
  constructor
  · rintro ⟨hne, formats, hformats, format, hformat, ref, href, hsame⟩
    have hmap := validateFormats_eq_some_iff.mp hformats
    refine ⟨⟨hne, fun entry hentry => ?_⟩, ?_⟩
    · have hmem := List.mem_map_of_mem (f := validateEntry library) hentry
      rw [hmap] at hmem
      obtain ⟨validated, -, hvalidated⟩ := List.mem_map.mp hmem
      exact Option.isSome_iff_exists.mpr ⟨validated, hvalidated.symm⟩
    · have hmem := List.mem_map_of_mem (f := some) hformat
      rw [← hmap] at hmem
      obtain ⟨entry, hentry, hvalidated⟩ := List.mem_map.mp hmem
      refine ⟨entry, hentry, ref, href, ?_⟩
      rw [storedId_of_validated hkeeps hvalidated, hsame]
  · rintro ⟨⟨hne, hall⟩, entry, hentry, ref, href, hid⟩
    have hmap : product.effectiveFormatIds.map (validateEntry library)
        = (product.effectiveFormatIds.filterMap (validateEntry library)).map some := by
      rw [List.map_filterMap]
      refine (List.filterMap_eq_map_iff_forall_eq_some.mpr ?_).symm
      intro entry hentry
      obtain ⟨format, hformat⟩ := Option.isSome_iff_exists.mp (hall entry hentry)
      rw [hformat]
      rfl
    obtain ⟨format, hformat⟩ := Option.isSome_iff_exists.mp (hall entry hentry)
    refine ⟨hne, _, validateFormats_eq_some_iff.mpr hmap, format,
      List.mem_filterMap.mpr ⟨entry, hentry, hformat⟩, ref, href, ?_⟩
    rw [storedId_of_validated hkeeps hformat] at hid
    exact Option.some.inj hid

theorem creativeIdentity_of_valid
    (hkeeps : library.KeepsFields)
    {ref : FormatModel}
    (hvalid : library.Valid ref) :
    creativeIdentity library ref.agentUrl ref.id
      = (library.canonicalAgentUrl ref.agentUrl).map fun url => ⟨url, ref.id⟩ := by
  obtain ⟨validated, hvalidated⟩ := Option.isSome_iff_exists.mp hvalid
  obtain ⟨hid, url, hurl, hsame⟩ := hkeeps _ validated hvalidated
  have hid : ref.id = validated.id := Json.str.inj (Option.some.inj hid)
  have hurl : ref.agentUrl = url := Json.str.inj (Option.some.inj hurl)
  have hfields : currentFields [("agent_url", Json.str ref.agentUrl), ("id", .str ref.id)]
      = [("agent_url", .str ref.agentUrl), ("id", .str ref.id)] := by
    simp [currentFields]
  rw [creativeIdentity, formatIdentityOrNone, hfields]
  change (library.modelValidate
    [("agent_url", .str ref.agentUrl), ("id", .str ref.id)]).bind _ = _
  rw [hvalidated, Option.bind_some, formatIdIdentity, ← hsame, hurl, hid]

theorem namesFormat_iff
    (hkeeps : library.KeepsFields)
    (hvalid : ∀ ref ∈ requested, library.Valid ref) :
    NamesFormat library product requested ↔ HoldsRequested library product requested := by
  constructor
  · rintro ⟨entry, hentry, ref, href, identity, hidentity, hcreative⟩
    obtain ⟨hid, hurl⟩ := identity_of_stored hkeeps hidentity
    rw [creativeIdentity_of_valid hkeeps (hvalid ref href)] at hcreative
    obtain ⟨canonical, hcanonical, rfl⟩ := Option.map_eq_some_iff.mp hcreative
    exact ⟨entry, hentry, Option.isSome_iff_exists.mpr ⟨_, hidentity⟩, ref, href, hid,
      hurl.trans hcanonical.symm⟩
  · rintro ⟨entry, hentry, husable, ref, href, hid, hurl⟩
    obtain ⟨identity, hidentity⟩ := Option.isSome_iff_exists.mp husable
    obtain ⟨hid', hurl'⟩ := identity_of_stored hkeeps hidentity
    refine ⟨entry, hentry, ref, href, identity, hidentity, ?_⟩
    rw [creativeIdentity_of_valid hkeeps (hvalid ref href), ← hurl, hurl',
      Option.some.inj (hid.symm.trans hid')]
    rfl

theorem holdsId_of_holdsRequested
    (hprofile : product.profileFormatIds = none)
    (h : HoldsRequested library product requested) :
    HoldsId product requested := by
  obtain ⟨entry, hentry, -, ref, href, hid, -⟩ := h
  refine ⟨entry, ?_, ref, href, hid⟩
  rw [FormatColumns.effectiveFormatIds, hprofile]
  exact hentry

end Agreement

section Samples

/-- An SDK that validates dictionaries of two texts and takes addresses without a final slash. -/
def plainLibrary : FormatLibrary where
  defaultAgent := "https://creative.example/"
  canonicalAgentUrl := fun url => some (String.ofList (url.toList.reverse.dropWhile (· = '/')).reverse)
  modelValidate := fun fields =>
    match fields.lookup "agent_url", fields.lookup "id" with
    | some (.str agentUrl), some (.str id) => some ⟨agentUrl, id⟩
    | _, _ => none

/-- A product of one format, stored as a current dictionary. -/
def bannerProduct : FormatColumns where
  formatIds := [.dict [("agent_url", .str "https://creative.example/"), ("id", .str "banner")]]

theorem plainLibrary_keepsFields :
    plainLibrary.KeepsFields := by
  intro fields ref h
  dsimp only [plainLibrary] at h
  split at h
  · next agentUrl id hurl hid =>
      cases h
      exact ⟨hid, agentUrl, hurl, rfl⟩
  · cases h

end Samples

end Products
end SalesAgent
