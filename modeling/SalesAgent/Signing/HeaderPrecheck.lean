import SalesAgent.Lib.StructuredFields
import SalesAgent.Signing.Verifier
import Mathlib.Data.List.DropRight
import Mathlib.Data.List.TakeWhile

/-!
# The header gate in front of the verifier

Before the signing library sees a signed request, a gate reads the raw header lines and
refuses the ambiguities a collapsed mapping would hide: a second line of a covered field, a
dictionary key or a digest algorithm that appears twice, a second content type, and an
authority no comparer may accept.

The two signature headers are split by a hand-written reader, and their keys are found by
searching each piece for the marker that opens a member; the search ends at the first piece
without one.

**Results.**  `malformedAuthorityReason_eq_none_iff`: the authorities that pass are the sound
ones.  `strictHeaderPrecheck_laws`: what passes the gate is single-lined and free of repeats
among the members it can read, and a well-formed request without repeats passes.
-/

namespace SalesAgent
namespace Signing

open StructuredFields (Dictionary Member blank follows keyChar labelOf level splitFrom)

section Texts

/-- `str.strip` of characters. -/
def stripped
    (text : List Char) : List Char :=
  ((text.dropWhile isSpace).reverse.dropWhile isSpace).reverse

/-- `str.lower` of a character of Latin-1. -/
def lowerLatin1
    (c : Char) : Char :=
  if c.isUpper ∨ (0xc0 ≤ c.toNat ∧ c.toNat ≤ 0xde ∧ c.toNat ≠ 0xd7) then
    Char.ofNat (c.toNat + 32)
  else
    c

/-- One character of `repr`, for the characters of Latin-1. -/
def reprChar
    (quote c : Char) : List Char :=
  if c = quote ∨ c = '\\' then ['\\', c]
  else if c = '\t' then ['\\', 't']
  else if c = '\n' then ['\\', 'n']
  else if c = '\r' then ['\\', 'r']
  else if c.toNat < 0x20 ∨ (0x7f ≤ c.toNat ∧ c.toNat ≤ 0xa0) ∨ c.toNat = 0xad then
    ['\\', 'x', Nat.digitChar (c.toNat / 16), Nat.digitChar (c.toNat % 16)]
  else [c]

/-- `repr` of a text of Latin-1. -/
def reprText
    (text : List Char) : String :=
  let quote := if '\x27' ∈ text ∧ '"' ∉ text then '"' else '\x27'
  String.ofList (quote :: (text.flatMap (reprChar quote) ++ [quote]))

/-- The text in front of the first occurrence of a marker. -/
def textBefore
    (marker : List Char) : List Char → Option (List Char)
  | [] => none
  | c :: text =>
      if marker.isPrefixOf (c :: text) then some []
      else (textBefore marker text).map fun front => c :: front

end Texts

section Rules

/-- `split_structured_field` of the vendored 7.0.2, at commas; the pinned package is 6.6.0. -/
def splitStructuredField
    (value : List Char) : List (List Char) :=
  splitFrom (level 0) [] value

/-- The loop of `_duplicate_dictionary_key`. -/
def duplicateKeyFrom
    (marker : List Char)
    (seen : List (List Char)) : List (List Char) → Option String
  | [] => none
  | entry :: rest =>
      match textBefore marker entry with
      | none => none
      | some text =>
          if stripped text ∈ seen then
            some ("the dictionary key " ++ reprText (stripped text)
              ++ " appears twice, which RFC 8941 §3.2 leaves ambiguous")
          else
            duplicateKeyFrom marker (stripped text :: seen) rest

/-- `_duplicate_dictionary_key` -/
def duplicateDictionaryKey
    (marker : List Char)
    (value : List Char) : Option String :=
  duplicateKeyFrom marker [] (splitStructuredField value)

/-- `_duplicate_signature_input_label` -/
def duplicateSignatureInputLabel
    (value : List Char) : Option String :=
  duplicateDictionaryKey ['=', '('] value

/-- `_duplicate_signature_label` -/
def duplicateSignatureLabel
    (value : List Char) : Option String :=
  duplicateDictionaryKey ['=', ':'] value

/-- `_multi_valued_content_type` -/
def multiValuedContentType
    (value : List Char) : Option String :=
  if ',' ∈ value then some "the field is multi-valued, and it is not a List-Structured-Field"
  else none

/-- The algorithm a member of a content digest names. -/
def algorithmOf
    (entry : List Char) : List Char :=
  (stripped (entry.takeWhile (· ≠ '='))).map lowerLatin1

/-- The loop of `_duplicate_digest_algorithm`. -/
def duplicateAlgorithmFrom
    (seen : List (List Char)) : List (List Char) → Option String
  | [] => none
  | entry :: rest =>
      if algorithmOf entry = [] then
        duplicateAlgorithmFrom seen rest
      else if algorithmOf entry ∈ seen then
        some s!"the digest algorithm {reprText (algorithmOf entry)} appears twice (RFC 9530 §2)"
      else
        duplicateAlgorithmFrom (algorithmOf entry :: seen) rest

/-- `_duplicate_digest_algorithm` -/
def duplicateDigestAlgorithm
    (value : List Char) : Option String :=
  duplicateAlgorithmFrom [] (value.splitOn ',')

/-- `authority.rsplit("@", 1)[-1]` -/
def withoutUserinfo
    (authority : List Char) : List Char :=
  (authority.reverse.takeWhile (· ≠ '@')).reverse

/-- `_bracketed_host_reason`, of what follows the opening bracket. -/
def bracketedHostReason
    (address : List Char) : Option String :=
  if ']' ∉ address then
    some "a bracketed IPv6 host missing its closing bracket is malformed"
  else if '%' ∈ address.takeWhile (· ≠ ']') then
    some "an IPv6 zone identifier (RFC 6874) is node-local and MUST be rejected in signed URLs"
  else
    none

/-- The upstream `_malformed_authority_reason`, of an authority without its userinfo. -/
def upstreamMalformedReason
    (host : List Char) : Option String :=
  match host with
  | [] => some "the authority carries no host (empty, or userinfo/port with nothing before it)"
  | '[' :: address => bracketedHostReason address
  | _ =>
      if 1 < host.count ':' then
        some "an IPv6 address outside brackets is ambiguous with a port and is malformed"
      else if host.takeWhile (· ≠ ':') = [] then
        some "the authority carries a port but no host"
      else
        none

/-- `host_has_raw_non_ascii` -/
def hostHasRawNonAscii
    (host : List Char) : Bool :=
  ! host.all fun c => c.toNat < 128

/-- `malformed_authority_reason` -/
def malformedAuthorityReason
    (authority : List Char) : Option String :=
  let host := withoutUserinfo authority
  match upstreamMalformedReason host with
  | some reason => some reason
  | none =>
      if host.head? ≠ some '[' ∧ hostHasRawNonAscii (host.takeWhile (· ≠ ':')) = true then
        some "the host carries raw non-ASCII bytes and was not ToASCII-normalized by the producer"
      else
        none

/-- `_MALFORMED_VALUE_RULES` -/
def malformedValueRules : List (String × (List Char → Option String)) :=
  [("signature", duplicateSignatureLabel),
    ("signature-input", duplicateSignatureInputLabel),
    ("content-type", multiValuedContentType),
    ("content-digest", duplicateDigestAlgorithm),
    ("host", malformedAuthorityReason)]

/-- `_SINGLE_LINE_SIGNED_HEADERS` -/
def singleLineSignedHeaders : List String :=
  malformedValueRules.map Prod.fst

/-- The values of the lines of one header, in the order of the lines. -/
def linesOf
    (rawHeaders : List RawHeader)
    (name : String) : List (List Char) :=
  rawHeaders.filterMap fun line =>
    if (latin1 line.1).toLower = name then some (latin1 line.2).toList else none

/-- The rejection of the gate. -/
def headerMalformed : SignatureVerificationError :=
  ⟨"request_signature_header_malformed", some 1⟩

/-- `_strict_header_precheck` -/
def strictHeaderPrecheck
    (rawHeaders : List RawHeader) : Except SignatureVerificationError Unit :=
  if singleLineSignedHeaders.any fun name => 1 < (linesOf rawHeaders name).length then
    .error headerMalformed
  else if malformedValueRules.any fun rule =>
      (linesOf rawHeaders rule.1).any fun value => (rule.2 value).isSome then
    .error headerMalformed
  else
    .ok ()

end Rules

section FirstRepeat

variable {α : Type} [DecidableEq α]

/-- The first entry of a list that was seen before. -/
def firstRepeat
    (seen : List α) : List α → Option α
  | [] => none
  | a :: rest => if a ∈ seen then some a else firstRepeat (a :: seen) rest

theorem firstRepeat_eq_none_iff
    (entries seen : List α) :
    firstRepeat seen entries = none ↔ entries.Nodup ∧ ∀ a ∈ entries, a ∉ seen := by
  induction entries generalizing seen with
  | nil =>
      simp [firstRepeat]
  | cons a rest ih =>
      rw [firstRepeat]
      by_cases ha : a ∈ seen
      · simp [ha]
      · rw [if_neg ha, ih, List.nodup_cons]
        constructor
        · rintro ⟨hnodup, hfresh⟩
          have hrest : a ∉ rest := fun hmem => hfresh a hmem (List.mem_cons_self ..)
          refine ⟨⟨hrest, hnodup⟩, ?_⟩
          intro b hb hseen
          rcases List.mem_cons.mp hb with rfl | hb
          · exact ha hseen
          · exact hfresh b hb (List.mem_cons_of_mem _ hseen)
        · rintro ⟨⟨hrest, hnodup⟩, hfresh⟩
          refine ⟨hnodup, ?_⟩
          intro b hb hseen
          rcases List.mem_cons.mp hseen with rfl | hseen
          · exact hrest hb
          · exact hfresh b (List.mem_cons_of_mem _ hb) hseen

end FirstRepeat

section Dictionaries

/-- The keys the gate reads in front of the first piece without a marker. -/
def keysRead
    (marker : List Char) : List (List Char) → List (List Char)
  | [] => []
  | entry :: rest =>
      match textBefore marker entry with
      | none => []
      | some text => stripped text :: keysRead marker rest

theorem duplicateKeyFrom_eq_none_iff
    (marker : List Char)
    (entries seen : List (List Char)) :
    duplicateKeyFrom marker seen entries = none
      ↔
    firstRepeat seen (keysRead marker entries) = none := by
  induction entries generalizing seen with
  | nil =>
      simp [duplicateKeyFrom, keysRead, firstRepeat]
  | cons entry rest ih =>
      rw [duplicateKeyFrom, keysRead]
      cases textBefore marker entry with
      | none => simp [firstRepeat]
      | some text =>
          dsimp only
          rw [firstRepeat]
          by_cases hseen : stripped text ∈ seen
          · simp [hseen]
          · rw [if_neg hseen, if_neg hseen, ih]

theorem duplicateDictionaryKey_eq_none_iff
    (marker value : List Char) :
    duplicateDictionaryKey marker value = none
      ↔
    (keysRead marker (splitStructuredField value)).Nodup := by
  rw [duplicateDictionaryKey, duplicateKeyFrom_eq_none_iff, firstRepeat_eq_none_iff]
  simp

/-- The label that opens a piece, where a marker stands right behind it. -/
def opened
    (allowed : Char → Bool)
    (marker piece : List Char) : Option (List Char) :=
  if labelOf allowed piece ≠ [] ∧
      (labelOf allowed piece ++ marker).isPrefixOf (piece.dropWhile blank) = true then
    some (labelOf allowed piece)
  else
    none

/-- The keys that open members, among the members in front of the first one that holds no
marker. -/
def openedKeys
    (marker value : List Char) : List (List Char) :=
  ((splitStructuredField value).takeWhile fun piece => (textBefore marker piece).isSome).filterMap
    (opened keyChar marker)

theorem textBefore_append
    {marker front : List Char}
    (hfront : '=' ∉ front)
    (rest : List Char) :
    textBefore ('=' :: marker) (front ++ ('=' :: marker ++ rest)) = some front := by
  induction front with
  | nil =>
      simp [textBefore]
  | cons c front ih =>
      rw [List.mem_cons, not_or] at hfront
      rw [List.cons_append, textBefore, ih hfront.2, if_neg]
      · rfl
      · simp [hfront.1]

theorem textBefore_eq_some
    {marker text front : List Char}
    (hfront : textBefore marker text = some front) :
    ∃ rest, text = front ++ (marker ++ rest) := by
  induction text generalizing front with
  | nil =>
      cases hfront
  | cons c text ih =>
      rw [textBefore] at hfront
      by_cases hmarker : marker.isPrefixOf (c :: text) = true
      · rw [if_pos hmarker] at hfront
        cases hfront
        obtain ⟨rest, hrest⟩ := List.isPrefixOf_iff_prefix.mp hmarker
        exact ⟨rest, by simp [hrest]⟩
      · rw [if_neg hmarker, Option.map_eq_some_iff] at hfront
        obtain ⟨inner, hinner, rfl⟩ := hfront
        obtain ⟨rest, rfl⟩ := ih hinner
        exact ⟨rest, rfl⟩

theorem isSpace_of_blank
    {c : Char}
    (hc : blank c = true) :
    isSpace c = true := by
  simp only [blank, Bool.or_eq_true, decide_eq_true_eq] at hc
  rcases hc with rfl | rfl
  · rfl
  · rfl

theorem stripped_of_label
    {lead label : List Char}
    (rest : List Char)
    (hlead : ∀ c ∈ lead, blank c = true)
    (hsome : label ≠ [])
    (hlabel : ∀ c ∈ label, isSpace c = false) :
    ∃ kept, kept <+: rest ∧ stripped (lead ++ (label ++ rest)) = label ++ kept := by
  have hfront : (lead ++ (label ++ rest)).dropWhile isSpace = label ++ rest := by
    refine StructuredFields.dropWhile_append_of_starts
      (fun c hc => isSpace_of_blank (hlead c hc)) ?_
    intro c hc
    cases label with
    | nil => exact absurd rfl hsome
    | cons d label =>
        obtain rfl : d = c := by simpa using hc
        exact hlabel d (List.mem_cons_self ..)
  have hback : label.reverse.dropWhile isSpace = label.reverse := by
    refine List.dropWhile_eq_self_iff.mpr ?_
    intro hlen
    exact Bool.eq_false_iff.mp (hlabel _ (List.mem_reverse.mp (List.getElem_mem hlen)))
  refine ⟨(rest.reverse.dropWhile isSpace).reverse, ?_, ?_⟩
  · exact List.reverse_suffix.mp (by simpa using List.dropWhile_suffix isSpace)
  · rw [stripped, hfront, List.reverse_append, List.dropWhile_append]
    by_cases hblank : (rest.reverse.dropWhile isSpace).isEmpty = true
    · rw [if_pos hblank, hback, List.reverse_reverse, List.isEmpty_iff.mp hblank]
      simp
    · rw [if_neg hblank]
      simp

/-- A character of an algorithm's name, before it is lowered. -/
def algorithmChar
    (c : Char) : Bool :=
  keyChar c || c.isUpper

theorem bounds_of_isLower
    {c : Char}
    (hc : c.isLower = true) :
    0x61 ≤ c.toNat ∧ c.toNat ≤ 0x7a := by
  obtain ⟨hlow, hhigh⟩ := Bool.and_eq_true_iff.mp
    (show (decide (c.val ≥ 'a'.val) && decide (c.val ≤ 'z'.val)) = true from hc)
  exact ⟨UInt32.le_iff_toNat_le.mp (of_decide_eq_true hlow),
    UInt32.le_iff_toNat_le.mp (of_decide_eq_true hhigh)⟩

theorem bounds_of_isUpper
    {c : Char}
    (hc : c.isUpper = true) :
    0x41 ≤ c.toNat ∧ c.toNat ≤ 0x5a := by
  obtain ⟨hlow, hhigh⟩ := of_decide_eq_true
    (show decide (c.val ≥ 'A'.val ∧ c.val ≤ 'Z'.val) = true from hc)
  exact ⟨UInt32.le_iff_toNat_le.mp hlow, UInt32.le_iff_toNat_le.mp hhigh⟩

theorem bounds_of_isDigit
    {c : Char}
    (hc : c.isDigit = true) :
    0x30 ≤ c.toNat ∧ c.toNat ≤ 0x39 := by
  obtain ⟨hlow, hhigh⟩ := Bool.and_eq_true_iff.mp
    (show (decide (c.val ≥ '0'.val) && decide (c.val ≤ '9'.val)) = true from hc)
  exact ⟨UInt32.le_iff_toNat_le.mp (of_decide_eq_true hlow),
    UInt32.le_iff_toNat_le.mp (of_decide_eq_true hhigh)⟩

theorem cases_of_keyChar
    {c : Char}
    (hc : keyChar c = true) :
    (0x61 ≤ c.toNat ∧ c.toNat ≤ 0x7a) ∨ (0x30 ≤ c.toNat ∧ c.toNat ≤ 0x39)
      ∨ c ∈ ['_', '-', '.', '*'] := by
  simp only [keyChar, Bool.or_eq_true, decide_eq_true_eq] at hc
  rcases hc with (hlower | hdigit) | hmark
  · exact .inl (bounds_of_isLower hlower)
  · exact .inr (.inl (bounds_of_isDigit hdigit))
  · exact .inr (.inr hmark)

theorem bounds_of_algorithmChar
    {c : Char}
    (hc : algorithmChar c = true) :
    0x2a ≤ c.toNat ∧ c.toNat ≤ 0x7a := by
  rcases (Bool.or_eq_true _ _).mp hc with hkey | hupper
  · rcases cases_of_keyChar hkey with hlower | hdigit | hmark
    · omega
    · omega
    · simp only [List.mem_cons, List.not_mem_nil, or_false] at hmark
      rcases hmark with rfl | rfl | rfl | rfl
      · decide
      · decide
      · decide
      · decide
  · have hbounds := bounds_of_isUpper hupper
    omega

theorem not_isSpace_of_algorithmChar
    {c : Char}
    (hc : algorithmChar c = true) :
    isSpace c = false := by
  obtain ⟨hlow, hhigh⟩ := bounds_of_algorithmChar hc
  simp only [isSpace, decide_eq_false_iff_not, List.mem_cons, List.not_mem_nil, or_false]
  omega

theorem algorithmChar_of_keyChar
    {c : Char}
    (hc : keyChar c = true) :
    algorithmChar c = true := by
  simp [algorithmChar, hc]

theorem ne_equals_of_algorithmChar
    {c : Char}
    (hc : algorithmChar c = true) :
    c ≠ '=' := by
  rintro rfl
  exact absurd hc (by decide)

theorem ne_equals_of_blank
    {c : Char}
    (hc : blank c = true) :
    c ≠ '=' := by
  rintro rfl
  exact absurd hc (by decide)

theorem lowerLatin1_of_keyChar
    {c : Char}
    (hc : keyChar c = true) :
    lowerLatin1 c = c := by
  obtain ⟨-, hhigh⟩ := bounds_of_algorithmChar (algorithmChar_of_keyChar hc)
  rw [lowerLatin1, if_neg]
  rintro (hupper | ⟨hfrom, -, -⟩)
  · have hbounds := bounds_of_isUpper hupper
    rcases cases_of_keyChar hc with hlower | hdigit | hmark
    · omega
    · omega
    · simp only [List.mem_cons, List.not_mem_nil, or_false] at hmark
      rcases hmark with rfl | rfl | rfl | rfl
      · exact absurd hupper (by decide)
      · exact absurd hupper (by decide)
      · exact absurd hupper (by decide)
      · exact absurd hupper (by decide)
  · omega

theorem lowerLatin1_of_follows
    {c : Char}
    (hc : follows c = true) :
    lowerLatin1 c = c := by
  simp only [follows, decide_eq_true_eq, List.mem_cons, List.not_mem_nil, or_false] at hc
  rcases hc with rfl | rfl | rfl | rfl
  · rfl
  · rfl
  · rfl
  · rfl

theorem not_keyChar_of_follows
    (c : Char)
    (hc : follows c = true) :
    keyChar c = false := by
  simp only [follows, decide_eq_true_eq, List.mem_cons, List.not_mem_nil, or_false] at hc
  rcases hc with rfl | rfl | rfl | rfl
  · rfl
  · rfl
  · rfl
  · rfl

/-- A piece that a label opens, taken apart. -/
theorem of_opened
    {allowed : Char → Bool}
    {marker piece label : List Char}
    (hopened : opened allowed marker piece = some label) :
    ∃ lead rest, piece = lead ++ (label ++ (marker ++ rest)) ∧ label ≠ []
      ∧ (∀ c ∈ lead, blank c = true) ∧ ∀ c ∈ label, allowed c = true := by
  rw [opened] at hopened
  by_cases hlabel : labelOf allowed piece ≠ [] ∧
      (labelOf allowed piece ++ marker).isPrefixOf (piece.dropWhile blank) = true
  · rw [if_pos hlabel] at hopened
    obtain ⟨hsome, hstarts⟩ := hlabel
    obtain ⟨rest, hrest⟩ := List.isPrefixOf_iff_prefix.mp hstarts
    cases hopened
    refine ⟨piece.takeWhile blank, rest, ?_, hsome, ?_, ?_⟩
    · rw [← List.append_assoc (labelOf allowed piece), hrest, List.takeWhile_append_dropWhile]
    · exact fun c hc => List.mem_takeWhile_imp hc
    · exact fun c hc => List.mem_takeWhile_imp hc
  · rw [if_neg hlabel] at hopened
    cases hopened

theorem textBefore_of_opened
    {marker piece label : List Char}
    (hopened : opened keyChar ('=' :: marker) piece = some label) :
    ∃ text, textBefore ('=' :: marker) piece = some text ∧ stripped text = label := by
  obtain ⟨lead, rest, rfl, hsome, hlead, hlabel⟩ := of_opened hopened
  have hfront : '=' ∉ lead ++ label := by
    intro hmem
    rcases List.mem_append.mp hmem with hmem | hmem
    · exact ne_equals_of_blank (hlead _ hmem) rfl
    · exact ne_equals_of_algorithmChar (algorithmChar_of_keyChar (hlabel _ hmem)) rfl
  refine ⟨lead ++ label, ?_, ?_⟩
  · rw [← List.append_assoc lead, textBefore_append hfront]
  · obtain ⟨kept, hkept, hstripped⟩ := stripped_of_label [] hlead hsome
      fun c hc => not_isSpace_of_algorithmChar (algorithmChar_of_keyChar (hlabel c hc))
    rw [List.append_nil] at hstripped
    rw [hstripped, List.prefix_nil.mp hkept, List.append_nil]

/-- The keys that open members are among the keys the gate reads. -/
theorem openedKeys_sublist
    (marker : List Char)
    (pieces : List (List Char)) :
    ((pieces.takeWhile fun piece => (textBefore ('=' :: marker) piece).isSome).filterMap
        (opened keyChar ('=' :: marker))).Sublist
      (keysRead ('=' :: marker) pieces) := by
  induction pieces with
  | nil =>
      exact List.Sublist.refl _
  | cons piece pieces ih =>
      rw [keysRead]
      cases hbefore : textBefore ('=' :: marker) piece with
      | none =>
          rw [List.takeWhile_cons_of_neg (by simp [hbefore])]
          exact List.Sublist.refl _
      | some text =>
          rw [List.takeWhile_cons_of_pos (by simp [hbefore]), List.filterMap_cons]
          cases hopened : opened keyChar ('=' :: marker) piece with
          | none => exact ih.cons _
          | some label =>
              obtain ⟨front, hfront, hlabel⟩ := textBefore_of_opened hopened
              cases hbefore.symm.trans hfront
              dsimp only
              rw [hlabel]
              exact ih.cons_cons _

theorem front_of_member
    {entry : Member}
    {front rest : List Char}
    (htext : entry.text = front ++ ('=' :: rest)) :
    ∃ inner, front = entry.lead.val ++ (entry.key.text ++ inner)
      ∧ entry.tail = inner ++ ('=' :: rest) := by
  have hlabelled : '=' ∉ entry.lead.val ++ entry.key.text := by
    intro hmem
    rcases List.mem_append.mp hmem with hmem | hmem
    · exact ne_equals_of_blank (List.all_eq_true.mp entry.lead.property _ hmem) rfl
    · exact ne_equals_of_algorithmChar
        (algorithmChar_of_keyChar (entry.key.all_keyChar _ hmem)) rfl
  rw [entry.text_eq, ← List.append_assoc, List.append_eq_append_iff] at htext
  rcases htext with ⟨inner, hfront, htail⟩ | ⟨inner, hlabel, hrest⟩
  · exact ⟨inner, by rw [hfront, List.append_assoc], htail⟩
  · cases inner with
    | nil =>
        refine ⟨[], ?_, hrest.symm⟩
        rw [List.append_nil] at hlabel
        rw [List.append_nil, hlabel]
    | cons c inner =>
        obtain ⟨rfl, -⟩ := List.cons.inj hrest
        exact absurd (by simp [hlabel]) hlabelled

theorem stripped_of_member
    (entry : Member)
    {inner rest : List Char}
    (htail : entry.tail = inner ++ rest) :
    ∃ kept, stripped (entry.lead.val ++ (entry.key.text ++ inner)) = entry.key.text ++ kept
      ∧ ∀ c ∈ kept.head?, follows c = true := by
  obtain ⟨kept, hkept, hstripped⟩ := stripped_of_label inner
    (fun c hc => List.all_eq_true.mp entry.lead.property c hc)
    (List.cons_ne_nil _ _)
    fun c hc => not_isSpace_of_algorithmChar (algorithmChar_of_keyChar (entry.key.all_keyChar c hc))
  refine ⟨kept, hstripped, ?_⟩
  intro c hc
  obtain ⟨more, hmore⟩ := hkept
  refine entry.follows_tail c ?_
  cases kept with
  | nil => cases hc
  | cons d kept =>
      rw [htail, ← hmore]
      exact hc

theorem key_of_keysRead
    {marker text : List Char}
    {entry : Member}
    (htext : textBefore ('=' :: marker) entry.text = some text) :
    (stripped text).takeWhile keyChar = entry.key.text := by
  obtain ⟨rest, hrest⟩ := textBefore_eq_some htext
  obtain ⟨inner, rfl, htail⟩ := front_of_member hrest
  obtain ⟨kept, hstripped, hfollows⟩ := stripped_of_member entry htail
  rw [hstripped]
  exact StructuredFields.takeWhile_append_of_stops entry.key.all_keyChar
    fun c hc => not_keyChar_of_follows c (hfollows c hc)

theorem keysRead_members
    (marker : List Char)
    (members : List Member) :
    (keysRead ('=' :: marker) (members.map Member.text)).map (List.takeWhile keyChar)
      <+: members.map fun entry => entry.key.text := by
  induction members with
  | nil =>
      exact List.prefix_refl _
  | cons entry members ih =>
      rw [List.map_cons, keysRead]
      cases htext : textBefore ('=' :: marker) entry.text with
      | none => exact List.nil_prefix
      | some text =>
          rw [List.map_cons, List.map_cons, key_of_keysRead htext]
          exact (List.prefix_cons_inj _).mpr ih

theorem duplicateDictionaryKey_text
    (marker : List Char)
    {dictionary : Dictionary}
    (hkeys : dictionary.keys.Nodup) :
    duplicateDictionaryKey ('=' :: marker) dictionary.text = none := by
  rw [duplicateDictionaryKey_eq_none_iff, splitStructuredField, dictionary.split_text]
  exact List.Nodup.of_map _ ((keysRead_members marker _).sublist.nodup hkeys)

/-- A member whose value begins with the marker is opened by its key. -/
theorem opened_member
    {marker : List Char}
    {entry : Member}
    (htail : ('=' :: marker) <+: entry.tail) :
    opened keyChar ('=' :: marker) entry.text = some entry.key.text := by
  have hlabel : labelOf keyChar entry.text = entry.key.text :=
    entry.label_text (fun c hc => hc) not_keyChar_of_follows
  have hskipped : entry.text.dropWhile blank = entry.key.text ++ entry.tail := by
    rw [entry.text_eq]
    refine StructuredFields.dropWhile_append_of_starts
      (fun c hc => List.all_eq_true.mp entry.lead.property c hc) ?_
    intro c hc
    obtain rfl : entry.key.start.val = c := by simpa [StructuredFields.Key.text] using hc
    exact StructuredFields.not_blank_of_keyChar
      (entry.key.all_keyChar _ (List.mem_cons_self ..))
  rw [opened, hlabel, hskipped, if_pos]
  refine ⟨List.cons_ne_nil _ _, List.isPrefixOf_iff_prefix.mpr ?_⟩
  exact (List.prefix_append_right_inj _).mpr htail

theorem openedKeys_text
    {marker : List Char}
    {dictionary : Dictionary}
    (hmembers : ∀ entry ∈ dictionary.members, ('=' :: marker) <+: entry.tail) :
    openedKeys ('=' :: marker) dictionary.text = dictionary.keys := by
  rw [openedKeys, splitStructuredField, dictionary.split_text, StructuredFields.Dictionary.keys]
  generalize dictionary.members = members at hmembers
  induction members with
  | nil =>
      rfl
  | cons entry members ih =>
      have hopened := opened_member (hmembers entry (List.mem_cons_self ..))
      obtain ⟨text, htext, -⟩ := textBefore_of_opened hopened
      rw [List.map_cons, List.takeWhile_cons_of_pos (by simp [htext]), List.filterMap_cons,
        hopened, List.map_cons, ← ih fun other hother =>
          hmembers other (List.mem_cons_of_mem _ hother)]

theorem openedKeys_nodup
    {marker value : List Char}
    (hpasses : duplicateDictionaryKey ('=' :: marker) value = none) :
    (openedKeys ('=' :: marker) value).Nodup :=
  (openedKeys_sublist marker _).nodup ((duplicateDictionaryKey_eq_none_iff _ _).mp hpasses)

/-- Where every member of a dictionary is opened with the marker, the gate lets it pass exactly
where its keys differ. -/
theorem duplicateDictionaryKey_text_iff
    {marker : List Char}
    {dictionary : Dictionary}
    (hmembers : ∀ entry ∈ dictionary.members, ('=' :: marker) <+: entry.tail) :
    duplicateDictionaryKey ('=' :: marker) dictionary.text = none ↔ dictionary.keys.Nodup := by
  refine ⟨fun hpasses => ?_, duplicateDictionaryKey_text marker⟩
  rw [← openedKeys_text hmembers]
  exact openedKeys_nodup hpasses

end Dictionaries

section Digests

/-- The algorithms the gate reads. -/
def algorithmsRead
    (pieces : List (List Char)) : List (List Char) :=
  (pieces.map algorithmOf).filter (· ≠ [])

theorem duplicateAlgorithmFrom_eq_none_iff
    (pieces seen : List (List Char)) :
    duplicateAlgorithmFrom seen pieces = none
      ↔
    firstRepeat seen (algorithmsRead pieces) = none := by
  induction pieces generalizing seen with
  | nil =>
      simp [duplicateAlgorithmFrom, algorithmsRead, firstRepeat]
  | cons piece pieces ih =>
      rw [duplicateAlgorithmFrom, algorithmsRead, List.map_cons]
      by_cases hempty : algorithmOf piece = []
      · rw [if_pos hempty, List.filter_cons_of_neg (by simp [hempty]), ih]
        rfl
      · rw [if_neg hempty, List.filter_cons_of_pos (by simp [hempty]), firstRepeat]
        by_cases hseen : algorithmOf piece ∈ seen
        · simp [hseen]
        · rw [if_neg hseen, if_neg hseen, ih]
          rfl

theorem duplicateDigestAlgorithm_eq_none_iff
    (value : List Char) :
    duplicateDigestAlgorithm value = none ↔ (algorithmsRead (value.splitOn ',')).Nodup := by
  rw [duplicateDigestAlgorithm, duplicateAlgorithmFrom_eq_none_iff, firstRepeat_eq_none_iff]
  simp

/-- The algorithms that open members of a digest, lowered. -/
def openedAlgorithms
    (value : List Char) : List (List Char) :=
  ((splitStructuredField value).filterMap (opened algorithmChar ['='])).map
    (List.map lowerLatin1)

theorem not_mem_takeWhile_ne
    (stop : Char)
    (text : List Char) :
    stop ∉ text.takeWhile (· ≠ stop) := by
  intro hmem
  simpa using List.mem_takeWhile_imp hmem

theorem eq_takeWhile_append
    {stop : Char}
    {text : List Char}
    (hstop : stop ∈ text) :
    ∃ rest, text = text.takeWhile (· ≠ stop) ++ stop :: rest := by
  have hjoin := List.takeWhile_append_dropWhile (p := (· ≠ stop)) (l := text)
  cases hdrop : text.dropWhile (· ≠ stop) with
  | nil =>
      rw [hdrop, List.append_nil] at hjoin
      rw [← hjoin] at hstop
      exact absurd hstop (not_mem_takeWhile_ne stop text)
  | cons c rest =>
      have hfirst := List.head?_dropWhile_not (· ≠ stop) text
      rw [hdrop] at hfirst
      obtain rfl : c = stop := by simpa using hfirst
      rw [hdrop] at hjoin
      exact ⟨rest, hjoin.symm⟩

theorem takeWhile_ne_of_not_mem
    {stop : Char}
    {text : List Char}
    (hstop : stop ∉ text) :
    text.takeWhile (· ≠ stop) = text :=
  List.takeWhile_eq_self_iff.mpr fun _ hc => decide_eq_true fun h => hstop (h ▸ hc)

theorem takeWhile_ne_append
    {stop : Char}
    {front : List Char}
    (hfront : stop ∉ front)
    (rest : List Char) :
    (front ++ stop :: rest).takeWhile (· ≠ stop) = front := by
  refine StructuredFields.takeWhile_append_of_stops
    (fun c hc => decide_eq_true fun h => hfront (h ▸ hc)) ?_
  intro c hc
  obtain rfl : stop = c := by simpa using hc
  simp

theorem algorithmOf_of_opened
    {lead label : List Char}
    (hlead : ∀ c ∈ lead, blank c = true)
    (hsome : label ≠ [])
    (hlabel : ∀ c ∈ label, algorithmChar c = true)
    (rest : List Char) :
    algorithmOf (lead ++ (label ++ ('=' :: rest))) = label.map lowerLatin1 := by
  have hfront : '=' ∉ lead ++ label := by
    intro hmem
    rcases List.mem_append.mp hmem with hmem | hmem
    · exact ne_equals_of_blank (hlead _ hmem) rfl
    · exact ne_equals_of_algorithmChar (hlabel _ hmem) rfl
  obtain ⟨kept, hkept, hstripped⟩ := stripped_of_label [] hlead hsome
    fun c hc => not_isSpace_of_algorithmChar (hlabel c hc)
  rw [List.append_nil] at hstripped
  rw [algorithmOf, ← List.append_assoc, takeWhile_ne_append hfront, hstripped,
    List.prefix_nil.mp hkept, List.append_nil]

theorem splitOn_head
    (text : List Char) :
    ∃ rest, text.splitOn ',' = text.takeWhile (· ≠ ',') :: rest := by
  by_cases hcomma : ',' ∈ text
  · obtain ⟨rest, hrest⟩ := eq_takeWhile_append hcomma
    refine ⟨rest.splitOn ',', ?_⟩
    conv_lhs => rw [hrest]
    exact List.splitOn_append_cons_self_of_not_mem (not_mem_takeWhile_ne ',' text) rest
  · rw [takeWhile_ne_of_not_mem hcomma]
    exact ⟨[], List.splitOn_eq_singleton hcomma⟩

/-- The pieces between separating commas join to the text they were split from. -/
theorem splitFrom_intercalate
    (place : StructuredFields.Place)
    (read text : List Char) :
    [','].intercalate (splitFrom place read text) = read ++ text := by
  induction text generalizing place read with
  | nil =>
      simp [splitFrom, List.intercalate]
  | cons c text ih =>
      rw [splitFrom]
      by_cases hseparates : place.separates c = true
      · have hcomma : c = ',' := by
          simp only [StructuredFields.Place.separates, Bool.and_eq_true, decide_eq_true_eq]
            at hseparates
          exact hseparates.1.2
        rw [if_pos hseparates]
        have htail := ih place []
        cases hpieces : splitFrom place [] text with
        | nil =>
            rw [hpieces] at htail
            have htext : text = [] := by simpa [List.intercalate] using htail.symm
            rw [htext, splitFrom] at hpieces
            cases hpieces
        | cons piece pieces =>
            rw [hpieces] at htail
            rw [List.nil_append] at htail
            rw [hcomma, ← htail]
            simp [List.intercalate]
      · rw [if_neg hseparates, ih, List.append_assoc]
        rfl

theorem splitOn_intercalate_eq_flatMap
    {pieces : List (List Char)}
    (hsome : pieces ≠ []) :
    ([','].intercalate pieces).splitOn ',' = pieces.flatMap (List.splitOn ',') := by
  induction pieces with
  | nil =>
      exact absurd rfl hsome
  | cons piece pieces ih =>
      cases pieces with
      | nil =>
          simp [List.intercalate]
      | cons next pieces =>
          have hjoin : [','].intercalate (piece :: next :: pieces)
              = piece ++ ',' :: [','].intercalate (next :: pieces) := by
            simp [List.intercalate]
          rw [hjoin, List.splitOn_append_cons_self, ih (List.cons_ne_nil _ _)]
          simp only [List.flatMap_cons]

theorem splitFrom_ne_nil
    (place : StructuredFields.Place)
    (read text : List Char) :
    splitFrom place read text ≠ [] := by
  induction text generalizing place read with
  | nil =>
      exact List.cons_ne_nil _ _
  | cons c text ih =>
      rw [splitFrom]
      by_cases hseparates : place.separates c = true
      · rw [if_pos hseparates]
        exact List.cons_ne_nil _ _
      · rw [if_neg hseparates]
        exact ih _ _

theorem splitOn_eq_flatMap
    (value : List Char) :
    value.splitOn ',' = (splitStructuredField value).flatMap (List.splitOn ',') := by
  rw [splitStructuredField, ← splitOn_intercalate_eq_flatMap (splitFrom_ne_nil _ _ _),
    splitFrom_intercalate, List.nil_append]

theorem algorithmsRead_of_opened
    {piece label : List Char}
    (hopened : opened algorithmChar ['='] piece = some label) :
    ∃ rest, algorithmsRead (piece.splitOn ',') = label.map lowerLatin1 :: rest := by
  obtain ⟨lead, rest, rfl, hsome, hlead, hlabel⟩ := of_opened hopened
  have hfront : ∀ c ∈ lead ++ (label ++ ['=']), decide (c ≠ ',') = true := by
    intro c hc
    refine decide_eq_true ?_
    rintro rfl
    simp only [List.mem_append, List.mem_singleton] at hc
    rcases hc with hc | hc | hc
    · exact absurd (hlead _ hc) (by decide)
    · exact absurd (hlabel _ hc) (by decide)
    · exact absurd hc (by decide)
  have hhead : (lead ++ (label ++ (['='] ++ rest))).takeWhile (· ≠ ',')
      = lead ++ (label ++ ('=' :: rest.takeWhile (· ≠ ','))) := by
    have hsame : lead ++ (label ++ (['='] ++ rest)) = (lead ++ (label ++ ['='])) ++ rest := by
      simp
    rw [hsame, List.takeWhile_append_of_pos hfront]
    simp
  obtain ⟨others, hsplit⟩ := splitOn_head (lead ++ (label ++ (['='] ++ rest)))
  refine ⟨algorithmsRead others, ?_⟩
  rw [hsplit, hhead, algorithmsRead, List.map_cons, algorithmOf_of_opened hlead hsome hlabel,
    List.filter_cons_of_pos (by simpa using hsome)]
  rfl

theorem algorithmsRead_append
    (front rest : List (List Char)) :
    algorithmsRead (front ++ rest) = algorithmsRead front ++ algorithmsRead rest := by
  simp [algorithmsRead]

theorem openedAlgorithms_sublist
    (pieces : List (List Char)) :
    ((pieces.filterMap (opened algorithmChar ['='])).map (List.map lowerLatin1)).Sublist
      (algorithmsRead (pieces.flatMap (List.splitOn ','))) := by
  induction pieces with
  | nil =>
      exact List.Sublist.refl _
  | cons piece pieces ih =>
      rw [List.flatMap_cons, algorithmsRead_append, List.filterMap_cons]
      cases hopened : opened algorithmChar ['='] piece with
      | none => exact ih.trans (List.sublist_append_right _ _)
      | some label =>
          obtain ⟨rest, hrest⟩ := algorithmsRead_of_opened hopened
          rw [hrest]
          exact (ih.trans (List.sublist_append_right _ _)).cons_cons _

theorem openedAlgorithms_nodup
    {value : List Char}
    (hpasses : duplicateDigestAlgorithm value = none) :
    (openedAlgorithms value).Nodup := by
  rw [duplicateDigestAlgorithm_eq_none_iff, splitOn_eq_flatMap] at hpasses
  exact (openedAlgorithms_sublist _).nodup hpasses

theorem algorithm_of_member
    (entry : Member) :
    (algorithmOf entry.text).takeWhile keyChar = entry.key.text := by
  have hlead : ∀ c ∈ entry.lead.val, decide (c ≠ '=') = true := fun c hc =>
    decide_eq_true (ne_equals_of_blank (List.all_eq_true.mp entry.lead.property c hc))
  have hkey : ∀ c ∈ entry.key.text, decide (c ≠ '=') = true := fun c hc =>
    decide_eq_true (ne_equals_of_algorithmChar
      (algorithmChar_of_keyChar (entry.key.all_keyChar c hc)))
  obtain ⟨kept, hstripped, hfollows⟩ := stripped_of_member entry
    (List.takeWhile_append_dropWhile (p := (· ≠ '=')) (l := entry.tail)).symm
  rw [algorithmOf, entry.text_eq, List.takeWhile_append_of_pos hlead,
    List.takeWhile_append_of_pos hkey, hstripped, List.map_append]
  have hlowered : entry.key.text.map lowerLatin1 = entry.key.text :=
    (List.map_congr_left fun c hc => lowerLatin1_of_keyChar (entry.key.all_keyChar c hc)).trans
      (List.map_id _)
  rw [hlowered]
  refine StructuredFields.takeWhile_append_of_stops entry.key.all_keyChar ?_
  intro c hc
  rw [List.head?_map, Option.mem_def, Option.map_eq_some_iff] at hc
  obtain ⟨d, hd, rfl⟩ := hc
  rw [lowerLatin1_of_follows (hfollows d hd)]
  exact not_keyChar_of_follows d (hfollows d hd)

/-- A digest whose algorithms differ passes, where no quoted text holds a comma. -/
theorem duplicateDigestAlgorithm_text
    {dictionary : Dictionary}
    (hkeys : dictionary.keys.Nodup)
    (hcommas : ∀ entry ∈ dictionary.members, ',' ∉ entry.text) :
    duplicateDigestAlgorithm dictionary.text = none := by
  have hsplit : dictionary.text.splitOn ',' = dictionary.members.map Member.text := by
    refine List.splitOn_intercalate ',' ?_ (by simpa using dictionary.sent)
    intro piece hpiece
    obtain ⟨entry, hentry, rfl⟩ := List.mem_map.mp hpiece
    exact hcommas entry hentry
  rw [duplicateDigestAlgorithm_eq_none_iff, hsplit, algorithmsRead, List.map_map]
  refine (List.Nodup.of_map (List.takeWhile keyChar) ?_).filter _
  rw [List.map_map]
  have hread : (List.takeWhile keyChar ∘ algorithmOf ∘ Member.text)
      = fun entry : Member => entry.key.text := funext algorithm_of_member
  rw [hread]
  exact hkeys

end Digests

section Authorities

/-- A host the profile accepts: a name of ASCII characters or a bracketed address without a
zone, with what follows it. -/
inductive SoundHost : List Char → Prop
  | name
      {name port : List Char}
      (hsome : name ≠ [])
      (hname : ∀ c ∈ name, c ≠ ':' ∧ c.toNat < 128)
      (hbare : name.head? ≠ some '[')
      (hport : port = [] ∨ ∃ digits, port = ':' :: digits ∧ ':' ∉ digits) :
      SoundHost (name ++ port)
  | address
      {address rest : List Char}
      (hclosed : ']' ∉ address)
      (hzone : '%' ∉ address) :
      SoundHost ('[' :: (address ++ (']' :: rest)))

/-- An authority: a host behind its userinfo, where it has one. -/
structure SoundAuthority
    (authority : List Char) : Prop where
  split : ∃ userinfo host, authority = userinfo ++ host ∧ SoundHost host ∧ '@' ∉ host
    ∧ (userinfo = [] ∨ ∃ user, userinfo = user ++ ['@'])

/-- The userinfo of an authority ends at its last at-sign. -/
theorem withoutUserinfo_split
    (authority : List Char) :
    ∃ userinfo, authority = userinfo ++ withoutUserinfo authority
      ∧ '@' ∉ withoutUserinfo authority
      ∧ (userinfo = [] ∨ ∃ user, userinfo = user ++ ['@']) := by
  have hjoin := List.takeWhile_append_dropWhile (p := (· ≠ '@')) (l := authority.reverse)
  refine ⟨(authority.reverse.dropWhile (· ≠ '@')).reverse, ?_, ?_, ?_⟩
  · rw [withoutUserinfo, ← List.reverse_append, hjoin, List.reverse_reverse]
  · intro hmem
    simpa using List.mem_takeWhile_imp (List.mem_reverse.mp hmem)
  · cases hdrop : authority.reverse.dropWhile (· ≠ '@') with
    | nil => exact .inl rfl
    | cons c rest =>
        have hstop := List.head?_dropWhile_not (· ≠ '@') authority.reverse
        rw [hdrop] at hstop
        obtain rfl : c = '@' := by simpa using hstop
        exact .inr ⟨rest.reverse, List.reverse_cons⟩

theorem withoutUserinfo_eq
    {userinfo host : List Char}
    (hhost : '@' ∉ host)
    (huserinfo : userinfo = [] ∨ ∃ user, userinfo = user ++ ['@']) :
    withoutUserinfo (userinfo ++ host) = host := by
  have hread : ∀ c ∈ host.reverse, decide (c ≠ '@') = true := by
    intro c hc
    refine decide_eq_true ?_
    rintro rfl
    exact hhost (List.mem_reverse.mp hc)
  have hstop : userinfo.reverse.takeWhile (· ≠ '@') = [] := by
    rcases huserinfo with rfl | ⟨user, rfl⟩
    · rfl
    · simp
  rw [withoutUserinfo, List.reverse_append, List.takeWhile_append_of_pos hread, hstop,
    List.append_nil, List.reverse_reverse]

theorem bracketedHostReason_eq_none_iff
    (address : List Char) :
    bracketedHostReason address = none ↔ SoundHost ('[' :: address) := by
  rw [bracketedHostReason]
  constructor
  · intro hpasses
    by_cases hclosed : ']' ∈ address
    · rw [if_neg (not_not_intro hclosed)] at hpasses
      have hzone : '%' ∉ address.takeWhile (· ≠ ']') := by
        intro hzone
        rw [if_pos hzone] at hpasses
        cases hpasses
      obtain ⟨rest, hrest⟩ := eq_takeWhile_append hclosed
      rw [hrest]
      exact .address (not_mem_takeWhile_ne ']' address) hzone
    · rw [if_pos hclosed] at hpasses
      cases hpasses
  · intro hsound
    generalize hhost : '[' :: address = host at hsound
    cases hsound with
    | @name name port hsome hname hbare hport =>
        cases name with
        | nil => exact absurd rfl hsome
        | cons c name =>
            obtain ⟨rfl, -⟩ := List.cons.inj hhost
            exact absurd rfl hbare
    | @address inner rest hclosed hzone =>
        obtain ⟨-, rfl⟩ := List.cons.inj hhost
        rw [if_neg (not_not_intro (by simp)), takeWhile_ne_append hclosed, if_neg hzone]

theorem soundHost_of_name
    {host : List Char}
    (hbare : host.head? ≠ some '[')
    (hcolons : ¬ 1 < host.count ':')
    (hsome : host.takeWhile (· ≠ ':') ≠ [])
    (hascii : hostHasRawNonAscii (host.takeWhile (· ≠ ':')) = false) :
    SoundHost host := by
  have hname : ∀ c ∈ host.takeWhile (· ≠ ':'), c ≠ ':' ∧ c.toNat < 128 := by
    intro c hc
    rw [hostHasRawNonAscii, Bool.not_eq_false', List.all_eq_true] at hascii
    refine ⟨?_, of_decide_eq_true (hascii c hc)⟩
    rintro rfl
    exact not_mem_takeWhile_ne ':' host hc
  by_cases hcolon : ':' ∈ host
  · obtain ⟨digits, hhost⟩ := eq_takeWhile_append hcolon
    have hdigits : ':' ∉ digits := by
      intro hmem
      refine hcolons ?_
      rw [hhost, List.count_append, List.count_cons_self]
      have hmore : 0 < digits.count ':' := List.count_pos_iff.mpr hmem
      omega
    have hfirst : (host.takeWhile (· ≠ ':')).head? ≠ some '[' := by
      rw [hhost] at hbare
      cases htake : host.takeWhile (· ≠ ':') with
      | nil => exact absurd htake hsome
      | cons c rest =>
          rw [htake] at hbare
          exact hbare
    rw [hhost]
    exact .name hsome hname hfirst (.inr ⟨digits, rfl, hdigits⟩)
  · rw [takeWhile_ne_of_not_mem hcolon] at hsome hname
    have hsound : SoundHost (host ++ []) := .name hsome hname hbare (.inl rfl)
    rwa [List.append_nil] at hsound

theorem name_of_soundHost
    {host : List Char}
    (hsound : SoundHost host)
    (hbare : host.head? ≠ some '[') :
    ¬ 1 < host.count ':' ∧ host.takeWhile (· ≠ ':') ≠ []
      ∧ hostHasRawNonAscii (host.takeWhile (· ≠ ':')) = false := by
  cases hsound with
  | @address inner rest hclosed hzone =>
      exact absurd rfl hbare
  | @name name port hsome hname hfirst hport =>
      have hcolon : ':' ∉ name := fun hmem => (hname _ hmem).1 rfl
      have hnone : name.count ':' = 0 := List.count_eq_zero.mpr hcolon
      have htake : (name ++ port).takeWhile (· ≠ ':') = name := by
        rcases hport with rfl | ⟨digits, rfl, -⟩
        · rw [List.append_nil, takeWhile_ne_of_not_mem hcolon]
        · exact takeWhile_ne_append hcolon digits
      refine ⟨?_, by rwa [htake], ?_⟩
      · rcases hport with rfl | ⟨digits, rfl, hdigits⟩
        · simp [hnone]
        · simp [hnone, List.count_eq_zero.mpr hdigits]
      · rw [htake, hostHasRawNonAscii, Bool.not_eq_false', List.all_eq_true]
        exact fun c hc => decide_eq_true (hname c hc).2

theorem hostReason_eq_none_iff
    (host : List Char) :
    (upstreamMalformedReason host = none ∧
        ¬ (host.head? ≠ some '[' ∧ hostHasRawNonAscii (host.takeWhile (· ≠ ':')) = true))
      ↔
    SoundHost host := by
  by_cases hbracket : host.head? = some '['
  · obtain ⟨address, rfl⟩ : ∃ address, host = '[' :: address := by
      cases host with
      | nil => cases hbracket
      | cons c address => exact ⟨address, by rw [Option.some.inj hbracket]⟩
    rw [upstreamMalformedReason, bracketedHostReason_eq_none_iff]
    exact and_iff_left fun h => h.1 rfl
  · cases host with
    | nil =>
        constructor
        · rintro ⟨hpasses, -⟩
          cases hpasses
        · intro hsound
          exact absurd rfl (name_of_soundHost hsound hbracket).2.1
    | cons c rest =>
        have hc : c ≠ '[' := fun h => hbracket (congrArg some h)
        have hreason : upstreamMalformedReason (c :: rest)
            = if 1 < (c :: rest).count ':' then
                some "an IPv6 address outside brackets is ambiguous with a port and is malformed"
              else if (c :: rest).takeWhile (· ≠ ':') = [] then
                some "the authority carries a port but no host"
              else none := by
          rw [upstreamMalformedReason]
          · exact fun hnil => List.cons_ne_nil _ _ hnil
          · rintro address ⟨rfl, -⟩
            exact hc rfl
        rw [hreason]
        constructor
        · rintro ⟨hpasses, hascii⟩
          by_cases hcolons : 1 < (c :: rest).count ':'
          · rw [if_pos hcolons] at hpasses
            cases hpasses
          by_cases hempty : (c :: rest).takeWhile (· ≠ ':') = []
          · rw [if_neg hcolons, if_pos hempty] at hpasses
            cases hpasses
          refine soundHost_of_name hbracket hcolons hempty (Bool.eq_false_iff.mpr ?_)
          exact fun h => hascii ⟨hbracket, h⟩
        · intro hsound
          obtain ⟨hcolons, hsome, hascii⟩ := name_of_soundHost hsound hbracket
          rw [if_neg hcolons, if_neg hsome]
          exact ⟨rfl, fun h => Bool.false_ne_true (hascii.symm.trans h.2)⟩

/-- The authorities that pass are the sound ones. -/
theorem malformedAuthorityReason_eq_none_iff
    (authority : List Char) :
    malformedAuthorityReason authority = none ↔ SoundAuthority authority := by
  have hreason : malformedAuthorityReason authority = none
      ↔ SoundHost (withoutUserinfo authority) := by
    rw [← hostReason_eq_none_iff, malformedAuthorityReason]
    cases upstreamMalformedReason (withoutUserinfo authority) with
    | some reason => simp
    | none =>
        dsimp only
        by_cases hraw : (withoutUserinfo authority).head? ≠ some '[' ∧
            hostHasRawNonAscii ((withoutUserinfo authority).takeWhile (· ≠ ':')) = true
        · rw [if_pos hraw]
          exact iff_of_false (by simp) fun h => h.2 hraw
        · rw [if_neg hraw]
          exact iff_of_true rfl ⟨rfl, hraw⟩
  rw [hreason]
  constructor
  · intro hsound
    obtain ⟨userinfo, hsplit, hhost, huserinfo⟩ := withoutUserinfo_split authority
    exact ⟨userinfo, _, hsplit, hsound, hhost, huserinfo⟩
  · rintro ⟨userinfo, host, rfl, hsound, hhost, huserinfo⟩
    rwa [withoutUserinfo_eq hhost huserinfo]

end Authorities

section Gate

/-- What the headers of a request that passes show. -/
structure Checked
    (rawHeaders : List RawHeader) : Prop where
  single : ∀ name ∈ ["signature", "signature-input", "content-type", "content-digest", "host"],
    (linesOf rawHeaders name).length ≤ 1
  signature : ∀ value ∈ linesOf rawHeaders "signature", (openedKeys ['=', ':'] value).Nodup
  signatureInput : ∀ value ∈ linesOf rawHeaders "signature-input",
    (openedKeys ['=', '('] value).Nodup
  contentType : ∀ value ∈ linesOf rawHeaders "content-type", ',' ∉ value
  contentDigest : ∀ value ∈ linesOf rawHeaders "content-digest", (openedAlgorithms value).Nodup
  host : ∀ value ∈ linesOf rawHeaders "host", SoundAuthority value

/-- A request whose five headers come on one line each, are well formed, repeat no key and no
algorithm, and quote no comma in the content type and the digest. -/
structure Unambiguous
    (rawHeaders : List RawHeader) : Prop where
  single : ∀ name ∈ ["signature", "signature-input", "content-type", "content-digest", "host"],
    (linesOf rawHeaders name).length ≤ 1
  signature : ∀ value ∈ linesOf rawHeaders "signature",
    ∃ dictionary : Dictionary, value = dictionary.text ∧ dictionary.keys.Nodup
  signatureInput : ∀ value ∈ linesOf rawHeaders "signature-input",
    ∃ dictionary : Dictionary, value = dictionary.text ∧ dictionary.keys.Nodup
  contentType : ∀ value ∈ linesOf rawHeaders "content-type", ',' ∉ value
  contentDigest : ∀ value ∈ linesOf rawHeaders "content-digest",
    ∃ dictionary : Dictionary, value = dictionary.text ∧ dictionary.keys.Nodup
      ∧ ∀ entry ∈ dictionary.members, ',' ∉ entry.text
  host : ∀ value ∈ linesOf rawHeaders "host", SoundAuthority value

theorem multiValuedContentType_eq_none_iff
    (value : List Char) :
    multiValuedContentType value = none ↔ ',' ∉ value := by
  rw [multiValuedContentType]
  by_cases hcomma : ',' ∈ value
  · simp [hcomma]
  · simp [hcomma]

theorem strictHeaderPrecheck_eq_ok_iff
    (rawHeaders : List RawHeader) :
    strictHeaderPrecheck rawHeaders = .ok ()
      ↔
    (∀ name ∈ singleLineSignedHeaders, (linesOf rawHeaders name).length ≤ 1)
      ∧ ∀ rule ∈ malformedValueRules, ∀ value ∈ linesOf rawHeaders rule.1,
          rule.2 value = none := by
  rw [strictHeaderPrecheck]
  by_cases hlines : (singleLineSignedHeaders.any fun name =>
      1 < (linesOf rawHeaders name).length) = true
  · rw [if_pos hlines]
    refine iff_of_false (fun h => by cases h) ?_
    rintro ⟨hsingle, -⟩
    obtain ⟨name, hname, hmore⟩ := List.any_eq_true.mp hlines
    exact absurd (of_decide_eq_true hmore) (not_lt.mpr (hsingle name hname))
  · have hsingle : ∀ name ∈ singleLineSignedHeaders, (linesOf rawHeaders name).length ≤ 1 := by
      intro name hname
      refine not_lt.mp fun hmore => hlines ?_
      exact List.any_eq_true.mpr ⟨name, hname, decide_eq_true hmore⟩
    rw [if_neg hlines, and_iff_right hsingle]
    by_cases hreasons : (malformedValueRules.any fun rule =>
        (linesOf rawHeaders rule.1).any fun value => (rule.2 value).isSome) = true
    · rw [if_pos hreasons]
      refine iff_of_false (fun h => by cases h) ?_
      intro hnone
      obtain ⟨rule, hrule, hvalues⟩ := List.any_eq_true.mp hreasons
      obtain ⟨value, hvalue, hsome⟩ := List.any_eq_true.mp hvalues
      rw [hnone rule hrule value hvalue] at hsome
      cases hsome
    · rw [if_neg hreasons]
      refine iff_of_true rfl ?_
      intro rule hrule value hvalue
      refine Option.not_isSome_iff_eq_none.mp fun hsome => hreasons ?_
      exact List.any_eq_true.mpr ⟨rule, hrule, List.any_eq_true.mpr ⟨value, hvalue, hsome⟩⟩

/-- What passes the gate is single-lined and repeats no key and no algorithm among the members
the gate can read, its content type is one value and its authority is sound; and the gate
refuses no unambiguous request. -/
theorem strictHeaderPrecheck_laws
    (rawHeaders : List RawHeader) :
    (strictHeaderPrecheck rawHeaders = .ok () → Checked rawHeaders)
      ∧ (Unambiguous rawHeaders → strictHeaderPrecheck rawHeaders = .ok ())
      ∧ ∀ (marker : List Char) (dictionary : Dictionary),
        (∀ entry ∈ dictionary.members, ('=' :: marker) <+: entry.tail) →
        (duplicateDictionaryKey ('=' :: marker) dictionary.text = none
          ↔ dictionary.keys.Nodup) := by
  rw [strictHeaderPrecheck_eq_ok_iff]
  refine ⟨?_, ?_, fun _ _ => duplicateDictionaryKey_text_iff⟩
  · rintro ⟨hsingle, hrules⟩
    have hrule (name : String) (reasonFor : List Char → Option String)
        (hmem : (name, reasonFor) ∈ malformedValueRules) :
        ∀ value ∈ linesOf rawHeaders name, reasonFor value = none :=
      hrules (name, reasonFor) hmem
    refine ⟨hsingle, ?_, ?_, ?_, ?_, ?_⟩
    · intro value hvalue
      exact openedKeys_nodup (hrule _ duplicateSignatureLabel (by simp [malformedValueRules])
        value hvalue)
    · intro value hvalue
      exact openedKeys_nodup (hrule _ duplicateSignatureInputLabel
        (by simp [malformedValueRules]) value hvalue)
    · intro value hvalue
      exact (multiValuedContentType_eq_none_iff value).mp (hrule _ multiValuedContentType
        (by simp [malformedValueRules]) value hvalue)
    · intro value hvalue
      exact openedAlgorithms_nodup (hrule _ duplicateDigestAlgorithm
        (by simp [malformedValueRules]) value hvalue)
    · intro value hvalue
      exact (malformedAuthorityReason_eq_none_iff value).mp (hrule _ malformedAuthorityReason
        (by simp [malformedValueRules]) value hvalue)
  · intro hclear
    refine ⟨hclear.single, ?_⟩
    intro rule hrule value hvalue
    simp only [malformedValueRules, List.mem_cons, List.not_mem_nil, or_false] at hrule
    rcases hrule with rfl | rfl | rfl | rfl | rfl
    · obtain ⟨dictionary, rfl, hkeys⟩ := hclear.signature value hvalue
      exact duplicateDictionaryKey_text [':'] hkeys
    · obtain ⟨dictionary, rfl, hkeys⟩ := hclear.signatureInput value hvalue
      exact duplicateDictionaryKey_text ['('] hkeys
    · exact (multiValuedContentType_eq_none_iff value).mpr (hclear.contentType value hvalue)
    · obtain ⟨dictionary, rfl, hkeys, hcommas⟩ := hclear.contentDigest value hvalue
      exact duplicateDigestAlgorithm_text hkeys hcommas
    · exact (malformedAuthorityReason_eq_none_iff value).mpr (hclear.host value hvalue)

/-- A header line of the characters of Latin-1. -/
def lineOf
    (name value : String) : RawHeader :=
  (name.toList.map fun c => UInt8.ofNat c.toNat, value.toList.map fun c => UInt8.ofNat c.toNat)

/-- Two members of one key, with a member between them that no marker opens. -/
def keptApart : Dictionary where
  members :=
    [⟨⟨[], rfl⟩, ⟨⟨'s', rfl⟩, ⟨['1'], rfl⟩⟩, .innerList [] 0, [], ⟨[], rfl⟩⟩,
      ⟨⟨[], rfl⟩, ⟨⟨'k', rfl⟩, ⟨[], rfl⟩⟩, .flag, [], ⟨[], rfl⟩⟩,
      ⟨⟨[], rfl⟩, ⟨⟨'s', rfl⟩, ⟨['1'], rfl⟩⟩, .innerList [] 0, [], ⟨[], rfl⟩⟩]
  sent := List.cons_ne_nil _ _

/-- A key that repeats behind a member without a marker passes, and so do an algorithm behind
which a parameter stands and a userinfo that is not ASCII; and a comma in a quoted parameter
of the content type is refused. -/
theorem precheck_ambiguities :
    (strictHeaderPrecheck [lineOf "Signature-Input" "s1=(),k,s1=()"] = .ok ()
        ∧ keptApart.text = "s1=(),k,s1=()".toList ∧ ¬ keptApart.keys.Nodup)
      ∧ strictHeaderPrecheck [lineOf "content-digest" "sha-256;v=1,sha-256=:YQ==:"] = .ok ()
      ∧ strictHeaderPrecheck [lineOf "host" "é@example.com"] = .ok ()
      ∧ strictHeaderPrecheck [lineOf "content-type" "text/plain; title=\"a,b\""]
          = .error headerMalformed := by
  refine ⟨⟨?_, ?_, ?_⟩, ?_, ?_, ?_⟩
  · decide +kernel
  · decide +kernel
  · decide +kernel
  · decide +kernel
  · decide +kernel
  · decide +kernel

end Gate

end Signing
end SalesAgent
