import Mathlib.Data.List.Basic
import Mathlib.Data.List.Infix

/-!
# Dictionaries of structured field values

A dictionary of RFC 8941 is a list of members, and a member is a key with an item, an inner
list or nothing, and with parameters.  The syntax is kept as trees whose leaves hold only
the characters their place allows; `text` prints them.

A reader of such a text keeps its place: how deep it stands in parentheses and whether it
stands in a quoted string.  The members are the pieces between the commas that stand
outside of both.

**Results.**  `split_text`: the printed dictionary is split into its printed members,
whatever strings and inner lists they hold.  `Member.label_text`: the label read from a
printed member is its key.
-/

namespace SalesAgent
namespace StructuredFields

section Syntax

/-- A text all of whose characters are allowed. -/
abbrev Word
    (allowed : Char → Bool) :=
  { text : List Char // text.all allowed = true }

/-- A character of a key. -/
def keyChar
    (c : Char) : Bool :=
  c.isLower || c.isDigit || c ∈ ['_', '-', '.', '*']

/-- A first character of a key. -/
def keyStart
    (c : Char) : Bool :=
  c.isLower || c = '*'

/-- A character of an integer or a decimal. -/
def numberChar
    (c : Char) : Bool :=
  c.isDigit || c ∈ ['-', '.']

/-- A character of a string. -/
def printable
    (c : Char) : Bool :=
  0x20 ≤ c.toNat && c.toNat ≤ 0x7e

/-- A character of a token. -/
def tokenChar
    (c : Char) : Bool :=
  c.isAlphanum || c ∈ ['!', '#', '$', '%', '&', '\x27', '*', '+', '-', '.', '^', '_', '\x60', '|',
    '~', ':', '/']

/-- A character of a byte sequence. -/
def base64Char
    (c : Char) : Bool :=
  c.isAlphanum || c ∈ ['+', '/', '=']

/-- A blank around a member. -/
def blank
    (c : Char) : Bool :=
  c = ' ' || c = '\t'

/-- A key. -/
structure Key where
  start : { c : Char // keyStart c = true }
  rest : Word keyChar
  deriving DecidableEq

/-- The characters of a key. -/
def Key.text
    (key : Key) : List Char :=
  key.start.val :: key.rest.val

/-- A bare item. -/
inductive BareItem
  | number (digits : Word numberChar)
  | string (content : Word printable)
  | token (name : Word tokenChar)
  | bytes (base64 : Word base64Char)
  | boolean (value : Bool)
  deriving DecidableEq

/-- A character of a string as it is printed. -/
def escape
    (c : Char) : List Char :=
  if c = '"' ∨ c = '\\' then ['\\', c] else [c]

/-- A printed bare item. -/
def BareItem.text : BareItem → List Char
  | .number digits => digits.val
  | .string content => '"' :: (content.val.flatMap escape ++ ['"'])
  | .token name => name.val
  | .bytes base64 => ':' :: (base64.val ++ [':'])
  | .boolean value => ['?', if value then '1' else '0']

/-- A parameter, with the blanks in front of it. -/
structure Parameter where
  blanks : Nat
  key : Key
  value : Option BareItem
  deriving DecidableEq

/-- A value behind its equals sign, where there is one. -/
def assigned : Option BareItem → List Char
  | none => []
  | some item => '=' :: item.text

/-- A printed parameter. -/
def Parameter.text
    (parameter : Parameter) : List Char :=
  ';' :: (List.replicate parameter.blanks ' ' ++ (parameter.key.text ++ assigned parameter.value))

/-- Printed parameters. -/
def parametersText
    (parameters : List Parameter) : List Char :=
  parameters.flatMap Parameter.text

/-- An item of an inner list, with the blanks in front of it. -/
structure Element where
  blanks : Nat
  item : BareItem
  parameters : List Parameter
  deriving DecidableEq

/-- A printed element. -/
def Element.text
    (element : Element) : List Char :=
  List.replicate element.blanks ' ' ++ (element.item.text ++ parametersText element.parameters)

/-- What a member assigns to its key. -/
inductive Value
  | flag
  | item (item : BareItem)
  | innerList (elements : List Element) (blanks : Nat)
  deriving DecidableEq

/-- A printed value. -/
def Value.text : Value → List Char
  | .flag => []
  | .item bare => '=' :: bare.text
  | .innerList elements blanks =>
      '=' :: '(' :: ((elements.flatMap Element.text ++ List.replicate blanks ' ') ++ [')'])

/-- A member, with the blanks around it. -/
structure Member where
  lead : Word blank
  key : Key
  value : Value
  parameters : List Parameter
  trail : Word blank
  deriving DecidableEq

/-- A printed member. -/
def Member.text
    (entry : Member) : List Char :=
  entry.lead.val ++ (entry.key.text ++
    (entry.value.text ++ (parametersText entry.parameters ++ entry.trail.val)))

/-- A dictionary has a member: an empty one is not sent. -/
structure Dictionary where
  members : List Member
  sent : members ≠ []
  deriving DecidableEq

/-- A printed dictionary. -/
def Dictionary.text
    (dictionary : Dictionary) : List Char :=
  [','].intercalate (dictionary.members.map Member.text)

/-- The keys of a dictionary, as its members give them. -/
def Dictionary.keys
    (dictionary : Dictionary) : List (List Char) :=
  dictionary.members.map fun entry => entry.key.text

end Syntax

section Places

/-- Where a reader stands in a field value. -/
structure Place where
  depth : Int := 0
  quoted : Bool := false
  escaped : Bool := false
  deriving DecidableEq, Repr

/-- The place behind one more character. -/
def Place.next
    (place : Place)
    (c : Char) : Place :=
  if place.quoted then
    if place.escaped then { place with escaped := false }
    else if c = '\\' then { place with escaped := true }
    else if c = '"' then { place with quoted := false }
    else place
  else if c = '"' then { place with quoted := true }
  else if c = '(' then { place with depth := place.depth + 1 }
  else if c = ')' then { place with depth := place.depth - 1 }
  else place

/-- A comma here stands between two members. -/
def Place.separates
    (place : Place)
    (c : Char) : Bool :=
  ! place.quoted && c = ',' && place.depth = 0

/-- The pieces of a text, the first of which has been read up to here. -/
def splitFrom
    (place : Place)
    (read : List Char) : List Char → List (List Char)
  | [] => [read]
  | c :: rest =>
      if place.separates c then
        read :: splitFrom place [] rest
      else
        splitFrom (place.next c) (read ++ [c]) rest

/-- No comma of a text separates, read from here on. -/
def Unbroken : Place → List Char → Prop
  | _, [] => True
  | place, c :: rest => place.separates c = false ∧ Unbroken (place.next c) rest

/-- A text that is read without a separator and leaves the reader where it stood. -/
structure Passes
    (place : Place)
    (text : List Char) : Prop where
  unbroken : Unbroken place text
  returns : text.foldl Place.next place = place

/-- A place outside of strings. -/
def level
    (depth : Nat) : Place :=
  { depth := depth }

/-- A character that neither quotes, nests nor separates. -/
def plain
    (c : Char) : Bool :=
  c ∉ ['"', '(', ')', ',']

theorem unbroken_append
    {place : Place}
    {text rest : List Char}
    (htext : Unbroken place text)
    (hrest : Unbroken (text.foldl Place.next place) rest) :
    Unbroken place (text ++ rest) := by
  induction text generalizing place with
  | nil =>
      exact hrest
  | cons c text ih =>
      exact ⟨htext.1, ih htext.2 hrest⟩

theorem Passes.nil
    {place : Place} :
    Passes place [] :=
  ⟨trivial, rfl⟩

theorem Passes.append
    {place : Place}
    {text rest : List Char}
    (htext : Passes place text)
    (hrest : Passes place rest) :
    Passes place (text ++ rest) := by
  refine ⟨unbroken_append htext.unbroken ?_, ?_⟩
  · rw [htext.returns]
    exact hrest.unbroken
  · rw [List.foldl_append, htext.returns, hrest.returns]

theorem Passes.cons
    {place : Place}
    {c : Char}
    {text : List Char}
    (hseparates : place.separates c = false)
    (hnext : place.next c = place)
    (htext : Passes place text) :
    Passes place (c :: text) := by
  refine ⟨⟨hseparates, ?_⟩, ?_⟩
  · rw [hnext]
    exact htext.unbroken
  · rw [List.foldl_cons, hnext, htext.returns]

theorem level_next_of_plain
    {depth : Nat}
    {c : Char}
    (hc : plain c = true) :
    (level depth).next c = level depth := by
  simp only [plain, List.mem_cons, List.not_mem_nil, or_false, not_or, decide_eq_true_eq] at hc
  simp [level, Place.next, hc]

theorem level_separates_of_plain
    {depth : Nat}
    {c : Char}
    (hc : plain c = true) :
    (level depth).separates c = false := by
  simp only [plain, List.mem_cons, List.not_mem_nil, or_false, not_or, decide_eq_true_eq] at hc
  simp [level, Place.separates, hc]

theorem passes_of_plain
    {depth : Nat}
    {text : List Char}
    (htext : ∀ c ∈ text, plain c = true) :
    Passes (level depth) text := by
  induction text with
  | nil =>
      exact Passes.nil
  | cons c text ih =>
      have hc : plain c = true := htext c (List.mem_cons_self ..)
      exact Passes.cons (level_separates_of_plain hc) (level_next_of_plain hc)
        (ih fun d hd => htext d (List.mem_cons_of_mem _ hd))

theorem passes_char
    {depth : Nat}
    {c : Char}
    (hc : plain c = true) :
    Passes (level depth) [c] :=
  Passes.cons (level_separates_of_plain hc) (level_next_of_plain hc) Passes.nil

theorem passes_of_word
    {depth : Nat}
    {allowed : Char → Bool}
    (hallowed : ∀ c, allowed c = true → plain c = true)
    (word : Word allowed) :
    Passes (level depth) word.val :=
  passes_of_plain fun c hc => hallowed c (List.all_eq_true.mp word.property c hc)

/-- What stands in quotes is read as one string. -/
theorem passes_quoted_content
    {depth : Nat}
    (content : List Char) :
    Passes { depth := depth, quoted := true } (content.flatMap escape) := by
  induction content with
  | nil =>
      exact Passes.nil
  | cons c content ih =>
      rw [List.flatMap_cons]
      refine Passes.append ?_ ih
      by_cases hc : c = '"' ∨ c = '\\'
      · rw [escape, if_pos hc]
        exact ⟨⟨rfl, rfl, trivial⟩, rfl⟩
      · rw [escape, if_neg hc]
        rw [not_or] at hc
        exact ⟨⟨rfl, trivial⟩, by simp [Place.next, hc]⟩

theorem passes_string
    {depth : Nat}
    (content : List Char) :
    Passes (level depth) ('"' :: (content.flatMap escape ++ ['"'])) := by
  have hopen : (level depth).next '"' = { depth := depth, quoted := true } := rfl
  have hclose : Place.next { depth := depth, quoted := true } '"' = level depth := rfl
  have hcontent : Passes { depth := depth, quoted := true } (content.flatMap escape) :=
    passes_quoted_content content
  refine ⟨⟨by simp [level, Place.separates], ?_⟩, ?_⟩
  · rw [hopen]
    refine unbroken_append hcontent.unbroken ?_
    rw [hcontent.returns]
    exact ⟨rfl, trivial⟩
  · rw [List.foldl_cons, hopen, List.foldl_append, hcontent.returns]
    exact hclose

/-- A parenthesis around a text that is read one level deeper. -/
theorem passes_parenthesized
    {depth : Nat}
    {text : List Char}
    (htext : Passes (level (depth + 1)) text) :
    Passes (level depth) ('(' :: (text ++ [')'])) := by
  have hopen : (level depth).next '(' = level (depth + 1) := by
    simp [level, Place.next]
  have hclose : (level (depth + 1)).next ')' = level depth := by
    simp [level, Place.next]
  refine ⟨⟨by simp [level, Place.separates], ?_⟩, ?_⟩
  · rw [hopen]
    refine unbroken_append htext.unbroken ?_
    rw [htext.returns]
    exact ⟨by simp [level, Place.separates], trivial⟩
  · rw [List.foldl_cons, hopen, List.foldl_append, htext.returns]
    exact hclose

theorem plain_of_excludes
    {allowed : Char → Bool}
    (hquote : allowed '"' = false)
    (hdeeper : allowed '(' = false)
    (hback : allowed ')' = false)
    (hcomma : allowed ',' = false)
    (c : Char)
    (hc : allowed c = true) :
    plain c = true := by
  have hne {d : Char} (hd : allowed d = false) : c ≠ d := by
    rintro rfl
    exact Bool.false_ne_true (hd.symm.trans hc)
  simp [plain, hne hquote, hne hdeeper, hne hback, hne hcomma]

theorem plain_of_keyChar :
    ∀ c, keyChar c = true → plain c = true :=
  plain_of_excludes rfl rfl rfl rfl

theorem keyChar_of_keyStart
    {c : Char}
    (hc : keyStart c = true) :
    keyChar c = true := by
  rcases Bool.or_eq_true _ _ ▸ hc with hlower | hstar
  · simp [keyChar, hlower]
  · simp [keyChar, of_decide_eq_true hstar]

theorem Key.all_keyChar
    (key : Key) :
    ∀ c ∈ key.text, keyChar c = true := by
  intro c hc
  rcases List.mem_cons.mp hc with rfl | hrest
  · exact keyChar_of_keyStart key.start.property
  · exact List.all_eq_true.mp key.rest.property c hrest

theorem Key.passes
    {depth : Nat}
    (key : Key) :
    Passes (level depth) key.text :=
  passes_of_plain fun c hc => plain_of_keyChar c (key.all_keyChar c hc)

theorem passes_blanks
    {depth : Nat}
    (blanks : Nat) :
    Passes (level depth) (List.replicate blanks ' ') :=
  passes_of_plain fun c hc => by
    rw [List.eq_of_mem_replicate hc]
    rfl

theorem BareItem.passes
    {depth : Nat}
    (item : BareItem) :
    Passes (level depth) item.text := by
  cases item with
  | number digits =>
      exact passes_of_word (plain_of_excludes rfl rfl rfl rfl) digits
  | string content =>
      exact passes_string content.val
  | token name =>
      exact passes_of_word (plain_of_excludes rfl rfl rfl rfl) name
  | bytes base64 =>
      have hcolon : plain ':' = true := rfl
      exact (passes_char hcolon).append
        ((passes_of_word (plain_of_excludes rfl rfl rfl rfl) base64).append (passes_char hcolon))
  | boolean value =>
      have hquestion : plain '?' = true := rfl
      have hvalue : plain (if value then '1' else '0') = true := by
        cases value with
        | true => rfl
        | false => rfl
      exact (passes_char hquestion).append (passes_char hvalue)

theorem passes_assigned
    {depth : Nat}
    (value : Option BareItem) :
    Passes (level depth) (assigned value) := by
  cases value with
  | none => exact Passes.nil
  | some item =>
      have hequals : plain '=' = true := rfl
      exact (passes_char hequals).append item.passes

theorem Parameter.passes
    {depth : Nat}
    (parameter : Parameter) :
    Passes (level depth) parameter.text := by
  have hsemicolon : plain ';' = true := rfl
  exact (passes_char hsemicolon).append
    ((passes_blanks _).append (parameter.key.passes.append (passes_assigned _)))

theorem passes_flatMap
    {α : Type}
    {depth : Nat}
    {print : α → List Char}
    (hprint : ∀ a, Passes (level depth) (print a))
    (parts : List α) :
    Passes (level depth) (parts.flatMap print) := by
  induction parts with
  | nil =>
      exact Passes.nil
  | cons part parts ih =>
      rw [List.flatMap_cons]
      exact (hprint part).append ih

theorem passes_parameters
    {depth : Nat}
    (parameters : List Parameter) :
    Passes (level depth) (parametersText parameters) :=
  passes_flatMap Parameter.passes parameters

theorem Element.passes
    {depth : Nat}
    (element : Element) :
    Passes (level depth) element.text :=
  (passes_blanks _).append (element.item.passes.append (passes_parameters _))

theorem Value.passes
    {depth : Nat}
    (value : Value) :
    Passes (level depth) value.text := by
  have hequals : plain '=' = true := rfl
  cases value with
  | flag => exact Passes.nil
  | item item => exact (passes_char hequals).append item.passes
  | innerList elements blanks =>
      exact (passes_char hequals).append
        (passes_parenthesized ((passes_flatMap Element.passes elements).append (passes_blanks _)))

theorem Member.passes
    (entry : Member) :
    Passes (level 0) entry.text := by
  have hblank : ∀ c, blank c = true → plain c = true := plain_of_excludes rfl rfl rfl rfl
  exact (passes_of_word hblank _).append (entry.key.passes.append
    (entry.value.passes.append ((passes_parameters _).append (passes_of_word hblank _))))

theorem splitFrom_append
    {place : Place}
    {text : List Char}
    (htext : Unbroken place text)
    (read rest : List Char) :
    splitFrom place read (text ++ rest)
      =
    splitFrom (text.foldl Place.next place) (read ++ text) rest := by
  induction text generalizing place read with
  | nil =>
      simp
  | cons c text ih =>
      rw [List.cons_append, splitFrom, if_neg (by simp [htext.1]), ih htext.2]
      simp

/-- A text is split into the pieces it was joined from. -/
theorem splitFrom_join
    {pieces : List (List Char)}
    (hsent : pieces ≠ [])
    (hpieces : ∀ piece ∈ pieces, Passes (level 0) piece) :
    splitFrom (level 0) [] ([','].intercalate pieces) = pieces := by
  induction pieces with
  | nil =>
      exact absurd rfl hsent
  | cons piece pieces ih =>
      have hpiece := hpieces piece (List.mem_cons_self ..)
      cases pieces with
      | nil =>
          have hread := splitFrom_append hpiece.unbroken [] []
          rw [List.append_nil, List.nil_append, splitFrom] at hread
          simpa [List.intercalate] using hread
      | cons next pieces =>
          have htail := ih (List.cons_ne_nil _ _)
            fun other hother => hpieces other (List.mem_cons_of_mem _ hother)
          have hjoin : [','].intercalate (piece :: next :: pieces)
              = piece ++ ',' :: [','].intercalate (next :: pieces) := by
            simp [List.intercalate]
          rw [hjoin, splitFrom_append hpiece.unbroken, hpiece.returns, splitFrom,
            if_pos (by simp [level, Place.separates]), htail, List.nil_append]

theorem Dictionary.split_text
    (dictionary : Dictionary) :
    splitFrom (level 0) [] dictionary.text = dictionary.members.map Member.text := by
  refine splitFrom_join ?_ ?_
  · simpa using dictionary.sent
  · intro piece hpiece
    obtain ⟨entry, -, rfl⟩ := List.mem_map.mp hpiece
    exact entry.passes

end Places

section Labels

/-- The label a piece begins with, read with some class of characters. -/
def labelOf
    (allowed : Char → Bool)
    (piece : List Char) : List Char :=
  (piece.dropWhile blank).takeWhile allowed

theorem takeWhile_append_of_stops
    {allowed : Char → Bool}
    {label rest : List Char}
    (hlabel : ∀ c ∈ label, allowed c = true)
    (hstops : ∀ c ∈ rest.head?, allowed c = false) :
    (label ++ rest).takeWhile allowed = label := by
  rw [List.takeWhile_append_of_pos hlabel]
  cases rest with
  | nil => rw [List.takeWhile_nil, List.append_nil]
  | cons c rest =>
      have hc : allowed c = false := hstops c rfl
      simp [hc]

theorem dropWhile_append_of_starts
    {skipped : Char → Bool}
    {lead rest : List Char}
    (hlead : ∀ c ∈ lead, skipped c = true)
    (hstarts : ∀ c ∈ rest.head?, skipped c = false) :
    (lead ++ rest).dropWhile skipped = rest := by
  rw [List.dropWhile_append_of_pos hlead]
  cases rest with
  | nil => rfl
  | cons c rest =>
      have hc : skipped c = false := hstarts c rfl
      simp [hc]

/-- The characters that may follow the key of a member. -/
def follows
    (c : Char) : Bool :=
  c ∈ ['=', ';', ' ', '\t']

/-- What a member prints behind its key. -/
def Member.tail
    (entry : Member) : List Char :=
  entry.value.text ++ (parametersText entry.parameters ++ entry.trail.val)

theorem Member.follows_tail
    (entry : Member) :
    ∀ c ∈ entry.tail.head?, follows c = true := by
  obtain ⟨lead, key, value, parameters, trail⟩ := entry
  intro c hc
  cases value with
  | item item =>
      obtain rfl : '=' = c := by simpa [Member.tail, Value.text] using hc
      rfl
  | innerList elements blanks =>
      obtain rfl : '=' = c := by simpa [Member.tail, Value.text] using hc
      rfl
  | flag =>
      cases parameters with
      | cons parameter parameters =>
          obtain rfl : ';' = c := by
            simpa [Member.tail, Value.text, parametersText, Parameter.text] using hc
          rfl
      | nil =>
          have hmem : c ∈ trail.val := List.mem_of_mem_head? hc
          have hblank : blank c = true := List.all_eq_true.mp trail.property c hmem
          simp only [blank, Bool.or_eq_true, decide_eq_true_eq] at hblank
          simp [follows, hblank]

theorem Member.text_eq
    (entry : Member) :
    entry.text = entry.lead.val ++ (entry.key.text ++ entry.tail) :=
  rfl

theorem not_blank_of_keyChar
    {c : Char}
    (hc : keyChar c = true) :
    blank c = false := by
  rcases eq_or_ne c ' ' with rfl | hspace
  · exact absurd hc (by decide)
  rcases eq_or_ne c '\t' with rfl | htab
  · exact absurd hc (by decide)
  · simp [blank, hspace, htab]

/-- The label read from a printed member is its key. -/
theorem Member.label_text
    {allowed : Char → Bool}
    (entry : Member)
    (hkeys : ∀ c, keyChar c = true → allowed c = true)
    (hstops : ∀ c, follows c = true → allowed c = false) :
    labelOf allowed entry.text = entry.key.text := by
  have hstart : keyChar entry.key.start.val = true := keyChar_of_keyStart entry.key.start.property
  rw [labelOf, entry.text_eq, dropWhile_append_of_starts]
  · exact takeWhile_append_of_stops (fun c hc => hkeys c (entry.key.all_keyChar c hc))
      fun c hc => hstops c (entry.follows_tail c hc)
  · exact fun c hc => List.all_eq_true.mp entry.lead.property c hc
  · intro c hc
    obtain rfl : entry.key.start.val = c := by simpa [Key.text] using hc
    exact not_blank_of_keyChar hstart

end Labels

end StructuredFields
end SalesAgent
