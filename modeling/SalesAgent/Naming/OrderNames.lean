import SalesAgent.Naming.Template

/-!
# Names of orders

The name of an order is what its template stands for and the order's own suffix in
brackets.  A name over the ad server's limit is cut so that its suffix stays; the suffix is
found again as the last bracket of the whole name, which begins at the first opening
bracket that no closing one follows.

**Results.**
* `lastBracket_of_suffix`: the bracket that is found in the name of an order.
* `truncationContract_iff`: when the cut name keeps the suffix of the order.
* `ad_server_names`: when the names of orders are what the templates and suffixes promise.
-/

namespace SalesAgent
namespace Naming

section Code

/-- `str.rstrip` -/
def rstrip
    (text : Text) : Text :=
  (text.reverse.dropWhile Signing.isSpace).reverse

/-- Of what follows an opening bracket, `[^\]]+` before a `\]` at the end. -/
def bracketRun
    (text : Text) : Option Text :=
  let run := text.takeWhile (· ≠ ']')
  let rest := text.dropWhile (· ≠ ']')
  -- `$` matches before a newline at the end too
  if run ≠ [] ∧ (rest = [']'] ∨ rest = [']', '\n']) then some run else none

/-- `re.search(r"\[([^\]]+)\]$", ·)`: what comes before the match, and its group. -/
def lastBracket : Text → Option (Text × Text)
  | [] => none
  | c :: text =>
      match if c = '[' then bracketRun text else none with
      | some run => some ([], run)
      | none => (lastBracket text).map fun found => (c :: found.1, found.2)

/-- The group of a match in its brackets. -/
def bracketed
    (group : Text) : Text :=
  ('[' :: group) ++ [']']

/-- The mark of a cut. -/
def ellipsis : Text :=
  " ...".toList

/-- `truncate_name_with_suffix` -/
def truncateNameWithSuffix
    (name : Text)
    (maxLength : Nat) : Text :=
  if name.length ≤ maxLength then name
  else
    let suffix := (lastBracket name).elim [] (fun found => bracketed found.2)
    let baseName := (lastBracket name).elim name (fun found => rstrip found.1)
    let available : Int := (maxLength : Int) - suffix.length - ellipsis.length
    if available ≤ 0 then suffix.take maxLength
    else
      let result := rstrip (baseName.take available.toNat) ++ ellipsis ++ suffix
      if maxLength < result.length then result.take maxLength else result

/-- The identifier made up before the order: `gam_` and hexadecimal digits, without
brackets. -/
structure PreOrderId where
  text : Text
  plain : ∀ c ∈ text, c ≠ '[' ∧ c ≠ ']'

/-- `mb_` and the identifier. -/
def PreOrderId.group
    (id : PreOrderId) : Text :=
  'm' :: 'b' :: '_' :: id.text

/-- The unique suffix in its brackets. -/
def PreOrderId.suffix
    (id : PreOrderId) : Text :=
  bracketed id.group

/-- `f"{base_order_name} [{unique_suffix}]"` -/
def fullOrderName
    (base : Text)
    (id : PreOrderId) : Text :=
  base ++ ' ' :: id.suffix

/-- `GAM_NAME_LIMITS["max_order_name_length"]` -/
def maxOrderNameLength : Nat := 255

/-- The name of an order in `create_media_buy`. -/
def orderName
    (template : Text)
    (context : Context)
    (id : PreOrderId) : Text :=
  truncateNameWithSuffix (fullOrderName (applyNamingTemplate template context) id)
    maxOrderNameLength

end Code

section Law

/-- What the cut name of an order promises. -/
structure TruncationContract
    (base : Text)
    (id : PreOrderId)
    (limit : Nat) : Prop where
  fits : (truncateNameWithSuffix (fullOrderName base id) limit).length ≤ limit
  keeps : id.suffix <:+ truncateNameWithSuffix (fullOrderName base id) limit
  stable : truncateNameWithSuffix (truncateNameWithSuffix (fullOrderName base id) limit) limit =
    truncateNameWithSuffix (fullOrderName base id) limit
  /-- No other order gets the name. -/
  unique : ∀ (base' : Text) (id' : PreOrderId), id'.text ≠ id.text →
    truncateNameWithSuffix (fullOrderName base' id') limit ≠
      truncateNameWithSuffix (fullOrderName base id) limit

/-- The base from the first opening bracket on that no closing one follows. -/
def unclosed : Text → Text
  | [] => []
  | c :: text => if c = '[' ∧ ']' ∉ text then c :: text else unclosed text

/-- The last bracket of the name of an order: from an unclosed bracket of the base on, if it
has one. -/
def foundSuffix
    (base : Text)
    (id : PreOrderId) : Text :=
  if unclosed base = [] then id.suffix else unclosed base ++ ' ' :: id.suffix

/-- The name is within the limit, or its last bracket is. -/
def SuffixFits
    (base : Text)
    (id : PreOrderId)
    (limit : Nat) : Prop :=
  (fullOrderName base id).length ≤ limit ∨ (foundSuffix base id).length ≤ limit

end Law

section Brackets

theorem rstrip_length_le
    (text : Text) :
    (rstrip text).length ≤ text.length := by
  rw [rstrip, List.length_reverse]
  have hshorter : (text.reverse.dropWhile Signing.isSpace).length ≤ text.reverse.length :=
    (List.dropWhile_suffix _).length_le
  rwa [List.length_reverse] at hshorter

variable {base : Text} {id : PreOrderId} {limit : Nat}

theorem PreOrderId.not_mem_group
    (id : PreOrderId) :
    '[' ∉ id.group ∧ ']' ∉ id.group := by
  have hopen : '[' ∉ id.text := fun h => (id.plain _ h).1 rfl
  have hclose : ']' ∉ id.text := fun h => (id.plain _ h).2 rfl
  simp [group, hopen, hclose]

theorem bracketRun_of_not_mem
    {group : Text}
    (hnonempty : group ≠ [])
    (hgroup : ']' ∉ group) :
    bracketRun (group ++ [']']) = some group := by
  have hpass : ∀ c ∈ group, decide (c ≠ ']') = true := fun c hc =>
    decide_eq_true fun h => hgroup (h ▸ hc)
  have hrun : (group ++ [']']).takeWhile (· ≠ ']') = group := by
    rw [List.takeWhile_append_of_pos hpass]
    simp
  have hrest : (group ++ [']']).dropWhile (· ≠ ']') = [']'] := by
    rw [List.dropWhile_append_of_pos hpass]
    simp
  simp only [bracketRun]
  rw [hrun, hrest, if_pos ⟨hnonempty, .inl rfl⟩]

theorem bracketRun_of_mem
    {front rest : Text}
    (hclosed : ']' ∈ front)
    (hrest : 1 < rest.length) :
    bracketRun (front ++ rest) = none := by
  obtain ⟨before, after, hfront, hbefore⟩ := List.eq_append_cons_of_mem hclosed
  have hpass : ∀ c ∈ before, decide (c ≠ ']') = true := fun c hc =>
    decide_eq_true fun h => hbefore (h ▸ hc)
  have hdrop : (front ++ rest).dropWhile (· ≠ ']') = ']' :: (after ++ rest) := by
    rw [hfront, List.append_assoc, List.dropWhile_append_of_pos hpass]
    simp
  simp only [bracketRun]
  rw [hdrop, if_neg]
  rintro ⟨-, hone | htwo⟩
  · have hlength := congrArg List.length hone
    simp only [List.length_cons, List.length_append, List.length_nil] at hlength
    omega
  · have hlength := congrArg List.length htwo
    simp only [List.length_cons, List.length_append, List.length_nil] at hlength
    omega

/-- The bracket that is found in the name of an order. -/
theorem lastBracket_of_suffix
    (base : Text)
    (id : PreOrderId) :
    ∃ front group, lastBracket (fullOrderName base id) = some (front, group) ∧
      fullOrderName base id = front ++ bracketed group ∧
      bracketed group = foundSuffix base id ∧ ']' ∉ group := by
  obtain ⟨hopen, hclose⟩ := id.not_mem_group
  have hgroup : id.group ≠ [] := List.cons_ne_nil _ _
  have hown : lastBracket id.suffix = some ([], id.group) := by
    rw [PreOrderId.suffix, bracketed, List.cons_append, lastBracket, if_pos rfl,
      bracketRun_of_not_mem hgroup hclose]
  induction base with
  | nil =>
      refine ⟨[' '], id.group, ?_, rfl, rfl, hclose⟩
      rw [fullOrderName, List.nil_append, lastBracket, if_neg (by decide), hown]
      rfl
  | cons c base ih =>
      obtain ⟨front, group, hfound, hname, hsuffix, hplain⟩ := ih
      by_cases hunclosed : c = '[' ∧ ']' ∉ base
      · obtain ⟨rfl, hbase⟩ := hunclosed
        have hrun : base ++ ' ' :: id.suffix = (base ++ (' ' :: '[' :: id.group)) ++ [']'] := by
          simp [PreOrderId.suffix, bracketed]
        have hmem : ']' ∉ base ++ (' ' :: '[' :: id.group) := by simp [hbase, hclose]
        refine ⟨[], base ++ (' ' :: '[' :: id.group), ?_, ?_, ?_, hmem⟩
        · rw [fullOrderName, List.cons_append, lastBracket, if_pos rfl, hrun,
            bracketRun_of_not_mem (by simp) hmem]
        · simp [fullOrderName, PreOrderId.suffix, bracketed]
        · simp [foundSuffix, unclosed, hbase, PreOrderId.suffix, bracketed]
      · have hnone : (if c = '[' then bracketRun (fullOrderName base id) else none) = none := by
          by_cases hc : c = '['
          · have hbase : ']' ∈ base := by
              by_contra hnot
              exact hunclosed ⟨hc, hnot⟩
            rw [if_pos hc, fullOrderName]
            exact bracketRun_of_mem hbase (by simp [PreOrderId.suffix, bracketed])
          · rw [if_neg hc]
        refine ⟨c :: front, group, ?_, ?_, ?_, hplain⟩
        · rw [fullOrderName, List.cons_append, lastBracket]
          rw [fullOrderName] at hnone hfound
          rw [hnone, hfound]
          rfl
        · rw [List.cons_append, ← hname]
          rfl
        · rw [hsuffix, foundSuffix, foundSuffix, unclosed, if_neg hunclosed]

/-- A text ends with the suffix of an order only where its last bracket is that suffix. -/
theorem PreOrderId.suffix_inj
    {id id' : PreOrderId} {text : Text}
    (h : id.suffix <:+ text)
    (h' : id'.suffix <:+ text) :
    id.text = id'.text := by
  have hshorter : ∀ {a b : PreOrderId}, a.suffix <:+ b.suffix → a.text = b.text := by
    intro a b hsuffix
    rw [suffix, suffix, bracketed, bracketed, List.cons_append, List.cons_append,
      List.suffix_cons_iff] at hsuffix
    rcases hsuffix with hwhole | hinside
    · simpa [group] using hwhole
    · have hmem : '[' ∈ b.group ++ [']'] := hinside.subset List.mem_cons_self
      simp [b.not_mem_group.1] at hmem
  rcases Nat.le_total id.suffix.length id'.suffix.length with hle | hle
  · exact hshorter (List.suffix_of_suffix_length_le h h' hle)
  · exact (hshorter (List.suffix_of_suffix_length_le h' h hle)).symm

theorem suffix_foundSuffix :
    id.suffix <:+ foundSuffix base id := by
  rw [foundSuffix]
  split
  · exact List.suffix_rfl
  · exact (List.suffix_cons ' ' id.suffix).trans (List.suffix_append _ _)

end Brackets

section Truncation

variable {base : Text} {id : PreOrderId} {limit : Nat}

theorem truncate_of_le
    {name : Text}
    (hfits : name.length ≤ limit) :
    truncateNameWithSuffix name limit = name := by
  rw [truncateNameWithSuffix, if_pos hfits]

theorem truncate_of_found
    (hlong : limit < (fullOrderName base id).length)
    (hfound : (foundSuffix base id).length ≤ limit) :
    ∃ front, truncateNameWithSuffix (fullOrderName base id) limit =
        front ++ foundSuffix base id ∧
      (front ++ foundSuffix base id).length ≤ limit := by
  obtain ⟨before, group, hmatch, -, hsuffix, -⟩ := lastBracket_of_suffix base id
  rw [truncateNameWithSuffix, if_neg (Nat.not_le.mpr hlong)]
  simp only [hmatch, Option.elim_some, hsuffix]
  have hellipsis : ellipsis.length = 4 := rfl
  by_cases hnone :
      (limit : Int) - (foundSuffix base id).length - ellipsis.length ≤ 0
  · rw [if_pos hnone, List.take_of_length_le hfound]
    exact ⟨[], rfl, hfound⟩
  · rw [if_neg hnone]
    generalize hcut : rstrip ((rstrip before).take
      ((limit : Int) - (foundSuffix base id).length - ellipsis.length).toNat) = cut
    have hstrip : cut.length ≤
        ((limit : Int) - (foundSuffix base id).length - ellipsis.length).toNat := by
      rw [← hcut]
      exact Nat.le_trans (rstrip_length_le _) (List.length_take_le _ _)
    have hfits : (cut ++ ellipsis ++ foundSuffix base id).length ≤ limit := by
      rw [List.length_append, List.length_append]
      omega
    rw [if_neg (Nat.not_lt.mpr hfits)]
    exact ⟨cut ++ ellipsis, rfl, hfits⟩

theorem truncate_of_not_found
    (hlong : limit < (fullOrderName base id).length)
    (hfound : limit < (foundSuffix base id).length) :
    ']' ∉ truncateNameWithSuffix (fullOrderName base id) limit := by
  obtain ⟨before, group, hmatch, -, hsuffix, hplain⟩ := lastBracket_of_suffix base id
  rw [truncateNameWithSuffix, if_neg (Nat.not_le.mpr hlong)]
  simp only [hmatch, Option.elim_some, hsuffix]
  rw [if_pos (by omega), ← hsuffix, bracketed]
  rw [← hsuffix, bracketed, List.length_append, List.length_singleton] at hfound
  rw [List.take_append_of_le_length (Nat.le_of_lt_succ hfound)]
  intro hmem
  have hinside : ']' ∈ '[' :: group := List.mem_of_mem_take hmem
  simp [hplain] at hinside

theorem suffix_truncate
    (hfits : SuffixFits base id limit) :
    id.suffix <:+ truncateNameWithSuffix (fullOrderName base id) limit ∧
      (truncateNameWithSuffix (fullOrderName base id) limit).length ≤ limit := by
  by_cases hshort : (fullOrderName base id).length ≤ limit
  · rw [truncate_of_le hshort]
    exact ⟨(List.suffix_cons ' ' id.suffix).trans (List.suffix_append base _), hshort⟩
  · have hfound : (foundSuffix base id).length ≤ limit := hfits.resolve_left hshort
    obtain ⟨front, htruncated, hlength⟩ := truncate_of_found (Nat.not_le.mp hshort) hfound
    rw [htruncated]
    exact ⟨suffix_foundSuffix.trans (List.suffix_append _ _), hlength⟩

theorem not_mem_truncate
    (hlost : ¬ SuffixFits base id limit) :
    ']' ∉ truncateNameWithSuffix (fullOrderName base id) limit := by
  rw [SuffixFits, not_or, Nat.not_le, Nat.not_le] at hlost
  exact truncate_of_not_found hlost.1 hlost.2

theorem mem_of_suffix
    {text : Text}
    (h : id.suffix <:+ text) :
    ']' ∈ text :=
  h.subset (by simp [PreOrderId.suffix, bracketed])

/-- The cut name of an order keeps its promises exactly where its last bracket fits. -/
theorem truncationContract_iff
    (base : Text)
    (id : PreOrderId)
    (limit : Nat) :
    TruncationContract base id limit ↔ SuffixFits base id limit := by
  constructor
  · intro hcontract
    by_contra hlost
    exact not_mem_truncate hlost (mem_of_suffix hcontract.keeps)
  · intro hfits
    obtain ⟨hkeeps, hlength⟩ := suffix_truncate hfits
    refine ⟨hlength, hkeeps, truncate_of_le hlength, ?_⟩
    intro base' id' hne hsame
    by_cases hfits' : SuffixFits base' id' limit
    · have hkeeps' := (suffix_truncate hfits').1
      rw [hsame] at hkeeps'
      exact hne (PreOrderId.suffix_inj hkeeps' hkeeps)
    · have hlost := not_mem_truncate hfits'
      rw [hsame] at hlost
      exact hlost (mem_of_suffix hkeeps)

end Truncation

section Orders

variable {base : Text} {id : PreOrderId} {limit : Nat}

/-- The names of orders are what the templates and the suffixes promise exactly where the
template is safe with its values and the last bracket of the name fits. -/
theorem ad_server_names
    (template : Text)
    (context : Context)
    (base : Text)
    (id : PreOrderId)
    (limit : Nat) :
    NamingContract template context ∧ TruncationContract base id limit ↔
      SafelyNamed template context ∧ SuffixFits base id limit :=
  and_congr (namingContract_iff template context) (truncationContract_iff base id limit)

end Orders

section Samples

/-- A generated name that mentions a variable of the template. -/
def generatedContext : Context := fun name =>
  if name = "auto_name".toList then some (.text "Sale {brand_name}".toList)
  else if name = "brand_name".toList then some (.text "acme.com".toList)
  else none

/-- The identifiers of two orders. -/
def firstOrder : PreOrderId where
  text := "gam_00000001".toList
  plain := by simp

def secondOrder : PreOrderId where
  text := "gam_00000002".toList
  plain := by simp

/-- A base with a bracket that it does not close, longer than the limit. -/
def openBase : Text :=
  '[' :: List.replicate 255 'a'

/-- The value of a placeholder is rewritten, and two orders get the same name. -/
theorem value_rewritten_and_names_shared :
    (applyNamingTemplate "{auto_name} {brand_name}".toList generatedContext =
          "Sale acme.com acme.com".toList ∧
        ¬ NamingContract "{auto_name} {brand_name}".toList generatedContext) ∧
      firstOrder.suffix.length + ellipsis.length < maxOrderNameLength ∧
      truncateNameWithSuffix (fullOrderName openBase secondOrder) maxOrderNameLength =
          truncateNameWithSuffix (fullOrderName openBase firstOrder) maxOrderNameLength ∧
        ¬ TruncationContract openBase firstOrder maxOrderNameLength := by
  have hname : applyNamingTemplate "{auto_name} {brand_name}".toList generatedContext =
      "Sale acme.com acme.com".toList := by
    decide +kernel
  have hshared : truncateNameWithSuffix (fullOrderName openBase secondOrder) maxOrderNameLength =
      truncateNameWithSuffix (fullOrderName openBase firstOrder) maxOrderNameLength := by
    decide +kernel
  refine ⟨⟨hname, fun hcontract => ?_⟩, by decide +kernel, hshared, fun hcontract => ?_⟩
  · have hresult := hcontract.result
    rw [hname] at hresult
    revert hresult
    decide +kernel
  · exact hcontract.unique openBase secondOrder (by decide +kernel) hshared

end Samples

end Naming
end SalesAgent
