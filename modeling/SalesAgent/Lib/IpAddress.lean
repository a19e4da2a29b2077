import Mathlib.Algebra.Group.Nat.Defs
import Mathlib.Data.Fin.Basic
import Mathlib.Data.List.Basic

/-!
# IP addresses

Addresses of both families as numbers, with their networks, their text forms and the classes
of special ranges.  An IPv4-mapped IPv6 address has the classes of the address it embeds; a
network contains only addresses of its own family.

**Results.**
* `is_embedded`: a class does not tell a mapped address from the embedded one.
* `text_of_ipAddress`: what the texts of the families look like.
* `ipAddress_ipv4Text`: an IPv4 address is read back from its text.
-/

namespace SalesAgent
namespace IpAddress

section Addresses

abbrev IPv4Address := Fin (2 ^ 32)

abbrev IPv6Address := Fin (2 ^ 128)

/-- An address of either family. -/
inductive Address
  | v4 (ip : IPv4Address)
  | v6 (ip : IPv6Address) (scopeId : Option String)
  deriving DecidableEq

/-- A network among the addresses of so many bits. -/
structure Network
    (bits : Nat) where
  address : Nat
  prefixLen : Nat

/-- `address in network` -/
def Network.contains
    {bits : Nat}
    (network : Network bits)
    (ip : Fin (2 ^ bits)) : Bool :=
  ip.val / 2 ^ (bits - network.prefixLen) = network.address / 2 ^ (bits - network.prefixLen)

/-- `a.b.c.d/len` -/
def ipv4Network
    (a b c d len : Nat) : Network 32 :=
  ⟨((a * 256 + b) * 256 + c) * 256 + d, len⟩

/-- A network by the first four groups of its address. -/
def ipv6Network
    (a b c d len : Nat) : Network 128 :=
  ⟨(((a * 65536 + b) * 65536 + c) * 65536 + d) * 2 ^ 64, len⟩

/-- `ipv4_mapped` -/
def ipv4Mapped
    (ip : IPv6Address) : Option IPv4Address :=
  if ip.val / 2 ^ 32 = 0xFFFF then some (Fin.ofNat (2 ^ 32) ip.val) else none

/-- The address that is meant: of a mapped one, the one it embeds. -/
def Address.embedded : Address → Address
  | .v4 ip => .v4 ip
  | .v6 ip scopeId =>
      match ipv4Mapped ip with
      | some mapped => .v4 mapped
      | none => .v6 ip scopeId

end Addresses

section Classes

/-- The classes of special ranges. -/
inductive AddressClass
  | isPrivate
  | isLoopback
  | isLinkLocal
  | isMulticast
  | isReserved
  | isUnspecified
  deriving DecidableEq

def AddressClass.all : List AddressClass :=
  [.isPrivate, .isLoopback, .isLinkLocal, .isMulticast, .isReserved, .isUnspecified]

def ipv4Networks : AddressClass → List (Network 32)
  | .isPrivate =>
      [ipv4Network 0 0 0 0 8, ipv4Network 10 0 0 0 8, ipv4Network 127 0 0 0 8,
        ipv4Network 169 254 0 0 16, ipv4Network 172 16 0 0 12, ipv4Network 192 0 0 0 24,
        ipv4Network 192 0 0 170 31, ipv4Network 192 0 2 0 24, ipv4Network 192 168 0 0 16,
        ipv4Network 198 18 0 0 15, ipv4Network 198 51 100 0 24, ipv4Network 203 0 113 0 24,
        ipv4Network 240 0 0 0 4, ipv4Network 255 255 255 255 32]
  | .isLoopback => [ipv4Network 127 0 0 0 8]
  | .isLinkLocal => [ipv4Network 169 254 0 0 16]
  | .isMulticast => [ipv4Network 224 0 0 0 4]
  | .isReserved => [ipv4Network 240 0 0 0 4]
  | .isUnspecified => [ipv4Network 0 0 0 0 32]

/-- The addresses of a range that are not of its class. -/
def ipv4Exceptions : AddressClass → List (Network 32)
  | .isPrivate => [ipv4Network 192 0 0 9 32, ipv4Network 192 0 0 10 32]
  | _ => []

def ipv6Networks : AddressClass → List (Network 128)
  | .isPrivate =>
      [⟨1, 128⟩, ⟨0, 128⟩, ⟨0xFFFF * 2 ^ 32, 96⟩, ipv6Network 0x64 0xFF9B 1 0 48,
        ipv6Network 0x100 0 0 0 64, ipv6Network 0x2001 0 0 0 23, ipv6Network 0x2001 0xDB8 0 0 32,
        ipv6Network 0x2002 0 0 0 16, ipv6Network 0x3FFF 0 0 0 20, ipv6Network 0xFC00 0 0 0 7,
        ipv6Network 0xFE80 0 0 0 10]
  | .isLoopback => [⟨1, 128⟩]
  | .isLinkLocal => [ipv6Network 0xFE80 0 0 0 10]
  | .isMulticast => [ipv6Network 0xFF00 0 0 0 8]
  | .isReserved =>
      [ipv6Network 0 0 0 0 8, ipv6Network 0x100 0 0 0 8, ipv6Network 0x200 0 0 0 7,
        ipv6Network 0x400 0 0 0 6, ipv6Network 0x800 0 0 0 5, ipv6Network 0x1000 0 0 0 4,
        ipv6Network 0x4000 0 0 0 3, ipv6Network 0x6000 0 0 0 3, ipv6Network 0x8000 0 0 0 3,
        ipv6Network 0xA000 0 0 0 3, ipv6Network 0xC000 0 0 0 3, ipv6Network 0xE000 0 0 0 4,
        ipv6Network 0xF000 0 0 0 5, ipv6Network 0xF800 0 0 0 6, ipv6Network 0xFE00 0 0 0 9]
  | .isUnspecified => [⟨0, 128⟩]

def ipv6Exceptions : AddressClass → List (Network 128)
  | .isPrivate =>
      [⟨0x20010001 * 2 ^ 96 + 1, 128⟩, ⟨0x20010001 * 2 ^ 96 + 2, 128⟩,
        ipv6Network 0x2001 3 0 0 32, ipv6Network 0x2001 4 0x112 0 48,
        ipv6Network 0x2001 0x20 0 0 28, ipv6Network 0x2001 0x30 0 0 28]
  | _ => []

/-- The address lies in one of the networks, and in no exception. -/
def inNetworks
    {bits : Nat}
    (networks exceptions : List (Network bits))
    (ip : Fin (2 ^ bits)) : Bool :=
  networks.any (·.contains ip) && exceptions.all (! ·.contains ip)

def isIPv4
    (c : AddressClass)
    (ip : IPv4Address) : Bool :=
  inNetworks (ipv4Networks c) (ipv4Exceptions c) ip

/-- `is_private`, `is_loopback`, `is_link_local`, `is_multicast`, `is_reserved` and
`is_unspecified` -/
def Address.is
    (c : AddressClass) : Address → Bool
  | .v4 ip => isIPv4 c ip
  | .v6 ip _ =>
      match ipv4Mapped ip with
      | some mapped => isIPv4 c mapped
      | none => inNetworks (ipv6Networks c) (ipv6Exceptions c) ip

theorem is_embedded
    (c : AddressClass)
    (ip : Address) :
    ip.embedded.is c = ip.is c := by
  cases ip with
  | v4 ip => rfl
  | v6 ip scopeId =>
      cases hmapped : ipv4Mapped ip with
      | none => simp only [Address.embedded, hmapped]
      | some mapped => simp only [Address.embedded, Address.is, hmapped]

end Classes

section Texts

/-- The value of digits in a base. -/
def digitsValue
    (base : Nat)
    (value : Char → Nat)
    (digits : List Char) : Nat :=
  digits.foldl (fun n c => n * base + value c) 0

def hexValue
    (c : Char) : Nat :=
  if c.isDigit then c.toNat - '0'.toNat
  else if 'a' ≤ c ∧ c ≤ 'f' then c.toNat - 'a'.toNat + 10
  else c.toNat - 'A'.toNat + 10

def isHexDigit
    (c : Char) : Bool :=
  c.isDigit || ('a' ≤ c && c ≤ 'f') || ('A' ≤ c && c ≤ 'F')

/-- `_parse_octet` -/
def parseOctet
    (octet : List Char) : Option Nat :=
  if octet = [] ∨ octet.all Char.isDigit = false then none
  else if 3 < octet.length then none
  else if octet ≠ ['0'] ∧ octet.head? = some '0' then none
  else
    let n := digitsValue 10 (fun c => c.toNat - '0'.toNat) octet
    if 255 < n then none else some n

/-- The text of an IPv4 address. -/
def parseIPv4
    (text : List Char) : Option IPv4Address :=
  match (text.splitOn '.').mapM parseOctet with
  | some [a, b, c, d] => some (Fin.ofNat (2 ^ 32) (((a * 256 + b) * 256 + c) * 256 + d))
  | _ => none

/-- `_parse_hextet` -/
def parseHextet
    (hextet : List Char) : Option Nat :=
  if hextet = [] ∨ hextet.all isHexDigit = false ∨ 4 < hextet.length then none
  else some (digitsValue 16 hexValue hextet)

/-- The groups of an IPv6 address, an IPv4-style suffix as two of them. -/
def ipv6Parts
    (parts : List (List Char)) : Option (List (List Char) × List Nat) :=
  match parts.getLast? with
  | none => none
  | some last =>
      if '.' ∈ last then
        (parseIPv4 last).map fun ip => (parts.dropLast, [ip.val / 65536, ip.val % 65536])
      else
        some (parts, [])

/-- The groups before a `::`, or after one; an empty group only touches the `::`. -/
def dropEnd
    (groups : List (List Char)) : Option (List (List Char)) :=
  if groups.head? = some [] then (if groups.length = 1 then some [] else none) else some groups

/-- The number of the groups, around the skipped zeros. -/
def ipv6Value
    (before after : List Nat) : Option IPv6Address :=
  let skipped := List.replicate (8 - before.length - after.length) 0
  some (Fin.ofNat (2 ^ 128) ((before ++ skipped ++ after).foldl (fun n g => n * 65536 + g) 0))

/-- The text of an IPv6 address without its scope. -/
def parseIPv6
    (text : List Char) : Option IPv6Address := do
  let parts := text.splitOn ':'
  if parts.length < 3 then none
  let (groups, suffix) ← ipv6Parts parts
  let total := groups.length + suffix.length
  if 9 < total then none
  -- the places of `::`, the ends aside
  let skips := (List.range total).filter fun i =>
    0 < i && i + 1 < total && groups[i]? = some []
  match skips with
  | [] =>
      if total ≠ 8 then none
      let before ← groups.mapM parseHextet
      ipv6Value (before ++ suffix) []
  | [skip] =>
      let before ← (dropEnd (groups.take skip)).bind (·.mapM parseHextet)
      let after ← if suffix = [] then
          (dropEnd (groups.drop (skip + 1)).reverse).bind fun g => g.reverse.mapM parseHextet
        else
          (groups.drop (skip + 1)).mapM parseHextet
      if 7 < before.length + after.length + suffix.length then none
      ipv6Value before (after ++ suffix)
  | _ => none

/-- `_split_scope_id` -/
def splitScopeId
    (text : List Char) : Option (List Char × Option String) :=
  let addr := text.takeWhile (· ≠ '%')
  match text.drop addr.length with
  | [] => some (addr, none)
  | _ :: scope =>
      if scope = [] ∨ '%' ∈ scope then none else some (addr, some (String.ofList scope))

/-- `ip_address` of a text -/
def ipAddress
    (text : String) : Option Address :=
  let chars := text.toList
  if '/' ∈ chars then none
  else
    match parseIPv4 chars with
    | some ip => some (.v4 ip)
    | none =>
        (splitScopeId chars).bind fun (addr, scopeId) =>
          (parseIPv6 addr).map fun ip => .v6 ip scopeId

/-- `lower` of a text -/
def lowerText
    (text : String) : String :=
  String.ofList (text.toList.map Char.toLower)

theorem toLower_of_isDigit
    {c : Char}
    (h : c.isDigit = true) :
    c.toLower = c := by
  have hlow : c.val.toNat ≤ 57 := by
    unfold Char.isDigit at h
    simp only [Bool.and_eq_true, decide_eq_true_eq, ge_iff_le, UInt32.le_iff_toNat_le] at h
    exact h.2
  unfold Char.toLower
  rw [dif_neg]
  rintro ⟨hupper, -⟩
  have hhigh : 65 ≤ c.val.toNat := UInt32.le_iff_toNat_le.mp hupper
  omega

theorem mem_intercalate
    {sep c : Char} {pieces : List (List Char)}
    (h : c ∈ [sep].intercalate pieces) :
    c = sep ∨ ∃ piece ∈ pieces, c ∈ piece := by
  induction pieces with
  | nil => cases h
  | cons first rest ih =>
      cases rest with
      | nil =>
          rw [List.intercalate_singleton] at h
          exact .inr ⟨first, List.mem_cons_self, h⟩
      | cons second rest =>
          rw [List.intercalate_cons_cons, List.mem_append, List.mem_append,
            List.mem_singleton] at h
          rcases h with (hfirst | hsep) | hrest
          · exact .inr ⟨first, List.mem_cons_self, hfirst⟩
          · exact .inl hsep
          · refine (ih hrest).imp_right ?_
            rintro ⟨piece, hpiece, hc⟩
            exact ⟨piece, List.mem_cons_of_mem _ hpiece, hc⟩

theorem isDigit_of_parseOctet
    {octet : List Char} {n : Nat}
    (h : parseOctet octet = some n) :
    octet.all Char.isDigit = true := by
  unfold parseOctet at h
  split at h
  · cases h
  · next hdigits =>
      cases hall : octet.all Char.isDigit with
      | true => rfl
      | false => exact absurd (.inr hall) hdigits

theorem forall_of_mapM
    {α β : Type*}
    {f : α → Option β} {l : List α} {l' : List β}
    (h : l.mapM f = some l') :
    ∀ a ∈ l, ∃ b, f a = some b := by
  induction l generalizing l' with
  | nil => exact fun a ha => absurd ha List.not_mem_nil
  | cons first rest ih =>
      rw [List.mapM_cons] at h
      obtain ⟨b, hb, hrest⟩ := Option.bind_eq_some_iff.mp h
      obtain ⟨bs, hbs, -⟩ := Option.bind_eq_some_iff.mp hrest
      intro a ha
      rcases List.mem_cons.mp ha with rfl | hmem
      · exact ⟨b, hb⟩
      · exact ih hbs a hmem

theorem lower_eq_of_ipv4
    {text : List Char} {ip : IPv4Address}
    (h : parseIPv4 text = some ip) :
    text.map Char.toLower = text := by
  have hparsed : ∃ octets, (text.splitOn '.').mapM parseOctet = some octets := by
    cases hoctets : (text.splitOn '.').mapM parseOctet with
    | none =>
        unfold parseIPv4 at h
        rw [hoctets] at h
        cases h
    | some octets => exact ⟨octets, rfl⟩
  obtain ⟨octets, hoctets⟩ := hparsed
  have hchar : ∀ c ∈ text, c.toLower = c := by
    intro c hc
    have hjoined : c ∈ ['.'].intercalate (text.splitOn '.') := by
      rwa [List.intercalate_splitOn]
    rcases mem_intercalate hjoined with rfl | ⟨piece, hpiece, hmem⟩
    · rfl
    · obtain ⟨n, hn⟩ := forall_of_mapM hoctets piece hpiece
      exact toLower_of_isDigit (List.all_eq_true.mp (isDigit_of_parseOctet hn) c hmem)
  exact (List.map_congr_left hchar).trans (List.map_id _)

theorem colon_mem_of_ipv6
    {text : List Char} {ip : IPv6Address}
    (h : parseIPv6 text = some ip) :
    ':' ∈ text := by
  by_contra hcolon
  have hone : text.splitOn ':' = [text] := by
    rw [List.splitOn_eq_splitOnP]
    exact List.splitOnP_eq_singleton (fun c hc => beq_false_of_ne (fun heq => hcolon (heq ▸ hc)))
  unfold parseIPv6 at h
  rw [hone] at h
  cases h

/-- The text of an address is that of an IPv4 address, or has a colon. -/
theorem text_of_ipAddress
    {text : String} {ip : Address}
    (h : ipAddress text = some ip) :
    lowerText text = text ∨ ':' ∈ text.toList := by
  unfold ipAddress at h
  dsimp only at h
  split at h
  · cases h
  · cases hv4 : parseIPv4 text.toList with
    | some v4 =>
        refine .inl ?_
        unfold lowerText
        rw [lower_eq_of_ipv4 hv4, String.ofList_toList]
    | none =>
        rw [hv4] at h
        obtain ⟨⟨addr, scopeId⟩, hsplit, hrest⟩ := Option.bind_eq_some_iff.mp h
        obtain ⟨v6, hv6, -⟩ := Option.map_eq_some_iff.mp hrest
        have haddr : addr = text.toList.takeWhile (· ≠ '%') := by
          unfold splitScopeId at hsplit
          dsimp only at hsplit
          split at hsplit
          · cases hsplit
            rfl
          · split at hsplit
            · cases hsplit
            · cases hsplit
              rfl
        refine .inr (List.takeWhile_subset (fun c => decide (c ≠ '%')) ?_)
        rw [← haddr]
        exact colon_mem_of_ipv6 hv6

section RoundTrip

/-- The digits of an octet. -/
def octetText
    (n : Nat) : List Char :=
  let digit := fun d => Char.ofNat ('0'.toNat + d)
  if n < 10 then [digit n]
  else if n < 100 then [digit (n / 10), digit (n % 10)]
  else [digit (n / 100), digit (n / 10 % 10), digit (n % 10)]

/-- The octets of an address. -/
def octets
    (ip : IPv4Address) : List Nat :=
  [ip.val / 2 ^ 24, ip.val / 2 ^ 16 % 256, ip.val / 2 ^ 8 % 256, ip.val % 256]

/-- `str` of an IPv4 address -/
def ipv4Text
    (ip : IPv4Address) : String :=
  String.ofList (['.'].intercalate ((octets ip).map octetText))

theorem octetText_read
    (n : Fin 256) :
    parseOctet (octetText n) = some n.val ∧ (octetText n).all (fun c => c ≠ '.' ∧ c ≠ '/') := by
  revert n
  decide +kernel

theorem octets_lt
    {ip : IPv4Address} {n : Nat}
    (h : n ∈ octets ip) :
    n < 256 := by
  have hip := ip.isLt
  simp only [octets, List.mem_cons, List.not_mem_nil, or_false] at h
  omega

theorem parseIPv4_ipv4Text
    (ip : IPv4Address) :
    parseIPv4 (ipv4Text ip).toList = some ip := by
  have hpieces : ∀ piece ∈ (octets ip).map octetText, '.' ∉ piece := by
    intro piece hpiece hdot
    obtain ⟨n, hn, rfl⟩ := List.mem_map.mp hpiece
    have hall := (octetText_read ⟨n, octets_lt hn⟩).2
    have hno := of_decide_eq_true (List.all_eq_true.mp hall '.' hdot)
    exact hno.1 rfl
  have hparsed : ((octets ip).map octetText).mapM parseOctet = some (octets ip) := by
    have hread : ∀ n ∈ octets ip, parseOctet (octetText n) = some n :=
      fun n hn => (octetText_read ⟨n, octets_lt hn⟩).1
    simp only [octets, List.mem_cons, List.not_mem_nil, or_false, forall_eq_or_imp,
      forall_eq] at hread
    obtain ⟨ha, hb, hc, hd⟩ := hread
    simp only [octets, List.map_cons, List.map_nil, List.mapM_cons, List.mapM_nil, ha, hb, hc, hd]
    rfl
  unfold parseIPv4 ipv4Text
  rw [String.toList_ofList, List.splitOn_intercalate '.' hpieces (by simp [octets]), hparsed]
  refine congrArg some (Fin.ext ?_)
  have hip := ip.isLt
  rw [Fin.val_ofNat]
  omega

/-- An IPv4 address is read back from its text. -/
theorem ipAddress_ipv4Text
    (ip : IPv4Address) :
    ipAddress (ipv4Text ip) = some (.v4 ip) := by
  have hslash : '/' ∉ (ipv4Text ip).toList := by
    intro hmem
    unfold ipv4Text at hmem
    rw [String.toList_ofList] at hmem
    rcases mem_intercalate hmem with hdot | ⟨piece, hpiece, hin⟩
    · cases hdot
    · obtain ⟨n, hn, rfl⟩ := List.mem_map.mp hpiece
      have hall := (octetText_read ⟨n, octets_lt hn⟩).2
      have hno := of_decide_eq_true (List.all_eq_true.mp hall '/' hin)
      exact hno.2 rfl
  unfold ipAddress
  dsimp only
  rw [if_neg hslash, parseIPv4_ipv4Text]

end RoundTrip

end Texts

end IpAddress
end SalesAgent
