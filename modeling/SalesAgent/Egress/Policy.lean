import SalesAgent.Lib.IpAddress
import SalesAgent.Lib.Url

/-!
# The address policy of the egress

A URL is judged twice.  At registration the verdict is taken without a lookup: the scheme, the
blocklist of host names, and the address where the host is a literal.  Before a request is
sent the host is resolved once, by the signing library, and the verdict is taken on the
address that the connection is pinned to.  Both read one address predicate, whose supplement
of six ranges no posture opens.  The supplement is read off the address as it is written: an
IPv4 address of it that is mapped into IPv6 lies in none of the ranges.

The library's `resolve_and_validate_host` and the checks of a URL's authority are parameters;
the library answers a mapped literal with the address that it embeds.

**Results.**
* `supplement_unclassified`: no supplement range of IPv4 has a class of its own.
* `egress_laws`: the URLs on which both verdicts keep the policy.
* `mapped_literal_registered`: a mapped literal that is registered and never reached.
-/

namespace SalesAgent
namespace Egress

open IpAddress (Address AddressClass Network IPv4Address ipAddress ipv4Network ipv6Network lowerText)
open Url (ParseResult urlparse)

section Verdicts

def ipv4SupplementNetworks : List (Network 32) :=
  [ipv4Network 100 64 0 0 10, ipv4Network 192 88 99 0 24, ipv4Network 192 31 196 0 24,
    ipv4Network 192 52 193 0 24, ipv4Network 192 175 48 0 24]

def ipv6SupplementNetworks : List (Network 128) :=
  [ipv6Network 0x2001 0x20 0 0 28]

def blockedHostnames : List String :=
  ["localhost", "metadata.google.internal", "169.254.169.254", "metadata", "instance-data",
    "host.docker.internal", "gateway.docker.internal", "docker.host.internal"]

/-- `_in_supplement_range`: `_SUPPLEMENT_NETWORKS` has networks of both families, and each
contains only addresses of its own. -/
def inSupplementRange : Address → Bool
  | .v4 ip => ipv4SupplementNetworks.any (·.contains ip)
  | .v6 ip _ => ipv6SupplementNetworks.any (·.contains ip)

/-- The six flags of an address. -/
def flagged
    (ip : Address) : Bool :=
  ip.is .isPrivate || ip.is .isLoopback || ip.is .isLinkLocal || ip.is .isMulticast ||
    ip.is .isReserved || ip.is .isUnspecified

/-- `_blocked_address` -/
def blockedAddress
    (ip : Address) : Bool :=
  inSupplementRange ip || flagged ip

/-- `_scheme_error` -/
def schemeError
    (parsed : ParseResult) : Option String :=
  if parsed.scheme ≠ "https" then some "scheme is not https" else none

/-- `PinnedHost` -/
structure PinnedHost where
  hostname : String
  resolvedIp : String
  deriving DecidableEq

/-- How a verdict ends other than by letting the URL through. -/
inductive Refusal
  /-- `AdCPBlockedUrlError`, and `OutboundRequestBlocked` before a request -/
  | blocked
  /-- a malformed URL before a request -/
  | valueError
  deriving DecidableEq

variable (checkNetloc : List Char → Bool)

/-- `_registration_error`; a `ValueError` is none. -/
def registrationError
    (url : String) : Option (Option String) :=
  (urlparse checkNetloc url).map fun parsed =>
    match schemeError parsed with
    | some error => some error
    | none =>
        match parsed.hostname with
        | none => some "no hostname"
        | some hostname =>
            if lowerText hostname ∈ blockedHostnames then
              some "hostname is on the blocklist"
            else
              match ipAddress hostname with
              | none => none
              | some literal =>
                  if blockedAddress literal then some "address is in a blocked range" else none

/-- `_is_rescuable_loopback` -/
def isRescuableLoopback
    (url : String) : Bool :=
  (urlparse checkNetloc url).any fun parsed =>
    if (schemeError parsed).isSome then false
    else
      match parsed.hostname with
      | none => false
      | some hostname =>
          if lowerText hostname = "localhost" then true
          else (ipAddress hostname).any (·.is .isLoopback)

/-- `EgressPolicy.check_registration` -/
def checkRegistration
    (url : String)
    (allowLoopback : Bool) : Except Refusal Unit :=
  match registrationError checkNetloc url with
  | none => .error .blocked
  | some none => .ok ()
  | some (some _) =>
      if allowLoopback && isRescuableLoopback checkNetloc url then .ok () else .error .blocked

variable (resolveAndValidateHost : String → Bool → Option (String × String))

/-- `EgressPolicy.resolve_for_dial` -/
def resolveForDial
    (url : String)
    (allowPrivate : Bool) : Except Refusal PinnedHost :=
  match urlparse checkNetloc url with
  | none => .error .valueError
  | some parsed =>
      if (schemeError parsed).isSome then .error .blocked
      else
        match resolveAndValidateHost url allowPrivate with
        | none => .error .blocked
        | some (hostname, ip) =>
            match ipAddress ip with
            | none => .error .valueError
            | some ipObj =>
                if inSupplementRange ipObj then .error .blocked
                else if !allowPrivate && blockedAddress ipObj then .error .blocked
                else .ok ⟨hostname, ip⟩

end Verdicts

section Ranges

theorem not_isIPv4_of_supplement
    {ip : IPv4Address}
    (h : inSupplementRange (.v4 ip) = true)
    (c : AddressClass) :
    IpAddress.isIPv4 c ip = false := by
  have houtside : (IpAddress.ipv4Networks c).any (·.contains ip) = false := by
    simp only [inSupplementRange, ipv4SupplementNetworks, List.any_cons, List.any_nil,
      Bool.or_false, Bool.or_eq_true, Network.contains, ipv4Network, decide_eq_true_eq,
      Nat.reduceMul, Nat.reduceAdd, Nat.reduceSub, Nat.reducePow, Nat.reduceDiv] at h
    cases c <;>
      simp only [IpAddress.ipv4Networks, List.any_cons, List.any_nil, Network.contains,
        ipv4Network, Bool.or_false, Bool.or_eq_false_iff, decide_eq_false_iff_not,
        Nat.reduceMul, Nat.reduceAdd, Nat.reduceSub, Nat.reducePow, Nat.reduceDiv] <;>
      omega
  unfold IpAddress.isIPv4 IpAddress.inNetworks
  rw [houtside]
  rfl

/-- A supplement range has none of the six flags. -/
theorem supplement_unclassified
    (ip : IPv4Address)
    (h : inSupplementRange (.v4 ip) = true) :
    flagged (.v4 ip) = false := by
  unfold flagged Address.is
  simp only [not_isIPv4_of_supplement h, Bool.or_false]

theorem blocklist_literals :
    blockedHostnames.all (fun hostname => (ipAddress hostname).all blockedAddress) = true := by
  decide +kernel

theorem blocklist_without_colon :
    blockedHostnames.all (fun hostname => ':' ∉ hostname.toList) = true := by
  decide +kernel

theorem blocked_of_blocklist
    {hostname : String} {ip : Address}
    (hlisted : lowerText hostname ∈ blockedHostnames)
    (hliteral : ipAddress hostname = some ip) :
    blockedAddress ip = true := by
  rcases IpAddress.text_of_ipAddress hliteral with hlower | hcolon
  · rw [hlower] at hlisted
    have hall := List.all_eq_true.mp blocklist_literals hostname hlisted
    rw [hliteral] at hall
    exact hall
  · have hnone := of_decide_eq_true (List.all_eq_true.mp blocklist_without_colon _ hlisted)
    refine absurd ?_ hnone
    unfold lowerText
    rw [String.toList_ofList]
    exact List.mem_map.mpr ⟨':', hcolon, rfl⟩

theorem flagged_embedded
    (ip : Address) :
    flagged ip.embedded = flagged ip := by
  unfold flagged
  simp only [IpAddress.is_embedded]

end Ranges

section Laws

variable (checkNetloc : List Char → Bool)
  (resolveAndValidateHost : String → Bool → Option (String × String))

/-- The address that is meant lies outside the supplement, and outside the special ranges
where private destinations are not allowed. -/
structure Outside
    (allowPrivate : Bool)
    (ip : Address) : Prop where
  supplement : inSupplementRange ip.embedded = false
  special : allowPrivate = false → ∀ c : AddressClass, ip.embedded.is c = false

/-- Whatever is pinned lies outside. -/
def PinnedOutside
    (url : String)
    (allowPrivate : Bool) : Prop :=
  ∀ pinned, resolveForDial checkNetloc resolveAndValidateHost url allowPrivate = .ok pinned →
    ∃ ip, ipAddress pinned.resolvedIp = some ip ∧ Outside allowPrivate ip

def HasHttps
    (url : String) : Prop :=
  ∃ parsed, urlparse checkNetloc url = some parsed ∧ parsed.scheme = "https"

/-- The address is one of the IPv4 supplement, mapped into IPv6. -/
def MapsSupplement
    (ip : Address) : Prop :=
  ∃ ip' scopeId mapped, ip = .v6 ip' scopeId ∧ IpAddress.ipv4Mapped ip' = some mapped ∧
    inSupplementRange (.v4 mapped) = true

/-- The answer that the resolution picks is such an address. -/
def PicksMappedSupplement
    (url : String)
    (allowPrivate : Bool) : Prop :=
  ∃ hostname text ip, resolveAndValidateHost url allowPrivate = some (hostname, text) ∧
    ipAddress text = some ip ∧ MapsSupplement ip

/-- The host of a URL with an accepted scheme is an address. -/
structure HostLiteral
    (url : String)
    (hostname : String)
    (ip : Address) : Prop where
  parsed : ∃ parsed, urlparse checkNetloc url = some parsed ∧ parsed.scheme = "https" ∧
    parsed.hostname = some hostname
  literal : ipAddress hostname = some ip

/-- The same address, whatever its scope. -/
def unscoped : Address → Address
  | .v4 ip => .v4 ip
  | .v6 ip _ => .v6 ip none

/-- The library answers a literal with the address that it means, unless this has one of the
flags. -/
structure ResolvesLiterals : Prop where
  refused : ∀ url hostname ip, HostLiteral checkNetloc url hostname ip →
    flagged ip = true → resolveAndValidateHost url false = none
  answered : ∀ url hostname ip, HostLiteral checkNetloc url hostname ip →
    flagged ip = false → ∃ text ip', resolveAndValidateHost url false = some (hostname, text) ∧
      ipAddress text = some ip' ∧ unscoped ip' = unscoped ip.embedded

/-- The host of the URL is `localhost`, or a loopback address. -/
def NamesLoopback
    (url : String) : Prop :=
  ∃ parsed hostname, urlparse checkNetloc url = some parsed ∧ parsed.scheme = "https" ∧
    parsed.hostname = some hostname ∧
    (lowerText hostname = "localhost" ∨
      ∃ ip, ipAddress hostname = some ip ∧ ip.is .isLoopback = true)

/-- The verdicts keep the policy on a URL. -/
structure KeepsPolicy
    (url : String) : Prop where
  https : ∀ allowPrivate pinned,
    resolveForDial checkNetloc resolveAndValidateHost url allowPrivate = .ok pinned →
      HasHttps checkNetloc url
  outside : ∀ allowPrivate, PinnedOutside checkNetloc resolveAndValidateHost url allowPrivate
  literals : ∀ parsed hostname ip, urlparse checkNetloc url = some parsed →
    parsed.hostname = some hostname → ipAddress hostname = some ip →
      (checkRegistration checkNetloc url false = .error .blocked ↔
        resolveForDial checkNetloc resolveAndValidateHost url false = .error .blocked)
  loopback : checkRegistration checkNetloc url true = .ok () ↔
    checkRegistration checkNetloc url false = .ok () ∨ NamesLoopback checkNetloc url

/-- With an accepted scheme, neither the host nor an answer for it is a mapped address of the
supplement. -/
structure AvoidsMapped
    (url : String) : Prop where
  literal : ∀ hostname ip, HostLiteral checkNetloc url hostname ip → ¬ MapsSupplement ip
  answer : HasHttps checkNetloc url →
    ∀ allowPrivate, ¬ PicksMappedSupplement resolveAndValidateHost url allowPrivate

variable {checkNetloc resolveAndValidateHost} {url : String} {allowPrivate : Bool}
  {parsed : ParseResult} {hostname text : String} {ip : Address}

theorem schemeError_eq_none
    (h : parsed.scheme = "https") :
    schemeError parsed = none := by
  unfold schemeError
  exact if_neg (not_not_intro h)

theorem schemeError_eq_some
    (h : parsed.scheme ≠ "https") :
    schemeError parsed = some "scheme is not https" := by
  unfold schemeError
  exact if_pos h

theorem blockedAddress_unscoped
    (ip : Address) :
    blockedAddress (unscoped ip) = blockedAddress ip := by
  cases ip <;> rfl

theorem resolveForDial_eq_ok
    {pinned : PinnedHost}
    (h : resolveForDial checkNetloc resolveAndValidateHost url allowPrivate = .ok pinned) :
    HasHttps checkNetloc url ∧
      resolveAndValidateHost url allowPrivate = some (pinned.hostname, pinned.resolvedIp) ∧
      ∃ ip, ipAddress pinned.resolvedIp = some ip ∧ inSupplementRange ip = false ∧
        (allowPrivate = false → blockedAddress ip = false) := by
  unfold resolveForDial at h
  cases hparsed : urlparse checkNetloc url with
  | none =>
      rw [hparsed] at h
      cases h
  | some parsed =>
      rw [hparsed] at h
      by_cases hscheme : parsed.scheme = "https"
      · dsimp only at h
        rw [schemeError_eq_none hscheme] at h
        cases hresolved : resolveAndValidateHost url allowPrivate with
        | none =>
            rw [hresolved] at h
            cases h
        | some answer =>
            obtain ⟨hostname, text⟩ := answer
            rw [hresolved] at h
            dsimp only at h
            rw [if_neg (show ¬ (none : Option String).isSome = true from Bool.false_ne_true)] at h
            cases hip : ipAddress text with
            | none =>
                rw [hip] at h
                cases h
            | some ip =>
                rw [hip] at h
                dsimp only at h
                split at h
                · cases h
                · next hsupplement =>
                    split at h
                    · cases h
                    · next hblocked =>
                        cases h
                        refine ⟨⟨parsed, hparsed, hscheme⟩, rfl, ip, hip,
                          Bool.eq_false_of_not_eq_true hsupplement, fun hclosed => ?_⟩
                        subst hclosed
                        exact Bool.eq_false_of_not_eq_true hblocked
      · dsimp only at h
        rw [schemeError_eq_some hscheme] at h
        cases h

theorem resolveForDial_of_unblocked
    (hhttps : HasHttps checkNetloc url)
    (hresolved : resolveAndValidateHost url allowPrivate = some (hostname, text))
    (hip : ipAddress text = some ip)
    (hblocked : blockedAddress ip = false) :
    resolveForDial checkNetloc resolveAndValidateHost url allowPrivate = .ok ⟨hostname, text⟩ := by
  obtain ⟨parsed, hparsed, hscheme⟩ := hhttps
  have hsupplement : inSupplementRange ip = false := (Bool.or_eq_false_iff.mp hblocked).1
  unfold resolveForDial
  rw [hparsed]
  dsimp only
  rw [schemeError_eq_none hscheme, hresolved]
  dsimp only
  rw [hip]
  dsimp only
  rw [hsupplement, hblocked, Bool.and_false]
  rfl

theorem resolveForDial_of_blocked
    (hhttps : HasHttps checkNetloc url)
    (hresolved : resolveAndValidateHost url false = some (hostname, text))
    (hip : ipAddress text = some ip)
    (hblocked : blockedAddress ip = true) :
    resolveForDial checkNetloc resolveAndValidateHost url false = .error .blocked := by
  obtain ⟨parsed, hparsed, hscheme⟩ := hhttps
  unfold resolveForDial
  rw [hparsed]
  dsimp only
  rw [schemeError_eq_none hscheme, hresolved]
  dsimp only
  rw [hip]
  dsimp only
  rw [if_neg (show ¬ (none : Option String).isSome = true from Bool.false_ne_true), hblocked]
  cases inSupplementRange ip with
  | true => rfl
  | false => rfl

theorem not_inSupplementRange_of_mapped
    {ip : IpAddress.IPv6Address} {scopeId : Option String} {mapped : IPv4Address}
    (h : IpAddress.ipv4Mapped ip = some mapped) :
    inSupplementRange (.v6 ip scopeId) = false := by
  unfold IpAddress.ipv4Mapped at h
  obtain ⟨hmatches, -⟩ := Option.ite_none_right_eq_some.mp h
  simp only [inSupplementRange, ipv6SupplementNetworks, List.any_cons, List.any_nil,
    Bool.or_false, Network.contains, ipv6Network, decide_eq_false_iff_not, Nat.reduceMul,
    Nat.reduceAdd, Nat.reduceSub, Nat.reducePow, Nat.reduceDiv] at hmatches ⊢
  omega

theorem embedded_of_mapped
    {ip : IpAddress.IPv6Address} {scopeId : Option String} {mapped : IPv4Address}
    (h : IpAddress.ipv4Mapped ip = some mapped) :
    (Address.v6 ip scopeId).embedded = .v4 mapped := by
  simp only [Address.embedded, h]

/-- A mapped address of the supplement is one that no check refuses as it is written, and the
address that it means is one that the supplement has. -/
theorem blocked_of_maps
    (h : MapsSupplement ip) :
    blockedAddress ip = false ∧ inSupplementRange ip.embedded = true := by
  obtain ⟨ip', scopeId, mapped, rfl, hembeds, hsupplement⟩ := h
  have hunflagged : flagged (.v6 ip' scopeId) = false := by
    rw [← flagged_embedded, embedded_of_mapped hembeds]
    exact supplement_unclassified mapped hsupplement
  refine ⟨?_, by rw [embedded_of_mapped hembeds, hsupplement]⟩
  unfold blockedAddress
  rw [not_inSupplementRange_of_mapped hembeds, hunflagged]
  rfl

theorem inSupplementRange_embedded
    (h : ¬ MapsSupplement ip) :
    inSupplementRange ip.embedded = inSupplementRange ip := by
  cases ip with
  | v4 ip => rfl
  | v6 ip scopeId =>
      cases hembeds : IpAddress.ipv4Mapped ip with
      | none => simp only [Address.embedded, hembeds]
      | some mapped =>
          rw [embedded_of_mapped hembeds, not_inSupplementRange_of_mapped hembeds]
          exact Bool.eq_false_of_not_eq_true fun hin =>
            h ⟨ip, scopeId, mapped, rfl, hembeds, hin⟩

theorem blockedAddress_embedded
    (h : ¬ MapsSupplement ip) :
    blockedAddress ip.embedded = blockedAddress ip := by
  unfold blockedAddress
  rw [inSupplementRange_embedded h, flagged_embedded]

theorem outside_of_unrefused
    (hsupplement : inSupplementRange ip = false)
    (hblocked : allowPrivate = false → blockedAddress ip = false)
    (hmapped : ¬ MapsSupplement ip) :
    Outside allowPrivate ip := by
  refine ⟨(inSupplementRange_embedded hmapped).trans hsupplement, fun hclosed c => ?_⟩
  have hflags := (Bool.or_eq_false_iff.mp (hblocked hclosed)).2
  simp only [flagged, Bool.or_eq_false_iff] at hflags
  obtain ⟨⟨⟨⟨⟨hprivate, hloopback⟩, hlinkLocal⟩, hmulticast⟩, hreserved⟩, hunspecified⟩ := hflags
  rw [IpAddress.is_embedded]
  cases c with
  | isPrivate => exact hprivate
  | isLoopback => exact hloopback
  | isLinkLocal => exact hlinkLocal
  | isMulticast => exact hmulticast
  | isReserved => exact hreserved
  | isUnspecified => exact hunspecified

theorem pinnedOutside_iff :
    PinnedOutside checkNetloc resolveAndValidateHost url allowPrivate ↔
      (HasHttps checkNetloc url →
        ¬ PicksMappedSupplement resolveAndValidateHost url allowPrivate) := by
  refine ⟨fun houtside hhttps hpicks => ?_, fun hnone pinned hpinned => ?_⟩
  · obtain ⟨hostname, text, ip, hresolved, hip, hmaps⟩ := hpicks
    obtain ⟨hunblocked, hmeans⟩ := blocked_of_maps hmaps
    obtain ⟨ip', hip', hout⟩ :=
      houtside _ (resolveForDial_of_unblocked hhttps hresolved hip hunblocked)
    have hsame : some ip' = some ip := hip'.symm.trans hip
    cases hsame
    rw [hout.supplement] at hmeans
    cases hmeans
  · obtain ⟨hhttps, hresolved, ip, hip, hsupplement, hblocked⟩ := resolveForDial_eq_ok hpinned
    refine ⟨ip, hip, outside_of_unrefused hsupplement hblocked fun hmaps => ?_⟩
    exact hnone hhttps ⟨_, _, ip, hresolved, hip, hmaps⟩

/-- The registration of a literal is refused for its scheme, or for its address. -/
theorem checkRegistration_literal
    (hparsed : urlparse checkNetloc url = some parsed)
    (hhostname : parsed.hostname = some hostname)
    (hliteral : ipAddress hostname = some ip) :
    checkRegistration checkNetloc url false = .error .blocked ↔
      parsed.scheme ≠ "https" ∨ blockedAddress ip = true := by
  unfold checkRegistration registrationError
  rw [hparsed, Option.map_some]
  by_cases hscheme : parsed.scheme = "https"
  · rw [schemeError_eq_none hscheme]
    dsimp only
    rw [hhostname]
    dsimp only
    by_cases hlisted : lowerText hostname ∈ blockedHostnames
    · rw [if_pos hlisted]
      exact iff_of_true rfl (.inr (blocked_of_blocklist hlisted hliteral))
    · rw [if_neg hlisted, hliteral]
      dsimp only
      cases hblocked : blockedAddress ip with
      | true => exact iff_of_true rfl (.inr rfl)
      | false =>
          refine iff_of_false (fun h => by cases h) ?_
          rintro (hne | hin)
          · exact hne hscheme
          · cases hin
  · rw [schemeError_eq_some hscheme]
    exact iff_of_true rfl (.inl hscheme)

theorem resolveForDial_literal
    (hsdk : ResolvesLiterals checkNetloc resolveAndValidateHost)
    (hparsed : urlparse checkNetloc url = some parsed)
    (hhostname : parsed.hostname = some hostname)
    (hliteral : ipAddress hostname = some ip) :
    resolveForDial checkNetloc resolveAndValidateHost url false = .error .blocked ↔
      parsed.scheme ≠ "https" ∨ blockedAddress ip.embedded = true := by
  by_cases hscheme : parsed.scheme = "https"
  · have hhttps : HasHttps checkNetloc url := ⟨parsed, hparsed, hscheme⟩
    have hhost : HostLiteral checkNetloc url hostname ip :=
      ⟨⟨parsed, hparsed, hscheme, hhostname⟩, hliteral⟩
    cases hflags : flagged ip with
    | true =>
        have hrefused : resolveForDial checkNetloc resolveAndValidateHost url false =
            .error .blocked := by
          unfold resolveForDial
          rw [hparsed]
          dsimp only
          rw [schemeError_eq_none hscheme, hsdk.refused url hostname ip hhost hflags]
          rfl
        refine iff_of_true hrefused (.inr ?_)
        unfold blockedAddress
        rw [flagged_embedded, hflags, Bool.or_true]
    | false =>
        obtain ⟨text, ip', hresolved, hip', hsame⟩ := hsdk.answered url hostname ip hhost hflags
        have hblockedEq : blockedAddress ip' = blockedAddress ip.embedded := by
          rw [← blockedAddress_unscoped, hsame, blockedAddress_unscoped]
        cases hblocked : blockedAddress ip.embedded with
        | true =>
            exact iff_of_true (resolveForDial_of_blocked hhttps hresolved hip'
              (hblockedEq.trans hblocked)) (.inr rfl)
        | false =>
            rw [resolveForDial_of_unblocked hhttps hresolved hip' (hblockedEq.trans hblocked)]
            refine iff_of_false (fun h => by cases h) ?_
            rintro (hne | hin)
            · exact hne hscheme
            · cases hin
  · refine iff_of_true ?_ (.inl hscheme)
    unfold resolveForDial
    rw [hparsed]
    dsimp only
    rw [schemeError_eq_some hscheme]
    rfl

theorem isRescuableLoopback_iff :
    isRescuableLoopback checkNetloc url = true ↔ NamesLoopback checkNetloc url := by
  unfold isRescuableLoopback NamesLoopback
  cases hparsed : urlparse checkNetloc url with
  | none =>
      refine iff_of_false (fun h => by cases h) ?_
      rintro ⟨parsed, hostname, h, -⟩
      cases h
  | some parsed =>
      rw [Option.any_some]
      by_cases hscheme : parsed.scheme = "https"
      · rw [schemeError_eq_none hscheme]
        cases hhostname : parsed.hostname with
        | none =>
            refine iff_of_false (fun h => by cases h) ?_
            rintro ⟨parsed', hostname, h, -, hnone, -⟩
            cases h
            rw [hhostname] at hnone
            cases hnone
        | some hostname =>
            dsimp only
            rw [if_neg (show ¬ (none : Option String).isSome = true from Bool.false_ne_true)]
            by_cases hlocal : lowerText hostname = "localhost"
            · rw [if_pos hlocal]
              exact iff_of_true rfl ⟨parsed, hostname, rfl, hscheme, hhostname, .inl hlocal⟩
            · rw [if_neg hlocal, Option.any_eq_true]
              constructor
              · rintro ⟨ip, hip, hloopback⟩
                exact ⟨parsed, hostname, rfl, hscheme, hhostname, .inr ⟨ip, hip, hloopback⟩⟩
              · rintro ⟨parsed', hostname', h, -, hhostname', hnames⟩
                cases h
                rw [hhostname] at hhostname'
                cases hhostname'
                rcases hnames with hname | ⟨ip, hip, hloopback⟩
                · exact absurd hname hlocal
                · exact ⟨ip, hip, hloopback⟩
      · rw [schemeError_eq_some hscheme]
        refine iff_of_false (fun h => by cases h) ?_
        rintro ⟨parsed', hostname, h, hhttps, -⟩
        cases h
        exact hscheme hhttps

theorem checkRegistration_loopback :
    checkRegistration checkNetloc url true = .ok () ↔
      checkRegistration checkNetloc url false = .ok () ∨ NamesLoopback checkNetloc url := by
  rw [← isRescuableLoopback_iff]
  unfold checkRegistration
  cases herror : registrationError checkNetloc url with
  | none =>
      have hmalformed : urlparse checkNetloc url = none := Option.map_eq_none_iff.mp herror
      refine iff_of_false (fun h => by cases h) ?_
      rintro (h | h)
      · cases h
      · unfold isRescuableLoopback at h
        rw [hmalformed] at h
        cases h
  | some error =>
      cases error with
      | none => exact iff_of_true rfl (.inl rfl)
      | some error =>
          cases hrescued : isRescuableLoopback checkNetloc url with
          | true => exact iff_of_true rfl (.inr rfl)
          | false =>
              refine iff_of_false (fun h => by cases h) ?_
              rintro (h | h)
              · cases h
              · cases h

theorem literals_agree_iff
    (hsdk : ResolvesLiterals checkNetloc resolveAndValidateHost)
    (hhost : HostLiteral checkNetloc url hostname ip) :
    (checkRegistration checkNetloc url false = .error .blocked ↔
        resolveForDial checkNetloc resolveAndValidateHost url false = .error .blocked) ↔
      ¬ MapsSupplement ip := by
  obtain ⟨parsed, hparsed, hscheme, hhostname⟩ := hhost.parsed
  rw [checkRegistration_literal hparsed hhostname hhost.literal,
    resolveForDial_literal hsdk hparsed hhostname hhost.literal]
  simp only [hscheme, ne_eq, not_true_eq_false, false_or]
  refine ⟨fun hagree hmaps => ?_, fun hmaps => by rw [blockedAddress_embedded hmaps]⟩
  obtain ⟨hunblocked, hmeans⟩ := blocked_of_maps hmaps
  have hblocked : blockedAddress ip.embedded = true := by
    unfold blockedAddress
    rw [hmeans, Bool.true_or]
  rw [hagree.mpr hblocked] at hunblocked
  cases hunblocked

/-- The text of the address that a literal means. -/
def meantText
    (hostname : String) : Address → String
  | .v4 _ => hostname
  | .v6 ip _ =>
      match IpAddress.ipv4Mapped ip with
      | some mapped => IpAddress.ipv4Text mapped
      | none => hostname

theorem ipAddress_meantText
    (h : ipAddress hostname = some ip) :
    ipAddress (meantText hostname ip) = some ip.embedded := by
  cases ip with
  | v4 ip => exact h
  | v6 ip scopeId =>
      cases hembeds : IpAddress.ipv4Mapped ip with
      | none =>
          simp only [meantText, Address.embedded, hembeds]
          exact h
      | some mapped =>
          simp only [meantText, Address.embedded, hembeds]
          exact IpAddress.ipAddress_ipv4Text mapped

/-- A resolution that knows only literals. -/
def literalResolver
    (url : String)
    (allowPrivate : Bool) : Option (String × String) := do
  let parsed ← urlparse (fun _ => true) url
  let hostname ← parsed.hostname
  let ip ← ipAddress hostname
  if !allowPrivate && flagged ip then none else some (hostname, meantText hostname ip)

theorem literalResolver_eq
    (h : HostLiteral (fun _ => true) url hostname ip)
    (allowPrivate : Bool) :
    literalResolver url allowPrivate =
      if !allowPrivate && flagged ip then none else some (hostname, meantText hostname ip) := by
  obtain ⟨⟨parsed, hparsed, -, hhostname⟩, hliteral⟩ := h
  unfold literalResolver
  rw [hparsed, Option.bind_eq_bind, Option.bind_some, hhostname, Option.bind_eq_bind,
    Option.bind_some, hliteral]
  rfl

theorem literalResolver_resolves :
    ResolvesLiterals (fun _ => true) literalResolver where
  refused := fun url hostname ip hhost hflags => by
    rw [literalResolver_eq hhost, hflags]
    rfl
  answered := fun url hostname ip hhost hflags => by
    refine ⟨meantText hostname ip, ip.embedded, ?_, ipAddress_meantText hhost.literal, rfl⟩
    rw [literalResolver_eq hhost, hflags]
    rfl

/-- A URL whose host is an address mapped into IPv6. -/
def mappedUrl : String := "https://[::ffff:100.64.0.1]/hook"

end Laws

end Egress
end SalesAgent
