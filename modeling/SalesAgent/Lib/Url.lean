import Mathlib.Data.List.Basic

/-!
# URLs

What `urlparse` says of the scheme and the host of a URL.  The checks of the authority, which
raise a `ValueError`, are a parameter.
-/

namespace SalesAgent
namespace Url

/-- `ParseResult`, as far as its scheme and its host go. -/
structure ParseResult where
  scheme : String
  netloc : List Char
  deriving DecidableEq

def schemeChar
    (c : Char) : Bool :=
  c.isAlphanum || c = '+' || c = '-' || c = '.'

/-- What stands before the first of a character, and what behind it, where it occurs. -/
def partition
    (sep : Char)
    (text : List Char) : List Char × Option (List Char) :=
  let head := text.takeWhile (· ≠ sep)
  match text.drop head.length with
  | [] => (head, none)
  | _ :: tail => (head, some tail)

/-- The scheme of a text, and what follows it. -/
def splitScheme
    (text : List Char) : List Char × List Char :=
  match partition ':' text with
  | (head, some tail) =>
      if (head.head?.any Char.isAlpha && head.all schemeChar) = true then
        (head.map Char.toLower, tail)
      else
        ([], text)
  | (_, none) => ([], text)

/-- `urlparse`; none is a `ValueError`. -/
def urlparse
    (checkNetloc : List Char → Bool)
    (url : String) : Option ParseResult :=
  let text := (url.toList.dropWhile (·.toNat ≤ 0x20)).filter fun c =>
    c ≠ '\t' && c ≠ '\r' && c ≠ '\n'
  let (scheme, rest) := splitScheme text
  let netloc := match rest with
    | '/' :: '/' :: rest => rest.takeWhile fun c => c ≠ '/' && c ≠ '?' && c ≠ '#'
    | _ => []
  if checkNetloc netloc then some ⟨String.ofList scheme, netloc⟩ else none

/-- `hostname` -/
def ParseResult.hostname
    (parsed : ParseResult) : Option String :=
  let hostinfo := (parsed.netloc.reverse.takeWhile (· ≠ '@')).reverse
  let host := match partition '[' hostinfo with
    | (_, some bracketed) => (partition ']' bracketed).1
    | (_, none) => (partition ':' hostinfo).1
  let (name, zone) := partition '%' host
  if host = [] then none
  else some (String.ofList (name.map Char.toLower ++ (zone.elim [] ('%' :: ·))))

end Url
end SalesAgent
