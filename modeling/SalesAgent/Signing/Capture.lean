import Mathlib.Data.List.Basic

/-!
# The captured HTTP message

A middleware buffers the body of a request, up to a cap, and records the message as it
arrived: the method, the URL as the client addressed it, the header lines and the body.
The resolver of identities reads its headers from the captured lines, and the verifier
reads whether the message presents a signature.

**Results.**  `disconnected_of_bufferBody`: where the buffered body is neither whole nor
over the cap, the client disconnected.
-/

namespace SalesAgent
namespace Signing

/-- A mapping of header names to values, in the order of its items. -/
abbrev Headers :=
  List (String × String)

/-- `get_header_case_insensitive` -/
def getHeaderCaseInsensitive
    (headers : Headers)
    (name : String) : Option String :=
  (headers.find? fun item => item.1.toLower = name.toLower).map Prod.snd

/-- `headers.get` of a mapping. -/
def Headers.get
    (headers : Headers)
    (name : String) : Option String :=
  headers.lookup name

/-- `bytes.decode("latin-1")` -/
def latin1
    (bytes : List UInt8) : String :=
  String.ofList (bytes.map fun b => Char.ofNat b.toNat)

/-- `bytes.decode("ascii")` -/
def ascii
    (bytes : List UInt8) : Option String :=
  if bytes.all (· < 128) then some (latin1 bytes) else none

/-- The part of a text before the first of some characters. -/
def before
    (stop : List Char)
    (text : String) : String :=
  String.ofList (text.toList.takeWhile (· ∉ stop))

/-- `str.isspace` of one character. -/
def isSpace
    (c : Char) : Bool :=
  c.toNat ∈ [0x09, 0x0a, 0x0b, 0x0c, 0x0d, 0x1c, 0x1d, 0x1e, 0x1f, 0x20, 0x85, 0xa0, 0x1680,
    0x2000, 0x2001, 0x2002, 0x2003, 0x2004, 0x2005, 0x2006, 0x2007, 0x2008, 0x2009, 0x200a,
    0x2028, 0x2029, 0x202f, 0x205f, 0x3000]

/-- `str.strip` -/
def strip
    (text : String) : String :=
  String.ofList ((text.toList.dropWhile isSpace).reverse.dropWhile isSpace).reverse

/-- A raw header line. -/
abbrev RawHeader :=
  List UInt8 × List UInt8

/-- One line joined to the lines before it. -/
def joinLine
    (joined : Headers)
    (line : RawHeader) : Headers :=
  let name := (latin1 line.1).toLower
  let value := latin1 line.2
  if (joined.lookup name).isSome then
    joined.map fun item => if item.1 = name then (name, item.2 ++ ", " ++ value) else item
  else
    joined ++ [(name, value)]

/-- `joined_headers` -/
def joinedHeaders
    (rawHeaders : List RawHeader) : Headers :=
  rawHeaders.foldl joinLine []

/-- `HttpExchange` -/
structure HttpExchange where
  method : String
  url : String
  rawHeaders : List RawHeader
  body : List UInt8
  overCap : Bool := false
  complete : Bool := true
  deriving DecidableEq, Repr

/-- `presents_signature` -/
def HttpExchange.presentsSignature
    (exchange : HttpExchange) : Bool :=
  exchange.rawHeaders.any fun line =>
    (latin1 line.1).toLower = "signature" || (latin1 line.1).toLower = "signature-input"

/-- `headers` -/
def HttpExchange.headers
    (exchange : HttpExchange) : Headers :=
  joinedHeaders exchange.rawHeaders

section Capture

/-- A message of the server on the receiving channel. -/
inductive Received
  | request (body : List UInt8) (moreBody : Bool)
  | disconnect
  deriving DecidableEq, Repr

/-- `_BufferedBody`, without the channel that replays it. -/
structure BufferedBody where
  body : List UInt8
  complete : Bool
  overCap : Bool
  deriving DecidableEq, Repr

/-- `_buffer_body`, from the bytes read so far; a channel that has no more messages is one
whose client is gone. -/
def bufferBody
    (maxBytes : Nat)
    (read : List UInt8) : List Received → BufferedBody
  | [] => ⟨read, false, false⟩
  | .disconnect :: _ => ⟨read, false, false⟩
  | .request chunk moreBody :: rest =>
      if maxBytes < (read ++ chunk).length then
        ⟨read ++ chunk, ! moreBody, true⟩
      else if moreBody then
        bufferBody maxBytes (read ++ chunk) rest
      else
        ⟨read ++ chunk, true, false⟩

/-- What the capture reads of an ASGI scope. -/
structure Scope where
  method : String := "GET"
  scheme : String := "http"
  rawPath : Option (List UInt8)
  path : String
  queryString : List UInt8 := []
  server : String × Option Nat := ("", none)
  headers : List RawHeader

variable (scope : Scope)

/-- `_signed_path` -/
def signedPath : String :=
  match scope.rawPath with
  | none => scope.path
  | some raw =>
      match ascii raw with
      | some path => before ['?'] path
      | none => scope.path

/-- The scheme of the first hop, where a proxy named a web scheme. -/
def clientScheme : String :=
  let forwarded := ((joinedHeaders scope.headers).get "x-forwarded-proto").getD ""
  let scheme := (strip (before [','] forwarded)).toLower
  if scheme = "http" ∨ scheme = "https" then scheme else scope.scheme

/-- The authority the client addressed. -/
def clientAuthority : String :=
  match ((joinedHeaders scope.headers).get "host").filter (· ≠ "") with
  | some host => host
  | none =>
      match scope.server.2.filter (· ≠ 0) with
      | some port => scope.server.1 ++ ":" ++ toString port
      | none => scope.server.1

/-- `_target_uri` -/
def targetUri : String :=
  let query := latin1 scope.queryString
  clientScheme scope ++ "://" ++ clientAuthority scope ++ signedPath scope ++
    if query = "" then "" else "?" ++ query

/-- `SignedExchangeCapture`, on a surface it captures. -/
def captureExchange
    (maxBytes : Nat)
    (received : List Received) : HttpExchange :=
  let buffered := bufferBody maxBytes [] received
  { method := scope.method
    url := targetUri scope
    rawHeaders := scope.headers
    body := buffered.body
    overCap := buffered.overCap
    complete := buffered.complete }

/-- The client went away before the last part of its body. -/
def Disconnected
    (received : List Received) : Prop :=
  Received.disconnect ∈ received ∨ ∀ body, Received.request body false ∉ received

end Capture

/-- A body that is neither whole nor over the cap was cut off by its client. -/
theorem disconnected_of_bufferBody
    {maxBytes : Nat}
    {read : List UInt8}
    {received : List Received}
    (hcomplete : (bufferBody maxBytes read received).complete = false)
    (hcap : (bufferBody maxBytes read received).overCap = false) :
    Disconnected received := by
  induction received generalizing read with
  | nil =>
      exact Or.inr fun _ h => absurd h List.not_mem_nil
  | cons message rest ih =>
      cases message with
      | disconnect =>
          exact Or.inl List.mem_cons_self
      | request chunk moreBody =>
          rw [bufferBody] at hcomplete hcap
          by_cases hbig : maxBytes < (read ++ chunk).length
          · rw [if_pos hbig] at hcap
            cases hcap
          · rw [if_neg hbig] at hcomplete hcap
            cases moreBody with
            | false =>
                cases hcomplete
            | true =>
                rcases ih hcomplete hcap with hdisconnect | hlast
                · exact Or.inl (List.mem_cons_of_mem _ hdisconnect)
                · refine Or.inr fun body hbody => ?_
                  rcases List.mem_cons.mp hbody with heq | hrest
                  · cases heq
                  · exact hlast body hrest

end Signing
end SalesAgent
