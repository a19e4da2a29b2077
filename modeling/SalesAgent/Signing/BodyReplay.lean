import SalesAgent.Signing.Capture

/-!
# The replayed body

The capture reads the body of a request off its receiving channel, and hands the application
a channel that begins with what it read, as one message.  It leaves off at the last part, at
the cap or at a disconnect; until one of them arrives the application is not called.

**Results.**
* `SameStream`: two streams of messages that no reader can tell apart but by their cuts.
* `lossless_of_bufferReplay`: the replayed channel carries the stream of the original.
* `capture_lossless`: so does the channel that the application is called with.
-/

namespace SalesAgent
namespace Signing

section Streams

variable {a b c : List Received} {m : Received}

def Received.body : Received → List UInt8
  | .request chunk _ => chunk
  | .disconnect => []

def Received.moreBody : Received → Option Bool
  | .request _ more => some more
  | .disconnect => none

/-- The bytes of a stream. -/
def bytesOf
    (messages : List Received) : List UInt8 :=
  messages.flatMap Received.body

/-- `more_body` of the last part. -/
def lastMore
    (messages : List Received) : Option Bool :=
  (messages.filterMap Received.moreBody).getLast?

/-- What was read before each disconnect. -/
def disconnectsAfter
    (read : List UInt8) : List Received → List (List UInt8)
  | [] => []
  | .disconnect :: rest => read :: disconnectsAfter read rest
  | .request chunk _ :: rest => disconnectsAfter (read ++ chunk) rest

/-- What a reader gathers up to the last part, or to a disconnect. -/
def wholeBody : List Received → List UInt8
  | .request chunk true :: rest => chunk ++ wholeBody rest
  | .request chunk false :: _ => chunk
  | _ => []

/-- Two streams that differ in the cuts between their parts. -/
structure SameStream
    (a b : List Received) : Prop where
  bytes : bytesOf a = bytesOf b
  last : lastMore a = lastMore b
  disconnects : ∀ read, disconnectsAfter read a = disconnectsAfter read b
  whole : wholeBody a = wholeBody b

theorem SameStream.refl
    (a : List Received) :
    SameStream a a :=
  ⟨rfl, rfl, fun _ => rfl, rfl⟩

theorem SameStream.trans
    (hab : SameStream a b)
    (hbc : SameStream b c) :
    SameStream a c where
  bytes := hab.bytes.trans hbc.bytes
  last := hab.last.trans hbc.last
  disconnects := fun read => (hab.disconnects read).trans (hbc.disconnects read)
  whole := hab.whole.trans hbc.whole

theorem lastMore_cons
    (m : Received)
    (a : List Received) :
    lastMore (m :: a) = (lastMore a).or m.moreBody := by
  unfold lastMore
  cases hmore : m.moreBody with
  | none =>
      rw [List.filterMap_cons_none hmore, Option.or_none]
  | some more =>
      rw [List.filterMap_cons_some hmore, List.getLast?_cons]
      cases (a.filterMap Received.moreBody).getLast? <;> rfl

theorem SameStream.cons
    (h : SameStream a b)
    (m : Received) :
    SameStream (m :: a) (m :: b) where
  bytes := by
    unfold bytesOf
    rw [List.flatMap_cons, List.flatMap_cons]
    exact congrArg (m.body ++ ·) h.bytes
  last := by
    rw [lastMore_cons, lastMore_cons, h.last]
  disconnects := fun read => by
    cases m with
    | disconnect => exact congrArg (read :: ·) (h.disconnects read)
    | request chunk more => exact h.disconnects (read ++ chunk)
  whole := by
    cases m with
    | disconnect => rfl
    | request chunk more =>
        cases more with
        | true => exact congrArg (chunk ++ ·) h.whole
        | false => rfl

/-- A part and the one that follows it, as one. -/
theorem SameStream.merge
    (first second : List UInt8)
    (more : Bool)
    (rest : List Received) :
    SameStream (.request first true :: .request second more :: rest)
      (.request (first ++ second) more :: rest) where
  bytes := by
    unfold bytesOf
    rw [List.flatMap_cons, List.flatMap_cons, List.flatMap_cons]
    exact (List.append_assoc _ _ _).symm
  last := by
    rw [lastMore_cons, lastMore_cons, lastMore_cons]
    cases lastMore rest <;> rfl
  disconnects := fun read => congrArg (disconnectsAfter · rest) (List.append_assoc _ _ _)
  whole := by
    cases more with
    | true => exact (List.append_assoc _ _ _).symm
    | false => rfl

/-- Parts that others follow. -/
def openParts
    (chunks : List (List UInt8)) : List Received :=
  chunks.map (Received.request · true)

theorem sameStream_openParts
    (chunks : List (List UInt8))
    (chunk : List UInt8)
    (more : Bool)
    (rest : List Received) :
    SameStream (openParts chunks ++ .request chunk more :: rest)
      (.request (chunks ++ [chunk]).flatten more :: rest) := by
  induction chunks with
  | nil =>
      rw [List.nil_append, List.flatten_singleton]
      exact .refl _
  | cons first chunks ih =>
      exact (ih.cons (.request first true)).trans (.merge first _ more rest)

end Streams

section Channels

/-- A channel: the messages it holds back, and those of the server, in their order. -/
structure Channel where
  pending : List Received
  live : List Received
  deriving DecidableEq

/-- `receive` of the server. -/
def Channel.direct
    (messages : List Received) : Channel :=
  ⟨[], messages⟩

/-- `replay`; with nothing left on either side the call waits. -/
def Channel.receive : Channel → Option (Received × Channel)
  | ⟨m :: pending, live⟩ => some (m, ⟨pending, live⟩)
  | ⟨[], m :: live⟩ => some (m, ⟨[], live⟩)
  | ⟨[], []⟩ => none

/-- What so many calls receive, and the channel after them. -/
def Channel.reads : Nat → Channel → List Received × Channel
  | 0, c => ([], c)
  | n + 1, c =>
      match c.receive with
      | none => ([], c)
      | some (m, c') => (m :: (c'.reads n).1, (c'.reads n).2)

/-- All that a channel will deliver. -/
def Channel.stream
    (c : Channel) : List Received :=
  c.pending ++ c.live

theorem reads_direct
    (n : Nat)
    (live : List Received) :
    (Channel.direct live).reads n = (live.take n, .direct (live.drop n)) := by
  induction n generalizing live with
  | zero => rfl
  | succ n ih =>
      cases live with
      | nil => rfl
      | cons m live =>
          have hrest := ih live
          unfold Channel.direct at hrest
          unfold Channel.direct Channel.reads Channel.receive
          dsimp only
          rw [hrest]
          rfl

theorem Channel.reads_eq
    (c : Channel)
    (n : Nat) :
    c.reads n =
      (c.stream.take n, ⟨c.pending.drop n, c.live.drop (n - c.pending.length)⟩) := by
  obtain ⟨pending, live⟩ := c
  induction n generalizing pending with
  | zero =>
      rw [Nat.zero_sub]
      rfl
  | succ n ih =>
      cases pending with
      | nil => exact reads_direct (n + 1) live
      | cons m pending =>
          unfold Channel.reads Channel.receive
          dsimp only
          rw [ih pending, List.length_cons, Nat.add_sub_add_right]
          rfl

end Channels

section Buffering

/-- `_BufferedBody`: what was read of the body, what is replayed behind it, and what was left
with the server. -/
structure BufferedReplay where
  chunks : List (List UInt8)
  trailing : List Received
  complete : Bool
  overCap : Bool
  unread : List Received
  deriving DecidableEq

/-- `b"".join(chunks)` -/
def BufferedReplay.body
    (b : BufferedReplay) : List UInt8 :=
  b.chunks.flatten

/-- The channel that the application is handed. -/
def BufferedReplay.channel
    (b : BufferedReplay) : Channel where
  pending :=
    (if b.chunks ≠ [] ∨ b.complete = true then [.request b.body (!b.complete)] else []) ++
      b.trailing
  live := b.unread

/-- The loop of `_buffer_body`.  Without a message it waits. -/
def bufferLoop
    (maxBytes : Nat)
    (chunks : List (List UInt8))
    (size : Nat) : List Received → Option BufferedReplay
  | [] => none
  | .disconnect :: rest => some ⟨chunks, [.disconnect], false, false, rest⟩
  | .request chunk moreBody :: rest =>
      if maxBytes < size + chunk.length then
        some ⟨chunks ++ [chunk], [], !moreBody, true, rest⟩
      else if moreBody then
        bufferLoop maxBytes (chunks ++ [chunk]) (size + chunk.length) rest
      else
        some ⟨chunks ++ [chunk], [], true, false, rest⟩

/-- `_buffer_body` with its channel. -/
def bufferReplay
    (maxBytes : Nat)
    (messages : List Received) : Option BufferedReplay :=
  bufferLoop maxBytes [] 0 messages

/-- The ways the loop leaves off. -/
inductive LeavesOff
    (maxBytes : Nat)
    (messages : List Received) : BufferedReplay → Prop
  | final {chunks : List (List UInt8)} {chunk : List UInt8} {rest : List Received}
      (hread : messages = openParts chunks ++ .request chunk false :: rest)
      (hfits : (chunks ++ [chunk]).flatten.length ≤ maxBytes) :
      LeavesOff maxBytes messages ⟨chunks ++ [chunk], [], true, false, rest⟩
  | cap {chunks : List (List UInt8)} {chunk : List UInt8} {more : Bool} {rest : List Received}
      (hread : messages = openParts chunks ++ .request chunk more :: rest)
      (hover : maxBytes < (chunks ++ [chunk]).flatten.length) :
      LeavesOff maxBytes messages ⟨chunks ++ [chunk], [], !more, true, rest⟩
  | gone {chunks : List (List UInt8)} {rest : List Received}
      (hread : messages = openParts chunks ++ .disconnect :: rest)
      (hfits : chunks.flatten.length ≤ maxBytes) :
      LeavesOff maxBytes messages ⟨chunks, [.disconnect], false, false, rest⟩

/-- The loop goes on while parts that others follow fit. -/
def StillOpen
    (maxBytes : Nat)
    (messages : List Received) : Prop :=
  ∃ chunks, messages = openParts chunks ∧ chunks.flatten.length ≤ maxBytes

variable {maxBytes : Nat} {messages : List Received} {b : BufferedReplay}

theorem openParts_concat
    (chunks : List (List UInt8))
    (chunk : List UInt8)
    (rest : List Received) :
    openParts chunks ++ .request chunk true :: rest = openParts (chunks ++ [chunk]) ++ rest := by
  unfold openParts
  rw [List.map_append, List.append_assoc]
  rfl

theorem length_concat
    (chunks : List (List UInt8))
    (chunk : List UInt8) :
    (chunks ++ [chunk]).flatten.length = chunks.flatten.length + chunk.length := by
  rw [List.flatten_append, List.flatten_singleton, List.length_append]

theorem bufferLoop_spec
    {chunks : List (List UInt8)}
    (hfits : chunks.flatten.length ≤ maxBytes) :
    (∀ b, bufferLoop maxBytes chunks chunks.flatten.length messages = some b →
      LeavesOff maxBytes (openParts chunks ++ messages) b) ∧
    (bufferLoop maxBytes chunks chunks.flatten.length messages = none →
      StillOpen maxBytes (openParts chunks ++ messages)) := by
  induction messages generalizing chunks with
  | nil =>
      refine ⟨fun b h => (by cases h), fun _ => ⟨chunks, List.append_nil _, hfits⟩⟩
  | cons message rest ih =>
      cases message with
      | disconnect =>
          refine ⟨fun b h => ?_, fun h => by cases h⟩
          cases h
          exact .gone rfl hfits
      | request chunk more =>
          unfold bufferLoop
          rw [← length_concat]
          by_cases hover : maxBytes < (chunks ++ [chunk]).flatten.length
          · rw [if_pos hover]
            refine ⟨fun b h => ?_, fun h => by cases h⟩
            cases h
            exact .cap rfl hover
          · rw [if_neg hover]
            have hfits' := Nat.le_of_not_lt hover
            cases more with
            | true =>
                rw [openParts_concat]
                exact ih hfits'
            | false =>
                refine ⟨fun b h => ?_, fun h => by cases h⟩
                cases h
                exact .final rfl hfits'

theorem leavesOff_of_bufferReplay
    (h : bufferReplay maxBytes messages = some b) :
    LeavesOff maxBytes messages b :=
  (bufferLoop_spec (Nat.zero_le maxBytes)).1 b h

theorem bufferLoop_of_openParts
    {chunks later : List (List UInt8)}
    (hfits : (chunks ++ later).flatten.length ≤ maxBytes) :
    bufferLoop maxBytes chunks chunks.flatten.length (openParts later) = none := by
  induction later generalizing chunks with
  | nil => rfl
  | cons chunk later ih =>
      rw [List.append_cons] at hfits
      have hchunk : (chunks ++ [chunk]).flatten.length ≤ maxBytes := by
        rw [List.flatten_append, List.length_append] at hfits
        exact Nat.le_trans (Nat.le_add_right _ _) hfits
      unfold openParts bufferLoop
      dsimp only [List.map]
      rw [← length_concat, if_neg (Nat.not_lt_of_le hchunk), if_pos rfl]
      exact ih hfits

theorem bufferReplay_eq_none
    (maxBytes : Nat)
    (messages : List Received) :
    bufferReplay maxBytes messages = none ↔ StillOpen maxBytes messages := by
  refine ⟨(bufferLoop_spec (Nat.zero_le maxBytes)).2, ?_⟩
  rintro ⟨chunks, rfl, hfits⟩
  exact bufferLoop_of_openParts hfits

theorem bufferBody_of_bufferLoop
    {chunks : List (List UInt8)}
    (h : bufferLoop maxBytes chunks chunks.flatten.length messages = some b) :
    bufferBody maxBytes chunks.flatten messages = ⟨b.body, b.complete, b.overCap⟩ := by
  induction messages generalizing chunks with
  | nil => cases h
  | cons message rest ih =>
      cases message with
      | disconnect =>
          cases h
          rfl
      | request chunk more =>
          unfold bufferLoop at h
          unfold bufferBody
          have hjoin : chunks.flatten ++ chunk = (chunks ++ [chunk]).flatten := by
            rw [List.flatten_append, List.flatten_singleton]
          rw [← length_concat] at h
          rw [hjoin]
          by_cases hover : maxBytes < (chunks ++ [chunk]).flatten.length
          · rw [if_pos hover] at h ⊢
            cases h
            rfl
          · rw [if_neg hover] at h ⊢
            cases more with
            | true => exact ih h
            | false =>
                cases h
                rfl

end Buffering

section Lossless

variable {maxBytes : Nat} {messages : List Received} {b : BufferedReplay}

/-- What the capture keeps of a stream, and what it says of it. -/
structure Lossless
    (maxBytes : Nat)
    (messages : List Received)
    (b : BufferedReplay) : Prop where
  /-- the application gets the stream of the server -/
  same : SameStream messages b.channel.stream
  /-- every message is taken from the server once, the read ones by the capture and the
  others by the calls that have nothing pending -/
  once : ∃ read, messages = read ++ b.unread ∧ b.body = bytesOf read ∧
    ∀ n, b.channel.reads n = (b.channel.stream.take n,
      ⟨b.channel.pending.drop n, b.unread.drop (n - b.channel.pending.length)⟩)
  complete : b.complete = true ↔
    ∃ read chunk, messages = read ++ .request chunk false :: b.unread
  overCap : b.overCap = true ↔ maxBytes < b.body.length
  whole : b.complete = true → b.body = wholeBody messages

theorem bytesOf_openParts
    (chunks : List (List UInt8)) :
    bytesOf (openParts chunks) = chunks.flatten := by
  unfold bytesOf openParts
  rw [List.flatMap_map]
  exact List.flatMap_id'

theorem bytesOf_read
    (chunks : List (List UInt8))
    (m : Received) :
    bytesOf (openParts chunks ++ [m]) = chunks.flatten ++ m.body := by
  have hopen := bytesOf_openParts chunks
  unfold bytesOf at hopen ⊢
  rw [List.flatMap_append, hopen, List.flatMap_singleton]

theorem eq_of_last
    {read read' rest : List Received} {m m' : Received}
    (h : read ++ m :: rest = read' ++ m' :: rest) :
    m = m' := by
  rw [List.append_cons read, List.append_cons read'] at h
  have hlast := List.append_cancel_right h
  exact (List.append_inj' hlast rfl).2 |> List.singleton_inj.mp

theorem stream_of_part
    {chunks : List (List UInt8)} {chunk : List UInt8} {complete overCap : Bool}
    {rest : List Received} :
    (BufferedReplay.mk (chunks ++ [chunk]) [] complete overCap rest).channel.stream =
      .request (chunks ++ [chunk]).flatten (!complete) :: rest := by
  unfold Channel.stream BufferedReplay.channel
  dsimp only
  rw [if_pos (.inl (List.append_ne_nil_of_right_ne_nil chunks (List.cons_ne_nil _ _)))]
  rfl

theorem lossless_of_bufferReplay
    (h : bufferReplay maxBytes messages = some b) :
    Lossless maxBytes messages b := by
  have hreads := b.channel.reads_eq
  cases leavesOff_of_bufferReplay h with
  | @final chunks chunk rest hread hfits =>
      have hsame := sameStream_openParts chunks chunk false rest
      refine ⟨?_, ⟨openParts chunks ++ [.request chunk false], ?_, ?_, hreads⟩, ?_, ?_, ?_⟩
      · rw [hread, stream_of_part]
        exact hsame
      · rw [hread, List.append_cons]
      · rw [bytesOf_read]
        exact List.flatten_append.trans (congrArg _ List.flatten_singleton)
      · exact ⟨fun _ => ⟨openParts chunks, chunk, hread⟩, fun _ => rfl⟩
      · exact ⟨fun hover => (by cases hover), fun hover => absurd hover (Nat.not_lt_of_le hfits)⟩
      · intro _
        rw [hread]
        exact hsame.whole.symm
  | @cap chunks chunk more rest hread hover =>
      have hsame := sameStream_openParts chunks chunk more rest
      refine ⟨?_, ⟨openParts chunks ++ [.request chunk more], ?_, ?_, hreads⟩, ?_, ?_, ?_⟩
      · rw [hread, stream_of_part, Bool.not_not]
        exact hsame
      · rw [hread, List.append_cons]
      · rw [bytesOf_read]
        exact List.flatten_append.trans (congrArg _ List.flatten_singleton)
      · refine ⟨fun hcomplete => ?_, ?_⟩
        · have hfinal : more = false := (Bool.not_eq_true' _).mp hcomplete
          exact ⟨openParts chunks, chunk, hfinal ▸ hread⟩
        · rintro ⟨read, last, hlast⟩
          have heq := eq_of_last (hread.symm.trans hlast)
          cases heq
          rfl
      · exact ⟨fun _ => hover, fun _ => rfl⟩
      · intro hcomplete
        have hfinal : more = false := (Bool.not_eq_true' _).mp hcomplete
        subst hfinal
        rw [hread]
        exact hsame.whole.symm
  | @gone chunks rest hread hfits =>
      refine ⟨?_, ⟨openParts chunks ++ [.disconnect], ?_, ?_, hreads⟩, ?_, ?_, ?_⟩
      · rw [hread]
        rcases List.eq_nil_or_concat' chunks with rfl | ⟨before, last, rfl⟩
        · exact .refl _
        · have hstream := sameStream_openParts before last true (.disconnect :: rest)
          rw [openParts_concat] at hstream
          unfold Channel.stream BufferedReplay.channel
          dsimp only
          rw [if_pos (.inl (List.append_ne_nil_of_right_ne_nil before (List.cons_ne_nil _ _)))]
          exact hstream
      · rw [hread, List.append_cons]
      · rw [bytesOf_read]
        exact (List.append_nil _).symm
      · refine ⟨fun hcomplete => (by cases hcomplete), ?_⟩
        rintro ⟨read, last, hlast⟩
        have heq := eq_of_last (hread.symm.trans hlast)
        cases heq
      · exact ⟨fun hover => (by cases hover), fun hover => absurd hover (Nat.not_lt_of_le hfits)⟩
      · intro hcomplete
        cases hcomplete

end Lossless

section Middleware

def adcpSurfacePrefixes : List String :=
  ["/mcp", "/a2a", "/api/v1"]

/-- `is_adcp_surface` -/
def isAdcpSurface
    (path : String) : Bool :=
  adcpSurfacePrefixes.any (fun mount => path = mount || (mount ++ "/").isPrefixOf path)

/-- `SignedExchangeCapture.__call__`: what the application is called with, once it is. -/
def signedExchangeCapture
    (isHttp : Bool)
    (routePath : String)
    (scope : Scope)
    (maxBytes : Nat)
    (messages : List Received) : Option (Option HttpExchange × Channel) :=
  if !isHttp || !isAdcpSurface routePath then
    some (none, .direct messages)
  else
    (bufferReplay maxBytes messages).map fun b =>
      (some
        { method := scope.method
          url := targetUri scope
          rawHeaders := scope.headers
          body := b.body
          overCap := b.overCap
          complete := b.complete }, b.channel)

/-- The request is one whose body is captured. -/
def Captured
    (isHttp : Bool)
    (routePath : String) : Prop :=
  isHttp = true ∧ isAdcpSurface routePath = true

variable {isHttp : Bool} {routePath : String} {scope : Scope} {maxBytes : Nat}
  {messages : List Received}

/-- What the capture gives the application. -/
structure CaptureLaws
    (isHttp : Bool)
    (routePath : String)
    (scope : Scope)
    (maxBytes : Nat)
    (messages : List Received) : Prop where
  /-- the application is called at once, or when the body is whole, over the cap or cut off -/
  waits : signedExchangeCapture isHttp routePath scope maxBytes messages = none ↔
    Captured isHttp routePath ∧ StillOpen maxBytes messages
  same : ∀ exchange channel,
    signedExchangeCapture isHttp routePath scope maxBytes messages = some (exchange, channel) →
      SameStream messages channel.stream
  captured : ∀ exchange channel,
    signedExchangeCapture isHttp routePath scope maxBytes messages =
        some (some exchange, channel) →
      exchange = captureExchange scope maxBytes messages ∧
        ∃ b, bufferReplay maxBytes messages = some b ∧ channel = b.channel ∧
          exchange.body = b.body ∧ exchange.complete = b.complete ∧
          exchange.overCap = b.overCap ∧ Lossless maxBytes messages b

theorem signedExchangeCapture_captured
    (h : Captured isHttp routePath) :
    signedExchangeCapture isHttp routePath scope maxBytes messages =
      (bufferReplay maxBytes messages).map fun b =>
        (some ⟨scope.method, targetUri scope, scope.headers, b.body, b.overCap, b.complete⟩,
          b.channel) := by
  unfold signedExchangeCapture
  rw [h.1, h.2]
  rfl

theorem signedExchangeCapture_passed
    (h : ¬ Captured isHttp routePath) :
    signedExchangeCapture isHttp routePath scope maxBytes messages =
      some (none, .direct messages) := by
  unfold signedExchangeCapture
  refine if_pos ?_
  cases hhttp : isHttp with
  | false => rfl
  | true =>
      cases hsurface : isAdcpSurface routePath with
      | false => rfl
      | true => exact absurd ⟨hhttp, hsurface⟩ h

theorem capture_lossless
    (isHttp : Bool)
    (routePath : String)
    (scope : Scope)
    (maxBytes : Nat)
    (messages : List Received) :
    CaptureLaws isHttp routePath scope maxBytes messages := by
  by_cases hcaptured : Captured isHttp routePath
  · have heq : signedExchangeCapture isHttp routePath scope maxBytes messages =
        (bufferReplay maxBytes messages).map fun b =>
          (some ⟨scope.method, targetUri scope, scope.headers, b.body, b.overCap, b.complete⟩,
            b.channel) :=
      signedExchangeCapture_captured hcaptured
    refine ⟨?_, fun exchange channel h => ?_, fun exchange channel h => ?_⟩
    · rw [heq, Option.map_eq_none_iff, bufferReplay_eq_none]
      exact (and_iff_right hcaptured).symm
    · rw [heq] at h
      obtain ⟨b, hb, hgiven⟩ := Option.map_eq_some_iff.mp h
      cases hgiven
      exact (lossless_of_bufferReplay hb).same
    · rw [heq] at h
      obtain ⟨b, hb, hgiven⟩ := Option.map_eq_some_iff.mp h
      cases hgiven
      refine ⟨?_, b, hb, rfl, rfl, rfl, rfl, lossless_of_bufferReplay hb⟩
      have hbody : bufferBody maxBytes [] messages = ⟨b.body, b.complete, b.overCap⟩ :=
        @bufferBody_of_bufferLoop _ _ _ [] hb
      unfold captureExchange
      rw [hbody]
  · have heq : signedExchangeCapture isHttp routePath scope maxBytes messages =
        some (none, .direct messages) :=
      signedExchangeCapture_passed hcaptured
    refine ⟨?_, fun exchange channel h => ?_, fun exchange channel h => ?_⟩
    · rw [heq]
      exact ⟨fun h => (by cases h), fun h => absurd h.1 hcaptured⟩
    · rw [heq] at h
      cases h
      exact .refl _
    · rw [heq] at h
      cases h

/-- A stream of one part that others are to follow. -/
def openStream : List Received :=
  [.request [97] true]

/-- Counterexample: a body whose next part is still out: the server has delivered a part,
and the application is called with no channel that delivers it. -/
theorem part_withheld :
    bytesOf ((Channel.direct openStream).reads 1).1 = [97] ∧
    ¬ ∃ exchange channel,
      signedExchangeCapture true "/mcp" ⟨"POST", "http", none, "/mcp", [], ("", none), []⟩ 1024
          openStream = some (exchange, channel) ∧
        bytesOf channel.stream = bytesOf openStream := by
  refine ⟨by decide, ?_⟩
  rintro ⟨exchange, channel, hcalled, -⟩
  have hwaits : signedExchangeCapture true "/mcp"
      ⟨"POST", "http", none, "/mcp", [], ("", none), []⟩ 1024 openStream = none := by
    decide +kernel
  rw [hwaits] at hcalled
  cases hcalled

end Middleware

end Signing
end SalesAgent
