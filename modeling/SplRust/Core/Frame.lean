import SplRust.Lib.Splitter
import SplRust.Lib.Word

/-! The multiplex framing of `spl-core/src/frame.rs`: an eight-byte header
(stream id, flags, 24-bit length, all big-endian) followed by the payload. -/

namespace SplRust.Core
open SplRust.Lib List

def flagOpen : UInt8 := 0x01
def flagData : UInt8 := 0x02
def flagClose : UInt8 := 0x04
def flagReset : UInt8 := 0x08
def flagWindow : UInt8 := 0x10
def flagPing : UInt8 := 0x20
def flagPong : UInt8 := 0x40
def flagReservedMask : UInt8 := 0x80

def resetProtocolError : UInt8 := 0x01
def resetFlowControlError : UInt8 := 0x02
def resetStreamLimitExceeded : UInt8 := 0x03
def resetInternalError : UInt8 := 0x04
def resetCancel : UInt8 := 0x05
def resetUnspecified : UInt8 := 0xff

def headerLen : Nat := 8
def maxPayload : Nat := 2 ^ 24 - 1
def recommendedChunk : Nat := 64 * 1024
def controlNonceLen : Nat := 8

def flagsValid (flags : UInt8) : Bool := flags ∈ [0x01, 0x02, 0x03, 0x04, 0x05, 0x06, 0x07, 0x08, 0x10, 0x20, 0x40]

theorem flagsValid_cases {flags : UInt8} (valid : flagsValid flags = true) :
    flags = 0x01 ∨ flags = 0x02 ∨ flags = 0x03 ∨ flags = 0x04 ∨ flags = 0x05 ∨ flags = 0x06 ∨
      flags = 0x07 ∨ flags = 0x08 ∨ flags = 0x10 ∨ flags = 0x20 ∨ flags = 0x40 := by
  simpa [flagsValid] using valid

/-- Header-only record of a peer framing violation. -/
structure FrameViolation where
  streamId : UInt32
  flags : UInt8
  length : Nat
  deriving DecidableEq, Repr

structure Frame where
  streamId : UInt32
  flags : UInt8
  payload : Bytes
  deriving DecidableEq, Repr

inductive FrameError where
  | payloadTooLarge (length : Nat)
  | reservedFlag (flags : UInt8)
  deriving DecidableEq, Repr

variable {fr : Frame}

namespace Frame

def encode (frame : Frame) : Except FrameError Bytes :=
  if frame.payload.length > maxPayload then .error (.payloadTooLarge frame.payload.length)
  else if frame.flags &&& flagReservedMask ≠ 0 then .error (.reservedFlag frame.flags)
  else .ok (toBeBytes frame.streamId ++ frame.flags :: lengthBytes frame.payload.length ++ frame.payload)

def controlPing (nonce : Bytes) : Frame := ⟨0, flagPing, nonce⟩

def window (sid credit : UInt32) : Frame := ⟨sid, flagWindow, toBeBytes credit⟩

def reset (sid : UInt32) (reason : UInt8) : Frame := ⟨sid, flagReset, [reason]⟩

def controlPong (frame : Frame) : Option Frame :=
  if frame.streamId = 0 ∧ frame.flags = flagPing ∧ frame.payload.length = controlNonceLen then
    some ⟨0, flagPong, frame.payload⟩
  else none

def controlPongNonce (frame : Frame) : Option Bytes :=
  if frame.streamId = 0 ∧ frame.flags = flagPong ∧ frame.payload.length = controlNonceLen then
    some frame.payload
  else none

def windowCredit (frame : Frame) : Option UInt32 :=
  match frame.payload with
  | [b0, b1, b2, b3] => if frame.flags &&& flagWindow ≠ 0 then some (fromBeBytes b0 b1 b2 b3) else none
  | _ => none

/-- Frames that fit the wire format; these are the ones `encode` accepts. -/
def Encodable (fr : Frame) : Prop := fr.payload.length ≤ maxPayload ∧ fr.flags &&& flagReservedMask = 0

instance (frame : Frame) : Decidable frame.Encodable := inferInstanceAs (Decidable (_ ∧ _))

/-- The bytes of an encodable frame. -/
def wire (frame : Frame) : Bytes :=
  toBeBytes frame.streamId ++ frame.flags :: lengthBytes frame.payload.length ++ frame.payload

theorem encode_eq_ok (fits : fr.Encodable) : fr.encode = .ok fr.wire := by
  have short : ¬ fr.payload.length > maxPayload := Nat.not_lt.mpr fits.1
  simp [encode, wire, short, fits.2]

theorem window_encodable (sid credit : UInt32) : (window sid credit).Encodable :=
  ⟨by simp [window, maxPayload], (by decide : flagWindow &&& flagReservedMask = 0)⟩

theorem reset_encodable (sid : UInt32) (rsn : UInt8) : (reset sid rsn).Encodable :=
  ⟨by simp [reset, maxPayload], (by decide : flagReset &&& flagReservedMask = 0)⟩

theorem controlPong_encodable {pong : Frame} (ans : fr.controlPong = some pong) : pong.Encodable := by
  unfold controlPong at ans
  split at ans
  next ctl =>
    cases ans
    exact ⟨by simp [ctl.2.2, controlNonceLen, maxPayload], (by decide : flagPong &&& flagReservedMask = 0)⟩
  · cases ans

@[simp] theorem windowCredit_window (sid credit : UInt32) : (window sid credit).windowCredit = some credit := by
  have carried : flagWindow &&& flagWindow ≠ 0 := by decide
  simp only [window, windowCredit, toBeBytes, if_pos carried, fromBeBytes_toBeBytes]

@[simp] theorem windowCredit_reset (sid : UInt32) (rsn : UInt8) : (reset sid rsn).windowCredit = none := rfl

end Frame

/-- The header-only record of `frame` (`frame_violation`, and `violation` at the home). -/
def frameViolation (frame : Frame) : FrameViolation := ⟨frame.streamId, frame.flags, frame.payload.length⟩

/-- Streaming decoder; `buf` holds the bytes not yet returned in a frame. -/
structure FrameDecoder where
  buf : Bytes := []
  deriving DecidableEq, Repr

namespace FrameDecoder

/-- The next complete frame of a buffer and what is left behind it. The flag byte
is checked as soon as the header is complete, before the payload has arrived. -/
def nextFrameOf : Bytes → Except FrameError (Option (Frame × Bytes))
  | b0 :: b1 :: b2 :: b3 :: flags :: l0 :: l1 :: l2 :: body =>
      if flags &&& flagReservedMask ≠ 0 then .error (.reservedFlag flags)
      else if body.length < fromLengthBytes l0 l1 l2 then .ok none
      else .ok (some (⟨fromBeBytes b0 b1 b2 b3, flags, body.take (fromLengthBytes l0 l1 l2)⟩,
        body.drop (fromLengthBytes l0 l1 l2)))
  | _ => .ok none

variable {buf : Bytes}

theorem nextFrameOf_shrinks {rest : Bytes}
    (taken : nextFrameOf buf = .ok (some (fr, rest))) : rest.length < buf.length := by
  revert taken
  fun_cases nextFrameOf buf with
  | case3 =>
    rintro ⟨⟩
    simp only [length_drop, length_cons]
    omega
  | _ => rintro ⟨⟩

theorem nextFrameOf_extend {rest : Bytes} (more : Bytes) (taken : nextFrameOf buf = .ok (some (fr, rest))) :
    nextFrameOf (buf ++ more) = .ok (some (fr, rest ++ more)) := by
  revert taken
  fun_cases nextFrameOf buf with
  | case3 _ _ _ _ _ l0 l1 l2 body plain enough =>
    rintro ⟨⟩
    have still : ¬ (body ++ more).length < fromLengthBytes l0 l1 l2 := by simp only [length_append]; omega
    simp only [cons_append, nextFrameOf, if_neg plain, if_neg still]
    rw [take_append_of_le_length (by omega), drop_append_of_le_length (by omega)]
  | _ => rintro ⟨⟩

theorem nextFrameOf_reject {err : FrameError} (more : Bytes)
    (taken : nextFrameOf buf = .error err) : nextFrameOf (buf ++ more) = .error err := by
  revert taken
  fun_cases nextFrameOf buf with
  | case1 _ _ _ _ _ _ _ _ _ reserved =>
    intro taken
    simp only [cons_append, nextFrameOf, if_pos reserved]
    exact taken
  | _ => rintro ⟨⟩

/-- The decoder as an incremental splitter. -/
def splitter : Splitter UInt8 Frame FrameError where
  next := nextFrameOf
  next_shrinks := nextFrameOf_shrinks
  next_extend := nextFrameOf_extend
  next_reject := nextFrameOf_reject

def feed (decoder : FrameDecoder) (data : Bytes) : FrameDecoder := ⟨decoder.buf ++ data⟩

def nextFrame (decoder : FrameDecoder) : FrameDecoder × Except FrameError (Option Frame) :=
  match nextFrameOf decoder.buf with
  | .error err => (decoder, .error err)
  | .ok none => (decoder, .ok none)
  | .ok (some (frame, rest)) => (⟨rest⟩, .ok (some frame))

/-- Pull frames until none is complete; an error loses the frames pulled before it. -/
def drain (decoder : FrameDecoder) : FrameDecoder × Except FrameError (List Frame) :=
  (⟨(splitter.drain decoder.buf).1⟩, (splitter.drain decoder.buf).2)

end FrameDecoder

/-- A frame's bytes decode to the frame, with everything behind it untouched. -/
theorem nextFrameOf_wire (fits : fr.Encodable) (rest : Bytes) :
    FrameDecoder.nextFrameOf (fr.wire ++ rest) = .ok (some (fr, rest)) := by
  have small : fr.payload.length < 2 ^ 24 := by
    have := fits.1
    simp only [maxPayload] at this
    omega
  have length := fromLengthBytes_lengthBytes small
  have plain : ¬ fr.flags &&& flagReservedMask ≠ 0 := not_not.mpr fits.2
  simp only [Frame.wire, toBeBytes, lengthBytes, cons_append, nil_append,
    FrameDecoder.nextFrameOf, if_neg plain, fromBeBytes_toBeBytes, length]
  rw [if_neg (by simp only [length_append]; omega), take_left, drop_left]

theorem wire_injective {fst second : Frame} (one : fst.Encodable) (two : second.Encodable)
    (same : fst.wire = second.wire) : fst = second := by
  have decoded := nextFrameOf_wire one []
  rw [same, nextFrameOf_wire two []] at decoded
  simpa using decoded.symm

theorem drain_wire (fits : fr.Encodable) : FrameDecoder.splitter.drain fr.wire = ([], .ok [fr]) := by
  have taken : FrameDecoder.splitter.next fr.wire = .ok (some (fr, [])) := by
    have := nextFrameOf_wire fits []
    rwa [append_nil] at this
  have nothing : FrameDecoder.splitter.drain ([] : Bytes) = ([], .ok []) := FrameDecoder.splitter.drain_of_wait rfl
  rw [FrameDecoder.splitter.drain_of_item taken, nothing]
  rfl

variable {fs : List Frame}

namespace FrameDecoder

/-- `drain` is the loop over `next_frame`. -/
theorem drain_nextFrame (dec : FrameDecoder) : dec.drain = match dec.nextFrame with
    | (dec, .error err) => (dec, .error err)
    | (dec, .ok none) => (dec, .ok [])
    | (dec, .ok (some fr)) => (dec.drain.1, dec.drain.2.map (fr :: ·)) := by
  rcases taken : nextFrameOf dec.buf with err | _ | ⟨fr, rest⟩
  · simp only [drain, nextFrame, taken, splitter.drain_of_reject taken]
  · simp only [drain, nextFrame, taken, splitter.drain_of_wait taken]
  · simp only [drain, nextFrame, taken, splitter.drain_of_item taken]

/-- The chunks are fed to one decoder, which is drained after each of them. -/
def feedChunks (decoder : FrameDecoder) : List Bytes → FrameDecoder × Except FrameError (List Frame)
  | [] => (decoder, .ok [])
  | chunk :: chunks =>
      match (decoder.feed chunk).drain with
      | (decoder, .error err) => (decoder, .error err)
      | (decoder, .ok frames) => ((decoder.feedChunks chunks).1, (decoder.feedChunks chunks).2.map (frames ++ ·))

/-- Where the chunks are cut makes no difference to a decoder that waits for more. -/
theorem feedChunks_eq {dec : FrameDecoder} {chunks : List Bytes} (waits : splitter.next dec.buf = .ok none)
    (drained : splitter.drain (dec.buf ++ chunks.flatten) = ([], .ok fs)) :
    dec.feedChunks chunks = ({}, .ok fs) := by
  induction chunks generalizing dec fs with
  | nil =>
    rw [flatten_nil, append_nil, splitter.drain_of_wait waits] at drained
    obtain ⟨empty, same⟩ := Prod.mk.inj drained
    rw [feedChunks, ← Except.ok.inj same, ← empty]
  | cons chunk chunks ih =>
    rw [flatten_cons, ← append_assoc] at drained
    obtain ⟨early, held, late, fst, second, rfl⟩ := splitter.drain_split _ _ drained
    have fed : (dec.feed chunk).drain = (⟨held⟩, .ok early) := by simp only [drain, feed, fst]
    have rest : feedChunks ⟨held⟩ chunks = ({}, .ok late) := ih (splitter.drain_exhausted _ fst) second
    simp only [feedChunks, fed, rest, Except.map]

end FrameDecoder

theorem flagsValid_unreserved {flags : UInt8} (valid : flagsValid flags = true) : flags &&& flagReservedMask = 0 := by
  rcases flagsValid_cases valid with rfl | rfl | rfl | rfl | rfl | rfl | rfl | rfl | rfl | rfl | rfl
  all_goals decide

theorem mapM_encode (fits : ∀ fr ∈ fs, fr.Encodable) :
    fs.mapM Frame.encode = .ok (fs.map Frame.wire) := by
  induction fs with
  | nil => rfl
  | cons fr fs ih =>
    obtain ⟨fst, rest⟩ := forall_mem_cons.mp fits
    rw [mapM_cons, Frame.encode_eq_ok fst, ih rest]
    rfl

theorem drain_wires (fits : ∀ fr ∈ fs, fr.Encodable) :
    FrameDecoder.splitter.drain (fs.map Frame.wire).flatten = ([], .ok fs) := by
  induction fs with
  | nil => exact FrameDecoder.splitter.drain_of_wait rfl
  | cons fr fs ih =>
    obtain ⟨fst, rest⟩ := forall_mem_cons.mp fits
    rw [map_cons, flatten_cons, FrameDecoder.splitter.drain_append _ _ (drain_wire fst), nil_append, ih rest]
    rfl

/-- Frames with valid flags and payloads that fit are encoded, and however their bytes are cut,
one decoder that is drained after each chunk returns these frames and keeps no byte. -/
theorem frame_codec_round_trip {frames : List Frame}
    (fits : ∀ frame ∈ frames, flagsValid frame.flags = true ∧ frame.payload.length ≤ maxPayload) :
    ∃ encoded, frames.mapM Frame.encode = .ok encoded ∧ ∀ chunks : List Bytes, chunks.flatten = encoded.flatten →
        FrameDecoder.feedChunks {} chunks = ({}, .ok frames) := by
  have encodable : ∀ frame ∈ frames, frame.Encodable := fun frame member =>
    ⟨(fits frame member).2, flagsValid_unreserved (fits frame member).1⟩
  refine ⟨frames.map Frame.wire, mapM_encode encodable, fun chunks whole => ?_⟩
  apply FrameDecoder.feedChunks_eq rfl
  rw [nil_append, whole]
  exact drain_wires encodable

/-- An opening with two bytes and a close, cut after every byte. -/
theorem frame_codec_round_trip_bytewise :
    ∃ encoded, [Frame.mk 1 (flagOpen ||| flagData) [7, 8], ⟨1, flagClose, []⟩].mapM Frame.encode = .ok encoded ∧
      FrameDecoder.feedChunks {} (encoded.flatten.map fun byte => [byte]) =
        ({}, .ok [⟨1, flagOpen ||| flagData, [7, 8]⟩, ⟨1, flagClose, []⟩]) := by
  have fits : ∀ frame ∈ [Frame.mk 1 (flagOpen ||| flagData) [7, 8], ⟨1, flagClose, []⟩],
      flagsValid frame.flags = true ∧ frame.payload.length ≤ maxPayload := by decide
  obtain ⟨encoded, wrote, read⟩ := frame_codec_round_trip fits
  exact ⟨encoded, wrote, read _ (flatMap_singleton' _)⟩

end SplRust.Core
