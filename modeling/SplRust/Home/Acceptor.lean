import SplRust.Core.Window
import SplRust.Lib.Machine
import SplRust.Lib.Table

/-! The listener-side mux of `spl-home/src/mux.rs`, with its limits
(`spl-home/src/config.rs`) and refusal classes (`spl-home/src/error.rs`). -/

namespace SplRust.Home
open SplRust.Lib SplRust.Core

inductive ConfigError where
  | zeroConcurrentStreamCap
  | decoderBelowMaximumFrame
  deriving DecidableEq, Repr

structure MuxLimits where
  maxConcurrentStreams : Nat := 256
  decoderBufferBytes : Nat := 16777223
  deriving DecidableEq, Repr

def MuxLimits.validate (limits : MuxLimits) : Except ConfigError Unit :=
  if limits.maxConcurrentStreams = 0 then .error .zeroConcurrentStreamCap
  else if limits.decoderBufferBytes < headerLen + maxPayload then .error .decoderBelowMaximumFrame
  else .ok ()

inductive RefusalClass where
  | protocol
  | streamLimit
  | flowControl
  | internal
  deriving DecidableEq, Repr

structure Refusal where
  refusalClass : RefusalClass
  violation : Option FrameViolation
  deriving DecidableEq, Repr

inductive HomeError where
  | config (err : ConfigError)
  | frame (err : FrameError)
  | refused (refusal : Refusal)
  | closed
  deriving DecidableEq, Repr

def HomeError.local (refusalClass : RefusalClass) : HomeError := .refused ⟨refusalClass, none⟩

inductive ResetReason where
  | protocolError
  | flowControlError
  | streamLimitExceeded
  | internalError
  | cancel
  | unspecified
  deriving DecidableEq, Repr

namespace ResetReason

def code : ResetReason → UInt8
  | protocolError => resetProtocolError
  | flowControlError => resetFlowControlError
  | streamLimitExceeded => resetStreamLimitExceeded
  | internalError => resetInternalError
  | cancel => resetCancel
  | unspecified => resetUnspecified

def fromWire (code : UInt8) : ResetReason :=
  if code = resetProtocolError then protocolError
  else if code = resetFlowControlError then flowControlError
  else if code = resetStreamLimitExceeded then streamLimitExceeded
  else if code = resetInternalError then internalError
  else if code = resetCancel then cancel
  else unspecified

def fromClass : RefusalClass → ResetReason
  | .protocol => protocolError
  | .streamLimit => streamLimitExceeded
  | .flowControl => flowControlError
  | .internal => internalError

end ResetReason

def RefusalClass.resetCode (refusalClass : RefusalClass) : UInt8 := (ResetReason.fromClass refusalClass).code

/-- Refusals issued so far, by class. -/
structure RefusalCounts where
  streamLimit : Nat := 0
  flowControl : Nat := 0
  protocol : Nat := 0
  internal : Nat := 0
  deriving DecidableEq, Repr

namespace RefusalCounts

def record (counts : RefusalCounts) : RefusalClass → RefusalCounts
  | .streamLimit => { counts with streamLimit := saturatingAdd counts.streamLimit 1 }
  | .flowControl => { counts with flowControl := saturatingAdd counts.flowControl 1 }
  | .protocol => { counts with protocol := saturatingAdd counts.protocol 1 }
  | .internal => { counts with internal := saturatingAdd counts.internal 1 }

def get (counts : RefusalCounts) : RefusalClass → Nat
  | .streamLimit => counts.streamLimit
  | .flowControl => counts.flowControl
  | .protocol => counts.protocol
  | .internal => counts.internal

end RefusalCounts

inductive MuxEvent where
  | opened (streamId : UInt32)
  | data (streamId : UInt32) (bytes : Bytes)
  | readClosed (streamId : UInt32)
  | reset (streamId : UInt32) (reason : ResetReason)
  | peerGone (truncated : Bool)
  deriving DecidableEq, Repr

structure MuxOutput where
  frames : List Frame := []
  events : List MuxEvent := []
  refusals : List Refusal := []
  writableStreams : List UInt32 := []
  deriving DecidableEq, Repr

structure StreamState where
  receiveWindow : RecvWindow := .new
  debitedNotConsumed : Nat := 0
  sendCredit : Nat := initialWindow
  peerClosed : Bool := false
  localClosed : Bool := false
  deriving DecidableEq, Repr

/-- The part of the acceptor that complete frames and local calls act on. -/
structure MuxStreams where
  limits : MuxLimits
  peerHighWater : Option UInt32 := none
  streams : Table UInt32 StreamState := ∅
  refusals : RefusalCounts := {}

structure MuxAcceptor extends MuxStreams where
  decoder : FrameDecoder := {}
  decoderBufferedBytes : Nat := 0
  headerBuffer : Bytes := []
  payloadRemaining : Option Nat := none
  discardedPayloadRemaining : Option Nat := none

def violation (frame : Frame) : FrameViolation := ⟨frame.streamId, frame.flags, frame.payload.length⟩

namespace MuxStreams

variable (mux : MuxStreams)

def removeStream (sid : UInt32) : MuxStreams := { mux with streams := mux.streams.erase sid }

def refuseViolation (found : FrameViolation) (refusalClass : RefusalClass)
    (output : MuxOutput) : MuxStreams × MuxOutput :=
  let mux := { mux with refusals := mux.refusals.record refusalClass }
  let output := { output with
    frames := output.frames ++ [.reset found.streamId refusalClass.resetCode]
    refusals := output.refusals ++ [⟨refusalClass, some found⟩] }
  if found.streamId ∈ mux.streams then
    (mux.removeStream found.streamId, { output with
      events := output.events ++ [.reset found.streamId (.fromClass refusalClass)] })
  else (mux, output)

def refuse (frame : Frame) (refusalClass : RefusalClass) (output : MuxOutput) :
    MuxStreams × MuxOutput :=
  mux.refuseViolation (violation frame) refusalClass output

def markPeerClosed (sid : UInt32) (output : MuxOutput) : MuxStreams × MuxOutput :=
  match mux.streams.lookup sid with
  | none => (mux, output)
  | some stream =>
      let mux := { mux with streams := mux.streams.insert sid { stream with peerClosed := true } }
      let output := { output with events := output.events ++ [.readClosed sid] }
      if stream.localClosed then (mux.removeStream sid, output) else (mux, output)

def handleControl (frame : Frame) (output : MuxOutput) : Except HomeError MuxOutput :=
  match if frame.flags = flagPing ∧ frame.payload.length = controlNonceLen then frame.controlPong
    else none with
  | some pong => .ok { output with frames := output.frames ++ [pong] }
  | none =>
      if frame.flags = flagPong ∧ frame.payload.length = controlNonceLen then .ok output
      else .error (.refused ⟨.protocol, some (violation frame)⟩)

def handleOpen (frame : Frame) (output : MuxOutput) : MuxStreams × MuxOutput :=
  let sid := frame.streamId
  let validId := sid % 2 = 1 ∧ mux.peerHighWater.all fun highest => sid > highest
  if ¬ validId then mux.refuse frame .protocol output
  else
    -- The id is used up even if the stream is refused below.
    let mux := { mux with peerHighWater := some sid }
    if mux.streams.keys.card ≥ mux.limits.maxConcurrentStreams then
      mux.refuse frame .streamLimit output
    else if frame.payload.length > initialWindow then mux.refuse frame .flowControl output
    else
      let stream : StreamState := {}
      match stream.receiveWindow.debit frame.payload.length with
      | .error _ => mux.refuse frame .flowControl output
      | .ok window =>
          let stream := { stream with receiveWindow := window, debitedNotConsumed := frame.payload.length }
          let mux := { mux with streams := mux.streams.insert sid stream }
          let output := { output with events := output.events ++ [.opened sid] }
          let output := if frame.payload ≠ [] ∨ frame.flags &&& flagData ≠ 0 then
            { output with events := output.events ++ [.data sid frame.payload] } else output
          if frame.flags &&& flagClose ≠ 0 then mux.markPeerClosed sid output
          else (mux, output)

def handleData (frame : Frame) (closes : Bool) (output : MuxOutput) : MuxStreams × MuxOutput :=
  let sid := frame.streamId
  match mux.streams.lookup sid with
  | none => mux.refuse frame .flowControl output
  | some stream =>
      if stream.peerClosed then mux.refuse frame .protocol output
      else
        match stream.receiveWindow.debit frame.payload.length with
        | .error _ => mux.refuse frame .flowControl output
        | .ok window =>
            let stream := { stream with receiveWindow := window }
            match checkedAdd stream.debitedNotConsumed frame.payload.length with
            | none =>
                { mux with streams := mux.streams.insert sid stream }.refuse frame .internal
                  output
            | some nextDebited =>
                let stream := { stream with debitedNotConsumed := nextDebited }
                let mux := { mux with streams := mux.streams.insert sid stream }
                let output := { output with events := output.events ++ [.data sid frame.payload] }
                if closes then mux.markPeerClosed sid output else (mux, output)

def handleClose (frame : Frame) (output : MuxOutput) : MuxStreams × MuxOutput :=
  if frame.payload ≠ [] then mux.handleData frame true output
  else mux.markPeerClosed frame.streamId output

def handleReset (frame : Frame) (output : MuxOutput) : MuxStreams × MuxOutput :=
  match frame.payload with
  | [reason] =>
      (mux.removeStream frame.streamId, { output with
        events := output.events ++ [.reset frame.streamId (.fromWire reason)] })
  | _ => mux.refuse frame .protocol output

def handleWindow (frame : Frame) (output : MuxOutput) : MuxStreams × MuxOutput :=
  match frame.windowCredit with
  | none => mux.refuse frame .protocol output
  | some credit =>
      match mux.streams.lookup frame.streamId with
      | none => mux.refuse frame .flowControl output
      | some stream =>
          match checkedAdd stream.sendCredit credit.toNat with
          | none => mux.refuse frame .flowControl output
          | some next =>
              if next > maxSendCredit then mux.refuse frame .flowControl output
              else ({ mux with streams := mux.streams.insert frame.streamId { stream with sendCredit := next } },
                { output with writableStreams := output.writableStreams ++ [frame.streamId] })

/-- `handle_frame` for a frame of a stream. -/
def handleStreamFrame (frame : Frame) (output : MuxOutput) : MuxStreams × MuxOutput :=
  if flagsValid frame.flags = false then mux.refuse frame .protocol output
  else if frame.flags &&& (flagPing ||| flagPong) ≠ 0 then mux.refuse frame .protocol output
  else if frame.flags &&& flagOpen ≠ 0 then mux.handleOpen frame output
  else if frame.streamId ∉ mux.streams ∧ frame.flags &&& (flagClose ||| flagReset) ≠ 0 then
    (mux, output)
  else if frame.streamId ∉ mux.streams then mux.refuse frame .protocol output
  else if frame.flags = flagData ||| flagClose then mux.handleData frame true output
  else if frame.flags = flagData then mux.handleData frame false output
  else if frame.flags = flagClose then mux.handleClose frame output
  else if frame.flags = flagReset then mux.handleReset frame output
  else if frame.flags = flagWindow then mux.handleWindow frame output
  else mux.refuse frame .protocol output

def handleFrame (frame : Frame) (output : MuxOutput) : MuxStreams × Except HomeError MuxOutput :=
  if frame.streamId = 0 then (mux, handleControl frame output)
  else
    let (mux, output) := mux.handleStreamFrame frame output
    (mux, .ok output)

/-- Mark delivered bytes consumed. -/
def consume (mux : MuxStreams) (sid : UInt32) (bytes : Nat) :
    MuxStreams × Except (Failure HomeError) MuxOutput :=
  match mux.streams.lookup sid with
  | none => (mux, .error (.error .closed))
  | some stream =>
      if bytes > stream.debitedNotConsumed then (mux, .error (.error (.local .internal)))
      else
        match stream.receiveWindow.consume bytes with
        | none => (mux, .error .panic)
        | some (window, grant) =>
            let stream := { stream with receiveWindow := window }
            match checkedSub stream.debitedNotConsumed bytes with
            | none => ({ mux with streams := mux.streams.insert sid stream }, .error (.error (.local .internal)))
            | some left =>
                let stream := { stream with debitedNotConsumed := left }
                ({ mux with streams := mux.streams.insert sid stream },
                  .ok { frames := (grant.map (Frame.window sid)).toList })

def trySendData (sid : UInt32) (bytes : Bytes) :
    MuxStreams × Except HomeError (Option MuxOutput) :=
  if bytes.length > recommendedChunk then (mux, .error (.local .internal))
  else
    match mux.streams.lookup sid with
    | none => (mux, .error .closed)
    | some stream =>
        if stream.localClosed then (mux, .error .closed)
        else if bytes.length > stream.sendCredit then (mux, .ok none)
        else
          match checkedSub stream.sendCredit bytes.length with
          | none => (mux, .error (.local .internal))
          | some left =>
              ({ mux with streams := mux.streams.insert sid { stream with sendCredit := left } },
                .ok (some { frames := [⟨sid, flagData, bytes⟩] }))

def closeWrite (sid : UInt32) : MuxStreams × Except HomeError MuxOutput :=
  match mux.streams.lookup sid with
  | none => (mux, .error .closed)
  | some stream =>
      if stream.localClosed then (mux, .error .closed)
      else
        let mux := { mux with streams := mux.streams.insert sid { stream with localClosed := true } }
        let output : MuxOutput := { frames := [⟨sid, flagClose, []⟩] }
        if stream.peerClosed then (mux.removeStream sid, .ok output) else (mux, .ok output)

def reset (mux : MuxStreams) (sid : UInt32) (reason : ResetReason) : MuxStreams × Except HomeError MuxOutput :=
  if sid ∉ mux.streams then (mux, .error .closed)
  else (mux.removeStream sid, .ok { frames := [.reset sid reason.code] })

end MuxStreams

namespace MuxAcceptor

variable (acceptor : MuxAcceptor)

def new (limits : MuxLimits) : Except HomeError MuxAcceptor :=
  match limits.validate with
  | .error err => .error (.config err)
  | .ok () => .ok { limits := limits }

abbrev Result := MuxAcceptor × Except HomeError MuxOutput

/-- The loop of `drain_decoder`. -/
def drainDecoder (acceptor : MuxAcceptor) (output : MuxOutput) : Result :=
  match taken : FrameDecoder.nextFrameOf acceptor.decoder.buf with
  | .error err => (acceptor, .error (.frame err))
  | .ok none => (acceptor, .ok output)
  | .ok (some (frame, rest)) =>
      match checkedSub acceptor.decoderBufferedBytes (headerLen + frame.payload.length) with
      | none => ({ acceptor with decoder := ⟨rest⟩ }, .error (.local .internal))
      | some left =>
          match acceptor.handleFrame frame output with
          | (mux, .error err) =>
              ({ acceptor with toMuxStreams := mux, decoder := ⟨rest⟩, decoderBufferedBytes := left }, .error err)
          | (mux, .ok output) =>
              have := FrameDecoder.nextFrameOf_shrinks taken
              drainDecoder { acceptor with
                toMuxStreams := mux, decoder := ⟨rest⟩, decoderBufferedBytes := left } output
  termination_by acceptor.decoder.buf.length

/-- A header that is complete in `header_buffer`. -/
def takeHeader (output : MuxOutput) : Result :=
  match acceptor.headerBuffer with
  | [b0, b1, b2, b3, flags, l0, l1, l2] =>
      let sid := fromBeBytes b0 b1 b2 b3
      let payloadLength := fromLengthBytes l0 l1 l2
      let pending := if payloadLength > 0 then some payloadLength else none
      if flags &&& flagReservedMask ≠ 0 then
        let found : FrameViolation := ⟨sid, flags, payloadLength⟩
        let acceptor := { acceptor with headerBuffer := [] }
        match checkedSub acceptor.decoderBufferedBytes headerLen with
        | none => (acceptor, .error (.local .internal))
        | some left =>
            let acceptor := { acceptor with decoderBufferedBytes := left, discardedPayloadRemaining := pending }
            if sid = 0 then (acceptor, .error (.refused ⟨.protocol, some found⟩))
            else
              let (mux, output) := acceptor.refuseViolation found .protocol output
              ({ acceptor with toMuxStreams := mux }, .ok output)
      else
        drainDecoder { acceptor with
          decoder := acceptor.decoder.feed acceptor.headerBuffer, headerBuffer := []
          payloadRemaining := pending } output
  | _ => (acceptor, .ok output)

/-- One turn of the byte loop of `feed`. -/
def feedByte (byte : UInt8) (output : MuxOutput) : Result :=
  match acceptor.discardedPayloadRemaining with
  | some remaining =>
      ({ acceptor with discardedPayloadRemaining := if remaining > 1 then some (remaining - 1) else none },
        .ok output)
  | none =>
      if acceptor.decoderBufferedBytes ≥ acceptor.limits.decoderBufferBytes then
        (acceptor, .error (.local .flowControl))
      else
        match checkedAdd acceptor.decoderBufferedBytes 1 with
        | none => (acceptor, .error (.local .internal))
        | some buffered =>
            let acceptor := { acceptor with decoderBufferedBytes := buffered }
            match acceptor.payloadRemaining with
            | none =>
                -- `takeHeader` acts only once the header is complete.
                takeHeader { acceptor with headerBuffer := acceptor.headerBuffer ++ [byte] } output
            | some remaining =>
                drainDecoder { acceptor with
                  decoder := acceptor.decoder.feed [byte]
                  payloadRemaining := if remaining > 1 then some (remaining - 1) else none } output

def feedBytes : MuxAcceptor → Bytes → MuxOutput → Result
  | acceptor, [], output => (acceptor, .ok output)
  | acceptor, byte :: bytes, output =>
      match acceptor.feedByte byte output with
      | (acceptor, .ok output) => feedBytes acceptor bytes output
      | (acceptor, .error err) => (acceptor, .error err)

def feed (bytes : Bytes) : Result := acceptor.feedBytes bytes {}

/-- Finish carrier input; bytes still buffered mean a truncated frame. -/
def finishEof : MuxAcceptor × MuxOutput :=
  ({ acceptor with streams := ∅ }, { events := [.peerGone (acceptor.decoderBufferedBytes != 0)] })

end MuxAcceptor

end SplRust.Home
