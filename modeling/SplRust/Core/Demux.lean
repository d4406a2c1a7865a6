import SplRust.Core.Assembler
import SplRust.Lib.Table

/-! The persistent-carrier demultiplexer of `spl-core/src/mux.rs`. One decoder and
one output batch are shared by all streams; the rest of the state is per stream. -/

namespace SplRust.Core
open SplRust.Lib

structure CarrierStream where
  assembler : HttpStreamAssembler := {}
  recvWindow : RecvWindow := .new
  deriving DecidableEq, Repr

structure CarrierDemux where
  decoder : FrameDecoder := {}
  streams : Table UInt32 CarrierStream := ∅
  fatalViolation : Option FrameViolation := none

structure DemuxOutput where
  pongs : List Bytes := []
  inboundPongs : List Bytes := []
  streamEvents : List (UInt32 × StreamEvent) := []
  windowGrants : List (UInt32 × UInt32) := []
  emitFrames : List Bytes := []
  violations : List FrameViolation := []
  deriving DecidableEq, Repr

/-- Whether encoded bytes are a WINDOW frame of the stream, judged by their header. -/
def isWindowOf (sid : UInt32) : Bytes → Bool
  | b0 :: b1 :: b2 :: b3 :: flags :: _ => fromBeBytes b0 b1 b2 b3 == sid && flags &&& flagWindow != 0
  | _ => false

def removeEmittedWindows (frames : List Bytes) (sid : UInt32) : List Bytes :=
  frames.filter fun frame => !isWindowOf sid frame

namespace CarrierDemux

variable (demux : CarrierDemux)

abbrev Result := CarrierDemux × Except (Failure MuxError) DemuxOutput

def openStream (sid : UInt32) : CarrierDemux :=
  { demux with streams := demux.streams.insert sid {} }

def removeStream (sid : UInt32) : CarrierDemux :=
  { demux with streams := demux.streams.erase sid }

/-- Consume the wire bytes of a drained body event; the reply is the WINDOW frame to write. -/
def consume (demux : CarrierDemux) (sid : UInt32) (bytes : Nat) :
    CarrierDemux × Except (Failure MuxError) (Option Bytes) :=
  match demux.streams.lookup sid with
  | none => (demux, .ok none)
  | some stream =>
      match stream.recvWindow.consume bytes with
      | none => (demux, .error .panic)
      | some (window, grant) =>
          let demux := { demux with streams := demux.streams.insert sid { stream with recvWindow := window } }
          match grant with
          | none => (demux, .ok none)
          | some grant =>
              match (Frame.window sid grant).encode with
              | .error err => (demux, .error (.error (.frame err)))
              | .ok bytes => (demux, .ok (some bytes))

/-- Retract the stream's queued grants, queue `last`, report the end and forget the stream. -/
def finishStream (sid : UInt32) (how : StreamEnd) (last : List Bytes)
    (out : DemuxOutput) : Result :=
  ({ demux with streams := demux.streams.erase sid }, .ok { out with
      emitFrames := removeEmittedWindows out.emitFrames sid ++ last
      streamEvents := out.streamEvents ++ [(sid, .ending how)] })

def rejectAttributable (frame : Frame) (out : DemuxOutput) : Result :=
  let known := frame.streamId ∈ demux.streams
  match (Frame.reset frame.streamId resetProtocolError).encode with
  | .error err => (demux, .error (.error (.frame err)))
  | .ok bytes =>
      let out := { out with violations := out.violations ++ [frameViolation frame] }
      if known then finishStream demux frame.streamId (.reset .protocolError) [bytes] out
      else (demux, .ok { out with emitFrames := out.emitFrames ++ [bytes] })

/-- Queue the WINDOW frame of a grant, if there is one. -/
def emitGrant (sid : UInt32) (grant : Option UInt32) (out : DemuxOutput) :
    Except MuxError DemuxOutput :=
  match grant with
  | none => .ok out
  | some grant =>
      match (Frame.window sid grant).encode with
      | .error err => .error (.frame err)
      | .ok bytes => .ok { out with emitFrames := out.emitFrames ++ [bytes] }

/-- DATA, alone or with CLOSE, for a registered stream. -/
def handleData (stream : CarrierStream) (frame : Frame) (out : DemuxOutput) : Result :=
  let sid := frame.streamId
  match stream.recvWindow.debit frame.payload.length with
  | .error _ =>
      match (Frame.reset sid resetFlowControlError).encode with
      | .error err => (demux, .error (.error (.frame err)))
      | .ok bytes => finishStream demux sid (.reset .flowControlError) [bytes] out
  | .ok window =>
      match stream.assembler.feedData frame.payload with
      | (_, .error (.http _)) => finishStream demux sid (.reset .unspecified) [] out
      | (_, .error .capExceeded) => finishStream demux sid (.reset .unspecified) [] out
      | (asm, .error err) => ({ demux with streams := demux.streams.insert sid ⟨asm, window⟩ }, .error (.error err))
      | (asm, .ok assembled) =>
          match window.consume assembled.autoConsumed with
          | none => (demux, .error .panic)
          | some (window, grant) =>
              let demux := { demux with streams := demux.streams.insert sid ⟨asm, window⟩ }
              match emitGrant sid grant out with
              | .error err => (demux, .error (.error err))
              | .ok out =>
                  let out := { out with streamEvents :=
                    out.streamEvents ++ assembled.events.map fun event => (sid, event) }
                  if frame.flags = flagData ||| flagClose then
                    finishStream demux sid .close [] out
                  else (demux, .ok out)

/-- One turn of the loop of `feed` over the decoded frames. -/
def handleFrame (frame : Frame) (out : DemuxOutput) : Result :=
  if frame.streamId = 0 then
    match frame.controlPong with
    | some pong =>
        match pong.encode with
        | .error err => (demux, .error (.error (.frame err)))
        | .ok bytes => (demux, .ok { out with pongs := out.pongs ++ [bytes] })
    | none =>
        match frame.controlPongNonce with
        | some nonce => (demux, .ok { out with inboundPongs := out.inboundPongs ++ [nonce] })
        | none =>
            -- Tunnel teardown supersedes the output gathered in this call.
            ({ demux with fatalViolation := some (frameViolation frame) },
              .error (.error (.protocol (frameViolation frame))))
  else if flagsValid frame.flags = false then rejectAttributable demux frame out
  else if frame.flags &&& flagOpen ≠ 0 then rejectAttributable demux frame out
  else if frame.flags = flagPing ∨ frame.flags = flagPong then rejectAttributable demux frame out
  else
    match demux.streams.lookup frame.streamId with
    | none =>
        if frame.flags &&& flagData ≠ 0 ∨ frame.flags = flagWindow then
          rejectAttributable demux frame out
        else (demux, .ok out)
    | some stream =>
        if frame.flags = flagReset then
          finishStream demux frame.streamId (.reset (.fromPayload frame.payload)) [] out
        else if frame.flags = flagClose then finishStream demux frame.streamId .close [] out
        else if frame.flags = flagData ∨ frame.flags = flagData ||| flagClose then
          handleData demux stream frame out
        else
          match frame.windowCredit with
          | none => rejectAttributable demux frame out
          | some credit => (demux, .ok { out with windowGrants := out.windowGrants ++ [(frame.streamId, credit)] })

def feedFrames : List Frame → CarrierDemux → DemuxOutput → Result
  | [], demux, out => (demux, .ok out)
  | frame :: frames, demux, out =>
      match handleFrame demux frame out with
      | (demux, .ok out) => feedFrames frames demux out
      | (demux, .error failure) => (demux, .error failure)

def feed (demux : CarrierDemux) (data : Bytes) : Result :=
  match demux.fatalViolation with
  | some violation => (demux, .error (.error (.protocol violation)))
  | none =>
      let drained := (demux.decoder.feed data).drain
      let demux := { demux with decoder := drained.1 }
      match drained.2 with
      | .error err => (demux, .error (.error (.frame err)))
      | .ok frames => feedFrames frames demux {}

end CarrierDemux

end SplRust.Core
