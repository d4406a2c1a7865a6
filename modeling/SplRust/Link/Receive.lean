import SplRust.Bridge.DriverRead
import SplRust.Core.Carrier
import SplRust.Link.FinalBytes

/-! What each of the four endpoints does with one frame: the state it is left in, what it
sends in answer, and whether the tunnel ends with an error. The frame arrives as the bytes of
its header and payload, also if no encoder would send it. -/

namespace SplRust.Link
open SplRust.Lib SplRust.Core SplRust.Home List FrameDecoder

/-- The state of one live stream at an endpoint. -/
inductive Entry where
  | home (stream : Home.StreamState)
  | carrier (stream : CarrierStream)
  | oneShot (body : Bytes) (window : RecvWindow)
  | bridge (stream : Bridge.StreamState)
  deriving DecidableEq, Repr

structure Outcome where
  after : Endpoint
  answers : List Bytes
  ended : Bool

namespace Endpoint

def entry (sid : UInt32) : Endpoint → Option Entry
  | .home acceptor => (acceptor.streams.lookup sid).map .home
  | .carrier demux => (demux.streams.lookup sid).map .carrier
  | .oneShot asm =>
      if asm.streamId = sid ∧ asm.closed = false then some (.oneShot asm.body asm.recvWindow)
      else none
  | .bridge driver => (driver.streams.lookup sid).map .bridge

def receive (frame : Frame) : Endpoint → Outcome
  | .home acceptor =>
      match acceptor.feed frame.wire with
      | (next, .ok output) => ⟨.home next, output.frames.map Frame.wire, false⟩
      | (next, .error _) => ⟨.home next, [], true⟩
  | .carrier demux =>
      match demux.feed frame.wire with
      | (next, .ok out) => ⟨.carrier next, out.pongs ++ out.emitFrames, false⟩
      | (next, .error _) => ⟨.carrier next, [], true⟩
  | .oneShot asm =>
      match asm.feed frame.wire with
      | (next, .ok out) => ⟨.oneShot next, out.pongs ++ out.emitFrames, out.terminalError.isSome⟩
      | (next, .error _) => ⟨.oneShot next, [], true⟩
  | .bridge driver =>
      let (next, still) := driver.readBytes frame.wire
      ⟨.bridge next, next.written.drop driver.written.length, !still⟩

/-- Reached by some run, between two frames, and not already failed. -/
def Ready : Endpoint → Prop
  | .home acceptor => ∃ limits start calls rs, MuxAcceptor.new limits = .ok start ∧
      acceptorMachine.run start calls = some (acceptor, rs) ∧
      acceptor.headerBuffer = [] ∧ acceptor.decoder.buf = [] ∧
      acceptor.discardedPayloadRemaining = none
  | .carrier demux => ∃ calls rs, carrierMachine.run {} calls = some (demux, rs) ∧
      demux.fatalViolation = none ∧ demux.decoder.buf = []
  | .oneShot asm => ∃ (sid : UInt32) (cap : Nat) (pieces : List Bytes),
      pieces.foldl (fun asm data => (ResponseAssembler.feed asm data).1)
        (ResponseAssembler.withCap sid cap) = asm ∧
      asm.flowControlFailed = false ∧ asm.decoder.buf = []
  | .bridge driver => ∃ calls rs, Bridge.driverMachine.run {} calls = some (driver, rs) ∧ driver.decoder.buf = []

end Endpoint

def Reserved (fr : Frame) : Prop := fr.flags &&& flagReservedMask ≠ 0

instance (frame : Frame) : Decidable (Reserved frame) := inferInstanceAs (Decidable (_ ≠ _))

variable {fr : Frame}

theorem encodable_of_plain (sized : fr.payload.length ≤ maxPayload) (plain : ¬ Reserved fr) :
    fr.Encodable := ⟨sized, not_not.mp plain⟩

theorem nextFrameOf_reserved (reserved : Reserved fr) :
    nextFrameOf fr.wire = .error (.reservedFlag fr.flags) := if_pos reserved

theorem drain_reserved (reserved : Reserved fr) :
    splitter.drain fr.wire = (fr.wire, .error (.reservedFlag fr.flags)) :=
  splitter.drain_of_reject (nextFrameOf_reserved reserved)

/-! ### The home -/

theorem home_feed {acc : MuxAcceptor} (ready : (Endpoint.home acc).Ready)
    (sized : fr.payload.length ≤ maxPayload) : ∃ last : WirePhase, acc.feed fr.wire =
      (last.hold (acc.handleItem (itemOf fr) {}).1, (acc.handleItem (itemOf fr) {}).2) := by
  obtain ⟨_, start, _, _, made, served, header, dec, discarded⟩ := ready
  have valid := (MuxAcceptor.Valid.start made).run served
  have aligned := valid.aligned header dec discarded
  obtain ⟨last, -, fed, -⟩ := MuxAcceptor.feedBytes_hold WirePhase.start_wellFormed
    (by rw [valid.limits_eq]; exact valid.roomy) fr.wire {}
  have item := wireItems_itemOf sized []
  rw [append_nil, wireItems_nil] at item
  rw [← aligned, WirePhase.start_items, item, MuxStreams.handleItems_single] at fed
  exact ⟨last, fed⟩

/-- The home refuses the frame and answers with a reset of its stream alone. -/
theorem home_refused {acc : MuxAcceptor} (ready : (Endpoint.home acc).Ready)
    (sized : fr.payload.length ≤ maxPayload) {cls : RefusalClass}
    (refused : acc.handleItem (itemOf fr) {} =
      ((acc.refuse fr cls {}).1, .ok (acc.refuse fr cls {}).2)) :
    ∃ next : MuxAcceptor, (Endpoint.home acc).receive fr =
        ⟨.home next, [(Frame.reset fr.streamId cls.resetCode).wire], false⟩ ∧
      next.streams = acc.streams.erase fr.streamId := by
  obtain ⟨last, fed⟩ := home_feed ready sized
  rw [refused, MuxStreams.refuse, MuxStreams.refuseViolation_eq] at fed
  refine ⟨last.hold (acc.refused fr.streamId cls acc.peerHighWater), ?_, rfl⟩
  rw [Endpoint.receive, fed]
  rfl

/-! ### The carrier -/

theorem carrier_feed {dm : CarrierDemux} (ready : (Endpoint.carrier dm).Ready)
    (encodable : fr.Encodable) : dm.feed fr.wire = dm.handleFrame fr {} := by
  obtain ⟨_, _, -, whole, between⟩ := ready
  have dec : dm.decoder = ⟨[]⟩ := by rw [← between]
  have drained : (dm.decoder.feed fr.wire).drain = (dm.decoder, .ok [fr]) := by
    rw [drain, FrameDecoder.feed, between, nil_append, drain_wire encodable, dec]
  unfold CarrierDemux.feed
  split
  next violation fatal =>
    rw [whole] at fatal
    cases fatal
  · simp only [drained, CarrierDemux.feedFrames]
    rcases dm.handleFrame fr {} with ⟨next, _ | _⟩ <;> rfl

theorem carrier_reserved {dm : CarrierDemux} (ready : (Endpoint.carrier dm).Ready)
    (reserved : Reserved fr) : ((Endpoint.carrier dm).receive fr).ended = true := by
  obtain ⟨_, _, -, whole, between⟩ := ready
  rw [Endpoint.receive, CarrierDemux.feed, whole, drain, FrameDecoder.feed, between,
    nil_append, drain_reserved reserved]

/-- What a frame of a stream does to the carrier is what it does to its stream. -/
theorem carrier_stepped {dm : CarrierDemux} (ready : (Endpoint.carrier dm).Ready)
    (encodable : fr.Encodable) (nz : fr.streamId ≠ 0) {en : Option CarrierStream} {delta : StreamDelta}
    (hs : frameStep (dm.streams.lookup fr.streamId) fr = some (en, delta)) :
    (Endpoint.carrier dm).receive fr = ⟨.carrier { dm with streams := Table.assign dm.streams fr.streamId en },
        delta.emit.map Frame.wire, false⟩ := by
  rw [Endpoint.receive, carrier_feed ready encodable, CarrierDemux.handleFrame_eq _ _ _ nz, hs]
  cases retracts : delta.retract <;> simp [CarrierDemux.applyStep, DemuxOutput.apply, retracts, removeEmittedWindows]

/-! ### The one-shot assembler -/

theorem oneShot_feed {asm : ResponseAssembler} (ready : (Endpoint.oneShot asm).Ready) (encodable : fr.Encodable) :
    asm.feed fr.wire = ResponseAssembler.feedFrames [fr] asm {} := by
  obtain ⟨_, _, _, -, sound, between⟩ := ready
  have dec : asm.decoder = ⟨[]⟩ := by rw [← between]
  have drained : (asm.decoder.feed fr.wire).drain = (asm.decoder, .ok [fr]) := by
    rw [drain, FrameDecoder.feed, between, nil_append, drain_wire encodable, dec]
  rw [ResponseAssembler.feed, if_neg (by rw [sound]; decide), drained]

theorem oneShot_reserved {asm : ResponseAssembler} (ready : (Endpoint.oneShot asm).Ready)
    (reserved : Reserved fr) : ((Endpoint.oneShot asm).receive fr).ended = true := by
  obtain ⟨_, _, _, -, sound, between⟩ := ready
  rw [Endpoint.receive, ResponseAssembler.feed, if_neg (by rw [sound]; decide), drain,
    FrameDecoder.feed, between, nil_append, drain_reserved reserved]

/-! ### The bridge -/

theorem bridge_received {drv : Bridge.Driver} (ready : (Endpoint.bridge drv).Ready)
    (encodable : fr.Encodable) : ∃ dec, (Endpoint.bridge drv).receive fr =
      ⟨.bridge ((drv.receive fr).1.withDecoder dec),
        (drv.receive fr).1.written.drop drv.written.length, !(drv.receive fr).2⟩ := by
  obtain ⟨_, _, -, between⟩ := ready
  have drained : splitter.drain (drv.decoder.buf ++ fr.wire) = ([], .ok [fr]) := by
    rw [between, nil_append, drain_wire encodable]
  obtain ⟨dec, read, -⟩ := Bridge.Driver.readBytes_drained drained
  rw [Bridge.Driver.receiveAll_single] at read
  refine ⟨dec, ?_⟩
  rw [Endpoint.receive, read]
  rfl

theorem bridge_reserved {drv : Bridge.Driver} (ready : (Endpoint.bridge drv).Ready)
    (reserved : Reserved fr) : ((Endpoint.bridge drv).receive fr).ended = true := by
  obtain ⟨_, _, -, between⟩ := ready
  rw [Endpoint.receive, Bridge.Driver.readBytes_reserved (nextFrameOf_reserved reserved) between]
  rfl

end SplRust.Link
