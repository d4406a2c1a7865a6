import SplRust.Bridge.DriverRun
import SplRust.Core.DemuxSegmentation
import SplRust.Core.DemuxView
import SplRust.Home.AcceptorTakes
import SplRust.Link.Channel

/-! The last bytes of a stream at the four endpoints that read one. A CLOSE frame may carry
them with or without the DATA flag; only the home treats the two alike. -/

namespace SplRust.Link
open SplRust.Lib SplRust.Core SplRust.Home RecvWindow
variable {flags : UInt8} {st : Bridge.StreamState} {asm : ResponseAssembler} {driver : Bridge.Driver}

inductive Endpoint where
  | home (acceptor : MuxAcceptor)
  | carrier (demux : CarrierDemux)
  | oneShot (asm : ResponseAssembler)
  | bridge (driver : Bridge.Driver)

/-- What the reader of a stream sees at an endpoint. -/
inductive Reading where
  | home (events : List MuxEvent)
  | carrier (events : List StreamEvent)
  | oneShot (body : Bytes) (closed : Bool)
  | bridge (events : List Bridge.InboundEvent)
  | failed
  deriving DecidableEq, Repr

def inboundOf (sid : UInt32) (driver : Bridge.Driver) : List Bridge.InboundEvent :=
  (driver.inbound.filter fun event => event.1 == sid).map Prod.snd

namespace Endpoint

/-- What the reader sees when the endpoint receives a frame: the events of the call, or
everything so far where the endpoint keeps it. -/
def read (frame : Frame) : Endpoint → Reading
  | .home acceptor =>
      match (acceptor.feed frame.wire).2 with
      | .ok output => .home output.events
      | .error _ => .failed
  | .carrier demux =>
      match (demux.feed frame.wire).2 with
      | .ok out => .carrier (out.view frame.streamId).events
      | .error _ => .failed
  | .oneShot asm => .oneShot (asm.feed frame.wire).1.body (asm.feed frame.wire).1.closed
  | .bridge driver => .bridge (inboundOf frame.streamId (driver.receive frame).1)

/-- A stream that is open for the peer's bytes, with some receive credit, at an endpoint
that is between two frames. -/
def Live (sid : UInt32) (credit : Nat) : Endpoint → Prop
  | .home acceptor => ∃ limits start calls rs st, MuxAcceptor.new limits = .ok start ∧
      acceptorMachine.run start calls = some (acceptor, rs) ∧
      acceptor.headerBuffer = [] ∧ acceptor.decoder.buf = [] ∧
      acceptor.discardedPayloadRemaining = none ∧
      acceptor.streams.lookup sid = some st ∧ st.peerClosed = false ∧
      st.receiveWindow.credit = credit
  | .carrier demux => ∃ st, demux.fatalViolation = none ∧ demux.decoder.buf = [] ∧
      demux.streams.lookup sid = some st ∧ st.recvWindow.credit = credit
  | .oneShot asm =>
      asm.streamId = sid ∧ asm.closed = false ∧ asm.flowControlFailed = false ∧
      asm.decoder.buf = [] ∧ asm.recvWindow.credit = credit
  | .bridge driver => ∃ calls rs st, Bridge.driverMachine.run {} calls = some (driver, rs) ∧
      driver.streams.lookup sid = some st ∧ st.peerClosed = false ∧
      st.receive.credit = credit

/-- The endpoints at which final bytes on a bare CLOSE are not lost: the home; a carrier
whose assembler makes no event of them even if they are DATA; a bridge whose reader is
gone. -/
def KeepsFinal (sid : UInt32) (pl : Bytes) : Endpoint → Prop
  | .home _ => True
  | .carrier demux => ∃ st asm assembled, demux.streams.lookup sid = some st ∧
      st.assembler.feedData pl = (asm, .ok assembled) ∧ assembled.events = []
  | .oneShot _ => False
  | .bridge driver => ∃ st, driver.streams.lookup sid = some st ∧ st.reading = false

end Endpoint

variable {sid : UInt32} {payload : Bytes} {cr : Nat}

theorem final_encodable (flagged : flags = flagClose ∨ flags = flagData ||| flagClose)
    (small : payload.length ≤ initialWindow) : (Frame.mk sid flags payload).Encodable := by
  constructor
  · exact small.trans (by decide)
  · show flags &&& flagReservedMask = 0
    rcases flagged with rfl | rfl <;> decide

/-! ### The home -/

theorem home_read {acc : MuxAcceptor}
    (flagged : flags = flagClose ∨ flags = flagData ||| flagClose) (nonempty : payload ≠ [])
    (live : (Endpoint.home acc).Live sid cr) (fits : payload.length ≤ cr) :
    (Endpoint.home acc).read ⟨sid, flags, payload⟩ = .home [.data sid payload, .readClosed sid] := by
  obtain ⟨lim, start, calls, rs, st, made, served, header, dec, discarded, hp, reading, rfl⟩ := live
  have valid := (MuxAcceptor.Valid.start made).run served
  have aligned := valid.aligned header dec discarded
  have kn := Finmap.mem_of_lookup_eq_some hp
  have nz : sid ≠ 0 := by
    rintro rfl
    exact absurd (valid.inv.odd 0 kn) (by decide)
  have accounted := (valid.inv.sound sid st hp).accounted
  obtain ⟨_, debited⟩ := debit_of_le fits
  have counted : checkedAdd st.debitedNotConsumed payload.length = some (st.debitedNotConsumed + payload.length) := by
    apply checkedAdd_of_le
    simp only [initialWindow, wordMax] at accounted ⊢
    omega
  have taken : acc.handleStreamFrame ⟨sid, flags, payload⟩ {} = acc.handleData ⟨sid, flags, payload⟩ true {} := by
    have plain : flagsValid flags = true ∧ flags &&& (flagPing ||| flagPong) = 0 ∧ flags &&& flagOpen = 0 := by
      rcases flagged with rfl | rfl <;> decide
    rw [MuxStreams.handleStreamFrame_known kn plain]
    rcases flagged with rfl | rfl
    · rw [if_neg (show flagClose ≠ flagData ||| flagClose by decide),
        if_neg (show flagClose ≠ flagData by decide), if_pos rfl, MuxStreams.handleClose,
        if_pos nonempty]
    · rw [if_pos rfl]
  obtain ⟨next, hd⟩ : ∃ next, MuxStreams.handleItems
      (WirePhase.start.items (Frame.wire ⟨sid, flags, payload⟩)) acc.toMuxStreams {} =
      (next, .ok { events := [.data sid payload, .readClosed sid] }) := by
    have small : payload.length ≤ initialWindow := by omega
    have encodable : (Frame.mk sid flags payload).Encodable := final_encodable flagged small
    have wired := wireItems_wire encodable []
    rw [List.append_nil, wireItems_nil] at wired
    rw [WirePhase.start_items, wired, MuxStreams.handleItems_single, MuxStreams.handleItem_stream nz, taken,
      MuxStreams.handleData_eq true hp reading debited counted]
    exact ⟨_, rfl⟩
  have fed := MuxAcceptor.feed_hold WirePhase.start_wellFormed (by rw [valid.limits_eq]; exact valid.roomy) hd
  rw [← aligned] at fed
  rw [Endpoint.read, fed]

/-! ### The carrier -/

theorem carrier_read {dm : CarrierDemux} {st : CarrierStream} {fr : Frame}
    {en : Option CarrierStream} {delta : StreamDelta} (nz : fr.streamId ≠ 0)
    (whole : dm.fatalViolation = none) (between : dm.decoder.buf = [])
    (live : dm.streams.lookup fr.streamId = some st) (encodable : fr.Encodable)
    (hs : frameStep (some st) fr = some (en, delta)) :
    (Endpoint.carrier dm).read fr = .carrier delta.events := by
  have drained : FrameDecoder.splitter.drain (dm.decoder.buf ++ fr.wire) = ([], .ok [fr]) := by
    rw [between, List.nil_append, drain_wire encodable]
  obtain ⟨next, hd⟩ : ∃ next, CarrierDemux.feedFrames [fr] (dm.withDecoder ⟨[]⟩) {} =
      (next, .ok (DemuxOutput.apply {} fr.streamId delta)) := by
    rw [CarrierDemux.feedFrames, CarrierDemux.handleFrame_eq _ _ _ nz]
    simp only [CarrierDemux.withDecoder, live, hs]
    exact ⟨_, rfl⟩
  have fed := CarrierDemux.feed_ok.mpr ⟨whole, [], [fr], drained, hd⟩
  have es : (DemuxOutput.view (DemuxOutput.apply {} fr.streamId delta) fr.streamId).events = delta.events := by
    simp [DemuxOutput.view, DemuxOutput.apply, List.filter_map, Function.comp_def]
  rw [Endpoint.read, fed, ← es]

theorem carrier_keeps {dm : CarrierDemux} (nz : sid ≠ 0)
    (live : (Endpoint.carrier dm).Live sid cr) (fits : payload.length ≤ cr) :
    (Endpoint.carrier dm).read ⟨sid, flagClose, payload⟩ =
        (Endpoint.carrier dm).read ⟨sid, flagData ||| flagClose, payload⟩ ↔
      (Endpoint.carrier dm).KeepsFinal sid payload := by
  obtain ⟨st, whole, between, hp, rfl⟩ := live
  have small : payload.length ≤ initialWindow := by
    have accounted := st.recvWindow.outstanding_eq
    omega
  have closed : (Endpoint.carrier dm).read ⟨sid, flagClose, payload⟩ = .carrier [.ending .close] :=
    carrier_read nz whole between hp (final_encodable (Or.inl rfl) small) (frameStep_close rfl st)
  obtain ⟨win, debited⟩ := debit_of_le fits
  rw [closed]
  rcases fed : st.assembler.feedData payload with ⟨asm, err | assembled⟩
  · -- A malformed response ends in a reset, which a bare CLOSE never reports.
    have hs : frameStep (some st) ⟨sid, flagData ||| flagClose, payload⟩ =
        some (endStep (.reset .unspecified) [] []) := by
      rw [frameStep_data (Or.inr rfl), dataStep]
      simp only [debited, fed]
    rw [carrier_read nz whole between hp (final_encodable (Or.inr rfl) small) hs]
    constructor
    · intro same
      exact absurd same (by decide)
    · rintro ⟨_, _, _, fnd, made, -⟩
      rw [hp] at fnd
      cases fnd
      rw [fed] at made
      cases made
  · have few := (HttpStreamAssembler.feedData_ok fed).2.1
    have outstanding := debit_outstanding debited
    obtain ⟨_, _, consumed⟩ := consume_of_le (show assembled.autoConsumed ≤ win.outstanding by omega)
    have hs : frameStep (some st) ⟨sid, flagData ||| flagClose, payload⟩ =
        some (endStep .close assembled.events []) := by
      rw [frameStep_data (Or.inr rfl), dataStep]
      simp only [debited, fed, consumed, if_true]
    rw [carrier_read nz whole between hp (final_encodable (Or.inr rfl) small) hs]
    constructor
    · intro same
      have nothing : assembled.events = [] := by simpa [endStep] using same
      exact ⟨st, asm, assembled, hp, fed, nothing⟩
    · rintro ⟨_, _, _, there, made, nothing⟩
      rw [hp] at there
      cases there
      rw [fed] at made
      cases made
      rw [nothing]
      rfl

/-! ### The one-shot assembler -/

theorem windowCredit_other (bare : flags &&& flagWindow = 0) : Frame.windowCredit ⟨sid, flags, payload⟩ = none := by
  unfold Frame.windowCredit
  split
  · exact if_neg (not_not.mpr bare)
  · rfl

/-- However the turn goes on, its state is what the reader gets. -/
theorem oneShot_read {fr : Frame} (sound : asm.flowControlFailed = false)
    (between : asm.decoder.buf = []) (encodable : fr.Encodable) : (Endpoint.oneShot asm).read fr =
      .oneShot (asm.handleFrame fr {}).1.body (asm.handleFrame fr {}).1.closed := by
  have dec : asm.decoder = ⟨[]⟩ := by rw [← between]
  have drained : (asm.decoder.feed fr.wire).drain = (asm.decoder, .ok [fr]) := by
    rw [FrameDecoder.drain, FrameDecoder.feed, between, List.nil_append, drain_wire encodable, dec]
  have fed : asm.feed fr.wire = ResponseAssembler.feedFrames [fr] asm {} := by
    rw [ResponseAssembler.feed, if_neg (by rw [sound]; decide), drained]
  rw [Endpoint.read, fed, ResponseAssembler.feedFrames]
  rcases asm.handleFrame fr {} with ⟨next, turn⟩
  cases turn <;> rfl

/-- Frames of the stream with CLOSE and perhaps DATA go past all the other tests. -/
theorem oneShot_turn (flagged : flags = flagClose ∨ flags = flagData ||| flagClose)
    (named : asm.streamId = sid) (out : FeedOutput) : asm.handleFrame ⟨sid, flags, payload⟩ out =
      if flags &&& flagData ≠ 0 then asm.handleData ⟨sid, flags, payload⟩ out
      else asm.handleClose ⟨sid, flags, payload⟩ out := by
  have plain : flags ≠ flagPing ∧ flags &&& flagWindow = 0 ∧ flags &&& flagReset = 0 := by
    rcases flagged with rfl | rfl <;> decide
  have quiet : Frame.controlPong ⟨sid, flags, payload⟩ = none := if_neg fun ping => plain.1 ping.2.1
  rw [ResponseAssembler.handleFrame, quiet]
  simp only
  rw [if_neg (not_not.mpr named.symm), windowCredit_other plain.2.1]
  simp only
  rw [if_neg (not_not.mpr plain.2.2)]

section
variable (live : (Endpoint.oneShot asm).Live sid cr) (fits : payload.length ≤ cr)
include live fits

/-- Final bytes on DATA|CLOSE are appended to the body, unless the cap stops the response. -/
theorem oneShot_data_close :
    (Endpoint.oneShot asm).read ⟨sid, flagData ||| flagClose, payload⟩ = .oneShot (asm.body ++ payload) true ∨
      (Endpoint.oneShot asm).read ⟨sid, flagData ||| flagClose, payload⟩ = .oneShot asm.body false := by
  obtain ⟨named, unfinished, sound, between, rfl⟩ := live
  have small : payload.length ≤ initialWindow := by
    have accounted := asm.recvWindow.outstanding_eq
    omega
  obtain ⟨win, debited⟩ := debit_of_le fits
  have outstanding := debit_outstanding debited
  obtain ⟨_, grant, consumed⟩ := consume_of_le (show payload.length ≤ win.outstanding by omega)
  have closing : (flagData ||| flagClose) &&& flagClose ≠ 0 := by decide
  rw [oneShot_read sound between (final_encodable (Or.inr rfl) small),
    oneShot_turn (Or.inr rfl) named, if_pos (by decide), ResponseAssembler.handleData]
  cases checkedAdd asm.body.length payload.length with
  | none =>
    rw [← unfinished]
    exact Or.inr rfl
  | some tot =>
    by_cases exceeds : tot > asm.cap
    · simp only [if_pos exceeds]
      rw [← unfinished]
      exact Or.inr rfl
    · simp only [if_neg exceeds, debited, consumed]
      refine Or.inl ?_
      cases grant with
      | none => simp only [ResponseAssembler.handleClose, if_pos closing]
      | some cr =>
        simp only [Frame.encode_eq_ok (Frame.window_encodable _ _), ResponseAssembler.handleClose, if_pos closing]

theorem oneShot_close : (Endpoint.oneShot asm).read ⟨sid, flagClose, payload⟩ = .oneShot asm.body true := by
  obtain ⟨named, _, sound, between, rfl⟩ := live
  have small : payload.length ≤ initialWindow := by
    have accounted := asm.recvWindow.outstanding_eq
    omega
  have closing : flagClose &&& flagClose ≠ 0 := by decide
  rw [oneShot_read sound between (final_encodable (Or.inl rfl) small),
    oneShot_turn (Or.inl rfl) named, if_neg (by decide), ResponseAssembler.handleClose,
    if_pos closing]

end

/-! ### The bridge -/

theorem notify_reading (there : st.reading = true) (drv : Bridge.Driver)
    (ev : Bridge.InboundEvent) : drv.notify sid st ev =
      ({ drv with inbound := drv.inbound ++ [(sid, ev)] }, true) := if_pos there

theorem notify_gone (gone : st.reading = false) (drv : Bridge.Driver) (ev : Bridge.InboundEvent) :
    drv.notify sid st ev = (drv, false) := if_neg (by rw [gone]; decide)

theorem inboundOf_notify (drv : Bridge.Driver) (st : Bridge.StreamState) (ev : Bridge.InboundEvent) :
    inboundOf sid (drv.notify sid st ev).1 = inboundOf sid drv ++ (if st.reading then [ev] else []) := by
  cases there : st.reading with
  | true =>
    rw [notify_reading there]
    simp [inboundOf]
  | false =>
    rw [notify_gone there]
    simp

/-- A reader that is gone is not told about a reset either. -/
theorem inboundOf_resetStream (hp : driver.streams.lookup sid = some st)
    (gone : st.reading = false) (rsn : UInt8) :
    inboundOf sid (driver.resetStream sid rsn).1 = inboundOf sid driver := by
  rw [Bridge.Driver.resetStream, hp]
  simp only [notify_gone gone, inboundOf, Bridge.Driver.queueOk_inbound]
  rfl

theorem inboundOf_close (closing : flags &&& flagClose ≠ 0) (hp : driver.streams.lookup sid = some st) :
    inboundOf sid (driver.receiveClose ⟨sid, flags, payload⟩).1 =
      inboundOf sid driver ++ (if st.reading then [.ending .closed] else []) := by
  have told : inboundOf sid (Bridge.Driver.notify (driver.assign sid (some { st with peerClosed := true })) sid st
      (.ending .closed)).1 = _ := inboundOf_notify _ _ _
  rw [Bridge.Driver.receiveClose, if_pos closing, hp]
  simp only
  split
  · exact told
  · exact told

theorem bridge_receive (flagged : flags = flagClose ∨ flags = flagData ||| flagClose)
    (nz : sid ≠ 0) : driver.receive ⟨sid, flags, payload⟩ =
      if flags &&& flagData ≠ 0 then driver.receiveData ⟨sid, flags, payload⟩
      else driver.receiveClose ⟨sid, flags, payload⟩ := by
  have plain : ¬(flagsValid flags = false ∨ flags &&& flagOpen ≠ 0) ∧ flags ≠ flagWindow ∧ flags &&& flagReset = 0 := by
    rcases flagged with rfl | rfl <;> decide
  rw [Bridge.Driver.receive, if_neg nz, if_neg plain.1, if_neg plain.2.1, if_neg (not_not.mpr plain.2.2)]

theorem bridge_data_close (nz : sid ≠ 0) (sound : st.Sound)
    (hp : driver.streams.lookup sid = some st) (reading : st.peerClosed = false)
    (fits : payload.length ≤ st.receive.credit) :
    (Endpoint.bridge driver).read ⟨sid, flagData ||| flagClose, payload⟩ = .bridge (inboundOf sid driver ++
        (if st.reading then [.data payload, .ending .closed] else [])) := by
  have accounted := st.receive.outstanding_eq
  rw [← sound] at accounted
  obtain ⟨_, debited⟩ := debit_of_le fits
  have counted : checkedAdd st.receivedUnconsumed payload.length = some (st.receivedUnconsumed + payload.length) := by
    apply checkedAdd_of_le
    simp only [initialWindow, wordMax] at accounted ⊢
    omega
  obtain ⟨next, rcv, same⟩ : ∃ next, st.debitReceived payload.length = .ok next ∧
      next.reading = st.reading := by
    simp only [Bridge.StreamState.debitReceived, debited, counted]
    exact ⟨_, rfl, rfl⟩
  have fnd : (driver.assign sid (some next)).streams.lookup sid = some next := Table.lookup_assign _ _ _
  rw [Endpoint.read, bridge_receive (Or.inr rfl) nz, if_pos (by decide), Bridge.Driver.receiveData, hp]
  cases there : st.reading with
  | true =>
    rw [there] at same
    simp only [reading, rcv, notify_reading same, Bool.false_eq_true, if_false]
    have closed : inboundOf sid (Bridge.Driver.receiveClose { driver.assign sid (some next) with
          inbound := (driver.assign sid (some next)).inbound ++ [(sid, .data payload)] }
        ⟨sid, flagData ||| flagClose, payload⟩).1 = _ := inboundOf_close (by decide) fnd
    rw [closed, same]
    simp [inboundOf, Bridge.Driver.assign]
  | false =>
    rw [there] at same
    simp only [reading, rcv, notify_gone same, Bool.false_eq_true, if_false]
    rw [inboundOf_resetStream fnd same]
    simp [inboundOf, Bridge.Driver.assign]

theorem bridge_keeps (nz : sid ≠ 0) (live : (Endpoint.bridge driver).Live sid cr)
    (fits : payload.length ≤ cr) : (Endpoint.bridge driver).read ⟨sid, flagClose, payload⟩ =
        (Endpoint.bridge driver).read ⟨sid, flagData ||| flagClose, payload⟩ ↔
      (Endpoint.bridge driver).KeepsFinal sid payload := by
  obtain ⟨_, _, st, ran, hp, reading, rfl⟩ := live
  have sound := Bridge.Driver.run_sound ran sid st hp
  rw [bridge_data_close nz sound hp reading fits, Endpoint.read,
    bridge_receive (Or.inl rfl) nz, if_neg (by decide), inboundOf_close (by decide) hp]
  cases there : st.reading with
  | true =>
    constructor
    · intro same
      simp at same
    · rintro ⟨_, fnd, gone⟩
      rw [hp] at fnd
      cases fnd
      rw [there] at gone
      cases gone
  | false => exact ⟨fun _ => ⟨st, hp, there⟩, fun _ => rfl⟩

/-! ### All four -/

/-- Final bytes on a bare CLOSE reach the reader as they do on DATA|CLOSE exactly at the
endpoints of `KeepsFinal`. The home is one of them; a carrier, a one-shot assembler and a
bridge drop bytes that they would deliver if the DATA flag were set. -/
theorem Endpoint.close_reads_like_data_close (endpoint : Endpoint) (streamId : UInt32)
    (payload : Bytes) (credit : Nat) (nonzero : streamId ≠ 0) (nonempty : payload ≠ [])
    (live : endpoint.Live streamId credit) (fits : payload.length ≤ credit) :
    endpoint.read ⟨streamId, flagClose, payload⟩ = endpoint.read ⟨streamId, flagData ||| flagClose, payload⟩ ↔
      endpoint.KeepsFinal streamId payload := by
  cases endpoint with
  | home =>
    rw [home_read (Or.inl rfl) nonempty live fits, home_read (Or.inr rfl) nonempty live fits]
    exact ⟨fun _ => trivial, fun _ => rfl⟩
  | carrier => exact carrier_keeps nonzero live fits
  | oneShot =>
    rw [oneShot_close live fits]
    refine ⟨fun same => ?_, False.elim⟩
    rcases oneShot_data_close live fits with kept | stopped
    · rw [kept] at same
      simp [nonempty] at same
    · rw [stopped] at same
      cases same
  | bridge => exact bridge_keeps nonzero live fits

/-- A carrier whose stream 1 has read the head of a response. -/
def sampleHeaded : CarrierDemux :=
  ((CarrierDemux.openStream {} 1).feed (Frame.wire ⟨1, flagData, asciiBytes "HTTP/1.1 200 OK\r\n\r\n"⟩)).1

def sampleDialed : Bridge.Driver := (Bridge.Driver.openStream {}).1

/-- A bridge stream that is read loses the bytes, as the theorem says. -/
theorem Endpoint.close_reads_like_data_close_bridge : (Endpoint.bridge sampleDialed).Live 1 initialWindow ∧
      (Endpoint.bridge sampleDialed).read ⟨1, flagClose, asciiBytes "bye"⟩ ≠
        (Endpoint.bridge sampleDialed).read ⟨1, flagData ||| flagClose, asciiBytes "bye"⟩ := by
  have present : sampleDialed.streams.lookup 1 = some {} := by decide +kernel
  have live : (Endpoint.bridge sampleDialed).Live 1 initialWindow := ⟨[.openStream], _, {}, rfl, present, rfl, rfl⟩
  refine ⟨live, fun same => ?_⟩
  obtain ⟨_, found, gone⟩ := (Endpoint.close_reads_like_data_close _ 1 (asciiBytes "bye")
    initialWindow (by decide) (by decide) live (by decide)).mp same
  rw [present] at found
  cases found
  cases gone

/-- The final bytes of a response on a bare CLOSE are lost at the carrier, the one-shot
assembler and the bridge, and delivered by each of them on DATA|CLOSE. -/
theorem Endpoint.close_loses_final_bytes : (∃ credit, asciiBytes "bye" ≠ [] ∧ (asciiBytes "bye").length ≤ credit ∧
      (Endpoint.carrier sampleHeaded).Live 1 credit) ∧
    (Endpoint.carrier sampleHeaded).read ⟨1, flagClose, asciiBytes "bye"⟩ = .carrier [.ending .close] ∧
    (Endpoint.carrier sampleHeaded).read ⟨1, flagData ||| flagClose, asciiBytes "bye"⟩ =
      .carrier [⟨.body (asciiBytes "bye"), 3⟩, .ending .close] ∧
    (Endpoint.oneShot (.new 1)).read ⟨1, flagClose, asciiBytes "bye"⟩ = .oneShot [] true ∧
    (Endpoint.oneShot (.new 1)).read ⟨1, flagData ||| flagClose, asciiBytes "bye"⟩ =
      .oneShot (asciiBytes "bye") true ∧
    (Endpoint.bridge sampleDialed).read ⟨1, flagClose, asciiBytes "bye"⟩ = .bridge [.ending .closed] ∧
    (Endpoint.bridge sampleDialed).read ⟨1, flagData ||| flagClose, asciiBytes "bye"⟩ =
      .bridge [.data (asciiBytes "bye"), .ending .closed] := by
  have whole : sampleHeaded.fatalViolation = none ∧ sampleHeaded.decoder.buf = [] ∧
      (sampleHeaded.streams.lookup 1).map (fun stream => stream.recvWindow.credit) = some (initialWindow - 19) := by
    decide +kernel
  obtain ⟨stream, present, credit⟩ := Option.map_eq_some_iff.mp whole.2.2
  refine ⟨⟨initialWindow - 19, by decide, by decide, stream, whole.1, whole.2.1, present, credit⟩, ?_⟩
  decide +kernel

end SplRust.Link
