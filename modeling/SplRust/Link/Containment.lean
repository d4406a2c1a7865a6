import SplRust.Link.Receive

/-! Two rules of the framing document at every endpoint: a late frame of a forgotten stream
is answered by what it asserts, and a violation costs its own stream or, on stream 0, the
tunnel, and nothing else. Neither holds everywhere; each result says for which frames and
endpoints it does. -/

namespace SplRust.Link
open SplRust.Lib SplRust.Core SplRust.Home Option Endpoint MuxStreams Table
variable {next : Endpoint} {acc : MuxAcceptor} {drv : Bridge.Driver} {asm : ResponseAssembler}

variable {frame : Frame} {endpoint : Endpoint}

/-! ### Late frames -/

/-- A well-formed frame of a stream that is not live and that it does not open. -/
structure Late (fr : Frame) (endpoint : Endpoint) : Prop where
  stream : fr.streamId ≠ 0
  forgotten : endpoint.entry fr.streamId = none
  valid : flagsValid fr.flags = true
  opens : fr.flags &&& flagOpen = 0
  sized : fr.payload.length ≤ maxPayload

def Asserts (flags : UInt8) : Prop := flags &&& flagData ≠ 0 ∨ flags = flagWindow

def Terminal (flags : UInt8) : Prop := (flags &&& flagClose ≠ 0 ∧ flags &&& flagData = 0) ∨ flags = flagReset

instance (flags : UInt8) : Decidable (Asserts flags) := inferInstanceAs (Decidable (_ ∨ _))

instance (flags : UInt8) : Decidable (Terminal flags) := inferInstanceAs (Decidable (_ ∨ _))

/-- A frame that takes its stream for live draws one reset, a terminal one nothing, and every
live stream is left as it is. -/
structure LateRule (fr : Frame) (endpoint : Endpoint) : Prop where
  up : (endpoint.receive fr).ended = false
  kept : ∀ other, (endpoint.receive fr).after.entry other = endpoint.entry other
  asserted : Asserts fr.flags → (endpoint.receive fr).answers = [(Frame.reset fr.streamId resetProtocolError).wire]
  terminal : Terminal fr.flags → (endpoint.receive fr).answers = []

namespace Endpoint

/-- The endpoints that keep a table of streams. -/
def Routes : Endpoint → Prop
  | .oneShot _ => False
  | _ => True

/-- The late frames an endpoint answers by the rule. -/
def AnswersLate (flags : UInt8) : Endpoint → Prop
  | .home _ => flags ≠ flagData ||| flagClose
  | .carrier _ => True
  | .oneShot _ => False
  | .bridge _ => flags &&& flagData = 0 ∧ flags ≠ flagWindow

end Endpoint

theorem late_flags {flags : UInt8} (valid : flagsValid flags = true) (opens : flags &&& flagOpen = 0) :
    ((flags = flagClose ∨ flags = flagReset) ∧ ¬ Asserts flags) ∨ flags = flagData ||| flagClose ∨
      ((flags = flagData ∨ flags = flagWindow ∨ flags = flagPing ∨ flags = flagPong) ∧ ¬ Terminal flags) := by
  rcases flagsValid_cases valid with rfl | rfl | rfl | rfl | rfl | rfl | rfl | rfl | rfl | rfl | rfl <;>
    revert opens <;> decide

theorem Late.encodable (late : Late frame endpoint) : frame.Encodable := by
  refine encodable_of_plain late.sized ?_
  rcases flagsValid_cases late.valid with h | h | h | h | h | h | h | h | h | h | h <;> rw [Reserved, h] <;> decide

theorem LateRule.of_reset (rcv : endpoint.receive frame =
      ⟨next, [(Frame.reset frame.streamId resetProtocolError).wire], false⟩)
    (kept : ∀ other, next.entry other = endpoint.entry other) (open_ended : ¬ Terminal frame.flags) :
    LateRule frame endpoint := by
  refine ⟨?_, ?_, fun _ => ?_, fun terminal => absurd terminal open_ended⟩
  · rw [rcv]
  · rw [rcv]
    exact kept
  · rw [rcv]

theorem LateRule.of_silence (rcv : endpoint.receive frame = ⟨next, [], false⟩)
    (kept : ∀ other, next.entry other = endpoint.entry other) (modest : ¬ Asserts frame.flags) :
    LateRule frame endpoint := by
  refine ⟨?_, ?_, fun asserts => absurd asserts modest, fun _ => ?_⟩
  · rw [rcv]
  · rw [rcv]
    exact kept
  · rw [rcv]

theorem LateRule.not_silent (rule : LateRule frame endpoint)
    (rcv : endpoint.receive frame = ⟨next, [], false⟩) : ¬ Asserts frame.flags := by
  intro asserts
  have answered := rule.asserted asserts
  rw [rcv] at answered
  cases answered

section
variable (ready : (Endpoint.home acc).Ready)
include ready

section
variable (late : Late frame (.home acc))
include late

theorem home_tolerated (flags : frame.flags = flagClose ∨ frame.flags = flagReset ∨
      frame.flags = flagData ||| flagClose) :
    ∃ next : MuxAcceptor, (Endpoint.home acc).receive frame = ⟨.home next, [], false⟩ ∧
      next.streams = acc.streams := by
  obtain ⟨last, fed⟩ := home_feed ready late.sized
  have unknown : frame.streamId ∉ acc.streams := Finmap.lookup_eq_none.mp (map_eq_none_iff.mp late.forgotten)
  have plain : flagsValid frame.flags ≠ false ∧ frame.flags &&& (flagPing ||| flagPong) = 0 ∧
      frame.flags &&& flagOpen = 0 ∧ frame.flags &&& (flagClose ||| flagReset) ≠ 0 := by
    rcases flags with eq | eq | eq <;> rw [eq] <;> decide
  have hd : acc.handleItem (itemOf frame) {} = (acc.toMuxStreams, .ok {}) := by
    rw [itemOf, if_neg (not_not.mpr late.encodable.2), handleItem_stream late.stream,
      handleStreamFrame, if_neg plain.1, if_neg (not_not.mpr plain.2.1),
      if_neg (not_not.mpr plain.2.2.1), if_pos ⟨unknown, plain.2.2.2⟩]
  rw [hd] at fed
  refine ⟨last.hold acc.toMuxStreams, ?_, rfl⟩
  rw [Endpoint.receive, fed]
  rfl

theorem home_refuses_late (flags : frame.flags = flagData ∨ frame.flags = flagWindow ∨ frame.flags = flagPing ∨
      frame.flags = flagPong) : ∃ next : MuxAcceptor, (Endpoint.home acc).receive frame =
        ⟨.home next, [(Frame.reset frame.streamId resetProtocolError).wire], false⟩ ∧
      next.streams = acc.streams := by
  have abs := map_eq_none_iff.mp late.forgotten
  have unknown : frame.streamId ∉ acc.streams := Finmap.lookup_eq_none.mp abs
  have unfinished : frame.flags &&& (flagClose ||| flagReset) = 0 := by
    rcases flags with eq | eq | eq | eq <;> rw [eq] <;> decide
  have lasting : ¬ (frame.streamId ∉ acc.streams ∧
      frame.flags &&& (flagClose ||| flagReset) ≠ 0) := fun terminal => terminal.2 unfinished
  have refused : acc.handleStreamFrame frame {} = acc.refuse frame .protocol {} := by
    rw [handleStreamFrame, if_neg (by rw [late.valid]; decide),
      if_neg (not_not.mpr late.opens), if_neg lasting, if_pos unknown, ite_self]
  have hd : acc.handleItem (itemOf frame) {} =
      ((acc.refuse frame .protocol {}).1, .ok (acc.refuse frame .protocol {}).2) := by
    rw [itemOf, if_neg (not_not.mpr late.encodable.2), handleItem_stream late.stream, refused]
  obtain ⟨next, rcv, streams⟩ := home_refused ready late.sized hd
  exact ⟨next, rcv, by rw [streams, erase_of_absent _ abs]⟩

theorem home_late : LateRule frame (.home acc) ↔ (Endpoint.home acc).AnswersLate frame.flags := by
  have kept {next : MuxAcceptor} (same : next.streams = acc.streams) (other : UInt32) :
      (Endpoint.home next).entry other = (Endpoint.home acc).entry other := by
    simp only [entry, same]
  constructor
  · intro rule both
    obtain ⟨_, rcv, -⟩ := home_tolerated ready late (Or.inr (Or.inr both))
    exact rule.not_silent rcv (by rw [both]; decide)
  · intro apart
    rcases late_flags late.valid late.opens with ⟨terminal, modest⟩ | both | ⟨other, lasting⟩
    · obtain ⟨_, rcv, same⟩ := home_tolerated ready late (terminal.imp_right Or.inl)
      exact .of_silence rcv (kept same) modest
    · exact absurd both apart
    · obtain ⟨_, rcv, same⟩ := home_refuses_late ready late other
      exact .of_reset rcv (kept same) lasting

end

end

/-- The carrier follows the rule for every late frame. -/
theorem carrier_late {dm : CarrierDemux} (ready : (Endpoint.carrier dm).Ready)
    (late : Late frame (.carrier dm)) : LateRule frame (.carrier dm) := by
  have abs := map_eq_none_iff.mp late.forgotten
  have kept (other : UInt32) : (Endpoint.carrier { dm with
      streams := assign dm.streams frame.streamId none }).entry other =
      (Endpoint.carrier dm).entry other := by
    simp only [entry, assign_lookup _ _ abs]
  have rcv (delta : StreamDelta) (hs : frameStep none frame = some (none, delta)) :=
    carrier_stepped ready late.encodable late.stream (by rw [abs]; exact hs)
  rcases late_flags late.valid late.opens with ⟨terminal, modest⟩ | both | ⟨other, lasting⟩
  · refine .of_silence (rcv {} ?_) kept modest
    rw [frameStep]
    rcases terminal with eq | eq <;> rw [eq] <;> rfl
  · refine .of_reset (rcv (rejectStep none frame).2 ?_) kept ?_
    · rw [frameStep, both]
      rfl
    · rw [both]
      decide
  · refine .of_reset (rcv (rejectStep none frame).2 ?_) kept lasting
    rw [frameStep]
    rcases other with eq | eq | eq | eq <;> rw [eq] <;> rfl

theorem resetStream_absent {sid : UInt32} (abs : drv.streams.lookup sid = none)
    (rsn : UInt8) : drv.resetStream sid rsn = (drv, true) := by
  rw [Bridge.Driver.resetStream, abs]

theorem bridge_drops (late : Late frame (.bridge drv)) : drv.receive frame = (drv, true) := by
  have abs := map_eq_none_iff.mp late.forgotten
  have valid : ¬ (flagsValid frame.flags = false ∨ frame.flags &&& flagOpen ≠ 0) := by
    rw [late.valid, late.opens]
    decide
  rw [Bridge.Driver.receive, if_neg late.stream, if_neg valid]
  split
  · rw [Bridge.Driver.receiveWindow]
    cases frame.windowCredit with
    | none => exact resetStream_absent abs _
    | some cr => simp only [abs, Bridge.Driver.drainPendingWrites]
  split
  · rw [Bridge.Driver.receiveReset, abs]
  split
  · rw [Bridge.Driver.receiveData, abs]
    exact resetStream_absent abs _
  · rw [Bridge.Driver.receiveClose, abs]
    split
    · exact resetStream_absent abs _
    · rfl

theorem bridge_late (ready : (Endpoint.bridge drv).Ready) (late : Late frame (.bridge drv)) :
    LateRule frame (.bridge drv) ↔ (Endpoint.bridge drv).AnswersLate frame.flags := by
  obtain ⟨_, rcv⟩ := bridge_received ready late.encodable
  rw [bridge_drops late, List.drop_length] at rcv
  have modest : (Endpoint.bridge drv).AnswersLate frame.flags ↔ ¬ Asserts frame.flags := by
    rw [Asserts, not_or, not_not]
    rfl
  rw [modest]
  exact ⟨fun rule => rule.not_silent rcv, .of_silence rcv fun _ => rfl⟩

/-- Late frames are answered uniformly, except by the home if DATA comes with CLOSE and by the
bridge if the frame asserts a live stream. -/
theorem late_frames_answered (ready : endpoint.Ready) (routes : endpoint.Routes) (late : Late frame endpoint) :
    LateRule frame endpoint ↔ endpoint.AnswersLate frame.flags := by
  cases endpoint with
  | home => exact home_late ready late
  | carrier => exact ⟨fun _ => trivial, fun _ => carrier_late ready late⟩
  | oneShot => exact absurd routes id
  | bridge => exact bridge_late ready late

theorem late_frames_answered_carrier : LateRule ⟨1, flagData, [0]⟩ (.carrier {}) :=
  have ready : (Endpoint.carrier {}).Ready := ⟨[], [], rfl, rfl, rfl⟩
  (late_frames_answered ready trivial ⟨by decide, rfl, rfl, rfl, by decide⟩).mpr trivial

/-- A home that was just started says nothing to DATA|CLOSE of a stream it does not know, and
a bridge nothing to plain DATA. -/
theorem late_frames_unanswered : ((Endpoint.home { limits := {} }).Ready ∧
      Late ⟨1, flagData ||| flagClose, [0]⟩ (.home { limits := {} }) ∧
      ¬ LateRule ⟨1, flagData ||| flagClose, [0]⟩ (.home { limits := {} })) ∧
    (Endpoint.bridge {}).Ready ∧ Late ⟨1, flagData, [0]⟩ (.bridge {}) ∧
      ¬ LateRule ⟨1, flagData, [0]⟩ (.bridge {}) := by
  have home : (Endpoint.home { limits := {} }).Ready := ⟨{}, { limits := {} }, [], [], rfl, rfl, rfl, rfl, rfl⟩
  have bridge : (Endpoint.bridge {}).Ready := ⟨[], [], rfl, rfl⟩
  have closing : Late ⟨1, flagData ||| flagClose, [0]⟩ (.home { limits := {} }) :=
    ⟨by decide, rfl, rfl, rfl, by decide⟩
  have data : Late ⟨1, flagData, [0]⟩ (.bridge {}) := ⟨by decide, rfl, rfl, rfl, by decide⟩
  refine ⟨⟨home, closing, fun rule => ?_⟩, bridge, data, fun rule => ?_⟩
  · exact (home_late home closing).mp rule rfl
  · exact absurd ((bridge_late bridge data).mp rule).1 (by decide)

/-! ### Violations -/

/-- A control frame of stream 0. -/
def ControlOk (fr : Frame) : Prop := (fr.flags = flagPing ∨ fr.flags = flagPong) ∧ fr.payload.length = controlNonceLen

def Violating (fr : Frame) : Prop := flagsValid fr.flags = false ∨ fr.flags = flagPing ∨ fr.flags = flagPong

/-- The frame costs its own stream, which is reset, and nothing else. -/
structure ResetsOnly (fr : Frame) (endpoint : Endpoint) : Prop where
  up : (endpoint.receive fr).ended = false
  answered : (endpoint.receive fr).answers = [(Frame.reset fr.streamId resetProtocolError).wire]
  removed : (endpoint.receive fr).after.entry fr.streamId = none
  kept : ∀ other, other ≠ fr.streamId → (endpoint.receive fr).after.entry other = endpoint.entry other

structure Contained (fr : Frame) (endpoint : Endpoint) : Prop where
  control : fr.streamId = 0 → ¬ ControlOk fr → (endpoint.receive fr).ended = true
  stream : fr.streamId ≠ 0 → endpoint.entry fr.streamId ≠ none → Violating fr → ResetsOnly fr endpoint

/-- DATA that the assembler has no room for, by its cap or by its receive window. -/
structure Overflows (asm : ResponseAssembler) (fr : Frame) : Prop where
  named : fr.streamId = asm.streamId
  uncredited : fr.windowCredit = none
  unreset : fr.flags &&& flagReset = 0
  data : fr.flags &&& flagData ≠ 0
  full : min asm.cap wordMax < asm.body.length + fr.payload.length ∨ asm.recvWindow.credit < fr.payload.length

/-- The frames whose violation an endpoint contains. -/
def Endpoint.Contains (fr : Frame) : Endpoint → Prop
  | .home _ => True
  | .carrier demux => fr.streamId ≠ 0 → fr.streamId ∈ demux.streams → ¬ Reserved fr
  | .oneShot asm =>
      (fr.streamId = 0 → ControlOk fr ∨ Reserved fr ∨ Overflows asm fr) ∧
      (fr.streamId ≠ 0 → asm.streamId = fr.streamId → asm.closed = false → ¬ Violating fr)
  | .bridge driver =>
      (fr.streamId = 0 → ControlOk fr ∨ Reserved fr) ∧
      (fr.streamId ≠ 0 → fr.streamId ∈ driver.streams → Violating fr →
        ¬ Reserved fr ∧ fr.flags ≠ flagPing ∧ fr.flags ≠ flagPong ∧ driver.writing = true)

theorem reserved_violating (reserved : Reserved frame) : flagsValid frame.flags = false := by
  cases valid : flagsValid frame.flags with
  | false => rfl
  | true =>
    exfalso
    rcases flagsValid_cases valid with h | h | h | h | h | h | h | h | h | h | h <;>
      rw [Reserved, h] at reserved <;> revert reserved <;> decide

theorem ResetsOnly.of_received (rcv : endpoint.receive frame =
      ⟨next, [(Frame.reset frame.streamId resetProtocolError).wire], false⟩)
    (removed : next.entry frame.streamId = none)
    (kept : ∀ other, other ≠ frame.streamId → next.entry other = endpoint.entry other) : ResetsOnly frame endpoint := by
  refine ⟨?_, ?_, ?_, ?_⟩ <;> rw [rcv]
  · exact removed
  · exact kept

theorem entry_erase {ν : Type} (table : Table UInt32 ν) (sid : UInt32) (wrap : ν → Entry) :
    ((table.erase sid).lookup sid).map wrap = none ∧ ∀ other, other ≠ sid →
        ((table.erase sid).lookup other).map wrap = (table.lookup other).map wrap := by
  refine ⟨?_, fun other ne => ?_⟩
  · rw [Finmap.lookup_erase]
    rfl
  · rw [Finmap.lookup_erase_ne ne]

theorem home_contained (ready : (Endpoint.home acc).Ready)
    (sized : frame.payload.length ≤ maxPayload) : Contained frame (.home acc) := by
  refine ⟨fun zero uncontrolled => ?_, fun st live violating => ?_⟩
  · obtain ⟨_, fed⟩ := home_feed ready sized
    have fatal : (itemOf frame).fatal = some (violation frame) := by
      rw [itemOf]
      split
      · exact if_pos zero
      · exact if_pos ⟨zero, uncontrolled⟩
    rcases acc.handleItem_cases (itemOf frame) with ⟨fnd, -, fails⟩ | ⟨fine, -⟩
    · rw [fails] at fed
      rw [Endpoint.receive, fed]
    · rw [fatal] at fine
      cases fine
  · have refused : acc.handleItem (itemOf frame) {} =
        ((acc.refuse frame .protocol {}).1, .ok (acc.refuse frame .protocol {}).2) := by
      by_cases reserved : frame.flags &&& flagReservedMask ≠ 0
      · rw [itemOf, if_pos reserved]
        exact if_neg st
      · rw [itemOf, if_neg reserved, handleItem_stream st, handleStreamFrame]
        rcases violating with invalid | ctl
        · rw [if_pos invalid]
        · have pinging : frame.flags &&& (flagPing ||| flagPong) ≠ 0 := by
            rcases ctl with eq | eq <;> rw [eq] <;> decide
          rw [if_pos pinging, ite_self]
    obtain ⟨_, rcv, streams⟩ := home_refused ready sized refused
    have erased := entry_erase acc.streams frame.streamId .home
    rw [← streams] at erased
    exact .of_received rcv erased.1 erased.2

theorem carrier_contained {dm : CarrierDemux} (ready : (Endpoint.carrier dm).Ready)
    (sized : frame.payload.length ≤ maxPayload) :
    Contained frame (.carrier dm) ↔ (Endpoint.carrier dm).Contains frame := by
  constructor
  · intro contained st kn reserved
    have live : (Endpoint.carrier dm).entry frame.streamId ≠ none := by simpa [entry] using mem_iff_lookup.mp kn
    have resets := contained.stream st live (Or.inl (reserved_violating reserved))
    exact absurd ((carrier_reserved ready reserved).symm.trans resets.up) (by decide)
  · intro contains
    refine ⟨fun zero uncontrolled => ?_, fun st live violating => ?_⟩
    · by_cases reserved : Reserved frame
      · exact carrier_reserved ready reserved
      · have pong : frame.controlPong = none := if_neg fun ping => uncontrolled ⟨Or.inl ping.2.1, ping.2.2⟩
        have nonce : frame.controlPongNonce = none := if_neg fun ans => uncontrolled ⟨Or.inr ans.2.1, ans.2.2⟩
        rw [Endpoint.receive, carrier_feed ready (encodable_of_plain sized reserved),
          CarrierDemux.handleFrame, if_pos zero, pong, nonce]
    · have kn : frame.streamId ∈ dm.streams := by
        rw [mem_iff_lookup]
        simpa [entry] using live
      have hs : frameStep (dm.streams.lookup frame.streamId) frame =
          some (rejectStep (dm.streams.lookup frame.streamId) frame) := by
        unfold frameStep
        apply if_pos
        rcases violating with invalid | ping | pong
        · exact Or.inl invalid
        · exact Or.inr (Or.inr (Or.inl ping))
        · exact Or.inr (Or.inr (Or.inr pong))
      have rcv := carrier_stepped ready (encodable_of_plain sized (contains st kn)) st hs
      have erased := entry_erase dm.streams frame.streamId .carrier
      exact .of_received rcv erased.1 erased.2

theorem notify_writer (drv : Bridge.Driver) (sid : UInt32) (st : Bridge.StreamState)
    (ev : Bridge.InboundEvent) : (drv.notify sid st ev).1.writing = drv.writing ∧
      (drv.notify sid st ev).1.written = drv.written := by
  unfold Bridge.Driver.notify
  split <;> exact ⟨rfl, rfl⟩

/-- A reset of a live stream reaches the wire as long as the writer is there. -/
theorem resetStream_live {sid : UInt32} (kn : sid ∈ drv.streams) (rsn : UInt8) :
    (drv.resetStream sid rsn).1.streams = drv.streams.erase sid ∧
    (drv.resetStream sid rsn).2 = drv.writing ∧ (drv.resetStream sid rsn).1.written = drv.written ++
      (if drv.writing then [(Frame.reset sid rsn).wire] else []) := by
  obtain ⟨st, hp⟩ := ne_none_iff_exists'.mp (mem_iff_lookup.mp kn)
  obtain ⟨writing, written⟩ := notify_writer (drv.assign sid none) sid st (.ending (.reset rsn))
  have streams := Bridge.Driver.notify_streams (drv.assign sid none) sid st (.ending (.reset rsn))
  rw [Bridge.Driver.resetStream, hp]
  simp only [Bridge.Driver.queueOk, Bridge.Driver.queueFrame, Frame.encode_eq_ok (Frame.reset_encodable _ _)]
  have there : (drv.assign sid none).writing = drv.writing := rfl
  have sent : (drv.assign sid none).written = drv.written := rfl
  rw [there] at writing
  rw [sent] at written
  cases alive : drv.writing with
  | true =>
    rw [if_pos (writing.trans alive)]
    exact ⟨streams, rfl, by rw [written]; rfl⟩
  | false =>
    rw [if_neg (by rw [writing, alive]; decide)]
    exact ⟨streams, rfl, by rw [written]; exact (List.append_nil _).symm⟩

theorem bridge_ping (st : frame.streamId ≠ 0) (ctl : frame.flags = flagPing ∨ frame.flags = flagPong) :
    drv.receive frame = (drv, true) := by
  have plain : ¬ (flagsValid frame.flags = false ∨ frame.flags &&& flagOpen ≠ 0) ∧
      frame.flags ≠ flagWindow ∧ frame.flags &&& flagReset = 0 ∧ frame.flags &&& flagData = 0 ∧
      frame.flags &&& flagClose = 0 := by
    rcases ctl with eq | eq <;> rw [eq] <;> decide
  rw [Bridge.Driver.receive, if_neg st, if_neg plain.1, if_neg plain.2.1,
    if_neg (not_not.mpr plain.2.2.1), if_neg (not_not.mpr plain.2.2.2.1),
    Bridge.Driver.receiveClose, if_neg (not_not.mpr plain.2.2.2.2)]

theorem bridge_contained (ready : (Endpoint.bridge drv).Ready) (sized : frame.payload.length ≤ maxPayload) :
    Contained frame (.bridge drv) ↔ (Endpoint.bridge drv).Contains frame := by
  constructor
  · intro contained
    refine ⟨fun zero => ?_, fun st kn violating => ?_⟩
    · by_contra neither
      obtain ⟨uncontrolled, plain⟩ := not_or.mp neither
      have pong : frame.controlPong = none := if_neg fun ping => uncontrolled ⟨Or.inl ping.2.1, ping.2.2⟩
      have dropped : drv.receive frame = (drv, true) := by rw [Bridge.Driver.receive, if_pos zero, pong]
      obtain ⟨_, rcv⟩ := bridge_received ready (encodable_of_plain sized plain)
      have ended := contained.control zero uncontrolled
      rw [rcv, dropped] at ended
      cases ended
    · have live : (Endpoint.bridge drv).entry frame.streamId ≠ none := by simpa [entry] using mem_iff_lookup.mp kn
      have resets := contained.stream st live violating
      have plain : ¬ Reserved frame := fun reserved =>
        absurd ((bridge_reserved ready reserved).symm.trans resets.up) (by decide)
      obtain ⟨_, rcv⟩ := bridge_received ready (encodable_of_plain sized plain)
      have nonping : ¬ (frame.flags = flagPing ∨ frame.flags = flagPong) := by
        intro ctl
        have answered := resets.answered
        rw [rcv, bridge_ping st ctl, List.drop_length] at answered
        cases answered
      have invalid : flagsValid frame.flags = false := violating.resolve_right nonping
      have up := resets.up
      rw [rcv, Bridge.Driver.receive, if_neg st, if_pos (Or.inl invalid),
        (resetStream_live kn resetProtocolError).2.1] at up
      exact ⟨plain, fun ping => nonping (Or.inl ping), fun pong => nonping (Or.inr pong), by simpa using up⟩
  · rintro ⟨ctl, st⟩
    refine ⟨fun zero uncontrolled => ?_, fun nz live violating => ?_⟩
    · exact bridge_reserved ready ((ctl zero).resolve_left uncontrolled)
    · have kn : frame.streamId ∈ drv.streams := by
        rw [mem_iff_lookup]
        simpa [entry] using live
      obtain ⟨plain, ping, pong, writing⟩ := st nz kn violating
      have invalid : flagsValid frame.flags = false := violating.resolve_right (not_or.mpr ⟨ping, pong⟩)
      obtain ⟨_, rcv⟩ := bridge_received ready (encodable_of_plain sized plain)
      obtain ⟨streams, still, written⟩ := resetStream_live kn resetProtocolError
      rw [Bridge.Driver.receive, if_neg nz, if_pos (Or.inl invalid), written, still, writing,
        if_pos rfl, List.drop_left] at rcv
      have erased := entry_erase drv.streams frame.streamId .bridge
      rw [← streams] at erased
      exact .of_received rcv erased.1 erased.2

def turnOutcome (asm : ResponseAssembler) : ResponseAssembler.Turn → Outcome
  | .proceed out => ⟨.oneShot asm, out.pongs ++ out.emitFrames, out.terminalError.isSome⟩
  | .stop out => ⟨.oneShot asm, out.pongs ++ out.emitFrames, out.terminalError.isSome⟩
  | .fail _ => ⟨.oneShot asm, [], true⟩

theorem oneShot_received (ready : (Endpoint.oneShot asm).Ready) (encodable : frame.Encodable) :
    (Endpoint.oneShot asm).receive frame = turnOutcome (asm.handleFrame frame {}).1 (asm.handleFrame frame {}).2 := by
  rw [Endpoint.receive, oneShot_feed ready encodable, ResponseAssembler.feedFrames]
  rcases asm.handleFrame frame {} with ⟨next, _ | _ | _⟩ <;> rfl

def GrantsOnly (asm : ResponseAssembler) (res : Outcome) : Prop :=
  res.ended = false ∧ ∀ answer ∈ res.answers, isWindowOf asm.streamId answer = true

theorem handleClose_grants {next : ResponseAssembler} (out : FeedOutput)
    (silent : out.pongs = [] ∧ out.terminalError = none)
    (granted : ∀ ans ∈ out.emitFrames, isWindowOf asm.streamId ans = true) :
    GrantsOnly asm (turnOutcome (next.handleClose frame out).1 (next.handleClose frame out).2) := by
  unfold ResponseAssembler.handleClose
  split
  · refine ⟨by simp [turnOutcome, silent], ?_⟩
    simp [turnOutcome, silent]
  · refine ⟨by simp [turnOutcome, silent], ?_⟩
    simpa [turnOutcome, silent] using granted

theorem oneShot_data_fits (room : asm.body.length + frame.payload.length ≤ min asm.cap wordMax)
    (cr : frame.payload.length ≤ asm.recvWindow.credit) :
    GrantsOnly asm (turnOutcome (asm.handleData frame {}).1 (asm.handleData frame {}).2) := by
  obtain ⟨win, debited⟩ := RecvWindow.debit_of_le cr
  have outstanding := RecvWindow.debit_outstanding debited
  obtain ⟨_, grant, consumed⟩ := RecvWindow.consume_of_le (show frame.payload.length ≤ win.outstanding by omega)
  have counted := checkedAdd_of_le (room.trans (Nat.min_le_right _ _))
  have capped : ¬ asm.body.length + frame.payload.length > asm.cap :=
    Nat.not_lt.mpr (room.trans (Nat.min_le_left _ _))
  rw [ResponseAssembler.handleData, counted]
  simp only [if_neg capped, debited, consumed]
  cases grant with
  | none => exact handleClose_grants {} ⟨rfl, rfl⟩ (fun ans mem => by cases mem)
  | some grant =>
    simp only [Frame.encode_eq_ok (Frame.window_encodable _ _)]
    refine handleClose_grants _ ⟨rfl, rfl⟩ ?_
    intro ans mem
    obtain rfl : ans = (Frame.window asm.streamId grant).wire := by simpa using mem
    rw [isWindowOf_window]
    exact beq_self_eq_true _

theorem oneShot_data_full (full : min asm.cap wordMax < asm.body.length + frame.payload.length ∨
      asm.recvWindow.credit < frame.payload.length) :
    (turnOutcome (asm.handleData frame {}).1 (asm.handleData frame {}).2).ended = true := by
  rw [ResponseAssembler.handleData]
  cases counted : checkedAdd asm.body.length frame.payload.length with
  | none => rfl
  | some tot =>
    obtain rfl := checkedAdd_eq counted
    have fits : asm.body.length + frame.payload.length ≤ wordMax := by
      by_contra exceeds
      rw [checkedAdd, if_neg exceeds] at counted
      cases counted
    by_cases exceeds : asm.body.length + frame.payload.length > asm.cap
    · simp only [if_pos exceeds]
      rfl
    · have short : asm.recvWindow.credit < frame.payload.length := by
        refine full.resolve_left ?_
        omega
      have refused : ∃ err, asm.recvWindow.debit frame.payload.length = .error err := ⟨_, if_pos short⟩
      obtain ⟨_, refused⟩ := refused
      simp only [if_neg exceeds, refused, Frame.encode_eq_ok (Frame.reset_encodable _ _)]
      rfl

/-- Apart from its PINGs, the assembler fails on DATA it has no room for, and never answers
with more than a grant. -/
theorem oneShot_turn_cases (asm : ResponseAssembler) (quiet : frame.controlPong = none) : (Overflows asm frame ∧
      (turnOutcome (asm.handleFrame frame {}).1 (asm.handleFrame frame {}).2).ended = true) ∨ (¬ Overflows asm frame ∧
      GrantsOnly asm (turnOutcome (asm.handleFrame frame {}).1 (asm.handleFrame frame {}).2)) := by
  have silent (next : ResponseAssembler) : GrantsOnly asm (turnOutcome next (.proceed {})) :=
    ⟨rfl, fun ans mem => by cases mem⟩
  simp only [ResponseAssembler.handleFrame, quiet]
  by_cases named : frame.streamId ≠ asm.streamId
  · simp only [if_pos named]
    exact Or.inr ⟨fun overflows => named overflows.named, silent asm⟩
  simp only [if_neg named]
  cases credited : frame.windowCredit with
  | some cr =>
    refine Or.inr ⟨fun overflows => ?_, ⟨rfl, fun ans mem => by cases mem⟩⟩
    rw [overflows.uncredited] at credited
    cases credited
  | none =>
    simp only
    by_cases reset : frame.flags &&& flagReset ≠ 0
    · simp only [if_pos reset]
      exact Or.inr ⟨fun overflows => reset overflows.unreset, silent _⟩
    simp only [if_neg reset]
    by_cases data : frame.flags &&& flagData ≠ 0
    · simp only [if_pos data]
      by_cases full : min asm.cap wordMax < asm.body.length + frame.payload.length ∨
          asm.recvWindow.credit < frame.payload.length
      · exact Or.inl ⟨⟨not_not.mp named, credited, not_not.mp reset, data, full⟩, oneShot_data_full full⟩
      · obtain ⟨room, cr⟩ := not_or.mp full
        exact Or.inr ⟨fun overflows => full overflows.full, oneShot_data_fits (Nat.not_lt.mp room) (Nat.not_lt.mp cr)⟩
    · simp only [if_neg data]
      exact Or.inr ⟨fun overflows => data overflows.data,
        handleClose_grants {} ⟨rfl, rfl⟩ (fun ans mem => by cases mem)⟩

theorem oneShot_contained (ready : (Endpoint.oneShot asm).Ready) (sized : frame.payload.length ≤ maxPayload) :
    Contained frame (.oneShot asm) ↔ (Endpoint.oneShot asm).Contains frame := by
  constructor
  · intro contained
    refine ⟨fun zero => ?_, fun st named unfinished violating => ?_⟩
    · by_contra neither
      obtain ⟨uncontrolled, rest⟩ := not_or.mp neither
      obtain ⟨plain, fits⟩ := not_or.mp rest
      have pong : frame.controlPong = none := if_neg fun ping => uncontrolled ⟨Or.inl ping.2.1, ping.2.2⟩
      have ended := contained.control zero uncontrolled
      rw [oneShot_received ready (encodable_of_plain sized plain)] at ended
      rcases oneShot_turn_cases asm pong with ⟨overflows, -⟩ | ⟨-, grants⟩
      · exact fits overflows
      · exact absurd (ended.symm.trans grants.1) (by decide)
    · have live : (Endpoint.oneShot asm).entry frame.streamId ≠ none := by
        rw [entry, if_pos ⟨named, unfinished⟩]
        exact some_ne_none _
      have resets := contained.stream st live violating
      have plain : ¬ Reserved frame := fun reserved =>
        absurd ((oneShot_reserved ready reserved).symm.trans resets.up) (by decide)
      obtain ⟨up, answered, -, -⟩ := resets
      rw [oneShot_received ready (encodable_of_plain sized plain)] at up answered
      rcases oneShot_turn_cases asm (if_neg fun ping => st ping.1) with
        ⟨-, ended⟩ | ⟨-, -, grants⟩
      · exact absurd (ended.symm.trans up) (by decide)
      · rw [answered] at grants
        have win := grants _ (List.mem_singleton_self _)
        rw [isWindowOf_reset] at win
        cases win
  · rintro ⟨ctl, st⟩
    refine ⟨fun zero uncontrolled => ?_, fun nz live violating => ?_⟩
    · by_cases reserved : Reserved frame
      · exact oneShot_reserved ready reserved
      · have overflows := ((ctl zero).resolve_left uncontrolled).resolve_left reserved
        rw [oneShot_received ready (encodable_of_plain sized reserved)]
        rcases oneShot_turn_cases asm
          (if_neg fun ping => uncontrolled ⟨Or.inl ping.2.1, ping.2.2⟩) with ⟨-, ended⟩ | ⟨fits, -⟩
        · exact ended
        · exact absurd overflows fits
    · rw [entry] at live
      split at live
      next open_ => exact absurd violating (st nz open_.1 open_.2)
      · exact absurd rfl live

/-- The home contains every violation; the others all but those their condition leaves out. -/
theorem violations_contained (ready : endpoint.Ready) (sized : frame.payload.length ≤ maxPayload) :
    Contained frame endpoint ↔ endpoint.Contains frame := by
  cases endpoint with
  | home => exact ⟨fun _ => trivial, fun _ => home_contained ready sized⟩
  | carrier => exact carrier_contained ready sized
  | oneShot => exact oneShot_contained ready sized
  | bridge => exact bridge_contained ready sized

theorem violations_contained_home : Contained ⟨0, flagData, [0]⟩ (.home { limits := {} }) :=
  have ready : (Endpoint.home { limits := {} }).Ready := ⟨{}, { limits := {} }, [], [], rfl, rfl, rfl, rfl, rfl⟩
  (violations_contained ready (by decide)).mpr trivial

/-- The reserved bit on a live stream ends a whole carrier; DATA on stream 0 passes the bridge
and the one-shot assembler, and a PING on its own stream the latter. -/
theorem violations_escape : ((Endpoint.carrier (CarrierDemux.openStream {} 1)).Ready ∧
      ¬ Contained ⟨1, flagReservedMask, []⟩ (.carrier (CarrierDemux.openStream {} 1))) ∧
    ((Endpoint.bridge {}).Ready ∧ ¬ Contained ⟨0, flagData, []⟩ (.bridge {})) ∧
    (Endpoint.oneShot (.new 1)).Ready ∧ ¬ Contained ⟨0, flagData, []⟩ (.oneShot (.new 1)) ∧
      ¬ Contained ⟨1, flagPing, []⟩ (.oneShot (.new 1)) := by
  have carrier : (Endpoint.carrier (CarrierDemux.openStream {} 1)).Ready := ⟨[.openStream 1], [.done], rfl, rfl, rfl⟩
  have bridge : (Endpoint.bridge {}).Ready := ⟨[], [], rfl, rfl⟩
  have oneShot : (Endpoint.oneShot (.new 1)).Ready := ⟨1, _, [], rfl, rfl, rfl⟩
  refine ⟨⟨carrier, fun contained => ?_⟩, ⟨bridge, fun contained => ?_⟩, oneShot,
    fun contained => ?_, fun contained => ?_⟩
  · exact (carrier_contained carrier (by decide)).mp contained (by decide) (by decide) (by decide)
  · rcases ((bridge_contained bridge (by decide)).mp contained).1 rfl with control | reserved
    · exact absurd control.2 (by decide)
    · exact absurd reserved (by decide)
  · rcases ((oneShot_contained oneShot (by decide)).mp contained).1 rfl with
      control | reserved | overflows
    · exact absurd control.2 (by decide)
    · exact absurd reserved (by decide)
    · exact absurd overflows.named (by decide)
  · exact ((oneShot_contained oneShot (by decide)).mp contained).2 (by decide) rfl rfl (Or.inr (Or.inl rfl))

end SplRust.Link
