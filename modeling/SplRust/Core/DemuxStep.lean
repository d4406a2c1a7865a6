import SplRust.Core.Demux

/-! What one frame does to the stream it names, as a function of that stream and the
frame alone (`frameStep`), and the proof that the demultiplexer does exactly that
(`handleFrame_eq`). Every result about a carrier reads the frame loop through it. -/

namespace SplRust.Core
open SplRust.Lib Frame Table

/-- Additions to the output batch caused by one frame of a stream. `retract` drops
the grants of the stream that were queued before. -/
structure StreamDelta where
  retract : Bool := false
  emit : List Frame := []
  events : List StreamEvent := []
  grants : List UInt32 := []
  violations : List FrameViolation := []
  deriving DecidableEq, Repr

namespace DemuxOutput

def apply (out : DemuxOutput) (sid : UInt32) (delta : StreamDelta) : DemuxOutput where
  pongs := out.pongs
  inboundPongs := out.inboundPongs
  streamEvents := out.streamEvents ++ delta.events.map fun event => (sid, event)
  windowGrants := out.windowGrants ++ delta.grants.map fun credit => (sid, credit)
  emitFrames := (if delta.retract then removeEmittedWindows out.emitFrames sid
    else out.emitFrames) ++ delta.emit.map Frame.wire
  violations := out.violations ++ delta.violations

@[simp] theorem apply_empty (out : DemuxOutput) (sid : UInt32) : out.apply sid {} = out := by simp [apply]

end DemuxOutput

theorem isWindowOf_wire (sid : UInt32) (frame : Frame) : isWindowOf sid frame.wire =
      (frame.streamId == sid && frame.flags &&& flagWindow != 0) := by
  simp only [wire, toBeBytes, List.cons_append, List.nil_append, isWindowOf, fromBeBytes_toBeBytes]

theorem isWindowOf_window (sid oid cr : UInt32) :
    isWindowOf sid (Frame.window oid cr).wire = (oid == sid) := by
  have carried : (flagWindow &&& flagWindow != 0) = true := by decide
  simp only [isWindowOf_wire, Frame.window, carried, Bool.and_true]

theorem isWindowOf_reset (sid oid : UInt32) (rsn : UInt8) :
    isWindowOf sid (reset oid rsn).wire = false := by
  have abs : (flagReset &&& flagWindow != 0) = false := by decide
  simp only [isWindowOf_wire, reset, abs, Bool.and_false]

theorem removeEmittedWindows_window (fs : List Bytes) (sid cr : UInt32) :
    removeEmittedWindows (fs ++ [(Frame.window sid cr).wire]) sid = removeEmittedWindows fs sid := by
  simp [removeEmittedWindows, List.filter_append, isWindowOf_window]

/-- The stream's entry after a frame, and the additions to the batch. -/
abbrev StepResult := Option CarrierStream × StreamDelta

/-- A frame the stream's protocol does not allow. -/
def rejectStep (stream : Option CarrierStream) (frame : Frame) : StepResult :=
  (none, {
    retract := stream.isSome
    emit := [.reset frame.streamId resetProtocolError]
    events := if stream.isSome then [.ending (.reset .protocolError)] else []
    violations := [frameViolation frame] })

def endStep (how : StreamEnd) (events : List StreamEvent) (emit : List Frame) : StepResult :=
  (none, { retract := true, emit := emit, events := events ++ [.ending how] })

/-- DATA for a live stream; `none` if the receive window panics. -/
def dataStep (stream : CarrierStream) (frame : Frame) : Option StepResult :=
  match stream.recvWindow.debit frame.payload.length with
  | .error _ => some (endStep (.reset .flowControlError) [] [.reset frame.streamId resetFlowControlError])
  | .ok window =>
      match stream.assembler.feedData frame.payload with
      | (_, .error _) => some (endStep (.reset .unspecified) [] [])
      | (asm, .ok assembled) =>
          match window.consume assembled.autoConsumed with
          | none => none
          | some (window, grant) =>
              if frame.flags = flagData ||| flagClose then
                some (endStep .close assembled.events [])
              else some (some ⟨asm, window⟩, {
                emit := (grant.map (Frame.window frame.streamId)).toList
                events := assembled.events })

def frameStep (stream : Option CarrierStream) (frame : Frame) : Option StepResult :=
  if flagsValid frame.flags = false ∨ frame.flags &&& flagOpen ≠ 0 ∨
      frame.flags = flagPing ∨ frame.flags = flagPong then some (rejectStep stream frame)
  else
    match stream with
    | none =>
        if frame.flags &&& flagData ≠ 0 ∨ frame.flags = flagWindow then
          some (rejectStep none frame)
        else some (none, {})
    | some stream =>
        if frame.flags = flagReset then
          some (endStep (.reset (.fromPayload frame.payload)) [] [])
        else if frame.flags = flagClose then some (endStep .close [] [])
        else if frame.flags = flagData ∨ frame.flags = flagData ||| flagClose then
          dataStep stream frame
        else
          match frame.windowCredit with
          | none => some (rejectStep (some stream) frame)
          | some credit => some (some stream, { grants := [credit] })

theorem frameStep_data {frame : Frame} (flags : frame.flags = flagData ∨ frame.flags = flagData ||| flagClose)
    (st : CarrierStream) : frameStep (some st) frame = dataStep st frame := by
  have allowed : ¬(flagsValid frame.flags = false ∨ frame.flags &&& flagOpen ≠ 0 ∨
      frame.flags = flagPing ∨ frame.flags = flagPong) ∧ frame.flags ≠ flagReset ∧
      frame.flags ≠ flagClose := by
    rcases flags with eq | eq <;> rw [eq] <;> decide
  rw [frameStep, if_neg allowed.1, if_neg allowed.2.1, if_neg allowed.2.2, if_pos flags]

theorem frameStep_close {frame : Frame} (flags : frame.flags = flagClose) (st : CarrierStream) :
    frameStep (some st) frame = some (endStep .close [] []) := by
  have allowed : ¬(flagsValid frame.flags = false ∨ frame.flags &&& flagOpen ≠ 0 ∨
      frame.flags = flagPing ∨ frame.flags = flagPong) ∧ frame.flags ≠ flagReset := by
    rw [flags]
    decide
  rw [frameStep, if_neg allowed.1, if_neg allowed.2, if_pos flags]

theorem frameStep_data_absent {frame : Frame} (flags : frame.flags = flagData) :
    frameStep none frame = some (rejectStep none frame) := by
  have allowed : ¬(flagsValid frame.flags = false ∨ frame.flags &&& flagOpen ≠ 0 ∨
      frame.flags = flagPing ∨ frame.flags = flagPong) ∧ frame.flags &&& flagData ≠ 0 := by
    rw [flags]
    decide
  rw [frameStep, if_neg allowed.1, if_pos (Or.inl allowed.2)]

theorem feedData_error {asm next : HttpStreamAssembler} {pl : Bytes} {err : MuxError}
    (failed : asm.feedData pl = (next, .error err)) : (∃ cause, err = .http cause) ∨ err = .capExceeded := by
  have body_error : ∀ (asm : HttpStreamAssembler) pl out,
      (asm.feedBody pl out).2 = .error err → ∃ cause, err = .http cause := by
    intro asm pl out failed
    rcases asm.feedBody_cases pl out with ⟨cause, result⟩ | ⟨result, -⟩ | ⟨body, result, -⟩
    · rw [result] at failed
      exact ⟨cause, (Except.error.inj failed).symm⟩
    · rw [result] at failed
      cases failed
    · rw [result] at failed
      cases failed
  revert failed
  fun_cases HttpStreamAssembler.feedData asm pl with
  | case1 | case6 => exact fun failed => Or.inl (body_error _ _ _ (congrArg Prod.snd failed))
  | case2 =>
    rintro ⟨⟩
    exact Or.inr rfl
  | case4 =>
    rintro ⟨⟩
    exact Or.inl ⟨_, rfl⟩
  | _ =>
    intro failed
    cases congrArg Prod.snd failed

/-- Everything a frame can do to its stream. -/
inductive StreamEffect (fr : Frame) : Option CarrierStream → StepResult → Prop where
  | rejected (st : Option CarrierStream) : StreamEffect fr st (rejectStep st fr)
  | ignored : StreamEffect fr none (none, {})
  | overrun (live : CarrierStream) (exceeds : live.recvWindow.credit < fr.payload.length) :
      StreamEffect fr (some live) (endStep (.reset .flowControlError) [] [.reset fr.streamId resetFlowControlError])
  | ended (live : CarrierStream) (how : StreamEnd) : StreamEffect fr (some live) (endStep how [] [])
  | closed (live : CarrierStream) {asm : HttpStreamAssembler} {assembled : AssemblerOutput}
      (fed : live.assembler.feedData fr.payload = (asm, .ok assembled)) :
      StreamEffect fr (some live) (endStep .close assembled.events [])
  | credited (live : CarrierStream) (credit : UInt32) :
      StreamEffect fr (some live) (some live, { grants := [credit] })
  | data (live : CarrierStream) {debited window : RecvWindow} {grant : Option UInt32}
      {asm : HttpStreamAssembler} {assembled : AssemblerOutput}
      (taken : live.recvWindow.debit fr.payload.length = .ok debited)
      (fed : live.assembler.feedData fr.payload = (asm, .ok assembled))
      (consumed : debited.consume assembled.autoConsumed = some (window, grant)) :
      StreamEffect fr (some live) (some ⟨asm, window⟩, {
        emit := (grant.map (Frame.window fr.streamId)).toList
        events := assembled.events })

theorem dataStep_effect {live : CarrierStream} {frame : Frame} {result : StepResult}
    (hs : dataStep live frame = some result) : StreamEffect frame (some live) result := by
  revert hs
  fun_cases dataStep live frame with
  | case1 _ refused =>
    rintro ⟨⟩
    exact .overrun live (RecvWindow.debit_error refused)
  | case2 =>
    rintro ⟨⟩
    exact .ended live _
  | case3 => rintro ⟨⟩
  | case4 _ _ _ _ fed =>
    rintro ⟨⟩
    exact .closed live fed
  | case5 _ taken _ _ fed _ _ consumed =>
    rintro ⟨⟩
    exact .data live taken fed consumed

theorem frameStep_effect {st : Option CarrierStream} {frame : Frame} {result : StepResult}
    (hs : frameStep st frame = some result) : StreamEffect frame st result := by
  revert hs
  fun_cases frameStep st frame with
  | case1 | case2 | case7 =>
    rintro ⟨⟩
    exact .rejected _
  | case3 =>
    rintro ⟨⟩
    exact .ignored
  | case4 | case5 =>
    rintro ⟨⟩
    exact .ended _ _
  | case6 => exact dataStep_effect
  | case8 =>
    rintro ⟨⟩
    exact .credited _ _

theorem dataStep_total (live : CarrierStream) (frame : Frame) : ∃ result, dataStep live frame = some result := by
  unfold dataStep
  split
  · exact ⟨_, rfl⟩
  next debited taken =>
    split
    · exact ⟨_, rfl⟩
    next asm assembled fed =>
      -- What is consumed at once was debited with this very payload.
      have few := (HttpStreamAssembler.feedData_ok fed).2.1
      have outstanding := RecvWindow.debit_outstanding taken
      obtain ⟨_, _, consumed⟩ := RecvWindow.consume_of_le (show assembled.autoConsumed ≤ debited.outstanding by omega)
      simp only [consumed]
      split <;> exact ⟨_, rfl⟩

theorem frameStep_total (st : Option CarrierStream) (frame : Frame) :
    ∃ result, frameStep st frame = some result := by
  unfold frameStep
  split
  · exact ⟨_, rfl⟩
  cases st with
  | none =>
    simp only
    split <;> exact ⟨_, rfl⟩
  | some live =>
    simp only
    split
    · exact ⟨_, rfl⟩
    split
    · exact ⟨_, rfl⟩
    split
    · exact dataStep_total live frame
    split <;> exact ⟨_, rfl⟩

namespace CarrierDemux

def applyStep (demux : CarrierDemux) (sid : UInt32) (out : DemuxOutput) : Option StepResult → Result
  | none => (demux, .error .panic)
  | some (entry, delta) => ({ demux with streams := Table.assign demux.streams sid entry }, .ok (out.apply sid delta))

section
variable (dm : CarrierDemux)
include dm

theorem rejectAttributable_eq (frame : Frame) (out : DemuxOutput) :
    rejectAttributable dm frame out = applyStep dm frame.streamId out
      (some (rejectStep (dm.streams.lookup frame.streamId) frame)) := by
  simp only [rejectAttributable, encode_eq_ok (reset_encodable _ _)]
  cases hp : dm.streams.lookup frame.streamId with
  | none =>
    have unknown : frame.streamId ∉ dm.streams := Finmap.lookup_eq_none.mp hp
    simp [unknown, applyStep, rejectStep, DemuxOutput.apply, assign, erase_of_absent _ hp]
  | some st =>
    have kn : frame.streamId ∈ dm.streams := Finmap.mem_of_lookup_eq_some hp
    simp [kn, applyStep, rejectStep, DemuxOutput.apply, assign, finishStream]

theorem finishStream_eq (sid : UInt32) (how : StreamEnd) (last : List Frame) (out : DemuxOutput) :
    finishStream dm sid how (last.map wire) out = applyStep dm sid out (some (endStep how [] last)) := by
  simp [finishStream, applyStep, endStep, DemuxOutput.apply, assign]

theorem handleData_eq (st : CarrierStream) (frame : Frame) (out : DemuxOutput) : handleData dm st frame out =
      applyStep dm frame.streamId out (dataStep st frame) := by
  simp only [handleData, dataStep]
  cases st.recvWindow.debit frame.payload.length with
  | error =>
    simp only [encode_eq_ok (reset_encodable _ _)]
    exact finishStream_eq dm frame.streamId _ [_] out
  | ok win =>
    simp only
    rcases fed : st.assembler.feedData frame.payload with ⟨asm, _ | assembled⟩
    · rcases feedData_error fed with ⟨cause, rfl⟩ | rfl
      · exact finishStream_eq dm frame.streamId _ [] out
      · exact finishStream_eq dm frame.streamId _ [] out
    · simp only
      cases consumed : win.consume assembled.autoConsumed with
      | none => rfl
      | some pair =>
        obtain ⟨_, grant⟩ := pair
        by_cases closing : frame.flags = flagData ||| flagClose
        · cases grant <;> simp [closing, emitGrant, encode_eq_ok (window_encodable _ _),
            finishStream, applyStep, endStep, DemuxOutput.apply, assign,
            removeEmittedWindows_window, erase_insert]
        · cases grant <;> simp [closing, emitGrant, encode_eq_ok (window_encodable _ _),
            applyStep, DemuxOutput.apply, assign]

/-- The demultiplexer acts on a stream frame exactly by `frameStep` of that stream. -/
theorem handleFrame_eq (frame : Frame) (out : DemuxOutput) (st : frame.streamId ≠ 0) :
    handleFrame dm frame out = applyStep dm frame.streamId out
      (frameStep (dm.streams.lookup frame.streamId) frame) := by
  simp only [handleFrame, if_neg st, frameStep]
  by_cases invalid : flagsValid frame.flags = false
  · rw [if_pos invalid, if_pos (Or.inl invalid), rejectAttributable_eq]
  by_cases opening : frame.flags &&& flagOpen ≠ 0
  · rw [if_neg invalid, if_pos opening, if_pos (Or.inr (Or.inl opening)), rejectAttributable_eq]
  by_cases ctl : frame.flags = flagPing ∨ frame.flags = flagPong
  · rw [if_neg invalid, if_neg opening, if_pos ctl, if_pos (Or.inr (Or.inr ctl)), rejectAttributable_eq]
  rw [if_neg invalid, if_neg opening, if_neg ctl, if_neg (not_or.mpr ⟨invalid, not_or.mpr ⟨opening, ctl⟩⟩)]
  cases hp : dm.streams.lookup frame.streamId with
  | none =>
    simp only [rejectAttributable_eq, hp]
    split
    · rfl
    · simp [applyStep, assign, erase_of_absent _ hp]
  | some live =>
    simp only
    split
    · exact finishStream_eq dm frame.streamId _ [] out
    split
    · exact finishStream_eq dm frame.streamId _ [] out
    split
    · exact handleData_eq dm live frame out
    · cases frame.windowCredit with
      | none => simp only [rejectAttributable_eq, hp]
      | some cr => simp [applyStep, assign_lookup _ _ hp, DemuxOutput.apply]

theorem handleFrame_stream (frame : Frame) (st : frame.streamId ≠ 0) :
    ∃ en delta, frameStep (dm.streams.lookup frame.streamId) frame = some (en, delta) ∧
      ∀ out, handleFrame dm frame out = ({ dm with streams := assign dm.streams frame.streamId en },
          .ok (out.apply frame.streamId delta)) := by
  obtain ⟨⟨en, delta⟩, hs⟩ := frameStep_total (dm.streams.lookup frame.streamId) frame
  refine ⟨en, delta, hs, fun out => ?_⟩
  rw [handleFrame_eq _ _ _ st, hs]
  rfl

/-- A control frame is answered or noted, or it condemns the carrier. -/
theorem handleFrame_control (frame : Frame) (ctl : frame.streamId = 0) :
    (∃ pongs inbound, ∀ out, handleFrame dm frame out = (dm, .ok { out with
        pongs := out.pongs ++ pongs, inboundPongs := out.inboundPongs ++ inbound })) ∨
    (∀ out, handleFrame dm frame out = ({ dm with fatalViolation := some (frameViolation frame) },
        .error (.error (.protocol (frameViolation frame))))) := by
  simp only [handleFrame, if_pos ctl]
  cases pong : frame.controlPong with
  | some rep =>
    simp only [encode_eq_ok (controlPong_encodable pong)]
    exact Or.inl ⟨[rep.wire], [], fun out => by simp⟩
  | none =>
    cases frame.controlPongNonce with
    | some nonce => exact Or.inl ⟨[], [nonce], fun out => by simp⟩
    | none => exact Or.inr fun out => rfl

theorem consume_cases (sid : UInt32) (bs : Nat) :
    (dm.streams.lookup sid = none ∧ dm.consume sid bs = (dm, .ok none)) ∨
    (∃ st, dm.streams.lookup sid = some st ∧ st.recvWindow.consume bs = none ∧
      dm.consume sid bs = (dm, .error .panic)) ∨
    (∃ st win grant, dm.streams.lookup sid = some st ∧
      st.recvWindow.consume bs = some (win, grant) ∧ dm.consume sid bs = ({ dm with
            streams := dm.streams.insert sid { st with recvWindow := win } },
          .ok (grant.map fun cr => (Frame.window sid cr).wire))) := by
  simp only [consume]
  cases dm.streams.lookup sid with
  | none => exact Or.inl ⟨rfl, rfl⟩
  | some st =>
    cases consumed : st.recvWindow.consume bs with
    | none => exact Or.inr (Or.inl ⟨st, rfl, consumed, by simp only [consumed]⟩)
    | some pair =>
      obtain ⟨win, grant⟩ := pair
      refine Or.inr (Or.inr ⟨st, win, grant, rfl, consumed, ?_⟩)
      cases grant with
      | none => simp only [consumed, Option.map_none]
      | some cr => simp only [consumed, encode_eq_ok (window_encodable _ _), Option.map_some]

end

end CarrierDemux

end SplRust.Core
