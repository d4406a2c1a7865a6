import SplRust.Bridge.DriverRun

/-! `Driver::read_bytes` handles the frames of its bytes one after the other. A frame's
handler neither reads nor writes the decoder, so the frames that are left are those of the
bytes that are left. -/

namespace SplRust.Bridge
open SplRust.Lib SplRust.Core FrameDecoder

namespace Driver

def withDecoder (driver : Driver) (decoder : FrameDecoder) : Driver := { driver with decoder := decoder }

section Handlers
variable (drv : Driver) (decoder : FrameDecoder)

theorem withDecoder_streams : (drv.withDecoder decoder).streams = drv.streams := rfl

theorem withDecoder_assign (sid : UInt32) (en : Option StreamState) : (drv.withDecoder decoder).assign sid en =
      (drv.assign sid en).withDecoder decoder := rfl

theorem withDecoder_answer (rep : Nat) (res : Except DialerError Nat) :
    (drv.withDecoder decoder).answer rep res = (drv.answer rep res).withDecoder decoder := rfl

theorem withDecoder_queueFrame (frame : Frame) : (drv.withDecoder decoder).queueFrame frame =
      ((drv.queueFrame frame).1.withDecoder decoder, (drv.queueFrame frame).2) := by
  cases encoded : frame.encode with
  | error => simp only [queueFrame, encoded]
  | ok =>
    by_cases there : drv.writing = true
    · simp [queueFrame, encoded, withDecoder, there]
    · simp [queueFrame, encoded, withDecoder, there]

theorem withDecoder_queueOk (frame : Frame) : (drv.withDecoder decoder).queueOk frame =
      ((drv.queueOk frame).1.withDecoder decoder, (drv.queueOk frame).2) := by
  simp only [queueOk, withDecoder_queueFrame]

theorem withDecoder_notify (sid : UInt32) (st : StreamState) (ev : InboundEvent) :
    (drv.withDecoder decoder).notify sid st ev = ((drv.notify sid st ev).1.withDecoder decoder,
        (drv.notify sid st ev).2) := by
  unfold notify
  split <;> rfl

theorem withDecoder_resetStream (sid : UInt32) (rsn : UInt8) : (drv.withDecoder decoder).resetStream sid rsn =
      ((drv.resetStream sid rsn).1.withDecoder decoder, (drv.resetStream sid rsn).2) := by
  simp only [resetStream, withDecoder_streams]
  cases drv.streams.lookup sid with
  | none => rfl
  | some st => simp only [withDecoder_assign, withDecoder_notify, withDecoder_queueOk]

theorem withDecoder_drainFrom (sid : UInt32) (st : StreamState) (wait : List PendingWriteCommand) :
    drainFrom sid st wait (drv.withDecoder decoder) =
      ((drainFrom sid st wait drv).1.withDecoder decoder, (drainFrom sid st wait drv).2) := by
  induction wait generalizing st drv with
  | nil => rfl
  | cons pend wait ih =>
    simp only [drainFrom]
    cases st.send.debit pend.bytes.length with
    | error => rfl
    | ok =>
      simp only [withDecoder_assign, withDecoder_queueFrame]
      rcases queueFrame _ _ with ⟨after, err | _⟩
      · rfl
      · simp only [withDecoder_answer, ih]

theorem withDecoder_drainPendingWrites (sid : UInt32) : (drv.withDecoder decoder).drainPendingWrites sid =
      ((drv.drainPendingWrites sid).1.withDecoder decoder, (drv.drainPendingWrites sid).2) := by
  simp only [drainPendingWrites, withDecoder_streams]
  cases drv.streams.lookup sid with
  | none => rfl
  | some st => exact withDecoder_drainFrom drv decoder sid st _

section
variable (frame : Frame)
include frame

theorem withDecoder_receiveWindow : (drv.withDecoder decoder).receiveWindow frame =
      ((drv.receiveWindow frame).1.withDecoder decoder, (drv.receiveWindow frame).2) := by
  simp only [receiveWindow, withDecoder_streams]
  cases frame.windowCredit with
  | none => exact withDecoder_resetStream drv decoder _ _
  | some cr =>
    cases drv.streams.lookup frame.streamId with
    | none => exact withDecoder_drainPendingWrites drv decoder _
    | some st =>
      simp only
      cases st.send.grant cr with
      | error => exact withDecoder_resetStream drv decoder _ _
      | ok => simp only [withDecoder_assign, withDecoder_drainPendingWrites]

theorem withDecoder_receiveReset : (drv.withDecoder decoder).receiveReset frame =
      ((drv.receiveReset frame).1.withDecoder decoder, (drv.receiveReset frame).2) := by
  simp only [receiveReset, withDecoder_streams]
  cases drv.streams.lookup frame.streamId with
  | none => rfl
  | some st => simp only [withDecoder_assign, withDecoder_notify]

theorem withDecoder_receiveClose : (drv.withDecoder decoder).receiveClose frame =
      ((drv.receiveClose frame).1.withDecoder decoder, (drv.receiveClose frame).2) := by
  simp only [receiveClose, withDecoder_streams]
  by_cases closes : frame.flags &&& flagClose ≠ 0
  · simp only [if_pos closes]
    cases drv.streams.lookup frame.streamId with
    | none => exact withDecoder_resetStream drv decoder _ _
    | some st =>
      simp only [withDecoder_assign, withDecoder_notify]
      cases st.localClosed <;> rfl
  · simp only [if_neg closes]

theorem withDecoder_receiveData : (drv.withDecoder decoder).receiveData frame =
      ((drv.receiveData frame).1.withDecoder decoder, (drv.receiveData frame).2) := by
  simp only [receiveData, withDecoder_streams]
  cases drv.streams.lookup frame.streamId with
  | none => exact withDecoder_resetStream drv decoder _ _
  | some st =>
    cases closed : st.peerClosed with
    | true => simp only [closed, if_true, withDecoder_resetStream]
    | false =>
      simp only [closed, Bool.false_eq_true, if_false]
      cases st.debitReceived frame.payload.length with
      | error => exact withDecoder_resetStream drv decoder _ _
      | ok =>
        simp only [withDecoder_assign, withDecoder_notify]
        rcases notify _ _ _ _ with ⟨after, _ | _⟩
        · exact withDecoder_resetStream after decoder _ _
        · exact withDecoder_receiveClose after decoder frame

/-- The decoder takes no part in the handling of a frame. -/
theorem withDecoder_receive : (drv.withDecoder decoder).receive frame =
      ((drv.receive frame).1.withDecoder decoder, (drv.receive frame).2) := by
  unfold receive
  split
  · cases frame.controlPong with
    | none => rfl
    | some pong => exact withDecoder_queueOk drv decoder pong
  split
  · exact withDecoder_resetStream drv decoder _ _
  split
  · exact withDecoder_receiveWindow drv decoder frame
  split
  · exact withDecoder_receiveReset drv decoder frame
  split
  · exact withDecoder_receiveData drv decoder frame
  · exact withDecoder_receiveClose drv decoder frame

end

end Handlers

/-- The frames one after the other, up to one that ends the connection. -/
def receiveAll : List Frame → Driver → Driver × Bool
  | [], driver => (driver, true)
  | frame :: frames, driver =>
      match driver.receive frame with
      | (driver, false) => (driver, false)
      | (driver, true) => receiveAll frames driver

theorem withDecoder_receiveAll (fs : List Frame) (drv : Driver) (dec : FrameDecoder) :
    receiveAll fs (drv.withDecoder dec) = ((receiveAll fs drv).1.withDecoder dec, (receiveAll fs drv).2) := by
  induction fs generalizing drv with
  | nil => rfl
  | cons frame fs ih =>
    rw [receiveAll, receiveAll, withDecoder_receive]
    rcases drv.receive frame with ⟨next, _ | _⟩
    · rfl
    · exact ih next

theorem receiveAll_single (frame : Frame) (drv : Driver) : receiveAll [frame] drv = drv.receive frame := by
  rw [receiveAll]
  rcases drv.receive frame with ⟨next, _ | _⟩ <;> rfl

theorem readFrames_frame {drv : Driver} {frame : Frame} {rest : Bytes} (fuel : Nat)
    (taken : nextFrameOf drv.decoder.buf = .ok (some (frame, rest))) : readFrames (fuel + 1) drv =
      if (drv.receive frame).2 then readFrames fuel ((drv.receive frame).1.withDecoder ⟨rest⟩)
      else ((drv.receive frame).1.withDecoder ⟨rest⟩, false) := by
  have rcv : Driver.receive { drv with decoder := ⟨rest⟩ } frame = _ := withDecoder_receive drv ⟨rest⟩ frame
  simp only [readFrames, nextFrame, taken, rcv]
  cases (drv.receive frame).2 <;> rfl

theorem readFrames_drained {drv : Driver} {fs : List Frame} {left : Bytes} {fuel : Nat}
    (drained : splitter.drain drv.decoder.buf = (left, .ok fs))
    (enough : drv.decoder.buf.length < fuel) : ∃ dec, readFrames fuel drv =
        ((receiveAll fs drv).1.withDecoder dec, (receiveAll fs drv).2) ∧
      ((receiveAll fs drv).2 = true → dec = ⟨left⟩) := by
  induction fuel generalizing drv fs with
  | zero => omega
  | succ fuel ih =>
    rcases splitter.next_cases drv.decoder.buf with
      ⟨err, failed⟩ | waits | ⟨frame, rest, taken, shorter⟩
    · rw [splitter.drain_of_reject failed] at drained
      cases drained
    · rw [splitter.drain_of_wait waits] at drained
      have incomplete : nextFrameOf drv.decoder.buf = .ok none := waits
      cases drained
      refine ⟨drv.decoder, ?_, fun _ => rfl⟩
      simp only [readFrames, nextFrame, incomplete]
      rfl
    · rw [splitter.drain_of_item taken] at drained
      obtain ⟨kept, all⟩ := Prod.mk.inj drained
      cases later : (splitter.drain rest).2 with
      | error =>
        rw [later] at all
        cases all
      | ok others =>
        rw [later] at all
        obtain rfl := Except.ok.inj all
        rw [readFrames_frame fuel taken, receiveAll]
        rcases rcv : drv.receive frame with ⟨next, _ | _⟩
        · exact ⟨⟨rest⟩, rfl, fun absurd => by cases absurd⟩
        · have drains : splitter.drain (next.withDecoder ⟨rest⟩).decoder.buf =
              (left, .ok others) := Prod.ext kept later
          have enough : (next.withDecoder ⟨rest⟩).decoder.buf.length < fuel := by
            have : rest.length < drv.decoder.buf.length := shorter
            show rest.length < fuel
            omega
          obtain ⟨dec, read, last⟩ := ih drains enough
          rw [withDecoder_receiveAll] at read last
          exact ⟨dec, read, last⟩

theorem readBytes_drained {drv : Driver} {bs left : Bytes} {fs : List Frame}
    (drained : splitter.drain (drv.decoder.buf ++ bs) = (left, .ok fs)) :
    ∃ dec, drv.readBytes bs = ((receiveAll fs drv).1.withDecoder dec, (receiveAll fs drv).2) ∧
      ((receiveAll fs drv).2 = true → dec = ⟨left⟩) := by
  have drains : splitter.drain
      (drv.withDecoder (drv.decoder.feed bs)).decoder.buf = (left, .ok fs) := drained
  obtain ⟨dec, read, last⟩ := readFrames_drained drains (Nat.lt_succ_self _)
  rw [withDecoder_receiveAll] at read last
  exact ⟨dec, read, last⟩

/-- A header with the reserved bit ends the connection before its frame is looked at. -/
theorem readBytes_reserved {drv : Driver} {bs : Bytes} {err : FrameError}
    (failed : nextFrameOf bs = .error err) (between : drv.decoder.buf = []) :
    drv.readBytes bs = (drv.withDecoder ⟨bs⟩, false) := by
  rw [readBytes, feed, between, List.nil_append]
  simp only [readFrames, nextFrame, failed]
  rfl

end Driver

end SplRust.Bridge
