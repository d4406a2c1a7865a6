import SplRust.Core.Accounting
import SplRust.Lib.CreditLoop
import SplRust.Link.Channel

/-! What a dialer's demultiplexer does with DATA frames of one stream that are paid for.
While the stream is registered each frame is a run of the credit loop, and the frames sent
back are grants; once the response is found malformed they are RESETs. -/

namespace SplRust.Link
open SplRust.Lib SplRust.Core SplRust.Home List RecvWindow Frame Table CarrierDemux

variable {sid : UInt32}

def IsReset (sid : UInt32) (fr : Frame) : Prop := fr = .reset sid resetProtocolError

def receiverLoop (credit : Nat) (flying : List Nat) (window : RecvWindow) (grants : List Nat) : CreditLoop where
  credit := credit
  flying := flying
  held := window.outstanding
  returned := window.unacked
  grants := grants

theorem receiverLoop_consume {win next : RecvWindow} {units : Nat} {grant : Option UInt32}
    (consumed : win.consume units = some (next, grant)) (cr : Nat) (flying grants : List Nat) :
    CreditLoop.Run (receiverLoop cr flying win grants)
      (receiverLoop cr flying next (grants ++ (grant.map UInt32.toNat).toList)) := by
  obtain ⟨owed, -, moved⟩ := consume_some consumed
  have gathered : next.unacked + (grant.map UInt32.toNat).getD 0 = win.unacked + units := by
    rw [← moved]
    cases grant <;> rfl
  have run := CreditLoop.Run.consume (receiverLoop cr flying win grants) (grant.map UInt32.toNat) owed gathered
  rw [receiverLoop, receiverLoop, consume_outstanding consumed]
  exact run

theorem receiverLoop_data {win debited next : RecvWindow} {length units : Nat}
    {grant : Option UInt32} (taken : win.debit length = .ok debited)
    (consumed : debited.consume units = some (next, grant)) (cr : Nat) (rest grants : List Nat) :
    CreditLoop.Run (receiverLoop cr (length :: rest) win grants)
      (receiverLoop cr rest next (grants ++ (grant.map UInt32.toNat).toList)) := by
  have arrived : CreditLoop.Step (receiverLoop cr (length :: rest) win grants)
      (receiverLoop cr rest debited grants) := by
    rw [receiverLoop, receiverLoop, debit_outstanding taken, (debit_ok taken).2.2]
    exact .arrive rfl
  exact (receiverLoop_consume consumed cr rest grants).head arrived

theorem IsReset.encodable {frame : Frame} (reset : IsReset sid frame) : frame.Encodable := by
  rw [reset]
  exact reset_encodable sid _

theorem IsReset.no_grant {frame : Frame} (reset : IsReset sid frame) : grantLength sid frame = none := by
  rw [reset, grantLength, if_neg]
  exact fun both => absurd both.2 (by decide : flagReset ≠ flagWindow)

theorem removeEmittedWindows_grants {fs : List Frame} (grants : ∀ frame ∈ fs, IsGrant sid frame) :
    removeEmittedWindows (fs.map wire) sid = [] := by
  apply filter_eq_nil_iff.mpr
  intro bs mem
  obtain ⟨frame, hp, rfl⟩ := mem_map.mp mem
  obtain ⟨_, rfl⟩ := grants frame hp
  simp [isWindowOf_window]

theorem handleFrame_gone {dm : CarrierDemux} (pl : Bytes) (nz : sid ≠ 0)
    (gone : dm.streams.lookup sid = none) (out : DemuxOutput) : dm.handleFrame ⟨sid, flagData, pl⟩ out =
      ({ dm with streams := assign dm.streams sid none }, .ok (out.apply sid {
          emit := [.reset sid resetProtocolError]
          violations := [frameViolation ⟨sid, flagData, pl⟩] })) := by
  rw [handleFrame_eq _ _ _ nz, gone, frameStep_data_absent rfl]
  rfl

theorem handleFrame_paid {dm : CarrierDemux} {st : CarrierStream} {pl : Bytes}
    (nz : sid ≠ 0) (live : dm.streams.lookup sid = some st)
    (paid : pl.length ≤ st.recvWindow.credit) :
    (∃ (next : CarrierStream) (grant : Option UInt32) (es : List StreamEvent),
      (∀ out, dm.handleFrame ⟨sid, flagData, pl⟩ out =
        ({ dm with streams := assign dm.streams sid (some next) }, .ok (out.apply sid {
            emit := (grant.map (Frame.window sid)).toList, events := es }))) ∧
      st.recvWindow.credit ≤ next.recvWindow.credit + pl.length ∧
      ∀ cr rest grants, CreditLoop.Run (receiverLoop cr (pl.length :: rest) st.recvWindow grants)
        (receiverLoop cr rest next.recvWindow (grants ++ (grant.map UInt32.toNat).toList))) ∨
    (∃ es, ∀ out, dm.handleFrame ⟨sid, flagData, pl⟩ out =
      ({ dm with streams := assign dm.streams sid none },
        .ok (out.apply sid { retract := true, events := es }))) := by
  have hd (out : DemuxOutput) : dm.handleFrame ⟨sid, flagData, pl⟩ out =
      dm.applyStep sid out (dataStep st ⟨sid, flagData, pl⟩) := by
    rw [handleFrame_eq _ _ _ nz, live, frameStep_data (Or.inl rfl)]
  obtain ⟨debited, taken⟩ := debit_of_le paid
  rcases fed : st.assembler.feedData pl with ⟨asm, err | assembled⟩
  · refine Or.inr ⟨[.ending (.reset .unspecified)], fun out => ?_⟩
    rw [hd]
    simp only [dataStep, taken, fed]
    rfl
  · have few := (HttpStreamAssembler.feedData_ok fed).2.1
    have outstanding := debit_outstanding taken
    obtain ⟨win, grant, consumed⟩ := consume_of_le (show assembled.autoConsumed ≤ debited.outstanding by omega)
    have spent := (debit_ok taken).2.1
    have cr := (consume_some consumed).2.1
    refine Or.inl ⟨⟨asm, win⟩, grant, assembled.events, fun out => ?_,
      show _ ≤ win.credit + _ by omega, receiverLoop_data taken consumed⟩
    rw [hd]
    simp only [dataStep, taken, fed, consumed]
    rw [if_neg (show flagData ≠ flagData ||| flagClose by decide)]
    rfl

theorem feedFrames_gone (fs : List Frame) (dm : CarrierDemux) (out : DemuxOutput)
    (resets : List Frame) (nz : sid ≠ 0) (data : ∀ frame ∈ fs, ∃ pl, frame = ⟨sid, flagData, pl⟩)
    (gone : dm.streams.lookup sid = none) (sent : out.emitFrames = resets.map wire)
    (only : ∀ frame ∈ resets, IsReset sid frame) : ∃ next res, ∃ answers : List Frame,
      feedFrames fs dm out = (next, .ok res) ∧
      res.pongs = out.pongs ∧ next.streams.lookup sid = none ∧
      res.emitFrames = answers.map wire ∧ ∀ frame ∈ answers, IsReset sid frame := by
  induction fs generalizing dm out resets with
  | nil => exact ⟨dm, out, resets, rfl, rfl, gone, sent, only⟩
  | cons frame fs ih =>
    obtain ⟨⟨pl, rfl⟩, others⟩ := forall_mem_cons.mp data
    have fst := handleFrame_gone pl nz gone out
    have added : (out.apply sid {
        emit := [.reset sid resetProtocolError]
        violations := [frameViolation ⟨sid, flagData, pl⟩] }).emitFrames =
        (resets ++ [Frame.reset sid resetProtocolError]).map wire := by
      simp [DemuxOutput.apply, sent]
    obtain ⟨next, res, answers, hd, pongs, still, emitted, all⟩ :=
      ih { dm with streams := assign dm.streams sid none } _ _ others
        (lookup_assign _ _ _) added (forall_mem_append.mpr ⟨only, by simp [IsReset]⟩)
    refine ⟨next, res, answers, ?_, pongs, still, emitted, all⟩
    rw [feedFrames, fst]
    exact hd

/-- A batch of DATA frames that is paid for: the stream is still there and every frame
was a run of the credit loop, or it is gone and all grants of the batch are retracted. -/
theorem feedFrames_paid (fs : List Frame) (dm : CarrierDemux) (st : CarrierStream)
    (out : DemuxOutput) (windows : List Frame) (nz : sid ≠ 0)
    (data : ∀ frame ∈ fs, ∃ pl, frame = ⟨sid, flagData, pl⟩)
    (live : dm.streams.lookup sid = some st)
    (paid : (fs.filterMap (dataLength sid)).sum ≤ st.recvWindow.credit)
    (sent : out.emitFrames = windows.map wire) (only : ∀ frame ∈ windows, IsGrant sid frame) :
    ∃ next res, feedFrames fs dm out = (next, .ok res) ∧ res.pongs = out.pongs ∧
      ((∃ final more, next.streams.lookup sid = some final ∧ res.emitFrames = (windows ++ more).map wire ∧
        (∀ frame ∈ more, IsGrant sid frame) ∧ ∀ cr rest grants, CreditLoop.Run
          (receiverLoop cr (fs.filterMap (dataLength sid) ++ rest) st.recvWindow grants)
          (receiverLoop cr rest final.recvWindow (grants ++ more.filterMap (grantLength sid)))) ∨
      next.streams.lookup sid = none ∧ ∃ answers : List Frame, res.emitFrames = answers.map wire ∧
        ∀ frame ∈ answers, IsReset sid frame) := by
  induction fs generalizing dm st out windows with
  | nil =>
    refine ⟨dm, out, rfl, rfl, Or.inl ⟨st, [], live, by simpa using sent, by simp, ?_⟩⟩
    intro cr rest grants
    rw [filterMap_nil, filterMap_nil, append_nil, nil_append]
  | cons frame fs ih =>
    obtain ⟨⟨pl, rfl⟩, others⟩ := forall_mem_cons.mp data
    rw [filterMap_cons, dataLength_data pl (by decide)] at paid ⊢
    simp only [sum_cons] at paid
    rcases handleFrame_paid nz live (show pl.length ≤ _ by omega) with
      ⟨mid, grant, es, fst, spent, run⟩ | ⟨es, fst⟩
    · have added : (out.apply sid {
          emit := (grant.map (Frame.window sid)).toList, events := es }).emitFrames =
          (windows ++ (grant.map (Frame.window sid)).toList).map wire := by
        simp [DemuxOutput.apply, sent]
      obtain ⟨next, res, hd, pongs, after⟩ :=
        ih { dm with streams := assign dm.streams sid (some mid) } mid _ _ others
          (lookup_assign _ _ _) (by omega) added
          (forall_mem_append.mpr ⟨only, isGrant_of_mem⟩)
      refine ⟨next, res, ?_, pongs, ?_⟩
      · rw [feedFrames, fst]
        exact hd
      rcases after with ⟨final, more, still, emitted, all, later⟩ | gone
      · refine Or.inl ⟨final, (grant.map (Frame.window sid)).toList ++ more, still, ?_,
          forall_mem_append.mpr ⟨isGrant_of_mem, all⟩, ?_⟩
        · rw [emitted, append_assoc]
        · intro cr rest grants
          rw [filterMap_append, grantLength_toList, ← append_assoc]
          exact (run cr _ grants).trans (later cr rest _)
      · exact Or.inr gone
    · have cleared : (out.apply sid { retract := true, events := es }).emitFrames = ([] : List Frame).map wire := by
        simp [DemuxOutput.apply, sent, removeEmittedWindows_grants only]
      obtain ⟨next, res, answers, hd, pongs, still, emitted, all⟩ :=
        feedFrames_gone fs { dm with streams := assign dm.streams sid none } _
          _ nz others (lookup_assign _ _ _) cleared (by simp)
      refine ⟨next, res, ?_, pongs, Or.inr ⟨still, answers, emitted, all⟩⟩
      rw [feedFrames, fst]
      exact hd

end SplRust.Link
