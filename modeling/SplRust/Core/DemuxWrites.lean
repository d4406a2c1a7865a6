import SplRust.Core.Lifecycle

/-! What a read makes the demultiplexer write: PONG for a PING, and RESET and WINDOW frames
for streams. A registered stream that is reset is reported as ended in the same output. -/

namespace SplRust.Core
open SplRust.Lib List

def frameHeader : Bytes → Option (UInt32 × UInt8)
  | b0 :: b1 :: b2 :: b3 :: flags :: _ => some (fromBeBytes b0 b1 b2 b3, flags)
  | _ => none

theorem frameHeader_wire (fr : Frame) : frameHeader fr.wire = some (fr.streamId, fr.flags) := by
  simp only [Frame.wire, toBeBytes, cons_append, nil_append, frameHeader, fromBeBytes_toBeBytes]

/-- The output holds nothing but control frames. -/
structure DemuxOutput.Control (out : DemuxOutput) : Prop where
  pongs : ∀ bytes ∈ out.pongs, frameHeader bytes = some (0, flagPong)
  frames : ∀ bytes ∈ out.emitFrames, ∃ sid, frameHeader bytes = some (sid, flagReset) ∨
      frameHeader bytes = some (sid, flagWindow)

theorem mem_of_mem_removeEmittedWindows {frames : List Bytes} {sid : UInt32} {bs : Bytes}
    (kept : bs ∈ removeEmittedWindows frames sid) : bs ∈ frames :=
  mem_of_mem_filter kept

theorem StreamEffect.emit_flags {fr : Frame} {st : Option CarrierStream}
    {res : StepResult} (eff : StreamEffect fr st res) :
    ∀ sent ∈ res.2.emit, sent.flags = flagReset ∨ sent.flags = flagWindow := by
  cases eff with
  | rejected => simp [rejectStep, Frame.reset]
  | ignored | credited => simp
  | overrun => simp [endStep, Frame.reset]
  | ended | closed => simp [endStep]
  | data =>
    intro sent mem
    obtain ⟨_, -, rfl⟩ := Option.map_eq_some_iff.mp (Option.mem_toList.mp mem)
    exact Or.inr rfl

/-- An output after a frame of one stream: what was queued before, and what is added. -/
theorem DemuxOutput.mem_emitFrames_apply {out : DemuxOutput} {sid : UInt32}
    {delta : StreamDelta} {bs : Bytes} (mem : bs ∈ (out.apply sid delta).emitFrames) :
    bs ∈ out.emitFrames ∨ ∃ sent ∈ delta.emit, bs = sent.wire := by
  simp only [apply, mem_append, mem_map] at mem
  rcases mem with old | ⟨sent, fresh, rfl⟩
  · refine Or.inl ?_
    split at old
    · exact mem_of_mem_removeEmittedWindows old
    · exact old
  · exact Or.inr ⟨sent, fresh, rfl⟩

namespace CarrierDemux
variable {dm next : CarrierDemux} {fr : Frame} {out after : DemuxOutput} {sid : UInt32}

theorem handleFrame_writes (ctl : out.Control)
    (hd : handleFrame dm fr out = (next, .ok after)) : after.Control := by
  by_cases own : fr.streamId = 0
  · simp only [handleFrame, if_pos own] at hd
    split at hd
    next pong ans =>
      rw [Frame.encode_eq_ok (Frame.controlPong_encodable ans)] at hd
      cases hd
      refine ⟨fun bs mem => ?_, ctl.frames⟩
      rcases mem_append.mp mem with old | fresh
      · exact ctl.pongs bs old
      · obtain rfl := mem_singleton.mp fresh
        unfold Frame.controlPong at ans
        split at ans
        · cases ans
          exact frameHeader_wire _
        · cases ans
    · split at hd
      · cases hd
        exact ⟨ctl.pongs, ctl.frames⟩
      · cases hd
  · obtain ⟨_, _, hs, res⟩ := handleFrame_stream dm fr own
    rw [res out] at hd
    cases hd
    refine ⟨ctl.pongs, fun bs mem => ?_⟩
    rcases DemuxOutput.mem_emitFrames_apply mem with old | ⟨sent, fresh, rfl⟩
    · exact ctl.frames bs old
    · refine ⟨sent.streamId, ?_⟩
      rw [frameHeader_wire]
      rcases (frameStep_effect hs).emit_flags sent fresh with flags | flags
      · exact Or.inl (by rw [flags])
      · exact Or.inr (by rw [flags])

theorem feedFrames_writes {frames : List Frame} (ctl : out.Control)
    (hd : feedFrames frames dm out = (next, .ok after)) : after.Control := by
  induction frames generalizing dm out with
  | nil =>
    cases hd
    exact ctl
  | cons fr frames ih =>
    simp only [feedFrames] at hd
    split at hd
    next mid between fst => exact ih (handleFrame_writes ctl fst) hd
    · cases hd

theorem feed_writes {data : Bytes} (fed : dm.feed data = (next, .ok out)) : out.Control := by
  obtain ⟨-, _, _, -, hd⟩ := feed_ok.mp fed
  exact feedFrames_writes ⟨by simp, by simp⟩ hd

/-- A registered stream has not been reset, and one that is gone has been reported. -/
def Reported (sid : UInt32) (demux : CarrierDemux) (out : DemuxOutput) : Prop :=
  (demux.streams.lookup sid ≠ none ∧ ∀ bytes ∈ out.emitFrames, frameHeader bytes ≠ some (sid, flagReset)) ∨
  ∃ how, (sid, StreamEvent.ending how) ∈ out.streamEvents

theorem reset_ends_of_effect {live : CarrierStream} {res : StepResult}
    (eff : StreamEffect fr (some live) res) :
    (res.1 ≠ none ∧ ∀ sent ∈ res.2.emit, sent.flags ≠ flagReset) ∨ ∃ how, StreamEvent.ending how ∈ res.2.events := by
  cases eff with
  | rejected => exact Or.inr ⟨.reset .protocolError, by simp [rejectStep]⟩
  | overrun => exact Or.inr ⟨.reset .flowControlError, by simp [endStep]⟩
  | ended _ how => exact Or.inr ⟨how, by simp [endStep]⟩
  | closed => exact Or.inr ⟨.close, by simp [endStep]⟩
  | credited => exact Or.inl ⟨by simp, by simp⟩
  | data =>
    refine Or.inl ⟨by simp, ?_⟩
    intro sent mem
    obtain ⟨_, -, rfl⟩ := Option.map_eq_some_iff.mp (Option.mem_toList.mp mem)
    exact (by decide : flagWindow ≠ flagReset)

theorem handleFrame_reported (reported : Reported sid dm out)
    (hd : handleFrame dm fr out = (next, .ok after)) : Reported sid next after := by
  by_cases own : fr.streamId = 0
  · rcases handleFrame_control dm fr own with ⟨pongs, inbound, quiet⟩ | fatal
    · rw [quiet out] at hd
      cases hd
      exact reported
    · rw [fatal out] at hd
      cases hd
  · obtain ⟨_, _, hs, res⟩ := handleFrame_stream dm fr own
    rw [res out] at hd
    cases hd
    rcases reported with ⟨live, unsent⟩ | ⟨how, mem⟩
    · by_cases same : fr.streamId = sid
      · subst same
        obtain ⟨_, hp⟩ := Option.ne_none_iff_exists'.mp live
        rw [hp] at hs
        rcases reset_ends_of_effect (frameStep_effect hs) with ⟨stays, quiet⟩ | ⟨how, mem⟩
        · refine Or.inl ⟨by simpa using stays, fun bs mem => ?_⟩
          rcases DemuxOutput.mem_emitFrames_apply mem with old | ⟨sent, fresh, rfl⟩
          · exact unsent bs old
          · rw [frameHeader_wire]
            intro equal
            exact quiet sent fresh (congrArg Prod.snd (Option.some.inj equal))
        · refine Or.inr ⟨how, ?_⟩
          simp only [DemuxOutput.apply]
          exact mem_append_right _ (mem_map_of_mem mem)
      · refine Or.inl ⟨?_, fun bs mem => ?_⟩
        · simp only
          rw [Table.lookup_assign_of_ne _ (Ne.symm same)]
          exact live
        · rcases DemuxOutput.mem_emitFrames_apply mem with old | ⟨sent, fresh, rfl⟩
          · exact unsent bs old
          · rw [frameHeader_wire, (frameStep_effect hs).emit_streamId sent fresh]
            intro equal
            exact same (congrArg Prod.fst (Option.some.inj equal))
    · refine Or.inr ⟨how, ?_⟩
      simp only [DemuxOutput.apply]
      exact mem_append_left _ mem

theorem feedFrames_reported {frames : List Frame} (reported : Reported sid dm out)
    (hd : feedFrames frames dm out = (next, .ok after)) : Reported sid next after := by
  induction frames generalizing dm out with
  | nil =>
    cases hd
    exact reported
  | cons fr frames ih =>
    simp only [feedFrames] at hd
    split at hd
    next mid between fst => exact ih (handleFrame_reported reported fst) hd
    · cases hd

/-- A read that resets a registered stream reports its end. -/
theorem feed_reset_ends {data : Bytes} {bs : Bytes} (live : dm.streams.lookup sid ≠ none)
    (fed : dm.feed data = (next, .ok out)) (mem : bs ∈ out.emitFrames)
    (reset : frameHeader bs = some (sid, flagReset)) : ∃ how, (sid, StreamEvent.ending how) ∈ out.streamEvents := by
  obtain ⟨-, left, _, -, hd⟩ := feed_ok.mp fed
  have start : Reported sid { dm with decoder := ⟨left⟩ } {} := Or.inl ⟨live, by simp⟩
  rcases feedFrames_reported start hd with ⟨-, unsent⟩ | ended
  · exact absurd reset (unsent bs mem)
  · exact ended

end CarrierDemux

end SplRust.Core
