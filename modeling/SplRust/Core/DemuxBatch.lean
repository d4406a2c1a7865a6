import SplRust.Core.DemuxStep

/-! How output batches compose. A call starts from an empty batch; handling frames on
top of an earlier batch gives the earlier batch extended by the later one, where the
streams that the later one ends lose the grants queued in the earlier one. -/

namespace SplRust.Core
open SplRust.Lib List

namespace StreamEvent

def isEnding (event : StreamEvent) : Bool :=
  match event.item with
  | .ended _ => true
  | _ => false

@[simp] theorem isEnding_ending (how : StreamEnd) : (StreamEvent.ending how).isEnding = true := rfl

end StreamEvent

namespace HttpStreamAssembler

theorem IsBody.not_ending {es : List StreamEvent} (body : IsBody es) :
    ∀ ev ∈ es, ev.isEnding = false := by
  rcases body with rfl | ⟨body, cost, rfl⟩
  · simp
  · simp [StreamEvent.isEnding]

theorem Delivers.not_ending {pre after : Bool} {es : List StreamEvent}
    (delivers : Delivers pre after es) : ∀ ev ∈ es, ev.isEnding = false := by
  cases delivers with
  | scanning => simp
  | head _ body =>
    intro ev mem
    rcases mem_cons.mp mem with rfl | mem
    · rfl
    · exact body.not_ending ev mem
  | body body => exact body.not_ending

end HttpStreamAssembler


/-- A delta retracts queued grants exactly when it ends the stream, and then the end
is its last event. -/
def StreamDelta.Ends (delta : StreamDelta) : Prop :=
  (delta.retract = true ∧ ∃ earlier how, delta.events = earlier ++ [.ending how] ∧
    ∀ ev ∈ earlier, ev.isEnding = false) ∨
  (delta.retract = false ∧ ∀ ev ∈ delta.events, ev.isEnding = false)

theorem StreamEffect.ends {fr : Frame} {st : Option CarrierStream} {res : StepResult}
    (eff : StreamEffect fr st res) : res.2.Ends := by
  cases eff with
  | rejected =>
    cases st with
    | none => exact Or.inr ⟨rfl, by simp [rejectStep]⟩
    | some live => exact Or.inl ⟨rfl, [], _, rfl, by simp⟩
  | ignored | credited => exact Or.inr ⟨rfl, by simp⟩
  | overrun | ended => exact Or.inl ⟨rfl, [], _, rfl, by simp⟩
  | closed _ fed => exact Or.inl ⟨rfl, _, _, rfl, (HttpStreamAssembler.feedData_ok fed).1.not_ending⟩
  | data _ _ fed => exact Or.inr ⟨rfl, (HttpStreamAssembler.feedData_ok fed).1.not_ending⟩

namespace DemuxOutput

variable (out : DemuxOutput)

def endedIds : List UInt32 := (out.streamEvents.filter fun event => event.2.isEnding).map Prod.fst

/-- The batch of two runs of frames handled one after the other in one call. -/
def extend (first second : DemuxOutput) : DemuxOutput where
  pongs := first.pongs ++ second.pongs
  inboundPongs := first.inboundPongs ++ second.inboundPongs
  streamEvents := first.streamEvents ++ second.streamEvents
  windowGrants := first.windowGrants ++ second.windowGrants
  emitFrames := second.endedIds.foldl removeEmittedWindows first.emitFrames ++ second.emitFrames
  violations := first.violations ++ second.violations

theorem removeAll_append (ended : List UInt32) (fst second : List Bytes) :
    ended.foldl removeEmittedWindows (fst ++ second) =
      ended.foldl removeEmittedWindows fst ++ ended.foldl removeEmittedWindows second := by
  induction ended generalizing fst second with
  | nil => rfl
  | cons id ended ih => simp only [foldl_cons, removeEmittedWindows, filter_append, ih]

theorem removeAll_nil (ended : List UInt32) : ended.foldl removeEmittedWindows [] = [] := by
  induction ended with
  | nil => rfl
  | cons id ended ih => exact ih

@[simp] theorem endedIds_empty : ({} : DemuxOutput).endedIds = [] := rfl

@[simp] theorem endedIds_extend (fst second : DemuxOutput) :
    (fst.extend second).endedIds = fst.endedIds ++ second.endedIds := by
  simp [endedIds, extend]

@[simp] theorem extend_empty : out.extend {} = out := by simp [extend]

@[simp] theorem empty_extend : DemuxOutput.extend {} out = out := by simp [extend, removeAll_nil]

theorem extend_assoc (fst second third : DemuxOutput) :
    (fst.extend second).extend third = fst.extend (second.extend third) := by
  simp only [extend, endedIds, removeAll_append, append_assoc, filter_append, map_append, foldl_append]

theorem endedIds_apply {sid : UInt32} {delta : StreamDelta} (ends : delta.Ends) :
    (DemuxOutput.apply {} sid delta).endedIds = if delta.retract then [sid] else [] := by
  rcases ends with ⟨retract, earlier, how, es, quiet⟩ | ⟨retract, quiet⟩
  · have none_earlier : earlier.filter StreamEvent.isEnding = [] := by simpa [filter_eq_nil_iff] using quiet
    simp only [endedIds, apply, retract, es, nil_append, filter_map, Function.comp_def, filter_append, none_earlier]
    rfl
  · have none_ending : delta.events.filter StreamEvent.isEnding = [] := by simpa [filter_eq_nil_iff] using quiet
    simp [endedIds, apply, retract, filter_map, Function.comp_def, none_ending]

theorem apply_eq_extend {sid : UInt32} {delta : StreamDelta}
    (ends : delta.Ends) : out.apply sid delta = out.extend (.apply {} sid delta) := by
  simp only [extend, endedIds_apply ends]
  cases retract : delta.retract <;> simp [apply, retract, removeEmittedWindows]

end DemuxOutput

namespace CarrierDemux

theorem handleFrame_extend (dm : CarrierDemux) (fr : Frame) (out : DemuxOutput) : handleFrame dm fr out =
      ((handleFrame dm fr {}).1, (handleFrame dm fr {}).2.map out.extend) := by
  by_cases ctl : fr.streamId = 0
  · rcases handleFrame_control dm fr ctl with ⟨pongs, inbound, hd⟩ | hd
    · simp [hd, Except.map, DemuxOutput.extend, DemuxOutput.endedIds]
    · simp [hd, Except.map]
  · obtain ⟨_, _, hs, hd⟩ := handleFrame_stream dm fr ctl
    rw [hd, hd, DemuxOutput.apply_eq_extend out (frameStep_effect hs).ends]
    rfl

theorem feedFrames_extend (fs : List Frame) (dm : CarrierDemux) (out : DemuxOutput) :
    feedFrames fs dm out = ((feedFrames fs dm {}).1, (feedFrames fs dm {}).2.map out.extend) := by
  induction fs generalizing dm out with
  | nil => simp [feedFrames, Except.map]
  | cons fr fs ih =>
    simp only [feedFrames]
    rw [handleFrame_extend dm fr out]
    rcases handleFrame dm fr {} with ⟨next, _ | fst⟩
    · rfl
    · simp only [Except.map]
      rw [ih next (out.extend fst), ih next fst]
      cases (feedFrames fs next {}).2 with
      | error => rfl
      | ok => simp [Except.map, DemuxOutput.extend_assoc]

theorem feedFrames_cons (fr : Frame) (fs : List Frame) (dm : CarrierDemux) :
    feedFrames (fr :: fs) dm {} = match handleFrame dm fr {} with
      | (next, .ok fst) => ((feedFrames fs next {}).1, (feedFrames fs next {}).2.map fst.extend)
      | (next, .error failure) => (next, .error failure) := by
  simp only [feedFrames]
  rcases handleFrame dm fr {} with ⟨next, _ | fst⟩
  · rfl
  · exact feedFrames_extend fs next fst

theorem feedFrames_append (fst second : List Frame) (dm : CarrierDemux) (out : DemuxOutput) :
    feedFrames (fst ++ second) dm out = match feedFrames fst dm out with
      | (next, .ok out) => feedFrames second next out
      | (next, .error failure) => (next, .error failure) := by
  induction fst generalizing dm out with
  | nil => rfl
  | cons fr fst ih =>
    simp only [cons_append, feedFrames]
    rcases handleFrame dm fr out with ⟨next, _ | out⟩
    · rfl
    · exact ih next out

end CarrierDemux

end SplRust.Core
