import SplRust.Core.DemuxBatch

/-! One stream's view of a carrier. What a batch holds for a stream is determined by
that stream's entry and its own frames, so the carrier restricted to one stream is a
machine of its own (`streamMachine`). -/

namespace SplRust.Core
open SplRust.Lib List

/-- Whether encoded bytes are a frame of the stream, judged by their header. -/
def isFrameOf (sid : UInt32) : Bytes → Bool
  | b0 :: b1 :: b2 :: b3 :: _ => fromBeBytes b0 b1 b2 b3 == sid
  | _ => false

theorem isFrameOf_wire (sid : UInt32) (fr : Frame) : isFrameOf sid fr.wire = (fr.streamId == sid) := by
  simp only [Frame.wire, toBeBytes, cons_append, nil_append, isFrameOf, fromBeBytes_toBeBytes]

theorem isFrameOf_of_isWindowOf (sid : UInt32) {oid : UInt32} {bs : Bytes}
    (win : isWindowOf oid bs = true) : isFrameOf sid bs = (oid == sid) := by
  unfold isWindowOf at win
  split at win
  · simp only [Bool.and_eq_true, beq_iff_eq] at win
    simp only [isFrameOf, win.1]
  · cases win

/-- What a stream sees of an output batch. -/
@[ext] structure StreamView where
  events : List StreamEvent := []
  grants : List UInt32 := []
  emitted : List Bytes := []
  deriving DecidableEq, Repr

namespace StreamView

def ends (view : StreamView) : Bool := view.events.any StreamEvent.isEnding

def extend (sid : UInt32) (first second : StreamView) : StreamView where
  events := first.events ++ second.events
  grants := first.grants ++ second.grants
  emitted := (if second.ends then removeEmittedWindows first.emitted sid else first.emitted) ++ second.emitted

@[simp] theorem extend_empty (sid : UInt32) (view : StreamView) : view.extend sid {} = view := by simp [extend, ends]

@[simp] theorem empty_extend (sid : UInt32) (view : StreamView) : StreamView.extend sid {} view = view := by
  simp [extend, removeEmittedWindows]

def join (sid : UInt32) (views : List StreamView) : StreamView := views.foldr (extend sid) {}

section
variable (sid : UInt32)
include sid

theorem join_cons (view : StreamView) (views : List StreamView) :
    join sid (view :: views) = view.extend sid (join sid views) := rfl

theorem ends_extend (fst snd : StreamView) : (fst.extend sid snd).ends = (fst.ends || snd.ends) := by
  simp [ends, extend]

theorem join_events (views : List StreamView) : (join sid views).events = views.flatMap StreamView.events := by
  induction views with
  | nil => rfl
  | cons view views ih => rw [flatMap_cons, join_cons, extend, ih]

theorem join_grants (views : List StreamView) : (join sid views).grants = views.flatMap StreamView.grants := by
  induction views with
  | nil => rfl
  | cons view views ih => rw [flatMap_cons, join_cons, extend, ih]

theorem join_emitted {views : List StreamView} (few : views.length ≤ 1) :
    (join sid views).emitted = views.flatMap StreamView.emitted := by
  match views, few with
  | [], _ => rfl
  | [view], _ => simp [join]

end

end StreamView

def StreamDelta.view (delta : StreamDelta) : StreamView := ⟨delta.events, delta.grants, delta.emit.map Frame.wire⟩

theorem StreamEffect.emit_streamId {fr : Frame} {st : Option CarrierStream}
    {res : StepResult} (eff : StreamEffect fr st res) :
    ∀ sent ∈ res.2.emit, sent.streamId = fr.streamId := by
  cases eff with
  | rejected => simp [rejectStep, Frame.reset]
  | ignored | credited => simp
  | overrun => simp [endStep, Frame.reset]
  | ended | closed => simp [endStep]
  | @data _ _ win grant => cases grant <;> simp [Frame.window]

namespace DemuxOutput

def view (out : DemuxOutput) (sid : UInt32) : StreamView where
  events := (out.streamEvents.filter fun event => event.1 == sid).map Prod.snd
  grants := (out.windowGrants.filter fun grant => grant.1 == sid).map Prod.snd
  emitted := out.emitFrames.filter (isFrameOf sid)

theorem view_emitted (out : DemuxOutput) (sid : UInt32) :
    (out.view sid).emitted = out.emitFrames.filter (isFrameOf sid) := rfl

theorem ends_view (out : DemuxOutput) (sid : UInt32) : (out.view sid).ends = true ↔ sid ∈ out.endedIds := by
  simp only [view, StreamView.ends, endedIds, any_map, any_filter, Function.comp_apply,
    any_eq_true, mem_map, mem_filter, Bool.and_eq_true, beq_iff_eq]
  constructor
  · rintro ⟨ev, mem, same, ending⟩
    exact ⟨ev, ⟨mem, ending⟩, same⟩
  · rintro ⟨ev, ⟨mem, ending⟩, same⟩
    exact ⟨ev, mem, same, ending⟩

/-- Retracting another stream's grants leaves the frames of this one. -/
theorem filter_removeEmittedWindows (sid oid : UInt32) (fs : List Bytes) :
    (removeEmittedWindows fs oid).filter (isFrameOf sid) =
      if oid = sid then removeEmittedWindows (fs.filter (isFrameOf sid)) sid
      else fs.filter (isFrameOf sid) := by
  simp only [removeEmittedWindows, filter_filter]
  split
  next same =>
    subst same
    exact filter_congr fun bs _ => Bool.and_comm _ _
  next ne =>
    refine filter_congr fun bs _ => ?_
    cases win : isWindowOf oid bs with
    | false => simp
    | true => simp [isFrameOf_of_isWindowOf sid win, ne]

theorem filter_removeAll (sid : UInt32) (ended : List UInt32) (fs : List Bytes) :
    (ended.foldl removeEmittedWindows fs).filter (isFrameOf sid) =
      if sid ∈ ended then removeEmittedWindows (fs.filter (isFrameOf sid)) sid
      else fs.filter (isFrameOf sid) := by
  induction ended generalizing fs with
  | nil => simp
  | cons id ended ih =>
    rw [foldl_cons, ih, filter_removeEmittedWindows]
    by_cases same : id = sid
    · subst same
      simp [removeEmittedWindows, filter_filter]
    · simp [same, Ne.symm same]

theorem view_extend (fst snd : DemuxOutput) (sid : UInt32) : (fst.extend snd).view sid =
      (fst.view sid).extend sid (snd.view sid) := by
  ext1
  · simp [view, extend, StreamView.extend]
  · simp [view, extend, StreamView.extend]
  · simp only [extend, StreamView.extend, view_emitted, filter_append, filter_removeAll]
    by_cases ended : sid ∈ snd.endedIds
    · rw [if_pos ended, if_pos ((ends_view snd sid).mpr ended)]
    · rw [if_neg ended, if_neg fun ends => ended ((ends_view snd sid).mp ends)]

theorem view_apply {delta : StreamDelta} {owner : UInt32} (sid : UInt32)
    (own : ∀ sent ∈ delta.emit, sent.streamId = owner) : (DemuxOutput.apply {} owner delta).view sid =
      if owner = sid then delta.view else {} := by
  have emitted : (delta.emit.map Frame.wire).filter (isFrameOf sid) =
      if owner = sid then delta.emit.map Frame.wire else [] := by
    split
    next same =>
      refine filter_eq_self.mpr fun bs mem => ?_
      obtain ⟨sent, hp, rfl⟩ := mem_map.mp mem
      simp [isFrameOf_wire, own sent hp, same]
    next ne =>
      refine filter_eq_nil_iff.mpr fun bs mem => ?_
      obtain ⟨sent, hp, rfl⟩ := mem_map.mp mem
      simp [isFrameOf_wire, own sent hp, ne]
  have emptied : (if delta.retract then removeEmittedWindows [] owner else []) = [] := by split <;> rfl
  simp only [view, apply, nil_append, emptied, emitted]
  by_cases same : owner = sid <;> simp [same, StreamDelta.view, filter_map, Function.comp_def]

end DemuxOutput

/-- What can happen to one stream of a carrier. -/
inductive StreamInput where
  | opened
  | removed
  | frame (frame : Frame)
  | consume (bytes : Nat)
  deriving DecidableEq, Repr

/-- The carrier restricted to one stream. Frames on stream 0 are carrier control and
never reach a stream; the step is undefined where the receive window panics on a frame. -/
def streamMachine (sid : UInt32) : Machine (Option CarrierStream) StreamInput StreamView where
  step
    | _, .opened => some (some {}, {})
    | _, .removed => some (none, {})
    | entry, .frame frame =>
        if frame.streamId = 0 then some (entry, {})
        else (frameStep entry frame).map fun result => (result.1, result.2.view)
    | none, .consume _ => some (none, {})
    | some stream, .consume bytes =>
        match stream.recvWindow.consume bytes with
        | none => some (some stream, {})
        | some (window, grant) => some (some { stream with recvWindow := window },
            { emitted := (grant.map fun credit => (Frame.window sid credit).wire).toList })

namespace CarrierDemux

/-- One frame acts on a stream as the stream's own machine does, or not at all. -/
theorem handleFrame_view {dm next : CarrierDemux} {fr : Frame} {out : DemuxOutput}
    (sid : UInt32) (hd : handleFrame dm fr {} = (next, .ok out)) : if fr.streamId = sid then
      (streamMachine sid).step (dm.streams.lookup sid) (.frame fr) = some (next.streams.lookup sid, out.view sid)
    else next.streams.lookup sid = dm.streams.lookup sid ∧ out.view sid = {} := by
  by_cases ctl : fr.streamId = 0
  · rcases handleFrame_control dm fr ctl with ⟨pongs, inbound, res⟩ | res
    · rw [res] at hd
      cases hd
      split
      · simp [streamMachine, ctl, DemuxOutput.view]
      · exact ⟨rfl, rfl⟩
    · rw [res] at hd
      cases hd
  · obtain ⟨_, _, hs, res⟩ := handleFrame_stream dm fr ctl
    rw [res] at hd
    cases hd
    rw [DemuxOutput.view_apply sid (frameStep_effect hs).emit_streamId]
    by_cases same : fr.streamId = sid
    · subst same
      simp [streamMachine, ctl, hs]
    · rw [if_neg same, if_neg same]
      exact ⟨Table.lookup_assign_of_ne _ (Ne.symm same) _, rfl⟩

/-- A batch of frames acts on a stream as the stream's own frames do. -/
theorem feedFrames_view {fs : List Frame} {dm next : CarrierDemux} {out : DemuxOutput}
    (sid : UInt32) (hd : feedFrames fs dm {} = (next, .ok out)) :
    ∃ views, (streamMachine sid).run (dm.streams.lookup sid)
        ((fs.filter fun fr => fr.streamId == sid).map .frame) = some (next.streams.lookup sid, views) ∧
      out.view sid = StreamView.join sid views := by
  induction fs generalizing dm out with
  | nil =>
    cases hd
    exact ⟨[], rfl, rfl⟩
  | cons fr fs ih =>
    rw [feedFrames_cons] at hd
    rcases fst : handleFrame dm fr {} with ⟨mid, _ | batch⟩
    · simp [fst] at hd
    · rcases later : feedFrames fs mid {} with ⟨last, _ | rest⟩
      · simp [fst, later, Except.map] at hd
      · simp only [fst, later, Except.map, Prod.mk.injEq, Except.ok.injEq] at hd
        obtain ⟨rfl, rfl⟩ := hd
        obtain ⟨views, ran, joined⟩ := ih later
        have own := handleFrame_view sid fst
        rw [DemuxOutput.view_extend, joined]
        by_cases same : fr.streamId = sid
        · rw [if_pos same] at own
          refine ⟨batch.view sid :: views, ?_, rfl⟩
          simp only [filter_cons, beq_iff_eq, if_pos same, map_cons]
          exact (streamMachine sid).run_cons.mpr ⟨_, _, _, own, ran, rfl⟩
        · rw [if_neg same] at own
          rw [own.1] at ran
          refine ⟨views, ?_, by rw [own.2, StreamView.empty_extend]⟩
          simpa only [filter_cons, beq_iff_eq, if_neg same] using ran

end CarrierDemux

end SplRust.Core
