import SplRust.Core.DemuxBatch

/-! The demultiplexer does not depend on how the carrier's bytes are cut into reads,
except for grants of streams that end: a single call retracts those it queued itself,
separate calls have already handed them out. -/

namespace SplRust.Core
open SplRust.Lib DemuxOutput

namespace CarrierDemux
variable {dm next : CarrierDemux} {out : DemuxOutput} {frames : List Frame} {data : Bytes}

def withDecoder (demux : CarrierDemux) (decoder : FrameDecoder) : CarrierDemux := { demux with decoder := decoder }

theorem handleFrame_withDecoder (dm : CarrierDemux) (dec : FrameDecoder) (fr : Frame) (out : DemuxOutput) :
    handleFrame (dm.withDecoder dec) fr out =
      ((handleFrame dm fr out).1.withDecoder dec, (handleFrame dm fr out).2) := by
  by_cases ctl : fr.streamId = 0
  · simp only [handleFrame, if_pos ctl]
    cases fr.controlPong with
    | some rep =>
      simp only
      cases rep.encode <;> rfl
    | none => cases fr.controlPongNonce <;> rfl
  · simp only [handleFrame_eq _ _ _ ctl, withDecoder]
    cases frameStep (dm.streams.lookup fr.streamId) fr <;> rfl

theorem feedFrames_withDecoder (frames : List Frame) (dm : CarrierDemux)
    (dec : FrameDecoder) (out : DemuxOutput) : feedFrames frames (dm.withDecoder dec) out =
      ((feedFrames frames dm out).1.withDecoder dec, (feedFrames frames dm out).2) := by
  induction frames generalizing dm out with
  | nil => rfl
  | cons fr frames ih =>
    simp only [feedFrames, handleFrame_withDecoder]
    rcases handleFrame dm fr out with ⟨next, _ | out⟩
    · rfl
    · exact ih next out

theorem handleFrame_frame {fr : Frame} {res : DemuxOutput}
    (hd : handleFrame dm fr out = (next, .ok res)) :
    next.decoder = dm.decoder ∧ next.fatalViolation = dm.fatalViolation := by
  by_cases ctl : fr.streamId = 0
  · rcases handleFrame_control dm fr ctl with ⟨pongs, inbound, res⟩ | res
    · rw [res] at hd
      cases hd
      exact ⟨rfl, rfl⟩
    · rw [res] at hd
      cases hd
  · obtain ⟨_, _, -, res⟩ := handleFrame_stream dm fr ctl
    rw [res] at hd
    cases hd
    exact ⟨rfl, rfl⟩

theorem feedFrames_frame {res : DemuxOutput} (hd : feedFrames frames dm out = (next, .ok res)) :
    next.decoder = dm.decoder ∧ next.fatalViolation = dm.fatalViolation := by
  induction frames generalizing dm out with
  | nil =>
    cases hd
    exact ⟨rfl, rfl⟩
  | cons fr frames ih =>
    simp only [feedFrames] at hd
    split at hd
    next mid batch fst =>
      obtain ⟨dec, fatal⟩ := handleFrame_frame fst
      rw [← dec, ← fatal]
      exact ih hd
    · cases hd

theorem feedFrames_absent {rep : Except (Failure MuxError) DemuxOutput} {sid : UInt32}
    (hd : feedFrames frames dm out = (next, rep))
    (abs : dm.streams.lookup sid = none) : next.streams.lookup sid = none := by
  induction frames generalizing dm out with
  | nil =>
    cases hd
    exact abs
  | cons fr frames ih =>
    simp only [feedFrames] at hd
    by_cases ctl : fr.streamId = 0
    · rcases handleFrame_control dm fr ctl with ⟨pongs, inbound, res⟩ | res
      · rw [res] at hd
        exact ih hd abs
      · rw [res] at hd
        cases hd
        exact abs
    · obtain ⟨_, _, hs, res⟩ := handleFrame_stream dm fr ctl
      rw [res] at hd
      refine ih hd ?_
      by_cases same : sid = fr.streamId
      · subst same
        rw [abs] at hs
        cases frameStep_effect hs <;> simp
      · rw [Table.lookup_assign_of_ne _ same]
        exact abs

theorem feedFrames_error {failure : Failure MuxError} (failed : feedFrames frames dm out = (next, .error failure)) :
    ∃ violation, next.fatalViolation = some violation ∧ failure = .error (.protocol violation) := by
  induction frames generalizing dm out with
  | nil => cases failed
  | cons fr frames ih =>
    simp only [feedFrames] at failed
    by_cases ctl : fr.streamId = 0
    · rcases handleFrame_control dm fr ctl with ⟨pongs, inbound, res⟩ | res
      · rw [res] at failed
        exact ih failed
      · rw [res] at failed
        cases failed
        exact ⟨_, rfl, rfl⟩
    · obtain ⟨_, _, -, res⟩ := handleFrame_stream dm fr ctl
      rw [res] at failed
      exact ih failed

/-- A call succeeds exactly if the carrier is not condemned, its buffered bytes split
into frames, and every frame is handled. -/
theorem feed_ok : dm.feed data = (next, .ok out) ↔ dm.fatalViolation = none ∧ ∃ left frames,
        FrameDecoder.splitter.drain (dm.decoder.buf ++ data) = (left, .ok frames) ∧
        feedFrames frames (dm.withDecoder ⟨left⟩) {} = (next, .ok out) := by
  simp only [feed, FrameDecoder.feed, FrameDecoder.drain]
  cases verdict : dm.fatalViolation with
  | some violation => simp
  | none =>
    rcases FrameDecoder.splitter.drain (dm.decoder.buf ++ data) with ⟨left, _ | frames⟩
    · simp
    · simp [withDecoder, verdict]

theorem feed_error {failure : Failure MuxError} (failed : dm.feed data = (next, .error failure)) : failure ≠ .panic ∧
      (next.streams = dm.streams ∧ next.fatalViolation = dm.fatalViolation ∨
        ∃ frames dec violation, feedFrames frames (dm.withDecoder dec) {} =
          (next, .error failure) ∧ next.fatalViolation = some violation) := by
  simp only [feed] at failed
  split at failed
  · cases failed
    exact ⟨by simp, Or.inl ⟨rfl, rfl⟩⟩
  · split at failed
    · cases failed
      exact ⟨by simp, Or.inl ⟨rfl, rfl⟩⟩
    · obtain ⟨violation, fatal, rfl⟩ := feedFrames_error failed
      exact ⟨by simp, Or.inr ⟨_, _, violation, failed, fatal⟩⟩

/-- One call on joined input is two calls, with the second batch extending the first. -/
theorem feed_append {last : CarrierDemux} {more : Bytes} (fed : dm.feed (data ++ more) = (last, .ok out)) :
    ∃ mid fst second, dm.feed data = (mid, .ok fst) ∧ mid.feed more = (last, .ok second) ∧
      out = fst.extend second := by
  obtain ⟨sound, left, _, drained, hd⟩ := feed_ok.mp fed
  rw [← List.append_assoc] at drained
  obtain ⟨early, held, late, pre, after, rfl⟩ := FrameDecoder.splitter.drain_split _ _ drained
  rw [feedFrames_withDecoder, feedFrames_append] at hd
  rcases fst : feedFrames early dm {} with ⟨mid, _ | batch⟩
  · simp [fst] at hd
  · rw [fst] at hd
    simp only at hd
    rw [feedFrames_extend] at hd
    rcases second : feedFrames late mid {} with ⟨final, _ | later⟩
    · simp [second, Except.map] at hd
    · simp only [second, Except.map, Prod.mk.injEq, Except.ok.injEq] at hd
      obtain ⟨rfl, rfl⟩ := hd
      refine ⟨mid.withDecoder ⟨held⟩, batch, later, feed_ok.mpr ⟨sound, held, early, pre, ?_⟩,
        feed_ok.mpr ⟨(feedFrames_frame fst).2.trans sound, left, late, after, ?_⟩, rfl⟩
      · rw [feedFrames_withDecoder, fst]
      · change feedFrames late (mid.withDecoder ⟨left⟩) {} = _
        rw [feedFrames_withDecoder, second]

/-- Successive calls, each on what the one before left. -/
def feedAll : CarrierDemux → List Bytes → CarrierDemux × List (Except (Failure MuxError) DemuxOutput)
  | demux, [] => (demux, [])
  | demux, piece :: pieces =>
      let (next, reply) := demux.feed piece
      let (last, replies) := feedAll next pieces
      (last, reply :: replies)

end CarrierDemux

/-- `kept` is `all` without some WINDOW frames of the streams in `ended`. -/
inductive WindowsRetracted (ended : List UInt32) : List Bytes → List Bytes → Prop where
  | nil : WindowsRetracted ended [] []
  | keep {kept all : List Bytes} (fr : Bytes) (rest : WindowsRetracted ended kept all) :
      WindowsRetracted ended (fr :: kept) (fr :: all)
  | retract {kept all : List Bytes} {fr : Bytes} {sid : UInt32} (gone : sid ∈ ended)
      (window : isWindowOf sid fr = true) (rest : WindowsRetracted ended kept all) :
      WindowsRetracted ended kept (fr :: all)

namespace WindowsRetracted
variable {ended : List UInt32}

theorem refl (ended : List UInt32) (frames : List Bytes) : WindowsRetracted ended frames frames := by
  induction frames with
  | nil => exact .nil
  | cons fr frames ih => exact .keep fr ih

theorem trans {fst second third : List Bytes} (one : WindowsRetracted ended fst second)
    (two : WindowsRetracted ended second third) : WindowsRetracted ended fst third := by
  induction two generalizing fst with
  | nil => exact one
  | keep fr _ ih =>
    cases one with
    | keep _ kept => exact .keep fr (ih kept)
    | retract gone win kept => exact .retract gone win (ih kept)
  | retract gone win _ ih => exact .retract gone win (ih one)

theorem append {fst second kept all : List Bytes} (one : WindowsRetracted ended fst second)
    (two : WindowsRetracted ended kept all) : WindowsRetracted ended (fst ++ kept) (second ++ all) := by
  induction one with
  | nil => exact two
  | keep fr _ ih => exact .keep fr ih
  | retract gone win _ ih => exact .retract gone win ih

theorem mono {small large : List UInt32} {kept all : List Bytes}
    (retracted : WindowsRetracted small kept all) (subset : small ⊆ large) : WindowsRetracted large kept all := by
  induction retracted with
  | nil => exact .nil
  | keep fr _ ih => exact .keep fr ih
  | retract gone win _ ih => exact .retract (subset gone) win ih

theorem removeEmittedWindows {sid : UInt32} (gone : sid ∈ ended) (frames : List Bytes) :
    WindowsRetracted ended (SplRust.Core.removeEmittedWindows frames sid) frames := by
  induction frames with
  | nil => exact .nil
  | cons fr frames ih =>
    cases win : isWindowOf sid fr with
    | false => simpa [SplRust.Core.removeEmittedWindows, win] using WindowsRetracted.keep fr ih
    | true => simpa [SplRust.Core.removeEmittedWindows, win] using WindowsRetracted.retract gone win ih

theorem removeAll (ids : List UInt32) (gone : ids ⊆ ended) (frames : List Bytes) :
    WindowsRetracted ended (ids.foldl SplRust.Core.removeEmittedWindows frames) frames := by
  induction ids generalizing frames with
  | nil => exact refl ended frames
  | cons id ids ih =>
    obtain ⟨fst, others⟩ := List.cons_subset.mp gone
    exact (ih others _).trans (removeEmittedWindows fst frames)

end WindowsRetracted

/-- The batches of successive calls hold what the batch of one call holds, up to
retracted grants. -/
structure Segmented (outs : List DemuxOutput) (whole : DemuxOutput) : Prop where
  pongs : whole.pongs = outs.flatMap DemuxOutput.pongs
  inboundPongs : whole.inboundPongs = outs.flatMap DemuxOutput.inboundPongs
  streamEvents : whole.streamEvents = outs.flatMap DemuxOutput.streamEvents
  windowGrants : whole.windowGrants = outs.flatMap DemuxOutput.windowGrants
  violations : whole.violations = outs.flatMap DemuxOutput.violations
  emitFrames : WindowsRetracted whole.endedIds whole.emitFrames (outs.flatMap DemuxOutput.emitFrames)

namespace Segmented

theorem single (out : DemuxOutput) : Segmented [out] out where
  pongs := by simp
  inboundPongs := by simp
  streamEvents := by simp
  windowGrants := by simp
  violations := by simp
  emitFrames := by simpa using WindowsRetracted.refl _ out.emitFrames

theorem cons (out : DemuxOutput) {outs : List DemuxOutput} {whole : DemuxOutput}
    (rest : Segmented outs whole) : Segmented (out :: outs) (out.extend whole) where
  pongs := by simp [extend, rest.pongs]
  inboundPongs := by simp [extend, rest.inboundPongs]
  streamEvents := by simp [extend, rest.streamEvents]
  windowGrants := by simp [extend, rest.windowGrants]
  violations := by simp [extend, rest.violations]
  emitFrames := by
    have gone : whole.endedIds ⊆ (out.extend whole).endedIds := by simp
    exact (WindowsRetracted.removeAll _ gone out.emitFrames).append (rest.emitFrames.mono gone)

end Segmented

/-- Whatever one call accepts, every cut of it into successive calls accepts, with the
same output up to retracted grants, the same streams and the same receive windows. -/
theorem CarrierDemux.feed_segmented {demux last : CarrierDemux} {out : DemuxOutput}
    (first : Bytes) (rest : List Bytes)
    (single : demux.feed (first ++ rest.flatten) = (last, .ok out)) :
    ∃ outs : List DemuxOutput, demux.feedAll (first :: rest) = (last, outs.map .ok) ∧ Segmented outs out := by
  induction rest generalizing demux first out with
  | nil =>
    rw [List.flatten_nil, List.append_nil] at single
    exact ⟨[out], by simp [feedAll, single], .single out⟩
  | cons next rest ih =>
    obtain ⟨_, batch, _, early, late, rfl⟩ := feed_append single
    obtain ⟨outs, fed, segmented⟩ := ih next late
    refine ⟨batch :: outs, ?_, segmented.cons batch⟩
    rw [feedAll, early]
    simp [fed]

/-- A whole response with its end in one frame, cut inside the header. -/
theorem CarrierDemux.feed_segmented_response :
    let demux := CarrierDemux.openStream {} 1
    let wire := Frame.wire ⟨1, flagData ||| flagClose, asciiBytes "HTTP/1.1 200 OK\r\n\r\nhi"⟩
    ∃ outs : List DemuxOutput, demux.feedAll [wire.take 5, wire.drop 5] =
        ((demux.feed (wire.take 5 ++ [wire.drop 5].flatten)).1, outs.map .ok) ∧
      Segmented outs { streamEvents := [(1, .uncosted (.head ⟨200, []⟩)), (1, ⟨.body (asciiBytes "hi"), 2⟩),
        (1, .ending .close)] } :=
  feed_segmented _ [_] (Prod.ext rfl (by decide +kernel))

end SplRust.Core
