import SplRust.Core.DemuxSegmentation
import SplRust.Core.DemuxView

/-! The demultiplexer as a machine driven by its owner's calls, and the isolation of
its streams: what a stream gets out of a run of calls depends only on the frames and
the local calls that concern it. -/

namespace SplRust.Core
open SplRust.Lib List StreamView

inductive CarrierCall where
  | openStream (streamId : UInt32)
  | removeStream (streamId : UInt32)
  | feed (data : Bytes)
  | consume (streamId : UInt32) (bytes : Nat)
  deriving DecidableEq, Repr

inductive CarrierReply where
  | done
  | fed (result : Except (Failure MuxError) DemuxOutput)
  | consumed (result : Except (Failure MuxError) (Option Bytes))
  deriving DecidableEq, Repr

namespace CarrierReply

/-- The reply is not a failed `feed`. -/
def Accepted : CarrierReply → Prop
  | fed (.error _) => False
  | _ => True

instance : DecidablePred Accepted
  | done => isTrue trivial
  | fed (.error _) => isFalse not_false
  | fed (.ok _) => isTrue trivial
  | consumed _ => isTrue trivial

def view (reply : CarrierReply) (sid : UInt32) : StreamView :=
  match reply with
  | fed (.ok out) => out.view sid
  | consumed (.ok (some bytes)) => { emitted := [bytes].filter (isFrameOf sid) }
  | _ => {}

end CarrierReply

namespace CarrierDemux

def call (demux : CarrierDemux) : CarrierCall → CarrierDemux × CarrierReply
  | .openStream sid => (demux.openStream sid, .done)
  | .removeStream sid => (demux.removeStream sid, .done)
  | .feed data => ((demux.feed data).1, .fed (demux.feed data).2)
  | .consume sid bytes => ((demux.consume sid bytes).1, .consumed (demux.consume sid bytes).2)

/-- The frames a read completes. -/
def completed (demux : CarrierDemux) (data : Bytes) : List Frame :=
  match (FrameDecoder.splitter.drain (demux.decoder.buf ++ data)).2 with
  | .ok frames => frames
  | .error _ => []

def inputsOf (demux : CarrierDemux) (sid : UInt32) : CarrierCall → List StreamInput
  | .openStream other => if other = sid then [.opened] else []
  | .removeStream other => if other = sid then [.removed] else []
  | .feed data => ((demux.completed data).filter fun frame => frame.streamId == sid).map .frame
  | .consume other bytes => if other = sid then [.consume bytes] else []

/-- What a run of calls brings to one stream: its frames and local calls, in order. -/
def inputs (sid : UInt32) : CarrierDemux → List CarrierCall → List StreamInput
  | _, [] => []
  | demux, call :: calls => demux.inputsOf sid call ++ inputs sid (demux.call call).1 calls

/-- Every `feed` of the run completes at most one frame. -/
def SingleFrames : CarrierDemux → List CarrierCall → Prop
  | _, [] => True
  | demux, call :: calls =>
      (∀ data, call = .feed data → (demux.completed data).length ≤ 1) ∧ SingleFrames (demux.call call).1 calls

theorem inputsOf_length {dm : CarrierDemux} (sid : UInt32) {call : CarrierCall}
    (single : ∀ data, call = .feed data → (dm.completed data).length ≤ 1) :
    (dm.inputsOf sid call).length ≤ 1 := by
  cases call with
  | openStream | removeStream | consume => simp only [inputsOf]; split <;> simp
  | feed data =>
    simp only [inputsOf, length_map]
    exact (length_filter_le _ _).trans (single data rfl)

theorem feed_view {dm next : CarrierDemux} {data : Bytes} {out : DemuxOutput}
    (sid : UInt32) (fed : dm.feed data = (next, .ok out)) :
    ∃ views, (streamMachine sid).run (dm.streams.lookup sid)
        (dm.inputsOf sid (.feed data)) = some (next.streams.lookup sid, views) ∧
      out.view sid = join sid views := by
  obtain ⟨-, _, _, drained, hd⟩ := feed_ok.mp fed
  simp only [inputsOf, completed, drained]
  have viewed := feedFrames_view sid hd
  exact viewed

theorem consume_view (dm : CarrierDemux) (sid : UInt32) (bs : Nat) :
    (streamMachine sid).step (dm.streams.lookup sid) (.consume bs) = some ((dm.consume sid bs).1.streams.lookup sid,
        (CarrierReply.consumed (dm.consume sid bs).2).view sid) := by
  rcases dm.consume_cases sid bs with ⟨abs, res⟩ | ⟨st, hp, exceeds, res⟩ |
    ⟨st, win, grant, hp, consumed, res⟩
  · simp [res, abs, streamMachine, CarrierReply.view]
  · simp [res, hp, exceeds, streamMachine, CarrierReply.view]
  · have own (cr : UInt32) : isFrameOf sid (Frame.window sid cr).wire = true := by simp [isFrameOf_wire, Frame.window]
    cases grant <;> simp [res, hp, consumed, streamMachine, CarrierReply.view, own]

theorem consume_other (dm : CarrierDemux) {sid oid : UInt32} (ne : sid ≠ oid) (bs : Nat) :
    (dm.consume oid bs).1.streams.lookup sid = dm.streams.lookup sid ∧
      (CarrierReply.consumed (dm.consume oid bs).2).view sid = {} := by
  rcases dm.consume_cases oid bs with ⟨-, res⟩ | ⟨st, -, -, res⟩ |
    ⟨st, win, grant, -, -, res⟩
  · rw [res]
    exact ⟨rfl, rfl⟩
  · rw [res]
    exact ⟨rfl, rfl⟩
  · rw [res]
    refine ⟨Finmap.lookup_insert_of_ne dm.streams ne, ?_⟩
    cases grant <;> simp [CarrierReply.view, isFrameOf_wire, Frame.window, ne.symm]

/-- A call acts on a stream as the stream's own machine does on what the call brings to it. -/
theorem call_view (dm : CarrierDemux) (sid : UInt32) (call : CarrierCall) (accepted : (dm.call call).2.Accepted) :
    ∃ views, (streamMachine sid).run (dm.streams.lookup sid) (dm.inputsOf sid call) =
        some ((dm.call call).1.streams.lookup sid, views) ∧
      (dm.call call).2.view sid = join sid views := by
  have one : ∀ {inp next view}, (streamMachine sid).step (dm.streams.lookup sid) inp = some (next, view) →
      (streamMachine sid).run (dm.streams.lookup sid) [inp] = some (next, [view]) := fun hs =>
    (streamMachine sid).run_cons.mpr ⟨_, _, _, hs, rfl, rfl⟩
  cases call with
  | openStream oid =>
    by_cases same : oid = sid
    · subst same
      refine ⟨[{}], ?_, by simp [join, CarrierReply.view, CarrierDemux.call]⟩
      simp only [inputsOf, if_true]
      exact one (by simp [streamMachine, CarrierDemux.call, openStream])
    · refine ⟨[], ?_, rfl⟩
      simp [inputsOf, same, CarrierDemux.call, openStream, Finmap.lookup_insert_of_ne _ (Ne.symm same)]
  | removeStream oid =>
    by_cases same : oid = sid
    · subst same
      refine ⟨[{}], ?_, by simp [join, CarrierReply.view, CarrierDemux.call]⟩
      simp only [inputsOf, if_true]
      exact one (by simp [streamMachine, CarrierDemux.call, removeStream])
    · refine ⟨[], ?_, rfl⟩
      simp [inputsOf, same, CarrierDemux.call, removeStream, Finmap.lookup_erase_ne (Ne.symm same)]
  | feed data =>
    rcases fed : dm.feed data with ⟨next, _ | out⟩
    · simp [CarrierDemux.call, fed, CarrierReply.Accepted] at accepted
    · simp only [CarrierDemux.call, fed, CarrierReply.view]
      exact feed_view sid fed
  | consume oid bs =>
    by_cases same : oid = sid
    · subst same
      refine ⟨[_], ?_, (extend_empty oid _).symm⟩
      simp only [inputsOf, if_true]
      exact one (consume_view dm oid bs)
    · obtain ⟨kept, unseen⟩ := consume_other dm (Ne.symm same) bs
      refine ⟨[], ?_, unseen⟩
      simp [inputsOf, same, CarrierDemux.call, kept]

end CarrierDemux

/-- The demultiplexer under its owner's calls. -/
def carrierMachine : Machine CarrierDemux CarrierCall CarrierReply where
  step demux call := some (demux.call call)

theorem carrier_run_view (sid : UInt32) {dm last : CarrierDemux}
    {calls : List CarrierCall} {rs : List CarrierReply}
    (ran : carrierMachine.run dm calls = some (last, rs)) (accepted : ∀ rep ∈ rs, rep.Accepted) :
    ∃ views, (streamMachine sid).run (dm.streams.lookup sid)
        (dm.inputs sid calls) = some (last.streams.lookup sid, views) ∧
      (rs.flatMap fun rep => (rep.view sid).events) = views.flatMap StreamView.events ∧
      (rs.flatMap fun rep => (rep.view sid).grants) = views.flatMap StreamView.grants ∧
      (dm.SingleFrames calls → (rs.flatMap fun rep => (rep.view sid).emitted) =
          views.flatMap StreamView.emitted) := by
  induction calls generalizing dm rs with
  | nil =>
    cases ran
    exact ⟨[], rfl, rfl, rfl, fun _ => rfl⟩
  | cons call calls ih =>
    obtain ⟨mid, rep, _, hs, later, rfl⟩ := carrierMachine.run_cons.mp ran
    have called : dm.call call = (mid, rep) := Option.some.inj hs
    obtain ⟨_, here⟩ := forall_mem_cons.mp accepted
    obtain ⟨early, ranEarly, seen⟩ := dm.call_view sid call (by rwa [called])
    rw [called] at ranEarly seen
    obtain ⟨late, ranLate, es, grants, emitted⟩ := ih later here
    rw [CarrierDemux.inputs, CarrierDemux.SingleFrames, called]
    refine ⟨early ++ late, (streamMachine sid).run_append.mpr ⟨_, _, _, ranEarly, ranLate, rfl⟩, ?_, ?_, ?_⟩
    · rw [flatMap_cons, flatMap_append, seen, join_events, es]
    · rw [flatMap_cons, flatMap_append, seen, join_grants, grants]
    · rintro ⟨single, others⟩
      have few : early.length ≤ 1 := by
        rw [← (streamMachine sid).run_length ranEarly]
        exact CarrierDemux.inputsOf_length sid single
      rw [flatMap_cons, flatMap_append, seen, join_emitted sid few, emitted others]

/-- Two runs that never fail to read, and bring the same frames and local calls to a
stream, give it the same events and grants, and the same frames to write when each frame
is read on its own. The other streams' traffic does not matter. -/
theorem stream_isolation (streamId : UInt32) {demux other last final : CarrierDemux}
    {calls otherCalls : List CarrierCall} {replies otherReplies : List CarrierReply}
    (agree : demux.streams.lookup streamId = other.streams.lookup streamId)
    (ran : carrierMachine.run demux calls = some (last, replies))
    (otherRan : carrierMachine.run other otherCalls = some (final, otherReplies))
    (accepted : ∀ reply ∈ replies, reply.Accepted)
    (otherAccepted : ∀ reply ∈ otherReplies, reply.Accepted)
    (same : demux.inputs streamId calls = other.inputs streamId otherCalls) :
    (replies.flatMap fun reply => (reply.view streamId).events) =
        (otherReplies.flatMap fun reply => (reply.view streamId).events) ∧
      (replies.flatMap fun reply => (reply.view streamId).grants) =
        (otherReplies.flatMap fun reply => (reply.view streamId).grants) ∧
      (demux.SingleFrames calls → other.SingleFrames otherCalls →
        (replies.flatMap fun reply => (reply.view streamId).emitted) =
          (otherReplies.flatMap fun reply => (reply.view streamId).emitted)) := by
  obtain ⟨views, viewed, events, grants, emitted⟩ := carrier_run_view streamId ran accepted
  obtain ⟨otherViews, otherViewed, otherEvents, otherGrants, otherEmitted⟩ :=
    carrier_run_view streamId otherRan otherAccepted
  rw [agree, same, otherViewed] at viewed
  obtain rfl : otherViews = views := (Prod.ext_iff.mp (Option.some.inj viewed)).2
  exact ⟨events.trans otherEvents.symm, grants.trans otherGrants.symm,
    fun single otherSingle => (emitted single).trans (otherEmitted otherSingle).symm⟩

def sampleResponse : Bytes := Frame.wire ⟨1, flagData, asciiBytes "HTTP/1.1 200 OK\r\n\r\nhi"⟩

def sampleNoise : Bytes := Frame.wire ⟨3, flagData, asciiBytes "noise"⟩

/-- The response read alone, and between violations of another stream. -/
theorem stream_isolation_response : ∃ last final replies otherReplies,
      carrierMachine.run (CarrierDemux.openStream {} 1) [.feed sampleResponse, .consume 1 2] = some (last, replies) ∧
      carrierMachine.run (CarrierDemux.openStream {} 1) [.openStream 3,
        .feed (sampleNoise ++ sampleResponse ++ sampleNoise.take 4), .consume 3 0, .consume 1 2,
        .feed (sampleNoise.drop 4)] = some (final, otherReplies) ∧
      (replies.flatMap fun reply => (reply.view 1).events) =
        (otherReplies.flatMap fun reply => (reply.view 1).events) := by
  have ran : carrierMachine.run (CarrierDemux.openStream {} 1) [.feed sampleResponse,
    .consume 1 2] = some (_, _) := rfl
  have otherRan : carrierMachine.run (CarrierDemux.openStream {} 1) [.openStream 3,
    .feed (sampleNoise ++ sampleResponse ++ sampleNoise.take 4), .consume 3 0, .consume 1 2,
    .feed (sampleNoise.drop 4)] = some (_, _) := rfl
  exact ⟨_, _, _, _, ran, otherRan, (stream_isolation 1 rfl ran otherRan (by decide +kernel)
    (by decide +kernel) (by decide +kernel)).1⟩

end SplRust.Core
