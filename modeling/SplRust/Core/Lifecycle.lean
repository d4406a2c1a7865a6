import SplRust.Core.Carrier

/-! The life of a carrier stream. Its events are a head, bodies and one end, in that
order, and once the end is reported nothing grants the peer credit for it any more. -/

namespace SplRust.Core
open SplRust.Lib List Option CarrierDemux CarrierReply
variable {word : List StreamEvent} {ph : StreamPhase} {session : Session} {call : CarrierCall}
  {rep : CarrierReply} {sid : UInt32} {replies : List CarrierReply} {data : Bytes} {out : DemuxOutput}

/-- How far the events of a stream have come. -/
inductive StreamPhase where
  | opening
  | reading
  | closed
  deriving DecidableEq, Repr

namespace StreamPhase

def next : StreamPhase → StreamEvent → Option StreamPhase
  | opening, ⟨.head _, _⟩ => some reading
  | opening, ⟨.ended _, _⟩ => some closed
  | reading, ⟨.body _, _⟩ => some reading
  | reading, ⟨.ended _, _⟩ => some closed
  | _, _ => none

def afterHead (headEmitted : Bool) : StreamPhase := if headEmitted then reading else opening

/-- The phase a registered stream is in; a forgotten one reports nothing more. -/
def of : Option CarrierStream → StreamPhase
  | none => closed
  | some stream => afterHead stream.assembler.headEmitted

@[simp] theorem next_ending (headEmitted : Bool) (how : StreamEnd) :
    (afterHead headEmitted).next (.ending how) = some closed := by
  cases headEmitted <;> rfl

theorem of_some_ne_closed (st : CarrierStream) : of (some st) ≠ closed := by
  simp only [of, afterHead]
  split <;> simp

end StreamPhase

def StreamEvent.isHead (event : StreamEvent) : Bool :=
  match event.item with
  | .head _ => true
  | _ => false

def StreamEvent.isBody (event : StreamEvent) : Bool :=
  match event.item with
  | .body _ => true
  | _ => false

/-- A word of the form `Head? Body* End?`, with bodies only behind a head. -/
def Lifecycle (word : List StreamEvent) : Prop :=
  ∃ heads bodies ends, word = heads ++ bodies ++ ends ∧ heads.length ≤ 1 ∧ (∀ ev ∈ heads, ev.isHead = true) ∧
    (∀ ev ∈ bodies, ev.isBody = true) ∧ (bodies ≠ [] → heads ≠ []) ∧
    ends.length ≤ 1 ∧ ∀ ev ∈ ends, ev.isEnding = true

theorem foldlM_closed (read : word.foldlM StreamPhase.next .closed = some ph) : word = [] ∧ ph = .closed := by
  cases word with
  | nil => exact ⟨rfl, (some.inj read).symm⟩
  | cons ev word => simp [StreamPhase.next] at read

theorem foldlM_reading (read : word.foldlM StreamPhase.next .reading = some ph) :
    ∃ bodies ends, word = bodies ++ ends ∧ (∀ ev ∈ bodies, ev.isBody = true) ∧
      ends.length ≤ 1 ∧ ∀ ev ∈ ends, ev.isEnding = true := by
  induction word with
  | nil => exact ⟨[], [], rfl, by simp, by simp, by simp⟩
  | cons ev word ih =>
    obtain ⟨item, _⟩ := ev
    cases item with
    | head => simp [StreamPhase.next] at read
    | body =>
      obtain ⟨bodies, ends, rfl, all, few, last⟩ := ih read
      exact ⟨_ :: bodies, ends, rfl, forall_mem_cons.mpr ⟨rfl, all⟩, few, last⟩
    | ended =>
      obtain ⟨rfl, -⟩ := foldlM_closed read
      exact ⟨[], [_], rfl, by simp, by simp, by simp [StreamEvent.isEnding]⟩

theorem lifecycle_of_read (read : word.foldlM StreamPhase.next .opening = some ph) : Lifecycle word := by
  cases word with
  | nil => exact ⟨[], [], [], rfl, by simp, by simp, by simp, by simp, by simp, by simp⟩
  | cons ev word =>
    obtain ⟨item, _⟩ := ev
    cases item with
    | head =>
      obtain ⟨bodies, ends, rfl, all, few, last⟩ := foldlM_reading read
      exact ⟨[_], bodies, ends, rfl, by simp, by simp [StreamEvent.isHead], all, by simp, few, last⟩
    | body => simp [StreamPhase.next] at read
    | ended =>
      obtain ⟨rfl, -⟩ := foldlM_closed read
      exact ⟨[], [], [_], rfl, by simp, by simp, by simp, by simp, by simp, by simp [StreamEvent.isEnding]⟩

theorem HttpStreamAssembler.Delivers.read {pre after : Bool} {es : List StreamEvent}
    (delivers : Delivers pre after es) :
    es.foldlM StreamPhase.next (.afterHead pre) = some (.afterHead after) := by
  cases delivers with
  | scanning => rfl
  | head _ body | body body => rcases body with rfl | ⟨body, cost, rfl⟩ <;> rfl

/-- The events of one frame move the stream through its phases. -/
theorem StreamEffect.read {fr : Frame} {st : Option CarrierStream} {res : StepResult}
    (eff : StreamEffect fr st res) :
    res.2.events.foldlM StreamPhase.next (.of st) = some (.of res.1) := by
  cases eff with
  | rejected =>
    cases st with
    | none => rfl
    | some live => simp [rejectStep, StreamPhase.of]
  | ignored | credited => rfl
  | overrun | ended => simp [endStep, StreamPhase.of]
  | closed _ fed => simp [endStep, StreamPhase.of, (HttpStreamAssembler.feedData_ok fed).1.read]
  | data _ _ fed => exact (HttpStreamAssembler.feedData_ok fed).1.read

theorem StreamEffect.no_window {fr : Frame} {st : Option CarrierStream}
    {res : StepResult} (eff : StreamEffect fr st res)
    (gone : st = none ∨ res.2.view.ends = true) (sid : UInt32) :
    res.1 = none ∧ ∀ bs ∈ res.2.view.emitted, isWindowOf sid bs = false := by
  cases eff with
  | rejected => simp [rejectStep, StreamDelta.view, isWindowOf_reset]
  | ignored => simp [StreamDelta.view]
  | overrun => simp [endStep, StreamDelta.view, isWindowOf_reset]
  | ended | closed => simp [endStep, StreamDelta.view]
  | credited => simp [StreamDelta.view, StreamView.ends] at gone
  | data _ _ fed =>
    have quiet := (HttpStreamAssembler.feedData_ok fed).1.not_ending
    rcases gone with abs | ends
    · cases abs
    · obtain ⟨ev, mem, ending⟩ := any_eq_true.mp ends
      simp [quiet ev mem] at ending

theorem streamFrames_lifecycle (sid : UInt32) {fs : List Frame}
    {en last : Option CarrierStream} {views : List StreamView}
    (ran : (streamMachine sid).run en (fs.map .frame) = some (last, views)) :
    (StreamView.join sid views).events.foldlM StreamPhase.next (.of en) = some (.of last) ∧
      ((en = none ∨ (StreamView.join sid views).ends = true) → last = none ∧
        ∀ bs ∈ (StreamView.join sid views).emitted, isWindowOf sid bs = false) := by
  induction fs generalizing en views with
  | nil =>
    cases ran
    refine ⟨rfl, fun gone => ⟨?_, by simp [StreamView.join]⟩⟩
    simpa [StreamView.join, StreamView.ends] using gone
  | cons fr fs ih =>
    obtain ⟨mid, view, rest, hs, later, rfl⟩ := (streamMachine sid).run_cons.mp ran
    obtain ⟨read, quiet⟩ := ih later
    have fst : view.events.foldlM StreamPhase.next (.of en) = some (.of mid) ∧
        ((en = none ∨ view.ends = true) → mid = none ∧ ∀ bs ∈ view.emitted, isWindowOf sid bs = false) := by
      simp only [streamMachine] at hs
      split at hs
      · cases hs
        exact ⟨rfl, fun gone => ⟨by simpa [StreamView.ends] using gone, by simp⟩⟩
      · obtain ⟨_, eff, paired⟩ := map_eq_some_iff.mp hs
        cases paired
        exact ⟨(frameStep_effect eff).read, fun gone => (frameStep_effect eff).no_window gone sid⟩
    refine ⟨?_, fun gone => ?_⟩
    · rw [StreamView.join_cons, StreamView.extend, foldlM_append, fst.1]
      exact read
    · rw [StreamView.join_cons] at gone ⊢
      simp only [StreamView.extend]
      -- Either a later frame ends the stream and retracts, or it is gone after this one.
      by_cases ends : (StreamView.join sid rest).ends = true
      · obtain ⟨dropped, none_later⟩ := quiet (Or.inr ends)
        refine ⟨dropped, fun bs mem => ?_⟩
        rw [if_pos ends] at mem
        rcases mem_append.mp mem with early | late
        · simpa [removeEmittedWindows] using (mem_filter.mp early).2
        · exact none_later bs late
      · have already : en = none ∨ view.ends = true := by
          refine gone.imp_right fun joined => ?_
          rw [StreamView.ends_extend, Bool.or_eq_true] at joined
          exact joined.resolve_right ends
        obtain ⟨abs, none_here⟩ := fst.2 already
        obtain ⟨dropped, none_later⟩ := quiet (Or.inl abs)
        refine ⟨dropped, fun bs mem => ?_⟩
        rw [if_neg ends] at mem
        rcases mem_append.mp mem with early | late
        · exact none_here bs early
        · exact none_later bs late

/-- A carrier whose owner never reuses a stream id. -/
structure Session where
  demux : CarrierDemux := {}
  used : List UInt32 := []

def sessionMachine : Machine Session CarrierCall CarrierReply where
  step session call :=
    match call with
    | .openStream sid =>
        if sid ∈ session.used then none
        else some (⟨(session.demux.call call).1, sid :: session.used⟩, (session.demux.call call).2)
    | _ => some (⟨(session.demux.call call).1, session.used⟩, (session.demux.call call).2)

theorem session_step {next : Session} (hs : sessionMachine.step session call = some (next, rep)) :
    session.demux.call call = (next.demux, rep) ∧ ((∃ sid, call = .openStream sid ∧ sid ∉ session.used ∧
          next.used = sid :: session.used) ∨ ((∀ sid, call ≠ .openStream sid) ∧ next.used = session.used)) := by
  cases call with
  | openStream sid =>
    simp only [sessionMachine] at hs
    split at hs
    · cases hs
    next fresh =>
      cases hs
      exact ⟨rfl, Or.inl ⟨sid, rfl, fresh, rfl⟩⟩
  | removeStream | feed | consume =>
    cases hs
    exact ⟨rfl, Or.inr ⟨by simp, rfl⟩⟩

def wordOf (sid : UInt32) (replies : List CarrierReply) : List StreamEvent :=
  replies.flatMap fun reply => (reply.view sid).events

/-- What the replies so far say about a stream, compared with its registration. -/
structure Tracked (sid : UInt32) (session : Session) (rs : List CarrierReply) : Prop where
  unused : sid ∉ session.used → session.demux.streams.lookup sid = none ∧ wordOf sid rs = []
  phase : ∃ phase, (wordOf sid rs).foldlM StreamPhase.next .opening = some phase ∧
    (phase = .closed → session.demux.streams.lookup sid = none ∧ sid ∈ session.used) ∧
    (session.demux.fatalViolation = none → ∀ st, session.demux.streams.lookup sid = some st → phase = .of (some st))

theorem wordOf_append (sid : UInt32) (replies : List CarrierReply) (rep : CarrierReply) :
    wordOf sid (replies ++ [rep]) = wordOf sid replies ++ (rep.view sid).events := by
  simp [wordOf]

/-- A call that reports nothing for the stream and at most forgets it. -/
theorem Tracked.silent {next : Session} (tracked : Tracked sid session replies)
    (used : next.used = session.used) (unseen : (rep.view sid).events = [])
    (abs : session.demux.streams.lookup sid = none → next.demux.streams.lookup sid = none)
    (kept : next.demux.fatalViolation = none → session.demux.fatalViolation = none ∧
      ∀ st, next.demux.streams.lookup sid = some st → ∃ pre, session.demux.streams.lookup sid = some pre ∧
          StreamPhase.of (some pre) = .of (some st)) : Tracked sid next (replies ++ [rep]) := by
  obtain ⟨unused, ph, read, closed, cur⟩ := tracked
  have same : wordOf sid (replies ++ [rep]) = wordOf sid replies := by rw [wordOf_append, unseen, append_nil]
  refine ⟨fun fresh => ?_, ph, by rw [same, read], fun ended => ?_, fun sound st hp => ?_⟩
  · rw [used] at fresh
    exact ⟨abs (unused fresh).1, same.trans (unused fresh).2⟩
  · rw [used]
    exact ⟨abs (closed ended).1, (closed ended).2⟩
  · obtain ⟨sound, still⟩ := kept sound
    obtain ⟨pre, was, agree⟩ := still st hp
    exact (cur sound pre was).trans agree

theorem Tracked.unchanged {next : Session} (tracked : Tracked sid session replies)
    (used : next.used = session.used) (unseen : (rep.view sid).events = [])
    (streams : next.demux.streams = session.demux.streams)
    (fatal : next.demux.fatalViolation = session.demux.fatalViolation) : Tracked sid next (replies ++ [rep]) :=
  tracked.silent used unseen (fun abs => streams ▸ abs) fun sound =>
    ⟨fatal ▸ sound, fun st hp => ⟨st, streams ▸ hp, rfl⟩⟩

theorem CarrierDemux.feed_lifecycle {dm next : CarrierDemux} (sid : UInt32)
    (fed : dm.feed data = (next, .ok out)) :
    (out.view sid).events.foldlM StreamPhase.next (.of (dm.streams.lookup sid)) =
        some (.of (next.streams.lookup sid)) ∧ ((dm.streams.lookup sid = none ∨ (out.view sid).ends = true) →
        next.streams.lookup sid = none ∧ ∀ bs ∈ (out.view sid).emitted, isWindowOf sid bs = false) := by
  obtain ⟨_, ran, joined⟩ := feed_view sid fed
  rw [joined]
  exact streamFrames_lifecycle sid ran

section
variable (tracked : Tracked sid session replies)
include tracked

theorem Tracked.fed {next : Session}
    (used : next.used = session.used) (fed : session.demux.feed data = (next.demux, .ok out)) :
    Tracked sid next (replies ++ [.fed (.ok out)]) := by
  obtain ⟨read, gone⟩ := feed_lifecycle sid fed
  have word := wordOf_append sid replies (.fed (.ok out))
  cases hp : session.demux.streams.lookup sid with
  | none =>
    rw [hp] at read
    have abs := (gone (Or.inl hp)).1
    refine tracked.silent used (foldlM_closed read).1 (fun _ => abs) fun sound => ⟨?_, ?_⟩
    · exact (feed_ok.mp fed).1
    · simp [abs]
  | some st =>
    obtain ⟨unused, _, pre, _, cur⟩ := tracked
    have live : sid ∈ session.used := by
      by_contra fresh
      simp [(unused fresh).1] at hp
    rw [hp, ← cur (feed_ok.mp fed).1 st hp] at read
    refine ⟨fun fresh => absurd (used ▸ live) fresh, .of (next.demux.streams.lookup sid), ?_,
      fun ended => ?_, fun _ after fnd => ?_⟩
    · rw [word, foldlM_append, pre]
      exact read
    · refine ⟨?_, used ▸ live⟩
      cases after : next.demux.streams.lookup sid with
      | none => rfl
      | some left => exact absurd (after ▸ ended) (StreamPhase.of_some_ne_closed left)
    · rw [fnd]

theorem Tracked.opened {opened : UInt32} {next : Session} (fresh : opened ∉ session.used)
    (used : next.used = opened :: session.used) (dm : next.demux = session.demux.openStream opened) :
    Tracked sid next (replies ++ [.done]) := by
  obtain ⟨unused, ph, read, closed, cur⟩ := tracked
  have word : wordOf sid (replies ++ [.done]) = wordOf sid replies := by
    rw [wordOf_append]
    exact append_nil _
  by_cases same : sid = opened
  · subst same
    refine ⟨fun abs => by simp [used] at abs, .opening, ?_, by simp, fun _ st hp => ?_⟩
    · rw [word, (unused fresh).2]
      rfl
    · rw [dm, CarrierDemux.openStream, Finmap.lookup_insert, some.injEq] at hp
      rw [← hp]
      rfl
  · have kept : next.demux.streams.lookup sid = session.demux.streams.lookup sid := by
      rw [dm]
      exact Finmap.lookup_insert_of_ne _ same
    have fatal : next.demux.fatalViolation = session.demux.fatalViolation := by rw [dm]; rfl
    refine ⟨fun abs => ?_, ph, by rw [word, read], fun ended => ?_, ?_⟩
    · rw [kept, word]
      exact unused fun mem => abs (by simp [used, mem])
    · rw [kept, used]
      exact ⟨(closed ended).1, mem_cons_of_mem _ (closed ended).2⟩
    · rw [kept, fatal]
      exact cur

theorem Tracked.removed {removed : UInt32} {next : Session} (used : next.used = session.used)
    (dm : next.demux = session.demux.removeStream removed) : Tracked sid next (replies ++ [.done]) := by
  have after : next.demux.streams.lookup sid = if sid = removed then none else session.demux.streams.lookup sid := by
    rw [dm, CarrierDemux.removeStream]
    split
    next same => rw [same, Finmap.lookup_erase]
    next ne => exact Finmap.lookup_erase_ne ne
  refine tracked.silent used rfl (fun abs => ?_) fun sound => ⟨?_, fun st hp => ?_⟩
  · rw [after, abs, ite_self]
  · rw [← sound, dm]
    rfl
  · rw [after] at hp
    split at hp
    · cases hp
    · exact ⟨st, hp, rfl⟩

theorem Tracked.failed {next : Session} {failure : Failure MuxError} (used : next.used = session.used)
    (failed : session.demux.feed data = (next.demux, .error failure)) :
    Tracked sid next (replies ++ [.fed (.error failure)]) := by
  obtain ⟨-, unchanged | ⟨fs, dec, violation, hd, fatal⟩⟩ := feed_error failed
  · exact tracked.unchanged used rfl unchanged.1 unchanged.2
  · exact tracked.silent used rfl (fun abs => feedFrames_absent hd abs)
      fun sound => by simp [fatal] at sound

theorem Tracked.consumed {consumed : UInt32} {bs : Nat} {next : Session}
    {res : Except (Failure MuxError) (Option Bytes)} (used : next.used = session.used)
    (done : session.demux.consume consumed bs = (next.demux, res)) :
    Tracked sid next (replies ++ [.consumed res]) := by
  rcases session.demux.consume_cases consumed bs with ⟨-, case⟩ | ⟨st, -, -, case⟩ |
    ⟨st, win, grant, hp, -, case⟩
  · obtain ⟨dm, rfl⟩ := Prod.mk.inj (case.symm.trans done)
    exact tracked.unchanged used rfl (by rw [dm]) (by rw [dm])
  · obtain ⟨dm, rfl⟩ := Prod.mk.inj (case.symm.trans done)
    exact tracked.unchanged used rfl (by rw [dm]) (by rw [dm])
  · obtain ⟨dm, rfl⟩ := Prod.mk.inj (case.symm.trans done)
    -- The entry changes in its window only, which no phase looks at.
    refine tracked.silent used ?_ (fun abs => ?_) fun sound => ⟨?_, fun after fnd => ?_⟩
    · cases grant <;> rfl
    · have ne : sid ≠ consumed := by
        intro same
        rw [← same, abs] at hp
        cases hp
      rw [← dm]
      exact (Finmap.lookup_insert_of_ne _ ne).trans abs
    · rw [← sound, ← dm]
    · rw [← dm] at fnd
      by_cases same : sid = consumed
      · subst same
        rw [Finmap.lookup_insert, some.injEq] at fnd
        exact ⟨st, hp, by rw [← fnd]; rfl⟩
      · rw [Finmap.lookup_insert_of_ne _ same] at fnd
        exact ⟨after, fnd, rfl⟩

theorem Tracked.step {next : Session} (hs : sessionMachine.step session call = some (next, rep)) :
    Tracked sid next (replies ++ [rep]) := by
  obtain ⟨called, ⟨opened, rfl, fresh, used⟩ | ⟨others, used⟩⟩ := session_step hs
  · obtain ⟨dm, rfl⟩ := Prod.mk.inj called
    exact tracked.opened fresh used dm.symm
  · cases call with
    | openStream opened => exact absurd rfl (others opened)
    | removeStream removed =>
      obtain ⟨dm, rfl⟩ := Prod.mk.inj called
      exact tracked.removed used dm.symm
    | feed data =>
      obtain ⟨dm, rfl⟩ := Prod.mk.inj called
      cases res : (session.demux.feed data).2 with
      | ok => exact tracked.fed used (Prod.ext dm res)
      | error => exact tracked.failed used (Prod.ext dm res)
    | consume consumed =>
      obtain ⟨dm, rfl⟩ := Prod.mk.inj called
      exact tracked.consumed used (Prod.ext dm rfl)

end

/-- The encoded frames a reply hands out for writing. -/
def CarrierReply.written : CarrierReply → List Bytes
  | fed (.ok out) => out.emitFrames
  | consumed (.ok (some bytes)) => [bytes]
  | _ => []

def CarrierReply.Grants (reply : CarrierReply) (sid : UInt32) : Prop :=
  ∃ bytes ∈ reply.written, isWindowOf sid bytes = true

theorem CarrierReply.not_grants (none_seen : ∀ bs ∈ (rep.view sid).emitted, isWindowOf sid bs = false) :
    ¬ rep.Grants sid := by
  rintro ⟨bs, mem, win⟩
  have own : isFrameOf sid bs = true := by rw [isFrameOf_of_isWindowOf _ win, beq_self_eq_true]
  have seen : bs ∈ (rep.view sid).emitted := by
    match rep, mem with
    | .fed (.ok out), mem => exact mem_filter.mpr ⟨mem, own⟩
    | .consumed (.ok (some sent)), mem => exact mem_filter.mpr ⟨mem, own⟩
  simp [none_seen bs seen] at win

/-- A stream that is over stays over, and no call grants credit for it. -/
theorem session_gone {next : Session} (gone : session.demux.streams.lookup sid = none ∧ sid ∈ session.used)
    (hs : sessionMachine.step session call = some (next, rep)) :
    (next.demux.streams.lookup sid = none ∧ sid ∈ next.used) ∧ ¬ rep.Grants sid := by
  obtain ⟨abs, spent⟩ := gone
  obtain ⟨called, cases⟩ := session_step hs
  have still : sid ∈ next.used := by rcases cases with ⟨opened, -, -, used⟩ | ⟨-, used⟩ <;> simp [used, spent]
  cases call with
  | openStream opened =>
    rcases cases with ⟨_, same, fresh, -⟩ | ⟨others, -⟩
    · cases same
      obtain ⟨dm, rfl⟩ := Prod.mk.inj called
      rw [← dm]
      have ne : sid ≠ opened := fun same => fresh (same ▸ spent)
      exact ⟨⟨(Finmap.lookup_insert_of_ne _ ne).trans abs, still⟩, not_grants (by simp [CarrierReply.view])⟩
    · exact absurd rfl (others opened)
  | removeStream removed =>
    obtain ⟨dm, rfl⟩ := Prod.mk.inj called
    rw [← dm]
    refine ⟨⟨?_, still⟩, not_grants (by simp [CarrierReply.view])⟩
    by_cases same : sid = removed
    · rw [same]
      exact Finmap.lookup_erase _ _
    · exact (Finmap.lookup_erase_ne same).trans abs
  | feed data =>
    obtain ⟨dm, rfl⟩ := Prod.mk.inj called
    cases res : (session.demux.feed data).2 with
    | ok =>
      obtain ⟨abs, quiet⟩ := (feed_lifecycle sid (Prod.ext dm res)).2 (Or.inl abs)
      exact ⟨⟨abs, still⟩, not_grants quiet⟩
    | error =>
      refine ⟨⟨?_, still⟩, not_grants (by simp [CarrierReply.view])⟩
      obtain ⟨-, unchanged | ⟨fs, dec, violation, hd, -⟩⟩ := feed_error (Prod.ext dm res)
      · rw [unchanged.1, abs]
      · exact feedFrames_absent hd abs
  | consume consumed bs =>
    obtain ⟨dm, rfl⟩ := Prod.mk.inj called
    by_cases same : consumed = sid
    · subst same
      have done : session.demux.consume consumed bs = (session.demux, .ok none) := by simp [CarrierDemux.consume, abs]
      rw [done] at dm ⊢
      exact ⟨⟨dm ▸ abs, still⟩, not_grants (by simp [CarrierReply.view])⟩
    · obtain ⟨kept, unseen⟩ := consume_other session.demux (Ne.symm same) bs
      refine ⟨⟨?_, still⟩, not_grants (by simp [unseen])⟩
      rw [← dm, kept, abs]

/-- The call that reports the end of a stream forgets it and hands out no grant for it. -/
theorem session_ended {next : Session} (tracked : Tracked sid session replies)
    (hs : sessionMachine.step session call = some (next, .fed (.ok out))) (ends : (out.view sid).ends = true) :
    (next.demux.streams.lookup sid = none ∧ sid ∈ next.used) ∧ ¬ (CarrierReply.fed (.ok out)).Grants sid := by
  obtain ⟨called, cases⟩ := session_step hs
  cases call with
  | feed =>
    simp only [CarrierDemux.call, Prod.mk.injEq, CarrierReply.fed.injEq] at called
    obtain ⟨read, gone⟩ := feed_lifecycle sid (Prod.ext called.1 called.2)
    obtain ⟨abs, quiet⟩ := gone (Or.inr ends)
    refine ⟨⟨abs, ?_⟩, not_grants quiet⟩
    by_contra fresh
    rcases cases with ⟨_, opening, -⟩ | ⟨-, used⟩
    · cases opening
    · -- An id never opened is not registered, and then the batch reports nothing for it.
      rw [used] at fresh
      rw [(tracked.unused fresh).1] at read
      simp [StreamView.ends, (foldlM_closed read).1] at ends
  | openStream | removeStream | consume => simp [CarrierDemux.call] at called

/-- Over every run of calls with fresh stream ids, the events of a stream are a head,
bodies and one end, in order; from the call that reports the end on, nothing that is
handed out grants the peer credit for the stream. -/
theorem carrier_lifecycle (streamId : UInt32) {calls : List CarrierCall} {session : Session}
    {replies : List CarrierReply} (ran : sessionMachine.run {} calls = some (session, replies)) :
    Lifecycle (replies.flatMap fun reply => (reply.view streamId).events) ∧
      ∀ early out late, replies = early ++ .fed (.ok out) :: late →
        (∃ event, (streamId, event) ∈ out.streamEvents ∧ event.isEnding = true) →
        ∀ reply ∈ CarrierReply.fed (.ok out) :: late, ¬ reply.Grants streamId := by
  have start : Tracked streamId {} [] :=
    ⟨fun _ => ⟨rfl, rfl⟩, .opening, rfl, by simp, fun _ stream present => by cases present⟩
  have tracked {calls session replies} (ran : sessionMachine.run {} calls = some (session, replies)) :
      Tracked streamId session replies :=
    sessionMachine.run_history (motive := fun session _ replies => Tracked streamId session replies)
      start (fun tracked stepped => tracked.step stepped) ran
  refine ⟨?_, fun early out late split ⟨event, member, ending⟩ => ?_⟩
  · obtain ⟨-, _, read, -⟩ := tracked ran
    exact lifecycle_of_read read
  · subst split
    obtain ⟨_, _, _, _, _, rfl, ranBefore, stepped, ranAfter⟩ := sessionMachine.run_split ran
    have ends : (out.view streamId).ends = true :=
      (out.ends_view streamId).mpr (mem_map.mpr ⟨_, mem_filter.mpr ⟨member, ending⟩, rfl⟩)
    obtain ⟨exceeds, quiet⟩ := session_ended (tracked ranBefore) stepped ends
    have later := sessionMachine.run_history (motive := fun session _ replies =>
      (session.demux.streams.lookup streamId = none ∧ streamId ∈ session.used) ∧
        ∀ reply ∈ replies, ¬ reply.Grants streamId) ⟨exceeds, by simp⟩
      (fun held stepped => ⟨(session_gone held.1 stepped).1, by
        intro reply member
        rcases mem_append.mp member with early | last
        · exact held.2 reply early
        · rw [mem_singleton.mp last]
          exact (session_gone held.1 stepped).2⟩) ranAfter
    exact forall_mem_cons.mpr ⟨quiet, later.2⟩

/-- A response that ends in the call that delivers it. -/
theorem carrier_lifecycle_response : ∃ session replies, sessionMachine.run {} [.openStream 1,
        .feed (sampleResponse ++ Frame.wire ⟨1, flagClose, []⟩), .consume 1 2] = some (session, replies) ∧
      (replies.flatMap fun reply => (reply.view 1).events).length = 3 ∧
      Lifecycle (replies.flatMap fun reply => (reply.view 1).events) := by
  refine Machine.exists_run (fun result => (result.2.flatMap fun reply => (reply.view 1).events).length)
    3 (by decide +kernel) fun session replies ran three => ?_
  exact ⟨three, (carrier_lifecycle 1 ran).1⟩

end SplRust.Core
