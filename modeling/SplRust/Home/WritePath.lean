import SplRust.Home.ConnectionRun

/-! The write path of a carrier: what the driver writes for a stream, against what its handle was
given. -/

namespace SplRust.Home
open SplRust.Lib SplRust.Core List Option

/-- The bytes that `poll_write` accepted for the stream. -/
def acceptedBy (sid : UInt32) (replies : List ConnectionReply) : Bytes :=
  replies.flatMap (ConnectionReply.acceptedBytes sid)

namespace Connection
variable {limits : MuxLimits} {conn next : Connection} {replies : List ConnectionReply}
  {call : ConnectionCall} {opened : UInt32}

theorem pollRead_tells (conn : Connection) (sid : UInt32) (hdl : HomeStream) (st : DriverStream)
    (capacity : Nat) : Tells sid (conn.pollRead sid hdl st capacity).2 := by
  unfold pollRead
  cases readLoop capacity (!conn.receiving) st.signals st.status.state hdl with
  | mk _ _ _ res =>
    cases res with
    | bytes bytes =>
      simp only
      split
      · exact .inr (.inl ⟨bytes, rfl⟩)
      · exact .inl rfl
    | ended => exact .inr (.inr (.inl rfl))
    | waiting | failed => exact .inl rfl

theorem pollWrite_tells (conn : Connection) (sid : UInt32) (hdl : HomeStream) (st : DriverStream)
    (bs : Bytes) (waker : Nat) : Tells sid (conn.pollWrite sid hdl st bs waker).2 := by
  unfold pollWrite
  cases st.status.reserveStaging bs.length waker with | mk status staged => ?_
  simp only
  split_ifs
  all_goals first
    | exact .inl rfl
    | exact .inr (.inr (.inr (.inl ⟨_, rfl⟩)))

theorem pollShutdown_tells (conn : Connection) (sid : UInt32) (hdl : HomeStream) (st : DriverStream) :
    Tells sid (conn.pollShutdown sid hdl st).2 := by
  unfold pollShutdown
  split_ifs
  all_goals first
    | exact .inl rfl
    | exact .inr (.inr (.inr (.inr rfl)))

theorem Tells.not_handedOut {oid : UInt32} (tells : Tells oid (.handedOut opened)) : False := by
  rcases tells with done | ⟨_, ret⟩ | ended | ⟨_, accepted⟩ | shut
  · cases done
  · cases ret
  · cases ended
  · cases accepted
  · cases shut

theorem advance_opened (advanced : conn.advance = some (next, some opened)) :
    ∃ events resume, conn.phase = .delivering false [] (.opened opened :: events) resume ∧
      next = conn.deliverEvent events resume (.opened opened) := by
  revert advanced
  fun_cases advance conn with
  | case3 ev events resume ph =>
    cases ev with
    | opened =>
      rintro ⟨⟩
      exact ⟨events, resume, ph, rfl⟩
    | _ => rintro ⟨⟩
  | _ => rintro ⟨⟩

theorem handedOut_step (hs : conn.step call = some (next, .handedOut opened)) :
    ∃ events resume, conn.phase = .delivering false [] (.opened opened :: events) resume ∧
      next = conn.deliverEvent events resume (.opened opened) ∧ opened ∈ next.handles := by
  revert hs
  fun_cases step conn call with
  | case11 after sid advanced =>
    intro hs
    simp only [some.injEq, Prod.mk.injEq] at hs
    obtain ⟨rfl, told⟩ := hs
    split_ifs at told with known
    cases told
    obtain ⟨events, resume, ph, delivered⟩ := advance_opened advanced
    exact ⟨events, resume, ph, delivered, known⟩
  | case21 sid capacity =>
    intro hs
    obtain ⟨hdl, st, -, -, done⟩ := onHandle_some hs
    have tells := pollRead_tells conn sid hdl st capacity
    rw [done] at tells
    exact tells.not_handedOut.elim
  | case22 sid bs waker =>
    intro hs
    obtain ⟨hdl, st, -, -, done⟩ := onHandle_some hs
    have tells := pollWrite_tells conn sid hdl st bs waker
    rw [done] at tells
    exact tells.not_handedOut.elim
  | case23 sid =>
    intro hs
    obtain ⟨hdl, st, -, -, done⟩ := onHandle_some hs
    have tells := pollShutdown_tells conn sid hdl st
    rw [done] at tells
    exact tells.not_handedOut.elim
  | case24 | case25 =>
    intro hs
    obtain ⟨_, _, -, -, ⟨⟩⟩ := onHandle_some hs
  | _ => rintro ⟨⟩

/-- When a stream is handed out, all frames put out before are written. -/
theorem Reached.handedOut (reached : conn.Reached limits replies)
    (hs : conn.step call = some (next, .handedOut opened)) :
    next.phase.running = true ∧ next.phase.outgoing = [] ∧ next.streams.lookup opened ≠ none := by
  obtain ⟨events, resume, ph, rfl, known⟩ := handedOut_step hs
  have goes : resume ≠ .finish := fun finishes =>
    by cases (reached.controlled.finishing ph finishes).2.2 _ mem_cons_self
  have hr := running_delivering ph goes
  have new : conn.streams.lookup opened = none := by
    obtain ⟨frames, -, sound⟩ := reached.sound opened
    have next : (conn.lane opened replies frames).coming = .opened opened :: eventsFor opened events := by
      simp only [lane, hr, cond_true]
      rw [ph]
      simp [DriverPhase.coming, eventsFor, MuxEvent.streamId]
    exact (sound.opening.delivers hr next).mpr ⟨opened, rfl⟩
  have unheld : opened ∉ conn.handles := by
    obtain ⟨_, -, sound⟩ := reached.sound opened
    rw [Table.mem_iff_lookup, not_not]
    exact (sound.opening.blank new).handle
  by_cases gone : conn.ownerGone = true
  · simp only [deliverEvent, gone, if_true] at known
    exact absurd known unheld
  · simp only [deliverEvent, gone]
    refine ⟨by simpa [DriverPhase.running] using goes, rfl, ?_⟩
    have found : (conn.streams.insert opened {}).lookup opened = some {} := Finmap.lookup_insert _
    exact found ▸ some_ne_none _

theorem lane_frames (conn : Connection) (sid : UInt32) (replies : List ConnectionReply)
    (frames : List Frame) : (conn.lane sid replies frames).frames =
      framesOf sid conn.written ++ framesOf sid frames := framesOf_append ..

section
variable (reached : conn.Reached limits replies)
include reached

theorem Reached.data (sid : UInt32) : dataOf (framesOf sid conn.written) <+: acceptedBy sid replies := by
  obtain ⟨_, -, sound⟩ := reached.sound sid
  refine List.IsPrefix.trans ?_ sound.writing.sent
  rw [lane_frames, dataOf, dataOf, flatMap_append]
  exact prefix_append _ _

theorem Reached.closes {sid : UInt32}
    {pre after : List Frame} {fr : Frame} (put : conn.written = pre ++ fr :: after)
    (own : fr.streamId = sid) (closes : fr.flags &&& flagClose ≠ 0) : .shutDown sid ∈ replies ∧
      dataOf (framesOf sid pre) = acceptedBy sid replies := by
  obtain ⟨frames, -, sound⟩ := reached.sound sid
  have split : (conn.lane sid replies frames).frames = framesOf sid pre ++
      fr :: (framesOf sid after ++ framesOf sid frames) := by
    rw [lane_frames, put]
    simp [framesOf, own]
  obtain ⟨whole, -, asked, -⟩ := sound.writing.closes _ _ _ split closes
  exact ⟨of_decide_eq_true asked, whole⟩

theorem Reached.since {last : Connection} {calls : List ConnectionCall} {told : List ConnectionReply} (hr : conn.phase.running = true)
    (written : conn.phase.outgoing = []) {sid : UInt32} (hp : conn.streams.lookup sid ≠ none)
    (ran : connectionMachine.run conn calls = some (last, told)) : ∃ later, last.written = conn.written ++ later ∧
      (framesOf sid later).Pairwise (fun first second =>
        Lane.Ends first.flags → ¬ Lane.Carries second.flags) ∧ (sid ∉ conn.acceptor.streams →
        ∀ fr ∈ framesOf sid later, ¬ Lane.Carries fr.flags) := by
  obtain ⟨-, path, later, whole⟩ := reached.runs ran
  obtain ⟨_, known, sound⟩ := reached.sound sid
  rw [known hr, written] at sound
  have start : (conn.lane sid replies []).Since (sid ∉ conn.acceptor.streams) (framesOf sid conn.written) := by
    refine ⟨hp, [], by simp [lane], List.Pairwise.nil, fun _ => (by rintro _ ⟨⟩), ?_⟩
    rintro (gone | ⟨fr, mem, -⟩)
    · apply Lane.not_canSend
      simp only [lane, hr, cond_true]
      rwa [Table.mem_iff_lookup, not_not] at gone
    · cases mem
  obtain ⟨after, -, run⟩ := path sid [] fun _ => written.symm
  obtain ⟨-, late, put, apart, silent, -⟩ := sound.since start run
  have parts : framesOf sid later ++ framesOf sid after = late := by
    rw [lane_frames, ← whole, framesOf_append, append_assoc] at put
    exact append_cancel_left put
  rw [← parts] at apart silent
  exact ⟨later, whole.symm, (pairwise_append.mp apart).1, fun gone fr mem =>
    silent gone fr (mem_append_left _ mem)⟩

end

/-- In every run, what is written for a stream is a first part of what its handle was given; a close
comes after a shutdown and ends everything given; nothing of a stream handed out follows its close or
reset, and nothing at all comes if the acceptor had dropped it. -/
theorem written_in_order {acceptor : MuxAcceptor} {last : Connection} {calls : List ConnectionCall}
    (made : MuxAcceptor.new limits = .ok acceptor)
    (ran : connectionMachine.run { acceptor := acceptor } calls = some (last, replies))
    (streamId : UInt32) :
    dataOf (framesOf streamId last.written) <+: acceptedBy streamId replies ∧
    (∀ before frame after, last.written = before ++ frame :: after → frame.streamId = streamId →
      frame.flags &&& flagClose ≠ 0 → .shutDown streamId ∈ replies ∧
        dataOf (framesOf streamId before) = acceptedBy streamId replies) ∧
    (∀ early late mid said told, connectionMachine.run { acceptor := acceptor } early =
        some (mid, said ++ [.handedOut streamId]) →
      connectionMachine.run mid late = some (last, told) →
      ∃ later, last.written = mid.written ++ later ∧ (framesOf streamId later).Pairwise (fun first second =>
          Lane.Ends first.flags → ¬ Lane.Carries second.flags) ∧
        (streamId ∉ mid.acceptor.streams → ∀ frame ∈ framesOf streamId later, ¬ Lane.Carries frame.flags)) := by
  have reached := Reached.run made ran
  refine ⟨reached.data streamId, fun before frame after put own closes =>
    reached.closes put own closes, fun early late mid said told first second => ?_⟩
  have there := Reached.run made first
  obtain ⟨_, _, rest, _, _, -, earlier, stepped, nothing⟩ := connectionMachine.run_split first
  obtain rfl : rest = [] := length_eq_zero_iff.mp (connectionMachine.run_length nothing)
  cases nothing
  obtain ⟨running, written, present⟩ := (Reached.run made earlier).handedOut stepped
  exact there.since running written present second

/-- A stream that is opened, written to and shut down. -/
theorem written_in_order_shut_down : ∃ acceptor last replies, MuxAcceptor.new {} = .ok acceptor ∧
    connectionMachine.run { acceptor := acceptor }
      ([.read [0, 0, 0, 1, 1, 0, 0, 0]] ++ List.replicate 3 .advance ++
        [.pollWrite 1 [7, 8] 0, .pollShutdown 1, .command] ++ List.replicate 5 .advance ++
        [.command] ++ List.replicate 4 .advance) = some (last, replies) ∧
    last.written = [⟨1, flagData, [7, 8]⟩, ⟨1, flagClose, []⟩] ∧
    .shutDown 1 ∈ replies ∧ acceptedBy 1 replies = [7, 8] := by
  have made : MuxAcceptor.new {} = .ok (WirePhase.start.hold { limits := {} }) := rfl
  have evaluated : (connectionMachine.run { acceptor := WirePhase.start.hold { limits := {} } }
      ([.read [0, 0, 0, 1, 1, 0, 0, 0]] ++ List.replicate 3 .advance ++
        [.pollWrite 1 [7, 8] 0, .pollShutdown 1, .command] ++ List.replicate 5 .advance ++
        [.command] ++ List.replicate 4 .advance)).map (fun result => result.1.written) =
      some [⟨1, flagData, [7, 8]⟩, ⟨1, flagClose, []⟩] := by
    decide +kernel
  obtain ⟨⟨last, replies⟩, ran, written⟩ := map_eq_some_iff.mp evaluated
  obtain ⟨asked, whole⟩ := (written_in_order made ran 1).2.1 [⟨1, flagData, [7, 8]⟩]
    ⟨1, flagClose, []⟩ [] written rfl (by decide)
  exact ⟨_, last, replies, made, ran, written, asked, whole.symm⟩

/-- Bytes of a stream that the peer has not opened draw a reset; if the same read then opens the
stream, the reset is written after the opening was accepted, and the bytes of the stream
follow it. -/
theorem reset_written_after_opening : ∃ acceptor mid last output told later, MuxAcceptor.new {} = .ok acceptor ∧
    connectionMachine.run { acceptor := acceptor }
      [.read ([0, 0, 0, 5, 2, 0, 0, 1, 1] ++ [0, 0, 0, 5, 1, 0, 0, 0])] = some (mid, [.fed output]) ∧
    .opened 5 ∈ output.events ∧
    connectionMachine.run mid (List.replicate 5 .advance ++ [.pollWrite 5 [7] 0, .command] ++
      List.replicate 3 .advance) = some (last, told) ∧
    last.written = mid.written ++ later ∧
    ¬ (framesOf 5 later).Pairwise fun first second =>
      Lane.Ends first.flags → ¬ Lane.Carries second.flags := by
  have fed : (connectionMachine.run { acceptor := WirePhase.start.hold { limits := {} } }
      [.read ([0, 0, 0, 5, 2, 0, 0, 1, 1] ++ [0, 0, 0, 5, 1, 0, 0, 0])]).map
        (fun result => (result.1.written, result.2)) =
      some ([], [.fed {
        frames := [.reset 5 RefusalClass.protocol.resetCode], events := [.opened 5]
        refusals := [⟨.protocol, some ⟨5, flagData, 1⟩⟩] }]) := by
    decide +kernel
  have whole : (connectionMachine.run { acceptor := WirePhase.start.hold { limits := {} } }
      ([.read ([0, 0, 0, 5, 2, 0, 0, 1, 1] ++ [0, 0, 0, 5, 1, 0, 0, 0])] ++
        (List.replicate 5 .advance ++ [.pollWrite 5 [7] 0, .command] ++
          List.replicate 3 .advance))).map (fun result => result.1.written) =
      some [.reset 5 RefusalClass.protocol.resetCode, ⟨5, flagData, [7]⟩] := by
    decide +kernel
  obtain ⟨⟨last, _⟩, ran, written⟩ := map_eq_some_iff.mp whole
  obtain ⟨mid, _, told, first, second, -⟩ := connectionMachine.run_append.mp ran
  rw [first] at fed
  simp only [map_some, some.injEq, Prod.mk.injEq] at fed
  obtain ⟨nothing, rfl⟩ := fed
  refine ⟨_, mid, last, _, told, last.written, rfl, first, mem_cons_self, second, ?_, ?_⟩
  · rw [nothing, nil_append]
  · simp only at written
    rw [written]
    decide

end Connection

end SplRust.Home
