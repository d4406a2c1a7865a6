import SplRust.Home.ConnectionRun

/-! What a carrier's driver keeps at the start of each iteration of its loop: which streams it
will serve, what they have staged, and which it has not forgotten. -/

namespace SplRust.Home
open SplRust.Lib SplRust.Core List Option

namespace Lane
variable {sid : UInt32} {lane next : Lane}

/-- A driver that has left its loop does not enter it again, and a known stream stays known and
does not get a second handle. -/
structure Onward (lane next : Lane) : Prop where
  running : next.running = true → lane.running = true
  present : lane.stream ≠ none → next.stream ≠ none
  unheld : lane.stream ≠ none → lane.handle = none → next.handle = none

theorem Opening.onward (opening : lane.Opening) (hs : LaneStep sid lane next) : lane.Onward next := by
  cases hs with
  | control | passed | refused | opened | data | closed | peerReset | credited | consumed
  | consumedLate | write | close | dropEmpty | flushClose | flushCloseLate | flushIdle | flushSent
  | flushWithheld | finished | ended | shutAgain => exact ⟨id, id, fun _ => id⟩
  | givenUp | givenUpLate | flushDead => exact ⟨id, mt discard_absent.mp, fun _ => id⟩
  | flushLate => exact ⟨id, fun hp => mt discard_absent.mp hp, fun _ => id⟩
  | sentMore | sentLast => exact ⟨id, mt map_eq_none_iff.mp, fun _ => id⟩
  | handOut hr coming =>
    refine ⟨id, fun _ => some_ne_none _, fun hp _ => ?_⟩
    exact absurd ((opening.delivers hr coming).mpr ⟨sid, rfl⟩) hp
  | ownerGone => exact ⟨(by rintro ⟨⟩), fun _ => some_ne_none _, fun _ => id⟩
  | signalData | signalEof =>
    rw [signal_eq]
    exact ⟨id, mt signal_absent.mp, fun _ => id⟩
  | signalReset | told =>
    rw [signal_eq]
    exact ⟨id, fun hp => mt signal_absent.mp (mt updateStatus_absent.mp hp), fun _ => id⟩
  | stop => exact ⟨(by rintro ⟨⟩), id, fun _ => id⟩
  | rewoken => exact ⟨id, fun _ => some_ne_none _, fun _ => id⟩
  | takeData held | takeEof held | takeEnd _ _ held | takeClosed _ held | accepted _ _ held =>
    exact ⟨id, fun _ => some_ne_none _, fun _ unheld => by simp [held] at unheld⟩
  | cleared held | returned _ _ held | lost _ _ held | shut _ held | resetAsked _ held =>
    exact ⟨id, id, fun _ unheld => by simp [held] at unheld⟩
  | dropped => exact ⟨id, id, fun _ _ => rfl⟩

theorem Sound.onward (sound : lane.Sound sid)
    (path : Relation.ReflTransGen (LaneStep sid) lane next) : lane.Onward next := by
  induction path with
  | refl => exact ⟨id, id, fun _ => id⟩
  | tail path hs ih =>
    have step := (sound.run path).opening.onward hs
    exact ⟨fun runs => ih.running (step.running runs), fun hp => step.present (ih.present hp),
      fun hp unheld => step.unheld (ih.present hp) (ih.unheld hp unheld)⟩

end Lane

namespace Connection
variable {limits : MuxLimits} {conn next last : Connection} {rs : List ConnectionReply}
  {call : ConnectionCall} {rep : ConnectionReply} {calls : List ConnectionCall}

theorem Reached.onward (reached : conn.Reached limits rs)
    (hs : conn.step call = some (next, rep)) (sid : UInt32) :
    (next.phase.running = true → conn.phase.running = true) ∧ (sid ∈ conn.streams → sid ∈ next.streams) ∧
    (sid ∈ conn.streams → sid ∉ conn.handles → sid ∉ next.handles) := by
  obtain ⟨fs, known, sound⟩ := reached.sound sid
  obtain ⟨_, -, path⟩ := (reached.moves hs).2 sid fs known
  obtain ⟨hr, hp, unheld⟩ := sound.onward path
  simp only [Table.mem_iff_lookup, not_not]
  exact ⟨hr, hp, unheld⟩

/-- Which streams the driver knows: those whose handle is still there and those whose handle was
dropped. -/
structure Remembers (calls : List ConnectionCall) (conn : Connection) : Prop where
  dropped : ∀ sid, .drop sid ∈ calls → sid ∈ conn.streams ∧ sid ∉ conn.handles
  known : conn.phase.running = true → ∀ sid ∈ conn.streams, sid ∈ conn.handles ∨ .drop sid ∈ calls

theorem Remembers.step (remembers : conn.Remembers calls) (reached : conn.Reached limits rs)
    (hs : conn.step call = some (next, rep)) : next.Remembers (calls ++ [call]) where
  dropped sid member := by
    obtain ⟨-, hp, unheld⟩ := reached.onward hs sid
    rcases mem_append.mp member with pre | now
    · obtain ⟨there, gone⟩ := remembers.dropped sid pre
      exact ⟨hp there, unheld there gone⟩
    · obtain rfl := mem_singleton.mp now
      obtain ⟨_, _, -, found, done⟩ := onHandle_some hs
      cases done
      have there : sid ∈ conn.streams := by
        rw [Table.mem_iff_lookup, found]
        exact some_ne_none _
      refine ⟨hp there, ?_⟩
      unfold dropStream
      simp only
      split <;> exact Finmap.notMem_erase_self
  known runs sid there := by
    have framed := step_framed hs
    rcases framed.streams runs sid there with pre | held
    · rcases remembers.known ((reached.onward hs sid).1 runs) sid pre with
        held | dropped
      · by_cases drops : call = .drop sid
        · exact .inr (mem_append_right _ (drops ▸ mem_cons_self))
        · exact .inl (framed.handles sid held drops)
      · exact .inr (mem_append_left _ dropped)
    · exact .inl held

theorem Remembers.run {acc : MuxAcceptor} (made : MuxAcceptor.new limits = .ok acc)
    (ran : connectionMachine.run { acceptor := acc } calls = some (last, rs)) :
    last.Remembers calls := by
  refine (connectionMachine.run_history (motive := fun conn calls rs =>
    conn.Reached limits rs ∧ conn.Remembers calls) ⟨.start made, (by rintro _ ⟨⟩), (by rintro _ _ ⟨⟩)⟩ ?_ ran).2
  rintro _ _ _ _ _ _ ⟨reached, remembers⟩ hs
  exact ⟨reached.step hs, remembers.step reached hs⟩

/-- Whatever the driver keeps for a stream, it keeps the stream itself. -/
theorem Reached.kept (reached : conn.Reached limits rs) {sid : UInt32}
    (kept : sid ∈ conn.streams ∨ sid ∈ conn.pending ∨ sid ∈ conn.closing) : sid ∈ conn.streams := by
  obtain ⟨_, -, sound⟩ := reached.sound sid
  by_contra absent
  rw [Table.mem_iff_lookup, not_not] at absent
  have blank := sound.opening.blank absent
  rcases kept with known | pending | closing
  · exact Table.mem_iff_lookup.mp known absent
  · exact Table.mem_iff_lookup.mp pending blank.pending
  · exact of_decide_eq_false blank.closing closing

/-- At the start of every iteration of the driver's loop, a stream with pending bytes is in the ready
queue or waits for credit; the queue holds no stream twice, and commands wait while it is not empty;
what a stream has staged is in its queued writes or pending. -/
theorem parked_in_order {acceptor : MuxAcceptor} (made : MuxAcceptor.new limits = .ok acceptor)
    (ran : connectionMachine.run { acceptor := acceptor } calls = some (last, replies))
    (parked : last.phase = .parked) :
    (∀ streamId entry queue, last.acceptor.streams.lookup streamId = some entry →
      last.pending.lookup streamId = some queue → queue ≠ [] →
      streamId ∈ last.ready ∨ entry.sendCredit < min recommendedChunk queue.length) ∧
    last.ready.Nodup ∧ (last.ready ≠ [] → last.commands ≠ []) ∧
    (∀ streamId stream, last.streams.lookup streamId = some stream →
      stream.status.stagedBytes = (writesOf (commandsOf streamId last.commands)).length +
          ((last.pending.lookup streamId).getD []).length ∧
        stream.status.stagedBytes ≤ 2 ^ 20) := by
  have reached := Reached.run made ran
  have quiet := quiet_parked parked
  have sound := reached.lanes parked
  refine ⟨fun streamId entry queue live waiting nonempty => ?_, reached.controlled.distinct,
    fun waiting => ?_, fun streamId stream present => ⟨?_, ?_⟩⟩
  · have credited := (sound streamId).staged.credit quiet.lane_running quiet.lane_held entry queue
      (quiet.lane_entry.trans live) waiting nonempty
    rw [min_comm]
    exact credited.imp_left of_decide_eq_true
  · have fits := reached.controlled.fits
    rw [parked] at fits
    exact ne_nil_of_mem (fits waiting)
  · have counted := (sound streamId).staged.counted quiet.lane_running stream present
    rw [Lane.count, quiet.lane_held] at counted
    exact counted
  · exact (sound streamId).staged.room quiet.lane_running stream present

/-- Two bytes were accepted, and their write is still queued. -/
theorem parked_in_order_written : ∃ acceptor last replies, MuxAcceptor.new {} = .ok acceptor ∧
    connectionMachine.run { acceptor := acceptor }
      ([.read [0, 0, 0, 1, 1, 0, 0, 0]] ++ List.replicate 3 .advance ++
        [.pollWrite 1 [7, 8] 0]) = some (last, replies) ∧
    last.phase = .parked ∧ last.ready.Nodup ∧
    ∃ stream, last.streams.lookup 1 = some stream ∧ stream.status.stagedBytes = 2 := by
  have made : MuxAcceptor.new {} = .ok (WirePhase.start.hold { limits := {} }) := rfl
  have evaluated : (connectionMachine.run { acceptor := WirePhase.start.hold { limits := {} } }
      ([.read [0, 0, 0, 1, 1, 0, 0, 0]] ++ List.replicate 3 .advance ++ [.pollWrite 1 [7, 8] 0])).map (fun result =>
          (decide (result.1.phase = .parked), result.1.commands, result.1.pending.lookup 1,
            result.1.streams.lookup 1)) =
      some (true, [.write 1 [7, 8]], none, some { status := { stagedBytes := 2 } }) := by
    decide +kernel
  obtain ⟨⟨last, replies⟩, ran, values⟩ := map_eq_some_iff.mp evaluated
  simp only [Prod.mk.injEq, decide_eq_true_eq] at values
  obtain ⟨parked, -, -, present⟩ := values
  exact ⟨_, last, replies, made, ran, parked, (parked_in_order made ran parked).2.1, _, present, rfl⟩

/-- The driver forgets streams exactly as long as no stream whose handle was dropped has left the
acceptor. -/
theorem forgotten_iff {acceptor : MuxAcceptor} (made : MuxAcceptor.new limits = .ok acceptor)
    (ran : connectionMachine.run { acceptor := acceptor } calls = some (last, replies))
    (parked : last.phase = .parked) :
    (∀ streamId, streamId ∈ last.streams ∨ streamId ∈ last.pending ∨ streamId ∈ last.closing →
      streamId ∈ last.acceptor.streams ∨ streamId ∈ last.handles) ↔
    ∀ streamId, .drop streamId ∈ calls → streamId ∈ last.acceptor.streams := by
  have reached := Reached.run made ran
  have remembers := Remembers.run made ran
  constructor
  · intro forgets streamId dropped
    obtain ⟨known, gone⟩ := remembers.dropped streamId dropped
    exact (forgets streamId (.inl known)).resolve_right gone
  · intro live streamId kept
    rcases remembers.known (quiet_parked parked).running streamId (reached.kept kept) with
      held | dropped
    · exact .inr held
    · exact .inl (live streamId dropped)

/-- The handle of the only stream is dropped; its cancel is still queued. -/
theorem forgotten_iff_dropped : ∃ acceptor last replies, MuxAcceptor.new {} = .ok acceptor ∧
    connectionMachine.run { acceptor := acceptor }
      ([.read [0, 0, 0, 1, 1, 0, 0, 0]] ++ List.replicate 3 .advance ++ [.drop 1]) = some (last, replies) ∧
    ∀ streamId, streamId ∈ last.streams ∨ streamId ∈ last.pending ∨ streamId ∈ last.closing →
      streamId ∈ last.acceptor.streams ∨ streamId ∈ last.handles := by
  have made : MuxAcceptor.new {} = .ok (WirePhase.start.hold { limits := {} }) := rfl
  have evaluated : (connectionMachine.run { acceptor := WirePhase.start.hold { limits := {} } }
      ([.read [0, 0, 0, 1, 1, 0, 0, 0]] ++ List.replicate 3 .advance ++ [.drop 1])).map
        (fun result => decide (result.1.phase = .parked ∧ 1 ∈ result.1.acceptor.streams)) =
      some true := by
    decide +kernel
  obtain ⟨⟨last, replies⟩, ran, values⟩ := map_eq_some_iff.mp evaluated
  obtain ⟨parked, live⟩ := of_decide_eq_true values
  refine ⟨_, last, replies, made, ran, (forgotten_iff made ran parked).mpr fun streamId dropped => ?_⟩
  obtain rfl : streamId = 1 := by simpa using dropped
  exact live

/-- A stream is opened and its handle dropped: the cancel resets it, and the driver still holds
its record with neither the acceptor nor a handle knowing of it. -/
theorem dropped_stream_stays : ∃ acceptor last replies, MuxAcceptor.new {} = .ok acceptor ∧
    connectionMachine.run { acceptor := acceptor }
      ([.read [0, 0, 0, 1, 1, 0, 0, 0]] ++ List.replicate 3 .advance ++ [.drop 1, .command] ++
        List.replicate 4 .advance) = some (last, replies) ∧
    last.phase = .parked ∧ 1 ∈ last.streams ∧ 1 ∉ last.acceptor.streams ∧ 1 ∉ last.handles := by
  have evaluated : (connectionMachine.run { acceptor := WirePhase.start.hold { limits := {} } }
      ([.read [0, 0, 0, 1, 1, 0, 0, 0]] ++ List.replicate 3 .advance ++ [.drop 1, .command] ++
        List.replicate 4 .advance)).map
        (fun result => decide (result.1.phase = .parked ∧ 1 ∈ result.1.streams ∧
          1 ∉ result.1.acceptor.streams ∧ 1 ∉ result.1.handles)) = some true := by
    decide +kernel
  obtain ⟨⟨last, replies⟩, ran, values⟩ := map_eq_some_iff.mp evaluated
  exact ⟨_, last, replies, rfl, ran, of_decide_eq_true values⟩

end Connection

end SplRust.Home
