import SplRust.Home.ConnectionFlush

/-! How `deliver_output` and the end of the driver's loop move the lanes of a connection. -/

namespace SplRust.Home
open SplRust.Lib SplRust.Core

namespace Connection
variable {conn : Connection} {sid : UInt32} {rs : List ConnectionReply}
  {frames : List Frame} {unflushed : Bool} {events : List MuxEvent} {ev : MuxEvent} {resume : Resume}

theorem running_delivering (delivering : conn.phase = .delivering unflushed frames events resume)
    (goes : resume ≠ .finish) : conn.phase.running = true := by
  simpa [delivering, DriverPhase.running] using goes

theorem Path.unseen {next : Connection} (kn : next.phase.running = true → conn.phase.running = true ∧
      next.phase.outgoing = conn.phase.outgoing)
    (same : ∀ frames, next.lane sid rs frames = conn.lane sid rs frames) :
    Path sid conn rs next (rs ++ [.done]) := by
  intro frames written
  refine ⟨frames, fun runs => ?_, ?_⟩
  · rw [(kn runs).2]
    exact written (kn runs).1
  · rw [lane_done, same]

theorem Path.handedOut {next : Connection} (opened : UInt32) (path : Path sid conn rs next (rs ++ [.done])) :
    Path sid conn rs next (rs ++ [.handedOut opened]) := by
  intro frames kn
  obtain ⟨after, written, path⟩ := path frames kn
  refine ⟨after, written, ?_⟩
  rw [lane_handedOut]
  rwa [lane_done] at path

theorem writeFrame_path {fr : Frame}
    (delivering : conn.phase = .delivering unflushed (fr :: frames) events resume) (goes : resume ≠ .finish) :
    Path sid conn rs (conn.writeFrame fr frames events resume) (rs ++ [.done]) := by
  have hr := running_delivering delivering goes
  unfold writeFrame
  cases fr.encode with
  | error => exact Path.stops hr _ fun _ => lane_done
  | ok =>
    have written : conn.phase.outgoing = fr :: frames := by
      rw [delivering]
      rfl
    refine .of_running hr ?_
    have lanes : ({ conn with
        written := conn.written ++ [fr]
        phase := .delivering true frames events resume } : Connection).lane sid rs frames =
          conn.lane sid rs (fr :: frames) := by
      have put : ({ conn with written := conn.written ++ [fr] } : Connection).lane sid
          rs frames = conn.lane sid rs (fr :: frames) := by
        simp [lane, receiving]
      rw [← put]
      refine lane_rephased { conn with written := conn.written ++ [fr] } ?_ ?_ ?_ ?_ <;>
        simp [delivering, receiving, DriverPhase.running, DriverPhase.coming, DriverPhase.held]
    rw [lane_done, written]
    exact lanes ▸ .refl

theorem flushed_path (delivering : conn.phase = .delivering true [] events resume) :
    Path sid conn rs { conn with phase := .delivering false [] events resume } (rs ++ [.done]) := by
  refine Path.unseen (fun runs => ⟨?_, ?_⟩) fun frames => lane_rephased conn ?_ ?_ ?_ ?_
  · rw [delivering]
    exact runs
  all_goals simp [delivering, receiving, DriverPhase.running, DriverPhase.coming,
    DriverPhase.held, DriverPhase.outgoing]

theorem peerGone_path {truncated : Bool}
    (delivering : conn.phase = .delivering false [] (.peerGone truncated :: events) resume) :
    Path sid conn rs (conn.deliverEvent events resume (.peerGone truncated)) (rs ++ [.done]) := by
  refine Path.unseen (fun runs => ⟨?_, ?_⟩) fun frames => lane_rephased conn ?_ ?_ ?_ ?_
  · rw [delivering]
    exact runs
  all_goals simp [delivering, receiving, DriverPhase.running, DriverPhase.coming,
    DriverPhase.held, DriverPhase.outgoing, eventsFor, MuxEvent.streamId, deliverEvent]

theorem delivered_path (base : Connection) {oid : UInt32}
    (delivering : conn.phase = .delivering false [] (ev :: events) resume)
    (goes : resume ≠ .finish) (own : ev.streamId = some oid) (ph : base.phase = conn.phase)
    (self : oid = sid → ∀ rest, (conn.lane sid rs []).coming = ev :: rest →
      LaneStep sid (conn.lane sid rs []) { base.lane sid rs [] with coming := rest })
    (others : oid ≠ sid → base.lane sid rs [] = conn.lane sid rs []) :
    Path sid conn rs { base with phase := .delivering false [] events resume } (rs ++ [.done]) := by
  have hr := running_delivering delivering goes
  have runs : base.phase.running = true := ph ▸ hr
  have coming : (conn.lane sid rs []).coming = eventsFor sid (ev :: events) := by
    simp only [lane, hr, cond_true]
    rw [delivering]
    rfl
  have held : base.phase.held sid = resume.held sid := by
    rw [ph, delivering]
    rfl
  have lanes : ({ base with phase := .delivering false [] events resume } : Connection).lane sid
      rs [] = { base.lane sid rs [] with coming := eventsFor sid events } := by
    rw [lane_phase _ runs (by simpa [DriverPhase.running] using goes)]
    exact congrArg (fun held => { base.lane sid rs [] with
      coming := eventsFor sid events, held := held }) held.symm
  refine .of_running hr ?_
  have written : conn.phase.outgoing = [] := by
    rw [delivering]
    rfl
  rw [lane_done, written]
  refine lanes ▸ ?_
  by_cases same : oid = sid
  · have next : eventsFor sid (ev :: events) = ev :: eventsFor sid events := by simp [eventsFor, own, same]
    exact .single (self same _ (coming.trans next))
  · have next : eventsFor sid (ev :: events) = eventsFor sid events := by simp [eventsFor, own, same]
    rw [others same, ← next, ← coming]

section
variable {oid : UInt32} {st : DriverStream} {hdl : HomeStream}

theorem lane_assignStream_self : (conn.assignStream sid st).lane sid rs frames =
      { conn.lane sid rs frames with stream := some st } :=
  congrArg (fun st : Option DriverStream =>
    { conn.lane sid rs frames with stream := st }) (Finmap.lookup_insert _)

theorem lane_assignStream_other (ne : oid ≠ sid) : (conn.assignStream oid st).lane sid rs frames =
      conn.lane sid rs frames :=
  congrArg (fun st : Option DriverStream =>
      { conn.lane sid rs frames with stream := st })
    (Finmap.lookup_insert_of_ne _ (Ne.symm ne))

theorem lane_assignHandle_self : (conn.assignHandle sid hdl).lane sid rs frames =
      { conn.lane sid rs frames with handle := some hdl } :=
  congrArg (fun hdl : Option HomeStream =>
    { conn.lane sid rs frames with handle := hdl }) (Finmap.lookup_insert _)

theorem lane_assignHandle_other (ne : oid ≠ sid) : (conn.assignHandle oid hdl).lane sid rs frames =
      conn.lane sid rs frames :=
  congrArg (fun hdl : Option HomeStream =>
      { conn.lane sid rs frames with handle := hdl })
    (Finmap.lookup_insert_of_ne _ (Ne.symm ne))

end

@[simp]
theorem signal_phase (other : UInt32) (signal : StreamSignal) : (conn.signal other signal).phase = conn.phase := by
  unfold Connection.signal
  split <;> rfl

/-- A new stream cannot be handed out to an owner that is gone. -/
theorem ownerGone_path {oid : UInt32}
    (delivering : conn.phase = .delivering false [] (.opened oid :: events) resume) (goes : resume ≠ .finish) :
    Path sid conn rs ((({ conn with streams := conn.streams.insert oid {} } : Connection).send
        (.cancel oid)).stop .ownerGone) (rs ++ [.done]) := by
  have hr := running_delivering delivering goes
  intro frames kn
  refine ⟨frames, (by rintro ⟨⟩), ?_⟩
  have runs : (({ conn with streams := conn.streams.insert oid {} } : Connection).send
      (.cancel oid)).phase.running = true := hr
  rw [lane_done, lane_stop_running runs]
  by_cases same : oid = sid
  · subst same
    have opened : ({ conn with streams := conn.streams.insert oid {} } : Connection).lane oid
        rs frames = { conn.lane oid rs frames with stream := some {} } :=
      lane_assignStream_self
    have next : (conn.lane oid rs frames).coming = .opened oid :: eventsFor oid events := by
      simp only [lane, hr, cond_true]
      rw [delivering]
      simp [DriverPhase.coming, eventsFor, MuxEvent.streamId]
    rw [lane_send_self rfl, opened]
    exact .single (.ownerGone hr next)
  · have unopened : ({ conn with streams := conn.streams.insert oid {} } : Connection).lane
        sid rs frames = conn.lane sid rs frames :=
      lane_assignStream_other same
    rw [lane_send_other (by simpa [DriverCommand.streamId] using same), unopened]
    exact .single (.stop hr)

theorem deliverEvent_path (delivering : conn.phase = .delivering false [] (ev :: events) resume)
    (goes : resume = .finish → ev.streamId = none) :
    Path sid conn rs (conn.deliverEvent events resume ev) (rs ++ [.done]) := by
  cases ev with
  | opened oid =>
    have goes : resume ≠ .finish := fun finishes => by cases goes finishes
    unfold deliverEvent
    by_cases gone : conn.ownerGone = true
    · simp only [gone, if_true]
      exact ownerGone_path delivering goes
    · simp only [gone]
      refine delivered_path ((conn.assignStream oid {}).assignHandle oid {}) delivering goes rfl
        rfl (fun same rest next => ?_) fun ne =>
          (lane_assignHandle_other ne).trans (lane_assignStream_other ne)
      subst same
      rw [lane_assignHandle_self, lane_assignStream_self]
      exact .handOut (running_delivering delivering goes) next
  | data =>
    have goes : resume ≠ .finish := fun finishes => by cases goes finishes
    refine delivered_path _ delivering goes rfl (signal_phase ..) (fun same rest next => ?_)
      fun ne => lane_signal_other ne _
    subst same
    rw [lane_signal_self]
    exact .signalData (running_delivering delivering goes) next
  | readClosed =>
    have goes : resume ≠ .finish := fun finishes => by cases goes finishes
    refine delivered_path _ delivering goes rfl (signal_phase ..) (fun same rest next => ?_)
      fun ne => lane_signal_other ne _
    subst same
    rw [lane_signal_self]
    exact .signalEof (running_delivering delivering goes) next
  | reset =>
    have goes : resume ≠ .finish := fun finishes => by cases goes finishes
    refine delivered_path _ delivering goes rfl (signal_phase ..) (fun same rest next => ?_)
      fun ne => (lane_signal_other ne _).trans (lane_updateStatus_other ne _)
    subst same
    rw [lane_signal_self, lane_updateStatus_self]
    exact .signalReset (running_delivering delivering goes) next
  | peerGone => exact peerGone_path delivering

theorem endFlush_path {prog : Bool} (flushing : conn.phase = .flushing 0 prog) :
    Path sid conn rs (conn.endFlush prog) (rs ++ [.done]) := by
  have quiet := quiet_flushing flushing
  have parked : (conn.endFlush prog).Quiet := quiet_parked rfl
  refine Path.unseen (fun _ => ⟨quiet.running, ?_⟩) fun frames => ?_
  · rw [quiet.outgoing]
    rfl
  · unfold endFlush
    split
    · have sent : (conn.send .wake).Quiet := { quiet with }
      exact (sent.lane_eq (quiet_parked rfl)).trans (lane_send_other (by rintro ⟨⟩))
    · exact quiet.lane_eq (quiet_parked rfl)

theorem stopped_path (leaving : conn.phase = .leaving ∅)
    (gone : ∀ st, conn.streams.lookup sid = some st → st.status.state = .gone) :
    Path sid conn rs { conn with phase := .stopped } (rs ++ [.done]) := by
  intro frames kn
  have left : conn.phase.running = false := by
    rw [leaving]
    rfl
  have lanes : ({ conn with phase := .stopped } : Connection).lane sid rs frames =
      { conn.lane sid rs frames with receiving := false } := by
    simp [lane, leaving, receiving, DriverPhase.running, DriverPhase.held]
  refine ⟨frames, (by rintro ⟨⟩), ?_⟩
  rw [lane_done, lanes]
  exact .single (.finished left gone)

theorem tell_path {oid : UInt32} {left : Finset UInt32} (leaving : conn.phase = .leaving left) :
    Path sid conn rs (conn.tell oid left) (rs ++ [.done]) := by
  intro frames kn
  have stopped : conn.phase.running = false := by
    rw [leaving]
    rfl
  refine ⟨frames, (by rintro ⟨⟩), ?_⟩
  have phased : (conn.tell oid left).lane sid rs frames =
      ((conn.updateStatus oid fun status => { status with state := .gone }).signal oid .gone).lane sid rs frames := by
    refine lane_rephased _ ?_ ?_ ?_ ?_ <;> simp [leaving, receiving, updateStatus,
      DriverPhase.running, DriverPhase.coming, DriverPhase.held]
  rw [lane_done, phased]
  by_cases same : oid = sid
  · subst same
    rw [lane_signal_self, lane_updateStatus_self]
    exact .single (.told stopped)
  · rw [lane_signal_other same, lane_updateStatus_other same]

theorem readEof_path (parked : conn.phase = .parked) : Path sid conn rs conn.readEof (rs ++ [.done]) := by
  have quiet := quiet_parked parked
  intro frames kn
  refine ⟨frames, (by rintro ⟨⟩), ?_⟩
  have lanes : conn.readEof.lane sid rs frames = (conn.lane sid rs frames).stop := by
    simp [lane, readEof, MuxAcceptor.finishEof, markWritableStreams, deliverOutput, Lane.stop,
      receiving, parked, DriverPhase.running, DriverPhase.held, Resume.held]
  rw [lane_done, lanes]
  exact .single (.stop quiet.lane_running)

theorem refused_path {bs : Bytes} {next : Connection} (parked : conn.phase = .parked)
    (refused : conn.readBytes bs = (next, none)) : Path sid conn rs next (rs ++ [.done]) := by
  have hr := (quiet_parked parked).running
  unfold readBytes at refused
  cases done : conn.acceptor.feed bs with
  | mk acc rep =>
    rw [done] at refused
    cases rep with
    | ok => cases refused
    | error =>
      cases refused
      intro frames kn
      have stops : (conn.stop .acceptorRefused).lane sid rs frames =
          (conn.lane sid rs frames).stop := lane_stop_running hr .acceptorRefused
      have lanes : (({ conn with acceptor := acc } : Connection).stop .acceptorRefused).lane
          sid rs frames = (conn.lane sid rs frames).stop := stops
      refine ⟨frames, (by rintro ⟨⟩), ?_⟩
      rw [lane_done, lanes]
      exact .single (.stop hr)

end Connection

end SplRust.Home
