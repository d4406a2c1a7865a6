import SplRust.Home.LaneFeed

/-! Each step of a connection is a number of steps of each of its lanes. -/

namespace SplRust.Home
open SplRust.Lib SplRust.Core List Option Table

def DriverCommand.streamId : DriverCommand → Option UInt32
  | write sid _ => some sid
  | consumed sid _ => some sid
  | close sid => some sid
  | cancel sid => some sid
  | reset sid _ => some sid
  | wake => none
  | closeConnection => none

def Resume.held (sid : UInt32) : Resume → Nat
  | sent sender count _ => if sender = sid then count else 0
  | _ => 0

namespace DriverPhase

/-- The driver is in its loop. -/
def running : DriverPhase → Bool
  | parked => true
  | delivering _ _ _ resume => resume != .finish
  | flushing _ _ => true
  | _ => false

def outgoing : DriverPhase → List Frame
  | delivering _ frames _ _ => frames
  | _ => []

def coming : DriverPhase → List MuxEvent
  | delivering _ _ events _ => events
  | _ => []

def held (sid : UInt32) : DriverPhase → Nat
  | delivering _ _ _ resume => resume.held sid
  | _ => 0

end DriverPhase

def eventsFor (sid : UInt32) (events : List MuxEvent) : List MuxEvent :=
  events.filter fun event => event.streamId = some sid

def commandsOf (sid : UInt32) (commands : List DriverCommand) : List DriverCommand :=
  commands.filter fun command => command.streamId = some sid

namespace ConnectionReply

/-- The events of a stream that the acceptor reported. -/
def events (sid : UInt32) : ConnectionReply → List MuxEvent
  | fed output => output.eventsOf sid
  | _ => []

def acceptedBytes (sid : UInt32) : ConnectionReply → Bytes
  | accepted other bytes => if other = sid then bytes else []
  | _ => []

def returnedBytes (sid : UInt32) : ConnectionReply → Bytes
  | returned other bytes => if other = sid then bytes else []
  | _ => []

end ConnectionReply

namespace Connection

variable (out : MuxOutput)

/-- What a connection keeps and has done for one stream; `frames` were put out and not yet
written. -/
def lane (conn : Connection) (sid : UInt32) (replies : List ConnectionReply) (frames : List Frame) : Lane where
  running := conn.phase.running
  receiving := conn.receiving
  entry := bif conn.phase.running then conn.acceptor.streams.lookup sid else none
  used := conn.phase.running && conn.acceptor.passed sid
  coming := bif conn.phase.running then eventsFor sid conn.phase.coming else []
  stream := conn.streams.lookup sid
  handle := conn.handles.lookup sid
  pending := conn.pending.lookup sid
  ready := decide (sid ∈ conn.ready)
  closing := decide (sid ∈ conn.closing)
  held := conn.phase.held sid
  commands := commandsOf sid conn.commands
  frames := framesOf sid (conn.written ++ frames)
  events := replies.flatMap (ConnectionReply.events sid)
  accepted := replies.flatMap (ConnectionReply.acceptedBytes sid)
  returned := replies.flatMap (ConnectionReply.returnedBytes sid)
  shutDown := decide (.shutDown sid ∈ replies)
  ended := decide (.ended sid ∈ replies)

section
variable {oid : UInt32} {command : DriverCommand} {more : List Frame}
variable {conn : Connection} {sid : UInt32} {rs : List ConnectionReply} {frames : List Frame}

theorem lane_updateStatus_self (update : StreamStatus → StreamStatus) :
    (conn.updateStatus sid update).lane sid rs frames = (conn.lane sid rs frames).updateStatus update :=
  congrArg (fun st => { conn.lane sid rs frames with stream := st }) (lookup_assign ..)

theorem lane_updateStatus_other (ne : oid ≠ sid) (update : StreamStatus → StreamStatus) :
    (conn.updateStatus oid update).lane sid rs frames = conn.lane sid rs frames :=
  congrArg (fun st => { conn.lane sid rs frames with stream := st })
    (lookup_assign_of_ne _ (Ne.symm ne) _)

theorem isSome_handle : (conn.lane sid rs frames).handle.isSome = true ↔ sid ∈ conn.handles := by
  rw [← ne_none_iff_isSome, mem_iff_lookup]
  rfl

theorem lane_signal_self (signal : StreamSignal) : (conn.signal sid signal).lane sid rs frames =
      (conn.lane sid rs frames).signal signal := by
  unfold Connection.signal Lane.signal
  by_cases held : sid ∈ conn.handles
  · rw [if_pos held, if_pos (isSome_handle.mpr held)]
    exact congrArg (fun st => { conn.lane sid rs frames with stream := st })
      (lookup_assign conn.streams sid _)
  · rw [if_neg held, if_neg (mt isSome_handle.mp held)]

theorem lane_signal_other (ne : oid ≠ sid) (signal : StreamSignal) :
    (conn.signal oid signal).lane sid rs frames = conn.lane sid rs frames := by
  unfold Connection.signal
  split
  · exact congrArg (fun st => { conn.lane sid rs frames with stream := st })
      (lookup_assign_of_ne _ (Ne.symm ne) _)
  · rfl

theorem lane_pushReady_self : (conn.pushReady sid).lane sid rs frames =
      { conn.lane sid rs frames with ready := true } := by
  have ready : sid ∈ (conn.pushReady sid).ready := by
    unfold Connection.pushReady
    split
    next queued => exact queued
    · exact mem_append_right _ mem_cons_self
  have same : (conn.pushReady sid).lane sid rs frames = { conn.lane sid rs frames with
        ready := decide (sid ∈ (conn.pushReady sid).ready) } := by
    unfold Connection.pushReady
    split <;> rfl
  rw [same, decide_eq_true ready]

theorem lane_pushReady_other (ne : oid ≠ sid) :
    (conn.pushReady oid).lane sid rs frames = conn.lane sid rs frames := by
  unfold Connection.pushReady
  split
  · rfl
  · have same : sid ∈ conn.ready ++ [oid] ↔ sid ∈ conn.ready := by simp [Ne.symm ne]
    exact congrArg (fun ready => { conn.lane sid rs frames with ready := ready }) (decide_eq_decide.mpr same)

theorem lane_send_self (own : command.streamId = some sid) : (conn.send command).lane sid rs frames =
      (conn.lane sid rs frames).send command := by
  have cmds : commandsOf sid (conn.commands ++ [command]) = commandsOf sid conn.commands ++ [command] := by
    simp [commandsOf, own]
  exact congrArg (fun cmds => { conn.lane sid rs frames with commands := cmds }) cmds

theorem lane_send_other (own : command.streamId ≠ some sid) :
    (conn.send command).lane sid rs frames = conn.lane sid rs frames := by
  have cmds : commandsOf sid (conn.commands ++ [command]) = commandsOf sid conn.commands := by simp [commandsOf, own]
  exact congrArg (fun cmds => { conn.lane sid rs frames with commands := cmds }) cmds

theorem lane_unqueued_self (streams : Table UInt32 DriverStream) (pend : Table UInt32 Bytes)
    (idle : pend.lookup sid = none) : ({ conn with
        streams := streams, pending := pend
        ready := conn.ready.filter fun readyId => readyId != sid
        closing := conn.closing.erase sid } : Connection).lane sid rs frames =
      { conn.lane sid rs frames with
        stream := streams.lookup sid, pending := none, ready := false, closing := false } := by
  simp [lane, receiving, idle]

theorem lane_unqueued_other (ne : oid ≠ sid) (streams : Table UInt32 DriverStream)
    (pend : Table UInt32 Bytes) (same : pend.lookup sid = conn.pending.lookup sid)
    (kept : streams.lookup sid = conn.streams.lookup sid) : ({ conn with
        streams := streams, pending := pend
        ready := conn.ready.filter fun readyId => readyId != oid
        closing := conn.closing.erase oid } : Connection).lane sid rs frames =
      conn.lane sid rs frames := by
  simp [lane, receiving, same, kept, Ne.symm ne]

theorem lane_discard_self : (conn.discardPendingStream sid).lane sid rs frames =
      (conn.lane sid rs frames).discard := by
  unfold discardPendingStream Lane.discard
  cases wait : conn.pending.lookup sid with
  | none =>
    have pend : (conn.lane sid rs frames).pending = none := wait
    rw [pend]
    exact lane_unqueued_self conn.streams conn.pending wait
  | some queue =>
    have pend : (conn.lane sid rs frames).pending = some queue := wait
    rw [pend]
    refine (lane_unqueued_self _ _ (Finmap.lookup_erase _ _)).trans ?_
    exact congrArg (fun st => { conn.lane sid rs frames with
        stream := st, pending := none, ready := false, closing := false })
      (lookup_assign conn.streams sid _)

theorem lane_discard_other (ne : oid ≠ sid) : (conn.discardPendingStream oid).lane sid rs frames =
      conn.lane sid rs frames := by
  unfold discardPendingStream
  cases wait : conn.pending.lookup oid with
  | none => exact lane_unqueued_other ne conn.streams conn.pending rfl rfl
  | some queue =>
    exact lane_unqueued_other ne
      (conn.updateStatus oid (·.releaseStaging queue.length)).streams (conn.pending.erase oid)
      (Finmap.lookup_erase_ne (Ne.symm ne))
      (lookup_assign_of_ne _ (Ne.symm ne) _)

theorem receiving_of_running (hr : conn.phase.running = true) : conn.receiving = true := by
  unfold receiving
  cases ph : conn.phase <;> simp [ph, DriverPhase.running] at hr <;> rfl

section
variable (ph : DriverPhase) (before : conn.phase.running = true) (after : ph.running = true)
include ph before after

theorem lane_phase :
    ({ conn with phase := ph } : Connection).lane sid rs frames = { conn.lane sid rs frames with
        coming := eventsFor sid ph.coming, held := ph.held sid } := by
  have hears : ({ conn with phase := ph } : Connection).receiving = true := receiving_of_running after
  simp [lane, hears, before, after, receiving_of_running before]

theorem lane_quiet (coming : ph.coming = []) (held : ph.held sid = 0)
    (quiet : eventsFor sid conn.phase.coming = []) (unheld : conn.phase.held sid = 0) :
    ({ conn with phase := ph } : Connection).lane sid rs frames = conn.lane sid rs frames := by
  have silent : eventsFor sid [] = [] := rfl
  rw [lane_phase ph before after, coming, held]
  simp only [lane, before, quiet, unheld, silent, cond_true]

end

theorem lane_stop (rsn : CarrierClose) : (conn.stop rsn).lane sid rs frames =
      { (conn.lane sid rs frames).stop with receiving := true } := rfl

theorem lane_stop_running (hr : conn.phase.running = true) (rsn : CarrierClose) :
    (conn.stop rsn).lane sid rs frames = (conn.lane sid rs frames).stop := by
  rw [lane_stop, ← receiving_of_running hr]
  rfl

theorem lane_deliverOutput (resume : Resume)
    (hr : conn.phase.running = true) (goes : resume ≠ .finish) :
    (conn.deliverOutput out resume).lane sid rs frames = { conn.lane sid rs frames with
        coming := out.eventsOf sid, held := resume.held sid } :=
  lane_phase _ hr (by simpa [DriverPhase.running] using goes)

theorem lane_withMux (mux : MuxStreams) (hr : conn.phase.running = true) :
    (conn.withMux mux).lane sid rs frames = { conn.lane sid rs frames with
        entry := mux.streams.lookup sid, used := mux.passed sid } := by
  have same : (conn.withMux mux).lane sid rs frames = { conn.lane sid rs frames with
        entry := bif conn.phase.running then mux.streams.lookup sid else none
        used := conn.phase.running && mux.passed sid } := rfl
  rw [same, hr]
  rfl

theorem markWritable_mem : sid ∈ (conn.markWritableStreams out).ready ↔
      sid ∈ conn.ready ∨ sid ∈ out.writableStreams ∧ sid ∈ conn.pending := by
  unfold markWritableStreams
  generalize conn.ready = ready
  induction out.writableStreams generalizing ready with
  | nil => simp
  | cons writable rest ih =>
    rw [foldl_cons, ih]
    by_cases marks : writable ∈ conn.pending ∧ writable ∉ ready
    · rw [if_pos marks]
      simp only [mem_append, mem_cons, not_mem_nil, or_false]
      constructor
      · rintro ((pre | rfl) | later)
        · exact .inl pre
        · exact .inr ⟨.inl rfl, marks.1⟩
        · exact .inr ⟨.inr later.1, later.2⟩
      · rintro (pre | ⟨rfl | later, kn⟩)
        · exact .inl (.inl pre)
        · exact .inl (.inr rfl)
        · exact .inr ⟨later, kn⟩
    · rw [if_neg marks]
      simp only [mem_cons]
      constructor
      · rintro (pre | later)
        · exact .inl pre
        · exact .inr ⟨.inr later.1, later.2⟩
      · rintro (pre | ⟨rfl | later, kn⟩)
        · exact .inl pre
        · exact .inl (not_not.mp fun abs => marks ⟨kn, abs⟩)
        · exact .inr ⟨later, kn⟩

theorem lane_markWritable : (conn.markWritableStreams out).lane sid rs frames =
      { conn.lane sid rs frames with
        ready := (conn.lane sid rs frames).ready ||
          (decide (sid ∈ out.writableStreams) && (conn.lane sid rs frames).pending.isSome) } := by
  have wait : (conn.lane sid rs frames).pending.isSome = decide (sid ∈ conn.pending) := by
    rw [Bool.eq_iff_iff, decide_eq_true_iff, mem_iff_lookup, ← ne_none_iff_isSome]
    rfl
  have ready : decide (sid ∈ (conn.markWritableStreams out).ready) = (decide (sid ∈ conn.ready) ||
        (decide (sid ∈ out.writableStreams) && decide (sid ∈ conn.pending))) := by
    rw [Bool.eq_iff_iff]
    simp [markWritable_mem]
  rw [wait]
  exact congrArg (fun ready => { conn.lane sid rs frames with ready := ready }) ready

theorem lane_done : conn.lane sid (rs ++ [.done]) frames = conn.lane sid rs frames := by
  simp [lane, ConnectionReply.events, ConnectionReply.acceptedBytes, ConnectionReply.returnedBytes]

theorem lane_handedOut (opened : UInt32) : conn.lane sid (rs ++ [.handedOut opened]) frames =
    conn.lane sid rs frames := by
  simp [lane, ConnectionReply.events, ConnectionReply.acceptedBytes, ConnectionReply.returnedBytes]

theorem lane_fed : conn.lane sid (rs ++ [.fed out]) frames =
    { conn.lane sid rs frames with events := (conn.lane sid rs frames).events ++ out.eventsOf sid } := by
  simp [lane, ConnectionReply.events, ConnectionReply.acceptedBytes, ConnectionReply.returnedBytes]

theorem framesOf_self (own : ∀ fr ∈ more, fr.streamId = sid) : framesOf sid more = more :=
  filter_eq_self.mpr fun fr mem => decide_eq_true (own fr mem)

theorem framesOf_other (ne : oid ≠ sid) (own : ∀ fr ∈ more, fr.streamId = oid) :
    framesOf sid more = [] :=
  filter_eq_nil_iff.mpr fun fr mem => by simp [own fr mem, ne]

/-- The mux after a local call on one stream. -/
def assigned (conn : Connection) (sid : UInt32) (entry : Option StreamState) : MuxStreams :=
  { conn.acceptor.toMuxStreams with streams := Table.assign conn.acceptor.streams sid entry }

/-- A local call on the stream, and its frames to be written. -/
theorem lane_acted_self (entry : Option StreamState) (resume : Resume)
    (hr : conn.phase.running = true) (goes : resume ≠ .finish) (own : ∀ fr ∈ more, fr.streamId = sid) :
    ((conn.withMux (conn.assigned sid entry)).deliverOutput { frames := more } resume).lane sid rs more =
      { (conn.lane sid rs []).put more with entry := entry, coming := [], held := resume.held sid } := by
  have used : (conn.lane sid rs more).used = (conn.assigned sid entry).passed sid := by
    simp only [lane, hr, Bool.true_and]
    rfl
  have fnd : (conn.assigned sid entry).streams.lookup sid = entry := lookup_assign ..
  have put : (conn.lane sid rs more).frames = (conn.lane sid rs []).frames ++ more := by
    simp [lane, framesOf_self own]
  have runs : (conn.withMux (conn.assigned sid entry)).phase.running = true := hr
  rw [lane_deliverOutput _ _ runs goes, lane_withMux _ hr, ← used, fnd, Lane.put, ← put]
  rfl

/-- A local call on another stream. -/
theorem lane_acted_other (ne : oid ≠ sid) (entry : Option StreamState)
    (resume : Resume) (hr : conn.phase.running = true) (goes : resume ≠ .finish)
    (own : ∀ fr ∈ more, fr.streamId = oid) :
    ((conn.withMux (conn.assigned oid entry)).deliverOutput { frames := more } resume).lane sid rs more =
      { conn.lane sid rs [] with coming := [], held := resume.held sid } := by
  have used : (conn.lane sid rs more).used = (conn.assigned oid entry).passed sid := by
    simp only [lane, hr, Bool.true_and]
    rfl
  have fnd : (conn.assigned oid entry).streams.lookup sid = (conn.lane sid rs more).entry := by
    simp only [lane, hr, cond_true]
    exact lookup_assign_of_ne _ (Ne.symm ne) _
  have same : conn.lane sid rs more = conn.lane sid rs [] := by simp [lane, framesOf_other ne own]
  have runs : (conn.withMux (conn.assigned oid entry)).phase.running = true := hr
  rw [lane_deliverOutput _ _ runs goes, lane_withMux _ hr, ← used, fnd, same]
  rfl

theorem lane_popped_self {rest : List DriverCommand} (pops : conn.commands = command :: rest)
    (own : command.streamId = some sid) : (conn.lane sid rs frames).commands = command :: commandsOf sid rest := by
  simp [lane, commandsOf, pops, own]

theorem lane_popped_other {rest : List DriverCommand} (pops : conn.commands = command :: rest)
    (own : command.streamId ≠ some sid) : ({ conn with commands := rest } : Connection).lane sid rs frames =
      conn.lane sid rs frames := by
  have same : commandsOf sid rest = commandsOf sid conn.commands := by simp [commandsOf, pops, own]
  exact congrArg (fun cmds => { conn.lane sid rs frames with commands := cmds }) same

end

/-- A step of the connection takes the lane of a stream along. -/
def Path (sid : UInt32) (conn : Connection) (rs : List ConnectionReply)
    (next : Connection) (later : List ConnectionReply) : Prop :=
  ∀ frames, (conn.phase.running = true → frames = conn.phase.outgoing) →
    ∃ after, (next.phase.running = true → after = next.phase.outgoing) ∧
      Relation.ReflTransGen (LaneStep sid) (conn.lane sid rs frames) (next.lane sid later after)

namespace Path
variable {sid : UInt32} {conn next : Connection} {rs later : List ConnectionReply}

theorem refl : Path sid conn rs conn rs := fun frames kn => ⟨frames, kn, .refl⟩

theorem trans {last : Connection} {latest : List ConnectionReply} (fst : Path sid conn rs next later)
    (snd : Path sid next later last latest) : Path sid conn rs last latest := by
  intro frames kn
  obtain ⟨middle, between, early⟩ := fst frames kn
  obtain ⟨after, end_, late⟩ := snd middle between
  exact ⟨after, end_, early.trans late⟩

theorem of_running (hr : conn.phase.running = true)
    (path : Relation.ReflTransGen (LaneStep sid) (conn.lane sid rs conn.phase.outgoing)
      (next.lane sid later next.phase.outgoing)) : Path sid conn rs next later := by
  intro frames kn
  rw [kn hr]
  exact ⟨next.phase.outgoing, fun _ => rfl, path⟩

theorem stops (hr : conn.phase.running = true) (rsn : CarrierClose)
    (same : ∀ frames, (conn.stop rsn).lane sid later frames = (conn.stop rsn).lane sid rs frames) :
    Path sid conn rs (conn.stop rsn) later := by
  intro frames kn
  refine ⟨frames, (by rintro ⟨⟩), ?_⟩
  rw [same, lane_stop_running hr]
  exact .single (.stop hr)

end Path

/-- The driver is between two things: nothing is left to be written or delivered. -/
structure Quiet (conn : Connection) : Prop where
  running : conn.phase.running = true
  coming : conn.phase.coming = []
  outgoing : conn.phase.outgoing = []
  held : ∀ sid, conn.phase.held sid = 0

section
variable {base : Connection} {oid : UInt32} {rest : List DriverCommand} {lim : MuxLimits}
variable {conn : Connection} {sid : UInt32} {rs : List ConnectionReply} {frames : List Frame}

theorem quiet_parked (parked : conn.phase = .parked) : conn.Quiet := by
  constructor <;> simp [parked, DriverPhase.running, DriverPhase.coming, DriverPhase.outgoing, DriverPhase.held]

theorem quiet_flushing {rounds : Nat} {prog : Bool} (flushing : conn.phase = .flushing rounds prog) :
    conn.Quiet := by
  constructor <;> simp [flushing, DriverPhase.running, DriverPhase.coming, DriverPhase.outgoing, DriverPhase.held]

section
variable (quiet : conn.Quiet)
include quiet

theorem Quiet.lane_coming : (conn.lane sid rs frames).coming = [] := by simp [lane, quiet.coming, eventsFor]

theorem Quiet.lane_held : (conn.lane sid rs frames).held = 0 := quiet.held sid

theorem Quiet.lane_running : (conn.lane sid rs frames).running = true := quiet.running

theorem Quiet.lane_entry : (conn.lane sid rs frames).entry = conn.acceptor.streams.lookup sid := by
  simp [lane, quiet.running]

theorem Quiet.lane_idle : { conn.lane sid rs frames with coming := [], held := 0 } = conn.lane sid rs frames := by
  simp [lane, quiet.coming, quiet.held, eventsFor]

theorem Quiet.lane_eq {ph : DriverPhase} (later : Quiet { conn with phase := ph }) :
    ({ conn with phase := ph } : Connection).lane sid rs frames = conn.lane sid rs frames := by
  refine lane_quiet ph quiet.running later.running later.coming (later.held sid) ?_ (quiet.held sid)
  rw [quiet.coming]
  rfl

theorem Quiet.lane_flushing (rounds : Nat) (prog : Bool) :
    ({ conn with phase := .flushing rounds prog } : Connection).lane sid rs frames = conn.lane sid rs frames :=
  quiet.lane_eq (quiet_flushing rfl)

end

@[simp]
theorem discard_phase (other : UInt32) : (conn.discardPendingStream other).phase = conn.phase := by
  unfold discardPendingStream
  cases conn.pending.lookup other <;> rfl

@[simp]
theorem discard_acceptor (other : UInt32) : (conn.discardPendingStream other).acceptor = conn.acceptor := by
  unfold discardPendingStream
  cases conn.pending.lookup other <;> rfl

@[simp]
theorem pushReady_phase (other : UInt32) : (conn.pushReady other).phase = conn.phase := by
  unfold pushReady
  split <;> rfl

theorem Quiet.discard (quiet : conn.Quiet) (oid : UInt32) : (conn.discardPendingStream oid).Quiet := by
  constructor <;> simp [quiet.running, quiet.coming, quiet.outgoing, quiet.held]

theorem Quiet.pushReady (quiet : conn.Quiet) (oid : UInt32) : (conn.pushReady oid).Quiet := by
  constructor <;> simp [quiet.running, quiet.coming, quiet.outgoing, quiet.held]

/-- A step between quiet places that ends in a flush. -/
theorem Path.flushes (hr : conn.phase.running = true) (written : conn.phase.outgoing = [])
    (after : base.Quiet) (rounds : Nat) (prog : Bool)
    (path : Relation.ReflTransGen (LaneStep sid) (conn.lane sid rs []) (base.lane sid rs [])) :
    Path sid conn rs { base with phase := .flushing rounds prog } (rs ++ [.done]) := by
  refine .of_running hr ?_
  rw [written, lane_done]
  exact (after.lane_flushing rounds prog).symm ▸ path

theorem write_path {bs : Bytes} (quiet : conn.Quiet) (pops : conn.commands = .write oid bs :: rest) :
    Path sid conn rs (({ conn with commands := rest } : Connection).handleCommand
      (.write oid bs)) (rs ++ [.done]) := by
  have queued : ({ conn with
      commands := rest
      pending := conn.pending.insert oid ((conn.pending.lookup oid).getD [] ++ bs) } :
        Connection).Quiet := { quiet with }
  have fnd : (conn.pending.insert oid ((conn.pending.lookup oid).getD [] ++ bs)).lookup
      oid = some ((conn.pending.lookup oid).getD [] ++ bs) := Finmap.lookup_insert _
  refine Path.flushes quiet.running quiet.outgoing (queued.pushReady oid) _ _ ?_
  by_cases same : oid = sid
  · subst same
    have lanes : ({ conn with
        commands := rest
        pending := conn.pending.insert oid ((conn.pending.lookup oid).getD [] ++ bs) } :
          Connection).lane oid rs [] =
        { conn.lane oid rs [] with
          pending := some ((conn.lane oid rs []).pending.getD [] ++ bs)
          commands := commandsOf oid rest } :=
      congrArg (fun pend : Option Bytes => { conn.lane oid rs [] with
        pending := pend, commands := commandsOf oid rest }) fnd
    rw [lane_pushReady_self, lanes]
    exact .single (.write quiet.lane_running (lane_popped_self pops rfl))
  · have kept : (conn.pending.insert oid ((conn.pending.lookup oid).getD [] ++ bs)).lookup
        sid = conn.pending.lookup sid := Finmap.lookup_insert_of_ne _ (Ne.symm same)
    have lanes : ({ conn with
        commands := rest
        pending := conn.pending.insert oid ((conn.pending.lookup oid).getD [] ++ bs) } :
          Connection).lane sid rs [] =
        ({ conn with commands := rest } : Connection).lane sid rs [] :=
      congrArg (fun pend : Option Bytes => { conn.lane sid rs [] with
        pending := pend, commands := commandsOf sid rest }) kept
    rw [lane_pushReady_other same, lanes, lane_popped_other pops fun own => same (some.inj own)]

theorem close_path (quiet : conn.Quiet) (pops : conn.commands = .close oid :: rest) :
    Path sid conn rs (({ conn with commands := rest } : Connection).handleCommand (.close oid)) (rs ++ [.done]) := by
  have marked : ({ conn with
      commands := rest, closing := insert oid conn.closing } : Connection).Quiet := { quiet with }
  refine Path.flushes quiet.running quiet.outgoing (marked.pushReady oid) _ _ ?_
  by_cases same : oid = sid
  · subst same
    have lanes : ({ conn with
        commands := rest, closing := insert oid conn.closing } : Connection).lane oid rs [] =
        { conn.lane oid rs [] with closing := true, commands := commandsOf oid rest } :=
      congrArg (fun closing => { conn.lane oid rs [] with
        closing := closing, commands := commandsOf oid rest })
        (decide_eq_true (Finset.mem_insert_self _ _))
    rw [lane_pushReady_self, lanes]
    exact .single (.close quiet.lane_running (lane_popped_self pops rfl))
  · have still : sid ∈ insert oid conn.closing ↔ sid ∈ conn.closing := by simp [Ne.symm same]
    have lanes : ({ conn with commands := rest, closing := insert oid conn.closing } : Connection).lane sid rs
          [] = ({ conn with commands := rest } : Connection).lane sid rs [] :=
      congrArg (fun closing => { conn.lane sid rs [] with
        closing := closing, commands := commandsOf sid rest }) (decide_eq_decide.mpr still)
    rw [lane_pushReady_other same, lanes, lane_popped_other pops fun own => same (some.inj own)]

/-- A local call succeeds, and its frames are to be written. -/
theorem Path.acts {entry : Option StreamState} {more : List Frame} {resume : Resume}
    (hr : conn.phase.running = true) (written : conn.phase.outgoing = []) (after : base.Quiet)
    (goes : resume ≠ .finish) (own : ∀ fr ∈ more, fr.streamId = oid)
    (self : oid = sid → Relation.ReflTransGen (LaneStep sid) (conn.lane sid rs [])
      { (base.lane sid rs []).put more with entry := entry, held := resume.held sid })
    (others : oid ≠ sid → resume.held sid = 0 ∧ base.lane sid rs [] = conn.lane sid rs []) : Path sid conn rs
      ((base.withMux (base.assigned oid entry)).deliverOutput { frames := more } resume)
      (rs ++ [.done]) := by
  refine .of_running hr ?_
  rw [written, lane_done]
  by_cases same : oid = sid
  · subst same
    have lanes : ((base.withMux (base.assigned oid entry)).deliverOutput { frames := more }
        resume).lane oid rs more = { (base.lane oid rs []).put more with
          entry := entry, held := resume.held oid } := by
      rw [lane_acted_self entry resume after.running goes own]
      exact congrArg (fun lane : Lane => { lane.put more with
        entry := entry, held := resume.held oid }) after.lane_idle
    exact lanes ▸ self rfl
  · obtain ⟨unheld, kept⟩ := others same
    have lanes : ((base.withMux (base.assigned oid entry)).deliverOutput { frames := more }
        resume).lane sid rs more = conn.lane sid rs [] := by
      rw [lane_acted_other same entry resume after.running goes own, unheld, after.lane_idle, kept]
    exact lanes ▸ .refl

theorem Path.calls {entry : Option StreamState} {more : List Frame} {resume : Resume}
    (hr : conn.phase.running = true) (written : conn.phase.outgoing = []) (after : base.Quiet)
    (goes : resume ≠ .finish) (unheld : resume.held sid = 0) (own : ∀ fr ∈ more, fr.streamId = oid)
    (self : oid = sid → Relation.ReflTransGen (LaneStep sid) (conn.lane sid rs [])
      { (base.lane sid rs []).put more with entry := entry })
    (others : oid ≠ sid → base.lane sid rs [] = conn.lane sid rs []) :
    Path sid conn rs ((base.withMux (base.assigned oid entry)).deliverOutput { frames := more } resume)
      (rs ++ [.done]) := by
  refine .acts hr written after goes own (fun same => ?_) fun ne =>
    ⟨unheld, others ne⟩
  have idle : { (base.lane sid rs []).put more with entry := entry, held := resume.held sid } =
      { (base.lane sid rs []).put more with entry := entry } := by
    rw [unheld, ← after.held sid]
    rfl
  exact idle ▸ self same

section
variable (quiet : conn.Quiet)
include quiet

theorem owed_fits {bs : Nat} {st : StreamState} (pops : conn.commands = .consumed oid bs :: rest)
    (sound : (conn.lane oid rs []).Sound oid) (live : conn.acceptor.streams.lookup oid = some st) :
    bs ≤ st.debitedNotConsumed := by
  have owes := sound.reading.owes quiet.lane_running st (quiet.lane_entry.trans live)
  rw [Lane.owed, lane_popped_self pops rfl] at owes
  simp only [consumedOf] at owes
  omega

/-- Bytes are reported as consumed; the lane of their stream says that they were delivered. -/
theorem consumed_path {bs : Nat} (valid : conn.acceptor.Valid lim)
    (pops : conn.commands = .consumed oid bs :: rest) (sound : (conn.lane oid rs []).Sound oid) :
    Path sid conn rs (({ conn with commands := rest } : Connection).handleCommand
      (.consumed oid bs)) (rs ++ [.done]) := by
  have popped : ({ conn with commands := rest } : Connection).Quiet := { quiet with }
  have others (ne : oid ≠ sid) : ({ conn with commands := rest } : Connection).lane sid rs [] = conn.lane sid rs [] :=
    lane_popped_other pops fun own => ne (some.inj own)
  cases live : conn.acceptor.streams.lookup oid with
  | none =>
    simp only [handleCommand, MuxStreams.consume_absent live]
    refine .of_running quiet.running ?_
    rw [quiet.outgoing, lane_done]
    by_cases same : oid = sid
    · subst same
      exact .single (.consumedLate quiet.lane_running (lane_popped_self pops rfl) (quiet.lane_entry.trans live))
    · exact others same ▸ .refl
  | some st =>
    have fits := owed_fits quiet pops sound live
    obtain ⟨win, grant, consumed⟩ := MuxStreams.consume_fits valid.inv live fits
    simp only [handleCommand, consumed]
    have marked : ∀ base : Connection, base.markWritableStreams
        { frames := (grant.map (Frame.window oid)).toList } = base := fun base => rfl
    rw [marked]
    refine Path.calls quiet.running quiet.outgoing popped (by rintro ⟨⟩) rfl ?_ (fun same => ?_) others
    · intro fr mem
      obtain ⟨_, -, rfl⟩ := map_eq_some_iff.mp (mem_toList.mp mem)
      rfl
    · subst same
      exact .single (.consumed quiet.lane_running (lane_popped_self pops rfl) (quiet.lane_entry.trans live) fits)

theorem giveUp_path {command : DriverCommand} {rsn : ResetReason}
    (pops : conn.commands = command :: rest) (own : command.streamId = some oid)
    (gives : command = .cancel oid ∨ command = .reset oid rsn) :
    Path sid conn rs (({ conn with commands := rest } : Connection).giveUp oid rsn) (rs ++ [.done]) := by
  have popped : ({ conn with commands := rest } : Connection).Quiet := { quiet with }
  have others (ne : oid ≠ sid) :
      (({ conn with commands := rest } : Connection).discardPendingStream oid).lane sid
        rs [] = conn.lane sid rs [] := by
    rw [lane_discard_other ne]
    exact lane_popped_other pops fun same => ne (some.inj (own.symm.trans same))
  have self : (({ conn with commands := rest } : Connection).discardPendingStream oid).lane oid
      rs [] = { (conn.lane oid rs []).discard with commands := commandsOf oid rest } := by
    rw [lane_discard_self]
    rfl
  have acc : (({ conn with commands := rest } : Connection).discardPendingStream oid).acceptor
      = conn.acceptor := discard_acceptor oid
  have pop : (conn.lane oid rs []).commands = command :: commandsOf oid rest := lane_popped_self pops own
  unfold giveUp
  rcases conn.acceptor.reset_cases oid rsn with ⟨abs, late⟩ | ⟨st, live, done⟩
  · simp only [acc, late]
    refine Path.flushes quiet.running quiet.outgoing (popped.discard oid) _ _ ?_
    by_cases same : oid = sid
    · subst same
      rw [self]
      exact .single (.givenUpLate quiet.lane_running rsn pop gives (quiet.lane_entry.trans abs))
    · exact others same ▸ .refl
  · have mux : ({ conn.acceptor.toMuxStreams with streams := assign conn.acceptor.streams oid none } : MuxStreams) =
        (({ conn with commands := rest } : Connection).discardPendingStream oid).assigned oid
          none := by
      rw [assigned, acc]
    simp only [acc, done, mux]
    refine Path.calls quiet.running quiet.outgoing (popped.discard oid) (by rintro ⟨⟩) rfl
      (by simp [Frame.reset]) (fun same => ?_) others
    subst same
    rw [self]
    exact .single (.givenUp quiet.lane_running rsn pop gives (quiet.lane_entry.trans live))

theorem command_path {command : DriverCommand}
    (valid : conn.acceptor.Valid lim) (pops : conn.commands = command :: rest)
    (sound : ∀ oid, (conn.lane oid rs []).Sound oid) :
    Path sid conn rs (({ conn with commands := rest } : Connection).handleCommand command)
      (rs ++ [.done]) := by
  have popped : ({ conn with commands := rest } : Connection).Quiet := { quiet with }
  cases command with
  | write => exact write_path quiet pops
  | consumed oid => exact consumed_path quiet valid pops (sound oid)
  | close => exact close_path quiet pops
  | cancel => exact giveUp_path quiet pops rfl (.inl rfl)
  | reset => exact giveUp_path quiet pops rfl (.inr rfl)
  | wake =>
    refine Path.flushes quiet.running quiet.outgoing popped _ _ ?_
    exact lane_popped_other pops (by rintro ⟨⟩) ▸ .refl
  | closeConnection =>
    intro frames kn
    refine ⟨frames, (by rintro ⟨⟩), ?_⟩
    have lanes : (({ conn with commands := rest } : Connection).stop .localClose).lane sid
        rs frames = (conn.lane sid rs frames).stop := by
      rw [lane_stop_running popped.running, lane_popped_other pops (by rintro ⟨⟩)]
    rw [lane_done]
    exact lanes ▸ .single (.stop quiet.lane_running)

theorem lane_readBytes (acc : MuxAcceptor) (out : MuxOutput) :
    (conn.lane sid rs []).fed sid acc.toMuxStreams out =
      ((({ conn with acceptor := acc } : Connection).markWritableStreams out).deliverOutput
        out .flush).lane sid (rs ++ [.fed out]) out.frames := by
  have runs : (({ conn with acceptor := acc } : Connection).markWritableStreams
      out).phase.running = true := quiet.running
  have taken : ({ conn with acceptor := acc } : Connection).lane sid rs out.frames =
      { (conn.lane sid rs []).put (framesOf sid out.frames) with
        entry := acc.streams.lookup sid, used := acc.passed sid } := by
    have same : ({ conn with acceptor := acc } : Connection).lane sid rs
        out.frames = { conn.lane sid rs [] with
          entry := bif conn.phase.running then acc.streams.lookup sid else none
          used := conn.phase.running && acc.passed sid
          frames := framesOf sid (conn.written ++ out.frames) } := rfl
    rw [same, quiet.running, framesOf_append]
    simp [Lane.put, lane]
  rw [lane_fed, lane_deliverOutput out .flush runs (by rintro ⟨⟩), lane_markWritable, taken, ← quiet.lane_idle]
  rfl

end

theorem read_path {next : Connection} {out : MuxOutput} {bs : Bytes}
    (parked : conn.phase = .parked) (valid : conn.acceptor.Valid lim)
    (fed : conn.readBytes bs = (next, some out)) : Path sid conn rs next (rs ++ [.fed out]) := by
  have quiet := quiet_parked parked
  unfold readBytes at fed
  cases done : conn.acceptor.feed bs with
  | mk acc rep =>
    rw [done] at fed
    cases rep with
    | error => cases fed
    | ok made =>
      simp only [Prod.mk.injEq, some.injEq] at fed
      obtain ⟨rfl, rfl⟩ := fed
      obtain ⟨_, hd⟩ := (valid.feed bs).2
      rw [done] at hd
      have used : (conn.lane sid rs []).used = conn.acceptor.passed sid := by simp [lane, quiet.running]
      have path := items_lane valid.inv hd quiet.lane_running quiet.lane_entry used
      refine .of_running quiet.running ?_
      rw [quiet.outgoing]
      exact lane_readBytes quiet acc made ▸ path

end

end Connection

end SplRust.Home
