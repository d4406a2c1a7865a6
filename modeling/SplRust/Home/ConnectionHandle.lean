import SplRust.Home.ConnectionDeliver

/-! How the operations of a stream's handle move the lanes of a connection. -/

namespace SplRust.Home
open SplRust.Lib SplRust.Core ConnectionReply

section
variable {capacity : Nat} {closed : Bool} {signals : List StreamSignal} {s : StreamLife} {handle : HomeStream}

theorem readLoop_dead (dead : s ≠ .live) : readLoop capacity closed signals s handle =
      ⟨signals, s, { handle with readBuffer := [] }, .failed⟩ := by
  unfold readLoop
  rw [if_pos dead]

theorem readLoop_buffered (live : s = .live) (buffered : handle.readBuffer ≠ []) :
    readLoop capacity closed signals s handle = ⟨signals, s, { handle with
          readBuffer := handle.readBuffer.drop (min capacity handle.readBuffer.length) },
        .bytes (handle.readBuffer.take (min capacity handle.readBuffer.length))⟩ := by
  unfold readLoop
  rw [if_neg (not_not.mpr live), if_pos buffered]

theorem readLoop_ended (live : s = .live) (empty : handle.readBuffer = []) (ended : handle.readEof = true) :
    readLoop capacity closed signals s handle = ⟨signals, s, handle, .ended⟩ := by
  unfold readLoop
  rw [if_neg (not_not.mpr live), if_neg (not_not.mpr empty), if_pos ended]

end

namespace Lane
variable {sid : UInt32} {lane : Lane} {capacity : Nat} {signals : List StreamSignal}
  {status : StreamStatus} {s : StreamLife} {handle : HomeStream}

/-- The lane after a call of `poll_read` with that result. -/
def read (lane : Lane) (sid : UInt32) (status : StreamStatus) (result : ReadResult) : Lane :=
  let lane := { lane with
    stream := some { signals := result.signals, status := { status with state := result.state } }
    handle := some result.handle }
  match result.outcome with
  | .bytes bytes =>
      if lane.receiving then
        { lane.send (.consumed sid bytes.length) with returned := lane.returned ++ bytes }
      else lane
  | .ended => { lane with ended := true }
  | _ => lane

section
variable (held : lane.handle = some handle)
  (hp : lane.stream = some { signals := signals, status := { status with state := s } })
include held hp

theorem read_now (now : s ≠ .live ∨ handle.readBuffer ≠ [] ∨ handle.readEof = true) :
    Relation.ReflTransGen (LaneStep sid) lane
      (lane.read sid status (readLoop capacity (!lane.receiving) signals s handle)) := by
  cases lane with | mk hr receiving => ?_
  subst held hp
  by_cases live : s = .live
  swap
  · rw [readLoop_dead live]
    exact .single (.cleared rfl rfl live)
  by_cases buffered : handle.readBuffer ≠ []
  · have fits : min capacity handle.readBuffer.length ≤ handle.readBuffer.length := min_le_right ..
    have length : (handle.readBuffer.take (min capacity handle.readBuffer.length)).length =
        min capacity handle.readBuffer.length := by
      rw [List.length_take]
      omega
    rw [readLoop_buffered live buffered]
    cases receiving
    · exact .single (.lost _ rfl rfl)
    · simp only [read, send, length, if_true]
      exact .single (.returned _ rfl rfl rfl live fits)
  · have empty := not_not.mp buffered
    have ended : handle.readEof = true := now.resolve_left (not_not.mpr live) |>.resolve_left buffered
    rw [readLoop_ended live empty ended]
    exact .single (.ended rfl rfl live empty ended)

/-- The loop of `poll_read` takes the signals in order. -/
theorem read_path : Relation.ReflTransGen (LaneStep sid) lane
      (lane.read sid status (readLoop capacity (!lane.receiving) signals s handle)) := by
  induction signals generalizing lane s handle with
  | nil =>
    by_cases now : s ≠ .live ∨ handle.readBuffer ≠ [] ∨ handle.readEof = true
    · exact read_now held hp now
    simp only [not_or, not_not] at now
    obtain ⟨live, empty, reading⟩ := now
    have closes (deaf : lane.receiving = false) : LaneStep sid lane _ := .takeClosed deaf held hp
    cases lane with | mk hr receiving => ?_
    subst held hp
    unfold readLoop
    rw [if_neg (not_not.mpr live), if_neg (not_not.mpr empty), if_neg reading]
    cases receiving
    · exact .single (closes rfl)
    · exact .refl
  | cons signal rest ih =>
    by_cases now : s ≠ .live ∨ handle.readBuffer ≠ [] ∨ handle.readEof = true
    · exact read_now held hp now
    simp only [not_or, not_not] at now
    obtain ⟨live, empty, reading⟩ := now
    have going : handle.readEof = false := by simpa using reading
    unfold readLoop
    rw [if_neg (not_not.mpr live), if_neg (not_not.mpr empty), if_neg reading]
    cases signal with
    | data =>
      have step : LaneStep sid lane _ := .takeData held hp live empty going rfl
      have later := (ih rfl rfl).head step
      rw [empty]
      exact later
    | readEof =>
      have step : LaneStep sid lane _ := .takeEof held hp live empty rfl
      exact (ih rfl rfl).head step
    | reset =>
      have step : LaneStep sid lane _ := .takeEnd .reset (by rintro ⟨⟩) held hp rfl (.inl rfl)
      exact (ih rfl rfl).head step
    | gone =>
      have step : LaneStep sid lane _ := .takeEnd .gone (by rintro ⟨⟩) held hp rfl (.inr rfl)
      exact (ih rfl rfl).head step

end

end Lane

namespace Connection
variable {conn next : Connection} {sid oid : UInt32} {rs later : List ConnectionReply}
  {frames : List Frame} {handle : HomeStream} {stream : DriverStream}

theorem lane_returned_self (bs : Bytes) : conn.lane sid (rs ++ [.returned sid bs]) frames =
      { conn.lane sid rs frames with returned := (conn.lane sid rs frames).returned ++ bs } := by
  simp [lane, events, acceptedBytes, returnedBytes]

theorem lane_accepted_self (bs : Bytes) : conn.lane sid (rs ++ [.accepted sid bs]) frames =
      { conn.lane sid rs frames with accepted := (conn.lane sid rs frames).accepted ++ bs } := by
  simp [lane, events, acceptedBytes, returnedBytes]

theorem lane_ended_self : conn.lane sid (rs ++ [.ended sid]) frames =
    { conn.lane sid rs frames with ended := true } := by
  simp [lane, events, acceptedBytes, returnedBytes]

theorem lane_shutDown_self : conn.lane sid (rs ++ [.shutDown sid]) frames =
    { conn.lane sid rs frames with shutDown := true } := by
  simp [lane, events, acceptedBytes, returnedBytes]

/-- What the handle of a stream is told. -/
def Tells (other : UInt32) (reply : ConnectionReply) : Prop :=
  reply = .done ∨ (∃ bytes, reply = .returned other bytes) ∨ reply = .ended other ∨
    (∃ bytes, reply = .accepted other bytes) ∨ reply = .shutDown other

theorem lane_tells {rep : ConnectionReply} (tells : Tells oid rep) (ne : oid ≠ sid) :
    conn.lane sid (rs ++ [rep]) frames = conn.lane sid rs frames := by
  rcases tells with rfl | ⟨bs, rfl⟩ | rfl | ⟨bs, rfl⟩ | rfl <;>
    simp [lane, events, acceptedBytes, returnedBytes, ne, Ne.symm ne]

/-- A call of a handle that the driver does not see. -/
theorem Path.handled (oid : UInt32) {rep : ConnectionReply} (ph : next.phase = conn.phase)
    (tells : Tells oid rep) (self : oid = sid → ∀ frames, Relation.ReflTransGen (LaneStep sid)
      (conn.lane sid rs frames) (next.lane sid (rs ++ [rep]) frames)) (others : oid ≠ sid → ∀ frames,
      next.lane sid rs frames = conn.lane sid rs frames) :
    Path sid conn rs next (rs ++ [rep]) := by
  intro frames kn
  refine ⟨frames, ph ▸ kn, ?_⟩
  by_cases same : oid = sid
  · exact self same frames
  · rw [lane_tells tells same, others same]

@[simp]
theorem assignStream_receiving : (conn.assignStream oid stream).receiving = conn.receiving := rfl

@[simp]
theorem assignHandle_receiving : (conn.assignHandle oid handle).receiving = conn.receiving := rfl

theorem assignStream_again (fst second : DriverStream) :
    (conn.assignStream oid fst).assignStream oid second = conn.assignStream oid second :=
  congrArg (fun streams => { conn with streams := streams }) (Finmap.insert_insert _)

theorem Path.idle : Path sid conn rs conn (rs ++ [.done]) := Path.unseen (fun runs => ⟨runs, rfl⟩) fun _ => rfl

section
variable (held : conn.handles.lookup oid = some handle)
include held

theorem pollRead_path (hp : conn.streams.lookup oid = some stream) (capacity : Nat) :
    Path sid conn rs (conn.pollRead oid handle stream capacity).1
      (rs ++ [(conn.pollRead oid handle stream capacity).2]) := by
  unfold pollRead
  generalize taken : readLoop capacity (!conn.receiving) stream.signals stream.status.state handle = result
  have reads (same : oid = sid) (frames : List Frame) :
      Relation.ReflTransGen (LaneStep sid) (conn.lane sid rs frames)
        ((conn.lane sid rs frames).read sid stream.status result) := by
    subst same taken
    have taken : (conn.lane oid rs frames).handle = some handle := held
    have there : (conn.lane oid rs frames).stream = some stream := hp
    exact Lane.read_path taken there
  have others (ne : oid ≠ sid) (frames : List Frame) : ((conn.assignStream oid { stream with
          signals := result.signals
          status := { stream.status with state := result.state } }).assignHandle oid
        result.handle).lane sid rs frames = conn.lane sid rs frames :=
    (lane_assignHandle_other ne).trans (lane_assignStream_other ne)
  cases result with | mk signals s after res => ?_
  cases res with
  | bytes bytes =>
    by_cases hears : conn.receiving = true
    · simp only [assignHandle_receiving, assignStream_receiving, hears, if_true]
      refine Path.handled oid rfl (.inr (.inl ⟨bytes, rfl⟩)) (fun same frames => ?_) fun ne frames => ?_
      · have path := reads same frames
        subst same
        have heard : (conn.lane oid rs frames).receiving = true := hears
        rw [lane_returned_self, lane_send_self rfl, lane_assignHandle_self, lane_assignStream_self]
        simp only [Lane.read] at path
        rw [if_pos heard] at path
        exact path
      · rw [lane_send_other (by simpa [DriverCommand.streamId] using ne)]
        exact others ne frames
    · simp only [assignHandle_receiving, assignStream_receiving, hears, Bool.false_eq_true, if_false]
      refine Path.handled oid rfl (.inl rfl) (fun same frames => ?_) others
      have path := reads same frames
      subst same
      have deaf : ¬ (conn.lane oid rs frames).receiving = true := hears
      rw [lane_done, lane_assignHandle_self, lane_assignStream_self]
      simp only [Lane.read] at path
      rw [if_neg deaf] at path
      exact path
  | ended =>
    refine Path.handled oid rfl (.inr (.inr (.inl rfl))) (fun same frames => ?_) others
    have path := reads same frames
    subst same
    rw [lane_ended_self, lane_assignHandle_self, lane_assignStream_self]
    exact path
  | waiting | failed =>
    refine Path.handled oid rfl (.inl rfl) (fun same frames => ?_) others
    have path := reads same frames
    subst same
    rw [lane_done, lane_assignHandle_self, lane_assignStream_self]
    exact path

theorem pollWrite_path (hp : conn.streams.lookup oid = some stream) (bs : Bytes) (waker : Nat) :
    Path sid conn rs (conn.pollWrite oid handle stream bs waker).1
      (rs ++ [(conn.pollWrite oid handle stream bs waker).2]) := by
  unfold pollWrite
  by_cases dead : stream.status.state ≠ .live
  · rw [if_pos dead]
    exact Path.idle
  rw [if_neg dead]
  by_cases shut : handle.writeShutdown = true
  · rw [if_pos shut]
    exact Path.idle
  rw [if_neg shut]
  by_cases nothing : bs = []
  · rw [if_pos nothing]
    refine Path.handled oid rfl (.inr (.inr (.inr (.inl ⟨[], rfl⟩)))) (fun same frames => ?_) fun _ _ => rfl
    subst same
    rw [lane_accepted_self, List.append_nil]
  rw [if_neg nothing]
  have others (status : StreamStatus) (ne : oid ≠ sid) (frames : List Frame) :
      (conn.assignStream oid { stream with status := status }).lane sid rs frames =
        conn.lane sid rs frames := lane_assignStream_other ne
  -- The waker is all that changes where no byte is staged.
  have rewoken (waker : Option Nat) : Path sid conn rs (conn.assignStream oid { stream with
        status := { stream.status with writeWaker := waker } }) (rs ++ [.done]) := by
    refine Path.handled oid rfl (.inl rfl) (fun same frames => ?_) (others _)
    subst same
    rw [lane_done, lane_assignStream_self]
    exact .single (.rewoken waker hp)
  by_cases full : maxStagedWriteBytesPerStream - stream.status.stagedBytes = 0
  · have reserved : stream.status.reserveStaging bs.length waker =
        ({ stream.status with writeWaker := some waker }, 0) := if_pos full
    rw [reserved]
    exact rewoken (some waker)
  · have reserved : stream.status.reserveStaging bs.length waker = ({ stream.status with
            stagedBytes := stream.status.stagedBytes +
              min bs.length (maxStagedWriteBytesPerStream - stream.status.stagedBytes) },
          min bs.length (maxStagedWriteBytesPerStream - stream.status.stagedBytes)) :=
      if_neg full
    have positive : 0 < bs.length := List.length_pos_iff.mpr nothing
    generalize granted : min bs.length
      (maxStagedWriteBytesPerStream - stream.status.stagedBytes) = staged at reserved
    have some_ : staged ≠ 0 := by omega
    rw [reserved]
    simp only [if_neg some_]
    by_cases hears : conn.receiving = true
    · rw [if_pos hears]
      refine Path.handled oid rfl (.inr (.inr (.inr (.inl ⟨bs.take staged, rfl⟩))))
        (fun same frames => ?_) fun ne frames => ?_
      · subst same
        have length : (bs.take staged).length = staged := by
          rw [List.length_take]
          omega
        have room : stream.status.stagedBytes + (bs.take staged).length ≤ maxStagedWriteBytesPerStream := by
          rw [length]
          omega
        have step : LaneStep oid (conn.lane oid rs frames) _ :=
          .accepted (bs.take staged) hears held hp (not_not.mp dead) (by simpa using shut) room
        rw [lane_accepted_self, lane_send_self rfl, lane_assignStream_self]
        rw [length] at step
        exact .single step
      · rw [lane_send_other (by simpa [DriverCommand.streamId] using ne)]
        exact others _ ne frames
    · rw [if_neg hears]
      have taken : ({ stream.status with stagedBytes := stream.status.stagedBytes + staged } :
          StreamStatus).releaseStaging staged = { stream.status with writeWaker := none } := by
        simp [StreamStatus.releaseStaging]
      rw [taken, assignStream_again]
      exact rewoken none

theorem pollShutdown_path : Path sid conn rs (conn.pollShutdown oid handle stream).1
      (rs ++ [(conn.pollShutdown oid handle stream).2]) := by
  have tells : Tells oid (.shutDown oid) := .inr (.inr (.inr (.inr rfl)))
  fun_cases pollShutdown conn oid handle stream with
  | case1 | case4 => exact Path.idle
  | case2 _ shut =>
    refine Path.handled oid rfl tells (fun same frames => ?_) fun _ _ => rfl
    subst same
    rw [lane_shutDown_self]
    exact .single (.shutAgain held shut)
  | case3 _ open_ hears =>
    refine Path.handled oid rfl tells (fun same frames => ?_) fun ne frames => ?_
    · subst same
      rw [lane_shutDown_self, lane_assignHandle_self, lane_send_self rfl]
      exact .single (.shut hears held (by simpa using open_))
    · rw [lane_assignHandle_other ne, lane_send_other (by simpa [DriverCommand.streamId] using ne)]

theorem resetStream_path (rsn : ResetReason) : Path sid conn rs (conn.resetStream oid handle stream rsn)
      (rs ++ [.done]) := by
  fun_cases resetStream conn oid handle stream rsn with
  | case1 | case3 => exact Path.idle
  | case2 _ hears =>
    refine Path.handled oid rfl (.inl rfl) (fun same frames => ?_) fun ne frames => ?_
    · subst same
      rw [lane_done, lane_assignHandle_self, lane_send_self rfl]
      exact .single (.resetAsked rsn held)
    · rw [lane_assignHandle_other ne, lane_send_other (by simpa [DriverCommand.streamId] using ne)]

end

theorem lane_dropped_self : ({ conn with handles := conn.handles.erase sid } : Connection).lane sid rs
      frames = { conn.lane sid rs frames with handle := none } :=
  congrArg (fun handle : Option HomeStream =>
    { conn.lane sid rs frames with handle := handle }) (Finmap.lookup_erase _ _)

theorem lane_dropped_other (ne : oid ≠ sid) :
    ({ conn with handles := conn.handles.erase oid } : Connection).lane sid rs frames = conn.lane sid rs frames :=
  congrArg (fun handle : Option HomeStream =>
      { conn.lane sid rs frames with handle := handle })
    (Finmap.lookup_erase_ne (Ne.symm ne))

theorem dropStream_path (held : conn.handles.lookup oid = some handle) :
    Path sid conn rs (conn.dropStream oid handle) (rs ++ [.done]) := by
  have step (frames : List Frame) : LaneStep oid (conn.lane oid rs frames) _ := .dropped held
  by_cases cancels : handle.writeShutdown = false ∧ conn.receiving = true
  · have heard (frames : List Frame) : handle.writeShutdown = false ∧
        (conn.lane oid rs frames).receiving = true := cancels
    have dropped : conn.dropStream oid handle =
        ({ conn with handles := conn.handles.erase oid } : Connection).send (.cancel oid) :=
      if_pos cancels
    simp only [if_pos (heard _)] at step
    rw [dropped]
    refine Path.handled oid rfl (.inl rfl) (fun same frames => ?_) fun ne frames => ?_
    · subst same
      rw [lane_done, lane_send_self rfl, lane_dropped_self]
      exact .single (step frames)
    · rw [lane_send_other (by simpa [DriverCommand.streamId] using ne), lane_dropped_other ne]
  · have unheard (frames : List Frame) : ¬ (handle.writeShutdown = false ∧
        (conn.lane oid rs frames).receiving = true) := cancels
    have dropped : conn.dropStream oid handle = { conn with handles := conn.handles.erase oid } := if_neg cancels
    simp only [if_neg (unheard _), List.append_nil] at step
    rw [dropped]
    refine Path.handled oid rfl (.inl rfl) (fun same frames => ?_) fun ne _ =>
      lane_dropped_other ne
    subst same
    rw [lane_done, lane_dropped_self]
    exact .single (step frames)

theorem closeConnection_path : Path sid conn rs (conn.send .closeConnection) (rs ++ [.done]) :=
  Path.unseen (fun runs => ⟨runs, rfl⟩) fun _ => lane_send_other (by rintro ⟨⟩)

theorem dropConnection_path : Path sid conn rs { conn with ownerGone := true } (rs ++ [.done]) :=
  Path.unseen (fun runs => ⟨runs, rfl⟩) fun _ => rfl

end Connection

end SplRust.Home
