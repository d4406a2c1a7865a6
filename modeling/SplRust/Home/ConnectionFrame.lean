import SplRust.Home.ConnectionHandle

/-! What a step of a connection leaves alone. -/

namespace SplRust.Home
open SplRust.Lib SplRust.Core List Option

namespace Connection
variable {conn mid next : Connection} {sid oid opened : UInt32} {hdl : HomeStream}
  {st after : DriverStream} {call : ConnectionCall} {rep : ConnectionReply}

/-- The driver's own steps: no handle comes or goes and no stream is forgotten or found, and
nothing written is taken back. -/
structure Driven (conn next : Connection) : Prop where
  handles : next.handles = conn.handles
  streams : ∀ sid, sid ∈ next.streams ↔ sid ∈ conn.streams
  written : conn.written <+: next.written

namespace Driven

theorem same (handles : next.handles = conn.handles) (streams : next.streams = conn.streams)
    (written : next.written = conn.written) : conn.Driven next :=
  ⟨handles, fun _ => streams ▸ Iff.rfl, written ▸ prefix_rfl⟩

theorem trans (fst : conn.Driven mid) (snd : mid.Driven next) : conn.Driven next :=
  ⟨snd.handles.trans fst.handles, fun sid => (snd.streams sid).trans (fst.streams sid), fst.written.trans snd.written⟩

theorem assign (change : DriverStream → DriverStream) (sid : UInt32) : conn.Driven { conn with
      streams := Table.assign conn.streams sid ((conn.streams.lookup sid).map change) } := by
  refine ⟨rfl, fun oid => ?_, prefix_rfl⟩
  simp only [Table.mem_iff_lookup]
  by_cases same : oid = sid
  · subst same
    simp [Table.lookup_assign]
  · rw [Table.lookup_assign_of_ne _ same]

theorem updateStatus (update : StreamStatus → StreamStatus) (sid : UInt32) :
    conn.Driven (conn.updateStatus sid update) := assign _ sid

theorem signal (sid : UInt32) (signal : StreamSignal) : conn.Driven (conn.signal sid signal) := by
  unfold Connection.signal
  split
  · exact assign _ sid
  · exact same rfl rfl rfl

theorem discard (sid : UInt32) : conn.Driven (conn.discardPendingStream sid) := by
  unfold discardPendingStream
  cases conn.pending.lookup sid with
  | none => exact same rfl rfl rfl
  | some q => exact (updateStatus (·.releaseStaging q.length) sid).trans (same rfl rfl rfl)

theorem pushReady (sid : UInt32) : conn.Driven (conn.pushReady sid) := by
  unfold Connection.pushReady
  split <;> exact same rfl rfl rfl

theorem closeIfAsked (rounds : Nat) (prog : Bool) : conn.Driven (conn.closeIfAsked sid rounds prog) := by
  unfold Connection.closeIfAsked
  split
  · simp only
    split <;> exact same rfl rfl rfl
  · exact same rfl rfl rfl

theorem sendChunk (q : Bytes) (count rounds : Nat) (prog : Bool) :
    conn.Driven (conn.sendChunk sid q count rounds prog) := by
  unfold Connection.sendChunk
  simp only
  split
  · exact same rfl rfl rfl
  · exact same rfl rfl rfl
  · have drained : conn.Driven { conn with pending := conn.pending.insert sid (q.drop count) } := same rfl rfl rfl
    exact drained.trans ((discard sid).trans (same rfl rfl rfl))
  · exact same rfl rfl rfl

theorem flushRound (rounds : Nat) (prog : Bool) : conn.Driven (conn.flushRound rounds prog) := by
  unfold Connection.flushRound
  split
  · exact same rfl rfl rfl
  next sid rest queued =>
    have popped : conn.Driven { conn with ready := rest } := same rfl rfl rfl
    simp only
    split
    · exact popped.trans ((discard sid).trans (same rfl rfl rfl))
    · split
      · exact popped.trans (closeIfAsked rounds prog)
      next q waiting =>
        split
        · have dropped : conn.Driven { conn with
              ready := rest, pending := conn.pending.erase sid } := same rfl rfl rfl
          exact dropped.trans (closeIfAsked rounds prog)
        · exact popped.trans (sendChunk q _ rounds prog)

theorem endFlush (prog : Bool) : conn.Driven (conn.endFlush prog) := same rfl rfl rfl

theorem resume (resume : Resume) : conn.Driven (conn.resume resume) := by
  cases resume with
  | flush | finish | round => exact same rfl rfl rfl
  | sent sender count rounds =>
    have released : conn.Driven (conn.updateStatus sender (·.releaseStaging count)) := updateStatus _ sender
    unfold Connection.resume
    simp only
    split
    · exact released.trans (same rfl rfl rfl)
    · have dropped : conn.Driven { conn.updateStatus sender (·.releaseStaging count) with
          pending := conn.pending.erase sender } := released.trans (same rfl rfl rfl)
      exact dropped.trans (closeIfAsked rounds true)

theorem writeFrame (fr : Frame) (fs : List Frame) (es : List MuxEvent)
    (resume : Resume) : conn.Driven (conn.writeFrame fr fs es resume) := by
  unfold Connection.writeFrame
  split
  · exact same rfl rfl rfl
  · exact ⟨rfl, fun _ => Iff.rfl, prefix_append _ _⟩

theorem giveUp (rsn : ResetReason) : conn.Driven (conn.giveUp sid rsn) := by
  unfold Connection.giveUp
  simp only
  split <;> exact (discard sid).trans (same rfl rfl rfl)

theorem handleCommand (cmd : DriverCommand) : conn.Driven (conn.handleCommand cmd) := by
  cases cmd with
  | write sid bytes =>
    have queued : conn.Driven { conn with
        pending := conn.pending.insert sid ((conn.pending.lookup sid).getD [] ++ bytes) } :=
      same rfl rfl rfl
    exact queued.trans ((pushReady sid).trans (same rfl rfl rfl))
  | consumed =>
    unfold Connection.handleCommand
    simp only
    split <;> exact same rfl rfl rfl
  | close sid =>
    have asked : conn.Driven { conn with closing := insert sid conn.closing } := same rfl rfl rfl
    exact asked.trans ((pushReady sid).trans (same rfl rfl rfl))
  | cancel => exact giveUp .cancel
  | reset _ rsn => exact giveUp rsn
  | wake | closeConnection => exact same rfl rfl rfl

theorem readBytes (conn : Connection) (bs : Bytes) : conn.Driven (conn.readBytes bs).1 := by
  unfold Connection.readBytes
  cases conn.acceptor.feed bs with
  | mk _ rep => cases rep <;> exact same rfl rfl rfl

theorem tell (sid : UInt32) (left : Finset UInt32) : conn.Driven (conn.tell sid left) :=
  ((updateStatus _ sid).trans (signal sid .gone)).trans (same rfl rfl rfl)

end Driven

/-- What the operations of the handles and of the owner leave alone; one of them drops a
handle. -/
structure Handled (conn : Connection) (dropped : Option UInt32) (next : Connection) : Prop where
  acceptor : next.acceptor = conn.acceptor
  phase : next.phase = conn.phase
  ready : next.ready = conn.ready
  written : next.written = conn.written
  handles : ∀ sid ∈ conn.handles, dropped ≠ some sid → sid ∈ next.handles
  commands : conn.commands <+: next.commands
  streams : ∀ sid after, next.streams.lookup sid = some after → ∃ before, conn.streams.lookup sid = some before ∧
      (before.status.state ≠ .live → after.status.state = before.status.state)

namespace Handled

theorem refl (conn : Connection) : conn.Handled none conn :=
  ⟨rfl, rfl, rfl, rfl, fun _ held _ => held, prefix_rfl, fun _ after found => ⟨after, found, fun _ => rfl⟩⟩

theorem send {dropped : Option UInt32} (hd : conn.Handled dropped next)
    (cmd : DriverCommand) : conn.Handled dropped (next.send cmd) :=
  { hd with commands := hd.commands.trans (prefix_append _ _) }

theorem assignHandle (hd : conn.Handled none next) (hdl : HomeStream) :
    conn.Handled none (next.assignHandle oid hdl) :=
  { hd with handles := fun sid held kept => Finmap.mem_insert.mpr (.inr (hd.handles sid held kept)) }

section
variable (hp : conn.streams.lookup oid = some st)
include hp

theorem assignStream (s : st.status.state ≠ .live → after.status.state = st.status.state) :
    conn.Handled none (conn.assignStream oid after) where
  acceptor := rfl
  phase := rfl
  ready := rfl
  written := rfl
  handles := fun _ held _ => held
  commands := prefix_rfl
  streams sid later found := by
    simp only [Connection.assignStream] at found
    by_cases same : sid = oid
    · subst same
      rw [Finmap.lookup_insert] at found
      cases found
      exact ⟨st, hp, s⟩
    · rw [Finmap.lookup_insert_of_ne _ same] at found
      exact ⟨later, found, fun _ => rfl⟩

theorem pollRead (capacity : Nat) : conn.Handled none (conn.pollRead oid hdl st capacity).1 := by
  unfold Connection.pollRead
  generalize taken : readLoop capacity (!conn.receiving) st.signals st.status.state hdl = result
  have s (dead : st.status.state ≠ .live) : result.state = st.status.state := by rw [← taken, readLoop_dead dead]
  have assigned : conn.Handled none ((conn.assignStream oid { st with
      signals := result.signals
      status := { st.status with state := result.state } }).assignHandle oid result.handle) :=
    (assignStream hp s).assignHandle result.handle
  cases result with | mk signals s after res => ?_
  cases res with
  | bytes =>
    by_cases hears : conn.receiving = true
    · simp only [assignHandle_receiving, assignStream_receiving, hears, if_true]
      exact assigned.send _
    · simp only [assignHandle_receiving, assignStream_receiving, hears, Bool.false_eq_true, if_false]
      exact assigned
  | ended | waiting | failed => exact assigned

theorem pollWrite (bs : Bytes) (waker : Nat) :
    conn.Handled none (conn.pollWrite oid hdl st bs waker).1 := by
  have kept : (st.status.reserveStaging bs.length waker).1.state = st.status.state := by
    unfold StreamStatus.reserveStaging
    simp only
    split <;> rfl
  unfold Connection.pollWrite
  cases reserved : st.status.reserveStaging bs.length waker with | mk status staged => ?_
  rw [reserved] at kept
  simp only [assignStream_again]
  split_ifs
  · exact refl conn
  · exact refl conn
  · exact refl conn
  · exact assignStream hp fun _ => kept
  · exact (assignStream hp fun _ => kept).send _
  · exact assignStream hp fun _ => kept

end

theorem pollShutdown : conn.Handled none (conn.pollShutdown oid hdl st).1 := by
  unfold Connection.pollShutdown
  repeat' split
  · exact refl conn
  · exact refl conn
  · exact ((refl conn).send _).assignHandle _
  · exact refl conn

theorem resetStream (rsn : ResetReason) : conn.Handled none (conn.resetStream oid hdl st rsn) := by
  unfold Connection.resetStream
  repeat' split
  · exact refl conn
  · exact ((refl conn).send _).assignHandle _
  · exact refl conn

theorem dropStream : conn.Handled (some oid) (conn.dropStream oid hdl) := by
  have erased : conn.Handled (some oid) { conn with handles := conn.handles.erase oid } :=
    { refl conn with
      handles := fun sid held kept =>
        Finmap.mem_erase.mpr ⟨fun same => kept (congrArg some same.symm), held⟩ }
  unfold Connection.dropStream
  simp only
  split
  · exact erased.send _
  · exact erased

end Handled

/-- An operation of a handle needs the handle and its stream. -/
theorem onHandle_some {operation : HomeStream → DriverStream → Connection × ConnectionReply}
    {result : Connection × ConnectionReply} (done : conn.onHandle oid operation = some result) :
    ∃ hdl st, conn.handles.lookup oid = some hdl ∧ conn.streams.lookup oid = some st ∧ operation hdl st = result := by
  unfold onHandle at done
  cases held : conn.handles.lookup oid with
  | none =>
    rw [held] at done
    cases done
  | some hdl =>
    cases hp : conn.streams.lookup oid with
    | none =>
      rw [held, hp] at done
      cases done
    | some st =>
      rw [held, hp] at done
      exact ⟨hdl, st, rfl, rfl, some.inj done⟩

/-- What every step does to the carrier's frames, the handles and the known streams. -/
structure Framed (conn : Connection) (call : ConnectionCall) (next : Connection) : Prop where
  written : conn.written <+: next.written
  handles : ∀ sid ∈ conn.handles, call ≠ .drop sid → sid ∈ next.handles
  streams : next.phase.running = true → ∀ sid ∈ next.streams, sid ∈ conn.streams ∨ sid ∈ next.handles

theorem Driven.framed (driven : conn.Driven next) : conn.Framed call next where
  written := driven.written
  handles _ held _ := driven.handles ▸ held
  streams _ sid known := .inl ((driven.streams sid).mp known)

theorem Handled.framed {dropped : Option UInt32} (hd : conn.Handled dropped next)
    (drops : ∀ sid, dropped = some sid → call = .drop sid) : conn.Framed call next where
  written := hd.written ▸ prefix_rfl
  handles sid held kept := hd.handles sid held fun same => kept (drops sid same)
  streams _ sid known := by
    left
    obtain ⟨after, found⟩ := ne_none_iff_exists'.mp (Table.mem_iff_lookup.mp known)
    obtain ⟨_, hp, -⟩ := hd.streams sid after found
    rw [Table.mem_iff_lookup, hp]
    exact some_ne_none _

/-- A new stream comes with its handle, unless the driver stops. -/
theorem deliverEvent_framed (es : List MuxEvent) (resume : Resume) (ev : MuxEvent) :
    conn.Framed call (conn.deliverEvent es resume ev) := by
  cases ev with
  | opened =>
    unfold deliverEvent
    simp only
    split
    · exact ⟨prefix_rfl, fun _ held _ => held, (by rintro ⟨⟩)⟩
    · refine ⟨prefix_rfl, fun sid held _ => Finmap.mem_insert.mpr (.inr held), fun _ sid known => ?_⟩
      rcases Finmap.mem_insert.mp known with rfl | pre
      · exact .inr (Finmap.mem_insert.mpr (.inl rfl))
      · exact .inl pre
  | data sid bytes =>
    refine Driven.framed ?_
    exact (Driven.signal sid (.data bytes)).trans (.same rfl rfl rfl)
  | readClosed sid =>
    refine Driven.framed ?_
    exact (Driven.signal sid .readEof).trans (.same rfl rfl rfl)
  | reset sid =>
    refine Driven.framed ?_
    exact ((Driven.updateStatus _ sid).trans (.signal sid .reset)).trans (.same rfl rfl rfl)
  | peerGone =>
    refine Driven.framed ?_
    exact .same rfl rfl rfl

theorem advance_framed {opened : Option UInt32} (advanced : conn.advance = some (next, opened)) :
    conn.Framed call next := by
  revert advanced
  fun_cases advance conn with
  | case1 _ fr fs es resume =>
    rintro ⟨⟩
    exact (Driven.writeFrame fr fs es resume).framed
  | case2 | case7 =>
    rintro ⟨⟩
    refine Driven.framed ?_
    exact .same rfl rfl rfl
  | case3 ev es resume =>
    rintro ⟨⟩
    exact deliverEvent_framed es resume ev
  | case4 resume =>
    rintro ⟨⟩
    exact (Driven.resume resume).framed
  | case5 prog =>
    rintro ⟨⟩
    exact (Driven.endFlush prog).framed
  | case6 rounds prog =>
    rintro ⟨⟩
    exact (Driven.flushRound rounds prog).framed
  | _ => rintro ⟨⟩

theorem step_framed (hs : conn.step call = some (next, rep)) : conn.Framed call next := by
  revert hs
  fun_cases Connection.step conn call with
  | case1 bs _ _ _ done | case2 bs _ _ done =>
    have driven := Driven.readBytes conn bs
    rw [done] at driven
    rintro ⟨⟩
    exact driven.framed
  | case4 | case6 | case14 =>
    rintro ⟨⟩
    refine Driven.framed ?_
    exact .same rfl rfl rfl
  | case8 cmd rest =>
    rintro ⟨⟩
    have popped : conn.Driven { conn with commands := rest } := .same rfl rfl rfl
    exact (popped.trans (.handleCommand cmd)).framed
  | case11 _ _ advanced | case12 _ advanced =>
    rintro ⟨⟩
    exact advance_framed advanced
  | case17 sid left =>
    rintro ⟨⟩
    exact (Driven.tell sid left).framed
  | case21 sid capacity =>
    intro hs
    obtain ⟨hdl, st, _, hp, done⟩ := onHandle_some hs
    have hd : conn.Handled none (conn.pollRead sid hdl st capacity).1 := .pollRead hp capacity
    rw [done] at hd
    exact hd.framed (by rintro _ ⟨⟩)
  | case22 sid bs waker =>
    intro hs
    obtain ⟨hdl, st, _, hp, done⟩ := onHandle_some hs
    have hd : conn.Handled none (conn.pollWrite sid hdl st bs waker).1 := .pollWrite hp bs waker
    rw [done] at hd
    exact hd.framed (by rintro _ ⟨⟩)
  | case23 sid =>
    intro hs
    obtain ⟨hdl, st, _, _, done⟩ := onHandle_some hs
    have hd : conn.Handled none (conn.pollShutdown sid hdl st).1 := .pollShutdown
    rw [done] at hd
    exact hd.framed (by rintro _ ⟨⟩)
  | case24 _ rsn =>
    intro hs
    obtain ⟨_, _, _, _, ⟨⟩⟩ := onHandle_some hs
    exact (Handled.resetStream rsn).framed (by rintro _ ⟨⟩)
  | case25 =>
    intro hs
    obtain ⟨_, _, _, _, ⟨⟩⟩ := onHandle_some hs
    exact Handled.dropStream.framed fun oid same => congrArg _ (some.inj same)
  | case26 =>
    rintro ⟨⟩
    exact ((Handled.refl conn).send _).framed (by rintro _ ⟨⟩)
  | case28 =>
    rintro ⟨⟩
    have hd : conn.Handled none { conn with ownerGone := true } := { Handled.refl conn with }
    exact hd.framed (by rintro _ ⟨⟩)
  | _ => rintro ⟨⟩

end Connection

end SplRust.Home
