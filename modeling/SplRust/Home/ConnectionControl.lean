import SplRust.Home.ConnectionFrame

/-! What holds of a connection as a whole wherever its driver is. -/

namespace SplRust.Home
open SplRust.Lib SplRust.Core List MuxStreams

/-- The queues fit the place the driver is at. While a flush has made no progress, its rounds
reach to the end of the ready queue; a parked driver with ready streams wakes itself. -/
def DriverPhase.Fits (conn : Connection) : DriverPhase → Prop
  | parked => conn.ready ≠ [] → .wake ∈ conn.commands
  | delivering _ _ _ .flush => True
  | delivering unflushed frames events .finish => unflushed = false ∧ frames = [] ∧ ∀ ev ∈ events, ev.streamId = none
  | delivering _ _ _ (.round rounds progress) => progress = false → conn.ready.length ≤ rounds
  | delivering _ _ _ (.sent sender _ _) => sender ∉ conn.ready
  | flushing rounds progress => progress = false → conn.ready.length ≤ rounds
  | leaving left => ∀ sid, sid ∉ left → ∀ st, conn.streams.lookup sid = some st → st.status.state = .gone
  | stopped => True
  | panicked => False

namespace Connection

structure Controlled (limits : MuxLimits) (conn : Connection) : Prop where
  valid : conn.phase.running = true → conn.acceptor.Valid limits
  distinct : conn.ready.Nodup
  fits : conn.phase.Fits conn

variable {limits : MuxLimits} {conn : Connection} {sid : UInt32}

theorem pushReady_nodup (nd : conn.ready.Nodup) (sid : UInt32) : (conn.pushReady sid).ready.Nodup := by
  unfold pushReady
  split
  · exact nd
  next off => exact nd.append (nodup_singleton _) (disjoint_singleton.mpr off)

theorem markWritable_nodup (nd : conn.ready.Nodup) (out : MuxOutput) :
    (conn.markWritableStreams out).ready.Nodup := by
  unfold markWritableStreams
  generalize conn.ready = ready at nd
  induction out.writableStreams generalizing ready with
  | nil => exact nd
  | cons writable rest ih =>
    rw [foldl_cons]
    apply ih
    split
    next marks => exact nd.append (nodup_singleton _) (disjoint_singleton.mpr marks.2)
    · exact nd

theorem discard_ready (sid : UInt32) : (conn.discardPendingStream sid).ready =
    conn.ready.filter fun readyId => readyId != sid := by
  unfold discardPendingStream
  cases conn.pending.lookup sid <;> rfl

theorem discard_nodup (nd : conn.ready.Nodup) (sid : UInt32) : (conn.discardPendingStream sid).ready.Nodup := by
  rw [discard_ready]
  exact nd.filter _

namespace Controlled
variable {rounds : Nat} {prog unflushed : Bool} {fs : List Frame} {es : List MuxEvent}

theorem fits_leaving : (DriverPhase.leaving conn.streams.keys).Fits conn := by
  intro sid abs st hp
  refine absurd ?_ abs
  rw [Finmap.mem_keys, Table.mem_iff_lookup, hp]
  exact Option.some_ne_none _

theorem stop (nd : conn.ready.Nodup) (rsn : CarrierClose) : (conn.stop rsn).Controlled limits where
  valid := by rintro ⟨⟩
  distinct := nd
  fits := fits_leaving

theorem flushReady (valid : conn.acceptor.Valid limits) (nd : conn.ready.Nodup) :
    conn.flushReady.Controlled limits :=
  ⟨fun _ => valid, nd, fun _ => le_refl _⟩

theorem pushed (valid : conn.acceptor.Valid limits) (nd : conn.ready.Nodup)
    (sid : UInt32) : (conn.pushReady sid).flushReady.Controlled limits := by
  refine flushReady ?_ (pushReady_nodup nd sid)
  unfold Connection.pushReady
  split <;> exact valid

theorem flushing (valid : conn.acceptor.Valid limits) (nd : conn.ready.Nodup)
    (fits : prog = false → conn.ready.length ≤ rounds) :
    ({ conn with phase := .flushing rounds prog } : Connection).Controlled limits :=
  ⟨fun _ => valid, nd, fits⟩

theorem delivers (valid : conn.acceptor.Valid limits) (nd : conn.ready.Nodup)
    (out : MuxOutput) : (conn.deliverOutput out .flush).Controlled limits :=
  ⟨fun _ => valid, nd, trivial⟩

theorem valid_act {mux : MuxStreams} (valid : conn.acceptor.Valid limits) (call : LocalCall)
    (called : (conn.acceptor.localCall call).1 = mux) : (conn.withMux mux).acceptor.Valid limits := by
  subst called
  exact valid.act call

theorem closeIfAsked (valid : conn.acceptor.Valid limits) (nd : conn.ready.Nodup)
    (fits : prog = false → conn.ready.length ≤ rounds) :
    (conn.closeIfAsked sid rounds prog).Controlled limits := by
  unfold Connection.closeIfAsked
  by_cases asked : sid ∈ conn.closing
  · rw [if_pos asked]
    rcases conn.acceptor.closeWrite_cases sid with ⟨-, closed⟩ | ⟨st, -, -, done⟩
    · simp only [closed]
      exact ⟨fun _ => valid, nd, fits⟩
    · simp only [done]
      refine ⟨fun _ => valid_act valid (.closeWrite sid) ?_, nd, fits⟩
      rw [localCall, done]
  · rw [if_neg asked]
    exact flushing valid nd fits

theorem discarded (valid : conn.acceptor.Valid limits) (nd : conn.ready.Nodup)
    (fits : prog = false → conn.ready.length ≤ rounds) : ({ conn.discardPendingStream sid with
      phase := .flushing rounds prog } : Connection).Controlled limits := by
  refine flushing ?_ (discard_nodup nd sid) fun still => ?_
  · rw [discard_acceptor]
    exact valid
  · rw [discard_ready]
    exact (length_filter_le _ _).trans (fits still)

theorem sendChunk {q : Bytes} (valid : conn.acceptor.Valid limits) (nd : conn.ready.Nodup)
    (off : sid ∉ conn.ready) (fits : prog = false → conn.ready.length ≤ rounds) :
    (conn.sendChunk sid q (chunkOf q) rounds prog).Controlled limits := by
  have small : (q.take (chunkOf q)).length ≤ recommendedChunk := by
    simp only [length_take, chunkOf]
    omega
  unfold Connection.sendChunk
  rcases conn.acceptor.trySendData_cases sid small with
    ⟨-, closed⟩ | ⟨st, -, -, ⟨-, withheld⟩ | ⟨-, sent⟩⟩
  · simp only [closed]
    exact discarded valid nd fits
  · simp only [withheld]
    exact flushing valid nd fits
  · simp only [sent]
    refine ⟨fun _ => valid_act valid (.trySendData sid (q.take (chunkOf q))) ?_, nd, off⟩
    rw [localCall, sent]

section
variable (inv : conn.Controlled limits)
include inv

theorem flushRound (flushes : conn.phase = .flushing (rounds + 1) prog) :
    (conn.flushRound rounds prog).Controlled limits := by
  have valid := inv.valid (quiet_flushing flushes).running
  have nd := inv.distinct
  have fits := inv.fits
  rw [flushes] at fits
  unfold Connection.flushRound
  split
  next empty =>
    refine flushing valid nd fun _ => ?_
    rw [empty]
    exact le_refl _
  next sid rest queued =>
    rw [queued] at nd
    obtain ⟨off, rest_nodup⟩ := nodup_cons.mp nd
    have shorter (still : prog = false) : rest.length ≤ rounds := by
      have bound := fits still
      rw [queued, length_cons] at bound
      omega
    simp only
    split
    · exact discarded valid rest_nodup shorter
    · split
      · exact closeIfAsked valid rest_nodup shorter
      next q wait =>
        split
        · exact closeIfAsked valid rest_nodup shorter
        · exact sendChunk valid rest_nodup off shorter

theorem endFlush (flushes : conn.phase = .flushing 0 prog) : (conn.endFlush prog).Controlled limits where
  valid _ := inv.valid (quiet_flushing flushes).running
  distinct := inv.distinct
  fits := by
    have fits := inv.fits
    rw [flushes] at fits
    intro wait
    have moved : prog = true := by
      by_contra still
      exact wait (length_eq_zero_iff.mp (Nat.le_zero.mp (fits (by simpa using still))))
    simp only [Connection.endFlush]
    rw [if_pos ⟨moved, wait⟩]
    exact mem_append_right _ mem_cons_self

theorem resume {resume : Resume} (delivered : conn.phase = .delivering false [] [] resume) :
    (conn.resume resume).Controlled limits := by
  have fits := inv.fits
  rw [delivered] at fits
  cases resume with
  | flush => exact flushReady (inv.valid (running_delivering delivered (by rintro ⟨⟩))) inv.distinct
  | finish => exact ⟨(by rintro ⟨⟩), inv.distinct, fits_leaving⟩
  | round => exact flushing (inv.valid (running_delivering delivered (by rintro ⟨⟩))) inv.distinct fits
  | sent =>
    have valid := inv.valid (running_delivering delivered (by rintro ⟨⟩))
    unfold Connection.resume
    simp only
    split
    · refine ⟨fun _ => valid, ?_, (by rintro ⟨⟩)⟩
      exact inv.distinct.append (nodup_singleton _) (disjoint_singleton.mpr fits)
    · exact closeIfAsked valid inv.distinct (by rintro ⟨⟩)

theorem redelivers {next : Connection} {still : Bool} {rest : List Frame} {later : List MuxEvent} {resume : Resume}
    (pre : conn.phase = .delivering unflushed fs es resume)
    (after : next.phase = .delivering still rest later resume)
    (acc : next.acceptor = conn.acceptor) (ready : next.ready = conn.ready)
    (finishing : resume = .finish → still = false ∧ rest = [] ∧
      ∀ ev ∈ later, ev.streamId = none) : next.Controlled limits := by
  have fits := inv.fits
  rw [pre] at fits
  refine ⟨fun runs => ?_, ready ▸ inv.distinct, ?_⟩
  · rw [acc]
    apply inv.valid
    rw [pre]
    rw [after] at runs
    exact runs
  · rw [after]
    cases resume with
    | flush => trivial
    | finish => exact finishing rfl
    | round =>
      intro none
      rw [ready]
      exact fits none
    | sent =>
      intro queued
      rw [ready] at queued
      exact fits queued

theorem finishing {resume : Resume}
    (pre : conn.phase = .delivering unflushed fs es resume) (finishes : resume = .finish) :
    unflushed = false ∧ fs = [] ∧ ∀ ev ∈ es, ev.streamId = none := by
  have fits := inv.fits
  rw [pre, finishes] at fits
  exact fits

theorem writeFrame {fr : Frame} {resume : Resume}
    (delivering : conn.phase = .delivering unflushed (fr :: fs) es resume) :
    (conn.writeFrame fr fs es resume).Controlled limits := by
  unfold Connection.writeFrame
  cases fr.encode with
  | error => exact stop inv.distinct _
  | ok =>
    refine inv.redelivers delivering rfl rfl rfl fun finishes => ?_
    cases (inv.finishing delivering finishes).2.1

end

@[simp]
theorem signal_frame (other : UInt32) (signal : StreamSignal) : (conn.signal other signal).acceptor = conn.acceptor ∧
      (conn.signal other signal).ready = conn.ready := by
  unfold Connection.signal
  split <;> exact ⟨rfl, rfl⟩

theorem deliverEvent {ev : MuxEvent} {resume : Resume} (inv : conn.Controlled limits)
    (delivering : conn.phase = .delivering false [] (ev :: es) resume) :
    (conn.deliverEvent es resume ev).Controlled limits := by
  have finishing (finishes : resume = .finish) :
      false = false ∧ ([] : List Frame) = [] ∧ ∀ ev ∈ es, ev.streamId = none :=
    ⟨rfl, rfl, fun ev mem =>
      (inv.finishing delivering finishes).2.2 ev (mem_cons_of_mem _ mem)⟩
  cases ev with
  | opened =>
    unfold Connection.deliverEvent
    simp only
    split
    · refine stop ?_ _
      exact inv.distinct
    · exact inv.redelivers delivering rfl rfl rfl finishing
  | data oid bs | readClosed oid =>
    exact inv.redelivers delivering rfl (signal_frame ..).1 (signal_frame ..).2 finishing
  | reset => exact inv.redelivers delivering rfl (signal_frame ..).1 (signal_frame ..).2 finishing
  | peerGone => exact inv.redelivers delivering rfl rfl rfl finishing

theorem giveUp (valid : conn.acceptor.Valid limits) (nd : conn.ready.Nodup)
    (sid : UInt32) (rsn : ResetReason) : (conn.giveUp sid rsn).Controlled limits := by
  have kept : (conn.discardPendingStream sid).acceptor.Valid limits := by
    rw [discard_acceptor]
    exact valid
  have apart := discard_nodup nd sid
  unfold Connection.giveUp
  rcases (conn.discardPendingStream sid).acceptor.reset_cases sid rsn with
    ⟨-, closed⟩ | ⟨st, -, reset⟩
  · simp only [closed]
    exact flushReady kept apart
  · simp only [reset]
    refine delivers ?_ ?_ _
    · apply valid_act kept (.reset sid rsn)
      rw [localCall, reset]
    · exact apart

section
variable (inv : conn.Controlled limits)
include inv

theorem consumed {oid : UInt32} {bs : Nat} {rest : List DriverCommand}
    {rs : List ConnectionReply} (parked : conn.phase = .parked)
    (pops : conn.commands = .consumed oid bs :: rest) (sound : (conn.lane oid rs []).Sound oid) :
    (({ conn with commands := rest } : Connection).handleCommand (.consumed oid bs)).Controlled limits := by
  have quiet := quiet_parked parked
  have valid := inv.valid quiet.running
  cases live : conn.acceptor.streams.lookup oid with
  | none =>
    simp only [Connection.handleCommand, consume_absent live]
    refine ⟨fun _ => valid, inv.distinct, ?_⟩
    have fits := inv.fits
    rw [parked] at fits ⊢
    intro wait
    have wakes := fits wait
    rw [pops] at wakes
    exact (mem_cons.mp wakes).resolve_left (by rintro ⟨⟩)
  | some st =>
    have fits := owed_fits quiet pops sound live
    obtain ⟨_, _, consumed⟩ := consume_fits valid.inv live fits
    simp only [Connection.handleCommand, consumed]
    refine delivers ?_ (markWritable_nodup ?_ _) _
    · apply valid_act valid (.consume oid bs)
      rw [localCall, consumed]
    · exact inv.distinct

theorem handleCommand {cmd : DriverCommand} {rest : List DriverCommand}
    {rs : List ConnectionReply} (parked : conn.phase = .parked) (pops : conn.commands = cmd :: rest)
    (sound : ∀ oid, (conn.lane oid rs []).Sound oid) :
    (({ conn with commands := rest } : Connection).handleCommand cmd).Controlled limits := by
  have valid := inv.valid (quiet_parked parked).running
  have nd := inv.distinct
  cases cmd with
  | write oid | close oid =>
    refine pushed ?_ ?_ oid
    · exact valid
    · exact nd
  | consumed oid => exact inv.consumed parked pops (sound oid)
  | cancel oid =>
    refine giveUp ?_ ?_ oid .cancel
    · exact valid
    · exact nd
  | reset oid rsn =>
    refine giveUp ?_ ?_ oid rsn
    · exact valid
    · exact nd
  | wake =>
    refine flushReady ?_ ?_
    · exact valid
    · exact nd
  | closeConnection =>
    refine stop ?_ _
    exact nd

theorem readBytes (parked : conn.phase = .parked) (bs : Bytes) : (conn.readBytes bs).1.Controlled limits := by
  have valid := (inv.valid (quiet_parked parked).running).feed bs
  unfold Connection.readBytes
  cases done : conn.acceptor.feed bs with
  | mk _ rep =>
    rw [done] at valid
    cases rep with
    | error =>
      refine stop ?_ _
      exact inv.distinct
    | ok out =>
      refine delivers ?_ (markWritable_nodup ?_ out) out
      · exact valid.1
      · exact inv.distinct

theorem readEof : conn.readEof.Controlled limits where
  valid := by rintro ⟨⟩
  distinct := inv.distinct
  fits := by
    refine ⟨rfl, rfl, fun ev mem => ?_⟩
    cases mem_singleton.mp mem
    rfl

end

/-- A signal does not touch the status. -/
theorem signal_status (sid oid : UInt32) (signal : StreamSignal) :
    ((conn.signal sid signal).streams.lookup oid).map DriverStream.status =
      (conn.streams.lookup oid).map DriverStream.status := by
  unfold Connection.signal
  split
  · by_cases same : oid = sid
    · subst same
      simp only [Table.lookup_assign, Option.map_map]
      rfl
    · simp only [Table.lookup_assign_of_ne _ same]
  · rfl

theorem tell {left : Finset UInt32} (inv : conn.Controlled limits)
    (leaving : conn.phase = .leaving left) (sid : UInt32) : (conn.tell sid left).Controlled limits where
  valid := by rintro ⟨⟩
  distinct := by
    unfold Connection.tell
    rw [(signal_frame ..).2]
    exact inv.distinct
  fits := by
    have fits := inv.fits
    rw [leaving] at fits
    intro oid abs st hp
    have status : ((conn.updateStatus sid fun status =>
        { status with state := .gone }).streams.lookup oid).map DriverStream.status = some st.status := by
      rw [← signal_status sid oid .gone]
      exact congrArg (Option.map DriverStream.status) hp
    simp only [Connection.updateStatus] at status
    by_cases same : oid = sid
    · subst same
      rw [Table.lookup_assign, Option.map_map] at status
      obtain ⟨_, -, gone⟩ := Option.map_eq_some_iff.mp status
      exact gone ▸ rfl
    · rw [Table.lookup_assign_of_ne _ same] at status
      obtain ⟨pre, fnd, eq⟩ := Option.map_eq_some_iff.mp status
      have outside : oid ∉ left := fun mem => abs (Finset.mem_erase.mpr ⟨same, mem⟩)
      exact eq ▸ fits oid outside pre fnd

theorem stopped (inv : conn.Controlled limits) : ({ conn with phase := .stopped } : Connection).Controlled limits :=
  ⟨(by rintro ⟨⟩), inv.distinct, trivial⟩

end Controlled

end Connection

end SplRust.Home
