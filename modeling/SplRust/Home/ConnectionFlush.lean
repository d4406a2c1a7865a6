import SplRust.Home.ConnectionLane

/-! Every step of a connection takes each of its lanes along, so what holds of lanes holds of
every stream in every run. -/

namespace SplRust.Home
open SplRust.Lib SplRust.Core

namespace Connection
variable {conn : Connection} {sid : UInt32} {rs : List ConnectionReply} {frames : List Frame}

theorem lane_ready_self {ready : List UInt32} (off : sid ∉ ready) :
    ({ conn with ready := ready } : Connection).lane sid rs frames =
      { conn.lane sid rs frames with ready := false } :=
  congrArg (fun ready => { conn.lane sid rs frames with ready := ready }) (decide_eq_false off)

theorem lane_ready_other {ready : List UInt32} (same : sid ∈ ready ↔ sid ∈ conn.ready) :
    ({ conn with ready := ready } : Connection).lane sid rs frames = conn.lane sid rs frames :=
  congrArg (fun ready => { conn.lane sid rs frames with ready := ready }) (decide_eq_decide.mpr same)

theorem lane_requeued {ready : List UInt32} {pend : Table UInt32 Bytes} {marked : Bool}
    {queue : Option Bytes} (mark : decide (sid ∈ ready) = marked) (queued : pend.lookup sid = queue) :
    ({ conn with ready := ready, pending := pend } : Connection).lane sid rs frames =
      { conn.lane sid rs frames with ready := marked, pending := queue } := by
  rw [← mark, ← queued]
  rfl

theorem lane_off (off : sid ∉ conn.ready) :
    { conn.lane sid rs frames with ready := false } = conn.lane sid rs frames :=
  (lane_ready_self off).symm

theorem lane_unasked_self : ({ conn with closing := conn.closing.erase sid } : Connection).lane sid rs
      frames = { conn.lane sid rs frames with closing := false } :=
  congrArg (fun closing => { conn.lane sid rs frames with closing := closing })
    (decide_eq_false (Finset.notMem_erase _ _))

theorem lane_unasked_other {oid : UInt32} (ne : oid ≠ sid) :
    ({ conn with closing := conn.closing.erase oid } : Connection).lane sid rs frames = conn.lane sid rs frames := by
  have same : sid ∈ conn.closing.erase oid ↔ sid ∈ conn.closing := by simp [Ne.symm ne]
  exact congrArg (fun closing => { conn.lane sid rs frames with closing := closing }) (decide_eq_decide.mpr same)

theorem Quiet.canSend (quiet : conn.Quiet) : (conn.lane sid rs frames).CanSend ↔ conn.acceptor.Writable sid := by
  rw [Lane.CanSend, quiet.lane_entry]
  rfl

theorem closeIfAsked_path {base : Connection} {oid : UInt32} (ready : Bool) (rounds : Nat)
    (progress : Bool) (hr : conn.phase.running = true) (written : conn.phase.outgoing = [])
    (after : base.Quiet) (idle : base.pending.lookup oid = none) (off : oid ∉ base.ready)
    (self : oid = sid → Relation.ReflTransGen (LaneStep sid)
      (conn.lane sid rs []) { base.lane sid rs [] with ready := ready })
    (others : oid ≠ sid → base.lane sid rs [] = conn.lane sid rs []) :
    Path sid conn rs (base.closeIfAsked oid rounds progress) (rs ++ [.done]) := by
  have pend : (base.lane oid rs []).pending = none := idle
  have runs : (base.lane oid rs []).running = true := after.lane_running
  unfold closeIfAsked
  by_cases asked : oid ∈ base.closing
  · rw [if_pos asked]
    have marked : (base.lane oid rs []).closing = true := decide_eq_true asked
    have taken : ({ base with closing := base.closing.erase oid } : Connection).Quiet := { after with }
    have unasked (ne : oid ≠ sid) :
        ({ base with closing := base.closing.erase oid } : Connection).lane sid rs [] = conn.lane sid rs [] :=
      (lane_unasked_other ne).trans (others ne)
    rcases base.acceptor.closeWrite_cases oid with ⟨late, closed⟩ | ⟨stream, live, writable, done⟩
    · simp only [closed]
      refine Path.flushes hr written taken _ _ ?_
      by_cases same : oid = sid
      · subst same
        have unable : ¬ (base.lane oid rs []).CanSend := mt after.canSend.mp late
        rw [lane_unasked_self, ← lane_off off]
        exact (self rfl).tail (.flushCloseLate runs pend unable)
      · exact unasked same ▸ .refl
    · simp only [done]
      refine Path.calls hr written taken (by rintro ⟨⟩) rfl (by simp) (fun same => ?_) unasked
      subst same
      have en : (base.lane oid rs []).entry = some stream := after.lane_entry.trans live
      have step := @LaneStep.flushClose oid { base.lane oid rs [] with ready := ready } runs
        stream pend marked en writable
      rw [lane_unasked_self, ← lane_off off]
      exact (self rfl).tail step
  · rw [if_neg asked]
    refine Path.flushes hr written after _ _ ?_
    by_cases same : oid = sid
    · subst same
      rw [← lane_off off]
      exact (self rfl).tail (.flushIdle runs pend)
    · exact others same ▸ .refl

theorem sendChunk_path {oid : UInt32} {rest : List UInt32} {queue : Bytes} (rounds : Nat)
    (progress : Bool) (quiet : conn.Quiet) (queued : conn.ready = oid :: rest)
    (off : oid ∉ rest) (alive : (conn.lane oid rs []).Live)
    (wait : conn.pending.lookup oid = some queue) (nonempty : queue ≠ []) : Path sid conn rs
      (({ conn with ready := rest } : Connection).sendChunk oid queue (chunkOf queue) rounds
        progress) (rs ++ [.done]) := by
  have small : (queue.take (chunkOf queue)).length ≤ recommendedChunk := by
    simp only [List.length_take, chunkOf]
    omega
  have length : (queue.take (chunkOf queue)).length = chunkOf queue := by
    simp only [List.length_take, chunkOf]
    omega
  have popped : ({ conn with ready := rest } : Connection).Quiet := { quiet with }
  have drained : ({ conn with
      ready := rest
      pending := conn.pending.insert oid (queue.drop (chunkOf queue)) } : Connection).Quiet :=
    { quiet with }
  have fnd : (conn.pending.insert oid (queue.drop (chunkOf queue))).lookup oid =
      some (queue.drop (chunkOf queue)) := Finmap.lookup_insert _
  have still (ne : oid ≠ sid) : decide (sid ∈ rest) = (conn.lane sid rs []).ready :=
    decide_eq_decide.mpr (by simp [queued, Ne.symm ne])
  have kept (ne : oid ≠ sid) : ({ conn with
      ready := rest
      pending := conn.pending.insert oid (queue.drop (chunkOf queue)) } : Connection).lane
        sid rs [] = conn.lane sid rs [] :=
    lane_requeued (still ne) (Finmap.lookup_insert_of_ne _ (Ne.symm ne))
  have self : ({ conn with
      ready := rest
      pending := conn.pending.insert oid (queue.drop (chunkOf queue)) } : Connection).lane oid
        rs [] = { conn.lane oid rs [] with
          ready := false, pending := some (queue.drop (chunkOf queue)) } :=
    lane_requeued (decide_eq_false off) fnd
  unfold sendChunk
  rcases conn.acceptor.trySendData_cases oid small with
    ⟨late, closed⟩ | ⟨stream, live, writable, ⟨short, withheld⟩ | ⟨fits, sent⟩⟩
  · simp only [closed]
    refine Path.flushes quiet.running quiet.outgoing (drained.discard oid) _ _ ?_
    by_cases same : oid = sid
    · subst same
      have unable : ¬ (conn.lane oid rs []).CanSend := mt quiet.canSend.mp late
      rw [lane_discard_self, self]
      exact .single (.flushLate quiet.lane_running wait quiet.lane_coming alive unable)
    · rw [lane_discard_other same, kept same]
  · simp only [withheld]
    rw [length] at short
    refine Path.flushes quiet.running quiet.outgoing popped _ _ ?_
    by_cases same : oid = sid
    · subst same
      rw [lane_ready_self off]
      exact .single (.flushWithheld quiet.lane_running wait (quiet.lane_entry.trans live) short)
    · have lanes : ({ conn with ready := rest } : Connection).lane sid rs [] = conn.lane sid rs [] :=
        lane_ready_other (by simp [queued, Ne.symm same])
      exact lanes ▸ .refl
  · simp only [sent]
    rw [length] at fits ⊢
    refine Path.acts quiet.running quiet.outgoing drained (by rintro ⟨⟩) (by simp) (fun same => ?_)
      fun ne => ⟨if_neg ne, kept ne⟩
    subst same
    have held : Resume.held oid (.sent oid (chunkOf queue) rounds) = chunkOf queue := if_pos rfl
    rw [self, held]
    exact .single (.flushSent quiet.lane_running wait nonempty quiet.lane_held
      (quiet.lane_entry.trans live) writable fits)

theorem flushRound_path {rounds : Nat} {progress : Bool}
    (flushing : conn.phase = .flushing (rounds + 1) progress) (nd : conn.ready.Nodup) :
    Path sid conn rs (conn.flushRound rounds progress) (rs ++ [.done]) := by
  have quiet := quiet_flushing flushing
  unfold flushRound
  split
  next empty => exact Path.flushes quiet.running quiet.outgoing quiet _ _ .refl
  next oid rest queued =>
    have popped : ({ conn with ready := rest } : Connection).Quiet := { quiet with }
    have off : oid ∉ rest := by
      rw [queued] at nd
      exact (List.nodup_cons.mp nd).1
    have others (ne : oid ≠ sid) : ({ conn with ready := rest } : Connection).lane sid rs [] = conn.lane sid rs [] :=
      lane_ready_other (by simp [queued, Ne.symm ne])
    have self : ({ conn with ready := rest } : Connection).lane oid rs [] =
        { conn.lane oid rs [] with ready := false } := lane_ready_self off
    by_cases dead : (conn.streams.lookup oid).any fun stream => stream.status.state != .live
    · rw [if_pos dead]
      refine Path.flushes quiet.running quiet.outgoing (popped.discard oid) _ _ ?_
      by_cases same : oid = sid
      · subst same
        have past : ¬ (conn.lane oid rs []).Live := by
          obtain ⟨stream, hp, s⟩ := (Option.any_eq_true _ _).mp dead
          intro live
          simp [live stream hp] at s
        rw [lane_discard_self, self]
        exact .single (.flushDead quiet.lane_running past)
      · rw [lane_discard_other same, others same]
    · rw [if_neg dead]
      have alive : (conn.lane oid rs []).Live := by
        intro stream hp
        by_contra past
        exact dead ((Option.any_eq_true _ _).mpr ⟨stream, hp, by simpa using past⟩)
      cases wait : conn.pending.lookup oid with
      | none =>
        refine closeIfAsked_path (conn.lane oid rs []).ready rounds progress quiet.running
          quiet.outgoing popped wait off (fun same => ?_) others
        subst same
        rw [self]
      | some queue =>
        by_cases nothing : min queue.length recommendedChunk = 0
        · simp only [if_pos nothing]
          have empty : queue = [] := by
            have positive : 0 < recommendedChunk := by decide
            exact List.length_eq_zero_iff.mp (by omega)
          have pend : (conn.lane oid rs []).pending = some [] := empty ▸ wait
          have dropped : ({ conn with ready := rest, pending := conn.pending.erase oid } : Connection).Quiet :=
            { quiet with }
          have fnd : (conn.pending.erase oid).lookup oid = none := Finmap.lookup_erase _ _
          refine closeIfAsked_path (conn.lane oid rs []).ready rounds progress quiet.running
            quiet.outgoing dropped fnd off (fun same => ?_) fun ne => ?_
          · subst same
            have lanes : ({ conn with ready := rest, pending := conn.pending.erase oid } : Connection).lane oid
                  rs [] = { conn.lane oid rs [] with ready := false, pending := none } := by
              rw [lane_requeued (decide_eq_false off) fnd]
            rw [lanes]
            exact .single (.dropEmpty quiet.lane_running pend)
          · have kept : (conn.pending.erase oid).lookup sid = conn.pending.lookup sid :=
              Finmap.lookup_erase_ne (Ne.symm ne)
            exact (lane_requeued rfl kept).trans (others ne)
        · simp only [if_neg nothing]
          have nonempty : queue ≠ [] := by
            rintro rfl
            exact nothing rfl
          exact sendChunk_path rounds progress quiet queued off alive wait nonempty

theorem lane_rephased (conn : Connection) {ph : DriverPhase} (hr : ph.running = conn.phase.running)
    (hears : ({ conn with phase := ph } : Connection).receiving = conn.receiving)
    (coming : eventsFor sid ph.coming = eventsFor sid conn.phase.coming)
    (held : ph.held sid = conn.phase.held sid) :
    ({ conn with phase := ph } : Connection).lane sid rs frames = conn.lane sid rs frames := by
  have parts : ({ conn with phase := ph } : Connection).lane sid rs frames = { conn.lane sid rs frames with
        running := ph.running
        receiving := ({ conn with phase := ph } : Connection).receiving
        entry := bif ph.running then conn.acceptor.streams.lookup sid else none
        used := ph.running && conn.acceptor.passed sid
        coming := bif ph.running then eventsFor sid ph.coming else []
        held := ph.held sid } := rfl
  rw [parts, hr, hears, coming, held]
  rfl

theorem closeIfAsked_phase (conn : Connection) (oid : UInt32) (rounds : Nat) (progress : Bool) (ph : DriverPhase) :
    ({ conn with phase := ph } : Connection).closeIfAsked oid rounds progress =
      conn.closeIfAsked oid rounds progress := by
  unfold closeIfAsked
  by_cases asked : oid ∈ conn.closing
  · rw [if_pos asked, if_pos asked]
    rcases conn.acceptor.closeWrite_cases oid with ⟨-, closed⟩ | ⟨stream, -, -, done⟩
    · simp only [closed]
    · simp only [done]
      rfl
  · rw [if_neg asked, if_neg asked]

/-- The driver after a chunk was written: the staged bytes are released. -/
def released (conn : Connection) (other : UInt32) (count rounds : Nat) (ready : List UInt32)
    (pending : Table UInt32 Bytes) : Connection :=
  { conn.updateStatus other (·.releaseStaging count) with
    ready := ready, pending := pending, phase := .flushing rounds true }

section
variable {oid : UInt32} {count rounds : Nat} {ready : List UInt32} {pend : Table UInt32 Bytes}
  {marked : Bool} {queue : Option Bytes}

theorem lane_released_self (hr : conn.phase.running = true)
    (mark : decide (sid ∈ ready) = marked) (queued : pend.lookup sid = queue) :
    (conn.released sid count rounds ready pend).lane sid rs frames = { (conn.lane sid rs frames).release count with
        ready := marked, pending := queue, coming := [], held := 0 } := by
  have runs : ({ conn.updateStatus sid (·.releaseStaging count) with
      ready := ready, pending := pend } : Connection).phase.running = true := hr
  have phased : (conn.released sid count rounds ready pend).lane sid rs frames =
      _ := lane_phase (.flushing rounds true) runs rfl
  rw [phased, lane_requeued mark queued, lane_updateStatus_self]
  rfl

theorem lane_released_other (ne : oid ≠ sid) (hr : conn.phase.running = true)
    (coming : (conn.lane sid rs frames).coming = []) (unheld : (conn.lane sid rs frames).held = 0)
    (mark : decide (sid ∈ ready) = (conn.lane sid rs frames).ready)
    (queued : pend.lookup sid = (conn.lane sid rs frames).pending) :
    (conn.released oid count rounds ready pend).lane sid rs frames = conn.lane sid rs frames := by
  have runs : ({ conn.updateStatus oid (·.releaseStaging count) with
      ready := ready, pending := pend } : Connection).phase.running = true := hr
  have phased : (conn.released oid count rounds ready pend).lane sid rs frames =
      _ := lane_phase (.flushing rounds true) runs rfl
  rw [phased, lane_requeued mark queued, lane_updateStatus_other ne]
  calc { conn.lane sid rs frames with coming := [], held := 0 }
      = { conn.lane sid rs frames with
          coming := (conn.lane sid rs frames).coming
          held := (conn.lane sid rs frames).held } := by rw [coming, unheld]
    _ = conn.lane sid rs frames := rfl

end

theorem sent_path {oid : UInt32} {count rounds : Nat}
    (delivered : conn.phase = .delivering false [] [] (.sent oid count rounds)) (off : oid ∉ conn.ready) :
    Path sid conn rs (conn.resume (.sent oid count rounds)) (rs ++ [.done]) := by
  have hr : conn.phase.running = true := by simp [delivered, DriverPhase.running]
  have written : conn.phase.outgoing = [] := by simp [delivered, DriverPhase.outgoing]
  have coming : (conn.lane sid rs []).coming = [] := by simp [lane, delivered, DriverPhase.coming, eventsFor]
  have held : (conn.lane sid rs []).held = if oid = sid then count else 0 := by
    simp [lane, delivered, DriverPhase.held, Resume.held]
  have unheld (ne : oid ≠ sid) : (conn.lane sid rs []).held = 0 := by rw [held, if_neg ne]
  unfold Connection.resume
  simp only
  split
  next byte bs wait =>
    have after : (conn.released oid count rounds (conn.ready ++ [oid]) conn.pending).Quiet := quiet_flushing rfl
    refine Path.flushes hr written after rounds true ?_
    by_cases same : oid = sid
    · subst same
      rw [if_pos rfl] at held
      have step : LaneStep oid (conn.lane oid rs []) _ := .sentMore hr wait (List.cons_ne_nil byte bs)
      rw [lane_released_self hr (decide_eq_true (by simp)) rfl, ← coming]
      rw [held] at step
      exact .single step
    · rw [lane_released_other same hr coming (unheld same) (decide_eq_decide.mpr (by simp [Ne.symm same])) rfl]
  next spent =>
    have empty : ((conn.lane oid rs []).pending).getD [] = [] := by
      cases wait : (conn.lane oid rs []).pending with
      | none => rfl
      | some queue =>
        cases queue with
        | nil => rfl
        | cons byte bs => exact absurd wait (spent byte bs)
    have dropped : (conn.pending.erase oid).lookup oid = none := Finmap.lookup_erase _ _
    have phased : (conn.released oid count rounds conn.ready (conn.pending.erase oid)).closeIfAsked oid rounds true =
          ({ conn.updateStatus oid (·.releaseStaging count) with
            pending := conn.pending.erase oid } : Connection).closeIfAsked oid rounds true :=
      closeIfAsked_phase { conn.updateStatus oid (·.releaseStaging count) with
        pending := conn.pending.erase oid } oid rounds true (.flushing rounds true)
    have after : (conn.released oid count rounds conn.ready (conn.pending.erase oid)).Quiet := quiet_flushing rfl
    refine phased ▸ closeIfAsked_path (decide (oid ∈ conn.ready)) rounds true hr written after
      dropped off (fun same => ?_) fun ne => ?_
    · subst same
      rw [if_pos rfl] at held
      have step : LaneStep oid (conn.lane oid rs []) _ := .sentLast hr empty
      rw [lane_released_self hr rfl dropped, ← coming]
      rw [held] at step
      exact .single step
    · exact lane_released_other ne hr coming (unheld ne) rfl
        (Finmap.lookup_erase_ne (Ne.symm ne))

theorem resume_path {resume : Resume} (delivered : conn.phase = .delivering false [] [] resume)
    (apart : ∀ sender count rounds, resume = .sent sender count rounds → sender ∉ conn.ready) :
    Path sid conn rs (conn.resume resume) (rs ++ [.done]) := by
  cases resume with
  | flush | round =>
    have quiet : conn.Quiet := by
      constructor <;> simp [delivered, DriverPhase.running, DriverPhase.coming,
        DriverPhase.outgoing, DriverPhase.held, Resume.held]
    exact Path.flushes quiet.running quiet.outgoing quiet _ _ .refl
  | finish =>
    intro frames kn
    refine ⟨frames, (by rintro ⟨⟩), ?_⟩
    have lanes : (conn.resume .finish).lane sid rs frames = conn.lane sid rs frames := by
      refine lane_rephased conn ?_ ?_ ?_ ?_ <;> simp [delivered, receiving, DriverPhase.running,
        DriverPhase.coming, DriverPhase.held, Resume.held]
    rw [lane_done, lanes]
  | sent oid count rounds => exact sent_path delivered (apart oid count rounds rfl)

end Connection

end SplRust.Home
