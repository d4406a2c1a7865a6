import SplRust.Home.ConnectionControl

/-! Every step of a connection keeps it controlled and takes each lane along, so in every run
each lane is sound. -/

namespace SplRust.Home
open SplRust.Core

namespace Connection
variable {lim : MuxLimits} {conn next last : Connection} {sid other : UInt32}
  {hdl : HomeStream} {st after : DriverStream}

theorem Controlled.handled (inv : conn.Controlled lim) {dropped : Option UInt32}
    (hd : conn.Handled dropped next) : next.Controlled lim where
  valid runs := by
    rw [hd.phase] at runs
    rw [hd.acceptor]
    exact inv.valid runs
  distinct := hd.ready ▸ inv.distinct
  fits := by
    have fits := inv.fits
    rw [hd.phase]
    cases ph : conn.phase with
    | parked =>
      rw [ph] at fits
      intro wait
      rw [hd.ready] at wait
      exact hd.commands.subset (fits wait)
    | delivering _ _ _ resume =>
      rw [ph] at fits
      cases resume with
      | flush => trivial
      | finish => exact fits
      | round =>
        intro still
        rw [hd.ready]
        exact fits still
      | sent =>
        intro queued
        rw [hd.ready] at queued
        exact fits queued
    | flushing =>
      rw [ph] at fits
      intro still
      rw [hd.ready]
      exact fits still
    | leaving =>
      rw [ph] at fits
      intro sid abs after fnd
      obtain ⟨pre, hp, s⟩ := hd.streams sid after fnd
      have gone := fits sid abs pre hp
      rw [s (by rw [gone]; exact (by rintro ⟨⟩)), gone]
    | stopped => trivial
    | panicked =>
      rw [ph] at fits
      exact fits

/-- A step of the connection that keeps it in order and takes every lane along. -/
def Moves (limits : MuxLimits) (conn : Connection) (rs : List ConnectionReply)
    (next : Connection) (later : List ConnectionReply) : Prop :=
  next.Controlled limits ∧ ∀ sid, Path sid conn rs next later

section
variable {replies : List ConnectionReply} {opened : Option UInt32}

theorem Controlled.advance (inv : conn.Controlled lim) (advanced : conn.advance = some (next, opened)) :
    Moves lim conn replies next (replies ++ [.done]) := by
  revert advanced
  fun_cases Connection.advance conn with
  | case1 _ _ _ _ _ ph =>
    rintro ⟨⟩
    exact ⟨inv.writeFrame ph, fun _ => writeFrame_path ph fun finishes =>
      by cases (inv.finishing ph finishes).2.1⟩
  | case2 _ _ ph =>
    rintro ⟨⟩
    refine ⟨inv.redelivers ph rfl rfl rfl fun finishes => ?_, fun _ => flushed_path ph⟩
    cases (inv.finishing ph finishes).1
  | case3 ev _ _ ph =>
    rintro ⟨⟩
    exact ⟨inv.deliverEvent ph, fun _ => deliverEvent_path ph fun finishes =>
      (inv.finishing ph finishes).2.2 ev List.mem_cons_self⟩
  | case4 _ ph =>
    rintro ⟨⟩
    refine ⟨inv.resume ph, fun _ => resume_path ph fun sender count rounds sends => ?_⟩
    have fits := inv.fits
    rw [ph, sends] at fits
    exact fits
  | case5 _ ph =>
    rintro ⟨⟩
    exact ⟨inv.endFlush ph, fun _ => endFlush_path ph⟩
  | case6 _ _ ph =>
    rintro ⟨⟩
    exact ⟨inv.flushRound ph, fun _ => flushRound_path ph inv.distinct⟩
  | case7 ph =>
    rintro ⟨⟩
    refine ⟨inv.stopped, fun sid => stopped_path ph ?_⟩
    have fits := inv.fits
    rw [ph] at fits
    exact fits sid (Finset.notMem_empty _)
  | _ => rintro ⟨⟩

end

/-- Where a run of a connection has come: the driver is in order and every lane is sound. -/
structure Reached (limits : MuxLimits) (conn : Connection) (rs : List ConnectionReply) : Prop where
  controlled : conn.Controlled limits
  sound : ∀ sid, ∃ frames, (conn.phase.running = true → frames = conn.phase.outgoing) ∧
    (conn.lane sid rs frames).Sound sid

section
variable {replies : List ConnectionReply} {rep : ConnectionReply} {call : ConnectionCall}

section
variable (reached : conn.Reached lim replies)
include reached

theorem Reached.lanes (parked : conn.phase = .parked) : ∀ other, (conn.lane other replies []).Sound other := by
  intro other
  obtain ⟨_, kn, sound⟩ := reached.sound other
  have written := kn (quiet_parked parked).running
  rw [(quiet_parked parked).outgoing] at written
  exact written ▸ sound

theorem Reached.moves (hs : conn.step call = some (next, rep)) :
    Moves lim conn replies next (replies ++ [rep]) := by
  have inv := reached.controlled
  revert hs
  fun_cases Connection.step conn call with
  | case1 bs ready _ _ done =>
    have parked := ready.1
    have kept := inv.readBytes parked bs
    rw [done] at kept
    rintro ⟨⟩
    exact ⟨kept, fun _ => read_path parked (inv.valid (quiet_parked parked).running) done⟩
  | case2 bs ready _ done =>
    have kept := inv.readBytes ready.1 bs
    rw [done] at kept
    rintro ⟨⟩
    exact ⟨kept, fun _ => refused_path ready.1 done⟩
  | case4 parked =>
    rintro ⟨⟩
    exact ⟨inv.readEof, fun _ => readEof_path parked⟩
  | case6 parked =>
    rintro ⟨⟩
    exact ⟨.stop inv.distinct _, fun _ =>
      Path.stops (quiet_parked parked).running _ fun _ => lane_done⟩
  | case8 _ _ pops parked =>
    rintro ⟨⟩
    have valid := inv.valid (quiet_parked parked).running
    exact ⟨inv.handleCommand parked pops (reached.lanes parked), fun _ =>
      command_path (quiet_parked parked) valid pops (reached.lanes parked)⟩
  | case11 _ opened advanced =>
    rintro ⟨⟩
    have moves : Moves lim conn replies next (replies ++ [.done]) := inv.advance advanced
    split
    · exact ⟨moves.1, fun sid => (moves.2 sid).handedOut opened⟩
    · exact moves
  | case12 _ advanced =>
    rintro ⟨⟩
    exact inv.advance advanced
  | case14 _ _ _ resume ph writing =>
    rintro ⟨⟩
    have goes : resume ≠ .finish := by
      intro finishes
      obtain ⟨flushed, written, -⟩ := inv.finishing ph finishes
      simp [flushed, written] at writing
    exact ⟨.stop inv.distinct _, fun _ =>
      Path.stops (running_delivering ph goes) _ fun _ => lane_done⟩
  | case17 sid _ ph =>
    rintro ⟨⟩
    exact ⟨inv.tell ph sid, fun _ => tell_path ph⟩
  | case21 sid capacity =>
    intro hs
    obtain ⟨hdl, st, held, hp, done⟩ := onHandle_some hs
    have path (id : UInt32) : Path id conn replies (conn.pollRead sid hdl st capacity).1
        (replies ++ [(conn.pollRead sid hdl st capacity).2]) :=
      pollRead_path held hp capacity
    have hd : conn.Handled none (conn.pollRead sid hdl st capacity).1 := .pollRead hp capacity
    rw [done] at path hd
    exact ⟨inv.handled hd, path⟩
  | case22 sid bs waker =>
    intro hs
    obtain ⟨hdl, st, held, hp, done⟩ := onHandle_some hs
    have path (id : UInt32) : Path id conn replies (conn.pollWrite sid hdl st bs waker).1
        (replies ++ [(conn.pollWrite sid hdl st bs waker).2]) :=
      pollWrite_path held hp bs waker
    have hd : conn.Handled none (conn.pollWrite sid hdl st bs waker).1 := .pollWrite hp bs waker
    rw [done] at path hd
    exact ⟨inv.handled hd, path⟩
  | case23 sid =>
    intro hs
    obtain ⟨hdl, st, held, _, done⟩ := onHandle_some hs
    have path (id : UInt32) : Path id conn replies (conn.pollShutdown sid hdl st).1
        (replies ++ [(conn.pollShutdown sid hdl st).2]) := pollShutdown_path held
    have hd : conn.Handled none (conn.pollShutdown sid hdl st).1 := .pollShutdown
    rw [done] at path hd
    exact ⟨inv.handled hd, path⟩
  | case24 _ rsn =>
    intro hs
    obtain ⟨_, _, held, _, ⟨⟩⟩ := onHandle_some hs
    exact ⟨inv.handled (.resetStream rsn), fun _ => resetStream_path held rsn⟩
  | case25 =>
    intro hs
    obtain ⟨_, _, held, _, ⟨⟩⟩ := onHandle_some hs
    exact ⟨inv.handled .dropStream, fun _ => dropStream_path held⟩
  | case26 =>
    rintro ⟨⟩
    exact ⟨inv.handled ((Handled.refl conn).send _), fun _ => closeConnection_path⟩
  | case28 =>
    rintro ⟨⟩
    exact ⟨inv.handled { Handled.refl conn with }, fun _ => dropConnection_path⟩
  | _ => rintro ⟨⟩

theorem Reached.step (hs : conn.step call = some (next, rep)) : next.Reached lim (replies ++ [rep]) := by
  obtain ⟨controlled, path⟩ := reached.moves hs
  refine ⟨controlled, fun sid => ?_⟩
  obtain ⟨fs, kn, sound⟩ := reached.sound sid
  obtain ⟨after, written, run⟩ := path sid fs kn
  exact ⟨after, written, sound.run run⟩

end

end

theorem Reached.start {acc : MuxAcceptor} (made : MuxAcceptor.new lim = .ok acc) :
    Reached lim { acceptor := acc } [] := by
  have valid := MuxAcceptor.Valid.start made
  obtain ⟨rfl, -, -⟩ := MuxAcceptor.new_eq made
  refine ⟨⟨fun _ => valid, List.nodup_nil, (fun wait => absurd rfl wait)⟩, fun sid => ⟨[], fun _ => rfl, ?_⟩⟩
  exact .start _

theorem Reached.runs {calls : List ConnectionCall} {replies told : List ConnectionReply}
    (reached : conn.Reached lim replies) (ran : connectionMachine.run conn calls = some (last, told)) :
    last.Reached lim (replies ++ told) ∧ (∀ sid, Path sid conn replies last (replies ++ told)) ∧
      conn.written <+: last.written := by
  refine connectionMachine.run_history (motive := fun s _ told =>
      s.Reached lim (replies ++ told) ∧ (∀ sid, Path sid conn replies s (replies ++ told)) ∧
        conn.written <+: s.written) ?_ ?_ ran
  · rw [List.append_nil]
    exact ⟨reached, fun _ => .refl, List.prefix_rfl⟩
  · rintro _ _ _ _ _ _ ⟨here, path, written⟩ hs
    rw [← List.append_assoc]
    exact ⟨here.step hs, fun sid => (path sid).trans ((here.moves hs).2 sid), written.trans (step_framed hs).written⟩

theorem Reached.run {acc : MuxAcceptor} {calls : List ConnectionCall}
    {replies : List ConnectionReply} (made : MuxAcceptor.new lim = .ok acc)
    (ran : connectionMachine.run { acceptor := acc } calls = some (last, replies)) :
    last.Reached lim replies :=
  ((Reached.start made).runs ran).1

end Connection

end SplRust.Home
