import SplRust.Home.ConnectionRun

/-! The read path of a carrier: what the handles return, against what the acceptor took from the
peer. -/

namespace SplRust.Home
open SplRust.Lib

/-- The events of the stream that the acceptor reported. -/
def receivedFor (sid : UInt32) (replies : List ConnectionReply) : List MuxEvent :=
  replies.flatMap (ConnectionReply.events sid)

/-- The bytes that `poll_read` returned for the stream. -/
def returnedBy (sid : UInt32) (replies : List ConnectionReply) : Bytes :=
  replies.flatMap (ConnectionReply.returnedBytes sid)

namespace Connection
variable {lim : MuxLimits} {conn next : Connection} {rs : List ConnectionReply}
  {rep : ConnectionReply} {sid : UInt32}

theorem receivedFor_own {ev : MuxEvent} (mem : ev ∈ receivedFor sid rs) : ev.streamId = some sid := by
  obtain ⟨rep, -, reported⟩ := List.mem_flatMap.mp mem
  cases rep with
  | fed => exact of_decide_eq_true (List.mem_filter.mp reported).2
  | done | handedOut | returned | ended | accepted | shutDown => cases reported

section
variable (reached : conn.Reached lim rs)
include reached

theorem Reached.returns (sid : UInt32) : returnedBy sid rs <+: eventBytes (receivedFor sid rs) := by
  obtain ⟨_, -, sound⟩ := reached.sound sid
  exact sound.reading.returns

theorem Reached.ends (ended : .ended sid ∈ rs) : .readClosed sid ∈ receivedFor sid rs ∧
      returnedBy sid rs = eventBytes (receivedFor sid rs) := by
  obtain ⟨_, -, sound⟩ := reached.sound sid
  obtain ⟨⟨oid, closed⟩, whole⟩ := sound.reading.ends (decide_eq_true ended)
  have own : some oid = some sid := receivedFor_own closed
  exact ⟨Option.some.inj own ▸ closed, whole⟩

/-- The driver goes on after every report of consumed bytes. -/
theorem Reached.consumes {oid : UInt32} {bs : Nat}
    {rest : List DriverCommand} (pops : conn.commands = .consumed oid bs :: rest)
    (hs : conn.step .command = some (next, rep)) : next.phase.running = true ∧ next.close = conn.close := by
  simp only [Connection.step, pops] at hs
  split_ifs at hs with parked
  cases hs
  have quiet := quiet_parked parked
  cases live : conn.acceptor.streams.lookup oid with
  | none =>
    simp only [handleCommand, MuxStreams.consume_absent live]
    exact ⟨quiet.running, trivial⟩
  | some st =>
    have fits := owed_fits quiet pops (reached.lanes parked oid) live
    have valid := reached.controlled.valid quiet.running
    obtain ⟨_, _, consumed⟩ := MuxStreams.consume_fits valid.inv live fits
    simp only [handleCommand, consumed]
    exact ⟨rfl, rfl⟩

end

/-- In every run, what a handle returns is a first part of what the acceptor took from the peer; a
clean end is reported only behind the peer's half-close, with everything before it returned;
and a report of consumed bytes never stops the driver. -/
theorem read_faithfully {acceptor : MuxAcceptor} {last : Connection} {calls : List ConnectionCall}
    (made : MuxAcceptor.new limits = .ok acceptor)
    (ran : connectionMachine.run { acceptor := acceptor } calls = some (last, replies))
    (streamId : UInt32) :
    returnedBy streamId replies <+: eventBytes (receivedFor streamId replies) ∧
    (.ended streamId ∈ replies → .readClosed streamId ∈ receivedFor streamId replies ∧
      returnedBy streamId replies = eventBytes (receivedFor streamId replies)) ∧
    (∀ other bytes rest next reply, last.commands = .consumed other bytes :: rest →
      last.step .command = some (next, reply) →
      next.phase.running = true ∧ next.close = last.close) := by
  have reached := Reached.run made ran
  exact ⟨reached.returns streamId, reached.ends,
    fun other bytes rest next reply pops stepped => reached.consumes pops stepped⟩

/-- A stream that the peer opens with one byte and closes, read to its end. -/
theorem read_faithfully_to_end : ∃ acceptor last replies, MuxAcceptor.new {} = .ok acceptor ∧
    connectionMachine.run { acceptor := acceptor }
      ([.read [0, 0, 0, 1, 7, 0, 0, 1, 9]] ++ List.replicate 5 .advance ++
        [.pollRead 1 8, .pollRead 1 8]) = some (last, replies) ∧
    .ended 1 ∈ replies ∧
    returnedBy 1 replies = eventBytes (receivedFor 1 replies) := by
  have made : MuxAcceptor.new {} = .ok (WirePhase.start.hold { limits := {} }) := rfl
  have evaluated : (connectionMachine.run { acceptor := WirePhase.start.hold { limits := {} } }
      ([.read [0, 0, 0, 1, 7, 0, 0, 1, 9]] ++ List.replicate 5 .advance ++
        [.pollRead 1 8, .pollRead 1 8])).map (fun result => decide (.ended 1 ∈ result.2)) =
      some true := by
    decide +kernel
  obtain ⟨⟨last, replies⟩, ran, ended⟩ := Option.map_eq_some_iff.mp evaluated
  have ended := of_decide_eq_true ended
  exact ⟨_, last, replies, made, ran, ended, ((read_faithfully made ran 1).2.1 ended).2⟩

end Connection

end SplRust.Home
