import SplRust.Transport.Pump

/-! The two directions of `pump_stream`: what is left of one when the other one ends, or waits.
The pump returns at the first end it reads, and it reads nothing while it writes. -/

namespace SplRust.Transport
open SplRust.Lib SplRust.Core SplRust.Home List

/-- Nothing is reset and nothing fails. -/
def PumpCall.unfailing : PumpCall → Bool
  | .streamFails | .readTunnelFailed | .readLocalFailed | .writeLocalFailed | .writeTunnelFailed
  | .shutdownLocal true => false
  | _ => true

def writtenBy : DriverCommand → Bytes
  | .write _ bytes => bytes
  | _ => []

def resetBy : DriverCommand → Bool
  | .cancel _ | .reset _ _ => true
  | _ => false

namespace Pump

/-- Both directions keep their own ends: nothing is dropped on the way, the stream is not reset,
and the pump returns only after the application has ended and all it sent was written and
closed, with nothing of the peer's left behind. -/
structure HalfCloses (pump : Pump) : Prop where
  toApp : pump.peerSent = pump.appRead ++ pump.toApp ++ pump.phase.forApp ++ pump.tunnelIn
  toTunnel : pump.appSent = pump.commands.flatMap writtenBy ++ pump.phase.forTunnel ++ pump.fromApp
  unreset : ∀ command ∈ pump.commands, resetBy command = false
  returned : pump.phase.isReturned = true → pump.appEnd = true ∧ pump.fromApp = [] ∧ pump.tunnelIn = [] ∧
      pump.commands.getLast? = some (.close pump.streamId)

/-- The pump does not read the end of the tunnel. When it reads the end of the application
nothing of the peer's waits, and the peer sends nothing afterwards. -/
def keepsHalfClose (pump : Pump) : PumpCall → Bool
  | .readTunnelEnd => false
  | .readLocalEnd => pump.tunnelIn = []
  | .peerSend _ => !pump.phase.isReturned
  | _ => true

/-- What the steps keep besides. -/
structure Orderly (pump : Pump) : Prop extends HalfCloses pump where
  live : pump.streamFailed = false
  unshut : pump.phase ≠ .shutdownLocal
  writable : pump.phase.isReturned = false → pump.writeShutdown = false
  idle : pump.appEnd = true → pump.appWriting = []

theorem start_orderly (sid : UInt32) : Orderly { streamId := sid } where
  toApp := rfl
  toTunnel := rfl
  unreset := by simp
  returned := by simp [PumpPhase.isReturned]
  live := rfl
  unshut := by simp
  writable _ := rfl
  idle _ := rfl

theorem held_writingLocal (rest : Bytes) : (writingLocal rest).forApp = rest ∧ (writingLocal rest).forTunnel = [] ∧
      (writingLocal rest).isReturned = false ∧ writingLocal rest ≠ .shutdownLocal := by
  unfold writingLocal
  split
  next empty => exact ⟨empty.symm, rfl, rfl, by simp⟩
  · exact ⟨rfl, rfl, rfl, by simp⟩

theorem held_writingTunnel (rest : Bytes) : (writingTunnel rest).forApp = [] ∧ (writingTunnel rest).forTunnel = rest ∧
      (writingTunnel rest).isReturned = false ∧ writingTunnel rest ≠ .shutdownLocal := by
  unfold writingTunnel
  split
  next empty => exact ⟨rfl, empty.symm, rfl, by simp⟩
  · exact ⟨rfl, rfl, rfl, by simp⟩

namespace Orderly
variable {limits : SocketLimits} {pump next : Pump}

theorem finish_shutdown (orderly : pump.Orderly) (hr : pump.phase.isReturned = false) :
    pump.shutdown.finish (.ok ()) = { pump.send (.close pump.streamId) with
      writeShutdown := true, phase := .returned (.ok ()) } := by
  simp [shutdown, finish, orderly.live, orderly.writable hr]

theorem unreset_send (orderly : pump.Orderly) {command : DriverCommand} (quiet : resetBy command = false) :
    ∀ sent ∈ (pump.send command).commands, resetBy sent = false := by
  intro sent listed
  rcases mem_append.mp listed with pre | now
  · exact orderly.unreset sent pre
  · rw [mem_singleton.mp now]
    exact quiet

theorem written_send (pump : Pump) (command : DriverCommand) : (pump.send command).commands.flatMap writtenBy =
      pump.commands.flatMap writtenBy ++ writtenBy command := by
  simp [send]

theorem step {call : PumpCall} (orderly : pump.Orderly) (hs : PumpStep limits pump call next)
    (unfailing : call.unfailing = true) (keeps : pump.keepsHalfClose call = true) : next.Orderly := by
  have toApp := orderly.toApp
  have toTunnel := orderly.toTunnel
  cases hs with
  | peerSend bs =>
    have hr : pump.phase.isReturned = false := by simpa [keepsHalfClose] using keeps
    refine { orderly with toApp := ?_, returned := fun ended => ?_ }
    · change pump.peerSent ++ bs = _ ++ (pump.tunnelIn ++ bs)
      rw [toApp]
      exact append_assoc _ _ _
    · exact absurd (hr.symm.trans ended) Bool.false_ne_true
  | peerClose => exact { orderly with }
  | appWrite _ going idle =>
    refine { orderly with idle := fun ended => ?_ }
    exact absurd (going.symm.trans ended) Bool.false_ne_true
  | appPush _ takes =>
    have going : ¬ pump.appEnd = true := by
      intro ended
      simp [Pump.takes, orderly.idle ended] at takes
      omega
    refine { orderly with toTunnel := ?_, returned := fun ended => ?_, idle := fun ended => ?_ }
    · change pump.appSent ++ _ = _ ++ (pump.fromApp ++ _)
      rw [toTunnel]
      exact append_assoc _ _ _
    · exact absurd (orderly.returned ended).1 going
    · exact absurd ended going
  | appClose idle => exact { orderly with
      returned := fun ended => ⟨rfl, (orderly.returned ended).2⟩, idle := fun _ => idle }
  | appRead count =>
    refine { orderly with toApp := ?_ }
    change pump.peerSent = pump.appRead ++ pump.toApp.take count ++ pump.toApp.drop count ++ _ ++ _
    rw [append_assoc pump.appRead, take_append_drop]
    exact toApp
  | readTunnel count selects =>
    have hr : pump.phase.isReturned = false := by rw [selects]; rfl
    rw [selects] at toApp toTunnel
    refine { orderly with
      toApp := ?_, toTunnel := ?_, unreset := orderly.unreset_send rfl
      returned := by simp [PumpPhase.isReturned], unshut := by simp
      writable := fun _ => orderly.writable hr }
    · change pump.peerSent = pump.appRead ++ pump.toApp ++ pump.tunnelIn.take count ++ _
      rw [append_assoc _ (List.take _ _), take_append_drop, toApp]
      exact congrArg (· ++ _) (append_nil _)
    · change pump.appSent = (pump.send _).commands.flatMap writtenBy ++ [] ++ pump.fromApp
      rw [written_send, toTunnel]
      exact congrArg (· ++ [] ++ _) (append_nil _).symm
  | readTunnelEnd => cases keeps
  | readLocal count selects =>
    have hr : pump.phase.isReturned = false := by rw [selects]; rfl
    rw [selects] at toApp toTunnel
    refine { orderly with
      toApp := toApp, toTunnel := ?_, returned := by simp [PumpPhase.isReturned], unshut := by simp
      writable := fun _ => orderly.writable hr }
    change pump.appSent = _ ++ pump.fromApp.take count ++ pump.fromApp.drop count
    rw [append_assoc, take_append_drop, toTunnel]
    exact congrArg (· ++ _) (append_nil _)
  | readLocalEnd selects empty ended =>
    have hr : pump.phase.isReturned = false := by rw [selects]; rfl
    have un : pump.tunnelIn = [] := by simpa [keepsHalfClose] using keeps
    rw [selects] at toApp toTunnel
    rw [orderly.finish_shutdown hr]
    refine { orderly with
      toApp := toApp, toTunnel := ?_, unreset := orderly.unreset_send rfl
      returned := fun _ => ⟨ended, empty, un, getLast?_concat⟩, unshut := by simp
      writable := by simp [PumpPhase.isReturned] }
    change pump.appSent = (pump.send _).commands.flatMap writtenBy ++ [] ++ pump.fromApp
    rw [written_send, toTunnel]
    exact congrArg (· ++ [] ++ _) (append_nil _).symm
  | writeLocal count rest writes =>
    have hr : pump.phase.isReturned = false := by rw [writes]; rfl
    obtain ⟨forApp, forTunnel, goes, unshut⟩ := held_writingLocal (rest.drop count)
    rw [writes] at toApp toTunnel
    refine { orderly with
      toApp := ?_, toTunnel := ?_, returned := by simp [goes], unshut := unshut
      writable := fun _ => orderly.writable hr }
    · change pump.peerSent = pump.appRead ++ (pump.toApp ++ rest.take count) ++
        (writingLocal (rest.drop count)).forApp ++ pump.tunnelIn
      rw [forApp, ← append_assoc, append_assoc _ (List.take _ _), take_append_drop]
      exact toApp
    · change pump.appSent = _ ++ (writingLocal (rest.drop count)).forTunnel ++ pump.fromApp
      rw [forTunnel]
      exact toTunnel
  | writeTunnel count rest writes =>
    have hr : pump.phase.isReturned = false := by rw [writes]; rfl
    obtain ⟨forApp, forTunnel, goes, unshut⟩ := held_writingTunnel (rest.drop count)
    rw [writes] at toApp toTunnel
    refine { orderly with
      toApp := ?_, toTunnel := ?_, unreset := orderly.unreset_send rfl
      returned := by simp [goes], unshut := unshut
      writable := fun _ => orderly.writable hr }
    · change pump.peerSent = pump.appRead ++ pump.toApp ++ (writingTunnel (rest.drop count)).forApp ++ pump.tunnelIn
      rw [forApp]
      exact toApp
    · change pump.appSent = (pump.send _).commands.flatMap writtenBy ++
        (writingTunnel (rest.drop count)).forTunnel ++ pump.fromApp
      rw [forTunnel, written_send, append_assoc (List.flatMap _ _), writtenBy, take_append_drop]
      exact toTunnel
  | shutdownLocal shuts => exact absurd shuts orderly.unshut
  | _ => cases unfailing

end Orderly

end Pump

theorem pumpMachine_step {limits : SocketLimits} {pump next : Pump} {call : PumpCall} {rep : Unit}
    (hs : (pumpMachine limits).step pump call = some (next, rep)) : PumpStep limits pump call next := by
  obtain ⟨_, moved, same⟩ := Option.map_eq_some_iff.mp hs
  cases same
  exact Pump.step_spec moved

/-- A pump that never reads the end of the tunnel, and reads the end of the application only when
the peer is done, keeps the half-closes of both. -/
theorem pump_half_close {limits : SocketLimits} {streamId : UInt32} {calls : List PumpCall}
    {last : Pump} {replies : List Unit}
    (ran : (((pumpMachine limits).restrict fun _ call => call.unfailing).restrict
      Pump.keepsHalfClose).run { streamId } calls = some (last, replies)) : last.HalfCloses := by
  have orderly : last.Orderly := by
    refine Machine.run_keeps _ (Pump.start_orderly streamId) ?_ ran
    intro pump call next reply orderly stepped
    obtain ⟨keeps, inner⟩ := Machine.step_restrict _ stepped
    obtain ⟨unfailing, moved⟩ := Machine.step_restrict _ inner
    exact orderly.step (pumpMachine_step moved) unfailing keeps
  exact orderly.toHalfCloses

/-- A request with a response, the application ending first. -/
def answeredCalls : List PumpCall :=
  [.peerSend [1, 2, 3], .readTunnel 3, .writeLocal 3, .appRead 3, .appWrite [7, 8], .appPush 2,
    .appClose, .peerClose, .readLocal 2, .writeTunnel 2, .readLocalEnd]

theorem pump_half_close_answered : ∃ last : Pump, last.phase = .returned (.ok ()) ∧ last.HalfCloses := by
  have evaluated : ((((pumpMachine ⟨8, 8⟩).restrict fun _ call => call.unfailing).restrict
      Pump.keepsHalfClose).run { streamId := 1 } answeredCalls).map (fun ran => ran.1.phase) =
        some (.returned (.ok ())) := by decide +kernel
  obtain ⟨⟨last, _⟩, ran, phase⟩ := Option.map_eq_some_iff.mp evaluated
  exact ⟨last, phase, pump_half_close ran⟩

/-- The peer half-closes after its request, and the application answers afterwards. -/
def lateAnswer : List PumpCall :=
  [.peerSend [1, 2, 3], .peerClose, .readTunnel 3, .writeLocal 3, .appRead 3, .readTunnelEnd,
    .shutdownLocal false, .appWrite [7, 8], .appPush 2, .appClose]

/-- The application half-closes, and the peer goes on. -/
def latePeer : List PumpCall := [.appClose, .readLocalEnd, .peerSend [1, 2, 3]]

/-- Nothing of the answer reaches the tunnel, which is reset; nothing of what the peer sends
after the application's end reaches the application. -/
theorem half_closes_lost : (((pumpMachine ⟨8, 8⟩).restrict fun _ call => call.unfailing).run { streamId := 1 }
        lateAnswer).map (fun ran => (ran.1.phase, ran.1.commands, ran.1.fromApp)) =
      some (.returned (.ok ()), [.consumed 1 3, .cancel 1], [7, 8]) ∧
    (((pumpMachine ⟨8, 8⟩).restrict fun _ call => call.unfailing).run { streamId := 1 }
        latePeer).map (fun ran => (ran.1.phase, ran.1.toApp, ran.1.tunnelIn)) =
      some (.returned (.ok ()), [], [1, 2, 3]) := by
  decide +kernel

namespace Pump

/-- The pump waits to write to the application, which waits to write to the pump. -/
def Stuck (limits : SocketLimits) (pump : Pump) : Prop :=
  pump.phase.forApp ≠ [] ∧ limits.toApp ≤ pump.toApp.length ∧
    pump.appWriting ≠ [] ∧ limits.fromApp ≤ pump.fromApp.length

instance (limits : SocketLimits) (pump : Pump) : Decidable (pump.Stuck limits) := inferInstanceAs (Decidable (_ ∧ _))

/-- The tunnel is read only as far as the socket has room for it. -/
def readsWithRoom (limits : SocketLimits) (pump : Pump) : PumpCall → Bool
  | .readTunnel count => pump.toApp.length + count ≤ limits.toApp
  | _ => true

def HasRoom (limits : SocketLimits) (pump : Pump) : Prop :=
  pump.toApp.length + pump.phase.forApp.length ≤ limits.toApp

theorem start_hasRoom (limits : SocketLimits) (sid : UInt32) : HasRoom limits { streamId := sid } := Nat.zero_le _

namespace HasRoom
variable {limits : SocketLimits} {pump next : Pump}

section
variable (room : pump.HasRoom limits)
include room

/-- Only the socket's buffer and what is held for it matter. -/
theorem of_le (buffer : next.toApp.length ≤ pump.toApp.length)
    (held : next.phase.forApp.length ≤ pump.phase.forApp.length) : next.HasRoom limits :=
  Nat.le_trans (Nat.add_le_add buffer held) room

theorem finish (res : Except RelayTunnelFailure Unit) : (pump.finish res).HasRoom limits := by
  refine room.of_le ?_ (Nat.zero_le _)
  unfold Pump.finish
  split
  · exact Nat.le_refl _
  · exact Nat.le_refl _

theorem shutdown : pump.shutdown.HasRoom limits := by
  unfold Pump.shutdown
  split
  · exact room
  · exact room

theorem localFailed : pump.localFailed.HasRoom limits := by
  have afterReset : (pump.reset .internalError).HasRoom limits := by
    unfold Pump.reset
    split
    · exact room
    · exact room
  exact afterReset.finish _

theorem step {call : PumpCall} (hs : PumpStep limits pump call next)
    (fits : pump.readsWithRoom limits call = true) : next.HasRoom limits := by
  have held := room
  unfold HasRoom at held
  cases hs with
  | readTunnel count =>
    simp only [readsWithRoom, decide_eq_true_eq] at fits
    change pump.toApp.length + (pump.tunnelIn.take count).length ≤ limits.toApp
    rw [length_take]
    omega
  | writeLocal count rest writes takes =>
    simp only [Pump.takes, decide_eq_true_eq] at takes
    rw [writes] at held
    change (pump.toApp ++ rest.take count).length + (writingLocal (rest.drop count)).forApp.length ≤ limits.toApp
    rw [(held_writingLocal _).1, length_append, length_take, length_drop]
    change pump.toApp.length + rest.length ≤ limits.toApp at held
    omega
  | appRead count =>
    refine room.of_le ?_ (Nat.le_refl _)
    change (pump.toApp.drop count).length ≤ _
    rw [length_drop]
    omega
  | writeTunnel count rest =>
    refine room.of_le (Nat.le_refl _) ?_
    change (writingTunnel (rest.drop count)).forApp.length ≤ _
    rw [(held_writingTunnel _).1]
    exact Nat.zero_le _
  | readTunnelEnd | readLocal => exact room.of_le (Nat.le_refl _) (Nat.zero_le _)
  | readTunnelFailed | writeTunnelFailed => exact room.finish _
  | readLocalEnd => exact room.shutdown.finish _
  | readLocalFailed | writeLocalFailed | shutdownLocalFailed => exact room.localFailed
  | shutdownLocal =>
    have shut : ({ pump with localShutdown := true } : Pump).HasRoom limits := room
    exact shut.finish _
  | _ => exact room

end

end HasRoom

end Pump

/-- A pump that reads the tunnel only as far as the socket has room never waits for an
application that waits for it. -/
theorem pump_never_stuck {limits : SocketLimits} {streamId : UInt32} {calls : List PumpCall}
    {last : Pump} {replies : List Unit}
    (ran : ((pumpMachine limits).restrict (Pump.readsWithRoom limits)).run { streamId } calls =
      some (last, replies)) : ¬ last.Stuck limits := by
  have room : last.HasRoom limits := by
    refine Machine.run_keeps _ (Pump.start_hasRoom limits streamId) ?_ ran
    intro pump call next reply room stepped
    obtain ⟨fits, moved⟩ := Machine.step_restrict _ stepped
    exact Pump.HasRoom.step room (pumpMachine_step moved) fits
  rintro ⟨waits, _, -, -⟩
  have held := length_pos_of_ne_nil waits
  unfold Pump.HasRoom at room
  omega

theorem pump_never_stuck_both :
    ∃ last : Pump, last.appWriting = [9] ∧ last.phase.forApp = [3] ∧ ¬ last.Stuck ⟨3, 2⟩ := by
  have evaluated : (((pumpMachine ⟨3, 2⟩).restrict (Pump.readsWithRoom ⟨3, 2⟩)).run { streamId := 1 }
      [.peerSend [1, 2, 3], .appWrite [7, 8, 9], .readTunnel 3, .writeLocal 2, .appPush 2]).map
        (fun ran => (ran.1.appWriting, ran.1.phase.forApp)) = some ([9], [3]) := by decide +kernel
  obtain ⟨⟨last, _⟩, ran, values⟩ := Option.map_eq_some_iff.mp evaluated
  exact ⟨last, (Prod.mk.inj values).1, (Prod.mk.inj values).2, pump_never_stuck ran⟩

/-- Both write more than the socket holds: the pump has read more than it can write, and reads
nothing of what the application wants to write. -/
theorem pump_stuck_both : (((pumpMachine ⟨2, 2⟩).restrict fun _ call => call.unfailing).run { streamId := 1 }
      [.peerSend [1, 2, 3], .appWrite [7, 8, 9], .readTunnel 3, .writeLocal 2, .appPush 2]).map
        (fun ran => decide (ran.1.Stuck ⟨2, 2⟩)) = some true := by
  decide +kernel

end SplRust.Transport
