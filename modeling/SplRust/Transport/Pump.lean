import SplRust.Home.Connection

/-! `pump_stream` of `spl-transport/src/home_relay.rs`, between a tunnel stream and the socket of
a local application. The socket is a bounded buffer each way; the application reads only while
none of its writes waits. -/

namespace SplRust.Transport
open SplRust.Lib SplRust.Core SplRust.Home

inductive RelayTunnelFailure where
  | localPrivateListenerUnreachable
  | relayTunnelUnreachable
  deriving DecidableEq, Repr

/-- The size of `tunnel_buf` and `socket_buf`. -/
def pumpBuffer : Nat := 64 * 1024

/-- Where `pump_stream` is: in its `select!`, or awaiting in a branch of it. -/
inductive PumpPhase where
  | select
  | writeLocal (rest : Bytes)
  | writeTunnel (rest : Bytes)
  | shutdownLocal
  | returned (result : Except RelayTunnelFailure Unit)
  deriving DecidableEq, Repr

namespace PumpPhase

/-- What the pump has read and not written yet. -/
def forApp : PumpPhase → Bytes
  | .writeLocal rest => rest
  | _ => []

def forTunnel : PumpPhase → Bytes
  | .writeTunnel rest => rest
  | _ => []

def isReturned : PumpPhase → Bool
  | .returned _ => true
  | _ => false

end PumpPhase

structure SocketLimits where
  toApp : Nat
  fromApp : Nat
  deriving DecidableEq, Repr

structure Pump where
  phase : PumpPhase := .select
  streamId : UInt32
  /-- The stream was reset, or its carrier is gone. -/
  streamFailed : Bool := false
  writeShutdown : Bool := false
  /-- What the handle of the stream has sent to the driver. -/
  commands : List DriverCommand := []
  /-- What has arrived for the stream and was not read; then the peer's CLOSE. -/
  tunnelIn : Bytes := []
  tunnelEnd : Bool := false
  /-- The socket's buffers. -/
  toApp : Bytes := []
  fromApp : Bytes := []
  localShutdown : Bool := false
  appEnd : Bool := false
  /-- What the application's write has left. -/
  appWriting : Bytes := []
  /-- Everything the peer has sent, the application has sent, and the application has read. -/
  peerSent : Bytes := []
  appSent : Bytes := []
  appRead : Bytes := []
  deriving DecidableEq, Repr

inductive PumpCall where
  | peerSend (bytes : Bytes)
  | peerClose
  | streamFails
  | appWrite (bytes : Bytes)
  | appPush (count : Nat)
  | appClose
  | appRead (count : Nat)
  | readTunnel (count : Nat)
  | readTunnelEnd
  | readTunnelFailed
  | readLocal (count : Nat)
  | readLocalEnd
  | readLocalFailed
  | writeLocal (count : Nat)
  | writeLocalFailed
  | writeTunnel (count : Nat)
  | writeTunnelFailed
  | shutdownLocal (failed : Bool)
  deriving DecidableEq, Repr

namespace Pump

def send (pump : Pump) (command : DriverCommand) : Pump := { pump with commands := pump.commands ++ [command] }

/-- `HomeStream::reset`. -/
def reset (pump : Pump) (reason : Home.ResetReason) : Pump :=
  if pump.streamFailed then pump
  else { pump.send (.reset pump.streamId reason) with writeShutdown := true }

/-- `HomeStream::poll_shutdown`; its error is ignored here. -/
def shutdown (pump : Pump) : Pump :=
  if pump.streamFailed ∨ pump.writeShutdown then pump
  else { pump.send (.close pump.streamId) with writeShutdown := true }

/-- `pump_stream` returns, and the handle of the stream is dropped. -/
def finish (pump : Pump) (result : Except RelayTunnelFailure Unit) : Pump :=
  { if pump.writeShutdown then pump else pump.send (.cancel pump.streamId) with phase := .returned result }

def localFailed (pump : Pump) : Pump := (pump.reset .internalError).finish (.error .relayTunnelUnreachable)

/-- A read takes from one byte to a buffer full of them. -/
def reads (count : Nat) (available : Bytes) : Bool :=
  decide (0 < count ∧ count ≤ pumpBuffer ∧ count ≤ available.length)

def takes (count : Nat) (rest : Bytes) : Bool := decide (0 < count ∧ count ≤ rest.length)

/-- `write_all` with this left to write. -/
def writingLocal (rest : Bytes) : PumpPhase := if rest = [] then .select else .writeLocal rest

def writingTunnel (rest : Bytes) : PumpPhase := if rest = [] then .select else .writeTunnel rest

def step (limits : SocketLimits) (pump : Pump) : PumpCall → Option Pump
  | .peerSend bytes =>
      if pump.tunnelEnd then none
      else some { pump with tunnelIn := pump.tunnelIn ++ bytes, peerSent := pump.peerSent ++ bytes }
  | .peerClose => some { pump with tunnelEnd := true }
  | .streamFails => some { pump with streamFailed := true }
  | .appWrite bytes => if pump.appEnd ∨ pump.appWriting ≠ [] then none else some { pump with appWriting := bytes }
  | .appPush count =>
      if takes count pump.appWriting ∧ pump.fromApp.length + count ≤ limits.fromApp then
        some { pump with
          appWriting := pump.appWriting.drop count
          fromApp := pump.fromApp ++ pump.appWriting.take count
          appSent := pump.appSent ++ pump.appWriting.take count }
      else none
  | .appClose => if pump.appWriting ≠ [] then none else some { pump with appEnd := true }
  | .appRead count =>
      if pump.appWriting = [] ∧ count ≤ pump.toApp.length then
        some { pump with toApp := pump.toApp.drop count, appRead := pump.appRead ++ pump.toApp.take count }
      else none
  | .readTunnel count =>
      if pump.phase = .select ∧ pump.streamFailed = false ∧ reads count pump.tunnelIn then
        some { pump.send (.consumed pump.streamId count) with
          phase := .writeLocal (pump.tunnelIn.take count), tunnelIn := pump.tunnelIn.drop count }
      else none
  | .readTunnelEnd =>
      if pump.phase = .select ∧ pump.streamFailed = false ∧ pump.tunnelIn = [] ∧ pump.tunnelEnd then
        some { pump with phase := .shutdownLocal }
      else none
  | .readTunnelFailed => if pump.phase = .select ∧ pump.streamFailed then some (pump.finish (.ok ())) else none
  | .readLocal count =>
      if pump.phase = .select ∧ reads count pump.fromApp then
        some { pump with phase := .writeTunnel (pump.fromApp.take count), fromApp := pump.fromApp.drop count }
      else none
  | .readLocalEnd =>
      if pump.phase = .select ∧ pump.fromApp = [] ∧ pump.appEnd then
        some (pump.shutdown.finish (.ok ()))
      else none
  | .readLocalFailed => if pump.phase = .select then some pump.localFailed else none
  | .writeLocal count =>
      match pump.phase with
      | .writeLocal rest =>
          if takes count rest ∧ pump.toApp.length + count ≤ limits.toApp then
            some { pump with phase := writingLocal (rest.drop count), toApp := pump.toApp ++ rest.take count }
          else none
      | _ => none
  | .writeLocalFailed =>
      match pump.phase with
      | .writeLocal _ => some pump.localFailed
      | _ => none
  | .writeTunnel count =>
      match pump.phase with
      | .writeTunnel rest =>
          if takes count rest ∧ pump.streamFailed = false ∧ pump.writeShutdown = false then
            some { pump.send (.write pump.streamId (rest.take count)) with phase := writingTunnel (rest.drop count) }
          else none
      | _ => none
  | .writeTunnelFailed =>
      match pump.phase with
      | .writeTunnel _ => if pump.streamFailed then some (pump.finish (.ok ())) else none
      | _ => none
  | .shutdownLocal failed =>
      if pump.phase = .shutdownLocal then
        if failed then some pump.localFailed
        else some ({ pump with localShutdown := true }.finish (.ok ()))
      else none

end Pump

def pumpMachine (limits : SocketLimits) : Machine Pump PumpCall Unit where
  step pump call := (pump.step limits call).map fun next => (next, ())

/-- The steps of a pump, by what they need and what they do. -/
inductive PumpStep (limits : SocketLimits) (pump : Pump) : PumpCall → Pump → Prop where
  | peerSend (bytes : Bytes) (going : pump.tunnelEnd = false) : PumpStep limits pump (.peerSend bytes) { pump with
        tunnelIn := pump.tunnelIn ++ bytes, peerSent := pump.peerSent ++ bytes }
  | peerClose : PumpStep limits pump .peerClose { pump with tunnelEnd := true }
  | streamFails : PumpStep limits pump .streamFails { pump with streamFailed := true }
  | appWrite (bytes : Bytes) (going : pump.appEnd = false) (idle : pump.appWriting = []) :
      PumpStep limits pump (.appWrite bytes) { pump with appWriting := bytes }
  | appPush (count : Nat) (takes : Pump.takes count pump.appWriting = true)
      (room : pump.fromApp.length + count ≤ limits.fromApp) :
      PumpStep limits pump (.appPush count) { pump with
        appWriting := pump.appWriting.drop count
        fromApp := pump.fromApp ++ pump.appWriting.take count
        appSent := pump.appSent ++ pump.appWriting.take count }
  | appClose (idle : pump.appWriting = []) : PumpStep limits pump .appClose { pump with appEnd := true }
  | appRead (count : Nat) (idle : pump.appWriting = []) (there : count ≤ pump.toApp.length) :
      PumpStep limits pump (.appRead count) { pump with
        toApp := pump.toApp.drop count, appRead := pump.appRead ++ pump.toApp.take count }
  | readTunnel (count : Nat) (selects : pump.phase = .select) (live : pump.streamFailed = false)
      (reads : Pump.reads count pump.tunnelIn = true) :
      PumpStep limits pump (.readTunnel count) { pump.send (.consumed pump.streamId count) with
        phase := .writeLocal (pump.tunnelIn.take count), tunnelIn := pump.tunnelIn.drop count }
  | readTunnelEnd (selects : pump.phase = .select) (live : pump.streamFailed = false)
      (empty : pump.tunnelIn = []) (ended : pump.tunnelEnd = true) :
      PumpStep limits pump .readTunnelEnd { pump with phase := .shutdownLocal }
  | readTunnelFailed (selects : pump.phase = .select) (failed : pump.streamFailed = true) :
      PumpStep limits pump .readTunnelFailed (pump.finish (.ok ()))
  | readLocal (count : Nat) (selects : pump.phase = .select) (reads : Pump.reads count pump.fromApp = true) :
      PumpStep limits pump (.readLocal count) { pump with
        phase := .writeTunnel (pump.fromApp.take count), fromApp := pump.fromApp.drop count }
  | readLocalEnd (selects : pump.phase = .select) (empty : pump.fromApp = []) (ended : pump.appEnd = true) :
      PumpStep limits pump .readLocalEnd (pump.shutdown.finish (.ok ()))
  | readLocalFailed (selects : pump.phase = .select) : PumpStep limits pump .readLocalFailed pump.localFailed
  | writeLocal (count : Nat) (rest : Bytes) (writes : pump.phase = .writeLocal rest)
      (takes : Pump.takes count rest = true) (room : pump.toApp.length + count ≤ limits.toApp) :
      PumpStep limits pump (.writeLocal count) { pump with
        phase := Pump.writingLocal (rest.drop count), toApp := pump.toApp ++ rest.take count }
  | writeLocalFailed (rest : Bytes) (writes : pump.phase = .writeLocal rest) :
      PumpStep limits pump .writeLocalFailed pump.localFailed
  | writeTunnel (count : Nat) (rest : Bytes) (writes : pump.phase = .writeTunnel rest)
      (takes : Pump.takes count rest = true) :
      PumpStep limits pump (.writeTunnel count) { pump.send (.write pump.streamId (rest.take count)) with
        phase := Pump.writingTunnel (rest.drop count) }
  | writeTunnelFailed (rest : Bytes) (writes : pump.phase = .writeTunnel rest) (failed : pump.streamFailed = true) :
      PumpStep limits pump .writeTunnelFailed (pump.finish (.ok ()))
  | shutdownLocalFailed (shuts : pump.phase = .shutdownLocal) :
      PumpStep limits pump (.shutdownLocal true) pump.localFailed
  | shutdownLocal (shuts : pump.phase = .shutdownLocal) : PumpStep limits pump (.shutdownLocal false)
        ({ pump with localShutdown := true }.finish (.ok ()))

theorem Pump.step_spec {lim : SocketLimits} {pump next : Pump} {call : PumpCall}
    (hs : pump.step lim call = some next) : PumpStep lim pump call next := by
  revert hs
  fun_cases Pump.step lim pump call with
  | case2 bs going => rintro ⟨⟩; exact .peerSend bs (by simpa using going)
  | case3 => rintro ⟨⟩; exact .peerClose
  | case4 => rintro ⟨⟩; exact .streamFails
  | case6 bs free =>
    rintro ⟨⟩
    rw [not_or, not_not] at free
    exact .appWrite bs (by simpa using free.1) free.2
  | case7 count fits => rintro ⟨⟩; exact .appPush count fits.1 fits.2
  | case10 idle => rintro ⟨⟩; exact .appClose (not_not.mp idle)
  | case11 count fits => rintro ⟨⟩; exact .appRead count fits.1 fits.2
  | case13 count ready => rintro ⟨⟩; exact .readTunnel count ready.1 ready.2.1 ready.2.2
  | case15 ready => rintro ⟨⟩; exact .readTunnelEnd ready.1 ready.2.1 ready.2.2.1 ready.2.2.2
  | case17 ready => rintro ⟨⟩; exact .readTunnelFailed ready.1 ready.2
  | case19 count ready => rintro ⟨⟩; exact .readLocal count ready.1 ready.2
  | case21 ready => rintro ⟨⟩; exact .readLocalEnd ready.1 ready.2.1 ready.2.2
  | case23 ready => rintro ⟨⟩; exact .readLocalFailed ready
  | case25 count rest writes fits => rintro ⟨⟩; exact .writeLocal count rest writes fits.1 fits.2
  | case28 rest writes => rintro ⟨⟩; exact .writeLocalFailed rest writes
  | case30 count rest writes fits => rintro ⟨⟩; exact .writeTunnel count rest writes fits.1
  | case33 rest writes failed => rintro ⟨⟩; exact .writeTunnelFailed rest writes failed
  | case36 shuts => rintro ⟨⟩; exact .shutdownLocalFailed shuts
  | case37 failed shuts going =>
    rintro ⟨⟩
    rw [Bool.not_eq_true] at going
    rw [going]
    exact .shutdownLocal shuts
  | _ => rintro ⟨⟩

end SplRust.Transport
