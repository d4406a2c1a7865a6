import SplRust.Home.AcceptorEvents
import SplRust.Home.Connection
import Mathlib.Logic.Relation

/-! The lane of one stream through the driver: everything the acceptor, the driver and the
handle keep for that stream, with what has passed through it so far, and the steps it can
take. A lane knows nothing of other streams. -/

namespace SplRust.Home
open SplRust.Lib SplRust.Core

structure Lane where
  /-- The driver is in its loop. -/
  running : Bool := true
  receiving : Bool := true
  entry : Option StreamState := none
  /-- The stream's id cannot be opened any more. -/
  used : Bool := false
  /-- Events of the acceptor that are still to be delivered. -/
  coming : List MuxEvent := []
  stream : Option DriverStream := none
  handle : Option HomeStream := none
  pending : Option Bytes := none
  ready : Bool := false
  closing : Bool := false
  /-- Bytes that were put out and are still counted as staged. -/
  held : Nat := 0
  commands : List DriverCommand := []
  /-- Everything put out for the stream. -/
  frames : List Frame := []
  events : List MuxEvent := []
  accepted : Bytes := []
  returned : Bytes := []
  shutDown : Bool := false
  ended : Bool := false

namespace Lane

variable (lane : Lane)

def put (frames : List Frame) : Lane := { lane with frames := lane.frames ++ frames }

def report (events : List MuxEvent) : Lane :=
  { lane with coming := lane.coming ++ events, events := lane.events ++ events }

def send (command : DriverCommand) : Lane := { lane with commands := lane.commands ++ [command] }

def updateStatus (update : StreamStatus → StreamStatus) : Lane :=
  { lane with stream := lane.stream.map fun stream => { stream with status := update stream.status } }

def release (bytes : Nat) : Lane := lane.updateStatus (·.releaseStaging bytes)

def enter (state : StreamLife) : Lane := lane.updateStatus fun status => { status with state := state }

def signal (lane : Lane) (signal : StreamSignal) : Lane :=
  if lane.handle.isSome then
    { lane with
      stream := lane.stream.map fun stream =>
        { stream with signals := stream.signals ++ [signal] } }
  else lane

def discard : Lane :=
  { lane with
    stream := lane.pending.elim lane.stream fun queue => (lane.release queue.length).stream
    pending := none, ready := false, closing := false }

def stop : Lane := { lane with running := false, entry := none, used := false, coming := [], held := 0 }

def CanSend : Prop := ∃ en, lane.entry = some en ∧ en.localClosed = false

/-- The stream's status, as far as it has one. -/
def Live : Prop := ∀ st, lane.stream = some st → st.status.state = .live

end Lane

/-- The bytes `flush_ready` takes off a queue at once. -/
def chunkOf (queue : Bytes) : Nat := min queue.length recommendedChunk

/-- One step of a lane. The first constructors are what an item from the carrier does to the
stream, then come commands, rounds of `flush_ready`, deliveries, and the handle's calls. -/
inductive LaneStep (sid : UInt32) : Lane → Lane → Prop where
  | control {lane : Lane} (fr : Frame) (flags : fr.flags = flagPong) : LaneStep sid lane (lane.put [fr])
  | passed {lane : Lane} (running : lane.running = true) (absent : lane.entry = none) :
      LaneStep sid lane { lane with used := true }
  | refused {lane : Lane} (running : lane.running = true) (refusalClass : RefusalClass)
      (used : Bool) (kept : lane.used = true → used = true) :
      LaneStep sid lane { (lane.report (if lane.entry.isSome then [.reset sid (.fromClass refusalClass)]
            else [])).put [.reset sid refusalClass.resetCode] with
          entry := none, used := used }
  | opened {lane : Lane} (running : lane.running = true) (absent : lane.entry = none)
      (unused : lane.used = false) (fr : Frame) {window : RecvWindow}
      (debited : RecvWindow.new.debit fr.payload.length = .ok window) :
      LaneStep sid lane { lane.report ([.opened sid] ++
            (if fr.payload ≠ [] ∨ fr.flags &&& flagData ≠ 0 then
              [.data sid fr.payload] else []) ++
            (if fr.flags &&& flagClose ≠ 0 then [.readClosed sid] else [])) with
          entry := some {
            receiveWindow := window, debitedNotConsumed := fr.payload.length
            peerClosed := fr.flags &&& flagClose != 0 }
          used := true }
  | data {lane : Lane} (running : lane.running = true) {en : StreamState} {window : RecvWindow}
      (pl : Bytes) (closes : Bool) (live : lane.entry = some en)
      (reading : en.peerClosed = false)
      (debited : en.receiveWindow.debit pl.length = .ok window) :
      LaneStep sid lane { lane.report (.data sid pl ::
            (if closes then [.readClosed sid] else [])) with
          entry := MuxStreams.dataEntry en window pl.length closes }
  | closed {lane : Lane} (running : lane.running = true) {en : StreamState} (live : lane.entry = some en) :
      LaneStep sid lane { lane.report [.readClosed sid] with entry := MuxStreams.closedEntry en }
  | peerReset {lane : Lane} (running : lane.running = true) {en : StreamState}
      (reason : ResetReason) (live : lane.entry = some en) :
      LaneStep sid lane { lane.report [.reset sid reason] with entry := none }
  | credited {lane : Lane} (running : lane.running = true) {en : StreamState} (credit : Nat)
      (live : lane.entry = some en) :
      LaneStep sid lane { lane with
        entry := some { en with sendCredit := en.sendCredit + credit }
        ready := lane.ready || lane.pending.isSome }
  | consumed {lane : Lane} (running : lane.running = true) {en : StreamState} {bytes : Nat}
      {rest : List DriverCommand} {window : RecvWindow} {grant : Option UInt32}
      (popped : lane.commands = .consumed sid bytes :: rest) (live : lane.entry = some en)
      (fits : bytes ≤ en.debitedNotConsumed) :
      LaneStep sid lane { lane.put (grant.map (Frame.window sid)).toList with
          entry := some { en with receiveWindow := window, debitedNotConsumed := en.debitedNotConsumed - bytes }
          commands := rest }
  | consumedLate {lane : Lane} (running : lane.running = true) {bytes : Nat}
      {rest : List DriverCommand} (popped : lane.commands = .consumed sid bytes :: rest)
      (absent : lane.entry = none) : LaneStep sid lane { lane with commands := rest }
  | write {lane : Lane} (running : lane.running = true) {bytes : Bytes} {rest : List DriverCommand}
      (popped : lane.commands = .write sid bytes :: rest) :
      LaneStep sid lane { lane with
        pending := some (lane.pending.getD [] ++ bytes), ready := true, commands := rest }
  | close {lane : Lane} (running : lane.running = true) {rest : List DriverCommand}
      (popped : lane.commands = .close sid :: rest) :
      LaneStep sid lane { lane with closing := true, ready := true, commands := rest }
  | givenUp {lane : Lane} (running : lane.running = true) {en : StreamState}
      {command : DriverCommand} {rest : List DriverCommand} (reason : ResetReason)
      (popped : lane.commands = command :: rest)
      (gives : command = .cancel sid ∨ command = .reset sid reason)
      (live : lane.entry = some en) :
      LaneStep sid lane { lane.discard.put [.reset sid reason.code] with entry := none, commands := rest }
  | givenUpLate {lane : Lane} (running : lane.running = true) {command : DriverCommand}
      {rest : List DriverCommand} (reason : ResetReason) (popped : lane.commands = command :: rest)
      (gives : command = .cancel sid ∨ command = .reset sid reason)
      (absent : lane.entry = none) : LaneStep sid lane { lane.discard with commands := rest }
  | flushDead {lane : Lane} (running : lane.running = true) (dead : ¬ lane.Live) : LaneStep sid lane lane.discard
  | dropEmpty {lane : Lane} (running : lane.running = true) (empty : lane.pending = some []) :
      LaneStep sid lane { lane with pending := none }
  | flushClose {lane : Lane} (running : lane.running = true) {en : StreamState}
      (idle : lane.pending = none) (asked : lane.closing = true) (live : lane.entry = some en)
      (writable : en.localClosed = false) :
      LaneStep sid lane { lane.put [⟨sid, flagClose, []⟩] with
          entry := if en.peerClosed then none else some { en with localClosed := true }
          closing := false, ready := false }
  | flushCloseLate {lane : Lane} (running : lane.running = true) (idle : lane.pending = none)
      (late : ¬ lane.CanSend) : LaneStep sid lane { lane with closing := false, ready := false }
  | flushIdle {lane : Lane} (running : lane.running = true) (idle : lane.pending = none) :
      LaneStep sid lane { lane with ready := false }
  | flushSent {lane : Lane} (running : lane.running = true) {en : StreamState} {queue : Bytes}
      (waiting : lane.pending = some queue) (nonempty : queue ≠ []) (unheld : lane.held = 0)
      (live : lane.entry = some en) (writable : en.localClosed = false)
      (fits : chunkOf queue ≤ en.sendCredit) :
      LaneStep sid lane { lane.put [⟨sid, flagData, queue.take (chunkOf queue)⟩] with
          entry := some { en with sendCredit := en.sendCredit - chunkOf queue }
          pending := some (queue.drop (chunkOf queue)), ready := false, held := chunkOf queue }
  | flushWithheld {lane : Lane} (running : lane.running = true) {en : StreamState}
      {queue : Bytes} (waiting : lane.pending = some queue) (live : lane.entry = some en)
      (short : en.sendCredit < chunkOf queue) :
      LaneStep sid lane { lane with ready := false }
  | flushLate {lane : Lane} (running : lane.running = true) {queue : Bytes}
      (waiting : lane.pending = some queue) (quiet : lane.coming = []) (alive : lane.Live)
      (late : ¬ lane.CanSend) :
      LaneStep sid lane { lane with pending := some (queue.drop (chunkOf queue)) }.discard
  | sentMore {lane : Lane} (running : lane.running = true) {queue : Bytes}
      (waiting : lane.pending = some queue) (nonempty : queue ≠ []) :
      LaneStep sid lane { lane.release lane.held with held := 0, ready := true }
  | sentLast {lane : Lane} (running : lane.running = true) (spent : lane.pending.getD [] = []) :
      LaneStep sid lane { lane.release lane.held with held := 0, pending := none }
  | handOut {lane : Lane} (running : lane.running = true) {rest : List MuxEvent}
      (next : lane.coming = .opened sid :: rest) :
      LaneStep sid lane { lane with coming := rest, stream := some {}, handle := some {} }
  | ownerGone {lane : Lane} (running : lane.running = true) {rest : List MuxEvent}
      (next : lane.coming = .opened sid :: rest) :
      LaneStep sid lane (Lane.send { lane with stream := some {} } (.cancel sid)).stop
  | signalData {lane : Lane} (running : lane.running = true) {bytes : Bytes} {rest : List MuxEvent}
      (next : lane.coming = .data sid bytes :: rest) :
      LaneStep sid lane { lane.signal (.data bytes) with coming := rest }
  | signalEof {lane : Lane} (running : lane.running = true) {rest : List MuxEvent}
      (next : lane.coming = .readClosed sid :: rest) :
      LaneStep sid lane { lane.signal .readEof with coming := rest }
  | signalReset {lane : Lane} (running : lane.running = true) {reason : ResetReason}
      {rest : List MuxEvent} (next : lane.coming = .reset sid reason :: rest) :
      LaneStep sid lane { (lane.enter .reset).signal .reset with coming := rest }
  | stop {lane : Lane} (running : lane.running = true) : LaneStep sid lane lane.stop
  | told {lane : Lane} (left : lane.running = false) : LaneStep sid lane ((lane.enter .gone).signal .gone)
  | finished {lane : Lane} (left : lane.running = false)
      (gone : ∀ st, lane.stream = some st → st.status.state = .gone) :
      LaneStep sid lane { lane with receiving := false }
  | takeData {lane : Lane} {hdl : HomeStream} {st : DriverStream} {bytes : Bytes}
      {rest : List StreamSignal} (held : lane.handle = some hdl)
      (hp : lane.stream = some st) (live : st.status.state = .live)
      (empty : hdl.readBuffer = []) (reading : hdl.readEof = false)
      (next : st.signals = .data bytes :: rest) :
      LaneStep sid lane { lane with
        handle := some { hdl with readBuffer := bytes }
        stream := some { st with signals := rest } }
  | takeEof {lane : Lane} {hdl : HomeStream} {st : DriverStream}
      {rest : List StreamSignal} (held : lane.handle = some hdl)
      (hp : lane.stream = some st) (live : st.status.state = .live)
      (empty : hdl.readBuffer = []) (next : st.signals = .readEof :: rest) :
      LaneStep sid lane { lane with
        handle := some { hdl with readEof := true }
        stream := some { st with signals := rest } }
  | takeEnd {lane : Lane} {hdl : HomeStream} {st : DriverStream} {signal : StreamSignal}
      {rest : List StreamSignal} (s : StreamLife) (dead : s ≠ .live)
      (held : lane.handle = some hdl) (hp : lane.stream = some st)
      (next : st.signals = signal :: rest) (ends : signal = .reset ∨ signal = .gone) :
      LaneStep sid lane { lane with
        handle := some { hdl with readBuffer := [] }
        stream := some { signals := rest, status := { st.status with state := s } } }
  | takeClosed {lane : Lane} {hdl : HomeStream} {st : DriverStream}
      (deaf : lane.receiving = false) (held : lane.handle = some hdl)
      (hp : lane.stream = some st) :
      LaneStep sid lane { lane with
        handle := some { hdl with readBuffer := [] }
        stream := some { st with status := { st.status with state := .gone } } }
  | cleared {lane : Lane} {hdl : HomeStream} {st : DriverStream}
      (held : lane.handle = some hdl) (hp : lane.stream = some st)
      (dead : st.status.state ≠ .live) :
      LaneStep sid lane { lane with handle := some { hdl with readBuffer := [] } }
  | returned {lane : Lane} {hdl : HomeStream} {st : DriverStream} (count : Nat)
      (hears : lane.receiving = true) (held : lane.handle = some hdl)
      (hp : lane.stream = some st) (live : st.status.state = .live)
      (fits : count ≤ hdl.readBuffer.length) :
      LaneStep sid lane { lane with
        handle := some { hdl with readBuffer := hdl.readBuffer.drop count }
        commands := lane.commands ++ [.consumed sid count]
        returned := lane.returned ++ hdl.readBuffer.take count }
  | lost {lane : Lane} {hdl : HomeStream} (count : Nat) (deaf : lane.receiving = false)
      (held : lane.handle = some hdl) :
      LaneStep sid lane { lane with handle := some { hdl with readBuffer := hdl.readBuffer.drop count } }
  | ended {lane : Lane} {hdl : HomeStream} {st : DriverStream}
      (held : lane.handle = some hdl) (hp : lane.stream = some st)
      (live : st.status.state = .live) (empty : hdl.readBuffer = [])
      (done : hdl.readEof = true) : LaneStep sid lane { lane with ended := true }
  | rewoken {lane : Lane} {st : DriverStream} (waker : Option Nat) (hp : lane.stream = some st) :
      LaneStep sid lane { lane with
        stream := some { st with status := { st.status with writeWaker := waker } } }
  | accepted {lane : Lane} {hdl : HomeStream} {st : DriverStream} (bytes : Bytes)
      (hears : lane.receiving = true) (held : lane.handle = some hdl)
      (hp : lane.stream = some st) (live : st.status.state = .live)
      (writing : hdl.writeShutdown = false)
      (room : st.status.stagedBytes + bytes.length ≤ maxStagedWriteBytesPerStream) :
      LaneStep sid lane { lane with
        stream := some { st with
          status := { st.status with stagedBytes := st.status.stagedBytes + bytes.length } }
        commands := lane.commands ++ [.write sid bytes]
        accepted := lane.accepted ++ bytes }
  | shut {lane : Lane} {hdl : HomeStream} (hears : lane.receiving = true)
      (held : lane.handle = some hdl) (writing : hdl.writeShutdown = false) :
      LaneStep sid lane { lane with
        handle := some { hdl with writeShutdown := true }
        commands := lane.commands ++ [.close sid], shutDown := true }
  | shutAgain {lane : Lane} {hdl : HomeStream} (held : lane.handle = some hdl)
      (done : hdl.writeShutdown = true) : LaneStep sid lane { lane with shutDown := true }
  | resetAsked {lane : Lane} {hdl : HomeStream} (reason : ResetReason) (held : lane.handle = some hdl) :
      LaneStep sid lane { lane with
        handle := some { hdl with writeShutdown := true }
        commands := lane.commands ++ [.reset sid reason] }
  | dropped {lane : Lane} {hdl : HomeStream} (held : lane.handle = some hdl) :
      LaneStep sid lane { lane with
        handle := none
        commands := lane.commands ++
          (if hdl.writeShutdown = false ∧ lane.receiving = true then [.cancel sid] else []) }

end SplRust.Home
