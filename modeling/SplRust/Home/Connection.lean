import SplRust.Home.AcceptorRun
import SplRust.Home.Staging

/-! A carrier's driver and its stream handles, `run_driver` and `HomeStream` of
`spl-home/src/connection.rs`. The driver advances from one access to what it shares with the
handles to the next: one frame written, one event delivered, one round of `flush_ready`. The
operations of the handles may come in between at any point. The tallies of pings and
refusals are left out. -/

namespace SplRust.Home
open SplRust.Lib SplRust.Core

inductive CarrierClose where
  | stillOpen
  | peerEof (truncated : Bool)
  | peerReadFailed
  | acceptorRefused
  | writeFailed
  | ownerGone
  | localClose
  deriving DecidableEq, Repr

/-- The first reason to stop wins. -/
def CarrierClose.record (current reason : CarrierClose) : CarrierClose :=
  if current = .stillOpen then reason else current

inductive DriverCommand where
  | write (streamId : UInt32) (bytes : Bytes)
  | consumed (streamId : UInt32) (bytes : Nat)
  | close (streamId : UInt32)
  | cancel (streamId : UInt32)
  | reset (streamId : UInt32) (reason : ResetReason)
  | wake
  | closeConnection
  deriving DecidableEq, Repr

inductive StreamSignal where
  | data (bytes : Bytes)
  | readEof
  | reset
  | gone
  deriving DecidableEq, Repr

/-- What the driver and the handle of a stream share: the signals the handle has not received
yet, and the status. -/
structure DriverStream where
  signals : List StreamSignal := []
  status : StreamStatus := {}
  deriving DecidableEq, Repr

structure HomeStream where
  readBuffer : Bytes := []
  readEof : Bool := false
  writeShutdown : Bool := false
  deriving DecidableEq, Repr

/-- Where the driver goes on after `deliver_output`. -/
inductive Resume where
  | flush
  | finish
  | round (rounds : Nat) (progress : Bool)
  | sent (streamId : UInt32) (count rounds : Nat)
  deriving DecidableEq, Repr

/-- Where the driver is. It is parked at the start of each iteration of its loop. In
`deliver_output` the frames left are to be written, then flushed, and then the events
delivered; after the loop the streams that are left are to be told. -/
inductive DriverPhase where
  | parked
  | delivering (unflushed : Bool) (frames : List Frame) (events : List MuxEvent) (resume : Resume)
  | flushing (rounds : Nat) (progress : Bool)
  | leaving (streamIds : Finset UInt32)
  | stopped
  | panicked
  deriving DecidableEq

structure Connection where
  acceptor : MuxAcceptor
  streams : Table UInt32 DriverStream := ∅
  pending : Table UInt32 Bytes := ∅
  ready : List UInt32 := []
  closing : Finset UInt32 := ∅
  commands : List DriverCommand := []
  written : List Frame := []
  close : CarrierClose := .stillOpen
  phase : DriverPhase := .parked
  handles : Table UInt32 HomeStream := ∅
  /-- The owner of the connection has dropped it. -/
  ownerGone : Bool := false

def MuxEvent.openedId : MuxEvent → Option UInt32
  | .opened sid => some sid
  | _ => none

namespace Connection

variable (conn : Connection) (sid : UInt32)

def withMux (mux : MuxStreams) : Connection :=
  { conn with acceptor := { conn.acceptor with toMuxStreams := mux } }

def send (command : DriverCommand) : Connection :=
  { conn with commands := conn.commands ++ [command] }

def stop (reason : CarrierClose) : Connection :=
  { conn with close := conn.close.record reason, phase := .leaving conn.streams.keys }

def updateStatus (update : StreamStatus → StreamStatus) :
    Connection :=
  { conn with
    streams := Table.assign conn.streams sid
      ((conn.streams.lookup sid).map fun stream =>
        { stream with status := update stream.status }) }

/-- Send a signal; it is lost if the handle is gone. -/
def signal (conn : Connection) (sid : UInt32) (signal : StreamSignal) : Connection :=
  if sid ∈ conn.handles then
    { conn with
      streams := Table.assign conn.streams sid
        ((conn.streams.lookup sid).map fun stream =>
          { stream with signals := stream.signals ++ [signal] }) }
  else conn

def pushReady : Connection :=
  if sid ∈ conn.ready then conn else { conn with ready := conn.ready ++ [sid] }

def markWritableStreams (output : MuxOutput) : Connection :=
  { conn with
    ready := output.writableStreams.foldl (fun ready sid =>
      if sid ∈ conn.pending ∧ sid ∉ ready then ready ++ [sid] else ready)
      conn.ready }

def discardPendingStream : Connection :=
  let conn := match conn.pending.lookup sid with
    | some queue => { conn.updateStatus sid (·.releaseStaging queue.length) with pending := conn.pending.erase sid }
    | none => conn
  { conn with
    ready := conn.ready.filter fun readyId => readyId != sid
    closing := conn.closing.erase sid }

def deliverOutput (output : MuxOutput) (resume : Resume) : Connection :=
  { conn with phase := .delivering false output.frames output.events resume }

/-- Enter `flush_ready`. -/
def flushReady : Connection := { conn with phase := .flushing conn.ready.length false }

def closeIfAsked (rounds : Nat) (progress : Bool) :
    Connection :=
  if sid ∈ conn.closing then
    let conn := { conn with closing := conn.closing.erase sid }
    match conn.acceptor.closeWrite sid with
    | (mux, .ok output) => (conn.withMux mux).deliverOutput output (.round rounds progress)
    | (_, .error .closed) => { conn with phase := .flushing rounds progress }
    | (_, .error _) => conn.stop .writeFailed
  else { conn with phase := .flushing rounds progress }

/-- The first `count` pending bytes of a round go to the acceptor. -/
def sendChunk (queue : Bytes) (count rounds : Nat)
    (progress : Bool) : Connection :=
  let drained := { conn with pending := conn.pending.insert sid (queue.drop count) }
  match conn.acceptor.trySendData sid (queue.take count) with
  | (mux, .ok (some output)) => (drained.withMux mux).deliverOutput output (.sent sid count rounds)
  -- The bytes are put back.
  | (_, .ok none) => { conn with phase := .flushing rounds progress }
  | (_, .error .closed) => { drained.discardPendingStream sid with phase := .flushing rounds progress }
  | (_, .error _) => drained.stop .writeFailed

/-- One round of `flush_ready`; `rounds` are left after it. -/
def flushRound (rounds : Nat) (progress : Bool) : Connection :=
  match conn.ready with
  | [] => { conn with phase := .flushing 0 progress }
  | sid :: ready =>
      let conn := { conn with ready := ready }
      if (conn.streams.lookup sid).any fun stream => stream.status.state != .live then
        { conn.discardPendingStream sid with phase := .flushing rounds progress }
      else
        match conn.pending.lookup sid with
        | none => conn.closeIfAsked sid rounds progress
        | some queue =>
            let count := min queue.length recommendedChunk
            if count = 0 then
              { conn with pending := conn.pending.erase sid }.closeIfAsked sid rounds
                progress
            else conn.sendChunk sid queue count rounds progress

/-- The end of `flush_ready`. -/
def endFlush (progress : Bool) : Connection :=
  { conn with
    commands := if progress ∧ conn.ready ≠ [] then conn.commands ++ [.wake] else conn.commands
    phase := .parked }

/-- After the last event of an output. -/
def resume : Resume → Connection
  | .flush => conn.flushReady
  | .finish => { conn with phase := .leaving conn.streams.keys }
  | .round rounds progress => { conn with phase := .flushing rounds progress }
  | .sent sid count rounds =>
      let conn := conn.updateStatus sid (·.releaseStaging count)
      match conn.pending.lookup sid with
      | some (_ :: _) => { conn with ready := conn.ready ++ [sid], phase := .flushing rounds true }
      | _ => { conn with pending := conn.pending.erase sid }.closeIfAsked sid rounds true

def writeFrame (frame : Frame) (frames : List Frame) (events : List MuxEvent)
    (resume : Resume) : Connection :=
  match frame.encode with
  | .error _ => conn.stop .writeFailed
  | .ok _ => { conn with written := conn.written ++ [frame], phase := .delivering true frames events resume }

def deliverEvent (events : List MuxEvent) (resume : Resume) : MuxEvent → Connection
  | .opened sid =>
      let conn := { conn with streams := conn.streams.insert sid {} }
      if conn.ownerGone then
        -- The handle cannot be handed out, and dropping it cancels its stream.
        (conn.send (.cancel sid)).stop .ownerGone
      else { conn with handles := conn.handles.insert sid {}, phase := .delivering false [] events resume }
  | .data sid bytes => { conn.signal sid (.data bytes) with phase := .delivering false [] events resume }
  | .readClosed sid => { conn.signal sid .readEof with phase := .delivering false [] events resume }
  | .reset sid _ =>
      { (conn.updateStatus sid fun status => { status with state := .reset }).signal
          sid .reset with phase := .delivering false [] events resume }
  | .peerGone _ => { conn with phase := .delivering false [] events resume }

def giveUp (reason : ResetReason) : Connection :=
  let conn := conn.discardPendingStream sid
  match conn.acceptor.reset sid reason with
  | (mux, .ok output) => (conn.withMux mux).deliverOutput output .flush
  | (_, .error .closed) => conn.flushReady
  | (_, .error _) => conn.stop .acceptorRefused

/-- The part of the loop's body for a command. -/
def handleCommand : DriverCommand → Connection
  | .write sid bytes =>
      let queue := (conn.pending.lookup sid).getD []
      ({ conn with pending := conn.pending.insert sid (queue ++ bytes) }.pushReady sid).flushReady
  | .consumed sid bytes =>
      match conn.acceptor.consume sid bytes with
      | (mux, .ok output) => ((conn.withMux mux).markWritableStreams output).deliverOutput output .flush
      -- `continue`: nothing is flushed.
      | (_, .error (.error .closed)) => conn
      | (_, .error (.error _)) => conn.stop .acceptorRefused
      | (_, .error .panic) => { conn with phase := .panicked }
  | .close sid => ({ conn with closing := insert sid conn.closing }.pushReady sid).flushReady
  | .cancel sid => conn.giveUp sid .cancel
  | .reset sid reason => conn.giveUp sid reason
  | .wake => conn.flushReady
  | .closeConnection => conn.stop .localClose

def readBytes (bytes : Bytes) : Connection × Option MuxOutput :=
  match conn.acceptor.feed bytes with
  | (acceptor, .ok output) =>
      (({ conn with acceptor := acceptor }.markWritableStreams output).deliverOutput output .flush, some output)
  | (acceptor, .error _) => ({ conn with acceptor := acceptor }.stop .acceptorRefused, none)

/-- The end of the carrier's bytes. -/
def readEof : Connection :=
  let (acceptor, output) := conn.acceptor.finishEof
  let truncated := output.events.any fun event => event == .peerGone true
  ({ conn with acceptor := acceptor, close := conn.close.record (.peerEof truncated) }.markWritableStreams
      output).deliverOutput output .finish

/-- The driver's next step, where it does not wait for an input. -/
def advance : Option (Connection × Option UInt32) :=
  match conn.phase with
  | .delivering _ (frame :: frames) events resume => some (conn.writeFrame frame frames events resume, none)
  | .delivering true [] events resume => some ({ conn with phase := .delivering false [] events resume }, none)
  | .delivering false [] (event :: events) resume => some (conn.deliverEvent events resume event, event.openedId)
  | .delivering false [] [] resume => some (conn.resume resume, none)
  | .flushing 0 progress => some (conn.endFlush progress, none)
  | .flushing (rounds + 1) progress => some (conn.flushRound rounds progress, none)
  | .leaving streamIds => if streamIds = ∅ then some ({ conn with phase := .stopped }, none) else none
  | _ => none

def tell (left : Finset UInt32) : Connection :=
  { (conn.updateStatus sid fun status => { status with state := .gone }).signal sid
      .gone with phase := .leaving (left.erase sid) }

/-- The driver still receives commands. -/
def receiving : Bool :=
  match conn.phase with
  | .stopped => false
  | .panicked => false
  | _ => true

end Connection

/-- What a call of `poll_read` returns. -/
inductive ReadOutcome where
  | bytes (bytes : Bytes)
  | ended
  | waiting
  | failed
  deriving DecidableEq, Repr

structure ReadResult where
  signals : List StreamSignal
  state : StreamLife
  handle : HomeStream
  outcome : ReadOutcome

/-- The loop of `poll_read`; `closed` says that the driver's end of the signals is gone. -/
def readLoop (capacity : Nat) (closed : Bool) : List StreamSignal → StreamLife → HomeStream → ReadResult
  | signals, state, handle =>
      if state ≠ .live then ⟨signals, state, { handle with readBuffer := [] }, .failed⟩
      else if handle.readBuffer ≠ [] then
        let count := min capacity handle.readBuffer.length
        ⟨signals, state, { handle with readBuffer := handle.readBuffer.drop count },
          .bytes (handle.readBuffer.take count)⟩
      else if handle.readEof then ⟨signals, state, handle, .ended⟩
      else
        match signals with
        | .data bytes :: signals =>
            readLoop capacity closed signals state { handle with readBuffer := handle.readBuffer ++ bytes }
        | .readEof :: signals => readLoop capacity closed signals state { handle with readEof := true }
        | .reset :: signals => readLoop capacity closed signals .reset { handle with readBuffer := [] }
        | .gone :: signals => readLoop capacity closed signals .gone { handle with readBuffer := [] }
        | [] =>
            if closed then ⟨[], .gone, { handle with readBuffer := [] }, .failed⟩
            else ⟨[], state, handle, .waiting⟩

inductive ConnectionReply where
  | done
  /-- What the acceptor made of the carrier's bytes. -/
  | fed (output : MuxOutput)
  | handedOut (streamId : UInt32)
  | returned (streamId : UInt32) (bytes : Bytes)
  | ended (streamId : UInt32)
  | accepted (streamId : UInt32) (bytes : Bytes)
  | shutDown (streamId : UInt32)
  deriving DecidableEq, Repr

namespace Connection

variable (conn : Connection) (sid : UInt32)

def assignHandle (handle : HomeStream) : Connection :=
  { conn with handles := conn.handles.insert sid handle }

def assignStream (stream : DriverStream) : Connection :=
  { conn with streams := conn.streams.insert sid stream }

def pollRead (handle : HomeStream) (stream : DriverStream)
    (capacity : Nat) : Connection × ConnectionReply :=
  let result := readLoop capacity (!conn.receiving) stream.signals stream.status.state handle
  let conn := (conn.assignStream sid { stream with
    signals := result.signals
    status := { stream.status with state := result.state } }).assignHandle sid result.handle
  match result.outcome with
  | .bytes bytes =>
      if conn.receiving then
        (conn.send (.consumed sid bytes.length), .returned sid bytes)
      else (conn, .done)
  | .ended => (conn, .ended sid)
  | _ => (conn, .done)

def pollWrite (handle : HomeStream) (stream : DriverStream)
    (bytes : Bytes) (waker : Nat) : Connection × ConnectionReply :=
  if stream.status.state ≠ .live then (conn, .done)
  else if handle.writeShutdown then (conn, .done)
  else if bytes = [] then (conn, .accepted sid [])
  else
    let (status, staged) := stream.status.reserveStaging bytes.length waker
    let reserved := conn.assignStream sid { stream with status := status }
    if staged = 0 then (reserved, .done)
    else if conn.receiving then
      (reserved.send (.write sid (bytes.take staged)), .accepted sid (bytes.take staged))
    else (reserved.assignStream sid { stream with status := status.releaseStaging staged }, .done)

def pollShutdown (handle : HomeStream)
    (stream : DriverStream) : Connection × ConnectionReply :=
  if stream.status.state ≠ .live then (conn, .done)
  else if handle.writeShutdown then (conn, .shutDown sid)
  else if conn.receiving then
    ((conn.send (.close sid)).assignHandle sid { handle with writeShutdown := true }, .shutDown sid)
  else (conn, .done)

def resetStream (handle : HomeStream)
    (stream : DriverStream) (reason : ResetReason) : Connection :=
  if stream.status.state ≠ .live then conn
  else if conn.receiving then
    (conn.send (.reset sid reason)).assignHandle sid { handle with writeShutdown := true }
  else conn

def dropStream (handle : HomeStream) : Connection :=
  let dropped := { conn with handles := conn.handles.erase sid }
  if handle.writeShutdown = false ∧ conn.receiving = true then dropped.send (.cancel sid)
  else dropped

end Connection

inductive ConnectionCall where
  | read (bytes : Bytes)
  | readEof
  | readFailed
  | command
  | advance
  | writeFailed
  | tell (streamId : UInt32)
  | pollRead (streamId : UInt32) (capacity : Nat)
  | pollWrite (streamId : UInt32) (bytes : Bytes) (waker : Nat)
  | pollShutdown (streamId : UInt32)
  | reset (streamId : UInt32) (reason : ResetReason)
  | drop (streamId : UInt32)
  | closeConnection
  | dropConnection
  deriving DecidableEq, Repr

def readBufferLen : Nat := 8192

namespace Connection

def onHandle (conn : Connection) (sid : UInt32)
    (operation : HomeStream → DriverStream → Connection × ConnectionReply) :
    Option (Connection × ConnectionReply) :=
  match conn.handles.lookup sid, conn.streams.lookup sid with
  | some handle, some stream => some (operation handle stream)
  | _, _ => none

/-- `none` if the step cannot happen now. -/
def step (conn : Connection) : ConnectionCall → Option (Connection × ConnectionReply)
  | .read bytes =>
      if conn.phase = .parked ∧ bytes ≠ [] ∧ bytes.length ≤ readBufferLen then
        match conn.readBytes bytes with
        | (conn, some output) => some (conn, .fed output)
        | (conn, none) => some (conn, .done)
      else none
  | .readEof => if conn.phase = .parked then some (conn.readEof, .done) else none
  | .readFailed => if conn.phase = .parked then some (conn.stop .peerReadFailed, .done) else none
  | .command =>
      match conn.commands with
      | command :: commands =>
          if conn.phase = .parked then
            some ({ conn with commands := commands }.handleCommand command, .done)
          else none
      | [] => none
  | .advance =>
      match conn.advance with
      | some (conn, some sid) => some (conn, if sid ∈ conn.handles then .handedOut sid else .done)
      | some (conn, none) => some (conn, .done)
      | none => none
  | .writeFailed =>
      match conn.phase with
      | .delivering unflushed frames _ _ =>
          if unflushed ∨ frames ≠ [] then some (conn.stop .writeFailed, .done) else none
      | _ => none
  | .tell sid =>
      match conn.phase with
      | .leaving left => if sid ∈ left then some (conn.tell sid left, .done) else none
      | _ => none
  | .pollRead sid capacity =>
      if capacity = 0 then none
      else conn.onHandle sid fun handle stream =>
        conn.pollRead sid handle stream capacity
  | .pollWrite sid bytes waker => conn.onHandle sid fun handle stream => conn.pollWrite sid handle stream bytes waker
  | .pollShutdown sid => conn.onHandle sid fun handle stream => conn.pollShutdown sid handle stream
  | .reset sid reason =>
      conn.onHandle sid fun handle stream =>
        (conn.resetStream sid handle stream reason, .done)
  | .drop sid => conn.onHandle sid fun handle _ => (conn.dropStream sid handle, .done)
  | .closeConnection => if conn.receiving then some (conn.send .closeConnection, .done) else none
  | .dropConnection => some ({ conn with ownerGone := true }, .done)

end Connection

/-- A carrier's driver with its handles, from the handshake on. -/
def connectionMachine : Machine Connection ConnectionCall ConnectionReply where
  step := Connection.step

end SplRust.Home
