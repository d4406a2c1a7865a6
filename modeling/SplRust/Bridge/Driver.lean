import SplRust.Core.Window
import SplRust.Lib.Machine
import SplRust.Lib.Table

/-! The coordinator of a dialer connection, `Driver` of `spl-bridge/src/frame_dialer.rs`.
Channels are unbounded, so a send fails only if the receiving end is gone; what was sent on
each of them is kept in order in the state. -/

namespace SplRust.Bridge
open SplRust.Lib SplRust.Core

inductive StreamEnd where
  | closed
  | reset (reason : UInt8)
  | connectionGone
  deriving DecidableEq, Repr

inductive DialerError where
  | connectionClosed
  | retired
  | streamClosed
  | streamIdExhausted
  | sendCreditExceeded
  | receiveConsumptionExceeded
  | frame (err : FrameError)
  deriving DecidableEq, Repr

inductive InboundEvent where
  | data (bytes : Bytes)
  | ending (how : StreamEnd)
  deriving DecidableEq, Repr

/-- A write that waits for credit; `reply` names the channel its result goes to. -/
structure PendingWriteCommand where
  bytes : Bytes
  reply : Nat
  deriving DecidableEq, Repr

structure StreamSendState where
  sendCredit : Nat := initialWindow
  /-- The last value of the watch channel that wakes a waiting writer. -/
  credit : Bool := true
  deriving DecidableEq, Repr

namespace StreamSendState

def debit (send : StreamSendState) (bytes : Nat) : Except DialerError StreamSendState :=
  if bytes > send.sendCredit then .error .sendCreditExceeded
  else .ok ⟨send.sendCredit - bytes, send.sendCredit - bytes != 0⟩

def grant (send : StreamSendState) (credit : UInt32) : Except DialerError StreamSendState :=
  match (checkedAdd send.sendCredit credit.toNat).filter (· ≤ maxSendCredit) with
  | none => .error .sendCreditExceeded
  | some next => .ok ⟨next, true⟩

end StreamSendState

structure StreamState where
  send : StreamSendState := {}
  receive : RecvWindow := .new
  receivedUnconsumed : Nat := 0
  /-- Whether the reader's end of the inbound channel is still there. -/
  reading : Bool := true
  pendingWrites : List PendingWriteCommand := []
  peerClosed : Bool := false
  localClosed : Bool := false
  deriving DecidableEq, Repr

namespace StreamState

/-- A failure is always followed by the removal of the stream. -/
def debitReceived (stream : StreamState) (bytes : Nat) : Except MuxError StreamState :=
  match stream.receive.debit bytes with
  | .error err => .error err
  | .ok window =>
      match checkedAdd stream.receivedUnconsumed bytes with
      | none => .error .flowControl
      | some received => .ok { stream with receive := window, receivedUnconsumed := received }

def consumeReceived (stream : StreamState) (bytes : Nat) :
    Except (Failure DialerError) (StreamState × Option UInt32) :=
  if bytes > stream.receivedUnconsumed then .error (.error .receiveConsumptionExceeded)
  else
    match stream.receive.consume bytes with
    | none => .error .panic
    | some (window, grant) => .ok ({ stream with
        receive := window, receivedUnconsumed := stream.receivedUnconsumed - bytes }, grant)

end StreamState

/-- The allocator of odd stream ids (`FrameDialer` of `spl-core/src/frame.rs`). -/
structure FrameDialer where
  next : UInt32 := 1
  deriving DecidableEq, Repr

def FrameDialer.allocate (ids : FrameDialer) : FrameDialer × UInt32 := (⟨ids.next + 2⟩, ids.next)

structure Driver where
  ids : FrameDialer := {}
  decoder : FrameDecoder := {}
  streams : Table UInt32 StreamState := ∅
  retired : Bool := false
  /-- Whether the writer's end of its channel is still there. -/
  writing : Bool := true
  written : List Bytes := []
  inbound : List (UInt32 × InboundEvent) := []
  replies : List (Nat × Except DialerError Nat) := []

namespace Driver

variable (driver : Driver) (sid : UInt32)

def assign (driver : Driver) (sid : UInt32) (entry : Option StreamState) : Driver :=
  { driver with streams := Table.assign driver.streams sid entry }

def answer (reply : Nat) (result : Except DialerError Nat) : Driver :=
  { driver with replies := driver.replies ++ [(reply, result)] }

def queueFrame (frame : Frame) : Driver × Except DialerError Unit :=
  match frame.encode with
  | .error err => (driver, .error (.frame err))
  | .ok encoded =>
      if driver.writing then ({ driver with written := driver.written ++ [encoded] }, .ok ())
      else (driver, .error .connectionClosed)

/-- `queue_frame(..).is_ok()` -/
def queueOk (frame : Frame) : Driver × Bool :=
  let (driver, result) := driver.queueFrame frame
  (driver, result.isOk)

/-- Send to a stream's reader; false if it is gone. -/
def notify (stream : StreamState) (event : InboundEvent) : Driver × Bool :=
  if stream.reading then
    ({ driver with inbound := driver.inbound ++ [(sid, event)] }, true)
  else (driver, false)

def openStream : Driver × Except DialerError UInt32 :=
  if driver.retired then (driver, .error .retired)
  else
    let (ids, sid) := driver.ids.allocate
    let driver := { driver with ids := ids }
    if sid = 0 ∨ sid ∈ driver.streams then (driver, .error .streamIdExhausted)
    else
      match driver.queueFrame ⟨sid, flagOpen, []⟩ with
      | (driver, .error err) => (driver, .error err)
      | (driver, .ok ()) => (driver.assign sid (some {}), .ok sid)

def write (bytes : Bytes) (reply : Nat) : Driver × Bool :=
  match driver.streams.lookup sid with
  | none => (driver.answer reply (.error .streamClosed), true)
  | some stream =>
      if stream.localClosed then (driver.answer reply (.error .streamClosed), true)
      else
        match stream.send.debit bytes.length with
        | .error _ => (driver.assign sid (some { stream with
            pendingWrites := stream.pendingWrites ++ [⟨bytes, reply⟩] }), true)
        | .ok send =>
            let driver := driver.assign sid (some { stream with send := send })
            match driver.queueFrame ⟨sid, flagData, bytes⟩ with
            | (driver, .ok ()) => (driver.answer reply (.ok bytes.length), true)
            | (driver, .error _) => (driver.answer reply (.error .connectionClosed), false)

/-- The loop of `drain_pending_writes`, over the writes of `stream` that still wait. -/
def drainFrom (sid : UInt32) (stream : StreamState) : List PendingWriteCommand → Driver → Driver × Bool
  | [], driver => (driver, true)
  | pending :: waiting, driver =>
      match stream.send.debit pending.bytes.length with
      | .error _ => (driver, true)
      | .ok send =>
          let stream := { stream with send := send, pendingWrites := waiting }
          let driver := driver.assign sid (some stream)
          match driver.queueFrame ⟨sid, flagData, pending.bytes⟩ with
          | (driver, .ok ()) => drainFrom sid stream waiting (driver.answer pending.reply (.ok pending.bytes.length))
          | (driver, .error _) => (driver.answer pending.reply (.error .connectionClosed), false)

def drainPendingWrites : Driver × Bool :=
  match driver.streams.lookup sid with
  | none => (driver, true)
  | some stream => drainFrom sid stream stream.pendingWrites driver

def resetStream (reason : UInt8) : Driver × Bool :=
  match driver.streams.lookup sid with
  | none => (driver, true)
  | some stream =>
      let driver := driver.assign sid none
      let (driver, _) := driver.notify sid stream (.ending (.reset reason))
      driver.queueOk (.reset sid reason)

/-- `none` if the receive window panics. -/
def consume (bytes : Nat) : Option (Driver × Bool) :=
  match driver.streams.lookup sid with
  | none => some (driver, true)
  | some stream =>
      match stream.consumeReceived bytes with
      | .error .panic => none
      | .error (.error _) => some (driver.resetStream sid resetProtocolError)
      | .ok (stream, grant) =>
          let driver := driver.assign sid (some stream)
          match grant with
          | some grant => some (driver.queueOk (.window sid grant))
          | none => some (driver, true)

def close : Driver × Bool :=
  match driver.streams.lookup sid with
  | none => (driver, true)
  | some stream =>
      if stream.localClosed then (driver, true)
      else
        let driver := driver.assign sid (some { stream with localClosed := true })
        match driver.queueFrame ⟨sid, flagClose, []⟩ with
        | (driver, .error _) => (driver, false)
        | (driver, .ok ()) => if stream.peerClosed then (driver.assign sid none, true) else (driver, true)

/-- The WINDOW branch of `receive`. -/
def receiveWindow (frame : Frame) : Driver × Bool :=
  match frame.windowCredit with
  | none => driver.resetStream frame.streamId resetProtocolError
  | some credit =>
      match driver.streams.lookup frame.streamId with
      | none => driver.drainPendingWrites frame.streamId
      | some stream =>
          match stream.send.grant credit with
          | .ok send =>
              (driver.assign frame.streamId (some { stream with send := send })).drainPendingWrites frame.streamId
          | .error _ => driver.resetStream frame.streamId resetFlowControlError

def receiveReset (frame : Frame) : Driver × Bool :=
  match driver.streams.lookup frame.streamId with
  | none => (driver, true)
  | some stream =>
      let driver := driver.assign frame.streamId none
      let reason := frame.payload.head?.getD 0xff
      ((driver.notify frame.streamId stream (.ending (.reset reason))).1, true)

/-- The CLOSE test at the end of `receive`. -/
def receiveClose (frame : Frame) : Driver × Bool :=
  if frame.flags &&& flagClose ≠ 0 then
    match driver.streams.lookup frame.streamId with
    | none => driver.resetStream frame.streamId resetProtocolError
    | some stream =>
        let driver := driver.assign frame.streamId (some { stream with peerClosed := true })
        let (driver, _) := driver.notify frame.streamId stream (.ending .closed)
        if stream.localClosed then (driver.assign frame.streamId none, true) else (driver, true)
  else (driver, true)

def receiveData (frame : Frame) : Driver × Bool :=
  match driver.streams.lookup frame.streamId with
  | none => driver.resetStream frame.streamId resetProtocolError
  | some stream =>
      if stream.peerClosed then driver.resetStream frame.streamId resetFlowControlError
      else
        match stream.debitReceived frame.payload.length with
        | .error _ => driver.resetStream frame.streamId resetFlowControlError
        | .ok stream =>
            let driver := driver.assign frame.streamId (some stream)
            match driver.notify frame.streamId stream (.data frame.payload) with
            | (driver, false) => driver.resetStream frame.streamId resetCancel
            | (driver, true) => driver.receiveClose frame

/-- Handle one frame; false ends the connection. -/
def receive (frame : Frame) : Driver × Bool :=
  if frame.streamId = 0 then
    match frame.controlPong with
    | some pong => driver.queueOk pong
    | none => (driver, true)
  else if flagsValid frame.flags = false ∨ frame.flags &&& flagOpen ≠ 0 then
    driver.resetStream frame.streamId resetProtocolError
  else if frame.flags = flagWindow then driver.receiveWindow frame
  else if frame.flags &&& flagReset ≠ 0 then driver.receiveReset frame
  else if frame.flags &&& flagData ≠ 0 then driver.receiveData frame
  else driver.receiveClose frame

/-- The loop of `read_bytes`. Each turn takes a frame off the buffer, so its length is
enough fuel. -/
def readFrames : Nat → Driver → Driver × Bool
  | 0, driver => (driver, true)
  | fuel + 1, driver =>
      match driver.decoder.nextFrame with
      | (decoder, .error _) => ({ driver with decoder := decoder }, false)
      | (decoder, .ok none) => ({ driver with decoder := decoder }, true)
      | (decoder, .ok (some frame)) =>
          match { driver with decoder := decoder }.receive frame with
          | (driver, false) => (driver, false)
          | (driver, true) => readFrames fuel driver

def readBytes (bytes : Bytes) : Driver × Bool :=
  let decoder := driver.decoder.feed bytes
  readFrames (decoder.buf.length + 1) { driver with decoder := decoder }

end Driver

end SplRust.Bridge
