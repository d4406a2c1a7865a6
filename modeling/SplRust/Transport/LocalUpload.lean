import SplRust.Core.Frame
import SplRust.Lib.Machine

/-! `LocalBodyUpload` of `spl-transport/src/journal_bridge.rs`: how the bridge reads the body of a
local request and hands it to the body pipe of the carrier, one `advance` after the other. The
steps are the places where `advance` waits. -/

namespace SplRust.Transport
open SplRust.Lib SplRust.Core

/-- Where `advance` waits. -/
inductive AdvancePhase where
  /-- Between two turns of the loop of `forward_upstream`. -/
  | idle
  /-- For a reservation for the bytes that came with the head. -/
  | reservePrefix (count : Nat)
  | sendPrefix (bytes : Bytes)
  /-- In `reserve_or_closed`: for a reservation or the readiness of the socket. -/
  | race (count : Nat)
  /-- For the reservation alone, after the socket was ready. -/
  | reserve (count : Nat)
  | read (capacity : Nat)
  | send (bytes : Bytes)
  /-- `Short` was returned; the client is answered with 400. -/
  | short
  /-- The loop of `forward_upstream` has ended otherwise. -/
  | over
  deriving DecidableEq, Repr

/-- An upload and the client's side of its socket. -/
structure LocalUpload where
  /-- The sender of the body pipe is there. -/
  active : Bool
  bodyPrefix : Bytes
  prefixOffset : Nat := 0
  readBytes : Nat := 0
  declaredBodyLen : Nat
  phase : AdvancePhase := .idle
  /-- What has arrived from the client and was not read; then its FIN. -/
  unread : Bytes := []
  fin : Bool := false
  /-- Everything the client has sent behind its head. -/
  received : Bytes
  /-- Everything that was put into the body pipe. -/
  sent : Bytes := []
  deriving DecidableEq, Repr

inductive LocalUploadCall where
  | arrive (bytes : Bytes)
  | clientEnd
  /-- The loop polls a new `advance`. -/
  | advance
  /-- The budget grants the reservation that is waited for. -/
  | grant
  /-- The socket is ready, or read-closed. -/
  | ready
  | read (count : Nat)
  | readEnd
  /-- The pipe takes the bytes; the wake-up of the coordinator may fail. -/
  | accept (notified : Bool)
  | pipeFails
  | ioFails
  /-- An item of the response, or a shutdown, ends the loop. -/
  | interrupt
  deriving DecidableEq, Repr

namespace LocalUpload

variable (upload : LocalUpload)

def readBufBytes : Nat := 4096

/-- `LocalBodyUpload::new`, with what was read behind the head. -/
def new (overRead : Bytes) (declaredBodyLen : Nat) : LocalUpload where
  active := declaredBodyLen ≠ 0
  bodyPrefix := overRead.take declaredBodyLen
  declaredBodyLen := declaredBodyLen
  received := overRead

def stop : LocalUpload := { upload with active := false }

def remaining : Nat := upload.declaredBodyLen - upload.readBytes

/-- The start of `advance`, up to where it waits first. -/
def start : LocalUpload :=
  if upload.remaining = 0 then upload.stop
  else if upload.prefixOffset < upload.bodyPrefix.length then
    { upload with
      phase := .reservePrefix (min (upload.bodyPrefix.length - upload.prefixOffset) upload.remaining) }
  else { upload with phase := .race (min upload.remaining readBufBytes) }

/-- The end of an `advance` that has sent these bytes. -/
def advanced (count : Nat) : LocalUpload :=
  let upload := { upload with readBytes := upload.readBytes + count, phase := .idle }
  if upload.readBytes = upload.declaredBodyLen then upload.stop else upload

/-- `BodyAdvanceError::Pipe`: the loop goes on without the upload. -/
def pipeFailed : LocalUpload := { upload.stop with phase := .idle }

def shortened : LocalUpload := { upload.stop with phase := .short }

/-- `advance` is waiting. -/
def waits : Bool :=
  match upload.phase with
  | .idle | .short | .over => false
  | _ => true

def step : LocalUploadCall → Option LocalUpload
  | .arrive bytes =>
      if upload.fin then none
      else some { upload with unread := upload.unread ++ bytes, received := upload.received ++ bytes }
  | .clientEnd => some { upload with fin := true }
  | .advance => if upload.phase = .idle ∧ upload.active then some upload.start else none
  | .grant =>
      match upload.phase with
      | .reservePrefix count =>
          some { upload with phase := .sendPrefix ((upload.bodyPrefix.drop upload.prefixOffset).take count) }
      | .race count => some { upload with phase := .read count }
      | .reserve count => some { upload with phase := .read count }
      | _ => none
  | .ready =>
      match upload.phase with
      | .race count =>
          if upload.fin then some upload.shortened
          else if upload.unread ≠ [] then some { upload with phase := .reserve count }
          else none
      | _ => none
  | .read count =>
      match upload.phase with
      | .read capacity =>
          if 0 < count ∧ count ≤ capacity ∧ count ≤ upload.unread.length then
            some { upload with phase := .send (upload.unread.take count), unread := upload.unread.drop count }
          else none
      | _ => none
  | .readEnd =>
      match upload.phase with
      | .read _ => if upload.unread = [] ∧ upload.fin then some upload.shortened else none
      | _ => none
  | .accept notified =>
      match upload.phase with
      | .sendPrefix bytes =>
          let upload := { upload with sent := upload.sent ++ bytes }
          if notified then
            some ({ upload with prefixOffset := upload.prefixOffset + bytes.length }.advanced bytes.length)
          else some upload.pipeFailed
      | .send bytes =>
          let upload := { upload with sent := upload.sent ++ bytes }
          if notified then some (upload.advanced bytes.length) else some upload.pipeFailed
      | _ => none
  | .pipeFails =>
      match upload.phase with
      | .reservePrefix _ | .sendPrefix _ | .race _ | .reserve _ | .send _ => some upload.pipeFailed
      | _ => none
  | .ioFails =>
      match upload.phase with
      | .race _ | .read _ => some { upload.stop with phase := .over }
      | _ => none
  | .interrupt =>
      -- An item that comes while the upload is active ends the loop: a head is then an early one.
      if upload.active ∧ (upload.phase = .idle ∨ upload.waits) then
        some { upload.stop with phase := .over }
      else none

end LocalUpload

def localUploadMachine : Machine LocalUpload LocalUploadCall Unit where
  step upload call := (upload.step call).map fun next => (next, ())

end SplRust.Transport
