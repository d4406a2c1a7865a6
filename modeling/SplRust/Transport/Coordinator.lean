import SplRust.Core.Demux
import SplRust.Core.Request
import SplRust.Transport.Status

/-! The coordinator of a carrier (`coordinator_task` of
`spl-transport/src/journal_bridge_carrier.rs`). What it shares with the requests, the queues and the
body budget of each stream, can change between any two accesses, so every function here makes at most
one access to each, and the loops of the source are the turns of a small-step machine. -/

namespace SplRust.Transport
open SplRust.Lib SplRust.Core

def readBufBytes : Nat := 64 * 1024
def streamQueue : Nat := 16
def writerQueue : Nat := 256
def controlReserve : Nat := 32
def bodyQueue : Nat := 4

/-- `FrameDialer` of `spl-core/src/frame.rs`. -/
structure FrameDialer where
  next : UInt32 := 1
  deriving DecidableEq, Repr

def FrameDialer.allocate (dialer : FrameDialer) : FrameDialer × UInt32 := (⟨dialer.next + 2⟩, dialer.next)

/-- Permits of the body budget of one stream. The ticket names the stream: it is the number
of the open, so it tells streams apart even when their ids come round. -/
structure BodyLease where
  ticket : Nat
  permits : Nat
  deriving DecidableEq, Repr

structure BodyChunk where
  bytes : Bytes
  lease : BodyLease
  deriving DecidableEq, Repr

inductive DeliveryEvent where
  | stream (event : StreamEvent)
  | earlyFinal (head : HttpHead)
  | certificateUnknown
  deriving DecidableEq, Repr

def DeliveryEvent.ends : DeliveryEvent → Bool
  | .stream ⟨.ended _, _⟩ => true
  | _ => false

structure WriterPacket where
  bytes : Bytes
  bodyLeases : List BodyLease := []
  deriving DecidableEq, Repr

/-- `CoordinatorWriter`, with the channel it sends on. -/
structure CoordinatorWriter where
  inflight : Nat := 0
  queue : List WriterPacket := []
  receiving : Bool := true

namespace CoordinatorWriter

variable (writer : CoordinatorWriter)

def hasRoom : Bool := writer.inflight < writerQueue

def hasUploadRoom : Bool := writer.inflight < writerQueue - controlReserve

def drained : CoordinatorWriter := { writer with inflight := writer.inflight - 1 }

end CoordinatorWriter

def writerError (reason : String) : TransportError := .io .brokenPipe reason

structure StreamState where
  ticket : Nat
  upload : WindowedUpload
  declaredBodyLen : Nat
  receivedBodyLen : Nat := 0
  stagedLeases : List BodyLease := []
  pendingDelivery : List DeliveryEvent := []
  readyQueued : Bool := true

/-- A body reservation on its way: permits being acquired, held, or sent with their bytes. -/
inductive Reservation where
  | acquiring (wanted acquired : Nat)
  | held (permits : Nat)
  | sending (chunk : BodyChunk)
  deriving DecidableEq, Repr

/-- What a stream shares with the request that opened it. `attached` says that the
coordinator still has its `StreamState`; dropping that closes the body queue and the budget. -/
structure StreamChannels where
  streamId : UInt32
  declaredBodyLen : Nat
  attached : Bool := true
  delivery : List DeliveryEvent := []
  /-- The `StreamRx` exists. -/
  receiving : Bool := true
  /-- An event that `recv` has taken off the queue and not yet returned. -/
  holding : Option StreamEvent := none
  body : List BodyChunk := []
  /-- The `BodyTx` exists. -/
  sending : Bool := true
  sentBodyLen : Nat := 0
  reservations : List Reservation := []
  permits : Nat := uploadBodyStageCapacity

structure OutstandingProbe where
  nonce : Bytes
  deadline : Nat
  deriving DecidableEq, Repr

structure KeepaliveConfig where
  deadline : Nat
  maxMissed : Nat

/-- Where the coordinator is in its loop. -/
inductive CoordinatorPhase where
  /-- At `select!`. -/
  | select
  /-- In `handle_read`, with what is left of the output to handle. -/
  | reading (out : DemuxOutput)
  /-- In `receive_body` of the first of these streams. -/
  | receiving (streamIds : List UInt32)
  /-- In `pump_ready` after an open, before the reply. -/
  | opening (ticket : Nat) (streamId : UInt32)
  /-- About to enter `flush_pending_deliveries`. -/
  | collecting
  | flushing (streamIds : List UInt32)
  /-- In `pump_ready`. -/
  | pumping
  /-- In `read_verdict_before_teardown`. -/
  | failing (error : TransportError)
  /-- About to enter `fanout_eof` or `fanout_certificate_unknown`. -/
  | stopping (last : DeliveryEvent)
  | draining (streamIds : List UInt32) (last : DeliveryEvent)
  | stopped

structure Coordinator where
  demux : CarrierDemux := {}
  dialer : FrameDialer := {}
  streams : Table UInt32 StreamState := ∅
  ready : List UInt32 := []
  writer : CoordinatorWriter := {}
  outstanding : Option OutstandingProbe := none
  missed : Nat := 0
  nextNonce : UInt64 := 1
  phase : CoordinatorPhase := .select
  channels : List StreamChannels := []
  /-- The packet that the writer task is writing. -/
  writing : Option WriterPacket := none
  /-- `WriterEvent::Drained` events not yet handled. -/
  drainedEvents : Nat := 0
  /-- The `WriterEvent::Stopped` event, once it is sent. -/
  writerStop : Option (Option TransportError) := none

def nonceBytes (nonce : UInt64) : Bytes :=
  [56, 48, 40, 32, 24, 16, 8, 0].map fun shift : UInt64 => (nonce >>> shift).toUInt8

/-- How `try_send` on the queue of deliveries comes out. -/
inductive SendResult where
  | sent
  | full
  | closed
  deriving DecidableEq, Repr

end SplRust.Transport

/-- The text of the error. -/
def SplRust.Core.UploadBodyError.reason : SplRust.Core.UploadBodyError → String
  | .declaredLengthExceeded => "request body exceeds its declared length"
  | .stageCapacityExceeded => "request body exceeds the available upload stage capacity"

namespace SplRust.Transport
open SplRust.Lib SplRust.Core

/-- `take_body_leases`: the leases taken and those left, or nothing for an underflow. -/
def takeBodyLeases : List BodyLease → Nat → Option (List BodyLease × List BodyLease)
  | staged, 0 => some ([], staged)
  | [], _ + 1 => none
  | lease :: staged, bytes + 1 =>
      if lease.permits ≤ bytes + 1 then
        (takeBodyLeases staged (bytes + 1 - lease.permits)).map fun split =>
          (lease :: split.1, split.2)
      else some ([⟨lease.ticket, bytes + 1⟩], ⟨lease.ticket, lease.permits - (bytes + 1)⟩ :: staged)

def budgetUnderflow : TransportError := .io .invalidData "request body budget accounting underflow"

/-- `enqueue_pending_delivery` on the queue itself: bodies are merged. -/
def enqueuePendingDelivery : List DeliveryEvent → DeliveryEvent → List DeliveryEvent
  | [], event => [event]
  | [.stream ⟨.body buffered, bufferedCost⟩], .stream ⟨.body bytes, wireCost⟩ =>
      [.stream ⟨.body (buffered ++ bytes), bufferedCost + wireCost⟩]
  | first :: rest, event =>
      match rest with
      | [] => [first, event]
      | _ :: _ => first :: enqueuePendingDelivery rest event

namespace Coordinator

variable (coord : Coordinator) (sid : UInt32)

abbrev Outcome := Coordinator × Except TransportError Unit

def setStream (state : StreamState) :
    Coordinator :=
  { coord with streams := coord.streams.insert sid state }

def setPhase (phase : CoordinatorPhase) : Coordinator := { coord with phase := phase }

def updateChannels (ticket : Nat)
    (update : StreamChannels → StreamChannels) : Coordinator :=
  { coord with channels := coord.channels.modify ticket update }

/-- A dropped lease returns its permits. -/
def dropLease (lease : BodyLease) : Coordinator :=
  coord.updateChannels lease.ticket fun channels =>
    { channels with permits := channels.permits + lease.permits }

def dropLeases (leases : List BodyLease) : Coordinator := leases.foldl dropLease coord

/-- `StreamState::drop` and the drop of its fields: the body queue and the budget are
closed, queued chunks and staged leases return their permits. -/
def dropState (state : StreamState) : Coordinator :=
  let queued := (coord.channels[state.ticket]?.elim [] StreamChannels.body).map
    BodyChunk.lease
  let detached := coord.updateChannels state.ticket fun channels =>
    { channels with attached := false, body := [] }
  detached.dropLeases (queued ++ state.stagedLeases)

def removeState (state : StreamState) :
    Coordinator :=
  { coord with streams := coord.streams.erase sid }.dropState state

/-- `send_writer`. -/
def sendWriter (frame : Bytes) (bodyLeases : List BodyLease) :
    Outcome :=
  let writer := coord.writer
  if writer.hasRoom = false then
    (coord.dropLeases bodyLeases, .error (writerError "carrier writer queue full"))
  else if writer.receiving = false then
    (coord.dropLeases bodyLeases, .error (writerError "carrier writer stopped"))
  else if writer.queue.length ≥ writerQueue then
    (coord.dropLeases bodyLeases, .error (writerError "carrier writer queue full"))
  else
    ({ coord with writer := { writer with
      queue := writer.queue ++ [⟨frame, bodyLeases⟩], inflight := writer.inflight + 1 } }, .ok ())

def sendFrame (frame : Frame) : Outcome :=
  match frame.encode with
  | .error err => (coord, .error (.mux (.frame err)))
  | .ok bytes => coord.sendWriter bytes []

def resetActiveStream : Outcome :=
  match coord.streams.lookup sid with
  | none => (coord, .ok ())
  | some state =>
      { coord.removeState sid state with
        demux := coord.demux.removeStream sid }.sendFrame (.reset sid resetCancel)

/-- `try_send` on the queue of deliveries. -/
def trySend (ticket : Nat) (event : DeliveryEvent) : Coordinator × SendResult :=
  match coord.channels[ticket]? with
  | none => (coord, .closed)
  | some channels =>
      if channels.receiving = false then (coord, .closed)
      else if channels.delivery.length ≥ streamQueue then (coord, .full)
      else (coord.updateChannels ticket fun channels =>
        { channels with delivery := channels.delivery ++ [event] }, .sent)

/-- Queue an event behind the ones that did not fit. -/
def pend (state : StreamState)
    (event : DeliveryEvent) : Coordinator :=
  coord.setStream sid { state with pendingDelivery := enqueuePendingDelivery state.pendingDelivery event }

/-- The head of a response that comes before the upload is done. -/
def earlyHead (state : StreamState) (event : StreamEvent) : Option HttpHead :=
  match event.item with
  | .head head => if state.upload.isDone then none else some head
  | _ => none

def deliverStreamItem (event : StreamEvent) :
    Outcome :=
  match coord.streams.lookup sid with
  | none => (coord, .ok ())
  | some state =>
      match earlyHead state event with
      | some head => (coord.trySend state.ticket (.earlyFinal head)).1.resetActiveStream sid
      | none =>
          if state.pendingDelivery ≠ [] then
            (coord.pend sid state (.stream event), .ok ())
          else
            let sent := coord.trySend state.ticket (.stream event)
            match sent.2 with
            | .sent =>
                if (DeliveryEvent.stream event).ends then
                  (sent.1.removeState sid state, .ok ())
                else (sent.1, .ok ())
            | .full => (sent.1.pend sid state (.stream event), .ok ())
            | .closed => sent.1.resetActiveStream sid

def enqueueReady : Coordinator :=
  match coord.streams.lookup sid with
  | none => coord
  | some state =>
      if state.readyQueued then coord
      else { coord.setStream sid { state with readyQueued := true } with
        ready := coord.ready ++ [sid] }

/-- One window grant of `handle_read`. -/
def grantWindow (credit : UInt32) : Outcome :=
  match coord.streams.lookup sid with
  | none => (coord, .ok ())
  | some state =>
      match state.upload.grant credit with
      | .ok upload => ((coord.setStream sid { state with upload := upload }).enqueueReady sid, .ok ())
      | .error _ =>
          let reset := coord.sendFrame (.reset sid resetFlowControlError)
          match reset.2 with
          | .error error => (reset.1, .error error)
          | .ok _ =>
              { reset.1 with demux := reset.1.demux.removeStream sid }.deliverStreamItem
                sid (.ending (.reset .flowControlError))

/-- An inbound PONG of `handle_read`. -/
def receivePong (nonce : Bytes) : Coordinator :=
  if coord.outstanding.any fun probe => probe.nonce = nonce then
    { coord with outstanding := none, missed := 0 }
  else coord

/-- One turn of the loops of `handle_read`; `none` at their end. -/
def readTurn (out : DemuxOutput) : Option (DemuxOutput × Outcome) :=
  match out.pongs, out.emitFrames, out.inboundPongs, out.windowGrants, out.streamEvents with
  | pong :: pongs, _, _, _, _ => some ({ out with pongs := pongs }, coord.sendWriter pong [])
  | [], frame :: frames, _, _, _ => some ({ out with emitFrames := frames }, coord.sendWriter frame [])
  | [], [], nonce :: nonces, _, _ => some ({ out with inboundPongs := nonces }, (coord.receivePong nonce, .ok ()))
  | [], [], [], grant :: grants, _ => some ({ out with windowGrants := grants }, coord.grantWindow grant.1 grant.2)
  | [], [], [], [], event :: events =>
      some ({ out with streamEvents := events }, coord.deliverStreamItem event.1 event.2)
  | [], [], [], [], [] => none

def consumeStream (bytes : Nat) :
    Coordinator × Except (Failure TransportError) Unit :=
  let consumed := coord.demux.consume sid bytes
  let coord := { coord with demux := consumed.1 }
  match consumed.2 with
  | .error .panic => (coord, .error .panic)
  | .error (.error err) => (coord, .error (.error (.mux err)))
  | .ok none => (coord, .ok ())
  | .ok (some frame) =>
      let sent := coord.sendWriter frame []
      (sent.1, match sent.2 with
        | .error error => .error (.error error)
        | .ok _ => .ok ())

/-- `open_stream_on_carrier`. A state that the table still has under the id is dropped. -/
def openStreamOnCarrier (method target : Text) (headers : Headers)
    (declaredBodyLen : Nat) : Coordinator :=
  let dialed := coord.dialer.allocate
  let sid := dialed.2
  let ticket := coord.channels.length
  let cleared := match coord.streams.lookup sid with
    | none => coord
    | some state => coord.dropState state
  let state : StreamState :=
    { ticket := ticket
      upload := .new sid (buildRequestHead method target headers declaredBodyLen)
        declaredBodyLen
      declaredBodyLen := declaredBodyLen }
  { cleared.setStream sid state with
    dialer := dialed.1
    demux := coord.demux.openStream sid
    ready := coord.ready ++ [sid]
    channels := cleared.channels ++ [{ streamId := sid, declaredBodyLen := declaredBodyLen }] }

/-- The end of `receive_body`. -/
def finishReceive (shortBody : Bool) : Outcome :=
  if shortBody then coord.resetActiveStream sid
  else (coord.enqueueReady sid, .ok ())

/-- One turn of the loop of `receive_body`; the flag says whether it is the last one. -/
def receiveTurn : Bool × Outcome :=
  match coord.streams.lookup sid with
  | none => (true, coord, .ok ())
  | some state =>
      match coord.channels[state.ticket]? with
      | none => (true, coord.finishReceive sid (state.receivedBodyLen < state.declaredBodyLen))
      | some channels =>
          match channels.body with
          | [] => (true, coord.finishReceive sid
              (!channels.sending && decide (state.receivedBodyLen < state.declaredBodyLen)))
          | chunk :: rest =>
              let taken := coord.updateChannels state.ticket fun channels =>
                { channels with body := rest }
              match state.upload.feedBody chunk.bytes with
              | .error err => (true, taken.dropLease chunk.lease, .error (.io .invalidInput err.reason))
              | .ok upload => (false, taken.setStream sid { state with
                  upload := upload
                  receivedBodyLen := state.receivedBodyLen + chunk.bytes.length
                  stagedLeases := state.stagedLeases ++ [chunk.lease] }, .ok ())

/-- `pump_upload_once`; the flag says whether a frame was sent. -/
def pumpUploadOnce (state : StreamState) :
    Coordinator × Except TransportError Bool :=
  let polled := state.upload.pollSend
  let kept := coord.setStream sid { state with upload := polled.1 }
  match polled.2 with
  | .error err => (kept, .error (.mux (.frame err)))
  | .ok none => (kept, .ok false)
  | .ok (some frame) =>
      let bodyBytes := polled.1.emittedBodyLen - state.upload.emittedBodyLen
      match takeBodyLeases state.stagedLeases bodyBytes with
      | none =>
          ((kept.setStream sid { state with
            upload := polled.1, stagedLeases := [] }).dropLeases state.stagedLeases,
            .error budgetUnderflow)
      | some leases =>
          let sent := (coord.setStream sid { state with
            upload := polled.1, stagedLeases := leases.2 }).sendWriter frame leases.1
          (sent.1, sent.2.map fun _ => true)

/-- One turn of the loop of `pump_ready`; `none` at its end. -/
def pumpTurn : Option Outcome :=
  if coord.writer.hasUploadRoom then
    match coord.ready with
    | [] => none
    | sid :: ready =>
        let popped := { coord with ready := ready }
        match coord.streams.lookup sid with
        | none => some (popped, .ok ())
        | some state =>
            let pumped := popped.pumpUploadOnce sid { state with readyQueued := false }
            match pumped.2 with
            | .error error => some (pumped.1, .error error)
            | .ok emitted =>
                let upload := state.upload.pollSend.1
                if emitted && !upload.isDone && !upload.isBlocked then
                  some (pumped.1.enqueueReady sid, .ok ())
                else some (pumped.1, .ok ())
  else none

/-- One turn of the inner loop of `flush_pending_deliveries`; the flag says whether it is the
last one of the stream. -/
def flushTurn : Bool × Outcome :=
  match coord.streams.lookup sid with
  | none => (true, coord, .ok ())
  | some state =>
      match state.pendingDelivery with
      | [] => (true, coord, .ok ())
      | event :: pending =>
          let sent := coord.trySend state.ticket event
          match sent.2 with
          | .sent =>
              if event.ends then
                (true, sent.1.removeState sid { state with pendingDelivery := pending }, .ok ())
              else (false, sent.1.setStream sid { state with pendingDelivery := pending }, .ok ())
          | .full => (true, sent.1, .ok ())
          | .closed => (true, sent.1.resetActiveStream sid)

/-- One stream of `fanout_eof` or `fanout_certificate_unknown`. -/
def fanout (last : DeliveryEvent) : Coordinator :=
  match coord.streams.lookup sid with
  | none => coord
  | some state => (coord.trySend state.ticket last).1.removeState sid state

def keepaliveFailed : TransportError := writerError "carrier keepalive failed"

/-- The PING of `handle_keepalive`. -/
def sendProbe (keepalive : KeepaliveConfig) (now : Nat) : Outcome :=
  let nonce := nonceBytes coord.nextNonce
  let advanced := { coord with
    nextNonce := if coord.nextNonce.toNat = 2 ^ 64 - 1 then coord.nextNonce
      else coord.nextNonce + 1 }
  let sent := advanced.sendFrame (.controlPing nonce)
  match sent.2 with
  | .error _ => (sent.1, .error keepaliveFailed)
  | .ok _ => ({ sent.1 with outstanding := some ⟨nonce, now + keepalive.deadline⟩ }, .ok ())

def handleKeepalive (keepalive : KeepaliveConfig) (now : Nat) :
    Outcome :=
  match coord.outstanding with
  | none => coord.sendProbe keepalive now
  | some outstanding =>
      if now < outstanding.deadline then (coord, .ok ())
      else
        let missed := saturatingAdd32 coord.missed 1
        let late := { coord with missed := missed }
        if keepalive.maxMissed ≤ missed then (late, .error keepaliveFailed)
        else late.sendProbe keepalive now

end Coordinator

end SplRust.Transport
