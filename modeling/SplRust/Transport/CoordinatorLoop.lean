import SplRust.Transport.Coordinator

/-! The coordinator's loop as a machine, with everything that runs beside it: the writer
task, and for each stream the two local ends that its request holds. Every step is one
access to what they share, so a run is an interleaving of all of them. -/

namespace SplRust.Transport
open SplRust.Lib SplRust.Core

/-- What a request does with the ends of its stream. -/
inductive LocalCall where
  /-- `StreamRx::recv` takes an event off the queue. -/
  | recv
  /-- `StreamRx::recv` has sent `Consume` and returns. -/
  | returnItem
  /-- The future of `recv` is dropped while it sends `Consume`. -/
  | abandonRecv
  | dropReceiver
  | reserve (bytes : Nat)
  | acquire (index : Nat) (permits : Nat)
  | release (index : Nat)
  | retain (index : Nat) (bytes : Bytes)
  | push (index : Nat)
  | dropSender
  deriving DecidableEq, Repr

/-- What `recv` returns. `consumed` is the wire cost sent with `Consume`. -/
inductive LocalReply where
  | quiet
  | item (item : StreamItem) (consumed : Option Nat)
  | ended
  deriving DecidableEq, Repr

namespace Reservation

def permits : Reservation → Nat
  | .acquiring _ acquired => acquired
  | .held permits => permits
  | .sending chunk => chunk.lease.permits

def acquire (permits : Nat) : Reservation → Option Reservation
  | .acquiring wanted acquired =>
      if acquired + permits < wanted then some (.acquiring wanted (acquired + permits))
      else if acquired + permits = wanted then some (.held wanted)
      else none
  | _ => none

/-- `BodyReservation::retain`. -/
def retain (ticket : Nat) (bytes : Bytes) : Reservation → Option Reservation
  | .held permits => if bytes.length ≤ permits then some (.sending ⟨bytes, ⟨ticket, bytes.length⟩⟩) else none
  | _ => none

end Reservation

namespace StreamChannels

def localStep (channels : StreamChannels) (ticket : Nat) : LocalCall → Option (StreamChannels × LocalReply)
  | .recv =>
      if channels.receiving ∧ channels.holding = none then
        match channels.delivery with
        | [] => if channels.attached then none else some (channels, .ended)
        | .earlyFinal head :: rest => some ({ channels with delivery := rest }, .item (.head head) none)
        | .certificateUnknown :: rest => some ({ channels with delivery := rest }, .ended)
        | .stream event :: rest => some ({ channels with delivery := rest, holding := some event }, .quiet)
      else none
  | .returnItem =>
      match channels.holding with
      | none => none
      | some event => some ({ channels with holding := none }, .item event.item (some event.wireCost))
  | .abandonRecv =>
      -- The bridge drops `recv` only for a step of an upload that is not yet complete.
      if channels.sending ∧ channels.sentBodyLen < channels.declaredBodyLen then
        some ({ channels with holding := none }, .quiet)
      else none
  | .dropReceiver => some ({ channels with receiving := false, holding := none }, .quiet)
  | .reserve bytes =>
      if channels.sending ∧ channels.attached ∧ 0 < bytes ∧ bytes < 2 ^ 32 then
        some ({ channels with reservations := channels.reservations ++ [.acquiring bytes 0] }, .quiet)
      else none
  | .acquire index permits => do
      let reservation ← channels.reservations[index]?
      let acquired ← reservation.acquire permits
      if channels.attached ∧ permits ≤ channels.permits then
        some ({ channels with
          permits := channels.permits - permits
          reservations := channels.reservations.set index acquired }, .quiet)
      else none
  | .release index => do
      let reservation ← channels.reservations[index]?
      some ({ channels with
        permits := channels.permits + reservation.permits
        reservations := channels.reservations.eraseIdx index }, .quiet)
  | .retain index bytes => do
      let reservation ← channels.reservations[index]?
      let retained ← reservation.retain ticket bytes
      if channels.sending then
        some ({ channels with
          permits := channels.permits + (reservation.permits - retained.permits)
          reservations := channels.reservations.set index retained }, .quiet)
      else none
  | .push index => do
      let reservation ← channels.reservations[index]?
      match reservation with
      | .sending chunk =>
          if channels.sending ∧ channels.attached ∧ channels.body.length < bodyQueue then
            some ({ channels with
              body := channels.body ++ [chunk]
              sentBodyLen := channels.sentBodyLen + chunk.bytes.length
              reservations := channels.reservations.eraseIdx index }, .quiet)
          else none
      | _ => none
  | .dropSender => some ({ channels with sending := false }, .quiet)

end StreamChannels

inductive CoordinatorCall where
  | read (data : Bytes)
  | readEnd
  | readFailed (alert : Option TransportError)
  | openStream (method target : Text) (headers : Headers) (declaredBodyLen : Nat)
  | consume (streamId : UInt32) (bytes : Nat)
  | bodyReady (streamIds : List UInt32)
  | cancel (streamId : UInt32)
  | drained
  | writerStopped
  | tick (now : Nat)
  | shutdown
  /-- The next turn of the loop that the coordinator is in. -/
  | turn
  /-- The table of streams is gone through, in the order the map happens to have. -/
  | collect (order : List UInt32)
  | verdict (alert : Option TransportError)
  | writerTake
  | writerWrote
  | writerFail (alert : Option TransportError)
  | writerClose
  | act (ticket : Nat) (call : LocalCall)
  deriving DecidableEq, Repr

/-- What can be seen of a step: ids allocated, packets handed to the writer, events the
demultiplexer produced and what `recv` returned, both by ticket. -/
structure CoordinatorReply where
  opened : List UInt32 := []
  handed : List WriterPacket := []
  produced : List (Nat × StreamEvent) := []
  returned : List (Nat × LocalReply) := []
  deriving DecidableEq, Repr

namespace Coordinator

variable (coord : Coordinator)

abbrev Result := Option (Coordinator × CoordinatorReply)

/-- Go on to a phase, or to teardown after an error. -/
def settle (outcome : Outcome) (phase : CoordinatorPhase) : Result :=
  let handed := outcome.1.writer.queue.drop coord.writer.queue.length
  match outcome.2 with
  | .ok _ => some (outcome.1.setPhase phase, { handed := handed })
  | .error error => some (outcome.1.setPhase (.failing error), { handed := handed })

def goTo (phase : CoordinatorPhase) : Result := some (coord.setPhase phase, {})

def produced (out : DemuxOutput) : List (Nat × StreamEvent) :=
  out.streamEvents.filterMap fun event =>
    (coord.streams.lookup event.1).map fun state => (state.ticket, event.2)

def read (data : Bytes) : Result :=
  if data ≠ [] ∧ data.length ≤ readBufBytes then
    let fed := coord.demux.feed data
    let after := { coord with demux := fed.1 }
    match fed.2 with
    | .error .panic => none
    | .error (.error err) => after.goTo (.failing (.mux err))
    | .ok out => some (after.setPhase (.reading out), { produced := coord.produced out })
  else none

def fanoutEof : DeliveryEvent := .stream (.ending .eof)

/-- An input of `select!`. -/
def input (keepalive : KeepaliveConfig) : CoordinatorCall → Result
  | .read data => coord.read data
  | .readEnd => coord.goTo (.stopping fanoutEof)
  | .readFailed alert => coord.goTo (.failing (alert.getD (writerError "carrier read failed")))
  | .openStream method target headers declaredBodyLen =>
      let sid := coord.dialer.next
      let opened := coord.openStreamOnCarrier method target headers declaredBodyLen
      some (opened.setPhase (.opening coord.channels.length sid), { opened := [sid] })
  | .consume sid bytes =>
      let consumed := coord.consumeStream sid bytes
      match consumed.2 with
      | .error .panic => none
      | .error (.error error) => coord.settle (consumed.1, .error error) .collecting
      | .ok _ => coord.settle (consumed.1, .ok ()) .collecting
  | .bodyReady streamIds => if streamIds ≠ [] then coord.goTo (.receiving streamIds) else none
  | .cancel sid => coord.settle (coord.resetActiveStream sid) .collecting
  | .drained =>
      if 0 < coord.drainedEvents then
        { coord with
          writer := coord.writer.drained
          drainedEvents := coord.drainedEvents - 1 }.goTo .collecting
      else none
  | .writerStopped =>
      match coord.writerStop with
      | none => none
      | some alert => coord.goTo (.failing (alert.getD (writerError "carrier writer stopped")))
  | .tick now => coord.settle (coord.handleKeepalive keepalive now) .collecting
  | .shutdown => coord.goTo (.stopping fanoutEof)
  | _ => none

def turn : Result :=
  match coord.phase with
  | .reading out =>
      match coord.readTurn out with
      | none => { coord with outstanding := none, missed := 0 }.goTo .collecting
      | some turned => coord.settle turned.2 (.reading turned.1)
  | .receiving [] => coord.goTo .collecting
  | .receiving (sid :: streamIds) =>
      let turned := coord.receiveTurn sid
      coord.settle turned.2 (.receiving (if turned.1 then streamIds else sid :: streamIds))
  | .opening ticket sid =>
      match coord.pumpTurn with
      | none =>
          -- The reply fails if the caller is gone.
          if (coord.channels[ticket]?.map StreamChannels.receiving) = some true then
            coord.goTo .collecting
          else coord.settle (coord.resetActiveStream sid) .collecting
      | some pumped =>
          match pumped.2 with
          | .ok _ => coord.settle pumped (.opening ticket sid)
          | .error _ =>
              -- The caller gets the error and drops the ends it would have had.
              coord.settle (pumped.1.updateChannels ticket fun channels =>
                { channels with receiving := false, holding := none, sending := false },
                .error (writerError "carrier upload pump failed")) .collecting
  | .flushing [] => coord.goTo .pumping
  | .flushing (sid :: streamIds) =>
      let turned := coord.flushTurn sid
      coord.settle turned.2 (.flushing (if turned.1 then streamIds else sid :: streamIds))
  | .pumping =>
      match coord.pumpTurn with
      | none => coord.goTo .select
      | some pumped => coord.settle pumped .pumping
  | .draining [] _ => coord.goTo .stopped
  | .draining (sid :: streamIds) last => (coord.fanout sid last).goTo (.draining streamIds last)
  | _ => none

/-- Whether a stream has deliveries that did not fit. -/
def waiting (sid : UInt32) : Bool :=
  (coord.streams.lookup sid).any fun state => !state.pendingDelivery.isEmpty

def collect (order : List UInt32) : Result :=
  match coord.phase with
  | .collecting =>
      if order.Nodup ∧ order.toFinset = coord.streams.keys.filter (fun id => coord.waiting id) then
        coord.goTo (.flushing order)
      else none
  | .stopping last =>
      if order.Nodup ∧ order.toFinset = coord.streams.keys then
        coord.goTo (.draining order last)
      else none
  | _ => none

def verdict (alert : Option TransportError) : Result :=
  match coord.phase with
  | .failing error =>
      coord.goTo (.stopping (if alert.getD error = .tlsCertificateUnknown then .certificateUnknown else fanoutEof))
  | _ => none

/-- A step of `writer_task`. -/
def writerStep : CoordinatorCall → Option Coordinator
  | .writerTake =>
      match coord.writer.queue, coord.writing, coord.writerStop with
      | packet :: queue, none, none => some { coord with
          writer := { coord.writer with queue := queue }, writing := some packet }
      | _, _, _ => none
  | .writerWrote =>
      match coord.writing with
      | none => none
      | some packet => some { coord.dropLeases packet.bodyLeases with
          writing := none, drainedEvents := coord.drainedEvents + 1 }
  | .writerFail alert =>
      match coord.writerStop with
      | some _ => none
      | none => some { coord.dropLeases
          (coord.writing.elim [] WriterPacket.bodyLeases) with
            writing := none, writerStop := some alert }
  | .writerClose =>
      match coord.writerStop with
      | none => none
      | some _ => some { coord.dropLeases
          (coord.writer.queue.flatMap WriterPacket.bodyLeases) with
            writer := { coord.writer with queue := [], receiving := false } }
  | _ => none

/-- A step of the request that holds the ends of a stream. -/
def act (ticket : Nat) (call : LocalCall) : Result := do
  let channels ← coord.channels[ticket]?
  let acted ← channels.localStep ticket call
  some ({ coord with channels := coord.channels.set ticket acted.1 }, { returned := [(ticket, acted.2)] })

def step (keepalive : KeepaliveConfig) (coord : Coordinator) (call : CoordinatorCall) :
    Result :=
  match call with
  | .turn => coord.turn
  | .collect order => coord.collect order
  | .verdict alert => coord.verdict alert
  | .writerTake | .writerWrote | .writerFail _ | .writerClose => (coord.writerStep call).map fun next => (next, {})
  | .act ticket call => coord.act ticket call
  | call =>
      match coord.phase with
      | .select => coord.input keepalive call
      | _ => none

end Coordinator

def coordinatorMachine (keepalive : KeepaliveConfig) : Machine Coordinator CoordinatorCall CoordinatorReply where
  step := Coordinator.step keepalive

end SplRust.Transport
