import SplRust.Transport.Verdict

/-! `MuxCarrier` of `spl-transport/src/journal_bridge_carrier.rs`: requests that share one
slot for the current carrier, carriers whose tasks may stop at any step, and shutdowns.
Every `await` and every section under the status lock is a step of its own; the slot is an
asynchronous mutex that a request holds from its first look at it to the end of its dial. -/

namespace SplRust.Transport
open SplRust.Lib SplRust.Core

def commandQueue : Nat := 64

/-- A request as it travels to a carrier. `request` stands for the receiver of its body
and for its budget, which are made with it and move with it. -/
structure OpenStreamInput where
  request : Nat
  method : Text
  target : Text
  headers : Headers
  declaredBodyLen : Nat
  deriving DecidableEq, Repr

/-- A one-shot channel, as its receiver sees it. -/
inductive Oneshot (α : Type) where
  | pending
  | sent (value : α)
  | closed
  deriving DecidableEq, Repr

/-- An open on its way to a coordinator; `returnInput` says whether it still holds the
sender that gives the input back. -/
structure PendingOpen where
  input : Option OpenStreamInput
  returnInput : Bool
  deriving DecidableEq, Repr

namespace PendingOpen

variable (pending : PendingOpen)

def new (input : OpenStreamInput) : PendingOpen := ⟨some input, true⟩

def claim : Option OpenStreamInput := pending.input

def reclaim : Option OpenStreamInput := pending.input

/-- What the return channel holds when the pending open has been dropped. -/
def drop : Oneshot OpenStreamInput :=
  match pending.input, pending.returnInput with
  | some input, true => .sent input
  | _, _ => .closed

end PendingOpen

/-- The response end of a stream, with the carrier whose coordinator made it. -/
structure StreamRx where
  carrier : Nat
  streamId : UInt32
  deriving DecidableEq, Repr

/-- The body end of a stream: the request's channel and budget, and the carrier that its
wake-ups go to. -/
structure BodyTx where
  request : Nat
  carrier : Nat
  streamId : UInt32
  deriving DecidableEq, Repr

structure OpenedStream where
  body : BodyTx
  response : StreamRx
  deriving DecidableEq, Repr

/-- The try of a request that an open belongs to: each try has its own two channels. -/
structure Try where
  request : Nat
  attempt : Nat
  deriving DecidableEq, Repr

structure OpenCommand where
  pending : PendingOpen
  reply : Try
  deriving DecidableEq, Repr

/-- How far a task's `CarrierLiveGuard` has been dropped. -/
inductive GuardPhase where
  | held
  | stored
  | dropped
  deriving DecidableEq, Repr

structure CarrierTask where
  running : Bool := true
  guard : GuardPhase := .held
  deriving DecidableEq, Repr

/-- A published carrier: its handle, its command channel and its two tasks. `answering` is
the open its coordinator has claimed and not answered yet. -/
structure CarrierHandle where
  alive : Bool := true
  commands : List OpenCommand := []
  receiving : Bool := true
  answering : Option Try := none
  nextStream : UInt32 := 1
  coordinator : CarrierTask := {}
  writer : CarrierTask := {}
  deriving DecidableEq, Repr

namespace CarrierHandle

/-- The coordinator reads the carrier; the other task writes it. -/
def task (handle : CarrierHandle) : CarrierSide → CarrierTask
  | .reader => handle.coordinator
  | .writer => handle.writer

def setGuard (handle : CarrierHandle) (side : CarrierSide) (guard : GuardPhase) :
    CarrierHandle :=
  match side with
  | .reader => { handle with coordinator := { handle.coordinator with guard := guard } }
  | .writer => { handle with writer := { handle.writer with guard := guard } }

def Dropped (hdl : CarrierHandle) : Prop := ∃ side, (hdl.task side).guard = .dropped

end CarrierHandle

/-- Where a call of `open_stream` stands. The phases that carry an input are the ones in
which the call owns it. -/
inductive OpenPhase where
  | wantSlot (input : OpenStreamInput)
  | checking (input : OpenStreamInput)
  | looking (input : OpenStreamInput)
  | marking (input : OpenStreamInput) (carrier : Nat)
  | rechecking (input : OpenStreamInput)
  | starting (input : OpenStreamInput)
  | dialing (input : OpenStreamInput) (number : UInt64)
  | failing (input : OpenStreamInput) (number : UInt64) (error : TransportError)
  | sending (input : OpenStreamInput) (carrier : Nat)
  | waiting (carrier : Nat)
  | returning (carrier : Nat)
  | wantClear (input : OpenStreamInput) (carrier : Nat)
  | clearing (input : OpenStreamInput) (carrier : Nat)
  | clearMarking (input : OpenStreamInput) (carrier : Nat)
  | done (result : Except TransportError OpenedStream)
  | cancelled
  deriving DecidableEq, Repr

/-- One call of `open_stream`, with the channels of its current try. -/
structure Request where
  attempt : Nat := 0
  phase : OpenPhase
  reply : Oneshot (Except TransportError StreamRx) := .pending
  returned : Oneshot OpenStreamInput := .pending
  deriving DecidableEq, Repr

/-- Where a call of `shutdown` stands. -/
inductive ShutdownPhase where
  | wantSlot
  | storing (carrier : Nat)
  | marking (carrier : Nat)
  | done
  deriving DecidableEq, Repr

structure MuxCarrier where
  status : StatusRecord := {}
  slot : Option Nat := none
  /-- The request that holds the slot's lock. -/
  holder : Option Nat := none
  carriers : List CarrierHandle := []
  requests : List Request := []
  shutdowns : List ShutdownPhase := []
  now : Nat := 0

inductive MuxCall where
  | openStream (method target : Text) (headers : Headers) (declaredBodyLen : Nat)
  | advance (request : Nat)
  | dialFailed (request : Nat) (error : TransportError)
  | dialed (request : Nat)
  | cancel (request : Nat)
  | claim (carrier : Nat)
  | answer (carrier : Nat) (result : Except TransportError Unit)
  | stopCoordinator (carrier : Nat)
  | dropCommands (carrier : Nat)
  | stopWriter (carrier : Nat)
  | storeDead (carrier : Nat) (side : CarrierSide)
  | markDead (carrier : Nat) (side : CarrierSide)
  | shutdown
  | advanceShutdown (shutdown : Nat)
  | record (number : UInt64) (outcome : Outcome)
  | latchAccessDenied
  | wait (elapsed : Nat)
  deriving DecidableEq, Repr

inductive MuxReply where
  | quiet
  | dials (request : Nat) (attempt : Nat)
  | claimed (carrier : Nat) (request : Nat)
  | returned (request : Nat) (result : Except TransportError OpenedStream)
  deriving DecidableEq, Repr

def stoppedAfterClaimError : TransportError := .io .brokenPipe "carrier coordinator stopped after claiming stream"

def stoppedError : TransportError := .io .brokenPipe "carrier coordinator stopped"

namespace MuxCarrier

variable (mux : MuxCarrier)

abbrev Result := Option (MuxCarrier × MuxReply)

def setRequest (request : Nat) (entry : Request) : MuxCarrier :=
  { mux with requests := mux.requests.set request entry }

def setCarrier (carrier : Nat) (handle : CarrierHandle) : MuxCarrier :=
  { mux with carriers := mux.carriers.set carrier handle }

def setPhase (request : Nat) (entry : Request) (phase : OpenPhase) :
    MuxCarrier :=
  mux.setRequest request { entry with phase := phase }

def release : MuxCarrier := { mux with holder := none }

/-- `open_stream` returns. -/
def finish (request : Nat) (entry : Request)
    (result : Except TransportError OpenedStream) : MuxCarrier × MuxReply :=
  (mux.setPhase request entry (.done result), .returned request result)

/-- After `clear_handle`: the second attempt, or the error of a second failure. -/
def retry (request : Nat) (entry : Request) (input : OpenStreamInput) : MuxCarrier × MuxReply :=
  if entry.attempt = 1 then mux.finish request entry (.error stoppedError)
  else (mux.setRequest request { entry with attempt := 1, phase := .wantSlot input }, .quiet)

/-- The next step of a call of `open_stream`; `none` while it waits. -/
def advance (request : Nat) (entry : Request) : Result :=
  match entry.phase with
  | .wantSlot input =>
      if mux.holder = none then
        some ({ mux with holder := some request }.setPhase request entry (.checking input), .quiet)
      else none
  | .checking input =>
      match mux.status.snapshot.terminalReason with
      | some reason => some (mux.release.finish request entry (.error reason.error))
      | none => some (mux.setPhase request entry (.looking input), .quiet)
  | .looking input =>
      match mux.slot with
      | none => some (mux.setPhase request entry (.rechecking input), .quiet)
      | some carrier =>
          if (mux.carriers[carrier]?.map CarrierHandle.alive) = some true then
            some (mux.release.setPhase request entry (.sending input carrier), .quiet)
          else some (mux.setPhase request entry (.marking input carrier), .quiet)
  | .marking input carrier =>
      some ({ mux with status := mux.status.markCarrierDead carrier }.setPhase request entry
        (.rechecking input), .quiet)
  | .rechecking input =>
      match mux.status.snapshot.terminalReason with
      | some reason => some (mux.release.finish request entry (.error reason.error))
      | none => some (mux.setPhase request entry (.starting input), .quiet)
  | .starting input =>
      let status := mux.status.beginCarrierAttempt
      some ({ mux with status := status }.setPhase request entry (.dialing input status.attempt),
        .dials request entry.attempt)
  | .dialing _ _ => none
  | .failing _ number error =>
      let status := mux.status.recordCarrierFailure number (.classify error) mux.now
      some ({ mux with status := status }.release.finish request entry (.error error))
  | .sending input carrier =>
      match mux.carriers[carrier]? with
      | none => none
      | some handle =>
          if handle.receiving then
            if handle.commands.length < commandQueue then
              some ((mux.setCarrier carrier { handle with commands := handle.commands ++
                [⟨.new input, ⟨request, entry.attempt⟩⟩] }).setRequest request
                { entry with phase := .waiting carrier, reply := .pending, returned := .pending },
                .quiet)
            else none
          else
            match (PendingOpen.new input).reclaim with
            | some input => some (mux.setPhase request entry (.wantClear input carrier), .quiet)
            | none => some (mux.finish request entry (.error stoppedAfterClaimError))
  | .waiting carrier =>
      match entry.reply with
      | .pending => none
      | .sent (.ok response) =>
          some (mux.finish request entry (.ok ⟨⟨request, carrier, response.streamId⟩, response⟩))
      | .sent (.error error) => some (mux.finish request entry (.error error))
      | .closed => some (mux.setPhase request entry (.returning carrier), .quiet)
  | .returning carrier =>
      match entry.returned with
      | .pending => none
      | .sent input => some (mux.setRequest request
          { entry with phase := .wantClear input carrier, returned := .closed }, .quiet)
      | .closed => some (mux.finish request entry (.error stoppedAfterClaimError))
  | .wantClear input carrier =>
      if mux.holder = none then
        some ({ mux with holder := some request }.setPhase request entry (.clearing input carrier), .quiet)
      else none
  | .clearing input carrier =>
      if mux.slot = some carrier then
        some ({ mux with slot := none }.setPhase request entry (.clearMarking input carrier), .quiet)
      else some (mux.release.retry request entry input)
  | .clearMarking input carrier =>
      some ({ mux with status := mux.status.markCarrierDead carrier }.release.retry request entry input)
  | .done _ => none
  | .cancelled => none

/-- The last section of `get_or_dial`, under the slot and the status lock: the two tasks are
spawned and the dialed carrier is published, unless the bridge has stopped. A task that dies
within the section can only store its flag, which no one reads before the slot is free. -/
def publish (request : Nat) (entry : Request) (input : OpenStreamInput) : MuxCarrier × MuxReply :=
  match mux.status.snapshot.terminalReason with
  | some reason => mux.release.finish request entry (.error reason.error)
  | none =>
      let carrier := mux.carriers.length
      ({ mux.release with
        carriers := mux.carriers ++ [({} : CarrierHandle)]
        slot := some carrier
        status := mux.status.publishCarrier carrier }.setPhase request entry
          (.sending input carrier), .quiet)

/-- Answer the try of a request. A try that is over has no receiver left. -/
def reply (mux : MuxCarrier) (owner : Try)
    (answer : Oneshot (Except TransportError StreamRx)) (returned : Oneshot OpenStreamInput) :
    MuxCarrier :=
  match mux.requests[owner.request]? with
  | some entry =>
      if entry.attempt = owner.attempt then
        mux.setRequest owner.request { entry with reply := answer, returned := returned }
      else mux
  | none => mux

/-- The coordinator takes the next open off its queue. -/
def claim (mux : MuxCarrier) (carrier : Nat) (handle : CarrierHandle) : Result :=
  if handle.coordinator.running ∧ handle.answering = none then
    match handle.commands with
    | [] => none
    | command :: rest =>
        match command.pending.claim with
        | none => some ((mux.setCarrier carrier { handle with commands := rest }).reply
            command.reply (.sent (.error stoppedAfterClaimError)) .closed, .quiet)
        | some input => some ((mux.setCarrier carrier { handle with
            commands := rest, answering := some command.reply }).reply command.reply .pending
              .closed, .claimed carrier input.request)
  else none

/-- The coordinator opens the claimed stream and answers, or fails while pumping it. -/
def answer (carrier : Nat) (handle : CarrierHandle)
    (result : Except TransportError Unit) : Result :=
  match handle.answering with
  | none => none
  | some owner =>
      let opened := mux.setCarrier carrier { handle with answering := none, nextStream := handle.nextStream + 2 }
      some (opened.reply owner (.sent (result.map fun _ => ⟨carrier, handle.nextStream⟩)) .closed, .quiet)

/-- The coordinator stops; a claimed open that it has not answered loses its reply. -/
def stopCoordinator (carrier : Nat) (handle : CarrierHandle) : Result :=
  if handle.coordinator.running then
    let stopped := mux.setCarrier carrier { handle with
      answering := none, coordinator := { handle.coordinator with running := false } }
    match handle.answering with
    | none => some (stopped, .quiet)
    | some owner => some (stopped.reply owner .closed .closed, .quiet)
  else none

/-- The queue is dropped with its receiver: every pending open gives its input back. -/
def dropCommands (carrier : Nat) (handle : CarrierHandle) : Result :=
  if handle.coordinator.running = false ∧ handle.receiving = true then
    some (handle.commands.foldl (fun mux command => mux.reply command.reply .closed command.pending.drop)
      (mux.setCarrier carrier { handle with commands := [], receiving := false }), .quiet)
  else none

/-- `CarrierLiveGuard::drop`, first statement. -/
def storeDead (carrier : Nat) (handle : CarrierHandle) (side : CarrierSide) :
    Result :=
  if (handle.task side).running = false ∧ (handle.task side).guard = .held then
    some (mux.setCarrier carrier { handle.setGuard side .stored with alive := false }, .quiet)
  else none

/-- `CarrierLiveGuard::drop`, second statement. -/
def markDead (carrier : Nat) (handle : CarrierHandle) (side : CarrierSide) :
    Result :=
  if (handle.task side).guard = .stored then
    some ({ mux with status := mux.status.markCarrierDead carrier }.setCarrier carrier
      (handle.setGuard side .dropped), .quiet)
  else none

/-- A call of `open_stream` is dropped at one of its awaits. -/
def cancel (request : Nat) (entry : Request) : Result :=
  match entry.phase with
  | .wantSlot _ | .sending _ _ | .waiting _ | .returning _ | .wantClear _ _ =>
      some (mux.setPhase request entry .cancelled, .quiet)
  | .dialing _ _ => some (mux.release.setPhase request entry .cancelled, .quiet)
  | _ => none

/-- The next step of a call of `shutdown`, up to the point where it stops the tasks. -/
def advanceShutdown (index : Nat) : ShutdownPhase → Result
  | .wantSlot =>
      if mux.holder = none then
        match mux.slot with
        | none => some ({ mux with shutdowns := mux.shutdowns.set index .done }, .quiet)
        | some carrier => some ({ mux with
            slot := none, shutdowns := mux.shutdowns.set index (.storing carrier) }, .quiet)
      else none
  | .storing carrier =>
      match mux.carriers[carrier]? with
      | none => none
      | some handle => some ({ mux with shutdowns := mux.shutdowns.set index (.marking carrier) }.setCarrier carrier
            { handle with alive := false }, .quiet)
  | .marking carrier => some ({ mux with
      status := mux.status.markCarrierDead carrier
      shutdowns := mux.shutdowns.set index .done }, .quiet)
  | .done => none

def step : MuxCall → Result
  | .openStream method target headers declaredBodyLen =>
      let input := ⟨mux.requests.length, method, target, headers, declaredBodyLen⟩
      some ({ mux with requests := mux.requests ++ [{ phase := .wantSlot input }] }, .quiet)
  | .advance request => do mux.advance request (← mux.requests[request]?)
  | .dialFailed request error => do
      let entry ← mux.requests[request]?
      match entry.phase with
      | .dialing input number => some (mux.setPhase request entry (.failing input number error), .quiet)
      | _ => none
  | .dialed request => do
      let entry ← mux.requests[request]?
      match entry.phase with
      | .dialing input _ => some (mux.publish request entry input)
      | _ => none
  | .cancel request => do mux.cancel request (← mux.requests[request]?)
  | .claim carrier => do mux.claim carrier (← mux.carriers[carrier]?)
  | .answer carrier result => do mux.answer carrier (← mux.carriers[carrier]?) result
  | .stopCoordinator carrier => do mux.stopCoordinator carrier (← mux.carriers[carrier]?)
  | .dropCommands carrier => do mux.dropCommands carrier (← mux.carriers[carrier]?)
  | .stopWriter carrier => do
      let handle ← mux.carriers[carrier]?
      some (mux.setCarrier carrier { handle with writer := { handle.writer with running := false } }, .quiet)
  | .storeDead carrier side => do mux.storeDead carrier (← mux.carriers[carrier]?) side
  | .markDead carrier side => do mux.markDead carrier (← mux.carriers[carrier]?) side
  | .shutdown => some ({ mux with shutdowns := mux.shutdowns ++ [.wantSlot] }, .quiet)
  | .advanceShutdown index => do mux.advanceShutdown index (← mux.shutdowns[index]?)
  | .record number outcome => some ({ mux with status := mux.status.recordOutcome number outcome mux.now }, .quiet)
  | .latchAccessDenied => some ({ mux with status := mux.status.latchTlsAccessDenied }, .quiet)
  | .wait elapsed => some ({ mux with now := mux.now + elapsed }, .quiet)

end MuxCarrier

def muxMachine : Machine MuxCarrier MuxCall MuxReply where
  step := MuxCarrier.step

end SplRust.Transport
