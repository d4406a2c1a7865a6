import SplRust.Transport.TokenRefresh

/-! The calls of one `TransportClient` at once: `request` (`spl-transport/src/request.rs`),
`open_carrier` and `dial_carrier` (`client.rs`). What the calls share is the token, the refreshes
and the `relay_ineligible` mark. The direct rounds of a call are one step here, and so is
everything between two places where the call waits for the relay, the token or a refresh. -/

namespace SplRust.Transport
open SplRust.Lib SplRust.Core

/-- `open_carrier` is the fenced carrier, `dial_carrier` the legacy one. -/
inductive ClientKind where
  | request (replay : ReplayPolicy)
  | carrier (policy : CarrierPolicy)
  deriving DecidableEq, Repr

inductive ClientError where
  | request (error : RequestError)
  | carrier (error : CarrierOpenError)
  deriving DecidableEq, Repr

/-- What a relay dial came to, with the exchange that a request runs on it. -/
inductive ClientDialed where
  | request (dialed : Except TransportError Exchange)
  | carrier (dialed : Except TransportError Unit)
  deriving DecidableEq, Repr

inductive DirectEnd where
  | returns (result : Except ClientError Unit)
  | failed (lanErr : TransportError)
  deriving DecidableEq, Repr

namespace ClientKind

def transportError : ClientKind → TransportError → ClientError
  | .request _, error => .request (.transport error)
  | .carrier _, error => .carrier (.transport error)

/-- The error of a call that finds the client marked. -/
def ineligibleError : ClientKind → TransportError → ClientError
  | .request _, _ => .request .publicationIndeterminate
  | .carrier .fenced, _ => .carrier .publicationIndeterminate
  | .carrier .legacy, lanErr => .carrier (.transport lanErr)

def carrierFailure : Failure CarrierOpenError → Failure ClientError
  | .error error => .error (.carrier error)
  | .panic => .panic

/-- The fence check of a carrier; nothing if the call goes on. -/
def fenceCarrier : CarrierPolicy → Except RelayPermit Unit → Option (Failure ClientError)
  | .legacy, _ => none
  | .fenced, .ok () => none
  | .fenced, .error permit => some (carrierFailure (mapFencePermit permit))

/-- The fence check before `dial_carrier_over_relay`, which a request does not make. -/
def fenceFirst : ClientKind → Except RelayPermit Unit → Option (Failure ClientError)
  | .request _, _ => none
  | .carrier policy, permit => fenceCarrier policy permit

def fenceTurn : ClientKind → Except RelayPermit Unit → Option (Failure ClientError)
  | .request _, permit =>
      match checkFence permit with
      | .ok () => none
      | .error error => some (.error (.request error))
  | .carrier policy, permit => fenceCarrier policy permit

def proactive : ClientKind → RefreshAction → Option (Failure ClientError)
  | .request _, action => (requestProactive action).map fun error => .error (.request error)
  | .carrier policy, action => (carrierProactive policy action).map carrierFailure

def reactive : ClientKind → RefreshAction → Option (Failure ClientError)
  | .request _, action => (requestReactive action).map fun error => .error (.request error)
  | .carrier policy, action => (carrierReactive policy action).map carrierFailure

def dialed : ClientKind → RelayLoop → ClientDialed → Option (RelayNext (Except ClientError Unit))
  | .request replay, loop, .request dialed =>
      some (match requestDialed replay loop dialed with
        | .again loop => .again loop
        | .refresh => .refresh
        | .returns (.ok _) => .returns (.ok ())
        | .returns (.error error) => .returns (.error (.request error)))
  | .carrier _, loop, .carrier dialed =>
      some (match carrierDialed loop dialed with
        | .again loop => .again loop
        | .refresh => .refresh
        | .returns (.ok ()) => .returns (.ok ())
        | .returns (.error error) => .returns (.error (.carrier error)))
  | _, _, _ => none

end ClientKind

/-- Where a call is. -/
inductive ClientPhase where
  | direct
  /-- Between the two reads of `relay_ineligible`. -/
  | checking (lanErr : TransportError)
  /-- Found eligible; for the live token. -/
  | eligible
  /-- In the refresh of a token that is about to expire. -/
  | proactive (refresh : Nat)
  /-- At the top of the relay loop. -/
  | looping (loop : RelayLoop)
  | dialing (loop : RelayLoop) (token : Text)
  /-- In the refresh of a token that the relay refused. -/
  | reactive (loop : RelayLoop) (refresh : Nat)
  | returned (result : Except (Failure ClientError) Unit)
  /-- The future was dropped. -/
  | dropped
  deriving DecidableEq, Repr

structure ClientCall where
  kind : ClientKind
  phase : ClientPhase := .direct
  deriving DecidableEq, Repr

/-- A commit has returned `Indeterminate`. -/
def Tokens.indeterminate (tokens : Tokens) : Bool := tokens.calls.any fun call => call.commit = some .indeterminate

/-- A relay dial, and whether a commit had returned `Indeterminate` when it was started. -/
structure RelayDial where
  call : Nat
  afterIndeterminate : Bool
  deriving DecidableEq, Repr

structure ClientConfig where
  /-- The publication has a fence. -/
  fence : Bool := true
  /-- The credential has a relay origin and a device token. -/
  relay : Bool := true
  deriving DecidableEq, Repr

structure ClientCalls where
  tokens : Tokens
  calls : List ClientCall := []
  dials : List RelayDial := []
  deriving DecidableEq, Repr

inductive ClientEvent where
  | start (kind : ClientKind)
  | directEnded (call : Nat) (ended : DirectEnd)
  /-- `relay_eligible`, and the fence's answer. -/
  | eligibility (call : Nat) (permit : Except RelayPermit Unit)
  /-- The live token is read; `due` says whether it should be refreshed. -/
  | readToken (call : Nat) (due : Bool)
  /-- The call's refresh has returned. -/
  | refreshed (call : Nat)
  /-- A turn of the relay loop up to its dial. -/
  | dial (call : Nat) (permit : Except RelayPermit Unit)
  | dialed (call : Nat) (dialed : ClientDialed)
  | drop (call : Nat)
  /-- A step of a refresh. -/
  | token (tokenCall : TokenCall)
  deriving DecidableEq, Repr

namespace ClientCalls

variable (client : ClientCalls) (config : ClientConfig)

def goTo (index : Nat) (call : ClientCall) (phase : ClientPhase) :
    ClientCalls :=
  { client with calls := client.calls.set index { call with phase := phase } }

def fail (index : Nat) (call : ClientCall) (error : ClientError) :
    ClientCalls :=
  client.goTo index call (.returned (.error (.error error)))

/-- The call goes on unless it has failed. -/
def goOn (index : Nat) (call : ClientCall)
    (failure : Option (Failure ClientError)) (phase : ClientPhase) : ClientCalls :=
  match failure with
  | some failure => client.goTo index call (.returned (.error failure))
  | none => client.goTo index call phase

/-- A refresh is started for the token the call has read; it waits for the refresh lock. -/
def startRefresh (index : Nat) (call : ClientCall) (expected : Text)
    (phase : Nat → ClientPhase) : ClientCalls :=
  { client.goTo index call (phase client.tokens.calls.length) with
    tokens := { client.tokens with calls := client.tokens.calls ++ [{ expected := expected }] } }

def directEnded (index : Nat) (call : ClientCall) : DirectEnd → ClientCalls
  | .returns result => client.goTo index call (.returned (result.mapError fun error => .error error))
  | .failed lanErr =>
      if lanErr.lanUnreachable = false then
        client.fail index call (call.kind.transportError lanErr)
      else if client.tokens.relayIneligible then
        client.fail index call (call.kind.ineligibleError lanErr)
      else client.goTo index call (.checking lanErr)

def eligibility (client : ClientCalls) (index : Nat) (call : ClientCall)
    (lanErr : TransportError) (permit : Except RelayPermit Unit) : ClientCalls :=
  if config.relay && !client.tokens.relayIneligible then
    client.goOn index call (call.kind.fenceFirst permit) .eligible
  else client.fail index call (call.kind.transportError lanErr)

def readToken (index : Nat) (call : ClientCall) (due : Bool) :
    ClientCalls :=
  if due then client.startRefresh index call client.tokens.live .proactive
  else client.goTo index call (.looping {})

/-- What the call does with the result of its refresh. -/
def refreshed (index : Nat) (call : ClientCall) : Option ClientCalls :=
  match call.phase with
  | .proactive refresh => do
      let asked ← client.tokens.calls[refresh]?
      match asked.phase with
      | .returned action => some (client.goOn index call (call.kind.proactive action) (.looping {}))
      | _ => none
  | .reactive loop refresh => do
      let asked ← client.tokens.calls[refresh]?
      match asked.phase with
      | .returned action =>
          some (client.goOn index call (call.kind.reactive action) (.looping { loop with reactiveRefreshed := true }))
      | _ => none
  | _ => none

def dial (index : Nat) (call : ClientCall) (loop : RelayLoop)
    (permit : Except RelayPermit Unit) : ClientCalls :=
  match call.kind.fenceTurn permit with
  | some failure => client.goTo index call (.returned (.error failure))
  | none =>
      { client.goTo index call (.dialing loop client.tokens.live) with
        dials := client.dials ++ [⟨index, client.tokens.indeterminate⟩] }

def dialed (client : ClientCalls) (index : Nat) (call : ClientCall) (loop : RelayLoop)
    (token : Text) (dialed : ClientDialed) : Option ClientCalls :=
  (call.kind.dialed loop dialed).map fun
    | .again loop => client.goTo index call (.looping loop)
    | .refresh => client.startRefresh index call token (.reactive loop)
    | .returns result => client.goTo index call (.returned (result.mapError fun error => .error error))

/-- Dropping a call cancels the refresh it waits for. -/
def drop (client : ClientCalls) (index : Nat) (call : ClientCall) :
    Option ClientCalls :=
  let dropped := client.goTo index call .dropped
  match call.phase with
  | .returned _ | .dropped => none
  | .proactive refresh | .reactive _ refresh =>
      some { dropped with tokens := (client.tokens.step config.fence (.cancel refresh)).getD client.tokens }
  | _ => some dropped

def callStep (client : ClientCalls) (index : Nat) (call : ClientCall) :
    ClientEvent → Option ClientCalls
  | .directEnded _ ended => if call.phase = .direct then some (client.directEnded index call ended) else none
  | .eligibility _ permit =>
      match call.phase with
      | .checking lanErr => some (client.eligibility config index call lanErr permit)
      | _ => none
  | .readToken _ due => if call.phase = .eligible then some (client.readToken index call due) else none
  | .refreshed _ => client.refreshed index call
  | .dial _ permit =>
      match call.phase with
      | .looping loop => some (client.dial index call loop permit)
      | _ => none
  | .dialed _ dialed =>
      match call.phase with
      | .dialing loop token => client.dialed index call loop token dialed
      | _ => none
  | .drop _ => client.drop config index call
  | .start _ | .token _ => none

end ClientCalls

def TokenCall.byCaller : TokenCall → Bool
  | .start _ | .cancel _ => true
  | _ => false

/-- The call an event is about. -/
def ClientEvent.index : ClientEvent → Option Nat
  | .start _ | .token _ => none
  | .directEnded index _ | .eligibility index _ | .readToken index _ | .refreshed index
  | .dial index _ | .dialed index _ | .drop index => some index

def ClientCalls.step (config : ClientConfig) (client : ClientCalls) (event : ClientEvent) :
    Option ClientCalls :=
  match event with
  | .start kind => some { client with calls := client.calls ++ [{ kind := kind }] }
  | .token tokenCall =>
      if tokenCall.byCaller then none
      else (client.tokens.step config.fence tokenCall).map fun tokens =>
        { client with tokens := tokens }
  | event => do
      let index ← event.index
      let call ← client.calls[index]?
      client.callStep config index call event

def clientMachine (config : ClientConfig) : Machine ClientCalls ClientEvent Unit where
  step client event := (client.step config event).map fun next => (next, ())

end SplRust.Transport
