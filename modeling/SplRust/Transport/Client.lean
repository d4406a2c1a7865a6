import SplRust.Lib.Machine
import SplRust.Transport.Status

/-! The retry rules of `TransportClient` (`spl-transport/src/client.rs` and `request.rs`): the
direct rounds, the relay loop and its token refreshes, and the whole of `request` over whatever
its dials, exchanges, fence checks and refreshes come to. -/

namespace SplRust.Transport
open SplRust.Lib SplRust.Core
variable {loop next : RelayLoop} {replay : ReplayPolicy}

def maxAttempts : Nat := 5
def relayMaxTransientAttempts : Nat := 5

inductive RelayPermit where
  | allow
  | disabled
  | retired
  deriving DecidableEq, Repr

inductive RefreshAction where
  | redial
  | terminal
  | transient
  | rejected
  | indeterminate
  | fenceDenied (permit : RelayPermit)
  deriving DecidableEq, Repr

inductive ReplayPolicy where
  | forbidAfterWrite
  | replaySafe
  deriving DecidableEq, Repr

inductive SelectedPath where
  | direct
  | relay
  deriving DecidableEq, Repr

inductive RequestError where
  | transport (error : TransportError)
  | replayUnsafe (error : TransportError)
  | relayDisabled
  | relayRetired
  | publicationRejected
  | publicationIndeterminate
  deriving DecidableEq, Repr

structure RequestOutcome where
  response : HttpResponse
  path : SelectedPath
  attempts : Nat
  deriving DecidableEq, Repr

def RelayError.isTransient : RelayError → Bool
  | .homeOffline | .overflow | .abnormal | .stalled => true
  | _ => false

def relayFaultIsTransientErr : TransportError → Bool
  | .relay error => error.isTransient
  | _ => false

namespace TransportError

/-- How much an error of a direct dial tells. -/
def rank : TransportError → Nat
  | .io _ _ | .tls _ | .noEndpoint => 0
  | .unknownJournal => 1
  | .tlsRefused => 2
  | _ => 3

def isIo : TransportError → Bool
  | .io _ _ => true
  | _ => false

/-- A round that ends in one of these is tried again. -/
def retriesDirect : TransportError → Bool
  | .tls _ | .unknownJournal | .io _ _ => true
  | _ => false

def lanUnreachable : TransportError → Bool
  | .tls _ | .unknownJournal | .io _ _ | .noEndpoint => true
  | _ => false

end TransportError

def preferRefusal (previous : Option TransportError) (next : TransportError) : TransportError :=
  match previous with
  | some previous => if previous.rank > next.rank then previous else next
  | none => next

def relayCloseFirst (error : TransportError) (relay : Option RelayError) : TransportError :=
  match error, relay with
  | .tlsAccessDenied, some relay => .relay relay
  | .tlsCertificateUnknown, some relay => .relay relay
  | .tlsRefused, some relay => .relay relay
  | error, _ => error

def endOnRefusal (error : TransportError) (writeStarted : Bool) :
    Except RequestError TransportError :=
  match error with
  | .tlsRefused => .error (if writeStarted then .replayUnsafe error else .transport error)
  | .mux .capExceeded => .error (.transport error)
  | .tlsAccessDenied => .error (.transport error)
  | .tlsCertificateUnknown => .error (.transport error)
  | other => .ok other

/-- What `run_request_over_stream_with_options` comes to on one connection. -/
structure Exchange where
  /-- `write_initiated`: a request frame was about to be written. -/
  wrote : Bool
  result : Except TransportError HttpResponse
  /-- The relay's own reason for the end of its tunnel. -/
  termination : Option RelayError := none
  deriving DecidableEq, Repr

def Exchange.writeStarted (exchange : Exchange) (replay : ReplayPolicy) : Bool :=
  exchange.wrote && replay == .forbidAfterWrite

structure RelayLoop where
  reactiveRefreshed : Bool := false
  transientAttempt : Nat := 0
  deriving DecidableEq, Repr

/-- What a relay loop does next. -/
inductive RelayNext (ρ : Type) where
  | again (loop : RelayLoop)
  | refresh
  | returns (result : ρ)
  deriving DecidableEq, Repr

/-- One more transient failure; the caller fails with `failed` once there were too many. -/
def RelayLoop.retry {ρ : Type} (loop : RelayLoop) (failed : ρ) : RelayNext ρ :=
  let transientAttempt := loop.transientAttempt + 1
  if transientAttempt ≥ relayMaxTransientAttempts then .returns failed
  else .again { loop with transientAttempt := transientAttempt }

def unauthorized : TransportError := .relay .unauthorized

def checkFence : Except RelayPermit Unit → Except RequestError Unit
  | .ok () => .ok ()
  | .error .allow => .ok ()
  | .error .disabled => .error .relayDisabled
  | .error .retired => .error .relayRetired

def requestDialed (replay : ReplayPolicy) (loop : RelayLoop) :
    Except TransportError Exchange → RelayNext (Except RequestError HttpResponse)
  | .ok exchange =>
      match exchange.result with
      | .ok response => .returns (.ok response)
      | .error error =>
          match endOnRefusal (relayCloseFirst error exchange.termination)
              (exchange.writeStarted replay) with
          | .error ended => .returns (.error ended)
          | .ok error =>
              if exchange.writeStarted replay then .returns (.error (.replayUnsafe error))
              else if relayFaultIsTransientErr error ∨ (error.isIo ∧ replay = .replaySafe) then
                loop.retry (.error (.transport error))
              else .returns (.error (.transport error))
  | .error error =>
      if error = unauthorized then
        if loop.reactiveRefreshed then .returns (.error (.transport unauthorized)) else .refresh
      else if relayFaultIsTransientErr error then loop.retry (.error (.transport error))
      else .returns (.error (.transport error))

/-- How a request ends on a refresh that came before the relay loop; nothing if it goes on. -/
def requestProactive : RefreshAction → Option RequestError
  | .redial | .transient => none
  | .terminal => some (.transport unauthorized)
  | .rejected => some .publicationRejected
  | .indeterminate => some .publicationIndeterminate
  | .fenceDenied .disabled => some .relayDisabled
  | .fenceDenied .retired => some .relayRetired
  | .fenceDenied .allow => none

/-- The same for the refresh that an unauthorized dial led to. -/
def requestReactive : RefreshAction → Option RequestError
  | .redial => none
  | .terminal | .transient => some (.transport unauthorized)
  | .rejected => some .publicationRejected
  | .indeterminate => some .publicationIndeterminate
  | .fenceDenied .disabled => some .relayDisabled
  | .fenceDenied .retired => some .relayRetired
  | .fenceDenied .allow => none

inductive CarrierPolicy where
  | legacy
  | fenced
  deriving DecidableEq, Repr

inductive CarrierOpenError where
  | relayDisabled
  | relayRetired
  | publicationRejected
  | publicationIndeterminate
  | transport (error : TransportError)
  deriving DecidableEq, Repr

/-- `allow` is not a rejection, and panics. -/
def mapFencePermit : RelayPermit → Failure CarrierOpenError
  | .disabled => .error .relayDisabled
  | .retired => .error .relayRetired
  | .allow => .panic

def carrierDialed (loop : RelayLoop) : Except TransportError Unit → RelayNext (Except CarrierOpenError Unit)
  | .ok () => .returns (.ok ())
  | .error error =>
      if error = unauthorized then
        if loop.reactiveRefreshed then .returns (.error (.transport unauthorized)) else .refresh
      else if relayFaultIsTransientErr error then loop.retry (.error (.transport error))
      else .returns (.error (.transport error))

/-- How a carrier dial ends on a refresh that came before the relay loop; nothing if it goes on.
A legacy dial goes on after everything but a terminal failure. -/
def carrierProactive : CarrierPolicy → RefreshAction → Option (Failure CarrierOpenError)
  | _, .terminal => some (.error (.transport unauthorized))
  | .legacy, _ => none
  | .fenced, .redial | .fenced, .transient => none
  | .fenced, .rejected => some (.error .publicationRejected)
  | .fenced, .indeterminate => some (.error .publicationIndeterminate)
  | .fenced, .fenceDenied permit => some (mapFencePermit permit)

/-- The same for the refresh that an unauthorized dial led to. -/
def carrierReactive : CarrierPolicy → RefreshAction → Option (Failure CarrierOpenError)
  | _, .redial => none
  | .legacy, _ => some (.error (.transport unauthorized))
  | .fenced, .terminal | .fenced, .transient => some (.error (.transport unauthorized))
  | .fenced, .rejected => some (.error .publicationRejected)
  | .fenced, .indeterminate => some (.error .publicationIndeterminate)
  | .fenced, .fenceDenied permit => some (mapFencePermit permit)

structure EndpointAddr where
  host : Text
  port : Nat
  deriving DecidableEq, Repr

/-- A dial that was made: to an endpoint or to the relay, and whether request frames were
written on the connection. -/
structure Dial where
  endpoint : Option EndpointAddr
  wrote : Bool
  deriving DecidableEq, Repr

structure TransportClient where
  endpoints : List EndpointAddr
  relayOrigin : Option Text
  /-- The credential has a device token. -/
  hasToken : Bool
  deriving DecidableEq, Repr

/-- What one request meets. Dials, fence checks and reactive refreshes are numbered by the dials
that were made before. -/
structure RequestWorld where
  dial : Nat → Except TransportError Exchange
  /-- `relay_ineligible`, as it is first and then as `relay_eligible` reads it. -/
  relayIneligible : Bool
  relayIneligibleLater : Bool
  /-- The outcome of the proactive refresh, if the token is due. -/
  proactive : Option RefreshAction
  fence : Nat → Except RelayPermit Unit
  refresh : Nat → RefreshAction

/-- The locals of `request`, and the dials it has made. -/
structure Progress where
  attempts : Nat := 0
  lastLanErr : Option TransportError := none
  dials : List Dial := []
  deriving DecidableEq, Repr

abbrev RequestResult := Except (Failure RequestError) RequestOutcome

/-- A part of `request` goes on, or the request returns. -/
inductive RequestTurn where
  | goes (progress : Progress)
  | returns (progress : Progress) (result : RequestResult)
  deriving DecidableEq, Repr

def wroteOn : Except TransportError Exchange → Bool
  | .ok exchange => exchange.wrote
  | .error _ => false

namespace Progress

/-- `attempts += 1` and the dial; the counter has 32 bits. -/
def dialed (progress : Progress) (endpoint : Option EndpointAddr)
    (outcome : Except TransportError Exchange) : Option Progress :=
  if progress.attempts + 1 < 2 ^ 32 then
    some { progress with
      attempts := progress.attempts + 1
      dials := progress.dials ++ [⟨endpoint, wroteOn outcome⟩] }
  else none

def lanFailed (progress : Progress) (error : TransportError) : Progress :=
  { progress with lastLanErr := some (preferRefusal progress.lastLanErr error) }

end Progress

def directDial (world : RequestWorld) (replay : ReplayPolicy) (endpoint : EndpointAddr)
    (progress : Progress) : RequestTurn :=
  let outcome := world.dial progress.dials.length
  match progress.dialed (some endpoint) outcome with
  | none => .returns progress (.error .panic)
  | some progress =>
      match outcome with
      | .error error => .goes (progress.lanFailed error)
      | .ok exchange =>
          match exchange.result with
          | .ok response => .returns progress (.ok ⟨response, .direct, progress.attempts⟩)
          | .error error =>
              match endOnRefusal error (exchange.writeStarted replay) with
              | .error ended => .returns progress (.error (.error ended))
              | .ok error =>
                  if exchange.writeStarted replay then
                    .returns progress (.error (.error (.replayUnsafe error)))
                  else .goes (progress.lanFailed error)

def directRound (world : RequestWorld) (replay : ReplayPolicy) : List EndpointAddr → Progress → RequestTurn
  | [], progress => .goes progress
  | endpoint :: endpoints, progress =>
      match directDial world replay endpoint progress with
      | .goes progress => directRound world replay endpoints progress
      | returned => returned

def directRounds (world : RequestWorld) (replay : ReplayPolicy) (endpoints : List EndpointAddr) :
    Nat → Progress → RequestTurn
  | 0, progress => .goes progress
  | rounds + 1, progress =>
      match directRound world replay endpoints progress with
      | .goes progress =>
          if progress.lastLanErr.any TransportError.retriesDirect then
            directRounds world replay endpoints rounds progress
          else .goes progress
      | returned => returned

def relayTurn (world : RequestWorld) (replay : ReplayPolicy) (loop : RelayLoop)
    (progress : Progress) : Progress × Sum RelayLoop RequestResult :=
  match checkFence (world.fence progress.dials.length) with
  | .error error => (progress, .inr (.error (.error error)))
  | .ok () =>
      let made := progress.dials.length
      let outcome := world.dial made
      match progress.dialed none outcome with
      | none => (progress, .inr (.error .panic))
      | some progress =>
          match requestDialed replay loop outcome with
          | .returns (.ok response) => (progress, .inr (.ok ⟨response, .relay, progress.attempts⟩))
          | .returns (.error error) => (progress, .inr (.error (.error error)))
          | .again loop => (progress, .inl loop)
          | .refresh =>
              match requestReactive (world.refresh made) with
              | some error => (progress, .inr (.error (.error error)))
              | none => (progress, .inl { loop with reactiveRefreshed := true })

def RelayLoop.dialsLeft (loop : RelayLoop) : Nat :=
  relayMaxTransientAttempts - loop.transientAttempt + if loop.reactiveRefreshed then 0 else 1

/-- A relay loop that goes on has counted a transient failure, or its one reactive refresh. -/
inductive RelayLoop.Advances (loop : RelayLoop) : RelayLoop → Prop where
  | retried (few : loop.transientAttempt + 1 < relayMaxTransientAttempts) :
      Advances loop { loop with transientAttempt := loop.transientAttempt + 1 }
  | refreshed (first : loop.reactiveRefreshed = false) : Advances loop { loop with reactiveRefreshed := true }

theorem RelayLoop.Advances.dialsLeft (advances : loop.Advances next) : next.dialsLeft + 1 = loop.dialsLeft := by
  cases advances with
  | retried few =>
    simp only [RelayLoop.dialsLeft, relayMaxTransientAttempts] at few ⊢
    omega
  | refreshed fst => simp [RelayLoop.dialsLeft, fst]

theorem RelayLoop.retry_again {ρ : Type} {failed : ρ} (retried : loop.retry failed = .again next) :
    loop.Advances next := by
  unfold RelayLoop.retry at retried
  dsimp only at retried
  split at retried
  · cases retried
  next few =>
    cases retried
    exact .retried (Nat.lt_of_not_le few)

theorem RelayLoop.retry_refresh {ρ : Type} (loop : RelayLoop) (failed : ρ) : loop.retry failed ≠ .refresh := by
  unfold RelayLoop.retry
  dsimp only
  split
  · simp
  · simp

theorem requestDialed_again {res : Except TransportError Exchange}
    (again : requestDialed replay loop res = .again next) : loop.Advances next := by
  revert again
  fun_cases requestDialed replay loop res with
  | case4 | case8 => exact RelayLoop.retry_again
  | _ => rintro ⟨⟩

theorem requestDialed_refresh {res : Except TransportError Exchange}
    (refresh : requestDialed replay loop res = .refresh) :
    loop.reactiveRefreshed = false ∧ res = .error unauthorized := by
  revert refresh
  fun_cases requestDialed replay loop res with
  | case4 | case8 => exact fun refresh => absurd refresh (loop.retry_refresh _)
  | case7 fst => exact fun _ => ⟨by simpa using fst, rfl⟩
  | _ => rintro ⟨⟩

theorem relayTurn_advances {world : RequestWorld} {prog after : Progress}
    (turned : relayTurn world replay loop prog = (after, .inl next)) : loop.Advances next := by
  revert turned
  fun_cases relayTurn world replay loop prog with
  | case5 _ _ _ _ _ _ again =>
    rintro ⟨⟩
    exact requestDialed_again again
  | case7 _ _ _ _ _ refresh =>
    rintro ⟨⟩
    exact .refreshed (requestDialed_refresh refresh).1
  | _ => rintro ⟨⟩

def relayLoop (world : RequestWorld) (replay : ReplayPolicy) (loop : RelayLoop)
    (progress : Progress) : Progress × RequestResult :=
  match turned : relayTurn world replay loop progress with
  | (progress, .inr result) => (progress, result)
  | (progress, .inl next) =>
      have := (relayTurn_advances turned).dialsLeft
      relayLoop world replay next progress
  termination_by loop.dialsLeft
  decreasing_by omega

namespace TransportClient

def relayEligible (client : TransportClient) (relayIneligible : Bool) : Bool :=
  client.relayOrigin.isSome && client.hasToken && !relayIneligible

/-- `request`, over what it meets. -/
def request (client : TransportClient) (replay : ReplayPolicy) (world : RequestWorld) : Progress × RequestResult :=
  match directRounds world replay client.endpoints maxAttempts {} with
  | .returns progress result => (progress, result)
  | .goes progress =>
      let lanErr := progress.lastLanErr.getD .noEndpoint
      if ¬ lanErr.lanUnreachable then (progress, .error (.error (.transport lanErr)))
      else if world.relayIneligible then (progress, .error (.error .publicationIndeterminate))
      else if ¬ client.relayEligible world.relayIneligibleLater then
        (progress, .error (.error (.transport lanErr)))
      else
        match world.proactive.bind requestProactive with
        | some error => (progress, .error (.error error))
        | none => relayLoop world replay {} progress

end TransportClient

end SplRust.Transport
