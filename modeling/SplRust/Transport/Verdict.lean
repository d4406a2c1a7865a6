import SplRust.Transport.Status
import SplRust.Lib.Machine

/-! How a carrier attempt is settled. A dialed carrier has a reader and a writer that race to resolve
one `CarrierAcceptance`, and whichever wins records the outcome under the status lock. An old
carrier's tasks may still be running when newer attempts have begun. The steps are the atomic ones of
`get_or_dial`, `CarrierLiveGuard`, `classify_carrier_tls_alert` and `read_verdict_before_teardown`. -/

namespace SplRust.Transport
open SplRust.Lib

/-- An I/O error, as far as its classification reads it: a TLS alert's code, or no alert. -/
inductive IoError where
  | alertReceived (code : UInt8)
  | other
  deriving DecidableEq, Repr

def alertAccessDenied : UInt8 := 49
def alertCertificateUnknown : UInt8 := 46

def classifyTlsRefusal : IoError → Option TransportError
  | .alertReceived code =>
      if code = alertAccessDenied then some .tlsAccessDenied
      else if code = alertCertificateUnknown then some .tlsCertificateUnknown
      else some .tlsRefused
  | .other => none

inductive CarrierAcceptance where
  | pending
  | accepted
  | failed
  deriving DecidableEq, Repr

/-- What an attempt came to. -/
inductive Outcome where
  | accepted
  | failed (failure : HandshakeFailure)
  deriving DecidableEq, Repr

def Outcome.acceptance : Outcome → CarrierAcceptance
  | .accepted => .accepted
  | .failed _ => .failed

inductive CarrierSide where
  | reader
  | writer
  deriving DecidableEq, Repr

/-- Where a task stands in settling its carrier, between two atomic steps: it is about to
latch access denied, to resolve the acceptance, or to record what it resolved. -/
inductive Verdict where
  | idle
  | denying (outcome : Outcome)
  | resolving (outcome : Outcome)
  | recording (outcome : Outcome)
  deriving DecidableEq, Repr

/-- What a read of the carrier returned. -/
inductive ReadResult where
  | eof
  | bytes
  | failed (error : IoError)
  deriving DecidableEq, Repr

/-- `classify_carrier_tls_alert` up to its first step on shared state; `relayEnded` is
whether the relay has said why the tunnel ended. -/
def classifyCarrierTlsAlert (acceptance : CarrierAcceptance) (error : IoError)
    (relayEnded : Bool) (side : CarrierSide) : Verdict :=
  if acceptance = .pending then
    match (classifyTlsRefusal error).filter fun _ => !relayEnded with
    | some refusal =>
        if refusal = .tlsAccessDenied then .denying (.failed (.classify refusal))
        else .resolving (.failed (.classify refusal))
    -- A failed write does not settle the attempt; the reader decides.
    | none => if side = .reader then .resolving (.failed .unreachable) else .idle
  else .idle

/-- A read of the coordinator's main loop. -/
def readVerdict (acceptance : CarrierAcceptance) (relayEnded : Bool) : ReadResult → Verdict
  | .eof => .resolving (.failed .unreachable)
  | .bytes => .resolving .accepted
  | .failed error => classifyCarrierTlsAlert acceptance error relayEnded .reader

/-- `none` is the read that timed out. -/
def readVerdictBeforeTeardown (acceptance : CarrierAcceptance) (relayEnded : Bool)
    (result : Option ReadResult) : Verdict :=
  if acceptance = .pending then
    if relayEnded then .resolving (.failed .unreachable)
    else
      match result with
      | none | some .eof => .resolving (.failed .unreachable)
      | some .bytes => .resolving .accepted
      | some (.failed error) => classifyCarrierTlsAlert acceptance error relayEnded .reader
  else .idle

/-- The two guards of a dialed carrier. -/
structure Guards where
  acceptance : CarrierAcceptance := .pending
  reader : Verdict := .idle
  writer : Verdict := .idle
  deriving DecidableEq, Repr

namespace Guards

def verdict (guards : Guards) : CarrierSide → Verdict
  | .reader => guards.reader
  | .writer => guards.writer

def setVerdict (guards : Guards) (side : CarrierSide) (verdict : Verdict) : Guards :=
  match side with
  | .reader => { guards with reader := verdict }
  | .writer => { guards with writer := verdict }

end Guards

inductive AttemptStage where
  | dialing
  | failed (failure : HandshakeFailure)
  | settled
  | carried (guards : Guards)
  deriving DecidableEq, Repr

structure Attempt where
  number : UInt64
  stage : AttemptStage := .dialing
  deriving DecidableEq, Repr

/-- Every attempt ever begun, in order, with the status record and the clock. -/
structure Attempts where
  record : StatusRecord := {}
  attempts : List Attempt := []
  now : Nat := 0
  deriving DecidableEq, Repr

inductive AttemptCall where
  | beginAttempt
  | dialFailed (attempt : Nat) (error : TransportError)
  | recordDial (attempt : Nat)
  | dialed (attempt : Nat)
  | read (attempt : Nat) (relayEnded : Bool) (result : ReadResult)
  | teardownRead (attempt : Nat) (relayEnded : Bool) (result : Option ReadResult)
  | writeFailed (attempt : Nat) (relayEnded : Bool) (error : IoError)
  | proceed (attempt : Nat) (side : CarrierSide)
  | wait (elapsed : Nat)
  deriving DecidableEq, Repr

/-- `current` says whether a recorded outcome was of the newest attempt by number. -/
inductive AttemptReply where
  | quiet
  | recorded (attempt : Nat) (outcome : Outcome) (time : Nat) (current : Bool)
  deriving DecidableEq, Repr

def StatusRecord.recordOutcome (record : StatusRecord) (number : UInt64) (outcome : Outcome)
    (now : Nat) : StatusRecord :=
  match outcome with
  | .accepted => record.recordCarrierAccepted number
  | .failed failure => record.recordCarrierFailure number failure now

namespace Attempts

def setStage (world : Attempts) (attempt : Nat) (stage : AttemptStage) : Attempts :=
  { world with attempts := world.attempts.modify attempt fun entry => { entry with stage := stage } }

/-- Record an outcome and leave the attempt in `stage`. -/
def settle (world : Attempts) (attempt : Nat) (number : UInt64) (outcome : Outcome)
    (stage : AttemptStage) : Attempts × AttemptReply :=
  ({ world with record := world.record.recordOutcome number outcome world.now }.setStage attempt stage,
    .recorded attempt outcome world.now (decide (world.record.attempt = number)))

/-- The next atomic step of a task that is settling its carrier. -/
def proceed (world : Attempts) (attempt : Nat) (number : UInt64) (guards : Guards)
    (side : CarrierSide) : Option (Attempts × AttemptReply) :=
  match guards.verdict side with
  | .idle => none
  | .denying outcome =>
      some ({ world with record := world.record.latchTlsAccessDenied }.setStage attempt
        (.carried (guards.setVerdict side (.resolving outcome))), .quiet)
  | .resolving outcome =>
      if guards.acceptance = .pending then
        some (world.setStage attempt (.carried { guards.setVerdict side (.recording outcome) with
            acceptance := outcome.acceptance }), .quiet)
      else some (world.setStage attempt (.carried (guards.setVerdict side .idle)), .quiet)
  | .recording outcome => some (world.settle attempt number outcome (.carried (guards.setVerdict side .idle)))

/-- A task that is not settling anything sees something of its carrier. -/
def sees (world : Attempts) (attempt : Nat) (guards : Guards) (side : CarrierSide)
    (verdict : Verdict) : Option (Attempts × AttemptReply) :=
  if guards.verdict side = .idle then
    some (world.setStage attempt (.carried (guards.setVerdict side verdict)), .quiet)
  else none

def step (world : Attempts) : AttemptCall → Option (Attempts × AttemptReply)
  | .beginAttempt =>
      let record := world.record.beginCarrierAttempt
      some ({ world with record := record, attempts := world.attempts ++ [{ number := record.attempt }] }, .quiet)
  | .dialFailed attempt error =>
      match world.attempts[attempt]? with
      | some ⟨_, .dialing⟩ => some (world.setStage attempt (.failed (.classify error)), .quiet)
      | _ => none
  | .recordDial attempt =>
      match world.attempts[attempt]? with
      | some ⟨number, .failed failure⟩ => some (world.settle attempt number (.failed failure) .settled)
      | _ => none
  | .dialed attempt =>
      match world.attempts[attempt]? with
      | some ⟨_, .dialing⟩ => some (world.setStage attempt (.carried {}), .quiet)
      | _ => none
  | .read attempt relayEnded result =>
      match world.attempts[attempt]? with
      | some ⟨_, .carried guards⟩ =>
          world.sees attempt guards .reader (readVerdict guards.acceptance relayEnded result)
      | _ => none
  | .teardownRead attempt relayEnded result =>
      match world.attempts[attempt]? with
      | some ⟨_, .carried guards⟩ =>
          world.sees attempt guards .reader (readVerdictBeforeTeardown guards.acceptance relayEnded result)
      | _ => none
  | .writeFailed attempt relayEnded error =>
      match world.attempts[attempt]? with
      | some ⟨_, .carried guards⟩ =>
          world.sees attempt guards .writer (classifyCarrierTlsAlert guards.acceptance error relayEnded .writer)
      | _ => none
  | .proceed attempt side =>
      match world.attempts[attempt]? with
      | some ⟨number, .carried guards⟩ => world.proceed attempt number guards side
      | _ => none
  | .wait elapsed => some ({ world with now := world.now + elapsed }, .quiet)

end Attempts

def attemptMachine : Machine Attempts AttemptCall AttemptReply where
  step := Attempts.step

/-! ### What a step can do -/

variable {side : CarrierSide}

namespace Guards

@[simp] theorem verdict_setVerdict (guards : Guards) (side : CarrierSide) (verdict : Verdict) :
    (guards.setVerdict side verdict).verdict side = verdict := by
  cases side <;> rfl

theorem verdict_setVerdict_of_ne (guards : Guards) {other : CarrierSide}
    (ne : other ≠ side) (verdict : Verdict) :
    (guards.setVerdict side verdict).verdict other = guards.verdict other := by
  cases side <;> cases other <;> first | rfl | exact absurd rfl ne

@[simp] theorem acceptance_setVerdict (guards : Guards) (side : CarrierSide)
    (verdict : Verdict) : (guards.setVerdict side verdict).acceptance = guards.acceptance := by
  cases side <;> rfl

end Guards

/-- The moves of an attempt that record nothing. -/
inductive AttemptStage.Moves : AttemptStage → AttemptStage → Prop where
  | dialFailed (failure : HandshakeFailure) : Moves .dialing (.failed failure)
  | dialed : Moves .dialing (.carried {})
  | turned (guards : Guards) (side : CarrierSide) (verdict : Verdict)
      (free : ∀ res, guards.verdict side ≠ .recording res)
      (lost : ∀ res, verdict ≠ .recording res) :
      Moves (.carried guards) (.carried (guards.setVerdict side verdict))
  | won (guards : Guards) (side : CarrierSide) (res : Outcome) (pending : guards.acceptance = .pending) :
      Moves (.carried guards) (.carried { guards.setVerdict side (.recording res) with acceptance := res.acceptance })

/-- The moves that record an outcome. -/
inductive AttemptStage.Settles : AttemptStage → Outcome → AttemptStage → Prop where
  | dial (failure : HandshakeFailure) : Settles (.failed failure) (.failed failure) .settled
  | task (guards : Guards) (side : CarrierSide) (res : Outcome) (won : guards.verdict side = .recording res) :
      Settles (.carried guards) res (.carried (guards.setVerdict side .idle))

inductive Attempts.Effect (world : Attempts) : Attempts → AttemptReply → Prop where
  | began : Effect world { world with
      record := world.record.beginCarrierAttempt
      attempts := world.attempts ++ [{ number := world.record.attempt + 1 }] } .quiet
  | waited (elapsed : Nat) : Effect world { world with now := world.now + elapsed } .quiet
  | moved (attempt : Nat) {en : Attempt} {record : StatusRecord} {stage : AttemptStage}
      (hp : world.attempts[attempt]? = some en) (moves : en.stage.Moves stage)
      (kept : record = world.record ∨ record = world.record.latchTlsAccessDenied) :
      Effect world ({ world with record := record }.setStage attempt stage) .quiet
  | settled (attempt : Nat) {en : Attempt} {res : Outcome} {stage : AttemptStage}
      (hp : world.attempts[attempt]? = some en)
      (settles : en.stage.Settles res stage) :
      Effect world (world.settle attempt en.number res stage).1
        (world.settle attempt en.number res stage).2

theorem classifyCarrierTlsAlert_ne (acceptance : CarrierAcceptance) (error : IoError)
    (relayEnded : Bool) (side : CarrierSide) (outcome : Outcome) :
    classifyCarrierTlsAlert acceptance error relayEnded side ≠ .recording outcome := by
  unfold classifyCarrierTlsAlert
  split
  · split
    · split <;> simp
    · split <;> simp
  · simp

theorem readVerdict_ne (acceptance : CarrierAcceptance) (relayEnded : Bool) (res : ReadResult) (outcome : Outcome) :
    readVerdict acceptance relayEnded res ≠ .recording outcome := by
  cases res with
  | eof | bytes => simp [readVerdict]
  | failed error => exact classifyCarrierTlsAlert_ne acceptance error relayEnded .reader outcome

theorem readVerdictBeforeTeardown_ne (acceptance : CarrierAcceptance) (relayEnded : Bool)
    (res : Option ReadResult) (outcome : Outcome) :
    readVerdictBeforeTeardown acceptance relayEnded res ≠ .recording outcome := by
  unfold readVerdictBeforeTeardown
  split
  · split
    · simp
    · split
      · simp
      · simp
      · simp
      · exact classifyCarrierTlsAlert_ne acceptance _ relayEnded .reader outcome
  · simp

namespace Attempts

variable {world next : Attempts} {reply : AttemptReply}

theorem sees_effect {att : Nat} {number : UInt64} {guards : Guards} {verdict : Verdict}
    (hp : world.attempts[att]? = some ⟨number, .carried guards⟩)
    (lost : ∀ outcome, verdict ≠ .recording outcome)
    (saw : world.sees att guards side verdict = some (next, reply)) : Effect world next reply := by
  unfold sees at saw
  split at saw
  next idle =>
    cases saw
    exact .moved att hp (.turned guards side verdict (by simp [idle]) lost) (Or.inl rfl)
  · cases saw

theorem proceed_effect {att : Nat} {number : UInt64} {guards : Guards}
    (hp : world.attempts[att]? = some ⟨number, .carried guards⟩)
    (proceeded : world.proceed att number guards side = some (next, reply)) : Effect world next reply := by
  revert proceeded
  fun_cases proceed world att number guards side with
  | case1 => rintro ⟨⟩
  | case2 outcome denying =>
    rintro ⟨⟩
    exact .moved att hp (.turned guards side (.resolving outcome) (by simp [denying]) (by simp)) (Or.inr rfl)
  | case3 outcome resolving pend =>
    rintro ⟨⟩
    exact .moved att hp (.won guards side outcome pend) (Or.inl rfl)
  | case4 outcome resolving =>
    rintro ⟨⟩
    exact .moved att hp (.turned guards side .idle (by simp [resolving]) (by simp)) (Or.inl rfl)
  | case5 outcome recording =>
    rintro ⟨⟩
    exact .settled att hp (.task guards side outcome recording)

theorem step_effect {call : AttemptCall}
    (hs : world.step call = some (next, reply)) : Effect world next reply := by
  revert hs
  fun_cases step world call with
  | case1 =>
    rintro ⟨⟩
    exact .began
  | case2 att _ _ hp =>
    rintro ⟨⟩
    exact .moved att hp (.dialFailed _) (Or.inl rfl)
  | case4 att _ failure hp =>
    rintro ⟨⟩
    exact .settled att hp (.dial failure)
  | case6 att _ hp =>
    rintro ⟨⟩
    exact .moved att hp .dialed (Or.inl rfl)
  | case8 _ relayEnded res _ guards hp => exact sees_effect hp (readVerdict_ne guards.acceptance relayEnded res)
  | case10 _ relayEnded res _ guards hp =>
    exact sees_effect hp (readVerdictBeforeTeardown_ne guards.acceptance relayEnded res)
  | case12 _ relayEnded error _ guards hp =>
    exact sees_effect hp (classifyCarrierTlsAlert_ne guards.acceptance error relayEnded .writer)
  | case14 _ _ _ _ hp => exact proceed_effect hp
  | case16 elapsed =>
    rintro ⟨⟩
    exact .waited elapsed
  | _ => rintro ⟨⟩

end Attempts

end SplRust.Transport
