import SplRust.Core.Window

/-! What a journal bridge knows of its journal: the refusal rule of
`spl-transport/src/handshake.rs` and the status record of `journal_bridge.rs`. Every
function on the record is one section under its lock, so one atomic step. -/

namespace SplRust.Transport
open SplRust.Lib SplRust.Core

inductive IoErrorKind where
  | invalidInput
  | invalidData
  | brokenPipe
  | other
  deriving DecidableEq, Repr

/-- Failures of the relay's data plane. -/
inductive RelayError where
  | homeOffline
  | unauthorized
  | unpaid
  | unknownInstance
  | pairWindowClosed
  | overflow
  | abnormal
  | upgradeRejected
  | stalled
  | homeListenConnection
  | homeRelayConfiguration
  | homeTunnelRejected (status : Nat)
  deriving DecidableEq, Repr

/-- Transport errors; `unrelated` stands for the variants that no modelled function
builds or tells apart. -/
inductive TransportError where
  | io (kind : IoErrorKind) (reason : String)
  | tls (reason : String)
  | tlsAccessDenied
  | tlsCertificateUnknown
  | tlsRefused
  | unknownJournal
  | mux (err : MuxError)
  | relay (error : RelayError)
  | noEndpoint
  | unrelated
  deriving DecidableEq, Repr

/-- How one attempt to reach the journal failed. -/
inductive HandshakeFailure where
  | unreachable
  | tlsAccessDenied
  | tlsCertificateUnknown
  | tlsRefused
  | unknownJournal
  deriving DecidableEq, Repr

def HandshakeFailure.classify : TransportError → HandshakeFailure
  | .tlsAccessDenied => .tlsAccessDenied
  | .tlsCertificateUnknown => .tlsCertificateUnknown
  | .tlsRefused => .tlsRefused
  | .unknownJournal => .unknownJournal
  | _ => .unreachable

/-- Why a client stops trying a credential. -/
inductive HandshakeStop where
  | tlsAccessDenied
  | refusalsExhausted
  deriving DecidableEq, Repr

def HandshakeStop.error : HandshakeStop → TransportError
  | .tlsAccessDenied => .tlsAccessDenied
  | .refusalsExhausted => .tlsRefused

def refusalLimit : Nat := 7

/-- Five minutes. Instants and durations are nanoseconds. -/
def refusalSpacing : Nat := 5 * 60 * 10 ^ 9

/-- `u32::saturating_add`. -/
def saturatingAdd32 (count more : Nat) : Nat := min (count + more) (2 ^ 32 - 1)

structure RefusalTracker where
  refusals : Nat := 0
  lastCounted : Option Nat := none
  lastFailure : Option HandshakeFailure := none
  stop : Option HandshakeStop := none
  deriving DecidableEq, Repr

namespace RefusalTracker

def accepted (tracker : RefusalTracker) : RefusalTracker :=
  { tracker with refusals := 0, lastCounted := none, lastFailure := none }

def latch (tracker : RefusalTracker) (stop : HandshakeStop) : RefusalTracker :=
  if tracker.stop = none then { tracker with stop := some stop } else tracker

def deny (tracker : RefusalTracker) : RefusalTracker := tracker.latch .tlsAccessDenied

/-- Whether a refusal at `now` is far enough from the last counted one. -/
def counts (tracker : RefusalTracker) (now : Nat) : Bool :=
  match tracker.lastCounted with
  | none => true
  | some last => decide (now - last ≥ refusalSpacing)

def note (tracker : RefusalTracker) (failure : HandshakeFailure) : RefusalTracker :=
  { tracker with lastFailure := some failure }

def count (tracker : RefusalTracker) (now : Nat) : RefusalTracker :=
  { tracker with lastCounted := some now, refusals := saturatingAdd32 tracker.refusals 1 }

def countAndLatch (tracker : RefusalTracker) (now : Nat) : RefusalTracker :=
  if (tracker.count now).refusals ≥ refusalLimit then
    (tracker.count now).latch .refusalsExhausted
  else tracker.count now

def failed (tracker : RefusalTracker) (failure : HandshakeFailure) (now : Nat) :
    RefusalTracker :=
  match failure with
  | .tlsAccessDenied => (tracker.note failure).deny
  | .tlsRefused =>
      if tracker.counts now then (tracker.note failure).countAndLatch now
      else tracker.note failure
  | .unreachable | .tlsCertificateUnknown | .unknownJournal => tracker.note failure

section
variable (tracker : RefusalTracker)
include tracker

@[simp] theorem latch_refusals (stop : HandshakeStop) : (tracker.latch stop).refusals = tracker.refusals := by
  unfold latch
  split <;> rfl

@[simp] theorem latch_lastCounted (stop : HandshakeStop) : (tracker.latch stop).lastCounted = tracker.lastCounted := by
  unfold latch
  split <;> rfl

theorem latch_stop (stop : HandshakeStop) : (tracker.latch stop).stop = tracker.stop ∨
      tracker.stop = none ∧ (tracker.latch stop).stop = some stop := by
  unfold latch
  split
  next unset => exact Or.inr ⟨unset, rfl⟩
  · exact Or.inl rfl

theorem failed_cases (failure : HandshakeFailure) (now : Nat) :
    ((tracker.failed failure now).refusals = tracker.refusals ∧
        (tracker.failed failure now).lastCounted = tracker.lastCounted ∧
        ((tracker.failed failure now).stop = tracker.stop ∨
          tracker.stop = none ∧ (tracker.failed failure now).stop = some .tlsAccessDenied)) ∨
      (failure = .tlsRefused ∧ tracker.counts now = true ∧
        (tracker.failed failure now).refusals = saturatingAdd32 tracker.refusals 1 ∧
        (tracker.failed failure now).lastCounted = some now ∧ ((tracker.failed failure now).stop = tracker.stop ∨
          tracker.stop = none ∧ (tracker.failed failure now).stop = some .refusalsExhausted ∧
            (tracker.failed failure now).refusals ≥ refusalLimit)) := by
  cases failure with
  | unreachable | tlsCertificateUnknown | unknownJournal => exact Or.inl ⟨rfl, rfl, Or.inl rfl⟩
  | tlsAccessDenied =>
    refine Or.inl ⟨?_, ?_, ?_⟩
    · simp only [failed, deny, latch_refusals, note]
    · simp only [failed, deny, latch_lastCounted, note]
    · exact latch_stop (tracker.note .tlsAccessDenied) .tlsAccessDenied
  | tlsRefused =>
    by_cases spaced : tracker.counts now = true
    · refine Or.inr ⟨rfl, spaced, ?_⟩
      simp only [failed, spaced, if_true, countAndLatch]
      split
      next reached =>
        refine ⟨by rw [latch_refusals]; rfl, by rw [latch_lastCounted]; rfl, ?_⟩
        rw [latch_refusals]
        rcases latch_stop ((tracker.note .tlsRefused).count now) .refusalsExhausted with
          kept | ⟨unset, latched⟩
        · exact Or.inl kept
        · exact Or.inr ⟨unset, latched, reached⟩
      · exact ⟨rfl, rfl, Or.inl rfl⟩
    · refine Or.inl ?_
      simp only [failed, spaced]
      exact ⟨rfl, rfl, Or.inl rfl⟩

end

theorem failed_first {tracker : RefusalTracker} (never : tracker.lastCounted = none) (now : Nat) :
    (tracker.failed .tlsRefused now).refusals = saturatingAdd32 tracker.refusals 1 := by
  simp only [failed, counts, never, if_true, countAndLatch]
  split
  · rw [latch_refusals]
    rfl
  · rfl

end RefusalTracker

/-- The fields of the published status that carriers change. -/
structure JournalBridgeStatus where
  carrierLive : Bool := false
  terminalReason : Option HandshakeStop := none
  lastFailure : Option HandshakeFailure := none
  refusals : Nat := 0
  deriving DecidableEq, Repr

/-- The record behind the status lock. A carrier's identity is its place in the order of
publication; `attempt` is the newest attempt's number. -/
structure StatusRecord where
  snapshot : JournalBridgeStatus := {}
  currentCarrier : Option Nat := none
  refusals : RefusalTracker := {}
  attempt : UInt64 := 0
  deriving DecidableEq, Repr

namespace StatusRecord

variable (record : StatusRecord)

def publishRefusals : StatusRecord :=
  { record with snapshot := { record.snapshot with
      terminalReason := record.refusals.stop
      lastFailure := record.refusals.lastFailure
      refusals := record.refusals.refusals } }

def latchTlsAccessDenied : StatusRecord :=
  publishRefusals { record with refusals := record.refusals.deny }

/-- `begin_carrier_attempt`: the new attempt's number is left in the record. -/
def beginCarrierAttempt : StatusRecord := { record with attempt := record.attempt + 1 }

def recordCarrierAccepted (attempt : UInt64) : StatusRecord :=
  if record.attempt ≠ attempt then record
  else publishRefusals { record with refusals := record.refusals.accepted }

def recordCarrierFailure (attempt : UInt64) (failure : HandshakeFailure)
    (now : Nat) : StatusRecord :=
  if record.attempt ≠ attempt then record
  else publishRefusals { record with refusals := record.refusals.failed failure now }

/-- The last section of `get_or_dial`. -/
def publishCarrier (carrier : Nat) : StatusRecord :=
  { record with
    currentCarrier := some carrier
    snapshot := { record.snapshot with carrierLive := true } }

def markCarrierDead (carrier : Nat) : StatusRecord :=
  if record.currentCarrier = some carrier then
    { record with
      currentCarrier := none
      snapshot := { record.snapshot with carrierLive := false } }
  else record

/-- The snapshot shows what the tracker holds. -/
structure Published (record : StatusRecord) : Prop where
  terminalReason : record.snapshot.terminalReason = record.refusals.stop
  refusals : record.snapshot.refusals = record.refusals.refusals

theorem publishRefusals_published : record.publishRefusals.Published := ⟨rfl, rfl⟩

end StatusRecord

end SplRust.Transport
