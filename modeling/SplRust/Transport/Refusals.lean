import Mathlib.Data.List.Chain
import SplRust.Lib.Numbered
import SplRust.Transport.Verdict

/-! The refusal count against its history: every count is a spaced selection of the
refusals recorded since the last acceptance, and every attempt records at most once. -/

namespace SplRust.Transport
open SplRust.Lib List Option RefusalTracker Guards

/-! ### The history behind the count -/

/-- No outcome of the attempt has been recorded. -/
def Unrecorded (attempt : Nat) (rs : List AttemptReply) : Prop :=
  ∀ res time current, AttemptReply.recorded attempt res time current ∉ rs

theorem Unrecorded.quiet {attempt : Nat} {replies : List AttemptReply}
    (unrecorded : Unrecorded attempt replies) : Unrecorded attempt (replies ++ [.quiet]) := by
  intro res time cur seen
  simp only [mem_append, mem_singleton, reduceCtorEq, or_false] at seen
  exact unrecorded res time cur seen

theorem Unrecorded.other {attempt oid : Nat} {replies : List AttemptReply}
    (unrecorded : Unrecorded attempt replies) (ne : attempt ≠ oid) (res : Outcome)
    (time : Nat) (cur : Bool) : Unrecorded attempt (replies ++ [.recorded oid res time cur]) := by
  intro late at' now seen
  simp only [mem_append, mem_singleton, AttemptReply.recorded.injEq, ne, false_and, or_false] at seen
  exact unrecorded late at' now seen

/-- The instants of the counted kind of outcome since the last acceptance. -/
def refusedSince (replies : List AttemptReply) : List Nat :=
  replies.foldl (fun times reply =>
    match reply with
    | .recorded _ .accepted _ true => []
    | .recorded _ (.failed .tlsRefused) time true => times ++ [time]
    | _ => times) []

/-- Successive instants are at least the refusal spacing apart. -/
def Spaced (times : List Nat) : Prop := times.IsChain fun early late => early + refusalSpacing ≤ late

section
variable (replies : List AttemptReply)
include replies

theorem refusedSince_quiet : refusedSince (replies ++ [.quiet]) = refusedSince replies := by simp [refusedSince]

theorem refusedSince_stale (attempt : Nat) (res : Outcome) (time : Nat) :
    refusedSince (replies ++ [.recorded attempt res time false]) = refusedSince replies := by
  simp [refusedSince]

theorem refusedSince_refused (attempt time : Nat) :
    refusedSince (replies ++ [.recorded attempt (.failed .tlsRefused) time true]) = refusedSince replies ++ [time] := by
  simp [refusedSince]

theorem refusedSince_failed (attempt : Nat) (failure : HandshakeFailure) (time : Nat) : (refusedSince replies).Sublist
      (refusedSince (replies ++ [.recorded attempt (.failed failure) time true])) := by
  cases failure with
  | tlsRefused =>
    rw [refusedSince_refused]
    exact sublist_append_left _ _
  | _ => simp [refusedSince]

end

/-- The tracker counts no more than a spaced selection of the refusals since the last
acceptance, and remembers the last of them. -/
def Counted (tracker : RefusalTracker) (rs : List AttemptReply) : Prop :=
  ∃ times, times.Sublist (refusedSince rs) ∧ Spaced times ∧
    times.getLast? = tracker.lastCounted ∧ tracker.refusals ≤ times.length

namespace Counted

theorem keep {tracker next : RefusalTracker} {replies later : List AttemptReply}
    (counted : Counted tracker replies) (since : (refusedSince replies).Sublist (refusedSince later))
    (refusals : next.refusals = tracker.refusals) (last : next.lastCounted = tracker.lastCounted) :
    Counted next later := by
  obtain ⟨times, chosen, spaced, newest, enough⟩ := counted
  exact ⟨times, chosen.trans since, spaced, newest.trans last.symm, by rw [refusals]; exact enough⟩

theorem accepted (tracker : RefusalTracker) (replies : List AttemptReply) : Counted tracker.accepted replies :=
  ⟨[], nil_sublist _, .nil, rfl, Nat.le_refl 0⟩

theorem failed {tracker : RefusalTracker} {replies : List AttemptReply}
    (counted : Counted tracker replies) (attempt : Nat) (failure : HandshakeFailure) (now : Nat) :
    Counted (tracker.failed failure now) (replies ++ [.recorded attempt (.failed failure) now true]) := by
  rcases tracker.failed_cases failure now with ⟨refusals, last, -⟩ | ⟨refused, counts, refusals, last, -⟩
  · exact counted.keep (refusedSince_failed replies attempt failure now) refusals last
  · obtain ⟨times, chosen, spaced, newest, _⟩ := counted
    subst refused
    refine ⟨times ++ [now], ?_, ?_, ?_, ?_⟩
    · rw [refusedSince_refused]
      exact chosen.append_right [now]
    · refine isChain_append.mpr ⟨spaced, .singleton now, ?_⟩
      intro early recent late only
      rw [newest] at recent
      simp only [head?_cons, mem_def, some.injEq] at recent only
      subst only
      simp only [RefusalTracker.counts, recent, ge_iff_le, decide_eq_true_eq] at counts
      have positive : 0 < refusalSpacing := by decide
      omega
    · rw [last, getLast?_append]
      rfl
    · rw [refusals, length_append, length_singleton]
      simp only [saturatingAdd32]
      omega

end Counted

/-! ### Every run -/

/-- What is still open about an attempt: an acceptance that is pending, or won by a task
that has not recorded it yet, has no recorded outcome. -/
def AttemptStage.Unsettled (attempt : Nat) (rs : List AttemptReply) : AttemptStage → Prop
  | .dialing => Unrecorded attempt rs
  | .failed _ => Unrecorded attempt rs
  | .settled => True
  | .carried guards =>
      (guards.acceptance = .pending → Unrecorded attempt rs ∧ ∀ side res, guards.verdict side ≠ .recording res) ∧
      ∀ side res, guards.verdict side = .recording res → Unrecorded attempt rs ∧
        ∀ other, other ≠ side → ∀ late, guards.verdict other ≠ .recording late

namespace AttemptStage
variable {attempt : Nat} {replies : List AttemptReply} {stage : AttemptStage}

theorem Unsettled.mono {later : List AttemptReply} (unsettled : stage.Unsettled attempt replies)
    (same : Unrecorded attempt replies → Unrecorded attempt later) : stage.Unsettled attempt later := by
  cases stage with
  | dialing | failed => exact same unsettled
  | settled => exact trivial
  | carried =>
    refine ⟨fun pend => ?_, fun side res recording => ?_⟩
    · exact ⟨same (unsettled.1 pend).1, (unsettled.1 pend).2⟩
    · exact ⟨same (unsettled.2 side res recording).1, (unsettled.2 side res recording).2⟩

theorem Moves.unsettled {next : AttemptStage} (moves : stage.Moves next)
    (unsettled : stage.Unsettled attempt replies) : next.Unsettled attempt replies := by
  cases moves with
  | dialFailed => exact unsettled
  | dialed =>
    refine ⟨fun _ => ⟨unsettled, ?_⟩, ?_⟩
    · intro side res
      cases side <;> simp [verdict]
    · intro side res recording
      cases side <;> simp [verdict] at recording
  | turned _ side _ _ lost =>
    obtain ⟨pend, recording⟩ := unsettled
    refine ⟨fun open_ => ?_, fun oid res won => ?_⟩
    · rw [acceptance_setVerdict] at open_
      refine ⟨(pend open_).1, fun oid res => ?_⟩
      by_cases same : oid = side
      · rw [same, verdict_setVerdict]
        exact lost res
      · rw [verdict_setVerdict_of_ne _ same]
        exact (pend open_).2 oid res
    · have ne : oid ≠ side := by
        rintro rfl
        rw [verdict_setVerdict] at won
        exact lost res won
      rw [verdict_setVerdict_of_ne _ ne] at won
      refine ⟨(recording oid res won).1, fun third apart late => ?_⟩
      by_cases same : third = side
      · rw [same, verdict_setVerdict]
        exact lost late
      · rw [verdict_setVerdict_of_ne _ same]
        exact (recording oid res won).2 third apart late
  | won guards side res pend =>
    obtain ⟨unrecorded, free⟩ := unsettled.1 pend
    refine ⟨fun open_ => ?_, fun oid late won => ⟨unrecorded, fun third apart last => ?_⟩⟩
    · cases res <;> cases open_
    · have chosen : oid = side := by
        by_contra ne
        change (guards.setVerdict side (.recording res)).verdict oid = _ at won
        rw [verdict_setVerdict_of_ne _ ne] at won
        exact free oid late won
      change (guards.setVerdict side (.recording res)).verdict third ≠ _
      rw [verdict_setVerdict_of_ne _ (chosen ▸ apart)]
      exact free third last

/-- The attempt that records has not recorded before, and is settled for good. -/
theorem Settles.unsettled {next : AttemptStage} {res : Outcome}
    (settles : stage.Settles res next) (unsettled : stage.Unsettled attempt replies) :
    Unrecorded attempt replies ∧ ∀ later, next.Unsettled attempt later := by
  cases settles with
  | dial => exact ⟨unsettled, fun _ => trivial⟩
  | task _ side res won =>
    obtain ⟨unrecorded, alone⟩ := unsettled.2 side res won
    refine ⟨unrecorded, fun later => ⟨fun open_ => ?_, fun oid late recording => ?_⟩⟩
    · rw [acceptance_setVerdict] at open_
      exact absurd won ((unsettled.1 open_).2 side res)
    · by_cases same : oid = side
      · rw [same, verdict_setVerdict] at recording
        cases recording
      · rw [verdict_setVerdict_of_ne _ same] at recording
        exact absurd recording (alone oid same late)

end AttemptStage

/-- What holds of the attempts and everything recorded so far. -/
structure Attempts.Tracked (world : Attempts) (rs : List AttemptReply) : Prop where
  newest : world.record.attempt = UInt64.ofNat world.attempts.length
  numbered : ∀ (attempt : Nat) en, world.attempts[attempt]? = some en → en.number = UInt64.ofNat (attempt + 1)
  published : world.record.Published
  unbegun : ∀ attempt, world.attempts.length ≤ attempt → Unrecorded attempt rs
  unsettled : ∀ (attempt : Nat) en, world.attempts[attempt]? = some en → en.stage.Unsettled attempt rs
  counted : Counted world.record.refusals rs

namespace Attempts
variable {world : Attempts}

theorem setStage_entry {attempt oid : Nat} {stage : AttemptStage} {en : Attempt}
    (fnd : (world.setStage attempt stage).attempts[oid]? = some en) :
    ∃ pre, world.attempts[oid]? = some pre ∧ en.number = pre.number ∧
      (attempt = oid ∧ en.stage = stage ∨ attempt ≠ oid ∧ en.stage = pre.stage) := by
  simp only [setStage, getElem?_modify, Option.map_eq_map, map_eq_some_iff] at fnd
  obtain ⟨pre, hp, changed⟩ := fnd
  by_cases same : attempt = oid
  · rw [if_pos same] at changed
    subst changed
    exact ⟨pre, hp, rfl, Or.inl ⟨same, rfl⟩⟩
  · rw [if_neg same] at changed
    subst changed
    exact ⟨pre, hp, rfl, Or.inr ⟨same, rfl⟩⟩

@[simp] theorem setStage_length (world : Attempts) (attempt : Nat) (stage : AttemptStage) :
    (world.setStage attempt stage).attempts.length = world.attempts.length := by
  simp [setStage]

@[simp] theorem setStage_record (world : Attempts) (attempt : Nat) (stage : AttemptStage) :
    (world.setStage attempt stage).record = world.record := rfl

theorem Tracked.start : Tracked {} [] where
  newest := rfl
  numbered := by simp
  published := ⟨rfl, rfl⟩
  unbegun := by
    intro attempt _ res time cur seen
    cases seen
  unsettled := by simp
  counted := ⟨[], nil_sublist _, .nil, rfl, Nat.le_refl 0⟩

theorem Tracked.began {replies : List AttemptReply} (tracked : world.Tracked replies) : Tracked { world with
      record := world.record.beginCarrierAttempt
      attempts := world.attempts ++ [{ number := world.record.attempt + 1 }] }
      (replies ++ [.quiet]) := by
  constructor
  case newest =>
    simp only [StatusRecord.beginCarrierAttempt, tracked.newest, length_append,
      length_singleton, UInt64.ofNat_add, UInt64.ofNat_one]
  case numbered =>
    intro attempt en fnd
    rcases getElem?_concat.mp fnd with earlier | ⟨rfl, rfl⟩
    · exact tracked.numbered attempt en earlier
    · rw [UInt64.ofNat_add, UInt64.ofNat_one, ← tracked.newest]
  case published => exact ⟨tracked.published.terminalReason, tracked.published.refusals⟩
  case unbegun =>
    intro attempt beyond
    rw [length_append, length_singleton] at beyond
    exact (tracked.unbegun attempt (by omega)).quiet
  case unsettled =>
    intro attempt en fnd
    rcases getElem?_concat.mp fnd with earlier | ⟨rfl, rfl⟩
    · exact (tracked.unsettled attempt en earlier).mono Unrecorded.quiet
    · exact (tracked.unbegun _ (Nat.le_refl _)).quiet
  case counted => exact tracked.counted.keep (by rw [refusedSince_quiet]) rfl rfl

theorem Tracked.moved {replies : List AttemptReply} {attempt : Nat} {en : Attempt}
    {record : StatusRecord} {stage : AttemptStage} (tracked : world.Tracked replies)
    (hp : world.attempts[attempt]? = some en) (moves : en.stage.Moves stage)
    (kept : record = world.record ∨ record = world.record.latchTlsAccessDenied) :
    Tracked ({ world with record := record }.setStage attempt stage) (replies ++ [.quiet]) := by
  constructor
  case newest =>
    rw [setStage_length, setStage_record]
    rcases kept with rfl | rfl
    · exact tracked.newest
    · exact tracked.newest
  case numbered =>
    intro oid later fnd
    obtain ⟨pre, earlier, number, -⟩ := setStage_entry fnd
    rw [number]
    exact tracked.numbered oid pre earlier
  case published =>
    rcases kept with rfl | rfl
    · exact tracked.published
    · exact StatusRecord.publishRefusals_published _
  case unbegun =>
    intro oid beyond
    rw [setStage_length] at beyond
    exact (tracked.unbegun oid beyond).quiet
  case unsettled =>
    intro oid later fnd
    obtain ⟨pre, earlier, -, ⟨rfl, changed⟩ | ⟨-, same⟩⟩ := setStage_entry fnd
    · rw [changed]
      exact (moves.unsettled (tracked.unsettled attempt en hp)).mono Unrecorded.quiet
    · rw [same]
      exact (tracked.unsettled oid pre earlier).mono Unrecorded.quiet
  case counted =>
    have since : (refusedSince replies).Sublist (refusedSince (replies ++ [.quiet])) := by rw [refusedSince_quiet]
    rcases kept with rfl | rfl
    · exact tracked.counted.keep since rfl rfl
    · refine tracked.counted.keep since ?_ ?_
      · exact latch_refusals _ _
      · exact latch_lastCounted _ _

end Attempts

namespace StatusRecord
variable {record : StatusRecord} {number : UInt64}

theorem recordOutcome_stale (stale : record.attempt ≠ number) (res : Outcome) (now : Nat) :
    record.recordOutcome number res now = record := by
  cases res with
  | accepted | failed => exact if_pos stale

theorem recordOutcome_accepted (cur : record.attempt = number) (now : Nat) :
    record.recordOutcome number .accepted now = publishRefusals { record with refusals := record.refusals.accepted } :=
  if_neg (not_not.mpr cur)

theorem recordOutcome_failed (cur : record.attempt = number) (failure : HandshakeFailure)
    (now : Nat) : record.recordOutcome number (.failed failure) now =
      publishRefusals { record with refusals := record.refusals.failed failure now } :=
  if_neg (not_not.mpr cur)

theorem recordOutcome_attempt (record : StatusRecord) (number : UInt64) (res : Outcome)
    (now : Nat) : (record.recordOutcome number res now).attempt = record.attempt := by
  by_cases cur : record.attempt = number
  · cases res with
    | accepted => rw [recordOutcome_accepted cur]; rfl
    | failed => rw [recordOutcome_failed cur]; rfl
  · rw [recordOutcome_stale cur]

theorem recordOutcome_published (published : record.Published) (number : UInt64) (res : Outcome)
    (now : Nat) : (record.recordOutcome number res now).Published := by
  by_cases cur : record.attempt = number
  · cases res with
    | accepted => rw [recordOutcome_accepted cur]; exact publishRefusals_published _
    | failed => rw [recordOutcome_failed cur]; exact publishRefusals_published _
  · rwa [recordOutcome_stale cur]

theorem recordOutcome_counted {replies : List AttemptReply}
    (counted : Counted record.refusals replies) (attempt : Nat) (number : UInt64)
    (res : Outcome) (now : Nat) : Counted (record.recordOutcome number res now).refusals
      (replies ++ [.recorded attempt res now (decide (record.attempt = number))]) := by
  by_cases cur : record.attempt = number
  · rw [decide_eq_true cur]
    cases res with
    | accepted =>
      rw [recordOutcome_accepted cur]
      exact Counted.accepted _ _
    | failed failure =>
      rw [recordOutcome_failed cur]
      exact counted.failed attempt failure now
  · rw [decide_eq_false cur, recordOutcome_stale cur]
    exact counted.keep (by rw [refusedSince_stale]) rfl rfl

end StatusRecord

namespace Attempts
variable {world : Attempts} {replies : List AttemptReply}

theorem Tracked.settled {attempt : Nat} {en : Attempt} {res : Outcome} {stage : AttemptStage}
    (tracked : world.Tracked replies) (hp : world.attempts[attempt]? = some en)
    (settles : en.stage.Settles res stage) : Tracked (world.settle attempt en.number res stage).1
      (replies ++ [(world.settle attempt en.number res stage).2]) := by
  have later : ∀ oid, oid ≠ attempt → Unrecorded oid replies →
      Unrecorded oid (replies ++ [(world.settle attempt en.number res stage).2]) :=
    fun oid ne unrecorded => unrecorded.other ne _ _ _
  have begun : attempt < world.attempts.length := (List.getElem?_eq_some_iff.mp hp).1
  constructor
  case newest =>
    simp only [settle, setStage_length, setStage_record, StatusRecord.recordOutcome_attempt]
    exact tracked.newest
  case numbered =>
    intro oid last fnd
    obtain ⟨pre, earlier, number, -⟩ := setStage_entry fnd
    rw [number]
    exact tracked.numbered oid pre earlier
  case published => exact StatusRecord.recordOutcome_published tracked.published _ _ _
  case unbegun =>
    intro oid beyond
    simp only [settle, setStage_length] at beyond
    exact later oid (by omega) (tracked.unbegun oid beyond)
  case unsettled =>
    intro oid last fnd
    obtain ⟨pre, earlier, -, ⟨rfl, changed⟩ | ⟨ne, same⟩⟩ := setStage_entry fnd
    · rw [changed]
      exact (settles.unsettled (tracked.unsettled attempt en hp)).2 _
    · rw [same]
      exact (tracked.unsettled oid pre earlier).mono (later oid (Ne.symm ne))
  case counted => exact StatusRecord.recordOutcome_counted tracked.counted attempt _ _ _

theorem Tracked.step {next : Attempts} {call : AttemptCall} {rep : AttemptReply}
    (tracked : world.Tracked replies) (hs : world.step call = some (next, rep)) :
    next.Tracked (replies ++ [rep]) := by
  cases step_effect hs with
  | began => exact tracked.began
  | waited =>
    exact ⟨tracked.newest, tracked.numbered, tracked.published,
      fun attempt beyond => (tracked.unbegun attempt beyond).quiet,
      fun attempt en fnd => (tracked.unsettled attempt en fnd).mono Unrecorded.quiet,
      tracked.counted.keep (by rw [refusedSince_quiet]) rfl rfl⟩
  | moved _ hp moves kept => exact tracked.moved hp moves kept
  | settled _ hp settles => exact tracked.settled hp settles

theorem Tracked.run {calls : List AttemptCall}
    (ran : attemptMachine.run {} calls = some (world, replies)) : world.Tracked replies :=
  attemptMachine.run_history (motive := fun world _ replies => world.Tracked replies)
    Tracked.start (fun tracked hs => tracked.step hs) ran

end Attempts

namespace StatusRecord
variable {record : StatusRecord}

theorem latchTlsAccessDenied_refusals (published : record.Published) :
    record.latchTlsAccessDenied.snapshot.refusals = record.snapshot.refusals := by
  rw [published.refusals]
  exact latch_refusals _ _

theorem latchTlsAccessDenied_terminalReason (published : record.Published) :
    record.latchTlsAccessDenied.snapshot.terminalReason = record.snapshot.terminalReason ∨
      record.snapshot.terminalReason = none ∧
        record.latchTlsAccessDenied.snapshot.terminalReason = some .tlsAccessDenied := by
  rw [published.terminalReason]
  exact latch_stop _ _

/-- What recording an outcome can do to the published count and stop. -/
theorem recordOutcome_snapshot (published : record.Published) (number : UInt64) (res : Outcome) (now : Nat) :
    ((record.recordOutcome number res now).snapshot.refusals ≠ record.snapshot.refusals →
        record.attempt = number ∧ (res = .accepted ∨ res = .failed .tlsRefused)) ∧
      ((record.recordOutcome number res now).snapshot.terminalReason = record.snapshot.terminalReason ∨
        record.snapshot.terminalReason = none ∧ ((record.recordOutcome number res now).snapshot.terminalReason =
              some .tlsAccessDenied ∨ (record.recordOutcome number res now).refusals.refusals ≥ refusalLimit)) := by
  by_cases cur : record.attempt = number
  · rw [published.refusals, published.terminalReason]
    cases res with
    | accepted =>
      rw [recordOutcome_accepted cur]
      exact ⟨fun _ => ⟨cur, Or.inl rfl⟩, Or.inl rfl⟩
    | failed failure =>
      rw [recordOutcome_failed cur]
      simp only [publishRefusals]
      rcases record.refusals.failed_cases failure now with ⟨same, -, stop⟩ | ⟨refused, -, -, -, stop⟩
      · refine ⟨fun changed => absurd same changed, ?_⟩
        rcases stop with kept | ⟨unset, denied⟩
        · exact Or.inl kept
        · exact Or.inr ⟨unset, Or.inl denied⟩
      · refine ⟨fun _ => ⟨cur, Or.inr (by rw [refused])⟩, ?_⟩
        rcases stop with kept | ⟨unset, -, reached⟩
        · exact Or.inl kept
        · exact Or.inr ⟨unset, Or.inr reached⟩
  · rw [recordOutcome_stale cur]
    exact ⟨fun changed => absurd rfl changed, Or.inl rfl⟩

end StatusRecord

namespace Attempts
variable {world next : Attempts} {replies : List AttemptReply} {call : AttemptCall} {rep : AttemptReply}

section
variable (tracked : world.Tracked replies)
include tracked

theorem Tracked.newer_begun {attempt : Nat} {en : Attempt} (hp : world.attempts[attempt]? = some en)
    (cur : world.record.attempt = en.number) : 2 ^ 64 ∣ world.attempts.length - (attempt + 1) := by
  have begun : attempt < world.attempts.length := (List.getElem?_eq_some_iff.mp hp).1
  rw [tracked.newest, tracked.numbered attempt en hp] at cur
  have residues := congrArg UInt64.toNat cur
  rw [UInt64.toNat_ofNat', UInt64.toNat_ofNat'] at residues
  omega

section
variable (hs : world.step call = some (next, rep))
include hs

theorem Tracked.stop_kept {reason : HandshakeStop} (stopped : world.record.snapshot.terminalReason = some reason) :
    next.record.snapshot.terminalReason = some reason := by
  cases step_effect hs with
  | began | waited => exact stopped
  | moved _ _ _ kept =>
    rw [setStage_record]
    rcases kept with rfl | rfl
    · exact stopped
    · rcases StatusRecord.latchTlsAccessDenied_terminalReason tracked.published with
        same | ⟨unset, -⟩
      · exact same.trans stopped
      · simp [unset] at stopped
  | settled =>
    rcases (StatusRecord.recordOutcome_snapshot tracked.published _ _ world.now).2 with
      same | ⟨unset, -⟩
    · exact same.trans stopped
    · simp [unset] at stopped

/-- Only an outcome of the newest attempt changes the count: an acceptance or a counted
refusal, recorded by an attempt that has not recorded before. -/
theorem Tracked.count_changed (changed : next.record.snapshot.refusals ≠ world.record.snapshot.refusals) :
    ∃ attempt res, rep = .recorded attempt res world.now true ∧
      Unrecorded attempt replies ∧ 2 ^ 64 ∣ world.attempts.length - (attempt + 1) ∧
      (res = .accepted ∨ res = .failed .tlsRefused) := by
  cases step_effect hs with
  | began | waited => exact absurd rfl changed
  | moved _ _ _ kept =>
    rw [setStage_record] at changed
    rcases kept with rfl | rfl
    · exact absurd rfl changed
    · exact absurd (StatusRecord.latchTlsAccessDenied_refusals tracked.published) changed
  | settled attempt hp settles =>
    obtain ⟨cur, kind⟩ := (StatusRecord.recordOutcome_snapshot tracked.published _ _ world.now).1 changed
    refine ⟨attempt, _, ?_, ?_, tracked.newer_begun hp cur, kind⟩
    · simp only [settle, decide_eq_true cur]
    · exact (settles.unsettled (tracked.unsettled attempt _ hp)).1

/-- The bridge stops for refusals only behind enough spaced ones. -/
theorem Tracked.exhausted (unset : world.record.snapshot.terminalReason ≠ some .refusalsExhausted)
    (set : next.record.snapshot.terminalReason = some .refusalsExhausted) :
    ∃ times, times.Sublist (refusedSince (replies ++ [rep])) ∧ refusalLimit ≤ times.length ∧ Spaced times := by
  have reached : next.record.refusals.refusals ≥ refusalLimit := by
    cases step_effect hs with
    | began | waited => exact absurd set unset
    | moved _ _ _ kept =>
      rw [setStage_record] at set
      rcases kept with rfl | rfl
      · exact absurd set unset
      · rcases StatusRecord.latchTlsAccessDenied_terminalReason tracked.published with
          same | ⟨-, denied⟩
        · exact absurd (same.symm.trans set) unset
        · simp [denied] at set
    | settled =>
      rcases (StatusRecord.recordOutcome_snapshot tracked.published _ _ world.now).2 with
        same | ⟨-, denied | reached⟩
      · exact absurd (same.symm.trans set) unset
      · exact absurd (denied.symm.trans set) (by simp)
      · exact reached
  obtain ⟨times, chosen, spaced, -, enough⟩ := (tracked.step hs).counted
  exact ⟨times, chosen, reached.trans enough, spaced⟩

end

end

end Attempts

/-- Every step of every run: the count changes only by an acceptance or a refusal of an attempt that
has recorded nothing before, and no newer attempt has begun unless the 64-bit attempt number has come
round; a stop stays; and it is set for refusals only behind enough spaced ones since the last
acceptance. -/
theorem refusal_verdicts {calls : List AttemptCall} {mid next : Attempts}
    {early : List AttemptReply} {call : AttemptCall} {reply : AttemptReply}
    (ran : attemptMachine.run {} calls = some (mid, early))
    (stepped : attemptMachine.step mid call = some (next, reply)) :
    (next.record.snapshot.refusals ≠ mid.record.snapshot.refusals →
      ∃ attempt outcome, reply = .recorded attempt outcome mid.now true ∧
        Unrecorded attempt early ∧ 2 ^ 64 ∣ mid.attempts.length - (attempt + 1) ∧
        (outcome = .accepted ∨ outcome = .failed .tlsRefused)) ∧
    (∀ reason more last late, mid.record.snapshot.terminalReason = some reason →
      attemptMachine.run mid more = some (last, late) → last.record.snapshot.terminalReason = some reason) ∧
    (mid.record.snapshot.terminalReason ≠ some .refusalsExhausted →
      next.record.snapshot.terminalReason = some .refusalsExhausted →
        ∃ times, times.Sublist (refusedSince (early ++ [reply])) ∧ refusalLimit ≤ times.length ∧ Spaced times) := by
  have tracked := Attempts.Tracked.run ran
  refine ⟨tracked.count_changed stepped, ?_, tracked.exhausted stepped⟩
  intro reason more last late stopped later
  -- The stop is carried along together with the history that the step lemma needs.
  have carried : (∃ history, last.Tracked history) ∧ last.record.snapshot.terminalReason = some reason :=
    attemptMachine.run_keeps (motive := fun world => (∃ history, world.Tracked history) ∧
        world.record.snapshot.terminalReason = some reason)
      ⟨⟨early, tracked⟩, stopped⟩
      (fun held one => by
        obtain ⟨⟨_, before⟩, set⟩ := held
        exact ⟨⟨_, before.step one⟩, before.stop_kept one set⟩) later
  exact carried.2

/-- Attempts whose dial is refused, one spacing apart. -/
def refusedDials (count : Nat) : List AttemptCall :=
  (List.range count).flatMap fun attempt =>
    [.beginAttempt, .dialFailed attempt .tlsRefused, .recordDial attempt, .wait refusalSpacing]

/-- The seventh spaced refusal stops the bridge. -/
theorem refusal_verdicts_seventh : ∃ mid early next reply,
      attemptMachine.run {} (refusedDials 6 ++ [.beginAttempt, .dialFailed 6 .tlsRefused]) = some (mid, early) ∧
      attemptMachine.step mid (.recordDial 6) = some (next, reply) ∧
      next.record.snapshot.terminalReason = some .refusalsExhausted ∧
      ∃ times, times.Sublist (refusedSince (early ++ [reply])) ∧ refusalLimit ≤ times.length ∧ Spaced times := by
  have evaluated : ((attemptMachine.run {} (refusedDials 6 ++
      [.beginAttempt, .dialFailed 6 .tlsRefused])).bind fun ran =>
        (attemptMachine.step ran.1 (.recordDial 6)).map fun stepped =>
          (ran.1.record.snapshot.terminalReason, stepped.1.record.snapshot.terminalReason)) =
      some (none, some .refusalsExhausted) := by decide +kernel
  obtain ⟨⟨mid, early⟩, ran, rest⟩ := bind_eq_some_iff.mp evaluated
  obtain ⟨⟨next, reply⟩, stepped, reasons⟩ := map_eq_some_iff.mp rest
  obtain ⟨unset, set⟩ := Prod.ext_iff.mp reasons
  exact ⟨mid, early, next, reply, ran, stepped, set,
    (refusal_verdicts ran stepped).2.2 (by simp [show mid.record.snapshot.terminalReason = none from unset]) set⟩

namespace Attempts

/-- A dial that does not reach the journal leaves the count and the other attempts alone. -/
theorem unreachable_dial (world : Attempts) : ∃ next replies,
    attemptMachine.run world [.beginAttempt, .dialFailed world.attempts.length .unrelated,
        .recordDial world.attempts.length] = some (next, replies) ∧ next.attempts.length = world.attempts.length + 1 ∧
      (∀ attempt < world.attempts.length, next.attempts[attempt]? = world.attempts[attempt]?) ∧
      next.record.refusals.refusals = world.record.refusals.refusals ∧
      next.record.refusals.lastCounted = world.record.refusals.lastCounted := by
  let number := world.record.attempt + 1
  let begun : Attempts := { world with
    record := world.record.beginCarrierAttempt
    attempts := world.attempts ++ [⟨number, .dialing⟩] }
  let failed := begun.setStage world.attempts.length (.failed .unreachable)
  have dialing : begun.attempts[world.attempts.length]? = some ⟨number, .dialing⟩ := getElem?_concat_length
  have wait : failed.attempts[world.attempts.length]? = some ⟨number, .failed .unreachable⟩ := by
    simp [failed, setStage, dialing]
  have dial : begun.step (.dialFailed world.attempts.length .unrelated) = some (failed, .quiet) := by
    simp only [step, dialing]
    rfl
  have record : failed.step (.recordDial world.attempts.length) =
      some (failed.settle world.attempts.length number (.failed .unreachable) .settled) := by
    simp only [step, wait]
  refine ⟨(failed.settle world.attempts.length number (.failed .unreachable) .settled).1, _,
    attemptMachine.run_cons.mpr ⟨begun, .quiet, _, rfl, attemptMachine.run_cons.mpr
      ⟨failed, .quiet, _, dial, attemptMachine.run_cons.mpr ⟨_, _, [], record, rfl, rfl⟩, rfl⟩,
      rfl⟩, ?_, ?_, ?_⟩
  · simp [settle, failed, begun]
  · intro attempt earlier
    have ne : world.attempts.length ≠ attempt := by omega
    simp [settle, failed, begun, setStage, ne, getElem?_append_left earlier]
  · have cur : failed.record.attempt = number := rfl
    simp only [settle, setStage_record, StatusRecord.recordOutcome_failed cur]
    exact ⟨rfl, rfl⟩

theorem unreachable_behind (count : Nat) : ∃ calls world replies, attemptMachine.run {} calls = some (world, replies) ∧
      world.attempts.length = count + 1 ∧ world.attempts[0]? = some ⟨1, .carried {}⟩ ∧
      world.record.refusals.refusals = 0 ∧ world.record.refusals.lastCounted = none := by
  induction count with
  | zero => exact ⟨[.beginAttempt, .dialed 0], _, _, rfl, rfl, rfl, rfl, rfl⟩
  | succ count ih =>
    obtain ⟨_, world, _, ran, length, carried, uncounted, never⟩ := ih
    obtain ⟨next, _, failed, longer, kept, refusals, last⟩ := world.unreachable_dial
    exact ⟨_, next, _, attemptMachine.run_append.mpr ⟨_, _, _, ran, failed, rfl⟩,
      by rw [longer, length], (kept 0 (by omega)).trans carried, refusals.trans uncounted,
      last.trans never⟩

end Attempts

/-- When the attempt number has come round, a carrier that was superseded long ago is
counted as the newest. -/
theorem refusal_counted_after_wrap : ∃ calls mid early next, attemptMachine.run {} calls = some (mid, early) ∧
      attemptMachine.step mid (.proceed 0 .reader) = some (next, .recorded 0 (.failed .tlsRefused) mid.now true) ∧
      mid.attempts.length = 2 ^ 64 + 1 ∧ mid.record.snapshot.refusals = 0 ∧
      next.record.snapshot.refusals = 1 := by
  obtain ⟨calls, world, replies, ran, length, carried, uncounted, never⟩ := Attempts.unreachable_behind (2 ^ 64)
  have tracked := Attempts.Tracked.run ran
  have current : world.record.attempt = 1 := by
    rw [tracked.newest, length]
    rfl
  let seen := world.setStage 0 (.carried ⟨.pending, .resolving (.failed .tlsRefused), .idle⟩)
  let won := seen.setStage 0 (.carried ⟨.failed, .recording (.failed .tlsRefused), .idle⟩)
  have unread : seen.attempts[0]? = some ⟨1, .carried ⟨.pending, .resolving (.failed .tlsRefused), .idle⟩⟩ := by
    simp [seen, Attempts.setStage, carried]
  have resolved : won.attempts[0]? = some ⟨1, .carried ⟨.failed, .recording (.failed .tlsRefused), .idle⟩⟩ := by
    simp [won, Attempts.setStage, unread]
  have read : attemptMachine.step world (.read 0 false (.failed (.alertReceived 80))) = some (seen, .quiet) := by
    simp only [attemptMachine, Attempts.step, carried]
    rfl
  have resolve : attemptMachine.step seen (.proceed 0 .reader) = some (won, .quiet) := by
    simp only [attemptMachine, Attempts.step, unread]
    rfl
  have record : attemptMachine.step won (.proceed 0 .reader) =
      some (won.settle 0 1 (.failed .tlsRefused) (.carried ⟨.failed, .idle, .idle⟩)) := by
    simp only [attemptMachine, Attempts.step, resolved]
    rfl
  have settled : attemptMachine.run {} (calls ++ [.read 0 false (.failed (.alertReceived 80)),
      .proceed 0 .reader]) = some (won, replies ++ [.quiet, .quiet]) :=
    attemptMachine.run_append.mpr ⟨_, _, _, ran, attemptMachine.run_cons.mpr
      ⟨seen, .quiet, _, read, attemptMachine.run_cons.mpr ⟨won, .quiet, [], resolve, rfl, rfl⟩, rfl⟩, rfl⟩
  refine ⟨_, won, _, (won.settle 0 1 (.failed .tlsRefused)
    (.carried ⟨.failed, .idle, .idle⟩)).1, settled, ?_, ?_, ?_, ?_⟩
  · rw [record]
    simp only [Attempts.settle]
    rw [show decide (won.record.attempt = 1) = true from decide_eq_true current]
  · simp [won, seen, length]
  · exact tracked.published.refusals.trans uncounted
  · simp only [Attempts.settle, Attempts.setStage_record,
      StatusRecord.recordOutcome_failed (show won.record.attempt = 1 from current)]
    show (world.record.refusals.failed .tlsRefused won.now).refusals = 1
    rw [failed_first never, uncounted]
    rfl

end SplRust.Transport
