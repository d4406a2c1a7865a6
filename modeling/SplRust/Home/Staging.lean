import SplRust.Core.Window
import SplRust.Lib.Machine

/-! Write staging of one stream (`StreamStatus` of `spl-home/src/connection.rs`): the writer
reserves room in a bounded count, the driver releases it and wakes the writer. Both calls are
given twice: as functions, and cut at their atomic accesses and lock sections, where the other
side may come in between. -/

namespace SplRust.Home
open SplRust.Lib SplRust.Core Option

inductive StreamLife where
  | live
  | reset
  | gone
  deriving DecidableEq, Repr

def maxStagedWriteBytesPerStream : Nat := initialWindow

structure StreamStatus where
  state : StreamLife := .live
  stagedBytes : Nat := 0
  writeWaker : Option Nat := none
  deriving DecidableEq, Repr

namespace StreamStatus

def reserveStaging (status : StreamStatus) (requested waker : Nat) : StreamStatus × Nat :=
  let available := maxStagedWriteBytesPerStream - status.stagedBytes
  if available = 0 then ({ status with writeWaker := some waker }, 0)
  else
    let granted := min requested available
    ({ status with stagedBytes := status.stagedBytes + granted }, granted)

def releaseStaging (status : StreamStatus) (bytes : Nat) : StreamStatus :=
  { status with stagedBytes := status.stagedBytes - bytes, writeWaker := none }

end StreamStatus

/-- Where the writer is in `reserve_staging`. -/
inductive ReservePoint where
  | idle
  | load (requested waker : Nat)
  | loaded (staged requested waker : Nat)
  deriving DecidableEq, Repr

/-- Where the driver is in `release_staging`. -/
inductive ReleasePoint where
  | idle
  | load (bytes : Nat)
  | loaded (staged bytes : Nat)
  | swapped
  deriving DecidableEq, Repr

structure Staging where
  status : StreamStatus := {}
  writer : ReservePoint := .idle
  driver : ReleasePoint := .idle
  /-- Bytes that were granted and that no release was called for yet. -/
  reserved : Nat := 0
  /-- The waker of a reservation that returned 0, until it is woken or the next call. -/
  waiting : Option Nat := none
  deriving DecidableEq, Repr

/-- A step of one of the two sides; `fails` says that a weak compare-exchange fails even if
the value is the expected one. -/
inductive StagingStep where
  | reserve (requested waker : Nat)
  | writer (fails : Bool)
  | release (bytes : Nat)
  | driver (fails : Bool)
  deriving DecidableEq, Repr

namespace Staging

variable (state : Staging)

def stage (stagedBytes : Nat) : Staging :=
  { state with status := { state.status with stagedBytes := stagedBytes } }

/-- The next step of `reserve_staging`. -/
def writerStep (fails : Bool) : Option Staging :=
  match state.writer with
  | .idle => none
  | .load requested waker => some { state with writer := .loaded state.status.stagedBytes requested waker }
  | .loaded staged requested waker =>
      let available := maxStagedWriteBytesPerStream - staged
      if available = 0 then
        some { state with
          status := { state.status with writeWaker := some waker }
          writer := .idle, waiting := some waker }
      else
        let granted := min requested available
        if fails ∨ state.status.stagedBytes ≠ staged then
          some { state with writer := .loaded state.status.stagedBytes requested waker }
        else
          some { state.stage (staged + granted) with writer := .idle, reserved := state.reserved + granted }

/-- The next step of `release_staging`. -/
def driverStep (fails : Bool) : Option Staging :=
  match state.driver with
  | .idle => none
  | .load bytes => some { state with driver := .loaded state.status.stagedBytes bytes }
  | .loaded staged bytes =>
      if fails ∨ state.status.stagedBytes ≠ staged then
        some { state with driver := .loaded state.status.stagedBytes bytes }
      else some { state.stage (staged - bytes) with driver := .swapped }
  | .swapped =>
      some { state with
        status := { state.status with writeWaker := none }
        driver := .idle
        waiting := if state.waiting = state.status.writeWaker then none else state.waiting }

/-- The writer calls with something to write; the driver releases what was reserved. -/
def step : StagingStep → Option Staging
  | .reserve requested waker =>
      if state.writer = .idle ∧ requested ≠ 0 then
        some { state with writer := .load requested waker, waiting := none }
      else none
  | .writer fails => state.writerStep fails
  | .release bytes =>
      if state.driver = .idle ∧ bytes ≤ state.reserved then
        some { state with driver := .load bytes, reserved := state.reserved - bytes }
      else none
  | .driver fails => state.driverStep fails

end Staging

/-- All interleavings of the two sides. -/
def stagingMachine : Machine Staging StagingStep Unit where
  step state label := (state.step label).map fun next => (next, ())

namespace Staging

theorem reserve_uninterrupted (s : Staging) {requested : Nat} (waker : Nat)
    (idle : s.writer = .idle) (nonempty : requested ≠ 0) :
    ∃ last, stagingMachine.run s [.reserve requested waker, .writer false, .writer false] =
        some (last, [(), (), ()]) ∧ last.status = (s.status.reserveStaging requested waker).1 ∧
      last.reserved = s.reserved + (s.status.reserveStaging requested waker).2 := by
  simp only [StreamStatus.reserveStaging]
  by_cases full : maxStagedWriteBytesPerStream - s.status.stagedBytes = 0
  · simp [Machine.run, stagingMachine, step, idle, nonempty, writerStep, full]
  · simp [Machine.run, stagingMachine, step, idle, nonempty, writerStep, full, stage]

theorem release_uninterrupted (s : Staging) {bs : Nat} (idle : s.driver = .idle)
    (owed : bs ≤ s.reserved) : ∃ last, stagingMachine.run s
        [.release bs, .driver false, .driver false, .driver false] = some (last, [(), (), (), ()]) ∧
      last.status = s.status.releaseStaging bs ∧ last.driver = .idle := by
  simp [Machine.run, stagingMachine, step, idle, owed, driverStep, stage, StreamStatus.releaseStaging]

def registers (state : Staging) : StagingStep → Bool
  | .writer _ =>
      match state.writer with
      | .loaded staged _ _ => maxStagedWriteBytesPerStream - staged == 0
      | _ => false
  | _ => false

/-- A waker is registered only where a release is still to come: bytes are staged, or the
release that took the last of them is at its lock section. -/
def timely (state : Staging) (label : StagingStep) : Bool :=
  !state.registers label || state.status.stagedBytes != 0 || state.driver == .swapped

/-- A waiting writer's waker is in the slot, and if nothing is staged the driver is about to
take it. -/
structure Waits (s : Staging) : Prop where
  called : s.writer ≠ .idle → s.waiting = none
  slot : ∀ waker, s.waiting = some waker → s.status.writeWaker = some waker
  owed : s.waiting ≠ none → s.status.stagedBytes = 0 → s.driver = .swapped

namespace Waits
variable {s next : Staging}

theorem of_none (none_ : s.waiting = none) : s.Waits where
  called _ := none_
  slot waker waiting := by
    rw [none_] at waiting
    cases waiting
  owed waiting := absurd none_ waiting

theorem writerStep {fails : Bool} (waits : s.Waits)
    (timely : s.timely (.writer fails) = true) (hs : s.writerStep fails = some next) : next.Waits := by
  revert hs
  fun_cases Staging.writerStep s fails with
  | case1 => rintro ⟨⟩
  | case3 staged _ _ at_ _ full =>
    rintro ⟨⟩
    have full : maxStagedWriteBytesPerStream - staged = 0 := full
    refine ⟨fun working => absurd rfl working, fun waker waiting => waiting, fun _ empty => ?_⟩
    have empty : s.status.stagedBytes = 0 := empty
    have registers : s.registers (.writer fails) = true := by simp [Staging.registers, at_, full]
    simpa [Staging.timely, registers, empty] using timely
  | case2 _ _ at_ | case4 _ _ _ at_ | case5 _ _ _ at_ =>
    rintro ⟨⟩
    exact of_none (waits.called (by rw [at_]; exact ReservePoint.noConfusion))

theorem driverStep {fails : Bool} (waits : s.Waits)
    (hs : s.driverStep fails = some next) : next.Waits := by
  revert hs
  fun_cases Staging.driverStep s fails with
  | case1 => rintro ⟨⟩
  | case2 _ at_ | case3 _ _ at_ =>
    rintro ⟨⟩
    refine ⟨waits.called, waits.slot, fun waiting empty => ?_⟩
    have swapped := waits.owed waiting empty
    rw [at_] at swapped
    cases swapped
  | case4 =>
    rintro ⟨⟩
    exact ⟨waits.called, waits.slot, fun _ _ => rfl⟩
  | case5 =>
    -- Whoever waits has its waker in the slot, so it is woken here.
    rintro ⟨⟩
    apply of_none
    cases waiting : s.waiting with
    | none => exact ite_self _
    | some waker => exact if_pos (waits.slot waker waiting).symm

theorem step {label : StagingStep} (waits : s.Waits) (timely : s.timely label = true)
    (hs : s.step label = some next) : next.Waits := by
  revert hs
  fun_cases Staging.step s label with
  | case1 =>
    rintro ⟨⟩
    exact of_none rfl
  | case3 => exact waits.writerStep timely
  | case4 _ calls =>
    rintro ⟨⟩
    refine ⟨waits.called, waits.slot, fun waiting empty => ?_⟩
    have swapped := waits.owed waiting empty
    rw [calls.1] at swapped
    cases swapped
  | case6 => exact waits.driverStep
  | _ => rintro ⟨⟩

end Waits

/-- In every interleaving in which wakers are registered in time, a writer that waits although
nothing is staged is woken by the driver's very next step. -/
theorem waiting_writer_is_woken {labels : List StagingStep} {last : Staging} {replies : List Unit} {waker : Nat}
    (ran : (stagingMachine.restrict timely).run {} labels = some (last, replies))
    (waiting : last.waiting = some waker) (empty : last.status.stagedBytes = 0) :
    last.driver = .swapped ∧ last.status.writeWaker = some waker ∧
      ∀ fails next, last.step (.driver fails) = some next → next.waiting = none := by
  have waits : last.Waits := by
    refine Machine.run_keeps _ (Waits.of_none rfl) ?_ ran
    intro state label next reply waits stepped
    obtain ⟨timely, acted⟩ := Machine.step_restrict _ stepped
    obtain ⟨_, moved, same⟩ := map_eq_some_iff.mp acted
    obtain ⟨rfl, -⟩ := Prod.mk.inj same
    exact waits.step timely moved
  have swapped := waits.owed (by rw [waiting]; exact some_ne_none _) empty
  have slot := waits.slot waker waiting
  refine ⟨swapped, slot, fun fails next stepped => ?_⟩
  simp only [step, driverStep, swapped, some.injEq] at stepped
  rw [← stepped, waiting, slot]
  exact if_pos rfl

/-- The writer finds the count full, the driver releases all of it up to its lock section, and
only then the waker is registered. -/
def lateRegistration : List StagingStep :=
  [.reserve maxStagedWriteBytesPerStream 0, .writer false, .writer false, .reserve 1 1,
    .writer false, .release maxStagedWriteBytesPerStream, .driver false, .driver false]

theorem waiting_writer_is_woken_late :
    ∃ last, ((stagingMachine.restrict timely).run {} (lateRegistration ++ [.writer false])).map
        Prod.fst = some last ∧ last.waiting = some 1 ∧ last.status.stagedBytes = 0 ∧
      last.driver = .swapped := by
  have evaluated : ((stagingMachine.restrict timely).run {} (lateRegistration ++ [.writer false])).map (fun result =>
        (result.1.waiting, result.1.status.stagedBytes)) = some (some 1, 0) := by decide +kernel
  obtain ⟨⟨last, _⟩, ran, eq⟩ := map_eq_some_iff.mp evaluated
  obtain ⟨waiting, empty⟩ := Prod.mk.inj eq
  exact ⟨last, by rw [ran]; rfl, waiting, empty, (waiting_writer_is_woken ran waiting empty).1⟩

/-- Between a release's compare-exchange and its lock section a waiting writer sees nothing
staged; and if its waker is registered only after the lock section, nobody is left to wake
it. -/
theorem writer_waits_on_nothing :
    (∃ last, (stagingMachine.run {} (lateRegistration ++ [.writer false])).map Prod.fst =
        some last ∧ last.waiting = some 1 ∧ last.status.stagedBytes = 0) ∧
    ∃ last, (stagingMachine.run {} (lateRegistration ++ [.driver false, .writer false])).map
        Prod.fst = some last ∧ last.waiting = some 1 ∧ last.status.stagedBytes = 0 ∧
      last.driver = .idle ∧ last.reserved = 0 := by
  refine ⟨?_, ?_⟩
  · have evaluated : (stagingMachine.run {} (lateRegistration ++ [.writer false])).map (fun result =>
        (result.1.waiting, result.1.status.stagedBytes)) = some (some 1, 0) := by decide +kernel
    obtain ⟨⟨last, _⟩, ran, eq⟩ := map_eq_some_iff.mp evaluated
    obtain ⟨waiting, empty⟩ := Prod.mk.inj eq
    exact ⟨last, by rw [ran]; rfl, waiting, empty⟩
  · have evaluated : (stagingMachine.run {} (lateRegistration ++ [.driver false, .writer false])).map (fun result =>
          (result.1.waiting, result.1.status.stagedBytes, result.1.driver, result.1.reserved)) =
        some (some 1, 0, .idle, 0) := by decide +kernel
    obtain ⟨⟨last, _⟩, ran, eq⟩ := map_eq_some_iff.mp evaluated
    obtain ⟨waiting, empty, idle, spent⟩ : last.waiting = some 1 ∧ last.status.stagedBytes = 0 ∧
        last.driver = .idle ∧ last.reserved = 0 := by simpa using eq
    exact ⟨last, by rw [ran]; rfl, waiting, empty, idle, spent⟩

end Staging

end SplRust.Home
