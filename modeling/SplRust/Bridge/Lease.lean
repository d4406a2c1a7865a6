import SplRust.Bridge.Renewal

/-! The supervisor of a journal's lease (`spl-bridge/src/lease.rs`, as it is built for
production). Monotonic instants are in nanoseconds and never go back; a wall clock reading is in
nanoseconds since the epoch, `none` before it. The loop takes any branch of its selections that is
ready. -/

namespace SplRust.Bridge
open SplRust.Lib SplRust.Core List Option

def second : Nat := 10 ^ 9
def renewalWindow : Nat := 120
def attemptTimeout : Nat := 10 * second
def attemptFloor : Nat := 15 * second
def reconciliationInterval : Nat := 1 * second

/-- The instants that there are; the seconds of an `Instant` are signed 64-bit. -/
def instantLimit : Nat := 2 ^ 63 * second

def instantAdd (instant duration : Nat) : Option Nat :=
  if instant + duration < instantLimit then some (instant + duration) else none

/-- `lead` is in seconds, like the expiry. -/
def deadlineFromWall (expiresAt lead : Nat) (wall : Option Nat) (now : Nat) : Option Nat :=
  match wall with
  | none => some now
  | some wall => instantAdd now ((expiresAt - lead) * second - wall)

def ratchetDeadline : Option Nat → Option Nat → Option Nat
  | none, some candidate => some candidate
  | some installed, some candidate => if candidate < installed then some candidate else some installed
  | installed, none => installed

def earlierDeadline : Option Nat → Option Nat → Option Nat
  | some first, some second => some (min first second)
  | some deadline, none => some deadline
  | none, deadline => deadline

def deadlineDue (deadline : Option Nat) (now : Nat) : Bool := deadline.any (· ≤ now)

structure LeaseSchedule where
  renewalStart : Option Nat
  maxDeadline : Option Nat
  deriving DecidableEq, Repr

namespace LeaseSchedule

def install (expiresAt : Nat) (wall : Option Nat) (now : Nat) : LeaseSchedule where
  renewalStart := deadlineFromWall expiresAt renewalWindow wall now
  maxDeadline := deadlineFromWall expiresAt 0 wall now

def ratchetEarlier (schedule : LeaseSchedule) (expiresAt : Nat) (wall : Option Nat) (now : Nat) : LeaseSchedule where
  renewalStart := ratchetDeadline schedule.renewalStart
    (deadlineFromWall expiresAt renewalWindow wall now)
  maxDeadline := ratchetDeadline schedule.maxDeadline (deadlineFromWall expiresAt 0 wall now)

def nextAttemptAt (schedule : LeaseSchedule) (lastAttemptStart : Option Nat) (now : Nat) :
    Option Nat :=
  schedule.renewalStart.map fun renewalStart =>
    if renewalStart > now then renewalStart
    else
      match lastAttemptStart.bind fun start => instantAdd start attemptFloor with
      | some floor => if floor > now then floor else now
      | none => now

end LeaseSchedule

/-- A reading of the clocks; the monotonic one gives an `Instant`. -/
structure ClockSample where
  wall : Option Nat
  now : Nat
  inside : now < instantLimit

/-- An instant, if there is one. -/
def instantAt (instant : Nat) : Option Nat := instantAdd instant 0

namespace ClockSample
variable (expiresAt lead : Nat) (sample : ClockSample)

/-- The instant of the sample plus the wall time that was left then. -/
def due : Nat := sample.now + sample.wall.elim 0 fun wall => (expiresAt - lead) * second - wall

theorem deadline_eq : deadlineFromWall expiresAt lead sample.wall sample.now = instantAt (sample.due expiresAt lead) := by
  obtain ⟨wall, now, inside⟩ := sample
  cases wall with
  | none => simp [deadlineFromWall, due, instantAt, instantAdd, inside]
  | some wall => simp [deadlineFromWall, due, instantAt, instantAdd]

theorem due_le : sample.due expiresAt lead ≤ sample.due expiresAt 0 := by
  obtain ⟨wall, now, inside⟩ := sample
  cases wall with
  | none => simp only [due, elim_none, Nat.le_refl]
  | some wall =>
    have earlier : (expiresAt - lead) * second ≤ expiresAt * second := Nat.mul_le_mul_right _ (Nat.sub_le _ _)
    simp only [due, elim_some, Nat.sub_zero]
    omega

end ClockSample

theorem ratchetDeadline_eq (installed candidate : Nat) :
    ratchetDeadline (instantAt installed) (instantAt candidate) = instantAt (min installed candidate) := by
  simp only [instantAt, instantAdd, Nat.add_zero]
  split <;> split <;> simp only [ratchetDeadline] <;> grind

theorem foldl_min_le (samples : List ClockSample) {early late : ClockSample → Nat} (le : ∀ sample, early sample ≤ late sample)
    {fst second : Nat} (start : fst ≤ second) :
    (samples.map early).foldl min fst ≤ (samples.map late).foldl min second := by
  induction samples generalizing fst second with
  | nil => exact start
  | cons sample samples ih =>
    have now := le sample
    exact ih (by omega)

namespace LeaseSchedule

def ratchetAll (expiresAt : Nat) (schedule : LeaseSchedule) (samples : List ClockSample) : LeaseSchedule :=
  samples.foldl (fun schedule sample => schedule.ratchetEarlier expiresAt sample.wall sample.now) schedule

theorem ratchetAll_eq (expiresAt renewal deadline : Nat) (samples : List ClockSample) :
    ratchetAll expiresAt ⟨instantAt renewal, instantAt deadline⟩ samples =
    ⟨instantAt ((samples.map (·.due expiresAt renewalWindow)).foldl min renewal),
      instantAt ((samples.map (·.due expiresAt 0)).foldl min deadline)⟩ := by
  induction samples generalizing renewal deadline with
  | nil => rfl
  | cons sample samples ih =>
    rw [ratchetAll, foldl_cons, ← ratchetAll, ratchetEarlier, sample.deadline_eq, sample.deadline_eq,
      ratchetDeadline_eq, ratchetDeadline_eq, ih]
    rfl

/-- The schedule of a lease after these samples. -/
def sampled (expiresAt : Nat) (first : ClockSample) (more : List ClockSample) : LeaseSchedule :=
  ratchetAll expiresAt (.install expiresAt first.wall first.now) more

/-- The deadlines are the earliest of all samples, as far as there are such instants. -/
theorem sampled_earliest (expiresAt : Nat) (first : ClockSample) (more : List ClockSample) :
    (sampled expiresAt first more).maxDeadline = ((first :: more).map (·.due expiresAt 0)).min?.bind instantAt ∧
    (sampled expiresAt first more).renewalStart =
      ((first :: more).map (·.due expiresAt renewalWindow)).min?.bind instantAt ∧
    ∀ deadline, (sampled expiresAt first more).maxDeadline = some deadline →
      ∃ start, (sampled expiresAt first more).renewalStart = some start ∧ start ≤ deadline := by
  rw [sampled, install, first.deadline_eq, first.deadline_eq, ratchetAll_eq]
  refine ⟨rfl, rfl, fun deadline is => ?_⟩
  have le := foldl_min_le more (ClockSample.due_le expiresAt renewalWindow) (first.due_le expiresAt renewalWindow)
  simp only [instantAt, instantAdd, Nat.add_zero, ite_none_right_eq_some, some.injEq] at is ⊢
  obtain ⟨inside, rfl⟩ := is
  exact ⟨_, ⟨Nat.lt_of_le_of_lt le inside, rfl⟩, le⟩

end LeaseSchedule

/-- Where the loop is. -/
inductive LeasePhase where
  | top
  | select (attemptAt : Option Nat)
  | attempt (started : Nat)
  /-- The attempt has given this expiry at `taken`, and it is to be committed. -/
  | renewed (started taken expiresAt : Nat) (exchange : RenewalExchange)
  | ended

/-- An expiry that was committed at `instant`, while this deadline was installed. -/
structure LeaseCommit where
  instant : Nat
  started : Nat
  maxDeadline : Option Nat
  expiresAt : Nat
  exchange : RenewalExchange

structure Supervisor where
  schedule : LeaseSchedule
  currentExpiry : Nat
  /-- `current_expiry` of the journal, and whether it is retired. -/
  journalExpiry : Nat
  retired : Bool := false
  controlStream : Bool := true
  nextReconciliation : Nat
  lastAttemptStart : Option Nat := none
  poisoned : Bool := false
  phase : LeasePhase := .top
  clock : Nat
  /-- The commits so far, the last one first. -/
  commits : List LeaseCommit := []

inductive LeaseCall where
  /-- Others retire the journal. -/
  | retire
  | turn (now : Nat)
  | gone
  | reconcile (now : Nat) (wall : Option Nat)
  | expire (now : Nat)
  | attempt (now : Nat)
  | result (now : Nat) (exchange : RenewalExchange)
  /-- The expiry is committed at `now`, and the clocks are sampled after that. -/
  | commit (now sampled : Nat) (wall : Option Nat)

namespace Supervisor

variable (state : Supervisor)

def start (expiresAt now : Nat) (wall : Option Nat) : Supervisor where
  schedule := .install expiresAt wall now
  currentExpiry := expiresAt
  journalExpiry := expiresAt
  nextReconciliation := (instantAdd now reconciliationInterval).getD now
  clock := now

/-- The control stream is dropped, and no attempt is made any more. -/
def poison : Supervisor := { state with controlStream := false, poisoned := true, phase := .top }

def ratchet (now : Nat) (wall : Option Nat) : Supervisor :=
  { state with
    schedule := state.schedule.ratchetEarlier state.currentExpiry wall now
    nextReconciliation := (instantAdd now reconciliationInterval).getD now }

/-- The deadline that `run_attempt` races. -/
def effectiveDeadline (started : Nat) : Option Nat :=
  earlierDeadline (instantAdd started attemptTimeout) state.schedule.maxDeadline

def commit (started expiresAt : Nat) (exchange : RenewalExchange)
    (now sampled : Nat) (wall : Option Nat) : Supervisor :=
  if state.retired ∨ state.journalExpiry ≠ state.currentExpiry then state.poison
  else
    { state with
      journalExpiry := expiresAt
      currentExpiry := expiresAt
      schedule := .install expiresAt wall sampled
      nextReconciliation := (instantAdd sampled reconciliationInterval).getD sampled
      phase := .top
      clock := sampled
      commits := ⟨now, started, state.schedule.maxDeadline, expiresAt, exchange⟩ :: state.commits }

/-- One branch of the loop, or of the loop of `run_attempt`, at an instant that has come. -/
def advance (auth : PopAuthenticator) (identity : RenewalIdentity) (state : Supervisor)
    (now : Nat) : LeaseCall → LeasePhase → Option Supervisor
  | .turn _, .top =>
      if deadlineDue state.schedule.maxDeadline now then
        some { state with retired := true, phase := .ended }
      else
        some { state with phase := .select (if state.poisoned then none
          else state.schedule.nextAttemptAt state.lastAttemptStart now) }
  | .gone, .select _ => some { state with phase := .ended }
  | .reconcile _ wall, .select _ =>
      if state.nextReconciliation ≤ now then some { state.ratchet now wall with phase := .top }
      else none
  | .expire _, .select _ =>
      if deadlineDue state.schedule.maxDeadline now then
        some { state with retired := true, phase := .ended }
      else none
  | .attempt _, .select attemptAt =>
      if state.poisoned = false ∧ deadlineDue attemptAt now then
        if state.controlStream then
          some { state with lastAttemptStart := some now, phase := .attempt now }
        else some { state with lastAttemptStart := some now, poisoned := true, phase := .top }
      else none
  | .reconcile _ wall, .attempt _ =>
      if state.nextReconciliation ≤ now then
        if deadlineDue (state.ratchet now wall).schedule.maxDeadline now then
          some (state.ratchet now wall).poison
        else some (state.ratchet now wall)
      else none
  | .expire _, .attempt started =>
      if deadlineDue (state.effectiveDeadline started) now then some state.poison else none
  | .result _ exchange, .attempt started =>
      match auth.renew identity state.currentExpiry exchange with
      | none => none
      | some (.ok expiresAt) => some { state with phase := .renewed started now expiresAt exchange }
      | some (.error (.retryable _)) => some { state with phase := .top }
      | some (.error _) => some state.poison
  | .commit _ sampled wall, .renewed started _ expiresAt exchange =>
      if now ≤ sampled ∧ sampled < instantLimit then
        some (state.commit started expiresAt exchange now sampled wall)
      else none
  | _, _ => none

/-- The instant of a call. -/
def instant : LeaseCall → Nat
  | .retire | .gone => state.clock
  | .turn now | .reconcile now _ | .expire now | .attempt now | .result now _ | .commit now _ _ => now

def step (auth : PopAuthenticator) (identity : RenewalIdentity) (state : Supervisor)
    (call : LeaseCall) : Option (Supervisor × Unit) :=
  if state.clock ≤ state.instant call ∧ state.instant call < instantLimit then
    match call with
    | .retire => some ({ state with retired := true }, ())
    | call => (advance auth identity { state with clock := state.instant call }
        (state.instant call) call state.phase).map fun next => (next, ())
  else none

end Supervisor

def supervisorMachine (auth : PopAuthenticator) (identity : RenewalIdentity) : Machine Supervisor LeaseCall Unit where
  step := Supervisor.step auth identity

/-- What a call at this instant does to the lease. -/
inductive LeaseEffect (auth : PopAuthenticator) (identity : RenewalIdentity) (now : Nat)
    (s : Supervisor) : LeaseCall → Supervisor → Prop where
  | retired : LeaseEffect auth identity now s .retire { s with retired := true }
  | moved (call : LeaseCall) (next : Supervisor) (commits : next.commits = s.commits)
      (journal : next.journalExpiry = s.journalExpiry)
      (current : next.currentExpiry = s.currentExpiry)
      (settled : ∀ started taken expiresAt exchange,
        next.phase ≠ .renewed started taken expiresAt exchange) :
      LeaseEffect auth identity now s call next
  | renewed (instant started expiresAt : Nat) (exchange : RenewalExchange) (running : s.phase = .attempt started)
      (granted : auth.renew identity s.currentExpiry exchange = some (.ok expiresAt)) :
      LeaseEffect auth identity now s (.result instant exchange)
        { s with phase := .renewed started now expiresAt exchange }
  | committed (instant sampled started taken expiresAt : Nat) (wall : Option Nat)
      (exchange : RenewalExchange) (next : Supervisor)
      (decided : s.phase = .renewed started taken expiresAt exchange)
      (settled : next.phase = .top)
      (journal : next.journalExpiry = expiresAt) (current : next.currentExpiry = expiresAt)
      (commits : next.commits = ⟨now, started, s.schedule.maxDeadline, expiresAt, exchange⟩ :: s.commits) :
      LeaseEffect auth identity now s (.commit instant sampled wall) next

/-- The attempt that is under way. -/
def LeasePhase.started : LeasePhase → Option Nat
  | .attempt started | .renewed started _ _ _ => some started
  | _ => none

/-- The renewal window has begun. -/
def LeaseSchedule.Begun (schedule : LeaseSchedule) (now : Nat) : Prop :=
  ∃ start, schedule.renewalStart = some start ∧ start ≤ now

namespace Supervisor
variable {auth : PopAuthenticator} {identity : RenewalIdentity} {s next : Supervisor}
  {call : LeaseCall} {now : Nat} {ph : LeasePhase}

theorem commit_effect {instant started taken expiresAt sampled : Nat} {exchange : RenewalExchange}
    {wall : Option Nat} (decided : s.phase = .renewed started taken expiresAt exchange) :
    LeaseEffect auth identity now s (.commit instant sampled wall)
      (s.commit started expiresAt exchange now sampled wall) := by
  fun_cases Supervisor.commit s started expiresAt exchange now sampled wall with
  | case1 => exact .moved _ _ rfl rfl rfl (by simp [poison])
  | case2 => exact .committed _ _ started taken expiresAt _ exchange _ decided rfl rfl rfl rfl

theorem advance_effect (at_ : s.phase = ph) (advanced : advance auth identity s now call ph = some next) :
    LeaseEffect auth identity now s call next := by
  revert advanced
  fun_cases advance auth identity s now call ph with
  | case17 _ exchange started expiresAt granted =>
    rintro ⟨⟩
    exact .renewed _ started expiresAt exchange at_ granted
  | case20 =>
    rintro ⟨⟩
    exact commit_effect at_
  | _ => rintro ⟨⟩ <;> exact .moved _ _ rfl rfl rfl (by simp [poison, ratchet, at_])

theorem step_effect {rep : Unit} (hs : (supervisorMachine auth identity).step s call = some (next, rep)) :
    s.instant call < instantLimit ∧ LeaseEffect auth identity (s.instant call)
      { s with clock := s.instant call } call next := by
  revert hs
  change step auth identity s call = _ → _
  fun_cases Supervisor.step auth identity s call with
  | case1 passed =>
    rintro ⟨⟩
    exact ⟨passed.2, .retired⟩
  | case2 _ _ passed =>
    intro hs
    obtain ⟨_, advanced, ⟨⟩⟩ := map_eq_some_iff.mp hs
    exact ⟨passed.2, advance_effect rfl advanced⟩
  | case3 => rintro ⟨⟩

/-- An attempt's result is taken before the deadline it races is due, and is committed at once. -/
def inTime (state : Supervisor) : LeaseCall → Bool
  | .result now _ =>
      match state.phase with
      | .attempt started => deadlineDue (state.effectiveDeadline started) now = false
      | _ => true
  | .commit now _ _ =>
      match state.phase with
      | .renewed _ taken _ _ => now = taken
      | _ => true
  | _ => true

/-- The instant is before the end of the attempt and the end of the lease. -/
def Early (started : Nat) (maxDeadline : Option Nat) (now : Nat) : Prop :=
  now < started + attemptTimeout ∧ ∀ deadline, maxDeadline = some deadline → now < deadline

theorem lt_of_not_due {started timeout limit now : Nat} {maxDeadline : Option Nat}
    (now_is : now < limit) (pend : deadlineDue (earlierDeadline
      (if started + timeout < limit then some (started + timeout) else none) maxDeadline) now = false) :
    now < started + timeout ∧ ∀ deadline, maxDeadline = some deadline → now < deadline := by
  revert pend
  split
  · cases maxDeadline <;> simp [earlierDeadline, deadlineDue, Nat.lt_min]
  · cases maxDeadline <;> simp [earlierDeadline, deadlineDue] <;> omega

structure Timely (s : Supervisor) : Prop where
  commits : ∀ commit ∈ s.commits, Early commit.started commit.maxDeadline commit.instant
  decided : ∀ started taken expiresAt exchange, s.phase = .renewed started taken expiresAt exchange →
    Early started s.schedule.maxDeadline taken

theorem Timely.step {rep : Unit} (timely : s.Timely)
    (hs : ((supervisorMachine auth identity).restrict inTime).step s call = some (next, rep)) : next.Timely := by
  obtain ⟨allowed, hs⟩ := Machine.step_restrict _ hs
  obtain ⟨now_is, eff⟩ := step_effect hs
  cases eff with
  | retired => exact { timely with }
  | moved _ _ commits _ _ settled =>
    refine ⟨commits ▸ timely.commits, fun started taken expiresAt exchange decided => ?_⟩
    exact absurd decided (settled started taken expiresAt exchange)
  | renewed _ started _ _ hr =>
    change s.phase = .attempt started at hr
    simp only [inTime, hr, decide_eq_true_eq] at allowed
    refine { timely with decided := ?_ }
    rintro _ _ _ _ ⟨⟩
    exact lt_of_not_due now_is allowed
  | committed _ _ started taken expiresAt _ exchange _ decided settled _ _ commits =>
    change s.phase = .renewed started taken expiresAt exchange at decided
    simp only [inTime, decided, decide_eq_true_eq] at allowed
    refine ⟨?_, by simp [settled]⟩
    rw [commits]
    refine forall_mem_cons.mpr ⟨?_, timely.commits⟩
    exact allowed ▸ timely.decided started taken expiresAt exchange decided

theorem Timely.start (expiresAt now : Nat) (wall : Option Nat) : (Supervisor.start expiresAt now wall).Timely :=
  ⟨fun _ mem => absurd mem not_mem_nil, by simp [Supervisor.start]⟩

/-- An expiry that is committed as soon as its attempt has won the race is never late. -/
theorem commits_early {expiresAt now : Nat} {wall : Option Nat} {calls : List LeaseCall}
    {last : Supervisor} {replies : List Unit}
    (ran : ((supervisorMachine auth identity).restrict inTime).run
      (Supervisor.start expiresAt now wall) calls = some (last, replies)) :
    ∀ commit ∈ last.commits, commit.instant < commit.started + attemptTimeout ∧
      ∀ deadline, commit.maxDeadline = some deadline → commit.instant < deadline :=
  (Machine.run_keeps _ (motive := Timely) (Timely.start expiresAt now wall) Timely.step ran).commits

/-- A renewal of a lease that ends at 100, taken from its attempt and committed at this instant. -/
def renewalAt (instant : Nat) : List LeaseCall :=
  [.turn 0, .attempt 0, .result instant sampleExchange, .commit instant instant (some 0)]

theorem commits_early_once : ∃ last replies, ((supervisorMachine sampleAuth sampleIdentity).restrict inTime).run
      (Supervisor.start 100 0 (some 0)) (renewalAt second) = some (last, replies) ∧
    last.journalExpiry = 900 ∧ ∀ commit ∈ last.commits, commit.instant < commit.started + attemptTimeout ∧
      ∀ deadline, commit.maxDeadline = some deadline → commit.instant < deadline := by
  refine Machine.exists_run (fun ran => ran.1.journalExpiry)
    900 (by decide +kernel) fun last replies ran renewed => ?_
  exact ⟨renewed, commits_early ran⟩

/-- The result is taken a second after the attempt's deadline, whose timer is ready as well. -/
theorem commits_late : ∃ last replies,
    (supervisorMachine sampleAuth sampleIdentity).run (Supervisor.start 100 0 (some 0))
      (renewalAt (11 * second)) = some (last, replies) ∧
    ∃ commit ∈ last.commits, commit.started + attemptTimeout < commit.instant := by
  refine Machine.exists_run (fun ran => ran.1.commits.map fun commit => (commit.started, commit.instant))
    [(0, 11 * second)] (by decide +kernel) fun last replies ran commits => ?_
  obtain ⟨commit, only, same⟩ := map_eq_singleton_iff.mp commits
  obtain ⟨started, instant⟩ := Prod.mk.inj same
  refine ⟨commit, only ▸ mem_singleton_self _, ?_⟩
  rw [started, instant]
  decide

/-- What the journal's expiry was, and on what grounds it was extended. -/
structure Extended (auth : PopAuthenticator) (identity : RenewalIdentity) (initial : Nat)
    (s : Supervisor) : Prop where
  same : s.currentExpiry = s.journalExpiry
  current : (s.commits.map LeaseCommit.expiresAt ++ [initial]).head? = some s.journalExpiry
  increasing : (s.commits.map LeaseCommit.expiresAt ++ [initial]).Pairwise (· > ·)
  authorised : ∀ commit ∈ s.commits, Authorised auth identity commit.expiresAt commit.exchange
  decided : ∀ started taken expiresAt exchange, s.phase = .renewed started taken expiresAt exchange →
    s.currentExpiry < expiresAt ∧ Authorised auth identity expiresAt exchange

theorem Extended.step {initial : Nat} {rep : Unit} (extended : s.Extended auth identity initial)
    (hs : (supervisorMachine auth identity).step s call = some (next, rep)) :
    next.Extended auth identity initial := by
  cases (step_effect hs).2 with
  | retired => exact { extended with }
  | moved _ _ commits journal cur settled =>
    refine ⟨?_, ?_, ?_, ?_, fun started taken expiresAt exchange decided => ?_⟩
    · rw [cur, journal, extended.same]
    · rw [commits, journal, extended.current]
    · rw [commits]
      exact extended.increasing
    · rw [commits]
      exact extended.authorised
    · exact absurd decided (settled started taken expiresAt exchange)
  | renewed _ _ _ _ _ granted =>
    refine { extended with decided := ?_ }
    rintro _ _ _ _ ⟨⟩
    exact PopAuthenticator.renew_ok granted
  | committed _ _ started taken expiresAt _ exchange _ decided settled journal cur commits =>
    obtain ⟨later, authorised⟩ := extended.decided started taken expiresAt exchange decided
    refine ⟨?_, ?_, ?_, ?_, by simp [settled]⟩
    · rw [cur, journal]
    · rw [commits, journal, map_cons, cons_append, head?_cons]
    · rw [commits, map_cons, cons_append]
      refine pairwise_cons.mpr ⟨fun earlier mem => ?_, extended.increasing⟩
      obtain ⟨_, rest⟩ := head?_eq_some_iff.mp extended.current
      have increasing := extended.increasing
      change earlier ∈ s.commits.map LeaseCommit.expiresAt ++ [initial] at mem
      rw [rest] at mem increasing
      rw [extended.same] at later
      rcases mem_cons.mp mem with rfl | older
      · exact later
      · exact Nat.lt_trans (List.rel_of_pairwise_cons increasing older) later
    · rw [commits]
      exact forall_mem_cons.mpr ⟨authorised, extended.authorised⟩

/-- The expiry of a journal only grows, and each new one is that of a token that was verified for
the journal's identity, with a signed nonce, at most 960 seconds before it expires. -/
theorem expiry_extended {expiresAt now : Nat} {wall : Option Nat} {calls : List LeaseCall}
    {last : Supervisor} {replies : List Unit}
    (ran : (supervisorMachine auth identity).run (Supervisor.start expiresAt now wall) calls = some (last, replies)) :
    (last.commits.map LeaseCommit.expiresAt ++ [expiresAt]).head? = some last.journalExpiry ∧
    (last.commits.map LeaseCommit.expiresAt ++ [expiresAt]).Pairwise (· > ·) ∧
    ∀ commit ∈ last.commits, Authorised auth identity commit.expiresAt commit.exchange := by
  have start : (Supervisor.start expiresAt now wall).Extended auth identity expiresAt :=
    ⟨rfl, rfl, pairwise_singleton _ _, fun _ mem => absurd mem not_mem_nil, by simp [Supervisor.start]⟩
  have extended := Machine.run_keeps _ (motive := Extended auth identity expiresAt) start Extended.step ran
  exact ⟨extended.current, extended.increasing, extended.authorised⟩

theorem expiry_extended_once : ∃ last replies,
    (supervisorMachine sampleAuth sampleIdentity).run (Supervisor.start 100 0 (some 0))
      (renewalAt second) = some (last, replies) ∧
    last.journalExpiry = 900 ∧ ∀ commit ∈ last.commits,
      Authorised sampleAuth sampleIdentity commit.expiresAt commit.exchange := by
  refine Machine.exists_run (fun ran => ran.1.journalExpiry)
    900 (by decide +kernel) fun last replies ran renewed => ?_
  exact ⟨renewed, (expiry_extended ran).2.2⟩

/-- The next attempt waits for the floor, unless the last one has renewed the lease. -/
structure Spaced (s : Supervisor) : Prop where
  window : ∀ attemptAt, s.phase = .select (some attemptAt) → s.schedule.Begun attemptAt
  own : ∀ started, s.phase.started = some started → s.lastAttemptStart = some started
  floor : ∀ started, s.lastAttemptStart = some started → started + attemptFloor < instantLimit →
    (∃ commit ∈ s.commits, commit.started = started) ∨ s.schedule.Begun s.clock ∧
      ∀ attemptAt, s.phase = .select (some attemptAt) → started + attemptFloor ≤ attemptAt

theorem begun_ratchet {limit : Nat} (begun : s.schedule.Begun limit) (instant : Nat) (wall : Option Nat) :
    (s.ratchet instant wall).schedule.Begun limit := by
  obtain ⟨start, is, le⟩ := begun
  simp only [LeaseSchedule.Begun, Supervisor.ratchet, LeaseSchedule.ratchetEarlier, is]
  cases deadlineFromWall s.currentExpiry renewalWindow wall instant with
  | none => exact ⟨start, rfl, le⟩
  | some candidate =>
    simp only [ratchetDeadline]
    split
    next earlier => exact ⟨candidate, rfl, by omega⟩
    · exact ⟨start, rfl, le⟩

theorem nextAttemptAt_begun {started : Option Nat} {attemptAt : Nat}
    (next : s.schedule.nextAttemptAt started now = some attemptAt) : s.schedule.Begun attemptAt := by
  obtain ⟨start, is, chosen⟩ := map_eq_some_iff.mp next
  refine ⟨start, is, ?_⟩
  rw [← chosen]
  split
  · exact Nat.le_refl _
  · split
    · split <;> omega
    · omega

theorem nextAttemptAt_floor {started attemptAt : Nat} (begun : s.schedule.Begun now)
    (inside : started + attemptFloor < instantLimit)
    (next : s.schedule.nextAttemptAt (some started) now = some attemptAt) : started + attemptFloor ≤ attemptAt := by
  obtain ⟨start, is, le⟩ := begun
  obtain ⟨_, same, chosen⟩ := map_eq_some_iff.mp next
  obtain rfl := some.inj (is.symm.trans same)
  rw [if_neg (Nat.not_lt.mpr le), Option.bind_some, instantAdd, if_pos inside] at chosen
  simp only at chosen
  split at chosen <;> omega

theorem deadlineDue_iff {deadline : Option Nat} : deadlineDue deadline now = true ↔ ∃ due, deadline = some due ∧ due ≤ now := by
  cases deadline <;> simp [deadlineDue]

theorem Spaced.commit {started taken expiresAt sampled : Nat} {exchange : RenewalExchange} {wall : Option Nat}
    (spaced : s.Spaced) (decided : s.phase = .renewed started taken expiresAt exchange) :
    (s.commit started expiresAt exchange now sampled wall).Spaced := by
  obtain ⟨win, own, floor⟩ := spaced
  have last := own started (by rw [decided]; rfl)
  fun_cases Supervisor.commit s started expiresAt exchange now sampled wall with
  | case1 => constructor <;> grind [LeasePhase.started, poison]
  | case2 =>
    refine ⟨by simp, by simp [LeasePhase.started], fun earlier is _ => .inl ⟨_, mem_cons_self, ?_⟩⟩
    exact some.inj (last.symm.trans is)

theorem Spaced.advance (spaced : s.Spaced) (at_ : s.phase = ph) (clock : s.clock = now)
    (advanced : Supervisor.advance auth identity s now call ph = some next) : next.Spaced := by
  have ⟨win, own, floor⟩ := spaced
  revert advanced
  fun_cases Supervisor.advance auth identity s now call ph with
  | case20 =>
    rintro ⟨⟩
    exact spaced.commit at_
  | _ =>
    rintro ⟨⟩ <;> constructor <;>
      grind [LeasePhase.started, poison, nextAttemptAt_begun, nextAttemptAt_floor, begun_ratchet, deadlineDue_iff,
        LeaseSchedule.Begun, = Supervisor.ratchet]

theorem Spaced.step {rep : Unit} (spaced : s.Spaced)
    (stepped : (supervisorMachine auth identity).step s call = some (next, rep)) : next.Spaced := by
  revert stepped
  change Supervisor.step auth identity s call = _ → _
  fun_cases Supervisor.step auth identity s call with
  | case1 =>
    rintro ⟨⟩
    exact { spaced with }
  | case2 _ _ passed =>
    intro stepped
    obtain ⟨_, advanced, ⟨⟩⟩ := map_eq_some_iff.mp stepped
    refine Spaced.advance ?_ rfl rfl advanced
    refine { spaced with floor := fun started is inside => ?_ }
    refine (spaced.floor started is inside).imp_right fun begun => ⟨?_, begun.2⟩
    obtain ⟨start, there, le⟩ := begun.1
    exact ⟨start, there, Nat.le_trans le passed.1⟩
  | case3 => rintro ⟨⟩

end Supervisor

end SplRust.Bridge
