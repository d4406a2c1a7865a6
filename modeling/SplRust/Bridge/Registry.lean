import SplRust.Bridge.Driver
import SplRust.Lib.Numbered

/-! Hostname registrations (`spl-bridge/src/registry.rs`). A `register` call draws its generation,
opens its control stream and commits under the write lock. Journals are numbered in the order in
which their calls drew; what changes about a journal is kept beside it, as sets of numbers. -/

namespace SplRust.Bridge
open SplRust.Lib SplRust.Core List Option

inductive RegistryError where
  | retired
  | openTimedOut
  | expired
  | admissionDeadlineExceeded
  | dialer (error : DialerError)
  deriving DecidableEq, Repr

structure RegisteredJournal where
  hostname : Text
  generation : UInt64
  expiresAt : Nat
  admissionDeadline : Nat
  deriving DecidableEq, Repr

structure Registry where
  entries : Table Text Nat := ∅
  nextGeneration : UInt64 := 0
  journals : List RegisteredJournal := []
  drivers : Table Nat Driver := ∅
  /-- The calls that have their control stream. -/
  opened : List Nat := []
  /-- The calls that committed, in that order, with their hostnames. -/
  commits : List (Text × Nat) := []
  /-- The calls that were refused or cancelled; their guards tell the carriers to stop. -/
  dropped : List Nat := []
  /-- The flags that `retire` sets and `Driver::open` reads. -/
  retired : List Nat := []
  /-- The journals whose carrier has ended. -/
  gone : List Nat := []
  /-- Those that `retire_unresponsive` is about to remove. -/
  leaving : List Nat := []
  /-- Those that `shutdown_all` took out of the map and whose tasks have not retired them. -/
  draining : List (Text × Nat) := []

/-- What is done with one journal. -/
inductive JournalCall where
  /-- The driver opens the control stream of the `register` call. -/
  | openControl
  /-- The locked section; `wall` is absent if the clock is before the epoch. -/
  | commit (now : Nat) (wall : Option Nat)
  /-- The `register` call is dropped before it returns. -/
  | cancel
  | retireUnresponsive
  | removeIfCurrent
  /-- Its task of `shutdown_all` starts. -/
  | drain
  /-- Its lease has ended. -/
  | retire
  | openStream
  /-- Its carrier ends. -/
  | gone
  deriving DecidableEq, Repr

inductive RegistryCall where
  | register (hostname : Text) (expiresAt admissionDeadline : Nat)
  | lookup (hostname : Text)
  | shutdownAll
  | journal (index : Nat) (call : JournalCall)
  deriving DecidableEq, Repr

inductive RegistryReply where
  | started (index : Nat)
  | committed (displaced : Option Nat)
  | refused (error : RegistryError)
  | found (index : Option Nat)
  | opened (streamId : UInt32)
  | done
  deriving DecidableEq, Repr

/-- `u64::MAX` stands for a clock before the epoch. -/
def unixSeconds (wall : Option Nat) : Nat := wall.getD (2 ^ 64 - 1)

namespace Registry

def retire (registry : Registry) (index : Nat) : Registry := { registry with retired := index :: registry.retired }

/-- The section of `register` under the write lock. -/
def commit (registry : Registry) (index : Nat) (journal : RegisteredJournal) : Registry :=
  let displaced := registry.entries.lookup journal.hostname
  { registry with
    retired := displaced.toList ++ registry.retired
    entries := registry.entries.insert journal.hostname index
    commits := registry.commits ++ [(journal.hostname, index)] }

def removeIfCurrent (registry : Registry) (journal : RegisteredJournal) : Registry :=
  let current := (registry.entries.lookup journal.hostname).bind fun index =>
    registry.journals[index]?
  if current.any (·.generation = journal.generation) then
    { registry with entries := registry.entries.erase journal.hostname }
  else registry

def isCommitted (registry : Registry) (index : Nat) : Bool := registry.commits.any fun commit => commit.2 = index

/-- The entries of the map. -/
def current (registry : Registry) : List (Text × Nat) :=
  (List.range registry.journals.length).filterMap fun index =>
    registry.journals[index]?.bind fun journal =>
      if registry.entries.lookup journal.hostname = some index then some (journal.hostname, index)
      else none

def shutdownAll (registry : Registry) : Registry :=
  { registry with entries := ∅, draining := registry.current ++ registry.draining }

/-- `Driver::open`, which reads the flag of its dialer. -/
def openOn (registry : Registry) (index : Nat) : Registry × Except DialerError UInt32 :=
  let driver := (registry.drivers.lookup index).getD {}
  let (driver, result) := { driver with retired := index ∈ registry.retired }.openStream
  ({ registry with drivers := registry.drivers.insert index driver }, result)

/-- `none` if that step is not made. -/
def onJournal (registry : Registry) (index : Nat) (journal : RegisteredJournal) :
    JournalCall → Option (Registry × RegistryReply)
  | .openControl =>
      if index ∈ registry.opened ∨ index ∈ registry.dropped ∨ index ∈ registry.gone then none
      else
        match registry.openOn index with
        | (after, .ok sid) => some ({ after with opened := index :: after.opened }, .opened sid)
        | (after, .error error) => some ({ after with dropped := index :: after.dropped }, .refused (.dialer error))
  | .commit now wall =>
      if index ∉ registry.opened ∨ registry.isCommitted index ∨ index ∈ registry.dropped then none
      else if now ≥ journal.admissionDeadline then
        some ({ registry with dropped := index :: registry.dropped }, .refused .admissionDeadlineExceeded)
      else if unixSeconds wall ≥ journal.expiresAt then
        some ({ registry with dropped := index :: registry.dropped }, .refused .expired)
      else some (registry.commit index journal, .committed (registry.entries.lookup journal.hostname))
  | .cancel =>
      if registry.isCommitted index then none
      else some ({ registry with dropped := index :: registry.dropped }, .done)
  | .retireUnresponsive =>
      if registry.isCommitted index then
        some ({ registry.retire index with leaving := index :: registry.leaving }, .done)
      else none
  | .removeIfCurrent =>
      -- Called for a journal that left, and by the watcher of one that is gone.
      if index ∈ registry.leaving ∨ index ∈ registry.gone then
        some (registry.removeIfCurrent journal, .done)
      else none
  | .drain =>
      if (journal.hostname, index) ∈ registry.draining then
        some ({ registry.retire index with draining := registry.draining.erase (journal.hostname, index) }, .done)
      else none
  | .retire => some (registry.retire index, .done)
  | .openStream =>
      if registry.isCommitted index = false ∨ index ∈ registry.gone then none
      else
        match registry.openOn index with
        | (after, .ok sid) => some (after, .opened sid)
        | (after, .error error) => some (after, .refused (.dialer error))
  | .gone => some ({ registry with gone := index :: registry.gone }, .done)

def step (registry : Registry) : RegistryCall → Option (Registry × RegistryReply)
  | .register hostname expiresAt admissionDeadline =>
      some ({ registry with
        nextGeneration := registry.nextGeneration + 1
        journals := registry.journals ++ [⟨hostname, registry.nextGeneration, expiresAt, admissionDeadline⟩] },
        .started registry.journals.length)
  | .lookup hostname => some (registry, .found (registry.entries.lookup hostname))
  | .shutdownAll => some (registry.shutdownAll, .done)
  | .journal index call => registry.journals[index]?.bind fun journal => registry.onJournal index journal call

end Registry

def registryMachine : Machine Registry RegistryCall RegistryReply where
  step := Registry.step

namespace Registry

/-- What is left as it is by a step that commits nothing and removes nothing. -/
structure Quiet (registry next : Registry) : Prop where
  entries : next.entries = registry.entries
  count : next.nextGeneration = registry.nextGeneration
  journals : next.journals = registry.journals
  commits : next.commits = registry.commits
  retired : registry.retired ⊆ next.retired
  gone : registry.gone ⊆ next.gone
  leaving : ∀ index ∈ next.leaving, index ∈ registry.leaving ∨ index ∈ next.retired
  draining : ∀ en ∈ registry.draining, en ∈ next.draining ∨ en.2 ∈ next.retired

/-- What a step on one journal does. -/
inductive OnJournal (registry : Registry) (index : Nat) (journal : RegisteredJournal) :
    JournalCall → Registry → Prop where
  | quiet {call : JournalCall} {next : Registry} (same : Quiet registry next) :
      OnJournal registry index journal call next
  | commits (now : Nat) (wall : Option Nat) :
      OnJournal registry index journal (.commit now wall) (registry.commit index journal)
  | removes (left : index ∈ registry.leaving ∨ index ∈ registry.gone) :
      OnJournal registry index journal .removeIfCurrent (registry.removeIfCurrent journal)

variable {registry next : Registry} {index : Nat} {journal : RegisteredJournal}
  {call : JournalCall} {rep : RegistryReply}

theorem openOn_eq {after : Registry} {res : Except DialerError UInt32}
    (opened : registry.openOn index = (after, res)) : ∃ drivers, after = { registry with drivers := drivers } := by
  cases opened
  exact ⟨_, rfl⟩

theorem onJournal_effect (hs : registry.onJournal index journal call = some (next, rep)) :
    OnJournal registry index journal call next := by
  have same : Quiet registry registry :=
    ⟨rfl, rfl, rfl, rfl, fun _ => id, fun _ => id, fun _ => Or.inl, fun _ => Or.inl⟩
  have told : Quiet registry (registry.retire index) :=
    { same with
      retired := fun _ => mem_cons_of_mem _
      leaving := fun _ => Or.inl
      draining := fun _ => Or.inl }
  have own : index ∈ (registry.retire index).retired := mem_cons_self
  revert hs
  fun_cases onJournal registry index journal call with
  | case7 now wall => rintro ⟨⟩; exact .commits now wall
  | case10 =>
    rintro ⟨⟩
    refine .quiet { told with leaving := fun other mem => ?_ }
    rcases mem_cons.mp mem with rfl | mem
    · exact Or.inr own
    · exact Or.inl mem
  | case12 left => rintro ⟨⟩; exact .removes left
  | case14 =>
    rintro ⟨⟩
    refine .quiet { told with draining := fun other mem => ?_ }
    by_cases this : other = (journal.hostname, index)
    · subst this
      exact Or.inr own
    · exact Or.inl ((mem_erase_of_ne this).mpr mem)
  | case16 => rintro ⟨⟩; exact .quiet told
  | case20 => rintro ⟨⟩; exact .quiet { same with gone := fun _ => mem_cons_of_mem _ }
  | case2 _ after sid opened | case3 _ after error opened
  | case18 _ after sid opened | case19 _ after error opened =>
    rintro ⟨⟩
    obtain ⟨_, rfl⟩ := openOn_eq opened
    exact .quiet { same with }
  | case5 | case6 | case9 => rintro ⟨⟩; exact .quiet { same with }
  | _ => rintro ⟨⟩

/-- The generation of a journal is its number, as far as the counter goes. -/
structure Numbered (registry : Registry) : Prop where
  counted : registry.nextGeneration = UInt64.ofNat registry.journals.length
  numbered : ∀ index journal, registry.journals[index]? = some journal →
    RegisteredJournal.generation journal = UInt64.ofNat index
  current : ∀ hostname index, registry.entries.lookup hostname = some index →
    registry.journals[index]?.map RegisteredJournal.hostname = some hostname

theorem Numbered.of_entries (numbered : registry.Numbered) (count : next.nextGeneration = registry.nextGeneration)
    (journals : next.journals = registry.journals)
    (ens : ∀ hostname index, next.entries.lookup hostname = some index →
      registry.entries.lookup hostname = some index ∨
        registry.journals[index]?.map RegisteredJournal.hostname = some hostname) : next.Numbered where
  counted := by rw [count, journals, numbered.counted]
  numbered := by rw [journals]; exact numbered.numbered
  current hostname index current := by
    rw [journals]
    exact (ens hostname index current).elim (numbered.current hostname index) id

theorem removeIfCurrent_eq (registry : Registry) (journal : RegisteredJournal) :
    registry.removeIfCurrent journal = registry ∨ registry.removeIfCurrent journal =
        { registry with entries := registry.entries.erase journal.hostname } ∧
      ∃ index other, registry.entries.lookup journal.hostname = some index ∧
        registry.journals[index]? = some other ∧ other.generation = journal.generation := by
  simp only [removeIfCurrent]
  split
  next fnd =>
    obtain ⟨other, kn, own⟩ := (any_eq_true _ _).mp fnd
    obtain ⟨index, current, hp⟩ := bind_eq_some_iff.mp kn
    exact Or.inr ⟨rfl, index, other, current, hp, of_decide_eq_true own⟩
  · exact Or.inl rfl

theorem lookup_erased {ens : Table Text Nat} {hostname other : Text}
    (current : (ens.erase hostname).lookup other = some index) :
    other ≠ hostname ∧ ens.lookup other = some index := by
  by_cases same : other = hostname
  · rw [same, Finmap.lookup_erase] at current
    cases current
  · exact ⟨same, (Finmap.lookup_erase_ne same).symm.trans current⟩

theorem Numbered.onJournal (numbered : registry.Numbered) (hp : registry.journals[index]? = some journal)
    (eff : OnJournal registry index journal call next) : next.Numbered := by
  cases eff with
  | quiet same =>
    exact numbered.of_entries same.count same.journals fun _ _ current =>
      Or.inl (same.entries ▸ current)
  | commits =>
    refine numbered.of_entries rfl rfl fun hostname other current => ?_
    by_cases same : hostname = journal.hostname
    · subst same
      obtain rfl := some.inj ((Finmap.lookup_insert _).symm.trans current)
      exact Or.inr (by rw [hp, map_some])
    · exact Or.inl ((Finmap.lookup_insert_of_ne _ same).symm.trans current)
  | removes =>
    rcases registry.removeIfCurrent_eq journal with same | ⟨same, -⟩
    · rw [same]
      exact numbered
    · rw [same]
      exact numbered.of_entries rfl rfl fun _ _ current => Or.inl (lookup_erased current).2

theorem Numbered.step {call : RegistryCall} (numbered : registry.Numbered)
    (hs : registry.step call = some (next, rep)) : next.Numbered := by
  cases call with
  | register hostname =>
    cases hs
    refine ⟨?_, fun index journal hp => ?_, fun hostname index current => ?_⟩
    · simp only [numbered.counted, length_append, length_singleton, UInt64.ofNat_add]
      rfl
    · rcases getElem?_concat.mp hp with old | ⟨rfl, rfl⟩
      · exact numbered.numbered index journal old
      · exact numbered.counted
    · obtain ⟨journal, hp, own⟩ := map_eq_some_iff.mp (numbered.current hostname index current)
      exact map_eq_some_iff.mpr ⟨journal, getElem?_concat.mpr (Or.inl hp), own⟩
  | lookup =>
    cases hs
    exact numbered
  | shutdownAll =>
    cases hs
    exact numbered.of_entries rfl rfl fun _ _ current => by cases current
  | journal =>
    obtain ⟨_, hp, moved⟩ := bind_eq_some_iff.mp hs
    exact numbered.onJournal hp (onJournal_effect moved)

theorem Numbered.empty : Numbered {} := ⟨rfl, by simp, by simp⟩

/-- A later commit for the same hostname follows. -/
def Superseded (registry : Registry) (index : Nat) : Prop :=
  ∃ early hostname late later, registry.commits = early ++ (hostname, index) :: late ∧ (hostname, later) ∈ late

def Barred (registry : Registry) (index : Nat) : Prop := index ∈ registry.retired ∨ index ∈ registry.gone

instance (registry : Registry) (index : Nat) : Decidable (registry.Barred index) :=
  inferInstanceAs (Decidable (_ ∨ _))

/-- No journal of the hostname waits to be retired by `shutdown_all` when a registration commits,
and the generations are distinct. -/
def fences (registry : Registry) : RegistryCall → Bool
  | .register .. => registry.journals.length < 2 ^ 64
  | .journal index (.commit ..) => registry.draining.all fun entry =>
      registry.Barred entry.2 ∨ registry.journals[index]?.map RegisteredJournal.hostname ≠ some entry.1
  | _ => true

structure Fenced (registry : Registry) : Prop where
  numbered : registry.Numbered
  few : registry.journals.length ≤ 2 ^ 64
  left : ∀ index ∈ registry.leaving, index ∈ registry.retired
  kept : ∀ en ∈ registry.commits, registry.Barred en.2 ∨ en ∈ registry.draining ∨
    registry.entries.lookup en.1 = some en.2
  fenced : ∀ index, registry.Superseded index → registry.Barred index

theorem Fenced.onJournal (fenced : registry.Fenced) (hp : registry.journals[index]? = some journal)
    (allowed : registry.fences (.journal index call) = true)
    (eff : OnJournal registry index journal call next) : next.Fenced := by
  have numbered := fenced.numbered.onJournal hp eff
  cases eff with
  | quiet same =>
    have barred {other : Nat} : registry.Barred other → next.Barred other :=
      Or.imp (@same.retired other) (@same.gone other)
    refine ⟨numbered, same.journals ▸ fenced.few, ?_, ?_, ?_⟩
    · intro other mem
      exact (same.leaving other mem).elim (fun old => same.retired (fenced.left other old)) id
    · intro en mem
      rw [same.commits] at mem
      rw [same.entries]
      rcases fenced.kept en mem with old | draining | current
      · exact Or.inl (barred old)
      · rcases same.draining en draining with still | told
        · exact Or.inr (Or.inl still)
        · exact Or.inl (Or.inl told)
      · exact Or.inr (Or.inr current)
    · intro other superseded
      rw [Superseded, same.commits] at superseded
      exact barred (fenced.fenced other superseded)
  | commits =>
    have barred {other : Nat} (old : registry.Barred other) : (registry.commit index journal).Barred other :=
      old.imp (mem_append_right _) id
    -- Every earlier journal of the hostname is displaced, or was fenced off before.
    have others : ∀ other, (journal.hostname, other) ∈ registry.commits →
        (registry.commit index journal).Barred other := by
      intro other mem
      rcases fenced.kept _ mem with old | draining | current
      · exact barred old
      · have free := all_eq_true.mp allowed _ draining
        simp only [hp, map_some, ne_eq, not_true, or_false, decide_eq_true_eq] at free
        exact barred free
      · refine Or.inl (mem_append_left _ ?_)
        rw [current]
        exact mem_singleton_self other
    refine ⟨numbered, fenced.few, fun other mem => ?_, ?_, ?_⟩
    · exact mem_append_right _ (fenced.left other mem)
    · rintro ⟨hostname, other⟩ mem
      rcases mem_append.mp mem with old | new
      · by_cases same : hostname = journal.hostname
        · exact Or.inl (others other (same ▸ old))
        · refine (fenced.kept _ old).imp barred (Or.imp id fun current => ?_)
          exact (Finmap.lookup_insert_of_ne _ same).trans current
      · cases mem_singleton.mp new
        exact Or.inr (Or.inr (Finmap.lookup_insert _))
    · rintro other ⟨early, hostname, late, later, split, after⟩
      rcases eq_nil_or_concat late with rfl | ⟨rest, last, rfl⟩
      · cases after
      · rw [concat_eq_append, ← cons_append, ← append_assoc] at split
        obtain ⟨pre, own⟩ := append_inj' split rfl
        cases own
        rw [concat_eq_append] at after
        rcases mem_append.mp after with old | new
        · exact barred (fenced.fenced other ⟨early, hostname, rest, later, pre, old⟩)
        · cases mem_singleton.mp new
          exact others other (by rw [pre]; simp)
  | removes left =>
    have barred : registry.Barred index := left.imp (fenced.left index) id
    rcases registry.removeIfCurrent_eq journal with same | ⟨same, current, other, there, kn, own⟩
    · rw [same]
      exact fenced
    · rw [same] at numbered ⊢
      refine ⟨numbered, fenced.few, fenced.left, ?_, fenced.fenced⟩
      rintro ⟨hostname, _⟩ mem
      rcases fenced.kept _ mem with old | draining | en
      · exact Or.inl old
      · exact Or.inr (Or.inl draining)
      · by_cases this : hostname = journal.hostname
        · -- The generations are distinct, so the entry is the journal's own.
          subst this
          obtain rfl := some.inj (there.symm.trans en)
          have numbers := own
          rw [fenced.numbered.numbered _ _ kn, fenced.numbered.numbered _ _ hp,
            ← UInt64.toNat_inj, UInt64.toNat_ofNat', UInt64.toNat_ofNat', Nat.mod_eq_of_lt,
            Nat.mod_eq_of_lt] at numbers
          · exact Or.inl (numbers ▸ barred)
          · exact Nat.lt_of_lt_of_le (List.getElem?_eq_some_iff.mp hp).1 fenced.few
          · exact Nat.lt_of_lt_of_le (List.getElem?_eq_some_iff.mp kn).1 fenced.few
        · exact Or.inr (Or.inr ((Finmap.lookup_erase_ne this).trans en))

theorem Fenced.step {call : RegistryCall} (fenced : registry.Fenced)
    (hs : (registryMachine.restrict fences).step registry call = some (next, rep)) : next.Fenced := by
  obtain ⟨allowed, hs⟩ := registryMachine.step_restrict hs
  have numbered := fenced.numbered.step hs
  cases call with
  | register =>
    cases hs
    have few : registry.journals.length < 2 ^ 64 := of_decide_eq_true allowed
    refine { fenced with numbered := numbered, few := ?_ }
    rw [length_append]
    exact few
  | lookup =>
    cases hs
    exact fenced
  | shutdownAll =>
    cases hs
    refine { fenced with numbered := numbered, kept := ?_ }
    intro en mem
    rcases fenced.kept en mem with old | draining | current
    · exact Or.inl old
    · exact Or.inr (Or.inl (mem_append_right _ draining))
    · obtain ⟨_, hp, own⟩ := map_eq_some_iff.mp (fenced.numbered.current _ _ current)
      refine Or.inr (Or.inl (mem_append_left _ (mem_filterMap.mpr ⟨en.2, ?_, ?_⟩)))
      · exact mem_range.mpr (List.getElem?_eq_some_iff.mp hp).1
      · rw [hp, bind_some, own, if_pos current]
  | journal =>
    obtain ⟨_, hp, moved⟩ := bind_eq_some_iff.mp hs
    exact fenced.onJournal hp allowed (onJournal_effect moved)

/-- Once a later registration has committed, a journal that still runs opens no stream. -/
theorem superseded_refuses_open {calls : List RegistryCall} {last next : Registry}
    {replies : List RegistryReply} {reply : RegistryReply} {index : Nat}
    (ran : (registryMachine.restrict fences).run {} calls = some (last, replies))
    (superseded : last.Superseded index)
    (stepped : registryMachine.step last (.journal index .openStream) = some (next, reply)) :
    reply = .refused (.dialer .retired) := by
  have start : Fenced {} := ⟨.empty, by decide, by simp, by simp, by simp [Superseded]⟩
  have fenced := Machine.run_keeps _ (motive := Fenced) start Fenced.step ran
  obtain ⟨_, _, moved⟩ := bind_eq_some_iff.mp stepped
  simp only [Registry.onJournal] at moved
  split at moved
  · cases moved
  next open_ =>
    have retired : index ∈ last.retired :=
      (fenced.fenced index superseded).resolve_right fun gone => open_ (Or.inr gone)
    simp only [openOn, Driver.openStream, retired, decide_true, if_true] at moved
    cases moved
    rfl

theorem superseded_refuses_open_once : ∃ last next reply,
    last.Superseded 0 ∧ registryMachine.step last (.journal 0 .openStream) = some (next, reply) ∧
    reply = .refused (.dialer .retired) := by
  have evaluated : ((registryMachine.restrict fences).run {} [.register [] 1 1,
      .journal 0 .openControl, .journal 0 (.commit 0 (some 0)), .register [] 1 1,
      .journal 1 .openControl, .journal 1 (.commit 0 (some 0))]).bind (fun ran =>
        (registryMachine.step ran.1 (.journal 0 .openStream)).map fun _ => ran.1.commits) =
      some [([], 0), ([], 1)] := by
    decide +kernel
  obtain ⟨⟨last, _⟩, ran, stepped⟩ := bind_eq_some_iff.mp evaluated
  obtain ⟨⟨next, reply⟩, opened, commits⟩ := map_eq_some_iff.mp stepped
  have superseded : last.Superseded 0 := ⟨[], [], [([], 1)], 1, commits, mem_singleton_self _⟩
  exact ⟨last, next, reply, superseded, opened, superseded_refuses_open ran superseded opened⟩

/-- `shutdown_all` takes a journal out of the map and has not retired it when the next
registration commits: a client that looked it up before still opens a stream. -/
theorem superseded_opens : ∃ calls last replies next,
    registryMachine.run {} calls = some (last, replies) ∧ .found (some 0) ∈ replies ∧
    last.Superseded 0 ∧
    registryMachine.step last (.journal 0 .openStream) = some (next, .opened 3) := by
  have evaluated : (registryMachine.run {} [.register [] 1 1, .journal 0 .openControl,
      .journal 0 (.commit 0 (some 0)), .lookup [], .shutdownAll, .register [] 1 1,
      .journal 1 .openControl, .journal 1 (.commit 0 (some 0))]).bind (fun ran =>
        (registryMachine.step ran.1 (.journal 0 .openStream)).map fun stepped =>
          (ran.1.commits, decide (.found (some 0) ∈ ran.2), stepped.2)) =
      some ([([], 0), ([], 1)], true, .opened 3) := by
    decide +kernel
  obtain ⟨⟨last, replies⟩, ran, stepped⟩ := bind_eq_some_iff.mp evaluated
  obtain ⟨⟨next, _⟩, opened, values⟩ := map_eq_some_iff.mp stepped
  simp only [Prod.mk.injEq, decide_eq_true_eq] at values
  obtain ⟨commits, found, rfl⟩ := values
  exact ⟨_, last, replies, next, ran, found, ⟨[], [], [([], 1)], 1, commits, mem_singleton_self _⟩, opened⟩

end Registry

end SplRust.Bridge
