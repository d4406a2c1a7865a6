import SplRust.Home.LaneWriting

/-! Staging and scheduling of a lane. While the driver runs, a stream's staged bytes are
exactly those it holds, and pending bytes wait for a round or for credit. -/

namespace SplRust.Home
open SplRust.Core Option

namespace Lane
variable {sid : UInt32} {lane next : Lane}

/-- The bytes that were accepted and not yet released. -/
def count (lane : Lane) : Nat := (writesOf lane.commands).length + (lane.pending.getD []).length + lane.held

/-- Pending bytes wait for their turn or for credit. -/
def Credited (lane : Lane) : Prop :=
  lane.running = true → lane.held = 0 → ∀ en queue, lane.entry = some en →
    lane.pending = some queue → queue ≠ [] → lane.ready = true ∨ en.sendCredit < chunkOf queue

structure Staged (lane : Lane) : Prop where
  counted : lane.running = true → ∀ st, lane.stream = some st → st.status.stagedBytes = lane.count
  room : lane.running = true → ∀ st, lane.stream = some st → st.status.stagedBytes ≤ maxStagedWriteBytesPerStream
  credit : lane.Credited

/-- The stream has `bytes` less staged than before. -/
def Releases (lane next : Lane) (bytes : Nat) : Prop :=
  ∀ after, next.stream = some after → ∃ before, lane.stream = some before ∧
    after.status.stagedBytes = before.status.stagedBytes - bytes

def SameCredit (lane next : Lane) : Prop :=
  ∀ after, next.entry = some after → ∃ before, lane.entry = some before ∧ before.sendCredit = after.sendCredit

theorem Releases.same (streams : next.stream = lane.stream) : Releases lane next 0 :=
  fun after hp => ⟨after, streams ▸ hp, rfl⟩

theorem SameCredit.same (ens : next.entry = lane.entry) : SameCredit lane next :=
  fun after live => ⟨after, ens ▸ live, rfl⟩

theorem Credited.kept (credited : lane.Credited) (hr : next.running = true → lane.running = true)
    (held : next.held = lane.held) (pend : next.pending = lane.pending)
    (ready : lane.ready = true → next.ready = true) (en : SameCredit lane next) : next.Credited := by
  intro runs free after queue live wait nonempty
  obtain ⟨pre, was, same⟩ := en after live
  rw [← same]
  exact (credited (hr runs) (held ▸ free) pre queue was (pend ▸ wait) nonempty).imp_left ready

theorem Credited.of_idle (idle : next.pending.getD [] = []) : next.Credited := by
  intro runs free after queue live wait nonempty
  rw [wait] at idle
  exact absurd idle nonempty

namespace Staged

theorem start (used : Bool) : Staged { used := used } :=
  { counted := (by rintro _ _ ⟨⟩), room := (by rintro _ _ ⟨⟩), credit := (by rintro _ _ _ _ ⟨⟩) }

theorem released (inv : lane.Staged) (bytes : Nat) (hr : next.running = true → lane.running = true)
    (st : Releases lane next bytes) (count : next.count + bytes = lane.count) (cr : next.Credited) : next.Staged := by
  refine ⟨fun runs after hp => ?_, fun runs after hp => ?_, cr⟩
  · obtain ⟨pre, was, _⟩ := st after hp
    have counted := inv.counted (hr runs) pre was
    omega
  · obtain ⟨pre, was, _⟩ := st after hp
    have room := inv.room (hr runs) pre was
    omega

section
variable (inv : lane.Staged) (hr : next.running = true → lane.running = true) (st : Releases lane next 0)
include inv hr st

theorem moved (count : next.count = lane.count) (cr : next.Credited) : next.Staged := inv.released 0 hr st count cr

theorem kept (cmds : writesOf next.commands = writesOf lane.commands)
    (held : next.held = lane.held) (pend : next.pending = lane.pending)
    (ready : lane.ready = true → next.ready = true) (en : SameCredit lane next) : next.Staged :=
  inv.moved hr st (by rw [Lane.count, Lane.count, cmds, held, pend])
    (inv.credit.kept hr held pend ready en)

end

end Staged

theorem staged_release (start : Lane) (bytes : Nat) : Releases start (start.release bytes) bytes := by
  intro after hp
  obtain ⟨pre, was, rfl⟩ := map_eq_some_iff.mp hp
  exact ⟨pre, was, rfl⟩

theorem staged_enter (start : Lane) (s : StreamLife) : Releases start (start.enter s) 0 := by
  intro after hp
  obtain ⟨pre, was, rfl⟩ := map_eq_some_iff.mp hp
  exact ⟨pre, was, rfl⟩

theorem staged_signal (start : Lane) (signal : StreamSignal) : Releases start (start.signal signal) 0 := by
  intro after hp
  obtain ⟨pre, was, status, -⟩ := signal_signals hp
  exact ⟨pre, was, by rw [status]; rfl⟩

theorem Staged.discards (inv : lane.Staged) : lane.discard.Staged := by
  have idle : lane.discard.Credited := Credited.of_idle rfl
  unfold discard at idle ⊢
  cases wait : lane.pending with
  | none =>
    rw [wait] at idle
    exact inv.moved id (.same rfl) (by simp [Lane.count, wait]) idle
  | some queue =>
    rw [wait] at idle
    refine inv.released queue.length id (staged_release lane _) ?_ idle
    simp only [Lane.count, wait, getD_none, getD_some, List.length_nil]
    omega

theorem Staged.signals (inv : lane.Staged) (signal : StreamSignal) : (lane.signal signal).Staged := by
  have streams := staged_signal lane signal
  rw [signal_eq]
  exact inv.kept id streams rfl rfl rfl id (.same rfl)

theorem Staged.delivers (inv : lane.Staged) (rest : List MuxEvent) : Staged { lane with coming := rest } :=
  inv.kept id (.same rfl) rfl rfl rfl id (.same rfl)

theorem Staged.enters (inv : lane.Staged) (s : StreamLife) : (lane.enter s).Staged :=
  inv.kept id (staged_enter lane s) rfl rfl rfl id (.same rfl)

theorem closedEntry_sendCredit {en after : StreamState}
    (closed : MuxStreams.closedEntry en = some after) : en.sendCredit = after.sendCredit := by
  unfold MuxStreams.closedEntry at closed
  split at closed
  · cases closed
  · rw [← some.inj closed]

theorem Staged.step (inv : lane.Staged) (opening : lane.Opening) (writing : lane.Writing sid)
    (hs : LaneStep sid lane next) : next.Staged := by
  have same : Releases lane lane 0 := .same rfl
  have ens : SameCredit lane lane := .same rfl
  cases hs with
  | control | passed | finished | ended | shutAgain => exact inv.kept id same rfl rfl rfl id ens
  | refused | peerReset => exact inv.kept id same rfl rfl rfl id (by rintro _ ⟨⟩)
  | opened hr _ unused =>
    have blank := opening.blank (opening.unused hr unused).2.1
    exact inv.moved id same rfl (Credited.of_idle (by simp [report, blank.pending]))
  | data _ _ closes live =>
    refine inv.kept id same rfl rfl rfl id fun after en => ⟨_, live, ?_⟩
    cases closes with
    | false => rw [← some.inj en]
    | true =>
      have kept := closedEntry_sendCredit en
      exact kept
  | closed _ live =>
    exact inv.kept id same rfl rfl rfl id fun after en =>
      ⟨_, live, closedEntry_sendCredit en⟩
  | credited =>
    refine inv.moved id same rfl fun _ _ en queue again wait _ => .inl ?_
    simp only at wait
    simp [wait]
  | consumed _ pops live =>
    refine inv.kept id same ?_ rfl rfl id fun after en => ⟨_, live, ?_⟩
    · simp [pops, DriverCommand.bytes]
    · rw [← some.inj en]
  | consumedLate _ pops => exact inv.kept id same (by simp [pops, DriverCommand.bytes]) rfl rfl id ens
  | @write _ bytes _ pops =>
    refine inv.moved id same ?_ fun _ _ _ _ _ _ _ => .inl rfl
    simp only [Lane.count, pops, writesOf_cons, DriverCommand.bytes, List.length_append, getD_some]
    omega
  | close _ pops => exact inv.kept id same (by simp [pops, DriverCommand.bytes]) rfl rfl (fun _ => rfl) ens
  | @givenUp _ _ _ rest _ pops gives =>
    have silent : writesOf lane.discard.commands = writesOf rest := by
      rcases gives with rfl | rfl <;> simp [discard, pops, DriverCommand.bytes]
    exact inv.discards.kept id (.same rfl) silent.symm rfl rfl id (by rintro _ ⟨⟩)
  | @givenUpLate _ _ rest _ pops gives => 
    have silent : writesOf lane.discard.commands = writesOf rest := by
      rcases gives with rfl | rfl <;> simp [discard, pops, DriverCommand.bytes]
    exact inv.discards.kept id (.same rfl) silent.symm rfl rfl id ens
  | flushDead => exact inv.discards
  | dropEmpty _ empty => exact inv.moved id same (by simp [Lane.count, empty]) (Credited.of_idle rfl)
  | flushClose _ idle => exact inv.moved id same rfl (Credited.of_idle (by simp [put, idle]))
  | flushCloseLate hr idle late | flushIdle hr idle => exact inv.moved id same rfl (Credited.of_idle (by simp [idle]))
  | @flushSent _ _ queue wait nonempty unheld =>
    have positive : 0 < chunkOf queue := by
      have length : 0 < queue.length := List.length_pos_iff.mpr nonempty
      simp only [chunkOf, recommendedChunk]
      omega
    refine inv.moved id same ?_ fun _ free => absurd free (by simp; omega)
    simp only [Lane.count, put, wait, unheld, getD_some, List.length_drop]
    simp only [chunkOf]
    omega
  | flushWithheld _ wait live short =>
    refine inv.moved id same rfl fun _ _ en queue again pend _ => .inr ?_
    obtain rfl := some.inj (live.symm.trans again)
    obtain rfl := some.inj (wait.symm.trans pend)
    exact short
  | flushLate hr wait quiet alive late =>
    -- A stream whose bytes are refused has finished, so nothing is pending.
    rcases writing.settled hr with can | ⟨rsn, mem⟩ | dead | done | silent
    · exact absurd can late
    · simp [quiet] at mem
    · exact absurd alive dead
    · have idle := done.idle
      rw [wait] at idle
      cases idle
    · exact absurd silent (opening.events_of_present (opening.present_of_pending wait))
  | sentMore =>
    refine inv.released lane.held id (staged_release lane _) ?_ fun _ _ _ _ _ _ _ => .inl rfl
    rfl
  | sentLast _ spent =>
    refine inv.released lane.held id (staged_release lane _) ?_ (Credited.of_idle rfl)
    simp [Lane.count, release, updateStatus, spent]
  | handOut hr opens =>
    have blank := opening.blank ((opening.delivers hr opens).mpr ⟨_, rfl⟩)
    have none_ : lane.count = 0 := by simp [Lane.count, blank.commands, blank.pending, blank.held, writesOf]
    refine ⟨fun _ st hp => ?_, fun _ st hp => ?_, inv.credit⟩
    · rw [← some.inj hp]
      exact none_.symm
    · rw [← some.inj hp]
      exact Nat.zero_le _
  | ownerGone | stop => exact ⟨(by rintro ⟨⟩), (by rintro ⟨⟩), (by rintro ⟨⟩)⟩
  | signalData hr opens | signalEof hr opens => exact (inv.signals _).delivers _
  | signalReset => exact ((inv.enters .reset).signals .reset).delivers _
  | told => exact (inv.enters .gone).signals .gone
  | takeData held hp | takeEof held hp | takeEnd s dead held hp
  | takeClosed _ _ hp | rewoken _ hp =>
    exact inv.kept id (fun after there => ⟨_, hp, by rw [← some.inj there]; rfl⟩) rfl rfl rfl id ens
  | cleared | lost => exact inv.kept id same rfl rfl rfl id ens
  | returned | shut | resetAsked => exact inv.kept id same (by simp [writesOf, DriverCommand.bytes]) rfl rfl id ens
  | @accepted _ st bytes _ _ hp _ _ room =>
    refine ⟨fun runs after there => ?_, fun runs after there => ?_, inv.credit.kept id rfl rfl id ens⟩
    · rw [← some.inj there]
      have counted := inv.counted runs st hp
      simp only [Lane.count, writesOf_append, List.length_append] at counted ⊢
      simp [writesOf, DriverCommand.bytes] at counted ⊢
      omega
    · rw [← some.inj there]
      exact room
  | dropped =>
    refine inv.kept id same ?_ rfl rfl id ens
    split <;> simp [writesOf, DriverCommand.bytes]

end Lane

end SplRust.Home
