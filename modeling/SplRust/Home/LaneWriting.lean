import SplRust.Home.LaneOpening

/-! Writing through a lane. The commands of a handle come in an order that ends with a close,
a reset or a cancel, every accepted byte is in one place on its way to the carrier, and a
close is put out after the last of them. -/

namespace SplRust.Home
open SplRust.Lib SplRust.Core List Option

namespace DriverCommand

def isWrite : DriverCommand → Bool
  | write _ _ => true
  | _ => false

def isClose : DriverCommand → Bool
  | close _ => true
  | _ => false

/-- The handle sends no bytes after the command. -/
def endsWriting : DriverCommand → Bool
  | close _ => true
  | cancel _ => true
  | reset _ _ => true
  | _ => false

def bytes : DriverCommand → Bytes
  | write _ bytes => bytes
  | _ => []

end DriverCommand

/-- The bytes that `DATA` frames carry. -/
def dataOf (frames : List Frame) : Bytes :=
  frames.flatMap fun frame => if frame.flags &&& flagData ≠ 0 then frame.payload else []

def writesOf (commands : List DriverCommand) : Bytes := commands.flatMap DriverCommand.bytes

@[simp]
theorem dataOf_append (first second : List Frame) : dataOf (first ++ second) = dataOf first ++ dataOf second :=
  flatMap_append

@[simp]
theorem writesOf_append (first second : List DriverCommand) :
    writesOf (first ++ second) = writesOf first ++ writesOf second :=
  flatMap_append

@[simp]
theorem writesOf_cons (command : DriverCommand) (commands : List DriverCommand) :
    writesOf (command :: commands) = command.bytes ++ writesOf commands :=
  flatMap_cons

theorem writesOf_of_none {cmds : List DriverCommand}
    (none_ : ∀ cmd ∈ cmds, cmd.isWrite = false) : writesOf cmds = [] := by
  apply flatMap_eq_nil_iff.mpr
  intro cmd mem
  cases cmd with
  | write => cases none_ _ mem
  | _ => rfl

theorem split_append {α : Type} {first snd pre after : List α} {en : α}
    (whole : first ++ snd = pre ++ en :: after) : (∃ rest, first = pre ++ en :: rest) ∨
      ∃ more, pre = first ++ more ∧ snd = more ++ en :: after := by
  rcases append_eq_append_iff.mp whole with ⟨more, front, back⟩ | ⟨more, front, back⟩
  · exact .inr ⟨more, front, back⟩
  · cases more with
    | nil => exact .inr ⟨[], by simpa using front.symm, by simpa using back.symm⟩
    | cons head rest =>
      obtain ⟨rfl, -⟩ := List.cons.inj back
      exact .inl ⟨rest, front⟩

namespace Lane
variable {hdl : HomeStream} {en : StreamState}
variable {sid : UInt32} {lane next : Lane} {rest : List DriverCommand}

def Shut (lane : Lane) : Prop := ∀ hdl, lane.handle = some hdl → hdl.writeShutdown = true

/-- The order of the handle's commands. -/
structure Ordered (lane : Lane) : Prop where
  commands : lane.commands.Pairwise fun first second =>
    first.endsWriting = true → second.isWrite = false
  last : lane.closing = true → ∀ command ∈ lane.commands, command.isWrite = false
  shut : (lane.closing = true ∨ ∃ command ∈ lane.commands, command.endsWriting = true) → lane.Shut
  asked : (lane.closing = true ∨ ∃ command ∈ lane.commands, command.isClose = true) → lane.shutDown = true

namespace Ordered
variable {cmd : DriverCommand}

theorem start (used : Bool) : Ordered { used := used } :=
  { commands := List.Pairwise.nil
    last := by rintro ⟨⟩
    shut := fun _ => (by rintro _ ⟨⟩)
    asked := by simp }

section
variable (inv : lane.Ordered)
include inv

theorem fewer (cmds : next.commands.Sublist lane.commands)
    (closing : next.closing = true → lane.closing = true) (shut : lane.Shut → next.Shut)
    (asked : lane.shutDown = true → next.shutDown = true) : next.Ordered :=
  { commands := inv.commands.sublist cmds
    last := fun closes cmd mem => inv.last (closing closes) cmd (cmds.subset mem)
    shut := fun ends => shut (inv.shut (ends.imp closing fun ⟨cmd, mem, ender⟩ =>
      ⟨cmd, cmds.subset mem, ender⟩))
    asked := fun asks => asked (inv.asked (asks.imp closing fun ⟨cmd, mem, ender⟩ =>
      ⟨cmd, cmds.subset mem, ender⟩)) }

theorem sends (cmds : next.commands = lane.commands ++ [cmd])
    (closing : next.closing = lane.closing) (shut : lane.Shut → next.Shut)
    (asked : lane.shutDown = true → next.shutDown = true)
    (writes : cmd.isWrite = true → ¬ lane.Shut) (ends : cmd.endsWriting = true → next.Shut)
    (asks : cmd.isClose = true → next.shutDown = true) : next.Ordered := by
  have unwritten (past : lane.Shut) : cmd.isWrite = false := by
    cases write : cmd.isWrite with
    | false => rfl
    | true => exact absurd past (writes write)
  constructor
  · rw [cmds]
    refine pairwise_append.mpr ⟨inv.commands, pairwise_singleton _ _, ?_⟩
    intro first mem snd last ender
    rw [mem_singleton.mp last]
    exact unwritten (inv.shut (.inr ⟨first, mem, ender⟩))
  · intro closes oid mem
    rw [closing] at closes
    rw [cmds] at mem
    rcases mem_append.mp mem with pre | last
    · exact inv.last closes oid pre
    · rw [mem_singleton.mp last]
      exact unwritten (inv.shut (.inl closes))
  · rintro (closes | ⟨oid, mem, ender⟩)
    · exact shut (inv.shut (.inl (closing ▸ closes)))
    · rw [cmds] at mem
      rcases mem_append.mp mem with pre | last
      · exact shut (inv.shut (.inr ⟨oid, pre, ender⟩))
      · exact ends (mem_singleton.mp last ▸ ender)
  · rintro (closes | ⟨oid, mem, ender⟩)
    · exact asked (inv.asked (.inl (closing ▸ closes)))
    · rw [cmds] at mem
      rcases mem_append.mp mem with pre | last
      · exact asked (inv.asked (.inr ⟨oid, pre, ender⟩))
      · exact asks (mem_singleton.mp last ▸ ender)

theorem popped (pops : lane.commands = cmd :: rest) (cmds : next.commands = rest)
    (closing : next.closing = true → lane.closing = true) (shut : lane.Shut → next.Shut)
    (asked : lane.shutDown = true → next.shutDown = true) : next.Ordered :=
  inv.fewer (by rw [pops, cmds]; exact sublist_cons_self ..) closing shut asked

theorem nothing_behind (pops : lane.commands = cmd :: rest) (ends : cmd.endsWriting = true) :
    (∀ oid ∈ rest, oid.isWrite = false) ∧ lane.Shut := by
  have pairs := inv.commands
  rw [pops] at pairs
  refine ⟨fun oid mem => (pairwise_cons.mp pairs).1 oid mem ends, ?_⟩
  exact inv.shut (.inr ⟨cmd, pops ▸ mem_cons_self, ends⟩)

end

end Ordered

theorem Shut.kept {after : HomeStream} (shut : lane.Shut) (held : lane.handle = some hdl)
    (later : next.handle = some after)
    (keeps : hdl.writeShutdown = true → after.writeShutdown = true) : next.Shut := by
  intro oid same
  rw [later] at same
  rw [← some.inj same]
  exact keeps (shut hdl held)

theorem Ordered.step (inv : lane.Ordered) (opening : lane.Opening)
    (hs : LaneStep sid lane next) : next.Ordered := by
  have same : lane.commands.Sublist lane.commands := List.Sublist.refl _
  cases hs with
  | control | passed | refused | opened | data | closed | peerReset | credited | dropEmpty
  | flushIdle | flushSent | flushWithheld | sentMore | sentLast | stop | finished | ended
  | rewoken => exact inv.fewer same id id id
  | consumed hr pops | consumedLate hr pops | write hr pops => exact inv.popped pops rfl id id id
  | givenUp hr rsn pops | givenUpLate hr rsn pops => exact inv.popped pops rfl (by rintro ⟨⟩) id id
  | @close _ rest pops =>
    obtain ⟨silent, shut⟩ := inv.nothing_behind pops rfl
    have asked := inv.asked (.inr ⟨_, pops ▸ mem_cons_self, rfl⟩)
    have others : Ordered { lane with commands := rest } := inv.popped pops rfl id id id
    exact {
      commands := others.commands
      last := fun _ => silent
      shut := fun _ => shut
      asked := fun _ => asked }
  | flushDead | flushClose | flushCloseLate | flushLate => exact inv.fewer same (by rintro ⟨⟩) id id
  | handOut hr opens =>
    have blank := opening.blank ((opening.delivers hr opens).mpr ⟨_, rfl⟩)
    exact {
      commands := inv.commands
      last := inv.last
      shut := by simp [blank.closing, blank.commands]
      asked := inv.asked }
  | ownerGone hr opens =>
    have blank := opening.blank ((opening.delivers hr opens).mpr ⟨_, rfl⟩)
    have shut : lane.Shut := fun hdl held => by simp [blank.handle] at held
    exact inv.sends rfl rfl id id (by rintro ⟨⟩) (fun _ => shut) (by rintro ⟨⟩)
  | signalData | signalEof =>
    rw [signal_eq]
    exact inv.fewer same id id id
  | signalReset | told =>
    rw [signal_eq]
    exact inv.fewer same id id id
  | takeData held | takeEof held | takeEnd s dead held | takeClosed deaf held | cleared held
  | lost _ _ held => exact inv.fewer same id (fun shut => shut.kept held rfl id) id
  | returned _ _ held =>
    exact inv.sends rfl rfl (fun shut => shut.kept held rfl id) id (by rintro ⟨⟩) (by rintro ⟨⟩) (by rintro ⟨⟩)
  | accepted _ _ held _ _ writing =>
    have takes : ¬ lane.Shut := fun shut => by simp [shut _ held] at writing
    exact inv.sends rfl rfl id id (fun _ => takes) (by rintro ⟨⟩) (by rintro ⟨⟩)
  | shut _ held =>
    refine inv.sends rfl rfl (fun shut => shut.kept held rfl fun _ => rfl) (fun _ => rfl) (by rintro ⟨⟩)
      (fun _ => ?_) (fun _ => rfl)
    intro hdl same
    rw [← some.inj same]
  | shutAgain => exact inv.fewer same id id fun _ => rfl
  | resetAsked _ held =>
    refine inv.sends rfl rfl (fun shut => shut.kept held rfl fun _ => rfl) id (by rintro ⟨⟩)
      (fun _ => ?_) (by rintro ⟨⟩)
    intro hdl same
    rw [← some.inj same]
  | @dropped hdl =>
    by_cases cancels : hdl.writeShutdown = false ∧ lane.receiving = true
    · rw [if_pos cancels]
      exact inv.sends rfl rfl (fun _ => (by rintro _ ⟨⟩)) id (by rintro ⟨⟩) (fun _ => (by rintro _ ⟨⟩)) (by rintro ⟨⟩)
    · rw [if_neg cancels, append_nil]
      exact inv.fewer same id (fun _ => (by rintro _ ⟨⟩)) id

/-- The stream's last byte is on its way. -/
structure Finished (lane : Lane) : Prop where
  idle : lane.pending = none
  silent : ∀ command ∈ lane.commands, command.isWrite = false
  shut : lane.Shut
  present : lane.stream ≠ none

/-- A stream the acceptor takes no bytes for has finished, or learns of its reset. -/
def Settled (sid : UInt32) (lane : Lane) : Prop :=
  lane.CanSend ∨ (∃ reason, .reset sid reason ∈ lane.coming) ∨ ¬ lane.Live ∨ lane.Finished ∨ lane.events = []

/-- What is true once a close was put out, `sent` being the bytes before it. -/
structure Closed (lane : Lane) (sent : Bytes) : Prop where
  whole : sent = lane.accepted
  shut : lane.Shut
  asked : lane.shutDown = true
  present : lane.stream ≠ none

structure Writing (sid : UInt32) (lane : Lane) : Prop where
  settled : lane.running = true → lane.Settled sid
  /-- Every accepted byte is in one place. -/
  balance : lane.CanSend → dataOf lane.frames ++ (lane.pending.getD [] ++ writesOf lane.commands) = lane.accepted
  sent : dataOf lane.frames <+: lane.accepted
  closes : ∀ before fr after, lane.frames = before ++ fr :: after →
    fr.flags &&& flagClose ≠ 0 → lane.Closed (dataOf before)

theorem canSend_iff (live : lane.entry = some en) : lane.CanSend ↔ en.localClosed = false := by simp [CanSend, live]

theorem not_canSend (abs : lane.entry = none) : ¬ lane.CanSend := by simp [CanSend, abs]

theorem Settled.moved (settled : lane.Settled sid) (can : lane.CanSend → next.CanSend)
    (coming : ∀ rsn, .reset sid rsn ∈ lane.coming → .reset sid rsn ∈ next.coming)
    (live : next.Live → lane.Live) (finished : lane.Finished → next.Finished)
    (es : next.events = lane.events) : next.Settled sid :=
  settled.imp can (.imp (fun ⟨rsn, mem⟩ => ⟨rsn, coming rsn mem⟩) (.imp (mt live) (.imp finished es.trans)))

theorem Finished.moved (done : lane.Finished) (pend : next.pending = none)
    (cmds : ∀ cmd ∈ next.commands, cmd ∈ lane.commands ∨ cmd.isWrite = false)
    (shut : lane.Shut → next.Shut) (hp : lane.stream ≠ none → next.stream ≠ none) : next.Finished :=
  { idle := pend
    silent := fun cmd mem => (cmds cmd mem).elim (done.silent cmd) id
    shut := shut done.shut
    present := hp done.present }

theorem Closed.moved {sent : Bytes} (closed : lane.Closed sent)
    (accepted : next.accepted = lane.accepted) (shut : lane.Shut → next.Shut)
    (asked : lane.shutDown = true → next.shutDown = true)
    (hp : lane.stream ≠ none → next.stream ≠ none) : next.Closed sent :=
  { whole := closed.whole.trans accepted.symm
    shut := shut closed.shut
    asked := asked closed.asked
    present := hp closed.present }

namespace Writing

theorem start (used : Bool) : Writing sid { used := used } :=
  { settled := fun _ => .inr (.inr (.inr (.inr rfl)))
    balance := by rintro ⟨_, ⟨⟩, -⟩
    sent := prefix_refl _
    closes := fun pre fr after whole => by simp at whole }

section
variable (inv : lane.Writing sid)
include inv

/-- Steps that neither accept nor put out bytes. -/
theorem moved (frames : next.frames = lane.frames)
    (accepted : next.accepted = lane.accepted) (shut : lane.Shut → next.Shut)
    (asked : lane.shutDown = true → next.shutDown = true) (hp : lane.stream ≠ none → next.stream ≠ none)
    (settled : next.running = true → next.Settled sid)
    (balance : next.CanSend → lane.CanSend ∧ next.pending.getD [] ++ writesOf next.commands =
      lane.pending.getD [] ++ writesOf lane.commands) : next.Writing sid := by
  refine ⟨settled, fun can => ?_, ?_, fun pre fr after whole close => ?_⟩
  · obtain ⟨could, same⟩ := balance can
    rw [frames, same, accepted]
    exact inv.balance could
  · rw [frames, accepted]
    exact inv.sent
  · rw [frames] at whole
    exact (inv.closes pre fr after whole close).moved accepted shut asked hp

/-- Frames without bytes that do not close. -/
theorem puts (frames : List Frame)
    (quiet : ∀ fr ∈ frames, fr.flags &&& flagData = 0 ∧ fr.flags &&& flagClose = 0) :
    (lane.put frames).Writing sid := by
  have silent : dataOf frames = [] := by
    apply flatMap_eq_nil_iff.mpr
    intro fr mem
    rw [if_neg (not_not.mpr (quiet fr mem).1)]
  have same : dataOf (lane.put frames).frames = dataOf lane.frames := by rw [put, dataOf_append, silent, append_nil]
  refine ⟨fun hr => ?_, fun can => ?_, ?_, fun pre fr after whole close => ?_⟩
  · exact (inv.settled hr).moved id (fun _ => id) id (fun done => { done with }) rfl
  · rw [same]
    exact inv.balance can
  · rw [same]
    exact inv.sent
  · rcases split_append whole with ⟨rest, early⟩ | ⟨more, -, late⟩
    · exact { inv.closes pre fr rest early close with }
    · have mem : fr ∈ frames := late ▸ mem_append_right more mem_cons_self
      exact absurd (quiet fr mem).2 close

/-- Only the record of the stream, its handle and its marks change. -/
theorem kept (frames : next.frames = lane.frames)
    (accepted : next.accepted = lane.accepted) (en : next.entry = lane.entry)
    (pend : next.pending = lane.pending) (cmds : next.commands = lane.commands)
    (es : next.events = lane.events) (hr : next.running = true → lane.running = true)
    (coming : ∀ rsn, .reset sid rsn ∈ lane.coming → .reset sid rsn ∈ next.coming)
    (live : next.Live → lane.Live) (shut : lane.Shut → next.Shut) (asked : lane.shutDown = true → next.shutDown = true)
    (hp : lane.stream ≠ none → next.stream ≠ none) : next.Writing sid := by
  have can : next.CanSend ↔ lane.CanSend := by rw [CanSend, CanSend, en]
  refine inv.moved frames accepted shut asked hp (fun runs => ?_) fun could => ?_
  · refine (inv.settled (hr runs)).moved can.mpr coming live (fun done => ?_) es
    exact done.moved (pend.trans done.idle) (fun cmd mem => .inl (cmds ▸ mem)) shut hp
  · exact ⟨can.mp could, by rw [pend, cmds]⟩

theorem resets (rsn : ResetReason) : Writing sid { lane.report [.reset sid rsn] with entry := none } :=
  inv.moved rfl rfl id id id (fun _ => .inr (.inl ⟨rsn, mem_append_right _ mem_cons_self⟩)) (by rintro ⟨_, ⟨⟩, -⟩)

end

end Writing

theorem Opening.events_of_live (opening : lane.Opening) (live : lane.entry = some en) : lane.events ≠ [] := by
  intro silent
  obtain ⟨ph, read, agrees⟩ := opening.word
  have idle : ph = .idle := by
    rw [reached, silent] at read
    exact (some.inj read).symm
  have oid : EventPhase.of en ≠ .idle := by
    unfold EventPhase.of
    split <;> decide
  exact oid ((agrees en live).symm.trans idle)

theorem Opening.events_of_present (opening : lane.Opening) (hp : lane.stream ≠ none) : lane.events ≠ [] := by
  intro silent
  obtain ⟨_, opened, fits, -⟩ := opening.delivered
  rw [silent] at fits
  exact hp (opened.mp (append_eq_nil_iff.mp (prefix_nil.mp fits)).1)

section
variable (inv : lane.Writing sid)
include inv

/-- The acceptor changes the entry of a live stream, but not whether it takes bytes. -/
theorem Writing.reentered {ens : Option StreamState} {es : List MuxEvent} (opening : lane.Opening) (live : lane.entry = some en)
    (can : (∃ after, ens = some after ∧ after.localClosed = false) ↔ en.localClosed = false) :
    Writing sid { lane.report es with entry := ens } := by
  refine inv.moved rfl rfl id id id (fun runs => ?_) fun could => ?_
  · rcases inv.settled runs with pre | ⟨rsn, mem⟩ | dead | done | silent
    · exact .inl (can.mpr ((canSend_iff live).mp pre))
    · exact .inr (.inl ⟨rsn, mem_append_left _ mem⟩)
    · exact .inr (.inr (.inl dead))
    · exact .inr (.inr (.inr (.inl { done with })))
    · exact absurd silent (opening.events_of_live live)
  · exact ⟨(canSend_iff live).mpr (can.mp could), rfl⟩

theorem Writing.recounted (live : lane.entry = some en)
    (after : StreamState) (same : after.localClosed = en.localClosed) :
    Writing sid { lane with entry := some after } := by
  have can : CanSend { lane with entry := some after } ↔ lane.CanSend := by
    rw [canSend_iff live, canSend_iff rfl, same]
  refine inv.moved rfl rfl id id id (fun runs => ?_) fun could => ⟨can.mp could, rfl⟩
  exact (inv.settled runs).moved can.mpr (fun _ => id) id (fun done => { done with }) rfl

theorem Writing.popped {cmd : DriverCommand} (pops : lane.commands = cmd :: rest)
    (silent : cmd.bytes = []) : Writing sid { lane with commands := rest } := by
  refine inv.moved rfl rfl id id id (fun runs => ?_) fun could => ⟨could, ?_⟩
  · refine (inv.settled runs).moved id (fun _ => id) id (fun done => ?_) rfl
    exact done.moved done.idle (fun cmd mem => .inl (pops ▸ mem_cons_of_mem _ mem)) id id
  · rw [pops, writesOf_cons, silent, nil_append]

theorem Writing.sends (cmd : DriverCommand)
    (silent : cmd.isWrite = false) : (lane.send cmd).Writing sid := by
  have bs : cmd.bytes = [] := by cases cmd <;> first | rfl | cases silent
  refine inv.moved rfl rfl id id id (fun runs => ?_) fun could => ⟨could, ?_⟩
  · refine (inv.settled runs).moved id (fun _ => id) id (fun done => ?_) rfl
    refine done.moved done.idle (fun oid mem => ?_) id id
    rcases mem_append.mp mem with pre | last
    · exact .inl pre
    · rw [mem_singleton.mp last]
      exact .inr silent
  · show lane.pending.getD [] ++ writesOf (lane.commands ++ [cmd]) = _
    rw [writesOf_append, writesOf_cons, bs]
    simp [writesOf]

theorem Writing.discards (late : ¬ lane.CanSend) : lane.discard.Writing sid := by
  refine inv.moved rfl rfl id id (mt discard_absent.mp) (fun runs => ?_) fun could => absurd could late
  refine (inv.settled runs).moved id (fun _ => id) live_discard.mp (fun done => ?_) rfl
  exact done.moved rfl (fun cmd mem => .inl mem) id (mt discard_absent.mp)

theorem Writing.handled {after : HomeStream} {st later : DriverStream} (held : lane.handle = some hdl)
    (hp : lane.stream = some st) (live : later.status.state = .live → st.status.state = .live)
    (shut : hdl.writeShutdown = true → after.writeShutdown = true) :
    Writing sid { lane with handle := some after, stream := some later } := by
  refine inv.kept rfl rfl rfl rfl rfl rfl id (fun _ => id) (fun alive => ?_)
    (fun past => past.kept held rfl shut) id (fun _ => some_ne_none later)
  exact (live_iff hp).mpr (live ((live_iff rfl).mp alive))

theorem Writing.reheld (held : lane.handle = some hdl)
    (after : HomeStream) (shut : hdl.writeShutdown = true → after.writeShutdown = true) :
    Writing sid { lane with handle := some after } :=
  inv.kept rfl rfl rfl rfl rfl rfl id (fun _ => id) id (fun past => past.kept held rfl shut) id id

theorem Writing.signals {ev : MuxEvent} {rest : List MuxEvent} {signal : StreamSignal} (next : lane.coming = ev :: rest)
    (oid : ∀ rsn, ev ≠ .reset sid rsn) : Writing sid { lane.signal signal with coming := rest } := by
  have live : Live { lane with stream := (lane.signal signal).stream, coming := rest } ↔ lane.Live :=
    live_signal signal
  rw [signal_eq]
  refine inv.kept rfl rfl rfl rfl rfl rfl id (fun rsn mem => ?_) live.mp id id (mt signal_absent.mp)
  rw [next] at mem
  exact (mem_cons.mp mem).resolve_left fun same => oid rsn same.symm

end

theorem closedEntry_canSend (en : StreamState) :
    (∃ after, MuxStreams.closedEntry en = some after ∧ after.localClosed = false) ↔ en.localClosed = false := by
  cases localClosed : en.localClosed <;> simp [MuxStreams.closedEntry, localClosed]

theorem Writing.step (inv : lane.Writing sid) (opening : lane.Opening)
    (ordered : lane.Ordered) (hs : LaneStep sid lane next) : next.Writing sid := by
  cases hs with
  | control fr flags => exact inv.puts [fr] (by simp [flags]; decide)
  | passed | finished => exact inv.kept rfl rfl rfl rfl rfl rfl id (fun _ => id) id id id id
  | refused _ cls _ kept =>
    cases live : lane.entry with
    | none => 
      have held := inv.puts [.reset sid cls.resetCode] (by simp [Frame.reset]; decide)
      have same : lane.coming ++ [] = lane.coming := append_nil _
      refine held.kept rfl rfl live.symm rfl rfl (append_nil _) id (fun rsn => ?_) id id id id
      exact mem_append_left _
    | some en =>
      have held := (inv.resets (.fromClass cls)).puts
        [.reset sid cls.resetCode] (by simp [Frame.reset]; decide)
      exact held.kept rfl rfl rfl rfl rfl rfl id (fun _ => id) id id id id
  | opened hr _ unused fr =>
    have blank := opening.blank (opening.unused hr unused).2.1
    have unsent : dataOf lane.frames = [] := by
      have sent := inv.sent
      rw [blank.accepted] at sent
      exact prefix_nil.mp sent
    refine ⟨fun _ => .inl ⟨_, rfl, rfl⟩, fun _ => ?_, inv.sent, fun pre fr after whole close => ?_⟩
    · show dataOf lane.frames ++ (lane.pending.getD [] ++ writesOf lane.commands) = lane.accepted
      rw [unsent, blank.pending, blank.commands, blank.accepted]
      rfl
    · exact { inv.closes pre fr after whole close with }
  | @data _ _ _ _ closes live =>
    refine inv.reentered opening live ?_
    cases closes with
    | false => simp [MuxStreams.dataEntry]
    | true => exact closedEntry_canSend _
  | closed _ live => exact inv.reentered opening live (closedEntry_canSend _)
  | peerReset _ rsn => exact inv.resets rsn
  | @credited _ en cr live =>
    have held := inv.recounted live { en with sendCredit := en.sendCredit + cr } rfl
    exact held.kept rfl rfl rfl rfl rfl rfl id (fun _ => id) id id id id
  | @consumed _ en bs _ win grant pops live =>
    have counted := inv.recounted live { en with
      receiveWindow := win, debitedNotConsumed := en.debitedNotConsumed - bs } rfl
    have held := (counted.puts (grant.map (Frame.window sid)).toList ?_).popped pops rfl
    · exact held
    · intro fr mem
      obtain ⟨_, -, rfl⟩ := map_eq_some_iff.mp (mem_toList.mp mem)
      simp only [Frame.window]
      decide
  | consumedLate _ pops => exact inv.popped pops rfl
  | @write _ bs _ pops =>
    refine inv.moved rfl rfl id id id (fun runs => ?_) fun could => ⟨could, ?_⟩
    · refine (inv.settled runs).moved id (fun _ => id) id (fun done => ?_) rfl
      have silent := done.silent _ (pops ▸ mem_cons_self)
      cases silent
    · simp [pops, DriverCommand.bytes]
  | close _ pops => exact (inv.popped pops rfl).kept rfl rfl rfl rfl rfl rfl id (fun _ => id) id id id id
  | @givenUp _ en cmd rest rsn pops gives =>
    have ends : cmd.endsWriting = true := by rcases gives with rfl | rfl <;> rfl
    obtain ⟨silent, shut⟩ := ordered.nothing_behind pops ends
    have hp := opening.present_of_command pops
    have gone : Writing sid { lane.discard with entry := none, commands := rest } := by
      refine inv.moved rfl rfl id id (mt discard_absent.mp) (fun _ => ?_) (by rintro ⟨_, ⟨⟩, -⟩)
      exact .inr (.inr (.inr (.inl ⟨rfl, silent, shut, mt discard_absent.mp hp⟩)))
    exact gone.puts [.reset sid rsn.code] (by simp [Frame.reset]; decide)
  | @givenUpLate _ cmd _ _ pops gives abs =>
    have silent : cmd.bytes = [] := by rcases gives with rfl | rfl <;> rfl
    exact (inv.discards (not_canSend abs)).popped pops silent
  | flushDead hr dead => exact inv.discards (not_canSend (opening.entry_of_ended (opening.dead hr dead)))
  | dropEmpty _ empty =>
    refine inv.moved rfl rfl id id id (fun runs => ?_) fun could => ⟨could, by simp [empty]⟩
    exact (inv.settled runs).moved id (fun _ => id) id (fun done => { done with idle := rfl }) rfl
  | @flushClose _ en idle asked live writable =>
    have silent := ordered.last asked
    have shut := ordered.shut (.inl asked)
    have hp : lane.stream ≠ none := by
      intro abs
      simp [(opening.blank abs).closing] at asked
    have whole : dataOf lane.frames = lane.accepted := by
      have all := inv.balance ((canSend_iff live).mpr writable)
      rwa [idle, writesOf_of_none silent, getD_none, append_nil, append_nil] at all
    have bare : dataOf (lane.frames ++ [⟨sid, flagClose, []⟩]) = dataOf lane.frames := by simp [dataOf]
    refine ⟨fun _ => .inr (.inr (.inr (.inl ⟨idle, silent, shut, hp⟩))), fun could => ?_, ?_,
      fun pre fr after split close => ?_⟩
    · obtain ⟨_, kept, open_⟩ := could
      cases peerClosed : en.peerClosed <;> simp [peerClosed] at kept
      rw [← kept] at open_
      cases open_
    · exact bare ▸ inv.sent
    · have closed (sent : Bytes) (same : sent = lane.accepted) : lane.Closed sent :=
        ⟨same, shut, ordered.asked (.inl asked), hp⟩
      rcases split_append split with ⟨rest, early⟩ | ⟨more, front, back⟩
      · exact { inv.closes pre fr rest early close with }
      · obtain rfl : more = [] := by
          cases more with
          | nil => rfl
          | cons head rest => simp at back
        rw [append_nil] at front
        exact { closed _ (front ▸ whole) with }
  | flushCloseLate | flushIdle | flushWithheld => exact inv.kept rfl rfl rfl rfl rfl rfl id (fun _ => id) id id id id
  | @flushSent _ _ q wait _ _ live writable =>
    have all := inv.balance ((canSend_iff live).mpr writable)
    have sent : dataOf (lane.frames ++ [⟨sid, flagData, q.take (chunkOf q)⟩]) =
        dataOf lane.frames ++ q.take (chunkOf q) := by
      simp [dataOf, flagData]
    have balance : dataOf (lane.frames ++ [⟨sid, flagData, q.take (chunkOf q)⟩]) ++
        (q.drop (chunkOf q) ++ writesOf lane.commands) = lane.accepted := by
      rw [sent, ← all, wait, getD_some, append_assoc, ← append_assoc (q.take _), take_append_drop]
    refine ⟨fun _ => .inl ⟨_, rfl, writable⟩, fun _ => balance, ?_, fun pre fr after split close => ?_⟩
    · exact balance ▸ prefix_append _ _
    · rcases split_append split with ⟨rest, early⟩ | ⟨more, -, back⟩
      · exact { inv.closes pre fr rest early close with }
      · have mem : fr ∈ [(⟨sid, flagData, q.take (chunkOf q)⟩ : Frame)] := back ▸ mem_append_right more mem_cons_self
        rw [mem_singleton.mp mem] at close
        exact absurd (show flagData &&& flagClose = 0 by decide) close
  | @flushLate _ q wait _ _ late =>
    have drained : Writing sid { lane with pending := some (q.drop (chunkOf q)) } := by
      refine inv.moved rfl rfl id id id (fun runs => ?_) fun could => absurd could late
      refine (inv.settled runs).moved id (fun _ => id) id (fun done => ?_) rfl
      have idle := done.idle
      rw [wait] at idle
      cases idle
    exact drained.discards late
  | sentMore =>
    exact inv.kept rfl rfl rfl rfl rfl rfl id (fun _ => id) (live_release _).mp id id (mt map_eq_none_iff.mp)
  | sentLast _ spent =>
    refine inv.moved rfl rfl id id (mt map_eq_none_iff.mp) (fun runs => ?_) fun could => ⟨could, by rw [spent]; rfl⟩
    refine (inv.settled runs).moved id (fun _ => id) (live_release _).mp (fun done => ?_) rfl
    exact done.moved rfl (fun cmd mem => .inl mem) id (mt map_eq_none_iff.mp)
  | @handOut hr _ opens =>
    have abs := (opening.delivers hr opens).mpr ⟨_, rfl⟩
    refine ⟨fun _ => ?_, inv.balance, inv.sent, fun pre fr after whole close => ?_⟩
    · rcases inv.settled hr with can | ⟨rsn, mem⟩ | dead | done | silent
      · exact .inl can
      · rw [opens] at mem
        exact .inr (.inl ⟨rsn, by simpa using mem⟩)
      · exact absurd (fun st hp => by simp [abs] at hp) dead
      · exact absurd abs done.present
      · have mem := opening.mem_events (opens ▸ mem_cons_self)
        rw [silent] at mem
        cases mem
    · exact absurd abs (inv.closes pre fr after whole close).present
  | @ownerGone hr _ opens =>
    have abs := (opening.delivers hr opens).mpr ⟨_, rfl⟩
    refine ⟨(by rintro ⟨⟩), (by rintro ⟨_, ⟨⟩, -⟩), inv.sent, fun pre fr after whole close => ?_⟩
    exact absurd abs (inv.closes pre fr after whole close).present
  | signalData hr next | signalEof hr next => exact inv.signals next (by rintro _ ⟨⟩)
  | @signalReset hr _ rest next =>
    have hp := opening.present_of_coming hr next (by rintro _ ⟨⟩)
    have dead : ¬ Live { (lane.enter .reset).signal .reset with coming := rest } := fun live =>
      hp (absent_of_enter .reset (by rintro ⟨⟩) ((live_signal _).mp live))
    rw [signal_eq] at dead ⊢
    refine inv.moved rfl rfl id id ?_ (fun _ => .inr (.inr (.inl dead))) fun could => ⟨could, rfl⟩
    exact fun hp => mt signal_absent.mp (mt updateStatus_absent.mp hp)
  | stop => exact inv.moved rfl rfl id id id (by rintro ⟨⟩) (by rintro ⟨_, ⟨⟩, -⟩)
  | told =>
    have live : ((lane.enter .gone).signal .gone).Live → lane.Live := fun live =>
      live_of_absent (absent_of_enter .gone (by rintro ⟨⟩) ((live_signal _).mp live))
    rw [signal_eq] at live ⊢
    refine inv.kept rfl rfl rfl rfl rfl rfl id (fun _ => id) live id id fun hp => ?_
    exact mt signal_absent.mp (mt updateStatus_absent.mp hp)
  | takeData held hp live | takeEof held hp live => exact inv.handled held hp (fun _ => live) id
  | takeEnd _ dead held hp => exact inv.handled held hp (fun live => absurd live dead) id
  | takeClosed _ held hp => exact inv.handled held hp (by rintro ⟨⟩) id
  | cleared held | lost _ _ held => exact inv.reheld held _ id
  | @returned hdl _ count _ held =>
    have sends := (inv.reheld held { hdl with readBuffer := hdl.readBuffer.drop count }
      id).sends (.consumed sid count) rfl
    exact sends.kept rfl rfl rfl rfl rfl rfl id (fun _ => id) id id id id
  | ended => exact inv.kept rfl rfl rfl rfl rfl rfl id (fun _ => id) id id id id
  | rewoken _ hp =>
    refine inv.kept rfl rfl rfl rfl rfl rfl id (fun _ => id) (fun alive => ?_) id id (fun _ => some_ne_none _)
    have live := alive _ rfl
    exact (live_iff hp).mpr live
  | @accepted _ _ bs _ held hp live writing =>
    have takes : ¬ lane.Shut := fun shut => by simp [shut _ held] at writing
    refine ⟨fun runs => ?_, fun could => ?_, inv.sent.trans (prefix_append _ _), fun pre fr after whole close => ?_⟩
    · exact (inv.settled runs).moved id (fun _ => id) (fun _ => (live_iff hp).mpr live)
        (fun done => absurd done.shut takes) rfl
    · have whole := inv.balance could
      simp only [writesOf_append, ← whole]
      simp [writesOf, DriverCommand.bytes]
    · exact absurd (inv.closes pre fr after whole close).shut takes
  | @shut hdl _ held =>
    have sends := (inv.reheld held { hdl with writeShutdown := true } fun _ => rfl).sends (.close sid) rfl
    exact sends.kept rfl rfl rfl rfl rfl rfl id (fun _ => id) id id (fun _ => rfl) id
  | shutAgain => exact inv.kept rfl rfl rfl rfl rfl rfl id (fun _ => id) id id (fun _ => rfl) id
  | @resetAsked hdl rsn held =>
    exact (inv.reheld held { hdl with writeShutdown := true } fun _ => rfl).sends (.reset sid rsn) rfl
  | @dropped hdl =>
    have gone : Writing sid { lane with handle := none } :=
      inv.kept rfl rfl rfl rfl rfl rfl id (fun _ => id) id (fun _ => (by rintro _ ⟨⟩)) id id
    by_cases cancels : hdl.writeShutdown = false ∧ lane.receiving = true
    · rw [if_pos cancels]
      exact gone.sends (.cancel sid) rfl
    · rw [if_neg cancels, append_nil]
      exact gone

/-- The flags of a frame that carries the stream's own data or its end. -/
def Carries (flags : UInt8) : Prop := flags &&& flagData ≠ 0 ∨ flags &&& flagClose ≠ 0

/-- The flags of a frame after which the sender has nothing more to say. -/
def Ends (flags : UInt8) : Prop := flags &&& flagClose ≠ 0 ∨ flags &&& flagReset ≠ 0

instance (flags : UInt8) : Decidable (Carries flags) := inferInstanceAs (Decidable (_ ∨ _))

instance (flags : UInt8) : Decidable (Ends flags) := inferInstanceAs (Decidable (_ ∨ _))

/-- What was put out after `base`; the stream has been handed out before, and `past` says that
the acceptor took no bytes for it any more. -/
structure Since (past : Prop) (base : List Frame) (lane : Lane) : Prop where
  present : lane.stream ≠ none
  later : ∃ late, lane.frames = base ++ late ∧
    late.Pairwise (fun first second => Ends first.flags → ¬ Carries second.flags) ∧
    (past → ∀ fr ∈ late, ¬ Carries fr.flags) ∧
    (past ∨ (∃ fr ∈ late, Ends fr.flags) → ¬ lane.CanSend)

namespace Since
variable {past : Prop} {base : List Frame}

section
variable (inv : lane.Since past base)
include inv

theorem kept (frames : next.frames = lane.frames)
    (can : next.CanSend → lane.CanSend) (hp : lane.stream ≠ none → next.stream ≠ none) : next.Since past base := by
  obtain ⟨late, whole, apart, silent, ends⟩ := inv.later
  exact ⟨hp inv.present, late, frames.trans whole, apart, silent, fun some_ => mt can (ends some_)⟩

/-- One more frame: bytes and a close come while the acceptor takes them, and a close or a
reset ends that. -/
theorem puts (fr : Frame) (frames : next.frames = lane.frames ++ [fr])
    (carries : Carries fr.flags → lane.CanSend) (ends : Ends fr.flags → ¬ next.CanSend)
    (can : next.CanSend → lane.CanSend) (hp : lane.stream ≠ none → next.stream ≠ none) : next.Since past base := by
  obtain ⟨late, whole, apart, silent, ended⟩ := inv.later
  refine ⟨hp inv.present, late ++ [fr], ?_, ?_, fun done oid mem more => ?_, ?_⟩
  · rw [frames, whole, append_assoc]
  · refine pairwise_append.mpr ⟨apart, pairwise_singleton _ _, ?_⟩
    intro first mem snd last closes more
    rw [mem_singleton.mp last] at more
    exact ended (.inr ⟨first, mem, closes⟩) (carries more)
  · rcases mem_append.mp mem with pre | last
    · exact silent done oid pre more
    · rw [mem_singleton.mp last] at more
      exact ended (.inl done) (carries more)
  · rintro (done | ⟨oid, mem, closes⟩)
    · exact mt can (ended (.inl done))
    · rcases mem_append.mp mem with pre | last
      · exact mt can (ended (.inr ⟨oid, pre, closes⟩))
      · rw [mem_singleton.mp last] at closes
        exact ends closes

theorem resets (code : UInt8) (frames : next.frames = lane.frames ++ [.reset sid code]) (abs : next.entry = none)
    (hp : lane.stream ≠ none → next.stream ≠ none) : next.Since past base :=
  inv.puts (.reset sid code) frames (fun carries => absurd carries (show ¬ Carries flagReset by decide))
    (fun _ => not_canSend abs) (fun could => absurd could (not_canSend abs)) hp

theorem recounted {en after : StreamState} (frames : next.frames = lane.frames) (live : lane.entry = some en)
    (again : next.entry = some after) (same : after.localClosed = en.localClosed)
    (hp : lane.stream ≠ none → next.stream ≠ none) : next.Since past base := by
  refine inv.kept frames (fun could => ?_) hp
  rwa [canSend_iff live, ← same, ← canSend_iff again]

theorem step (opening : lane.Opening) (hs : LaneStep sid lane next) : next.Since past base := by
  cases hs with
  | control fr flags =>
    exact inv.puts fr rfl (fun carries => absurd carries (flags ▸ show ¬ Carries flagPong by decide))
      (fun ends => absurd ends (flags ▸ show ¬ Ends flagPong by decide)) id id
  | passed | finished | consumedLate | write | close | dropEmpty | flushCloseLate | flushIdle
  | flushWithheld | cleared | returned | lost | ended | shut | shutAgain | resetAsked | dropped =>
    exact inv.kept rfl id id
  | refused _ cls => exact inv.resets cls.resetCode rfl rfl id
  | opened hr _ unused => exact absurd (opening.unused hr unused).2.1 inv.present
  | @data _ _ _ _ closes live =>
    cases closes with
    | false => exact inv.recounted rfl live rfl rfl id
    | true =>
      refine inv.kept rfl (fun could => (canSend_iff live).mpr ?_) id
      have open_ := (closedEntry_canSend _).mp could
      exact open_
  | closed _ live => exact inv.kept rfl (fun could => (canSend_iff live).mpr ((closedEntry_canSend _).mp could)) id
  | peerReset | stop => exact inv.kept rfl (by rintro ⟨_, ⟨⟩, -⟩) id
  | credited _ _ live => exact inv.recounted rfl live rfl rfl id
  | @consumed _ en bs rest win grant _ live =>
    have counted : Since past base { lane with
        entry := some { en with receiveWindow := win, debitedNotConsumed := en.debitedNotConsumed - bs }
        commands := rest } :=
      inv.recounted rfl live rfl rfl id
    cases grant with
    | none => exact counted.kept (append_nil _) id id
    | some cr =>
      exact counted.puts (.window sid cr) rfl (fun carries => absurd carries (show ¬ Carries flagWindow by decide))
        (fun ends => absurd ends (show ¬ Ends flagWindow by decide)) id id
  | givenUp _ rsn => exact inv.resets rsn.code rfl rfl (mt discard_absent.mp)
  | givenUpLate | flushDead => exact inv.kept rfl id (mt discard_absent.mp)
  | @flushLate _ q =>
    have drained : Since past base { lane with pending := some (q.drop (chunkOf q)) } := inv.kept rfl id id
    exact drained.kept rfl id (mt discard_absent.mp)
  | sentMore | sentLast => exact inv.kept rfl id (mt map_eq_none_iff.mp)
  | @flushClose _ en _ _ live writable =>
    have closes : ¬ CanSend { lane with
        entry := if en.peerClosed then none else some { en with localClosed := true } } := by
      cases en.peerClosed <;> simp [CanSend]
    exact inv.puts ⟨sid, flagClose, []⟩ rfl (fun _ => (canSend_iff live).mpr writable)
      (fun _ => closes) (fun could => absurd could closes) id
  | flushSent _ _ _ _ live writable =>
    exact inv.puts ⟨sid, flagData, _⟩ rfl (fun _ => (canSend_iff live).mpr writable)
      (fun ends => absurd ends (show ¬ Ends flagData by decide))
      (fun _ => (canSend_iff live).mpr writable) id
  | handOut | takeData | takeEof | takeEnd | takeClosed | rewoken | accepted =>
    exact inv.kept rfl id fun _ => some_ne_none _
  | ownerGone => exact inv.kept rfl (by rintro ⟨_, ⟨⟩, -⟩) fun _ => some_ne_none _
  | signalData | signalEof =>
    rw [signal_eq]
    exact inv.kept rfl id (mt signal_absent.mp)
  | signalReset | told =>
    rw [signal_eq]
    exact inv.kept rfl id fun hp => mt signal_absent.mp (mt updateStatus_absent.mp hp)

end

end Since

end Lane

end SplRust.Home
