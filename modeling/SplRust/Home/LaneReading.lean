import SplRust.Home.LaneOpening

/-! Reading through a lane. The handle gets the bytes of the acceptor's events in their order,
sees a clean end only after the last of them, and never consumes more than was delivered. -/

namespace SplRust.Home
open SplRust.Lib SplRust.Core List Option

/-- What a stream's handle is told of an event. -/
def MuxEvent.signal : MuxEvent → Option StreamSignal
  | .data _ bytes => some (.data bytes)
  | .readClosed _ => some .readEof
  | .reset _ _ => some .reset
  | _ => none

def StreamSignal.bytes : StreamSignal → Bytes
  | .data bytes => bytes
  | _ => []

def eventBytes (events : List MuxEvent) : Bytes := events.flatMap MuxEvent.bytes

def signalBytes (signals : List StreamSignal) : Bytes := signals.flatMap StreamSignal.bytes

def consumedOf : List DriverCommand → Nat
  | [] => 0
  | .consumed _ bytes :: commands => bytes + consumedOf commands
  | _ :: commands => consumedOf commands

@[simp]
theorem eventBytes_append (first second : List MuxEvent) :
    eventBytes (first ++ second) = eventBytes first ++ eventBytes second :=
  flatMap_append

@[simp]
theorem signalBytes_append (first second : List StreamSignal) :
    signalBytes (first ++ second) = signalBytes first ++ signalBytes second :=
  flatMap_append

@[simp]
theorem consumedOf_append (first second : List DriverCommand) :
    consumedOf (first ++ second) = consumedOf first + consumedOf second := by
  induction first with
  | nil => simp [consumedOf]
  | cons command commands ih => cases command <;> simp [consumedOf, ih, Nat.add_assoc]

theorem signalBytes_signals (events : List MuxEvent) :
    signalBytes (events.filterMap MuxEvent.signal) = eventBytes events := by
  induction events with
  | nil => rfl
  | cons ev events ih =>
    rw [signalBytes, eventBytes] at ih ⊢
    cases ev <;> simp [filterMap_cons, MuxEvent.signal, MuxEvent.bytes, StreamSignal.bytes, ih]

theorem signal_eq_readEof {ev : MuxEvent} (told : ev.signal = some .readEof) :
    ∃ sid, ev = .readClosed sid := by
  cases ev <;> simp [MuxEvent.signal] at told
  exact ⟨_, rfl⟩

variable {events : List MuxEvent} {phase : EventPhase}

theorem silent_after_close {start : EventPhase}
    (closed : start = .closing ∨ start = .ended) (read : events.foldlM EventPhase.next start = some phase) :
    (phase = .closing ∨ phase = .ended) ∧ eventBytes events = [] := by
  induction events generalizing start with
  | nil => exact ⟨some.inj read ▸ closed, rfl⟩
  | cons ev events ih =>
    rw [foldlM_cons] at read
    obtain ⟨_, hs, rest⟩ := bind_eq_some_iff.mp read
    rcases closed with rfl | rfl
    · cases ev <;> simp [EventPhase.next] at hs
      · exact ih (.inl hs.symm) rest
      · exact ih (.inr hs.symm) rest
    · simp [EventPhase.next] at hs

theorem closed_of_member {start : EventPhase} {sid : UInt32} (read : events.foldlM EventPhase.next start = some phase)
    (mem : .readClosed sid ∈ events) : phase = .closing ∨ phase = .ended := by
  obtain ⟨_, _, rfl⟩ := append_of_mem mem
  rw [foldlM_append] at read
  obtain ⟨mid, -, late⟩ := bind_eq_some_iff.mp read
  rw [foldlM_cons] at late
  obtain ⟨next, hs, rest⟩ := bind_eq_some_iff.mp late
  have closed : next = .closing := by cases mid <;> simp [EventPhase.next] at hs <;> exact hs.symm
  exact (silent_after_close (.inl closed) rest).1

theorem silent_behind {more : List MuxEvent} {start : EventPhase} {sid : UInt32}
    (read : (events ++ more).foldlM EventPhase.next start = some phase)
    (mem : .readClosed sid ∈ events) : eventBytes more = [] := by
  rw [foldlM_append] at read
  obtain ⟨_, early, late⟩ := bind_eq_some_iff.mp read
  exact (silent_after_close (closed_of_member early mem) late).2

namespace Lane
variable {sid : UInt32} {lane next : Lane}

/-- Bytes that were delivered to a handle that is still there and not yet returned. -/
def unread (lane : Lane) : Nat :=
  if lane.handle.isSome then
    (lane.handle.elim [] HomeStream.readBuffer).length +
      (signalBytes (lane.stream.elim [] DriverStream.signals)).length
  else 0

def owed (lane : Lane) : Nat := consumedOf lane.commands + lane.unread + (eventBytes lane.coming).length

/-- The handle has taken a first part of the signals, and returned the bytes of that part
except those in its buffer. -/
def Heard (lane : Lane) (hdl : HomeStream) (st : DriverStream) : Prop :=
  ∃ sent taken, sent ++ lane.coming <+: lane.events ∧ (lane.running = true → sent ++ lane.coming = lane.events) ∧
    taken ++ st.signals = sent.filterMap MuxEvent.signal ∧
    signalBytes taken = lane.returned ++ hdl.readBuffer ∧
    (hdl.readEof = true → .readEof ∈ taken)

structure Reading (lane : Lane) : Prop where
  deaf : lane.receiving = false → ∀ st, lane.stream = some st → st.status.state ≠ .live
  owes : lane.running = true → ∀ en, lane.entry = some en → lane.owed ≤ en.debitedNotConsumed
  heard : ∀ hdl st, lane.handle = some hdl → lane.stream = some st → st.status.state = .live → lane.Heard hdl st
  returns : lane.returned <+: eventBytes lane.events
  ends : lane.ended = true → (∃ sid, .readClosed sid ∈ lane.events) ∧ lane.returned = eventBytes lane.events

/-- The part of the stream's record that the reading side sees. -/
def record (lane : Lane) : Option (List StreamSignal × StreamLife) :=
  lane.stream.map fun stream => (stream.signals, stream.status.state)

theorem record_eq {after : DriverStream} (record : next.record = lane.record)
    (there : next.stream = some after) : ∃ pre, lane.stream = some pre ∧
      pre.signals = after.signals ∧ pre.status.state = after.status.state := by
  rw [Lane.record, Lane.record, there, map_some] at record
  obtain ⟨pre, was, same⟩ := map_eq_some_iff.mp record.symm
  exact ⟨pre, was, congrArg Prod.fst same, congrArg Prod.snd same⟩

theorem record_release (lane : Lane) (bs : Nat) : (lane.release bs).record = lane.record := by
  simp only [record, release, updateStatus, Option.map_map]
  rfl

theorem record_discard (lane : Lane) : lane.discard.record = lane.record := by
  unfold discard
  cases lane.pending with
  | none => rfl
  | some q => exact record_release lane q.length

theorem unread_eq (record : next.record = lane.record) (handle : next.handle = lane.handle) :
    next.unread = lane.unread := by
  have signals (lane : Lane) : lane.stream.elim [] DriverStream.signals = lane.record.elim [] Prod.fst := by
    cases hp : lane.stream <;> simp [Lane.record, hp]
  simp only [unread, signals, record, handle]

namespace Reading

theorem start (used : Bool) : Reading { used := used } :=
  { deaf := (by rintro ⟨⟩), owes := (by rintro _ _ ⟨⟩), heard := (by rintro _ _ ⟨⟩), returns := prefix_refl _, ends := (by rintro ⟨⟩) }

section
variable (inv : lane.Reading) {handle : HomeStream} {st : DriverStream}
include inv

/-- Steps that do not touch the reading side; `owes` is the acceptor's part. -/
theorem moved (receiving : next.receiving = lane.receiving)
    (hr : next.running = true → lane.running = true) (record : next.record = lane.record)
    (handle : next.handle = lane.handle) (coming : next.coming = lane.coming)
    (events : next.events = lane.events) (returned : next.returned = lane.returned) (ended : next.ended = lane.ended)
    (owes : next.running = true → ∀ en, next.entry = some en →
      next.owed ≤ en.debitedNotConsumed) : next.Reading := by
  refine ⟨fun deaf after there => ?_, owes, fun held after has there live => ?_, ?_, ?_⟩
  · obtain ⟨pre, was, -, s⟩ := record_eq record there
    rw [← s]
    exact inv.deaf (receiving ▸ deaf) pre was
  · obtain ⟨pre, was, signals, s⟩ := record_eq record there
    obtain ⟨sent, taken, fits, whole, split, bs, eof⟩ := inv.heard held pre (handle ▸ has) was (s ▸ live)
    refine ⟨sent, taken, ?_, fun runs => ?_, signals ▸ split, ?_, eof⟩
    · rw [coming, events]
      exact fits
    · rw [coming, events]
      exact whole (hr runs)
    · rw [returned]
      exact bs
  · rw [returned, events]
    exact inv.returns
  · rw [returned, events, ended]
    exact inv.ends

theorem kept (receiving : next.receiving = lane.receiving)
    (hr : next.running = true → lane.running = true) (record : next.record = lane.record)
    (handle : next.handle = lane.handle) (coming : next.coming = lane.coming)
    (events : next.events = lane.events) (returned : next.returned = lane.returned) (ended : next.ended = lane.ended)
    (cmds : consumedOf next.commands = consumedOf lane.commands)
    (en : ∀ after, next.entry = some after → ∃ pre, lane.entry = some pre ∧
      pre.debitedNotConsumed = after.debitedNotConsumed) : next.Reading := by
  refine inv.moved receiving hr record handle coming events returned ended fun runs after live => ?_
  obtain ⟨pre, was, same⟩ := en after live
  have owes := inv.owes (hr runs) pre was
  rw [Lane.owed, unread_eq record handle, cmds, coming, ← same]
  exact owes

theorem reported (hr : lane.running = true) (ens : Option StreamState) (used : Bool) (events : List MuxEvent)
    (word : ∃ phase, (lane.events ++ events).foldlM EventPhase.next .idle = some phase)
    (owes : ∀ en, ens = some en → lane.owed + (eventBytes events).length ≤ en.debitedNotConsumed) :
    Reading { lane.report events with entry := ens, used := used } := by
  refine ⟨inv.deaf, fun _ en live => ?_, fun held st has there live => ?_,
    inv.returns.trans (by simp [report]), fun ended => ?_⟩
  · have enough := owes en live
    simp only [Lane.owed, report, eventBytes_append, length_append] at enough ⊢
    exact Nat.add_assoc _ _ _ ▸ enough
  · obtain ⟨sent, taken, -, whole, rest⟩ := inv.heard held st has there live
    have all : sent ++ (lane.coming ++ events) = lane.events ++ events := by rw [← append_assoc, whole hr]
    exact ⟨sent, taken, all ▸ prefix_refl _, fun _ => all, rest⟩
  · obtain ⟨⟨sid, mem⟩, whole⟩ := inv.ends ended
    obtain ⟨_, read⟩ := word
    have silent : eventBytes events = [] := silent_behind read mem
    refine ⟨⟨sid, mem_append_left _ mem⟩, ?_⟩
    show lane.returned = eventBytes (lane.events ++ events)
    rw [eventBytes_append, silent, append_nil]
    exact whole

/-- The handle takes what the driver sent it, or loses it. -/
theorem handled {after : HomeStream} {later : DriverStream}
    (held : lane.handle = some handle) (hp : lane.stream = some st)
    (live : later.status.state = .live → st.status.state = .live)
    (fewer : after.readBuffer.length + (signalBytes later.signals).length ≤
      handle.readBuffer.length + (signalBytes st.signals).length)
    (heard : later.status.state = .live → lane.Heard handle st → lane.Heard after later) :
    Reading { lane with handle := some after, stream := some later } := by
  refine ⟨fun deaf oid there => ?_, fun runs en ens => ?_,
    fun oid record has there alive => ?_, inv.returns, inv.ends⟩
  · rw [← some.inj there]
    exact mt live (inv.deaf deaf st hp)
  · have owes := inv.owes runs en ens
    simp only [Lane.owed, unread, held, hp, isSome_some, if_true, elim_some] at owes ⊢
    omega
  · obtain rfl := some.inj has
    obtain rfl := some.inj there
    exact heard alive (inv.heard handle st held hp (live alive))

/-- An event is delivered to the handle, if that is still there. -/
theorem signals {ev : MuxEvent} {rest : List MuxEvent} {signal : StreamSignal} (next : lane.coming = ev :: rest)
    (told : ev.signal = some signal) : Reading { lane.signal signal with coming := rest } := by
  have bs : signal.bytes = ev.bytes := by cases ev <;> simp [MuxEvent.signal] at told <;> rw [← told] <;> rfl
  have popped : (eventBytes lane.coming).length = ev.bytes.length + (eventBytes rest).length := by
    simp [next, eventBytes]
  cases held : lane.handle with
  | none =>
    have silent : lane.signal signal = lane := by simp [Lane.signal, held]
    rw [silent]
    refine ⟨inv.deaf, fun runs en live => ?_, fun handle st has => ?_, inv.returns, inv.ends⟩
    · have owes := inv.owes runs en live
      simp only [Lane.owed, unread, popped] at owes ⊢
      omega
    · simp [held] at has
  | some handle =>
    have streams : (lane.signal signal).stream = lane.stream.map fun st =>
        { st with signals := st.signals ++ [signal] } := by
      simp [Lane.signal, held]
    rw [signal_eq, streams]
    refine ⟨fun deaf after there => ?_, fun runs en live => ?_,
      fun oid after has there live => ?_, inv.returns, inv.ends⟩
    · obtain ⟨pre, was, rfl⟩ := map_eq_some_iff.mp there
      exact inv.deaf deaf pre was
    · have owes := inv.owes runs en live
      cases hp : lane.stream <;>
        simp [Lane.owed, unread, popped, held, hp, signalBytes, bs] at owes ⊢ <;> omega
    · obtain ⟨pre, was, rfl⟩ := map_eq_some_iff.mp there
      obtain ⟨sent, taken, fits, whole, split, returned, eof⟩ := inv.heard oid pre has was live
      have shift : sent ++ [ev] ++ rest = sent ++ lane.coming := by simp [next]
      refine ⟨sent ++ [ev], taken, ?_, fun runs => ?_, ?_, returned, eof⟩
      · rw [shift]
        exact fits
      · rw [shift]
        exact whole runs
      · rw [← append_assoc, split, filterMap_append]
        simp [told]

theorem enters (s : StreamLife) (dead : s ≠ .live) : (lane.enter s).Reading := by
  have past : ∀ after, (lane.enter s).stream = some after → after.status.state ≠ .live := by
    intro after there
    obtain ⟨_, _, rfl⟩ := map_eq_some_iff.mp there
    exact dead
  refine ⟨fun _ => past, fun runs en live => ?_,
    fun handle after has there live => absurd live (past after there), inv.returns, inv.ends⟩
  have owes := inv.owes runs en live
  cases hp : lane.stream <;> simp [Lane.owed, unread, enter, updateStatus, hp] at owes ⊢ <;> exact owes

theorem told (left : lane.running = false) : ((lane.enter .gone).signal .gone).Reading := by
  have past : ∀ after, ((lane.enter .gone).signal .gone).stream = some after → after.status.state ≠ .live := by
    intro after there
    obtain ⟨_, between, status, -⟩ := signal_signals there
    obtain ⟨_, _, rfl⟩ := map_eq_some_iff.mp between
    rw [← status]
    rintro ⟨⟩
  rw [signal_eq] at past ⊢
  refine ⟨fun _ => past, fun runs => ?_,
    fun handle after has there live => absurd live (past after there), inv.returns, inv.ends⟩
  have stays : lane.running = true := runs
  rw [left] at stays
  cases stays

theorem takes {after : HomeStream} {signal : StreamSignal}
    {rest : List StreamSignal} (held : lane.handle = some handle)
    (hp : lane.stream = some st) (next : st.signals = signal :: rest)
    (empty : handle.readBuffer = []) (bs : after.readBuffer = signal.bytes)
    (eof : after.readEof = true → handle.readEof = true ∨ signal = .readEof) : Reading { lane with
      handle := some after, stream := some { st with signals := rest } } := by
  refine inv.handled held hp id ?_ fun _ heard => ?_
  · simp [next, bs, empty, signalBytes]
  · obtain ⟨sent, taken, fits, whole, split, returned, ended⟩ := heard
    refine ⟨sent, taken ++ [signal], fits, whole, ?_, ?_, fun done => ?_⟩
    · rw [append_assoc, ← split, next]
      rfl
    · rw [signalBytes_append, returned, empty, bs]
      simp [signalBytes]
    · rcases eof done with pre | rfl
      · exact mem_append_left _ (ended pre)
      · exact mem_append_right _ mem_cons_self

/-- What the handle returned and holds was accepted, and it is all of it at a clean end. -/
theorem heard_bytes (opening : lane.Opening) (held : lane.handle = some handle)
    (hp : lane.stream = some st) (live : st.status.state = .live) :
    lane.returned ++ handle.readBuffer <+: eventBytes lane.events ∧
      (handle.readEof = true → (∃ sid, .readClosed sid ∈ lane.events) ∧
        lane.returned ++ handle.readBuffer = eventBytes lane.events) := by
  obtain ⟨_, taken, ⟨rest, whole⟩, -, split, returned, eof⟩ := inv.heard handle st held hp live
  have bs : eventBytes lane.events =
      signalBytes taken ++ signalBytes st.signals ++ eventBytes (lane.coming ++ rest) := by
    rw [← whole, append_assoc, eventBytes_append, ← signalBytes_signals, ← split, signalBytes_append]
  refine ⟨?_, fun done => ?_⟩
  · rw [← returned, bs, append_assoc]
    exact prefix_append _ _
  · obtain ⟨_, _, parts⟩ := append_of_mem (eof done)
    rw [parts, append_assoc, cons_append] at split
    obtain ⟨early, _, cut, -, tail⟩ := filterMap_eq_append_iff.mp split.symm
    obtain ⟨skipped, _, behind, cutLate, -, told, followed⟩ := filterMap_eq_cons_iff.mp tail
    obtain ⟨sid, rfl⟩ := signal_eq_readEof told
    have events : lane.events = (early ++ skipped ++ [.readClosed sid]) ++ (behind ++ (lane.coming ++ rest)) := by
      rw [← whole, cut, cutLate]
      simp
    have mem : .readClosed sid ∈ early ++ skipped ++ [.readClosed sid] := mem_append_right _ mem_cons_self
    obtain ⟨_, read, -⟩ := opening.word
    rw [reached, events] at read
    have silent := silent_behind read mem
    rw [eventBytes_append] at silent
    obtain ⟨silentBehind, silentRest⟩ := append_eq_nil_iff.mp silent
    rw [← signalBytes_signals, followed, signalBytes_append] at silentBehind
    refine ⟨⟨sid, events ▸ mem_append_left _ mem⟩, ?_⟩
    rw [← returned, bs, (append_eq_nil_iff.mp silentBehind).2, silentRest, append_nil, append_nil]

theorem reheld (held : lane.handle = some handle)
    (after : HomeStream) (fewer : after.readBuffer.length ≤ handle.readBuffer.length)
    (heard : ∀ st, lane.stream = some st → st.status.state = .live →
      lane.Heard handle st → lane.Heard after st) : Reading { lane with handle := some after } := by
  refine ⟨inv.deaf, fun runs en live => ?_, fun oid st has there live => ?_, inv.returns, inv.ends⟩
  · have owes := inv.owes runs en live
    simp only [Lane.owed, unread, held, isSome_some, if_true, elim_some] at owes ⊢
    omega
  · obtain rfl := some.inj has
    exact heard st there live (inv.heard handle st held there live)

end

theorem closedEntry_debited {en after : StreamState} (closed : MuxStreams.closedEntry en = some after) :
    after.debitedNotConsumed = en.debitedNotConsumed := by
  unfold MuxStreams.closedEntry at closed
  split at closed
  · cases closed
  · rw [← some.inj closed]

theorem step (inv : lane.Reading) (opening : lane.Opening) (hs : LaneStep sid lane next) : next.Reading := by
  have word : ∃ phase, next.events.foldlM EventPhase.next .idle = some phase :=
    (opening.step hs).word.imp fun _ read => read.1
  have ens : ∀ after, lane.entry = some after → ∃ pre, lane.entry = some pre ∧
      pre.debitedNotConsumed = after.debitedNotConsumed :=
    fun after live => ⟨after, live, rfl⟩
  cases hs with
  | control | passed | dropEmpty | flushCloseLate | flushIdle | flushWithheld =>
    exact inv.kept rfl id rfl rfl rfl rfl rfl rfl rfl ens
  | refused hr _ used kept =>
    have reported := inv.reported hr none used _ word (by rintro _ ⟨⟩)
    exact reported.kept rfl id rfl rfl rfl rfl rfl rfl rfl (by rintro _ ⟨⟩)
  | @opened hr _ unused fr =>
    have blank := opening.blank (opening.unused hr unused).2.1
    have coming : lane.coming = [] := by
      obtain ⟨_, -, fits, -⟩ := opening.delivered
      rw [(opening.unused hr unused).2.2] at fits
      exact (append_eq_nil_iff.mp (prefix_nil.mp fits)).2
    have nothing : lane.owed = 0 := by
      simp [Lane.owed, unread, blank.commands, blank.handle, coming, consumedOf, eventBytes]
    refine inv.reported hr _ true _ word fun en same => ?_
    rw [← some.inj same, nothing]
    by_cases carries : fr.payload ≠ [] ∨ fr.flags &&& flagData ≠ 0 <;>
      by_cases closes : fr.flags &&& flagClose ≠ 0 <;>
      simp [carries, closes, eventBytes, MuxEvent.bytes]
  | @data hr en _ pl closes live =>
    have owes := inv.owes hr en live
    refine inv.reported hr _ lane.used _ word fun after same => ?_
    have grown : after.debitedNotConsumed = en.debitedNotConsumed + pl.length := by
      cases closes with
      | false => rw [← some.inj same]
      | true => 
        have kept := closedEntry_debited same
        exact kept
    have bs : (eventBytes (.data sid pl :: (if closes then [.readClosed sid] else []))).length = pl.length := by
      cases closes <;> simp [eventBytes, MuxEvent.bytes]
    rw [grown, bs]
    omega
  | closed hr live =>
    refine inv.reported hr _ lane.used _ word fun after same => ?_
    rw [closedEntry_debited same]
    exact inv.owes hr _ live
  | peerReset hr => exact inv.reported hr none lane.used _ word (by rintro _ ⟨⟩)
  | credited _ _ live | flushSent _ _ _ _ live =>
    exact inv.kept rfl id rfl rfl rfl rfl rfl rfl rfl fun after en =>
      ⟨_, live, by rw [← some.inj en]⟩
  | consumed hr pops live =>
    refine inv.moved rfl id rfl rfl rfl rfl rfl rfl fun _ after en => ?_
    have owes := inv.owes hr _ live
    rw [← some.inj en]
    simp only [Lane.owed, pops, consumedOf, unread, put] at owes ⊢
    omega
  | consumedLate _ _ abs => exact inv.moved rfl id rfl rfl rfl rfl rfl rfl fun _ en live => by simp [abs] at live
  | write hr pops | close hr pops => exact inv.kept rfl id rfl rfl rfl rfl rfl rfl (by rw [pops]; rfl) ens
  | givenUp => exact inv.moved rfl id (record_discard lane) rfl rfl rfl rfl rfl (by rintro _ _ ⟨⟩)
  | givenUpLate _ _ _ _ abs =>
    exact inv.moved rfl id (record_discard lane) rfl rfl rfl rfl rfl fun _ en live => by
      simp [discard, abs] at live
  | flushDead => exact inv.kept rfl id (record_discard lane) rfl rfl rfl rfl rfl rfl ens
  | flushLate => exact inv.kept rfl id (record_discard _) rfl rfl rfl rfl rfl rfl ens
  | sentMore | sentLast => exact inv.kept rfl id (record_release lane _) rfl rfl rfl rfl rfl rfl ens
  | @flushClose _ en _ _ live =>
    refine inv.kept rfl id rfl rfl rfl rfl rfl rfl rfl fun after same => ⟨en, live, ?_⟩
    cases peerClosed : en.peerClosed <;> simp [peerClosed] at same
    rw [← same]
  | @handOut hr rest opens =>
    have abs := (opening.delivers hr opens).mpr ⟨_, rfl⟩
    have blank := opening.blank abs
    obtain ⟨_, opened, -, whole⟩ := opening.delivered
    have all : [.opened sid] ++ rest = lane.events := by
      rw [← whole hr, opened.mpr abs, opens]
      rfl
    refine ⟨fun deaf => ?_, fun _ en live => ?_, fun handle st has there _ => ?_, inv.returns, inv.ends⟩
    · have hears : lane.receiving = true := opening.hears hr
      rw [hears] at deaf
      cases deaf
    · have owes := inv.owes hr en live
      simpa [Lane.owed, unread, blank.handle, opens, eventBytes, MuxEvent.bytes, signalBytes] using owes
    · obtain rfl := some.inj has
      obtain rfl := some.inj there
      refine ⟨[.opened sid], [], all ▸ prefix_refl _, fun _ => all, rfl, ?_, (by rintro ⟨⟩)⟩
      rw [blank.returned]
      rfl
  | @ownerGone hr _ opens =>
    have blank := opening.blank ((opening.delivers hr opens).mpr ⟨_, rfl⟩)
    refine ⟨fun deaf => ?_, (by rintro ⟨⟩), fun handle st has => ?_, inv.returns, inv.ends⟩
    · have hears : lane.receiving = true := opening.hears hr
      have silent : lane.receiving = false := deaf
      rw [hears] at silent
      cases silent
    · have held : lane.handle = some handle := has
      rw [blank.handle] at held
      cases held
  | signalData hr next | signalEof hr next => exact inv.signals next rfl
  | signalReset _ next => exact (inv.enters .reset (by rintro ⟨⟩)).signals next rfl
  | stop =>
    refine ⟨inv.deaf, (by rintro ⟨⟩), fun handle st has there live => ?_, inv.returns, inv.ends⟩
    obtain ⟨sent, taken, fits, -, rest⟩ := inv.heard handle st has there live
    refine ⟨sent, taken, ?_, (by rintro ⟨⟩), rest⟩
    show sent ++ [] <+: lane.events
    rw [append_nil]
    exact (prefix_append sent lane.coming).trans fits
  | told left => exact inv.told left
  | finished _ gone => exact { inv with deaf := fun _ st there => by simp [gone st there] }
  | takeData held hp _ empty _ next => exact inv.takes held hp next empty rfl .inl
  | takeEof held hp _ empty next => exact inv.takes held hp next empty empty fun _ => .inr rfl
  | takeEnd _ dead held hp next =>
    refine inv.handled held hp (fun live => absurd live dead) ?_ fun live => absurd live dead
    simp only [next, signalBytes, flatMap_cons, length_append, length_nil]
    omega
  | takeClosed _ held hp => exact inv.handled held hp (by rintro ⟨⟩) (by simp) (by rintro ⟨⟩)
  | cleared held hp dead =>
    refine inv.reheld held _ (Nat.zero_le _) fun st there live => ?_
    rw [some.inj (hp.symm.trans there)] at dead
    exact absurd live dead
  | @returned handle _ count _ held hp live fits =>
    have bs := (inv.heard_bytes opening held hp live).1
    have split : handle.readBuffer.take count ++ handle.readBuffer.drop count = handle.readBuffer :=
      take_append_drop _ _
    have within : lane.returned ++ handle.readBuffer.take count <+: eventBytes lane.events := by
      rw [← split, ← append_assoc] at bs
      exact (prefix_append _ _).trans bs
    refine ⟨inv.deaf, fun runs en ens => ?_, fun oid record has there alive => ?_, within, fun ended => ?_⟩
    · have owes := inv.owes runs en ens
      simp [Lane.owed, unread, held, consumedOf] at owes ⊢
      omega
    · obtain rfl := some.inj has
      obtain ⟨sent, taken, fits, whole, parts, returned, eof⟩ := inv.heard handle record held there alive
      refine ⟨sent, taken, fits, whole, parts, ?_, eof⟩
      show signalBytes taken = lane.returned ++ handle.readBuffer.take count ++ handle.readBuffer.drop count
      rw [append_assoc, split]
      exact returned
    · obtain ⟨closed, all⟩ := inv.ends ended
      refine ⟨closed, within.eq_of_length_le ?_⟩
      rw [← all]
      simp
  | lost _ deaf held =>
    refine inv.reheld held _ (by simp) fun st there live => ?_
    exact absurd live (inv.deaf deaf st there)
  | ended held hp live empty done =>
    obtain ⟨closed, whole⟩ := (inv.heard_bytes opening held hp live).2 done
    rw [empty, append_nil] at whole
    exact { inv with ends := fun _ => ⟨closed, whole⟩ }
  | rewoken _ hp =>
    refine inv.kept rfl id ?_ rfl rfl rfl rfl rfl rfl ens
    simp [Lane.record, hp]
  | accepted _ _ _ hp =>
    refine inv.kept rfl id ?_ rfl rfl rfl rfl rfl ?_ ens
    · simp [Lane.record, hp]
    · simp [consumedOf]
  | @shut handle _ held | @resetAsked handle _ held =>
    have shut := inv.reheld held { handle with writeShutdown := true } le_rfl fun _ _ _ heard => heard
    exact shut.kept rfl id rfl rfl rfl rfl rfl rfl (by simp [consumedOf]) ens
  | shutAgain => exact inv.kept rfl id rfl rfl rfl rfl rfl rfl rfl ens
  | @dropped handle =>
    refine ⟨inv.deaf, fun runs en live => ?_, (by rintro _ _ ⟨⟩), inv.returns, inv.ends⟩
    have owes := inv.owes runs en live
    have quiet : consumedOf (if handle.writeShutdown = false ∧ lane.receiving = true then
        [.cancel sid] else []) = 0 := by
      split <;> rfl
    simp only [Lane.owed, unread, consumedOf_append, quiet] at owes ⊢
    simp only [isSome_none, Bool.false_eq_true, if_false]
    omega

end Reading

end Lane

end SplRust.Home
