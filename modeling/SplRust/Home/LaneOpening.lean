import SplRust.Home.Lane

/-! The order of events in a lane. Nothing is kept for a stream before it is handed out, its
events follow the acceptor's grammar, and a stream that is marked dead while the driver runs
has seen the reset that killed it. -/

namespace SplRust.Home
open SplRust.Lib SplRust.Core List Option EventPhase
variable {phase : EventPhase} {update : StreamStatus → StreamStatus} {signal : StreamSignal}

namespace Lane

/-- Nothing is known of the stream yet. -/
structure Blank (lane : Lane) : Prop where
  pending : lane.pending = none
  ready : lane.ready = false
  closing : lane.closing = false
  commands : lane.commands = []
  handle : lane.handle = none
  held : lane.held = 0
  accepted : lane.accepted = []
  returned : lane.returned = []
  ended : lane.ended = false

def reached (lane : Lane) : Option EventPhase := lane.events.foldlM EventPhase.next .idle

structure Opening (lane : Lane) : Prop where
  hears : lane.running = true → lane.receiving = true
  unused : lane.running = true → lane.used = false → lane.entry = none ∧ lane.stream = none ∧ lane.events = []
  blank : lane.stream = none → lane.Blank
  word : ∃ phase, lane.reached = some phase ∧ ∀ en, lane.entry = some en → phase = .of en
  delivered : ∃ sent, (sent = [] ↔ lane.stream = none) ∧ sent ++ lane.coming <+: lane.events ∧
    (lane.running = true → sent ++ lane.coming = lane.events)
  dead : lane.running = true → ¬ lane.Live → lane.reached = some .ended
  ending : lane.running = true → ∀ st, lane.stream = some st →
    .reset ∈ st.signals ∨ .gone ∈ st.signals → lane.reached = some .ended

variable {sid : UInt32} {lane next : Lane}

theorem live_iff {stream : DriverStream} (hp : lane.stream = some stream) :
    lane.Live ↔ stream.status.state = .live := by
  simp [Live, hp]

theorem live_of_absent (abs : lane.stream = none) : lane.Live := by simp [Live, abs]

theorem absent_of_enter (s : StreamLife) (dead : s ≠ .live)
    (live : (lane.enter s).Live) : lane.stream = none := by
  cases hp : lane.stream with
  | none => rfl
  | some stream =>
    have there : (lane.enter s).stream = some { stream with status := { stream.status with state := s } } := by
      simp [enter, updateStatus, hp]
    exact absurd ((live_iff there).mp live) dead

theorem live_updateStatus
    (kept : ∀ status, (update status).state = status.state) : (lane.updateStatus update).Live ↔ lane.Live := by
  simp only [Live, updateStatus, map_eq_some_iff]
  constructor
  · intro live stream hp
    rw [← kept]
    exact live _ ⟨stream, hp, rfl⟩
  · rintro live _ ⟨stream, hp, rfl⟩
    exact (kept _).trans (live stream hp)

theorem live_release (bs : Nat) : (lane.release bs).Live ↔ lane.Live := live_updateStatus fun _ => rfl

theorem updateStatus_absent : (lane.updateStatus update).stream = none ↔ lane.stream = none := map_eq_none_iff

theorem discard_absent : lane.discard.stream = none ↔ lane.stream = none := by
  unfold discard
  cases lane.pending with
  | none => rfl
  | some q => exact map_eq_none_iff

theorem live_discard : lane.discard.Live ↔ lane.Live := by
  unfold discard
  cases lane.pending with
  | none => rfl
  | some q => exact live_release q.length

theorem live_signal (signal : StreamSignal) : (lane.signal signal).Live ↔ lane.Live := by
  unfold Lane.signal
  split
  · simp only [Live, map_eq_some_iff]
    constructor
    · intro live stream hp
      have kept := live _ ⟨stream, hp, rfl⟩
      exact kept
    · rintro live _ ⟨stream, hp, rfl⟩
      exact live stream hp
  · rfl

theorem signal_eq (signal : StreamSignal) :
    lane.signal signal = { lane with stream := (lane.signal signal).stream } := by
  unfold Lane.signal
  split <;> rfl

theorem signal_absent : (lane.signal signal).stream = none ↔ lane.stream = none := by
  unfold Lane.signal
  split
  · exact map_eq_none_iff
  · rfl

theorem signal_signals {stream : DriverStream} (hp : (lane.signal signal).stream = some stream) :
    ∃ pre, lane.stream = some pre ∧ pre.status = stream.status ∧
      ∀ oid ∈ stream.signals, oid ∈ pre.signals ∨ oid = signal := by
  unfold Lane.signal at hp
  split at hp
  · obtain ⟨pre, there, rfl⟩ := map_eq_some_iff.mp hp
    refine ⟨pre, there, rfl, fun oid mem => ?_⟩
    exact (mem_append.mp mem).imp_right mem_singleton.mp
  · exact ⟨stream, hp, rfl, fun oid mem => Or.inl mem⟩

end Lane

theorem reached_reset {events : List MuxEvent} {start : EventPhase} {sid : UInt32}
    {rsn : ResetReason} (read : events.foldlM EventPhase.next start = some phase)
    (mem : .reset sid rsn ∈ events) : phase = .ended := by
  induction events generalizing start with
  | nil => cases mem
  | cons ev events ih =>
    rw [foldlM_cons] at read
    obtain ⟨mid, hs, rest⟩ := bind_eq_some_iff.mp read
    rcases mem_cons.mp mem with rfl | later
    · have ended : mid = .ended := by cases start <;> simp [EventPhase.next] at hs <;> exact hs.symm
      subst ended
      obtain rfl := read_ended rest
      simpa using rest.symm
    · exact ih rest later

theorem EventPhase.of_ne_ended (en : StreamState) : EventPhase.of en ≠ .ended := by
  unfold EventPhase.of
  split <;> decide

theorem EventPhase.idle_of_opened {after : EventPhase} {sid : UInt32}
    (hs : phase.next (.opened sid) = some after) : phase = .idle := by
  cases phase <;> simp [EventPhase.next] at hs
  rfl

theorem EventPhase.next_ne_idle {after : EventPhase} {ev : MuxEvent}
    (hs : phase.next ev = some after) : after ≠ .idle := by
  rintro rfl
  cases phase <;> cases ev <;> simp [EventPhase.next] at hs

theorem reached_ne_idle {events : List MuxEvent} {start : EventPhase}
    (read : events.foldlM EventPhase.next start = some phase) (some_ : events ≠ []) : phase ≠ .idle := by
  induction events generalizing start with
  | nil => exact absurd rfl some_
  | cons ev events ih =>
    rw [foldlM_cons] at read
    obtain ⟨mid, hs, rest⟩ := bind_eq_some_iff.mp read
    by_cases last : events = []
    · subst last
      obtain rfl : mid = phase := by simpa using rest
      exact next_ne_idle hs
    · exact ih rest last

namespace Lane.Opening
variable {rest : List MuxEvent} {ev : MuxEvent}
variable {sid : UInt32} {lane : Lane}

theorem start (used : Bool) : Opening { used := used } :=
  { hears := fun _ => rfl
    unused := fun _ _ => ⟨rfl, rfl, rfl⟩
    blank := fun _ => ⟨rfl, rfl, rfl, rfl, rfl, rfl, rfl, rfl, rfl⟩
    word := ⟨.idle, rfl, (by rintro _ ⟨⟩)⟩
    delivered := ⟨[], by simp, prefix_refl _, fun _ => rfl⟩
    dead := fun _ dead => absurd (by rintro _ ⟨⟩) dead
    ending := (by rintro _ _ ⟨⟩) }

section
variable (inv : lane.Opening)
include inv

theorem present_of_handle {hdl : HomeStream} (held : lane.handle = some hdl) : lane.stream ≠ none := by
  intro abs
  rw [(inv.blank abs).handle] at held
  cases held

theorem present_of_command {cmd : DriverCommand} {rest : List DriverCommand} (popped : lane.commands = cmd :: rest) : lane.stream ≠ none := by
  intro abs
  rw [(inv.blank abs).commands] at popped
  cases popped

theorem present_of_pending {q : Bytes} (wait : lane.pending = some q) : lane.stream ≠ none := by
  intro abs
  rw [(inv.blank abs).pending] at wait
  cases wait

theorem mem_events (mem : ev ∈ lane.coming) : ev ∈ lane.events := by
  obtain ⟨sent, -, ⟨rest, whole⟩, -⟩ := inv.delivered
  rw [← whole]
  exact mem_append_left rest (mem_append_right sent mem)

theorem reached_ended {rsn : ResetReason}
    (mem : .reset sid rsn ∈ lane.coming) : lane.reached = some .ended := by
  obtain ⟨_, read, -⟩ := inv.word
  rw [read, reached_reset read (inv.mem_events mem)]

theorem entry_of_ended (ended : lane.reached = some .ended) : lane.entry = none := by
  obtain ⟨phase, read, agrees⟩ := inv.word
  cases live : lane.entry with
  | none => rfl
  | some en =>
    have same : phase = .ended := some.inj (read.symm.trans ended)
    exact absurd ((agrees en live).symm.trans same) (of_ne_ended en)

/-- An entry whose reading side is as before. -/
theorem reentered {ens : Option StreamState}
    (agrees : ∀ after, ens = some after → ∃ pre, lane.entry = some pre ∧
      EventPhase.of pre = .of after) : Opening { lane with entry := ens } := by
  refine { inv with
    unused := fun hr unused => ?_
    blank := fun abs => { inv.blank abs with }
    word := ?_ }
  · obtain ⟨abs, rest⟩ := inv.unused hr unused
    refine ⟨?_, rest⟩
    cases again : ens with
    | none => rfl
    | some after =>
      obtain ⟨_, live, -⟩ := agrees after again
      rw [abs] at live
      cases live
  · obtain ⟨phase, read, same⟩ := inv.word
    refine ⟨phase, read, fun after again => ?_⟩
    obtain ⟨pre, live, kept⟩ := agrees after again
    exact (same pre live).trans kept

theorem recounted {pre : StreamState} (live : lane.entry = some pre)
    (after : StreamState) (same : after.peerClosed = pre.peerClosed) :
    Opening { lane with entry := some after } := by
  refine inv.reentered fun en again => ⟨pre, live, ?_⟩
  rw [← some.inj again, EventPhase.of, EventPhase.of, same]

theorem gone : Opening { lane with entry := none } := inv.reentered (by rintro _ ⟨⟩)

/-- The acceptor reports events that fit the entry it leaves. -/
theorem reported {phase : EventPhase} (hr : lane.running = true)
    (ens : Option StreamState) (used : Bool) (events : List MuxEvent) (after : EventPhase)
    (read : lane.reached = some phase) (next : events.foldlM EventPhase.next phase = some after)
    (agrees : ∀ en, ens = some en → after = .of en)
    (unused : used = false → lane.used = false ∧ ens = none ∧ events = []) :
    Opening { lane.report events with entry := ens, used := used } := by
  have grown : Lane.reached { lane.report events with entry := ens, used := used } = some after := by
    have whole : (lane.events ++ events).foldlM EventPhase.next .idle = some after := by
      rw [foldlM_append]
      exact bind_eq_some_iff.mpr ⟨phase, read, next⟩
    exact whole
  have ended (past : lane.reached = some .ended) : after = .ended := by
    obtain rfl : EventPhase.ended = phase := some.inj (past.symm.trans read)
    obtain rfl := read_ended next
    simpa using next.symm
  refine ⟨inv.hears, fun _ fresh => ?_, fun abs => ?_, ⟨after, grown, agrees⟩, ?_,
    fun hr dead => ?_, fun hr stream hp told => ?_⟩
  · obtain ⟨pre, abs, silent⟩ := unused fresh
    obtain ⟨-, unopened, nothing⟩ := inv.unused hr pre
    refine ⟨abs, unopened, ?_⟩
    show lane.events ++ events = []
    rw [nothing, silent]
    rfl
  · exact { inv.blank abs with }
  · obtain ⟨sent, opened, -, whole⟩ := inv.delivered
    have all : sent ++ (lane.coming ++ events) = lane.events ++ events := by rw [← append_assoc, whole hr]
    exact ⟨sent, opened, all ▸ prefix_refl _, fun _ => all⟩
  · rw [grown, ended (inv.dead hr dead)]
  · rw [grown, ended (inv.ending hr stream hp told)]

/-- The status changes, but not whether the stream is alive. -/
theorem updated (kept : ∀ status, (update status).state = status.state) : (lane.updateStatus update).Opening := by
  refine { inv with
    unused := fun hr unused => ?_
    blank := fun abs => { inv.blank (updateStatus_absent.mp abs) with }
    delivered := ?_
    dead := fun hr dead => inv.dead hr fun live =>
      dead ((live_updateStatus kept).mpr live)
    ending := fun hr stream hp told => ?_ }
  · obtain ⟨en, unopened, silent⟩ := inv.unused hr unused
    exact ⟨en, updateStatus_absent.mpr unopened, silent⟩
  · obtain ⟨sent, opened, rest⟩ := inv.delivered
    exact ⟨sent, opened.trans updateStatus_absent.symm, rest⟩
  · obtain ⟨pre, there, rfl⟩ := map_eq_some_iff.mp hp
    exact inv.ending hr pre there told

theorem released (bs : Nat) : (lane.release bs).Opening := inv.updated fun _ => rfl

theorem discarded : lane.discard.Opening := by
  unfold discard
  cases lane.pending with
  | none => exact { inv with blank := fun abs => { inv.blank abs with pending := rfl, ready := rfl, closing := rfl } }
  | some q =>
    have released := inv.released q.length
    exact { released with
      blank := fun abs => { released.blank abs with pending := rfl, ready := rfl, closing := rfl } }

section
variable (hr : lane.running = true)
include hr

section
variable (next : lane.coming = ev :: rest)
include next

/-- What is delivered first after the stream was handed out is not another opening. -/
theorem delivers : lane.stream = none ↔ ∃ sid, ev = .opened sid := by
  obtain ⟨_, read, -⟩ := inv.word
  obtain ⟨_, opened, -, whole⟩ := inv.delivered
  have all := whole hr
  rw [next] at all
  rw [reached, ← all, foldlM_append] at read
  obtain ⟨mid, early, late⟩ := bind_eq_some_iff.mp read
  rw [foldlM_cons] at late
  obtain ⟨_, hs, -⟩ := bind_eq_some_iff.mp late
  rw [← opened]
  constructor
  · rintro rfl
    obtain rfl : idle = mid := by simpa using early
    cases ev <;> simp [EventPhase.next] at hs
    exact ⟨_, rfl⟩
  · rintro ⟨_, rfl⟩
    by_contra some_
    exact reached_ne_idle early some_ (idle_of_opened hs)

theorem present_of_coming (later : ∀ sid, ev ≠ .opened sid) : lane.stream ≠ none := by
  intro abs
  obtain ⟨sid, opens⟩ := (inv.delivers hr next).mp abs
  exact later sid opens

/-- An event is delivered; the stream is there from then on. -/
theorem popped {streams : Option DriverStream} (there : streams ≠ none) (status : ∀ stream, streams = some stream →
      stream.status.state ≠ .live ∨ .reset ∈ stream.signals ∨ .gone ∈ stream.signals →
        lane.reached = some .ended) : Opening { lane with stream := streams, coming := rest } := by
  refine { inv with
    unused := fun _ unused => ?_
    blank := fun abs => absurd abs there
    delivered := ?_
    dead := fun _ dead => ?_
    ending := fun _ stream hp told => status stream hp (.inr told) }
  · obtain ⟨-, -, silent⟩ := inv.unused hr unused
    have mem := inv.mem_events (next ▸ mem_cons_self)
    rw [silent] at mem
    cases mem
  · obtain ⟨sent, -, -, whole⟩ := inv.delivered
    have all : (sent ++ [ev]) ++ rest = lane.events := by
      rw [append_assoc, singleton_append, ← next]
      exact whole hr
    exact ⟨sent ++ [ev], by simp [there], all ▸ prefix_refl _, fun _ => all⟩
  · simp only [Live, not_forall] at dead
    obtain ⟨stream, hp, s⟩ := dead
    exact status stream hp (.inl s)

theorem handed : Opening { lane with stream := some {}, coming := rest } := by
  refine inv.popped hr next (some_ne_none _) fun stream hp told => ?_
  rw [← some.inj hp] at told
  simp at told

theorem signalled (hp : lane.stream ≠ none) (keeps : signal ≠ .reset ∧ signal ≠ .gone) :
    Opening { lane.signal signal with coming := rest } := by
  have held : Opening { lane with stream := (lane.signal signal).stream, coming := rest } := by
    refine inv.popped hr next (fun abs => hp (signal_absent.mp abs)) ?_
    intro stream there told
    obtain ⟨pre, was, status, signals⟩ := signal_signals there
    rcases told with dead | reset | gone
    · exact inv.dead hr fun live => dead (status ▸ live pre was)
    · exact inv.ending hr pre was (.inl ((signals _ reset).resolve_right keeps.1.symm))
    · exact inv.ending hr pre was (.inr ((signals _ gone).resolve_right keeps.2.symm))
  rw [signal_eq]
  exact held

end

end

theorem stopped : lane.stop.Opening := by
  refine { hears := (by rintro ⟨⟩), unused := (by rintro ⟨⟩), blank := fun abs => ?_, word := ?_,
           delivered := ?_, dead := (by rintro ⟨⟩), ending := (by rintro ⟨⟩) }
  · exact { inv.blank abs with held := rfl }
  · obtain ⟨phase, read, -⟩ := inv.word
    exact ⟨phase, read, (by rintro _ ⟨⟩)⟩
  · obtain ⟨sent, opened, fits, -⟩ := inv.delivered
    refine ⟨sent, opened, ?_, (by rintro ⟨⟩)⟩
    show sent ++ [] <+: lane.events
    rw [append_nil]
    exact (prefix_append sent lane.coming).trans fits

/-- A change of the stream's own record, made by its handle. -/
theorem restreamed {pre : DriverStream} (handles : Option HomeStream)
    (after : DriverStream) (hp : lane.stream = some pre)
    (dead : lane.running = true → after.status.state ≠ .live →
      pre.status.state ≠ .live ∨ .reset ∈ pre.signals ∨ .gone ∈ pre.signals)
    (fewer : ∀ signal ∈ after.signals, signal ∈ pre.signals) :
    Opening { lane with stream := some after, handle := handles } := by
  refine { inv with
    unused := fun hr unused => ?_
    blank := by rintro ⟨⟩
    delivered := ?_
    dead := fun hr gone => ?_
    ending := fun hr stream there told => ?_ }
  · obtain ⟨-, abs, -⟩ := inv.unused hr unused
    rw [abs] at hp
    cases hp
  · obtain ⟨sent, opened, rest⟩ := inv.delivered
    exact ⟨sent, by simpa [hp] using opened, rest⟩
  · have s : after.status.state ≠ .live := by
      intro live
      exact gone fun stream there => some.inj there ▸ live
    rcases dead hr s with pre | told
    · exact inv.dead hr fun live => pre (live _ hp)
    · exact inv.ending hr _ hp told
  · obtain rfl : after = stream := some.inj there
    exact inv.ending hr pre hp (told.imp (fewer _) (fewer _))

theorem left (left : lane.running = false) (streams : Option DriverStream)
    (same : streams = none ↔ lane.stream = none) : Opening { lane with stream := streams } := by
  have hr {motive : Prop} (hr : lane.running = true) : motive := by
    rw [left] at hr
    cases hr
  obtain ⟨sent, opened, fits, whole⟩ := inv.delivered
  exact { inv with
    unused := fun stays => hr stays
    blank := fun abs => { inv.blank (same.mp abs) with }
    delivered := ⟨sent, opened.trans same.symm, fits, whole⟩
    dead := fun stays => hr stays
    ending := fun stays => hr stays }

theorem step {next : Lane} (hs : LaneStep sid lane next) : next.Opening := by
  cases hs with
  | control => exact { inv with blank := fun abs => { inv.blank abs with } }
  | passed _ abs => exact { inv with unused := (by rintro _ ⟨⟩), blank := fun abs => { inv.blank abs with } }
  | refused hr cls used kept =>
    obtain ⟨phase, read, agrees⟩ := inv.word
    have unused (fresh : used = false) : lane.used = false := by
      cases pre : lane.used with
      | false => rfl
      | true => exact absurd (kept pre) (by simp [fresh])
    cases live : lane.entry with
    | none =>
      have held := inv.reported hr none used [] phase read rfl (by rintro _ ⟨⟩)
        fun fresh => ⟨unused fresh, rfl, rfl⟩
      exact { held with blank := fun abs => { held.blank abs with } }
    | some en =>
      have next : [MuxEvent.reset sid (.fromClass cls)].foldlM EventPhase.next phase = some .ended := by
        simp [agrees en live, next_reset]
      have held := inv.reported hr none used _ _ read next (by rintro _ ⟨⟩)
        fun fresh => by simp [(inv.unused hr (unused fresh)).1] at live
      exact { held with blank := fun abs => { held.blank abs with } }
  | opened hr _ unused fr =>
    have read : lane.reached = some .idle := by
      rw [reached, (inv.unused hr unused).2.2]
      rfl
    refine inv.reported hr _ true _ (if fr.flags &&& flagClose ≠ 0 then .closing else .reading)
      read ?_ ?_ (by rintro ⟨⟩)
    · by_cases carries : fr.payload ≠ [] ∨ fr.flags &&& flagData ≠ 0 <;>
        by_cases closes : fr.flags &&& flagClose = 0 <;>
        simp [carries, closes, EventPhase.next]
    · intro en same
      rw [← some.inj same]
      simp [EventPhase.of]
  | @data hr en _ _ closes live reading =>
    obtain ⟨phase, read, agrees⟩ := inv.word
    have pre : phase = .reading := by
      rw [agrees _ live, EventPhase.of, reading]
      rfl
    subst pre
    refine inv.reported hr _ lane.used _ (if closes then .closing else .reading) read ?_ ?_
      fun fresh => by simp [(inv.unused hr fresh).1] at live
    · cases closes <;> rfl
    · intro after same
      cases closes with
      | false =>
        rw [← some.inj same, EventPhase.of]
        simp [reading]
      | true =>
        cases localClosed : en.localClosed <;>
          simp [MuxStreams.dataEntry, MuxStreams.closedEntry, localClosed] at same
        rw [← same]
        rfl
  | @closed hr en live =>
    obtain ⟨_, read, agrees⟩ := inv.word
    refine inv.reported hr _ lane.used _ .closing read ?_ ?_
      fun fresh => by simp [(inv.unused hr fresh).1] at live
    · simp [agrees _ live, next_readClosed]
    · intro after same
      cases localClosed : en.localClosed <;> simp [MuxStreams.closedEntry, localClosed] at same
      rw [← same]
      rfl
  | peerReset hr _ live =>
    obtain ⟨_, read, agrees⟩ := inv.word
    refine inv.reported hr none lane.used _ .ended read ?_ (by rintro _ ⟨⟩)
      fun fresh => by simp [(inv.unused hr fresh).1] at live
    simp [agrees _ live, next_reset]
  | @credited _ en cr live =>
    have held := inv.recounted live { en with sendCredit := en.sendCredit + cr } rfl
    exact { held with
      blank := fun abs => { inv.blank abs with
        ready := by simp [(inv.blank abs).pending, (inv.blank abs).ready] } }
  | @consumed _ en bs _ win _ popped live =>
    have held := inv.recounted live { en with
      receiveWindow := win, debitedNotConsumed := en.debitedNotConsumed - bs } rfl
    exact { held with blank := fun abs => absurd abs (inv.present_of_command popped) }
  | consumedLate _ popped | write _ popped | close _ popped =>
    exact { inv with blank := fun abs => absurd abs (inv.present_of_command popped) }
  | givenUp _ _ popped =>
    have held := inv.discarded.gone
    exact { held with blank := fun abs => absurd (discard_absent.mp abs) (inv.present_of_command popped) }
  | givenUpLate _ _ popped _ abs =>
    have held := inv.discarded
    exact { held with blank := fun abs => absurd (discard_absent.mp abs) (inv.present_of_command popped) }
  | flushDead => exact inv.discarded
  | dropEmpty => exact { inv with blank := fun abs => { inv.blank abs with pending := rfl } }
  | @flushClose _ en _ _ live =>
    have held : Opening { lane with
        entry := if en.peerClosed then none else some { en with localClosed := true } } := by
      refine inv.reentered fun after same => ⟨_, live, ?_⟩
      cases peerClosed : en.peerClosed <;> simp [peerClosed] at same
      rw [← same]
      simp [EventPhase.of, peerClosed]
    exact { held with blank := fun abs => { inv.blank abs with closing := rfl, ready := rfl } }
  | flushCloseLate => exact { inv with blank := fun abs => { inv.blank abs with closing := rfl, ready := rfl } }
  | flushIdle | flushWithheld => exact { inv with blank := fun abs => { inv.blank abs with ready := rfl } }
  | @flushSent _ en q wait _ _ live =>
    have held := inv.recounted live { en with sendCredit := en.sendCredit - chunkOf q } rfl
    exact { held with blank := fun abs => absurd abs (inv.present_of_pending wait) }
  | @flushLate _ q wait =>
    have held : Opening { lane with pending := some (q.drop (chunkOf q)) } :=
      { inv with blank := fun abs => absurd abs (inv.present_of_pending wait) }
    exact held.discarded
  | sentMore _ wait =>
    have held := inv.released lane.held
    exact { held with blank := fun abs => absurd (map_eq_none_iff.mp abs) (inv.present_of_pending wait) }
  | sentLast =>
    have held := inv.released lane.held
    exact { held with blank := fun abs => { held.blank abs with held := rfl, pending := rfl } }
  | handOut hr next => exact { inv.handed hr next with blank := (by rintro ⟨⟩) }
  | ownerGone hr next => exact { (inv.handed hr next).stopped with blank := (by rintro ⟨⟩) }
  | signalData hr next | signalEof hr next =>
    exact inv.signalled hr next (inv.present_of_coming hr next (by rintro _ ⟨⟩)) (by simp)
  | @signalReset hr _ rest next =>
    have hp := inv.present_of_coming hr next (by rintro _ ⟨⟩)
    have ended := inv.reached_ended (next ▸ mem_cons_self)
    have held : Opening { lane with stream := ((lane.enter .reset).signal .reset).stream, coming := rest } :=
      inv.popped hr next (fun abs => hp (updateStatus_absent.mp (signal_absent.mp abs)))
        fun _ _ _ => ended
    rw [signal_eq]
    exact held
  | stop => exact inv.stopped
  | told left =>
    have held := inv.left left ((lane.enter .gone).signal .gone).stream (signal_absent.trans updateStatus_absent)
    rw [signal_eq]
    exact held
  | finished left =>
    exact { inv with
      hears := fun hr => by simp [left] at hr
      blank := fun abs => { inv.blank abs with } }
  | takeData _ hp _ _ _ next | takeEof _ hp _ _ next =>
    exact inv.restreamed _ _ hp (fun _ dead => .inl dead) fun signal mem => next ▸ mem_cons_of_mem _ mem
  | takeEnd _ _ _ hp next ends =>
    refine inv.restreamed _ _ hp (fun _ _ => .inr ?_) fun signal mem => next ▸ mem_cons_of_mem _ mem
    rcases ends with rfl | rfl
    · exact .inl (next ▸ mem_cons_self)
    · exact .inr (next ▸ mem_cons_self)
  | takeClosed deaf _ hp =>
    refine inv.restreamed _ _ hp (fun hr _ => ?_) fun _ mem => mem
    rw [inv.hears hr] at deaf
    cases deaf
  | cleared held | returned _ _ held | lost _ _ held | ended held | shut _ held | shutAgain held | resetAsked _ held
  | dropped held => exact { inv with blank := fun abs => absurd abs (inv.present_of_handle held) }
  | rewoken _ hp => exact inv.restreamed lane.handle _ hp (fun _ dead => .inl dead) fun _ mem => mem
  | @accepted hdl stream bs _ held hp =>
    have held := inv.restreamed lane.handle { stream with
      status := { stream.status with stagedBytes := stream.status.stagedBytes + bs.length } }
      hp (fun _ dead => .inl dead) fun _ mem => mem
    exact { held with blank := (by rintro ⟨⟩) }

end

end Lane.Opening

end SplRust.Home
