import SplRust.Core.DemuxWrites
import SplRust.Transport.CoordinatorStep

/-! The upload side of the coordinator: which streams are in the ready queue, and what the
coordinator knows of a stream whose upload is not done. Such a stream has been delivered
nothing, so its end is never held back, and whatever ends it also removes it. -/

namespace SplRust.Transport
open SplRust.Lib SplRust.Core List Option WindowedUpload

/-- What the far end of a queue of deliveries can see. -/
def StreamChannels.deliveries (channels : StreamChannels) : List DeliveryEvent × Option StreamEvent :=
  (channels.delivery, channels.holding)

theorem returnPermits_deliveries (chs : List StreamChannels) (leases : List BodyLease) :
    (returnPermits chs leases).map StreamChannels.deliveries = chs.map StreamChannels.deliveries :=
  returnPermits_map _ (fun _ _ => rfl) _ _

theorem detach_deliveries (chs : List StreamChannels) (state : StreamState) :
    (detach chs state).map StreamChannels.deliveries = chs.map StreamChannels.deliveries :=
  detach_map _ (fun _ _ => rfl) (fun _ => rfl) _ _

def Silent (channels : List StreamChannels) (ticket : Nat) : Prop :=
  ∀ entry, channels[ticket]? = some entry → entry.deliveries = ([], none)

variable {ticket : Nat}

theorem Silent.congr {chs next : List StreamChannels}
    (same : next.map StreamChannels.deliveries = chs.map StreamChannels.deliveries)
    (silent : Silent chs ticket) : Silent next ticket := by
  intro entry there
  have seen := congrArg (fun ens => ens[ticket]?) same
  simp only [getElem?_map, there, map_some] at seen
  obtain ⟨pre, fnd, equal⟩ := map_eq_some_iff.mp seen.symm
  exact equal.symm.trans (silent pre fnd)

theorem length_of_deliveries {chs next : List StreamChannels}
    (same : next.map StreamChannels.deliveries = chs.map StreamChannels.deliveries) :
    next.length = chs.length := by
  have counted := congrArg List.length same
  rwa [length_map, length_map] at counted

theorem localStep_silent {entry : StreamChannels} {call : LocalCall}
    {acted : StreamChannels × LocalReply} (did : entry.localStep ticket call = some acted)
    (silent : entry.deliveries = ([], none)) : acted.1.deliveries = ([], none) := by
  obtain ⟨delivery, _⟩ := Prod.mk.inj silent
  cases localStep_effect did with
  | early _ _ _ _ fst | unknown _ _ _ fst | taken _ _ _ _ fst =>
    rw [delivery] at fst
    cases fst
  | returned | abandoned | deafened => exact Prod.ext delivery rfl
  | _ => exact silent

/-- The events of one stream, in order. -/
def eventsOf (sid : UInt32) (events : List (UInt32 × StreamEvent)) : List StreamEvent :=
  (events.filter fun event => event.1 == sid).map Prod.snd

theorem eventsOf_cons (sid : UInt32) (ev : UInt32 × StreamEvent) (events : List (UInt32 × StreamEvent)) :
    eventsOf sid (ev :: events) = if ev.1 = sid then ev.2 :: eventsOf sid events else eventsOf sid events := by
  by_cases own : ev.1 = sid
  · simp [eventsOf, own]
  · simp [eventsOf, own]

/-- What holds of a stream whose upload is not done: nothing has been delivered to it, and
the events still to be handled begin with a head or an end. -/
structure Awaiting (coord : Coordinator) (unread : List (UInt32 × StreamEvent))
    (sid : UInt32) (s : StreamState) : Prop where
  clear : s.pendingDelivery = []
  silent : Silent coord.channels s.ticket
  listening : (eventsOf sid unread).foldlM StreamPhase.next .opening = some (.of (coord.demux.streams.lookup sid))

/-- What holds of every stream in the table. `busy` is the stream that `receive_body` is
feeding; `unread` are the events that `handle_read` has still to handle. -/
structure Entry (coord : Coordinator) (busy : Option UInt32)
    (unread : List (UInt32 × StreamEvent)) (sid : UInt32) (s : StreamState) : Prop where
  number : sid.toNat = 2 * s.ticket + 1
  ticket : s.ticket < coord.channels.length
  own : s.upload.streamId = sid
  declared : s.upload.declaredBodyLen = s.declaredBodyLen
  unopened : s.upload.opened = false → s.readyQueued = true ∧ 0 < s.upload.headRemaining ∧ 0 < s.upload.sendCredit
  queued : coord.ready.count sid = if s.readyQueued then 1 else 0
  polled : s.upload.Pollable → s.readyQueued = true ∨ busy = some sid
  awaiting : s.upload.isDone = false → Awaiting coord unread sid s

namespace Coordinator
variable {sid : UInt32} {coord : Coordinator} {state : StreamState} {ready : List UInt32}

def unopened (coord : Coordinator) (sid : UInt32) : Bool :=
  (coord.streams.lookup sid).any fun state => !state.upload.opened

structure Scheduled (coord : Coordinator) (busy : Option UInt32)
    (unread : List (UInt32 × StreamEvent)) : Prop where
  dialer : coord.dialer.next = UInt32.ofNat (2 * coord.channels.length + 1)
  entry : ∀ sid s, coord.streams.lookup sid = some s → Entry coord busy unread sid s
  allocated : ∀ sid ∈ coord.ready, sid.toNat < 2 * coord.channels.length + 1
  ordered : (coord.ready.filter coord.unopened).Pairwise fun first second => first.toNat < second.toNat

/-- Two states that differ only in what belongs to one stream. -/
structure Aside (sid : UInt32) (coord next : Coordinator) : Prop where
  dialer : next.dialer = coord.dialer
  length : next.channels.length = coord.channels.length
  streams : ∀ other ≠ sid, next.streams.lookup other = coord.streams.lookup other
  ready : ∀ other ≠ sid, next.ready.count other = coord.ready.count other
  silent : ∀ other ≠ sid, ∀ s, coord.streams.lookup other = some s →
    Silent coord.channels s.ticket → Silent next.channels s.ticket
  phases : ∀ other ≠ sid, StreamPhase.of (next.demux.streams.lookup other) = .of (coord.demux.streams.lookup other)

theorem Aside.refl (sid : UInt32) (coord : Coordinator) : Aside sid coord coord :=
  ⟨rfl, rfl, fun _ _ => rfl, fun _ _ => rfl, fun _ _ _ _ silent => silent, fun _ _ => rfl⟩

theorem Aside.trans {fst mid last : Coordinator} (early : Aside sid fst mid)
    (late : Aside sid mid last) : Aside sid fst last where
  dialer := late.dialer.trans early.dialer
  length := late.length.trans early.length
  streams other different := (late.streams other different).trans (early.streams other different)
  ready other different := (late.ready other different).trans (early.ready other different)
  silent other different state present silent := by
    refine late.silent other different state ?_ (early.silent other different state present silent)
    rw [early.streams other different]
    exact present
  phases other different := (late.phases other different).trans (early.phases other different)

theorem Aside.of_eq {next : Coordinator} (dialer : next.dialer = coord.dialer)
    (chs : next.channels.map StreamChannels.deliveries = coord.channels.map StreamChannels.deliveries)
    (streams : ∀ other ≠ sid, next.streams.lookup other = coord.streams.lookup other)
    (ready : ∀ other ≠ sid, next.ready.count other = coord.ready.count other)
    (phases : ∀ other ≠ sid, StreamPhase.of (next.demux.streams.lookup other) =
      .of (coord.demux.streams.lookup other)) : Aside sid coord next where
  dialer := dialer
  length := length_of_deliveries chs
  streams := streams
  ready := ready
  silent _ _ _ _ silent := silent.congr chs
  phases := phases

theorem Aside.setStream (coord : Coordinator) (sid : UInt32) (state : StreamState) :
    Aside sid coord (coord.setStream sid state) :=
  .of_eq rfl rfl (fun _ ne => Finmap.lookup_insert_of_ne _ ne) (fun _ _ => rfl) (fun _ _ => rfl)

theorem lookup_setStream (coord : Coordinator) (sid : UInt32) (state : StreamState) :
    (coord.setStream sid state).streams.lookup sid = some state :=
  Finmap.lookup_insert _

theorem Aside.pushPacket (sid : UInt32) (coord : Coordinator) (packet : WriterPacket) :
    Aside sid coord (coord.pushPacket packet) :=
  .of_eq rfl rfl (fun _ _ => rfl) (fun _ _ => rfl) (fun _ _ => rfl)

theorem Aside.removeState (coord : Coordinator) (sid : UInt32) (state : StreamState) :
    Aside sid coord (coord.removeState sid state) := by
  rw [removeState_eq]
  exact .of_eq rfl (detach_deliveries _ _) (fun _ ne => Finmap.lookup_erase_ne ne)
    (fun _ _ => rfl) (fun _ _ => rfl)

theorem Aside.removeStream (coord : Coordinator) (sid : UInt32) : Aside sid coord
      { coord with demux := coord.demux.removeStream sid } := by
  refine .of_eq rfl rfl (fun _ _ => rfl) (fun _ _ => rfl) ?_
  intro other ne
  simp only [CarrierDemux.removeStream, Finmap.lookup_erase_ne ne]

theorem removeState_demux (coord : Coordinator) (sid : UInt32) (state : StreamState) :
    (coord.removeState sid state).demux = coord.demux := by
  rw [removeState_eq]

theorem Aside.forget (coord : Coordinator) (sid : UInt32) (state : StreamState) :
    Aside sid coord (coord.forget sid state) := by
  refine (Aside.removeState coord sid state).trans ?_
  have removed := Aside.removeStream (coord.removeState sid state) sid
  rwa [removeState_demux] at removed

theorem Scheduled.apart {busy : Option UInt32} {unread : List (UInt32 × StreamEvent)}
    (sched : coord.Scheduled busy unread) (present : coord.streams.lookup sid = some state) :
    ∀ other ≠ sid, ∀ their, coord.streams.lookup other = some their → their.ticket ≠ state.ticket := by
  intro other ne their there same
  apply ne
  apply UInt32.toNat_inj.mp
  rw [(sched.entry _ _ there).number, same, (sched.entry _ _ present).number]

theorem Aside.pushDelivery (apart : ∀ other ≠ sid, ∀ their, coord.streams.lookup other = some their →
      their.ticket ≠ ticket) (ev : DeliveryEvent) : Aside sid coord (coord.pushDelivery ticket ev) where
  dialer := rfl
  length := length_modify _ _ _
  streams _ _ := rfl
  ready _ _ := rfl
  silent other ne their there silent := by
    intro entry fnd
    have elsewhere := (apart other ne their there).symm
    simp only [Coordinator.pushDelivery, updateChannels, getElem?_modify_ne _ _ elsewhere] at fnd
    exact silent entry fnd
  phases _ _ := rfl

section
variable {coord next : Coordinator} {busy nextBusy : Option UInt32}
  {unread nextUnread : List (UInt32 × StreamEvent)} {sid : UInt32} {ev : StreamEvent}

section
variable (sched : coord.Scheduled busy unread)
include sched

theorem Scheduled.update (aside : Aside sid coord next)
    (words : ∀ other ≠ sid, eventsOf other nextUnread = eventsOf other unread)
    (idle : ∀ other ≠ sid, busy = some other → nextBusy = some other)
    (own : ∀ state, next.streams.lookup sid = some state → Entry next nextBusy nextUnread sid state)
    (kn : sid ∈ next.ready → sid ∈ coord.ready ∨ next.streams.lookup sid ≠ none)
    (ordered : (next.ready.filter next.unopened).Pairwise fun fst snd => fst.toNat < snd.toNat) :
    next.Scheduled nextBusy nextUnread where
  dialer := by
    rw [aside.dialer, aside.length]
    exact sched.dialer
  entry other state present := by
    by_cases same : other = sid
    · subst same
      exact own state present
    · have there := aside.streams other same ▸ present
      have entry := sched.entry other state there
      exact {
        number := entry.number
        ticket := aside.length ▸ entry.ticket
        own := entry.own
        declared := entry.declared
        unopened := entry.unopened
        queued := (aside.ready other same).trans entry.queued
        polled := fun pollable => (entry.polled pollable).imp id (idle other same)
        awaiting := fun undone => {
          clear := (entry.awaiting undone).clear
          silent := aside.silent other same state there (entry.awaiting undone).silent
          listening := by
            rw [words other same, aside.phases other same]
            exact (entry.awaiting undone).listening } }
  allocated other mem := by
    have old : other ∈ coord.ready → other.toNat < 2 * next.channels.length + 1 := by
      rw [aside.length]
      exact sched.allocated other
    by_cases same : other = sid
    · subst same
      rcases kn mem with pre | live
      · exact old pre
      · obtain ⟨state, present⟩ := ne_none_iff_exists'.mp live
        have entry := own state present
        have number := entry.number
        have ticket := entry.ticket
        omega
    · apply old
      rw [← count_pos_iff, ← aside.ready other same, count_pos_iff]
      exact mem
  ordered := ordered

theorem Scheduled.frame (dialer : next.dialer = coord.dialer) (streams : next.streams = coord.streams)
    (ready : next.ready = coord.ready) (length : next.channels.length = coord.channels.length)
    (silent : ∀ ticket, Silent coord.channels ticket → Silent next.channels ticket)
    (phases : ∀ sid, StreamPhase.of (next.demux.streams.lookup sid) =
      .of (coord.demux.streams.lookup sid)) : next.Scheduled busy unread where
  dialer := by
    rw [dialer, length]
    exact sched.dialer
  entry sid state present := by
    rw [streams] at present
    have entry := sched.entry sid state present
    exact {
      number := entry.number
      ticket := length ▸ entry.ticket
      own := entry.own
      declared := entry.declared
      unopened := entry.unopened
      queued := ready ▸ entry.queued
      polled := entry.polled
      awaiting := fun undone => ⟨(entry.awaiting undone).clear, silent _ (entry.awaiting undone).silent,
        by rw [phases]; exact (entry.awaiting undone).listening⟩ }
  allocated sid mem := by
    rw [length]
    exact sched.allocated sid (ready ▸ mem)
  ordered := by
    have same : next.unopened = coord.unopened := by
      funext sid
      simp only [unopened, streams]
    rw [ready, same]
    exact sched.ordered

theorem Scheduled.pushPacket (packet : WriterPacket) : (coord.pushPacket packet).Scheduled busy unread :=
  sched.frame rfl rfl rfl rfl (fun _ silent => silent) fun _ => rfl

/-- One stream changes, and no stream enters or leaves the ready queue. -/
theorem Scheduled.keep (aside : Aside sid coord next) (ready : next.ready = coord.ready)
    (words : ∀ other ≠ sid, eventsOf other nextUnread = eventsOf other unread)
    (idle : ∀ other ≠ sid, busy = some other → nextBusy = some other)
    (own : ∀ state, next.streams.lookup sid = some state → Entry next nextBusy nextUnread sid state)
    (fewer : next.unopened sid = true → coord.unopened sid = true) : next.Scheduled nextBusy nextUnread := by
  refine sched.update aside words idle own (fun mem => Or.inl (ready ▸ mem)) ?_
  rw [ready]
  refine sched.ordered.sublist (monotone_filter_right _ ?_)
  intro other fresh
  by_cases same : other = sid
  · subst same
    exact fewer fresh
  · simpa only [unopened, aside.streams other same] using fresh

theorem Scheduled.remove (aside : Aside sid coord next) (ready : next.ready = coord.ready)
    (words : ∀ other ≠ sid, eventsOf other nextUnread = eventsOf other unread)
    (idle : ∀ other ≠ sid, busy = some other → nextBusy = some other)
    (gone : next.streams.lookup sid = none) : next.Scheduled nextBusy nextUnread := by
  refine sched.keep aside ready words idle ?_ ?_
  · intro state present
    rw [gone] at present
    cases present
  · simp [unopened, gone]

end

theorem entry_of_done {state nextState : StreamState} (entry : Entry coord busy unread sid state)
    (length : next.channels.length = coord.channels.length)
    (ready : next.ready = coord.ready) (ticket : nextState.ticket = state.ticket)
    (up : nextState.upload = state.upload) (declared : nextState.declaredBodyLen = state.declaredBodyLen)
    (queued : nextState.readyQueued = state.readyQueued) (done : state.upload.isDone = true) :
    Entry next busy nextUnread sid nextState where
  number := by rw [ticket]; exact entry.number
  ticket := by rw [ticket, length]; exact entry.ticket
  own := by rw [up]; exact entry.own
  declared := by rw [up, declared]; exact entry.declared
  unopened := by rw [up, queued]; exact entry.unopened
  queued := by rw [ready, queued]; exact entry.queued
  polled := by rw [up, queued]; exact entry.polled
  awaiting undone := by
    rw [up, done] at undone
    cases undone

theorem FrameEffect.ok {coord next : Coordinator} {fr : Bytes} (sent : FrameEffect coord fr (next, .ok ())) :
    next = coord.pushPacket ⟨fr, []⟩ := by
  cases sent with
  | sent => rfl

theorem ResetEffect.ok {coord next : Coordinator} {sid : UInt32} (reset : ResetEffect coord sid (next, .ok ())) :
    (coord.streams.lookup sid = none ∧ next = coord) ∨ ∃ state, coord.streams.lookup sid = some state ∧
        next = (coord.forget sid state).pushPacket ⟨(Frame.reset sid resetCancel).wire, []⟩ := by
  cases reset with
  | absent missing => exact Or.inl ⟨missing, rfl⟩
  | reset state present _ sent => exact Or.inr ⟨state, present, sent.ok⟩

theorem ResetEffect.aside (reset : ResetEffect coord sid (next, .ok ())) :
    Aside sid coord next ∧ next.ready = coord.ready ∧ next.streams.lookup sid = none := by
  rcases reset.ok with ⟨missing, rfl⟩ | ⟨state, present, rfl⟩
  · exact ⟨.refl _ _, rfl, missing⟩
  · refine ⟨(Aside.forget _ _ _).trans (.pushPacket _ _ _), ?_, ?_⟩
    · simp only [pushPacket, forget, removeState_eq]
    · simp only [pushPacket, forget, removeState_eq, Finmap.lookup_erase]

theorem earlyHead_none {state : StreamState}
    (late : earlyHead state ev = none) (undone : state.upload.isDone = false) : ev.isHead = false := by
  obtain ⟨item, _⟩ := ev
  cases item with
  | head => simp [earlyHead, undone] at late
  | body | ended => rfl

theorem not_isBody_absurd (head : ev.isHead = false)
    (body : ev.isBody = false) (going : (DeliveryEvent.stream ev).ends = false) : False := by
  obtain ⟨item, _⟩ := ev
  cases item with
  | head => cases head
  | body => cases body
  | ended => cases going

theorem silent_not_full (silent : Silent coord.channels ticket) : ¬ coord.Full ticket := by
  rintro ⟨entry, there, full⟩
  have empty := congrArg Prod.fst (silent entry there)
  simp only [StreamChannels.deliveries] at empty
  rw [empty] at full
  exact absurd full (by decide)

/-- A stream is delivered an event. Unless its upload is done the event is a head or an
end, so the stream is gone afterwards. -/
theorem Scheduled.deliver {pre : Coordinator}
    (sched : pre.Scheduled busy unread) (aside : Aside sid pre coord)
    (streams : coord.streams = pre.streams) (ready : coord.ready = pre.ready)
    (chs : coord.channels = pre.channels)
    (words : ∀ other ≠ sid, eventsOf other nextUnread = eventsOf other unread)
    (starts : ∀ state, coord.streams.lookup sid = some state → state.upload.isDone = false → ev.isBody = false)
    (eff : DeliverEffect coord sid ev (next, .ok ())) :
    next.Scheduled busy nextUnread ∧ ∀ state, next.streams.lookup sid = some state → state.upload.isDone = true := by
  have unchanged : ∀ other ≠ sid, busy = some other → busy = some other := fun _ _ same => same
  have absent {last : Coordinator} (rest : Aside sid coord last)
      (same : last.ready = coord.ready) (gone : last.streams.lookup sid = none) :
      last.Scheduled busy nextUnread ∧ ∀ state, last.streams.lookup sid = some state → state.upload.isDone = true := by
    refine ⟨sched.remove (aside.trans rest) (same.trans ready) words unchanged gone, ?_⟩
    intro state present
    rw [gone] at present
    cases present
  have entered {state : StreamState} (present : coord.streams.lookup sid = some state) :
      Entry pre busy unread sid state := sched.entry sid state (streams ▸ present)
  have pushed {state : StreamState} (present : coord.streams.lookup sid = some state) (ev : DeliveryEvent) :
      Aside sid coord (coord.pushDelivery state.ticket ev) := by
    apply Aside.pushDelivery
    rw [streams] at present ⊢
    exact sched.apart present
  cases eff with
  | absent missing => exact absent (.refl _ _) rfl missing
  | early _ present _ _ _ _ tried _ reset =>
    obtain ⟨rest, same, gone⟩ := reset.aside
    rcases tried with ⟨rfl, -⟩ | ⟨rfl, -⟩ | ⟨rfl, -⟩
    · exact absent rest same gone
    · exact absent rest same gone
    · exact absent ((pushed present _).trans rest) same gone
  | pended state present _ waits =>
    have done : state.upload.isDone = true := by
      rw [← Bool.not_eq_false]
      intro undone
      have awaiting := (entered present).awaiting undone
      rcases waits with pending | full
      · exact pending awaiting.clear
      · exact silent_not_full (chs ▸ awaiting.silent) full
    have fnd := lookup_setStream coord sid { state with
      pendingDelivery := enqueuePendingDelivery state.pendingDelivery (.stream ev) }
    refine ⟨sched.keep (aside.trans (.setStream _ _ _)) ready words unchanged ?_ ?_, ?_⟩
    · intro other there
      obtain rfl := some.inj (fnd.symm.trans there)
      exact entry_of_done (entered present) (congrArg List.length chs) ready rfl rfl rfl rfl done
    · intro fresh
      simp only [unopened, pend, fnd] at fresh
      simp only [unopened, ← streams, present]
      exact fresh
    · intro other there
      obtain rfl := some.inj (fnd.symm.trans there)
      exact done
  | sent state present late _ _ going =>
    have done : state.upload.isDone = true := by
      rw [← Bool.not_eq_false]
      intro undone
      exact not_isBody_absurd (earlyHead_none late undone) (starts state present undone) going
    refine ⟨sched.keep (aside.trans (pushed present _)) ready words unchanged ?_ ?_, ?_⟩
    · intro other there
      obtain rfl := some.inj (present.symm.trans there)
      refine entry_of_done (entered present) ?_ ready rfl rfl rfl rfl done
      exact (length_modify _ _ _).trans (congrArg List.length chs)
    · intro fresh
      simpa only [unopened, pushDelivery, updateChannels, ← streams] using fresh
    · intro other there
      obtain rfl := some.inj (present.symm.trans there)
      exact done
  | ended _ present =>
    refine absent ((pushed present _).trans (.removeState _ _ _)) ?_ ?_
    · rw [removeState_eq]
      rfl
    · rw [removeState_eq]
      exact Finmap.lookup_erase _ _
  | closed _ _ _ _ _ _ reset =>
    obtain ⟨rest, same, left⟩ := reset.aside
    exact absent rest same left

theorem Scheduled.release (sched : coord.Scheduled (some sid) unread)
    (calm : ∀ state, coord.streams.lookup sid = some state → state.upload.Pollable → state.readyQueued = true) :
    coord.Scheduled nextBusy unread where
  dialer := sched.dialer
  entry other state present := by
    have entry := sched.entry other state present
    refine { entry with polled := ?_ }
    intro pollable
    rcases entry.polled pollable with queued | busy
    · exact Or.inl queued
    · obtain rfl := some.inj busy
      exact Or.inl (calm state present pollable)
  allocated := sched.allocated
  ordered := sched.ordered

theorem Scheduled.exempt (sched : coord.Scheduled none unread) : coord.Scheduled nextBusy unread where
  dialer := sched.dialer
  entry other state present := by
    have entry := sched.entry other state present
    refine { entry with polled := ?_ }
    intro pollable
    rcases entry.polled pollable with queued | busy
    · exact Or.inl queued
    · cases busy
  allocated := sched.allocated
  ordered := sched.ordered

theorem Scheduled.enqueue (sched : coord.Scheduled (some sid) unread)
    (eff : EnqueueEffect coord sid next) : next.Scheduled nextBusy unread := by
  cases eff with
  | kept queued => exact sched.release fun state present _ => queued state present
  | queued state present idle =>
    have entry := sched.entry sid state present
    have opened : state.upload.opened = true := by
      rw [← Bool.not_eq_false]
      intro fresh
      rw [(entry.unopened fresh).1] at idle
      cases idle
    have count := entry.queued
    rw [idle] at count
    have fnd := lookup_setStream coord sid { state with readyQueued := true }
    have same : ({ coord.setStream sid { state with readyQueued := true } with
        ready := coord.ready ++ [sid] } : Coordinator).unopened = coord.unopened := by
      funext other
      by_cases own : other = sid
      · subst own
        simp only [unopened, fnd, present, any_some]
      · simp only [unopened, setStream, Finmap.lookup_insert_of_ne _ own]
    have aside : Aside sid coord { coord.setStream sid { state with readyQueued := true } with
          ready := coord.ready ++ [sid] } := by
      refine .of_eq rfl rfl (fun _ ne => Finmap.lookup_insert_of_ne _ ne) ?_ fun _ _ => rfl
      intro other ne
      rw [count_append, count_singleton, if_neg (by simpa using ne.symm), Nat.add_zero]
    refine sched.update aside (fun _ _ => rfl) ?_ ?_ ?_ ?_
    · intro other ne busy
      exact absurd (some.inj busy).symm ne
    · intro other there
      obtain rfl := some.inj (fnd.symm.trans there)
      exact {
        number := entry.number
        ticket := entry.ticket
        own := entry.own
        declared := entry.declared
        unopened := fun fresh => ⟨rfl, (entry.unopened fresh).2⟩
        queued := by
          rw [count_append, count, count_singleton_self]
          rfl
        polled := fun _ => Or.inl rfl
        awaiting := fun undone => ⟨(entry.awaiting undone).clear, (entry.awaiting undone).silent,
          (entry.awaiting undone).listening⟩ }
    · intro _
      exact Or.inr (by rw [fnd]; simp)
    · rw [same, filter_append, filter_singleton]
      simpa [unopened, present, opened] using sched.ordered

/-- An upload gets credit or bytes. Whether it is queued has still to be seen to. -/
theorem Scheduled.supply {nextState : StreamState} (sched : coord.Scheduled busy unread)
    (idle : ∀ other ≠ sid, busy ≠ some other) (present : coord.streams.lookup sid = some state)
    (aside : Aside sid coord next) (ready : next.ready = coord.ready) (fnd : next.streams.lookup sid = some nextState)
    (chs : next.channels.map StreamChannels.deliveries =
      coord.channels.map StreamChannels.deliveries) (dm : next.demux = coord.demux)
    (ticket : nextState.ticket = state.ticket) (declared : nextState.declaredBodyLen = state.declaredBodyLen)
    (queued : nextState.readyQueued = state.readyQueued) (pend : nextState.pendingDelivery = state.pendingDelivery)
    (named : nextState.upload.streamId = state.upload.streamId)
    (tot : nextState.upload.declaredBodyLen = state.upload.declaredBodyLen)
    (opened : nextState.upload.opened = state.upload.opened) (closed : nextState.upload.closed = state.upload.closed)
    (head : nextState.upload.headRemaining = state.upload.headRemaining)
    (cr : state.upload.sendCredit ≤ nextState.upload.sendCredit) : next.Scheduled (some sid) unread := by
  have entry := sched.entry sid state present
  refine sched.keep aside ready (fun _ _ => rfl) ?_ ?_ ?_
  · intro other ne busy
    exact absurd busy (idle other ne)
  · intro other there
    obtain rfl := some.inj (fnd.symm.trans there)
    exact {
      number := by rw [ticket]; exact entry.number
      ticket := by rw [ticket, aside.length]; exact entry.ticket
      own := named.trans entry.own
      declared := by rw [tot, declared]; exact entry.declared
      unopened := by
        intro fresh
        rw [opened] at fresh
        obtain ⟨isQueued, remaining, _⟩ := entry.unopened fresh
        exact ⟨queued.trans isQueued, by rw [head]; exact remaining, by omega⟩
      queued := by rw [ready, queued]; exact entry.queued
      polled := fun _ => Or.inr rfl
      awaiting := by
        intro undone
        have awaiting := entry.awaiting (closed.symm.trans undone)
        exact ⟨pend.trans awaiting.clear, ticket ▸ awaiting.silent.congr chs, by rw [dm]; exact awaiting.listening⟩ }
  · simp only [unopened, fnd, present, any_some, opened]
    exact id

theorem Scheduled.grant {cr : UInt32} (sched : coord.Scheduled none unread)
    (eff : GrantEffect coord sid cr (next, .ok ())) : next.Scheduled none unread := by
  cases eff with
  | absent => exact sched
  | granted _ present _ fits _ queued =>
    obtain ⟨named, head, offset, -, tot, -, -, opened, closed, sum⟩ := grant_ok fits
    refine Scheduled.enqueue ?_ queued
    refine sched.supply (by simp) present (.setStream _ _ _) rfl (lookup_setStream _ _ _)
      rfl rfl rfl rfl rfl rfl named tot opened closed ?_ ?_
    · simp only [headRemaining, head, offset]
    · rw [sum]
      exact Nat.le_add_right _ _
  | refused _ _ _ _ delivered =>
    have aside : Aside sid coord { coord.pushPacket ⟨(Frame.reset sid resetFlowControlError).wire, []⟩ with
          demux := coord.demux.removeStream sid } :=
      (Aside.pushPacket sid coord _).trans (.removeStream _ _)
    exact (sched.deliver aside rfl rfl rfl (fun _ _ => rfl) (fun _ _ _ => rfl) delivered).1

/-- A turn of `receive_body` that is not its last one keeps the stream exempt. -/
theorem Scheduled.receive {last : Bool} (sched : coord.Scheduled (some sid) unread)
    (eff : ReceiveEffect coord sid last (next, .ok ()))
    (exempt : last = false → nextBusy = some sid) : next.Scheduled nextBusy unread := by
  cases eff with
  | absent missing =>
    apply sched.release
    intro state present
    rw [missing] at present
    cases present
  | short _ _ _ _ reset =>
    obtain ⟨aside, ready, gone⟩ := reset.aside
    refine sched.remove aside ready (fun _ _ => rfl) ?_ gone
    intro other ne busy
    exact absurd (some.inj busy).symm ne
  | finished _ queued => exact sched.enqueue queued
  | fed state present _ _ _ rest _ _ fits =>
    obtain ⟨head, offset, -, tot, -, -⟩ := feedBody_ok fits
    obtain ⟨named, cr, opened, closed⟩ := feedBody_kept fits
    have chs := map_modify_same StreamChannels.deliveries
      (fun chs : StreamChannels => { chs with body := rest }) coord.channels
      state.ticket fun _ => rfl
    rw [exempt rfl]
    refine sched.supply ?_ present ?_ rfl (lookup_setStream _ _ _) chs rfl rfl rfl rfl
      rfl named tot opened closed ?_ (Nat.le_of_eq cr.symm)
    · intro other ne busy
      exact ne (some.inj busy).symm
    · exact .of_eq rfl chs (fun _ ne => Finmap.lookup_insert_of_ne _ ne)
        (fun _ _ => rfl) (fun _ _ => rfl)
    · simp only [headRemaining, head, offset]

theorem Scheduled.pop (sched : coord.Scheduled none unread)
    (fst : coord.ready = sid :: ready) (after : next.ready = ready)
    (dialer : next.dialer = coord.dialer) (chs : next.channels = coord.channels) (dm : next.demux = coord.demux)
    (streams : ∀ other ≠ sid, next.streams.lookup other = coord.streams.lookup other)
    (own : ∀ state, next.streams.lookup sid = some state →
      Entry next (some sid) unread sid state) (opened : next.unopened sid = false) :
    next.Scheduled (some sid) unread := by
  have aside : Aside sid coord next := by
    refine .of_eq dialer (by rw [chs]) streams ?_ (fun _ _ => by rw [dm])
    intro other ne
    rw [fst, after, count_cons_of_ne ne.symm]
  refine sched.update aside (fun _ _ => rfl) (by simp) own ?_ ?_
  · intro mem
    rw [fst]
    exact Or.inl (mem_cons_of_mem _ (after ▸ mem))
  · have fewer : ∀ other, next.unopened other = true → coord.unopened other = true := by
      intro other fresh
      by_cases same : other = sid
      · rw [same, opened] at fresh
        cases fresh
      · simpa only [unopened, streams other same] using fresh
    rw [after]
    refine sched.ordered.sublist ((monotone_filter_right _ fewer).trans ?_)
    rw [fst]
    exact (sublist_cons_self _ _).filter _

theorem Scheduled.count_tail (sched : coord.Scheduled busy unread) (fst : coord.ready = sid :: ready)
    (present : coord.streams.lookup sid = some state) : ready.count sid = 0 ∧ state.readyQueued = true := by
  have count := (sched.entry sid state present).queued
  rw [fst, count_cons_self] at count
  cases queued : state.readyQueued with
  | false => simp [queued] at count
  | true =>
    rw [queued, if_pos rfl] at count
    exact ⟨by omega, rfl⟩

theorem pollable_of_unopened (entry : Entry coord busy unread sid state)
    (fresh : state.upload.opened = false) : state.upload.Pollable := by
  obtain ⟨-, remaining, _⟩ := entry.unopened fresh
  rw [← not_not (a := state.upload.Pollable)]
  intro stalled
  have available : 0 < state.upload.available := by
    rw [available_of_head remaining]
    exact remaining
  rcases stalled_of_not_pollable stalled with ⟨-, broke⟩ | ⟨starved, -⟩
  · omega
  · exact starved available

theorem Scheduled.popped {up : WindowedUpload} (leases : List BodyLease)
    (sched : coord.Scheduled none unread) (fst : coord.ready = sid :: ready)
    (present : coord.streams.lookup sid = some state) (named : up.streamId = state.upload.streamId)
    (tot : up.declaredBodyLen = state.upload.declaredBodyLen) (opened : up.opened = true)
    (closed : state.upload.isDone = true → up.isDone = true) :
    ({ coord with ready := ready }.setStream sid { state with
      readyQueued := false, upload := up, stagedLeases := leases }).Scheduled (some sid) unread := by
  have entry := sched.entry sid state present
  have fnd := lookup_setStream { coord with ready := ready } sid { state with
    readyQueued := false, upload := up, stagedLeases := leases }
  refine sched.pop fst rfl rfl rfl rfl (fun _ ne => Finmap.lookup_insert_of_ne _ ne) ?_ ?_
  · intro other there
    obtain rfl := some.inj (fnd.symm.trans there)
    exact {
      number := entry.number
      ticket := entry.ticket
      own := named.trans entry.own
      declared := tot.trans entry.declared
      unopened := by
        intro fresh
        rw [opened] at fresh
        cases fresh
      queued := (sched.count_tail fst present).1
      polled := fun _ => Or.inr rfl
      awaiting := by
        intro undone
        have pre : state.upload.isDone = false := by
          rw [← Bool.not_eq_true]
          intro done
          rw [closed done] at undone
          cases undone
        have awaiting := entry.awaiting pre
        exact ⟨awaiting.clear, awaiting.silent, awaiting.listening⟩ }
  · simp only [unopened, fnd, any_some, opened, Bool.not_true]

theorem Scheduled.pump (sched : coord.Scheduled none unread)
    (eff : PumpEffect coord (next, .ok ())) : next.Scheduled none unread := by
  cases eff with
  | stale sid ready fst missing =>
    have popped : ({ coord with ready := ready } : Coordinator).Scheduled (some sid) unread := by
      refine sched.pop fst rfl rfl rfl rfl (fun _ _ => rfl) ?_ ?_
      · intro state present
        rw [missing] at present
        cases present
      · simp only [unopened, missing, any_none]
    apply popped.release
    intro state present
    rw [missing] at present
    cases present
  | idle _ _ fst state present stalled =>
    have opened : state.upload.opened = true := by
      rw [← Bool.not_eq_false]
      intro fresh
      exact stalled (pollable_of_unopened (sched.entry _ _ present) fresh)
    have popped := sched.popped state.stagedLeases fst present rfl rfl opened id
    apply popped.release
    intro other there pollable
    obtain rfl := some.inj ((lookup_setStream _ _ _).symm.trans there)
    exact absurd pollable stalled
  | sent _ _ fst _ present _ up fr polled leases _ _ queued =>
    obtain ⟨named, tot, unclosed, how⟩ := pollSend_sent polled
    have opened : up.opened = true := by
      rcases how with ⟨-, -, opened⟩ | ⟨starved, -, same⟩
      · exact opened
      · rw [same, ← Bool.not_eq_false]
        intro fresh
        have remaining := ((sched.entry _ _ present).unopened fresh).2.1
        rw [available_of_head remaining] at starved
        exact starved remaining
    have popped := sched.popped leases.2 fst present named tot opened
      (by intro done; rw [isDone, unclosed] at done; cases done)
    have pushed := popped.pushPacket ⟨fr, leases.1⟩
    split at queued
    · exact pushed.enqueue queued
    next settled =>
      subst queued
      apply pushed.release
      intro other there pollable
      obtain rfl := some.inj ((lookup_setStream _ _ _).symm.trans there)
      simp only [Bool.and_eq_true, Bool.not_eq_true', not_and_or, Bool.not_eq_false] at settled
      rcases settled with done | blocked
      · exact absurd pollable (not_pollable_of_isDone done)
      · exact absurd pollable (not_pollable_of_isBlocked blocked)

theorem Scheduled.done_of_pending (sched : coord.Scheduled busy unread)
    (present : coord.streams.lookup sid = some state)
    (waits : state.pendingDelivery ≠ []) : state.upload.isDone = true := by
  rw [← Bool.not_eq_false]
  intro undone
  exact waits ((sched.entry _ _ present).awaiting undone).clear

theorem Scheduled.flush {last : Bool} (sched : coord.Scheduled none unread)
    (eff : FlushEffect coord sid last (next, .ok ())) : next.Scheduled none unread := by
  cases eff with
  | calm | full => exact sched
  | sent state present ev pend fst =>
    have done := sched.done_of_pending present (by simp [fst])
    have fnd := lookup_setStream (coord.pushDelivery state.ticket ev) sid { state with pendingDelivery := pend }
    refine sched.keep ((Aside.pushDelivery (sched.apart present) ev).trans
      (.setStream _ _ _)) rfl (fun _ _ => rfl) (fun _ _ same => same) ?_ ?_
    · intro other there
      obtain rfl := some.inj (fnd.symm.trans there)
      exact entry_of_done (sched.entry _ _ present) (length_modify _ _ _) rfl rfl rfl rfl rfl done
    · simp only [unopened, fnd, present, any_some]
      exact id
  | ended _ present ev =>
    refine sched.remove ((Aside.pushDelivery (sched.apart present) ev).trans
      (.removeState _ _ _)) ?_ (fun _ _ => rfl) (fun _ _ same => same) ?_
    · rw [removeState_eq]
      rfl
    · rw [removeState_eq]
      exact Finmap.lookup_erase _ _
  | closed _ _ _ _ _ reset =>
    obtain ⟨aside, ready, left⟩ := reset.aside
    exact sched.remove aside ready (fun _ _ => rfl) (fun _ _ same => same) left

theorem Scheduled.reset (sched : coord.Scheduled none unread)
    (eff : ResetEffect coord sid (next, .ok ())) : next.Scheduled none unread := by
  obtain ⟨aside, ready, gone⟩ := eff.aside
  exact sched.remove aside ready (fun _ _ => rfl) (fun _ _ same => same) gone

end

end Coordinator

end SplRust.Transport
