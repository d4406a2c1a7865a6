import SplRust.Transport.DeliveryMoves

/-! Every step of the coordinator's machine moves each lane, so what holds of lanes holds of
every open in every run. -/

namespace SplRust.Transport
open SplRust.Lib SplRust.Core List Option StreamChannels CoordinatorReply

def CoordinatorReply.producedAt (reply : CoordinatorReply) (ticket : Nat) : List StreamEvent :=
  (reply.produced.filter fun event => event.1 == ticket).map Prod.snd

/-- The deliveries that `recv` of an open returned in a step. -/
def CoordinatorReply.takenAt (reply : CoordinatorReply) (ticket : Nat) : List DeliveryEvent :=
  (reply.returned.filter fun event => event.1 == ticket).flatMap fun event => event.2.taken

theorem supplied_mono {entry after : StreamChannels} (declared : after.declaredBodyLen = entry.declaredBodyLen)
    (more : entry.sentBodyLen ≤ after.sentBodyLen) (sent : entry.supplied = true) : after.supplied = true := by
  simp only [StreamChannels.supplied, decide_eq_true_eq] at sent ⊢
  omega

/-- The lane of an open apart from what its request sees. -/
def baseLane (running : Bool) (found : Option StreamState) (phase : StreamPhase)
    (unread : List StreamEvent) : DeliveryLane :=
  match found with
  | none => { opened := true, running := running }
  | some state =>
      { opened := true
        live := true
        done := state.upload.isDone
        running := running
        phase := phase
        unread := unread
        pending := state.pendingDelivery }

section
variable {after : StreamChannels} {ticket : Nat} {call : LocalCall} {acted : StreamChannels × LocalReply}
variable {entry : StreamChannels} {running : Bool} {fnd : Option StreamState}
  {ph : StreamPhase} {unread : List StreamEvent}

theorem laneFrom_receiving (receives : entry.receiving = true) :
    entry.laneFrom running fnd ph unread = { baseLane running fnd ph unread with
      delivery := entry.delivery
      holding := entry.holding
      sent := entry.supplied } := by
  unfold laneFrom
  rw [if_pos receives]
  cases fnd with
  | none | some => rfl

theorem LaneRun.receiving {taken : List DeliveryEvent} (receives : entry.receiving = true)
    (still : after.receiving = true) (run : LaneRun { baseLane running fnd ph unread with
        delivery := entry.delivery
        holding := entry.holding
        sent := entry.supplied } [] taken { baseLane running fnd ph unread with
        delivery := after.delivery
        holding := after.holding
        sent := after.supplied }) : LaneRun (entry.laneFrom running fnd ph unread) [] taken
      (after.laneFrom running fnd ph unread) := by
  rw [laneFrom_receiving receives, laneFrom_receiving still]
  exact run

theorem laneFrom_deaf (deaf : entry.receiving = false) :
    entry.laneFrom running fnd ph unread = entry.deafLane running := by
  unfold laneFrom
  exact if_neg (by simp [deaf])

theorem LaneRun.deafen (entry : StreamChannels) (running : Bool) (fnd : Option StreamState)
    (ph : StreamPhase) (unread : List StreamEvent) :
    LaneRun (entry.laneFrom running fnd ph unread) [] [] (entry.deafLane running) := by
  by_cases receives : entry.receiving = true
  · rw [laneFrom_receiving receives]
    cases fnd with
    | none | some => exact .one (.close rfl)
  · exact .of_eq (laneFrom_deaf (Bool.not_eq_true _ ▸ receives)).symm

section
variable (receiving : after.receiving = entry.receiving) (delivery : after.delivery = entry.delivery)
  (holding : after.holding = entry.holding)
include receiving delivery holding

theorem laneFrom_same (supplied : after.supplied = entry.supplied) :
    after.laneFrom running fnd ph unread = entry.laneFrom running fnd ph unread := by
  cases receives : entry.receiving with
  | false =>
    rw [laneFrom_deaf receives, laneFrom_deaf (receiving.trans receives)]
    rw [deafLane, deafLane, supplied]
  | true =>
    rw [laneFrom_receiving receives, laneFrom_receiving (receiving.trans receives), delivery, holding, supplied]

theorem LaneRun.push
    (declared : after.declaredBodyLen = entry.declaredBodyLen) (more : entry.sentBodyLen ≤ after.sentBodyLen) :
    LaneRun (entry.laneFrom running fnd ph unread) [] [] (after.laneFrom running fnd ph unread) := by
  cases sent : after.supplied with
  | false =>
    have pre : entry.supplied = false := by
      rw [← Bool.not_eq_true]
      intro already
      rw [supplied_mono declared more already] at sent
      cases sent
    exact .of_eq (laneFrom_same receiving delivery holding (sent.trans pre.symm))
  | true =>
    have same : after.laneFrom running fnd ph unread =
        { entry.laneFrom running fnd ph unread with sent := true } := by
      cases receives : entry.receiving with
      | false =>
        rw [laneFrom_deaf receives, laneFrom_deaf (receiving.trans receives)]
        rw [deafLane, deafLane, sent]
      | true =>
        rw [laneFrom_receiving receives, laneFrom_receiving (receiving.trans receives), delivery, holding, sent]
    rw [same]
    exact .one .supply

end

section
variable (eff : LocalEffect entry ticket call acted)
include eff

/-- What a request does with its ends moves its lane. -/
theorem LocalEffect.lane (hushed : entry.receiving = false → entry.holding = none) :
    LaneRun (entry.laneFrom running fnd ph unread) [] acted.2.taken
      (acted.1.laneFrom running fnd ph unread) := by
  cases eff with
  | early receives free head rest fst =>
    refine .receiving receives receives ?_
    exact .one (.takeEarly head rest free fst)
  | unknown receives free rest fst =>
    refine .receiving receives receives ?_
    exact .one (.takeUnknown rest free fst)
  | taken receives free ev rest fst =>
    refine .receiving receives receives ?_
    exact .one (.takeEvent ev rest free fst)
  | returned ev held =>
    by_cases receives : entry.receiving = true
    · refine .receiving receives receives ?_
      exact .one (.returns ev held)
    · rw [hushed (by simpa using receives)] at held
      cases held
  | abandoned =>
    by_cases receives : entry.receiving = true
    · refine .receiving receives receives (.one (.abandon ?_))
      simp only [StreamChannels.supplied, decide_eq_false_iff_not]
      omega
    · have deaf : entry.receiving = false := by simpa using receives
      have same : ({ entry with holding := none } : StreamChannels).laneFrom running fnd ph
          unread = entry.deafLane running := laneFrom_deaf deaf
      exact .of_eq (same.trans (laneFrom_deaf deaf).symm)
  | deafened =>
    have deaf : ({ entry with receiving := false, holding := none } : StreamChannels).laneFrom
        running fnd ph unread = entry.deafLane running := laneFrom_deaf rfl
    rw [deaf]
    exact .deafen entry running fnd ph unread
  | pushed _ chunk =>
    refine .push ?_ ?_ ?_ ?_ (Nat.le_add_right entry.sentBodyLen chunk.bytes.length)
    · rfl
    · rfl
    · rfl
    · rfl
  | _ => exact .refl _

theorem LocalEffect.paired {sid : UInt32} {state : StreamState} (paired : Paired sid state entry) :
    Paired sid state acted.1 := by
  cases eff with
  | pushed =>
    refine ⟨paired.streamId, paired.attached, paired.declared, ?_⟩
    have given := paired.supplied
    simp only [queuedBytes, map_append, map_cons, map_nil, sum_append, sum_cons, sum_nil] at given ⊢
    omega
  | _ => exact ⟨paired.streamId, paired.attached, paired.declared, paired.supplied⟩

theorem LocalEffect.hushed (hushed : entry.receiving = false → entry.holding = none) :
    acted.1.receiving = false → acted.1.holding = none := by
  cases eff with
  | taken receives =>
    intro deaf
    rw [show entry.receiving = false from deaf] at receives
    cases receives
  | returned | abandoned | deafened => exact fun _ => rfl
  | _ => exact hushed

theorem LocalEffect.same_stream : acted.1.streamId = entry.streamId := by
  cases eff with
  | _ => rfl

end

end

namespace Coordinator

def lane (coord : Coordinator) (ticket : Nat) : DeliveryLane :=
  coord.laneAt coord.phase.running coord.phase.unread ticket

/-- What teardown tells the streams. -/
def Teardown (coord : Coordinator) : Prop :=
  ∀ last, (coord.phase = .stopping last ∨ ∃ order, coord.phase = .draining order last) →
    last = fanoutEof ∨ last = .certificateUnknown

section
variable {res : Outcome} {entry : StreamChannels}
variable {coord next : Coordinator} {sid : UInt32} {ticket : Nat} {running : Bool}
  {unread : List (UInt32 × StreamEvent)} {ph : CoordinatorPhase}

theorem lane_halts (shapes : ∀ ticket, next.shapeAt ticket = coord.shapeAt ticket)
    (streams : next.streams = coord.streams) :
    LaneRun (coord.laneAt running unread ticket) [] [] (next.laneAt false [] ticket) := by
  unfold laneAt stateAt
  rw [shapes, streams]
  cases coord.shapeAt ticket with
  | none => exact .one (.stop .opening)
  | some entry =>
    simp only
    unfold laneFrom
    split
    · split
      · exact .one (.stop .opening)
      · exact .one (.stop (.of (next.demux.streams.lookup entry.streamId)))
    · exact .one (.stop .opening)

theorem Carried.settled (carried : Carried coord res.1 coord.phase.running coord.phase.unread
      ph.unread) (runs : ph.running = coord.phase.running) (ticket : Nat) :
    LaneRun (coord.lane ticket) [] [] ((settled res ph).lane ticket) := by
  have moved := carried.lanes ticket
  unfold Coordinator.settled
  split
  · rw [← runs] at moved
    rw [lane, ← runs]
    exact moved
  · exact moved.trans (lane_halts (fun _ => rfl) rfl)

theorem registered_settled (reg : res.1.Registered) : (settled res ph).Registered := by
  unfold Coordinator.settled
  split
  · exact reg.congr rfl fun _ => rfl
  · exact reg.congr rfl fun _ => rfl

theorem lane_of_moves (moves : Moves coord ph) (ticket : Nat) :
    LaneRun (coord.lane ticket) [] [] ((coord.setPhase ph).lane ticket) := by
  have stays (inside : ph.running = coord.phase.running) (same : ph.unread = coord.phase.unread) :
      LaneRun (coord.lane ticket) [] [] ((coord.setPhase ph).lane ticket) := by
    rw [lane, ← inside, ← same]
    exact .refl _
  cases moves with
  | receives _ idle | received idle | replied _ _ idle | collected _ idle | flushed idle | pumped idle =>
    exact stays (by rw [idle]; rfl) (by rw [idle]; rfl)
  | _ => exact lane_halts (fun _ => rfl) rfl

theorem teardown_of_running (runs : coord.phase.running = true) : coord.Teardown := by
  intro last inside
  rcases inside with stopping | ⟨order, draining⟩
  · rw [stopping] at runs
    cases runs
  · rw [draining] at runs
    cases runs

theorem teardown_failing {error : TransportError} (failing : coord.phase = .failing error) : coord.Teardown := by
  intro last inside
  rcases inside with stopping | ⟨order, draining⟩
  · rw [stopping] at failing
    cases failing
  · rw [draining] at failing
    cases failing

theorem teardown_settled (runs : ph.running = true) : (settled res ph).Teardown := by
  unfold Coordinator.settled
  split
  · exact teardown_of_running runs
  · exact teardown_failing rfl

theorem teardown_of_moves (teardown : coord.Teardown) (moves : Moves coord ph) :
    (coord.setPhase ph).Teardown := by
  cases moves with
  | fails => exact teardown_failing rfl
  | stops =>
    intro last inside
    rcases inside with stopping | ⟨order, draining⟩
    · cases stopping
      exact Or.inl rfl
    · cases draining
  | judged _ _ _ how =>
    intro other inside
    rcases inside with stopping | ⟨order, draining⟩
    · cases stopping
      exact how
    · cases draining
  | gathered _ last at_start =>
    intro other inside
    rcases inside with stopping | ⟨others, draining⟩
    · cases stopping
    · cases draining
      exact teardown last (Or.inl at_start)
  | drained =>
    intro other inside
    rcases inside with stopping | ⟨others, draining⟩
    · cases stopping
    · cases draining
  | _ => exact teardown_of_running rfl

theorem producedAt_own (reg : coord.Registered) {state : StreamState}
    (hp : coord.streams.lookup sid = some state) (out : DemuxOutput) :
    ({ produced := coord.produced out } : CoordinatorReply).producedAt state.ticket =
      eventsOf sid out.streamEvents := by
  simp only [producedAt, Coordinator.produced]
  induction out.streamEvents with
  | nil => rfl
  | cons ev es ih =>
    rw [eventsOf_cons, filterMap_cons]
    by_cases same : ev.1 = sid
    · rw [if_pos same, same, hp]
      simp only [map_some, filter_cons, beq_self_eq_true, if_true, map_cons]
      rw [← same] at ih ⊢
      rw [ih]
    · rw [if_neg same, ← ih]
      cases fnd : coord.streams.lookup ev.1 with
      | none => rfl
      | some other =>
        have apart : other.ticket ≠ state.ticket := fun equal => same (reg.unique fnd hp equal)
        simp only [map_some, filter_cons, beq_eq_false_iff_ne.mpr apart, Bool.false_eq_true, if_false]

theorem producedAt_none (gone : ∀ sid state,
    coord.streams.lookup sid = some state → state.ticket ≠ ticket) (out : DemuxOutput) :
    ({ produced := coord.produced out } : CoordinatorReply).producedAt ticket = [] := by
  simp only [producedAt, Coordinator.produced, map_eq_nil_iff, filter_eq_nil_iff]
  intro ev mem
  obtain ⟨source, -, mapped⟩ := mem_filterMap.mp mem
  obtain ⟨state, fnd, rfl⟩ := map_eq_some_iff.mp mapped
  simpa using gone source.1 state fnd

/-- A read hands each lane the events of its stream. -/
theorem lane_of_read {data : Bytes} {dm : CarrierDemux} {out : DemuxOutput}
    (reg : coord.Registered) (fed : coord.demux.feed data = (dm, .ok out)) (ticket : Nat) :
    LaneRun (coord.laneAt true [] ticket) (({ produced := coord.produced out } : CoordinatorReply).producedAt ticket) []
      (({ coord with demux := dm } : Coordinator).laneAt true out.streamEvents ticket) := by
  cases there : coord.shapeAt ticket with
  | none =>
    have gone : ∀ sid state, coord.streams.lookup sid = some state → state.ticket ≠ ticket := by
      intro sid state hp same
      obtain ⟨_, fnd, -⟩ := reg.paired sid state hp
      rw [same, there] at fnd
      cases fnd
    rw [producedAt_none gone, laneAt_unopened there]
    exact .of_eq (laneAt_unopened there)
  | some entry =>
    by_cases receives : entry.receiving = true
    · cases fnd : coord.stateAt entry.streamId ticket with
      | none =>
        have gone : ∀ sid state, coord.streams.lookup sid = some state → state.ticket ≠ ticket := by
          intro sid state hp same
          obtain ⟨_, seen, paired⟩ := reg.paired sid state hp
          rw [same, there] at seen
          cases seen
          rw [paired.streamId, ← same, stateAt_own hp] at fnd
          cases fnd
        rw [producedAt_none gone, laneAt_left there receives fnd]
        exact .of_eq (laneAt_left there receives fnd)
      | some state =>
        have hp : coord.streams.lookup entry.streamId = some state ∧ state.ticket = ticket := by
          simpa [stateAt, filter_eq_some_iff] using fnd
        obtain ⟨hp, rfl⟩ := hp
        rw [producedAt_own reg hp, laneAt_live there receives fnd]
        have after : ({ coord with demux := dm } : Coordinator).laneAt true
            out.streamEvents state.ticket = _ := laneAt_live there receives fnd
        rw [after]
        exact .one (.produce _ _ rfl rfl rfl (CarrierDemux.feed_lifecycle entry.streamId fed).1)
    · have deaf : entry.receiving = false := by simpa using receives
      rw [laneAt_deaf there deaf]
      have after : ({ coord with demux := dm } : Coordinator).laneAt true
          out.streamEvents ticket = entry.deafLane true := laneAt_deaf there deaf
      rw [after]
      exact .one (.ignore _ rfl rfl)

theorem lanes_of_fresh (reg : coord.Registered) {state : StreamState}
    {fresh : StreamChannels} (missing : coord.streams.lookup sid = none)
    (streams : next.streams = coord.streams.insert sid state)
    (shapes : ∀ ticket, next.shapeAt ticket = if ticket = coord.channels.length
      then some fresh else coord.shapeAt ticket)
    (phases : ∀ other ≠ sid, StreamPhase.of (next.demux.streams.lookup other) = .of (coord.demux.streams.lookup other))
    (opening : StreamPhase.of (next.demux.streams.lookup sid) = .opening)
    (own : state.ticket = coord.channels.length) (paired : Paired sid state fresh)
    (undone : state.upload.isDone = false) (clear : state.pendingDelivery = [])
    (empty : fresh.delivery = []) (free : fresh.holding = none) (receives : fresh.receiving = true) :
    next.Registered ∧ ∀ ticket, LaneRun (coord.laneAt true [] ticket) [] [] (next.laneAt true [] ticket) := by
  have unopened : coord.shapeAt coord.channels.length = none := by
    rw [shapeAt, getElem?_eq_none (Nat.le_refl _)]
    rfl
  have fnd : next.streams.lookup sid = some state := by
    rw [streams]
    exact Finmap.lookup_insert _
  have others (other : UInt32) (ne : other ≠ sid) : next.streams.lookup other = coord.streams.lookup other := by
    rw [streams]
    exact Finmap.lookup_insert_of_ne _ ne
  refine ⟨⟨?_, ?_⟩, ?_⟩
  · intro other their seen
    by_cases same : other = sid
    · subst same
      obtain rfl := some.inj (fnd.symm.trans seen)
      exact ⟨fresh, by rw [shapes, if_pos own], paired⟩
    · rw [others other same] at seen
      obtain ⟨entry, there, also⟩ := reg.paired other their seen
      have apart : their.ticket ≠ coord.channels.length := by
        intro equal
        rw [equal, unopened] at there
        cases there
      exact ⟨entry, by rw [shapes, if_neg apart, there], also⟩
  · intro ticket entry there deaf
    rw [shapes] at there
    split at there
    · cases there
      rw [receives] at deaf
      cases deaf
    · exact reg.hushed ticket entry there deaf
  · intro ticket
    by_cases mine : ticket = coord.channels.length
    · subst mine
      rw [laneAt_unopened unopened]
      have now : next.shapeAt coord.channels.length = some fresh := by rw [shapes, if_pos rfl]
      have seen : next.stateAt fresh.streamId coord.channels.length = some state := by
        rw [paired.streamId, ← own]
        exact stateAt_own fnd
      rw [laneAt_live now receives seen, paired.streamId, opening]
      have lane : fresh.liveLane true state .opening (eventsOf sid []) =
          { opened := true, live := true, running := true, sent := fresh.supplied } := by
        rw [liveLane, undone, clear, empty, free]
        rfl
      rw [lane]
      exact .one (.opens fresh.supplied rfl)
    · have shape : next.shapeAt ticket = coord.shapeAt ticket := by rw [shapes, if_neg mine]
      refine .of_eq (laneAt_congr shape ?_ ?_)
      · intro entry there
        by_cases same : entry.streamId = sid
        · rw [same, stateAt_none, stateAt_none]
          · intro other seen
            rw [missing] at seen
            cases seen
          · intro other seen equal
            rw [← some.inj (fnd.symm.trans seen), own] at equal
            exact mine equal.symm
        · rw [stateAt, stateAt, others _ same]
      · intro entry their there seen
        have ne : entry.streamId ≠ sid := by
          intro same
          rw [same, stateAt, missing] at seen
          cases seen
        exact ⟨phases _ ne, rfl⟩

theorem channels_length_removeState (coord : Coordinator) (sid : UInt32) (state : StreamState) :
    (coord.removeState sid state).channels.length = coord.channels.length := by
  rw [removeState_eq]
  exact detach_length _ _

theorem insert_erase (table : Table UInt32 StreamState) (sid : UInt32) (state : StreamState) :
    (table.erase sid).insert sid state = table.insert sid state := by
  apply Finmap.ext_lookup
  intro other
  by_cases same : other = sid
  · rw [same, Finmap.lookup_insert, Finmap.lookup_insert]
  · rw [Finmap.lookup_insert_of_ne _ same, Finmap.lookup_insert_of_ne _ same, Finmap.lookup_erase_ne same]

theorem shapeAt_append {base : Coordinator} {fresh : StreamChannels}
    (chs : next.channels = base.channels ++ [fresh]) (ticket : Nat) :
    next.shapeAt ticket = if ticket = base.channels.length then some fresh.shape else base.shapeAt ticket := by
  unfold shapeAt
  rw [chs, getElem?_append]
  split
  next inside => rw [if_neg (Nat.ne_of_lt inside)]
  next outside =>
    split
    next same =>
      subst same
      simp
    next ne => rw [getElem?_eq_none (by simp; omega), getElem?_eq_none (by omega)]

theorem lanes_of_open (reg : coord.Registered) (method target : Text)
    (headers : Headers) (len : Nat) :
    (coord.openStreamOnCarrier method target headers len).Registered ∧
      ∀ ticket, LaneRun (coord.laneAt true [] ticket) [] []
        ((coord.openStreamOnCarrier method target headers len).laneAt true [] ticket) := by
  generalize opened : coord.openStreamOnCarrier method target headers len = next
  have dm : next.demux = coord.demux.openStream coord.dialer.next := by
    rw [← opened]
    rfl
  have phases (other : UInt32) (ne : other ≠ coord.dialer.next) :
      StreamPhase.of (next.demux.streams.lookup other) = .of (coord.demux.streams.lookup other) := by
    rw [dm, CarrierDemux.openStream, Finmap.lookup_insert_of_ne _ ne]
  have opening : StreamPhase.of (next.demux.streams.lookup coord.dialer.next) = .opening := by
    rw [dm, CarrierDemux.openStream, Finmap.lookup_insert]
    rfl
  have paired : Paired coord.dialer.next (coord.openedState method target headers len)
      (StreamChannels.shape { streamId := coord.dialer.next, declaredBodyLen := len }) :=
    ⟨rfl, rfl, rfl, Nat.le_refl _⟩
  cases hp : coord.streams.lookup coord.dialer.next with
  | none =>
    refine lanes_of_fresh reg hp ?_ (shapeAt_append ?_) phases opening rfl paired rfl rfl rfl rfl rfl
    · rw [← opened, openStreamOnCarrier_eq _ _ _ _ hp]
      rfl
    · rw [← opened, openStreamOnCarrier_eq _ _ _ _ hp]
  | some old =>
    -- The state the id still had is dropped first.
    have dropped : Carried coord (coord.removeState coord.dialer.next old) true [] [] :=
      reg.drop hp (.refl fun other fnd => by
        rw [some.inj (fnd.symm.trans hp)]) (fun _ _ => rfl) rfl (.removeState rfl)
    have length := channels_length_removeState coord coord.dialer.next old
    have opened_eq : next.streams = coord.streams.insert coord.dialer.next
          (coord.openedState method target headers len) ∧
        next.channels = (coord.removeState coord.dialer.next old).channels ++
          [{ streamId := coord.dialer.next, declaredBodyLen := len }] := by
      rw [← opened, openStreamOnCarrier, removeState_eq]
      simp only [FrameDialer.allocate, hp, dropState_eq]
      exact ⟨rfl, trivial⟩
    have fresh := lanes_of_fresh dropped.registered (lookup_removeState _ _ _) (by
        rw [opened_eq.1, removeState_eq]
        exact (insert_erase _ _ _).symm) (shapeAt_append opened_eq.2)
      (fun other ne => by rw [phases other ne, removeState_eq]) opening
      length.symm paired rfl rfl rfl rfl rfl
    exact ⟨fresh.1, fun ticket => (dropped.lanes ticket).trans (fresh.2 ticket)⟩

/-- One open's ends change; the other lanes stay. -/
theorem lanes_of_ends (reg : coord.Registered) {after : StreamChannels}
    (there : coord.shapeAt ticket = some entry)
    (shapes : ∀ other, next.shapeAt other = if other = ticket then some after
      else coord.shapeAt other) (streams : next.streams = coord.streams)
    (dm : next.demux = coord.demux) (sid : after.streamId = entry.streamId)
    (paired : ∀ sid state, Paired sid state entry → Paired sid state after)
    (hushed : after.receiving = false → after.holding = none) {taken : List DeliveryEvent}
    (own : ∀ fnd ph es, LaneRun (entry.laneFrom running fnd ph es) [] taken (after.laneFrom running fnd ph es)) :
    next.Registered ∧ LaneRun (coord.laneAt running unread ticket) [] taken (next.laneAt running unread ticket) ∧
      ∀ other ≠ ticket, next.laneAt running unread other = coord.laneAt running unread other := by
  refine ⟨⟨?_, ?_⟩, ?_, ?_⟩
  · intro sid state hp
    rw [streams] at hp
    obtain ⟨kn, fnd, pair⟩ := reg.paired sid state hp
    by_cases mine : state.ticket = ticket
    · rw [mine, there] at fnd
      cases fnd
      exact ⟨after, by rw [shapes, if_pos mine], paired sid state pair⟩
    · exact ⟨kn, by rw [shapes, if_neg mine, fnd], pair⟩
  · intro other kn fnd deaf
    rw [shapes] at fnd
    split at fnd
    · cases fnd
      exact hushed deaf
    · exact reg.hushed other kn fnd deaf
  · have now : next.shapeAt ticket = some after := by rw [shapes, if_pos rfl]
    simp only [laneAt, there, now, stateAt, streams, dm]
    rw [sid]
    exact own _ _ _
  · intro other ne
    have shape : next.shapeAt other = coord.shapeAt other := by rw [shapes, if_neg ne]
    simp only [laneAt, shape, stateAt, streams, dm]

theorem shapeAt_set (there : coord.channels[ticket]? = some entry) (after : StreamChannels)
    (other : Nat) : ({ coord with channels := coord.channels.set ticket after } :
      Coordinator).shapeAt other = if other = ticket then some after.shape else coord.shapeAt other := by
  unfold shapeAt
  simp only [getElem?_set]
  by_cases mine : other = ticket
  · subst mine
    have inside : other < coord.channels.length := (List.getElem?_eq_some_iff.mp there).1
    simp [inside]
  · rw [if_neg (fun equal => mine equal.symm), if_neg mine]

theorem takenAt_own (ticket : Nat) (rep : LocalReply) :
    ({ returned := [(ticket, rep)] } : CoordinatorReply).takenAt ticket = rep.taken := by
  simp [takenAt]

theorem takenAt_other {other : Nat} (ne : other ≠ ticket) (rep : LocalReply) :
    ({ returned := [(ticket, rep)] } : CoordinatorReply).takenAt other = [] := by
  simp [takenAt, ne.symm]

section
variable (reg : coord.Registered)
include reg

theorem lanes_of_act {call : LocalCall}
    (there : coord.channels[ticket]? = some entry) {acted : StreamChannels × LocalReply}
    (did : entry.localStep ticket call = some acted)
    (same : next = { coord with channels := coord.channels.set ticket acted.1 }) :
    next.Registered ∧ ∀ other, LaneRun (coord.laneAt running unread other) []
      (({ returned := [(ticket, acted.2)] } : CoordinatorReply).takenAt other)
      (next.laneAt running unread other) := by
  subst same
  have eff := localStep_effect did
  have shape : coord.shapeAt ticket = some entry.shape := by rw [shapeAt, there]; rfl
  have hushed : entry.receiving = false → entry.holding = none := by
    intro deaf
    exact reg.hushed ticket entry.shape shape deaf
  have paired (sid : UInt32) (state : StreamState)
      (pre : Paired sid state entry.shape) : Paired sid state acted.1.shape := by
    have whole : Paired sid state entry := ⟨pre.streamId, pre.attached, pre.declared, pre.supplied⟩
    have now := eff.paired whole
    exact ⟨now.streamId, now.attached, now.declared, now.supplied⟩
  obtain ⟨after, own, others⟩ := lanes_of_ends reg shape (shapeAt_set there acted.1) rfl rfl
    eff.same_stream paired (eff.hushed hushed) fun _ _ _ => eff.lane hushed
  refine ⟨after, ?_⟩
  intro other
  by_cases mine : other = ticket
  · subst mine
    rw [takenAt_own]
    exact own
  · rw [takenAt_other mine]
    exact .of_eq (others other mine)

theorem lanes_of_hangUp (ticket : Nat) (same : next = coord.updateChannels ticket fun chs =>
      { chs with receiving := false, holding := none, sending := false }) :
    Carried coord next running unread unread := by
  subst same
  have update := shapeAt_updateChannels coord (fun chs =>
    { chs with receiving := false, holding := none, sending := false }) (fun _ => rfl) ticket
  cases there : coord.shapeAt ticket with
  | none =>
    refine .same reg ?_ rfl fun _ => rfl
    intro other
    rw [update]
    split
    next mine =>
      rw [← mine, there]
      rfl
    · rfl
  | some entry =>
    have shapes (other : Nat) : (coord.updateChannels ticket fun chs =>
        { chs with receiving := false, holding := none, sending := false }).shapeAt other =
        if other = ticket then some { entry with receiving := false, holding := none, sending := false }
        else coord.shapeAt other := by
      rw [update]
      by_cases mine : other = ticket
      · rw [if_pos mine.symm, if_pos mine, mine, there]
        rfl
      · rw [if_neg (fun equal => mine equal.symm), if_neg mine]
    obtain ⟨after, own, others⟩ := lanes_of_ends reg there shapes rfl rfl rfl
      (fun _ _ paired => ⟨paired.streamId, paired.attached, paired.declared, paired.supplied⟩)
      (fun _ => rfl) fun fnd ph es => by
        rw [show ({ entry with receiving := false, holding := none, sending := false } :
          StreamChannels).laneFrom running fnd ph es = entry.deafLane running from
          laneFrom_deaf rfl]
        exact .deafen entry running fnd ph es
    refine ⟨after, ?_⟩
    intro other
    by_cases mine : other = ticket
    · subst mine
      exact own
    · exact .of_eq (others other mine)

/-- Every step moves every lane, with what it produced for the lane and what it returned. -/
theorem step_lanes {call : CoordinatorCall} {rep : CoordinatorReply} (teardown : coord.Teardown)
    (eff : StepEffect coord call next rep) :
    next.Registered ∧ next.Teardown ∧ ∀ ticket, LaneRun (coord.lane ticket)
      (rep.producedAt ticket) (rep.takenAt ticket) (next.lane ticket) := by
  have settles {res : Outcome} {ph : CoordinatorPhase} {running : Bool} {pre : List (UInt32 × StreamEvent)}
      (carried : Carried coord res.1 running pre ph.unread)
      (inside : coord.phase.running = running) (unread : coord.phase.unread = pre)
      (goes : ph.running = running) (runs : running = true) :
      (settled res ph).Registered ∧ (settled res ph).Teardown ∧
        ∀ ticket, LaneRun (coord.lane ticket) [] [] ((settled res ph).lane ticket) := by
    subst inside
    subst unread
    exact ⟨registered_settled carried.registered, teardown_settled (goes.trans runs),
      fun ticket => carried.settled goes ticket⟩
  cases eff with
  | moves _ _ moves => exact ⟨reg.congr rfl fun _ => rfl, teardown_of_moves teardown moves, lane_of_moves moves⟩
  | read _ _ _ idle _ _ fed =>
    refine ⟨reg.congr rfl fun _ => rfl, teardown_of_running rfl, ?_⟩
    intro ticket
    rw [lane, idle]
    exact lane_of_read reg fed ticket
  | unread => exact ⟨reg.congr rfl fun _ => rfl, teardown_failing rfl, fun ticket => lane_halts (fun _ => rfl) rfl⟩
  | opens method target headers len idle =>
    obtain ⟨after, lanes⟩ := lanes_of_open reg method target headers len
    refine ⟨after.congr rfl fun _ => rfl, teardown_of_running rfl, ?_⟩
    intro ticket
    rw [lane, idle]
    exact lanes ticket
  | consumes _ _ _ idle eff | ticks _ _ idle eff | readTurn _ _ _ idle eff | receiveTurn _ _ _ _ idle eff
  | flushTurn _ _ _ _ idle eff => exact settles (eff.carried reg) (by rw [idle]; rfl) (by rw [idle]; rfl) rfl rfl
  | cancels _ _ idle eff | unreplied _ _ _ idle eff =>
    exact settles (eff.carried reg fun _ _ => rfl) (by rw [idle]; rfl) (by rw [idle]; rfl) rfl rfl
  | drained idle =>
    refine ⟨reg.congr rfl fun _ => rfl, teardown_of_running rfl, ?_⟩
    intro ticket
    rw [lane, idle]
    exact .refl _
  | readDone out at_end hd =>
    refine ⟨reg.congr rfl fun _ => rfl, teardown_of_running rfl, ?_⟩
    intro ticket
    have nothing : (CoordinatorPhase.reading out).unread = [] := hd.2.2.2
    rw [lane, at_end, nothing]
    exact .refl _
  | pumpTurn _ inside eff =>
    have runs : coord.phase.running = true := by
      rcases inside with pumping | ⟨ticket, sid, opening, -⟩
      · rw [pumping]
        rfl
      · rw [opening]
        rfl
    exact settles (eff.carried reg) rfl rfl rfl runs
  | openFailed ticket _ pumped _ inside eff =>
    have pumps : Carried coord pumped.1 true [] [] := eff.carried reg
    have hung : Carried pumped.1 (pumped.1.updateChannels ticket fun chs =>
        { chs with receiving := false, holding := none, sending := false }) true [] [] :=
      lanes_of_hangUp pumps.registered ticket rfl
    have both := pumps.trans hung
    refine ⟨both.registered.congr rfl fun _ => rfl, teardown_failing rfl, ?_⟩
    intro other
    rw [lane, inside]
    exact (both.lanes other).trans (lane_halts (fun _ => rfl) rfl)
  | fanout _ _ last inside next eff =>
    have carried : Carried coord next false [] [] := eff.carried (teardown last (Or.inr ⟨_, inside⟩)) reg
    refine ⟨carried.registered.congr rfl fun _ => rfl, ?_, ?_⟩
    · intro other inside
      rcases inside with stopping | ⟨order, draining⟩
      · cases stopping
      · cases draining
        exact teardown last (Or.inr ⟨_, inside⟩)
    · intro ticket
      rw [lane, inside]
      exact carried.lanes ticket
  | writes _ next eff =>
    have carried : Carried coord next coord.phase.running coord.phase.unread
        coord.phase.unread := eff.carried reg
    have ph : next.phase = coord.phase := by
      cases eff with
      | _ => rfl
    refine ⟨carried.registered, ?_, ?_⟩
    · intro last inside
      rw [ph] at inside
      exact teardown last inside
    · intro ticket
      rw [lane, lane, ph]
      exact carried.lanes ticket
  | acts _ _ _ there _ did =>
    obtain ⟨after, lanes⟩ := lanes_of_act reg there did rfl
    exact ⟨after, teardown, lanes⟩

end

end

end Coordinator

end SplRust.Transport
