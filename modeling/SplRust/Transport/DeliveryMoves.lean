import SplRust.Transport.DeliveryView

/-! Each function of the coordinator as moves of the lanes. -/

namespace SplRust.Transport
open SplRust.Lib SplRust.Core Option StreamChannels WindowedUpload

/-- The ways a lane can take in one event. -/
structure Handles (lane : DeliveryLane) (ev : StreamEvent) (phase : StreamPhase)
    (unread : List StreamEvent) : Prop where
  early : ∀ head, ev.item = .head head → lane.done = false → LaneRun lane [] [] (lane.dropped.push (.earlyFinal head))
  pend : lane.Waits → LaneRun lane [] [] { lane with
    phase := phase
    unread := unread
    pending := enqueuePendingDelivery lane.pending (.stream ev) }
  send : lane.pending = [] → (lane.done = false → ev.isHead = false) → ev.isEnding = false →
    LaneRun lane [] [] ({ lane with phase := phase, unread := unread }.push (.stream ev))
  finish : lane.pending = [] → ev.isEnding = true → LaneRun lane [] [] (lane.dropped.push (.stream ev))

theorem Handles.first {lane : DeliveryLane} {ev : StreamEvent} {rest : List StreamEvent}
    (live : lane.live = true) (hr : lane.running = true)
    (fst : lane.unread = ev :: rest) : Handles lane ev lane.phase rest where
  early head item undone := by
    obtain ⟨what, cost⟩ := ev
    obtain rfl : what = .head head := item
    exact .one (.early head cost rest live undone fst)
  pend waits := .one (.pend ev rest live hr fst waits)
  send clear late going := .one (.send ev rest live hr fst clear late going)
  finish clear ends := .one (.finish ev rest live hr fst clear ends)

theorem Handles.violation {lane : DeliveryLane} (rsn : ResetReason) (live : lane.live = true)
    (hr : lane.running = true) : Handles lane (.ending (.reset rsn)) .closed lane.unread where
  early head item := by cases item
  pend waits := .one (.violatePend rsn live hr waits)
  send _ _ going := by cases going
  finish clear _ := .one (.violate rsn live clear)

namespace Coordinator
section
variable {res : Outcome} {before : Coordinator}
variable {coord next : Coordinator} {sid : UInt32} {ticket : Nat} {hr : Bool}
  {unread nextUnread : List (UInt32 × StreamEvent)} {entry : StreamChannels} {state : StreamState}

theorem delivery_of_full (there : coord.shapeAt ticket = some entry)
    (full : coord.Full ticket) : entry.delivery ≠ [] := by
  obtain ⟨chs, fnd, long⟩ := full
  rw [shapeAt, fnd] at there
  cases there
  intro empty
  rw [show chs.delivery = [] from empty] at long
  exact absurd long (by decide)

theorem FrameEffect.carried {frame : Bytes} (reg : coord.Registered) (eff : FrameEffect coord frame res) :
    Carried coord res.1 hr unread unread := by
  cases eff with
  | sent => exact .same reg (fun _ => rfl) rfl fun _ => rfl
  | failed => exact .refl reg

theorem sameEnds_detached (entry : StreamChannels) : SameEnds entry entry.detached := ⟨rfl, rfl, rfl, rfl⟩

theorem sameEnds_offered (entry : StreamChannels) (ev : DeliveryEvent) :
    SameEnds entry (entry.offered ev) := ⟨rfl, rfl, rfl, rfl⟩

theorem SameEnds.trans {fst mid last : StreamChannels} (early : SameEnds fst mid)
    (late : SameEnds mid last) : SameEnds fst last where
  streamId := late.streamId.trans early.streamId
  receiving := late.receiving.trans early.receiving
  holding := late.holding.trans early.holding
  supplied := late.supplied.trans early.supplied

/-- The coordinator drops its ends of a stream. -/
structure Drops (sid : UInt32) (ticket : Nat) (coord next : Coordinator) : Prop where
  beside : Beside sid ticket coord next
  gone : next.streams.lookup sid = none
  closes : next.shapeAt ticket = (coord.shapeAt ticket).map StreamChannels.detached

theorem Drops.removeState (same : state.ticket = ticket) : Drops sid ticket coord (coord.removeState sid state) where
  beside := same ▸ .removeState coord sid state
  gone := lookup_removeState coord sid state
  closes := by rw [shapeAt_removeState, if_pos same]

theorem Drops.forget (same : state.ticket = ticket) : Drops sid ticket coord (coord.forget sid state) where
  beside := same ▸ .forget coord sid state
  gone := lookup_removeState coord sid state
  closes := (Drops.removeState same).closes

theorem Registered.drop (reg : before.Registered) (hp : before.streams.lookup sid = some state)
    (beside : Beside sid state.ticket before coord)
    (words : ∀ other ≠ sid, eventsOf other nextUnread = eventsOf other unread)
    (same : coord.shapeAt state.ticket = before.shapeAt state.ticket) (drops : Drops sid state.ticket coord next) :
    Carried before next hr unread nextUnread := by
  obtain ⟨entry, there, paired⟩ := reg.paired sid state hp
  refine reg.removed hp (beside.trans drops.beside) words there ?_ (sameEnds_detached entry) drops.gone ?_
  · rw [drops.closes, same, there]
    rfl
  · intro receives
    exact .one (.drop rfl)

theorem ResetEffect.carried (reg : coord.Registered) (eff : ResetEffect coord sid res)
    (words : ∀ other ≠ sid, eventsOf other nextUnread = eventsOf other unread) :
    Carried coord res.1 hr unread nextUnread := by
  cases eff with
  | absent missing => exact .absent reg missing words
  | reset state hp _ sent =>
    have dropped : Carried coord (coord.forget sid state) hr unread
        nextUnread := reg.drop hp (.refl fun other fnd => by
          rw [some.inj (fnd.symm.trans hp)]) words rfl (.forget rfl)
    exact dropped.trans (sent.carried dropped.registered)

theorem Registered.dismiss (reg : before.Registered) (hp : before.streams.lookup sid = some state)
    (beside : Beside sid state.ticket before coord)
    (words : ∀ other ≠ sid, eventsOf other nextUnread = eventsOf other unread)
    (there : before.shapeAt state.ticket = some entry)
    (same : coord.shapeAt state.ticket = some entry) (ev : DeliveryEvent)
    (drops : Drops sid state.ticket (coord.pushDelivery state.ticket ev) next)
    (own : entry.receiving = true → LaneRun (entry.liveLane hr state
      (.of (before.demux.streams.lookup sid)) (eventsOf sid unread)) [] []
      ((entry.leftLane hr).push ev)) : Carried before next hr unread nextUnread := by
  refine reg.removed hp ?_ words there ?_
    ((sameEnds_offered entry ev).trans (sameEnds_detached _)) drops.gone own
  · exact beside.trans ((Beside.pushDelivery state.ticket ev beside.own).trans drops.beside)
  · rw [drops.closes, shapeAt_pushDelivery, if_pos rfl, same]
    rfl

/-- Delivering one event moves the lane the way it takes the event in. -/
theorem DeliverEffect.carried_of {ev : StreamEvent}
    (eff : DeliverEffect coord sid ev res) (reg : before.Registered)
    (there : before.shapeAt state.ticket = some entry) (hp : before.streams.lookup sid = some state)
    (streams : coord.streams = before.streams) (chs : coord.channels = before.channels)
    (beside : Beside sid state.ticket before coord)
    (words : ∀ other ≠ sid, eventsOf other nextUnread = eventsOf other unread)
    (handles : Handles (entry.liveLane true state (.of (before.demux.streams.lookup sid)) (eventsOf sid unread)) ev
      (.of (coord.demux.streams.lookup sid)) (eventsOf sid nextUnread)) :
    Carried before res.1 true unread nextUnread := by
  have kn : coord.streams.lookup sid = some state := by rw [streams, hp]
  have shape : coord.shapeAt state.ticket = some entry := by rw [← there, shapeAt, shapeAt, chs]
  obtain ⟨other, fnd, paired⟩ := reg.paired sid state hp
  obtain rfl := some.inj (there.symm.trans fnd)
  have dropped {res : Outcome} (reset : ResetEffect coord sid res) :
      Carried before res.1 true unread nextUnread := by
    cases reset with
    | absent missing =>
      rw [kn] at missing
      cases missing
    | reset _ seen _ sent =>
      obtain rfl := some.inj (kn.symm.trans seen)
      have gone : Carried before (coord.forget sid state) true unread nextUnread :=
        reg.drop hp beside words (shape.trans there.symm) (.forget rfl)
      exact gone.trans (sent.carried gone.registered)
  cases eff with
  | absent missing =>
    rw [kn] at missing
    cases missing
  | early other seen head fst undone _ tried res reset =>
    obtain rfl := some.inj (kn.symm.trans seen)
    rcases tried with ⟨rfl, gone⟩ | ⟨rfl, full⟩ | ⟨rfl, receives⟩
    · exact dropped reset
    · exact dropped reset
    · cases reset with
      | absent missing =>
        rw [show (coord.pushDelivery state.ticket (.earlyFinal head)).streams.lookup sid
          = some state from kn] at missing
        cases missing
      | reset _ seen _ sent =>
        obtain rfl := some.inj (kn.symm.trans seen)
        have gone : Carried before ((coord.pushDelivery state.ticket
            (.earlyFinal head)).forget sid state) true unread nextUnread :=
          reg.dismiss hp beside words there shape (.earlyFinal head) (.forget rfl)
            fun _ => handles.early head fst undone
        exact gone.trans (sent.carried gone.registered)
  | pended _ seen _ waits =>
    obtain rfl := some.inj (kn.symm.trans seen)
    refine reg.updated hp (beside.trans (.setStream rfl)) words there shape
      ⟨rfl, rfl, rfl, rfl⟩ (lookup_setStream _ _ _)
      ⟨paired.streamId, paired.attached, paired.declared, paired.supplied⟩ ?_
    intro receives
    refine handles.pend ?_
    rcases waits with pend | full
    · exact Or.inl pend
    · exact Or.inr (delivery_of_full shape full)
  | sent _ seen late clear receives going =>
    obtain rfl := some.inj (kn.symm.trans seen)
    refine reg.updated hp (beside.trans (.pushDelivery _ _ beside.own)) words there ?_
      (sameEnds_offered entry (.stream ev)) kn
      ⟨paired.streamId, paired.attached, paired.declared, paired.supplied⟩ ?_
    · rw [shapeAt_pushDelivery, if_pos rfl, shape]
      rfl
    · intro receives
      exact handles.send clear (fun undone => earlyHead_none late undone) ((ends_stream ev).symm.trans going)
  | ended _ seen clear _ ends =>
    obtain rfl := some.inj (kn.symm.trans seen)
    exact reg.dismiss hp beside words there shape _ (.removeState rfl)
      fun _ => handles.finish clear ((ends_stream ev).symm.trans ends)
  | closed _ seen _ _ _ _ reset =>
    obtain rfl := some.inj (kn.symm.trans seen)
    exact dropped reset

theorem eventsOf_other {other : UInt32} (ne : other ≠ sid) (ev : StreamEvent)
    (rest : List (UInt32 × StreamEvent)) : eventsOf other rest = eventsOf other ((sid, ev) :: rest) := by
  rw [eventsOf_cons, if_neg ne.symm]

theorem eventsOf_own (sid : UInt32) (ev : StreamEvent) (rest : List (UInt32 × StreamEvent)) :
    eventsOf sid ((sid, ev) :: rest) = ev :: eventsOf sid rest := by
  rw [eventsOf_cons, if_pos rfl]

theorem DeliverEffect.carried {ev : StreamEvent} (eff : DeliverEffect coord sid ev res)
    (reg : coord.Registered) : Carried coord res.1 true ((sid, ev) :: unread) unread := by
  have words (other : UInt32) (ne : other ≠ sid) := eventsOf_other ne ev unread
  cases hp : coord.streams.lookup sid with
  | none =>
    cases eff with
    | absent missing => exact .absent reg missing words
    | early _ fnd | pended _ fnd | sent _ fnd | ended _ fnd | closed _ fnd =>
      exact absurd (hp.symm.trans fnd) (by simp)
  | some state =>
    obtain ⟨_, there, paired⟩ := reg.paired sid state hp
    refine eff.carried_of reg there hp rfl rfl (.refl fun other fnd => by
      rw [some.inj (fnd.symm.trans hp)]) words ?_
    exact .first rfl rfl (eventsOf_own sid ev unread)

section
variable (reg : coord.Registered)
include reg

/-- The state of a stream changes and the lane does not, unless the upload is done now. -/
theorem Registered.adjust {nextState : StreamState} (hp : coord.streams.lookup sid = some state)
    (streams : next.streams = coord.streams.insert sid nextState)
    (shapes : ∀ ticket, next.shapeAt ticket = coord.shapeAt ticket)
    (dm : next.demux = coord.demux) (ticket : nextState.ticket = state.ticket)
    (pend : nextState.pendingDelivery = state.pendingDelivery)
    (declared : nextState.upload.declaredBodyLen = state.upload.declaredBodyLen)
    (fed : nextState.upload.fedBodyLen = state.upload.fedBodyLen)
    (done : state.upload.isDone = true → nextState.upload.isDone = true) :
    Carried coord next hr unread unread := by
  obtain ⟨entry, there, paired⟩ := reg.paired sid state hp
  have fnd : next.streams.lookup sid = some nextState := by
    rw [streams]
    exact Finmap.lookup_insert _
  refine reg.updated hp ?_ (fun _ _ => rfl) there ((shapes _).trans there)
    ⟨rfl, rfl, rfl, rfl⟩ fnd ⟨paired.streamId, paired.attached,
      declared.trans paired.declared, by rw [fed]; exact paired.supplied⟩ ?_
  · refine ⟨fun other _ => shapes other, ?_, fun _ _ => by rw [dm], ?_⟩
    · intro other ne
      rw [streams]
      exact Finmap.lookup_insert_of_ne _ ne
    · intro other seen
      rw [← some.inj (fnd.symm.trans seen), ticket]
  · intro receives
    rw [dm]
    cases now : nextState.upload.isDone with
    | false =>
      have pre : state.upload.isDone = false := by
        rw [← Bool.not_eq_true]
        intro already
        rw [done already] at now
        cases now
      refine .of_eq ?_
      rw [liveLane, liveLane, now, pre, pend]
    | true =>
      have sent : entry.supplied = true := by
        have whole := (nextState.upload.closed_sent now).2
        have staged := nextState.upload.body_staged
        have given := paired.supplied
        have tot := paired.declared
        simp only [StreamChannels.supplied, decide_eq_true_eq]
        omega
      have same : entry.liveLane hr nextState (.of (coord.demux.streams.lookup sid)) (eventsOf sid unread) =
          { entry.liveLane hr state (.of (coord.demux.streams.lookup sid))
            (eventsOf sid unread) with done := true } := by
        rw [liveLane, liveLane, now, pend]
      rw [same]
      exact .one (.complete rfl sent)

theorem Carried.dropLeases (leases : List BodyLease) : Carried coord (coord.dropLeases leases) hr unread unread :=
  .same reg (shapeAt_dropLeases _ _) (by rw [dropLeases_eq]) fun _ => by
    rw [dropLeases_eq]

theorem EnqueueEffect.carried (eff : EnqueueEffect coord sid next) : Carried coord next hr unread unread := by
  cases eff with
  | kept => exact .refl reg
  | queued _ hp => exact reg.adjust hp rfl (fun _ => rfl) rfl rfl rfl rfl rfl fun done => done

end

theorem GrantEffect.carried {cr : UInt32}
    (eff : GrantEffect coord sid cr res) (reg : coord.Registered) :
    Carried coord res.1 true unread unread := by
  cases eff with
  | absent | unsent => exact .refl reg
  | granted state hp up fits _ queued =>
    have granted := grant_ok fits
    have credited : Carried coord (coord.setStream sid { state with upload := up }) true unread unread := by
      refine reg.adjust hp rfl (fun _ => rfl) rfl rfl rfl granted.2.2.2.2.1 granted.2.2.2.2.2.1 ?_
      intro done
      exact granted.2.2.2.2.2.2.2.2.1.trans done
    exact credited.trans (queued.carried credited.registered)
  | refused state hp _ _ delivered =>
    obtain ⟨_, there, paired⟩ := reg.paired sid state hp
    have own : ∀ other, coord.streams.lookup sid = some other → other.ticket = state.ticket := by
      intro other fnd
      rw [some.inj (fnd.symm.trans hp)]
    refine delivered.carried_of reg there hp rfl rfl
      ⟨fun _ _ => rfl, fun _ _ => rfl, (Beside.removeStream own).phases, own⟩
      (fun _ _ => rfl) ?_
    have closed : StreamPhase.of ((coord.demux.removeStream sid).streams.lookup sid) = .closed := by
      rw [show (coord.demux.removeStream sid).streams.lookup sid = none from
        Finmap.lookup_erase _ _]
      rfl
    rw [closed]
    exact .violation .flowControlError rfl rfl

theorem ReadEffect.carried {out rest : DemuxOutput}
    (eff : ReadEffect coord out rest res) (reg : coord.Registered) :
    Carried coord res.1 true out.streamEvents rest.streamEvents := by
  cases eff with
  | pong _ _ _ _ sent | frame _ _ _ _ sent | grant _ _ _ _ _ _ sent => exact sent.carried reg
  | nonce =>
    unfold receivePong
    split
    · exact .same reg (fun _ => rfl) rfl fun _ => rfl
    · exact .refl reg
  | event _ _ _ _ _ fst _ delivered =>
    rw [fst]
    exact delivered.carried reg

/-- A turn of `pump_ready` shows in a lane only by the CLOSE. -/
theorem PumpEffect.carried (eff : PumpEffect coord res) (reg : coord.Registered) :
    Carried coord res.1 hr unread unread := by
  have undone {state : StreamState} {up : WindowedUpload} {frame : Bytes}
      (polled : state.upload.pollSend = (up, .ok (some frame))) :
      state.upload.isDone = true → up.isDone = true := by
    intro done
    rw [isDone, (pollSend_sent polled).2.2.1] at done
    cases done
  cases eff with
  | stale => exact .same reg (fun _ => rfl) rfl fun _ => rfl
  | idle _ _ _ _ hp => exact reg.adjust hp rfl (fun _ => rfl) rfl rfl rfl rfl rfl fun done => done
  | sent sid ready _ state hp _ up frame polled leases _ _ queued =>
    have moved : Carried coord (({ coord with ready := ready }.setStream sid
        { state with readyQueued := false, upload := up, stagedLeases := leases.2 }).pushPacket
          ⟨frame, leases.1⟩) hr unread unread :=
      reg.adjust hp rfl (fun _ => rfl) rfl rfl rfl (pollSend_sent polled).2.1 (pollSend_fed polled)
        (undone polled)
    split at queued
    · exact moved.trans (queued.carried moved.registered)
    · rw [queued]
      exact moved
  | unsent sid ready _ state hp up _ polled leases =>
    have moved : Carried coord ({ coord with ready := ready }.setStream sid
        { state with readyQueued := false, upload := up, stagedLeases := leases.2 }) hr unread unread :=
      reg.adjust hp rfl (fun _ => rfl) rfl rfl rfl (pollSend_sent polled).2.1 (pollSend_fed polled)
        (undone polled)
    exact moved.trans (.dropLeases moved.registered _)
  | underflow sid ready _ state hp up _ polled =>
    have moved : Carried coord ({ coord with ready := ready }.setStream sid
        { state with readyQueued := false, upload := up, stagedLeases := [] }) hr unread unread :=
      reg.adjust hp rfl (fun _ => rfl) rfl rfl rfl (pollSend_sent polled).2.1 (pollSend_fed polled)
        (undone polled)
    exact moved.trans (.dropLeases moved.registered _)

theorem FlushEffect.carried {last : Bool} (eff : FlushEffect coord sid last res)
    (reg : coord.Registered) : Carried coord res.1 hr unread unread := by
  have alone {state : StreamState} (hp : coord.streams.lookup sid = some state) :
      Beside sid state.ticket coord coord :=
    .refl fun other fnd => by rw [some.inj (fnd.symm.trans hp)]
  cases eff with
  | calm | full => exact .refl reg
  | sent state hp ev pend fst receives going =>
    obtain ⟨entry, there, paired⟩ := reg.paired sid state hp
    refine reg.updated hp ((Beside.pushDelivery _ ev (alone hp).own).trans (.setStream rfl))
      (fun _ _ => rfl) there ?_ (sameEnds_offered entry ev) (lookup_setStream _ _ _)
      ⟨paired.streamId, paired.attached, paired.declared, paired.supplied⟩ ?_
    · refine (shapeAt_pushDelivery _ _ _ _).trans ?_
      rw [if_pos rfl, there]
      rfl
    · intro receives
      exact .one (.flush ev pend rfl fst going)
  | ended state hp ev pend fst _ ends =>
    obtain ⟨_, there, paired⟩ := reg.paired sid state hp
    exact reg.dismiss hp (alone hp) (fun _ _ => rfl) there there ev
      (.removeState rfl) fun _ => .one (.flushEnd ev pend rfl fst ends)
  | closed _ _ _ _ _ reset => exact reset.carried reg fun _ _ => rfl

theorem FanoutEffect.carried {last : DeliveryEvent} (eff : FanoutEffect coord sid last next)
    (how : last = fanoutEof ∨ last = .certificateUnknown) (reg : coord.Registered) :
    Carried coord next hr unread unread := by
  have alone {state : StreamState} (hp : coord.streams.lookup sid = some state) :
      Beside sid state.ticket coord coord :=
    .refl fun other fnd => by rw [some.inj (fnd.symm.trans hp)]
  cases eff with
  | absent => exact .refl reg
  | untold _ hp => exact reg.drop hp (alone hp) (fun _ _ => rfl) rfl (.removeState rfl)
  | told state hp =>
    obtain ⟨_, there, paired⟩ := reg.paired sid state hp
    exact reg.dismiss hp (alone hp) (fun _ _ => rfl) there there last
      (.removeState rfl) fun _ => .one (.last last rfl how)

def takeChunk (coord : Coordinator) (ticket : Nat) (rest : List BodyChunk) : Coordinator :=
  coord.updateChannels ticket fun channels => { channels with body := rest }

theorem shapeAt_takeChunk (coord : Coordinator) (rest : List BodyChunk) (ticket other : Nat) :
    (coord.takeChunk ticket rest).shapeAt other = if ticket = other then (coord.shapeAt other).map fun chs =>
        { chs with body := rest }
      else coord.shapeAt other :=
  shapeAt_updateChannels coord (fun chs => { chs with body := rest }) (fun _ => rfl) ticket other

theorem Beside.takeChunk (ticket : Nat) (rest : List BodyChunk)
    (own : ∀ state, coord.streams.lookup sid = some state → state.ticket = ticket) :
    Beside sid ticket coord (coord.takeChunk ticket rest) where
  shapes other different := by rw [shapeAt_takeChunk, if_neg different.symm]
  streams _ _ := rfl
  phases _ _ := rfl
  own := own

theorem Registered.takeChunk (reg : coord.Registered)
    (hp : coord.streams.lookup sid = some state) {nextState : StreamState}
    {chs : StreamChannels} (fnd : coord.channels[state.ticket]? = some chs)
    {chunk : BodyChunk} {rest : List BodyChunk} (fst : chs.body = chunk :: rest)
    (ticket : nextState.ticket = state.ticket) (pend : nextState.pendingDelivery = state.pendingDelivery)
    (declared : nextState.upload.declaredBodyLen = state.upload.declaredBodyLen)
    (fed : nextState.upload.fedBodyLen ≤ state.upload.fedBodyLen + chunk.bytes.length)
    (done : nextState.upload.isDone = state.upload.isDone) :
    Carried coord ((coord.takeChunk state.ticket rest).setStream sid nextState) hr unread unread := by
  obtain ⟨entry, there, paired⟩ := reg.paired sid state hp
  have body : entry.body = chunk :: rest := by
    rw [shapeAt, fnd] at there
    cases there
    exact fst
  have now : ((coord.takeChunk state.ticket rest).setStream sid nextState).shapeAt
      state.ticket = some { entry with body := rest } := by
    refine (shapeAt_takeChunk _ _ _ _).trans ?_
    rw [if_pos rfl, there]
    rfl
  have own : ∀ other, coord.streams.lookup sid = some other → other.ticket = state.ticket := by
    intro other seen
    rw [some.inj (hp.symm.trans seen)]
  refine reg.updated hp ((Beside.takeChunk _ rest own).trans (.setStream ticket))
    (fun _ _ => rfl) there now ⟨rfl, rfl, rfl, rfl⟩ (lookup_setStream _ _ _)
    ⟨paired.streamId, paired.attached, declared.trans paired.declared, ?_⟩ ?_
  · have given := paired.supplied
    rw [body, queuedBytes, List.map_cons, List.sum_cons] at given
    rw [queuedBytes]
    simp only
    omega
  · intro receives
    refine .of_eq ?_
    rw [liveLane, liveLane, done, pend]
    rfl

theorem setStream_lookup (hp : coord.streams.lookup sid = some state) : coord.setStream sid state = coord := by
  unfold setStream
  have same : coord.streams.insert sid state = coord.streams := by
    apply Finmap.ext_lookup
    intro other
    by_cases mine : other = sid
    · rw [mine, Finmap.lookup_insert, hp]
    · rw [Finmap.lookup_insert_of_ne _ mine]
  rw [same]

theorem ReceiveEffect.carried {last : Bool}
    (eff : ReceiveEffect coord sid last res) (reg : coord.Registered) :
    Carried coord res.1 hr unread unread := by
  cases eff with
  | absent => exact .refl reg
  | short _ _ _ _ reset => exact reset.carried reg fun _ _ => rfl
  | finished _ queued => exact queued.carried reg
  | fed _ hp _ fnd _ _ fst _ fits =>
    have fed := feedBody_ok fits
    exact reg.takeChunk hp fnd fst rfl rfl fed.2.2.2.1
      (Nat.le_of_eq fed.2.2.2.2.1) (SameProgress.feed fits).closed
  | rejected state hp _ fnd chunk rest fst =>
    have taken : Carried coord ((coord.takeChunk state.ticket rest).setStream sid state) hr unread unread :=
      reg.takeChunk hp fnd fst rfl rfl rfl (Nat.le_add_right _ _) rfl
    have unset : (coord.takeChunk state.ticket rest).setStream sid state =
        coord.takeChunk state.ticket rest := setStream_lookup hp
    rw [unset] at taken
    exact taken.trans (.dropLeases taken.registered [chunk.lease])

theorem ConsumeEffect.carried {bs : Nat} (eff : ConsumeEffect coord sid bs res)
    (reg : coord.Registered) : Carried coord res.1 hr unread unread := by
  cases eff with
  | quiet _ _ consumed =>
    obtain ⟨_, consumed, -⟩ := consumed
    exact .same reg (fun _ => rfl) rfl fun other => consume_phases consumed other
  | granted dm _ consumed _ sent =>
    have taken : Carried coord { coord with demux := dm } hr unread unread :=
      .same reg (fun _ => rfl) rfl fun other => consume_phases consumed other
    exact taken.trans (sent.carried taken.registered)

theorem KeepaliveEffect.carried (eff : KeepaliveEffect coord res) (reg : coord.Registered) :
    Carried coord res.1 hr unread unread := by
  cases eff with
  | quiet | probed => exact .same reg (fun _ => rfl) rfl fun _ => rfl

theorem WriterEffect.carried (eff : WriterEffect coord next)
    (reg : coord.Registered) : Carried coord next hr unread unread := by
  have ret (leases : List BodyLease) (ticket : Nat) :
      (returnPermits coord.channels leases)[ticket]?.map StreamChannels.shape =
        coord.shapeAt ticket := shapeAt_of_map (returnPermits_shape _ _) ticket
  cases eff with
  | took => exact .same reg (fun _ => rfl) rfl fun _ => rfl
  | wrote | failed | closed => exact .same reg (ret _) rfl fun _ => rfl

end
end Coordinator
end SplRust.Transport
