import SplRust.Transport.DeliveryFlow
import SplRust.Transport.Registry
import SplRust.Transport.UploadRun

/-! What each open sees of the coordinator is a lane. An operation on one stream moves the
lane of its open and leaves the other lanes where they are. -/

namespace SplRust.Transport
open SplRust.Lib SplRust.Core Option

def LaneRun (lane : DeliveryLane) (produced : List StreamEvent) (taken : List DeliveryEvent)
    (next : DeliveryLane) : Prop :=
  ∃ labels, Path DeliveryStep lane labels next ∧ labels.flatMap DeliveryLabel.produced = produced ∧
    labels.flatMap DeliveryLabel.taken = taken

theorem LaneRun.refl (lane : DeliveryLane) : LaneRun lane [] [] lane := ⟨[], .nil, rfl, rfl⟩

theorem LaneRun.one {lane next : DeliveryLane} {label : DeliveryLabel}
    (step : DeliveryStep lane label next) : LaneRun lane label.produced label.taken next :=
  ⟨[label], .cons step .nil, by simp, by simp⟩

theorem LaneRun.of_eq {lane next : DeliveryLane} (same : next = lane) : LaneRun lane [] [] next := same ▸ .refl lane

theorem LaneRun.trans {fst mid last : DeliveryLane} {early late : List StreamEvent}
    {pre after : List DeliveryEvent} (one : LaneRun fst early pre mid) (two : LaneRun mid late after last) :
    LaneRun fst (early ++ late) (pre ++ after) last := by
  obtain ⟨labels, path, rfl, rfl⟩ := one
  obtain ⟨more, onward, rfl, rfl⟩ := two
  exact ⟨labels ++ more, path.append onward, List.flatMap_append, List.flatMap_append⟩

theorem Delivering.run {lane next : DeliveryLane} {produced more : List StreamEvent}
    {taken also : List DeliveryEvent} (delivering : Delivering lane produced taken)
    (run : LaneRun lane more also next) : Delivering next (produced ++ more) (taken ++ also) := by
  obtain ⟨_, path, rfl, rfl⟩ := run
  induction path generalizing produced taken with
  | nil => simpa using delivering
  | cons one rest ih => simpa using ih (delivering.step one)

namespace StreamChannels

variable (entry : StreamChannels)

def supplied : Bool := decide (entry.declaredBodyLen ≤ entry.sentBodyLen)

def deafLane (running : Bool) : DeliveryLane where
  opened := true
  running := running
  receiving := false
  sent := entry.supplied

def leftLane (running : Bool) : DeliveryLane where
  opened := true
  running := running
  delivery := entry.delivery
  holding := entry.holding
  sent := entry.supplied

def liveLane (running : Bool) (state : StreamState)
    (phase : StreamPhase) (unread : List StreamEvent) : DeliveryLane where
  opened := true
  live := true
  done := state.upload.isDone
  running := running
  phase := phase
  unread := unread
  pending := state.pendingDelivery
  delivery := entry.delivery
  holding := entry.holding
  sent := entry.supplied

def laneFrom (running : Bool) (found : Option StreamState)
    (phase : StreamPhase) (unread : List StreamEvent) : DeliveryLane :=
  if entry.receiving then
    match found with
    | none => entry.leftLane running
    | some state => entry.liveLane running state phase unread
  else entry.deafLane running

end StreamChannels

namespace Coordinator

def stateAt (coord : Coordinator) (sid : UInt32) (ticket : Nat) : Option StreamState :=
  (coord.streams.lookup sid).filter fun state => state.ticket == ticket

def laneAt (coord : Coordinator) (running : Bool) (unread : List (UInt32 × StreamEvent))
    (ticket : Nat) : DeliveryLane :=
  match coord.shapeAt ticket with
  | none => { running := running }
  | some entry => entry.laneFrom running (coord.stateAt entry.streamId ticket)
      (.of (coord.demux.streams.lookup entry.streamId)) (eventsOf entry.streamId unread)

section
variable {coord next : Coordinator} {sid : UInt32} {ticket : Nat} {running : Bool}
  {unread nextUnread : List (UInt32 × StreamEvent)} {en after : StreamChannels} {state : StreamState}

theorem stateAt_own (hp : coord.streams.lookup sid = some state) :
    coord.stateAt sid state.ticket = some state := by
  rw [stateAt, hp]
  exact if_pos (beq_self_eq_true _)

theorem stateAt_none (other : ∀ state, coord.streams.lookup sid = some state →
    state.ticket ≠ ticket) : coord.stateAt sid ticket = none := by
  rw [stateAt]
  cases hp : coord.streams.lookup sid with
  | none => rfl
  | some state => exact if_neg (by simpa using other state hp)

theorem laneAt_unopened (missing : coord.shapeAt ticket = none) :
    coord.laneAt running unread ticket = { running := running } := by
  rw [laneAt, missing]

section
variable (there : coord.shapeAt ticket = some en)
include there

theorem laneAt_deaf (deaf : en.receiving = false) : coord.laneAt running unread ticket = en.deafLane running := by
  rw [laneAt, there]
  exact if_neg (by simp [deaf])

theorem laneAt_left (receives : en.receiving = true) (gone : coord.stateAt en.streamId ticket = none) :
    coord.laneAt running unread ticket = en.leftLane running := by
  simp only [laneAt, StreamChannels.laneFrom, there, receives, if_true, gone]

theorem laneAt_live (receives : en.receiving = true) (fnd : coord.stateAt en.streamId ticket = some state) :
    coord.laneAt running unread ticket = en.liveLane running state (.of (coord.demux.streams.lookup en.streamId))
      (eventsOf en.streamId unread) := by
  simp only [laneAt, StreamChannels.laneFrom, there, receives, if_true, fnd]

end

theorem laneAt_congr (shape : next.shapeAt ticket = coord.shapeAt ticket)
    (states : ∀ en, coord.shapeAt ticket = some en →
      next.stateAt en.streamId ticket = coord.stateAt en.streamId ticket)
    (live : ∀ en state, coord.shapeAt ticket = some en → coord.stateAt en.streamId ticket = some state →
      StreamPhase.of (next.demux.streams.lookup en.streamId) = .of (coord.demux.streams.lookup en.streamId) ∧
        eventsOf en.streamId nextUnread = eventsOf en.streamId unread) :
    next.laneAt running nextUnread ticket = coord.laneAt running unread ticket := by
  unfold laneAt
  rw [shape]
  cases there : coord.shapeAt ticket with
  | none => rfl
  | some en =>
    simp only
    rw [states en there]
    cases fnd : coord.stateAt en.streamId ticket with
    | none => rfl
    | some state =>
      obtain ⟨ph, words⟩ := live en state there fnd
      simp only [ph, words]

/-- The lanes of the other opens stay. -/
theorem Beside.laneAt (beside : Beside sid ticket coord next)
    (pre : ∀ state, coord.streams.lookup sid = some state → state.ticket = ticket)
    (words : ∀ other ≠ sid, eventsOf other nextUnread = eventsOf other unread)
    {other : Nat} (ne : other ≠ ticket) :
    next.laneAt running nextUnread other = coord.laneAt running unread other := by
  have unseen (en : StreamChannels) (same : en.streamId = sid) : next.stateAt en.streamId other = none ∧
        coord.stateAt en.streamId other = none := by
    rw [same]
    exact ⟨stateAt_none fun state fnd equal => ne (equal.symm.trans (beside.own state fnd)),
      stateAt_none fun state fnd equal => ne (equal.symm.trans (pre state fnd))⟩
  refine laneAt_congr (beside.shapes other ne) ?_ ?_
  · intro en there
    by_cases same : en.streamId = sid
    · rw [(unseen en same).1, (unseen en same).2]
    · rw [stateAt, stateAt, beside.streams _ same]
  · intro en state there fnd
    by_cases same : en.streamId = sid
    · rw [(unseen en same).2] at fnd
      cases fnd
    · exact ⟨beside.phases _ same, words _ same⟩

theorem laneAt_same (shapes : ∀ ticket, next.shapeAt ticket = coord.shapeAt ticket)
    (streams : next.streams = coord.streams) (phases : ∀ other, StreamPhase.of (next.demux.streams.lookup other) =
      .of (coord.demux.streams.lookup other)) :
    next.laneAt running unread ticket = coord.laneAt running unread ticket := by
  refine laneAt_congr (shapes ticket) ?_ fun en _ _ _ => ⟨phases en.streamId, rfl⟩
  intro en _
  rw [stateAt, stateAt, streams]

/-- A step of the coordinator as moves of the lanes, none of which is seen from outside. -/
structure Carried (coord next : Coordinator) (running : Bool)
    (unread nextUnread : List (UInt32 × StreamEvent)) : Prop where
  registered : next.Registered
  lanes : ∀ ticket, LaneRun (coord.laneAt running unread ticket) [] [] (next.laneAt running nextUnread ticket)

theorem Carried.trans {mid : Coordinator} {between : List (UInt32 × StreamEvent)}
    (early : Carried coord mid running unread between) (late : Carried mid next running between nextUnread) :
    Carried coord next running unread nextUnread where
  registered := late.registered
  lanes ticket := (early.lanes ticket).trans (late.lanes ticket)

section
variable (reg : coord.Registered)
include reg

theorem Carried.same (shapes : ∀ ticket, next.shapeAt ticket = coord.shapeAt ticket)
    (streams : next.streams = coord.streams) (phases : ∀ other, StreamPhase.of (next.demux.streams.lookup other) =
      .of (coord.demux.streams.lookup other)) : Carried coord next running unread unread where
  registered := reg.congr streams shapes
  lanes _ := .of_eq (laneAt_same shapes streams phases)

theorem Carried.refl : Carried coord coord running unread unread := .same reg (fun _ => rfl) rfl fun _ => rfl

theorem Carried.absent (missing : coord.streams.lookup sid = none)
    (words : ∀ other ≠ sid, eventsOf other nextUnread = eventsOf other unread) :
    Carried coord coord running unread nextUnread where
  registered := reg
  lanes ticket := by
    refine .of_eq (laneAt_congr rfl (fun _ _ => rfl) ?_)
    intro en state there fnd
    have kn : en.streamId ≠ sid := by
      intro same
      rw [stateAt, same, missing] at fnd
      cases fnd
    exact ⟨rfl, words _ kn⟩

end

/-- The ends of a request are as they were. -/
structure SameEnds (en after : StreamChannels) : Prop where
  streamId : after.streamId = en.streamId
  receiving : after.receiving = en.receiving
  holding : after.holding = en.holding
  supplied : after.supplied = en.supplied

section
variable (reg : coord.Registered)
include reg

theorem Registered.hushed_of (there : coord.shapeAt ticket = some en)
    (now : next.shapeAt ticket = some after) (ends : SameEnds en after) :
    ∀ other, next.shapeAt ticket = some other → other.receiving = false → other.holding = none := by
  intro other fnd deaf
  obtain rfl := some.inj (now.symm.trans fnd)
  rw [ends.holding]
  exact reg.hushed ticket en there (ends.receiving.symm.trans deaf)

section
variable (hp : coord.streams.lookup sid = some state) (beside : Beside sid state.ticket coord next)
  (words : ∀ other ≠ sid, eventsOf other nextUnread = eventsOf other unread)
  (there : coord.shapeAt state.ticket = some en) (now : next.shapeAt state.ticket = some after)
  (ends : SameEnds en after)
include hp beside words there now ends

/-- An operation on one stream moves the lane of its open; nothing moves if the receiver is
gone. -/
theorem Registered.lanes (own : en.receiving = true → LaneRun (en.liveLane running state
      (.of (coord.demux.streams.lookup sid)) (eventsOf sid unread)) [] []
      (next.laneAt running nextUnread state.ticket)) (ticket : Nat) : LaneRun (coord.laneAt running unread ticket) [] []
      (next.laneAt running nextUnread ticket) := by
  by_cases mine : ticket = state.ticket
  · subst mine
    obtain ⟨_, fnd, paired⟩ := reg.paired sid state hp
    obtain rfl := some.inj (there.symm.trans fnd)
    cases receives : en.receiving with
    | false =>
      rw [laneAt_deaf there receives, laneAt_deaf now (ends.receiving.trans receives)]
      refine .of_eq ?_
      rw [StreamChannels.deafLane, StreamChannels.deafLane, ends.supplied]
    | true =>
      rw [laneAt_live there receives (paired.streamId.symm ▸ stateAt_own hp), paired.streamId]
      exact own receives
  · refine .of_eq (beside.laneAt ?_ words mine)
    intro other fnd
    rw [some.inj (fnd.symm.trans hp)]

theorem Registered.removed (gone : next.streams.lookup sid = none)
    (own : en.receiving = true → LaneRun (en.liveLane running state
      (.of (coord.demux.streams.lookup sid)) (eventsOf sid unread)) [] [] (after.leftLane running)) :
    Carried coord next running unread nextUnread where
  registered := by
    refine reg.beside hp beside ?_ (reg.hushed_of there now ends)
    intro state fnd
    rw [gone] at fnd
    cases fnd
  lanes := by
    refine reg.lanes hp beside words there now ends ?_
    intro receives
    have unseen : next.stateAt after.streamId state.ticket = none := by
      obtain ⟨_, fnd, paired⟩ := reg.paired sid state hp
      obtain rfl := some.inj (there.symm.trans fnd)
      rw [ends.streamId, paired.streamId, stateAt, gone]
      rfl
    rw [laneAt_left now (ends.receiving.trans receives) unseen]
    exact own receives

theorem Registered.updated {nextState : StreamState} (fnd : next.streams.lookup sid = some nextState) (paired : Paired sid nextState after)
    (own : en.receiving = true → LaneRun (en.liveLane running state
      (.of (coord.demux.streams.lookup sid)) (eventsOf sid unread)) [] []
      (after.liveLane running nextState (.of (next.demux.streams.lookup sid)) (eventsOf sid nextUnread))) :
    Carried coord next running unread nextUnread where
  registered := by
    refine reg.beside hp beside ?_ (reg.hushed_of there now ends)
    intro other seen
    obtain rfl := some.inj (fnd.symm.trans seen)
    exact ⟨after, now, paired⟩
  lanes := by
    refine reg.lanes hp beside words there now ends ?_
    intro receives
    have seen : next.stateAt after.streamId state.ticket = some nextState := by
      rw [paired.streamId, ← beside.own nextState fnd]
      exact stateAt_own fnd
    rw [laneAt_live now (ends.receiving.trans receives) seen, paired.streamId]
    exact own receives

end

end

end

end Coordinator

end SplRust.Transport
