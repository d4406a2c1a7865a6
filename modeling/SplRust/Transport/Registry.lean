import SplRust.Core.Lifecycle
import SplRust.Transport.CoordinatorStep

/-! The coordinator's streams and the opens they belong to. A stream is found in the table by
its id and in the channels by its ticket, and an operation on one stream leaves the others
alone. -/

namespace SplRust.Transport
open SplRust.Lib SplRust.Core StreamChannels

variable (entry : StreamChannels)

def StreamChannels.shape : StreamChannels := { entry with permits := 0 }

def StreamChannels.detached : StreamChannels := { entry with attached := false, body := [] }

def StreamChannels.offered (event : DeliveryEvent) : StreamChannels :=
  { entry with delivery := entry.delivery ++ [event] }

def queuedBytes (body : List BodyChunk) : Nat := (body.map fun chunk => chunk.bytes.length).sum

/-- A stream and what it shares belong to each other. -/
structure Paired (streamId : UInt32) (s : StreamState) (en : StreamChannels) : Prop where
  streamId : en.streamId = streamId
  attached : en.attached = true
  declared : s.upload.declaredBodyLen = en.declaredBodyLen
  supplied : s.upload.fedBodyLen + queuedBytes en.body ≤ en.sentBodyLen

namespace Coordinator

def shapeAt (coord : Coordinator) (ticket : Nat) : Option StreamChannels :=
  coord.channels[ticket]?.map StreamChannels.shape

/-- Every stream belongs to the open that its ticket names, and a receiver that is gone holds
nothing. -/
structure Registered (coord : Coordinator) : Prop where
  paired : ∀ streamId s, coord.streams.lookup streamId = some s →
    ∃ en, coord.shapeAt s.ticket = some en ∧ Paired streamId s en
  hushed : ∀ ticket en, coord.shapeAt ticket = some en → en.receiving = false → en.holding = none

section
variable {coord next : Coordinator} {sid : UInt32} {ticket : Nat}

theorem Registered.unique (reg : coord.Registered) {fst second : UInt32}
    {one two : StreamState} (hp : coord.streams.lookup fst = some one)
    (there : coord.streams.lookup second = some two) (same : one.ticket = two.ticket) : fst = second := by
  obtain ⟨_, found, paired⟩ := reg.paired fst one hp
  obtain ⟨_, seen, also⟩ := reg.paired second two there
  rw [same, seen] at found
  cases found
  exact paired.streamId.symm.trans also.streamId

theorem shapeAt_of_map {pre after : List StreamChannels}
    (same : after.map shape = pre.map shape) (ticket : Nat) :
    after[ticket]?.map shape = pre[ticket]?.map shape := by
  rw [← List.getElem?_map, same, List.getElem?_map]

theorem returnPermits_shape (chs : List StreamChannels) (leases : List BodyLease) :
    (returnPermits chs leases).map shape = chs.map shape :=
  returnPermits_map _ (fun _ _ => rfl) _ _

theorem shapeAt_dropLeases (coord : Coordinator) (leases : List BodyLease) (ticket : Nat) :
    (coord.dropLeases leases).shapeAt ticket = coord.shapeAt ticket := by
  rw [dropLeases_eq]
  exact shapeAt_of_map (returnPermits_shape _ _) ticket

theorem shapeAt_updateChannels (coord : Coordinator) (update : StreamChannels → StreamChannels)
    (apart : ∀ en, (update en).shape = update en.shape) (ticket other : Nat) :
    (coord.updateChannels ticket update).shapeAt other = if ticket = other then (coord.shapeAt other).map update
      else coord.shapeAt other := by
  unfold shapeAt updateChannels
  rw [List.getElem?_modify]
  cases coord.channels[other]? with
  | none =>
    split
    · rfl
    · rfl
  | some en =>
    split
    · exact congrArg some (apart en)
    · rfl

theorem shapeAt_pushDelivery (coord : Coordinator) (ticket other : Nat) (ev : DeliveryEvent) :
    (coord.pushDelivery ticket ev).shapeAt other = if ticket = other then (coord.shapeAt other).map (·.offered ev)
      else coord.shapeAt other :=
  shapeAt_updateChannels coord (·.offered ev) (fun _ => rfl) ticket other

theorem shapeAt_dropState (coord : Coordinator) (s : StreamState) (other : Nat) :
    (coord.dropState s).shapeAt other =
      if s.ticket = other then (coord.shapeAt other).map detached else coord.shapeAt other := by
  unfold dropState
  rw [shapeAt_dropLeases]
  exact shapeAt_updateChannels coord .detached (fun _ => rfl) s.ticket other

theorem shapeAt_removeState (coord : Coordinator) (sid : UInt32) (s : StreamState) (other : Nat) :
    (coord.removeState sid s).shapeAt other =
      if s.ticket = other then (coord.shapeAt other).map detached else coord.shapeAt other :=
  shapeAt_dropState { coord with streams := coord.streams.erase sid } s other

theorem lookup_removeState (coord : Coordinator) (sid : UInt32) (s : StreamState) :
    (coord.removeState sid s).streams.lookup sid = none := by
  rw [removeState_eq]
  exact Finmap.lookup_erase _ _

theorem lookup_removeState_of_ne (coord : Coordinator) {sid other : UInt32}
    (ne : other ≠ sid) (s : StreamState) : (coord.removeState sid s).streams.lookup other =
      coord.streams.lookup other := by
  rw [removeState_eq]
  exact Finmap.lookup_erase_ne ne

/-- An operation on the stream of one open leaves the other opens alone. -/
structure Beside (streamId : UInt32) (ticket : Nat) (coord next : Coordinator) : Prop where
  shapes : ∀ other ≠ ticket, next.shapeAt other = coord.shapeAt other
  streams : ∀ other ≠ streamId, next.streams.lookup other = coord.streams.lookup other
  phases : ∀ other ≠ streamId, StreamPhase.of (next.demux.streams.lookup other) =
    .of (coord.demux.streams.lookup other)
  own : ∀ s, next.streams.lookup streamId = some s → s.ticket = ticket

theorem Beside.trans {mid : Coordinator} (early : Beside sid ticket coord mid)
    (late : Beside sid ticket mid next) : Beside sid ticket coord next where
  shapes other different := (late.shapes other different).trans (early.shapes other different)
  streams other different := (late.streams other different).trans (early.streams other different)
  phases other different := (late.phases other different).trans (early.phases other different)
  own := late.own

theorem Beside.refl (own : ∀ s, coord.streams.lookup sid = some s →
    s.ticket = ticket) : Beside sid ticket coord coord where
  shapes _ _ := rfl
  streams _ _ := rfl
  phases _ _ := rfl
  own := own

theorem Beside.setStream {s : StreamState} (same : s.ticket = ticket) :
    Beside sid ticket coord (coord.setStream sid s) where
  shapes _ _ := rfl
  streams _ different := Finmap.lookup_insert_of_ne _ different
  phases _ _ := rfl
  own after found := by
    rw [Coordinator.setStream, Finmap.lookup_insert] at found
    cases found
    exact same

theorem Beside.pushDelivery (ticket : Nat) (ev : DeliveryEvent)
    (own : ∀ s, coord.streams.lookup sid = some s → s.ticket = ticket) :
    Beside sid ticket coord (coord.pushDelivery ticket ev) where
  shapes other different := by rw [shapeAt_pushDelivery, if_neg different.symm]
  streams _ _ := rfl
  phases _ _ := rfl
  own := own

theorem Beside.removeState (coord : Coordinator) (sid : UInt32) (s : StreamState) :
    Beside sid s.ticket coord (coord.removeState sid s) where
  shapes other different := by rw [shapeAt_removeState, if_neg different.symm]
  streams other different := lookup_removeState_of_ne coord different s
  phases _ _ := by rw [removeState_eq]
  own after found := by
    rw [lookup_removeState] at found
    cases found

theorem lookup_removeStream_of_ne (dm : CarrierDemux) {sid other : UInt32} (ne : other ≠ sid) :
    (dm.removeStream sid).streams.lookup other = dm.streams.lookup other :=
  Finmap.lookup_erase_ne ne

theorem Beside.removeStream (own : ∀ s, coord.streams.lookup sid = some s → s.ticket = ticket) :
    Beside sid ticket coord { coord with demux := coord.demux.removeStream sid } where
  shapes _ _ := rfl
  streams _ _ := rfl
  phases _ different := by
    simp only
    rw [lookup_removeStream_of_ne _ different]
  own := own

theorem Beside.forget (coord : Coordinator) (sid : UInt32) (s : StreamState) :
    Beside sid s.ticket coord (coord.forget sid s) := by
  have removed := Beside.removeState coord sid s
  refine ⟨removed.shapes, removed.streams, ?_, removed.own⟩
  intro other ne
  unfold Coordinator.forget
  simp only
  rw [lookup_removeStream_of_ne _ ne]

theorem Registered.beside (reg : coord.Registered) {s : StreamState}
    (hp : coord.streams.lookup sid = some s) (beside : Beside sid s.ticket coord next)
    (own : ∀ after, next.streams.lookup sid = some after →
      ∃ en, next.shapeAt s.ticket = some en ∧ Paired sid after en)
    (hushed : ∀ en, next.shapeAt s.ticket = some en →
      en.receiving = false → en.holding = none) : next.Registered where
  paired other their found := by
    by_cases same : other = sid
    · subst same
      rw [beside.own their found]
      exact own their found
    · rw [beside.streams other same] at found
      obtain ⟨en, there, paired⟩ := reg.paired other their found
      have apart : their.ticket ≠ s.ticket := fun equal => same (reg.unique found hp equal)
      exact ⟨en, (beside.shapes _ apart).trans there, paired⟩
  hushed ticket en there := by
    by_cases same : ticket = s.ticket
    · subst same
      exact hushed en there
    · rw [beside.shapes ticket same] at there
      exact reg.hushed ticket en there

theorem Registered.congr (reg : coord.Registered) (streams : next.streams = coord.streams)
    (shapes : ∀ ticket, next.shapeAt ticket = coord.shapeAt ticket) : next.Registered where
  paired sid s present := by
    rw [streams] at present
    rw [shapes]
    exact reg.paired sid s present
  hushed ticket en there := by
    rw [shapes] at there
    exact reg.hushed ticket en there

end

end Coordinator

end SplRust.Transport
