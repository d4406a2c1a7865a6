import SplRust.Core.Accounting
import SplRust.Transport.DeliveryRun

/-! What the request that opened a stream gets from `recv` over a whole run of the coordinator,
compared with the events that the demultiplexer produced for its stream. -/

namespace SplRust.Transport
open SplRust.Lib SplRust.Core List StreamEvent Coordinator
variable {event : StreamEvent} {produced events : List StreamEvent}

/-- An item that `recv` returned, with the wire cost it sent back through `Consume`. An early
head is returned without a `Consume`. -/
def LocalReply.items : LocalReply → List (StreamItem × Option Nat)
  | .item what consumed => [(what, consumed)]
  | _ => []

/-- The items that `recv` of an open returned. -/
def itemsAt (ticket : Nat) (replies : List CoordinatorReply) : List (StreamItem × Option Nat) :=
  replies.flatMap fun reply =>
    (reply.returned.filter fun event => event.1 == ticket).flatMap fun event => event.2.items

/-- The events that the demultiplexer produced for the stream of an open. -/
def eventsAt (ticket : Nat) (replies : List CoordinatorReply) : List StreamEvent :=
  replies.flatMap fun reply => reply.producedAt ticket

/-- An event as `recv` returns it. -/
def returnedItem (event : StreamEvent) : StreamItem × Option Nat := (event.item, some event.wireCost)

/-- A delivery as `recv` returns it. -/
def DeliveryEvent.items : DeliveryEvent → List (StreamItem × Option Nat)
  | .stream event => [returnedItem event]
  | .earlyFinal head => [(.head head, none)]
  | .certificateUnknown => []

def BodyCosted (ev : StreamEvent) : Prop := ev.isBody = false → ev.wireCost = 0

/-- What was taken, as the front of the word that the lane delivers. -/
inductive Taken (produced : List StreamEvent) : List DeliveryEvent → Prop where
  | early (head : HttpHead) : Taken produced [.earlyFinal head]
  | unknown (events : List StreamEvent) : Taken produced (events.map .stream ++ [.certificateUnknown])
  | events (events front back : List StreamEvent) (split : produced = front ++ back)
      (merged : Merged joinBodies front events)
      (read : ∃ phase, events.foldlM StreamPhase.next .opening = some phase) :
      Taken produced (events.map .stream)
  | ended (events front back : List StreamEvent) (last : StreamEvent)
      (split : produced = front ++ back) (merged : Merged joinBodies front events)
      (read : ∃ phase, events.foldlM StreamPhase.next .opening = some phase)
      (going : ∀ ev ∈ events, ev.isEnding = false) (ends : last.isEnding = true)
      (source : last ∈ produced ∨ ∃ how, last = .ending how) :
      Taken produced ((events ++ [last]).map .stream)

theorem Delivering.taken {lane : DeliveryLane} {taken : List DeliveryEvent}
    (delivering : Delivering lane produced taken) : Taken produced taken := by
  obtain ⟨hd, rest, core, tail, flow⟩ := delivering
  obtain ⟨ph, whole, -⟩ := flow.read
  rcases flow.taken_cases with ⟨early, late, core_split, rfl⟩ | ⟨event, isFinal, rfl, only⟩
  · obtain ⟨fst, others, rfl, merged⟩ := flow.merged.front early late core_split
    obtain ⟨mid, read, -⟩ := foldlM_front whole
    rw [merged.foldlM_eq next_join] at read
    exact .events early fst (others ++ rest) (by rw [flow.split, append_assoc]) merged ⟨mid, read⟩
  · cases event with
    | earlyFinal head =>
      rw [(flow.early head (by rw [only]; simp)).1]
      exact .early head
    | certificateUnknown => exact .unknown core
    | stream last =>
      have taken : core.map DeliveryEvent.stream ++ [.stream last] = (core ++ [last]).map .stream := by simp
      rw [taken]
      rw [flow.merged.foldlM_eq next_join] at whole
      exact .ended core hd rest last flow.split flow.merged ⟨ph, whole⟩ flow.going isFinal
        (flow.source last (by rw [only]; rfl))

/-- The order in which `recv` returns the events of a stream, against those produced. -/
structure Ordered (produced events : List StreamEvent) : Prop where
  lifecycle : Lifecycle events
  front : ∃ front back, produced = front ++ back ∧ events.flatMap bodyBytes = front.flatMap bodyBytes ∧
    (events.map StreamEvent.wireCost).sum = ((front.filter StreamEvent.isBody).map StreamEvent.wireCost).sum
  final : ∀ before ev after, events = before ++ ev :: after → ev.isEnding = true → after = []

theorem bodyCost_filter (costed : ∀ event ∈ events, BodyCosted event) :
    ((events.filter isBody).map wireCost).sum = (events.map wireCost).sum := by
  induction events with
  | nil => rfl
  | cons event events ih =>
    obtain ⟨own, others⟩ := forall_mem_cons.mp costed
    rw [filter_cons, map_cons, sum_cons, ← ih others]
    cases body : event.isBody with
    | true => rfl
    | false =>
      rw [own body, Nat.zero_add]
      rfl

/-- What is merged from a front of the events has its body bytes and its cost. -/
theorem front_of_merged {front back : List StreamEvent}
    (costed : ∀ event ∈ produced, BodyCosted event) (split : produced = front ++ back)
    (merged : Merged joinBodies front events) : events.flatMap bodyBytes = front.flatMap bodyBytes ∧
      (events.map wireCost).sum = ((front.filter isBody).map wireCost).sum := by
  have early : ∀ event ∈ front, BodyCosted event := fun event mem =>
    costed event (by rw [split]; exact mem_append_left _ mem)
  rw [bodyCost_filter early]
  exact ⟨(merged.flatMap_eq bodyBytes_join).symm, (merged.sum_eq wireCost_join).symm⟩

theorem ending_outside (ends : event.isEnding = true) : event.isHead = false ∧ event.isBody = false := by
  obtain ⟨item, _⟩ := event
  cases item with
  | head | body => cases ends
  | ended => exact ⟨rfl, rfl⟩

theorem lifecycle_final {word : List StreamEvent} (lifecycle : Lifecycle word)
    {pre after : List StreamEvent} (split : word = pre ++ event :: after)
    (ends : event.isEnding = true) : after = [] := by
  obtain ⟨heads, bodies, _, rfl, -, areHeads, areBodies, -, few, -⟩ := lifecycle
  obtain ⟨noHead, noBody⟩ := ending_outside ends
  have going : event ∉ heads ++ bodies := by
    intro mem
    rcases mem_append.mp mem with head | body
    · rw [areHeads event head] at noHead
      cases noHead
    · rw [areBodies event body] at noBody
      cases noBody
  rcases append_eq_append_iff.mp split with ⟨more, whole, rest⟩ | ⟨more, whole, rest⟩
  · rw [rest, length_append, length_cons] at few
    exact eq_nil_of_length_eq_zero (by omega)
  · cases more with
    | nil =>
      rw [nil_append] at rest
      rw [← rest, length_cons] at few
      exact eq_nil_of_length_eq_zero (by omega)
    | cons fst more =>
      cases rest
      exact absurd (by rw [whole]; simp) going

theorem lifecycle_concat {last : StreamEvent} (lifecycle : Lifecycle events)
    (going : ∀ event ∈ events, event.isEnding = false) (ends : last.isEnding = true) :
    Lifecycle (events ++ [last]) := by
  obtain ⟨heads, bodies, tail, rfl, one, areHeads, areBodies, behind, -, areEnds⟩ := lifecycle
  have none_tail : tail = [] := by
    cases tail with
    | nil => rfl
    | cons event tail =>
      have ending := areEnds event mem_cons_self
      rw [going event (by simp)] at ending
      cases ending
  subst none_tail
  rw [append_nil]
  exact ⟨heads, bodies, [last], rfl, one, areHeads, areBodies, behind, by simp, by simpa using ends⟩

theorem Ordered.of_lifecycle {front back : List StreamEvent} (lifecycle : Lifecycle events)
    (split : produced = front ++ back) (bs : events.flatMap bodyBytes = front.flatMap bodyBytes)
    (cost : (events.map wireCost).sum = ((front.filter isBody).map wireCost).sum) : Ordered produced events :=
  ⟨lifecycle, ⟨front, back, split, bs, cost⟩, fun _ _ _ split ends => lifecycle_final lifecycle split ends⟩

/-- What was taken is one early head or the events of the stream in their order. -/
theorem Taken.ordered {taken : List DeliveryEvent} (held : Taken produced taken)
    (costed : ∀ event ∈ produced, BodyCosted event)
    (kn : .certificateUnknown ∉ taken) : (∃ head, taken = [.earlyFinal head]) ∨
      ∃ events, taken = events.map .stream ∧ Ordered produced events := by
  cases held with
  | early head => exact Or.inl ⟨head, rfl⟩
  | unknown => exact absurd (by simp) kn
  | events events _ _ split merged read =>
    obtain ⟨_, read⟩ := read
    obtain ⟨bs, cost⟩ := front_of_merged costed split merged
    exact Or.inr ⟨events, rfl, .of_lifecycle (lifecycle_of_read read) split bs cost⟩
  | ended events _ _ last split merged read going ends source =>
    obtain ⟨_, read⟩ := read
    obtain ⟨bs, cost⟩ := front_of_merged costed split merged
    have free : last.wireCost = 0 := by
      rcases source with mem | ⟨how, rfl⟩
      · exact costed last mem (ending_outside ends).2
      · rfl
    have empty : bodyBytes last = [] := by
      obtain ⟨item, _⟩ := last
      cases item with
      | head | body => cases ends
      | ended => rfl
    refine Or.inr ⟨events ++ [last], rfl,
      .of_lifecycle (lifecycle_concat (lifecycle_of_read read) going ends) split ?_ ?_⟩
    · rw [flatMap_append, bs]
      simp [empty]
    · rw [map_append, sum_append, cost]
      simp [free]

namespace Coordinator
variable {coord next : Coordinator} {call : CoordinatorCall} {rep : CoordinatorReply}

/-- Every event a step produces carries a cost only if it is a body. -/
theorem StepEffect.bodyCosted (eff : StepEffect coord call next rep) (ticket : Nat) :
    ∀ event ∈ rep.producedAt ticket, BodyCosted event := by
  cases eff with
  | read _ _ _ _ _ _ fed =>
    intro event mem
    simp only [CoordinatorReply.producedAt, Coordinator.produced, mem_map,
      mem_filter, mem_filterMap, Option.map_eq_some_iff] at mem
    obtain ⟨_, ⟨⟨source, inside, _, -, rfl⟩, -⟩, rfl⟩ := mem
    refine CarrierDemux.feed_uncosted source.1 fed source.2 ?_
    exact mem_map.mpr ⟨source, mem_filter.mpr ⟨inside, by simp⟩, rfl⟩
  | _ => simp [CoordinatorReply.producedAt]

end Coordinator

/-- An item returned by a step is the delivery it took. -/
theorem items_taken {coord next : Coordinator} {call : CoordinatorCall}
    {rep : CoordinatorReply} (eff : Coordinator.StepEffect coord call next rep) (ticket : Nat) :
    itemsAt ticket [rep] = (rep.takenAt ticket).flatMap DeliveryEvent.items ∧
      .certificateUnknown ∉ rep.takenAt ticket := by
  cases eff with
  | acts owner _ _ _ _ did =>
    by_cases same : owner = ticket
    · subst same
      rw [takenAt_own]
      simp only [itemsAt, flatMap_cons, flatMap_nil, filter_cons, filter_nil, beq_self_eq_true, if_true, append_nil]
      cases localStep_effect did with
      | early | returned => exact ⟨rfl, by simp [LocalReply.taken]⟩
      | _ => exact ⟨rfl, by simp [LocalReply.taken]⟩
    · rw [takenAt_other (Ne.symm same)]
      simp [itemsAt, same]
  | _ => exact ⟨rfl, by simp [CoordinatorReply.takenAt]⟩

/-- How every open stands after a run. -/
structure DeliveryHistory (coord : Coordinator) (rs : List CoordinatorReply) : Prop where
  registered : coord.Registered
  teardown : coord.Teardown
  delivering : ∀ ticket, Delivering (coord.lane ticket) (eventsAt ticket rs)
    (rs.flatMap fun reply => reply.takenAt ticket)
  costed : ∀ ticket, ∀ ev ∈ eventsAt ticket rs, BodyCosted ev
  items : ∀ ticket, itemsAt ticket rs = (rs.flatMap fun reply => reply.takenAt ticket).flatMap DeliveryEvent.items
  known : ∀ ticket, .certificateUnknown ∉ rs.flatMap fun reply => reply.takenAt ticket

theorem deliveryHistory_start : DeliveryHistory {} [] where
  registered := ⟨by simp, by simp [shapeAt]⟩
  teardown := by simp [Coordinator.Teardown]
  delivering := fun _ => delivering_unopened true
  costed := fun _ => forall_mem_nil _
  items := fun _ => rfl
  known := by simp

theorem DeliveryHistory.step {coord next : Coordinator} {replies : List CoordinatorReply}
    {call : CoordinatorCall} {rep : CoordinatorReply} (history : DeliveryHistory coord replies)
    (eff : Coordinator.StepEffect coord call next rep) : DeliveryHistory next (replies ++ [rep]) := by
  obtain ⟨reg, teardown, lanes⟩ := step_lanes history.registered history.teardown eff
  have events (ticket : Nat) : eventsAt ticket (replies ++ [rep]) =
      eventsAt ticket replies ++ rep.producedAt ticket := by
    simp [eventsAt]
  have taken (ticket : Nat) : ((replies ++ [rep]).flatMap fun rep => rep.takenAt ticket) =
      (replies.flatMap fun rep => rep.takenAt ticket) ++ rep.takenAt ticket := by simp
  exact {
    registered := reg
    teardown := teardown
    delivering := by
      intro ticket
      rw [events, taken]
      exact (history.delivering ticket).run (lanes ticket)
    costed := by
      intro ticket
      rw [events]
      exact forall_mem_append.mpr ⟨history.costed ticket, eff.bodyCosted ticket⟩
    items := by
      intro ticket
      have now := (items_taken eff ticket).1
      have pre := history.items ticket
      rw [taken, flatMap_append, ← now, ← pre]
      simp [itemsAt]
    known := by
      intro ticket
      rw [taken, mem_append, not_or]
      exact ⟨history.known ticket, (items_taken eff ticket).2⟩ }

theorem deliveryHistory_run {keepalive : KeepaliveConfig} {calls : List CoordinatorCall}
    {last : Coordinator} {replies : List CoordinatorReply}
    (ran : (coordinatorMachine keepalive).run {} calls = some (last, replies)) : DeliveryHistory last replies := by
  refine Machine.run_history (coordinatorMachine keepalive) (motive := fun s _ replies =>
    DeliveryHistory s replies) deliveryHistory_start ?_ ran
  intro s calls replies call next rep history hs
  exact history.step (step_effect hs)

/-- However the steps interleave, `recv` returns one early head, or events of the stream in the order
Head, Body, End: their bodies are a front of the body bytes produced, the cost sent back is the cost
of that front, and nothing follows an end. -/
theorem delivery_order (keepalive : KeepaliveConfig) {calls : List CoordinatorCall}
    {last : Coordinator} {replies : List CoordinatorReply}
    (ran : (coordinatorMachine keepalive).run {} calls = some (last, replies)) (ticket : Nat) :
    (∃ head, itemsAt ticket replies = [(.head head, none)]) ∨
      ∃ events, itemsAt ticket replies = events.map returnedItem ∧ Ordered (eventsAt ticket replies) events := by
  have history := deliveryHistory_run ran
  rw [history.items]
  rcases (history.delivering ticket).taken.ordered (history.costed ticket) (history.known ticket) with
    ⟨head, only⟩ | ⟨events, same, ordered⟩
  · exact Or.inl ⟨head, by rw [only]; rfl⟩
  · refine Or.inr ⟨events, ?_, ordered⟩
    rw [same, flatMap_map]
    exact flatMap_pure_eq_map returnedItem events

/-- A request is opened, its response head and two body bytes arrive and are read. -/
def readResponse : List CoordinatorCall :=
  [.openStream [] [] [] 0, .turn, .turn, .turn, .collect [], .turn, .turn,
    .read (Frame.wire ⟨1, flagData, [72, 84, 84, 80, 47, 49, 46, 49, 32, 50, 48, 48, 32, 79, 75,
      13, 10, 13, 10, 111, 107]⟩), .turn, .turn,
    .act 0 .recv, .act 0 .returnItem, .act 0 .recv, .act 0 .returnItem]

theorem delivery_order_response :
    ∃ last replies, (coordinatorMachine ⟨0, 0⟩).run {} readResponse = some (last, replies) ∧
      itemsAt 0 replies = [(.head ⟨200, []⟩, some 0), (.body [111, 107], some 2)] ∧
      ((∃ head, itemsAt 0 replies = [(.head head, none)]) ∨ ∃ events, itemsAt 0 replies = events.map returnedItem ∧
          Ordered (eventsAt 0 replies) events) := by
  refine Machine.exists_run (fun ran => itemsAt 0 ran.2)
    [(.head ⟨200, []⟩, some 0), (.body [111, 107], some 2)] (by decide +kernel) fun last replies ran items => ?_
  exact ⟨items, delivery_order ⟨0, 0⟩ ran 0⟩

end SplRust.Transport
