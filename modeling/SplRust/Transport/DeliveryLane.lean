import SplRust.Core.Lifecycle
import SplRust.Lib.Merge
import SplRust.Transport.CoordinatorLoop

/-! The way of one stream's events from the demultiplexer to the request that reads them: the
events still to be handled, the deliveries that did not fit, the bounded queue, and the event
that `recv` holds. A lane is what one open sees of the coordinator. -/

namespace SplRust.Transport
open SplRust.Lib SplRust.Core
variable {fst second joined : StreamEvent}

/-- Bodies that wait are merged. -/
def joinBodies : StreamEvent → StreamEvent → Option StreamEvent
  | ⟨.body first, firstCost⟩, ⟨.body second, secondCost⟩ => some ⟨.body (first ++ second), firstCost + secondCost⟩
  | _, _ => none

def bodyBytes (event : StreamEvent) : Bytes :=
  match event.item with
  | .body bytes => bytes
  | _ => []

/-- Nothing is delivered to a stream after this. -/
def DeliveryEvent.isFinal : DeliveryEvent → Bool
  | .stream event => event.isEnding
  | _ => true

/-- What `recv` returned, as the delivery it took. -/
def LocalReply.taken : LocalReply → List DeliveryEvent
  | .item what (some cost) => [.stream ⟨what, cost⟩]
  | .item (.head head) none => [.earlyFinal head]
  | _ => []

structure DeliveryLane where
  opened : Bool := false
  /-- The coordinator has the stream, and its receiver is there. -/
  live : Bool := false
  /-- The upload is done. -/
  done : Bool := false
  running : Bool := true
  receiving : Bool := true
  phase : StreamPhase := .opening
  unread : List StreamEvent := []
  pending : List DeliveryEvent := []
  delivery : List DeliveryEvent := []
  holding : Option StreamEvent := none
  /-- The request has sent its whole body. -/
  sent : Bool := false

structure DeliveryLabel where
  produced : List StreamEvent := []
  taken : List DeliveryEvent := []

namespace DeliveryLane

/-- The coordinator forgets the stream. -/
def dropped (lane : DeliveryLane) : DeliveryLane where
  opened := lane.opened
  running := lane.running
  receiving := lane.receiving
  delivery := lane.delivery
  holding := lane.holding
  sent := lane.sent

def push (lane : DeliveryLane) (event : DeliveryEvent) : DeliveryLane :=
  { lane with delivery := lane.delivery ++ [event] }

def Waits (lane : DeliveryLane) : Prop := lane.pending ≠ [] ∨ lane.delivery ≠ []

end DeliveryLane

/-- The moves of a lane. -/
inductive DeliveryStep : DeliveryLane → DeliveryLabel → DeliveryLane → Prop where
  | opens {lane : DeliveryLane} (sent : Bool) (unopened : lane.opened = false) :
      DeliveryStep lane {} { opened := true, live := true, running := lane.running, sent := sent }
  | produce {lane : DeliveryLane} (events : List StreamEvent) (phase : StreamPhase)
      (live : lane.live = true) (running : lane.running = true) (calm : lane.unread = [])
      (read : events.foldlM StreamPhase.next lane.phase = some phase) :
      DeliveryStep lane { produced := events } { lane with unread := events, phase := phase }
  | ignore {lane : DeliveryLane} (events : List StreamEvent) (opened : lane.opened = true)
      (gone : lane.receiving = false) : DeliveryStep lane { produced := events } lane
  | stop {lane : DeliveryLane} (phase : StreamPhase) :
      DeliveryStep lane {} { lane with running := false, phase := phase, unread := [] }
  | drop {lane : DeliveryLane} (live : lane.live = true) : DeliveryStep lane {} lane.dropped
  | early {lane : DeliveryLane} (head : HttpHead) (cost : Nat) (rest : List StreamEvent)
      (live : lane.live = true) (undone : lane.done = false)
      (first : lane.unread = ⟨.head head, cost⟩ :: rest) :
      DeliveryStep lane {} (lane.dropped.push (.earlyFinal head))
  | pend {lane : DeliveryLane} (ev : StreamEvent) (rest : List StreamEvent)
      (live : lane.live = true) (running : lane.running = true)
      (first : lane.unread = ev :: rest) (waits : lane.Waits) :
      DeliveryStep lane {} { lane with
        unread := rest, pending := enqueuePendingDelivery lane.pending (.stream ev) }
  | send {lane : DeliveryLane} (ev : StreamEvent) (rest : List StreamEvent)
      (live : lane.live = true) (running : lane.running = true)
      (first : lane.unread = ev :: rest) (clear : lane.pending = [])
      (late : lane.done = false → ev.isHead = false) (going : ev.isEnding = false) :
      DeliveryStep lane {} ({ lane with unread := rest }.push (.stream ev))
  | finish {lane : DeliveryLane} (ev : StreamEvent) (rest : List StreamEvent)
      (live : lane.live = true) (running : lane.running = true)
      (first : lane.unread = ev :: rest) (clear : lane.pending = [])
      (ends : ev.isEnding = true) :
      DeliveryStep lane {} (lane.dropped.push (.stream ev))
  | violatePend {lane : DeliveryLane} (reason : ResetReason) (live : lane.live = true)
      (running : lane.running = true) (waits : lane.Waits) :
      DeliveryStep lane {} { lane with
        phase := .closed
        pending := enqueuePendingDelivery lane.pending (.stream (.ending (.reset reason))) }
  | violate {lane : DeliveryLane} (reason : ResetReason) (live : lane.live = true) (clear : lane.pending = []) :
      DeliveryStep lane {} (lane.dropped.push (.stream (.ending (.reset reason))))
  | flush {lane : DeliveryLane} (ev : DeliveryEvent) (rest : List DeliveryEvent)
      (live : lane.live = true) (first : lane.pending = ev :: rest)
      (going : ev.ends = false) : DeliveryStep lane {} ({ lane with pending := rest }.push ev)
  | flushEnd {lane : DeliveryLane} (ev : DeliveryEvent) (rest : List DeliveryEvent)
      (live : lane.live = true) (first : lane.pending = ev :: rest)
      (ends : ev.ends = true) : DeliveryStep lane {} (lane.dropped.push ev)
  | last {lane : DeliveryLane} (ev : DeliveryEvent) (live : lane.live = true)
      (how : ev = Coordinator.fanoutEof ∨ ev = .certificateUnknown) :
      DeliveryStep lane {} (lane.dropped.push ev)
  | complete {lane : DeliveryLane} (live : lane.live = true) (sent : lane.sent = true) :
      DeliveryStep lane {} { lane with done := true }
  | supply {lane : DeliveryLane} : DeliveryStep lane {} { lane with sent := true }
  | takeEvent {lane : DeliveryLane} (ev : StreamEvent) (rest : List DeliveryEvent)
      (free : lane.holding = none) (first : lane.delivery = .stream ev :: rest) :
      DeliveryStep lane {} { lane with delivery := rest, holding := some ev }
  | takeEarly {lane : DeliveryLane} (head : HttpHead) (rest : List DeliveryEvent)
      (free : lane.holding = none) (first : lane.delivery = .earlyFinal head :: rest) :
      DeliveryStep lane { taken := [.earlyFinal head] } { lane with delivery := rest }
  | takeUnknown {lane : DeliveryLane} (rest : List DeliveryEvent)
      (free : lane.holding = none) (first : lane.delivery = .certificateUnknown :: rest) :
      DeliveryStep lane {} { lane with delivery := rest }
  | returns {lane : DeliveryLane} (ev : StreamEvent) (held : lane.holding = some ev) :
      DeliveryStep lane { taken := [.stream ev] } { lane with holding := none }
  | abandon {lane : DeliveryLane} (unsent : lane.sent = false) : DeliveryStep lane {} { lane with holding := none }
  | close {lane : DeliveryLane} (opened : lane.opened = true) : DeliveryStep lane {} { lane.dropped with
        receiving := false, delivery := [], holding := none }

section
variable (joins : joinBodies fst second = some joined)
include joins

theorem joinBodies_some : ∃ one firstCost two secondCost, fst = ⟨.body one, firstCost⟩ ∧
      second = ⟨.body two, secondCost⟩ ∧ joined = ⟨.body (one ++ two), firstCost + secondCost⟩ := by
  obtain ⟨firstItem, firstCost⟩ := fst
  obtain ⟨secondItem, secondCost⟩ := second
  cases firstItem with
  | head | ended => cases joins
  | body one =>
    cases secondItem with
    | head | ended => cases joins
    | body two =>
      cases joins
      exact ⟨one, firstCost, two, secondCost, rfl, rfl, rfl⟩

theorem bodyBytes_join : bodyBytes joined = bodyBytes fst ++ bodyBytes second := by
  obtain ⟨_, _, _, _, rfl, rfl, rfl⟩ := joinBodies_some joins
  rfl

theorem wireCost_join : joined.wireCost = fst.wireCost + second.wireCost := by
  obtain ⟨_, _, _, _, rfl, rfl, rfl⟩ := joinBodies_some joins
  rfl

theorem next_join (ph : StreamPhase) : (ph.next fst).bind (fun mid => mid.next second) = ph.next joined := by
  obtain ⟨_, _, _, _, rfl, rfl, rfl⟩ := joinBodies_some joins
  cases ph with
  | opening | reading | closed => rfl

end

/-- Queueing behind other deliveries joins bodies or adds an entry. -/
theorem enqueuePendingDelivery_concat (pend : List DeliveryEvent) (last : DeliveryEvent) (ev : StreamEvent) :
    (∃ pre joined, last = .stream pre ∧ joinBodies pre ev = some joined ∧
      enqueuePendingDelivery (pend ++ [last]) (.stream ev) = pend ++ [.stream joined]) ∨
    enqueuePendingDelivery (pend ++ [last]) (.stream ev) = pend ++ [last] ++ [.stream ev] := by
  induction pend with
  | nil =>
    cases last with
    | earlyFinal | certificateUnknown => exact Or.inr rfl
    | stream pre =>
      obtain ⟨beforeItem, _⟩ := pre
      obtain ⟨item, _⟩ := ev
      cases beforeItem with
      | head | ended => exact Or.inr rfl
      | body =>
        cases item with
        | head | ended => exact Or.inr rfl
        | body => exact Or.inl ⟨_, _, rfl, rfl, rfl⟩
  | cons fst pend ih =>
    have behind (rest : List DeliveryEvent) (second : DeliveryEvent) :
        enqueuePendingDelivery (fst :: second :: rest) (.stream ev) =
          fst :: enqueuePendingDelivery (second :: rest) (.stream ev) := by
      simp [enqueuePendingDelivery]
    have tail : enqueuePendingDelivery (fst :: (pend ++ [last])) (.stream ev) =
        fst :: enqueuePendingDelivery (pend ++ [last]) (.stream ev) := by
      cases pend with
      | nil | cons => exact behind _ _
    rw [List.cons_append, tail]
    rcases ih with ⟨pre, joined, rfl, joins, same⟩ | same
    · exact Or.inl ⟨pre, joined, rfl, joins, by rw [same, List.cons_append]⟩
    · exact Or.inr (by rw [same]; rfl)

end SplRust.Transport
