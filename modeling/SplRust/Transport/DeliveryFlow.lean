import SplRust.Transport.DeliveryLane

/-! What a lane delivers is a merging of a front of what the demultiplexer produced, possibly
with one final event behind it. -/

namespace SplRust.Transport
open SplRust.Lib SplRust.Core List Option

def DeliveryLane.front (lane : DeliveryLane) (taken : List DeliveryEvent) : List DeliveryEvent :=
  taken ++ lane.holding.toList.map .stream ++ lane.delivery

/-- How far a lane has come. Of the events produced, `handled` are those that made up `core`,
the deliveries before the first final one; `tail` is the final one and what waits behind it. -/
structure Flow (lane : DeliveryLane) (produced : List StreamEvent) (taken : List DeliveryEvent)
    (handled rest core : List StreamEvent) (tail : List DeliveryEvent) : Prop where
  total : lane.front taken ++ lane.pending = core.map .stream ++ tail
  split : produced = handled ++ rest
  merged : Merged joinBodies handled core
  going : ∀ ev ∈ core, ev.isEnding = false
  tailed : tail = [] ∨ ∃ final more, tail = final :: more ∧ final.isFinal = true
  read : ∃ phase, handled.foldlM StreamPhase.next .opening = some phase ∧
    (lane.live = true → lane.running = true → tail = [] →
      rest = lane.unread ∧ lane.unread.foldlM StreamPhase.next phase = some lane.phase)
  gone : lane.live = false → lane.pending = [] ∧ tail.length ≤ 1
  clean : lane.live = true → ∀ ev ∈ lane.front taken, ev.isFinal = false
  undone : lane.live = true → lane.done = false → lane.front taken = [] ∧ lane.pending = []
  early : ∀ head, .earlyFinal head ∈ tail → core = [] ∧ tail = [.earlyFinal head]
  streams : ∀ ev ∈ lane.pending, ∃ st, ev = .stream st
  supplied : lane.live = true → lane.done = true → lane.sent = true
  carried : core ≠ [] → lane.sent = true
  source : ∀ ev, tail.head? = some (.stream ev) → ev ∈ produced ∨ ∃ how, ev = .ending how
  shut : lane.live = true → lane.running = true → tail ≠ [] → lane.phase = .closed
  received : lane.live = true → lane.receiving = true
  fresh : lane.opened = false → lane.live = false ∧ lane.front taken = [] ∧ produced = []

def Delivering (lane : DeliveryLane) (produced : List StreamEvent) (taken : List DeliveryEvent) :
    Prop :=
  ∃ handled rest core tail, Flow lane produced taken handled rest core tail

/-- Deliveries before any final one are deliveries of the core. -/
theorem split_clean {front back tail : List DeliveryEvent} {core : List StreamEvent}
    (clean : ∀ ev ∈ front, ev.isFinal = false)
    (tailed : tail = [] ∨ ∃ final more, tail = final :: more ∧ final.isFinal = true)
    (tot : front ++ back = core.map .stream ++ tail) :
    ∃ early late, core = early ++ late ∧ front = early.map .stream ∧ back = late.map .stream ++ tail := by
  rcases append_eq_append_iff.mp tot with ⟨more, whole, rest⟩ | ⟨more, whole, rest⟩
  · obtain ⟨early, late, rfl, rfl, rfl⟩ := map_eq_append_iff.mp whole
    exact ⟨early, late, rfl, rfl, rest⟩
  · cases more with
    | nil =>
      rw [append_nil] at whole
      exact ⟨core, [], (append_nil _).symm, whole, rest.symm⟩
    | cons final more =>
      rcases tailed with rfl | ⟨fst, others, rfl, isFinal⟩
      · cases rest
      · cases rest
        have mem : final ∈ front := by
          rw [whole]
          exact mem_append_right _ mem_cons_self
        rw [clean final mem] at isFinal
        cases isFinal

variable {early late : List StreamEvent}

theorem foldlM_front {start last : StreamPhase} (read : (early ++ late).foldlM StreamPhase.next start = some last) :
    ∃ mid, early.foldlM StreamPhase.next start = some mid ∧ late.foldlM StreamPhase.next mid = some last := by
  rw [foldlM_append] at read
  exact bind_eq_some_iff.mp read

variable {next : DeliveryLane}

section
variable {ev : StreamEvent} {more : List StreamEvent} {ph : StreamPhase} {pending others : List DeliveryEvent}
variable {lane : DeliveryLane} {produced : List StreamEvent} {taken : List DeliveryEvent}
  {handled rest core : List StreamEvent} {tail : List DeliveryEvent} {nextTaken : List DeliveryEvent}

section
variable (flow : Flow lane produced taken handled rest core tail)
include flow

theorem Flow.opened (live : lane.live = true) : lane.opened = true := by
  rw [← Bool.not_eq_false]
  intro unopened
  rw [(flow.fresh unopened).1] at live
  cases live

theorem Flow.whole (live : lane.live = true) (clear : lane.pending = []) :
    tail = [] ∧ lane.front taken = core.map .stream := by
  obtain ⟨_, _, rfl, front, back⟩ := split_clean (flow.clean live) flow.tailed flow.total
  rw [clear] at back
  obtain ⟨none_late, none_tail⟩ := append_eq_nil_iff.mp back.symm
  rw [map_eq_nil_iff] at none_late
  subst none_late
  exact ⟨none_tail, by rw [append_nil]; exact front⟩

theorem Flow.core_nil_of_undone (live : lane.live = true) (undone : lane.done = false) :
    core = [] ∧ tail = [] ∧ handled = [] := by
  obtain ⟨front, clear⟩ := flow.undone live undone
  obtain ⟨none_tail, whole⟩ := flow.whole live clear
  rw [front] at whole
  have none_core : core = [] := map_eq_nil_iff.mp whole.symm
  subst none_core
  exact ⟨rfl, none_tail, flow.merged.source_of_nil⟩

theorem Flow.depart (final : List DeliveryEvent) (live : next.live = false) (pending : next.pending = [])
    (opened : next.opened = true) (sent : next.sent = lane.sent) (core_split : core = early ++ late)
    (front : next.front nextTaken = early.map .stream ++ final)
    (short : final.length ≤ 1) (isFinal : ∀ ev ∈ final, ev.isFinal = true)
    (alone : ∀ head, .earlyFinal head ∈ final → early = [])
    (source : ∀ ev, .stream ev ∈ final → ev ∈ produced ∨ ∃ how, ev = .ending how) :
    Delivering next produced nextTaken := by
  obtain ⟨fst, others, rfl, merged⟩ := flow.merged.front early late core_split
  obtain ⟨_, whole, -⟩ := flow.read
  obtain ⟨mid, read, -⟩ := foldlM_front whole
  refine ⟨fst, others ++ rest, early, final, ?_⟩
  exact {
    total := by rw [pending, append_nil, front]
    split := by rw [flow.split, append_assoc]
    merged := merged
    going := fun ev mem => flow.going ev (by rw [core_split]; exact mem_append_left _ mem)
    tailed := by
      cases final with
      | nil => exact Or.inl rfl
      | cons ev more => exact Or.inr ⟨ev, more, rfl, isFinal ev mem_cons_self⟩
    read := ⟨mid, read, fun isLive => by rw [live] at isLive; cases isLive⟩
    gone := fun _ => ⟨pending, short⟩
    clean := fun isLive => by rw [live] at isLive; cases isLive
    undone := fun isLive => by rw [live] at isLive; cases isLive
    early := by
      intro head mem
      refine ⟨alone head mem, ?_⟩
      cases final with
      | nil => cases mem
      | cons ev more =>
        cases more with
        | nil => rw [mem_singleton.mp mem]
        | cons => simp at short
    streams := by rw [pending]; simp
    supplied := fun isLive => by rw [live] at isLive; cases isLive
    carried := by
      intro some_core
      rw [sent]
      apply flow.carried
      rw [core_split]
      exact append_ne_nil_of_left_ne_nil some_core _
    source := fun ev same => source ev (mem_of_head? same)
    shut := fun isLive _ => by rw [live] at isLive; cases isLive
    received := fun isLive => by rw [live] at isLive; cases isLive
    fresh := fun unopened => by rw [opened] at unopened; cases unopened }

theorem Flow.quit (live : next.live = false) (pending : next.pending = []) (opened : next.opened = true)
    (sent : next.sent = lane.sent) (core_split : core = early ++ late)
    (front : next.front nextTaken = early.map .stream) : Delivering next produced nextTaken :=
  flow.depart [] live pending opened sent core_split (by rw [append_nil, front]) (by simp) (by simp) (by simp) (by simp)

end

theorem isFinal_stream (ev : StreamEvent) : (DeliveryEvent.stream ev).isFinal = ev.isEnding := rfl

theorem ends_stream (ev : StreamEvent) : (DeliveryEvent.stream ev).ends = ev.isEnding := by
  obtain ⟨item, _⟩ := ev
  cases item with
  | head | body | ended => rfl

theorem front_push (lane : DeliveryLane) (taken : List DeliveryEvent) (ev : DeliveryEvent) :
    (lane.push ev).front taken = lane.front taken ++ [ev] := by
  simp only [DeliveryLane.front, DeliveryLane.push, append_assoc]

theorem front_dropped (lane : DeliveryLane) (taken : List DeliveryEvent) :
    lane.dropped.front taken = lane.front taken := rfl

theorem Flow.first_unread (flow : Flow lane produced taken handled rest core tail)
    (live : lane.live = true) (hr : lane.running = true) (fst : lane.unread = ev :: more)
    (undone : lane.done = false) : ev.isBody = false := by
  obtain ⟨-, none_tail, none_handled⟩ := flow.core_nil_of_undone live undone
  obtain ⟨_, read, reads⟩ := flow.read
  rw [none_handled] at read
  cases read
  have listening := (reads live hr none_tail).2
  rw [fst] at listening
  obtain ⟨item, _⟩ := ev
  cases item with
  | head | ended => rfl
  | body => cases listening

theorem not_ending_absurd (head : ev.isHead = false) (body : ev.isBody = false)
    (going : ev.isEnding = false) : False := by
  obtain ⟨item, _⟩ := ev
  cases item with
  | head => cases head
  | body => cases body
  | ended => cases going

theorem Flow.next_phase (flow : Flow lane produced taken handled rest core tail)
    (live : lane.live = true) (hr : lane.running = true) (none_tail : tail = [])
    (fst : lane.unread = ev :: more) :
    rest = ev :: more ∧ ∃ ph mid, handled.foldlM StreamPhase.next .opening = some ph ∧
      ph.next ev = some mid ∧ more.foldlM StreamPhase.next mid = some lane.phase := by
  obtain ⟨ph, read, reads⟩ := flow.read
  obtain ⟨same, listening⟩ := reads live hr none_tail
  rw [fst] at same listening
  obtain ⟨mid, now, later⟩ := bind_eq_some_iff.mp listening
  exact ⟨same, ph, mid, read, now, later⟩

theorem foldlM_concat {es : List StreamEvent} {start mid : StreamPhase}
    (read : es.foldlM StreamPhase.next start = some ph) (now : ph.next ev = some mid) :
    (es ++ [ev]).foldlM StreamPhase.next start = some mid := by
  rw [foldlM_append, read]
  simp only [foldlM_cons, foldlM_nil, bind_eq_bind, bind_some, now, Option.pure_def]

theorem next_ended {mid : StreamPhase} (ends : ev.isEnding = true)
    (now : ph.next ev = some mid) : mid = .closed := by
  obtain ⟨item, _⟩ := ev
  cases item with
  | head | body => cases ends
  | ended =>
    cases ph with
    | opening | reading => cases now; rfl
    | closed => cases now

section
variable (flow : Flow lane produced taken handled rest core tail) (live : lane.live = true)
  (hr : lane.running = true) (fst : lane.unread = ev :: more) (clear : lane.pending = [])
include flow live hr fst clear

theorem Flow.send (late : lane.done = false → ev.isHead = false) (going : ev.isEnding = false) :
    Delivering ({ lane with unread := more }.push (.stream ev)) produced taken := by
  obtain ⟨none_tail, whole⟩ := flow.whole live clear
  obtain ⟨same, _, mid, read, now, later⟩ := flow.next_phase live hr none_tail fst
  have done : lane.done = true := by
    rw [← Bool.not_eq_false]
    intro undone
    exact not_ending_absurd (late undone) (flow.first_unread live hr fst undone) going
  have sent := flow.supplied live done
  refine ⟨handled ++ [ev], more, core ++ [ev], [], ?_⟩
  exact {
    total := by
      rw [front_push]
      simp only [DeliveryLane.push, clear, append_nil, map_append, map_cons, map_nil]
      exact congrArg (· ++ [DeliveryEvent.stream ev]) whole
    split := by rw [flow.split, same, append_assoc, singleton_append]
    merged := .push ev flow.merged
    going := by
      intro oid mem
      rcases mem_append.mp mem with old | new
      · exact flow.going oid old
      · rw [mem_singleton.mp new]
        exact going
    tailed := Or.inl rfl
    read := ⟨mid, foldlM_concat read now, fun _ _ _ => ⟨rfl, later⟩⟩
    gone := fun gone => absurd (live.symm.trans gone) (by decide)
    clean := by
      intro _ oid mem
      rw [front_push] at mem
      rcases mem_append.mp mem with old | new
      · exact flow.clean live oid old
      · rw [mem_singleton.mp new]
        exact going
    undone := fun _ undone => absurd (done.symm.trans undone) (by decide)
    early := by simp
    streams := flow.streams
    supplied := fun _ _ => sent
    carried := fun _ => sent
    source := by simp
    shut := fun _ _ some_tail => absurd rfl some_tail
    received := flow.received
    fresh := fun unopened => absurd ((flow.opened live).symm.trans unopened) (by decide) }

theorem Flow.finish (ends : ev.isEnding = true) :
    Delivering (lane.dropped.push (.stream ev)) produced taken := by
  obtain ⟨none_tail, whole⟩ := flow.whole live clear
  obtain ⟨same, -⟩ := flow.next_phase live hr none_tail fst
  have mem : ev ∈ produced := by
    rw [flow.split, same]
    exact mem_append_right _ mem_cons_self
  refine flow.depart [.stream ev] rfl rfl (flow.opened live) rfl (append_nil core).symm ?_ (by simp)
    (by simpa [isFinal_stream] using ends) (by simp) (by simp [mem])
  rw [front_push, front_dropped, whole]

end

theorem enqueue_cases (pending : List DeliveryEvent) (ev : StreamEvent) :
    (∃ pre last joined, pending = pre ++ [.stream last] ∧ joinBodies last ev = some joined ∧
      enqueuePendingDelivery pending (.stream ev) = pre ++ [.stream joined]) ∨
    enqueuePendingDelivery pending (.stream ev) = pending ++ [.stream ev] := by
  rcases eq_nil_or_concat pending with rfl | ⟨pre, last, rfl⟩
  · exact Or.inr rfl
  · rw [concat_eq_append]
    rcases enqueuePendingDelivery_concat pre last ev with
      ⟨stream, joined, rfl, joins, same⟩ | same
    · exact Or.inl ⟨pre, stream, joined, rfl, joins, same⟩
    · exact Or.inr same

theorem enqueue_ending (pending : List DeliveryEvent) (ends : ev.isEnding = true) :
    enqueuePendingDelivery pending (.stream ev) = pending ++ [.stream ev] := by
  rcases enqueue_cases pending ev with ⟨pre, last, joined, -, joins, -⟩ | same
  · obtain ⟨_, _, _, _, -, rfl, -⟩ := joinBodies_some joins
    cases ends
  · exact same

theorem enqueue_streams (ev : StreamEvent) (streams : ∀ oid ∈ pending, ∃ stream, oid = .stream stream) :
    ∀ oid ∈ enqueuePendingDelivery pending (.stream ev), ∃ stream, oid = .stream stream := by
  intro oid mem
  rcases enqueue_cases pending ev with ⟨pre, last, joined, rfl, -, same⟩ | same
  · rw [same] at mem
    rcases mem_append.mp mem with old | new
    · exact streams oid (mem_append_left _ old)
    · exact ⟨joined, mem_singleton.mp new⟩
  · rw [same] at mem
    rcases mem_append.mp mem with old | new
    · exact streams oid old
    · exact ⟨ev, mem_singleton.mp new⟩

section
variable (flow : Flow lane produced taken handled rest core tail)
include flow

theorem Flow.done_of_waits (live : lane.live = true) (waits : lane.Waits) : lane.done = true := by
  rw [← Bool.not_eq_false]
  intro undone
  obtain ⟨front, clear⟩ := flow.undone live undone
  rcases waits with pending | delivery
  · exact pending clear
  · exact delivery (append_eq_nil_iff.mp front).2

theorem Flow.waiting (un : List StreamEvent) (nextTail : List DeliveryEvent) {final : DeliveryEvent}
    {more : List DeliveryEvent} (live : lane.live = true) (done : lane.done = true)
    (tot : lane.front taken ++ pending = core.map .stream ++ nextTail)
    (streams : ∀ ev ∈ pending, ∃ stream, ev = .stream stream)
    (tailed : nextTail = final :: more) (isFinal : final.isFinal = true) (inside : ∀ ev ∈ nextTail, ev ∈ pending)
    (source : ∀ ev, final = .stream ev → ev ∈ produced ∨ ∃ how, ev = .ending how) :
    Delivering { lane with unread := un, phase := .closed, pending := pending } produced taken := by
  obtain ⟨ph, read, -⟩ := flow.read
  refine ⟨handled, rest, core, nextTail, ?_⟩
  exact {
    total := tot
    split := flow.split
    merged := flow.merged
    going := flow.going
    tailed := Or.inr ⟨final, more, tailed, isFinal⟩
    read := ⟨ph, read, fun _ _ none_tail => by rw [tailed] at none_tail; cases none_tail⟩
    gone := fun gone => absurd (live.symm.trans gone) (by decide)
    clean := fun _ => flow.clean live
    undone := fun _ undone => absurd (done.symm.trans undone) (by decide)
    early := by
      intro head mem
      obtain ⟨_, same⟩ := streams _ (inside _ mem)
      cases same
    streams := streams
    supplied := flow.supplied
    carried := flow.carried
    source := by
      intro ev same
      rw [tailed] at same
      exact source ev (some.inj same)
    shut := fun _ _ _ => rfl
    received := flow.received
    fresh := fun unopened => absurd ((flow.opened live).symm.trans unopened) (by decide) }

theorem Flow.tail_pending (live : lane.live = true) :
    ∃ early late, core = early ++ late ∧ lane.front taken = early.map .stream ∧
      lane.pending = late.map .stream ++ tail :=
  split_clean (flow.clean live) flow.tailed flow.total

theorem Flow.pend_tail (ev : StreamEvent) (un : List StreamEvent) (live : lane.live = true)
    (done : lane.done = true) (some_tail : tail ≠ []) : Delivering { lane with
      unread := un, phase := .closed
      pending := enqueuePendingDelivery lane.pending (.stream ev) } produced taken := by
  obtain ⟨final, more, rfl, isFinal⟩ := flow.tailed.resolve_left some_tail
  obtain ⟨_, _, rfl, front, pending⟩ := flow.tail_pending live
  have streams := enqueue_streams ev flow.streams
  rcases enqueue_cases lane.pending ev with ⟨pre, last, joined, split, joins, same⟩ | same
  · -- The last delivery that waits is a body, so it is not the final one.
    rw [pending] at split
    rcases eq_nil_or_concat more with rfl | ⟨others, final', rfl⟩
    · obtain ⟨-, own⟩ := append_inj' split rfl
      cases own
      obtain ⟨_, _, _, _, rfl, -, -⟩ := joinBodies_some joins
      cases isFinal
    · rw [concat_eq_append, ← cons_append, ← append_assoc] at split
      obtain ⟨rfl, _⟩ := append_inj' split rfl
      rw [same] at streams ⊢
      refine flow.waiting _ (final :: (others ++ [.stream joined])) live done ?_ streams rfl isFinal ?_
        fun ev same => flow.source ev (congrArg some same)
      · rw [front]
        simp
      · intro oid mem
        simp only [mem_cons, mem_append, not_mem_nil, or_false] at mem ⊢
        tauto
  · rw [same] at streams ⊢
    refine flow.waiting _ (final :: (more ++ [.stream ev])) live done ?_ streams rfl isFinal ?_
      fun ev same => flow.source ev (congrArg some same)
    · rw [front, pending]
      simp
    · intro oid mem
      rw [pending]
      simp only [mem_cons, mem_append, not_mem_nil, or_false] at mem ⊢
      tauto

end

theorem enqueue_core {front : List DeliveryEvent} {handled core : List StreamEvent}
    (tot : front ++ pending = core.map .stream) (merged : Merged joinBodies handled core)
    (going : ∀ oid ∈ core, oid.isEnding = false) (ends : ev.isEnding = false) :
    ∃ nextCore, Merged joinBodies (handled ++ [ev]) nextCore ∧
      front ++ enqueuePendingDelivery pending (.stream ev) = nextCore.map .stream ∧
      ∀ oid ∈ nextCore, oid.isEnding = false := by
  rcases enqueue_cases pending ev with ⟨pre, last, joined, rfl, joins, same⟩ | same
  · rw [← append_assoc] at tot
    obtain ⟨early, _, rfl, early_eq, late_eq⟩ := map_eq_append_iff.mp tot.symm
    obtain ⟨_, rfl, own⟩ := map_eq_singleton_iff.mp late_eq
    cases own
    refine ⟨early ++ [joined], .join merged joins, ?_, ?_⟩
    · rw [same, map_append, early_eq, append_assoc]
      rfl
    · intro oid mem
      rcases mem_append.mp mem with old | new
      · exact going oid (mem_append_left _ old)
      · obtain ⟨_, _, _, _, -, -, rfl⟩ := joinBodies_some joins
        rw [mem_singleton.mp new]
        rfl
  · refine ⟨core ++ [ev], .push ev merged, ?_, ?_⟩
    · rw [same, ← append_assoc, tot, map_append]
      rfl
    · intro oid mem
      rcases mem_append.mp mem with old | new
      · exact going oid old
      · rw [mem_singleton.mp new]
        exact ends

section
variable (flow : Flow lane produced taken handled rest core tail)
include flow

theorem Flow.pend (live : lane.live = true)
    (hr : lane.running = true) (fst : lane.unread = ev :: more) (waits : lane.Waits) : Delivering { lane with
      unread := more, pending := enqueuePendingDelivery lane.pending (.stream ev) }
      produced taken := by
  have done := flow.done_of_waits live waits
  have sent := flow.supplied live done
  have streams := enqueue_streams ev flow.streams
  by_cases none_tail : tail = []
  · subst none_tail
    obtain ⟨same, _, mid, read, now, later⟩ := flow.next_phase live hr rfl fst
    cases ends : ev.isEnding with
    | true =>
      have closed := next_ended ends now
      rw [closed] at later
      obtain ⟨rfl, after⟩ := foldlM_closed later
      rw [enqueue_ending _ ends] at streams ⊢
      have wait := flow.waiting [] [.stream ev] live done ?_ streams rfl ends ?_ ?_
      · rw [← after] at wait
        exact wait
      · rw [← append_assoc, flow.total, append_nil]
      · intro oid mem
        exact mem_append_right _ mem
      · rintro _ ⟨⟩
        rw [flow.split, same]
        exact Or.inl (mem_append_right _ mem_cons_self)
    | false =>
      have carried : ∃ nextCore, Merged joinBodies (handled ++ [ev]) nextCore ∧
          lane.front taken ++ enqueuePendingDelivery lane.pending (.stream ev) =
            nextCore.map .stream ∧ ∀ oid ∈ nextCore, oid.isEnding = false :=
        enqueue_core (flow.total.trans (append_nil _)) flow.merged flow.going ends
      obtain ⟨nextCore, merged, tot, going⟩ := carried
      refine ⟨handled ++ [ev], more, nextCore, [], ?_⟩
      exact {
        total := by rw [append_nil]; exact tot
        split := by rw [flow.split, same, append_assoc, singleton_append]
        merged := merged
        going := going
        tailed := Or.inl rfl
        read := ⟨mid, foldlM_concat read now, fun _ _ _ => ⟨rfl, later⟩⟩
        gone := fun gone => absurd (live.symm.trans gone) (by decide)
        clean := fun _ => flow.clean live
        undone := fun _ undone => absurd (done.symm.trans undone) (by decide)
        early := by simp
        streams := streams
        supplied := flow.supplied
        carried := fun _ => sent
        source := by simp
        shut := fun _ _ some_tail => absurd rfl some_tail
        received := flow.received
        fresh := fun unopened => absurd ((flow.opened live).symm.trans unopened) (by decide) }
  · have shut := flow.shut live hr none_tail
    have pended := flow.pend_tail ev more live done none_tail
    rw [← shut] at pended
    exact pended

theorem Flow.violatePend (rsn : ResetReason) (live : lane.live = true) (waits : lane.Waits) : Delivering { lane with
      phase := .closed
      pending := enqueuePendingDelivery lane.pending (.stream (.ending (.reset rsn))) }
      produced taken := by
  have done := flow.done_of_waits live waits
  by_cases none_tail : tail = []
  · subst none_tail
    have streams := enqueue_streams (.ending (.reset rsn)) flow.streams
    rw [enqueue_ending _ rfl] at streams ⊢
    refine flow.waiting lane.unread [.stream (.ending (.reset rsn))] live done ?_ streams rfl rfl ?_ ?_
    · rw [← append_assoc, flow.total, append_nil]
    · intro oid mem
      exact mem_append_right _ mem
    · rintro _ ⟨⟩
      exact Or.inr ⟨_, rfl⟩
  · exact flow.pend_tail _ lane.unread live done none_tail

section
variable (live : lane.live = true)
include live

theorem Flow.flush {ev : DeliveryEvent} (fst : lane.pending = ev :: others) (going : ev.ends = false) :
    Delivering ({ lane with pending := others }.push ev) produced taken := by
  have done := flow.done_of_waits live (Or.inl (by simp [fst]))
  have plain : ev.isFinal = false := by
    obtain ⟨_, rfl⟩ := flow.streams ev (by simp [fst])
    rw [ends_stream] at going
    exact going
  refine ⟨handled, rest, core, tail, ?_⟩
  exact { flow with
    total := by
      rw [front_push]
      simp only [DeliveryLane.push, append_assoc, singleton_append, ← fst]
      exact flow.total
    gone := fun gone => absurd (live.symm.trans gone) (by decide)
    clean := by
      intro _ oid mem
      rw [front_push] at mem
      rcases mem_append.mp mem with old | new
      · exact flow.clean live oid old
      · rw [mem_singleton.mp new]
        exact plain
    undone := fun _ undone => absurd (done.symm.trans undone) (by decide)
    streams := fun oid mem => flow.streams oid (by rw [fst]; exact mem_cons_of_mem _ mem)
    fresh := fun unopened => absurd ((flow.opened live).symm.trans unopened) (by decide) }

theorem Flow.flushEnd {ev : DeliveryEvent} (fst : lane.pending = ev :: others)
    (ends : ev.ends = true) : Delivering (lane.dropped.push ev) produced taken := by
  obtain ⟨stream, rfl⟩ := flow.streams ev (by simp [fst])
  rw [ends_stream] at ends
  obtain ⟨early, late, core_split, front, pending⟩ := flow.tail_pending live
  have none_late : late = [] := by
    cases late with
    | nil => rfl
    | cons oid late =>
      rw [fst] at pending
      cases pending
      rw [flow.going stream (by rw [core_split]; simp)] at ends
      cases ends
  subst none_late
  have head : tail.head? = some (.stream stream) := by
    rw [map_nil, nil_append, fst] at pending
    rw [← pending]
    rfl
  refine flow.depart [.stream stream] rfl rfl (flow.opened live) rfl core_split ?_ (by simp)
    (by simpa [isFinal_stream] using ends) (by simp) (by simpa using flow.source stream head)
  rw [front_push, front_dropped, front]

theorem Flow.drop : Delivering lane.dropped produced taken := by
  obtain ⟨_, _, core_split, front, -⟩ := flow.tail_pending live
  refine flow.quit rfl rfl (flow.opened live) rfl core_split ?_
  rw [front_dropped, front]

/-- A final event of the coordinator's own ends the lane. -/
theorem Flow.last {ev : DeliveryEvent} (isFinal : ev.isFinal = true)
    (own : ∀ stream, ev = .stream stream → ∃ how, stream = .ending how)
    (alone : ∀ head, ev = .earlyFinal head → lane.done = false) :
    Delivering (lane.dropped.push ev) produced taken := by
  obtain ⟨_, _, core_split, front, -⟩ := flow.tail_pending live
  refine flow.depart [ev] rfl rfl (flow.opened live) rfl core_split ?_ (by simp) ?_ ?_ ?_
  · rw [front_push, front_dropped, front]
  · intro oid mem
    rw [mem_singleton.mp mem]
    exact isFinal
  · intro head mem
    have undone := alone head (mem_singleton.mp mem).symm
    have none_core := (flow.core_nil_of_undone live undone).1
    rw [core_split] at none_core
    exact (append_eq_nil_iff.mp none_core).1
  · intro stream mem
    exact Or.inr (own stream (mem_singleton.mp mem).symm)

end

theorem Flow.stop (now : StreamPhase) :
    Delivering { lane with running := false, phase := now, unread := [] } produced taken := by
  obtain ⟨ph, read, -⟩ := flow.read
  exact ⟨handled, rest, core, tail, { flow with
    read := ⟨ph, read, fun _ hr => by cases hr⟩
    shut := fun _ hr => by cases hr }⟩

theorem Flow.produce {es : List StreamEvent} (live : lane.live = true) (hr : lane.running = true)
    (calm : lane.unread = []) (reads : es.foldlM StreamPhase.next lane.phase = some ph) :
    Delivering { lane with unread := es, phase := ph } (produced ++ es) taken := by
  obtain ⟨mid, read, listening⟩ := flow.read
  have source (ev : StreamEvent) (same : tail.head? = some (.stream ev)) :=
    (flow.source ev same).imp_left (mem_append_left es)
  have unopened {goal : Prop} (fresh : lane.opened = false) : goal :=
    absurd ((flow.opened live).symm.trans fresh) (by decide)
  by_cases none_tail : tail = []
  · obtain ⟨same, now⟩ := listening live hr none_tail
    rw [calm] at same now
    cases now
    refine ⟨handled, es, core, tail, { flow with
      split := ?_
      read := ⟨_, read, fun _ _ _ => ⟨rfl, reads⟩⟩
      source := source
      shut := fun _ _ some_tail => absurd none_tail some_tail
      fresh := fun fresh => unopened fresh }⟩
    · rw [flow.split, same, append_nil]
  · have closed := flow.shut live hr none_tail
    rw [closed] at reads
    obtain ⟨rfl, rfl⟩ := foldlM_closed reads
    refine ⟨handled, rest, core, tail, { flow with
      split := by rw [append_nil]; exact flow.split
      read := ⟨mid, read, fun _ _ nothing => absurd nothing none_tail⟩
      source := source
      shut := fun _ _ _ => rfl
      fresh := fun fresh => unopened fresh }⟩

theorem Flow.ignore (es : List StreamEvent) (opened : lane.opened = true) (gone : lane.receiving = false) :
    Delivering lane (produced ++ es) taken := by
  obtain ⟨mid, read, -⟩ := flow.read
  have dead {goal : Prop} (live : lane.live = true) : goal :=
    absurd ((flow.received live).symm.trans gone) (by decide)
  exact ⟨handled, rest ++ es, core, tail, { flow with
    split := by rw [flow.split, append_assoc]
    read := ⟨mid, read, fun live => dead live⟩
    source := fun ev same => (flow.source ev same).imp_left (mem_append_left _)
    fresh := fun fresh => absurd (opened.symm.trans fresh) (by decide) }⟩

theorem Flow.complete (sent : lane.sent = true) : Delivering { lane with done := true } produced taken :=
  ⟨handled, rest, core, tail, { flow with
    undone := fun _ undone => by cases undone
    supplied := fun _ _ => sent }⟩

theorem Flow.supply : Delivering { lane with sent := true } produced taken :=
  ⟨handled, rest, core, tail, { flow with
    supplied := fun _ _ => rfl
    carried := fun _ => rfl }⟩

theorem Flow.along (front : next.front nextTaken = lane.front taken)
    (same : next = { lane with delivery := next.delivery, holding := next.holding }) :
    Delivering next produced nextTaken := by
  rw [same] at front ⊢
  exact ⟨handled, rest, core, tail, {
    total := by rw [front]; exact flow.total
    split := flow.split
    merged := flow.merged
    going := flow.going
    tailed := flow.tailed
    read := flow.read
    gone := flow.gone
    clean := by rw [front]; exact flow.clean
    undone := by rw [front]; exact flow.undone
    early := flow.early
    streams := flow.streams
    supplied := flow.supplied
    carried := flow.carried
    source := flow.source
    shut := flow.shut
    received := flow.received
    fresh := by rw [front]; exact flow.fresh }⟩

theorem stream_isFinal_false : ∀ ev ∈ core.map DeliveryEvent.stream, ev.isFinal = false := by
  intro ev mem
  obtain ⟨stream, inside, rfl⟩ := mem_map.mp mem
  exact flow.going stream inside

/-- A final event that was delivered is the last delivery. -/
theorem Flow.final_last {pre after : List DeliveryEvent} {ev : DeliveryEvent}
    (split : lane.front taken = pre ++ ev :: after) (isFinal : ev.isFinal = true) :
    lane.live = false ∧ lane.pending = [] ∧ lane.opened = true ∧ after = [] ∧ pre = core.map .stream ∧
      tail = [ev] := by
  have gone : lane.live = false := by
    rw [← Bool.not_eq_true]
    intro live
    rw [flow.clean live ev (by rw [split]; simp)] at isFinal
    cases isFinal
  have opened : lane.opened = true := by
    rw [← Bool.not_eq_false]
    intro unopened
    rw [(flow.fresh unopened).2.1] at split
    simp at split
  obtain ⟨pending, short⟩ := flow.gone gone
  have tot := flow.total
  rw [pending, append_nil, split] at tot
  -- The final event is not one of the core, so it is the one of the tail.
  have outside : ev ∉ core.map DeliveryEvent.stream := fun inside => by
    rw [stream_isFinal_false flow ev inside] at isFinal
    cases isFinal
  have last : ev ∈ tail := by
    have mem : ev ∈ core.map DeliveryEvent.stream ++ tail := tot ▸ by simp
    exact (mem_append.mp mem).resolve_left outside
  obtain ⟨only, rfl⟩ := length_eq_one_iff.mp (Nat.le_antisymm short (length_pos_of_mem last))
  obtain rfl := mem_singleton.mp last
  rcases eq_nil_or_concat after with rfl | ⟨others, final, rfl⟩
  · exact ⟨gone, pending, opened, rfl, (append_inj' tot rfl).1, rfl⟩
  · rw [concat_eq_append, ← List.cons_append, ← append_assoc] at tot
    have whole := (append_inj' tot rfl).1
    exact absurd (whole ▸ by simp) outside

/-- What was taken is a front of the core, or the core and its final event. -/
theorem Flow.taken_cases : (∃ early late, core = early ++ late ∧ taken = early.map .stream) ∨
    ∃ ev, ev.isFinal = true ∧ taken = core.map .stream ++ [ev] ∧ tail = [ev] := by
  by_cases clean : ∀ ev ∈ taken, ev.isFinal = false
  · have tot : taken ++ (lane.holding.toList.map .stream ++ lane.delivery ++ lane.pending) =
        core.map .stream ++ tail := by
      rw [← flow.total]
      simp [DeliveryLane.front]
    obtain ⟨early, late, core_split, same, -⟩ := split_clean clean flow.tailed tot
    exact Or.inl ⟨early, late, core_split, same⟩
  · simp only [not_forall, Bool.not_eq_false] at clean
    obtain ⟨ev, mem, isFinal⟩ := clean
    obtain ⟨pre, after, rfl⟩ := append_of_mem mem
    have split : lane.front (pre ++ ev :: after) = pre ++ ev ::
        (after ++ lane.holding.toList.map .stream ++ lane.delivery) := by
      simp [DeliveryLane.front]
    obtain ⟨-, -, -, none_left, rfl, only⟩ := flow.final_last split isFinal
    rw [append_assoc] at none_left
    obtain ⟨rfl, -⟩ := append_eq_nil_iff.mp none_left
    exact Or.inr ⟨ev, isFinal, rfl, only⟩

theorem Flow.takeUnknown (free : lane.holding = none) (fst : lane.delivery = .certificateUnknown :: others) :
    Delivering { lane with delivery := others } produced taken := by
  have split : lane.front taken = taken ++ .certificateUnknown :: others := by simp [DeliveryLane.front, free, fst]
  obtain ⟨gone, pending, opened, rfl, whole, -⟩ := flow.final_last split rfl
  refine flow.quit gone pending opened rfl (append_nil core).symm ?_
  simp [DeliveryLane.front, free, whole]

theorem Flow.abandon (unsent : lane.sent = false) : Delivering { lane with holding := none } produced taken := by
  cases holding : lane.holding with
  | none =>
    refine flow.along ?_ rfl
    simp [DeliveryLane.front, holding]
  | some ev =>
    have none_core : core = [] := by
      by_contra some_core
      rw [flow.carried some_core] at unsent
      cases unsent
    have split : lane.front taken = taken ++ .stream ev :: lane.delivery := by simp [DeliveryLane.front, holding]
    have isFinal : ev.isEnding = true := by
      rw [← Bool.not_eq_false]
      intro going
      -- Nothing but a final event can be delivered before the body is sent.
      cases live : lane.live with
      | true =>
        obtain ⟨_, _, core_split, front, -⟩ := flow.tail_pending live
        rw [none_core] at core_split
        obtain ⟨rfl, -⟩ := append_eq_nil_iff.mp core_split.symm
        rw [split] at front
        simp at front
      | false =>
        obtain ⟨pending, short⟩ := flow.gone live
        have tot := flow.total
        rw [split, pending, none_core, map_nil, nil_append, append_nil] at tot
        rcases flow.tailed with rfl | ⟨final, more, rfl, isFinal⟩
        · simp at tot
        · cases taken with
          | nil =>
            rw [← (List.cons.inj tot).1] at isFinal
            rw [isFinal_stream, going] at isFinal
            cases isFinal
          | cons fst taken =>
            rw [← tot] at short
            simp at short
    obtain ⟨gone, pending, opened, none_left, whole, -⟩ := flow.final_last split isFinal
    refine flow.quit gone pending opened rfl (append_nil core).symm ?_
    simp [DeliveryLane.front, none_left, whole]

theorem Flow.close (opened : lane.opened = true) :
    Delivering { lane.dropped with receiving := false, delivery := [], holding := none } produced taken := by
  have front : ({ lane.dropped with
      receiving := false, delivery := [], holding := none } : DeliveryLane).front taken = taken := by
    simp [DeliveryLane.front]
  rcases flow.taken_cases with ⟨_, _, core_split, same⟩ | ⟨ev, isFinal, whole, only⟩
  · exact flow.quit rfl rfl opened rfl core_split (front.trans same)
  · refine flow.depart [ev] rfl rfl opened rfl (append_nil core).symm (front.trans whole) (by simp) ?_ ?_ ?_
    · intro oid own
      rw [mem_singleton.mp own]
      exact isFinal
    · intro head own
      exact (flow.early head (by rw [only]; exact own)).1
    · intro stream own
      exact flow.source stream (by rw [only, mem_singleton.mp own]; rfl)

theorem Flow.opens (sent : Bool) (unopened : lane.opened = false) :
    Delivering { opened := true, live := true, running := lane.running, sent := sent } produced taken := by
  obtain ⟨-, front, rfl⟩ := flow.fresh unopened
  obtain ⟨rfl, -⟩ : taken = [] ∧ lane.holding.toList.map DeliveryEvent.stream = [] :=
    append_eq_nil_iff.mp (append_eq_nil_iff.mp front).1
  exact ⟨[], [], [], [], {
    total := rfl
    split := rfl
    merged := .nil
    going := by simp
    tailed := Or.inl rfl
    read := ⟨.opening, rfl, fun _ _ _ => ⟨rfl, rfl⟩⟩
    gone := fun gone => by cases gone
    clean := by simp [DeliveryLane.front]
    undone := fun _ _ => ⟨rfl, rfl⟩
    early := by simp
    streams := by simp
    supplied := fun _ done => by cases done
    carried := fun some_core => absurd rfl some_core
    source := by simp
    shut := fun _ _ some_tail => absurd rfl some_tail
    received := fun _ => rfl
    fresh := fun fresh => by cases fresh }⟩

end

end

/-- Every move of a lane keeps what it delivers a merging of what was produced. -/
theorem Delivering.step {lane : DeliveryLane} {label : DeliveryLabel}
    {produced : List StreamEvent} {taken : List DeliveryEvent}
    (delivering : Delivering lane produced taken) (step : DeliveryStep lane label next) :
    Delivering next (produced ++ label.produced) (taken ++ label.taken) := by
  obtain ⟨_, _, _, _, flow⟩ := delivering
  cases step with
  | produce _ _ live hr calm read =>
    rw [append_nil]
    exact flow.produce live hr calm read
  | ignore es opened gone =>
    rw [append_nil]
    exact flow.ignore es opened gone
  | takeEarly _ _ free fst =>
    rw [append_nil]
    refine flow.along ?_ rfl
    simp [DeliveryLane.front, free, fst]
  | returns _ held =>
    rw [append_nil]
    refine flow.along ?_ rfl
    simp [DeliveryLane.front, held]
  | opens sent unopened =>
    rw [append_nil, append_nil]
    exact flow.opens sent unopened
  | stop ph =>
    rw [append_nil, append_nil]
    exact flow.stop ph
  | drop live =>
    rw [append_nil, append_nil]
    exact flow.drop live
  | early _ _ _ live undone =>
    rw [append_nil, append_nil]
    exact flow.last live rfl (by rintro _ ⟨⟩) (fun _ _ => undone)
  | pend _ _ live hr fst waits =>
    rw [append_nil, append_nil]
    exact flow.pend live hr fst waits
  | send _ _ live hr fst clear late going =>
    rw [append_nil, append_nil]
    exact flow.send live hr fst clear late going
  | finish _ _ live hr fst clear ends =>
    rw [append_nil, append_nil]
    exact flow.finish live hr fst clear ends
  | violatePend rsn live _ waits =>
    rw [append_nil, append_nil]
    exact flow.violatePend rsn live waits
  | violate _ live =>
    rw [append_nil, append_nil]
    exact flow.last live rfl (by rintro _ ⟨⟩; exact ⟨_, rfl⟩) (by simp)
  | flush _ _ live fst going =>
    rw [append_nil, append_nil]
    exact flow.flush live fst going
  | flushEnd _ _ live fst ends =>
    rw [append_nil, append_nil]
    exact flow.flushEnd live fst ends
  | last _ live how =>
    rw [append_nil, append_nil]
    rcases how with rfl | rfl
    · exact flow.last live rfl (by rintro _ ⟨⟩; exact ⟨_, rfl⟩) (by simp [Coordinator.fanoutEof])
    · exact flow.last live rfl (by rintro _ ⟨⟩) (by simp)
  | complete _ sent =>
    rw [append_nil, append_nil]
    exact flow.complete sent
  | supply =>
    rw [append_nil, append_nil]
    exact flow.supply
  | takeEvent _ _ free fst =>
    rw [append_nil, append_nil]
    refine flow.along ?_ rfl
    simp [DeliveryLane.front, free, fst]
  | takeUnknown _ free fst =>
    rw [append_nil, append_nil]
    exact flow.takeUnknown free fst
  | abandon unsent =>
    rw [append_nil, append_nil]
    exact flow.abandon unsent
  | close opened =>
    rw [append_nil, append_nil]
    exact flow.close opened

theorem delivering_unopened (hr : Bool) : Delivering { running := hr } [] [] := by
  refine ⟨[], [], [], [], ?_⟩
  exact {
    total := rfl
    split := rfl
    merged := .nil
    going := by simp
    tailed := Or.inl rfl
    read := ⟨.opening, rfl, fun live => by cases live⟩
    gone := fun _ => ⟨rfl, by simp⟩
    clean := fun live => by cases live
    undone := fun live => by cases live
    early := by simp
    streams := by simp
    supplied := fun live => by cases live
    carried := fun some_core => absurd rfl some_core
    source := by simp
    shut := fun live => by cases live
    received := fun live => by cases live
    fresh := fun _ => ⟨rfl, rfl, rfl⟩ }

end SplRust.Transport
