import SplRust.Lib.Numbered
import SplRust.Transport.UploadEffects
import SplRust.Transport.UploadSchedule

/-! The upload schedule along whole runs of the coordinator: which frames of a stream reach
the writer, and in which order, while the coordinator is running. -/

namespace SplRust.Transport
open SplRust.Lib SplRust.Core List

namespace CoordinatorPhase

/-- Not yet torn down. -/
def running : CoordinatorPhase → Bool
  | failing _ | stopping _ | draining _ _ | stopped => false
  | _ => true

/-- The stream that `receive_body` is feeding. -/
def busy : CoordinatorPhase → Option UInt32
  | receiving (sid :: _) => some sid
  | _ => none

/-- The events that `handle_read` has still to handle. -/
def unread : CoordinatorPhase → List (UInt32 × StreamEvent)
  | reading out => out.streamEvents
  | _ => []

end CoordinatorPhase

namespace Coordinator

def Sound (coord : Coordinator) : Prop :=
  coord.phase.running = true → coord.Scheduled coord.phase.busy coord.phase.unread

section
variable {ph : CoordinatorPhase} {sid : UInt32}
variable {coord next : Coordinator} {busy : Option UInt32} {unread : List (UInt32 × StreamEvent)}

theorem Scheduled.setPhase (sched : coord.Scheduled busy unread)
    (ph : CoordinatorPhase) : (coord.setPhase ph).Scheduled busy unread :=
  sched.frame rfl rfl rfl rfl (fun _ silent => silent) fun _ => rfl

theorem sound_setPhase (sched : ph.running = true → coord.Scheduled ph.busy ph.unread) :
    (coord.setPhase ph).Sound :=
  fun hr => (sched hr).setPhase ph

theorem sound_settled {res : Outcome}
    (sched : ∀ next, res = (next, .ok ()) → next.Scheduled ph.busy ph.unread) :
    (settled res ph).Sound := by
  obtain ⟨after, ans⟩ := res
  cases ans with
  | error =>
    intro hr
    cases hr
  | ok => exact sound_setPhase fun _ => sched after rfl

theorem Scheduled.read {data : Bytes} {dm : CarrierDemux} {out : DemuxOutput} (sched : coord.Scheduled none [])
    (fed : coord.demux.feed data = (dm, .ok out)) :
    ({ coord with demux := dm } : Coordinator).Scheduled none out.streamEvents where
  dialer := sched.dialer
  entry sid s present := by
    have entry := sched.entry sid s present
    refine { entry with awaiting := ?_ }
    intro undone
    obtain ⟨clear, silent, listening⟩ := entry.awaiting undone
    refine ⟨clear, silent, ?_⟩
    have opening : StreamPhase.opening = .of (coord.demux.streams.lookup sid) := Option.some.inj listening
    rw [opening]
    exact (CarrierDemux.feed_lifecycle sid fed).1
  allocated := sched.allocated
  ordered := sched.ordered

theorem not_isBody_of_listening {ev : StreamEvent} {es : List StreamEvent} {ph : StreamPhase}
    (listening : (ev :: es).foldlM StreamPhase.next .opening = some ph) : ev.isBody = false := by
  obtain ⟨item, _⟩ := ev
  cases item with
  | head | ended => rfl
  | body => cases listening

theorem Scheduled.event {ev : StreamEvent} (sched : coord.Scheduled none ((sid, ev) :: unread))
    (eff : DeliverEffect coord sid ev (next, .ok ())) :
    next.Scheduled none unread ∧ ∀ s, next.streams.lookup sid = some s → s.upload.isDone = true := by
  refine sched.deliver (.refl _ _) rfl rfl rfl ?_ ?_ eff
  · intro other ne
    rw [eventsOf_cons, if_neg ne.symm]
  · intro s present undone
    have listening := ((sched.entry _ _ present).awaiting undone).listening
    rw [eventsOf_cons, if_pos rfl] at listening
    exact not_isBody_of_listening listening

theorem Scheduled.readTurn {out rest : DemuxOutput} (sched : coord.Scheduled none out.streamEvents)
    (eff : ReadEffect coord out rest (next, .ok ())) : next.Scheduled none rest.streamEvents := by
  cases eff with
  | pong _ _ _ _ sent | frame _ _ _ _ sent =>
    rw [sent.ok]
    exact sched.pushPacket _
  | nonce =>
    unfold receivePong
    split
    · exact sched.frame rfl rfl rfl rfl (fun _ silent => silent) fun _ => rfl
    · exact sched
  | grant _ _ _ _ _ _ granted => exact sched.grant granted
  | event _ event _ _ _ fst _ delivered =>
    rw [fst] at sched
    exact (sched.event delivered).1

theorem consume_phases {dm next : CarrierDemux} {bs : Nat} {res : Except (Failure MuxError) (Option Bytes)}
    (consumed : dm.consume sid bs = (next, res)) (other : UInt32) :
    StreamPhase.of (next.streams.lookup other) = .of (dm.streams.lookup other) := by
  rcases dm.consume_cases sid bs with ⟨-, same⟩ | ⟨st, -, -, same⟩ |
    ⟨st, win, grant, present, -, same⟩
  · cases same.symm.trans consumed
    rfl
  · cases same.symm.trans consumed
    rfl
  · cases same.symm.trans consumed
    by_cases own : other = sid
    · subst own
      simp only [Finmap.lookup_insert, present, StreamPhase.of]
    · simp only [Finmap.lookup_insert_of_ne _ own]

section
variable (sched : coord.Scheduled busy unread)
include sched

theorem Scheduled.consume {bs : Nat} (eff : ConsumeEffect coord sid bs (next, .ok ())) :
    next.Scheduled busy unread := by
  cases eff with
  | quiet _ _ consumed =>
    obtain ⟨_, consumed, -⟩ := consumed
    exact sched.frame rfl rfl rfl rfl (fun _ silent => silent) (consume_phases consumed)
  | granted _ frame consumed _ sent =>
    rw [sent.ok]
    exact sched.frame rfl rfl rfl rfl (fun _ silent => silent) (consume_phases consumed)

theorem Scheduled.keepalive {ans : Except TransportError Unit} (eff : KeepaliveEffect coord (next, ans)) :
    next.Scheduled busy unread := by
  cases eff with
  | quiet | probed => exact sched.frame rfl rfl rfl rfl (fun _ silent => silent) fun _ => rfl

theorem Scheduled.writes (eff : WriterEffect coord next) : next.Scheduled busy unread := by
  have ret (leases : List BodyLease) : (returnPermits coord.channels leases).length =
      coord.channels.length := length_of_deliveries (returnPermits_deliveries _ _)
  have unseen (leases : List BodyLease) (ticket : Nat) (silent : Silent coord.channels ticket) :
      Silent (returnPermits coord.channels leases) ticket :=
    silent.congr (returnPermits_deliveries _ _)
  cases eff with
  | took => exact sched.frame rfl rfl rfl rfl (fun _ silent => silent) fun _ => rfl
  | wrote | failed | closed => exact sched.frame rfl rfl rfl (ret _) (unseen _) fun _ => rfl

theorem Scheduled.acts {ticket : Nat} {call : LocalCall} {entry : StreamChannels} {acted : StreamChannels × LocalReply}
    (there : coord.channels[ticket]? = some entry) (did : entry.localStep ticket call = some acted) :
    ({ coord with channels := coord.channels.set ticket acted.1 } : Coordinator).Scheduled busy unread := by
  refine sched.frame rfl rfl rfl length_set ?_ fun _ => rfl
  intro other silent after fnd
  rcases of_getElem?_set fnd with ⟨rfl, rfl⟩ | ⟨-, pre⟩
  · exact localStep_silent did (silent entry there)
  · exact silent after pre

/-- Ids are handed out in order, as long as they do not come round. -/
theorem Scheduled.fresh (few : coord.channels.length < 2 ^ 31) :
    coord.dialer.next.toNat = 2 * coord.channels.length + 1 ∧ coord.streams.lookup coord.dialer.next = none := by
  have number : coord.dialer.next.toNat = 2 * coord.channels.length + 1 := by
    rw [sched.dialer, UInt32.toNat_ofNat']
    omega
  refine ⟨number, ?_⟩
  cases present : coord.streams.lookup coord.dialer.next with
  | none => rfl
  | some s =>
    have entry := sched.entry _ _ present
    have old := entry.number
    have bounded := entry.ticket
    omega

end

def openedState (coord : Coordinator) (method target : Text) (headers : Headers)
    (declaredBodyLen : Nat) : StreamState where
  ticket := coord.channels.length
  upload := .new coord.dialer.next (buildRequestHead method target headers declaredBodyLen)
    declaredBodyLen
  declaredBodyLen := declaredBodyLen

theorem openStreamOnCarrier_eq (method target : Text) (headers : Headers) (len : Nat)
    (missing : coord.streams.lookup coord.dialer.next = none) :
    coord.openStreamOnCarrier method target headers len = { coord.setStream coord.dialer.next
          (coord.openedState method target headers len) with
        dialer := ⟨coord.dialer.next + 2⟩
        demux := coord.demux.openStream coord.dialer.next
        ready := coord.ready ++ [coord.dialer.next]
        channels := coord.channels ++ [{ streamId := coord.dialer.next, declaredBodyLen := len }] } := by
  simp only [openStreamOnCarrier, FrameDialer.allocate, missing, openedState]

theorem silent_append {chs : List StreamChannels} {ticket : Nat} {entry : StreamChannels}
    (bounded : ticket < chs.length) (silent : Silent chs ticket) : Silent (chs ++ [entry]) ticket := by
  intro fnd there
  rw [getElem?_append_left bounded] at there
  exact silent fnd there

theorem Scheduled.opens {method target : Text} {headers : Headers} {len : Nat}
    (sched : coord.Scheduled none []) (few : coord.channels.length < 2 ^ 31) :
    (coord.openStreamOnCarrier method target headers len).Scheduled none [] := by
  obtain ⟨number, missing⟩ := sched.fresh few
  have unlisted : ∀ other ∈ coord.ready, other.toNat < coord.dialer.next.toNat := by
    rw [number]
    exact sched.allocated
  have abs : coord.dialer.next ∉ coord.ready := by
    intro mem
    exact absurd (unlisted _ mem) (Nat.lt_irrefl _)
  rw [openStreamOnCarrier_eq method target headers len missing]
  have others (other : UInt32) (ne : other ≠ coord.dialer.next) : (coord.streams.insert coord.dialer.next
        (coord.openedState method target headers len)).lookup other =
          coord.streams.lookup other := Finmap.lookup_insert_of_ne _ ne
  refine ⟨?_, ?_, ?_, ?_⟩
  · apply UInt32.toNat_inj.mp
    simp only [length_append, length_singleton, UInt32.toNat_add, number, UInt32.toNat_ofNat']
    have two : (2 : UInt32).toNat = 2 := rfl
    rw [two]
    congr 1
  · intro other s present
    by_cases same : other = coord.dialer.next
    · subst same
      obtain rfl := Option.some.inj ((lookup_setStream _ _ _).symm.trans present)
      exact {
        number := number
        ticket := by simp [openedState]
        own := rfl
        declared := rfl
        unopened := fun _ => ⟨rfl, by
          simpa [openedState, WindowedUpload.new, WindowedUpload.headRemaining] using
            length_pos_iff.mpr (buildRequestHead_ne_nil method target headers len),
          (by decide : 0 < initialWindow)⟩
        queued := by
          rw [count_append, count_eq_zero_of_not_mem abs, count_singleton_self]
          rfl
        polled := fun _ => Or.inl rfl
        awaiting := fun _ => ⟨rfl, by
          intro entry there
          simp only [openedState, getElem?_concat_length, Option.some.injEq] at there
          subst there
          rfl, by
          simp only [CarrierDemux.openStream, Finmap.lookup_insert]
          rfl⟩ }
    · have there := (others other same).symm.trans present
      have entry := sched.entry other s there
      exact {
        number := entry.number
        ticket := by
          rw [length_append]
          exact Nat.lt_add_right _ entry.ticket
        own := entry.own
        declared := entry.declared
        unopened := entry.unopened
        queued := by
          rw [count_append, count_singleton, if_neg (by simpa using Ne.symm same)]
          exact entry.queued
        polled := entry.polled
        awaiting := fun undone => ⟨(entry.awaiting undone).clear,
          silent_append entry.ticket (entry.awaiting undone).silent, by
          simp only [CarrierDemux.openStream, Finmap.lookup_insert_of_ne _ same]
          exact (entry.awaiting undone).listening⟩ }
  · intro other mem
    rw [length_append, length_singleton]
    rcases mem_append.mp mem with old | new
    · have bounded := sched.allocated other old
      omega
    · rw [mem_singleton.mp new, number]
      omega
  · rw [filter_append, pairwise_append]
    refine ⟨?_, List.Pairwise.sublist filter_sublist (pairwise_singleton _ _), ?_⟩
    · refine Eq.mpr (congrArg _ (filter_congr ?_)) sched.ordered
      intro other mem
      have ne : other ≠ coord.dialer.next := fun same => abs (same ▸ mem)
      simp only [unopened, setStream, others other ne]
    · intro fst old snd new
      rw [mem_singleton.mp (mem_of_mem_filter new)]
      exact unlisted fst (mem_of_mem_filter old)

section
variable (sound : coord.Sound) (inside : coord.phase = ph) (hr : ph.running = true)
include sound inside hr

theorem Sound.within : coord.Scheduled ph.busy ph.unread := by
  subst inside
  exact sound hr

theorem Sound.calm (busy : ph.busy = none) (unread : ph.unread = []) : coord.Scheduled none [] := by
  have sched := sound.within inside hr
  rwa [busy, unread] at sched

end

theorem Sound.step {call : CoordinatorCall} {rep : CoordinatorReply} (sound : coord.Sound)
    (few : coord.channels.length < 2 ^ 31) (eff : StepEffect coord call next rep) : next.Sound := by
  cases eff with
  | moves _ _ moves =>
    refine sound_setPhase fun hr => ?_
    cases moves with
    | receives streamIds idle =>
      have unread : (CoordinatorPhase.receiving streamIds).unread = [] := rfl
      rw [unread]
      exact (sound.within idle rfl).exempt
    | received at_end | replied _ _ at_end | collected _ at_end | flushed at_end | pumped at_end =>
      exact sound.calm at_end rfl rfl rfl
    | _ => cases hr
  | read _ _ _ idle _ _ fed => exact sound_setPhase fun _ => (sound.within idle rfl).read fed
  | unread | openFailed | fanout => exact sound_setPhase fun hr => by cases hr
  | opens _ _ _ _ idle => exact sound_setPhase fun _ => (sound.within idle rfl).opens few
  | consumes _ _ _ idle eff =>
    refine sound_settled fun after done => ?_
    subst done
    exact (sound.within idle rfl).consume eff
  | cancels _ _ idle eff | unreplied _ _ _ idle eff =>
    refine sound_settled fun after done => ?_
    subst done
    exact (sound.within idle rfl).reset eff
  | drained idle =>
    exact sound_setPhase fun _ => (sound.within idle rfl).frame rfl rfl rfl rfl (fun _ silent => silent) fun _ => rfl
  | ticks _ _ idle eff =>
    refine sound_settled fun after done => ?_
    subst done
    exact (sound.within idle rfl).keepalive eff
  | readDone out at_end handled =>
    refine sound_setPhase fun _ => ?_
    have sched : coord.Scheduled none out.streamEvents := sound.within at_end rfl
    rw [handled.2.2.2] at sched
    exact sched.frame rfl rfl rfl rfl (fun _ silent => silent) fun _ => rfl
  | readTurn _ _ _ inside eff =>
    refine sound_settled fun after done => ?_
    subst done
    exact (sound.within inside rfl).readTurn eff
  | receiveTurn _ _ _ _ inside eff =>
    refine sound_settled fun after done => ?_
    subst done
    refine (sound.within inside rfl).receive eff ?_
    intro going
    rw [going]
    rfl
  | pumpTurn _ inside eff =>
    refine sound_settled fun after done => ?_
    subst done
    rcases inside with pumping | ⟨ticket, sid, opening, -⟩
    · rw [pumping]
      exact (sound.within pumping rfl).pump eff
    · rw [opening]
      exact (sound.within opening rfl).pump eff
  | flushTurn _ _ _ _ inside eff =>
    refine sound_settled fun after done => ?_
    subst done
    exact (sound.within inside rfl).flush eff
  | writes _ _ eff =>
    have same : next.phase = coord.phase := by
      cases eff with
      | _ => rfl
    intro hr
    rw [same] at hr ⊢
    exact (sound hr).writes eff
  | acts _ _ _ there _ did =>
    intro hr
    exact (sound hr).acts there did

end

end Coordinator

end SplRust.Transport
