import SplRust.Home.AcceptorRun

/-! The events an acceptor reports for one stream, over a whole run: their order, and the
bytes they carry. -/

namespace SplRust.Home
open SplRust.Lib SplRust.Core List Option MuxStreams MuxAcceptor
variable {mux : MuxStreams} {delta : MuxOutput} {ph : EventPhase} {rep : AcceptorReply} {word : List MuxEvent}
  {sid : UInt32}

namespace MuxEvent

def streamId : MuxEvent → Option UInt32
  | .opened id => some id
  | .data id _ => some id
  | .readClosed id => some id
  | .reset id _ => some id
  | .peerGone _ => none

def bytes : MuxEvent → Bytes
  | .data _ bytes => bytes
  | _ => []

end MuxEvent

def MuxOutput.eventsOf (output : MuxOutput) (streamId : UInt32) : List MuxEvent :=
  output.events.filter fun event => event.streamId = some streamId

theorem MuxOutput.eventsOf_append (fst snd : MuxOutput) (sid : UInt32) :
    (fst ++ snd).eventsOf sid = fst.eventsOf sid ++ snd.eventsOf sid := by
  simp [MuxOutput.eventsOf]

/-- How far the events of a stream have come. -/
inductive EventPhase where
  | idle
  | reading
  | closing
  | ended
  deriving DecidableEq, Repr

namespace EventPhase

def next : EventPhase → MuxEvent → Option EventPhase
  | idle, .opened _ => some reading
  | reading, .data _ _ => some reading
  | reading, .readClosed _ => some closing
  | reading, .reset _ _ => some ended
  | closing, .readClosed _ => some closing
  | closing, .reset _ _ => some ended
  | _, _ => none

def of (stream : StreamState) : EventPhase := if stream.peerClosed then closing else reading

theorem next_reset (st : StreamState) (sid : UInt32) (rsn : ResetReason) :
    (of st).next (.reset sid rsn) = some ended := by
  unfold of
  split <;> rfl

theorem next_readClosed (st : StreamState) (sid : UInt32) : (of st).next (.readClosed sid) = some closing := by
  unfold of
  split <;> rfl

end EventPhase

/-- The events so far fit the acceptor's entry of the stream. An id without an entry is
either unused or below every id that can still be opened. -/
structure Follows (sid : UInt32) (phase : EventPhase) (mux : MuxStreams) : Prop where
  live : ∀ st, mux.streams.lookup sid = some st → phase = .of st
  gone : mux.streams.lookup sid = none → phase = .idle ∨ sid.toNat < mux.nextId

variable {next : MuxStreams}

theorem ItemEffect.events_own {item : WireItem} (eff : ItemEffect mux item next delta) :
    ∀ ev ∈ delta.events, ev.streamId = some item.streamId := by
  intro ev mem
  cases eff with
  | control | tolerated | credited => cases mem
  | refused _ _ _ named =>
    simp only [refusalOutput] at mem
    split at mem
    · rw [mem_singleton.mp mem, ← named]
      rfl
    · cases mem
  | opened =>
    simp only at mem
    split at mem <;> split at mem <;> simp at mem
    · rcases mem with rfl | rfl | rfl <;> rfl
    · rcases mem with rfl | rfl <;> rfl
    · rcases mem with rfl | rfl <;> rfl
    · rw [mem]
      rfl
  | data closes =>
    cases closes <;> simp at mem
    · rw [mem]
      rfl
    · rcases mem with rfl | rfl <;> rfl
  | closed | reset =>
    rw [mem_singleton.mp mem]
    rfl

theorem ItemEffect.eventsOf {item : WireItem} (eff : ItemEffect mux item next delta) (sid : UInt32) :
    delta.eventsOf sid = if item.streamId = sid then delta.events else [] := by
  unfold MuxOutput.eventsOf
  split
  next same =>
    apply filter_eq_self.mpr
    intro ev mem
    simp [eff.events_own ev mem, same]
  next ne =>
    apply filter_eq_nil_iff.mpr
    intro ev mem
    simp [eff.events_own ev mem, ne]

theorem ItemEffect.lookup_other {item : WireItem}
    (eff : ItemEffect mux item next delta) (ne : sid ≠ item.streamId) :
    next.streams.lookup sid = mux.streams.lookup sid := by
  cases eff with
  | control | tolerated => rfl
  | refused _ _ _ named =>
    rw [← named] at ne
    exact Finmap.lookup_erase_ne ne
  | opened => exact Finmap.lookup_insert_of_ne _ ne
  | _ => exact Table.lookup_assign_of_ne _ ne _

theorem Follows.dropped (abs : mux.streams.lookup sid = none)
    (used : sid.toNat < mux.nextId) : Follows sid ph mux where
  live st live := by
    rw [abs] at live
    cases live
  gone _ := Or.inr used

theorem Follows.silent (follows : Follows sid ph mux) (advances : mux.nextId ≤ next.nextId)
    (kept : (next.streams.lookup sid).map EventPhase.of =
      (mux.streams.lookup sid).map EventPhase.of) : Follows sid ph next := by
  constructor
  · intro st live
    rw [live] at kept
    cases pre : mux.streams.lookup sid with
    | none => simp [pre] at kept
    | some old =>
      rw [pre] at kept
      rw [follows.live old pre]
      exact (some.inj kept).symm
  · intro abs
    rw [abs] at kept
    have pre := map_eq_none_iff.mp kept.symm
    exact (follows.gone pre).imp_right fun used => used.trans_le advances

theorem Follows.assigned {en : Option StreamState} (used : sid.toNat < mux.nextId)
    (agrees : ∀ st, en = some st → ph = .of st) :
    Follows sid ph { mux with streams := Table.assign mux.streams sid en } where
  live st live := by
    rw [Table.lookup_assign] at live
    exact agrees st live
  gone _ := Or.inr used

theorem Follows.assign {oid : UInt32} {en : Option StreamState} {st : StreamState}
    (follows : Follows sid ph mux) (inv : mux.Inv) (live : mux.streams.lookup oid = some st)
    (agrees : ∀ next, en = some next → EventPhase.of st = .of next) :
    Follows sid ph { mux with streams := Table.assign mux.streams oid en } := by
  by_cases same : sid = oid
  · subst same
    apply Follows.assigned (inv.used live)
    intro next fnd
    exact (follows.live st live).trans (agrees next fnd)
  · exact follows.silent (Nat.le_refl _) (by rw [Table.lookup_assign_of_ne _ same])

theorem closedEntry_phase {st next : StreamState}
    (en : closedEntry st = some next) : EventPhase.closing = .of next := by
  unfold closedEntry at en
  split at en
  · cases en
  · cases en
    rfl

/-- The events of one item move the stream through its phases. -/
theorem Follows.item {item : WireItem}
    (follows : Follows sid ph mux) (inv : mux.Inv) (eff : ItemEffect mux item next delta) :
    ∃ after, (delta.eventsOf sid).foldlM EventPhase.next ph = some after ∧ Follows sid after next := by
  have advances := (Reports.item inv eff).advances
  rw [eff.eventsOf]
  by_cases ne : sid ≠ item.streamId
  · rw [if_neg (fun same => ne same.symm)]
    exact ⟨ph, rfl, follows.silent advances (by rw [eff.lookup_other ne])⟩
  have own : sid = item.streamId := not_not.mp ne
  rw [if_pos own.symm]
  subst own
  cases eff with
  | control | tolerated => exact ⟨ph, rfl, follows⟩
  | refused fnd refusalClass highWater named =>
    have abs : (mux.refused fnd.streamId refusalClass highWater).streams.lookup item.streamId = none := by
      rw [← named]
      exact Finmap.lookup_erase _ _
    simp only [refusalOutput]
    cases pre : mux.streams.lookup item.streamId with
    | none =>
      rw [if_neg (by rw [named]; exact Finmap.lookup_eq_none.mp pre)]
      exact ⟨ph, rfl, follows.silent advances (by rw [pre, abs])⟩
    | some old =>
      rw [if_pos (by rw [named]; exact Finmap.mem_of_lookup_eq_some pre), follows.live old pre]
      refine ⟨.ended, ?_, .dropped abs ((inv.used pre).trans_le advances)⟩
      simp [EventPhase.next_reset]
  | @opened frame _ _ st fresh =>
    have unused := inv.absent fresh
    have idle : ph = .idle := by
      apply (follows.gone unused).resolve_right
      have := fresh.nextId_le
      intro used
      have : frame.streamId.toNat < mux.nextId := used
      omega
    refine ⟨if frame.flags &&& flagClose ≠ 0 then .closing else .reading, ?_, ?_, ?_⟩
    · rw [idle]
      split <;> split <;> rfl
    · intro st live
      simp only [WireItem.streamId, Finmap.lookup_insert, some.injEq] at live
      subst live
      by_cases closes : frame.flags &&& flagClose ≠ 0
      · simp [EventPhase.of, closes]
      · simp [EventPhase.of, not_not.mp closes]
    · exact fun _ => Or.inr (Nat.lt_succ_self _)
  | @data _ st _ closes live reading =>
    have pre : ph = .reading := by
      rw [follows.live st live, EventPhase.of, reading]
      rfl
    rw [pre]
    cases closes with
    | false =>
      refine ⟨.reading, rfl, .assigned (inv.used live) ?_⟩
      intro next en
      cases en
      simp [EventPhase.of, reading]
    | true => exact ⟨.closing, rfl, .assigned (inv.used live) fun next => closedEntry_phase⟩
  | @closed _ st live =>
    refine ⟨.closing, ?_, .assigned (inv.used live) fun next => closedEntry_phase⟩
    simp [follows.live st live, EventPhase.next_readClosed]
  | @reset _ st _ live =>
    refine ⟨.ended, ?_, .assigned (inv.used live) fun next en => by cases en⟩
    simp [follows.live st live, EventPhase.next_reset]
  | @credited _ _ _ live =>
    refine ⟨ph, rfl, follows.assign inv live ?_⟩
    intro next en
    cases en
    rfl

/-- A local call reports no events and moves no stream to another phase. -/
theorem Follows.local_call {call : LocalCall} (follows : Follows sid ph mux) (inv : mux.Inv)
    (eff : LocalEffect mux call next rep) : Follows sid ph next := by
  cases eff with
  | failed | panicked | withheld => exact follows
  | consumed live | sent live =>
    apply follows.assign inv live
    intro next en
    cases en
    rfl
  | closed live =>
    apply follows.assign inv live
    intro next en
    split at en
    · cases en
    · cases en
      rfl
  | reset live =>
    apply follows.assign inv live
    intro next en
    cases en

/-! ### Accepted payloads -/

namespace MuxStreams

/-- Whether an item is answered with a refusal or ends the carrier. -/
def refuses (mux : MuxStreams) (item : WireItem) : Bool :=
  match (mux.handleItem item {}).2 with
  | .ok output => output.refusals != []
  | .error _ => true

/-- The payload of a frame that opens the stream, or that carries its data or its close
while it is live, unless the frame is refused. -/
def accepted (mux : MuxStreams) (streamId : UInt32) : WireItem → Bytes
  | .frame frame =>
      if frame.streamId = streamId ∧ mux.refuses (.frame frame) = false ∧
          (frame.flags &&& flagOpen ≠ 0 ∨ (streamId ∈ mux.streams ∧
            (frame.flags = flagData ∨ frame.flags = flagData ||| flagClose ∨
              frame.flags = flagClose))) then frame.payload
      else []
  | .reserved _ => []

def acceptedItems (streamId : UInt32) : MuxStreams → List WireItem → Bytes
  | _, [] => []
  | mux, item :: items => mux.accepted streamId item ++ acceptedItems streamId (mux.handleItem item {}).1 items

/-- The accepted payloads of a stream over a sequence of calls, in wire order. The items
of a feed are those its bytes complete, continuing in the phase the earlier bytes left. -/
def acceptedCalls (streamId : UInt32) : MuxStreams → WirePhase → List AcceptorCall → Bytes
  | _, _, [] => []
  | mux, phase, .feed data :: calls =>
      acceptedItems streamId mux (phase.items data) ++
        acceptedCalls streamId (handleItems (phase.items data) mux {}).1 (phase.after data) calls
  | mux, phase, .act call :: calls => acceptedCalls streamId (mux.localCall call).1 phase calls

theorem accepted_of_flags (mux : MuxStreams) {frame : Frame} (sid : UInt32)
    (flags : frame.flags = flagPing ∨ frame.flags = flagPong ∨ frame.flags = flagReset ∨
      frame.flags = flagWindow) : mux.accepted sid (.frame frame) = [] := by
  apply if_neg
  rintro ⟨-, -, carries⟩
  rcases flags with eq | eq | eq | eq <;> rw [eq] at carries <;>
    rcases carries with fnd | ⟨-, fnd⟩ <;> revert fnd <;> decide

end MuxStreams

theorem ItemEffect.accepted {item : WireItem}
    (eff : ItemEffect mux item next delta) (hd : mux.handleItem item {} = (next, .ok delta)) (sid : UInt32) :
    mux.accepted sid item = (delta.eventsOf sid).flatMap MuxEvent.bytes := by
  have refuses : mux.refuses item = (delta.refusals != []) := by rw [MuxStreams.refuses, hd]
  rw [eff.eventsOf]
  by_cases own : item.streamId = sid
  swap
  · rw [if_neg own]
    cases item with
    | frame => exact if_neg fun both => own both.1
    | reserved => rfl
  rw [if_pos own]
  subst own
  cases eff with
  | control _ flags => exact mux.accepted_of_flags _ (flags.imp_right Or.inl)
  | refused fnd refusalClass =>
    have silent : (mux.refusalOutput fnd refusalClass).events.flatMap MuxEvent.bytes = [] := by
      simp only [refusalOutput]
      split <;> rfl
    rw [silent]
    cases item with
    | frame => exact if_neg fun both => by simp [refuses, refusalOutput] at both
    | reserved => rfl
  | @tolerated _ abs late =>
    apply if_neg
    rintro ⟨-, -, opens | ⟨kn, -⟩⟩
    · rcases late with eq | eq | eq <;> rw [eq] at opens <;> revert opens <;> decide
    · exact Finmap.lookup_eq_none.mp abs kn
  | @opened frame _ opens =>
    have taken : mux.accepted frame.streamId (.frame frame) = frame.payload := if_pos ⟨rfl, refuses, Or.inl opens⟩
    rw [WireItem.streamId, taken]
    by_cases carries : frame.payload ≠ [] ∨ frame.flags &&& flagData ≠ 0
    · rw [if_pos carries]
      split <;> simp [MuxEvent.bytes]
    · have bare : frame.payload = [] := by
        by_contra filled
        exact carries (Or.inl filled)
      rw [if_neg carries, bare]
      split <;> rfl
  | @data frame _ _ closes live _ _ flags =>
    have kn : frame.streamId ∈ mux.streams := Finmap.mem_of_lookup_eq_some live
    have kind : frame.flags = flagData ∨ frame.flags = flagData ||| flagClose ∨ frame.flags = flagClose := by
      cases closes with
      | false => exact Or.inl flags
      | true => exact Or.inr flags
    have taken : mux.accepted frame.streamId (.frame frame) = frame.payload :=
      if_pos ⟨rfl, refuses, Or.inr ⟨kn, kind⟩⟩
    rw [WireItem.streamId, taken]
    cases closes <;> simp [MuxEvent.bytes]
  | @closed _ _ _ _ bare =>
    simp only [MuxStreams.accepted, bare, ite_self]
    rfl
  | reset _ flags => exact mux.accepted_of_flags _ (Or.inr (Or.inr (Or.inl flags)))
  | credited _ flags => exact mux.accepted_of_flags _ (Or.inr (Or.inr (Or.inr flags)))

theorem Follows.items {items : List WireItem}
    {out : MuxOutput} (follows : Follows sid ph mux) (inv : mux.Inv)
    (hd : MuxStreams.handleItems items mux {} = (next, .ok out)) :
    (out.eventsOf sid).flatMap MuxEvent.bytes = MuxStreams.acceptedItems sid mux items ∧
      ∃ after, (out.eventsOf sid).foldlM EventPhase.next ph = some after ∧ Follows sid after next := by
  refine handleItems_induction (motive := fun mux items next out => ∀ ph, Follows sid ph mux → mux.Inv →
      (out.eventsOf sid).flatMap MuxEvent.bytes = MuxStreams.acceptedItems sid mux items ∧
        ∃ after, (out.eventsOf sid).foldlM EventPhase.next ph = some after ∧ Follows sid after next)
    ?_ ?_ hd ph follows inv
  · intro mux ph follows inv
    exact ⟨rfl, ph, rfl, follows⟩
  · intro mux item mid delta items next out eff taken later ph follows inv
    obtain ⟨middle, read, along⟩ := follows.item inv eff
    obtain ⟨bs, after, rest, ended⟩ := later middle along (inv.item eff)
    rw [MuxOutput.eventsOf_append]
    constructor
    · rw [flatMap_append, bs, ← eff.accepted taken, MuxStreams.acceptedItems, taken]
    · refine ⟨after, ?_, ended⟩
      rw [foldlM_append, read]
      exact rest

/-! ### Runs -/

def eventsOf (streamId : UInt32) (replies : List AcceptorReply) : List MuxEvent :=
  replies.flatMap fun reply => match reply with
    | .ok (some output) => output.eventsOf streamId
    | _ => []

/-- No feed returned an error. -/
def FeedsSucceed (calls : List AcceptorCall) (rs : List AcceptorReply) : Prop :=
  ∀ data failure, (AcceptorCall.feed data, Except.error failure) ∉ calls.zip rs

/-- `Opened`, then `Data`, then `ReadClosed`, then at most one `Reset`; or nothing at all. -/
def EventWord (sid : UInt32) (word : List MuxEvent) : Prop :=
  word = [] ∨ ∃ (payloads : List Bytes) (closes : Nat) (resets : List ResetReason),
    word = .opened sid :: payloads.map (.data sid) ++
      List.replicate closes (.readClosed sid) ++ resets.map (.reset sid) ∧
    resets.length ≤ 1

theorem read_ended (read : word.foldlM EventPhase.next .ended = some ph) : word = [] := by
  cases word with
  | nil => rfl
  | cons ev word => simp [EventPhase.next] at read

section
variable (own : ∀ ev ∈ word, ev.streamId = some sid)
include own

theorem read_closing
    (read : word.foldlM EventPhase.next .closing = some ph) : ∃ (closes : Nat) (resets : List ResetReason),
      word = List.replicate closes (.readClosed sid) ++ resets.map (.reset sid) ∧ resets.length ≤ 1 := by
  induction word with
  | nil => exact ⟨0, [], rfl, by simp⟩
  | cons ev word ih =>
    obtain ⟨same, others⟩ := forall_mem_cons.mp own
    cases ev with
    | readClosed =>
      cases same
      obtain ⟨closes, resets, rfl, few⟩ := ih others read
      exact ⟨closes + 1, resets, rfl, few⟩
    | reset _ rsn =>
      cases same
      rw [read_ended read]
      exact ⟨0, [rsn], rfl, by simp⟩
    | opened | data | peerGone => simp [EventPhase.next] at read

theorem read_reading (read : word.foldlM EventPhase.next .reading = some ph) :
    ∃ (payloads : List Bytes) (closes : Nat) (resets : List ResetReason),
      word = payloads.map (.data sid) ++ List.replicate closes (.readClosed sid) ++ resets.map (.reset sid) ∧
      resets.length ≤ 1 := by
  induction word with
  | nil => exact ⟨[], 0, [], rfl, by simp⟩
  | cons ev word ih =>
    obtain ⟨same, others⟩ := forall_mem_cons.mp own
    cases ev with
    | data _ bs =>
      cases same
      obtain ⟨payloads, closes, resets, rfl, few⟩ := ih others read
      exact ⟨bs :: payloads, closes, resets, rfl, few⟩
    | readClosed =>
      cases same
      obtain ⟨closes, resets, rfl, few⟩ := read_closing others read
      exact ⟨[], closes + 1, resets, rfl, few⟩
    | reset _ rsn =>
      cases same
      rw [read_ended read]
      exact ⟨[], 0, [rsn], rfl, by simp⟩
    | opened | peerGone => simp [EventPhase.next] at read

theorem eventWord_of_read (read : word.foldlM EventPhase.next .idle = some ph) : EventWord sid word := by
  cases word with
  | nil => exact Or.inl rfl
  | cons ev word =>
    obtain ⟨same, others⟩ := forall_mem_cons.mp own
    cases ev with
    | opened =>
      cases same
      obtain ⟨payloads, closes, resets, rfl, few⟩ := read_reading others read
      exact Or.inr ⟨payloads, closes, resets, by simp, few⟩
    | _ => simp [EventPhase.next] at read

end

theorem eventsOf_cons (sid : UInt32) (rep : AcceptorReply) (replies : List AcceptorReply) :
    eventsOf sid (rep :: replies) = eventsOf sid [rep] ++ eventsOf sid replies := by
  simp [eventsOf]

theorem eventsOf_own (sid : UInt32) (replies : List AcceptorReply) :
    ∀ ev ∈ eventsOf sid replies, ev.streamId = some sid := by
  intro ev mem
  obtain ⟨rep, -, fnd⟩ := mem_flatMap.mp mem
  match rep, fnd with
  | .ok (some out), fnd => simpa using (mem_filter.mp fnd).2

theorem fed_items {ph : WirePhase} {next : MuxAcceptor} {data : Bytes}
    (formed : ph.WellFormed) (roomy : headerLen + maxPayload ≤ mux.limits.decoderBufferBytes)
    (called : (ph.hold mux).call (.feed data) = (next, rep)) (succeeds : ∀ failure, rep ≠ .error failure) :
    ∃ after out, MuxStreams.handleItems (ph.items data) mux {} = (after, .ok out) ∧
      next = (ph.after data).hold after ∧ rep = .ok (some out) := by
  obtain ⟨_, -, fed, done⟩ := feedBytes_hold formed roomy data {}
  simp only [MuxAcceptor.call, MuxAcceptor.feed, fed] at called
  obtain ⟨rfl, rfl⟩ := Prod.mk.inj called
  rcases hd : MuxStreams.handleItems (ph.items data) mux {} with ⟨after, err | out⟩
  · exact absurd (by rw [hd]; rfl) (succeeds (.error err))
  · rw [hd] at done
    exact ⟨after, out, rfl, by rw [done out rfl], rfl⟩

theorem LocalEffect.silent {call : LocalCall}
    (eff : LocalEffect mux call next rep) (sid : UInt32) : eventsOf sid [rep] = [] := by
  cases eff <;> rfl

theorem run_events {calls : List AcceptorCall} {ph : WirePhase}
    {ev : EventPhase} {last : MuxAcceptor} {replies : List AcceptorReply}
    (formed : ph.WellFormed) (roomy : headerLen + maxPayload ≤ mux.limits.decoderBufferBytes)
    (inv : mux.Inv) (follows : Follows sid ev mux)
    (ran : acceptorMachine.run (ph.hold mux) calls = some (last, replies))
    (succeed : FeedsSucceed calls replies) : (eventsOf sid replies).flatMap MuxEvent.bytes =
        MuxStreams.acceptedCalls sid mux ph calls ∧
      ∃ (wire : WirePhase) (streams : MuxStreams) (after : EventPhase), last = wire.hold streams ∧
        wire.WellFormed ∧ streams.limits = mux.limits ∧ streams.Inv ∧
        (eventsOf sid replies).foldlM EventPhase.next ev = some after ∧ Follows sid after streams := by
  induction calls generalizing ph ev mux replies with
  | nil =>
    cases ran
    exact ⟨rfl, ph, mux, ev, rfl, formed, rfl, inv, rfl, follows⟩
  | cons call calls ih =>
    obtain ⟨next, rep, rest, hs, later, rfl⟩ := acceptorMachine.run_cons.mp ran
    have called : (ph.hold mux).call call = (next, rep) := some.inj hs
    have others : FeedsSucceed calls rest := by
      intro data failure mem
      exact succeed data failure (mem_cons_of_mem _ mem)
    rw [eventsOf_cons]
    cases call with
    | feed data =>
      have fine : ∀ failure, rep ≠ .error failure := by
        rintro failure rfl
        exact succeed data failure (by simp)
      obtain ⟨_, out, hd, rfl, rfl⟩ := fed_items formed roomy called fine
      have kept := handleItems_limits (ph.items data) mux {}
      have sound := handleItems_keeps (fun eff inv => inv.item eff) (ph.items data) {} inv
      rw [hd] at kept sound
      obtain ⟨bs, _, read, along⟩ := follows.items inv hd
      obtain ⟨more, wire, ended, after, rfl, wired, same, valid, word, final⟩ :=
        ih (WirePhase.after_wellFormed formed data) (by rw [kept]; exact roomy) sound along later others
      have fst : eventsOf sid [.ok (some out)] = out.eventsOf sid := by simp [eventsOf]
      rw [fst]
      constructor
      · rw [flatMap_append, bs, more, MuxStreams.acceptedCalls, hd]
      · refine ⟨wire, ended, after, rfl, wired, same.trans kept, valid, ?_, final⟩
        rw [foldlM_append, read]
        exact word
    | act call =>
      have eff := mux.localCall_effect call
      rw [call_act] at called
      obtain ⟨rfl, rfl⟩ := Prod.mk.inj called
      have lim := (localEffect_kept eff).1
      have along := follows.local_call inv eff
      obtain ⟨more, wire, ended, after, rfl, wired, same, valid, word, final⟩ :=
        ih formed (by rw [lim]; exact roomy) (inv.local_call eff) along later others
      rw [eff.silent, nil_append]
      exact ⟨more, wire, ended, after, rfl, wired, same.trans lim, valid, word, final⟩

/-- A stream the application resets reports nothing more. -/
theorem run_after_reset {rsn : ResetReason} {calls : List AcceptorCall}
    {ph : WirePhase} {last : MuxAcceptor} {out : Option MuxOutput}
    {replies : List AcceptorReply} (formed : ph.WellFormed)
    (roomy : headerLen + maxPayload ≤ mux.limits.decoderBufferBytes) (inv : mux.Inv)
    (ran : acceptorMachine.run (ph.hold mux) (.act (.reset sid rsn) :: calls) =
      some (last, .ok out :: replies)) (succeed : FeedsSucceed calls replies) : eventsOf sid replies = [] := by
  obtain ⟨next, _, _, hs, later, same⟩ := acceptorMachine.run_cons.mp ran
  cases same
  have called : (ph.hold mux).call (.act (.reset sid rsn)) = (next, .ok out) := some.inj hs
  have eff := mux.localCall_effect (.reset sid rsn)
  rw [call_act] at called
  obtain ⟨rfl, replied⟩ := Prod.mk.inj called
  have lim := (localEffect_kept eff).1
  have sound := inv.local_call eff
  have ended : Follows sid .ended (mux.localCall (.reset sid rsn)).1 := by
    rw [replied] at eff
    generalize (mux.localCall (.reset sid rsn)).1 = after at eff
    cases eff with
    | reset live => exact .assigned (inv.used live) fun st en => by cases en
  obtain ⟨-, _, _, _, -, -, -, -, read, -⟩ := run_events formed (by rw [lim]; exact roomy) sound ended later succeed
  exact read_ended read

/-- As long as no feed has failed, the events of a stream are one `Opened`, then `Data`,
then `ReadClosed`, then at most one `Reset`, and none after a local reset; the bytes of
the `Data` events are the payloads accepted for the stream, in wire order. -/
theorem MuxAcceptor.event_grammar {limits : MuxLimits} {acceptor last : MuxAcceptor}
    {calls : List AcceptorCall} {replies : List AcceptorReply}
    (made : MuxAcceptor.new limits = .ok acceptor)
    (ran : acceptorMachine.run acceptor calls = some (last, replies))
    (succeed : FeedsSucceed calls replies) (streamId : UInt32) :
    EventWord streamId (eventsOf streamId replies) ∧ (eventsOf streamId replies).flatMap MuxEvent.bytes =
        MuxStreams.acceptedCalls streamId { limits := limits } .start calls ∧
      ∀ before reason after early output late, calls = before ++ .act (.reset streamId reason) :: after →
        replies = early ++ .ok output :: late → before.length = early.length →
        eventsOf streamId late = [] := by
  have inv := (MuxAcceptor.Valid.start made).inv
  obtain ⟨rfl, -, roomy⟩ := new_eq made
  have formed := WirePhase.start_wellFormed
  have idle : Follows streamId .idle { limits := limits } := by
    constructor
    · intro stream live
      simp at live
    · exact fun _ => Or.inl rfl
  obtain ⟨bytes, -, -, _, -, -, -, -, read, -⟩ := run_events formed roomy inv idle ran succeed
  refine ⟨eventWord_of_read (eventsOf_own streamId replies) read, bytes, ?_⟩
  rintro before reason after early output late rfl rfl sized
  obtain ⟨_, _, _, earlier, later, joined⟩ := acceptorMachine.run_append.mp ran
  obtain ⟨rfl, rfl⟩ := append_inj joined (sized.symm.trans (acceptorMachine.run_length earlier))
  have split : FeedsSucceed before early ∧ FeedsSucceed after late := by
    unfold FeedsSucceed at succeed ⊢
    rw [zip_append sized] at succeed
    constructor
    · intro data failure member
      exact succeed data failure (mem_append_left _ member)
    · intro data failure member
      exact succeed data failure (mem_append_right _ (mem_cons_of_mem _ member))
  obtain ⟨-, _, _, -, rfl, wired, same, sound, -, -⟩ := run_events formed roomy inv idle earlier split.1
  exact run_after_reset wired (by rw [same]; exact roomy) sound later split.2

/-- A request whose last bytes come with CLOSE, and a stream that is reset locally. -/
theorem MuxAcceptor.event_grammar_request : ∃ last replies, acceptorMachine.run { limits := {} }
        [.feed (Frame.wire ⟨1, flagOpen ||| flagData, asciiBytes "hi"⟩ ++ Frame.wire ⟨1, flagClose, asciiBytes "!"⟩),
          .act (.reset 1 .cancel), .feed (Frame.wire ⟨1, flagClose, []⟩)] = some (last, replies) ∧
      eventsOf 1 replies = [.opened 1, .data 1 (asciiBytes "hi"), .data 1 (asciiBytes "!"), .readClosed 1] ∧
      EventWord 1 (eventsOf 1 replies) := by
  refine Machine.exists_run Prod.snd
    [.ok (some { events := [.opened 1, .data 1 (asciiBytes "hi"), .data 1 (asciiBytes "!"), .readClosed 1] }), .ok (some { frames := [.reset 1 resetCancel] }), .ok (some {})] (by decide +kernel) fun last replies ran same => ?_
  have same : replies = _ := same
  refine ⟨by rw [same]; decide +kernel, ?_⟩
  refine (event_grammar (rfl : new {} = .ok { limits := {} }) ran ?_ 1).1
  intro data failure member
  simp [same] at member

/-- A feed that fails loses what it gathered: the stream it opened reports data that no
`Opened` precedes. -/
theorem MuxAcceptor.event_grammar_lost_output : ∃ last replies, acceptorMachine.run { limits := {} }
        [.feed (Frame.wire ⟨1, flagOpen, []⟩ ++ Frame.wire ⟨0, flagData, []⟩),
          .feed (Frame.wire ⟨1, flagData, asciiBytes "x"⟩)] = some (last, replies) ∧
      eventsOf 1 replies = [.data 1 (asciiBytes "x")] ∧ ¬ EventWord 1 (eventsOf 1 replies) := by
  refine Machine.exists_run (fun result => eventsOf 1 result.2)
    [.data 1 (asciiBytes "x")] (by decide +kernel) fun last replies ran word => ?_
  refine ⟨word, ?_⟩
  have word : eventsOf 1 replies = [.data 1 (asciiBytes "x")] := word
  rw [word]
  rintro (empty | ⟨payloads, closes, resets, whole, -⟩)
  · cases empty
  · simp at whole

end SplRust.Home
