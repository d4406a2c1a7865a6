import SplRust.Transport.CoordinatorEffects

/-! Everything a step of the coordinator's machine can do, with the guards of each step.
The invariants of the coordinator are derived from this description. -/

namespace SplRust.Transport
open SplRust.Lib SplRust.Core Option
namespace Coordinator
variable {coord next : Coordinator} {call : CoordinatorCall} {reply : CoordinatorReply}

/-- The state after a call that may have failed. -/
def settled (outcome : Outcome) (phase : CoordinatorPhase) : Coordinator :=
  match outcome.2 with
  | .ok _ => outcome.1.setPhase phase
  | .error error => outcome.1.setPhase (.failing error)

def handedBy (coord : Coordinator) (outcome : Outcome) : List WriterPacket :=
  outcome.1.writer.queue.drop coord.writer.queue.length

theorem settle_eq (coord : Coordinator) (res : Outcome) (ph : CoordinatorPhase) : coord.settle res ph =
      some (settled res ph, { handed := coord.handedBy res }) := by
  unfold settle settled handedBy
  cases res.2 with
  | ok | error => rfl

/-- The steps that only move the coordinator on. -/
inductive Moves (coord : Coordinator) : CoordinatorPhase → Prop where
  | fails (error : TransportError) (idle : coord.phase = .select) : Moves coord (.failing error)
  | stops (idle : coord.phase = .select) : Moves coord (.stopping fanoutEof)
  | receives (streamIds : List UInt32) (idle : coord.phase = .select) : Moves coord (.receiving streamIds)
  | received (at_end : coord.phase = .receiving []) : Moves coord .collecting
  | replied (ticket : Nat) (sid : UInt32) (at_end : coord.phase = .opening ticket sid)
      (pumped : coord.pumpTurn = none) : Moves coord .collecting
  | collected (order : List UInt32) (at_start : coord.phase = .collecting)
      (waiting : ∀ sid, sid ∈ order ↔ coord.waiting sid = true) :
      Moves coord (.flushing order)
  | flushed (at_end : coord.phase = .flushing []) : Moves coord .pumping
  | pumped (at_end : coord.phase = .pumping) (pumped : coord.pumpTurn = none) : Moves coord .select
  | judged (error : TransportError) (last : DeliveryEvent) (at_end : coord.phase = .failing error)
      (how : last = fanoutEof ∨ last = .certificateUnknown) : Moves coord (.stopping last)
  | gathered (order : List UInt32) (last : DeliveryEvent) (at_start : coord.phase = .stopping last)
      (all : ∀ sid, sid ∈ order ↔ sid ∈ coord.streams) :
      Moves coord (.draining order last)
  | drained (last : DeliveryEvent) (at_end : coord.phase = .draining [] last) : Moves coord .stopped

/-- What handling `Consume` can do. -/
inductive ConsumeEffect (coord : Coordinator) (sid : UInt32) (bytes : Nat) : Outcome → Prop where
  | quiet (demux : CarrierDemux) (answer : Except TransportError Unit)
      (consumed : ∃ result, coord.demux.consume sid bytes = (demux, result) ∧ (answer = .ok () → result = .ok none)) :
      ConsumeEffect coord sid bytes ({ coord with demux := demux }, answer)
  | granted (demux : CarrierDemux) (fr : Bytes)
      (consumed : coord.demux.consume sid bytes = (demux, .ok (some fr)))
      (res : Outcome) (sent : FrameEffect { coord with demux := demux } fr res) :
      ConsumeEffect coord sid bytes res

/-- A step of the writer task. -/
inductive WriterEffect (coord : Coordinator) : Coordinator → Prop where
  | took (packet : WriterPacket) (queue : List WriterPacket)
      (first : coord.writer.queue = packet :: queue) (idle : coord.writing = none) :
      WriterEffect coord { coord with
        writer := { coord.writer with queue := queue }, writing := some packet }
  | wrote (packet : WriterPacket) (busy : coord.writing = some packet) :
      WriterEffect coord { coord with
        channels := returnPermits coord.channels packet.bodyLeases
        writing := none
        drainedEvents := coord.drainedEvents + 1 }
  | failed (alert : Option TransportError) : WriterEffect coord { coord with
      channels := returnPermits coord.channels
        (coord.writing.elim [] WriterPacket.bodyLeases)
      writing := none
      writerStop := some alert }
  | closed : WriterEffect coord { coord with
      channels := returnPermits coord.channels
        (coord.writer.queue.flatMap WriterPacket.bodyLeases)
      writer := { coord.writer with queue := [], receiving := false } }

/-- Everything a step can do. -/
inductive StepEffect (coord : Coordinator) : CoordinatorCall → Coordinator → CoordinatorReply → Prop where
  | moves (call : CoordinatorCall) (phase : CoordinatorPhase) (moves : Moves coord phase) :
      StepEffect coord call (coord.setPhase phase) {}
  | read (data : Bytes) (demux : CarrierDemux) (out : DemuxOutput)
      (idle : coord.phase = .select) (some_read : data ≠ [])
      (fits : data.length ≤ readBufBytes) (fed : coord.demux.feed data = (demux, .ok out)) :
      StepEffect coord (.read data) ({ coord with demux := demux }.setPhase (.reading out))
        { produced := coord.produced out }
  | unread (data : Bytes) (demux : CarrierDemux) (err : MuxError) (idle : coord.phase = .select)
      (fed : coord.demux.feed data = (demux, .error (.error err))) :
      StepEffect coord (.read data) ({ coord with demux := demux }.setPhase (.failing (.mux err))) {}
  | opens (method target : Text) (headers : Headers) (declaredBodyLen : Nat) (idle : coord.phase = .select) :
      StepEffect coord (.openStream method target headers declaredBodyLen)
        ((coord.openStreamOnCarrier method target headers declaredBodyLen).setPhase
          (.opening coord.channels.length coord.dialer.next))
        { opened := [coord.dialer.next] }
  | consumes (sid : UInt32) (bytes : Nat) (res : Outcome) (idle : coord.phase = .select)
      (effect : ConsumeEffect coord sid bytes res) :
      StepEffect coord (.consume sid bytes) (settled res .collecting)
        { handed := coord.handedBy res }
  | cancels (sid : UInt32) (res : Outcome) (idle : coord.phase = .select)
      (effect : ResetEffect coord sid res) :
      StepEffect coord (.cancel sid) (settled res .collecting)
        { handed := coord.handedBy res }
  | drained (idle : coord.phase = .select) (ev : 0 < coord.drainedEvents) :
      StepEffect coord .drained ({ coord with
        writer := coord.writer.drained
        drainedEvents := coord.drainedEvents - 1 }.setPhase .collecting) {}
  | ticks (now : Nat) (res : Outcome) (idle : coord.phase = .select)
      (effect : KeepaliveEffect coord res) :
      StepEffect coord (.tick now) (settled res .collecting) { handed := coord.handedBy res }
  | readDone (out : DemuxOutput) (at_end : coord.phase = .reading out)
      (handled : out.pongs = [] ∧ out.emitFrames = [] ∧ out.windowGrants = [] ∧ out.streamEvents = []) :
      StepEffect coord .turn ({ coord with outstanding := none, missed := 0 }.setPhase .collecting) {}
  | readTurn (out rest : DemuxOutput) (res : Outcome)
      (inside : coord.phase = .reading out) (effect : ReadEffect coord out rest res) :
      StepEffect coord .turn (settled res (.reading rest)) { handed := coord.handedBy res }
  | receiveTurn (sid : UInt32) (streamIds : List UInt32) (last : Bool) (res : Outcome)
      (inside : coord.phase = .receiving (sid :: streamIds))
      (effect : ReceiveEffect coord sid last res) :
      StepEffect coord .turn (settled res (.receiving (if last then streamIds else sid :: streamIds)))
        { handed := coord.handedBy res }
  | unreplied (ticket : Nat) (sid : UInt32) (res : Outcome)
      (at_end : coord.phase = .opening ticket sid)
      (effect : ResetEffect coord sid res) :
      StepEffect coord .turn (settled res .collecting) { handed := coord.handedBy res }
  | pumpTurn (res : Outcome) (inside : coord.phase = .pumping ∨
        ∃ ticket sid, coord.phase = .opening ticket sid ∧ res.2 = .ok ())
      (effect : PumpEffect coord res) :
      StepEffect coord .turn (settled res coord.phase) { handed := coord.handedBy res }
  | openFailed (ticket : Nat) (sid : UInt32) (pumped : Outcome) (error : TransportError)
      (inside : coord.phase = .opening ticket sid)
      (effect : PumpEffect coord pumped) (failed : pumped.2 = .error error) :
      StepEffect coord .turn ((pumped.1.updateChannels ticket fun channels =>
          { channels with receiving := false, holding := none, sending := false }).setPhase
          (.failing (writerError "carrier upload pump failed")))
        { handed := coord.handedBy pumped }
  | flushTurn (sid : UInt32) (streamIds : List UInt32) (last : Bool) (res : Outcome)
      (inside : coord.phase = .flushing (sid :: streamIds))
      (effect : FlushEffect coord sid last res) :
      StepEffect coord .turn (settled res (.flushing (if last then streamIds else sid :: streamIds)))
        { handed := coord.handedBy res }
  | fanout (sid : UInt32) (streamIds : List UInt32) (last : DeliveryEvent)
      (inside : coord.phase = .draining (sid :: streamIds) last) (next : Coordinator)
      (effect : FanoutEffect coord sid last next) :
      StepEffect coord .turn (next.setPhase (.draining streamIds last)) {}
  | writes (call : CoordinatorCall) (next : Coordinator)
      (effect : WriterEffect coord next) : StepEffect coord call next {}
  | acts (ticket : Nat) (call : LocalCall) (channels : StreamChannels)
      (there : coord.channels[ticket]? = some channels)
      (acted : StreamChannels × LocalReply)
      (did : channels.localStep ticket call = some acted) :
      StepEffect coord (.act ticket call)
        { coord with channels := coord.channels.set ticket acted.1 }
        { returned := [(ticket, acted.2)] }

theorem consumeStream_effect {sid : UInt32} {bs : Nat} {ans : Except TransportError Unit}
    (consumed : (coord.consumeStream sid bs).2 = ans.mapError .error) :
    ConsumeEffect coord sid bs ((coord.consumeStream sid bs).1, ans) := by
  revert consumed
  fun_cases consumeStream coord sid bs with
  | case1 => cases ans <;> rintro ⟨⟩
  | case2 _ _ err failed =>
    intro consumed
    refine .quiet _ ans ⟨.error (.error err), Prod.ext rfl failed, ?_⟩
    rintro rfl
    cases consumed
  | case3 _ _ quiet => exact fun _ => .quiet _ ans ⟨.ok none, Prod.ext rfl quiet, fun _ => rfl⟩
  | case4 _ granting fr granted sending =>
    intro consumed
    refine .granted _ fr (Prod.ext rfl granted) _ ?_
    have sent := sendWriter_frame granting fr
    change FrameEffect granting fr sending at sent
    generalize sending = res at sent consumed ⊢
    cases sent with
    | sent room =>
      cases ans <;> cases consumed
      exact .sent room
    | failed rsn =>
      cases ans <;> cases consumed
      exact .failed rsn

theorem input_effect {keepalive : KeepaliveConfig} (idle : coord.phase = .select)
    (hs : coord.input keepalive call = some (next, reply)) : StepEffect coord call next reply := by
  cases call with
  | read data =>
    revert hs
    change coord.read data = _ → _
    fun_cases Coordinator.read coord data with
    | case2 bounds fed _ err failed =>
      rintro ⟨⟩
      exact .unread data _ err idle (Prod.ext rfl failed)
    | case3 bounds fed _ out success =>
      rintro ⟨⟩
      exact .read data _ out idle bounds.1 bounds.2 (Prod.ext rfl success)
    | _ => rintro ⟨⟩
  | readEnd | shutdown =>
    cases hs
    exact .moves _ _ (.stops idle)
  | readFailed =>
    cases hs
    exact .moves _ _ (.fails _ idle)
  | openStream method target headers len =>
    cases hs
    exact .opens method target headers len idle
  | consume sid bs =>
    unfold input at hs
    simp only at hs
    split at hs
    · cases hs
    next failed =>
      rw [settle_eq] at hs
      cases hs
      exact .consumes sid bs _ idle (consumeStream_effect failed)
    next success =>
      rw [settle_eq] at hs
      cases hs
      exact .consumes sid bs _ idle (consumeStream_effect success)
  | bodyReady streamIds =>
    unfold input at hs
    simp only at hs
    split at hs
    · cases hs
      exact .moves _ _ (.receives streamIds idle)
    · cases hs
  | cancel sid =>
    unfold input at hs
    simp only [settle_eq] at hs
    cases hs
    exact .cancels sid _ idle (resetActiveStream_effect _ _)
  | drained =>
    unfold input at hs
    simp only at hs
    split at hs
    next ev =>
      cases hs
      exact .drained idle ev
    · cases hs
  | writerStopped =>
    unfold input at hs
    simp only at hs
    split at hs
    · cases hs
    · cases hs
      exact .moves _ _ (.fails _ idle)
  | tick now =>
    unfold input at hs
    simp only [settle_eq] at hs
    cases hs
    exact .ticks now _ idle (handleKeepalive_effect _ _ _)
  | _ => cases hs

theorem turn_effect (turned : coord.turn = some (next, reply)) : StepEffect coord .turn next reply := by
  revert turned
  fun_cases turn coord with
  | case1 out inside done =>
    rintro ⟨⟩
    exact .readDone out inside (readTurn_none done)
  | case2 out inside rest read =>
    rw [settle_eq]
    rintro ⟨⟩
    exact .readTurn out rest.1 rest.2 inside (readTurn_effect read)
  | case3 at_end =>
    rintro ⟨⟩
    exact .moves _ _ (.received at_end)
  | case4 sid streamIds inside =>
    rw [settle_eq]
    rintro ⟨⟩
    exact .receiveTurn sid streamIds _ _ inside (receiveTurn_effect _ _)
  | case5 tk sid inside done =>
    rintro ⟨⟩
    exact .moves _ _ (.replied tk sid inside done)
  | case6 tk sid inside =>
    rw [settle_eq]
    rintro ⟨⟩
    exact .unreplied tk sid _ inside (resetActiveStream_effect _ _)
  | case7 tk sid inside pumped pumping _ success =>
    rw [settle_eq]
    rintro ⟨⟩
    rw [← inside]
    exact .pumpTurn pumped (Or.inr ⟨tk, sid, inside, success⟩) (pumpTurn_effect pumping)
  | case8 tk sid inside pumped pumping error failed =>
    rw [settle_eq]
    rintro ⟨⟩
    exact .openFailed tk sid pumped error inside (pumpTurn_effect pumping) failed
  | case9 at_end =>
    rintro ⟨⟩
    exact .moves _ _ (.flushed at_end)
  | case10 sid streamIds inside =>
    rw [settle_eq]
    rintro ⟨⟩
    exact .flushTurn sid streamIds _ _ inside (flushTurn_effect _ _)
  | case11 inside done =>
    rintro ⟨⟩
    exact .moves _ _ (.pumped inside done)
  | case12 inside pumped pumping =>
    rw [settle_eq]
    rintro ⟨⟩
    rw [← inside]
    exact .pumpTurn pumped (Or.inl inside) (pumpTurn_effect pumping)
  | case13 last at_end =>
    rintro ⟨⟩
    exact .moves _ _ (.drained last at_end)
  | case14 sid streamIds last inside =>
    rintro ⟨⟩
    exact .fanout sid streamIds last inside _ (fanout_effect _ _ _)
  | case15 => rintro ⟨⟩

theorem collect_effect {order : List UInt32} (collected : coord.collect order = some (next, reply)) :
    StepEffect coord (.collect order) next reply := by
  revert collected
  fun_cases collect coord order with
  | case1 at_start same =>
    rintro ⟨⟩
    refine .moves _ _ (.collected order at_start fun sid => ?_)
    rw [← List.mem_toFinset, same.2, Finset.mem_filter, Finmap.mem_keys]
    refine ⟨fun both => both.2, fun waits => ⟨?_, waits⟩⟩
    rw [Table.mem_iff_lookup]
    intro missing
    simp [waiting, missing] at waits
  | case3 last at_start same =>
    rintro ⟨⟩
    refine .moves _ _ (.gathered order last at_start fun sid => ?_)
    rw [← List.mem_toFinset, same.2, Finmap.mem_keys]
  | _ => rintro ⟨⟩

theorem writerStep_effect (hs : coord.writerStep call = some next) : WriterEffect coord next := by
  revert hs
  fun_cases writerStep coord call with
  | case1 packet q _ idle fst =>
    rintro ⟨⟩
    exact .took packet q fst idle
  | case4 packet busy =>
    rw [dropLeases_eq]
    rintro ⟨⟩
    exact .wrote packet busy
  | case6 alert =>
    rw [dropLeases_eq]
    rintro ⟨⟩
    exact .failed alert
  | case8 =>
    rw [dropLeases_eq]
    rintro ⟨⟩
    exact .closed
  | _ => rintro ⟨⟩

theorem step_effect {keepalive : KeepaliveConfig} (hs : coord.step keepalive call = some (next, reply)) :
    StepEffect coord call next reply := by
  revert hs
  fun_cases step keepalive coord call with
  | case1 => exact turn_effect
  | case2 => exact collect_effect
  | case3 =>
    unfold verdict
    split
    next error at_end =>
      rintro ⟨⟩
      refine .moves _ _ (.judged error _ at_end ?_)
      split
      · exact Or.inr rfl
      · exact Or.inl rfl
    · rintro ⟨⟩
  | case4 | case5 | case6 | case7 =>
    intro hs
    obtain ⟨_, wrote, same⟩ := map_eq_some_iff.mp hs
    cases same
    exact .writes _ _ (writerStep_effect wrote)
  | case8 tk local_call =>
    intro hs
    obtain ⟨chs, there, rest⟩ := bind_eq_some_iff.mp hs
    obtain ⟨acted, did, same⟩ := bind_eq_some_iff.mp rest
    cases same
    exact .acts tk local_call chs there acted did
  | case9 _ _ _ _ _ _ _ _ _ idle => exact input_effect idle
  | case10 => rintro ⟨⟩

end Coordinator

end SplRust.Transport
