import SplRust.Transport.MuxCarrier

/-! The published carrier status. A carrier is published once, under the status lock and
before either of its guards can be dropped, and it is marked dead by its own identity, so
the status never speaks for a carrier whose guards are gone, and an old carrier's end never
hides a newer one. -/

namespace SplRust.Transport
open SplRust.Lib List Option CarrierHandle

namespace MuxCarrier

/-- The carrier that a step marks dead, if it is such a section. -/
def marks (mux : MuxCarrier) : MuxCall → Option Nat
  | .advance request =>
      match mux.requests[request]?.map Request.phase with
      | some (.marking _ carrier) => some carrier
      | some (.clearMarking _ carrier) => some carrier
      | _ => none
  | .markDead carrier _ => some carrier
  | .advanceShutdown index =>
      match mux.shutdowns[index]? with
      | some (.marking carrier) => some carrier
      | _ => none
  | _ => none

/-- One of the guards of a carrier has finished dropping. -/
def GuardDropped (mux : MuxCarrier) (carrier : Nat) : Prop := ∃ hdl, mux.carriers[carrier]? = some hdl ∧ hdl.Dropped

theorem guardDropped_congr {mux next : MuxCarrier} (carriers : next.carriers = mux.carriers)
    (carrier : Nat) : next.GuardDropped carrier ↔ mux.GuardDropped carrier := by
  simp only [GuardDropped, carriers]

/-- Rewriting a handle without touching its guards. -/
theorem guardDropped_setCarrier {mux : MuxCarrier} {carrier : Nat} {hdl next : CarrierHandle}
    (hp : mux.carriers[carrier]? = some hdl) (coord : next.coordinator.guard = hdl.coordinator.guard)
    (writer : next.writer.guard = hdl.writer.guard) (other : Nat) :
    (mux.setCarrier carrier next).GuardDropped other ↔ mux.GuardDropped other := by
  have same : next.Dropped ↔ hdl.Dropped := by
    constructor
    · rintro ⟨side, dropped⟩
      refine ⟨side, ?_⟩
      cases side
      · exact coord.symm.trans dropped
      · exact writer.symm.trans dropped
    · rintro ⟨side, dropped⟩
      refine ⟨side, ?_⟩
      cases side
      · exact coord.trans dropped
      · exact writer.trans dropped
  obtain ⟨begun, fnd⟩ := List.getElem?_eq_some_iff.mp hp
  simp only [GuardDropped, setCarrier, getElem?_set]
  by_cases own : carrier = other
  · subst own
    simp [begun, fnd, same]
  · simp [own]

end MuxCarrier

/-- What a step can do to the published carrier and to the guards. -/
inductive CarrierEffect (mux : MuxCarrier) (call : MuxCall) : MuxCarrier → Prop where
  | kept {next : MuxCarrier} (current : next.status.currentCarrier = mux.status.currentCarrier)
      (live : next.status.snapshot.carrierLive = mux.status.snapshot.carrierLive)
      (guards : ∀ carrier, next.GuardDropped carrier ↔ mux.GuardDropped carrier)
      (count : next.carriers.length = mux.carriers.length)
      (unmarked : mux.marks call = none) : CarrierEffect mux call next
  | marked {next : MuxCarrier} (carrier : Nat) (marks : mux.marks call = some carrier)
      (status : next.status = mux.status.markCarrierDead carrier)
      (stays : ∀ other, mux.GuardDropped other → next.GuardDropped other)
      (guards : ∀ other, next.GuardDropped other → other = carrier ∨ mux.GuardDropped other)
      (count : next.carriers.length = mux.carriers.length) : CarrierEffect mux call next
  | published {next : MuxCarrier} (status : next.status = mux.status.publishCarrier mux.carriers.length)
      (carriers : next.carriers = mux.carriers ++ [({} : CarrierHandle)]) (unmarked : mux.marks call = none) :
      CarrierEffect mux call next

namespace StatusRecord

section
variable (record : StatusRecord)
include record

@[simp] theorem recordCarrierFailure_current (att : UInt64) (failure : HandshakeFailure) (now : Nat) :
    (record.recordCarrierFailure att failure now).currentCarrier = record.currentCarrier := by
  unfold recordCarrierFailure
  split <;> rfl

@[simp] theorem recordCarrierFailure_live (att : UInt64) (failure : HandshakeFailure) (now : Nat) :
    (record.recordCarrierFailure att failure now).snapshot.carrierLive = record.snapshot.carrierLive := by
  unfold recordCarrierFailure
  split <;> rfl

theorem recordOutcome_current (number : UInt64) (res : Outcome) (now : Nat) :
    (record.recordOutcome number res now).currentCarrier = record.currentCarrier := by
  cases res with
  | accepted =>
    simp only [recordOutcome, recordCarrierAccepted]
    split <;> rfl
  | failed failure => exact recordCarrierFailure_current record number failure now

theorem recordOutcome_live (number : UInt64) (res : Outcome)
    (now : Nat) : (record.recordOutcome number res now).snapshot.carrierLive = record.snapshot.carrierLive := by
  cases res with
  | accepted =>
    simp only [recordOutcome, recordCarrierAccepted]
    split <;> rfl
  | failed failure => exact recordCarrierFailure_live record number failure now

end

end StatusRecord

namespace MuxCarrier
variable {mux next : MuxCarrier} {call : MuxCall} {reply : MuxReply} {carrier : Nat} {hdl : CarrierHandle}

theorem kept_of_eq (unmarked : mux.marks call = none) (status : next.status = mux.status)
    (carriers : next.carriers = mux.carriers) : CarrierEffect mux call next :=
  .kept (by rw [status]) (by rw [status]) (guardDropped_congr carriers) (by rw [carriers]) unmarked

theorem retry_carriers (mux : MuxCarrier) (req : Nat) (en : Request) (inp : OpenStreamInput) :
    (mux.retry req en inp).1.status = mux.status ∧ (mux.retry req en inp).1.carriers = mux.carriers := by
  unfold retry
  split <;> exact ⟨rfl, rfl⟩

theorem reply_carriers (mux : MuxCarrier) (owner : Try)
    (answer : Oneshot (Except TransportError StreamRx)) (ret : Oneshot OpenStreamInput) :
    (mux.reply owner answer ret).status = mux.status ∧ (mux.reply owner answer ret).carriers = mux.carriers := by
  unfold reply
  split
  · split <;> exact ⟨rfl, rfl⟩
  · exact ⟨rfl, rfl⟩

theorem advance_effect {req : Nat} {en : Request} (hp : mux.requests[req]? = some en)
    (advanced : mux.advance req en = some (next, reply)) : CarrierEffect mux (.advance req) next := by
  revert advanced
  fun_cases advance mux req en with
  | case8 _ carrier ph =>
    rintro ⟨⟩
    exact .marked carrier (by simp [marks, hp, ph]) rfl (fun _ dropped => dropped)
      (fun _ dropped => Or.inr dropped) rfl
  | case30 inp carrier ph =>
    intro advanced
    obtain rfl := congrArg Prod.fst (some.inj advanced)
    obtain ⟨status, carriers⟩ := retry_carriers
      ({ mux with status := mux.status.markCarrierDead carrier }.release) req en inp
    exact .marked carrier (by simp [marks, hp, ph]) status
      (fun other => (guardDropped_congr carriers other).mpr)
      (fun other dropped => Or.inr ((guardDropped_congr carriers other).mp dropped))
      (by rw [carriers]; rfl)
  | case1 _ ph | case3 _ ph | case4 _ ph | case5 _ ph | case6 _ ph | case7 _ ph
  | case9 _ ph | case10 _ ph | case17 _ _ ph | case18 _ _ ph | case20 _ ph
  | case21 _ ph | case22 _ ph | case24 _ ph | case25 _ ph | case26 _ _ ph
  | case28 _ _ ph =>
    rintro ⟨⟩
    exact kept_of_eq (by simp [marks, hp, ph]) rfl rfl
  | case11 _ ph =>
    rintro ⟨⟩
    exact .kept rfl rfl (guardDropped_congr rfl) rfl (by simp [marks, hp, ph])
  | case13 _ _ _ ph =>
    rintro ⟨⟩
    exact .kept (StatusRecord.recordCarrierFailure_current _ _ _ _)
      (StatusRecord.recordCarrierFailure_live _ _ _ _) (guardDropped_congr rfl) rfl
      (by simp [marks, hp, ph])
  | case15 _ _ ph _ fnd =>
    rintro ⟨⟩
    refine .kept rfl rfl ?_ (length_set ..) (by simp [marks, hp, ph])
    exact guardDropped_setCarrier fnd rfl rfl
  | case29 inp _ ph =>
    intro advanced
    obtain rfl := congrArg Prod.fst (some.inj advanced)
    obtain ⟨status, carriers⟩ := retry_carriers mux.release req en inp
    exact kept_of_eq (by simp [marks, hp, ph]) status carriers
  | _ => rintro ⟨⟩

theorem kept_reply (eff : CarrierEffect mux call next) (unmarked : mux.marks call = none)
    (owner : Try) (answer : Oneshot (Except TransportError StreamRx)) (ret : Oneshot OpenStreamInput) :
    CarrierEffect mux call (next.reply owner answer ret) := by
  obtain ⟨status, carriers⟩ := reply_carriers next owner answer ret
  cases eff with
  | kept cur live guards count =>
    exact .kept (by rw [status, cur]) (by rw [status, live])
      (fun carrier => (guardDropped_congr carriers carrier).trans (guards carrier))
      (by rw [carriers, count]) unmarked
  | marked _ marks => simp [unmarked] at marks
  | published published appended => exact .published (by rw [status, published]) (by rw [carriers, appended]) unmarked

theorem kept_setCarrier {rewritten : CarrierHandle} (unmarked : mux.marks call = none)
    (hp : mux.carriers[carrier]? = some hdl) (coord : rewritten.coordinator.guard = hdl.coordinator.guard)
    (writer : rewritten.writer.guard = hdl.writer.guard) :
    CarrierEffect mux call (mux.setCarrier carrier rewritten) :=
  .kept rfl rfl (guardDropped_setCarrier hp coord writer) (length_set ..) unmarked

section
variable (hp : mux.carriers[carrier]? = some hdl)
include hp

theorem claim_effect (claimed : mux.claim carrier hdl = some (next, reply)) :
    CarrierEffect mux (.claim carrier) next := by
  have unmarked : mux.marks (.claim carrier) = none := rfl
  revert claimed
  fun_cases claim mux carrier hdl with
  | case2 | case3 =>
    rintro ⟨⟩
    apply kept_reply _ unmarked
    exact kept_setCarrier unmarked hp rfl rfl
  | _ => rintro ⟨⟩

theorem answer_effect {res : Except TransportError Unit}
    (answered : mux.answer carrier hdl res = some (next, reply)) :
    CarrierEffect mux (.answer carrier res) next := by
  have unmarked : mux.marks (.answer carrier res) = none := rfl
  unfold answer at answered
  split at answered
  · cases answered
  · cases answered
    apply kept_reply _ unmarked
    exact kept_setCarrier unmarked hp rfl rfl

theorem stopCoordinator_effect (stopped : mux.stopCoordinator carrier hdl = some (next, reply)) :
    CarrierEffect mux (.stopCoordinator carrier) next := by
  have unmarked : mux.marks (.stopCoordinator carrier) = none := rfl
  revert stopped
  fun_cases stopCoordinator mux carrier hdl with
  | case1 =>
    intro done
    obtain ⟨rfl, rfl⟩ := Prod.mk.inj (some.inj done)
    exact kept_setCarrier rfl hp rfl rfl
  | case2 =>
    rintro ⟨⟩
    apply kept_reply _ unmarked
    exact kept_setCarrier unmarked hp rfl rfl
  | case3 => rintro ⟨⟩

theorem dropCommands_effect (dropped : mux.dropCommands carrier hdl = some (next, reply)) :
    CarrierEffect mux (.dropCommands carrier) next := by
  have rs : ∀ (cmds : List OpenCommand) (start : MuxCarrier), CarrierEffect mux (.dropCommands carrier) start →
      CarrierEffect mux (.dropCommands carrier) (cmds.foldl
        (fun mux cmd => mux.reply cmd.reply .closed cmd.pending.drop) start) := by
    intro cmds
    induction cmds with
    | nil => exact fun _ eff => eff
    | cons cmd cmds ih => exact fun start eff => ih _ (kept_reply eff rfl _ _ _)
  unfold dropCommands at dropped
  split at dropped
  · cases dropped
    exact rs _ _ (kept_setCarrier rfl hp rfl rfl)
  · cases dropped

theorem storeDead_effect {side : CarrierSide} (stored : mux.storeDead carrier hdl side = some (next, reply)) :
    CarrierEffect mux (.storeDead carrier side) next := by
  unfold storeDead at stored
  split at stored
  next held =>
    cases stored
    obtain ⟨begun, fnd⟩ := List.getElem?_eq_some_iff.mp hp
    -- The guard moves from held to stored, so none is dropped by this.
    have same : CarrierHandle.Dropped { hdl.setGuard side .stored with alive := false } ↔ hdl.Dropped := by
      constructor
      · rintro ⟨other, _⟩
        refine ⟨other, ?_⟩
        cases side <;> cases other <;> simp_all [task, setGuard]
      · rintro ⟨other, _⟩
        refine ⟨other, ?_⟩
        cases side <;> cases other <;> simp_all [task, setGuard]
    refine .kept rfl rfl ?_ (length_set ..) rfl
    intro other
    simp only [GuardDropped, setCarrier, getElem?_set]
    by_cases own : carrier = other
    · subst own
      simp [begun, fnd, same]
    · simp [own]
  · cases stored

theorem markDead_effect {side : CarrierSide} (marked : mux.markDead carrier hdl side = some (next, reply)) :
    CarrierEffect mux (.markDead carrier side) next := by
  unfold markDead at marked
  split at marked
  · cases marked
    have begun : carrier < mux.carriers.length := (List.getElem?_eq_some_iff.mp hp).1
    refine .marked carrier rfl rfl ?_ ?_ (length_set ..)
    · rintro other ⟨fnd, there, dropped⟩
      by_cases own : carrier = other
      · subst own
        refine ⟨hdl.setGuard side .dropped, by simp [setCarrier, begun], side, ?_⟩
        cases side <;> rfl
      · exact ⟨fnd, by simpa [setCarrier, own] using there, dropped⟩
    · rintro other ⟨fnd, there, dropped⟩
      by_cases own : carrier = other
      · exact Or.inl own.symm
      · exact Or.inr ⟨fnd, by simpa [setCarrier, own] using there, dropped⟩
  · cases marked

end

theorem advanceShutdown_effect {ix : Nat} {ph : ShutdownPhase} (hp : mux.shutdowns[ix]? = some ph)
    (advanced : mux.advanceShutdown ix ph = some (next, reply)) :
    CarrierEffect mux (.advanceShutdown ix) next := by
  revert advanced
  fun_cases advanceShutdown mux ix ph with
  | case1 | case2 =>
    rintro ⟨⟩
    exact kept_of_eq (by simp [marks, hp]) rfl rfl
  | case5 _ _ fnd =>
    rintro ⟨⟩
    refine .kept rfl rfl ?_ (length_set ..) (by simp [marks, hp])
    exact guardDropped_setCarrier fnd rfl rfl
  | case6 carrier =>
    rintro ⟨⟩
    exact .marked carrier (by simp [marks, hp]) rfl (fun _ dropped => dropped)
      (fun _ dropped => Or.inr dropped) rfl
  | _ => rintro ⟨⟩

theorem publish_effect (mux : MuxCarrier) (req : Nat) (en : Request) (inp : OpenStreamInput) :
    CarrierEffect mux (.dialed req) (mux.publish req en inp).1 := by
  unfold publish
  split
  · exact kept_of_eq rfl rfl rfl
  · exact .published rfl rfl rfl

theorem cancel_effect {req : Nat} {en : Request} (cancelled : mux.cancel req en = some (next, reply)) :
    CarrierEffect mux (.cancel req) next := by
  unfold cancel at cancelled
  split at cancelled
  all_goals first
    | (cases cancelled; exact kept_of_eq rfl rfl rfl)
    | cases cancelled

theorem step_carrierEffect (hs : mux.step call = some (next, reply)) : CarrierEffect mux call next := by
  cases call with
  | openStream | shutdown | wait =>
    cases hs
    exact kept_of_eq rfl rfl rfl
  | advance =>
    obtain ⟨_, hp, advanced⟩ := bind_eq_some_iff.mp hs
    exact advance_effect hp advanced
  | dialFailed =>
    obtain ⟨_, _, failed⟩ := bind_eq_some_iff.mp hs
    split at failed
    · cases failed
      exact kept_of_eq rfl rfl rfl
    · cases failed
  | dialed req =>
    obtain ⟨en, _, dialed⟩ := bind_eq_some_iff.mp hs
    split at dialed
    next inp number ph =>
      obtain rfl := congrArg Prod.fst (some.inj dialed)
      exact publish_effect mux req en inp
    · cases dialed
  | cancel =>
    obtain ⟨_, _, cancelled⟩ := bind_eq_some_iff.mp hs
    exact cancel_effect cancelled
  | claim =>
    obtain ⟨_, hp, claimed⟩ := bind_eq_some_iff.mp hs
    exact claim_effect hp claimed
  | answer =>
    obtain ⟨_, hp, answered⟩ := bind_eq_some_iff.mp hs
    exact answer_effect hp answered
  | stopCoordinator =>
    obtain ⟨_, hp, stopped⟩ := bind_eq_some_iff.mp hs
    exact stopCoordinator_effect hp stopped
  | dropCommands =>
    obtain ⟨_, hp, dropped⟩ := bind_eq_some_iff.mp hs
    exact dropCommands_effect hp dropped
  | stopWriter =>
    obtain ⟨_, hp, stopped⟩ := bind_eq_some_iff.mp hs
    cases stopped
    exact kept_setCarrier rfl hp rfl rfl
  | storeDead =>
    obtain ⟨_, hp, stored⟩ := bind_eq_some_iff.mp hs
    exact storeDead_effect hp stored
  | markDead =>
    obtain ⟨_, hp, marked⟩ := bind_eq_some_iff.mp hs
    exact markDead_effect hp marked
  | advanceShutdown =>
    obtain ⟨_, hp, advanced⟩ := bind_eq_some_iff.mp hs
    exact advanceShutdown_effect hp advanced
  | record =>
    cases hs
    exact .kept (StatusRecord.recordOutcome_current _ _ _ _)
      (StatusRecord.recordOutcome_live _ _ _ _) (guardDropped_congr rfl) rfl rfl
  | latchAccessDenied =>
    cases hs
    exact .kept rfl rfl (guardDropped_congr rfl) rfl rfl

/-- The status speaks for a published carrier whose guards are both still there. -/
structure Truthful (mux : MuxCarrier) : Prop where
  live : mux.status.snapshot.carrierLive = true ↔ mux.status.currentCarrier ≠ none
  published : ∀ carrier, mux.status.currentCarrier = some carrier →
    carrier < mux.carriers.length ∧ ¬ mux.GuardDropped carrier

theorem Truthful.start : Truthful {} := ⟨by simp, by simp⟩

end MuxCarrier

/-- What marking a carrier dead leaves of the published one. -/
theorem StatusRecord.markCarrierDead_cases (record : StatusRecord) (carrier : Nat) :
    (record.currentCarrier = some carrier ∧ (record.markCarrierDead carrier).currentCarrier = none ∧
        (record.markCarrierDead carrier).snapshot.carrierLive = false) ∨
      (record.currentCarrier ≠ some carrier ∧ record.markCarrierDead carrier = record) := by
  by_cases own : record.currentCarrier = some carrier
  · refine Or.inl ⟨own, ?_, ?_⟩
    · simp only [markCarrierDead, own, if_true]
    · simp only [markCarrierDead, own, if_true]
  · exact Or.inr ⟨own, if_neg own⟩

namespace MuxCarrier
variable {mux : MuxCarrier}

theorem Truthful.step {next : MuxCarrier} {call : MuxCall} {reply : MuxReply}
    (truthful : mux.Truthful) (hs : mux.step call = some (next, reply)) : next.Truthful := by
  cases step_carrierEffect hs with
  | kept cur live guards count =>
    refine ⟨by rw [live, cur]; exact truthful.live, fun carrier shown => ?_⟩
    rw [cur] at shown
    rw [count, guards carrier]
    exact truthful.published carrier shown
  | marked carrier _ status _ guards count =>
    rcases mux.status.markCarrierDead_cases carrier with ⟨-, none_shown, dark⟩ | ⟨other, same⟩
    · refine ⟨by rw [status, none_shown, dark]; simp, fun shown cur => ?_⟩
      rw [status, none_shown] at cur
      cases cur
    · rw [same] at status
      refine ⟨by rw [status]; exact truthful.live, fun shown cur => ?_⟩
      rw [status] at cur
      obtain ⟨begun, held⟩ := truthful.published shown cur
      refine ⟨by rw [count]; exact begun, fun dropped => ?_⟩
      rcases guards shown dropped with rfl | pre
      · exact other cur
      · exact held pre
  | published status carriers =>
    refine ⟨by rw [status]; simp [StatusRecord.publishCarrier], fun carrier cur => ?_⟩
    rw [status] at cur
    obtain rfl : mux.carriers.length = carrier := some.inj cur
    refine ⟨by rw [carriers, length_append]; exact Nat.lt_succ_self _, ?_⟩
    rintro ⟨_, fnd, side, dropped⟩
    rw [carriers, getElem?_concat_length] at fnd
    cases fnd
    cases side <;> cases dropped

theorem Truthful.run {calls : List MuxCall} {rs : List MuxReply}
    (ran : muxMachine.run {} calls = some (mux, rs)) : mux.Truthful :=
  muxMachine.run_keeps (motive := Truthful) Truthful.start (fun truthful hs => truthful.step hs) ran

theorem guardDropped_step {next : MuxCarrier} {call : MuxCall} {reply : MuxReply} {carrier : Nat}
    (dropped : mux.GuardDropped carrier) (hs : mux.step call = some (next, reply)) :
    next.GuardDropped carrier := by
  cases step_carrierEffect hs with
  | kept _ _ guards => exact (guards carrier).mpr dropped
  | marked _ _ _ stays => exact stays carrier dropped
  | published _ carriers =>
    obtain ⟨hdl, fnd, gone⟩ := dropped
    have begun : carrier < mux.carriers.length := (List.getElem?_eq_some_iff.mp fnd).1
    exact ⟨hdl, by rw [carriers, getElem?_append_left begun, fnd], gone⟩

end MuxCarrier

/-- In every run the live flag is set exactly while a carrier is published; a carrier with a
dropped guard is not the published one, then or later; and a step that marks one carrier
dead leaves another published carrier and its flag alone. -/
theorem carrier_status_truthful {calls : List MuxCall} {mid : MuxCarrier}
    {early : List MuxReply} (ran : muxMachine.run {} calls = some (mid, early)) :
    (mid.status.snapshot.carrierLive = true ↔ mid.status.currentCarrier ≠ none) ∧
    (∀ carrier more last late, mid.GuardDropped carrier → muxMachine.run mid more = some (last, late) →
        last.status.currentCarrier ≠ some carrier) ∧
    (∀ call next reply carrier newer, muxMachine.step mid call = some (next, reply) →
      mid.marks call = some carrier → mid.status.currentCarrier = some newer →
        newer ≠ carrier → next.status.currentCarrier = some newer ∧
          next.status.snapshot.carrierLive = true) := by
  have truthful := MuxCarrier.Truthful.run ran
  refine ⟨truthful.live, ?_, ?_⟩
  · intro carrier more last late dropped later current
    have both : last.Truthful ∧ last.GuardDropped carrier :=
      muxMachine.run_keeps (motive := fun mux => mux.Truthful ∧ mux.GuardDropped carrier)
        ⟨truthful, dropped⟩ (fun held stepped =>
          ⟨held.1.step stepped, MuxCarrier.guardDropped_step held.2 stepped⟩) later
    exact (both.1.published carrier current).2 both.2
  · intro call next reply carrier newer stepped marks current different
    cases MuxCarrier.step_carrierEffect stepped with
    | kept _ _ _ _ unmarked | published _ _ unmarked => simp [unmarked] at marks
    | marked marked own status =>
      obtain rfl : marked = carrier := some.inj (own.symm.trans marks)
      rcases mid.status.markCarrierDead_cases marked with ⟨shown, -⟩ | ⟨-, same⟩
      · exact absurd (some.inj (current.symm.trans shown)) different
      · rw [status, same]
        exact ⟨current, truthful.live.mpr (by simp [current])⟩

/-- A carrier whose writer dies is replaced, and its coordinator dies after that. -/
def replacedCarrier : List MuxCall :=
  [.openStream [] [] [] 0] ++ List.replicate 5 (.advance 0) ++
    [.dialed 0, .stopWriter 0, .storeDead 0 .writer, .markDead 0 .writer,
      .openStream [] [] [] 0] ++ List.replicate 6 (.advance 1) ++
    [.dialed 1, .stopCoordinator 0, .storeDead 0 .reader]

theorem carrier_status_replaced : ∃ mid early next reply, muxMachine.run {} replacedCarrier = some (mid, early) ∧
      mid.GuardDropped 0 ∧ mid.status.currentCarrier = some 1 ∧
      muxMachine.step mid (.markDead 0 .reader) = some (next, reply) ∧
      next.status.currentCarrier = some 1 ∧ next.status.snapshot.carrierLive = true := by
  have evaluated : ((muxMachine.run {} replacedCarrier).bind fun ran =>
      (muxMachine.step ran.1 (.markDead 0 .reader)).map fun _ =>
        (ran.1.carriers[0]?.map fun handle => handle.writer.guard,
          ran.1.status.currentCarrier)) = some (some .dropped, some 1) := by
    decide +kernel
  obtain ⟨⟨mid, early⟩, ran, rest⟩ := bind_eq_some_iff.mp evaluated
  obtain ⟨⟨next, reply⟩, stepped, eqs⟩ := map_eq_some_iff.mp rest
  have current : mid.status.currentCarrier = some 1 := congrArg Prod.snd eqs
  obtain ⟨handle, found, dropped⟩ := map_eq_some_iff.mp (congrArg Prod.fst eqs)
  have kept := (carrier_status_truthful ran).2.2 _ next reply 0 1 stepped rfl current (by decide)
  exact ⟨mid, early, next, reply, ran, ⟨handle, found, .writer, dropped⟩, current, stepped, kept⟩

end SplRust.Transport
