import SplRust.Home.AcceptorInvariant

/-! Runs of the acceptor: carrier bytes from any peer, in any pieces, interleaved with any
local calls. -/

namespace SplRust.Home
open SplRust.Lib SplRust.Core MuxStreams MuxAcceptor

inductive AcceptorCall where
  | feed (data : Bytes)
  | act (call : LocalCall)
  deriving DecidableEq, Repr

def MuxAcceptor.call (acceptor : MuxAcceptor) : AcceptorCall → MuxAcceptor × AcceptorReply
  | .feed data =>
      let (acceptor, reply) := acceptor.feed data
      (acceptor, (reply.map some).mapError .error)
  | .act call =>
      let (mux, reply) := acceptor.localCall call
      ({ acceptor with toMuxStreams := mux }, reply)

def acceptorMachine : Machine MuxAcceptor AcceptorCall AcceptorReply where
  step acceptor call := some (acceptor.call call)

theorem MuxAcceptor.call_act (ph : WirePhase) (mux : MuxStreams) (call : LocalCall) :
    (ph.hold mux).call (.act call) = (ph.hold (mux.localCall call).1, (mux.localCall call).2) := rfl

theorem MuxAcceptor.feed_hold {ph : WirePhase} {mux next : MuxStreams} {data : Bytes}
    {out : MuxOutput} (formed : ph.WellFormed) (roomy : headerLen + maxPayload ≤ mux.limits.decoderBufferBytes)
    (hd : handleItems (ph.items data) mux {} = (next, .ok out)) :
    (ph.hold mux).feed data = ((ph.after data).hold next, .ok out) := by
  obtain ⟨_, -, fed, done⟩ := MuxAcceptor.feedBytes_hold formed roomy data {}
  rw [hd] at fed done
  rw [MuxAcceptor.feed, fed, done out rfl]

theorem MuxAcceptor.call_feed {ph : WirePhase} {mux next : MuxStreams} {data : Bytes}
    {out : MuxOutput} (formed : ph.WellFormed) (roomy : headerLen + maxPayload ≤ mux.limits.decoderBufferBytes)
    (hd : handleItems (ph.items data) mux {} = (next, .ok out)) :
    (ph.hold mux).call (.feed data) = ((ph.after data).hold next, .ok (some out)) := by
  rw [MuxAcceptor.call, feed_hold formed roomy hd]
  rfl

/-- An acceptor between two calls. -/
structure MuxAcceptor.Valid (limits : MuxLimits) (acceptor : MuxAcceptor) : Prop where
  held : ∃ phase : WirePhase, phase.WellFormed ∧ acceptor = phase.hold acceptor.toMuxStreams
  limits_eq : acceptor.limits = limits
  roomy : headerLen + maxPayload ≤ limits.decoderBufferBytes
  inv : acceptor.toMuxStreams.Inv

namespace MuxAcceptor
variable {limits : MuxLimits} {acc : MuxAcceptor}

theorem Valid.start (made : new limits = .ok acc) : acc.Valid limits := by
  obtain ⟨rfl, -, roomy⟩ := new_eq made
  refine ⟨⟨.start, WirePhase.start_wellFormed, rfl⟩, rfl, roomy, ?_⟩
  refine ⟨fun sid st live => ?_, fun sid mem => ?_, fun sid mem => ?_, Nat.zero_le _, fun cls => ?_⟩
  · simp [WirePhase.hold] at live
  · exact absurd mem Finmap.notMem_empty
  · exact absurd mem Finmap.notMem_empty
  · cases cls <;> exact Nat.zero_le _

theorem Valid.feed (valid : acc.Valid limits) (data : Bytes) : (acc.feed data).1.Valid limits ∧ ∃ items,
      handleItems items acc.toMuxStreams {} = ((acc.feed data).1.toMuxStreams, (acc.feed data).2) := by
  obtain ⟨⟨ph, formed, held⟩, same, roomy, inv⟩ := valid
  obtain ⟨last, lastFormed, fed, -⟩ := feedBytes_hold formed (by rw [same]; exact roomy) data {}
  have hd : acc.feed data = (last.hold (handleItems (ph.items data) acc.toMuxStreams {}).1,
        (handleItems (ph.items data) acc.toMuxStreams {}).2) := by
    rw [← fed, ← held]
    rfl
  rw [hd]
  refine ⟨⟨⟨last, lastFormed, rfl⟩, ?_, roomy, ?_⟩, ph.items data, rfl⟩
  · exact (handleItems_limits _ _ _).trans same
  · exact handleItems_keeps (fun eff inv => inv.item eff) _ _ inv

theorem localEffect_kept {mux next : MuxStreams} {call : LocalCall} {rep : AcceptorReply}
    (eff : LocalEffect mux call next rep) : next.limits = mux.limits ∧ next.nextId = mux.nextId := by
  cases eff <;> exact ⟨rfl, rfl⟩

section
variable (valid : acc.Valid limits)
include valid

theorem Valid.act (call : LocalCall) :
    MuxAcceptor.Valid limits { acc with toMuxStreams := (acc.localCall call).1 } := by
  obtain ⟨⟨ph, formed, held⟩, same, roomy, inv⟩ := valid
  have eff := acc.localCall_effect call
  refine ⟨⟨ph, formed, ?_⟩, (localEffect_kept eff).1.trans same, roomy, inv.local_call eff⟩
  rw [held]
  rfl

theorem Valid.call (call : AcceptorCall) : (acc.call call).1.Valid limits := by
  cases call with
  | feed data => exact (valid.feed data).1
  | act call => exact valid.act call

theorem Valid.run {last : MuxAcceptor} {calls : List AcceptorCall} {rs : List AcceptorReply}
    (ran : acceptorMachine.run acc calls = some (last, rs)) : last.Valid limits := by
  apply acceptorMachine.run_history (motive := fun s _ _ => s.Valid limits) valid _ ran
  intro s calls rs call next rep held hs
  have after := held.call call
  rwa [show s.call call = (next, rep) from Option.some.inj hs] at after

/-- An acceptor that holds no bytes is between two frames. -/
theorem Valid.aligned (header : acc.headerBuffer = [])
    (dec : acc.decoder.buf = []) (discarded : acc.discardedPayloadRemaining = none) :
    acc = WirePhase.start.hold acc.toMuxStreams := by
  obtain ⟨ph, -, held⟩ := valid.held
  rw [held] at header dec discarded
  cases ph with
  | header part =>
    have empty : part = [] := header
    rw [empty] at held
    exact held
  | payload => simp [WirePhase.hold, WirePhase.decoderBuffer, Header.bytes] at dec
  | skip => simp [WirePhase.hold, WirePhase.discarded] at discarded

end

end MuxAcceptor

def openedBy (replies : List AcceptorReply) : List UInt32 :=
  replies.flatMap fun reply => match reply with
    | .ok (some output) => output.openedIds
    | _ => []

structure CallReports (acceptor next : MuxAcceptor) (call : AcceptorCall) (reply : AcceptorReply) : Prop where
  returns : reply ≠ .error .panic
  advances : acceptor.nextId ≤ next.nextId
  reports : ∀ out, reply = .ok (some out) → Reports acceptor.toMuxStreams next.toMuxStreams out
  answered : (∀ sid reason, call ≠ .act (.reset sid reason)) → ∀ out, reply = .ok (some out) → out.Answered

theorem MuxAcceptor.Valid.reports {limits : MuxLimits} {acc : MuxAcceptor}
    (valid : acc.Valid limits) (call : AcceptorCall) :
    CallReports acc (acc.call call).1 call (acc.call call).2 := by
  cases call with
  | feed data =>
    obtain ⟨-, items, hd⟩ := valid.feed data
    rcases fed : acc.feed data with ⟨next, rep⟩
    rw [fed] at hd
    simp only [MuxAcceptor.call, fed]
    refine ⟨?_, ?_, fun out replied => ?_, fun _ out replied => ?_⟩
    · cases rep <;> simp [Except.map, Except.mapError]
    · have kept := handleItems_keeps (motive := fun later => later.Inv ∧ acc.nextId ≤ later.nextId)
        (fun eff pre => ⟨pre.1.item eff, pre.2.trans (Reports.item pre.1 eff).advances⟩) items {}
        ⟨valid.inv, Nat.le_refl _⟩
      rw [hd] at kept
      exact kept.2
    · cases rep with
      | error => cases replied
      | ok =>
        cases replied
        exact Reports.items valid.inv hd
    · cases rep with
      | error => cases replied
      | ok =>
        cases replied
        exact handleItems_induction (motive := fun _ _ _ out => out.Answered)
          (fun _ => rfl) (fun eff _ later => eff.answered.append later) hd
  | act call =>
    have eff := acc.localCall_effect call
    refine ⟨valid.inv.no_panic eff, ?_, fun out replied => ?_, fun oid out replied => ?_⟩
    · exact Nat.le_of_eq (MuxAcceptor.localEffect_kept eff).2.symm
    · simp only [MuxAcceptor.call] at replied ⊢
      rw [replied] at eff
      exact Reports.local_call valid.inv eff
    · simp only [MuxAcceptor.call] at replied
      rw [replied] at eff
      exact eff.answered fun sid rsn same => oid sid rsn (by rw [same])

/-- The ids opened over a whole run keep increasing. -/
theorem opened_step {limits : MuxLimits} {s next : MuxAcceptor} {call : AcceptorCall}
    {rs : List AcceptorReply} {rep : AcceptorReply}
    (held : s.Valid limits ∧ (openedBy rs).Pairwise (· < ·) ∧ ∀ sid ∈ openedBy rs, sid.toNat < s.nextId)
    (hs : acceptorMachine.step s call = some (next, rep)) :
    next.Valid limits ∧ (openedBy (rs ++ [rep])).Pairwise (· < ·) ∧
      ∀ sid ∈ openedBy (rs ++ [rep]), sid.toNat < next.nextId := by
  obtain ⟨valid, increasing, below⟩ := held
  have called : s.call call = (next, rep) := Option.some.inj hs
  have reported := valid.reports call
  have after := valid.call call
  rw [called] at reported after
  have split : openedBy (rs ++ [rep]) = openedBy rs ++ openedBy [rep] := by simp [openedBy]
  have fresh : (openedBy [rep]).Pairwise (· < ·) ∧ ∀ sid ∈ openedBy [rep],
      s.nextId ≤ sid.toNat ∧ sid.toNat < next.nextId := by
    match rep with
    | .ok (some out) =>
      have whole : openedBy [.ok (some out)] = out.openedIds := by simp [openedBy]
      rw [whole]
      exact ⟨(reported.reports out rfl).increasing, (reported.reports out rfl).fresh⟩
    | .ok none => simp [openedBy]
    | .error failure => simp [openedBy]
  refine ⟨after, ?_, fun sid mem => ?_⟩
  · rw [split]
    refine List.pairwise_append.mpr ⟨increasing, fresh.1, fun a early b late => ?_⟩
    exact UInt32.lt_iff_toNat_lt.mpr (Nat.lt_of_lt_of_le (below a early) (fresh.2 b late).1)
  · rw [split] at mem
    rcases List.mem_append.mp mem with early | late
    · exact Nat.lt_of_lt_of_le (below sid early) reported.advances
    · exact (fresh.2 sid late).2

/-- For limits the configuration accepts, and whatever the peer sends and the application calls: live
streams are accounted for, capped, half open at least, odd and within the ids used; no id is opened
twice; `consume` does not panic; and the saturating counters grow by the refusals, each of which is
answered by one RESET. -/
theorem MuxAcceptor.representation_invariant {limits : MuxLimits} {acceptor last : MuxAcceptor}
    {calls : List AcceptorCall} {replies : List AcceptorReply}
    (made : MuxAcceptor.new limits = .ok acceptor)
    (ran : acceptorMachine.run acceptor calls = some (last, replies)) :
    (∀ streamId stream, last.streams.lookup streamId = some stream →
      stream.receiveWindow.credit + stream.receiveWindow.unacked + stream.debitedNotConsumed = initialWindow ∧
        stream.sendCredit ≤ 2 ^ 31 - 1 ∧
        ¬ (stream.peerClosed = true ∧ stream.localClosed = true) ∧
        streamId % 2 = 1 ∧ ∃ highest, last.peerHighWater = some highest ∧ streamId ≤ highest) ∧
      last.streams.keys.card ≤ limits.maxConcurrentStreams ∧
      (openedBy replies).Nodup ∧
      ∀ call next reply, last.call call = (next, reply) → reply ≠ .error .panic ∧
        ∀ output, reply = .ok (some output) → (∀ refusalClass, next.refusals.get refusalClass =
            saturatingAdd (last.refusals.get refusalClass) (output.refusalCount refusalClass)) ∧
          ((∀ streamId reason, call ≠ .act (.reset streamId reason)) →
            output.resets.map some = output.refusals.map Refusal.answer) := by
  have reached : last.Valid limits ∧ (openedBy replies).Pairwise (· < ·) ∧
      ∀ streamId ∈ openedBy replies, streamId.toNat < last.nextId :=
    acceptorMachine.run_history (motive := fun state _ replies => state.Valid limits ∧
        (openedBy replies).Pairwise (· < ·) ∧ ∀ streamId ∈ openedBy replies, streamId.toNat < state.nextId)
      ⟨.start made, .nil, by simp [openedBy]⟩ (fun held stepped => opened_step held stepped) ran
  obtain ⟨valid, increasing, -⟩ := reached
  refine ⟨fun streamId stream live => ?_, ?_, increasing.imp fun below => UInt32.ne_of_lt below,
    fun call next reply called => ?_⟩
  · obtain ⟨accounted, capped, open_side⟩ := valid.inv.sound streamId stream live
    have member := Finmap.mem_of_lookup_eq_some live
    exact ⟨accounted, capped, open_side, valid.inv.odd streamId member, valid.inv.below streamId member⟩
  · rw [← valid.limits_eq]
    exact valid.inv.count
  · have reported := valid.reports call
    rw [called] at reported
    exact ⟨reported.returns, fun output replied => ⟨(reported.reports output replied).counted,
      fun other => reported.answered other output replied⟩⟩

/-- A refused OPEN with an even id, a request and its consumption. -/
theorem MuxAcceptor.representation_invariant_request : ∃ last replies, acceptorMachine.run { limits := {} }
        [.feed (Frame.wire ⟨2, flagOpen, []⟩), .feed (Frame.wire ⟨1, flagOpen ||| flagData, asciiBytes "hi"⟩),
          .act (.consume 1 2)] = some (last, replies) ∧
      openedBy replies = [1] ∧ last.streams.keys.card ≤ 256 := by
  refine Machine.exists_run (fun result => openedBy result.2)
    [1] (by decide +kernel) fun last replies ran opened => ?_
  exact ⟨opened, (representation_invariant (rfl : new {} = .ok { limits := {} }) ran).2.1⟩

/-! ### The counters saturate -/

/-- A DATA frame of a stream that was never opened. -/
def strayData : Bytes := Frame.wire ⟨1, flagData, []⟩

theorem handle_strayData (count : Nat) : handleItems (WirePhase.start.items strayData)
        { limits := {}, refusals := { protocol := count } } {} =
      ({ limits := {}, refusals := { protocol := saturatingAdd count 1 } },
        .ok { frames := [.reset 1 resetProtocolError]
              refusals := [⟨.protocol, some ⟨1, flagData, 0⟩⟩] }) := by
  have item : WirePhase.start.items strayData = [.frame ⟨1, flagData, []⟩] := by decide +kernel
  rw [item, handleItems_single]
  rfl

theorem feed_strayData (count : Nat) : (WirePhase.start.hold { limits := {}, refusals := { protocol := count } }).call
        (.feed strayData) =
      (WirePhase.start.hold { limits := {}, refusals := { protocol := saturatingAdd count 1 } },
        .ok (some { frames := [.reset 1 resetProtocolError]
                    refusals := [⟨.protocol, some ⟨1, flagData, 0⟩⟩] })) := by
  have roomy : headerLen + maxPayload ≤ ({} : MuxLimits).decoderBufferBytes := by decide
  have whole : WirePhase.start.after strayData = .start := by decide +kernel
  rw [call_feed WirePhase.start_wellFormed roomy (handle_strayData count), whole]

theorem run_strayData (count : Nat) (small : count ≤ wordMax) :
    ∃ rs, acceptorMachine.run { limits := {} } (List.replicate count (.feed strayData)) =
      some (WirePhase.start.hold { limits := {}, refusals := { protocol := count } }, rs) := by
  induction count with
  | zero => exact ⟨[], rfl⟩
  | succ count ih =>
    obtain ⟨rs, ran⟩ := ih (Nat.le_of_succ_le small)
    have next := feed_strayData count
    rw [saturatingAdd, Nat.min_eq_left small] at next
    rw [List.replicate_succ']
    exact ⟨_, acceptorMachine.run_append.mpr ⟨_, rs, _, ran,
      acceptorMachine.run_cons.mpr ⟨_, _, [], congrArg some next, rfl, rfl⟩, rfl⟩⟩

theorem MuxAcceptor.refusal_counter_saturates : ∃ calls last replies next output,
      acceptorMachine.run { limits := {} } calls = some (last, replies) ∧
      last.call (.feed strayData) = (next, .ok (some output)) ∧
      output.refusalCount .protocol = 1 ∧
      next.refusals.get .protocol = last.refusals.get .protocol := by
  obtain ⟨replies, ran⟩ := run_strayData wordMax (Nat.le_refl _)
  exact ⟨_, _, replies, _, _, ran, feed_strayData wordMax, rfl, rfl⟩

/-- Of no stream half a window waits to be granted back. -/
def MuxStreams.Grants (mux : MuxStreams) : Prop :=
  ∀ sid st, mux.streams.lookup sid = some st → st.receiveWindow.unacked < receiveGrantThreshold

namespace MuxStreams.Grants
variable {mux next : MuxStreams} (grants : mux.Grants)
include grants

theorem assign {sid : UInt32} (en : Option StreamState) (same : next.streams = Table.assign mux.streams sid en)
    (kept : ∀ st, en = some st → st.receiveWindow.unacked < receiveGrantThreshold) : next.Grants := by
  intro oid st hp
  rw [same] at hp
  by_cases own : oid = sid
  · exact kept st (by rwa [own, Table.lookup_assign] at hp)
  · exact grants oid st (by rwa [Table.lookup_assign_of_ne _ own] at hp)

theorem item {item : WireItem} {delta : MuxOutput} (eff : ItemEffect mux item next delta) : next.Grants := by
  cases eff with
  | control | tolerated => exact grants
  | refused | reset => exact grants.assign none rfl (by simp)
  | opened _ _ _ _ debited =>
    have unheld := (RecvWindow.debit_ok debited).2.2.trans_lt (by decide : 0 < receiveGrantThreshold)
    exact grants.assign (some _) rfl (by grind)
  | data _ _ _ debited =>
    have same := (RecvWindow.debit_ok debited).2.2
    refine grants.assign _ rfl ?_
    grind [Grants, dataEntry, closedEntry]
  | closed =>
    refine grants.assign _ rfl ?_
    grind [Grants, closedEntry]
  | credited => exact grants.assign (some _) rfl (by grind [Grants])

theorem act {call : LocalCall} {rep : AcceptorReply} (eff : LocalEffect mux call next rep) : next.Grants := by
  cases eff with
  | failed | panicked | withheld => exact grants
  | consumed _ _ taken =>
    have kept := RecvWindow.consume_unacked taken
    exact grants.assign (some _) rfl (by grind)
  | sent => exact grants.assign (some _) rfl (by grind [Grants])
  | closed =>
    refine grants.assign _ rfl ?_
    grind [Grants]
  | reset => exact grants.assign none rfl (by simp)

end MuxStreams.Grants

/-- Whatever the peer sends and the application calls, more than half of a stream's window is the peer's
credit or bytes that the application still has to consume. -/
theorem MuxAcceptor.grants_in_time {limits : MuxLimits} {acceptor last : MuxAcceptor} {calls : List AcceptorCall}
    {replies : List AcceptorReply} {streamId : UInt32} {stream : StreamState}
    (made : MuxAcceptor.new limits = .ok acceptor) (ran : acceptorMachine.run acceptor calls = some (last, replies))
    (live : last.streams.lookup streamId = some stream) :
    initialWindow / 2 < stream.receiveWindow.credit + stream.debitedNotConsumed := by
  have reached : last.Valid limits ∧ last.Grants := by
    refine acceptorMachine.run_keeps (motive := fun state => state.Valid limits ∧ state.Grants)
      ⟨.start made, fun _ _ live => ?_⟩ ?_ ran
    · rw [(new_eq made).1] at live
      cases live
    · rintro state call next _ ⟨valid, grants⟩ stepped
      obtain rfl : (state.call call).1 = next := congrArg Prod.fst (Option.some.inj stepped)
      refine ⟨valid.call call, ?_⟩
      cases call with
      | feed data =>
        obtain ⟨-, items, handled⟩ := valid.feed data
        have kept := handleItems_keeps (fun eff grants => Grants.item grants eff) items {} grants
        rwa [handled] at kept
      | act call => exact grants.act (state.localCall_effect call)
  have accounted := (reached.1.inv.sound _ _ live).accounted
  have few : _ < initialWindow / 2 := reached.2 _ _ live
  omega

/-- A stream whose first two bytes are consumed. -/
theorem MuxAcceptor.grants_in_time_consumed : ∃ last replies, acceptorMachine.run { limits := {} }
        [.feed (Frame.wire ⟨1, flagOpen ||| flagData, [7, 8]⟩), .act (.consume 1 2)] = some (last, replies) ∧
      ∃ stream, last.streams.lookup 1 = some stream ∧
        initialWindow / 2 < stream.receiveWindow.credit + stream.debitedNotConsumed := by
  refine Machine.exists_run (fun result => (result.1.streams.lookup 1).isSome) true (by decide +kernel)
    fun last replies ran kept => ?_
  obtain ⟨stream, live⟩ := Option.isSome_iff_exists.mp kept
  exact ⟨stream, live, grants_in_time (rfl : new {} = .ok { limits := {} }) ran live⟩

end SplRust.Home
