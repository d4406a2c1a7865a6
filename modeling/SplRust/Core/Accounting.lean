import SplRust.Core.Lifecycle

/-! Receive accounting of the demultiplexer against an arbitrary peer. Every wire byte
the peer is charged for is in the credit, waiting to be granted, held back by the
assembler, or charged to a body event that the owner has not consumed yet. -/

namespace SplRust.Core
open SplRust.Lib HttpStreamAssembler List Option CarrierDemux
variable {bs : Nat} {en : Option CarrierStream} {fs : List Frame} {dm : CarrierDemux}
  {next accounts : Accounts} {data : Bytes} {out : DemuxOutput} {sid : UInt32}

@[simp] theorem StreamEvent.wireCost_ending (how : StreamEnd) : (StreamEvent.ending how).wireCost = 0 := rfl

/-- The window of a live stream, with `owed` bytes of its body events not consumed. -/
def CarrierStream.total (stream : CarrierStream) (owed : Nat) : Nat :=
  stream.recvWindow.credit + stream.recvWindow.unacked + stream.assembler.pendingBodyWire + owed

/-- The entry of a stream is accounted for in full, if there is one. -/
def Balanced (en : Option CarrierStream) (owed : Nat) : Prop :=
  ∀ st, en = some st → st.assembler.Scanning ∧ st.total owed = initialWindow

theorem Balanced.absent (owed : Nat) : Balanced none owed := fun _ hp => by cases hp

theorem Balanced.opened : Balanced (some {}) 0 := fun _ hp => by
  cases hp
  exact ⟨new_scanning, rfl⟩

theorem Balanced.paid {st : CarrierStream} {owed : Nat}
    (balanced : Balanced (some st) (bs + owed)) : bs ≤ st.recvWindow.outstanding := by
  obtain ⟨-, tot⟩ := balanced st rfl
  have outstanding := st.recvWindow.outstanding_eq
  simp only [CarrierStream.total] at tot
  omega

theorem Balanced.consumed {st : CarrierStream} {win : RecvWindow} {grant : Option UInt32}
    {owed : Nat} (balanced : Balanced (some st) (bs + owed))
    (taken : st.recvWindow.consume bs = some (win, grant)) :
    Balanced (some { st with recvWindow := win }) owed := by
  intro after fnd
  cases fnd
  obtain ⟨scanning, tot⟩ := balanced st rfl
  obtain ⟨-, _, _⟩ := RecvWindow.consume_some taken
  refine ⟨scanning, ?_⟩
  simp only [CarrierStream.total] at tot ⊢
  omega

/-- One frame charges what it debits to its events, or ends the stream. -/
theorem StreamEffect.balanced {fr : Frame} {res : StepResult} {owed : Nat}
    (eff : StreamEffect fr en res) (balanced : Balanced en owed) :
    Balanced res.1 (owed + bodyCost res.2.events) := by
  cases eff with
  | credited => exact balanced
  | data live taken fed consumed =>
    intro st hp
    cases hp
    obtain ⟨scanning, tot⟩ := balanced live rfl
    obtain ⟨-, _, _⟩ := RecvWindow.debit_ok taken
    obtain ⟨-, _, _⟩ := RecvWindow.consume_some consumed
    obtain ⟨still, _⟩ := (feedData_ok fed).2.2 scanning
    refine ⟨still, ?_⟩
    simp only [CarrierStream.total] at tot ⊢
    omega
  | _ => exact .absent _

/-- Only bodies carry a cost. -/
theorem StreamEffect.uncosted {fr : Frame} {res : StepResult} (eff : StreamEffect fr en res) :
    ∀ ev ∈ res.2.events, ev.isBody = false → ev.wireCost = 0 := by
  have delivered : ∀ {pre after : Bool} {es : List StreamEvent}, Delivers pre after es →
      ∀ ev ∈ es, ev.isBody = false → ev.wireCost = 0 := by
    intro pre after es delivers
    cases delivers with
    | scanning => simp
    | head _ body => rcases body with rfl | ⟨body, cost, rfl⟩ <;> simp [StreamEvent.isBody, StreamEvent.uncosted]
    | body body => rcases body with rfl | ⟨body, cost, rfl⟩ <;> simp [StreamEvent.isBody]
  cases eff with
  | rejected => cases en <;> simp [rejectStep]
  | ignored | credited => simp
  | overrun | ended => simp [endStep]
  | closed _ fed =>
    intro ev mem
    rcases mem_append.mp mem with early | last
    · exact delivered (feedData_ok fed).1 ev early
    · simp [mem_singleton.mp last]
  | data _ _ fed => exact delivered (feedData_ok fed).1

theorem streamFrames_balanced (sid : UInt32) {last : Option CarrierStream} {views : List StreamView} {owed : Nat}
    (ran : (streamMachine sid).run en (fs.map .frame) = some (last, views)) (balanced : Balanced en owed) :
    Balanced last (owed + bodyCost (StreamView.join sid views).events) := by
  induction fs generalizing en views owed with
  | nil =>
    cases ran
    exact balanced
  | cons fr fs ih =>
    obtain ⟨mid, view, _, hs, later, rfl⟩ := (streamMachine sid).run_cons.mp ran
    have fst : Balanced mid (owed + bodyCost view.events) := by
      simp only [streamMachine] at hs
      split at hs
      · cases hs
        exact balanced
      · obtain ⟨_, eff, paired⟩ := map_eq_some_iff.mp hs
        cases paired
        exact (frameStep_effect eff).balanced balanced
    rw [StreamView.join_cons, StreamView.extend, bodyCost_append, ← Nat.add_assoc]
    exact ih later fst

theorem streamFrames_uncosted (sid : UInt32) {last : Option CarrierStream} {views : List StreamView}
    (ran : (streamMachine sid).run en (fs.map .frame) = some (last, views)) :
    ∀ ev ∈ (StreamView.join sid views).events, ev.isBody = false → ev.wireCost = 0 := by
  induction fs generalizing en views with
  | nil =>
    cases ran
    simp [StreamView.join]
  | cons fr fs ih =>
    obtain ⟨_, view, _, hs, later, rfl⟩ := (streamMachine sid).run_cons.mp ran
    have fst : ∀ ev ∈ view.events, ev.isBody = false → ev.wireCost = 0 := by
      simp only [streamMachine] at hs
      split at hs
      · cases hs
        simp
      · obtain ⟨_, eff, paired⟩ := map_eq_some_iff.mp hs
        cases paired
        exact (frameStep_effect eff).uncosted
    rw [StreamView.join_cons, StreamView.extend]
    intro ev mem
    rcases mem_append.mp mem with early | late
    · exact fst ev early
    · exact ih later ev late

theorem CarrierDemux.feed_uncosted {next : CarrierDemux} (sid : UInt32) (fed : dm.feed data = (next, .ok out)) :
    ∀ ev ∈ (out.view sid).events, ev.isBody = false → ev.wireCost = 0 := by
  obtain ⟨_, ran, joined⟩ := feed_view sid fed
  rw [joined]
  exact streamFrames_uncosted sid ran

/-- A batch that fails leaves a stream accounted for up to the events it loses. -/
theorem CarrierDemux.feedFrames_balanced {next : CarrierDemux}
    {rep : Except (Failure MuxError) DemuxOutput} {owed : Nat} (hd : feedFrames fs dm out = (next, rep))
    (balanced : Balanced (dm.streams.lookup sid) owed) :
    ∃ lost, Balanced (next.streams.lookup sid) (owed + lost) := by
  induction fs generalizing dm out owed with
  | nil =>
    cases hd
    exact ⟨0, balanced⟩
  | cons fr fs ih =>
    simp only [feedFrames] at hd
    by_cases ctl : fr.streamId = 0
    · rcases handleFrame_control dm fr ctl with ⟨pongs, inbound, res⟩ | res
      · rw [res] at hd
        exact ih hd balanced
      · rw [res] at hd
        cases hd
        exact ⟨0, balanced⟩
    · obtain ⟨en, delta, hs, res⟩ := handleFrame_stream dm fr ctl
      rw [res] at hd
      by_cases same : sid = fr.streamId
      · subst same
        have charged := (frameStep_effect hs).balanced balanced
        rw [← Table.lookup_assign dm.streams fr.streamId en] at charged
        obtain ⟨lost, _⟩ := ih hd charged
        exact ⟨bodyCost delta.events + lost, by rwa [← Nat.add_assoc]⟩
      · exact ih hd (by rwa [Table.lookup_assign_of_ne _ same])

/-- Wire costs of body events handed to the owner and not consumed, by stream. -/
abbrev Ledger := List (UInt32 × Nat)

namespace Ledger

instance (entry : UInt32 × Nat) (ledger : Ledger) : Decidable (entry ∈ ledger) :=
  instDecidableMemOfLawfulBEq entry ledger

def owed (ledger : Ledger) (sid : UInt32) : Nat := ((ledger.filter fun entry => entry.1 == sid).map Prod.snd).sum

theorem owed_append (fst snd : Ledger) (sid : UInt32) :
    owed (fst ++ snd) sid = owed fst sid + owed snd sid := by
  simp [owed]

theorem owed_cons (key sid : UInt32) (cost : Nat) (ledger : Ledger) : owed ((key, cost) :: ledger) sid =
      (if key = sid then cost else 0) + owed ledger sid := by
  by_cases same : key = sid <;> simp [owed, same]

theorem owed_erase {ledger : Ledger} {key : UInt32} {cost : Nat} (hp : (key, cost) ∈ ledger) (sid : UInt32) :
    (if key = sid then cost else 0) + owed (ledger.erase (key, cost)) sid = owed ledger sid := by
  rw [← owed_cons]
  exact (((perm_cons_erase hp).filter _).map _).sum_nat.symm

end Ledger

/-- The body events a reply hands to the owner. -/
def CarrierReply.bodies : CarrierReply → Ledger
  | fed (.ok out) => (out.streamEvents.filter fun event => event.2.isBody).map fun event =>
      (event.1, event.2.wireCost)
  | _ => []

theorem owed_bodies (uncosted : ∀ ev ∈ (out.view sid).events, ev.isBody = false → ev.wireCost = 0) :
    Ledger.owed (CarrierReply.fed (.ok out)).bodies sid = bodyCost (out.view sid).events := by
  simp only [DemuxOutput.view, CarrierReply.bodies] at uncosted ⊢
  generalize out.streamEvents = es at uncosted ⊢
  induction es with
  | nil => rfl
  | cons ev es ih =>
    obtain ⟨owner, ev⟩ := ev
    by_cases same : owner = sid
    · subst same
      simp only [filter_cons, beq_self_eq_true, if_true, map_cons] at uncosted ⊢
      obtain ⟨fst, rest⟩ := forall_mem_cons.mp uncosted
      have tail := ih rest
      cases body : ev.isBody with
      | true => simp [Ledger.owed_cons, tail, bodyCost]
      | false => simp [tail, bodyCost, fst body]
    · simp only [filter_cons, beq_iff_eq, if_neg same] at uncosted ⊢
      have tail := ih uncosted
      cases ev.isBody with
      | true => simp [Ledger.owed_cons, same, tail]
      | false => exact tail

/-- A session whose owner consumes each body event at most once, at its cost. -/
structure Accounts where
  session : Session := {}
  ledger : Ledger := []

def accountMachine : Machine Accounts CarrierCall CarrierReply where
  step accounts call :=
    match call with
    | .consume sid bytes =>
        if (sid, bytes) ∈ accounts.ledger then
          (sessionMachine.step accounts.session call).map fun result =>
            (⟨result.1, accounts.ledger.erase (sid, bytes)⟩, result.2)
        else none
    | _ => (sessionMachine.step accounts.session call).map fun result =>
        (⟨result.1, accounts.ledger ++ result.2.bodies⟩, result.2)

/-- What a live stream's window, held-back bytes and unconsumed bodies add up to. -/
def Accounts.balance (accounts : Accounts) (sid : UInt32) : Option Nat :=
  (accounts.session.demux.streams.lookup sid).map fun stream =>
    stream.total (accounts.ledger.owed sid)

def CarrierReply.Panics : CarrierReply → Prop
  | fed (.error .panic) => True
  | consumed (.error .panic) => True
  | _ => False

/-- A stream is accounted for up to the bodies lost with a condemned carrier. -/
structure Accounted (sid : UInt32) (accounts : Accounts) : Prop where
  unused : sid ∉ accounts.session.used →
    accounts.session.demux.streams.lookup sid = none ∧ accounts.ledger.owed sid = 0
  balanced : ∃ lost, (accounts.session.demux.fatalViolation = none → lost = 0) ∧
    Balanced (accounts.session.demux.streams.lookup sid) (accounts.ledger.owed sid + lost)

theorem CarrierDemux.feed_balanced {next : CarrierDemux} {owed : Nat} (fed : dm.feed data = (next, .ok out))
    (balanced : Balanced (dm.streams.lookup sid) owed) : Balanced (next.streams.lookup sid)
      (owed + Ledger.owed (CarrierReply.fed (.ok out)).bodies sid) := by
  obtain ⟨_, ran, joined⟩ := feed_view sid fed
  have after := streamFrames_balanced sid ran balanced
  rw [← joined] at after
  rwa [owed_bodies (feed_uncosted sid fed)]

section
variable (held : Accounted sid accounts)
include held

theorem Accounted.opened {opened : UInt32} (fresh : opened ∉ accounts.session.used)
    (used : next.session.used = opened :: accounts.session.used)
    (dm : next.session.demux = accounts.session.demux.openStream opened)
    (ledger : next.ledger = accounts.ledger) : Accounted sid next := by
  obtain ⟨unused, lost, sound, _⟩ := held
  rw [CarrierDemux.openStream] at dm
  by_cases same : sid = opened
  · subst same
    refine ⟨fun abs => by simp [used] at abs, 0, fun _ => rfl, ?_⟩
    rw [dm, ledger, (unused fresh).2, Finmap.lookup_insert]
    exact .opened
  · refine ⟨fun abs => ?_, lost, fun whole => sound (by rw [← whole, dm]), ?_⟩
    · rw [dm, ledger, Finmap.lookup_insert_of_ne _ same]
      exact unused fun mem => abs (by simp [used, mem])
    · rwa [dm, ledger, Finmap.lookup_insert_of_ne _ same]

section
variable (used : next.session.used = accounts.session.used)
include used

theorem Accounted.fed (fed : accounts.session.demux.feed data = (next.session.demux, .ok out))
    (ledger : next.ledger = accounts.ledger ++ (CarrierReply.fed (.ok out)).bodies) : Accounted sid next := by
  obtain ⟨unused, lost, sound, balanced⟩ := held
  have after := feed_balanced fed balanced
  refine ⟨fun abs => ?_, lost, fun _ => sound (feed_ok.mp fed).1, ?_⟩
  · rw [used] at abs
    obtain ⟨missing, nothing⟩ := unused abs
    obtain ⟨read, gone⟩ := feed_lifecycle sid fed
    rw [missing] at read
    have silent := (foldlM_closed read).1
    refine ⟨(gone (Or.inl missing)).1, ?_⟩
    rw [ledger, Ledger.owed_append, nothing, owed_bodies (by simp [silent]), silent]
    rfl
  · rw [ledger, Ledger.owed_append, Nat.add_right_comm]
    exact after

theorem Accounted.failed {failure : Failure MuxError}
    (failed : accounts.session.demux.feed data = (next.session.demux, .error failure))
    (ledger : next.ledger = accounts.ledger) : Accounted sid next := by
  obtain ⟨unused, lost, sound, balanced⟩ := held
  obtain ⟨-, unchanged | ⟨fs, dec, violation, hd, fatal⟩⟩ := feed_error failed
  · rw [← unchanged.1, ← ledger, ← used] at unused
    rw [← unchanged.2] at sound
    rw [← unchanged.1, ← ledger] at balanced
    exact ⟨unused, lost, sound, balanced⟩
  · obtain ⟨more, after⟩ := feedFrames_balanced hd balanced
    refine ⟨fun abs => ?_, lost + more, fun whole => by simp [fatal] at whole, ?_⟩
    · rw [used] at abs
      rw [ledger]
      exact ⟨feedFrames_absent hd (unused abs).1, (unused abs).2⟩
    · rw [ledger, ← Nat.add_assoc]
      exact after

theorem Accounted.removed {removed : UInt32} (dm : next.session.demux = accounts.session.demux.removeStream removed)
    (ledger : next.ledger = accounts.ledger) : Accounted sid next := by
  obtain ⟨unused, lost, sound, _⟩ := held
  rw [CarrierDemux.removeStream] at dm
  by_cases same : sid = removed
  · subst same
    have gone : next.session.demux.streams.lookup sid = none := by rw [dm, Finmap.lookup_erase]
    refine ⟨fun abs => ⟨gone, ?_⟩, lost, fun whole => sound (by rw [← whole, dm]), ?_⟩
    · rw [ledger]
      exact (unused (used ▸ abs)).2
    · rw [gone]
      exact .absent _
  · have kept : next.session.demux.streams.lookup sid = accounts.session.demux.streams.lookup sid := by
      rw [dm, Finmap.lookup_erase_ne same]
    refine ⟨fun abs => ?_, lost, fun whole => sound (by rw [← whole, dm]), ?_⟩
    · rw [kept, ledger]
      exact unused (used ▸ abs)
    · rwa [kept, ledger]

end

end

/-- Consuming what a body event was charged never panics. -/
theorem Accounted.consumed {consumed : UInt32} (held : ∀ sid, Accounted sid accounts)
    (used : next.session.used = accounts.session.used)
    (dm : next.session.demux = (accounts.session.demux.consume consumed bs).1)
    (owned : (consumed, bs) ∈ accounts.ledger)
    (ledger : next.ledger = accounts.ledger.erase (consumed, bs)) : Accounted sid next ∧
      (accounts.session.demux.consume consumed bs).2 ≠ .error .panic := by
  obtain ⟨unused, lost, sound, balanced⟩ := held sid
  have settled := Ledger.owed_erase owned
  rw [← ledger] at settled
  rcases accounts.session.demux.consume_cases consumed bs with ⟨abs, case⟩ |
    ⟨st, hp, exceeds, -⟩ | ⟨st, win, grant, hp, taken, case⟩
  · -- The stream is over; only the ledger changes.
    rw [case] at dm ⊢
    refine ⟨⟨fun fresh => ?_, lost, fun whole => sound (by rw [← whole, dm]), ?_⟩, by simp⟩
    · rw [used] at fresh
      obtain ⟨missing, _⟩ := unused fresh
      have := settled sid
      exact ⟨by rw [dm, missing], by omega⟩
    · by_cases same : consumed = sid
      · rw [dm, ← same, abs]
        exact .absent _
      · have := settled sid
        rw [if_neg same, Nat.zero_add] at this
        rwa [dm, this]
  · -- The event is still owed, so its cost is outstanding in the window.
    obtain ⟨-, _, -, there⟩ := held consumed
    have here := settled consumed
    rw [if_pos rfl] at here
    rw [hp, ← here, Nat.add_assoc] at there
    obtain ⟨_, _, taken⟩ := RecvWindow.consume_of_le there.paid
    simp [taken] at exceeds
  · rw [case] at dm ⊢
    have here := settled sid
    refine ⟨⟨fun fresh => ?_, lost, fun whole => sound (by rw [← whole, dm]), ?_⟩, by simp⟩
    · rw [used] at fresh
      obtain ⟨missing, _⟩ := unused fresh
      have ne : sid ≠ consumed := by
        intro same
        rw [← same, missing] at hp
        cases hp
      exact ⟨by rw [dm, Finmap.lookup_insert_of_ne _ ne, missing], by omega⟩
    · rw [dm]
      by_cases same : sid = consumed
      · subst same
        rw [if_pos rfl] at here
        rw [hp, ← here, Nat.add_assoc] at balanced
        rw [Finmap.lookup_insert]
        exact balanced.consumed taken
      · rw [if_neg (Ne.symm same), Nat.zero_add] at here
        rwa [Finmap.lookup_insert_of_ne _ same, here]

theorem account_call {call : CarrierCall} {rep : CarrierReply}
    (hs : accountMachine.step accounts call = some (next, rep)) :
    sessionMachine.step accounts.session call = some (next.session, rep) ∧
      ((∃ sid bs, call = .consume sid bs ∧ (sid, bs) ∈ accounts.ledger ∧
          next.ledger = accounts.ledger.erase (sid, bs)) ∨ ((∀ sid bs, call ≠ .consume sid bs) ∧
          next.ledger = accounts.ledger ++ rep.bodies)) := by
  simp only [accountMachine] at hs
  split at hs
  next sid bs =>
    split at hs
    next owned =>
      obtain ⟨⟨_, _⟩, inner, paired⟩ := map_eq_some_iff.mp hs
      cases paired
      exact ⟨inner, Or.inl ⟨sid, bs, rfl, owned, rfl⟩⟩
    · cases hs
  next others =>
    obtain ⟨⟨_, _⟩, inner, paired⟩ := map_eq_some_iff.mp hs
    cases paired
    exact ⟨inner, Or.inr ⟨others, rfl⟩⟩

theorem account_step {call : CarrierCall} {rep : CarrierReply} (held : ∀ sid, Accounted sid accounts)
    (hs : accountMachine.step accounts call = some (next, rep)) :
    (∀ sid, Accounted sid next) ∧ ¬ rep.Panics := by
  obtain ⟨inner, ⟨consumed, bs, rfl, owned, ledger⟩ | ⟨unpaid, ledger⟩⟩ := account_call hs
  · obtain ⟨called, ⟨_, oid, -⟩ | ⟨-, used⟩⟩ := session_step inner
    · cases oid
    obtain ⟨dm, rfl⟩ := Prod.mk.inj called
    have settled (sid : UInt32) : Accounted sid next ∧ _ := Accounted.consumed held used dm.symm owned ledger
    refine ⟨fun sid => (settled sid).1, ?_⟩
    have ret := (settled consumed).2
    match res : (accounts.session.demux.consume consumed bs).2 with
    | .ok grant => exact id
    | .error (.error err) => exact id
    | .error .panic => exact absurd res ret
  obtain ⟨called, ⟨opened, rfl, fresh, used⟩ | ⟨others, used⟩⟩ := session_step inner
  · obtain ⟨dm, rfl⟩ := Prod.mk.inj called
    have same : next.ledger = accounts.ledger := ledger.trans (append_nil _)
    exact ⟨fun sid => (held sid).opened fresh used dm.symm same, id⟩
  cases call with
  | openStream opened => exact absurd rfl (others opened)
  | consume sid bs => exact absurd rfl (unpaid sid bs)
  | removeStream removed =>
    obtain ⟨dm, rfl⟩ := Prod.mk.inj called
    have same : next.ledger = accounts.ledger := ledger.trans (append_nil _)
    exact ⟨fun sid => (held sid).removed used dm.symm same, id⟩
  | feed data =>
    obtain ⟨dm, rfl⟩ := Prod.mk.inj called
    cases res : (accounts.session.demux.feed data).2 with
    | ok =>
      rw [res] at ledger
      exact ⟨fun sid => (held sid).fed used (Prod.ext dm res) ledger, id⟩
    | error failure =>
      have failed : accounts.session.demux.feed data = (next.session.demux, .error failure) := Prod.ext dm res
      rw [res] at ledger
      have same : next.ledger = accounts.ledger := ledger.trans (append_nil _)
      refine ⟨fun sid => (held sid).failed used failed same, ?_⟩
      have ret := (feed_error failed).1
      cases failure with
      | error => exact id
      | panic => exact absurd rfl ret

/-- For every peer and every schedule, no call panics; until a malformed control frame
condemns the carrier, each live stream is accounted for to the byte, and afterwards by
no more than its window. -/
theorem receive_accounting {calls : List CarrierCall} {accounts : Accounts}
    {replies : List CarrierReply} (ran : accountMachine.run {} calls = some (accounts, replies)) :
    (∀ reply ∈ replies, ¬ reply.Panics) ∧
      ∀ streamId total, accounts.balance streamId = some total → total ≤ initialWindow ∧
        (accounts.session.demux.fatalViolation = none → total = initialWindow) := by
  have start : ∀ streamId, Accounted streamId {} := fun streamId =>
    ⟨fun _ => ⟨rfl, rfl⟩, 0, fun _ => rfl, .absent _⟩
  obtain ⟨held, returned⟩ := accountMachine.run_history (motive := fun accounts _ replies =>
    (∀ streamId, Accounted streamId accounts) ∧ ∀ reply ∈ replies, ¬ reply.Panics)
    ⟨start, by simp⟩ (fun kept stepped => ⟨(account_step kept.1 stepped).1, by
      intro reply member
      rcases mem_append.mp member with early | last
      · exact kept.2 reply early
      · rw [mem_singleton.mp last]
        exact (account_step kept.1 stepped).2⟩) ran
  refine ⟨returned, fun streamId total balance => ?_⟩
  obtain ⟨stream, present, rfl⟩ := map_eq_some_iff.mp balance
  obtain ⟨-, _, sound, balanced⟩ := held streamId
  obtain ⟨-, sum⟩ := balanced stream present
  simp only [CarrierStream.total] at sum ⊢
  refine ⟨by omega, fun whole => ?_⟩
  have := sound whole
  omega

/-- A response body drained and consumed. -/
theorem receive_accounting_response : ∃ accounts replies,
      accountMachine.run {} [.openStream 1, .feed sampleResponse, .consume 1 2] = some (accounts, replies) ∧
      accounts.balance 1 = some initialWindow ∧ ∀ reply ∈ replies, ¬ reply.Panics := by
  refine Machine.exists_run (fun result => result.1.balance 1)
    (some initialWindow) (by decide +kernel) fun accounts replies ran balance => ?_
  exact ⟨balance, (receive_accounting ran).1⟩

/-- A malformed control frame behind a response takes the body event with it: the
stream stays registered, and its two body bytes are charged to nothing. -/
theorem receive_accounting_lost_body : ∃ accounts replies, accountMachine.run {} [.openStream 1,
        .feed (sampleResponse ++ Frame.wire ⟨0, flagData, []⟩)] = some (accounts, replies) ∧
      accounts.balance 1 = some (initialWindow - 2) := by
  refine Machine.exists_run (fun result => result.1.balance 1)
    (some (initialWindow - 2)) (by decide +kernel) fun accounts replies ran balance => ?_
  exact balance

end SplRust.Core
