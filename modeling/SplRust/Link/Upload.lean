import SplRust.Home.AcceptorTakes
import SplRust.Lib.CreditLoop
import SplRust.Link.Channel

/-! A request on its way from a dialer to its home. The upload, the two channels and the
home's stream form a credit loop: every call is a run of the loop, so the credit of a
stream is conserved under every interleaving. -/

namespace SplRust.Link
open SplRust.Lib SplRust.Core SplRust.Home List Option Table RecvWindow MuxStreams WindowedUpload
variable {sid : UInt32}

structure UploadLink where
  upload : WindowedUpload
  toHome : Bytes := []
  home : MuxAcceptor
  toDialer : Bytes := []
  decoder : FrameDecoder := {}

/-- Each side's own calls, and the delivery of a number of bytes in each direction. -/
inductive UploadCall where
  | feedBody (bytes : Bytes)
  | pollSend
  | deliver (count : Nat)
  | consume (bytes : Nat)
  | receive (count : Nat)
  deriving DecidableEq, Repr

inductive UploadReply where
  | staged (reply : Except UploadBodyError Unit)
  | polled (reply : Except FrameError (Option Bytes))
  | delivered (reply : AcceptorReply)
  | consumed (reply : AcceptorReply)
  | received (reply : Except MuxError Unit)

def grantAll : WindowedUpload → List Frame → WindowedUpload × Except FrameViolation Unit
  | upload, [] => (upload, .ok ())
  | upload, frame :: frames =>
      match if frame.streamId = upload.streamId ∧ frame.flags = flagWindow then frame.windowCredit
        else none with
      | none => grantAll upload frames
      | some credit =>
          match upload.grant credit with
          | .error violation => (upload, .error violation)
          | .ok upload => grantAll upload frames

namespace UploadLink

def call (link : UploadLink) : UploadCall → UploadLink × UploadReply
  | .feedBody bytes =>
      match link.upload.feedBody bytes with
      | .error err => (link, .staged (.error err))
      | .ok upload => ({ link with upload := upload }, .staged (.ok ()))
  | .pollSend =>
      let (upload, reply) := link.upload.pollSend
      let bytes := match reply with
        | .ok (some bytes) => bytes
        | _ => []
      ({ link with upload := upload, toHome := link.toHome ++ bytes }, .polled reply)
  | .deliver count =>
      let (home, reply) := link.home.call (.feed (link.toHome.take count))
      ({ link with
          home := home, toHome := link.toHome.drop count
          toDialer := link.toDialer ++ replyBytes reply }, .delivered reply)
  | .consume bytes =>
      let (home, reply) := link.home.call (.act (.consume link.upload.streamId bytes))
      ({ link with home := home, toDialer := link.toDialer ++ replyBytes reply }, .consumed reply)
  | .receive count =>
      let link := { link with
        decoder := link.decoder.feed (link.toDialer.take count)
        toDialer := link.toDialer.drop count }
      match link.decoder.drain with
      | (decoder, .error err) => ({ link with decoder := decoder }, .received (.error (.frame err)))
      | (decoder, .ok frames) =>
          let (upload, reply) := grantAll link.upload frames
          ({ link with decoder := decoder, upload := upload }, .received (reply.mapError .protocol))

/-! ### The five places of the credit -/

def flying (link : UploadLink) : List Nat :=
  (incoming link.home link.toHome).filterMap (dataLength link.upload.streamId)

def grants (link : UploadLink) : List Nat :=
  (arriving link.decoder link.toDialer).filterMap (grantLength link.upload.streamId)

def dataInFlight (link : UploadLink) : Nat := link.flying.sum

def debited (link : UploadLink) : Nat := link.home.debited link.upload.streamId

def ungranted (link : UploadLink) : Nat := link.home.ungranted link.upload.streamId

def creditInFlight (link : UploadLink) : Nat := link.grants.sum

def loop (link : UploadLink) : CreditLoop where
  credit := link.upload.sendCredit
  flying := link.flying
  held := link.debited
  returned := link.ungranted
  grants := link.grants

end UploadLink

def uploadMachine : Machine UploadLink UploadCall UploadReply where
  step link call := some (link.call call)

/-! ### What an upload sends -/

inductive UploadPhase where
  | unopened
  | flowing
  | closed
  | skipped
  deriving DecidableEq, Repr

namespace UploadPhase

/-- A request without a head and a body is closed without being opened. -/
def of (upload : WindowedUpload) : UploadPhase :=
  match upload.opened, upload.closed with
  | false, false => unopened
  | true, false => flowing
  | true, true => closed
  | false, true => skipped

def AtHome (sid : UInt32) (mux : MuxStreams) : UploadPhase → Prop
  | unopened => mux.streams.lookup sid = none ∧ mux.Fresh sid ∧
      mux.streams.keys.card < mux.limits.maxConcurrentStreams
  | flowing => ∃ st, mux.streams.lookup sid = some st ∧ st.peerClosed = false ∧ st.localClosed = false
  | closed => ∃ st, mux.streams.lookup sid = some st
  | skipped => mux.streams.lookup sid = none

theorem AtHome.assign {sid : UInt32} {mux : MuxStreams} {side : UploadPhase}
    {st next : StreamState} (home : side.AtHome sid mux)
    (live : mux.streams.lookup sid = some st) (peer : next.peerClosed = st.peerClosed)
    (own : next.localClosed = st.localClosed) :
    side.AtHome sid { mux with streams := assign mux.streams sid (some next) } := by
  cases side with
  | unopened => simp [home.1] at live
  | flowing =>
    obtain ⟨_, hp, reading, still⟩ := home
    rw [live] at hp
    cases hp
    exact ⟨next, lookup_assign _ _ _, peer.trans reading, own.trans still⟩
  | closed => exact ⟨next, lookup_assign _ _ _⟩
  | skipped =>
    have abs : mux.streams.lookup sid = none := home
    simp [abs] at live

end UploadPhase

inductive Sends (sid : UInt32) : UploadPhase → Frame → UploadPhase → Prop where
  | opens (pl : Bytes) : Sends sid .unopened ⟨sid, flagOpen ||| flagData, pl⟩ .flowing
  | data (pl : Bytes) : Sends sid .flowing ⟨sid, flagData, pl⟩ .flowing
  | close : Sends sid .flowing ⟨sid, flagClose, []⟩ .closed
  | skip : Sends sid .unopened ⟨sid, flagClose, []⟩ .skipped

/-- The home takes each frame of an upload as long as its payload is paid for. -/
theorem Sends.taken {pre after : UploadPhase} {fr : Frame} {mux : MuxStreams}
    (sends : Sends sid pre fr after) (nz : sid ≠ 0) (inv : mux.Inv)
    (home : pre.AtHome sid mux)
    (fits : mux.debited sid + mux.ungranted sid + (dataLength sid fr).getD 0 ≤ initialWindow) :
    ∃ next delta, (∀ out, mux.handleItem (.frame fr) out = (next, .ok (out ++ delta))) ∧
      delta.refusals = [] ∧ delta.frames = [] ∧ after.AtHome sid next ∧
      next.debited sid = mux.debited sid + (dataLength sid fr).getD 0 ∧
      next.ungranted sid = mux.ungranted sid := by
  cases sends with
  | opens pl =>
    obtain ⟨abs, fresh, room⟩ := home
    rw [dataLength_data pl (by decide)] at fits ⊢
    have small : pl.length ≤ RecvWindow.new.credit := by
      simp only [getD_some] at fits
      show pl.length ≤ initialWindow
      omega
    obtain ⟨_, debited⟩ := debit_of_le small
    refine ⟨_, _, handleItem_open rfl nz fresh room debited, rfl, rfl, ?_, ?_, ?_⟩
    · exact ⟨_, Finmap.lookup_insert _, rfl, rfl⟩
    · rw [debited_of_live (Finmap.lookup_insert _), debited_of_absent abs]
      simp
    · rw [ungranted_of_live (Finmap.lookup_insert _), ungranted_of_absent abs]
      exact (debit_ok debited).2.2
  | data pl =>
    obtain ⟨st, live, reading, still⟩ := home
    rw [dataLength_data pl (by decide), debited_of_live live, ungranted_of_live live] at fits ⊢
    simp only [getD_some] at fits ⊢
    have accounted := (inv.sound sid st live).accounted
    obtain ⟨_, debited⟩ := debit_of_le (show pl.length ≤ st.receiveWindow.credit by omega)
    have counted : checkedAdd st.debitedNotConsumed pl.length = some (st.debitedNotConsumed + pl.length) := by
      apply checkedAdd_of_le
      simp only [initialWindow, wordMax] at fits ⊢
      omega
    refine ⟨_, _, handleItem_data rfl nz live reading debited counted, rfl, rfl, ?_, ?_, ?_⟩
    · exact ⟨_, lookup_assign _ _ _, reading, still⟩
    · rw [debited_of_live (lookup_assign _ _ _)]
    · rw [ungranted_of_live (lookup_assign _ _ _)]
      exact (debit_ok debited).2.2
  | close =>
    obtain ⟨st, live, -, still⟩ := home
    have entry : closedEntry st = some { st with peerClosed := true } := by simp [closedEntry, still]
    rw [dataLength_other [] (by decide)]
    refine ⟨_, _, handleItem_close rfl rfl nz live, rfl, rfl, ?_, ?_, ?_⟩
    · rw [entry]
      exact ⟨_, lookup_assign _ _ _⟩
    · rw [entry, debited_of_live (lookup_assign _ _ _), debited_of_live live]
      rfl
    · rw [entry, ungranted_of_live (lookup_assign _ _ _), ungranted_of_live live]
  | skip =>
    obtain ⟨abs, -, -⟩ := home
    rw [dataLength_other [] (by decide)]
    refine ⟨mux, {}, ?_, rfl, rfl, abs, rfl, rfl⟩
    intro out
    rw [handleItem_late (Or.inl rfl) nz abs, MuxOutput.append_empty]

theorem sent_taken {pre after : UploadPhase} {fs : List Frame} {mux : MuxStreams}
    (sent : Path (Sends sid) pre fs after) (nz : sid ≠ 0) (inv : mux.Inv)
    (home : pre.AtHome sid mux)
    (fits : mux.debited sid + mux.ungranted sid + (fs.filterMap (dataLength sid)).sum ≤ initialWindow) :
    ∃ next out, handleItems (fs.map .frame) mux {} = (next, .ok out) ∧
      out.refusals = [] ∧ out.frames = [] ∧ after.AtHome sid next ∧
      next.debited sid = mux.debited sid + (fs.filterMap (dataLength sid)).sum ∧
      next.ungranted sid = mux.ungranted sid := by
  induction sent generalizing mux with
  | nil => exact ⟨mux, {}, rfl, rfl, rfl, home, rfl, rfl⟩
  | @cons fst mid last fr fs one rest ih =>
    have split : ((fr :: fs).filterMap (dataLength sid)).sum =
        (dataLength sid fr).getD 0 + (fs.filterMap (dataLength sid)).sum := by
      rw [filterMap_cons]
      cases dataLength sid fr <;> simp
    rw [split] at fits ⊢
    obtain ⟨next, delta, hd, none_refused, none_sent, along, held, gathered⟩ := one.taken nz inv home (by omega)
    have sound : next.Inv := by
      have kept := handleItems_keeps (fun eff inv => inv.item eff) [.frame fr] {} inv
      rw [handleItems_single, hd] at kept
      exact kept
    obtain ⟨final, out, taken, others, silent, ended, tot, same⟩ := ih sound along (by omega)
    refine ⟨final, delta ++ out, handleItems_cons hd taken, ?_, ?_, ended, ?_, same.trans gathered⟩
    · rw [MuxOutput.refusals_append, none_refused, others]
      rfl
    · rw [MuxOutput.frames_append, none_sent, silent]
      rfl
    · rw [tot, held, Nat.add_assoc]

/-! ### The invariant -/

/-- The frames on their way to the home continue what it has read, those on their way
back are grants, and the credit is all there. -/
structure Linked (sid : UInt32) (link : UploadLink) (phase : WirePhase) (mux : MuxStreams)
    (side : UploadPhase) (sent granted : List Frame) : Prop where
  upload : link.upload.streamId = sid
  formed : phase.WellFormed
  held : link.home = phase.hold mux
  roomy : headerLen + maxPayload ≤ mux.limits.decoderBufferBytes
  inv : mux.Inv
  carried : CarriesHome phase link.toHome sent
  following : Path (Sends sid) side sent (.of link.upload)
  home : side.AtHome sid mux
  returning : CarriesDialer link.decoder link.toDialer granted
  grants : ∀ fr ∈ granted, IsGrant sid fr
  conserved : link.loop.total = initialWindow

def UploadLink.Inv (sid : UInt32) (link : UploadLink) : Prop :=
  ∃ phase mux side sent granted, Linked sid link phase mux side sent granted

namespace Linked
variable {upload : WindowedUpload}
variable {sid : UInt32} {link : UploadLink} {ph : WirePhase} {mux : MuxStreams}
  {side : UploadPhase} {sent granted : List Frame}

theorem loop_eq (upload : link.upload.streamId = sid) (held : link.home = ph.hold mux)
    (carried : CarriesHome ph link.toHome sent)
    (returning : CarriesDialer link.decoder link.toDialer granted) :
    link.loop = {
      credit := link.upload.sendCredit
      flying := sent.filterMap (dataLength sid)
      held := mux.debited sid
      returned := mux.ungranted sid
      grants := granted.filterMap (grantLength sid) } := by
  simp only [UploadLink.loop, UploadLink.flying, UploadLink.debited, UploadLink.ungranted,
    UploadLink.grants, upload, held, carried.incoming_eq, returning.arriving_eq]
  rfl

section
variable (linked : Linked sid link ph mux side sent granted)
include linked

theorem feedBody {bs : Bytes} (staged : link.upload.feedBody bs = .ok upload) :
    Linked sid { link with upload := upload } ph mux side sent granted ∧
      CreditLoop.Run link.loop { link with upload := upload }.loop := by
  obtain ⟨same, cr, opened, closed⟩ := feedBody_kept staged
  have loop : { link with upload := upload }.loop = link.loop := by
    simp only [UploadLink.loop, UploadLink.flying, UploadLink.debited, UploadLink.ungranted,
      UploadLink.grants, same, cr]
  have read : UploadPhase.of upload = .of link.upload := by rw [UploadPhase.of, UploadPhase.of, opened, closed]
  refine ⟨{ linked with
    upload := same.trans linked.upload
    following := ?_
    conserved := ?_ }, by rw [loop]⟩
  · rw [read]
    exact linked.following
  · rw [loop]
    exact linked.conserved

theorem sends {fr : Frame} (fits : fr.Encodable) (same : upload.streamId = link.upload.streamId)
    (sends : Sends sid (.of link.upload) fr (.of upload))
    (paid : upload.sendCredit + (dataLength sid fr).getD 0 = link.upload.sendCredit) :
    Linked sid { link with upload := upload, toHome := link.toHome ++ fr.wire } ph mux
        side (sent ++ [fr]) granted ∧
      CreditLoop.Run link.loop { link with upload := upload, toHome := link.toHome ++ fr.wire }.loop := by
  have carried := linked.carried.push fits
  have pre := loop_eq linked.upload linked.held linked.carried linked.returning
  have after : UploadLink.loop { link with upload := upload, toHome := link.toHome ++ fr.wire } = _ :=
    loop_eq (same.trans linked.upload) linked.held carried linked.returning
  have run : CreditLoop.Run link.loop { link with upload := upload, toHome := link.toHome ++ fr.wire }.loop := by
    rw [pre, after, filterMap_append]
    cases counted : dataLength sid fr with
    | none =>
      rw [counted, getD_none, Nat.add_zero] at paid
      simp only [filterMap_cons, counted, filterMap_nil, append_nil, paid]
      exact .refl
    | some length =>
      rw [counted, getD_some] at paid
      have enough : length ≤ link.upload.sendCredit := by omega
      have step : CreditLoop.Step link.loop _ := .send length (by rw [pre]; exact enough)
      rw [pre] at step
      simp only [filterMap_cons, counted, filterMap_nil]
      rw [show upload.sendCredit = link.upload.sendCredit - length by omega]
      exact .single step
  exact ⟨{ linked with
    upload := same.trans linked.upload
    carried := carried
    following := linked.following.snoc sends
    conserved := run.total_eq.trans linked.conserved }, run⟩

theorem pollSend {rep : Except FrameError (Option Bytes)}
    (eff : WindowedUpload.PollEffect link.upload upload rep) :
    ∃ bs more, (rep = .ok none ∧ bs = [] ∨ rep = .ok (some bs)) ∧
      Linked sid { link with upload := upload, toHome := link.toHome ++ bs } ph mux
        side (sent ++ more) granted ∧
      CreditLoop.Run link.loop { link with upload := upload, toHome := link.toHome ++ bs }.loop := by
  cases eff with
  | idle =>
    refine ⟨[], [], Or.inl ⟨rfl, rfl⟩, ?_⟩
    rw [append_nil, append_nil]
    exact ⟨linked, .refl⟩
  | data writing _ same _ opened closed =>
    refine ⟨_, [_], Or.inr rfl, linked.sends link.upload.dataFrame_encodable same ?_ ?_⟩
    · simp only [dataFrame, linked.upload, UploadPhase.of, writing, opened, closed]
      cases link.upload.opened with
      | false => exact .opens _
      | true => exact .data _
    · have carries : (if link.upload.opened then flagData else flagOpen ||| flagData) &&&
          flagData ≠ 0 := by
        split <;> decide
      rw [dataFrame, linked.upload, dataLength_data _ carries, getD_some]
      omega
  | close writing same kept opened closed =>
    refine ⟨_, [_], Or.inr rfl, linked.sends link.upload.closeFrame_encodable same ?_ ?_⟩
    · simp only [closeFrame, linked.upload, UploadPhase.of, writing, opened, closed]
      cases link.upload.opened with
      | false => exact .skip
      | true => exact .close
    · rw [closeFrame, dataLength_other [] (by decide), kept]
      rfl

/-- The home reads some bytes; whatever frames they complete are taken. -/
theorem deliver (nz : sid ≠ 0) (count : Nat) :
    ∃ next out, link.call (.deliver count) = (next, .delivered (.ok (some out))) ∧
      out.refusals = [] ∧ next.Inv sid ∧ CreditLoop.Run link.loop next.loop := by
  have pre := loop_eq linked.upload linked.held linked.carried linked.returning
  have carried := linked.carried
  rw [← take_append_drop count link.toHome] at carried
  obtain ⟨early, late, rfl, items, later⟩ := carried.deliver linked.formed
  obtain ⟨mid, fst, snd⟩ := linked.following.split
  have parts : link.loop.flying = early.filterMap (dataLength sid) ++ late.filterMap (dataLength sid) := by
    rw [pre, filterMap_append]
  have fits := CreditLoop.arrive_fits linked.conserved parts
  rw [pre] at fits
  obtain ⟨next, out, hd, none_refused, none_sent, home, held, gathered⟩ :=
    sent_taken fst nz linked.inv linked.home fits
  have lim := handleItems_limits (early.map .frame) mux {}
  have sound := handleItems_keeps (fun eff inv => inv.item eff) (early.map .frame) {} linked.inv
  rw [hd] at lim sound
  have fed : link.home.call (.feed (link.toHome.take count)) =
      ((ph.after (link.toHome.take count)).hold next, .ok (some out)) := by
    rw [linked.held]
    exact MuxAcceptor.call_feed linked.formed linked.roomy (by rw [items]; exact hd)
  have quiet : replyBytes (.ok (some out)) = [] := by
    rw [replyBytes, none_sent]
    rfl
  refine ⟨{ link with
    home := (ph.after (link.toHome.take count)).hold next
    toHome := link.toHome.drop count }, out, ?_, none_refused, ?_⟩
  · simp only [UploadLink.call, fed, quiet, append_nil]
  have after : UploadLink.loop { link with
      home := (ph.after (link.toHome.take count)).hold next
      toHome := link.toHome.drop count } = _ :=
    loop_eq linked.upload rfl later linked.returning
  have run : CreditLoop.Run link.loop (UploadLink.loop { link with
      home := (ph.after (link.toHome.take count)).hold next
      toHome := link.toHome.drop count }) := by
    have arrived := CreditLoop.Run.arrive link.loop parts
    rw [after, held, gathered]
    rw [pre] at arrived ⊢
    exact arrived
  exact ⟨⟨_, next, mid, late, granted, {
    upload := linked.upload
    formed := WirePhase.after_wellFormed linked.formed _
    held := rfl
    roomy := lim.symm ▸ linked.roomy
    inv := sound
    carried := later
    following := snd
    home := home
    returning := linked.returning
    grants := linked.grants
    conserved := run.total_eq.trans linked.conserved }⟩, run⟩

/-- Delivered bytes are consumed; a grant may start its way back. -/
theorem consumed {st entry : StreamState} {bs : Nat} {grant : Option UInt32} (inv : MuxStreams.Inv { mux with
      streams := assign mux.streams sid (some entry) })
    (live : mux.streams.lookup sid = some st) (fits : bs ≤ st.debitedNotConsumed)
    (left : entry.debitedNotConsumed = st.debitedNotConsumed - bs)
    (moved : entry.receiveWindow.unacked + RecvWindow.granted grant = st.receiveWindow.unacked + bs)
    (peer : entry.peerClosed = st.peerClosed) (own : entry.localClosed = st.localClosed) :
    let after := { mux with streams := assign mux.streams sid (some entry) }
    let fs := (grant.map (Frame.window sid)).toList
    let next := { link with home := ph.hold after, toDialer := link.toDialer ++ fs.flatMap Frame.wire }
    Linked sid next ph after side sent (granted ++ fs) ∧ CreditLoop.Run link.loop next.loop := by
  intro after fs next
  have returning : CarriesDialer next.decoder next.toDialer (granted ++ fs) :=
    linked.returning.pushAll fun fr mem => (isGrant_of_mem fr mem).encodable
  have hp : after.streams.lookup sid = some entry := lookup_assign _ _ _
  have run : CreditLoop.Run link.loop next.loop := by
    have start := loop_eq linked.upload linked.held linked.carried linked.returning
    have stop : next.loop = _ := loop_eq linked.upload rfl linked.carried returning
    have steps := CreditLoop.Run.consume link.loop (grant.map UInt32.toNat)
      (show bs ≤ link.loop.held by rw [start, debited_of_live live]; exact fits)
      (show entry.receiveWindow.unacked + _ = link.loop.returned + bs by
        rw [start, ungranted_of_live live, ← moved]
        cases grant <;> rfl)
    rw [stop, debited_of_live hp, ungranted_of_live hp,
      filterMap_append, grantLength_toList, left, ← debited_of_live live]
    rw [start] at steps ⊢
    exact steps
  exact ⟨{ linked with
    held := rfl
    inv := inv
    home := linked.home.assign live peer own
    returning := returning
    grants := forall_mem_append.mpr ⟨linked.grants, isGrant_of_mem⟩
    conserved := run.total_eq.trans linked.conserved }, run⟩

theorem consume (bs : Nat) : ∃ next rep, link.call (.consume bs) = (next, .consumed rep) ∧
      rep ≠ .error .panic ∧ next.Inv sid ∧ CreditLoop.Run link.loop next.loop := by
  have called : link.call (.consume bs) = ({ link with
          home := ph.hold (mux.localCall (.consume sid bs)).1
          toDialer := link.toDialer ++ replyBytes (mux.localCall (.consume sid bs)).2 },
        .consumed (mux.localCall (.consume sid bs)).2) := by
    simp only [UploadLink.call, linked.upload, linked.held, MuxAcceptor.call_act]
  rw [called]
  have eff := mux.localCall_effect (.consume sid bs)
  have sound := linked.inv.local_call eff
  have returns := linked.inv.no_panic eff
  generalize (mux.localCall (.consume sid bs)).1 = after at eff sound ⊢
  generalize (mux.localCall (.consume sid bs)).2 = rep at eff returns ⊢
  refine ⟨_, _, rfl, returns, ?_⟩
  cases eff with
  | failed err =>
    have same : { link with home := ph.hold mux, toDialer := link.toDialer ++ replyBytes (.error (.error err)) } =
        link := by
      simp only [replyBytes, append_nil, ← linked.held]
    rw [same]
    exact ⟨⟨ph, mux, side, sent, granted, linked⟩, .refl⟩
  | panicked => exact absurd rfl returns
  | @consumed _ _ _ _ _ live fits taken =>
    obtain ⟨next, run⟩ := linked.consumed sound live fits rfl (consume_some taken).2.2 rfl rfl
    exact ⟨⟨_, _, _, _, _, next⟩, run⟩

end

end Linked

theorem grantAll_ok {upload : WindowedUpload} {fs : List Frame}
    (windows : ∀ fr ∈ fs, IsGrant upload.streamId fr)
    (fits : upload.sendCredit + (fs.filterMap (grantLength upload.streamId)).sum ≤ maxSendCredit) :
    ∃ next, grantAll upload fs = (next, .ok ()) ∧ next.streamId = upload.streamId ∧
      next.sendCredit = upload.sendCredit + (fs.filterMap (grantLength upload.streamId)).sum ∧
      UploadPhase.of next = .of upload := by
  induction fs generalizing upload with
  | nil => exact ⟨upload, rfl, rfl, rfl, rfl⟩
  | cons fr fs ih =>
    obtain ⟨⟨cr, rfl⟩, others⟩ := forall_mem_cons.mp windows
    rw [filterMap_cons, grantLength_window, sum_cons] at fits ⊢
    obtain ⟨_, granted, same, _, opened, closed⟩ := grant_of_le
      (show upload.sendCredit + cr.toNat ≤ maxSendCredit by omega)
    rw [← same] at others fits ⊢
    obtain ⟨next, rest, still, _, ph⟩ := ih others (by omega)
    refine ⟨next, ?_, still, by omega, ?_⟩
    · rw [grantAll, same, if_pos ⟨rfl, rfl⟩, Frame.windowCredit_window]
      simp only [granted]
      exact rest
    · rw [ph, UploadPhase.of, UploadPhase.of, opened, closed]

namespace Linked
variable {sid : UInt32} {link : UploadLink} {ph : WirePhase} {mux : MuxStreams}
  {side : UploadPhase} {sent granted : List Frame}

theorem receive (linked : Linked sid link ph mux side sent granted) (count : Nat) :
    ∃ next, link.call (.receive count) = (next, .received (.ok ())) ∧ next.Inv sid ∧
      CreditLoop.Run link.loop next.loop := by
  have start := loop_eq linked.upload linked.held linked.carried linked.returning
  have returning := linked.returning
  rw [← take_append_drop count link.toDialer] at returning
  obtain ⟨early, late, held, rfl, drained, later⟩ := returning.deliver
  obtain ⟨these, others⟩ := forall_mem_append.mp linked.grants
  have parts : link.loop.grants = early.filterMap (grantLength sid) ++ late.filterMap (grantLength sid) := by
    rw [start, filterMap_append]
  have fits := CreditLoop.redeem_fits linked.conserved parts
  rw [start] at fits
  have capped : initialWindow ≤ maxSendCredit := by decide
  obtain ⟨upload, credited, same, tot, read⟩ := grantAll_ok
    (show ∀ fr ∈ early, IsGrant link.upload.streamId fr by
      rw [linked.upload]; exact these)
    (by rw [linked.upload]; exact fits.trans capped)
  refine ⟨{ link with decoder := ⟨held⟩, upload := upload, toDialer := link.toDialer.drop count }, ?_, ?_⟩
  · simp only [UploadLink.call, FrameDecoder.drain, FrameDecoder.feed, drained, credited]
    rfl
  have stop : UploadLink.loop { link with
      decoder := ⟨held⟩, upload := upload, toDialer := link.toDialer.drop count } = _ :=
    loop_eq (same.trans linked.upload) linked.held linked.carried later
  have run : CreditLoop.Run link.loop (UploadLink.loop { link with
      decoder := ⟨held⟩, upload := upload, toDialer := link.toDialer.drop count }) := by
    have steps := CreditLoop.Run.redeem link.loop parts
    rw [stop, tot, linked.upload]
    rw [start] at steps ⊢
    exact steps
  exact ⟨⟨ph, mux, side, sent, late, { linked with
    upload := same.trans linked.upload
    following := by rw [read]; exact linked.following
    returning := later
    grants := others
    conserved := run.total_eq.trans linked.conserved }⟩, run⟩

end Linked

/-- No frame of the stream is refused, no grant is too large, nothing panics. -/
def UploadReply.Clean : UploadReply → Prop
  | .staged _ => True
  | .polled reply => ∀ err, reply ≠ .error err
  | .delivered reply => ∃ out, reply = .ok (some out) ∧ out.refusals = []
  | .consumed reply => reply ≠ .error .panic
  | .received reply => reply = .ok ()

theorem UploadLink.Inv.call {link : UploadLink} (inv : link.Inv sid) (nz : sid ≠ 0) (call : UploadCall) :
    ∃ next rep, link.call call = (next, rep) ∧ rep.Clean ∧ next.Inv sid ∧ CreditLoop.Run link.loop next.loop := by
  obtain ⟨_, _, _, _, _, linked⟩ := inv
  cases call with
  | feedBody bs =>
    cases staged : link.upload.feedBody bs with
    | error err =>
      refine ⟨link, .staged (.error err), ?_, trivial, ⟨_, _, _, _, _, linked⟩, .refl⟩
      simp only [UploadLink.call, staged]
    | ok =>
      obtain ⟨after, run⟩ := linked.feedBody staged
      refine ⟨_, .staged (.ok ()), ?_, trivial, ⟨_, _, _, _, _, after⟩, run⟩
      simp only [UploadLink.call, staged]
  | pollSend =>
    have eff := link.upload.pollSend_effect
    rcases polled : link.upload.pollSend with ⟨upload, rep⟩
    rw [polled] at eff
    obtain ⟨bs, _, sent_eq, after, run⟩ := linked.pollSend eff
    rcases sent_eq with ⟨rfl, rfl⟩ | rfl
    · refine ⟨_, .polled (.ok none), ?_, by simp [UploadReply.Clean], ⟨_, _, _, _, _, after⟩, run⟩
      simp only [UploadLink.call, polled]
    · refine ⟨_, .polled (.ok (some bs)), ?_, by simp [UploadReply.Clean], ⟨_, _, _, _, _, after⟩, run⟩
      simp only [UploadLink.call, polled]
  | deliver count =>
    obtain ⟨next, out, called, none_refused, after, run⟩ := linked.deliver nz count
    exact ⟨next, _, called, ⟨out, rfl, none_refused⟩, after, run⟩
  | consume bs =>
    obtain ⟨next, _, called, returns, after, run⟩ := linked.consume bs
    exact ⟨next, _, called, returns, after, run⟩
  | receive count =>
    obtain ⟨next, called, after, run⟩ := linked.receive count
    exact ⟨next, _, called, rfl, after, run⟩

theorem UploadLink.Inv.start {lim : MuxLimits} {home : MuxAcceptor} (valid : home.Valid lim)
    (aligned : home = WirePhase.start.hold home.toMuxStreams) (fresh : home.Fresh sid)
    (room : home.streams.keys.card < lim.maxConcurrentStreams) (head : Bytes)
    (len : Nat) :
    UploadLink.Inv sid { upload := .new sid head len, home := home } := by
  have abs := valid.inv.absent fresh
  refine ⟨.start, home.toMuxStreams, .unopened, [], [], {
    upload := rfl
    formed := WirePhase.start_wellFormed
    held := aligned
    roomy := by rw [valid.limits_eq]; exact valid.roomy
    inv := valid.inv
    carried := .start
    following := .nil
    home := ⟨abs, fresh, by rw [valid.limits_eq]; exact room⟩
    returning := .start rfl
    grants := by simp
    conserved := ?_ }⟩
  have named : (WindowedUpload.new sid head len).streamId = sid := rfl
  rw [Linked.loop_eq named aligned .start (.start rfl), debited_of_absent abs, ungranted_of_absent abs]
  simp [CreditLoop.total, WindowedUpload.new]

/-- Credit of a request is conserved. A home with room for one more stream receives an upload on a
fresh id. Under every interleaving, what the upload may still send, what is on its way, what the home
holds and what is on its way back add up to the initial window. So the home refuses none of the
frames, and the upload can take every grant. -/
theorem UploadLink.credit_conserved {limits : MuxLimits} {acceptor home : MuxAcceptor}
    {earlier : List AcceptorCall} {heard : List AcceptorReply} {streamId : UInt32} {head : Bytes}
    {declaredBodyLen : Nat} {calls : List UploadCall} {last : UploadLink}
    {replies : List UploadReply} (made : MuxAcceptor.new limits = .ok acceptor)
    (served : acceptorMachine.run acceptor earlier = some (home, heard))
    (header : home.headerBuffer = []) (decoder : home.decoder.buf = [])
    (discarded : home.discardedPayloadRemaining = none) (fresh : home.Fresh streamId)
    (room : home.streams.keys.card < limits.maxConcurrentStreams)
    (ran : uploadMachine.run { upload := .new streamId head declaredBodyLen, home := home } calls =
      some (last, replies)) :
    last.upload.sendCredit + last.dataInFlight + last.debited + last.ungranted + last.creditInFlight = initialWindow ∧
      (∀ reply, .delivered reply ∈ replies → ∃ output, reply = .ok (some output) ∧ output.refusals = []) ∧
      ∀ reply, .received reply ∈ replies → reply = .ok () := by
  have valid := (MuxAcceptor.Valid.start made).run served
  have aligned := valid.aligned header decoder discarded
  have nonzero : streamId ≠ 0 := by
    rintro rfl
    exact absurd fresh.1 (by decide)
  have reached : last.Inv streamId ∧ ∀ reply ∈ replies, reply.Clean := by
    apply uploadMachine.run_history
      (motive := fun link _ replies => link.Inv streamId ∧ ∀ reply ∈ replies, reply.Clean)
      ⟨.start valid aligned fresh room head declaredBodyLen, by simp⟩ _ ran
    intro state calls replies call next reply before stepped
    obtain ⟨_, _, called, clean, inv, -⟩ := before.1.call nonzero call
    have same : state.call call = (next, reply) := some.inj stepped
    rw [called] at same
    cases same
    exact ⟨inv, forall_mem_append.mpr ⟨before.2, by simpa using clean⟩⟩
  obtain ⟨⟨_, _, _, _, _, linked⟩, clean⟩ := reached
  exact ⟨linked.conserved, fun reply member => clean _ member, fun reply member => clean _ member⟩

/-- A request cut in its header and in its payload, then partly consumed. -/
theorem UploadLink.credit_conserved_request : ∃ last replies, uploadMachine.run
        { upload := .new 1 (asciiBytes "GET /") 2, home := { limits := {} } }
        [.pollSend, .deliver 3, .deliver 9, .feedBody (asciiBytes "hi"), .pollSend, .deliver 100,
          .consume 4, .pollSend, .receive 7] = some (last, replies) ∧
      last.debited = 3 ∧
      last.upload.sendCredit + last.dataInFlight + last.debited + last.ungranted +
        last.creditInFlight = initialWindow := by
  refine Machine.exists_run (fun result => result.1.debited) 3 (by decide +kernel) fun last replies ran debited => ?_
  refine ⟨debited, ?_⟩
  exact (UploadLink.credit_conserved (rfl : MuxAcceptor.new {} = .ok { limits := {} })
    (acceptorMachine.run_nil _) rfl rfl rfl ⟨by decide, by simp⟩ (by decide) ran).1

end SplRust.Link
