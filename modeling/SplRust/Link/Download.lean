import SplRust.Home.AcceptorTakes
import SplRust.Link.DataBatch

/-! A response on its way from the home to the dialer. The home's stream, the two channels,
the demultiplexer and the reader of its body events form a credit loop, as an upload does
in the other direction. The stream can end early at the dialer, when the response is
malformed; the home then gets RESETs for what it still sends. -/

namespace SplRust.Link
open SplRust.Lib SplRust.Core SplRust.Home List Option MuxStreams CarrierDemux
variable {sid : UInt32} {fs back : List Frame} {side : ReturnPhase} {mux : MuxStreams}

structure DownloadLink where
  streamId : UInt32
  home : MuxAcceptor
  toDialer : Bytes := []
  demux : CarrierDemux
  toHome : Bytes := []
  /-- Body events that were drained and not yet consumed. -/
  ledger : Ledger := []

inductive DownloadCall where
  | trySendData (bytes : Bytes)
  | receive (count : Nat)
  | consume (wireCost : Nat)
  | deliver (count : Nat)
  deriving DecidableEq, Repr

inductive DownloadReply where
  | sent (reply : AcceptorReply)
  | received (reply : Except (Failure MuxError) DemuxOutput)
  | consumed (reply : Except (Failure MuxError) (Option Bytes))
  | delivered (reply : AcceptorReply)

/-- The bytes a reply of the demultiplexer puts on the wire. -/
def demuxBytes : Except (Failure MuxError) DemuxOutput → Bytes
  | .ok out => out.pongs.flatten ++ out.emitFrames.flatten
  | .error _ => []

def grantBytes : Except (Failure MuxError) (Option Bytes) → Bytes
  | .ok (some bytes) => bytes
  | _ => []

namespace DownloadLink

/-- `consume` is called only with the cost of a body event, once for each. -/
def step (link : DownloadLink) : DownloadCall → Option (DownloadLink × DownloadReply)
  | .trySendData bytes =>
      let (home, reply) := link.home.call (.act (.trySendData link.streamId bytes))
      some ({ link with home := home, toDialer := link.toDialer ++ replyBytes reply }, .sent reply)
  | .receive count =>
      let (demux, reply) := link.demux.feed (link.toDialer.take count)
      some ({ link with
          demux := demux, toDialer := link.toDialer.drop count
          toHome := link.toHome ++ demuxBytes reply
          ledger := link.ledger ++ (CarrierReply.fed reply).bodies }, .received reply)
  | .consume wireCost =>
      if (link.streamId, wireCost) ∈ link.ledger then
        let (demux, reply) := link.demux.consume link.streamId wireCost
        some ({ link with
            demux := demux, toHome := link.toHome ++ grantBytes reply
            ledger := link.ledger.erase (link.streamId, wireCost) }, .consumed reply)
      else none
  | .deliver count =>
      let (home, reply) := link.home.call (.feed (link.toHome.take count))
      some ({ link with
          home := home, toHome := link.toHome.drop count
          toDialer := link.toDialer ++ replyBytes reply }, .delivered reply)

/-! ### The five places of the credit -/

def entry (link : DownloadLink) : Option CarrierStream := link.demux.streams.lookup link.streamId

def sendCredit (link : DownloadLink) : Nat := link.home.sendCredit link.streamId

def flying (link : DownloadLink) : List Nat :=
  (arriving link.demux.decoder link.toDialer).filterMap (dataLength link.streamId)

def grants (link : DownloadLink) : List Nat := (incoming link.home link.toHome).filterMap (grantLength link.streamId)

def dataInFlight (link : DownloadLink) : Nat := link.flying.sum

def debited (link : DownloadLink) : Nat := (link.entry.map fun stream => stream.recvWindow.outstanding).getD 0

def ungranted (link : DownloadLink) : Nat := (link.entry.map fun stream => stream.recvWindow.unacked).getD 0

def creditInFlight (link : DownloadLink) : Nat := link.grants.sum

end DownloadLink

def downloadMachine : Machine DownloadLink DownloadCall DownloadReply where
  step := DownloadLink.step

/-! ### What the dialer sends back -/

/-- Whether the home still has the stream. -/
inductive ReturnPhase where
  | live
  | gone
  deriving DecidableEq, Repr

def ReturnPhase.AtHome (sid : UInt32) (mux : MuxStreams) : ReturnPhase → Prop
  | live => ∃ st, mux.streams.lookup sid = some st
  | gone => mux.streams.lookup sid = none

inductive Returns (sid : UInt32) : ReturnPhase → Frame → ReturnPhase → Prop where
  | grant (credit : UInt32) : Returns sid .live (.window sid credit) .live
  | reset (before : ReturnPhase) : Returns sid before (.reset sid resetProtocolError) .gone

theorem returned_gone {fst last : ReturnPhase} (path : Path (Returns sid) fst fs last)
    (gone : fst = .gone) : last = .gone := by
  induction path with
  | nil => exact gone
  | cons one _ ih =>
    apply ih
    cases one with
    | grant => cases gone
    | reset => rfl

theorem returned_grants {more : List Frame} (path : Path (Returns sid) side fs .live)
    (grants : ∀ fr ∈ more, IsGrant sid fr) : Path (Returns sid) side (fs ++ more) .live := by
  induction more generalizing fs with
  | nil => rwa [append_nil]
  | cons fr more ih =>
    obtain ⟨⟨cr, rfl⟩, others⟩ := forall_mem_cons.mp grants
    rw [append_cons]
    exact ih (path.snoc (.grant cr)) others

theorem returned_resets {last : ReturnPhase} {more : List Frame} (path : Path (Returns sid) side fs last)
    (resets : ∀ fr ∈ more, IsReset sid fr) : ∃ after, Path (Returns sid) side (fs ++ more) after := by
  induction more generalizing fs last with
  | nil => exact ⟨last, by rwa [append_nil]⟩
  | cons fr more ih =>
    obtain ⟨rfl, others⟩ := forall_mem_cons.mp resets
    rw [append_cons]
    exact ih (path.snoc (.reset last)) others

/-- The home takes a grant or a RESET, as long as its credit stays within the cap. -/
theorem Returns.taken {pre after : ReturnPhase} {fr : Frame}
    (returns : Returns sid pre fr after) (nz : sid ≠ 0) (home : pre.AtHome sid mux)
    (fits : mux.sendCredit sid + (grantLength sid fr).getD 0 ≤ initialWindow) :
    ∃ next delta, (∀ out, mux.handleItem (.frame fr) out = (next, .ok (out ++ delta))) ∧
      delta.refusals = [] ∧ delta.frames = [] ∧ after.AtHome sid next ∧ next.sendCredit sid ≤
        mux.sendCredit sid + (grantLength sid fr).getD 0 ∧ (after = .live → next.sendCredit sid =
        mux.sendCredit sid + (grantLength sid fr).getD 0) := by
  cases returns with
  | grant cr =>
    obtain ⟨st, live⟩ := home
    rw [grantLength_window, sendCredit_of_live live] at fits ⊢
    have capped : st.sendCredit + cr.toNat ≤ maxSendCredit :=
      fits.trans (show initialWindow ≤ maxSendCredit by decide)
    have hp : (Table.assign mux.streams sid (some { st with sendCredit := st.sendCredit + cr.toNat })).lookup sid =
        some { st with sendCredit := st.sendCredit + cr.toNat } :=
      Table.lookup_assign _ _ _
    refine ⟨_, _, handleItem_window rfl nz live (Frame.windowCredit_window _ _)
      capped, rfl, rfl, ⟨_, hp⟩, ?_, fun _ => ?_⟩
    · rw [sendCredit_of_live hp]
      rfl
    · rw [sendCredit_of_live hp]
      rfl
  | reset =>
    cases pre with
    | live =>
      obtain ⟨_, live⟩ := home
      have erased : Finmap.lookup sid (mux.streams.erase sid) = none := Finmap.lookup_erase _ _
      refine ⟨_, _, handleItem_reset rfl rfl nz live, rfl, rfl, erased, ?_, ?_⟩
      · rw [sendCredit_of_absent erased]
        exact Nat.zero_le _
      · intro impossible
        cases impossible
    | gone =>
      refine ⟨mux, {}, ?_, rfl, rfl, home, Nat.le_add_right _ _, ?_⟩
      · intro out
        rw [MuxOutput.append_empty]
        apply handleItem_late (Or.inr rfl) nz
        exact home
      · intro impossible
        cases impossible

theorem returned_taken {pre after : ReturnPhase} (path : Path (Returns sid) pre fs after) (nz : sid ≠ 0)
    (home : pre.AtHome sid mux)
    (fits : mux.sendCredit sid + (fs.filterMap (grantLength sid)).sum ≤ initialWindow) :
    ∃ next out, handleItems (fs.map .frame) mux {} = (next, .ok out) ∧
      out.refusals = [] ∧ out.frames = [] ∧ after.AtHome sid next ∧ next.sendCredit sid ≤
        mux.sendCredit sid + (fs.filterMap (grantLength sid)).sum ∧ (after = .live → next.sendCredit sid =
        mux.sendCredit sid + (fs.filterMap (grantLength sid)).sum) := by
  induction path generalizing mux with
  | nil => exact ⟨mux, {}, rfl, rfl, rfl, home, Nat.le_refl _, fun _ => rfl⟩
  | @cons fst mid last fr fs one rest ih =>
    have split : ((fr :: fs).filterMap (grantLength sid)).sum =
        (grantLength sid fr).getD 0 + (fs.filterMap (grantLength sid)).sum := by
      rw [filterMap_cons]
      cases grantLength sid fr <;> simp
    rw [split] at fits ⊢
    obtain ⟨_, delta, hd, none_refused, none_sent, along, _, exactly⟩ := one.taken nz home (by omega)
    obtain ⟨final, out, taken, others, silent, ended, _, tot⟩ := ih along (by omega)
    refine ⟨final, delta ++ out, handleItems_cons hd taken, ?_, ?_, ended, by omega, ?_⟩
    · rw [MuxOutput.refusals_append, none_refused, others]
      rfl
    · rw [MuxOutput.frames_append, none_sent, silent]
      rfl
    · intro live
      -- A stream that is there at the end was there all along.
      have there : mid = .live := by
        cases mid with
        | live => rfl
        | gone => exact (returned_gone rest rfl).symm.trans live
      rw [tot live, exactly there, Nat.add_assoc]

/-! ### The invariant -/

/-- The credit loop around the dialer's entry, with the frames in both channels given. -/
def downloadLoop (sid : UInt32) (mux : MuxStreams) (data back : List Frame)
    (stream : CarrierStream) : CreditLoop :=
  receiverLoop (mux.sendCredit sid) (data.filterMap (dataLength sid)) stream.recvWindow
    (back.filterMap (grantLength sid))

/-- The frames on their way back lead the home on from where it is. As long as the dialer
has the stream, they are grants and the credit is all there. -/
def Answering (sid : UInt32) (mux : MuxStreams) (side : ReturnPhase) (data back : List Frame)
    (en : Option CarrierStream) : Prop :=
  ∃ final, Path (Returns sid) side back final ∧ ∀ st, en = some st →
    final = .live ∧ (downloadLoop sid mux data back st).total = initialWindow

structure Downloading (sid : UInt32) (link : DownloadLink) (phase : WirePhase)
    (mux : MuxStreams) (side : ReturnPhase) (data back : List Frame) : Prop where
  named : link.streamId = sid
  formed : phase.WellFormed
  held : link.home = phase.hold mux
  roomy : headerLen + maxPayload ≤ mux.limits.decoderBufferBytes
  sent : CarriesDialer link.demux.decoder link.toDialer data
  payloads : ∀ fr ∈ data, ∃ pl, fr = ⟨sid, flagData, pl⟩
  carried : CarriesHome phase link.toHome back
  home : side.AtHome sid mux
  bounded : mux.sendCredit sid + (back.filterMap (grantLength sid)).sum ≤ initialWindow
  whole : link.demux.fatalViolation = none
  balanced : Balanced (link.demux.streams.lookup sid) (link.ledger.owed sid)
  answering : Answering sid mux side data back (link.demux.streams.lookup sid)

def DownloadLink.Inv (sid : UInt32) (link : DownloadLink) : Prop :=
  ∃ phase mux side data back, Downloading sid link phase mux side data back

theorem downloadLoop_bounded {data : List Frame} {st : CarrierStream}
    (full : (downloadLoop sid mux data back st).total = initialWindow) :
    mux.sendCredit sid + (back.filterMap (grantLength sid)).sum ≤ initialWindow :=
  CreditLoop.redeem_fits full (append_nil _).symm

/-- The dialer reads DATA frames: grants go back while the stream lasts, RESETs later. -/
theorem Answering.receive {early late : List Frame} {dm : CarrierDemux}
    (answering : Answering sid mux side (early ++ late) back (dm.streams.lookup sid)) (nz : sid ≠ 0)
    (payloads : ∀ fr ∈ early, ∃ pl, fr = ⟨sid, flagData, pl⟩)
    (bounded : mux.sendCredit sid + (back.filterMap (grantLength sid)).sum ≤
      initialWindow) : ∃ next res, ∃ more : List Frame,
      feedFrames early dm {} = (next, .ok res) ∧ res.pongs = [] ∧
      res.emitFrames = more.map Frame.wire ∧ (∀ fr ∈ more, IsGrant sid fr ∨ IsReset sid fr) ∧
      Answering sid mux side late (back ++ more) (next.streams.lookup sid) ∧
      mux.sendCredit sid + ((back ++ more).filterMap (grantLength sid)).sum ≤ initialWindow := by
  obtain ⟨_, path, conserved⟩ := answering
  have after_resets {next : CarrierDemux} {more : List Frame} (gone : next.streams.lookup sid = none)
      (resets : ∀ fr ∈ more, IsReset sid fr) :
      Answering sid mux side late (back ++ more) (next.streams.lookup sid) ∧
        mux.sendCredit sid + ((back ++ more).filterMap (grantLength sid)).sum ≤ initialWindow := by
    have silent : more.filterMap (grantLength sid) = [] :=
      filterMap_eq_nil_iff.mpr fun fr mem => (resets fr mem).no_grant
    obtain ⟨last, longer⟩ := returned_resets path resets
    refine ⟨⟨last, longer, fun st hp => ?_⟩, ?_⟩
    · rw [gone] at hp
      cases hp
    · rwa [filterMap_append, silent, append_nil]
  cases live : dm.streams.lookup sid with
  | none =>
    obtain ⟨next, res, answers, hd, pongs, gone, emitted, resets⟩ :=
      feedFrames_gone early dm {} [] nz payloads live rfl (by simp)
    exact ⟨next, res, answers, hd, pongs, emitted, fun fr mem =>
      Or.inr (resets fr mem), after_resets gone resets⟩
  | some st =>
    obtain ⟨rfl, full⟩ := conserved st live
    have fits := CreditLoop.arrive_fits full (filterMap_append)
    have room : (early.filterMap (dataLength sid)).sum ≤ st.recvWindow.credit := by
      have held : st.recvWindow.outstanding + st.recvWindow.unacked +
        (early.filterMap (dataLength sid)).sum ≤ initialWindow := fits
      have accounted := st.recvWindow.outstanding_eq
      omega
    obtain ⟨next, res, hd, pongs, after⟩ := feedFrames_paid early dm st {} [] nz payloads live room rfl (by simp)
    rcases after with ⟨last, more, still, emitted, grants, run⟩ | ⟨gone, answers, emitted, resets⟩
    · have tot : (downloadLoop sid mux late (back ++ more) last).total = initialWindow := by
        have ran := run (mux.sendCredit sid) (late.filterMap (dataLength sid)) (back.filterMap (grantLength sid))
        rw [← filterMap_append, ← filterMap_append] at ran
        exact ran.total_eq.trans full
      refine ⟨next, res, more, hd, pongs, emitted, fun fr mem =>
        Or.inl (grants fr mem), ⟨.live, returned_grants path grants, ?_⟩,
        downloadLoop_bounded tot⟩
      intro st hp
      rw [still] at hp
      cases hp
      exact ⟨rfl, tot⟩
    · exact ⟨next, res, answers, hd, pongs, emitted, fun fr mem =>
        Or.inr (resets fr mem), after_resets gone resets⟩

theorem ReturnPhase.AtHome.live_of_lookup {st : StreamState} (home : side.AtHome sid mux)
    (live : mux.streams.lookup sid = some st) : side = .live := by
  cases side with
  | live => rfl
  | gone =>
    have abs : mux.streams.lookup sid = none := home
    rw [abs] at live
    cases live

def DownloadReply.Clean (sid : UInt32) : DownloadReply → Prop
  | .sent reply => reply ≠ .error .panic
  | .received reply => ∃ out, reply = .ok out ∧ (Frame.reset sid resetFlowControlError).wire ∉ out.emitFrames
  | .consumed reply => ∃ grant, reply = .ok grant
  | .delivered reply => ∃ output, reply = .ok (some output) ∧ output.refusals = []

namespace Downloading
variable {sid : UInt32} {link : DownloadLink} {ph : WirePhase} {mux : MuxStreams}
  {side : ReturnPhase} {data back : List Frame}

section
variable (inv : Downloading sid link ph mux side data back)
include inv

theorem trySendData (bs : Bytes) :
    ∃ next rep, link.step (.trySendData bs) = some (next, rep) ∧ rep.Clean sid ∧ next.Inv sid := by
  have called : link.step (.trySendData bs) = some ({ link with
          home := ph.hold (mux.localCall (.trySendData sid bs)).1
          toDialer := link.toDialer ++ replyBytes (mux.localCall (.trySendData sid bs)).2 },
        .sent (mux.localCall (.trySendData sid bs)).2) := by
    simp only [DownloadLink.step, inv.named, inv.held, MuxAcceptor.call_act]
  rw [called]
  have eff := mux.localCall_effect (.trySendData sid bs)
  generalize (mux.localCall (.trySendData sid bs)).1 = after at eff ⊢
  generalize (mux.localCall (.trySendData sid bs)).2 = rep at eff ⊢
  refine ⟨_, _, rfl, ?_⟩
  have unchanged {rep : AcceptorReply} (quiet : replyBytes rep = []) : DownloadLink.Inv sid
      { link with home := ph.hold mux, toDialer := link.toDialer ++ replyBytes rep } := by
    rw [quiet, append_nil, ← inv.held]
    exact ⟨ph, mux, side, data, back, inv⟩
  cases eff with
  | failed | withheld => exact ⟨by simp [DownloadReply.Clean], unchanged rfl⟩
  | @sent _ _ st live fits small =>
    have encodable : (Frame.mk sid flagData bs).Encodable :=
      ⟨small.trans (by decide), show flagData &&& flagReservedMask = 0 by decide⟩
    have sent : CarriesDialer link.demux.decoder (link.toDialer ++ [Frame.mk sid flagData bs].flatMap Frame.wire)
        (data ++ [Frame.mk sid flagData bs]) :=
      inv.sent.pushAll (by simpa using encodable)
    have hp := Table.lookup_assign mux.streams sid
      (some { st with sendCredit := st.sendCredit - bs.length })
    have bounded := inv.bounded
    rw [sendCredit_of_live live] at bounded
    refine ⟨by simp [DownloadReply.Clean], ph, _, side, _, back, { inv with
        held := rfl
        sent := sent
        payloads := forall_mem_append.mpr ⟨inv.payloads, by simp⟩
        home := ?_
        bounded := ?_
        answering := ?_ }⟩
    · rw [inv.home.live_of_lookup live]
      exact ⟨_, hp⟩
    · rw [sendCredit_of_live hp]
      show st.sendCredit - bs.length + _ ≤ initialWindow
      omega
    · obtain ⟨final, path, conserved⟩ := inv.answering
      refine ⟨final, path, fun entry there => ?_⟩
      obtain ⟨last, full⟩ := conserved entry there
      refine ⟨last, ?_⟩
      have step : CreditLoop.Step (downloadLoop sid mux data back entry) _ :=
        .send bs.length (show bs.length ≤ mux.sendCredit sid by
          rw [sendCredit_of_live live]; exact fits)
      rw [← full, ← step.total_eq, downloadLoop, sendCredit_of_live hp,
        filterMap_append, filterMap_cons, dataLength_data bs (by decide),
        ← sendCredit_of_live live]
      rfl

theorem receive (nz : sid ≠ 0) (count : Nat) :
    ∃ next rep, link.step (.receive count) = some (next, rep) ∧ rep.Clean sid ∧ next.Inv sid := by
  have sent := inv.sent
  rw [← take_append_drop count link.toDialer] at sent
  obtain ⟨early, late, held, rfl, drained, later⟩ := sent.deliver
  obtain ⟨these, others⟩ := forall_mem_append.mp inv.payloads
  obtain ⟨dm, out, more, hd, pongs, emitted, kinds, answering, bounded⟩ :=
    Answering.receive (show Answering sid mux side (early ++ late) back
      ((link.demux.withDecoder ⟨held⟩).streams.lookup sid) from inv.answering)
      nz these inv.bounded
  have fed := feed_ok.mpr ⟨inv.whole, held, early, drained, hd⟩
  obtain ⟨dec, fatal⟩ := feedFrames_frame hd
  have encodable : ∀ fr ∈ more, fr.Encodable := by
    intro fr mem
    rcases kinds fr mem with grant | reset
    · exact grant.encodable
    · exact reset.encodable
  have bs : demuxBytes (.ok out) = more.flatMap Frame.wire := by
    rw [demuxBytes, pongs, emitted, flatten_nil, nil_append, flatMap_def]
  have called : link.step (.receive count) = some ({ link with
      demux := dm, toDialer := link.toDialer.drop count
      toHome := link.toHome ++ more.flatMap Frame.wire
      ledger := link.ledger ++ (CarrierReply.fed (.ok out)).bodies }, .received (.ok out)) := by
    simp only [DownloadLink.step, fed, bs]
  refine ⟨_, _, called, ⟨out, rfl, ?_⟩, ph, mux, side, late, back ++ more, { inv with
    sent := ?_
    payloads := others
    carried := inv.carried.pushAll encodable
    bounded := bounded
    whole := fatal.trans inv.whole
    balanced := ?_
    answering := answering }⟩
  · rw [emitted]
    intro mem
    obtain ⟨fr, hp, same⟩ := mem_map.mp mem
    have eq := wire_injective (encodable fr hp) (Frame.reset_encodable _ _) same
    rcases kinds fr hp with ⟨cr, grant⟩ | reset
    · exact absurd (congrArg Frame.flags (grant.symm.trans eq)) (by decide : flagWindow ≠ flagReset)
    · exact absurd (congrArg Frame.payload (reset.symm.trans eq))
        (by decide : [resetProtocolError] ≠ [resetFlowControlError])
  · show CarriesDialer dm.decoder _ late
    rw [dec]
    exact later
  · rw [Ledger.owed_append]
    exact feed_balanced fed inv.balanced

theorem deliver (nz : sid ≠ 0) (count : Nat) :
    ∃ next rep, link.step (.deliver count) = some (next, rep) ∧ rep.Clean sid ∧ next.Inv sid := by
  have carried := inv.carried
  rw [← take_append_drop count link.toHome] at carried
  obtain ⟨early, late, rfl, items, later⟩ := carried.deliver inv.formed
  obtain ⟨final, path, conserved⟩ := inv.answering
  obtain ⟨mid, fst, snd⟩ := path.split
  have bounded := inv.bounded
  rw [filterMap_append, sum_append] at bounded
  obtain ⟨next, out, hd, none_refused, none_sent, home, _, exactly⟩ := returned_taken fst nz inv.home (by omega)
  have lim := handleItems_limits (early.map .frame) mux {}
  rw [hd] at lim
  have fed : link.home.call (.feed (link.toHome.take count)) =
      ((ph.after (link.toHome.take count)).hold next, .ok (some out)) := by
    rw [inv.held]
    exact MuxAcceptor.call_feed inv.formed inv.roomy (by rw [items]; exact hd)
  have called : link.step (.deliver count) = some ({ link with
      home := (ph.after (link.toHome.take count)).hold next
      toHome := link.toHome.drop count }, .delivered (.ok (some out))) := by
    simp only [DownloadLink.step, fed, replyBytes, none_sent, flatMap_nil, append_nil]
  refine ⟨_, _, called, ⟨out, rfl, none_refused⟩, _, next, mid, data, late, { inv with
    formed := WirePhase.after_wellFormed inv.formed _
    held := rfl
    roomy := lim.symm ▸ inv.roomy
    carried := later
    home := home
    bounded := by omega
    answering := ⟨final, snd, fun st hp => ?_⟩ }⟩
  obtain ⟨last, full⟩ := conserved st hp
  refine ⟨last, ?_⟩
  have there : mid = .live := by
    cases mid with
    | live => rfl
    | gone => exact (returned_gone snd rfl).symm.trans last
  have run := CreditLoop.Run.redeem (downloadLoop sid mux data (early ++ late) st) (filterMap_append)
  rw [← full, ← run.total_eq, downloadLoop, exactly there]
  rfl

theorem consume {wireCost : Nat} (drained : (sid, wireCost) ∈ link.ledger) :
    ∃ next rep, link.step (.consume wireCost) = some (next, rep) ∧ rep.Clean sid ∧ next.Inv sid := by
  have settled := Ledger.owed_erase drained sid
  rw [if_pos rfl] at settled
  have called : link.step (.consume wireCost) = some ({ link with
      demux := (link.demux.consume sid wireCost).1
      toHome := link.toHome ++ grantBytes (link.demux.consume sid wireCost).2
      ledger := link.ledger.erase (sid, wireCost) },
      .consumed (link.demux.consume sid wireCost).2) := by
    simp only [DownloadLink.step, inv.named, if_pos drained]
  rw [called]
  refine ⟨_, _, rfl, ?_⟩
  rcases link.demux.consume_cases sid wireCost with ⟨abs, case⟩ |
    ⟨st, hp, exceeds, -⟩ | ⟨st, win, grant, hp, taken, case⟩
  · rw [case]
    refine ⟨⟨none, rfl⟩, ph, mux, side, data, back, { inv with
      carried := ?_
      balanced := ?_ }⟩
    · show CarriesHome ph (link.toHome ++ []) back
      rw [append_nil]
      exact inv.carried
    · show Balanced (link.demux.streams.lookup sid) _
      rw [abs]
      exact .absent _
  · -- The cost is still owed, so it is outstanding in the window.
    have balanced := inv.balanced
    rw [hp, ← settled] at balanced
    obtain ⟨_, _, taken⟩ := RecvWindow.consume_of_le balanced.paid
    rw [taken] at exceeds
    cases exceeds
  · rw [case]
    have fs : grantBytes (.ok (grant.map fun cr => (Frame.window sid cr).wire)) =
        (grant.map (Frame.window sid)).toList.flatMap Frame.wire := by
      cases grant with
      | none => rfl
      | some cr => simp [grantBytes]
    have carried : CarriesHome ph (link.toHome ++ (grant.map (Frame.window sid)).toList.flatMap Frame.wire)
        (back ++ (grant.map (Frame.window sid)).toList) :=
      inv.carried.pushAll fun fr mem => (isGrant_of_mem fr mem).encodable
    have there : (link.demux.streams.insert sid { st with recvWindow := win }).lookup sid =
        some { st with recvWindow := win } := Finmap.lookup_insert _
    have balanced := inv.balanced
    rw [hp, ← settled] at balanced
    obtain ⟨_, path, conserved⟩ := inv.answering
    obtain ⟨rfl, full⟩ := conserved st hp
    have tot : (downloadLoop sid mux data (back ++ (grant.map (Frame.window sid)).toList)
        { st with recvWindow := win }).total = initialWindow := by
      rw [downloadLoop, filterMap_append, grantLength_toList]
      exact (receiverLoop_consume taken _ _ _).total_eq.trans full
    refine ⟨⟨_, rfl⟩, ph, mux, side, data, _, { inv with
      carried := by rw [fs]; exact carried
      bounded := downloadLoop_bounded tot
      balanced := ?_
      answering := ⟨.live, returned_grants path isGrant_of_mem, fun entry fnd => ?_⟩ }⟩
    · show Balanced (Finmap.lookup sid (link.demux.streams.insert sid _)) _
      rw [there]
      exact balanced.consumed taken
    · have same := fnd.symm.trans there
      cases same
      exact ⟨rfl, tot⟩

end

end Downloading

theorem DownloadLink.Inv.step {link next : DownloadLink} {call : DownloadCall}
    {rep : DownloadReply} (inv : link.Inv sid) (nz : sid ≠ 0)
    (hs : link.step call = some (next, rep)) : rep.Clean sid ∧ next.Inv sid := by
  obtain ⟨_, _, _, _, _, inv⟩ := inv
  have taken : ∃ after ans, link.step call = some (after, ans) ∧ ans.Clean sid ∧ after.Inv sid := by
    cases call with
    | trySendData bs => exact inv.trySendData bs
    | receive count => exact inv.receive nz count
    | deliver count => exact inv.deliver nz count
    | consume =>
      apply inv.consume
      rw [DownloadLink.step] at hs
      split at hs
      next drained => rwa [inv.named] at drained
      · cases hs
  obtain ⟨_, _, same, clean, kept⟩ := taken
  rw [hs] at same
  cases same
  exact ⟨clean, kept⟩

theorem DownloadLink.Inv.start {lim : MuxLimits} {home : MuxAcceptor} {st : StreamState}
    {dialed : CarrierDemux} (valid : home.Valid lim) (aligned : home = WirePhase.start.hold home.toMuxStreams)
    (live : home.streams.lookup sid = some st)
    (unspent : st.sendCredit = initialWindow) (between : dialed.decoder.buf = [])
    (whole : dialed.fatalViolation = none) : DownloadLink.Inv sid
      { streamId := sid, home := home, demux := dialed.openStream sid } := by
  have opened : (dialed.openStream sid).streams.lookup sid = some {} := Finmap.lookup_insert _
  have cr : home.sendCredit sid = initialWindow := by rw [sendCredit_of_live live, unspent]
  refine ⟨.start, home.toMuxStreams, .live, [], [], {
    named := rfl
    formed := WirePhase.start_wellFormed
    held := aligned
    roomy := by rw [valid.limits_eq]; exact valid.roomy
    sent := .start between
    payloads := by simp
    carried := .start
    home := ⟨st, live⟩
    bounded := cr.le
    whole := whole
    balanced := ?_
    answering := ⟨.live, .nil, fun entry fnd => ⟨rfl, ?_⟩⟩ }⟩
  · show Balanced ((dialed.openStream sid).streams.lookup sid) _
    rw [opened]
    exact .opened
  · have same := fnd.symm.trans opened
    cases same
    rw [downloadLoop, cr]
    simp [CreditLoop.total, receiverLoop, show RecvWindow.new.unacked = 0 from rfl]

theorem Downloading.conserved {link : DownloadLink} {ph : WirePhase} {data : List Frame}
    (inv : Downloading sid link ph mux side data back)
    (reg : sid ∈ link.demux.streams) : sid ∈ link.home.streams ∧
      link.sendCredit + link.dataInFlight + link.debited + link.ungranted + link.creditInFlight = initialWindow := by
  obtain ⟨entry, hp⟩ := Finmap.mem_iff.mp reg
  obtain ⟨_, path, conserved⟩ := inv.answering
  obtain ⟨rfl, full⟩ := conserved entry hp
  have there : side = .live := by
    cases side with
    | live => rfl
    | gone => exact (returned_gone path rfl).symm
  have home := inv.home
  rw [there] at home
  obtain ⟨_, live⟩ := home
  have fnd : link.entry = some entry := by rw [DownloadLink.entry, inv.named, hp]
  constructor
  · rw [inv.held]
    exact Finmap.mem_of_lookup_eq_some live
  · rw [← full]
    simp only [DownloadLink.sendCredit, DownloadLink.dataInFlight, DownloadLink.flying,
      DownloadLink.debited, DownloadLink.ungranted, DownloadLink.creditInFlight,
      DownloadLink.grants, fnd, inv.named, inv.held, inv.sent.arriving_eq,
      inv.carried.incoming_eq]
    rfl

/-- Credit of a response is conserved. A home sends on a stream it has not spent any credit of, to a
dialer that has just opened it. Under every interleaving of sends, deliveries and consumption of
drained body events, the five places add up to the initial window while the dialer has the stream: it
never answers with RESET(FLOW_CONTROL_ERROR), and no grant is refused. -/
theorem DownloadLink.window_conserved {limits : MuxLimits} {acceptor home : MuxAcceptor}
    {earlier : List AcceptorCall} {heard : List AcceptorReply} {streamId : UInt32}
    {stream : StreamState} {dialed : CarrierDemux} {calls : List DownloadCall}
    {last : DownloadLink} {replies : List DownloadReply}
    (made : MuxAcceptor.new limits = .ok acceptor)
    (served : acceptorMachine.run acceptor earlier = some (home, heard))
    (header : home.headerBuffer = []) (decoder : home.decoder.buf = [])
    (discarded : home.discardedPayloadRemaining = none)
    (live : home.streams.lookup streamId = some stream) (unspent : stream.sendCredit = initialWindow)
    (between : dialed.decoder.buf = []) (whole : dialed.fatalViolation = none)
    (ran : downloadMachine.run { streamId := streamId, home := home, demux := dialed.openStream streamId } calls =
      some (last, replies)) :
    (streamId ∈ last.demux.streams → streamId ∈ last.home.streams ∧
      last.sendCredit + last.dataInFlight + last.debited + last.ungranted + last.creditInFlight = initialWindow) ∧
      (∀ reply, .received reply ∈ replies → ∃ out, reply = .ok out ∧
        (Frame.reset streamId resetFlowControlError).wire ∉ out.emitFrames) ∧
      (∀ reply, .delivered reply ∈ replies → ∃ output, reply = .ok (some output) ∧ output.refusals = []) ∧
      ∀ reply, .consumed reply ∈ replies → ∃ grant, reply = .ok grant := by
  have valid := (MuxAcceptor.Valid.start made).run served
  have aligned := valid.aligned header decoder discarded
  have nonzero : streamId ≠ 0 := by
    rintro rfl
    exact absurd (valid.inv.odd 0 (Finmap.mem_of_lookup_eq_some live)) (by decide)
  have reached : last.Inv streamId ∧ ∀ reply ∈ replies, reply.Clean streamId := by
    apply downloadMachine.run_history
      (motive := fun link _ replies => link.Inv streamId ∧ ∀ reply ∈ replies, reply.Clean streamId)
      ⟨.start valid aligned live unspent between whole, by simp⟩ _ ran
    intro state calls replies call next reply before stepped
    obtain ⟨clean, inv⟩ := before.1.step nonzero stepped
    exact ⟨inv, forall_mem_append.mpr ⟨before.2, by simpa using clean⟩⟩
  obtain ⟨⟨_, _, _, _, _, inv⟩, clean⟩ := reached
  exact ⟨inv.conserved, fun reply member => clean _ member, fun reply member => clean _ member,
    fun reply member => clean _ member⟩

/-- A home that has just accepted a request on stream 1. -/
def sampleServed : Option (MuxAcceptor × List AcceptorReply) :=
  acceptorMachine.run { limits := {} } [.feed (Frame.wire ⟨1, flagOpen, []⟩)]

def sampleDownload : List DownloadCall :=
  [.trySendData (asciiBytes "HTTP/1.1 200 OK\r\n\r\nhi"), .receive 3, .receive 100,
    .trySendData (asciiBytes "!"), .consume 2, .deliver 5, .receive 9]

/-- A response of one head and two bodies, cut in its header, with one body consumed. -/
theorem DownloadLink.window_conserved_response : ∃ home heard last replies, sampleServed = some (home, heard) ∧
      downloadMachine.run { streamId := 1, home := home, demux := CarrierDemux.openStream {} 1 } sampleDownload =
          some (last, replies) ∧
      last.debited = 1 ∧ last.ungranted = 21 ∧
      last.sendCredit + last.dataInFlight + last.debited + last.ungranted + last.creditInFlight = initialWindow := by
  have accepted : sampleServed.map (fun result =>
      (result.1.headerBuffer, result.1.decoder.buf, result.1.discardedPayloadRemaining,
        (result.1.streams.lookup 1).map StreamState.sendCredit)) =
      some ([], [], none, some initialWindow) := by
    decide +kernel
  have evaluated : (sampleServed.bind fun result => downloadMachine.run
      { streamId := 1, home := result.1, demux := openStream {} 1 }
      sampleDownload).map (fun result =>
        (result.1.debited, result.1.ungranted, decide (1 ∈ result.1.demux.streams))) =
      some (1, 21, true) := by
    decide +kernel
  obtain ⟨⟨home, heard⟩, served, facts⟩ := map_eq_some_iff.mp accepted
  simp only [Prod.mk.injEq] at facts
  obtain ⟨header, decoder, discarded, credit⟩ := facts
  obtain ⟨_, live, unspent⟩ := map_eq_some_iff.mp credit
  rw [served, bind_some] at evaluated
  obtain ⟨⟨last, replies⟩, ran, ended⟩ := map_eq_some_iff.mp evaluated
  simp only [Prod.mk.injEq, decide_eq_true_eq] at ended
  obtain ⟨debited, ungranted, registered⟩ := ended
  refine ⟨home, heard, last, replies, served, ran, debited, ungranted, ?_⟩
  exact ((DownloadLink.window_conserved (rfl : MuxAcceptor.new {} = .ok { limits := {} }) served
    header decoder discarded live unspent rfl rfl ran).1 registered).2

end SplRust.Link
