import SplRust.Home.AcceptorRun

/-! Lossless first-in-first-out byte channels between a dialer and its home. The reader of
a channel takes its bytes in pieces of any size, so a frame can be partly read; the frames
of a channel are those of the bytes its reader holds and the bytes still on their way. -/

namespace SplRust.Link
open SplRust.Lib SplRust.Core SplRust.Home List WirePhase FrameDecoder
variable {sid : UInt32}

def dataLength (sid : UInt32) (frame : Frame) : Option Nat :=
  if frame.streamId = sid ∧ frame.flags &&& flagData ≠ 0 then some frame.payload.length
  else none

/-- The credit of a stream's WINDOW frame. -/
def grantLength (sid : UInt32) (frame : Frame) : Option Nat :=
  if frame.streamId = sid ∧ frame.flags = flagWindow then
    frame.windowCredit.map UInt32.toNat
  else none

def replyBytes : AcceptorReply → Bytes
  | .ok (some output) => output.frames.flatMap Frame.wire
  | _ => []

theorem dataLength_data {flags : UInt8} (payload : Bytes) (data : flags &&& flagData ≠ 0) :
    dataLength sid ⟨sid, flags, payload⟩ = some payload.length :=
  if_pos ⟨rfl, data⟩

theorem dataLength_other {oid : UInt32} {flags : UInt8} (payload : Bytes)
    (bare : flags &&& flagData = 0) : dataLength sid ⟨oid, flags, payload⟩ = none :=
  if_neg fun both => both.2 bare

theorem grantLength_window (sid cr : UInt32) : grantLength sid (.window sid cr) = some cr.toNat := by
  rw [grantLength, if_pos ⟨rfl, rfl⟩, Frame.windowCredit_window]
  rfl

def IsGrant (sid : UInt32) (fr : Frame) : Prop := ∃ credit, fr = .window sid credit

theorem IsGrant.encodable {frame : Frame} (grant : IsGrant sid frame) : frame.Encodable := by
  obtain ⟨cr, rfl⟩ := grant
  exact Frame.window_encodable sid cr

theorem isGrant_of_mem {grant : Option UInt32} :
    ∀ frame ∈ (grant.map (Frame.window sid)).toList, IsGrant sid frame := by
  intro frame mem
  obtain ⟨cr, -, rfl⟩ := Option.map_eq_some_iff.mp (Option.mem_toList.mp mem)
  exact ⟨cr, rfl⟩

theorem grantLength_toList (sid : UInt32) (grant : Option UInt32) :
    (grant.map (Frame.window sid)).toList.filterMap (grantLength sid) = (grant.map UInt32.toNat).toList := by
  cases grant with
  | none => rfl
  | some cr => simp [grantLength_window]

/-! ### To the home -/

/-- The frames an acceptor will complete from what it holds and what is on its way. -/
def incoming (home : MuxAcceptor) (channel : Bytes) : List Frame :=
  let items := match home.discardedPayloadRemaining with
    | some remaining => wireItems (channel.drop remaining)
    | none => wireItems (home.decoder.buf ++ home.headerBuffer ++ channel)
  items.filterMap fun item => match item with
    | .frame whole => some whole
    | .reserved _ => none

/-- A channel to an acceptor ends with the last of these frames, whatever is sent later. -/
def CarriesHome (phase : WirePhase) (channel : Bytes) (frames : List Frame) : Prop :=
  ∀ more, wireItems (phase.restore (channel ++ more)) = frames.map .frame ++ wireItems more

namespace CarriesHome
variable {ph : WirePhase} {channel : Bytes} {frames : List Frame}

theorem start : CarriesHome .start [] [] := fun _ => rfl

section
variable (carries : CarriesHome ph channel frames)
include carries

theorem items : wireItems (ph.restore channel) = frames.map .frame := by
  have whole := carries []
  rwa [append_nil, wireItems_nil, append_nil] at whole

theorem incoming_eq (mux : MuxStreams) : incoming (ph.hold mux) channel = frames := by
  have held : incoming (ph.hold mux) channel = (wireItems (ph.restore channel)).filterMap fun item => match item with
        | .frame whole => some whole
        | .reserved _ => none := by
    cases ph with
    | header | skip => rfl
    | payload => simp [incoming, hold, discarded, decoderBuffer, headerBuffer, restore]
  rw [held, carries.items]
  simp [filterMap_map]

theorem push {frame : Frame} (fits : frame.Encodable) :
    CarriesHome ph (channel ++ frame.wire) (frames ++ [frame]) := by
  intro more
  rw [append_assoc, carries, wireItems_wire fits]
  simp

theorem pushAll {more : List Frame} (fits : ∀ frame ∈ more, frame.Encodable) :
    CarriesHome ph (channel ++ more.flatMap Frame.wire) (frames ++ more) := by
  induction more generalizing channel frames with
  | nil => rwa [flatMap_nil, append_nil, append_nil]
  | cons frame more ih =>
    obtain ⟨fst, rest⟩ := forall_mem_cons.mp fits
    rw [flatMap_cons, ← append_assoc, append_cons]
    exact ih (carries.push fst) rest

end

/-- The reader takes the first bytes, and with them the first frames. -/
theorem deliver {data rest : Bytes} (carries : CarriesHome ph (data ++ rest) fs) (formed : ph.WellFormed) :
    ∃ early late, fs = early ++ late ∧ ph.items data = early.map .frame ∧ CarriesHome (ph.after data) rest late := by
  have split (more : Bytes) : ph.items data ++ wireItems ((ph.after data).restore (rest ++ more)) =
        fs.map .frame ++ wireItems more := by
    rw [← wireItems_after formed, ← append_assoc]
    exact carries more
  have whole := split []
  rw [wireItems_nil, append_nil, append_nil] at whole
  obtain ⟨early, late, rfl, fst, _⟩ := map_eq_append_iff.mp whole.symm
  refine ⟨early, late, rfl, fst.symm, ?_⟩
  intro more
  have both := split more
  rw [← fst, map_append, append_assoc] at both
  exact append_cancel_left both

end CarriesHome

/-! ### To the dialer -/

/-- The frames a decoder will complete from what it holds and what is on its way. -/
def arriving (decoder : FrameDecoder) (channel : Bytes) : List Frame :=
  match (decoder.feed channel).drain.2 with
  | .ok frames => frames
  | .error _ => []

/-- The same, read off a channel that ends with the last of these frames. -/
def CarriesDialer (decoder : FrameDecoder) (channel : Bytes) (frames : List Frame) : Prop :=
  FrameDecoder.splitter.drain (decoder.buf ++ channel) = ([], .ok frames)

namespace CarriesDialer
variable {dec : FrameDecoder} {channel : Bytes} {frames : List Frame}

theorem start (empty : dec.buf = []) : CarriesDialer dec [] [] := by
  rw [CarriesDialer, empty]
  exact splitter.drain_of_wait rfl

section
variable (carries : CarriesDialer dec channel frames)
include carries

theorem arriving_eq : arriving dec channel = frames := by
  have drained : (dec.feed channel).drain.2 = .ok frames := by rw [drain, feed, carries]
  rw [arriving, drained]

theorem push {frame : Frame} (fits : frame.Encodable) :
    CarriesDialer dec (channel ++ frame.wire) (frames ++ [frame]) := by
  unfold CarriesDialer
  rw [← append_assoc, splitter.drain_append _ _ carries, nil_append, drain_wire fits]
  rfl

theorem pushAll {more : List Frame} (fits : ∀ frame ∈ more, frame.Encodable) :
    CarriesDialer dec (channel ++ more.flatMap Frame.wire) (frames ++ more) := by
  induction more generalizing channel frames with
  | nil => rwa [flatMap_nil, append_nil, append_nil]
  | cons frame more ih =>
    obtain ⟨fst, rest⟩ := forall_mem_cons.mp fits
    rw [flatMap_cons, ← append_assoc, append_cons]
    exact ih (carries.push fst) rest

end

theorem deliver {data rest : Bytes} (carries : CarriesDialer dec (data ++ rest) fs) :
    ∃ early late held, fs = early ++ late ∧ splitter.drain (dec.buf ++ data) = (held, .ok early) ∧
      CarriesDialer ⟨held⟩ rest late := by
  unfold CarriesDialer at carries
  rw [← append_assoc] at carries
  obtain ⟨early, held, late, fst, snd, joined⟩ := splitter.drain_split _ _ carries
  exact ⟨early, late, held, joined, fst, snd⟩

end CarriesDialer

end SplRust.Link
