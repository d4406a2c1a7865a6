import SplRust.Home.Wire

/-! `MuxAcceptor::feed` handles the items of its bytes in order. The acceptor's
partial-frame fields are a function of the automaton's phase (`WirePhase.hold`), and one
byte moves both in step. -/

namespace SplRust.Home
open SplRust.Lib SplRust.Core List

namespace MuxStreams
variable {mux : MuxStreams}

def handleItems : List WireItem → MuxStreams → MuxOutput → MuxStreams × Except HomeError MuxOutput
  | [], mux, output => (mux, .ok output)
  | item :: items, mux, output =>
      match mux.handleItem item output with
      | (mux, .ok output) => handleItems items mux output
      | (mux, .error err) => (mux, .error err)

theorem handleItems_single (item : WireItem) (mux : MuxStreams) (output : MuxOutput) :
    handleItems [item] mux output = mux.handleItem item output := by
  simp only [handleItems]
  rcases mux.handleItem item output with ⟨next, _ | output⟩ <;> rfl

theorem handleItems_append (fst snd : List WireItem) (mux : MuxStreams)
    (output : MuxOutput) :
    handleItems (fst ++ snd) mux output = match handleItems fst mux output with
      | (mux, .ok output) => handleItems snd mux output
      | (mux, .error err) => (mux, .error err) := by
  induction fst generalizing mux output with
  | nil => rfl
  | cons item fst ih =>
    simp only [cons_append, handleItems]
    rcases mux.handleItem item output with ⟨next, _ | output⟩
    · rfl
    · exact ih next output

theorem handleItems_output (items : List WireItem) (mux : MuxStreams) (output : MuxOutput) :
    handleItems items mux output =
      ((handleItems items mux {}).1, (handleItems items mux {}).2.map (output ++ ·)) := by
  induction items generalizing mux output with
  | nil => simp [handleItems, Except.map]
  | cons item items ih =>
    simp only [handleItems]
    rcases mux.handleItem_cases item with ⟨fnd, -, fails⟩ | ⟨-, next, delta, -, hd⟩
    · simp [fails, Except.map]
    · simp only [hd, MuxOutput.empty_append]
      rw [ih next (output ++ delta), ih next delta]
      cases (handleItems items next {}).2 with
      | error => rfl
      | ok => simp [Except.map, MuxOutput.append_assoc]

theorem handleItems_cons {item : WireItem} {items : List WireItem} {mid next : MuxStreams}
    {delta output : MuxOutput}
    (fst : ∀ output, mux.handleItem item output = (mid, .ok (output ++ delta)))
    (rest : handleItems items mid {} = (next, .ok output)) :
    handleItems (item :: items) mux {} = (next, .ok (delta ++ output)) := by
  simp only [handleItems, fst, MuxOutput.empty_append]
  rw [handleItems_output, rest]
  rfl

theorem handleItems_error (items : List WireItem) (mux : MuxStreams) (output : MuxOutput)
    (err : HomeError) :
    (handleItems items mux output).2 = .error err ↔ ∃ fnd, items.findSome? WireItem.fatal = some fnd ∧
        err = .refused ⟨.protocol, some fnd⟩ := by
  induction items generalizing mux output with
  | nil => simp [handleItems]
  | cons item items ih =>
    simp only [handleItems, findSome?_cons]
    rcases mux.handleItem_cases item with ⟨fnd, fatal, fails⟩ | ⟨fine, next, delta, -, hd⟩
    · simp [fails, fatal, eq_comm]
    · simp only [hd, fine, ih]

theorem handleItems_keeps {motive : MuxStreams → Prop}
    (keeps : ∀ {mux item next delta}, ItemEffect mux item next delta → motive mux → motive next)
    (items : List WireItem) (output : MuxOutput) (start : motive mux) :
    motive (handleItems items mux output).1 := by
  induction items generalizing mux output with
  | nil => exact start
  | cons item items ih =>
    simp only [handleItems]
    rcases mux.handleItem_cases item with ⟨fnd, -, fails⟩ | ⟨-, next, delta, eff, hd⟩
    · rwa [fails]
    · rw [hd]
      exact ih _ (keeps eff start)

/-- Induction over items that were all handled. -/
theorem handleItems_induction {motive : MuxStreams → List WireItem → MuxStreams → MuxOutput → Prop}
    (base : ∀ mux, motive mux [] mux {})
    (step : ∀ {mux item mid delta items next output}, ItemEffect mux item mid delta →
      mux.handleItem item {} = (mid, .ok delta) → motive mid items next output →
      motive mux (item :: items) next (delta ++ output)) {items : List WireItem} {next : MuxStreams}
    {output : MuxOutput} (hd : handleItems items mux {} = (next, .ok output)) :
    motive mux items next output := by
  induction items generalizing mux output with
  | nil =>
    cases hd
    exact base _
  | cons item items ih =>
    simp only [handleItems] at hd
    rcases mux.handleItem_cases item with ⟨fnd, -, fails⟩ | ⟨-, mid, delta, eff, acted⟩
    · simp [fails] at hd
    · have taken : mux.handleItem item {} = (mid, .ok delta) := by rw [acted, MuxOutput.empty_append]
      rw [taken] at hd
      simp only at hd
      rw [handleItems_output, Prod.mk.injEq] at hd
      obtain ⟨ended, replied⟩ := hd
      cases later : (handleItems items mid {}).2 with
      | error => simp [later, Except.map] at replied
      | ok =>
        simp only [later, Except.map, Except.ok.injEq] at replied
        rw [← replied]
        exact step eff taken (ih (Prod.ext ended later))

theorem handleItems_limits (items : List WireItem) (mux : MuxStreams) (output : MuxOutput) :
    (handleItems items mux output).1.limits = mux.limits :=
  handleItems_keeps (motive := fun next => next.limits = mux.limits)
    (fun eff same => by rw [← same]; cases eff <;> rfl) items output rfl

end MuxStreams

namespace WirePhase

def headerBuffer : WirePhase → Bytes
  | .header part => part
  | _ => []

def decoderBuffer : WirePhase → Bytes
  | .payload head got => head.bytes ++ got
  | _ => []

def payloadRemaining : WirePhase → Option Nat
  | .payload head got => some (head.length - got.length)
  | _ => none

def discarded : WirePhase → Option Nat
  | .skip remaining => some remaining
  | _ => none

def hold (phase : WirePhase) (mux : MuxStreams) : MuxAcceptor where
  toMuxStreams := mux
  decoder := ⟨phase.decoderBuffer⟩
  decoderBufferedBytes := phase.headerBuffer.length + phase.decoderBuffer.length
  headerBuffer := phase.headerBuffer
  payloadRemaining := phase.payloadRemaining
  discardedPayloadRemaining := phase.discarded

theorem hold_skipping (remaining : Nat) (mux : MuxStreams) :
    (skipping remaining).hold mux =
      { toMuxStreams := mux
        discardedPayloadRemaining := if remaining > 0 then some remaining else none } := by
  simp only [skipping]
  split <;> rfl

end WirePhase

namespace MuxAcceptor
variable {acc : MuxAcceptor} {ph : WirePhase} {mux : MuxStreams}

theorem drainDecoder_wait (output : MuxOutput)
    (taken : FrameDecoder.nextFrameOf acc.decoder.buf = .ok none) :
    acc.drainDecoder output = (acc, .ok output) := by
  rw [drainDecoder]
  split <;> simp_all

theorem drainDecoder_frame {fr : Frame} (output : MuxOutput)
    (taken : FrameDecoder.nextFrameOf acc.decoder.buf = .ok (some (fr, [])))
    (counted : acc.decoderBufferedBytes = headerLen + fr.payload.length) :
    acc.drainDecoder output =
      ({ acc with
          toMuxStreams := (acc.handleItem (.frame fr) output).1
          decoder := ⟨[]⟩, decoderBufferedBytes := 0 },
        (acc.handleItem (.frame fr) output).2) := by
  have spent : checkedSub acc.decoderBufferedBytes (headerLen + fr.payload.length) = some 0 := by
    rw [counted, checkedSub_of_le (Nat.le_refl _), Nat.sub_self]
  rw [drainDecoder]
  split
  · simp_all
  · simp_all
  next fnd rest matched =>
    cases taken.symm.trans matched
    simp only [spent, MuxStreams.handleItem]
    rcases acc.handleFrame fr output with ⟨mux, _ | output⟩
    · rfl
    · exact drainDecoder_wait output rfl

theorem takeHeader_short (output : MuxOutput) (short : acc.headerBuffer.length < headerLen) :
    acc.takeHeader output = (acc, .ok output) := by
  unfold takeHeader
  split
  next whole =>
    rw [whole] at short
    simp [headerLen] at short
  · rfl

theorem takeHeader_hold (head : Header) (mux : MuxStreams) (output : MuxOutput) :
    takeHeader
      { toMuxStreams := mux
        decoderBufferedBytes := headerLen
        headerBuffer := head.bytes } output =
      ((WirePhase.take head).1.hold (MuxStreams.handleItems (WirePhase.take head).2 mux output).1,
        (MuxStreams.handleItems (WirePhase.take head).2 mux output).2) := by
  have cleared : checkedSub headerLen headerLen = some 0 := rfl
  simp only [takeHeader, Header.bytes, cleared]
  by_cases reserved : head.Reserved
  · have flagged : head.flags &&& flagReservedMask ≠ 0 := reserved
    simp only [WirePhase.take, if_pos reserved, if_pos flagged, MuxStreams.handleItems_single,
      WirePhase.hold_skipping, MuxStreams.handleItem, Header.violation, Header.streamId,
      Header.length]
    by_cases zero : fromBeBytes head.b0 head.b1 head.b2 head.b3 = 0
    · simp only [if_pos zero]
    · simp only [if_neg zero]
  · have plain : ¬ head.flags &&& flagReservedMask ≠ 0 := reserved
    rw [if_neg plain]
    have next := head.nextFrameOf_bytes []
    rw [if_neg reserved] at next
    by_cases empty : head.length = 0
    · rw [append_nil, if_neg (by simp [empty]), empty] at next
      simp only [WirePhase.take, if_neg reserved, if_pos empty, MuxStreams.handleItems_single]
      rw [drainDecoder_frame output next rfl]
      have none_left : ¬ fromLengthBytes head.l0 head.l1 head.l2 > 0 := by
        rw [show fromLengthBytes head.l0 head.l1 head.l2 = 0 from empty]
        simp
      rw [if_neg none_left]
      rfl
    · have some_left : fromLengthBytes head.l0 head.l1 head.l2 > 0 := Nat.pos_of_ne_zero empty
      rw [append_nil, if_pos (show ([] : Bytes).length < head.length from some_left)] at next
      simp only [WirePhase.take, if_neg reserved, if_neg empty, MuxStreams.handleItems]
      rw [drainDecoder_wait output next, if_pos some_left]
      rfl

section
variable (formed : ph.WellFormed) (roomy : headerLen + maxPayload ≤ mux.limits.decoderBufferBytes)
include formed roomy

theorem feedByte_hold (byte : UInt8) (output : MuxOutput) : (ph.hold mux).feedByte byte output =
      ((ph.step byte).1.hold (MuxStreams.handleItems (ph.step byte).2 mux output).1,
        (MuxStreams.handleItems (ph.step byte).2 mux output).2) := by
  have counts {buffered : Nat} (small : buffered < headerLen + maxPayload) :
      ¬ buffered ≥ mux.limits.decoderBufferBytes ∧ checkedAdd buffered 1 = some (buffered + 1) := by
    refine ⟨by omega, checkedAdd_of_le ?_⟩
    simp only [headerLen, maxPayload, wordMax] at small ⊢
    omega
  cases ph with
  | skip remaining =>
    simp only [WirePhase.step, WirePhase.hold_skipping, MuxStreams.handleItems]
    simp only [feedByte, WirePhase.hold, WirePhase.discarded]
    have positive : remaining > 1 ↔ remaining - 1 > 0 := by omega
    simp only [positive]
    rfl
  | header part =>
    have short : part.length < headerLen := formed
    obtain ⟨below, added⟩ := counts (show part.length < headerLen + maxPayload by omega)
    have fed : ((WirePhase.header part).hold mux).feedByte byte output = takeHeader
          { toMuxStreams := mux
            decoderBufferedBytes := part.length + 1
            headerBuffer := part ++ [byte] } output := by
      simp only [feedByte, WirePhase.hold, WirePhase.discarded, WirePhase.headerBuffer,
        WirePhase.decoderBuffer, WirePhase.payloadRemaining, length_nil, Nat.add_zero,
        if_neg below, added]
    rw [fed]
    rcases WirePhase.step_header short byte with ⟨head, complete, hs⟩ | ⟨still, hs⟩
    · have size : part.length + 1 = headerLen := by
        simpa [Header.bytes, headerLen] using congrArg List.length complete
      rw [hs, complete, size]
      exact takeHeader_hold head mux output
    · rw [hs, takeHeader_short output still]
      simp [WirePhase.hold, WirePhase.headerBuffer, WirePhase.decoderBuffer,
        WirePhase.payloadRemaining, WirePhase.discarded, MuxStreams.handleItems]
  | payload head got =>
    obtain ⟨plain, _⟩ := formed
    have bounded := head.length_le
    have size : head.bytes.length = headerLen := rfl
    obtain ⟨below, added⟩ := counts (show headerLen + got.length < headerLen + maxPayload by omega)
    have fed : ((WirePhase.payload head got).hold mux).feedByte byte output = drainDecoder
          { toMuxStreams := mux
            decoder := ⟨head.bytes ++ (got ++ [byte])⟩
            decoderBufferedBytes := headerLen + got.length + 1
            payloadRemaining := if head.length - got.length > 1 then
              some (head.length - got.length - 1) else none } output := by
      simp only [feedByte, WirePhase.hold, WirePhase.discarded, WirePhase.headerBuffer,
        WirePhase.decoderBuffer, WirePhase.payloadRemaining, length_nil, Nat.zero_add,
        length_append, size, if_neg below, added, FrameDecoder.feed, append_assoc]
    have next := head.nextFrameOf_bytes (got ++ [byte])
    rw [fed]
    rw [if_neg plain] at next
    simp only [WirePhase.step]
    by_cases more : got.length + 1 < head.length
    · rw [if_pos (by simpa using more)] at next
      rw [drainDecoder_wait output next, if_pos more, if_pos (by omega)]
      simp [WirePhase.hold, WirePhase.headerBuffer, WirePhase.decoderBuffer,
        WirePhase.payloadRemaining, WirePhase.discarded, MuxStreams.handleItems, size]
      omega
    · have whole : (got ++ [byte]).length = head.length := by
        simp only [length_append, length_cons, length_nil]
        omega
      rw [if_neg (by omega), ← whole, take_length, drop_length] at next
      rw [if_neg more, drainDecoder_frame output next (by
        simp only [Header.frame, length_append, length_cons, length_nil]
        omega), if_neg (by omega), MuxStreams.handleItems_single]
      rfl

/-- Bytes handed to a held acceptor are handled as the items they complete; the
acceptor is held again afterwards, also where it stops at a fatal item. -/
theorem feedBytes_hold (bs : Bytes) (output : MuxOutput) : ∃ last : WirePhase, last.WellFormed ∧
      (ph.hold mux).feedBytes bs output = (last.hold (MuxStreams.handleItems (ph.items bs) mux output).1,
          (MuxStreams.handleItems (ph.items bs) mux output).2) ∧
      (∀ out, (MuxStreams.handleItems (ph.items bs) mux output).2 = .ok out → last = ph.after bs) := by
  induction bs generalizing ph mux output with
  | nil => exact ⟨ph, formed, rfl, fun _ _ => rfl⟩
  | cons byte bs ih =>
    have kept := MuxStreams.handleItems_limits (ph.step byte).2 mux output
    simp only [feedBytes, feedByte_hold formed roomy, WirePhase.items, MuxStreams.handleItems_append, WirePhase.after]
    rcases hd : MuxStreams.handleItems (ph.step byte).2 mux output with ⟨next, _ | out⟩
    · exact ⟨_, WirePhase.step_wellFormed formed byte, rfl, fun _ failed => by cases failed⟩
    · rw [hd] at kept
      exact ih (WirePhase.step_wellFormed formed byte) (by rw [kept]; exact roomy) out

end

/-- Successive calls, each on what the one before left, whether or not it failed. -/
def feedEach : MuxAcceptor → List Bytes → MuxAcceptor × List (Except HomeError MuxOutput)
  | acceptor, [] => (acceptor, [])
  | acceptor, piece :: pieces =>
      let (next, reply) := acceptor.feed piece
      let (last, replies) := feedEach next pieces
      (last, reply :: replies)

theorem new_eq {lim : MuxLimits} (made : new lim = .ok acc) :
    acc = WirePhase.start.hold { limits := lim } ∧ 0 < lim.maxConcurrentStreams ∧
      headerLen + maxPayload ≤ lim.decoderBufferBytes := by
  simp only [new, MuxLimits.validate] at made
  split at made
  · cases made
  next checked =>
    split at checked
    · cases checked
    · split at checked
      · cases checked
      · cases made
        exact ⟨rfl, by omega, by omega⟩

/-- Any sequence of calls leaves the acceptor held, and its streams keep their limits. -/
theorem feedEach_hold (formed : ph.WellFormed)
    (roomy : headerLen + maxPayload ≤ mux.limits.decoderBufferBytes) (pieces : List Bytes) :
    ∃ (last : WirePhase) (after : MuxStreams), last.WellFormed ∧ after.limits = mux.limits ∧
      ((ph.hold mux).feedEach pieces).1 = last.hold after ∧
      ∀ outs : List MuxOutput, ((ph.hold mux).feedEach pieces).2 = outs.map .ok → last = ph.after pieces.flatten ∧
        MuxStreams.handleItems (ph.items pieces.flatten) mux {} = (after, .ok (outs.foldr (· ++ ·) {})) := by
  induction pieces generalizing ph mux with
  | nil =>
    refine ⟨ph, mux, formed, rfl, rfl, fun outs none => ⟨rfl, ?_⟩⟩
    rw [map_eq_nil_iff.mp none.symm]
    rfl
  | cons piece pieces ih =>
    obtain ⟨_, midFormed, fed, done⟩ := feedBytes_hold formed roomy piece {}
    have kept := MuxStreams.handleItems_limits (ph.items piece) mux {}
    rcases hd : MuxStreams.handleItems (ph.items piece) mux {} with ⟨middle, rep⟩
    rw [hd] at fed done kept
    obtain ⟨last, after, lastFormed, lim, ended, refined⟩ := ih midFormed (by rw [kept]; exact roomy)
    refine ⟨last, after, lastFormed, lim.trans kept, ?_, fun outs succeeded => ?_⟩
    · rw [feedEach, feed, fed]
      exact ended
    · rw [feedEach, feed, fed] at succeeded
      cases outs with
      | nil => cases succeeded
      | cons out outs =>
        obtain ⟨rfl, rest⟩ := List.cons.inj succeeded
        obtain rfl := done out rfl
        obtain ⟨rfl, later⟩ := refined outs rest
        rw [flatten_cons, WirePhase.after_append, WirePhase.items_append, MuxStreams.handleItems_append, hd]
        refine ⟨rfl, ?_⟩
        simp only
        rw [MuxStreams.handleItems_output, later]
        rfl

end MuxAcceptor

/-- Feeding an acceptor, in whatever pieces, is handling the items of the bytes in order. As long as
no call has failed, outputs and streams are those of the items completed so far, and the next call
fails exactly at the first fatal item it completes. The byte count of the partial frame is exact, and
no other error is ever returned. -/
theorem MuxAcceptor.feed_refines {limits : MuxLimits} {acceptor : MuxAcceptor}
    (made : MuxAcceptor.new limits = .ok acceptor) (pieces : List Bytes) (piece : Bytes) :
    let state := (acceptor.feedEach pieces).1
    state.decoderBufferedBytes = state.headerBuffer.length + state.decoder.buf.length ∧
    (∀ err, (state.feed piece).2 = .error err → ∃ found, err = .refused ⟨.protocol, some found⟩) ∧
    ∀ outs : List MuxOutput, (acceptor.feedEach pieces).2 = outs.map .ok →
      MuxStreams.handleItems (wireItems pieces.flatten) acceptor.toMuxStreams {} =
        (state.toMuxStreams, .ok (outs.foldr (· ++ ·) {})) ∧
      ∃ completed, wireItems (pieces.flatten ++ piece) = wireItems pieces.flatten ++ completed ∧
        ((state.feed piece).1.toMuxStreams, (state.feed piece).2) =
          MuxStreams.handleItems completed state.toMuxStreams {} ∧
        ∀ err, (state.feed piece).2 = .error err ↔ ∃ found, completed.findSome? WireItem.fatal = some found ∧
            err = .refused ⟨.protocol, some found⟩ := by
  obtain ⟨rfl, -, large⟩ := MuxAcceptor.new_eq made
  have roomy : headerLen + maxPayload ≤ ({ limits } : MuxStreams).limits.decoderBufferBytes := large
  have start := WirePhase.start_wellFormed
  obtain ⟨last, after, formed, same, ended, refined⟩ := MuxAcceptor.feedEach_hold start roomy pieces
  intro state
  have held : state = last.hold after := ended
  have still : headerLen + maxPayload ≤ after.limits.decoderBufferBytes := by
    rw [same]
    exact large
  obtain ⟨_, -, fed, -⟩ := MuxAcceptor.feedBytes_hold formed still piece {}
  have reply : (state.feed piece).2 = (MuxStreams.handleItems (last.items piece) after {}).2 := by
    rw [held, MuxAcceptor.feed, fed]
  refine ⟨by rw [held]; rfl, fun err failed => ?_, fun outs succeeded => ?_⟩
  · rw [reply] at failed
    obtain ⟨found, -, same⟩ := (MuxStreams.handleItems_error _ _ _ err).mp failed
    exact ⟨found, same⟩
  · obtain ⟨rfl, whole⟩ := refined outs succeeded
    rw [WirePhase.start_items] at whole
    refine ⟨by rw [held]; exact whole, (WirePhase.start.after pieces.flatten).items piece, ?_, ?_, fun err => ?_⟩
    · rw [← WirePhase.start_items, WirePhase.items_append, WirePhase.start_items]
    · rw [reply, held, MuxAcceptor.feed, fed]
      rfl
    · rw [reply]
      exact MuxStreams.handleItems_error _ _ _ err

/-- A request cut inside its header, then a malformed control frame. -/
theorem MuxAcceptor.feed_refines_request :
    let request := Frame.wire ⟨1, flagOpen ||| flagData, asciiBytes "hi"⟩
    let state := (MuxAcceptor.feedEach { limits := {} } [request.take 3, request.drop 3]).1
    state.decoderBufferedBytes = state.headerBuffer.length + state.decoder.buf.length ∧
      ∀ err, (state.feed (Frame.wire ⟨0, flagData, []⟩)).2 = .error err →
        ∃ found, err = .refused ⟨.protocol, some found⟩ :=
  have refined := MuxAcceptor.feed_refines (rfl : MuxAcceptor.new {} = .ok { limits := {} }) _ _
  ⟨refined.1, refined.2.1⟩

end SplRust.Home
