import SplRust.Home.AcceptorFeed

/-! What `finish_eof` reports of a carrier that ends inside a frame. The report reads the byte
count of the header buffer and the decoder, and the skipped payload of a refused frame is in
neither of them. -/

namespace SplRust.Home
open SplRust.Lib SplRust.Core List

/-- The bytes of the frame that a byte string ends inside, cut at the headers by their declared
lengths; none if it ends with a frame. -/
def unfinished : Bytes → Bytes
  | b0 :: b1 :: b2 :: b3 :: flags :: l0 :: l1 :: l2 :: body =>
      let head : Header := ⟨b0, b1, b2, b3, flags, l0, l1, l2⟩
      if body.length < head.length then head.bytes ++ body else unfinished (body.drop head.length)
  | part => part
  termination_by bytes => bytes.length
  decreasing_by simp only [length_drop, length_cons]; omega

/-- The header is there and has the reserved flag. -/
def refusedHeader : Bytes → Bool
  | _ :: _ :: _ :: _ :: flags :: _ :: _ :: _ :: _ => decide (flags &&& flagReservedMask ≠ 0)
  | _ => false

theorem refusedHeader_bytes (head : Header) (body : Bytes) :
    refusedHeader (head.bytes ++ body) = decide head.Reserved := rfl

namespace WirePhase

/-- The bytes that the acceptor counts. -/
def counted (phase : WirePhase) : Bytes := phase.headerBuffer ++ phase.decoderBuffer

theorem after_header {part bytes : Bytes} (short : (part ++ bytes).length < headerLen) :
    (WirePhase.header part).after bytes = .header (part ++ bytes) := by
  induction bytes generalizing part with
  | nil => rw [append_nil]; rfl
  | cons byte bytes ih =>
    rw [append_cons] at short ⊢
    have shorter : (part ++ [byte]).length < headerLen := by
      rw [length_append] at short
      omega
    have begun : part.length < headerLen := by
      rw [length_append] at shorter
      omega
    have grows : (WirePhase.header part).step byte = (.header (part ++ [byte]), []) := by
      rcases step_header begun byte with ⟨head, whole, -⟩ | ⟨-, grows⟩
      · rw [whole] at shorter
        exact absurd shorter (by simp [Header.bytes, headerLen])
      · exact grows
    rw [after, grows, ih short]

theorem after_head (head : Header) (body : Bytes) : start.after (head.bytes ++ body) = (take head).1.after body := by
  rw [after_append]
  rfl

theorem after_payload {head : Header} {got body : Bytes} (plain : got.length < head.length) :
    (WirePhase.payload head got).after body =
      if got.length + body.length < head.length then .payload head (got ++ body)
      else start.after (body.drop (head.length - got.length)) := by
  induction body generalizing got with
  | nil => rw [length_nil, Nat.add_zero, if_pos plain, append_nil]; rfl
  | cons byte body ih =>
    rw [after, step]
    by_cases more : got.length + 1 < head.length
    · have longer : (got ++ [byte]).length = got.length + 1 := by simp
      obtain ⟨rest, left⟩ : ∃ rest, head.length - got.length = rest + 1 := ⟨head.length - got.length - 1, by omega⟩
      have same : head.length - (got.length + 1) = rest := by omega
      rw [if_pos more, ih (by omega), longer, left, drop_succ_cons, length_cons, ← append_cons, same,
        Nat.add_assoc, Nat.add_comm 1]
    · have last : head.length - got.length = 1 := by omega
      rw [if_neg more, last, drop_succ_cons, drop_zero, if_neg (by rw [length_cons]; omega)]

theorem after_skipping (remaining : Nat) (body : Bytes) : (skipping remaining).after body =
    if body.length < remaining then .skip (remaining - body.length) else start.after (body.drop remaining) := by
  induction body generalizing remaining with
  | nil =>
    by_cases some_left : 0 < remaining
    · rw [length_nil, if_pos some_left, skipping, if_pos some_left]; rfl
    · rw [length_nil, if_neg some_left, skipping, if_neg some_left, drop_nil]
  | cons byte body ih =>
    cases remaining with
    | zero => rfl
    | succ remaining =>
      have hs : (skipping (remaining + 1)).after (byte :: body) = (skipping remaining).after body := rfl
      rw [hs, ih, drop_succ_cons, length_cons, Nat.add_sub_add_right]
      by_cases short : body.length < remaining
      · rw [if_pos short, if_pos (by omega)]
      · rw [if_neg short, if_neg (by omega)]

/-- The acceptor counts the bytes of the unfinished frame, unless it skips them. -/
theorem counted_after (bytes : Bytes) : (start.after bytes).counted =
    if refusedHeader (unfinished bytes) then [] else unfinished bytes := by
  fun_induction unfinished bytes with
  | case1 b0 b1 b2 b3 flags l0 l1 l2 body head short =>
    have split : start.after (b0 :: b1 :: b2 :: b3 :: flags :: l0 :: l1 :: l2 :: body) =
        (take head).1.after body := after_head head body
    rw [split, refusedHeader_bytes]
    by_cases reserved : head.Reserved
    · rw [take, if_pos reserved, after_skipping, if_pos short, if_pos (decide_eq_true reserved)]
      rfl
    · have some_left : head.length ≠ 0 := by omega
      rw [take, if_neg reserved, if_neg some_left, after_payload (by rw [length_nil]; omega),
        if_pos (by rw [length_nil]; omega), decide_eq_false reserved]
      rfl
  | case2 b0 b1 b2 b3 flags l0 l1 l2 body head whole ih =>
    have split : start.after (b0 :: b1 :: b2 :: b3 :: flags :: l0 :: l1 :: l2 :: body) =
        (take head).1.after body := after_head head body
    rw [split, ← ih]
    by_cases reserved : head.Reserved
    · rw [take, if_pos reserved, after_skipping, if_neg whole]
    · by_cases empty : head.length = 0
      · rw [take, if_neg reserved, if_pos empty, empty, drop_zero]
      · rw [take, if_neg reserved, if_neg empty, after_payload (by rw [length_nil]; omega),
          if_neg (by rw [length_nil]; omega), length_nil, Nat.sub_zero]
  | case3 part incomplete =>
    have short : part.length < headerLen := by
      by_contra long
      rcases part with _ | ⟨b0, _ | ⟨b1, _ | ⟨b2, _ | ⟨b3, _ | ⟨flags, _ | ⟨l0, _ | ⟨l1, _ | ⟨l2, body⟩⟩⟩⟩⟩⟩⟩⟩
      all_goals first
        | exact incomplete b0 b1 b2 b3 flags l0 l1 l2 body rfl
        | simp [headerLen] at long
    have none_refused : refusedHeader part = false := by
      unfold refusedHeader
      split
      · simp only [headerLen, length_cons] at short
        omega
      · rfl
    have grown : start.after part = .header part := after_header short
    rw [grown, none_refused]
    exact append_nil part

end WirePhase

/-- However the bytes of a carrier are fed, as long as no call fails: `finish_eof` tells whether
they end inside a frame if and only if that is not a frame whose header was refused. -/
theorem MuxAcceptor.truncation_reported_iff {limits : MuxLimits} {acceptor : MuxAcceptor}
    (made : MuxAcceptor.new limits = .ok acceptor) (pieces : List Bytes) {outs : List MuxOutput}
    (succeeded : (acceptor.feedEach pieces).2 = outs.map .ok) :
    (acceptor.feedEach pieces).1.finishEof.2.events = [.peerGone (decide (unfinished pieces.flatten ≠ []))] ↔
      refusedHeader (unfinished pieces.flatten) = false := by
  obtain ⟨rfl, -, large⟩ := MuxAcceptor.new_eq made
  have roomy : headerLen + maxPayload ≤ ({ limits } : MuxStreams).limits.decoderBufferBytes := large
  obtain ⟨last, after, -, -, ended, refined⟩ := MuxAcceptor.feedEach_hold WirePhase.start_wellFormed roomy pieces
  obtain ⟨rfl, -⟩ := refined outs succeeded
  have reported : ∀ counted : Bytes, (counted.length != 0) = decide (counted ≠ []) := by
    intro counted
    cases counted with
    | nil | cons => rfl
  rw [ended]
  show [MuxEvent.peerGone (_ + _ != 0)] = _ ↔ _
  rw [← length_append, reported, ← WirePhase.counted, WirePhase.counted_after]
  cases refused : refusedHeader (unfinished pieces.flatten) with
  | false => simp
  | true =>
    have inside : unfinished pieces.flatten ≠ [] := by
      intro none_left
      rw [none_left] at refused
      cases refused
    simp [inside]

/-- The carrier ends two bytes before the end of a frame with the reserved flag. -/
def endedInRefused : Bytes := [0, 0, 0, 1, 0x80, 0, 0, 3, 7]

/-- Such an end is reported as a clean one. -/
theorem MuxAcceptor.refused_frame_cut_unreported : ∃ acceptor out,
    MuxAcceptor.new {} = .ok acceptor ∧ (acceptor.feedEach [endedInRefused]).2 = [.ok out] ∧
      unfinished endedInRefused = endedInRefused ∧
      (acceptor.feedEach [endedInRefused]).1.finishEof.2.events = [.peerGone false] := by
  have evaluated : ((WirePhase.start.hold { limits := {} }).feedEach [endedInRefused]).2 = [.ok {
        frames := [.reset 1 RefusalClass.protocol.resetCode]
        refusals := [⟨.protocol, some ⟨1, 0x80, 3⟩⟩] }] ∧
      ((WirePhase.start.hold { limits := {} }).feedEach [endedInRefused]).1.finishEof.2.events =
        [.peerGone false] := by
    decide +kernel
  refine ⟨_, _, rfl, evaluated.1, ?_, evaluated.2⟩
  simp [endedInRefused, unfinished, Header.length, fromLengthBytes, Header.bytes]

/-- A carrier that ends inside the header of its second frame. -/
theorem MuxAcceptor.truncation_reported_header : ∃ acceptor outs, MuxAcceptor.new {} = .ok acceptor ∧
      (acceptor.feedEach [[0, 0, 0, 1, 1], [0, 0, 0, 0, 0]]).2 = List.map Except.ok outs ∧
      (acceptor.feedEach [[0, 0, 0, 1, 1], [0, 0, 0, 0, 0]]).1.finishEof.2.events = [.peerGone true] := by
  have evaluated : ((WirePhase.start.hold { limits := {} }).feedEach [[0, 0, 0, 1, 1], [0, 0, 0, 0, 0]]).2 =
      List.map Except.ok [{}, { events := [.opened 1] }] := by
    decide +kernel
  have inside : unfinished [[0, 0, 0, 1, 1], [0, 0, 0, 0, 0]].flatten = [0, 0] := by
    simp [unfinished, Header.length, fromLengthBytes]
  have made : MuxAcceptor.new {} = .ok (WirePhase.start.hold { limits := {} }) := rfl
  have reported := (MuxAcceptor.truncation_reported_iff made _ evaluated).mpr (by rw [inside]; rfl)
  rw [inside] at reported
  exact ⟨_, _, made, evaluated, reported⟩

end SplRust.Home
