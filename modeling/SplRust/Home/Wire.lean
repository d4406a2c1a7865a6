import SplRust.Home.AcceptorStep

/-! The items of a byte string, cut at its eight-byte headers, and the byte-at-a-time
automaton that produces them. `wireItems` is the specification on whole strings; the
automaton is what the acceptor's partial-frame fields are coupled to. -/

namespace SplRust.Home
open SplRust.Lib SplRust.Core List

/-- A complete header. -/
structure Header where
  b0 : UInt8
  b1 : UInt8
  b2 : UInt8
  b3 : UInt8
  flags : UInt8
  l0 : UInt8
  l1 : UInt8
  l2 : UInt8
  deriving DecidableEq, Repr

namespace Header

variable (head : Header)

def bytes : Bytes := [head.b0, head.b1, head.b2, head.b3, head.flags, head.l0, head.l1, head.l2]

def streamId : UInt32 := fromBeBytes head.b0 head.b1 head.b2 head.b3

def length : Nat := fromLengthBytes head.l0 head.l1 head.l2

def Reserved : Prop := head.flags &&& flagReservedMask ≠ 0

instance (head : Header) : Decidable head.Reserved := inferInstanceAs (Decidable (_ ≠ _))

def frame (payload : Bytes) : Frame := ⟨head.streamId, head.flags, payload⟩

def violation : FrameViolation := ⟨head.streamId, head.flags, head.length⟩

theorem length_le : head.length ≤ maxPayload := by
  have := fromLengthBytes_lt head.l0 head.l1 head.l2
  simp only [length, maxPayload]
  omega

theorem nextFrameOf_bytes (body : Bytes) : FrameDecoder.nextFrameOf (head.bytes ++ body) =
      if head.Reserved then .error (.reservedFlag head.flags) else if body.length < head.length then .ok none
      else .ok (some (head.frame (body.take head.length), body.drop head.length)) := rfl

end Header

/-- The items of a byte string. An item with a reserved flag counts once its header is
there, and its payload is skipped as far as it is there. -/
def wireItems : Bytes → List WireItem
  | b0 :: b1 :: b2 :: b3 :: flags :: l0 :: l1 :: l2 :: body =>
      let head : Header := ⟨b0, b1, b2, b3, flags, l0, l1, l2⟩
      if head.Reserved then .reserved head.violation :: wireItems (body.drop head.length)
      else if body.length < head.length then []
      else .frame (head.frame (body.take head.length)) :: wireItems (body.drop head.length)
  | _ => []
  termination_by bytes => bytes.length
  decreasing_by all_goals simp only [length_drop, length_cons]; omega

theorem wireItems_header (head : Header) (body : Bytes) : wireItems (head.bytes ++ body) =
      if head.Reserved then .reserved head.violation :: wireItems (body.drop head.length)
      else if body.length < head.length then []
      else .frame (head.frame (body.take head.length)) :: wireItems (body.drop head.length) := by
  rw [Header.bytes]
  simp only [cons_append, nil_append, wireItems]

theorem wireItems_short {bytes : Bytes} (short : bytes.length < headerLen) : wireItems bytes = [] := by
  unfold wireItems
  split
  · simp only [headerLen, length_cons] at short
    omega
  · rfl

theorem wireItems_nil : wireItems [] = [] := wireItems_short (by simp [headerLen])

/-- The header of a frame; its length field holds the length if it is not too large. -/
def headerOf (frame : Frame) : Header where
  b0 := UInt8.ofNat (frame.streamId.toNat / 2 ^ 24)
  b1 := UInt8.ofNat (frame.streamId.toNat / 2 ^ 16)
  b2 := UInt8.ofNat (frame.streamId.toNat / 2 ^ 8)
  b3 := UInt8.ofNat frame.streamId.toNat
  flags := frame.flags
  l0 := UInt8.ofNat (frame.payload.length / 2 ^ 16)
  l1 := UInt8.ofNat (frame.payload.length / 2 ^ 8)
  l2 := UInt8.ofNat frame.payload.length

theorem wire_eq_headerOf (fr : Frame) : fr.wire = (headerOf fr).bytes ++ fr.payload := rfl

theorem headerOf_streamId (fr : Frame) : (headerOf fr).streamId = fr.streamId := fromBeBytes_toBeBytes fr.streamId

theorem headerOf_length {fr : Frame} (sized : fr.payload.length ≤ maxPayload) :
    (headerOf fr).length = fr.payload.length := by
  apply fromLengthBytes_lengthBytes
  simp only [maxPayload] at sized
  omega

/-- What the bytes of a frame are read as, whether or not an encoder would send them. -/
def itemOf (frame : Frame) : WireItem :=
  if frame.flags &&& flagReservedMask ≠ 0 then .reserved (violation frame) else .frame frame

theorem wireItems_itemOf {fr : Frame} (sized : fr.payload.length ≤ maxPayload)
    (rest : Bytes) : wireItems (fr.wire ++ rest) = itemOf fr :: wireItems rest := by
  have length := headerOf_length sized
  have enough : ¬ (fr.payload ++ rest).length < (headerOf fr).length := by
    rw [length, length_append]
    omega
  rw [wire_eq_headerOf, append_assoc, wireItems_header, if_neg enough, length, drop_left, take_left, itemOf]
  by_cases reserved : fr.flags &&& flagReservedMask ≠ 0
  · have flagged : (headerOf fr).Reserved := reserved
    rw [if_pos flagged, if_pos reserved, Header.violation, length, headerOf_streamId]
    rfl
  · have plain : ¬ (headerOf fr).Reserved := reserved
    rw [if_neg plain, if_neg reserved, Header.frame, headerOf_streamId]
    rfl

theorem wireItems_wire {fr : Frame} (fits : fr.Encodable) (rest : Bytes) :
    wireItems (fr.wire ++ rest) = .frame fr :: wireItems rest := by
  rw [wireItems_itemOf fits.1, itemOf, if_neg (not_not.mpr fits.2)]

/-- Where the automaton stands between two bytes. -/
inductive WirePhase where
  | header (part : Bytes)
  | payload (head : Header) (got : Bytes)
  | skip (remaining : Nat)
  deriving DecidableEq, Repr

namespace WirePhase

def start : WirePhase := .header []

def skipping (remaining : Nat) : WirePhase := if remaining > 0 then .skip remaining else start

/-- A complete header. -/
def take (head : Header) : WirePhase × List WireItem :=
  if head.Reserved then (skipping head.length, [.reserved head.violation])
  else if head.length = 0 then (start, [.frame (head.frame [])])
  else (.payload head [], [])

def step : WirePhase → UInt8 → WirePhase × List WireItem
  | .header part, byte =>
      match part ++ [byte] with
      | [b0, b1, b2, b3, flags, l0, l1, l2] => take ⟨b0, b1, b2, b3, flags, l0, l1, l2⟩
      | part => (.header part, [])
  | .payload head got, byte =>
      if got.length + 1 < head.length then (.payload head (got ++ [byte]), [])
      else (start, [.frame (head.frame (got ++ [byte]))])
  | .skip remaining, _ => (skipping (remaining - 1), [])

def after : WirePhase → Bytes → WirePhase
  | phase, [] => phase
  | phase, byte :: bytes => after (phase.step byte).1 bytes

def items : WirePhase → Bytes → List WireItem
  | _, [] => []
  | phase, byte :: bytes => (phase.step byte).2 ++ items (phase.step byte).1 bytes

theorem items_append (ph : WirePhase) (fst second : Bytes) :
    ph.items (fst ++ second) = ph.items fst ++ (ph.after fst).items second := by
  induction fst generalizing ph with
  | nil => rfl
  | cons byte fst ih => simp only [cons_append, items, after, ih, append_assoc]

theorem after_append (ph : WirePhase) (fst second : Bytes) :
    ph.after (fst ++ second) = (ph.after fst).after second := by
  induction fst generalizing ph with
  | nil => rfl
  | cons byte fst ih => exact ih (ph.step byte).1

/-- Phases the automaton can be in. -/
def WellFormed : WirePhase → Prop
  | .header part => part.length < headerLen
  | .payload head got => ¬ head.Reserved ∧ got.length < head.length
  | .skip remaining => 0 < remaining

/-- The bytes still to be split, with those of the unfinished item put back. -/
def restore : WirePhase → Bytes → Bytes
  | .header part, bytes => part ++ bytes
  | .payload head got, bytes => head.bytes ++ (got ++ bytes)
  | .skip remaining, bytes => bytes.drop remaining

theorem start_wellFormed : start.WellFormed := by simp [start, WellFormed, headerLen]

theorem skipping_wellFormed (remaining : Nat) : (skipping remaining).WellFormed := by
  simp only [skipping]
  split
  · assumption
  · simp [start, WellFormed, headerLen]

theorem restore_skipping (remaining : Nat) (bytes : Bytes) :
    (skipping remaining).restore bytes = bytes.drop remaining := by
  simp only [skipping]
  split
  · rfl
  next done =>
    have zero : remaining = 0 := by omega
    simp [start, restore, zero]

theorem take_wellFormed (head : Header) : (take head).1.WellFormed := by
  simp only [take]
  split
  · exact skipping_wellFormed _
  next plain =>
    split
    · simp [start, WellFormed, headerLen]
    · exact ⟨plain, by simp only [length_nil]; omega⟩

theorem wireItems_take (head : Header) (bytes : Bytes) : wireItems (head.bytes ++ bytes) =
      (take head).2 ++ wireItems ((take head).1.restore bytes) := by
  by_cases reserved : head.Reserved
  · rw [wireItems_header, if_pos reserved, take, if_pos reserved, restore_skipping]
    rfl
  by_cases empty : head.length = 0
  · rw [wireItems_header, if_neg reserved, take, if_neg reserved, if_pos empty, empty]
    simp [start, restore]
  · rw [take, if_neg reserved, if_neg empty]
    rfl

theorem step_header {part : Bytes} (short : part.length < headerLen) (byte : UInt8) :
    (∃ head : Header, part ++ [byte] = head.bytes ∧ (WirePhase.header part).step byte = take head) ∨
    ((part ++ [byte]).length < headerLen ∧ (WirePhase.header part).step byte = (.header (part ++ [byte]), [])) := by
  simp only [step]
  split
  next b0 b1 b2 b3 flags l0 l1 l2 complete => exact Or.inl ⟨⟨b0, b1, b2, b3, flags, l0, l1, l2⟩, complete, rfl⟩
  next incomplete =>
    refine Or.inr ⟨?_, rfl⟩
    by_contra long
    have eight : (part ++ [byte]).length = 8 := by
      simp only [headerLen, length_append, length_cons, length_nil] at short long ⊢
      omega
    generalize part ++ [byte] = whole at incomplete eight
    rcases whole with _ | ⟨b0, _ | ⟨b1, _ | ⟨b2, _ | ⟨b3, _ | ⟨flags, _ | ⟨l0, _ | ⟨l1, _ | ⟨l2,
      _ | _⟩⟩⟩⟩⟩⟩⟩⟩ <;> simp at eight
    exact incomplete b0 b1 b2 b3 flags l0 l1 l2 rfl

variable {ph : WirePhase}

theorem step_wellFormed (formed : ph.WellFormed) (byte : UInt8) : (ph.step byte).1.WellFormed := by
  cases ph with
  | header =>
    rcases step_header formed byte with ⟨head, -, hs⟩ | ⟨short, hs⟩
    · rw [hs]
      exact take_wellFormed head
    · rw [hs]
      exact short
  | payload =>
    simp only [step]
    split
    next short => exact ⟨formed.1, by simpa using short⟩
    · simp [start, WellFormed, headerLen]
  | skip => exact skipping_wellFormed _

theorem wireItems_step (formed : ph.WellFormed) (byte : UInt8) (bytes : Bytes) :
    wireItems (ph.restore (byte :: bytes)) = (ph.step byte).2 ++ wireItems ((ph.step byte).1.restore bytes) := by
  cases ph with
  | header =>
    rw [restore, append_cons]
    rcases step_header formed byte with ⟨head, complete, hs⟩ | ⟨-, hs⟩
    · rw [hs, complete, wireItems_take]
    · rw [hs]
      rfl
  | payload head got =>
    obtain ⟨plain, _⟩ := formed
    simp only [step]
    split
    · simp [restore]
    next complete =>
      have size : (got ++ [byte]).length = head.length := by
        simp only [length_append, length_cons, length_nil]
        omega
      rw [restore, append_cons, wireItems_header, if_neg plain, if_neg (by
        rw [length_append]; omega), ← size, take_left, drop_left]
      rfl
  | skip remaining =>
    obtain ⟨less, rfl⟩ : ∃ less, remaining = less + 1 := ⟨remaining - 1, by
      have : 0 < remaining := formed
      omega⟩
    simp only [step, restore_skipping, nil_append]
    rfl

theorem after_wellFormed (formed : ph.WellFormed) (bytes : Bytes) : (ph.after bytes).WellFormed := by
  induction bytes generalizing ph with
  | nil => exact formed
  | cons byte bytes ih => exact ih (step_wellFormed formed byte)

/-- The automaton produces the items of the bytes it is given. -/
theorem items_eq (formed : ph.WellFormed) (bytes : Bytes) :
    ph.items bytes = wireItems (ph.restore bytes) := by
  induction bytes generalizing ph with
  | nil =>
    cases ph with
    | header =>
      rw [restore, append_nil, wireItems_short formed]
      rfl
    | payload => simp [items, restore, wireItems_header, formed.1, formed.2]
    | skip =>
      rw [restore, drop_nil, wireItems_nil]
      rfl
  | cons byte bytes ih => rw [items, ih (step_wellFormed formed byte), wireItems_step formed]

/-- Bytes taken first leave the items of the others. -/
theorem wireItems_after (formed : ph.WellFormed) (fst second : Bytes) :
    wireItems (ph.restore (fst ++ second)) = ph.items fst ++ wireItems ((ph.after fst).restore second) := by
  rw [← items_eq formed, ← items_eq (after_wellFormed formed fst), items_append]

theorem start_items (bytes : Bytes) : start.items bytes = wireItems bytes := items_eq start_wellFormed bytes

end WirePhase

end SplRust.Home
