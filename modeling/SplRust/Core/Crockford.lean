import SplRust.Core.Http
import SplRust.Lib.Shifter

/-! Crockford base32 (`spl-core/src/crockford.rs`). Symbols and bytes are digits of one number, up to
the zero bits at the end. -/

namespace SplRust.Core
open SplRust.Lib List

inductive CrockfordError where
  | invalidSymbol (c : Char)
  | nonZeroPadding
  deriving DecidableEq, Repr

namespace Crockford

def alphabet : Text := "0123456789ABCDEFGHJKMNPQRSTVWXYZ".toList

/-- The index is below 32. -/
def symbol (index : Nat) : Char := alphabet.getD index '0'

def normalized (c : Char) : Char :=
  match c.toUpper with
  | 'I' | 'L' => '1'
  | 'O' => '0'
  | other => other

def symbolValue (c : Char) : Except CrockfordError Nat :=
  match alphabet.findIdx? (· == normalized c) with
  | some value => .ok value
  | none => .error (.invalidSymbol c)

def decodeLoop : Text → Shifter → Except CrockfordError Shifter
  | [], state => .ok state
  | c :: rest, state =>
    if c = '-' then decodeLoop rest state
    else
      match symbolValue c with
      | .error error => .error error
      | .ok value => decodeLoop rest (state.push 5 8 1 value)

def decode (input : Text) : Except CrockfordError Bytes :=
  match decodeLoop input {} with
  | .error error => .error error
  | .ok state =>
    if 0 < state.bits ∧ state.buffer &&& (2 ^ state.bits - 1) ≠ 0 then .error .nonZeroPadding
    else .ok (state.out.map Nat.toUInt8)

/-- Fewer than 13 bits wait when the inner loop starts, so that it ends after two turns. -/
def encode (bytes : Bytes) : Text :=
  let state := (bytes.map UInt8.toNat).foldl (Shifter.push 8 5 2) {}
  let out := state.out.map symbol
  if 0 < state.bits then out ++ [symbol ((state.buffer <<< (5 - state.bits)) % 2 ^ 32 &&& 0x1f)] else out

/-- Without hyphens, upper-cased and with `I` and `L` read as `1` and `O` as `0`. -/
def canonical (input : Text) : Text := (input.filter (· ≠ '-')).map normalized

variable {c : Char} {value : Nat} {inp : Text} {state final : Shifter} {bs : Bytes} {values others : List Nat}

theorem findIdx_symbol : ∀ value < 32, alphabet.findIdx? (· == symbol value) = some value := by decide

theorem normalized_symbol : ∀ value < 32, normalized (symbol value) = symbol value ∧ symbol value ≠ '-' := by decide

theorem symbolValue_eq_ok : symbolValue c = .ok value ↔ value < 32 ∧ normalized c = symbol value := by
  rw [symbolValue]
  constructor
  · split
    next fnd ix =>
      rintro ⟨⟩
      obtain ⟨inside, same, -⟩ := findIdx?_eq_some_iff_getElem.mp ix
      exact ⟨inside, by simp [symbol, inside, eq_of_beq same]⟩
    · rintro ⟨⟩
  · rintro ⟨small, same⟩
    rw [same, findIdx_symbol value small]

theorem decodeLoop_eq_ok : decodeLoop inp state = .ok final ↔ ∃ values : List Nat, (∀ value ∈ values, value < 32) ∧
    canonical inp = values.map symbol ∧ final = values.foldl (Shifter.push 5 8 1) state := by
  induction inp generalizing state with
  | nil =>
    constructor
    · rintro ⟨⟩
      exact ⟨[], by simp, rfl, rfl⟩
    · rintro ⟨values, -, same, rfl⟩
      rw [map_eq_nil_iff.mp same.symm]
      rfl
  | cons c rest ih =>
    rw [decodeLoop]
    split
    next hyphen => rw [ih, canonical, canonical, filter_cons_of_neg (by simpa using hyphen)]
    next oid =>
      have spelled : canonical (c :: rest) = normalized c :: canonical rest := by
        rw [canonical, filter_cons_of_pos (by simpa using oid), map_cons, canonical]
      rw [spelled]
      constructor
      · split
        · rintro ⟨⟩
        next value read =>
          intro decoded
          obtain ⟨small, same⟩ := symbolValue_eq_ok.mp read
          obtain ⟨values, bounded, tail, folded⟩ := ih.mp decoded
          exact ⟨value :: values, forall_mem_cons.mpr ⟨small, bounded⟩, by rw [same, tail, map_cons], folded⟩
      · rintro ⟨_ | ⟨value, values⟩, bounded, same, rfl⟩
        · cases same
        · obtain ⟨fst, tail⟩ := cons.inj same
          obtain ⟨small, bounded⟩ := forall_mem_cons.mp bounded
          rw [symbolValue_eq_ok.mpr ⟨small, fst⟩]
          exact ih.mpr ⟨values, bounded, tail, rfl⟩

theorem map_toUInt8 (small : ∀ value ∈ values, value < 256) : (values.map Nat.toUInt8).map UInt8.toNat = values := by
  rw [map_map]
  exact (map_congr_left fun value mem => Nat.mod_eq_of_lt (small value mem)).trans (map_id _)

theorem toNat_lt (bs : Bytes) : ∀ value ∈ bs.map UInt8.toNat, value < 256 := by
  simp only [mem_map]
  rintro _ ⟨byte, -, rfl⟩
  exact byte.toNat_lt

theorem loop_ended (small : ∀ value ∈ values, value < 32) (ended : final = values.foldl (Shifter.push 5 8 1) {}) :
    8 * final.out.length + final.bits = 5 * values.length ∧ final.bits < 8 ∧ (∀ value ∈ final.out, value < 256) ∧
    number 256 final.out = number 32 values / 2 ^ final.bits ∧
    ((0 < final.bits ∧ final.buffer &&& (2 ^ final.bits - 1) ≠ 0) ↔ number 32 values % 2 ^ final.bits ≠ 0) := by
  obtain ⟨spells, less⟩ := Shifter.foldl_spells (by decide : 5 + 8 ≤ 33) (by decide : 5 ≤ 8 * 1) (by decide) small
  rw [← ended] at spells less
  refine ⟨spells.total.symm, less, spells.small, spells.out, ?_⟩
  rw [Nat.and_two_pow_sub_one_eq_mod, spells.buffer, Nat.mod_mod_of_dvd _ (Nat.pow_dvd_pow 2 spells.room)]
  refine and_iff_right_of_imp fun nz => Nat.pos_of_ne_zero fun none => nz ?_
  rw [none, Nat.pow_zero, Nat.mod_one]

/-- The bytes are the leading digits of the symbols' number, and the bits after them are zero. -/
theorem decode_eq_ok : decode inp = .ok bs ↔ ∃ values : List Nat, (∀ value ∈ values, value < 32) ∧
    canonical inp = values.map symbol ∧ bs.length = 5 * values.length / 8 ∧
    number 32 values = number 256 (bs.map UInt8.toNat) * 2 ^ (5 * values.length % 8) := by
  rw [decode]
  constructor
  · split
    · rintro ⟨⟩
    next final looped =>
      obtain ⟨values, small, spelled, ended⟩ := decodeLoop_eq_ok.mp looped
      obtain ⟨tot, less, bounded, out, padding⟩ := loop_ended small ended
      split
      · rintro ⟨⟩
      next zero =>
        rintro ⟨⟩
        refine ⟨values, small, spelled, by simp only [length_map]; omega, ?_⟩
        have bits : 5 * values.length % 8 = final.bits := by omega
        rw [map_toUInt8 bounded, out, bits]
        exact (Nat.div_mul_cancel (Nat.dvd_of_mod_eq_zero (not_not.mp (padding.not.mp zero)))).symm
  · rintro ⟨values, small, spelled, length, same⟩
    rw [decodeLoop_eq_ok.mpr ⟨values, small, spelled, rfl⟩]
    generalize ended : values.foldl (Shifter.push 5 8 1) {} = final
    obtain ⟨tot, less, bounded, out, padding⟩ := loop_ended small ended.symm
    have bits : 5 * values.length % 8 = final.bits := by omega
    rw [bits] at same
    rw [same, Nat.mul_div_cancel _ (Nat.two_pow_pos _)] at out
    have digits : final.out = bs.map UInt8.toNat :=
      number_inj (by decide) (by rw [length_map]; omega) bounded (toNat_lt bs) out
    have zero : ¬number 32 values % 2 ^ final.bits ≠ 0 := by rw [same, Nat.mul_mod_left, not_not]
    simp only [padding.not.mpr zero, if_false, digits, map_map]
    exact congrArg _ ((map_congr_left fun byte _ => UInt8.ofNat_toNat).trans (map_id _))

theorem encode_eq (bs : Bytes) : ∃ values : List Nat, (∀ value ∈ values, value < 32) ∧
    encode bs = values.map symbol ∧ values.length = (8 * bs.length + 4) / 5 ∧
    number 32 values = number 256 (bs.map UInt8.toNat) * 2 ^ (5 * values.length - 8 * bs.length) := by
  obtain ⟨⟨tot, room, out, buffer, small⟩, less⟩ :=
    Shifter.foldl_spells (by decide : 8 + 5 ≤ 33) (by decide : 8 ≤ 5 * 2) (by decide) (toNat_lt bs)
  rw [encode]
  generalize (bs.map UInt8.toNat).foldl (Shifter.push 8 5 2) {} = state at *
  generalize number (2 ^ 8) (bs.map UInt8.toNat) = value at *
  rw [length_map] at tot
  split
  next some =>
    have last : (state.buffer <<< (5 - state.bits)) % 2 ^ 32 &&& 0x1f = value * 2 ^ (5 - state.bits) % 2 ^ 5 := by
      rw [Nat.and_two_pow_sub_one_eq_mod _ 5, buffer, Nat.shiftLeft_eq, Nat.mod_mod_of_dvd _ (by decide), Nat.mul_mod,
        Nat.mod_mod_of_dvd _ (by decide), ← Nat.mul_mod]
    have split : 2 ^ 5 = 2 ^ state.bits * 2 ^ (5 - state.bits) := by rw [← Nat.pow_add, Nat.add_sub_cancel' less.le]
    rw [last]
    refine ⟨state.out ++ [value * 2 ^ (5 - state.bits) % 2 ^ 5], ?_, by rw [map_append]; rfl, ?_, ?_⟩
    · simp only [mem_append, mem_singleton]
      rintro digit (old | rfl)
      · exact small digit old
      · exact Nat.mod_lt _ (by decide)
    · rw [length_append, length_singleton]
      omega
    · have exponent : 5 * (state.out.length + 1) - 8 * bs.length = 5 - state.bits := by omega
      have high : value * 2 ^ (5 - state.bits) / 2 ^ 5 = value / 2 ^ state.bits := by
        rw [split, Nat.mul_div_mul_right _ _ (Nat.two_pow_pos _)]
      rw [number_concat, length_append, length_singleton, exponent]
      change number (2 ^ 5) state.out * 2 ^ 5 + _ = value * _
      rw [out, ← high, Nat.div_add_mod']
  next none =>
    have whole : state.bits = 0 := Nat.eq_zero_of_not_pos none
    refine ⟨state.out, small, rfl, by omega, ?_⟩
    have exponent : 5 * state.out.length - 8 * bs.length = 0 := by omega
    rw [exponent, Nat.pow_zero, Nat.mul_one]
    rw [whole, Nat.pow_zero, Nat.div_one] at out
    exact out

/-- What is encoded is decoded again, in every spelling of it. -/
theorem decode_encode (bytes : Bytes) : decode (encode bytes) = .ok bytes ∧
    ∀ input, canonical input = encode bytes → decode input = .ok bytes := by
  obtain ⟨values, small, spelled, length, same⟩ := encode_eq bytes
  have spellings : ∀ input, canonical input = encode bytes → decode input = .ok bytes := by
    intro input canon
    refine decode_eq_ok.mpr ⟨values, small, canon.trans spelled, by omega, ?_⟩
    rw [same]
    congr 2
    omega
  refine ⟨spellings _ ?_, spellings⟩
  have kept : ∀ c ∈ encode bytes, normalized c = c ∧ c ≠ '-' := by
    simp only [spelled, mem_map]
    rintro _ ⟨value, member, rfl⟩
    exact normalized_symbol value (small value member)
  rw [canonical, filter_eq_self.mpr fun c member => decide_eq_true (kept c member).2]
  exact (map_congr_left fun c member => (kept c member).1).trans (map_id _)

/-- Decoded text is what encoding gives exactly when no whole symbol was padding. -/
theorem encode_decode (decoded : decode input = .ok bytes) :
    encode bytes = canonical input ↔ 5 * (canonical input).length % 8 < 5 := by
  obtain ⟨values, small, spelled, length, same⟩ := decode_eq_ok.mp decoded
  obtain ⟨others, also, encoded, count, alike⟩ := encode_eq bytes
  rw [encoded, spelled, length_map]
  constructor
  · intro equal
    have lengths := congrArg List.length equal
    simp only [length_map] at lengths
    omega
  · intro few
    have lengths : others.length = values.length := by omega
    refine congrArg _ (number_inj (by decide) lengths also small ?_)
    rw [alike, same]
    congr 2
    omega

theorem encode_decode_dash : encode [8] = canonical "lo-".toList ↔ 5 * (canonical "lo-".toList).length % 8 < 5 :=
  encode_decode (by decide +kernel)

theorem decode_padding_symbol : decode "0".toList = .ok [] ∧ encode [] ≠ canonical "0".toList := by decide +kernel

end Crockford

end SplRust.Core
