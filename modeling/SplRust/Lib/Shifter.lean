import Mathlib.Data.Nat.Digits.Lemmas

/-! Digits of one width are shifted into a 32-bit buffer, and digits of another width are taken from
it as soon as it holds enough bits. The high bits of the buffer are never cleared; what is taken are
the leading digits of the number that all digits so far spell. -/

namespace SplRust.Lib

/-- The number that digits spell, the first one the highest. -/
def number (base : Nat) (digits : List Nat) : Nat := Nat.ofDigits base digits.reverse

theorem number_concat (base digit : Nat) (digits : List Nat) :
    number base (digits ++ [digit]) = number base digits * base + digit := by
  simp [number, Nat.ofDigits_cons, Nat.mul_comm, Nat.add_comm]

theorem number_inj {base : Nat} {digits others : List Nat} (large : 1 < base) (length : digits.length = others.length)
    (small : ∀ digit ∈ digits, digit < base) (also : ∀ digit ∈ others, digit < base)
    (same : number base digits = number base others) : digits = others := by
  refine List.reverse_injective (Nat.ofDigits_inj_of_len_eq large ?_ ?_ ?_ same)
  · simpa using length
  · simpa using small
  · simpa using also

structure Shifter where
  out : List Nat := []
  buffer : Nat := 0
  bits : Nat := 0

namespace Shifter

/-- At most so many digits are taken, while there are enough bits. -/
def emit (width : Nat) : Nat → Shifter → Shifter
  | 0, state => state
  | turns + 1, state =>
    if state.bits ≥ width then
      emit width turns { state with
        out := state.out ++ [(state.buffer >>> (state.bits - width)) % 2 ^ width], bits := state.bits - width }
    else state

def push (source width turns : Nat) (state : Shifter) (digit : Nat) : Shifter :=
  emit width turns { state with buffer := (state.buffer <<< source) % 2 ^ 32 ||| digit, bits := state.bits + source }

/-- What was taken are the leading digits of `value`, which has `total` bits. -/
structure Spells (width value total : Nat) (s : Shifter) : Prop where
  total : total = width * s.out.length + s.bits
  room : s.bits ≤ 32
  out : number (2 ^ width) s.out = value / 2 ^ s.bits
  buffer : s.buffer = value % 2 ^ 32
  small : ∀ digit ∈ s.out, digit < 2 ^ width

variable {source width turns value tot digit : Nat} {s : Shifter}

theorem window_mod {start : Nat} (inside : start + width ≤ 32) :
    ((value % 2 ^ 32) >>> start) % 2 ^ width = value / 2 ^ start % 2 ^ width := by
  rw [Nat.shiftRight_eq_div_pow, ← Nat.mod_mul_right_div_self, ← Nat.mod_mul_right_div_self value, ← Nat.pow_add,
    Nat.mod_mod_of_dvd _ (Nat.pow_dvd_pow 2 inside)]

theorem shifted_or (fits : source ≤ 32) (small : digit < 2 ^ source) :
    ((value % 2 ^ 32) <<< source) % 2 ^ 32 ||| digit = (value * 2 ^ source + digit) % 2 ^ 32 := by
  have split : 2 ^ 32 = 2 ^ source * 2 ^ (32 - source) := by rw [← Nat.pow_add, Nat.add_sub_cancel' fits]
  have shorter : 2 ^ (32 - source) ∣ 2 ^ 32 := Nat.pow_dvd_pow 2 (Nat.sub_le _ _)
  have low : (value * 2 ^ source + digit) % 2 ^ source = digit := by rw [Nat.mul_add_mod', Nat.mod_eq_of_lt small]
  have high : (value * 2 ^ source + digit) / 2 ^ source = value := by
    rw [Nat.mul_comm, Nat.mul_add_div (Nat.two_pow_pos _), Nat.div_eq_of_lt small, Nat.add_zero]
  calc ((value % 2 ^ 32) <<< source) % 2 ^ 32 ||| digit
      = 2 ^ source * (value % 2 ^ (32 - source)) ||| digit := by
        rw [Nat.shiftLeft_eq, Nat.mul_comm, split, Nat.mul_mod_mul_left, ← split, Nat.mod_mod_of_dvd _ shorter]
    _ = 2 ^ source * (value % 2 ^ (32 - source)) + digit := (Nat.two_pow_add_eq_or_of_lt small _).symm
    _ = (value * 2 ^ source + digit) % 2 ^ 32 := by rw [split, Nat.mod_mul, low, high, Nat.add_comm]

theorem emit_spells (spells : Spells width value tot s) : Spells width value tot (emit width turns s) := by
  induction turns generalizing s with
  | zero => exact spells
  | succ turns ih =>
    rw [emit]
    split
    next enough =>
      obtain ⟨whole, room, out, buffer, small⟩ := spells
      have split : 2 ^ s.bits = 2 ^ (s.bits - width) * 2 ^ width := by rw [← Nat.pow_add, Nat.sub_add_cancel enough]
      refine ih ⟨?_, Nat.le_trans (Nat.sub_le _ _) room, ?_, buffer, ?_⟩
      · simp only [List.length_append, List.length_singleton, Nat.mul_add]
        omega
      · rw [number_concat, out, buffer, window_mod (by omega), split, ← Nat.div_div_eq_div_mul, Nat.div_add_mod']
      · simp only [List.mem_append, List.mem_singleton]
        rintro digit (old | rfl)
        · exact small digit old
        · exact Nat.mod_lt _ (Nat.two_pow_pos _)
    · exact spells

theorem emit_bits (few : s.bits < width * (turns + 1)) : (emit width turns s).bits < width := by
  induction turns generalizing s with
  | zero => simpa [emit] using few
  | succ turns ih =>
    rw [emit]
    split
    next enough =>
      rw [Nat.mul_succ] at few
      exact ih (Nat.sub_lt_right_of_lt_add enough few)
    next scarce => exact Nat.not_le.mp scarce

theorem push_spells (fits : source + width ≤ 33) (small : digit < 2 ^ source) (less : s.bits < width)
    (spells : Spells width value tot s) :
    Spells width (value * 2 ^ source + digit) (tot + source) (push source width turns s digit) := by
  obtain ⟨whole, -, out, buffer, bounded⟩ := spells
  refine emit_spells ⟨?_, ?_, ?_, ?_, bounded⟩
  · rw [whole, Nat.add_assoc]
  · change s.bits + source ≤ 32
    omega
  · rw [out, Nat.add_comm s.bits, Nat.pow_add, ← Nat.div_div_eq_div_mul, Nat.mul_comm value,
      Nat.mul_add_div (Nat.two_pow_pos _), Nat.div_eq_of_lt small, Nat.add_zero]
  · rw [buffer]
    exact shifted_or (by omega) small

/-- All digits, from an empty buffer. -/
theorem foldl_spells (fits : source + width ≤ 33) (enough : source ≤ width * turns) (positive : 0 < width)
    {digits : List Nat} (small : ∀ digit ∈ digits, digit < 2 ^ source) :
    Spells width (number (2 ^ source) digits) (source * digits.length) (digits.foldl (push source width turns) {}) ∧
      (digits.foldl (push source width turns) {}).bits < width := by
  induction digits using List.reverseRecOn with
  | nil => exact ⟨⟨rfl, Nat.zero_le _, by simp [number], rfl, by simp⟩, positive⟩
  | append_singleton digits digit ih =>
    obtain ⟨spells, less⟩ := ih fun digit mem => small digit (List.mem_append_left _ mem)
    rw [List.foldl_concat, number_concat, List.length_append, List.length_singleton, Nat.mul_succ]
    refine ⟨push_spells fits (small digit (by simp)) less spells, emit_bits ?_⟩
    rw [Nat.mul_succ]
    exact Nat.add_lt_add_of_lt_of_le less enough |>.trans_eq (Nat.add_comm _ _)

end Shifter

end SplRust.Lib
