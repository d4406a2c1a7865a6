import Mathlib.Algebra.GroupWithZero.Nat
import Mathlib.Data.List.Basic

/-! Machine words as the source uses them: big-endian byte codecs and the checked
and saturating arithmetic of 64-bit counters, which are kept as natural numbers. -/

namespace SplRust.Lib

abbrev Bytes := List UInt8

/-- The bytes of an ASCII byte-string literal. -/
def asciiBytes (text : String) : Bytes := text.toList.map fun c => UInt8.ofNat c.toNat

/-- Largest value of a 64-bit counter (`u64::MAX`, and `usize::MAX` on the 64-bit targets). -/
def wordMax : Nat := 2 ^ 64 - 1

def checkedAdd (a b : Nat) : Option Nat := if a + b ≤ wordMax then some (a + b) else none

def checkedSub (a b : Nat) : Option Nat := if b ≤ a then some (a - b) else none

def saturatingAdd (a b : Nat) : Nat := min (a + b) wordMax

theorem checkedAdd_of_le {a b : Nat} (fits : a + b ≤ wordMax) : checkedAdd a b = some (a + b) := if_pos fits

theorem checkedAdd_eq {a b sum : Nat} (added : checkedAdd a b = some sum) : sum = a + b := by
  unfold checkedAdd at added
  split at added
  · exact (Option.some.inj added).symm
  · cases added

theorem checkedSub_of_le {a b : Nat} (fits : b ≤ a) : checkedSub a b = some (a - b) := if_pos fits

theorem saturatingAdd_saturatingAdd (a b c : Nat) : saturatingAdd (saturatingAdd a b) c = saturatingAdd a (b + c) := by
  simp only [saturatingAdd]
  omega

theorem saturatingAdd_zero {a : Nat} (small : a ≤ wordMax) : saturatingAdd a 0 = a := by
  simp only [saturatingAdd]
  omega

def toBeBytes (n : UInt32) : Bytes :=
  [UInt8.ofNat (n.toNat / 2 ^ 24), UInt8.ofNat (n.toNat / 2 ^ 16), UInt8.ofNat (n.toNat / 2 ^ 8), UInt8.ofNat n.toNat]

def fromBeBytes (b0 b1 b2 b3 : UInt8) : UInt32 :=
  UInt32.ofNat (b0.toNat * 2 ^ 24 + b1.toNat * 2 ^ 16 + b2.toNat * 2 ^ 8 + b3.toNat)

@[simp] theorem toBeBytes_length (n : UInt32) : (toBeBytes n).length = 4 := rfl

theorem fromBeBytes_toBeBytes (n : UInt32) :
    fromBeBytes (UInt8.ofNat (n.toNat / 2 ^ 24)) (UInt8.ofNat (n.toNat / 2 ^ 16))
      (UInt8.ofNat (n.toNat / 2 ^ 8)) (UInt8.ofNat n.toNat) = n := by
  have bound : n.toNat < 2 ^ 32 := n.toNat_lt
  apply UInt32.toNat_inj.mp
  simp only [fromBeBytes, UInt32.toNat_ofNat', UInt8.toNat_ofNat']
  omega

/-- A 24-bit length, most significant byte first. -/
def lengthBytes (n : Nat) : Bytes := [UInt8.ofNat (n / 2 ^ 16), UInt8.ofNat (n / 2 ^ 8), UInt8.ofNat n]

def fromLengthBytes (l0 l1 l2 : UInt8) : Nat := l0.toNat * 2 ^ 16 + l1.toNat * 2 ^ 8 + l2.toNat

theorem fromLengthBytes_lengthBytes {n : Nat} (small : n < 2 ^ 24) :
    fromLengthBytes (UInt8.ofNat (n / 2 ^ 16)) (UInt8.ofNat (n / 2 ^ 8)) (UInt8.ofNat n) = n := by
  simp only [fromLengthBytes, UInt8.toNat_ofNat']
  omega

theorem fromLengthBytes_lt (l0 l1 l2 : UInt8) : fromLengthBytes l0 l1 l2 < 2 ^ 24 := by
  have h0 : l0.toNat < 256 := l0.toNat_lt
  have h1 : l1.toNat < 256 := l1.toNat_lt
  have h2 : l2.toNat < 256 := l2.toNat_lt
  simp only [fromLengthBytes]
  omega

end SplRust.Lib
