import Mathlib.Data.List.Basic

/-! Things that are numbered in the order in which they come. -/

namespace SplRust.Lib
variable {α : Type} {items : List α} {item found : α} {ix oid : Nat}

theorem getElem?_concat : (items ++ [item])[ix]? = some found ↔
    items[ix]? = some found ∨ ix = items.length ∧ item = found := by
  rw [List.getElem?_append]
  split
  next early => exact ⟨Or.inl, fun either => either.resolve_right fun last => Nat.ne_of_lt early last.1⟩
  next late =>
    rw [List.getElem?_singleton, List.getElem?_eq_none (Nat.not_lt.mp late)]
    by_cases last : ix = items.length
    · simp [last]
    · have beyond : ix - items.length ≠ 0 := by omega
      simp [last, beyond]

theorem of_getElem?_set (lookup : (items.set ix item)[oid]? = some found) :
    oid = ix ∧ found = item ∨ oid ≠ ix ∧ items[oid]? = some found := by
  by_cases same : oid = ix
  · subst same
    obtain ⟨inside, there⟩ := List.getElem?_eq_some_iff.mp lookup
    exact Or.inl ⟨rfl, there.symm.trans (List.getElem_set_self inside)⟩
  · exact Or.inr ⟨same, (List.getElem?_set_ne (Ne.symm same)).symm.trans lookup⟩

end SplRust.Lib
