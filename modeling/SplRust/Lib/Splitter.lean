import Mathlib.Data.List.Basic

/-! Incremental splitting of a symbol sequence into items. A splitter looks at
the buffered input and either asks for more, takes one item off the front, or
rejects the input. Its three laws say that more input never changes a decision
already made, which is what makes the result independent of read boundaries. -/

namespace SplRust.Lib

structure Splitter (β α ε : Type) where
  next : List β → Except ε (Option (α × List β))
  next_shrinks : ∀ {input item rest}, next input = .ok (some (item, rest)) → rest.length < input.length
  next_extend : ∀ {input item rest} (more : List β), next input = .ok (some (item, rest)) →
    next (input ++ more) = .ok (some (item, rest ++ more))
  next_reject : ∀ {input err} (more : List β), next input = .error err →
    next (input ++ more) = .error err

namespace Splitter
variable {β α ε : Type} (S : Splitter β α ε) {input left : List β} {items : List α}

/-- Take items until the splitter asks for more or rejects. The first component
is the input left in the buffer; a rejection forgets the items taken before it. -/
def drain (input : List β) : List β × Except ε (List α) :=
  match taken : S.next input with
  | .error err => (input, .error err)
  | .ok none => (input, .ok [])
  | .ok (some (item, rest)) =>
      have := S.next_shrinks taken
      let drained := drain rest
      (drained.1, drained.2.map (item :: ·))
termination_by input.length

theorem drain_of_reject {err : ε} (taken : S.next input = .error err) :
    S.drain input = (input, .error err) := by
  rw [drain]
  split <;> simp_all

theorem drain_of_wait (taken : S.next input = .ok none) : S.drain input = (input, .ok []) := by
  rw [drain]
  split <;> simp_all

theorem drain_of_item {rest : List β} {item : α} (taken : S.next input = .ok (some (item, rest))) :
    S.drain input = ((S.drain rest).1, (S.drain rest).2.map (item :: ·)) := by
  rw [drain]
  split <;> simp_all

theorem next_cases (input : List β) : (∃ err, S.next input = .error err) ∨ S.next input = .ok none ∨
      ∃ item rest, S.next input = .ok (some (item, rest)) ∧ rest.length < input.length := by
  cases taken : S.next input with
  | error err => exact Or.inl ⟨err, rfl⟩
  | ok fnd =>
    cases fnd with
    | none => exact Or.inr (Or.inl rfl)
    | some pair => exact Or.inr (Or.inr ⟨pair.1, pair.2, rfl, S.next_shrinks taken⟩)

theorem drain_induction {motive : List β → Prop} (reject : ∀ input err, S.next input = .error err → motive input)
    (wait : ∀ input, S.next input = .ok none → motive input)
    (item : ∀ input item rest, S.next input = .ok (some (item, rest)) → motive rest →
      motive input) (input : List β) : motive input := by
  induction size : input.length using Nat.strongRecOn generalizing input with
  | ind _ ih =>
    rcases S.next_cases input with ⟨err, taken⟩ | taken | ⟨fnd, rest, taken, shorter⟩
    · exact reject input err taken
    · exact wait input taken
    · exact item input fnd rest taken (ih rest.length (by omega) rest rfl)

theorem drain_exhausted (input : List β)
    (drained : S.drain input = (left, .ok items)) : S.next left = .ok none := by
  induction input using S.drain_induction generalizing items with
  | reject _ _ taken => simp [S.drain_of_reject taken] at drained
  | wait _ taken =>
    rw [S.drain_of_wait taken] at drained
    simp only [Prod.mk.injEq] at drained
    exact drained.1 ▸ taken
  | item _ _ rest taken ih =>
    rw [S.drain_of_item taken] at drained
    cases res : (S.drain rest).2 with
    | error => simp [res, Except.map] at drained
    | ok tail =>
      have shape : S.drain rest = (left, .ok tail) := Prod.ext (by simpa using congrArg Prod.fst drained) res
      exact ih shape

/-- Input arriving after a successful drain is drained from what was left. -/
theorem drain_append (input more : List β)
    (drained : S.drain input = (left, .ok items)) : S.drain (input ++ more) =
      ((S.drain (left ++ more)).1, (S.drain (left ++ more)).2.map (items ++ ·)) := by
  induction input using S.drain_induction generalizing items with
  | reject _ _ taken => simp [S.drain_of_reject taken] at drained
  | wait input taken =>
    rw [S.drain_of_wait taken] at drained
    simp only [Prod.mk.injEq, Except.ok.injEq] at drained
    obtain ⟨rfl, rfl⟩ := drained
    cases res : (S.drain (input ++ more)).2 with
    | error | ok => exact Prod.ext rfl (by simp [res, Except.map])
  | item _ _ rest taken ih =>
    rw [S.drain_of_item taken] at drained
    cases res : (S.drain rest).2 with
    | error => simp [res, Except.map] at drained
    | ok tail =>
      simp only [res, Except.map, Prod.mk.injEq, Except.ok.injEq] at drained
      obtain ⟨rfl, rfl⟩ := drained
      have shape : S.drain rest = ((S.drain rest).1, .ok tail) := Prod.ext rfl res
      rw [S.drain_of_item (S.next_extend more taken), ih shape]
      cases (S.drain ((S.drain rest).1 ++ more)).2 <;> simp [Except.map]

theorem drain_append_reject (input more : List β) {err : ε}
    (drained : S.drain input = (left, .error err)) : S.drain (input ++ more) = (left ++ more, .error err) := by
  induction input using S.drain_induction with
  | reject _ _ taken =>
    rw [S.drain_of_reject taken] at drained
    simp only [Prod.mk.injEq, Except.error.injEq] at drained
    obtain ⟨rfl, rfl⟩ := drained
    exact S.drain_of_reject (S.next_reject more taken)
  | wait _ taken => simp [S.drain_of_wait taken] at drained
  | item _ _ rest taken ih =>
    rw [S.drain_of_item taken] at drained
    cases res : (S.drain rest).2 with
    | ok => simp [res, Except.map] at drained
    | error fnd =>
      simp only [res, Except.map, Prod.mk.injEq, Except.error.injEq] at drained
      obtain ⟨rfl, rfl⟩ := drained
      have shape : S.drain rest = ((S.drain rest).1, .error fnd) := Prod.ext rfl res
      rw [S.drain_of_item (S.next_extend more taken), ih shape]
      rfl

theorem drain_split (input more : List β)
    (drained : S.drain (input ++ more) = (left, .ok items)) : ∃ early held late, S.drain input = (held, .ok early) ∧
      S.drain (held ++ more) = (left, .ok late) ∧ items = early ++ late := by
  cases result : S.drain input with
  | mk held res =>
    cases res with
    | error => simp [S.drain_append_reject input more result] at drained
    | ok early =>
      rw [S.drain_append input more result] at drained
      cases tail : (S.drain (held ++ more)).2 with
      | error => simp [tail, Except.map] at drained
      | ok late =>
        simp only [tail, Except.map, Prod.mk.injEq, Except.ok.injEq] at drained
        exact ⟨early, held, late, rfl, Prod.ext drained.1 tail, drained.2.symm⟩

end Splitter

end SplRust.Lib
