import Mathlib.Algebra.GroupWithZero.Nat
import Mathlib.Data.List.Induction

/-! Queues that may merge an entry into the one before it. What comes out of such a queue is
a merging of what went in: cut anywhere, its front is a merging of a front of the entries,
and whatever adds up over entries adds up over the merging. -/

namespace SplRust.Lib

/-- The second list is the first one with some neighbours joined. -/
inductive Merged {α : Type} (join : α → α → Option α) : List α → List α → Prop where
  | nil : Merged join [] []
  | push {source merged : List α} (en : α) (before : Merged join source merged) :
      Merged join (source ++ [en]) (merged ++ [en])
  | join {source merged : List α} {last en joined : α}
      (before : Merged join source (merged ++ [last])) (joins : join last en = some joined) :
      Merged join (source ++ [en]) (merged ++ [joined])

namespace Merged
variable {α : Type} {join : α → α → Option α} {source merged : List α}

theorem source_of_nil (pre : Merged join source []) : source = [] := by
  generalize empty : ([] : List α) = none_left at pre
  cases pre with
  | nil => rfl
  | push | join => simp at empty

theorem front {tot : List α} (whole : Merged join source tot) : ∀ merged back, tot = merged ++ back →
      ∃ early late, source = early ++ late ∧ Merged join early merged := by
  induction whole with
  | nil =>
    intro merged back split
    obtain ⟨rfl, rfl⟩ := List.append_eq_nil_iff.mp split.symm
    exact ⟨[], [], rfl, .nil⟩
  | @push source _ en before ih =>
    intro merged back split
    rcases List.eq_nil_or_concat back with rfl | ⟨back, last, rfl⟩
    · rw [List.append_nil] at split
      subst split
      exact ⟨source ++ [en], [], (List.append_nil _).symm, .push en before⟩
    · rw [List.concat_eq_append, ← List.append_assoc] at split
      obtain ⟨early, late, rfl, front⟩ := ih merged back (List.append_inj' split rfl).1
      exact ⟨early, late ++ [en], List.append_assoc _ _ _, front⟩
  | @join source _ last en _ before joins ih =>
    intro merged back split
    rcases List.eq_nil_or_concat back with rfl | ⟨back, oid, rfl⟩
    · rw [List.append_nil] at split
      subst split
      exact ⟨source ++ [en], [], (List.append_nil _).symm, .join before joins⟩
    · rw [List.concat_eq_append, ← List.append_assoc] at split
      obtain ⟨rfl, -⟩ := List.append_inj' split rfl
      obtain ⟨early, late, rfl, front⟩ := ih merged (back ++ [last]) (List.append_assoc _ _ _)
      exact ⟨early, late ++ [en], List.append_assoc _ _ _, front⟩

theorem flatMap_eq {β : Type} {content : α → List β}
    (additive : ∀ {fst snd joined}, join fst snd = some joined →
      content joined = content fst ++ content snd)
    (pre : Merged join source merged) : source.flatMap content = merged.flatMap content := by
  induction pre with
  | nil => rfl
  | push _ _ ih => rw [List.flatMap_append, List.flatMap_append, ih]
  | join _ joins ih =>
    rw [List.flatMap_append] at ih
    simp only [List.flatMap_append, List.flatMap_singleton, ih, additive joins, List.append_assoc]

theorem sum_eq {weight : α → Nat} (additive : ∀ {fst snd joined}, join fst snd = some joined →
      weight joined = weight fst + weight snd) (pre : Merged join source merged) :
    (source.map weight).sum = (merged.map weight).sum := by
  induction pre with
  | nil => rfl
  | push _ _ ih => rw [List.map_append, List.map_append, List.sum_append, List.sum_append, ih]
  | join _ joins ih =>
    simp only [List.map_append, List.sum_append, List.map_cons, List.map_nil, List.sum_cons,
      List.sum_nil, Nat.add_zero] at ih ⊢
    rw [ih, additive joins, Nat.add_assoc]

theorem foldlM_eq {σ : Type} {next : σ → α → Option σ}
    (absorbs : ∀ {fst snd joined}, join fst snd = some joined →
      ∀ s, (next s fst).bind (fun mid => next mid snd) = next s joined)
    (pre : Merged join source merged) (start : σ) : source.foldlM next start = merged.foldlM next start := by
  induction pre with
  | nil => rfl
  | push _ _ ih => rw [List.foldlM_append, List.foldlM_append, ih]
  | @join _ merged last _ _ _ joins ih =>
    rw [List.foldlM_append, ih, List.foldlM_append, List.foldlM_append]
    cases merged.foldlM next start with
    | none => rfl
    | some mid =>
      have read := absorbs joins mid
      simp only [List.foldlM_cons, List.foldlM_nil, Option.bind_eq_bind, Option.bind_some, Option.pure_def]
      rw [← read]
      cases next mid last with
      | none | some => rfl

end Merged

end SplRust.Lib
