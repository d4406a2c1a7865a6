import Mathlib.Algebra.BigOperators.Group.List.Basic
import Mathlib.Algebra.GroupWithZero.Nat
import Mathlib.Logic.Relation

/-! Credit-based flow control, as units that circulate between a sender and a receiver:
spent on messages, held by the receiver until they are consumed, gathered, and granted
back. No step creates or loses a unit, so with a window of units the receiver always has
room for what arrives and the sender for what it is granted. -/

namespace SplRust.Lib

@[ext] structure CreditLoop where
  credit : Nat
  flying : List Nat
  held : Nat
  returned : Nat
  grants : List Nat
  deriving DecidableEq, Repr

namespace CreditLoop

def total (loop : CreditLoop) : Nat := loop.credit + loop.flying.sum + loop.held + loop.returned + loop.grants.sum

inductive Step (loop : CreditLoop) : CreditLoop → Prop where
  | send (units : Nat) (paid : units ≤ loop.credit) :
      Step loop { loop with credit := loop.credit - units, flying := loop.flying ++ [units] }
  | arrive {units : Nat} {rest : List Nat} (first : loop.flying = units :: rest) :
      Step loop { loop with flying := rest, held := loop.held + units }
  | consume (units : Nat) (owed : units ≤ loop.held) :
      Step loop { loop with held := loop.held - units, returned := loop.returned + units }
  | grant (units : Nat) (gathered : units ≤ loop.returned) :
      Step loop { loop with returned := loop.returned - units, grants := loop.grants ++ [units] }
  | redeem {units : Nat} {rest : List Nat} (first : loop.grants = units :: rest) :
      Step loop { loop with credit := loop.credit + units, grants := rest }

abbrev Run : CreditLoop → CreditLoop → Prop := Relation.ReflTransGen Step

variable {loop : CreditLoop}

theorem Step.total_eq {next : CreditLoop} (step : Step loop next) : next.total = loop.total := by
  cases step with
  | send | grant =>
    simp only [total, List.sum_append, List.sum_cons, List.sum_nil]
    omega
  | arrive fst | redeem fst =>
    simp only [total, fst, List.sum_cons]
    omega
  | consume =>
    simp only [total]
    omega

theorem Run.total_eq {last : CreditLoop} (run : Run loop last) : last.total = loop.total := by
  induction run with
  | refl => rfl
  | tail _ step same => exact step.total_eq.trans same

/-- Units are consumed, and some of what is gathered by then may be granted at once. -/
theorem Run.consume {units left : Nat} (loop : CreditLoop) (granted : Option Nat)
    (owed : units ≤ loop.held) (moved : left + granted.getD 0 = loop.returned + units) : Run loop { loop with
      held := loop.held - units, returned := left, grants := loop.grants ++ granted.toList } := by
  have step : Step loop _ := .consume units owed
  cases granted with
  | none =>
    simp only [Option.getD_none, Nat.add_zero] at moved
    rw [moved, Option.toList_none, List.append_nil]
    exact .single step
  | some grant =>
    simp only [Option.getD_some] at moved
    have next : Step { loop with held := loop.held - units, returned := loop.returned + units } _ :=
      .grant grant (show grant ≤ loop.returned + units by omega)
    rw [show left = loop.returned + units - grant by omega]
    exact (Relation.ReflTransGen.single step).tail next

variable {early late : List Nat}

theorem Run.arrive (loop : CreditLoop) (split : loop.flying = early ++ late) :
    Run loop { loop with flying := late, held := loop.held + early.sum } := by
  induction early generalizing loop with
  | nil =>
    have same : { loop with flying := late, held := loop.held + ([] : List Nat).sum } = loop :=
      CreditLoop.ext rfl split.symm rfl rfl rfl
    rw [same]
  | cons units early ih =>
    have step : Step loop _ := .arrive split
    have rest := ih { loop with flying := early ++ late, held := loop.held + units } rfl
    simp only [List.sum_cons, ← Nat.add_assoc] at rest ⊢
    exact rest.head step

theorem Run.redeem (loop : CreditLoop) (split : loop.grants = early ++ late) :
    Run loop { loop with credit := loop.credit + early.sum, grants := late } := by
  induction early generalizing loop with
  | nil =>
    have same : { loop with credit := loop.credit + ([] : List Nat).sum, grants := late } = loop :=
      CreditLoop.ext rfl rfl rfl rfl split.symm
    rw [same]
  | cons units early ih =>
    have step : Step loop _ := .redeem split
    have rest := ih { loop with credit := loop.credit + units, grants := early ++ late } rfl
    simp only [List.sum_cons, ← Nat.add_assoc] at rest ⊢
    exact rest.head step

theorem arrive_fits {window : Nat} (full : loop.total = window) (split : loop.flying = early ++ late) :
    loop.held + loop.returned + early.sum ≤ window := by
  rw [total, split, List.sum_append] at full
  omega

theorem redeem_fits {window : Nat}
    (full : loop.total = window) (split : loop.grants = early ++ late) : loop.credit + early.sum ≤ window := by
  rw [total, split, List.sum_append] at full
  omega

end CreditLoop

end SplRust.Lib
