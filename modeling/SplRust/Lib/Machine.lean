import Mathlib.Data.List.Induction

/-! Deterministic call-and-reply machines. A step that is not defined (`none`)
stands for a call that does not return, so a run exists only if every call of it
returned. Safety results are obtained by `run_history`, which carries a statement
about the state, the calls made and the replies given through a whole run. -/

namespace SplRust.Lib

/-- How a call can fail: with an error it returns, or by a panic. -/
inductive Failure (ε : Type) where
  | error (err : ε)
  | panic
  deriving DecidableEq, Repr

structure Machine (State Call Reply : Type) where
  step : State → Call → Option (State × Reply)

namespace Machine
variable {State Call Reply : Type} (M : Machine State Call Reply)

def run : State → List Call → Option (State × List Reply)
  | state, [] => some (state, [])
  | state, call :: calls => do
      let (mid, reply) ← M.step state call
      let (last, replies) ← run mid calls
      some (last, reply :: replies)

@[simp] theorem run_nil (s : State) : M.run s [] = some (s, []) := rfl

variable {s last : State} {call : Call} {calls : List Call} {replies : List Reply}

theorem run_cons : M.run s (call :: calls) = some (last, replies) ↔ ∃ mid rep rest, M.step s call = some (mid, rep) ∧
        M.run mid calls = some (last, rest) ∧ replies = rep :: rest := by
  simp only [run]
  cases hs : M.step s call with
  | none => simp
  | some pair =>
    obtain ⟨mid, _⟩ := pair
    cases ran : M.run mid calls with
    | none => simp [ran]
    | some pair =>
      obtain ⟨_, _⟩ := pair
      simp [ran, eq_comm]

theorem run_append {more : List Call} : M.run s (calls ++ more) = some (last, replies) ↔ ∃ mid early late, M.run s calls = some (mid, early) ∧
        M.run mid more = some (last, late) ∧ replies = early ++ late := by
  induction calls generalizing s replies with
  | nil => simp [eq_comm]
  | cons call calls ih =>
    simp only [List.cons_append, run_cons, ih]
    constructor
    · rintro ⟨next, rep, _, hs, ⟨mid, early, late, ran, later, rfl⟩, rfl⟩
      exact ⟨mid, rep :: early, late, ⟨next, rep, early, hs, ran, rfl⟩, later, rfl⟩
    · rintro ⟨mid, _, late, ⟨next, rep, rest, hs, ran, rfl⟩, later, rfl⟩
      exact ⟨next, rep, rest ++ late, hs, ⟨mid, rest, late, ran, later, rfl⟩, rfl⟩

theorem run_length (ran : M.run s calls = some (last, replies)) : calls.length = replies.length := by
  induction calls generalizing s replies with
  | nil =>
    cases ran
    rfl
  | cons call calls ih =>
    obtain ⟨_, _, _, -, later, rfl⟩ := M.run_cons.mp ran
    rw [List.length_cons, List.length_cons, ih later]

/-- The call that gave a reply, with the runs before and after it. -/
theorem run_split {early late : List Reply} {rep : Reply}
    (ran : M.run s calls = some (last, early ++ rep :: late)) :
    ∃ pre call after mid next, calls = pre ++ call :: after ∧
      M.run s pre = some (mid, early) ∧ M.step mid call = some (next, rep) ∧
      M.run next after = some (last, late) := by
  induction early generalizing s calls with
  | nil =>
    cases calls with
    | nil => cases ran
    | cons call calls =>
      obtain ⟨next, _, _, hs, later, same⟩ := M.run_cons.mp ran
      cases same
      exact ⟨[], call, calls, s, next, rfl, rfl, hs, later⟩
  | cons fst early ih =>
    cases calls with
    | nil => cases ran
    | cons call calls =>
      obtain ⟨next, _, rest, hs, later, same⟩ := M.run_cons.mp ran
      cases same
      obtain ⟨pre, middle, after, mid, ended, rfl, ran, then_, rest⟩ := ih later
      exact ⟨call :: pre, middle, after, mid, ended, rfl,
        M.run_cons.mpr ⟨next, fst, early, hs, ran, rfl⟩, then_, rest⟩

/-- Invariant rule: what holds at the start and is kept by every step, as a
statement about the state and everything called and replied so far, holds after
every run. -/
theorem run_history {motive : State → List Call → List Reply → Prop} {start : State} (base : motive start [] [])
    (keeps : ∀ {s calls replies call next rep}, motive s calls replies →
      M.step s call = some (next, rep) → motive next (calls ++ [call]) (replies ++ [rep]))
    (ran : M.run start calls = some (last, replies)) : motive last calls replies := by
  -- The last call is peeled off, since the statement grows at its end.
  induction calls using List.reverseRecOn generalizing last replies with
  | nil =>
    simp only [run_nil, Option.some.injEq, Prod.mk.injEq] at ran
    obtain ⟨rfl, rfl⟩ := ran
    exact base
  | append_singleton _ _ ih =>
    obtain ⟨_, _, _, pre, after, rfl⟩ := M.run_append.mp ran
    obtain ⟨_, _, _, hs, done, rfl⟩ := M.run_cons.mp after
    simp only [run_nil, Option.some.injEq, Prod.mk.injEq] at done
    obtain ⟨rfl, rfl⟩ := done
    exact keeps (ih pre) hs

theorem run_keeps {motive : State → Prop} {start : State} (base : motive start)
    (keeps : ∀ {s call next rep}, motive s → M.step s call = some (next, rep) → motive next)
    (ran : M.run start calls = some (last, replies)) : motive last :=
  M.run_history (motive := fun s _ _ => motive s) base keeps ran

/-- A run that ends, read off by evaluation. -/
theorem exists_run {α : Type*} {M : Machine State Call Reply} {start : State} {motive : State → List Reply → Prop}
    (reads : State × List Reply → α) (value : α) (evaluated : (M.run start calls).map reads = some value)
    (holds : ∀ last replies, M.run start calls = some (last, replies) → reads (last, replies) = value →
      motive last replies) : ∃ last replies, M.run start calls = some (last, replies) ∧ motive last replies := by
  obtain ⟨⟨last, replies⟩, ran, same⟩ := Option.map_eq_some_iff.mp evaluated
  exact ⟨last, replies, ran, holds last replies ran same⟩

/-- The machine that makes only the steps that are allowed. -/
def restrict (allowed : State → Call → Bool) : Machine State Call Reply where
  step state call := if allowed state call then M.step state call else none

theorem step_restrict {allowed : State → Call → Bool} {next : State} {rep : Reply}
    (hs : (M.restrict allowed).step s call = some (next, rep)) :
    allowed s call = true ∧ M.step s call = some (next, rep) := by
  simp only [restrict] at hs
  split at hs
  next permitted => exact ⟨permitted, hs⟩
  · cases hs

end Machine

/-- A sequence of labels that a labelled relation allows, from one state to another. -/
inductive Path {State Label : Type} (R : State → Label → State → Prop) : State → List Label → State → Prop where
  | nil {s : State} : Path R s [] s
  | cons {first mid last : State} {label : Label} {labels : List Label} (one : R first label mid)
      (rest : Path R mid labels last) : Path R first (label :: labels) last

namespace Path
variable {State Label : Type} {R : State → Label → State → Prop} {fst mid last : State} {early late : List Label}

theorem snoc {labels : List Label} {label : Label} (path : Path R fst labels mid) (one : R mid label last) : Path R fst (labels ++ [label]) last := by
  induction path with
  | nil => exact .cons one .nil
  | cons step _ ih => exact .cons step (ih one)

theorem append (path : Path R fst early mid) (more : Path R mid late last) : Path R fst (early ++ late) last := by
  induction path with
  | nil => exact more
  | cons step _ ih => exact .cons step (ih more)

theorem split (path : Path R fst (early ++ late) last) :
    ∃ mid, Path R fst early mid ∧ Path R mid late last := by
  induction early generalizing fst with
  | nil => exact ⟨fst, .nil, path⟩
  | cons label early ih =>
    cases path with
    | cons one rest =>
      obtain ⟨mid, pre, after⟩ := ih rest
      exact ⟨mid, .cons one pre, after⟩

end Path

end SplRust.Lib
