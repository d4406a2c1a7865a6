import SplRust.Lib.Numbered
import SplRust.Transport.TokenRefresh

/-! The live token follows the durable one. The refresh lock is held by at most one refresh, from
the comparison of the live token to the end of the blocking task, so the tokens become live in the
order of their commits. -/

namespace SplRust.Transport
open SplRust.Lib SplRust.Core List Option

namespace Tokens
variable {tokens next : Tokens} {index : Nat} {call moved : RefreshCall} {oid : Nat} {ph : RefreshPhase}

theorem setCall_self (there : tokens.calls[index]? = some call) :
    (tokens.calls.set index moved)[index]? = some moved := by
  have inside := (List.getElem?_eq_some_iff.mp there).1
  rw [getElem?_set, if_pos rfl, if_pos inside]

theorem setCall_other (ne : oid ≠ index) :
    (tokens.calls.set index moved)[oid]? = tokens.calls[oid]? := by
  rw [getElem?_set, if_neg fun same => ne same.symm]

theorem unlocked (free : tokens.locked = false) (there : tokens.calls[index]? = some call) :
    call.phase.holds = false := by
  simpa using (any_eq_false.mp free) call (mem_of_getElem? there)

/-- At most one refresh holds the lock. -/
def Single (calls : List RefreshCall) : Prop :=
  ∀ (first second : Nat) (one two : RefreshCall), calls[first]? = some one →
    calls[second]? = some two → one.phase.holds = true → two.phase.holds = true → first = second

theorem Single.set (single : Single tokens.calls) (there : tokens.calls[index]? = some call)
    (holds : moved.phase.holds = true → call.phase.holds = true ∨ tokens.locked = false) :
    Single (tokens.calls.set index moved) := by
  have alone {oid : Nat} {fnd : RefreshCall} (lookup : tokens.calls[oid]? = some fnd)
      (held : fnd.phase.holds = true) (holding : moved.phase.holds = true) : oid = index := by
    rcases holds holding with pre | free
    · exact single _ _ _ _ lookup there held pre
    · rw [unlocked free lookup] at held
      cases held
  intro fst snd one two lookupOne lookupTwo holdsOne holdsTwo
  rcases of_getElem?_set lookupOne with ⟨rfl, rfl⟩ | ⟨-, beforeOne⟩
  · rcases of_getElem?_set lookupTwo with ⟨rfl, rfl⟩ | ⟨-, beforeTwo⟩
    · rfl
    · exact (alone beforeTwo holdsTwo holdsOne).symm
  · rcases of_getElem?_set lookupTwo with ⟨rfl, rfl⟩ | ⟨-, beforeTwo⟩
    · exact alone beforeOne holdsOne holdsTwo
    · exact single _ _ _ _ beforeOne beforeTwo holdsOne holdsTwo

/-- The live tokens so far are the initial one and those assigned. -/
def liveTokens (initial : Text) (tokens : Tokens) : List Text := initial :: tokens.assigned.map Prod.snd

/-- What holds between the durable tokens and the live one. -/
structure Ordered (initial : Text) (tokens : Tokens) : Prop where
  single : Single tokens.calls
  /-- A refresh that has compared the live token still finds it. -/
  current : ∀ {index : Nat} {call : RefreshCall}, tokens.calls[index]? = some call →
    call.phase.isCurrent = true → tokens.live = call.expected
  /-- The live token is the last of its sequence. -/
  live : (tokens.liveTokens initial).getLast? = some tokens.live
  /-- The sequence is one behind while a committed token is about to be assigned. -/
  behind : ∀ {index : Nat} {call : RefreshCall} {token : Text},
    tokens.calls[index]? = some call → call.phase = .assigning token →
    tokens.committed = tokens.assigned.map Prod.snd ++ [token] ∧
      ∃ generation, call.commit = some (.committed generation)
  even : (∀ {index : Nat} {call : RefreshCall}, tokens.calls[index]? = some call →
    call.phase.isAssigning = false) → tokens.committed = tokens.assigned.map Prod.snd
  started : ∀ commit ∈ tokens.started, commit.context.previousToken = commit.liveToken
  /-- Only a refresh whose commit is durable assigns. -/
  assigner : ∀ en ∈ tokens.assigned, ∃ call generation,
    tokens.calls[en.1]? = some call ∧ call.commit = some (.committed generation) ∧ call.phase.isDone = true

theorem start_ordered (initial : Text) : Ordered initial { live := initial } where
  single := by intro fst snd one two lookup; simp at lookup
  current := by intro index call lookup; simp at lookup
  live := rfl
  behind := by intro index call token lookup; simp at lookup
  even _ := rfl
  started := by simp
  assigner := by simp

theorem holds_of_assigning (assigns : ph.isAssigning = true) : ph.holds = true := by
  cases ph with
  | assigning => rfl
  | _ => cases assigns

theorem holds_of_committing (commits : ph.isCommitting = true) : ph.holds = true := by
  cases ph with
  | committing => rfl
  | _ => cases commits

theorem holds_of_current (cur : ph.isCurrent = true) : ph.holds = true := by
  cases ph with
  | refreshing | spawned | publishing | committing | assigning => rfl
  | _ => cases cur

namespace Ordered
variable {initial : Text}

section
variable (ordered : Ordered initial tokens)
include ordered

theorem begins (expected : Text) :
    Ordered initial { tokens with calls := tokens.calls ++ [{ expected := expected }] } := by
  have pre {index : Nat} {call : RefreshCall}
      (lookup : (tokens.calls ++ [({ expected := expected } : RefreshCall)])[index]? = some call) :
      tokens.calls[index]? = some call ∨ call.phase = .waiting := by
    rcases getElem?_concat.mp lookup with pre | ⟨-, rfl⟩
    · exact Or.inl pre
    · exact Or.inr rfl
  have kept {index : Nat} {call : RefreshCall} (lookup : tokens.calls[index]? = some call) :
      (tokens.calls ++ [({ expected := expected } : RefreshCall)])[index]? = some call := by
    rw [getElem?_append_left (List.getElem?_eq_some_iff.mp lookup).1]
    exact lookup
  refine { ordered with single := ?_, current := ?_, behind := ?_, even := ?_, assigner := ?_ }
  · intro fst snd one two lookupOne lookupTwo holdsOne holdsTwo
    rcases pre lookupOne with one | waits
    · rcases pre lookupTwo with two | waits
      · exact ordered.single _ _ _ _ one two holdsOne holdsTwo
      · rw [waits] at holdsTwo
        cases holdsTwo
    · rw [waits] at holdsOne
      cases holdsOne
  · intro index call lookup cur
    rcases pre lookup with fnd | waits
    · exact ordered.current fnd cur
    · rw [waits] at cur
      cases cur
  · intro index call token lookup assigns
    rcases pre lookup with fnd | waits
    · exact ordered.behind fnd assigns
    · rw [waits] at assigns
      cases assigns
  · exact fun none_assigns => ordered.even fun lookup => none_assigns (kept lookup)
  · intro en listed
    obtain ⟨call, generation, lookup, commit, done⟩ := ordered.assigner en listed
    exact ⟨call, generation, kept lookup, commit, done⟩

section
variable (there : tokens.calls[index]? = some call)
include there

theorem quiet (expected : moved.expected = call.expected) (commit : moved.commit = call.commit)
    (holds : moved.phase.holds = true → call.phase.holds = true ∨ tokens.locked = false)
    (cur : moved.phase.isCurrent = true → call.phase.isCurrent = true ∨ tokens.live = call.expected)
    (assigning : call.phase.isAssigning = true ∨ moved.phase.isAssigning = true → moved.phase = call.phase)
    (done : call.phase.isDone = true → moved.phase.isDone = true) : Ordered initial (tokens.setCall index moved) := by
  refine { ordered with
    single := ordered.single.set there holds, current := ?_, behind := ?_, even := ?_
    assigner := ?_ }
  · intro oid fnd lookup now
    rcases of_getElem?_set lookup with ⟨rfl, rfl⟩ | ⟨-, pre⟩
    · rw [expected]
      rcases cur now with earlier | same
      · exact ordered.current there earlier
      · exact same
    · exact ordered.current pre now
  · intro oid fnd token lookup assigns
    rcases of_getElem?_set lookup with ⟨rfl, rfl⟩ | ⟨-, pre⟩
    · rw [commit]
      exact ordered.behind there ((assigning (Or.inr (by rw [assigns]; rfl))).symm.trans assigns)
    · exact ordered.behind pre assigns
  · intro none_assigns
    refine ordered.even fun {oid fnd} lookup => ?_
    by_cases same : oid = index
    · subst same
      obtain rfl := some.inj (lookup.symm.trans there)
      cases was : fnd.phase.isAssigning with
      | false => rfl
      | true =>
        have still := none_assigns (setCall_self there)
        rw [assigning (Or.inl was), was] at still
        cases still
    · exact none_assigns ((setCall_other same).trans lookup)
  · intro en listed
    obtain ⟨fnd, generation, lookup, committed, ended⟩ := ordered.assigner en listed
    by_cases same : en.1 = index
    · rw [same] at lookup
      obtain rfl := some.inj (lookup.symm.trans there)
      exact ⟨moved, generation, by rw [same]; exact setCall_self there, commit.trans committed, done ended⟩
    · exact ⟨fnd, generation, (setCall_other same).trans lookup, committed, ended⟩

theorem alone (holds : call.phase.holds = true) {fnd : RefreshCall}
    (lookup : tokens.calls[oid]? = some fnd) (held : fnd.phase.holds = true) : oid = index ∧ fnd = call := by
  obtain rfl := ordered.single _ _ _ _ lookup there held holds
  exact ⟨rfl, some.inj (lookup.symm.trans there)⟩

theorem unassigned (undone : call.phase.isDone = false) : ∀ en ∈ tokens.assigned, en.1 ≠ index := by
  intro en listed same
  obtain ⟨_, _, lookup, _, ended⟩ := ordered.assigner en listed
  rw [same] at lookup
  obtain rfl := some.inj (lookup.symm.trans there)
  rw [undone] at ended
  cases ended

section
variable (holds : call.phase.holds = true) (calm : call.phase.isAssigning = false)
include holds calm

/-- Nothing is about to be assigned while another refresh has the lock. -/
theorem none_assigns
    {fnd : RefreshCall} (lookup : tokens.calls[oid]? = some fnd) : fnd.phase.isAssigning = false := by
  cases assigns : fnd.phase.isAssigning with
  | false => rfl
  | true =>
    obtain ⟨-, rfl⟩ := ordered.alone there holds lookup (holds_of_assigning assigns)
    exact assigns.symm.trans calm

theorem settles (undone : call.phase.isDone = false) (cur : moved.phase.isCurrent = true →
      call.phase.isCurrent = true ∧ moved.expected = call.expected)
    (after : moved.phase.isAssigning = false) : Ordered initial (tokens.setCall index moved) := by
  refine { ordered with
    single := ordered.single.set there fun _ => Or.inl holds, current := ?_, behind := ?_
    even := fun _ => ordered.even (ordered.none_assigns there holds calm), assigner := ?_ }
  · intro oid fnd lookup now
    rcases of_getElem?_set lookup with ⟨rfl, rfl⟩ | ⟨-, pre⟩
    · rw [(cur now).2]
      exact ordered.current there (cur now).1
    · exact ordered.current pre now
  · intro oid fnd token lookup assigns
    rcases of_getElem?_set lookup with ⟨rfl, rfl⟩ | ⟨-, pre⟩
    · rw [assigns] at after
      cases after
    · exact ordered.behind pre assigns
  · intro en listed
    obtain ⟨fnd, generation, lookup, committed, ended⟩ := ordered.assigner en listed
    exact ⟨fnd, generation,
      (setCall_other (ordered.unassigned there undone en listed)).trans lookup, committed, ended⟩

end

theorem commits {token : Text} {exp : Int} (ph : call.phase = .committing token exp) (generation : Nat) :
    Ordered initial { tokens.setCall index { call with
        commit := some (.committed generation), phase := .assigning token } with
      committed := tokens.committed ++ [token] } := by
  have holds : call.phase.holds = true := by rw [ph]; rfl
  have calm : call.phase.isAssigning = false := by rw [ph]; rfl
  have undone : call.phase.isDone = false := by rw [ph]; rfl
  have even := ordered.even (ordered.none_assigns there holds calm)
  have same : tokens.live = call.expected := ordered.current there (by rw [ph]; rfl)
  refine { ordered with
    single := ordered.single.set there fun _ => Or.inl holds, current := ?_, behind := ?_
    even := ?_, assigner := ?_ }
  · intro oid fnd lookup now
    rcases of_getElem?_set lookup with ⟨rfl, rfl⟩ | ⟨-, pre⟩
    · exact same
    · exact ordered.current pre now
  · intro oid fnd assigned lookup assigns
    rcases of_getElem?_set lookup with ⟨rfl, rfl⟩ | ⟨-, pre⟩
    · cases assigns
      exact ⟨congrArg (· ++ [token]) even, generation, rfl⟩
    · have held := ordered.none_assigns there holds calm pre
      rw [assigns] at held
      cases held
  · intro calm
    have assigns := calm (setCall_self there)
    cases assigns
  · intro en listed
    obtain ⟨fnd, generation, lookup, committed, ended⟩ := ordered.assigner en listed
    exact ⟨fnd, generation,
      (setCall_other (ordered.unassigned there undone en listed)).trans lookup, committed, ended⟩

theorem assigns {token : Text} (ph : call.phase = .assigning token) :
    Ordered initial (tokens.assignToken index call token) := by
  have holds : call.phase.holds = true := by rw [ph]; rfl
  obtain ⟨behind, generation, committed⟩ := ordered.behind there ph
  refine { ordered with
    single := ordered.single.set there fun _ => Or.inl holds, current := ?_, live := ?_
    behind := ?_, even := fun _ => ?_, assigner := ?_ }
  · intro oid fnd lookup now
    rcases of_getElem?_set lookup with ⟨rfl, rfl⟩ | ⟨ne, pre⟩
    · cases now
    · exact absurd (ordered.alone there holds pre (holds_of_current now)).1 ne
  · change (initial :: (tokens.assigned ++ [(index, token)]).map Prod.snd).getLast? = some token
    rw [map_append, ← cons_append]
    exact getLast?_concat
  · intro oid fnd assigned lookup assigns
    rcases of_getElem?_set lookup with ⟨rfl, rfl⟩ | ⟨ne, pre⟩
    · cases assigns
    · exact absurd (ordered.alone there holds pre (by rw [assigns]; rfl)).1 ne
  · change tokens.committed = (tokens.assigned ++ [(index, token)]).map Prod.snd
    rw [behind, map_append]
    rfl
  · intro en listed
    rcases mem_append.mp listed with pre | now
    · obtain ⟨fnd, generation, lookup, durable, ended⟩ := ordered.assigner en pre
      have oid := ordered.unassigned there (by rw [ph]; rfl) en pre
      exact ⟨fnd, generation, (setCall_other oid).trans lookup, durable, ended⟩
    · rw [mem_singleton.mp now]
      exact ⟨_, generation, setCall_self there, committed, rfl⟩

end

theorem step {fence : Bool} {tokenCall : TokenCall}
    (hs : tokens.step fence tokenCall = some next) : Ordered initial next := by
  rcases step_effect hs with ⟨expected, -, rfl⟩ | ⟨index, call, -, there, eff⟩
  · exact ordered.begins expected
  · cases eff with
    | quiet _ expected commit holds cur assigning done =>
      exact ordered.quiet there expected commit holds cur assigning done
    | starts token exp publishes =>
      have same : tokens.live = call.expected := ordered.current there (by rw [publishes]; rfl)
      have moved : Ordered initial (tokens.goTo index call (.committing token exp)) :=
        ordered.settles there (by rw [publishes]; rfl) (by rw [publishes]; rfl)
          (by rw [publishes]; rfl) (fun _ => ⟨by rw [publishes]; rfl, rfl⟩) rfl
      refine { moved with started := fun commit listed => ?_ }
      rcases mem_append.mp listed with pre | now
      · exact ordered.started commit pre
      · rw [mem_singleton.mp now]
        exact same.symm
    | rejected _ _ commits =>
      exact ordered.settles there (by rw [commits]; rfl) (by rw [commits]; rfl)
        (by rw [commits]; rfl) (by simp [RefreshPhase.isCurrent]) rfl
    | unclear _ _ _ commits =>
      have moved : Ordered initial (tokens.setCall index { call with
          commit := some .indeterminate, phase := .settled .indeterminate }) :=
        ordered.settles there (by rw [commits]; rfl) (by rw [commits]; rfl)
          (by rw [commits]; rfl) (by simp [RefreshPhase.isCurrent]) rfl
      exact { moved with }
    | commits _ _ generation commits => exact ordered.commits there commits generation
    | assigns _ assigns => exact ordered.assigns there assigns

end

end Ordered

end Tokens

/-- The refresh did not replace the live token: it was rejected, denied by the fence, its commit
was indeterminate, or there was no new token. -/
def RefreshCall.leavesToken (call : RefreshCall) : Bool :=
  call.commit == some .indeterminate ||
    match call.phase with
    | .settled action | .returned action =>
        match action with
        | .rejected | .fenceDenied _ | .terminal | .transient => true
        | _ => false
    | _ => false

theorem RefreshCall.not_done {call : RefreshCall} (leaves : call.leavesToken = true)
    {generation : Nat} (durable : call.commit = some (.committed generation)) : call.phase.isDone = false := by
  rw [RefreshCall.leavesToken, durable] at leaves
  cases ph : call.phase with
  | settled action =>
    cases action with
    | redial => simp [ph] at leaves
    | _ => rfl
  | returned action =>
    cases action with
    | redial | indeterminate => simp [ph] at leaves
    | _ => rfl
  | _ => rfl

/-- In every interleaving of refreshes the tokens become live in the order of their commits, at most
one behind. Each commit gets the live token as the previous one, commits do not overlap, and a refresh
that ends otherwise leaves the live token alone. -/
theorem live_follows_committed {fence : Bool} {initial : Text} {tokenCalls : List TokenCall}
    {tokens : Tokens} {replies : List Unit}
    (ran : (tokenMachine fence).run { live := initial } tokenCalls = some (tokens, replies)) :
    (tokens.liveTokens initial).getLast? = some tokens.live ∧
      ((∀ call ∈ tokens.calls, call.phase.isAssigning = false) →
        tokens.liveTokens initial = initial :: tokens.committed) ∧
      (∀ call ∈ tokens.calls, ∀ token, call.phase = .assigning token →
        tokens.liveTokens initial ++ [token] = initial :: tokens.committed) ∧
      (∀ commit ∈ tokens.started, commit.context.previousToken = commit.liveToken) ∧
      (∀ (first second : Nat) (one two : RefreshCall), tokens.calls[first]? = some one →
        tokens.calls[second]? = some two → one.phase.isCommitting = true → two.phase.isCommitting = true →
        first = second) ∧
      ∀ (index : Nat) (call : RefreshCall), tokens.calls[index]? = some call → call.leavesToken = true →
        ∀ entry ∈ tokens.assigned, entry.1 ≠ index := by
  have ordered : Tokens.Ordered initial tokens := by
    refine Machine.run_keeps _ (Tokens.start_ordered initial) ?_ ran
    intro state tokenCall next reply ordered stepped
    obtain ⟨_, moved, same⟩ := map_eq_some_iff.mp stepped
    cases same
    exact ordered.step moved
  refine ⟨ordered.live, fun calm => ?_, fun call listed token assigns => ?_, ordered.started, ?_, ?_⟩
  · rw [ordered.even fun lookup => calm _ (mem_of_getElem? lookup)]
    rfl
  · obtain ⟨_, lookup⟩ := getElem?_of_mem listed
    rw [(ordered.behind lookup assigns).1]
    rfl
  · intro first second one two lookupOne lookupTwo commitsOne commitsTwo
    exact ordered.single _ _ _ _ lookupOne lookupTwo (Tokens.holds_of_committing commitsOne)
      (Tokens.holds_of_committing commitsTwo)
  · intro index call lookup leaves entry listed same
    obtain ⟨_, _, there, durable, done⟩ := ordered.assigner entry listed
    rw [same] at there
    obtain rfl := some.inj (there.symm.trans lookup)
    rw [RefreshCall.not_done leaves durable] at done
    cases done

/-- Two refreshes of one token; the caller of the first is cancelled while its task is running. -/
def cancelledRefresh : List TokenCall :=
  [.start ['a'], .start ['a'], .acquire 0, .check 0, .refresh 0 (.refreshed ['b'] 9), .publish 0,
    .cancel 0, .permit 0 .allow, .commit 0 (.committed 1), .assign 0, .finish 0, .acquire 1,
    .check 1]

theorem live_follows_committed_cancelled : ∃ tokens : Tokens, tokens.committed = [['b']] ∧ tokens.live = ['b'] ∧
      tokens.liveTokens ['a'] = [['a'], ['b']] := by
  have evaluated : ((tokenMachine true).run { live := ['a'] } cancelledRefresh).map (fun ran =>
      (ran.1.committed, ran.1.live, ran.1.calls.all fun call => !call.phase.isAssigning)) =
      some ([['b']], ['b'], true) := by decide +kernel
  obtain ⟨⟨tokens, _⟩, ran, values⟩ := map_eq_some_iff.mp evaluated
  obtain ⟨committed, rest⟩ := Prod.mk.inj values
  obtain ⟨live, calm⟩ := Prod.mk.inj rest
  refine ⟨tokens, committed, live, ?_⟩
  have sequence := (live_follows_committed ran).2.1 (by simpa using calm)
  exact sequence.trans (congrArg (['a'] :: ·) committed)

end SplRust.Transport
