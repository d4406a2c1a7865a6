import SplRust.Transport.Client

/-! `refresh_if_current` of a client with a `TokenPublication` (`spl-transport/src/client.rs`), for
any number of calls at once. A call holds the refresh lock from the moment it gets it; once the
relay has given a new token the lock is moved into a blocking task, which goes on even if the
caller is cancelled. The steps are the places where a call or its task waits or calls out. -/

namespace SplRust.Transport
open SplRust.Lib SplRust.Core

inductive TokenCommit where
  | committed (generation : Nat)
  | unchanged
  | indeterminate
  deriving DecidableEq, Repr

structure TokenCommitContext where
  token : Text
  expiresAt : Int
  previousToken : Text
  deriving DecidableEq, Repr

inductive RefreshOutcome where
  | refreshed (deviceToken : Text) (expiresAt : Int)
  | reconnectNeeded
  | transientError
  deriving DecidableEq, Repr

inductive RefreshPhase where
  /-- For the refresh lock. -/
  | waiting
  /-- For the live token, to compare it. -/
  | checking
  /-- For the relay's answer. -/
  | refreshing
  /-- The blocking task has the lock and has not started. -/
  | spawned (token : Text) (expiresAt : Int)
  /-- In the fence's section, or about to publish without one. -/
  | publishing (token : Text) (expiresAt : Int)
  /-- In the transaction's `commit`. -/
  | committing (token : Text) (expiresAt : Int)
  /-- The commit is durable; for the live token, to replace it. -/
  | assigning (token : Text)
  /-- The task is about to return. -/
  | settled (action : RefreshAction)
  | returned (action : RefreshAction)
  /-- The caller was cancelled before there was a task. -/
  | gone
  deriving DecidableEq, Repr

namespace RefreshPhase

/-- The refresh lock is held. -/
def holds : RefreshPhase → Bool
  | .waiting | .returned _ | .gone => false
  | _ => true

/-- The live token was found to be the expected one, and was not replaced since. -/
def isCurrent : RefreshPhase → Bool
  | .refreshing | .spawned _ _ | .publishing _ _ | .committing _ _ | .assigning _ => true
  | _ => false

def isAssigning : RefreshPhase → Bool
  | .assigning _ => true
  | _ => false

def isCommitting : RefreshPhase → Bool
  | .committing _ _ => true
  | _ => false

end RefreshPhase

structure RefreshCall where
  expected : Text
  phase : RefreshPhase := .waiting
  /-- What its commit returned. -/
  commit : Option TokenCommit := none
  /-- The caller is cancelled, and its task goes on. -/
  abandoned : Bool := false
  deriving DecidableEq, Repr

/-- A commit that was started, with the live token of that moment. -/
structure StartedCommit where
  context : TokenCommitContext
  liveToken : Text
  deriving DecidableEq, Repr

/-- The tokens of a client and its refreshes. -/
structure Tokens where
  live : Text
  relayIneligible : Bool := false
  calls : List RefreshCall := []
  started : List StartedCommit := []
  /-- The tokens of the commits that returned `Committed`. -/
  committed : List Text := []
  /-- The tokens that became the live one, with the refresh that assigned each. -/
  assigned : List (Nat × Text) := []
  deriving DecidableEq, Repr

inductive TokenCall where
  | start (expected : Text)
  | acquire (call : Nat)
  | check (call : Nat)
  | refresh (call : Nat) (outcome : RefreshOutcome)
  /-- The caller is cancelled. -/
  | cancel (call : Nat)
  /-- The blocking task starts. -/
  | publish (call : Nat)
  /-- The fence does not run the publication. -/
  | skip (call : Nat)
  /-- The publication asks the fence, or there is none. -/
  | permit (call : Nat) (permit : RelayPermit)
  | commit (call : Nat) (result : TokenCommit)
  | assign (call : Nat)
  | finish (call : Nat)
  /-- The task is dropped before it starts, or the transaction or the fence panics. -/
  | crash (call : Nat)
  deriving DecidableEq, Repr

namespace Tokens

def locked (tokens : Tokens) : Bool := tokens.calls.any fun call => call.phase.holds

def setCall (tokens : Tokens) (index : Nat) (call : RefreshCall) : Tokens :=
  { tokens with calls := tokens.calls.set index call }

def goTo (tokens : Tokens) (index : Nat) (call : RefreshCall) (phase : RefreshPhase) : Tokens :=
  tokens.setCall index { call with phase := phase }

def checkToken (tokens : Tokens) (index : Nat) (call : RefreshCall) : Tokens :=
  tokens.goTo index call (if tokens.live ≠ call.expected then .returned .redial else .refreshing)

def refreshed (tokens : Tokens) (index : Nat) (call : RefreshCall) : RefreshOutcome → Tokens
  | .refreshed deviceToken expiresAt => tokens.goTo index call (.spawned deviceToken expiresAt)
  | .reconnectNeeded => tokens.goTo index call (.returned .terminal)
  | .transientError => tokens.goTo index call (.returned .transient)

/-- The publication up to `commit`. -/
def permitted (tokens : Tokens) (index : Nat) (call : RefreshCall) (token : Text)
    (expiresAt : Int) (permit : RelayPermit) : Tokens :=
  if permit ≠ .allow then tokens.goTo index call (.settled (.fenceDenied permit))
  else { tokens.goTo index call (.committing token expiresAt) with
    started := tokens.started ++ [⟨⟨token, expiresAt, call.expected⟩, tokens.live⟩] }

/-- The publication from the result of `commit` on. -/
def commitReturned (tokens : Tokens) (index : Nat) (call : RefreshCall) (token : Text)
    (result : TokenCommit) : Tokens :=
  let call := { call with commit := some result }
  match result with
  | .unchanged => tokens.goTo index call (.settled .rejected)
  | .indeterminate => { tokens.goTo index call (.settled .indeterminate) with relayIneligible := true }
  | .committed _ => { tokens.goTo index call (.assigning token) with committed := tokens.committed ++ [token] }

def assignToken (tokens : Tokens) (index : Nat) (call : RefreshCall) (token : Text) : Tokens :=
  { tokens.goTo index call (.settled .redial) with live := token, assigned := tokens.assigned ++ [(index, token)] }

/-- Cancelling a caller drops the lock it holds, unless a task has it. -/
def cancelled (tokens : Tokens) (index : Nat) (call : RefreshCall) : Option Tokens :=
  match call.phase with
  | .waiting | .checking | .refreshing => some (tokens.goTo index call .gone)
  | .returned _ | .gone => none
  | _ => some (tokens.setCall index { call with abandoned := true })

/-- A step of one refresh; `fence` says whether the publication has a fence. -/
def callStep (fence : Bool) (tokens : Tokens) (index : Nat) (call : RefreshCall) : TokenCall → Option Tokens
  | .acquire _ =>
      if call.phase = .waiting ∧ tokens.locked = false then some (tokens.goTo index call .checking)
      else none
  | .check _ => if call.phase = .checking then some (tokens.checkToken index call) else none
  | .refresh _ outcome => if call.phase = .refreshing then some (tokens.refreshed index call outcome) else none
  | .cancel _ => tokens.cancelled index call
  | .publish _ =>
      match call.phase with
      | .spawned token expiresAt => some (tokens.goTo index call (.publishing token expiresAt))
      | _ => none
  | .skip _ =>
      match call.phase with
      | .publishing _ _ => if fence then some (tokens.goTo index call (.settled .terminal)) else none
      | _ => none
  | .permit _ permit =>
      match call.phase with
      | .publishing token expiresAt =>
          if fence ∨ permit = .allow then
            some (tokens.permitted index call token expiresAt permit)
          else none
      | _ => none
  | .commit _ result =>
      match call.phase with
      | .committing token _ => some (tokens.commitReturned index call token result)
      | _ => none
  | .assign _ =>
      match call.phase with
      | .assigning token => some (tokens.assignToken index call token)
      | _ => none
  | .finish _ =>
      match call.phase with
      | .settled action => some (tokens.goTo index call (.returned action))
      | _ => none
  | .crash _ =>
      match call.phase with
      | .spawned _ _ | .publishing _ _ | .committing _ _ | .settled _ =>
          some (tokens.goTo index call (.returned .indeterminate))
      | _ => none
  | .start _ => none

end Tokens

/-- The refresh that a step is about. -/
def TokenCall.index : TokenCall → Option Nat
  | .start _ => none
  | .acquire index | .check index | .refresh index _ | .cancel index | .publish index
  | .skip index | .permit index _ | .commit index _ | .assign index | .finish index
  | .crash index => some index

def Tokens.step (fence : Bool) (tokens : Tokens) (tokenCall : TokenCall) : Option Tokens :=
  match tokenCall with
  | .start expected => some { tokens with calls := tokens.calls ++ [{ expected := expected }] }
  | tokenCall => do
      let index ← tokenCall.index
      let call ← tokens.calls[index]?
      tokens.callStep fence index call tokenCall

def tokenMachine (fence : Bool) : Machine Tokens TokenCall Unit where
  step tokens tokenCall := (tokens.step fence tokenCall).map fun next => (next, ())

/-- The token of the refresh may have become the live one. -/
def RefreshPhase.isDone : RefreshPhase → Bool
  | .settled .redial | .returned .redial | .returned .indeterminate => true
  | _ => false

/-- The commit of the refresh was indeterminate, or its task was lost. -/
def RefreshPhase.isUnclear : RefreshPhase → Bool
  | .settled .indeterminate | .returned .indeterminate => true
  | _ => false

/-- What a step of a refresh does. A quiet one only moves that refresh. -/
inductive RefreshEffect (tokens : Tokens) (index : Nat) (call : RefreshCall) : TokenCall → Tokens → Prop where
  | quiet {tokenCall : TokenCall} (next : RefreshCall) (expected : next.expected = call.expected)
      (commit : next.commit = call.commit)
      (holds : next.phase.holds = true → call.phase.holds = true ∨ tokens.locked = false)
      (current : next.phase.isCurrent = true → call.phase.isCurrent = true ∨ tokens.live = call.expected)
      (assigning : call.phase.isAssigning = true ∨ next.phase.isAssigning = true →
        next.phase = call.phase)
      (done : call.phase.isDone = true → next.phase.isDone = true)
      (unclear : call.phase.isUnclear = true → next.phase.isUnclear = true) :
      RefreshEffect tokens index call tokenCall (tokens.setCall index next)
  | starts {tokenCall : TokenCall} (token : Text) (expiresAt : Int)
      (publishes : call.phase = .publishing token expiresAt) :
      RefreshEffect tokens index call tokenCall { tokens.goTo index call (.committing token expiresAt) with
          started := tokens.started ++ [⟨⟨token, expiresAt, call.expected⟩, tokens.live⟩] }
  | rejected {tokenCall : TokenCall} (token : Text) (expiresAt : Int)
      (commits : call.phase = .committing token expiresAt) :
      RefreshEffect tokens index call tokenCall (tokens.setCall index { call with
          commit := some .unchanged, phase := .settled .rejected })
  | unclear (token : Text) (expiresAt : Int) (other : Nat) (commits : call.phase = .committing token expiresAt) :
      RefreshEffect tokens index call (.commit other .indeterminate) { tokens.setCall index { call with
          commit := some .indeterminate, phase := .settled .indeterminate } with
        relayIneligible := true }
  | commits {tokenCall : TokenCall} (token : Text) (expiresAt : Int) (generation : Nat)
      (commits : call.phase = .committing token expiresAt) :
      RefreshEffect tokens index call tokenCall { tokens.setCall index { call with
          commit := some (.committed generation), phase := .assigning token } with
        committed := tokens.committed ++ [token] }
  | assigns {tokenCall : TokenCall} (token : Text) (assigns : call.phase = .assigning token) :
      RefreshEffect tokens index call tokenCall (tokens.assignToken index call token)

namespace Tokens
variable {tokens : Tokens} {call : RefreshCall} {before after : RefreshPhase} {tokenCall : TokenCall}

/-- A refresh goes on to another phase without a commit or an assignment. -/
def quietTo (before after : RefreshPhase) : Bool :=
  !before.isAssigning && !after.isAssigning && (!before.isDone || after.isDone) &&
    (!before.isUnclear || after.isUnclear)

theorem goTo_effect {ix : Nat} (there : call.phase = before)
    (holds : after.holds = true → before.holds = true ∨ tokens.locked = false)
    (cur : after.isCurrent = true → before.isCurrent = true ∨ tokens.live = call.expected)
    (quiet : quietTo before after = true) :
    RefreshEffect tokens ix call tokenCall (tokens.goTo ix call after) := by
  subst there
  simp only [quietTo, Bool.and_eq_true, Bool.or_eq_true, Bool.not_eq_true'] at quiet
  obtain ⟨⟨⟨early, late⟩, done⟩, unclear⟩ := quiet
  refine .quiet { call with phase := after } rfl rfl holds cur ?_ ?_ ?_
  · rintro (assigns | assigns)
    · rw [early] at assigns
      cases assigns
    · change after.isAssigning = true at assigns
      rw [late] at assigns
      cases assigns
  · exact fun was => done.resolve_left (by simp [was])
  · exact fun was => unclear.resolve_left (by simp [was])

theorem ends_effect {ix : Nat} (there : call.phase = before) (free : after.holds = false)
    (past : after.isCurrent = false) (quiet : quietTo before after = true) :
    RefreshEffect tokens ix call tokenCall (tokens.goTo ix call after) :=
  goTo_effect there (by simp [free]) (by simp [past]) quiet

theorem holds_effect {ix : Nat} (there : call.phase = before) (held : before.holds = true)
    (cur : after.isCurrent = true → before.isCurrent = true) (quiet : quietTo before after = true) :
    RefreshEffect tokens ix call tokenCall (tokens.goTo ix call after) :=
  goTo_effect there (fun _ => Or.inl held) (fun now => Or.inl (cur now)) quiet

theorem callStep_effect {fence : Bool} {next : Tokens} {ix : Nat}
    (hs : tokens.callStep fence ix call tokenCall = some next) :
    RefreshEffect tokens ix call tokenCall next := by
  revert hs
  fun_cases callStep fence tokens ix call tokenCall with
  | case1 _ ready =>
    rintro ⟨⟩
    exact goTo_effect ready.1 (fun _ => Or.inr ready.2) (by simp [RefreshPhase.isCurrent]) rfl
  | case3 _ checks =>
    rintro ⟨⟩
    by_cases same : tokens.live = call.expected
    · rw [checkToken, if_neg (not_not.mpr same)]
      exact goTo_effect checks (fun _ => Or.inl rfl) (fun _ => Or.inr same) rfl
    · rw [checkToken, if_pos same]
      exact ends_effect checks rfl rfl rfl
  | case5 _ res refreshes =>
    rintro ⟨⟩
    cases res with
    | refreshed => exact holds_effect refreshes rfl (fun _ => rfl) rfl
    | reconnectNeeded | transientError => exact ends_effect refreshes rfl rfl rfl
  | case7 =>
    fun_cases cancelled tokens ix call with
    | case1 waits | case2 waits | case3 waits => rintro ⟨⟩; exact ends_effect waits rfl rfl rfl
    | case6 => rintro ⟨⟩; exact .quiet _ rfl rfl Or.inl Or.inl (fun _ => rfl) id id
    | _ => rintro ⟨⟩
  | case8 _ _ _ spawned => rintro ⟨⟩; exact holds_effect spawned rfl (fun _ => rfl) rfl
  | case10 _ _ _ publishes =>
    rintro ⟨⟩
    exact holds_effect publishes rfl (by simp [RefreshPhase.isCurrent]) rfl
  | case13 _ permit token exp publishes =>
    rintro ⟨⟩
    by_cases allowed : permit = .allow
    · rw [permitted, if_neg (not_not.mpr allowed)]
      exact .starts token exp publishes
    · rw [permitted, if_pos allowed]
      exact holds_effect publishes rfl (by simp [RefreshPhase.isCurrent]) rfl
  | case16 _ result token exp commits =>
    rintro ⟨⟩
    cases result with
    | unchanged => exact .rejected token exp commits
    | indeterminate => exact .unclear token exp _ commits
    | committed generation => exact .commits token exp generation commits
  | case18 _ token assigns => rintro ⟨⟩; exact .assigns token assigns
  | case20 _ action settled | case25 _ action settled =>
    rintro ⟨⟩
    refine ends_effect settled rfl rfl ?_
    cases action with
    | _ => rfl
  | case22 _ _ _ waits | case23 _ _ _ waits | case24 _ _ _ waits => rintro ⟨⟩; exact ends_effect waits rfl rfl rfl
  | _ => rintro ⟨⟩

theorem step_effect {fence : Bool} {next : Tokens}
    (hs : tokens.step fence tokenCall = some next) : (∃ expected, tokenCall = .start expected ∧
      next = { tokens with calls := tokens.calls ++ [{ expected := expected }] }) ∨
    ∃ ix call, tokenCall.index = some ix ∧ tokens.calls[ix]? = some call ∧
      RefreshEffect tokens ix call tokenCall next := by
  unfold step at hs
  split at hs
  next expected => exact Or.inl ⟨expected, rfl, (Option.some.inj hs).symm⟩
  · obtain ⟨ix, indexed, rest⟩ := Option.bind_eq_some_iff.mp hs
    obtain ⟨call, there, acted⟩ := Option.bind_eq_some_iff.mp rest
    exact Or.inr ⟨ix, call, indexed, there, callStep_effect acted⟩

end Tokens

end SplRust.Transport
