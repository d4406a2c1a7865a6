import SplRust.Transport.ClientCalls

/-! An indeterminate token commit marks the client, and a call that finds the mark does not dial
the relay. The mark is read before the relay loop and not in it, so whether a dial can follow the
commit depends on where the calls are when it returns. -/

namespace SplRust.Transport
open SplRust.Lib SplRust.Core List Option

namespace Tokens
variable {ix : Nat} {call moved : RefreshCall}
variable {tokens next : Tokens}

/-- The commit of this refresh was indeterminate, or its task was lost. -/
def Unclear (tokens : Tokens) (refresh : Nat) : Prop :=
  ∃ call, tokens.calls[refresh]? = some call ∧ call.phase.isUnclear = true

/-- The mark is set whenever a commit was indeterminate. -/
def Latched (tokens : Tokens) : Prop := tokens.indeterminate = true → tokens.relayIneligible = true

theorem indeterminate_set (there : tokens.calls[ix]? = some call)
    (set : { tokens with calls := tokens.calls.set ix moved }.indeterminate = true)
    (kept : moved.commit = some .indeterminate → call.commit = some .indeterminate) :
    tokens.indeterminate = true := by
  obtain ⟨fnd, mem, commit⟩ := any_eq_true.mp set
  have commit := of_decide_eq_true commit
  rcases mem_or_eq_of_mem_set mem with mem | rfl
  · exact any_eq_true.mpr ⟨fnd, mem, decide_eq_true commit⟩
  · exact any_eq_true.mpr ⟨call, mem_of_getElem? there, decide_eq_true (kept commit)⟩

theorem Unclear.set {refresh : Nat} (unclear : tokens.Unclear refresh) (there : tokens.calls[ix]? = some call)
    (kept : call.phase.isUnclear = true → moved.phase.isUnclear = true) :
    { tokens with calls := tokens.calls.set ix moved }.Unclear refresh := by
  obtain ⟨fnd, lookup, ended⟩ := unclear
  by_cases same : ix = refresh
  · subst same
    rw [there] at lookup
    cases lookup
    have inside := (List.getElem?_eq_some_iff.mp there).1
    exact ⟨moved, by rw [getElem?_set, if_pos rfl, if_pos inside], kept ended⟩
  · exact ⟨fnd, by rw [getElem?_set, if_neg same]; exact lookup, ended⟩

/-- What a step of a refresh does to the mark. -/
structure StepLatch (tokens next : Tokens) (tokenCall : TokenCall) : Prop where
  unclear : ∀ refresh, tokens.Unclear refresh → next.Unclear refresh
  latched : tokens.Latched → next.Latched
  mark : next.relayIneligible = true → tokens.relayIneligible = true ∨
    ∃ refresh, tokenCall = .commit refresh .indeterminate ∧ next.Unclear refresh

theorem latch_set {tokenCall : TokenCall} (there : tokens.calls[ix]? = some call)
    (calls : next.calls = tokens.calls.set ix moved) (mark : next.relayIneligible = tokens.relayIneligible)
    (kept : moved.commit = some .indeterminate → call.commit = some .indeterminate)
    (unclear : call.phase.isUnclear = true → moved.phase.isUnclear = true) : StepLatch tokens next tokenCall where
  unclear refresh before := by
    obtain ⟨fnd, lookup, ended⟩ := before.set there unclear
    exact ⟨fnd, by rw [calls]; exact lookup, ended⟩
  latched latched indeterminate := by
    rw [Tokens.indeterminate, calls] at indeterminate
    rw [mark]
    exact latched (indeterminate_set there indeterminate kept)
  mark marked := Or.inl (mark ▸ marked)

theorem step_latch {fence : Bool} {tokenCall : TokenCall}
    (hs : tokens.step fence tokenCall = some next) : StepLatch tokens next tokenCall := by
  rcases step_effect hs with ⟨expected, rfl, rfl⟩ | ⟨ix, call, indexed, there, eff⟩
  · refine ⟨?_, ?_, Or.inl⟩
    · rintro _ ⟨fnd, lookup, ended⟩
      have inside := (List.getElem?_eq_some_iff.mp lookup).1
      exact ⟨fnd, by rw [getElem?_append_left inside]; exact lookup, ended⟩
    · intro latched indeterminate
      refine latched ?_
      simpa [Tokens.indeterminate] using indeterminate
  · cases eff with
    | quiet _ _ commit _ _ _ _ unclear => exact latch_set there rfl rfl (fun same => commit ▸ same) unclear
    | starts _ _ publishes | assigns _ publishes =>
      exact latch_set there rfl rfl id (by rw [publishes]; simp [RefreshPhase.isUnclear])
    | rejected _ _ commits | commits _ _ _ commits =>
      exact latch_set there rfl rfl (by simp) (by rw [commits]; simp [RefreshPhase.isUnclear])
    | unclear =>
      cases indexed
      have inside := (List.getElem?_eq_some_iff.mp there).1
      have settled : call.phase.isUnclear = true → ({ call with
          commit := some .indeterminate, phase := .settled .indeterminate } :
            RefreshCall).phase.isUnclear = true := fun _ => rfl
      refine ⟨fun refresh before => ?_, fun _ _ => rfl, fun _ => Or.inr ⟨ix, rfl, ?_⟩⟩
      · obtain ⟨fnd, lookup, ended⟩ := before.set there settled
        exact ⟨fnd, lookup, ended⟩
      · exact ⟨_, by rw [setCall, getElem?_set, if_pos rfl, if_pos inside], rfl⟩

end Tokens

namespace ClientCall

/-- The call dials the relay no more without another check of the mark: it has not yet made the
check, it has ended, or it waits for a refresh it will fail with. -/
def Ended (call : ClientCall) (tokens : Tokens) : Prop :=
  match call.phase with
  | .direct | .checking _ | .returned _ | .dropped => True
  | .proactive refresh => call.kind ≠ .carrier .legacy ∧ tokens.Unclear refresh
  | .reactive _ refresh => tokens.Unclear refresh
  | .eligible | .looping _ | .dialing _ _ => False

/-- The call is not past its check of the mark, except to wait for this refresh, and it is not a
legacy carrier that goes on whatever the refresh comes to. -/
def endsWith (call : ClientCall) (refresh : Nat) : Bool :=
  match call.phase with
  | .direct | .checking _ | .returned _ | .dropped => true
  | .proactive asked => asked = refresh ∧ call.kind ≠ .carrier .legacy
  | .reactive _ asked => asked = refresh
  | .eligible | .looping _ | .dialing _ _ => false

variable {call : ClientCall} {tokens next : Tokens}

theorem Ended.later (ended : call.Ended tokens)
    (unclear : ∀ refresh, tokens.Unclear refresh → next.Unclear refresh) : call.Ended next := by
  unfold Ended at ended ⊢
  split at ended
  · trivial
  · trivial
  · trivial
  · trivial
  · exact ⟨ended.1, unclear _ ended.2⟩
  · exact unclear _ ended
  · exact ended.elim
  · exact ended.elim
  · exact ended.elim

theorem ended_of_endsWith {refresh : Nat} (ends : call.endsWith refresh = true)
    (unclear : tokens.Unclear refresh) : call.Ended tokens := by
  unfold endsWith at ends
  unfold Ended
  split at ends
  · trivial
  · trivial
  · trivial
  · trivial
  · have ends := of_decide_eq_true ends
    exact ⟨ends.2, ends.1 ▸ unclear⟩
  · exact of_decide_eq_true ends ▸ unclear
  · cases ends
  · cases ends
  · cases ends

end ClientCall

namespace ClientCalls
variable {ev : ClientEvent}
variable {config : ClientConfig} {client next : ClientCalls} {ix : Nat} {call : ClientCall}

/-- When a commit returns `Indeterminate`, every call ends with that refresh. -/
def clears (client : ClientCalls) : ClientEvent → Bool
  | .token (.commit refresh .indeterminate) => client.calls.all fun call => call.endsWith refresh
  | _ => true

/-- What a step does to the calls. -/
inductive ClientEffect (config : ClientConfig) (client : ClientCalls) : ClientEvent → ClientCalls → Prop where
  | starts {ev : ClientEvent} (kind : ClientKind) : ClientEffect config client ev
        { client with calls := client.calls ++ [{ kind := kind }] }
  | moves {ev : ClientEvent} (index : Nat) (call : ClientCall) (phase : ClientPhase)
      (there : client.calls[index]? = some call)
      (ended : client.tokens.relayIneligible = true → call.Ended client.tokens →
        { call with phase := phase }.Ended client.tokens) :
      ClientEffect config client ev (client.goTo index call phase)
  | asks {ev : ClientEvent} (index : Nat) (call : ClientCall) (expected : Text)
      (phase : Nat → ClientPhase) (there : client.calls[index]? = some call)
      (active : ¬ call.Ended client.tokens) :
      ClientEffect config client ev (client.startRefresh index call expected phase)
  | dials {ev : ClientEvent} (index : Nat) (call : ClientCall) (loop : RelayLoop)
      (there : client.calls[index]? = some call) (active : ¬ call.Ended client.tokens) :
      ClientEffect config client ev { client.goTo index call (.dialing loop client.tokens.live) with
          dials := client.dials ++ [⟨index, client.tokens.indeterminate⟩] }
  | drops {ev : ClientEvent} (index : Nat) (call : ClientCall) (refresh : Nat)
      (tokens : Tokens) (there : client.calls[index]? = some call)
      (cancelled : client.tokens.step config.fence (.cancel refresh) = some tokens) :
      ClientEffect config client ev { client.goTo index call .dropped with tokens := tokens }
  | token (tokenCall : TokenCall) (tokens : Tokens)
      (stepped : client.tokens.step config.fence tokenCall = some tokens) :
      ClientEffect config client (.token tokenCall) { client with tokens := tokens }

theorem returned_ended (res : Except (Failure ClientError) Unit) (tokens : Tokens) :
    { call with phase := .returned res }.Ended tokens := trivial

theorem goOn_effect (there : client.calls[ix]? = some call)
    (failure : Option (Failure ClientError)) (ph : ClientPhase)
    (fails : client.tokens.relayIneligible = true → call.Ended client.tokens → failure ≠ none) :
    ClientEffect config client ev (client.goOn ix call failure ph) := by
  cases failure with
  | some failure => exact .moves ix call _ there fun _ _ => returned_ended _ _
  | none => exact .moves ix call _ there fun marked ended => absurd rfl (fails marked ended)

/-- A refresh that has returned `Indeterminate` ends the call. -/
theorem proactive_fails {kind : ClientKind} (fenced : kind ≠ .carrier .legacy) :
    kind.proactive .indeterminate ≠ none := by
  cases kind with
  | request => simp [ClientKind.proactive, requestProactive]
  | carrier policy =>
    cases policy with
    | legacy => exact absurd rfl fenced
    | fenced => simp [ClientKind.proactive, carrierProactive]

theorem reactive_fails (kind : ClientKind) : kind.reactive .indeterminate ≠ none := by
  cases kind with
  | request => simp [ClientKind.reactive, requestReactive]
  | carrier policy => cases policy <;> simp [ClientKind.reactive, carrierReactive]

theorem unclear_returned {tokens : Tokens} {refresh : Nat} {asked : RefreshCall}
    {action : RefreshAction} (unclear : tokens.Unclear refresh)
    (there : tokens.calls[refresh]? = some asked) (ret : asked.phase = .returned action) :
    action = .indeterminate := by
  obtain ⟨_, lookup, ended⟩ := unclear
  rw [there] at lookup
  cases lookup
  rw [ret] at ended
  cases action with
  | indeterminate => rfl
  | _ => cases ended

section
variable (there : client.calls[ix]? = some call)
include there

theorem refreshed_effect (hs : client.refreshed ix call = some next) :
    ClientEffect config client ev next := by
  unfold refreshed at hs
  split at hs
  next refresh proactive =>
    obtain ⟨_, lookup, rest⟩ := bind_eq_some_iff.mp hs
    split at rest
    next action ret =>
      cases rest
      refine goOn_effect there _ _ fun _ ended => ?_
      simp only [ClientCall.Ended, proactive] at ended
      rw [unclear_returned ended.2 lookup ret]
      exact proactive_fails ended.1
    · cases rest
  next loop refresh reactive =>
    obtain ⟨_, lookup, rest⟩ := bind_eq_some_iff.mp hs
    split at rest
    next action ret =>
      cases rest
      refine goOn_effect there _ _ fun _ ended => ?_
      simp only [ClientCall.Ended, reactive] at ended
      rw [unclear_returned ended lookup ret]
      exact reactive_fails call.kind
    · cases rest
  · cases hs

theorem drop_effect (hs : client.drop config ix call = some next) : ClientEffect config client ev next := by
  have leaves : ClientEffect config client ev (client.goTo ix call .dropped) :=
    .moves ix call .dropped there fun _ _ => trivial
  have cancels (refresh : Nat) : ClientEffect config client ev { client.goTo ix call .dropped with
        tokens := (client.tokens.step config.fence (.cancel refresh)).getD client.tokens } := by
    cases cancelled : client.tokens.step config.fence (.cancel refresh) with
    | none => exact leaves
    | some tokens => exact .drops ix call refresh tokens there cancelled
  unfold drop at hs
  split at hs
  · cases hs
  · cases hs
  next refresh _ => cases hs; exact cancels refresh
  next refresh _ => cases hs; exact cancels refresh
  · cases hs; exact leaves

theorem callStep_effect (hs : client.callStep config ix call ev = some next) :
    ClientEffect config client ev next := by
  have returns (res : Except (Failure ClientError) Unit) :
      ClientEffect config client ev (client.goTo ix call (.returned res)) :=
    .moves ix call _ there fun _ _ => returned_ended _ _
  revert hs
  fun_cases callStep config client ix call ev with
  | case1 _ ended =>
    rintro ⟨⟩
    cases ended with
    | returns => exact returns _
    | failed =>
      simp only [directEnded, fail]
      split
      · exact returns _
      · split
        · exact returns _
        · exact .moves ix call _ there fun _ _ => trivial
  | case3 _ _ lanErr =>
    rintro ⟨⟩
    rw [eligibility]
    split
    next allowed =>
      refine goOn_effect there _ _ fun marked _ => ?_
      rw [marked] at allowed
      simp at allowed
    · exact returns _
  | case5 _ _ eligible =>
    rintro ⟨⟩
    have active : ¬ call.Ended client.tokens := by simp [ClientCall.Ended, eligible]
    rw [readToken]
    split
    · exact .asks ix call _ _ there active
    · exact .moves ix call _ there fun _ ended => absurd ended active
  | case7 => exact refreshed_effect there
  | case8 _ _ loop looping =>
    rintro ⟨⟩
    have active : ¬ call.Ended client.tokens := by simp [ClientCall.Ended, looping]
    rw [dial]
    split
    · exact returns _
    · exact .dials ix call loop there active
  | case10 _ _ loop token dialing =>
    intro hs
    have active : ¬ call.Ended client.tokens := by simp [ClientCall.Ended, dialing]
    obtain ⟨after, _, rfl⟩ := map_eq_some_iff.mp hs
    cases after with
    | again => exact .moves ix call _ there fun _ ended => absurd ended active
    | refresh => exact .asks ix call _ _ there active
    | returns => exact returns _
  | case12 => exact drop_effect there
  | _ => rintro ⟨⟩

end

theorem step_effect (hs : client.step config ev = some next) : ClientEffect config client ev next := by
  unfold step at hs
  split at hs
  next kind => cases hs; exact .starts kind
  next tokenCall =>
    split at hs
    · cases hs
    · obtain ⟨tokens, acted, rfl⟩ := map_eq_some_iff.mp hs
      exact .token tokenCall tokens acted
  · obtain ⟨_, _, rest⟩ := bind_eq_some_iff.mp hs
    obtain ⟨_, there, acted⟩ := bind_eq_some_iff.mp rest
    exact callStep_effect there acted

/-- Once the client is marked no call dials any more. -/
structure Quiet (client : ClientCalls) : Prop where
  latched : client.tokens.Latched
  ended : client.tokens.relayIneligible = true → ∀ call ∈ client.calls, call.Ended client.tokens
  dials : ∀ dial ∈ client.dials, dial.afterIndeterminate = false

theorem mem_goTo {oid : ClientCall} {ph : ClientPhase} (mem : oid ∈ (client.goTo ix call ph).calls) :
    oid ∈ client.calls ∨ oid = { call with phase := ph } :=
  mem_or_eq_of_mem_set mem

theorem Quiet.step (quiet : client.Quiet) (clear : client.clears ev = true)
    (hs : client.step config ev = some next) : next.Quiet := by
  cases step_effect hs with
  | starts =>
    refine ⟨quiet.latched, fun marked oid mem => ?_, quiet.dials⟩
    rcases mem_append.mp mem with mem | mem
    · exact quiet.ended marked oid mem
    · cases mem_singleton.mp mem
      exact trivial
  | moves _ call _ there ended =>
    refine ⟨quiet.latched, fun marked oid mem => ?_, quiet.dials⟩
    rcases mem_goTo mem with mem | rfl
    · exact quiet.ended marked oid mem
    · exact ended marked (quiet.ended marked call (mem_of_getElem? there))
  | asks _ call _ _ there active =>
    -- The client is not marked, so that this call may go on.
    refine ⟨fun indeterminate => ?_, fun marked => ?_, quiet.dials⟩
    · refine quiet.latched ?_
      simpa [startRefresh, Tokens.indeterminate] using indeterminate
    · exact absurd (quiet.ended marked call (mem_of_getElem? there)) active
  | dials _ call _ there active =>
    have unmarked : client.tokens.relayIneligible ≠ true := fun marked =>
      active (quiet.ended marked call (mem_of_getElem? there))
    refine ⟨quiet.latched, fun marked => absurd marked unmarked, fun dial mem => ?_⟩
    rcases mem_append.mp mem with mem | mem
    · exact quiet.dials dial mem
    · cases mem_singleton.mp mem
      exact Bool.eq_false_iff.mpr fun indeterminate => unmarked (quiet.latched indeterminate)
  | drops _ _ _ _ _ cancelled =>
    have latch := Tokens.step_latch cancelled
    refine ⟨latch.latched quiet.latched, fun marked oid mem => ?_, quiet.dials⟩
    rcases latch.mark marked with marked | ⟨_, ne, _⟩
    · rcases mem_goTo mem with mem | rfl
      · exact (quiet.ended marked oid mem).later latch.unclear
      · exact trivial
    · cases ne
  | token _ _ acted =>
    have latch := Tokens.step_latch acted
    refine ⟨latch.latched quiet.latched, fun marked oid mem => ?_, quiet.dials⟩
    rcases latch.mark marked with marked | ⟨refresh, rfl, unclear⟩
    · exact (quiet.ended marked oid mem).later latch.unclear
    · exact ClientCall.ended_of_endsWith (all_eq_true.mp clear oid mem) unclear

end ClientCalls

/-- No relay dial is started after an indeterminate commit, as long as every such commit finds no
call past its check of the mark but the one that waits for it, and that one is not a legacy
carrier's first refresh. -/
theorem no_dial_after_indeterminate (config : ClientConfig) (token : Text)
    (events : List ClientEvent) (last : ClientCalls) (replies : List Unit)
    (ran : ((clientMachine config).restrict ClientCalls.clears).run
      { tokens := { live := token } } events = some (last, replies)) :
    ∀ dial ∈ last.dials, dial.afterIndeterminate = false := by
  have quiet : last.Quiet := by
    have fresh : ClientCalls.Quiet { tokens := { live := token } } :=
      ⟨fun indeterminate => absurd indeterminate (by simp [Tokens.indeterminate]),
        fun marked => absurd marked (by simp), by simp⟩
    refine Machine.run_keeps _ fresh (fun quiet stepped => ?_) ran
    obtain ⟨clear, stepped⟩ := Machine.step_restrict _ stepped
    obtain ⟨_, acted, same⟩ := map_eq_some_iff.mp stepped
    cases same
    exact quiet.step clear acted
  exact quiet.dials

/-- The steps of the refresh `refresh`, from the lock to an indeterminate commit. -/
def indeterminateCommit (refresh : Nat) : List ClientEvent :=
  [.token (.acquire refresh), .token (.check refresh),
    .token (.refresh refresh (.refreshed ['n'] 0)), .token (.publish refresh),
    .token (.permit refresh .allow), .token (.commit refresh .indeterminate)]

/-- The call `call` finds no direct path and goes to its relay loop or to a first refresh. -/
def toRelay (call : Nat) (due : Bool) : List ClientEvent :=
  [.directEnded call (.failed .noEndpoint), .eligibility call (.ok ()), .readToken call due]

/-- A refused request whose refresh is indeterminate, and a later one. -/
theorem no_dial_after_indeterminate_refused : ∃ last replies, ((clientMachine {}).restrict ClientCalls.clears).run
        { tokens := { live := ['t'] } }
        ([.start (.request .replaySafe)] ++ toRelay 0 false ++
          [.dial 0 (.ok ()), .dialed 0 (.request (.error unauthorized))] ++
          indeterminateCommit 0 ++ [.token (.finish 0), .refreshed 0,
            .start (.carrier .fenced), .directEnded 1 (.failed .noEndpoint)]) =
        some (last, replies) ∧
      last.tokens.indeterminate = true ∧ last.dials.map (·.call) = [0] ∧
      ∀ dial ∈ last.dials, dial.afterIndeterminate = false := by
  refine Machine.exists_run (fun ran => (ran.1.tokens.indeterminate, ran.1.dials.map (·.call)))
    (true, [0]) (by decide +kernel) fun last replies ran values => ?_
  simp only [Prod.mk.injEq] at values
  exact ⟨values.1, values.2, no_dial_after_indeterminate {} ['t'] _ last replies ran⟩

/-- A call that is already in its relay loop dials again after another call's commit was
indeterminate; and `dial_carrier` dials after its own was. -/
theorem dials_after_indeterminate : ((clientMachine {}).run { tokens := { live := ['t'] } }
      ([.start (.request .replaySafe), .start (.request .replaySafe)] ++ toRelay 0 false ++
        [.dial 0 (.ok ()), .dialed 0 (.request (.error (.relay .homeOffline)))] ++
        toRelay 1 true ++ indeterminateCommit 0 ++ [.dial 0 (.ok ())])).map
      (fun ran => ran.1.dials) = some [⟨0, false⟩, ⟨0, true⟩] ∧
    ((clientMachine {}).run { tokens := { live := ['t'] } }
      ([.start (.carrier .legacy)] ++ toRelay 0 true ++ indeterminateCommit 0 ++
        [.token (.finish 0), .refreshed 0, .dial 0 (.ok ())])).map
      (fun ran => ran.1.dials) = some [⟨0, true⟩] := by
  decide +kernel

end SplRust.Transport
