import SplRust.Transport.MuxCarrier

/-! Where the input of a request is: with the call of `open_stream`, in the queue of one
carrier, in the channel that gives it back, or taken by a coordinator. Every step of the mux
moves inputs or loses them, and what it does to them is said here once. -/

namespace SplRust.Transport
open SplRust.Lib List Option

/-- The input that a call of `open_stream` owns. -/
def OpenPhase.input : OpenPhase → Option OpenStreamInput
  | .wantSlot input | .checking input | .looking input | .rechecking input
  | .starting input => some input
  | .marking input _ | .dialing input _ | .sending input _ | .wantClear input _
  | .clearing input _ | .clearMarking input _ => some input
  | .failing input _ _ => some input
  | .waiting _ | .returning _ | .done _ | .cancelled => none

/-- How many values a one-shot channel holds. -/
def Oneshot.count {α : Type} : Oneshot α → Nat
  | .sent _ => 1
  | _ => 0

/-- How many inputs a call has in its hands or in its return channel. -/
def Request.inputs (entry : Request) : Nat := entry.phase.input.toList.length + entry.returned.count

/-- What a carrier has of the opens: its queue and the one it is answering. -/
structure OpenQueue where
  commands : List OpenCommand := []
  answering : Option Try := none

def CarrierHandle.queue (handle : CarrierHandle) : OpenQueue := ⟨handle.commands, handle.answering⟩

def MuxCarrier.queues (mux : MuxCarrier) : List OpenQueue := mux.carriers.map CarrierHandle.queue

def OpenCommand.holds (request : Nat) (command : OpenCommand) : Bool :=
  command.pending.input.any fun input => input.request = request

def OpenQueue.inputs (request : Nat) (queue : OpenQueue) : Nat := queue.commands.countP (OpenCommand.holds request)

def MuxReply.claims (request : Nat) : MuxReply → Bool
  | .claimed _ owner => owner = request
  | _ => false

def answerTry (requests : List Request) (owner : Try)
    (answer : Oneshot (Except TransportError StreamRx)) (returned : Oneshot OpenStreamInput) :
    List Request :=
  match requests[owner.request]? with
  | some entry =>
      if entry.attempt = owner.attempt then
        requests.set owner.request { entry with reply := answer, returned := returned }
      else requests
  | none => requests

/-- What a call is told when it moves on. -/
inductive Told (request : Nat) (en : Request) : MuxReply → Prop where
  | quiet : Told request en .quiet
  | dials (input : OpenStreamInput) (held : en.phase.input = some input) :
      Told request en (.dials request en.attempt)
  | fails (error : TransportError) : Told request en (.returned request (.error error))
  | opens (carrier : Nat) (response : StreamRx) (waiting : en.phase = .waiting carrier)
      (answered : en.reply = .sent (.ok response)) :
      Told request en (.returned request (.ok ⟨⟨request, carrier, response.streamId⟩, response⟩))

/-- A call moves on without waiting for a carrier; it keeps its input, takes the returned
one or loses it. -/
structure Proceeds (en changed : Request) : Prop where
  fewer : changed.inputs ≤ en.inputs
  held : ∀ input, changed.phase.input = some input → en.phase.input = some input ∨ en.returned = .sent input
  returned : ∀ input, changed.returned = .sent input → en.returned = .sent input
  idle : ∀ carrier, changed.phase ≠ .waiting carrier

variable {input : OpenStreamInput} {ph : OpenPhase}

theorem Proceeds.keeping {en : Request}
    (att : Nat) (held : en.phase.input = some input) (next : ph.input = some input) :
    Proceeds en { en with attempt := att, phase := ph } where
  fewer := by simp [Request.inputs, held, next]
  held oid same := by
    rw [next] at same
    exact Or.inl (held.trans same)
  returned _ same := same
  idle carrier waiting := by
    obtain rfl : ph = .waiting carrier := waiting
    cases next

theorem Proceeds.losing {en : Request} (next : ph.input = none)
    (idle : ∀ carrier, ph ≠ .waiting carrier) : Proceeds en { en with phase := ph } where
  fewer := by simp [Request.inputs, next]
  held oid same := by
    rw [next] at same
    cases same
  returned _ same := same
  idle := idle

namespace MuxCarrier
variable {mux before next : MuxCarrier} {carrier req : Nat} {hdl : CarrierHandle}
  {en : Request} {reply : MuxReply}

/-- What a step does to the requests and to the queues of the carriers. -/
inductive InputEffect (mux : MuxCarrier) : MuxCarrier → MuxReply → Prop where
  | kept {next : MuxCarrier} (reqs : next.requests = mux.requests)
      (queues : next.queues = mux.queues) : InputEffect mux next .quiet
  | begun {next : MuxCarrier} (input : OpenStreamInput) (own : input.request = mux.requests.length)
      (reqs : next.requests = mux.requests ++ [{ phase := .wantSlot input }])
      (queues : next.queues = mux.queues) : InputEffect mux next .quiet
  | moved {next : MuxCarrier} {reply : MuxReply} (request : Nat) (en changed : Request)
      (hp : mux.requests[request]? = some en)
      (reqs : next.requests = mux.requests.set request changed)
      (queues : next.queues = mux.queues ∨ next.queues = mux.queues ++ [({} : OpenQueue)])
      (proceeds : Proceeds en changed) (told : Told request en reply) :
      InputEffect mux next reply
  | sent {next : MuxCarrier} (request : Nat) (en : Request) (input : OpenStreamInput)
      (carrier : Nat) (queue : OpenQueue) (hp : mux.requests[request]? = some en)
      (phase : en.phase = .sending input carrier) (there : mux.queues[carrier]? = some queue)
      (reqs : next.requests = mux.requests.set request
        { en with phase := .waiting carrier, reply := .pending, returned := .pending })
      (queues : next.queues = mux.queues.set carrier { queue with
        commands := queue.commands ++ [⟨.new input, ⟨request, en.attempt⟩⟩] }) :
      InputEffect mux next .quiet
  | claimed {next : MuxCarrier} (carrier : Nat) (queue : OpenQueue) (command : OpenCommand)
      (rest : List OpenCommand) (input : OpenStreamInput)
      (there : mux.queues[carrier]? = some queue) (first : queue.commands = command :: rest)
      (held : command.pending.input = some input)
      (reqs : next.requests = answerTry mux.requests command.reply .pending .closed)
      (queues : next.queues = mux.queues.set carrier ⟨rest, some command.reply⟩) :
      InputEffect mux next (.claimed carrier input.request)
  | refused {next : MuxCarrier} (carrier : Nat) (queue : OpenQueue) (command : OpenCommand)
      (rest : List OpenCommand) (there : mux.queues[carrier]? = some queue)
      (first : queue.commands = command :: rest) (error : TransportError)
      (reqs : next.requests = answerTry mux.requests command.reply (.sent (.error error)) .closed)
      (queues : next.queues = mux.queues.set carrier { queue with commands := rest }) :
      InputEffect mux next .quiet
  | answered {next : MuxCarrier} (carrier : Nat) (queue : OpenQueue) (owner : Try)
      (there : mux.queues[carrier]? = some queue) (answering : queue.answering = some owner)
      (answer : Oneshot (Except TransportError StreamRx))
      (own : ∀ response, answer = .sent (.ok response) → response.carrier = carrier)
      (reqs : next.requests = answerTry mux.requests owner answer .closed)
      (queues : next.queues = mux.queues.set carrier { queue with answering := none }) :
      InputEffect mux next .quiet
  | dropped {next : MuxCarrier} (carrier : Nat) (queue : OpenQueue) (there : mux.queues[carrier]? = some queue)
      (reqs : next.requests = queue.commands.foldl (fun reqs command =>
        answerTry reqs command.reply .closed command.pending.drop) mux.requests)
      (queues : next.queues = mux.queues.set carrier { queue with commands := [] }) :
      InputEffect mux next .quiet

theorem queues_setCarrier (mux : MuxCarrier) (carrier : Nat) (hdl : CarrierHandle) :
    (mux.setCarrier carrier hdl).queues = mux.queues.set carrier hdl.queue :=
  map_set

theorem queues_present (hp : mux.carriers[carrier]? = some hdl) : mux.queues[carrier]? = some hdl.queue := by
  simp [queues, hp]

theorem queues_setCarrier_same {rewritten : CarrierHandle}
    (hp : mux.carriers[carrier]? = some hdl) (same : rewritten.queue = hdl.queue) :
    (mux.setCarrier carrier rewritten).queues = mux.queues := by
  obtain ⟨_, fnd⟩ := List.getElem?_eq_some_iff.mp (queues_present hp)
  rw [queues_setCarrier, same, ← fnd, set_getElem_self]

theorem reply_requests (mux : MuxCarrier) (owner : Try)
    (answer : Oneshot (Except TransportError StreamRx)) (returned : Oneshot OpenStreamInput) :
    (mux.reply owner answer returned).requests = answerTry mux.requests owner answer returned := by
  unfold reply answerTry
  cases mux.requests[owner.request]? with
  | none => rfl
  | some en =>
    simp only
    split
    · rfl
    · rfl

theorem reply_queues (mux : MuxCarrier) (owner : Try)
    (answer : Oneshot (Except TransportError StreamRx)) (returned : Oneshot OpenStreamInput) :
    (mux.reply owner answer returned).queues = mux.queues := by
  unfold reply
  split
  · split
    · rfl
    · rfl
  · rfl

section
variable (hp : mux.requests[req]? = some en)
include hp

section
variable (reqs : before.requests = mux.requests) (queues : before.queues = mux.queues)
include reqs queues

theorem finish_moved
    {res : Except TransportError OpenedStream} (told : Told req en (.returned req res)) :
    InputEffect mux (before.finish req en res).1 (before.finish req en res).2 :=
  .moved req en { en with phase := .done res } hp
    (congrArg (List.set · req _) reqs) (Or.inl queues)
    (.losing rfl (by intro carrier ph; cases ph)) told

theorem setPhase_moved (held : en.phase.input = some input)
    (next : ph.input = some input) (told : Told req en reply) :
    InputEffect mux (before.setPhase req en ph) reply :=
  .moved req en { en with phase := ph } hp (congrArg (List.set · req _) reqs) (Or.inl queues)
    (.keeping en.attempt held next) told

theorem retry_moved (held : en.phase.input = some input) : InputEffect mux (before.retry req en input).1
      (before.retry req en input).2 := by
  unfold retry
  split
  · exact finish_moved hp reqs queues (.fails _)
  · exact .moved req en { en with attempt := 1, phase := .wantSlot input } hp
      (congrArg (List.set · req _) reqs) (Or.inl queues) (.keeping 1 held rfl) .quiet

end

theorem advance_moved (advanced : mux.advance req en = some (next, reply)) : InputEffect mux next reply := by
  revert advanced
  fun_cases advance mux req en with
  | case1 _ ph | case4 _ ph | case5 _ ph | case6 _ ph | case7 _ ph | case8 _ _ ph
  | case10 _ ph | case26 _ _ ph | case28 _ _ ph =>
    rintro ⟨⟩
    exact setPhase_moved hp rfl rfl (by rw [ph]; rfl) rfl .quiet
  | case3 | case9 | case13 | case18 | case21 | case25 =>
    intro advanced
    obtain ⟨rfl, rfl⟩ := Prod.mk.inj (some.inj advanced)
    exact finish_moved hp (by rfl) (by rfl) (.fails _)
  | case11 input ph =>
    rintro ⟨⟩
    have held : en.phase.input = some input := by rw [ph]; rfl
    exact setPhase_moved hp rfl rfl held rfl (.dials input held)
  | case15 input carrier ph hdl there =>
    rintro ⟨⟩
    exact .sent req en input carrier hdl.queue hp ph
      (queues_present there) rfl (queues_setCarrier _ _ _)
  | case17 _ _ ph _ _ _ _ same =>
    cases same
    rintro ⟨⟩
    exact setPhase_moved hp rfl rfl (by rw [ph]; rfl) rfl .quiet
  | case20 carrier ph response answered =>
    intro advanced
    obtain ⟨rfl, rfl⟩ := Prod.mk.inj (some.inj advanced)
    exact finish_moved hp rfl rfl (.opens carrier response ph answered)
  | case22 carrier =>
    rintro ⟨⟩
    exact .moved req en { en with phase := .returning carrier } hp rfl
      (Or.inl rfl) (.losing rfl (by intro carrier ph; cases ph)) .quiet
  | case24 carrier ph input returned =>
    rintro ⟨⟩
    refine .moved req en { en with phase := .wantClear input carrier, returned := .closed }
      hp rfl (Or.inl rfl) ⟨?_, ?_, ?_, ?_⟩ .quiet
    · simp [Request.inputs, ph, returned, OpenPhase.input, Oneshot.count]
    · rintro oid ⟨⟩
      exact Or.inr returned
    · rintro oid ⟨⟩
    · rintro oid ⟨⟩
  | case29 _ _ ph | case30 _ _ ph =>
    intro advanced
    obtain ⟨rfl, rfl⟩ := Prod.mk.inj (some.inj advanced)
    exact retry_moved hp rfl rfl (by rw [ph]; rfl)
  | _ => rintro ⟨⟩

theorem publish_moved (held : en.phase.input = some input) :
    InputEffect mux (mux.publish req en input).1 (mux.publish req en input).2 := by
  unfold publish
  split
  · exact finish_moved hp (by rfl) (by rfl) (.fails _)
  · refine .moved req en { en with phase := .sending input mux.carriers.length }
      hp rfl (Or.inr ?_) (.keeping en.attempt held rfl) .quiet
    exact map_append

end

section
variable (hp : mux.carriers[carrier]? = some hdl)
include hp

theorem claim_moved (claimed : mux.claim carrier hdl = some (next, reply)) : InputEffect mux next reply := by
  revert claimed
  fun_cases claim mux carrier hdl with
  | case2 _ cmd rest first =>
    rintro ⟨⟩
    refine .refused carrier hdl.queue cmd rest (queues_present hp) first _ (reply_requests _ _ _ _) ?_
    rw [reply_queues, queues_setCarrier]
    rfl
  | case3 _ cmd rest first input held =>
    rintro ⟨⟩
    refine .claimed carrier hdl.queue cmd rest input (queues_present hp) first
      held (reply_requests _ _ _ _) ?_
    rw [reply_queues, queues_setCarrier]
    rfl
  | _ => rintro ⟨⟩

theorem answer_moved {res : Except TransportError Unit}
    (answered : mux.answer carrier hdl res = some (next, reply)) : InputEffect mux next reply := by
  unfold answer at answered
  split at answered
  · cases answered
  next owner answering =>
    cases answered
    refine .answered carrier hdl.queue owner (queues_present hp) answering _ ?_ (reply_requests _ _ _ _) ?_
    · intro response sent
      cases res with
      | error => cases sent
      | ok =>
        cases sent
        rfl
    · rw [reply_queues, queues_setCarrier]
      rfl

theorem stopCoordinator_moved (stopped : mux.stopCoordinator carrier hdl = some (next, reply)) :
    InputEffect mux next reply := by
  revert stopped
  fun_cases stopCoordinator mux carrier hdl with
  | case1 _ _ idle =>
    intro done
    obtain ⟨rfl, rfl⟩ := Prod.mk.inj (some.inj done)
    refine .kept rfl (queues_setCarrier_same hp ?_)
    simp only [CarrierHandle.queue, idle]
  | case2 _ _ owner answering =>
    rintro ⟨⟩
    refine .answered carrier hdl.queue owner (queues_present hp) answering .closed
      (by intro response sent; cases sent) (reply_requests _ _ _ _) ?_
    rw [reply_queues, queues_setCarrier]
    rfl
  | case3 => rintro ⟨⟩

end

theorem replies_requests (cmds : List OpenCommand) (mux : MuxCarrier) :
    (cmds.foldl (fun mux cmd => mux.reply cmd.reply .closed cmd.pending.drop)
      mux).requests = cmds.foldl (fun reqs cmd =>
        answerTry reqs cmd.reply .closed cmd.pending.drop) mux.requests := by
  induction cmds generalizing mux with
  | nil => rfl
  | cons cmd cmds ih => rw [foldl_cons, foldl_cons, ih, reply_requests]

theorem replies_queues (cmds : List OpenCommand) (mux : MuxCarrier) :
    (cmds.foldl (fun mux cmd => mux.reply cmd.reply .closed cmd.pending.drop) mux).queues = mux.queues := by
  induction cmds generalizing mux with
  | nil => rfl
  | cons cmd cmds ih => rw [foldl_cons, ih, reply_queues]

theorem dropCommands_moved (hp : mux.carriers[carrier]? = some hdl)
    (dropped : mux.dropCommands carrier hdl = some (next, reply)) : InputEffect mux next reply := by
  unfold dropCommands at dropped
  split at dropped
  · cases dropped
    refine .dropped carrier hdl.queue (queues_present hp) (replies_requests _ _) ?_
    rw [replies_queues, queues_setCarrier]
    rfl
  · cases dropped

theorem cancel_moved (hp : mux.requests[req]? = some en)
    (cancelled : mux.cancel req en = some (next, reply)) : InputEffect mux next reply := by
  have lost : ∀ pre : MuxCarrier, pre.requests = mux.requests → pre.queues = mux.queues →
      InputEffect mux (pre.setPhase req en .cancelled) .quiet := by
    intro pre reqs queues
    exact .moved req en { en with phase := .cancelled } hp
      (congrArg (List.set · req _) reqs) (Or.inl queues)
      (.losing rfl (by intro carrier ph; cases ph)) .quiet
  unfold cancel at cancelled
  split at cancelled
  all_goals first
    | (cases cancelled; exact lost _ rfl rfl)
    | cases cancelled

theorem advanceShutdown_moved {ix : Nat} {ph : ShutdownPhase}
    (advanced : mux.advanceShutdown ix ph = some (next, reply)) : InputEffect mux next reply := by
  revert advanced
  fun_cases advanceShutdown mux ix ph with
  | case1 | case2 | case6 =>
    rintro ⟨⟩
    exact .kept rfl rfl
  | case5 _ _ fnd =>
    rintro ⟨⟩
    exact .kept rfl (queues_setCarrier_same fnd rfl)
  | _ => rintro ⟨⟩

theorem step_inputEffect {call : MuxCall} (hs : mux.step call = some (next, reply)) :
    InputEffect mux next reply := by
  cases call with
  | openStream method target headers len =>
    cases hs
    exact .begun ⟨mux.requests.length, method, target, headers, len⟩ rfl rfl rfl
  | advance =>
    obtain ⟨_, hp, advanced⟩ := bind_eq_some_iff.mp hs
    exact advance_moved hp advanced
  | dialFailed =>
    obtain ⟨_, hp, failed⟩ := bind_eq_some_iff.mp hs
    split at failed
    next input number ph =>
      cases failed
      exact setPhase_moved hp rfl rfl (by rw [ph]; rfl) rfl .quiet
    · cases failed
  | dialed =>
    obtain ⟨_, hp, dialed⟩ := bind_eq_some_iff.mp hs
    split at dialed
    next input number ph =>
      obtain ⟨rfl, rfl⟩ := Prod.mk.inj (some.inj dialed)
      exact publish_moved hp (by rw [ph]; rfl)
    · cases dialed
  | cancel =>
    obtain ⟨_, hp, cancelled⟩ := bind_eq_some_iff.mp hs
    exact cancel_moved hp cancelled
  | claim =>
    obtain ⟨_, hp, claimed⟩ := bind_eq_some_iff.mp hs
    exact claim_moved hp claimed
  | answer =>
    obtain ⟨_, hp, answered⟩ := bind_eq_some_iff.mp hs
    exact answer_moved hp answered
  | stopCoordinator =>
    obtain ⟨_, hp, stopped⟩ := bind_eq_some_iff.mp hs
    exact stopCoordinator_moved hp stopped
  | dropCommands =>
    obtain ⟨_, hp, dropped⟩ := bind_eq_some_iff.mp hs
    exact dropCommands_moved hp dropped
  | stopWriter =>
    obtain ⟨_, hp, stopped⟩ := bind_eq_some_iff.mp hs
    cases stopped
    exact .kept rfl (queues_setCarrier_same hp rfl)
  | storeDead _ side =>
    obtain ⟨_, hp, stored⟩ := bind_eq_some_iff.mp hs
    unfold storeDead at stored
    split at stored
    · cases stored
      exact .kept rfl (queues_setCarrier_same hp (by cases side <;> rfl))
    · cases stored
  | markDead _ side =>
    obtain ⟨_, hp, marked⟩ := bind_eq_some_iff.mp hs
    unfold markDead at marked
    split at marked
    · cases marked
      exact .kept rfl (queues_setCarrier_same hp (by cases side <;> rfl))
    · cases marked
  | advanceShutdown =>
    obtain ⟨_, _, advanced⟩ := bind_eq_some_iff.mp hs
    exact advanceShutdown_moved advanced
  | _ =>
    cases hs
    exact .kept rfl rfl

end MuxCarrier

end SplRust.Transport
