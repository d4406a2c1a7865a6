import SplRust.Lib.Numbered
import SplRust.Transport.OpenMoves
import Mathlib.Algebra.Order.BigOperators.Group.List
import Mathlib.Algebra.Order.Ring.Nat

/-! A request is put on at most one carrier. The copies of its input, wherever they are, and
the claims made of it add up to one at most, so a coordinator that claims it is the only one
and a call that still has it has never been claimed. -/

namespace SplRust.Transport
open SplRust.Lib List Option OpenQueue
variable {replies : List MuxReply} {request car : Nat} {en : Request}
  {reqs : List Request} {q : OpenQueue} {queues : List OpenQueue} {rep : MuxReply}
  {cmd : OpenCommand} {input : OpenStreamInput}

theorem sum_map_set {α : Type} (weight : α → Nat) (new : α) {ens : List α} {ix : Nat}
    {old : α} (there : ens[ix]? = some old) : ((ens.set ix new).map weight).sum + weight old =
      (ens.map weight).sum + weight new := by
  induction ens generalizing ix with
  | nil => cases there
  | cons fst ens ih =>
    cases ix with
    | zero =>
      obtain rfl : fst = old := some.inj there
      simp only [set_cons_zero, map_cons, sum_cons]
      omega
    | succ ix =>
      have tail := @ih ix there
      simp only [set_cons_succ, map_cons, sum_cons]
      omega

/-- The copies of a request's input and the claims made of it. -/
def copies (requests : List Request) (queues : List OpenQueue) (replies : List MuxReply) (request : Nat) : Nat :=
  requests[request]?.elim 0 Request.inputs + (queues.map (OpenQueue.inputs request)).sum +
    replies.countP (MuxReply.claims request)

def Bound (reqs : List Request) (carrier : Nat) (owner : Try) : Prop :=
  ∀ en, reqs[owner.request]? = some en → en.attempt = owner.attempt →
    ∀ other, en.phase = .waiting other → other = carrier

structure QueuePlaced (reqs : List Request) (rs : List MuxReply) (carrier : Nat)
    (queue : OpenQueue) : Prop where
  queued : ∀ command ∈ queue.commands, Bound reqs carrier command.reply ∧
    ∃ input, command.pending = .new input ∧ input.request = command.reply.request
  answering : ∀ owner, queue.answering = some owner → Bound reqs carrier owner ∧ .claimed carrier owner.request ∈ rs

structure RequestPlaced (rs : List MuxReply) (request : Nat) (en : Request) : Prop where
  held : ∀ input, en.phase.input = some input → input.request = request
  returned : ∀ input, en.returned = .sent input → input.request = request
  replied : ∀ carrier response, en.phase = .waiting carrier → en.reply = .sent (.ok response) →
      response.carrier = carrier ∧ .claimed carrier request ∈ rs

/-- Every input is with its own request, and every answer comes from the carrier that
claimed. -/
structure Placed (reqs : List Request) (queues : List OpenQueue) (rs : List MuxReply) : Prop where
  calls : ∀ request en, reqs[request]? = some en → RequestPlaced rs request en
  carriers : ∀ carrier queue, queues[carrier]? = some queue → QueuePlaced reqs rs carrier queue

structure Custody (requests : List Request) (queues : List OpenQueue)
    (replies : List MuxReply) : Prop extends Placed requests queues replies where
  single : ∀ request, copies requests queues replies request ≤ 1
  absent : ∀ request, requests.length ≤ request → copies requests queues replies request = 0

theorem RequestPlaced.later (placed : RequestPlaced replies request en) (rep : MuxReply) :
    RequestPlaced (replies ++ [rep]) request en where
  held := placed.held
  returned := placed.returned
  replied car response ph answered :=
    ⟨(placed.replied car response ph answered).1, mem_append_left _ (placed.replied car response ph answered).2⟩

theorem QueuePlaced.later (placed : QueuePlaced reqs replies car q) (rep : MuxReply) :
    QueuePlaced reqs (replies ++ [rep]) car q where
  queued := placed.queued
  answering owner busy := ⟨(placed.answering owner busy).1, mem_append_left _ (placed.answering owner busy).2⟩

theorem QueuePlaced.rebound {nextRequests : List Request} (placed : QueuePlaced reqs replies car q)
    (bound : ∀ car owner, Bound reqs car owner → Bound nextRequests car owner) :
    QueuePlaced nextRequests replies car q where
  queued cmd mem := ⟨bound _ _ (placed.queued cmd mem).1, (placed.queued cmd mem).2⟩
  answering owner busy := ⟨bound _ _ (placed.answering owner busy).1, (placed.answering owner busy).2⟩

theorem Placed.later (placed : Placed reqs queues replies) (rep : MuxReply) :
    Placed reqs queues (replies ++ [rep]) where
  calls request en there := (placed.calls request en there).later rep
  carriers car q there := (placed.carriers car q there).later rep

theorem copies_later (reqs : List Request) (queues : List OpenQueue)
    (replies : List MuxReply) (rep : MuxReply) (request : Nat) : copies reqs queues (replies ++ [rep]) request =
      copies reqs queues replies request + if rep.claims request then 1 else 0 := by
  simp only [copies, countP_append, countP_singleton]
  omega

theorem Custody.fewer {nextRequests : List Request} {nextQueues : List OpenQueue}
    {nextReplies : List MuxReply} (custody : Custody reqs queues replies)
    (placed : Placed nextRequests nextQueues nextReplies) (length : nextRequests.length = reqs.length)
    (count : ∀ request, copies nextRequests nextQueues nextReplies request ≤
      copies reqs queues replies request) : Custody nextRequests nextQueues nextReplies where
  toPlaced := placed
  single request := Nat.le_trans (count request) (custody.single request)
  absent request far := by
    have pre := count request
    rw [custody.absent request (length ▸ far)] at pre
    exact Nat.le_zero.mp pre

theorem Custody.later (custody : Custody reqs queues replies)
    (unclaimed : ∀ request, rep.claims request = false) : Custody reqs queues (replies ++ [rep]) := by
  refine custody.fewer (custody.toPlaced.later rep) rfl fun request => ?_
  rw [copies_later, unclaimed]
  exact Nat.le_refl _

theorem Placed.setQueue (placed : Placed reqs queues replies)
    (rewritten : QueuePlaced reqs replies car q) : Placed reqs (queues.set car q) replies where
  calls := placed.calls
  carriers other found there := by
    rcases of_getElem?_set there with ⟨rfl, rfl⟩ | ⟨-, pre⟩
    · exact rewritten
    · exact placed.carriers other found pre

theorem copies_setQueue (reqs : List Request) (replies : List MuxReply) {old : OpenQueue}
    (new : OpenQueue) (there : queues[car]? = some old) (request : Nat) :
    copies reqs (queues.set car new) replies request + old.inputs request =
      copies reqs queues replies request + new.inputs request := by
  have moved := sum_map_set (inputs request) new there
  simp only [copies]
  omega

theorem Placed.setRequest {changed : Request} (placed : Placed reqs queues replies)
    (there : reqs[request]? = some en) (rewritten : RequestPlaced replies request changed)
    (waits : ∀ car, changed.phase = .waiting car → en.phase = .waiting car ∧ changed.attempt = en.attempt) :
    Placed (reqs.set request changed) queues replies := by
  have bound : ∀ car owner, Bound reqs car owner → Bound (reqs.set request changed) car owner := by
    intro car owner bound found hp att other ph
    rcases of_getElem?_set hp with ⟨own, rfl⟩ | ⟨-, pre⟩
    · obtain ⟨pre, same⟩ := waits other ph
      exact bound en (own ▸ there) (same ▸ att) other pre
    · exact bound found pre att other ph
  refine ⟨?_, ?_⟩
  · intro other found hp
    rcases of_getElem?_set hp with ⟨rfl, rfl⟩ | ⟨-, pre⟩
    · exact rewritten
    · exact placed.calls other found pre
  · exact fun car q hp => (placed.carriers car q hp).rebound bound

theorem copies_setRequest (queues : List OpenQueue) (replies : List MuxReply) (changed : Request)
    (there : reqs[request]? = some en) (other : Nat) :
    copies (reqs.set request changed) queues replies other + (if request = other then en.inputs else 0) =
      copies reqs queues replies other + (if request = other then changed.inputs else 0) := by
  obtain ⟨begun, -⟩ := List.getElem?_eq_some_iff.mp there
  simp only [copies, getElem?_set]
  by_cases own : request = other
  · subst own
    simp only [if_true, if_pos begun, there, elim_some]
    omega
  · simp only [if_neg own]

theorem answerTry_cases (reqs : List Request) (owner : Try)
    (ans : Oneshot (Except TransportError StreamRx)) (ret : Oneshot OpenStreamInput) :
    answerTry reqs owner ans ret = reqs ∨ ∃ en, reqs[owner.request]? = some en ∧ en.attempt = owner.attempt ∧
        answerTry reqs owner ans ret = reqs.set owner.request { en with reply := ans, returned := ret } := by
  unfold answerTry
  cases there : reqs[owner.request]? with
  | none => exact Or.inl rfl
  | some en =>
    by_cases same : en.attempt = owner.attempt
    · exact Or.inr ⟨en, rfl, same, if_pos same⟩
    · exact Or.inl (if_neg same)

theorem answerTry_length (reqs : List Request) (owner : Try)
    (ans : Oneshot (Except TransportError StreamRx)) (ret : Oneshot OpenStreamInput) :
    (answerTry reqs owner ans ret).length = reqs.length := by
  rcases answerTry_cases reqs owner ans ret with same | ⟨en, -, -, set⟩
  · rw [same]
  · rw [set, length_set]

theorem Placed.answer {owner : Try} {ans : Oneshot (Except TransportError StreamRx)}
    {ret : Oneshot OpenStreamInput} (placed : Placed reqs queues replies)
    (own : ∀ input, ret = .sent input → input.request = owner.request)
    (answered : ∀ response, ans = .sent (.ok response) → ∀ en car,
      reqs[owner.request]? = some en → en.attempt = owner.attempt → en.phase = .waiting car →
          response.carrier = car ∧ .claimed car owner.request ∈ replies) :
    Placed (answerTry reqs owner ans ret) queues replies := by
  rcases answerTry_cases reqs owner ans ret with same | ⟨en, there, att, set⟩
  · rw [same]
    exact placed
  · rw [set]
    refine placed.setRequest there ?_ (fun car ph => ⟨ph, rfl⟩)
    refine ⟨(placed.calls _ en there).held, own, ?_⟩
    intro car response ph sent
    exact answered response sent en car there att ph

theorem copies_answer (reqs : List Request) (queues : List OpenQueue) (replies : List MuxReply) (owner : Try)
    (ans : Oneshot (Except TransportError StreamRx)) (ret : Oneshot OpenStreamInput) (other : Nat) :
    copies (answerTry reqs owner ans ret) queues replies other ≤ copies reqs queues replies other +
        if owner.request = other then ret.count else 0 := by
  rcases answerTry_cases reqs owner ans ret with same | ⟨en, there, -, set⟩
  · rw [same]
    omega
  · rw [set]
    have moved := copies_setRequest queues replies { en with reply := ans, returned := ret } there other
    by_cases own : owner.request = other
    · simp only [if_pos own, Request.inputs] at moved ⊢
      omega
    · simp only [if_neg own] at moved ⊢
      omega

section
variable (custody : Custody reqs queues replies) (there : queues[car]? = some q)
include custody there

/-- A queue gives up its first command, and the call it belongs to may get its input back. -/
theorem Custody.giveBack {rest : List OpenCommand}
    {ans : Oneshot (Except TransportError StreamRx)} {ret : Oneshot OpenStreamInput}
    (fst : q.commands = cmd :: rest) (failed : ∀ response, ans ≠ .sent (.ok response))
    (given : ∀ input, ret = .sent input → cmd.pending.input = some input) :
    Custody (answerTry reqs cmd.reply ans ret)
      (queues.set car { q with commands := rest }) replies := by
  obtain ⟨queued, answering⟩ := custody.carriers car q there
  obtain ⟨-, input, pend, own⟩ := queued cmd (by simp [fst])
  have held : cmd.pending.input = some input := by rw [pend]; rfl
  have count : ∀ request, copies (answerTry reqs cmd.reply ans ret)
      (queues.set car { q with commands := rest }) replies request ≤ copies reqs queues replies request := by
    intro request
    have back := copies_answer reqs (queues.set car { q with commands := rest })
      replies cmd.reply ans ret request
    have left := copies_setQueue reqs replies { q with commands := rest } there request
    have one : ret.count ≤ 1 := by cases ret <;> simp [Oneshot.count]
    simp only [inputs, fst, countP_cons] at left
    by_cases same : cmd.reply.request = request
    · have holds : cmd.holds request = true := by simp [OpenCommand.holds, held, own, same]
      simp only [holds, if_true] at left
      simp only [if_pos same] at back
      omega
    · simp only [if_neg same] at back
      omega
  refine custody.fewer (Placed.answer (custody.toPlaced.setQueue ⟨?_, answering⟩) ?_ ?_)
    (answerTry_length _ _ _ _) count
  · exact fun other mem => queued other (fst ▸ mem_cons_of_mem _ mem)
  · intro other sent
    obtain rfl : input = other := some.inj (held.symm.trans (given other sent))
    exact own
  · exact fun response sent => absurd sent (failed response)

theorem Custody.giveAllBack : Custody (q.commands.foldl (fun reqs cmd =>
        answerTry reqs cmd.reply .closed cmd.pending.drop) reqs)
      (queues.set car { q with commands := [] }) replies := by
  obtain ⟨cmds, answering⟩ := q
  induction cmds generalizing reqs queues with
  | nil =>
    obtain ⟨_, found⟩ := List.getElem?_eq_some_iff.mp there
    have same : queues.set car ⟨[], answering⟩ = queues := by rw [← found, set_getElem_self]
    simp only [same]
    exact custody
  | cons cmd cmds ih =>
    obtain ⟨begun, -⟩ := List.getElem?_eq_some_iff.mp there
    have given : Custody (answerTry reqs cmd.reply .closed cmd.pending.drop)
        (queues.set car ⟨cmds, answering⟩) replies := by
      refine custody.giveBack there rfl (by intro response sent; cases sent) ?_
      intro input sent
      cases pend : cmd.pending with
      | mk held returnInput =>
        rw [pend] at sent
        cases held <;> cases returnInput <;> cases sent
        rfl
    have rest := ih given (by rw [getElem?_set_self begun])
    rw [set_set] at rest
    exact rest

end

theorem queued_pos (there : queues[car]? = some q) (mem : cmd ∈ q.commands)
    (held : cmd.pending.input = some input) : 0 < (queues.map (inputs input.request)).sum := by
  have one : 0 < q.inputs input.request := countP_pos_iff.mpr ⟨cmd, mem, by simp [OpenCommand.holds, held]⟩
  exact Nat.lt_of_lt_of_le one (le_sum_of_mem (mem_map_of_mem (mem_of_getElem? there)))

theorem claims_pos (mem : .claimed car request ∈ replies) : 0 < replies.countP (MuxReply.claims request) :=
  countP_pos_iff.mpr ⟨_, mem, by simp [MuxReply.claims]⟩

section
variable (custody : Custody reqs queues replies)
include custody

theorem Custody.alone (there : reqs[request]? = some en) (held : en.phase.input = some input) :
    (queues.map (inputs request)).sum = 0 ∧ replies.countP (MuxReply.claims request) = 0 := by
  have single := custody.single request
  have one : 1 ≤ en.inputs := by simp [Request.inputs, held]
  simp only [copies, there, elim_some] at single
  omega

/-- The input goes from the call to the end of a queue. -/
theorem Custody.send {changed : Request} {longer : OpenQueue} (hp : reqs[request]? = some en)
    (ph : en.phase = .sending input car) (there : queues[car]? = some q)
    (waits : changed.phase = .waiting car) (un : changed.reply = .pending) (kept : changed.returned = .pending)
    (cmds : longer.commands = q.commands ++ [⟨.new input, ⟨request, en.attempt⟩⟩])
    (answering : longer.answering = q.answering) :
    Custody (reqs.set request changed) (queues.set car longer) replies := by
  have held : en.phase.input = some input := by rw [ph]; rfl
  have own : input.request = request := (custody.calls request en hp).held input held
  obtain ⟨unqueued, unclaimed⟩ := custody.alone hp held
  obtain ⟨begun, -⟩ := List.getElem?_eq_some_iff.mp hp
  -- The call was the only owner, so no other try of it is queued or being answered.
  have bound : ∀ other owner, owner.request ≠ request → Bound reqs other owner →
      Bound (reqs.set request changed) other owner := by
    intro other owner ne bound found hp
    rw [getElem?_set_ne (Ne.symm ne)] at hp
    exact bound found hp
  have others : ∀ other found, queues[other]? = some found →
      QueuePlaced (reqs.set request changed) replies other found := by
    intro other found there
    obtain ⟨queued, answering⟩ := custody.carriers other found there
    refine ⟨fun cmd mem => ?_, fun owner busy => ?_⟩
    · obtain ⟨pre, input, pend, mine⟩ := queued cmd mem
      refine ⟨bound _ _ (fun same => ?_) pre, input, pend, mine⟩
      have positive := queued_pos there mem (congrArg PendingOpen.input pend)
      rw [mine, same, unqueued] at positive
      exact Nat.lt_irrefl 0 positive
    · obtain ⟨pre, claimed⟩ := answering owner busy
      refine ⟨bound _ _ (fun same => ?_) pre, claimed⟩
      have positive := claims_pos claimed
      rw [same, unclaimed] at positive
      exact Nat.lt_irrefl 0 positive
  refine custody.fewer ?_ (length_set ..) ?_
  · refine Placed.setQueue ⟨?_, others⟩ ⟨?_, answering ▸ (others car q there).answering⟩
    · intro other found hp
      rcases of_getElem?_set hp with ⟨rfl, rfl⟩ | ⟨-, pre⟩
      · exact ⟨by simp [waits, OpenPhase.input], by simp [kept], by simp [un]⟩
      · exact custody.calls other found pre
    · intro cmd mem
      rcases mem_append.mp (cmds ▸ mem) with old | new
      · exact (others car q there).queued cmd old
      · obtain rfl := mem_singleton.mp new
        refine ⟨?_, input, rfl, own⟩
        intro found hp att other wait
        rw [getElem?_set_self begun] at hp
        cases hp
        cases waits.symm.trans wait
        rfl
  · intro other
    have left := copies_setRequest (queues.set car longer) replies changed hp other
    have queued := copies_setQueue reqs replies longer there other
    have one : 1 ≤ en.inputs := by simp [Request.inputs, held]
    have gone : changed.inputs = 0 := by
      rw [Request.inputs, waits, kept]
      rfl
    have more : longer.inputs other = q.inputs other + if request = other then 1 else 0 := by
      simp [inputs, cmds, OpenCommand.holds, PendingOpen.new, own, countP_singleton]
    rw [gone] at left
    rw [more] at queued
    by_cases same : request = other
    · simp only [if_pos same] at left queued
      omega
    · simp only [if_neg same] at left queued
      omega

/-- A coordinator claims the first input of its queue. -/
theorem Custody.claim {rest : List OpenCommand}
    (there : queues[car]? = some q) (fst : q.commands = cmd :: rest)
    (held : cmd.pending.input = some input) : Custody (answerTry reqs cmd.reply .pending .closed)
      (queues.set car ⟨rest, some cmd.reply⟩) (replies ++ [.claimed car input.request]) := by
  obtain ⟨queued, _⟩ := (custody.carriers car q there).later (.claimed car input.request)
  obtain ⟨bound, other, pend, own⟩ := queued cmd (by simp [fst])
  obtain rfl : input = other := some.inj (held.symm.trans (congrArg PendingOpen.input pend))
  refine custody.fewer (Placed.answer ((custody.toPlaced.later _).setQueue ⟨?_, ?_⟩) ?_ ?_)
    (answerTry_length _ _ _ _) ?_
  · exact fun other mem => queued other (fst ▸ mem_cons_of_mem _ mem)
  · intro owner busy
    cases busy
    exact ⟨bound, by simp [own]⟩
  · intro input sent
    cases sent
  · intro response sent
    cases sent
  · intro request
    have closed := copies_answer reqs (queues.set car ⟨rest, some cmd.reply⟩)
      (replies ++ [.claimed car input.request]) cmd.reply .pending .closed request
    have left := copies_setQueue reqs replies ⟨rest, some cmd.reply⟩ there request
    have claimed := copies_later reqs (queues.set car ⟨rest, some cmd.reply⟩)
      replies (.claimed car input.request) request
    have none_back : (Oneshot.closed : Oneshot OpenStreamInput).count = 0 := rfl
    simp only [inputs, fst, countP_cons] at left
    by_cases same : input.request = request
    · have holds : cmd.holds request = true := by simp [OpenCommand.holds, held, same]
      have claims : (MuxReply.claimed car input.request).claims request = true := by simp [MuxReply.claims, same]
      simp only [holds, if_true] at left
      simp only [claims, if_true] at claimed
      simp only [none_back, ite_self] at closed
      omega
    · simp only [MuxReply.claims, same, decide_false, Bool.false_eq_true, if_false] at claimed
      simp only [none_back, ite_self] at closed
      omega

/-- A coordinator answers the open it has claimed. -/
theorem Custody.answer {owner : Try} {ans : Oneshot (Except TransportError StreamRx)} (there : queues[car]? = some q)
    (answering : q.answering = some owner)
    (own : ∀ response, ans = .sent (.ok response) → response.carrier = car) :
    Custody (answerTry reqs owner ans .closed)
      (queues.set car { q with answering := none }) replies := by
  obtain ⟨bound, claimed⟩ := (custody.carriers car q there).answering owner answering
  refine custody.fewer (Placed.answer (custody.toPlaced.setQueue ⟨?_, ?_⟩) ?_ ?_) (answerTry_length _ _ _ _) ?_
  · exact (custody.carriers car q there).queued
  · intro owner busy
    cases busy
  · intro input sent
    cases sent
  · intro response sent en waited hp att ph
    obtain rfl := bound en hp att waited ph
    exact ⟨own response sent, claimed⟩
  · intro request
    have closed := copies_answer reqs (queues.set car { q with answering := none })
      replies owner ans .closed request
    have left := copies_setQueue reqs replies { q with answering := none } there request
    have none_back : (Oneshot.closed : Oneshot OpenStreamInput).count = 0 := rfl
    simp only [inputs] at left
    simp only [none_back, ite_self] at closed
    omega

theorem Custody.widen : Custody reqs (queues ++ [({} : OpenQueue)]) replies := by
  refine custody.fewer ⟨custody.calls, fun car q there => ?_⟩ rfl fun request => ?_
  · rcases getElem?_concat.mp there with pre | ⟨-, rfl⟩
    · exact custody.carriers car q pre
    · exact ⟨by simp, by simp⟩
  · simp [copies, inputs]

theorem Custody.proceed {changed : Request}
    (hp : reqs[request]? = some en) (proceeds : Proceeds en changed) :
    Custody (reqs.set request changed) queues replies := by
  have pre := custody.calls request en hp
  refine custody.fewer (custody.toPlaced.setRequest hp ⟨?_, ?_, ?_⟩ ?_) (length_set ..) fun other => ?_
  · intro input held
    rcases proceeds.held input held with own | back
    · exact pre.held input own
    · exact pre.returned input back
  · exact fun input sent => pre.returned input (proceeds.returned input sent)
  · exact fun car response wait => absurd wait (proceeds.idle car)
  · exact fun car wait => absurd wait (proceeds.idle car)
  · have moved := copies_setRequest queues replies changed hp other
    have fewer := proceeds.fewer
    by_cases same : request = other
    · simp only [if_pos same] at moved
      omega
    · simp only [if_neg same] at moved
      omega

theorem Custody.begin (own : input.request = reqs.length) :
    Custody (reqs ++ [{ phase := .wantSlot input }]) queues replies := by
  have grown : ∀ request, (reqs ++ [({ phase := .wantSlot input } : Request)])[request]? =
      if request = reqs.length then some { phase := .wantSlot input }
      else reqs[request]? := by
    intro request
    rcases Nat.lt_trichotomy request reqs.length with pre | rfl | after
    · rw [if_neg (Nat.ne_of_lt pre), getElem?_append_left pre]
    · rw [if_pos rfl, getElem?_concat_length]
    · rw [if_neg (Nat.ne_of_gt after), getElem?_eq_none (by simp; omega), getElem?_eq_none (Nat.le_of_lt after)]
  have bound : ∀ car owner, Bound reqs car owner → Bound (reqs ++ [{ phase := .wantSlot input }]) car owner := by
    intro car owner bound en hp
    rcases getElem?_concat.mp hp with pre | ⟨-, rfl⟩
    · exact bound en pre
    · rintro _ _ ⟨⟩
  have count : ∀ request, copies (reqs ++ [{ phase := .wantSlot input }]) queues replies
      request = if request = reqs.length then 1 else
        copies reqs queues replies request := by
    intro request
    simp only [copies, grown]
    split
    next same =>
      have absent := custody.absent request (Nat.le_of_eq same.symm)
      simp only [copies] at absent
      have one : Request.inputs { phase := .wantSlot input } = 1 := rfl
      simp only [elim_some, one]
      omega
    · rfl
  refine ⟨⟨?_, ?_⟩, ?_, ?_⟩
  · intro request en hp
    rcases getElem?_concat.mp hp with pre | ⟨rfl, rfl⟩
    · exact custody.calls request en pre
    · refine ⟨?_, by rintro _ ⟨⟩, by rintro _ _ ⟨⟩⟩
      rintro _ ⟨⟩
      exact own
  · exact fun car q there => (custody.carriers car q there).rebound bound
  · intro request
    rw [count]
    split
    · exact Nat.le_refl 1
    · exact custody.single request
  · intro request far
    rw [length_append, length_singleton] at far
    rw [count, if_neg (by omega)]
    exact custody.absent request (by omega)

end

theorem Told.unclaimed (told : Told request en rep) (other : Nat) : rep.claims other = false := by
  cases told with
  | _ => rfl

theorem Custody.start : Custody [] [] [] := by
  refine ⟨⟨?_, ?_⟩, fun _ => Nat.zero_le 1, fun _ _ => rfl⟩
  · rintro _ _ ⟨⟩
  · rintro _ _ ⟨⟩

theorem Custody.step {mux next : MuxCarrier} {call : MuxCall} (custody : Custody mux.requests mux.queues replies)
    (hs : mux.step call = some (next, rep)) : Custody next.requests next.queues (replies ++ [rep]) := by
  have quiet : ∀ request, MuxReply.quiet.claims request = false := fun _ => rfl
  cases MuxCarrier.step_inputEffect hs with
  | kept reqs queues =>
    rw [reqs, queues]
    exact custody.later quiet
  | begun _ own reqs queues =>
    rw [reqs, queues]
    exact (custody.begin own).later quiet
  | moved _ _ _ hp reqs queues proceeds told =>
    rcases queues with queues | queues
    · rw [reqs, queues]
      exact (custody.proceed hp proceeds).later told.unclaimed
    · rw [reqs, queues]
      exact (custody.proceed hp proceeds).widen.later told.unclaimed
  | sent _ _ _ _ _ hp ph there reqs queues =>
    rw [reqs, queues]
    exact Custody.later (custody.send hp ph there rfl rfl rfl rfl rfl) quiet
  | claimed _ _ _ _ _ there fst held reqs queues =>
    rw [reqs, queues]
    exact custody.claim there fst held
  | refused _ _ _ _ there fst _ reqs queues =>
    rw [reqs, queues]
    refine (custody.giveBack there fst ?_ ?_).later quiet
    · intro response sent
      cases sent
    · intro input sent
      cases sent
  | answered _ _ _ there answering ans own reqs queues =>
    rw [reqs, queues]
    exact (custody.answer there answering own).later quiet
  | dropped _ _ there reqs queues =>
    rw [reqs, queues]
    exact (custody.giveAllBack there).later quiet

theorem Custody.run {calls : List MuxCall} {mux : MuxCarrier} (ran : muxMachine.run {} calls = some (mux, replies)) :
    Custody mux.requests mux.queues replies :=
  muxMachine.run_history (motive := fun mux _ replies => Custody mux.requests mux.queues replies)
    Custody.start (fun custody hs => custody.step hs) ran

/-- In every run: a coordinator claims a request's input only if none has claimed it, the
request is dialed for only if none has claimed it, and a stream it is given has both of its
ends on the carrier whose coordinator claimed it. -/
theorem request_on_one_carrier {calls : List MuxCall} {mid next : MuxCarrier}
    {early : List MuxReply} {call : MuxCall} {reply : MuxReply}
    (ran : muxMachine.run {} calls = some (mid, early))
    (stepped : muxMachine.step mid call = some (next, reply)) (request : Nat) :
    (∀ carrier, reply = .claimed carrier request → ∀ other, .claimed other request ∉ early) ∧
    (∀ attempt, reply = .dials request attempt → ∀ other, .claimed other request ∉ early) ∧
    (∀ opened, reply = .returned request (.ok opened) → .claimed opened.response.carrier request ∈ early ∧
        opened.body = ⟨request, opened.response.carrier, opened.response.streamId⟩) := by
  have custody := Custody.run ran
  refine ⟨?_, ?_, ?_⟩
  · rintro carrier rfl other claimed
    cases MuxCarrier.step_inputEffect stepped with
    | moved _ _ _ _ _ _ _ told => cases told
    | claimed _ queue command _ input there first held =>
      have mem : command ∈ queue.commands := by simp [first]
      have queued := queued_pos there mem held
      have earlier := claims_pos claimed
      have single := custody.single input.request
      simp only [copies] at single
      omega
  · rintro attempt rfl other claimed
    cases MuxCarrier.step_inputEffect stepped with
    | moved _ _ _ present _ _ _ told =>
      cases told with
      | dials _ held =>
        have earlier := claims_pos claimed
        rw [(custody.alone present held).2] at earlier
        exact Nat.lt_irrefl 0 earlier
  · rintro opened rfl
    cases MuxCarrier.step_inputEffect stepped with
    | moved _ entry _ present _ _ _ told =>
      cases told with
      | opens carrier response waiting answered =>
        obtain ⟨rfl, claimed⟩ := (custody.calls _ entry present).replied carrier response waiting answered
        exact ⟨claimed, rfl⟩

/-- The first carrier stops with the open in its queue; a second one claims and answers. -/
def queuedThenRedialed : List MuxCall :=
  [.openStream [] [] [] 3] ++ List.replicate 5 (.advance 0) ++
    [.dialed 0, .advance 0, .stopCoordinator 0, .dropCommands 0] ++
    List.replicate 10 (.advance 0) ++
    [.dialed 0, .advance 0, .claim 1, .answer 1 (.ok ())]

theorem request_on_one_carrier_redialed :
    ∃ mid early next opened, muxMachine.run {} queuedThenRedialed = some (mid, early) ∧ .dials 0 1 ∈ early ∧
      muxMachine.step mid (.advance 0) = some (next, .returned 0 (.ok opened)) ∧
      .claimed opened.response.carrier 0 ∈ early ∧
        opened.body = ⟨0, opened.response.carrier, opened.response.streamId⟩ := by
  have evaluated : ((muxMachine.run {} queuedThenRedialed).bind fun ran =>
      (muxMachine.step ran.1 (.advance 0)).map fun stepped =>
        (decide (.dials 0 1 ∈ ran.2), stepped.2)) =
      some (true, .returned 0 (.ok ⟨⟨0, 1, 1⟩, ⟨1, 1⟩⟩)) := by
    decide +kernel
  obtain ⟨⟨mid, early⟩, ran, rest⟩ := bind_eq_some_iff.mp evaluated
  obtain ⟨⟨next, reply⟩, stepped, eqs⟩ := map_eq_some_iff.mp rest
  obtain rfl : reply = .returned 0 (.ok ⟨⟨0, 1, 1⟩, ⟨1, 1⟩⟩) := congrArg Prod.snd eqs
  have dialed : .dials 0 1 ∈ early := of_decide_eq_true (congrArg Prod.fst eqs)
  exact ⟨mid, early, next, _, ran, dialed, stepped, (request_on_one_carrier ran stepped 0).2.2 _ rfl⟩

end SplRust.Transport
