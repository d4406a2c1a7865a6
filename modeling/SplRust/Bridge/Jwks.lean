import SplRust.Bridge.Nonce
import SplRust.Core.Http

/-! The key cache of the token verifier: `run_jwks_aggregator` of `spl-bridge/src/pop_auth.rs`,
with the queue it receives from. Instants are in nanoseconds and never go back; which of the
entries that expire first an insertion evicts is up to the iteration order of the map. -/

namespace SplRust.Bridge
open SplRust.Lib SplRust.Core

abbrev VerifyingKey := Vector UInt8 32

open List Option

def jwksCacheTtl : Nat := 300 * 10 ^ 9
def jwksCooldown : Nat := 5 * 10 ^ 9
def jwksCacheLimit : Nat := 64

structure CachedJwk where
  key : VerifyingKey
  expiresAt : Nat
  deriving DecidableEq, Repr

abbrev JwksCache := Entries Text CachedJwk

def pruneJwksCache (cache : JwksCache) (now : Nat) : JwksCache := cache.filter fun entry => entry.2.expiresAt > now

/-- Could `min_by_key` find this entry? -/
def JwksCache.earliest (cache : JwksCache) (kid : Text) : Bool :=
  cache.any fun entry => entry.1 = kid ∧ cache.all fun other => entry.2.expiresAt ≤ other.2.expiresAt

/-- Keys in the order of their iteration; `victims` are the entries that are evicted, in turn. -/
def insertJwksKeys (expiresAt : Nat) : JwksCache → Entries Text VerifyingKey → List Text → Option JwksCache
  | cache, [], _ => some cache
  | cache, (kid, key) :: keys, victims =>
      if cache.get kid = none ∧ cache.length ≥ jwksCacheLimit then
        match victims with
        | [] => none
        | victim :: victims =>
            if cache.earliest victim then
              insertJwksKeys expiresAt ((cache.remove victim).insert kid ⟨key, expiresAt⟩) keys victims
            else none
      else insertJwksKeys expiresAt (cache.insert kid ⟨key, expiresAt⟩) keys victims

structure JwksRequest where
  number : Nat
  kid : Text
  deriving DecidableEq, Repr

structure JwksAnswer where
  number : Nat
  now : Nat
  result : Except PopError VerifyingKey

/-- The state of the loop, with the queue it receives from and what it has done so far. -/
structure JwksAggregator where
  cache : JwksCache := []
  /-- The waiters of the fetch that is in flight. -/
  inFlight : Option (List JwksRequest) := none
  lastFetchBegin : Option Nat := none
  requestsClosed : Bool := false
  queue : List JwksRequest := []
  sent : Nat := 0
  /-- Every sender is gone. -/
  closed : Bool := false
  clock : Nat := 0
  answers : List JwksAnswer := []
  /-- When the fetches were begun, the last one first. -/
  begins : List Nat := []
  /-- When the fetches were taken, and the keys they gave. -/
  fetches : List (Nat × Option (Entries Text VerifyingKey)) := []

inductive JwksCall where
  | send (kid : Text)
  | close
  /-- The loop takes the branch of the queue. -/
  | receive (now : Nat)
  /-- The loop takes the branch of the fetch, which has given these keys or failed. -/
  | complete (now : Nat) (keys : Option (Entries Text VerifyingKey)) (victims : List Text)

namespace JwksAggregator

variable (state : JwksAggregator)

/-- A request that the loop has received. -/
def handle (now : Nat) (request : JwksRequest) : JwksAggregator :=
  match state.cache.get request.kid with
  | some entry => { state with answers := state.answers ++ [⟨request.number, now, .ok entry.key⟩] }
  | none =>
      match state.inFlight with
      | some waiters => { state with inFlight := some (waiters ++ [request]) }
      | none =>
          if state.lastFetchBegin.any fun started =>
              started ≤ now ∧ now - started < jwksCooldown then
            { state with answers := state.answers ++ [⟨request.number, now, .error .jwksKeyUnavailable⟩] }
          else
            { state with
              lastFetchBegin := some now
              inFlight := some [request]
              begins := now :: state.begins }

/-- What a waiter is told once the keys are in the cache. -/
def answer (cache : JwksCache) (now : Nat) (request : JwksRequest) : JwksAnswer where
  number := request.number
  now := now
  result := (cache.get request.kid).elim (.error .jwksKeyUnavailable) fun entry => .ok entry.key

/-- The fetch that the waiters wait for has ended. -/
def complete (now : Nat) (waiters : List JwksRequest)
    (victims : List Text) : Option (Entries Text VerifyingKey) → Option JwksAggregator
  | none => some { state with
      inFlight := none
      answers := state.answers ++ waiters.map fun request => ⟨request.number, now, .error .jwksUnavailable⟩
      fetches := (now, none) :: state.fetches }
  | some keys =>
      (insertJwksKeys (now + jwksCacheTtl) (pruneJwksCache state.cache now) keys victims).map
        fun cache => { state with
          cache := cache
          inFlight := none
          answers := state.answers ++ waiters.map (answer cache now)
          fetches := (now, some keys) :: state.fetches }

/-- `none` if the loop cannot take that branch, or the clock would go back. -/
def step : JwksCall → Option JwksAggregator
  | .send kid =>
      if state.closed then none
      else some { state with queue := state.queue ++ [⟨state.sent, kid⟩], sent := state.sent + 1 }
  | .close => some { state with closed := true }
  | .receive now =>
      if now < state.clock ∨ state.requestsClosed then none
      else
        match state.queue with
        | [] =>
            if state.closed then some { state with requestsClosed := true, clock := now }
            else none
        | request :: queue =>
            some (handle { state with
              queue := queue, clock := now, cache := pruneJwksCache state.cache now } now request)
  | .complete now keys victims =>
      if now < state.clock then none
      else
        match state.inFlight with
        | none => none
        | some waiters => { state with clock := now }.complete now waiters victims keys

end JwksAggregator

def jwksMachine : Machine JwksAggregator JwksCall Unit where
  step state call := (state.step call).map fun next => (next, ())

theorem JwksCache.earliest_iff {cache : JwksCache} {kid : Text} : cache.earliest kid = true ↔
    ∃ en ∈ cache, en.1 = kid ∧ ∀ oid ∈ cache, en.2.expiresAt ≤ oid.2.expiresAt := by
  simp [earliest]

/-- What an insertion of the key leaves of the cache before it adds it. -/
def JwksCache.MakesRoom (cache : JwksCache) (kid : Text) (kept : JwksCache) : Prop :=
  if cache.get kid = none ∧ cache.length ≥ jwksCacheLimit then
    ∃ victim, cache.earliest victim = true ∧ kept = cache.remove victim
  else kept = cache

/-- The entries are inserted in this order, whatever is evicted for them. -/
def JwksCache.Inserts (expiresAt : Nat) (cache : JwksCache) (keys : Entries Text VerifyingKey)
    (after : JwksCache) : Prop :=
  ∃ victims, insertJwksKeys expiresAt cache keys victims = some after

namespace JwksCache
variable {expiresAt : Nat} {cache kept after : JwksCache} {keys : Entries Text VerifyingKey}
  {kid : Text} {key : VerifyingKey} {en : Text × CachedJwk}

theorem inserts_nil : cache.Inserts expiresAt [] after ↔ cache = after := by simp [Inserts, insertJwksKeys]

theorem inserts_cons : cache.Inserts expiresAt ((kid, key) :: keys) after ↔ ∃ kept, cache.MakesRoom kid kept ∧
      Inserts expiresAt (Entries.insert kept kid ⟨key, expiresAt⟩) keys after := by
  by_cases full : cache.get kid = none ∧ cache.length ≥ jwksCacheLimit
  · simp only [Inserts, MakesRoom, if_pos full]
    constructor
    · rintro ⟨_ | ⟨victim, victims⟩, inserted⟩
      · simp [insertJwksKeys, full] at inserted
      · rw [insertJwksKeys, if_pos full] at inserted
        obtain ⟨fst, inserted⟩ := ite_none_right_eq_some.mp inserted
        exact ⟨_, ⟨victim, fst, rfl⟩, victims, inserted⟩
    · rintro ⟨_, ⟨victim, fst, rfl⟩, victims, inserted⟩
      refine ⟨victim :: victims, ?_⟩
      rw [insertJwksKeys, if_pos full]
      exact (if_pos fst).trans inserted
  · simp only [Inserts, MakesRoom, if_neg full, exists_eq_left, insertJwksKeys]

theorem MakesRoom.subset (room : cache.MakesRoom kid kept) : ∀ en ∈ kept, en ∈ cache := by
  intro en mem
  unfold MakesRoom at room
  split at room
  · obtain ⟨_, -, rfl⟩ := room
    exact (Entries.mem_remove.mp mem).1
  · exact room ▸ mem

theorem MakesRoom.length (room : cache.MakesRoom kid kept) (value : CachedJwk) :
    (Entries.insert kept kid value).length ≤ max jwksCacheLimit cache.length := by
  unfold MakesRoom at room
  split at room
  · obtain ⟨_, fst, rfl⟩ := room
    obtain ⟨en, mem, rfl, -⟩ := earliest_iff.mp fst
    have shorter := Entries.length_remove_lt mem
    have again := Entries.length_remove_le (Entries.remove cache en.1) kid
    simp only [Entries.insert, length_cons]
    omega
  · next spare =>
    subst room
    simp only [Entries.insert, length_cons]
    cases hp : kept.get kid with
    | none =>
      have shorter := Entries.length_remove_le kept kid
      have short := Nat.not_le.mp fun full => spare ⟨hp, full⟩
      omega
    | some en =>
      have shorter : (Entries.remove kept kid).length < kept.length :=
        Entries.length_remove_lt (Entries.mem_of_get hp)
      omega

theorem Inserts.mem (inserts : cache.Inserts expiresAt keys after) (mem : en ∈ after) :
    en ∈ cache ∨ (en.1, en.2.key) ∈ keys ∧ en.2.expiresAt = expiresAt := by
  induction keys generalizing cache with
  | nil => exact Or.inl (inserts_nil.mp inserts ▸ mem)
  | cons fst keys ih =>
    obtain ⟨_, room, rest⟩ := inserts_cons.mp inserts
    rcases ih rest with old | ⟨own, at_⟩
    · rcases mem_cons.mp old with rfl | old
      · exact Or.inr ⟨mem_cons_self, rfl⟩
      · exact Or.inl (room.subset _ (Entries.mem_remove.mp old).1)
    · exact Or.inr ⟨mem_cons_of_mem _ own, at_⟩

theorem Inserts.length (inserts : cache.Inserts expiresAt keys after) :
    after.length ≤ max jwksCacheLimit cache.length := by
  induction keys generalizing cache with
  | nil =>
    rw [inserts_nil.mp inserts]
    exact Nat.le_max_right _ _
  | cons fst keys ih =>
    obtain ⟨_, room, rest⟩ := inserts_cons.mp inserts
    have longer := ih rest
    have shorter := room.length ⟨fst.2, expiresAt⟩
    omega

end JwksCache

namespace JwksAggregator
variable {s next : JwksAggregator} {now : Nat} {req : JwksRequest}

/-- Nobody is forgotten, and every key in use is from a fetch of the last five minutes. -/
structure Served (s : JwksAggregator) : Prop where
  few : s.cache.length ≤ jwksCacheLimit
  accounts : (s.answers.map JwksAnswer.number ++ (s.inFlight.getD []).map
    JwksRequest.number ++ s.queue.map JwksRequest.number).Perm (List.range s.sent)
  flight : s.begins.length = s.fetches.length + s.inFlight.toList.length
  last : s.lastFetchBegin = s.begins.head?
  begun : ∀ began ∈ s.begins, began ≤ s.clock
  spaced : s.begins.Pairwise fun later earlier => earlier + jwksCooldown ≤ later
  fresh : ∀ en ∈ s.cache, ∃ fetch ∈ s.fetches, ∃ keys, fetch.2 = some keys ∧
    (en.1, en.2.key) ∈ keys ∧ en.2.expiresAt = fetch.1 + jwksCacheTtl
  current : ∀ answer ∈ s.answers, ∀ key, answer.result = .ok key →
    ∃ fetch ∈ s.fetches, ∃ keys kid, fetch.2 = some keys ∧ (kid, key) ∈ keys ∧ answer.now < fetch.1 + jwksCacheTtl

section
variable (served : s.Served)
include served

theorem Served.prune (later : s.clock ≤ now) :
    Served { s with clock := now, cache := pruneJwksCache s.cache now } :=
  { served with
    few := Nat.le_trans (length_filter_le _ _) served.few
    begun := fun began mem => Nat.le_trans (served.begun began mem) later
    fresh := fun en mem => served.fresh en (mem_of_mem_filter mem) }

/-- A key of the cache that has not expired. -/
theorem Served.key {en : Text × CachedJwk} (mem : en ∈ s.cache) (unexpired : now < en.2.expiresAt) :
    ∃ fetch ∈ s.fetches, ∃ keys kid, fetch.2 = some keys ∧ (kid, en.2.key) ∈ keys ∧ now < fetch.1 + jwksCacheTtl := by
  obtain ⟨fetch, there, keys, gave, own, expires⟩ := served.fresh en mem
  exact ⟨fetch, there, keys, en.1, gave, own, expires ▸ unexpired⟩

theorem Served.answered {q : List JwksRequest}
    (fst : s.queue = req :: q) {res : Except PopError VerifyingKey}
    (cur : ∀ key, res = .ok key → ∃ fetch ∈ s.fetches, ∃ keys kid,
      fetch.2 = some keys ∧ (kid, key) ∈ keys ∧ now < fetch.1 + jwksCacheTtl) : Served { s with
      queue := q, answers := s.answers ++ [⟨req.number, now, res⟩] } := by
  refine { served with accounts := ?_, current := ?_ }
  · refine List.Perm.trans ?_ served.accounts
    simp only [fst, map_append, map_cons, map_nil, append_assoc, singleton_append]
    exact perm_middle.symm.append_left _
  · intro ans mem key own
    rcases mem_append.mp mem with old | new
    · exact served.current ans old key own
    · rw [mem_singleton.mp new] at own ⊢
      exact cur key own

theorem Served.handle {q : List JwksRequest} (fst : s.queue = req :: q) (on_time : s.clock = now)
    (unexpired : ∀ en ∈ s.cache, now < en.2.expiresAt) :
    Served ({ s with queue := q }.handle now req) := by
  have accounts := served.accounts
  rw [fst, map_cons] at accounts
  fun_cases JwksAggregator.handle { s with queue := q } now req with
  | case1 _ fnd =>
    have mem := Entries.mem_of_get fnd
    refine served.answered fst fun key own => ?_
    cases own
    exact served.key mem (unexpired _ mem)
  | case2 _ waiters flying =>
    change s.inFlight = some waiters at flying
    rw [flying] at accounts
    refine { served with accounts := ?_, flight := by simpa [flying] using served.flight }
    simpa using accounts
  | case3 => exact served.answered fst fun key own => by cases own
  | case4 _ landed rested =>
    change s.inFlight = none at landed
    rw [landed] at accounts
    have flight := served.flight
    rw [landed] at flight
    refine { served with
      accounts := by simpa using accounts
      flight := congrArg (· + 1) flight
      last := rfl
      begun := ?_
      spaced := pairwise_cons.mpr ⟨?_, served.spaced⟩ }
    · intro began mem
      rcases mem_cons.mp mem with rfl | old
      · exact Nat.le_of_eq on_time.symm
      · exact served.begun began old
    · -- The fetch before this one began at least five seconds ago, and the others before it.
      have last := served.last
      have spaced := served.spaced
      have begun := served.begun
      cases begins : s.begins with
      | nil => exact fun _ mem => absurd mem not_mem_nil
      | cons pre others =>
        rw [begins, head?_cons] at last
        rw [begins] at spaced begun
        have past := begun pre mem_cons_self
        have elapsed : pre + jwksCooldown ≤ now := by
          simp only [last, any_some, decide_eq_true_eq] at rested
          omega
        intro earlier mem
        rcases mem_cons.mp mem with rfl | older
        · exact elapsed
        · have apart := List.rel_of_pairwise_cons spaced older
          omega

/-- The fetch in flight has ended, and every waiter is told. -/
theorem Served.landed {waiters : List JwksRequest} {cache : JwksCache}
    {keys : Option (Entries Text VerifyingKey)} {told : JwksRequest → JwksAnswer}
    (flying : s.inFlight = some waiters) (few : cache.length ≤ jwksCacheLimit)
    (fresh : ∀ en ∈ cache, ∃ fetch ∈ (now, keys) :: s.fetches, ∃ keys, fetch.2 = some keys ∧
      (en.1, en.2.key) ∈ keys ∧ en.2.expiresAt = fetch.1 + jwksCacheTtl)
    (numbers : ∀ req, (told req).number = req.number)
    (cur : ∀ req ∈ waiters, ∀ key, (told req).result = .ok key →
      ∃ fetch ∈ (now, keys) :: s.fetches, ∃ keys kid, fetch.2 = some keys ∧ (kid, key) ∈ keys ∧
        (told req).now < fetch.1 + jwksCacheTtl) : Served { s with
      cache := cache, inFlight := none, answers := s.answers ++ waiters.map told
      fetches := (now, keys) :: s.fetches } := by
  have accounts := served.accounts
  have flight := served.flight
  rw [flying] at accounts flight
  refine { served with few := few, fresh := fresh, accounts := ?_, flight := flight, current := ?_ }
  · have same : waiters.map (JwksAnswer.number ∘ told) = waiters.map JwksRequest.number :=
      map_congr_left fun req _ => numbers req
    simpa [same] using accounts
  · intro ans mem key own
    rcases mem_append.mp mem with old | new
    · obtain ⟨fetch, there, holds⟩ := served.current ans old key own
      exact ⟨fetch, mem_cons_of_mem _ there, holds⟩
    · obtain ⟨req, waits, rfl⟩ := mem_map.mp new
      exact cur req waits key own

theorem Served.complete {waiters : List JwksRequest} {victims : List Text} {keys : Option (Entries Text VerifyingKey)}
    (flying : s.inFlight = some waiters)
    (completed : s.complete now waiters victims keys = some next) : next.Served := by
  cases keys with
  | none =>
    cases completed
    refine served.landed flying served.few ?_ (fun _ => rfl) (fun _ _ key own => by cases own)
    intro en mem
    obtain ⟨fetch, there, holds⟩ := served.fresh en mem
    exact ⟨fetch, mem_cons_of_mem _ there, holds⟩
  | some keys =>
    obtain ⟨cache, inserted, rfl⟩ := map_eq_some_iff.mp completed
    have fresh : ∀ en ∈ cache, now < en.2.expiresAt ∧
        ∃ fetch ∈ (now, some keys) :: s.fetches, ∃ keys, fetch.2 = some keys ∧
          (en.1, en.2.key) ∈ keys ∧ en.2.expiresAt = fetch.1 + jwksCacheTtl := by
      intro en mem
      rcases JwksCache.Inserts.mem ⟨victims, inserted⟩ mem with old | ⟨own, expires⟩
      · obtain ⟨pre, unexpired⟩ := mem_filter.mp old
        obtain ⟨fetch, there, holds⟩ := served.fresh en pre
        exact ⟨of_decide_eq_true unexpired, fetch, mem_cons_of_mem _ there, holds⟩
      · refine ⟨?_, _, mem_cons_self, keys, rfl, own, expires⟩
        rw [expires]
        exact Nat.lt_add_of_pos_right (by decide)
    refine served.landed flying ?_ (fun en mem => (fresh en mem).2) (fun _ => rfl) ?_
    · have few : (pruneJwksCache s.cache now).length ≤ jwksCacheLimit :=
        Nat.le_trans (length_filter_le _ _) served.few
      have bounded := JwksCache.Inserts.length ⟨victims, inserted⟩
      rwa [Nat.max_eq_left few] at bounded
    · intro req waits key own
      cases fnd : cache.get req.kid with
      | none =>
        simp only [JwksAggregator.answer, fnd] at own
        cases own
      | some en =>
        simp only [JwksAggregator.answer, fnd, elim_some, Except.ok.injEq] at own
        subst own
        obtain ⟨unexpired, fetch, there, keys, gave, mem, expires⟩ := fresh _ (Entries.mem_of_get fnd)
        exact ⟨fetch, there, keys, req.kid, gave, mem, expires ▸ unexpired⟩

theorem Served.step {call : JwksCall} (hs : s.step call = some next) : next.Served := by
  revert hs
  fun_cases JwksAggregator.step s call with
  | case2 =>
    rintro ⟨⟩
    refine { served with accounts := ?_ }
    rw [range_succ]
    simpa using served.accounts.append_right [s.sent]
  | case3 => rintro ⟨⟩; exact { served with }
  | case5 _ hr =>
    rintro ⟨⟩
    have later := Nat.not_lt.mp fun early => hr (.inl early)
    exact { served with begun := fun began mem => Nat.le_trans (served.begun began mem) later }
  | case7 _ hr _ _ fst =>
    rintro ⟨⟩
    have later := Nat.not_lt.mp fun early => hr (.inl early)
    exact (served.prune later).handle fst rfl fun en mem =>
      of_decide_eq_true (mem_filter.mp mem).2
  | case10 now _ _ late _ flying =>
    have begun := fun began mem => Nat.le_trans (served.begun began mem) (Nat.not_lt.mp late)
    have at_now : Served { s with clock := now } := { served with begun := begun }
    exact at_now.complete flying
  | _ => rintro ⟨⟩

end

theorem served_start : Served {} :=
  ⟨Nat.zero_le _, List.Perm.nil, rfl, rfl, fun _ mem => absurd mem not_mem_nil, List.Pairwise.nil,
    fun _ mem => absurd mem not_mem_nil, fun _ mem => absurd mem not_mem_nil⟩

/-- One fetch at a time, five seconds between two of them, one answer to every request once
nothing is left to wait for, few keys, and no answer with a key that is five minutes old. -/
theorem jwks_single_flight {calls : List JwksCall} {last : JwksAggregator} {replies : List Unit}
    (ran : jwksMachine.run {} calls = some (last, replies)) :
    last.begins.length ≤ last.fetches.length + 1 ∧
    (last.begins.Pairwise fun later earlier => earlier + jwksCooldown ≤ later) ∧
    (last.answers.map JwksAnswer.number).Nodup ∧
    (last.inFlight = none → last.queue = [] → ∀ number, number < last.sent →
      ∃ answer ∈ last.answers, answer.number = number) ∧
    last.cache.length ≤ jwksCacheLimit ∧
    ∀ answer ∈ last.answers, ∀ key, answer.result = .ok key →
      ∃ fetch ∈ last.fetches, ∃ keys kid, fetch.2 = some keys ∧ (kid, key) ∈ keys ∧
        answer.now < fetch.1 + jwksCacheTtl := by
  have served : last.Served := by
    refine jwksMachine.run_keeps (motive := Served) served_start ?_ ran
    intro _ _ _ _ served stepped
    obtain ⟨_, made, ⟨⟩⟩ := map_eq_some_iff.mp stepped
    exact served.step made
  refine ⟨?_, served.spaced, ?_, ?_, served.few, served.current⟩
  · rw [served.flight]
    cases last.inFlight <;> simp
  · have numbers := served.accounts.nodup_iff.mpr nodup_range
    exact (nodup_append.mp (nodup_append.mp numbers).1).1
  · intro landed empty number sent
    have accounts := served.accounts
    rw [landed, empty, map_nil, append_nil, getD_none, map_nil, append_nil] at accounts
    exact mem_map.mp (accounts.mem_iff.mpr (mem_range.mpr sent))

/-- A fetch for one request, which gives the key that a second request then finds. -/
def fetchOnce : List JwksCall :=
  [.send ['k'], .receive 0, .complete 1 (some [(['k'], Vector.replicate 32 7)]) [], .send ['k'], .receive 2]

theorem jwks_single_flight_once : ∃ last replies, jwksMachine.run {} fetchOnce = some (last, replies) ∧
    last.begins = [0] ∧ last.inFlight = none ∧ last.queue = [] ∧
    (last.answers.map JwksAnswer.number).Nodup ∧
    ∃ answer ∈ last.answers, answer.number = 1 := by
  refine Machine.exists_run (fun ran => (ran.1.begins, ran.1.inFlight, ran.1.queue, ran.1.sent))
    ([0], none, [], 2) (by decide +kernel) fun last replies ran same => ?_
  simp only [Prod.mk.injEq] at same
  obtain ⟨begins, landed, empty, _⟩ := same
  obtain ⟨-, -, once, everyone, -⟩ := jwks_single_flight ran
  exact ⟨begins, landed, empty, once, everyone landed empty 1 (by omega)⟩

end JwksAggregator

end SplRust.Bridge
