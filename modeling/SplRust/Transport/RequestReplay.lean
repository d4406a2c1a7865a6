import Mathlib.Data.List.Count
import SplRust.Transport.Client

/-! How often a request dials and writes. Every part of `request` adds dials behind those made
before; while it goes on, none of them was written on if a replay is forbidden. -/

namespace SplRust.Transport
open List
variable {replay : ReplayPolicy} {prog after : Progress} {loop next : RelayLoop} {result : RequestResult}

variable (world : RequestWorld)

/-- A request that may still dial. -/
structure Progress.Going (progress : Progress) (replay : ReplayPolicy) : Prop where
  counted : progress.attempts = progress.dials.length
  unwritten : replay = .forbidAfterWrite → ∀ dial ∈ progress.dials, dial.wrote = false

/-- A request that has returned. -/
structure Progress.Settled (progress : Progress) (replay : ReplayPolicy) (result : RequestResult) : Prop where
  once : replay = .forbidAfterWrite → (progress.dials.filter Dial.wrote).length ≤ 1
  counted : ∀ res, result = .ok res → res.attempts = progress.dials.length

namespace Progress
variable {prog next : Progress} {endpoint : Option EndpointAddr} {res : Except TransportError Exchange}
variable {replay : ReplayPolicy}

theorem new_going (replay : ReplayPolicy) : ({} : Progress).Going replay := ⟨rfl, by simp⟩

theorem Going.filter_eq (going : prog.Going replay) (forbid : replay = .forbidAfterWrite) :
    prog.dials.filter Dial.wrote = [] := by
  rw [filter_eq_nil_iff]
  intro dial made
  simp [going.unwritten forbid dial made]

theorem Going.settled (going : prog.Going replay)
    (counted : ∀ res, result = .ok res → res.attempts = prog.attempts) :
    prog.Settled replay result :=
  ⟨fun forbid => by simp [going.filter_eq forbid], fun res ok => (counted res ok).trans going.counted⟩

theorem dialed_some (dialed : prog.dialed endpoint res = some next) : next = { prog with
      attempts := prog.attempts + 1
      dials := prog.dials ++ [⟨endpoint, wroteOn res⟩] } := by
  unfold Progress.dialed at dialed
  split at dialed
  · exact (Option.some.inj dialed).symm
  · cases dialed

section
variable (going : prog.Going replay)
include going

theorem Going.dialed_settled (dialed : prog.dialed endpoint res = some next)
    (counted : ∀ res, result = .ok res → res.attempts = next.attempts) : next.Settled replay result := by
  obtain rfl := dialed_some dialed
  refine ⟨fun forbid => ?_, fun res ok => ?_⟩
  · rw [filter_append, going.filter_eq forbid]
    exact length_filter_le _ _
  · rw [counted res ok, length_append, going.counted]
    rfl

theorem Going.dialed_going (dialed : prog.dialed endpoint res = some next)
    (unwritten : replay = .forbidAfterWrite → wroteOn res = false) : next.Going replay := by
  obtain rfl := dialed_some dialed
  refine ⟨by simp [going.counted], fun forbid dial made => ?_⟩
  rcases mem_append.mp made with pre | now
  · exact going.unwritten forbid dial pre
  · rw [mem_singleton.mp now]
    exact unwritten forbid

theorem Going.lanFailed (error : TransportError) : (prog.lanFailed error).Going replay :=
  ⟨going.counted, going.unwritten⟩

end

end Progress

theorem Exchange.unwritten {exchange : Exchange} (unstarted : ¬ exchange.writeStarted replay = true)
    (forbid : replay = .forbidAfterWrite) : exchange.wrote = false := by
  subst forbid
  simpa [Exchange.writeStarted] using unstarted

/-- A part of a request: it adds dials to these endpoints, in this order and perhaps not to all
of them if it returns. -/
inductive DirectSpec (replay : ReplayPolicy) (before : Progress) (endpoints : List EndpointAddr) :
    RequestTurn → Prop where
  | goes (after : Progress) (used : List Dial) (dials : after.dials = before.dials ++ used)
      (targets : used.map Dial.endpoint = endpoints.map some) (going : after.Going replay) :
      DirectSpec replay before endpoints (.goes after)
  | returns (after : Progress) (result : RequestResult) (used : List Dial)
      (dials : after.dials = before.dials ++ used)
      (targets : used.map Dial.endpoint <+: endpoints.map some)
      (settled : after.Settled replay result) :
      DirectSpec replay before endpoints (.returns after result)

theorem directDial_spec (endpoint : EndpointAddr) (going : prog.Going replay) :
    DirectSpec replay prog [endpoint] (directDial world replay endpoint prog) := by
  unfold directDial
  dsimp only
  cases dialed : prog.dialed (some endpoint) (world.dial prog.dials.length) with
  | none => exact .returns _ _ [] (append_nil _).symm ( nil_prefix) (going.settled (by simp))
  | some next =>
    have dials : next.dials = prog.dials ++ [⟨some endpoint, wroteOn (world.dial prog.dials.length)⟩] := by
      rw [Progress.dialed_some dialed]
    have stops (result : RequestResult) (counted : ∀ res, result = .ok res → res.attempts = next.attempts) :
        DirectSpec replay prog [endpoint] (.returns next result) :=
      .returns _ _ _ dials prefix_rfl (going.dialed_settled dialed counted)
    have proceeds (error : TransportError) (unwritten : replay = .forbidAfterWrite →
          wroteOn (world.dial prog.dials.length) = false) :
        DirectSpec replay prog [endpoint] (.goes (next.lanFailed error)) :=
      .goes _ _ dials rfl ((going.dialed_going dialed unwritten).lanFailed error)
    dsimp only
    split
    next error failed => exact proceeds error fun _ => by rw [failed]; rfl
    next exchange connected =>
      split
      next response _ => exact stops _ fun res ok => by rw [← Except.ok.inj ok]
      · split
        · exact stops _ (by simp)
        · split
          · exact stops _ (by simp)
          next unstarted =>
            exact proceeds _ fun forbid => by
              rw [connected]
              exact Exchange.unwritten unstarted forbid

theorem DirectSpec.continue {pre middle : Progress} {endpoints more : List EndpointAddr}
    {turn : RequestTurn} (fst : DirectSpec replay pre endpoints (.goes middle))
    (snd : DirectSpec replay middle more turn) : DirectSpec replay pre (endpoints ++ more) turn := by
  cases fst with
  | goes _ used dials targets =>
    cases snd with
    | goes after later laterDials laterTargets going =>
      refine .goes after (used ++ later) ?_ ?_ going
      · rw [laterDials, dials, append_assoc]
      · rw [map_append, map_append, targets, laterTargets]
    | returns after result later laterDials laterTargets settled =>
      refine .returns after result (used ++ later) ?_ ?_ settled
      · rw [laterDials, dials, append_assoc]
      · rw [map_append, map_append, targets]
        exact (prefix_append_right_inj _).mpr laterTargets

theorem DirectSpec.extend {pre : Progress} {endpoints : List EndpointAddr}
    (spec : DirectSpec replay pre endpoints (.returns after result))
    (more : List EndpointAddr) : DirectSpec replay pre (endpoints ++ more) (.returns after result) := by
  cases spec with
  | returns _ _ used dials targets settled =>
    refine .returns after result used dials ?_ settled
    rw [map_append]
    exact targets.trans (prefix_append _ _)

theorem directRound_spec (endpoints : List EndpointAddr) (going : prog.Going replay) :
    DirectSpec replay prog endpoints (directRound world replay endpoints prog) := by
  induction endpoints generalizing prog with
  | nil => exact .goes _ [] (append_nil _).symm rfl going
  | cons endpoint endpoints ih =>
    have fst := directDial_spec world endpoint going
    rw [directRound]
    cases turned : directDial world replay endpoint prog with
    | goes middle =>
      rw [turned] at fst
      have goes : middle.Going replay := by
        cases fst with
        | goes _ _ _ _ going => exact going
      exact fst.continue (ih goes)
    | returns =>
      rw [turned] at fst
      exact fst.extend endpoints

theorem directRounds_spec (endpoints : List EndpointAddr) (rounds : Nat)
    (going : prog.Going replay) : ∃ visited, visited <+: (List.replicate rounds endpoints).flatten ∧
      DirectSpec replay prog visited (directRounds world replay endpoints rounds prog) := by
  induction rounds generalizing prog with
  | zero => exact ⟨[], nil_prefix, .goes _ [] (append_nil _).symm rfl going⟩
  | succ rounds ih =>
    have fst := directRound_spec world endpoints going
    have within : endpoints <+: (List.replicate (rounds + 1) endpoints).flatten := by
      rw [replicate_succ, flatten_cons]
      exact prefix_append _ _
    rw [directRounds]
    cases turned : directRound world replay endpoints prog with
    | returns =>
      rw [turned] at fst
      exact ⟨endpoints, within, fst⟩
    | goes middle =>
      rw [turned] at fst
      dsimp only
      split
      · have goes : middle.Going replay := by
          cases fst with
          | goes _ _ _ _ going => exact going
        obtain ⟨visited, inside, later⟩ := ih goes
        refine ⟨endpoints ++ visited, ?_, fst.continue later⟩
        rw [replicate_succ, flatten_cons]
        exact (prefix_append_right_inj _).mpr inside
      · exact ⟨endpoints, within, fst⟩

theorem requestDialed_unwritten {res : Except TransportError Exchange}
    (again : requestDialed replay loop res = .again next) (forbid : replay = .forbidAfterWrite) :
    wroteOn res = false := by
  revert again
  fun_cases requestDialed replay loop res with
  | case4 _ _ _ _ _ unstarted => exact fun _ => Exchange.unwritten unstarted forbid
  | case6 | case7 | case8 | case9 => exact fun _ => rfl
  | _ => rintro ⟨⟩

theorem relayTurn_goes {world : RequestWorld} (going : prog.Going replay)
    (turned : relayTurn world replay loop prog = (after, .inl next)) :
    after.Going replay ∧ ∃ dial, after.dials = prog.dials ++ [dial] ∧ dial.endpoint = none := by
  revert turned
  fun_cases relayTurn world replay loop prog with
  | case5 _ _ _ _ dialed _ again =>
    rintro ⟨⟩
    have dials := congrArg Progress.dials (Progress.dialed_some dialed)
    exact ⟨going.dialed_going dialed (requestDialed_unwritten again), _, dials, rfl⟩
  | case7 _ _ res _ dialed refresh =>
    rintro ⟨⟩
    have dials := congrArg Progress.dials (Progress.dialed_some dialed)
    have unwritten : wroteOn res = false := by
      rw [(requestDialed_refresh refresh).2]
      rfl
    exact ⟨going.dialed_going dialed fun _ => unwritten, _, dials, rfl⟩
  | _ => rintro ⟨⟩

theorem relayTurn_returns {world : RequestWorld} (going : prog.Going replay)
    (turned : relayTurn world replay loop prog = (after, .inr result)) :
    after.Settled replay result ∧ ∃ used, after.dials = prog.dials ++ used ∧
      used.length ≤ 1 ∧ ∀ dial ∈ used, dial.endpoint = none := by
  have settled {reached : Progress} {res : Except TransportError Exchange} {result : RequestResult}
      (dialed : prog.dialed none res = some reached)
      (counted : ∀ res, result = .ok res → res.attempts = reached.attempts) :
      reached.Settled replay result ∧ ∃ used, reached.dials = prog.dials ++ used ∧
        used.length ≤ 1 ∧ ∀ dial ∈ used, dial.endpoint = none :=
    ⟨going.dialed_settled dialed counted, _, congrArg Progress.dials (Progress.dialed_some dialed), by simp, by simp⟩
  revert turned
  fun_cases relayTurn world replay loop prog with
  | case1 | case2 =>
    rintro ⟨⟩
    exact ⟨going.settled (by simp), [], (append_nil _).symm, by simp, by simp⟩
  | case3 _ _ _ _ dialed =>
    rintro ⟨⟩
    exact settled dialed fun res ok => by rw [← Except.ok.inj ok]
  | case4 _ _ _ _ dialed | case6 _ _ _ _ dialed =>
    rintro ⟨⟩
    exact settled dialed (by simp)
  | _ => rintro ⟨⟩

theorem RelayLoop.Advances.few (advances : loop.Advances next)
    (few : loop.transientAttempt < relayMaxTransientAttempts) : next.transientAttempt < relayMaxTransientAttempts := by
  cases advances with
  | retried fewer => exact fewer
  | refreshed => exact few

/-- The dials left bound the dials made. -/
theorem relayLoop_spec (loop : RelayLoop) (going : prog.Going replay)
    (few : loop.transientAttempt < relayMaxTransientAttempts) : (relayLoop world replay loop prog).1.Settled replay
        (relayLoop world replay loop prog).2 ∧
      ∃ used, (relayLoop world replay loop prog).1.dials = prog.dials ++ used ∧
        used.length ≤ loop.dialsLeft ∧ ∀ dial ∈ used, dial.endpoint = none := by
  -- Each turn that goes on uses up one of the dials left, and the last turn makes at most one.
  induction size : loop.dialsLeft generalizing loop prog with
  | zero =>
    simp only [RelayLoop.dialsLeft] at size
    omega
  | succ size ih =>
    rw [relayLoop]
    split
    next after result turned =>
      obtain ⟨settled, used, dials, _, relayed⟩ := relayTurn_returns going turned
      exact ⟨settled, used, dials, by omega, relayed⟩
    next after next turned =>
      have advances := relayTurn_advances turned
      have fewer := advances.dialsLeft
      obtain ⟨goes, dial, dials, toRelay⟩ := relayTurn_goes going turned
      obtain ⟨settled, used, later, _, relayed⟩ := ih next goes (advances.few few) (by omega)
      refine ⟨settled, dial :: used, ?_, ?_, ?_⟩
      · rw [later, dials, append_assoc]
        rfl
      · rw [length_cons]
        omega
      · exact forall_mem_cons.mpr ⟨toRelay, relayed⟩

/-- What `request` comes to: the direct dials first, in rounds over the endpoints, then those to
the relay. -/
theorem request_spec (client : TransportClient) (replay : ReplayPolicy) (world : RequestWorld) :
    (client.request replay world).1.Settled replay (client.request replay world).2 ∧
      ∃ direct relayed, (client.request replay world).1.dials = direct ++ relayed ∧ direct.map Dial.endpoint <+:
          (List.replicate maxAttempts client.endpoints).flatten.map some ∧
        relayed.length ≤ 6 ∧ ∀ dial ∈ relayed, dial.endpoint = none := by
  obtain ⟨_, inside, spec⟩ := directRounds_spec world client.endpoints maxAttempts (Progress.new_going replay)
  unfold TransportClient.request
  generalize directRounds world replay client.endpoints maxAttempts {} = turn at spec
  cases spec with
  | returns _ _ used dials targets settled =>
    exact ⟨settled, used, [], by rw [dials, append_nil]; rfl, targets.trans (inside.map some), by simp, by simp⟩
  | goes after used dials targets going =>
    have direct : used.map Dial.endpoint <+: (List.replicate maxAttempts client.endpoints).flatten.map some := by
      rw [targets]
      exact inside.map some
    have stops (error : RequestError) : after.Settled replay (.error (.error error)) ∧
          ∃ direct relayed, after.dials = direct ++ relayed ∧ direct.map Dial.endpoint <+:
              (List.replicate maxAttempts client.endpoints).flatten.map some ∧
            relayed.length ≤ 6 ∧ ∀ dial ∈ relayed, dial.endpoint = none :=
      ⟨going.settled (by simp), used, [], by rw [dials, append_nil]; rfl, direct, by simp, by simp⟩
    dsimp only
    split
    · exact stops _
    · split
      · exact stops _
      · split
        · exact stops _
        · split
          · exact stops _
          · obtain ⟨settled, relayed, later, within, toRelay⟩ := relayLoop_spec world {} going (by decide)
            exact ⟨settled, used, relayed, by rw [later, dials]; rfl, direct, within, toRelay⟩

theorem count_flatten_replicate {α : Type} [DecidableEq α] (times : Nat) (ens : List α)
    (entry : α) : (List.replicate times ens).flatten.count entry = times * ens.count entry := by
  simp [count_flatten]

/-- A request dials each endpoint at most five times for each time it is listed, and the relay at
most six times. It counts its dials, and unless a replay is safe it writes on at most one of the
connections. -/
theorem request_writes_once (client : TransportClient) (replay : ReplayPolicy) (world : RequestWorld) :
    (replay = .forbidAfterWrite → ((client.request replay world).1.dials.filter Dial.wrote).length ≤ 1) ∧
      (∀ endpoint, ((client.request replay world).1.dials.map Dial.endpoint).count (some endpoint) ≤
        5 * client.endpoints.count endpoint) ∧
      ((client.request replay world).1.dials.map Dial.endpoint).count none ≤ 6 ∧
      (client.request replay world).1.dials.length ≤ 5 * client.endpoints.length + 6 ∧
      ∀ outcome, (client.request replay world).2 = .ok outcome →
        outcome.attempts = (client.request replay world).1.dials.length := by
  obtain ⟨settled, direct, relayed, dials, targets, few, toRelay⟩ := request_spec client replay world
  have relayEndpoints : relayed.map Dial.endpoint = List.replicate relayed.length none := by
    rw [eq_replicate_iff]
    simpa using toRelay
  refine ⟨settled.once, fun endpoint => ?_, ?_, ?_, settled.counted⟩
  · rw [dials, map_append, count_append, relayEndpoints, count_replicate]
    have bound := targets.sublist.count_le (some endpoint)
    rw [count_map_of_injective _ _ fun _ _ same => Option.some.inj same] at bound
    rw [count_flatten_replicate, maxAttempts] at bound
    simpa using bound
  · rw [dials, map_append, count_append, relayEndpoints, count_replicate]
    have none_direct : (direct.map Dial.endpoint).count none = 0 := by
      rw [count_eq_zero]
      intro listed
      simpa using targets.subset listed
    simpa [none_direct] using few
  · have bound := targets.length_le
    rw [dials, length_append]
    simp [maxAttempts] at bound
    omega

/-- One endpoint that cannot be reached, and a relay that answers. -/
def relayedWorld : RequestWorld where
  dial made := if made < 5 then .error (.io .other "connection refused")
    else .ok { wrote := true, result := .ok ⟨200, [], []⟩ }
  relayIneligible := false
  relayIneligibleLater := false
  proactive := none
  fence _ := .ok ()
  refresh _ := .terminal

theorem request_writes_once_relayed :
    ((TransportClient.request ⟨[⟨"host".toList, 1⟩], some "relay".toList, true⟩ .forbidAfterWrite
        relayedWorld).1.dials.filter Dial.wrote).length ≤ 1 ∧
      (TransportClient.request ⟨[⟨"host".toList, 1⟩], some "relay".toList, true⟩ .forbidAfterWrite
        relayedWorld).1.dials.length = 6 := by
  have written := request_writes_once ⟨[⟨"host".toList, 1⟩], some "relay".toList, true⟩ .forbidAfterWrite relayedWorld
  have answered : (TransportClient.request ⟨[⟨"host".toList, 1⟩], some "relay".toList, true⟩
      .forbidAfterWrite relayedWorld).2 = .ok ⟨⟨200, [], []⟩, .relay, 6⟩ := by decide +kernel
  exact ⟨written.1 rfl, (written.2.2.2.2 _ answered).symm⟩

end SplRust.Transport
