import SplRust.Transport.CoordinatorEffects

/-! Runs of the coordinator as far as keepalive sees them: ticks of `handle_keepalive` and reads, after
which `coordinator_task` forgets the probe and the misses. -/

namespace SplRust.Transport
open SplRust.Lib SplRust.Core

/-- The writer with its queue as a tick finds it, and what `handle_read` leaves when it succeeds. -/
inductive KeepaliveCall where
  | tick (now : Nat) (writer : CoordinatorWriter)
  | read (handled : Coordinator)

def CoordinatorWriter.Accepts (writer : CoordinatorWriter) : Prop :=
  writer.hasRoom = true ∧ writer.receiving = true ∧ writer.queue.length < writerQueue

instance (writer : CoordinatorWriter) : Decidable writer.Accepts := inferInstanceAs (Decidable (_ ∧ _ ∧ _))

namespace Coordinator

/-- A tick returns the packets it sends. -/
def keepaliveStep (cfg : KeepaliveConfig) (coord : Coordinator) :
    KeepaliveCall → Option (Coordinator × List WriterPacket)
  | .tick now writer =>
    let out := { coord with writer := writer }.handleKeepalive cfg now
    match out.2 with
    | .ok _ => if writer.Accepts then some (out.1, out.1.writer.queue.drop writer.queue.length) else none
    | .error _ => none
  | .read handled => some ({ handled with outstanding := none, missed := 0 }, [])

def keepaliveMachine (cfg : KeepaliveConfig) : Machine Coordinator KeepaliveCall (List WriterPacket) where
  step := keepaliveStep cfg

/-- When probes were sent since the last read. -/
def probesSince (sent : List Nat) : KeepaliveCall × List WriterPacket → List Nat
  | (.read _, _) => []
  | (.tick now _, ps) => if ps = [] then sent else sent ++ [now]

def probes (calls : List KeepaliveCall) (replies : List (List WriterPacket)) : List Nat :=
  (calls.zip replies).foldl probesSince []

variable {coord next : Coordinator} {cfg : KeepaliveConfig} {now : Nat} {sent : List Nat} {call : KeepaliveCall}
  {ps : List WriterPacket}

/-- Every probe counted as missed was sent since the last read, and before the deadline of the last one. -/
def Watched (cfg : KeepaliveConfig) (coord : Coordinator) (sent : List Nat) : Prop :=
  match coord.outstanding with
  | none => coord.missed = 0 ∧ sent = []
  | some probe => coord.missed < sent.length ∧ ∀ time ∈ sent, time + cfg.deadline ≤ probe.deadline

/-- One PING goes out, with its deadline. -/
structure Probed (cfg : KeepaliveConfig) (coord : Coordinator) (now : Nat) (out : Outcome) : Prop where
  ok : out.2 = .ok ()
  missed : out.1.missed = coord.missed
  outstanding : ∃ nonce, out.1.outstanding = some ⟨nonce, now + cfg.deadline⟩
  queue : ∃ packet, out.1.writer.queue = coord.writer.queue ++ [packet]

theorem sendProbe_accepted (cfg : KeepaliveConfig) (now : Nat) (accepts : coord.writer.Accepts) :
    Probed cfg coord now (coord.sendProbe cfg now) := by
  obtain ⟨room, receiving, short⟩ := accepts
  have sends : ∀ nextNonce bytes, ({ coord with nextNonce := nextNonce } : Coordinator).sendWriter bytes [] =
      ({ coord with
        nextNonce := nextNonce
        writer := { coord.writer with
          queue := coord.writer.queue ++ [⟨bytes, []⟩], inflight := coord.writer.inflight + 1 } }, .ok ()) := by
    intro nextNonce bytes
    simp [sendWriter, room, receiving, Nat.not_le.mpr short]
  simp only [sendProbe, sendFrame, Frame.encode_eq_ok (controlPing_encodable coord.nextNonce), sends]
  exact ⟨rfl, rfl, ⟨_, rfl⟩, ⟨_, rfl⟩⟩

theorem Probed.watched {out : Outcome} (probed : Probed cfg coord now out) (few : coord.missed ≤ sent.length)
    (passed : ∀ time ∈ sent, time + cfg.deadline ≤ now) :
    Watched cfg out.1 (probesSince sent (.tick now coord.writer,
      out.1.writer.queue.drop coord.writer.queue.length)) := by
  obtain ⟨-, missed, ⟨nonce, outstanding⟩, ⟨packet, queue⟩⟩ := probed
  rw [Watched, outstanding, probesSince, queue, List.drop_left, if_neg (List.cons_ne_nil _ _), missed]
  refine ⟨by simpa using Nat.lt_succ_of_le few, ?_⟩
  simp only [List.mem_append, List.mem_singleton]
  rintro time (old | rfl)
  · exact Nat.le_add_right_of_le (passed time old)
  · exact Nat.le_refl _

/-- A tick keeps the account of the probes, or fails because all of them went unanswered. -/
theorem handleKeepalive_watched (watched : Watched cfg coord sent) (accepts : coord.writer.Accepts)
    {out : Outcome} (handled : coord.handleKeepalive cfg now = out) :
    (out.2 = .ok () ∧ Watched cfg out.1 (probesSince sent (.tick now coord.writer,
        out.1.writer.queue.drop coord.writer.queue.length))) ∨
      out.2 = .error keepaliveFailed ∧ cfg.maxMissed ≤ sent.length ∧ ∀ time ∈ sent, time + cfg.deadline ≤ now := by
  subst handled
  unfold handleKeepalive
  rw [Watched] at watched
  split
  next idle =>
    rw [idle] at watched
    obtain ⟨fresh, rfl⟩ := watched
    have probed := sendProbe_accepted cfg now accepts
    exact .inl ⟨probed.ok, probed.watched (Nat.le_of_eq fresh) (by simp)⟩
  next probe outstanding =>
    rw [outstanding] at watched
    obtain ⟨few, early⟩ := watched
    split
    · refine .inl ⟨rfl, ?_⟩
      rw [List.drop_length, probesSince, if_pos rfl, Watched, outstanding]
      exact ⟨few, early⟩
    next late =>
      have passed : ∀ time ∈ sent, time + cfg.deadline ≤ now :=
        fun time mem => Nat.le_trans (early time mem) (Nat.not_lt.mp late)
      have counted : saturatingAdd32 coord.missed 1 ≤ sent.length := Nat.le_trans (Nat.min_le_left ..) few
      dsimp only
      split
      next many => exact .inr ⟨rfl, Nat.le_trans many counted, passed⟩
      · have probed : Probed cfg { coord with missed := saturatingAdd32 coord.missed 1 } now _ :=
          sendProbe_accepted cfg now accepts
        exact .inl ⟨probed.ok, probed.watched counted passed⟩

/-- `handle_keepalive` fails only after so many probes since the last read, or the start, whose deadlines passed. -/
theorem keepalive_fails {start last failed : Coordinator} {calls : List KeepaliveCall}
    {replies : List (List WriterPacket)} {writer : CoordinatorWriter} {error : TransportError}
    (idle : start.outstanding = none) (fresh : start.missed = 0)
    (ran : (keepaliveMachine cfg).run start calls = some (last, replies)) (accepts : writer.Accepts)
    (fails : { last with writer := writer }.handleKeepalive cfg now = (failed, .error error)) :
    cfg.maxMissed ≤ (probes calls replies).length ∧ ∀ time ∈ probes calls replies, time + cfg.deadline ≤ now := by
  have account : calls.length = replies.length ∧ Watched cfg last (probes calls replies) := by
    refine Machine.run_history _ (motive := fun coord calls replies =>
      calls.length = replies.length ∧ Watched cfg coord (probes calls replies)) ?_ ?_ ran
    · rw [Watched, idle]
      exact ⟨rfl, fresh, rfl⟩
    · rintro coord calls replies call next ps ⟨lengths, watched⟩ stepped
      refine ⟨by simp [lengths], ?_⟩
      rw [probes, List.zip_append lengths, List.foldl_append]
      change Watched cfg next (probesSince (probes calls replies) (call, ps))
      cases call with
      | read handled =>
        cases stepped
        exact ⟨rfl, rfl⟩
      | tick now writer =>
        revert stepped
        change keepaliveStep cfg coord (.tick now writer) = _ → _
        rw [keepaliveStep]
        split
        next ok =>
          intro stepped
          obtain ⟨accepts, ⟨⟩⟩ := Option.ite_none_right_eq_some.mp stepped
          have kept : Watched cfg { coord with writer := writer } (probes calls replies) := watched
          rcases handleKeepalive_watched kept accepts rfl with ⟨-, kept⟩ | ⟨error, -⟩
          · exact kept
          · cases ok.symm.trans error
        · rintro ⟨⟩
  have kept : Watched cfg { last with writer := writer } (probes calls replies) := account.2
  rcases handleKeepalive_watched kept accepts fails with ⟨⟨⟩, -⟩ | ⟨-, unanswered⟩
  exact unanswered

/-- One probe is sent and not answered. -/
theorem keepalive_fails_unanswered : ∃ last replies,
    (keepaliveMachine ⟨10, 1⟩).run {} [.tick 0 {}] = some (last, replies) ∧
    ({ last with writer := {} }.handleKeepalive ⟨10, 1⟩ 10).2.toBool = false ∧
    1 ≤ (probes [.tick 0 {}] replies).length ∧ ∀ time ∈ probes [.tick 0 {}] replies, time + 10 ≤ 10 := by
  refine Machine.exists_run (fun ran => ({ ran.1 with writer := {} }.handleKeepalive ⟨10, 1⟩ 10).2.toBool) false
    (by decide +kernel) fun last replies ran fails => ⟨fails, ?_⟩
  generalize out : { last with writer := {} }.handleKeepalive ⟨10, 1⟩ 10 = result at fails
  obtain ⟨failed, error | ok⟩ := result
  · exact keepalive_fails rfl rfl ran (by decide) out
  · cases fails

end Coordinator

end SplRust.Transport
