import SplRust.Core.Frame
import SplRust.Lib.Entries
import SplRust.Lib.Machine
import SplRust.Lib.Numbered

/-! The nonces of proof-of-possession challenges (`NonceCache` and `NonceLease` of
`spl-bridge/src/pop_auth.rs`). Each method runs under the lock of the one cache that all leases
share; the nonces a generator draws and the clock readings are arguments. -/

namespace SplRust.Bridge
open SplRust.Lib SplRust.Core

inductive PopError where
  | io
  | messageTooLarge
  | invalidMessage
  | tokenRejected
  | hostnameMismatch
  | tokenTimeInvalid
  | challengeTimeInvalid
  | invalidProof
  | nonceReplay
  | randomness
  | nonceOutstandingCapacity
  | nonceSpentCapacity
  | nonceCollisionExhausted
  | jwksUrl
  | jwksTlsConfiguration
  | jwksUnavailable
  | jwksKeyUnavailable
  deriving DecidableEq, Repr

abbrev Nonce := Vector UInt8 16

open List Option Entries

def outstandingNonceLimit : Nat := 256
def spentNonceLimit : Nat := 4096
def nonceGenerationAttempts : Nat := 8

/-- The nonces with the times until which they are kept. -/
structure NonceCache where
  outstanding : Entries Nonce Nat := []
  spent : Entries Nonce Nat := []
  deriving DecidableEq, Repr

namespace NonceCache

variable (cache : NonceCache)

def prune (now : Nat) : NonceCache where
  outstanding := cache.outstanding.filter fun entry => entry.2 > now
  spent := cache.spent.filter fun entry => entry.2 > now

/-- The loop of `issue_with`; a draw that fails is `none`, and draws that are not given are not
made. -/
def draw (cache : NonceCache) : Nat → List (Option Nonce) → Option (Except PopError Nonce)
  | 0, _ => some (.error .nonceCollisionExhausted)
  | _ + 1, [] => none
  | _ + 1, none :: _ => some (.error .randomness)
  | attempts + 1, some nonce :: draws =>
      if (cache.outstanding.get nonce).isSome ∨ (cache.spent.get nonce).isSome then
        cache.draw attempts draws
      else some (.ok nonce)

def issue (now expiresAt : Nat) (draws : List (Option Nonce)) :
    Option (NonceCache × Except PopError Nonce) :=
  let cache := cache.prune now
  if cache.outstanding.length ≥ outstandingNonceLimit then
    some (cache, .error .nonceOutstandingCapacity)
  else
    (cache.draw nonceGenerationAttempts draws).map fun
      | .error error => (cache, .error error)
      | .ok nonce => ({ cache with outstanding := cache.outstanding.insert nonce expiresAt }, .ok nonce)

/-- `redeem_renewal`; `redeem` keeps the nonce until the time it was issued for. -/
def redeemRenewal (nonce : Nonce) (checkExpiresAt retainUntil now : Nat) :
    NonceCache × Except PopError Unit :=
  let cache := cache.prune now
  match cache.outstanding.get nonce with
  | none => (cache, .error .nonceReplay)
  | some expiresAt =>
      if expiresAt ≠ checkExpiresAt then (cache, .error .nonceReplay)
      else if cache.spent.length ≥ spentNonceLimit then (cache, .error .nonceSpentCapacity)
      else ({ outstanding := cache.outstanding.remove nonce
              spent := cache.spent.insert nonce retainUntil }, .ok ())

def redeem (nonce : Nonce) (expiresAt now : Nat) :
    NonceCache × Except PopError Unit := cache.redeemRenewal nonce expiresAt expiresAt now

end NonceCache

structure NonceLease where
  nonce : Nonce
  armed : Bool := true
  dropped : Bool := false
  deriving DecidableEq, Repr

structure Nonces where
  cache : NonceCache := {}
  leases : List NonceLease := []
  deriving DecidableEq, Repr

inductive NonceCall where
  | issue (now expiresAt : Nat) (draws : List (Option Nonce))
  | redeem (lease expiresAt now : Nat)
  | redeemAndExtend (lease checkExpiresAt retainUntil now : Nat)
  | drop (lease : Nat)
  deriving DecidableEq, Repr

/-- What a call returned. A redemption names its nonce and how long that is kept; `pruned` is the
time at which the call pruned the cache. -/
structure NonceReply where
  pruned : Option Nat
  result : Except PopError Unit := .ok ()
  redeemed : Option (Nonce × Nat) := none

namespace Nonces

def redeemWith (nonces : Nonces) (index checkExpiresAt retainUntil now : Nat) : Option (Nonces × NonceReply) :=
  match nonces.leases[index]? with
  | none => none
  | some lease =>
      if lease.dropped then none
      else if lease.armed = false then some (nonces, ⟨none, .error .nonceReplay, none⟩)
      else
        match nonces.cache.redeemRenewal lease.nonce checkExpiresAt retainUntil now with
        | (cache, .error error) => some ({ nonces with cache := cache }, ⟨some now, .error error, none⟩)
        | (cache, .ok ()) =>
            some (⟨cache, nonces.leases.set index { lease with armed := false }⟩,
              ⟨some now, .ok (), some (lease.nonce, retainUntil)⟩)

/-- `none` if there is no such lease, or a nonce that is not drawn would be needed. -/
def step (nonces : Nonces) : NonceCall → Option (Nonces × NonceReply)
  | .issue now expiresAt draws =>
      match nonces.cache.issue now expiresAt draws with
      | none => none
      | some (cache, .error error) => some ({ nonces with cache := cache }, ⟨some now, .error error, none⟩)
      | some (cache, .ok nonce) => some (⟨cache, nonces.leases ++ [{ nonce := nonce }]⟩, { pruned := some now })
  | .redeem index expiresAt now => nonces.redeemWith index expiresAt expiresAt now
  | .redeemAndExtend index checkExpiresAt retainUntil now => nonces.redeemWith index checkExpiresAt retainUntil now
  | .drop index =>
      match nonces.leases[index]? with
      | none => none
      | some lease =>
          if lease.dropped then none
          else
            let leases := nonces.leases.set index { lease with dropped := true }
            if lease.armed then
              some (⟨{ nonces.cache with outstanding := nonces.cache.outstanding.remove lease.nonce }, leases⟩,
                { pruned := none })
            else some ({ nonces with leases := leases }, { pruned := none })

end Nonces

def nonceMachine : Machine Nonces NonceCall NonceReply where
  step := Nonces.step

/-- What one call does. -/
inductive NonceEffect (nonces : Nonces) : Nonces → NonceReply → Prop where
  | refused (error : PopError) : NonceEffect nonces nonces ⟨none, .error error, none⟩
  | pruned (now : Nat) (error : PopError) : NonceEffect nonces { nonces with cache := nonces.cache.prune now }
        ⟨some now, .error error, none⟩
  | issued (now expiresAt : Nat) (nonce : Nonce)
      (room : (nonces.cache.prune now).outstanding.length < outstandingNonceLimit)
      (unspent : (nonces.cache.prune now).spent.get nonce = none) :
      NonceEffect nonces ⟨{ nonces.cache.prune now with
            outstanding := (nonces.cache.prune now).outstanding.insert nonce expiresAt },
          nonces.leases ++ [{ nonce := nonce }]⟩ { pruned := some now }
  | redeemed (now retainUntil expiresAt index : Nat) (lease : NonceLease)
      (hp : nonces.leases[index]? = some lease)
      (there : (nonces.cache.prune now).outstanding.get lease.nonce = some expiresAt)
      (room : (nonces.cache.prune now).spent.length < spentNonceLimit) :
      NonceEffect nonces ⟨⟨(nonces.cache.prune now).outstanding.remove lease.nonce,
          (nonces.cache.prune now).spent.insert lease.nonce retainUntil⟩,
          nonces.leases.set index { lease with armed := false }⟩
        ⟨some now, .ok (), some (lease.nonce, retainUntil)⟩
  | dropped (index : Nat) (lease : NonceLease) (hp : nonces.leases[index]? = some lease)
      (outstanding : Entries Nonce Nat)
      (removed : outstanding = if lease.armed then
        nonces.cache.outstanding.remove lease.nonce else nonces.cache.outstanding) :
      NonceEffect nonces ⟨{ nonces.cache with outstanding := outstanding },
        nonces.leases.set index { lease with dropped := true }⟩ { pruned := none }

namespace Nonces
variable {nonces next : Nonces} {call : NonceCall} {reply : NonceReply}

theorem draw_fresh {cache : NonceCache} {attempts : Nat} {draws : List (Option Nonce)}
    {nonce : Nonce} (drawn : cache.draw attempts draws = some (.ok nonce)) : cache.spent.get nonce = none := by
  fun_induction NonceCache.draw cache attempts draws with
  | case4 _ _ _ _ ih => exact ih drawn
  | case5 _ _ _ fresh =>
    cases drawn
    exact not_isSome_iff_eq_none.mp fun spent => fresh (Or.inr spent)
  | _ => cases drawn

theorem issue_effect {now exp : Nat} {draws : List (Option Nonce)} {cache : NonceCache}
    {res : Except PopError Nonce} (issued : nonces.cache.issue now exp draws = some (cache, res)) :
    (∃ error, cache = nonces.cache.prune now ∧ res = .error error) ∨ ∃ nonce, res = .ok nonce ∧
        NonceEffect nonces ⟨cache, nonces.leases ++ [{ nonce := nonce }]⟩ { pruned := some now } := by
  simp only [NonceCache.issue] at issued
  split at issued
  · cases issued
    exact Or.inl ⟨_, rfl, rfl⟩
  next room =>
    obtain ⟨drawn, made, same⟩ := map_eq_some_iff.mp issued
    cases drawn with
    | error error =>
      cases same
      exact Or.inl ⟨error, rfl, rfl⟩
    | ok nonce =>
      cases same
      exact Or.inr ⟨nonce, rfl, .issued now exp nonce (Nat.not_le.mp room) (draw_fresh made)⟩

theorem redeemWith_effect {ix checkExpiresAt retainUntil now : Nat}
    (hs : nonces.redeemWith ix checkExpiresAt retainUntil now = some (next, reply)) :
    NonceEffect nonces next reply := by
  simp only [redeemWith] at hs
  split at hs
  · cases hs
  next lease hp =>
    split at hs
    · cases hs
    split at hs
    · cases hs
      exact .refused _
    simp only [NonceCache.redeemRenewal] at hs
    cases there : (nonces.cache.prune now).outstanding.get lease.nonce with
    | none =>
      rw [there] at hs
      cases hs
      exact .pruned now _
    | some exp =>
      simp only [there] at hs
      by_cases oid : exp ≠ checkExpiresAt
      · rw [if_pos oid] at hs
        cases hs
        exact .pruned now _
      rw [if_neg oid] at hs
      by_cases full : (nonces.cache.prune now).spent.length ≥ spentNonceLimit
      · rw [if_pos full] at hs
        cases hs
        exact .pruned now _
      · rw [if_neg full] at hs
        cases hs
        exact .redeemed now retainUntil exp ix lease hp there (Nat.not_le.mp full)

theorem step_effect (hs : nonces.step call = some (next, reply)) : NonceEffect nonces next reply := by
  revert hs
  fun_cases step nonces call with
  | case2 now _ _ _ error ans =>
    rintro ⟨⟩
    rcases issue_effect ans with ⟨error, rfl, same⟩ | ⟨nonce, same, -⟩
    · exact .pruned now _
    · cases same
  | case3 _ _ _ _ nonce ans =>
    rintro ⟨⟩
    rcases issue_effect ans with ⟨error, -, same⟩ | ⟨nonce, same, issued⟩
    · cases same
    · cases same
      exact issued
  | case4 | case5 => exact redeemWith_effect
  | case8 ix lease hp _ _ armed =>
    rintro ⟨⟩
    exact .dropped ix lease hp _ (by rw [if_pos armed])
  | case9 ix lease hp _ _ armed =>
    rintro ⟨⟩
    exact .dropped ix lease hp _ (by rw [if_neg armed])
  | _ => rintro ⟨⟩

/-- What holds of the cache and the leases after every call. -/
structure Sound (nonces : Nonces) : Prop where
  apart : ∀ nonce expiresAt retainUntil, (nonce, expiresAt) ∈ nonces.cache.outstanding →
    (nonce, retainUntil) ∉ nonces.cache.spent
  few : nonces.cache.outstanding.length ≤ outstandingNonceLimit
  spent : nonces.cache.spent.length ≤ spentNonceLimit
  held : ∀ en ∈ nonces.cache.outstanding, ∃ lease ∈ nonces.leases,
    lease.nonce = en.1 ∧ lease.armed = true ∧ lease.dropped = false

section
variable (sound : nonces.Sound)
include sound

theorem Sound.prune (now : Nat) : Sound { nonces with cache := nonces.cache.prune now } where
  apart nonce exp retainUntil issued redeemed :=
    sound.apart nonce exp retainUntil (mem_of_mem_filter issued) (mem_of_mem_filter redeemed)
  few := Nat.le_trans (length_filter_le _ _) sound.few
  spent := Nat.le_trans (length_filter_le _ _) sound.spent
  held en mem := sound.held en (mem_of_mem_filter mem)

/-- A lease that is changed was the last hold on its own nonce only. -/
theorem Sound.held_set {ix : Nat} {lease : NonceLease}
    (hp : nonces.leases[ix]? = some lease) (changed : NonceLease)
    {en : Nonce × Nat} (mem : en ∈ nonces.cache.outstanding)
    (oid : en.1 = lease.nonce → lease.armed = false) : ∃ kept ∈ nonces.leases.set ix changed,
      kept.nonce = en.1 ∧ kept.armed = true ∧ kept.dropped = false := by
  obtain ⟨kept, there, own, armed, undropped⟩ := sound.held en mem
  refine ⟨kept, ?_, own, armed, undropped⟩
  obtain ⟨place, fnd⟩ := getElem?_of_mem there
  have apart : ix ≠ place := by
    rintro rfl
    obtain rfl := some.inj (hp.symm.trans fnd)
    rw [oid own.symm] at armed
    cases armed
  exact mem_of_getElem? ((getElem?_set_ne apart).trans fnd)

theorem Sound.step (hs : nonces.step call = some (next, reply)) : next.Sound := by
  cases step_effect hs with
  | refused => exact sound
  | pruned now => exact sound.prune now
  | issued now exp _ room unspent =>
    have pruned := sound.prune now
    refine ⟨?_, ?_, pruned.spent, ?_⟩
    · intro oid exp retainUntil issued
      rcases mem_cons.mp issued with same | old
      · cases same
        exact not_mem_of_get unspent retainUntil
      · exact pruned.apart oid exp retainUntil (mem_remove.mp old).1
    · exact Nat.lt_of_le_of_lt (length_remove_le _ _) room
    · intro en mem
      rcases mem_cons.mp mem with rfl | old
      · exact ⟨_, mem_append_right _ (mem_singleton_self _), rfl, rfl, rfl⟩
      · obtain ⟨lease, there, holds⟩ := pruned.held en (mem_remove.mp old).1
        exact ⟨lease, mem_append_left _ there, holds⟩
  | redeemed now _ _ _ _ hp _ room =>
    have pruned := sound.prune now
    refine ⟨?_, Nat.le_trans (length_remove_le _ _) pruned.few, ?_, ?_⟩
    · intro oid issuedAt redeemedAt issued redeemed
      obtain ⟨old, ne⟩ := mem_remove.mp issued
      rcases mem_cons.mp redeemed with same | pre
      · cases same
        exact ne rfl
      · exact pruned.apart oid issuedAt redeemedAt old (mem_remove.mp pre).1
    · exact Nat.lt_of_le_of_lt (length_remove_le _ _) room
    · intro en mem
      obtain ⟨old, ne⟩ := mem_remove.mp mem
      exact pruned.held_set hp _ old fun same => absurd same ne
  | dropped _ lease hp outstanding removed =>
    have kept : ∀ en ∈ outstanding, en ∈ nonces.cache.outstanding ∧ (en.1 = lease.nonce → lease.armed = false) := by
      intro en mem
      rw [removed] at mem
      split at mem
      · obtain ⟨old, ne⟩ := mem_remove.mp mem
        exact ⟨old, fun same => absurd same ne⟩
      next unarmed => exact ⟨mem, fun _ => Bool.not_eq_true _ ▸ unarmed⟩
    refine ⟨?_, ?_, sound.spent, ?_⟩
    · exact fun nonce exp retainUntil issued =>
        sound.apart nonce exp retainUntil (kept _ issued).1
    · refine Nat.le_trans ?_ sound.few
      rw [removed]
      split
      · exact length_remove_le _ _
      · exact Nat.le_refl _
    · intro en mem
      exact sound.held_set hp _ (kept en mem).1 (kept en mem).2

/-- A redeemed nonce stays spent until the cache is pruned at its retention time or later. -/
theorem spent_until {nonce : Nonce} {retainUntil : Nat} {calls : List NonceCall}
    {rs : List NonceReply} {last : Nonces} (spent : (nonce, retainUntil) ∈ nonces.cache.spent)
    (ran : nonceMachine.run nonces calls = some (last, rs)) :
    last.Sound ∧ ((∃ reply ∈ rs, ∃ now, reply.pruned = some now ∧ retainUntil ≤ now) ∨
      (nonce, retainUntil) ∈ last.cache.spent) := by
  refine nonceMachine.run_history (motive := fun s _ rs => s.Sound ∧
    ((∃ reply ∈ rs, ∃ now, reply.pruned = some now ∧ retainUntil ≤ now) ∨
      (nonce, retainUntil) ∈ s.cache.spent)) ⟨sound, Or.inr spent⟩ ?_ ran
  rintro s _ rs _ _ reply ⟨sound, pre⟩ hs
  refine ⟨sound.step hs, ?_⟩
  rcases pre with ⟨earlier, mem, now, at_now, late⟩ | mem
  · exact Or.inl ⟨earlier, mem_append_left _ mem, now, at_now, late⟩
  have kept {now : Nat} (at_now : reply.pruned = some now) :
      (∃ told ∈ rs ++ [reply], ∃ now, told.pruned = some now ∧ retainUntil ≤ now) ∨
        (nonce, retainUntil) ∈ (s.cache.prune now).spent := by
    rcases Nat.lt_or_ge now retainUntil with early | late
    · exact Or.inr (mem_filter.mpr ⟨mem, decide_eq_true early⟩)
    · exact Or.inl ⟨reply, mem_append_right _ (mem_singleton_self _), now, at_now, late⟩
  cases step_effect hs with
  | refused | dropped => exact Or.inr mem
  | pruned | issued => exact kept rfl
  | redeemed now _ _ _ _ _ there =>
    refine (kept rfl).imp id fun still => mem_cons_of_mem _ (mem_remove.mpr ⟨still, ?_⟩)
    rintro rfl
    exact (sound.prune now).apart _ _ _ (mem_of_get there) still

end

/-- The caches keep apart and bounded, every outstanding nonce is held, and a nonce is redeemed
again only after a prune at the end of its retention or later. -/
theorem nonces_not_replayed {calls : List NonceCall} {last : Nonces} {replies : List NonceReply}
    (ran : nonceMachine.run {} calls = some (last, replies)) :
    (∀ nonce expiresAt retainUntil, (nonce, expiresAt) ∈ last.cache.outstanding →
      (nonce, retainUntil) ∉ last.cache.spent) ∧
    last.cache.outstanding.length ≤ 256 ∧ last.cache.spent.length ≤ 4096 ∧
    (∀ entry ∈ last.cache.outstanding, ∃ lease ∈ last.leases,
      lease.nonce = entry.1 ∧ lease.armed = true ∧ lease.dropped = false) ∧
    ∀ early between late first second nonce retainUntil again,
      replies = early ++ first :: (between ++ second :: late) →
      first.redeemed = some (nonce, retainUntil) → second.redeemed = some (nonce, again) →
      ∃ reply ∈ between, ∃ now, reply.pruned = some now ∧ retainUntil ≤ now := by
  have start : Sound {} := ⟨by simp, by simp, by simp, by simp⟩
  have sound := nonceMachine.run_keeps (motive := Sound) start Sound.step ran
  refine ⟨sound.apart, sound.few, sound.spent, sound.held, ?_⟩
  rintro early between late first second nonce retainUntil again rfl once twice
  obtain ⟨_, _, _, _, next, -, ran, stepped, rest⟩ := nonceMachine.run_split ran
  obtain ⟨_, _, _, _, _, _, ran', stepped', _⟩ := nonceMachine.run_split rest
  have spent : (nonce, retainUntil) ∈ next.cache.spent := by
    cases step_effect stepped with
    | redeemed =>
      cases once
      exact mem_cons_self
    | _ => cases once
  have valid := (nonceMachine.run_keeps (motive := Sound) start Sound.step ran).step stepped
  obtain ⟨sound', pruned | still⟩ := spent_until valid spent ran'
  · exact pruned
  · cases step_effect stepped' with
    | redeemed _ _ _ _ _ _ there =>
      cases twice
      have outstanding := mem_of_mem_filter (mem_of_get there)
      exact absurd still (sound'.apart _ _ _ outstanding)
    | _ => cases twice

/-- One nonce that is drawn, redeemed, drawn again once it is pruned, and redeemed again. -/
def redeemedAgain : List NonceCall :=
  [.issue 0 10 [some (Vector.replicate 16 7)], .redeem 0 10 0,
    .issue 10 20 [some (Vector.replicate 16 7)], .redeem 1 20 10]

theorem nonces_not_replayed_again : ∃ last issued first between second,
    nonceMachine.run {} redeemedAgain = some (last, [issued, first, between, second]) ∧
    first.redeemed = some (Vector.replicate 16 7, 10) ∧
    second.redeemed = some (Vector.replicate 16 7, 20) ∧
    ∃ now, between.pruned = some now ∧ 10 ≤ now := by
  have evaluated : (nonceMachine.run {} redeemedAgain).map (fun ran => ran.2.map NonceReply.redeemed) = some [none,
        some (Vector.replicate 16 7, 10), none, some (Vector.replicate 16 7, 20)] := by
    decide +kernel
  obtain ⟨⟨last, _⟩, ran, same⟩ := map_eq_some_iff.mp evaluated
  simp only [map_eq_cons_iff, map_eq_nil_iff] at same
  obtain ⟨issued, _, rfl, -, first, _, rfl, once, between, _, rfl, -, second, _, rfl, twice, rfl⟩ := same
  obtain ⟨-, -, -, -, apart⟩ := nonces_not_replayed ran
  obtain ⟨_, mem, pruned⟩ := apart [issued] [between] [] first second _ _ _ rfl once twice
  cases mem_singleton.mp mem
  exact ⟨last, issued, first, between, second, ran, once, twice, pruned⟩

end Nonces

end SplRust.Bridge
