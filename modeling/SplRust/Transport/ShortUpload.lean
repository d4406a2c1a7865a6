import SplRust.Transport.LocalUpload

/-! What a local upload has read and sent, and when it is reported as short. -/

namespace SplRust.Transport
open SplRust.Lib SplRust.Core List

namespace AdvancePhase

/-- The bytes read from the socket and not put into the pipe yet. -/
def held : AdvancePhase → Bytes
  | .send bytes => bytes
  | _ => []

/-- `advance` is past the bytes that came with the head. -/
def onSocket : AdvancePhase → Bool
  | .race _ | .reserve _ | .read _ | .send _ => true
  | _ => false

/-- The bytes that this `advance` may still send. -/
def amount : AdvancePhase → Nat
  | .reservePrefix count | .race count | .reserve count | .read count => count
  | .sendPrefix bytes | .send bytes => bytes.length
  | _ => 0

end AdvancePhase

namespace LocalUpload

/-- An upload that goes on has sent the bytes that came with the head, as far as it is with them,
and then what it took from the socket. -/
structure Tracks (overRead taken : Bytes) (up : LocalUpload) : Prop where
  live : up.phase ≠ .short
  received : up.received = overRead ++ (taken ++ up.phase.held ++ up.unread)
  sent : up.sent = up.bodyPrefix.take up.prefixOffset ++ taken
  counted : up.readBytes = up.sent.length
  cut : up.bodyPrefix = overRead.take up.declaredBodyLen
  offset : up.prefixOffset ≤ up.bodyPrefix.length
  socket : up.phase.onSocket = true → up.prefixOffset = up.bodyPrefix.length ∧ up.readBytes < up.declaredBodyLen
  fits : up.readBytes + up.phase.amount ≤ up.declaredBodyLen
  untaken : up.prefixOffset < up.bodyPrefix.length → taken = []
  prefixed : ∀ bytes, up.phase = .sendPrefix bytes → bytes = (up.bodyPrefix.drop up.prefixOffset).take bytes.length

/-- The states of an upload. -/
inductive Reached (overRead : Bytes) (up : LocalUpload) : Prop where
  | going (taken : Bytes) (active : up.active = true) (tracks : up.Tracks overRead taken)
  | stopped (inactive : up.active = false) (still : up.phase = .idle ∨ up.phase = .over)
  | short (inactive : up.active = false) (shortened : up.phase = .short)
      (ended : up.fin = true) (missing : up.received.length < up.declaredBodyLen)

/-- The readiness of the socket decides for a short body only once all that arrived was read. -/
def seesWholeBody (upload : LocalUpload) : LocalUploadCall → Bool
  | .ready => !upload.fin || upload.unread.isEmpty
  | _ => true

namespace Tracks
variable {overRead taken : Bytes} {up : LocalUpload}

section
variable (tracks : up.Tracks overRead taken)
include tracks

theorem missing (onSocket : up.phase.onSocket = true)
    (unheld : up.phase.held = []) (un : up.unread = []) :
    up.received.length < up.declaredBodyLen := by
  obtain ⟨whole, _⟩ := tracks.socket onSocket
  have counted := tracks.counted
  rw [tracks.sent, length_append, length_take, whole, Nat.min_self] at counted
  have cut := congrArg List.length tracks.cut
  rw [length_take] at cut
  rw [tracks.received, unheld, un, length_append, length_append, length_append, length_nil]
  omega

theorem arrive (bs : Bytes) : Tracks overRead taken { up with
      unread := up.unread ++ bs, received := up.received ++ bs } := by
  refine { tracks with received := ?_ }
  change up.received ++ bs = _ ++ (_ ++ (up.unread ++ bs))
  rw [tracks.received, append_assoc, append_assoc (_ ++ _)]

theorem wait {ph : AdvancePhase} (live : ph ≠ .short) (unheld : up.phase.held = []) (holds : ph.held = [])
    (socket : ph.onSocket = true → up.prefixOffset = up.bodyPrefix.length ∧
      up.readBytes < up.declaredBodyLen) (fits : up.readBytes + ph.amount ≤ up.declaredBodyLen)
    (prefixed : ∀ bs, ph = .sendPrefix bs → bs = (up.bodyPrefix.drop up.prefixOffset).take bs.length) :
    Tracks overRead taken { up with phase := ph } := by
  refine { tracks with live := live, received := ?_, socket := socket, fits := fits, prefixed := prefixed }
  change up.received = overRead ++ (taken ++ ph.held ++ up.unread)
  rw [holds, tracks.received, unheld]

theorem start (idle : up.phase = .idle) (active : up.active = true) : Reached overRead up.start := by
  have unheld : up.phase.held = [] := by rw [idle]; rfl
  unfold LocalUpload.start
  split
  · exact .stopped rfl (Or.inl idle)
  next left =>
    have less : up.readBytes < up.declaredBodyLen := by
      unfold LocalUpload.remaining at left
      omega
    split
    next more =>
      refine .going taken active (tracks.wait (by simp) unheld rfl (by simp [AdvancePhase.onSocket]) ?_ (by simp))
      change up.readBytes + min _ up.remaining ≤ _
      unfold LocalUpload.remaining
      omega
    next done =>
      have whole : up.prefixOffset = up.bodyPrefix.length := Nat.le_antisymm tracks.offset (Nat.le_of_not_lt done)
      refine .going taken active (tracks.wait (by simp) unheld rfl (fun _ => ⟨whole, less⟩) ?_ (by simp))
      change up.readBytes + min up.remaining _ ≤ _
      unfold LocalUpload.remaining
      omega

/-- The rest of `advance` after the pipe has taken bytes of the socket. -/
theorem accept {bs : Bytes} (sends : up.phase = .send bs) : Tracks overRead (taken ++ bs) { up with
      sent := up.sent ++ bs
      readBytes := up.readBytes + bs.length
      phase := .idle } := by
  have fits := tracks.fits
  have rcv := tracks.received
  have socket := tracks.socket (by rw [sends]; rfl)
  rw [sends] at fits rcv
  refine { tracks with
    live := by simp, received := ?_, sent := ?_, counted := ?_, socket := by simp [AdvancePhase.onSocket]
    fits := fits, untaken := ?_, prefixed := by simp }
  · change up.received = overRead ++ (taken ++ bs ++ [] ++ up.unread)
    rw [rcv, append_nil]
    rfl
  · change up.sent ++ bs = _ ++ (taken ++ bs)
    rw [tracks.sent, append_assoc]
  · change up.readBytes + bs.length = (up.sent ++ bs).length
    rw [length_append, tracks.counted]
  · exact fun more => absurd socket.1 (Nat.ne_of_lt more)

theorem acceptPrefix {bs : Bytes} (sends : up.phase = .sendPrefix bs) : Tracks overRead taken { up with
      sent := up.sent ++ bs
      prefixOffset := up.prefixOffset + bs.length
      readBytes := up.readBytes + bs.length
      phase := .idle } := by
  have fits := tracks.fits
  have rcv := tracks.received
  have offset := tracks.offset
  have prefixed := tracks.prefixed bs sends
  have short := congrArg List.length prefixed
  rw [length_take, length_drop] at short
  rw [sends] at fits rcv
  have sent : up.sent ++ bs = up.bodyPrefix.take (up.prefixOffset + bs.length) ++ taken := by
    rw [take_add, ← prefixed, tracks.sent]
    rcases Nat.eq_zero_or_pos bs.length with none_left | some_left
    · rw [eq_nil_of_length_eq_zero none_left, append_nil, append_nil]
    · rw [tracks.untaken (by omega), append_nil, append_nil]
  refine { tracks with
    live := by simp, received := rcv, sent := sent, counted := ?_, offset := ?_
    socket := by simp [AdvancePhase.onSocket], fits := fits
    untaken := fun more => tracks.untaken (Nat.lt_of_le_of_lt (Nat.le_add_right _ _) more)
    prefixed := by simp }
  · change up.readBytes + bs.length = (up.sent ++ bs).length
    rw [length_append, tracks.counted]
  · change up.prefixOffset + bs.length ≤ up.bodyPrefix.length
    omega

theorem settle (active : up.active = true) (idle : up.phase = .idle) :
    Reached overRead (if up.readBytes = up.declaredBodyLen then up.stop else up) := by
  split
  · exact .stopped rfl (Or.inl idle)
  · exact .going taken active tracks

end

end Tracks

namespace Reached
variable {overRead : Bytes} {up next : LocalUpload}

theorem pipeFailed (up : LocalUpload) : Reached overRead up.pipeFailed := .stopped rfl (Or.inl rfl)

section
variable (reached : Reached overRead up)
include reached

theorem tracks (waits : up.waits = true) : ∃ taken, up.active = true ∧ up.Tracks overRead taken := by
  cases reached with
  | going taken active tracks => exact ⟨taken, active, tracks⟩
  | stopped _ still =>
    rcases still with idle | finished
    · simp [LocalUpload.waits, idle] at waits
    · simp [LocalUpload.waits, finished] at waits
  | short _ shortened => simp [LocalUpload.waits, shortened] at waits

/-- The socket is ready, or the pipe has room for what it holds. -/
theorem moves {count : Nat} {pre after : AdvancePhase}
    (waits : up.phase = pre) (blocked : pre = .race count ∨ pre = .reserve count)
    (moved : after = .read count ∨ after = .reserve count) : Reached overRead { up with phase := after } := by
  obtain ⟨taken, active, tracks⟩ := reached.tracks (by rcases blocked with rfl | rfl <;> simp [LocalUpload.waits, waits])
  have fits := tracks.fits
  have socket : up.phase.onSocket = true := by rcases blocked with rfl | rfl <;> (rw [waits]; rfl)
  have unheld : up.phase.held = [] := by rcases blocked with rfl | rfl <;> (rw [waits]; rfl)
  rw [waits] at fits
  rcases blocked with rfl | rfl <;> rcases moved with rfl | rfl <;>
    exact .going taken active (tracks.wait (by simp) unheld rfl (fun _ => tracks.socket socket) fits (by simp))

theorem step {call : LocalUploadCall}
    (hs : up.step call = some next) (sees : up.seesWholeBody call = true) : Reached overRead next := by
  revert hs
  fun_cases LocalUpload.step up call with
  | case2 bs going =>
    rintro ⟨⟩
    cases reached with
    | going taken active tracks => exact .going taken active (tracks.arrive bs)
    | stopped inactive still => exact .stopped inactive still
    | short _ _ ended => exact absurd ended going
  | case3 =>
    rintro ⟨⟩
    cases reached with
    | going taken active tracks => exact .going taken active { tracks with }
    | stopped inactive still => exact .stopped inactive still
    | short inactive shortened _ missing => exact .short inactive shortened rfl missing
  | case4 ready =>
    rintro ⟨⟩
    cases reached with
    | going _ active tracks => exact tracks.start ready.1 active
    | stopped inactive | short inactive => exact absurd (inactive.symm.trans ready.2) Bool.false_ne_true
  | case6 count waits =>
    rintro ⟨⟩
    obtain ⟨taken, active, tracks⟩ := reached.tracks (by simp [LocalUpload.waits, waits])
    have fits := tracks.fits
    rw [waits] at fits
    refine .going taken active (tracks.wait (by simp) (by rw [waits]; rfl) rfl
      (by simp [AdvancePhase.onSocket]) ?_ ?_)
    · change up.readBytes + (List.take count _).length ≤ _
      rw [length_take]
      change up.readBytes + count ≤ _ at fits
      omega
    · rintro _ ⟨⟩
      rw [length_take]
      exact take_eq_take_min
  | case7 count waits => rintro ⟨⟩; exact reached.moves waits (.inl rfl) (.inl rfl)
  | case8 count waits => rintro ⟨⟩; exact reached.moves waits (.inr rfl) (.inl rfl)
  | case10 count waits ended =>
    rintro ⟨⟩
    obtain ⟨_, _, tracks⟩ := reached.tracks (by simp [LocalUpload.waits, waits])
    have un : up.unread = [] := by simpa [seesWholeBody, ended] using sees
    exact .short rfl rfl ended (tracks.missing (by rw [waits]; rfl) (by rw [waits]; rfl) un)
  | case11 count waits => rintro ⟨⟩; exact reached.moves waits (.inl rfl) (.inr rfl)
  | case14 count capacity waits bounds =>
    rintro ⟨⟩
    obtain ⟨taken, active, tracks⟩ := reached.tracks (by simp [LocalUpload.waits, waits])
    have fits := tracks.fits
    have rcv := tracks.received
    rw [waits] at fits rcv
    refine .going taken active { tracks with
      live := by simp, received := ?_, socket := fun _ => tracks.socket (by rw [waits]; rfl), fits := ?_
      prefixed := by simp }
    · change up.received = overRead ++ (taken ++ up.unread.take count ++ up.unread.drop count)
      rw [append_assoc, take_append_drop, rcv]
      exact congrArg (overRead ++ ·) (congrArg (· ++ _) (append_nil _))
    · change up.readBytes + (up.unread.take count).length ≤ up.declaredBodyLen
      change up.readBytes + capacity ≤ _ at fits
      rw [length_take]
      omega
  | case17 capacity waits ended =>
    rintro ⟨⟩
    obtain ⟨_, _, tracks⟩ := reached.tracks (by simp [LocalUpload.waits, waits])
    exact .short rfl rfl ended.2 (tracks.missing (by rw [waits]; rfl) (by rw [waits]; rfl) ended.1)
  | case20 bs waits =>
    rintro ⟨⟩
    obtain ⟨_, active, tracks⟩ := reached.tracks (by simp [LocalUpload.waits, waits])
    exact (tracks.acceptPrefix waits).settle active rfl
  | case22 bs waits =>
    rintro ⟨⟩
    obtain ⟨_, active, tracks⟩ := reached.tracks (by simp [LocalUpload.waits, waits])
    exact (tracks.accept waits).settle active rfl
  | case21 | case23 | case25 | case26 | case27 | case28 | case29 => rintro ⟨⟩; exact pipeFailed _
  | case31 | case32 | case34 => rintro ⟨⟩; exact .stopped rfl (Or.inr rfl)
  | _ => rintro ⟨⟩

end

end Reached

theorem new_reached (overRead : Bytes) (len : Nat) : Reached overRead (new overRead len) := by
  by_cases empty : len = 0
  · exact .stopped (by simp [new, empty]) (Or.inl rfl)
  · refine .going [] (by simp [new, empty]) ?_
    exact {
      live := by simp [new]
      received := by simp [new, AdvancePhase.held]
      sent := rfl
      counted := rfl
      cut := rfl
      offset := Nat.zero_le _
      socket := by simp [new, AdvancePhase.onSocket]
      fits := Nat.zero_le _
      untaken := fun _ => rfl
      prefixed := by simp [new] }

theorem start_declared (up : LocalUpload) : up.start.declaredBodyLen = up.declaredBodyLen := by
  unfold start
  split
  · rfl
  · split
    · rfl
    · rfl

theorem advanced_declared (up : LocalUpload) (count : Nat) :
    (up.advanced count).declaredBodyLen = up.declaredBodyLen := by
  unfold advanced
  dsimp only
  split
  · rfl
  · rfl

theorem step_declared {up next : LocalUpload} {call : LocalUploadCall} (hs : up.step call = some next) :
    next.declaredBodyLen = up.declaredBodyLen := by
  unfold LocalUpload.step at hs
  (repeat' split at hs) <;> cases hs <;> first
    | rfl
    | exact start_declared up
    | exact advanced_declared _ _

end LocalUpload

/-- As long as a readiness that reports the client's end is not taken while bytes wait to be read,
an upload is reported as short only if the client ended before its whole body. -/
theorem short_only_if_short {overRead : Bytes} {declaredBodyLen : Nat}
    {calls : List LocalUploadCall} {last : LocalUpload} {replies : List Unit}
    (ran : (localUploadMachine.restrict LocalUpload.seesWholeBody).run
      (.new overRead declaredBodyLen) calls = some (last, replies))
    (short : last.phase = .short) :
    last.fin = true ∧ last.received.length < declaredBodyLen := by
  obtain ⟨reached, declared⟩ : LocalUpload.Reached overRead last ∧ last.declaredBodyLen = declaredBodyLen := by
    refine Machine.run_keeps _ (motive := fun upload => LocalUpload.Reached overRead upload ∧
      upload.declaredBodyLen = declaredBodyLen)
      ⟨LocalUpload.new_reached overRead declaredBodyLen, rfl⟩ ?_ ran
    intro upload call next reply before stepped
    obtain ⟨reached, declared⟩ := before
    obtain ⟨sees, moved⟩ := Machine.step_restrict _ stepped
    obtain ⟨_, acted, same⟩ := Option.map_eq_some_iff.mp moved
    cases same
    exact ⟨reached.step acted sees, (LocalUpload.step_declared acted).trans declared⟩
  rw [← declared]
  cases reached with
  | going _ _ tracks => exact absurd short tracks.live
  | stopped _ still =>
    rcases still with idle | finished
    · rw [idle] at short
      cases short
    · rw [finished] at short
      cases short
  | short _ _ ended missing => exact ⟨ended, missing⟩

theorem short_only_if_short_ended :
    ∃ last : LocalUpload, last.phase = .short ∧ last.fin = true ∧ last.received.length < 3 := by
  have evaluated : ((localUploadMachine.restrict LocalUpload.seesWholeBody).run (.new [1] 3)
      [.arrive [2], .clientEnd, .advance, .grant, .accept true, .advance, .grant, .read 1,
        .accept true, .advance, .ready]).map (fun ran => ran.1.phase) = some .short := by
    decide +kernel
  obtain ⟨⟨last, _⟩, ran, short⟩ := Option.map_eq_some_iff.mp evaluated
  exact ⟨last, short, short_only_if_short ran short⟩

/-- The whole body waits to be read when the client half-closes; the readiness of the socket then
wins the race against the reservation, and the client is answered with 400. -/
theorem whole_body_reported_short :
    (localUploadMachine.run (.new [] 2) [.arrive [1, 2], .clientEnd, .advance, .ready]).map
        (fun ran => (ran.1.phase, ran.1.received)) = some (.short, [1, 2]) := by
  decide +kernel

end SplRust.Transport
