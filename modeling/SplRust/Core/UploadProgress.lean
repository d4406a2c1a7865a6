import SplRust.Core.Window

/-! What one poll of an upload moves: bytes of the head, bytes of the body, or the CLOSE
behind both. -/

namespace SplRust.Core
open SplRust.Lib
namespace WindowedUpload
variable {up next : WindowedUpload}

/-- `poll_send` would return a frame. -/
def Pollable (up : WindowedUpload) : Prop := up.pollSend.2 ≠ .ok none

/-- Everything sent but the CLOSE, which may follow. -/
def Finished (up : WindowedUpload) : Prop :=
  up.closed = false ∧ up.fedBodyLen = up.declaredBodyLen ∧ up.emittedBodyLen = up.declaredBodyLen

/-- The three ways `poll_send` comes out. -/
inductive PollCase (up : WindowedUpload) : WindowedUpload × Except FrameError (Option Bytes) → Prop where
  | idle (stalled : (0 < up.available ∧ up.sendCredit = 0) ∨
      (¬ 0 < up.available ∧ ¬ up.Finished)) : PollCase up (up, .ok none)
  | data (ready : 0 < up.available) (funded : up.sendCredit ≠ 0) :
      PollCase up (up.advance ready, .ok (some up.dataFrame.wire))
  | close (next : WindowedUpload) (sent : ¬ 0 < up.available) (finished : up.Finished)
      (sid : next.streamId = up.streamId) (head : next.head = up.head)
      (headOffset : next.headOffset = up.headOffset) (body : next.body = up.body)
      (fed : next.fedBodyLen = up.fedBodyLen)
      (emitted : next.emittedBodyLen = up.emittedBodyLen)
      (declared : next.declaredBodyLen = up.declaredBodyLen)
      (credit : next.sendCredit = up.sendCredit) (opened : next.opened = up.opened)
      (closed : next.closed = true) :
      PollCase up (next, .ok (some up.closeFrame.wire))

theorem pollSend_cases (up : WindowedUpload) : PollCase up up.pollSend := by
  unfold pollSend
  by_cases ready : 0 < up.available
  · rw [dif_pos ready]
    by_cases broke : up.sendCredit = 0
    · rw [if_pos broke]
      exact .idle (Or.inl ⟨ready, broke⟩)
    · rw [if_neg broke, Frame.encode_eq_ok up.dataFrame_encodable]
      exact .data ready broke
  · rw [dif_neg ready]
    by_cases finished : up.closed = false ∧ up.fedBodyLen = up.declaredBodyLen ∧
        up.emittedBodyLen = up.declaredBodyLen
    · rw [dif_pos finished, Frame.encode_eq_ok up.closeFrame_encodable]
      exact .close _ ready finished rfl rfl rfl rfl rfl rfl rfl rfl rfl rfl
    · rw [dif_neg finished]
      exact .idle (Or.inr ⟨ready, finished⟩)

theorem advance_fixed (ready : 0 < up.available) : (up.advance ready).head = up.head ∧
      (up.advance ready).fedBodyLen = up.fedBodyLen ∧
      (up.advance ready).declaredBodyLen = up.declaredBodyLen := by
  unfold advance
  split
  · exact ⟨rfl, rfl, rfl⟩
  · exact ⟨rfl, rfl, rfl⟩

/-- What a frame leaves of the upload that sent it, and which frame it was. -/
theorem pollSend_sent {fr : Bytes} (polled : up.pollSend = (next, .ok (some fr))) :
    next.streamId = up.streamId ∧ next.declaredBodyLen = up.declaredBodyLen ∧ up.closed = false ∧
      (0 < up.available ∧ fr = up.dataFrame.wire ∧ next.opened = true ∨
        ¬ 0 < up.available ∧ fr = up.closeFrame.wire ∧ next.opened = up.opened) := by
  have how := up.pollSend_cases
  rw [polled] at how
  cases how with
  | data ready =>
    have unclosed : up.closed = false := by
      rw [← Bool.not_eq_true]
      intro closed
      exact unavailable_of_closed closed ready
    refine ⟨?_, (advance_fixed ready).2.2, unclosed, Or.inl ⟨ready, rfl, ?_⟩⟩
    · unfold advance
      split
      · rfl
      · rfl
    · unfold advance
      split
      · rfl
      · rfl
  | close _ sent finished sid _ _ _ _ _ declared _ opened =>
    exact ⟨sid, declared, finished.1, Or.inr ⟨sent, rfl, opened⟩⟩

theorem pollSend_fed {fr : Bytes} (polled : up.pollSend = (next, .ok (some fr))) :
    next.fedBodyLen = up.fedBodyLen := by
  have how := up.pollSend_cases
  rw [polled] at how
  cases how with
  | data ready => exact (advance_fixed ready).2.1
  | close _ _ _ _ _ _ _ fed => exact fed

theorem closed_of_isDone (done : up.isDone = true) : up.closed = true := done

theorem stalled_of_not_pollable (stalled : ¬ up.Pollable) : (0 < up.available ∧ up.sendCredit = 0) ∨
      (¬ 0 < up.available ∧ ¬ up.Finished) := by
  have polled := up.pollSend_cases
  simp only [Pollable, not_not] at stalled
  generalize up.pollSend = res at polled stalled
  cases polled with
  | idle how => exact how
  | data | close => cases stalled

theorem not_pollable_of_stalled (stalled : (0 < up.available ∧ up.sendCredit = 0) ∨
      (¬ 0 < up.available ∧ ¬ up.Finished)) : ¬ up.Pollable := by
  have polled := up.pollSend_cases
  simp only [Pollable, not_not]
  generalize up.pollSend = res at polled
  cases polled with
  | idle => rfl
  | data ready funded =>
    rcases stalled with ⟨-, broke⟩ | ⟨starved, -⟩
    · exact absurd broke funded
    · exact absurd ready starved
  | close _ sent finished =>
    rcases stalled with ⟨ready, -⟩ | ⟨-, unfinished⟩
    · exact absurd ready sent
    · exact absurd finished unfinished

theorem not_pollable_of_isDone (done : up.isDone = true) : ¬ up.Pollable := by
  apply not_pollable_of_stalled
  refine Or.inr ⟨unavailable_of_closed done, ?_⟩
  rintro ⟨unclosed, -⟩
  rw [closed_of_isDone done] at unclosed
  cases unclosed

theorem available_of_left (left : up.headOffset < up.head.length ∨ up.body ≠ []) : 0 < up.available := by
  by_cases fromHead : up.headRemaining > 0
  · rw [available_of_head fromHead]
    exact fromHead
  · rw [available_of_body fromHead]
    rcases left with head | body
    · simp only [headRemaining] at fromHead
      omega
    · exact List.length_pos_iff.mpr body

theorem not_pollable_of_isBlocked (blocked : up.isBlocked = true) : ¬ up.Pollable := by
  apply not_pollable_of_stalled
  simp only [isBlocked, Bool.and_eq_true, Bool.not_eq_true', beq_iff_eq, Bool.or_eq_true,
    decide_eq_true_eq, List.isEmpty_eq_false_iff] at blocked
  obtain ⟨⟨-, broke⟩, left⟩ := blocked
  exact Or.inl ⟨available_of_left left, broke⟩

theorem grant_ok {cr : UInt32} (granted : up.grant cr = .ok next) :
    next.streamId = up.streamId ∧ next.head = up.head ∧
      next.headOffset = up.headOffset ∧ next.body = up.body ∧
      next.declaredBodyLen = up.declaredBodyLen ∧ next.fedBodyLen = up.fedBodyLen ∧
      next.emittedBodyLen = up.emittedBodyLen ∧ next.opened = up.opened ∧
      next.closed = up.closed ∧ next.sendCredit = up.sendCredit + cr.toNat := by
  revert granted
  fun_cases grant up cr with
  | case3 sum added =>
    rintro ⟨⟩
    refine ⟨rfl, rfl, rfl, rfl, rfl, rfl, rfl, rfl, rfl, ?_⟩
    simp only [checkedAdd] at added
    split at added <;> cases added
    rfl
  | _ => rintro ⟨⟩

theorem feedBody_ok {bs : Bytes} (fed : up.feedBody bs = .ok next) :
    next.head = up.head ∧ next.headOffset = up.headOffset ∧
      next.body = up.body ++ bs ∧ next.declaredBodyLen = up.declaredBodyLen ∧
      next.fedBodyLen = up.fedBodyLen + bs.length ∧ next.emittedBodyLen = up.emittedBodyLen := by
  revert fed
  fun_cases feedBody up bs with
  | case3 =>
    rintro ⟨⟩
    exact ⟨rfl, rfl, rfl, rfl, rfl, rfl⟩
  | _ => rintro ⟨⟩

end WindowedUpload

end SplRust.Core
