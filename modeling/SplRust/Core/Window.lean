import SplRust.Core.Http

/-! Per-stream flow control of `spl-core/src/mux.rs`: the receive window, which
debits payload bytes when they arrive and grants them back in batches once they
are consumed, and the upload side, which spends send credit. -/

namespace SplRust.Core
open SplRust.Lib List

def initialWindow : Nat := 2 ^ 20
def uploadBodyStageCapacity : Nat := 256 * 1024
def receiveGrantThreshold : Nat := initialWindow / 2
def maxAssembledBytes : Nat := 4 * 1024 * 1024

/-- The protocol cap on remaining send credit (`i32::MAX`, and `MAX_SEND_CREDIT` elsewhere). -/
def maxSendCredit : Nat := 2 ^ 31 - 1

inductive MuxError where
  | frame (err : FrameError)
  | streamReset
  | incomplete
  | http (err : HttpError)
  | capExceeded
  | flowControl
  | protocol (violation : FrameViolation)
  deriving DecidableEq, Repr

/-- Receive credit of one stream. Credit and ungranted bytes never exceed the
initial window; what they leave of it has been debited and not consumed. -/
@[ext] structure RecvWindow where
  credit : Nat
  unacked : Nat
  accounted : credit + unacked ≤ initialWindow
  deriving DecidableEq, Repr

namespace RecvWindow
variable {win next : RecvWindow} {wireLen bytes : Nat}

def new : RecvWindow := ⟨initialWindow, 0, by simp⟩

def outstanding (window : RecvWindow) : Nat := initialWindow - window.credit - window.unacked

theorem outstanding_eq (win : RecvWindow) : win.credit + win.unacked + win.outstanding = initialWindow := by
  have := win.accounted
  simp only [outstanding]
  omega

/-- Debit inbound payload bytes; an overrun leaves the window unchanged. -/
def debit (window : RecvWindow) (wireLen : Nat) : Except MuxError RecvWindow :=
  if wireLen > window.credit then .error .flowControl
  else .ok ⟨window.credit - wireLen, window.unacked, by have := window.accounted; omega⟩

/-- Mark debited bytes consumed. `none` is the panic on consuming more than was
debited; the grant, if any, returns everything consumed since the last one. -/
def consume (window : RecvWindow) (bytes : Nat) : Option (RecvWindow × Option UInt32) :=
  if exceeds : bytes > window.outstanding then none
  else if window.unacked + bytes < receiveGrantThreshold then
    some (⟨window.credit, window.unacked + bytes, by
      have := window.outstanding_eq; omega⟩, none)
  else
    some (⟨window.credit + (window.unacked + bytes), 0, by
      have := window.outstanding_eq; omega⟩, some (UInt32.ofNat (window.unacked + bytes)))

theorem debit_ok (debited : win.debit wireLen = .ok next) :
    wireLen ≤ win.credit ∧ next.credit + wireLen = win.credit ∧ next.unacked = win.unacked := by
  unfold debit at debited
  split at debited
  · cases debited
  · cases debited
    exact ⟨by omega, by simp only; omega, rfl⟩

theorem debit_of_le (fits : wireLen ≤ win.credit) : ∃ next, win.debit wireLen = .ok next := by
  simp only [debit, if_neg (Nat.not_lt.mpr fits)]
  exact ⟨_, rfl⟩

theorem debit_error {err : MuxError} (refused : win.debit wireLen = .error err) : win.credit < wireLen := by
  by_contra fits
  obtain ⟨_, debited⟩ := debit_of_le (Nat.not_lt.mp fits)
  simp [debited] at refused

@[simp] theorem new_outstanding : new.outstanding = 0 := rfl

theorem debit_outstanding (debited : win.debit wireLen = .ok next) :
    next.outstanding = win.outstanding + wireLen := by
  obtain ⟨-, _, _⟩ := debit_ok debited
  have pre := win.outstanding_eq
  have after := next.outstanding_eq
  omega

/-- Bytes a WINDOW grant carries. -/
def granted : Option UInt32 → Nat
  | none => 0
  | some grant => grant.toNat

/-- Consuming is defined exactly up to the debited bytes, moves them into the
ungranted total, and a grant moves that total into the credit. -/
theorem consume_some {grant : Option UInt32} (consumed : win.consume bytes = some (next, grant)) :
    bytes ≤ win.outstanding ∧ next.credit = win.credit + granted grant ∧
      next.unacked + granted grant = win.unacked + bytes := by
  have tot := win.outstanding_eq
  unfold consume at consumed
  split at consumed
  · cases consumed
  next paid =>
    split at consumed
    · cases consumed
      exact ⟨by omega, rfl, rfl⟩
    · cases consumed
      have small : win.unacked + bytes < 2 ^ 32 := by
        simp only [initialWindow] at tot
        omega
      have value : (UInt32.ofNat (win.unacked + bytes)).toNat = win.unacked + bytes := by
        rw [UInt32.toNat_ofNat', Nat.mod_eq_of_lt small]
      refine ⟨by omega, ?_, ?_⟩
      · simp only [granted, value]
      · simp only [granted, value, Nat.zero_add]

theorem consume_unacked {grant : Option UInt32} (consumed : win.consume bytes = some (next, grant)) :
    next.unacked < receiveGrantThreshold := by
  have positive : 0 < receiveGrantThreshold := by decide
  unfold consume at consumed
  grind

theorem consume_outstanding {grant : Option UInt32} (consumed : win.consume bytes = some (next, grant)) :
    next.outstanding = win.outstanding - bytes := by
  obtain ⟨_, _, _⟩ := consume_some consumed
  have pre := win.outstanding_eq
  have after := next.outstanding_eq
  omega

theorem consume_of_le (paid : bytes ≤ win.outstanding) :
    ∃ next grant, win.consume bytes = some (next, grant) := by
  simp only [consume, gt_iff_lt, Nat.not_lt.mpr paid, dite_false]
  split <;> exact ⟨_, _, rfl⟩

end RecvWindow

inductive UploadBodyError where
  | declaredLengthExceeded
  | stageCapacityExceeded
  deriving DecidableEq, Repr

/-- Send side of one dialer stream: a request head and a body fed in pieces.
`emittedBodyLen`, the staged `body` and `fedBodyLen` always account for each other. -/
structure WindowedUpload where
  streamId : UInt32
  head : Bytes
  headOffset : Nat
  body : Bytes
  declaredBodyLen : Nat
  fedBodyLen : Nat
  emittedBodyLen : Nat
  sendCredit : Nat
  opened : Bool
  closed : Bool
  head_in_range : headOffset ≤ head.length
  body_bounded : body.length ≤ uploadBodyStageCapacity
  body_staged : emittedBodyLen + body.length = fedBodyLen
  body_declared : fedBodyLen ≤ declaredBodyLen
  credit_capped : sendCredit ≤ maxSendCredit
  closed_sent : closed = true → headOffset = head.length ∧ emittedBodyLen = declaredBodyLen
  deriving DecidableEq, Repr

namespace WindowedUpload
variable {up : WindowedUpload}

variable (upload : WindowedUpload)

def new (sid : UInt32) (requestHead : Bytes) (declaredBodyLen : Nat) : WindowedUpload where
  streamId := sid
  head := requestHead
  headOffset := 0
  body := []
  declaredBodyLen := declaredBodyLen
  fedBodyLen := 0
  emittedBodyLen := 0
  sendCredit := initialWindow
  opened := false
  closed := false
  head_in_range := Nat.zero_le _
  body_bounded := Nat.zero_le _
  body_staged := rfl
  body_declared := Nat.zero_le _
  credit_capped := by decide
  closed_sent := by simp

def bodyCapacity : Nat :=
  min (uploadBodyStageCapacity - upload.body.length) (upload.declaredBodyLen - upload.fedBodyLen)

def feedBody (bytes : Bytes) : Except UploadBodyError WindowedUpload :=
  if undeclared : bytes.length > upload.declaredBodyLen - upload.fedBodyLen then
    .error .declaredLengthExceeded
  else if unstaged : bytes.length > uploadBodyStageCapacity - upload.body.length then
    .error .stageCapacityExceeded
  else
    .ok { upload with
      body := upload.body ++ bytes
      fedBodyLen := upload.fedBodyLen + bytes.length
      body_bounded := by
        have := upload.body_bounded
        rw [length_append]
        omega
      body_staged := by
        have := upload.body_staged
        rw [length_append]
        omega
      body_declared := by
        have := upload.body_declared
        omega
      closed_sent := upload.closed_sent }

/-- Credit an inbound grant; the violation names a WINDOW frame of the stream. -/
def grant (credit : UInt32) : Except FrameViolation WindowedUpload :=
  match checkedAdd upload.sendCredit credit.toNat with
  | none => .error ⟨upload.streamId, flagWindow, 4⟩
  | some next =>
      if exceeds : next > maxSendCredit then .error ⟨upload.streamId, flagWindow, 4⟩
      else .ok { upload with sendCredit := next, credit_capped := Nat.not_lt.mp exceeds }

def headRemaining : Nat := upload.head.length - upload.headOffset

/-- Bytes the next DATA frame may carry: the head first, then the staged body. -/
def available : Nat :=
  if upload.headRemaining > 0 then upload.headRemaining else upload.body.length

def chunkLen : Nat :=
  min (min (min upload.available recommendedChunk) maxPayload) upload.sendCredit

def chunk : Bytes :=
  if upload.headRemaining > 0 then (upload.head.drop upload.headOffset).take upload.chunkLen
  else upload.body.take upload.chunkLen

theorem available_of_head (fromHead : up.headRemaining > 0) :
    up.available = up.headRemaining := if_pos fromHead

theorem available_of_body (fromBody : ¬ up.headRemaining > 0) :
    up.available = up.body.length := if_neg fromBody

theorem head_sent_of_unavailable (starved : ¬ 0 < up.available) : up.headOffset = up.head.length := by
  have range := up.head_in_range
  by_cases fromHead : up.headRemaining > 0
  · rw [available_of_head fromHead] at starved
    exact absurd fromHead starved
  · simp only [headRemaining] at fromHead
    omega

theorem chunkLen_le_available (up : WindowedUpload) : up.chunkLen ≤ up.available := by
  simp only [chunkLen]
  omega

theorem chunkLen_le_sendCredit (up : WindowedUpload) : up.chunkLen ≤ up.sendCredit := by
  simp only [chunkLen]
  omega

/-- The state after the next chunk has left. -/
def advance (ready : 0 < upload.available) : WindowedUpload :=
  if fromHead : upload.headRemaining > 0 then
    { upload with
      headOffset := upload.headOffset + upload.chunkLen
      sendCredit := upload.sendCredit - upload.chunkLen
      opened := true
      head_in_range := by
        have := upload.chunkLen_le_available
        rw [available_of_head fromHead] at this
        simp only [headRemaining] at this
        have := upload.head_in_range
        omega
      credit_capped := by have := upload.credit_capped; omega
      closed_sent := fun done => by
        have := (upload.closed_sent done).1
        simp only [headRemaining] at fromHead
        omega }
  else
    { upload with
      body := upload.body.drop upload.chunkLen
      emittedBodyLen := upload.emittedBodyLen + upload.chunkLen
      sendCredit := upload.sendCredit - upload.chunkLen
      opened := true
      body_bounded := by have := upload.body_bounded; rw [length_drop]; omega
      body_staged := by
        have := upload.chunkLen_le_available
        rw [available_of_body fromHead] at this
        have := upload.body_staged
        rw [length_drop]
        omega
      credit_capped := by have := upload.credit_capped; omega
      closed_sent := fun done => by
        have := (upload.closed_sent done).2
        have := upload.body_staged
        have := upload.body_declared
        rw [available_of_body fromHead] at ready
        omega }

def dataFrame : Frame :=
  ⟨upload.streamId, if upload.opened then flagData else flagOpen ||| flagData, upload.chunk⟩

def closeFrame : Frame := ⟨upload.streamId, flagClose, []⟩

/-- The next frame to write, or nothing while blocked, starved or done. -/
def pollSend : WindowedUpload × Except FrameError (Option Bytes) :=
  if ready : 0 < upload.available then
    if upload.sendCredit = 0 then (upload, .ok none)
    else (upload.advance ready, upload.dataFrame.encode.map some)
  else if finished : upload.closed = false ∧ upload.fedBodyLen = upload.declaredBodyLen ∧
      upload.emittedBodyLen = upload.declaredBodyLen then
    ({ upload with
      closed := true
      closed_sent := fun _ => ⟨head_sent_of_unavailable ready, finished.2.2⟩ }, upload.closeFrame.encode.map some)
  else (upload, .ok none)

theorem feedBody_kept {next : WindowedUpload} {bytes : Bytes} (staged : up.feedBody bytes = .ok next) :
    next.streamId = up.streamId ∧ next.sendCredit = up.sendCredit ∧
      next.opened = up.opened ∧ next.closed = up.closed := by
  revert staged
  fun_cases feedBody up bytes with
  | case3 =>
    rintro ⟨⟩
    exact ⟨rfl, rfl, rfl, rfl⟩
  | _ => rintro ⟨⟩

theorem grant_of_le {cr : UInt32} (fits : up.sendCredit + cr.toNat ≤ maxSendCredit) :
    ∃ next, up.grant cr = .ok next ∧ next.streamId = up.streamId ∧
      next.sendCredit = up.sendCredit + cr.toNat ∧ next.opened = up.opened ∧
      next.closed = up.closed := by
  have counted : checkedAdd up.sendCredit cr.toNat = some (up.sendCredit + cr.toNat) := by
    apply checkedAdd_of_le
    simp only [maxSendCredit, wordMax] at fits ⊢
    omega
  simp only [grant, counted]
  rw [dif_neg (Nat.not_lt.mpr fits)]
  exact ⟨_, rfl, rfl, rfl, rfl, rfl⟩

theorem chunk_length (up : WindowedUpload) : up.chunk.length = up.chunkLen := by
  have fits := up.chunkLen_le_available
  by_cases fromHead : up.headRemaining > 0
  · rw [available_of_head fromHead] at fits
    simp only [headRemaining] at fits
    rw [chunk, if_pos fromHead, length_take, length_drop]
    omega
  · rw [available_of_body fromHead] at fits
    rw [chunk, if_neg fromHead, length_take]
    omega

theorem dataFrame_encodable (up : WindowedUpload) : up.dataFrame.Encodable := by
  constructor
  · show up.chunk.length ≤ maxPayload
    rw [chunk_length, chunkLen]
    omega
  · show (if up.opened then flagData else flagOpen ||| flagData) &&& flagReservedMask = 0
    split <;> decide

theorem unavailable_of_closed (closed : up.closed = true) : ¬ 0 < up.available := by
  obtain ⟨_, _⟩ := up.closed_sent closed
  have staged := up.body_staged
  have declared := up.body_declared
  have sent : ¬ up.headRemaining > 0 := by
    simp only [headRemaining]
    omega
  rw [available_of_body sent]
  omega

theorem advance_kept (ready : 0 < up.available) : (up.advance ready).streamId = up.streamId ∧
      (up.advance ready).sendCredit = up.sendCredit - up.chunkLen ∧
      (up.advance ready).opened = true ∧ (up.advance ready).closed = up.closed := by
  unfold advance
  split <;> exact ⟨rfl, rfl, rfl, rfl⟩

/-- Everything `poll_send` can do. -/
inductive PollEffect (up : WindowedUpload) : WindowedUpload → Except FrameError (Option Bytes) → Prop where
  | idle : PollEffect up up (.ok none)
  | data {next : WindowedUpload} (writing : up.closed = false)
      (paid : up.chunk.length ≤ up.sendCredit) (sid : next.streamId = up.streamId)
      (spent : next.sendCredit = up.sendCredit - up.chunk.length)
      (opened : next.opened = true) (closed : next.closed = false) :
      PollEffect up next (.ok (some up.dataFrame.wire))
  | close {next : WindowedUpload} (writing : up.closed = false)
      (sid : next.streamId = up.streamId) (kept : next.sendCredit = up.sendCredit)
      (opened : next.opened = up.opened) (closed : next.closed = true) :
      PollEffect up next (.ok (some up.closeFrame.wire))

theorem closeFrame_encodable (up : WindowedUpload) : up.closeFrame.Encodable :=
  ⟨Nat.zero_le _, (by decide : flagClose &&& flagReservedMask = 0)⟩

theorem pollSend_effect (up : WindowedUpload) : PollEffect up up.pollSend.1 up.pollSend.2 := by
  unfold pollSend
  by_cases ready : 0 < up.available
  · rw [dif_pos ready]
    have writing : up.closed = false := by
      by_contra closed
      exact unavailable_of_closed (by simpa using closed) ready
    split
    · exact .idle
    · obtain ⟨sid, spent, opened, closed⟩ := advance_kept ready
      rw [← chunk_length] at spent
      rw [Frame.encode_eq_ok up.dataFrame_encodable]
      exact .data writing (by rw [chunk_length]; exact up.chunkLen_le_sendCredit) sid
        spent opened (closed.trans writing)
  · rw [dif_neg ready]
    split
    next finished =>
      rw [Frame.encode_eq_ok up.closeFrame_encodable]
      exact .close finished.1 rfl rfl rfl rfl
    · exact .idle

def isDone : Bool := upload.closed

def isBlocked : Bool :=
  !upload.closed && upload.sendCredit == 0 &&
    (decide (upload.headOffset < upload.head.length) || !upload.body.isEmpty)

end WindowedUpload

end SplRust.Core
