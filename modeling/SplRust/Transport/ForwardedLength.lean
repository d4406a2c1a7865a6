import SplRust.Transport.Forwarder

/-! What the local caller gets of a response, over every sequence of its body events and every
way it can end, when the local socket takes all writes. -/

namespace SplRust.Transport
open SplRust.Lib SplRust.Core List Option
variable {socket : LocalSocket} {head : LocalWrite} {body : Bytes}

def terminal : Option StreamEnd → Received
  | some how => .item (.ended how)
  | none => .closed

def bodyItems (bodies : List Bytes) : List Received := bodies.map fun bytes => .item (.body bytes)

/-- A head, its body events and its end, as the receiver returns them. -/
def responseItems (head : HttpHead) (bodies : List Bytes) (ending : Option StreamEnd) :
    List Received :=
  .item (.head head) :: (bodyItems bodies ++ [terminal ending])

/-- A new forwarder for a request, with a socket that takes every write. -/
def newForwarder (runtime : BridgeRuntime) (requestHead : RequestHead) (mode : ResponseMode) :
    ResponseForwarder :=
  { runtime := runtime, requestHead := requestHead, mode := mode }

/-- A head and a body behind it went out, and nothing else. -/
def LocalSocket.Sent (socket : LocalSocket) (head : LocalWrite) (body : Bytes) : Prop :=
  ∃ pieces : List Bytes, socket.sent = head :: pieces.map .body ∧ pieces.flatten = body ∧ socket.cut = none

theorem LocalSocket.Sent.bytes (sent : socket.Sent head body) : socket.bytes = head.bytes ++ body := by
  obtain ⟨_, writes, rfl, uncut⟩ := sent
  rw [LocalSocket.bytes, writes, uncut, flatMap_cons, flatMap_map, append_nil]
  congr 1
  exact flatMap_id'

theorem LocalSocket.Sent.shutdown (sent : socket.Sent head body) : socket.shutdown.Sent head body := sent

theorem LocalSocket.Sent.append (sent : socket.Sent head body) (pieces : List Bytes) :
    ({ socket with sent := socket.sent ++ pieces.map .body } : LocalSocket).Sent head (body ++ pieces.flatten) := by
  obtain ⟨pre, writes, rfl, uncut⟩ := sent
  exact ⟨pre ++ pieces, by simp [writes], by simp, uncut⟩

/-- A streamed response whose head is written and of which `total` has arrived. -/
structure Streaming (forwarder : ResponseForwarder) (head : LocalWrite) (declared : Option Nat)
    (total : Bytes) : Prop where
  mode : forwarder.mode = .streaming
  method : forwarder.isHead = false
  undeferred : forwarder.deferredHead = none
  written : forwarder.headWritten = true
  declaredLen : forwarder.declaredLen = declared
  answers : forwarder.socket.answers = []
  received : declared ≠ none → forwarder.receivedLen = min total.length wordMax
  sent : ∃ body, forwarder.socket.Sent head body

/-- Beside the byte that is held back, everything that arrived went out. -/
structure Streamed (forwarder : ResponseForwarder) (head : LocalWrite) (declared : Option Nat)
    (total : Bytes) : Prop extends Streaming forwarder head declared total where
  whole : ∃ body, forwarder.socket.Sent head body ∧ body ++ forwarder.heldLast.toList = total
  held : forwarder.heldLast.isSome = true ↔ declared = some total.length
  within : ∀ length, declared = some length → total.length ≤ length

section
variable {fwd : ResponseForwarder} {head : LocalWrite} {declared : Option Nat} {length : Nat} {total : Bytes}

theorem writeBody_accepted (fwd : ResponseForwarder) (answers : fwd.socket.answers = []) (bytes : Bytes) :
    ∃ pieces : List Bytes, pieces.flatten = bytes ∧
      fwd.writeBody bytes = ({ fwd with socket := { fwd.socket with
        sent := fwd.socket.sent ++ pieces.map .body } }, .continue_) := by
  by_cases empty : bytes = []
  · exact ⟨[], empty.symm, by simp [ResponseForwarder.writeBody, empty]⟩
  · exact ⟨[bytes], by simp, by simp [ResponseForwarder.writeBody, empty, LocalSocket.write, answers]⟩

theorem Streaming.handleBody_undeclared (streaming : Streaming fwd head none total)
    (bytes : Bytes) : fwd.handleBody bytes = fwd.writeBody bytes := by
  simp only [ResponseForwarder.handleBody, streaming.mode, streaming.undeferred, streaming.written,
    streaming.method, streaming.declaredLen, isSome_none, Bool.false_eq_true, if_false,
    Bool.not_true]

theorem Streaming.handleBody_declared (streaming : Streaming fwd head (some length) total)
    (bytes : Bytes) : fwd.handleBody bytes = fwd.writeDeclared length bytes := by
  simp only [ResponseForwarder.handleBody, streaming.mode, streaming.undeferred, streaming.written,
    streaming.method, streaming.declaredLen, isSome_none, Bool.false_eq_true, if_false,
    Bool.not_true]

/-- Writing a part of a body keeps the response streaming. -/
theorem Streaming.write (streaming : Streaming fwd head declared total)
    (held : Option UInt8) (rcv : Nat) (pieces : List Bytes) {next : Bytes}
    (counted : declared ≠ none → rcv = min next.length wordMax) : Streaming { fwd with
      receivedLen := rcv
      heldLast := held
      socket := { fwd.socket with
        sent := fwd.socket.sent ++ pieces.map .body } } head declared next := by
  obtain ⟨pre, sent⟩ := streaming.sent
  exact { streaming with
    received := counted
    sent := ⟨pre ++ pieces.flatten, sent.append pieces⟩ }

theorem saturatingAdd_min (total more : Nat) : saturatingAdd (min total wordMax) more = min (total + more) wordMax := by
  simp only [saturatingAdd]
  omega

theorem Streaming.counts (streaming : Streaming fwd head (some length) total)
    (bytes : Bytes) : saturatingAdd fwd.receivedLen bytes.length = min (total ++ bytes).length wordMax := by
  rw [streaming.received (by simp), saturatingAdd_min, length_append]

theorem Streamed.receive_undeclared (streamed : Streamed fwd head none total) (bytes : Bytes) :
    ∃ next, fwd.handleBody bytes = (next, .continue_) ∧ Streamed next head none (total ++ bytes) := by
  obtain ⟨pieces, flat, wrote⟩ := writeBody_accepted fwd streamed.answers bytes
  obtain ⟨pre, sent, whole⟩ := streamed.whole
  have unheld : fwd.heldLast = none := by
    have held := streamed.held
    simpa using held
  rw [unheld, toList_none, append_nil] at whole
  refine ⟨_, (streamed.handleBody_undeclared bytes).trans wrote, ?_⟩
  exact {
    toStreaming := streamed.write _ _ pieces fun declared => absurd rfl declared
    whole := ⟨pre ++ pieces.flatten, sent.append pieces, by
      rw [unheld, whole, flat, toList_none, append_nil]⟩
    held := by simp [unheld]
    within := by simp }

theorem Streamed.receive_declared (streamed : Streamed fwd head (some length) total)
    {bytes : Bytes} (fits : (total ++ bytes).length ≤ length) (bounded : length ≤ wordMax) :
    ∃ next, fwd.handleBody bytes = (next, .continue_) ∧ Streamed next head (some length) (total ++ bytes) := by
  have counted : saturatingAdd fwd.receivedLen bytes.length = (total ++ bytes).length := by
    rw [streamed.counts]
    omega
  have unsaturated : (total ++ bytes).length = min (total ++ bytes).length wordMax := by omega
  have within : ∀ other, some length = some other → (total ++ bytes).length ≤ other := by
    rintro _ ⟨⟩
    exact fits
  obtain ⟨pre, sent, whole⟩ := streamed.whole
  rw [streamed.handleBody_declared]
  simp only [ResponseForwarder.writeDeclared, counted, gt_iff_lt, Nat.not_lt.mpr fits, if_false]
  by_cases empty : bytes = []
  · subst empty
    rw [append_nil] at fits unsaturated ⊢
    exact ⟨{ fwd with receivedLen := total.length }, by simp [ResponseForwarder.writeBody],
      { streamed with received := fun _ => unsaturated }⟩
  · have some_bytes : 0 < bytes.length := length_pos_iff.mpr empty
    -- The length was not reached before, so nothing is held yet.
    have unheld : fwd.heldLast = none := by
      cases last : fwd.heldLast with
      | none => rfl
      | some byte =>
        have reached : some length = some total.length := streamed.held.mp (by rw [last]; rfl)
        cases reached
        rw [length_append] at fits
        omega
    rw [unheld, toList_none, append_nil] at whole
    by_cases reached : (total ++ bytes).length = length
    · rw [if_pos ⟨reached, empty⟩]
      obtain ⟨pieces, flat, wrote⟩ := writeBody_accepted { fwd with
        receivedLen := (total ++ bytes).length, heldLast := bytes.getLast? }
        streamed.answers bytes.dropLast
      refine ⟨_, wrote, ?_⟩
      exact {
        toStreaming := streamed.write _ _ pieces fun _ => unsaturated
        whole := ⟨pre ++ pieces.flatten, sent.append pieces, by
          rw [whole, flat, append_assoc, getLast?_eq_some_getLast empty, toList_some, dropLast_append_getLast]⟩
        held := by simp [getLast?_eq_some_getLast empty, ← reached]
        within := within }
    · rw [if_neg fun hit => reached hit.1]
      obtain ⟨pieces, flat, wrote⟩ := writeBody_accepted { fwd with
        receivedLen := (total ++ bytes).length } streamed.answers bytes
      refine ⟨_, wrote, ?_⟩
      exact {
        toStreaming := streamed.write _ _ pieces fun _ => unsaturated
        whole := ⟨pre ++ pieces.flatten, sent.append pieces, by
          rw [unheld, whole, flat, toList_none, append_nil]⟩
        held := by
          rw [unheld, some.injEq]
          simp only [isSome_none, Bool.false_eq_true, false_iff]
          exact fun equal => reached equal.symm
        within := within }

theorem Streaming.overrun (streaming : Streaming fwd head (some length) total)
    {bytes : Bytes} (past : length < (total ++ bytes).length)
    (small : length < wordMax ∨ (total ++ bytes).length ≤ wordMax) : fwd.handleBody bytes =
      ({ fwd with socket := fwd.socket.shutdown }.cancel, .handled) := by
  rw [streaming.handleBody_declared]
  simp only [ResponseForwarder.writeDeclared, streaming.counts]
  rw [if_pos]
  omega

theorem Streaming.saturates (streaming : Streaming fwd head (some wordMax) total) (bytes : Bytes) :
    ∃ next, fwd.handleBody bytes = (next, .continue_) ∧ Streaming next head (some wordMax) (total ++ bytes) := by
  have below : ¬ min (total ++ bytes).length wordMax > wordMax := by omega
  rw [streaming.handleBody_declared]
  simp only [ResponseForwarder.writeDeclared, streaming.counts, if_neg below]
  split
  · obtain ⟨pieces, -, wrote⟩ := writeBody_accepted { fwd with
      receivedLen := min (total ++ bytes).length wordMax, heldLast := bytes.getLast? }
      streaming.answers bytes.dropLast
    exact ⟨_, wrote, streaming.write _ _ pieces fun _ => rfl⟩
  · obtain ⟨pieces, -, wrote⟩ := writeBody_accepted { fwd with
      receivedLen := min (total ++ bytes).length wordMax } streaming.answers bytes
    exact ⟨_, wrote, streaming.write _ _ pieces fun _ => rfl⟩

/-! ### All body events of a response -/

theorem receive_body {next : ResponseForwarder} {bytes : Bytes} (rest : List Received)
    (goes : fwd.handleBody bytes = (next, .continue_)) :
    fwd.receive (.item (.body bytes) :: rest) = next.receive rest := by
  simp only [ResponseForwarder.receive, ResponseForwarder.handle, goes]

theorem Streamed.run_undeclared (streamed : Streamed fwd head none total) (bodies : List Bytes) :
    ∃ next, (∀ rest, fwd.receive (bodyItems bodies ++ rest) = next.receive rest) ∧
      Streamed next head none (total ++ bodies.flatten) := by
  induction bodies generalizing fwd total with
  | nil => exact ⟨fwd, fun _ => rfl, by simpa using streamed⟩
  | cons bytes bodies ih =>
    obtain ⟨_, goes, after⟩ := streamed.receive_undeclared bytes
    obtain ⟨next, ran, _⟩ := ih after
    refine ⟨next, fun rest => (receive_body _ goes).trans (ran rest), ?_⟩
    rwa [flatten_cons, ← append_assoc]

section
variable (streamed : Streamed fwd head (some length) total) (bodies : List Bytes)
include streamed bodies

theorem Streamed.run_declared (fits : (total ++ bodies.flatten).length ≤ length) (bounded : length ≤ wordMax) :
    ∃ next, (∀ rest, fwd.receive (bodyItems bodies ++ rest) = next.receive rest) ∧
      Streamed next head (some length) (total ++ bodies.flatten) := by
  induction bodies generalizing fwd total with
  | nil => exact ⟨fwd, fun _ => rfl, by simpa using streamed⟩
  | cons bytes bodies ih =>
    rw [flatten_cons, ← append_assoc] at fits ⊢
    have fst : (total ++ bytes).length ≤ length := by
      rw [length_append] at fits
      omega
    obtain ⟨_, goes, after⟩ := streamed.receive_declared fst bounded
    obtain ⟨next, ran, last⟩ := ih after fits
    exact ⟨next, fun rest => (receive_body _ goes).trans (ran rest), last⟩

/-- More body than was declared ends the response where it stands. -/
theorem Streamed.run_overrun (past : length < (total ++ bodies.flatten).length) (bounded : length ≤ wordMax)
    (small : length < wordMax ∨ (total ++ bodies.flatten).length ≤ wordMax) :
    ∃ last front, (∀ rest, fwd.receive (bodyItems bodies ++ rest) =
        ({ last with socket := last.socket.shutdown }.cancel, .handled)) ∧
      Streamed last head (some length) front ∧ front <+: total ++ bodies.flatten := by
  induction bodies generalizing fwd total with
  | nil =>
    have within := streamed.within length rfl
    rw [flatten_nil, append_nil] at past
    omega
  | cons bytes bodies ih =>
    rw [flatten_cons, ← append_assoc] at past small ⊢
    by_cases fits : (total ++ bytes).length ≤ length
    · obtain ⟨_, goes, after⟩ := streamed.receive_declared fits bounded
      obtain ⟨last, front, ran, stands, part⟩ := ih after past small
      exact ⟨last, front, fun rest => (receive_body _ goes).trans (ran rest), stands, part⟩
    · have hd := streamed.overrun (Nat.lt_of_not_le fits) (small.imp_right fun all => by
        rw [length_append] at all
        omega)
      refine ⟨fwd, total, ?_, streamed, ?_⟩
      · intro rest
        simp only [bodyItems, map_cons, cons_append, ResponseForwarder.receive, ResponseForwarder.handle, hd]
      · rw [append_assoc]
        exact prefix_append _ _

end

theorem Streaming.run_saturates (streaming : Streaming fwd head (some wordMax) total) (bodies : List Bytes) :
    ∃ next, (∀ rest, fwd.receive (bodyItems bodies ++ rest) = next.receive rest) ∧
      Streaming next head (some wordMax) (total ++ bodies.flatten) := by
  induction bodies generalizing fwd total with
  | nil => exact ⟨fwd, fun _ => rfl, by simpa using streaming⟩
  | cons bytes bodies ih =>
    obtain ⟨_, goes, after⟩ := streaming.saturates bytes
    obtain ⟨next, ran, _⟩ := ih after
    refine ⟨next, fun rest => (receive_body _ goes).trans (ran rest), ?_⟩
    rwa [flatten_cons, ← append_assoc]

/-! ### The end of a response -/

theorem Streaming.complete_iff (streaming : Streaming fwd head declared total) : fwd.streamComplete = true ↔
      ∀ length, declared = some length → length = min total.length wordMax := by
  rw [ResponseForwarder.streamComplete, streaming.declaredLen]
  cases kn : declared with
  | none => simp
  | some length => simp [streaming.received (by simp [kn])]

theorem Streaming.finish_sent (streaming : Streaming fwd head declared total)
    (complete : fwd.streamComplete = true) {body : Bytes} (sent : fwd.socket.Sent head body) :
    fwd.finish.socket.Sent head (body ++ fwd.heldLast.toList) := by
  simp only [ResponseForwarder.finish, ResponseForwarder.finishStreaming, streaming.mode,
    streaming.undeferred, streaming.written, if_true, complete]
  cases held : fwd.heldLast with
  | none =>
    rw [toList_none, append_nil]
    exact sent
  | some last =>
    simp only [LocalSocket.write, streaming.answers]
    exact sent.append [[last]]

theorem Streamed.finish_complete (streamed : Streamed fwd head declared total)
    (complete : fwd.streamComplete = true) : fwd.finish.socket.Sent head total := by
  obtain ⟨_, sent, rfl⟩ := streamed.whole
  exact streamed.finish_sent complete sent

theorem Streaming.finish_incomplete (streaming : Streaming fwd head declared total)
    (short : fwd.streamComplete = false) : fwd.finish.socket = fwd.socket.shutdown := by
  simp [ResponseForwarder.finish, ResponseForwarder.finishStreaming, streaming.mode,
    streaming.undeferred, streaming.written, short]

theorem Streaming.fail (streaming : Streaming fwd head declared total) :
    fwd.fail.socket = fwd.socket.shutdown := by
  simp [ResponseForwarder.fail, streaming.mode, streaming.written]

/-- What has gone out before the end is short of the declared length. -/
theorem Streamed.short (streamed : Streamed fwd head (some length) total) :
    ∃ body, fwd.socket.Sent head body ∧ body <+: total ∧ body.length < length := by
  obtain ⟨body, sent, whole⟩ := streamed.whole
  refine ⟨body, sent, ⟨_, whole⟩, ?_⟩
  have within := streamed.within length rfl
  have counted := congrArg List.length whole
  rw [length_append] at counted
  cases held : fwd.heldLast with
  | none =>
    have unreached : total.length ≠ length := by
      intro equal
      have reached := streamed.held.mpr (by rw [equal])
      rw [held] at reached
      cases reached
    rw [held, toList_none, length_nil] at counted
    omega
  | some last =>
    rw [held, toList_some, length_singleton] at counted
    omega

end

/-- The head of a streamed response, as the local caller gets it. -/
def streamedHead (runtime : BridgeRuntime) (head : HttpHead) (contentLength : Option Nat) :
    LocalWrite :=
  .head head.status (Core.responseHeaders head.headers runtime.journalHosts runtime.loopbackOrigin
    runtime.bridgeNames) contentLength

/-- The length that a streamed response declares to a caller who did not ask with HEAD. -/
def declaredLength (head : HttpHead) : Option Nat :=
  if statusPermitsBody head.status && !hasTransferEncoding head.headers then
    upstreamContentLength head.headers
  else none

theorem upstreamContentLength_le {headers : Headers} {length : Nat}
    (declares : upstreamContentLength headers = some length) : length ≤ wordMax := by
  obtain ⟨_, -, parsed⟩ := bind_eq_some_iff.mp declares
  exact parseUnsigned_le parsed

section
variable (runtime : BridgeRuntime) {requestHead : RequestHead} {head : HttpHead}

theorem isHead_newForwarder (mode : ResponseMode) (method : requestHead.method ≠ "HEAD".toList) :
    (newForwarder runtime requestHead mode).isHead = false := by
  simpa [ResponseForwarder.isHead, newForwarder] using method

theorem streamedLength_newForwarder (head : HttpHead) (method : requestHead.method ≠ "HEAD".toList) :
    (newForwarder runtime requestHead .streaming).streamedLength head = declaredLength head := by
  rw [ResponseForwarder.streamedLength, isHead_newForwarder runtime _ method]
  rfl

theorem receive_head {fwd next : ResponseForwarder} (rest : List Received)
    (goes : fwd.handleHead head = (next, .continue_)) :
    fwd.receive (.item (.head head) :: rest) = next.receive rest := by
  simp only [ResponseForwarder.receive, ResponseForwarder.handle, goes]

/-- The head of a streamed response goes out at once, unless it declares an empty body. -/
theorem receive_streamedHead {declared : Option Nat}
    (method : requestHead.method ≠ "HEAD".toList) (declares : declaredLength head = declared)
    (nonempty : declared ≠ some 0) : ∃ next, (∀ rest, (newForwarder runtime requestHead .streaming).receive
        (.item (.head head) :: rest) = next.receive rest) ∧
      Streamed next (streamedHead runtime head declared) declared [] := by
  have plain := isHead_newForwarder runtime .streaming method
  have kn := streamedLength_newForwarder runtime head method
  rw [declares] at kn
  refine ⟨{ newForwarder runtime requestHead .streaming with
    declaredLen := declared
    headWritten := true
    socket := { sent := [streamedHead runtime head declared] } }, ?_, ?_⟩
  · intro rest
    apply receive_head
    simp only [ResponseForwarder.handleHead, kn, plain, if_neg nonempty, Bool.false_eq_true, if_false]
    rfl
  · exact {
      mode := rfl
      method := plain
      undeferred := rfl
      written := rfl
      declaredLen := rfl
      answers := rfl
      received := fun _ => by simp [newForwarder]
      sent := ⟨[], [], rfl, rfl, rfl⟩
      whole := ⟨[], ⟨[], rfl, rfl, rfl⟩, rfl⟩
      held := by simpa [newForwarder] using nonempty
      within := by simp }

theorem receive_terminal (fwd : ResponseForwarder) (ending : Option StreamEnd) :
    fwd.receive [terminal ending] = (fwd, if ending = some .close then .finished else .failed) := by
  cases ending with
  | none => rfl
  | some how =>
    cases how with
    | close | reset | eof => rfl

/-- The local caller of a streamed response with a declared length gets its head and a front of
its body: all of it exactly when the stream was closed at the declared length, and less than the
declared length otherwise. -/
theorem streamed_declared_length (requestHead : RequestHead) (head : HttpHead)
    (bodies : List Bytes) (ending : Option StreamEnd) {length : Nat}
    (method : requestHead.method ≠ "HEAD".toList)
    (permits : statusPermitsBody head.status = true)
    (plain : hasTransferEncoding head.headers = false)
    (declares : upstreamContentLength head.headers = some length) (positive : 0 < length)
    (small : length < wordMax ∨ bodies.flatten.length ≤ wordMax) :
    ∃ body, ((newForwarder runtime requestHead .streaming).forward (responseItems head bodies ending)).socket.bytes =
        (streamedHead runtime head (some length)).bytes ++ body ∧
      body <+: bodies.flatten ∧
      (body.length = length ↔ ending = some .close ∧ bodies.flatten.length = length) ∧
      (¬ (ending = some .close ∧ bodies.flatten.length = length) → body.length < length) := by
  have bounded := upstreamContentLength_le declares
  have known : declaredLength head = some length := by simp [declaredLength, permits, plain, declares]
  -- Whatever stops short of the declared length satisfies the claim.
  have shortfall {socket : LocalSocket} {front : Bytes} {last : ResponseForwarder}
      (stands : Streamed last (streamedHead runtime head (some length)) (some length) front)
      (same : socket = last.socket.shutdown) (part : front <+: bodies.flatten)
      (unfinished : ¬ (ending = some .close ∧ bodies.flatten.length = length)) :
      ∃ body, socket.bytes = (streamedHead runtime head (some length)).bytes ++ body ∧ body <+: bodies.flatten ∧
        (body.length = length ↔ ending = some .close ∧ bodies.flatten.length = length) ∧
        (¬ (ending = some .close ∧ bodies.flatten.length = length) → body.length < length) := by
    obtain ⟨body, sent, initial, less⟩ := stands.short
    exact ⟨body, by rw [same]; exact sent.shutdown.bytes, initial.trans part,
      ⟨fun equal => by omega, fun done => absurd done unfinished⟩, fun _ => less⟩
  have nonempty : some length ≠ some 0 := fun equal => by cases equal; omega
  obtain ⟨_, started, streamed⟩ := receive_streamedHead runtime method known nonempty
  rw [ResponseForwarder.forward, responseItems, started]
  by_cases fits : bodies.flatten.length ≤ length
  · obtain ⟨last, ran, stands⟩ := streamed.run_declared bodies fits bounded
    rw [ran, receive_terminal]
    rw [nil_append] at stands
    by_cases closes : ending = some .close
    · rw [if_pos closes]
      have complete_iff := stands.complete_iff
      simp only [some.injEq, forall_eq'] at complete_iff
      by_cases reached : bodies.flatten.length = length
      · have sent := stands.finish_complete (complete_iff.mpr (by omega))
        exact ⟨bodies.flatten, sent.bytes, prefix_rfl, by simp [closes], by simp [closes, reached]⟩
      · have incomplete : last.streamComplete = false := by
          rw [← Bool.not_eq_true]
          intro complete
          have counted := complete_iff.mp complete
          omega
        exact shortfall stands (stands.finish_incomplete incomplete) prefix_rfl fun done => reached done.2
    · rw [if_neg closes]
      exact shortfall stands stands.fail prefix_rfl fun done => closes done.1
  · obtain ⟨_, _, ran, stands, part⟩ := streamed.run_overrun bodies (Nat.lt_of_not_le fits) bounded small
    rw [ran]
    exact shortfall stands rfl part fun done => fits (Nat.le_of_eq done.2)

end

/-- A head that declares two bytes. -/
def shortHead : HttpHead := ⟨200, [("content-length".toList, "2".toList)]⟩

def getRequest : RequestHead := ⟨"GET".toList, "/".toList, []⟩

def plainRuntime : BridgeRuntime := ⟨[], [], ⟨[], [], [], []⟩⟩

theorem streamed_declared_length_two : upstreamContentLength shortHead.headers = some 2 ∧
      ∃ body, ((newForwarder plainRuntime getRequest .streaming).forward
            (responseItems shortHead [[7], [], [8]] (some .close))).socket.bytes =
          (streamedHead plainRuntime shortHead (some 2)).bytes ++ body ∧
        body <+: [7, 8] ∧
        (body.length = 2 ↔ some StreamEnd.close = some .close ∧ ([7, 8] : Bytes).length = 2) ∧
        (¬ (some StreamEnd.close = some .close ∧ ([7, 8] : Bytes).length = 2) → body.length < 2) :=
  ⟨by decide +kernel, streamed_declared_length plainRuntime getRequest shortHead [[7], [], [8]]
    (some .close) (by decide) (by decide) (by decide +kernel) (by decide +kernel) (by decide)
    (Or.inl (by decide))⟩

/-- A body event that crosses the largest length goes out but for its last byte. -/
theorem Streamed.crosses {fwd : ResponseForwarder} {total : Bytes}
    (streamed : Streamed fwd head (some wordMax) total) (bytes : Bytes)
    (unreached : total.length < wordMax) (past : wordMax < (total ++ bytes).length) :
    ∃ next, (∀ rest, fwd.receive (.item (.body bytes) :: rest) = next.receive rest) ∧
      Streaming next head (some wordMax) (total ++ bytes) ∧ next.socket.Sent head (total ++ bytes.dropLast) := by
  obtain ⟨_, sent, whole⟩ := streamed.whole
  have unheld : fwd.heldLast = none := by
    cases last : fwd.heldLast with
    | none => rfl
    | some byte =>
      have reached : some wordMax = some total.length := streamed.held.mp (by rw [last]; rfl)
      rw [some.injEq] at reached
      omega
  rw [unheld, toList_none, append_nil] at whole
  have nonempty : bytes ≠ [] := by
    rintro rfl
    rw [append_nil] at past
    omega
  have counted : saturatingAdd fwd.receivedLen bytes.length = wordMax := by
    rw [streamed.counts]
    omega
  obtain ⟨pieces, flat, wrote⟩ := writeBody_accepted { fwd with
    receivedLen := wordMax, heldLast := bytes.getLast? } streamed.answers bytes.dropLast
  refine ⟨_, fun rest => receive_body rest ?_, streamed.write bytes.getLast? wordMax pieces fun _ => ?_, ?_⟩
  · rw [streamed.handleBody_declared]
    simp only [ResponseForwarder.writeDeclared, counted, gt_iff_lt, Nat.lt_irrefl, if_false]
    rw [if_pos ⟨trivial, nonempty⟩]
    exact wrote
  · omega
  · have more := sent.append pieces
    rw [whole, flat] at more
    exact more

/-- A head that declares the largest length. -/
def longHead : HttpHead := ⟨200, [("content-length".toList, "18446744073709551615".toList)]⟩

theorem longHead_length : declaredLength longHead = some wordMax := by decide +kernel

/-- A response that stands one byte before the largest length, then passes it and breaks off. -/
theorem receive_past_largest {front : List Bytes} (near : front.flatten.length = wordMax - 1) :
    ∃ body, ((newForwarder plainRuntime getRequest .streaming).forward
        (responseItems longHead (front ++ [[0, 0, 0]]) (some .eof))).socket.bytes =
      (streamedHead plainRuntime longHead (some wordMax)).bytes ++ body ∧ body.length = wordMax + 1 := by
  obtain ⟨_, started, streamed⟩ := receive_streamedHead plainRuntime
    (show getRequest.method ≠ "HEAD".toList by decide) longHead_length (by decide)
  obtain ⟨_, ran, stands⟩ := streamed.run_declared front (by rw [nil_append, near]; omega) (Nat.le_refl _)
  rw [nil_append] at stands
  obtain ⟨third, crossed, streaming, sent⟩ := stands.crosses [0, 0, 0]
    (by rw [near]; decide) (by rw [length_append, near]; decide)
  have items : responseItems longHead (front ++ [[0, 0, 0]]) (some .eof) =
      .item (.head longHead) :: (bodyItems front ++ .item (.body [0, 0, 0]) :: [terminal (some .eof)]) := by
    simp [responseItems, bodyItems]
  have failed : third.fail.socket.Sent (streamedHead plainRuntime longHead (some wordMax))
      (front.flatten ++ [0, 0]) := by
    rw [streaming.fail]
    exact sent.shutdown
  refine ⟨front.flatten ++ [0, 0], ?_, ?_⟩
  · rw [ResponseForwarder.forward, items, started, ran, crossed, receive_terminal]
    exact failed.bytes
  · rw [length_append, near]
    decide

/-- Body events that pass the largest length by two bytes. -/
def longBodies : List Bytes := [List.replicate (2 ^ 63 - 1) 0, List.replicate (2 ^ 63 - 1) 0] ++ [[0, 0, 0]]

/-- The count of the bytes received stops at the largest length, so a response that declares it
and then passes it and breaks off has more written than it declared. -/
theorem largest_length_overrun : getRequest.method ≠ "HEAD".toList ∧ statusPermitsBody longHead.status = true ∧
      hasTransferEncoding longHead.headers = false ∧
      upstreamContentLength longHead.headers = some wordMax ∧
      ∃ body, ((newForwarder plainRuntime getRequest .streaming).forward
          (responseItems longHead longBodies (some .eof))).socket.bytes =
        (streamedHead plainRuntime longHead (some wordMax)).bytes ++ body ∧
      body.length = wordMax + 1 := by
  refine ⟨by decide, by decide, by decide +kernel, by decide +kernel, receive_past_largest ?_⟩
  rw [flatten_cons, flatten_singleton, length_append, length_replicate]
  decide

end SplRust.Transport
