import SplRust.Transport.ForwardedLength

/-! The two modes of `ResponseForwarder` on one response that the journal closed. They decide by
different rules whether its body is complete. -/

namespace SplRust.Transport
open SplRust.Lib SplRust.Core List ResponseForwarder

variable (fwd : ResponseForwarder)

/-- A response closed by the journal, as the receiver returns it. -/
def closedResponse (early : Bool) (head : HttpHead) (bodies : List Bytes) : List Received :=
  (if early then .early head else .item (.head head)) :: (bodyItems bodies ++ [terminal (some .close)])

/-- The socket got a head with this status and this body. -/
def LocalSocket.Wrote (socket : LocalSocket) (status : Nat) (body : Bytes) : Prop :=
  ∃ headers declared, socket.Sent (.head status headers declared) body

/-- A forwarder in streaming mode writes a head with this status and a body that its `finish`
takes for complete. -/
def StreamsComplete (received : List Received) (status : Nat) (body : Bytes) : Prop :=
  ∃ last, fwd.receive received = (last, .finished) ∧
    (last.deferredHead.isSome = true ∨ last.headWritten = true ∧ last.streamComplete = true) ∧
    last.finish.socket.Wrote status body

/-- A length that the count of received bytes tells apart from every other. -/
def Countable (length : Nat) (bodies : List Bytes) : Prop := length < wordMax ∨ bodies.flatten.length ≤ wordMax

theorem LocalSocket.Wrote.unique {socket : LocalSocket} {head : LocalWrite} {status : Nat}
    {body other : Bytes} (wrote : socket.Wrote status body) (sent : socket.Sent head other) : body = other := by
  obtain ⟨_, _, _, writes, rfl, -⟩ := wrote
  obtain ⟨_, same, rfl, -⟩ := sent
  rw [writes] at same
  obtain ⟨-, bodies⟩ := List.cons.inj same
  rw [map_injective_iff.mpr (fun _ _ equal => LocalWrite.body.inj equal) bodies]

section
variable {bodies : List Bytes} {length : Nat}
variable (runtime : BridgeRuntime) {requestHead : RequestHead} {head : HttpHead}

/-! ### Buffered -/

theorem receive_buffered (mode : fwd.mode = .buffered)
    (bodies : List Bytes) (rest : List Received) : fwd.receive (bodyItems bodies ++ rest) =
      { fwd with body := fwd.body ++ bodies.flatten }.receive rest := by
  induction bodies generalizing fwd with
  | nil => simp [bodyItems]
  | cons bs bodies ih =>
    have goes : fwd.handleBody bs = ({ fwd with body := fwd.body ++ bs }, .continue_) := by
      simp only [handleBody, mode]
    rw [bodyItems, map_cons, cons_append, receive_body _ goes]
    rw [flatten_cons, ← append_assoc]
    exact ih _ mode

/-- What a buffered forwarder holds when the stream is closed. -/
def bufferedForwarder (requestHead : RequestHead) (head : HttpHead) (bodies : List Bytes) :
    ResponseForwarder :=
  { newForwarder runtime requestHead .buffered with head := some head, body := bodies.flatten }

theorem forward_buffered (requestHead : RequestHead) (head : HttpHead) (bodies : List Bytes) :
    (newForwarder runtime requestHead .buffered).forward (closedResponse false head bodies) =
      (bufferedForwarder runtime requestHead head bodies).finishBuffered := by
  have started : (newForwarder runtime requestHead .buffered).handleHead head =
      ({ newForwarder runtime requestHead .buffered with head := some head }, .continue_) := rfl
  have items : closedResponse false head bodies =
      .item (.head head) :: (bodyItems bodies ++ [terminal (some .close)]) := rfl
  rw [forward, items, receive_head _ started, receive_buffered _ rfl, receive_terminal]
  rfl

theorem buffered_head (method : requestHead.method = "HEAD".toList) (bodies : List Bytes) :
    ((newForwarder runtime requestHead .buffered).forward
      (closedResponse false head bodies)).socket.Wrote head.status [] := by
  have asks : (bufferedForwarder runtime requestHead head bodies).isHead = true := by
    simp [isHead, bufferedForwarder, newForwarder, method]
  rw [forward_buffered]
  simp only [finishBuffered, bufferedForwarder] at asks ⊢
  simp only [asks, Bool.not_true, Bool.false_and, Bool.false_eq_true, if_false, if_true]
  exact ⟨_, _, [[]], rfl, rfl, rfl⟩

theorem buffered_body (method : requestHead.method ≠ "HEAD".toList)
    (agrees : ∀ length, upstreamContentLength head.headers = some length →
      length = bodies.flatten.length) : ((newForwarder runtime requestHead .buffered).forward
      (closedResponse false head bodies)).socket.Wrote head.status bodies.flatten := by
  have plain : (bufferedForwarder runtime requestHead head bodies).isHead = false :=
    isHead_newForwarder runtime .buffered method
  have allowed : (upstreamContentLength head.headers).any (· != bodies.flatten.length) = false := by
    cases declares : upstreamContentLength head.headers with
    | none => rfl
    | some length => simp [agrees length declares]
  rw [forward_buffered]
  simp only [finishBuffered, bufferedForwarder] at plain ⊢
  simp only [plain, allowed, Bool.not_false, Bool.true_and, Bool.false_eq_true, if_false]
  exact ⟨_, _, [bodies.flatten], rfl, by simp, rfl⟩

theorem buffered_refused (method : requestHead.method ≠ "HEAD".toList)
    (declares : upstreamContentLength head.headers = some length) (differs : length ≠ bodies.flatten.length) :
    ((newForwarder runtime requestHead .buffered).forward
      (closedResponse false head bodies)).socket.sent = [.reply 502 unreachable] := by
  have plain : (bufferedForwarder runtime requestHead head bodies).isHead = false :=
    isHead_newForwarder runtime .buffered method
  have refused : (upstreamContentLength head.headers).any (· != bodies.flatten.length) = true := by
    simpa [declares] using differs
  rw [forward_buffered]
  simp only [finishBuffered, bufferedForwarder] at plain ⊢
  simp only [plain, refused, Bool.not_false, Bool.true_and, if_true]
  rfl

/-! ### Streaming -/

theorem receive_bodyless (mode : fwd.mode = .streaming)
    (undeferred : fwd.deferredHead = none) (written : fwd.headWritten = true)
    (asks : fwd.isHead = true) (bodies : List Bytes) (rest : List Received) :
    fwd.receive (bodyItems bodies ++ rest) = fwd.receive rest := by
  induction bodies with
  | nil => rfl
  | cons bs bodies ih =>
    have goes : fwd.handleBody bs = (fwd, .continue_) := by simp [handleBody, mode, undeferred, written, asks]
    rw [bodyItems, map_cons, cons_append, receive_body _ goes]
    exact ih

theorem streams_head (method : requestHead.method = "HEAD".toList) (head : HttpHead) (bodies : List Bytes) :
    ∃ last written, (newForwarder runtime requestHead .streaming).receive
        (closedResponse false head bodies) = (last, .finished) ∧ last.finish.socket.Sent written [] := by
  have asks : (newForwarder runtime requestHead .streaming).isHead = true := by simp [isHead, newForwarder, method]
  let written := streamedHead runtime head ((newForwarder runtime requestHead .streaming).streamedLength head)
  let last : ResponseForwarder := { newForwarder runtime requestHead .streaming with
    headWritten := true, socket := { sent := [written] } }
  have started : (newForwarder runtime requestHead .streaming).handleHead head = (last, .continue_) := by
    simp only [handleHead, asks, if_true]
    rfl
  refine ⟨last, written, ?_, [], rfl, rfl, rfl⟩
  exact (receive_head _ started).trans
    ((receive_bodyless last rfl rfl rfl asks bodies _).trans (receive_terminal last _))

theorem streams_undeclared (method : requestHead.method ≠ "HEAD".toList)
    (undeclared : declaredLength head = none) (bodies : List Bytes) :
    ∃ last, (newForwarder runtime requestHead .streaming).receive
        (closedResponse false head bodies) = (last, .finished) ∧ last.headWritten = true ∧ last.streamComplete = true ∧
      last.finish.socket.Sent (streamedHead runtime head none) bodies.flatten := by
  obtain ⟨_, started, streamed⟩ := receive_streamedHead runtime method undeclared (by simp)
  obtain ⟨last, ran, stands⟩ := streamed.run_undeclared bodies
  have complete : last.streamComplete = true := stands.complete_iff.mpr (by simp)
  refine ⟨last, ?_, stands.written, complete, stands.finish_complete complete⟩
  exact (started _).trans ((ran _).trans (receive_terminal last _))

/-- What a forwarder holds of a response that declared an empty body. -/
def deferredForwarder (requestHead : RequestHead) (head : HttpHead) : ResponseForwarder :=
  { newForwarder runtime requestHead .streaming with
    declaredLen := some 0
    deferredHead := some (head.status, Core.responseHeaders head.headers runtime.journalHosts
      runtime.loopbackOrigin runtime.bridgeNames) }

theorem receive_deferred (bodies : List Bytes) (rest : List Received) :
    (deferredForwarder runtime requestHead head).receive (bodyItems bodies ++ rest) =
      if bodies.flatten = [] then (deferredForwarder runtime requestHead head).receive rest
      else (deferredForwarder runtime requestHead head, .failed) := by
  induction bodies with
  | nil => rfl
  | cons bs bodies ih =>
    by_cases empty : bs = []
    · have goes : (deferredForwarder runtime requestHead head).handleBody bs =
          (deferredForwarder runtime requestHead head, .continue_) := by
        simp [handleBody, deferredForwarder, newForwarder, empty]
      rw [bodyItems, map_cons, cons_append, receive_body _ goes, flatten_cons, empty, nil_append]
      exact ih
    · have stops : (deferredForwarder runtime requestHead head).handleBody bs =
          (deferredForwarder runtime requestHead head, .incomplete) := by
        simp [handleBody, deferredForwarder, newForwarder, empty]
      rw [if_neg (by simp [empty])]
      simp only [bodyItems, map_cons, cons_append, receive, handle, stops]

section
variable (method : requestHead.method ≠ "HEAD".toList)
include method

theorem streams_empty (declares : declaredLength head = some 0) (bodies : List Bytes) :
    (newForwarder runtime requestHead .streaming).receive (closedResponse false head bodies) =
      (deferredForwarder runtime requestHead head, if bodies.flatten = [] then .finished else .failed) := by
  have started : (newForwarder runtime requestHead .streaming).handleHead head =
      (deferredForwarder runtime requestHead head, .continue_) := by
    simp only [handleHead, streamedLength_newForwarder runtime head method,
      declares, isHead_newForwarder runtime .streaming method, Bool.false_eq_true, if_false, if_true]
    rfl
  refine (receive_head _ started).trans ((receive_deferred runtime bodies _).trans ?_)
  rw [receive_terminal]
  split <;> rfl

/-- A response with a declared length is taken for complete only at that length, as far as the
count of its bytes can tell. -/
theorem streams_declared (declares : declaredLength head = some length) (bounded : length ≤ wordMax)
    (countable : Countable length bodies) {body : Bytes} {status : Nat}
    (complete : StreamsComplete (newForwarder runtime requestHead .streaming)
      (closedResponse false head bodies) status body) : body = bodies.flatten ∧ length = bodies.flatten.length := by
  obtain ⟨last, finished, marks, wrote⟩ := complete
  by_cases empty : length = 0
  · subst empty
    rw [streams_empty runtime method declares] at finished
    split at finished
    next nothing =>
      cases finished
      have sent : (deferredForwarder runtime requestHead head).finish.socket.Sent
          (streamedHead runtime head (some 0)) [] := ⟨[], rfl, rfl, rfl⟩
      rw [nothing]
      exact ⟨wrote.unique sent, rfl⟩
    · cases finished
  · obtain ⟨fst, started, streamed⟩ := receive_streamedHead runtime method declares
      (fun equal => empty (Option.some.inj equal))
    have begun : (newForwarder runtime requestHead .streaming).receive (closedResponse false head bodies) =
          fst.receive (bodyItems bodies ++ [terminal (some .close)]) := started _
    rw [begun] at finished
    by_cases fits : bodies.flatten.length ≤ length
    · obtain ⟨_, ran, stands⟩ := streamed.run_declared bodies fits bounded
      rw [nil_append] at stands
      rw [ran, receive_terminal] at finished
      cases finished
      have whole : last.streamComplete = true := by
        rcases marks with deferred | marks
        · rw [stands.undeferred] at deferred
          cases deferred
        · exact marks.2
      have counted := stands.complete_iff.mp whole length rfl
      exact ⟨wrote.unique (stands.finish_complete whole), by omega⟩
    · obtain ⟨_, _, ran, -, -⟩ := streamed.run_overrun bodies (Nat.lt_of_not_le fits) bounded countable
      rw [ran] at finished
      cases finished

theorem streams_saturated (declares : declaredLength head = some wordMax) (past : wordMax < bodies.flatten.length) :
    ∃ body, StreamsComplete (newForwarder runtime requestHead .streaming)
      (closedResponse false head bodies) head.status body := by
  obtain ⟨_, started, streamed⟩ := receive_streamedHead runtime method declares (by decide)
  obtain ⟨last, ran, streaming⟩ := streamed.run_saturates bodies
  rw [nil_append] at streaming
  have complete : last.streamComplete = true := by
    rw [streaming.complete_iff]
    rintro _ ⟨⟩
    omega
  obtain ⟨_, sent⟩ := streaming.sent
  exact ⟨_, last, (started _).trans ((ran _).trans (receive_terminal last _)),
    Or.inr ⟨streaming.written, complete⟩, _, _, streaming.finish_sent complete sent⟩

end

/-- The condition under which the modes agree on a closed response. -/
def ModesAgree (requestHead : RequestHead) (early : Bool) (head : HttpHead) (bodies : List Bytes) : Prop :=
  early = true ∨ requestHead.method = "HEAD".toList ∨ ∀ length, upstreamContentLength head.headers = some length →
      length = bodies.flatten.length ∨
        statusPermitsBody head.status = true ∧ hasTransferEncoding head.headers = false ∧ Countable length bodies

/-- A response whose declared length disagrees with its body, streamed to its end all the same. -/
theorem streams_disagreeing (method : requestHead.method ≠ "HEAD".toList)
    (declares : upstreamContentLength head.headers = some length) (differs : length ≠ bodies.flatten.length)
    (loose : ¬ (statusPermitsBody head.status = true ∧ hasTransferEncoding head.headers = false ∧
      Countable length bodies)) : ∃ body, StreamsComplete (newForwarder runtime requestHead .streaming)
      (closedResponse false head bodies) head.status body := by
  by_cases framed : statusPermitsBody head.status = true ∧ hasTransferEncoding head.headers = false
  · -- The length counts, so it is the largest and the body is longer.
    have uncountable : ¬ Countable length bodies := fun countable =>
      loose ⟨framed.1, framed.2, countable⟩
    have bounded := upstreamContentLength_le declares
    simp only [Countable, not_or, Nat.not_lt, Nat.not_le] at uncountable
    obtain rfl : length = wordMax := by omega
    refine streams_saturated runtime method ?_ uncountable.2
    simp [declaredLength, framed.1, framed.2, declares]
  · have undeclared : declaredLength head = none := by
      rw [declaredLength, if_neg]
      simpa using framed
    obtain ⟨last, finished, written, complete, sent⟩ := streams_undeclared runtime method undeclared bodies
    exact ⟨_, last, finished, Or.inr ⟨written, complete⟩, _, _, sent⟩

/-- The body of a streamed response that is taken for complete is the body that was received,
where the modes agree. -/
theorem streams_agreeing (method : requestHead.method ≠ "HEAD".toList) {body : Bytes}
    (agree : ∀ length, upstreamContentLength head.headers = some length → length = bodies.flatten.length ∨
        statusPermitsBody head.status = true ∧ hasTransferEncoding head.headers = false ∧ Countable length bodies)
    (complete : StreamsComplete (newForwarder runtime requestHead .streaming)
      (closedResponse false head bodies) head.status body) :
    body = bodies.flatten ∧ ∀ length, upstreamContentLength head.headers = some length →
      length = bodies.flatten.length := by
  cases kn : declaredLength head with
  | none =>
    obtain ⟨_, finished, -, -, sent⟩ := streams_undeclared runtime method kn bodies
    obtain ⟨_, same, -, wrote⟩ := complete
    rw [finished] at same
    cases same
    refine ⟨wrote.unique sent, ?_⟩
    intro length declares
    rcases agree length declares with equal | ⟨permits, plain, -⟩
    · exact equal
    · simp [declaredLength, permits, plain, declares] at kn
  | some length =>
    have declares : upstreamContentLength head.headers = some length := by
      rw [declaredLength] at kn
      split at kn
      · exact kn
      · cases kn
    have bounded := upstreamContentLength_le declares
    have countable : Countable length bodies := by
      rcases agree length declares with equal | ⟨-, -, countable⟩
      · exact Or.inr (by omega)
      · exact countable
    obtain ⟨same, counted⟩ := streams_declared runtime method kn bounded countable complete
    refine ⟨same, ?_⟩
    intro other also
    rw [declares] at also
    cases also
    exact counted

/-- On a closed response that streaming writes as complete, buffering writes the same status and
the same body exactly under the condition; otherwise it answers with a local 502. -/
theorem modes_agree_iff (requestHead : RequestHead) (early : Bool) (head : HttpHead) (bodies : List Bytes) :
    (∀ body, StreamsComplete (newForwarder runtime requestHead .streaming)
        (closedResponse early head bodies) head.status body →
      ((newForwarder runtime requestHead .buffered).forward
        (closedResponse early head bodies)).socket.Wrote head.status body) ↔
      ModesAgree requestHead early head bodies := by
  cases early with
  | true =>
    refine ⟨fun _ => Or.inl rfl, fun _ body complete => ?_⟩
    obtain ⟨_, finished, -⟩ := complete
    cases finished
  | false =>
    by_cases method : requestHead.method = "HEAD".toList
    · refine ⟨fun _ => Or.inr (Or.inl method), fun _ body complete => ?_⟩
      obtain ⟨_, _, finished, sent⟩ := streams_head runtime method head bodies
      obtain ⟨_, same, -, wrote⟩ := complete
      rw [finished] at same
      cases same
      rw [wrote.unique sent]
      exact buffered_head runtime method bodies
    · constructor
      · intro agrees
        refine Or.inr (Or.inr fun length declares => ?_)
        by_contra disagree
        obtain ⟨differs, loose⟩ := not_or.mp disagree
        obtain ⟨body, complete⟩ := streams_disagreeing runtime method declares differs loose
        obtain ⟨_, _, _, writes, -⟩ := agrees body complete
        rw [buffered_refused runtime method declares differs] at writes
        cases writes
      · rintro (isEarly | asks | agree) body complete
        · cases isEarly
        · exact absurd asks method
        · obtain ⟨rfl, agrees⟩ := streams_agreeing runtime method agree complete
          exact buffered_body runtime method agrees

end

/-- The answer to a conditional request: no body, and the length of what was not sent. -/
def notModified : HttpHead := ⟨304, [("content-length".toList, "5".toList)]⟩

/-- A response without a body that names a length is streamed as it is, and refused when it is
buffered. -/
theorem not_modified_refused : StreamsComplete (newForwarder plainRuntime getRequest .streaming)
        (closedResponse false notModified []) 304 [] ∧
      ((newForwarder plainRuntime getRequest .buffered).forward
        (closedResponse false notModified [])).socket.sent = [.reply 502 unreachable] := by
  obtain ⟨last, finished, written, complete, sent⟩ := streams_undeclared plainRuntime
    (show getRequest.method ≠ "HEAD".toList by decide)
    (show declaredLength notModified = none by decide) []
  exact ⟨⟨last, finished, Or.inr ⟨written, complete⟩, _, _, sent⟩, buffered_refused plainRuntime (by decide)
      (show upstreamContentLength notModified.headers = some 5 by decide +kernel) (by decide)⟩

end SplRust.Transport
