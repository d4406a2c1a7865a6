import SplRust.Core.Chunked

/-! A chunked response on a stream, against the one-shot parser on the same bytes. -/

namespace SplRust.Core
open SplRust.Lib List

/-- The body bytes of an item. -/
def StreamItem.bytes : StreamItem → Bytes
  | .body bytes => bytes
  | _ => []

/-- The body that a list of events delivers. -/
def bodyOf (events : List StreamEvent) : Bytes := events.flatMap fun event => event.item.bytes

theorem bodyOf_append (early late : List StreamEvent) :
    bodyOf (early ++ late) = bodyOf early ++ bodyOf late := flatMap_append

namespace HttpStreamAssembler
variable {asm next : HttpStreamAssembler} {pl : Bytes} {es : List StreamEvent} {out : AssemblerOutput}

/-- `feed_data` on one payload after the other, with the events of all of them. -/
def feedAll : HttpStreamAssembler → List Bytes → HttpStreamAssembler × Except MuxError (List StreamEvent)
  | asm, [] => (asm, .ok [])
  | asm, payload :: payloads =>
      match asm.feedData payload with
      | (asm, .error err) => (asm, .error err)
      | (asm, .ok out) =>
          match feedAll asm payloads with
          | (asm, .error err) => (asm, .error err)
          | (asm, .ok events) => (asm, .ok (out.events ++ events))

theorem feedAll_cons {last : HttpStreamAssembler} {payloads : List Bytes}
    (fed : feedAll asm (pl :: payloads) = (last, .ok es)) :
    ∃ mid out later, asm.feedData pl = (mid, .ok out) ∧
      feedAll mid payloads = (last, .ok later) ∧ es = out.events ++ later := by
  simp only [feedAll] at fed
  split at fed
  · cases fed
  next mid out fst =>
    split at fed
    · cases fed
    next last later rest =>
      cases fed
      exact ⟨mid, out, later, fst, rest, rfl⟩

/-- What a payload of the body of a chunked response goes through. -/
theorem feedBody_chunked {res : AssemblerOutput} (chunked : asm.chunked = true)
    (fed : asm.feedBody pl out = (next, .ok res)) : next.chunked = true ∧ next.headEmitted = asm.headEmitted ∧
      ∃ es, res.events = out.events ++ es ∧ (∀ ev ∈ es, ∃ bytes, ev.item = .body bytes) ∧
        (pl = [] ∧ es = [] ∧ next.chunkedDecoder = asm.chunkedDecoder ∨
          asm.chunkedDecoder.push pl = (next.chunkedDecoder, .ok (bodyOf es))) := by
  unfold feedBody at fed
  split at fed
  next empty =>
    cases fed
    exact ⟨chunked, rfl, [], by simp, by simp, Or.inl ⟨empty, rfl, rfl⟩⟩
  · simp only [chunked, if_true] at fed
    generalize pushed : asm.chunkedDecoder.push pl = decoding at fed ⊢
    obtain ⟨_, decoded⟩ := decoding
    cases decoded with
    | error => cases fed
    | ok =>
      simp only at fed
      split at fed
      next empty =>
        cases fed
        exact ⟨rfl, rfl, [], by simp, by simp, Or.inr (by rw [empty]; rfl)⟩
      · cases fed
        exact ⟨rfl, rfl, _, rfl, by simp, Or.inr (by simp [bodyOf, StreamItem.bytes])⟩

/-- A response whose head selects the chunked coding, as far as its bytes have come: the end of
the head is still looked for, or what follows it went to the decoder. -/
inductive Assembled (asm : HttpStreamAssembler) (raw : Bytes) (events : List StreamEvent) : Prop
  | scanning (unread : asm.headEmitted = false) (all : asm.headBuf = raw)
      (fresh : asm.chunkedDecoder = {}) (missing : findSubsequence raw headTerminator = none)
      (silent : events = [])
  | plain (status : Nat) (headers : Headers) (later : List StreamEvent)
      (emitted : asm.headEmitted = true) (unchunked : selectsChunked headers = false)
      (first : events = .uncosted (.head ⟨status, headers⟩) :: later)
      (bodies : ∀ ev ∈ later, ∃ bytes, ev.item = .body bytes)
  | chunked (split status : Nat) (headers : Headers) (later : List StreamEvent)
      (emitted : asm.headEmitted = true) (selected : asm.chunked = true)
      (found : findSubsequence raw headTerminator = some split)
      (parsed : parseHead (raw.take split) = .ok (status, headers))
      (chunks : selectsChunked headers = true)
      (first : events = .uncosted (.head ⟨status, headers⟩) :: later)
      (bodies : ∀ ev ∈ later, ∃ bytes, ev.item = .body bytes)
      (decoded : ChunkedDecoder.push {} (raw.drop (split + 4)) = (asm.chunkedDecoder, .ok (bodyOf later)))

theorem feedBody_bodies {res : AssemblerOutput} (fed : asm.feedBody pl out = (next, .ok res)) :
    next.headEmitted = asm.headEmitted ∧ ∃ es, res.events = out.events ++ es ∧
      ∀ ev ∈ es, ∃ bytes, ev.item = .body bytes := by
  obtain ⟨es, rfl, isBody, emitted, -⟩ := feedBody_ok fed
  refine ⟨emitted, es, rfl, ?_⟩
  rcases isBody with rfl | ⟨body, cost, rfl⟩
  · simp
  · simp

theorem Assembled.step {raw : Bytes} (assembled : Assembled asm raw es)
    (fed : asm.feedData pl = (next, .ok out)) : Assembled next (raw ++ pl) (es ++ out.events) := by
  cases assembled with
  | plain status headers later emitted unchunked fst bodies =>
    rw [feedData, if_pos emitted] at fed
    obtain ⟨same, _, produced, areBodies⟩ := feedBody_bodies fed
    rw [nil_append] at produced
    refine .plain status headers (later ++ out.events) (same.trans emitted) unchunked (by rw [fst]; rfl) ?_
    rw [produced]
    exact forall_mem_append.mpr ⟨bodies, areBodies⟩
  | chunked split status headers later emitted selected fnd _ chunks fst bodies decoded =>
    rw [feedData, if_pos emitted] at fed
    have fits := findSubsequence_fits fnd
    have terminator : headTerminator.length = 4 := rfl
    obtain ⟨still, same, _, produced, areBodies, went⟩ := feedBody_chunked selected fed
    rw [nil_append] at produced
    refine .chunked split status headers (later ++ out.events) (same.trans emitted) still
      (findSubsequence_append_found fnd pl) ?_ chunks (by rw [fst]; rfl) ?_ ?_
    · rwa [take_append_of_le_length (by omega)]
    · rw [produced]
      exact forall_mem_append.mpr ⟨bodies, areBodies⟩
    · rw [drop_append_of_le_length (by omega), produced, bodyOf_append]
      rcases went with ⟨rfl, rfl, unchanged⟩ | pushed
      · rw [unchanged, append_nil]
        simpa [bodyOf] using decoded
      · exact ChunkedDecoder.push_append decoded pushed
  | scanning un all fresh _ silent =>
    subst silent
    rw [nil_append]
    unfold feedData at fed
    rw [if_neg (by simp [un]), all] at fed
    simp only at fed
    split at fed
    next still =>
      split at fed
      · cases fed
      · cases fed
        exact .scanning un rfl fresh still rfl
    next split fnd =>
      split at fed
      · cases fed
      next status headers parsed =>
        cases selects : selectsChunked headers with
        | false =>
          split at fed
          · cases fed
            exact .plain status headers [] rfl selects rfl (by simp)
          · obtain ⟨same, more, produced, areBodies⟩ := feedBody_bodies fed
            exact .plain status headers more (same.trans rfl) selects produced areBodies
        | true =>
          split at fed
          next empty =>
            cases fed
            refine .chunked split status headers [] rfl selects fnd parsed selects rfl (by simp) ?_
            rw [empty, fresh]
            exact ChunkedDecoder.pushLoop_sizeWaits (by decide)
          next some_body =>
            obtain ⟨still, same, more, produced, areBodies, went⟩ := feedBody_chunked selects fed
            refine .chunked split status headers more (same.trans rfl) still fnd parsed selects produced areBodies ?_
            rcases went with ⟨empty, -⟩ | pushed
            · exact absurd empty some_body
            · rw [fresh] at pushed
              exact pushed

theorem Assembled.run {last : HttpStreamAssembler} {raw : Bytes} {payloads : List Bytes}
    {later : List StreamEvent} (assembled : Assembled asm raw es) (fed : feedAll asm payloads = (last, .ok later)) :
    Assembled last (raw ++ payloads.flatten) (es ++ later) := by
  induction payloads generalizing asm raw es later with
  | nil =>
    cases fed
    simpa using assembled
  | cons pl payloads ih =>
    obtain ⟨_, _, _, fst, fedRest, rfl⟩ := feedAll_cons fed
    have after := ih (assembled.step fst) fedRest
    rwa [append_assoc, append_assoc] at after

theorem assembled_new : Assembled {} [] [] := .scanning rfl rfl rfl (by decide +kernel) rfl

/-- A chunked response whose stream was closed is the response that the one-shot parser reads off
its bytes exactly when the zero-size chunk had been read. -/
theorem closed_chunked_iff {payloads : List Bytes} {asm : HttpStreamAssembler}
    {events : List StreamEvent} {status : Nat} {headers : Headers}
    (fed : feedAll {} payloads = (asm, .ok events))
    (head : .uncosted (.head ⟨status, headers⟩) ∈ events) (chunked : selectsChunked headers = true) :
    parseResponse payloads.flatten = .ok ⟨status, headers, bodyOf (events ++ [.uncosted asm.close.2])⟩ ↔
      asm.chunkedDecoder.state = .trailer ∨ asm.chunkedDecoder.state = .done := by
  have ended : bodyOf (events ++ [.uncosted asm.close.2]) = bodyOf events := by
    rw [bodyOf_append]
    exact append_nil _
  have unique {other : HttpHead} {later : List StreamEvent} (first : events = .uncosted (.head other) :: later)
      (bodies : ∀ event ∈ later, ∃ bytes, event.item = .body bytes) :
      other = ⟨status, headers⟩ := by
    rw [first] at head
    rcases mem_cons.mp head with same | inside
    · cases same
      rfl
    · obtain ⟨_, item⟩ := bodies _ inside
      cases item
  rw [ended]
  cases assembled_new.run fed with
  | scanning _ _ _ _ silent =>
    rw [nil_append] at silent
    rw [silent] at head
    cases head
  | plain _ _ _ _ unchunked first bodies =>
    cases unique first bodies
    rw [chunked] at unchunked
    cases unchunked
  | chunked split _ _ later _ _ found parsed _ first bodies decoded =>
    cases unique first bodies
    rw [nil_append] at found parsed decoded first
    have body : bodyOf events = bodyOf later := by rw [first]; rfl
    have pushed : ChunkedDecoder.pushLoop ⟨payloads.flatten.drop (split + 4), .size⟩ [] =
        (asm.chunkedDecoder, .ok (bodyOf later)) := decoded
    have agree := dechunkLoop_iff (payloads.flatten.drop (split + 4)) [] (bodyOf later)
    rw [pushed] at agree
    simp only [Prod.mk.injEq, and_true, exists_eq_left'] at agree
    rw [headTerminator] at found
    refine Iff.trans ?_ agree
    rw [body, parseResponse, found]
    simp only [parsed, chunked, if_true, dechunk]
    cases dechunkLoop (payloads.flatten.drop (split + 4)) [] with
    | error | ok => simp

/-- The head of a chunked response, and its first chunk. -/
def chunkedStart : Bytes :=
  [72, 84, 84, 80, 47, 49, 46, 49, 32, 50, 48, 48, 32, 79, 75, 13, 10, 116, 114, 97, 110, 115, 102,
    101, 114, 45, 101, 110, 99, 111, 100, 105, 110, 103, 58, 99, 104, 117, 110, 107, 101, 100, 13,
    10, 13, 10, 50, 13, 10, 97, 98, 13, 10]

def chunkedHead : HttpHead := ⟨200, [("transfer-encoding".toList, "chunked".toList)]⟩

theorem closed_chunked_whole : ∃ asm events, feedAll {} [chunkedStart, [48, 13, 10, 13, 10]] = (asm, .ok events) ∧
      asm.chunkedDecoder.state = .done ∧
      parseResponse [chunkedStart, [48, 13, 10, 13, 10]].flatten =
        .ok ⟨200, chunkedHead.headers, bodyOf (events ++ [.uncosted asm.close.2])⟩ := by
  have evaluated : feedAll {} [chunkedStart, [48, 13, 10, 13, 10]] =
      ({ headEmitted := true, chunked := true, chunkedDecoder := ⟨[], .done⟩, pendingBodyWire := 5 },
        .ok [.uncosted (.head chunkedHead), ⟨.body [97, 98], 7⟩]) := by decide +kernel
  exact ⟨_, _, evaluated, rfl, (closed_chunked_iff evaluated mem_cons_self (by decide +kernel)).mpr (Or.inr rfl)⟩

/-- A response that is cut before the zero-size chunk, and closed, is an ordinary response on its
stream; the one-shot parser rejects its bytes. -/
theorem closed_chunked_truncated : ∃ asm events, feedAll {} [chunkedStart] = (asm, .ok events) ∧
      .uncosted (.head chunkedHead) ∈ events ∧ selectsChunked chunkedHead.headers = true ∧
      asm.close.2 = .ended .close ∧ bodyOf events = [97, 98] ∧
      parseResponse chunkedStart = .error (.badChunkedBody .missingTerminalChunk) := by
  have evaluated : feedAll {} [chunkedStart] =
      ({ headEmitted := true, chunked := true }, .ok [.uncosted (.head chunkedHead),
        ⟨.body [97, 98], 7⟩]) := by decide +kernel
  exact ⟨_, _, evaluated, mem_cons_self, by decide +kernel, rfl, rfl, by decide +kernel⟩

end HttpStreamAssembler

end SplRust.Core
