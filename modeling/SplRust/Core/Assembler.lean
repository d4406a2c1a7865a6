import SplRust.Core.Window
import SplRust.Lib.Machine

/-! Response assembly of `spl-core/src/mux.rs`: the decoder-free HTTP assembler of
one carrier stream, with its attribution of wire bytes to body events, and the
one-shot assembler, which owns a frame decoder. -/

namespace SplRust.Core
open SplRust.Lib List

structure HttpHead where
  status : Nat
  headers : Headers
  deriving DecidableEq, Repr

inductive ResetReason where
  | protocolError
  | flowControlError
  | unspecified
  deriving DecidableEq, Repr

def ResetReason.fromPayload (payload : Bytes) : ResetReason :=
  if payload.head? = some resetProtocolError then .protocolError
  else if payload.head? = some resetFlowControlError then .flowControlError
  else .unspecified

inductive StreamEnd where
  | close
  | reset (reason : ResetReason)
  | eof
  deriving DecidableEq, Repr

inductive StreamItem where
  | head (head : HttpHead)
  | body (bytes : Bytes)
  | ended (how : StreamEnd)
  deriving DecidableEq, Repr

/-- A delivery event with the wire bytes to consume once its body is drained. -/
structure StreamEvent where
  item : StreamItem
  wireCost : Nat
  deriving DecidableEq, Repr

def StreamEvent.uncosted (item : StreamItem) : StreamEvent := ⟨item, 0⟩

/-- The event that ends a stream. -/
def StreamEvent.ending (how : StreamEnd) : StreamEvent := .uncosted (.ended how)

structure AssemblerOutput where
  events : List StreamEvent := []
  autoConsumed : Nat := 0
  deriving DecidableEq, Repr

/-- Response state of one stream. `pendingBodyWire` counts body bytes the chunked
decoder holds back; they are charged to the next body event. -/
structure HttpStreamAssembler where
  headBuf : Bytes := []
  headEmitted : Bool := false
  chunked : Bool := false
  chunkedDecoder : ChunkedDecoder := {}
  pendingBodyWire : Nat := 0
  closed : Bool := false
  deriving DecidableEq, Repr

def headTerminator : Bytes := crlf ++ crlf

namespace HttpStreamAssembler

variable (asm : HttpStreamAssembler)

def feedBody (payload : Bytes) (out : AssemblerOutput) :
    HttpStreamAssembler × Except MuxError AssemblerOutput :=
  if payload = [] then (asm, .ok out)
  else
    let asm := { asm with pendingBodyWire := asm.pendingBodyWire + payload.length }
    let decoded : HttpStreamAssembler × Except HttpError Bytes :=
      if asm.chunked then
        let pushed := asm.chunkedDecoder.push payload
        ({ asm with chunkedDecoder := pushed.1 }, pushed.2)
      else (asm, .ok payload)
    match decoded.2 with
    | .error err => (decoded.1, .error (.http err))
    | .ok body =>
        if body = [] then (decoded.1, .ok out)
        else ({ decoded.1 with pendingBodyWire := 0 },
          .ok { out with events := out.events ++ [⟨.body body, decoded.1.pendingBodyWire⟩] })

def feedData (payload : Bytes) : HttpStreamAssembler × Except MuxError AssemblerOutput :=
  if asm.headEmitted then asm.feedBody payload {}
  else
    let previousHeadLen := asm.headBuf.length
    let headBuf := asm.headBuf ++ payload
    match findSubsequence headBuf headTerminator with
    | none =>
        if headBuf.length > maxAssembledBytes then
          ({ asm with headBuf := headBuf }, .error .capExceeded)
        else ({ asm with headBuf := headBuf }, .ok { autoConsumed := payload.length })
    | some split =>
        match parseHead (headBuf.take split) with
        | .error err => ({ asm with headBuf := headBuf }, .error (.http err))
        | .ok (status, headers) =>
            let bodyStart := split + 4
            let out : AssemblerOutput :=
              { events := [.uncosted (.head ⟨status, headers⟩)]
                autoConsumed := min (bodyStart - previousHeadLen) payload.length }
            let body := headBuf.drop bodyStart
            let asm := { asm with headBuf := [], headEmitted := true, chunked := selectsChunked headers }
            if body = [] then (asm, .ok out) else asm.feedBody body out

def close (asm : HttpStreamAssembler) : HttpStreamAssembler × StreamItem :=
  ({ asm with closed := true, pendingBodyWire := 0 }, .ended .close)

def reset (asm : HttpStreamAssembler) (reason : ResetReason) : HttpStreamAssembler × StreamItem :=
  ({ asm with closed := true, pendingBodyWire := 0 }, .ended (.reset reason))

def finishEof : HttpStreamAssembler × StreamItem :=
  ({ asm with closed := true, pendingBodyWire := 0 }, .ended .eof)

def bodyCost (events : List StreamEvent) : Nat := (events.map StreamEvent.wireCost).sum

@[simp] theorem bodyCost_nil : bodyCost [] = 0 := rfl

@[simp] theorem bodyCost_append (early late : List StreamEvent) :
    bodyCost (early ++ late) = bodyCost early + bodyCost late := by
  simp [bodyCost]

theorem feedBody_cases (pl : Bytes) (out : AssemblerOutput) :
    (∃ err, (asm.feedBody pl out).2 = .error (.http err)) ∨ ((asm.feedBody pl out).2 = .ok out ∧
        (asm.feedBody pl out).1.pendingBodyWire = asm.pendingBodyWire + pl.length) ∨
      (∃ body, (asm.feedBody pl out).2 = .ok { out with
          events := out.events ++ [⟨.body body, asm.pendingBodyWire + pl.length⟩] } ∧
        (asm.feedBody pl out).1.pendingBodyWire = 0) := by
  by_cases empty : pl = []
  · exact Or.inr (Or.inl ⟨by simp [feedBody, empty], by simp [feedBody, empty]⟩)
  · cases chunked : asm.chunked with
    | false => exact Or.inr (Or.inr ⟨pl, by simp [feedBody, empty, chunked], by simp [feedBody, empty, chunked]⟩)
    | true =>
      cases pushed : (asm.chunkedDecoder.push pl).2 with
      | error err => exact Or.inl ⟨err, by simp [feedBody, empty, chunked, pushed]⟩
      | ok body =>
        by_cases held : body = []
        · exact Or.inr (Or.inl ⟨by simp [feedBody, empty, chunked, pushed, held],
            by simp [feedBody, empty, chunked, pushed, held]⟩)
        · exact Or.inr (Or.inr ⟨body, by simp [feedBody, empty, chunked, pushed, held],
            by simp [feedBody, empty, chunked, pushed, held]⟩)

theorem feedBody_headEmitted (pl : Bytes)
    (out : AssemblerOutput) : (asm.feedBody pl out).1.headEmitted = asm.headEmitted := by
  simp only [feedBody]
  split
  · rfl
  · cases asm.chunked <;> simp only [Bool.false_eq_true, if_true, if_false] <;>
      (split <;> first | rfl | (split <;> rfl))

/-- While the head is incomplete, the bytes kept for it hold no terminator. -/
def Scanning : Prop :=
  asm.headEmitted = false → findSubsequence asm.headBuf headTerminator = none

theorem new_scanning : ({} : HttpStreamAssembler).Scanning := fun _ => by decide +kernel

theorem scanning_of_headEmitted {asm : HttpStreamAssembler} (emitted : asm.headEmitted = true) :
    asm.Scanning := fun missing => by simp [emitted] at missing

def IsBody (events : List StreamEvent) : Prop := events = [] ∨ ∃ body cost, events = [⟨.body body, cost⟩]

/-- The events of one payload: nothing before the head is complete, then the head
and perhaps a body, then at most a body. -/
inductive Delivers : Bool → Bool → List StreamEvent → Prop where
  | scanning : Delivers false false []
  | head (head : HttpHead) {events : List StreamEvent} (body : IsBody events) :
      Delivers false true (.uncosted (.head head) :: events)
  | body {events : List StreamEvent} (body : IsBody events) : Delivers true true events

theorem feedBody_ok {asm next : HttpStreamAssembler} {pl : Bytes}
    {out res : AssemblerOutput} (fed : asm.feedBody pl out = (next, .ok res)) :
    ∃ es, res = { out with events := out.events ++ es } ∧ IsBody es ∧
      next.headEmitted = asm.headEmitted ∧
      next.pendingBodyWire + bodyCost es = asm.pendingBodyWire + pl.length := by
  have emitted := asm.feedBody_headEmitted pl out
  have cases := asm.feedBody_cases pl out
  simp only [fed] at emitted cases
  rcases cases with ⟨err, failed⟩ | ⟨held, pend⟩ | ⟨body, delivered, pend⟩
  · cases failed
  · refine ⟨[], ?_, Or.inl rfl, emitted, by simpa using pend⟩
    rw [Except.ok.inj held, append_nil]
  · exact ⟨_, Except.ok.inj delivered, Or.inr ⟨body, _, rfl⟩, emitted, by simp [pend, bodyCost]⟩

/-- Every payload byte is consumed as metadata, charged to a body event, or held
back for the next one. -/
theorem feedData_ok {asm next : HttpStreamAssembler} {pl : Bytes} {out : AssemblerOutput}
    (fed : asm.feedData pl = (next, .ok out)) :
    Delivers asm.headEmitted next.headEmitted out.events ∧ out.autoConsumed ≤ pl.length ∧
      (asm.Scanning → next.Scanning ∧ out.autoConsumed + next.pendingBodyWire + bodyCost out.events =
          asm.pendingBodyWire + pl.length) := by
  unfold feedData at fed
  split at fed
  next emitted =>
    obtain ⟨_, rfl, isBody, same, charged⟩ := feedBody_ok fed
    rw [emitted] at same
    rw [emitted, same]
    exact ⟨.body (by simpa using isBody), Nat.zero_le _,
      fun _ => ⟨scanning_of_headEmitted same, by simpa using charged⟩⟩
  next unfinished =>
    have un : asm.headEmitted = false := by simpa using unfinished
    simp only at fed
    split at fed
    next missing =>
      split at fed
      · cases fed
      · cases fed
        simp only [un]
        exact ⟨.scanning, Nat.le_refl _, fun _ => ⟨fun _ => missing, by simp; omega⟩⟩
    next split fnd =>
      have fits := findSubsequence_fits fnd
      -- The terminator ends inside this payload, so only its tail is body.
      have inside : asm.Scanning → asm.headBuf.length < split + headTerminator.length :=
        fun scanning => findSubsequence_append (scanning un) fnd
      simp only [headTerminator, crlf, cons_append, nil_append, length_cons, length_nil, length_append] at inside fits
      split at fed
      · cases fed
      next status headers parsed =>
        split at fed
        next empty =>
          cases fed
          have size := congrArg List.length empty
          simp only [length_drop, length_append, length_nil] at size
          simp only [un]
          refine ⟨.head _ (Or.inl rfl), Nat.min_le_right _ _, fun scanning => ⟨scanning_of_headEmitted rfl, ?_⟩⟩
          have := inside scanning
          simp only [bodyCost, map_cons, map_nil, StreamEvent.uncosted, sum_cons, sum_nil]
          omega
        · obtain ⟨_, rfl, isBody, same, charged⟩ := feedBody_ok fed
          rw [un, same]
          refine ⟨.head _ isBody, Nat.min_le_right _ _, fun scanning => ⟨scanning_of_headEmitted same, ?_⟩⟩
          have := inside scanning
          simp only [length_drop, length_append] at charged
          simp only [bodyCost, singleton_append, map_cons, StreamEvent.uncosted, sum_cons] at charged ⊢
          omega

end HttpStreamAssembler

/-! ### One-shot responses -/

structure FeedOutput where
  pongs : List Bytes := []
  windowGrants : List UInt32 := []
  emitFrames : List Bytes := []
  terminalError : Option MuxError := none
  deriving DecidableEq, Repr

structure ResponseAssembler where
  streamId : UInt32
  cap : Nat
  decoder : FrameDecoder := {}
  body : Bytes := []
  recvWindow : RecvWindow := .new
  closed : Bool := false
  reset : Bool := false
  flowControlFailed : Bool := false
  deriving DecidableEq, Repr

namespace ResponseAssembler

variable (asm : ResponseAssembler)

def withCap (streamId : UInt32) (cap : Nat) : ResponseAssembler := { streamId, cap }

def new (streamId : UInt32) : ResponseAssembler := withCap streamId maxAssembledBytes

/-- What one turn of the frame loop does next. -/
inductive Turn where
  | proceed (out : FeedOutput)
  | stop (out : FeedOutput)
  | fail (failure : Failure MuxError)
  deriving DecidableEq, Repr

/-- The CLOSE test at the end of the loop body. -/
def handleClose (frame : Frame) (out : FeedOutput) : ResponseAssembler × Turn :=
  if frame.flags &&& flagClose ≠ 0 then
    ({ asm with closed := true }, .proceed { out with emitFrames := [] })
  else (asm, .proceed out)

def handleData (frame : Frame) (out : FeedOutput) : ResponseAssembler × Turn :=
  match checkedAdd asm.body.length frame.payload.length with
  | none => (asm, .fail (.error .capExceeded))
  | some assembledLen =>
      if assembledLen > asm.cap then (asm, .fail (.error .capExceeded))
      else
        match asm.recvWindow.debit frame.payload.length with
        | .error _ =>
            let asm := { asm with closed := true, flowControlFailed := true }
            match (Frame.reset asm.streamId resetFlowControlError).encode with
            | .error err => (asm, .fail (.error (.frame err)))
            | .ok bytes => (asm, .stop { out with
                emitFrames := out.emitFrames ++ [bytes], terminalError := some .flowControl })
        | .ok window =>
            let asm := { asm with recvWindow := window, body := asm.body ++ frame.payload }
            match window.consume frame.payload.length with
            | none => (asm, .fail .panic)
            | some (window, none) => handleClose { asm with recvWindow := window } frame out
            | some (window, some grant) =>
                let asm := { asm with recvWindow := window }
                match (Frame.window asm.streamId grant).encode with
                | .error err => (asm, .fail (.error (.frame err)))
                | .ok bytes => handleClose asm frame { out with emitFrames := out.emitFrames ++ [bytes] }

/-- One turn of the loop over decoded frames. -/
def handleFrame (frame : Frame) (out : FeedOutput) : ResponseAssembler × Turn :=
  match frame.controlPong with
  | some pong =>
      match pong.encode with
      | .error err => (asm, .fail (.error (.frame err)))
      | .ok bytes => (asm, .proceed { out with pongs := out.pongs ++ [bytes] })
  | none =>
      if frame.streamId ≠ asm.streamId then (asm, .proceed out)
      else
        match frame.windowCredit with
        | some credit => (asm, .proceed { out with windowGrants := out.windowGrants ++ [credit] })
        | none =>
            if frame.flags &&& flagReset ≠ 0 then
              ({ asm with reset := true, closed := true }, .proceed { out with emitFrames := [] })
            else if frame.flags &&& flagData ≠ 0 then handleData asm frame out
            else handleClose asm frame out

def feedFrames : List Frame → ResponseAssembler → FeedOutput →
    ResponseAssembler × Except (Failure MuxError) FeedOutput
  | [], asm, out => (asm, .ok out)
  | frame :: frames, asm, out =>
      match handleFrame asm frame out with
      | (asm, .proceed out) => feedFrames frames asm out
      | (asm, .stop out) => (asm, .ok out)
      | (asm, .fail failure) => (asm, .error failure)

def feed (asm : ResponseAssembler) (data : Bytes) : ResponseAssembler × Except (Failure MuxError) FeedOutput :=
  if asm.flowControlFailed then (asm, .error (.error .flowControl))
  else
    let drained := (asm.decoder.feed data).drain
    let asm := { asm with decoder := drained.1 }
    match drained.2 with
    | .error err => (asm, .error (.error (.frame err)))
    | .ok frames => feedFrames frames asm {}

end ResponseAssembler

end SplRust.Core
