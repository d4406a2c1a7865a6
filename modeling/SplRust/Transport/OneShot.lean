import SplRust.Core.Assembler
import SplRust.Link.Channel

/-! The response of a request that has a connection of its own: the read loop of
`run_request_over_stream_with_options` over `ResponseAssembler`. -/

namespace SplRust.Transport
open SplRust.Lib SplRust.Core SplRust.Link List ResponseAssembler Frame FrameDecoder
variable {asm next : ResponseAssembler} {fs : List Frame} {frame : Frame}

/-- What a fed read leaves of the exchange; nothing once it has failed. -/
def proceeds : ResponseAssembler × Except (Failure MuxError) FeedOutput → Option ResponseAssembler
  | (_, .error _) => none
  | (next, .ok out) => if out.terminalError.isSome then none else some next

/-- The read loop, over what the reads return until the end of file. A read that fails in the
assembler ends the exchange without a response. Failing writes, grants and timeouts end it as
well; a run that comes to `into_response` has none. -/
def exchange : ResponseAssembler → List Bytes → Option ResponseAssembler
  | asm, [] => some asm
  | asm, read :: reads =>
      if asm.closed ∨ read = [] then some asm
      else (proceeds (asm.feed read)).bind fun next => exchange next reads

/-- The frame ends the response: RESET, or CLOSE with or without DATA. A frame that is read as a
WINDOW ends nothing. -/
def endsResponse (frame : Frame) : Bool :=
  frame.windowCredit.isNone && (frame.flags &&& flagReset != 0 || frame.flags &&& flagClose != 0)

/-- The frame is neither a RESET nor DATA, or is read as a WINDOW. -/
def isIdle (frame : Frame) : Bool :=
  frame.windowCredit.isSome || (frame.flags &&& flagReset == 0 && frame.flags &&& flagData == 0)

/-- What follows the first terminal frame of the stream is idle or belongs to another stream. -/
def Calm (sid : UInt32) : List Frame → Prop
  | [] => True
  | fr :: frames =>
      if fr.streamId = sid ∧ endsResponse fr then
        ∀ later ∈ frames, later.streamId = sid → isIdle later = true
      else Calm sid frames

instance decidableCalm (sid : UInt32) : (frames : List Frame) → Decidable (Calm sid frames)
  | [] => isTrue trivial
  | frame :: frames =>
      have := decidableCalm sid frames
      inferInstanceAs (Decidable (if frame.streamId = sid ∧ endsResponse frame then
        ∀ later ∈ frames, later.streamId = sid → isIdle later = true
      else Calm sid frames))

/-- What a turn of the frame loop comes to. -/
inductive TurnSpec (absorbed : Option ResponseAssembler) (out : FeedOutput) :
    ResponseAssembler × ResponseAssembler.Turn → Prop where
  | proceed (next : ResponseAssembler) (after : FeedOutput) (goes : absorbed = some next)
      (same : after.terminalError = out.terminalError) :
      TurnSpec absorbed out (next, .proceed after)
  | stop (next : ResponseAssembler) (after : FeedOutput) (ends : absorbed = none)
      (failed : after.terminalError.isSome = true) : TurnSpec absorbed out (next, .stop after)
  | fail (next : ResponseAssembler) (failure : Failure MuxError) (ends : absorbed = none) :
      TurnSpec absorbed out (next, .fail failure)

theorem TurnSpec.congr {absorbed : Option ResponseAssembler} {out oid : FeedOutput}
    {turned : ResponseAssembler × ResponseAssembler.Turn} (spec : TurnSpec absorbed out turned)
    (same : out.terminalError = oid.terminalError) : TurnSpec absorbed oid turned := by
  cases spec with
  | proceed next after goes equal => exact .proceed next after goes (equal.trans same)
  | stop next after ends failed => exact .stop next after ends failed
  | fail next failure ends => exact .fail next failure ends

/-- The stream ends among these frames. -/
def Ends (sid : UInt32) (frames : List Frame) : Prop := ∃ fr ∈ frames, fr.streamId = sid ∧ endsResponse fr = true

end SplRust.Transport
