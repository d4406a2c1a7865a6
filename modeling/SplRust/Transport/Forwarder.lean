import SplRust.Core.Bridge
import SplRust.Core.Assembler

/-! `ResponseForwarder` of `spl-transport/src/journal_bridge.rs`: how the events of a response
become the bytes that the local caller gets, streamed or buffered. -/

namespace SplRust.Transport
open SplRust.Lib SplRust.Core

/-- What the bridge writes to the local socket. -/
inductive LocalWrite where
  | head (status : Nat) (headers : Headers) (contentLength : Option Nat)
  | body (bytes : Bytes)
  /-- `write_local`, always with the type `text/plain`. -/
  | reply (status : Nat) (body : Bytes)
  deriving DecidableEq, Repr

/-- How the socket takes a write: whole, or it breaks (or the bridge shuts down) after some of
the bytes. -/
inductive WriteAnswer where
  | accepted
  | broken (count : Nat)
  deriving DecidableEq, Repr

structure LocalSocket where
  /-- The answers to the writes to come; behind them every write is accepted. -/
  answers : List WriteAnswer := []
  sent : List LocalWrite := []
  /-- The write that broke, with how much of it went out. -/
  cut : Option (LocalWrite × Nat) := none
  shut : Bool := false
  deriving DecidableEq, Repr

def reasonPhrase (status : Nat) : Text :=
  (match status with
  | 200 => "OK"
  | 201 => "Created"
  | 202 => "Accepted"
  | 204 => "No Content"
  | 206 => "Partial Content"
  | 302 => "Found"
  | 304 => "Not Modified"
  | 400 => "Bad Request"
  | 401 => "Unauthorized"
  | 403 => "Forbidden"
  | 404 => "Not Found"
  | 405 => "Method Not Allowed"
  | 409 => "Conflict"
  | 410 => "Gone"
  | 413 => "Payload Too Large"
  | 417 => "Expectation Failed"
  | 429 => "Too Many Requests"
  | 500 => "Internal Server Error"
  | 502 => "Bad Gateway"
  | 503 => "Service Unavailable"
  | _ => "Status").toList

def decimal (n : Nat) : Text := (toString n).toList

/-- The bytes of a write. -/
def LocalWrite.bytes : LocalWrite → Bytes
  | .head status headers contentLength =>
      utf8Bytes ("HTTP/1.1 ".toList ++ decimal status ++ " ".toList ++ reasonPhrase status ++
        "\r\n".toList ++ (headers.flatMap fun header => headerLine header.1 header.2) ++
        (match contentLength with
          | some length => headerLine "content-length".toList (decimal length)
          | none => []) ++ "connection: close\r\n\r\n".toList)
  | .body bytes => bytes
  | .reply status text =>
      utf8Bytes ("HTTP/1.1 ".toList ++ decimal status ++ " ".toList ++ reasonPhrase status ++
        "\r\nContent-Type: text/plain\r\nContent-Length: ".toList ++ decimal text.length ++
        "\r\nConnection: close\r\n\r\n".toList) ++ text

namespace LocalSocket

/-- Everything that went out. -/
def bytes (socket : LocalSocket) : Bytes :=
  socket.sent.flatMap LocalWrite.bytes ++ match socket.cut with
    | some (write, count) => write.bytes.take count
    | none => []

/-- One write, and whether it went out whole. -/
def write (socket : LocalSocket) (write : LocalWrite) : LocalSocket × Bool :=
  match socket.answers with
  | [] => ({ socket with sent := socket.sent ++ [write] }, true)
  | .accepted :: answers => ({ socket with answers := answers, sent := socket.sent ++ [write] }, true)
  | .broken count :: answers => ({ socket with answers := answers, cut := some (write, count) }, false)

def shutdown (socket : LocalSocket) : LocalSocket := { socket with shut := true }

/-- `write_local`: what becomes of the writes is ignored. -/
def writeLocal (socket : LocalSocket) (status : Nat) (body : Bytes) : LocalSocket :=
  (socket.write (.reply status body)).1.shutdown

/-- `write_upstream_response`. -/
def writeUpstreamResponse (socket : LocalSocket) (status : Nat) (headers : Headers) (body : Bytes)
    (contentLength : Option Nat) : LocalSocket × Bool :=
  match socket.write (.head status headers contentLength) with
  | (socket, false) => (socket, false)
  | (socket, true) =>
      match socket.write (.body body) with
      | (socket, false) => (socket, false)
      | (socket, true) => (socket.shutdown, true)

end LocalSocket

def unreachable : Bytes := utf8Bytes "journal unreachable".toList

inductive ResponseMode where
  | buffered
  | streaming
  deriving DecidableEq, Repr

structure BridgeRuntime where
  journalHosts : List Text
  loopbackOrigin : Text
  bridgeNames : BridgeNames

inductive ResponseControl where
  | continue_
  | complete
  | incomplete
  | handled
  deriving DecidableEq, Repr

/-- What `StreamRx::recv` returned: an item, the head of an early final response, or nothing. -/
inductive Received where
  | item (item : StreamItem)
  | early (head : HttpHead)
  | closed
  deriving DecidableEq, Repr

/-- The upstream framed its body with a transfer coding. -/
def hasTransferEncoding (headers : Headers) : Bool :=
  headers.any fun header => eqIgnoreAsciiCase header.1 "transfer-encoding".toList

def statusPermitsBody (status : Nat) : Bool := !((100 ≤ status && status ≤ 199) || status == 204 || status == 304)

def upstreamContentLength (headers : Headers) : Option Nat :=
  (headers.find? fun header => eqIgnoreAsciiCase header.1 "content-length".toList).bind
    fun header => parseUnsigned 10 wordMax header.2

structure ResponseForwarder where
  socket : LocalSocket := {}
  runtime : BridgeRuntime
  requestHead : RequestHead
  mode : ResponseMode
  head : Option HttpHead := none
  body : Bytes := []
  headWritten : Bool := false
  declaredLen : Option Nat := none
  receivedLen : Nat := 0
  heldLast : Option UInt8 := none
  deferredHead : Option (Nat × Headers) := none
  /-- `StreamRx::cancel` was called. -/
  cancelled : Bool := false

namespace ResponseForwarder

variable (fwd : ResponseForwarder) (head : HttpHead)

def isHead : Bool := fwd.requestHead.method == "HEAD".toList

def responseHeaders (fwd : ResponseForwarder) (head : HttpHead) : Headers :=
  Core.responseHeaders head.headers fwd.runtime.journalHosts
    fwd.runtime.loopbackOrigin fwd.runtime.bridgeNames

def cancel : ResponseForwarder := { fwd with cancelled := true }

/-- A local 502. -/
def refuse : ResponseForwarder :=
  { fwd with socket := fwd.socket.writeLocal 502 unreachable }

def streamedLength : Option Nat :=
  if fwd.isHead then some ((upstreamContentLength head.headers).getD 0)
  else if statusPermitsBody head.status && !hasTransferEncoding head.headers then
    upstreamContentLength head.headers
  else none

/-- The early final branch of `handle_head`, with `write_early_failure`. The stream is over, so
there is nothing to cancel. -/
def handleEarly : ResponseForwarder × ResponseControl :=
  if 200 ≤ head.status ∧ head.status < 300 then (fwd.refuse, .handled)
  else
    let contentLength := if fwd.isHead then (upstreamContentLength head.headers).getD 0 else 0
    let written := fwd.socket.writeUpstreamResponse head.status
      (fwd.responseHeaders head) [] (some contentLength)
    ({ fwd with socket := written.1 }, .handled)

def writeStreamHead (contentLength : Option Nat) :
    ResponseForwarder × ResponseControl :=
  match fwd.socket.write
      (.head head.status (fwd.responseHeaders head) contentLength) with
  | (socket, true) => ({ fwd with socket := socket, headWritten := true }, .continue_)
  | (socket, false) => ({ fwd with socket := socket }.cancel, .handled)

def handleHead : ResponseForwarder × ResponseControl :=
  match fwd.mode with
  | .buffered => ({ fwd with head := some head }, .continue_)
  | .streaming =>
      let contentLength := fwd.streamedLength head
      if fwd.isHead then fwd.writeStreamHead head contentLength
      else if contentLength = some 0 then
        ({ fwd with
          declaredLen := contentLength
          deferredHead := some (head.status, fwd.responseHeaders head) }, .continue_)
      else { fwd with declaredLen := contentLength }.writeStreamHead head contentLength

/-- The part of a body that is written at once. -/
def writeBody (writable : Bytes) : ResponseForwarder × ResponseControl :=
  if writable = [] then (fwd, .continue_)
  else match fwd.socket.write (.body writable) with
    | (socket, true) => ({ fwd with socket := socket }, .continue_)
    | (socket, false) => ({ fwd with socket := socket }.cancel, .handled)

/-- A body event of a streamed response that declared a length. -/
def writeDeclared (declared : Nat) (bytes : Bytes) :
    ResponseForwarder × ResponseControl :=
  let received := saturatingAdd fwd.receivedLen bytes.length
  if received > declared then
    ({ fwd with socket := fwd.socket.shutdown }.cancel, .handled)
  else if received = declared ∧ bytes ≠ [] then
    { fwd with receivedLen := received, heldLast := bytes.getLast? }.writeBody bytes.dropLast
  else { fwd with receivedLen := received }.writeBody bytes

def handleBody (bytes : Bytes) : ResponseForwarder × ResponseControl :=
  match fwd.mode with
  | .buffered => ({ fwd with body := fwd.body ++ bytes }, .continue_)
  | .streaming =>
      if fwd.deferredHead.isSome then
        (fwd, if bytes = [] then .continue_ else .incomplete)
      else if !fwd.headWritten then (fwd, .complete)
      else if fwd.isHead then (fwd, .continue_)
      else match fwd.declaredLen with
        | some declared => fwd.writeDeclared declared bytes
        | none => fwd.writeBody bytes

def handle (received : StreamItem) : ResponseForwarder × ResponseControl :=
  match received with
  | .head head => fwd.handleHead head
  | .body bytes => fwd.handleBody bytes
  | .ended .close => (fwd, .complete)
  | .ended _ => (fwd, .incomplete)

/-- A streamed response whose head is written has all of its declared length. -/
def streamComplete : Bool :=
  match fwd.declaredLen with
  | some declared => declared == fwd.receivedLen
  | none => true

def finishStreaming : ResponseForwarder :=
  match fwd.deferredHead with
  | some (status, headers) =>
      match fwd.socket.write (.head status headers (some 0)) with
      | (socket, true) => { fwd with socket := socket.shutdown, deferredHead := none }
      | (socket, false) => { fwd with socket := socket, deferredHead := none }
  | none =>
      if fwd.headWritten then
        if fwd.streamComplete then
          match fwd.heldLast with
          | some last =>
              { fwd with
                socket := (fwd.socket.write (.body [last])).1.shutdown
                heldLast := none }
          | none => { fwd with socket := fwd.socket.shutdown }
        else { fwd with socket := fwd.socket.shutdown }
      else fwd.refuse

def finishBuffered : ResponseForwarder :=
  match fwd.head with
  | none => fwd.refuse
  | some head =>
      if !fwd.isHead &&
          (upstreamContentLength head.headers).any (· != fwd.body.length) then
        fwd.refuse
      else
        let body := if fwd.isHead then [] else fwd.body
        let contentLength :=
          if fwd.isHead then (upstreamContentLength head.headers).getD body.length
          else body.length
        match fwd.socket.writeUpstreamResponse head.status (fwd.responseHeaders head)
            body (some contentLength) with
        | (socket, true) => { fwd with socket := socket }
        | (socket, false) => { fwd with socket := socket }.cancel

def finish : ResponseForwarder :=
  match fwd.mode with
  | .streaming => fwd.finishStreaming
  | .buffered => fwd.finishBuffered

def fail : ResponseForwarder :=
  if fwd.mode = .streaming ∧ fwd.headWritten = true then
    { fwd.cancel with socket := fwd.socket.shutdown }
  else fwd.cancel.refuse

/-- How the loop of `forward_upstream` was left. -/
inductive Outcome where
  | waiting
  | finished
  | failed
  | handled
  deriving DecidableEq, Repr

/-- The loop of `forward_upstream` over what the receiver returns. The forwarder is the one that
the loop was left with, before `finish` or `fail`. -/
def receive : ResponseForwarder → List Received → ResponseForwarder × Outcome
  | fwd, [] => (fwd, .waiting)
  | fwd, .closed :: _ => (fwd, .failed)
  | fwd, .early head :: _ => ((fwd.handleEarly head).1, .handled)
  | fwd, .item item :: rest =>
      match fwd.handle item with
      | (fwd, .continue_) => receive fwd rest
      | (fwd, .complete) => (fwd, .finished)
      | (fwd, .incomplete) => (fwd, .failed)
      | (fwd, .handled) => (fwd, .handled)

/-- The end of `forward_upstream`. -/
def settle : ResponseForwarder × Outcome → ResponseForwarder
  | (fwd, .finished) => fwd.finish
  | (fwd, .failed) => fwd.fail
  | (fwd, _) => fwd

def forward (received : List Received) : ResponseForwarder := settle (fwd.receive received)

end ResponseForwarder

end SplRust.Transport
