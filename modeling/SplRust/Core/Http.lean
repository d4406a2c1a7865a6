import SplRust.Core.Frame

/-! Response parsing of `spl-core/src/http.rs`: the response head, the incremental
decoder for chunked bodies, and the whole-response parser. Decoded text is a list
of characters. -/

namespace SplRust.Core
open SplRust.Lib List
variable {haystack needle : Bytes} {start : Nat}

abbrev Text := List Char

/-! ### Text helpers of the standard library -/

def replacement : Char := Char.ofNat 0xfffd

def isContinuation (b : UInt8) : Bool := b &&& 0xc0 == 0x80

/-- Second bytes allowed after a three-byte lead: no overlong form, no surrogate. -/
def isSecondOfThree (lead b : UInt8) : Bool :=
  if lead = 0xe0 then 0xa0 ≤ b ∧ b ≤ 0xbf
  else if lead = 0xed then 0x80 ≤ b ∧ b ≤ 0x9f
  else 0x80 ≤ b ∧ b ≤ 0xbf

/-- Second bytes allowed after a four-byte lead: no overlong form, nothing above U+10FFFF. -/
def isSecondOfFour (lead b : UInt8) : Bool :=
  if lead = 0xf0 then 0x90 ≤ b ∧ b ≤ 0xbf
  else if lead = 0xf4 then 0x80 ≤ b ∧ b ≤ 0x8f
  else 0x80 ≤ b ∧ b ≤ 0xbf

def lowBits (b : UInt8) : Nat := (b &&& 0x3f).toNat

/-- `String::from_utf8_lossy`: each maximal invalid prefix of a sequence becomes one U+FFFD. -/
def fromUtf8Lossy : Bytes → Text
  | [] => []
  | b0 :: rest =>
      if b0 < 0x80 then Char.ofNat b0.toNat :: fromUtf8Lossy rest
      else if 0xc2 ≤ b0 ∧ b0 ≤ 0xdf then
        match rest with
        | [] => [replacement]
        | b1 :: rest1 =>
            if isContinuation b1 then
              Char.ofNat ((b0 &&& 0x1f).toNat * 2 ^ 6 + lowBits b1) :: fromUtf8Lossy rest1
            else replacement :: fromUtf8Lossy (b1 :: rest1)
      else if 0xe0 ≤ b0 ∧ b0 ≤ 0xef then
        match rest with
        | [] => [replacement]
        | b1 :: rest1 =>
            if isSecondOfThree b0 b1 then
              match rest1 with
              | [] => [replacement]
              | b2 :: rest2 =>
                  if isContinuation b2 then
                    Char.ofNat ((b0 &&& 0x0f).toNat * 2 ^ 12 + lowBits b1 * 2 ^ 6 + lowBits b2) :: fromUtf8Lossy rest2
                  else replacement :: fromUtf8Lossy (b2 :: rest2)
            else replacement :: fromUtf8Lossy (b1 :: rest1)
      else if 0xf0 ≤ b0 ∧ b0 ≤ 0xf4 then
        match rest with
        | [] => [replacement]
        | b1 :: rest1 =>
            if isSecondOfFour b0 b1 then
              match rest1 with
              | [] => [replacement]
              | b2 :: rest2 =>
                  if isContinuation b2 then
                    match rest2 with
                    | [] => [replacement]
                    | b3 :: rest3 =>
                        if isContinuation b3 then
                          Char.ofNat ((b0 &&& 0x07).toNat * 2 ^ 18 + lowBits b1 * 2 ^ 12 +
                            lowBits b2 * 2 ^ 6 + lowBits b3) :: fromUtf8Lossy rest3
                        else replacement :: fromUtf8Lossy (b3 :: rest3)
                  else replacement :: fromUtf8Lossy (b2 :: rest2)
            else replacement :: fromUtf8Lossy (b1 :: rest1)
      else replacement :: fromUtf8Lossy rest

/-- The Unicode `White_Space` property, as `str::trim` tests it. -/
def isWhitespace (c : Char) : Bool :=
  let n := c.toNat
  (9 ≤ n ∧ n ≤ 13) ∨ n = 0x20 ∨ n = 0x85 ∨ n = 0xa0 ∨ n = 0x1680 ∨ (0x2000 ≤ n ∧ n ≤ 0x200a) ∨
    n = 0x2028 ∨ n = 0x2029 ∨ n = 0x202f ∨ n = 0x205f ∨ n = 0x3000

def trim (text : Text) : Text := ((text.dropWhile isWhitespace).reverse.dropWhile isWhitespace).reverse

def toAsciiLowercase (text : Text) : Text :=
  text.map fun c => if 'A' ≤ c ∧ c ≤ 'Z' then Char.ofNat (c.toNat + 32) else c

def eqIgnoreAsciiCase (a b : Text) : Bool := toAsciiLowercase a == toAsciiLowercase b

def digitValue (radix : Nat) (c : Char) : Option Nat :=
  let value :=
    if '0' ≤ c ∧ c ≤ '9' then c.toNat - '0'.toNat
    else if 'a' ≤ c ∧ c ≤ 'z' then c.toNat - 'a'.toNat + 10
    else if 'A' ≤ c ∧ c ≤ 'Z' then c.toNat - 'A'.toNat + 10
    else radix
  if value < radix then some value else none

/-- `from_str_radix` of an unsigned type with largest value `bound`: an optional
plus sign, at least one digit, no overflow. -/
def parseUnsigned (radix bound : Nat) (text : Text) : Option Nat :=
  let digits := match text with
    | '+' :: rest => rest
    | _ => text
  if digits = [] then none
  else digits.foldlM (fun value c => do
    let digit ← digitValue radix c
    if value * radix + digit ≤ bound then some (value * radix + digit) else none) 0

/-- What is parsed is a value of the type. -/
theorem parseUnsigned_le {radix bound value : Nat} {text : Text}
    (parsed : parseUnsigned radix bound text = some value) : value ≤ bound := by
  have folds (digits : Text) : ∀ start, start ≤ bound → digits.foldlM (fun value c => do
        let digit ← digitValue radix c
        if value * radix + digit ≤ bound then some (value * radix + digit) else none) start =
          some value → value ≤ bound := by
    induction digits with
    | nil =>
      intro start fits folded
      cases folded
      exact fits
    | cons c digits ih =>
      intro start fits folded
      obtain ⟨_, now, later⟩ := Option.bind_eq_some_iff.mp folded
      obtain ⟨_, -, kept⟩ := Option.bind_eq_some_iff.mp now
      split at kept
      next inside =>
        cases kept
        exact ih _ inside later
      · cases kept
  unfold parseUnsigned at parsed
  extract_lets digits at parsed
  split at parsed
  · cases parsed
  · exact folds digits 0 (Nat.zero_le _) parsed

/-- `split("\r\n")`; there is always a first part. -/
def splitCrlf : Text → List Text
  | [] => [[]]
  | '\r' :: '\n' :: rest => [] :: splitCrlf rest
  | c :: rest =>
      match splitCrlf rest with
      | [] => [[c]]
      | line :: lines => (c :: line) :: lines

/-- Position of the first occurrence of `needle`. -/
def findSubsequence (haystack needle : Bytes) : Option Nat :=
  if needle = [] ∨ haystack.length < needle.length then none
  else (List.range (haystack.length - needle.length + 1)).find? fun start =>
    (haystack.drop start).take needle.length == needle

theorem findSubsequence_fits (fnd : findSubsequence haystack needle = some start) :
    start + needle.length ≤ haystack.length := by
  unfold findSubsequence at fnd
  split at fnd
  · cases fnd
  next fits =>
    have bound := mem_range.mp (mem_of_find?_eq_some fnd)
    simp only [not_or, Nat.not_lt] at fits
    omega

theorem findSubsequence_match (fnd : findSubsequence haystack needle = some start) :
    (haystack.drop start).take needle.length = needle ∧ needle ≠ [] := by
  unfold findSubsequence at fnd
  split at fnd
  · cases fnd
  next fits => exact ⟨by simpa using find?_some fnd, fun empty => fits (Or.inl empty)⟩

theorem findSubsequence_ne_none (nonempty : needle ≠ []) (fits : start + needle.length ≤ haystack.length)
    (occurs : (haystack.drop start).take needle.length = needle) : findSubsequence haystack needle ≠ none := by
  intro missing
  unfold findSubsequence at missing
  split at missing
  next short =>
    rcases short with empty | short
    · exact nonempty empty
    · omega
  · exact find?_eq_none.mp missing start (mem_range.mpr (by omega)) (by simp [occurs])

theorem findSubsequence_append {more : Bytes} (missing : findSubsequence haystack needle = none)
    (fnd : findSubsequence (haystack ++ more) needle = some start) : haystack.length < start + needle.length := by
  by_contra inside
  obtain ⟨occurs, nonempty⟩ := findSubsequence_match fnd
  rw [drop_append_of_le_length (by omega), take_append_of_le_length (by rw [length_drop]; omega)] at occurs
  exact findSubsequence_ne_none nonempty (by omega) occurs missing

/-! ### Errors -/

/-- The causes reported as `BadChunkedBody`, with the values their texts show. -/
inductive ChunkFault where
  | badChunkSize (sizeField : Text)
  | chunkSizeExceedsMax (size : Nat)
  | decoderPreviouslyFailed
  | missingChunkTerminator
  | missingSizeLine
  | truncatedChunk
  | missingTerminalChunk
  deriving DecidableEq, Repr

inductive HttpError where
  | missingTerminator
  | missingStatusLine
  | badStatusLine (statusLine : Text)
  | truncatedBody
  | badChunkedBody (fault : ChunkFault)
  deriving DecidableEq, Repr

/-! ### Response head -/

abbrev Headers := List (Text × Text)

/-- The second field of `splitn(3, ' ')`, if the line has a space. -/
def statusField (statusLine : Text) : Option Text :=
  match statusLine.dropWhile (· != ' ') with
  | [] => none
  | _ :: rest => some (rest.takeWhile (· != ' '))

def parseHeader (line : Text) : Option (Text × Text) :=
  match line.dropWhile (· != ':') with
  | [] => none
  | _ :: value => some (toAsciiLowercase (trim (line.takeWhile (· != ':'))), trim value)

def parseHead (headBytes : Bytes) : Except HttpError (Nat × Headers) :=
  match splitCrlf (fromUtf8Lossy headBytes) with
  | [] => .error .missingStatusLine
  | statusLine :: lines =>
      match (statusField statusLine).bind (parseUnsigned 10 (2 ^ 16 - 1)) with
      | none => .error (.badStatusLine statusLine)
      | some status => .ok (status, lines.filterMap parseHeader)

def headerLookup (headers : Headers) (name : Text) : Option Text :=
  (headers.find? fun header => header.1 == name).map Prod.snd

def selectsChunked (headers : Headers) : Bool :=
  match headerLookup headers "transfer-encoding".toList with
  | some value => eqIgnoreAsciiCase value "chunked".toList
  | none => false

/-! ### Chunked bodies -/

def crlf : Bytes := [13, 10]

def parseChunkSize (line : Text) : Except HttpError Nat :=
  let sizeField := trim (line.takeWhile (· != ';'))
  match parseUnsigned 16 wordMax sizeField with
  | none => .error (.badChunkedBody (.badChunkSize sizeField))
  | some size =>
      if size > maxPayload then .error (.badChunkedBody (.chunkSizeExceedsMax size))
      else .ok size

inductive ChunkState where
  | size
  | data (size : Nat)
  | dataCrlf
  | trailer
  | done
  | failed
  deriving DecidableEq, Repr

structure ChunkedDecoder where
  buf : Bytes := []
  state : ChunkState := .size
  deriving DecidableEq, Repr

namespace ChunkedDecoder

variable (decoder : ChunkedDecoder)

def isComplete : Bool := decoder.state == .done

/-- Decreases on every turn of the decoding loop. -/
def loopMeasure : Nat :=
  match decoder.state with
  | .data _ => 2 * decoder.buf.length + 1
  | _ => 2 * decoder.buf.length

/-- The loop of `push`, with the bytes decoded so far in `out`. A failure clears the buffer. -/
def pushLoop : ChunkedDecoder → Bytes → ChunkedDecoder × Except HttpError Bytes
  | ⟨buf, .size⟩, out =>
      match found : findSubsequence buf crlf with
      | none => (⟨buf, .size⟩, .ok out)
      | some lineEnd =>
          match parseChunkSize (fromUtf8Lossy (buf.take lineEnd)) with
          | .error err => (⟨[], .failed⟩, .error err)
          | .ok size =>
              have := findSubsequence_fits found
              pushLoop ⟨buf.drop (lineEnd + 2), if size = 0 then .trailer else .data size⟩ out
  | ⟨buf, .data size⟩, out =>
      if buf.length < size then (⟨buf, .data size⟩, .ok out)
      else pushLoop ⟨buf.drop size, .dataCrlf⟩ (out ++ buf.take size)
  | ⟨buf, .dataCrlf⟩, out =>
      if buf.length < 2 then (⟨buf, .dataCrlf⟩, .ok out)
      else if buf.take 2 ≠ crlf then
        (⟨[], .failed⟩, .error (.badChunkedBody .missingChunkTerminator))
      else pushLoop ⟨buf.drop 2, .size⟩ out
  | ⟨buf, .trailer⟩, out =>
      if buf.take 2 = crlf then (⟨[], .done⟩, .ok out)
      else match findSubsequence buf (crlf ++ crlf) with
        | none => (⟨buf, .trailer⟩, .ok out)
        | some _ => (⟨[], .done⟩, .ok out)
  | ⟨buf, .done⟩, out => (⟨buf, .done⟩, .ok out)
  | ⟨buf, .failed⟩, out => (⟨buf, .failed⟩, .ok out)
termination_by decoder => decoder.loopMeasure
decreasing_by
  · have : crlf.length = 2 := rfl
    simp only [loopMeasure, length_drop]
    split <;> omega
  · simp only [loopMeasure, length_drop]
    omega
  · simp only [loopMeasure, length_drop]
    omega

def push (bytes : Bytes) : ChunkedDecoder × Except HttpError Bytes :=
  if decoder.state = .done then (decoder, .ok [])
  else if decoder.state = .failed then
    (decoder, .error (.badChunkedBody .decoderPreviouslyFailed))
  else pushLoop { decoder with buf := decoder.buf ++ bytes } []

end ChunkedDecoder

/-! ### Whole responses -/

structure HttpResponse where
  status : Nat
  headers : Headers
  body : Bytes
  deriving DecidableEq, Repr

/-- One-shot chunked decoding of what is left of the body, with `out` decoded so far. -/
def dechunkLoop (raw out : Bytes) : Except HttpError Bytes :=
  if raw = [] then .error (.badChunkedBody .missingTerminalChunk)
  else
    match found : findSubsequence raw crlf with
    | none => .error (.badChunkedBody .missingSizeLine)
    | some lineEnd =>
        match parseChunkSize (fromUtf8Lossy (raw.take lineEnd)) with
        | .error err => .error err
        | .ok size =>
            if size = 0 then .ok out
            else
              let body := raw.drop (lineEnd + 2)
              if size > body.length then .error (.badChunkedBody .truncatedChunk)
              else if body.length - size < 2 ∨ (body.drop size).take 2 ≠ crlf then
                .error (.badChunkedBody .missingChunkTerminator)
              else
                have := findSubsequence_fits found
                dechunkLoop (body.drop (size + 2)) (out ++ body.take size)
termination_by raw.length
decreasing_by
  simp only [crlf, length_cons, length_nil, length_drop] at *
  omega

def dechunk (raw : Bytes) : Except HttpError Bytes := dechunkLoop raw []

def parseResponse (raw : Bytes) : Except HttpError HttpResponse :=
  match findSubsequence raw (crlf ++ crlf) with
  | none => .error .missingTerminator
  | some split =>
      match parseHead (raw.take split) with
      | .error err => .error err
      | .ok (status, headers) =>
          let body := raw.drop (split + 4)
          if selectsChunked headers then
            match dechunk body with
            | .error err => .error err
            | .ok decoded => .ok ⟨status, headers, decoded⟩
          else
            match (headerLookup headers "content-length".toList).bind (parseUnsigned 10 wordMax) with
            | none => .ok ⟨status, headers, body⟩
            | some length =>
                if length < body.length then .ok ⟨status, headers, body.take length⟩
                else if length > body.length then .error .truncatedBody
                else .ok ⟨status, headers, body⟩

end SplRust.Core
