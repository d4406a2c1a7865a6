import SplRust.Core.Assembler

/-! The incremental decoder of chunked bodies against the one-shot one: where a body is cut does
not matter, and the two agree once the zero-size chunk is read. -/

namespace SplRust.Core
open SplRust.Lib List

theorem findSubsequence_append_found {haystack needle : Bytes} {start : Nat}
    (fnd : findSubsequence haystack needle = some start) (more : Bytes) :
    findSubsequence (haystack ++ more) needle = some start := by
  have fits := findSubsequence_fits fnd
  obtain ⟨occurs, nonempty⟩ := findSubsequence_match fnd
  have within (place : Nat) (inside : place + needle.length ≤ haystack.length) :
      ((haystack ++ more).drop place).take needle.length = (haystack.drop place).take needle.length := by
    rw [drop_append_of_le_length (by omega), take_append_of_le_length (by rw [length_drop]; omega)]
  have longer : (haystack ++ more).length = haystack.length + more.length := length_append
  unfold findSubsequence at fnd ⊢
  rw [if_neg (by rw [not_or]; exact ⟨nonempty, by omega⟩), find?_range_eq_some] at fnd
  rw [if_neg (by rw [not_or]; exact ⟨nonempty, by omega⟩), find?_range_eq_some]
  refine ⟨by rw [within start fits, occurs]; simp, mem_range.mpr (by omega), ?_⟩
  intro earlier pre
  rw [within earlier (by omega)]
  exact fnd.2.2 earlier pre

namespace ChunkedDecoder

variable (dec : ChunkedDecoder) (decoder : ChunkedDecoder)

def Reading : Prop := decoder.state ≠ .done ∧ decoder.state ≠ .failed

def resume (more : Bytes) : ChunkedDecoder × Except HttpError Bytes → ChunkedDecoder × Except HttpError Bytes
  | (decoder, .ok out) =>
      if decoder.state = .done then (decoder, .ok out)
      else pushLoop { decoder with buf := decoder.buf ++ more } out
  | (decoder, .error err) => (decoder, .error err)

section
variable {buf out more : Bytes} {lineEnd size : Nat}

theorem pushLoop_size (fnd : findSubsequence buf crlf = some lineEnd)
    (parsed : parseChunkSize (fromUtf8Lossy (buf.take lineEnd)) = .ok size) : pushLoop ⟨buf, .size⟩ out =
      pushLoop ⟨buf.drop (lineEnd + 2), if size = 0 then .trailer else .data size⟩ out := by
  rw [pushLoop]
  split
  next missing => rw [missing] at fnd; cases fnd
  next oid same =>
    rw [same] at fnd
    cases fnd
    rw [parsed]

theorem pushLoop_badSize {err : HttpError} (fnd : findSubsequence buf crlf = some lineEnd)
    (bad : parseChunkSize (fromUtf8Lossy (buf.take lineEnd)) = .error err) :
    pushLoop ⟨buf, .size⟩ out = (⟨[], .failed⟩, .error err) := by
  rw [pushLoop]
  split
  next missing => rw [missing] at fnd; cases fnd
  next oid same =>
    rw [same] at fnd
    cases fnd
    rw [bad]

theorem pushLoop_sizeWaits (missing : findSubsequence buf crlf = none) :
    pushLoop ⟨buf, .size⟩ out = (⟨buf, .size⟩, .ok out) := by
  rw [pushLoop]
  split
  · rfl
  next oid same =>
    rw [same] at missing
    cases missing

theorem pushLoop_data (enough : size ≤ buf.length) :
    pushLoop ⟨buf, .data size⟩ out = pushLoop ⟨buf.drop size, .dataCrlf⟩ (out ++ buf.take size) := by
  rw [pushLoop, if_neg (Nat.not_lt.mpr enough)]

theorem pushLoop_dataCrlf (ends : buf.take 2 = crlf) :
    pushLoop ⟨buf, .dataCrlf⟩ out = pushLoop ⟨buf.drop 2, .size⟩ out := by
  have enough : ¬ buf.length < 2 := by
    have size := congrArg List.length ends
    rw [length_take, crlf, length_cons, length_singleton] at size
    omega
  conv_lhs => rw [pushLoop, if_neg enough, if_neg (not_not_intro ends)]

theorem pushLoop_badCrlf (enough : 2 ≤ buf.length) (bad : buf.take 2 ≠ crlf) : pushLoop ⟨buf, .dataCrlf⟩ out =
      (⟨[], .failed⟩, .error (.badChunkedBody .missingChunkTerminator)) := by
  rw [pushLoop, if_neg (Nat.not_lt.mpr enough), if_pos bad]

theorem pushLoop_trailer (ends : buf.take 2 = crlf ∨ findSubsequence buf (crlf ++ crlf) ≠ none) :
    pushLoop ⟨buf, .trailer⟩ out = (⟨[], .done⟩, .ok out) := by
  rw [pushLoop]
  split
  · rfl
  next still =>
    split
    next missing => exact absurd missing (ends.resolve_left still)
    · rfl

theorem pushLoop_append (out more : Bytes) (reading : dec.Reading) :
    pushLoop { dec with buf := dec.buf ++ more } out = resume more (pushLoop dec out) := by
  have ends_twice : crlf.length = 2 := rfl
  fun_induction pushLoop dec out with
  | case1 => rfl
  | case2 _ _ _ fnd =>
    have fits := findSubsequence_fits fnd
    dsimp only
    refine pushLoop_badSize (findSubsequence_append_found fnd more) ?_
    rwa [take_append_of_le_length (by omega)]
  | case3 _ _ _ fnd _ _ _ ih =>
    dsimp only
    rw [pushLoop_size (findSubsequence_append_found fnd more)
      (by rwa [take_append_of_le_length (by omega)]), drop_append_of_le_length (by omega)]
    refine ih ⟨?_, ?_⟩
    · split <;> rintro ⟨⟩
    · split <;> rintro ⟨⟩
  | case4 => rfl
  | case5 buf size _ enough ih =>
    have fits : size ≤ buf.length := Nat.le_of_not_lt enough
    dsimp only
    rw [pushLoop_data (by rw [length_append]; omega), drop_append_of_le_length fits, take_append_of_le_length fits]
    exact ih ⟨by rintro ⟨⟩, by rintro ⟨⟩⟩
  | case6 => rfl
  | case7 =>
    dsimp only
    refine pushLoop_badCrlf (by rw [length_append]; omega) ?_
    rwa [take_append_of_le_length (by omega)]
  | case8 buf _ enough good ih =>
    have fits : 2 ≤ buf.length := Nat.le_of_not_lt enough
    rw [pushLoop_dataCrlf (by rw [take_append_of_le_length fits]; exact not_not.mp good), drop_append_of_le_length fits]
    exact ih ⟨by rintro ⟨⟩, by rintro ⟨⟩⟩
  | case9 buf _ ended =>
    have fits : 2 ≤ buf.length := by
      have size := congrArg List.length ended
      rw [length_take] at size
      omega
    exact pushLoop_trailer (Or.inl (by rw [take_append_of_le_length fits]; exact ended))
  | case10 => rfl
  | case11 _ _ _ _ fnd =>
    refine pushLoop_trailer (Or.inr ?_)
    rw [findSubsequence_append_found fnd more]
    simp
  | case12 => exact absurd rfl reading.1
  | case13 => exact absurd rfl reading.2

theorem pushLoop_out (pre out : Bytes) : pushLoop dec (pre ++ out) =
      ((pushLoop dec out).1, (pushLoop dec out).2.map (pre ++ ·)) := by
  fun_induction pushLoop dec out with
  | case1 _ _ missing => exact pushLoop_sizeWaits missing
  | case2 _ _ _ fnd _ bad => exact pushLoop_badSize fnd bad
  | case3 _ _ _ fnd _ parsed _ ih =>
    rw [pushLoop_size fnd parsed]
    exact ih
  | case4 _ _ _ short => rw [pushLoop, if_pos short]; rfl
  | case5 _ _ _ enough ih => rw [pushLoop_data (Nat.le_of_not_lt enough), append_assoc, ih]
  | case6 _ _ short => rw [pushLoop, if_pos short]; rfl
  | case7 _ _ enough bad => exact pushLoop_badCrlf (Nat.le_of_not_lt enough) bad
  | case8 _ _ _ good ih => rw [pushLoop_dataCrlf (not_not.mp good), ih]
  | case9 _ _ ended => exact pushLoop_trailer (Or.inl ended)
  | case10 _ _ still missing =>
    rw [pushLoop, if_neg still, missing]
    rfl
  | case11 _ _ _ _ fnd => exact pushLoop_trailer (Or.inr (by rw [fnd]; simp))
  | case12 => rw [pushLoop]; rfl
  | case13 => rw [pushLoop]; rfl

end

theorem pushLoop_unfailed {dec next : ChunkedDecoder} {out body : Bytes}
    (pushed : pushLoop dec out = (next, .ok body)) (working : dec.state ≠ .failed) :
    next.state ≠ .failed := by
  fun_induction pushLoop dec out with
  | case2 | case7 => cases pushed
  | case3 _ _ _ _ _ _ _ ih => exact ih pushed (by split <;> rintro ⟨⟩)
  | case5 _ _ _ _ ih | case8 _ _ _ _ ih => exact ih pushed (by rintro ⟨⟩)
  | case13 => exact absurd rfl working
  | _ =>
    cases pushed
    rintro ⟨⟩

/-- One more piece pushed behind what was pushed before, with the output of both. -/
def andPush : ChunkedDecoder × Except HttpError Bytes → Bytes → ChunkedDecoder × Except HttpError Bytes
  | (decoder, .ok out), piece => ((decoder.push piece).1, (decoder.push piece).2.map (out ++ ·))
  | (decoder, .error err), _ => (decoder, .error err)

theorem andPush_push (fst more : Bytes) :
    andPush (dec.push fst) more = dec.push (fst ++ more) := by
  by_cases done : dec.state = .done
  · have still (bs : Bytes) : dec.push bs = (dec, .ok []) := if_pos done
    rw [still, still, andPush, still]
    rfl
  by_cases failed : dec.state = .failed
  · have still (bs : Bytes) : dec.push bs = (dec, .error (.badChunkedBody .decoderPreviouslyFailed)) := by
      rw [push, if_neg done, if_pos failed]
    rw [still, still, andPush]
  have reads (bs : Bytes) : dec.push bs = pushLoop { dec with buf := dec.buf ++ bs } [] := by
    rw [push, if_neg done, if_neg failed]
  have whole := pushLoop_append { dec with buf := dec.buf ++ fst } [] more ⟨done, failed⟩
  rw [reads, reads, ← append_assoc]
  refine Eq.trans ?_ whole.symm
  cases pushed : pushLoop { dec with buf := dec.buf ++ fst } [] with | mk next ans => ?_
  cases ans with
  | error => rfl
  | ok out =>
    have working := pushLoop_unfailed pushed failed
    by_cases ended : next.state = .done
    · have still : next.push more = (next, .ok []) := if_pos ended
      rw [andPush, still, resume, if_pos ended]
      simp [Except.map]
    · have carried := pushLoop_out { next with buf := next.buf ++ more } out []
      rw [append_nil] at carried
      rw [andPush, resume, if_neg ended, push, if_neg ended, if_neg working, carried]

theorem push_append {dec next : ChunkedDecoder} {fst more decoded also : Bytes}
    (one : push {} fst = (dec, .ok decoded)) (two : dec.push more = (next, .ok also)) :
    push {} (fst ++ more) = (next, .ok (decoded ++ also)) := by
  rw [← andPush_push, one, andPush, two]
  rfl

/-- The pieces pushed one after the other up to the first failure, with the output of all. -/
def pushAll (pieces : List Bytes) : ChunkedDecoder × Except HttpError Bytes :=
  pieces.foldl andPush (decoder, .ok [])

theorem foldl_andPush (fst : Bytes) (pieces : List Bytes) :
    pieces.foldl andPush (dec.push fst) = dec.push (fst ++ pieces.flatten) := by
  induction pieces generalizing fst with
  | nil => rw [flatten_nil, append_nil]; rfl
  | cons piece pieces ih => rw [foldl_cons, andPush_push, ih, flatten_cons, append_assoc]

def ReadLast : Prop := decoder.state = .trailer ∨ decoder.state = .done

instance (decoder : ChunkedDecoder) : Decidable decoder.ReadLast := inferInstanceAs (Decidable (_ ∨ _))

theorem pushLoop_trailer_ok (buf out : Bytes) :
    ∃ next, pushLoop ⟨buf, .trailer⟩ out = (next, .ok out) ∧ next.ReadLast := by
  rw [pushLoop]
  split
  · exact ⟨_, rfl, Or.inr rfl⟩
  · split
    · exact ⟨_, rfl, Or.inl rfl⟩
    · exact ⟨_, rfl, Or.inr rfl⟩

end ChunkedDecoder

open ChunkedDecoder in
/-- The one-shot decoder succeeds exactly when the incremental one has read the zero-size chunk,
and with the same bytes. -/
theorem dechunkLoop_iff (raw out body : Bytes) : dechunkLoop raw out = .ok body ↔
      ∃ next, pushLoop ⟨raw, .size⟩ out = (next, .ok body) ∧ next.ReadLast := by
  fun_induction dechunkLoop raw out with
  | case1 =>
    rw [pushLoop_sizeWaits (by decide)]
    simp [ReadLast]
  | case2 _ _ _ missing =>
    rw [pushLoop_sizeWaits missing]
    simp [ReadLast]
  | case3 _ _ _ _ found _ bad =>
    rw [pushLoop_badSize found bad]
    simp
  | case4 raw out _ lineEnd found parsed =>
    obtain ⟨_, ended, last⟩ := pushLoop_trailer_ok (raw.drop (lineEnd + 2)) out
    rw [pushLoop_size found parsed, if_pos rfl, ended]
    simp [last]
  | case5 _ _ _ _ found _ parsed some_size _ short =>
    rw [pushLoop_size found parsed, if_neg some_size, pushLoop, if_pos short]
    simp [ReadLast]
  | case6 _ _ _ _ found size parsed some_size rest enough bad =>
    rw [pushLoop_size found parsed, if_neg some_size, pushLoop_data (Nat.le_of_not_lt enough)]
    by_cases short : (rest.drop size).length < 2
    · rw [pushLoop, if_pos short]
      simp [ReadLast]
    · rw [pushLoop_badCrlf (Nat.le_of_not_lt short)]
      · simp
      · rw [length_drop] at short
        exact bad.resolve_left short
  | case7 _ _ _ _ found size parsed some_size rest enough good _ ih =>
    have drops : (rest.drop size).drop 2 = rest.drop (size + 2) := drop_drop
    rw [pushLoop_size found parsed, if_neg some_size, pushLoop_data (Nat.le_of_not_lt enough),
      pushLoop_dataCrlf (not_not.mp (not_or.mp good).2), drops]
    exact ih

/-- Where a chunked body is cut matters neither to what is decoded, nor to the state, nor to a
failure; and the one-shot decoder returns what the incremental one does behind the last chunk. -/
theorem chunked_decoding_agrees (pieces : List Bytes) (raw body : Bytes) :
    ChunkedDecoder.pushAll {} pieces = ChunkedDecoder.push {} pieces.flatten ∧
    (dechunk raw = .ok body ↔ ∃ decoder, ChunkedDecoder.push {} raw = (decoder, .ok body) ∧ decoder.ReadLast) := by
  refine ⟨?_, dechunkLoop_iff raw [] body⟩
  have fresh : ChunkedDecoder.push {} [] = ({}, .ok []) := ChunkedDecoder.pushLoop_sizeWaits (by decide)
  rw [ChunkedDecoder.pushAll, ← fresh, ChunkedDecoder.foldl_andPush, nil_append]

end SplRust.Core
