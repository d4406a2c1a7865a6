import Mathlib.Data.List.DropRight
import SplRust.Core.Bridge

/-! The request side of the loopback transforms of `spl-core/src/bridge.rs`, and what keeps the
capability cookie apart from the upstream cookies and brings these back unchanged. -/

namespace SplRust.Core
open SplRust.Lib List

def isReservedRequestHeader (name : Text) (names : BridgeNames) : Bool :=
  eqIgnoreAsciiCase name "authorization".toList || eqIgnoreAsciiCase name names.observerHeaderName ||
    eqIgnoreAsciiCase name names.protocolVersionHeaderName || eqIgnoreAsciiCase name "host".toList ||
    eqIgnoreAsciiCase name "content-length".toList || hopByHop.any (eqIgnoreAsciiCase name)

/-- What becomes of one trimmed part of a cookie header. -/
def upstreamCookie (names : BridgeNames) (part : Text) : Option Text := do
  let (name, cookieValue) ← splitOnce '=' part
  if trim name = names.capabilityCookieName then none
  else
    let upstreamName ← (trim name).dropPrefix? names.upstreamCookiePrefix
    some (upstreamName ++ "=".toList ++ trim cookieValue)

def upstreamCookieHeader (value : Text) (names : BridgeNames) : Option Text :=
  let cookies := (((splitChar ';' value).map trim).filter (· ≠ [])).filterMap (upstreamCookie names)
  if cookies = [] then none else some ("; ".toList.intercalate cookies)

def upstreamRequestHeader (names : BridgeNames) (header : Text × Text) : Option (Text × Text) :=
  if header.1 = "cookie".toList then (upstreamCookieHeader header.2 names).map (header.1, ·)
  else if isReservedRequestHeader header.1 names then none
  else some header

def upstreamRequestHeaders (head : RequestHead) (names : BridgeNames) : Headers :=
  head.headers.filterMap (upstreamRequestHeader names)

/-- Parts of two cookie headers that differ at most in the value of the capability cookie. -/
inductive SamePart (names : BridgeNames) : Text → Text → Prop where
  | same (part : Text) : SamePart names part part
  | capability (name value other : Text) (plain : '=' ∉ name) (trimmed : trim name = names.capabilityCookieName) :
      SamePart names (name ++ '=' :: value) (name ++ '=' :: other)

/-- Headers of two requests that differ at most in the values of capability cookies. -/
def SameHeader (names : BridgeNames) (header other : Text × Text) : Prop :=
  header = other ∨ header.1 = "cookie".toList ∧ other.1 = "cookie".toList ∧
    Forall₂ (SamePart names) (splitChar ';' header.2) (splitChar ';' other.2)

variable {names : BridgeNames} {separator c : Char} {text name value rest : Text} {p : Char → Bool}

theorem dropWhile_append_kept (kept : rest.dropWhile p = rest) : (text ++ rest).dropWhile p = text.dropWhile p ++ rest := by
  induction text with
  | nil => exact kept
  | cons fst text ih => cases holds : p fst <;> simp [holds, ih]

theorem splitOnce_append (plain : separator ∉ name) : splitOnce separator (name ++ separator :: rest) = some (name, rest) := by
  have all : ∀ c ∈ name, (c != separator) = true := fun c mem => bne_iff_ne.mpr fun same => plain (same ▸ mem)
  have none : name.dropWhile (· != separator) = [] := dropWhile_eq_nil_iff.mpr all
  rw [splitOnce, dropWhile_append_kept (by simp), none, takeWhile_append_of_pos all, takeWhile_cons_of_neg (by simp),
    append_nil]
  rfl

theorem splitOnce_eq_some (split : splitOnce separator text = some (name, rest)) :
    text = name ++ separator :: rest ∧ separator ∉ name := by
  rw [splitOnce] at split
  split at split
  · cases split
  next c _ dropped =>
    cases split
    obtain rfl : c = separator := by simpa [dropped] using head?_dropWhile_not (· != separator) text
    refine ⟨?_, fun mem => by simpa using mem_takeWhile_imp mem⟩
    rw [← dropped, takeWhile_append_dropWhile]

theorem mem_of_mem_trim (mem : c ∈ trim text) : c ∈ text :=
  (dropWhile_suffix _).subset (mem_reverse.mp ((dropWhile_suffix _).subset (mem_reverse.mp mem)))

theorem trim_append_eq : trim (name ++ '=' :: value) = name.dropWhile isWhitespace ++ '=' :: value.rdropWhile isWhitespace := by
  rw [trim, dropWhile_append_kept (dropWhile_cons_of_neg (by decide)), reverse_append, reverse_cons, append_assoc,
    singleton_append, dropWhile_append_kept (dropWhile_cons_of_neg (by decide))]
  simp [rdropWhile]

theorem upstreamCookie_capability (plain : '=' ∉ name) (trimmed : trim name = names.capabilityCookieName) (value : Text) :
    trim (name ++ '=' :: value) ≠ [] ∧ upstreamCookie names (trim (name ++ '=' :: value)) = none := by
  rw [trim_append_eq]
  refine ⟨by simp, ?_⟩
  have again : trim (name.dropWhile isWhitespace) = names.capabilityCookieName := by
    rw [← trimmed, trim, dropWhile_idempotent, trim]
  rw [upstreamCookie, splitOnce_append fun mem => plain ((dropWhile_suffix _).subset mem)]
  exact if_pos again

theorem upstreamCookieHeader_same {other : Text} (same : Forall₂ (SamePart names) (splitChar ';' value) (splitChar ';' other)) :
    upstreamCookieHeader value names = upstreamCookieHeader other names := by
  rw [upstreamCookieHeader, upstreamCookieHeader]
  generalize splitChar ';' value = parts, splitChar ';' other = others at same
  suffices cookies : ((parts.map trim).filter (· ≠ [])).filterMap (upstreamCookie names) =
      ((others.map trim).filter (· ≠ [])).filterMap (upstreamCookie names) by rw [cookies]
  induction same with
  | nil => rfl
  | @cons fst _ _ _ part _ ih =>
    cases part with
    | same => by_cases empty : trim fst = [] <;> simp_all [filterMap_cons]
    | capability name value other plain trimmed =>
      obtain ⟨one, hidden⟩ := upstreamCookie_capability plain trimmed value
      obtain ⟨two, concealed⟩ := upstreamCookie_capability plain trimmed other
      simpa [one, two, hidden, concealed] using ih

theorem head_splitChar : (splitChar separator text).head? = some (text.takeWhile (· != separator)) := by
  induction text with
  | nil => rfl
  | cons c text ih =>
    rw [splitChar]
    by_cases stop : c = separator
    · simp [stop]
    · obtain ⟨parts, split⟩ := head?_eq_some_iff.mp ih
      simp [stop, split]

theorem intercalate_takeWhile {fst : Text} {parts : List Text}
    (part : ("; ".toList.intercalate (fst :: parts)).takeWhile (· != ';') = text) : ∃ more, fst = text ++ more := by
  have tail : ∃ tail, "; ".toList.intercalate (fst :: parts) = fst ++ tail ∧ tail.takeWhile (· != ';') = [] := by
    cases parts with
    | nil => exact ⟨[], by simp [intercalate], rfl⟩
    | cons snd parts => exact ⟨_, by simp [intercalate]; rfl, rfl⟩
  obtain ⟨tail, joined, stops⟩ := tail
  rw [joined, takeWhile_append] at part
  split at part
  · exact ⟨[], by rw [← part, stops]; simp⟩
  · exact ⟨_, by rw [← part, takeWhile_append_dropWhile]⟩

/-- What precedes the first equals sign of a rewritten cookie is a renamed name. -/
theorem rewriteSetCookie_name (plain : '=' ∉ names.upstreamCookiePrefix)
    (split : splitOnce '=' ((rewriteSetCookie value names).takeWhile (· != ';')) = some (name, rest)) :
    ∃ given, name = names.upstreamCookiePrefix ++ given := by
  obtain ⟨part, bare⟩ := splitOnce_eq_some split
  rw [rewriteSetCookie] at part
  split at part
  · simp at part
  next fst attrs _ =>
    dsimp only at part
    obtain ⟨more, written⟩ := intercalate_takeWhile part
    split at written
    next given cookieValue fnd =>
      obtain ⟨-, unequal⟩ := splitOnce_eq_some fnd
      have renamed : '=' ∉ names.upstreamCookiePrefix ++ trim given := by
        rw [mem_append, not_or]
        refine ⟨plain, fun mem => unequal ?_⟩
        exact mem_of_mem_trim mem
      have splits := congrArg (splitOnce '=') written
      rw [append_assoc name, cons_append, splitOnce_append bare, append_assoc] at splits
      have same := (splitOnce_append renamed).symm.trans splits
      exact ⟨trim given, (Prod.mk.inj (Option.some.inj same)).1.symm⟩
    next missing =>
      rw [written, append_assoc, cons_append, splitOnce_append bare] at missing
      cases missing

theorem dropWhile_visible (visible : ∀ c ∈ text, isWhitespace c = false) : text.dropWhile isWhitespace = text :=
  dropWhile_eq_self_iff.mpr fun _ => by simp [visible]

theorem trim_kept (c : Char) (visible : ∀ x ∈ c :: text, isWhitespace x = false) : c :: text <+: trim (c :: text ++ rest) := by
  have start : (c :: text ++ rest).dropWhile isWhitespace = c :: text ++ rest :=
    dropWhile_cons_of_neg (by simp [visible c mem_cons_self])
  rw [trim, start, reverse_append, dropWhile_append_kept (dropWhile_visible fun x mem => visible x (mem_reverse.mp mem)),
    reverse_append, reverse_reverse]
  exact ⟨_, rfl⟩

theorem upstreamRequestHeader_same {header other : Text × Text} (same : SameHeader names header other) :
    upstreamRequestHeader names header = upstreamRequestHeader names other := by
  rcases same with rfl | ⟨cookie, also, parts⟩
  · rfl
  · rw [upstreamRequestHeader, upstreamRequestHeader, if_pos cookie, if_pos also, cookie, also,
      upstreamCookieHeader_same parts]

/-- The capability does not reach the upstream, and the upstream cannot set it. -/
theorem capability_isolated (names : BridgeNames) :
    (∀ head other : RequestHead, Forall₂ (SameHeader names) head.headers other.headers →
      upstreamRequestHeaders head names = upstreamRequestHeaders other names) ∧
    ('=' ∉ names.upstreamCookiePrefix → (∀ c ∈ names.upstreamCookiePrefix, isWhitespace c = false) →
      ¬names.upstreamCookiePrefix <+: names.capabilityCookieName → ∀ value first name rest,
      (splitChar ';' (rewriteSetCookie value names)).head? = some first → splitOnce '=' first = some (name, rest) →
        trim name ≠ names.capabilityCookieName) := by
  constructor
  · intro head other same
    rw [upstreamRequestHeaders, upstreamRequestHeaders]
    generalize head.headers = headers, other.headers = others at same
    induction same with
    | nil => rfl
    | cons header headers ih => rw [filterMap_cons, filterMap_cons, ih, upstreamRequestHeader_same header]
  · intro plain visible apart value first name rest head split same
    rw [head_splitChar] at head
    cases head
    obtain ⟨given, rfl⟩ := rewriteSetCookie_name plain split
    cases nonempty : names.upstreamCookiePrefix with
    | nil => exact apart (by simp [nonempty])
    | cons c text =>
      rw [nonempty] at visible apart same
      exact apart (same ▸ trim_kept c visible)

theorem capability_forged : let names : BridgeNames := ⟨"a".toList, "a=b".toList, [], []⟩
    (∀ c ∈ names.upstreamCookiePrefix, isWhitespace c = false) ∧
      ¬names.upstreamCookiePrefix <+: names.capabilityCookieName ∧
      (splitChar ';' (rewriteSetCookie "x=1".toList names)).head? = some "a=bx=1".toList ∧
      splitOnce '=' "a=bx=1".toList = some (names.capabilityCookieName, "bx=1".toList) := by
  refine ⟨fun c mem => ?_, by decide +kernel, by decide +kernel, by decide +kernel⟩
  rcases (by simpa using mem : c = 'a' ∨ c = '=' ∨ c = 'b') with rfl | rfl | rfl <;> decide

/-! ### Cookies there and back -/

/-- A cookie of the upstream: the first part of the value is a name and a text. What comes back follows a pad. -/
structure SetCookie (names : BridgeNames) where
  value : Text
  name : Text
  text : Text
  pad : Text
  first : (splitChar ';' value).head? = some (name ++ '=' :: text)
  plain : '=' ∉ name
  apart : names.upstreamCookiePrefix ++ trim name ≠ names.capabilityCookieName
  blank : ∀ c ∈ pad, isWhitespace c = true

/-- The pair of the rewritten cookie, as a browser sends it. -/
def SetCookie.pair (cookie : SetCookie names) : Text := (splitChar ';' (rewriteSetCookie cookie.value names)).headD []

theorem splitChar_eq_splitOn : splitChar separator text = text.splitOn separator := by
  rw [splitOn_eq_splitOnP]
  induction text with
  | nil => rw [splitChar, splitOnP_nil]
  | cons c text ih =>
    rw [splitChar, splitOnP_cons_eq_if_modifyHead, ih]
    cases split : splitOnP (· == separator) text with
    | nil => exact absurd split (splitOnP_ne_nil _ text)
    | cons part parts => simp

theorem not_mem_of_splitChar {part : Text} (mem : part ∈ splitChar separator text) : separator ∉ part := by
  induction text generalizing part with
  | nil => simp_all [splitChar]
  | cons c text ih =>
    obtain ⟨parts, split⟩ := head?_eq_some_iff.mp (@head_splitChar separator text)
    rw [splitChar, split] at mem
    rw [split] at ih
    grind

theorem dropWhile_trim : (trim text).dropWhile isWhitespace = trim text := by
  have front : trim text <+: text.dropWhile isWhitespace := rdropWhile_prefix _ _
  cases kept : trim text with
  | nil => rfl
  | cons c rest =>
    obtain ⟨tail, whole⟩ := kept ▸ front
    have visible := head?_dropWhile_not isWhitespace text
    rw [← whole] at visible
    exact dropWhile_cons_of_neg (by simpa using visible)

theorem trim_rdropWhile : trim (text.rdropWhile isWhitespace) = trim text := by
  induction text using reverseRecOn with
  | nil => rfl
  | append_singleton text c ih =>
    by_cases blank : isWhitespace c
    · rw [rdropWhile_concat_pos _ _ _ blank, ih, trim, trim, dropWhile_append]
      split
      next empty => simp_all [isEmpty_iff.mp empty]
      · simp [blank]
    · rw [rdropWhile_concat_neg _ _ _ blank]

/-- Visible text in front of a trimmed name stays as it is. -/
theorem trim_append_trim (visible : ∀ c ∈ text, isWhitespace c = false) :
    (text ++ trim name).dropWhile isWhitespace = text ++ trim name ∧ trim (text ++ trim name) = text ++ trim name := by
  have start : (text ++ trim name).dropWhile isWhitespace = text ++ trim name := by
    rw [dropWhile_append_kept dropWhile_trim, dropWhile_visible visible]
  refine ⟨start, ?_⟩
  rw [trim, start, reverse_append, dropWhile_append_kept (dropWhile_visible fun c mem => visible c (mem_reverse.mp mem)),
    trim, reverse_reverse, dropWhile_idempotent]
  simp

theorem splitChar_intercalate {first : Text} {parts : List Text} (plain : ∀ part ∈ first :: parts, ';' ∉ part) :
    splitChar ';' ("; ".toList.intercalate (first :: parts)) = first :: parts.map (' ' :: ·) := by
  have joined : "; ".toList.intercalate (first :: parts) = [';'].intercalate (first :: parts.map (' ' :: ·)) := by
    clear plain
    induction parts generalizing first with
    | nil => simp
    | cons part parts ih =>
      rw [intercalate_cons_cons, ih, map_cons, intercalate_cons_cons]
      cases parts <;> simp
  rw [joined, splitChar_eq_splitOn, splitOn_intercalate _ _ (by simp)]
  simp_all

/-- The parts of a rewritten cookie: a renamed pair, and the attributes that are valid on loopback. -/
theorem splitChar_rewriteSetCookie {part cookie : Text} {parts : List Text} (bare : ';' ∉ names.upstreamCookiePrefix)
    (split : splitChar ';' cookie = part :: parts) :
    ∃ first : Text, ';' ∉ first ∧ (∀ name value, part = name ++ '=' :: value → '=' ∉ name →
        first = names.upstreamCookiePrefix ++ trim name ++ '=' :: value.rdropWhile isWhitespace) ∧
      splitChar ';' (rewriteSetCookie cookie names) = first :: ((parts.map trim).filter keepsAttribute).map (' ' :: ·) := by
  have plain : ∀ part ∈ splitChar ';' cookie, ';' ∉ trim part :=
    fun part mem sep => not_mem_of_splitChar mem (mem_of_mem_trim sep)
  rw [split, forall_mem_cons] at plain
  obtain ⟨one, others⟩ := plain
  rw [rewriteSetCookie, split]
  refine ⟨_, ?plain, ?_, splitChar_intercalate (forall_mem_cons.mpr ⟨?plain, ?_⟩)⟩
  · split
    next name _ fnd =>
      rw [(splitOnce_eq_some fnd).1] at one
      have named : ';' ∉ trim name := fun mem => one (mem_append_left _ (mem_of_mem_trim mem))
      simp_all
    · exact one
  · rintro name value rfl plain
    rw [trim_append_eq, splitOnce_append fun mem => plain ((dropWhile_suffix _).subset mem)]
    simp [trim, dropWhile_idempotent]
  · simpa using fun part mem _ => others part mem

/-- What the upstream reads of a pair that came back. -/
theorem SetCookie.read (cookie : SetCookie names)
    (clean : ∀ c ∈ names.upstreamCookiePrefix, isWhitespace c = false ∧ c ≠ '=' ∧ c ≠ ';') :
    ';' ∉ cookie.pad ++ cookie.pair ∧ trim (cookie.pad ++ cookie.pair) ≠ [] ∧
      upstreamCookie names (trim (cookie.pad ++ cookie.pair)) =
        some (trim cookie.name ++ "=".toList ++ trim cookie.text) := by
  obtain ⟨parts, split⟩ := head?_eq_some_iff.mp cookie.first
  obtain ⟨pair, bare, named, written⟩ := splitChar_rewriteSetCookie (fun mem => (clean _ mem).2.2 rfl) split
  have same : cookie.pair = pair := by rw [SetCookie.pair, written, headD_cons]
  rw [same]
  obtain ⟨start, kept⟩ := @trim_append_trim _ cookie.name fun c mem => (clean c mem).1
  have unequal : '=' ∉ names.upstreamCookiePrefix ++ trim cookie.name := fun mem =>
    (mem_append.mp mem).elim (fun mem => (clean _ mem).2.1 rfl) fun mem => cookie.plain (mem_of_mem_trim mem)
  have stripped : (names.upstreamCookiePrefix ++ trim cookie.name).dropPrefix? names.upstreamCookiePrefix =
      some (trim cookie.name) := dropPrefix?_eq_some_iff.mpr ⟨_, rfl, by simp⟩
  refine ⟨fun mem => (mem_append.mp mem).elim (fun mem => absurd (cookie.blank _ mem) (by decide)) bare, ?_⟩
  rw [named _ _ rfl cookie.plain, ← append_assoc, trim_append_eq, dropWhile_append_of_pos cookie.blank, start,
    rdropWhile_idempotent, upstreamCookie, splitOnce_append unequal]
  simp [kept, cookie.apart, trim_rdropWhile, stripped]

/-- The upstream gets its own cookies back, and no attribute binds one to its host or to TLS. -/
theorem cookies_return (names : BridgeNames)
    (clean : ∀ c ∈ names.upstreamCookiePrefix, isWhitespace c = false ∧ c ≠ '=' ∧ c ≠ ';') :
    (∀ cookies : List (SetCookie names),
      upstreamCookieHeader ([';'].intercalate (cookies.map fun cookie => cookie.pad ++ cookie.pair)) names =
        if cookies = [] then none else some ("; ".toList.intercalate (cookies.map fun cookie =>
          trim cookie.name ++ "=".toList ++ trim cookie.text))) ∧
    ∀ value, ∀ attr ∈ (splitChar ';' (rewriteSetCookie value names)).tail,
      let attrName := trim (((splitOnce '=' (trim attr)).map Prod.fst).getD (trim attr))
      eqIgnoreAsciiCase attrName "domain".toList = false ∧ eqIgnoreAsciiCase attrName "secure".toList = false := by
  constructor
  · intro cookies
    have all : (((cookies.map fun cookie => cookie.pad ++ cookie.pair).map trim).filter (· ≠ [])).filterMap
        (upstreamCookie names) = cookies.map fun cookie => trim cookie.name ++ "=".toList ++ trim cookie.text := by
      induction cookies with
      | nil => rfl
      | cons cookie cookies ih =>
        obtain ⟨-, some, read⟩ := cookie.read clean
        simpa [some, read] using ih
    cases cookies with
    | nil => rfl
    | cons cookie cookies =>
      rw [upstreamCookieHeader, splitChar_eq_splitOn, splitOn_intercalate _ _ (by simp), all]
      · simp
      · exact forall_mem_map.mpr fun cookie _ => (cookie.read clean).1
  · intro value attr mem
    obtain ⟨parts, split⟩ := head?_eq_some_iff.mp (@head_splitChar ';' value)
    obtain ⟨first, -, -, parts⟩ := splitChar_rewriteSetCookie (fun mem => (clean _ mem).2.2 rfl) split
    rw [parts, tail_cons] at mem
    obtain ⟨kept, given, rfl⟩ := mem_map.mp mem
    obtain ⟨inner, keeps⟩ := mem_filter.mp given
    obtain ⟨part, -, rfl⟩ := mem_map.mp inner
    have same : trim (' ' :: trim part) = trim part := (@trim_append_trim [] part (by simp)).2
    simp_all [keepsAttribute]

theorem cookies_return_one : let names : BridgeNames := ⟨"cap".toList, "p".toList, [], []⟩
    upstreamCookieHeader "pa=1".toList names = some "a=1".toList := by
  intro names
  have clean : ∀ c ∈ names.upstreamCookiePrefix, isWhitespace c = false ∧ c ≠ '=' ∧ c ≠ ';' := fun c mem => by
    obtain rfl : c = 'p' := by simpa [names] using mem
    decide
  exact (cookies_return names clean).1
    [⟨"a=1; Secure".toList, "a".toList, "1".toList, [], rfl, by decide, by decide, by simp⟩]

end SplRust.Core
