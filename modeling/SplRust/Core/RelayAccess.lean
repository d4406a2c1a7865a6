import SplRust.Core.Bridge

/-! The capability checks of `spl-core/src/relay_access.rs`. Base64 and the JSON syntax are one
parameter; what serde makes of a JSON value is modelled. Times are `i64`. -/

namespace SplRust.Core
open SplRust.Lib Option

/-- A parsed payload; `integer` is a number that fits `i64` or `u64`. -/
inductive Json where
  | null
  | bool (value : Bool)
  | integer (value : Int)
  | float
  | string (value : Text)
  | array (elements : List Json)
  | object (fields : List (Text × Json))

namespace Json

def asStr : Json → Option Text
  | .string value => some value
  | _ => none

def asI64 : Json → Option Int
  | .integer value => if -9223372036854775808 ≤ value ∧ value < 9223372036854775808 then some value else none
  | _ => none

/-- Of several values of a key the last one stays. -/
def get (fields : List (Text × Json)) (key : String) : Option Json := fields.reverse.lookup key.toList

end Json

structure JwtClaims where
  iat : Int
  exp : Int

/-- `saturating_add` of a positive number. -/
def i64Add (now seconds : Int) : Int := min (now + seconds) 9223372036854775807

/-- The time checks that both shapes share. -/
def JwtClaims.fresh (claims : JwtClaims) (now : Int) : Bool :=
  now < claims.exp ∧ claims.iat < claims.exp ∧ claims.iat ≤ i64Add now 60

namespace RelayAccess

/-- `RawClaims`, read from the text: a second `iat` or `exp` is an error. -/
def rawClaims : Json → Option JwtClaims
  | .object fields => do
    let iat ← (Json.get fields "iat").bind Json.asI64
    let exp ← (Json.get fields "exp").bind Json.asI64
    if ["iat", "exp"].all fun key => fields.countP (·.1 = key.toList) = 1 then some ⟨iat, exp⟩ else none
  | .array [iat, exp] => do some ⟨← iat.asI64, ← exp.asI64⟩
  | _ => none

def instanceFields : List String := ["iss", "sub", "aud", "scope", "ver", "instance_id", "iat", "exp", "jti"]

/-- The fields of `InstanceClaims`: by name and no others, or by position. -/
def instanceValues : Json → Option (List Json)
  | .object fields =>
    if fields.all fun field => instanceFields.any (·.toList = field.1) then instanceFields.mapM (Json.get fields)
    else none
  | .array elements => some elements
  | _ => none

/-- `ver` is a `u8`. -/
def instanceShapeOf (inst : Text) : List Json → Option JwtClaims
  | [.string iss, .string sub, .string aud, .string scope, .integer ver, .string paired, iat, exp, .string jti] => do
    let iat ← iat.asI64
    let exp ← exp.asI64
    if ver = 2 ∧ aud = "spl-relay".toList ∧ scope = "session.dial".toList ∧ paired = inst ∧
      sub = "instance:".toList ++ inst ∧ iss ≠ [] ∧ jti ≠ [] then some ⟨iat, exp⟩ else none
  | _ => none

def isAsciiHexdigit (c : Char) : Bool := c.isDigit || ('a' ≤ c ∧ c ≤ 'f') || ('A' ≤ c ∧ c ≤ 'F')

/-- The checks on the fields of a legacy payload. -/
def legacyFields (fields : List (Text × Json)) (inst : Text) : Option Bool := do
  let text key := (Json.get fields key).bind Json.asStr
  let sub ← (← text "sub").dropPrefix? "device:".toList
  let fp ← (← text "device_fp").dropPrefix? "sha256:".toList
  some ((Json.get fields "ver").isNone && !sub.isEmpty && fp.length == 64 && fp.all isAsciiHexdigit &&
    text "instance_id" == some inst && text "aud" == some "spl-relay".toList &&
    text "scope" == some "session.dial".toList && (text "iss").any (!·.isEmpty) && (text "jti").any (!·.isEmpty))

section
variable (parse : Text → Option Json)

def unverifiedPayload (token : Text) : Option Json :=
  match splitChar '.' token with
  | [header, payload, signature] => if header = [] ∨ signature = [] then none else parse payload
  | _ => none

def decodeUnverifiedClaims (token : Text) : Option JwtClaims :=
  match splitChar '.' token with
  | [_, payload, _] => (parse payload).bind rawClaims
  | _ => none

def instanceClaims (token inst : Text) (now : Int) : Option JwtClaims := do
  let values ← (unverifiedPayload parse token).bind instanceValues
  (instanceShapeOf inst values).filter (·.fresh now)

def legacyClaims (token inst : Text) (now : Int) : Option JwtClaims :=
  match unverifiedPayload parse token with
  | some (.object fields) =>
    if legacyFields fields inst = some true then
      (decodeUnverifiedClaims parse token).filter (·.fresh now)
    else none
  | _ => none

def renewalIdentity (token : Text) (now : Int) : Option (Text × Bool) :=
  match unverifiedPayload parse token with
  | some (.object fields) => do
    let paired ← (Json.get fields "instance_id").bind Json.asStr
    let exp ← (Json.get fields "exp").bind Json.asI64
    let iat ← (Json.get fields "iat").bind Json.asI64
    if iat > i64Add now 60 ∨ exp = -9223372036854775808 then none
    else
      let shapeTime := min now (exp - 1)
      match Json.get fields "ver" with
      | some (.integer 2) => (instanceClaims parse token paired shapeTime).map fun _ => (paired, true)
      | none => (legacyClaims parse token paired shapeTime).map fun _ => (paired, false)
      | _ => none
  | _ => none

end

variable {parse : Text → Option Json} {token inst : Text} {t now : Int} {fields : List (Text × Json)}
  {values : List Json} {claims : JwtClaims}

/-- What both shapes say about the fields that renewal reads. -/
structure Read (fields : List (Text × Json)) (inst : Text) (claims : JwtClaims) : Prop where
  paired : (Json.get fields "instance_id").bind Json.asStr = some inst
  iat : (Json.get fields "iat").bind Json.asI64 = some claims.iat
  exp : (Json.get fields "exp").bind Json.asI64 = some claims.exp

theorem asI64_bounds {json : Json} {value : Int} (read : json.asI64 = some value) : -9223372036854775808 ≤ value ∧ value < 9223372036854775808 := by
  revert read
  fun_cases Json.asI64 json with
  | case1 _ bounds =>
    rintro ⟨⟩
    exact bounds
  | _ => rintro ⟨⟩

/-- The synthetic time is one at which the claims are fresh, if they ever were. -/
theorem fresh_clamped (lower : -9223372036854775808 ≤ claims.iat) (upper : claims.exp < 9223372036854775808) (le : t ≤ now)
    (fresh : claims.fresh t = true) :
    ¬(claims.iat > i64Add now 60 ∨ claims.exp = -9223372036854775808) ∧ claims.fresh (min now (claims.exp - 1)) = true := by
  simp only [JwtClaims.fresh, i64Add, decide_eq_true_eq, Int.le_min, Int.not_lt, not_or, gt_iff_lt] at fresh ⊢
  omega

theorem instance_read (named : instanceValues (.object fields) = some values)
    (shape : instanceShapeOf inst values = some claims) :
    Read fields inst claims ∧ Json.get fields "ver" = some (.integer 2) := by
  have fnd := (ite_none_right_eq_some.mp named).2
  revert shape
  fun_cases instanceShapeOf inst values with
  | case1 iss sub aud scope ver paired iat exp jti =>
    intro shape
    obtain ⟨issued, readIat, shape⟩ := bind_eq_some_iff.mp shape
    obtain ⟨expires, readExp, shape⟩ := bind_eq_some_iff.mp shape
    obtain ⟨⟨rfl, -, -, rfl, -⟩, ⟨⟩⟩ := ite_none_right_eq_some.mp shape
    simp only [instanceFields, List.mapM_cons, List.mapM_nil, bind_eq_bind, bind_eq_some_iff, pure_def, some.injEq] at fnd
    obtain ⟨_, -, _, ⟨_, -, _, ⟨_, -, _, ⟨_, -, _, ⟨_, ver, _, ⟨_, pairedAt, _, ⟨_, iatAt, _, ⟨_, expAt, _,
      ⟨_, -, _, rfl, rfl⟩, rfl⟩, rfl⟩, rfl⟩, rfl⟩, rfl⟩, rfl⟩, rfl⟩, ⟨⟩⟩ := fnd
    refine ⟨⟨?_, ?_, ?_⟩, ver⟩
    · rw [pairedAt, bind_some, Json.asStr]
    · rw [iatAt, bind_some, readIat]
    · rw [expAt, bind_some, readExp]
  | _ => rintro ⟨⟩

theorem legacy_read (checked : legacyFields fields inst = some true) (raw : rawClaims (.object fields) = some claims) :
    Read fields inst claims ∧ Json.get fields "ver" = none := by
  obtain ⟨iat, readIat, raw⟩ := bind_eq_some_iff.mp raw
  obtain ⟨exp, readExp, raw⟩ := bind_eq_some_iff.mp raw
  obtain rfl := some.inj (ite_none_right_eq_some.mp raw).2
  obtain ⟨sub, -, checked⟩ := bind_eq_some_iff.mp checked
  obtain ⟨device, -, checked⟩ := bind_eq_some_iff.mp checked
  obtain ⟨print, -, checked⟩ := bind_eq_some_iff.mp checked
  obtain ⟨fp, -, checked⟩ := bind_eq_some_iff.mp checked
  simp only [some.injEq, Bool.and_eq_true, beq_iff_eq, isNone_iff_eq_none] at checked
  exact ⟨⟨by tauto, readIat, readExp⟩, by tauto⟩

theorem decodeUnverifiedClaims_eq {payload : Json} (decoded : unverifiedPayload parse token = some payload) :
    decodeUnverifiedClaims parse token = rawClaims payload := by
  rw [unverifiedPayload] at decoded
  rw [decodeUnverifiedClaims]
  split at decoded
  · rw [(ite_none_left_eq_some.mp decoded).2, bind_some]
  · cases decoded

/-- A token once valid is renewed for its instance, and a renewed token was valid in just one shape. -/
def Renews (parse : Text → Option Json) (token : Text) : Prop :=
  (∀ inst t now, t ≤ now →
    ((instanceClaims parse token inst t).isSome → renewalIdentity parse token now = some (inst, true)) ∧
    ((legacyClaims parse token inst t).isSome → renewalIdentity parse token now = some (inst, false))) ∧
  ∀ now inst v2, renewalIdentity parse token now = some (inst, v2) → ∃ s ≤ now,
    ((instanceClaims parse token inst s).isSome ↔ ¬(legacyClaims parse token inst s).isSome)

theorem instanceClaims_eq_some : instanceClaims parse token inst t = some claims ↔
    ∃ payload values, unverifiedPayload parse token = some payload ∧ instanceValues payload = some values ∧
      instanceShapeOf inst values = some claims ∧ claims.fresh t = true := by
  simp only [instanceClaims, bind_eq_bind, bind_eq_some_iff, filter_eq_some_iff]
  tauto

theorem legacyClaims_eq_some : legacyClaims parse token inst t = some claims ↔
    ∃ fields, unverifiedPayload parse token = some (.object fields) ∧ legacyFields fields inst = some true ∧
      rawClaims (.object fields) = some claims ∧ claims.fresh t = true := by
  rw [legacyClaims]
  constructor
  · split
    next fields decoded =>
      rw [decodeUnverifiedClaims_eq decoded]
      intro legacy
      obtain ⟨checked, kept⟩ := ite_none_right_eq_some.mp legacy
      exact ⟨fields, decoded, checked, filter_eq_some_iff.mp kept⟩
    · rintro ⟨⟩
  · rintro ⟨fields, decoded, checked, raw⟩
    simp only [decoded, decodeUnverifiedClaims_eq decoded, checked, if_true]
    exact filter_eq_some_iff.mpr raw

section
variable (decoded : unverifiedPayload parse token = some (.object fields))
include decoded

theorem instance_ver
    (valid : (instanceClaims parse token inst t).isSome = true) : Json.get fields "ver" = some (.integer 2) := by
  obtain ⟨claims, valid⟩ := isSome_iff_exists.mp valid
  obtain ⟨_, values, again, listed, shape, -⟩ := instanceClaims_eq_some.mp valid
  obtain rfl := some.inj (decoded.symm.trans again)
  exact (instance_read listed shape).2

theorem legacy_ver
    (valid : (legacyClaims parse token inst t).isSome = true) : Json.get fields "ver" = none := by
  obtain ⟨claims, valid⟩ := isSome_iff_exists.mp valid
  obtain ⟨_, again, checked, raw, -⟩ := legacyClaims_eq_some.mp valid
  obtain ⟨⟩ := some.inj (decoded.symm.trans again)
  exact (legacy_read checked raw).2

/-- The checks before the shape pass for claims that were fresh once. -/
theorem renewalIdentity_eq (read : Read fields inst claims) (le : t ≤ now) (fresh : claims.fresh t = true) :
    claims.fresh (min now (claims.exp - 1)) = true ∧ renewalIdentity parse token now =
      match Json.get fields "ver" with
      | some (.integer 2) => (instanceClaims parse token inst (min now (claims.exp - 1))).map fun _ => (inst, true)
      | none => (legacyClaims parse token inst (min now (claims.exp - 1))).map fun _ => (inst, false)
      | _ => none := by
  obtain ⟨_, -, iat⟩ := bind_eq_some_iff.mp read.iat
  obtain ⟨_, -, exp⟩ := bind_eq_some_iff.mp read.exp
  obtain ⟨early, clamped⟩ := fresh_clamped (asI64_bounds iat).1 (asI64_bounds exp).2 le fresh
  refine ⟨clamped, ?_⟩
  rw [renewalIdentity, decoded]
  simp only [read.paired, read.iat, read.exp, bind_eq_bind, bind_some, if_neg early]

end

theorem renews_iff (parse : Text → Option Json) (token : Text) : Renews parse token ↔
    ∀ elements inst t, unverifiedPayload parse token = some (.array elements) →
      instanceClaims parse token inst t = none := by
  constructor
  · rintro ⟨renewed, -⟩ elements inst t decoded
    by_contra valid
    have found := (renewed inst t t (Int.le_refl t)).1 (isSome_iff_ne_none.mpr valid)
    rw [renewalIdentity, decoded] at found
    cases found
  · intro named
    refine ⟨fun inst t now le => ⟨fun valid => ?_, fun valid => ?_⟩, ?_⟩
    · obtain ⟨claims, valid⟩ := isSome_iff_exists.mp valid
      obtain ⟨payload, values, decoded, listed, shape, fresh⟩ := instanceClaims_eq_some.mp valid
      cases payload with
      | object fields =>
        obtain ⟨read, ver⟩ := instance_read listed shape
        obtain ⟨clamped, renewal⟩ := renewalIdentity_eq decoded read le fresh
        simp only [renewal, ver, instanceClaims_eq_some.mpr ⟨_, _, decoded, listed, shape, clamped⟩, map_some]
      | array elements => cases valid.symm.trans (named elements inst t decoded)
      | _ => cases listed
    · obtain ⟨claims, valid⟩ := isSome_iff_exists.mp valid
      obtain ⟨fields, decoded, checked, raw, fresh⟩ := legacyClaims_eq_some.mp valid
      obtain ⟨read, ver⟩ := legacy_read checked raw
      obtain ⟨clamped, renewal⟩ := renewalIdentity_eq decoded read le fresh
      simp only [renewal, ver, legacyClaims_eq_some.mpr ⟨_, decoded, checked, raw, clamped⟩, map_some]
    · intro now inst v2 renewal
      rw [renewalIdentity] at renewal
      split at renewal
      next fields decoded =>
        obtain ⟨paired, -, renewal⟩ := bind_eq_some_iff.mp renewal
        obtain ⟨exp, -, renewal⟩ := bind_eq_some_iff.mp renewal
        obtain ⟨iat, -, renewal⟩ := bind_eq_some_iff.mp renewal
        have shaped := (ite_none_left_eq_some.mp renewal).2
        refine ⟨min now (exp - 1), Int.min_le_left .., ?_⟩
        dsimp only at shaped
        split at shaped
        next ver =>
          obtain ⟨claims, valid, ⟨⟩⟩ := map_eq_some_iff.mp shaped
          simp only [valid, isSome_some, true_iff]
          intro legacy
          cases ver.symm.trans (legacy_ver decoded legacy)
        next ver =>
          obtain ⟨claims, valid, ⟨⟩⟩ := map_eq_some_iff.mp shaped
          simp only [valid, isSome_some, not_true_eq_false, iff_false]
          intro other
          cases ver.symm.trans (instance_ver decoded other)
        · cases shaped
      · cases renewal

theorem array_not_renewed :
    let parse : Text → Option Json := fun _ => some (.array [.string "i".toList, .string "instance:x".toList,
      .string "spl-relay".toList, .string "session.dial".toList, .integer 2, .string "x".toList, .integer 0,
      .integer 100, .string "j".toList])
    (instanceClaims parse "h.p.s".toList "x".toList 50).isSome ∧ renewalIdentity parse "h.p.s".toList 50 = none := by
  decide +kernel

end RelayAccess

end SplRust.Core
