import SplRust.Bridge.Jwks
import SplRust.Core.Request

/-! Renewal of a registration: the token checks and `PopAuthenticator::renew` of
`spl-bridge/src/pop_auth.rs`. Base64, JSON and Ed25519 are parameters; clock readings, the shared
nonce cache and what the journal sends are arguments of each renewal. -/

namespace SplRust.Bridge
open SplRust.Lib SplRust.Core

def popSkew : Nat := 60
def expectedIssuer : Text := "services.solstone.app".toList

abbrev Signature := Vector UInt8 64

structure JoseHeader where
  alg : Text
  typ : Text
  kid : Text

structure PopJwk where
  kty : Text
  crv : Text
  x : Text

/-- The claims of a token; `jwk` is its only confirmation. -/
structure RawClaims where
  iss : Text
  sub : Text
  aud : Text
  iat : Nat
  exp : Nat
  hostname : Text
  jwk : PopJwk

structure ParsedToken where
  header : JoseHeader
  claims : RawClaims
  signature : Signature
  signingInput : Bytes

structure VerifiedClaims where
  instanceId : Text
  hostname : Text
  expiresAt : Nat
  popKey : VerifyingKey

structure RenewalIdentity where
  hostname : Text
  instanceId : Text
  popKey : VerifyingKey

structure RenewalResponse where
  token : Text
  hostname : Text
  signature : Text

/-- The libraries that the checks rest on. -/
structure PopCodec where
  /-- `URL_SAFE_NO_PAD.decode`. -/
  decode : Text → Option Bytes
  header : Bytes → Option JoseHeader
  claims : Bytes → Option RawClaims
  response : Bytes → Option RenewalResponse
  /-- `VerifyingKey::from_bytes`. -/
  validKey : VerifyingKey → Bool
  verifyStrict : VerifyingKey → Bytes → Signature → Bool

structure PopAuthenticator where
  codec : PopCodec
  expectedAudience : Text
  bridgeId : Text

inductive RenewalError where
  | retryable (error : PopError)
  | challengeUndeliverable
  | terminal

def exactBytes (size : Nat) (bytes : Bytes) : Option (Vector UInt8 size) :=
  if same : bytes.length = size then some ⟨bytes.toArray, same⟩ else none

def PopCodec.parseCompactToken (codec : PopCodec) (token : Text) : Except PopError ParsedToken :=
  if token.all (fun char => char.toNat < 128) = false then .error .tokenRejected
  else
    match token.splitOn '.' with
    | [header, claims, signature] =>
        if header = [] ∨ claims = [] ∨ signature = [] then .error .tokenRejected
        else
          match (codec.decode header).bind codec.header, (codec.decode claims).bind codec.claims,
            (codec.decode signature).bind (exactBytes 64) with
          | some parsed, some raw, some signed => .ok ⟨parsed, raw, signed, utf8Bytes (header ++ '.' :: claims)⟩
          | _, _, _ => .error .tokenRejected
    | _ => .error .tokenRejected

def validHostname (hostname : Text) : Bool :=
  match ".solstone.me".toList.isSuffixOf? hostname with
  | none => false
  | some label =>
      (utf8Bytes label).length = 8 ∧ (utf8Bytes label).all fun byte =>
        (97 ≤ byte ∧ byte ≤ 122) ∨ (50 ≤ byte ∧ byte ≤ 55)

def PopCodec.validateTokenClaims (codec : PopCodec) (claims : RawClaims) (expectedAudience : Text)
    (now : Nat) : Except PopError VerifiedClaims :=
  if claims.iss ≠ expectedIssuer ∨ claims.aud ≠ expectedAudience then .error .tokenRejected
  else
    match ("home:".toList.isPrefixOf? claims.sub).filter (· ≠ []) with
    | none => .error .tokenRejected
    | some instanceId =>
        if claims.iat > claims.exp then .error .tokenRejected
        else if claims.exp - claims.iat < 600 ∨ 900 < claims.exp - claims.iat then
          .error .tokenRejected
        else if claims.iat > saturatingAdd now popSkew ∨ now ≥ claims.exp then
          .error .tokenRejected
        else if validHostname claims.hostname = false then .error .tokenRejected
        else if claims.jwk.kty ≠ "OKP".toList ∨ claims.jwk.crv ≠ "Ed25519".toList then
          .error .tokenRejected
        else
          match ((codec.decode claims.jwk.x).bind (exactBytes 32)).filter codec.validKey with
          | none => .error .tokenRejected
          | some popKey => .ok ⟨instanceId, claims.hostname, claims.exp, popKey⟩

def PopCodec.verifyParsedToken (codec : PopCodec) (parsed : ParsedToken) (key : VerifyingKey)
    (expectedAudience : Text) (now : Nat) : Except PopError VerifiedClaims :=
  if parsed.header.alg ≠ "EdDSA".toList ∨ parsed.header.typ ≠ "JWT".toList ∨ parsed.header.kid = [] then
    .error .tokenRejected
  else if codec.verifyStrict key parsed.signingInput parsed.signature = false then
    .error .tokenRejected
  else codec.validateTokenClaims parsed.claims expectedAudience now

def proofMessage (nonce : Nonce) (bridgeId : Text) (timestamp : Nat) : Bytes :=
  nonce.toList ++ utf8Bytes bridgeId ++ toBeBytes (UInt32.ofNat (timestamp / 2 ^ 32)) ++
    toBeBytes (UInt32.ofNat timestamp)

def challengeTimestampIsFresh (issuedAt verifiedAt : Nat) : Bool :=
  max issuedAt verifiedAt - min issuedAt verifiedAt ≤ popSkew

/-- What the rest of the world gives to one renewal. -/
structure RenewalExchange where
  /-- `unix_seconds` when the challenge is made, and the nonces that are drawn for it. -/
  issuedAt : Option Nat
  nonces : NonceCache
  draws : List (Option Nonce)
  written : Bool
  body : Option Bytes
  /-- The key set, and the reading of the verifier's clock. -/
  keyForKid : Text → Except PopError VerifyingKey
  clock : Nat
  /-- `unix_seconds` and the nonce cache once the token is verified. -/
  verifiedAt : Option Nat
  verifiedNonces : NonceCache

namespace PopAuthenticator

/-- `JwksTokenVerifier::verify`. -/
def verify (auth : PopAuthenticator) (exchange : RenewalExchange) (token : Text) :
    Except PopError VerifiedClaims :=
  match auth.codec.parseCompactToken token with
  | .error error => .error error
  | .ok parsed =>
      match exchange.keyForKid parsed.header.kid with
      | .error error => .error error
      | .ok key => auth.codec.verifyParsedToken parsed key auth.expectedAudience exchange.clock

/-- What `renew` does with the response to its challenge. -/
def accept (auth : PopAuthenticator) (identity : RenewalIdentity) (checkExpiresAt : Nat)
    (exchange : RenewalExchange) (nonce : Nonce) (issuedAt : Nat) (response : RenewalResponse) :
    Except PopError Nat :=
  match auth.verify exchange response.token, exchange.verifiedAt with
  | .error error, _ => .error error
  | .ok _, none => .error .tokenTimeInvalid
  | .ok claims, some verifiedAt =>
      if 2 ^ 63 ≤ verifiedAt ∨ challengeTimestampIsFresh issuedAt verifiedAt = false then
        .error .challengeTimeInvalid
      else
        match (auth.codec.decode response.signature).bind (exactBytes 64) with
        | none => .error .invalidProof
        | some signature =>
            if auth.codec.verifyStrict identity.popKey (proofMessage nonce auth.bridgeId issuedAt)
                signature = false then
              .error .invalidProof
            else
              match (exchange.verifiedNonces.redeemRenewal nonce checkExpiresAt claims.expiresAt
                verifiedAt).2 with
              | .error error => .error error
              | .ok () =>
                  if response.hostname ≠ claims.hostname ∨ claims.hostname ≠ identity.hostname ∨
                      claims.instanceId ≠ identity.instanceId ∨
                      claims.popKey ≠ identity.popKey then
                    .error .tokenRejected
                  else if claims.expiresAt ≤ checkExpiresAt then .error .tokenTimeInvalid
                  else .ok claims.expiresAt

/-- `none` if a nonce that is not drawn would be needed. -/
def renew (auth : PopAuthenticator) (identity : RenewalIdentity) (checkExpiresAt : Nat)
    (exchange : RenewalExchange) : Option (Except RenewalError Nat) :=
  match exchange.issuedAt with
  | none => some (.error (.retryable .tokenTimeInvalid))
  | some issuedAt =>
      if 2 ^ 63 ≤ issuedAt then some (.error (.retryable .challengeTimeInvalid))
      else
        match exchange.nonces.issue issuedAt checkExpiresAt exchange.draws with
        | none => none
        | some (_, .error error) => some (.error (.retryable error))
        | some (_, .ok nonce) =>
            if exchange.written = false then some (.error .challengeUndeliverable)
            else
              match exchange.body with
              | none => some (.error .terminal)
              | some body =>
                  match auth.codec.response body with
                  | none => some (.error (.retryable .invalidMessage))
                  | some response =>
                      some ((auth.accept identity checkExpiresAt exchange nonce issuedAt
                        response).mapError .retryable)

end PopAuthenticator

/-- The renewal was granted to the holder of the identity: the token in its response was verified,
and the response signs the nonce of its challenge. -/
structure Authorised (auth : PopAuthenticator) (identity : RenewalIdentity) (expiresAt : Nat)
    (exchange : RenewalExchange) : Prop where
  granted : ∃ body response claims, exchange.body = some body ∧ auth.codec.response body = some response ∧
    auth.verify exchange response.token = .ok claims ∧ claims.expiresAt = expiresAt ∧
    claims.hostname = identity.hostname ∧ claims.instanceId = identity.instanceId ∧
    claims.popKey = identity.popKey ∧
    ∃ issuedAt checkExpiresAt nonces nonce signature, exchange.issuedAt = some issuedAt ∧
      exchange.nonces.issue issuedAt checkExpiresAt exchange.draws = some (nonces, .ok nonce) ∧
      (auth.codec.decode response.signature).bind (exactBytes 64) = some signature ∧
      auth.codec.verifyStrict identity.popKey (proofMessage nonce auth.bridgeId issuedAt) signature
  bounded : expiresAt ≤ exchange.clock + 960

section
variable {auth : PopAuthenticator} {identity : RenewalIdentity} {exchange : RenewalExchange}
  {checkExpiresAt expiresAt : Nat} {claims : VerifiedClaims}

theorem PopCodec.validateTokenClaims_bounded {codec : PopCodec} {raw : RawClaims} {audience : Text}
    {now : Nat} (valid : codec.validateTokenClaims raw audience now = .ok claims) : claims.expiresAt ≤ now + 960 := by
  revert valid
  fun_cases PopCodec.validateTokenClaims codec raw audience now with
  | case9 _ _ _ _ _ cur =>
    rintro ⟨⟩
    simp only [saturatingAdd, popSkew] at cur ⊢
    omega
  | _ => rintro ⟨⟩

theorem PopAuthenticator.verify_bounded {token : Text} (verified : auth.verify exchange token = .ok claims) :
    claims.expiresAt ≤ exchange.clock + 960 := by
  revert verified
  fun_cases PopAuthenticator.verify auth exchange token with
  | case3 =>
    fun_cases PopCodec.verifyParsedToken with
    | case3 => exact PopCodec.validateTokenClaims_bounded
    | _ => rintro ⟨⟩
  | _ => rintro ⟨⟩

theorem PopAuthenticator.accept_ok {nonce : Nonce} {issuedAt : Nat} {response : RenewalResponse}
    (accepted : auth.accept identity checkExpiresAt exchange nonce issuedAt response = .ok expiresAt) :
    checkExpiresAt < expiresAt ∧ ∃ claims signature,
      auth.verify exchange response.token = .ok claims ∧ claims.expiresAt = expiresAt ∧
      (claims.hostname = identity.hostname ∧ claims.instanceId = identity.instanceId ∧
        claims.popKey = identity.popKey) ∧
      (auth.codec.decode response.signature).bind (exactBytes 64) = some signature ∧
      auth.codec.verifyStrict identity.popKey (proofMessage nonce auth.bridgeId issuedAt) signature = true := by
  revert accepted
  fun_cases PopAuthenticator.accept auth identity checkExpiresAt exchange nonce issuedAt response with
  | case9 claims _ _ verified _ signature decoded proved _ same later =>
    rintro ⟨⟩
    simp only [ne_eq, not_or, Decidable.not_not] at same
    exact ⟨Nat.not_le.mp later, claims, signature, verified, rfl, same.2, decoded, (Bool.not_eq_false _).mp proved⟩
  | _ => rintro ⟨⟩

theorem PopAuthenticator.renew_ok (renewed : auth.renew identity checkExpiresAt exchange = some (.ok expiresAt)) :
    checkExpiresAt < expiresAt ∧ Authorised auth identity expiresAt exchange := by
  revert renewed
  fun_cases PopAuthenticator.renew auth identity checkExpiresAt exchange with
  | case8 issuedAt read _ nonces nonce issued _ body arrived response parsed =>
    intro renewed
    cases accepted : auth.accept identity checkExpiresAt exchange nonce issuedAt response with
    | error =>
      rw [accepted] at renewed
      cases renewed
    | ok =>
      rw [accepted] at renewed
      cases renewed
      obtain ⟨later, claims, signature, verified, rfl, ⟨host, instance_, key⟩, signed⟩ := accept_ok accepted
      exact ⟨later, ⟨body, response, claims, arrived, parsed, verified, rfl, host, instance_, key,
        issuedAt, checkExpiresAt, nonces, nonce, signature, read, issued, signed⟩,
        verify_bounded verified⟩
  | _ => rintro ⟨⟩

end

/-! A journal and an authenticator that renews its lease to 900. -/

def sampleIdentity : RenewalIdentity := ⟨"abcdefgh.solstone.me".toList, "j".toList, Vector.replicate 32 0⟩

def sampleAuth : PopAuthenticator where
  codec :=
    { decode := fun text => some (List.replicate text.length 0)
      header := fun _ => some ⟨"EdDSA".toList, "JWT".toList, "k".toList⟩
      claims := fun _ => some ⟨expectedIssuer, "home:j".toList, "b".toList, 0, 900,
        sampleIdentity.hostname, ⟨"OKP".toList, "Ed25519".toList, List.replicate 32 'A'⟩⟩
      response := fun _ => some ⟨"h.c.".toList ++ List.replicate 64 'A', sampleIdentity.hostname,
        List.replicate 64 'A'⟩
      validKey := fun _ => true
      verifyStrict := fun _ _ _ => true }
  expectedAudience := "b".toList
  bridgeId := "b".toList

def sampleExchange : RenewalExchange where
  issuedAt := some 0
  nonces := {}
  draws := [some (Vector.replicate 16 7)]
  written := true
  body := some []
  keyForKid := fun _ => .ok (Vector.replicate 32 0)
  clock := 0
  verifiedAt := some 0
  verifiedNonces := { outstanding := [(Vector.replicate 16 7, 100)] }

end SplRust.Bridge
