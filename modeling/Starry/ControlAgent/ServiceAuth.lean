import Starry.ConfigStore.Records
import Starry.ConnectionAuth.Verification

/-!
# Service tokens (`control_agent/auth.rs`)

A request to the Control Agent has a client certificate and a bearer token that is bound to it. The
decoding of tokens and base64 are libraries.
-/

open Library

namespace Starry.ControlAgent

open Starry.Config (ensure)
open Starry.ConnectionAuth (Algorithm Header Audience Scope Validation orFail orFail_ok)
open Starry.ConfigStore (isControl)

def maxServiceTokenBytes : Nat := 8192
def maxServiceTokenLifetimeSeconds : Nat := 300
def clockSkewSeconds : Nat := 30

structure ServiceJwtConfig where
  issuer : String
  jwksFile : String
  audiencePrefix : String

structure ControlPrincipal where
  service : String
  actor : String
  certificateUriSan : String
deriving DecidableEq, Repr

structure AuthFailure where
  code : String
  detail : String
  status : Nat
deriving DecidableEq, Repr

structure Claims where
  iss : String
  aud : Audience
  sub : String
  azp : String
  scope : Scope
  /-- The `sub` of the actor. -/
  act : Option String
  iat : Nat
  nbf : Nat
  exp : Nat
  jti : String

structure Jwk where
  kty : String
  crv : String
  keyUse : String
  alg : String
  kid : String
  x : String
  keyOps : Option (List String)

/-- The libraries. -/
structure ServiceJwt where
  decodeBase64Url : String → Option Bytes
  decodeHeader : String → Option Header
  decode : String → Bytes → Validation → Option Claims

/-- What is decoded was signed with the key, and the claims are those that the token has. -/
structure ServiceJwt.Ideal (jwt : ServiceJwt) (signed : Bytes → String → Prop)
    (claimsOf : String → Option Claims) : Prop where
  signed : ∀ token key validation claims, jwt.decode token key validation = some claims →
    signed key token
  claims : ∀ token key validation claims, jwt.decode token key validation = some claims →
    claimsOf token = some claims

structure ServiceJwtVerifier where
  issuer : String
  audience : String
  keys : Table String Bytes

/-! ## Keys -/

variable (jwt : ServiceJwt)

/-- One round of the loop of `parse_jwks`. The keys that were read are those that were seen. -/
def insertJwk (keys : Table String Bytes) (key : Jwk) : Except String (Table String Bytes) := do
  ensure (key.kty == "OKP" && key.crv == "Ed25519" && key.keyUse == "sig" && key.alg == "EdDSA" &&
      !key.kid.isEmpty && decide (key.kid.utf8ByteSize ≤ 128) && (keys.get key.kid).isNone)
    "control service JWKS violates the Ed25519 signing profile"
  ensure (key.keyOps.all fun operations => operations == ["verify"])
    "control service JWK key_ops must contain only verify"
  let rawKey ← orFail "control service JWK x is not valid base64url" (jwt.decodeBase64Url key.x)
  ensure (rawKey.length == 32) "control service Ed25519 key must contain 32 bytes"
  return keys.insert key.kid rawKey

/-- `document` is the JWKS, or the text of what is wrong with it. -/
def parseJwks (document : Except String (List Jwk)) : Except String (Table String Bytes) := do
  let keys ← document.mapError fun err => "invalid control service JWKS: " ++ err
  ensure (!keys.isEmpty) "control service JWKS contains no keys"
  keys.foldlM (insertJwk jwt) .empty

def ServiceJwtVerifier.load (config : ServiceJwtConfig) (document : Except String (List Jwk))
    (instanceId : String) : Except String ServiceJwtVerifier := do
  ensure (!(trim config.issuer).isEmpty) "service_jwt.issuer is required"
  let keys ← parseJwks jwt document
  return ⟨trim config.issuer, config.audiencePrefix ++ instanceId, keys⟩

/-! ## Tokens -/

def invalidToken : AuthFailure :=
  ⟨"TOKEN_INVALID", "The service bearer token is invalid.", 401⟩

def boundedIdentity (value : String) : Bool :=
  !value.isEmpty && decide (value.utf8ByteSize ≤ 256) && !value.toList.any isControl

def refuse {α : Type} (failure : AuthFailure) : Option α → Except AuthFailure α
  | some a => .ok a
  | none => .error failure

def require (condition : Bool) (failure : AuthFailure) : Except AuthFailure Unit :=
  if condition then .ok () else .error failure

namespace ServiceJwtVerifier

variable (verifier : ServiceJwtVerifier)

/-- The key that the header of a token names. -/
def key (header : Header) : Except AuthFailure Bytes := do
  require (header.alg == .edDSA && header.typ.all fun typ => typ == "JWT") invalidToken
  let kid ← refuse invalidToken (header.kid.filter fun kid => !kid.isEmpty)
  refuse ⟨"AUTH_KEY_UNAVAILABLE", "The service token verification key is unavailable.", 401⟩
    (verifier.keys.get kid)

def checkClaims (certificateUriSan : String) (now : Nat) (claims : Claims) :
    Except AuthFailure Unit := do
  require (!decide (satAdd claims.exp clockSkewSeconds < now))
    ⟨"TOKEN_EXPIRED", "The service bearer token has expired.", 401⟩
  require (claims.iss == verifier.issuer && claims.aud.contains verifier.audience &&
    boundedIdentity claims.sub && claims.azp == certificateUriSan && !claims.jti.isEmpty &&
    decide (claims.jti.utf8ByteSize ≤ 256) && decide (claims.nbf ≤ satAdd now clockSkewSeconds) &&
    decide (claims.iat ≤ satAdd now clockSkewSeconds) && decide (claims.iat < claims.exp) &&
    decide (claims.nbf ≤ claims.exp) &&
    decide (claims.exp - claims.iat ≤ maxServiceTokenLifetimeSeconds)) invalidToken

def verify (token certificateUriSan : Option String) (requiredScope : String) (now : Nat) :
    Except AuthFailure ControlPrincipal := do
  let certificateUriSan ← refuse
    ⟨"CLIENT_CERT_DENIED", "The client certificate identity is not allowed.", 403⟩ certificateUriSan
  let token ← refuse ⟨"AUTH_REQUIRED", "A service bearer token is required.", 401⟩ token
  require (!token.isEmpty && decide (token.utf8ByteSize ≤ maxServiceTokenBytes)) invalidToken
  let header ← refuse invalidToken (jwt.decodeHeader token)
  let key ← verifier.key header
  let claims ← refuse invalidToken (jwt.decode token key
    { issuer := verifier.issuer, audience := verifier.audience })
  verifier.checkClaims certificateUriSan now claims
  require (claims.scope.contains requiredScope)
    ⟨"SCOPE_DENIED", "The service token does not grant the required scope.", 403⟩
  require (claims.act.all boundedIdentity) invalidToken
  return ⟨claims.sub, claims.act.getD claims.sub, certificateUriSan⟩

end ServiceJwtVerifier

/-! ## What a principal stands for -/

section

variable {jwt} {verifier : ServiceJwtVerifier} {token certificateUriSan : Option String}
  {scope : String} {now : Nat} {principal : ControlPrincipal} {claims : Claims}

@[simp] theorem refuse_ok {α : Type} {failure : AuthFailure} {x : Option α} {a : α} :
    refuse failure x = .ok a ↔ x = some a := by
  cases x <;> simp [refuse]

theorem key_ok {header : Header} {key : Bytes} (h : verifier.key header = .ok key) :
    ∃ kid, verifier.keys.get kid = some key := by
  unfold ServiceJwtVerifier.key at h
  obtain ⟨_, -, h⟩ := bind_eq_ok.mp h
  obtain ⟨kid, -, h⟩ := bind_eq_ok.mp h
  exact ⟨kid, refuse_ok.mp h⟩

end

end Starry.ControlAgent
