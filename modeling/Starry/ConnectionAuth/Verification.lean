import Starry.ConnectionAuth.Freshness
import Starry.Library.Words

/-!
# Verifying a token (`verify_local_at`)

A token is checked against the configuration and the keyset of one runtime. Base64, SHA-256, UUIDs and
the verification of signatures are libraries; a token is decoded by `jsonwebtoken`.
-/

open Library

namespace Starry.ConnectionAuth

open Starry.Config (ConnectionAuthConfig ensure)

/-! ## Tokens -/

inductive Algorithm
  | edDSA
  | other
deriving DecidableEq, Repr

structure Header where
  alg : Algorithm
  typ : Option String
  kid : Option String
deriving DecidableEq, Repr

inductive Audience
  | one (value : String)
  | many (values : List String)
deriving DecidableEq, Repr

inductive Scope
  | text (value : String)
  | values (values : List String)
deriving DecidableEq, Repr

structure Claims where
  iss : String
  aud : Audience
  tokenUse : String
  scope : Scope
  sub : String
  userId : Nat
  authVersion : Nat
  jti : String
  iat : Nat
  nbf : Nat
  exp : Nat
deriving DecidableEq, Repr

structure LocalClaims where
  subject : String
  expiresAt : Nat
deriving DecidableEq, Repr

def Audience.contains (expected : String) : Audience → Bool
  | .one value => value == expected
  | .many values => values.any fun value => value == expected

/-- The separators of `split_ascii_whitespace` -/
def isBlank (c : Char) : Bool :=
  c == ' ' || c == '\t' || c == '\n' || c == '\r' || c.toNat == 12

def Scope.contains (expected : String) : Scope → Bool
  | .text value =>
    (Words.words isBlank value.toList).any fun value => String.ofList value == expected
  | .values list => list.any fun value => value == expected

/-! ## Decoding -/

/-- What `decode` is asked to check. -/
structure Validation where
  algorithm : Algorithm := .edDSA
  validateExp : Bool := false
  validateNbf : Bool := false
  leeway : Nat := 0
  requiredSpecClaims : List String := ["iss", "aud", "sub"]
  issuer : String
  audience : String
deriving DecidableEq, Repr

inductive ErrorKind
  | invalidSignature
  | invalidIssuer
  | invalidAudience
  | invalidAlgorithm
  | invalidAlgorithmName
  | other
deriving DecidableEq, Repr

def ErrorKind.reason : ErrorKind → String
  | .invalidSignature => "bad_signature"
  | .invalidIssuer => "wrong_issuer"
  | .invalidAudience => "wrong_audience"
  | .invalidAlgorithm | .invalidAlgorithmName => "unsupported_alg"
  | .other => "malformed_token"

structure Jwt where
  encodeBase64Url : Bytes → String
  decodeHeader : String → Option Header
  decode : String → Bytes → Validation → Except ErrorKind Claims
  /-- `uuid::Uuid::parse_str` succeeds. -/
  isUuid : String → Bool
  sha256 : Bytes → Bytes

/-- The libraries are ideal: what is decoded was signed with the key, the claims are those that the
token has, and no two texts have the same hash. -/
structure Jwt.Ideal (jwt : Jwt) (signed : Bytes → String → Prop) (claimsOf : String → Option Claims) :
    Prop where
  signed : ∀ token key validation claims, jwt.decode token key validation = .ok claims →
    signed key token
  claims : ∀ token key validation claims, jwt.decode token key validation = .ok claims →
    claimsOf token = some claims
  sha256 : ∀ a b : String, jwt.sha256 (asBytes a) = jwt.sha256 (asBytes b) → a = b

variable (env : Env) (jwt : Jwt)

def canonicalSegment (segment : List Char) : Bool :=
  !segment.isEmpty &&
    match env.decodeBase64Url (String.ofList segment) with
    | some decoded => jwt.encodeBase64Url decoded == String.ofList segment
    | none => false

def canonicalCompactJwt (token : String) : Bool :=
  match token.toList.splitOn '.' with
  | [header, payload, signature] =>
    canonicalSegment env jwt header && canonicalSegment env jwt payload &&
      canonicalSegment env jwt signature
  | _ => false

def orFail {α : Type} (reason : String) : Option α → Except String α
  | some a => .ok a
  | none => .error reason

/-! ## The checks -/

/-- The key of a header, in a keyset that is read at `keysNow`. -/
def AuthRuntime.key (runtime : AuthRuntime) (keysNow : Nat) (header : Header) :
    Except String Bytes := do
  ensure (header.alg == .edDSA) "unsupported_alg"
  ensure (header.typ == some "at+jwt") "malformed_token"
  let kid ← orFail "unknown_kid" (header.kid.filter fun kid => !kid.isEmpty)
  let age ← orFail "key_stale" (keyAge keysNow runtime.loadedAtEpochSeconds)
  ensure (decide (age ≤ runtime.config.jwks.maxStaleSeconds)) "key_stale"
  orFail "unknown_kid" (runtime.keys.get kid)

def checkClaims (config : ConnectionAuthConfig) (now : Nat) (claims : Claims) :
    Except String Unit := do
  ensure (claims.iss == config.issuer) "wrong_issuer"
  ensure (claims.aud.contains config.audience) "wrong_audience"
  ensure (claims.tokenUse == config.tokenUse) "wrong_token_use"
  ensure (claims.scope.contains config.requiredScope) "missing_scope"
  ensure (claims.userId != 0 && claims.sub == toString claims.userId) "subject_mismatch"
  ensure (claims.authVersion != 0 && jwt.isUuid claims.jti) "malformed_token"
  let skew := config.clockSkewSeconds
  ensure (decide (claims.nbf ≤ satAdd now skew) && decide (claims.iat ≤ satAdd now skew))
    "not_yet_valid"
  ensure (decide (now ≤ satAdd claims.exp skew)) "expired"
  ensure (decide (claims.iat < claims.exp)) "malformed_token"

def verifyLocalAt (runtime : AuthRuntime) (keysNow : Nat) (token : String) (now : Nat) :
    Except String LocalClaims := do
  ensure (!token.isEmpty) "missing_token"
  ensure (decide ((asBytes token).length ≤ runtime.config.maxTokenBytes)) "malformed_token"
  ensure (canonicalCompactJwt env jwt token) "malformed_token"
  let header ← orFail "malformed_token" (jwt.decodeHeader token)
  let key ← runtime.key keysNow header
  let validation : Validation :=
    { issuer := runtime.config.issuer, audience := runtime.config.audience }
  let claims ← (jwt.decode token key validation).mapError ErrorKind.reason
  checkClaims jwt runtime.config now claims
  return { subject := claims.sub, expiresAt := claims.exp }

/-! ## What a verified token is -/

structure ClaimsHold (config : ConnectionAuthConfig) (now : Nat) (claims : Claims) : Prop where
  issuer : claims.iss = config.issuer
  audience : claims.aud.contains config.audience = true
  tokenUse : claims.tokenUse = config.tokenUse
  scope : claims.scope.contains config.requiredScope = true
  user : claims.userId ≠ 0
  subject : claims.sub = toString claims.userId
  authVersion : claims.authVersion ≠ 0
  jti : jwt.isUuid claims.jti = true
  notBefore : claims.nbf ≤ now + config.clockSkewSeconds
  issuedAt : claims.iat ≤ now + config.clockSkewSeconds
  notExpired : now ≤ claims.exp + config.clockSkewSeconds
  lifetime : claims.iat < claims.exp

/-- The header names a key of the keyset, which is recent enough. -/
structure KeyFound (runtime : AuthRuntime) (keysNow : Nat) (header : Header) (key : Bytes) :
    Prop where
  algorithm : header.alg = .edDSA
  accessToken : header.typ = some "at+jwt"
  named : ∃ kid, header.kid = some kid ∧ kid ≠ "" ∧ runtime.keys.get kid = some key
  recent : ∃ loaded, runtime.loadedAtEpochSeconds = some loaded ∧ loaded ≤ keysNow ∧
    keysNow - loaded ≤ runtime.config.jwks.maxStaleSeconds

/-- A token that a runtime accepts before introspection. -/
structure Verified (signed : Bytes → String → Prop) (claimsOf : String → Option Claims)
    (runtime : AuthRuntime) (keysNow : Nat) (token : String) (now : Nat) (claims : Claims) :
    Prop where
  size : (asBytes token).length ≤ runtime.config.maxTokenBytes
  canonical : ∃ header payload signature, token.toList.splitOn '.' = [header, payload, signature] ∧
    ∀ segment ∈ [header, payload, signature], segment ≠ [] ∧
      ∃ decoded, env.decodeBase64Url (String.ofList segment) = some decoded ∧
        jwt.encodeBase64Url decoded = String.ofList segment
  signed : ∃ header key, jwt.decodeHeader token = some header ∧ KeyFound runtime keysNow header key ∧
    signed key token
  written : claimsOf token = some claims
  claims : ClaimsHold jwt runtime.config now claims

variable {env jwt} {runtime : AuthRuntime} {keysNow now : Nat} {token : String} {claims : Claims}

@[simp] theorem orFail_ok {α : Type} {reason : String} {x : Option α} {a : α} :
    orFail reason x = .ok a ↔ x = some a := by
  cases x <;> simp [orFail]

theorem canonicalSegment_iff {segment : List Char} :
    canonicalSegment env jwt segment = true ↔ segment ≠ [] ∧
      ∃ decoded, env.decodeBase64Url (String.ofList segment) = some decoded ∧
        jwt.encodeBase64Url decoded = String.ofList segment := by
  unfold canonicalSegment
  cases env.decodeBase64Url (String.ofList segment) <;> simp

theorem canonicalCompactJwt_iff : canonicalCompactJwt env jwt token = true ↔
    ∃ header payload signature, token.toList.splitOn '.' = [header, payload, signature] ∧
      ∀ segment ∈ [header, payload, signature], segment ≠ [] ∧
        ∃ decoded, env.decodeBase64Url (String.ofList segment) = some decoded ∧
          jwt.encodeBase64Url decoded = String.ofList segment := by
  unfold canonicalCompactJwt
  constructor
  · intro h
    split at h
    · rename_i header payload signature hsplit
      refine ⟨header, payload, signature, hsplit, ?_⟩
      simpa [canonicalSegment_iff, and_assoc] using h
    · cases h
  · rintro ⟨header, payload, signature, hsplit, hsegments⟩
    simpa [hsplit, canonicalSegment_iff, and_assoc] using hsegments

theorem key_ok {header : Header} {key : Bytes} (h : runtime.key keysNow header = .ok key) :
    KeyFound runtime keysNow header key := by
  unfold AuthRuntime.key at h
  obtain ⟨_, halg, h⟩ := bind_eq_ok.mp h
  obtain ⟨_, htyp, h⟩ := bind_eq_ok.mp h
  obtain ⟨kid, hkid, h⟩ := bind_eq_ok.mp h
  obtain ⟨age, hage, h⟩ := bind_eq_ok.mp h
  obtain ⟨_, hrecent, hkey⟩ := bind_eq_ok.mp h
  obtain ⟨hnamed, hne⟩ := Option.filter_eq_some_iff.mp (orFail_ok.mp hkid)
  obtain ⟨loaded, hloaded, hle, rfl⟩ := keyAge_some (orFail_ok.mp hage)
  exact {
    algorithm := by simpa using halg
    accessToken := by simpa using htyp
    named := ⟨kid, hnamed, by simpa using hne, orFail_ok.mp hkey⟩
    recent := ⟨loaded, hloaded, hle, by simpa using hrecent⟩ }

theorem satAdd_le (x y : Nat) : satAdd x y ≤ x + y := Nat.min_le_left _ _

theorem checkClaims_ok {config : ConnectionAuthConfig} {u : Unit}
    (h : checkClaims jwt config now claims = .ok u) : ClaimsHold jwt config now claims := by
  unfold checkClaims at h
  obtain ⟨_, hissuer, h⟩ := bind_eq_ok.mp h
  obtain ⟨_, haudience, h⟩ := bind_eq_ok.mp h
  obtain ⟨_, huse, h⟩ := bind_eq_ok.mp h
  obtain ⟨_, hscope, h⟩ := bind_eq_ok.mp h
  obtain ⟨_, hsubject, h⟩ := bind_eq_ok.mp h
  obtain ⟨_, hversion, h⟩ := bind_eq_ok.mp h
  obtain ⟨_, hwindow, h⟩ := bind_eq_ok.mp h
  obtain ⟨_, hexpired, h⟩ := bind_eq_ok.mp h
  simp only [Config.ensure_ok, Bool.and_eq_true, bne_iff_ne, beq_iff_eq, decide_eq_true_eq] at *
  exact {
    issuer := hissuer
    audience := haudience
    tokenUse := huse
    scope := hscope
    user := hsubject.1
    subject := hsubject.2
    authVersion := hversion.1
    jti := hversion.2
    notBefore := hwindow.1.trans (satAdd_le _ _)
    issuedAt := hwindow.2.trans (satAdd_le _ _)
    notExpired := hexpired.trans (satAdd_le _ _)
    lifetime := h }

theorem verifyLocalAt_ok {signed : Bytes → String → Prop} {claimsOf : String → Option Claims}
    (hideal : jwt.Ideal signed claimsOf) {found : LocalClaims}
    (h : verifyLocalAt env jwt runtime keysNow token now = .ok found) :
    ∃ claims, Verified env jwt signed claimsOf runtime keysNow token now claims ∧
      found = ⟨claims.sub, claims.exp⟩ := by
  unfold verifyLocalAt at h
  obtain ⟨_, -, h⟩ := bind_eq_ok.mp h
  obtain ⟨_, hsize, h⟩ := bind_eq_ok.mp h
  obtain ⟨_, hcanonical, h⟩ := bind_eq_ok.mp h
  obtain ⟨header, hheader, h⟩ := bind_eq_ok.mp h
  obtain ⟨key, hkey, h⟩ := bind_eq_ok.mp h
  obtain ⟨claims, hdecode, h⟩ := bind_eq_ok.mp h
  obtain ⟨_, hchecked, h⟩ := bind_eq_ok.mp h
  have hdecode := mapError_ok hdecode
  refine ⟨claims, ?_, (Except.ok.inj h).symm⟩
  exact {
    size := by simpa using hsize
    canonical := canonicalCompactJwt_iff.mp (by simpa using hcanonical)
    signed := ⟨header, key, orFail_ok.mp hheader, key_ok hkey, hideal.signed _ _ _ _ hdecode⟩
    written := hideal.claims _ _ _ _ hdecode
    claims := checkClaims_ok hchecked }

end Starry.ConnectionAuth
