import Starry.Config.Validate
import Starry.ConfigStore.Json
import Starry.Enrollment.Records

/-!
# Pairing codes and identities (`pairing.rs`)

The records of a pairing and the checks that read only their arguments. Key pairs, certificates, PEM,
base64 and the parsing of JSON and URLs come from libraries; `Env` stands for these.
-/

namespace Starry.Pairing

open Starry.ConfigStore (Value)
open Starry.Config (ensure)
open Starry.Enrollment (canonicalJson validDigest)

def protocolVersion : Nat := 1
def maxPairingCodeBytes : Nat := 4096

/-! ## Paths -/

/-- A path as it is written. -/
structure PathBuf where
  absolute : Bool
  components : List String
deriving DecidableEq, Repr

namespace PathBuf

def join (path : PathBuf) (name : String) : PathBuf :=
  { path with components := path.components ++ [name] }

def parent (path : PathBuf) : Option PathBuf :=
  if path.components.isEmpty then none
  else some { path with components := path.components.dropLast }

def startsWith (path base : PathBuf) : Bool :=
  path.absolute == base.absolute && base.components.isPrefixOf path.components

def display (path : PathBuf) : String :=
  (if path.absolute then "/" else "") ++ "/".intercalate path.components

@[simp] theorem join_inj {path path' : PathBuf} {name name' : String} :
    path.join name = path'.join name' ↔ path = path' ∧ name = name' := by
  obtain ⟨absolute, components⟩ := path
  obtain ⟨absolute', components'⟩ := path'
  simp [join, List.append_eq_append_iff_of_size_eq_right, and_assoc]

@[simp] theorem startsWith_join (path : PathBuf) (name : String) :
    (path.join name).startsWith path = true := by
  simp [startsWith, join]

end PathBuf

/-! ## Records -/

inductive Purpose
  | controlAgent | relay
deriving DecidableEq, Repr

def Purpose.asStr : Purpose → String
  | .controlAgent => "control-agent"
  | .relay => "relay"

def Purpose.parse : String → Option Purpose
  | "control-agent" => some .controlAgent
  | "relay" => some .relay
  | _ => none

structure PairingCodePayload where
  version : Nat
  purpose : String
  brokerOrigin : String
  brokerSpkiSha256 : String
  enrollmentId : String
  configurationDigest : String
  expiresAtUnix : Nat
  secret : String
deriving DecidableEq, Repr

structure PairingCode where
  purpose : Purpose
  brokerOrigin : String
  brokerSpkiSha256 : String
  enrollmentId : String
  configurationDigest : String
  expiresAtUnix : Nat
  secret : String
deriving DecidableEq, Repr

inductive ControlPairMode
  | pair | adopt | rotate
deriving DecidableEq, Repr

def ControlPairMode.action : ControlPairMode → String
  | .pair => "pair"
  | .adopt => "adopt"
  | .rotate => "rotate"

structure ControlPairOptions where
  mode : ControlPairMode
  tlsServerName : Option String
  stateDir : PathBuf
  identityDir : PathBuf
  output : PathBuf
  sharedDir : PathBuf
  managedConfigPath : PathBuf
  backupDir : PathBuf
  listen : String
  localControlAddress : String
  brokerCaFile : Option PathBuf
deriving DecidableEq, Repr

structure PairingSummary where
  purpose : String
  enrollmentState : String
  identityFingerprint : String
  output : String
  restartRequired : Bool
deriving DecidableEq, Repr

structure ClaimRequest where
  version : Nat
  purpose : String
  action : String
  enrollmentId : String
  configurationDigest : String
  secret : String
  requestDigest : String
  keyFingerprint : String
  csrPem : String
  instanceId : Option String
deriving DecidableEq, Repr

structure ClaimResponse where
  version : Nat
  purpose : String
  enrollmentId : String
  configurationDigest : String
  requestDigest : String
  keyFingerprint : String
  bundle : Value

structure ControlAgentBundle where
  instanceId : String
  agentOrigin : String
  serverCertificatePem : String
  clientCaPem : String
  allowedClientUriSans : List String
  serviceJwks : Value
  serviceJwtIssuer : String
  serviceJwtAudiencePrefix : String
  centerPublicKey : String

structure PendingIdentity where
  version : Nat
  purpose : String
  action : String
  enrollmentId : String
  configurationDigest : String
  requestDigest : String
  keyFingerprint : String
  csrDigest : String
  instanceId : Option String
deriving DecidableEq, Repr

/-- `ControlIdentityMarker` where it is written. -/
structure InstalledControlIdentity where
  version : Nat
  purpose : String
  enrollmentId : String
  configurationDigest : String
  instanceId : String
  keyFingerprint : String
  generation : Nat
deriving DecidableEq, Repr

structure GeneratedTlsConfig where
  caFile : String
  certFile : String
  keyFile : String
  allowedClientUriSans : List String
deriving DecidableEq, Repr

structure GeneratedServiceJwtConfig where
  issuer : String
  jwksFile : String
  audiencePrefix : String
deriving DecidableEq, Repr

structure GeneratedLocalControlConfig where
  address : String
  tokenFile : String
deriving DecidableEq, Repr

structure GeneratedManagedConfig where
  path : String
  backupDir : String
  maxBytes : Nat
  writeEnabled : Bool
deriving DecidableEq, Repr

structure GeneratedAgentConfig where
  version : Nat
  instanceIdFile : String
  listen : String
  tls : GeneratedTlsConfig
  serviceJwt : GeneratedServiceJwtConfig
  localControl : GeneratedLocalControlConfig
  config : GeneratedManagedConfig
deriving DecidableEq, Repr

/-! ## Contents of files -/

/-- What a file holds, by what it was serialized from. -/
inductive Content
  | text (value : String)
  | json (value : Value)
  | pending (value : PendingIdentity)
  | marker (value : InstalledControlIdentity)
  | config (value : GeneratedAgentConfig)
deriving DecidableEq

namespace Content

def asText : Content → Option String
  | .text value => some value
  | _ => none

def asPending : Content → Option PendingIdentity
  | .pending value => some value
  | _ => none

def asMarker : Content → Option InstalledControlIdentity
  | .marker value => some value
  | _ => none

def asConfig : Content → Option GeneratedAgentConfig
  | .config value => some value
  | _ => none

end Content

/-! ## Libraries -/

/-- An `rcgen::KeyPair`: its PKCS #8 document. -/
structure KeyPair where
  der : Bytes
deriving DecidableEq, Repr

/-- What the checks read of a certificate. -/
structure Certificate where
  subjectPki : Bytes
  notBefore : Int
  notAfter : Int
deriving DecidableEq, Repr

structure Env extends Enrollment.Env where
  /-- The payload of the text after `SP1.`, if it is base64 of one. -/
  decodePayload : String → Option PairingCodePayload
  fromPem : String → Option KeyPair
  serializePem : KeyPair → String
  publicKeyDer : KeyPair → Bytes
  /-- The PEM text of a signing request for a key, with its subject alternative names and its common
  name. -/
  serializeRequest : KeyPair → List String → String → Option String
  parseCertificate : String → Option Certificate
  /-- The value as a `ControlAgentBundle` -/
  readBundle : Value → Option ControlAgentBundle
  isIpAddr : String → Bool
  /-- `char::is_control` -/
  isControl : Char → Bool
  /-- The size of a file in bytes. -/
  len : Content → Nat
  /-- A key pair is read back as it was written. -/
  fromPem_serializePem : ∀ key, fromPem (serializePem key) = some key

def Content.keyPair (env : Env) (content : Content) : Option KeyPair :=
  content.asText.bind env.fromPem

/-! ## Checks -/

section Checks

variable (env : Env)

def digest (text : String) : String := env.digest (asBytes text)

def validateOrigin (value : String) : Except String Unit :=
  match env.parseUrl value with
  | none => .error "pairing_origin_invalid"
  | some parsed =>
    ensure (parsed.scheme == "https" && parsed.hostStr.isSome && parsed.username.isEmpty &&
      parsed.password.isNone && parsed.query.isNone && parsed.fragment.isNone &&
      (parsed.path == "" || parsed.path == "/")) "pairing_origin_invalid"

def validateDigest (value code : String) : Except String Unit := ensure (validDigest value) code

/-- `PairingCode::parse` -/
def PairingCode.parse (input : String) (expected : Purpose) (now : Nat) :
    Except String PairingCode := do
  let input := trim input
  ensure (decide (input.utf8ByteSize ≤ maxPairingCodeBytes) &&
    "SP1.".toList.isPrefixOf input.toList) "pairing_code_invalid"
  let encoded := String.ofList (input.toList.drop 4)
  ensure (!encoded.isEmpty && !encoded.toList.contains '.') "pairing_code_invalid"
  let payload ← (env.decodePayload encoded).elim (.error "pairing_code_invalid") .ok
  let purpose ← (Purpose.parse payload.purpose).elim (.error "pairing_code_purpose_invalid") .ok
  ensure (payload.version == protocolVersion && purpose == expected)
    "pairing_code_purpose_mismatch"
  validateOrigin env payload.brokerOrigin
  validateDigest payload.brokerSpkiSha256 "pairing_code_pin_invalid"
  validateDigest payload.configurationDigest "pairing_code_config_digest_invalid"
  ensure (env.isUuid payload.enrollmentId) "pairing_code_enrollment_invalid"
  ensure (env.decodedUrlSafeLength payload.secret == some 32) "pairing_code_secret_invalid"
  ensure (decide (now < payload.expiresAtUnix) &&
    decide (payload.expiresAtUnix ≤ satAdd now (60 * 60))) "pairing_code_expired_or_unbounded"
  return {
    purpose
    brokerOrigin := payload.brokerOrigin
    brokerSpkiSha256 := payload.brokerSpkiSha256
    enrollmentId := payload.enrollmentId
    configurationDigest := payload.configurationDigest
    expiresAtUnix := payload.expiresAtUnix
    secret := payload.secret }

/-- A label of a host name. -/
def validLabel (label : String) : Bool :=
  !label.isEmpty && decide (label.utf8ByteSize ≤ 63) &&
    label.toList.head?.any Char.isAlphanum && label.toList.getLast?.any Char.isAlphanum &&
    label.toList.all fun c => c.isAlphanum || c == '-'

def validateTlsServerName (value : String) : Except String Unit :=
  ensure (!value.isEmpty && decide (value.utf8ByteSize ≤ 253) &&
    (value.toList.all fun c => decide (c.toNat < 128)) && !env.isIpAddr value &&
    ((value.splitOn ".").all validLabel)) "control_tls_server_name_invalid"

def boundedName (value : String) : Except String Unit :=
  ensure (!value.isEmpty && decide (value.utf8ByteSize ≤ 128) && !value.toList.any env.isControl)
    "identity_name_invalid"

def validateControlPaths (options : ControlPairOptions) : Except String Unit := do
  ensure ([options.stateDir, options.identityDir, options.output, options.sharedDir,
    options.managedConfigPath, options.backupDir].all fun path => path.absolute)
    "control_pairing_path_not_absolute"
  ensure (!(options.stateDir == options.identityDir || options.output.startsWith options.stateDir ||
    options.output.startsWith options.sharedDir)) "control_pairing_path_layout_invalid"
  match options.tlsServerName with
  | some name => validateTlsServerName env name
  | none => .ok ()

def validateCertificateForKey (pem expected : String) (now : Nat) : Except String Unit :=
  match env.parseCertificate pem with
  | none => .error "pairing_certificate_invalid"
  | some certificate => do
    ensure (env.digest certificate.subjectPki == expected) "pairing_certificate_key_mismatch"
    ensure (decide (certificate.notBefore ≤ now) && decide ((now : Int) < certificate.notAfter))
      "pairing_certificate_expired"

def validateCertificatePem (pem : String) (now : Nat) : Except String Unit :=
  match env.parseCertificate pem with
  | none => .error "pairing_certificate_invalid"
  | some certificate =>
    ensure (decide (certificate.notBefore ≤ now) && decide ((now : Int) < certificate.notAfter))
      "pairing_certificate_expired"

def validJwk (key : Value) : Bool :=
  match key with
  | .object fields =>
    (fields.lookup "d").isNone && (key.get "kty").bind Value.asStr == some "OKP" &&
      (key.get "crv").bind Value.asStr == some "Ed25519" &&
      (((key.get "x").bind Value.asStr).bind env.decodedUrlSafeLength) == some 32
  | _ => false

def validatePublicJwks (value : Value) : Except String Unit :=
  match (value.get "keys").bind Value.asArray with
  | none => .error "pairing_jwks_invalid"
  | some keys =>
    ensure (!keys.isEmpty && decide (keys.length ≤ 32) && keys.all (validJwk env))
      "pairing_jwks_invalid"

/-- The claims of a bundle that the configuration digest is taken of. -/
def approvedBundle (bundle : ControlAgentBundle) : Value :=
  .object
    [("agent_origin", .string bundle.agentOrigin),
      ("allowed_client_uri_sans", .array (bundle.allowedClientUriSans.map .string)),
      ("center_public_key", .string bundle.centerPublicKey),
      ("service_jwt_audience_prefix", .string bundle.serviceJwtAudiencePrefix),
      ("service_jwt_issuer", .string bundle.serviceJwtIssuer)]

def validateControlBundle (bundle : ControlAgentBundle)
    (instanceId keyFingerprint configurationDigest : String) (now now' : Nat) :
    Except String Unit := do
  ensure (bundle.instanceId == instanceId && !bundle.allowedClientUriSans.isEmpty &&
    decide (bundle.allowedClientUriSans.length ≤ 32) &&
    (bundle.allowedClientUriSans.all fun value => decide (value.utf8ByteSize ≤ 256) &&
      "spiffe://".toList.isPrefixOf value.toList) &&
    !bundle.serviceJwtAudiencePrefix.isEmpty &&
    decide (bundle.serviceJwtAudiencePrefix.utf8ByteSize ≤ 128)) "control_pairing_bundle_invalid"
  validateOrigin env bundle.agentOrigin
  validateOrigin env bundle.serviceJwtIssuer
  validateCertificateForKey env bundle.serverCertificatePem keyFingerprint now
  validateCertificatePem env bundle.clientCaPem now'
  validatePublicJwks env bundle.serviceJwks
  ensure (env.decodedLength bundle.centerPublicKey == some 32) "control_pairing_center_key_invalid"
  ensure (env.digest (canonicalJson env.toEnv (approvedBundle bundle)) == configurationDigest)
    "pairing_configuration_drift"

def validateClaimResponse (code : PairingCode) (request : ClaimRequest) (response : ClaimResponse) :
    Except String ControlAgentBundle := do
  ensure (response.version == 1 && response.purpose == request.purpose &&
    response.enrollmentId == request.enrollmentId &&
    response.configurationDigest == request.configurationDigest &&
    response.requestDigest == request.requestDigest &&
    response.keyFingerprint == request.keyFingerprint &&
    response.configurationDigest == code.configurationDigest) "pairing_response_binding_mismatch"
  (env.readBundle response.bundle).elim (.error "pairing_bundle_invalid") .ok

def claimRequestDigest (purpose : Purpose)
    (action enrollmentId configurationDigest keyFingerprint csrPem : String)
    (instanceId : Option String) : String :=
  digest env ("starry-pairing-claim-v1\n" ++ purpose.asStr ++ "\n" ++ action ++ "\n" ++ enrollmentId ++
    "\n" ++ configurationDigest ++ "\n" ++ keyFingerprint ++ "\n" ++ digest env csrPem ++ "\n" ++
    instanceId.getD "")

end Checks

end Starry.Pairing
