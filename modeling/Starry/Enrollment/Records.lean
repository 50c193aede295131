import Starry.ConfigStore.Records

/-!
# Relay enrollment records (`control_agent/relay_enrollment.rs`)

The requests, the records of the registry and the checks that read only their arguments. URLs,
UUIDs, hashing and certificates come from libraries; `Env` stands for these.
-/

namespace Starry.Enrollment

open Starry.ConfigStore (Value isLowerHex)

def registryVersion : Nat := 1
def maxRecords : Nat := 2048
def maxExpirySeconds : Nat := 3600
def maxCsrBytes : Nat := 32 * 1024
def claimRecoverySeconds : Nat := 10 * 60

/-! ## Requests -/

structure RelayEnrollmentPrepareRequest where
  version : Nat
  nodeId : String
  relayServer : String
  publicEndpoint : String
  relayPool : String
  profile : String
  wssEndpoint : Option String
  activateAfterHealth : Bool
  maxSessions : Nat
  capacityBandwidthBps : Nat
  draining : Bool
  fastMediaUdpPort : Option UInt16
  expiresInSeconds : Nat
deriving DecidableEq, Repr

structure RelayEnrollmentCompleteRequest where
  version : Nat
  enrollmentId : String
  configurationDigest : String
  requestDigest : String
  keyFingerprint : String
  csrPem : String
deriving DecidableEq, Repr

structure RelayEnrollmentRevokeRequest where
  version : Nat
  enrollmentId : String
  configurationDigest : String
deriving DecidableEq, Repr

structure RelayEnrollmentActivateRequest where
  version : Nat
  enrollmentId : String
  configurationDigest : String
  operationId : String
  configGeneration : Nat
  healthSnapshotId : String
deriving DecidableEq, Repr

/-! ## Records -/

inductive EnrollmentState
  | pendingClaim | claimedPendingHealth | pendingApproval | active | expired | revoked
deriving DecidableEq, Repr

/-- Whether the state is one of those in which the node may be enrolled again. -/
def EnrollmentState.isOver : EnrollmentState → Bool
  | .revoked | .expired => true
  | _ => false

structure EnrollmentRecord where
  registryVersion : Nat
  instanceId : String
  enrollmentId : String
  prepareIdempotencyKeyDigest : String
  configurationDigest : String
  createdAtUnix : Nat
  expiresAtUnix : Nat
  state : EnrollmentState
  approved : RelayEnrollmentPrepareRequest
  requestDigest : Option String
  keyFingerprint : Option String
  csrDigest : Option String
  completedAtUnix : Option Nat
  activationOperationId : Option String
  activationConfigGeneration : Option Nat
  activationHealthSnapshotId : Option String
  activatedAtUnix : Option Nat
deriving DecidableEq, Repr

structure ClaimMarker where
  version : Nat
  enrollmentId : String
  configurationDigest : String
  requestDigest : String
  keyFingerprint : String
  csrDigest : String
deriving DecidableEq, Repr

/-! ## Responses and errors -/

structure RelayEnrollmentPrepareResponse where
  version : Nat
  enrollmentId : String
  configurationDigest : String
  expiresAtUnix : Nat
  state : EnrollmentState
  reused : Bool
deriving DecidableEq, Repr

structure RelayEnrollmentBundle where
  nodeId : String
  relayServer : String
  publicEndpoint : String
  nodeCertificatePem : String
  relayCaPem : String
  centerPublicKey : String
  telemetrySecret : String
  maxSessions : Nat
  capacityBandwidthBps : Nat
  draining : Bool
  relayPool : String
  profile : String
  wssEndpoint : Option String
  activateAfterHealth : Bool
  fastMediaUdpPort : Option UInt16
deriving DecidableEq, Repr

structure RelayEnrollmentCompleteResponse where
  version : Nat
  enrollmentId : String
  configurationDigest : String
  requestDigest : String
  keyFingerprint : String
  state : EnrollmentState
  bundle : RelayEnrollmentBundle
  reused : Bool
deriving DecidableEq, Repr

structure RelayEnrollmentSummary where
  version : Nat
  enrollmentId : String
  nodeId : String
  relayServer : String
  relayPool : String
  profile : String
  configurationDigest : String
  expiresAtUnix : Nat
  state : EnrollmentState
  activateAfterHealth : Bool
  keyFingerprint : Option String
  activationOperationId : Option String
  activationConfigGeneration : Option Nat
  activationHealthSnapshotId : Option String
  activatedAtUnix : Option Nat
deriving DecidableEq, Repr

structure EnrollmentError where
  status : Nat
  code : String
  detail : String
  retryable : Bool
deriving DecidableEq, Repr

namespace EnrollmentError

def invalid (detail : String) : EnrollmentError := ⟨400, "RELAY_ENROLLMENT_INVALID", detail, false⟩

def conflict (code detail : String) : EnrollmentError := ⟨409, code, detail, false⟩

def gone (detail : String) : EnrollmentError := ⟨410, "RELAY_ENROLLMENT_EXPIRED", detail, false⟩

def capacity : EnrollmentError :=
  ⟨503, "RELAY_ENROLLMENT_CAPACITY", "The bounded Relay enrollment registry is full.", false⟩

def internal : EnrollmentError :=
  ⟨500, "RELAY_ENROLLMENT_UNAVAILABLE", "The Relay enrollment registry is unavailable.", true⟩

end EnrollmentError

def prepareResponse (record : EnrollmentRecord) (reused : Bool) : RelayEnrollmentPrepareResponse :=
  { version := 1, enrollmentId := record.enrollmentId
    configurationDigest := record.configurationDigest, expiresAtUnix := record.expiresAtUnix
    state := record.state, reused }

def summary (record : EnrollmentRecord) : RelayEnrollmentSummary :=
  { version := 1
    enrollmentId := record.enrollmentId
    nodeId := record.approved.nodeId
    relayServer := record.approved.relayServer
    relayPool := record.approved.relayPool
    profile := record.approved.profile
    configurationDigest := record.configurationDigest
    expiresAtUnix := record.expiresAtUnix
    state := record.state
    activateAfterHealth := record.approved.activateAfterHealth
    keyFingerprint := record.keyFingerprint
    activationOperationId := record.activationOperationId
    activationConfigGeneration := record.activationConfigGeneration
    activationHealthSnapshotId := record.activationHealthSnapshotId
    activatedAtUnix := record.activatedAtUnix }

/-! ## Libraries -/

/-- What the checks read of a parsed `url::Url`. -/
structure Url where
  scheme : String
  hostStr : Option String
  port : Option Nat
  username : String
  password : Option String
  path : String
  query : Option String
  fragment : Option String
deriving DecidableEq, Repr

structure Env where
  parseUrl : String → Option Url
  /-- `uuid::Uuid::parse_str` succeeds. -/
  isUuid : String → Bool
  /-- `format!("sha256:{:x}", Sha256::digest(..))` -/
  digest : Bytes → String
  /-- `serde_json::to_vec` -/
  toVec : Value → Bytes
  /-- The fingerprint of the key of a request with a valid signature. -/
  csrKey : String → Except EnrollmentError String
  /-- The fingerprint of the key in a certificate. -/
  certificateKey : String → Option String
  /-- The times, the issuer and both signatures are valid. -/
  certificateValid : (leaf ca : String) → (now : Nat) → Bool
  /-- How many bytes the text decodes to as base64, and as unpadded URL-safe base64. -/
  decodedLength : String → Option Nat
  decodedUrlSafeLength : String → Option Nat

/-! ## Checks -/

section Checks

variable (env : Env)

/-- The source looks at bytes; a character that is not ASCII fails either way. -/
def safeIdentifier (value : String) : Bool :=
  !value.isEmpty && decide (value.utf8ByteSize ≤ 128) && !(".".toList.isPrefixOf value.toList) &&
    value.toList.all fun c => c.isAlphanum || c == '-' || c == '_' || c == '.'

def validDigest (value : String) : Bool :=
  value.utf8ByteSize == 71 && "sha256:".toList.isPrefixOf value.toList &&
    (value.toList.drop 7).all isLowerHex

def validRelayEndpoint (value : String) : Bool :=
  if decide (value.utf8ByteSize > 256) || value.toList.any isWhiteSpace then false
  else match env.parseUrl ("tcp://" ++ value) with
    | none => false
    | some parsed =>
      parsed.hostStr.isSome && parsed.port.isSome && parsed.username.isEmpty &&
        parsed.password.isNone && parsed.path.isEmpty && parsed.query.isNone &&
        parsed.fragment.isNone

/-- `valid_telemetry_endpoint` of the relay's own checks. -/
def validTelemetryEndpoint (value : String) : Bool :=
  match env.parseUrl value with
  | none => false
  | some parsed =>
    parsed.scheme == "wss" && parsed.hostStr.isSome && parsed.username.isEmpty &&
      parsed.password.isNone && parsed.path == "/ws/telemetry" && parsed.query.isNone &&
      parsed.fragment.isNone

/-- The same in the agent, with a bound on the length. -/
def validWssEndpoint (value : String) : Bool :=
  if decide (value.utf8ByteSize > 512) || value.toList.any isWhiteSpace then false
  else validTelemetryEndpoint env value

def knownProfile (profile : String) : Bool :=
  profile == "native" || profile == "native-wss" || profile == "native-wss-fastmedia"

def validatePrepare (request : RelayEnrollmentPrepareRequest) : Except EnrollmentError Unit :=
  if request.version != 1 || !safeIdentifier request.nodeId || !safeIdentifier request.relayPool ||
      request.relayServer != request.publicEndpoint ||
      !validRelayEndpoint env request.relayServer ||
      request.maxSessions == 0 || decide (request.maxSessions > 1000000) ||
      request.capacityBandwidthBps == 0 || request.expiresInSeconds == 0 ||
      decide (request.expiresInSeconds > maxExpirySeconds) || !knownProfile request.profile ||
      (request.profile == "native" && request.wssEndpoint.isSome) ||
      (request.profile != "native" && !request.wssEndpoint.any (validWssEndpoint env)) ||
      (request.profile == "native-wss-fastmedia") != request.fastMediaUdpPort.isSome then
    .error (.invalid "The approved Relay configuration is invalid.")
  else .ok ()

def validateComplete (request : RelayEnrollmentCompleteRequest) : Except EnrollmentError Unit :=
  if request.version != 1 || !env.isUuid request.enrollmentId ||
      !validDigest request.configurationDigest || !validDigest request.requestDigest ||
      !validDigest request.keyFingerprint || request.csrPem.isEmpty ||
      decide (request.csrPem.utf8ByteSize > maxCsrBytes) then
    .error (.invalid "The Relay enrollment claim is invalid.")
  else .ok ()

def validateActivate (request : RelayEnrollmentActivateRequest) : Except EnrollmentError Unit :=
  if request.version != 1 || !env.isUuid request.enrollmentId ||
      !validDigest request.configurationDigest || !env.isUuid request.operationId ||
      request.configGeneration == 0 || decide (request.healthSnapshotId.utf8ByteSize < 8) ||
      decide (request.healthSnapshotId.utf8ByteSize > 128) ||
      !("health-".toList.isPrefixOf request.healthSnapshotId.toList) ||
      !(request.healthSnapshotId.toList.all fun c =>
        c.isAlphanum || c == '-' || c == '_' || c == '.') then
    .error (.invalid "The Relay activation evidence request is invalid.")
  else .ok ()

def validateIdempotencyKey (value : String) : Except EnrollmentError Unit :=
  if decide (value.utf8ByteSize < 8) || decide (value.utf8ByteSize > 128) ||
      !(value.toList.all fun c => c.isAlphanum || c == '-' || c == '_' || c == '.' || c == ':') then
    .error (.invalid "Idempotency-Key is invalid.")
  else .ok ()

end Checks

/-! ## Digests -/

section Digests

mutual

/-- `canonical_json::sorted` -/
def sorted : Value → Value
  | .object fields => .object ((sortedFields fields).mergeSort fun a b => decide (a.1 ≤ b.1))
  | .array items => .array (sortedItems items)
  | value => value

def sortedItems : List Value → List Value
  | [] => []
  | item :: items => sorted item :: sortedItems items

def sortedFields : List (String × Value) → List (String × Value)
  | [] => []
  | (key, value) :: fields => (key, sorted value) :: sortedFields fields

end

variable (env : Env)

def canonicalJson (value : Value) : Bytes := env.toVec (sorted value)

def optional {α : Type} (toValue : α → Value) : Option α → Value
  | none => .null
  | some x => toValue x

def relayConfigurationDigest (nodeId relayServer publicEndpoint relayPool profile : String)
    (wssEndpoint : Option String) (activateAfterHealth : Bool)
    (maxSessions capacityBandwidthBps : Nat) (draining : Bool)
    (fastMediaUdpPort : Option UInt16) : String :=
  env.digest (canonicalJson env (.object
    [("activate_after_health", .bool activateAfterHealth),
      ("capacity_bandwidth_bps", .uint capacityBandwidthBps),
      ("draining", .bool draining),
      ("fast_media_udp_port", optional (fun port => .uint port.toNat) fastMediaUdpPort),
      ("max_sessions", .uint maxSessions),
      ("node_id", .string nodeId),
      ("profile", .string profile),
      ("public_endpoint", .string publicEndpoint),
      ("relay_pool", .string relayPool),
      ("relay_server", .string relayServer),
      ("wss_endpoint", optional .string wssEndpoint)]))

def approvedDigest (request : RelayEnrollmentPrepareRequest) : String :=
  relayConfigurationDigest env request.nodeId request.relayServer request.publicEndpoint
    request.relayPool request.profile request.wssEndpoint request.activateAfterHealth
    request.maxSessions request.capacityBandwidthBps request.draining request.fastMediaUdpPort

end Digests

end Starry.Enrollment
