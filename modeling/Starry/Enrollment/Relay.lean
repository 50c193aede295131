import Starry.Enrollment.Lifecycle

/-!
# The relay's side of an enrollment (`pairing.rs`, `relay_enrollment.rs`)

The relay checks the bundle that it is sent, installs it as files, and checks the files and its
environment again before it opens a listener. Every check is written out a second time there.
-/

open Library Library.Prog

namespace Starry.Enrollment

open Starry.ConfigStore (Value)

/-- The host of a relay: where the identity is installed, the digest of the machine's identity, and
the checks of keys and certificates. -/
structure RelayHost where
  directory : String
  binding : String
  validBinding : validDigest binding = true
  checkBundleCertificates : (leaf ca keyFingerprint : String) → Except String Unit
  checkInstalledCertificates : (privateKey leaf ca keyFingerprint : String) → Except String Unit

/-! ## The bundle -/

def safeEnvValue (value : String) : Bool :=
  !value.isEmpty && decide (value.utf8ByteSize ≤ 256) &&
    value.toList.all fun c => c.isAlphanum || c == '.' || c == '-' || c == '_' || c == ':' ||
      c == '[' || c == ']'

section Checks

variable (env : Env) (host : RelayHost)

def validateRelayBundle (bundle : RelayEnrollmentBundle)
    (keyFingerprint configurationDigest : String) : Except String Unit := do
  if bundle.nodeId.isEmpty || decide (bundle.nodeId.utf8ByteSize > 128) ||
      bundle.relayServer.isEmpty || decide (bundle.relayServer.utf8ByteSize > 256) ||
      bundle.relayServer != bundle.publicEndpoint ||
      bundle.maxSessions == 0 || decide (bundle.maxSessions > 1000000) ||
      bundle.capacityBandwidthBps == 0 ||
      bundle.relayPool.isEmpty || decide (bundle.relayPool.utf8ByteSize > 128) ||
      !knownProfile bundle.profile ||
      (bundle.profile == "native" && bundle.wssEndpoint.isSome) ||
      (bundle.profile != "native" && bundle.wssEndpoint.isNone) ||
      bundle.wssEndpoint.any (fun endpoint => !validTelemetryEndpoint env endpoint) ||
      (bundle.profile == "native-wss-fastmedia") != bundle.fastMediaUdpPort.isSome ||
      bundle.fastMediaUdpPort == some 0 ||
      env.decodedUrlSafeLength bundle.telemetrySecret != some 32 ||
      env.decodedLength bundle.centerPublicKey != some 32 ||
      !safeEnvValue bundle.relayServer then
    throw "relay_pairing_bundle_invalid"
  host.checkBundleCertificates bundle.nodeCertificatePem bundle.relayCaPem keyFingerprint
  if relayConfigurationDigest env bundle.nodeId bundle.relayServer bundle.publicEndpoint
      bundle.relayPool bundle.profile bundle.wssEndpoint bundle.activateAfterHealth
      bundle.maxSessions bundle.capacityBandwidthBps bundle.draining bundle.fastMediaUdpPort ≠
      configurationDigest then
    throw "pairing_configuration_drift"

/-! ## What is installed -/

/-- The files of an installed identity, those in JSON as values. -/
structure RelayFiles where
  nodeId : String
  nodeKey : String
  nodeCertificate : String
  relayCa : String
  centerPublicKey : String
  telemetrySecret : String
  hostId : String
  relayConfig : Value
  compatibility : String
  enrollment : Value

def telemetrySecretFile (directory : String) : String := directory ++ "/telemetry.secret"

def relayRuntimeConfig (bundle : RelayEnrollmentBundle) : Value :=
  .object
    [("version", .uint 1),
      ("node_id", .string bundle.nodeId),
      ("relay_server", .string bundle.relayServer),
      ("public_endpoint", .string bundle.publicEndpoint),
      ("telemetry_secret_file", .string (telemetrySecretFile host.directory)),
      ("max_sessions", .uint bundle.maxSessions),
      ("capacity_bandwidth_bps", .uint bundle.capacityBandwidthBps),
      ("draining", .bool bundle.draining),
      ("relay_pool", .string bundle.relayPool),
      ("profile", .string bundle.profile),
      ("wss_endpoint", optional .string bundle.wssEndpoint),
      ("activate_after_health", .bool bundle.activateAfterHealth),
      ("fast_media_udp_port", optional (fun port => .uint port.toNat) bundle.fastMediaUdpPort)]

def relayIdentityMarker (bundle : RelayEnrollmentBundle)
    (enrollmentId configurationDigest keyFingerprint : String) : Value :=
  .object
    [("version", .uint 1),
      ("purpose", .string "relay"),
      ("enrollment_id", .string enrollmentId),
      ("configuration_digest", .string configurationDigest),
      ("node_id", .string bundle.nodeId),
      ("relay_server", .string bundle.relayServer),
      ("key_fingerprint", .string keyFingerprint),
      ("host_binding", .string host.binding),
      ("generation", .uint 1)]

abbrev Variables := List (String × String)

/-- The variables of `relay-compat.env`. -/
def exportedVariables (bundle : RelayEnrollmentBundle) : Variables :=
  [("KEY", bundle.centerPublicKey),
    ("STARRY_RELAY_TELEMETRY_SECRET_FILE", telemetrySecretFile host.directory),
    ("STARRY_RELAY_PUBLIC_ENDPOINT", bundle.publicEndpoint),
    ("STARRY_RELAY_MAX_SESSIONS", toString bundle.maxSessions),
    ("STARRY_RELAY_CAPACITY_BANDWIDTH_BPS", toString bundle.capacityBandwidthBps),
    ("STARRY_RELAY_DRAINING", if bundle.draining then "1" else "0"),
    ("STARRY_RELAY_ENROLLMENT_DIR", host.directory)] ++
  match bundle.fastMediaUdpPort with
  | some port => [("STARRY_RELAY_FAST_MEDIA_UDP_PORT", toString port.toNat)]
  | none => []

def envText (vars : Variables) : String :=
  String.join (vars.map fun v => v.1 ++ "=" ++ v.2 ++ "\n")

def installRelayIdentity (bundle : RelayEnrollmentBundle)
    (enrollmentId configurationDigest keyFingerprint privateKey : String) : RelayFiles :=
  { nodeId := bundle.nodeId ++ "\n"
    nodeKey := privateKey
    nodeCertificate := bundle.nodeCertificatePem
    relayCa := bundle.relayCaPem
    centerPublicKey := bundle.centerPublicKey ++ "\n"
    telemetrySecret := bundle.telemetrySecret ++ "\n"
    hostId := host.binding ++ "\n"
    relayConfig := relayRuntimeConfig host bundle
    compatibility := envText (exportedVariables host bundle)
    enrollment := relayIdentityMarker host bundle enrollmentId configurationDigest keyFingerprint }

end Checks

/-! ## Reading the files again -/

structure EnrollmentMarker where
  version : Nat
  purpose : String
  enrollmentId : String
  configurationDigest : String
  nodeId : String
  relayServer : String
  keyFingerprint : String
  hostBinding : String
  generation : Nat
deriving DecidableEq, Repr

/-- `activate_after_health` has to be there, and is not read. -/
structure RelayRuntimeConfig where
  version : Nat
  nodeId : String
  relayServer : String
  publicEndpoint : String
  telemetrySecretFile : String
  maxSessions : Nat
  capacityBandwidthBps : Nat
  draining : Bool
  relayPool : String
  profile : String
  wssEndpoint : Option String
  fastMediaUdpPort : Option Nat
deriving DecidableEq, Repr

/-- `deny_unknown_fields`; serde refuses a repeated field as well. -/
def onlyFields (known : List String) : Value → Bool
  | .object fields => fields.all (fun f => known.contains f.1) && decide (fields.map Prod.fst).Nodup
  | _ => false

def textField (v : Value) (key : String) : Option String := (v.get key).bind Value.asStr

def uintField (v : Value) (key : String) (limit : Nat) : Option Nat :=
  ((v.get key).bind Value.asU64).filter fun n => decide (n < limit)

/-- An optional field may be missing or null. -/
def defaultField {α : Type} (v : Value) (key : String) (read : Value → Option α) :
    Option (Option α) :=
  match v.get key with
  | none | some .null => some none
  | some x => (read x).map some

def decodeMarker (v : Value) : Option EnrollmentMarker := do
  guard (onlyFields ["version", "purpose", "enrollment_id", "configuration_digest", "node_id",
    "relay_server", "key_fingerprint", "host_binding", "generation"] v)
  return {
    version := ← uintField v "version" (2 ^ 32)
    purpose := ← textField v "purpose"
    enrollmentId := ← textField v "enrollment_id"
    configurationDigest := ← textField v "configuration_digest"
    nodeId := ← textField v "node_id"
    relayServer := ← textField v "relay_server"
    keyFingerprint := ← textField v "key_fingerprint"
    hostBinding := ← textField v "host_binding"
    generation := ← uintField v "generation" (2 ^ 64) }

def decodeRuntime (v : Value) : Option RelayRuntimeConfig := do
  guard (onlyFields ["version", "node_id", "relay_server", "public_endpoint",
    "telemetry_secret_file", "max_sessions", "capacity_bandwidth_bps", "draining", "relay_pool",
    "profile", "wss_endpoint", "activate_after_health", "fast_media_udp_port"] v)
  let _ ← (v.get "activate_after_health").bind Value.asBool
  return {
    version := ← uintField v "version" (2 ^ 32)
    nodeId := ← textField v "node_id"
    relayServer := ← textField v "relay_server"
    publicEndpoint := ← textField v "public_endpoint"
    telemetrySecretFile := ← textField v "telemetry_secret_file"
    maxSessions := ← uintField v "max_sessions" (2 ^ 32)
    capacityBandwidthBps := ← uintField v "capacity_bandwidth_bps" (2 ^ 64)
    draining := ← (v.get "draining").bind Value.asBool
    relayPool := ← textField v "relay_pool"
    profile := ← textField v "profile"
    wssEndpoint := ← defaultField v "wss_endpoint" Value.asStr
    fastMediaUdpPort := ← defaultField v "fast_media_udp_port" fun x =>
      x.asU64.filter fun n => decide (n < 2 ^ 16) }

/-- `char::is_control` -/
def isControl (c : Char) : Bool :=
  c.toNat < 0x20 || (0x7F ≤ c.toNat && c.toNat < 0xA0)

def readTrimmed (text : String) (maximum : Nat) : Except String String :=
  let value := trim text
  if value.isEmpty || decide (value.utf8ByteSize > maximum) || value.toList.any isControl then
    .error "relay_enrollment_value_invalid"
  else .ok value

abbrev Environment := String → Option String

def Variables.environment (vars : Variables) : Environment := fun name => vars.lookup name

def envFlag (environment : Environment) (name : String) : Except String Bool :=
  match environment name with
  | none | some "" | some "0" | some "false" => .ok false
  | some "1" | some "true" => .ok true
  | some _ => .error (name ++ "_invalid")

def containsText (text part : String) : Bool :=
  text.toList.tails.any fun rest => part.toList.isPrefixOf rest

/-- What `relay-compat.env` is compared with. -/
def expectedVariables (directory : String) (runtime : RelayRuntimeConfig) (publicKey : String) :
    Variables :=
  [("KEY", publicKey),
    ("STARRY_RELAY_TELEMETRY_SECRET_FILE", telemetrySecretFile directory),
    ("STARRY_RELAY_PUBLIC_ENDPOINT", runtime.publicEndpoint),
    ("STARRY_RELAY_MAX_SESSIONS", toString runtime.maxSessions),
    ("STARRY_RELAY_CAPACITY_BANDWIDTH_BPS", toString runtime.capacityBandwidthBps),
    ("STARRY_RELAY_DRAINING", if runtime.draining then "1" else "0"),
    ("STARRY_RELAY_ENROLLMENT_DIR", directory)] ++
  match runtime.fastMediaUdpPort with
  | some port => [("STARRY_RELAY_FAST_MEDIA_UDP_PORT", toString port)]
  | none => []

def validateCompatibilityExport (directory : String) (runtime : RelayRuntimeConfig)
    (publicKey telemetrySecret actual : String) : Except String Unit :=
  if actual ≠ envText (expectedVariables directory runtime publicKey) ||
      containsText actual telemetrySecret then
    .error "relay_enrollment_compat_drift"
  else .ok ()

section Preflight

variable (env : Env)

/-- The fields of the two records, and where they have to agree. -/
def validMarker (marker : EnrollmentMarker) (runtime : RelayRuntimeConfig) : Bool :=
  !(marker.version != 1 || marker.purpose != "relay" || !env.isUuid marker.enrollmentId ||
    !validDigest marker.configurationDigest || runtime.version != 1 || marker.generation == 0 ||
    marker.nodeId.isEmpty || decide (marker.nodeId.utf8ByteSize > 128) ||
    marker.nodeId != runtime.nodeId || marker.relayServer != runtime.relayServer ||
    runtime.publicEndpoint != runtime.relayServer ||
    runtime.maxSessions == 0 || decide (runtime.maxSessions > 1000000) ||
    runtime.capacityBandwidthBps == 0 ||
    runtime.relayPool.isEmpty || decide (runtime.relayPool.utf8ByteSize > 128) ||
    !knownProfile runtime.profile ||
    (runtime.profile == "native" && runtime.wssEndpoint.isSome) ||
    (runtime.profile != "native" && runtime.wssEndpoint.isNone) ||
    runtime.wssEndpoint.any (fun endpoint => !validTelemetryEndpoint env endpoint) ||
    (runtime.profile == "native-wss-fastmedia") != runtime.fastMediaUdpPort.isSome ||
    marker.keyFingerprint.utf8ByteSize != 71 ||
    !("sha256:".toList.isPrefixOf marker.keyFingerprint.toList) ||
    runtime.fastMediaUdpPort == some 0)

def orElse {α : Type} (x : Option α) (error : String) : Except String α :=
  match x with
  | some x => .ok x
  | none => .error error

/-- Fails with a text unless the condition holds. -/
def require (condition : Bool) (error : String) : Except String Unit :=
  if condition then .ok () else .error error

/-- The checks of `preflight` on the files and the environment. Its checks of the directories, the
modes of the files and the lock are left out. -/
def preflight (host : RelayHost) (environment : Environment) (serverPublicKey : String)
    (files : RelayFiles) : Except String Unit := do
  let _ ← envFlag environment "STARRY_REQUIRE_PERSISTENT_STATE"
  let requireEnrollment ← envFlag environment "STARRY_REQUIRE_RELAY_ENROLLMENT"
  match environment "STARRY_RELAY_ENROLLMENT_DIR" with
  | none => require (!requireEnrollment) "relay_enrollment_required_but_missing"
  | some directory =>
    let marker ← orElse (decodeMarker files.enrollment) "relay_enrollment_json_invalid"
    let runtime ← orElse (decodeRuntime files.relayConfig) "relay_enrollment_json_invalid"
    require (validMarker env marker runtime) "relay_enrollment_marker_invalid"
    let nodeId ← readTrimmed files.nodeId 128
    require (nodeId == marker.nodeId) "relay_enrollment_node_mismatch"
    host.checkInstalledCertificates files.nodeKey files.nodeCertificate files.relayCa
      marker.keyFingerprint
    let hostId ← readTrimmed files.hostId 128
    require (hostId == host.binding && marker.hostBinding == host.binding)
      "relay_enrollment_host_clone_detected"
    let publicKey ← readTrimmed files.centerPublicKey 256
    require (publicKey == trim serverPublicKey && env.decodedLength publicKey == some 32)
      "relay_enrollment_center_key_mismatch"
    let telemetrySecret ← readTrimmed files.telemetrySecret 128
    require (env.decodedUrlSafeLength telemetrySecret == some 32)
      "relay_enrollment_telemetry_secret_invalid"
    require (runtime.telemetrySecretFile == telemetrySecretFile directory)
      "relay_enrollment_telemetry_path_mismatch"
    require (environment "STARRY_RELAY_TELEMETRY_SECRET_FILE" == some runtime.telemetrySecretFile)
      "relay_enrollment_telemetry_env_mismatch"
    require ((environment "STARRY_RELAY_PUBLIC_ENDPOINT").map trim == some runtime.publicEndpoint)
      "relay_enrollment_endpoint_drift"
    require ((environment "STARRY_RELAY_MAX_SESSIONS").bind (parseUnsigned (2 ^ 32)) ==
      some runtime.maxSessions) "relay_enrollment_capacity_drift"
    require ((environment "STARRY_RELAY_CAPACITY_BANDWIDTH_BPS").bind (parseUnsigned (2 ^ 64)) ==
      some runtime.capacityBandwidthBps) "relay_enrollment_bandwidth_capacity_drift"
    require (environment "STARRY_RELAY_DRAINING" == some (if runtime.draining then "1" else "0"))
      "relay_enrollment_draining_drift"
    require ((environment "STARRY_RELAY_FAST_MEDIA_UDP_PORT").bind (parseUnsigned (2 ^ 16)) ==
      runtime.fastMediaUdpPort) "relay_enrollment_fast_media_port_drift"
    validateCompatibilityExport directory runtime publicKey telemetrySecret files.compatibility

end Preflight

/-! ## Texts -/

/-- A character of an identifier, of an address or of a base64 text. -/
def plainChar (c : Char) : Bool :=
  c.isAlphanum || c == '-' || c == '_' || c == '.' || c == ':' || c == '+' || c == '/' || c == '='

theorem plainChar_cases {c : Char} (h : plainChar c = true) :
    isWhiteSpace c = false ∧ isControl c = false := by
  simp only [plainChar, Char.isAlphanum, Char.isAlpha, Char.isUpper, Char.isLower, Char.isDigit,
    Bool.or_eq_true, Bool.and_eq_true, decide_eq_true_eq, beq_iff_eq, UInt32.le_iff_toNat_le,
    ge_iff_le] at h
  change ((((((((((65 ≤ c.toNat ∧ c.toNat ≤ 90) ∨ (97 ≤ c.toNat ∧ c.toNat ≤ 122)) ∨
    (48 ≤ c.toNat ∧ c.toNat ≤ 57)) ∨ c = '-') ∨ c = '_') ∨ c = '.') ∨ c = ':') ∨ c = '+') ∨
    c = '/') ∨ c = '=') at h
  have hrange : 0x21 ≤ c.toNat ∧ c.toNat < 0x7F := by
    rcases h with ((((((((h | h) | h) | rfl) | rfl) | rfl) | rfl) | rfl) | rfl) | rfl
    all_goals first | omega | decide
  unfold isWhiteSpace isControl
  simp
  omega

theorem noWhiteSpace_of_plain {text : String} (h : ∀ c ∈ text.toList, plainChar c = true) :
    noWhiteSpace text = true := by
  unfold noWhiteSpace
  rw [List.all_eq_true]
  intro c hc
  simp [(plainChar_cases (h c hc)).1]

theorem trim_of_noWhiteSpace {text : String} (h : noWhiteSpace text = true) :
    trim text = text := by
  have hall : ∀ c ∈ text.toList, isWhiteSpace c = false := by
    intro c hc
    simpa using List.all_eq_true.mp h c hc
  unfold trim
  rw [dropWhile_isWhiteSpace hall, dropWhile_isWhiteSpace, List.reverse_reverse,
    String.ofList_toList]
  intro c hc
  exact hall c (List.mem_reverse.mp hc)

/-- A line that was written is read again. -/
theorem readTrimmed_line {text : String} {maximum : Nat} (hempty : text ≠ "")
    (hsize : text.utf8ByteSize ≤ maximum) (hplain : ∀ c ∈ text.toList, plainChar c = true) :
    readTrimmed (text ++ "\n") maximum = .ok text := by
  unfold readTrimmed
  rw [trim_newline (noWhiteSpace_of_plain hplain), if_neg]
  have hcontrol : text.toList.any isControl = false := by
    rw [List.any_eq_false]
    intro c hc
    simp [(plainChar_cases (hplain c hc)).2]
  simp [hempty, hcontrol]
  omega

/-! ## The records in JSON -/

/-- What is read back of the configuration that was written. -/
def writtenRuntime (host : RelayHost) (bundle : RelayEnrollmentBundle) : RelayRuntimeConfig :=
  { version := 1
    nodeId := bundle.nodeId
    relayServer := bundle.relayServer
    publicEndpoint := bundle.publicEndpoint
    telemetrySecretFile := telemetrySecretFile host.directory
    maxSessions := bundle.maxSessions
    capacityBandwidthBps := bundle.capacityBandwidthBps
    draining := bundle.draining
    relayPool := bundle.relayPool
    profile := bundle.profile
    wssEndpoint := bundle.wssEndpoint
    fastMediaUdpPort := bundle.fastMediaUdpPort.map UInt16.toNat }

theorem textField_of_get {v : Value} (key : String) {text : String}
    (h : v.get key = some (.string text)) : textField v key = some text := by
  unfold textField
  rw [h]
  rfl

theorem uintField_of_get {v : Value} (key : String) {n limit : Nat}
    (h : v.get key = some (.uint n)) (hn : n < limit) : uintField v key limit = some n := by
  unfold uintField
  rw [h]
  simp [Value.asU64, hn]

/-- An optional field that was written is read again. -/
theorem defaultField_of_get {α β : Type} {v : Value} (key : String) {x : Option α}
    {toValue : α → Value} {read : Value → Option β} (f : α → β)
    (h : v.get key = some (optional toValue x)) (hread : ∀ y, read (toValue y) = some (f y))
    (hnull : ∀ y, toValue y ≠ .null) : defaultField v key read = some (x.map f) := by
  unfold defaultField
  rw [h]
  cases x with
  | none => rfl
  | some y =>
    unfold optional
    split
    · rename_i heq
      cases heq
    · rename_i heq
      exact absurd (Option.some.inj heq) (hnull y)
    · rename_i heq
      cases heq
      rw [hread]
      rfl

theorem decodeRuntime_relayRuntimeConfig (host : RelayHost) {bundle : RelayEnrollmentBundle}
    (hsessions : bundle.maxSessions < 2 ^ 32) (hcapacity : bundle.capacityBandwidthBps < 2 ^ 64) :
    decodeRuntime (relayRuntimeConfig host bundle) = some (writtenRuntime host bundle) := by
  have hfast : defaultField (relayRuntimeConfig host bundle) "fast_media_udp_port"
      (fun x => x.asU64.filter fun n => decide (n < 2 ^ 16)) =
      some (bundle.fastMediaUdpPort.map UInt16.toNat) := by
    refine defaultField_of_get "fast_media_udp_port" UInt16.toNat rfl (fun port => ?_) (by simp)
    simp [Value.asU64, port.toNat_lt]
  have hwss : defaultField (relayRuntimeConfig host bundle) "wss_endpoint" Value.asStr =
      some bundle.wssEndpoint := by
    calc defaultField (relayRuntimeConfig host bundle) "wss_endpoint" Value.asStr
        = some (bundle.wssEndpoint.map id) :=
          defaultField_of_get "wss_endpoint" id rfl (fun _ => rfl) (by simp)
      _ = some bundle.wssEndpoint := by rw [Option.map_id_fun, id]
  unfold decodeRuntime
  rw [uintField_of_get "version" (n := 1) rfl (by decide),
    uintField_of_get "max_sessions" rfl hsessions,
    uintField_of_get "capacity_bandwidth_bps" rfl hcapacity, hwss, hfast,
    textField_of_get "node_id" rfl, textField_of_get "relay_server" rfl,
    textField_of_get "public_endpoint" rfl, textField_of_get "telemetry_secret_file" rfl,
    textField_of_get "relay_pool" rfl, textField_of_get "profile" rfl]
  rfl

theorem decodeMarker_relayIdentityMarker (host : RelayHost) (bundle : RelayEnrollmentBundle)
    (enrollmentId configurationDigest keyFingerprint : String) :
    decodeMarker (relayIdentityMarker host bundle enrollmentId configurationDigest keyFingerprint) =
      some ⟨1, "relay", enrollmentId, configurationDigest, bundle.nodeId, bundle.relayServer,
        keyFingerprint, host.binding, 1⟩ := by
  unfold decodeMarker
  rw [uintField_of_get "version" (n := 1) rfl (by decide),
    uintField_of_get "generation" (n := 1) rfl (by decide), textField_of_get "purpose" rfl,
    textField_of_get "enrollment_id" rfl, textField_of_get "configuration_digest" rfl,
    textField_of_get "node_id" rfl, textField_of_get "relay_server" rfl,
    textField_of_get "key_fingerprint" rfl, textField_of_get "host_binding" rfl]
  rfl

/-! ## Agreement -/

/-- What is documented of base64. -/
structure Base64 (decoded : String → Option Nat) : Prop where
  alphabet : ∀ text n, decoded text = some n → ∀ c ∈ text.toList,
    c.isAlphanum = true ∨ c = '+' ∨ c = '/' ∨ c = '=' ∨ c = '-' ∨ c = '_'
  size : ∀ text n, decoded text = some n → text.utf8ByteSize ≤ 4 * ((n + 2) / 3)
  empty : decoded "" = some 0

theorem Base64.plain {decoded : String → Option Nat} (h : Base64 decoded) {text : String}
    (htext : decoded text = some 32) :
    text ≠ "" ∧ text.utf8ByteSize ≤ 44 ∧ ∀ c ∈ text.toList, plainChar c = true := by
  refine ⟨?_, h.size text 32 htext, fun c hc => ?_⟩
  · rintro rfl
    rw [h.empty] at htext
    cases htext
  · rcases h.alphabet text 32 htext c hc with halpha | rfl | rfl | rfl | rfl | rfl
    · simp [plainChar, halpha]
    all_goals decide

theorem safeIdentifier_plain {value : String} (h : safeIdentifier value = true) :
    value ≠ "" ∧ value.utf8ByteSize ≤ 128 ∧ ∀ c ∈ value.toList, plainChar c = true := by
  simp only [safeIdentifier, Bool.and_eq_true, Bool.not_eq_true', decide_eq_true_eq,
    String.isEmpty_eq_false_iff, List.all_eq_true] at h
  obtain ⟨⟨⟨hempty, hsize⟩, -⟩, hall⟩ := h
  refine ⟨hempty, hsize, fun c hc => ?_⟩
  have hc := hall c hc
  simp only [Bool.or_eq_true] at hc
  unfold plainChar
  rcases hc with ((hc | hc) | hc) | hc <;> simp [hc]

theorem isAlphanum_of_isLowerHex {c : Char} (h : ConfigStore.isLowerHex c = true) :
    c.isAlphanum = true := by
  simp only [ConfigStore.isLowerHex, Bool.or_eq_true, Bool.and_eq_true, decide_eq_true_eq] at h
  unfold Char.isAlphanum Char.isAlpha
  rcases h with h | ⟨ha, hf⟩
  · simp [h]
  · have hlower : c.isLower = true := by
      simp only [Char.isLower, Bool.and_eq_true, decide_eq_true_eq, ge_iff_le]
      exact ⟨ha, hf.trans (by decide)⟩
    simp [hlower]

theorem validDigest_plain {value : String} (h : validDigest value = true) :
    value ≠ "" ∧ value.utf8ByteSize = 71 ∧ "sha256:".toList.isPrefixOf value.toList = true ∧
      ∀ c ∈ value.toList, plainChar c = true := by
  simp only [validDigest, Bool.and_eq_true, beq_iff_eq] at h
  obtain ⟨⟨hsize, hpre⟩, hhex⟩ := h
  refine ⟨?_, hsize, hpre, ?_⟩
  · rintro rfl
    cases hsize
  · obtain ⟨rest, hrest⟩ := List.isPrefixOf_iff_prefix.mp hpre
    have hdrop : value.toList.drop 7 = rest := by
      rw [← hrest]
      exact List.drop_left' (by decide)
    have hstart : "sha256:".toList.all plainChar = true := by decide
    rw [hdrop] at hhex
    rw [← hrest]
    intro c hc
    rcases List.mem_append.mp hc with hc | hc
    · exact List.all_eq_true.mp hstart c hc
    · have halpha := isAlphanum_of_isLowerHex (List.all_eq_true.mp hhex c hc)
      simp [plainChar, halpha]

/-- What the agent has checked of a bundle. -/
structure Suits (env : Env) (bundle : RelayEnrollmentBundle) : Prop where
  nodeId : safeIdentifier bundle.nodeId = true
  relayPool : safeIdentifier bundle.relayPool = true
  endpoint : bundle.relayServer = bundle.publicEndpoint
  serverSize : bundle.relayServer.utf8ByteSize ≤ 256
  serverSpace : noWhiteSpace bundle.relayServer = true
  sessions : bundle.maxSessions ≠ 0 ∧ bundle.maxSessions ≤ 1000000
  capacity : bundle.capacityBandwidthBps ≠ 0
  profile : knownProfile bundle.profile = true
  withoutWss : bundle.profile = "native" → bundle.wssEndpoint = none
  withWss : bundle.profile ≠ "native" →
    ∃ endpoint, bundle.wssEndpoint = some endpoint ∧ validTelemetryEndpoint env endpoint = true
  port : (bundle.profile == "native-wss-fastmedia") = bundle.fastMediaUdpPort.isSome

section Agreement

variable {env : Env} {setup : Setup} {host : RelayHost} {bundle : RelayEnrollmentBundle}
  {request : RelayEnrollmentCompleteRequest}

theorem suits_of_validatePrepare {approved : RelayEnrollmentPrepareRequest}
    (h : validatePrepare env approved = .ok ()) (leaf ca key secret : String) :
    Suits env (relayBundle approved leaf ca key secret) := by
  unfold validatePrepare at h
  split at h
  · cases h
  · rename_i hok
    simp only [Bool.or_eq_true, not_or, Bool.not_eq_true, Bool.not_eq_true', Bool.not_eq_false',
      Bool.not_eq_false, bne_eq_false_iff_eq, beq_eq_false_iff_ne, decide_eq_false_iff_not,
      Bool.and_eq_false_iff, not_lt, gt_iff_lt, ne_eq] at hok
    obtain ⟨⟨⟨⟨⟨⟨⟨⟨⟨⟨⟨⟨⟨-, hnode⟩, hpool⟩, hserver⟩, hvalid⟩, hzero⟩, hmax⟩, hcapacity⟩, -⟩, -⟩,
      hprofile⟩, hnative⟩, hwss⟩, hport⟩ := hok
    unfold validRelayEndpoint at hvalid
    split at hvalid
    · cases hvalid
    · rename_i hsize
      simp only [Bool.or_eq_true, decide_eq_true_eq, not_or, not_lt, Bool.not_eq_true,
        List.any_eq_false] at hsize
      refine ⟨hnode, hpool, hserver, hsize.1, ?_, ⟨hzero, hmax⟩, hcapacity, hprofile, ?_, ?_,
        hport⟩
      · unfold noWhiteSpace
        rw [List.all_eq_true]
        intro c hc
        simpa using hsize.2 c hc
      · intro hp
        rcases hnative with hnot | hnone
        · exact absurd hp hnot
        · exact Option.isSome_eq_false_iff.mp hnone |> Option.isNone_iff_eq_none.mp
      · intro hp
        rcases hwss with heq | hany
        · exact absurd heq hp
        · obtain ⟨endpoint, hendpoint, hv⟩ := (Option.any_eq_true ..).mp hany
          unfold validWssEndpoint at hv
          split at hv
          · cases hv
          · exact ⟨endpoint, hendpoint, hv⟩

theorem Delivered.suits (h : Delivered env setup request bundle) : Suits env bundle := by
  obtain ⟨approved, hok, -, hbundle⟩ := h.approved
  rw [hbundle]
  exact suits_of_validatePrepare hok _ _ _ _

/-- Nothing of the relay's checks but these two is left to be shown. -/
structure RelayCan (env : Env) (bundle : RelayEnrollmentBundle) : Prop where
  port : bundle.fastMediaUdpPort ≠ some 0
  server : safeEnvValue bundle.relayServer = true
  center : env.decodedLength bundle.centerPublicKey = some 32

theorem Delivered.digest (h : Delivered env setup request bundle) :
    relayConfigurationDigest env bundle.nodeId bundle.relayServer bundle.publicEndpoint
      bundle.relayPool bundle.profile bundle.wssEndpoint bundle.activateAfterHealth
      bundle.maxSessions bundle.capacityBandwidthBps bundle.draining bundle.fastMediaUdpPort =
      request.configurationDigest := by
  obtain ⟨approved, -, hdigest, hbundle⟩ := h.approved
  rw [hbundle, hdigest]
  rfl

theorem Suits.wss (h : Suits env bundle) :
    (bundle.profile == "native" && bundle.wssEndpoint.isSome) = false ∧
    (bundle.profile != "native" && bundle.wssEndpoint.isNone) = false ∧
    bundle.wssEndpoint.any (fun endpoint => !validTelemetryEndpoint env endpoint) = false := by
  by_cases hp : bundle.profile = "native"
  · simp [h.withoutWss hp, hp]
  · obtain ⟨endpoint, hendpoint, hv⟩ := h.withWss hp
    simp [hendpoint, hv, hp]

/-- Of its own checks of the bundle the relay passes all but three. -/
theorem validateRelayBundle_iff (h : Delivered env setup request bundle)
    (hcertificates : host.checkBundleCertificates bundle.nodeCertificatePem bundle.relayCaPem
      request.keyFingerprint = .ok ()) :
    validateRelayBundle env host bundle request.keyFingerprint request.configurationDigest =
      .ok () ↔ RelayCan env bundle := by
  have hs := h.suits
  obtain ⟨hnode, hnodeSize, -⟩ := safeIdentifier_plain hs.nodeId
  obtain ⟨hpool, hpoolSize, -⟩ := safeIdentifier_plain hs.relayPool
  obtain ⟨hnative, hother, hvalid⟩ := hs.wss
  have hnodeEmpty : bundle.nodeId.isEmpty = false := String.isEmpty_eq_false_iff.mpr hnode
  have hpoolEmpty : bundle.relayPool.isEmpty = false := String.isEmpty_eq_false_iff.mpr hpool
  have hsizes : decide (bundle.nodeId.utf8ByteSize > 128) = false ∧
      decide (bundle.relayPool.utf8ByteSize > 128) = false ∧
      decide (bundle.relayServer.utf8ByteSize > 256) = false ∧
      decide (bundle.maxSessions > 1000000) = false := by
    simp only [decide_eq_false_iff_not, gt_iff_lt, not_lt]
    exact ⟨hnodeSize, hpoolSize, hs.serverSize, hs.sessions.2⟩
  have hserver : (bundle.relayServer != bundle.publicEndpoint) = false := by
    simp [hs.endpoint]
  have hport : ((bundle.profile == "native-wss-fastmedia") != bundle.fastMediaUdpPort.isSome) =
      false := by
    simp only [hs.port, bne_self_eq_false]
  have hsecret : (env.decodedUrlSafeLength bundle.telemetrySecret != some 32) = false := by
    simp [h.secret]
  have hsessions : (bundle.maxSessions == 0) = false := by simp [hs.sessions.1]
  have hcapacity : (bundle.capacityBandwidthBps == 0) = false := by simp [hs.capacity]
  unfold validateRelayBundle
  simp only [hnodeEmpty, hpoolEmpty, hsizes, hserver, hport, hsecret, hsessions, hcapacity,
    hs.profile, hnative, hother, hvalid, Bool.false_or, Bool.or_false, Bool.not_true,
    hcertificates, h.digest]
  constructor
  · intro hok
    split at hok
    · cases hok
    · rename_i hnot
      simp only [Bool.or_eq_true, not_or, Bool.not_eq_true, Bool.not_eq_false', beq_eq_false_iff_ne,
        bne_eq_false_iff_eq] at hnot
      exact ⟨hnot.1.1.2, hnot.2, hnot.1.2⟩
  · rintro ⟨hzero, hsafe, hcenter⟩
    have hempty : bundle.relayServer.isEmpty = false := by
      simp only [safeEnvValue, Bool.and_eq_true, Bool.not_eq_true'] at hsafe
      exact hsafe.1.1
    rw [if_neg]
    · simp
    · simp [hempty, hzero, hsafe, hcenter]

theorem require_bind {c : Bool} {error : String} {f : Unit → Except String Unit} :
    (require c error >>= f) = .ok () ↔ c = true ∧ f () = .ok () := by
  cases c with
  | false => exact iff_of_false (by rintro ⟨⟩) (by simp)
  | true => exact ⟨fun h => ⟨rfl, h⟩, fun h => h.2⟩

theorem ok_bind {α β : Type} {x : α} {f : α → Except String β} : (Except.ok x >>= f) = f x := rfl

/-- The environment that was exported, name by name. -/
structure Exported (host : RelayHost) (bundle : RelayEnrollmentBundle) (e : Environment) :
    Prop where
  persistent : e "STARRY_REQUIRE_PERSISTENT_STATE" = none
  required : e "STARRY_REQUIRE_RELAY_ENROLLMENT" = none
  directory : e "STARRY_RELAY_ENROLLMENT_DIR" = some host.directory
  secretFile : e "STARRY_RELAY_TELEMETRY_SECRET_FILE" = some (telemetrySecretFile host.directory)
  endpoint : e "STARRY_RELAY_PUBLIC_ENDPOINT" = some bundle.publicEndpoint
  sessions : e "STARRY_RELAY_MAX_SESSIONS" = some (toString bundle.maxSessions)
  capacity : e "STARRY_RELAY_CAPACITY_BANDWIDTH_BPS" = some (toString bundle.capacityBandwidthBps)
  draining : e "STARRY_RELAY_DRAINING" = some (if bundle.draining then "1" else "0")
  port : e "STARRY_RELAY_FAST_MEDIA_UDP_PORT" =
    bundle.fastMediaUdpPort.map fun port => toString port.toNat

theorem exported (host : RelayHost) (bundle : RelayEnrollmentBundle) :
    Exported host bundle (exportedVariables host bundle).environment := by
  cases hport : bundle.fastMediaUdpPort with
  | none =>
    unfold exportedVariables
    rw [hport]
    exact ⟨rfl, rfl, rfl, rfl, rfl, rfl, rfl, rfl, by rw [hport]; rfl⟩
  | some port =>
    unfold exportedVariables
    rw [hport]
    exact ⟨rfl, rfl, rfl, rfl, rfl, rfl, rfl, rfl, by rw [hport]; rfl⟩

theorem expectedVariables_writtenRuntime (host : RelayHost) (bundle : RelayEnrollmentBundle) :
    expectedVariables host.directory (writtenRuntime host bundle) bundle.centerPublicKey =
      exportedVariables host bundle := by
  unfold expectedVariables exportedVariables writtenRuntime
  cases bundle.fastMediaUdpPort <;> rfl

/-- The records that were written pass the checks of their fields. -/
theorem validMarker_written (h : Delivered env setup request bundle) (hcan : RelayCan env bundle)
    (enrollmentId : String) (hid : env.isUuid enrollmentId = true) :
    validMarker env ⟨1, "relay", enrollmentId, request.configurationDigest, bundle.nodeId,
      bundle.relayServer, request.keyFingerprint, host.binding, 1⟩
      (writtenRuntime host bundle) = true := by
  have hs := h.suits
  obtain ⟨hnode, hnodeSize, -⟩ := safeIdentifier_plain hs.nodeId
  obtain ⟨hpool, hpoolSize, -⟩ := safeIdentifier_plain hs.relayPool
  obtain ⟨hnative, hother, hvalid⟩ := hs.wss
  have hchecked := h.checked
  unfold validateComplete at hchecked
  split at hchecked
  · cases hchecked
  · rename_i hok
    simp only [Bool.or_eq_true, not_or, Bool.not_eq_true, Bool.not_eq_false', bne_eq_false_iff_eq]
      at hok
    obtain ⟨⟨⟨⟨⟨⟨-, -⟩, hconfiguration⟩, -⟩, hkey⟩, -⟩, -⟩ := hok
    obtain ⟨-, hkeySize, hkeyPrefix, -⟩ := validDigest_plain hkey
    have hport : (bundle.fastMediaUdpPort.map UInt16.toNat == some 0) = false := by
      cases hp : bundle.fastMediaUdpPort with
      | none => rfl
      | some port =>
        have hzero : port ≠ 0 := fun hz => hcan.port (by rw [hp, hz])
        simpa using fun hz => hzero (UInt16.toNat_inj.mp hz)
    have hsizes : decide (bundle.nodeId.utf8ByteSize > 128) = false ∧
        decide (bundle.relayPool.utf8ByteSize > 128) = false ∧
        decide (bundle.maxSessions > 1000000) = false := by
      simp only [decide_eq_false_iff_not, gt_iff_lt, not_lt]
      exact ⟨hnodeSize, hpoolSize, hs.sessions.2⟩
    simp [validMarker, writtenRuntime, hid, hconfiguration, hs.endpoint, hs.sessions.1, hs.capacity,
      hs.profile, hnative, hother, hvalid, hs.port, hkeySize, hport, hsizes, hnode, hpool]
    exact List.isPrefixOf_iff_prefix.mp hkeyPrefix

theorem preflight_iff (hlength : Base64 env.decodedLength)
    (hurlSafe : Base64 env.decodedUrlSafeLength) (h : Delivered env setup request bundle)
    (hcan : RelayCan env bundle) (hcapacity : bundle.capacityBandwidthBps < 2 ^ 64)
    {enrollmentId privateKey : String} (hid : env.isUuid enrollmentId = true)
    (hcertificates : host.checkInstalledCertificates privateKey bundle.nodeCertificatePem
      bundle.relayCaPem request.keyFingerprint = .ok ()) :
    preflight env host (exportedVariables host bundle).environment bundle.centerPublicKey
      (installRelayIdentity host bundle enrollmentId request.configurationDigest
        request.keyFingerprint privateKey) = .ok () ↔
      containsText (envText (exportedVariables host bundle)) bundle.telemetrySecret = false := by
  have hs := h.suits
  have he := exported host bundle
  generalize (exportedVariables host bundle).environment = e at he
  obtain ⟨hnode, hnodeSize, hnodePlain⟩ := safeIdentifier_plain hs.nodeId
  obtain ⟨hhost, hhostSize, -, hhostPlain⟩ := validDigest_plain host.validBinding
  obtain ⟨hcenter, hcenterSize, hcenterPlain⟩ := hlength.plain hcan.center
  obtain ⟨hsecret, hsecretSize, hsecretPlain⟩ := hurlSafe.plain h.secret
  have hsessions : bundle.maxSessions < 2 ^ 32 := by
    have := hs.sessions.2
    omega
  have hendpoint : trim bundle.publicEndpoint = bundle.publicEndpoint := by
    rw [← hs.endpoint]
    exact trim_of_noWhiteSpace hs.serverSpace
  have hport : (e "STARRY_RELAY_FAST_MEDIA_UDP_PORT").bind (parseUnsigned (2 ^ 16)) =
      (writtenRuntime host bundle).fastMediaUdpPort := by
    rw [he.port, writtenRuntime]
    cases bundle.fastMediaUdpPort with
    | none => rfl
    | some port => exact parseUnsigned_toString port.toNat_lt
  have hflag : ∀ name, e name = none → envFlag e name = .ok false := by
    intro name hnone
    unfold envFlag
    rw [hnone]
  unfold preflight
  rw [hflag _ he.persistent, hflag _ he.required, ok_bind, ok_bind, he.directory]
  dsimp only [installRelayIdentity]
  rw [decodeMarker_relayIdentityMarker, decodeRuntime_relayRuntimeConfig host hsessions hcapacity,
    orElse, ok_bind, orElse, ok_bind, require_bind, validMarker_written h hcan _ hid,
    readTrimmed_line hnode hnodeSize hnodePlain, ok_bind, require_bind, hcertificates, ok_bind,
    readTrimmed_line hhost (by omega) hhostPlain, ok_bind, require_bind,
    readTrimmed_line hcenter (by omega) hcenterPlain, ok_bind, require_bind,
    readTrimmed_line hsecret (by omega) hsecretPlain, ok_bind, require_bind, require_bind,
    require_bind, require_bind, require_bind, require_bind, require_bind, require_bind, he.secretFile,
    he.endpoint, he.sessions, he.capacity, he.draining, hport, validateCompatibilityExport,
    expectedVariables_writtenRuntime, trim_of_noWhiteSpace (noWhiteSpace_of_plain hcenterPlain),
    Option.map_some, hendpoint, Option.bind_some, Option.bind_some,
    parseUnsigned_toString hsessions, parseUnsigned_toString hcapacity]
  simp [writtenRuntime, hcan.center, h.secret]
  exact fun _ => rfl

/-! ## Main results -/

/-- The relay takes a bundle exactly if it can use the port and the address, the centre has a key,
and the exported text does not happen to contain the secret. -/
theorem relay_takes_bundle_iff (hlength : Base64 env.decodedLength)
    (hurlSafe : Base64 env.decodedUrlSafeLength) (s : Store) (h : s.Reached env setup) (e : Entry)
    (hmem : e ∈ s.history) (response : RelayEnrollmentCompleteResponse)
    (hc : Claims e request response) (hcapacity : response.bundle.capacityBandwidthBps < 2 ^ 64)
    (host : RelayHost) (privateKey : String)
    (hbundle : host.checkBundleCertificates response.bundle.nodeCertificatePem
      response.bundle.relayCaPem request.keyFingerprint = .ok ())
    (hinstalled : host.checkInstalledCertificates privateKey response.bundle.nodeCertificatePem
      response.bundle.relayCaPem request.keyFingerprint = .ok ()) :
    (validateRelayBundle env host response.bundle request.keyFingerprint
        request.configurationDigest = .ok () ∧
      preflight env host (exportedVariables host response.bundle).environment
        response.bundle.centerPublicKey (installRelayIdentity host response.bundle
          request.enrollmentId request.configurationDigest request.keyFingerprint privateKey) =
        .ok ()) ↔
    RelayCan env response.bundle ∧
      containsText (envText (exportedVariables host response.bundle))
        response.bundle.telemetrySecret = false := by
  have hdelivered := h.kept.state.2.delivered e hmem request response hc
  have hid : env.isUuid request.enrollmentId = true := by
    have hchecked := hdelivered.checked
    unfold validateComplete at hchecked
    split at hchecked
    · cases hchecked
    · rename_i hok
      simp only [Bool.or_eq_true, not_or, Bool.not_eq_true, Bool.not_eq_false'] at hok
      exact hok.1.1.1.1.1.2
  rw [validateRelayBundle_iff hdelivered hbundle]
  exact and_congr_right fun hcan =>
    preflight_iff hlength hurlSafe hdelivered hcan hcapacity hid hinstalled

end Agreement

/-! ## Two enrollments -/

/-- A decoder that knows texts of one length. -/
def decodedBy (size : Nat) (text : String) : Option Nat :=
  if text = "" then some 0
  else if text.utf8ByteSize = size ∧ text.toList.all (fun c => c.isAlphanum || c == '=') then some 32
  else none

theorem base64_decodedBy {size : Nat} (h : size ≤ 44) : Base64 (decodedBy size) := by
  refine ⟨fun text n hn c hc => ?_, fun text n hn => ?_, rfl⟩
  all_goals
    unfold decodedBy at hn
    split at hn
    · rename_i hempty
      cases hn
      subst hempty
      first
        | cases hc
        | decide
    · split at hn
      · rename_i hsize
        cases hn
        first
          | have hplain := List.all_eq_true.mp hsize.2 c hc
            simp only [Bool.or_eq_true, beq_iff_eq] at hplain
            rcases hplain with halpha | heq
            · exact .inl halpha
            · exact .inr (.inr (.inr (.inl heq)))
          | omega
      · cases hn

def relayEnv : Env :=
  { againEnv with decodedLength := decodedBy 44, decodedUrlSafeLength := decodedBy 43 }

def relaySetup : Setup := ⟨"agent", "AAAAAAAAAAAAAAAAAAAAAAAAAAAAAAAAAAAAAAAAAAA=", "ca"⟩

def relayChoices (w : World) : (a : Act) → a.Choice
  | .randomSecret => "BBBBBBBBBBBBBBBBBBBBBBBBBBBBBBBBBBBBBBBBBBB"
  | a => sampleChoices w a

/-- A relay is enrolled and claimed. -/
def enrolled (request : RelayEnrollmentPrepareRequest) : Option Store :=
  Serial.serve (TimedCall.program relayEnv relaySetup) begins (step relayEnv relaySetup)
    relayChoices (World.initial 100) []
    [⟨.prepare request "first-key", 100⟩, ⟨.complete (sampleClaim firstId), 101⟩]

def sampleHost : RelayHost :=
  ⟨"/data/starry/enrollment", textDigest [], by decide +kernel, fun _ _ _ => .ok (),
    fun _ _ _ _ => .ok ()⟩

/-- The claim that the last call made and was granted. -/
def granted (s : Store) :
    Option (RelayEnrollmentCompleteRequest × RelayEnrollmentCompleteResponse) :=
  match s.history with
  | [_, e] => match e.call.call, e.answer with
    | .complete request, .completed (.ok response) => some (request, response)
    | _, _ => none
  | _ => none

theorem claims_of_granted {s : Store} {request : RelayEnrollmentCompleteRequest}
    {response : RelayEnrollmentCompleteResponse} (h : granted s = some (request, response)) :
    ∃ e ∈ s.history, Claims e request response := by
  unfold granted at h
  split at h
  · rename_i first e heq
    split at h
    · rename_i hcall hanswer
      cases h
      exact ⟨e, by simp [heq], hcall, hanswer⟩
    · cases h
  · cases h

theorem exists_granted (request : RelayEnrollmentPrepareRequest)
    (p : RelayEnrollmentCompleteRequest × RelayEnrollmentCompleteResponse → Bool)
    (h : ((enrolled request).bind granted).any p = true) :
    ∃ s : Store, s.Reached relayEnv relaySetup ∧ ∃ e ∈ s.history, ∃ claim response,
      Claims e claim response ∧ p (claim, response) = true := by
  obtain ⟨⟨claim, response⟩, hgranted, hp⟩ := (Option.any_eq_true ..).mp h
  obtain ⟨s, hs, hgranted⟩ := Option.bind_eq_some_iff.mp hgranted
  obtain ⟨e, he, hc⟩ := claims_of_granted hgranted
  exact ⟨s, ⟨100, Serial.reachable_serve (fun _ _ _ => starts_of_begins) (.refl _) hs⟩, e, he,
    claim, response, hc, hp⟩

theorem native_relay_taken : ∃ s : Store, s.Reached relayEnv relaySetup ∧ ∃ e ∈ s.history,
    ∃ request response, Claims e request response ∧
    validateRelayBundle relayEnv sampleHost response.bundle request.keyFingerprint
      request.configurationDigest = .ok () ∧
    preflight relayEnv sampleHost (exportedVariables sampleHost response.bundle).environment
      response.bundle.centerPublicKey (installRelayIdentity sampleHost response.bundle
        request.enrollmentId request.configurationDigest request.keyFingerprint "key") = .ok () := by
  obtain ⟨s, hs, e, he, request, response, hc, hp⟩ :=
    exists_granted (sampleRequest "native" none none)
      (fun x => x.2.bundle.fastMediaUdpPort != some 0 && safeEnvValue x.2.bundle.relayServer &&
        relayEnv.decodedLength x.2.bundle.centerPublicKey == some 32 &&
        !containsText (envText (exportedVariables sampleHost x.2.bundle))
          x.2.bundle.telemetrySecret && decide (x.2.bundle.capacityBandwidthBps < 2 ^ 64))
      (by decide +kernel)
  simp only [Bool.and_eq_true, bne_iff_ne, beq_iff_eq, Bool.not_eq_true', decide_eq_true_eq] at hp
  obtain ⟨⟨⟨⟨hport, hserver⟩, hcenter⟩, hsecret⟩, hcapacity⟩ := hp
  exact ⟨s, hs, e, he, request, response, hc,
    (relay_takes_bundle_iff (base64_decodedBy (by decide)) (base64_decodedBy (by decide)) s hs e he
      response hc hcapacity sampleHost "key" rfl rfl).mpr ⟨⟨hport, hserver, hcenter⟩, hsecret⟩⟩

/-- Port zero is approved and claimed, and the relay refuses it. -/
theorem port_zero_refused : ¬ ∀ s : Store, s.Reached relayEnv relaySetup → ∀ e ∈ s.history,
    ∀ request response, Claims e request response →
    validateRelayBundle relayEnv sampleHost response.bundle request.keyFingerprint
      request.configurationDigest = .ok () := by
  intro hall
  obtain ⟨s, hs, e, he, request, response, hc, hp⟩ :=
    exists_granted (sampleRequest "native-wss-fastmedia" (some sampleWss) (some 0))
      (fun x => x.2.bundle.fastMediaUdpPort == some 0) (by decide +kernel)
  have hdelivered := hs.kept.state.2.delivered e he request response hc
  have hcan := (validateRelayBundle_iff hdelivered rfl).mp (hall s hs e he request response hc)
  exact hcan.port (beq_iff_eq.mp hp)

end Starry.Enrollment
