import Starry.Config.Validate

/-!
# Accepting a document (`starry_config.rs`)

Authentication, relay quality and the fast modes look at other sections, and what a document may
contain depends on its version.
-/

namespace Starry.Config

section

variable (env : Env)

/-! ## Authentication of connections -/

/-- A text of `connection_auth`, trimmed. -/
def checkText (field value : String) : Except String String := do
  let value := trim value
  ensure (!value.toList.any fun ch => ch == '\x00' || ch == '\n' || ch == '\r')
    ("connection_auth." ++ field ++ " contains a forbidden character")
  return value

def checkTexts (config : ConnectionAuthConfig) : Except String ConnectionAuthConfig := do
  let issuer ← checkText "issuer" config.issuer
  let audience ← checkText "audience" config.audience
  let tokenUse ← checkText "token_use" config.tokenUse
  let requiredScope ← checkText "required_scope" config.requiredScope
  let jwks := config.jwks
  let jwks := { jwks with file := ← checkText "jwks.file" jwks.file }
  let jwks := { jwks with url := ← checkText "jwks.url" jwks.url }
  let jwks := { jwks with caFile := ← checkText "jwks.ca_file" jwks.caFile }
  let jwks := { jwks with certFile := ← checkText "jwks.cert_file" jwks.certFile }
  let jwks := { jwks with keyFile := ← checkText "jwks.key_file" jwks.keyFile }
  let jwks := { jwks with serverName := ← checkText "jwks.server_name" jwks.serverName }
  let i := config.introspection
  let i := { i with url := ← checkText "introspection.url" i.url }
  let i := { i with caFile := ← checkText "introspection.ca_file" i.caFile }
  let i := { i with certFile := ← checkText "introspection.cert_file" i.certFile }
  let i := { i with keyFile := ← checkText "introspection.key_file" i.keyFile }
  let i := { i with serverName := ← checkText "introspection.server_name" i.serverName }
  return { config with issuer, audience, tokenUse, requiredScope, jwks, introspection := i }

def validateHttpsUrl (value field : String) : Except String Unit := do
  let parsed ← (env.parseUrl value).mapError fun err => field ++ " is invalid: " ++ err
  ensure (parsed.scheme == "https" && parsed.hostStr.isSome && parsed.username.isEmpty &&
      parsed.password.isNone && parsed.fragment.isNone)
    (field ++ " must be an HTTPS URL without credentials or fragment")

def validateMtlsEndpoint (endpoint caFile certFile keyFile serverName field : String) :
    Except String Unit := do
  [("ca_file", caFile), ("cert_file", certFile), ("key_file", keyFile),
      ("server_name", serverName)].forM fun named =>
    ensure (!named.2.isEmpty)
      (field ++ "." ++ named.1 ++ " is required whenever its URL is configured")
  let expected ← (env.parseHost serverName).mapError fun err =>
    field ++ ".server_name is invalid: " ++ err
  ensure (expected == .domain) (field ++ ".server_name must be a DNS hostname")
  let parsed ← (env.parseUrl endpoint).mapError fun err => field ++ ".url is invalid: " ++ err
  ensure (parsed.hostStr == some serverName) (field ++ ".url host must equal configured server_name")

def checkJwks (jwks : JwksConfig) : Except String Unit := do
  ensure (inRange 30 86400 jwks.refreshIntervalSeconds)
    "connection_auth.jwks.refresh_interval_seconds must be between 30 and 86400"
  ensure (inRange jwks.refreshIntervalSeconds 604800 jwks.maxStaleSeconds)
    ("connection_auth.jwks.max_stale_seconds must be at least refresh_interval_seconds and " ++
      "at most 604800")
  if !jwks.url.isEmpty then
    validateHttpsUrl env jwks.url "connection_auth.jwks.url"
    validateMtlsEndpoint env jwks.url jwks.caFile jwks.certFile jwks.keyFile jwks.serverName
      "connection_auth.jwks"
  else
    ensure (jwks.caFile.isEmpty && jwks.certFile.isEmpty && jwks.keyFile.isEmpty &&
      jwks.serverName.isEmpty) "connection_auth.jwks TLS fields require a jwks.url"

def checkIntrospectionLimits (introspection : IntrospectionConfig) : Except String Unit := do
  ensure (inRange 100 10000 introspection.timeoutMs)
    "connection_auth.introspection.timeout_ms must be between 100 and 10000"
  ensure (inRange 1 60 introspection.positiveCacheSeconds)
    "connection_auth.introspection.positive_cache_seconds must be between 1 and 60"
  ensure (decide (introspection.negativeCacheSeconds ≤ 1))
    "connection_auth.introspection.negative_cache_seconds must not exceed 1"
  ensure (inRange 1 1000000 introspection.maxCacheEntries)
    "connection_auth.introspection.max_cache_entries must be between 1 and 1000000"

def checkMode (config : ConnectionAuthConfig) : Except String Unit := do
  onlyIf (config.mode != .off) do
    ensure (!(config.issuer.isEmpty || config.audience.isEmpty || config.tokenUse.isEmpty ||
        config.requiredScope.isEmpty))
      ("connection_auth issuer, audience, token_use, and required_scope are required when mode " ++
        "is audit or enforce")
    validateHttpsUrl env config.issuer "connection_auth.issuer"
    ensure (!(config.jwks.file.isEmpty && config.jwks.url.isEmpty))
      ("connection_auth.jwks.file or connection_auth.jwks.url is required when authentication " ++
        "is enabled")
  ensure (!(config.mode == .enforce && config.jwks.file.isEmpty))
    ("connection_auth.jwks.file is required in enforce mode so an initial Ed25519 keyset can be " ++
      "loaded fail-closed")

def checkIntrospection (introspection : IntrospectionConfig) : Except String Unit := do
  ensure (!(introspection.required && introspection.url.isEmpty))
    "connection_auth.introspection.url is required when introspection.required is true"
  if !introspection.url.isEmpty then
    validateHttpsUrl env introspection.url "connection_auth.introspection.url"
    validateMtlsEndpoint env introspection.url introspection.caFile introspection.certFile
      introspection.keyFile introspection.serverName "connection_auth.introspection"
  else
    ensure (introspection.caFile.isEmpty && introspection.certFile.isEmpty &&
      introspection.keyFile.isEmpty && introspection.serverName.isEmpty)
      "connection_auth.introspection TLS fields require an introspection.url"

def validateConnectionAuth (config : ConnectionAuthConfig) :
    Except String ConnectionAuthConfig := do
  let config ← checkTexts config
  ensure (inRange 128 8192 config.maxTokenBytes)
    "connection_auth.max_token_bytes must be between 128 and 8192"
  ensure (decide (config.clockSkewSeconds ≤ 300))
    "connection_auth.clock_skew_seconds must not exceed 300"
  checkJwks env config.jwks
  checkIntrospectionLimits config.introspection
  checkMode env config
  checkIntrospection env config.introspection
  return config

/-! ## Relay quality -/

def satAdd32 (x y : Nat) : Nat := min (x + y) u32Max

def Strategy.debug : Quality.Strategy → String
  | .adaptive => "Adaptive"
  | .eager => "Eager"

def checkQualityLimits (config : RelayQualityConfig) : Except String Unit := do
  ensure (inRange 1 5 config.maxCandidates) "relay_quality.max_candidates must be between 1 and 5"
  ensure (inRange 1 20 config.primaryProbeSamples &&
      decide (config.primaryProbeSamples ≤ config.probeSamples))
    "relay_quality.primary_probe_samples must be between 1 and probe_samples"
  ensure (inRange 1 10000 config.primaryAcceptScore)
    "relay_quality.primary_accept_score must be between 1 and 10000"
  ensure (decide (config.primaryMaxLossBasisPoints ≤ 10000))
    "relay_quality.primary_max_loss_basis_points must not exceed 10000"
  ensure (decide (config.p2pProbeGraceMs ≤ 5000))
    "relay_quality.p2p_probe_grace_ms must not exceed 5000"
  ensure (inRange 3 20 config.probeSamples) "relay_quality.probe_samples must be between 3 and 20"
  ensure (inRange 20 2000 config.probeIntervalMs)
    "relay_quality.probe_interval_ms must be between 20 and 2000"
  ensure (inRange 100 5000 config.probeTimeoutMs)
    "relay_quality.probe_timeout_ms must be between 100 and 5000"
  ensure (inRange 1000 60000 config.reportTimeoutMs)
    "relay_quality.report_timeout_ms must be between 1000 and 60000"
  ensure (inRange 5 3600 config.maxTelemetryAgeSeconds)
    "relay_quality.max_telemetry_age_seconds must be between 5 and 3600"
  ensure (inRange 5 300 config.allocationTtlSeconds)
    "relay_quality.allocation_ttl_seconds must be between 5 and 300"
  ensure (inRange 30 86400 config.cacheTtlSeconds)
    "relay_quality.cache_ttl_seconds must be between 30 and 86400"
  ensure (inRange 100 1000000 config.maxAllocations)
    "relay_quality.max_allocations must be between 100 and 1000000"
  ensure (decide (config.hysteresisBasisPoints ≤ 5000))
    "relay_quality.hysteresis_basis_points must not exceed 5000"
  ensure (decide (config.missingReportPenaltyBasisPoints ≤ 10000))
    "relay_quality.missing_report_penalty_basis_points must not exceed 10000"
  ensure (inRange 10 10000 config.rttBadMs)
    "relay_quality.rtt_bad_ms must be between 10 and 10000"
  ensure (inRange 1 5000 config.jitterBadMs)
    "relay_quality.jitter_bad_ms must be between 1 and 5000"
  let weights := config.weights
  let total := satAdd32 (satAdd32 (satAdd32 weights.rtt weights.jitter) weights.loss) weights.load
  ensure (total == 10000 &&
      !([weights.rtt, weights.jitter, weights.loss, weights.load].contains 0))
    "relay_quality.weights must all be positive and sum to 10000 basis points"

/-- The endpoints that an enabled relay quality needs. -/
def checkQualityEndpoints (legacy configured relayServers : List String)
    (endpoints : List RelayEndpointConfig) : Except String Unit := do
  let qualityRelays := relayServers.filter fun relay => !legacy.contains (toAsciiLowercase relay)
  ensure (decide (2 ≤ qualityRelays.length))
    "relay_quality.enabled requires at least two non-legacy quality Relay servers"
  let telemetryRelays := endpoints.map fun endpoint => toAsciiLowercase endpoint.relay
  let missing := qualityRelays.filter fun relay => !telemetryRelays.contains (toAsciiLowercase relay)
  let unknown := (endpoints.map fun endpoint => endpoint.relay).filter fun relay =>
    !configured.contains (toAsciiLowercase relay)
  ensure (missing.isEmpty && unknown.isEmpty)
    ("relay_quality.enabled requires a unique health/telemetry endpoint for every non-legacy " ++
      "Relay; missing=" ++ env.debug missing ++ ", unknown=" ++ env.debug unknown)
  let insecure := ((endpoints.filter fun endpoint =>
    !legacy.contains (toAsciiLowercase endpoint.relay)).filter fun endpoint =>
      (match env.parseUrl endpoint.url with
        | .ok url => url.path != "/ws/telemetry"
        | .error _ => true) || endpoint.telemetrySecretFile.isNone).map fun endpoint =>
          endpoint.relay
  ensure insecure.isEmpty
    ("relay_quality.enabled requires authenticated /ws/telemetry endpoints with " ++
      "telemetry_secret_file for every non-legacy Relay; invalid=" ++ env.debug insecure)

def probeWindowMs (config : RelayQualityConfig) (samples : Nat) : Nat :=
  satAdd (satMul samples config.probeTimeoutMs) (satMul (samples - 1) config.probeIntervalMs)

/-- How long the staged probes take at least. -/
def requiredReportMs (config : RelayQualityConfig) : Nat :=
  match config.strategy with
  | .adaptive =>
    satAdd (satAdd (satMul (satAdd config.p2pProbeGraceMs
      (probeWindowMs config config.primaryProbeSamples)) 2)
        (probeWindowMs config config.probeSamples)) 1000
  | .eager => satMul (probeWindowMs config config.probeSamples) 2

def checkQualityTimes (config : RelayQualityConfig) (intervalSeconds timeoutMs : Nat) :
    Except String Unit := do
  let minimumFreshness := satAdd intervalSeconds (satAdd timeoutMs 999 / 1000)
  ensure (decide (minimumFreshness ≤ config.maxTelemetryAgeSeconds))
    ("relay_quality.max_telemetry_age_seconds must be at least relay health interval plus " ++
      "timeout (" ++ toString minimumFreshness ++ " seconds)")
  ensure (decide (requiredReportMs config ≤ config.reportTimeoutMs))
    ("relay_quality report deadline is not achievable for " ++ Strategy.debug config.strategy ++
      ": report_timeout_ms=" ++ toString config.reportTimeoutMs ++
      " but staged probe windows require at least " ++ toString (requiredReportMs config) ++ "ms")
  ensure (decide (config.reportTimeoutMs < satMul config.allocationTtlSeconds 1000))
    "relay_quality.allocation_ttl_seconds must exceed report_timeout_ms; TTL is cleanup only"

def validateRelayQuality (config : RelayQualityConfig) (relayServers : List String)
    (relayHealth : RelayHealthConfig) : Except String RelayQualityConfig := do
  let legacyFallbackRelays ←
    normalizeUnique config.legacyFallbackRelays "relay_quality.legacy_fallback_relays"
  let config := { config with legacyFallbackRelays }
  checkQualityLimits config
  ensure (!config.enabled || decide (2 ≤ relayServers.length))
    "relay_quality.enabled requires at least two configured Relay servers"
  ensure (!config.enabled || decide (2 ≤ config.maxCandidates))
    "relay_quality.enabled requires max_candidates to be at least 2"
  let configured := relayServers.map toAsciiLowercase
  let legacy := config.legacyFallbackRelays.map toAsciiLowercase
  config.legacyFallbackRelays.forM fun relay =>
    ensure (configured.contains (toAsciiLowercase relay))
      ("relay_quality.legacy_fallback_relays references '" ++ relay ++
        "' which is absent from relay_servers")
  onlyIf config.enabled do
    checkQualityEndpoints env legacy configured relayServers relayHealth.endpoints
    checkQualityTimes config relayHealth.intervalSeconds relayHealth.timeoutMs
  return config

/-! ## Fast modes -/

/-- The checks of FastMedia on the relays. -/
def checkFastMediaRelays (relayServers : List String) (endpoints : List RelayEndpointConfig) :
    Except String Unit := do
  ensure (!relayServers.isEmpty)
    "fast_mode.relay.fast_media_v1_enabled requires at least one Relay server"
  let capable := (endpoints.filter fun endpoint =>
    endpoint.telemetrySecretFile.isSome && decide (0 < endpoint.fastMediaUdpPort.getD 0)).map
      fun endpoint => toAsciiLowercase endpoint.relay
  ensure (relayServers.any fun relay => capable.contains (toAsciiLowercase relay))
    ("fast_mode.relay.fast_media_v1_enabled requires at least one selectable Relay with " ++
      "authenticated telemetry and a declared fast_media_udp_port")

def validateFastMode (config : StarryConfig) : Except String Unit := do
  let relay := config.fastMode.relay
  ensure (inRange 30 300 relay.authorizationTtlSeconds)
    "fast_mode.relay.authorization_ttl_seconds must be between 30 and 300"
  ensure (inRange 1000 200000 relay.maxBitrateKbps)
    "fast_mode.relay.max_bitrate_kbps must be between 1000 and 200000"
  ensure (inRange 608 1400 relay.relayMaxDatagram)
    "fast_mode.relay.relay_max_datagram must be between 608 and 1400"
  let enabled := relay.fastCompatEnabled || relay.fastMediaV1Enabled
  ensure (!(decide (config.version < 5) && relay.fastCompatEnabled && !config.relayQuality.enabled))
    "schema v4 fast_mode.relay.fast_compat_enabled requires relay_quality.enabled"
  ensure (!(relay.fastMediaV1Enabled && decide (config.version < 5)))
    "fast_mode.relay.fast_media_v1_enabled requires schema version 5"
  ensure (!(enabled && config.connectionAuth.mode == .off))
    "enabled Fast Relay modes require connection_auth.mode audit or enforce"
  ensure (!(enabled && config.secureTcp.mode == .off && !config.websocketSignal.enabled))
    "enabled Fast Relay mode requires Secure TCP or WebSocket signalling"
  onlyIf relay.fastMediaV1Enabled
    (checkFastMediaRelays config.relayServers config.websocketSignal.relayHealth.endpoints)

/-! ## The whole document -/

def validate (config : StarryConfig) : Except String StarryConfig := do
  ensure (inRange minConfigVersion configVersion config.version)
    ("unsupported version " ++ toString config.version ++ "; expected " ++
      toString minConfigVersion ++ " or " ++ toString configVersion)
  let relayServers ← normalizeUnique config.relayServers "relay_servers"
  validateSecureTcp config.secureTcp
  let mmdb ← validateMmdb config.mmdb
  let geo ← validateGeo env config.geo relayServers
  let websocketSignal ← validateWebsocketSignal env config.websocketSignal relayServers
  let connectionAuth ← validateConnectionAuth env config.connectionAuth
  let relayQuality ←
    validateRelayQuality env config.relayQuality relayServers websocketSignal.relayHealth
  let config :=
    { config with relayServers, mmdb, geo, websocketSignal, connectionAuth, relayQuality }
  validateFastMode config
  return config

structure ConfigDiagnostic where
  code : String
  pointer : String
  message : String
  line : Option Nat := none
  column : Option Nat := none
  severity : String := "error"
deriving DecidableEq, Repr

structure Diagnostics where
  errors : List ConfigDiagnostic
deriving DecidableEq, Repr

def Diagnostics.single (code pointer message : String) : Diagnostics :=
  ⟨[{ code, pointer, message }]⟩

structure ParsedConfig where
  raw : Bytes
  wire : StarryConfigWire

structure ValidatedConfig where
  config : StarryConfig
  sourceDigest : String
  effectiveDigest : String

/-- `u8::is_ascii_whitespace` -/
def isAsciiWhitespace (byte : UInt8) : Bool :=
  byte == 0x20 || byte == 0x09 || byte == 0x0A || byte == 0x0C || byte == 0x0D

def parseDocument (raw : Bytes) : Except Diagnostics ParsedConfig :=
  if raw.length > maxConfigBytes then
    .error (.single "CONFIG_TOO_LARGE" "" ("configuration is " ++ toString raw.length ++
      " bytes; maximum is " ++ toString maxConfigBytes))
  else if raw.all isAsciiWhitespace then
    .error (.single "CONFIG_EMPTY" "" "configuration document is empty")
  else match env.readWire raw with
    | .ok wire => .ok ⟨raw, wire⟩
    | .error err =>
      .error ⟨[{ code := "YAML_INVALID", pointer := "", message := "invalid YAML: " ++ err.text
                 line := err.location.map Prod.fst, column := err.location.map Prod.snd }]⟩

def diagnosticPointer (message : String) : String :=
  let starts (text : String) := text.toList.isPrefixOf message.toList
  if starts "fast_mode." then "/fast_mode"
  else if starts "relay_quality." then "/relay_quality"
  else if starts "connection_auth." then "/connection_auth"
  else if starts "websocket_signal." then "/websocket_signal"
  else if starts "secure_tcp." then "/secure_tcp"
  else if starts "mmdb." then "/mmdb"
  else if starts "geo." || starts "Geo rule" || starts "duplicate Geo" then "/geo"
  else if starts "relay_servers" then "/relay_servers"
  else if starts "unsupported version" then "/version"
  else ""

/-- Whether the document has fields that came with version 5. -/
def StarryConfigWire.hasSchemaV5Fields (wire : StarryConfigWire) : Bool :=
  (wire.fastMode.any FastModeConfigWire.hasSchemaV5Fields) ||
    wire.websocketSignal.any fun signal =>
      signal.relayHealth.endpoints.any fun endpoint => endpoint.fastMediaUdpPort.isSome

/-- A refused version, or a section that came with a later one. -/
def versionRefusal (wire : StarryConfigWire) : Option Diagnostics :=
  let requires (version : String) (pointer what : String) :=
    some (Diagnostics.single ("FIELD_REQUIRES_SCHEMA_V" ++ version) pointer
      ("version " ++ toString wire.version ++ " does not allow " ++ what ++
        "; upgrade the document to version " ++ version))
  if !inRange minConfigVersion configVersion wire.version then
    some (.single "SCHEMA_UNSUPPORTED" "/version" ("unsupported version " ++
      toString wire.version ++ "; expected 1, 2, 3, 4, or " ++ toString configVersion))
  else if wire.version = 1 ∧ wire.websocketSignal.isSome then
    requires "2" "/websocket_signal" "websocket_signal"
  else if wire.version < 3 ∧ wire.connectionAuth.isSome then
    requires "3" "/connection_auth" "connection_auth"
  else if wire.version < 4 ∧ wire.relayQuality.isSome then
    requires "4" "/relay_quality" "relay_quality"
  else if wire.version < 4 ∧ wire.fastMode.isSome then requires "4" "/fast_mode" "fast_mode"
  else if wire.version < 5 ∧ wire.hasSchemaV5Fields then
    requires "5" "/fast_mode/relay" "FastMedia Relay fields"
  else none

def checkVersion (wire : StarryConfigWire) : Except Diagnostics Unit :=
  match versionRefusal wire with
  | some refusal => .error refusal
  | none => .ok ()

def StarryConfigWire.config (wire : StarryConfigWire) : StarryConfig where
  version := wire.version
  relayServers := wire.relayServers
  secureTcp := wire.secureTcp
  mmdb := wire.mmdb
  geo := wire.geo
  websocketSignal := wire.websocketSignal.getD {}
  connectionAuth := wire.connectionAuth.getD {}
  relayQuality := wire.relayQuality.getD {}
  fastMode := (wire.fastMode.getD {}).intoConfig

def validateConfig (parsed : ParsedConfig) : Except Diagnostics ValidatedConfig := do
  checkVersion parsed.wire
  let config ← (validate env parsed.wire.config).mapError fun err =>
    .single "CONFIG_INVALID" (diagnosticPointer err) err
  let effective ← (env.toVec config).mapError fun err =>
    .single "CONFIG_SERIALIZATION_FAILED" ""
      ("cannot serialize normalized configuration: " ++ err)
  return { config, sourceDigest := env.sha256Digest parsed.raw
           effectiveDigest := env.sha256Digest effective }

end

/-! ## Defaults -/

theorem validateMmdb_default : validateMmdb {} = .ok {} := by rfl

theorem validateConnectionAuth_default (env : Env) : validateConnectionAuth env {} = .ok {} := by
  rfl

theorem validateRelayQuality_default (env : Env) (relayServers : List String)
    (health : RelayHealthConfig) : validateRelayQuality env {} relayServers health = .ok {} := by
  rfl

theorem validateWebsocketSignal_default {env : Env} (relayServers : List String)
    (hproxies : ∀ cidr ∈ ["127.0.0.1/32", "::1/128"], env.parseNetwork cidr = .ok ()) :
    validateWebsocketSignal env {} relayServers = .ok {} := by
  have hunique : normalizeUnique ["127.0.0.1/32", "::1/128"] "websocket_signal.trusted_proxies" =
      .ok ["127.0.0.1/32", "::1/128"] := by rfl
  have hhealth : validateRelayHealth env {} = .ok {} := by rfl
  refine bind_eq_ok.mpr ⟨(), rfl, bind_eq_ok.mpr ⟨_, hunique, bind_eq_ok.mpr ⟨(), ?_,
    bind_eq_ok.mpr ⟨[], rfl, bind_eq_ok.mpr ⟨(), rfl, bind_eq_ok.mpr ⟨{}, hhealth, rfl⟩⟩⟩⟩⟩⟩
  simp [hproxies, Except.mapError]
  rfl

/-- The defaults pass every check, whatever the Geo rules that are not enabled and the fast modes
on which no other section depends. -/
theorem validate_default {env : Env} {wire : StarryConfigWire} {geo : GeoConfig}
    {fastMode : Option FastModeConfigWire}
    (hproxies : ∀ cidr ∈ ["127.0.0.1/32", "::1/128"], env.parseNetwork cidr = .ok ())
    (hwire : wire = { version := 5, geo, fastMode }) (hgeo : geo.enabled = false)
    (hfast : validateFastMode wire.config = .ok ()) :
    validate env wire.config = .ok wire.config := by
  subst hwire
  refine bind_eq_ok.mpr ⟨(), rfl, bind_eq_ok.mpr ⟨[], rfl, bind_eq_ok.mpr ⟨(), by rfl,
    bind_eq_ok.mpr ⟨{}, validateMmdb_default, bind_eq_ok.mpr ⟨geo, ?_, bind_eq_ok.mpr ⟨{},
      validateWebsocketSignal_default [] hproxies, bind_eq_ok.mpr ⟨{},
        validateConnectionAuth_default env, bind_eq_ok.mpr ⟨{},
          validateRelayQuality_default env [] {}, bind_eq_ok.mpr ⟨(), hfast, rfl⟩⟩⟩⟩⟩⟩⟩⟩⟩
  simp only [validateGeo, StarryConfigWire.config, hgeo]
  rfl

end Starry.Config
