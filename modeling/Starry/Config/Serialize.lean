import Starry.Config.Schema
import Starry.ConfigStore.Json

/-!
# The configuration as JSON (`serde_json::to_value`)

Every section is written as an object with its fields in the order of their keys. An absent option
of a relay endpoint is not written.
-/

open Starry.ConfigStore (Value)

namespace Starry.Config

def textsToValue (texts : List String) : Value := .array (texts.map .string)

/-- A field with `#[serde(skip_serializing_if = "Option::is_none")]`. -/
def someField (key : String) (value : Option Value) : List (String × Value) :=
  value.toList.map fun v => (key, v)

def modeToValue : SecureTcp.SecureTcpMode → Value
  | .off => .string "off"
  | .auto => .string "auto"

def SecureTcpConfig.toValue (c : SecureTcpConfig) : Value :=
  .object
    [("handshake_timeout_ms", .uint c.handshakeTimeoutMs),
      ("idle_timeout_ms", .uint c.idleTimeoutMs),
      ("max_frame_bytes", .uint c.maxFrameBytes),
      ("mode", modeToValue c.mode)]

def DatabaseConfig.toValue (c : DatabaseConfig) : Value :=
  .object [("path", .string c.path), ("url", .string c.url)]

def MmdbConfig.toValue (c : MmdbConfig) : Value :=
  .object
    [("asn", c.asn.toValue),
      ("city", c.city.toValue),
      ("country", c.country.toValue),
      ("download_timeout_seconds", .uint c.downloadTimeoutSeconds),
      ("force_update", .bool c.forceUpdate),
      ("minimum_bytes", .uint c.minimumBytes),
      ("update_interval_hours", .uint c.updateIntervalHours),
      ("update_on_start", .bool c.updateOnStart)]

def EndpointExpressions.toValue (c : EndpointExpressions) : Value :=
  .object [("client_a", .string c.clientA), ("client_b", .string c.clientB)]

def GeoRuleConfig.toValue (c : GeoRuleConfig) : Value :=
  .object
    [("match", c.expressions.toValue),
      ("name", .string c.name),
      ("relays", textsToValue c.relays),
      ("symmetric", .bool c.symmetric)]

def GeoConfig.toValue (c : GeoConfig) : Value :=
  .object [("enabled", .bool c.enabled), ("rules", .array (c.rules.map GeoRuleConfig.toValue))]

def relayEndpointToValue (c : RelayEndpointConfig) : Value :=
  .object
    (someField "fast_media_udp_port" (c.fastMediaUdpPort.map fun port => .uint port.toNat) ++
      ("relay", .string c.relay) ::
        (someField "telemetry_secret_file" (c.telemetrySecretFile.map .string) ++
          [("url", .string c.url)]))

def RelayHealthConfig.toValue (c : RelayHealthConfig) : Value :=
  .object
    [("endpoints", .array (c.endpoints.map relayEndpointToValue)),
      ("failure_threshold", .uint c.failureThreshold),
      ("interval_seconds", .uint c.intervalSeconds),
      ("success_threshold", .uint c.successThreshold),
      ("timeout_ms", .uint c.timeoutMs)]

def WebSocketSignalConfig.toValue (c : WebSocketSignalConfig) : Value :=
  .object
    [("allowed_origins", textsToValue c.allowedOrigins),
      ("enabled", .bool c.enabled),
      ("idle_timeout_ms", .uint c.idleTimeoutMs),
      ("keepalive_interval_ms", .uint c.keepaliveIntervalMs),
      ("max_frame_bytes", .uint c.maxFrameBytes),
      ("max_sessions", .uint c.maxSessions),
      ("max_sessions_per_effective_ip", .uint c.maxSessionsPerEffectiveIp),
      ("outbound_queue_capacity", .uint c.outboundQueueCapacity),
      ("registration_rate_per_minute", .uint c.registrationRatePerMinute),
      ("registration_timeout_ms", .uint c.registrationTimeoutMs),
      ("relay_health", c.relayHealth.toValue),
      ("trusted_proxies", textsToValue c.trustedProxies)]

def ConnectionAuthMode.toValue : ConnectionAuthMode → Value
  | .off => .string "off"
  | .audit => .string "audit"
  | .enforce => .string "enforce"

def JwksConfig.toValue (c : JwksConfig) : Value :=
  .object
    [("ca_file", .string c.caFile),
      ("cert_file", .string c.certFile),
      ("file", .string c.file),
      ("key_file", .string c.keyFile),
      ("max_stale_seconds", .uint c.maxStaleSeconds),
      ("refresh_interval_seconds", .uint c.refreshIntervalSeconds),
      ("server_name", .string c.serverName),
      ("url", .string c.url)]

def IntrospectionConfig.toValue (c : IntrospectionConfig) : Value :=
  .object
    [("ca_file", .string c.caFile),
      ("cert_file", .string c.certFile),
      ("key_file", .string c.keyFile),
      ("max_cache_entries", .uint c.maxCacheEntries),
      ("negative_cache_seconds", .uint c.negativeCacheSeconds),
      ("positive_cache_seconds", .uint c.positiveCacheSeconds),
      ("required", .bool c.required),
      ("server_name", .string c.serverName),
      ("timeout_ms", .uint c.timeoutMs),
      ("url", .string c.url)]

def ConnectionAuthConfig.toValue (c : ConnectionAuthConfig) : Value :=
  .object
    [("audience", .string c.audience),
      ("clock_skew_seconds", .uint c.clockSkewSeconds),
      ("introspection", c.introspection.toValue),
      ("issuer", .string c.issuer),
      ("jwks", c.jwks.toValue),
      ("max_token_bytes", .uint c.maxTokenBytes),
      ("mode", c.mode.toValue),
      ("required_scope", .string c.requiredScope),
      ("token_use", .string c.tokenUse)]

def strategyToValue : Quality.Strategy → Value
  | .adaptive => .string "adaptive"
  | .eager => .string "eager"

def weightsToValue (c : Quality.Weights) : Value :=
  .object [("jitter", .uint c.jitter), ("load", .uint c.load), ("loss", .uint c.loss),
    ("rtt", .uint c.rtt)]

def RelayQualityConfig.toValue (c : RelayQualityConfig) : Value :=
  .object
    [("allocation_ttl_seconds", .uint c.allocationTtlSeconds),
      ("cache_ttl_seconds", .uint c.cacheTtlSeconds),
      ("enabled", .bool c.enabled),
      ("hysteresis_basis_points", .uint c.hysteresisBasisPoints),
      ("jitter_bad_ms", .uint c.jitterBadMs),
      ("legacy_fallback_relays", textsToValue c.legacyFallbackRelays),
      ("max_allocations", .uint c.maxAllocations),
      ("max_candidates", .uint c.maxCandidates),
      ("max_telemetry_age_seconds", .uint c.maxTelemetryAgeSeconds),
      ("missing_report_penalty_basis_points", .uint c.missingReportPenaltyBasisPoints),
      ("p2p_probe_grace_ms", .uint c.p2pProbeGraceMs),
      ("primary_accept_score", .uint c.primaryAcceptScore),
      ("primary_max_loss_basis_points", .uint c.primaryMaxLossBasisPoints),
      ("primary_probe_samples", .uint c.primaryProbeSamples),
      ("probe_interval_ms", .uint c.probeIntervalMs),
      ("probe_samples", .uint c.probeSamples),
      ("probe_timeout_ms", .uint c.probeTimeoutMs),
      ("report_timeout_ms", .uint c.reportTimeoutMs),
      ("rtt_bad_ms", .uint c.rttBadMs),
      ("strategy", strategyToValue c.strategy),
      ("weights", weightsToValue c.weights)]

def fastRelayToValue (c : FastRelayConfig) : Value :=
  .object
    [("authorization_ttl_seconds", .uint c.authorizationTtlSeconds),
      ("fast_compat_enabled", .bool c.fastCompatEnabled),
      ("fast_media_v1_enabled", .bool c.fastMediaV1Enabled),
      ("max_bitrate_kbps", .uint c.maxBitrateKbps),
      ("relay_max_datagram", .uint c.relayMaxDatagram)]

def FastModeConfig.toValue (c : FastModeConfig) : Value :=
  .object [("relay", fastRelayToValue c.relay)]

def StarryConfig.toValue (c : StarryConfig) : Value :=
  .object
    [("connection_auth", c.connectionAuth.toValue),
      ("fast_mode", c.fastMode.toValue),
      ("geo", c.geo.toValue),
      ("mmdb", c.mmdb.toValue),
      ("relay_quality", c.relayQuality.toValue),
      ("relay_servers", textsToValue c.relayServers),
      ("secure_tcp", c.secureTcp.toValue),
      ("version", .uint c.version),
      ("websocket_signal", c.websocketSignal.toValue)]

/-! ## The order of the keys -/

theorem sorted_object {fields : List (String × Value)}
    (hkeys : (fields.map Prod.fst).IsChain (· < ·)) (h : ∀ field ∈ fields, field.2.Sorted) :
    (Value.object fields).Sorted := by
  unfold Value.Sorted
  exact ⟨List.isChain_iff_pairwise.mp hkeys, Value.sortedFields_iff.mpr h⟩

theorem sorted_array {items : List Value} (h : ∀ item ∈ items, item.Sorted) :
    (Value.array items).Sorted := by
  unfold Value.Sorted
  exact Value.sortedItems_iff.mpr h

@[simp] theorem sorted_bool (b : Bool) : (Value.bool b).Sorted := trivial

@[simp] theorem sorted_uint (n : Nat) : (Value.uint n).Sorted := trivial

@[simp] theorem sorted_string (s : String) : (Value.string s).Sorted := trivial

@[simp] theorem sorted_textsToValue (texts : List String) : (textsToValue texts).Sorted := by
  apply sorted_array
  simp

@[simp] theorem sorted_modeToValue (mode : SecureTcp.SecureTcpMode) :
    (modeToValue mode).Sorted := by
  cases mode <;> exact trivial

@[simp] theorem SecureTcpConfig.sorted_toValue (c : SecureTcpConfig) : c.toValue.Sorted :=
  sorted_object (by simp only [List.map]; decide) (by simp)

@[simp] theorem DatabaseConfig.sorted_toValue (c : DatabaseConfig) : c.toValue.Sorted :=
  sorted_object (by simp only [List.map]; decide) (by simp)

@[simp] theorem MmdbConfig.sorted_toValue (c : MmdbConfig) : c.toValue.Sorted :=
  sorted_object (by simp only [List.map]; decide) (by simp)

@[simp] theorem EndpointExpressions.sorted_toValue (c : EndpointExpressions) : c.toValue.Sorted :=
  sorted_object (by simp only [List.map]; decide) (by simp)

@[simp] theorem GeoRuleConfig.sorted_toValue (c : GeoRuleConfig) : c.toValue.Sorted :=
  sorted_object (by simp only [List.map]; decide) (by simp)

@[simp] theorem GeoConfig.sorted_toValue (c : GeoConfig) : c.toValue.Sorted := by
  have hrules : (Value.array (c.rules.map GeoRuleConfig.toValue)).Sorted := by
    apply sorted_array
    simp
  exact sorted_object (by simp only [List.map]; decide) (by simp [hrules])

@[simp] theorem sorted_relayEndpointToValue (c : RelayEndpointConfig) :
    (relayEndpointToValue c).Sorted := by
  apply sorted_object
  · cases c.fastMediaUdpPort <;> cases c.telemetrySecretFile <;>
      simp only [someField, Option.map, Option.toList, List.map, List.append_eq, List.nil_append,
        List.cons_append] <;> decide
  · cases c.fastMediaUdpPort <;> cases c.telemetrySecretFile <;> simp [someField]

@[simp] theorem RelayHealthConfig.sorted_toValue (c : RelayHealthConfig) : c.toValue.Sorted := by
  have hendpoints : (Value.array (c.endpoints.map relayEndpointToValue)).Sorted := by
    apply sorted_array
    simp
  exact sorted_object (by simp only [List.map]; decide) (by simp [hendpoints])

@[simp] theorem WebSocketSignalConfig.sorted_toValue (c : WebSocketSignalConfig) :
    c.toValue.Sorted :=
  sorted_object (by simp only [List.map]; decide) (by simp)

@[simp] theorem ConnectionAuthMode.sorted_toValue (mode : ConnectionAuthMode) :
    mode.toValue.Sorted := by
  cases mode <;> exact trivial

@[simp] theorem JwksConfig.sorted_toValue (c : JwksConfig) : c.toValue.Sorted :=
  sorted_object (by simp only [List.map]; decide) (by simp)

@[simp] theorem IntrospectionConfig.sorted_toValue (c : IntrospectionConfig) : c.toValue.Sorted :=
  sorted_object (by simp only [List.map]; decide) (by simp)

@[simp] theorem ConnectionAuthConfig.sorted_toValue (c : ConnectionAuthConfig) :
    c.toValue.Sorted :=
  sorted_object (by simp only [List.map]; decide) (by simp)

@[simp] theorem sorted_strategyToValue (strategy : Quality.Strategy) :
    (strategyToValue strategy).Sorted := by
  cases strategy <;> exact trivial

@[simp] theorem sorted_weightsToValue (c : Quality.Weights) : (weightsToValue c).Sorted :=
  sorted_object (by simp only [List.map]; decide) (by simp)

@[simp] theorem RelayQualityConfig.sorted_toValue (c : RelayQualityConfig) : c.toValue.Sorted :=
  sorted_object (by simp only [List.map]; decide) (by simp)

@[simp] theorem sorted_fastRelayToValue (c : FastRelayConfig) : (fastRelayToValue c).Sorted :=
  sorted_object (by simp only [List.map]; decide) (by simp)

@[simp] theorem FastModeConfig.sorted_toValue (c : FastModeConfig) : c.toValue.Sorted :=
  sorted_object (by simp only [List.map]; decide) (by simp)

/-- The normalized configuration is a value as `serde_json` keeps it. -/
theorem StarryConfig.sorted_toValue (c : StarryConfig) : c.toValue.Sorted :=
  sorted_object (by simp only [List.map]; decide) (by simp)

end Starry.Config
