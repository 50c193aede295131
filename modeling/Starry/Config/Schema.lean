import Starry.ConfigStore.Records
import Starry.FastRelay.Authorization
import Starry.Quality.Wire
import Starry.RelayHealth.Probes
import Starry.Routing.Liveness
import Starry.SecureTcp.Transport

/-!
# The configuration document (`starry_config.rs`)

The sections of a document with their defaults, and how `serde` reads them from a value. A section
is a mapping without unknown keys. What is absent has its default, and a text is read from any
scalar.
-/

open Starry.ConfigStore (Value)

namespace Starry.Config

/-! ## Sections -/

structure SecureTcpConfig extends SecureTcp.SecureTcpConfig where
  mode := .off
  handshakeTimeoutMs : Nat := 18000
  idleTimeoutMs : Nat := 30000
  maxFrameBytes : Nat := 65536
deriving DecidableEq

structure DatabaseConfig where
  path : String := ""
  url : String := ""
deriving DecidableEq, Repr

def DatabaseConfig.withPath (path : String) : DatabaseConfig := { path }

structure MmdbConfig where
  updateIntervalHours : Nat := 168
  updateOnStart : Bool := true
  forceUpdate : Bool := false
  downloadTimeoutSeconds : Nat := 600
  minimumBytes : Nat := 65536
  country : DatabaseConfig := .withPath "mmdb/GeoLite2-Country.mmdb"
  city : DatabaseConfig := .withPath "mmdb/GeoLite2-City.mmdb"
  asn : DatabaseConfig := .withPath "mmdb/GeoLite2-ASN.mmdb"
deriving DecidableEq, Repr

structure EndpointExpressions where
  clientA : String := "*"
  clientB : String := "*"
deriving DecidableEq, Repr

structure GeoRuleConfig where
  name : String
  symmetric : Bool := true
  /-- `matches` -/
  expressions : EndpointExpressions
  relays : List String
deriving DecidableEq, Repr

structure GeoConfig where
  enabled : Bool := false
  rules : List GeoRuleConfig := []
deriving DecidableEq, Repr

abbrev RelayEndpointConfig := RelayHealth.RelayEndpointConfig

structure RelayHealthConfig extends RelayHealth.RelayHealthConfig where
  endpoints := []
  successThreshold := 1
  failureThreshold := 2
  intervalSeconds : Nat := 60
  timeoutMs : Nat := 5000
deriving DecidableEq, Repr

structure WebSocketSignalConfig extends Routing.WebSocketSignalConfig where
  registrationTimeoutMs := 10000
  keepaliveIntervalMs := 12000
  idleTimeoutMs := 45000
  maxFrameBytes := 65536
  outboundQueueCapacity := 64
  maxSessions := 10000
  maxSessionsPerEffectiveIp := 512
  registrationRatePerMinute := 300
  enabled : Bool := false
  trustedProxies : List String := ["127.0.0.1/32", "::1/128"]
  allowedOrigins : List String := []
  relayHealth : RelayHealthConfig := {}
deriving DecidableEq, Repr

inductive ConnectionAuthMode
  | off | audit | enforce
deriving DecidableEq, Repr

structure JwksConfig where
  file : String := ""
  url : String := ""
  refreshIntervalSeconds : Nat := 300
  maxStaleSeconds : Nat := 3600
  caFile : String := ""
  certFile : String := ""
  keyFile : String := ""
  serverName : String := ""
deriving DecidableEq, Repr

structure IntrospectionConfig where
  required : Bool := false
  url : String := ""
  timeoutMs : Nat := 1000
  positiveCacheSeconds : Nat := 10
  negativeCacheSeconds : Nat := 1
  maxCacheEntries : Nat := 100000
  caFile : String := ""
  certFile : String := ""
  keyFile : String := ""
  serverName : String := ""
deriving DecidableEq, Repr

structure ConnectionAuthConfig where
  mode : ConnectionAuthMode := .off
  issuer : String := ""
  audience : String := ""
  tokenUse : String := "access"
  requiredScope : String := "connect:initiate"
  maxTokenBytes : Nat := 8192
  clockSkewSeconds : Nat := 30
  jwks : JwksConfig := {}
  introspection : IntrospectionConfig := {}
deriving DecidableEq, Repr

structure RelayQualityConfig extends Quality.RelayQualityConfig where
  legacyFallbackRelays : List String := []
  maxTelemetryAgeSeconds : Nat := 180
deriving DecidableEq, Repr

abbrev FastRelayConfig := FastRelay.FastRelayConfig

structure FastModeConfig where
  relay : FastRelayConfig := ⟨false, false, 90, 50000, 1200⟩
deriving DecidableEq, Repr

/-- The normalized configuration. -/
structure StarryConfig where
  version : Nat
  relayServers : List String
  secureTcp : SecureTcpConfig
  mmdb : MmdbConfig
  geo : GeoConfig
  websocketSignal : WebSocketSignalConfig
  connectionAuth : ConnectionAuthConfig
  relayQuality : RelayQualityConfig
  fastMode : FastModeConfig
deriving DecidableEq

/-! ## The document -/

structure FastRelayConfigWire where
  fastCompatEnabled : Bool := false
  fastMediaV1Enabled : Option Bool := none
  authorizationTtlSeconds : Nat := 90
  maxBitrateKbps : Nat := 50000
  relayMaxDatagram : Option Nat := none
deriving DecidableEq, Repr

structure FastModeConfigWire where
  relay : FastRelayConfigWire := {}
deriving DecidableEq, Repr

structure StarryConfigWire where
  version : Nat
  relayServers : List String := []
  secureTcp : SecureTcpConfig := {}
  mmdb : MmdbConfig := {}
  geo : GeoConfig := {}
  websocketSignal : Option WebSocketSignalConfig := none
  connectionAuth : Option ConnectionAuthConfig := none
  relayQuality : Option RelayQualityConfig := none
  fastMode : Option FastModeConfigWire := none
deriving DecidableEq

namespace FastModeConfigWire

def hasSchemaV5Fields (mode : FastModeConfigWire) : Bool :=
  mode.relay.fastMediaV1Enabled.isSome || mode.relay.relayMaxDatagram.isSome

def intoConfig (mode : FastModeConfigWire) : FastModeConfig where
  relay :=
    { fastCompatEnabled := mode.relay.fastCompatEnabled
      fastMediaV1Enabled := mode.relay.fastMediaV1Enabled.getD false
      authorizationTtlSeconds := mode.relay.authorizationTtlSeconds
      maxBitrateKbps := mode.relay.maxBitrateKbps
      relayMaxDatagram := mode.relay.relayMaxDatagram.getD 1200 }

end FastModeConfigWire

/-! ## Reading -/

section Reading

variable {α : Type}

/-- A mapping without unknown keys. -/
def isMapping (known : List String) : Value → Bool
  | .object fields => fields.all fun field => known.contains field.1
  | _ => false

def asText : Value → Option String
  | .null => some "null"
  | .bool b => some (toString b)
  | .uint n => some (toString n)
  | .number text => some text
  | .string s => some s
  | _ => none

def asUnsigned (bits : Nat) : Value → Option Nat
  | .uint n => if n < 2 ^ bits then some n else none
  | _ => none

def asPort (value : Value) : Option UInt16 := (asUnsigned 16 value).map UInt16.ofNat

def asList (read : Value → Option α) : Value → Option (List α)
  | .array items => items.mapM read
  | _ => none

/-- An `Option` is `None` on `null`. -/
def orNull (read : Value → Option α) : Value → Option (Option α)
  | .null => some none
  | value => (read value).map some

/-- A field with `#[serde(default)]`. -/
def withDefault (default : α) (read : Value → Option α) : Option Value → Option α
  | none => some default
  | some value => read value

variable {default x : α} {read : Value → Option α} {v : Value} {f : Value → Value} {g : α → α}

@[simp] theorem withDefault_none : withDefault default read none = some default := rfl

@[simp] theorem withDefault_some : withDefault default read (some v) = read v := rfl

theorem withDefault_map {o : Option Value} (hdefault : g default = default)
    (hf : ∀ v x, read v = some x → read (f v) = some (g x))
    (h : withDefault default read o = some x) :
    withDefault default read (o.map f) = some (g x) := by
  cases o with
  | none =>
    cases h
    rw [Option.map_none, withDefault_none, hdefault]
  | some v => exact hf v x h

theorem orNull_map {o : Option α} (hnull : f .null = .null) (hread : read .null = none)
    (hf : ∀ v x, read v = some x → read (f v) = some (g x)) (h : orNull read v = some o) :
    orNull read (f v) = some (o.map g) := by
  unfold orNull at h
  split at h
  · cases h
    rw [hnull]
    rfl
  · obtain ⟨x, hx, rfl⟩ := Option.map_eq_some_iff.mp h
    have hfx := hf v x hx
    unfold orNull
    split
    · rename_i heq
      rw [heq, hread] at hfx
      cases hfx
    · rw [hfx]
      rfl

/-- What is read where nothing, or nothing but `null`, may stand. -/
theorem orNull_spec {o : Option Value} {x : Option α}
    (h : withDefault none (orNull read) o = some x) :
    (x = none ∧ ∀ v, o = some v → v = .null) ∨
      ∃ v y, o = some v ∧ read v = some y ∧ x = some y := by
  cases o with
  | none =>
    cases h
    exact .inl ⟨rfl, fun v hv => (nomatch hv)⟩
  | some v =>
    rw [withDefault_some] at h
    unfold orNull at h
    split at h
    · cases h
      exact .inl ⟨rfl, fun v hv => (Option.some.inj hv).symm⟩
    · obtain ⟨y, hy, rfl⟩ := Option.map_eq_some_iff.mp h
      exact .inr ⟨v, y, rfl, hy, rfl⟩

theorem asList_spec {xs : List α} (h : asList read v = some xs) :
    ∃ items, v = .array items ∧ ∀ item ∈ items, ∃ x, read item = some x := by
  cases v with
  | array items =>
    refine ⟨items, rfl, ?_⟩
    simp only [asList] at h
    induction items generalizing xs with
    | nil => simp
    | cons item items ih =>
      simp only [List.mapM_cons, Option.bind_eq_bind, Option.bind_eq_some_iff] at h
      obtain ⟨x, hx, ys, hys, -⟩ := h
      intro other hother
      rcases List.mem_cons.mp hother with rfl | hother
      · exact ⟨x, hx⟩
      · exact ih hys other hother
  | _ => cases h

end Reading

section

variable (v : Value)

def readSecureTcpMode : Value → Option SecureTcp.SecureTcpMode
  | .string "off" => some .off
  | .string "auto" => some .auto
  | _ => none

def SecureTcpConfig.ofValue : Option SecureTcpConfig := do
  guard (isMapping ["mode", "handshake_timeout_ms", "idle_timeout_ms", "max_frame_bytes"] v)
  let d : SecureTcpConfig := {}
  let mode ← withDefault d.mode readSecureTcpMode (v.get "mode")
  let handshakeTimeoutMs ←
    withDefault d.handshakeTimeoutMs (asUnsigned 64) (v.get "handshake_timeout_ms")
  let idleTimeoutMs ← withDefault d.idleTimeoutMs (asUnsigned 64) (v.get "idle_timeout_ms")
  let maxFrameBytes ← withDefault d.maxFrameBytes (asUnsigned 64) (v.get "max_frame_bytes")
  return { mode, handshakeTimeoutMs, idleTimeoutMs, maxFrameBytes }

def DatabaseConfig.ofValue : Option DatabaseConfig := do
  guard (isMapping ["path", "url"] v)
  let path ← withDefault "" asText (v.get "path")
  let url ← withDefault "" asText (v.get "url")
  return { path, url }

def MmdbConfig.ofValue : Option MmdbConfig := do
  guard (isMapping ["update_interval_hours", "update_on_start", "force_update",
    "download_timeout_seconds", "minimum_bytes", "country", "city", "asn"] v)
  let d : MmdbConfig := {}
  let updateIntervalHours ←
    withDefault d.updateIntervalHours (asUnsigned 64) (v.get "update_interval_hours")
  let updateOnStart ← withDefault d.updateOnStart Value.asBool (v.get "update_on_start")
  let forceUpdate ← withDefault d.forceUpdate Value.asBool (v.get "force_update")
  let downloadTimeoutSeconds ←
    withDefault d.downloadTimeoutSeconds (asUnsigned 64) (v.get "download_timeout_seconds")
  let minimumBytes ← withDefault d.minimumBytes (asUnsigned 64) (v.get "minimum_bytes")
  let country ← withDefault d.country DatabaseConfig.ofValue (v.get "country")
  let city ← withDefault d.city DatabaseConfig.ofValue (v.get "city")
  let asn ← withDefault d.asn DatabaseConfig.ofValue (v.get "asn")
  return { updateIntervalHours, updateOnStart, forceUpdate, downloadTimeoutSeconds, minimumBytes,
           country, city, asn }

def EndpointExpressions.ofValue : Option EndpointExpressions := do
  guard (isMapping ["client_a", "client_b"] v)
  let clientA ← withDefault "*" asText (v.get "client_a")
  let clientB ← withDefault "*" asText (v.get "client_b")
  return { clientA, clientB }

def GeoRuleConfig.ofValue : Option GeoRuleConfig := do
  guard (isMapping ["name", "symmetric", "match", "relays"] v)
  let name ← (v.get "name").bind asText
  let symmetric ← withDefault true Value.asBool (v.get "symmetric")
  let expressions ← (v.get "match").bind EndpointExpressions.ofValue
  let relays ← (v.get "relays").bind (asList asText)
  return { name, symmetric, expressions, relays }

def GeoConfig.ofValue : Option GeoConfig := do
  guard (isMapping ["enabled", "rules"] v)
  let enabled ← withDefault false Value.asBool (v.get "enabled")
  let rules ← withDefault [] (asList GeoRuleConfig.ofValue) (v.get "rules")
  return { enabled, rules }

def RelayEndpointConfig.ofValue : Option RelayEndpointConfig := do
  guard (isMapping ["relay", "url", "telemetry_secret_file", "fast_media_udp_port"] v)
  let relay ← (v.get "relay").bind asText
  let url ← (v.get "url").bind asText
  let telemetrySecretFile ← withDefault none (orNull asText) (v.get "telemetry_secret_file")
  let fastMediaUdpPort ← withDefault none (orNull asPort) (v.get "fast_media_udp_port")
  return { relay, url, telemetrySecretFile, fastMediaUdpPort }

def RelayHealthConfig.ofValue : Option RelayHealthConfig := do
  guard (isMapping ["interval_seconds", "timeout_ms", "success_threshold", "failure_threshold",
    "endpoints"] v)
  let d : RelayHealthConfig := {}
  let intervalSeconds ← withDefault d.intervalSeconds (asUnsigned 64) (v.get "interval_seconds")
  let timeoutMs ← withDefault d.timeoutMs (asUnsigned 64) (v.get "timeout_ms")
  let successThreshold ← withDefault d.successThreshold (asUnsigned 32) (v.get "success_threshold")
  let failureThreshold ← withDefault d.failureThreshold (asUnsigned 32) (v.get "failure_threshold")
  let endpoints ← withDefault [] (asList RelayEndpointConfig.ofValue) (v.get "endpoints")
  return { intervalSeconds, timeoutMs, successThreshold, failureThreshold, endpoints }

def WebSocketSignalConfig.ofValue : Option WebSocketSignalConfig := do
  guard (isMapping ["enabled", "registration_timeout_ms", "keepalive_interval_ms",
    "idle_timeout_ms", "max_frame_bytes", "outbound_queue_capacity", "max_sessions",
    "max_sessions_per_effective_ip", "registration_rate_per_minute", "trusted_proxies",
    "allowed_origins", "relay_health"] v)
  let d : WebSocketSignalConfig := {}
  let enabled ← withDefault d.enabled Value.asBool (v.get "enabled")
  let registrationTimeoutMs ←
    withDefault d.registrationTimeoutMs (asUnsigned 64) (v.get "registration_timeout_ms")
  let keepaliveIntervalMs ←
    withDefault d.keepaliveIntervalMs (asUnsigned 64) (v.get "keepalive_interval_ms")
  let idleTimeoutMs ← withDefault d.idleTimeoutMs (asUnsigned 64) (v.get "idle_timeout_ms")
  let maxFrameBytes ← withDefault d.maxFrameBytes (asUnsigned 64) (v.get "max_frame_bytes")
  let outboundQueueCapacity ←
    withDefault d.outboundQueueCapacity (asUnsigned 64) (v.get "outbound_queue_capacity")
  let maxSessions ← withDefault d.maxSessions (asUnsigned 64) (v.get "max_sessions")
  let maxSessionsPerEffectiveIp ← withDefault d.maxSessionsPerEffectiveIp (asUnsigned 64)
    (v.get "max_sessions_per_effective_ip")
  let registrationRatePerMinute ← withDefault d.registrationRatePerMinute (asUnsigned 64)
    (v.get "registration_rate_per_minute")
  let trustedProxies ← withDefault d.trustedProxies (asList asText) (v.get "trusted_proxies")
  let allowedOrigins ← withDefault d.allowedOrigins (asList asText) (v.get "allowed_origins")
  let relayHealth ← withDefault d.relayHealth RelayHealthConfig.ofValue (v.get "relay_health")
  return { enabled, registrationTimeoutMs, keepaliveIntervalMs, idleTimeoutMs, maxFrameBytes,
           outboundQueueCapacity, maxSessions, maxSessionsPerEffectiveIp,
           registrationRatePerMinute, trustedProxies, allowedOrigins, relayHealth }

def readConnectionAuthMode : Value → Option ConnectionAuthMode
  | .string "off" => some .off
  | .string "audit" => some .audit
  | .string "enforce" => some .enforce
  | _ => none

def JwksConfig.ofValue : Option JwksConfig := do
  guard (isMapping ["file", "url", "refresh_interval_seconds", "max_stale_seconds", "ca_file",
    "cert_file", "key_file", "server_name"] v)
  let d : JwksConfig := {}
  let file ← withDefault d.file asText (v.get "file")
  let url ← withDefault d.url asText (v.get "url")
  let refreshIntervalSeconds ←
    withDefault d.refreshIntervalSeconds (asUnsigned 64) (v.get "refresh_interval_seconds")
  let maxStaleSeconds ← withDefault d.maxStaleSeconds (asUnsigned 64) (v.get "max_stale_seconds")
  let caFile ← withDefault d.caFile asText (v.get "ca_file")
  let certFile ← withDefault d.certFile asText (v.get "cert_file")
  let keyFile ← withDefault d.keyFile asText (v.get "key_file")
  let serverName ← withDefault d.serverName asText (v.get "server_name")
  return { file, url, refreshIntervalSeconds, maxStaleSeconds, caFile, certFile, keyFile,
           serverName }

def IntrospectionConfig.ofValue : Option IntrospectionConfig := do
  guard (isMapping ["required", "url", "timeout_ms", "positive_cache_seconds",
    "negative_cache_seconds", "max_cache_entries", "ca_file", "cert_file", "key_file",
    "server_name"] v)
  let d : IntrospectionConfig := {}
  let required ← withDefault d.required Value.asBool (v.get "required")
  let url ← withDefault d.url asText (v.get "url")
  let timeoutMs ← withDefault d.timeoutMs (asUnsigned 64) (v.get "timeout_ms")
  let positiveCacheSeconds ←
    withDefault d.positiveCacheSeconds (asUnsigned 64) (v.get "positive_cache_seconds")
  let negativeCacheSeconds ←
    withDefault d.negativeCacheSeconds (asUnsigned 64) (v.get "negative_cache_seconds")
  let maxCacheEntries ← withDefault d.maxCacheEntries (asUnsigned 64) (v.get "max_cache_entries")
  let caFile ← withDefault d.caFile asText (v.get "ca_file")
  let certFile ← withDefault d.certFile asText (v.get "cert_file")
  let keyFile ← withDefault d.keyFile asText (v.get "key_file")
  let serverName ← withDefault d.serverName asText (v.get "server_name")
  return { required, url, timeoutMs, positiveCacheSeconds, negativeCacheSeconds, maxCacheEntries,
           caFile, certFile, keyFile, serverName }

def ConnectionAuthConfig.ofValue : Option ConnectionAuthConfig := do
  guard (isMapping ["mode", "issuer", "audience", "token_use", "required_scope",
    "max_token_bytes", "clock_skew_seconds", "jwks", "introspection"] v)
  let d : ConnectionAuthConfig := {}
  let mode ← withDefault d.mode readConnectionAuthMode (v.get "mode")
  let issuer ← withDefault d.issuer asText (v.get "issuer")
  let audience ← withDefault d.audience asText (v.get "audience")
  let tokenUse ← withDefault d.tokenUse asText (v.get "token_use")
  let requiredScope ← withDefault d.requiredScope asText (v.get "required_scope")
  let maxTokenBytes ← withDefault d.maxTokenBytes (asUnsigned 64) (v.get "max_token_bytes")
  let clockSkewSeconds ← withDefault d.clockSkewSeconds (asUnsigned 64) (v.get "clock_skew_seconds")
  let jwks ← withDefault d.jwks JwksConfig.ofValue (v.get "jwks")
  let introspection ← withDefault d.introspection IntrospectionConfig.ofValue (v.get "introspection")
  return { mode, issuer, audience, tokenUse, requiredScope, maxTokenBytes, clockSkewSeconds, jwks,
           introspection }

def readStrategy : Value → Option Quality.Strategy
  | .string "adaptive" => some .adaptive
  | .string "eager" => some .eager
  | _ => none

def readWeights : Option Quality.Weights := do
  guard (isMapping ["rtt", "jitter", "loss", "load"] v)
  let rtt ← withDefault 4000 (asUnsigned 32) (v.get "rtt")
  let jitter ← withDefault 2000 (asUnsigned 32) (v.get "jitter")
  let loss ← withDefault 2500 (asUnsigned 32) (v.get "loss")
  let load ← withDefault 1500 (asUnsigned 32) (v.get "load")
  return { rtt, jitter, loss, load }

def RelayQualityConfig.ofValue : Option RelayQualityConfig := do
  guard (isMapping ["enabled", "strategy", "legacy_fallback_relays", "max_candidates",
    "primary_probe_samples", "primary_accept_score", "primary_max_loss_basis_points",
    "p2p_probe_grace_ms", "probe_samples", "probe_interval_ms", "probe_timeout_ms",
    "report_timeout_ms", "max_telemetry_age_seconds", "allocation_ttl_seconds",
    "cache_ttl_seconds", "max_allocations", "hysteresis_basis_points",
    "missing_report_penalty_basis_points", "rtt_bad_ms", "jitter_bad_ms", "weights"] v)
  let d : RelayQualityConfig := {}
  let enabled ← withDefault d.enabled Value.asBool (v.get "enabled")
  let strategy ← withDefault d.strategy readStrategy (v.get "strategy")
  let legacyFallbackRelays ←
    withDefault d.legacyFallbackRelays (asList asText) (v.get "legacy_fallback_relays")
  let maxCandidates ← withDefault d.maxCandidates (asUnsigned 64) (v.get "max_candidates")
  let primaryProbeSamples ←
    withDefault d.primaryProbeSamples (asUnsigned 32) (v.get "primary_probe_samples")
  let primaryAcceptScore ←
    withDefault d.primaryAcceptScore (asUnsigned 32) (v.get "primary_accept_score")
  let primaryMaxLossBasisPoints ← withDefault d.primaryMaxLossBasisPoints (asUnsigned 32)
    (v.get "primary_max_loss_basis_points")
  let p2pProbeGraceMs ← withDefault d.p2pProbeGraceMs (asUnsigned 32) (v.get "p2p_probe_grace_ms")
  let probeSamples ← withDefault d.probeSamples (asUnsigned 32) (v.get "probe_samples")
  let probeIntervalMs ← withDefault d.probeIntervalMs (asUnsigned 32) (v.get "probe_interval_ms")
  let probeTimeoutMs ← withDefault d.probeTimeoutMs (asUnsigned 32) (v.get "probe_timeout_ms")
  let reportTimeoutMs ← withDefault d.reportTimeoutMs (asUnsigned 32) (v.get "report_timeout_ms")
  let maxTelemetryAgeSeconds ←
    withDefault d.maxTelemetryAgeSeconds (asUnsigned 64) (v.get "max_telemetry_age_seconds")
  let allocationTtlSeconds ←
    withDefault d.allocationTtlSeconds (asUnsigned 64) (v.get "allocation_ttl_seconds")
  let cacheTtlSeconds ← withDefault d.cacheTtlSeconds (asUnsigned 64) (v.get "cache_ttl_seconds")
  let maxAllocations ← withDefault d.maxAllocations (asUnsigned 64) (v.get "max_allocations")
  let hysteresisBasisPoints ←
    withDefault d.hysteresisBasisPoints (asUnsigned 32) (v.get "hysteresis_basis_points")
  let missingReportPenaltyBasisPoints ← withDefault d.missingReportPenaltyBasisPoints
    (asUnsigned 32) (v.get "missing_report_penalty_basis_points")
  let rttBadMs ← withDefault d.rttBadMs (asUnsigned 32) (v.get "rtt_bad_ms")
  let jitterBadMs ← withDefault d.jitterBadMs (asUnsigned 32) (v.get "jitter_bad_ms")
  let weights ← withDefault d.weights readWeights (v.get "weights")
  return { enabled, strategy, legacyFallbackRelays, maxCandidates, primaryProbeSamples,
           primaryAcceptScore, primaryMaxLossBasisPoints, p2pProbeGraceMs, probeSamples,
           probeIntervalMs, probeTimeoutMs, reportTimeoutMs, maxTelemetryAgeSeconds,
           allocationTtlSeconds, cacheTtlSeconds, maxAllocations, hysteresisBasisPoints,
           missingReportPenaltyBasisPoints, rttBadMs, jitterBadMs, weights }

def FastRelayConfigWire.ofValue : Option FastRelayConfigWire := do
  guard (isMapping ["fast_compat_enabled", "fast_media_v1_enabled", "authorization_ttl_seconds",
    "max_bitrate_kbps", "relay_max_datagram"] v)
  let d : FastRelayConfigWire := {}
  let fastCompatEnabled ← withDefault d.fastCompatEnabled Value.asBool (v.get "fast_compat_enabled")
  let fastMediaV1Enabled ←
    withDefault d.fastMediaV1Enabled (orNull Value.asBool) (v.get "fast_media_v1_enabled")
  let authorizationTtlSeconds ←
    withDefault d.authorizationTtlSeconds (asUnsigned 64) (v.get "authorization_ttl_seconds")
  let maxBitrateKbps ← withDefault d.maxBitrateKbps (asUnsigned 32) (v.get "max_bitrate_kbps")
  let relayMaxDatagram ←
    withDefault d.relayMaxDatagram (orNull (asUnsigned 32)) (v.get "relay_max_datagram")
  return { fastCompatEnabled, fastMediaV1Enabled, authorizationTtlSeconds, maxBitrateKbps,
           relayMaxDatagram }

def FastModeConfigWire.ofValue : Option FastModeConfigWire := do
  guard (isMapping ["relay"] v)
  let relay ← withDefault {} FastRelayConfigWire.ofValue (v.get "relay")
  return { relay }

def StarryConfigWire.ofValue : Option StarryConfigWire := do
  guard (isMapping ["version", "relay_servers", "secure_tcp", "mmdb", "geo", "websocket_signal",
    "connection_auth", "relay_quality", "fast_mode"] v)
  let version ← (v.get "version").bind (asUnsigned 8)
  let relayServers ← withDefault [] (asList asText) (v.get "relay_servers")
  let secureTcp ← withDefault {} SecureTcpConfig.ofValue (v.get "secure_tcp")
  let mmdb ← withDefault {} MmdbConfig.ofValue (v.get "mmdb")
  let geo ← withDefault {} GeoConfig.ofValue (v.get "geo")
  let websocketSignal ←
    withDefault none (orNull WebSocketSignalConfig.ofValue) (v.get "websocket_signal")
  let connectionAuth ←
    withDefault none (orNull ConnectionAuthConfig.ofValue) (v.get "connection_auth")
  let relayQuality ← withDefault none (orNull RelayQualityConfig.ofValue) (v.get "relay_quality")
  let fastMode ← withDefault none (orNull FastModeConfigWire.ofValue) (v.get "fast_mode")
  return { version, relayServers, secureTcp, mmdb, geo, websocketSignal, connectionAuth,
           relayQuality, fastMode }

end

end Starry.Config
