import Starry.Config.Schema

/-!
# Validation of the configuration (`starry_config.rs`)

Every section is normalized and checked in the order of the source, and the first check that fails
gives the text of the error. YAML, URLs, networks, the expressions of Geo rules, debug texts and
hashing are the parts of `Env`.
-/

namespace Starry.Config

def maxConfigBytes : Nat := 1024 * 1024
def minConfigVersion : Nat := 1
def configVersion : Nat := 5

/-! ## Libraries -/

inductive Host
  | domain | ipv4 | ipv6
deriving DecidableEq, Repr

structure Url extends Enrollment.Url where
  host : Option Host
deriving DecidableEq, Repr

structure YamlError where
  text : String
  location : Option (Nat × Nat)
deriving DecidableEq, Repr

structure Env where
  /-- `serde_yml::from_slice` of a `StarryConfigWire` -/
  readWire : Bytes → Except YamlError StarryConfigWire
  parseUrl : String → Except String Url
  parseHost : String → Except String Host
  parseNetwork : String → Except String Unit
  /-- `geo_relay::validate_config` -/
  compileRules : GeoConfig → Except String Unit
  /-- `{:?}` of a list of texts -/
  debug : List String → String
  /-- `serde_json::to_vec` -/
  toVec : StarryConfig → Except String Bytes
  /-- `format!("sha256:{:x}", Sha256::digest(..))` -/
  sha256Digest : Bytes → String

/-! ## Checks -/

def ensure (holds : Bool) (message : String) : Except String Unit :=
  if holds then .ok () else .error message

@[simp] theorem ensure_ok {holds : Bool} {message : String} {u : Unit} :
    ensure holds message = .ok u ↔ holds = true := by
  unfold ensure
  split <;> simp_all

def onlyIf (holds : Bool) (check : Except String Unit) : Except String Unit :=
  if holds then check else .ok ()

def inRange (low high n : Nat) : Bool := low ≤ n && n ≤ high

/-- The values of `normalize_unique` after those that were seen. -/
def normalizeAfter (field : String) : List String → List String → Except String (List String)
  | _, [] => .ok []
  | seen, value :: rest => do
    let value := trim value
    ensure (!value.isEmpty) (field ++ " contains an empty value")
    ensure (!seen.contains (toAsciiLowercase value))
      (field ++ " contains duplicate value '" ++ value ++ "'")
    return value :: (← normalizeAfter field (toAsciiLowercase value :: seen) rest)

def normalizeUnique (values : List String) (field : String) : Except String (List String) :=
  normalizeAfter field [] values

def normalizedExpression (value : String) : String :=
  let value := trim value
  if value.isEmpty then "*" else value

def validateSecureTcp (config : SecureTcpConfig) : Except String Unit := do
  ensure (inRange 1000 120000 config.handshakeTimeoutMs)
    "secure_tcp.handshake_timeout_ms must be between 1000 and 120000"
  ensure (inRange 1000 600000 config.idleTimeoutMs)
    "secure_tcp.idle_timeout_ms must be between 1000 and 600000"
  ensure (inRange 4096 (16 * 1024 * 1024) config.maxFrameBytes)
    "secure_tcp.max_frame_bytes must be between 4096 and 16777216"

/-! ## Databases -/

/-- `std::path::Component` on Unix. -/
inductive Component
  | rootDir | curDir | parentDir
  | normal (name : List Char)
deriving DecidableEq, Repr

def isAbsolute (path : String) : Bool := path.toList.head? == some '/'

/-- `Path::components`: a dot counts only in front. -/
def components (path : String) : List Component :=
  (if isAbsolute path then [.rootDir] else []) ++
    (path.toList.splitOn '/').zipIdx.filterMap fun part =>
      if part.1.isEmpty then none
      else if part.1 == ['.'] then if part.2 = 0 then some .curDir else none
      else if part.1 == ['.', '.'] then some .parentDir
      else some (.normal part.1)

/-- `Path::extension`: what follows the last dot of the last name, unless the name starts there. -/
def extension (path : String) : Option (List Char) :=
  match (components path).getLast? with
  | some (.normal name) =>
    let parts := name.splitOn '.'
    if parts.length ≤ 1 ∨ parts.dropLast = [[]] then none else parts.getLast?
  | _ => none

def Component.isNormal : Component → Bool
  | .normal _ => true
  | _ => false

/-- A relative `mmdb/*.mmdb` path without traversal. -/
def isDatabasePath (path : String) : Bool :=
  !isAbsolute path && (components path).head? == some (.normal "mmdb".toList) &&
    (components path).tail.all Component.isNormal && extension path == some "mmdb".toList

def validateDatabase (label : String) (database : DatabaseConfig) :
    Except String DatabaseConfig := do
  let database : DatabaseConfig := { path := trim database.path, url := trim database.url }
  ensure (!database.path.isEmpty) ("mmdb." ++ label ++ ".path must not be empty")
  ensure (isDatabasePath database.path)
    ("mmdb." ++ label ++ ".path must be a relative mmdb/*.mmdb path without traversal")
  ensure (database.url.isEmpty || "https://".toList.isPrefixOf database.url.toList)
    ("mmdb." ++ label ++ ".url must use https://")
  return database

def validateMmdb (config : MmdbConfig) : Except String MmdbConfig := do
  ensure (decide (config.updateIntervalHours ≤ 8760))
    "mmdb.update_interval_hours must not exceed 8760"
  ensure (inRange 1 3600 config.downloadTimeoutSeconds)
    "mmdb.download_timeout_seconds must be between 1 and 3600"
  ensure (inRange 1024 (1024 * 1024 * 1024) config.minimumBytes)
    "mmdb.minimum_bytes must be between 1024 and 1073741824"
  let country ← validateDatabase "country" config.country
  let city ← validateDatabase "city" config.city
  let asn ← validateDatabase "asn" config.asn
  return { config with country, city, asn }

/-! ## Geo rules -/

section

variable (env : Env)

/-- The rules after those with the given names, from the one with the given index on. -/
def validateRules (relaySet : List String) :
    Nat → List String → List GeoRuleConfig → Except String (List GeoRuleConfig)
  | _, _, [] => .ok []
  | index, names, rule :: rest => do
    let name := trim rule.name
    ensure (!name.isEmpty) ("geo.rules[" ++ toString index ++ "].name is empty")
    ensure (!names.contains name) ("duplicate Geo rule name: " ++ name)
    let expressions : EndpointExpressions :=
      { clientA := normalizedExpression rule.expressions.clientA
        clientB := normalizedExpression rule.expressions.clientB }
    let relays ← normalizeUnique rule.relays ("Geo rule '" ++ name ++ "' relays")
    ensure (!relays.isEmpty) ("Geo rule '" ++ name ++ "' has no relays")
    relays.forM fun relay =>
      ensure (relaySet.contains (toAsciiLowercase relay))
        ("Geo rule '" ++ name ++ "' references relay '" ++ relay ++
          "' which is absent from relay_servers")
    return { rule with name, expressions, relays } ::
      (← validateRules relaySet (index + 1) (name :: names) rest)

def validateGeo (config : GeoConfig) (relayServers : List String) : Except String GeoConfig := do
  if !config.enabled then
    return config
  ensure (!config.rules.isEmpty) "geo.enabled is true but geo.rules is empty"
  ensure (!relayServers.isEmpty) "geo.enabled is true but relay_servers is empty"
  let rules ← validateRules (relayServers.map toAsciiLowercase) 0 [] config.rules
  let config := { config with rules }
  env.compileRules config
  return config

/-! ## WebSocket signalling -/

def endpointName (endpoint : RelayEndpointConfig) : String :=
  "websocket_signal.relay_health endpoint '" ++ endpoint.relay ++ "'"

/-- The texts of an endpoint, trimmed. -/
def trimmedEndpoint (endpoint : RelayEndpointConfig) : RelayEndpointConfig :=
  { endpoint with
    relay := trim endpoint.relay
    url := trim endpoint.url
    telemetrySecretFile := (endpoint.telemetrySecretFile.map trim).filter fun path => !path.isEmpty }

def checkEndpointUrl (endpoint : RelayEndpointConfig) (parsed : Url) : Except String Unit :=
  ensure (parsed.scheme == "wss" && parsed.host == some .domain &&
      (parsed.path == "/ws/relay" || parsed.path == "/ws/telemetry") && parsed.query.isNone &&
      parsed.fragment.isNone && parsed.username.isEmpty && parsed.password.isNone)
    (endpointName endpoint ++ " must use a hostname and exact wss://.../ws/relay or " ++
      "wss://.../ws/telemetry URL without credentials, query, or fragment")

def checkTelemetrySecret (endpoint : RelayEndpointConfig) (telemetryEndpoint : Bool) :
    Except String Unit :=
  match endpoint.telemetrySecretFile, telemetryEndpoint with
  | some path, true =>
    ensure (isAbsolute path)
      (endpointName endpoint ++ " telemetry_secret_file must be an absolute path")
  | none, true =>
    .error (endpointName endpoint ++ " /ws/telemetry requires telemetry_secret_file")
  | some _, false =>
    .error (endpointName endpoint ++ " may set telemetry_secret_file only with /ws/telemetry")
  | none, false => .ok ()

def checkUdpPort (endpoint : RelayEndpointConfig) (telemetryEndpoint : Bool) :
    Except String Unit := do
  ensure (endpoint.fastMediaUdpPort != some 0)
    (endpointName endpoint ++ " fast_media_udp_port must be between 1 and 65535")
  ensure (endpoint.fastMediaUdpPort.isNone ||
      (telemetryEndpoint && endpoint.telemetrySecretFile.isSome))
    (endpointName endpoint ++
      " may declare fast_media_udp_port only on an authenticated /ws/telemetry endpoint")

def checkEndpoint (index : Nat) (relays urls : List String) (endpoint : RelayEndpointConfig) :
    Except String Unit := do
  ensure (!(endpoint.relay.isEmpty || endpoint.url.isEmpty))
    ("websocket_signal.relay_health.endpoints[" ++ toString index ++ "] has an empty relay or url")
  ensure (!relays.contains (toAsciiLowercase endpoint.relay))
    ("websocket_signal.relay_health contains duplicate relay '" ++ endpoint.relay ++ "'")
  ensure (!urls.contains (toAsciiLowercase endpoint.url))
    ("websocket_signal.relay_health contains duplicate URL '" ++ endpoint.url ++ "'")
  let parsed ← (env.parseUrl endpoint.url).mapError fun err =>
    endpointName endpoint ++ " has invalid URL: " ++ err
  let telemetryEndpoint := parsed.path == "/ws/telemetry"
  checkEndpointUrl endpoint parsed
  checkTelemetrySecret endpoint telemetryEndpoint
  checkUdpPort endpoint telemetryEndpoint

/-- The endpoints after those with the given relays and URLs. -/
def validateEndpoints :
    Nat → List String → List String → List RelayEndpointConfig →
      Except String (List RelayEndpointConfig)
  | _, _, _, [] => .ok []
  | index, relays, urls, endpoint :: rest => do
    let endpoint := trimmedEndpoint endpoint
    checkEndpoint env index relays urls endpoint
    return endpoint :: (← validateEndpoints (index + 1) (toAsciiLowercase endpoint.relay :: relays)
      (toAsciiLowercase endpoint.url :: urls) rest)

def validateRelayHealth (health : RelayHealthConfig) : Except String RelayHealthConfig := do
  ensure (inRange 5 3600 health.intervalSeconds)
    "websocket_signal.relay_health.interval_seconds must be between 5 and 3600"
  ensure (inRange 500 120000 health.timeoutMs)
    "websocket_signal.relay_health.timeout_ms must be between 500 and 120000"
  ensure (inRange 1 100 health.successThreshold && inRange 1 100 health.failureThreshold)
    "websocket_signal.relay_health thresholds must be between 1 and 100"
  ensure (decide (health.endpoints.length ≤ 256))
    "websocket_signal.relay_health.endpoints must not contain more than 256 Relays"
  let endpoints ← validateEndpoints env 0 [] [] health.endpoints
  return { health with endpoints }

def checkOrigin (origin : String) : Except String Unit := do
  let parsed ← (env.parseUrl origin).mapError fun err =>
    "websocket_signal.allowed_origins contains invalid origin '" ++ origin ++ "': " ++ err
  ensure ((parsed.scheme == "http" || parsed.scheme == "https") && parsed.hostStr.isSome &&
      parsed.path == "/" && parsed.query.isNone && parsed.fragment.isNone &&
      parsed.username.isEmpty && parsed.password.isNone)
    ("websocket_signal.allowed_origins entry '" ++ origin ++ "' must be an exact http(s) origin")

/-- The endpoints of enabled signalling are those of the configured relays. -/
def checkCoverage (relays relayServers : List String) : Except String Unit := do
  ensure (!relayServers.isEmpty) "websocket_signal.enabled is true but relay_servers is empty"
  let health := relays.map toAsciiLowercase
  let configured := relayServers.map toAsciiLowercase
  let missing := relayServers.filter fun relay => !health.contains (toAsciiLowercase relay)
  let unknown := relays.filter fun relay => !configured.contains (toAsciiLowercase relay)
  ensure (missing.isEmpty && unknown.isEmpty)
    ("websocket_signal.relay_health endpoints must cover relay_servers exactly; missing=" ++
      env.debug missing ++ ", unknown=" ++ env.debug unknown)

def validateWebsocketSignal (config : WebSocketSignalConfig) (relayServers : List String) :
    Except String WebSocketSignalConfig := do
  Routing.validateWebsocketSignal config.toWebSocketSignalConfig (.ok ())
  let trustedProxies ← normalizeUnique config.trustedProxies "websocket_signal.trusted_proxies"
  trustedProxies.forM fun cidr => (env.parseNetwork cidr).mapError fun err =>
    "websocket_signal.trusted_proxies contains invalid CIDR '" ++ cidr ++ "': " ++ err
  let allowedOrigins ← normalizeUnique config.allowedOrigins "websocket_signal.allowed_origins"
  allowedOrigins.forM (checkOrigin env)
  let relayHealth ← validateRelayHealth env config.relayHealth
  onlyIf config.enabled
    (checkCoverage env (relayHealth.endpoints.map fun endpoint => endpoint.relay) relayServers)
  return { config with trustedProxies, allowedOrigins, relayHealth }

end

end Starry.Config
