import Starry.Observer.Snapshot
import Starry.RelayObserver.Geo
import Starry.Library.Table

/-!
# The relay inventory (`relay_observer.rs`)

`build_snapshot` puts the active configuration, the relay pool and the relay health together. Of the
telemetry, only the values that some reader of the inventory checks are kept.
-/

open Library

namespace Starry.RelayObserver

open Starry.Quality (RelayRequirement)

/-! ## Configuration, pool and health -/

structure RelayEndpointConfig where
  relay : String
  url : String
  fastMediaUdpPort : Option UInt16
deriving DecidableEq, Repr

structure GeoRuleConfig where
  name : String
  relays : List String
deriving DecidableEq, Repr

/-- The parts of `StarryConfig` that the inventory reads. -/
structure StarryConfig where
  websocketSignalEnabled : Bool
  endpoints : List RelayEndpointConfig
  legacyFallbackRelays : List String
  geoRules : List GeoRuleConfig
deriving DecidableEq, Repr

structure ActiveConfigSnapshot where
  generation : Nat
  config : Option StarryConfig
deriving DecidableEq, Repr

structure RelayPoolState where
  generation : Nat
  configured : List String
  nativeOnline : List String
deriving DecidableEq, Repr

inductive Status
  | unknown | healthy | unhealthy
deriving DecidableEq, Repr

def Status.name : Status → String
  | .unknown => "unknown"
  | .healthy => "healthy"
  | .unhealthy => "unhealthy"

structure RelayLoadTelemetry where
  telemetrySchema : Nat
  processInstanceId : String
  sequence : Nat
  observedAtUnixMs : Nat
  uptimeSeconds : Nat
  loadBasisPoints : Nat
  capacitySessions : Nat
  capacityBandwidthBps : Nat
  draining : Bool
  fastMediaRelayUdp : Option Nat
  fastMediaUdpEnabled : Option Bool
  fastMediaUdpHealthy : Option Bool
  fastMediaUdpPort : Option UInt16
deriving DecidableEq, Repr

structure RuntimeEndpointSnapshot where
  url : String
  state : Status
  stale : Bool
  latencyMs : Option Nat
  version : Option String
  relayProbeProtocol : Option Nat
  relayLoadProtocol : Option Nat
  telemetryInstanceId : Option String
  telemetrySequence : Option Nat
  load : Option RelayLoadTelemetry
deriving DecidableEq, Repr

/-- The health of the relays, under their lowercase names. -/
structure RuntimeHealthSnapshot where
  enabled : Bool
  generation : Nat
  completedGeneration : Nat
  snapshotId : Nat
  endpoints : Table String RuntimeEndpointSnapshot

namespace RuntimeHealthSnapshot

variable (health : RuntimeHealthSnapshot)

def isReady : Bool := health.enabled && health.completedGeneration == health.generation

def endpoint (relay : String) : Option RuntimeEndpointSnapshot :=
  health.endpoints.get (toAsciiLowercase relay)

def isHealthy (relay : String) : Bool :=
  health.isReady && ((health.endpoint relay).map fun endpoint =>
    endpoint.state == .healthy).getD false

end RuntimeHealthSnapshot

/-! ## Views -/

structure NativeRuntimeStatus where
  state : String
deriving DecidableEq, Repr

structure WebSocketRuntimeStatus where
  configured : Bool
  url : Option String
  state : String
  stale : Bool
  latencyMs : Option Nat
  telemetrySchema : Option Nat
  processInstanceId : Option String
  telemetrySequence : Option Nat
  loadBasisPoints : Option Nat
  capacitySessions : Option Nat
  capacityBandwidthBps : Option Nat
  draining : Option Bool
deriving DecidableEq, Repr

structure RelayCapabilities where
  relayProbeProtocol : Option Nat
  relayLoadProtocol : Option Nat
  fastMediaRelayUdp : Option Nat
deriving DecidableEq, Repr

structure FastMediaUdpRuntimeStatus where
  configuredPort : Option UInt16
  reportedPort : Option UInt16
  enabled : Option Bool
  healthy : Option Bool
deriving DecidableEq, Repr

structure RelayRuntimeView where
  id : String
  version : Option String
  capabilities : RelayCapabilities
  qualityCandidate : Bool
  configuredOrder : Nat
  native : NativeRuntimeStatus
  websocket : WebSocketRuntimeStatus
  fastMediaUdp : FastMediaUdpRuntimeStatus
  eligibleFor : List String
  referencedByRules : List String
deriving DecidableEq, Repr

structure RelayRuntimeSnapshot where
  configGeneration : Nat
  healthSnapshotId : String
  relays : List RelayRuntimeView
  relayPoolGeneration : Nat
  geo : GeoState

/-! ## Building the inventory -/

/-- `str::strip_suffix` -/
def stripSuffix (value suffix : String) : Option String :=
  if suffix.toList.isSuffixOf value.toList then
    some (String.ofList (value.toList.take (value.length - suffix.length)))
  else none

/-- The address a client connects to, by the address of the telemetry. -/
def publicProbeUrl (telemetryUrl : String) : String :=
  ((stripSuffix telemetryUrl "/ws/telemetry").map (· ++ "/ws/relay")).getD telemetryUrl

/-- The names of the rules that refer to each relay. -/
def ruleReferences (config : Option StarryConfig) : Table String (List String) :=
  match config with
  | none => .empty
  | some config => config.geoRules.foldl (fun references rule => rule.relays.foldl
      (fun references relay =>
        let key := toAsciiLowercase relay
        references.insert key ((references.get key).getD [] ++ [rule.name])) references) .empty

def containsIgnoreCase (relays : List String) (relay : String) : Bool :=
  (relays.map toAsciiLowercase).contains (toAsciiLowercase relay)

section Build

variable (active : ActiveConfigSnapshot) (pool : RelayPoolState) (health : RuntimeHealthSnapshot)

def websocketState (relay : String) : String :=
  if !health.enabled then "disabled"
  else if !health.isReady || (health.endpoint relay).isNone then "unknown"
  else ((health.endpoint relay).map fun endpoint => endpoint.state.name).getD "unknown"

def isQualityCandidate (relay : String) : Bool :=
  !containsIgnoreCase ((active.config.map (·.legacyFallbackRelays)).getD []) relay &&
  ((health.endpoint relay).map fun endpoint =>
    endpoint.state == .healthy && decide (endpoint.relayProbeProtocol.getD 0 ≥ 1) &&
    decide (endpoint.relayLoadProtocol.getD 0 ≥ 1) && !endpoint.stale &&
    endpoint.load.isSome).getD false

def isNativeOnline (relay : String) : Bool := containsIgnoreCase pool.nativeOnline relay

def isWebsocketHealthy (relay : String) : Bool :=
  ((active.config.map (·.websocketSignalEnabled)).getD false) && health.isHealthy relay

def eligibleTransports (native websocketHealthy : Bool) : List String :=
  (if native then ["native"] else []) ++ (if websocketHealthy then ["wss"] else []) ++
    (if native && websocketHealthy then ["mixed"] else [])

def configuredFastMediaPort (relay : String) : Option UInt16 := do
  let config ← active.config
  let configured ← config.endpoints.find? fun configured => eqIgnoreAsciiCase configured.relay relay
  configured.fastMediaUdpPort

def buildView (configuredOrder : Nat) (relay : String) (referencedByRules : List String) :
    RelayRuntimeView :=
  let endpoint := health.endpoint relay
  let load := endpoint.bind (·.load)
  let native := isNativeOnline pool relay
  { id := relay
    version := endpoint.bind (·.version)
    capabilities :=
      { relayProbeProtocol := endpoint.bind (·.relayProbeProtocol)
        relayLoadProtocol := endpoint.bind (·.relayLoadProtocol)
        fastMediaRelayUdp := load.bind (·.fastMediaRelayUdp) }
    qualityCandidate := isQualityCandidate active health relay
    configuredOrder
    native := ⟨if native then "online" else "offline"⟩
    websocket :=
      { configured := endpoint.isSome
        url := endpoint.map fun endpoint => publicProbeUrl endpoint.url
        state := websocketState health relay
        stale := (endpoint.map (·.stale)).getD true
        latencyMs := endpoint.bind (·.latencyMs)
        telemetrySchema := load.map (·.telemetrySchema)
        processInstanceId := endpoint.bind (·.telemetryInstanceId)
        telemetrySequence := endpoint.bind (·.telemetrySequence)
        loadBasisPoints := load.map (·.loadBasisPoints)
        capacitySessions := load.map (·.capacitySessions)
        capacityBandwidthBps := load.map (·.capacityBandwidthBps)
        draining := load.map (·.draining) }
    fastMediaUdp :=
      { configuredPort := configuredFastMediaPort active relay
        reportedPort := load.bind (·.fastMediaUdpPort)
        enabled := load.bind (·.fastMediaUdpEnabled)
        healthy := load.bind (·.fastMediaUdpHealthy) }
    eligibleFor := eligibleTransports native (isWebsocketHealthy active health relay)
    referencedByRules }

/-- The views of the relays from the given position on. A relay that is listed again finds the
references taken. -/
def buildViews : Nat → Table String (List String) → List String → List RelayRuntimeView
  | _, _, [] => []
  | order, references, relay :: rest =>
    buildView active pool health order relay
        ((references.get (toAsciiLowercase relay)).getD []) ::
      buildViews (order + 1) (references.remove (toAsciiLowercase relay)) rest

def buildSnapshot (geo : GeoState) : RelayRuntimeSnapshot :=
  { configGeneration := active.generation
    healthSnapshotId := "health-" ++ toString health.snapshotId
    relays := buildViews active pool health 0 (ruleReferences active.config) pool.configured
    relayPoolGeneration := pool.generation
    geo }

end Build

/-! ## Reading it -/

namespace RelayRuntimeSnapshot

variable (s : RelayRuntimeSnapshot)

def isConsistent : Bool := s.relayPoolGeneration == s.configGeneration

def eligibleRelays (requirement : RelayRequirement) : List String :=
  (s.relays.filter fun relay =>
    match requirement with
    | .nativeOnly => relay.eligibleFor.any (· == "native")
    | .webSocketOnly => relay.eligibleFor.any (· == "wss")
    | .mixed => relay.eligibleFor.any (· == "mixed")).map (·.id)

def configuredRelays : List String := s.relays.map (·.id)

def exclusionReason (relayId : String) (requirement : RelayRequirement) : Option String := do
  let relay ← s.relays.find? fun relay => eqIgnoreAsciiCase relay.id relayId
  let native := relay.native.state == "online"
  let websocket := relay.websocket.state == "healthy"
  match requirement with
  | .nativeOnly => if !native then some "native_unavailable" else none
  | .webSocketOnly =>
    if !relay.websocket.configured then some "wss_not_configured"
    else if !websocket then some "wss_unhealthy" else none
  | .mixed =>
    if !native then some "native_unavailable"
    else if !relay.websocket.configured then some "wss_not_configured"
    else if !websocket then some "wss_unhealthy" else none

def exclusionReasons (requirement : RelayRequirement) : Table String String :=
  s.relays.foldl (fun reasons relay =>
    match s.exclusionReason relay.id requirement with
    | some reason => reasons.insert (toAsciiLowercase relay.id) reason
    | none => reasons) .empty

def selectGeo (clientA clientB : IpAddr) (eligibleRelays : List String)
    (requirement : RelayRequirement) : Option GeoRelaySelection :=
  s.geo.select clientA clientB eligibleRelays requirement

end RelayRuntimeSnapshot

/-! ## The part that an offer reads -/

def RelayRuntimeView.offered (view : RelayRuntimeView) : Observer.RelayRuntimeView :=
  { id := view.id, qualityCandidate := view.qualityCandidate, eligibleFor := view.eligibleFor
    websocket := ⟨view.websocket.url, view.websocket.latencyMs, view.websocket.loadBasisPoints⟩ }

def RelayRuntimeSnapshot.offered (s : RelayRuntimeSnapshot) : Observer.RelayRuntimeSnapshot :=
  { configGeneration := s.configGeneration, relayPoolGeneration := s.relayPoolGeneration
    relays := s.relays.map RelayRuntimeView.offered
    selectGeo := fun clientA clientB eligible requirement =>
      (s.selectGeo clientA clientB eligible requirement).map (·.candidates) }

/-- Both see the same relays. -/
theorem RelayRuntimeSnapshot.offered_eligibleRelays (s : RelayRuntimeSnapshot)
    (requirement : RelayRequirement) :
    s.offered.eligibleRelays requirement = s.eligibleRelays requirement := by
  unfold Observer.RelayRuntimeSnapshot.eligibleRelays eligibleRelays offered
  rw [List.filter_map, List.map_map]
  rfl

end Starry.RelayObserver
