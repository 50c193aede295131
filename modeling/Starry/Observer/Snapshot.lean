import Starry.Quality.Wire

/-!
# The relay snapshot (`relay_observer.rs`)

The part of `RelayRuntimeSnapshot` from which an offer draws its candidates. The geographic
selection is a function of the snapshot.
-/

namespace Starry.Observer

open Starry.Quality (RelayRequirement)

structure WebSocketRuntimeStatus where
  url : Option String
  latencyMs : Option Nat
  loadBasisPoints : Option Nat
deriving DecidableEq, Repr

structure RelayRuntimeView where
  id : String
  qualityCandidate : Bool
  websocket : WebSocketRuntimeStatus
  eligibleFor : List String
deriving DecidableEq, Repr

structure RelayRuntimeSnapshot where
  configGeneration : Nat
  relays : List RelayRuntimeView
  relayPoolGeneration : Nat
  /-- `select_geo`: the ordered candidates of the rule that applies, if one does. -/
  selectGeo : IpAddr → IpAddr → List String → RelayRequirement → Option (List String)

namespace RelayRuntimeSnapshot

variable (s : RelayRuntimeSnapshot)

def isConsistent : Bool := s.relayPoolGeneration == s.configGeneration

def eligibleRelays (requirement : RelayRequirement) : List String :=
  (s.relays.filter fun relay =>
    match requirement with
    | .nativeOnly => relay.eligibleFor.any (· == "native")
    | .webSocketOnly => relay.eligibleFor.any (· == "wss")
    | .mixed => relay.eligibleFor.any (· == "mixed")).map (·.id)

end RelayRuntimeSnapshot

def findView (relays : List RelayRuntimeView) (relay : String) : Option RelayRuntimeView :=
  relays.find? fun view => eqIgnoreAsciiCase view.id relay

def boundedQualityViews (relays : List RelayRuntimeView) (ordered : List String)
    (fallback : String) (maximum : Nat) : List RelayRuntimeView :=
  let fallbackIsQualityCandidate := ((findView relays fallback).map (·.qualityCandidate)).getD false
  let ordered :=
    if fallbackIsQualityCandidate then
      match ordered.findIdx? fun relay => eqIgnoreAsciiCase relay fallback with
      | some index => ordered.rotateLeft index
      | none => ordered
    else ordered
  (ordered.filterMap fun relay =>
    (findView relays relay).filter fun view => view.qualityCandidate).take maximum

def RelayRuntimeSnapshot.qualityCandidates (s : RelayRuntimeSnapshot) (clientA clientB : IpAddr)
    (requirement : RelayRequirement) (fallback : String) (maximum : Nat) : List RelayRuntimeView :=
  let eligible := s.eligibleRelays requirement
  let ordered := (s.selectGeo clientA clientB eligible requirement).getD eligible
  boundedQualityViews s.relays ordered fallback maximum

/-! ## FastMedia endpoints -/

/-- An endpoint as it is configured under `websocket_signal.relay_health`. -/
structure RelayHealthEndpoint where
  relay : String
  fastMediaUdpPort : Option UInt16
deriving DecidableEq, Repr

structure RelayTelemetry where
  telemetrySchema : Nat
  fastMediaRelayUdp : Option Nat
  fastMediaUdpEnabled : Option Bool
  fastMediaUdpHealthy : Option Bool
  fastMediaUdpPort : Option UInt16
deriving DecidableEq, Repr

structure RuntimeEndpointSnapshot where
  state : String
  stale : Bool
  load : Option RelayTelemetry
deriving DecidableEq, Repr

/-- The health of the relays, under their lowercase names. -/
structure HealthRuntimeSnapshot where
  ready : Bool
  endpoints : String → Option RuntimeEndpointSnapshot

/-- Only `fast_media_endpoint` makes one, of a relay that reports protocol 1. -/
structure FastMediaRelayEndpoint where
  protocol : Nat
  udpPort : UInt16
  supported : protocol = 1
deriving DecidableEq, Repr

/-- What the telemetry of a relay has to say for its configured port. -/
def RelayTelemetry.offers (load : RelayTelemetry) (configuredPort : UInt16) : Bool :=
  decide (2 ≤ load.telemetrySchema) && load.fastMediaUdpEnabled == some true &&
  load.fastMediaUdpHealthy == some true && load.fastMediaUdpPort == some configuredPort &&
  configuredPort != 0

def fastMediaEndpoint (fastMediaV1Enabled : Bool) (endpoints : List RelayHealthEndpoint)
    (health : HealthRuntimeSnapshot) (relay : String) : Option FastMediaRelayEndpoint := do
  if !fastMediaV1Enabled then none
  let configured ← endpoints.find? fun endpoint => eqIgnoreAsciiCase endpoint.relay relay
  let configuredPort ← configured.fastMediaUdpPort
  if !health.ready then none
  let endpoint ← health.endpoints (toAsciiLowercase relay)
  let load ← endpoint.load
  let protocol ← load.fastMediaRelayUdp
  if h : protocol = 1 then
    if endpoint.state == "healthy" && !endpoint.stale && load.offers configuredPort then
      some { protocol, udpPort := configuredPort, supported := h }
    else none
  else none

end Starry.Observer
