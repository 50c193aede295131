import Starry.Enrollment.Records
import Starry.Library.Run
import Starry.RelayObserver.Snapshot

/-!
# Probing the relays (`websocket_signal/relay_health.rs`)

The health task connects to every configured endpoint and keeps what the last probe reported. An
endpoint with a telemetry secret answers with a signed envelope; without one, only the headers of
the upgrade are read. Times and texts of errors that no reader of the inventory checks are left out.
-/

open Library

namespace Starry.RelayHealth

open Starry.Enrollment (Env)
open Starry.RelayObserver (Status RelayLoadTelemetry RuntimeEndpointSnapshot RuntimeHealthSnapshot)

structure RelayEndpointConfig where
  relay : String
  url : String
  telemetrySecretFile : Option String
  fastMediaUdpPort : Option UInt16
deriving DecidableEq, Repr

structure RelayHealthConfig where
  endpoints : List RelayEndpointConfig
  successThreshold : Nat
  failureThreshold : Nat
deriving DecidableEq, Repr

/-! ## One probe -/

structure FastMediaTelemetryEnvelope where
  protocol : Nat
  enabled : Bool
  healthy : Bool
  udpPort : UInt16
deriving DecidableEq, Repr

structure TelemetryEnvelope where
  telemetrySchema : Nat
  processInstanceId : String
  sequence : Nat
  observedAtUnixMs : Nat
  uptimeSeconds : Nat
  version : String
  relayProbeProtocol : Nat
  relayLoadProtocol : Nat
  loadBasisPoints : Nat
  activeSessions : Nat
  capacitySessions : Nat
  bandwidthEmaAlphaBasisPoints : Nat
  capacityBandwidthBps : Nat
  draining : Bool
  admissionOpen : Bool
  fastMedia : Option FastMediaTelemetryEnvelope
deriving DecidableEq, Repr

/-- What a relay answered. The envelope is there once its signature, its base64 and its JSON have
been accepted. -/
structure Response where
  version : Option String
  relayProbeProtocol : Option Nat
  relayLoadProtocol : Option Nat
  telemetry : Except String TelemetryEnvelope

structure ProbeSuccess where
  latencyMs : Nat
  version : Option String
  relayProbeProtocol : Option Nat
  relayLoadProtocol : Option Nat
  load : Option RelayLoadTelemetry

def telemetryClockSkewMillis : Nat := 30000

def validateVersion (version : String) : Option String :=
  if version.isEmpty || decide (version.utf8ByteSize > 128) ||
      !(version.toList.all fun c =>
        c.isAlphanum || c == '.' || c == '_' || c == '+' || c == '-') then none
  else some version

def instanceValid (envelope : TelemetryEnvelope) : Bool :=
  !envelope.processInstanceId.isEmpty && decide (envelope.processInstanceId.utf8ByteSize ≤ 64) &&
    envelope.processInstanceId.toList.all fun c => c.isAlphanum || c == '-'

def schemaValid (envelope : TelemetryEnvelope) : Bool :=
  if envelope.telemetrySchema == 1 then envelope.fastMedia.isNone
  else if envelope.telemetrySchema == 2 then
    envelope.fastMedia.any fun fastMedia => fastMedia.protocol == 1 &&
      (!fastMedia.healthy || (fastMedia.enabled && decide (0 < fastMedia.udpPort))) &&
      (!fastMedia.enabled || decide (0 < fastMedia.udpPort))
  else false

def validateTelemetry (now : Nat) (envelope : TelemetryEnvelope) : Except String Unit :=
  if schemaValid envelope && instanceValid envelope && decide (0 < envelope.sequence) &&
      decide (envelope.observedAtUnixMs ≤ satAdd now telemetryClockSkewMillis) &&
      decide (0 < envelope.relayProbeProtocol) && decide (0 < envelope.relayLoadProtocol) &&
      decide (envelope.loadBasisPoints ≤ 10000) &&
      decide (envelope.activeSessions ≤ envelope.capacitySessions) &&
      decide (0 < envelope.capacitySessions) && decide (0 < envelope.capacityBandwidthBps) &&
      decide (1 ≤ envelope.bandwidthEmaAlphaBasisPoints) &&
      decide (envelope.bandwidthEmaAlphaBasisPoints ≤ 10000) &&
      envelope.admissionOpen ==
        (!envelope.draining && decide (envelope.activeSessions < envelope.capacitySessions)) then
    .ok ()
  else .error "telemetry_payload_invalid"

def TelemetryEnvelope.load (envelope : TelemetryEnvelope) : RelayLoadTelemetry :=
  { telemetrySchema := envelope.telemetrySchema
    processInstanceId := envelope.processInstanceId
    sequence := envelope.sequence
    observedAtUnixMs := envelope.observedAtUnixMs
    uptimeSeconds := envelope.uptimeSeconds
    loadBasisPoints := envelope.loadBasisPoints
    capacitySessions := envelope.capacitySessions
    capacityBandwidthBps := envelope.capacityBandwidthBps
    draining := envelope.draining
    fastMediaRelayUdp := envelope.fastMedia.map (·.protocol)
    fastMediaUdpEnabled := envelope.fastMedia.map (·.enabled)
    fastMediaUdpHealthy := envelope.fastMedia.map (·.healthy)
    fastMediaUdpPort := envelope.fastMedia.map (·.udpPort) }

def relayTelemetry (now : Nat) (response : Response) :
    Except String (String × Nat × Nat × RelayLoadTelemetry) := do
  let envelope ← response.telemetry
  validateTelemetry now envelope
  match validateVersion envelope.version with
  | none => throw "telemetry_payload_invalid"
  | some version =>
    return (version, envelope.relayProbeProtocol, envelope.relayLoadProtocol, envelope.load)

/-- A probe whose connection came to `connected` after `latencyMs`. -/
def probe (endpoint : RelayEndpointConfig) (now latencyMs : Nat)
    (connected : Except String Response) : Except String ProbeSuccess := do
  let response ← connected
  if endpoint.telemetrySecretFile.isSome then
    let (version, probeProtocol, loadProtocol, load) ← relayTelemetry now response
    if response.relayProbeProtocol != some probeProtocol ||
        response.relayLoadProtocol != some loadProtocol then
      throw "telemetry_capability_mismatch"
    return ⟨latencyMs, some version, some probeProtocol, some loadProtocol, some load⟩
  else
    return ⟨latencyMs, response.version.bind validateVersion, response.relayProbeProtocol,
      response.relayLoadProtocol, none⟩

/-! ## The state -/

structure EndpointState where
  status : Status := .unknown
  consecutiveSuccesses : Nat := 0
  consecutiveFailures : Nat := 0
  latencyMs : Option Nat := none
  version : Option String := none
  relayProbeProtocol : Option Nat := none
  relayLoadProtocol : Option Nat := none
  telemetryObservedUnixMillis : Option Nat := none
  telemetryInstanceId : Option String := none
  telemetrySequence : Option Nat := none
  telemetryUptimeSeconds : Option Nat := none
  load : Option RelayLoadTelemetry := none
deriving DecidableEq, Repr

structure HealthState where
  enabled : Bool
  generation : Nat
  completedGeneration : Nat
  snapshotId : Nat
  config : RelayHealthConfig
  endpoints : Table String EndpointState

/-- `HealthState::default` -/
def HealthState.initial : HealthState := ⟨false, 0, 0, 0, ⟨[], 0, 0⟩, .empty⟩

def reconfigure (enabled : Bool) (config : RelayHealthConfig) (s : HealthState) : HealthState :=
  { enabled
    generation := s.generation + 1
    completedGeneration := 0
    snapshotId := s.snapshotId + 1
    config
    endpoints := config.endpoints.foldl
      (fun table endpoint => table.insert (toAsciiLowercase endpoint.relay) {}) .empty }

def applyFailure (endpoint : EndpointState) (failureThreshold : Nat) : EndpointState :=
  let consecutiveFailures := min (endpoint.consecutiveFailures + 1) u32Max
  { endpoint with
    consecutiveFailures
    consecutiveSuccesses := 0
    latencyMs := none
    load := none
    telemetryObservedUnixMillis := none
    status := if consecutiveFailures ≥ failureThreshold then .unhealthy else endpoint.status }

/-- The relay did not restart, and its sequence or its uptime did not advance. -/
def isReplay (endpoint : EndpointState) (success : ProbeSuccess) : Bool :=
  match endpoint.telemetryInstanceId, success.load with
  | some previousInstance, some current =>
    previousInstance == current.processInstanceId &&
      (endpoint.telemetrySequence.any (fun sequence => decide (current.sequence ≤ sequence)) ||
        endpoint.telemetryUptimeSeconds.any fun uptime => decide (current.uptimeSeconds < uptime))
  | _, _ => false

def applySuccess (endpoint : EndpointState) (success : ProbeSuccess) (successThreshold : Nat) :
    EndpointState :=
  let consecutiveSuccesses := min (endpoint.consecutiveSuccesses + 1) u32Max
  let load := if success.relayProbeProtocol.getD 0 ≥ 1 ∧ success.relayLoadProtocol.getD 0 ≥ 1 then
    success.load else none
  { endpoint with
    consecutiveSuccesses
    consecutiveFailures := 0
    latencyMs := some success.latencyMs
    version := success.version
    relayProbeProtocol := success.relayProbeProtocol
    relayLoadProtocol := success.relayLoadProtocol
    load
    telemetryObservedUnixMillis := load.map (·.observedAtUnixMs)
    telemetryInstanceId := match load with
      | some load => some load.processInstanceId
      | none => endpoint.telemetryInstanceId
    telemetrySequence := match load with
      | some load => some load.sequence
      | none => endpoint.telemetrySequence
    telemetryUptimeSeconds := match load with
      | some load => some load.uptimeSeconds
      | none => endpoint.telemetryUptimeSeconds
    status := if consecutiveSuccesses ≥ successThreshold then .healthy else endpoint.status }

def recordResult (endpoint : EndpointState) (result : Except String ProbeSuccess)
    (successThreshold failureThreshold : Nat) : EndpointState :=
  match result with
  | .ok success =>
    if isReplay endpoint success then applyFailure endpoint failureThreshold
    else applySuccess endpoint success successThreshold
  | .error _ => applyFailure endpoint failureThreshold

/-- `record`, with the thresholds of the configuration that was probed. -/
def record (generation : Nat) (relay : String) (result : Except String ProbeSuccess)
    (s : HealthState) : HealthState :=
  if s.generation ≠ generation then s
  else match s.endpoints.get (toAsciiLowercase relay) with
    | none => s
    | some endpoint =>
      { s with
        snapshotId := s.snapshotId + 1
        endpoints := s.endpoints.insert (toAsciiLowercase relay)
          (recordResult endpoint result s.config.successThreshold s.config.failureThreshold) }

/-- The end of `run_cycle`. -/
def finishCycle (generation : Nat) (s : HealthState) : HealthState :=
  if s.generation = generation ∧ s.completedGeneration ≠ generation then
    { s with completedGeneration := generation, snapshotId := s.snapshotId + 1 }
  else s

/-! ## The snapshot -/

section Snapshot

variable (now maxTelemetryAgeSeconds : Nat)

def isStale (endpoint : EndpointState) : Bool :=
  endpoint.load.isNone || decide (endpoint.relayProbeProtocol.getD 0 < 1) ||
    decide (endpoint.relayLoadProtocol.getD 0 < 1) ||
    (endpoint.telemetryObservedUnixMillis.map fun observed =>
      decide ((now - observed) / 1000 > maxTelemetryAgeSeconds)).getD true

def endpointSnapshot (configured : RelayEndpointConfig) (endpoint : EndpointState) :
    RuntimeEndpointSnapshot :=
  { url := configured.url
    state := endpoint.status
    stale := isStale now maxTelemetryAgeSeconds endpoint
    latencyMs := endpoint.latencyMs
    version := endpoint.version
    relayProbeProtocol := endpoint.relayProbeProtocol
    relayLoadProtocol := endpoint.relayLoadProtocol
    telemetryInstanceId := endpoint.telemetryInstanceId
    telemetrySequence := endpoint.telemetrySequence
    load := endpoint.load }

def runtimeSnapshot (s : HealthState) : RuntimeHealthSnapshot :=
  { enabled := s.enabled
    generation := s.generation
    completedGeneration := s.completedGeneration
    snapshotId := s.snapshotId
    endpoints := s.config.endpoints.foldl (fun table configured =>
      table.insert (toAsciiLowercase configured.relay)
        (endpointSnapshot now maxTelemetryAgeSeconds configured
          ((s.endpoints.get (toAsciiLowercase configured.relay)).getD {}))) .empty }

end Snapshot

end Starry.RelayHealth
