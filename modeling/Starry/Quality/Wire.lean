import Starry.Basic

/-!
# Relay quality: configuration and messages

The `relay_quality` section of the configuration and the protocol messages, with the fields that
`relay_quality.rs` reads or sets.
-/

namespace Starry.Quality

def protocolVersion : Nat := 1
def strategyAdaptive : Nat := 1
def strategyEager : Nat := 2
def stagePrimary : Nat := 1
def stageExpanded : Nat := 2
def stageEager : Nat := 3
def endpointController : Nat := 1
def endpointTarget : Nat := 2
def cancelP2pSucceeded : Nat := 1
def cancelClientAbort : Nat := 2
def scoreMax : Nat := 10000
def unknownLoadPenalty : Nat := 5000
def maxReportedRttMs : Nat := 120000
def primarySignalMarginMs : Nat := 500
def maxDeadlineDispatchesPerTick : Nat := 64

/-! ## Configuration -/

inductive Strategy
  | adaptive | eager
deriving DecidableEq, Repr

structure Weights where
  rtt : Nat
  jitter : Nat
  loss : Nat
  load : Nat
deriving DecidableEq, Repr

structure RelayQualityConfig where
  enabled : Bool := false
  strategy : Strategy := .adaptive
  maxCandidates : Nat := 3
  primaryProbeSamples : Nat := 3
  primaryAcceptScore : Nat := 8000
  primaryMaxLossBasisPoints : Nat := 500
  p2pProbeGraceMs : Nat := 300
  probeSamples : Nat := 5
  probeIntervalMs : Nat := 50
  probeTimeoutMs : Nat := 1000
  reportTimeoutMs : Nat := 15000
  allocationTtlSeconds : Nat := 30
  cacheTtlSeconds : Nat := 300
  maxAllocations : Nat := 10000
  hysteresisBasisPoints : Nat := 500
  missingReportPenaltyBasisPoints : Nat := 1000
  rttBadMs : Nat := 300
  jitterBadMs : Nat := 100
  weights : Weights := ⟨4000, 2000, 2500, 1500⟩
deriving DecidableEq, Repr

/-- `starry_config::active_snapshot`, as far as this module reads it. -/
structure Active where
  generation : Nat
  config : Option RelayQualityConfig

inductive RelayRequirement
  | nativeOnly | webSocketOnly | mixed
deriving DecidableEq, Repr

/-! ## Stages, roles and reasons -/

inductive Stage
  | primary | expanded | eager
deriving DecidableEq, Repr

def Stage.wire : Stage → Nat
  | .primary => stagePrimary
  | .expanded => stageExpanded
  | .eager => stageEager

inductive EndpointRole
  | controller | target
deriving DecidableEq, Repr

def EndpointRole.wire : EndpointRole → Nat
  | .controller => endpointController
  | .target => endpointTarget

def EndpointRole.fromWire (value : Nat) : Option EndpointRole :=
  if value = endpointController then some .controller
  else if value = endpointTarget then some .target
  else none

inductive DecisionReason
  | primaryAccepted | expandedBestScore | partialReport | hysteresis | legacyFallback | probeFailure
  | manualOverride
deriving DecidableEq, Repr

def DecisionReason.code : DecisionReason → Nat
  | .primaryAccepted => 1
  | .expandedBestScore => 2
  | .partialReport => 3
  | .hysteresis => 4
  | .legacyFallback => 5
  | .probeFailure => 6
  | .manualOverride => 7

theorem EndpointRole.fromWire_eq {value : Nat} {role : EndpointRole}
    (h : fromWire value = some role) : value = role.wire := by
  unfold fromWire at h
  split at h
  · cases h; assumption
  · split at h
    · cases h; assumption
    · cases h

/-! ## Messages -/

structure RelayQualityCandidate where
  relayServer : String
  probeUrl : String
deriving DecidableEq, Repr

structure RelayQualityOffer where
  protocolVersion : Nat
  allocationId : Bytes
  fallbackRelay : String
  candidates : List RelayQualityCandidate
  probeSamples : Nat
  probeIntervalMs : Nat
  reportTimeoutMs : Nat
  probeTimeoutMs : Nat
  strategy : Nat
  stage : Nat
  stageToken : Bytes
  stageDeadlineUnixMs : Nat
  totalDeadlineUnixMs : Nat
  primaryRelay : String
  p2pProbeGraceMs : Nat
deriving DecidableEq, Repr

structure RelayProbeResult where
  relayServer : String
  attempted : Nat
  succeeded : Nat
  rttMs : Nat
  jitterMs : Nat
deriving DecidableEq, Repr

structure RelayProbeReport where
  protocolVersion : Nat
  allocationId : Bytes
  results : List RelayProbeResult
  stage : Nat
  stageToken : Bytes
  endpointRole : Nat
deriving DecidableEq, Repr

structure RelayQualityScore where
  relayServer : String
  score : Nat
  rttPenalty : Nat
  jitterPenalty : Nat
  lossPenalty : Nat
  loadPenalty : Nat
  missingReports : Nat
deriving DecidableEq, Repr

structure RelayQualityDecision where
  protocolVersion : Nat
  allocationId : Bytes
  relayServer : String
  scores : List RelayQualityScore
  fallback : Bool
  reasonCode : Nat
  stage : Nat
  isPartial : Bool
deriving DecidableEq, Repr

structure RelayQualityCancel where
  protocolVersion : Nat
  allocationId : Bytes
  stage : Nat
  stageToken : Bytes
  reasonCode : Nat
  endpointRole : Nat
deriving DecidableEq, Repr

/-! ## Addresses -/

def normalizeIp : IpAddr → IpAddr
  | .v6 ip =>
    match toIpv4Mapped ip with
    | some v4 => .v4 v4
    | none => .v6 ip
  | .v4 ip => .v4 ip

def normalizeSocket (address : SocketAddr) : SocketAddr :=
  .new (normalizeIp address.ip) address.port

end Starry.Quality
