import Starry.RelayObserver.Snapshot

/-!
# Selecting a relay, and explaining the selection

Production selects in `get_relay_server` and advances a rotation counter. The simulation and the
console explain the selection of the same inventory from the value of the counter.
-/

open Library

namespace Starry.RelayObserver

open Starry.Quality (RelayRequirement)

/-- What a selection reads and writes. -/
structure Production where
  snapshot : RelayRuntimeSnapshot
  /-- `ROTATION_RELAY_SERVER` -/
  rotation : Nat

/-! ## Production -/

/-- `fetch_add(1)`, which wraps. -/
def advanceRotation : StateM Production Nat := do
  let r := (← get).rotation
  modify fun p => { p with rotation := (r + 1) % 2 ^ 64 }
  return r

def getRelayServer (pa pb : IpAddr) (requirement : RelayRequirement) : StateM Production String := do
  let snapshot := (← get).snapshot
  if !snapshot.isConsistent then return ""
  let eligible := snapshot.eligibleRelays requirement
  match eligible with
  | [] => return ""
  | first :: others =>
    match snapshot.selectGeo pa pb eligible requirement with
    | some selection => return selection.relay
    | none =>
      if others.isEmpty then return first
      let i := (← advanceRotation) % eligible.length
      return eligible.getD i ""

/-! ## Explanation -/

structure MatchedRule where
  name : String
  index : Nat
  direction : String
  relayId : String
deriving DecidableEq, Repr

structure CandidateTrace where
  relayId : String
  configuredOrder : Nat
  priority : Option Nat
  eligible : Bool
  exclusionReason : Option String
deriving DecidableEq, Repr

structure SelectionTrace where
  kind : String
  relayId : Option String
  predictedIndex : Option Nat
  nonBinding : Bool
deriving DecidableEq, Repr

structure AllocationTrace where
  configGeneration : Nat
  healthSnapshotId : String
  matchedRule : Option MatchedRule
  candidates : List CandidateTrace
  selection : SelectionTrace
  warnings : List String
deriving DecidableEq, Repr

def candidateTrace (eligibleRelays : List String) (exclusionReasons : Table String String)
    (configuredOrder : Nat) (relay : String) : CandidateTrace :=
  let eligible := containsIgnoreCase eligibleRelays relay
  { relayId := relay, configuredOrder, eligible
    priority := (eligibleRelays.findIdx? fun candidate => eqIgnoreAsciiCase candidate relay).map
      (· + 1)
    exclusionReason :=
      if eligible then none
      else some ((exclusionReasons.get (toAsciiLowercase relay)).getD
        "transport_or_health_ineligible") }

def explainSelection (eligibleRelays : List String) (matchedRule : Option MatchedRule)
    (rotationSnapshot : Nat) : SelectionTrace :=
  match matchedRule with
  | some rule =>
    if containsIgnoreCase eligibleRelays rule.relayId then
      ⟨"geo_rule", some rule.relayId, none, true⟩
    else ⟨"no_eligible_relay", none, none, true⟩
  | none =>
    match eligibleRelays with
    | [] => ⟨"no_eligible_relay", none, none, true⟩
    | [relay] => ⟨"single_candidate", some relay, some 0, true⟩
    | relays =>
      let predicted := rotationSnapshot % relays.length
      ⟨"rotation_prediction", relays[predicted]?, some predicted, true⟩

def explainRelaySelection (configuredRelays eligibleRelays : List String)
    (matchedRule : Option MatchedRule) (rotationSnapshot configGeneration : Nat)
    (healthSnapshotId : String) (exclusionReasons : Table String String) : AllocationTrace :=
  { configGeneration, healthSnapshotId, matchedRule
    candidates := configuredRelays.mapIdx (candidateTrace eligibleRelays exclusionReasons)
    selection := explainSelection eligibleRelays matchedRule rotationSnapshot
    warnings :=
      ["Simulation is non-binding and did not register clients or establish an HBBR session"] }

/-- The explanation of a consistent inventory: the common end of `simulate` and
`explain_relay_server`. -/
def RelayRuntimeSnapshot.explain (s : RelayRuntimeSnapshot) (clientA clientB : IpAddr)
    (requirement : RelayRequirement) (rotationSnapshot : Nat) : AllocationTrace :=
  let eligible := s.eligibleRelays requirement
  let matchedRule := (s.selectGeo clientA clientB eligible requirement).map fun selection =>
    ⟨selection.ruleName, selection.ruleIndex, selection.direction.name, selection.relay⟩
  explainRelaySelection s.configuredRelays eligible matchedRule rotationSnapshot
    s.configGeneration s.healthSnapshotId (s.exclusionReasons requirement)

def notSynchronized : String :=
  "Relay pool and active configuration generations are not synchronized"

structure SimulationError where
  code : String
  detail : String
  retryable : Bool
deriving DecidableEq, Repr

structure SimulationRequest where
  clientA : String
  clientB : String
  transport : String
  expectedConfigGeneration : Option Nat
deriving DecidableEq, Repr

def parseRequirement (value : Option String) : Option RelayRequirement :=
  match value.map toAsciiLowercase with
  | none | some "native" => some .nativeOnly
  | some "wss" | some "websocket" => some .webSocketOnly
  | some "mixed" => some .mixed
  | _ => none

/-- What a request asks for. `parseIp` is `IpAddr::from_str`. -/
def SimulationRequest.parse (parseIp : String → Option IpAddr) (request : SimulationRequest) :
    Except SimulationError (IpAddr × IpAddr × RelayRequirement) :=
  match parseIp request.clientA with
  | none => .error ⟨"IP_INVALID", "client_a.ip is not a valid IPv4 or IPv6 address", false⟩
  | some a =>
    match parseIp request.clientB with
    | none => .error ⟨"IP_INVALID", "client_b.ip is not a valid IPv4 or IPv6 address", false⟩
    | some b =>
      match parseRequirement (some request.transport) with
      | none => .error ⟨"TRANSPORT_INVALID", "transport must be native, wss, or mixed", false⟩
      | some requirement => .ok (a, b, requirement)

/-- The answer to `allocation.simulate`. The parameters are decoded by `serde_json`, with the text
of its error. -/
def simulate (parseIp : String → Option IpAddr) (params : Except String SimulationRequest) :
    StateM Production (Except SimulationError AllocationTrace) := do
  let p ← get
  match params with
  | .error err =>
    return .error ⟨"REQUEST_INVALID", "invalid allocation simulation request: " ++ err, false⟩
  | .ok request =>
    match request.parse parseIp with
    | .error error => return .error error
    | .ok (clientA, clientB, requirement) =>
      if !p.snapshot.isConsistent then
        return .error ⟨"STARRY_NOT_READY", notSynchronized, true⟩
      if let some expected := request.expectedConfigGeneration then
        if expected ≠ p.snapshot.configGeneration then
          return .error ⟨"PLAN_STALE", "expected configuration generation " ++ toString expected ++
            ", active generation is " ++ toString p.snapshot.configGeneration, false⟩
      return .ok (p.snapshot.explain clientA clientB requirement p.rotation)

/-! ## Agreement -/

section Agreement

variable {p : Production} {a b : IpAddr} {requirement : RelayRequirement}

end Agreement

/-! ## A concrete inventory -/

end Starry.RelayObserver
