import Starry.Library.Table
import Starry.Quality.Wire

/-!
# Relay quality: one allocation

An allocation, the reports it collects and the decision they lead to. Everything here is a
function of the allocation; the tables come in `State`.
-/

open Library

namespace Starry.Quality

/-! ## Data -/

structure CandidateState where
  relay : String
  serverRttMs : Option Nat
  loadBasisPoints : Option Nat
  controllerWire : RelayQualityCandidate
  targetWire : RelayQualityCandidate
deriving DecidableEq, Repr

structure Metric where
  attempted : Nat
  succeeded : Nat
  rttMs : Nat
  jitterMs : Nat
deriving DecidableEq, Repr

structure ValidatedReport where
  metrics : Table String Metric
  wire : RelayProbeReport
deriving DecidableEq

structure StageReports where
  primaryController : Option ValidatedReport := none
  primaryTarget : Option ValidatedReport := none
  expandedController : Option ValidatedReport := none
  expandedTarget : Option ValidatedReport := none
  eagerController : Option ValidatedReport := none
  eagerTarget : Option ValidatedReport := none
deriving DecidableEq

def StageReports.get (r : StageReports) : Stage → EndpointRole → Option ValidatedReport
  | .primary, .controller => r.primaryController
  | .primary, .target => r.primaryTarget
  | .expanded, .controller => r.expandedController
  | .expanded, .target => r.expandedTarget
  | .eager, .controller => r.eagerController
  | .eager, .target => r.eagerTarget

/-- Writes through `slot_mut`. -/
def StageReports.set (r : StageReports) (v : Option ValidatedReport) :
    Stage → EndpointRole → StageReports
  | .primary, .controller => { r with primaryController := v }
  | .primary, .target => { r with primaryTarget := v }
  | .expanded, .controller => { r with expandedController := v }
  | .expanded, .target => { r with expandedTarget := v }
  | .eager, .controller => { r with eagerController := v }
  | .eager, .target => { r with eagerTarget := v }

structure RouteKey where
  initiator : SocketAddr
  targetIp : IpAddr
deriving DecidableEq, Repr

structure Allocation where
  created : Instant
  totalDeadline : Instant
  totalDeadlineUnixMs : Nat
  stageDeadline : Instant
  stageDeadlineUnixMs : Nat
  configGeneration : Nat
  initiatorRoute : SocketAddr
  initiatorIp : IpAddr
  targetRoute : SocketAddr
  targetIp : IpAddr
  targetId : String
  targetWebsocket : Bool
  requirement : RelayRequirement
  fallbackRelay : String
  primaryRelay : String
  allocationId : Bytes
  stageToken : Bytes
  stage : Stage
  candidates : List CandidateState
  config : RelayQualityConfig
  reports : StageReports
  pendingUuid : Option String
deriving DecidableEq

def Allocation.routeKey (a : Allocation) : RouteKey := ⟨a.initiatorRoute, a.targetIp⟩

/-- The bytes of a `Uuid::now_v7`. -/
abbrev Uuid := { b : Bytes // b.length = 16 }

/-! ## Sources -/

def sourceMatches (a : Allocation) (route : SocketAddr) (ip : IpAddr) : EndpointRole → Bool
  | .controller => a.initiatorRoute == route && a.initiatorIp == ip
  | .target => a.targetRoute == route && a.targetIp == ip

/-- A native target may answer the first offer from another port of its address. -/
def initialResponseSourceMatches (a : Allocation) (route : SocketAddr) (ip : IpAddr)
    (targetId : String) : Bool :=
  let route := normalizeSocket route
  let ip := normalizeIp ip
  if a.targetId != targetId then false
  else if sourceMatches a route ip .target then true
  else !a.targetWebsocket && a.targetIp == ip &&
    normalizeIp route.ip == normalizeIp a.targetRoute.ip

/-! ## Stages -/

def stageCandidateIndices (stage : Stage) (count : Nat) : List Nat :=
  match stage with
  | .primary => if count > 0 then [0] else []
  | .expanded => List.range' 1 (count - 1)
  | .eager => List.range count

def stageCandidates (a : Allocation) : List CandidateState :=
  (stageCandidateIndices a.stage a.candidates.length).filterMap fun i => a.candidates[i]?

def stageSamples (a : Allocation) : Nat :=
  match a.stage with
  | .primary => a.config.primaryProbeSamples
  | .expanded | .eager => a.config.probeSamples

def offerFor (a : Allocation) (role : EndpointRole) : RelayQualityOffer :=
  { protocolVersion := protocolVersion
    allocationId := a.allocationId
    fallbackRelay := a.fallbackRelay
    candidates := (stageCandidates a).map fun c =>
      match role with
      | .controller => c.controllerWire
      | .target => c.targetWire
    probeSamples := stageSamples a
    probeIntervalMs := a.config.probeIntervalMs
    reportTimeoutMs := a.config.reportTimeoutMs
    probeTimeoutMs := a.config.probeTimeoutMs
    strategy := match a.config.strategy with
      | .adaptive => strategyAdaptive
      | .eager => strategyEager
    stage := a.stage.wire
    stageToken := a.stageToken
    stageDeadlineUnixMs := a.stageDeadlineUnixMs
    totalDeadlineUnixMs := a.totalDeadlineUnixMs
    primaryRelay := a.primaryRelay
    p2pProbeGraceMs := if a.stage = .primary then a.config.p2pProbeGraceMs else 0 }

def probeWindowMs (samples timeoutMs intervalMs : Nat) : Nat :=
  satAdd (satMul samples timeoutMs) (satMul (samples - 1) intervalMs)

def primaryStageBudgetMs (c : RelayQualityConfig) : Nat :=
  let endpointWindow := satAdd c.p2pProbeGraceMs
    (probeWindowMs c.primaryProbeSamples c.probeTimeoutMs c.probeIntervalMs)
  satAdd (satMul endpointWindow 2) primarySignalMarginMs

/-- The clock is far enough from its end for `checked_add` to succeed. -/
def checkedDeadline (created : Instant) (milliseconds : Nat) : Instant :=
  created + millis milliseconds

def transitionToExpanded (a : Allocation) (token : Uuid) : Allocation :=
  { a with stage := .expanded, stageToken := token.val, stageDeadline := a.totalDeadline,
           stageDeadlineUnixMs := a.totalDeadlineUnixMs }

/-! ## Reports -/

inductive ReportRejection
  | late | invalid | stageMismatch
deriving DecidableEq, Repr

inductive StoreReportResult
  | accepted | duplicate | conflict
deriving DecidableEq, Repr

/-- The checks on one result, apart from its name. -/
def resultInvalid (expectedSamples : Nat) (r : RelayProbeResult) : Bool :=
  r.attempted != expectedSamples || decide (r.succeeded > r.attempted) ||
  decide (r.rttMs > maxReportedRttMs) || decide (r.jitterMs > maxReportedRttMs) ||
  (decide (r.succeeded > 0) && r.rttMs == 0) ||
  (decide (r.succeeded < 2) && r.jitterMs != 0) ||
  (r.succeeded == 0 && (r.rttMs != 0 || r.jitterMs != 0))

/-- What the loop of `validate_report` has left to expect, and what it has collected. -/
structure Validation where
  expected : Finset String
  metrics : Table String Metric
  wire : List RelayProbeResult

def validateResult (a : Allocation) (v : Validation) (r : RelayProbeResult) : Option Validation :=
  let key := toAsciiLowercase r.relayServer
  if key ∉ v.expected || (v.metrics.get key).isSome || resultInvalid (stageSamples a) r then none
  else
    match a.candidates.find? fun c => eqIgnoreAsciiCase c.relay r.relayServer with
    | none => none
    | some c =>
      some { expected := v.expected.erase key
             metrics := v.metrics.insert key ⟨r.attempted, r.succeeded, r.rttMs, r.jitterMs⟩
             wire := v.wire ++ [{ r with relayServer := c.relay }] }

def validateReport (report : RelayProbeReport) (a : Allocation) (role : EndpointRole) :
    Option ValidatedReport :=
  if report.results.length ≠ (stageCandidateIndices a.stage a.candidates.length).length then none
  else
    let expected := ((stageCandidates a).map fun c => toAsciiLowercase c.relay).toFinset
    match report.results.foldlM (validateResult a) ⟨expected, .empty, []⟩ with
    | none => none
    | some v =>
      if v.expected ≠ ∅ then none
      else some ⟨v.metrics,
        { protocolVersion := protocolVersion, allocationId := a.allocationId, results := v.wire,
          stage := a.stage.wire, stageToken := a.stageToken, endpointRole := role.wire }⟩

def validateReportUntil (report : RelayProbeReport) (a : Allocation) (role : EndpointRole)
    (receivedAt : Instant) : Except ReportRejection ValidatedReport :=
  if report.protocolVersion ≠ protocolVersion ∨ report.allocationId ≠ a.allocationId then
    .error .invalid
  else if report.stage ≠ a.stage.wire ∨ report.stageToken ≠ a.stageToken ∨
      report.endpointRole ≠ role.wire then
    .error .stageMismatch
  else if receivedAt > a.stageDeadline ∨ receivedAt > a.totalDeadline then .error .late
  else
    match validateReport report a role with
    | some v => .ok v
    | none => .error .invalid

def storeReport (slot : Option ValidatedReport) (report : ValidatedReport) :
    StoreReportResult × Option ValidatedReport :=
  match slot with
  | none => (.accepted, some report)
  | some existing =>
    if existing.wire = report.wire then (.duplicate, some existing) else (.conflict, some existing)

/-- `store_report` into the slot of the current stage. -/
def Allocation.store (a : Allocation) (role : EndpointRole) (report : ValidatedReport) :
    StoreReportResult × Allocation :=
  let stored := storeReport (a.reports.get a.stage role) report
  (stored.1, { a with reports := a.reports.set stored.2 a.stage role })

def expandedReady (a : Allocation) : Bool :=
  let controllerReady := a.reports.expandedController.isSome
  let targetParticipates := a.reports.primaryTarget.isSome || a.reports.expandedTarget.isSome
  controllerReady && (!targetParticipates || a.reports.expandedTarget.isSome)

def eagerReady (a : Allocation) : Bool :=
  let controllerReady := a.reports.eagerController.isSome
  let targetParticipates := a.reports.eagerTarget.isSome
  controllerReady && (!targetParticipates || a.reports.eagerTarget.isSome)

def stageReportCount (a : Allocation) (stage : Stage) : Nat :=
  ([EndpointRole.controller, .target].filter fun role => (a.reports.get stage role).isSome).length

/-! ## Scores -/

def lossBasisPoints (m : Metric) : Nat :=
  min ((m.attempted - m.succeeded) * scoreMax) u32Max / max m.attempted 1

def normalizedPenalty (value bad : Nat) : Nat :=
  min (satMul value scoreMax / max bad 1) scoreMax

def scoreCandidate (c : CandidateState) (controller target : Option Metric)
    (config : RelayQualityConfig) : RelayQualityScore :=
  let metrics := [controller, target].filterMap id
  let losses := metrics.map lossBasisPoints
  let answered := metrics.filter fun m => decide (m.succeeded > 0)
  let rtts := answered.map (·.rttMs)
  let jitters := answered.map (·.jitterMs)
  let missingReports := 2 - metrics.length
  let effectiveRtt :=
    match rtts with
    | [] => c.serverRttMs.getD config.rttBadMs
    | [one] => one
    | _ => min (satAdd (satMul (rtts.foldl max 0) 2) rtts.sum / 4) u32Max
  let rttPenalty := normalizedPenalty effectiveRtt config.rttBadMs
  let jitterPenalty := normalizedPenalty (jitters.foldl max 0) config.jitterBadMs
  let lossPenalty := min (losses.foldl max 0) scoreMax
  let loadPenalty := min (c.loadBasisPoints.getD unknownLoadPenalty) scoreMax
  let weighted := (rttPenalty * config.weights.rtt + jitterPenalty * config.weights.jitter +
    lossPenalty * config.weights.loss + loadPenalty * config.weights.load) / scoreMax
  let missing := satMul missingReports config.missingReportPenaltyBasisPoints
  let totalPenalty := min (satAdd weighted missing) scoreMax
  { relayServer := c.relay, score := scoreMax - totalPenalty, rttPenalty, jitterPenalty,
    lossPenalty, loadPenalty, missingReports }

def candidateIsViable (controller target : Option Metric) (targetRequired : Bool) : Bool :=
  (controller.map fun m => decide (m.succeeded > 0)).getD false &&
  (target.map fun m => decide (m.succeeded > 0)).getD (!targetRequired)

def sortedScores (scores : List RelayQualityScore) : List RelayQualityScore :=
  scores.insertionSort fun l r =>
    r.score < l.score ∨ r.score = l.score ∧ l.relayServer ≤ r.relayServer

/-! ## The cache key -/

/-- The first three or seven octets of an address. -/
inductive NetworkPrefix
  | v4 (octets : BitVec 24)
  | v6 (octets : BitVec 56)
deriving DecidableEq, Repr

/-- The derived order: variants first, then octets. -/
def NetworkPrefix.le : NetworkPrefix → NetworkPrefix → Bool
  | .v4 a, .v4 b => decide (a ≤ b)
  | .v4 _, .v6 _ => true
  | .v6 _, .v4 _ => false
  | .v6 a, .v6 b => decide (a ≤ b)

structure CacheKey where
  endpointA : NetworkPrefix
  endpointB : NetworkPrefix
  requirement : Nat
deriving DecidableEq, Repr

def networkPrefix (ip : IpAddr) : NetworkPrefix :=
  match normalizeIp ip with
  | .v4 ip => .v4 (ip.extractLsb' 8 24)
  | .v6 ip => .v6 (ip.extractLsb' 72 56)

def cacheKey (clientA clientB : IpAddr) (requirement : RelayRequirement) : CacheKey :=
  let a := networkPrefix clientA
  let b := networkPrefix clientB
  let requirement :=
    match requirement with
    | .nativeOnly => 0
    | .webSocketOnly => 1
    | .mixed => 2
  if a.le b then ⟨a, b, requirement⟩ else ⟨b, a, requirement⟩

structure CachedSelection where
  relay : String
  created : Instant
deriving DecidableEq, Repr

/-! ## Decisions -/

def ValidatedReport.metric (r : Option ValidatedReport) (c : CandidateState) : Option Metric :=
  r.bind fun report => report.metrics.get (toAsciiLowercase c.relay)

def primaryIsGoodEnough (a : Allocation) : Bool :=
  match a.candidates.head? with
  | none => false
  | some c =>
    let controller := ValidatedReport.metric a.reports.primaryController c
    let target := ValidatedReport.metric a.reports.primaryTarget c
    candidateIsViable controller target false &&
    decide ((scoreCandidate c controller target a.config).score ≥ a.config.primaryAcceptScore) &&
    ([controller, target].filterMap id).all fun m =>
      decide (lossBasisPoints m ≤ a.config.primaryMaxLossBasisPoints)

/-- `primary_decision` of an allocation whose first candidate is `c`. -/
def primaryDecision (a : Allocation) (c : CandidateState) :
    RelayQualityDecision × Option (CacheKey × String) :=
  let controller := ValidatedReport.metric a.reports.primaryController c
  let target := ValidatedReport.metric a.reports.primaryTarget c
  let isPartial := controller.isNone || target.isNone
  let reason := if isPartial then DecisionReason.partialReport else .primaryAccepted
  ({ protocolVersion := protocolVersion, allocationId := a.allocationId, relayServer := c.relay,
     scores := [scoreCandidate c controller target a.config], fallback := false,
     reasonCode := reason.code, stage := stagePrimary, isPartial },
   some (cacheKey a.initiatorIp a.targetIp a.requirement, c.relay))

def fallbackDecision (a : Allocation) (stage : Stage) (reason : DecisionReason) :
    RelayQualityDecision :=
  { protocolVersion := protocolVersion, allocationId := a.allocationId,
    relayServer := a.fallbackRelay, scores := [], fallback := true, reasonCode := reason.code,
    stage := stage.wire, isPartial := true }

def terminalMetric (a : Allocation) (terminalStage : Stage) (role : EndpointRole) (index : Nat)
    (c : CandidateState) : Option Metric :=
  let reportStage := if terminalStage = .expanded ∧ index = 0 then .primary else terminalStage
  ValidatedReport.metric (a.reports.get reportStage role) c

def terminalStageRequiresTarget (a : Allocation) (stage : Stage) : Bool :=
  match stage with
  | .primary => a.reports.primaryTarget.isSome
  | .expanded => a.reports.primaryTarget.isSome || a.reports.expandedTarget.isSome
  | .eager => a.reports.eagerTarget.isSome

/-- Each candidate's score, and whether it is viable. -/
def terminalScores (a : Allocation) (stage : Stage) : List (RelayQualityScore × Bool) :=
  a.candidates.mapIdx fun i c =>
    let controller := terminalMetric a stage .controller i c
    let target := terminalMetric a stage .target i c
    (scoreCandidate c controller target a.config,
      candidateIsViable controller target (terminalStageRequiresTarget a stage))

/-- The cached relay, when it is fresh, still viable and close enough to the best score. -/
def hysteresisIndex (a : Allocation) (cached : Option CachedSelection) (now : Instant)
    (scored : List (RelayQualityScore × Bool)) (best : Nat) : Option Nat :=
  match cached with
  | none => none
  | some cached =>
    if now - cached.created ≤ secs a.config.cacheTtlSeconds then
      match scored.findIdx? fun x => x.2 && eqIgnoreAsciiCase x.1.relayServer cached.relay with
      | none => none
      | some index =>
        (scored[index]?).bind fun previous =>
          if min (previous.1.score + a.config.hysteresisBasisPoints) u32Max ≥ best then some index
          else none
    else none

def scoreTerminalAllocation (cache : Table CacheKey CachedSelection) (now : Instant)
    (a : Allocation) (stage : Stage) (defaultReason : DecisionReason) :
    RelayQualityDecision × Option (CacheKey × String) :=
  let scored := terminalScores a stage
  let viable := (scored.mapIdx fun i x => (i, x)).filter fun x => x.2.2
  -- The larger score, and of equal ones the lower index.
  match maxByKey (fun x => toLex (x.2.1.score, OrderDual.toDual x.1)) viable with
  | none =>
    ({ fallbackDecision a stage .probeFailure with scores := sortedScores (scored.map (·.1)) }, none)
  | some (bestIndex, best, _) =>
    let key := cacheKey a.initiatorIp a.targetIp a.requirement
    let (selectedIndex, reason) :=
      match hysteresisIndex a (cache.get key) now scored best.score with
      | some index => (index, DecisionReason.hysteresis)
      | none => (bestIndex, defaultReason)
    let selected := ((scored[selectedIndex]?).map (·.1.relayServer)).getD ""
    ({ protocolVersion := protocolVersion, allocationId := a.allocationId,
       relayServer := selected, scores := sortedScores (scored.map (·.1)), fallback := false,
       reasonCode := reason.code, stage := stage.wire,
       isPartial := decide (stageReportCount a stage < 2) },
     some (key, selected))

end Starry.Quality
