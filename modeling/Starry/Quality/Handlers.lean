import Starry.Library.Run
import Starry.Observer.Snapshot
import Starry.Quality.State

/-!
# Relay quality: the entry points

Each function takes the state before the call and returns the state after it with its answer. A
handler that takes an allocation out of the table puts it back on every path that does not
finalize or cancel it, as the source does.
-/

open Library

namespace Starry.Quality

open Starry.Observer

/-! ## Answers -/

inductive DispatchPayload
  | offer (o : RelayQualityOffer)
  | decision (d : RelayQualityDecision)
  | cancel (c : RelayQualityCancel)
deriving DecidableEq, Repr

structure StageDispatch where
  controllerRoute : SocketAddr
  targetRoute : SocketAddr
  targetId : String
  targetWebsocket : Bool
  controller : DispatchPayload
  target : DispatchPayload
deriving DecidableEq, Repr

inductive RequestResolution
  | legacy
  | selected (s : RelaySelection)
  | expanded (d : StageDispatch)
  | pending
  | blocked
deriving DecidableEq, Repr

inductive StageReportResolution
  | pending
  | dispatch (d : StageDispatch)
  | rejected
deriving DecidableEq, Repr

structure ResponseContext where
  offer : Option RelayQualityOffer
  peerReport : Option RelayProbeReport
deriving DecidableEq, Repr

def offerDispatch (a : Allocation) : StageDispatch :=
  { controllerRoute := a.initiatorRoute, targetRoute := a.targetRoute, targetId := a.targetId,
    targetWebsocket := a.targetWebsocket, controller := .offer (offerFor a .controller),
    target := .offer (offerFor a .target) }

def finalizedDecisionDispatch (f : FinalizedAllocation) : StageDispatch :=
  { controllerRoute := f.initiatorRoute, targetRoute := f.targetRoute, targetId := f.targetId,
    targetWebsocket := f.targetWebsocket, controller := .decision f.decision,
    target := .decision f.decision }

def cancelDispatch (a : Allocation) (c : RelayQualityCancel) : StageDispatch :=
  { controllerRoute := a.initiatorRoute, targetRoute := a.targetRoute, targetId := a.targetId,
    targetWebsocket := a.targetWebsocket, controller := .cancel c, target := .cancel c }

def finalizedSourceMatches (f : FinalizedAllocation) (route : SocketAddr) (ip : IpAddr) :
    EndpointRole → Bool
  | .controller => f.initiatorRoute == route && f.initiatorIp == ip
  | .target => f.targetRoute == route && f.targetIp == ip

namespace QualityState

/-- `state.allocations.remove(&id)`, of an id that is there. -/
def take (s : QualityState) (id : Bytes) : QualityState :=
  { s with allocations := s.allocations.remove id }

/-- `state.allocations.insert(id, allocation)`. -/
def putBack (s : QualityState) (id : Bytes) (a : Allocation) : QualityState :=
  { s with allocations := s.allocations.insert id a }

/-! ## `create_offer` -/

structure OfferRequest where
  clientProtocol : Nat
  initiatorRoute : SocketAddr
  initiatorIp : IpAddr
  targetRoute : SocketAddr
  targetIp : IpAddr
  targetId : String
  requirement : RelayRequirement
  initiatorWebsocket : Bool
  targetWebsocket : Bool
  fallback : String
  snapshot : RelayRuntimeSnapshot

def wireCandidate (view : RelayRuntimeView) (websocket : Bool) : RelayQualityCandidate :=
  { relayServer := view.id
    probeUrl := if websocket then view.websocket.url.getD "" else "tcp://" ++ view.id }

def candidateState (q : OfferRequest) (view : RelayRuntimeView) : CandidateState :=
  { relay := view.id
    serverRttMs := view.websocket.latencyMs.map fun v => min v u32Max
    loadBasisPoints := view.websocket.loadBasisPoints
    controllerWire := wireCandidate view q.initiatorWebsocket
    targetWire := wireCandidate view q.targetWebsocket }

/-- The relays of an offer, or nothing when the offer is skipped. -/
def offerViews (env : Env) (config : RelayQualityConfig) (q : OfferRequest) :
    Option (List RelayRuntimeView) :=
  if !config.enabled || q.clientProtocol != protocolVersion then none
  else if q.fallback.isEmpty || q.targetId.isEmpty || decide (config.maxCandidates < 2) then none
  else if !q.snapshot.isConsistent || q.snapshot.configGeneration != env.active.generation then none
  else
    let views := q.snapshot.qualityCandidates q.initiatorIp q.targetIp q.requirement q.fallback
      config.maxCandidates
    match views with
    | first :: _ :: _ => if eqIgnoreAsciiCase first.id q.fallback then some views else none
    | _ => none

def offeredAllocation (env : Env) (config : RelayQualityConfig) (q : OfferRequest)
    (views : List RelayRuntimeView) : Allocation :=
  let created := env.received
  let totalMs := config.reportTimeoutMs
  let (stage, stageBudgetMs) :=
    match config.strategy with
    | .adaptive => (Stage.primary, min (primaryStageBudgetMs config) totalMs)
    | .eager => (Stage.eager, totalMs)
  { created
    totalDeadline := checkedDeadline created totalMs
    totalDeadlineUnixMs := satAdd env.unixMs totalMs
    stageDeadline := checkedDeadline created stageBudgetMs
    stageDeadlineUnixMs := satAdd env.unixMs stageBudgetMs
    configGeneration := env.active.generation
    initiatorRoute := normalizeSocket q.initiatorRoute
    initiatorIp := normalizeIp q.initiatorIp
    targetRoute := normalizeSocket q.targetRoute
    targetIp := normalizeIp q.targetIp
    targetId := q.targetId
    targetWebsocket := q.targetWebsocket
    requirement := q.requirement
    fallbackRelay := q.fallback
    primaryRelay := (views.head?.map (·.id)).getD ""
    allocationId := env.id.val
    stageToken := env.token.val
    stage
    candidates := views.map (candidateState q)
    config
    reports := {}
    pendingUuid := none }

/-- The table part of `create_offer`, after its `cleanup`. -/
def addAllocation (s : QualityState) (env : Env) (config : RelayQualityConfig) (a : Allocation) :
    QualityState :=
  let previous := s.routes.get a.routeKey
  let s := { s with routes := s.routes.insert a.routeKey a.allocationId }
  let s :=
    match previous with
    | some previous => s.take previous
    | none => s
  let s := s.ensureAllocationCapacity env.order env.decided config.maxAllocations
  s.putBack a.allocationId a

def createOffer (s : QualityState) (env : Env) (q : OfferRequest) :
    QualityState × Option RelayQualityOffer :=
  match env.active.config with
  | none => (s, none)
  | some config =>
    match offerViews env config q with
    | none => (s, none)
    | some views =>
      let a := offeredAllocation env config q views
      let s := s.cleanup config env.cleaned
      (s.addAllocation env config a, some (offerFor a .target))

/-! ## `response_context` -/

structure ResponseRequest where
  initiatorRoute : SocketAddr
  targetRoute : SocketAddr
  targetIp : IpAddr
  targetId : String
  report : Option RelayProbeReport

/-- The target's report, stored when it is valid. -/
def storeTargetReport (env : Env) (a : Allocation) (report : Option RelayProbeReport) : Allocation :=
  match report with
  | none => a
  | some report =>
    match validateReportUntil report a .target env.received with
    | .ok validated => (a.store .target validated).2
    | .error _ => a

def responseContext (s : QualityState) (env : Env) (q : ResponseRequest) :
    QualityState × ResponseContext :=
  match env.active.config with
  | none => (s, ⟨none, none⟩)
  | some config =>
    if !config.enabled then (s, ⟨none, none⟩)
    else
      let s := s.cleanup config env.cleaned
      match s.routes.get ⟨normalizeSocket q.initiatorRoute, normalizeIp q.targetIp⟩ with
      | none => (s, ⟨none, none⟩)
      | some id =>
        match s.allocations.get id with
        | none => (s, ⟨none, none⟩)
        | some a =>
          if a.configGeneration != env.active.generation ||
              !initialResponseSourceMatches a (normalizeSocket q.targetRoute)
                (normalizeIp q.targetIp) q.targetId then (s, ⟨none, none⟩)
          else
            let a := storeTargetReport env a q.report
            (s.putBack id a,
              { offer := if env.decided ≤ a.stageDeadline then some (offerFor a .controller) else none
                peerReport := (a.reports.get a.stage .target).map (·.wire) })

/-! ## `select_for_request` -/

structure RelayRequest where
  sourceRoute : SocketAddr
  sourceIp : IpAddr
  targetIp : IpAddr
  uuid : String
  explicitAllocationId : Bytes
  report : Option RelayProbeReport

def RelayRequest.requestKey (q : RelayRequest) : RequestDecisionKey :=
  ⟨q.uuid, normalizeIp q.sourceIp, normalizeIp q.targetIp⟩

/-- The allocation a retry names. -/
def RelayRequest.binding (q : RelayRequest) : Bytes :=
  if q.explicitAllocationId.isEmpty then (q.report.map (·.allocationId)).getD []
  else q.explicitAllocationId

/-- Finalizes with `decision` and selects it. -/
def selectFinal (s : QualityState) (env : Env) (a : Allocation)
    (decision : RelayQualityDecision × Option (CacheKey × String)) :
    QualityState × RequestResolution :=
  let final := s.recordFinalDecision env a decision.1 decision.2
  (final.1, .selected final.2)

/-- A request whose report was stored, by stage. -/
def advanceRequest (s : QualityState) (env : Env) (id : Bytes) (a : Allocation) :
    QualityState × RequestResolution :=
  match a.stage with
  | .primary =>
    match a.candidates.head?, primaryIsGoodEnough a with
    | some first, true => s.selectFinal env a (primaryDecision a first)
    | _, _ =>
      let a := transitionToExpanded a env.token
      (s.putBack id a, .expanded (offerDispatch a))
  | .eager =>
    s.selectFinal env a (scoreTerminalAllocation s.cache env.decided a .eager .expandedBestScore)
  | .expanded =>
    if expandedReady a then
      s.selectFinal env a
        (scoreTerminalAllocation s.cache env.decided a .expanded .expandedBestScore)
    else (s.putBack id a, .pending)

/-- A request that passed the binding checks, with its uuid pinned. -/
def resolveRequest (s : QualityState) (env : Env) (id : Bytes) (a : Allocation)
    (report : RelayProbeReport) : QualityState × RequestResolution :=
  match validateReportUntil report a .controller env.received with
  | .error .late => s.selectFinal env a (fallbackDecision a a.stage .probeFailure, none)
  | .error .stageMismatch => (s.putBack id a, .blocked)
  | .error .invalid => s.selectFinal env a (fallbackDecision a a.stage .probeFailure, none)
  | .ok validated =>
    let stored := a.store .controller validated
    if stored.1 = .conflict then (s.putBack id stored.2, .blocked)
    else s.advanceRequest env id stored.2

/-- The checks that bind a request to an allocation. -/
def requestBound (env : Env) (q : RelayRequest) (a : Allocation) : Bool :=
  a.configGeneration == env.active.generation &&
  sourceMatches a (normalizeSocket q.sourceRoute) (normalizeIp q.sourceIp) .controller &&
  a.targetIp == normalizeIp q.targetIp && !q.uuid.isEmpty &&
  !(a.pendingUuid.any fun pending => pending != q.uuid)

/-- `select_for_request` when no earlier decision answers it. -/
def bindRequest (s : QualityState) (env : Env) (q : RelayRequest) :
    QualityState × RequestResolution :=
  match q.report with
  | none => if q.explicitAllocationId.isEmpty then (s, .legacy) else (s, .blocked)
  | some report =>
    let id := report.allocationId
    if (!q.explicitAllocationId.isEmpty && q.explicitAllocationId != id) || id.length != 16 then
      (s, .blocked)
    else
      match s.allocations.get id with
      | none => (s, .blocked)
      | some a =>
        let s := s.take id
        if !requestBound env q a then (s.putBack id a, .blocked)
        else s.resolveRequest env id { a with pendingUuid := some q.uuid } report

def selectForRequest (s : QualityState) (env : Env) (q : RelayRequest) :
    QualityState × RequestResolution :=
  match env.active.config with
  | none => (s, .legacy)
  | some config =>
    if !config.enabled then (s, .legacy)
    else
      let s := s.cleanup config env.cleaned
      match if q.uuid.isEmpty then none else s.requestDecisions.get q.requestKey with
      | some record =>
        if record.configGeneration == env.active.generation && q.binding == record.allocationId then
          (s, .selected ⟨record.decision, record.targetIp, record.configGeneration⟩)
        else (s, .blocked)
      | none => s.bindRequest env q

/-! ## `handle_stage_report` -/

structure StageReportRequest where
  sourceRoute : SocketAddr
  sourceIp : IpAddr
  report : RelayProbeReport

/-- Finalizes with `decision` and dispatches what the table then holds. -/
def dispatchFinal (s : QualityState) (env : Env) (a : Allocation)
    (decision : RelayQualityDecision × Option (CacheKey × String)) :
    QualityState × Option StageDispatch :=
  let final := s.recordFinalDecision env a decision.1 decision.2
  (final.1, (final.1.finalizedAllocations.get final.2.decision.allocationId).map
    finalizedDecisionDispatch)

def reportFinal (s : QualityState) (env : Env) (a : Allocation)
    (decision : RelayQualityDecision × Option (CacheKey × String)) :
    QualityState × StageReportResolution :=
  let final := s.dispatchFinal env a decision
  (final.1, match final.2 with
    | some d => .dispatch d
    | none => .rejected)

/-- The decision of an allocation whose deadline has passed. -/
def lateDecision (s : QualityState) (env : Env) (a : Allocation) :
    RelayQualityDecision × Option (CacheKey × String) :=
  if (a.reports.get a.stage .controller).isSome then
    scoreTerminalAllocation s.cache env.decided a a.stage .partialReport
  else (fallbackDecision a a.stage .probeFailure, none)

/-- Whether a stage report is the last one its stage waits for. -/
def reportTerminal (a : Allocation) : Bool :=
  match a.stage with
  | .expanded => expandedReady a
  | .eager => eagerReady a
  | .primary => false

def advanceReport (s : QualityState) (env : Env) (id : Bytes) (a : Allocation) :
    QualityState × StageReportResolution :=
  if !reportTerminal a then (s.putBack id a, .pending)
  else
    let reason :=
      if stageReportCount a a.stage < 2 then DecisionReason.partialReport else .expandedBestScore
    s.reportFinal env a (scoreTerminalAllocation s.cache env.decided a a.stage reason)

def resolveReport (s : QualityState) (env : Env) (id : Bytes) (a : Allocation)
    (report : RelayProbeReport) (role : EndpointRole) : QualityState × StageReportResolution :=
  match validateReportUntil report a role env.received with
  | .error .stageMismatch => (s.putBack id a, .rejected)
  | .error .invalid => (s.putBack id a, .rejected)
  | .error .late => s.reportFinal env a (s.lateDecision env a)
  | .ok validated =>
    let stored := a.store role validated
    if stored.1 = .conflict then (s.putBack id stored.2, .rejected)
    else s.advanceReport env id stored.2

def handleStageReport (s : QualityState) (env : Env) (q : StageReportRequest) :
    QualityState × StageReportResolution :=
  match env.active.config with
  | none => (s, .rejected)
  | some config =>
    if !config.enabled || q.report.allocationId.length != 16 then (s, .rejected)
    else
      match EndpointRole.fromWire q.report.endpointRole with
      | none => (s, .rejected)
      | some role =>
        let id := q.report.allocationId
        let route := normalizeSocket q.sourceRoute
        let ip := normalizeIp q.sourceIp
        let s := s.cleanup config env.cleaned
        match s.finalizedAllocations.get id with
        | some f =>
          if f.configGeneration == env.active.generation && f.stage.wire == q.report.stage &&
              f.stageToken == q.report.stageToken && finalizedSourceMatches f route ip role then
            (s, .dispatch (finalizedDecisionDispatch f))
          else (s, .rejected)
        | none =>
          match s.allocations.get id with
          | none => (s, .rejected)
          | some a =>
            let s := s.take id
            if a.configGeneration != env.active.generation || !sourceMatches a route ip role then
              (s.putBack id a, .rejected)
            else s.resolveReport env id a q.report role

/-! ## `cancel_allocation` -/

structure CancelRequest where
  sourceRoute : SocketAddr
  sourceIp : IpAddr
  cancel : RelayQualityCancel

def cancelAllocation (s : QualityState) (env : Env) (q : CancelRequest) :
    QualityState × Option StageDispatch :=
  match env.active.config with
  | none => (s, none)
  | some config =>
    let c := q.cancel
    if !config.enabled || c.protocolVersion != protocolVersion || c.allocationId.length != 16 ||
        !(c.reasonCode == cancelP2pSucceeded || c.reasonCode == cancelClientAbort) then (s, none)
    else
      match EndpointRole.fromWire c.endpointRole with
      | none => (s, none)
      | some role =>
        let s := s.cleanup config env.cleaned
        match s.allocations.get c.allocationId with
        | none => (s, none)
        | some a =>
          if a.stage.wire != c.stage || a.stageToken != c.stageToken ||
              !sourceMatches a (normalizeSocket q.sourceRoute) (normalizeIp q.sourceIp) role then
            (s, none)
          else (s.removeAllocation c.allocationId, some (cancelDispatch a c))

/-! ## `decision_for_response`, `finalize_expired` and `runtime_snapshot` -/

def decisionForResponse (s : QualityState) (env : Env) (uuid : String) (sourceIp : IpAddr) :
    QualityState × Option RelayQualityDecision :=
  if uuid.isEmpty then (s, none)
  else
    match env.active.config with
    | none => (s, none)
    | some config =>
      let s := s.cleanup config env.cleaned
      (s, (s.decisions.get ⟨uuid, normalizeIp sourceIp⟩).map (·.decision))

/-- One turn of the loop of `finalize_expired`. -/
def finalizeOne (env : Env) (acc : QualityState × List StageDispatch) (id : Bytes) :
    QualityState × List StageDispatch :=
  match acc.1.allocations.get id with
  | none => acc
  | some a =>
    let s := acc.1.take id
    let final := s.dispatchFinal env a (s.lateDecision env a)
    (final.1, acc.2 ++ final.2.toList)

def expiredIds (s : QualityState) (env : Env) : List Bytes :=
  (((s.allocations.iter env.order).filter fun e =>
    e.2.pendingUuid.isSome && (decide (env.received > e.2.stageDeadline) ||
      decide (env.received > e.2.totalDeadline))).take maxDeadlineDispatchesPerTick).map (·.1)

def finalizeExpired (s : QualityState) (env : Env) : QualityState × List StageDispatch :=
  match env.active.config with
  | none => (s, [])
  | some config =>
    if !config.enabled then (s, [])
    else
      let s := s.cleanup config env.cleaned
      (s.expiredIds env).foldl (finalizeOne env) (s, [])

/-- The effect of `runtime_snapshot` on the tables. -/
def runtimeSnapshot (s : QualityState) (env : Env) : QualityState :=
  s.cleanup (env.active.config.getD {}) env.cleaned

end QualityState

/-! ## The system -/

inductive Call
  | createOffer (q : QualityState.OfferRequest)
  | responseContext (q : QualityState.ResponseRequest)
  | selectForRequest (q : QualityState.RelayRequest)
  | handleStageReport (q : QualityState.StageReportRequest)
  | cancelAllocation (q : QualityState.CancelRequest)
  | decisionForResponse (uuid : String) (sourceIp : IpAddr)
  | finalizeExpired
  | runtimeSnapshot

inductive Answer
  | offer (o : Option RelayQualityOffer)
  | context (c : ResponseContext)
  | request (r : RequestResolution)
  | report (r : StageReportResolution)
  | cancelled (d : Option StageDispatch)
  | decision (d : Option RelayQualityDecision)
  | finalized (ds : List StageDispatch)
  | snapshot
deriving DecidableEq, Repr

def QualityState.handle (s : QualityState) (env : Env) : Call → QualityState × Answer
  | .createOffer q => (s.createOffer env q).map id .offer
  | .responseContext q => (s.responseContext env q).map id .context
  | .selectForRequest q => (s.selectForRequest env q).map id .request
  | .handleStageReport q => (s.handleStageReport env q).map id .report
  | .cancelAllocation q => (s.cancelAllocation env q).map id .cancelled
  | .decisionForResponse uuid ip => (s.decisionForResponse env uuid ip).map id .decision
  | .finalizeExpired => (s.finalizeExpired env).map id .finalized
  | .runtimeSnapshot => (s.runtimeSnapshot env, .snapshot)

def StageDispatch.decisions (d : StageDispatch) : List RelayQualityDecision :=
  [d.controller, d.target].filterMap fun p =>
    match p with
    | .decision d => some d
    | _ => none

/-- Every decision that an answer carries. -/
def Answer.decisions : Answer → List RelayQualityDecision
  | .request (.selected s) => [s.decision]
  | .request (.expanded d) => d.decisions
  | .report (.dispatch d) => d.decisions
  | .cancelled (some d) => d.decisions
  | .decision (some d) => [d]
  | .finalized ds => ds.flatMap StageDispatch.decisions
  | _ => []

/-- The state with its history. -/
structure World where
  state : QualityState
  /-- The allocation ids drawn so far. -/
  issued : List Bytes
  /-- The stage tokens drawn so far. -/
  tokens : List Bytes
  emitted : List RelayQualityDecision
  /-- The ids that `cancel_allocation` removed. -/
  cancelled : List Bytes

def World.init : World := ⟨.default, [], [], [], []⟩

/-- The draws that a call has used. -/
def Answer.drawsId : Answer → Bool
  | .offer (some _) => true
  | _ => false

def Answer.drawsToken : Answer → Bool
  | .offer (some _) | .request (.expanded _) => true
  | _ => false

/-- The allocation that a call has cancelled. -/
def Answer.cancels (call : Call) (answer : Answer) : List Bytes :=
  match call, answer with
  | .cancelAllocation q, .cancelled (some _) => [q.cancel.allocationId]
  | _, _ => []

def World.step (w : World) (i : Env × Call) : Option World :=
  let handled := w.state.handle i.1 i.2
  let answer := handled.2
  some
    { state := handled.1
      issued := if answer.drawsId then i.1.id.val :: w.issued else w.issued
      tokens := if answer.drawsToken then i.1.token.val :: w.tokens else w.tokens
      emitted := answer.decisions ++ w.emitted
      cancelled := answer.cancels i.2 ++ w.cancelled }

/-- The values drawn are new. -/
def freshDraws (w : World) (i : Env × Call) : Bool :=
  !w.issued.contains i.1.id.val && !w.tokens.contains i.1.token.val

theorem freshDraws_iff {w : World} {i : Env × Call} :
    freshDraws w i = true ↔ i.1.id.val ∉ w.issued ∧ i.1.token.val ∉ w.tokens := by
  simp [freshDraws]

end Starry.Quality
