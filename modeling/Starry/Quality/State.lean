import Starry.Quality.Allocation

/-!
# Relay quality: the tables

`QualityState` and the operations every handler shares: `cleanup`, the eviction of the oldest
entries and `record_final_decision`. The counters, which nothing reads back, are left out. All
ages within one pass are taken at one clock reading.
-/

open Library

namespace Starry.Quality

/-! ## Data -/

structure DecisionRecord where
  decision : RelayQualityDecision
  allocationId : Bytes
  created : Instant
  configGeneration : Nat
  targetIp : IpAddr
deriving DecidableEq, Repr

structure FinalizedAllocation where
  decision : RelayQualityDecision
  created : Instant
  configGeneration : Nat
  initiatorRoute : SocketAddr
  initiatorIp : IpAddr
  targetRoute : SocketAddr
  targetIp : IpAddr
  targetId : String
  targetWebsocket : Bool
  stage : Stage
  stageToken : Bytes
deriving DecidableEq, Repr

structure RequestDecisionKey where
  uuid : String
  initiatorIp : IpAddr
  targetIp : IpAddr
deriving DecidableEq, Repr

structure DecisionKey where
  uuid : String
  targetIp : IpAddr
deriving DecidableEq, Repr

structure QualityState where
  allocations : Table Bytes Allocation
  routes : Table RouteKey Bytes
  finalizedAllocations : Table Bytes FinalizedAllocation
  requestDecisions : Table RequestDecisionKey DecisionRecord
  decisions : Table DecisionKey DecisionRecord
  cache : Table CacheKey CachedSelection
  /-- Ghost: the decisions recorded so far, each with the uuid then pinned, the newest first. -/
  recorded : List (RelayQualityDecision × Option String)

def QualityState.default : QualityState := ⟨.empty, .empty, .empty, .empty, .empty, .empty, []⟩

structure RelaySelection where
  decision : RelayQualityDecision
  targetIp : IpAddr
  configGeneration : Nat
deriving DecidableEq, Repr

/-- What a call finds around it: the active configuration, the clock at its three readings, the
order its maps are visited in and the values it draws. -/
structure Env where
  active : Active
  cleaned : Instant
  received : Instant
  decided : Instant
  unixMs : Nat
  order : HashOrder
  id : Uuid
  token : Uuid

namespace QualityState

/-! ## Cleanup -/

def cleanup (s : QualityState) (config : RelayQualityConfig) (now : Instant) : QualityState :=
  let ttl := secs config.allocationTtlSeconds
  let live (a : Allocation) : Bool := decide (now - a.created ≤ ttl)
  { s with
    allocations := s.allocations.retain fun _ a => live a
    routes := s.routes.retain fun _ id => (s.allocations.get id).all live
    cache := s.cache.retain fun _ e => decide (now - e.created ≤ secs config.cacheTtlSeconds)
    decisions := s.decisions.retain fun _ e => decide (now - e.created ≤ ttl)
    requestDecisions := s.requestDecisions.retain fun _ e => decide (now - e.created ≤ ttl)
    finalizedAllocations := s.finalizedAllocations.retain fun _ e =>
      decide (now - e.created ≤ ttl) }

/-! ## Capacity -/

/-- An allocation goes, and so do its routes. -/
def removeAllocation (s : QualityState) (id : Bytes) : QualityState :=
  { s with allocations := s.allocations.remove id, routes := s.routes.retain fun _ v => v != id }

def removeOldestAllocation (s : QualityState) (ord : HashOrder) (now : Instant) : QualityState :=
  match maxByKey (fun e : Bytes × Allocation => now - e.2.created) (s.allocations.iter ord) with
  | none => s
  | some e => s.removeAllocation e.1

/-- The loop of `ensure_allocation_capacity`, which runs at most once for each entry. -/
def removeWhileFull (ord : HashOrder) (now : Instant) (limit : Nat) :
    Nat → QualityState → QualityState
  | 0, s => s
  | fuel + 1, s =>
    if s.allocations.len ≥ max limit 1 then
      removeWhileFull ord now limit fuel (s.removeOldestAllocation ord now)
    else s

def ensureAllocationCapacity (s : QualityState) (ord : HashOrder) (now : Instant) (limit : Nat) :
    QualityState :=
  removeWhileFull ord now limit s.allocations.len s

/-! ## Recording a decision -/

/-- Removes the entry that was created first. -/
def removeOldest {K V : Type} [DecidableEq K] (created : V → Instant) (ord : HashOrder)
    (now : Instant) (m : Table K V) : Table K V :=
  m.removeMax ord fun v => now - created v

def removeOldestCacheEntry : HashOrder → Instant → Table CacheKey CachedSelection →
    Table CacheKey CachedSelection :=
  removeOldest CachedSelection.created

def removeOldestDecision : HashOrder → Instant → Table DecisionKey DecisionRecord →
    Table DecisionKey DecisionRecord :=
  removeOldest DecisionRecord.created

def removeOldestRequestDecision : HashOrder → Instant → Table RequestDecisionKey DecisionRecord →
    Table RequestDecisionKey DecisionRecord :=
  removeOldest DecisionRecord.created

def removeOldestFinalizedAllocation : HashOrder → Instant → Table Bytes FinalizedAllocation →
    Table Bytes FinalizedAllocation :=
  removeOldest FinalizedAllocation.created

/-- The insertion pattern of `record_final_decision`: make room for a new key, then insert. -/
def insertWith {K V : Type} [DecidableEq K] (removeOldest : HashOrder → Instant → Table K V → Table K V)
    (env : Env) (limit : Nat) (m : Table K V) (k : K) (v : V) : Table K V :=
  (if (m.get k).isNone && decide (m.len ≥ limit) then removeOldest env.order env.decided m
    else m).insert k v

def storeSelection (s : QualityState) (env : Env) (limit : Nat)
    (cacheUpdate : Option (CacheKey × String)) : QualityState :=
  match cacheUpdate with
  | none => s
  | some (key, relay) =>
    { s with cache := insertWith removeOldestCacheEntry env limit s.cache key ⟨relay, env.decided⟩ }

def recordOf (env : Env) (a : Allocation) (d : RelayQualityDecision) : DecisionRecord :=
  { decision := d, allocationId := a.allocationId, created := env.decided,
    configGeneration := a.configGeneration, targetIp := a.targetIp }

/-- The two records under a pinned uuid. -/
def storeDecision (s : QualityState) (env : Env) (a : Allocation) (d : RelayQualityDecision) :
    QualityState :=
  match a.pendingUuid.filter fun uuid => !uuid.isEmpty with
  | none => s
  | some uuid =>
    { s with
      decisions := insertWith removeOldestDecision env a.config.maxAllocations s.decisions
        ⟨uuid, a.targetIp⟩ (recordOf env a d)
      requestDecisions := insertWith removeOldestRequestDecision env a.config.maxAllocations
        s.requestDecisions ⟨uuid, a.initiatorIp, a.targetIp⟩ (recordOf env a d) }

/-- What is kept of a finalized allocation. -/
def finalizedOf (env : Env) (a : Allocation) (d : RelayQualityDecision) : FinalizedAllocation :=
  { decision := d, created := env.decided, configGeneration := a.configGeneration,
    initiatorRoute := a.initiatorRoute, initiatorIp := a.initiatorIp, targetRoute := a.targetRoute,
    targetIp := a.targetIp, targetId := a.targetId, targetWebsocket := a.targetWebsocket,
    stage := a.stage, stageToken := a.stageToken }

def storeFinalized (s : QualityState) (env : Env) (a : Allocation) (d : RelayQualityDecision) :
    QualityState :=
  { s with
    finalizedAllocations := insertWith removeOldestFinalizedAllocation env a.config.maxAllocations
      s.finalizedAllocations a.allocationId (finalizedOf env a d) }

def dropRoutes (s : QualityState) (id : Bytes) : QualityState :=
  { s with routes := s.routes.retain fun _ v => v != id }

/-- Ghost: the decision and the uuid then pinned. -/
def note (s : QualityState) (a : Allocation) (d : RelayQualityDecision) : QualityState :=
  { s with recorded := (d, a.pendingUuid) :: s.recorded }

def recordFinalDecision (s : QualityState) (env : Env) (a : Allocation) (d : RelayQualityDecision)
    (cacheUpdate : Option (CacheKey × String)) : QualityState × RelaySelection :=
  let s := s.dropRoutes a.allocationId
  let s := s.storeSelection env a.config.maxAllocations cacheUpdate
  let s := s.storeDecision env a d
  let s := s.storeFinalized env a d
  (s.note a d, ⟨d, a.targetIp, a.configGeneration⟩)

end QualityState

end Starry.Quality
