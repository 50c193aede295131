import Starry.Activation.Registry
import Starry.Library.Run

/-!
# The registry's tasks

Every method call is a task. It waits for its peer's mutex, runs its sections one by one with
the mutex held, and may end holding a claim that is committed or dropped later. Between two
sections any other task may run. `disconnect_websocket_routes_now` takes no mutex, and the
sweep of `maintain` changes the records of every peer.
-/

open Library

namespace Starry.Activation

inductive Call
  | registration (q : RegistrationRequest)
  | renewal (q : RenewalRequest)
  | deactivation (q : DeactivationRequest)
  | touch (peerId : String) (route : RouteKind)
  | disconnect (peerId : String) (route : RouteKind)
  | verify (q : VerifyRequest)
deriving DecidableEq, Repr

def Call.peerId : Call → String
  | .registration q => q.peerId
  | .renewal q => q.peerId
  | .deactivation q => q.peerId
  | .touch p _ | .disconnect p _ => p
  | .verify q => q.peerId

inductive Outcome
  | refused (e : ActivationError)
  | answered (b : Bool)
  | committed
  | dropped
deriving DecidableEq, Repr

/-- The answer to a request that fails its first check. -/
def Call.refusal : Call → Option Outcome
  | .registration q => if q.invalid then some (.refused .invalid) else none
  | .renewal q => if q.invalid then some (.refused .invalid) else none
  | .deactivation q => if q.invalid then some (.refused .invalid) else none
  | .verify q => if q.invalid then some (.answered false) else none
  | .touch .. | .disconnect .. => none

/-- The answer when `peer_lock` has no room. -/
def Call.noLock : Call → Outcome
  | .registration _ | .renewal _ | .deactivation _ => .refused .capacity
  | .touch .. | .disconnect .. | .verify _ => .answered false

/-- Where a task with its peer's mutex stands. -/
inductive Phase
  | entered (call : Call)
  | maintained (q : RegistrationRequest) (now : Instant)
  | expired (call : Call) (now : Instant)
  | unleased (q : RegistrationRequest) (now : Instant) (previousRoute : Option RouteKind)
      (existingPeer : Bool)
  | admitted (q : RegistrationRequest) (previousRoute : Option RouteKind) (existingPeer : Bool)
  | remembered (q : RegistrationRequest) (previousRoute : Option RouteKind) (existingPeer : Bool)
  | counted (q : RegistrationRequest) (previousRoute : Option RouteKind) (active : Nat)
  | activation (c : ActivationClaim)
  | renewal (c : RenewalClaim)
  | deactivation (c : DeactivationClaim)
deriving DecidableEq, Repr

def Phase.peerId : Phase → String
  | .entered call | .expired call _ => call.peerId
  | .maintained q _ | .unleased q .. | .admitted q .. | .remembered q .. | .counted q .. => q.peerId
  | .activation c => c.peerId
  | .renewal c => c.peerId
  | .deactivation c => c.peerId

def Phase.reserved : Phase → Bool
  | .activation c => c.capacityReserved
  | _ => false

inductive Task
  | waiting (lock : LockId) (call : Call)
  | holding (lock : LockId) (phase : Phase)
  /-- A commit that has stored its record and not yet given its reservation back. -/
  | stored (lock : LockId) (c : ActivationClaim)
  | finished (outcome : Outcome)
deriving DecidableEq, Repr

/-- The mutex of which the task has a clone, and the peer it took it for. -/
def Task.reference : Task → Option (String × LockId)
  | .waiting m call => some (call.peerId, m)
  | .holding m phase => some (phase.peerId, m)
  | .stored m c => some (c.peerId, m)
  | .finished _ => none

/-- The call of a task that has not read its peer's record yet. -/
def Phase.pending : Phase → Option Call
  | .entered call | .expired call _ => some call
  | .maintained q _ => some (.registration q)
  | _ => none

def Task.pending : Task → Option Call
  | .waiting _ call => some call
  | .holding _ phase => phase.pending
  | .stored .. | .finished _ => none

def Task.holds (m : LockId) : Task → Bool
  | .holding m' _ | .stored m' _ => m' == m
  | _ => false

/-- Whether the task holds a reservation. -/
def Task.reserved : Task → Bool
  | .holding _ phase => phase.reserved
  | .stored _ c => c.capacityReserved
  | .waiting .. | .finished _ => false

/-- A value of `randombytes(ROUTE_LEASE_BYTES)`. -/
abbrev RandomLease := { b : Bytes // b.length = routeLeaseBytes }

structure System where
  registry : Registry
  tasks : List Task
  /-- The identity of the next mutex. -/
  nextLock : LockId
  /-- Ghost: every lease `randombytes` has returned. -/
  drawn : List Bytes

def System.init : System := ⟨.default, [], 0, []⟩

/-! ## One section -/

/-- The claim of a registration that gets a new lease. -/
def freshClaim (r : Registry) (q : RegistrationRequest) (previousRoute : Option RouteKind)
    (reserved : Bool) (random : RandomLease) : ActivationClaim :=
  { peerId := q.peerId, uuid := q.uuid, publicKey := q.publicKey,
    activationEpoch := q.activationEpoch, activationId := q.activationId,
    routeLease := random.val, generation := r.nextGeneration, previousRoute,
    tracked := true, newLease := true, fastReregistration := q.fastIdentityVerified,
    capacityReserved := reserved }

/-- The claim of a retransmission: it copies the stored lease and generation. -/
def reuseClaim (q : RegistrationRequest) (current : LeaseRecord) : ActivationClaim :=
  { peerId := q.peerId, uuid := q.uuid, publicKey := q.publicKey,
    activationEpoch := q.activationEpoch, activationId := q.activationId,
    routeLease := current.routeLease, generation := current.generation,
    previousRoute := current.route, tracked := true, newLease := false,
    fastReregistration := q.fastIdentityVerified, capacityReserved := false }

/-- The claim of a client without activation fields. -/
def legacyClaim (r : Registry) (q : RegistrationRequest) : ActivationClaim :=
  { peerId := q.peerId, uuid := q.uuid, publicKey := q.publicKey, activationEpoch := 0,
    activationId := [], routeLease := [], generation := r.nextGeneration, previousRoute := none,
    tracked := false, newLease := false, fastReregistration := false, capacityReserved := false }

/-- `check_burst` for a verified identity, then `next`. -/
def burstThen (sha256 : Bytes → Bytes) (r : Registry) (q : RegistrationRequest) (now : Instant)
    (next : Phase) : Registry × (Phase ⊕ Outcome) :=
  if q.fastIdentityVerified then
    match r.checkBurst sha256 q now with
    | (some e, r) => (r, .inr (.refused e))
    | (none, r) => (r, .inl next)
  else (r, .inl next)

/-- What a registration does after its `expire_route`: the reads of `v2_peers` and `leases`. -/
def readRegistration (sha256 : Bytes → Bytes) (r : Registry) (q : RegistrationRequest)
    (now : Instant) : Registry × (Phase ⊕ Outcome) :=
  if q.activationId.isEmpty then
    if q.peerId ∈ r.v2Peers then (r, .inr (.refused .stale))
    else (r.advanceGeneration, .inl (.activation (legacyClaim r q)))
  else
    match Registry.lookupRegistration (r.leases.get q.peerId) q with
    | .stale => (r, .inr (.refused .stale))
    -- The guard of `leases` is held across `check_burst` here, so this is one section.
    | .reuse current => burstThen sha256 r q now (.activation (reuseClaim q current))
    | .fresh previousRoute existingPeer => (r, .inl (.unleased q now previousRoute existingPeer))

def Phase.advance (sha256 : Bytes → Bytes) (r : Registry) (now : Instant) (random : RandomLease) :
    Phase → Option (Registry × (Phase ⊕ Outcome))
  | .entered (.registration q) => some (r.maintain now, .inl (.maintained q now))
  | .entered (.touch p route) =>
    some (r.touchRoute p route now,
      .inr (.answered ((r.leases.get p).any fun l => !l.retired && l.route == some route)))
  | .entered (.disconnect p route) =>
    some (r.disconnectRoute p route now,
      .inr (.answered ((r.leases.get p).any fun l => !l.retired && l.route == some route)))
  | .entered call => some (r.expireRoute call.peerId now, .inl (.expired call now))
  | .maintained q t => some (r.expireRoute q.peerId t, .inl (.expired (.registration q) t))
  | .expired (.registration q) t => some (readRegistration sha256 r q t)
  | .expired (.renewal q) _ =>
    match Registry.lookupRenewal (r.leases.get q.peerId) q with
    | some (generation, previousRoute, tracked) =>
      some (r, .inl (.renewal ⟨q.peerId, generation, previousRoute, tracked⟩))
    | none => some (r, .inr (.refused .stale))
  | .expired (.deactivation q) _ =>
    match Registry.lookupDeactivation (r.leases.get q.peerId) q with
    | some (generation, route) =>
      some (r, .inl (.deactivation ⟨q.peerId, q.activationEpoch, generation, route⟩))
    | none => some (r, .inr (.refused .stale))
  | .expired (.verify q) _ =>
    some (r, .inr (.answered (Registry.verified (r.leases.get q.peerId) q)))
  | .expired (.touch ..) _ | .expired (.disconnect ..) _ => none
  | .unleased q t previousRoute existingPeer =>
    some (burstThen sha256 r q t (.admitted q previousRoute existingPeer))
  | .admitted q previousRoute existingPeer =>
    match r.rememberV2Peer q.peerId with
    | (some e, r) => some (r, .inr (.refused e))
    | (none, r) => some (r, .inl (.remembered q previousRoute existingPeer))
  | .remembered q previousRoute existingPeer =>
    if existingPeer then
      some (r.advanceGeneration, .inl (.activation (freshClaim r q previousRoute false random)))
    else some (r, .inl (.counted q previousRoute r.leases.len))
  | .counted q previousRoute active =>
    match r.reserveLeaseCapacity active with
    | (some e, r) => some (r, .inr (.refused e))
    | (none, r) =>
      some (r.advanceGeneration, .inl (.activation (freshClaim r q previousRoute true random)))
  | .activation _ | .renewal _ | .deactivation _ => none

/-! ## The steps -/

inductive Step
  | call (c : Call)
  | lock (task : Nat)
  | proceed (task : Nat) (now : Instant) (random : RandomLease)
  | commitActivation (task : Nat) (route : RouteKind) (now : Instant)
  | commitRenewal (task : Nat) (route : RouteKind) (now : Instant)
  | commitDeactivation (task : Nat) (routeRemoved : Bool) (now : Instant)
  | drop (task : Nat)
  | disconnectWebsocketRoutesNow (routes : List (String × Nat × Nat)) (now : Instant)
  | nextRouteGeneration

namespace System

variable (s : System)

/-- `Arc::strong_count`: the table's own reference and one for each task with a clone. -/
def strongCount (m : LockId) : Nat :=
  1 + (s.tasks.filter fun t => decide (t.reference.map Prod.snd = some m)).length

def prunedLocks : Table String LockId :=
  if s.registry.peerLocks.len ≥ maxPeerLocks then
    s.registry.peerLocks.retain fun _ m => decide (s.strongCount m > 1)
  else s.registry.peerLocks

/-- A call that passed its first check takes its peer's mutex from the table. -/
def arrive (c : Call) : System :=
  match c.refusal with
  | some o => { s with tasks := s.tasks ++ [.finished o] }
  | none =>
    match s.registry.peerLocks.get c.peerId with
    | some m => { s with tasks := s.tasks ++ [.waiting m c] }
    | none =>
      if s.prunedLocks.len ≥ maxPeerLocks then
        { s with registry := { s.registry with peerLocks := s.prunedLocks },
                 tasks := s.tasks ++ [.finished c.noLock] }
      else
        { s with registry := { s.registry with
                   peerLocks := s.prunedLocks.insert c.peerId s.nextLock },
                 tasks := s.tasks ++ [.waiting s.nextLock c], nextLock := s.nextLock + 1 }

/-- Task `i` moves to `t` and leaves the registry as `r`. -/
def update (r : Registry) (i : Nat) (t : Task) : System :=
  { s with registry := r, tasks := s.tasks.set i t }

/-- The lease a new claim has drawn. -/
def draw (next : Phase ⊕ Outcome) : List Bytes :=
  match next with
  | .inl (.activation c) => if c.newLease then c.routeLease :: s.drawn else s.drawn
  | _ => s.drawn

def step (sha256 : Bytes → Bytes) (s : System) : Step → Option System
  | .call c => some (s.arrive c)
  | .lock i =>
    match s.tasks[i]? with
    | some (.waiting m c) =>
      if s.tasks.any (Task.holds m) then none
      else some (s.update s.registry i (.holding m (.entered c)))
    | _ => none
  | .proceed i now random =>
    match s.tasks[i]? with
    | some (.holding m φ) =>
      match φ.advance sha256 s.registry now random with
      | none => none
      | some (r, next) =>
        some { s.update r i (match next with
            | .inl φ' => .holding m φ'
            | .inr o => .finished o) with drawn := s.draw next }
    | some (.stored _ c) =>
      some (s.update (s.registry.release c.capacityReserved) i (.finished .committed))
    | _ => none
  | .commitActivation i route now =>
    match s.tasks[i]? with
    | some (.holding m (.activation c)) =>
      some (s.update (c.commit s.registry route now) i
        (if c.capacityReserved then .stored m c else .finished .committed))
    | _ => none
  | .commitRenewal i route now =>
    match s.tasks[i]? with
    | some (.holding _ (.renewal c)) =>
      some (s.update (c.commit s.registry route now) i (.finished .committed))
    | _ => none
  | .commitDeactivation i routeRemoved now =>
    match s.tasks[i]? with
    | some (.holding _ (.deactivation c)) =>
      some (s.update (c.commit s.registry routeRemoved now) i
        (.finished (.answered (c.committed s.registry routeRemoved))))
    | _ => none
  | .drop i =>
    match s.tasks[i]? with
    | some (.holding _ φ) => some (s.update (s.registry.release φ.reserved) i (.finished .dropped))
    | some (.waiting _ _) => some (s.update s.registry i (.finished .dropped))
    | _ => none
  | .disconnectWebsocketRoutesNow routes now =>
    some { s with registry := s.registry.disconnectWebsocketRoutesNow routes now }
  | .nextRouteGeneration => some { s with registry := s.registry.advanceGeneration }

/-- The record stored for a peer. -/
def lease (p : String) : Option LeaseRecord := s.registry.leases.get p

end System

end Starry.Activation
