import Starry.Basic
import Starry.Library.Table

/-!
# The lease registry (`profile_activation.rs`)

The data of `Registry` and the sections of its methods that run under one lock without
awaiting. The statistics counters, which nothing reads back, are left out.
-/

open Library

namespace Starry.Activation

def activationIdBytes : Nat := 16
def routeLeaseBytes : Nat := 32
def burstLimit : Nat := 12
def publicKeyMaxBytes : Nat := 512
def leaseTtl : Nat := secs 45
def recordRetention : Nat := secs (15 * 60)
def burstWindow : Nat := secs 30
def maxPeerLocks : Nat := 100000
def maxLeases : Nat := 100000
def maxV2Peers : Nat := 100000
def maxBurstIdentities : Nat := 100000
def maintenanceInterval : Nat := 256

inductive RouteKind
  | native (addr : SocketAddr)
  | webSocket (generation connectionId : Nat)
deriving DecidableEq, Repr

structure LeaseRecord where
  uuid : Bytes
  publicKey : Bytes
  activationEpoch : Nat
  activationId : Bytes
  routeLease : Bytes
  generation : Nat
  route : Option RouteKind
  retired : Bool
  updatedAt : Instant
deriving DecidableEq, Repr

structure IdentityKey where
  peerId : String
  uuid : Bytes
  publicKeySha256 : Bytes
deriving DecidableEq, Repr

inductive ActivationError
  | invalid | rateLimited | capacity | stale
deriving DecidableEq, Repr

/-- The identity of one `Arc<Mutex<()>>`. -/
abbrev LockId := Nat

structure Registry where
  /-- An `AtomicU64`: it wraps to zero. -/
  nextGeneration : Nat
  peerLocks : Table String LockId
  leases : Table String LeaseRecord
  v2Peers : Finset String
  bursts : Table IdentityKey (List Instant)
  pendingNewLeases : Nat
  maintenanceCalls : Nat

def Registry.default : Registry :=
  { nextGeneration := 1, peerLocks := .empty, leases := .empty, v2Peers := ∅, bursts := .empty,
    pendingNewLeases := 0, maintenanceCalls := 0 }

/-! ## Requests and claims -/

structure RegistrationRequest where
  peerId : String
  uuid : Bytes
  publicKey : Bytes
  activationEpoch : Nat
  activationId : Bytes
  fastIdentityVerified : Bool
deriving DecidableEq, Repr

structure RenewalRequest where
  peerId : String
  activationEpoch : Nat
  activationId : Bytes
  routeLease : Bytes
  routeGeneration : Nat
deriving DecidableEq, Repr

structure DeactivationRequest where
  peerId : String
  uuid : Bytes
  activationEpoch : Nat
  activationId : Bytes
  routeLease : Bytes
  routeGeneration : Nat
deriving DecidableEq, Repr

structure VerifyRequest where
  peerId : String
  uuid : Bytes
  activationEpoch : Nat
  activationId : Bytes
  routeLeases : List Bytes
deriving DecidableEq, Repr

structure ActivationClaim where
  peerId : String
  uuid : Bytes
  publicKey : Bytes
  activationEpoch : Nat
  activationId : Bytes
  routeLease : Bytes
  generation : Nat
  previousRoute : Option RouteKind
  tracked : Bool
  newLease : Bool
  fastReregistration : Bool
  capacityReserved : Bool
deriving DecidableEq, Repr

structure RenewalClaim where
  peerId : String
  generation : Nat
  previousRoute : Option RouteKind
  tracked : Bool
deriving DecidableEq, Repr

structure DeactivationClaim where
  peerId : String
  activationEpoch : Nat
  generation : Nat
  route : RouteKind
deriving DecidableEq, Repr

def RegistrationRequest.invalid (r : RegistrationRequest) : Bool :=
  r.peerId.isEmpty || r.uuid.isEmpty || r.publicKey.isEmpty ||
  decide (r.publicKey.length > publicKeyMaxBytes) ||
  (r.activationId.isEmpty && r.activationEpoch != 0) ||
  (!r.activationId.isEmpty && (r.activationId.length != activationIdBytes ||
    r.activationEpoch == 0 || r.uuid.length != 16))

def RenewalRequest.invalid (r : RenewalRequest) : Bool :=
  r.peerId.isEmpty ||
  (r.activationId.isEmpty && (r.activationEpoch != 0 || !r.routeLease.isEmpty ||
    r.routeGeneration != 0)) ||
  (!r.activationId.isEmpty && (r.activationId.length != activationIdBytes ||
    r.activationEpoch == 0 || r.routeLease.length != routeLeaseBytes || r.routeGeneration == 0))

def DeactivationRequest.invalid (r : DeactivationRequest) : Bool :=
  r.peerId.isEmpty || r.uuid.length != 16 || r.activationEpoch == 0 ||
  r.activationId.length != activationIdBytes || r.routeLease.length != routeLeaseBytes ||
  r.routeGeneration == 0

def VerifyRequest.invalid (r : VerifyRequest) : Bool :=
  r.peerId.isEmpty || r.uuid.length != 16 || r.activationEpoch == 0 ||
  r.activationId.length != activationIdBytes || r.routeLeases.isEmpty ||
  decide (r.routeLeases.length > 16) ||
  r.routeLeases.any fun l => l.length != routeLeaseBytes

/-! ## Changes of one record -/

namespace LeaseRecord

/-- The route and its lease go; the activation stays. -/
def clear (r : LeaseRecord) (now : Instant) : LeaseRecord :=
  { r with route := none, routeLease := [], updatedAt := now }

def expired (r : LeaseRecord) (now : Instant) : Bool :=
  r.route.isSome && decide (now - r.updatedAt ≥ leaseTtl)

def expire (now : Instant) (r : LeaseRecord) : LeaseRecord :=
  if r.expired now then r.clear now else r

/-- The body of `touch_route`. -/
def touch (route : RouteKind) (now : Instant) (r : LeaseRecord) : LeaseRecord :=
  if !r.retired && r.route == some route then { r with updatedAt := now } else r

/-- The body of `disconnect_route` and of one turn of `disconnect_websocket_routes_now`. -/
def disconnect (route : RouteKind) (now : Instant) (r : LeaseRecord) : LeaseRecord :=
  if !r.retired && r.route == some route then r.clear now else r

end LeaseRecord

/-! ## Sections of the methods -/

namespace Registry

variable (r : Registry)

/-- `fetch_add(1)` on the generation counter. -/
def advanceGeneration : Registry := { r with nextGeneration := (r.nextGeneration + 1) % 2 ^ 64 }

def expireRoute (peerId : String) (now : Instant) : Registry :=
  { r with leases := r.leases.modify peerId (LeaseRecord.expire now) }

/-- What the retention sweep leaves of a record. -/
def swept (now : Instant) (l : LeaseRecord) : Option LeaseRecord :=
  let l := l.expire now
  if l.route.isSome || decide (now - l.updatedAt < recordRetention) then some l else none

def maintain (now : Instant) : Registry :=
  let call := r.maintenanceCalls
  let r := { r with maintenanceCalls := (call + 1) % 2 ^ 64 }
  if call % maintenanceInterval ≠ 0 then r
  else { r with leases := r.leases.filterMap fun _ => swept now }

def touchRoute (peerId : String) (route : RouteKind) (now : Instant) : Registry :=
  { r with leases := r.leases.modify peerId (LeaseRecord.touch route now) }

def disconnectRoute (peerId : String) (route : RouteKind) (now : Instant) : Registry :=
  { r with leases := r.leases.modify peerId (LeaseRecord.disconnect route now) }

def disconnectWebsocketRoutesNow (routes : List (String × Nat × Nat)) (now : Instant) : Registry :=
  routes.foldl (fun r route => r.disconnectRoute route.1 (.webSocket route.2.1 route.2.2) now) r

/-- What `begin_registration` makes of the stored record. -/
inductive Lookup
  | stale
  | reuse (current : LeaseRecord)
  | fresh (previousRoute : Option RouteKind) (existingPeer : Bool)
deriving DecidableEq, Repr

def lookupRegistration (current : Option LeaseRecord) (q : RegistrationRequest) : Lookup :=
  match current with
  | none => .fresh none false
  | some c =>
    if c.uuid != q.uuid || decide (q.activationEpoch < c.activationEpoch) then .stale
    else if q.activationEpoch == c.activationEpoch then
      if c.activationId != q.activationId || c.publicKey != q.publicKey || c.retired then .stale
      else if c.route.isSome then .reuse c
      else .fresh c.route true
    else .fresh c.route true

/-- What `begin_renewal` makes of it: generation, previous route and whether it is tracked. -/
def lookupRenewal (current : Option LeaseRecord) (q : RenewalRequest) :
    Option (Nat × Option RouteKind × Bool) :=
  match current with
  | none => if q.activationId.isEmpty then some (0, none, false) else none
  | some l =>
    if q.activationId.isEmpty && (l.route.isNone || l.retired) then some (0, none, false)
    else if !l.retired && l.route.isSome && l.activationEpoch == q.activationEpoch &&
        l.activationId == q.activationId && l.routeLease == q.routeLease &&
        l.generation == q.routeGeneration then some (l.generation, l.route, true)
    else none

/-- What `begin_deactivation` makes of it: generation and route. -/
def lookupDeactivation (current : Option LeaseRecord) (q : DeactivationRequest) :
    Option (Nat × RouteKind) :=
  match current with
  | none => none
  | some l =>
    if l.uuid != q.uuid || l.activationEpoch != q.activationEpoch ||
        l.activationId != q.activationId || l.routeLease != q.routeLease ||
        l.generation != q.routeGeneration || l.retired then none
    else l.route.map fun route => (l.generation, route)

def verified (current : Option LeaseRecord) (q : VerifyRequest) : Bool :=
  match current with
  | none => false
  | some l =>
    !l.retired && l.route.isSome && l.uuid == q.uuid && l.activationEpoch == q.activationEpoch &&
    l.activationId == q.activationId && q.routeLeases.any fun lease => lease == l.routeLease

/-- Drops the entries at the front that left the window. -/
def dropOld (now : Instant) (entries : List Instant) : List Instant :=
  entries.dropWhile fun e => decide (now - e ≥ burstWindow)

def checkBurst (sha256 : Bytes → Bytes) (q : RegistrationRequest) (now : Instant) :
    Option ActivationError × Registry :=
  let key : IdentityKey := ⟨q.peerId, q.uuid, sha256 q.publicKey⟩
  let bursts :=
    if r.maintenanceCalls % maintenanceInterval = 0 ||
        ((r.bursts.get key).isNone && decide (r.bursts.len ≥ maxBurstIdentities)) then
      r.bursts.filterMap fun _ entries =>
        let kept := dropOld now entries
        if kept.isEmpty then none else some kept
    else r.bursts
  if (bursts.get key).isNone && decide (bursts.len ≥ maxBurstIdentities) then
    (some .capacity, { r with bursts })
  else
    let entries := dropOld now ((bursts.get key).getD [])
    if entries.length ≥ burstLimit then
      (some .rateLimited, { r with bursts := bursts.insert key entries })
    else (none, { r with bursts := bursts.insert key (entries ++ [now]) })

def rememberV2Peer (peerId : String) : Option ActivationError × Registry :=
  if peerId ∈ r.v2Peers then (none, r)
  else if r.v2Peers.card ≥ maxV2Peers then (some .capacity, r)
  else (none, { r with v2Peers := insert peerId r.v2Peers })

/-- The second half of `reserve_lease_capacity`, after `active` was read. -/
def reserveLeaseCapacity (active : Nat) : Option ActivationError × Registry :=
  if min (active + r.pendingNewLeases) u64Max ≥ maxLeases then (some .capacity, r)
  else (none, { r with pendingNewLeases := r.pendingNewLeases + 1 })

/-- Gives a reservation back, at the end of `ActivationClaim::commit` or in its `Drop`. -/
def release (reserved : Bool) : Registry :=
  if reserved then { r with pendingNewLeases := r.pendingNewLeases - 1 } else r

end Registry

/-! ## Commits -/

namespace ActivationClaim

/-- The record that a committed claim stores. -/
def record (c : ActivationClaim) (route : RouteKind) (now : Instant) : LeaseRecord :=
  { uuid := c.uuid, publicKey := c.publicKey, activationEpoch := c.activationEpoch,
    activationId := c.activationId, routeLease := c.routeLease, generation := c.generation,
    route := some route, retired := false, updatedAt := now }

/-- `commit` up to its insertion. The reservation is given back after it, without the lock of
`leases`. -/
def commit (c : ActivationClaim) (r : Registry) (route : RouteKind) (now : Instant) : Registry :=
  if !c.tracked then r
  else { r with leases := r.leases.insert c.peerId (c.record route now) }

end ActivationClaim

namespace RenewalClaim

/-- A renewal looks at the generation and at `retired` again, and at nothing else. -/
def matchesRecord (c : RenewalClaim) (l : LeaseRecord) : Bool :=
  l.generation == c.generation && !l.retired

def commit (c : RenewalClaim) (r : Registry) (route : RouteKind) (now : Instant) : Registry :=
  if !c.tracked then r
  else { r with leases := r.leases.modify c.peerId fun l =>
    if c.matchesRecord l then { l with route := some route, updatedAt := now } else l }

end RenewalClaim

namespace DeactivationClaim

def matchesRecord (c : DeactivationClaim) (l : LeaseRecord) : Bool :=
  l.activationEpoch == c.activationEpoch && l.generation == c.generation &&
  l.route == some c.route && !l.retired

def commit (c : DeactivationClaim) (r : Registry) (routeRemoved : Bool) (now : Instant) : Registry :=
  if !routeRemoved then r
  else { r with leases := r.leases.modify c.peerId fun l =>
    if c.matchesRecord l then { l.clear now with retired := true } else l }

/-- Whether `commit` answers `true`. -/
def committed (c : DeactivationClaim) (r : Registry) (routeRemoved : Bool) : Bool :=
  routeRemoved && (r.leases.get c.peerId).any c.matchesRecord

end DeactivationClaim

end Starry.Activation
