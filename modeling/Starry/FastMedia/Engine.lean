import Starry.Library.Run
import Starry.Library.Table
import Starry.FastMedia.Limits

/-!
# FastMedia relay: the engine

`Engine::handle` and `Engine::cleanup` as functions on the state of the engine. The counters, which
nothing reads back, are left out.
-/

open Library

namespace Starry.FastMedia

variable {F : Type} [F64 F]

/-! ## State -/

structure Config where
  udpPort : Nat
  relayServer : String
  publicKey : Bytes
  maxAllocations : Nat
  /-- Both TTLs in nanoseconds. -/
  halfBindTtl : Nat
  idleTtl : Nat
  perIpPacketsPerSecond : Nat
  globalPacketsPerSecond : Nat
  perIpBytesPerSecond : Nat
  globalBytesPerSecond : Nat

structure Binding (F : Type) where
  source : SocketAddr
  replay : ReplayWindow
  limiter : RoleLimit F

structure Allocation (F : Type) where
  sessionId : Nat
  invariant : GrantInvariant
  created : Instant
  lastActivity : Instant
  controller : Option (Binding F)
  target : Option (Binding F)
  controllerRebind : RebindWindow
  targetRebind : RebindWindow

namespace Allocation

def new (sessionId : Nat) (invariant : GrantInvariant) (now : Instant) : Allocation F :=
  { sessionId, invariant, created := now, lastActivity := now, controller := none, target := none,
    controllerRebind := .new now, targetRebind := .new now }

def binding (a : Allocation F) : Role → Option (Binding F)
  | .controller => a.controller
  | .target => a.target

/-- A write through `binding_mut`. -/
def setBinding (a : Allocation F) (role : Role) (b : Option (Binding F)) : Allocation F :=
  match role with
  | .controller => { a with controller := b }
  | .target => { a with target := b }

/-- `allocation.last_activity = now` -/
def touch (a : Allocation F) (now : Instant) : Allocation F := { a with lastActivity := now }

def allowRebind (a : Allocation F) (role : Role) (now : Instant) : Allocation F × Bool :=
  match role with
  | .controller =>
    let r := a.controllerRebind.allow now
    ({ a with controllerRebind := r.1 }, r.2)
  | .target =>
    let r := a.targetRebind.allow now
    ({ a with targetRebind := r.1 }, r.2)

def expired (a : Allocation F) (now : Instant) (unix halfBindTtl idleTtl : Nat) : Bool :=
  decide (a.invariant.expiresAt ≤ unix) || decide (now - a.created > secs maxGrantTtlSeconds) ||
    decide (now - a.lastActivity > idleTtl) ||
    ((a.controller.isNone || a.target.isNone) && decide (now - a.created > halfBindTtl))

end Allocation

structure Engine (F : Type) where
  config : Config
  cookieKey : Bytes
  allocations : Table Bytes (Allocation F)
  cleanupOrder : List Bytes
  perIp : Table IpAddr (TrafficLimit F)
  global : TrafficLimit F

structure Outgoing where
  target : SocketAddr
  bytes : Bytes
deriving DecidableEq, Repr

namespace Engine

def new (config : Config) (cookieKey : Bytes) (now : Instant) : Engine F :=
  { config, cookieKey, allocations := .empty, cleanupOrder := [], perIp := .empty,
    global := .new config.globalPacketsPerSecond config.globalBytesPerSecond now }

/-! ## Admission and cookies -/

def allowSource (e : Engine F) (ip : IpAddr) (bytes : Nat) (now : Instant) : Engine F × Bool :=
  let g := e.global.allow bytes now
  let e := { e with global := g.1 }
  if !g.2 then (e, false)
  else if (e.perIp.get ip).isNone && decide (e.perIp.len ≥ maxIpBuckets) then (e, false)
  else
    let limit := (e.perIp.get ip).getD
      (.new e.config.perIpPacketsPerSecond e.config.perIpBytesPerSecond now)
    let l := limit.allow bytes now
    ({ e with perIp := e.perIp.insert ip l.1 }, l.2)

/-- `IpAddr::octets`, the first one the highest. -/
def octets : IpAddr → Bytes
  | .v4 a => (toLeBytes 4 a.toNat).reverse
  | .v6 a => (toLeBytes 16 a.toNat).reverse

def cookie (crypto : Crypto) (e : Engine F) (source : SocketAddr) (header : Header) (nonce : Bytes)
    (epoch : Nat) : Bytes :=
  let canonical := asBytes "starry-akr1-cookie-v1" ++ [0] ++ octets source.ip ++
    toLeBytes 2 source.port ++ [header.role.byte] ++ toLeBytes 8 header.sessionId ++
    header.allocationId ++ nonce ++ toLeBytes 8 epoch
  (crypto.authenticate canonical e.cookieKey).take 8

/-! ## Hello -/

def handleHello (crypto : Crypto) (e : Engine F) (source : SocketAddr) (packet : Bytes)
    (header : Header) (unix : Nat) : List Outgoing :=
  if packet.length ≠ helloCookieBytes || (packet.drop 48).any (· != 0) then []
  else
    let nonce := slice packet akrHeaderBytes 48
    let cookie := e.cookie crypto source header nonce (unix / cookieEpochSeconds)
    [⟨source, header.encode 2 ++ nonce ++ cookie⟩]

/-! ## Bind -/

/-- The grant of a Bind that passes the checks on its shape, its cookie and its signature. -/
def bindGrant (crypto : Crypto) (e : Engine F) (source : SocketAddr) (packet : Bytes)
    (header : Header) (unix : Nat) : Option (FastRelayAuthorization × GrantInvariant) :=
  if packet.length < bindPrefixBytes then none
  else
    let authorizationLen := fromLeBytes (slice packet 56 58)
    if authorizationLen = 0 || authorizationLen > maxAuthorizationBytes ||
        packet.length ≠ bindPrefixBytes + authorizationLen then none
    else
      let nonce := slice packet 32 48
      let receivedCookie := slice packet 48 56
      let currentEpoch := unix / cookieEpochSeconds
      let cookieValid := [currentEpoch, currentEpoch - 1].any fun epoch =>
        e.cookie crypto source header nonce epoch == receivedCookie
      if !cookieValid then none
      else
        match crypto.verify (packet.drop bindPrefixBytes) e.config.publicKey with
        | none => none
        | some payload =>
          match crypto.parseGrant payload with
          | none => none
          | some grant =>
            match GrantInvariant.validated crypto grant header e.config.relayServer
                e.config.udpPort unix with
            | .ok invariant => some (grant, invariant)
            | .error _ => none

/-- The binding of `role` in `a`, installed, refreshed or moved to `source`. -/
def bindRole (a : Allocation F) (source : SocketAddr) (role : Role) (maxBitrateKbps : Nat)
    (now : Instant) : Allocation F × Bool :=
  match a.binding role with
  | some b =>
    if b.source = source then (a.touch now, true)
    else
      let r := a.allowRebind role now
      if !r.2 then (r.1, false)
      else
        -- Only the address changes: the replay window and the limiter stay.
        ((r.1.setBinding role (some { b with source })).touch now, true)
  | none =>
    ((a.setBinding role (some ⟨source, .default, .new maxBitrateKbps now⟩)).touch now, true)

def handleBind (crypto : Crypto) (e : Engine F) (source : SocketAddr) (packet : Bytes)
    (header : Header) (now : Instant) (unix : Nat) : Engine F × List Outgoing :=
  match e.bindGrant crypto source packet header unix with
  | none => (e, [])
  | some (grant, invariant) =>
    let existing := e.allocations.get header.allocationId
    if existing.isNone && decide (e.allocations.len ≥ e.config.maxAllocations) then (e, [])
    else
      let a := existing.getD (.new header.sessionId invariant now)
      let e := { e with allocations := e.allocations.insert header.allocationId a }
      if a.sessionId ≠ header.sessionId then (e, [])
      else if a.invariant ≠ invariant then (e, [])
      else
        let r := bindRole a source header.role grant.maxBitrateKbps now
        let e := { e with allocations := e.allocations.insert header.allocationId r.1 }
        if !r.2 then (e, [])
        else
          let e := { e with cleanupOrder :=
            if existing.isNone then e.cleanupOrder ++ [header.allocationId] else e.cleanupOrder }
          (e, [⟨source, header.encode 4⟩])

/-! ## Media -/

def handleMedia (e : Engine F) (source : SocketAddr) (packet : Bytes) (header : Header)
    (now : Instant) (unix : Nat) : Engine F × List Outgoing :=
  match e.allocations.get header.allocationId with
  | none => (e, [])
  | some a =>
    if a.sessionId ≠ header.sessionId then (e, [])
    else if a.expired now unix e.config.halfBindTtl e.config.idleTtl ||
        decide (packet.length > a.invariant.maxDatagram) then (e, [])
    else if a.controller.isNone || a.target.isNone then (e, [])
    else
      let payload := packet.drop akrHeaderBytes
      match validateAkf1 payload header.role header.sessionId with
      | none => (e, [])
      | some sequence =>
        match a.binding header.role, a.binding header.role.opposite with
        | some b, some other =>
          if b.source ≠ source then (e, [])
          else
            let replay := b.replay.accept sequence
            if !replay.2 then (e, [])
            else
              let limiter := b.limiter.allow packet.length now
              let a := a.setBinding header.role (some ⟨b.source, replay.1, limiter.1⟩)
              if !limiter.2 then
                ({ e with allocations := e.allocations.insert header.allocationId a }, [])
              else
                ({ e with allocations := e.allocations.insert header.allocationId (a.touch now) },
                  [⟨other.source, payload⟩])
        | _, _ => (e, [])

/-! ## Entry points -/

def handle (crypto : Crypto) (e : Engine F) (source : SocketAddr) (packet : Bytes) (now : Instant)
    (unix : Nat) : Engine F × List Outgoing :=
  match Header.parse packet with
  | none => (e, [])
  | some header =>
    let admitted := e.allowSource source.ip packet.length now
    let e := admitted.1
    if !admitted.2 then (e, [])
    else
      match header.kind with
      | .hello => (e, e.handleHello crypto source packet header unix)
      | .bind => e.handleBind crypto source packet header now unix
      | .media => e.handleMedia source packet header now unix

/-- One turn of the loop of `cleanup`. -/
def cleanupOne (now : Instant) (unix : Nat) (e : Engine F) : Engine F :=
  match e.cleanupOrder with
  | [] => e
  | id :: order =>
    let expired := (e.allocations.get id).all fun a =>
      a.expired now unix e.config.halfBindTtl e.config.idleTtl
    if expired then { e with allocations := e.allocations.remove id, cleanupOrder := order }
    else { e with cleanupOrder := order ++ [id] }

def cleanup (e : Engine F) (now : Instant) (unix : Nat) : Engine F :=
  let e := (cleanupOne now unix)^[cleanupPerTick] e
  { e with perIp := e.perIp.retain fun _ l => decide (now - l.lastSeen ≤ secs 60) }

end Engine

/-! ## The system -/

inductive Input
  | packet (source : SocketAddr) (packet : Bytes) (now : Instant) (unix : Nat)
  | cleanup (now : Instant) (unix : Nat)
deriving DecidableEq, Repr

def Input.now : Input → Instant
  | .packet _ _ now _ | .cleanup now _ => now

def Input.unix : Input → Nat
  | .packet _ _ _ unix | .cleanup _ unix => unix

def Engine.step (crypto : Crypto) (e : Engine F) : Input → Engine F × List Outgoing
  | .packet source packet now unix => e.handle crypto source packet now unix
  | .cleanup now unix => (e.cleanup now unix, [])

/-- The engine with the last readings of the two clocks. -/
structure World (F : Type) where
  engine : Engine F
  now : Instant
  unix : Nat

def World.init (config : Config) (cookieKey : Bytes) (now : Instant) (unix : Nat) : World F :=
  ⟨.new config cookieKey now, now, unix⟩

def World.step (crypto : Crypto) (w : World F) (i : Input) : Option (World F) :=
  some ⟨(w.engine.step crypto i).1, i.now, i.unix⟩

/-- The clocks do not go back. -/
def clocksAdvance (w : World F) (i : Input) : Bool :=
  decide (w.now ≤ i.now) && decide (w.unix ≤ i.unix)

omit [F64 F] in
theorem clocksAdvance_iff {w : World F} {i : Input} :
    clocksAdvance w i = true ↔ w.now ≤ i.now ∧ w.unix ≤ i.unix := by
  simp only [clocksAdvance, Bool.and_eq_true, decide_eq_true_eq]

end Starry.FastMedia
