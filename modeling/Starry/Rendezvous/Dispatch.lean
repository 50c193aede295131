import Starry.Rendezvous.Identity
import Starry.Activation.Alone
import Starry.Activation.Books

/-!
# Where a peer is found

The handlers of one peer, one after another. A punch-hole request goes to the peer's WebSocket
session if there is one, else to its address. A registration over UDP takes away the session that
the lease record named before, and no other.
-/

open Library

namespace Starry.Rendezvous

open Starry.Activation (ActivationClaim LeaseRecord RandomLease Registry RouteKind RenewalRequest
  DeactivationRequest DeactivationClaim Phase)
open Starry.Routing (Routes Target chooseTarget nowMillis)

structure Server where
  peers : Table String Peer
  routes : Routes
  registry : Registry
  /-- Ghost: the route of the last registration that was acknowledged with a generation, until that
  route is disconnected. -/
  owner : Option RouteKind

def Server.init (peers : Table String Peer) : Server := ⟨peers, .init, .default, none⟩

/-- What a handler learns from outside. -/
structure Answers where
  relayReady : Bool
  allowed : Bool
  unblocked : Bool
  /-- `peer_lock` has room. -/
  locked : Bool
  now : Instant
  random : RandomLease

namespace Server

variable (env : Env) (w : Server)

/-- `begin_registration` -/
def beginRegistration (rk : RegisterPk) (fast : Bool) (a : Answers) :
    Registry × Option ActivationClaim :=
  if !a.locked then (w.registry, none)
  else match w.registry.begin env.sha256 a.now a.random (.registration (rk.request fast)) with
    | (registry, .inl (.activation claim)) => (registry, some claim)
    | (registry, _) => (registry, none)

/-- `process_register_pk`: the reply, and the claim of an `OK`. -/
def processRegisterPk (rk : RegisterPk) (via : Transport) (a : Answers) :
    Server × Option (RegisterPkResult × Option ActivationClaim) :=
  let ip := env.ipText via.effectiveAddr.ip
  if rk.uuid.isEmpty || rk.pk.isEmpty then (w, none)
  else
    let fast := isVerifiedFastRegistration w.peers rk
    if rk.id.utf8ByteSize < 6 then (w, some (.uuidMismatch, none))
    else if !a.unblocked then (w, some (.tooFrequent, none))
    else
      let peer := (w.peers.get rk.id).getD (.default (env.expiredTime a.now))
      match peer.compare rk ip with
      | none => ({ w with peers := w.peers.insert rk.id peer }, some (.uuidMismatch, none))
      | some comparison => match w.beginRegistration env rk fast a with
        | (registry, none) =>
          ({ w with peers := w.peers.insert rk.id peer, registry }, some (.tooFrequent, none))
        | (registry, some claim) => match countRegistration peer.regPk fast a.now with
          | none =>
            ({ w with
              peers := w.peers.insert rk.id peer
              registry := registry.release claim.capacityReserved }, some (.tooFrequent, none))
          | some regPk =>
            let counted : Peer := { peer with regPk }
            let stored :=
              if comparison.changed then
                counted.updatePk (via.nativeAddr.getD comparison.currentAddr) rk ip a.now
              else counted.refresh via.nativeAddr a.now
            ({ w with peers := w.peers.insert rk.id stored, registry }, some (.ok, some claim))

/-- A claim is committed, and its reservation given back. -/
def commit (claim : ActivationClaim) (route : RouteKind) (now : Instant) : Server :=
  { w with registry := (claim.commit w.registry route now).release claim.capacityReserved }

/-- The reply goes out. Its generation is that of a tracked claim. -/
def acknowledge (claim : ActivationClaim) (route : RouteKind) : Server :=
  if claim.tracked ∧ claim.generation ≠ 0 then { w with owner := some route } else w

def modifyPeer (id : String) (f : Peer → Peer) : Server :=
  { w with peers := w.peers.modify id f }

/-- `remove_profile_route` of the route before a tracked one. -/
def removePrevious (id : String) (claim : ActivationClaim) : Server :=
  match claim.tracked, claim.previousRoute with
  | true, some (.webSocket generation connectionId) =>
    { w with routes := (w.routes.removeIfCurrentInner id generation connectionId true).2 }
  | _, _ => w

/-- A `RegisterPk` over UDP. -/
def registerUdp (rk : RegisterPk) (addr : SocketAddr) (a : Answers) : Server :=
  match w.processRegisterPk env rk (.udp addr) a with
  | (w, some (.ok, some claim)) =>
    let w := w.modifyPeer rk.id fun peer => peer.activateNativeRoute addr claim.generation a.now
    ((w.commit claim (.native addr) a.now).removePrevious rk.id claim).acknowledge claim
      (.native addr)
  | (w, _) => w

/-- A `RegisterPk` over a WebSocket, whose reply is sent. -/
def registerWebSocket (rk : RegisterPk) (connectionId : Nat) (routeAddr effectiveAddr : SocketAddr)
    (a : Answers) : Server :=
  if !a.relayReady then w
  else if !isVerifiedFastRegistration w.peers rk && !a.allowed then w
  else if !w.routes.capacityAvailable rk.id effectiveAddr.ip env.maxSessions
      env.maxSessionsPerEffectiveIp then w
  else match w.processRegisterPk env rk (.webSocket connectionId routeAddr effectiveAddr) a with
    | (w, some (.ok, some claim)) =>
      match w.routes.bind rk.id connectionId effectiveAddr.ip routeAddr claim.generation
          (nowMillis a.now) env.maxSessions env.maxSessionsPerEffectiveIp with
      | (.ok _, routes) =>
        let w := { w with routes }.modifyPeer rk.id fun peer =>
          peer.activateWebsocketRoute claim.generation a.now
        let route : RouteKind := .webSocket claim.generation connectionId
        let w := (w.commit claim route a.now).modifyPeer rk.id fun peer => peer.touch a.now
        w.acknowledge claim route
      | (.error _, _) => { w with registry := w.registry.release claim.capacityReserved }
    | (w, _) => w

/-- A `RegisterPeer` over UDP. Whether `update_addr` takes the address, `takes` says. -/
def registerPeer (q : RenewalRequest) (addr : SocketAddr) (takes : Bool) (a : Answers) : Server :=
  if !a.locked then w
  else match w.registry.begin env.sha256 a.now a.random (.renewal q) with
    | (registry, .inl (.renewal claim)) =>
      if claim.tracked && claim.previousRoute != some (.native addr) then { w with registry }
      else if takes then
        let w := { w with registry }.modifyPeer q.peerId fun peer =>
          peer.updateAddr addr claim.generation a.now
        { w with registry := claim.commit w.registry (.native addr) a.now }
      else { w with registry }
    | (registry, _) => { w with registry }

/-- A frame of the peer's session, or a tick of its interval. -/
def frame (token : Routing.SessionToken) (now : Instant) : Server :=
  let w := w.modifyPeer token.peerId fun peer => peer.touch now
  { w with
    routes := w.routes.touch token (nowMillis now)
    registry := w.registry.touchRoute token.peerId
      (.webSocket token.generation token.connectionId) now }

/-- A route is gone. -/
def disown (route : RouteKind) : Server :=
  if w.owner = some route then { w with owner := none } else w

/-- `remove_session`, and what its caller does then. -/
def removeSession (id : String) (generation connectionId : Nat) (now : Instant) : Server :=
  let route : RouteKind := .webSocket generation connectionId
  let (removed, routes) := w.routes.removeIfCurrentInner id generation connectionId true
  let w := { w with routes }
  if removed then
    let w := { w with registry := w.registry.disconnectRoute id route now }
    (w.modifyPeer id fun peer => peer.expireWebsocketRoute generation (env.expiredTime now)).disown
      route
  else w

/-- The route that a deactivation removes. -/
def removeRoute (id : String) (claim : DeactivationClaim) (abortWriter : Bool) (now : Instant) :
    Bool × Server :=
  match claim.route with
  | .native expectedAddr =>
    match (w.peers.get id).bind fun peer =>
        peer.deactivateNative expectedAddr claim.generation (env.expiredTime now) with
    | some peer => (true, { w with peers := w.peers.insert id peer }.disown claim.route)
    | none => (false, w)
  | .webSocket generation connectionId =>
    let (removed, routes) := w.routes.removeIfCurrentInner id generation connectionId abortWriter
    let w := { w with routes }
    if removed then (true, (w.modifyPeer id fun peer =>
      peer.expireWebsocketRoute generation (env.expiredTime now)).disown claim.route)
    else (false, w)

/-- `process_peer_deactivation`, and with the token of a session
`process_current_websocket_deactivation`. -/
def deactivate (q : DeactivationRequest) (token : Option Routing.SessionToken) (a : Answers) :
    Server :=
  if !a.locked || token.any fun token =>
      q.peerId != token.peerId || q.routeGeneration != token.generation then w
  else match w.registry.begin env.sha256 a.now a.random (.deactivation q) with
    | (registry, .inl (.deactivation claim)) =>
      if token.any fun token =>
          claim.route != .webSocket token.generation token.connectionId then { w with registry }
      else
        let (removed, w) := { w with registry }.removeRoute env q.peerId claim token.isNone a.now
        { w with registry := claim.commit w.registry removed a.now }
    | (registry, _) => { w with registry }

/-- A drain. The leases may be busy. -/
def drain (leasesBusy : Bool) (now : Instant) : Server :=
  { w with
    routes := w.routes.drain.2
    registry := if leasesBusy then w.registry
      else w.registry.disconnectWebsocketRoutesNow w.routes.drain.1 now
    owner := match w.owner with
      | some (.webSocket _ _) => none
      | owner => owner }

end Server

inductive ServerMove
  | registerUdp (rk : RegisterPk) (addr : SocketAddr) (a : Answers)
  | registerWebSocket (rk : RegisterPk) (connectionId : Nat) (routeAddr effectiveAddr : SocketAddr)
      (a : Answers)
  | registerPeer (q : RenewalRequest) (addr : SocketAddr) (takes : Bool) (a : Answers)
  | frame (token : Routing.SessionToken) (now : Instant)
  | removeSession (id : String) (generation connectionId : Nat) (now : Instant)
  | deactivate (q : DeactivationRequest) (token : Option Routing.SessionToken) (a : Answers)
  | drain (leasesBusy : Bool) (now : Instant)
  | expireRoute (id : String) (now : Instant)
  | maintain (now : Instant)

def Server.step (env : Env) (w : Server) : ServerMove → Option Server
  | .registerUdp rk addr a => some (w.registerUdp env rk addr a)
  | .registerWebSocket rk connectionId routeAddr effectiveAddr a =>
    some (w.registerWebSocket env rk connectionId routeAddr effectiveAddr a)
  | .registerPeer q addr takes a => some (w.registerPeer env q addr takes a)
  | .frame token now => some (w.frame token now)
  | .removeSession id generation connectionId now =>
    some (w.removeSession env id generation connectionId now)
  | .deactivate q token a => some (w.deactivate env q token a)
  | .drain leasesBusy now => some (w.drain leasesBusy now)
  | .expireRoute id now => some { w with registry := w.registry.expireRoute id now }
  | .maintain now => some { w with registry := w.registry.maintain now }

/-- Where `handle_punch_hole_request` finds the peer. -/
def Server.target (w : Server) (id : String) (now : Instant) : Option Target :=
  (w.peers.get id).map fun peer =>
    chooseTarget (w.routes.route id (nowMillis now)) peer.socketAddr
      ((now - peer.lastRegTime) / 1000000)

/-- The target is the route. -/
def Server.Finds (w : Server) (id : String) (now : Instant) : RouteKind → Prop
  | .native addr => w.routes.sessions.get id = none ∧
    ∃ target, w.target id now = some target ∧ target.webSocket = false ∧ target.routeAddr = addr
  | .webSocket generation connectionId => ∃ session target,
    w.routes.sessions.get id = some session ∧ session.generation = generation ∧
      session.connectionId = connectionId ∧ w.target id now = some target ∧
      target.webSocket = true ∧ target.routeAddr = session.routeAddr

/-! ## When it does -/

/-- The peer whose handler it is. -/
def ServerMove.peerId : ServerMove → Option String
  | .registerUdp rk _ _ | .registerWebSocket rk _ _ _ _ => some rk.id
  | .registerPeer q _ _ _ => some q.peerId
  | .frame token _ => some token.peerId
  | .removeSession id _ _ _ | .expireRoute id _ => some id
  | .deactivate q _ _ => some q.peerId
  | .drain _ _ | .maintain _ => none

/-- The generation counter has not wrapped, the session that a registration with an activation finds
over UDP is the one that the lease names, and a heartbeat that needs no lease comes from the address
of the owner. -/
def ServerMove.orderly (id : String) (w : Server) : ServerMove → Bool
  | .registerUdp rk _ a => w.registry.nextGeneration != 0 && (rk.activationId.isEmpty ||
    (w.routes.sessions.get id).all fun session => ((w.registry.leasesAt id a.now).get id).any fun lease =>
      lease.route == some (.webSocket session.generation session.connectionId))
  | .registerWebSocket .. => w.registry.nextGeneration != 0
  | .registerPeer q addr takes a =>
    let lease := (w.registry.expireRoute q.peerId a.now).leases.get q.peerId
    !(takes && (Registry.lookupRenewal lease q).any fun renewal => !renewal.2.2) ||
      match w.owner with
      | some (.native owned) => owned == addr
      | _ => true
  | _ => true

/-- The steps of one peer. -/
def orderlyOf (id : String) (w : Server) (m : ServerMove) : Bool :=
  m.peerId.all (· == id) && m.orderly id w

/-! ## The invariant -/

/-- A record stays with its generation, and with its route or none. -/
def KeptLease (o o' : Option LeaseRecord) : Prop :=
  ∀ l', o' = some l' → ∃ l, o = some l ∧ l'.generation = l.generation ∧
    (l'.route = none ∨ l'.route = l.route)

def Server.Holds (w : Server) (id : String) : RouteKind → Prop
  | .native addr => w.routes.sessions.get id = none ∧
    ∃ peer, w.peers.get id = some peer ∧ peer.socketAddr = addr
  | .webSocket generation connectionId => (w.peers.get id).isSome = true ∧
    ∃ session, w.routes.sessions.get id = some session ∧ session.generation = generation ∧
      session.connectionId = connectionId

structure Owning (id : String) (w : Server) : Prop where
  lease : ∀ l, w.registry.leases.get id = some l →
    id ∈ w.registry.v2Peers ∧ l.generation ≠ 0
  owner : ∀ route, w.owner = some route → id ∈ w.registry.v2Peers ∧ w.Holds id route ∧
    ∀ l, w.registry.leases.get id = some l → l.route = none ∨ l.route = some route

section

variable {env : Env} {w w' : Server} {id : String} {o o' o'' : Option LeaseRecord} {now : Instant}
  {route : RouteKind} {rk : RegisterPk} {a : Answers}

theorem KeptLease.refl (o : Option LeaseRecord) : KeptLease o o :=
  fun l hl => ⟨l, hl, rfl, .inr rfl⟩

theorem KeptLease.trans (h : KeptLease o o') (h' : KeptLease o' o'') : KeptLease o o'' := by
  intro l'' hl''
  obtain ⟨l', hl', hgeneration', hroute'⟩ := h' l'' hl''
  obtain ⟨l, hl, hgeneration, hroute⟩ := h l' hl'
  refine ⟨l, hl, hgeneration'.trans hgeneration, ?_⟩
  rcases hroute' with hnone | hsame
  · exact .inl hnone
  · rw [hsame]
    exact hroute

theorem KeptLease.of_quiet (h : Activation.Quiet o o') : KeptLease o o' := by
  cases h with
  | same o => exact .refl o
  | touched r now =>
    intro l' hl'
    cases hl'
    exact ⟨r, rfl, rfl, .inr rfl⟩
  | cleared r now hr =>
    intro l' hl'
    cases hl'
    exact ⟨r, rfl, rfl, .inl rfl⟩
  | swept r hr => exact nofun

theorem keptLease_leasesAt (r : Registry) (p id : String) (now : Instant) :
    KeptLease (r.leases.get id) ((r.leasesAt p now).get id) :=
  (KeptLease.of_quiet (r.maintain_quiet id now)).trans
    (.of_quiet ((r.maintain now).expireRoute_quiet id p now))

theorem keptLease_touchRoute (r : Registry) (p id : String) (route : RouteKind) (now : Instant) :
    KeptLease (r.leases.get id) ((r.touchRoute p route now).leases.get id) := by
  unfold Registry.touchRoute
  rw [Table.get_modify]
  split
  · rename_i hid
    subst hid
    cases r.leases.get id with
    | none => exact nofun
    | some l =>
      rcases Activation.touch_cases route now l with heq | heq
      · rw [Option.map_some, heq]
        exact .refl _
      · rw [Option.map_some, heq]
        exact .of_quiet (.touched l now)
  · exact .refl _

/-- A step that keeps the lease and the owner's route. -/
theorem Owning.frame (h : Owning id w)
    (hlease : KeptLease (w.registry.leases.get id) (w'.registry.leases.get id))
    (hpeers : w.registry.v2Peers ⊆ w'.registry.v2Peers)
    (howner : ∀ route, w'.owner = some route → w.owner = some route ∧ w'.Holds id route) :
    Owning id w' := by
  refine ⟨fun l' hl' => ?_, fun route hroute => ?_⟩
  · obtain ⟨l, hl, hgeneration, -⟩ := hlease l' hl'
    rw [hgeneration]
    exact ⟨hpeers (h.lease l hl).1, (h.lease l hl).2⟩
  · obtain ⟨howned, hholds⟩ := howner route hroute
    obtain ⟨hmem, -, hroutes⟩ := h.owner route howned
    refine ⟨hpeers hmem, hholds, fun l' hl' => ?_⟩
    obtain ⟨l, hl, -, hnone | hsame⟩ := hlease l' hl'
    · exact .inl hnone
    · rw [hsame]
      exact hroutes l hl

/-- The same, where the sessions and the address of the peer stay too. -/
theorem Server.Holds.same (h : w.Holds id route)
    (hsessions : w'.routes.sessions.get id = w.routes.sessions.get id)
    (haddr : ∀ peer, w.peers.get id = some peer →
      ∃ peer', w'.peers.get id = some peer' ∧ peer'.socketAddr = peer.socketAddr) :
    w'.Holds id route := by
  cases route with
  | native addr =>
    obtain ⟨hnone, peer, hpeer, rfl⟩ := h
    exact ⟨hsessions.trans hnone, haddr peer hpeer⟩
  | webSocket generation connectionId =>
    obtain ⟨hsome, session, hsession, heq⟩ := h
    obtain ⟨peer, hpeer⟩ := Option.isSome_iff_exists.mp hsome
    obtain ⟨peer', hpeer', -⟩ := haddr peer hpeer
    exact ⟨by rw [hpeer']; rfl, session, hsessions.trans hsession, heq⟩

theorem Server.Holds.finds (h : w.Holds id route) (now : Instant) : w.Finds id now route := by
  cases route with
  | native addr =>
    obtain ⟨hnone, peer, hpeer, rfl⟩ := h
    refine ⟨hnone, _, by unfold Server.target; rw [hpeer]; rfl, ?_⟩
    simp [Routes.route, hnone, chooseTarget]
  | webSocket generation connectionId =>
    obtain ⟨hsome, session, hsession, hgeneration, hconnection⟩ := h
    obtain ⟨peer, hpeer⟩ := Option.isSome_iff_exists.mp hsome
    refine ⟨session, _, hsession, hgeneration, hconnection,
      by unfold Server.target; rw [hpeer]; rfl, ?_⟩
    simp [Routes.route, hsession, chooseTarget]

/-! ### Registrations -/

/-- What `process_register_pk` leaves, from `w` to `w'`. -/
structure Processed (rk : RegisterPk) (via : Transport) (now : Instant) (w w' : Server)
    (reply : Option (RegisterPkResult × Option ActivationClaim)) : Prop where
  routes : w'.routes = w.routes
  owner : w'.owner = w.owner
  v2Peers : w.registry.v2Peers ⊆ w'.registry.v2Peers
  lease : KeptLease (w.registry.leases.get rk.id) (w'.registry.leases.get rk.id)
  /-- Only an `OK` over UDP moves the address. -/
  addr : (via.nativeAddr = none ∨ ∀ claim, reply ≠ some (.ok, some claim)) →
    ∀ peer, w.peers.get rk.id = some peer →
      ∃ peer', w'.peers.get rk.id = some peer' ∧ peer'.socketAddr = peer.socketAddr
  claim : ∀ claim, reply = some (.ok, some claim) → (w'.peers.get rk.id).isSome = true ∧
    (Phase.activation claim).Reads w.registry now rk.id w'.registry ∧
    (claim.tracked = true → rk.activationId ≠ [])

theorem beginRegistration_spec {fast : Bool} {registry : Registry} {claim : Option ActivationClaim}
    (h : w.beginRegistration env rk fast a = (registry, claim)) :
    w.registry.v2Peers ⊆ registry.v2Peers ∧
      KeptLease (w.registry.leases.get rk.id) (registry.leases.get rk.id) ∧
      ∀ c, claim = some c → (Phase.activation c).Reads w.registry a.now rk.id registry ∧
        (c.tracked = true → rk.activationId ≠ []) := by
  unfold Server.beginRegistration at h
  split at h
  · cases h
    exact ⟨Finset.Subset.refl _, .refl _, nofun⟩
  · have hkept : ∀ registry next, w.registry.begin env.sha256 a.now a.random
        (.registration (rk.request fast)) = (registry, next) →
        w.registry.v2Peers ⊆ registry.v2Peers ∧
          KeptLease (w.registry.leases.get rk.id) (registry.leases.get rk.id) := by
      intro registry next hbegin
      obtain ⟨hleases, hpeers, -⟩ := Activation.begin_registration hbegin
      refine ⟨hpeers, ?_⟩
      rcases hleases with hsame | hexpired
      · rw [hsame]
        exact .refl _
      · rw [hexpired]
        exact keptLease_leasesAt _ _ _ _
    split at h
    · rename_i registry' c hbegin
      cases h
      obtain ⟨hpeers, hlease⟩ := hkept _ _ hbegin
      refine ⟨hpeers, hlease, fun c' hc' => ?_⟩
      cases hc'
      refine ⟨(Activation.begin_registration hbegin).2.2 _ rfl, fun ht hempty => ?_⟩
      have hlegacy := Activation.begin_legacy (q := rk.request fast) hempty hbegin
      rw [hlegacy] at ht
      cases ht
    · rename_i registry' next hother hbegin
      cases h
      obtain ⟨hpeers, hlease⟩ := hkept _ _ hbegin
      exact ⟨hpeers, hlease, nofun⟩

theorem compare_addr {peer : Peer} {ip : String} {comparison : Comparison}
    (h : peer.compare rk ip = some comparison) : comparison.currentAddr = peer.socketAddr := by
  unfold Peer.compare at h
  split at h
  · cases h
    rfl
  · split at h
    · split at h
      · cases h
      · cases h
        rfl
    · cases h

theorem processRegisterPk_spec {via : Transport}
    {reply : Option (RegisterPkResult × Option ActivationClaim)}
    (h : w.processRegisterPk env rk via a = (w', reply)) : Processed rk via a.now w w' reply := by
  have hget : ∀ peer, w.peers.get rk.id = some peer →
      (w.peers.get rk.id).getD (.default (env.expiredTime a.now)) = peer := by
    intro peer hpeer
    rw [hpeer]
    rfl
  have hinsert : ∀ (peer : Peer), (w.peers.insert rk.id peer).get rk.id = some peer := fun peer =>
    (Table.get_insert ..).trans (if_pos rfl)
  unfold Server.processRegisterPk at h
  dsimp only at h
  split at h
  · cases h
    exact ⟨rfl, rfl, Finset.Subset.refl _, .refl _, fun _ peer hpeer => ⟨peer, hpeer, rfl⟩, nofun⟩
  · split at h
    · cases h
      exact ⟨rfl, rfl, Finset.Subset.refl _, .refl _, fun _ peer hpeer => ⟨peer, hpeer, rfl⟩, nofun⟩
    · split at h
      · cases h
        exact ⟨rfl, rfl, Finset.Subset.refl _, .refl _, fun _ peer hpeer => ⟨peer, hpeer, rfl⟩,
          nofun⟩
      · split at h
        · cases h
          exact ⟨rfl, rfl, Finset.Subset.refl _, .refl _,
            fun _ peer hpeer => ⟨peer, by rw [hinsert, hget peer hpeer], rfl⟩, nofun⟩
        · rename_i comparison hcompare
          split at h
          · rename_i registry hbegin
            obtain ⟨hpeers, hlease, -⟩ := beginRegistration_spec hbegin
            cases h
            exact ⟨rfl, rfl, hpeers, hlease,
              fun _ peer hpeer => ⟨peer, by rw [hinsert, hget peer hpeer], rfl⟩, nofun⟩
          · rename_i registry claim hbegin
            obtain ⟨hpeers, hlease, hreads⟩ := beginRegistration_spec hbegin
            split at h
            · cases h
              refine ⟨rfl, rfl, ?_, ?_,
                fun _ peer hpeer => ⟨peer, by rw [hinsert, hget peer hpeer], rfl⟩, nofun⟩
              · simpa using hpeers
              · simpa using hlease
            · rename_i regPk hcount
              cases h
              refine ⟨rfl, rfl, hpeers, hlease, fun hv peer hpeer => ⟨_, hinsert _, ?_⟩,
                fun c hc => ?_⟩
              · -- An `OK` over a WebSocket stores the address that was there.
                have hnative : via.nativeAddr = none := hv.resolve_right fun hne => hne claim rfl
                have haddr := compare_addr hcompare
                rw [hget peer hpeer] at haddr
                rw [hget peer hpeer, hnative]
                split
                · exact haddr
                · rfl
              · cases hc
                exact ⟨by rw [hinsert]; rfl, hreads claim rfl⟩

/-- A claim that is refused or not made keeps all. -/
theorem Owning.refused {via : Transport} {reply : Option (RegisterPkResult × Option ActivationClaim)}
    (h : Owning rk.id w) (hp : Processed rk via a.now w w' reply)
    (haddr : via.nativeAddr = none ∨ ∀ claim, reply ≠ some (.ok, some claim)) :
    Owning rk.id w' := by
  refine h.frame hp.lease hp.v2Peers fun route hroute => ?_
  rw [hp.owner] at hroute
  refine ⟨hroute, ((h.owner route hroute).2.1).same (by rw [hp.routes]) (hp.addr haddr)⟩

/-- The record of a claim that is committed. -/
theorem commit_leases (w : Server) (claim : ActivationClaim) (route : RouteKind) (now : Instant) :
    (w.commit claim route now).registry.leases =
      if claim.tracked then w.registry.leases.insert claim.peerId (claim.record route now)
      else w.registry.leases := by
  unfold Server.commit ActivationClaim.commit
  rw [Registry.release_leases]
  cases claim.tracked <;> rfl

theorem commit_v2Peers (w : Server) (claim : ActivationClaim) (route : RouteKind) (now : Instant) :
    (w.commit claim route now).registry.v2Peers = w.registry.v2Peers := by
  unfold Server.commit ActivationClaim.commit
  rw [Registry.release_v2Peers]
  cases claim.tracked <;> rfl

/-- A tracked claim's generation is not zero, and its peer is among `v2_peers`. -/
theorem claim_positive {r : Registry} {claim : ActivationClaim}
    (h : ∀ l, w.registry.leases.get id = some l → id ∈ w.registry.v2Peers ∧ l.generation ≠ 0)
    (hgeneration : w.registry.nextGeneration ≠ 0)
    (hreads : (Phase.activation claim).Reads w.registry now id r) (ht : claim.tracked = true) :
    claim.generation ≠ 0 ∧ id ∈ r.v2Peers := by
  obtain ⟨-, hleases, hpeers, -, htracked⟩ := hreads
  obtain ⟨-, hmem, hgen⟩ := htracked ht
  -- The records that it read are those there were, less what has expired.
  have hold : ∀ l, r.leases.get id = some l → id ∈ r.v2Peers ∧ l.generation ≠ 0 := by
    intro l hl
    rw [hleases] at hl
    obtain ⟨l', hl', hsame, -⟩ := keptLease_leasesAt w.registry id id now l hl
    rw [hsame]
    exact ⟨hpeers (h l' hl').1, (h l' hl').2⟩
  refine ⟨?_, hmem.elim (fun hm => hm) fun ⟨l, hl⟩ => (hold l hl).1⟩
  rcases hgen with hnext | ⟨l, hl, hsame⟩
  · rw [hnext]
    exact hgeneration
  · rw [hsame]
    exact (hold l hl).2

/-- A registration that ends with its route committed: tracked, it owns the peer; else nobody has
owned it, and nobody does. -/
theorem Owning.accepted {via : Transport} {claim : ActivationClaim} {w₁ : Server}
    (h : Owning rk.id w) (route : RouteKind) (hgeneration : w.registry.nextGeneration ≠ 0)
    (hp : Processed rk via a.now w w₁ (some (.ok, some claim)))
    (hregistry : w'.registry = (w₁.commit claim route a.now).registry)
    (howner : w'.owner = (w₁.acknowledge claim route).owner)
    (hholds : claim.tracked = true → w'.Holds rk.id route) : Owning rk.id w' := by
  obtain ⟨-, hreads, -⟩ := hp.claim claim rfl
  cases ht : claim.tracked with
  | true =>
    obtain ⟨hne, hmem⟩ := claim_positive h.lease hgeneration hreads ht
    have hpeer : claim.peerId = rk.id := hreads.1
    have hget : w'.registry.leases.get rk.id = some (claim.record route a.now) := by
      rw [hregistry, commit_leases, ht, if_pos rfl, hpeer]
      exact (Table.get_insert ..).trans (if_pos rfl)
    have hv : w'.registry.v2Peers = w₁.registry.v2Peers := by rw [hregistry, commit_v2Peers]
    rw [← hv] at hmem
    refine ⟨fun l hl => ?_, fun route' hroute' => ?_⟩
    · rw [hget] at hl
      cases hl
      exact ⟨hmem, hne⟩
    · have hroute : route' = route := by
        rw [howner] at hroute'
        unfold Server.acknowledge at hroute'
        rw [if_pos ⟨ht, hne⟩] at hroute'
        exact (Option.some.inj hroute').symm
      subst hroute
      refine ⟨hmem, hholds ht, fun l hl => ?_⟩
      rw [hget] at hl
      cases hl
      exact .inr rfl
  | false =>
    have hlegacy : rk.id ∉ w.registry.v2Peers := hreads.2.2.2.1 ht
    have hnone : w'.owner = none := by
      rw [howner]
      unfold Server.acknowledge
      rw [if_neg (by simp [ht]), hp.owner]
      cases ho : w.owner with
      | none => rfl
      | some route' => exact absurd (h.owner route' ho).1 hlegacy
    have hleases : w'.registry.leases = w₁.registry.leases := by
      rw [hregistry, commit_leases, ht]
      rfl
    have hv : w'.registry.v2Peers = w₁.registry.v2Peers := by rw [hregistry, commit_v2Peers]
    refine h.frame ?_ ?_ fun route hroute => ?_
    · rw [hleases]
      exact hp.lease
    · rw [hv]
      exact hp.v2Peers
    · rw [hnone] at hroute
      cases hroute

theorem acknowledge_owner (claim : ActivationClaim) (route : RouteKind) (h : w'.owner = w.owner) :
    (w'.acknowledge claim route).owner = (w.acknowledge claim route).owner := by
  unfold Server.acknowledge
  split
  · rfl
  · exact h

theorem acknowledge_rest (w : Server) (claim : ActivationClaim) (route : RouteKind) :
    (w.acknowledge claim route).peers = w.peers ∧ (w.acknowledge claim route).routes = w.routes ∧
      (w.acknowledge claim route).registry = w.registry := by
  unfold Server.acknowledge
  split <;> exact ⟨rfl, rfl, rfl⟩

theorem Server.Holds.congr (h : w.Holds id route) (hpeers : w'.peers = w.peers)
    (hroutes : w'.routes = w.routes) : w'.Holds id route :=
  h.same (by rw [hroutes]) fun peer hpeer => ⟨peer, by rw [hpeers]; exact hpeer, rfl⟩

/-- The session that the lease names is taken away. -/
theorem removed_named {r : Routes} {session : Routing.Session}
    (hget : r.sessions.get id = some session) :
    (r.removeIfCurrentInner id session.generation session.connectionId true).2.sessions.get id =
      none := by
  unfold Routes.removeIfCurrentInner
  rw [hget]
  simp [Routes.abort]

theorem removed_none {r : Routes} (hget : r.sessions.get id = none) (generation connectionId : Nat) :
    (r.removeIfCurrentInner id generation connectionId true).2.sessions.get id = none := by
  unfold Routes.removeIfCurrentInner
  rw [hget]
  exact hget

theorem removePrevious_rest (w : Server) (id : String) (claim : ActivationClaim) :
    (w.removePrevious id claim).peers = w.peers ∧
      (w.removePrevious id claim).registry = w.registry ∧
      (w.removePrevious id claim).owner = w.owner := by
  unfold Server.removePrevious
  split <;> exact ⟨rfl, rfl, rfl⟩

/-- If the peer has a session, the claim names it, and it goes. -/
theorem removePrevious_sessions {claim : ActivationClaim} (ht : claim.tracked = true)
    (hnamed : ∀ session, w.routes.sessions.get id = some session →
      claim.previousRoute = some (.webSocket session.generation session.connectionId)) :
    (w.removePrevious id claim).routes.sessions.get id = none := by
  unfold Server.removePrevious
  cases hget : w.routes.sessions.get id with
  | some session =>
    rw [ht, hnamed session hget]
    exact removed_named hget
  | none =>
    rw [ht]
    split
    · exact removed_none hget ..
    · exact hget

theorem previous_of_leases {r : Registry} {claim : ActivationClaim} {session : Routing.Session}
    (hreads : (Phase.activation claim).Reads w.registry now id r) (ht : claim.tracked = true)
    (hnamed : ((w.registry.leasesAt id now).get id).any (fun lease =>
      lease.route == some (.webSocket session.generation session.connectionId)) = true) :
    claim.previousRoute = some (.webSocket session.generation session.connectionId) := by
  obtain ⟨-, hleases, -, -, htracked⟩ := hreads
  obtain ⟨lease, hlease, hroute⟩ := (Option.any_eq_true ..).mp hnamed
  rw [← hleases] at hlease
  rw [(htracked ht).1, hlease]
  exact beq_iff_eq.mp hroute

theorem Owning.registerUdp {addr : SocketAddr} (h : Owning rk.id w)
    (hg : (ServerMove.registerUdp rk addr a).orderly rk.id w = true) :
    Owning rk.id (w.registerUdp env rk addr a) := by
  simp only [ServerMove.orderly, Bool.and_eq_true, bne_iff_ne, Bool.or_eq_true,
    List.isEmpty_iff] at hg
  obtain ⟨hgeneration, hnamed⟩ := hg
  unfold Server.registerUdp
  split
  · rename_i w₁ claim hprocess
    have hp := processRegisterPk_spec hprocess
    obtain ⟨hsome, hreads, hactivation⟩ := hp.claim claim rfl
    obtain ⟨peer, hpeer⟩ := Option.isSome_iff_exists.mp hsome
    dsimp only
    generalize hw₂ : (w₁.modifyPeer rk.id fun peer =>
      peer.activateNativeRoute addr claim.generation a.now) = w₂
    have hpeer₂ : w₂.peers.get rk.id =
        some (peer.activateNativeRoute addr claim.generation a.now) := by
      rw [← hw₂]
      exact (Table.get_modify ..).trans (by rw [if_pos rfl, hpeer]; rfl)
    have hrest₂ : w₂.routes = w.routes ∧ w₂.registry = w₁.registry ∧ w₂.owner = w₁.owner := by
      rw [← hw₂]
      exact ⟨hp.routes, rfl, rfl⟩
    obtain ⟨hroutes₂, hregistry₂, howner₂⟩ := hrest₂
    generalize hw₃ : (w₂.commit claim (.native addr) a.now).removePrevious rk.id claim = w₃
    obtain ⟨hpeers₃, hregistry₃, howner₃⟩ :=
      removePrevious_rest (w₂.commit claim (.native addr) a.now) rk.id claim
    rw [hw₃] at hpeers₃ hregistry₃ howner₃
    obtain ⟨hpeers₄, hroutes₄, hregistry₄⟩ := acknowledge_rest w₃ claim (.native addr)
    refine h.accepted (.native addr) hgeneration hp ?_ ?_ fun ht => ?_
    · rw [hregistry₄, hregistry₃]
      unfold Server.commit
      rw [hregistry₂]
    · exact acknowledge_owner claim _ (howner₃.trans howner₂)
    · have hnone : w₃.routes.sessions.get rk.id = none := by
        rw [← hw₃]
        refine removePrevious_sessions ht fun session hsession => ?_
        have hold : w.routes.sessions.get rk.id = some session := hroutes₂ ▸ hsession
        have hlease := hnamed.resolve_left (hactivation ht)
        rw [hold] at hlease
        exact previous_of_leases hreads ht hlease
      have hholds : w₃.Holds rk.id (.native addr) :=
        ⟨hnone, _, by rw [hpeers₃]; exact hpeer₂, rfl⟩
      exact hholds.congr hpeers₄ hroutes₄
  · rename_i w₁ reply hother hprocess
    have hp := processRegisterPk_spec hprocess
    exact h.refused hp (.inr fun claim hc => hother claim hc)

theorem Owning.registerWebSocket {connectionId : Nat} {routeAddr effectiveAddr : SocketAddr}
    (h : Owning rk.id w) (hgeneration : w.registry.nextGeneration ≠ 0) :
    Owning rk.id (w.registerWebSocket env rk connectionId routeAddr effectiveAddr a) := by
  unfold Server.registerWebSocket
  split
  · exact h
  split
  · exact h
  split
  · exact h
  split
  · rename_i w₁ claim hprocess
    have hp := processRegisterPk_spec hprocess
    obtain ⟨hsome, hreads, -⟩ := hp.claim claim rfl
    split
    · rename_i token routes hbind
      obtain ⟨-, -, -, hsession, -⟩ := Routing.bind_ok hbind
      dsimp only
      generalize hw₂ : (({ w₁ with routes } : Server).modifyPeer rk.id fun peer =>
        peer.activateWebsocketRoute claim.generation a.now) = w₂
      generalize hw₃ : ((w₂.commit claim (.webSocket claim.generation connectionId)
        a.now).modifyPeer rk.id fun peer => peer.touch a.now) = w₃
      have hrest₃ : w₃.routes = routes ∧ w₃.owner = w₁.owner ∧ w₃.registry =
          (w₁.commit claim (.webSocket claim.generation connectionId) a.now).registry := by
        rw [← hw₃, ← hw₂]
        exact ⟨rfl, rfl, rfl⟩
      have hpeer₃ : (w₃.peers.get rk.id).isSome = true := by
        obtain ⟨peer, hpeer⟩ := Option.isSome_iff_exists.mp hsome
        rw [← hw₃, ← hw₂]
        simp [Server.modifyPeer, Server.commit, hpeer]
      obtain ⟨hroutes₃, howner₃, hregistry₃⟩ := hrest₃
      obtain ⟨hpeers₄, hroutes₄, hregistry₄⟩ :=
        acknowledge_rest w₃ claim (.webSocket claim.generation connectionId)
      refine h.accepted (.webSocket claim.generation connectionId) hgeneration hp
        (hregistry₄.trans hregistry₃) (acknowledge_owner claim _ howner₃) fun _ => ?_
      have hholds : w₃.Holds rk.id (.webSocket claim.generation connectionId) := by
        rw [← hroutes₃] at hsession
        exact ⟨hpeer₃, _, hsession, rfl, rfl⟩
      exact hholds.congr hpeers₄ hroutes₄
    · -- The session table has no room: the registration has stored nothing that is looked at here.
      have hrefused := h.refused hp (.inl rfl)
      exact hrefused.frame (by simpa using .refl _) (by simp) fun route hroute =>
        ⟨hroute, (hrefused.owner route hroute).2.1⟩
  · rename_i w₁ reply hother hprocess
    exact h.refused (processRegisterPk_spec hprocess) (.inl rfl)

/-! ### The other handlers -/

theorem keptLease_expireRoute (r : Registry) (p id : String) (now : Instant) :
    KeptLease (r.leases.get id) ((r.expireRoute p now).leases.get id) :=
  .of_quiet (r.expireRoute_quiet id p now)

/-- What changes only the registry, and there only by expiry. -/
theorem Owning.registry {registry : Registry} (h : Owning id w)
    (hlease : KeptLease (w.registry.leases.get id) (registry.leases.get id))
    (hpeers : w.registry.v2Peers ⊆ registry.v2Peers) : Owning id { w with registry } :=
  h.frame hlease hpeers fun route hroute => ⟨hroute, (h.owner route hroute).2.1⟩

theorem Owning.begun {registry : Registry} (h : Owning id w) {p : String}
    (hr : registry = w.registry ∨ registry = w.registry.expireRoute p now) :
    Owning id { w with registry } := by
  rcases hr with rfl | rfl
  · exact h.registry (.refl _) (Finset.Subset.refl _)
  · exact h.registry (keptLease_expireRoute _ _ _ _) (Finset.Subset.refl _)

/-- A renewal commits to the route that it found. -/
theorem renewed_lease {claim : Activation.RenewalClaim} {registry : Registry} (now : Instant)
    (hroute : claim.tracked = true → claim.previousRoute = some route)
    (hfound : claim.tracked = true → ∃ l, registry.leases.get claim.peerId = some l ∧
      l.route = claim.previousRoute) :
    KeptLease (registry.leases.get claim.peerId)
      ((claim.commit registry route now).leases.get claim.peerId) := by
  unfold Activation.RenewalClaim.commit
  split
  · exact .refl _
  · rename_i ht
    rw [Bool.not_eq_true', Bool.not_eq_false] at ht
    obtain ⟨l, hl, hsame⟩ := hfound ht
    dsimp only
    rw [Table.get_modify, if_pos rfl, hl, Option.map_some]
    split
    · intro l' hl'
      cases hl'
      exact ⟨l, rfl, rfl, .inr (by rw [hsame, hroute ht])⟩
    · exact .refl _

theorem lookupRenewal_tracked {q : RenewalRequest} {generation : Nat} {previous : Option RouteKind}
    (h : Registry.lookupRenewal o q = some (generation, previous, true)) :
    ∃ l, o = some l ∧ l.route = previous := by
  unfold Registry.lookupRenewal at h
  split at h
  · split at h <;> cases h
  · rename_i l
    split at h
    · cases h
    · split at h
      · cases h
        exact ⟨l, rfl, rfl⟩
      · cases h

theorem Owning.registerPeer {q : RenewalRequest} {addr : SocketAddr} {takes : Bool}
    (h : Owning q.peerId w)
    (hg : (ServerMove.registerPeer q addr takes a).orderly q.peerId w = true) :
    Owning q.peerId (w.registerPeer env q addr takes a) := by
  unfold Server.registerPeer
  split
  · exact h
  split
  · rename_i registry claim hbegin
    obtain ⟨hr, hclaim⟩ := Activation.begin_renewal hbegin
    obtain ⟨hregistry, hpeer, hlookup⟩ := hclaim claim rfl
    have hbegun : Owning q.peerId { w with registry } := h.begun hr
    split
    · exact hbegun
    · rename_i hroute
      split
      · rename_i htakes
        have htracked : claim.tracked = true → claim.previousRoute = some (.native addr) := by
          intro ht
          simpa [ht] using hroute
        have hfound : claim.tracked = true → ∃ l, registry.leases.get claim.peerId = some l ∧
            l.route = claim.previousRoute := by
          intro ht
          rw [ht] at hlookup
          rw [hpeer]
          exact lookupRenewal_tracked hlookup
        -- The heartbeat comes from the owner's address, if that is one.
        have hsame : ∀ owned, w.owner = some (.native owned) → owned = addr := by
          intro owned howned
          cases ht : claim.tracked with
          | true =>
            obtain ⟨l, hl, hl'⟩ := hfound ht
            rw [htracked ht] at hl'
            rw [hpeer] at hl
            rcases (hbegun.owner _ howned).2.2 l hl with hnone | hsome
            · rw [hnone] at hl'
              cases hl'
            · rw [hsome] at hl'
              cases hl'
              rfl
          | false =>
            rw [ht] at hlookup
            simp only [ServerMove.orderly, htakes, ← hregistry, hlookup, howned,
              Option.any_some, Bool.not_false, Bool.and_self, Bool.not_true, Bool.false_or,
              beq_iff_eq] at hg
            exact hg
        have hlease := renewed_lease a.now htracked hfound
        rw [hpeer] at hlease
        refine hbegun.frame hlease ?_ fun route howner => ⟨howner, ?_⟩
        · unfold Activation.RenewalClaim.commit
          split <;> exact Finset.Subset.refl _
        · have hholds := (hbegun.owner route howner).2.1
          cases route with
          | native owned =>
            obtain ⟨hnone, peer, hpeer', -⟩ := hholds
            refine ⟨hnone, peer.updateAddr addr claim.generation a.now, ?_, ?_⟩
            · exact (Table.get_modify ..).trans (by rw [if_pos rfl]; exact congrArg _ hpeer')
            · exact (hsame owned howner).symm
          | webSocket generation connectionId =>
            obtain ⟨hsome, hsession⟩ := hholds
            refine ⟨?_, hsession⟩
            have hmodified : ((w.peers.modify q.peerId fun peer =>
                peer.updateAddr addr claim.generation a.now).get q.peerId).isSome = true := by
              rw [Table.get_modify, if_pos rfl, Option.isSome_map]
              exact hsome
            exact hmodified
      · exact hbegun
  · rename_i registry next hother hbegin
    exact h.begun (Activation.begin_renewal hbegin).1

theorem Owning.frameReceived {token : Routing.SessionToken} (h : Owning token.peerId w) :
    Owning token.peerId (w.frame token now) := by
  refine h.frame (keptLease_touchRoute _ _ _ _ _) (Finset.Subset.refl _) fun route howner =>
    ⟨howner, (h.owner route howner).2.1.same rfl fun peer hpeer => ⟨peer.touch now, ?_, rfl⟩⟩
  exact (Table.get_modify ..).trans (by rw [if_pos rfl, hpeer]; rfl)

/-- Nobody owns a peer whose route has just gone. -/
theorem disown_owner (hroute : ∀ route', w.owner = some route' → route' = route) :
    (w.disown route).owner = none := by
  unfold Server.disown
  split
  · rfl
  · rename_i hne
    cases howner : w.owner with
    | none => rfl
    | some route' => exact absurd (by rw [howner, hroute route' howner]) hne

/-- What leaves a peer without an owner. -/
theorem Owning.disowned (h : Owning id w)
    (hlease : KeptLease (w.registry.leases.get id) (w'.registry.leases.get id))
    (hpeers : w.registry.v2Peers ⊆ w'.registry.v2Peers) (howner : w'.owner = none) :
    Owning id w' :=
  h.frame hlease hpeers fun route hroute => by rw [howner] at hroute; cases hroute

theorem disown_rest (w : Server) (route : RouteKind) :
    (w.disown route).registry = w.registry := by
  unfold Server.disown
  split <;> rfl

/-- The owner of a peer with a session is that session. -/
theorem owner_of_session (h : Owning id w) {session : Routing.Session}
    (hget : w.routes.sessions.get id = some session) (howner : w.owner = some route) :
    route = .webSocket session.generation session.connectionId := by
  have hholds := (h.owner route howner).2.1
  cases route with
  | native addr =>
    rw [hholds.1] at hget
    cases hget
  | webSocket generation connectionId =>
    obtain ⟨-, session', hget', hgeneration, hconnection⟩ := hholds
    rw [hget] at hget'
    cases hget'
    rw [hgeneration, hconnection]

theorem Owning.removeSession {generation connectionId : Nat} (h : Owning id w) :
    Owning id (w.removeSession env id generation connectionId now) := by
  unfold Server.removeSession
  rcases Routing.removeIfCurrentInner_answer w.routes id generation connectionId true with
    heq | ⟨session, routes, hget, rfl, rfl, heq⟩
  · rw [heq]
    exact h
  · rw [heq]
    dsimp only
    rw [if_pos rfl]
    refine h.disowned ?_ ?_ (disown_owner fun route' howner => owner_of_session h hget howner)
    · rw [disown_rest]
      exact .of_quiet (w.registry.disconnectRoute_quiet id id _ now)
    · rw [disown_rest]
      exact Finset.Subset.refl _

/-- A deactivation removes the route that its claim has found in the lease. -/
theorem Owning.removeRoute {claim : DeactivationClaim} {abortWriter : Bool} (h : Owning id w)
    {lease : LeaseRecord} (hlease : w.registry.leases.get id = some lease)
    (hroute : lease.route = some claim.route) :
    Owning id (w.removeRoute env id claim abortWriter now).2 := by
  have howner : ∀ route', w.owner = some route' → route' = claim.route := by
    intro route' howner
    rcases (h.owner route' howner).2.2 lease hlease with hnone | hsome
    · rw [hnone] at hroute
      cases hroute
    · rw [hsome] at hroute
      exact Option.some.inj hroute
  have hgone : ∀ w' : Server, w'.registry = w.registry → w'.owner = w.owner →
      Owning id (w'.disown claim.route) := by
    intro w' hregistry hsame
    refine h.disowned ?_ ?_ (disown_owner fun route' hr => howner route' (hsame ▸ hr))
    · rw [disown_rest, hregistry]
      exact .refl _
    · rw [disown_rest, hregistry]
  unfold Server.removeRoute
  split
  · split
    · exact hgone _ rfl rfl
    · exact h
  · rename_i generation connectionId _
    rcases Routing.removeIfCurrentInner_answer w.routes id generation connectionId abortWriter with
      heq | ⟨session, routes, -, -, -, heq⟩
    · rw [heq]
      exact h
    · rw [heq]
      exact hgone _ rfl rfl

theorem keptLease_deactivated (r : Registry) (claim : DeactivationClaim) (removed : Bool) :
    KeptLease (r.leases.get id) ((claim.commit r removed now).leases.get id) := by
  unfold Activation.DeactivationClaim.commit
  split
  · exact .refl _
  · dsimp only
    rw [Table.get_modify]
    split
    · rename_i hid
      subst hid
      cases r.leases.get claim.peerId with
      | none => exact nofun
      | some l =>
        rw [Option.map_some]
        split
        · intro l' hl'
          cases hl'
          exact ⟨l, rfl, rfl, .inl rfl⟩
        · exact .refl _
    · exact .refl _

theorem deactivated_v2Peers (r : Registry) (claim : DeactivationClaim) (removed : Bool) :
    (claim.commit r removed now).v2Peers = r.v2Peers := by
  unfold Activation.DeactivationClaim.commit
  split <;> rfl

theorem Owning.deactivate {q : DeactivationRequest} {token : Option Routing.SessionToken}
    (h : Owning q.peerId w) : Owning q.peerId (w.deactivate env q token a) := by
  unfold Server.deactivate
  split
  · exact h
  split
  · rename_i registry claim hbegin
    obtain ⟨hr, hclaim⟩ := Activation.begin_deactivation hbegin
    obtain ⟨-, lease, hlease, hroute⟩ := hclaim claim rfl
    have hbegun : Owning q.peerId { w with registry } := h.begun hr
    split
    · exact hbegun
    · have hremoved : Owning q.peerId (Server.removeRoute env { w with registry } q.peerId claim
          token.isNone a.now).2 := hbegun.removeRoute hlease hroute
      exact hremoved.registry (keptLease_deactivated _ _ _) (deactivated_v2Peers _ _ _).ge
  · rename_i registry next hother hbegin
    exact h.begun (Activation.begin_deactivation hbegin).1

theorem Owning.drain {leasesBusy : Bool} (h : Owning id w) :
    Owning id (w.drain leasesBusy now) := by
  refine h.frame ?_ ?_ fun route hroute => ?_
  · unfold Server.drain
    dsimp only
    split
    · exact .refl _
    · rcases w.registry.disconnectWebsocketRoutesNow_get id w.routes.drain.1 now with
        hsame | ⟨l, hl, hsome, hcleared⟩
      · rw [hsame]
        exact .refl _
      · rw [hl, hcleared]
        exact .of_quiet (.cleared l now hsome)
  · unfold Server.drain
    dsimp only
    split
    · exact Finset.Subset.refl _
    · obtain ⟨leases, heq⟩ := w.registry.disconnectWebsocketRoutesNow_eq w.routes.drain.1 now
      rw [heq]
  · unfold Server.drain at hroute
    dsimp only at hroute
    split at hroute
    · cases hroute
    · rename_i hnative
      have hholds := (h.owner route hroute).2.1
      cases route with
      | webSocket generation connectionId => exact absurd hroute (hnative generation connectionId)
      | native addr => exact ⟨hroute, Table.get_empty id, hholds.2⟩

/-! ### Runs -/

theorem Owning.step {m : ServerMove} (h : Owning id w) (hg : orderlyOf id w m = true)
    (hw : w.step env m = some w') : Owning id w' := by
  unfold orderlyOf at hg
  rw [Bool.and_eq_true] at hg
  obtain ⟨hpeer, hg⟩ := hg
  cases m with
  | registerUdp rk addr a =>
    cases hw
    obtain rfl : rk.id = id := by simpa [ServerMove.peerId] using hpeer
    exact h.registerUdp hg
  | registerWebSocket rk connectionId routeAddr effectiveAddr a =>
    cases hw
    obtain rfl : rk.id = id := by simpa [ServerMove.peerId] using hpeer
    exact h.registerWebSocket (bne_iff_ne.mp hg)
  | registerPeer q addr takes a =>
    cases hw
    obtain rfl : q.peerId = id := by simpa [ServerMove.peerId] using hpeer
    exact h.registerPeer hg
  | frame token now =>
    cases hw
    obtain rfl : token.peerId = id := by simpa [ServerMove.peerId] using hpeer
    exact h.frameReceived
  | removeSession p generation connectionId now =>
    cases hw
    obtain rfl : p = id := by simpa [ServerMove.peerId] using hpeer
    exact h.removeSession
  | deactivate q token a =>
    cases hw
    obtain rfl : q.peerId = id := by simpa [ServerMove.peerId] using hpeer
    exact h.deactivate
  | drain leasesBusy now =>
    cases hw
    exact h.drain
  | expireRoute p now =>
    cases hw
    exact h.registry (keptLease_expireRoute _ _ _ _) (Finset.Subset.refl _)
  | maintain now =>
    cases hw
    exact h.registry (.of_quiet (w.registry.maintain_quiet id now))
      (Activation.maintain_rest w.registry now).1.ge

theorem Owning.init (peers : Table String Peer) (id : String) : Owning id (.init peers) := by
  refine ⟨fun l hl => ?_, nofun⟩
  have hnone : (Server.init peers).registry.leases.get id = none := Table.get_empty id
  rw [hnone] at hl
  cases hl

end

/-- In a run of one peer in which the session before a registration over UDP is the one that the
lease names, a heartbeat without a lease comes from the owner's address and the generations have not
wrapped, the peer is found where its newest acknowledged activation is. -/
theorem newest_owns_dispatch (env : Env) (peers : Table String Peer) (id : String)
    {ms : List ServerMove} {w : Server} {route : RouteKind}
    (h : Run (Guarded (Server.step env) (orderlyOf id)) (.init peers) ms w)
    (howner : w.owner = some route) (now : Instant) : w.Finds id now route :=
  ((h.invariant (P := Owning id) (.init peers id) fun _ _ _ ho hn => ho.step hn.1 hn.2).owner route
    howner).2.1.finds now

/-! ## A session in front -/

def sampleAnswers : Answers := ⟨true, true, true, true, 0, Activation.sampleLease 7⟩

def activationRequest (epoch : Nat) : RegisterPk :=
  { legacyRequest 1 with activationEpoch := epoch, activationId := List.replicate 16 5 }

def overWebSocket (rk : RegisterPk) : ServerMove :=
  .registerWebSocket rk 5 (.v4 1 1000) (.v4 1 1000) sampleAnswers

def overUdp (rk : RegisterPk) : ServerMove := .registerUdp rk (.v4 1 2000) sampleAnswers

/-- From a WebSocket to UDP, both with an activation. -/
theorem newest_owns_dispatch_moved : ∃ w,
    Run (Guarded (Server.step sampleEnv) (orderlyOf "peer-1")) (.init .empty)
      [overWebSocket (activationRequest 1), overUdp (activationRequest 2)] w ∧
    w.owner = some (.native (.v4 1 2000)) ∧ w.Finds "peer-1" 0 (.native (.v4 1 2000)) := by
  have hrun : (exec (Server.step sampleEnv) (orderlyOf "peer-1") (.init .empty)
      [overWebSocket (activationRequest 1), overUdp (activationRequest 2)]).map Server.owner =
        some (some (.native (.v4 1 2000))) := by rfl
  obtain ⟨w, hw, howner⟩ := Option.map_eq_some_iff.mp hrun
  exact ⟨w, .of_exec hw, howner,
    newest_owns_dispatch sampleEnv .empty "peer-1" (.of_exec hw) howner 0⟩

/-- A legacy session has no lease, so a registration over UDP leaves it in front. -/
theorem legacy_session_in_front :
    ¬ ∀ (env : Env) (peers : Table String Peer) (id : String) (ms : List ServerMove) (w : Server)
      (route : RouteKind),
      Run (Guarded (Server.step env) fun _ m => m.peerId.all (· == id)) (.init peers) ms w →
      w.owner = some route → ∀ now, w.Finds id now route := by
  intro hall
  have hrun : (exec (Server.step sampleEnv) (fun _ m => m.peerId.all (· == "peer-1"))
      (.init .empty) [overWebSocket (legacyRequest 1), overUdp (activationRequest 1)]).any (fun w =>
        w.owner == some (.native (.v4 1 2000)) &&
          (w.routes.sessions.get "peer-1").isSome) = true := by rfl
  simp only [Option.any_eq_true, Bool.and_eq_true, beq_iff_eq] at hrun
  obtain ⟨w, hw, howner, hsome⟩ := hrun
  have hnone := (hall sampleEnv .empty "peer-1" _ w _ (.of_exec hw) howner 0).1
  rw [hnone] at hsome
  cases hsome

end Starry.Rendezvous
