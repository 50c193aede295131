import Starry.Activation.Steps
import Starry.Routing.Sessions

/-!
# Registering a public key

A `RegisterPk` over UDP or over a WebSocket passes many awaits: between two of them any other
handler may run. A handler is a list entry with the stage it has reached, and one step of it goes
from one await to the next.
-/

open Library

namespace Starry.Rendezvous

open Starry.Activation (ActivationClaim RandomLease RegistrationRequest RouteKind activationIdBytes)
open Starry.Routing (Routes SessionToken nowMillis)

/-! ## Peers -/

structure Peer where
  uuid : Bytes
  pk : Bytes
  socketAddr : SocketAddr
  lastRegTime : Instant
  routeGeneration : Nat
  /-- `info.ip` -/
  ip : String
  /-- How often the peer registered, and when last. -/
  regPk : Nat × Instant
deriving DecidableEq, Repr

def unspecified : SocketAddr := .v4 0 0

/-- What the code around the handlers fixes. -/
structure Env where
  sha256 : Bytes → Bytes
  ipText : IpAddr → String
  /-- `get_expired_time` -/
  expiredTime : Instant → Instant
  maxSessions : Nat
  maxSessionsPerEffectiveIp : Nat

def Peer.default (expired : Instant) : Peer := ⟨[], [], unspecified, expired, 0, "", (0, expired)⟩

structure RegisterPk where
  id : String
  uuid : Bytes
  pk : Bytes
  activationEpoch : Nat
  activationId : Bytes
deriving DecidableEq, Repr

inductive RegisterPkResult
  | ok | uuidMismatch | tooFrequent | serverError
deriving DecidableEq, Repr

def isVerifiedFastRegistration (peers : Table String Peer) (rk : RegisterPk) : Bool :=
  if rk.activationId.length != activationIdBytes || rk.activationEpoch == 0 ||
      rk.uuid.length != 16 || rk.pk.isEmpty then false
  else match peers.get rk.id with
    | none => false
    | some peer => !peer.uuid.isEmpty && peer.uuid == rk.uuid && peer.pk == rk.pk

/-- What a registration keeps of its look at the peer. -/
structure Comparison where
  changed : Bool
  currentAddr : SocketAddr
deriving DecidableEq, Repr

/-- `none` is an identity mismatch. -/
def Peer.compare (peer : Peer) (rk : RegisterPk) (ip : String) : Option Comparison :=
  if peer.uuid.isEmpty then some ⟨true, peer.socketAddr⟩
  else if peer.uuid == rk.uuid then
    if peer.ip != ip && peer.pk != rk.pk then none
    else
      let ipChanged := peer.ip != ip
      some ⟨peer.uuid != rk.uuid || peer.pk != rk.pk || ipChanged, peer.socketAddr⟩
  else none

/-- The next `reg_pk`, unless the peer registers too often. -/
def countRegistration (regPk : Nat × Instant) (fastIdentityVerified : Bool) (now : Instant) :
    Option (Nat × Instant) :=
  if (now - regPk.2) / secs 1 > 6 then some (1, now)
  else if !fastIdentityVerified && regPk.1 > 2 then none
  else some (min (regPk.1 + 1) u32Max, now)

namespace Peer

variable (peer : Peer)

/-- What `PeerMap::update_pk` stores. -/
def updatePk (addr : SocketAddr) (rk : RegisterPk) (ip : String) (now : Instant) : Peer :=
  { peer with socketAddr := addr, uuid := rk.uuid, pk := rk.pk, lastRegTime := now, ip }

/-- A registration that changes nothing. -/
def refresh (nativeAddr : Option SocketAddr) (now : Instant) : Peer :=
  { peer with lastRegTime := now, socketAddr := nativeAddr.getD peer.socketAddr }

def activateNativeRoute (addr : SocketAddr) (routeGeneration : Nat) (now : Instant) : Peer :=
  { peer with socketAddr := addr, routeGeneration, lastRegTime := now }

def activateWebsocketRoute (routeGeneration : Nat) (now : Instant) : Peer :=
  { peer with socketAddr := unspecified, routeGeneration, lastRegTime := now }

def expireWebsocketRoute (routeGeneration : Nat) (expired : Instant) : Peer :=
  if peer.routeGeneration = routeGeneration then
    { peer with routeGeneration := 0, lastRegTime := expired }
  else peer

/-- `update_addr`, where it takes the address. -/
def updateAddr (addr : SocketAddr) (routeGeneration : Nat) (now : Instant) : Peer :=
  { peer with
    socketAddr := addr
    routeGeneration := if routeGeneration ≠ 0 then routeGeneration else peer.routeGeneration
    lastRegTime := now }

/-- The native branch of `process_peer_deactivation`. -/
def deactivateNative (expectedAddr : SocketAddr) (generation : Nat) (expired : Instant) :
    Option Peer :=
  if peer.socketAddr = expectedAddr ∧ peer.routeGeneration = generation then
    some { peer with socketAddr := unspecified, routeGeneration := 0, lastRegTime := expired }
  else none

/-- `touch_registered_peer` -/
def touch (now : Instant) : Peer := { peer with lastRegTime := now }

end Peer

/-! ## Handlers -/

inductive Transport
  | udp (addr : SocketAddr)
  | webSocket (connectionId : Nat) (routeAddr effectiveAddr : SocketAddr)
deriving DecidableEq, Repr

def Transport.effectiveAddr : Transport → SocketAddr
  | .udp addr => addr
  | .webSocket _ _ effectiveAddr => effectiveAddr

def Transport.nativeAddr : Transport → Option SocketAddr
  | .udp addr => some addr
  | .webSocket .. => none

/-- The route that a registration commits. -/
def Transport.route (generation : Nat) : Transport → RouteKind
  | .udp addr => .native addr
  | .webSocket connectionId _ _ => .webSocket generation connectionId

inductive Stage
  | arrived
  /-- A WebSocket's: a relay is ready, and the identity was looked at. -/
  | relayReady (verifiedFast : Bool)
  | permitted
  /-- `process_register_pk` begins. -/
  | admitted
  | verified (fast : Bool)
  | found (fast : Bool)
  | compared (fast : Bool) (comparison : Comparison)
  | claiming (fast : Bool) (comparison : Comparison) (task : Nat)
  | claimed (fast : Bool) (comparison : Comparison) (task : Nat) (claim : ActivationClaim)
  | limited (comparison : Comparison) (task : Nat) (claim : ActivationClaim) (regPk : Nat × Instant)
  | counted (comparison : Comparison) (task : Nat) (claim : ActivationClaim)
  | written (task : Nat) (claim : ActivationClaim)
  /-- `process_register_pk` has returned `OK`. -/
  | stored (task : Nat) (claim : ActivationClaim)
  | bound (task : Nat) (claim : ActivationClaim) (token : SessionToken)
  | routed (task : Nat) (claim : ActivationClaim) (token : Option SessionToken)
  | committed (task : Nat) (claim : ActivationClaim) (token : Option SessionToken)
  | answering (token : SessionToken)
  | disconnecting (task : Nat) (token : SessionToken)
  | disconnected (token : SessionToken)
  | sent
  | done (reply : Option RegisterPkResult)
deriving DecidableEq, Repr

structure Handler where
  request : RegisterPk
  via : Transport
  stage : Stage
deriving DecidableEq, Repr

/-- What happens to a peer's identity. -/
inductive Binding
  /-- `update_pk` stores it. -/
  | wrote (id : String) (uuid pk : Bytes)
  /-- `process_register_pk` returns `OK` for it. -/
  | returned (id : String) (uuid : Bytes)
deriving DecidableEq, Repr

def Binding.id : Binding → String
  | .wrote id _ _ | .returned id _ => id

def Binding.uuid : Binding → Bytes
  | .wrote _ uuid _ | .returned _ uuid => uuid

structure System where
  peers : Table String Peer
  routes : Routes
  activation : Activation.System
  handlers : List Handler
  /-- Ghost. -/
  history : List Binding

/-- What the server starts with: the peers of the database. -/
def System.init (peers : Table String Peer) : System := ⟨peers, .init, .init, [], []⟩

/-! ## Steps -/

/-- What a step of a handler learns from outside. -/
structure Input where
  /-- Whether a relay is ready, the address may register, the IP blocker lets it, or the reply
  could be sent. -/
  answer : Bool
  now : Instant
  random : RandomLease

def RegisterPk.request (rk : RegisterPk) (fast : Bool) : RegistrationRequest :=
  ⟨rk.id, rk.uuid, rk.pk, rk.activationEpoch, rk.activationId, fast⟩

namespace System

variable (env : Env) (s : System)

def goto (i : Nat) (h : Handler) (stage : Stage) : System :=
  { s with handlers := s.handlers.set i { h with stage } }

def reply (i : Nat) (h : Handler) (result : RegisterPkResult) : System :=
  s.goto i h (.done (some result))

def modifyPeer (id : String) (f : Peer → Peer) : System :=
  { s with peers := s.peers.modify id f }

/-- `PeerMap::get_or` -/
def getOr (id : String) (now : Instant) : System :=
  match s.peers.get id with
  | some _ => s
  | none => { s with peers := s.peers.insert id (.default (env.expiredTime now)) }

def record (b : Binding) : System := { s with history := s.history ++ [b] }

/-- A step of the registry. -/
def lease (l : Activation.Step) : Option System :=
  (s.activation.step env.sha256 l).map fun activation => { s with activation }

/-- A call goes on: it gets its mutex, or runs its next section. -/
def await (i : Nat) (h : Handler) (task : Nat) (input : Input) : Option System :=
  let l : Activation.Step := match s.activation.tasks[task]? with
    | some (.waiting _ _) => .lock task
    | _ => .proceed task input.now input.random
  (s.lease env l).map fun t => t.goto i h h.stage

/-- `process_register_pk` -/
def process (i : Nat) (h : Handler) (input : Input) : Option System :=
  let rk := h.request
  let ip := env.ipText h.via.effectiveAddr.ip
  match h.stage with
  | .admitted =>
    if rk.uuid.isEmpty || rk.pk.isEmpty then some (s.goto i h (.done none))
    else some (s.goto i h (.verified (isVerifiedFastRegistration s.peers rk)))
  | .verified fast =>
    if rk.id.utf8ByteSize < 6 then some (s.reply i h .uuidMismatch)
    else if !input.answer then some (s.reply i h .tooFrequent)
    else some ((s.getOr env rk.id input.now).goto i h (.found fast))
  | .found fast => (s.peers.get rk.id).map fun peer =>
    match peer.compare rk ip with
    | none => s.reply i h .uuidMismatch
    | some comparison => s.goto i h (.compared fast comparison)
  | .compared fast comparison =>
    (s.lease env (.call (.registration (rk.request fast)))).map fun t =>
      t.goto i h (.claiming fast comparison s.activation.tasks.length)
  | .claiming fast comparison task => match s.activation.tasks[task]? with
    | some (.holding _ (.activation claim)) =>
      some (s.goto i h (.claimed fast comparison task claim))
    | some (.finished _) => some (s.reply i h .tooFrequent)
    | _ => s.await env i h task input
  | .claimed fast comparison task claim => (s.peers.get rk.id).bind fun peer =>
    match countRegistration peer.regPk fast input.now with
    | none => (s.lease env (.drop task)).map fun t => t.reply i h .tooFrequent
    | some regPk => some (s.goto i h (.limited comparison task claim regPk))
  | .limited comparison task claim regPk =>
    some ((s.modifyPeer rk.id fun peer => { peer with regPk }).goto i h
      (.counted comparison task claim))
  | .counted comparison task claim =>
    if comparison.changed then
      let addr := h.via.nativeAddr.getD comparison.currentAddr
      some (((s.modifyPeer rk.id fun peer => peer.updatePk addr rk ip input.now).record
        (.wrote rk.id rk.uuid rk.pk)).goto i h (.written task claim))
    else
      some (((s.modifyPeer rk.id fun peer => peer.refresh h.via.nativeAddr input.now).record
        (.returned rk.id rk.uuid)).goto i h (.stored task claim))
  | .written task claim =>
    some ((s.record (.returned rk.id rk.uuid)).goto i h (.stored task claim))
  | _ => none

/-- The handlers around it. -/
def respond (i : Nat) (h : Handler) (input : Input) : Option System :=
  let rk := h.request
  match h.stage, h.via with
  | .arrived, .udp _ => some (s.goto i h .admitted)
  | .arrived, .webSocket .. =>
    if !input.answer then some (s.reply i h .serverError)
    else some (s.goto i h (.relayReady (isVerifiedFastRegistration s.peers rk)))
  | .relayReady verifiedFast, _ =>
    if !verifiedFast && !input.answer then some (s.reply i h .tooFrequent)
    else some (s.goto i h .permitted)
  | .permitted, via =>
    if s.routes.capacityAvailable rk.id via.effectiveAddr.ip env.maxSessions
        env.maxSessionsPerEffectiveIp then some (s.goto i h .admitted)
    else some (s.reply i h .tooFrequent)
  | .stored task claim, .udp addr =>
    some ((s.modifyPeer rk.id fun peer =>
      peer.activateNativeRoute addr claim.generation input.now).goto i h (.routed task claim none))
  | .stored task claim, .webSocket connectionId routeAddr effectiveAddr =>
    match s.routes.bind rk.id connectionId effectiveAddr.ip routeAddr claim.generation
        (nowMillis input.now) env.maxSessions env.maxSessionsPerEffectiveIp with
    | (.ok token, routes) => some ({ s with routes }.goto i h (.bound task claim token))
    | (.error _, _) => (s.lease env (.drop task)).map fun t => t.reply i h .tooFrequent
  | .bound task claim token, _ =>
    some ((s.modifyPeer rk.id fun peer =>
      peer.activateWebsocketRoute claim.generation input.now).goto i h
        (.routed task claim (some token)))
  | .routed task claim token, via =>
    (s.lease env (.commitActivation task (via.route claim.generation) input.now)).map fun t =>
      t.goto i h (.committed task claim token)
  | .committed task claim token, _ => match s.activation.tasks[task]? with
    | some (.finished _) => match token, claim.tracked, claim.previousRoute with
      | some token, _, _ => some (s.goto i h (.answering token))
      | none, true, some (.webSocket generation connectionId) =>
        some ({ s with routes := (s.routes.removeIfCurrentInner rk.id generation connectionId
          true).2 }.reply i h .ok)
      | none, _, _ => some (s.reply i h .ok)
    | _ => s.await env i h task input
  | .answering token, _ =>
    if input.answer then some (s.goto i h .sent)
    else
      let (removed, routes) :=
        s.routes.removeIfCurrentInner token.peerId token.generation token.connectionId true
      if removed then
        ({ s with routes }.lease env (.call (.disconnect token.peerId
          (.webSocket token.generation token.connectionId)))).map fun t : System =>
            t.goto i h (.disconnecting s.activation.tasks.length token)
      else some (s.reply i h .ok)
  | .disconnecting task token, _ => match s.activation.tasks[task]? with
    | some (.finished _) => some (s.goto i h (.disconnected token))
    | _ => s.await env i h task input
  | .disconnected token, _ =>
    some ((s.modifyPeer token.peerId fun peer =>
      peer.expireWebsocketRoute token.generation (env.expiredTime input.now)).reply i h .ok)
  | .sent, _ => some ((s.modifyPeer rk.id fun peer => peer.touch input.now).reply i h .ok)
  | _, _ => none

end System

/-- The lease task of a handler. -/
def Stage.task : Stage → Option Nat
  | .claiming _ _ task | .claimed _ _ task _ | .limited _ task _ _ | .counted _ task _
  | .written task _ | .stored task _ | .bound task _ _ | .routed task _ _ | .committed task _ _
  | .disconnecting task _ => some task
  | _ => none

/-- The stages before `process_register_pk`. -/
def Stage.early : Stage → Bool
  | .arrived | .relayReady _ | .permitted | .admitted => true
  | _ => false

/-- The stages before the look at the identity that decides. -/
def Stage.uncompared : Stage → Bool
  | .verified _ | .found _ => true
  | stage => stage.early

/-- What may happen: a registration arrives or goes on, or another part of the server acts. -/
inductive Move
  | arrive (request : RegisterPk) (via : Transport)
  | advance (i : Nat) (input : Input)
  | updateAddr (id : String) (addr : SocketAddr) (routeGeneration : Nat) (now : Instant)
  | touch (id : String) (now : Instant)
  | expireWebsocketRoute (id : String) (generation : Nat) (now : Instant)
  | deactivateNative (id : String) (expectedAddr : SocketAddr) (generation : Nat) (now : Instant)
  | removeSession (id : String) (generation connectionId : Nat) (abortWriter : Bool)
  | drain
  | lease (l : Activation.Step)

/-- No step of a registration. -/
def Move.outside : Move → Bool
  | .arrive .. | .advance .. => false
  | _ => true

namespace System

def owned (s : System) (task : Nat) : Bool := s.handlers.any fun h => h.stage.task == some task

/-- The steps of the registry that no registration makes. -/
def foreign (s : System) : Activation.Step → Bool
  | .call (.registration _) | .commitActivation .. => false
  | .call _ | .disconnectWebsocketRoutesNow .. | .nextRouteGeneration => true
  | .lock task | .proceed task _ _ | .commitRenewal task _ _ | .commitDeactivation task _ _
  | .drop task => !s.owned task

def advance (env : Env) (s : System) (i : Nat) (h : Handler) (input : Input) : Option System :=
  (s.process env i h input).or (s.respond env i h input)

def step (env : Env) (s : System) : Move → Option System
  | .arrive request via => some { s with handlers := s.handlers ++ [⟨request, via, .arrived⟩] }
  | .advance i input => s.handlers[i]?.bind fun h => s.advance env i h input
  | .updateAddr id addr routeGeneration now =>
    some (s.modifyPeer id fun peer => peer.updateAddr addr routeGeneration now)
  | .touch id now => some (s.modifyPeer id fun peer => peer.touch now)
  | .expireWebsocketRoute id generation now =>
    some (s.modifyPeer id fun peer => peer.expireWebsocketRoute generation (env.expiredTime now))
  | .deactivateNative id expectedAddr generation now =>
    some (s.modifyPeer id fun peer =>
      (peer.deactivateNative expectedAddr generation (env.expiredTime now)).getD peer)
  | .removeSession id generation connectionId abortWriter =>
    some { s with
      routes := (s.routes.removeIfCurrentInner id generation connectionId abortWriter).2 }
  | .drain => some { s with routes := s.routes.drain.2 }
  | .lease l => if s.foreign l then s.lease env l else none

end System

/-! ## What one step can do -/

/-- The ways of a handler on from its stage, with what they leave of the shared state. -/
inductive Advance (env : Env) (s : System) (h : Handler) (input : Input) : Stage → System → Prop
  | refused (result : RegisterPkResult) (hstage : h.stage.uncompared = true) (hne : result ≠ .ok) :
      Advance env s h input (.done (some result)) s
  | ignored (hstage : h.stage = .admitted) : Advance env s h input (.done none) s
  | preliminary (stage : Stage) (hstage : h.stage.early = true) (hnext : stage.early = true) :
      Advance env s h input stage s
  | verified (hstage : h.stage = .admitted) (huuid : h.request.uuid ≠ []) :
      Advance env s h input (.verified (isVerifiedFastRegistration s.peers h.request)) s
  | found (fast : Bool) (hstage : h.stage = .verified fast) :
      Advance env s h input (.found fast) (s.getOr env h.request.id input.now)
  | compared (fast : Bool) (peer : Peer) (comparison : Comparison) (hstage : h.stage = .found fast)
      (hpeer : s.peers.get h.request.id = some peer)
      (hcompare : peer.compare h.request (env.ipText h.via.effectiveAddr.ip) = some comparison) :
      Advance env s h input (.compared fast comparison) s
  | called (fast : Bool) (comparison : Comparison) (t : System)
      (hstage : h.stage = .compared fast comparison)
      (hlease : s.lease env (.call (.registration (h.request.request fast))) = some t) :
      Advance env s h input (.claiming fast comparison s.activation.tasks.length) t
  /-- A call of the registry goes on. -/
  | awaited (task : Nat) (l : Activation.Step) (t : System) (hstage : h.stage.task = some task)
      (hl : l = .lock task ∨ l = .proceed task input.now input.random)
      (hlease : s.lease env l = some t) : Advance env s h input h.stage t
  | claimed (fast : Bool) (comparison : Comparison) (task : Nat) (m : Activation.LockId)
      (claim : ActivationClaim) (hstage : h.stage = .claiming fast comparison task)
      (htask : s.activation.tasks[task]? = some (.holding m (.activation claim))) :
      Advance env s h input (.claimed fast comparison task claim) s
  | unclaimed (fast : Bool) (comparison : Comparison) (task : Nat)
      (hstage : h.stage = .claiming fast comparison task) :
      Advance env s h input (.done (some .tooFrequent)) s
  | limited (fast : Bool) (comparison : Comparison) (task : Nat) (claim : ActivationClaim)
      (regPk : Nat × Instant) (hstage : h.stage = .claimed fast comparison task claim) :
      Advance env s h input (.limited comparison task claim regPk) s
  | tooFrequent (fast : Bool) (comparison : Comparison) (task : Nat) (claim : ActivationClaim)
      (t : System) (hstage : h.stage = .claimed fast comparison task claim)
      (hlease : s.lease env (.drop task) = some t) :
      Advance env s h input (.done (some .tooFrequent)) t
  | counted (comparison : Comparison) (task : Nat) (claim : ActivationClaim)
      (regPk : Nat × Instant) (hstage : h.stage = .limited comparison task claim regPk) :
      Advance env s h input (.counted comparison task claim)
        (s.modifyPeer h.request.id fun peer => { peer with regPk })
  | wrote (comparison : Comparison) (task : Nat) (claim : ActivationClaim)
      (hstage : h.stage = .counted comparison task claim) :
      Advance env s h input (.written task claim)
        ((s.modifyPeer h.request.id fun peer =>
          peer.updatePk (h.via.nativeAddr.getD comparison.currentAddr) h.request
            (env.ipText h.via.effectiveAddr.ip) input.now).record
          (.wrote h.request.id h.request.uuid h.request.pk))
  | refreshed (comparison : Comparison) (task : Nat) (claim : ActivationClaim)
      (hstage : h.stage = .counted comparison task claim) (hsame : comparison.changed = false) :
      Advance env s h input (.stored task claim)
        ((s.modifyPeer h.request.id fun peer => peer.refresh h.via.nativeAddr input.now).record
          (.returned h.request.id h.request.uuid))
  | returned (task : Nat) (claim : ActivationClaim) (hstage : h.stage = .written task claim) :
      Advance env s h input (.stored task claim)
        (s.record (.returned h.request.id h.request.uuid))
  | routedNative (task : Nat) (claim : ActivationClaim) (addr : SocketAddr)
      (hstage : h.stage = .stored task claim) :
      Advance env s h input (.routed task claim none)
        (s.modifyPeer h.request.id fun peer =>
          peer.activateNativeRoute addr claim.generation input.now)
  | bound (task : Nat) (claim : ActivationClaim) (connectionId : Nat)
      (routeAddr effectiveAddr : SocketAddr) (token : SessionToken) (routes : Routes)
      (hstage : h.stage = .stored task claim)
      (hbind : s.routes.bind h.request.id connectionId effectiveAddr.ip routeAddr claim.generation
        (nowMillis input.now) env.maxSessions env.maxSessionsPerEffectiveIp = (.ok token, routes)) :
      Advance env s h input (.bound task claim token) { s with routes }
  | unbound (task : Nat) (claim : ActivationClaim) (connectionId : Nat)
      (routeAddr effectiveAddr : SocketAddr) (error : String) (routes : Routes) (t : System)
      (hstage : h.stage = .stored task claim)
      (hvia : h.via = .webSocket connectionId routeAddr effectiveAddr)
      (hbind : s.routes.bind h.request.id connectionId effectiveAddr.ip routeAddr claim.generation
        (nowMillis input.now) env.maxSessions env.maxSessionsPerEffectiveIp =
          (.error error, routes))
      (hlease : s.lease env (.drop task) = some t) :
      Advance env s h input (.done (some .tooFrequent)) t
  | routedWebsocket (task : Nat) (claim : ActivationClaim) (token : SessionToken)
      (hstage : h.stage = .bound task claim token) :
      Advance env s h input (.routed task claim (some token))
        (s.modifyPeer h.request.id fun peer =>
          peer.activateWebsocketRoute claim.generation input.now)
  | committed (task : Nat) (claim : ActivationClaim) (token : Option SessionToken) (t : System)
      (hstage : h.stage = .routed task claim token)
      (hlease : s.lease env (.commitActivation task (h.via.route claim.generation) input.now) =
        some t) : Advance env s h input (.committed task claim token) t
  | answering (task : Nat) (claim : ActivationClaim) (token : SessionToken)
      (hstage : h.stage = .committed task claim (some token)) :
      Advance env s h input (.answering token) s
  | answered (task : Nat) (claim : ActivationClaim) (hstage : h.stage = .committed task claim none) :
      Advance env s h input (.done (some .ok)) s
  | replaced (task : Nat) (claim : ActivationClaim) (generation connectionId : Nat)
      (hstage : h.stage = .committed task claim none) :
      Advance env s h input (.done (some .ok))
        { s with
          routes := (s.routes.removeIfCurrentInner h.request.id generation connectionId true).2 }
  | sent (token : SessionToken) (hstage : h.stage = .answering token) :
      Advance env s h input .sent s
  | unsent (token : SessionToken) (hstage : h.stage = .answering token) :
      Advance env s h input (.done (some .ok)) s
  | removed (token : SessionToken) (t : System) (hstage : h.stage = .answering token)
      (hlease : System.lease env
        { s with
          routes := (s.routes.removeIfCurrentInner token.peerId token.generation
            token.connectionId true).2 }
        (.call (.disconnect token.peerId (.webSocket token.generation token.connectionId))) =
          some t) :
      Advance env s h input (.disconnecting s.activation.tasks.length token) t
  | disconnected (task : Nat) (token : SessionToken) (hstage : h.stage = .disconnecting task token) :
      Advance env s h input (.disconnected token) s
  | expired (token : SessionToken) (hstage : h.stage = .disconnected token) :
      Advance env s h input (.done (some .ok))
        (s.modifyPeer token.peerId fun peer =>
          peer.expireWebsocketRoute token.generation (env.expiredTime input.now))
  | touched (hstage : h.stage = .sent) :
      Advance env s h input (.done (some .ok))
        (s.modifyPeer h.request.id fun peer => peer.touch input.now)

section

variable {env : Env} {s t : System} {i : Nat} {h : Handler} {input : Input}

/-- A step of the registry leaves all else. -/
theorem lease_spec {l : Activation.Step} (hl : s.lease env l = some t) :
    ∃ activation, s.activation.step env.sha256 l = some activation ∧ t = { s with activation } := by
  obtain ⟨activation, hstep, rfl⟩ := Option.map_eq_some_iff.mp hl
  exact ⟨activation, hstep, rfl⟩

theorem await_spec {task : Nat} (hstage : h.stage.task = some task)
    (ha : s.await env i h task input = some t) :
    ∃ stage u, Advance env s h input stage u ∧ t = u.goto i h stage := by
  obtain ⟨u, hlease, rfl⟩ := Option.map_eq_some_iff.mp ha
  refine ⟨_, _, .awaited task _ u hstage ?_ hlease, rfl⟩
  split
  · exact .inl rfl
  · exact .inr rfl

theorem process_spec (hp : s.process env i h input = some t) :
    ∃ stage u, Advance env s h input stage u ∧ t = u.goto i h stage := by
  unfold System.process at hp
  dsimp only at hp
  split at hp
  · rename_i hstage
    split at hp
    · cases hp
      exact ⟨_, _, .ignored hstage, rfl⟩
    · rename_i hempty
      cases hp
      have huuid : h.request.uuid ≠ [] := by
        intro hnil
        simp [hnil] at hempty
      exact ⟨_, _, .verified hstage huuid, rfl⟩
  · rename_i fast hstage
    have hearly : h.stage.uncompared = true := by rw [hstage]; rfl
    split at hp
    · cases hp
      exact ⟨_, _, .refused .uuidMismatch hearly nofun, rfl⟩
    · split at hp
      · cases hp
        exact ⟨_, _, .refused .tooFrequent hearly nofun, rfl⟩
      · cases hp
        exact ⟨_, _, .found fast hstage, rfl⟩
  · rename_i fast hstage
    have hearly : h.stage.uncompared = true := by rw [hstage]; rfl
    obtain ⟨peer, hpeer, hp⟩ := Option.map_eq_some_iff.mp hp
    split at hp
    · cases hp
      exact ⟨_, _, .refused .uuidMismatch hearly nofun, rfl⟩
    · rename_i comparison hcompare
      cases hp
      exact ⟨_, _, .compared fast peer comparison hstage hpeer hcompare, rfl⟩
  · rename_i fast comparison hstage
    obtain ⟨u, hlease, rfl⟩ := Option.map_eq_some_iff.mp hp
    exact ⟨_, _, .called fast comparison u hstage hlease, rfl⟩
  · rename_i fast comparison task hstage
    split at hp
    · rename_i m claim htask
      cases hp
      exact ⟨_, _, .claimed fast comparison task m claim hstage htask, rfl⟩
    · cases hp
      exact ⟨_, _, .unclaimed fast comparison task hstage, rfl⟩
    · exact await_spec (by rw [hstage]; rfl) hp
  · rename_i fast comparison task claim hstage
    obtain ⟨peer, -, hp⟩ := Option.bind_eq_some_iff.mp hp
    split at hp
    · obtain ⟨u, hlease, rfl⟩ := Option.map_eq_some_iff.mp hp
      exact ⟨_, _, .tooFrequent fast comparison task claim u hstage hlease, rfl⟩
    · rename_i regPk _
      cases hp
      exact ⟨_, _, .limited fast comparison task claim regPk hstage, rfl⟩
  · rename_i comparison task claim regPk hstage
    cases hp
    exact ⟨_, _, .counted comparison task claim regPk hstage, rfl⟩
  · rename_i comparison task claim hstage
    split at hp
    · cases hp
      exact ⟨_, _, .wrote comparison task claim hstage, rfl⟩
    · rename_i hchanged
      cases hp
      exact ⟨_, _, .refreshed comparison task claim hstage (by simpa using hchanged), rfl⟩
  · rename_i task claim hstage
    cases hp
    exact ⟨_, _, .returned task claim hstage, rfl⟩
  · cases hp

theorem respond_spec (hp : s.respond env i h input = some t) :
    ∃ stage u, Advance env s h input stage u ∧ t = u.goto i h stage := by
  unfold System.respond at hp
  dsimp only at hp
  split at hp
  · rename_i hstage _
    cases hp
    exact ⟨_, _, .preliminary .admitted (by rw [hstage]; rfl) rfl, rfl⟩
  · rename_i hstage _
    split at hp
    · cases hp
      exact ⟨_, _, .refused .serverError (by rw [hstage]; rfl) nofun, rfl⟩
    · cases hp
      exact ⟨_, _, .preliminary (.relayReady _) (by rw [hstage]; rfl) rfl, rfl⟩
  · rename_i fast hstage
    split at hp
    · cases hp
      exact ⟨_, _, .refused .tooFrequent (by rw [hstage]; rfl) nofun, rfl⟩
    · cases hp
      exact ⟨_, _, .preliminary .permitted (by rw [hstage]; rfl) rfl, rfl⟩
  · rename_i hstage
    split at hp
    · cases hp
      exact ⟨_, _, .preliminary .admitted (by rw [hstage]; rfl) rfl, rfl⟩
    · cases hp
      exact ⟨_, _, .refused .tooFrequent (by rw [hstage]; rfl) nofun, rfl⟩
  · rename_i task claim addr hstage _
    cases hp
    exact ⟨_, _, .routedNative task claim addr hstage, rfl⟩
  · rename_i task claim connectionId routeAddr effectiveAddr hstage hvia
    split at hp
    · rename_i token routes hbind
      cases hp
      exact ⟨_, _, .bound task claim connectionId routeAddr effectiveAddr token routes hstage hbind,
        rfl⟩
    · rename_i error routes hbind
      obtain ⟨u, hlease, rfl⟩ := Option.map_eq_some_iff.mp hp
      exact ⟨_, _, .unbound task claim connectionId routeAddr effectiveAddr error routes u hstage
        hvia hbind hlease, rfl⟩
  · rename_i task claim token hstage
    cases hp
    exact ⟨_, _, .routedWebsocket task claim token hstage, rfl⟩
  · rename_i task claim token hstage
    obtain ⟨u, hlease, rfl⟩ := Option.map_eq_some_iff.mp hp
    exact ⟨_, _, .committed task claim token u hstage hlease, rfl⟩
  · rename_i task claim token hstage
    split at hp
    · split at hp
      · cases hp
        exact ⟨_, _, .answering task claim _ hstage, rfl⟩
      · rename_i generation connectionId _ _
        cases hp
        exact ⟨_, _, .replaced task claim generation connectionId hstage, rfl⟩
      · cases hp
        exact ⟨_, _, .answered task claim hstage, rfl⟩
    · exact await_spec (by rw [hstage]; rfl) hp
  · rename_i token hstage
    split at hp
    · cases hp
      exact ⟨_, _, .sent token hstage, rfl⟩
    · split at hp
      · obtain ⟨u, hlease, rfl⟩ := Option.map_eq_some_iff.mp hp
        exact ⟨_, _, .removed token u hstage hlease, rfl⟩
      · cases hp
        exact ⟨_, _, .unsent token hstage, rfl⟩
  · rename_i task token hstage
    split at hp
    · cases hp
      exact ⟨_, _, .disconnected task token hstage, rfl⟩
    · exact await_spec (by rw [hstage]; rfl) hp
  · rename_i token hstage
    cases hp
    exact ⟨_, _, .expired token hstage, rfl⟩
  · rename_i hstage
    cases hp
    exact ⟨_, _, .touched hstage, rfl⟩
  · cases hp

/-- Every step of a handler is one of these. -/
theorem advance_spec (hp : s.advance env i h input = some t) :
    ∃ stage u, Advance env s h input stage u ∧ t = u.goto i h stage := by
  rcases Option.or_eq_some_iff.mp hp with hp | ⟨-, hp⟩
  · exact process_spec hp
  · exact respond_spec hp

end

end Starry.Rendezvous
