import Starry.Library.Prog
import Starry.Quality.Wire
import Starry.Routing.Sessions

/-!
# Punch-hole requests over TCP

`handle_tcp_punch_hole_request` looks the target's WebSocket session up to choose how to send, and
`handle_punch_hole_request` looks it up again to choose what. At every await other tasks may bind
or remove sessions.
-/

open Library

namespace Starry.Rendezvous.PunchHole

open Starry.Quality (RelayQualityOffer RelayRequirement)
open Starry.Routing (Routes SendError SessionRoute Target chooseTarget)

/-! ## Messages -/

inductive NatType
  | unknownNat | asymmetric | symmetric
deriving DecidableEq, Repr

inductive Failure
  | idNotExist | offline | licenseMismatch
deriving DecidableEq, Repr

structure PunchHoleRequest where
  id : String
  licenceKey : String
  natType : NatType
  relayQualityProtocol : Nat
deriving DecidableEq, Repr

inductive RendezvousMessage
  | punchHoleResponse (failure : Failure) (otherFailure : String)
  | fetchLocalAddr (socketAddr : Bytes) (relayServer : String)
      (relayQualityOffer : Option RelayQualityOffer)
  | punchHole (socketAddr : Bytes) (natType : NatType) (relayServer : String)
      (relayQualityOffer : Option RelayQualityOffer)
deriving DecidableEq, Repr

/-- The requester is told so where the target's session cannot be sent to. -/
def routeClosed : RendezvousMessage :=
  .punchHoleResponse .offline "WebSocket route closed during dispatch"

def requirementOf (ws targetWs : Bool) : RelayRequirement :=
  match ws, targetWs with
  | true, true => .webSocketOnly
  | true, false | false, true => .mixed
  | false, false => .nativeOnly

/-! ## Actions -/

structure Env where
  isLan : SocketAddr → Bool
  localIp : String
  /-- `AddrMangle::encode` -/
  encode : SocketAddr → Bytes
  writeToBytes : RendezvousMessage → Option Bytes

inductive Act
  /-- `websocket_signal::route` -/
  | route (id : String)
  /-- `pm.get`: the address of the peer and how long it has not registered. -/
  | peer (id : String)
  /-- An entry of `PUNCH_REQS`, unless there is a recent one. -/
  | recordPunch (effectiveAddr peerEffectiveAddr : SocketAddr) (id : String)
  | getRelayServer (pa pb : IpAddr) (requirement : RelayRequirement)
  | alwaysUseRelay
  | createOffer (protocol : Nat) (routeAddr effectiveAddr peerRouteAddr peerEffectiveAddr : SocketAddr)
      (id : String) (requirement : RelayRequirement) (ws targetWs : Bool) (relayServer : String)
  /-- The line of the log that says what is dispatched, and for which target it was built. -/
  | dispatching (target : Target) (message : RendezvousMessage)
  /-- `try_send` reads its candidate. -/
  | candidate (id : String)
  | sendBinary (connectionId : Nat) (bytes : Bytes)
  | removeIfCurrent (id : String) (generation connectionId : Nat)
  | sendToTcpSync (message : RendezvousMessage) (addr : SocketAddr)
  /-- `self.tx.send(Data::Msg(..))` -/
  | sendNative (message : RendezvousMessage) (addr : SocketAddr)

def Act.Reply : Act → Type
  | .route _ => Option SessionRoute
  | .peer _ => Option (SocketAddr × Nat)
  | .recordPunch .. | .dispatching .. => Unit
  | .getRelayServer .. => String
  | .alwaysUseRelay | .removeIfCurrent .. => Bool
  | .createOffer .. => Option RelayQualityOffer
  | .candidate _ => Option (Nat × Nat)
  | .sendBinary .. => Except SendError Unit
  | .sendToTcpSync .. | .sendNative .. => Except String Unit

/-- What the environment decides: the time of a lookup, the answer of a channel, and what is read
outside of the sessions. -/
def Act.Choice : Act → Type
  | .route _ => Nat
  | .candidate _ | .removeIfCurrent .. => Unit
  | a => a.Reply

/-- What is remembered of a run. -/
inductive Note
  | looked (found : Bool)
  | built (target : Target) (message : RendezvousMessage)
  | candidate (id : String) (connectionId : Nat)
  | webSocket (connectionId : Nat) (bytes : Bytes)
  | told (message : RendezvousMessage) (addr : SocketAddr)
  | native (message : RendezvousMessage) (addr : SocketAddr)
deriving DecidableEq, Repr

def Act.notes : (a : Act) → a.Reply → List Note
  | .route _, (r : Option SessionRoute) => [.looked r.isSome]
  | .dispatching target message, _ => [.built target message]
  | .candidate id, (r : Option (Nat × Nat)) => (r.map fun c => Note.candidate id c.2).toList
  | .sendBinary connectionId bytes, _ => [.webSocket connectionId bytes]
  | .sendToTcpSync message addr, _ => [.told message addr]
  | .sendNative message addr, _ => [.native message addr]
  | _, _ => []

structure World where
  routes : Routes
  /-- Ghost. -/
  notes : List Note

/-- The action on the sessions. -/
def onSessions (routes : Routes) : (a : Act) → a.Choice → a.Reply × Routes
  | .route id, (nowMillis : Nat) => (routes.route id nowMillis, routes)
  | .candidate id, _ =>
    ((routes.sessions.get id).map fun session => (session.generation, session.connectionId), routes)
  | .sendBinary connectionId _, (queue : Except SendError Unit) =>
    routes.sendBinary connectionId queue
  | .removeIfCurrent id generation connectionId, _ =>
    routes.removeIfCurrentInner id generation connectionId true
  | .peer _, r | .recordPunch .., r | .getRelayServer .., r | .alwaysUseRelay, r
  | .createOffer .., r | .dispatching .., r | .sendToTcpSync .., r | .sendNative .., r => (r, routes)

def step (w : World) (a : Act) (c : a.Choice) : Option (a.Reply × World) :=
  let (reply, routes) := onSessions w.routes a c
  some (reply, ⟨routes, w.notes ++ a.notes reply⟩)

/-- What another task does to the sessions. -/
inductive Moves : Routes → Routes → Prop
  | bind (r : Routes) (peerId : String) (connectionId : Nat) (effectiveIp : IpAddr)
      (routeAddr : SocketAddr) (generation nowMillis maxSessions maxSessionsPerIp : Nat) :
      Moves r (r.bind peerId connectionId effectiveIp routeAddr generation nowMillis maxSessions
        maxSessionsPerIp).2
  | remove (r : Routes) (peerId : String) (generation connectionId : Nat) (abortWriter : Bool) :
      Moves r (r.removeIfCurrentInner peerId generation connectionId abortWriter).2
  | drain (r : Routes) : Moves r r.drain.2
  | abort (r : Routes) (connectionId : Nat) : Moves r (r.abort connectionId)
  | touch (r : Routes) (token : Routing.SessionToken) (nowMillis : Nat) :
      Moves r (r.touch token nowMillis)

/-- An action, after whatever the other tasks have done since the last one. -/
def next (w : World) (a : Act) (r : a.Reply) (t : World) : Prop :=
  ∃ routes, Relation.ReflTransGen Moves w.routes routes ∧ byChoice step { w with routes } a r t

abbrev Agent := Prog Act Act.Reply

def perform (a : Act) : Agent a.Reply := Prog.perform a
def route (id : String) : Agent (Option SessionRoute) := perform (.route id)
def peer (id : String) : Agent (Option (SocketAddr × Nat)) := perform (.peer id)
def recordPunch (effectiveAddr peerEffectiveAddr : SocketAddr) (id : String) : Agent Unit :=
  perform (.recordPunch effectiveAddr peerEffectiveAddr id)
def getRelayServer (pa pb : IpAddr) (requirement : RelayRequirement) : Agent String :=
  perform (.getRelayServer pa pb requirement)
def alwaysUseRelay : Agent Bool := perform .alwaysUseRelay
def createOffer (protocol : Nat)
    (routeAddr effectiveAddr peerRouteAddr peerEffectiveAddr : SocketAddr) (id : String)
    (requirement : RelayRequirement) (ws targetWs : Bool) (relayServer : String) :
    Agent (Option RelayQualityOffer) :=
  perform (.createOffer protocol routeAddr effectiveAddr peerRouteAddr peerEffectiveAddr id
    requirement ws targetWs relayServer)
def dispatching (target : Target) (message : RendezvousMessage) : Agent Unit :=
  perform (.dispatching target message)
def candidate (id : String) : Agent (Option (Nat × Nat)) := perform (.candidate id)
def sendBinary (connectionId : Nat) (bytes : Bytes) : Agent (Except SendError Unit) :=
  perform (.sendBinary connectionId bytes)
def removeIfCurrent (id : String) (generation connectionId : Nat) : Agent Bool :=
  perform (.removeIfCurrent id generation connectionId)
def sendToTcpSync (message : RendezvousMessage) (addr : SocketAddr) : Agent (Except String Unit) :=
  perform (.sendToTcpSync message addr)
def sendNative (message : RendezvousMessage) (addr : SocketAddr) : Agent (Except String Unit) :=
  perform (.sendNative message addr)

/-! ## The handlers -/

/-- `nat_type` and the relay, once it is known whether the connection is to be relayed. -/
def relayed (env : Env) (ph : PunchHoleRequest) (always force peerIsLan isLan : Bool)
    (relayServer : String) : NatType × String :=
  if always || force || (peerIsLan ^^ isLan) then
    (.symmetric, if !force && peerIsLan then env.localIp else relayServer)
  else (ph.natType, relayServer)

/-- Both addresses are of one family and equal. -/
def sameIp (a b : SocketAddr) : Bool := a.ip == b.ip

/-- The request is dispatched to the target. -/
def dispatch (env : Env) (routeAddr effectiveAddr nativePeerAddr : SocketAddr)
    (ph : PunchHoleRequest) (ws : Bool) (target : Target) (relayServer : String) (always : Bool) :
    Agent (RendezvousMessage × Option SocketAddr) := do
  let requirement := requirementOf ws target.webSocket
  let peerIsLan := env.isLan target.effectiveAddr
  let isLan := env.isLan effectiveAddr
  let force := requirement != .nativeOnly
  let (natType, relayServer) := relayed env ph always force peerIsLan isLan relayServer
  let offer ← createOffer ph.relayQualityProtocol routeAddr effectiveAddr target.routeAddr
    target.effectiveAddr ph.id requirement ws target.webSocket relayServer
  let sameIntranet := !ws && !target.webSocket &&
    (peerIsLan && isLan || sameIp target.effectiveAddr effectiveAddr)
  let socketAddr := env.encode routeAddr
  let message : RendezvousMessage :=
    if sameIntranet then .fetchLocalAddr socketAddr relayServer offer
    else .punchHole socketAddr natType relayServer offer
  dispatching target message
  return (message, some nativePeerAddr)

def handlePunchHoleRequest (env : Env) (routeAddr effectiveAddr : SocketAddr)
    (ph : PunchHoleRequest) (key : String) (ws : Bool) :
    Agent (RendezvousMessage × Option SocketAddr) := do
  if !key.isEmpty && ph.licenceKey != key then
    return (.punchHoleResponse .licenseMismatch "", none)
  else
    let targetWebsocket ← route ph.id
    match ← peer ph.id with
    | none => return (.punchHoleResponse .idNotExist "", none)
    | some (nativePeerAddr, nativeElapsed) =>
      let target := chooseTarget targetWebsocket nativePeerAddr nativeElapsed
      if target.offline then return (.punchHoleResponse .offline "", none)
      else
        recordPunch effectiveAddr target.effectiveAddr ph.id
        let requirement := requirementOf ws target.webSocket
        let relayServer ← getRelayServer effectiveAddr.ip target.effectiveAddr.ip requirement
        if requirement != .nativeOnly && relayServer.isEmpty then
          return (.punchHoleResponse .offline "no eligible WebSocket relay", none)
        else
          let always ← alwaysUseRelay
          dispatch env routeAddr effectiveAddr nativePeerAddr ph ws target relayServer always

def trySend (id : String) (bytes : Bytes) : Agent Bool := do
  match ← candidate id with
  | none => return false
  | some (generation, connectionId) =>
    match ← sendBinary connectionId bytes with
    | .ok () => return true
    | .error _ =>
      let _ ← removeIfCurrent id generation connectionId
      return false

def sendToPeer (env : Env) (id : String) (message : RendezvousMessage) : Agent Bool :=
  match env.writeToBytes message with
  | none => return false
  | some bytes => trySend id bytes

/-- How the message that was built is sent. -/
def deliver (env : Env) (routeAddr : SocketAddr) (id : String) (websocketTarget : Bool)
    (message : RendezvousMessage) (addr : SocketAddr) : Agent (Except String Unit) := do
  if websocketTarget then
    if ← sendToPeer env id message then return .ok ()
    else sendToTcpSync routeClosed routeAddr
  else sendNative message addr

def handleTcpPunchHoleRequest (env : Env) (routeAddr effectiveAddr : SocketAddr)
    (ph : PunchHoleRequest) (key : String) (ws : Bool) : Agent (Except String Unit) := do
  let websocketTarget := (← route ph.id).isSome
  match ← handlePunchHoleRequest env routeAddr effectiveAddr ph key ws with
  | (message, some addr) => deliver env routeAddr ph.id websocketTarget message addr
  | (message, none) => sendToTcpSync message routeAddr

/-! ## The notes of a run -/

section Notes

variable {α β : Type} {notes : List Note}

/-- Wherever the code is started with these notes, it ends with notes of which `Q` holds. -/
def Ends (p : Agent α) (notes : List Note) (Q : α → List Note → Prop) : Prop :=
  ∀ w : World, w.notes = notes →
    (Rules.every (fun _ _ => True) next).Safe p (fun x t => Q x t.notes) w

theorem next_notes {w t : World} {a : Act} {r : a.Reply} (h : next w a r t) :
    t.notes = w.notes ++ a.notes r := by
  obtain ⟨routes, _, c, hc⟩ := h
  simp only [step, Option.some.injEq, Prod.mk.injEq] at hc
  obtain ⟨rfl, rfl⟩ := hc
  rfl

theorem ends_perform {a : Act} {Q : a.Reply → List Note → Prop}
    (h : ∀ r, Q r (notes ++ a.notes r)) : Ends (perform a) notes Q := by
  rintro w rfl
  refine ⟨trivial, fun r t hn => ?_⟩
  change Q r t.notes
  rw [next_notes hn]
  exact h r

theorem ends_pure {x : α} {Q : α → List Note → Prop} (h : Q x notes) :
    Ends (pure x) notes Q := by
  rintro w rfl
  exact h

theorem ends_bind {p : Agent α} {f : α → Agent β} {Q : β → List Note → Prop}
    (h : Ends p notes fun x notes => Ends (f x) notes Q) : Ends (p >>= f) notes Q := by
  intro w hw
  exact Rules.safe_bind.mpr ((h w hw).mono fun x t ht => ht t rfl)

variable {env : Env} {routeAddr effectiveAddr nativePeerAddr addr : SocketAddr}
  {ph : PunchHoleRequest} {ws always : Bool} {target : Target} {relayServer key id : String}
  {message : RendezvousMessage} {bytes : Bytes}

theorem ends_dispatch :
    Ends (dispatch env routeAddr effectiveAddr nativePeerAddr ph ws target relayServer always) notes
      fun r notes' => ∃ message, r = (message, some nativePeerAddr) ∧
        notes' = notes ++ [.built target message] := by
  unfold dispatch
  refine ends_bind (ends_perform fun offer => ?_)
  rw [show (Act.createOffer .. : Act).notes offer = [] from rfl, List.append_nil]
  refine ends_bind (ends_perform fun _ => ends_pure ⟨_, rfl, rfl⟩)

/-- A request that is dispatched was looked up once more, and its target is what was found. -/
theorem ends_handlePunchHoleRequest :
    Ends (handlePunchHoleRequest env routeAddr effectiveAddr ph key ws) notes fun r notes' =>
      (∃ message, r = (message, none) ∧ message ≠ routeClosed ∧
        (notes' = notes ∨ ∃ found, notes' = notes ++ [.looked found])) ∨
      ∃ message addr found target, r = (message, some addr) ∧
        notes' = notes ++ [.looked found, .built target message] ∧ target.webSocket = found ∧
        (found = false → target.routeAddr = addr) := by
  unfold handlePunchHoleRequest
  split
  · exact ends_pure (.inl ⟨_, rfl, by decide, .inl rfl⟩)
  refine ends_bind (ends_perform fun targetWebsocket => ends_bind (ends_perform fun peer => ?_))
  rw [show (Act.peer ph.id).notes peer = [] from rfl, List.append_nil]
  change Ends _ (notes ++ [.looked (targetWebsocket : Option SessionRoute).isSome]) _
  obtain _ | ⟨nativePeerAddr, nativeElapsed⟩ := peer
  · exact ends_pure (.inl ⟨_, rfl, by decide, .inr ⟨_, rfl⟩⟩)
  have htarget : (chooseTarget targetWebsocket nativePeerAddr nativeElapsed).webSocket =
      (targetWebsocket : Option SessionRoute).isSome ∧
      ((targetWebsocket : Option SessionRoute).isSome = false →
        (chooseTarget targetWebsocket nativePeerAddr nativeElapsed).routeAddr = nativePeerAddr) := by
    cases targetWebsocket with
    | none => exact ⟨rfl, fun _ => rfl⟩
    | some route => exact ⟨rfl, fun h => by cases h⟩
  dsimp only
  split
  · exact ends_pure (.inl ⟨_, rfl, by decide, .inr ⟨_, rfl⟩⟩)
  refine ends_bind (ends_perform fun _ => ends_bind (ends_perform fun relayServer => ?_))
  rw [show (Act.recordPunch .. : Act).notes _ = [] from rfl,
    show (Act.getRelayServer .. : Act).notes _ = [] from rfl, List.append_nil, List.append_nil]
  split
  · exact ends_pure (.inl ⟨_, rfl, by decide, .inr ⟨_, rfl⟩⟩)
  refine ends_bind (ends_perform fun always => ?_)
  rw [show Act.alwaysUseRelay.notes _ = [] from rfl, List.append_nil]
  intro w hw
  refine (ends_dispatch w hw).mono ?_
  rintro r t ⟨message, rfl, ht⟩
  refine .inr ⟨message, nativePeerAddr, _, _, rfl, ?_, htarget⟩
  rw [ht, List.append_assoc]
  rfl

theorem ends_sendToPeer :
    Ends (sendToPeer env id message) notes fun sent notes' =>
      (sent = false ∧ notes' = notes) ∨
        ∃ connectionId bytes, env.writeToBytes message = some bytes ∧
          notes' = notes ++ [.candidate id connectionId, .webSocket connectionId bytes] := by
  unfold sendToPeer
  split
  · exact ends_pure (.inl ⟨rfl, rfl⟩)
  rename_i bytes hbytes
  unfold trySend
  refine ends_bind (ends_perform fun found => ?_)
  obtain _ | ⟨generation, connectionId⟩ := found
  · exact ends_pure (.inl ⟨rfl, List.append_nil _⟩)
  refine ends_bind (ends_perform fun sent => ?_)
  rw [List.append_assoc]
  obtain _ | _ := sent
  · refine ends_bind (ends_perform fun _ => ends_pure ?_)
    exact .inr ⟨connectionId, bytes, hbytes, by simp [Act.notes]⟩
  · exact ends_pure (.inr ⟨connectionId, bytes, hbytes, by simp [Act.notes]⟩)

end Notes

/-! ## What is sent and what it was built for -/

/-- What was built for a WebSocket target goes through a session of the peer, what was built for a
native one to its address, and only of a WebSocket target is the requester told that its route
closed. -/
structure Agrees (env : Env) (id : String) (notes : List Note) : Prop where
  native : ∀ message addr, .native message addr ∈ notes →
    ∃ target, .built target message ∈ notes ∧ target.webSocket = false ∧ target.routeAddr = addr
  webSocket : ∀ connectionId bytes, .webSocket connectionId bytes ∈ notes →
    .candidate id connectionId ∈ notes ∧ ∃ target message, .built target message ∈ notes ∧
      env.writeToBytes message = some bytes ∧ target.webSocket = true
  told : ∀ addr, .told routeClosed addr ∈ notes →
    ∃ target message, .built target message ∈ notes ∧ target.webSocket = true

def Dispatched (notes : List Note) : Prop := ∃ target message, .built target message ∈ notes

/-- The lookups have found the same: a session, or none. -/
def Steady (notes : List Note) : Prop :=
  ∀ found found', .looked found ∈ notes → .looked found' ∈ notes → found = found'

section Dispatch

variable {env : Env} {routeAddr addr : SocketAddr} {id : String} {message : RendezvousMessage}
  {target : Target} {found found' : Bool}

/-- Of what the first lookup leads to, all is right where the message was built for that. -/
theorem agrees_native (haddr : target.webSocket = false → target.routeAddr = addr) :
    Agrees env id [.looked found, .looked found', .built target message, .native message addr] ↔
      target.webSocket = false := by
  constructor
  · intro h
    obtain ⟨built, hbuilt, hnative, _⟩ := h.native message addr (by simp)
    obtain rfl : built = target := by simpa using hbuilt
    exact hnative
  · intro h
    refine ⟨fun m a hm => ?_, by simp, by simp⟩
    obtain ⟨rfl, rfl⟩ : m = message ∧ a = addr := by simpa using hm
    exact ⟨target, by simp, h, haddr h⟩

/-- Notes of what went to the peer's sessions, and of what the requester was told. -/
theorem agrees_webSocket (addr : SocketAddr) (rest : List Note) (hnotes : ∀ note ∈ rest,
      (∃ connectionId, note = .candidate id connectionId) ∨
      (∃ connectionId bytes, note = .webSocket connectionId bytes ∧
        .candidate id connectionId ∈ rest ∧ env.writeToBytes message = some bytes) ∨
      note = .told routeClosed addr)
    (hsent : ∃ note ∈ rest, (∃ connectionId bytes, note = .webSocket connectionId bytes) ∨
      note = .told routeClosed addr) :
    Agrees env id (.looked found :: .looked found' :: .built target message :: rest) ↔
      target.webSocket = true := by
  have hbuilt : ∀ built m, Note.built built m ∈
      (Note.looked found :: .looked found' :: .built target message :: rest) →
      built = target := by
    intro built m hmem
    simp only [List.mem_cons, reduceCtorEq, Note.built.injEq, false_or] at hmem
    rcases hmem with ⟨rfl, -⟩ | hmem
    · rfl
    · rcases hnotes _ hmem with ⟨_, h⟩ | ⟨_, _, h, _⟩ | h <;> cases h
  constructor
  · intro h
    obtain ⟨note, hmem, ⟨connectionId, bytes, rfl⟩ | rfl⟩ := hsent
    · obtain ⟨-, built, m, hm, -, hws⟩ := h.webSocket connectionId bytes (by simp [hmem])
      rw [← hbuilt built m hm]
      exact hws
    · obtain ⟨built, m, hm, hws⟩ := h.told addr (by simp [hmem])
      rw [← hbuilt built m hm]
      exact hws
  · intro h
    refine ⟨fun m a hm => ?_, fun connectionId bytes hm => ?_, fun a _ =>
      ⟨target, message, by simp, h⟩⟩
    · have hm : Note.native m a ∈ rest := by simpa using hm
      rcases hnotes _ hm with ⟨_, h⟩ | ⟨_, _, h, _⟩ | h <;> cases h
    · have hm : Note.webSocket connectionId bytes ∈ rest := by simpa using hm
      rcases hnotes _ hm with ⟨_, h⟩ | ⟨_, _, heq, hcandidate, hbytes⟩ | h
      · cases h
      · cases heq
        exact ⟨by simp [hcandidate], target, message, by simp, hbytes, h⟩
      · cases h

theorem steady_iff {rest : List Note} (hrest : ∀ b, .looked b ∉ rest) :
    Steady (.looked found :: .looked found' :: .built target message :: rest) ↔ found = found' := by
  constructor
  · exact fun h => h found found' (by simp) (by simp)
  · rintro rfl a b ha hb
    have hlooked : ∀ c, Note.looked c ∈ .looked found :: .looked found :: .built target message ::
        rest → c = found := by
      intro c hc
      simpa [hrest c] using hc
    rw [hlooked a ha, hlooked b hb]

/-- The message is delivered as the first lookup says. -/
theorem ends_deliver (htarget : target.webSocket = found')
    (haddr : found' = false → target.routeAddr = addr) :
    Ends (deliver env routeAddr id found message addr)
      [.looked found, .looked found', .built target message]
      fun _ notes => (Agrees env id notes ↔ Steady notes) ∧ .built target message ∈ notes := by
  subst htarget
  unfold deliver
  cases found with
  | false =>
    refine ends_perform fun r => ⟨?_, by simp⟩
    refine (agrees_native haddr).trans (eq_comm.trans (steady_iff ?_).symm)
    simp [Act.notes]
  | true =>
    rw [if_pos rfl]
    refine ends_bind fun w hw => (ends_sendToPeer w hw).mono ?_
    rintro sent t (⟨rfl, ht⟩ | ⟨connectionId, bytes, hbytes, ht⟩)
    · rw [ht]
      refine ends_perform fun r => ⟨?_, by simp⟩
      refine (agrees_webSocket routeAddr [.told routeClosed routeAddr] ?_ ?_).trans (eq_comm.trans (steady_iff ?_).symm)
      · simp
      · exact ⟨_, List.mem_singleton_self _, .inr rfl⟩
      · simp [Act.notes]
    · rw [ht]
      cases sent with
      | true =>
        refine ends_pure ⟨?_, by simp⟩
        refine (agrees_webSocket routeAddr [.candidate id connectionId,
          .webSocket connectionId bytes] ?_ ?_).trans (eq_comm.trans (steady_iff ?_).symm)
        · simp [hbytes]
        · exact ⟨.webSocket connectionId bytes, by simp, .inl ⟨_, _, rfl⟩⟩
        · simp
      | false =>
        refine ends_perform fun r => ⟨?_, by simp⟩
        refine (agrees_webSocket routeAddr [.candidate id connectionId,
          .webSocket connectionId bytes, .told routeClosed routeAddr] ?_ ?_).trans
            (eq_comm.trans (steady_iff ?_).symm)
        · simp [hbytes]
        · exact ⟨.webSocket connectionId bytes, by simp, .inl ⟨_, _, rfl⟩⟩
        · simp [Act.notes]

end Dispatch

/-- A message that is dispatched goes where it was built for if and only if both lookups of the
target have found a session, or both none. -/
theorem dispatch_agrees_iff (env : Env) (routeAddr effectiveAddr : SocketAddr)
    (ph : PunchHoleRequest) (key : String) (ws : Bool) {routes : Routes}
    {es : List (Event Act Act.Reply World)} {r : Except String Unit} {t : World}
    (hrun : Eval next (handleTcpPunchHoleRequest env routeAddr effectiveAddr ph key ws) ⟨routes, []⟩
      es r t) :
    Agrees env ph.id t.notes ↔ (Dispatched t.notes → Steady t.notes) := by
  have hends : Ends (handleTcpPunchHoleRequest env routeAddr effectiveAddr ph key ws) []
      fun _ notes => Agrees env ph.id notes ↔ (Dispatched notes → Steady notes) := by
    unfold handleTcpPunchHoleRequest
    refine ends_bind (ends_perform fun first => ?_)
    change Ends _ [.looked (first : Option SessionRoute).isSome] _
    refine ends_bind fun w hw => (ends_handlePunchHoleRequest w hw).mono ?_
    rintro r u (⟨message, rfl, hne, hu⟩ | ⟨message, addr, found, target, rfl, hu, htarget, haddr⟩)
    · -- Nothing is dispatched, and the requester is told something else.
      refine ends_perform fun r => ?_
      have hne : routeClosed ≠ message := fun h => hne h.symm
      have hquiet : Agrees env ph.id (u.notes ++ [.told message routeAddr]) ∧
          ¬ Dispatched (u.notes ++ [.told message routeAddr]) := by
        rcases hu with hu | ⟨found, hu⟩
        all_goals
          rw [hu]
          exact ⟨⟨by simp, by simp, by simp [hne]⟩, by simp [Dispatched]⟩
      exact iff_of_true hquiet.1 fun h => absurd h hquiet.2
    · rw [hu]
      intro v hv
      refine (ends_deliver htarget haddr v hv).mono fun r t ht => ht.1.trans ?_
      exact ⟨fun h _ => h, fun h => h ⟨target, message, ht.2⟩⟩
  exact (hends ⟨routes, []⟩ rfl).eval hrun

/-! ## Sessions that come and go -/

def sampleEnv : Env := ⟨fun _ => false, "192.168.0.1", fun _ => [1], fun _ => some [2]⟩

def sampleRequest : PunchHoleRequest := ⟨"peer", "", .asymmetric, 0⟩

def sampleController : SocketAddr := .v4 0xc0000201 40000

def samplePeer : SocketAddr := .v4 0xc6336401 50000

/-- The peer has a session of connection 10. -/
def sampleRoutes : Routes :=
  (Routes.init.bind "peer" 10 (.v4 0xc6336401) (.v4 0x7f000001 21118) 1 0 10 10).2

/-- The sessions once it is gone. -/
def emptiedRoutes : Routes := (sampleRoutes.removeIfCurrentInner "peer" 1 10 true).2

theorem next_of_step {w t : World} (a : Act) (c : a.Choice) {r : a.Reply}
    (h : step w a c = some (r, t)) : next w a r t :=
  ⟨w.routes, .refl, c, h⟩

/-- It may be gone before the next action. -/
theorem next_of_removal {w t : World} (hw : w.routes = sampleRoutes) (a : Act) (c : a.Choice)
    {r : a.Reply} (h : step { w with routes := emptiedRoutes } a c = some (r, t)) :
    next w a r t := by
  refine ⟨emptiedRoutes, .single ?_, c, h⟩
  rw [hw]
  exact .remove _ "peer" 1 10 true

def sampleMessage : RendezvousMessage := .punchHole [1] .asymmetric "" none

def sampleTarget : Target := chooseTarget none samplePeer 0

/-- The session goes between the two lookups: the message is built for the address of the peer. -/
theorem exists_route_lost : ∃ es r t,
    Eval next (handleTcpPunchHoleRequest sampleEnv sampleController sampleController sampleRequest ""
      false) ⟨sampleRoutes, []⟩ es r t ∧
      t.notes = [.looked true, .looked false, .built sampleTarget sampleMessage,
        .told routeClosed sampleController] :=
  ⟨_, _, _, .act (next_of_step (.route "peer") (0 : Nat) rfl)
    (.act (next_of_removal rfl (.route "peer") (0 : Nat) rfl)
    (.act (next_of_step (.peer "peer") (some (samplePeer, 0) : Option (SocketAddr × Nat)) rfl)
    (.act (next_of_step (.recordPunch sampleController samplePeer "peer") () rfl)
    (.act (next_of_step (.getRelayServer sampleController.ip samplePeer.ip .nativeOnly) "" rfl)
    (.act (next_of_step .alwaysUseRelay false rfl)
    (.act (next_of_step (.createOffer 0 sampleController sampleController samplePeer samplePeer
      "peer" .nativeOnly false false "") (none : Option RelayQualityOffer) rfl)
    (.act (next_of_step (.dispatching sampleTarget sampleMessage) () rfl)
    (.act (next_of_step (.candidate "peer") () rfl)
    (.act (next_of_step (.sendToTcpSync routeClosed sampleController)
      (.ok () : Except String Unit) rfl) (.pure _ _)))))))))), rfl⟩

/-- The requester is told that a WebSocket route closed, of a message for no such route. -/
theorem route_lost_between_lookups : ∃ es r t,
    Eval next (handleTcpPunchHoleRequest sampleEnv sampleController sampleController sampleRequest ""
      false) ⟨sampleRoutes, []⟩ es r t ∧ ¬ Agrees sampleEnv "peer" t.notes := by
  obtain ⟨es, r, t, hrun, ht⟩ := exists_route_lost
  refine ⟨es, r, t, hrun, fun h => ?_⟩
  rw [ht] at h
  obtain ⟨target, message, hbuilt, hws⟩ := h.told sampleController (by simp)
  obtain ⟨rfl, -⟩ : target = sampleTarget ∧ message = sampleMessage := by simpa using hbuilt
  cases hws

theorem dispatch_agrees_sample : ∃ es r t,
    Eval next (handleTcpPunchHoleRequest sampleEnv sampleController sampleController sampleRequest ""
      false) ⟨sampleRoutes, []⟩ es r t ∧
      (Agrees sampleEnv "peer" t.notes ↔ (Dispatched t.notes → Steady t.notes)) := by
  obtain ⟨es, r, t, hrun, -⟩ := exists_route_lost
  exact ⟨es, r, t, hrun, dispatch_agrees_iff sampleEnv sampleController sampleController
    sampleRequest "" false hrun⟩

end Starry.Rendezvous.PunchHole
