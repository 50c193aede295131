import Starry.Activation.Registry
import Starry.Library.Run

/-!
# WebSocket sessions (`websocket_signal/routing.rs`)

`SESSIONS` has at most one session for a peer. A writer is shared by its clones, so it is known by
the id of its connection, and what is shared of it is whether it is closed. The time at which a
session was last seen is shared with its token: both name it by a cell.
-/

open Library

namespace Starry.Routing

structure Session where
  generation : Nat
  /-- The writer's. -/
  connectionId : Nat
  effectiveIp : IpAddr
  routeAddr : SocketAddr
  /-- The cell of `last_seen_millis`. Every `bind` makes its own. -/
  lastSeen : Nat
deriving DecidableEq, Repr

structure SessionToken where
  peerId : String
  generation : Nat
  connectionId : Nat
  lastSeen : Nat
deriving DecidableEq, Repr

structure SessionRoute where
  generation : Nat
  routeAddr : SocketAddr
  effectiveIp : IpAddr
  idleMillis : Nat
deriving DecidableEq, Repr

structure Routes where
  sessions : Table String Session
  /-- The connections whose writer is closed. -/
  closed : Finset Nat
  lastSeenMillis : Nat → Nat
  nextCell : Nat

def Routes.init : Routes := ⟨.empty, ∅, fun _ => 0, 0⟩

/-- `now_millis` -/
def nowMillis (now : Instant) : Nat := now / 1000000

inductive SendError
  | closed | full
deriving DecidableEq, Repr

namespace Routes

variable (r : Routes)

/-- The sessions of an address, less the one of the peer. -/
def sameIp (sessions : Table String Session) (peerId : String) (effectiveIp : IpAddr) : Nat :=
  (sessions.retain fun id session => id != peerId && session.effectiveIp == effectiveIp).len

/-- All sessions of an address. -/
def countIp (sessions : Table String Session) (effectiveIp : IpAddr) : Nat :=
  (sessions.retain fun _ session => session.effectiveIp == effectiveIp).len

/-- `WsWriteTransport::abort` -/
def abort (connectionId : Nat) : Routes := { r with closed := insert connectionId r.closed }

/-- `WsWriteTransport::send_binary`, where `queue` is what the channel answers. -/
def sendBinary (connectionId : Nat) (queue : Except SendError Unit) : Except SendError Unit × Routes :=
  if connectionId ∈ r.closed then (.error .closed, r)
  else match queue with
    | .ok () => (.ok (), r)
    | .error e => (.error e, r.abort connectionId)

def touch (token : SessionToken) (nowMillis : Nat) : Routes :=
  { r with lastSeenMillis := Function.update r.lastSeenMillis token.lastSeen nowMillis }

def idleFor (token : SessionToken) (nowMillis : Nat) : Nat :=
  nowMillis - r.lastSeenMillis token.lastSeen

def capacityAvailable (peerId : String) (effectiveIp : IpAddr)
    (maxSessions maxSessionsPerIp : Nat) : Bool :=
  let replacing := (r.sessions.get peerId).isSome
  if !replacing && r.sessions.len ≥ maxSessions then false
  else sameIp r.sessions peerId effectiveIp < maxSessionsPerIp

/-- The error texts of `bind`. -/
def globalLimitReached : String := "global WebSocket session limit reached"

def perIpLimitReached : String := "per-effective-IP WebSocket session limit reached"

/-- `bind`, with the generation that was given or drawn. -/
def bind (peerId : String) (connectionId : Nat) (effectiveIp : IpAddr) (routeAddr : SocketAddr)
    (generation nowMillis maxSessions maxSessionsPerIp : Nat) :
    Except String SessionToken × Routes :=
  let replacing := (r.sessions.get peerId).isSome
  if !replacing && r.sessions.len ≥ maxSessions then (.error globalLimitReached, r)
  else if sameIp r.sessions peerId effectiveIp ≥ maxSessionsPerIp then (.error perIpLimitReached, r)
  else
    let new : Session := ⟨generation, connectionId, effectiveIp, routeAddr, r.nextCell⟩
    let bound : Routes :=
      { r with
        sessions := r.sessions.insert peerId new
        lastSeenMillis := Function.update r.lastSeenMillis r.nextCell nowMillis
        nextCell := r.nextCell + 1 }
    let token : SessionToken := ⟨peerId, generation, connectionId, r.nextCell⟩
    match r.sessions.get peerId with
    | some previous => (.ok token, bound.abort previous.connectionId)
    | none => (.ok token, bound)

def route (peerId : String) (nowMillis : Nat) : Option SessionRoute :=
  (r.sessions.get peerId).map fun session =>
    ⟨session.generation, session.routeAddr, session.effectiveIp,
      nowMillis - r.lastSeenMillis session.lastSeen⟩

/-- `remove_if_current_inner` -/
def removeIfCurrentInner (peerId : String) (generation connectionId : Nat) (abortWriter : Bool) :
    Bool × Routes :=
  match r.sessions.get peerId with
  | some session =>
    if session.generation = generation ∧ session.connectionId = connectionId then
      let removed : Routes := { r with sessions := r.sessions.remove peerId }
      (true, if abortWriter then removed.abort connectionId else removed)
    else (false, r)
  | none => (false, r)

/-- The sessions that a drain takes out, and their writers closed. -/
def drain : List (String × Nat × Nat) × Routes :=
  let drained := r.sessions.entries.map fun e => (e.1, e.2.generation, e.2.connectionId)
  (drained, { r with
    sessions := .empty
    closed := r.closed ∪ (drained.map fun e => e.2.2).toFinset })

end Routes

/-! ## What an operation does -/

/-- A removal finds the very session, or does nothing. -/
theorem removeIfCurrentInner_cases (r : Routes) (peerId : String) (generation connectionId : Nat)
    (abortWriter : Bool) :
    (r.removeIfCurrentInner peerId generation connectionId abortWriter).2 = r ∨
      ∃ session, r.sessions.get peerId = some session ∧ session.generation = generation ∧
        session.connectionId = connectionId ∧
        (r.removeIfCurrentInner peerId generation connectionId abortWriter).2.sessions =
          r.sessions.remove peerId := by
  unfold Routes.removeIfCurrentInner
  split
  · rename_i session hget
    split
    · rename_i hcurrent
      refine .inr ⟨session, hget, hcurrent.1, hcurrent.2, ?_⟩
      cases abortWriter <;> rfl
    · exact .inl rfl
  · exact .inl rfl

theorem bind_cases (r : Routes) (peerId : String) (connectionId : Nat) (effectiveIp : IpAddr)
    (routeAddr : SocketAddr) (generation nowMillis maxSessions maxSessionsPerIp : Nat) :
    (r.bind peerId connectionId effectiveIp routeAddr generation nowMillis maxSessions
        maxSessionsPerIp).2 = r ∨
      (r.sessions.get peerId = none → r.sessions.len < maxSessions) ∧
        Routes.sameIp r.sessions peerId effectiveIp < maxSessionsPerIp ∧
        (r.bind peerId connectionId effectiveIp routeAddr generation nowMillis maxSessions
            maxSessionsPerIp).2.sessions =
          r.sessions.insert peerId
            ⟨generation, connectionId, effectiveIp, routeAddr, r.nextCell⟩ := by
  unfold Routes.bind
  dsimp only
  split
  · exact .inl rfl
  · rename_i hall
    split
    · exact .inl rfl
    · rename_i hip
      refine .inr ⟨fun hnone => ?_, Nat.not_le.mp hip, ?_⟩
      · simpa [hnone] using hall
      · split <;> rfl

/-- What a `bind` that succeeds has stored. -/
theorem bind_ok {routes routes' : Routes} {token : SessionToken} {peerId : String}
    {connectionId : Nat} {effectiveIp : IpAddr} {routeAddr : SocketAddr}
    {generation now maxSessions maxSessionsPerIp : Nat}
    (h : routes.bind peerId connectionId effectiveIp routeAddr generation now maxSessions
      maxSessionsPerIp = (.ok token, routes')) :
    token.peerId = peerId ∧ token.generation = generation ∧ token.lastSeen = routes.nextCell ∧
      routes'.sessions.get peerId =
        some ⟨generation, connectionId, effectiveIp, routeAddr, routes.nextCell⟩ ∧
      routes'.lastSeenMillis token.lastSeen = now := by
  unfold Routes.bind at h
  dsimp only at h
  split at h
  · cases h
  · split at h
    · cases h
    · split at h <;> cases h
      · exact ⟨rfl, rfl, rfl, by simp [Routes.abort], by simp [Routes.abort]⟩
      · exact ⟨rfl, rfl, rfl, by simp, by simp⟩

/-- A removal answers whether it took the session away. -/
theorem removeIfCurrentInner_answer (r : Routes) (peerId : String) (generation connectionId : Nat)
    (abortWriter : Bool) :
    r.removeIfCurrentInner peerId generation connectionId abortWriter = (false, r) ∨
      ∃ session routes, r.sessions.get peerId = some session ∧ session.generation = generation ∧
        session.connectionId = connectionId ∧ r.removeIfCurrentInner peerId generation connectionId
          abortWriter = (true, routes) := by
  unfold Routes.removeIfCurrentInner
  split
  · rename_i session hget
    split
    · rename_i hcurrent
      exact .inr ⟨session, _, hget, hcurrent.1, hcurrent.2, rfl⟩
    · exact .inl rfl
  · exact .inl rfl

/-- `bind` finds room where `capacity_available` does. -/
theorem bind_of_capacity {r : Routes} {peerId : String} {connectionId : Nat} {effectiveIp : IpAddr}
    {routeAddr : SocketAddr} {generation nowMillis maxSessions maxSessionsPerIp : Nat}
    (h : r.capacityAvailable peerId effectiveIp maxSessions maxSessionsPerIp = true) :
    ∃ token routes, r.bind peerId connectionId effectiveIp routeAddr generation nowMillis
      maxSessions maxSessionsPerIp = (.ok token, routes) := by
  unfold Routes.capacityAvailable at h
  dsimp only at h
  split at h
  · cases h
  · rename_i hall
    rw [decide_eq_true_eq] at h
    unfold Routes.bind
    dsimp only
    rw [if_neg hall, if_neg (Nat.not_le.mpr h)]
    split <;> exact ⟨_, _, rfl⟩

/-! ## Dispatch -/

/-- `REG_TIMEOUT`, in milliseconds. -/
def regTimeout : Nat := 30000

/-- Where `handle_punch_hole_request` sends a request. -/
structure Target where
  elapsed : Nat
  routeAddr : SocketAddr
  effectiveAddr : SocketAddr
  webSocket : Bool
deriving DecidableEq, Repr

/-- A WebSocket session goes before the address that the peer has. -/
def chooseTarget (targetWebsocket : Option SessionRoute) (nativeAddr : SocketAddr)
    (nativeElapsed : Nat) : Target :=
  match targetWebsocket with
  | some route => ⟨route.idleMillis, route.routeAddr, .new route.effectiveIp 0, true⟩
  | none => ⟨nativeElapsed, nativeAddr, nativeAddr, false⟩

def Target.offline (target : Target) : Bool := target.elapsed ≥ regTimeout

end Starry.Routing
