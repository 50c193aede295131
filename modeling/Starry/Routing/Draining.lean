import Starry.Activation.WellFormed
import Starry.Routing.Sessions

/-!
# A drain and the leases (`websocket_signal/routing.rs`)

`drain_all_now` empties two tables at once and then clears the leases of the sessions it took. It
waits for none of the three locks. A registration binds its session before it commits its claim,
so a drain may come between the two.
-/

open Library

namespace Starry.Routing

open Starry.Activation (System Phase RouteKind LeaseRecord Registry)

structure ConnectionContext where
  /-- Also the writer's. -/
  connectionId : Nat
  effectiveAddr : SocketAddr
deriving DecidableEq, Repr

/-- A session by its peer, its generation and its connection. -/
abbrev SessionKey := String × Nat × Nat

def SessionKey.route (key : SessionKey) : RouteKind := .webSocket key.2.1 key.2.2

/-- A registration between `bind` and the commit of its claim. -/
structure Binding where
  task : Nat
  key : SessionKey
deriving DecidableEq, Repr

structure Server where
  routes : Routes
  connections : Table SocketAddr ConnectionContext
  activation : System
  bindings : List Binding
  /-- What a drain has taken that has not come to the leases yet, and the number of connections. It
  holds the locks of both tables. -/
  taken : Option (List SessionKey × Nat)
  /-- The connections that have registered. -/
  registered : Finset Nat
  /-- Ghost: what the drains have answered. -/
  answers : List (Except String (Nat × Nat))
  /-- Ghost: the sessions of the drains that succeeded. -/
  drained : List SessionKey

def Server.init : Server := ⟨.init, .empty, .init, [], none, ∅, [], []⟩

inductive ServerMove
  | registerConnection (routeAddr effectiveAddr : SocketAddr) (connectionId : Nat)
  | removeConnection (routeAddr : SocketAddr) (connectionId : Nat)
  /-- Task `task` binds a session for the claim it holds. -/
  | bind (task connectionId : Nat) (effectiveIp : IpAddr) (routeAddr : SocketAddr) (nowMillis : Nat)
  /-- It commits its claim onto that session. -/
  | commitBound (task : Nat) (now : Instant)
  | removeSession (peerId : String) (generation connectionId : Nat) (abortWriter : Bool)
  /-- Any other step of the registry. -/
  | registry (l : Activation.Step)
  /-- `drain_all_now` tries the locks of the two tables and empties them. -/
  | drainAllNow (sessionsBusy connectionsBusy : Bool)
  /-- It goes on to `disconnect_websocket_routes_now`, which tries the lock of the leases. -/
  | disconnectWebsocketRoutesNow (leasesBusy : Bool) (now : Instant)

/-- The steps of the registry that the code takes without a session: no other commit has a WebSocket
route, and no other drain there is. -/
def sessionless : Activation.Step → Bool
  | .commitActivation _ (.webSocket _ _) _ | .commitRenewal _ (.webSocket _ _) _
  | .disconnectWebsocketRoutesNow _ _ => false
  | _ => true

namespace Server

variable (s : Server)

def sessionsBusyText : String := "WebSocket session registry is busy; retry activation"

def connectionsBusyText : String := "WebSocket connection registry is busy; retry activation"

/-- `drain_all_now` up to the leases. -/
def drainAllNow (sessionsBusy connectionsBusy : Bool) : Except String Server :=
  if sessionsBusy then .error sessionsBusyText
  else if connectionsBusy then .error connectionsBusyText
  else
    let (drainedSessions, routes) := s.routes.drain
    let writers := (s.connections.entries.map fun e => e.2.connectionId).toFinset
    .ok { s with
      routes := { routes with closed := routes.closed ∪ writers }
      connections := .empty
      taken := some (drainedSessions, s.connections.len) }

/-- The claim of a registration that may bind a session now. -/
def claim (task : Nat) : Option Activation.ActivationClaim :=
  match s.activation.tasks[task]? with
  | some (.holding _ (.activation c)) => some c
  | _ => none

def bind (maxSessions maxSessionsPerIp task connectionId : Nat) (c : Activation.ActivationClaim)
    (effectiveIp : IpAddr) (routeAddr : SocketAddr) (nowMillis : Nat) : Server :=
  let (bound, routes) := s.routes.bind c.peerId connectionId effectiveIp routeAddr c.generation
    nowMillis maxSessions maxSessionsPerIp
  { s with
    routes
    registered := insert connectionId s.registered
    bindings := match bound with
      | .ok _ => ⟨task, c.peerId, c.generation, connectionId⟩ :: s.bindings
      | .error _ => s.bindings }

/-- The binding of a task is gone once the task is. -/
def forget (l : Activation.Step) : List Binding :=
  match l with
  | .drop i => s.bindings.filter fun b => b.task != i
  | _ => s.bindings

def step (sha256 : Bytes → Bytes) (maxSessions maxSessionsPerIp : Nat) (s : Server) :
    ServerMove → Option Server
  | .registerConnection routeAddr effectiveAddr connectionId =>
    if s.taken.isSome then none
    else some { s with
      connections := s.connections.insert routeAddr ⟨connectionId, effectiveAddr⟩ }
  | .removeConnection routeAddr connectionId =>
    if s.taken.isSome then none
    else if (s.connections.get routeAddr).any fun entry => entry.connectionId == connectionId then
      some { s with connections := s.connections.remove routeAddr }
    else some s
  | .bind task connectionId effectiveIp routeAddr nowMillis =>
    -- A connection registers once, and no two have one id.
    if s.taken.isSome || decide (connectionId ∈ s.registered) then none
    else (s.claim task).map fun c =>
      s.bind maxSessions maxSessionsPerIp task connectionId c effectiveIp routeAddr nowMillis
  | .commitBound task now =>
    match s.bindings.find? fun b => b.task == task with
    | none => none
    | some b => (s.activation.step sha256 (.commitActivation task b.key.route now)).map fun
        activation => { s with activation, bindings := s.bindings.erase b }
  | .removeSession peerId generation connectionId abortWriter =>
    if s.taken.isSome then none
    else some { s with
      routes := (s.routes.removeIfCurrentInner peerId generation connectionId abortWriter).2 }
  | .registry l =>
    if sessionless l then
      (s.activation.step sha256 l).map fun activation =>
        { s with activation, bindings := s.forget l }
    else none
  | .drainAllNow sessionsBusy connectionsBusy =>
    if s.taken.isSome && !sessionsBusy then none
    else match s.drainAllNow sessionsBusy connectionsBusy with
      | .error text => some { s with answers := s.answers ++ [.error text] }
      | .ok drained => some drained
  | .disconnectWebsocketRoutesNow leasesBusy now =>
    match s.taken with
    | none => none
    | some (sessions, connections) =>
      some { s with
        -- A lock that is held makes it answer zero, which nobody looks at.
        activation := if leasesBusy then s.activation
          else { s.activation with
            registry := s.activation.registry.disconnectWebsocketRoutesNow sessions now }
        taken := none
        answers := s.answers ++ [.ok (sessions.length, connections)]
        drained := s.drained ++ sessions }

end Server

/-! ## Routes of records -/

section Records

variable {sha256 : Bytes → Bytes} {w w' : System} {l : Activation.Step} {p : String}
  {r' : LeaseRecord}

/-- A route that a record has was there before, or a commit has just put it there. -/
theorem route_of_change {o o' : Option LeaseRecord} (h : Activation.Change w p l o o')
    (hr : o' = some r') {route : RouteKind} (hroute : r'.route = some route) :
    (∃ r, o = some r ∧ r.route = some route) ∨
      (∃ i m c now, l = .commitActivation i route now ∧
        w.tasks[i]? = some (.holding m (.activation c)) ∧ c.peerId = p) ∨
      ∃ i now, l = .commitRenewal i route now := by
  cases h with
  | quiet hq =>
    cases hq with
    | same => exact .inl ⟨r', hr, hroute⟩
    | touched r now =>
      cases hr
      exact .inl ⟨r, rfl, hroute⟩
    | cleared r now _ =>
      cases hr
      cases hroute
    | swept => cases hr
  | activated _ ht _ hp =>
    cases hr
    cases hroute
    exact .inr (.inl ⟨_, _, _, _, rfl, ht, hp⟩)
  | renewed r =>
    cases hr
    cases hroute
    exact .inr (.inr ⟨_, _, rfl⟩)
  | retired r =>
    cases hr
    cases hroute

/-- A retired record has no route. -/
def RetiredEmpty (w : System) : Prop :=
  ∀ p r, w.lease p = some r → r.retired = true → r.route = none

theorem retiredEmpty_step (hw : RetiredEmpty w) (h : w.step sha256 l = some w') :
    RetiredEmpty w' := by
  intro p r hr hretired
  have hchange := Activation.step_change h p
  rw [hr] at hchange
  generalize hold : w.lease p = o at hchange
  cases hchange with
  | quiet hq =>
    cases hq with
    | same => exact hw p r hold hretired
    | touched r now => exact hw p r hold hretired
    | cleared r now _ => rfl
  | activated => cases hretired
  | renewed r _ _ _ hmatch =>
    simp only [Activation.RenewalClaim.matchesRecord, Bool.and_eq_true, Bool.not_eq_true'] at hmatch
    rw [hmatch.2] at hretired
    cases hretired
  | retired r => rfl

end Records

/-! ## What a drain revokes -/

/-- No lease has the route of a session that was drained. -/
def Server.Revoked (s : Server) : Prop :=
  ∀ key ∈ s.drained, ∀ r, s.activation.lease key.1 = some r → r.route ≠ some key.route

structure Server.Inv (s : Server) : Prop where
  retired : RetiredEmpty s.activation
  revoked : s.Revoked
  bindings : ∀ b ∈ s.bindings, ∀ key ∈ s.drained, b.key.2.2 ≠ key.2.2
  sessions : ∀ p session, s.routes.sessions.get p = some session →
    session.connectionId ∈ s.registered
  taken : ∀ taken, s.taken = some taken → ∀ key ∈ taken.1, key.2.2 ∈ s.registered
  drained : ∀ key ∈ s.drained, key.2.2 ∈ s.registered

section Steps

variable {sha256 : Bytes → Bytes} {maxSessions maxSessionsPerIp : Nat} {s t : Server}

/-- A step of the registry that commits onto no drained session. -/
theorem Server.Inv.activation {l : Activation.Step} {w : System} (h : s.Inv)
    (hstep : s.activation.step sha256 l = some w)
    (hl : ∀ i route now, l = .commitActivation i route now ∨ l = .commitRenewal i route now →
      ∀ key ∈ s.drained, route ≠ key.route) :
    RetiredEmpty w ∧
      ∀ key ∈ s.drained, ∀ r, w.lease key.1 = some r → r.route ≠ some key.route := by
  refine ⟨retiredEmpty_step h.retired hstep, fun key hkey r hr hroute => ?_⟩
  have hchange := Activation.step_change hstep key.1
  obtain ⟨old, hold, hsame⟩ | ⟨i, m, c, now, hcommit, -⟩ | ⟨i, now, hcommit⟩ :=
    route_of_change hchange hr hroute
  · exact h.revoked key hkey old hold hsame
  · exact hl i key.route now (.inl hcommit) key hkey rfl
  · exact hl i key.route now (.inr hcommit) key hkey rfl

theorem bind_known {registered : Finset Nat} {r : Routes}
    (h : ∀ p session, r.sessions.get p = some session → session.connectionId ∈ registered)
    (peerId : String) (connectionId : Nat) (effectiveIp : IpAddr) (routeAddr : SocketAddr)
    (generation nowMillis maxSessions maxSessionsPerIp : Nat) :
    ∀ p session, (r.bind peerId connectionId effectiveIp routeAddr generation nowMillis maxSessions
      maxSessionsPerIp).2.sessions.get p = some session →
        session.connectionId ∈ insert connectionId registered := by
  intro p session hget
  rcases bind_cases r peerId connectionId effectiveIp routeAddr generation nowMillis maxSessions
    maxSessionsPerIp with heq | ⟨-, -, hsessions⟩
  · rw [heq] at hget
    exact Finset.mem_insert_of_mem (h p session hget)
  · rw [hsessions, Table.get_insert] at hget
    split at hget
    · cases hget
      exact Finset.mem_insert_self _ _
    · exact Finset.mem_insert_of_mem (h p session hget)

theorem Server.Inv.bind (h : s.Inv) {task connectionId : Nat} (hnew : connectionId ∉ s.registered)
    (c : Activation.ActivationClaim) (effectiveIp : IpAddr) (routeAddr : SocketAddr)
    (nowMillis : Nat) :
    (s.bind maxSessions maxSessionsPerIp task connectionId c effectiveIp routeAddr nowMillis).Inv := by
  refine ⟨h.retired, h.revoked, fun b hb key hkey => ?_, fun p session hget =>
    bind_known h.sessions _ _ _ _ _ _ _ _ p session hget, ?_, ?_⟩
  · have hdrained := h.drained key hkey
    have hcases : b ∈ s.bindings ∨ b.key.2.2 = connectionId := by
      unfold Server.bind at hb
      dsimp only at hb
      split at hb
      · exact (List.mem_cons.mp hb).elim (fun heq => .inr (by rw [heq])) .inl
      · exact .inl hb
    rcases hcases with hb | hb
    · exact h.bindings b hb key hkey
    · rw [hb]
      rintro rfl
      exact hnew hdrained
  · exact fun taken htaken key hkey => Finset.mem_insert_of_mem (h.taken taken htaken key hkey)
  · exact fun key hkey => Finset.mem_insert_of_mem (h.drained key hkey)

end Steps

/-- The record that `verify_active` confirms has the route of the drained session. -/
def Server.Confirms (s : Server) (q : Activation.VerifyRequest) (key : SessionKey) : Prop :=
  q.peerId = key.1 ∧ Registry.verified (s.activation.lease q.peerId) q = true ∧
    ∃ r, s.activation.lease key.1 = some r ∧ r.route = some key.route

open Activation (sampleRegistration sampleLease sampleCall)

def sampleServerAddr : SocketAddr := .new (.v4 0x7f000001) 21118

/-- Task 0 registers the peer, up to its claim. -/
def sampleClaimed : List ServerMove :=
  (sampleCall (.registration sampleRegistration) 0 7 (sampleLease 7)).map .registry

/-- It binds a session for connection 10. -/
def sampleBind : ServerMove := .bind 0 10 (.v4 0x7f000001) sampleServerAddr 0

def sampleVerify : Activation.VerifyRequest :=
  ⟨"peer", List.replicate 16 1, 1, List.replicate 16 3, [(sampleLease 7).val]⟩

/-- A run ends with the lease of a drained session confirmed. -/
def confirmsDrained (s : Server) : Bool :=
  s.drained == [("peer", 1, 10)] &&
    Registry.verified (s.activation.lease "peer") sampleVerify &&
    (s.activation.lease "peer").any fun r => r.route == some (.webSocket 1 10)

theorem confirms_of_confirmsDrained {s : Server} (h : confirmsDrained s = true) :
    ("peer", 1, 10) ∈ s.drained ∧ s.Confirms sampleVerify ("peer", 1, 10) := by
  simp only [confirmsDrained, Bool.and_eq_true, beq_iff_eq, Option.any_eq_true] at h
  obtain ⟨⟨hdrained, hverified⟩, r, hr, hroute⟩ := h
  exact ⟨by simp [hdrained], rfl, hverified, r, hr, hroute⟩

/-- So is the lease of a registration that commits after the drain took its session. -/
theorem drained_lease_committed :
    ∃ moves s, Run (Steps (Server.step id 10 10)) Server.init moves s ∧
      (∀ now, .disconnectWebsocketRoutesNow true now ∉ moves) ∧
      s.Confirms sampleVerify ("peer", 1, 10) ∧ ("peer", 1, 10) ∈ s.drained := by
  have h : (exec (Server.step id 10 10) (fun _ _ => true) Server.init (sampleClaimed ++
      [sampleBind, .drainAllNow false false, .disconnectWebsocketRoutesNow false 0,
        .commitBound 0 0])).any confirmsDrained = true := by
    decide
  obtain ⟨s, hs, hconfirms⟩ := (Option.any_eq_true _ _).mp h
  obtain ⟨hmem, hconfirms⟩ := confirms_of_confirmsDrained hconfirms
  exact ⟨_, s, .of_exec hs, by simp [sampleClaimed, sampleBind], hconfirms, hmem⟩

end Starry.Routing
