import Starry.Routing.Sessions

/-!
# Which sessions go

A sender looks a session up, sends, and removes the session later if it could not; the reader of a
connection removes its own at its end. In between the session may be replaced, also by one of the
same generation.
-/

open Library

namespace Starry.Routing

open Starry.Activation (Registry)

/-! ## Steps -/

/-- A call of `try_send`. -/
inductive Sender
  | looked (peerId : String) (generation connectionId : Nat)
  | failed (peerId : String) (generation connectionId : Nat)
  | done
deriving DecidableEq, Repr

structure Traffic where
  routes : Routes
  senders : List Sender
  /-- The calls of `profile_activation::disconnect_route` that are still to be made. -/
  disconnects : List (String × Nat × Nat)
  registry : Registry

def Traffic.init : Traffic := ⟨.init, [], [], .default⟩

inductive RouteMove
  | bind (peerId : String) (connectionId : Nat) (effectiveIp : IpAddr) (routeAddr : SocketAddr)
      (generation nowMillis : Nat)
  /-- `try_send` reads its candidate. -/
  | look (peerId : String)
  /-- It sends, and the channel answers. -/
  | send (i : Nat) (queue : Except SendError Unit)
  /-- It removes its candidate, a slow consumer or a closed writer. -/
  | cleanUp (i : Nat)
  | removeIfCurrent (peerId : String) (generation connectionId : Nat)
  | detachProfileIfCurrent (peerId : String) (generation connectionId : Nat)
  | removeProfileIfCurrent (peerId : String) (generation connectionId : Nat)
  | drainAll
  /-- `drain_all_now`, if the tables are not busy; the leases may be. -/
  | drainAllNow (leasesBusy : Bool) (now : Instant)
  | disconnect (i : Nat) (now : Instant)

namespace Traffic

variable (w : Traffic)

def removeIfCurrent (peerId : String) (generation connectionId : Nat) : Traffic :=
  let (removed, routes) := w.routes.removeIfCurrentInner peerId generation connectionId true
  { w with
    routes
    disconnects :=
      if removed then w.disconnects ++ [(peerId, generation, connectionId)] else w.disconnects }

def step (maxSessions maxSessionsPerIp : Nat) (w : Traffic) : RouteMove → Option Traffic
  | .bind peerId connectionId effectiveIp routeAddr generation nowMillis =>
    some { w with routes := (w.routes.bind peerId connectionId effectiveIp routeAddr generation
      nowMillis maxSessions maxSessionsPerIp).2 }
  | .look peerId =>
    let sender := match w.routes.sessions.get peerId with
      | some session => .looked peerId session.generation session.connectionId
      | none => .done
    some { w with senders := w.senders ++ [sender] }
  | .send i queue => match w.senders[i]? with
    | some (.looked peerId generation connectionId) =>
      let (sent, routes) := w.routes.sendBinary connectionId queue
      let sender := match sent with
        | .ok () => .done
        | .error _ => .failed peerId generation connectionId
      some { w with routes, senders := w.senders.set i sender }
    | _ => none
  | .cleanUp i => match w.senders[i]? with
    | some (.failed peerId generation connectionId) =>
      some { w.removeIfCurrent peerId generation connectionId with
        senders := w.senders.set i .done }
    | _ => none
  | .removeIfCurrent peerId generation connectionId =>
    some (w.removeIfCurrent peerId generation connectionId)
  | .detachProfileIfCurrent peerId generation connectionId =>
    some { w with
      routes := (w.routes.removeIfCurrentInner peerId generation connectionId false).2 }
  | .removeProfileIfCurrent peerId generation connectionId =>
    some { w with
      routes := (w.routes.removeIfCurrentInner peerId generation connectionId true).2 }
  | .drainAll =>
    some { w with routes := w.routes.drain.2, disconnects := w.disconnects ++ w.routes.drain.1 }
  | .drainAllNow leasesBusy now =>
    some { w with
      routes := w.routes.drain.2
      registry := if leasesBusy then w.registry
        else w.registry.disconnectWebsocketRoutesNow w.routes.drain.1 now }
  | .disconnect i now => w.disconnects[i]?.map fun route =>
    { w with
      disconnects := w.disconnects.eraseIdx i
      registry := w.registry.disconnectRoute route.1 (.webSocket route.2.1 route.2.2) now }

/-- The steps that may take the peer's session `session` away. -/
def Departs (w : Traffic) (peerId : String) (session : Session) : RouteMove → Prop
  | .drainAll | .drainAllNow _ _ => True
  | .bind p _ _ _ _ _ => p = peerId
  | .removeIfCurrent p generation connectionId
  | .detachProfileIfCurrent p generation connectionId
  | .removeProfileIfCurrent p generation connectionId =>
    p = peerId ∧ generation = session.generation ∧ connectionId = session.connectionId
  | .cleanUp i =>
    w.senders[i]? = some (.failed peerId session.generation session.connectionId)
  | .look _ | .send _ _ | .disconnect _ _ => False

end Traffic

/-! ## One operation -/

section

variable {r : Routes} {peerId peerId' : String} {session : Session}
  {generation connectionId maxSessions maxSessionsPerIp : Nat}

/-- The limits. -/
structure Bounded (maxSessions maxSessionsPerIp : Nat) (sessions : Table String Session) : Prop where
  all : sessions.len ≤ maxSessions
  perIp : ∀ ip, Routes.countIp sessions ip ≤ maxSessionsPerIp

theorem removed_of_get {abortWriter : Bool} (h : r.sessions.get peerId = some session)
    (hne : (r.removeIfCurrentInner peerId' generation connectionId abortWriter).2.sessions.get
      peerId ≠ some session) :
    peerId' = peerId ∧ generation = session.generation ∧ connectionId = session.connectionId := by
  rcases removeIfCurrentInner_cases r peerId' generation connectionId abortWriter with
    heq | ⟨found, hget, rfl, rfl, hsessions⟩
  · rw [heq] at hne
    exact absurd h hne
  · rw [hsessions, Table.get_remove] at hne
    split at hne
    · rename_i hp
      subst hp
      rw [h] at hget
      cases hget
      exact ⟨rfl, rfl, rfl⟩
    · exact absurd h hne

@[simp] theorem sendBinary_sessions (r : Routes) (connectionId : Nat)
    (queue : Except SendError Unit) : (r.sendBinary connectionId queue).2.sessions = r.sessions := by
  unfold Routes.sendBinary
  split
  · rfl
  · cases queue <;> rfl

/-! ## The limits -/

theorem Bounded.empty : Bounded maxSessions maxSessionsPerIp Table.empty :=
  ⟨Nat.zero_le _, fun _ => Nat.zero_le _⟩

theorem countIp_le {sessions sessions' : Table String Session} (ip : IpAddr)
    (h : ∀ id session, sessions.get id = some session → sessions'.get id = some session) :
    Routes.countIp sessions ip ≤ Routes.countIp sessions' ip := by
  apply Table.len_le_of_get
  intro k
  rw [Table.get_retain, Table.get_retain]
  cases hget : sessions.get k with
  | none => exact fun hsome => by cases hsome
  | some session =>
    rw [h k session hget]
    exact fun hsome => hsome

theorem Bounded.remove {sessions : Table String Session}
    (h : Bounded maxSessions maxSessionsPerIp sessions) (id : String) :
    Bounded maxSessions maxSessionsPerIp (sessions.remove id) := by
  refine ⟨(Table.len_remove_le sessions id).trans h.all, fun ip => ?_⟩
  refine (countIp_le ip fun k session hget => ?_).trans (h.perIp ip)
  rw [Table.get_remove] at hget
  split at hget
  · cases hget
  · exact hget

/-- A new session counts for its own address only. -/
theorem countIp_insert_le (sessions : Table String Session) (id : String) (new : Session)
    (ip : IpAddr) :
    Routes.countIp (sessions.insert id new) ip ≤
      if new.effectiveIp = ip then Routes.sameIp sessions id ip + 1
      else Routes.countIp sessions ip := by
  split
  · rename_i hip
    let others := sessions.retain fun k session => k != id && session.effectiveIp == ip
    have hle : Routes.countIp (sessions.insert id new) ip ≤ (others.insert id new).len := by
      apply Table.len_le_of_get
      intro k hsome
      rw [Table.get_insert]
      split
      · rfl
      · rename_i hk
        rw [Table.get_retain, Table.get_insert, if_neg hk] at hsome
        rw [Table.get_retain]
        have hid : (k != id) = true := bne_iff_ne.mpr hk
        simpa only [hid, Bool.true_and] using hsome
    have hlen : (others.insert id new).len ≤ others.len + 1 := by
      rw [Table.len_insert]
      split <;> omega
    exact hle.trans hlen
  · rename_i hip
    apply Table.len_le_of_get
    intro k hsome
    rw [Table.get_retain, Table.get_insert] at hsome
    rw [Table.get_retain]
    split at hsome
    · simp [Option.filter, hip] at hsome
    · exact hsome

theorem Bounded.insert {sessions : Table String Session} {new : Session} {id : String}
    (h : Bounded maxSessions maxSessionsPerIp sessions)
    (hall : sessions.get id = none → sessions.len < maxSessions)
    (hip : Routes.sameIp sessions id new.effectiveIp < maxSessionsPerIp) :
    Bounded maxSessions maxSessionsPerIp (sessions.insert id new) := by
  refine ⟨?_, fun ip => (countIp_insert_le sessions id new ip).trans ?_⟩
  · rw [Table.len_insert]
    split
    · rename_i hnone
      exact hall hnone
    · exact h.all
  · split
    · rename_i heq
      rw [← heq]
      exact hip
    · exact h.perIp ip

end

/-! ## Every run -/

section Runs

variable {w w' : Traffic} {m : RouteMove} {peerId : String} {session : Session}
  {maxSessions maxSessionsPerIp : Nat}

theorem removeIfCurrent_routes (w : Traffic) (peerId : String) (generation connectionId : Nat) :
    (w.removeIfCurrent peerId generation connectionId).routes =
      (w.routes.removeIfCurrentInner peerId generation connectionId true).2 := rfl

theorem Bounded.removed {r : Routes} (h : Bounded maxSessions maxSessionsPerIp r.sessions)
    (peerId : String) (generation connectionId : Nat) (abortWriter : Bool) :
    Bounded maxSessions maxSessionsPerIp
      (r.removeIfCurrentInner peerId generation connectionId abortWriter).2.sessions := by
  rcases removeIfCurrentInner_cases r peerId generation connectionId abortWriter with
    heq | ⟨_, -, -, -, hsessions⟩
  · rw [heq]
    exact h
  · rw [hsessions]
    exact h.remove peerId

theorem Bounded.step (h : Bounded maxSessions maxSessionsPerIp w.routes.sessions)
    (hw : w.step maxSessions maxSessionsPerIp m = some w') :
    Bounded maxSessions maxSessionsPerIp w'.routes.sessions := by
  cases m with
  | bind peerId connectionId effectiveIp routeAddr generation nowMillis =>
    cases hw
    rcases bind_cases w.routes peerId connectionId effectiveIp routeAddr generation nowMillis
      maxSessions maxSessionsPerIp with heq | ⟨hall, hip, hsessions⟩
    · dsimp only
      rw [heq]
      exact h
    · dsimp only
      rw [hsessions]
      exact h.insert hall hip
  | look peerId =>
    cases hw
    exact h
  | send i queue =>
    simp only [Traffic.step] at hw
    split at hw
    · cases hw
      rw [sendBinary_sessions]
      exact h
    · cases hw
  | cleanUp i =>
    simp only [Traffic.step] at hw
    split at hw
    · cases hw
      exact h.removed ..
    · cases hw
  | removeIfCurrent | detachProfileIfCurrent | removeProfileIfCurrent =>
    cases hw
    exact h.removed ..
  | drainAll | drainAllNow =>
    cases hw
    exact .empty
  | disconnect i now =>
    obtain ⟨route, -, rfl⟩ := Option.map_eq_some_iff.mp hw
    exact h

/-- A step that takes a session away was meant for it. -/
theorem step_departs (h : w.routes.sessions.get peerId = some session)
    (hw : w.step maxSessions maxSessionsPerIp m = some w')
    (hne : w'.routes.sessions.get peerId ≠ some session) : w.Departs peerId session m := by
  cases m with
  | bind p connectionId effectiveIp routeAddr generation nowMillis =>
    cases hw
    rcases bind_cases w.routes p connectionId effectiveIp routeAddr generation nowMillis
      maxSessions maxSessionsPerIp with heq | ⟨-, -, hsessions⟩
    · dsimp only at hne
      rw [heq] at hne
      exact absurd h hne
    · dsimp only at hne
      rw [hsessions, Table.get_insert] at hne
      split at hne
      · rename_i hp
        exact hp.symm
      · exact absurd h hne
  | look p =>
    cases hw
    exact absurd h hne
  | send i queue =>
    simp only [Traffic.step] at hw
    split at hw
    · cases hw
      rw [sendBinary_sessions] at hne
      exact absurd h hne
    · cases hw
  | cleanUp i =>
    simp only [Traffic.step] at hw
    split at hw
    · rename_i p generation connectionId hi
      cases hw
      obtain ⟨rfl, rfl, rfl⟩ := removed_of_get h hne
      exact hi
    · cases hw
  | removeIfCurrent | detachProfileIfCurrent | removeProfileIfCurrent =>
    cases hw
    exact removed_of_get h hne
  | drainAll | drainAllNow => exact trivial
  | disconnect i now =>
    obtain ⟨route, -, rfl⟩ := Option.map_eq_some_iff.mp hw
    exact absurd h hne

/-- The table keeps its limits, and a session that was there goes by a drain, by a `bind` of its
peer, or by a removal of its own generation and connection. -/
theorem session_table_exact (maxSessions maxSessionsPerIp : Nat) (w : Traffic)
    (h : Reachable (Steps (Traffic.step maxSessions maxSessionsPerIp)) .init w) :
    Bounded maxSessions maxSessionsPerIp w.routes.sessions ∧
    (∀ peerId session, w.routes.sessions.get peerId = some session → ∀ is w',
      Run (Steps (Traffic.step maxSessions maxSessionsPerIp)) w is w' →
      w'.routes.sessions.get peerId ≠ some session →
      ∃ js m u v, js ++ [m] <+: is ∧
        Run (Steps (Traffic.step maxSessions maxSessionsPerIp)) w js u ∧
        u.routes.sessions.get peerId = some session ∧
        u.step maxSessions maxSessionsPerIp m = some v ∧
        v.routes.sessions.get peerId ≠ some session ∧ u.Departs peerId session m) ∧
    ∀ peerId session, w.routes.sessions.get peerId = some session →
      ∀ generation connectionId, connectionId ≠ session.connectionId →
      (w.removeIfCurrent peerId generation connectionId).routes.sessions.get peerId =
        some session := by
  refine ⟨?_, ?_, ?_⟩
  · exact h.invariant (P := fun w => Bounded maxSessions maxSessionsPerIp w.routes.sessions) .empty
      fun _ _ _ hb hn => hb.step hn.2
  · intro peerId session hget is w' hrun hne
    obtain ⟨js, m, u, v, hpre, hu, hsome, hstep, hnone⟩ :=
      hrun.leaves (P := fun w => w.routes.sessions.get peerId = some session) hget hne
    exact ⟨js, m, u, v, hpre, hu, hsome, hstep.2, hnone, step_departs hsome hstep.2 hnone⟩
  · intro peerId session hget generation connectionId hne
    by_contra hgone
    exact hne (removed_of_get hget hgone).2.2

end Runs

/-! ## A concrete run -/

/-- A second connection takes over with the same generation before the first one cleans up. -/
def takenOver : List RouteMove :=
  [.bind "peer-1" 1 (.v4 1) (.v4 1 1000) 7 0, .look "peer-1",
    .bind "peer-1" 2 (.v4 1) (.v4 1 1001) 7 5, .send 0 (.ok ()), .cleanUp 0]

def afterTakenOver : Option Traffic :=
  exec (Traffic.step 10 2) (fun _ _ => true) .init takenOver

theorem session_table_exact_taken_over : ∃ w session, afterTakenOver = some w ∧
    w.routes.sessions.get "peer-1" = some session ∧ session.connectionId = 2 ∧
    (w.removeIfCurrent "peer-1" 7 1).routes.sessions.get "peer-1" = some session := by
  have hrun : (afterTakenOver.map fun w => w.routes.sessions.get "peer-1") =
      some (some ⟨7, 2, .v4 1, .v4 1 1001, 1⟩) := by rfl
  obtain ⟨w, hw, hget⟩ := Option.map_eq_some_iff.mp hrun
  exact ⟨w, _, hw, hget, rfl,
    (session_table_exact 10 2 w ⟨_, .of_exec hw⟩).2.2 "peer-1" _ hget 7 1 (by decide)⟩

end Starry.Routing
