import Starry.Routing.Sessions

/-!
# How long a session stays reachable

Three times meet here: after how long an idle session ends and how often HBBS sends a heartbeat,
which are configured, when a lease ends (45 seconds), and when a session that was not seen is taken
for offline (30 seconds). A client learns from the registration how often it has to send.
-/

open Library

namespace Starry.Routing

open Starry.Activation (ActivationClaim Registry RouteKind LeaseRecord leaseTtl)

/-! ## Configuration -/

structure WebSocketSignalConfig where
  registrationTimeoutMs : Nat
  keepaliveIntervalMs : Nat
  idleTimeoutMs : Nat
  maxFrameBytes : Nat
  outboundQueueCapacity : Nat
  maxSessions : Nat
  maxSessionsPerEffectiveIp : Nat
  registrationRatePerMinute : Nat
deriving DecidableEq, Repr

/-- `contains` of an inclusive range. -/
def within (low high n : Nat) : Bool := low ≤ n && n ≤ high

/-- `validate_websocket_signal`. The checks of the proxies, the origins and the relays come last and
do not look at the numbers: `rest` is what they answer. -/
def validateWebsocketSignal (config : WebSocketSignalConfig) (rest : Except String Unit) :
    Except String Unit :=
  if !within 1000 120000 config.registrationTimeoutMs then
    .error "websocket_signal.registration_timeout_ms must be between 1000 and 120000"
  else if !within 1000 300000 config.keepaliveIntervalMs then
    .error "websocket_signal.keepalive_interval_ms must be between 1000 and 300000"
  else if !within 2000 600000 config.idleTimeoutMs then
    .error "websocket_signal.idle_timeout_ms must be between 2000 and 600000"
  else if config.keepaliveIntervalMs ≥ config.idleTimeoutMs then
    .error "websocket_signal.keepalive_interval_ms must be smaller than idle_timeout_ms"
  else if !within 4096 (16 * 1024 * 1024) config.maxFrameBytes then
    .error "websocket_signal.max_frame_bytes must be between 4096 and 16777216"
  else if !within 1 4096 config.outboundQueueCapacity then
    .error "websocket_signal.outbound_queue_capacity must be between 1 and 4096"
  else if !within 1 1000000 config.maxSessions then
    .error "websocket_signal.max_sessions must be between 1 and 1000000"
  else if config.maxSessionsPerEffectiveIp == 0 ||
      config.maxSessionsPerEffectiveIp > config.maxSessions then
    .error "websocket_signal.max_sessions_per_effective_ip must be between 1 and max_sessions"
  else if !within 1 100000 config.registrationRatePerMinute then
    .error "websocket_signal.registration_rate_per_minute must be between 1 and 100000"
  else rest

/-- The `keep_alive` of a registration's answer, in seconds. -/
def WebSocketSignalConfig.keepAlive (config : WebSocketSignalConfig) : Nat :=
  min (max (config.idleTimeoutMs / 1500) 1) (2 ^ 31 - 1)

/-! ## A session over time -/

structure Live where
  now : Instant
  routes : Routes
  registry : Registry
  token : SessionToken
  /-- When the client registered or sent its last frame. -/
  lastFrame : Instant
  /-- When the interval began or ticked last. -/
  lastTick : Instant
  /-- The reader goes on. -/
  live : Bool
  /-- When a punch-hole request was answered with `OFFLINE`. -/
  offline : List Instant

def Live.route (w : Live) : RouteKind := .webSocket w.token.generation w.token.connectionId

/-- A registration binds its session and commits its lease. -/
def Live.start (config : WebSocketSignalConfig) (routes : Routes) (registry : Registry)
    (claim : ActivationClaim) (connectionId : Nat) (effectiveIp : IpAddr) (routeAddr : SocketAddr)
    (now : Instant) : Option Live :=
  match routes.bind claim.peerId connectionId effectiveIp routeAddr claim.generation (nowMillis now)
    config.maxSessions config.maxSessionsPerEffectiveIp with
  | (.ok token, routes) =>
    let route : RouteKind := .webSocket claim.generation token.connectionId
    some ⟨now, routes, claim.commit registry route now, token, now, now, true, []⟩
  | (.error _, _) => none

inductive Event
  /-- A binary message, empty or not. -/
  | frame
  | ping
  | pong
  | tick (writerClosed sendFails : Bool)
  /-- A call for the peer begins with `expire_route`. -/
  | expireRoute
  | maintain
  /-- A punch-hole request for the peer, and what its entry says. -/
  | punch (nativeAddr : SocketAddr) (nativeElapsed : Nat)

def Live.step (config : WebSocketSignalConfig) (w : Live) (m : Instant × Event) : Option Live :=
  let peerId := w.token.peerId
  let now := m.1
  if !w.live || now < w.now then none
  else match m.2 with
    | .frame =>
      some { w with
        now
        lastFrame := now
        routes := w.routes.touch w.token (nowMillis now)
        registry := w.registry.touchRoute peerId w.route now }
    | .ping => some { w with now }
    | .pong => some { w with now, routes := w.routes.touch w.token (nowMillis now) }
    | .tick writerClosed sendFails =>
      if writerClosed || w.routes.idleFor w.token (nowMillis now) ≥ config.idleTimeoutMs then
        some { w with now, live := false }
      else
        some { w with
          now
          lastTick := now
          registry := w.registry.touchRoute peerId w.route now
          live := !sendFails }
    | .expireRoute => some { w with now, registry := w.registry.expireRoute peerId now }
    | .maintain => some { w with now, registry := w.registry.maintain now }
    | .punch nativeAddr nativeElapsed =>
      let target := chooseTarget (w.routes.route peerId (nowMillis now)) nativeAddr nativeElapsed
      some { w with now, offline := if target.offline then now :: w.offline else w.offline }

/-- The client sends a frame at least every `keep_alive` seconds, and the interval ticks when it is
due. -/
def timely (config : WebSocketSignalConfig) (w : Live) (m : Instant × Event) : Bool :=
  let due := w.lastTick + millis config.keepaliveIntervalMs
  m.1 ≤ w.lastFrame + secs config.keepAlive && match m.2 with
    | .tick _ _ => m.1 == due
    | _ => m.1 ≤ due

/-- The lease has its route, and no request was answered with `OFFLINE`. -/
structure Live.Served (w : Live) : Prop where
  leased : ∃ lease, w.registry.leases.get w.token.peerId = some lease ∧ lease.route = some w.route
  online : w.offline = []

/-! ## Short timeouts -/

/-- What the numbers of an accepted configuration satisfy. -/
structure Limits (config : WebSocketSignalConfig) : Prop where
  keepalive : 1000 ≤ config.keepaliveIntervalMs
  idle : config.idleTimeoutMs ≤ 600000
  order : config.keepaliveIntervalMs < config.idleTimeoutMs
  sessions : 1 ≤ config.maxSessions
  perIp : 1 ≤ config.maxSessionsPerEffectiveIp

theorem limits_of_valid {config : WebSocketSignalConfig} {rest : Except String Unit}
    (h : validateWebsocketSignal config rest = .ok ()) : Limits config := by
  unfold validateWebsocketSignal at h
  repeat' split at h
  all_goals try cases h
  simp only [within, Bool.not_eq_true', Bool.not_eq_false, Bool.and_eq_true, decide_eq_true_eq,
    Bool.or_eq_true, beq_iff_eq, not_or] at *
  constructor <;> omega

section

variable {config : WebSocketSignalConfig} {w w' : Live} {m : Instant × Event}

theorem keepAlive_lt (h : config.idleTimeoutMs < 45000) : config.keepAlive < 30 := by
  unfold WebSocketSignalConfig.keepAlive
  omega

/-- What is kept while frames come in time. -/
structure Live.Kept (w : Live) : Prop where
  session : ∃ session, w.routes.sessions.get w.token.peerId = some session ∧
    session.lastSeen = w.token.lastSeen
  seen : nowMillis w.lastFrame ≤ w.routes.lastSeenMillis w.token.lastSeen
  lease : ∃ lease, w.registry.leases.get w.token.peerId = some lease ∧
    lease.route = some w.route ∧ lease.retired = false ∧ w.lastFrame ≤ lease.updatedAt
  past : w.lastFrame ≤ w.now
  online : w.offline = []

theorem Live.Kept.served (h : w.Kept) : w.Served := by
  obtain ⟨lease, hget, hroute, -, -⟩ := h.lease
  exact ⟨⟨lease, hget, hroute⟩, h.online⟩

theorem Live.Kept.start {routes : Routes} {registry : Registry} {claim : ActivationClaim}
    {connectionId : Nat} {effectiveIp : IpAddr} {routeAddr : SocketAddr} {now : Instant}
    (htracked : claim.tracked = true)
    (h : Live.start config routes registry claim connectionId effectiveIp routeAddr now = some w) :
    w.Kept := by
  unfold Live.start at h
  split at h
  · rename_i token routes' hbind
    cases h
    obtain ⟨hpeer, hgeneration, hcell, hsession, hseen⟩ := bind_ok hbind
    refine ⟨⟨_, hpeer ▸ hsession, hcell.symm⟩, ?_, ⟨claim.record
      (.webSocket claim.generation token.connectionId) now, ?_, ?_, rfl, Nat.le_refl _⟩,
      Nat.le_refl _, rfl⟩
    · rw [hseen]
    · unfold ActivationClaim.commit
      rw [htracked, hpeer]
      exact (Table.get_insert ..).trans (if_pos rfl)
    · unfold Live.route
      rw [hgeneration]
      rfl
  · cases h

theorem lt_of_keepAlive {now last seconds : Nat} (hlt : seconds < 30)
    (h : now ≤ last + secs seconds) : now < last + secs 30 := by
  unfold secs at *
  omega

theorem nowMillis_le {now last seconds : Nat} (h : now ≤ last + secs seconds) :
    nowMillis now ≤ nowMillis last + seconds * 1000 := by
  unfold nowMillis
  unfold secs at h
  omega

theorem recent_of_lt {now last : Nat} (h : now < last + secs 30) : ¬ now - last ≥ secs 45 := by
  unfold secs at *
  omega

/-- A lease that was touched within 30 seconds does not expire. -/
theorem expire_recent {lease : LeaseRecord} {now : Instant} (h : now < lease.updatedAt + secs 30) :
    lease.expire now = lease := by
  have hrecent : ¬ now - lease.updatedAt ≥ leaseTtl := recent_of_lt h
  unfold LeaseRecord.expire LeaseRecord.expired
  simp [hrecent]

theorem Live.Kept.step (h : w.Kept) (hshort : config.idleTimeoutMs < 45000)
    (hok : timely config w m = true) (hw : w.step config m = some w') : w'.Kept := by
  obtain ⟨now, e⟩ := m
  obtain ⟨lease, hget, hroute, hretired, hupdated⟩ := h.lease
  have halive := keepAlive_lt hshort
  have htime : now ≤ w.lastFrame + secs config.keepAlive := by
    unfold timely at hok
    simp only [Bool.and_eq_true, decide_eq_true_eq] at hok
    exact hok.1
  have hsoon : now < w.lastFrame + secs 30 := lt_of_keepAlive halive htime
  have hrecent : lease.expire now = lease :=
    expire_recent (hsoon.trans_le (Nat.add_le_add_right hupdated _))
  have htouch : lease.touch w.route now = { lease with updatedAt := now } := by
    unfold LeaseRecord.touch
    rw [hretired, hroute]
    simp
  unfold Live.step at hw
  dsimp only at hw
  split at hw
  · cases hw
  · rename_i hnow
    rw [Bool.or_eq_true, not_or, decide_eq_true_eq, Nat.not_lt] at hnow
    have hpast : w.lastFrame ≤ now := h.past.trans hnow.2
    cases e with
    | frame =>
      cases hw
      refine ⟨h.session, ?_, ⟨{ lease with updatedAt := now }, ?_, hroute, hretired, Nat.le_refl _⟩,
        Nat.le_refl _, h.online⟩
      · simp [Routes.touch]
      · simp [Registry.touchRoute, hget, htouch]
    | ping =>
      cases hw
      exact ⟨h.session, h.seen, h.lease, hpast, h.online⟩
    | pong =>
      cases hw
      refine ⟨h.session, ?_, h.lease, hpast, h.online⟩
      simp only [Routes.touch, Function.update_self]
      exact Nat.div_le_div_right hpast
    | tick writerClosed sendFails =>
      simp only at hw
      split at hw
      · cases hw
        exact ⟨h.session, h.seen, h.lease, hpast, h.online⟩
      · cases hw
        refine ⟨h.session, h.seen, ⟨{ lease with updatedAt := now }, ?_, hroute, hretired, hpast⟩,
          hpast, h.online⟩
        simp [Registry.touchRoute, hget, htouch]
    | expireRoute =>
      cases hw
      refine ⟨h.session, h.seen, ⟨lease, ?_, hroute, hretired, hupdated⟩, hpast, h.online⟩
      simp [Registry.expireRoute, hget, hrecent]
    | maintain =>
      cases hw
      refine ⟨h.session, h.seen, ⟨lease, ?_, hroute, hretired, hupdated⟩, hpast, h.online⟩
      unfold Registry.maintain
      dsimp only
      split
      · exact hget
      · simp [Table.get_filterMap, hget, Registry.swept, hrecent, hroute]
    | punch nativeAddr nativeElapsed =>
      cases hw
      obtain ⟨session, hsession, hcell⟩ := h.session
      refine ⟨h.session, h.seen, h.lease, hpast, ?_⟩
      have hidle := nowMillis_le htime
      have honline : (chooseTarget (w.routes.route w.token.peerId (nowMillis now)) nativeAddr
          nativeElapsed).offline = false := by
        unfold Routes.route
        rw [hsession]
        have hseen := h.seen
        simp only [chooseTarget, Option.map_some, Target.offline, regTimeout, hcell,
          decide_eq_false_iff_not]
        omega
      rw [honline]
      exact h.online

/-! ## Long timeouts -/

/-- A registration of the only peer, at time zero. -/
def onlyClaim : ActivationClaim :=
  { peerId := "peer-1", uuid := [1], publicKey := [2], activationEpoch := 1, activationId := [3],
    routeLease := [4], generation := 1, previousRoute := none, tracked := true, newLease := true,
    fastReregistration := false, capacityReserved := false }

def onlySession : Session := ⟨1, 1, .v4 1, .v4 1 1000, 0⟩

def onlyLive : Live :=
  { now := 0
    routes :=
      { sessions := Table.empty.insert "peer-1" onlySession
        closed := ∅
        lastSeenMillis := Function.update (fun _ => 0) 0 0
        nextCell := 1 }
    registry := onlyClaim.commit .default (.webSocket 1 1) 0
    token := ⟨"peer-1", 1, 1, 0⟩
    lastFrame := 0
    lastTick := 0
    live := true
    offline := [] }

theorem start_onlyLive (h : Limits config) :
    Live.start config .init .default onlyClaim 1 (.v4 1) (.v4 1 1000) 0 = some onlyLive := by
  have hsessions : ¬ (0 ≥ config.maxSessions) := Nat.not_le.mpr h.sessions
  have hperIp : ¬ (Routes.sameIp Routes.init.sessions "peer-1" (.v4 1) ≥
      config.maxSessionsPerEffectiveIp) := Nat.not_le.mpr h.perIp
  have hbind : Routes.init.bind "peer-1" 1 (.v4 1) (.v4 1 1000) 1 (nowMillis 0) config.maxSessions
      config.maxSessionsPerEffectiveIp = (.ok onlyLive.token, onlyLive.routes) := by
    unfold Routes.bind
    dsimp only
    rw [if_neg (by simpa [Routes.init] using hsessions), if_neg hperIp]
    rfl
  unfold Live.start
  change (match Routes.init.bind "peer-1" 1 (.v4 1) (.v4 1 1000) 1 (nowMillis 0) config.maxSessions
    config.maxSessionsPerEffectiveIp with
    | (.ok token, routes) => _
    | (.error _, _) => _) = _
  rw [hbind]
  rfl

theorem le_keepAlive (h : 45000 ≤ config.idleTimeoutMs) : 30 ≤ config.keepAlive := by
  unfold WebSocketSignalConfig.keepAlive
  omega

theorem millis_le_secs {n seconds : Nat} (hn : n ≤ 30000) (h : 30 ≤ seconds) :
    millis n ≤ 0 + secs seconds := by
  unfold millis secs
  omega

theorem nowMillis_millis (n : Nat) : nowMillis (millis n) = n :=
  Nat.mul_div_cancel n (by decide)

/-- The interval ticks while the client is silent. -/
theorem reachable_ticks (hlong : 45000 ≤ config.idleTimeoutMs) (n : Nat)
    (hn : n * config.keepaliveIntervalMs ≤ 30000) :
    ∃ w, Reachable (Guarded (Live.step config) (timely config)) onlyLive w ∧
      w.now = millis (n * config.keepaliveIntervalMs) ∧ w.lastTick = w.now ∧ w.lastFrame = 0 ∧
      w.live = true ∧ w.routes = onlyLive.routes ∧ w.token = onlyLive.token := by
  induction n with
  | zero => exact ⟨onlyLive, .refl _, by simp [onlyLive, millis], rfl, rfl, rfl, rfl, rfl⟩
  | succ n ih =>
    have hmul : (n + 1) * config.keepaliveIntervalMs =
        n * config.keepaliveIntervalMs + config.keepaliveIntervalMs := Nat.succ_mul ..
    obtain ⟨w, hreach, hnow, htick, hframe, hlive, hroutes, htoken⟩ := ih (by omega)
    let due := millis ((n + 1) * config.keepaliveIntervalMs)
    have hdue : due = w.lastTick + millis config.keepaliveIntervalMs := by
      rw [htick, hnow]
      simp only [due, millis]
      rw [hmul, Nat.add_mul]
    have hok : timely config w (due, .tick false false) = true := by
      have hsoon : due ≤ w.lastFrame + secs config.keepAlive := by
        have halive := le_keepAlive hlong
        rw [hframe]
        exact millis_le_secs hn halive
      simp [timely, hdue ▸ hsoon, hdue]
    have hidle : ¬ w.routes.idleFor w.token (nowMillis due) ≥ config.idleTimeoutMs := by
      rw [hroutes, htoken]
      have hmillis : nowMillis due = (n + 1) * config.keepaliveIntervalMs := nowMillis_millis _
      change ¬ nowMillis due - 0 ≥ config.idleTimeoutMs
      omega
    have hlt : ¬ due < w.now := by
      rw [hdue, htick]
      exact Nat.not_lt.mpr (Nat.le_add_right ..)
    have hstep : w.step config (due, .tick false false) =
        some { w with
          now := due
          lastTick := due
          registry := w.registry.touchRoute w.token.peerId w.route due
          live := true } := by
      simp [Live.step, hlive, hlt, hidle]
    exact ⟨_, hreach.step ⟨hok, hstep⟩, rfl, rfl, hframe, rfl, hroutes, htoken⟩

theorem not_served_of_long (h : Limits config) (hlong : 45000 ≤ config.idleTimeoutMs) :
    ∃ w, Reachable (Guarded (Live.step config) (timely config)) onlyLive w ∧ ¬ w.Served := by
  have hpos : 0 < config.keepaliveIntervalMs := by
    have hkeepalive := h.keepalive
    omega
  -- all ticks up to 30 seconds, and then a request
  obtain ⟨w, hreach, hnow, htick, hframe, hlive, hroutes, htoken⟩ :=
    reachable_ticks hlong (30000 / config.keepaliveIntervalMs) (Nat.div_mul_le_self ..)
  have hlast : 30000 / config.keepaliveIntervalMs * config.keepaliveIntervalMs ≤ 30000 :=
    Nat.div_mul_le_self ..
  have hnext : 30000 ≤ 30000 / config.keepaliveIntervalMs * config.keepaliveIntervalMs +
      config.keepaliveIntervalMs := by
    have hdiv := Nat.lt_div_mul_add (a := 30000) hpos
    omega
  have hok : timely config w (millis 30000, .punch (.v4 0 0) 0) = true := by
    have hsoon : millis 30000 ≤ w.lastFrame + secs config.keepAlive := by
      rw [hframe]
      exact millis_le_secs (Nat.le_refl _) (le_keepAlive hlong)
    have hdue : millis 30000 ≤ w.lastTick + millis config.keepaliveIntervalMs := by
      rw [htick, hnow]
      unfold millis
      omega
    simp [timely, hsoon, hdue]
  have hlt : ¬ millis 30000 < w.now := by
    rw [hnow]
    unfold millis
    omega
  have hoffline : (chooseTarget (w.routes.route w.token.peerId (nowMillis (millis 30000)))
      (.v4 0 0) 0).offline = true := by
    rw [hroutes, htoken]
    rfl
  have hstep : w.step config (millis 30000, .punch (.v4 0 0) 0) =
      some { w with now := millis 30000, offline := millis 30000 :: w.offline } := by
    simpa [Live.step, hlive, hlt] using hoffline
  refine ⟨_, hreach.step ⟨hok, hstep⟩, fun hserved => ?_⟩
  have honline := hserved.online
  simp at honline

/-- Every session that is kept alive as it was told stays leased and reachable exactly if the idle
timeout is below 45 seconds. -/
theorem live_session_served (config : WebSocketSignalConfig) (rest : Except String Unit)
    (hvalid : validateWebsocketSignal config rest = .ok ()) :
    (∀ (routes : Routes) (registry : Registry) (claim : ActivationClaim) (connectionId : Nat)
      (effectiveIp : IpAddr) (routeAddr : SocketAddr) (now : Instant) (w₀ w : Live),
      claim.tracked = true →
      Live.start config routes registry claim connectionId effectiveIp routeAddr now = some w₀ →
      Reachable (Guarded (Live.step config) (timely config)) w₀ w → w.Served) ↔
    config.idleTimeoutMs < 45000 := by
  constructor
  · intro hall
    by_contra hlong
    have hlimits := limits_of_valid hvalid
    obtain ⟨w, hreach, hnot⟩ := not_served_of_long hlimits (Nat.not_lt.mp hlong)
    exact hnot (hall _ _ _ _ _ _ _ _ _ rfl (start_onlyLive hlimits) hreach)
  · intro hshort routes registry claim connectionId effectiveIp routeAddr now w₀ w htracked hstart
      hreach
    exact (hreach.invariant (Live.Kept.start htracked hstart) fun _ _ _ hk hn =>
      hk.step hshort hn.1 hn.2).served

end

/-! ## Concrete configurations -/

def shortConfig : WebSocketSignalConfig where
  registrationTimeoutMs := 10000
  keepaliveIntervalMs := 12000
  idleTimeoutMs := 44000
  maxFrameBytes := 65536
  outboundQueueCapacity := 64
  maxSessions := 10000
  maxSessionsPerEffectiveIp := 512
  registrationRatePerMinute := 300

theorem live_session_served_short :
    validateWebsocketSignal shortConfig (.ok ()) = .ok () ∧
      ((∀ (routes : Routes) (registry : Registry) (claim : ActivationClaim) (connectionId : Nat)
        (effectiveIp : IpAddr) (routeAddr : SocketAddr) (now : Instant) (w₀ w : Live),
        claim.tracked = true →
        Live.start shortConfig routes registry claim connectionId effectiveIp routeAddr now =
          some w₀ →
        Reachable (Guarded (Live.step shortConfig) (timely shortConfig)) w₀ w → w.Served) ↔
      shortConfig.idleTimeoutMs < 45000) :=
  ⟨by rfl, live_session_served shortConfig (.ok ()) (by rfl)⟩

/-- Two minutes of idleness, and a heartbeat every minute. -/
def longConfig : WebSocketSignalConfig :=
  { shortConfig with keepaliveIntervalMs := 60000, idleTimeoutMs := 120000 }

/-- The client sends its first frame after 80 seconds, as it was told. -/
def silent : List (Instant × Event) :=
  [(secs 30, .punch (.v4 0 0) 0), (secs 45, .expireRoute), (secs 60, .tick false false),
    (secs 80, .frame)]

def afterSilent : Option Live :=
  (Live.start longConfig .init .default onlyClaim 1 (.v4 1) (.v4 1 1000) 0).bind fun w =>
    exec (Live.step longConfig) (timely longConfig) w silent

/-- It was offline at 30 seconds, and has lost its lease at 45. -/
theorem silent_not_served : validateWebsocketSignal longConfig (.ok ()) = .ok () ∧ ∃ w₀ w,
    Live.start longConfig .init .default onlyClaim 1 (.v4 1) (.v4 1 1000) 0 = some w₀ ∧
    Reachable (Guarded (Live.step longConfig) (timely longConfig)) w₀ w ∧ w.live = true ∧
    w.offline = [secs 30] ∧ (w.registry.leases.get w.token.peerId).map (·.route) = some none ∧
    ¬ w.Served := by
  refine ⟨by rfl, ?_⟩
  have hrun : (afterSilent.map fun w => (w.live, w.offline,
      (w.registry.leases.get w.token.peerId).map (·.route))) =
        some (true, [secs 30], some none) := by rfl
  obtain ⟨w, hw, hrun⟩ := Option.map_eq_some_iff.mp hrun
  obtain ⟨w₀, hstart, hw⟩ := Option.bind_eq_some_iff.mp hw
  simp only [Prod.mk.injEq] at hrun
  refine ⟨w₀, w, hstart, ⟨_, .of_exec hw⟩, hrun.1, hrun.2.1, hrun.2.2, fun hserved => ?_⟩
  have honline := hserved.online
  rw [hrun.2.1] at honline
  cases honline

end Starry.Routing
