import Starry.RelayObserver.Snapshot

/-!
# Why a relay is excluded (`exclusion_reason`)

Eligibility is decided from the transports of a view, the reason of an exclusion from its states.
Both read the relay by its lowercase name. They part where the health of the relays is probed
although WebSocket signalling is off.
-/

open Library

namespace Starry.RelayObserver

open Starry.Quality (RelayRequirement)

variable {active : ActiveConfigSnapshot} {pool : RelayPoolState} {health : RuntimeHealthSnapshot}
  {relay id : String}

/-! ## The states of a view -/

theorem native_state (pool : RelayPoolState) (relay : String) :
    (if isNativeOnline pool relay then "online" else "offline") = "online" ↔
      isNativeOnline pool relay = true := by
  split
  · rename_i h
    exact iff_of_true rfl h
  · rename_i h
    exact iff_of_false (by decide) h

theorem websocketState_healthy {endpoint : RuntimeEndpointSnapshot}
    (hendpoint : health.endpoint relay = some endpoint) :
    websocketState health relay = "healthy" ↔
      health.isReady = true ∧ endpoint.state = .healthy := by
  unfold websocketState
  rw [hendpoint]
  cases henabled : health.enabled with
  | false => simp [RuntimeHealthSnapshot.isReady, henabled]
  | true =>
    cases hready : health.isReady with
    | false => simp
    | true => cases hstate : endpoint.state <;> simp [hstate, Status.name]

/-- The state of a view is healthy when the relay is. -/
theorem websocketState_isHealthy :
    websocketState health relay = "healthy" ↔ health.isHealthy relay = true := by
  cases hendpoint : health.endpoint relay with
  | none =>
    have hstate : websocketState health relay ≠ "healthy" := by
      unfold websocketState
      rw [hendpoint]
      split
      · decide
      · simp
    simp [RuntimeHealthSnapshot.isHealthy, hendpoint, hstate]
  | some endpoint =>
    rw [websocketState_healthy hendpoint]
    simp [RuntimeHealthSnapshot.isHealthy, hendpoint]

theorem isHealthy_endpoint (h : health.isHealthy relay = true) :
    (health.endpoint relay).isSome = true := by
  cases hendpoint : health.endpoint relay with
  | none => simp [RuntimeHealthSnapshot.isHealthy, hendpoint] at h
  | some endpoint => rfl

/-! ## The relays of the pool -/

theorem eqIgnoreAsciiCase_iff : eqIgnoreAsciiCase id relay = true ↔
    toAsciiLowercase id = toAsciiLowercase relay := by
  simp [eqIgnoreAsciiCase]

/-- The first view of the relay, under whatever spelling. -/
theorem find_buildViews (active : ActiveConfigSnapshot) (pool : RelayPoolState)
    (health : RuntimeHealthSnapshot) {configured : List String} (order : Nat)
    (references : Table String (List String)) (h : relay ∈ configured) :
    ∃ order' id referencedByRules, toAsciiLowercase id = toAsciiLowercase relay ∧
      (buildViews active pool health order references configured).find?
        (fun view => eqIgnoreAsciiCase view.id relay) =
      some (buildView active pool health order' id referencedByRules) := by
  induction configured generalizing order references with
  | nil => cases h
  | cons first rest ih =>
    rw [buildViews, List.find?_cons]
    have hid : ∀ references,
        (buildView active pool health order first references).id = first := fun _ => rfl
    rw [hid]
    cases hfirst : eqIgnoreAsciiCase first relay with
    | true => exact ⟨_, first, _, eqIgnoreAsciiCase_iff.mp hfirst, rfl⟩
    | false =>
      refine ih _ _ ((List.mem_cons.mp h).resolve_left ?_)
      rintro rfl
      simp [eqIgnoreAsciiCase] at hfirst

theorem mem_eligible {p : RelayRuntimeView → Bool} {configured : List String} (order : Nat)
    (references : Table String (List String))
    (hp : ∀ order references, p (buildView active pool health order relay references) =
      p (buildView active pool health 0 relay [])) :
    relay ∈ ((buildViews active pool health order references configured).filter p).map (·.id) ↔
      relay ∈ configured ∧ p (buildView active pool health 0 relay []) = true := by
  induction configured generalizing order references with
  | nil => simp [buildViews]
  | cons first rest ih =>
    have hrest := ih (order + 1) (references.remove (toAsciiLowercase first))
    have hid : ∀ references,
        (buildView active pool health order first references).id = first := fun _ => rfl
    rw [buildViews, List.filter_cons]
    by_cases hfirst : relay = first
    · subst hfirst
      rw [hp]
      split
      · rename_i htrue
        rw [List.map_cons, hid]
        exact iff_of_true List.mem_cons_self ⟨List.mem_cons_self, htrue⟩
      · rename_i hfalse
        rw [hrest]
        exact iff_of_false (fun h => hfalse h.2) fun h => hfalse h.2
    · rw [List.mem_cons, or_iff_right hfirst, ← hrest]
      split
      · rw [List.map_cons, List.mem_cons, hid, or_iff_right hfirst]
      · exact Iff.rfl

/-! ## Excluded or eligible -/

/-- What the requirement asks of the relay. -/
def Serves (native websocket : Bool) : RelayRequirement → Bool
  | .nativeOnly => native
  | .webSocketOnly => websocket
  | .mixed => native && websocket

/-- A relay of the pool is eligible by its native state and its reported health, and by the latter
only with WebSocket signalling on. -/
theorem mem_eligibleRelays (geo : GeoState) (requirement : RelayRequirement)
    (h : relay ∈ pool.configured) :
    relay ∈ (buildSnapshot active pool health geo).eligibleRelays requirement ↔
      Serves (isNativeOnline pool relay) (isWebsocketHealthy active health relay) requirement =
        true := by
  unfold RelayRuntimeSnapshot.eligibleRelays
  refine (mem_eligible 0 _ fun _ _ => rfl).trans ?_
  rw [and_iff_right h]
  simp only [buildView, eligibleTransports]
  cases requirement <;> cases isNativeOnline pool relay <;>
    cases isWebsocketHealthy active health relay <;> decide

theorem isNativeOnline_congr (h : toAsciiLowercase id = toAsciiLowercase relay) :
    isNativeOnline pool id = isNativeOnline pool relay := by
  unfold isNativeOnline containsIgnoreCase
  rw [h]

theorem isHealthy_congr (h : toAsciiLowercase id = toAsciiLowercase relay) :
    health.isHealthy id = health.isHealthy relay := by
  unfold RuntimeHealthSnapshot.isHealthy RuntimeHealthSnapshot.endpoint
  rw [h]

/-- A view has no reason to be excluded when its states are as required. -/
theorem reason_buildView (order : Nat) (references : List String) (requirement : RelayRequirement)
    {s : RelayRuntimeSnapshot} (hfind : s.relays.find? (fun view => eqIgnoreAsciiCase view.id relay) =
      some (buildView active pool health order id references)) :
    s.exclusionReason relay requirement = none ↔
      Serves (isNativeOnline pool id) (health.isHealthy id) requirement = true := by
  have hnative : ((if isNativeOnline pool id then "online" else "offline") == "online") =
      isNativeOnline pool id := by
    rw [Bool.eq_iff_iff, beq_iff_eq, native_state]
  have hwebsocket : (websocketState health id == "healthy") = health.isHealthy id := by
    rw [Bool.eq_iff_iff, beq_iff_eq, websocketState_isHealthy]
  have hconfigured : health.isHealthy id = true → (health.endpoint id).isSome = true :=
    isHealthy_endpoint
  unfold RelayRuntimeSnapshot.exclusionReason
  rw [hfind]
  simp only [Option.bind_eq_bind, Option.bind_some, buildView, hnative, hwebsocket]
  cases requirement <;> cases isNativeOnline pool id <;> cases hhealthy : health.isHealthy id <;>
    cases hsome : (health.endpoint id).isSome <;> simp_all [Serves]

/-- A relay of the pool has no reason to be excluded by its native state and its reported health
alone. -/
theorem exclusionReason_eq_none (geo : GeoState) (requirement : RelayRequirement)
    (h : relay ∈ pool.configured) :
    (buildSnapshot active pool health geo).exclusionReason relay requirement = none ↔
      Serves (isNativeOnline pool relay) (health.isHealthy relay) requirement = true := by
  obtain ⟨order, id, references, hid, hfind⟩ := find_buildViews active pool health 0
    (ruleReferences active.config) h
  rw [← isNativeOnline_congr hid, ← isHealthy_congr hid]
  exact reason_buildView order references requirement hfind

/-- A relay is excluded for a reason and eligible without one, unless it is healthy and WebSocket
signalling is off. -/
theorem exclusion_has_reason (active : ActiveConfigSnapshot) (pool : RelayPoolState)
    (health : RuntimeHealthSnapshot) (geo : GeoState) (relay : String)
    (requirement : RelayRequirement) (h : relay ∈ pool.configured) :
    ((buildSnapshot active pool health geo).exclusionReason relay requirement = none ↔
      relay ∈ (buildSnapshot active pool health geo).eligibleRelays requirement) ↔
    (active.config.map (·.websocketSignalEnabled)).getD false = true ∨
      health.isHealthy relay = false ∨ requirement = .nativeOnly ∨
      requirement = .mixed ∧ isNativeOnline pool relay = false := by
  rw [exclusionReason_eq_none geo requirement h, mem_eligibleRelays geo requirement h]
  unfold isWebsocketHealthy
  cases requirement <;> cases (active.config.map (·.websocketSignalEnabled)).getD false <;>
    cases health.isHealthy relay <;> cases isNativeOnline pool relay <;> decide

/-! ## Probing for the quality of the relays alone -/

/-- Whether `websocket_signal::prepare` has the relays probed. -/
def healthEnabled (config : StarryConfig) (qualityEnabled : Bool) : Bool :=
  config.websocketSignalEnabled || (qualityEnabled && !config.endpoints.isEmpty)

def qualityOnlyConfig : StarryConfig :=
  { websocketSignalEnabled := false
    endpoints := [⟨"relay-a:21117", "wss://relay-a/ws/telemetry", none⟩]
    legacyFallbackRelays := [], geoRules := [] }

def qualityOnlyActive : ActiveConfigSnapshot := ⟨1, some qualityOnlyConfig⟩

def qualityOnlyPool : RelayPoolState := ⟨1, ["relay-a:21117"], ["relay-a:21117"]⟩

/-- The relay has answered its probe. -/
def qualityOnlyHealth : RuntimeHealthSnapshot :=
  { enabled := healthEnabled qualityOnlyConfig true, generation := 1, completedGeneration := 1
    snapshotId := 1
    endpoints := Table.empty.insert "relay-a:21117"
      { url := "wss://relay-a/ws/telemetry", state := .healthy, stale := false, latencyMs := some 5
        version := none, relayProbeProtocol := some 1, relayLoadProtocol := none
        telemetryInstanceId := none, telemetrySequence := none, load := none } }

theorem exclusion_has_reason_native :
    ((buildSnapshot qualityOnlyActive qualityOnlyPool qualityOnlyHealth .disabled).exclusionReason
        "relay-a:21117" .nativeOnly = none ↔
      "relay-a:21117" ∈ (buildSnapshot qualityOnlyActive qualityOnlyPool qualityOnlyHealth
        .disabled).eligibleRelays .nativeOnly) ↔
    (qualityOnlyActive.config.map (·.websocketSignalEnabled)).getD false = true ∨
      qualityOnlyHealth.isHealthy "relay-a:21117" = false ∨
      RelayRequirement.nativeOnly = .nativeOnly ∨
      RelayRequirement.nativeOnly = .mixed ∧
        isNativeOnline qualityOnlyPool "relay-a:21117" = false :=
  exclusion_has_reason _ _ _ _ _ _ (by decide)

/-- A relay that is probed for its quality alone is excluded from WebSocket traffic for no reason. -/
theorem excluded_without_reason : ¬ ∀ (active : ActiveConfigSnapshot) (pool : RelayPoolState)
    (health : RuntimeHealthSnapshot) (geo : GeoState) (relay : String)
    (requirement : RelayRequirement), relay ∈ pool.configured →
    ((buildSnapshot active pool health geo).exclusionReason relay requirement = none ↔
      relay ∈ (buildSnapshot active pool health geo).eligibleRelays requirement) := by
  intro hall
  have h := hall qualityOnlyActive qualityOnlyPool qualityOnlyHealth .disabled "relay-a:21117"
    .webSocketOnly (by decide)
  exact absurd (h.mp (by decide)) (by decide)

end Starry.RelayObserver
