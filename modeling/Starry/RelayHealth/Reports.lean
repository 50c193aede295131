import Starry.RelayHealth.Probes

/-!
# What a relay that is not stale has reported

Telemetry is kept only from an endpoint with a secret, and only with everything its envelope must
have. Any change of the configuration starts over.
-/

open Library

namespace Starry.RelayHealth

open Starry.Enrollment (Env)
open Starry.RelayObserver (RelayLoadTelemetry)

/-- The checks of a configuration on one endpoint, less the kind of its host. -/
def validEndpoint (env : Env) (endpoint : RelayEndpointConfig) : Bool :=
  match env.parseUrl endpoint.url with
  | none => false
  | some parsed =>
    parsed.scheme == "wss" && parsed.hostStr.isSome &&
      (parsed.path == "/ws/relay" || parsed.path == "/ws/telemetry") &&
      parsed.query.isNone && parsed.fragment.isNone && parsed.username.isEmpty &&
      parsed.password.isNone &&
      endpoint.telemetrySecretFile.isSome == (parsed.path == "/ws/telemetry") &&
      endpoint.fastMediaUdpPort != some 0 &&
      (endpoint.fastMediaUdpPort.isNone || endpoint.telemetrySecretFile.isSome)

/-- What every activated configuration satisfies. -/
structure ValidConfig (env : Env) (config : RelayHealthConfig) : Prop where
  distinct : (config.endpoints.map fun endpoint => toAsciiLowercase endpoint.relay).Nodup
  valid : ∀ endpoint ∈ config.endpoints, validEndpoint env endpoint = true

inductive Move
  | reconfigure (enabled : Bool) (config : RelayHealthConfig)
  /-- A probe that began under a generation ends. -/
  | probed (generation : Nat) (endpoint : RelayEndpointConfig) (now latencyMs : Nat)
      (connected : Except String Response)
  | finished (generation : Nat)

/-- A cycle probes the endpoints of its own generation. -/
def next (env : Env) (s : HealthState) (m : Move) (t : HealthState) : Prop :=
  match m with
  | .reconfigure enabled config => ValidConfig env config ∧ t = reconfigure enabled config s
  | .probed generation endpoint now latencyMs connected =>
    (s.generation = generation → endpoint ∈ s.config.endpoints) ∧
      t = record generation endpoint.relay (probe endpoint now latencyMs connected) s
  | .finished generation => t = finishCycle generation s

/-- A version is short and not empty. -/
def VersionValid (version : Option String) : Prop :=
  ∀ v, version = some v → v.isEmpty = false ∧ v.utf8ByteSize ≤ 128

/-- What comes with telemetry. -/
structure LoadReported (configured : RelayEndpointConfig) (version : Option String)
    (relayProbeProtocol relayLoadProtocol : Option Nat) (load : RelayLoadTelemetry) : Prop where
  secret : configured.telemetrySecretFile.isSome = true
  version : version.isSome = true
  probeProtocol : 1 ≤ relayProbeProtocol.getD 0
  loadProtocol : 1 ≤ relayLoadProtocol.getD 0
  instanceId : load.processInstanceId.isEmpty = false ∧ load.processInstanceId.utf8ByteSize ≤ 64
  sequence : 0 < load.sequence
  schema : load.telemetrySchema = 1 ∨ load.telemetrySchema = 2
  fastMedia : load.telemetrySchema = 2 → load.fastMediaRelayUdp = some 1

/-- What the state of an endpoint holds. -/
structure Reported (configured : RelayEndpointConfig) (endpoint : EndpointState) : Prop where
  version : VersionValid endpoint.version
  load : ∀ load, endpoint.load = some load →
    LoadReported configured endpoint.version endpoint.relayProbeProtocol
      endpoint.relayLoadProtocol load ∧
    endpoint.telemetryInstanceId = some load.processInstanceId ∧
    endpoint.telemetrySequence = some load.sequence

section

variable {env : Env} {s t : HealthState} {configured : RelayEndpointConfig}
  {endpoint : EndpointState} {success : ProbeSuccess}

theorem validateVersion_valid {text : String} : VersionValid (validateVersion text) := by
  intro v hv
  unfold validateVersion at hv
  split at hv
  · cases hv
  · rename_i h
    cases hv
    simp only [Bool.or_eq_true, not_or, decide_eq_true_eq, Bool.not_eq_true, not_lt] at h
    exact ⟨h.1.1, h.1.2⟩

theorem bind_validateVersion_valid {text : Option String} :
    VersionValid (text.bind validateVersion) := by
  cases text with
  | none =>
    intro v hv
    cases hv
  | some text => exact validateVersion_valid

/-- What `validate_telemetry` lets through. -/
theorem load_of_validateTelemetry {now : Nat} {envelope : TelemetryEnvelope}
    (version : String) (secret : configured.telemetrySecretFile.isSome = true)
    (h : validateTelemetry now envelope = .ok ()) :
    LoadReported configured (some version) (some envelope.relayProbeProtocol)
      (some envelope.relayLoadProtocol) envelope.load := by
  unfold validateTelemetry at h
  split at h
  · rename_i hvalid
    simp only [Bool.and_eq_true, decide_eq_true_eq] at hvalid
    obtain ⟨⟨⟨⟨⟨⟨⟨⟨⟨⟨⟨⟨hschema, hinstance⟩, hsequence⟩, -⟩, hprobe⟩, hload⟩, -⟩, -⟩, -⟩, -⟩, -⟩, -⟩,
      -⟩ := hvalid
    unfold instanceValid at hinstance
    simp only [Bool.and_eq_true, Bool.not_eq_true', decide_eq_true_eq] at hinstance
    refine ⟨secret, rfl, hprobe, hload, hinstance.1, hsequence, ?_, ?_⟩
    · unfold schemaValid at hschema
      split at hschema
      · rename_i h1
        exact .inl (beq_iff_eq.mp h1)
      · split at hschema
        · rename_i h2
          exact .inr (beq_iff_eq.mp h2)
        · cases hschema
    · intro h2
      have h2 : envelope.telemetrySchema = 2 := h2
      simp only [schemaValid, h2] at hschema
      obtain ⟨fastMedia, hsome, hprotocol⟩ : ∃ fastMedia, envelope.fastMedia = some fastMedia ∧
          fastMedia.protocol = 1 := by
        cases hm : envelope.fastMedia with
        | none => simp [hm] at hschema
        | some fastMedia =>
          simp only [hm] at hschema
          simp at hschema
          exact ⟨fastMedia, rfl, hschema.1.1⟩
      simp [TelemetryEnvelope.load, hsome, hprotocol]
  · cases h

theorem relayTelemetry_ok {now : Nat} {response : Response}
    {reported : String × Nat × Nat × RelayLoadTelemetry}
    (h : relayTelemetry now response = .ok reported) :
    ∃ envelope version, validateTelemetry now envelope = .ok () ∧ VersionValid (some version) ∧
      reported = (version, envelope.relayProbeProtocol, envelope.relayLoadProtocol,
        envelope.load) := by
  unfold relayTelemetry at h
  cases htelemetry : response.telemetry with
  | error e => simp [htelemetry, bind, Except.bind] at h
  | ok envelope =>
    cases hvalid : validateTelemetry now envelope with
    | error e => simp [htelemetry, hvalid, bind, Except.bind] at h
    | ok _ =>
      simp only [htelemetry, hvalid, bind, Except.bind] at h
      split at h
      · cases h
      · rename_i version hversion
        cases h
        refine ⟨envelope, version, hvalid, ?_, rfl⟩
        rw [← hversion]
        exact validateVersion_valid

/-- What a probe that succeeded has reported. -/
theorem probe_reported {now latencyMs : Nat} {connected : Except String Response}
    (h : probe configured now latencyMs connected = .ok success) :
    VersionValid success.version ∧ ∀ load, success.load = some load →
      LoadReported configured success.version success.relayProbeProtocol
        success.relayLoadProtocol load := by
  unfold probe at h
  cases connected with
  | error e => cases h
  | ok response =>
    simp only [bind, Except.bind] at h
    split at h
    · rename_i hsecret
      split at h
      · cases h
      · rename_i reported hreported
        split at h
        · cases h
        · cases h
          obtain ⟨envelope, version, htelemetry, hversion, rfl⟩ := relayTelemetry_ok hreported
          have hload := load_of_validateTelemetry version hsecret htelemetry
          refine ⟨hversion, fun load hl => ?_⟩
          cases hl
          exact hload
    · cases h
      exact ⟨bind_validateVersion_valid, fun load hl => by cases hl⟩

theorem Reported.default : Reported configured {} := by
  constructor
  · intro v hv
    cases hv
  · intro load hl
    cases hl

/-- A failure drops the telemetry. -/
theorem Reported.applyFailure {failureThreshold : Nat} (h : Reported configured endpoint) :
    Reported configured (applyFailure endpoint failureThreshold) := by
  constructor
  · exact h.version
  · intro load hl
    cases hl

theorem Reported.applySuccess {now latencyMs successThreshold : Nat}
    {connected : Except String Response}
    (h : probe configured now latencyMs connected = .ok success) :
    Reported configured (applySuccess endpoint success successThreshold) := by
  obtain ⟨hversion, hload⟩ := probe_reported h
  constructor
  · exact hversion
  · intro load hl
    unfold RelayHealth.applySuccess at hl ⊢
    dsimp only at hl ⊢
    split at hl
    · rename_i hprotocols
      rw [if_pos hprotocols, hl]
      exact ⟨hload load hl, rfl, rfl⟩
    · cases hl

theorem Reported.recordResult {now latencyMs successThreshold failureThreshold : Nat}
    {connected : Except String Response} (h : Reported configured endpoint) :
    Reported configured (recordResult endpoint (probe configured now latencyMs connected)
      successThreshold failureThreshold) := by
  unfold RelayHealth.recordResult
  split
  · rename_i hok
    split
    · exact h.applyFailure
    · exact .applySuccess hok
  · exact h.applyFailure

/-- Every endpoint of the configuration, by what its relay has reported. -/
structure HealthState.Sound (env : Env) (s : HealthState) : Prop where
  config : ValidConfig env s.config
  reported : ∀ configured ∈ s.config.endpoints, ∀ endpoint,
    s.endpoints.get (toAsciiLowercase configured.relay) = some endpoint →
    Reported configured endpoint

/-- Two endpoints of a valid configuration do not share a relay. -/
theorem ValidConfig.eq_of_relay {config : RelayHealthConfig} {a b : RelayEndpointConfig}
    (h : ValidConfig env config) (ha : a ∈ config.endpoints) (hb : b ∈ config.endpoints)
    (hrelay : toAsciiLowercase a.relay = toAsciiLowercase b.relay) : a = b :=
  List.inj_on_of_nodup_map h.distinct ha hb hrelay

theorem HealthState.Sound.record {generation now latencyMs : Nat}
    {connected : Except String Response} (h : s.Sound env)
    (hmem : s.generation = generation → configured ∈ s.config.endpoints) :
    (record generation configured.relay (probe configured now latencyMs connected) s).Sound env := by
  unfold RelayHealth.record
  split
  · exact h
  · rename_i hgeneration
    have hmem := hmem (not_not.mp hgeneration)
    split
    · exact h
    · rename_i endpoint hget
      refine ⟨h.config, fun other hother state hstate => ?_⟩
      rw [Table.get_insert] at hstate
      split at hstate
      · rename_i hrelay
        cases hstate
        cases h.config.eq_of_relay hother hmem hrelay
        exact (h.reported _ hmem _ hget).recordResult
      · exact h.reported other hother state hstate

theorem HealthState.Sound.next {m : Move} (h : s.Sound env) (hn : next env s m t) :
    t.Sound env := by
  cases m with
  | reconfigure enabled config =>
    obtain ⟨hconfig, rfl⟩ := hn
    refine ⟨hconfig, fun configured _ endpoint hget => ?_⟩
    obtain ⟨_, -, -, rfl⟩ | hempty := Table.mem_of_get_foldl_insert
      (f := fun endpoint : RelayEndpointConfig => toAsciiLowercase endpoint.relay) hget
    · exact .default
    · rw [Table.get_empty] at hempty
      cases hempty
  | probed generation endpoint now latencyMs connected =>
    obtain ⟨hmem, rfl⟩ := hn
    exact h.record hmem
  | finished generation =>
    cases hn
    unfold finishCycle
    split
    · exact ⟨h.config, h.reported⟩
    · exact h

theorem HealthState.Sound.initial : HealthState.initial.Sound env := by
  refine ⟨⟨by simp [HealthState.initial], by simp [HealthState.initial]⟩, ?_⟩
  intro configured hmem
  cases hmem

theorem sound (h : Reachable (next env) .initial s) : s.Sound env :=
  h.invariant .initial fun _ _ _ hs hn => hs.next hn

/-- What the inventory sees of an endpoint comes from its configuration and its state. -/
theorem endpoint_runtimeSnapshot {now maxAge : Nat} {relay : String}
    {e : RelayObserver.RuntimeEndpointSnapshot} (h : s.Sound env)
    (he : (runtimeSnapshot now maxAge s).endpoint relay = some e) :
    ∃ configured ∈ s.config.endpoints, ∃ endpoint,
      toAsciiLowercase configured.relay = toAsciiLowercase relay ∧
      e = endpointSnapshot now maxAge configured endpoint ∧ Reported configured endpoint := by
  obtain ⟨configured, hmem, hrelay, rfl⟩ | hempty := Table.mem_of_get_foldl_insert
    (f := fun endpoint : RelayEndpointConfig => toAsciiLowercase endpoint.relay) he
  · refine ⟨configured, hmem, _, hrelay, rfl, ?_⟩
    cases hget : s.endpoints.get (toAsciiLowercase configured.relay) with
    | none => exact .default
    | some endpoint => exact h.reported configured hmem endpoint hget
  · rw [Table.get_empty] at hempty
    cases hempty

end

end Starry.RelayHealth
