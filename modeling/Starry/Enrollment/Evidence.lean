import Starry.RelayHealth.Reports
import Starry.RelayObserver.Exclusion

/-!
# Health-gated activation (`validate_activation_evidence`)

HBBS serializes its relay inventory; the control agent reads it back by field names and compares it
with what was approved. The fields that the agent does not read are left out of the JSON.
-/

open Library

namespace Starry.Enrollment

open Starry.ConfigStore (Value)
open Starry.RelayObserver

/-! ## The inventory as JSON -/

/-- `Value::pointer`, by the names between the slashes. No name here is an index. -/
def pointer (path : List String) (value : Value) : Option Value :=
  path.foldl (fun value key => value.bind (·.get key)) (some value)

def natOrNull : Option Nat → Value := optional .uint
def portOrNull : Option UInt16 → Value := optional fun port => .uint port.toNat
def stringOrNull : Option String → Value := optional .string
def boolOrNull : Option Bool → Value := optional .bool

def viewToJson (view : RelayRuntimeView) : Value :=
  .object
    [("id", .string view.id),
      ("version", stringOrNull view.version),
      ("capabilities", .object
        [("relay_probe_protocol", natOrNull view.capabilities.relayProbeProtocol),
          ("relay_load_protocol", natOrNull view.capabilities.relayLoadProtocol),
          ("fast_media_relay_udp", natOrNull view.capabilities.fastMediaRelayUdp)]),
      ("native", .object [("state", .string view.native.state)]),
      ("websocket", .object
        [("configured", .bool view.websocket.configured),
          ("url", stringOrNull view.websocket.url),
          ("state", .string view.websocket.state),
          ("stale", .bool view.websocket.stale),
          ("telemetry_schema", natOrNull view.websocket.telemetrySchema),
          ("process_instance_id", stringOrNull view.websocket.processInstanceId),
          ("telemetry_sequence", natOrNull view.websocket.telemetrySequence),
          ("capacity_sessions", natOrNull view.websocket.capacitySessions),
          ("capacity_bandwidth_bps", natOrNull view.websocket.capacityBandwidthBps),
          ("draining", boolOrNull view.websocket.draining)]),
      ("fast_media_udp", .object
        [("configured_port", portOrNull view.fastMediaUdp.configuredPort),
          ("reported_port", portOrNull view.fastMediaUdp.reportedPort),
          ("enabled", boolOrNull view.fastMediaUdp.enabled),
          ("healthy", boolOrNull view.fastMediaUdp.healthy)])]

def snapshotToJson (snapshot : RelayRuntimeSnapshot) : Value :=
  .object
    [("config_generation", .uint snapshot.configGeneration),
      ("health_snapshot_id", .string snapshot.healthSnapshotId),
      ("relays", .array (snapshot.relays.map viewToJson))]

/-! ## The checks of the agent -/

def maxSnapshotRelays : Nat := 4096

def u64At (path : List String) (value : Value) : Option Nat := (pointer path value).bind Value.asU64
def strAt (path : List String) (value : Value) : Option String :=
  (pointer path value).bind Value.asStr
def boolAt (path : List String) (value : Value) : Option Bool :=
  (pointer path value).bind Value.asBool
def arrayAt (path : List String) (value : Value) : Option (List Value) :=
  (pointer path value).bind Value.asArray

section Validate

variable (record : EnrollmentRecord) (request : RelayEnrollmentActivateRequest)

/-- The acknowledgement is complete, and of the generation of the request. -/
def ackComplete (activationAck : Value) : Bool :=
  u64At ["generation"] activationAck == some request.configGeneration &&
    ((arrayAt ["subsystem_acks"] activationAck).any fun acks =>
      !acks.isEmpty && acks.all fun ack => boolAt ["accepted"] ack == some true) &&
    (strAt ["source_digest"] activationAck).any validDigest &&
    (strAt ["effective_digest"] activationAck).any validDigest

def snapshotMatches (relaySnapshot : Value) : Bool :=
  u64At ["config_generation"] relaySnapshot == some request.configGeneration &&
    strAt ["health_snapshot_id"] relaySnapshot == some request.healthSnapshotId

def nativeReady (relay : Value) : Bool :=
  strAt ["native", "state"] relay == some "online" &&
    (strAt ["version"] relay).any fun version =>
      !version.isEmpty && decide (version.utf8ByteSize ≤ 128)

def websocketReady (expectedPublicProbe : String) (relay : Value) : Bool :=
  boolAt ["websocket", "configured"] relay == some true &&
    strAt ["websocket", "state"] relay == some "healthy" &&
    boolAt ["websocket", "stale"] relay == some false &&
    strAt ["websocket", "url"] relay == some expectedPublicProbe &&
    (u64At ["websocket", "telemetry_schema"] relay).any (fun schema => decide (2 ≤ schema)) &&
    (u64At ["websocket", "telemetry_sequence"] relay).any (fun sequence => decide (0 < sequence)) &&
    (strAt ["websocket", "process_instance_id"] relay).any (fun id =>
      !id.isEmpty && decide (id.utf8ByteSize ≤ 128)) &&
    (u64At ["capabilities", "relay_probe_protocol"] relay).any (fun version =>
      decide (1 ≤ version)) &&
    (u64At ["capabilities", "relay_load_protocol"] relay).any (fun version =>
      decide (1 ≤ version)) &&
    u64At ["websocket", "capacity_sessions"] relay == some record.approved.maxSessions &&
    u64At ["websocket", "capacity_bandwidth_bps"] relay ==
      some record.approved.capacityBandwidthBps &&
    boolAt ["websocket", "draining"] relay == some record.approved.draining

def fastMediaReady (relay : Value) : Bool :=
  let expectedPort := record.approved.fastMediaUdpPort.map UInt16.toNat
  u64At ["capabilities", "fast_media_relay_udp"] relay == some 1 &&
    u64At ["fast_media_udp", "configured_port"] relay == expectedPort &&
    u64At ["fast_media_udp", "reported_port"] relay == expectedPort &&
    boolAt ["fast_media_udp", "enabled"] relay == some true &&
    boolAt ["fast_media_udp", "healthy"] relay == some true

def healthMismatch (detail : String) : EnrollmentError :=
  .conflict "RELAY_ENROLLMENT_HEALTH_MISMATCH" detail

/-- The checks on the relay that was found. -/
def validateRelay (relay : Value) : Except EnrollmentError Unit :=
  if !nativeReady relay then
    .error (healthMismatch "The approved Relay has not passed the Native and version health gates.")
  else if record.approved.profile == "native" then .ok ()
  else match record.approved.wssEndpoint.map publicProbeUrl with
    | none => .error .internal
    | some expectedPublicProbe =>
      if !websocketReady record expectedPublicProbe relay then
        .error (healthMismatch
          "The approved Relay has not passed authenticated WSS and telemetry health gates.")
      else if record.approved.profile != "native-wss-fastmedia" then .ok ()
      else if !fastMediaReady record relay then
        .error (healthMismatch
          "The approved Relay has not passed the FastMedia UDP capability and health gates.")
      else .ok ()

def validateActivationEvidence (activationAck relaySnapshot : Value) :
    Except EnrollmentError Unit :=
  if !ackComplete request activationAck then
    .error (.conflict "RELAY_ENROLLMENT_ACTIVATION_ACK_MISMATCH"
      "The configuration activation acknowledgement is incomplete or does not match.")
  else if !snapshotMatches request relaySnapshot then
    .error (healthMismatch
      "The Relay health snapshot does not match the activated configuration generation.")
  else match (arrayAt ["relays"] relaySnapshot).filter fun relays =>
      decide (relays.length ≤ maxSnapshotRelays) with
    | none => .error (healthMismatch "The Relay health snapshot is missing or unbounded.")
    | some relays =>
      match relays.find? fun relay => strAt ["id"] relay == some record.approved.relayServer with
      | none => .error (.conflict "RELAY_ENROLLMENT_ENDPOINT_DRIFT"
          "The activated Relay endpoint does not match the approved endpoint.")
      | some relay => validateRelay record relay

end Validate

/-! ## Reading the fields back -/

section Fields

variable (view : RelayRuntimeView)

@[simp] theorem asU64_natOrNull (x : Option Nat) : (natOrNull x).asU64 = x := by
  cases x <;> rfl

@[simp] theorem asU64_portOrNull (x : Option UInt16) :
    (portOrNull x).asU64 = x.map UInt16.toNat := by
  cases x <;> rfl

@[simp] theorem asStr_stringOrNull (x : Option String) : (stringOrNull x).asStr = x := by
  cases x <;> rfl

@[simp] theorem asBool_boolOrNull (x : Option Bool) : (boolOrNull x).asBool = x := by
  cases x <;> rfl

/-- The agent reads the fields that HBBS wrote. -/
theorem nativeReady_view : nativeReady (viewToJson view) = true ↔
    view.native.state = "online" ∧ ∃ version, view.version = some version ∧
      version.isEmpty = false ∧ version.utf8ByteSize ≤ 128 := by
  have hstate : strAt ["native", "state"] (viewToJson view) = some view.native.state := rfl
  have hversion : strAt ["version"] (viewToJson view) = view.version := asStr_stringOrNull _
  rw [nativeReady, hstate, hversion]
  simp [Option.any_eq_true]

variable (record : EnrollmentRecord)

theorem websocketReady_view (expectedPublicProbe : String) :
    websocketReady record expectedPublicProbe (viewToJson view) = true ↔
      view.websocket.configured = true ∧ view.websocket.state = "healthy" ∧
      view.websocket.stale = false ∧ view.websocket.url = some expectedPublicProbe ∧
      (∃ schema, view.websocket.telemetrySchema = some schema ∧ 2 ≤ schema) ∧
      (∃ sequence, view.websocket.telemetrySequence = some sequence ∧ 0 < sequence) ∧
      (∃ id, view.websocket.processInstanceId = some id ∧ id.isEmpty = false ∧
        id.utf8ByteSize ≤ 128) ∧
      (∃ version, view.capabilities.relayProbeProtocol = some version ∧ 1 ≤ version) ∧
      (∃ version, view.capabilities.relayLoadProtocol = some version ∧ 1 ≤ version) ∧
      view.websocket.capacitySessions = some record.approved.maxSessions ∧
      view.websocket.capacityBandwidthBps = some record.approved.capacityBandwidthBps ∧
      view.websocket.draining = some record.approved.draining := by
  have h1 : boolAt ["websocket", "configured"] (viewToJson view) =
    some view.websocket.configured := rfl
  have h2 : strAt ["websocket", "state"] (viewToJson view) = some view.websocket.state := rfl
  have h3 : boolAt ["websocket", "stale"] (viewToJson view) = some view.websocket.stale := rfl
  have h4 : strAt ["websocket", "url"] (viewToJson view) = view.websocket.url :=
    asStr_stringOrNull _
  have h5 : u64At ["websocket", "telemetry_schema"] (viewToJson view) =
    view.websocket.telemetrySchema := asU64_natOrNull _
  have h6 : u64At ["websocket", "telemetry_sequence"] (viewToJson view) =
    view.websocket.telemetrySequence := asU64_natOrNull _
  have h7 : strAt ["websocket", "process_instance_id"] (viewToJson view) =
    view.websocket.processInstanceId := asStr_stringOrNull _
  have h8 : u64At ["capabilities", "relay_probe_protocol"] (viewToJson view) =
    view.capabilities.relayProbeProtocol := asU64_natOrNull _
  have h9 : u64At ["capabilities", "relay_load_protocol"] (viewToJson view) =
    view.capabilities.relayLoadProtocol := asU64_natOrNull _
  have h10 : u64At ["websocket", "capacity_sessions"] (viewToJson view) =
    view.websocket.capacitySessions := asU64_natOrNull _
  have h11 : u64At ["websocket", "capacity_bandwidth_bps"] (viewToJson view) =
    view.websocket.capacityBandwidthBps := asU64_natOrNull _
  have h12 : boolAt ["websocket", "draining"] (viewToJson view) = view.websocket.draining :=
    asBool_boolOrNull _
  rw [websocketReady, h1, h2, h3, h4, h5, h6, h7, h8, h9, h10, h11, h12]
  simp only [Bool.and_eq_true, beq_iff_eq, Option.some.injEq, Option.any_eq_true,
    decide_eq_true_eq, Bool.not_eq_true', and_assoc]

theorem fastMediaReady_view : fastMediaReady record (viewToJson view) = true ↔
    view.capabilities.fastMediaRelayUdp = some 1 ∧
    view.fastMediaUdp.configuredPort = record.approved.fastMediaUdpPort ∧
    view.fastMediaUdp.reportedPort = record.approved.fastMediaUdpPort ∧
    view.fastMediaUdp.enabled = some true ∧ view.fastMediaUdp.healthy = some true := by
  have h1 : u64At ["capabilities", "fast_media_relay_udp"] (viewToJson view) =
    view.capabilities.fastMediaRelayUdp := asU64_natOrNull _
  have h2 : u64At ["fast_media_udp", "configured_port"] (viewToJson view) =
    view.fastMediaUdp.configuredPort.map UInt16.toNat := asU64_portOrNull _
  have h3 : u64At ["fast_media_udp", "reported_port"] (viewToJson view) =
    view.fastMediaUdp.reportedPort.map UInt16.toNat := asU64_portOrNull _
  have h4 : boolAt ["fast_media_udp", "enabled"] (viewToJson view) = view.fastMediaUdp.enabled :=
    asBool_boolOrNull _
  have h5 : boolAt ["fast_media_udp", "healthy"] (viewToJson view) = view.fastMediaUdp.healthy :=
    asBool_boolOrNull _
  have hport : ∀ a b : Option UInt16, a.map UInt16.toNat = b.map UInt16.toNat ↔ a = b := by
    intro a b
    exact (Option.map_injective fun x y hxy => UInt16.toNat_inj.mp hxy).eq_iff
  rw [fastMediaReady, h1, h2, h3, h4, h5]
  simp only [Bool.and_eq_true, beq_iff_eq, hport, and_assoc]

end Fields

/-! ## The relay that is found -/

section Found

variable (active : ActiveConfigSnapshot) (pool : RelayPoolState) (health : RuntimeHealthSnapshot)
  {relay : String}

theorem find_buildViews_of_mem {configured : List String} (order : Nat)
    (references : Table String (List String)) (h : relay ∈ configured) :
    ∃ order' referencedByRules,
      ((buildViews active pool health order references configured).map viewToJson).find?
        (fun value => strAt ["id"] value == some relay) =
      some (viewToJson (buildView active pool health order' relay referencedByRules)) := by
  induction configured generalizing order references with
  | nil => cases h
  | cons first rest ih =>
    rw [buildViews, List.map_cons, List.find?_cons]
    have hid : ∀ order references, strAt ["id"]
      (viewToJson (buildView active pool health order first references)) = some first :=
      fun _ _ => rfl
    rw [hid]
    by_cases hfirst : first = relay
    · subst hfirst
      rw [beq_self_eq_true]
      exact ⟨_, _, rfl⟩
    · rw [beq_false_of_ne (by simpa using hfirst)]
      exact ih _ _ ((List.mem_cons.mp h).resolve_left (Ne.symm hfirst))

theorem find_buildViews_of_notMem {configured : List String} (order : Nat)
    (references : Table String (List String)) (h : relay ∉ configured) :
    ((buildViews active pool health order references configured).map viewToJson).find?
      (fun value => strAt ["id"] value == some relay) = none := by
  induction configured generalizing order references with
  | nil => rfl
  | cons first rest ih =>
    rw [buildViews, List.map_cons, List.find?_cons]
    have hid : ∀ order references, strAt ["id"]
      (viewToJson (buildView active pool health order first references)) = some first :=
      fun _ _ => rfl
    obtain ⟨hfirst, hrest⟩ := not_or.mp (mt List.mem_cons.mpr h)
    rw [hid, beq_false_of_ne (by simpa using Ne.symm hfirst)]
    exact ih _ _ hrest

theorem length_buildViews {configured : List String} (order : Nat)
    (references : Table String (List String)) :
    (buildViews active pool health order references configured).length = configured.length := by
  induction configured generalizing order references with
  | nil => rfl
  | cons first rest ih => rw [buildViews, List.length_cons, List.length_cons, ih]

/-- The request names the generation and the health of the inventory. -/
theorem snapshotMatches_buildSnapshot (request : RelayEnrollmentActivateRequest) (geo : GeoState) :
    snapshotMatches request (snapshotToJson (buildSnapshot active pool health geo)) = true ↔
      active.generation = request.configGeneration ∧
        "health-" ++ toString health.snapshotId = request.healthSnapshotId := by
  have hgeneration : u64At ["config_generation"]
    (snapshotToJson (buildSnapshot active pool health geo)) = some active.generation := rfl
  have hid : strAt ["health_snapshot_id"]
    (snapshotToJson (buildSnapshot active pool health geo)) =
      some ("health-" ++ toString health.snapshotId) := rfl
  rw [snapshotMatches, hgeneration, hid]
  simp only [Bool.and_eq_true, beq_iff_eq, Option.some.injEq]

def serializedViews : List Value :=
  (buildViews active pool health 0 (ruleReferences active.config) pool.configured).map viewToJson

theorem relays_buildSnapshot (geo : GeoState) :
    (arrayAt ["relays"] (snapshotToJson (buildSnapshot active pool health geo))).filter
        (fun relays => decide (relays.length ≤ maxSnapshotRelays)) =
      if pool.configured.length ≤ maxSnapshotRelays then
        some (serializedViews active pool health) else none := by
  have hrelays : arrayAt ["relays"] (snapshotToJson (buildSnapshot active pool health geo)) =
    some (serializedViews active pool health) := rfl
  rw [hrelays]
  unfold serializedViews
  split
  · rename_i hlength
    simp [Option.filter, length_buildViews, hlength]
  · rename_i hlength
    simp [Option.filter, length_buildViews, hlength]

end Found

/-! ## One address, two spellings -/

/-- A text that ends like the public address of a relay. -/
def EndsInRelay (url : String) : Prop := "/ws/relay".toList <:+ url.toList

theorem publicProbeUrl_cases (url : String) :
    (∃ p, url = p ++ "/ws/telemetry" ∧ publicProbeUrl url = p ++ "/ws/relay") ∨
      publicProbeUrl url = url := by
  unfold publicProbeUrl stripSuffix
  split
  · rename_i hsuffix
    obtain ⟨p, hp⟩ := List.isSuffixOf_iff_suffix.mp hsuffix
    refine .inl ⟨String.ofList p, ?_, ?_⟩
    · apply String.toList_inj.mp
      rw [String.toList_append, String.toList_ofList, hp]
    · have hlength : url.length = p.length + "/ws/telemetry".length := by
        rw [← String.length_toList, ← hp, List.length_append, String.length_toList]
      rw [Option.map_some, Option.getD_some, hlength, Nat.add_sub_cancel, ← hp,
        List.take_left]
  · exact .inr rfl

/-- An endpoint that is not itself public is known by its public address. -/
theorem publicProbeUrl_inj {a b : String} (ha : ¬ EndsInRelay a) (hb : ¬ EndsInRelay b)
    (h : publicProbeUrl a = publicProbeUrl b) : a = b := by
  have hends : ∀ p : String, EndsInRelay (p ++ "/ws/relay") := by
    intro p
    unfold EndsInRelay
    rw [String.toList_append]
    exact List.suffix_append _ _
  rcases publicProbeUrl_cases a with ⟨p, hp, hpa⟩ | hpa
  · rcases publicProbeUrl_cases b with ⟨q, hq, hqb⟩ | hqb
    · rw [hpa, hqb] at h
      have hlist := congrArg String.toList h
      rw [String.toList_append, String.toList_append] at hlist
      rw [hp, hq, String.toList_inj.mp (List.append_cancel_right hlist)]
    · rw [hpa, hqb] at h
      exact (hb (h ▸ hends p)).elim
  · rcases publicProbeUrl_cases b with ⟨q, hq, hqb⟩ | hqb
    · rw [hpa, hqb] at h
      exact (ha (h ▸ hends q)).elim
    · rw [hpa, hqb] at h
      exact h

/-! ## What is approved, and what is observed -/

section Ready

variable (approved : RelayEnrollmentPrepareRequest) (active : ActiveConfigSnapshot)
  (pool : RelayPoolState) (health : RuntimeHealthSnapshot)

/-- The approved telemetry endpoint is healthy and fresh, and reports what was approved. -/
structure WebsocketAsApproved (endpoint : RuntimeEndpointSnapshot) (load : RelayLoadTelemetry) :
    Prop where
  configured : health.endpoint approved.relayServer = some endpoint
  url : approved.wssEndpoint = some endpoint.url
  ready : health.isReady = true
  healthy : endpoint.state = .healthy
  fresh : endpoint.stale = false
  telemetry : endpoint.load = some load
  schema : load.telemetrySchema = 2
  capacitySessions : load.capacitySessions = approved.maxSessions
  capacityBandwidthBps : load.capacityBandwidthBps = approved.capacityBandwidthBps
  draining : load.draining = approved.draining

/-- The FastMedia port is configured and reported as approved, and it works. -/
structure FastMediaAsApproved (load : RelayLoadTelemetry) : Prop where
  configured : configuredFastMediaPort active approved.relayServer = approved.fastMediaUdpPort
  reported : load.fastMediaUdpPort = approved.fastMediaUdpPort
  enabled : load.fastMediaUdpEnabled = some true
  healthy : load.fastMediaUdpHealthy = some true

structure ObservedAsApproved : Prop where
  listed : approved.relayServer ∈ pool.configured
  native : isNativeOnline pool approved.relayServer = true
  profile : approved.profile = "native" ∨ ∃ endpoint load,
    WebsocketAsApproved approved health endpoint load ∧
      (approved.profile = "native-wss-fastmedia" → FastMediaAsApproved approved active load)

/-- The native profile needs the version from an endpoint that only the others have. -/
def VersionKnown : Prop :=
  approved.profile = "native" →
    ((health.endpoint approved.relayServer).bind (·.version)).isSome = true

end Ready

/-- The acknowledgement is complete, the request names this inventory, and what it shows is what
was approved. -/
structure Justified (record : EnrollmentRecord) (request : RelayEnrollmentActivateRequest)
    (activationAck : Value) (active : ActiveConfigSnapshot) (pool : RelayPoolState)
    (health : RuntimeHealthSnapshot) : Prop where
  ack : ackComplete request activationAck = true
  generation : active.generation = request.configGeneration
  snapshotId : "health-" ++ toString health.snapshotId = request.healthSnapshotId
  observed : ObservedAsApproved record.approved active pool health

section Main

variable {env : Env} {s : RelayHealth.HealthState} {now maxAge : Nat}

/-- What the checks of the agent come to for one relay of the inventory. -/
theorem validateRelay_iff (record : EnrollmentRecord) (view : RelayRuntimeView) :
    validateRelay record (viewToJson view) = .ok () ↔
      nativeReady (viewToJson view) = true ∧ (record.approved.profile = "native" ∨
        ∃ url, record.approved.wssEndpoint = some url ∧
          websocketReady record (publicProbeUrl url) (viewToJson view) = true ∧
          (record.approved.profile = "native-wss-fastmedia" →
            fastMediaReady record (viewToJson view) = true)) := by
  unfold validateRelay
  cases nativeReady (viewToJson view) with
  | false => simp
  | true =>
    by_cases hnative : record.approved.profile = "native"
    · simp [hnative]
    · cases hendpoint : record.approved.wssEndpoint with
      | none => simp [hnative]
      | some url =>
        cases hws : websocketReady record (publicProbeUrl url) (viewToJson view) with
        | false => simp [hnative, hws]
        | true =>
          by_cases hfast : record.approved.profile = "native-wss-fastmedia"
          · cases fastMediaReady record (viewToJson view) <;> simp [hws, hfast]
          · simp [hnative, hws, hfast]

/-- A URL without query and fragment ends where its path ends. -/
def UrlKeepsEnd (env : Env) : Prop :=
  ∀ text parsed, env.parseUrl text = some parsed → parsed.query = none → parsed.fragment = none →
    EndsInRelay text → parsed.path ≠ "/ws/telemetry"

theorem not_endsInRelay_of_valid (hurl : UrlKeepsEnd env) {url : String}
    (h : validTelemetryEndpoint env url = true) : ¬ EndsInRelay url := by
  unfold validTelemetryEndpoint at h
  split at h
  · cases h
  · rename_i parsed hparsed
    simp only [Bool.and_eq_true, beq_iff_eq, Option.isNone_iff_eq_none] at h
    intro hends
    exact hurl url parsed hparsed h.1.2 h.2 hends h.1.1.2

/-- An endpoint with a secret is a telemetry endpoint. -/
theorem not_endsInRelay_of_secret (hurl : UrlKeepsEnd env)
    {configured : RelayHealth.RelayEndpointConfig}
    (h : RelayHealth.validEndpoint env configured = true)
    (hsecret : configured.telemetrySecretFile.isSome = true) : ¬ EndsInRelay configured.url := by
  unfold RelayHealth.validEndpoint at h
  split at h
  · cases h
  · rename_i parsed hparsed
    simp only [Bool.and_eq_true, hsecret, Option.isNone_iff_eq_none] at h
    obtain ⟨⟨⟨⟨⟨⟨⟨⟨⟨-, -⟩, -⟩, hquery⟩, hfragment⟩, -⟩, -⟩, hpath⟩, -⟩, -⟩ := h
    intro hends
    exact hurl _ parsed hparsed hquery hfragment hends (by simpa using hpath)

theorem validWssEndpoint_of_prepare {approved : RelayEnrollmentPrepareRequest} {url : String}
    (h : validatePrepare env approved = .ok ()) (hnative : approved.profile ≠ "native")
    (hendpoint : approved.wssEndpoint = some url) : validTelemetryEndpoint env url = true := by
  unfold validatePrepare at h
  split at h
  · cases h
  · rename_i hvalid
    simp only [Bool.or_eq_true, not_or, hendpoint, Option.any_some, bne_iff_ne,
      Bool.and_eq_true, Bool.not_eq_true', not_and, Bool.not_eq_false] at hvalid
    have hwss := hvalid.1.2 hnative
    unfold validWssEndpoint at hwss
    split at hwss
    · cases hwss
    · exact hwss

variable {record : EnrollmentRecord} {active : ActiveConfigSnapshot} {pool : RelayPoolState}

/-- What the inventory knows of an endpoint with telemetry. -/
structure Reporting (endpoint : RuntimeEndpointSnapshot) (load : RelayLoadTelemetry) : Prop where
  url : ¬ EndsInRelay endpoint.url
  version : endpoint.version.isSome = true
  probeProtocol : 1 ≤ endpoint.relayProbeProtocol.getD 0
  loadProtocol : 1 ≤ endpoint.relayLoadProtocol.getD 0
  instanceId : endpoint.telemetryInstanceId = some load.processInstanceId ∧
    load.processInstanceId.isEmpty = false ∧ load.processInstanceId.utf8ByteSize ≤ 128
  sequence : endpoint.telemetrySequence = some load.sequence ∧ 0 < load.sequence
  schema : load.telemetrySchema = 1 ∨ load.telemetrySchema = 2
  fastMedia : load.telemetrySchema = 2 → load.fastMediaRelayUdp = some 1

theorem reporting (hurl : UrlKeepsEnd env) (hs : s.Sound env) {relay : String}
    {endpoint : RuntimeEndpointSnapshot} {load : RelayLoadTelemetry}
    (hendpoint : (RelayHealth.runtimeSnapshot now maxAge s).endpoint relay = some endpoint)
    (hload : endpoint.load = some load) : Reporting endpoint load := by
  obtain ⟨configured, hmem, state, -, rfl, hreported⟩ :=
    RelayHealth.endpoint_runtimeSnapshot hs hendpoint
  obtain ⟨hl, hinstance, hsequence⟩ := hreported.load load hload
  exact ⟨not_endsInRelay_of_secret hurl (hs.config.valid configured hmem) hl.secret, hl.version,
    hl.probeProtocol, hl.loadProtocol,
    ⟨hinstance, hl.instanceId.1, hl.instanceId.2.trans (by decide)⟩, ⟨hsequence, hl.sequence⟩,
    hl.schema, hl.fastMedia⟩

theorem version_valid (hs : s.Sound env) {relay version : String}
    {endpoint : RuntimeEndpointSnapshot}
    (hendpoint : (RelayHealth.runtimeSnapshot now maxAge s).endpoint relay = some endpoint)
    (hversion : endpoint.version = some version) :
    version.isEmpty = false ∧ version.utf8ByteSize ≤ 128 := by
  obtain ⟨configured, hmem, state, -, rfl, hreported⟩ :=
    RelayHealth.endpoint_runtimeSnapshot hs hendpoint
  exact hreported.version version hversion

theorem exists_of_getD {x : Option Nat} (h : 1 ≤ x.getD 0) : ∃ n, x = some n ∧ 1 ≤ n := by
  cases x with
  | none => cases h
  | some n => exact ⟨n, rfl, h⟩

variable {health : RuntimeHealthSnapshot} {order : Nat} {referencedByRules : List String}
  {url : String}

theorem WebsocketAsApproved.of_ready
    (hreporting : ∀ endpoint load, health.endpoint record.approved.relayServer = some endpoint →
      endpoint.load = some load → Reporting endpoint load)
    (hwss : record.approved.wssEndpoint = some url) (hurl : ¬ EndsInRelay url)
    (h : websocketReady record (publicProbeUrl url) (viewToJson (buildView active pool health order
      record.approved.relayServer referencedByRules)) = true) :
    ∃ endpoint load, WebsocketAsApproved record.approved health endpoint load := by
  rw [websocketReady_view] at h
  cases hendpoint : health.endpoint record.approved.relayServer with
  | none => simp [buildView, hendpoint] at h
  | some endpoint =>
    cases hload : endpoint.load with
    | none => simp [buildView, hendpoint, hload] at h
    | some load =>
      have hrep := hreporting endpoint load hendpoint hload
      simp only [buildView, hendpoint, hload, Option.map_some, Option.bind_some, Option.getD_some,
        Option.some.injEq, exists_eq_left'] at h
      obtain ⟨-, hstate, hfresh, hpublic, hschema, -, -, -, -, hsessions, hbandwidth, hdraining⟩ := h
      obtain ⟨hready, hhealthy⟩ := (websocketState_healthy hendpoint).mp hstate
      refine ⟨endpoint, load, hendpoint, ?_, hready, hhealthy, hfresh, hload, ?_, hsessions,
        hbandwidth, hdraining⟩
      · rw [hwss, publicProbeUrl_inj hrep.url hurl hpublic]
      · rcases hrep.schema with h1 | h2
        · omega
        · exact h2

theorem WebsocketAsApproved.passes {endpoint : RuntimeEndpointSnapshot} {load : RelayLoadTelemetry}
    (hwss : record.approved.wssEndpoint = some url) (hrep : Reporting endpoint load)
    (h : WebsocketAsApproved record.approved health endpoint load) :
    websocketReady record (publicProbeUrl url) (viewToJson (buildView active pool health order
      record.approved.relayServer referencedByRules)) = true := by
  have hsame : endpoint.url = url := Option.some.inj (h.url.symm.trans hwss)
  have hstate := (websocketState_healthy h.configured).mpr ⟨h.ready, h.healthy⟩
  rw [websocketReady_view]
  simp only [buildView, h.configured, h.telemetry, Option.map_some, Option.bind_some,
    Option.getD_some, Option.some.injEq, exists_eq_left', Option.isSome_some, hstate, h.fresh, hsame,
    h.schema, h.capacitySessions, h.capacityBandwidthBps, h.draining, hrep.instanceId,
    hrep.sequence]
  exact ⟨trivial, trivial, trivial, trivial, Nat.le_refl 2, trivial, ⟨trivial, trivial⟩,
    exists_of_getD hrep.probeProtocol, exists_of_getD hrep.loadProtocol, trivial, trivial, trivial⟩

theorem fastMediaReady_iff {endpoint : RuntimeEndpointSnapshot} {load : RelayLoadTelemetry}
    (hrep : Reporting endpoint load)
    (h : WebsocketAsApproved record.approved health endpoint load) :
    fastMediaReady record (viewToJson (buildView active pool health order
      record.approved.relayServer referencedByRules)) = true ↔
      FastMediaAsApproved record.approved active load := by
  rw [fastMediaReady_view]
  simp only [buildView, h.configured, h.telemetry, Option.bind_some, hrep.fastMedia h.schema,
    true_and]
  constructor
  · rintro ⟨hconfigured, hreported, henabled, hhealthy⟩
    exact ⟨hconfigured, hreported, henabled, hhealthy⟩
  · intro hfast
    exact ⟨hfast.configured, hfast.reported, hfast.enabled, hfast.healthy⟩

/-- The checks on the relay come to what was approved and a known version. -/
theorem validateRelay_buildView (hurl : UrlKeepsEnd env) (hs : s.Sound env)
    (hprepare : validatePrepare env record.approved = .ok ())
    (hlisted : record.approved.relayServer ∈ pool.configured) :
    validateRelay record (viewToJson (buildView active pool
        (RelayHealth.runtimeSnapshot now maxAge s) order record.approved.relayServer
        referencedByRules)) = .ok () ↔
      ObservedAsApproved record.approved active pool (RelayHealth.runtimeSnapshot now maxAge s) ∧
        VersionKnown record.approved (RelayHealth.runtimeSnapshot now maxAge s) := by
  have hreporting : ∀ endpoint load,
      (RelayHealth.runtimeSnapshot now maxAge s).endpoint record.approved.relayServer =
        some endpoint → endpoint.load = some load → Reporting endpoint load :=
    fun _ _ hendpoint hload => reporting hurl hs hendpoint hload
  rw [validateRelay_iff, nativeReady_view]
  simp only [buildView, native_state]
  constructor
  · rintro ⟨⟨honline, version, hversion, -⟩, hprofile⟩
    refine ⟨⟨hlisted, honline, ?_⟩, fun _ => by rw [hversion]; rfl⟩
    by_cases hnative : record.approved.profile = "native"
    · exact .inl hnative
    · obtain ⟨url, hwss, hready, hfast⟩ := hprofile.resolve_left hnative
      have hnot := not_endsInRelay_of_valid hurl
        (validWssEndpoint_of_prepare hprepare hnative hwss)
      obtain ⟨endpoint, load, happroved⟩ := WebsocketAsApproved.of_ready hreporting hwss hnot hready
      refine .inr ⟨endpoint, load, happroved, fun hprofile => ?_⟩
      exact (fastMediaReady_iff (hreporting _ _ happroved.configured happroved.telemetry)
        happroved).mp (hfast hprofile)
  · rintro ⟨⟨-, honline, hprofile⟩, hknown⟩
    by_cases hnative : record.approved.profile = "native"
    · obtain ⟨version, hversion⟩ := Option.isSome_iff_exists.mp (hknown hnative)
      obtain ⟨endpoint, hendpoint, hsome⟩ := Option.bind_eq_some_iff.mp hversion
      exact ⟨⟨honline, version, hversion, version_valid hs hendpoint hsome⟩, .inl hnative⟩
    · obtain ⟨endpoint, load, happroved, hfast⟩ := hprofile.resolve_left hnative
      have hrep := hreporting _ _ happroved.configured happroved.telemetry
      obtain ⟨version, hsome⟩ := Option.isSome_iff_exists.mp hrep.version
      refine ⟨⟨honline, version, ?_, version_valid hs happroved.configured hsome⟩,
        .inr ⟨endpoint.url, happroved.url, happroved.passes happroved.url hrep, fun hprofile => ?_⟩⟩
      · rw [happroved.configured]
        exact hsome
      · exact (fastMediaReady_iff hrep happroved).mpr (hfast hprofile)

/-- The agent accepts exactly the evidence that is justified, if the version is known and the
inventory is not too long. -/
theorem validateActivationEvidence_iff (hurl : UrlKeepsEnd env) (hs : s.Sound env)
    (hprepare : validatePrepare env record.approved = .ok ())
    (request : RelayEnrollmentActivateRequest) (activationAck : Value) (geo : GeoState) :
    validateActivationEvidence record request activationAck (snapshotToJson (buildSnapshot active
        pool (RelayHealth.runtimeSnapshot now maxAge s) geo)) = .ok () ↔
      Justified record request activationAck active pool
        (RelayHealth.runtimeSnapshot now maxAge s) ∧
      VersionKnown record.approved (RelayHealth.runtimeSnapshot now maxAge s) ∧
      pool.configured.length ≤ maxSnapshotRelays := by
  unfold validateActivationEvidence
  rw [relays_buildSnapshot]
  by_cases hack : ackComplete request activationAck = true
  case neg =>
    rw [if_pos (by simpa using hack)]
    exact iff_of_false (by simp) fun h => hack h.1.ack
  rw [if_neg (by simpa using hack)]
  by_cases hmatch : active.generation = request.configGeneration ∧
      "health-" ++ toString (RelayHealth.runtimeSnapshot now maxAge s).snapshotId =
        request.healthSnapshotId
  case neg =>
    rw [if_pos (by simpa using mt (snapshotMatches_buildSnapshot ..).mp hmatch)]
    exact iff_of_false (by simp) fun h => hmatch ⟨h.1.generation, h.1.snapshotId⟩
  rw [if_neg (by simpa using (snapshotMatches_buildSnapshot ..).mpr hmatch)]
  by_cases hlength : pool.configured.length ≤ maxSnapshotRelays
  case neg =>
    rw [if_neg hlength]
    exact iff_of_false (by simp) fun h => hlength h.2.2
  rw [if_pos hlength]
  dsimp only
  unfold serializedViews
  by_cases hlisted : record.approved.relayServer ∈ pool.configured
  case neg =>
    rw [find_buildViews_of_notMem _ _ _ _ _ hlisted]
    exact iff_of_false (by simp) fun h => hlisted h.1.observed.listed
  obtain ⟨order, referencedByRules, hfound⟩ := find_buildViews_of_mem active pool
    (RelayHealth.runtimeSnapshot now maxAge s) 0 (ruleReferences active.config) hlisted
  rw [hfound]
  dsimp only
  rw [validateRelay_buildView hurl hs hprepare hlisted]
  constructor
  · rintro ⟨hobserved, hknown⟩
    exact ⟨⟨hack, hmatch.1, hmatch.2, hobserved⟩, hknown, hlength⟩
  · rintro ⟨hjustified, hknown, -⟩
    exact ⟨hjustified.observed, hknown⟩

/-- Evidence is accepted exactly when it is justified, if and only if a native relay's version is
known from an endpoint of its own and the inventory is not too long wherever it is justified. -/
theorem evidence_accepted_when_justified (env : Env) (hurl : UrlKeepsEnd env)
    (s : RelayHealth.HealthState) (hs : Reachable (RelayHealth.next env) .initial s)
    (now maxAge : Nat) (active : ActiveConfigSnapshot) (pool : RelayPoolState) (geo : GeoState)
    (record : EnrollmentRecord) (hprepare : validatePrepare env record.approved = .ok ())
    (request : RelayEnrollmentActivateRequest) (activationAck : Value) :
    (validateActivationEvidence record request activationAck (snapshotToJson (buildSnapshot active
        pool (RelayHealth.runtimeSnapshot now maxAge s) geo)) = .ok () ↔
      Justified record request activationAck active pool
        (RelayHealth.runtimeSnapshot now maxAge s)) ↔
    (Justified record request activationAck active pool
        (RelayHealth.runtimeSnapshot now maxAge s) →
      VersionKnown record.approved (RelayHealth.runtimeSnapshot now maxAge s) ∧
        pool.configured.length ≤ maxSnapshotRelays) := by
  rw [validateActivationEvidence_iff hurl (RelayHealth.sound hs) hprepare]
  exact and_iff_left_iff_imp

end Main

/-! ## Concrete evidence -/

def sampleWss : String := "wss://relay.example:21119/ws/telemetry"

/-- The two addresses of one relay, as `url::Url` parses them. -/
def sampleEnv : Env where
  parseUrl text :=
    if text = "tcp://relay.example:21117" then
      some ⟨"tcp", some "relay.example", some 21117, "", none, "", none, none⟩
    else if text = sampleWss then
      some ⟨"wss", some "relay.example", some 21119, "", none, "/ws/telemetry", none, none⟩
    else none
  isUuid text := text.utf8ByteSize == 36
  digest _ := "sha256:2222222222222222222222222222222222222222222222222222222222222222"
  toVec _ := []
  csrKey _ := .ok "sha256:3333333333333333333333333333333333333333333333333333333333333333"
  certificateKey _ := some "sha256:3333333333333333333333333333333333333333333333333333333333333333"
  certificateValid _ _ _ := true
  decodedLength _ := some 32
  decodedUrlSafeLength _ := some 32

theorem sampleEnv_keepsEnd : UrlKeepsEnd sampleEnv := by
  intro text parsed hparsed _ _ hends
  simp only [sampleEnv] at hparsed
  split at hparsed
  · cases hparsed
    decide
  · split at hparsed
    · rename_i htext
      subst htext
      have hnot : ¬ EndsInRelay sampleWss := by
        unfold EndsInRelay
        decide
      exact (hnot hends).elim
    · cases hparsed

def sampleRequest (profile : String) (wssEndpoint : Option String)
    (fastMediaUdpPort : Option UInt16) : RelayEnrollmentPrepareRequest :=
  { version := 1, nodeId := "relay-sg", relayServer := "relay.example:21117"
    publicEndpoint := "relay.example:21117", relayPool := "primary", profile, wssEndpoint
    activateAfterHealth := true, maxSessions := 1000, capacityBandwidthBps := 1000000000
    draining := false, fastMediaUdpPort, expiresInSeconds := 600 }

def sampleRecord (approved : RelayEnrollmentPrepareRequest) : EnrollmentRecord :=
  { registryVersion := 1, instanceId := "agent", enrollmentId := "enrollment"
    prepareIdempotencyKeyDigest := "key", configurationDigest := "configuration"
    createdAtUnix := 0, expiresAtUnix := 600, state := .claimedPendingHealth, approved
    requestDigest := none, keyFingerprint := none, csrDigest := none, completedAtUnix := some 1
    activationOperationId := none, activationConfigGeneration := none
    activationHealthSnapshotId := none, activatedAtUnix := none }

def sampleAck : Value :=
  .object [("generation", .uint 2),
    ("subsystem_acks", .array [.object [("subsystem", .string "relay_pool"),
      ("accepted", .bool true)]]),
    ("source_digest", .string
      "sha256:0000000000000000000000000000000000000000000000000000000000000000"),
    ("effective_digest", .string
      "sha256:1111111111111111111111111111111111111111111111111111111111111111")]

def samplePool : RelayPoolState := ⟨2, ["relay.example:21117"], ["relay.example:21117"]⟩

def sampleActivate (healthSnapshotId : String) : RelayEnrollmentActivateRequest :=
  ⟨1, "enrollment", "configuration", "operation", 2, healthSnapshotId⟩

def sampleEndpoint : RelayHealth.RelayEndpointConfig :=
  ⟨"relay.example:21117", sampleWss, some "/run/secrets/relay", some 22119⟩

def sampleActive : ActiveConfigSnapshot :=
  ⟨2, some ⟨true, [⟨"relay.example:21117", sampleWss, some 22119⟩], [], []⟩⟩

def sampleResponse : RelayHealth.Response :=
  { version := none, relayProbeProtocol := some 1, relayLoadProtocol := some 1
    telemetry := .ok
      { telemetrySchema := 2, processInstanceId := "relay-1", sequence := 1
        observedAtUnixMs := 1000, uptimeSeconds := 1, version := "1.1.16", relayProbeProtocol := 1
        relayLoadProtocol := 1, loadBasisPoints := 0, activeSessions := 0, capacitySessions := 1000
        bandwidthEmaAlphaBasisPoints := 1, capacityBandwidthBps := 1000000000, draining := false
        admissionOpen := true, fastMedia := some ⟨1, true, true, 22119⟩ } }

/-- One relay has been probed once. -/
def sampleHealth : RelayHealth.HealthState :=
  RelayHealth.finishCycle 1 (RelayHealth.record 1 "relay.example:21117"
    (RelayHealth.probe sampleEndpoint 1000 5 (.ok sampleResponse))
    (RelayHealth.reconfigure true ⟨[sampleEndpoint], 1, 1⟩ .initial))

theorem sampleHealth_reached : Reachable (RelayHealth.next sampleEnv) .initial sampleHealth := by
  have hconfig : RelayHealth.ValidConfig sampleEnv ⟨[sampleEndpoint], 1, 1⟩ :=
    ⟨by decide, by decide⟩
  refine (((Reachable.refl _).step (i := .reconfigure true ⟨[sampleEndpoint], 1, 1⟩)
    ⟨hconfig, rfl⟩).step (i := .probed 1 sampleEndpoint 1000 5 (.ok sampleResponse))
    ⟨fun _ => List.mem_singleton_self _, rfl⟩).step (i := .finished 1) rfl

def fastMediaRecord : EnrollmentRecord :=
  sampleRecord (sampleRequest "native-wss-fastmedia" (some sampleWss) (some 22119))

def nativeRecord : EnrollmentRecord := sampleRecord (sampleRequest "native" none none)

theorem fastMedia_justified : Justified fastMediaRecord (sampleActivate "health-3") sampleAck
    sampleActive samplePool (RelayHealth.runtimeSnapshot 2000 30 sampleHealth) := by
  refine ⟨rfl, rfl, rfl, List.mem_singleton_self _, rfl, .inr ⟨_, _, ⟨rfl, rfl, rfl, rfl, rfl, rfl,
    rfl, rfl, rfl, rfl⟩, fun _ => ⟨rfl, rfl, rfl, rfl⟩⟩⟩

/-- Everything that was approved is observed, and the evidence is accepted. -/
theorem evidence_accepted_fastMedia :
    validateActivationEvidence fastMediaRecord (sampleActivate "health-3") sampleAck
      (snapshotToJson (buildSnapshot sampleActive samplePool
        (RelayHealth.runtimeSnapshot 2000 30 sampleHealth) .disabled)) = .ok () := by
  refine ((evidence_accepted_when_justified sampleEnv sampleEnv_keepsEnd sampleHealth
    sampleHealth_reached 2000 30 sampleActive samplePool .disabled fastMediaRecord rfl
    (sampleActivate "health-3") sampleAck).mpr fun _ => ⟨?_, by decide⟩).mpr fastMedia_justified
  intro hnative
  exact absurd hnative (by decide)

/-- A relay that is approved without WSS is online, and no inventory without an endpoint for it
shows a version. -/
theorem native_evidence_refused :
    validatePrepare sampleEnv nativeRecord.approved = .ok () ∧
    nativeRecord.state = .claimedPendingHealth ∧
    Justified nativeRecord (sampleActivate "health-0") sampleAck ⟨2, none⟩ samplePool
      (RelayHealth.runtimeSnapshot 2000 30 .initial) ∧
    validateActivationEvidence nativeRecord (sampleActivate "health-0") sampleAck
      (snapshotToJson (buildSnapshot ⟨2, none⟩ samplePool
        (RelayHealth.runtimeSnapshot 2000 30 .initial) .disabled)) =
      .error (healthMismatch
        "The approved Relay has not passed the Native and version health gates.") := by
  refine ⟨rfl, rfl, ?_, rfl⟩
  exact ⟨rfl, rfl, rfl, List.mem_singleton_self _, rfl, .inl rfl⟩

end Starry.Enrollment
