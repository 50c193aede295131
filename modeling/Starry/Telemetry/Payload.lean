import Starry.ConfigStore.Records
import Starry.Hbbr.Load
import Starry.RelayHealth.Probes

/-!
# What HBBR says of itself (`telemetry_payload`)

One JSON object has the totals of the relay, the state of the FastMedia listener and the counters.
HBBS has the same schema written a second time, as a struct that knows no other fields.
-/

open Library

namespace Starry.Telemetry

open Starry.ConfigStore (Value)
open Starry.Hbbr (RelayLoad)
open Starry.RelayHealth (TelemetryEnvelope FastMediaTelemetryEnvelope)

/-! ## The FastMedia listener -/

/-- The flags of `fast_media_relay.rs`. The port is 0 until `spawn` has set it. -/
structure FastMediaListener where
  enabled : Bool
  healthy : Bool
  udpPort : UInt16
deriving DecidableEq, Repr

inductive ListenerMove
  /-- `spawn`, before the relay listens, with a port of `Config::from_env`. -/
  | spawn (udpPort : UInt16)
  /-- `run` has bound its socket. -/
  | bound
  | failed
deriving DecidableEq, Repr

/-- The moves that are left once `spawn` is done and the relay listens. -/
def ListenerMove.ofTask : ListenerMove → Bool
  | .spawn _ => false
  | .bound | .failed => true

namespace FastMediaListener

def init : FastMediaListener := ⟨false, false, 0⟩

def step (s : FastMediaListener) : ListenerMove → Option FastMediaListener
  | .spawn udpPort =>
    if !s.enabled && udpPort != 0 then some { s with enabled := true, udpPort } else none
  | .bound => if s.enabled then some { s with healthy := true } else none
  | .failed => if s.enabled then some { s with healthy := false } else none

/-- The port comes with the flag, and only its task makes the listener healthy. -/
structure Sound (s : FastMediaListener) : Prop where
  port : s.enabled = true → 0 < s.udpPort
  healthy : s.healthy = true → s.enabled = true

theorem sound_init : init.Sound := ⟨nofun, nofun⟩

theorem Sound.step {s t : FastMediaListener} {m : ListenerMove} (hs : s.Sound)
    (h : s.step m = some t) : t.Sound := by
  cases m with
  | spawn udpPort =>
    simp only [FastMediaListener.step] at h
    split at h
    · rename_i hspawn
      cases h
      simp only [Bool.and_eq_true, bne_iff_ne] at hspawn
      exact ⟨fun _ => UInt16.pos_iff_ne_zero.mpr hspawn.2, fun _ => rfl⟩
    · cases h
  | bound =>
    simp only [FastMediaListener.step] at h
    split at h
    · rename_i henabled
      cases h
      exact ⟨hs.port, fun _ => henabled⟩
    · cases h
  | failed =>
    simp only [FastMediaListener.step] at h
    split at h
    · cases h
      exact ⟨hs.port, nofun⟩
    · cases h

theorem sound_reachable {s : FastMediaListener} (h : Reachable (Steps step) init s) : s.Sound :=
  h.invariant sound_init fun _ _ _ hs hn => hs.step hn.2

/-- While the relay listens. -/
abbrev Serving (s t : FastMediaListener) : Prop :=
  Reachable (Guarded step fun _ m => m.ofTask) s t

theorem Sound.serving {s t : FastMediaListener} (hs : s.Sound) (h : Serving s t) : t.Sound :=
  h.invariant hs fun _ _ _ hs hn => hs.step hn.2

theorem serving_keeps {s t : FastMediaListener} (h : Serving s t) :
    t.enabled = s.enabled ∧ t.udpPort = s.udpPort := by
  refine h.invariant (P := fun t => t.enabled = s.enabled ∧ t.udpPort = s.udpPort) ⟨rfl, rfl⟩ ?_
  rintro u m v hu ⟨htask, hstep⟩
  cases m with
  | spawn udpPort => cases htask
  | bound =>
    simp only [step] at hstep
    split at hstep
    · cases hstep
      exact hu
    · cases hstep
  | failed =>
    simp only [step] at hstep
    split at hstep
    · cases hstep
      exact hu
    · cases hstep

end FastMediaListener

/-! ## The values of a payload -/

structure FastMediaCounters where
  activeAllocations : UInt64
  activeStreams : UInt64
  helloAccepted : UInt64
  cookieRejected : UInt64
  bindSucceeded : UInt64
  bindRejected : UInt64
  grantRejected : UInt64
  roleMismatch : UInt64
  sessionMismatch : UInt64
  allocationMismatch : UInt64
  rebinds : UInt64
  forwardedPackets : UInt64
  forwardedBytes : UInt64
  droppedPackets : UInt64
  rateLimited : UInt64
  replayRejected : UInt64
  expiredAllocations : UInt64
  listenerFailures : UInt64
deriving DecidableEq, Repr

structure RelayCounters where
  admissionRejections : UInt64
  probeMalformed : UInt64
  probeUnsupported : UInt64
  probeRateLimited : UInt64
  probeSuccessful : UInt64
  telemetryAuthFailures : UInt64
deriving DecidableEq, Repr

structure StarryRelayLoad where
  loadBasisPoints : Nat
  activeSessions : Nat
  capacitySessions : Nat
  bandwidthBps : Nat
  capacityBandwidthBps : Nat
deriving DecidableEq, Repr

def loadBasisPoints (value capacity : Nat) : Nat :=
  if capacity = 0 then 10000 else min (satMul value 10000 / capacity) 10000

def currentRelayLoad (activeSessions bandwidthBps : Nat)
    (maxRelaySessions totalBandwidth : UInt64) : StarryRelayLoad :=
  let capacitySessions := max maxRelaySessions.toNat 1
  let capacityBandwidthBps := max totalBandwidth.toNat 1
  { loadBasisPoints := max (loadBasisPoints activeSessions capacitySessions)
      (loadBasisPoints bandwidthBps capacityBandwidthBps)
    activeSessions := min activeSessions u32Max
    capacitySessions := min capacitySessions u32Max
    bandwidthBps
    capacityBandwidthBps }

/-- What stays the same while a relay runs. -/
structure Identity where
  processInstanceId : String
  starryVersion : String
  maxRelaySessions : UInt64
deriving DecidableEq, Repr

/-- What a payload finds: the clocks, the totals, the listener, `is_draining` and the counters. -/
structure Reading where
  unixMillis : UInt64
  uptimeSeconds : UInt64
  activeRelaySessions : Nat
  activeRelayBandwidthBps : Nat
  listener : FastMediaListener
  draining : Bool
  pendingRelayPairs : UInt64
  totalBandwidth : UInt64
  counters : RelayCounters
  fastMediaCounters : FastMediaCounters
deriving DecidableEq, Repr

/-- The values of one payload. -/
structure Payload where
  processInstanceId : String
  sequence : Nat
  observedAtUnixMs : Nat
  uptimeSeconds : Nat
  version : String
  load : StarryRelayLoad
  pendingPairs : Nat
  draining : Bool
  admissionOpen : Bool
  counters : RelayCounters
  fastMedia : FastMediaListener
  fastMediaCounters : FastMediaCounters
deriving DecidableEq, Repr

def Reading.payload (r : Reading) (identity : Identity) (sequence : Nat) : Payload :=
  let load := currentRelayLoad r.activeRelaySessions r.activeRelayBandwidthBps
    identity.maxRelaySessions r.totalBandwidth
  { processInstanceId := identity.processInstanceId
    sequence
    observedAtUnixMs := r.unixMillis.toNat
    uptimeSeconds := r.uptimeSeconds.toNat
    version := identity.starryVersion
    load
    pendingPairs := min r.pendingRelayPairs.toNat u32Max
    draining := r.draining
    admissionOpen := !r.draining && decide (load.activeSessions < load.capacitySessions)
    counters := r.counters
    fastMedia := r.listener
    fastMediaCounters := r.fastMediaCounters }

/-! ## The JSON object -/

/-- The fields of `fast_media`, in the order of their names as the map keeps them. -/
def fastMediaFields (t : Payload) : List (String × Value) :=
  [("active_allocations", .uint t.fastMediaCounters.activeAllocations.toNat),
    ("active_streams", .uint t.fastMediaCounters.activeStreams.toNat),
    ("allocation_mismatch", .uint t.fastMediaCounters.allocationMismatch.toNat),
    ("bind_rejected", .uint t.fastMediaCounters.bindRejected.toNat),
    ("bind_succeeded", .uint t.fastMediaCounters.bindSucceeded.toNat),
    ("cookie_rejected", .uint t.fastMediaCounters.cookieRejected.toNat),
    ("dropped_packets", .uint t.fastMediaCounters.droppedPackets.toNat),
    ("enabled", .bool t.fastMedia.enabled),
    ("expired_allocations", .uint t.fastMediaCounters.expiredAllocations.toNat),
    ("forwarded_bytes", .uint t.fastMediaCounters.forwardedBytes.toNat),
    ("forwarded_packets", .uint t.fastMediaCounters.forwardedPackets.toNat),
    ("grant_rejected", .uint t.fastMediaCounters.grantRejected.toNat),
    ("healthy", .bool t.fastMedia.healthy),
    ("hello_accepted", .uint t.fastMediaCounters.helloAccepted.toNat),
    ("listener_failures", .uint t.fastMediaCounters.listenerFailures.toNat),
    ("protocol", .uint 1),
    ("rate_limited", .uint t.fastMediaCounters.rateLimited.toNat),
    ("rebinds", .uint t.fastMediaCounters.rebinds.toNat),
    ("replay_rejected", .uint t.fastMediaCounters.replayRejected.toNat),
    ("role_mismatch", .uint t.fastMediaCounters.roleMismatch.toNat),
    ("session_mismatch", .uint t.fastMediaCounters.sessionMismatch.toNat),
    ("udp_port", .uint t.fastMedia.udpPort.toNat)]

def telemetryFields (t : Payload) : List (String × Value) :=
  [("active_sessions", .uint t.load.activeSessions),
    ("admission_open", .bool t.admissionOpen),
    ("admission_rejections", .uint t.counters.admissionRejections.toNat),
    ("bandwidth_bps", .uint t.load.bandwidthBps),
    ("bandwidth_ema_alpha_basis_points", .uint 2500),
    ("capacity_bandwidth_bps", .uint t.load.capacityBandwidthBps),
    ("capacity_sessions", .uint t.load.capacitySessions),
    ("draining", .bool t.draining),
    ("fast_media", .object (fastMediaFields t)),
    ("load_basis_points", .uint t.load.loadBasisPoints),
    ("observed_at_unix_ms", .uint t.observedAtUnixMs),
    ("pending_pairs", .uint t.pendingPairs),
    ("probe_malformed", .uint t.counters.probeMalformed.toNat),
    ("probe_rate_limited", .uint t.counters.probeRateLimited.toNat),
    ("probe_successful", .uint t.counters.probeSuccessful.toNat),
    ("probe_unsupported", .uint t.counters.probeUnsupported.toNat),
    ("process_instance_id", .string t.processInstanceId),
    ("relay_load_protocol", .uint 1),
    ("relay_probe_protocol", .uint 1),
    ("sequence", .uint t.sequence),
    ("telemetry_auth_failures", .uint t.counters.telemetryAuthFailures.toNat),
    ("telemetry_schema", .uint 2),
    ("uptime_seconds", .uint t.uptimeSeconds),
    ("version", .string t.version)]

def Payload.toValue (t : Payload) : Value := .object (telemetryFields t)

/-! ## The schema of HBBS -/

/-- The types that the structs of HBBS give their fields. -/
inductive FieldType
  | u16 | u32 | u64 | bool | string
  /-- A field with a default, of a struct of its own. -/
  | optional
deriving DecidableEq, Repr

def FieldType.accepts : FieldType → Value → Bool
  | .u16, .uint n => decide (n < 2 ^ 16)
  | .u32, .uint n => decide (n < 2 ^ 32)
  | .u64, .uint n => decide (n < 2 ^ 64)
  | .bool, .bool _ => true
  | .string, .string _ => true
  | .optional, _ => true
  | _, _ => false

abbrev Schema := List (String × FieldType)

/-- The fields of an object are those of a struct that denies unknown fields: none is there twice,
and none without a default is missing. -/
def Schema.accepts (schema : Schema) : Value → Bool
  | .object fields =>
    decide (fields.map Prod.fst).Nodup &&
      fields.all (fun f => (schema.lookup f.1).any fun type => type.accepts f.2) &&
      schema.all fun s => s.2 == .optional || fields.any fun f => f.1 == s.1
  | _ => false

/-- `FastMediaTelemetryEnvelope` -/
def fastMediaSchema : Schema :=
  [("active_allocations", .u64), ("active_streams", .u64), ("allocation_mismatch", .u64),
    ("bind_rejected", .u64), ("bind_succeeded", .u64), ("cookie_rejected", .u64),
    ("dropped_packets", .u64), ("enabled", .bool), ("expired_allocations", .u64),
    ("forwarded_bytes", .u64), ("forwarded_packets", .u64), ("grant_rejected", .u64),
    ("healthy", .bool), ("hello_accepted", .u64), ("listener_failures", .u64), ("protocol", .u32),
    ("rate_limited", .u64), ("rebinds", .u64), ("replay_rejected", .u64), ("role_mismatch", .u64),
    ("session_mismatch", .u64), ("udp_port", .u16)]

/-- `TelemetryEnvelope` -/
def telemetrySchema : Schema :=
  [("active_sessions", .u32), ("admission_open", .bool), ("admission_rejections", .u64),
    ("bandwidth_bps", .u64), ("bandwidth_ema_alpha_basis_points", .u32),
    ("capacity_bandwidth_bps", .u64), ("capacity_sessions", .u32), ("draining", .bool),
    ("fast_media", .optional), ("load_basis_points", .u32), ("observed_at_unix_ms", .u64),
    ("pending_pairs", .u32), ("probe_malformed", .u64), ("probe_rate_limited", .u64),
    ("probe_successful", .u64), ("probe_unsupported", .u64), ("process_instance_id", .string),
    ("relay_load_protocol", .u32), ("relay_probe_protocol", .u32), ("sequence", .u64),
    ("telemetry_auth_failures", .u64), ("telemetry_schema", .u32), ("uptime_seconds", .u64),
    ("version", .string)]

/-! ## The envelope -/

def fastMediaOfValue (v : Value) : Option FastMediaTelemetryEnvelope := do
  guard (fastMediaSchema.accepts v)
  return {
    protocol := ← (← v.get "protocol").asU64
    enabled := ← (← v.get "enabled").asBool
    healthy := ← (← v.get "healthy").asBool
    udpPort := UInt16.ofNat (← (← v.get "udp_port").asU64) }

def envelopeOfValue (v : Value) : Option TelemetryEnvelope := do
  guard (telemetrySchema.accepts v)
  let fastMedia ← match v.get "fast_media" with
    | none | some .null => some none
    | some value => (fastMediaOfValue value).map some
  return {
    telemetrySchema := ← (← v.get "telemetry_schema").asU64
    processInstanceId := ← (← v.get "process_instance_id").asStr
    sequence := ← (← v.get "sequence").asU64
    observedAtUnixMs := ← (← v.get "observed_at_unix_ms").asU64
    uptimeSeconds := ← (← v.get "uptime_seconds").asU64
    version := ← (← v.get "version").asStr
    relayProbeProtocol := ← (← v.get "relay_probe_protocol").asU64
    relayLoadProtocol := ← (← v.get "relay_load_protocol").asU64
    loadBasisPoints := ← (← v.get "load_basis_points").asU64
    activeSessions := ← (← v.get "active_sessions").asU64
    capacitySessions := ← (← v.get "capacity_sessions").asU64
    bandwidthEmaAlphaBasisPoints := ← (← v.get "bandwidth_ema_alpha_basis_points").asU64
    capacityBandwidthBps := ← (← v.get "capacity_bandwidth_bps").asU64
    draining := ← (← v.get "draining").asBool
    admissionOpen := ← (← v.get "admission_open").asBool
    fastMedia }

/-- What a payload is for HBBS. -/
def Payload.envelope (t : Payload) : TelemetryEnvelope where
  telemetrySchema := 2
  processInstanceId := t.processInstanceId
  sequence := t.sequence
  observedAtUnixMs := t.observedAtUnixMs
  uptimeSeconds := t.uptimeSeconds
  version := t.version
  relayProbeProtocol := 1
  relayLoadProtocol := 1
  loadBasisPoints := t.load.loadBasisPoints
  activeSessions := t.load.activeSessions
  capacitySessions := t.load.capacitySessions
  bandwidthEmaAlphaBasisPoints := 2500
  capacityBandwidthBps := t.load.capacityBandwidthBps
  draining := t.draining
  admissionOpen := t.admissionOpen
  fastMedia := some ⟨1, t.fastMedia.enabled, t.fastMedia.healthy, t.fastMedia.udpPort⟩

/-! ## What every payload keeps to -/

/-- Another payload has another object. -/
theorem toValue_injective : Function.Injective Payload.toValue := by
  intro t u h
  obtain ⟨id, sequence, observed, uptime, version, ⟨basis, active, capacity, bandwidth, limit⟩,
    pending, draining, opened, ⟨⟩, ⟨⟩, ⟨⟩⟩ := t
  obtain ⟨id', sequence', observed', uptime', version', ⟨basis', active', capacity', bandwidth',
    limit'⟩, pending', draining', opened', ⟨⟩, ⟨⟩, ⟨⟩⟩ := u
  simp only [Payload.toValue, telemetryFields, fastMediaFields, Value.object.injEq,
    List.cons.injEq, Prod.mk.injEq, Value.uint.injEq, Value.bool.injEq, Value.string.injEq,
    UInt64.toNat_inj, UInt16.toNat_inj, true_and, and_true] at h
  simp only [Payload.mk.injEq, StarryRelayLoad.mk.injEq, RelayCounters.mk.injEq,
    FastMediaListener.mk.injEq, FastMediaCounters.mk.injEq]
  tauto

structure Payload.Sound (t : Payload) : Prop where
  sequence : 0 < t.sequence ∧ t.sequence ≤ u64Max
  observed : t.observedAtUnixMs ≤ u64Max
  uptime : t.uptimeSeconds ≤ u64Max
  basis : t.load.loadBasisPoints ≤ 10000
  sessions : t.load.activeSessions ≤ t.load.capacitySessions
  capacity : 0 < t.load.capacitySessions ∧ t.load.capacitySessions ≤ u32Max
  bandwidth : t.load.bandwidthBps ≤ u64Max
  limit : 0 < t.load.capacityBandwidthBps ∧ t.load.capacityBandwidthBps ≤ u64Max
  pending : t.pendingPairs ≤ u32Max
  admission : t.admissionOpen =
    (!t.draining && decide (t.load.activeSessions < t.load.capacitySessions))
  listener : t.fastMedia.Sound

/-- The totals of a relay: no more sessions than it has room for, and a bandwidth in a `usize`. -/
structure LoadSound (maxRelaySessions : UInt64) (load : RelayLoad) : Prop where
  sessions : load.activeRelaySessions ≤ max 1 maxRelaySessions.toNat
  bandwidth : load.activeRelayBandwidthBps ≤ u64Max

section

variable {maxRelaySessions : UInt64} {s t : RelayLoad}

theorem loadSound_advance (hs : LoadSound maxRelaySessions s) {k : Nat}
    {guard : Hbbr.RelayLoadGuard} (h : s.advance k guard = some t) :
    LoadSound maxRelaySessions t := by
  have hbandwidth := hs.bandwidth
  have hsessions := hs.sessions
  unfold u64Max at hbandwidth
  cases guard with
  | held bandwidthBps => cases h
  | dropped => cases h
  | averaged bandwidthBps average =>
    cases h
    refine ⟨hsessions, ?_⟩
    dsimp only [u64Max]
    split
    · unfold Hbbr.fetchAdd
      omega
    · unfold Hbbr.atomicSaturatingSub
      omega
  | adjusted bandwidthBps average =>
    cases h
    exact ⟨hsessions, hs.bandwidth⟩
  | dropping bandwidthBps =>
    cases h
    refine ⟨hsessions, ?_⟩
    dsimp only [u64Max, Hbbr.atomicSaturatingSub]
    omega
  | released =>
    cases h
    refine ⟨?_, hs.bandwidth⟩
    dsimp only [Hbbr.atomicSaturatingSub]
    omega

theorem loadSound_step (hs : LoadSound maxRelaySessions s) {m : Hbbr.LoadStep}
    (h : s.step maxRelaySessions m = some t) : LoadSound maxRelaySessions t := by
  cases m with
  | tryNew draining =>
    cases h
    unfold RelayLoad.tryNew
    split
    · exact hs
    · split
      · rename_i hroom
        refine ⟨(Nat.min_le_left _ _).trans ?_, hs.bandwidth⟩
        omega
      · exact hs
  | update k sampleBps =>
    simp only [RelayLoad.step] at h
    split at h
    · cases h
      exact ⟨hs.sessions, hs.bandwidth⟩
    · cases h
  | drop k =>
    simp only [RelayLoad.step] at h
    split at h
    · cases h
      exact ⟨hs.sessions, hs.bandwidth⟩
    · cases h
  | advance k =>
    obtain ⟨guard, -, h⟩ := Option.bind_eq_some_iff.mp h
    exact loadSound_advance hs h

/-- Whatever the sums of the bandwidths come to. -/
theorem loadSound_reachable (h : Reachable (Steps (RelayLoad.step maxRelaySessions)) .init s) :
    LoadSound maxRelaySessions s :=
  h.invariant (P := LoadSound maxRelaySessions) ⟨Nat.zero_le _, Nat.zero_le _⟩
    fun _ _ _ hs hn => loadSound_step hs hn.2

end

theorem loadBasisPoints_le (value capacity : Nat) : loadBasisPoints value capacity ≤ 10000 := by
  unfold loadBasisPoints
  split
  · exact le_rfl
  · exact Nat.min_le_right _ _

theorem toNat_le_u64Max (n : UInt64) : n.toNat ≤ u64Max := by
  have hlt := n.toNat_lt
  unfold u64Max
  omega

/-- Every value is one that the relay had at the moment it was read. No two are read at once. -/
structure Reading.Found (r : Reading) (identity : Identity) : Prop where
  sessions : ∃ s, Reachable (Steps (RelayLoad.step identity.maxRelaySessions)) .init s ∧
    r.activeRelaySessions = s.activeRelaySessions
  bandwidth : ∃ s, Reachable (Steps (RelayLoad.step identity.maxRelaySessions)) .init s ∧
    r.activeRelayBandwidthBps = s.activeRelayBandwidthBps
  listener : ∃ started s t u : FastMediaListener,
    Reachable (Steps FastMediaListener.step) .init started ∧
    started.Serving s ∧ started.Serving t ∧ started.Serving u ∧
    r.listener = ⟨t.enabled, u.healthy, s.udpPort⟩

theorem Reading.Found.listener_sound {r : Reading} {identity : Identity} (h : r.Found identity) :
    r.listener.Sound := by
  obtain ⟨started, s, t, u, hstarted, hs, ht, hu, hlistener⟩ := h.listener
  obtain ⟨henabled, hport⟩ := FastMediaListener.serving_keeps hu
  -- The flag and the port that were read before are still those of the last moment.
  have hlast : r.listener = u := by
    rw [hlistener, (FastMediaListener.serving_keeps ht).1, (FastMediaListener.serving_keeps hs).2,
      ← henabled, ← hport]
  rw [hlast]
  exact (FastMediaListener.sound_reachable hstarted).serving hu

theorem payload_sound {r : Reading} {identity : Identity} (h : r.Found identity) {sequence : Nat}
    (hsequence : 0 < sequence ∧ sequence ≤ u64Max) : (r.payload identity sequence).Sound := by
  obtain ⟨s, hs, hactive⟩ := h.sessions
  obtain ⟨t, ht, hbandwidth⟩ := h.bandwidth
  have hsessions := (loadSound_reachable hs).sessions
  rw [← hactive] at hsessions
  constructor
  · exact hsequence
  · exact toNat_le_u64Max _
  · exact toNat_le_u64Max _
  · exact Nat.max_le.mpr ⟨loadBasisPoints_le _ _, loadBasisPoints_le _ _⟩
  · dsimp only [Reading.payload, currentRelayLoad]
    omega
  · dsimp only [Reading.payload, currentRelayLoad, u32Max]
    omega
  · exact hbandwidth.le.trans (loadSound_reachable ht).bandwidth
  · have hlimit := toNat_le_u64Max r.totalBandwidth
    dsimp only [Reading.payload, currentRelayLoad]
    unfold u64Max at hlimit ⊢
    omega
  · exact Nat.min_le_right _ _
  · rfl
  · exact h.listener_sound

end Starry.Telemetry
