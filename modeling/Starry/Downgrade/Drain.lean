import Starry.Basic
import Starry.ConfigStore.Records

/-!
# Drain evidence (`control_agent.rs`, `config_downgrade.rs`)

Before a document is exported for an older schema, the agent asks HBBS what is left of FastMedia.
The answer is reduced to a drain state, and the export reads its blockers from that.
-/

open Starry.ConfigStore (Value)

namespace Starry.Downgrade

def isNull : Value → Bool
  | .null => true
  | _ => false

def isObject : Value → Bool
  | .object _ => true
  | _ => false

/-! ## The agent's side -/

/-- `ok_or_else`, with the code of a snapshot that is not as expected. -/
def orInvalid {α : Type} : Option α → Except String α
  | some x => .ok x
  | none => .error "fast_media_drain_runtime_invalid"

def orIncomplete {α : Type} : Option α → Except String α
  | some x => .ok x
  | none => .error "fast_media_drain_telemetry_incomplete"

def checkedAdd (x y : Nat) : Option Nat := if x + y ≤ u64Max then some (x + y) else none

/-- One relay of the snapshot, added to the allocations and streams so far. -/
def addRelay (active : Nat × Nat) (relay : Value) : Except String (Nat × Nat) := do
  let fastMedia ← orInvalid ((relay.get "fast_media_udp").filter isObject)
  let configured := ((fastMedia.get "configured_port").any fun value => !isNull value) ||
    (fastMedia.get "enabled").bind Value.asBool == some true
  if !configured then return active
  -- `relay.pointer("/websocket/stale")`
  if ((relay.get "websocket").bind (Value.get "stale")).bind Value.asBool != some false then
    throw "fast_media_drain_telemetry_stale"
  let allocations ← orIncomplete ((fastMedia.get "active_allocations").bind Value.asU64)
  let streams ← orIncomplete ((fastMedia.get "active_streams").bind Value.asU64)
  let activeAllocations ← orInvalid (checkedAdd active.1 allocations)
  let activeStreams ← orInvalid (checkedAdd active.2 streams)
  return (activeAllocations, activeStreams)

def fastMediaDrainStateFromSnapshot (snapshot : Value) (observedAtUnix : Nat) :
    Except String Value := do
  let fastRelay ← orInvalid ((snapshot.get "fast_relay").filter isObject)
  let runtimeEnabled ← orInvalid ((fastRelay.get "fast_media_v1_enabled").bind Value.asBool)
  let activeAuthorizations ←
    orInvalid ((fastRelay.get "active_fast_media_authorizations").bind Value.asU64)
  let lastExpiry ← orInvalid
    ((fastRelay.get "last_fast_media_authorization_expires_at_unix").bind Value.asU64)
  let relays ← orInvalid (((snapshot.get "relays").bind Value.asArray).filter fun relays =>
    decide (relays.length ≤ 4096))
  let (activeAllocations, activeStreams) ← relays.foldlM addRelay (0, 0)
  return .object [
    ("version", .uint 1),
    ("observed_at_unix", .uint observedAtUnix),
    ("fast_media_runtime_enabled", .bool runtimeEnabled),
    ("fast_media_active_allocations", .uint activeAllocations),
    ("fast_media_active_authorizations", .uint activeAuthorizations),
    ("fast_media_active_streams", .uint activeStreams),
    ("last_fast_media_authorization_expires_at_unix", .uint lastExpiry)]

/-! ## The export's side -/

structure DrainState where
  version : Nat
  observedAtUnix : Nat
  fastMediaRuntimeEnabled : Bool
  fastMediaActiveAllocations : Nat
  fastMediaActiveAuthorizations : Nat
  fastMediaActiveStreams : Nat
  lastFastMediaAuthorizationExpiresAtUnix : Nat
deriving DecidableEq, Repr

/-- The fields of a `DrainState`, in order. -/
def drainFields : List String :=
  ["version", "observed_at_unix", "fast_media_runtime_enabled", "fast_media_active_allocations",
    "fast_media_active_authorizations", "fast_media_active_streams",
    "last_fast_media_authorization_expires_at_unix"]

/-- What `serde` reads the fields of a struct from: an object without unknown keys, or the fields
in order. -/
def structFields (known : List String) : Value → Option (List (String × Value))
  | .object fields => if fields.all fun field => known.contains field.1 then some fields else none
  | .array items => if items.length = known.length then some (known.zip items) else none
  | _ => none

def DrainState.ofFields (fields : List (String × Value)) : Option DrainState := do
  let version ← (fields.lookup "version").bind Value.asU64
  let observedAtUnix ← (fields.lookup "observed_at_unix").bind Value.asU64
  let fastMediaRuntimeEnabled ← (fields.lookup "fast_media_runtime_enabled").bind Value.asBool
  let fastMediaActiveAllocations ←
    (fields.lookup "fast_media_active_allocations").bind Value.asU64
  let fastMediaActiveAuthorizations ←
    (fields.lookup "fast_media_active_authorizations").bind Value.asU64
  let fastMediaActiveStreams ← (fields.lookup "fast_media_active_streams").bind Value.asU64
  let lastFastMediaAuthorizationExpiresAtUnix ←
    (fields.lookup "last_fast_media_authorization_expires_at_unix").bind Value.asU64
  -- `version` is a `u32`.
  if version ≤ u32Max then
    some { version, observedAtUnix, fastMediaRuntimeEnabled, fastMediaActiveAllocations,
           fastMediaActiveAuthorizations, fastMediaActiveStreams,
           lastFastMediaAuthorizationExpiresAtUnix }
  else none

def parseDrainState (value : Value) : Except String DrainState :=
  match (structFields drainFields value).bind DrainState.ofFields with
  | some state => .ok state
  | none => .error "drain_state_invalid"

/-- The blockers of `preview_or_export` that come from the drain state. -/
def drainBlockers (now : Nat) : Except String DrainState → List String
  | .error code => [code]
  | .ok state =>
    (if state.version ≠ 1 ∨ state.observedAtUnix > satAdd now 30 ∨ now - state.observedAtUnix > 60
      then ["fast_media_drain_state_is_stale"] else []) ++
    (if state.fastMediaActiveAllocations ≠ 0 ∨ state.fastMediaActiveAuthorizations ≠ 0 ∨
        state.fastMediaActiveStreams ≠ 0
      then ["fast_media_is_not_drained"] else []) ++
    (if state.fastMediaRuntimeEnabled then ["fast_media_runtime_must_be_disabled"] else []) ++
    (if state.lastFastMediaAuthorizationExpiresAtUnix > now
      then ["fast_media_authorization_ttl_not_elapsed"] else [])

/-! ## From one side to the other -/

/-- What the agent makes of a snapshot. -/
theorem fastMediaDrainState_ok {snapshot value : Value} {observed : Nat}
    (h : fastMediaDrainStateFromSnapshot snapshot observed = .ok value) :
    ∃ fastRelay enabled authorizations expiry allocations streams,
      snapshot.get "fast_relay" = some fastRelay ∧
      (fastRelay.get "fast_media_v1_enabled").bind Value.asBool = some enabled ∧
      (fastRelay.get "active_fast_media_authorizations").bind Value.asU64 = some authorizations ∧
      (fastRelay.get "last_fast_media_authorization_expires_at_unix").bind Value.asU64 =
        some expiry ∧
      value = .object [
        ("version", .uint 1),
        ("observed_at_unix", .uint observed),
        ("fast_media_runtime_enabled", .bool enabled),
        ("fast_media_active_allocations", .uint allocations),
        ("fast_media_active_authorizations", .uint authorizations),
        ("fast_media_active_streams", .uint streams),
        ("last_fast_media_authorization_expires_at_unix", .uint expiry)] := by
  have hvalid : ∀ {α : Type} {o : Option α} {x : α}, orInvalid o = .ok x → o = some x := by
    rintro α (_ | y) x h
    · cases h
    · cases h
      rfl
  unfold fastMediaDrainStateFromSnapshot at h
  obtain ⟨fastRelay, hrelay, h⟩ := bind_eq_ok.mp h
  obtain ⟨enabled, henabled, h⟩ := bind_eq_ok.mp h
  obtain ⟨authorizations, hauthorizations, h⟩ := bind_eq_ok.mp h
  obtain ⟨expiry, hexpiry, h⟩ := bind_eq_ok.mp h
  obtain ⟨relays, -, h⟩ := bind_eq_ok.mp h
  obtain ⟨⟨allocations, streams⟩, -, h⟩ := bind_eq_ok.mp h
  cases h
  exact ⟨fastRelay, enabled, authorizations, expiry, allocations, streams,
    (Option.filter_eq_some_iff.mp (hvalid hrelay)).1, hvalid henabled, hvalid hauthorizations,
    hvalid hexpiry, rfl⟩

/-- The export reads the state that the agent has made. -/
theorem parseDrainState_made (observed allocations authorizations streams expiry : Nat)
    (enabled : Bool) :
    parseDrainState (.object [
      ("version", .uint 1),
      ("observed_at_unix", .uint observed),
      ("fast_media_runtime_enabled", .bool enabled),
      ("fast_media_active_allocations", .uint allocations),
      ("fast_media_active_authorizations", .uint authorizations),
      ("fast_media_active_streams", .uint streams),
      ("last_fast_media_authorization_expires_at_unix", .uint expiry)]) =
    .ok ⟨1, observed, enabled, allocations, authorizations, streams, expiry⟩ := by
  rfl

/-- A state without blockers shows no authorization. -/
theorem no_authorization {now : Nat} {state : DrainState}
    (h : drainBlockers now (.ok state) = []) : state.fastMediaActiveAuthorizations = 0 := by
  unfold drainBlockers at h
  simp only [List.append_eq_nil_iff] at h
  obtain ⟨⟨⟨_, hdrained⟩, _⟩, _⟩ := h
  split at hdrained
  · cases hdrained
  · rename_i hzero
    push Not at hzero
    exact hzero.2.1

end Starry.Downgrade
