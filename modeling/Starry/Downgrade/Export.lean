import Starry.Config.Document
import Starry.Downgrade.Drain

/-!
# Exporting a document for schema version 4 (`config_downgrade.rs`)

The export removes the fields of version 5 from the untyped document and lets the typed validation
judge what it wrote. YAML, JSON, certificates and the file system are the parts of `Env`.
-/

namespace Starry.ConfigStore.Value

/-! ## Editing a value -/

/-- `Map::remove` on an object. -/
def remove (key : String) : Value → Value
  | .object fields => .object (fields.filter fun field => field.1 != key)
  | other => other

def modify (key : String) (f : Value → Value) : Value → Value
  | .object fields => .object (fields.map fun field =>
      if field.1 = key then (field.1, f field.2) else field)
  | other => other

/-- `Value::pointer`, by the keys of the pointer. -/
def pointer : List String → Value → Option Value
  | [], v => some v
  | key :: path, v => (v.get key).bind (pointer path)

/-- An edit through `Value::pointer_mut`. -/
def edit : List String → (Value → Value) → Value → Value
  | [], f => f
  | key :: path, f => modify key (edit path f)

def mapItems (f : Value → Value) : Value → Value
  | .array items => .array (items.map f)
  | other => other

theorem lookup_cons_eq (key : String) (field : String × Value) (rest : List (String × Value)) :
    (field :: rest).lookup key = if key = field.1 then some field.2 else rest.lookup key := by
  rw [List.lookup_cons]
  by_cases hkey : key = field.1
  · simp [hkey]
  · rw [beq_false_of_ne hkey, if_neg hkey]

theorem lookup_remove (key key' : String) (fields : List (String × Value)) :
    (fields.filter fun field => field.1 != key).lookup key' =
      if key' = key then none else fields.lookup key' := by
  induction fields with
  | nil => simp
  | cons field rest ih =>
    by_cases hfield : field.1 = key
    · rw [List.filter_cons_of_neg (by simp [hfield]), ih, lookup_cons_eq, hfield]
      split <;> rfl
    · rw [List.filter_cons_of_pos (by simp [hfield]), lookup_cons_eq, lookup_cons_eq, ih]
      by_cases hkey : key' = field.1
      · rw [if_pos hkey, if_pos hkey, if_neg (hkey ▸ hfield)]
      · rw [if_neg hkey, if_neg hkey]

theorem lookup_modify (key key' : String) (f : Value → Value) (fields : List (String × Value)) :
    (fields.map fun field => if field.1 = key then (field.1, f field.2) else field).lookup key' =
      if key' = key then (fields.lookup key).map f else fields.lookup key' := by
  induction fields with
  | nil => simp
  | cons field rest ih =>
    rw [List.map_cons, lookup_cons_eq, lookup_cons_eq, lookup_cons_eq, ih]
    by_cases hfield : field.1 = key
    · subst hfield
      by_cases hkey : key' = field.1 <;> simp [hkey]
    · rw [if_neg hfield]
      by_cases hkey : key' = key
      · subst hkey
        simp [Ne.symm hfield]
      · simp only [if_neg hkey]

@[simp] theorem get_remove (key key' : String) (v : Value) :
    (v.remove key).get key' = if key' = key then none else v.get key' := by
  cases v with
  | object fields => exact lookup_remove key key' fields
  | _ => simp [remove, get]

@[simp] theorem get_modify (key key' : String) (f : Value → Value) (v : Value) :
    (v.modify key f).get key' = if key' = key then (v.get key).map f else v.get key' := by
  cases v with
  | object fields => exact lookup_modify key key' f fields
  | _ => simp [modify, get]

theorem get_insert {key : String} {x v v' : Value} (h : insert key x v = some v') (key' : String) :
    v'.get key' = if key' = key then some x else v.get key' := by
  cases v with
  | object fields =>
    cases h
    simp only [get, lookup_cons_eq, lookup_remove]
    split <;> rfl
  | _ => cases h

end Starry.ConfigStore.Value

open Starry.ConfigStore (Value)

namespace Starry.Downgrade

open Starry.Config (ensure parseDocument validateConfig maxConfigBytes)

def minimumRollbackCertificateSeconds : Nat := 90 * 24 * 60 * 60

structure DowngradeOptions where
  input : String
  output : Option String
  runtimeState : Option String
  runtimeStateValue : Option Value
  certificates : List String

structure DowngradeReport where
  fromSchema : Nat
  toSchema : Nat
  ready : Bool
  blockers : List String
  removedJsonPointers : List String
  certificateWindowSeconds : Nat
  output : Option String
  document : Bytes
deriving DecidableEq, Repr

structure Env extends Config.Env where
  /-- `serde_yml::from_slice` of a `serde_json::Value` -/
  readValue : Bytes → Option Value
  /-- `serde_yml::to_string` -/
  write : Value → Option Bytes
  /-- `serde_json::from_slice` -/
  readJson : Bytes → Option Value
  /-- The times of a PEM certificate, from and to. -/
  readCertificate : Bytes → Option (Int × Int)
  /-- `validate_regular_file` of a path and a size. -/
  validateRegularFile : String → Nat → Except String Unit
  readFile : String → Option Bytes
  atomicCreate : String → Bytes → Except String Unit

/-! ## Removing fields -/

/-- The text of a JSON pointer whose keys need no escape. -/
def pointerText (path : List String) : String := String.join (path.map fun key => "/" ++ key)

def removeObjectKey (path : List String) (key : String) (document : Value × List String) :
    Value × List String :=
  (document.1.edit path (Value.remove key),
    if ((document.1.pointer path).bind (Value.get key)).isSome then
      document.2 ++ [pointerText (path ++ [key])]
    else document.2)

def relayPath : List String := ["fast_mode", "relay"]
def endpointsPath : List String := ["websocket_signal", "relay_health", "endpoints"]
def udpPortKey : String := "fast_media_udp_port"

/-- The loop over the endpoints, if there is an array. -/
def removeUdpPorts (document : Value × List String) : Value × List String :=
  (document.1.edit endpointsPath (Value.mapItems (Value.remove udpPortKey)),
    document.2 ++ (((document.1.pointer endpointsPath).bind Value.asArray).getD []).zipIdx.filterMap
      fun item =>
        if (item.1.get udpPortKey).isSome then
          some (pointerText (endpointsPath ++ [toString item.2, udpPortKey]))
        else none)

def removeV5OnlyFields (document : Value) : Value × List String :=
  removeUdpPorts (removeObjectKey relayPath "relay_max_datagram"
    (removeObjectKey relayPath "fast_media_v1_enabled" (document, [])))

/-- The document that is exported. -/
def exported (document : Value) : Value :=
  -- `document["version"] = ..`; the document is an object, it has a version.
  (Value.insert "version" (.uint 4) (removeV5OnlyFields document).1).getD .null

/-! ## Blockers -/

/-- `ok_or` with a code. -/
def orCode {α : Type} (code : String) : Option α → Except String α
  | some x => .ok x
  | none => .error code

theorem orCode_ok {α : Type} {code : String} {o : Option α} {x : α} :
    orCode code o = .ok x ↔ o = some x := by
  cases o <;> simp [orCode]

def featureBlockers (document : Value) : List String :=
  (if (document.pointer ["fast_mode", "relay", "fast_media_v1_enabled"]).bind Value.asBool ==
      some true
    then ["fast_media_must_be_disabled_before_downgrade"] else []) ++
  (if (document.pointer ["fast_mode", "relay", "fast_compat_enabled"]).bind Value.asBool ==
        some true &&
      (document.pointer ["relay_quality", "enabled"]).bind Value.asBool != some true
    then ["schema_v4_fast_compat_requires_relay_quality"] else [])

/-- Sorted, each once. -/
def sortDedup (blockers : List String) : List String :=
  (blockers.mergeSort fun a b => decide (a ≤ b)).destutter (· ≠ ·)

section

variable (env : Env)

def readDrainState (path : String) : Except String DrainState := do
  env.validateRegularFile path (64 * 1024)
  match env.readFile path with
  | none => .error "drain_state_unreadable"
  | some bytes =>
    match env.readJson bytes with
    | none => .error "drain_state_invalid"
    | some value => parseDrainState value

def drainStateOf (options : DowngradeOptions) : Except String DrainState :=
  match options.runtimeStateValue, options.runtimeState with
  | some value, _ => parseDrainState value
  | none, some path => readDrainState env path
  | none, none => .error "fast_media_drain_state_required"

def certificateRemainingSeconds (now : Nat) (path : String) : Except String Nat := do
  env.validateRegularFile path (1024 * 1024)
  match env.readFile path with
  | none => .error "rollback_certificate_unreadable"
  | some bytes =>
    match env.readCertificate bytes with
    | none => .error "rollback_certificate_invalid"
    | some (notBefore, expiry) =>
      if notBefore < 0 ∨ expiry ≤ 0 ∨ now < notBefore.toNat then
        .error "rollback_certificate_invalid"
      else .ok (expiry.toNat - now)

def certificateBlocker : Except String Nat → List String
  | .ok remaining =>
    if remaining < minimumRollbackCertificateSeconds then
      ["rollback_certificate_window_below_90_days"]
    else []
  | .error code => [code]

def certificateBlockers (now : Nat) (certificates : List String) : List String :=
  (if certificates.isEmpty then ["rollback_certificate_set_required"] else []) ++
    certificates.flatMap fun path => certificateBlocker (certificateRemainingSeconds env now path)

/-- `minimum_remaining`, starting from `u64::MAX`. -/
def certificateWindow (now : Nat) (certificates : List String) : Nat :=
  let minimum := certificates.foldl (fun minimum path =>
    match certificateRemainingSeconds env now path with
    | .ok remaining => min minimum remaining
    | .error _ => minimum) u64Max
  if minimum = u64Max then 0 else minimum

/-- What the validation says of the text that was written. -/
def validationBlockers (text : Bytes) : List String :=
  match parseDocument env.toEnv text >>= validateConfig env.toEnv with
  | .ok _ => []
  | .error diagnostics =>
    if diagnostics.errors.isEmpty then ["schema_v4_export_validation_failed"]
    else (diagnostics.errors.take 16).map fun error => "schema_v4_validation:" ++ error.code

def exportBlockers (now : Nat) (options : DowngradeOptions) (document : Value) (text : Bytes) :
    List String :=
  sortDedup (featureBlockers document ++ drainBlockers now (drainStateOf env options) ++
    certificateBlockers env now options.certificates ++ validationBlockers env text)

def writeOutput (text : Bytes) (blockers : List String) : Option String → Except String Unit
  | none => .ok ()
  | some path => do
    ensure blockers.isEmpty ("downgrade_blocked:" ++ String.intercalate "," blockers)
    env.atomicCreate path text

def previewOrExport (now : Nat) (options : DowngradeOptions) : Except String DowngradeReport := do
  env.validateRegularFile options.input maxConfigBytes
  let raw ← orCode "downgrade_input_unreadable" (env.readFile options.input)
  let document ← orCode "downgrade_input_yaml_invalid" (env.readValue raw)
  ensure ((document.get "version").bind Value.asU64 == some 5)
    "downgrade_requires_schema_v5_input"
  let text ← orCode "downgrade_export_serialization_failed" (env.write (exported document))
  let blockers := exportBlockers env now options document text
  writeOutput env text blockers options.output
  return { fromSchema := 5, toSchema := 4, ready := blockers.isEmpty, blockers
           removedJsonPointers := (removeV5OnlyFields document).2
           certificateWindowSeconds := certificateWindow env now options.certificates
           output := options.output, document := text }

end

end Starry.Downgrade
