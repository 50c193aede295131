import Starry.Downgrade.Paths

/-!
# Reading the exported document

The typed reading of an edited document is an edit of its typed reading: the fields of version 5 are
as if they had never been written.
-/

open Starry.ConfigStore (Value)

namespace Starry.Config

variable {v : Value}

/-! ## Edits keep the mapping -/

theorem isMapping_remove {known : List String} (h : isMapping known v = true) (key : String) :
    isMapping known (v.remove key) = true := by
  cases v with
  | object fields =>
    refine List.all_eq_true.mpr fun field hmem => ?_
    exact List.all_eq_true.mp h field (List.mem_filter.mp hmem).1
  | _ => cases h

theorem isMapping_modify (known : List String) (v : Value) (key : String) (f : Value → Value) :
    isMapping known (v.modify key f) = isMapping known v := by
  cases v with
  | object fields =>
    simp only [Value.modify, isMapping, List.all_map]
    congr 1
    funext field
    simp only [Function.comp_apply]
    split <;> rfl
  | _ => rfl

theorem isMapping_insert {known : List String} {key : String} {x v' : Value}
    (h : isMapping known v = true) (hkey : key ∈ known) (hinsert : Value.insert key x v = some v') :
    isMapping known v' = true := by
  cases v with
  | object fields =>
    cases hinsert
    refine List.all_eq_true.mpr fun field hmem => ?_
    rcases List.mem_cons.mp hmem with rfl | hmem
    · exact List.contains_iff_mem.mpr hkey
    · exact List.all_eq_true.mp h field (List.mem_filter.mp hmem).1
  | _ => cases hinsert

theorem asList_mapItems {α : Type} {read : Value → Option α} {f : Value → Value} {g : α → α}
    (hf : ∀ v x, read v = some x → read (f v) = some (g x)) (v : Value) (xs : List α)
    (h : asList read v = some xs) : asList read (v.mapItems f) = some (xs.map g) := by
  cases v with
  | array items =>
    simp only [asList, Value.mapItems] at h ⊢
    induction items generalizing xs with
    | nil =>
      cases h
      rfl
    | cons item items ih =>
      simp only [List.mapM_cons, Option.bind_eq_bind, Option.bind_eq_some_iff] at h
      obtain ⟨x, hx, ys, hys, heq⟩ := h
      cases heq
      simp [hf item x hx, ih ys hys]
  | _ => cases h

/-! ## The sections of version 5 -/

def RelayEndpointConfig.erased (endpoint : RelayEndpointConfig) : RelayEndpointConfig :=
  { endpoint with fastMediaUdpPort := none }

def RelayHealthConfig.erased (health : RelayHealthConfig) : RelayHealthConfig :=
  { health with endpoints := health.endpoints.map RelayEndpointConfig.erased }

def WebSocketSignalConfig.erased (config : WebSocketSignalConfig) : WebSocketSignalConfig :=
  { config with relayHealth := config.relayHealth.erased }

def FastRelayConfigWire.erased (relay : FastRelayConfigWire) : FastRelayConfigWire :=
  { relay with fastMediaV1Enabled := none, relayMaxDatagram := none }

def FastModeConfigWire.erased (mode : FastModeConfigWire) : FastModeConfigWire :=
  { mode with relay := mode.relay.erased }

/-- The document as version 4, without the fields of version 5. -/
def StarryConfigWire.erased (wire : StarryConfigWire) : StarryConfigWire :=
  { wire with
    version := 4
    websocketSignal := wire.websocketSignal.map WebSocketSignalConfig.erased
    fastMode := wire.fastMode.map FastModeConfigWire.erased }

theorem RelayEndpointConfig.ofValue_erased (v : Value) (endpoint : RelayEndpointConfig)
    (h : ofValue v = some endpoint) :
    ofValue (v.remove Downgrade.udpPortKey) = some endpoint.erased := by
  unfold ofValue at h ⊢
  simp only [Option.bind_eq_bind, Option.bind_eq_some_iff, Option.guard_eq_some'] at h
  obtain ⟨-, hmapping, relay, hrelay, url, hurl, secret, hsecret, port, hport, heq⟩ := h
  cases heq
  simp [guard, isMapping_remove hmapping, Option.bind_eq_some_iff.mpr hrelay,
    Option.bind_eq_some_iff.mpr hurl, hsecret, erased, Downgrade.udpPortKey]

theorem RelayHealthConfig.ofValue_erased (v : Value) (health : RelayHealthConfig)
    (h : ofValue v = some health) :
    ofValue (v.modify "endpoints" (Value.mapItems (Value.remove Downgrade.udpPortKey))) =
      some health.erased := by
  unfold ofValue at h ⊢
  simp only [Option.bind_eq_bind, Option.bind_eq_some_iff, Option.guard_eq_some'] at h
  obtain ⟨-, hmapping, interval, hinterval, timeout, htimeout, success, hsuccess, failure,
    hfailure, endpoints, hendpoints, heq⟩ := h
  cases heq
  have herased := withDefault_map (g := List.map RelayEndpointConfig.erased) rfl
    (asList_mapItems RelayEndpointConfig.ofValue_erased) hendpoints
  simp [guard, isMapping_modify, hmapping, hinterval, htimeout, hsuccess, hfailure, herased,
    erased]

theorem WebSocketSignalConfig.ofValue_erased (v : Value) (config : WebSocketSignalConfig)
    (h : ofValue v = some config) :
    ofValue (v.edit ["relay_health", "endpoints"]
      (Value.mapItems (Value.remove Downgrade.udpPortKey))) = some config.erased := by
  unfold ofValue at h ⊢
  simp only [Option.bind_eq_bind, Option.bind_eq_some_iff, Option.guard_eq_some'] at h
  obtain ⟨-, hmapping, enabled, henabled, registration, hregistration, keepalive, hkeepalive, idle,
    hidle, frame, hframe, queue, hqueue, sessions, hsessions, perIp, hperIp, rate, hrate, proxies,
    hproxies, origins, horigins, health, hhealth, heq⟩ := h
  cases heq
  have herased := withDefault_map (g := RelayHealthConfig.erased) rfl
    RelayHealthConfig.ofValue_erased hhealth
  simp [guard, Value.edit, isMapping_modify, hmapping, henabled, hregistration, hkeepalive, hidle,
    hframe, hqueue, hsessions, hperIp, hrate, hproxies, horigins, herased, erased]

theorem FastRelayConfigWire.ofValue_erased (v : Value) (relay : FastRelayConfigWire)
    (h : ofValue v = some relay) :
    ofValue ((v.remove "fast_media_v1_enabled").remove "relay_max_datagram") =
      some relay.erased := by
  unfold ofValue at h ⊢
  simp only [Option.bind_eq_bind, Option.bind_eq_some_iff, Option.guard_eq_some'] at h
  obtain ⟨-, hmapping, compat, hcompat, media, hmedia, ttl, httl, bitrate, hbitrate, datagram,
    hdatagram, heq⟩ := h
  cases heq
  simp [guard, isMapping_remove, hmapping, hcompat, httl, hbitrate, erased]

theorem FastModeConfigWire.ofValue_erased (v : Value) (mode : FastModeConfigWire)
    (h : ofValue v = some mode) :
    ofValue (v.modify "relay" fun relay =>
      (relay.remove "fast_media_v1_enabled").remove "relay_max_datagram") = some mode.erased := by
  unfold ofValue at h ⊢
  simp only [Option.bind_eq_bind, Option.bind_eq_some_iff, Option.guard_eq_some'] at h
  obtain ⟨-, hmapping, relay, hrelay, heq⟩ := h
  cases heq
  have herased := withDefault_map (g := FastRelayConfigWire.erased) rfl
    FastRelayConfigWire.ofValue_erased hrelay
  simp [guard, isMapping_modify, hmapping, herased, erased]

end Starry.Config

namespace Starry.Downgrade

open Starry.Config

variable {document : Value} {wire : StarryConfigWire}

theorem isObject_of_get {v x : Value} {key : String} (h : v.get key = some x) :
    isObject v = true := by
  cases v <;> first | rfl | cases h

theorem insert_of_isObject {v : Value} (h : isObject v = true) (key : String) (x : Value) :
    ∃ v', Value.insert key x v = some v' := by
  cases v with
  | object fields => exact ⟨_, rfl⟩
  | _ => cases h

theorem isObject_modify (v : Value) (key : String) (f : Value → Value) :
    isObject (v.modify key f) = isObject v := by
  cases v <;> rfl

/-- The document without the fields of version 5, before its version is set. -/
theorem insert_exported {version : Value} (h : document.get "version" = some version) :
    Value.insert "version" (.uint 4) (removeV5OnlyFields document).1 =
      some (exported document) := by
  have hobject : isObject (removeV5OnlyFields document).1 = true := by
    simp only [removeV5OnlyFields, removeUdpPorts, removeObjectKey, relayPath, endpointsPath,
      Value.edit, isObject_modify]
    exact isObject_of_get h
  obtain ⟨v', hinsert⟩ := insert_of_isObject hobject "version" (.uint 4)
  rw [exported, hinsert, Option.getD_some]

theorem removeV5OnlyFields_fst (document : Value) :
    (removeV5OnlyFields document).1 =
      (document.modify "fast_mode" (Value.modify "relay" fun relay =>
        (relay.remove "fast_media_v1_enabled").remove "relay_max_datagram")).edit endpointsPath
          (Value.mapItems (Value.remove udpPortKey)) := by
  simp only [removeV5OnlyFields, removeUdpPorts, removeObjectKey, relayPath, Value.edit,
    Value.modify_modify]

/-- A field of the exported document. -/
theorem get_exported {version : Value} (h : document.get "version" = some version) (key : String) :
    (exported document).get key =
      if key = "version" then some (.uint 4)
      else if key = "fast_mode" then
        (document.get "fast_mode").map (Value.modify "relay" fun relay =>
          (relay.remove "fast_media_v1_enabled").remove "relay_max_datagram")
      else if key = "websocket_signal" then
        (document.get "websocket_signal").map (Value.edit ["relay_health", "endpoints"]
          (Value.mapItems (Value.remove udpPortKey)))
      else document.get key := by
  rw [Value.get_insert (insert_exported h), removeV5OnlyFields_fst, endpointsPath, Value.edit,
    Value.get_modify]
  by_cases hsignal : key = "websocket_signal"
  · subst hsignal
    simp
  · simp [hsignal]

theorem ofValue_exported (h : StarryConfigWire.ofValue document = some wire) :
    StarryConfigWire.ofValue (exported document) = some wire.erased := by
  unfold StarryConfigWire.ofValue at h ⊢
  simp only [Option.bind_eq_bind, Option.bind_eq_some_iff, Option.guard_eq_some'] at h
  obtain ⟨-, hmapping, version, ⟨number, hnumber, hversion⟩, servers, hservers, tcp, htcp, mmdb,
    hmmdb, geo, hgeo, signal, hsignal, auth, hauth, quality, hquality, mode, hmode, heq⟩ := h
  cases heq
  have hkept : isMapping ["version", "relay_servers", "secure_tcp", "mmdb", "geo",
      "websocket_signal", "connection_auth", "relay_quality", "fast_mode"]
      (exported document) = true := by
    refine isMapping_insert ?_ (by simp) (insert_exported hnumber)
    rw [removeV5OnlyFields_fst, endpointsPath, Value.edit, isMapping_modify, isMapping_modify]
    exact hmapping
  have hsignal' := withDefault_map (g := Option.map WebSocketSignalConfig.erased) rfl
    (fun v o hv => orNull_map (v := v) (o := o) (f := Value.edit ["relay_health", "endpoints"]
      (Value.mapItems (Value.remove udpPortKey))) rfl rfl WebSocketSignalConfig.ofValue_erased hv)
    hsignal
  have hmode' := withDefault_map (g := Option.map FastModeConfigWire.erased) rfl
    (fun v o hv => orNull_map (v := v) (o := o) (f := Value.modify "relay" fun relay =>
      (relay.remove "fast_media_v1_enabled").remove "relay_max_datagram")
      rfl rfl FastModeConfigWire.ofValue_erased hv) hmode
  simp [guard, hkept, get_exported hnumber, asUnsigned, hservers, htcp, hmmdb, hgeo, hsignal',
    hauth, hquality, hmode', StarryConfigWire.erased]

end Starry.Downgrade
