import Starry.Downgrade.Reading

/-!
# The pointers that the export reports

The report lists a pointer for every key that the export removes, and for no other: what stood there
was a scalar, so nothing else went with it.
-/

open Starry.ConfigStore (Value)
open Starry.ConfigStore.Value (Token Lost Prunes follow)

/-! ## What the typed reading says of the untyped document -/

namespace Starry.Config

variable {v : Value}

theorem scalar_of_bool {b : Bool} (h : v.asBool = some b) : v.isScalar = true := by
  cases v <;> first | rfl | cases h

theorem scalar_of_unsigned {bits n : Nat} (h : asUnsigned bits v = some n) :
    v.isScalar = true := by
  cases v <;> first | rfl | cases h

theorem scalar_of_port {port : UInt16} (h : asPort v = some port) : v.isScalar = true := by
  obtain ⟨n, hn, -⟩ := Option.map_eq_some_iff.mp h
  exact scalar_of_unsigned hn

theorem scalar_of_orNull {α : Type} {read : Value → Option α} {o : Option Value} {x : Option α}
    (hread : ∀ v y, read v = some y → v.isScalar = true)
    (h : withDefault none (orNull read) o = some x) (hv : o = some v) : v.isScalar = true := by
  rcases orNull_spec h with ⟨-, hnull⟩ | ⟨v', y, hv', hy, -⟩
  · rw [hnull v hv]
    rfl
  · cases hv.symm.trans hv'
    exact hread v y hy

theorem FastRelayConfigWire.fields_of_value {relay : FastRelayConfigWire}
    (h : ofValue v = some relay) :
    withDefault false Value.asBool (v.get "fast_compat_enabled") = some relay.fastCompatEnabled ∧
    withDefault none (orNull Value.asBool) (v.get "fast_media_v1_enabled") =
      some relay.fastMediaV1Enabled ∧
    withDefault none (orNull (asUnsigned 32)) (v.get "relay_max_datagram") =
      some relay.relayMaxDatagram := by
  unfold ofValue at h
  simp only [Option.bind_eq_bind, Option.bind_eq_some_iff] at h
  obtain ⟨-, -, compat, hcompat, media, hmedia, ttl, -, bitrate, -, datagram, hdatagram, heq⟩ := h
  cases heq
  exact ⟨hcompat, hmedia, hdatagram⟩

theorem RelayEndpointConfig.port_scalar {endpoint : RelayEndpointConfig} {port : Value}
    (h : ofValue v = some endpoint) (hport : v.get Downgrade.udpPortKey = some port) :
    port.isScalar = true := by
  unfold ofValue at h
  simp only [Option.bind_eq_bind, Option.bind_eq_some_iff] at h
  obtain ⟨-, -, relay, -, url, -, secret, -, number, hnumber, -⟩ := h
  exact scalar_of_orNull (fun v y hy => scalar_of_port hy) hnumber hport

theorem RelayHealthConfig.endpoints_of_value {health : RelayHealthConfig} {endpoints : Value}
    (h : ofValue v = some health) (hendpoints : v.get "endpoints" = some endpoints) :
    ∃ read, asList RelayEndpointConfig.ofValue endpoints = some read := by
  unfold ofValue at h
  simp only [Option.bind_eq_bind, Option.bind_eq_some_iff, hendpoints] at h
  obtain ⟨-, -, interval, -, timeout, -, success, -, failure, -, read, hread, -⟩ := h
  exact ⟨read, hread⟩

theorem WebSocketSignalConfig.health_of_value {config : WebSocketSignalConfig} {health : Value}
    (h : ofValue v = some config) (hhealth : v.get "relay_health" = some health) :
    ∃ read, RelayHealthConfig.ofValue health = some read := by
  unfold ofValue at h
  iterate 12 obtain ⟨_, _, h⟩ := Option.bind_eq_some_iff.mp h
  obtain ⟨read, hread, -⟩ := Option.bind_eq_some_iff.mp h
  rw [hhealth] at hread
  exact ⟨read, hread⟩

end Starry.Config

namespace Starry.Downgrade

open Starry.Config

variable {document : Value} {wire : StarryConfigWire}

theorem relay_of_document (h : StarryConfigWire.ofValue document = some wire) :
    withDefault {} FastRelayConfigWire.ofValue (document.pointer relayPath) =
      some (wire.fastMode.getD {}).relay := by
  unfold StarryConfigWire.ofValue at h
  simp only [Option.bind_eq_bind, Option.bind_eq_some_iff] at h
  obtain ⟨-, -, version, -, servers, -, tcp, -, mmdb, -, geo, -, signal, -, auth, -, quality, -,
    mode, hmode, heq⟩ := h
  cases heq
  simp only [relayPath, Value.pointer]
  rcases orNull_spec hmode with ⟨rfl, hnull⟩ | ⟨v, read, hv, hread, rfl⟩
  · cases hv : document.get "fast_mode" with
    | none => rfl
    | some v =>
      rw [hnull v hv]
      rfl
  · rw [hv]
    unfold FastModeConfigWire.ofValue at hread
    simp only [Option.bind_eq_bind, Option.bind_eq_some_iff] at hread
    obtain ⟨-, -, relay, hrelay, heq⟩ := hread
    cases heq
    simpa using hrelay

theorem endpoints_of_document {endpoints : Value}
    (h : StarryConfigWire.ofValue document = some wire)
    (hendpoints : document.pointer endpointsPath = some endpoints) :
    ∃ read, asList RelayEndpointConfig.ofValue endpoints = some read := by
  unfold StarryConfigWire.ofValue at h
  simp only [Option.bind_eq_bind, Option.bind_eq_some_iff] at h
  obtain ⟨-, -, version, -, servers, -, tcp, -, mmdb, -, geo, -, signal, hsignal, -⟩ := h
  obtain ⟨v, hv, hendpoints⟩ := Option.bind_eq_some_iff.mp hendpoints
  obtain ⟨health, hhealth, hendpoints⟩ := Option.bind_eq_some_iff.mp hendpoints
  obtain ⟨x, hx, hendpoints⟩ := Option.bind_eq_some_iff.mp hendpoints
  cases hendpoints
  rcases orNull_spec hsignal with ⟨-, hnull⟩ | ⟨v', config, hv', hconfig, -⟩
  · rw [hnull v hv] at hhealth
    cases hhealth
  · cases hv.symm.trans hv'
    obtain ⟨read, hread⟩ := WebSocketSignalConfig.health_of_value hconfig hhealth
    exact RelayHealthConfig.endpoints_of_value hread hx

/-! ## The pointers -/

def endpointItems (document : Value) : List Value :=
  ((document.pointer endpointsPath).bind Value.asArray).getD []

/-- The paths of the removed keys, in the order of the report. -/
def removedPaths (document : Value) : List (List Token) :=
  (["fast_media_v1_enabled", "relay_max_datagram"].filter fun key =>
    (document.pointer (relayPath ++ [key])).isSome).map
      (fun key => (relayPath ++ [key]).map Token.key) ++
  (endpointItems document).zipIdx.filterMap fun item =>
    if (item.1.get udpPortKey).isSome then
      some (endpointsPath.map Token.key ++ [.index item.2, .key udpPortKey])
    else none

def pathText (path : List Token) : String := pointerText (path.map Token.text)

theorem pointer_snoc (path : List String) (key : String) (v : Value) :
    v.pointer (path ++ [key]) = (v.pointer path).bind (Value.get key) := by
  induction path generalizing v with
  | nil => simp [Value.pointer]
  | cons k path ih => simp only [List.cons_append, Value.pointer, Option.bind_assoc, ih]

theorem pathText_keys (path : List String) (rest : List Token) :
    pathText (path.map Token.key ++ rest) = pointerText (path ++ rest.map Token.text) := by
  simp [pathText, List.map_map, Function.comp_def, Token.text]

/-- The relay's remaining key, once the first one is removed. -/
theorem pointer_after (document : Value) :
    ((document.edit relayPath (Value.remove "fast_media_v1_enabled")).pointer relayPath).bind
        (Value.get "relay_max_datagram") =
      document.pointer (relayPath ++ ["relay_max_datagram"]) := by
  rw [Value.pointer_edit_self, pointer_snoc]
  cases document.pointer relayPath <;> simp

/-- The edits of the relay leave the endpoints alone. -/
theorem endpoints_after (document : Value) (f : Value → Value) :
    (document.edit relayPath f).pointer endpointsPath = document.pointer endpointsPath := by
  simp only [endpointsPath, Value.pointer, relayPath]
  rw [Value.get_edit_ne (by decide)]

theorem removeV5OnlyFields_snd (document : Value) :
    (removeV5OnlyFields document).2 = (removedPaths document).map pathText := by
  have hports : ∀ items : List Value, (items.zipIdx.filterMap fun item =>
      if (item.1.get udpPortKey).isSome then
        some (pointerText (endpointsPath ++ [toString item.2, udpPortKey]))
      else none) =
      (items.zipIdx.filterMap fun item => if (item.1.get udpPortKey).isSome then
        some (endpointsPath.map Token.key ++ [.index item.2, .key udpPortKey])
      else none).map pathText := by
    intro items
    rw [List.map_filterMap]
    congr 1
    funext item
    split
    · rw [Option.map_some, pathText_keys]
      rfl
    · rfl
  unfold removeV5OnlyFields removeUdpPorts removedPaths endpointItems
  simp only [removeObjectKey, pointer_after, endpoints_after, List.map_append, hports]
  congr 1
  rw [← pointer_snoc]
  by_cases hmedia : (document.pointer (relayPath ++ ["fast_media_v1_enabled"])).isSome <;>
    by_cases hdatagram : (document.pointer (relayPath ++ ["relay_max_datagram"])).isSome <;>
    simp [hmedia, hdatagram, pathText_keys, Token.text]

/-! ## Nothing else is lost -/

/-- Removing a key that holds a scalar loses the path to the key. -/
theorem lost_edit_remove {v : Value} {path : List Token} (keys : List String) (key : String)
    (hscalar : ∀ y, v.pointer (keys ++ [key]) = some y → y.isScalar = true) :
    Lost v (v.edit keys (Value.remove key)) path ↔
      path = (keys ++ [key]).map Token.key ∧ (v.pointer (keys ++ [key])).isSome := by
  simp only [pointer_snoc] at hscalar ⊢
  rw [Value.lost_edit]
  simp only [Value.lost_remove]
  constructor
  · rintro ⟨_, x, rfl, hx, rest, y, rfl, hy, hrest⟩
    have hget : (v.pointer keys).bind (Value.get key) = some y := by
      rw [hx]
      exact hy
    obtain rfl := (Value.follow_scalar (hscalar y hget)).mp hrest
    exact ⟨by simp, by rw [hget]; rfl⟩
  · rintro ⟨rfl, hsome⟩
    obtain ⟨y, hy⟩ := Option.isSome_iff_exists.mp hsome
    obtain ⟨x, hx, hy⟩ := Option.bind_eq_some_iff.mp hy
    exact ⟨[.key key], x, by simp, hx, [], y, rfl, hy, rfl⟩

/-- The same for the keys of the items of an array. -/
theorem lost_edit_items {v : Value} {path : List Token} (keys : List String) (key : String)
    (hscalar : ∀ items item y, v.pointer keys = some (.array items) → item ∈ items →
      item.get key = some y → y.isScalar = true) :
    Lost v (v.edit keys (Value.mapItems (Value.remove key))) path ↔
      ∃ items i item, v.pointer keys = some (.array items) ∧ items[i]? = some item ∧
        (item.get key).isSome ∧ path = keys.map Token.key ++ [.index i, .key key] := by
  rw [Value.lost_edit]
  simp only [Value.lost_mapItems, Value.lost_remove]
  constructor
  · rintro ⟨_, x, rfl, hx, i, _, item, rfl, hitem, rest, y, rfl, hy, hrest⟩
    cases x with
    | array items =>
      have hmem : item ∈ items := List.mem_of_getElem? hitem
      obtain rfl := (Value.follow_scalar (hscalar items item y hx hmem hy)).mp hrest
      exact ⟨items, i, item, hx, hitem, by rw [hy]; rfl, rfl⟩
    | _ => cases hitem
  · rintro ⟨items, i, item, hx, hitem, hsome, rfl⟩
    obtain ⟨y, hy⟩ := Option.isSome_iff_exists.mp hsome
    exact ⟨_, .array items, rfl, hx, i, _, item, rfl, hitem, [], y, rfl, hy, rfl⟩

theorem mem_removedPaths {path : List Token} : path ∈ removedPaths document ↔
    (∃ key ∈ ["fast_media_v1_enabled", "relay_max_datagram"],
      path = (relayPath ++ [key]).map Token.key ∧
        (document.pointer (relayPath ++ [key])).isSome) ∨
    ∃ items i item, document.pointer endpointsPath = some (.array items) ∧
      items[i]? = some item ∧ (item.get udpPortKey).isSome ∧
        path = endpointsPath.map Token.key ++ [.index i, .key udpPortKey] := by
  unfold removedPaths
  rw [List.mem_append, List.mem_map, List.mem_filterMap]
  refine or_congr ⟨?_, ?_⟩ ⟨?_, ?_⟩
  · rintro ⟨key, hkey, rfl⟩
    obtain ⟨hkey, hsome⟩ := List.mem_filter.mp hkey
    exact ⟨key, hkey, rfl, hsome⟩
  · rintro ⟨key, hkey, rfl, hsome⟩
    exact ⟨key, List.mem_filter.mpr ⟨hkey, hsome⟩, rfl⟩
  · rintro ⟨⟨item, i⟩, hmem, hitem⟩
    split at hitem
    · rename_i hsome
      cases hitem
      unfold endpointItems at hmem
      cases hpointer : document.pointer endpointsPath with
      | none => simp [hpointer] at hmem
      | some endpoints =>
        cases endpoints with
        | array items =>
          rw [hpointer] at hmem
          exact ⟨items, i, item, rfl, List.mem_zipIdx_iff_getElem?.mp hmem, hsome, rfl⟩
        | _ => simp [hpointer, Value.asArray] at hmem
    · cases hitem
  · rintro ⟨items, i, item, hpointer, hitem, hsome, rfl⟩
    refine ⟨(item, i), ?_, if_pos hsome⟩
    unfold endpointItems
    rw [hpointer]
    exact List.mem_zipIdx_iff_getElem?.mpr hitem

/-- What the fields of version 5 hold is a scalar. -/
theorem scalar_of_relay (h : StarryConfigWire.ofValue document = some wire) {key : String}
    (hkey : key ∈ ["fast_media_v1_enabled", "relay_max_datagram"]) {y : Value}
    (hy : document.pointer (relayPath ++ [key]) = some y) : y.isScalar = true := by
  have hrelay := relay_of_document h
  rw [pointer_snoc] at hy
  obtain ⟨x, hx, hy⟩ := Option.bind_eq_some_iff.mp hy
  rw [hx, withDefault_some] at hrelay
  obtain ⟨-, hmedia, hdatagram⟩ := FastRelayConfigWire.fields_of_value hrelay
  rcases List.mem_pair.mp hkey with rfl | rfl
  · exact scalar_of_orNull (fun v b hb => scalar_of_bool hb) hmedia hy
  · exact scalar_of_orNull (fun v n hn => scalar_of_unsigned hn) hdatagram hy

theorem scalar_of_endpoint (h : StarryConfigWire.ofValue document = some wire)
    {items : List Value} {item y : Value}
    (hitems : document.pointer endpointsPath = some (.array items)) (hmem : item ∈ items)
    (hy : item.get udpPortKey = some y) : y.isScalar = true := by
  obtain ⟨read, hread⟩ := endpoints_of_document h hitems
  obtain ⟨items', heq, hall⟩ := asList_spec hread
  cases heq
  obtain ⟨endpoint, hendpoint⟩ := hall item hmem
  exact RelayEndpointConfig.port_scalar hendpoint hy

/-- Setting the version neither loses nor makes a path. -/
theorem follow_exported (hversion : document.get "version" = some (.uint 5)) (path : List Token) :
    follow path (exported document) = none ↔ follow path (removeV5OnlyFields document).1 = none := by
  have hinsert := insert_exported hversion
  have hget : (removeV5OnlyFields document).1.get "version" = some (.uint 5) := by
    rw [removeV5OnlyFields_fst, endpointsPath, Value.edit]
    simpa using hversion
  cases path with
  | nil => simp [follow]
  | cons t path =>
    cases t with
    | key k =>
      rw [Value.follow_key, Value.follow_key, Value.get_insert hinsert]
      by_cases hk : k = "version"
      · subst hk
        have hnone : ∀ n, follow path (.uint n) = none ↔ path ≠ [] := fun n => by
          rw [← Option.not_isSome_iff_eq_none, Value.follow_scalar rfl]
        rw [if_pos rfl, hget, Option.bind_some, Option.bind_some, hnone, hnone]
      · rw [if_neg hk]
    | index i =>
      rw [follow, follow]
      cases hobject : (removeV5OnlyFields document).1 with
      | object fields =>
        rw [hobject] at hinsert
        rw [← Option.some.inj hinsert]
        rfl
      | _ =>
        rw [hobject] at hinsert
        cases hinsert

/-- A path is lost by the export exactly if the report lists it. -/
theorem mem_removedPaths_iff_lost (h : StarryConfigWire.ofValue document = some wire)
    (hversion : document.get "version" = some (.uint 5)) {path : List Token} :
    path ∈ removedPaths document ↔ Lost document (exported document) path := by
  have hlost : Lost document (exported document) path ↔
      Lost document (removeV5OnlyFields document).1 path :=
    and_congr Iff.rfl (follow_exported hversion path)
  have hdatagram : ∀ y, (document.edit relayPath (Value.remove "fast_media_v1_enabled")).pointer
      (relayPath ++ ["relay_max_datagram"]) = some y → y.isScalar = true := fun y hy => by
    rw [pointer_snoc, pointer_after] at hy
    exact scalar_of_relay h (by simp) hy
  have hports : ∀ items item y, document.pointer endpointsPath = some (.array items) →
      item ∈ items → item.get udpPortKey = some y → y.isScalar = true :=
    fun items item y hitems hmem hy => scalar_of_endpoint h hitems hmem hy
  have hprunes : ∀ key v path, follow path v = none →
      follow path (v.edit relayPath (Value.remove key)) = none := fun key =>
    (Prunes.remove key).edit relayPath
  rw [hlost, mem_removedPaths, removeV5OnlyFields, removeUdpPorts, removeObjectKey, removeObjectKey,
    Value.lost_comp (hprunes _ _) fun path hnone =>
      ((Prunes.remove udpPortKey).mapItems.edit endpointsPath) _ path (hprunes _ _ path hnone),
    Value.lost_comp (hprunes _ _) (((Prunes.remove udpPortKey).mapItems.edit endpointsPath) _),
    lost_edit_remove _ _ fun y hy => scalar_of_relay h (by simp) hy,
    lost_edit_remove _ _ hdatagram, lost_edit_items _ _ (by simpa only [endpoints_after] using hports)]
  simp only [pointer_snoc, pointer_after, endpoints_after]
  simp [or_assoc]

end Starry.Downgrade
