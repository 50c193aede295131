import Starry.Downgrade.Reading

/-!
# Validating the exported document

The normalized configuration of a document changes in the three things that version 4 cannot say,
and no check of the older version looks at anything else.
-/

open Starry.ConfigStore (Value)

namespace Starry.Config

variable {env : Env}

/-- The same configuration as version 4, with the defaults of what only version 5 can say. -/
def StarryConfig.lowered (config : StarryConfig) : StarryConfig :=
  { config with
    version := 4
    websocketSignal := config.websocketSignal.erased
    fastMode := { relay := { config.fastMode.relay with relayMaxDatagram := 1200 } } }

theorem config_erased {wire : StarryConfigWire}
    (hmedia : wire.config.fastMode.relay.fastMediaV1Enabled = false) :
    wire.erased.config = wire.config.lowered := by
  have hsignal : (wire.websocketSignal.map WebSocketSignalConfig.erased).getD {} =
      (wire.websocketSignal.getD {}).erased := by
    cases wire.websocketSignal <;> rfl
  have hmode : ((wire.fastMode.map FastModeConfigWire.erased).getD {}).intoConfig =
      { relay := { wire.config.fastMode.relay with relayMaxDatagram := 1200 } } := by
    unfold StarryConfigWire.config at hmedia ⊢
    cases hfast : wire.fastMode with
    | none => rfl
    | some mode =>
      rw [hfast] at hmedia
      simp only [Option.getD_some, FastModeConfigWire.intoConfig] at hmedia
      simp [FastModeConfigWire.intoConfig, FastModeConfigWire.erased, FastRelayConfigWire.erased,
        hmedia]
  simp only [StarryConfigWire.config, StarryConfigWire.erased, StarryConfig.lowered, hsignal] at *
  rw [hmode]

/-! ## The checks without the fields of version 5 -/

@[simp] theorem RelayEndpointConfig.relay_erased (endpoint : RelayEndpointConfig) :
    endpoint.erased.relay = endpoint.relay := rfl

@[simp] theorem RelayEndpointConfig.url_erased (endpoint : RelayEndpointConfig) :
    endpoint.erased.url = endpoint.url := rfl

theorem trimmedEndpoint_erased (endpoint : RelayEndpointConfig) :
    trimmedEndpoint endpoint.erased = (trimmedEndpoint endpoint).erased := rfl

theorem checkEndpoint_erased {index : Nat} {relays urls : List String}
    {endpoint : RelayEndpointConfig} (h : checkEndpoint env index relays urls endpoint = .ok ()) :
    checkEndpoint env index relays urls endpoint.erased = .ok () := by
  unfold checkEndpoint at h ⊢
  obtain ⟨_, hempty, h⟩ := bind_eq_ok.mp h
  obtain ⟨_, hrelay, h⟩ := bind_eq_ok.mp h
  obtain ⟨_, hurl, h⟩ := bind_eq_ok.mp h
  obtain ⟨parsed, hparsed, h⟩ := bind_eq_ok.mp h
  obtain ⟨_, hform, h⟩ := bind_eq_ok.mp h
  obtain ⟨_, hsecret, -⟩ := bind_eq_ok.mp h
  refine bind_eq_ok.mpr ⟨(), hempty, bind_eq_ok.mpr ⟨(), hrelay, bind_eq_ok.mpr ⟨(), hurl,
    bind_eq_ok.mpr ⟨parsed, hparsed, bind_eq_ok.mpr ⟨(), hform, bind_eq_ok.mpr ⟨(), hsecret, ?_⟩⟩⟩⟩⟩⟩
  rfl

theorem validateEndpoints_erased {index : Nat} {relays urls : List String}
    {endpoints checked : List RelayEndpointConfig}
    (h : validateEndpoints env index relays urls endpoints = .ok checked) :
    validateEndpoints env index relays urls (endpoints.map RelayEndpointConfig.erased) =
      .ok (checked.map RelayEndpointConfig.erased) := by
  induction endpoints generalizing index relays urls checked with
  | nil =>
    cases h
    rfl
  | cons endpoint rest ih =>
    unfold validateEndpoints at h
    obtain ⟨_, hcheck, h⟩ := bind_eq_ok.mp h
    obtain ⟨others, hothers, h⟩ := bind_eq_ok.mp h
    cases h
    rw [List.map_cons, validateEndpoints]
    have hafter := ih hothers
    simp only [trimmedEndpoint_erased, RelayEndpointConfig.relay_erased,
      RelayEndpointConfig.url_erased, checkEndpoint_erased hcheck, hafter]
    rfl

theorem validateRelayHealth_erased {health checked : RelayHealthConfig}
    (h : validateRelayHealth env health = .ok checked) :
    validateRelayHealth env health.erased = .ok checked.erased := by
  unfold validateRelayHealth at h ⊢
  obtain ⟨_, hinterval, h⟩ := bind_eq_ok.mp h
  obtain ⟨_, htimeout, h⟩ := bind_eq_ok.mp h
  obtain ⟨_, hthresholds, h⟩ := bind_eq_ok.mp h
  obtain ⟨_, hcount, h⟩ := bind_eq_ok.mp h
  obtain ⟨endpoints, hendpoints, h⟩ := bind_eq_ok.mp h
  cases h
  refine bind_eq_ok.mpr ⟨(), hinterval, bind_eq_ok.mpr ⟨(), htimeout, bind_eq_ok.mpr ⟨(),
    hthresholds, bind_eq_ok.mpr ⟨(), ?_, bind_eq_ok.mpr ⟨_, validateEndpoints_erased hendpoints,
      rfl⟩⟩⟩⟩⟩
  rw [RelayHealthConfig.erased, List.length_map]
  exact hcount

theorem validateWebsocketSignal_erased {config checked : WebSocketSignalConfig}
    {relayServers : List String}
    (h : validateWebsocketSignal env config relayServers = .ok checked) :
    validateWebsocketSignal env config.erased relayServers = .ok checked.erased := by
  unfold validateWebsocketSignal at h ⊢
  obtain ⟨_, hnumbers, h⟩ := bind_eq_ok.mp h
  obtain ⟨proxies, hproxies, h⟩ := bind_eq_ok.mp h
  obtain ⟨_, hnetworks, h⟩ := bind_eq_ok.mp h
  obtain ⟨origins, horigins, h⟩ := bind_eq_ok.mp h
  obtain ⟨_, hurls, h⟩ := bind_eq_ok.mp h
  obtain ⟨health, hhealth, h⟩ := bind_eq_ok.mp h
  obtain ⟨_, hcoverage, h⟩ := bind_eq_ok.mp h
  cases h
  refine bind_eq_ok.mpr ⟨(), hnumbers, bind_eq_ok.mpr ⟨_, hproxies, bind_eq_ok.mpr ⟨(), hnetworks,
    bind_eq_ok.mpr ⟨_, horigins, bind_eq_ok.mpr ⟨(), hurls, bind_eq_ok.mpr ⟨_,
      validateRelayHealth_erased hhealth, bind_eq_ok.mpr ⟨(), ?_, rfl⟩⟩⟩⟩⟩⟩⟩
  rw [RelayHealthConfig.erased, List.map_map]
  exact hcoverage

theorem validateRelayQuality_erased (config : RelayQualityConfig) (relayServers : List String)
    (health : RelayHealthConfig) :
    validateRelayQuality env config relayServers health.erased =
      validateRelayQuality env config relayServers health := by
  have hendpoints : ∀ legacy configured, checkQualityEndpoints env legacy configured relayServers
      health.erased.endpoints =
        checkQualityEndpoints env legacy configured relayServers health.endpoints := by
    intro legacy configured
    simp only [checkQualityEndpoints, RelayHealthConfig.erased, List.map_map, List.filter_map]
    rfl
  simp only [validateRelayQuality, hendpoints]
  rfl

/-- The checks of the fast modes pass again, once nothing of version 5 is enabled. -/
theorem validateFastMode_lowered {config : StarryConfig} (h : validateFastMode config = .ok ())
    (hmedia : config.fastMode.relay.fastMediaV1Enabled = false)
    (hcompat : config.fastMode.relay.fastCompatEnabled = true →
      config.relayQuality.enabled = true) : validateFastMode config.lowered = .ok () := by
  unfold validateFastMode at h ⊢
  obtain ⟨_, httl, h⟩ := bind_eq_ok.mp h
  obtain ⟨_, hbitrate, h⟩ := bind_eq_ok.mp h
  obtain ⟨_, -, h⟩ := bind_eq_ok.mp h
  obtain ⟨_, -, h⟩ := bind_eq_ok.mp h
  obtain ⟨_, -, h⟩ := bind_eq_ok.mp h
  obtain ⟨_, hauth, h⟩ := bind_eq_ok.mp h
  obtain ⟨_, hsignal, -⟩ := bind_eq_ok.mp h
  refine bind_eq_ok.mpr ⟨(), httl, bind_eq_ok.mpr ⟨(), hbitrate, bind_eq_ok.mpr ⟨(), rfl,
    bind_eq_ok.mpr ⟨(), ?_, bind_eq_ok.mpr ⟨(), ?_, bind_eq_ok.mpr ⟨(), hauth, bind_eq_ok.mpr
      ⟨(), hsignal, ?_⟩⟩⟩⟩⟩⟩⟩
  · rw [ensure_ok]
    cases hon : config.fastMode.relay.fastCompatEnabled with
    | false => simp [StarryConfig.lowered, hon]
    | true => simp [StarryConfig.lowered, hcompat hon]
  · rw [ensure_ok]
    simp [StarryConfig.lowered, hmedia]
  · change onlyIf config.fastMode.relay.fastMediaV1Enabled _ = _
    rw [hmedia]
    rfl

/-- What validation leaves as it is. -/
structure Kept (config checked : StarryConfig) : Prop where
  version : checked.version = config.version
  fastMode : checked.fastMode = config.fastMode
  quality : checked.relayQuality.enabled = config.relayQuality.enabled

theorem validateRelayQuality_enabled {config checked : RelayQualityConfig}
    {relayServers : List String} {health : RelayHealthConfig}
    (h : validateRelayQuality env config relayServers health = .ok checked) :
    checked.enabled = config.enabled := by
  unfold validateRelayQuality at h
  obtain ⟨legacy, _, h⟩ := bind_eq_ok.mp h
  obtain ⟨_, _, h⟩ := bind_eq_ok.mp h
  obtain ⟨_, _, h⟩ := bind_eq_ok.mp h
  obtain ⟨_, _, h⟩ := bind_eq_ok.mp h
  obtain ⟨_, _, h⟩ := bind_eq_ok.mp h
  obtain ⟨_, _, h⟩ := bind_eq_ok.mp h
  cases h
  rfl

theorem validate_kept {config checked : StarryConfig} (h : validate env config = .ok checked) :
    Kept config checked := by
  unfold validate at h
  iterate 7 obtain ⟨_, _, h⟩ := bind_eq_ok.mp h
  obtain ⟨quality, hquality, h⟩ := bind_eq_ok.mp h
  obtain ⟨_, _, h⟩ := bind_eq_ok.mp h
  cases h
  exact ⟨rfl, rfl, validateRelayQuality_enabled hquality⟩

/-- Validation of the lowered configuration. -/
theorem validate_lowered {config checked : StarryConfig} (h : validate env config = .ok checked)
    (hmedia : checked.fastMode.relay.fastMediaV1Enabled = false)
    (hcompat : checked.fastMode.relay.fastCompatEnabled = true →
      checked.relayQuality.enabled = true) :
    validate env config.lowered = .ok checked.lowered := by
  unfold validate at h
  obtain ⟨_, _, h⟩ := bind_eq_ok.mp h
  obtain ⟨servers, hservers, h⟩ := bind_eq_ok.mp h
  obtain ⟨_, htcp, h⟩ := bind_eq_ok.mp h
  obtain ⟨mmdb, hmmdb, h⟩ := bind_eq_ok.mp h
  obtain ⟨geo, hgeo, h⟩ := bind_eq_ok.mp h
  obtain ⟨signal, hsignal, h⟩ := bind_eq_ok.mp h
  obtain ⟨auth, hauth, h⟩ := bind_eq_ok.mp h
  obtain ⟨quality, hquality, h⟩ := bind_eq_ok.mp h
  obtain ⟨_, hfast, h⟩ := bind_eq_ok.mp h
  cases h
  have hfast' := validateFastMode_lowered hfast hmedia hcompat
  unfold validate
  refine bind_eq_ok.mpr ⟨(), rfl, bind_eq_ok.mpr ⟨servers, hservers, bind_eq_ok.mpr ⟨(), htcp,
    bind_eq_ok.mpr ⟨mmdb, hmmdb, bind_eq_ok.mpr ⟨geo, hgeo, bind_eq_ok.mpr ⟨signal.erased,
      validateWebsocketSignal_erased hsignal, bind_eq_ok.mpr ⟨auth, hauth, bind_eq_ok.mpr
        ⟨quality, ?_, bind_eq_ok.mpr ⟨(), hfast', rfl⟩⟩⟩⟩⟩⟩⟩⟩⟩
  exact (validateRelayQuality_erased ..).trans hquality

/-- A document without the fields of version 5 may have version 4. -/
theorem versionRefusal_erased (wire : StarryConfigWire) : versionRefusal wire.erased = none := by
  have hmode : (wire.fastMode.map FastModeConfigWire.erased).any
      FastModeConfigWire.hasSchemaV5Fields = false := by
    cases wire.fastMode <;> rfl
  have hsignal : ((wire.websocketSignal.map WebSocketSignalConfig.erased).any fun signal =>
      signal.relayHealth.endpoints.any fun endpoint => endpoint.fastMediaUdpPort.isSome) =
        false := by
    cases wire.websocketSignal with
    | none => rfl
    | some signal =>
      simp [WebSocketSignalConfig.erased, RelayHealthConfig.erased, RelayEndpointConfig.erased]
  simp [versionRefusal, StarryConfigWire.erased, StarryConfigWire.hasSchemaV5Fields, hmode, hsignal,
    inRange, minConfigVersion, configVersion]

end Starry.Config
