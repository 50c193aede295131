import Starry.Config.Document
import Starry.Config.Serialize
import Starry.ConfigStore.Changes

/-!
# The risk of a plan (`classify_risk`)

The risk is read off the beginnings of the listed pointers. A change is listed where the walk ends, so
what a pointer says depends on how far the two documents have the same objects.
-/

open Library

namespace Starry.ConfigStore

open Starry.Config (StarryConfig parseDocument validateConfig)

/-! ## The plan -/

/-- `normalized_config` -/
def normalizedConfig (env : Config.Env) (raw : Bytes) : Option Value :=
  (((parseDocument env raw).bind (validateConfig env)).toOption).map fun validated =>
    validated.config.toValue

/-- `str::starts_with` -/
def startsWith (start text : String) : Bool := start.toList.isPrefixOf text.toList

def isRelayQualityPointer (pointer : String) : Bool :=
  pointer == "/relay_quality" || startsWith "/relay_quality/" pointer

def relayCount (v : Option Value) : Nat :=
  (((v.bind (Value.get "relay_servers")).bind Value.asArray).map List.length).getD 0

def classifyRisk (changes : List Value) (before : Option Value) (after : Value) : String :=
  let pointers := pointersOf changes
  if pointers.any (startsWith "/connection_auth/mode") then "critical"
  else if pointers.any fun pointer => startsWith "/connection_auth" pointer ||
      startsWith "/websocket_signal/trusted_proxies" pointer then "high"
  else if pointers.any (startsWith "/relay_servers") then
    if relayCount before > 0 && relayCount (some after) == 0 then "high" else "medium"
  else if pointers.any fun pointer => isRelayQualityPointer pointer || pointer == "/fast_mode" ||
      startsWith "/fast_mode/" pointer || startsWith "/websocket_signal" pointer ||
      startsWith "/secure_tcp" pointer then "medium"
  else "low"

/-- The risk that `create_plan` records. -/
def planRisk (env : Config.Env) (current : Bytes) (validated : Config.ValidatedConfig) : String :=
  let before := normalizedConfig env current
  let after := validated.config.toValue
  classifyRisk (collectChanges "" before (some after)) before after

/-! ## Changes of the authentication -/

def authMode : List String := ["connection_auth", "mode"]

/-- At or below the sections that authentication rests on. -/
def UnderAuth (path : List String) : Prop :=
  ["connection_auth"] <+: path ∨ ["websocket_signal", "trusted_proxies"] <+: path

/-- The risk names what changes in the authentication. -/
structure NamesAuth (before after : Option Value) (risk : String) : Prop where
  mode : Value.resolve authMode before ≠ Value.resolve authMode after → risk = "critical"
  under : ∀ path, UnderAuth path → Value.resolve path before ≠ Value.resolve path after →
    risk = "critical" ∨ risk = "high"

/-! ## Pointers and what they start with -/

theorem startsWith_iff {start text : String} :
    startsWith start text = true ↔ start.toList <+: text.toList := by
  rw [startsWith, List.isPrefixOf_iff_prefix]

theorem pointerTo_append (path path' : List String) :
    pointerTo (path ++ path') = pointerTo path ++ pointerTo path' := by
  induction path with
  | nil => simp [pointerTo]
  | cons key path ih =>
    rw [List.cons_append, pointerTo_cons, pointerTo_cons, ih]
    simp only [String.append_assoc]

/-- A location below another has a pointer that starts with the other's. -/
theorem startsWith_pointerTo {path path' : List String} (h : path <+: path') :
    startsWith (pointerTo path) (pointerTo path') = true := by
  obtain ⟨rest, rfl⟩ := h
  rw [startsWith_iff, pointerTo_append, String.toList_append]
  exact List.prefix_append _ _

theorem classifyRisk_critical {changes : List Value} {pointer : String}
    (hmem : pointer ∈ pointersOf changes) (h : startsWith "/connection_auth/mode" pointer = true)
    (before : Option Value) (after : Value) : classifyRisk changes before after = "critical" := by
  unfold classifyRisk
  rw [if_pos (List.any_eq_true.mpr ⟨pointer, hmem, h⟩)]

theorem classifyRisk_high {changes : List Value} {pointer : String}
    (hmem : pointer ∈ pointersOf changes)
    (h : startsWith "/connection_auth" pointer = true ∨
      startsWith "/websocket_signal/trusted_proxies" pointer = true)
    (before : Option Value) (after : Value) :
    classifyRisk changes before after = "critical" ∨
      classifyRisk changes before after = "high" := by
  unfold classifyRisk
  simp only
  split
  · exact .inl rfl
  · rw [if_pos (List.any_eq_true.mpr ⟨pointer, hmem, by simpa using h⟩)]
    exact .inr rfl

/-! ## Two normalized documents -/

/-- Where both are objects above a location, a change is listed at or below it for every difference
at or below it. -/
theorem changedAt_below {before after : Option Value} (hbefore : SortedAt before)
    (hafter : SortedAt after) {root path : List String}
    (hobjects : ∀ above, above <+: root → above ≠ root →
      Value.isObject (Value.resolve above before) = true ∧
        Value.isObject (Value.resolve above after) = true)
    (hroot : root <+: path) (h : Value.resolve path before ≠ Value.resolve path after) :
    ∃ c ∈ changedAt before after, root <+: c.1 := by
  rcases changedAt_covers hbefore hafter h with ⟨c, hc, hpath⟩ | ⟨-, -, c, hc, hpath⟩
  · refine ⟨c, hc, ?_⟩
    rcases List.prefix_or_prefix_of_prefix hroot hpath with hbelow | habove
    · exact hbelow
    · by_cases heq : c.1 = root
      · rw [heq]
      · exact absurd (hobjects c.1 habove heq) (changedTo_of_mem hc).ends
  · exact ⟨c, hc, hroot.trans hpath⟩

theorem sortedAt_toValue (config : StarryConfig) : SortedAt (some config.toValue) := by
  intro v hv
  obtain rfl := Option.some.inj hv
  exact config.sorted_toValue

/-- What stands above a section of two normalized documents are objects. -/
def Inner (root : List String) : Prop :=
  ∀ config : StarryConfig, ∀ above, above <+: root → above ≠ root →
    Value.isObject (Value.resolve above (some config.toValue)) = true

theorem inner_singleton (key : String) : Inner [key] := by
  intro config above habove hne
  rcases List.prefix_cons_iff.mp habove with rfl | ⟨rest, rfl, hrest⟩
  · rfl
  · rw [List.prefix_nil.mp hrest] at hne
    exact absurd rfl hne

/-- So are the two sections that authentication rests on. -/
theorem inner_pair {top : String} (key : String)
    (h : ∀ config : StarryConfig,
      Value.isObject (Value.resolve [top] (some config.toValue)) = true) :
    Inner [top, key] := by
  intro config above habove hne
  rcases List.prefix_cons_iff.mp habove with rfl | ⟨rest, rfl, hrest⟩
  · rfl
  rcases List.prefix_cons_iff.mp hrest with rfl | ⟨last, rfl, hlast⟩
  · exact h config
  · rw [List.prefix_nil.mp hlast] at hne
    exact absurd rfl hne

theorem listed_below {before after : StarryConfig} {root path : List String} (hinner : Inner root)
    (hroot : root <+: path) (h : Value.resolve path (some before.toValue) ≠
      Value.resolve path (some after.toValue)) :
    ∃ pointer ∈ pointersOf (collectChanges "" (some before.toValue) (some after.toValue)),
      startsWith (pointerTo root) pointer = true := by
  obtain ⟨c, hc, hbelow⟩ := changedAt_below (sortedAt_toValue before) (sortedAt_toValue after)
    (fun above habove hne => ⟨hinner before above habove hne, hinner after above habove hne⟩) hroot h
  refine ⟨pointerTo c.1, ?_, startsWith_pointerTo hbelow⟩
  rw [pointersOf_collectChanges]
  exact List.mem_map_of_mem hc

/-- Two normalized documents have all that authentication rests on in the same objects. -/
theorem namesAuth_toValue (before after : StarryConfig) :
    NamesAuth (some before.toValue) (some after.toValue)
      (classifyRisk (collectChanges "" (some before.toValue) (some after.toValue))
        (some before.toValue) after.toValue) := by
  constructor
  · intro hne
    obtain ⟨pointer, hmem, hstarts⟩ :=
      listed_below (inner_pair "mode" fun _ => rfl) (List.prefix_refl authMode) hne
    have htext : pointerTo authMode = "/connection_auth/mode" := by decide
    exact classifyRisk_critical hmem (htext ▸ hstarts) _ _
  · rintro path (hunder | hunder) hne
    · obtain ⟨pointer, hmem, hstarts⟩ := listed_below (inner_singleton _) hunder hne
      have htext : pointerTo ["connection_auth"] = "/connection_auth" := by decide
      exact classifyRisk_high hmem (.inl (htext ▸ hstarts)) _ _
    · obtain ⟨pointer, hmem, hstarts⟩ := listed_below (inner_pair _ fun _ => rfl) hunder hne
      have htext : pointerTo ["websocket_signal", "trusted_proxies"] =
          "/websocket_signal/trusted_proxies" := by decide
      exact classifyRisk_high hmem (.inr (htext ▸ hstarts)) _ _

/-! ## A document that does not validate -/

/-- The whole candidate is one addition, whose pointer names nothing. -/
theorem classifyRisk_none (after : Value) :
    classifyRisk (collectChanges "" none (some after)) none after = "low" := by
  rw [collectChanges_leaf "" (by simp) (by simp [Value.isObject])]
  rfl

theorem normalizedConfig_eq_some {env : Config.Env} {raw : Bytes} {v : Value} :
    normalizedConfig env raw = some v ↔ ∃ parsed validated, parseDocument env raw = .ok parsed ∧
      validateConfig env parsed = .ok validated ∧ v = validated.config.toValue := by
  unfold normalizedConfig
  cases hparse : parseDocument env raw with
  | error diagnostics => simp [Except.bind, Except.toOption]
  | ok parsed =>
    cases hvalid : validateConfig env parsed with
    | error diagnostics => simp [Except.bind, Except.toOption, hvalid]
    | ok validated => simp [Except.bind, Except.toOption, hvalid, eq_comm]

/-- The recorded risk names what changes in the authentication just when the current document
validates. -/
theorem planRisk_namesAuth (env : Config.Env) (current : Bytes)
    (validated : Config.ValidatedConfig) :
    NamesAuth (normalizedConfig env current) (some validated.config.toValue)
        (planRisk env current validated) ↔
      ∃ parsed before, parseDocument env current = .ok parsed ∧
        validateConfig env parsed = .ok before := by
  unfold planRisk
  cases hbefore : normalizedConfig env current with
  | none =>
    have hrisk := classifyRisk_none validated.config.toValue
    simp only [hrisk]
    constructor
    · intro h
      have hafter : Value.resolve authMode (some validated.config.toValue) =
          some validated.config.connectionAuth.mode.toValue := rfl
      have hmode := h.mode (by rw [hafter, Value.resolve_none]; exact (Option.some_ne_none _).symm)
      exact absurd hmode (by decide)
    · rintro ⟨parsed, before, hparse, hvalid⟩
      have hsome := normalizedConfig_eq_some.mpr ⟨parsed, before, hparse, hvalid, rfl⟩
      rw [hbefore] at hsome
      cases hsome
  | some v =>
    obtain ⟨parsed, before, hparse, hvalid, rfl⟩ := normalizedConfig_eq_some.mp hbefore
    exact iff_of_true (namesAuth_toValue before.config validated.config)
      ⟨parsed, before, hparse, hvalid⟩

/-- A document that turns authentication on. -/
def enforcedWire : Config.StarryConfigWire where
  version := 5
  connectionAuth := some
    { mode := .enforce, issuer := "https://issuer", audience := "starry"
      jwks := { file := "jwks.json" } }

def issuerUrl : Config.Url where
  scheme := "https"
  hostStr := some "issuer"
  port := none
  username := ""
  password := none
  path := "/"
  query := none
  fragment := none
  host := some .domain

def enforcedEnv : Config.Env where
  readWire _ := .ok enforcedWire
  parseUrl text := if text = "https://issuer" then .ok issuerUrl
    else .error "relative URL without a base"
  parseHost _ := .ok .domain
  parseNetwork _ := .ok ()
  compileRules _ := .ok ()
  debug _ := "[]"
  toVec _ := .ok []
  sha256Digest _ := "sha256:"

def enforcedRaw : Bytes := asBytes "version: 5"

theorem validateConfig_enforced : validateConfig enforcedEnv ⟨enforcedRaw, enforcedWire⟩ =
    .ok ⟨enforcedWire.config, "sha256:", "sha256:"⟩ := by
  rfl

/-- Over an empty document the plan that enforces authentication has a low risk. -/
theorem enforced_low : ∃ parsed validated, parseDocument enforcedEnv enforcedRaw = .ok parsed ∧
    validateConfig enforcedEnv parsed = .ok validated ∧
    planRisk enforcedEnv [] validated = "low" ∧
    ¬ NamesAuth (normalizedConfig enforcedEnv []) (some validated.config.toValue)
      (planRisk enforcedEnv [] validated) := by
  have hnone : normalizedConfig enforcedEnv [] = none := by rfl
  have hrisk : planRisk enforcedEnv [] ⟨enforcedWire.config, "sha256:", "sha256:"⟩ = "low" := by
    unfold planRisk
    rw [hnone]
    exact classifyRisk_none _
  refine ⟨_, _, by rfl, validateConfig_enforced, hrisk, ?_⟩
  rw [hnone, hrisk]
  intro h
  have hafter : Value.resolve authMode (some enforcedWire.config.toValue) =
      some (.string "enforce") := rfl
  have hmode := h.mode (by rw [hafter, Value.resolve_none]; exact (Option.some_ne_none _).symm)
  exact absurd hmode (by decide)

end Starry.ConfigStore
