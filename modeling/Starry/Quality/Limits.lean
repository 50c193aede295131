import Starry.Config.Document

/-!
# What validation promises the relay quality section

The ranges of `validate_relay_quality`, as far as the deadlines, the offers and the scores rest on
them. The validator computes with saturating operations; within these ranges none saturates.
-/

namespace Starry.Quality

open Config (satAdd32 inRange ensure_ok)

/-! ## Arithmetic that does not saturate -/

theorem satAdd_eq {x y : Nat} (h : x + y ≤ u64Max) : satAdd x y = x + y := Nat.min_eq_left h

theorem satMul_eq {x y : Nat} (h : x * y ≤ u64Max) : satMul x y = x * y := Nat.min_eq_left h

/-! ## The ranges -/

/-- What holds of every accepted section, enabled or not. -/
structure WithinLimits (c : RelayQualityConfig) : Prop where
  maxCandidates : c.maxCandidates ≤ 5
  primaryProbeSamples : 1 ≤ c.primaryProbeSamples
  primary_le : c.primaryProbeSamples ≤ c.probeSamples
  p2pProbeGraceMs : c.p2pProbeGraceMs ≤ 5000
  probeSamples : c.probeSamples ≤ 20
  probeIntervalMs : c.probeIntervalMs ≤ 2000
  probeTimeoutMs : c.probeTimeoutMs ≤ 5000
  reportTimeoutMs : c.reportTimeoutMs ≤ 60000
  allocationTtlSeconds : c.allocationTtlSeconds ≤ 300
  missingReportPenalty : c.missingReportPenaltyBasisPoints ≤ 10000
  rttBadMs : 10 ≤ c.rttBadMs ∧ c.rttBadMs ≤ 10000
  jitterBadMs : 1 ≤ c.jitterBadMs ∧ c.jitterBadMs ≤ 5000
  weights : c.weights.rtt + c.weights.jitter + c.weights.loss + c.weights.load = 10000

theorem checkQualityLimits_ok {c : Config.RelayQualityConfig} {u : Unit}
    (h : Config.checkQualityLimits c = .ok u) : WithinLimits c.toRelayQualityConfig := by
  simp only [Config.checkQualityLimits, bind_eq_ok, ensure_ok, inRange, Bool.and_eq_true,
    decide_eq_true_eq, beq_iff_eq] at h
  obtain ⟨-, hcandidates, -, hprimary, -, -, -, -, -, hgrace, -, hsamples, -, hinterval, -,
    htimeout, -, hreport, -, -, -, httl, -, -, -, -, -, -, -, hmissing, -, hrtt, -, hjitter,
    hweights, -⟩ := h
  refine
    { maxCandidates := hcandidates.2, primaryProbeSamples := hprimary.1.1
      primary_le := hprimary.2, p2pProbeGraceMs := hgrace, probeSamples := hsamples.2
      probeIntervalMs := hinterval.2, probeTimeoutMs := htimeout.2, reportTimeoutMs := hreport.2
      allocationTtlSeconds := httl.2, missingReportPenalty := hmissing, rttBadMs := hrtt
      jitterBadMs := hjitter, weights := ?_ }
  simp only [satAdd32, u32Max] at hweights
  omega

/-! ## The whole section -/

section

variable {env : Config.Env} {config c : Config.RelayQualityConfig} {relayServers : List String}
  {relayHealth : Config.RelayHealthConfig}

/-- The checks that an accepted section has passed. -/
theorem validateRelayQuality_checks
    (h : Config.validateRelayQuality env config relayServers relayHealth = .ok c) :
    Config.checkQualityLimits c = .ok () ∧ (c.enabled = true → 2 ≤ c.maxCandidates ∧
      Config.checkQualityTimes c relayHealth.intervalSeconds relayHealth.timeoutMs = .ok ()) := by
  simp only [Config.validateRelayQuality, bind_eq_ok, ensure_ok] at h
  obtain ⟨legacy, _, _, hlimits, _, _, _, hcandidates, _, _, _, hchecks, hc⟩ := h
  cases hc
  refine ⟨hlimits, fun henabled => ?_⟩
  change config.enabled = true at henabled
  rw [henabled, Config.onlyIf, if_pos rfl] at hchecks
  rw [henabled] at hcandidates
  obtain ⟨-, -, htimes⟩ := bind_eq_ok.mp hchecks
  exact ⟨by simpa using hcandidates, htimes⟩

theorem validateRelayQuality_limits
    (h : Config.validateRelayQuality env config relayServers relayHealth = .ok c) :
    WithinLimits c.toRelayQualityConfig :=
  checkQualityLimits_ok (validateRelayQuality_checks h).1

end

/-! ## An accepted section -/

def telemetryUrl : Config.Url where
  scheme := "wss"
  hostStr := some "a"
  port := none
  username := ""
  password := none
  path := "/ws/telemetry"
  query := none
  fragment := none
  host := some .domain

def sampleConfigEnv : Config.Env where
  readWire _ := .ok { version := 5 }
  parseUrl _ := .ok telemetryUrl
  parseHost _ := .ok .domain
  parseNetwork _ := .ok ()
  compileRules _ := .ok ()
  debug _ := "[]"
  toVec _ := .ok []
  sha256Digest _ := "sha256:"

def sampleSection (strategy : Strategy) : Config.RelayQualityConfig :=
  { enabled := true, strategy }

/-- Telemetry of the relays `a` and `b`. -/
def sampleHealth : Config.RelayHealthConfig where
  endpoints := ["a", "b"].map fun relay =>
    ⟨relay, "wss://" ++ relay ++ "/ws/telemetry", some "secret", none⟩

theorem sampleSection_valid (strategy : Strategy) :
    Config.validateRelayQuality sampleConfigEnv (sampleSection strategy) ["a", "b"] sampleHealth =
      .ok (sampleSection strategy) := by
  cases strategy <;> rfl

end Starry.Quality
