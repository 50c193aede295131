import Starry.Telemetry.Answers

/-!
# The loads that HBBS has

HBBS keeps of a relay what the last accepted response has said, and remembers of its process how far
it was. Results wait for their turn meanwhile, and configurations come and go.
-/

open Library

namespace Starry.Telemetry

open Starry.Hbbr (Headers SignedRequest TelemetryReplayCache authenticateTelemetryRequest absDiff
  tagBytes telemetryAuthClockSkewSeconds)
open Starry.RelayHealth (Health HealthState Prober RelayEndpointConfig RelayHealthConfig
  EndpointState ProbeSuccess TelemetryEnvelope telemetryClockSkewMillis isReplay accepted)
open Starry.RelayObserver (RelayLoadTelemetry)

section

variable {codec : Codec} {w w' : World codec} {m : Move codec}

/-! ## What HBBS keeps to -/

/-- The generation whose probes are on their way. -/
def probing : Prober → Option Nat
  | .probing generation _ => some generation
  | _ => none

def unrecorded : Prober → List (String × Except String ProbeSuccess)
  | .recording _ _ results => results
  | _ => []

def World.pending (w : World codec) : List (String × Except String ProbeSuccess) :=
  w.results ++ unrecorded w.health.prober

/-- The load is what was signed for a request of this relay, in a cycle of this generation. -/
structure World.Answered (w : World codec) (generation : Nat) (relay : String)
    (load : RelayLoadTelemetry) (a : Answer codec) : Prop where
  answer : a ∈ w.answers
  load : load = a.payload.envelope.load
  asked : ∃ q ∈ w.asked, q.generation = generation ∧ toAsciiLowercase q.relay = relay ∧
    q.nonce = a.nonce ∧ q.key = a.key

structure Remembers (endpoint : EndpointState) (a : Answer codec) : Prop where
  id : endpoint.telemetryInstanceId = some a.identity.processInstanceId
  sequence : endpoint.telemetrySequence = some a.sequence
  uptime : endpoint.telemetryUptimeSeconds = some a.reading.uptimeSeconds.toNat

/-- What is still to come for a relay comes after the answer. -/
structure World.Follows (w : World codec) (relay : String) (a : Answer codec) : Prop where
  waiting : ∀ endpoint context, (endpoint, .waiting (some context)) ∈ w.probes →
    toAsciiLowercase endpoint.relay = relay → w.After a context.nonce
  pending : ∀ result ∈ w.pending, toAsciiLowercase result.1 = relay → ∀ success load,
    result.2 = .ok success → success.load = some load →
      ∃ a' ∈ w.answers, load = a'.payload.envelope.load ∧ a.Before a'

structure World.Watched (w : World codec) : Prop where
  calls : ∀ call ∈ w.health.calls, DistinctRelays call.config
  config : DistinctRelays w.health.state.config
  cycle : ∀ generation config, w.health.prober.cycle = some (generation, config) →
    DistinctRelays config
  recording : ((unrecorded w.health.prober).map fun result => toAsciiLowercase result.1).Nodup
  idle : probing w.health.prober = none → w.probes = [] ∧ w.results = []
  waiting : ∀ endpoint context, (endpoint, .waiting (some context)) ∈ w.probes →
    ∃ q ∈ w.asked, probing w.health.prober = some q.generation ∧ q.relay = endpoint.relay ∧
      q.nonce = context.nonce ∧ q.key = context.key
  pending : ∀ result ∈ w.pending, ∀ success load, result.2 = .ok success →
    success.load = some load → ∃ generation config a,
      w.health.prober.cycle = some (generation, config) ∧
        w.Answered generation (toAsciiLowercase result.1) load a
  stored : ∀ relay endpoint load, w.health.state.endpoints.get relay = some endpoint →
    endpoint.load = some load → ∃ a, w.Answered w.health.state.generation relay load a
  remembered : ∀ relay endpoint, w.health.state.endpoints.get relay = some endpoint →
    endpoint.telemetryInstanceId.isSome = true →
      ∃ a ∈ w.answers, Remembers endpoint a ∧ w.Follows relay a

theorem World.Answered.grow {generation : Nat} {relay : String} {load : RelayLoadTelemetry}
    {a : Answer codec} (h : w.Answered generation relay load a) (hgrown : w.Grown w') :
    w'.Answered generation relay load a := by
  obtain ⟨q, hq, hasked⟩ := h.asked
  exact ⟨hgrown.answers a h.answer, h.load, q, hgrown.asked q hq, hasked⟩

/-- The probes on their way and the results stay as they are. -/
theorem World.Follows.same {relay : String} {a : Answer codec} (h : w.Follows relay a)
    (hw : w.Known) (ha : a ∈ w.answers) (heffect : w.Effect w') (hprobes : w'.probes = w.probes)
    (hpending : w'.pending = w.pending) : w'.Follows relay a := by
  refine ⟨fun endpoint context hmem hrelay => ?_,
    fun result hresult hrelay success load hok hload => ?_⟩
  · rw [hprobes] at hmem
    exact (h.waiting endpoint context hmem hrelay).step hw ha heffect
  · rw [hpending] at hresult
    obtain ⟨a', ha', hsame, hbefore⟩ := h.pending result hresult hrelay success load hok hload
    exact ⟨a', heffect.grown.answers a' ha', hsame, hbefore⟩

theorem World.Watched.frame (h : w.Watched) (hw : w.Known) (heffect : w.Effect w')
    (hcalls : ∀ call ∈ w'.health.calls, DistinctRelays call.config)
    (hconfig : DistinctRelays w'.health.state.config)
    (hcycle : w'.health.prober.cycle = w.health.prober.cycle)
    (hprobing : probing w'.health.prober = probing w.health.prober)
    (hunrecorded : unrecorded w'.health.prober = unrecorded w.health.prober)
    (hprobes : w'.probes = w.probes) (hresults : w'.results = w.results)
    (hendpoints : (w'.health.state.generation = w.health.state.generation ∧
        w'.health.state.endpoints = w.health.state.endpoints) ∨
      ∀ relay endpoint, w'.health.state.endpoints.get relay = some endpoint → endpoint = {}) :
    w'.Watched := by
  have hgrown := heffect.grown
  have hpending : w'.pending = w.pending := by
    unfold World.pending
    rw [hresults, hunrecorded]
  refine ⟨hcalls, hconfig, ?_, hunrecorded ▸ h.recording, ?_, fun endpoint context hmem => ?_,
    fun result hresult success load hok hload => ?_, fun relay endpoint load hget hload => ?_,
    fun relay endpoint hget hid => ?_⟩
  · rw [hcycle]
    exact h.cycle
  · rw [hprobing, hprobes, hresults]
    exact h.idle
  · rw [hprobes] at hmem
    obtain ⟨q, hq, hasked⟩ := h.waiting endpoint context hmem
    exact ⟨q, hgrown.asked q hq, hprobing ▸ hasked⟩
  · rw [hpending] at hresult
    obtain ⟨generation, config, a, hcycle', ha⟩ := h.pending result hresult success load hok hload
    exact ⟨generation, config, a, hcycle.trans hcycle', ha.grow hgrown⟩
  · rcases hendpoints with ⟨hgeneration, hsame⟩ | hfresh
    · rw [hsame] at hget
      obtain ⟨a, ha⟩ := h.stored relay endpoint load hget hload
      exact ⟨a, hgeneration ▸ ha.grow hgrown⟩
    · rw [hfresh relay endpoint hget] at hload
      cases hload
  · rcases hendpoints with ⟨-, hsame⟩ | hfresh
    · rw [hsame] at hget
      obtain ⟨a, ha, hremembers, hfollows⟩ := h.remembered relay endpoint hget hid
      exact ⟨a, hgrown.answers a ha, hremembers, hfollows.same hw ha heffect hprobes hpending⟩
    · rw [hfresh relay endpoint hget] at hid
      cases hid

/-! ## The steps of a cycle -/

section Cycles

variable {health : Health}

theorem World.Watched.number (h : w.Watched) (hw : w.Known) {enabled : Bool}
    {config : RelayHealthConfig} (hdistinct : DistinctRelays config)
    (hstep : w.health.step (.number enabled config) = some health) :
    World.Watched { w with health } := by
  simp only [Health.step] at hstep
  split at hstep
  swap
  · cases hstep
  cases hstep
  refine h.frame hw (.none rfl rfl rfl) (fun call hcall => ?_) h.config rfl rfl rfl rfl rfl
    (.inl ⟨rfl, rfl⟩)
  rcases List.mem_append.mp hcall with hcall | hcall
  · exact h.calls call hcall
  · rw [List.mem_singleton.mp hcall]
    exact hdistinct

/-- A call starts the task, and does not touch its cycle. -/
theorem write_prober {i : Nat} {health' : Health}
    (h : health.step (.write i) = some health') :
    health'.prober.cycle = health.prober.cycle ∧
      probing health'.prober = probing health.prober ∧
      unrecorded health'.prober = unrecorded health.prober := by
  obtain ⟨call, -, rfl⟩ := Option.map_eq_some_iff.mp h
  obtain ⟨counter, calls, state, prober, log⟩ := health
  cases prober <;> exact ⟨rfl, rfl, rfl⟩

theorem World.Watched.write (h : w.Watched) (hw : w.Known) {i : Nat}
    (hstep : w.health.step (.write i) = some health) : World.Watched { w with health } := by
  obtain ⟨hcycle, hprobing, hunrecorded⟩ := write_prober hstep
  obtain ⟨call, hcall, rfl⟩ := Option.map_eq_some_iff.mp hstep
  refine h.frame hw (.none rfl rfl rfl) (fun c hc => h.calls c (List.mem_of_mem_eraseIdx hc))
    (h.calls call (List.mem_of_getElem? hcall)) hcycle hprobing hunrecorded rfl rfl
    (.inr fun relay endpoint hget => ?_)
  obtain ⟨_, -, -, rfl⟩ | hempty := Table.mem_of_get_foldl_insert
    (f := fun endpoint : RelayEndpointConfig => toAsciiLowercase endpoint.relay) hget
  · rfl
  · rw [Table.get_empty] at hempty
    cases hempty

theorem World.Watched.read (h : w.Watched) (hstep : w.health.step .read = some health) :
    World.Watched { w with
      health, probes := (World.relays health.prober).map (·, .starting), results := [] } := by
  simp only [Health.step] at hstep
  split at hstep
  swap
  · cases hstep
  rename_i hprober
  split at hstep
  swap
  · cases hstep
  cases hstep
  obtain ⟨hprobes, hresults⟩ := h.idle (by rw [hprober]; rfl)
  refine ⟨h.calls, h.config, fun generation config heq => ?_, List.nodup_nil,
    (fun hidle => by cases hidle), fun endpoint context hmem => ?_,
    fun result hresult => absurd hresult List.not_mem_nil,
    fun relay endpoint load hget hload => ?_, fun relay endpoint hget hid => ?_⟩
  · cases heq
    exact h.config
  · obtain ⟨endpoint', -, heq⟩ := List.mem_map.mp hmem
    cases heq
  · obtain ⟨a, ha⟩ := h.stored relay endpoint load hget hload
    exact ⟨a, ha.answer, ha.load, ha.asked⟩
  · obtain ⟨a, ha, hremembers, -⟩ := h.remembered relay endpoint hget hid
    refine ⟨a, ha, hremembers, fun endpoint' context hmem => ?_, fun result hresult =>
      absurd hresult List.not_mem_nil⟩
    obtain ⟨endpoint', -, heq⟩ := List.mem_map.mp hmem
    cases heq

theorem recordResult_load {endpoint : EndpointState} {result : Except String ProbeSuccess}
    {successThreshold failureThreshold : Nat} {load : RelayLoadTelemetry}
    (h : (RelayHealth.recordResult endpoint result successThreshold failureThreshold).load =
      some load) : ∃ success, result = .ok success ∧ success.load = some load := by
  unfold RelayHealth.recordResult at h
  cases result with
  | error code => cases h
  | ok success =>
    dsimp only at h
    split at h
    · cases h
    · refine ⟨success, rfl, ?_⟩
      simp only [RelayHealth.applySuccess] at h
      split at h
      · exact h
      · cases h

/-- An endpoint remembers its last load, whatever comes after it. -/
theorem recordResult_memory (endpoint : EndpointState) (result : Except String ProbeSuccess)
    (successThreshold failureThreshold : Nat) :
    let endpoint' := RelayHealth.recordResult endpoint result successThreshold failureThreshold
    (endpoint'.telemetryInstanceId = endpoint.telemetryInstanceId ∧
      endpoint'.telemetrySequence = endpoint.telemetrySequence ∧
      endpoint'.telemetryUptimeSeconds = endpoint.telemetryUptimeSeconds) ∨
    ∃ success load, result = .ok success ∧ success.load = some load ∧
      endpoint'.telemetryInstanceId = some load.processInstanceId ∧
      endpoint'.telemetrySequence = some load.sequence ∧
      endpoint'.telemetryUptimeSeconds = some load.uptimeSeconds := by
  unfold RelayHealth.recordResult
  cases result with
  | error code => exact .inl ⟨rfl, rfl, rfl⟩
  | ok success =>
    dsimp only
    split
    · exact .inl ⟨rfl, rfl, rfl⟩
    · simp only [RelayHealth.applySuccess]
      generalize hload : (if success.relayProbeProtocol.getD 0 ≥ 1 ∧
        success.relayLoadProtocol.getD 0 ≥ 1 then success.load else none) = load
      have hsource : load = success.load ∨ load = none := by
        rw [← hload]
        split
        · exact .inl rfl
        · exact .inr rfl
      cases load with
      | none => exact .inl ⟨rfl, rfl, rfl⟩
      | some load =>
        have hsome := hsource.resolve_right (Option.some_ne_none load)
        exact .inr ⟨success, load, rfl, hsome.symm, rfl, rfl, rfl⟩

/-- `record` changes the one endpoint, and none of another generation. -/
theorem recordUnder_get {config : RelayHealthConfig} {generation : Nat} {relay key : String}
    {result : Except String ProbeSuccess} {s : HealthState} {endpoint : EndpointState}
    (h : (RelayHealth.recordUnder config generation relay result s).endpoints.get key =
      some endpoint) :
    s.endpoints.get key = some endpoint ∨
      key = toAsciiLowercase relay ∧ s.generation = generation ∧ ∃ before,
        s.endpoints.get key = some before ∧
        endpoint = RelayHealth.recordResult before result config.successThreshold
          config.failureThreshold := by
  by_cases hcurrent : s.generation = generation
  · cases hbefore : s.endpoints.get (toAsciiLowercase relay) with
    | none =>
      have hsame : RelayHealth.recordUnder config generation relay result s = s := by
        unfold RelayHealth.recordUnder
        rw [if_neg (not_not.mpr hcurrent), hbefore]
      exact .inl (hsame ▸ h)
    | some before =>
      rw [(RelayHealth.recordUnder_current config result hcurrent hbefore).1, Table.get_insert] at h
      split at h
      · rename_i hkey
        subst hkey
        exact .inr ⟨rfl, hcurrent, before, hbefore, (Option.some.inj h).symm⟩
      · exact .inl h
  · rw [(RelayHealth.recordUnder_stale config relay result hcurrent).1] at h
    exact .inl h

/-- A result that is recorded. -/
theorem World.Watched.record (h : w.Watched) {generation : Nat} {config : RelayHealthConfig}
    {relay : String} {result : Except String ProbeSuccess}
    {results : List (String × Except String ProbeSuccess)} {log : List RelayHealth.Recorded}
    (hprober : w.health.prober = .recording generation config ((relay, result) :: results)) :
    World.Watched { w with health := { w.health with
      state := RelayHealth.recordUnder config generation relay result w.health.state
      prober := .recording generation config results
      log } } := by
  obtain ⟨hgeneration, -, hconfig⟩ := RelayHealth.recordUnder_generation config generation relay
    result w.health.state
  obtain ⟨hprobes, hresults⟩ := h.idle (by rw [hprober]; rfl)
  have hold : w.pending = (relay, result) :: results := by
    unfold World.pending
    rw [hresults, hprober]
    rfl
  have hcycle : w.health.prober.cycle = some (generation, config) := by
    rw [hprober]
    rfl
  have hdistinct := h.recording
  rw [hprober] at hdistinct
  obtain ⟨hfirst, hrest⟩ := List.nodup_cons.mp hdistinct
  -- No other result of this relay is left, and no probe is on its way.
  set w' : World codec := { w with health := { w.health with
    state := RelayHealth.recordUnder config generation relay result w.health.state
    prober := .recording generation config results
    log } } with hw'
  have hnew : w'.pending = results := by
    change w.results ++ results = results
    rw [hresults]
    rfl
  have hnone : ∀ a, w'.Follows (toAsciiLowercase relay) a := by
    refine fun a => ⟨fun endpoint context hmem => ?_, fun r hr hrelay => ?_⟩
    · change _ ∈ w.probes at hmem
      rw [hprobes] at hmem
      cases hmem
    · rw [hnew] at hr
      exact absurd (List.mem_map.mpr ⟨r, hr, hrelay⟩) hfirst
  have hkept : ∀ key a, w.Follows key a → w'.Follows key a := by
    refine fun key a hfollows => ⟨fun endpoint context hmem hrelay => ?_, fun r hr => ?_⟩
    · obtain ⟨hanswers, hdrawn⟩ := hfollows.waiting endpoint context hmem hrelay
      exact ⟨hanswers, hdrawn⟩
    · rw [hnew] at hr
      exact hfollows.pending r (hold ▸ List.mem_cons_of_mem _ hr)
  refine ⟨h.calls, ?_, fun g c heq => ?_, hrest, fun _ => ⟨hprobes, hresults⟩,
    fun endpoint context hmem => ?_, fun r hr success load hok hload => ?_,
    fun key endpoint load hendpoint hload => ?_, fun key endpoint hendpoint hid => ?_⟩
  · change DistinctRelays (RelayHealth.recordUnder _ _ _ _ _).config
    rw [hconfig]
    exact h.config
  · cases heq
    exact h.cycle generation config hcycle
  · change _ ∈ w.probes at hmem
    rw [hprobes] at hmem
    cases hmem
  · rw [hnew] at hr
    obtain ⟨g, c, a, hcycle', ha⟩ := h.pending r (hold ▸ List.mem_cons_of_mem _ hr) success load hok
      hload
    cases hcycle.symm.trans hcycle'
    exact ⟨generation, config, a, rfl, ha.answer, ha.load, ha.asked⟩
  · change ∃ a, w'.Answered (RelayHealth.recordUnder _ _ _ _ _).generation key load a
    rw [hgeneration]
    rcases recordUnder_get hendpoint with hsame | ⟨rfl, hcurrent, before, hbefore, rfl⟩
    · obtain ⟨a, ha⟩ := h.stored key endpoint load hsame hload
      exact ⟨a, ha.answer, ha.load, ha.asked⟩
    · obtain ⟨success, rfl, hsuccess⟩ := recordResult_load hload
      obtain ⟨g, c, a, hcycle', ha⟩ := h.pending (relay, .ok success)
        (hold ▸ List.mem_cons_self) success load rfl hsuccess
      cases hcycle.symm.trans hcycle'
      exact ⟨a, ha.answer, ha.load, hcurrent ▸ ha.asked⟩
  · rcases recordUnder_get hendpoint with hsame | ⟨rfl, hcurrent, before, hbefore, rfl⟩
    · obtain ⟨a, ha, hremembers, hfollows⟩ := h.remembered key endpoint hsame hid
      exact ⟨a, ha, hremembers, hkept key a hfollows⟩
    · obtain ⟨hsame, hsequence, huptime⟩ | ⟨success, load, rfl, hload, hsame, hsequence, huptime⟩ :=
        recordResult_memory before result config.successThreshold config.failureThreshold
      · rw [hsame] at hid
        obtain ⟨a, ha, hremembers, -⟩ := h.remembered _ before hbefore hid
        exact ⟨a, ha, ⟨hsame.trans hremembers.id, hsequence.trans hremembers.sequence,
          huptime.trans hremembers.uptime⟩, hnone a⟩
      · obtain ⟨g, c, a, -, ha⟩ := h.pending (relay, .ok success) (hold ▸ List.mem_cons_self)
          success load rfl hload
        have hvalues := ha.load
        subst hvalues
        exact ⟨a, ha.answer, ⟨hsame, hsequence, huptime⟩, hnone a⟩

theorem World.Watched.finish (h : w.Watched) {generation : Nat} {config : RelayHealthConfig}
    (hprober : w.health.prober = .recording generation config []) :
    World.Watched { w with health := { w.health with
      state := RelayHealth.finishCycle generation w.health.state, prober := .waiting } } := by
  obtain ⟨hgeneration, hconfig, hendpoints⟩ :=
    RelayHealth.finishCycle_generation generation w.health.state
  obtain ⟨hprobes, hresults⟩ := h.idle (by rw [hprober]; rfl)
  refine ⟨h.calls, ?_, (fun g c heq => by cases heq), List.nodup_nil,
    fun _ => ⟨hprobes, hresults⟩, fun endpoint context hmem => ?_, fun r hr => ?_,
    fun key endpoint load hget hload => ?_, fun key endpoint hget hid => ?_⟩
  · change DistinctRelays (RelayHealth.finishCycle _ _).config
    rw [hconfig]
    exact h.config
  · change _ ∈ w.probes at hmem
    rw [hprobes] at hmem
    cases hmem
  · change r ∈ w.results ++ [] at hr
    rw [hresults] at hr
    cases hr
  · change (RelayHealth.finishCycle _ _).endpoints.get key = _ at hget
    rw [hendpoints] at hget
    obtain ⟨a, ha⟩ := h.stored key endpoint load hget hload
    exact ⟨a, ha.answer, ha.load, hgeneration.symm ▸ ha.asked⟩
  · change (RelayHealth.finishCycle _ _).endpoints.get key = _ at hget
    rw [hendpoints] at hget
    obtain ⟨a, ha, hremembers, -⟩ := h.remembered key endpoint hget hid
    refine ⟨a, ha, hremembers, fun endpoint context hmem => ?_, fun r hr => ?_⟩
    · change _ ∈ w.probes at hmem
      rw [hprobes] at hmem
      cases hmem
    · change r ∈ w.results ++ [] at hr
      rw [hresults] at hr
      cases hr

theorem World.Watched.advance (h : w.Watched) (hstep : w.health.step .advance = some health) :
    World.Watched { w with health } := by
  simp only [Health.step] at hstep
  split at hstep
  · rename_i hprober
    cases hstep
    exact h.record hprober
  · rename_i hprober
    cases hstep
    exact h.finish hprober
  · cases hstep

theorem World.Watched.collect (h : w.Watched)
    (hstep : w.health.step (.collected w.results) = some health) :
    World.Watched { w with health, probes := [], results := [] } := by
  simp only [Health.step] at hstep
  split at hstep
  swap
  · cases hstep
  rename_i generation config hprober
  split at hstep
  swap
  · cases hstep
  rename_i hperm
  cases hstep
  have hcycle : w.health.prober.cycle = some (generation, config) := by
    rw [hprober]
    rfl
  have hpending : w.pending = w.results := by
    unfold World.pending
    rw [hprober]
    exact List.append_nil _
  refine ⟨h.calls, h.config, fun g c heq => ?_, ?_, fun _ => ⟨rfl, rfl⟩,
    fun endpoint context hmem => absurd hmem List.not_mem_nil,
    fun r hr success load hok hload => ?_, fun key endpoint load hget hload => ?_,
    fun key endpoint hget hid => ?_⟩
  · cases heq
    exact h.cycle generation config hcycle
  · have hdistinct := h.cycle generation config hcycle
    have hlower := (List.isPerm_iff.mp hperm).map toAsciiLowercase
    rw [List.map_map, List.map_map] at hlower
    exact hlower.nodup_iff.mpr hdistinct
  · obtain ⟨g, c, a, hcycle', ha⟩ := h.pending r (hpending ▸ hr) success load hok hload
    cases hcycle.symm.trans hcycle'
    exact ⟨generation, config, a, rfl, ha.answer, ha.load, ha.asked⟩
  · obtain ⟨a, ha⟩ := h.stored key endpoint load hget hload
    exact ⟨a, ha.answer, ha.load, ha.asked⟩
  · obtain ⟨a, ha, hremembers, hfollows⟩ := h.remembered key endpoint hget hid
    exact ⟨a, ha, hremembers, fun endpoint context hmem => absurd hmem List.not_mem_nil,
      fun r hr => hfollows.pending r (hpending ▸ hr)⟩

end Cycles

/-! ## The probes -/

section Probes

/-- A probe changes, and perhaps ends. -/
theorem World.Watched.probe (h : w.Watched) (hw : w.Known) (heffect : w.Effect w')
    (hhealth : w'.health = w.health) (hbusy : (probing w.health.prober).isSome = true)
    {new : List (String × Except String ProbeSuccess)} (hresults : w'.results = w.results ++ new)
    (hwaiting : ∀ endpoint context, (endpoint, .waiting (some context)) ∈ w'.probes →
      (endpoint, .waiting (some context)) ∈ w.probes ∨ context.nonce ∉ w.asked.map (·.nonce) ∧
        ∃ q ∈ w'.asked, probing w.health.prober = some q.generation ∧ q.relay = endpoint.relay ∧
          q.nonce = context.nonce ∧ q.key = context.key)
    (hnew : ∀ result ∈ new, ∀ success load, result.2 = .ok success → success.load = some load →
      ∃ endpoint context, (endpoint, .waiting (some context)) ∈ w.probes ∧
        result.1 = endpoint.relay ∧ ∃ a ∈ w.answers, a.nonce = context.nonce ∧
          a.key = context.key ∧ load = a.payload.envelope.load) : w'.Watched := by
  have hgrown := heffect.grown
  have hnone : unrecorded w.health.prober = [] := by
    cases hprober : w.health.prober with
    | recording generation config results =>
      rw [hprober] at hbusy
      cases hbusy
    | absent | waiting | probing => rfl
  have hpending : w.pending = w.results ∧ w'.pending = w.results ++ new := by
    unfold World.pending
    rw [hhealth, hnone, hresults, List.append_nil, List.append_nil]
    exact ⟨rfl, rfl⟩
  refine ⟨hhealth ▸ h.calls, hhealth ▸ h.config, hhealth ▸ h.cycle, hhealth ▸ h.recording,
    fun hidle => ?_, fun endpoint context hmem => ?_, fun r hr success load hok hload => ?_,
    fun key endpoint load hget hload => ?_, fun key endpoint hget hid => ?_⟩
  · rw [hhealth] at hidle
    rw [hidle] at hbusy
    cases hbusy
  · rw [hhealth]
    rcases hwaiting endpoint context hmem with hold | ⟨-, hasked⟩
    · obtain ⟨q, hq, hasked⟩ := h.waiting endpoint context hold
      exact ⟨q, hgrown.asked q hq, hasked⟩
    · exact hasked
  · rw [hhealth]
    rw [hpending.2] at hr
    rcases List.mem_append.mp hr with hr | hr
    · obtain ⟨generation, config, a, hcycle, ha⟩ :=
        h.pending r (hpending.1 ▸ hr) success load hok hload
      exact ⟨generation, config, a, hcycle, ha.grow hgrown⟩
    · obtain ⟨endpoint, context, hmem, hrelay, a, ha, hnonce, hkey, hsame⟩ :=
        hnew r hr success load hok hload
      obtain ⟨q, hq, hprobing, hname, hqnonce, hqkey⟩ := h.waiting endpoint context hmem
      cases hprober : w.health.prober with
      | absent | waiting | recording =>
        rw [hprober] at hprobing
        cases hprobing
      | probing generation config =>
        rw [hprober] at hprobing
        cases hprobing
        refine ⟨q.generation, config, a, rfl, hgrown.answers a ha, hsame, q, hgrown.asked q hq, rfl,
          ?_, hqnonce.trans hnonce.symm, hqkey.trans hkey.symm⟩
        rw [hname, hrelay]
  · rw [hhealth] at hget ⊢
    obtain ⟨a, ha⟩ := h.stored key endpoint load hget hload
    exact ⟨a, ha.grow hgrown⟩
  · rw [hhealth] at hget
    obtain ⟨a, ha, hremembers, hfollows⟩ := h.remembered key endpoint hget hid
    refine ⟨a, hgrown.answers a ha, hremembers, fun endpoint context hmem hrelay => ?_,
      fun r hr hrelay success load hok hload => ?_⟩
    · rcases hwaiting endpoint context hmem with hold | ⟨hfresh, -⟩
      · exact (hfollows.waiting endpoint context hold hrelay).step hw ha heffect
      · exact (hw.after_fresh hfresh).step hw ha heffect
    · rw [hpending.2] at hr
      rcases List.mem_append.mp hr with hr | hr
      · obtain ⟨a', ha', hrest⟩ :=
          hfollows.pending r (hpending.1 ▸ hr) hrelay success load hok hload
        exact ⟨a', hgrown.answers a' ha', hrest⟩
      · obtain ⟨endpoint, context, hmem, hname, a', ha', hnonce, -, hsame⟩ :=
          hnew r hr success load hok hload
        have hafter := hfollows.waiting endpoint context hmem (hname ▸ hrelay)
        exact ⟨a', hgrown.answers a' ha', hsame, hafter.answers a' ha' hnonce⟩

theorem World.Watched.busy (h : w.Watched) {i : Nat} {x : RelayEndpointConfig × Flight codec}
    (hx : w.probes[i]? = some x) : (probing w.health.prober).isSome = true := by
  cases hprobing : probing w.health.prober with
  | some generation => rfl
  | none =>
    rw [(h.idle hprobing).1] at hx
    cases hx

/-- Of the probes that were waiting, the others wait on. -/
theorem waiting_of_set {probes : List (RelayEndpointConfig × Flight codec)} {i : Nat}
    {endpoint endpoint' : RelayEndpointConfig} {context : TelemetryRequestContext codec}
    {flight : Flight codec}
    (h : (endpoint, .waiting (some context)) ∈ probes.set i (endpoint', flight))
    (hflight : flight = .ended ∨ flight = .waiting none) :
    (endpoint, .waiting (some context)) ∈ probes := by
  rcases List.mem_or_eq_of_mem_set h with hold | heq
  · exact hold
  · cases heq
    rcases hflight with heq | heq <;> cases heq

theorem World.Watched.ask (h : w.Watched) (hw : w.Known) {i : Nat} {key : codec.Key}
    {unixMillis : UInt64} {nonce : String} (hnext : w.Next (.ask i key unixMillis nonce) w') :
    w'.Watched := by
  have heffect := hw.effect hnext
  obtain ⟨⟨-, hfresh⟩, hstep⟩ := hnext
  simp only [World.step] at hstep
  split at hstep
  swap
  · cases hstep
  rename_i generation config endpoint hprober hprobe
  have hbusy := h.busy hprobe
  split at hstep
  · cases hstep
    refine h.probe hw heffect rfl hbusy (List.append_nil _).symm (fun e c hmem => ?_) (by simp)
    rcases List.mem_or_eq_of_mem_set hmem with hold | heq
    · exact .inl hold
    · cases heq
      refine .inr ⟨hfresh, _, List.mem_append_right _ List.mem_cons_self, ?_, rfl, rfl, rfl⟩
      rw [hprober]
      rfl
  · cases hstep
    exact h.probe hw heffect rfl hbusy (List.append_nil _).symm
      (fun e c hmem => .inl (waiting_of_set hmem (.inr rfl))) (by simp)

theorem World.Watched.receive (h : w.Watched) (hw : w.Known) (hc : codec.Faithful)
    {i now latencyMs : Nat} {response : Headers}
    (hnext : w.Next (.receive i now latencyMs response) w') : w'.Watched := by
  have heffect := hw.effect hnext
  obtain ⟨hforged, hstep⟩ := hnext
  simp only [World.step] at hstep
  split at hstep
  swap
  · cases hstep
  rename_i endpoint context hprobe
  have hbusy := h.busy hprobe
  cases hstep
  refine h.probe hw heffect rfl hbusy rfl (fun e c hmem => .inl (waiting_of_set hmem (.inl rfl)))
    fun result hresult success load hok hload => ?_
  cases List.mem_singleton.mp hresult
  cases context with
  | none =>
    obtain ⟨-, envelope, henvelope, -⟩ := probe_load hok hload
    cases henvelope
  | some context =>
    have hmem := List.mem_of_getElem? hprobe
    obtain ⟨q, hq, -, -, hnonce, -⟩ := h.waiting endpoint context hmem
    have hanswer := hw.received hc hforged (hnonce ▸ hw.simple q hq) hok hload
    exact ⟨endpoint, context, hmem, rfl, hanswer⟩

theorem World.Watched.fail (h : w.Watched) (hw : w.Known) {i : Nat} {code : String}
    (hnext : w.Next (.fail i code) w') : w'.Watched := by
  have heffect := hw.effect hnext
  obtain ⟨-, hstep⟩ := hnext
  have hend : ∀ endpoint : RelayEndpointConfig, (probing w.health.prober).isSome = true →
      w' = { w with
        probes := w.probes.set i (endpoint, .ended)
        results := w.results ++ [(endpoint.relay, .error code)] } → w'.Watched := by
    rintro endpoint hbusy rfl
    refine h.probe hw heffect rfl hbusy rfl (fun e c hmem => .inl (waiting_of_set hmem (.inl rfl)))
      fun result hresult success load hok => ?_
    cases List.mem_singleton.mp hresult
    cases hok
  simp only [World.step] at hstep
  split at hstep
  · rename_i endpoint hprobe
    exact hend endpoint (h.busy hprobe) (Option.some.inj hstep).symm
  · rename_i endpoint context hprobe
    exact hend endpoint (h.busy hprobe) (Option.some.inj hstep).symm
  · cases hstep

end Probes

/-! ## Every run -/

theorem World.Watched.init : (World.init : World codec).Watched := by
  have hempty : ∀ (relay : String) (endpoint : EndpointState),
      (World.init : World codec).health.state.endpoints.get relay ≠ some endpoint := by
    intro relay endpoint hget
    change (Table.empty : Table String EndpointState).get relay = some endpoint at hget
    rw [Table.get_empty] at hget
    cases hget
  exact ⟨fun call hcall => absurd hcall List.not_mem_nil, List.nodup_nil,
    (fun generation config heq => by cases heq), List.nodup_nil, fun _ => ⟨rfl, rfl⟩,
    fun endpoint context hmem => absurd hmem List.not_mem_nil,
    fun result hresult => absurd hresult List.not_mem_nil,
    fun relay endpoint load hget => absurd hget (hempty relay endpoint),
    fun relay endpoint hget => absurd hget (hempty relay endpoint)⟩

theorem World.Watched.step (h : w.Watched) (hw : w.Known) (hc : codec.Faithful)
    (hnext : w.Next m w') : w'.Watched := by
  have heffect := hw.effect hnext
  have hsame : w'.health = w.health → w'.probes = w.probes → w'.results = w.results →
      w'.Watched := fun hhealth hprobes hresults =>
    h.frame hw heffect (hhealth ▸ h.calls) (hhealth ▸ h.config) (by rw [hhealth]) (by rw [hhealth])
      (by rw [hhealth]) hprobes hresults (.inl (by rw [hhealth]; exact ⟨rfl, rfl⟩))
  cases m with
  | cycle m =>
    obtain ⟨hallowed, hstep⟩ := hnext
    cases m with
    | collected results => cases hstep
    | number enabled config =>
      obtain ⟨health, hhealth, rfl⟩ := Option.map_eq_some_iff.mp hstep
      exact h.number hw hallowed hhealth
    | write i =>
      obtain ⟨health, hhealth, rfl⟩ := Option.map_eq_some_iff.mp hstep
      exact h.write hw hhealth
    | read =>
      obtain ⟨health, hhealth, rfl⟩ := Option.map_eq_some_iff.mp hstep
      exact h.read hhealth
    | advance =>
      obtain ⟨health, hhealth, rfl⟩ := Option.map_eq_some_iff.mp hstep
      exact h.advance hhealth
  | ask i key unixMillis nonce => exact h.ask hw hnext
  | receive i now latencyMs response => exact h.receive hw hc hnext
  | fail i code => exact h.fail hw hnext
  | collect =>
    obtain ⟨health, hhealth, rfl⟩ := Option.map_eq_some_iff.mp hnext.2
    exact h.collect hhealth
  | start identity key =>
    cases hnext.2
    exact hsame rfl rfl rfl
  | accept k now headers =>
    obtain ⟨p, -, rfl⟩ := Option.map_eq_some_iff.mp hnext.2
    exact hsame rfl rfl rfl
  | draw k j =>
    obtain ⟨p, -, rfl⟩ := Option.map_eq_some_iff.mp hnext.2
    exact hsame rfl rfl rfl
  | sign k j r =>
    obtain ⟨p, -, rfl⟩ := Option.map_eq_some_iff.mp hnext.2
    exact hsame rfl rfl rfl

theorem reachable_watched (hc : codec.Faithful) (h : Reachable World.Next (.init : World codec) w) :
    w.Known ∧ w.Watched := by
  refine h.invariant (P := fun w => w.Known ∧ w.Watched) ⟨.init, .init⟩ ?_
  rintro u m v ⟨hknown, hwatched⟩ hnext
  exact ⟨hknown.step (hknown.effect hnext), hwatched.step hknown hc hnext⟩

/-- One identifier is one process. -/
theorem World.Known.process_eq (hw : w.Known) {a a' : Answer codec} (ha : a ∈ w.answers)
    (ha' : a' ∈ w.answers)
    (h : a.identity.processInstanceId = a'.identity.processInstanceId) :
    a'.process = a.process := by
  obtain ⟨p, hp, hidentity, -⟩ := (hw.answers a ha).process
  obtain ⟨p', hp', hidentity', -⟩ := (hw.answers a' ha').process
  have hlt := (List.getElem?_eq_some_iff.mp hp').1
  refine (List.getElem?_inj (by simpa using hlt) hw.names).mp ?_
  rw [List.getElem?_map, List.getElem?_map, hp, hp', Option.map_some, Option.map_some, hidentity,
    hidentity', h]

/-- Whatever the network does and however the relays restart: a load that HBBS has of a relay is
what a process with the secret of that relay has read and signed, for a nonce that HBBS has drawn
for a probe of this very relay in this generation. And no result is refused as a replay, before a
process has come around its sequence. -/
theorem loads_are_answers (hc : codec.Faithful)
    (h : Reachable World.Next (.init : World codec) w) :
    (∀ relay endpoint load, w.health.state.endpoints.get relay = some endpoint →
      endpoint.load = some load → ∃ a, w.Answered w.health.state.generation relay load a ∧
        a.reading.Found a.identity ∧
        ∀ q ∈ w.asked, q.nonce = a.nonce → toAsciiLowercase q.relay = relay) ∧
    ∀ generation config relay success results endpoint,
      w.health.prober = .recording generation config ((relay, .ok success) :: results) →
      w.health.state.endpoints.get (toAsciiLowercase relay) = some endpoint →
      (∀ p ∈ w.processes, p.fetched ≤ u64Max) → accepted endpoint (.ok success) = true := by
  obtain ⟨hw, hwatched⟩ := reachable_watched hc h
  refine ⟨fun relay endpoint load hget hload => ?_,
    fun generation config relay success results endpoint hprober hget hfetched => ?_⟩
  · obtain ⟨a, ha⟩ := hwatched.stored relay endpoint load hget hload
    refine ⟨a, ha, (hw.answers a ha.answer).found, fun q hq hnonce => ?_⟩
    obtain ⟨q', hq', -, hrelay, hnonce', -⟩ := ha.asked
    rw [List.inj_on_of_nodup_map hw.nonces hq hq' (hnonce.trans hnonce'.symm)]
    exact hrelay
  · rw [accepted, Bool.not_eq_true']
    unfold isReplay
    split
    swap
    · rfl
    rename_i id load hid hload
    obtain ⟨a, ha, hremembers, hfollows⟩ :=
      hwatched.remembered _ endpoint hget (by rw [hid]; rfl)
    have hmem : (relay, .ok success) ∈ w.pending := by
      unfold World.pending
      rw [hprober]
      exact List.mem_append_right _ List.mem_cons_self
    obtain ⟨a', ha', rfl, hbefore⟩ := hfollows.pending _ hmem rfl success load rfl hload
    rw [hremembers.id] at hid
    cases hid
    rw [hremembers.sequence, hremembers.uptime, Bool.and_eq_false_imp]
    intro hsame
    obtain ⟨hticket, huptime⟩ := hbefore (hw.process_eq ha ha' (beq_iff_eq.mp hsame))
    have hexact : ∀ b ∈ w.answers, b.sequence = b.ticket := by
      intro b hb
      obtain ⟨p, hp, -, hle, -⟩ := (hw.answers b hb).process
      exact (hw.answers b hb).numbered.2 (hle.trans (hfetched p (List.mem_of_getElem? hp)))
    have hsequence : ¬ a'.sequence ≤ a.sequence := by
      rw [hexact a ha, hexact a' ha']
      exact Nat.not_le.mpr hticket
    change (Option.any (fun sequence => decide (a'.sequence ≤ sequence)) (some a.sequence) ||
      Option.any (fun uptime => decide (a'.reading.uptimeSeconds.toNat < uptime))
        (some a.reading.uptimeSeconds.toNat)) = false
    simp only [Option.any_some, hsequence, Nat.not_lt.mpr huptime, decide_false, Bool.or_false]

end

/-- Three tags: for two texts, and for all others. -/
def tagAmong (first second text : String) : Bytes :=
  if text = first then List.replicate tagBytes 1
  else if text = second then List.replicate tagBytes 2
  else List.replicate tagBytes 0

section

variable {first second text : String}

theorem length_tagAmong : (tagAmong first second text).length = tagBytes := by
  unfold tagAmong
  split
  · exact List.length_replicate
  · split <;> exact List.length_replicate

/-- The tag of one of the two is not that of another text. -/
theorem tagAmong_only (hne : second ≠ first) {text' : String}
    (h : tagAmong first second text' = tagAmong first second text)
    (htext : text = first ∨ text = second) : text' = text := by
  have hfirst : tagAmong first second first = List.replicate tagBytes 1 := if_pos rfl
  have hsecond : tagAmong first second second = List.replicate tagBytes 2 :=
    (if_neg hne).trans (if_pos rfl)
  rcases htext with rfl | rfl
  · rw [hfirst] at h
    unfold tagAmong at h
    split at h
    · assumption
    · split at h <;> exact absurd h (by decide)
  · rw [hsecond] at h
    unfold tagAmong at h
    split at h
    · exact absurd h (by decide)
    · split at h
      · assumption
      · exact absurd h (by decide)

end

def sampleNonce : String := "0197f3c26d1a7c3e8b4f5a6d7e8f9013"

def sampleRequest : String := (⟨toString 60, sampleNonce, ""⟩ : SignedRequest).canonical

def sampleResponse : String := responseText sampleNonce
  (encodeBase64 (plainToVec (sampleReading.payload sampleIdentity 1).toValue))

/-- Nobody else has a tag for the request and the response of the run below. -/
def tagCodec : Codec where
  toVec := plainToVec
  fromSlice := plainFromSlice
  Key := Unit
  authenticate text _ := tagAmong sampleRequest sampleResponse text
  verify tag text _ := tag == tagAmong sampleRequest sampleResponse text

theorem tagCodec_faithful : tagCodec.Faithful where
  fromSlice_toVec := plainFromSlice_toVec
  toVec_size := plainToVec_size
  verify_authenticate _ _ := beq_iff_eq.mpr rfl
  tag_size _ _ := length_tagAmong

def sampleAsked : Asked tagCodec := ⟨1, "relay.example", 60, sampleNonce, ()⟩

def sampleAnswer : Answer tagCodec := ⟨0, sampleIdentity, (), sampleNonce, 1, 1, sampleReading⟩

/-- The tag of a text that was signed gives nothing else away. -/
theorem unforged_of_signed {w : World tagCodec} {headers : Headers} {text : String}
    (htext : text = sampleRequest ∨ text = sampleResponse) (hsigned : w.Signed () text)
    (hheader : headers "x-starry-telemetry-auth" =
      some (hexEncode (tagCodec.authenticate text ()))) : w.Unforged headers := by
  intro value tag hvalue htag key text' hverify
  cases hheader.symm.trans hvalue
  rw [hexDecodeTag_hexEncode (tagCodec_faithful.tag_size text ())] at htag
  cases htag
  have hsame : tagAmong sampleRequest sampleResponse text' =
      tagAmong sampleRequest sampleResponse text := (beq_iff_eq.mp hverify).symm
  rw [tagAmong_only (canonical_ne_responseText _ _ _).symm hsame htext]
  exact hsigned

def sampleConfig : RelayHealthConfig := ⟨[sampleEndpoint], 1, 3⟩

def sampleHealth (prober : Prober) : Health :=
  ⟨1, [], RelayHealth.Numbered.state ⟨1, true, sampleConfig⟩ .initial, prober, []⟩

def sampleWorld (flight : Flight tagCodec) (p : Process tagCodec) (asked : List (Asked tagCodec))
    (answers : List (Answer tagCodec)) : World tagCodec :=
  ⟨sampleHealth (.probing 1 sampleConfig), [(sampleEndpoint, flight)], [], [p], asked, answers⟩

def sampleProcess (cache : TelemetryReplayCache) (fetched uptimeSeconds : Nat)
    (answering : List Answering) : Process tagCodec :=
  ⟨sampleIdentity, (), cache, UInt64.ofNat fetched, fetched, uptimeSeconds, answering⟩

def sampleCache : TelemetryReplayCache :=
  (authenticateTelemetryRequest tagCodec.verify (some ()) 60 sampleAsked.headers .empty).2

def sampleSuccess : ProbeSuccess :=
  ⟨12, some "1.1.14-patch-v1.3.1", some 1, some 1,
    some sampleAnswer.payload.envelope.load⟩

/-- The response is there, and not yet recorded. -/
def sampleCollected : World tagCodec :=
  ⟨sampleHealth (.recording 1 sampleConfig [("relay.example", .ok sampleSuccess)]), [], [],
    [sampleProcess sampleCache 1 60 []], [sampleAsked], [sampleAnswer]⟩

theorem sampleCollected_reachable :
    Reachable World.Next (.init : World tagCodec) sampleCollected := by
  have hconfig : DistinctRelays sampleConfig := List.nodup_singleton _
  have hstart : Reachable World.Next (.init : World tagCodec)
      (sampleWorld .starting (sampleProcess .empty 0 0 []) [] []) :=
    Reachable.refl World.init |>.step (i := .cycle (.number true sampleConfig)) ⟨hconfig, rfl⟩
      |>.step (i := .cycle (.write 0)) ⟨trivial, rfl⟩
      |>.step (i := .cycle .read) ⟨trivial, rfl⟩
      |>.step (i := .start sampleIdentity ()) ⟨⟨sampleIdentity_valid, List.not_mem_nil⟩, rfl⟩
  have hasked : Reachable World.Next (.init : World tagCodec)
      (sampleWorld (.waiting (some ⟨sampleNonce, ()⟩)) (sampleProcess .empty 0 0 [])
        [sampleAsked] []) :=
    hstart.step (i := .ask 0 () 60000 sampleNonce) ⟨⟨by decide, List.not_mem_nil⟩, rfl⟩
  have hclock : absDiff 60 sampleAsked.unixSeconds ≤ telemetryAuthClockSkewSeconds := by decide
  have hfresh : sampleAsked.nonce ∉ (TelemetryReplayCache.empty.forget 60).entries := by decide
  have hnonce := sampleAsked.accepted tagCodec_faithful (by decide) (by decide) hclock hfresh
  have haccept : (sampleProcess .empty 0 0 []).accept 60 sampleAsked.headers =
      sampleProcess sampleCache 0 0 [.accepted sampleNonce] :=
    Process.accept_of hnonce
  have haccepted : Reachable World.Next (.init : World tagCodec)
      (sampleWorld (.waiting (some ⟨sampleNonce, ()⟩))
        (sampleProcess sampleCache 0 0 [.accepted sampleNonce]) [sampleAsked] []) := by
    refine hasked.step (i := .accept 0 60 sampleAsked.headers) ⟨?_, ?_⟩
    · exact unforged_of_signed (.inl rfl) (.inl ⟨_, List.mem_singleton_self _, rfl, rfl⟩) rfl
    · change some (sampleWorld _ (Process.accept _ _ _) _ _) = _
      rw [haccept]
      rfl
  have hdrawn : Reachable World.Next (.init : World tagCodec)
      (sampleWorld (.waiting (some ⟨sampleNonce, ()⟩))
        (sampleProcess sampleCache 1 0 [.drawn sampleNonce 1 1]) [sampleAsked] []) :=
    haccepted.step (i := .draw 0 0) ⟨trivial, rfl⟩
  have hsigned : Reachable World.Next (.init : World tagCodec)
      (sampleWorld (.waiting (some ⟨sampleNonce, ()⟩)) (sampleProcess sampleCache 1 60 [])
        [sampleAsked] [sampleAnswer]) := by
    refine hdrawn.step (i := .sign 0 0 sampleReading) ⟨fun p hp => ?_, rfl⟩
    cases hp
    exact sampleReading_found
  have hsuccess : RelayHealth.probe sampleEndpoint 60000 12 (.ok (received tagCodec
      sampleAnswer.headers (some ⟨sampleNonce, ()⟩))) = .ok sampleSuccess := by
    have hclock : sampleReading.unixMillis.toNat ≤ satAdd 60000 telemetryClockSkewMillis := by
      decide
    exact probe_response tagCodec_faithful (payload_sound sampleReading_found (by decide))
      (sampleIdentity_valid.named sampleReading 1) () sampleNonce rfl hclock 12
  have hheader : sampleAnswer.headers "x-starry-telemetry-auth" =
      some (hexEncode (tagCodec.authenticate sampleAnswer.text ())) := rfl
  have htext : sampleAnswer.text = sampleResponse := by
    have hpayload : ∀ t : Payload, t.text tagCodec = encodeBase64 (plainToVec t.toValue) :=
      fun _ => rfl
    exact congrArg (responseText sampleNonce) (hpayload (sampleReading.payload sampleIdentity 1))
  have hreceived : Reachable World.Next (.init : World tagCodec)
      ⟨sampleHealth (.probing 1 sampleConfig), [(sampleEndpoint, .ended)],
        [("relay.example", .ok sampleSuccess)], [sampleProcess sampleCache 1 60 []],
        [sampleAsked], [sampleAnswer]⟩ := by
    refine hsigned.step (i := .receive 0 60000 12 sampleAnswer.headers) ⟨?_, ?_⟩
    · exact unforged_of_signed (.inr htext) (.inr ⟨_, List.mem_singleton_self _, rfl, rfl⟩) hheader
    · change some (World.mk _ _ [(_, RelayHealth.probe _ _ _ _)] _ _ _) = _
      rw [hsuccess]
      rfl
  exact hreceived.step (i := .collect) ⟨trivial, rfl⟩

/-- The response is recorded. -/
def sampleStored : World tagCodec :=
  { sampleCollected with health :=
    { sampleHealth (.recording 1 sampleConfig []) with
      state := RelayHealth.recordUnder sampleConfig 1 "relay.example" (.ok sampleSuccess)
        sampleCollected.health.state
      log := RelayHealth.noteRecorded 1 "relay.example" (.ok sampleSuccess)
        sampleCollected.health.state ++ [] } }

theorem loads_are_answers_exchange :
    accepted {} (.ok sampleSuccess) = true ∧
      ∃ a, sampleStored.Answered 1 "relay.example" { sampleTelemetry with sequence := 1 } a ∧
        a.reading.Found a.identity ∧
        ∀ q ∈ sampleStored.asked, q.nonce = a.nonce →
          toAsciiLowercase q.relay = "relay.example" := by
  have hstored : Reachable World.Next (.init : World tagCodec) sampleStored :=
    sampleCollected_reachable.step (i := .cycle .advance) ⟨trivial, rfl⟩
  have hget : sampleCollected.health.state.endpoints.get (toAsciiLowercase "relay.example") =
      some {} := by decide +kernel
  have hstate : sampleStored.health.state.endpoints.get "relay.example" =
      some (RelayHealth.applySuccess {} sampleSuccess 1) := by decide +kernel
  have hload : (RelayHealth.applySuccess {} sampleSuccess 1).load =
      some { sampleTelemetry with sequence := 1 } := by decide +kernel
  have hfetched : ∀ p ∈ sampleCollected.processes, p.fetched ≤ u64Max := by
    intro p hp
    cases List.mem_singleton.mp hp
    decide
  exact ⟨(loads_are_answers tagCodec_faithful sampleCollected_reachable).2 1 sampleConfig
      "relay.example" sampleSuccess [] {} rfl hget hfetched,
    (loads_are_answers tagCodec_faithful hstored).1 _ _ _ hstate hload⟩

end Starry.Telemetry
