import Starry.Quality.Limits
import Starry.Quality.Sources

/-!
# Relay quality: the deadlines of an offer can be met

`validate_relay_quality` demands room for the staged probes and `create_offer` computes the
deadlines, each with saturating arithmetic of its own. Here both are compared with the exact sums,
and the room that validation has left is followed to every later state of the allocation.
-/

open Library

namespace Starry.Quality

open QualityState

/-! ## Exact sums -/

/-- How long the samples of one candidate take at most. -/
def exactWindowMs (c : RelayQualityConfig) (samples : Nat) : Nat :=
  samples * c.probeTimeoutMs + (samples - 1) * c.probeIntervalMs

/-- How long an endpoint has for the primary stage. -/
def endpointWindowMs (c : RelayQualityConfig) : Nat :=
  c.p2pProbeGraceMs + exactWindowMs c c.primaryProbeSamples

/-- How long the first stage of an offer lasts. -/
def exactStageBudgetMs (c : RelayQualityConfig) : Nat :=
  match c.strategy with
  | .adaptive => 2 * endpointWindowMs c + primarySignalMarginMs
  | .eager => c.reportTimeoutMs

/-- The room that the checks of an enabled section leave. -/
structure Achievable (c : RelayQualityConfig) : Prop where
  limits : WithinLimits c
  adaptive : c.strategy = .adaptive →
    2 * endpointWindowMs c + exactWindowMs c c.probeSamples + 1000 ≤ c.reportTimeoutMs
  eager : c.strategy = .eager → 2 * exactWindowMs c c.probeSamples ≤ c.reportTimeoutMs
  ttl : c.reportTimeoutMs < c.allocationTtlSeconds * 1000

section

variable {c : RelayQualityConfig}

theorem exactWindowMs_le (h : WithinLimits c) {samples : Nat} (hsamples : samples ≤ 20) :
    exactWindowMs c samples ≤ 140000 := by
  have hprobes : samples * c.probeTimeoutMs ≤ 20 * 5000 :=
    Nat.mul_le_mul hsamples h.probeTimeoutMs
  have hpauses : (samples - 1) * c.probeIntervalMs ≤ 20 * 2000 :=
    Nat.mul_le_mul (by omega) h.probeIntervalMs
  unfold exactWindowMs
  omega

theorem probeWindowMs_eq (h : WithinLimits c) {samples : Nat} (hsamples : samples ≤ 20) :
    probeWindowMs samples c.probeTimeoutMs c.probeIntervalMs = exactWindowMs c samples := by
  have hle := exactWindowMs_le h hsamples
  unfold exactWindowMs at hle ⊢
  unfold probeWindowMs
  simp only [satAdd, satMul, u64Max]
  omega

theorem endpointWindowMs_le (h : WithinLimits c) : endpointWindowMs c ≤ 145000 := by
  have hgrace := h.p2pProbeGraceMs
  have hwindow := exactWindowMs_le h (h.primary_le.trans h.probeSamples)
  unfold endpointWindowMs
  omega

theorem primaryStageBudgetMs_eq (h : WithinLimits c) :
    primaryStageBudgetMs c = 2 * endpointWindowMs c + primarySignalMarginMs := by
  have hle := endpointWindowMs_le h
  unfold endpointWindowMs at hle ⊢
  unfold primaryStageBudgetMs
  rw [probeWindowMs_eq h (h.primary_le.trans h.probeSamples)]
  simp only [satAdd, satMul, u64Max, primarySignalMarginMs]
  omega

end

/-! ## The checks of the section -/

section

variable {c : Config.RelayQualityConfig}

/-- The validator's own window is the exact one as well. -/
theorem validated_window (h : WithinLimits c.toRelayQualityConfig) {samples : Nat}
    (hsamples : samples ≤ 20) :
    Config.probeWindowMs c samples = exactWindowMs c.toRelayQualityConfig samples :=
  probeWindowMs_eq h hsamples

theorem requiredReportMs_eq (h : WithinLimits c.toRelayQualityConfig) :
    Config.requiredReportMs c = match c.strategy with
      | .adaptive => 2 * endpointWindowMs c.toRelayQualityConfig +
          exactWindowMs c.toRelayQualityConfig c.probeSamples + 1000
      | .eager => 2 * exactWindowMs c.toRelayQualityConfig c.probeSamples := by
  have hsmall := endpointWindowMs_le h
  have hlarge := exactWindowMs_le h h.probeSamples
  unfold endpointWindowMs at hsmall ⊢
  unfold Config.requiredReportMs
  rw [validated_window h h.probeSamples,
    validated_window h (h.primary_le.trans h.probeSamples)]
  cases c.strategy with
  | adaptive =>
    simp only [satAdd, satMul, u64Max]
    omega
  | eager =>
    simp only [satMul, u64Max]
    omega

theorem checkQualityTimes_ok {intervalSeconds timeoutMs : Nat} {u : Unit}
    (hlimits : WithinLimits c.toRelayQualityConfig)
    (h : Config.checkQualityTimes c intervalSeconds timeoutMs = .ok u) :
    Achievable c.toRelayQualityConfig := by
  simp only [Config.checkQualityTimes, bind_eq_ok, Config.ensure_ok, decide_eq_true_eq] at h
  obtain ⟨-, -, -, hreport, httl⟩ := h
  rw [requiredReportMs_eq hlimits] at hreport
  refine ⟨hlimits, fun hstrategy => ?_, fun hstrategy => ?_, ?_⟩
  · simpa only [hstrategy] using hreport
  · simpa only [hstrategy] using hreport
  · have hseconds := hlimits.allocationTtlSeconds
    rwa [satMul_eq (by simp only [u64Max]; omega)] at httl

/-- Every enabled section that validation accepts leaves room for its stages. -/
theorem validateRelayQuality_achievable {env : Config.Env} {config : Config.RelayQualityConfig}
    {relayServers : List String} {relayHealth : Config.RelayHealthConfig}
    (h : Config.validateRelayQuality env config relayServers relayHealth = .ok c)
    (henabled : c.enabled = true) : Achievable c.toRelayQualityConfig :=
  checkQualityTimes_ok (validateRelayQuality_limits h)
    ((validateRelayQuality_checks h).2 henabled).2

end

/-! ## An offer -/

/-- `checked_deadline` on a clock that ends at `latest`. -/
def deadlineBefore (latest created : Instant) (milliseconds : Nat) : Instant :=
  if created + millis milliseconds ≤ latest then created + millis milliseconds else created

/-- The deadlines of `a` are the exact sums: nothing is clamped, saturates or falls back. -/
structure ExactDeadlines (env : Env) (c : RelayQualityConfig) (a : Allocation) : Prop where
  created : a.created = env.received
  total : a.totalDeadline = a.created + millis c.reportTimeoutMs
  stage : a.stageDeadline = a.created + millis (exactStageBudgetMs c)
  budget : exactStageBudgetMs c ≤ c.reportTimeoutMs
  clock : ∀ latest, a.totalDeadline ≤ latest →
    deadlineBefore latest a.created c.reportTimeoutMs = a.totalDeadline ∧
      deadlineBefore latest a.created (exactStageBudgetMs c) = a.stageDeadline
  unix : env.unixMs + c.reportTimeoutMs ≤ u64Max →
    a.totalDeadlineUnixMs = env.unixMs + c.reportTimeoutMs ∧
      a.stageDeadlineUnixMs = env.unixMs + exactStageBudgetMs c

section

variable {env : Env} {c : RelayQualityConfig} {q : OfferRequest}
  {views : List Observer.RelayRuntimeView} {a b : Allocation}

theorem Achievable.budget_le (h : Achievable c) : exactStageBudgetMs c ≤ c.reportTimeoutMs := by
  have hroom := h.adaptive
  unfold exactStageBudgetMs
  cases hstrategy : c.strategy with
  | adaptive =>
    have hroom := hroom hstrategy
    simp only [primarySignalMarginMs]
    omega
  | eager => exact le_rfl

/-- The clamp of the primary budget to the total never acts. -/
theorem offeredAllocation_deadlines (h : Achievable c) :
    (offeredAllocation env c q views).stageDeadline =
        checkedDeadline env.received (exactStageBudgetMs c) ∧
      (offeredAllocation env c q views).stageDeadlineUnixMs =
        satAdd env.unixMs (exactStageBudgetMs c) := by
  have hbudget := h.budget_le
  unfold offeredAllocation
  unfold exactStageBudgetMs at hbudget ⊢
  cases hstrategy : c.strategy with
  | adaptive =>
    simp only [hstrategy] at hbudget ⊢
    rw [primaryStageBudgetMs_eq h.limits, Nat.min_eq_left hbudget]
    exact ⟨rfl, rfl⟩
  | eager => exact ⟨rfl, rfl⟩

theorem offeredAllocation_exact (h : Achievable c) :
    ExactDeadlines env c (offeredAllocation env c q views) := by
  obtain ⟨hstage, hunix⟩ : (offeredAllocation env c q views).stageDeadline =
        checkedDeadline env.received (exactStageBudgetMs c) ∧
      (offeredAllocation env c q views).stageDeadlineUnixMs =
        satAdd env.unixMs (exactStageBudgetMs c) :=
    offeredAllocation_deadlines h
  have hbudget := h.budget_le
  have hmillis : millis (exactStageBudgetMs c) ≤ millis c.reportTimeoutMs :=
    Nat.mul_le_mul_right _ hbudget
  refine ⟨rfl, rfl, hstage, hbudget, fun latest hlatest => ⟨if_pos hlatest, ?_⟩, fun hclock => ?_⟩
  · rw [hstage]
    exact if_pos ((Nat.add_le_add_left hmillis _).trans hlatest)
  · rw [hunix]
    exact ⟨satAdd_eq hclock, satAdd_eq (by omega)⟩

/-- Whoever expands by the end of the primary stage has a full window left. -/
theorem ExactDeadlines.expanded_room (ha : ExactDeadlines env c a) (h : Achievable c)
    (hstrategy : c.strategy = .adaptive) {t : Instant} (ht : t ≤ a.stageDeadline) :
    t + millis (exactWindowMs c c.probeSamples) ≤ a.totalDeadline := by
  have hroom := h.adaptive hstrategy
  have hstage := ha.stage
  simp only [exactStageBudgetMs, hstrategy, primarySignalMarginMs] at hstage
  have hmillis : millis (2 * endpointWindowMs c + 500) +
      millis (exactWindowMs c c.probeSamples) ≤ millis c.reportTimeoutMs := by
    unfold millis
    omega
  calc t + millis (exactWindowMs c c.probeSamples)
      ≤ a.created + millis (2 * endpointWindowMs c + 500) +
          millis (exactWindowMs c c.probeSamples) := Nat.add_le_add_right (hstage ▸ ht) _
    _ ≤ a.created + millis c.reportTimeoutMs := by
      rw [Nat.add_assoc]
      exact Nat.add_le_add_left hmillis _
    _ = a.totalDeadline := ha.total.symm

end

/-! ## Later -/

/-- `b` is the allocation `a` at a later time, with its deadlines. -/
structure KeepsDeadlines (a b : Allocation) : Prop where
  created : b.created = a.created
  total : b.totalDeadline = a.totalDeadline
  primary : b.stage = .primary → a.stage = .primary ∧ b.stageDeadline = a.stageDeadline

theorem KeepsDeadlines.refl (a : Allocation) : KeepsDeadlines a a := ⟨rfl, rfl, fun h => ⟨h, rfl⟩⟩

theorem KeepsDeadlines.trans {a b d : Allocation} (h : KeepsDeadlines a b)
    (h' : KeepsDeadlines b d) : KeepsDeadlines a d := by
  refine ⟨h'.created.trans h.created, h'.total.trans h.total, fun hd => ?_⟩
  obtain ⟨hb, hdead⟩ := h'.primary hd
  obtain ⟨ha, hdead'⟩ := h.primary hb
  exact ⟨ha, hdead.trans hdead'⟩

theorem Evolves.keepsDeadlines {env : Env} {call : Call} {a b : Allocation}
    (h : Evolves env call a b) : KeepsDeadlines a b ∧ b.stage = a.stage := by
  obtain ⟨reports, uuid, rfl⟩ := h.eq
  exact ⟨⟨rfl, rfl, fun hstage => ⟨hstage, rfl⟩⟩, rfl⟩

section

variable {env : Env} {s : QualityState} {id : Bytes} {a a' : Allocation}

/-- A request that expands an allocation was received in time. -/
theorem resolveRequest_expands {uuid : String} {report : RelayProbeReport}
    (ha' : ((s.take id).resolveRequest env id (a.pin uuid) report).1.allocations.get id = some a')
    (hstage : a.stage = .primary) (hstage' : a'.stage = .expanded) :
    env.received ≤ a.stageDeadline := by
  have hfinal : ∀ d, ((s.take id).selectFinal env (a.pin uuid) d).1.allocations.get id = none := by
    intro d
    rw [selectFinal, recordFinalDecision_get, take_get, if_pos rfl]
  unfold resolveRequest at ha'
  split at ha'
  · rw [hfinal] at ha'
    cases ha'
  · rw [putBack_get, if_pos rfl] at ha'
    cases ha'
    rw [show (a.pin uuid).stage = a.stage from rfl, hstage] at hstage'
    cases hstage'
  · rw [hfinal] at ha'
    cases ha'
  · rename_i hvalid
    exact (validateReportUntil_ok hvalid).2.2.2

theorem selectForRequest_expands {q : RelayRequest} (ha : s.allocations.get id = some a)
    (ha' : (s.selectForRequest env q).1.allocations.get id = some a')
    (hstage : a.stage = .primary) (hstage' : a'.stage = .expanded) :
    env.received ≤ a.stageDeadline := by
  have hne : a ≠ a' := by
    rintro rfl
    rw [hstage] at hstage'
    cases hstage'
  have hunchanged : s.allocations.get id ≠ some a' := by
    rw [ha]
    exact fun h => hne (Option.some.inj h)
  unfold selectForRequest at ha'
  split at ha'
  · exact absurd ha' hunchanged
  · rename_i config hconfig
    split at ha'
    · exact absurd ha' hunchanged
    · have hkept : ∀ x, (s.cleanup config env.cleaned).allocations.get id = some x → x = a := by
        intro x hx
        have hx := (cleanup_allocations.mp hx).1
        rw [ha] at hx
        exact (Option.some.inj hx).symm
      have hcleaned : (s.cleanup config env.cleaned).allocations.get id ≠ some a' :=
        fun h => hne (hkept _ h).symm
      generalize s.cleanup config env.cleaned = t at ha' hkept hcleaned
      dsimp only at ha'
      split at ha'
      · split at ha' <;> exact absurd ha' hcleaned
      · unfold bindRequest at ha'
        split at ha'
        · split at ha' <;> exact absurd ha' hcleaned
        · rename_i report hreport
          dsimp only at ha'
          split at ha'
          · exact absurd ha' hcleaned
          · split at ha'
            · exact absurd ha' hcleaned
            · rename_i x hx
              split at ha'
              · rw [putBack_take, putBack_get] at ha'
                split at ha'
                · rename_i hid
                  rw [← hx, ← hid] at ha'
                  exact absurd ha' hcleaned
                · exact absurd ha' hcleaned
              · by_cases hid : id = report.allocationId
                · subst hid
                  obtain rfl := hkept x hx
                  exact resolveRequest_expands ha' hstage hstage'
                · rw [resolveRequest_other hid] at ha'
                  exact absurd ha' hcleaned

end

section

variable {w w' : World} {i : Env × Call} {id : Bytes} {a a' : Allocation}

theorem step_keepsDeadlines (hl : Ledger w) (hfresh : freshDraws w i = true)
    (hstep : w.step i = some w') (ha : w.state.allocations.get id = some a)
    (ha' : w'.state.allocations.get id = some a') : KeepsDeadlines a a' := by
  rcases step_evolves hl hfresh hstep ha ha' with hev | ⟨b, hev, -, rfl, -⟩
  · exact hev.keepsDeadlines.1
  · obtain ⟨hkeeps, -⟩ := hev.keepsDeadlines
    exact ⟨hkeeps.created, hkeeps.total, by rintro ⟨⟩⟩

/-- An allocation is expanded by a request received within its primary stage, and from then on it
has the time that is left of the total. -/
theorem step_expands (hl : Ledger w) (hfresh : freshDraws w i = true)
    (hstep : w.step i = some w') (ha : w.state.allocations.get id = some a)
    (ha' : w'.state.allocations.get id = some a') (hstage : a.stage = .primary)
    (hstage' : a'.stage = .expanded) :
    i.1.received ≤ a.stageDeadline ∧ a'.stageDeadline = a.totalDeadline := by
  rcases step_evolves hl hfresh hstep ha ha' with hev | ⟨b, hev, -, rfl, hdraw⟩
  · rw [hev.keepsDeadlines.2, hstage] at hstage'
    cases hstage'
  · refine ⟨?_, hev.keepsDeadlines.1.total⟩
    obtain ⟨env, call⟩ := i
    have hne : id ≠ env.id.val :=
      fun he => (freshDraws_iff.mp hfresh).1 (he ▸ (hl.sound.live id a ha).1)
    cases hstep
    cases call with
    | selectForRequest q => exact selectForRequest_expands ha ha' hstage rfl
    | createOffer q =>
      -- An offer leaves the allocations of other ids as they are.
      exfalso
      have hsame : ∀ x, w.state.allocations.get id = some x → x.stage ≠ .expanded := by
        intro x hx
        rw [ha] at hx
        cases hx
        rw [hstage]
        decide
      change (w.state.createOffer env q).1.allocations.get id = _ at ha'
      unfold createOffer at ha'
      split at ha'
      · exact hsame _ ha' rfl
      · split at ha'
        · exact hsame _ ha' rfl
        · rcases addAllocation_get ha' with ⟨hid, -⟩ | ⟨-, hget⟩
          · exact hne hid
          · exact hsame _ (cleanup_allocations.mp hget).1 rfl
    | _ => cases hdraw

end

theorem elapsed_le {now created total ttl : Nat} (hnow : now ≤ created + total * 1000000)
    (httl : total ≤ ttl * 1000) : now - created ≤ ttl * 1000000000 := by
  omega

/-- A section that keeps allocations longer than this one may take does not drop it in time. -/
theorem cleanup_keeps {s : QualityState} {config : RelayQualityConfig} {id : Bytes} {a : Allocation}
    {now : Instant} {totalMs : Nat} (ha : s.allocations.get id = some a)
    (htotal : a.totalDeadline = a.created + millis totalMs)
    (httl : totalMs ≤ config.allocationTtlSeconds * 1000) (hnow : now ≤ a.totalDeadline) :
    (s.cleanup config now).allocations.get id = some a := by
  refine cleanup_allocations.mpr ⟨ha, ?_⟩
  have hlive : now ≤ a.created + millis totalMs := htotal ▸ hnow
  exact elapsed_le hlive httl

theorem not_live_of_fresh {w : World} {i : Env × Call} (hl : Ledger w)
    (hfresh : freshDraws w i = true) : w.state.allocations.get i.1.id.val = none := by
  cases hlive : w.state.allocations.get i.1.id.val with
  | none => rfl
  | some a => exact absurd (hl.sound.live _ a hlive).1 (freshDraws_iff.mp hfresh).1

/-- What an offer adds, under an id that was not live. -/
theorem createOffer_adds {s : QualityState} {env : Env} {q : OfferRequest} {c : RelayQualityConfig}
    {a : Allocation} (hactive : env.active.config = some c)
    (hnew : s.allocations.get env.id.val = none)
    (ha : (s.createOffer env q).1.allocations.get env.id.val = some a) :
    ∃ views, offerViews env c q = some views ∧ a = offeredAllocation env c q views := by
  unfold createOffer at ha
  simp only [hactive] at ha
  split at ha
  · rw [hnew] at ha
    cases ha
  · rename_i views hviews
    rcases addAllocation_get ha with ⟨-, rfl⟩ | ⟨hne, -⟩
    · exact ⟨views, hviews, rfl⟩
    · exact absurd rfl hne

/-! ## Every accepted section -/

/-- What an offer promises its endpoints, from the offer to the last state with its allocation. -/
structure OfferKept (env : Env) (c : RelayQualityConfig) (w : World) (id : Bytes)
    (a b : Allocation) : Prop where
  exact : ExactDeadlines env c a
  primary : c.strategy = .adaptive → 2 * endpointWindowMs c ≤ exactStageBudgetMs c
  eager : c.strategy = .eager → 2 * exactWindowMs c c.probeSamples ≤ exactStageBudgetMs c
  room : c.strategy = .adaptive → ∀ t ≤ a.stageDeadline,
    t + millis (exactWindowMs c c.probeSamples) ≤ a.totalDeadline
  expanded : c.strategy = .adaptive → b.stage = .primary → ∀ i w' b',
    Guarded World.step freshDraws w i w' → w'.state.allocations.get id = some b' →
      b'.stage = .expanded → i.1.received ≤ a.stageDeadline ∧ b'.stageDeadline = a.totalDeadline ∧
        i.1.received + millis (exactWindowMs c c.probeSamples) ≤ b'.stageDeadline
  total : b.totalDeadline = a.totalDeadline
  live : ∀ now ≤ a.totalDeadline, (w.state.cleanup c now).allocations.get id = some b

/-- The deadlines of every offer under an accepted section are exact and can be met, and its cleanup
does not come before them. -/
theorem validated_deadlines_achievable {configEnv : Config.Env}
    {config c : Config.RelayQualityConfig} {relayServers : List String}
    {relayHealth : Config.RelayHealthConfig}
    (hvalid : Config.validateRelayQuality configEnv config relayServers relayHealth = .ok c)
    (henabled : c.enabled = true) {is is' : List (Env × Call)} {w w₁ w' : World} {env : Env}
    {q : OfferRequest} (hactive : env.active.config = some c.toRelayQualityConfig)
    (h : Run (Guarded World.step freshDraws) World.init is w)
    (hoffer : Guarded World.step freshDraws w (env, .createOffer q) w₁) {a b : Allocation}
    (ha : w₁.state.allocations.get env.id.val = some a)
    (h' : Run (Guarded World.step freshDraws) w₁ is' w')
    (hb : w'.state.allocations.get env.id.val = some b) :
    OfferKept env c.toRelayQualityConfig w' env.id.val a b := by
  have hroom := validateRelayQuality_achievable hvalid henabled
  have hrun₁ := h.snoc hoffer
  obtain ⟨hl₁, hi₁⟩ := run_stageInv hrun₁
  obtain ⟨hl', -⟩ := run_stageInv (hrun₁.append h')
  have hkeeps : KeepsDeadlines a b := run_relates KeepsDeadlines.refl (fun _ _ _ => .trans)
    (fun _ _ _ _ _ _ hl _ hfresh hstep hx hx' => step_keepsDeadlines hl hfresh hstep hx hx')
    hl₁ hi₁ h' ha hb
  have hexact : ExactDeadlines env c.toRelayQualityConfig a := by
    have hnew : w.state.allocations.get env.id.val = none :=
      not_live_of_fresh (run_stageInv h).1 hoffer.1
    have hstep := hoffer.2
    cases hstep
    obtain ⟨views, -, rfl⟩ := createOffer_adds hactive hnew ha
    exact offeredAllocation_exact hroom
  refine
    { exact := hexact
      primary := fun hstrategy => ?_
      eager := fun hstrategy => ?_
      room := fun hstrategy t ht => hexact.expanded_room hroom hstrategy ht
      expanded := fun hstrategy hstage i w'' b' hnext hb' hstage' => ?_
      total := hkeeps.total
      live := fun now hnow => ?_ }
  · simp only [exactStageBudgetMs, hstrategy]
    exact Nat.le_add_right _ _
  · simpa only [exactStageBudgetMs, hstrategy] using hroom.eager hstrategy
  · obtain ⟨htimely, htotal⟩ := step_expands hl' hnext.1 hnext.2 hb hb' hstage hstage'
    rw [(hkeeps.primary hstage).2] at htimely
    rw [htotal, hkeeps.total]
    exact ⟨htimely, rfl, hexact.expanded_room hroom hstrategy htimely⟩
  · have htotal : b.totalDeadline = b.created + millis c.reportTimeoutMs := by
      rw [hkeeps.total, hkeeps.created]
      exact hexact.total
    exact cleanup_keeps hb htotal hroom.ttl.le (hkeeps.total ▸ hnow)

/-- The sample offer, which then waits for its first report. -/
theorem validated_deadlines_achievable_sample : ∃ w a,
    Run (Guarded World.step freshDraws) World.init
      [(sampleEnv .adaptive 1, .createOffer (sampleOffer (sampleTarget 50000)))] w ∧
    w.state.allocations.get (sampleUuid 1).val = some a ∧ a.stageDeadline = millis 7300 ∧
    a.totalDeadline = millis 15000 ∧
    OfferKept (sampleEnv .adaptive 1) (sampleSection .adaptive).toRelayQualityConfig w
      (sampleUuid 1).val a a := by
  have h : (World.init.step
      (sampleEnv .adaptive 1, .createOffer (sampleOffer (sampleTarget 50000)))).any (fun w =>
      (w.state.allocations.get (sampleUuid 1).val).any fun a =>
        decide (a.stageDeadline = millis 7300) && decide (a.totalDeadline = millis 15000)) = true := by
    decide
  simp only [Option.any_eq_true, Bool.and_eq_true, decide_eq_true_eq] at h
  obtain ⟨w, hstep, a, ha, hstage, htotal⟩ := h
  have hoffer : Guarded World.step freshDraws World.init
      (sampleEnv .adaptive 1, .createOffer (sampleOffer (sampleTarget 50000))) w := ⟨rfl, hstep⟩
  exact ⟨w, a, .single hoffer, ha, hstage, htotal,
    validated_deadlines_achievable (sampleSection_valid .adaptive) rfl rfl (.nil _) hoffer ha
      (.nil _) ha⟩

end Starry.Quality
