import Starry.Quality.Limits
import Starry.Quality.Reports

/-!
# Relay quality: scores

`score_candidate` weighs four penalties and adds one for missing reports. Under an accepted section
none of its operations leaves its type, and a candidate that does worse never scores higher.
-/

open Library

namespace Starry.Quality

/-! ## Checked arithmetic -/

/-- A value of a type that ends at `limit`. -/
def checked (limit n : Nat) : Option Nat := if n ≤ limit then some n else none

def checkedSub (x y : Nat) : Option Nat := if y ≤ x then some (x - y) else none

def checkedDiv (x y : Nat) : Option Nat := if y = 0 then none else some (x / y)

theorem checked_eq {limit n : Nat} (h : n ≤ limit) : checked limit n = some n := if_pos h

theorem checkedSub_eq {x y : Nat} (h : y ≤ x) : checkedSub x y = some (x - y) := if_pos h

theorem checkedDiv_eq {x y : Nat} (h : 0 < y) : checkedDiv x y = some (x / y) :=
  if_neg (Nat.ne_of_gt h)

theorem foldlM_checked {limit acc : Nat} {values : List Nat} (h : acc + values.sum ≤ limit) :
    values.foldlM (fun sum value => checked limit (sum + value)) acc = some (acc + values.sum) := by
  induction values generalizing acc with
  | nil => simp
  | cons value values ih =>
    rw [List.sum_cons, ← Nat.add_assoc] at h ⊢
    rw [List.foldlM_cons, checked_eq (by omega)]
    exact ih h

theorem mapM_some {α β : Type} {f : α → Option β} {g : α → β} {l : List α}
    (h : ∀ x ∈ l, f x = some (g x)) : l.mapM f = some (l.map g) := by
  induction l with
  | nil => rfl
  | cons x l ih =>
    rw [List.mapM_cons, h x List.mem_cons_self, ih fun y hy => h y (List.mem_cons_of_mem _ hy)]
    rfl

/-! ## The score, with every operation checked -/

def reported (controller target : Option Metric) : List Metric := [controller, target].filterMap id

/-- The reports of endpoints that had an answer. -/
def answered (controller target : Option Metric) : List Metric :=
  (reported controller target).filter fun m => decide (m.succeeded > 0)

def lossChecked (m : Metric) : Option Nat := do
  let lost ← checkedSub m.attempted m.succeeded
  let scaled ← checked u32Max (lost * scoreMax)
  checkedDiv scaled (max m.attempted 1)

def penaltyChecked (value bad : Nat) : Option Nat := do
  let scaled ← checked u64Max (value * scoreMax)
  let penalty ← checkedDiv scaled (max bad 1)
  checked u32Max (min penalty scoreMax)

def effectiveRttChecked (c : CandidateState) (config : RelayQualityConfig) (rtts : List Nat) :
    Option Nat :=
  match rtts with
  | [] => some (c.serverRttMs.getD config.rttBadMs)
  | [one] => some one
  | _ => do
    let total ← rtts.foldlM (fun sum value => checked u64Max (sum + value)) 0
    let doubled ← checked u64Max (rtts.foldl max 0 * 2)
    let sum ← checked u64Max (doubled + total)
    let average ← checkedDiv sum 4
    checked u32Max (min average u32Max)

def weightedChecked (weights : Weights) (rtt jitter loss load : Nat) : Option Nat := do
  let rtt ← checked u64Max (rtt * weights.rtt)
  let jitter ← checked u64Max (jitter * weights.jitter)
  let loss ← checked u64Max (loss * weights.loss)
  let load ← checked u64Max (load * weights.load)
  let sum ← checked u64Max (rtt + jitter)
  let sum ← checked u64Max (sum + loss)
  let sum ← checked u64Max (sum + load)
  checkedDiv sum scoreMax

/-- `score_candidate`, which gives nothing as soon as a value leaves its type, an operation would
saturate or a divisor is zero. -/
def scoreChecked (c : CandidateState) (controller target : Option Metric)
    (config : RelayQualityConfig) : Option RelayQualityScore := do
  let losses ← (reported controller target).mapM lossChecked
  let rtts := (answered controller target).map (·.rttMs)
  let jitters := (answered controller target).map (·.jitterMs)
  let missingReports ← checkedSub 2 (reported controller target).length
  let effectiveRtt ← effectiveRttChecked c config rtts
  let rttPenalty ← penaltyChecked effectiveRtt config.rttBadMs
  let jitterPenalty ← penaltyChecked (jitters.foldl max 0) config.jitterBadMs
  let lossPenalty := min (losses.foldl max 0) scoreMax
  let loadPenalty := min (c.loadBasisPoints.getD unknownLoadPenalty) scoreMax
  let weighted ← weightedChecked config.weights rttPenalty jitterPenalty lossPenalty loadPenalty
  let missing ← checked u64Max (missingReports * config.missingReportPenaltyBasisPoints)
  let total ← checked u64Max (weighted + missing)
  let totalPenalty ← checked u32Max (min total scoreMax)
  let score ← checkedSub scoreMax totalPenalty
  return { relayServer := c.relay, score, rttPenalty, jitterPenalty, lossPenalty, loadPenalty,
           missingReports }

/-! ## Metrics of accepted reports -/

/-- A metric as `validate_report` lets it through under the section `c`, in either kind of stage. -/
def ValidMetric (c : RelayQualityConfig) (m : Metric) : Prop :=
  ∃ samples, (samples = c.primaryProbeSamples ∨ samples = c.probeSamples) ∧
    ∃ r : RelayProbeResult, r.metric = m ∧ Plausible samples r

/-- Every metric that is kept of a report is valid. -/
theorem validMetric_of_report {a : Allocation} {report : RelayProbeReport} {role : EndpointRole}
    {v : ValidatedReport} (h : validateReport report a role = some v) {key : String} {m : Metric}
    (hm : v.metrics.get key = some m) : ValidMetric a.config m := by
  rw [validateReport_def, foldl_take] at h
  split at h
  · cases h
  · split at h
    · cases h
    · rename_i w hw
      split at h
      · cases h
      · cases h
        split at hw
        · rename_i hpass
          cases hw
          rcases Table.mem_of_get_foldl_insert hm with ⟨r, hr, -, rfl⟩ | hempty
          · refine ⟨stageSamples a, ?_, r, rfl, resultInvalid_iff.mp (hpass.2.2 r hr)⟩
            unfold stageSamples
            split
            · exact .inl rfl
            · exact .inr rfl
            · exact .inr rfl
          · cases (Table.get_empty key).symm.trans hempty
        · cases hw

section

variable {c : RelayQualityConfig} {m : Metric}

theorem ValidMetric.attempted_le (h : ValidMetric c m) (hlimits : WithinLimits c) :
    m.attempted ≤ 20 := by
  obtain ⟨samples, hsamples, r, rfl, hplausible⟩ := h
  have hattempted : r.attempted = samples := hplausible.attempted
  have hprimary := hlimits.primary_le
  have hall := hlimits.probeSamples
  change r.attempted ≤ 20
  omega

theorem ValidMetric.succeeded_le (h : ValidMetric c m) : m.succeeded ≤ m.attempted := by
  obtain ⟨samples, -, r, rfl, hplausible⟩ := h
  exact hplausible.succeeded

theorem ValidMetric.rtt_le (h : ValidMetric c m) : m.rttMs ≤ 120000 := by
  obtain ⟨samples, -, r, rfl, hplausible⟩ := h
  exact hplausible.rtt

theorem ValidMetric.jitter_le (h : ValidMetric c m) : m.jitterMs ≤ 120000 := by
  obtain ⟨samples, -, r, rfl, hplausible⟩ := h
  exact hplausible.jitter

end

/-! ## Nothing leaves its type -/

/-- The round trip time that is judged. -/
def effectiveRtt (c : CandidateState) (config : RelayQualityConfig) (rtts : List Nat) : Nat :=
  match rtts with
  | [] => c.serverRttMs.getD config.rttBadMs
  | [one] => one
  | _ => min (satAdd (satMul (rtts.foldl max 0) 2) rtts.sum / 4) u32Max

def rttPenalty (c : CandidateState) (controller target : Option Metric)
    (config : RelayQualityConfig) : Nat :=
  normalizedPenalty (effectiveRtt c config ((answered controller target).map (·.rttMs)))
    config.rttBadMs

def jitterPenalty (controller target : Option Metric) (config : RelayQualityConfig) : Nat :=
  normalizedPenalty (((answered controller target).map (·.jitterMs)).foldl max 0) config.jitterBadMs

def lossPenalty (controller target : Option Metric) : Nat :=
  min (((reported controller target).map lossBasisPoints).foldl max 0) scoreMax

def loadPenalty (c : CandidateState) : Nat :=
  min (c.loadBasisPoints.getD unknownLoadPenalty) scoreMax

def missingReports (controller target : Option Metric) : Nat :=
  2 - (reported controller target).length

def weighted (weights : Weights) (rtt jitter loss load : Nat) : Nat :=
  (rtt * weights.rtt + jitter * weights.jitter + loss * weights.loss + load * weights.load) /
    scoreMax

theorem scoreCandidate_eq (c : CandidateState) (controller target : Option Metric)
    (config : RelayQualityConfig) : scoreCandidate c controller target config =
      { relayServer := c.relay
        score := scoreMax - min (satAdd
          (weighted config.weights (rttPenalty c controller target config)
            (jitterPenalty controller target config) (lossPenalty controller target)
            (loadPenalty c))
          (satMul (missingReports controller target) config.missingReportPenaltyBasisPoints))
          scoreMax
        rttPenalty := rttPenalty c controller target config
        jitterPenalty := jitterPenalty controller target config
        lossPenalty := lossPenalty controller target
        loadPenalty := loadPenalty c
        missingReports := missingReports controller target } := rfl

theorem foldl_max_le {values : List Nat} {bound : Nat} :
    values.foldl max 0 ≤ bound ↔ ∀ value ∈ values, value ≤ bound := by
  have hfrom : ∀ acc, values.foldl max acc ≤ bound ↔ acc ≤ bound ∧ ∀ value ∈ values, value ≤ bound := by
    induction values with
    | nil => simp
    | cons value values ih =>
      intro acc
      rw [List.foldl_cons, ih, Nat.max_le, List.forall_mem_cons, and_assoc]
  rw [hfrom]
  simp

theorem normalizedPenalty_le (value bad : Nat) : normalizedPenalty value bad ≤ 10000 :=
  Nat.min_le_right _ _

section

variable {c : CandidateState} {config : RelayQualityConfig} {controller target : Option Metric}

theorem mem_reported {m : Metric} :
    m ∈ reported controller target ↔ controller = some m ∨ target = some m := by
  unfold reported
  simp [List.mem_filterMap, eq_comm]

theorem length_reported (controller target : Option Metric) :
    (reported controller target).length ≤ 2 := List.length_filterMap_le _ _

theorem length_answered (controller target : Option Metric) :
    (answered controller target).length ≤ 2 :=
  (List.length_filter_le _ _).trans (length_reported _ _)

theorem lossChecked_eq {m : Metric} (h : ValidMetric config m) (hlimits : WithinLimits config) :
    lossChecked m = some (lossBasisPoints m) := by
  have hattempted := h.attempted_le hlimits
  have hscaled : (m.attempted - m.succeeded) * scoreMax ≤ u32Max := by
    simp only [scoreMax, u32Max]
    omega
  have hdivisor : 0 < max m.attempted 1 := by omega
  unfold lossChecked lossBasisPoints
  rw [checkedSub_eq h.succeeded_le, Option.bind_eq_bind, Option.bind_some, checked_eq hscaled,
    Option.bind_some, checkedDiv_eq hdivisor, Nat.min_eq_left hscaled]

theorem penaltyChecked_eq {value bad : Nat} (h : value ≤ u32Max) :
    penaltyChecked value bad = some (normalizedPenalty value bad) := by
  have hscaled : value * scoreMax ≤ u64Max := by
    simp only [scoreMax, u32Max, u64Max] at h ⊢
    omega
  have hdivisor : 0 < max bad 1 := by omega
  have hpenalty : min (value * scoreMax / max bad 1) scoreMax ≤ u32Max :=
    (Nat.min_le_right _ _).trans (by decide)
  unfold penaltyChecked normalizedPenalty
  rw [checked_eq hscaled, Option.bind_eq_bind, Option.bind_some, checkedDiv_eq hdivisor,
    Option.bind_some, checked_eq hpenalty, satMul_eq hscaled]

theorem effectiveRttChecked_eq {rtts : List Nat} (hlength : rtts.length ≤ 2)
    (hrtts : ∀ rtt ∈ rtts, rtt ≤ 120000) :
    effectiveRttChecked c config rtts = some (effectiveRtt c config rtts) := by
  unfold effectiveRttChecked effectiveRtt
  split
  · rfl
  · rfl
  · have hsum : rtts.sum ≤ 2 * 120000 := by
      have hle := List.sum_le_card_nsmul rtts 120000 hrtts
      rw [smul_eq_mul] at hle
      exact hle.trans (Nat.mul_le_mul_right _ hlength)
    have hmax : rtts.foldl max 0 ≤ 120000 := foldl_max_le.mpr hrtts
    have htotal : 0 + rtts.sum ≤ u64Max := by
      simp only [u64Max]
      omega
    have hdoubled : rtts.foldl max 0 * 2 ≤ u64Max := by
      simp only [u64Max]
      omega
    have hboth : rtts.foldl max 0 * 2 + rtts.sum ≤ u64Max := by
      simp only [u64Max]
      omega
    rw [foldlM_checked htotal, Option.bind_eq_bind, Option.bind_some, Nat.zero_add,
      checked_eq hdoubled, Option.bind_some, checked_eq hboth, Option.bind_some,
      checkedDiv_eq (by decide), Option.bind_some, checked_eq (Nat.min_le_right _ _),
      satMul_eq hdoubled, satAdd_eq hboth]

theorem effectiveRtt_le (hserver : ∀ rtt ∈ c.serverRttMs, rtt ≤ u32Max)
    (hlimits : WithinLimits config) {rtts : List Nat} (hrtts : ∀ rtt ∈ rtts, rtt ≤ 120000) :
    effectiveRtt c config rtts ≤ u32Max := by
  unfold effectiveRtt
  split
  · cases hrtt : c.serverRttMs with
    | some rtt => exact hserver rtt hrtt
    | none => exact hlimits.rttBadMs.2.trans (by decide)
  · rename_i one
    exact (hrtts one (List.mem_singleton_self _)).trans (by decide)
  · exact Nat.min_le_right _ _

theorem rttPenalty_le (c : CandidateState) (controller target : Option Metric)
    (config : RelayQualityConfig) : rttPenalty c controller target config ≤ 10000 :=
  normalizedPenalty_le _ _

theorem jitterPenalty_le (controller target : Option Metric) (config : RelayQualityConfig) :
    jitterPenalty controller target config ≤ 10000 := normalizedPenalty_le _ _

theorem lossPenalty_le (controller target : Option Metric) : lossPenalty controller target ≤ 10000 :=
  Nat.min_le_right _ _

theorem loadPenalty_le (c : CandidateState) : loadPenalty c ≤ 10000 := Nat.min_le_right _ _

/-- Four penalties of at most 10000, weighed with weights that sum to 10000. -/
theorem weightedChecked_eq {weights : Weights}
    (hweights : weights.rtt + weights.jitter + weights.loss + weights.load = 10000)
    {rtt jitter loss load : Nat} (hrtt : rtt ≤ 10000) (hjitter : jitter ≤ 10000)
    (hloss : loss ≤ 10000) (hload : load ≤ 10000) :
    weightedChecked weights rtt jitter loss load = some (weighted weights rtt jitter loss load) ∧
      weighted weights rtt jitter loss load ≤ 10000 := by
  have h1 : rtt * weights.rtt ≤ 10000 * weights.rtt := Nat.mul_le_mul_right _ hrtt
  have h2 : jitter * weights.jitter ≤ 10000 * weights.jitter := Nat.mul_le_mul_right _ hjitter
  have h3 : loss * weights.loss ≤ 10000 * weights.loss := Nat.mul_le_mul_right _ hloss
  have h4 : load * weights.load ≤ 10000 * weights.load := Nat.mul_le_mul_right _ hload
  have hfits : ∀ n, n ≤ 10000 * 10000 → checked u64Max n = some n := fun n hn =>
    checked_eq (hn.trans (by decide))
  refine ⟨?_, ?_⟩
  · unfold weightedChecked
    simp (disch := omega) only [hfits, Option.bind_eq_bind, Option.bind_some]
    exact checkedDiv_eq (by decide)
  · exact Nat.div_le_of_le_mul (by simp only [scoreMax]; omega)

/-- Under an accepted section every operation of `score_candidate` is exact. -/
theorem scoreChecked_eq (hlimits : WithinLimits config)
    (hserver : ∀ rtt ∈ c.serverRttMs, rtt ≤ u32Max)
    (hcontroller : ∀ m ∈ controller, ValidMetric config m)
    (htarget : ∀ m ∈ target, ValidMetric config m) :
    scoreChecked c controller target config = some (scoreCandidate c controller target config) := by
  have hvalid : ∀ m ∈ reported controller target, ValidMetric config m := by
    intro m hm
    rcases mem_reported.mp hm with h | h
    · exact hcontroller m h
    · exact htarget m h
  have hanswered : ∀ m ∈ answered controller target, ValidMetric config m := fun m hm =>
    hvalid m (List.mem_of_mem_filter hm)
  have hlosses : (reported controller target).mapM lossChecked =
      some ((reported controller target).map lossBasisPoints) :=
    mapM_some fun m hm => lossChecked_eq (hvalid m hm) hlimits
  have hrtts : ∀ rtt ∈ (answered controller target).map (·.rttMs), rtt ≤ 120000 := by
    intro rtt hrtt
    obtain ⟨m, hm, rfl⟩ := List.mem_map.mp hrtt
    exact (hanswered m hm).rtt_le
  have hrtt : effectiveRttChecked c config ((answered controller target).map (·.rttMs)) =
      some (effectiveRtt c config ((answered controller target).map (·.rttMs))) :=
    effectiveRttChecked_eq (by rw [List.length_map]; exact length_answered controller target) hrtts
  have hjitters : ((answered controller target).map (·.jitterMs)).foldl max 0 ≤ 120000 := by
    refine foldl_max_le.mpr fun jitter hj => ?_
    obtain ⟨m, hm, rfl⟩ := List.mem_map.mp hj
    exact (hanswered m hm).jitter_le
  obtain ⟨hweighted, hle⟩ := weightedChecked_eq hlimits.weights
    (rttPenalty_le c controller target config) (jitterPenalty_le controller target config)
    (lossPenalty_le controller target) (loadPenalty_le c)
  have hmissing : missingReports controller target * config.missingReportPenaltyBasisPoints ≤
      2 * 10000 := Nat.mul_le_mul (Nat.sub_le _ _) hlimits.missingReportPenalty
  have hmissingFits : checked u64Max ((2 - (reported controller target).length) *
      config.missingReportPenaltyBasisPoints) =
      some (missingReports controller target * config.missingReportPenaltyBasisPoints) :=
    checked_eq (hmissing.trans (by decide))
  have htotal : weighted config.weights (rttPenalty c controller target config)
      (jitterPenalty controller target config) (lossPenalty controller target) (loadPenalty c) +
      missingReports controller target * config.missingReportPenaltyBasisPoints ≤ u64Max :=
    (Nat.add_le_add hle hmissing).trans (by decide)
  have htotalFits := checked_eq htotal
  have hcapped : ∀ n, checked u32Max (min n scoreMax) = some (min n scoreMax) := fun n =>
    checked_eq ((Nat.min_le_right _ _).trans (by decide))
  have hscore : ∀ n, checkedSub scoreMax (min n scoreMax) = some (scoreMax - min n scoreMax) :=
    fun n => checkedSub_eq (Nat.min_le_right _ _)
  have hrttPenalty : penaltyChecked (effectiveRtt c config
      ((answered controller target).map (·.rttMs))) config.rttBadMs =
      some (rttPenalty c controller target config) :=
    penaltyChecked_eq (effectiveRtt_le hserver hlimits hrtts)
  have hjitterPenalty : penaltyChecked (((answered controller target).map (·.jitterMs)).foldl max 0)
      config.jitterBadMs = some (jitterPenalty controller target config) :=
    penaltyChecked_eq (hjitters.trans (by decide))
  rw [scoreCandidate_eq, satMul_eq (hmissing.trans (by decide)), satAdd_eq htotal]
  unfold lossPenalty loadPenalty at *
  unfold scoreChecked
  simp only [hlosses, checkedSub_eq (length_reported controller target), hrtt, hrttPenalty,
    hjitterPenalty, hweighted, hmissingFits, htotalFits, hcapped, hscore, Option.bind_eq_bind,
    Option.bind_some]
  rfl

end

/-! ## Worse reports -/

/-- `m'` is no better than `m`, and it has an answer if and only if `m` has one. -/
structure Worse (m m' : Metric) : Prop where
  rtt : m.rttMs ≤ m'.rttMs
  jitter : m.jitterMs ≤ m'.jitterMs
  loss : lossBasisPoints m ≤ lossBasisPoints m'
  answered : 0 < m.succeeded ↔ 0 < m'.succeeded

theorem foldl_max_mono {values values' : List Nat} (h : values.Forall₂ (· ≤ ·) values') :
    values.foldl max 0 ≤ values'.foldl max 0 := by
  have hfrom : ∀ acc acc', acc ≤ acc' → values.foldl max acc ≤ values'.foldl max acc' := by
    induction h with
    | nil => exact fun _ _ hacc => hacc
    | cons hvalue _ ih => exact fun _ _ hacc => ih _ _ (max_le_max hacc hvalue)
  exact hfrom 0 0 le_rfl

theorem effectiveRtt_mono (c : CandidateState) (config : RelayQualityConfig) {rtts rtts' : List Nat}
    (h : rtts.Forall₂ (· ≤ ·) rtts') : effectiveRtt c config rtts ≤ effectiveRtt c config rtts' := by
  have hmax := foldl_max_mono h
  have hsum := h.sum_le_sum
  cases h with
  | nil => exact le_rfl
  | cons hfirst hrest =>
    cases hrest with
    | nil => exact hfirst
    | cons _ _ =>
      unfold effectiveRtt
      dsimp only
      unfold satAdd satMul
      gcongr

section

variable {controller controller' target target' : Option Metric}

theorem reported_worse (hcontroller : Option.Rel Worse controller controller')
    (htarget : Option.Rel Worse target target') :
    (reported controller target).Forall₂ Worse (reported controller' target') := by
  unfold reported
  cases hcontroller with
  | none => cases htarget with
    | none => exact .nil
    | some h => exact .cons h .nil
  | some h => cases htarget with
    | none => exact .cons h .nil
    | some h' => exact .cons h (.cons h' .nil)

theorem answered_worse (hcontroller : Option.Rel Worse controller controller')
    (htarget : Option.Rel Worse target target') :
    (answered controller target).Forall₂ Worse (answered controller' target') := by
  refine List.rel_filter (fun m m' hworse => ?_) (reported_worse hcontroller htarget)
  simpa using hworse.answered

theorem missingReports_worse (hcontroller : Option.Rel Worse controller controller')
    (htarget : Option.Rel Worse target target') :
    missingReports controller' target' = missingReports controller target := by
  unfold missingReports
  rw [(reported_worse hcontroller htarget).length_eq]

theorem weighted_mono (weights : Weights) {rtt rtt' jitter jitter' loss loss' load load' : Nat}
    (hrtt : rtt ≤ rtt') (hjitter : jitter ≤ jitter') (hloss : loss ≤ loss') (hload : load ≤ load') :
    weighted weights rtt jitter loss load ≤ weighted weights rtt' jitter' loss' load' := by
  unfold weighted
  gcongr

theorem normalizedPenalty_mono {value value' : Nat} (bad : Nat) (h : value ≤ value') :
    normalizedPenalty value bad ≤ normalizedPenalty value' bad := by
  unfold normalizedPenalty satMul
  gcongr

/-- Larger penalties and more missing reports do not raise the score. -/
theorem score_antitone {c c' : CandidateState} {config : RelayQualityConfig}
    (hrtt : rttPenalty c controller target config ≤ rttPenalty c' controller' target' config)
    (hjitter : jitterPenalty controller target config ≤ jitterPenalty controller' target' config)
    (hloss : lossPenalty controller target ≤ lossPenalty controller' target')
    (hload : loadPenalty c ≤ loadPenalty c')
    (hmissing : missingReports controller target ≤ missingReports controller' target') :
    (scoreCandidate c' controller' target' config).score ≤
      (scoreCandidate c controller target config).score := by
  have hweighted := weighted_mono config.weights hrtt hjitter hloss hload
  rw [scoreCandidate_eq, scoreCandidate_eq]
  dsimp only
  unfold satAdd satMul
  gcongr

/-- The reports are worse and the load is not lower. -/
theorem score_worse {config : RelayQualityConfig} (c : CandidateState) {load : Option Nat}
    (hcontroller : Option.Rel Worse controller controller')
    (htarget : Option.Rel Worse target target')
    (hload : c.loadBasisPoints.getD unknownLoadPenalty ≤ load.getD unknownLoadPenalty) :
    (scoreCandidate { c with loadBasisPoints := load } controller' target' config).score ≤
      (scoreCandidate c controller target config).score := by
  have hreported := reported_worse hcontroller htarget
  have hanswered := answered_worse hcontroller htarget
  refine score_antitone ?_ ?_ ?_ (min_le_min_right _ hload)
    (missingReports_worse hcontroller htarget).ge
  · refine normalizedPenalty_mono _ (effectiveRtt_mono c config ?_)
    rw [List.forall₂_map_left_iff, List.forall₂_map_right_iff]
    exact hanswered.imp fun _ _ hworse => hworse.rtt
  · refine normalizedPenalty_mono _ (foldl_max_mono ?_)
    rw [List.forall₂_map_left_iff, List.forall₂_map_right_iff]
    exact hanswered.imp fun _ _ hworse => hworse.jitter
  · refine min_le_min_right _ (foldl_max_mono ?_)
    rw [List.forall₂_map_left_iff, List.forall₂_map_right_iff]
    exact hreported.imp fun _ _ hworse => hworse.loss

/-- One of two equal reports is taken away. -/
theorem score_removed {config : RelayQualityConfig} (c : CandidateState) {m : Metric}
    (hrtt : m.rttMs ≤ 120000) (hboth : reported controller target = [m, m])
    (hone : reported controller' target' = [m]) :
    (scoreCandidate c controller' target' config).score ≤
      (scoreCandidate c controller target config).score := by
  have hmean : min (satAdd (satMul m.rttMs 2) (m.rttMs + m.rttMs) / 4) u32Max = m.rttMs := by
    simp only [satAdd, satMul, u32Max, u64Max]
    omega
  refine score_antitone ?_ ?_ ?_ le_rfl ?_
  · refine normalizedPenalty_mono _ (le_of_eq ?_)
    unfold answered
    rw [hboth, hone]
    by_cases hanswered : m.succeeded > 0
    · simp [hanswered, effectiveRtt, hmean]
    · simp [hanswered]
  · refine normalizedPenalty_mono _ (le_of_eq ?_)
    unfold answered
    rw [hboth, hone]
    by_cases hanswered : m.succeeded > 0 <;> simp [hanswered]
  · unfold lossPenalty
    rw [hboth, hone]
    simp
  · unfold missingReports
    rw [hboth, hone]
    exact Nat.zero_le _

end

/-! ## Every accepted section -/

/-- The score and the penalties are basis points. -/
structure InBasisPoints (s : RelayQualityScore) : Prop where
  score : s.score ≤ 10000
  rttPenalty : s.rttPenalty ≤ 10000
  jitterPenalty : s.jitterPenalty ≤ 10000
  lossPenalty : s.lossPenalty ≤ 10000
  loadPenalty : s.loadPenalty ≤ 10000

theorem scoreCandidate_inBasisPoints (c : CandidateState) (controller target : Option Metric)
    (config : RelayQualityConfig) : InBasisPoints (scoreCandidate c controller target config) :=
  ⟨Nat.sub_le _ _, rttPenalty_le .., jitterPenalty_le .., lossPenalty_le .., loadPenalty_le ..⟩

/-- Under an accepted section every score is computed without an operation leaving its type, it lies
between 0 and 10000 as all penalties do, and neither worse metrics, nor a higher load, nor the loss of
one of two equal reports raises it. -/
theorem scores_bounded_monotone {configEnv : Config.Env} {config c : Config.RelayQualityConfig}
    {relayServers : List String} {relayHealth : Config.RelayHealthConfig}
    (hvalid : Config.validateRelayQuality configEnv config relayServers relayHealth = .ok c)
    {candidate : CandidateState} (hserver : ∀ rtt ∈ candidate.serverRttMs, rtt ≤ u32Max)
    {controller target : Option Metric}
    (hcontroller : ∀ m ∈ controller, ValidMetric c.toRelayQualityConfig m)
    (htarget : ∀ m ∈ target, ValidMetric c.toRelayQualityConfig m) :
    scoreChecked candidate controller target c.toRelayQualityConfig =
        some (scoreCandidate candidate controller target c.toRelayQualityConfig) ∧
      InBasisPoints (scoreCandidate candidate controller target c.toRelayQualityConfig) ∧
      (∀ controller' target' load, Option.Rel Worse controller controller' →
        Option.Rel Worse target target' →
        candidate.loadBasisPoints.getD unknownLoadPenalty ≤ load.getD unknownLoadPenalty →
        (scoreCandidate { candidate with loadBasisPoints := load } controller' target'
            c.toRelayQualityConfig).score ≤
          (scoreCandidate candidate controller target c.toRelayQualityConfig).score) ∧
      ∀ m, controller = some m → target = some m →
        (scoreCandidate candidate (some m) none c.toRelayQualityConfig).score ≤
            (scoreCandidate candidate controller target c.toRelayQualityConfig).score ∧
          (scoreCandidate candidate none (some m) c.toRelayQualityConfig).score ≤
            (scoreCandidate candidate controller target c.toRelayQualityConfig).score := by
  refine ⟨scoreChecked_eq (validateRelayQuality_limits hvalid) hserver hcontroller htarget,
    scoreCandidate_inBasisPoints .., fun controller' target' load hworse hworse' hload =>
      score_worse candidate hworse hworse' hload, ?_⟩
  rintro m rfl rfl
  have hrtt := (hcontroller m rfl).rtt_le
  exact ⟨score_removed candidate hrtt rfl rfl, score_removed candidate hrtt rfl rfl⟩

/-- The candidates of an offer have round trip times of a `u32`. -/
theorem candidateState_serverRtt (q : QualityState.OfferRequest) (view : Observer.RelayRuntimeView) :
    ∀ rtt ∈ (QualityState.candidateState q view).serverRttMs, rtt ≤ u32Max := by
  intro rtt hrtt
  obtain ⟨value, -, rfl⟩ := Option.map_eq_some_iff.mp (Option.mem_def.mp hrtt)
  exact Nat.min_le_right _ _

def sampleCandidate : CandidateState :=
  QualityState.candidateState (sampleOffer (sampleTarget 50000)) (sampleView "a")

/-- An endpoint that reaches it in 10 ms. -/
def sampleMetric : Metric := ⟨5, 5, 10, 1⟩

theorem sampleMetric_valid : ∀ m ∈ some sampleMetric,
    ValidMetric (sampleSection .eager).toRelayQualityConfig m := by
  rintro m ⟨⟩
  exact ⟨5, .inr rfl, ⟨"a", 5, 5, 10, 1⟩, rfl, resultInvalid_iff.mp rfl⟩

/-- Both endpoints report the same, and then one of them does not. -/
theorem scores_bounded_monotone_removed :
    (scoreCandidate sampleCandidate (some sampleMetric) (some sampleMetric)
      (sampleSection .eager).toRelayQualityConfig).score = 9697 ∧
    (scoreCandidate sampleCandidate (some sampleMetric) none
        (sampleSection .eager).toRelayQualityConfig).score ≤
      (scoreCandidate sampleCandidate (some sampleMetric) (some sampleMetric)
        (sampleSection .eager).toRelayQualityConfig).score := by
  refine ⟨rfl, ?_⟩
  exact ((scores_bounded_monotone (sampleSection_valid .eager) (candidateState_serverRtt _ _)
    sampleMetric_valid sampleMetric_valid).2.2.2 sampleMetric rfl rfl).1

end Starry.Quality
