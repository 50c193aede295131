import Starry.Quality.Reports

/-!
# Relay quality: the terminal selection

`score_terminal_allocation` selects a viable candidate of maximal score, the first of them, unless
the relay that was last selected between the two networks is viable and close enough to it.
-/

open Library

namespace Starry.Quality

/-! ## What a selection should be -/

/-- The stage whose reports judge candidate `i`: the first one is not probed again. -/
def judgingStage : Stage → Nat → Stage
  | .expanded, 0 => .primary
  | stage, _ => stage

/-- What the endpoint measured of candidate `i`. -/
def metricOf (a : Allocation) (stage : Stage) (role : EndpointRole) (i : Nat) (c : CandidateState) :
    Option Metric :=
  (a.reports.get (judgingStage stage i) role).bind fun report => report.metrics.get c.key

/-- A report of the target judges some candidate. -/
def TargetParticipates (a : Allocation) (stage : Stage) : Prop :=
  ∃ i, (a.reports.get (judgingStage stage i) .target).isSome = true

/-- The endpoint reached the candidate. -/
def Reached (metric : Option Metric) : Prop := ∃ m, metric = some m ∧ 0 < m.succeeded

/-- Candidate `i` of the allocation is `c`, and may be selected. -/
structure Viable (a : Allocation) (stage : Stage) (i : Nat) (c : CandidateState) : Prop where
  candidate : a.candidates[i]? = some c
  controller : Reached (metricOf a stage .controller i c)
  target : TargetParticipates a stage → Reached (metricOf a stage .target i c)

def scoreOf (a : Allocation) (stage : Stage) (i : Nat) (c : CandidateState) : RelayQualityScore :=
  scoreCandidate c (metricOf a stage .controller i c) (metricOf a stage .target i c) a.config

/-- Candidate `i` is the first viable one of maximal score. -/
def IsBest (a : Allocation) (stage : Stage) (i : Nat) (c : CandidateState) : Prop :=
  ∀ j d, Viable a stage j d → (scoreOf a stage j d).score < (scoreOf a stage i c).score ∨
    (scoreOf a stage j d).score = (scoreOf a stage i c).score ∧ i ≤ j

/-- A fresh cache entry of the two networks names the candidate, and no viable one is better by
more than the hysteresis. -/
def IsKept (cache : Table CacheKey CachedSelection) (now : Instant) (a : Allocation) (stage : Stage)
    (i : Nat) (c : CandidateState) : Prop :=
  ∃ cached, cache.get (cacheKey a.initiatorIp a.targetIp a.requirement) = some cached ∧
    now - cached.created ≤ secs a.config.cacheTtlSeconds ∧
    eqIgnoreAsciiCase c.relay cached.relay = true ∧
    ∀ j d, Viable a stage j d →
      (scoreOf a stage j d).score ≤ (scoreOf a stage i c).score + a.config.hysteresisBasisPoints

/-- The order of the scores: the highest first, and equal ones by name. -/
def ScoreOrder (l r : RelayQualityScore) : Prop :=
  r.score < l.score ∨ r.score = l.score ∧ l.relayServer ≤ r.relayServer

instance : DecidableRel ScoreOrder := fun l r =>
  inferInstanceAs (Decidable (r.score < l.score ∨ r.score = l.score ∧ l.relayServer ≤ r.relayServer))

/-! ## The parts -/

section Parts

variable {a : Allocation} {stage : Stage} {i : Nat} {c : CandidateState}

theorem terminalMetric_eq (role : EndpointRole) :
    terminalMetric a stage role i c = metricOf a stage role i c := by
  unfold terminalMetric metricOf ValidatedReport.metric
  cases stage <;> cases i <;> rfl

theorem requiresTarget_iff : terminalStageRequiresTarget a stage = true ↔
    TargetParticipates a stage := by
  unfold TargetParticipates
  cases stage with
  | primary => exact ⟨fun h => ⟨0, h⟩, fun ⟨i, h⟩ => by cases i <;> exact h⟩
  | eager => exact ⟨fun h => ⟨0, h⟩, fun ⟨i, h⟩ => by cases i <;> exact h⟩
  | expanded =>
    unfold terminalStageRequiresTarget
    rw [Bool.or_eq_true]
    constructor
    · rintro (h | h)
      · exact ⟨0, h⟩
      · exact ⟨1, h⟩
    · rintro ⟨i, h⟩
      cases i with
      | zero => exact .inl h
      | succ i => exact .inr h

/-- A metric of the target is there only if the target participates. -/
theorem metricOf_target {m : Metric} (h : metricOf a stage .target i c = some m) :
    TargetParticipates a stage := by
  unfold metricOf at h
  obtain ⟨report, hreport, -⟩ := Option.bind_eq_some_iff.mp h
  exact ⟨i, by rw [hreport]; rfl⟩

theorem reached_iff {metric : Option Metric} : Reached metric ↔
    (metric.map fun m => decide (m.succeeded > 0)).getD false = true := by
  unfold Reached
  cases metric <;> simp

theorem candidateIsViable_iff (hc : a.candidates[i]? = some c) :
    candidateIsViable (metricOf a stage .controller i c) (metricOf a stage .target i c)
      (terminalStageRequiresTarget a stage) = true ↔ Viable a stage i c := by
  unfold candidateIsViable
  rw [Bool.and_eq_true, ← reached_iff]
  constructor
  · rintro ⟨hcontroller, htarget⟩
    refine ⟨hc, hcontroller, fun hpart => ?_⟩
    rw [requiresTarget_iff.mpr hpart] at htarget
    exact reached_iff.mpr htarget
  · rintro ⟨-, hcontroller, htarget⟩
    refine ⟨hcontroller, ?_⟩
    cases hm : metricOf a stage .target i c with
    | none =>
      have hnot : ¬ TargetParticipates a stage := by
        intro hpart
        obtain ⟨m, hsome, -⟩ := htarget hpart
        rw [hm] at hsome
        cases hsome
      rw [← requiresTarget_iff, Bool.not_eq_true] at hnot
      rw [hnot]
      rfl
    | some m =>
      have hreached := htarget (metricOf_target hm)
      rw [hm, reached_iff] at hreached
      exact hreached

/-- The score of candidate `i`, and whether it may be selected. -/
theorem terminalScores_get : (terminalScores a stage)[i]? = (a.candidates[i]?).map fun c =>
    (scoreOf a stage i c, candidateIsViable (metricOf a stage .controller i c)
      (metricOf a stage .target i c) (terminalStageRequiresTarget a stage)) := by
  unfold terminalScores scoreOf
  rw [List.getElem?_mapIdx]
  simp only [terminalMetric_eq]

theorem terminalScores_viable {score : RelayQualityScore} :
    (terminalScores a stage)[i]? = some (score, true) ↔
      ∃ c, Viable a stage i c ∧ score = scoreOf a stage i c := by
  rw [terminalScores_get, Option.map_eq_some_iff]
  constructor
  · rintro ⟨c, hc, heq⟩
    obtain ⟨hscore, hviable⟩ := Prod.mk.inj heq
    exact ⟨c, (candidateIsViable_iff hc).mp hviable, hscore.symm⟩
  · rintro ⟨c, hviable, rfl⟩
    exact ⟨c, hviable.candidate, by
      rw [(candidateIsViable_iff hviable.candidate).mpr hviable]⟩

theorem scoreOf_relay : (scoreOf a stage i c).relayServer = c.relay := rfl

/-! ### The order of the scores -/

instance : Std.Total ScoreOrder where
  total l r := by
    unfold ScoreOrder
    rcases lt_trichotomy l.score r.score with h | h | h
    · exact .inr (.inl h)
    · rcases le_total l.relayServer r.relayServer with hr | hr
      · exact .inl (.inr ⟨h.symm, hr⟩)
      · exact .inr (.inr ⟨h, hr⟩)
    · exact .inl (.inl h)

instance : IsTrans RelayQualityScore ScoreOrder where
  trans l m r := by
    rintro (h | ⟨h, hn⟩) (h' | ⟨h', hn'⟩)
    · exact .inl (h'.trans h)
    · exact .inl (h' ▸ h)
    · exact .inl (h ▸ h')
    · exact .inr ⟨h'.trans h, hn.trans hn'⟩

theorem sortedScores_spec (scores : List RelayQualityScore) :
    (sortedScores scores).Perm scores ∧ (sortedScores scores).Pairwise ScoreOrder := by
  unfold sortedScores
  exact ⟨List.perm_insertionSort _ scores, List.pairwise_insertionSort ScoreOrder scores⟩

/-! ### The key of the cache -/

theorem NetworkPrefix.le_antisymm {x y : NetworkPrefix} (h : x.le y = true) (h' : y.le x = true) :
    x = y := by
  cases x with
  | v4 x =>
    cases y with
    | v4 y => rw [BitVec.le_antisymm (of_decide_eq_true h) (of_decide_eq_true h')]
    | v6 y => cases h'
  | v6 x =>
    cases y with
    | v4 y => cases h
    | v6 y => rw [BitVec.le_antisymm (of_decide_eq_true h) (of_decide_eq_true h')]

theorem NetworkPrefix.le_total (x y : NetworkPrefix) : x.le y = true ∨ y.le x = true := by
  cases x with
  | v4 x =>
    cases y with
    | v4 y => exact (BitVec.le_total x y).imp decide_eq_true decide_eq_true
    | v6 y => exact .inl rfl
  | v6 x =>
    cases y with
    | v4 y => exact .inr rfl
    | v6 y => exact (BitVec.le_total x y).imp decide_eq_true decide_eq_true

/-- The two addresses may be given in either order. -/
theorem cacheKey_comm (x y : IpAddr) (requirement : RelayRequirement) :
    cacheKey x y requirement = cacheKey y x requirement := by
  unfold cacheKey
  dsimp only
  by_cases hle : (networkPrefix x).le (networkPrefix y) = true
  · by_cases hge : (networkPrefix y).le (networkPrefix x) = true
    · rw [NetworkPrefix.le_antisymm hle hge]
    · rw [if_pos hle, if_neg hge]
  · rw [if_neg hle, if_pos ((NetworkPrefix.le_total _ _).resolve_left hle)]

/-! ### The candidates that may be selected -/

/-- The viable candidates with their indices, as `score_terminal_allocation` ranks them. -/
def viableScores (a : Allocation) (stage : Stage) : List (Nat × RelayQualityScore × Bool) :=
  ((terminalScores a stage).mapIdx fun i x => (i, x)).filter fun x => x.2.2

theorem mem_viableScores {score : RelayQualityScore} {viable : Bool} :
    (i, score, viable) ∈ viableScores a stage ↔
      viable = true ∧ ∃ c, Viable a stage i c ∧ score = scoreOf a stage i c := by
  unfold viableScores
  rw [List.mem_filter, ← terminalScores_viable]
  constructor
  · rintro ⟨hmem, hviable⟩
    obtain ⟨j, hj, heq⟩ := List.getElem_of_mem hmem
    rw [List.getElem_mapIdx] at heq
    obtain ⟨rfl, hscore⟩ := Prod.mk.inj heq
    refine ⟨hviable, ?_⟩
    rw [List.getElem?_eq_getElem (by simpa using hj), hscore]
    exact congrArg some (Prod.ext rfl hviable)
  · rintro ⟨rfl, hget⟩
    refine ⟨?_, rfl⟩
    obtain ⟨hlt, heq⟩ := List.getElem?_eq_some_iff.mp hget
    refine List.mem_of_getElem? (i := i) ?_
    rw [List.getElem?_mapIdx, hget]
    rfl

/-- The first one of maximal score. -/
theorem maxByKey_best {score : RelayQualityScore} {viable : Bool}
    (h : maxByKey (fun x => toLex (x.2.1.score, OrderDual.toDual x.1)) (viableScores a stage) =
      some (i, score, viable)) :
    ∃ c, Viable a stage i c ∧ score = scoreOf a stage i c ∧ IsBest a stage i c := by
  obtain ⟨-, c, hviable, hscore⟩ := mem_viableScores.mp (maxByKey_mem h)
  refine ⟨c, hviable, hscore, fun j d hd => ?_⟩
  have hle := maxByKey_le h (mem_viableScores.mpr ⟨rfl, d, hd, rfl⟩)
  rw [Prod.Lex.toLex_le_toLex] at hle
  rw [hscore] at hle
  rcases hle with hlt | ⟨heq, hindex⟩
  · exact .inl hlt
  · exact .inr ⟨heq, OrderDual.toDual_le_toDual.mp hindex⟩

theorem maxByKey_none
    (h : maxByKey (fun x => toLex (x.2.1.score, OrderDual.toDual x.1)) (viableScores a stage) =
      none) : ∀ j d, ¬ Viable a stage j d := by
  intro j d hd
  have hne : viableScores a stage ≠ [] :=
    List.ne_nil_of_mem (mem_viableScores.mpr ⟨rfl, d, hd, rfl⟩)
  have hsome := maxByKey_isSome
    (fun x : Nat × RelayQualityScore × Bool => toLex (x.2.1.score, OrderDual.toDual x.1)) hne
  rw [h] at hsome
  cases hsome

/-- What the cache overrules the best score with. -/
theorem hysteresisIndex_kept {cache : Table CacheKey CachedSelection} {now : Instant} {best : Nat}
    (h : hysteresisIndex a (cache.get (cacheKey a.initiatorIp a.targetIp a.requirement)) now
      (terminalScores a stage) best = some i)
    (hbest : ∀ j d, Viable a stage j d → (scoreOf a stage j d).score ≤ best) : ∃ c, Viable a stage i c ∧ IsKept cache now a stage i c := by
  unfold hysteresisIndex at h
  split at h
  · cases h
  · rename_i cached hcached
    split at h
    · rename_i hfresh
      split at h
      · cases h
      · rename_i index hindex
        obtain ⟨previous, hprevious, hkeep⟩ := Option.bind_eq_some_iff.mp h
        split at hkeep
        · rename_i hclose
          cases hkeep
          obtain ⟨hlt, hmatch, -⟩ := List.findIdx?_eq_some_iff_getElem.mp hindex
          rw [List.getElem?_eq_getElem hlt] at hprevious
          rw [Option.some.inj hprevious, Bool.and_eq_true] at hmatch
          obtain ⟨hviable, hname⟩ := hmatch
          have hget : (terminalScores a stage)[i]? = some (previous.1, true) := by
            rw [List.getElem?_eq_getElem hlt, Option.some.inj hprevious]
            exact congrArg some (Prod.ext rfl hviable)
          obtain ⟨c, hc, hscore⟩ := terminalScores_viable.mp hget
          rw [hscore] at hclose hname
          refine ⟨c, hc, cached, hcached, hfresh, hname, fun j d hd => ?_⟩
          exact (hbest j d hd).trans (hclose.trans (min_le_left _ _))
        · cases hkeep
    · cases h

theorem terminalScores_fst : (terminalScores a stage).map (fun x => x.1) =
    a.candidates.mapIdx (scoreOf a stage) := by
  apply List.ext_getElem?
  intro j
  rw [List.getElem?_map, terminalScores_get, List.getElem?_mapIdx, Option.map_map]
  rfl

/-- The relay that a viable index stands for. -/
theorem terminalScores_relay (h : Viable a stage i c) :
    (((terminalScores a stage)[i]?).map fun x => x.1.relayServer).getD "" = c.relay := by
  rw [terminalScores_get, h.candidate]
  rfl

end Parts

/-! ## The selection -/

/-- The decision `d` is a right one. -/
structure Selection (cache : Table CacheKey CachedSelection) (now : Instant) (a : Allocation)
    (stage : Stage) (d : RelayQualityDecision) : Prop where
  fallback : d.fallback = true ↔ ∀ i c, ¬ Viable a stage i c
  fallbackRelay : d.fallback = true → d.relayServer = a.fallbackRelay
  selected : d.fallback = false → ∃ i c, Viable a stage i c ∧ d.relayServer = c.relay ∧
    (IsBest a stage i c ∨ IsKept cache now a stage i c)
  permutation : d.scores.Perm (a.candidates.mapIdx (scoreOf a stage))
  sorted : d.scores.Pairwise ScoreOrder

/-- `score_terminal_allocation` falls back exactly when no candidate is viable. Otherwise it selects
the first viable candidate of maximal score, or one that a fresh cache entry under the key of the
two networks, whichever comes first, names and that is within the hysteresis of the maximum. The
scores are those of all candidates in order; in the expanded stage candidate 0 is judged by the
reports of the primary stage. -/
theorem terminal_selection (cache : Table CacheKey CachedSelection) (now : Instant)
    (a : Allocation) (stage : Stage) (reason : DecisionReason) :
    Selection cache now a stage (scoreTerminalAllocation cache now a stage reason).1 ∧
    ∀ x y requirement, cacheKey x y requirement = cacheKey y x requirement := by
  refine ⟨?_, cacheKey_comm⟩
  have hscores := sortedScores_spec ((terminalScores a stage).map fun x => x.1)
  rw [terminalScores_fst] at hscores
  unfold scoreTerminalAllocation
  dsimp only
  rw [terminalScores_fst]
  split
  · rename_i hnone
    refine ⟨⟨fun _ => maxByKey_none hnone, fun _ => rfl⟩, fun _ => rfl, ?_, hscores.1, hscores.2⟩
    intro h
    cases h
  · rename_i index best viable hsome
    obtain ⟨c, hviable, hbest, hmax⟩ := maxByKey_best hsome
    refine ⟨⟨?_, fun hall => absurd hviable (hall index c)⟩, ?_, fun _ => ?_, hscores.1, hscores.2⟩
    · intro h
      cases h
    · intro h
      cases h
    · split
      · rename_i kept hkept
        have hle : ∀ j d, Viable a stage j d → (scoreOf a stage j d).score ≤ best.score := by
          intro j d hd
          rw [hbest]
          rcases hmax j d hd with hlt | ⟨heq, -⟩
          · exact le_of_lt hlt
          · exact le_of_eq heq
        obtain ⟨c', hc', hkeep⟩ := hysteresisIndex_kept hkept hle
        exact ⟨kept, c', hc', terminalScores_relay hc', .inr hkeep⟩
      · exact ⟨index, c, hviable, terminalScores_relay hviable, .inl hmax⟩

end Starry.Quality
