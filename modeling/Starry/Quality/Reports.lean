import Starry.Quality.Agreement

/-!
# Relay quality: which reports are accepted

`validate_report` crosses the issued candidates off one by one. What it accepts is exactly a
permutation of them with plausible results, and what it keeps of the report has one entry for each.
-/

open Library

namespace Starry.Quality

/-! ## Names -/

def CandidateState.key (c : CandidateState) : String := toAsciiLowercase c.relay

def RelayProbeResult.key (r : RelayProbeResult) : String := toAsciiLowercase r.relayServer

def RelayProbeResult.metric (r : RelayProbeResult) : Metric :=
  ⟨r.attempted, r.succeeded, r.rttMs, r.jitterMs⟩

/-- No two candidates have the same name, ignoring case. -/
def Allocation.Distinct (a : Allocation) : Prop := (a.candidates.map CandidateState.key).Nodup

theorem eqIgnoreAsciiCase_iff {x y : String} :
    eqIgnoreAsciiCase x y = true ↔ toAsciiLowercase x = toAsciiLowercase y := by
  unfold eqIgnoreAsciiCase
  exact beq_iff_eq

theorem filterMap_range' {α : Type} (l : List α) (start n : Nat) :
    (List.range' start n).filterMap (fun i => l[i]?) = (l.drop start).take n := by
  induction n generalizing start with
  | zero => simp
  | succ n ih =>
    rw [List.range'_succ, List.filterMap_cons, ih]
    by_cases h : start < l.length
    · rw [List.getElem?_eq_getElem h, List.drop_eq_getElem_cons h, List.take_succ_cons]
    · rw [List.getElem?_eq_none (not_lt.mp h), List.drop_eq_nil_of_le (not_lt.mp h),
        List.drop_eq_nil_of_le (by omega)]
      simp

section Names

variable {a : Allocation} {stage : Stage}

/-- The candidates of a stage: the first, the others, or all. -/
theorem stageCandidates_eq (a : Allocation) : stageCandidates a =
    match a.stage with
    | .primary => a.candidates.take 1
    | .expanded => a.candidates.drop 1
    | .eager => a.candidates := by
  unfold stageCandidates stageCandidateIndices
  cases a.stage with
  | primary =>
    dsimp only
    cases hcandidates : a.candidates with
    | nil => rfl
    | cons c cs => rfl
  | expanded =>
    dsimp only
    rw [filterMap_range', List.take_of_length_le (by rw [List.length_drop])]
  | eager =>
    dsimp only
    rw [List.range_eq_range', filterMap_range', List.drop_zero, List.take_length]

theorem stageCandidates_sublist (a : Allocation) : (stageCandidates a).Sublist a.candidates := by
  rw [stageCandidates_eq]
  cases a.stage with
  | primary => exact List.take_sublist 1 _
  | expanded => exact List.drop_sublist 1 _
  | eager => exact List.Sublist.refl _

theorem stageCandidates_length (a : Allocation) : (stageCandidates a).length =
    (stageCandidateIndices a.stage a.candidates.length).length := by
  rw [stageCandidates_eq]
  unfold stageCandidateIndices
  cases a.stage with
  | primary =>
    dsimp only
    rw [List.length_take]
    split
    · rename_i hsome
      exact min_eq_left hsome
    · rename_i hnone
      rw [Nat.le_zero.mp (not_lt.mp hnone)]
      rfl
  | expanded => simp
  | eager => simp

theorem stageCandidates_nodup (h : a.Distinct) :
    ((stageCandidates a).map CandidateState.key).Nodup :=
  h.sublist ((stageCandidates_sublist a).map _)

end Names

/-! ## One result -/

/-- A result as it is passed on, with the allocation's own spelling of the relay. -/
def respell (a : Allocation) (r : RelayProbeResult) : RelayProbeResult :=
  match a.candidates.find? fun c => eqIgnoreAsciiCase c.relay r.relayServer with
  | none => r
  | some c => { r with relayServer := c.relay }

/-- What the loop makes of a result that passes. -/
def Validation.take (a : Allocation) (v : Validation) (r : RelayProbeResult) : Validation :=
  { expected := v.expected.erase r.key
    metrics := v.metrics.insert r.key r.metric
    wire := v.wire ++ [respell a r] }

/-- What is still expected is a candidate that has no metric yet. -/
def Validation.Open (a : Allocation) (v : Validation) : Prop :=
  ∀ key ∈ v.expected, v.metrics.get key = none ∧ ∃ c ∈ a.candidates, c.key = key

section Loop

variable {a : Allocation} {v v' : Validation} {r : RelayProbeResult}
  {results : List RelayProbeResult}

theorem validateResult_eq (h : v.Open a) : validateResult a v r =
    if r.key ∈ v.expected ∧ resultInvalid (stageSamples a) r = false then some (v.take a r)
    else none := by
  unfold validateResult
  change (if r.key ∉ v.expected || (v.metrics.get r.key).isSome ||
    resultInvalid (stageSamples a) r then none else _) = _
  by_cases hkey : r.key ∈ v.expected
  · obtain ⟨hnone, c, hc, hck⟩ := h r.key hkey
    by_cases hvalid : resultInvalid (stageSamples a) r = false
    · have hfound : (a.candidates.find? fun c =>
          eqIgnoreAsciiCase c.relay r.relayServer).isSome = true := by
        rw [List.find?_isSome]
        exact ⟨c, hc, eqIgnoreAsciiCase_iff.mpr hck⟩
      obtain ⟨d, hd⟩ := Option.isSome_iff_exists.mp hfound
      rw [if_neg (by simp [hkey, hnone, hvalid]), if_pos ⟨hkey, hvalid⟩, hd]
      unfold Validation.take respell
      rw [hd]
      rfl
    · rw [if_pos (by simp [hvalid]), if_neg (fun hall => hvalid hall.2)]
  · rw [if_pos (by simp [hkey]), if_neg (fun hall => hkey hall.1)]

theorem Validation.Open.take (h : v.Open a) : (v.take a r).Open a := by
  intro key hkey
  obtain ⟨hne, hmem⟩ := Finset.mem_erase.mp hkey
  obtain ⟨hnone, hcandidate⟩ := h key hmem
  refine ⟨?_, hcandidate⟩
  unfold Validation.take
  rw [Table.get_insert, if_neg hne, hnone]

/-- The loop passes a list of distinct expected names with plausible results, and no other. -/
theorem foldlM_validateResult (results : List RelayProbeResult) (h : v.Open a) :
    results.foldlM (validateResult a) v =
    if (results.map RelayProbeResult.key).Nodup ∧ (∀ r ∈ results, r.key ∈ v.expected) ∧
      (∀ r ∈ results, resultInvalid (stageSamples a) r = false)
    then some (results.foldl (Validation.take a) v) else none := by
  induction results generalizing v with
  | nil => simp
  | cons r results ih =>
    rw [List.foldlM_cons, validateResult_eq h]
    by_cases hr : r.key ∈ v.expected ∧ resultInvalid (stageSamples a) r = false
    · rw [if_pos hr, Option.bind_eq_bind, Option.bind_some, ih h.take, List.foldl_cons]
      congr 1
      apply propext
      have hmem : ∀ x : RelayProbeResult,
          x.key ∈ (v.take a r).expected ↔ x.key ≠ r.key ∧ x.key ∈ v.expected := fun x =>
        Finset.mem_erase
      simp only [List.map_cons, List.nodup_cons, List.mem_map, List.mem_cons, forall_eq_or_imp,
        hmem, hr, true_and]
      constructor
      · rintro ⟨hnodup, hin, hvalid⟩
        exact ⟨⟨fun ⟨x, hx, hkey⟩ => (hin x hx).1 hkey, hnodup⟩, fun x hx => (hin x hx).2, hvalid⟩
      · rintro ⟨⟨hfresh, hnodup⟩, hin, hvalid⟩
        exact ⟨hnodup, fun x hx => ⟨fun hkey => hfresh ⟨x, hx, hkey⟩, hin x hx⟩, hvalid⟩
    · rw [if_neg hr, Option.bind_eq_bind, Option.bind_none, if_neg]
      rintro ⟨-, hin, hvalid⟩
      exact hr ⟨hin r List.mem_cons_self, hvalid r List.mem_cons_self⟩

theorem foldl_take (results : List RelayProbeResult) (v : Validation) :
    results.foldl (Validation.take a) v =
      { expected := v.expected \ (results.map RelayProbeResult.key).toFinset
        metrics := results.foldl (fun m r => m.insert r.key r.metric) v.metrics
        wire := v.wire ++ results.map (respell a) } := by
  induction results generalizing v with
  | nil => simp
  | cons r results ih =>
    rw [List.foldl_cons, ih]
    unfold Validation.take
    congr 1
    · rw [List.map_cons, List.toFinset_cons]
      ext key
      simp only [Finset.mem_sdiff, Finset.mem_erase, Finset.mem_insert, not_or]
      tauto
    · rw [List.map_cons, List.append_assoc, List.singleton_append]

end Loop

/-! ## The whole report -/

/-- What the protocol asks of one result. -/
structure Plausible (samples : Nat) (r : RelayProbeResult) : Prop where
  attempted : r.attempted = samples
  succeeded : r.succeeded ≤ r.attempted
  rtt : r.rttMs ≤ 120000
  jitter : r.jitterMs ≤ 120000
  answered : 0 < r.rttMs ↔ 0 < r.succeeded
  single : r.succeeded < 2 → r.jitterMs = 0

theorem resultInvalid_iff {samples : Nat} {r : RelayProbeResult} :
    resultInvalid samples r = false ↔ Plausible samples r := by
  unfold resultInvalid maxReportedRttMs
  simp only [Bool.or_eq_false_iff, Bool.and_eq_false_iff, bne_eq_false_iff_eq,
    decide_eq_false_iff_not, beq_eq_false_iff_ne, not_lt, gt_iff_lt]
  constructor
  · rintro ⟨⟨⟨⟨⟨⟨h1, h2⟩, h3⟩, h4⟩, h5⟩, h6⟩, h7⟩
    exact ⟨h1, h2, h3, h4, by omega, by omega⟩
  · rintro ⟨h1, h2, h3, h4, h5, h6⟩
    exact ⟨⟨⟨⟨⟨⟨h1, h2⟩, h3⟩, h4⟩, by omega⟩, by omega⟩, by omega⟩

/-- A result for each issued candidate, and nothing else. -/
structure Complete (a : Allocation) (report : RelayProbeReport) : Prop where
  names : (report.results.map RelayProbeResult.key).Perm
    ((stageCandidates a).map CandidateState.key)
  results : ∀ r ∈ report.results, Plausible (stageSamples a) r

/-- What is kept of an accepted report. -/
structure Sanitized (a : Allocation) (role : EndpointRole) (report : RelayProbeReport)
    (v : ValidatedReport) : Prop where
  keys : v.metrics.keys.Perm ((stageCandidates a).map CandidateState.key)
  metrics : ∀ r ∈ report.results, v.metrics.get r.key = some r.metric
  wire : v.wire.protocolVersion = protocolVersion ∧ v.wire.allocationId = a.allocationId ∧
    v.wire.stage = a.stage.wire ∧ v.wire.stageToken = a.stageToken ∧
    v.wire.endpointRole = role.wire
  spelling : v.wire.results.Forall₂ (fun w r => ∃ c ∈ stageCandidates a, c.key = r.key ∧
    w = { r with relayServer := c.relay }) report.results

section Report

variable {a : Allocation} {report : RelayProbeReport} {role : EndpointRole} {v : ValidatedReport}

/-- What `validate_report` keeps of a report that it accepts. -/
def sanitize (a : Allocation) (role : EndpointRole) (report : RelayProbeReport) : ValidatedReport :=
  { metrics := report.results.foldl (fun m r => m.insert r.key r.metric) .empty
    wire :=
      { protocolVersion := protocolVersion, allocationId := a.allocationId
        results := report.results.map (respell a), stage := a.stage.wire
        stageToken := a.stageToken, endpointRole := role.wire } }

/-- What the loop starts with: every issued candidate is expected. -/
def Validation.issued (a : Allocation) : Validation :=
  ⟨((stageCandidates a).map CandidateState.key).toFinset, .empty, []⟩

theorem issued_open (a : Allocation) : (Validation.issued a).Open a := by
  intro key hkey
  obtain ⟨c, hc, rfl⟩ := List.mem_map.mp (List.mem_toFinset.mp hkey)
  exact ⟨Table.get_empty _, c, (stageCandidates_sublist a).subset hc, rfl⟩

theorem validateReport_def (report : RelayProbeReport) (a : Allocation) (role : EndpointRole) :
    validateReport report a role =
      if report.results.length ≠ (stageCandidates a).length then none
      else
        match if (report.results.map RelayProbeResult.key).Nodup ∧
            (∀ r ∈ report.results,
              r.key ∈ ((stageCandidates a).map CandidateState.key).toFinset) ∧
            (∀ r ∈ report.results, resultInvalid (stageSamples a) r = false)
          then some (report.results.foldl (Validation.take a) (.issued a)) else none with
        | none => none
        | some v =>
          if v.expected ≠ ∅ then none
          else some ⟨v.metrics,
            { protocolVersion := protocolVersion, allocationId := a.allocationId, results := v.wire
              stage := a.stage.wire, stageToken := a.stageToken, endpointRole := role.wire }⟩ := by
  have hloop := foldlM_validateResult report.results (issued_open a)
  unfold validateReport
  rw [stageCandidates_length]
  change (if _ then none else
    match report.results.foldlM (validateResult a) (.issued a) with
    | none => none
    | some v => _) = _
  rw [hloop]
  rfl

/-- An accepted report has a metric for every issued candidate. -/
theorem validateReport_metrics (h : validateReport report a role = some v) :
    ∀ c ∈ stageCandidates a, (v.metrics.get c.key).isSome = true := by
  rw [validateReport_def, foldl_take] at h
  split at h
  · cases h
  · split at h
    · cases h
    · rename_i w hw
      split at h
      · cases h
      · rename_i hdone
        cases h
        split at hw
        · cases hw
          rw [not_not, Finset.sdiff_eq_empty_iff_subset] at hdone
          intro c hc
          have hkey : c.key ∈ (Validation.issued a).expected :=
            List.mem_toFinset.mpr (List.mem_map_of_mem hc)
          obtain ⟨r, hr, hsame⟩ := List.mem_map.mp (List.mem_toFinset.mp (hdone hkey))
          rw [← hsame]
          exact Table.isSome_get_foldl_insert Table.empty (.inl hr)
        · cases hw

theorem validateReport_eq (h : a.Distinct) [Decidable (Complete a report)] :
    validateReport report a role =
      if Complete a report then some (sanitize a role report) else none := by
  have hnodup := stageCandidates_nodup h
  rw [validateReport_def, foldl_take]
  unfold Validation.issued
  by_cases hcomplete : Complete a report
  · have hlength := hcomplete.names.length_eq
    rw [List.length_map, List.length_map] at hlength
    have hpass : (report.results.map RelayProbeResult.key).Nodup ∧
        (∀ r ∈ report.results,
          r.key ∈ ((stageCandidates a).map CandidateState.key).toFinset) ∧
        ∀ r ∈ report.results, resultInvalid (stageSamples a) r = false := by
      refine ⟨hcomplete.names.nodup_iff.mpr hnodup, fun r hr => ?_, fun r hr =>
        resultInvalid_iff.mpr (hcomplete.results r hr)⟩
      rw [List.mem_toFinset, ← hcomplete.names.mem_iff]
      exact List.mem_map_of_mem hr
    have hdone : ((stageCandidates a).map CandidateState.key).toFinset \
        (report.results.map RelayProbeResult.key).toFinset = ∅ := by
      rw [Finset.sdiff_eq_empty_iff_subset]
      intro key hkey
      rw [List.mem_toFinset] at hkey ⊢
      exact hcomplete.names.mem_iff.mpr hkey
    rw [if_neg (not_not.mpr hlength), if_pos hpass, if_pos hcomplete]
    dsimp only
    rw [hdone, if_neg (not_not.mpr rfl)]
    rfl
  · rw [if_neg hcomplete]
    split
    · rfl
    · split
      · rfl
      · rename_i w hw
        split at hw
        · rename_i hpass
          cases hw
          split
          · rfl
          · rename_i hdone
            exfalso
            apply hcomplete
            rw [not_not, Finset.sdiff_eq_empty_iff_subset] at hdone
            refine ⟨(List.perm_ext_iff_of_nodup hpass.1 hnodup).mpr fun key => ?_, fun r hr =>
              resultInvalid_iff.mp (hpass.2.2 r hr)⟩
            constructor
            · intro hkey
              obtain ⟨r, hr, rfl⟩ := List.mem_map.mp hkey
              exact List.mem_toFinset.mp (hpass.2.1 r hr)
            · intro hkey
              exact List.mem_toFinset.mp (hdone (List.mem_toFinset.mpr hkey))
        · cases hw

theorem sanitize_metric (hnodup : (report.results.map RelayProbeResult.key).Nodup)
    {r : RelayProbeResult} (hr : r ∈ report.results) :
    (sanitize a role report).metrics.get r.key = some r.metric := by
  have hsome : ((sanitize a role report).metrics.get r.key).isSome = true :=
    Table.isSome_get_foldl_insert Table.empty (.inl hr)
  obtain ⟨m, hm⟩ := Option.isSome_iff_exists.mp hsome
  rcases Table.mem_of_get_foldl_insert hm with ⟨x, hx, hkey, hmetric⟩ | hempty
  · rw [hm, ← hmetric, List.inj_on_of_nodup_map hnodup hx hr hkey]
  · rw [Table.get_empty] at hempty
    cases hempty

theorem sanitize_keys (hcomplete : Complete a report)
    (hnodup : (report.results.map RelayProbeResult.key).Nodup) :
    (sanitize a role report).metrics.keys.Perm ((stageCandidates a).map CandidateState.key) := by
  refine List.Perm.trans ?_ hcomplete.names
  refine (List.perm_ext_iff_of_nodup (AList.keys_nodup _) hnodup).mpr fun key => ?_
  have hkey := Table.get_eq_none (m := (sanitize a role report).metrics) (k := key)
  constructor
  · intro hmem
    by_contra hnone
    apply hkey.mp ?_ hmem
    by_contra hsome
    obtain ⟨m, hm⟩ := Option.ne_none_iff_exists'.mp hsome
    rcases Table.mem_of_get_foldl_insert hm with ⟨x, hx, rfl, -⟩ | hempty
    · exact hnone (List.mem_map_of_mem hx)
    · rw [Table.get_empty] at hempty
      cases hempty
  · intro hmem
    obtain ⟨r, hr, rfl⟩ := List.mem_map.mp hmem
    by_contra hnone
    rw [← hkey, sanitize_metric hnodup hr] at hnone
    cases hnone

theorem sanitize_spelling (h : a.Distinct) (hcomplete : Complete a report) :
    (sanitize a role report).wire.results.Forall₂ (fun w r => ∃ c ∈ stageCandidates a,
      c.key = r.key ∧ w = { r with relayServer := c.relay }) report.results := by
  unfold sanitize
  rw [List.forall₂_map_left_iff, List.forall₂_same]
  intro r hr
  have hmem : r.key ∈ (stageCandidates a).map CandidateState.key :=
    hcomplete.names.mem_iff.mp (List.mem_map_of_mem hr)
  obtain ⟨c, hc, hkey⟩ := List.mem_map.mp hmem
  refine ⟨c, hc, hkey, ?_⟩
  have hin := (stageCandidates_sublist a).subset hc
  have hfound : (a.candidates.find? fun c =>
      eqIgnoreAsciiCase c.relay r.relayServer).isSome = true := by
    rw [List.find?_isSome]
    exact ⟨c, hin, eqIgnoreAsciiCase_iff.mpr hkey⟩
  obtain ⟨d, hd⟩ := Option.isSome_iff_exists.mp hfound
  have hdkey : d.key = r.key := by
    have hmatch := List.find?_some hd
    exact eqIgnoreAsciiCase_iff.mp hmatch
  -- Names are distinct, so the first match is the issued candidate.
  have hsame : d = c := List.inj_on_of_nodup_map h (List.mem_of_find?_eq_some hd) hin
    (hdkey.trans hkey.symm)
  unfold respell
  rw [hd, hsame]

theorem sanitize_sanitized (h : a.Distinct) (hcomplete : Complete a report) :
    Sanitized a role report (sanitize a role report) := by
  have hnodup := hcomplete.names.nodup_iff.mpr (stageCandidates_nodup h)
  exact ⟨sanitize_keys hcomplete hnodup, fun r hr => sanitize_metric hnodup hr,
    ⟨rfl, rfl, rfl, rfl, rfl⟩, sanitize_spelling h hcomplete⟩

end Report

/-- For an allocation without two candidates of one name, `validate_report` accepts exactly the
reports whose results are a permutation of the issued candidates, all of them plausible; and what it
keeps has one metric for each of them and the allocation's own spelling and tokens. -/
theorem validate_report_exact (a : Allocation) (hdistinct : a.Distinct)
    (report : RelayProbeReport) (role : EndpointRole) :
    ((validateReport report a role).isSome = true ↔ Complete a report) ∧
    ∀ v, validateReport report a role = some v → Sanitized a role report v := by
  classical
  rw [validateReport_eq hdistinct]
  split
  · rename_i hcomplete
    refine ⟨by simp [hcomplete], fun v hv => ?_⟩
    rw [← Option.some.inj hv]
    exact sanitize_sanitized hdistinct hcomplete
  · rename_i hcomplete
    exact ⟨by simp [hcomplete], fun v hv => by cases hv⟩

/-- An allocation of the relays `a` and `b`, both issued. -/
def sampleAllocation : Allocation :=
  QualityState.offeredAllocation (sampleEnv .eager 1) { enabled := true, strategy := .eager }
    (sampleOffer (sampleTarget 50000)) [sampleView "a", sampleView "b"]

/-- The order and the case of the names do not matter. -/
theorem validate_report_exact_spelling : ∃ v,
    validateReport (sampleReport 1 .eager .target ["B", "a"] 5) sampleAllocation .target = some v ∧
    v.wire.results.map (fun r => r.relayServer) = ["b", "a"] ∧
    Sanitized sampleAllocation .target (sampleReport 1 .eager .target ["B", "a"] 5) v := by
  have hdistinct : sampleAllocation.Distinct := by
    unfold Allocation.Distinct
    decide
  have h : (validateReport (sampleReport 1 .eager .target ["B", "a"] 5) sampleAllocation
      .target).any (fun v => v.wire.results.map (fun r => r.relayServer) = ["b", "a"]) = true := by
    decide
  simp only [Option.any_eq_true, decide_eq_true_eq] at h
  obtain ⟨v, hv, hnames⟩ := h
  exact ⟨v, hv, hnames, (validate_report_exact sampleAllocation hdistinct _ .target).2 v hv⟩

end Starry.Quality
