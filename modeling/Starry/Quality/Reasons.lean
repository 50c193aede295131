import Starry.Quality.Stages
import Starry.Quality.Terminal

/-!
# Relay quality: the reason of a decision and its partial flag

The flag says that an endpoint's report of the deciding stage is missing. The reason says the same
where it is chosen from the reports; a request always gives the reason of a complete decision, and a
deadline always that of a partial one.
-/

open Library

namespace Starry.Quality

open QualityState

/-! ## Agreement -/

/-- The reason of a scored decision is `partial` exactly when it is marked so. -/
def ReasonAgrees (d : RelayQualityDecision) : Prop :=
  d.fallback = false → d.reasonCode ≠ DecisionReason.hysteresis.code →
    (d.reasonCode = DecisionReason.partialReport.code ↔ d.isPartial = true)

/-- A scored decision is marked as partial exactly when a report of the stage is missing. -/
def FlagCounts (a : Allocation) (d : RelayQualityDecision) : Prop :=
  d.fallback = false → (d.isPartial = true ↔ stageReportCount a a.stage < 2)

/-- The reports of the primary stage are about its candidate. -/
def PrimarySound (a : Allocation) : Prop :=
  ∀ role v c, a.reports.get .primary role = some v → a.candidates.head? = some c →
    (v.metrics.get c.key).isSome = true

/-- Whether the scores decide: a candidate is viable, and the cache does not overrule them. -/
def decidesByScore (cache : Table CacheKey CachedSelection) (now : Instant) (a : Allocation)
    (stage : Stage) : Bool :=
  (maxByKey (fun x => toLex (x.2.1.score, OrderDual.toDual x.1)) (viableScores a stage)).any
    fun best => (hysteresisIndex a (cache.get (cacheKey a.initiatorIp a.targetIp a.requirement)) now
      (terminalScores a stage) best.2.1.score).isNone

section Decisions

variable {a : Allocation} {cache : Table CacheKey CachedSelection} {now : Instant}
  {reason : DecisionReason}

theorem stageReportCount_lt {stage : Stage} : stageReportCount a stage < 2 ↔
    ¬ ((a.reports.get stage .controller).isSome = true ∧
      (a.reports.get stage .target).isSome = true) := by
  unfold stageReportCount
  cases hcontroller : (a.reports.get stage .controller).isSome <;>
    cases htarget : (a.reports.get stage .target).isSome <;> simp [hcontroller, htarget]

/-- The three outcomes of the terminal scoring. -/
theorem scoreTerminalAllocation_cases (cache : Table CacheKey CachedSelection) (now : Instant)
    (a : Allocation) (stage : Stage) (reason : DecisionReason) :
    let d := (scoreTerminalAllocation cache now a stage reason).1
    d.fallback = true ∧ decidesByScore cache now a stage = false ∨
    d.isPartial = decide (stageReportCount a stage < 2) ∧
      (d.reasonCode = DecisionReason.hysteresis.code ∧ decidesByScore cache now a stage = false ∨
        d.reasonCode = reason.code ∧ decidesByScore cache now a stage = true) := by
  unfold scoreTerminalAllocation decidesByScore viableScores
  dsimp only
  split
  · rename_i hnone
    rw [hnone]
    exact .inl ⟨rfl, rfl⟩
  · rename_i index best viable hsome
    rw [hsome]
    right
    refine ⟨rfl, ?_⟩
    dsimp only [Option.any_some]
    cases hysteresisIndex a (cache.get (cacheKey a.initiatorIp a.targetIp a.requirement)) now
        (terminalScores a stage) best.score with
    | none => exact .inr ⟨rfl, rfl⟩
    | some kept => exact .inl ⟨rfl, rfl⟩

theorem reasonAgrees_fallback (stage : Stage) :
    ReasonAgrees (fallbackDecision a stage reason) := nofun

theorem flagCounts_fallback (stage : Stage) :
    FlagCounts a (fallbackDecision a stage reason) := nofun

theorem reasonAgrees_primary (c : CandidateState) : ReasonAgrees (primaryDecision a c).1 := by
  intro _ _
  unfold primaryDecision
  dsimp only
  generalize ((ValidatedReport.metric a.reports.primaryController c).isNone ||
    (ValidatedReport.metric a.reports.primaryTarget c).isNone) = isPartial
  cases isPartial <;> decide

theorem metric_isNone {c : CandidateState} (role : EndpointRole) (h : PrimarySound a)
    (hc : a.candidates.head? = some c) :
    (ValidatedReport.metric (a.reports.get .primary role) c).isNone =
      (a.reports.get .primary role).isNone := by
  unfold ValidatedReport.metric
  cases hv : a.reports.get .primary role with
  | none => rfl
  | some v =>
    obtain ⟨m, hm⟩ := Option.isSome_iff_exists.mp (h role v c hv hc)
    rw [Option.bind_some]
    change (v.metrics.get c.key).isNone = _
    rw [hm]
    rfl

theorem flagCounts_primary {c : CandidateState} (h : PrimarySound a)
    (hc : a.candidates.head? = some c) (hstage : a.stage = .primary) :
    FlagCounts a (primaryDecision a c).1 := by
  intro _
  have hcontroller := metric_isNone .controller h hc
  have htarget := metric_isNone .target h hc
  rw [hstage, stageReportCount_lt]
  change (_ || _) = true ↔ _
  rw [Bool.or_eq_true]
  change (ValidatedReport.metric (a.reports.get .primary .controller) c).isNone = true ∨
    (ValidatedReport.metric (a.reports.get .primary .target) c).isNone = true ↔ _
  rw [hcontroller, htarget, not_and_or, Bool.not_eq_true, Bool.not_eq_true,
    Option.isSome_eq_false_iff, Option.isSome_eq_false_iff]

theorem flagCounts_terminal :
    FlagCounts a (scoreTerminalAllocation cache now a a.stage reason).1 := by
  intro hscored
  rcases scoreTerminalAllocation_cases cache now a a.stage reason with ⟨hfallback, -⟩ | ⟨hpart, -⟩
  · rw [hfallback] at hscored
    cases hscored
  · rw [hpart, decide_eq_true_eq]

/-- The reason that was given decides, unless the decision is a fallback or the cache's. -/
theorem reasonAgrees_terminal
    (h : decidesByScore cache now a a.stage = true →
      (reason.code = DecisionReason.partialReport.code ↔ stageReportCount a a.stage < 2)) :
    ReasonAgrees (scoreTerminalAllocation cache now a a.stage reason).1 := by
  intro hscored hreason
  rcases scoreTerminalAllocation_cases cache now a a.stage reason with
    ⟨hfallback, -⟩ | ⟨hpart, ⟨hkept, -⟩ | ⟨hcode, hdecides⟩⟩
  · rw [hfallback] at hscored
    cases hscored
  · exact absurd hkept hreason
  · rw [hpart, hcode, decide_eq_true_eq]
    exact h hdecides

end Decisions

/-! ## When the given reason fits -/

/-- A bound request lets the scores of an allocation decide whose target has not reported in the
stage. -/
def requestLacksTarget (s : QualityState) (env : Env) (a : Allocation) (report : RelayProbeReport) :
    Bool :=
  match validateReportUntil report a .controller env.received with
  | .error _ => false
  | .ok v =>
    let stored := a.store .controller v
    decide (stored.1 ≠ .conflict) &&
      (match stored.2.stage with
        | .primary => false
        | .eager => true
        | .expanded => expandedReady stored.2) &&
      decidesByScore s.cache env.decided stored.2 a.stage && (a.reports.get a.stage .target).isNone

/-- The scores of an allocation with both reports of its stage decide after the deadline. -/
def lateComplete (s : QualityState) (env : Env) (a : Allocation) : Bool :=
  (a.reports.get a.stage .controller).isSome && (a.reports.get a.stage .target).isSome &&
    decidesByScore s.cache env.decided a a.stage

def reportIsLate (env : Env) (a : Allocation) (report : RelayProbeReport) (role : EndpointRole) :
    Bool :=
  match validateReportUntil report a role env.received with
  | .error .late => true
  | _ => false

def requestFits (s : QualityState) (env : Env) (q : RelayRequest) : Bool :=
  (s.requestDecisions.get q.requestKey).isSome || q.report.all fun r =>
    (!q.explicitAllocationId.isEmpty && q.explicitAllocationId != r.allocationId) ||
    (s.allocations.get r.allocationId).all fun a =>
      !(requestBound env q a && requestLacksTarget s env (a.pin q.uuid) r)

def reportFits (s : QualityState) (env : Env) (q : StageReportRequest) : Bool :=
  (EndpointRole.fromWire q.report.endpointRole).all fun role =>
    (s.allocations.get q.report.allocationId).all fun a =>
      !(a.configGeneration == env.active.generation &&
        sourceMatches a (normalizeSocket q.sourceRoute) (normalizeIp q.sourceIp) role &&
        reportIsLate env a q.report role && lateComplete s env a)

/-- The same for the allocations that the ticker finalizes, one after the other. -/
def sweepFits (env : Env) : List Bytes → QualityState → Bool
  | [], _ => true
  | id :: ids, s =>
    (s.allocations.get id).all (fun a => !lateComplete s env a) &&
      sweepFits env ids (finalizeOne env (s, []) id).1

def Call.reasonFits (s : QualityState) (env : Env) : Call → Bool
  | .selectForRequest q => requestFits (s.cleanedBy env) env q
  | .handleStageReport q => reportFits (s.cleanedBy env) env q
  | .finalizeExpired => sweepFits env ((s.cleanedBy env).expiredIds env) (s.cleanedBy env)
  | _ => true

/-- The steps of the theorem below: the draws are new, no request is decided without the target's
report, and no deadline decides with both. -/
def fittingReasons (w : World) (i : Env × Call) : Bool :=
  freshDraws w i && (!i.1.active.config.any (·.enabled) || i.2.reasonFits w.state i.1)

/-! ## One call -/

/-- What a call has recorded agrees, and counts the reports of the allocation as the call left it. -/
def Records (env : Env) (call : Call) (s t : QualityState) : Prop :=
  ∀ x ∈ t.recorded, x ∈ s.recorded ∨ ReasonAgrees x.1 ∧ ∃ id a a',
    s.allocations.get id = some a ∧ Evolves env call a a' ∧ FlagCounts a' x.1

def AllPrimarySound (s : QualityState) : Prop :=
  ∀ id a, s.allocations.get id = some a → PrimarySound a

section

variable {env : Env} {s t : QualityState} {id : Bytes} {a a' : Allocation} {call : Call}

theorem Records.of_recorded (h : t.recorded = s.recorded) : Records env call s t :=
  fun _ hx => .inl (h ▸ hx)

theorem Records.final (ha : s.allocations.get id = some a) (hev : Evolves env call a a')
    (d : RelayQualityDecision × Option (CacheKey × String)) (hreason : ReasonAgrees d.1)
    (hflag : FlagCounts a' d.1) :
    Records env call s ((s.take id).recordFinalDecision env a' d.1 d.2).1 := by
  intro x hx
  rw [(recordFinalDecision_spec (s.take id) env a' d.1 d.2).recorded] at hx
  rcases List.mem_cons.mp hx with rfl | hx
  · exact .inr ⟨hreason, id, a, a', ha, hev, hflag⟩
  · exact .inl hx

/-! ### What is stored -/

theorem store_primarySound {role : EndpointRole} {v : ValidatedReport} (hp : PrimarySound a)
    (hv : a.stage = .primary → ∀ c, a.candidates.head? = some c →
      (v.metrics.get c.key).isSome = true) : PrimarySound (a.store role v).2 := by
  intro role' w c hw hc
  rw [store_reports] at hw
  split at hw
  · rename_i hslot
    obtain ⟨hstage, -⟩ := hslot
    rw [← hstage] at hw
    rw [← Option.some.inj hw]
    cases hx : a.reports.get .primary role with
    | none => exact hv hstage.symm c hc
    | some x => exact hp role x c hx hc
  · exact hp role' w c hw hc

theorem validated_primary {report : RelayProbeReport} {role : EndpointRole} {v : ValidatedReport}
    {now : Instant} (h : validateReportUntil report a role now = .ok v) (hstage : a.stage = .primary) :
    ∀ c, a.candidates.head? = some c → (v.metrics.get c.key).isSome = true := by
  intro c hc
  have hvalid : validateReport report a role = some v := by
    unfold validateReportUntil at h
    split at h
    · cases h
    · split at h
      · cases h
      · split at h
        · cases h
        · split at h
          · rename_i w hw
            cases h
            exact hw
          · cases h
  apply validateReport_metrics hvalid
  rw [stageCandidates_eq, hstage]
  obtain ⟨rest, hrest⟩ := List.head?_eq_some_iff.mp hc
  rw [hrest]
  exact List.mem_cons_self

theorem Evolves.primarySound (h : Evolves env call a a') (hp : PrimarySound a) :
    PrimarySound a' := by
  cases h with
  | same => exact hp
  | responded q _ report v hsource hreport hv => exact store_primarySound hp (validated_primary hv)
  | reported q _ role v hsource hv => exact store_primarySound hp (validated_primary hv)
  | pinned q _ hbound => exact hp
  | requested q _ report v hbound hreport hv =>
    have hpin : PrimarySound (a.pin q.uuid) := hp
    exact store_primarySound hpin (validated_primary hv)

theorem effect_primarySound {answer : Answer} (he : Effect env s call answer t)
    (hp : AllPrimarySound s) : AllPrimarySound t := by
  intro id x hx
  cases he with
  | same => exact hp id x hx
  | offered q o config views hconfig hviews =>
    rcases addAllocation_get hx with ⟨-, rfl⟩ | ⟨-, hold⟩
    · intro role v c hv
      cases role <;> cases hv
    · exact hp id x hold
  | put id' b b' hb hev =>
    rw [putBack_get] at hx
    split at hx
    · cases hx
      exact hev.primarySound (hp id' b hb)
    · exact hp id x hx
  | expanded q d id' b b' hb hev =>
    rw [putBack_get] at hx
    split at hx
    · cases hx
      exact hev.primarySound (hp id' b hb)
    · exact hp id x hx
  | finalized id' b b' d hb =>
    rw [finalizeWith_get] at hx
    split at hx
    · cases hx
    · exact hp id x hx
  | cancelled q d b role hb =>
    rw [removeAllocation_get] at hx
    split at hx
    · cases hx
    · exact hp id x hx
  | swept ds => exact hp id x (sweeps_get (foldl_finalizeOne_sweeps env _ s []) hx)

/-! ### The handlers -/

theorem lateDecision_records (s : QualityState) (env : Env) (id : Bytes) (a : Allocation)
    (hfit : lateComplete s env a = false) :
    ReasonAgrees ((s.take id).lateDecision env a).1 ∧
      FlagCounts a ((s.take id).lateDecision env a).1 := by
  unfold lateDecision
  split
  · rename_i hcontroller
    refine ⟨reasonAgrees_terminal fun hdecides => ⟨fun _ => ?_, fun _ => rfl⟩, flagCounts_terminal⟩
    rw [stageReportCount_lt]
    rintro ⟨-, htarget⟩
    unfold lateComplete at hfit
    rw [hcontroller, htarget] at hfit
    have hno : decidesByScore s.cache env.decided a a.stage = false := hfit
    exact absurd hdecides (by rw [show (s.take id).cache = s.cache from rfl, hno]; simp)
  · exact ⟨reasonAgrees_fallback _, flagCounts_fallback _⟩

theorem advanceRequest_records {q : RelayRequest} {report : RelayProbeReport} {v : ValidatedReport}
    (ha : s.allocations.get id = some a) (hp : PrimarySound a)
    (hbound : requestBound env q a = true) (hreport : q.report = some report)
    (hv : validateReportUntil report (a.pin q.uuid) .controller env.received = .ok v)
    (hstored : ((a.pin q.uuid).store .controller v).1 ≠ .conflict)
    (hfit : requestLacksTarget s env (a.pin q.uuid) report = false) :
    Records env (.selectForRequest q) s
      ((s.take id).advanceRequest env id ((a.pin q.uuid).store .controller v).2).1 := by
  have hev : Evolves env (.selectForRequest q) a ((a.pin q.uuid).store .controller v).2 :=
    .requested q a report v hbound hreport hv
  unfold requestLacksTarget at hfit
  rw [hv] at hfit
  dsimp only at hfit
  rw [decide_eq_true hstored, Bool.true_and] at hfit
  have hcontroller : (((a.pin q.uuid).store .controller v).2.reports.get a.stage
      .controller).isSome = true := by
    rw [store_reports, if_pos ⟨rfl, rfl⟩]
    rfl
  have htarget : ((a.pin q.uuid).store .controller v).2.reports.get a.stage .target =
      a.reports.get a.stage .target := by
    rw [store_reports, if_neg (by simp)]
    rfl
  have hstage : ((a.pin q.uuid).store .controller v).2.stage = a.stage := rfl
  have hpin : (a.pin q.uuid).stage = a.stage := rfl
  have hsound := hev.primarySound hp
  rw [hpin] at hfit
  generalize ((a.pin q.uuid).store .controller v).2 = b at hev hfit hcontroller htarget hstage hsound ⊢
  -- The scores decide: then the target has reported, and the decision is complete.
  have hterminal : (match b.stage with
      | .primary => false
      | .eager => true
      | .expanded => expandedReady b) = true →
      ReasonAgrees (scoreTerminalAllocation (s.take id).cache env.decided b b.stage
        .expandedBestScore).1 ∧
      FlagCounts b (scoreTerminalAllocation (s.take id).cache env.decided b b.stage
        .expandedBestScore).1 := by
    intro hready
    refine ⟨reasonAgrees_terminal fun hdecides => ⟨fun h => absurd h (by decide), fun hcount => ?_⟩,
      flagCounts_terminal⟩
    have hdecides' : decidesByScore s.cache env.decided b a.stage = true := by
      rw [← hstage]
      exact hdecides
    have hreports : (a.reports.get a.stage .target).isNone = false := by
      change ((match b.stage with
        | .primary => false
        | .eager => true
        | .expanded => expandedReady b) && decidesByScore s.cache env.decided b a.stage &&
          (a.reports.get a.stage .target).isNone) = false at hfit
      rw [hready, hdecides'] at hfit
      exact hfit
    rw [stageReportCount_lt, hstage, hcontroller, htarget] at hcount
    apply absurd _ hcount
    rw [Option.isNone_eq_false_iff] at hreports
    exact ⟨rfl, hreports⟩
  unfold advanceRequest
  split
  · rename_i hb
    split
    · rename_i first hfirst hgood
      exact .final ha hev _ (reasonAgrees_primary first) (flagCounts_primary hsound hfirst hb)
    · exact .of_recorded rfl
  · rename_i hb
    rw [hb] at hterminal
    exact .final ha hev _ (hterminal rfl).1 (hterminal rfl).2
  · rename_i hb
    rw [hb] at hterminal
    split
    · rename_i hready
      exact .final ha hev _ (hterminal hready).1 (hterminal hready).2
    · exact .of_recorded rfl

theorem bindRequest_records {q : RelayRequest} (hp : AllPrimarySound s)
    (hkey : q.uuid.isEmpty = false → s.requestDecisions.get q.requestKey = none)
    (hfit : requestFits s env q = true) :
    Records env (.selectForRequest q) s (s.bindRequest env q).1 := by
  unfold bindRequest
  split
  · split <;> exact .of_recorded rfl
  · rename_i r hr
    dsimp only
    split
    · exact .of_recorded rfl
    · rename_i hids
      split
      · exact .of_recorded rfl
      · rename_i x hx
        split
        · exact .of_recorded rfl
        · rename_i hbound
          have hmatch : (!q.explicitAllocationId.isEmpty &&
              q.explicitAllocationId != r.allocationId) = false := by
            simp only [Bool.or_eq_true, not_or, Bool.not_eq_true] at hids
            exact hids.1
          simp only [Bool.not_eq_true', Bool.not_eq_false] at hbound
          have huuid : q.uuid.isEmpty = false := by
            simp only [requestBound, Bool.and_eq_true, Bool.not_eq_true'] at hbound
            exact hbound.1.2
          simp only [requestFits, hkey huuid, hr, hx, Option.isSome_none, Bool.false_or,
            Option.all_some, hmatch, hbound, Bool.true_and, Bool.not_eq_true'] at hfit
          have hpin : Evolves env (.selectForRequest q) x (x.pin q.uuid) := .pinned q x hbound
          unfold resolveRequest
          split
          · exact .final hx hpin (_, none) (reasonAgrees_fallback _) (flagCounts_fallback _)
          · exact .of_recorded rfl
          · exact .final hx hpin (_, none) (reasonAgrees_fallback _) (flagCounts_fallback _)
          · rename_i v hv
            dsimp only
            split
            · exact .of_recorded rfl
            · rename_i hstored
              exact advanceRequest_records hx (hp _ x hx) hbound hr hv hstored hfit

theorem selectForRequest_records {q : RelayRequest} (hp : AllPrimarySound (s.cleanedBy env))
    (hfit : (!env.active.config.any (·.enabled) || requestFits (s.cleanedBy env) env q) = true) :
    (s.selectForRequest env q).1 = s ∨
      Records env (.selectForRequest q) (s.cleanedBy env) (s.selectForRequest env q).1 := by
  unfold selectForRequest
  split
  · exact .inl rfl
  · rename_i config hconfig
    split
    · exact .inl rfl
    · rename_i hen
      simp only [Bool.not_eq_true', Bool.not_eq_false] at hen
      rw [hconfig, Option.any_some, hen, Bool.not_true, Bool.false_or] at hfit
      rw [cleanedBy_eq hconfig] at hp hfit ⊢
      right
      dsimp only
      split
      · split <;> exact .of_recorded rfl
      · rename_i hnone
        exact bindRequest_records hp (fun huuid => by simpa [huuid] using hnone) hfit

theorem resolveReport_records {q : StageReportRequest} {role : EndpointRole}
    (ha : s.allocations.get id = some a)
    (hsource : sourceMatches a (normalizeSocket q.sourceRoute) (normalizeIp q.sourceIp) role = true)
    (hfit : reportIsLate env a q.report role = true → lateComplete s env a = false) :
    Records env (.handleStageReport q) s ((s.take id).resolveReport env id a q.report role).1 := by
  unfold reportIsLate at hfit
  unfold resolveReport
  split
  · exact .of_recorded rfl
  · exact .of_recorded rfl
  · rename_i hlate
    rw [hlate] at hfit
    obtain ⟨hreason, hflag⟩ := lateDecision_records s env id a (hfit rfl)
    exact .final ha (.same _ a) _ hreason hflag
  · rename_i v hv
    dsimp only
    split
    · exact .of_recorded rfl
    · unfold advanceReport
      split
      · exact .of_recorded rfl
      · refine .final ha (.reported q a role v hsource hv) _ (reasonAgrees_terminal fun _ => ?_)
          flagCounts_terminal
        split
        · rename_i hcount
          exact ⟨fun _ => hcount, fun _ => rfl⟩
        · rename_i hcount
          exact ⟨fun h => absurd h (by decide), fun h => absurd h hcount⟩

theorem handleStageReport_records {q : StageReportRequest}
    (hfit : (!env.active.config.any (·.enabled) || reportFits (s.cleanedBy env) env q) = true) :
    (s.handleStageReport env q).1 = s ∨
      Records env (.handleStageReport q) (s.cleanedBy env) (s.handleStageReport env q).1 := by
  unfold handleStageReport
  split
  · exact .inl rfl
  · rename_i config hconfig
    split
    · exact .inl rfl
    · rename_i hen
      split
      · exact .inl rfl
      · rename_i role hrole
        simp only [Bool.or_eq_true, Bool.not_eq_true', not_or, Bool.not_eq_false] at hen
        rw [hconfig, Option.any_some, hen.1, Bool.not_true, Bool.false_or] at hfit
        rw [cleanedBy_eq hconfig] at hfit ⊢
        right
        dsimp only
        split
        · split <;> exact .of_recorded rfl
        · split
          · exact .of_recorded rfl
          · rename_i x hx
            split
            · exact .of_recorded rfl
            · rename_i hcond
              simp only [Bool.or_eq_true, bne_iff_ne, Bool.not_eq_true', not_or, not_not,
                Bool.not_eq_false] at hcond
              simp only [reportFits, hrole, hx, Option.all_some, hcond.1, hcond.2,
                beq_self_eq_true, Bool.true_and, Bool.not_eq_true'] at hfit
              refine resolveReport_records hx hcond.2 fun hlate => ?_
              rw [hlate, Bool.true_and] at hfit
              exact hfit

theorem foldl_finalizeOne_records (ids : List Bytes) (ds : List StageDispatch)
    (hfit : sweepFits env ids s = true) :
    Records env .finalizeExpired s (ids.foldl (finalizeOne env) (s, ds)).1 := by
  induction ids generalizing s ds with
  | nil => exact .of_recorded rfl
  | cons id ids ih =>
    rw [sweepFits, Bool.and_eq_true] at hfit
    obtain ⟨hone, hrest⟩ := hfit
    rw [List.foldl_cons]
    cases ha : s.allocations.get id with
    | none =>
      have he : ∀ ds, finalizeOne env (s, ds) id = (s, ds) := fun ds => by simp only [finalizeOne, ha]
      rw [he] at hrest ⊢
      exact ih ds hrest
    | some a =>
      rw [finalizeOne_eq _ ha] at hrest ⊢
      rw [ha, Option.all_some, Bool.not_eq_true'] at hone
      obtain ⟨hreason, hflag⟩ := lateDecision_records s env id a hone
      intro x hx
      rcases ih _ hrest x hx with hx | ⟨hagrees, id', b, b', hb, hev, hcounts⟩
      · exact Records.final ha (.same _ a) _ hreason hflag x hx
      · rw [finalizeWith_get] at hb
        split at hb
        · cases hb
        · exact .inr ⟨hagrees, id', b, b', hb, hev, hcounts⟩

theorem handle_records (hp : AllPrimarySound (s.cleanedBy env))
    (hfit : (!env.active.config.any (·.enabled) || call.reasonFits s env) = true) :
    (s.handle env call).1 = s ∨ Records env call (s.cleanedBy env) (s.handle env call).1 := by
  cases call with
  | selectForRequest q => exact selectForRequest_records hp hfit
  | handleStageReport q => exact handleStageReport_records hfit
  | runtimeSnapshot => exact .inr (.of_recorded rfl)
  | createOffer q =>
    simp only [handle, Prod.map_fst, id_eq]
    unfold createOffer
    split
    · exact .inl rfl
    · rename_i config hconfig
      split
      · exact .inl rfl
      · rename_i views hviews
        obtain ⟨al, ro, he⟩ := addAllocation_eq (s.cleanup config env.cleaned) env config
          (offeredAllocation env config q views)
        rw [cleanedBy_eq hconfig]
        refine .inr (.of_recorded ?_)
        dsimp only
        rw [he]
  | responseContext q =>
    simp only [handle, Prod.map_fst, id_eq]
    unfold responseContext
    split
    · exact .inl rfl
    · rename_i config hconfig
      rw [cleanedBy_eq hconfig]
      split
      · exact .inl rfl
      · right
        dsimp only
        split
        · exact .of_recorded rfl
        · split
          · exact .of_recorded rfl
          · split <;> exact .of_recorded rfl
  | cancelAllocation q =>
    simp only [handle, Prod.map_fst, id_eq]
    unfold cancelAllocation
    split
    · exact .inl rfl
    · rename_i config hconfig
      rw [cleanedBy_eq hconfig]
      dsimp only
      split
      · exact .inl rfl
      · split
        · exact .inl rfl
        · right
          split
          · exact .of_recorded rfl
          · split <;> exact .of_recorded rfl
  | decisionForResponse uuid ip =>
    simp only [handle, Prod.map_fst, id_eq]
    unfold decisionForResponse
    split
    · exact .inl rfl
    · split
      · exact .inl rfl
      · rename_i config hconfig
        rw [cleanedBy_eq hconfig]
        exact .inr (.of_recorded rfl)
  | finalizeExpired =>
    simp only [handle, Prod.map_fst, id_eq]
    unfold finalizeExpired
    split
    · exact .inl rfl
    · rename_i config hconfig
      split
      · exact .inl rfl
      · rename_i hen
        simp only [Bool.not_eq_true', Bool.not_eq_false] at hen
        rw [hconfig, Option.any_some, hen, Bool.not_true, Bool.false_or] at hfit
        simp only [Call.reasonFits, cleanedBy_eq hconfig] at hfit
        rw [cleanedBy_eq hconfig]
        exact .inr (foldl_finalizeOne_records _ [] hfit)

theorem cleanedBy_primarySound (hp : AllPrimarySound s) : AllPrimarySound (s.cleanedBy env) :=
  fun id a ha => hp id a (cleanup_allocations.mp ha).1

theorem handle_primarySound (hp : AllPrimarySound s) : AllPrimarySound (s.handle env call).1 := by
  rcases handle_effect s env call with ⟨hs, -⟩ | heff
  · rw [hs]
    exact hp
  · exact effect_primarySound heff (cleanedBy_primarySound hp)

end

/-! ## Runs -/

section

variable {w w' : World} {i : Env × Call} {is : List (Env × Call)}

/-- What a step records is about a live allocation, as the call left it. -/
theorem step_records (hp : AllPrimarySound w.state)
    (hstep : Guarded World.step fittingReasons w i w') :
    ∀ x ∈ w'.state.recorded, x ∈ w.state.recorded ∨ ReasonAgrees x.1 ∧ ∃ id a a',
      w.state.allocations.get id = some a ∧ Evolves i.1 i.2 a a' ∧ FlagCounts a' x.1 := by
  obtain ⟨env, call⟩ := i
  obtain ⟨hok, hstep⟩ := hstep
  cases hstep
  intro x hx
  unfold fittingReasons at hok
  rw [Bool.and_eq_true] at hok
  rcases handle_records (cleanedBy_primarySound hp) hok.2 with hs | hrecords
  · exact .inl (hs ▸ hx)
  · rcases hrecords x hx with hx | ⟨hagrees, id, a, a', ha, hev, hcounts⟩
    · exact .inl hx
    · exact .inr ⟨hagrees, id, a, a', (cleanup_allocations.mp ha).1, hev, hcounts⟩

theorem run_records (h : Run (Guarded World.step fittingReasons) World.init is w) :
    AllPrimarySound w.state ∧ ∀ x ∈ w.state.recorded, ReasonAgrees x.1 := by
  refine h.invariant (P := fun w => AllPrimarySound w.state ∧
    ∀ x ∈ w.state.recorded, ReasonAgrees x.1) ⟨?_, ?_⟩ ?_
  · intro id a ha
    simp [World.init, QualityState.default] at ha
  · intro x hx
    cases hx
  · rintro v i v' ⟨hp, hagrees⟩ hn
    refine ⟨?_, fun x hx => ?_⟩
    · obtain ⟨-, hstep⟩ := hn
      cases hstep
      exact handle_primarySound hp
    · rcases step_records hp hn x hx with hx | ⟨hx, -⟩
      · exact hagrees x hx
      · exact hx

end

/-- In every run in which no request decides without the target's report of its stage, and no
deadline decides with both, every scored decision that is emitted has the reason `partial` exactly
when it is marked as partial; and every one that the next step records is marked so exactly when
fewer than two reports of the stage are stored in the allocation that it decides. -/
theorem partial_reason_agrees {is : List (Env × Call)} {w : World}
    (h : Run (Guarded World.step fittingReasons) World.init is w) :
    (∀ d ∈ w.emitted, ReasonAgrees d) ∧
    ∀ i w', Guarded World.step fittingReasons w i w' → ∀ x ∈ w'.state.recorded,
      x ∈ w.state.recorded ∨ ∃ id a a', w.state.allocations.get id = some a ∧
        Evolves i.1 i.2 a a' ∧ FlagCounts a' x.1 := by
  obtain ⟨hp, hagrees⟩ := run_records h
  refine ⟨fun d hd => ?_, fun i w' hn x hx => ?_⟩
  · have hfresh : Run (Guarded World.step freshDraws) World.init is w := by
      refine h.mono fun u j v hn => ⟨?_, hn.2⟩
      have hok := hn.1
      unfold fittingReasons at hok
      exact (Bool.and_eq_true_iff.mp hok).1
    obtain ⟨x, hx, rfl⟩ := List.mem_map.mp ((run_ledger hfresh).emitted d hd)
    exact hagrees x hx
  · rcases step_records hp hn x hx with hx | ⟨-, hrest⟩
    · exact .inl hx
    · exact .inr hrest

/-- The controller's report alone, through the stage report, gives a partial decision. -/
theorem partial_reason_agrees_reported : ∃ w,
    Run (Guarded World.step fittingReasons) World.init
      [(sampleEnv .eager 1, .createOffer (sampleOffer (sampleTarget 50000))),
       (sampleEnv .eager 2, .handleStageReport (sampleStageReport 1))] w ∧
    (w.emitted.map fun d => (d.fallback, d.reasonCode, d.isPartial)) =
      [(false, 3, true), (false, 3, true)] ∧ ∀ d ∈ w.emitted, ReasonAgrees d := by
  have h : (exec World.step fittingReasons World.init
      [(sampleEnv .eager 1, .createOffer (sampleOffer (sampleTarget 50000))),
       (sampleEnv .eager 2, .handleStageReport (sampleStageReport 1))]).any (fun w =>
      (w.emitted.map fun d => (d.fallback, d.reasonCode, d.isPartial)) =
        [(false, 3, true), (false, 3, true)]) = true := by
    decide
  simp only [Option.any_eq_true, decide_eq_true_eq] at h
  obtain ⟨w, hw, hemitted⟩ := h
  exact ⟨w, .of_exec hw, hemitted, (partial_reason_agrees (.of_exec hw)).1⟩

/-- The same report with the request: the decision is marked as partial, and its reason is that of a
complete one. -/
theorem request_reason_complete : ¬ ∀ (is : List (Env × Call)) (w : World),
    Run (Guarded World.step freshDraws) World.init is w → ∀ d ∈ w.emitted, ReasonAgrees d := by
  intro hall
  have h : (exec World.step freshDraws World.init
      [(sampleEnv .eager 1, .createOffer (sampleOffer (sampleTarget 50000))),
       (sampleEnv .eager 2, .selectForRequest
         (sampleRequest (sampleReport 1 .eager .controller ["a", "b"] 5)))]).any (fun w =>
      (w.emitted.map fun d => (d.fallback, d.reasonCode, d.isPartial)) =
        [(false, 2, true)]) = true := by
    decide
  simp only [Option.any_eq_true, decide_eq_true_eq] at h
  obtain ⟨w, hw, hemitted⟩ := h
  obtain ⟨d, hd, heq⟩ := List.mem_map.mp
    (show ((false, 2, true) : Bool × Nat × Bool) ∈ w.emitted.map _ by
      rw [hemitted]
      exact List.mem_cons_self)
  simp only [Prod.mk.injEq] at heq
  obtain ⟨hscored, hcode, hpart⟩ := heq
  have hagrees := hall _ w (.of_exec hw) d hd hscored (by rw [hcode]; decide)
  rw [hcode, hpart] at hagrees
  exact absurd (hagrees.mpr rfl) (by decide)

end Starry.Quality
