import Starry.Quality.Agreement

/-!
# Relay quality: an allocation only moves forward

The stage goes from primary to expanded at most once and takes its token with it, filled slots
stay, and a slot is filled only by a timely report of the current stage from the endpoint of its
role.
-/

open Library

namespace Starry.Quality

open QualityState

/-! ## Slots -/

theorem StageReports.get_set (r : StageReports) (v : Option ValidatedReport) (stage stage' : Stage)
    (role role' : EndpointRole) :
    (r.set v stage role).get stage' role' =
      if stage' = stage ∧ role' = role then v else r.get stage' role' := by
  cases stage <;> cases role <;> cases stage' <;> cases role' <;> rfl

theorem storeReport_slot (slot : Option ValidatedReport) (v : ValidatedReport) :
    (storeReport slot v).2 = some (slot.getD v) := by
  cases slot with
  | none => rfl
  | some existing => unfold storeReport; dsimp only; split <;> rfl

/-- Storing fills the slot of the current stage if it is empty. -/
theorem store_reports (a : Allocation) (role role' : EndpointRole) (v : ValidatedReport)
    (stage : Stage) :
    (a.store role v).2.reports.get stage role' =
      if stage = a.stage ∧ role' = role then some ((a.reports.get a.stage role).getD v)
      else a.reports.get stage role' := by
  rw [Allocation.store, StageReports.get_set, storeReport_slot]

/-! ## Later states of one allocation -/

/-- `a'` is the allocation `a` at a later time. -/
structure Allocation.Later (a a' : Allocation) : Prop where
  totalDeadline : a'.totalDeadline = a.totalDeadline
  candidates : a'.candidates = a.candidates
  config : a'.config = a.config
  stage : a'.stage = a.stage ∨ a.stage = .primary ∧ a'.stage = .expanded
  token : a'.stageToken = a.stageToken ↔ a'.stage = a.stage
  reports : ∀ stage role v, a.reports.get stage role = some v → a'.reports.get stage role = some v
  pendingUuid : ∀ uuid, a.pendingUuid = some uuid → a'.pendingUuid = some uuid

theorem Allocation.Later.refl (a : Allocation) : a.Later a :=
  ⟨rfl, rfl, rfl, .inl rfl, by simp, fun _ _ _ h => h, fun _ h => h⟩

theorem Allocation.Later.trans {a b c : Allocation} (h : a.Later b) (h' : b.Later c) :
    a.Later c := by
  refine ⟨h'.totalDeadline.trans h.totalDeadline, h'.candidates.trans h.candidates,
    h'.config.trans h.config, ?_, ?_, fun s r v hv => h'.reports s r v (h.reports s r v hv),
    fun u hu => h'.pendingUuid u (h.pendingUuid u hu)⟩
  · rcases h.stage with hb | ⟨ha, hb⟩
    · rcases h'.stage with hc | ⟨hb', hc⟩
      · exact .inl (hc.trans hb)
      · exact .inr ⟨hb.symm.trans hb', hc⟩
    · rcases h'.stage with hc | ⟨hb', -⟩
      · exact .inr ⟨ha, hc.trans hb⟩
      · rw [hb] at hb'; cases hb'
  · -- At most one of the two moves the stage, and that one changes the token.
    by_cases hb : b.stage = a.stage
    · rw [← h.token.mpr hb, ← hb]
      exact h'.token
    · obtain ⟨ha, hb'⟩ := h.stage.resolve_left hb
      have hc : c.stage = b.stage := by
        rcases h'.stage with hc | ⟨hb'', -⟩
        · exact hc
        · rw [hb'] at hb''; cases hb''
      rw [h'.token.mpr hc, hc]
      exact h.token

/-! ## What a call may fill -/

/-- The report of a call, from a source that its handler binds to `role` of `a`. -/
def BoundReport (call : Call) (a : Allocation) (role : EndpointRole) (report : RelayProbeReport) :
    Prop :=
  match call with
  | .responseContext q => q.report = some report ∧ role = .target ∧
      initialResponseSourceMatches a (normalizeSocket q.targetRoute) (normalizeIp q.targetIp)
        q.targetId = true
  | .selectForRequest q => q.report = some report ∧ role = .controller ∧
      sourceMatches a (normalizeSocket q.sourceRoute) (normalizeIp q.sourceIp) .controller = true
  | .handleStageReport q => q.report = report ∧
      sourceMatches a (normalizeSocket q.sourceRoute) (normalizeIp q.sourceIp) role = true
  | _ => False

/-- Every slot that is filled between `a` and `a'` is one of the stage of `a`, and holds a timely
report of that stage, token and role from a bound source. -/
def FilledBy (env : Env) (call : Call) (a a' : Allocation) : Prop :=
  ∀ stage role v, a.reports.get stage role = none → a'.reports.get stage role = some v →
    stage = a.stage ∧ ∃ report, BoundReport call a role report ∧ report.stage = a.stage.wire ∧
      report.stageToken = a.stageToken ∧ report.endpointRole = role.wire ∧
      env.received ≤ a.stageDeadline

theorem validateReportUntil_ok {report : RelayProbeReport} {a : Allocation} {role : EndpointRole}
    {now : Instant} {v : ValidatedReport} (h : validateReportUntil report a role now = .ok v) :
    report.stage = a.stage.wire ∧ report.stageToken = a.stageToken ∧
      report.endpointRole = role.wire ∧ now ≤ a.stageDeadline := by
  unfold validateReportUntil at h
  split at h
  · cases h
  · split at h
    · cases h
    · rename_i h2
      split at h
      · cases h
      · rename_i h3
        simp only [not_or, not_not, not_lt] at h2 h3
        exact ⟨h2.1, h2.2.1, h2.2.2, h3.1⟩

theorem store_filledBy {env : Env} {call : Call} {a b : Allocation} {role : EndpointRole}
    {report : RelayProbeReport} {v : ValidatedReport}
    (hb : b.reports = a.reports ∧ b.stage = a.stage ∧ b.stageToken = a.stageToken ∧
      b.stageDeadline = a.stageDeadline)
    (hbound : BoundReport call a role report)
    (hv : validateReportUntil report b role env.received = .ok v) :
    FilledBy env call a (b.store role v).2 := by
  obtain ⟨hr, hs, ht, hd⟩ := hb
  obtain ⟨h1, h2, h3, h4⟩ := validateReportUntil_ok hv
  intro stage role' x hnone hsome
  rw [store_reports, hr, hs] at hsome
  split at hsome
  · rename_i he
    obtain ⟨rfl, rfl⟩ := he
    exact ⟨rfl, report, hbound, hs ▸ h1, ht ▸ h2, h3, hd ▸ h4⟩
  · rw [hnone] at hsome
    cases hsome

theorem requestBound_spec {env : Env} {q : RelayRequest} {a : Allocation}
    (h : requestBound env q a = true) :
    sourceMatches a (normalizeSocket q.sourceRoute) (normalizeIp q.sourceIp) .controller = true ∧
      ∀ uuid, a.pendingUuid = some uuid → uuid = q.uuid := by
  simp only [requestBound, Bool.and_eq_true, Bool.not_eq_true'] at h
  refine ⟨h.1.1.1.2, fun uuid hu => ?_⟩
  have := h.2
  rw [hu] at this
  simpa using this

theorem Evolves.filledBy {env : Env} {call : Call} {a a' : Allocation} (h : Evolves env call a a') :
    FilledBy env call a a' := by
  cases h with
  | same =>
    intro stage role v hnone hsome
    rw [hnone] at hsome
    cases hsome
  | responded q _ report v hsource hreport hv =>
    exact store_filledBy ⟨rfl, rfl, rfl, rfl⟩ ⟨hreport, rfl, hsource⟩ hv
  | reported q _ role v hsource hv => exact store_filledBy ⟨rfl, rfl, rfl, rfl⟩ ⟨rfl, hsource⟩ hv
  | pinned q _ hbound =>
    intro stage role v hnone hsome
    rw [show (a.pin q.uuid).reports = a.reports from rfl, hnone] at hsome
    cases hsome
  | requested q _ report v hbound hreport hv =>
    exact store_filledBy ⟨rfl, rfl, rfl, rfl⟩ ⟨hreport, rfl, (requestBound_spec hbound).1⟩ hv

theorem store_later {a b : Allocation} (h : a.Later b) (role : EndpointRole) (v : ValidatedReport) :
    a.Later (b.store role v).2 := by
  refine ⟨h.totalDeadline, h.candidates, h.config, h.stage, h.token, fun stage role' x hx => ?_,
    h.pendingUuid⟩
  have hb := h.reports stage role' x hx
  rw [store_reports]
  split
  · rename_i he
    obtain ⟨rfl, rfl⟩ := he
    rw [hb]
    rfl
  · exact hb

theorem pin_later {env : Env} {q : RelayRequest} {a : Allocation}
    (h : requestBound env q a = true) : a.Later (a.pin q.uuid) := by
  refine ⟨rfl, rfl, rfl, .inl rfl, by simp [Allocation.pin], fun _ _ _ h => h, fun uuid hu => ?_⟩
  rw [(requestBound_spec h).2 uuid hu]
  rfl

theorem Evolves.later {env : Env} {call : Call} {a a' : Allocation} (h : Evolves env call a a') :
    a.Later a' := by
  cases h with
  | same => exact .refl a
  | responded q _ report v hsource hreport hv => exact store_later (.refl a) _ v
  | reported q _ role v hsource hv => exact store_later (.refl a) _ v
  | pinned q _ hbound => exact pin_later hbound
  | requested q _ report v hbound hreport hv => exact store_later (pin_later hbound) _ v

theorem transitionToExpanded_later {a b : Allocation} {token : Uuid} (h : a.Later b)
    (hstage : b.stage = .primary) (ha : a.stage = b.stage) (htoken : token.val ≠ a.stageToken) :
    a.Later (transitionToExpanded b token) := by
  refine ⟨h.totalDeadline, h.candidates, h.config, .inr ⟨ha.trans hstage, rfl⟩, ?_, h.reports,
    h.pendingUuid⟩
  rw [ha, hstage]
  exact ⟨fun he => absurd he htoken, by rintro ⟨⟩⟩

/-! ## One call -/

section

variable {issued : List Bytes} {s t : QualityState} {env : Env} {call : Call} {answer : Answer}

/-- An allocation that is live before and after a call has evolved, or it was expanded. -/
theorem effect_evolves (he : Effect env s call answer t) {id : Bytes} {a a' : Allocation}
    (hne : id ≠ env.id.val) (ha : s.allocations.get id = some a)
    (ha' : t.allocations.get id = some a') :
    Evolves env call a a' ∨ ∃ b, Evolves env call a b ∧ b.stage = .primary ∧
      a' = transitionToExpanded b env.token ∧ answer.drawsToken = true := by
  have hsame : t.allocations.get id = s.allocations.get id → Evolves env call a a' := by
    intro h
    rw [h, ha] at ha'
    cases ha'
    exact .same call a
  cases he with
  | same => exact .inl (hsame rfl)
  | offered q o config views hconfig hviews =>
    rcases addAllocation_get ha' with ⟨rfl, -⟩ | ⟨-, h⟩
    · exact absurd rfl hne
    · exact .inl (hsame (ha'.trans h.symm))
  | put id' x x' hx hev =>
    rw [putBack_get] at ha'
    split at ha'
    · rename_i hid
      subst hid
      rw [ha] at hx
      cases hx
      cases ha'
      exact .inl hev
    · rename_i hid
      exact .inl (hsame (by rw [putBack_get, if_neg hid]))
  | expanded q d id' x x' hx hev hstage =>
    rw [putBack_get] at ha'
    split at ha'
    · rename_i hid
      subst hid
      rw [ha] at hx
      cases hx
      exact .inr ⟨x', hev, hstage, (Option.some.inj ha').symm, rfl⟩
    · rename_i hid
      exact .inl (hsame (by rw [putBack_get, if_neg hid]))
  | finalized id' x x' d hx hev hd =>
    rw [finalizeWith_get] at ha'
    split at ha'
    · cases ha'
    · rename_i hid
      exact .inl (hsame (by rw [finalizeWith_get, if_neg hid]))
  | cancelled q d x role hx =>
    rw [removeAllocation_get] at ha'
    split at ha'
    · cases ha'
    · rename_i hid
      exact .inl (hsame (by rw [removeAllocation_get, if_neg hid]))
  | swept ds =>
    have h := sweeps_get (foldl_finalizeOne_sweeps env _ s []) ha'
    exact .inl (hsame (ha'.trans h.symm))

end

/-! ## Runs -/

/-- What holds of every live allocation: its token was drawn, and its stage ends in time. -/
def StageInv (w : World) : Prop :=
  ∀ id a, w.state.allocations.get id = some a →
    a.stageToken ∈ w.tokens ∧ a.stageDeadline ≤ a.totalDeadline

theorem offeredAllocation_deadline (env : Env) (config : RelayQualityConfig) (q : OfferRequest)
    (views : List Observer.RelayRuntimeView) :
    (offeredAllocation env config q views).stageDeadline ≤
      (offeredAllocation env config q views).totalDeadline := by
  unfold offeredAllocation
  cases config.strategy with
  | adaptive =>
    exact Nat.add_le_add_left (Nat.mul_le_mul_right _ (Nat.min_le_right _ _)) _
  | eager => exact le_rfl

section

variable {w w' : World} {i : Env × Call} {id : Bytes} {a a' : Allocation}

/-- One step on an allocation that is live before and after it: the call has changed it or expanded
it, or has refused to look. -/
theorem step_evolves (hl : Ledger w) (hfresh : freshDraws w i = true) (hstep : w.step i = some w')
    (ha : w.state.allocations.get id = some a) (ha' : w'.state.allocations.get id = some a') :
    Evolves i.1 i.2 a a' ∨ ∃ b, Evolves i.1 i.2 a b ∧ b.stage = .primary ∧
      a' = transitionToExpanded b i.1.token ∧ (w.state.handle i.1 i.2).2.drawsToken = true := by
  obtain ⟨env, call⟩ := i
  rw [freshDraws_iff] at hfresh
  have hne : id ≠ env.id.val := fun he => hfresh.1 (he ▸ (hl.sound.live id a ha).1)
  cases hstep
  rcases handle_effect w.state env call with ⟨hs, -⟩ | heff
  · simp only [hs, ha] at ha'
    cases ha'
    exact .inl (.same call a)
  · -- The cleanup does not change an allocation, it only drops expired ones.
    have hclean : (w.state.cleanedBy env).allocations.get id = some a := by
      rcases effect_live heff ha' with ⟨x, hx⟩ | ⟨-, he⟩
      · have := (cleanup_allocations.mp hx).1
        rw [ha] at this
        cases this
        exact hx
      · exact absurd he hne
    exact effect_evolves heff hne hclean ha'

/-- One call on an allocation that is live before and after it. -/
theorem step_allocation (hl : Ledger w) (hi : StageInv w) (hfresh : freshDraws w i = true)
    (hstep : w.step i = some w') (ha : w.state.allocations.get id = some a)
    (ha' : w'.state.allocations.get id = some a') :
    a.Later a' ∧ FilledBy i.1 i.2 a a' ∧ a'.stageToken ∈ w'.tokens ∧
      a'.stageDeadline ≤ a'.totalDeadline := by
  obtain ⟨htok, hdead⟩ := hi id a ha
  have hevolves := step_evolves hl hfresh hstep ha ha'
  obtain ⟨env, call⟩ := i
  rw [freshDraws_iff] at hfresh
  cases hstep
  have hkept : a.stageToken ∈ (if (w.state.handle env call).2.drawsToken
      then env.token.val :: w.tokens else w.tokens) := by
    split
    · exact List.mem_cons_of_mem _ htok
    · exact htok
  rcases hevolves with hev | ⟨b, hev, hstage, rfl, hdraw⟩
  · obtain ⟨r, u, he⟩ := hev.eq
    refine ⟨hev.later, hev.filledBy, ?_, ?_⟩
    · rw [show a'.stageToken = a.stageToken by rw [he]]
      exact hkept
    · rw [he]
      exact hdead
  · obtain ⟨r, u, he⟩ := hev.eq
    have hst : a.stage = b.stage := by rw [he]
    refine ⟨transitionToExpanded_later hev.later hstage hst
      fun he' => hfresh.2 (he' ▸ htok), hev.filledBy, ?_, le_rfl⟩
    simp only [hdraw, if_true]
    exact List.mem_cons_self

theorem step_stageInv (hl : Ledger w) (hi : StageInv w) (hfresh : freshDraws w i = true)
    (hstep : w.step i = some w') : StageInv w' := by
  intro id a' ha'
  cases ha : w.state.allocations.get id with
  | some a => exact (step_allocation hl hi hfresh hstep ha ha').2.2
  | none =>
    -- Only an offer makes an id live.
    obtain ⟨env, call⟩ := i
    cases hstep
    have hdead : ∀ x, (w.state.cleanedBy env).allocations.get id ≠ some x := by
      intro x hx
      rw [(cleanup_allocations.mp hx).1] at ha
      cases ha
    rcases handle_effect w.state env call with ⟨hs, -⟩ | heff
    · simp only [hs, ha] at ha'
      cases ha'
    · dsimp only at ha' ⊢
      generalize hans : (w.state.handle env call).2 = answer at heff
      generalize (w.state.handle env call).1 = t at heff ha'
      cases heff with
      | offered q o config views hconfig hviews =>
        rcases addAllocation_get ha' with ⟨-, rfl⟩ | ⟨-, h⟩
        · exact ⟨List.mem_cons_self, offeredAllocation_deadline ..⟩
        · exact absurd h (hdead a')
      | same => exact absurd ha' (hdead a')
      | put id' x x' hx hev =>
        rw [putBack_get] at ha'
        split at ha'
        · rename_i hid; exact absurd (hid ▸ hx) (hdead x)
        · exact absurd ha' (hdead a')
      | expanded q d id' x x' hx hev =>
        rw [putBack_get] at ha'
        split at ha'
        · rename_i hid; exact absurd (hid ▸ hx) (hdead x)
        · exact absurd ha' (hdead a')
      | finalized id' x x' d hx hev hd =>
        rw [finalizeWith_get] at ha'
        split at ha'
        · cases ha'
        · exact absurd ha' (hdead a')
      | cancelled q d x role hx =>
        rw [removeAllocation_get] at ha'
        split at ha'
        · cases ha'
        · exact absurd ha' (hdead a')
      | swept ds => exact absurd (sweeps_get (foldl_finalizeOne_sweeps env _ _ []) ha') (hdead a')

theorem run_stageInv {is : List (Env × Call)}
    (h : Run (Guarded World.step freshDraws) World.init is w) : Ledger w ∧ StageInv w := by
  refine h.invariant (P := fun w => Ledger w ∧ StageInv w) ⟨init_ledger, ?_⟩ ?_
  · intro id a h
    simp [World.init, QualityState.default] at h
  · rintro w i w' ⟨hl, hi⟩ ⟨hfresh, hstep⟩
    exact ⟨step_ledger hl hfresh hstep, step_stageInv hl hi hfresh hstep⟩

/-- An id that was drawn and is not live any more never becomes live again. -/
theorem step_live (hfresh : freshDraws w i = true) (hstep : w.step i = some w')
    (hid : id ∈ w.issued) (ha' : w'.state.allocations.get id = some a') :
    ∃ a, w.state.allocations.get id = some a := by
  obtain ⟨env, call⟩ := i
  rw [freshDraws_iff] at hfresh
  cases hstep
  rcases handle_effect w.state env call with ⟨hs, -⟩ | heff
  · simp only [hs] at ha'
    exact ⟨a', ha'⟩
  · rcases effect_live heff ha' with ⟨a, ha⟩ | ⟨-, rfl⟩
    · exact ⟨a, (cleanup_allocations.mp ha).1⟩
    · exact absurd hid hfresh.1

end

/-- What every step keeps between two states of an allocation, a run keeps. -/
theorem run_relates {R : Allocation → Allocation → Prop} (hrefl : ∀ a, R a a)
    (htrans : ∀ a b c, R a b → R b c → R a c)
    (hsteps : ∀ v i v' id x x', Ledger v → StageInv v → freshDraws v i = true →
      v.step i = some v' → v.state.allocations.get id = some x →
      v'.state.allocations.get id = some x' → R x x')
    {is' : List (Env × Call)} {w w' : World} (hl : Ledger w) (hi : StageInv w)
    (h' : Run (Guarded World.step freshDraws) w is' w') {id : Bytes} {a a' : Allocation}
    (ha : w.state.allocations.get id = some a) (ha' : w'.state.allocations.get id = some a') :
    R a a' := by
  have hrun : (Ledger w' ∧ StageInv w') ∧ id ∈ w'.issued ∧
      ∀ x, w'.state.allocations.get id = some x → R a x := by
    refine h'.invariant (P := fun v => (Ledger v ∧ StageInv v) ∧ id ∈ v.issued ∧
      ∀ x, v.state.allocations.get id = some x → R a x)
      ⟨⟨hl, hi⟩, (hl.sound.live id a ha).1, ?_⟩ ?_
    · intro x hx
      rw [ha] at hx
      cases hx
      exact hrefl a
    · rintro v i v' ⟨⟨hlv, hiv⟩, hid, hlater⟩ ⟨hfresh, hstep⟩
      refine ⟨⟨step_ledger hlv hfresh hstep, step_stageInv hlv hiv hfresh hstep⟩, ?_, ?_⟩
      · cases hstep
        dsimp only
        split
        · exact List.mem_cons_of_mem _ hid
        · exact hid
      · intro x' hx'
        obtain ⟨x, hx⟩ := step_live hfresh hstep hid hx'
        exact htrans _ _ _ (hlater x hx) (hsteps v i v' id x x' hlv hiv hfresh hstep hx hx')
  exact hrun.2.2 a' ha'

/-- Between any two states of a run in which an allocation is live it has only moved forward, its
stage ends by its total deadline, and the next call fills its slots only with timely reports from
the endpoint of that role. -/
theorem staged_allocation_monotone {is is' : List (Env × Call)} {w w' : World}
    (h : Run (Guarded World.step freshDraws) World.init is w)
    (h' : Run (Guarded World.step freshDraws) w is' w') {id : Bytes} {a a' : Allocation}
    (ha : w.state.allocations.get id = some a) (ha' : w'.state.allocations.get id = some a') :
    a.Later a' ∧ a'.stageDeadline ≤ a'.totalDeadline ∧
    ∀ i w'' a'', Guarded World.step freshDraws w' i w'' →
      w''.state.allocations.get id = some a'' → FilledBy i.1 i.2 a' a'' := by
  obtain ⟨hl, hi⟩ := run_stageInv h
  obtain ⟨hl', hi'⟩ := run_stageInv (h.append h')
  have hlater : a.Later a' := run_relates .refl (fun _ _ _ => .trans)
    (fun _ _ _ _ _ _ hl hi hfresh hstep hx hx' => (step_allocation hl hi hfresh hstep hx hx').1)
    hl hi h' ha ha'
  refine ⟨hlater, (hi' id a' ha').2, ?_⟩
  rintro i w'' a'' ⟨hfresh, hstep⟩ ha''
  exact (step_allocation hl' hi' hfresh hstep ha' ha'').2.1

/-- The lossy request moves the sample allocation to its expanded stage. -/
theorem staged_allocation_monotone_expanded : ∃ w w' a a',
    Run (Guarded World.step freshDraws) World.init
      [(sampleEnv .adaptive 1, .createOffer (sampleOffer (sampleTarget 50000)))] w ∧
    Run (Guarded World.step freshDraws) w
      [(sampleEnv .adaptive 2, .selectForRequest (sampleRequest (sampleLossyReport .primary)))] w' ∧
    w.state.allocations.get (sampleUuid 1).val = some a ∧
    w'.state.allocations.get (sampleUuid 1).val = some a' ∧
    a.stage = .primary ∧ a'.stage = .expanded ∧ a.Later a' := by
  have h : (exec World.step freshDraws World.init
      [(sampleEnv .adaptive 1, .createOffer (sampleOffer (sampleTarget 50000)))]).any (fun w =>
      (exec World.step freshDraws w
        [(sampleEnv .adaptive 2,
          .selectForRequest (sampleRequest (sampleLossyReport .primary)))]).any fun w' =>
      (w.state.allocations.get (sampleUuid 1).val).any fun a =>
      (w'.state.allocations.get (sampleUuid 1).val).any fun a' =>
        decide (a.stage = .primary) && decide (a'.stage = .expanded)) = true := by
    decide
  simp only [Option.any_eq_true, Bool.and_eq_true, decide_eq_true_eq] at h
  obtain ⟨w, hw, w', hw', a, ha, a', ha', hs, hs'⟩ := h
  exact ⟨w, w', a, a', .of_exec hw, .of_exec hw', ha, ha', hs, hs',
    (staged_allocation_monotone (.of_exec hw) (.of_exec hw') ha ha').1⟩

end Starry.Quality
