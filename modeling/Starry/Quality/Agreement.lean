import Starry.Quality.Tables

/-!
# Relay quality: one decision for each allocation

A decision is copied into three tables that are evicted and expired independently. The invariant
is kept against the history instead: an id is recorded at most once, a live id is not recorded
yet, and every decision in a table is a recorded one.
-/

open Library

namespace Starry.Quality

open QualityState

/-! ## The invariant -/

def QualityState.recordedIds (s : QualityState) : List Bytes := s.recorded.map (·.1.allocationId)

/-- A decision that some table still holds. -/
def Known (s : QualityState) (d : RelayQualityDecision) : Prop :=
  (∃ k r, s.requestDecisions.get k = some r ∧ r.decision = d) ∨
  (∃ k r, s.decisions.get k = some r ∧ r.decision = d) ∨
  ∃ id f, s.finalizedAllocations.get id = some f ∧ f.decision = d

structure Sound (issued : List Bytes) (s : QualityState) : Prop where
  own : ∀ id a, s.allocations.get id = some a → a.allocationId = id
  live : ∀ id a, s.allocations.get id = some a → id ∈ issued ∧ id ∉ s.recordedIds
  known : ∀ d, Known s d → d ∈ s.recorded.map Prod.fst
  finalOwn : ∀ id f, s.finalizedAllocations.get id = some f → f.decision.allocationId = id
  nodup : s.recordedIds.Nodup
  issued : ∀ id ∈ s.recordedIds, id ∈ issued

/-- Two recorded decisions of one allocation are one. -/
theorem Sound.unique {issued : List Bytes} {s : QualityState} (h : Sound issued s)
    {d d' : RelayQualityDecision} (hd : d ∈ s.recorded.map Prod.fst)
    (hd' : d' ∈ s.recorded.map Prod.fst) (he : d.allocationId = d'.allocationId) : d = d' := by
  obtain ⟨r, hr, rfl⟩ := List.mem_map.mp hd
  obtain ⟨r', hr', rfl⟩ := List.mem_map.mp hd'
  rw [List.inj_on_of_nodup_map h.nodup hr hr' he]

section

variable {issued : List Bytes} {s t : QualityState} {env : Env}

theorem cleanup_sound (h : Sound issued s) (config : RelayQualityConfig) (now : Instant) :
    Sound issued (s.cleanup config now) := by
  refine ⟨fun id a ha => h.own id a (cleanup_allocations.mp ha).1,
    fun id a ha => h.live id a (cleanup_allocations.mp ha).1, fun d hd => h.known d ?_,
    fun id f hf => h.finalOwn id f (cleanup_finalized.mp hf).1, h.nodup, h.issued⟩
  rcases hd with ⟨k, r, hr, he⟩ | ⟨k, r, hr, he⟩ | ⟨id, f, hf, he⟩
  · exact .inl ⟨k, r, (cleanup_requestDecisions.mp hr).1, he⟩
  · exact .inr (.inl ⟨k, r, (cleanup_decisions.mp hr).1, he⟩)
  · exact .inr (.inr ⟨id, f, (cleanup_finalized.mp hf).1, he⟩)

/-- What only the table of allocations and the routes can break. -/
theorem Sound.of_allocations {issued' : List Bytes} (h : Sound issued s)
    (hsub : ∀ id ∈ issued, id ∈ issued')
    (hown : ∀ id a, t.allocations.get id = some a →
      a.allocationId = id ∧ id ∈ issued' ∧ id ∉ s.recordedIds)
    (heq : ∃ allocations routes, t = { s with allocations := allocations, routes := routes }) :
    Sound issued' t := by
  obtain ⟨al, ro, rfl⟩ := heq
  exact ⟨fun id a ha => (hown id a ha).1, fun id a ha => (hown id a ha).2, h.known, h.finalOwn,
    h.nodup, fun id hid => hsub id (h.issued id hid)⟩

theorem putBack_sound (h : Sound issued s) {id : Bytes} {a a' : Allocation}
    (ha : s.allocations.get id = some a) (hid : a'.allocationId = a.allocationId) :
    Sound issued (s.putBack id a') := by
  refine h.of_allocations (fun _ h => h) ?_ ⟨_, _, rfl⟩
  intro id' x hx
  rw [putBack_get] at hx
  split at hx
  · rename_i he
    subst he
    cases hx
    exact ⟨hid.trans (h.own _ a ha), h.live _ a ha⟩
  · exact ⟨h.own id' x hx, h.live id' x hx⟩

theorem removeAllocation_sound (h : Sound issued s) (id : Bytes) :
    Sound issued (s.removeAllocation id) := by
  refine h.of_allocations (fun _ h => h) ?_ ⟨_, _, rfl⟩
  intro id' x hx
  rw [removeAllocation_get] at hx
  split at hx
  · cases hx
  · exact ⟨h.own id' x hx, h.live id' x hx⟩

theorem addAllocation_sound (h : Sound issued s) (config : RelayQualityConfig) (a : Allocation)
    (hfresh : a.allocationId ∉ issued) :
    Sound (a.allocationId :: issued) (s.addAllocation env config a) := by
  refine h.of_allocations (fun _ h => List.mem_cons_of_mem _ h) ?_ (addAllocation_eq s env config a)
  intro id x hx
  rcases addAllocation_get hx with ⟨rfl, rfl⟩ | ⟨_, hx⟩
  · exact ⟨rfl, List.mem_cons_self, fun hrec => hfresh (h.issued _ hrec)⟩
  · exact ⟨h.own id x hx, List.mem_cons_of_mem _ (h.live id x hx).1, (h.live id x hx).2⟩

theorem finalizeWith_sound (h : Sound issued s) {id : Bytes} {a a' : Allocation}
    (ha : s.allocations.get id = some a) (hid : a'.allocationId = a.allocationId)
    (d : RelayQualityDecision × Option (CacheKey × String))
    (hd : d.1.allocationId = a'.allocationId) : Sound issued (s.finalizeWith env id a' d) := by
  have hspec := finalizeWith_spec s env id a' d
  have hown : a.allocationId = id := h.own id a ha
  have hdid : d.1.allocationId = id := by rw [hd, hid, hown]
  have hids : (s.finalizeWith env id a' d).recordedIds = id :: s.recordedIds := by
    rw [recordedIds, hspec.recorded, List.map_cons, hdid]
    rfl
  have hold : ∀ x, x ∈ s.recorded.map Prod.fst →
      x ∈ (s.finalizeWith env id a' d).recorded.map Prod.fst := by
    intro x hx
    rw [hspec.recorded, List.map_cons]
    exact List.mem_cons_of_mem _ hx
  have hnew : d.1 ∈ (s.finalizeWith env id a' d).recorded.map Prod.fst := by
    rw [hspec.recorded, List.map_cons]
    exact List.mem_cons_self
  have hlive : ∀ id' x, (s.finalizeWith env id a' d).allocations.get id' = some x →
      id' ≠ id ∧ s.allocations.get id' = some x := by
    intro id' x hx
    rw [finalizeWith_get] at hx
    split at hx
    · cases hx
    · exact ⟨‹_›, hx⟩
  refine ⟨fun id' x hx => h.own id' x (hlive id' x hx).2, fun id' x hx => ?_, fun x hx => ?_,
    fun id' f hf => ?_, ?_, fun id' hid' => ?_⟩
  · obtain ⟨hne, hx⟩ := hlive id' x hx
    obtain ⟨h1, h2⟩ := h.live id' x hx
    rw [hids, List.mem_cons]
    exact ⟨h1, fun hor => hor.elim hne h2⟩
  · rcases hx with ⟨k, r, hr, rfl⟩ | ⟨k, r, hr, rfl⟩ | ⟨id', f, hf, rfl⟩
    · rcases hspec.requestDecisions k r hr with hr | he
      · exact hold _ (h.known _ (.inl ⟨k, r, hr, rfl⟩))
      · rw [he]; exact hnew
    · rcases hspec.decisions k r hr with hr | he
      · exact hold _ (h.known _ (.inr (.inl ⟨k, r, hr, rfl⟩)))
      · rw [he]; exact hnew
    · by_cases hne : id' = a'.allocationId
      · rw [hne, hspec.finalizedSelf] at hf
        rw [← Option.some.inj hf]
        exact hnew
      · exact hold _ (h.known _ (.inr (.inr ⟨id', f, hspec.finalized id' f hf hne, rfl⟩)))
  · by_cases hne : id' = a'.allocationId
    · rw [hne, hspec.finalizedSelf] at hf
      rw [← Option.some.inj hf, hne]
      exact hd
    · exact h.finalOwn id' f (hspec.finalized id' f hf hne)
  · rw [hids]
    exact List.nodup_cons.mpr ⟨(h.live id a ha).2, h.nodup⟩
  · rw [hids, List.mem_cons] at hid'
    rcases hid' with rfl | hid'
    · exact (h.live _ a ha).1
    · exact h.issued id' hid'

theorem sweeps_sound (hs : Sweeps env s t) (h : Sound issued s) : Sound issued t := by
  induction hs with
  | refl s => exact h
  | step id a ha _ ih => exact ih (finalizeWith_sound h ha rfl _ (lateDecision_id ..))

theorem effect_sound {call : Call} {answer : Answer} (he : Effect env s call answer t)
    (h : Sound issued s) (hfresh : env.id.val ∉ issued) :
    Sound (if answer.drawsId then env.id.val :: issued else issued) t := by
  cases he with
  | same hp => rw [hp.id]; exact h
  | offered q o config views hconfig hviews =>
    exact addAllocation_sound h config (offeredAllocation env config q views) hfresh
  | put id a a' ha hev hp => rw [hp.id]; exact putBack_sound h ha hev.allocationId
  | expanded q d id a a' ha hev hstage => exact putBack_sound h ha hev.allocationId
  | finalized id a a' d ha hev hd hp =>
    rw [hp.id]
    exact finalizeWith_sound h ha hev.allocationId d hd
  | cancelled q d a role ha => exact removeAllocation_sound h _
  | swept ds => exact sweeps_sound (foldl_finalizeOne_sweeps env _ s []) h

/-! ## What becomes live, and what is recorded -/

theorem sweeps_get (hs : Sweeps env s t) {id : Bytes} {a : Allocation}
    (ht : t.allocations.get id = some a) : s.allocations.get id = some a := by
  induction hs with
  | refl s => exact ht
  | step id' a' ha _ ih =>
    have := ih ht
    rw [finalizeWith_get] at this
    split at this
    · cases this
    · exact this

theorem effect_live {call : Call} {answer : Answer} (he : Effect env s call answer t) {id : Bytes}
    {a' : Allocation} (ht : t.allocations.get id = some a') :
    (∃ a, s.allocations.get id = some a) ∨ answer.drawsId = true ∧ id = env.id.val := by
  cases he with
  | same => exact .inl ⟨a', ht⟩
  | offered q o config views hconfig hviews =>
    rcases addAllocation_get ht with ⟨rfl, _⟩ | ⟨_, ht⟩
    · exact .inr ⟨rfl, rfl⟩
    · exact .inl ⟨a', ht⟩
  | put id' a x ha hev =>
    rw [putBack_get] at ht
    split at ht
    · rename_i hid; exact .inl ⟨a, hid ▸ ha⟩
    · exact .inl ⟨a', ht⟩
  | expanded q d id' a x ha hev =>
    rw [putBack_get] at ht
    split at ht
    · rename_i hid; exact .inl ⟨a, hid ▸ ha⟩
    · exact .inl ⟨a', ht⟩
  | finalized id' a x d ha hev hd =>
    rw [finalizeWith_get] at ht
    split at ht
    · cases ht
    · exact .inl ⟨a', ht⟩
  | cancelled q d a role ha =>
    rw [removeAllocation_get] at ht
    split at ht
    · cases ht
    · exact .inl ⟨a', ht⟩
  | swept ds => exact .inl ⟨a', sweeps_get (foldl_finalizeOne_sweeps env _ s []) ht⟩

/-- The history grows, and only by ids that were live. -/
structure Extends (s t : QualityState) : Prop where
  kept : ∀ r ∈ s.recorded, r ∈ t.recorded
  ids : ∀ id ∈ t.recordedIds, id ∈ s.recordedIds ∨ ∃ a, s.allocations.get id = some a

theorem Extends.of_recorded (h : t.recorded = s.recorded) : Extends s t :=
  ⟨fun r hr => h ▸ hr, fun id hid => .inl (by rw [recordedIds, h] at hid; exact hid)⟩

theorem finalizeWith_extends (env : Env) (h : Sound issued s) {id : Bytes} {a a' : Allocation}
    (ha : s.allocations.get id = some a) (hid : a'.allocationId = a.allocationId)
    (d : RelayQualityDecision × Option (CacheKey × String))
    (hd : d.1.allocationId = a'.allocationId) : Extends s (s.finalizeWith env id a' d) := by
  have hrec := (finalizeWith_spec s env id a' d).recorded
  refine ⟨fun r hr => by rw [hrec]; exact List.mem_cons_of_mem _ hr, fun id' hid' => ?_⟩
  rw [recordedIds, hrec, List.map_cons, List.mem_cons] at hid'
  rcases hid' with rfl | hid'
  · right
    have : d.1.allocationId = id := by rw [hd, hid, h.own id a ha]
    exact ⟨a, this ▸ ha⟩
  · exact .inl hid'

theorem sweeps_extends (hs : Sweeps env s t) (h : Sound issued s) : Extends s t := by
  induction hs with
  | refl s => exact .of_recorded rfl
  | @step s t id a ha _ ih =>
    have h1 := finalizeWith_extends env h ha rfl _ (lateDecision_id (s.take id) env a)
    have h2 := ih (finalizeWith_sound h ha rfl _ (lateDecision_id ..))
    refine ⟨fun r hr => h2.kept r (h1.kept r hr), fun id' hid' => ?_⟩
    rcases h2.ids id' hid' with hid' | ⟨x, hx⟩
    · exact h1.ids id' hid'
    · rw [finalizeWith_get] at hx
      split at hx
      · cases hx
      · exact .inr ⟨x, hx⟩

theorem effect_extends {call : Call} {answer : Answer} (he : Effect env s call answer t)
    (h : Sound issued s) : Extends s t := by
  cases he with
  | same => exact .of_recorded rfl
  | offered q o config views =>
    obtain ⟨al, ro, heq⟩ := addAllocation_eq s env config (offeredAllocation env config q views)
    exact .of_recorded (by rw [heq])
  | put | expanded | cancelled => exact .of_recorded rfl
  | finalized id a a' d ha hev hd => exact finalizeWith_extends env h ha hev.allocationId d hd
  | swept ds => exact sweeps_extends (foldl_finalizeOne_sweeps env _ s []) h

end

/-! ## What is emitted -/

section

variable {s : QualityState} {env : Env}

theorem selectFinal_emits (s : QualityState) (env : Env) (a : Allocation)
    (d : RelayQualityDecision × Option (CacheKey × String)) :
    ∀ x ∈ (Answer.request (s.selectFinal env a d).2).decisions,
      x ∈ (s.selectFinal env a d).1.recorded.map Prod.fst := by
  intro x hx
  simp only [selectFinal, Answer.decisions, List.mem_singleton] at hx ⊢
  rw [(recordFinalDecision_spec s env a d.1 d.2).recorded, hx]
  exact List.mem_cons_self

theorem finalized_decisions (f : FinalizedAllocation) {x : RelayQualityDecision}
    (hx : x ∈ (finalizedDecisionDispatch f).decisions) : x = f.decision := by
  simpa [finalizedDecisionDispatch, StageDispatch.decisions] using hx

theorem reportFinal_emits (s : QualityState) (env : Env) (id : Bytes) (a : Allocation)
    (d : RelayQualityDecision × Option (CacheKey × String)) (hd : d.1.allocationId = a.allocationId) :
    ∀ x ∈ (Answer.report ((s.take id).reportFinal env a d).2).decisions,
      x ∈ ((s.take id).reportFinal env a d).1.recorded.map Prod.fst := by
  intro x hx
  simp only [reportFinal, dispatchFinal_decisions s env id a d hd, Answer.decisions] at hx
  rw [finalized_decisions _ hx]
  simp only [reportFinal, dispatchFinal]
  rw [(recordFinalDecision_spec (s.take id) env a d.1 d.2).recorded]
  exact List.mem_cons_self

theorem advanceRequest_emits (s : QualityState) (env : Env) (id : Bytes) (a : Allocation) :
    ∀ x ∈ (Answer.request (s.advanceRequest env id a).2).decisions,
      x ∈ (s.advanceRequest env id a).1.recorded.map Prod.fst := by
  unfold advanceRequest
  split
  · split
    · exact selectFinal_emits _ _ _ _
    · intro x hx
      simp [Answer.decisions, offerDispatch, StageDispatch.decisions] at hx
  · exact selectFinal_emits _ _ _ _
  · split
    · exact selectFinal_emits _ _ _ _
    · intro x hx
      simp [Answer.decisions] at hx

theorem bindRequest_emits (s : QualityState) (env : Env) (q : RelayRequest) :
    ∀ x ∈ (Answer.request (s.bindRequest env q).2).decisions,
      x ∈ (s.bindRequest env q).1.recorded.map Prod.fst := by
  have hnone : ∀ (t : QualityState) (r : RequestResolution), r = .legacy ∨ r = .blocked →
      ∀ x ∈ (Answer.request r).decisions, x ∈ t.recorded.map Prod.fst := by
    rintro t r (rfl | rfl) x hx <;> cases hx
  unfold bindRequest
  split
  · split <;> exact hnone _ _ (by simp)
  · dsimp only
    split
    · exact hnone _ _ (by simp)
    · split
      · exact hnone _ _ (by simp)
      · split
        · exact hnone _ _ (by simp)
        · unfold resolveRequest
          split
          · exact selectFinal_emits _ _ _ _
          · exact hnone _ _ (by simp)
          · exact selectFinal_emits _ _ _ _
          · dsimp only
            split
            · exact hnone _ _ (by simp)
            · exact advanceRequest_emits _ _ _ _

theorem resolveReport_emits (s : QualityState) (env : Env) (id : Bytes) (a : Allocation)
    (report : RelayProbeReport) (role : EndpointRole) :
    ∀ x ∈ (Answer.report ((s.take id).resolveReport env id a report role).2).decisions,
      x ∈ ((s.take id).resolveReport env id a report role).1.recorded.map Prod.fst := by
  have hnone : ∀ (t : QualityState) (r : StageReportResolution), r = .rejected ∨ r = .pending →
      ∀ x ∈ (Answer.report r).decisions, x ∈ t.recorded.map Prod.fst := by
    rintro t r (rfl | rfl) x hx <;> cases hx
  unfold resolveReport
  split
  · exact hnone _ _ (by simp)
  · exact hnone _ _ (by simp)
  · exact reportFinal_emits _ _ _ _ _ (lateDecision_id ..)
  · dsimp only
    split
    · exact hnone _ _ (by simp)
    · unfold advanceReport
      split
      · exact hnone _ _ (by simp)
      · exact reportFinal_emits _ _ _ _ _ (scoreTerminalAllocation_id ..)

theorem sweeps_recorded {t : QualityState} (hs : Sweeps env s t) :
    ∀ r ∈ s.recorded, r ∈ t.recorded := by
  induction hs with
  | refl => exact fun r hr => hr
  | step id a _ _ ih =>
    intro r hr
    refine ih r ?_
    rw [(finalizeWith_spec _ env id a _).recorded]
    exact List.mem_cons_of_mem _ hr

theorem foldl_finalizeOne_emits (env : Env) (ids : List Bytes) (s : QualityState)
    (ds : List StageDispatch) :
    ∀ x ∈ (ids.foldl (finalizeOne env) (s, ds)).2.flatMap StageDispatch.decisions,
      x ∈ ds.flatMap StageDispatch.decisions ∨
        x ∈ (ids.foldl (finalizeOne env) (s, ds)).1.recorded.map Prod.fst := by
  induction ids generalizing s ds with
  | nil => exact fun x hx => .inl hx
  | cons id ids ih =>
    intro x
    rw [List.foldl_cons]
    cases ha : s.allocations.get id with
    | none =>
      rw [show finalizeOne env (s, ds) id = (s, ds) by simp only [finalizeOne, ha]]
      exact ih s ds x
    | some a =>
      rw [finalizeOne_eq ds ha]
      intro hx
      rcases ih _ _ x hx with hx | hx
      · rw [List.flatMap_append, List.mem_append] at hx
        rcases hx with hx | hx
        · exact .inl hx
        · right
          rw [List.flatMap_singleton] at hx
          rw [finalized_decisions _ hx]
          -- Recorded by this turn, and still so after the rest of the loop.
          have hself := (finalizeWith_spec s env id a ((s.take id).lateDecision env a)).recorded
          refine List.mem_map.mpr ⟨(_, a.pendingUuid),
            sweeps_recorded (foldl_finalizeOne_sweeps env ids _ _) _ ?_, rfl⟩
          rw [hself]
          exact List.mem_cons_self
      · exact .inr hx

/-- Every decision of an answer is in a table of `s`, or is recorded by the call itself. -/
def Emits (s : QualityState) (result : QualityState × Answer) : Prop :=
  ∀ x ∈ result.2.decisions, Known s x ∨ x ∈ result.1.recorded.map Prod.fst

theorem Emits.nothing {t : QualityState} {answer : Answer} (h : answer.decisions = []) :
    Emits s (t, answer) := by
  intro x hx
  rw [h] at hx
  cases hx

theorem selectForRequest_emits (s : QualityState) (env : Env) (q : RelayRequest) :
    Emits (s.cleanedBy env) ((s.selectForRequest env q).map id .request) := by
  unfold selectForRequest
  split
  · exact .nothing rfl
  · rename_i config hconfig
    rw [cleanedBy_eq hconfig]
    split
    · exact .nothing rfl
    · dsimp only
      split
      · rename_i record hrec
        split
        · intro x hx
          simp only [Prod.map_snd, Answer.decisions, List.mem_singleton] at hx
          split at hrec
          · cases hrec
          · exact .inl (.inl ⟨_, record, hrec, hx.symm⟩)
        · exact .nothing rfl
      · exact fun x hx => .inr (bindRequest_emits _ env q x hx)

theorem handleStageReport_emits (s : QualityState) (env : Env) (q : StageReportRequest) :
    Emits (s.cleanedBy env) ((s.handleStageReport env q).map id .report) := by
  unfold handleStageReport
  split
  · exact .nothing rfl
  · rename_i config hconfig
    rw [cleanedBy_eq hconfig]
    split
    · exact .nothing rfl
    · split
      · exact .nothing rfl
      · dsimp only
        split
        · rename_i f hf
          split
          · exact fun x hx => .inl (.inr (.inr ⟨_, f, hf, (finalized_decisions f hx).symm⟩))
          · exact .nothing rfl
        · split
          · exact .nothing rfl
          · split
            · exact .nothing rfl
            · exact fun x hx => .inr (resolveReport_emits _ env _ _ _ _ x hx)

theorem cancelAllocation_emits (s : QualityState) (env : Env) (q : CancelRequest) :
    Emits (s.cleanedBy env) ((s.cancelAllocation env q).map id .cancelled) := by
  unfold cancelAllocation
  split
  · exact .nothing rfl
  · dsimp only
    split
    · exact .nothing rfl
    · split
      · exact .nothing rfl
      · split
        · exact .nothing rfl
        · split <;> exact .nothing rfl

theorem decisionForResponse_emits (s : QualityState) (env : Env) (uuid : String) (ip : IpAddr) :
    Emits (s.cleanedBy env) ((s.decisionForResponse env uuid ip).map id .decision) := by
  unfold decisionForResponse
  split
  · exact .nothing rfl
  · split
    · exact .nothing rfl
    · rename_i config hconfig
      rw [cleanedBy_eq hconfig]
      intro x hx
      cases hget : (s.cleanup config env.cleaned).decisions.get ⟨uuid, normalizeIp ip⟩ with
      | none => simp [hget, Answer.decisions] at hx
      | some r =>
        simp only [Prod.map_snd, hget, Option.map_some, Answer.decisions, List.mem_singleton] at hx
        exact .inl (.inr (.inl ⟨_, r, hget, hx.symm⟩))

theorem finalizeExpired_emits (s : QualityState) (env : Env) :
    Emits (s.cleanedBy env) ((s.finalizeExpired env).map id .finalized) := by
  unfold finalizeExpired
  split
  · exact .nothing rfl
  · split
    · exact .nothing rfl
    · intro x hx
      rcases foldl_finalizeOne_emits env _ _ [] x hx with h | h
      · cases h
      · exact .inr h

theorem handle_emits (s : QualityState) (env : Env) (call : Call) :
    Emits (s.cleanedBy env) (s.handle env call) := by
  cases call with
  | createOffer | responseContext | runtimeSnapshot => exact .nothing rfl
  | selectForRequest q => exact selectForRequest_emits s env q
  | handleStageReport q => exact handleStageReport_emits s env q
  | cancelAllocation q => exact cancelAllocation_emits s env q
  | decisionForResponse uuid ip => exact decisionForResponse_emits s env uuid ip
  | finalizeExpired => exact finalizeExpired_emits s env

end

/-! ## Runs -/

structure Ledger (w : World) : Prop where
  sound : Sound w.issued w.state
  emitted : ∀ d ∈ w.emitted, d ∈ w.state.recorded.map Prod.fst
  cancelled : ∀ id ∈ w.cancelled, id ∈ w.issued ∧ w.state.allocations.get id = none ∧
    id ∉ w.state.recordedIds

theorem init_ledger : Ledger World.init := by
  refine ⟨⟨?_, ?_, ?_, ?_, List.nodup_nil, ?_⟩, ?_, ?_⟩
  · intro id a h
    simp [World.init, QualityState.default] at h
  · intro id a h
    simp [World.init, QualityState.default] at h
  · rintro d (⟨k, r, h, -⟩ | ⟨k, r, h, -⟩ | ⟨id, f, h, -⟩) <;>
      simp [World.init, QualityState.default] at h
  · intro id f h
    simp [World.init, QualityState.default] at h
  · rintro id ⟨⟩
  · rintro d ⟨⟩
  · rintro id ⟨⟩

/-- What a call cancels was live, and is gone. -/
theorem effect_cancels {s t : QualityState} {env : Env} {call : Call} {answer : Answer}
    (he : Effect env s call answer t) {id : Bytes} (hid : id ∈ answer.cancels call) :
    (∃ a, s.allocations.get id = some a) ∧ t.allocations.get id = none ∧
      t.recordedIds = s.recordedIds := by
  cases he with
  | same hp => rw [hp.cancels] at hid; cases hid
  | put id' a a' ha hev hp => rw [hp.cancels] at hid; cases hid
  | finalized id' a a' d ha hev hd hp => rw [hp.cancels] at hid; cases hid
  | offered | expanded | swept => cases hid
  | cancelled q d a role ha =>
    simp only [Answer.cancels, List.mem_singleton] at hid
    subst hid
    exact ⟨⟨a, ha⟩, by simp, rfl⟩

theorem step_ledger {w w' : World} {i : Env × Call} (h : Ledger w) (hfresh : freshDraws w i = true)
    (hstep : w.step i = some w') : Ledger w' := by
  obtain ⟨env, call⟩ := i
  rw [freshDraws_iff] at hfresh
  cases hstep
  have hclean : Sound w.issued (w.state.cleanedBy env) := cleanup_sound h.sound _ _
  have hdead : ∀ id, w.state.allocations.get id = none →
      ¬ ∃ a, (w.state.cleanedBy env).allocations.get id = some a := by
    rintro id hid ⟨a, ha⟩
    rw [(cleanup_allocations.mp ha).1] at hid
    cases hid
  have hem := handle_emits w.state env call
  rcases handle_effect w.state env call with ⟨hs, hp⟩ | heff
  · -- The call returned before its cleanup.
    refine ⟨?_, ?_, ?_⟩
    · simp only [hp.id, hs]
      exact h.sound
    · intro d hd
      simp only [List.mem_append] at hd
      simp only [hs]
      rcases hd with hd | hd
      · rcases hem d hd with hk | hr
        · exact hclean.known d hk
        · rwa [hs] at hr
      · exact h.emitted d hd
    · simp only [hp.cancels, hp.id, hs]
      exact h.cancelled
  · have hext := effect_extends heff hclean
    have hkept : ∀ d, d ∈ w.state.recorded.map Prod.fst →
        d ∈ (w.state.handle env call).1.recorded.map Prod.fst := by
      intro d hd
      obtain ⟨r, hr, rfl⟩ := List.mem_map.mp hd
      exact List.mem_map.mpr ⟨r, hext.kept r hr, rfl⟩
    refine ⟨effect_sound heff hclean hfresh.1, ?_, ?_⟩
    · intro d hd
      rcases List.mem_append.mp hd with hd | hd
      · rcases hem d hd with hk | hr
        · exact hkept d (hclean.known d hk)
        · exact hr
      · exact hkept d (h.emitted d hd)
    · intro id hid
      rcases List.mem_append.mp hid with hid | hid
      · obtain ⟨⟨a, ha⟩, hnone, hrec⟩ := effect_cancels heff hid
        obtain ⟨hiss, hnot⟩ := hclean.live id a ha
        refine ⟨?_, hnone, by rw [hrec]; exact hnot⟩
        dsimp only
        split
        · exact List.mem_cons_of_mem _ hiss
        · exact hiss
      · obtain ⟨hiss, hnone, hnot⟩ := h.cancelled id hid
        refine ⟨?_, ?_, ?_⟩
        · dsimp only
          split
          · exact List.mem_cons_of_mem _ hiss
          · exact hiss
        · -- Only a fresh id can become live.
          cases hget : (w.state.handle env call).1.allocations.get id with
          | none => rfl
          | some a =>
            rcases effect_live heff hget with hl | ⟨-, rfl⟩
            · exact absurd hl (hdead id hnone)
            · exact absurd hiss hfresh.1
        · intro hrec
          rcases hext.ids id hrec with hrec | hl
          · exact hnot hrec
          · exact hdead id hnone hl

theorem run_ledger {is : List (Env × Call)} {w : World}
    (h : Run (Guarded World.step freshDraws) World.init is w) : Ledger w := by
  refine h.invariant init_ledger ?_
  rintro w i w' hi ⟨hfresh, hstep⟩
  exact step_ledger hi hfresh hstep

/-- In every run each allocation is finalized at most once, all decisions emitted for it are the
same, and none is emitted for an allocation that was cancelled. -/
theorem decisions_agree {is : List (Env × Call)} {w : World}
    (h : Run (Guarded World.step freshDraws) World.init is w) :
    w.state.recordedIds.Nodup ∧
    (∀ d ∈ w.emitted, ∀ d' ∈ w.emitted, d.allocationId = d'.allocationId → d = d') ∧
    ∀ d ∈ w.emitted, d.allocationId ∉ w.cancelled := by
  have hl := run_ledger h
  refine ⟨hl.sound.nodup, ?_, ?_⟩
  · intro d hd d' hd' he
    exact hl.sound.unique (hl.emitted d hd) (hl.emitted d' hd') he
  · intro d hd hc
    obtain ⟨r, hr, rfl⟩ := List.mem_map.mp (hl.emitted d hd)
    exact (hl.cancelled _ hc).2.2 (List.mem_map.mpr ⟨r, hr, rfl⟩)

/-! ## A sample run -/

def sampleUuid (b : UInt8) : Uuid := ⟨List.replicate 16 b, List.length_replicate⟩

/-- Call number `b` draws the id `b` and the token `100 + b`. -/
def sampleEnv (strategy : Strategy) (b : UInt8) : Env :=
  { active := ⟨7, some { enabled := true, strategy }⟩, cleaned := 0, received := 0, decided := 0,
    unixMs := 0, order := .stored, id := sampleUuid b, token := sampleUuid (100 + b) }

def sampleView (relay : String) : Observer.RelayRuntimeView :=
  ⟨relay, true, ⟨none, some 20, some 1000⟩, ["native"]⟩

def sampleController : SocketAddr := .v4 0xC000020A 40000

def sampleTarget (port : Nat) : SocketAddr := .v4 0xC6336414 port

/-- An offer between the sample endpoints. -/
def sampleOffer (target : SocketAddr) : OfferRequest :=
  { clientProtocol := 1, initiatorRoute := sampleController, initiatorIp := sampleController.ip,
    targetRoute := target, targetIp := target.ip, targetId := "target", requirement := .nativeOnly,
    initiatorWebsocket := false, targetWebsocket := false, fallback := "a"
    snapshot := ⟨7, [sampleView "a", sampleView "b"], 7, fun _ _ _ _ => none⟩ }

/-- A report for the allocation of call `b`. -/
def sampleReport (b : UInt8) (stage : Stage) (role : EndpointRole) (relays : List String)
    (samples : Nat) : RelayProbeReport :=
  { protocolVersion := 1, allocationId := (sampleUuid b).val,
    results := relays.map fun relay => ⟨relay, samples, samples, 10, 1⟩, stage := stage.wire,
    stageToken := (sampleUuid (100 + b)).val, endpointRole := role.wire }

/-- A report whose primary relay loses two packets of three. -/
def sampleLossyReport (stage : Stage) : RelayProbeReport :=
  { sampleReport 1 stage .controller [] 0 with results := [⟨"a", 3, 1, 250, 0⟩] }

/-- The controller's request for the allocation of call 1. -/
def sampleRequest (report : RelayProbeReport) : RelayRequest :=
  { sourceRoute := sampleController, sourceIp := sampleController.ip,
    targetIp := (sampleTarget 50000).ip, uuid := "session",
    explicitAllocationId := (sampleUuid 1).val, report := some report }

def sampleStageReport (b : UInt8) : StageReportRequest :=
  ⟨sampleController, sampleController.ip, sampleReport b .eager .controller ["a", "b"] 5⟩

/-- An allocation finalized by its controller's report, which is sent twice, and another one that
is cancelled. -/
def sampleRun : List (Env × Call) :=
  [(sampleEnv .eager 1, .createOffer (sampleOffer (sampleTarget 50000))),
   (sampleEnv .eager 2, .handleStageReport (sampleStageReport 1)),
   (sampleEnv .eager 3, .handleStageReport (sampleStageReport 1)),
   (sampleEnv .eager 4, .createOffer (sampleOffer (sampleTarget 50000))),
   (sampleEnv .eager 5, .cancelAllocation ⟨sampleController, sampleController.ip,
     ⟨1, (sampleUuid 4).val, Stage.eager.wire, (sampleUuid 104).val, 1, 1⟩⟩)]

theorem decisions_agree_sample : ∃ w, Run (Guarded World.step freshDraws) World.init sampleRun w ∧
    w.emitted.length = 4 ∧ w.cancelled = [(sampleUuid 4).val] ∧
    w.state.recordedIds.Nodup ∧
    (∀ d ∈ w.emitted, ∀ d' ∈ w.emitted, d.allocationId = d'.allocationId → d = d') ∧
    ∀ d ∈ w.emitted, d.allocationId ∉ w.cancelled := by
  have h : (exec World.step freshDraws World.init sampleRun).any (fun w =>
      w.emitted.length == 4 && w.cancelled == [(sampleUuid 4).val]) = true := by
    decide
  simp only [Option.any_eq_true, Bool.and_eq_true, beq_iff_eq] at h
  obtain ⟨w, hw, hlen, hcan⟩ := h
  exact ⟨w, .of_exec hw, hlen, hcan, decisions_agree (.of_exec hw)⟩

end Starry.Quality
