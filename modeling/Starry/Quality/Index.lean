import Starry.Quality.Agreement

/-!
# Relay quality: the tables fit together

`routes` is pruned by value and `allocations` by key, on many paths. While an offer is entered its
route is already there and its allocation is not, so the invariant carries that pending route.
-/

open Library

namespace Starry.Quality

open QualityState

/-! ## Routes -/

/-- The routes are those of the live allocations, and the pending one. -/
def RoutesExact (pending : Option (RouteKey × Bytes)) (s : QualityState) : Prop :=
  ∀ k id, s.routes.get k = some id ↔
    (∃ a, s.allocations.get id = some a ∧ a.routeKey = k) ∨ pending = some (k, id)

section

variable {s t : QualityState} {env : Env} {pending : Option (RouteKey × Bytes)}

theorem cleanup_routesExact (h : RoutesExact none s) (config : RelayQualityConfig) (now : Instant) :
    RoutesExact none (s.cleanup config now) := by
  intro k id
  rw [cleanup_routes, h k id]
  simp only [reduceCtorEq, or_false, cleanup_allocations]
  constructor
  · rintro ⟨⟨a, ha, hk⟩, hlive⟩
    exact ⟨a, ⟨ha, hlive a ha⟩, hk⟩
  · rintro ⟨a, ⟨ha, hlive⟩, hk⟩
    refine ⟨⟨a, ha, hk⟩, fun a' ha' => ?_⟩
    rw [ha] at ha'
    cases ha'
    exact hlive

/-- Dropping an allocation with the routes that lead to it. -/
theorem RoutesExact.drop {id : Bytes} (h : RoutesExact pending s)
    (hp : ∀ k, pending ≠ some (k, id))
    (hroutes : t.routes = s.routes.retain fun _ v => v != id)
    (hget : ∀ id', t.allocations.get id' = if id' = id then none else s.allocations.get id') :
    RoutesExact pending t := by
  intro k id'
  rw [hroutes, Table.get_retain, Option.filter_eq_some_iff, h k id', hget]
  by_cases he : id' = id
  · subst he
    simp [hp k]
  · simp [he]

theorem removeAllocation_routesExact {id : Bytes} (h : RoutesExact pending s)
    (hp : ∀ k, pending ≠ some (k, id)) : RoutesExact pending (s.removeAllocation id) :=
  h.drop hp rfl fun id' => removeAllocation_get s id id'

theorem finalizeWith_routesExact {id : Bytes} {a : Allocation} (h : RoutesExact none s)
    (hid : a.allocationId = id) (d : RelayQualityDecision × Option (CacheKey × String)) :
    RoutesExact none (s.finalizeWith env id a d) := by
  refine h.drop (by simp) ?_ (finalizeWith_get s env id a d)
  rw [(finalizeWith_spec s env id a d).routes, hid]
  rfl

theorem putBack_routesExact {id : Bytes} {a a' : Allocation} (h : RoutesExact none s)
    (ha : s.allocations.get id = some a) (hk : a'.routeKey = a.routeKey) :
    RoutesExact none (s.putBack id a') := by
  intro k id'
  rw [putBack_get, show (s.putBack id a').routes = s.routes from rfl, h k id']
  by_cases he : id' = id
  · subst he
    simp [ha, hk]
  · simp [he]

theorem replaceRoute_routesExact {key : RouteKey} {id : Bytes} (h : RoutesExact none s) :
    RoutesExact (some (key, id)) (replaceRoute s key id) := by
  -- The allocation that had this route, if any, is the one taken out.
  have hother : ∀ id' a, s.allocations.get id' = some a → a.routeKey = key →
      s.routes.get key = some id' := by
    intro id' a ha hk
    exact (h key id').mpr (.inl ⟨a, ha, hk⟩)
  intro k id'
  unfold replaceRoute
  split
  · rename_i previous hprev
    rw [take_get]
    simp only [take, Table.get_insert, Option.some.injEq, Prod.mk.injEq]
    by_cases hk : k = key
    · subst hk
      simp only [if_true, Option.some.injEq, true_and]
      constructor
      · rintro rfl
        exact .inr rfl
      · rintro (⟨a, ha, hkey⟩ | rfl)
        · split at ha
          · cases ha
          · rename_i hne
            have := hother id' a ha hkey
            rw [hprev] at this
            exact absurd (Option.some.inj this).symm hne
        · rfl
    · rw [if_neg hk, h k id']
      simp only [reduceCtorEq, or_false]
      constructor
      · rintro ⟨a, ha, hkey⟩
        refine .inl ⟨a, ?_, hkey⟩
        rw [if_neg]
        · exact ha
        · rintro rfl
          obtain ⟨a', ha', hkey'⟩ | hno := (h key id').mp hprev
          · rw [ha] at ha'
            cases ha'
            exact hk (hkey.symm.trans hkey')
          · cases hno
      · rintro (⟨a, ha, hkey⟩ | ⟨rfl, -⟩)
        · split at ha
          · cases ha
          · exact ⟨a, ha, hkey⟩
        · exact absurd rfl hk
  · rename_i hnone
    simp only [Table.get_insert, Option.some.injEq, Prod.mk.injEq]
    by_cases hk : k = key
    · subst hk
      simp only [if_true, Option.some.injEq, true_and]
      constructor
      · rintro rfl
        exact .inr rfl
      · rintro (⟨a, ha, hkey⟩ | rfl)
        · rw [hother id' a ha hkey] at hnone
          cases hnone
        · rfl
    · rw [if_neg hk, h k id']
      simp [Ne.symm hk]

theorem shrinks_routesExact (hs : Shrinks s t) (h : RoutesExact pending s)
    (hp : ∀ k id, pending = some (k, id) → s.allocations.get id = none) : RoutesExact pending t := by
  induction hs with
  | refl s => exact h
  | step id a ha _ ih =>
    refine ih (removeAllocation_routesExact h fun k he => ?_) fun k id' he => ?_
    · rw [hp k id he] at ha
      cases ha
    · rw [removeAllocation_get, hp k id' he]
      split <;> rfl

theorem enter_routesExact {id : Bytes} {a : Allocation} (h : RoutesExact (some (a.routeKey, id)) s)
    (hnew : s.allocations.get id = none) : RoutesExact none (s.putBack id a) := by
  intro k id'
  rw [putBack_get, show (s.putBack id a).routes = s.routes from rfl, h k id']
  by_cases he : id' = id
  · subst he
    simp [hnew]
  · simp [he, Ne.symm he]

theorem addAllocation_routesExact (h : RoutesExact none s) (config : RelayQualityConfig)
    (a : Allocation) (hnew : s.allocations.get a.allocationId = none) :
    RoutesExact none (s.addAllocation env config a) := by
  obtain ⟨t, hs, -, he⟩ := addAllocation_spec s env config a
  have hrep : (replaceRoute s a.routeKey a.allocationId).allocations.get a.allocationId = none := by
    cases hget : (replaceRoute s a.routeKey a.allocationId).allocations.get a.allocationId with
    | none => rfl
    | some x =>
      rw [replaceRoute_get hget] at hnew
      cases hnew
  have ht : t.allocations.get a.allocationId = none := by
    cases hget : t.allocations.get a.allocationId with
    | none => rfl
    | some x =>
      rw [hs.get hget] at hrep
      cases hrep
  rw [he]
  refine enter_routesExact (shrinks_routesExact hs (replaceRoute_routesExact h) ?_) ht
  rintro k id he'
  cases he'
  exact hrep

end

/-! ## Sizes -/

structure Bounded (limit : Nat) (s : QualityState) : Prop where
  limits : ∀ id a, s.allocations.get id = some a → a.config.maxAllocations = limit
  allocations : s.allocations.len ≤ max 1 limit
  cache : s.cache.len ≤ max 1 limit
  decisions : s.decisions.len ≤ max 1 limit
  requestDecisions : s.requestDecisions.len ≤ max 1 limit
  finalized : s.finalizedAllocations.len ≤ max 1 limit

section

variable {s t : QualityState} {env : Env} {limit : Nat}

theorem cleanup_bounded (h : Bounded limit s) (config : RelayQualityConfig) (now : Instant) :
    Bounded limit (s.cleanup config now) :=
  ⟨fun id a ha => h.limits id a (cleanup_allocations.mp ha).1,
    (Table.len_retain_le _ _).trans h.allocations, (Table.len_retain_le _ _).trans h.cache,
    (Table.len_retain_le _ _).trans h.decisions, (Table.len_retain_le _ _).trans h.requestDecisions,
    (Table.len_retain_le _ _).trans h.finalized⟩

/-- What only the table of allocations can break. -/
theorem Bounded.of_allocations (h : Bounded limit s)
    (heq : ∃ allocations routes, t = { s with allocations := allocations, routes := routes })
    (hlimits : ∀ id a, t.allocations.get id = some a → a.config.maxAllocations = limit)
    (hlen : t.allocations.len ≤ max 1 limit) : Bounded limit t := by
  obtain ⟨al, ro, rfl⟩ := heq
  exact ⟨hlimits, hlen, h.cache, h.decisions, h.requestDecisions, h.finalized⟩

theorem putBack_bounded {id : Bytes} {a a' : Allocation} (h : Bounded limit s)
    (ha : s.allocations.get id = some a) (hc : a'.config = a.config) :
    Bounded limit (s.putBack id a') := by
  refine h.of_allocations ⟨_, _, rfl⟩ ?_ ?_
  · intro id' x hx
    rw [putBack_get] at hx
    split at hx
    · cases hx
      rw [hc]
      exact h.limits id a ha
    · exact h.limits id' x hx
  · rw [putBack, Table.len_insert, if_neg (by simp [ha])]
    exact h.allocations

theorem removeAllocation_bounded (h : Bounded limit s) (id : Bytes) :
    Bounded limit (s.removeAllocation id) := by
  refine h.of_allocations ⟨_, _, rfl⟩ ?_ ((Table.len_remove_le _ _).trans h.allocations)
  intro id' x hx
  rw [removeAllocation_get] at hx
  split at hx
  · cases hx
  · exact h.limits id' x hx

theorem addAllocation_bounded (h : Bounded limit s) (config : RelayQualityConfig) (a : Allocation)
    (hc : config.maxAllocations = limit) (ha : a.config = config) :
    Bounded limit (s.addAllocation env config a) := by
  obtain ⟨t, hs, hlen, he⟩ := addAllocation_spec s env config a
  refine h.of_allocations (addAllocation_eq s env config a) ?_ ?_
  · intro id x hx
    rcases addAllocation_get hx with ⟨-, rfl⟩ | ⟨-, hx⟩
    · rw [ha, hc]
    · exact h.limits id x hx
  · rw [he, putBack, Table.len_insert]
    rw [hc] at hlen
    split <;> omega

theorem recordFinalDecision_bounded {a : Allocation} (h : Bounded limit s)
    (ha : a.config.maxAllocations = limit) (d : RelayQualityDecision)
    (cacheUpdate : Option (CacheKey × String)) :
    Bounded limit (s.recordFinalDecision env a d cacheUpdate).1 := by
  subst ha
  rw [recordFinalDecision]
  dsimp only
  have h₁ : Bounded a.config.maxAllocations (s.dropRoutes a.allocationId) :=
    h.of_allocations ⟨_, _, rfl⟩ h.limits h.allocations
  have h₂ : Bounded a.config.maxAllocations ((s.dropRoutes a.allocationId).storeSelection env
      a.config.maxAllocations cacheUpdate) := by
    unfold storeSelection
    split
    · exact h₁
    · exact ⟨h₁.limits, h₁.allocations, len_insertWith h₁.cache, h₁.decisions, h₁.requestDecisions,
        h₁.finalized⟩
  generalize (s.dropRoutes a.allocationId).storeSelection env a.config.maxAllocations cacheUpdate =
    s₂ at h₂ ⊢
  have h₃ : Bounded a.config.maxAllocations (s₂.storeDecision env a d) := by
    unfold storeDecision
    split
    · exact h₂
    · exact ⟨h₂.limits, h₂.allocations, h₂.cache, len_insertWith h₂.decisions,
        len_insertWith h₂.requestDecisions, h₂.finalized⟩
  exact ⟨h₃.limits, h₃.allocations, h₃.cache, h₃.decisions, h₃.requestDecisions,
    len_insertWith h₃.finalized⟩

theorem finalizeWith_bounded {id : Bytes} {a a' : Allocation} (h : Bounded limit s)
    (ha : s.allocations.get id = some a) (hc : a'.config = a.config)
    (d : RelayQualityDecision × Option (CacheKey × String)) :
    Bounded limit (s.finalizeWith env id a' d) := by
  have htake : Bounded limit (s.take id) := by
    refine h.of_allocations ⟨_, _, rfl⟩ ?_ ((Table.len_remove_le _ _).trans h.allocations)
    intro id' x hx
    rw [take_get] at hx
    split at hx
    · cases hx
    · exact h.limits id' x hx
  exact recordFinalDecision_bounded htake (by rw [hc]; exact h.limits id a ha) d.1 d.2

end

/-! ## Runs -/

structure IndexInv (limit : Nat) (s : QualityState) : Prop where
  routes : RoutesExact none s
  bounded : Bounded limit s

/-- The configured `max_allocations` does not change. -/
def fixedLimit (limit : Nat) (i : Env × Call) : Bool :=
  i.1.active.config.all fun config => config.maxAllocations == limit

section

variable {issued : List Bytes} {s t : QualityState} {env : Env} {limit : Nat}

theorem sweeps_indexInv (hs : Sweeps env s t) (h : IndexInv limit s) (hsound : Sound issued s) :
    IndexInv limit t := by
  induction hs with
  | refl s => exact h
  | step id a ha _ ih =>
    exact ih ⟨finalizeWith_routesExact h.routes (hsound.own id a ha) _,
      finalizeWith_bounded h.bounded ha rfl _⟩
      (finalizeWith_sound hsound ha rfl _ (lateDecision_id ..))

theorem effect_indexInv {call : Call} {answer : Answer} (he : Effect env s call answer t)
    (h : IndexInv limit s) (hsound : Sound issued s) (hfresh : env.id.val ∉ issued)
    (hlimit : fixedLimit limit (env, call) = true) : IndexInv limit t := by
  cases he with
  | same => exact h
  | offered q o config views hconfig hviews =>
    have hc : config.maxAllocations = limit := by simpa [fixedLimit, hconfig] using hlimit
    have hnew : s.allocations.get env.id.val = none := by
      cases hget : s.allocations.get env.id.val with
      | none => rfl
      | some a => exact absurd (hsound.live _ a hget).1 hfresh
    exact ⟨addAllocation_routesExact h.routes config (offeredAllocation env config q views) hnew,
      addAllocation_bounded h.bounded config _ hc rfl⟩
  | put id a a' ha hev =>
    exact ⟨putBack_routesExact h.routes ha hev.routeKey, putBack_bounded h.bounded ha hev.config⟩
  | expanded q d id a a' ha hev =>
    exact ⟨putBack_routesExact h.routes ha hev.routeKey, putBack_bounded h.bounded ha hev.config⟩
  | finalized id a a' d ha hev hd =>
    exact ⟨finalizeWith_routesExact h.routes (hev.allocationId.trans (hsound.own id a ha)) d,
      finalizeWith_bounded h.bounded ha hev.config d⟩
  | cancelled q d a role ha =>
    exact ⟨removeAllocation_routesExact h.routes (by simp), removeAllocation_bounded h.bounded _⟩
  | swept ds => exact sweeps_indexInv (foldl_finalizeOne_sweeps env _ s []) h hsound

theorem step_indexInv {w w' : World} {i : Env × Call} (h : IndexInv limit w.state)
    (hl : Ledger w) (hfresh : freshDraws w i = true) (hlimit : fixedLimit limit i = true)
    (hstep : w.step i = some w') : IndexInv limit w'.state := by
  obtain ⟨env, call⟩ := i
  rw [freshDraws_iff] at hfresh
  cases hstep
  rcases handle_effect w.state env call with ⟨hs, -⟩ | heff
  · simp only [hs]
    exact h
  · have hclean : IndexInv limit (w.state.cleanedBy env) :=
      ⟨cleanup_routesExact h.routes _ _, cleanup_bounded h.bounded _ _⟩
    exact effect_indexInv heff hclean (cleanup_sound hl.sound _ _) hfresh.1 hlimit

theorem init_indexInv (limit : Nat) : IndexInv limit World.init.state := by
  refine ⟨?_, ?_, ?_, ?_, ?_, ?_, ?_⟩
  · intro k id
    simp [World.init, QualityState.default]
  · intro id a h
    simp [World.init, QualityState.default] at h
  all_goals simp [World.init, QualityState.default]

end

/-- The six tables agree with each other and keep to their limit. -/
structure QualityState.Consistent (limit : Nat) (s : QualityState) : Prop where
  own : ∀ id a, s.allocations.get id = some a → a.allocationId = id
  routes : ∀ k id, s.routes.get k = some id ↔ ∃ a, s.allocations.get id = some a ∧ a.routeKey = k
  disjoint : ∀ id a, s.allocations.get id = some a → s.finalizedAllocations.get id = none
  allocations : s.allocations.len ≤ max 1 limit
  cache : s.cache.len ≤ max 1 limit
  decisions : s.decisions.len ≤ max 1 limit
  requestDecisions : s.requestDecisions.len ≤ max 1 limit
  finalized : s.finalizedAllocations.len ≤ max 1 limit

theorem consistent_of_inv {limit : Nat} {issued : List Bytes} {s : QualityState}
    (h : IndexInv limit s) (hs : Sound issued s) : s.Consistent limit := by
  refine ⟨hs.own, fun k id => ?_, fun id a ha => ?_, h.bounded.allocations, h.bounded.cache,
    h.bounded.decisions, h.bounded.requestDecisions, h.bounded.finalized⟩
  · simpa using h.routes k id
  · cases hf : s.finalizedAllocations.get id with
    | none => rfl
    | some f =>
      -- A finalized id has been recorded, and a live one has not.
      obtain ⟨r, hr, he⟩ := List.mem_map.mp (hs.known f.decision (.inr (.inr ⟨id, f, hf, rfl⟩)))
      refine absurd (List.mem_map.mpr ⟨r, hr, ?_⟩) (hs.live id a ha).2
      rw [he, hs.finalOwn id f hf]

/-- The tables are consistent in every state that calls with a fixed limit can reach. -/
theorem tables_consistent (limit : Nat) {is : List (Env × Call)} {w : World}
    (h : Run (Guarded World.step fun w i => freshDraws w i && fixedLimit limit i) World.init is w) :
    w.state.Consistent limit := by
  have hinv : Ledger w ∧ IndexInv limit w.state := by
    refine h.invariant (P := fun w => Ledger w ∧ IndexInv limit w.state)
      ⟨init_ledger, init_indexInv limit⟩ ?_
    rintro w i w' ⟨hl, hi⟩ ⟨hg, hstep⟩
    rw [Bool.and_eq_true] at hg
    exact ⟨step_ledger hl hg.1 hstep, step_indexInv hi hl hg.1 hg.2 hstep⟩
  exact consistent_of_inv hinv.2 hinv.1.sound

/-- The sample offer twice: the second one takes over the route of the first. -/
theorem tables_consistent_reoffered : ∃ w,
    Run (Guarded World.step fun w i => freshDraws w i && fixedLimit 10000 i) World.init
      [(sampleEnv .adaptive 1, .createOffer (sampleOffer (sampleTarget 50000))),
       (sampleEnv .adaptive 2, .createOffer (sampleOffer (sampleTarget 50000)))] w ∧
    w.state.routes.get ⟨sampleController, (sampleTarget 50000).ip⟩ = some (sampleUuid 2).val ∧
    w.state.Consistent 10000 := by
  have h : (exec World.step (fun w i => freshDraws w i && fixedLimit 10000 i) World.init
      [(sampleEnv .adaptive 1, .createOffer (sampleOffer (sampleTarget 50000))),
       (sampleEnv .adaptive 2, .createOffer (sampleOffer (sampleTarget 50000)))]).any (fun w =>
      decide (w.state.routes.get ⟨sampleController, (sampleTarget 50000).ip⟩ =
        some (sampleUuid 2).val)) = true := by
    decide
  simp only [Option.any_eq_true, decide_eq_true_eq] at h
  obtain ⟨w, hw, hroute⟩ := h
  exact ⟨w, .of_exec hw, hroute, tables_consistent 10000 (.of_exec hw)⟩

end Starry.Quality
