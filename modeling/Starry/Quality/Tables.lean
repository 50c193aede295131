import Starry.Quality.Effects

/-!
# Relay quality: the tables after each operation

One lemma for each operation of `State`: what is still in each table, and how many entries.
-/

open Library

namespace Starry.Quality

open QualityState

/-! ## Cleanup -/

section

variable {s : QualityState} {env : Env} {config : RelayQualityConfig} {now : Instant}

theorem cleanup_allocations {id : Bytes} {a : Allocation} :
    (s.cleanup config now).allocations.get id = some a ↔
      s.allocations.get id = some a ∧ now - a.created ≤ secs config.allocationTtlSeconds := by
  simp only [cleanup, Table.get_retain, Option.filter_eq_some_iff, decide_eq_true_eq]

theorem cleanup_routes {k : RouteKey} {id : Bytes} :
    (s.cleanup config now).routes.get k = some id ↔ s.routes.get k = some id ∧
      ∀ a, s.allocations.get id = some a → now - a.created ≤ secs config.allocationTtlSeconds := by
  simp only [cleanup, Table.get_retain, Option.filter_eq_some_iff]
  cases s.allocations.get id <;> simp

theorem cleanup_finalized {id : Bytes} {f : FinalizedAllocation} :
    (s.cleanup config now).finalizedAllocations.get id = some f ↔
      s.finalizedAllocations.get id = some f ∧
        now - f.created ≤ secs config.allocationTtlSeconds := by
  simp only [cleanup, Table.get_retain, Option.filter_eq_some_iff, decide_eq_true_eq]

theorem cleanup_requestDecisions {k : RequestDecisionKey} {r : DecisionRecord} :
    (s.cleanup config now).requestDecisions.get k = some r ↔
      s.requestDecisions.get k = some r ∧ now - r.created ≤ secs config.allocationTtlSeconds := by
  simp only [cleanup, Table.get_retain, Option.filter_eq_some_iff, decide_eq_true_eq]

theorem cleanup_decisions {k : DecisionKey} {r : DecisionRecord} :
    (s.cleanup config now).decisions.get k = some r ↔
      s.decisions.get k = some r ∧ now - r.created ≤ secs config.allocationTtlSeconds := by
  simp only [cleanup, Table.get_retain, Option.filter_eq_some_iff, decide_eq_true_eq]

end

/-! ## Recording a decision -/

section

variable {K V : Type} [DecidableEq K] {created : V → Instant} {env : Env} {limit : Nat}
  {m : Table K V} {k k' : K} {v v' : V}

/-- An insertion with `remove_oldest_*` is a limited insertion by age. -/
theorem insertWith_removeOldest (created : V → Instant) (env : Env) (limit : Nat) (m : Table K V)
    (k : K) (v : V) :
    insertWith (removeOldest created) env limit m k v =
      m.insertLimited env.order (fun v => env.decided - created v) limit k v := rfl

theorem get_insertWith (h : (insertWith (removeOldest created) env limit m k v).get k' = some v') :
    k' = k ∧ v' = v ∨ k' ≠ k ∧ m.get k' = some v' := by
  rw [insertWith_removeOldest] at h
  exact Table.get_insertLimited h

theorem get_insertWith_self :
    (insertWith (removeOldest created) env limit m k v).get k = some v := by
  rw [insertWith_removeOldest]
  exact Table.get_insertLimited_self

theorem len_insertWith (h : m.len ≤ max 1 limit) :
    (insertWith (removeOldest created) env limit m k v).len ≤ max 1 limit := by
  rw [insertWith_removeOldest]
  exact Table.len_insertLimited h

end

/-- What is left of the tables when `a` has been finalized with `d`. -/
structure Recorded (env : Env) (s : QualityState) (a : Allocation) (d : RelayQualityDecision)
    (s' : QualityState) : Prop where
  allocations : s'.allocations = s.allocations
  routes : s'.routes = s.routes.retain fun _ v => v != a.allocationId
  recorded : s'.recorded = (d, a.pendingUuid) :: s.recorded
  finalizedSelf : s'.finalizedAllocations.get a.allocationId = some (finalizedOf env a d)
  finalized : ∀ id f, s'.finalizedAllocations.get id = some f → id ≠ a.allocationId →
    s.finalizedAllocations.get id = some f
  decisions : ∀ k r, s'.decisions.get k = some r →
    s.decisions.get k = some r ∨ r.decision = d
  requestDecisions : ∀ k r, s'.requestDecisions.get k = some r →
    s.requestDecisions.get k = some r ∨ r.decision = d

/-- A cached selection touches only the cache. -/
theorem QualityState.storeSelection_eq (s : QualityState) (env : Env) (limit : Nat)
    (cacheUpdate : Option (CacheKey × String)) :
    ∃ cache, s.storeSelection env limit cacheUpdate = { s with cache := cache } := by
  unfold storeSelection
  split
  · exact ⟨s.cache, rfl⟩
  · exact ⟨_, rfl⟩

theorem QualityState.storeDecision_eq (s : QualityState) (env : Env) (a : Allocation)
    (d : RelayQualityDecision) :
    ∃ decisions requests, s.storeDecision env a d =
        { s with decisions := decisions, requestDecisions := requests } ∧
      (∀ k r, decisions.get k = some r → s.decisions.get k = some r ∨ r.decision = d) ∧
      ∀ k r, requests.get k = some r → s.requestDecisions.get k = some r ∨ r.decision = d := by
  unfold storeDecision
  split
  · exact ⟨_, _, rfl, fun k r h => .inl h, fun k r h => .inl h⟩
  · refine ⟨_, _, rfl, fun k r h => ?_, fun k r h => ?_⟩
    · rw [removeOldestDecision] at h
      rcases get_insertWith h with ⟨_, rfl⟩ | ⟨_, h⟩
      · exact .inr rfl
      · exact .inl h
    · rw [removeOldestRequestDecision] at h
      rcases get_insertWith h with ⟨_, rfl⟩ | ⟨_, h⟩
      · exact .inr rfl
      · exact .inl h

theorem recordFinalDecision_spec (s : QualityState) (env : Env) (a : Allocation)
    (d : RelayQualityDecision) (cacheUpdate : Option (CacheKey × String)) :
    Recorded env s a d (s.recordFinalDecision env a d cacheUpdate).1 := by
  obtain ⟨cache, hc⟩ := (s.dropRoutes a.allocationId).storeSelection_eq env a.config.maxAllocations
    cacheUpdate
  obtain ⟨decisions, requests, hd, hdec, hreq⟩ :=
    ({ s.dropRoutes a.allocationId with cache := cache } : QualityState).storeDecision_eq env a d
  rw [recordFinalDecision]
  simp only [hc, hd, storeFinalized, removeOldestFinalizedAllocation, note]
  refine ⟨rfl, rfl, rfl, get_insertWith_self, fun id f hget hne => ?_, hdec, hreq⟩
  rcases get_insertWith hget with ⟨he, _⟩ | ⟨_, h⟩
  · exact absurd he hne
  · exact h

/-! ## Removing allocations -/

/-- `t` is `s` after some allocations were removed. -/
inductive Shrinks : QualityState → QualityState → Prop
  | refl (s : QualityState) : Shrinks s s
  | step {s t : QualityState} (id : Bytes) (a : Allocation) (ha : s.allocations.get id = some a)
      (h : Shrinks (s.removeAllocation id) t) : Shrinks s t

theorem removeOldestAllocation_cases (s : QualityState) (ord : HashOrder) (now : Instant) :
    s.allocations.len = 0 ∨ ∃ id a, s.allocations.get id = some a ∧
      s.removeOldestAllocation ord now = s.removeAllocation id := by
  unfold removeOldestAllocation
  split
  · rename_i h
    exact .inl (Table.len_of_maxByKey h)
  · rename_i e h
    obtain ⟨id, a⟩ := e
    exact .inr ⟨id, a, Table.mem_iter.mp (maxByKey_mem h), rfl⟩

theorem len_removeAllocation {s : QualityState} {id : Bytes} {a : Allocation}
    (h : s.allocations.get id = some a) :
    (s.removeAllocation id).allocations.len + 1 = s.allocations.len :=
  Table.len_remove_of_some h

theorem removeWhileFull_spec (ord : HashOrder) (now : Instant) (limit fuel : Nat)
    (s : QualityState) (hfuel : s.allocations.len ≤ fuel) :
    Shrinks s (removeWhileFull ord now limit fuel s) ∧
      (removeWhileFull ord now limit fuel s).allocations.len < max limit 1 := by
  induction fuel generalizing s with
  | zero =>
    refine ⟨.refl s, ?_⟩
    rw [removeWhileFull]
    omega
  | succ fuel ih =>
    rw [removeWhileFull]
    split
    · rename_i hfull
      rcases removeOldestAllocation_cases s ord now with h0 | ⟨id, a, ha, he⟩
      · omega
      · have hlen := len_removeAllocation ha
        obtain ⟨hs, hl⟩ := ih (s.removeAllocation id) (by omega)
        rw [he]
        exact ⟨.step id a ha hs, hl⟩
    · exact ⟨.refl s, by omega⟩

/-- The capacity loop only removes allocations, and ends with room for one more. -/
theorem ensureAllocationCapacity_spec (s : QualityState) (ord : HashOrder) (now : Instant)
    (limit : Nat) :
    Shrinks s (s.ensureAllocationCapacity ord now limit) ∧
      (s.ensureAllocationCapacity ord now limit).allocations.len < max limit 1 :=
  removeWhileFull_spec ord now limit _ s le_rfl

@[simp] theorem removeAllocation_get (s : QualityState) (id id' : Bytes) :
    (s.removeAllocation id).allocations.get id' =
      if id' = id then none else s.allocations.get id' :=
  Table.get_remove ..

@[simp] theorem take_get (s : QualityState) (id id' : Bytes) :
    (s.take id).allocations.get id' = if id' = id then none else s.allocations.get id' :=
  Table.get_remove ..

@[simp] theorem putBack_get (s : QualityState) (id id' : Bytes) (a : Allocation) :
    (s.putBack id a).allocations.get id' = if id' = id then some a else s.allocations.get id' :=
  Table.get_insert ..

theorem Shrinks.eq {s t : QualityState} (h : Shrinks s t) :
    ∃ allocations routes, t = { s with allocations := allocations, routes := routes } := by
  induction h with
  | refl s => exact ⟨_, _, rfl⟩
  | step id a ha h ih =>
    obtain ⟨allocations, routes, rfl⟩ := ih
    exact ⟨allocations, routes, rfl⟩

theorem Shrinks.get {s t : QualityState} (h : Shrinks s t) {id : Bytes} {a : Allocation}
    (ht : t.allocations.get id = some a) : s.allocations.get id = some a := by
  induction h with
  | refl s => exact ht
  | step id' a' ha h ih =>
    have := ih ht
    rw [removeAllocation_get] at this
    split at this
    · cases this
    · exact this

/-- The new route is entered, and the allocation it replaces is taken out. -/
def replaceRoute (s : QualityState) (key : RouteKey) (id : Bytes) : QualityState :=
  match s.routes.get key with
  | some previous => { s with routes := s.routes.insert key id }.take previous
  | none => { s with routes := s.routes.insert key id }

theorem addAllocation_spec (s : QualityState) (env : Env) (config : RelayQualityConfig)
    (a : Allocation) :
    ∃ t, Shrinks (replaceRoute s a.routeKey a.allocationId) t ∧
      t.allocations.len < max config.maxAllocations 1 ∧
      s.addAllocation env config a = t.putBack a.allocationId a := by
  obtain ⟨h1, h2⟩ := ensureAllocationCapacity_spec (replaceRoute s a.routeKey a.allocationId)
    env.order env.decided config.maxAllocations
  refine ⟨_, h1, h2, ?_⟩
  unfold addAllocation replaceRoute
  cases s.routes.get a.routeKey <;> rfl

theorem replaceRoute_eq (s : QualityState) (key : RouteKey) (id : Bytes) :
    ∃ allocations routes, replaceRoute s key id =
      { s with allocations := allocations, routes := routes } := by
  unfold replaceRoute
  split <;> exact ⟨_, _, rfl⟩

theorem replaceRoute_get {s : QualityState} {key : RouteKey} {id id' : Bytes} {a : Allocation}
    (h : (replaceRoute s key id).allocations.get id' = some a) : s.allocations.get id' = some a := by
  unfold replaceRoute at h
  split at h
  · rw [take_get] at h
    split at h
    · cases h
    · exact h
  · exact h

theorem addAllocation_eq (s : QualityState) (env : Env) (config : RelayQualityConfig)
    (a : Allocation) : ∃ allocations routes, s.addAllocation env config a =
      { s with allocations := allocations, routes := routes } := by
  obtain ⟨t, hs, -, he⟩ := addAllocation_spec s env config a
  obtain ⟨al, ro, ht⟩ := hs.eq
  obtain ⟨al', ro', hr⟩ := replaceRoute_eq s a.routeKey a.allocationId
  rw [he, ht, hr]
  exact ⟨_, _, rfl⟩

theorem addAllocation_get {s : QualityState} {env : Env} {config : RelayQualityConfig}
    {a x : Allocation} {id : Bytes} (h : (s.addAllocation env config a).allocations.get id = some x) :
    id = a.allocationId ∧ x = a ∨ id ≠ a.allocationId ∧ s.allocations.get id = some x := by
  obtain ⟨t, hs, -, he⟩ := addAllocation_spec s env config a
  rw [he, putBack_get] at h
  split at h
  · rename_i hid
    exact .inl ⟨hid, (Option.some.inj h).symm⟩
  · rename_i hid
    exact .inr ⟨hid, replaceRoute_get (hs.get h)⟩

/-! ## Finalizing -/

/-- The spec of `recordFinalDecision` for an allocation taken out of the table. -/
theorem finalizeWith_spec (s : QualityState) (env : Env) (id : Bytes) (a : Allocation)
    (d : RelayQualityDecision × Option (CacheKey × String)) :
    Recorded env (s.take id) a d.1 (s.finalizeWith env id a d) :=
  recordFinalDecision_spec ..

theorem finalizeWith_get (s : QualityState) (env : Env) (id : Bytes) (a : Allocation)
    (d : RelayQualityDecision × Option (CacheKey × String)) (id' : Bytes) :
    (s.finalizeWith env id a d).allocations.get id' =
      if id' = id then none else s.allocations.get id' := by
  rw [(finalizeWith_spec s env id a d).allocations, take_get]

/-- What is dispatched to both endpoints is the decision just recorded. -/
theorem dispatchFinal_decisions (s : QualityState) (env : Env) (id : Bytes) (a : Allocation)
    (d : RelayQualityDecision × Option (CacheKey × String)) (hd : d.1.allocationId = a.allocationId) :
    ((s.take id).dispatchFinal env a d).2 =
      some (finalizedDecisionDispatch (finalizedOf env a d.1)) := by
  have h := (recordFinalDecision_spec (s.take id) env a d.1 d.2).finalizedSelf
  simp only [dispatchFinal]
  rw [show ((s.take id).recordFinalDecision env a d.1 d.2).2.decision.allocationId =
    a.allocationId from hd, h]
  rfl

/-- `t` is `s` after some allocations were finalized as late. -/
inductive Sweeps (env : Env) : QualityState → QualityState → Prop
  | refl (s : QualityState) : Sweeps env s s
  | step {s t : QualityState} (id : Bytes) (a : Allocation) (ha : s.allocations.get id = some a)
      (h : Sweeps env (s.finalizeWith env id a ((s.take id).lateDecision env a)) t) :
      Sweeps env s t

theorem finalizeOne_eq {env : Env} {s : QualityState} {id : Bytes} {a : Allocation}
    (ds : List StageDispatch) (ha : s.allocations.get id = some a) :
    finalizeOne env (s, ds) id =
      (s.finalizeWith env id a ((s.take id).lateDecision env a),
        ds ++ [finalizedDecisionDispatch (finalizedOf env a ((s.take id).lateDecision env a).1)]) := by
  simp only [finalizeOne, ha]
  rw [dispatchFinal_decisions s env id a _ (lateDecision_id ..)]
  rfl

theorem foldl_finalizeOne_sweeps (env : Env) (ids : List Bytes) (s : QualityState)
    (ds : List StageDispatch) : Sweeps env s (ids.foldl (finalizeOne env) (s, ds)).1 := by
  induction ids generalizing s ds with
  | nil => exact .refl s
  | cons id ids ih =>
    rw [List.foldl_cons]
    cases ha : s.allocations.get id with
    | none =>
      rw [show finalizeOne env (s, ds) id = (s, ds) by simp only [finalizeOne, ha]]
      exact ih s ds
    | some a =>
      rw [finalizeOne_eq ds ha]
      exact .step id a ha (ih _ _)

/-! ## Evolution -/

/-- A call changes only the reports and the pinned uuid of an allocation it does not expand. -/
theorem Evolves.eq {env : Env} {call : Call} {a a' : Allocation} (h : Evolves env call a a') :
    ∃ reports uuid, a' = { a with reports := reports, pendingUuid := uuid } := by
  cases h <;> exact ⟨_, _, rfl⟩

theorem Evolves.allocationId {env : Env} {call : Call} {a a' : Allocation}
    (h : Evolves env call a a') : a'.allocationId = a.allocationId := by
  obtain ⟨_, _, rfl⟩ := h.eq
  rfl

theorem Evolves.routeKey {env : Env} {call : Call} {a a' : Allocation}
    (h : Evolves env call a a') : a'.routeKey = a.routeKey := by
  obtain ⟨_, _, rfl⟩ := h.eq
  rfl

theorem Evolves.configGeneration {env : Env} {call : Call} {a a' : Allocation}
    (h : Evolves env call a a') : a'.configGeneration = a.configGeneration := by
  obtain ⟨_, _, rfl⟩ := h.eq
  rfl

theorem Evolves.config {env : Env} {call : Call} {a a' : Allocation}
    (h : Evolves env call a a') : a'.config = a.config := by
  obtain ⟨_, _, rfl⟩ := h.eq
  rfl

end Starry.Quality
