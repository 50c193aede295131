import Starry.ConfigStore.Phases

/-!
# Who holds what

At most one task is inside of the admission lock, and at most one task or transaction that was
handed over holds the store. The holder alone writes operations, so what memory calls ended is
ended on disk.
-/

open Library

namespace Starry.ConfigStore

variable (env : Env)

/-! ## What the actions leave alone -/

/-- The reservation, the transactions handed over and the operations are as they were, or
forgotten. -/
structure Frame (w w' : World) : Prop where
  active : w'.memory.activeOperation = w.memory.activeOperation
  spawned : w'.memory.spawned = w.memory.spawned
  used : ∀ i ∈ w.used, i ∈ w'.used
  memory : ∀ i o, w'.memory.state.operations.get i = some o →
    w.memory.state.operations.get i = some o
  disk : ∀ i o, w'.disk.operations.get i = some o → w.disk.operations.get i = some o

section Frames

variable {w w' : World} {a : Act} {r : a.Reply}

theorem Frame.same (hd : w'.disk.operations = w.disk.operations)
    (hm : w'.memory.state.operations = w.memory.state.operations)
    (ha : w'.memory.activeOperation = w.memory.activeOperation)
    (hs : w'.memory.spawned = w.memory.spawned) (hu : ∀ i ∈ w.used, i ∈ w'.used) : Frame w w' :=
  ⟨ha, hs, hu, fun i o h => by rwa [hm] at h, fun i o h => by rwa [hd] at h⟩

theorem Frame.refl (w : World) : Frame w w := .same rfl rfl rfl rfl fun _ h => h

theorem Frame.erase (w : World) (f : File) : Frame w (w.erase f) := by
  cases f with
  | operation id =>
    refine ⟨rfl, rfl, fun _ h => h, fun _ _ h => h, fun i o h => ?_⟩
    change (w.disk.operations.drop id).get i = some o at h
    rw [Keyed.get_drop] at h
    split at h
    · cases h
    · exact h
  | _ => exact .same rfl rfl rfl rfl fun _ h => h

theorem Act.plain.frame (h : a.plain) (hn : next w a r w') : Frame w w' := by
  cases next_effect hn with
  | same => exact .refl w
  | newId id _ => exact .same rfl rfl rfl rfl fun _ hi => List.mem_cons_of_mem _ hi
  | lock m _ => exact .same rfl rfl rfl rfl fun _ hi => hi
  | unlock m => exact .same rfl rfl rfl rfl fun _ hi => hi
  | update u =>
    cases u with
    | dropOperation id =>
      refine ⟨rfl, rfl, fun _ h => h, fun i o hi => ?_, fun _ _ h => h⟩
      change (w.memory.state.operations.drop id).get i = some o at hi
      rw [Keyed.get_drop] at hi
      split at hi
      · cases hi
      · exact hi
    | putOperation o => exact h.elim
    | release id => exact h.elim
    | spawn work => exact h.elim
    | install s => exact h.elim
    | _ => exact .same rfl rfl rfl rfl fun _ hi => hi
  | reserve id _ => exact h.elim
  | rename e =>
    cases e with
    | operation o => exact h.elim
    | _ => exact .same rfl rfl rfl rfl fun _ hi => List.mem_append_right _ hi
  | remove f => exact .erase w f
  | renameConfig bytes => exact .same rfl rfl rfl rfl fun _ hi => hi
  | removeConfig => exact .same rfl rfl rfl rfl fun _ hi => hi
  | call m r => exact .same rfl rfl rfl rfl fun _ hi => hi

/-- Only the admission's own actions take or give back its lock. -/
theorem Act.plain.locked (h : a.plain) (hn : next w a r w')
    (hl : .admission ∈ w.memory.locks) : .admission ∈ w'.memory.locks := by
  cases next_effect hn with
  | lock m _ => exact List.mem_cons_of_mem _ hl
  | unlock m => exact (List.mem_erase_of_ne (Ne.symm h)).mpr hl
  | _ => exact hl

end Frames

/-! ## The admission lock -/

structure Locking (w : World) (φ : Nat → Phase) : Prop where
  unique : ∀ i j, (φ i).Inside → (φ j).Inside → i = j
  locked : ∀ i, (φ i).Inside → .admission ∈ w.memory.locks

namespace Locking

variable {w w' : World} {φ : Nat → Phase} {i : Nat} {ψ : Phase}

/-- A task that was inside, or stays outside. -/
theorem stay (h : Locking w φ) (hψ : ψ.Inside → (φ i).Inside)
    (hl : .admission ∈ w.memory.locks → .admission ∈ w'.memory.locks) :
    Locking w' (Function.update φ i ψ) := by
  have hin : ∀ j, (Function.update φ i ψ j).Inside → (φ j).Inside := by
    intro j hj
    rw [Function.update_apply] at hj
    split at hj
    · rename_i hji
      rw [hji]
      exact hψ hj
    · exact hj
  exact ⟨fun j k hj hk => h.unique j k (hin j hj) (hin k hk), fun j hj => hl (h.locked j (hin j hj))⟩

/-- A task that leaves was the only one inside. -/
theorem leave (h : Locking w φ) (hi : (φ i).Inside) (hψ : ¬ ψ.Inside) :
    Locking w' (Function.update φ i ψ) := by
  have hnone : ∀ j, ¬ (Function.update φ i ψ j).Inside := by
    intro j hj
    rw [Function.update_apply] at hj
    split at hj
    · exact hψ hj
    · rename_i hji
      exact hji (h.unique j i hj hi)
  exact ⟨fun j _ hj => absurd hj (hnone j), fun j hj => absurd hj (hnone j)⟩

/-- A task enters only when the lock is free. -/
theorem enter (h : Locking w φ) (hfree : .admission ∉ w.memory.locks) :
    Locking (w.setLocks (.admission :: w.memory.locks)) (Function.update φ i .entered) := by
  have hin : ∀ j, (Function.update φ i .entered j).Inside → j = i := by
    intro j hj
    rw [Function.update_apply] at hj
    split at hj
    · assumption
    · exact absurd (h.locked j hj) hfree
  exact ⟨fun j k hj hk => (hin j hj).trans (hin k hk).symm, fun _ _ => List.mem_cons_self⟩

theorem leaves_inside {φ : Phase} (h : φ.Leaves) : φ.Inside := by
  cases φ <;> trivial

theorem setPen_inside {φ : Phase} {pen : Pen} (h : (φ.setPen pen).Inside) : φ.Inside := by
  cases φ <;> trivial

theorem step {key : String} {χ : Phase} {a : Act} {r : a.Reply} (h : Locking w φ)
    (hχ : φ i = χ) (hs : Phase.Step key χ a r ψ) (hn : next w a r w') :
    Locking w' (Function.update φ i ψ) := by
  have hstay : (ψ.Inside → χ.Inside) →
      (.admission ∈ w.memory.locks → .admission ∈ w'.memory.locks) →
      Locking w' (Function.update φ i ψ) := fun hψ => h.stay (hχ ▸ hψ)
  have hleave : χ.Inside → ¬ ψ.Inside → Locking w' (Function.update φ i ψ) :=
    fun hi => h.leave (hχ ▸ hi)
  cases hs with
  | plain _ _ _ ha => exact hstay id (ha.locked hn)
  | enter =>
    obtain ⟨hfree, rfl⟩ := next_lock.mp hn
    exact h.enter hfree
  | leave _ _ hl => exact hleave (leaves_inside hl) id
  | keep pen => exact hleave trivial id
  | found s _ =>
    obtain ⟨_, rfl⟩ := next_state.mp hn
    exact hstay id id
  | absent s _ =>
    obtain ⟨_, rfl⟩ := next_state.mp hn
    exact hstay id id
  | state _ s _ =>
    obtain ⟨_, rfl⟩ := next_state.mp hn
    exact hstay id id
  | name id =>
    obtain ⟨_, rfl⟩ := next_newId.mp hn
    exact hstay (fun _ => trivial) fun hl => hl
  | newId _ id _ =>
    obtain ⟨_, rfl⟩ := next_newId.mp hn
    exact hstay (fun hi => hi) fun hl => hl
  | reserve id =>
    cases next_effect hn <;> exact hstay (fun _ => trivial) fun hl => hl
  | reload id =>
    cases next_effect hn <;> exact hstay (fun _ => trivial) fun hl => hl
  | busy _ id e =>
    cases next_effect hn <;> exact hstay (fun hi => hi) fun hl => hl
  | release pen =>
    obtain rfl := next_update.mp hn
    exact hstay (fun _ => trivial) fun hl => hl
  | finish pen =>
    obtain rfl := next_update.mp hn
    exact hstay (fun hi => hi) fun hl => hl
  | spawn work _ _ =>
    obtain rfl := next_update.mp hn
    exact hstay (fun _ => trivial) fun hl => hl
  | write _ pen o _ _ =>
    cases next_effect hn <;> exact hstay setPen_inside fun hl => hl
  | lost _ o text =>
    cases next_effect hn <;> exact hstay (fun hi => hi) fun hl => hl
  | put _ o _ _ =>
    obtain rfl := next_update.mp hn
    exact hstay setPen_inside fun hl => hl
  | start pen record _ _ =>
    obtain rfl := next_update.mp hn
    exact hstay (fun _ => trivial) fun hl => hl

end Locking

/-! ## The store -/

/-- Every operation that memory or the disk names was seen, and what memory calls ended is ended on
disk. -/
structure Coherent (w : World) : Prop where
  known : Known w
  remembered : ∀ i o, w.memory.state.operations.get i = some o → i ∈ w.used
  ended : ∀ i o o', w.memory.state.operations.get i = some o → o.state.isTerminal = true →
    w.disk.operations.get i = some o' → o'.state.isTerminal = true

/-- What a pen says of the operation. -/
def Pen.Ok (w : World) (pen : Pen) : Prop :=
  (∀ i, pen.Writes i → i ∈ w.used ∧
    ∀ o, w.memory.state.operations.get i = some o → o.state.isTerminal = false) ∧
  ∀ o, pen = .written o → ∀ o', w.disk.operations.get o.id = some o' → o' = o

structure Holders (w : World) (φ : Nat → Phase) : Prop where
  coherent : Coherent w
  unique : ∀ i j, (φ i).pen.isSome → (φ j).pen.isSome → i = j
  active : ∀ i pen, (φ i).pen = some pen → w.memory.activeOperation = some pen.id
  ok : ∀ i pen, (φ i).pen = some pen → pen.Ok w
  spawnedOne : w.memory.spawned.length ≤ 1
  spawnedActive : ∀ work ∈ w.memory.spawned,
    w.memory.activeOperation = some work.operationId
  spawnedFree : ∀ work ∈ w.memory.spawned, ∀ i, (φ i).pen = none
  spawnedOk : ∀ work ∈ w.memory.spawned, Pen.Ok w (.open work.operationId)
  named : ∀ i id, φ i = .named id → id ∈ w.used ∧ w.memory.state.operations.get id = none ∧
    (∀ j pen, (φ j).pen = some pen → ¬ pen.Writes id) ∧
    ∀ work ∈ w.memory.spawned, work.operationId ≠ id

theorem Frame.coherent {w w' : World} (hf : Frame w w') (h : Coherent w) (hk : Known w') :
    Coherent w' where
  known := hk
  remembered i o hi := hf.used i (h.remembered i o (hf.memory i o hi))
  ended i o o' hi ht hd := h.ended i o o' (hf.memory i o hi) ht (hf.disk i o' hd)

theorem Frame.ok {w w' : World} {pen : Pen} (hf : Frame w w') (h : pen.Ok w) : pen.Ok w' := by
  refine ⟨fun i hi => ?_, fun o ho o' hd => h.2 o ho o' (hf.disk _ o' hd)⟩
  obtain ⟨hu, hlive⟩ := h.1 i hi
  exact ⟨hf.used i hu, fun o ho => hlive o (hf.memory i o ho)⟩

theorem Frame.none {w w' : World} (hf : Frame w w') {id : String}
    (h : w.memory.state.operations.get id = none) : w'.memory.state.operations.get id = none := by
  cases hget : w'.memory.state.operations.get id with
  | none => rfl
  | some o =>
    rw [hf.memory id o hget] at h
    cases h

namespace Holders

variable {w w' : World} {φ : Nat → Phase} {i : Nat} {ψ : Phase}

theorem pen_update {j : Nat} {pen : Pen} (h : (Function.update φ i ψ j).pen = some pen) :
    j = i ∧ ψ.pen = some pen ∨ j ≠ i ∧ (φ j).pen = some pen := by
  rw [Function.update_apply] at h
  split at h
  · rename_i hji
    exact .inl ⟨hji, h⟩
  · rename_i hji
    exact .inr ⟨hji, h⟩

/-- A step that changes nothing the holders depend on. -/
theorem frame (h : Holders w φ) (hf : Frame w w') (hk : Known w') (hpen : ψ.pen = (φ i).pen)
    (hnamed : ∀ id, ψ = .named id → φ i = .named id) : Holders w' (Function.update φ i ψ) := by
  have hsame : ∀ j, (Function.update φ i ψ j).pen = (φ j).pen := by
    intro j
    rw [Function.update_apply]
    split
    · rename_i hji
      rw [hpen, hji]
    · rfl
  have hname : ∀ j id, Function.update φ i ψ j = .named id → φ j = .named id := by
    intro j id hj
    rw [Function.update_apply] at hj
    split at hj
    · rename_i hji
      rw [hji]
      exact hnamed id hj
    · exact hj
  refine
    { coherent := hf.coherent h.coherent hk
      unique := fun j k hj hk => h.unique j k (hsame j ▸ hj) (hsame k ▸ hk)
      active := fun j pen hj => hf.active.trans (h.active j pen (hsame j ▸ hj))
      ok := fun j pen hj => hf.ok (h.ok j pen (hsame j ▸ hj))
      spawnedOne := by rw [hf.spawned]; exact h.spawnedOne
      spawnedActive := fun work hw => ?_
      spawnedFree := fun work hw j => ?_
      spawnedOk := fun work hw => ?_
      named := fun j id hj => ?_ }
  · rw [hf.spawned] at hw
    exact hf.active.trans (h.spawnedActive work hw)
  · rw [hf.spawned] at hw
    exact (hsame j).trans (h.spawnedFree work hw j)
  · rw [hf.spawned] at hw
    exact hf.ok (h.spawnedOk work hw)
  · obtain ⟨hu, hnone, hpens, hworks⟩ := h.named j id (hname j id hj)
    refine ⟨hf.used id hu, hf.none hnone, fun k pen hk => hpens k pen (hsame k ▸ hk), ?_⟩
    rw [hf.spawned]
    exact hworks

/-- In a store that is free nobody holds anything. -/
theorem free (h : Holders w φ) (hfree : w.memory.activeOperation = none) :
    (∀ j, (φ j).pen = none) ∧ w.memory.spawned = [] := by
  constructor
  · intro j
    cases hpen : (φ j).pen with
    | none => rfl
    | some pen =>
      rw [h.active j pen hpen] at hfree
      cases hfree
  · refine List.eq_nil_iff_forall_not_mem.mpr fun work hw => ?_
    rw [h.spawnedActive work hw] at hfree
    cases hfree

/-- A task that holds the store is alone, and nothing is handed over. -/
theorem alone (h : Holders w φ) {pen : Pen} (hpen : (φ i).pen = some pen) :
    (∀ j, j ≠ i → (φ j).pen = none) ∧ w.memory.spawned = [] := by
  constructor
  · intro j hj
    cases hp : (φ j).pen with
    | none => rfl
    | some pen' => exact absurd (h.unique j i (by simp [hp]) (by simp [hpen])) hj
  · refine List.eq_nil_iff_forall_not_mem.mpr fun work hw => ?_
    rw [h.spawnedFree work hw i] at hpen
    cases hpen

/-- A store that nobody holds. -/
theorem idle (hc : Coherent w) (hs : w.memory.spawned = []) (hpen : ∀ j, (φ j).pen = none)
    (hname : ∀ j id, φ j = .named id → id ∈ w.used ∧ w.memory.state.operations.get id = none) :
    Holders w φ where
  coherent := hc
  unique j k hj := by
    rw [hpen] at hj
    cases hj
  active j pen hj := by
    rw [hpen] at hj
    cases hj
  ok j pen hj := by
    rw [hpen] at hj
    cases hj
  spawnedOne := by simp [hs]
  spawnedActive work hw := by simp [hs] at hw
  spawnedFree work hw := by simp [hs] at hw
  spawnedOk work hw := by simp [hs] at hw
  named j id hj := by
    obtain ⟨hu, hnone⟩ := hname j id hj
    refine ⟨hu, hnone, fun k pen hk => ?_, fun work hw => by simp [hs] at hw⟩
    rw [hpen] at hk
    cases hk

/-- One task holds the store. -/
theorem single (pen : Pen) (hc : Coherent w) (hs : w.memory.spawned = [])
    (hactive : w.memory.activeOperation = some pen.id) (hok : pen.Ok w) (hpen : ψ.pen = some pen)
    (halone : ∀ j, j ≠ i → (φ j).pen = none)
    (hname : ∀ j id, j ≠ i → φ j = .named id → id ∈ w.used ∧
      w.memory.state.operations.get id = none ∧ ¬ pen.Writes id) :
    Holders w (Function.update φ i ψ) := by
  have honly : ∀ j pen', (Function.update φ i ψ j).pen = some pen' → j = i ∧ pen' = pen := by
    intro j pen' hj
    obtain ⟨hji, hψ⟩ | ⟨hji, hφ⟩ := pen_update hj
    · rw [hpen] at hψ
      cases hψ
      exact ⟨hji, rfl⟩
    · rw [halone j hji] at hφ
      cases hφ
  refine
    { coherent := hc
      unique := fun j k hj hk => ?_
      active := fun j pen' hj => ?_
      ok := fun j pen' hj => ?_
      spawnedOne := by simp [hs]
      spawnedActive := fun work hw => by simp [hs] at hw
      spawnedFree := fun work hw => by simp [hs] at hw
      spawnedOk := fun work hw => by simp [hs] at hw
      named := fun j id hj => ?_ }
  · obtain ⟨pj, hj⟩ := Option.isSome_iff_exists.mp hj
    obtain ⟨pk, hk⟩ := Option.isSome_iff_exists.mp hk
    rw [(honly j pj hj).1, (honly k pk hk).1]
  · rw [(honly j pen' hj).2]
    exact hactive
  · rw [(honly j pen' hj).2]
    exact hok
  · rw [Function.update_apply] at hj
    split at hj
    · rw [hj] at hpen
      cases hpen
    · rename_i hji
      obtain ⟨hu, hnone, hw⟩ := hname j id hji hj
      refine ⟨hu, hnone, fun k pen' hk => ?_, fun work hwork => by simp [hs] at hwork⟩
      rw [(honly k pen' hk).2]
      exact hw

/-- A fresh id is drawn by a task that holds nothing. -/
theorem name {id : String} (h : Holders w φ) (hid : id ∉ w.used) (hpen : (φ i).pen = none) :
    Holders (w.useId id) (Function.update φ i (.named id)) := by
  have hf : Frame w (w.useId id) :=
    .same rfl rfl rfl rfl fun _ hj => List.mem_cons_of_mem _ hj
  have hk : Known (w.useId id) :=
    h.coherent.known.same rfl rfl fun _ hj => List.mem_cons_of_mem _ hj
  have hout := h.frame (i := i) (ψ := .outside) hf hk hpen.symm (by simp)
  have hpens : ∀ j, (Function.update φ i (.named id) j).pen =
      (Function.update φ i .outside j).pen := by
    intro j
    rw [Function.update_apply, Function.update_apply]
    split <;> rfl
  refine
    { coherent := hout.coherent
      unique := fun j k hj hk => hout.unique j k (hpens j ▸ hj) (hpens k ▸ hk)
      active := fun j pen hj => hout.active j pen (hpens j ▸ hj)
      ok := fun j pen hj => hout.ok j pen (hpens j ▸ hj)
      spawnedOne := hout.spawnedOne
      spawnedActive := hout.spawnedActive
      spawnedFree := fun work hw j => (hpens j).trans (hout.spawnedFree work hw j)
      spawnedOk := hout.spawnedOk
      named := fun j id' hj => ?_ }
  by_cases hji : j = i
  · rw [hji, Function.update_self] at hj
    cases hj
    -- The new id is none of those in use.
    refine ⟨List.mem_cons_self, ?_, fun k pen hk hw => ?_, fun work hw heq => ?_⟩
    · change w.memory.state.operations.get id = none
      cases hget : w.memory.state.operations.get id with
      | none => rfl
      | some o => exact absurd (h.coherent.remembered id o hget) hid
    · obtain ⟨_, hψ⟩ | ⟨_, hφ⟩ := pen_update hk
      · cases hψ
      · exact hid ((h.ok k pen hφ).1 id hw).1
    · exact hid ((h.spawnedOk work hw).1 id heq).1
  · have hj' : Function.update φ i .outside j = .named id' := by
      rw [Function.update_of_ne hji] at hj ⊢
      exact hj
    obtain ⟨hu, hnone, hwrites, hworks⟩ := hout.named j id' hj'
    exact ⟨hu, hnone, fun k pen hk => hwrites k pen (hpens k ▸ hk), hworks⟩

theorem pen_id {pen : Pen} {id : String} (h : pen.Writes id) : pen.id = id := by
  cases pen with
  | «open» i => exact h
  | written o => exact h
  | closed i => exact h.elim

/-- The holder publishes its operation. -/
theorem write {pen : Pen} {o : Operation} (h : Holders w φ) (hpen : (φ i).pen = some pen)
    (hw : pen.Writes o.id) (hψ : ψ.pen = some (.written o)) :
    Holders (w.publish (.operation o)) (Function.update φ i ψ) := by
  obtain ⟨halone, hnil⟩ := h.alone hpen
  obtain ⟨hused, hlive⟩ := (h.ok i pen hpen).1 o.id hw
  have hu : ∀ j ∈ w.used, j ∈ (w.publish (.operation o)).used :=
    fun j hj => List.mem_append_right _ hj
  have hget : ∀ j, (w.publish (.operation o)).disk.operations.get j =
      if j = o.id then some o else w.disk.operations.get j := fun j => Keyed.get_put ..
  refine single (.written o) ?_ hnil ?_ ?_ hψ halone ?_
  · refine ⟨h.coherent.known.publish _, fun j o' hj => hu j (h.coherent.remembered j o' hj), ?_⟩
    intro j o₁ o₂ hm hterminal hd
    rw [hget] at hd
    split at hd
    · rename_i hj
      subst hj
      have hfalse := hlive o₁ hm
      rw [hterminal] at hfalse
      cases hfalse
    · exact h.coherent.ended j o₁ o₂ hm hterminal hd
  · change w.memory.activeOperation = some o.id
    rw [h.active i pen hpen, pen_id hw]
  · refine ⟨fun j hj => ?_, fun o₁ ho₁ o₂ hd => ?_⟩
    · obtain rfl : o.id = j := hj
      exact ⟨hu _ hused, hlive⟩
    · cases ho₁
      rw [hget, if_pos rfl] at hd
      cases hd
      rfl
  · intro j id _ hj
    obtain ⟨hid, hnone, hwrites, _⟩ := h.named j id hj
    refine ⟨hu id hid, hnone, fun heq => hwrites i pen hpen ?_⟩
    obtain rfl : o.id = id := heq
    exact hw

/-- The holder puts its operation into memory. -/
theorem put {o : Operation} (h : Holders w φ) (hpen : (φ i).pen = some (.written o))
    (hψ : ψ.pen = some (.put o)) :
    Holders (w.update (.putOperation o)) (Function.update φ i ψ) := by
  obtain ⟨halone, hnil⟩ := h.alone hpen
  obtain ⟨hwrites, hdisk⟩ := h.ok i _ hpen
  obtain ⟨hused, hlive⟩ := hwrites o.id rfl
  have hget : ∀ j, (w.update (.putOperation o)).memory.state.operations.get j =
      if j = o.id then some o else w.memory.state.operations.get j := fun j => Keyed.get_put ..
  have hput : ∀ j, (Pen.put o).Writes j → j = o.id ∧ o.state.isTerminal = false := by
    intro j hj
    unfold Pen.put at hj
    split at hj
    · exact hj.elim
    · rename_i hterminal
      exact ⟨Eq.symm hj, Bool.eq_false_iff.mpr hterminal⟩
  refine single (.put o) ?_ hnil ?_ ?_ hψ halone ?_
  · refine ⟨h.coherent.known.same rfl rfl fun _ hj => hj, fun j o' hj => ?_, ?_⟩
    · rw [hget] at hj
      split at hj
      · rename_i heq
        rw [heq]
        exact hused
      · exact h.coherent.remembered j o' hj
    · intro j o₁ o₂ hm hterminal hd
      rw [hget] at hm
      split at hm
      · rename_i heq
        cases hm
        subst heq
        rw [hdisk o rfl o₂ hd]
        exact hterminal
      · exact h.coherent.ended j o₁ o₂ hm hterminal hd
  · change w.memory.activeOperation = some (Pen.put o).id
    rw [h.active i _ hpen]
    unfold Pen.put
    split <;> rfl
  · refine ⟨fun j hj => ?_, fun o₁ ho₁ => ?_⟩
    · obtain ⟨rfl, hfalse⟩ := hput j hj
      refine ⟨hused, fun o₁ ho₁ => ?_⟩
      rw [hget, if_pos rfl] at ho₁
      cases ho₁
      exact hfalse
    · unfold Pen.put at ho₁
      split at ho₁ <;> cases ho₁
  · intro j id _ hj
    obtain ⟨hid, hnone, hothers, _⟩ := h.named j id hj
    have hne : id ≠ o.id := fun heq => hothers i _ hpen heq.symm
    refine ⟨hid, ?_, fun heq => hne (hput id heq).1⟩
    rw [hget, if_neg hne]
    exact hnone

/-- The holder gives the store back. -/
theorem release {pen : Pen} (h : Holders w φ) (hpen : (φ i).pen = some pen) (hψ : ψ.pen = none)
    (hname : ∀ id, ψ ≠ .named id) :
    Holders (w.update (.release pen.id)) (Function.update φ i ψ) := by
  obtain ⟨halone, hnil⟩ := h.alone hpen
  refine idle ⟨h.coherent.known.same rfl rfl fun _ hj => hj, h.coherent.remembered,
    h.coherent.ended⟩ hnil ?_ ?_
  · intro j
    rw [Function.update_apply]
    split
    · exact hψ
    · exact halone j (by assumption)
  · intro j id hj
    rw [Function.update_apply] at hj
    split at hj
    · exact absurd hj (hname id)
    · obtain ⟨hu, hnone, _⟩ := h.named j id hj
      exact ⟨hu, hnone⟩

/-- The holder hands its transaction over. -/
theorem spawn {work : TransactionWork} (h : Holders w φ)
    (hpen : (φ i).pen = some (.open work.operationId)) (hψ : ψ.pen = none)
    (hname : ∀ j id, Function.update φ i ψ j ≠ .named id) :
    Holders (w.update (.spawn work)) (Function.update φ i ψ) := by
  obtain ⟨halone, hnil⟩ := h.alone hpen
  have hone : (w.update (.spawn work)).memory.spawned = [work] := by
    change w.memory.spawned ++ [work] = [work]
    rw [hnil]
    rfl
  have hnone : ∀ j, (Function.update φ i ψ j).pen = none := by
    intro j
    rw [Function.update_apply]
    split
    · exact hψ
    · exact halone j (by assumption)
  have hpenless : ∀ j pen, (Function.update φ i ψ j).pen ≠ some pen := by
    intro j pen hj
    rw [hnone] at hj
    cases hj
  refine
    { coherent := ⟨h.coherent.known.same rfl rfl fun _ hj => hj, h.coherent.remembered,
        h.coherent.ended⟩
      unique := fun j k hj _ => ?_
      active := fun j pen hj => absurd hj (hpenless j pen)
      ok := fun j pen hj => absurd hj (hpenless j pen)
      spawnedOne := by simp [hone]
      spawnedActive := fun work' hw => ?_
      spawnedFree := fun _ _ j => hnone j
      spawnedOk := fun work' hw => ?_
      named := fun j id hj => absurd hj (hname j id) }
  · rw [hnone] at hj
    cases hj
  · rw [hone] at hw
    obtain rfl := List.mem_singleton.mp hw
    exact h.active i _ hpen
  · rw [hone] at hw
    obtain rfl := List.mem_singleton.mp hw
    exact h.ok i _ hpen

theorem setPen_pen {χ : Phase} {pen pen' : Pen} (h : χ.pen = some pen) :
    (χ.setPen pen').pen = some pen' := by
  cases χ <;> first | rfl | cases h

/-- A task that is inside is the only one that may have drawn an id. -/
theorem only_named (hl : Locking w φ) (hi : (φ i).Inside) {j : Nat} {id : String} (hj : j ≠ i) :
    φ j ≠ .named id := by
  intro hnamed
  exact hj (hl.unique j i (by rw [hnamed]; trivial) hi)

theorem step {key : String} {χ : Phase} {a : Act} {r : a.Reply} (h : Holders w φ)
    (hl : Locking w φ) (hχ : φ i = χ) (hs : Phase.Step key χ a r ψ) (hn : next w a r w') :
    Holders w' (Function.update φ i ψ) := by
  have hk : Known w' := h.coherent.known.next hn
  have hframe : Frame w w' → ψ.pen = χ.pen → (∀ id, ψ = .named id → χ = .named id) →
      Holders w' (Function.update φ i ψ) := by
    intro hf hpen hname
    exact h.frame hf hk (by rw [hχ]; exact hpen) (by rw [hχ]; exact hname)
  cases hs with
  | plain _ _ _ ha => exact hframe (ha.frame hn) rfl fun _ hid => hid
  | enter =>
    obtain ⟨_, rfl⟩ := next_lock.mp hn
    exact hframe (.same rfl rfl rfl rfl fun _ hj => hj) rfl (by simp)
  | leave _ _ hleaves =>
    obtain rfl := next_unlock.mp hn
    refine hframe (.same rfl rfl rfl rfl fun _ hj => hj) ?_ (by simp)
    cases χ <;> first | rfl | exact hleaves.elim
  | keep pen =>
    obtain rfl := next_unlock.mp hn
    exact hframe (.same rfl rfl rfl rfl fun _ hj => hj) rfl (by simp)
  | found s _ =>
    obtain ⟨_, rfl⟩ := next_state.mp hn
    exact hframe (.refl _) rfl (by simp)
  | absent s _ =>
    obtain ⟨_, rfl⟩ := next_state.mp hn
    exact hframe (.refl _) rfl (by simp)
  | state _ s _ =>
    obtain ⟨_, rfl⟩ := next_state.mp hn
    exact hframe (.refl _) rfl fun _ hid => hid
  | name id =>
    obtain ⟨hid, rfl⟩ := next_newId.mp hn
    exact h.name hid (by rw [hχ]; rfl)
  | newId _ id _ =>
    obtain ⟨_, rfl⟩ := next_newId.mp hn
    exact hframe (.same rfl rfl rfl rfl fun _ hj => List.mem_cons_of_mem _ hj) rfl fun _ hid => hid
  | reserve id =>
    obtain ⟨_, hfree, rfl⟩ | ⟨⟨e, he⟩, _⟩ := next_reserve hn
    · obtain ⟨hnone, hnil⟩ := h.free hfree
      obtain ⟨hu, hget, _⟩ := h.named i id hχ
      refine single (.open id) ⟨hk, h.coherent.remembered, h.coherent.ended⟩ hnil rfl ?_ rfl
        (fun j _ => hnone j) fun j id' hj hnamed => ?_
      · refine ⟨fun j hj => ?_, fun o ho => by cases ho⟩
        obtain rfl : id = j := hj
        refine ⟨hu, fun o ho => ?_⟩
        change w.memory.state.operations.get id = some o at ho
        rw [hget] at ho
        cases ho
      · exact absurd hnamed (only_named hl (by rw [hχ]; trivial) hj)
    · cases he
  | reload id =>
    obtain ⟨_, hfree, rfl⟩ | ⟨⟨e, he⟩, _⟩ := next_reserve hn
    · obtain ⟨hnone, hnil⟩ := h.free hfree
      refine single (.closed id) ⟨hk, h.coherent.remembered, h.coherent.ended⟩ hnil rfl ?_
        rfl (fun j _ => hnone j) fun j id' hj hnamed => ?_
      · exact ⟨fun j hj => hj.elim, fun o ho => by cases ho⟩
      · exact absurd hnamed (only_named hl (by rw [hχ]; trivial) hj)
    · cases he
  | busy _ id e =>
    obtain ⟨he, _⟩ | ⟨_, rfl⟩ := next_reserve hn
    · cases he
    · exact hframe (.refl _) rfl fun _ hid => hid
  | release pen =>
    obtain rfl := next_update.mp hn
    exact h.release (by rw [hχ]; rfl) rfl (by simp)
  | finish pen =>
    obtain rfl := next_update.mp hn
    exact h.release (by rw [hχ]; rfl) rfl (by simp)
  | spawn work _ _ =>
    obtain rfl := next_update.mp hn
    refine h.spawn (by rw [hχ]; rfl) rfl fun j id hj => ?_
    rw [Function.update_apply] at hj
    split at hj
    · cases hj
    · exact only_named hl (by rw [hχ]; trivial) (by assumption) hj
  | write _ pen o hpen hw =>
    obtain ⟨_, rfl⟩ | ⟨⟨text, ht⟩, _⟩ := next_rename.mp hn
    · exact h.write (by rw [hχ]; exact hpen) hw (setPen_pen hpen)
    · cases ht
  | lost _ o text =>
    obtain ⟨ht, _⟩ | ⟨_, rfl⟩ := next_rename.mp hn
    · cases ht
    · exact hframe (.refl _) rfl fun _ hid => hid
  | put _ o _ hpen =>
    obtain rfl := next_update.mp hn
    exact h.put (by rw [hχ]; exact hpen) (setPen_pen hpen)
  | start pen record _ _ =>
    obtain rfl := next_update.mp hn
    exact hframe (.same rfl rfl rfl rfl fun _ hj => hj) rfl (by simp)

end Holders

/-! ## The keys -/

/-- The key under which a task looks its request up. -/
def Task.key (task : Task) : String := (task.job.key env).getD ""

structure Keys (s : System) (φ : Nat → Phase) : Prop where
  cleared : ∀ i task, s.tasks i = some task → (φ i).Cleared → task.key env ∉ s.started
  retained : ∀ key ∈ s.started, Retained s.world.memory.state key
  nodup : s.started.Nodup

theorem Phase.Cleared.inside {φ : Phase} (h : φ.Cleared) : φ.Inside := by
  cases φ <;> trivial

theorem setPen_cleared {φ : Phase} {pen : Pen} (h : (φ.setPen pen).Cleared) : φ.Cleared := by
  cases φ <;> exact h

/-- An action that starts work does so for the key of its task, which is still free. -/
theorem starts_cleared {key : String} {χ ψ : Phase} {a : Act} {r : a.Reply} {started : String}
    (hs : Phase.Step key χ a r ψ) (ha : a.starts = some started) :
    started = key ∧ χ.Cleared ∧ ¬ ψ.Cleared := by
  cases hs with
  | plain _ _ _ hp =>
    cases a with
    | update u =>
      cases u with
      | putIdempotency record =>
        have hp : record.unresolved = false := hp
        simp [Act.starts, hp] at ha
      | spawn work => exact hp.elim
      | _ => cases ha
    | _ => cases ha
  | spawn work _ hkey =>
    cases ha
    exact ⟨hkey, trivial, id⟩
  | start pen record _ hkey =>
    simp only [Act.starts] at ha
    split at ha
    · cases ha
      exact ⟨hkey, trivial, id⟩
    · cases ha
  | _ => cases ha

/-- A task becomes clear only by a lookup that does not find its key. -/
theorem step_cleared {key : String} {χ ψ : Phase} {a : Act} {r : a.Reply} {w w' : World}
    (hs : Phase.Step key χ a r ψ) (hn : next w a r w') (hψ : ψ.Cleared) :
    χ.Cleared ∨ ¬ Retained w.memory.state key := by
  cases hs with
  | absent s hs =>
    obtain ⟨rfl, _⟩ := next_state.mp hn
    exact .inr hs
  | write _ _ _ _ _ => exact .inl (setPen_cleared hψ)
  | put _ _ _ _ => exact .inl (setPen_cleared hψ)
  | name id => exact .inl trivial
  | reserve id => exact .inl trivial
  | reload id => exact .inl trivial
  | plain _ _ _ _ => exact .inl hψ
  | state _ _ _ => exact .inl hψ
  | newId _ _ _ => exact .inl hψ
  | busy _ _ _ => exact .inl hψ
  | lost _ _ _ => exact .inl hψ
  | enter _ => exact hψ.elim
  | leave _ _ _ => exact hψ.elim
  | keep _ _ => exact hψ.elim
  | found _ _ => exact hψ.elim
  | release _ _ => exact hψ.elim
  | finish _ _ => exact hψ.elim
  | spawn _ _ _ => exact hψ.elim
  | start _ _ _ _ => exact hψ.elim

theorem Task.after_job (task : Task) (rest : Agent Answer) (a : Act) (r : a.Reply) :
    (task.after rest a r).job = task.job := by
  unfold Task.after
  split <;> rfl

theorem Task.after_rest (task : Task) (rest : Agent Answer) (a : Act) (r : a.Reply) :
    (task.after rest a r).rest = rest := by
  unfold Task.after
  split <;> rfl

theorem Keys.step {s : System} {φ : Nat → Phase} {i : Nat} {task : Task} {a : Act} {r : a.Reply}
    {k : a.Reply → Agent Answer} {w : World} {χ ψ : Phase} (h : Keys env s φ)
    (hl : Locking s.world φ) (htask : s.tasks i = some task) (hχ : φ i = χ)
    (hs : Phase.Step (task.key env) χ a r ψ) (hn : next s.world a r w) :
    Keys env { s.set i (task.after (k r) a r) with
      world := w
      started := (s.started ++ a.starts.toList).filter
        fun key => decide (Retained w.memory.state key) } (Function.update φ i ψ) := by
  have hjob : (task.after (k r) a r).key env = task.key env := by
    unfold Task.key
    rw [Task.after_job]
  constructor
  · intro j task' hj hcleared hstarted
    have hmem : task'.key env ∈ s.started ++ a.starts.toList := (List.mem_filter.mp hstarted).1
    rw [Function.update_apply] at hcleared
    by_cases hji : j = i
    · subst hji
      rw [if_pos rfl] at hcleared
      have htask' : task' = task.after (k r) a r := by
        simpa [System.set] using hj.symm
      subst htask'
      rw [hjob] at hmem
      rcases List.mem_append.mp hmem with hmem | hmem
      · rcases step_cleared hs hn hcleared with hc | hc
        · exact h.cleared j task htask (hχ ▸ hc) hmem
        · exact hc (h.retained _ hmem)
      · exact (starts_cleared hs (Option.mem_toList.mp hmem)).2.2 hcleared
    · rw [if_neg hji] at hcleared
      have hj' : s.tasks j = some task' := by
        simpa [System.set, Function.update_of_ne hji] using hj
      rcases List.mem_append.mp hmem with hmem | hmem
      · exact h.cleared j task' hj' hcleared hmem
      · -- Work is started inside of the lock, so no other task is clear.
        obtain ⟨_, hc, _⟩ := starts_cleared hs (Option.mem_toList.mp hmem)
        exact hji (hl.unique j i hcleared.inside (hχ ▸ hc.inside))
  · intro key hmem
    exact of_decide_eq_true (List.mem_filter.mp hmem).2
  · refine List.Nodup.filter _ (List.nodup_append.mpr ⟨h.nodup, ?_, ?_⟩)
    · cases a.starts <;> simp
    · intro key hkey key' hkey' heq
      subst heq
      obtain ⟨rfl, hc, _⟩ := starts_cleared hs (Option.mem_toList.mp hkey')
      exact h.cleared i task htask (hχ ▸ hc) hkey

/-! ## Every state of the agent -/

/-- The phase in which a task begins. -/
def Job.phase : Job → Phase
  | .call _ => .outside
  | .transaction work => .working (.open work.operationId)

/-- Every program of the agent keeps to the phases. -/
theorem phase_program (job : Job) :
    (phases ((job.key env).getD "")).Safe (job.program env) (fun _ ψ => ψ = .outside)
      job.phase := by
  cases job with
  | call c =>
    cases c with
    | plan r =>
      refine Rules.safe_map.mpr (safe_keeps ?_ fun _ => rfl)
      exact (createPlan_calm env r).mono fun _ ha => ha.keeps (by simp [Job.phase]) (by simp [Job.phase])
    | mutation m => exact Rules.safe_map.mpr (Rules.safe_run.mpr (phase_accept env rfl))
    | reload r => exact Rules.safe_map.mpr (Rules.safe_run.mpr (phase_runtimeReload env rfl))
  | transaction work =>
    refine Rules.safe_bind.mpr (phase_executeTransaction env ?_)
    exact ⟨_, rfl, rfl⟩

structure Invariant (s : System) (φ : Nat → Phase) : Prop where
  locking : Locking s.world φ
  holders : Holders s.world φ
  keys : Keys env s φ
  tasks : ∀ i task, s.tasks i = some task →
    (phases (task.key env)).Safe task.rest (fun _ ψ => ψ = .outside) (φ i) ∧
      task.holding = (φ i).pen.isSome
  idle : ∀ i, s.tasks i = none → φ i = .outside
  down : s.up = false → s.world.memory = .empty ∧ ∀ i, s.tasks i = none

section Invariants

variable {env} {s t : System} {φ : Nat → Phase}

theorem outside_locking (w : World) : Locking w fun _ => .outside :=
  ⟨fun _ _ h => h.elim, fun _ h => h.elim⟩

/-- An agent without tasks. -/
theorem Invariant.fresh {up : Bool} {w : World} (hc : Coherent w) (hs : w.memory.spawned = [])
    (hdown : up = false → w.memory = .empty) :
    Invariant env ⟨up, w, fun _ => none, []⟩ fun _ => .outside where
  locking := outside_locking w
  holders := .idle hc hs (fun _ => rfl) (by simp)
  keys := ⟨by simp, by simp, by simp⟩
  tasks i task h := by cases h
  idle _ _ := rfl
  down h := ⟨hdown h, fun _ => rfl⟩

theorem Coherent.crash {w : World} (h : Known w) : Coherent w.crash where
  known := h.same rfl rfl fun _ hi => hi
  remembered i o hi := by
    change (Keyed.empty : Operations).get i = some o at hi
    rw [Keyed.get_empty] at hi
    cases hi
  ended i o o' hi := by
    change (Keyed.empty : Operations).get i = some o at hi
    rw [Keyed.get_empty] at hi
    cases hi

theorem known_passes {α : Type} {p : Agent α} {w w' : World} (h : Known w)
    (hp : Passes next p w w') : Known w' ∧ ∀ i ∈ w.used, i ∈ w'.used := by
  refine hp.invariant (P := fun t => Known t ∧ ∀ i ∈ w.used, i ∈ t.used) ⟨h, fun _ hi => hi⟩ ?_
  rintro t a r t' ⟨ht, hu⟩ hn
  refine ⟨ht.next hn, fun i hi => ?_⟩
  cases next_effect hn with
  | newId id _ => exact List.mem_cons_of_mem _ (hu i hi)
  | rename e => exact List.mem_append_right _ (hu i hi)
  | _ => exact hu i hi

/-- A store that was opened over an agent that had stopped. -/
theorem Coherent.opened {w w' : World} {es : List (Event Act Act.Reply World)} (h : Known w)
    (he : Eval next (openStore env).run w es (.ok ()) w') : Coherent w' := by
  have ho : Opened w w' := eval_ok (Q := fun _ t => Opened w t) (tries_openStore env) he
  obtain ⟨hk, hu⟩ := known_passes h he.ends
  refine ⟨hk, fun i o hi => ?_, fun i o o' hi ht hd => ?_⟩
  · have hcarried := ho.remembered i
    rw [hi] at hcarried
    cases hget : w.disk.operations.get i with
    | none =>
      have habsent := hcarried.absent hget
      cases habsent
    | some o₀ => exact hu i (h.operations i o₀ hget)
  · rw [← ho.agrees i o o' hi hd]
    exact ht

theorem Task.after_plain {task : Task} {rest : Agent Answer} {a : Act} {r : a.Reply}
    (h : a.plain) : (task.after rest a r).holding = task.holding := by
  cases a with
  | reserve id => exact h.elim
  | update u =>
    cases u with
    | release id => exact h.elim
    | spawn work => exact h.elim
    | _ => rfl
  | _ => rfl

/-- The ghost of a task says whether its phase holds the store. -/
theorem Task.after_holding {task : Task} {rest : Agent Answer} {key : String} {a : Act}
    {r : a.Reply} {χ ψ : Phase} (hs : Phase.Step key χ a r ψ)
    (h : task.holding = χ.pen.isSome) :
    (task.after rest a r).holding = ψ.pen.isSome := by
  cases hs with
  | plain _ _ _ ha => exact (Task.after_plain ha).trans h
  | leave _ _ hl =>
    refine h.trans ?_
    cases χ <;> first | rfl | exact hl.elim
  | write _ pen o hpen _ =>
    refine h.trans ?_
    rw [hpen, Holders.setPen_pen hpen]
    rfl
  | put _ o _ hpen =>
    refine h.trans ?_
    rw [hpen, Holders.setPen_pen hpen]
    rfl
  | reserve id => rfl
  | reload id => rfl
  | release pen _ => rfl
  | finish pen _ => rfl
  | spawn work _ _ => rfl
  | _ => exact h

/-- A new task at a free index. -/
theorem Invariant.add {i : Nat} {w : World} (job : Job) (h : Invariant env s φ)
    (hup : s.up = true) (hl : Locking w (Function.update φ i job.phase))
    (hh : Holders w (Function.update φ i job.phase))
    (hstate : w.memory.state = s.world.memory.state) :
    Invariant env { s.set i (.start env job) with world := w }
      (Function.update φ i job.phase) := by
  have htasks : ∀ j task, (s.set i (.start env job)).tasks j = some task →
      j = i ∧ task = .start env job ∨ j ≠ i ∧ s.tasks j = some task := by
    intro j task hj
    simp only [System.set, Function.update_apply] at hj
    split at hj
    · rename_i hji
      exact .inl ⟨hji, (Option.some.inj hj).symm⟩
    · rename_i hji
      exact .inr ⟨hji, hj⟩
  refine ⟨hl, hh, ⟨fun j task hj hc => ?_, fun key hkey => ?_, h.keys.nodup⟩, fun j task hj => ?_,
    fun j hj => ?_, fun hdown => ?_⟩
  · obtain ⟨rfl, rfl⟩ | ⟨hji, hj⟩ := htasks j task hj
    · rw [Function.update_self] at hc
      cases job <;> exact hc.elim
    · rw [Function.update_of_ne hji] at hc
      exact h.keys.cleared j task hj hc
  · change Retained w.memory.state key
    rw [hstate]
    exact h.keys.retained key hkey
  · obtain ⟨rfl, rfl⟩ | ⟨hji, hj⟩ := htasks j task hj
    · rw [Function.update_self]
      refine ⟨phase_program env job, ?_⟩
      cases job <;> rfl
    · rw [Function.update_of_ne hji]
      exact h.tasks j task hj
  · simp only [System.set, Function.update_apply] at hj ⊢
    split at hj
    · cases hj
    · rename_i hji
      rw [if_neg hji]
      exact h.idle j hj
  · rw [show s.up = false from hdown] at hup
    cases hup

/-- A transaction that was handed over is taken by its own task. -/
theorem Holders.begin {w : World} {i : Nat} {work : TransactionWork} (h : Holders w φ)
    (hwork : work ∈ w.memory.spawned) :
    Holders (w.begin work) (Function.update φ i (.working (.open work.operationId))) := by
  have hone : w.memory.spawned = [work] := by
    cases hs : w.memory.spawned with
    | nil => simp [hs] at hwork
    | cons first rest =>
      have hlen := h.spawnedOne
      rw [hs] at hlen hwork
      cases rest with
      | nil => rw [List.mem_singleton.mp hwork]
      | cons second rest => simp at hlen
  refine .single (.open work.operationId) ⟨h.coherent.known.same rfl rfl fun _ hj => hj,
    h.coherent.remembered, h.coherent.ended⟩ ?_ (h.spawnedActive work hwork) (h.spawnedOk work hwork) rfl
    (fun j _ => h.spawnedFree work hwork j) fun j id _ hj => ?_
  · change w.memory.spawned.erase work = []
    rw [hone]
    simp
  · obtain ⟨hu, hnone, _, hworks⟩ := h.named j id hj
    exact ⟨hu, hnone, hworks work hwork⟩

/-- A new request. -/
theorem Invariant.call {i : Nat} (c : Call) (h : Invariant env s φ) (hup : s.up = true)
    (hfree : s.tasks i = none) : Invariant env (s.set i (.start env (.call c))) φ := by
  have hsame : Function.update φ i .outside = φ := by
    rw [← h.idle i hfree]
    exact Function.update_eq_self i φ
  have hadd : Invariant env (s.set i (.start env (.call c))) (Function.update φ i .outside) := by
    refine h.add (.call c) hup ?_ ?_ rfl
    · change Locking s.world (Function.update φ i .outside)
      rw [hsame]
      exact h.locking
    · change Holders s.world (Function.update φ i .outside)
      rw [hsame]
      exact h.holders
  rwa [hsame] at hadd

/-- A task acts, and its phase moves on. -/
theorem Invariant.act {i : Nat} {task : Task} {a : Act} {k : a.Reply → Agent Answer}
    {r : a.Reply} {w : World} (h : Invariant env s φ) (htask : s.tasks i = some task)
    (hrest : task.rest = .act a k) (hn : next s.world a r w) :
    ∃ χ, Phase.Step (task.key env) (φ i) a r χ ∧
      Invariant env { s.set i (task.after (k r) a r) with
        world := w
        started := (s.started ++ a.starts.toList).filter
          fun key => decide (Retained w.memory.state key) } (Function.update φ i χ) := by
  obtain ⟨hsafe, hholding⟩ := h.tasks i task htask
  rw [hrest] at hsafe
  obtain ⟨χ, hs, hsafe⟩ := hsafe r
  refine ⟨χ, hs, h.locking.step rfl hs hn, h.holders.step h.locking rfl hs hn,
    h.keys.step env h.locking htask rfl hs hn, fun j task' hj => ?_, fun j hj => ?_,
    fun hdown => ?_⟩
  · simp only [System.set, Function.update_apply] at hj ⊢
    split at hj
    · rename_i hji
      rw [if_pos hji]
      cases hj
      refine ⟨?_, Task.after_holding hs hholding⟩
      unfold Task.key
      rw [Task.after_rest, Task.after_job]
      exact hsafe
    · rename_i hji
      rw [if_neg hji]
      exact h.tasks j task' hj
  · simp only [System.set, Function.update_apply] at hj ⊢
    split at hj
    · cases hj
    · rename_i hji
      rw [if_neg hji]
      exact h.idle j hj
  · rw [(h.down hdown).2 i] at htask
    cases htask

/-- A transaction that was handed over begins. -/
theorem Invariant.begin {i : Nat} {work : TransactionWork} (h : Invariant env s φ)
    (hwork : work ∈ s.world.memory.spawned) :
    Invariant env { s.set i (.start env (.transaction work)) with world := s.world.begin work }
      (Function.update φ i (.working (.open work.operationId))) := by
  have hup : s.up = true := by
    cases hs : s.up with
    | true => rfl
    | false =>
      rw [(h.down hs).1] at hwork
      cases hwork
  refine h.add (.transaction work) hup ?_ (h.holders.begin hwork) rfl
  exact h.locking.stay (fun hi => hi.elim) fun hl => hl

theorem Invariant.next {m : Move} (h : Invariant env s φ) (hn : System.Next env s m t) :
    ∃ ψ, Invariant env t ψ := by
  cases hn with
  | call i c hup hfree => exact ⟨φ, h.call c hup hfree⟩
  | act i htask hrest hn =>
    obtain ⟨_, _, ht⟩ := h.act htask hrest hn
    exact ⟨_, ht⟩
  | begin i work hfree hwork => exact ⟨_, h.begin hwork⟩
  | crash => exact ⟨_, .fresh (.crash h.holders.coherent.known) rfl fun _ => rfl⟩
  | stopped hdown hopen =>
    have hknown := (known_passes h.holders.coherent.known hopen).1
    exact ⟨_, .fresh (.crash hknown) rfl fun _ => rfl⟩
  | opened hdown hopen =>
    refine ⟨_, .fresh (.opened h.holders.coherent.known hopen) ?_ (by simp)⟩
    have ho : Opened s.world _ :=
      eval_ok (Q := fun _ t => Opened s.world t) (tries_openStore env) hopen
    rw [ho.spawned, (h.down hdown).1]
    rfl

theorem Invariant.init (env : Env) (config : Option Bytes) :
    ∃ φ, Invariant env (.init config) φ := by
  have hempty : ∀ i, (Keyed.empty : Operations).get i = none := Keyed.get_empty
  refine ⟨_, .fresh ⟨⟨fun i o hi => ?_, fun k a hk => ?_⟩, fun i o hi => ?_, fun i o o' hi => ?_⟩
    rfl fun _ => rfl⟩
  · change (Keyed.empty : Operations).get i = some o at hi
    rw [hempty] at hi
    cases hi
  · change (Keyed.empty : AuditRecords).get k = some a at hk
    rw [Keyed.get_empty] at hk
    cases hk
  · change (Keyed.empty : Operations).get i = some o at hi
    rw [hempty] at hi
    cases hi
  · change (Keyed.empty : Operations).get i = some o at hi
    rw [hempty] at hi
    cases hi

/-- Every state of the agent that can be reached has phases for its tasks. -/
theorem System.Reached.invariant {config : Option Bytes} (h : System.Reached env config s) :
    ∃ φ, Invariant env s φ :=
  Reachable.invariant (P := fun s => ∃ φ, Invariant env s φ) h (Invariant.init env config)
    fun _ _ _ ⟨_, hs⟩ hn => hs.next hn

end Invariants

end Starry.ConfigStore
