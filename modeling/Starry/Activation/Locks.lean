import Starry.Activation.Steps

/-!
# One task at a time for each peer

The lock table may drop a mutex, but only one that no task has a clone of. So all tasks of one
peer queue for the same mutex, and at most one of them holds it.
-/

open Library

namespace Starry.Activation

structure LockInv (s : System) : Prop where
  /-- A referenced mutex is still the one in the table. -/
  table : ∀ τ ∈ s.tasks, ∀ p m, τ.reference = some (p, m) → s.registry.peerLocks.get p = some m
  exclusive : ∀ (i j : Nat) (m : LockId) (τ τ' : Task), s.tasks[i]? = some τ →
    s.tasks[j]? = some τ' → τ.holds m = true → τ'.holds m = true → i = j

/-- The peer of a task that is past its mutex. -/
def Task.current : Task → Option String
  | .holding _ phase => some phase.peerId
  | .stored _ c => some c.peerId
  | .waiting .. | .finished _ => none

theorem Task.current_holds {τ : Task} {p : String} (h : τ.current = some p) :
    ∃ m, τ.reference = some (p, m) ∧ τ.holds m = true := by
  cases τ with
  | holding m φ => exact ⟨m, by cases h; rfl, by simp [Task.holds]⟩
  | stored m c => exact ⟨m, by cases h; rfl, by simp [Task.holds]⟩
  | waiting | finished => cases h

theorem LockInv.one_current {s : System} (h : LockInv s) {i j : Nat} {τ τ' : Task} {p : String}
    (hi : s.tasks[i]? = some τ) (hj : s.tasks[j]? = some τ') (hp : τ.current = some p)
    (hp' : τ'.current = some p) : i = j := by
  obtain ⟨m, hr, hm⟩ := Task.current_holds hp
  obtain ⟨n, hr', hn⟩ := Task.current_holds hp'
  have h1 := h.table τ (List.mem_of_getElem? hi) p m hr
  have h2 := h.table τ' (List.mem_of_getElem? hj) p n hr'
  rw [h1] at h2
  obtain rfl := Option.some.inj h2
  exact h.exclusive i j m τ τ' hi hj hm hn

theorem LockInv.one_holder {s : System} (h : LockInv s) {i j : Nat} {m n : LockId} {φ ψ : Phase}
    (hi : s.tasks[i]? = some (.holding m φ)) (hj : s.tasks[j]? = some (.holding n ψ))
    (hp : φ.peerId = ψ.peerId) : i = j :=
  h.one_current hi hj (congrArg some hp) rfl

section

variable {sha256 : Bytes → Bytes} {s t : System} {l : Step}

/-- A step is an arrival, or it moves at most one task, which takes no new mutex. -/
theorem step_tasks (h : s.step sha256 l = some t) :
    (∃ c, l = .call c ∧ t = s.arrive c) ∨
    t.registry.peerLocks = s.registry.peerLocks ∧
      (t.tasks = s.tasks ∨ ∃ i τ τ', s.tasks[i]? = some τ ∧ t.tasks = s.tasks.set i τ' ∧
        (τ'.reference = none ∨ τ'.reference = τ.reference) ∧
        ∀ c, τ'.pending = some c → τ.pending = some c) := by
  cases l with
  | call c =>
    cases h
    exact .inl ⟨c, rfl, rfl⟩
  | lock i =>
    right
    simp only [System.step] at h
    split at h
    · rename_i m c hi
      split at h
      · cases h
      · cases h
        exact ⟨rfl, .inr ⟨i, _, _, hi, rfl, .inr rfl, fun _ hc => hc⟩⟩
    · cases h
  | proceed i now random =>
    right
    obtain ⟨m, φ, φ', r, hi, hm, rfl⟩ | ⟨m, φ, o, r, hi, he, rfl⟩ | ⟨m, c, hi, rfl⟩ :=
      proceed_cases h
    · refine ⟨hm.peerLocks, .inr ⟨i, _, _, hi, rfl, .inr ?_, fun _ hc => hm.pending hc⟩⟩
      simp only [Task.reference, hm.peerId]
    · exact ⟨he.peerLocks, .inr ⟨i, _, _, hi, rfl, .inl rfl, by rintro _ ⟨⟩⟩⟩
    · exact ⟨by simp [System.update], .inr ⟨i, _, _, hi, rfl, .inl rfl, by rintro _ ⟨⟩⟩⟩
  | commitActivation i route now =>
    right
    simp only [System.step] at h
    split at h
    · rename_i m c hi
      cases h
      refine ⟨?_, .inr ⟨i, _, _, hi, rfl, ?_, ?_⟩⟩
      · simp only [System.update, ActivationClaim.commit]
        split <;> rfl
      · split
        · exact .inr rfl
        · exact .inl rfl
      · intro _ hc
        split at hc <;> cases hc
    · cases h
  | commitRenewal i route now =>
    right
    simp only [System.step] at h
    split at h
    · rename_i m c hi
      cases h
      refine ⟨?_, .inr ⟨i, _, _, hi, rfl, .inl rfl, by rintro _ ⟨⟩⟩⟩
      simp only [System.update, RenewalClaim.commit]
      split <;> rfl
    · cases h
  | commitDeactivation i b now =>
    right
    simp only [System.step] at h
    split at h
    · rename_i m c hi
      cases h
      refine ⟨?_, .inr ⟨i, _, _, hi, rfl, .inl rfl, by rintro _ ⟨⟩⟩⟩
      simp only [System.update, DeactivationClaim.commit]
      split <;> rfl
    · cases h
  | drop i =>
    right
    simp only [System.step] at h
    split at h
    · rename_i m φ hi
      cases h
      exact ⟨by simp [System.update], .inr ⟨i, _, _, hi, rfl, .inl rfl, by rintro _ ⟨⟩⟩⟩
    · rename_i m c hi
      cases h
      exact ⟨rfl, .inr ⟨i, _, _, hi, rfl, .inl rfl, by rintro _ ⟨⟩⟩⟩
    · cases h
  | disconnectWebsocketRoutesNow routes now =>
    right
    cases h
    refine ⟨?_, .inl rfl⟩
    simp only [Registry.disconnectWebsocketRoutesNow]
    induction routes generalizing s with
    | nil => rfl
    | cons route routes ih =>
      exact (ih (s := { s with registry :=
        s.registry.disconnectRoute route.1 (.webSocket route.2.1 route.2.2) now }))
  | nextRouteGeneration =>
    right
    cases h
    exact ⟨rfl, .inl rfl⟩

/-- A mutex that some task has a clone of survives the pruning. -/
theorem prunedLocks_get (h : LockInv s) {τ : Task} (hτ : τ ∈ s.tasks) {p : String} {m : LockId}
    (hr : τ.reference = some (p, m)) : s.prunedLocks.get p = some m := by
  have hg := h.table τ hτ p m hr
  unfold System.prunedLocks
  split
  · have hc : s.strongCount m > 1 := by
      have hmem : τ ∈ s.tasks.filter fun t => decide (t.reference.map Prod.snd = some m) := by
        simp [hτ, hr]
      have := List.length_pos_of_mem hmem
      simp only [System.strongCount]
      omega
    simp [hg, hc]
  · exact hg

theorem arrive_lockInv (h : LockInv s) (c : Call) : LockInv (s.arrive c) := by
  -- The arriving task holds nothing, so only its reference to the table is new.
  have hexcl : ∀ (σ : Task) (i j : Nat) (m : LockId) (τ τ' : Task), (∀ m, σ.holds m = false) →
      (s.tasks ++ [σ])[i]? = some τ → (s.tasks ++ [σ])[j]? = some τ' → τ.holds m = true →
      τ'.holds m = true → i = j := by
    intro σ i j m τ τ' hσ hi hj hm hm'
    have hold : ∀ (k : Nat) (τ : Task), (s.tasks ++ [σ])[k]? = some τ → τ.holds m = true →
        s.tasks[k]? = some τ := by
      intro k τ hk hm
      rcases Nat.lt_or_ge k s.tasks.length with hlt | hge
      · rwa [List.getElem?_append_left hlt] at hk
      · rw [List.getElem?_append_right hge, List.getElem?_singleton] at hk
        split at hk
        · rw [← Option.some.inj hk, hσ m] at hm
          cases hm
        · cases hk
    exact h.exclusive i j m τ τ' (hold i τ hi hm) (hold j τ' hj hm') hm hm'
  unfold System.arrive
  split
  · refine ⟨?_, fun i j m τ τ' => hexcl _ i j m τ τ' fun _ => rfl⟩
    intro τ hτ p m hr
    rcases List.mem_append.mp hτ with hτ | hτ
    · exact h.table τ hτ p m hr
    · rw [List.mem_singleton] at hτ; subst hτ; cases hr
  · split
    · rename_i m hm
      refine ⟨?_, fun i j m τ τ' => hexcl _ i j m τ τ' fun _ => rfl⟩
      intro τ hτ p n hr
      rcases List.mem_append.mp hτ with hτ | hτ
      · exact h.table τ hτ p n hr
      · rw [List.mem_singleton] at hτ; subst hτ
        cases hr
        exact hm
    · rename_i hnone
      split
      · refine ⟨?_, fun i j m τ τ' => hexcl _ i j m τ τ' fun _ => rfl⟩
        intro τ hτ p n hr
        rcases List.mem_append.mp hτ with hτ | hτ
        · exact prunedLocks_get h hτ hr
        · rw [List.mem_singleton] at hτ; subst hτ; cases hr
      · refine ⟨?_, fun i j m τ τ' => hexcl _ i j m τ τ' fun _ => rfl⟩
        intro τ hτ p n hr
        simp only [Table.get_insert]
        rcases List.mem_append.mp hτ with hτ | hτ
        · -- A peer with a task has its mutex in the table, so it is not the arriving peer.
          have hg := h.table τ hτ p n hr
          rw [if_neg (by rintro rfl; rw [hnone] at hg; cases hg)]
          exact prunedLocks_get h hτ hr
        · rw [List.mem_singleton] at hτ; subst hτ
          cases hr
          simp

/-- A task past its mutex was past it before, or has just found it free. -/
theorem step_holds (h : s.step sha256 l = some t) {j : Nat} {m : LockId}
    {τ' : Task} (hj : t.tasks[j]? = some τ') (hm : τ'.holds m = true) :
    (∃ τ, s.tasks[j]? = some τ ∧ τ.holds m = true) ∨
      l = .lock j ∧ s.tasks.any (Task.holds m) = false := by
  cases τ' with
  | holding n φ =>
    rcases step_holding h hj with hs | ⟨c, hl, hs, -, hfree⟩ | ⟨now, random, φ₀, -, hs, -⟩
    · exact .inl ⟨_, hs, hm⟩
    · simp only [Task.holds, beq_iff_eq] at hm
      exact .inr ⟨hl, hm ▸ hfree⟩
    · exact .inl ⟨_, hs, hm⟩
  | stored n c =>
    rcases step_stored h hj with hs | ⟨route, now, -, hs⟩
    · exact .inl ⟨_, hs, hm⟩
    · exact .inl ⟨_, hs, hm⟩
  | waiting | finished => cases hm

theorem step_lockInv (hi : LockInv s) (h : s.step sha256 l = some t) : LockInv t := by
  rcases step_tasks h with ⟨c, _, rfl⟩ | ⟨hlocks, htasks⟩
  · exact arrive_lockInv hi c
  · constructor
    · intro τ hτ p m hr
      rw [hlocks]
      rcases htasks with hs | ⟨i, τ₀, τ₁, h0, hs, href, -⟩
      · exact hi.table τ (hs ▸ hτ) p m hr
      · rw [hs] at hτ
        rcases List.mem_or_eq_of_mem_set hτ with hτ | rfl
        · exact hi.table τ hτ p m hr
        · rcases href with href | href
          · rw [href] at hr; cases hr
          · exact hi.table τ₀ (List.mem_of_getElem? h0) p m (href ▸ hr)
    · intro i j m τ τ' hti htj hm hm'
      rcases step_holds h hti hm with ⟨σ, hsi, hσ⟩ | ⟨hl, hfree⟩ <;>
      rcases step_holds h htj hm' with ⟨σ', hsj, hσ'⟩ | ⟨hl', hfree'⟩
      · exact hi.exclusive i j m σ σ' hsi hsj hσ hσ'
      -- Whoever held the mutex before keeps the other task from entering.
      · rw [List.any_eq_false] at hfree'
        exact absurd hσ (hfree' _ (List.mem_of_getElem? hsi))
      · rw [List.any_eq_false] at hfree
        exact absurd hσ' (hfree _ (List.mem_of_getElem? hsj))
      · rw [hl] at hl'
        cases hl'
        rfl

theorem init_lockInv : LockInv System.init := by
  refine ⟨?_, ?_⟩
  · intro τ h
    simp [System.init] at h
  · intro i j m φ ψ h
    simp [System.init] at h

end

/-- In every run all tasks of a peer refer to one mutex, the one in the table, and at most one of
them is past it: one claim, or one call in progress. -/
theorem one_task_per_peer (sha256 : Bytes → Bytes) {ls : List Step} {s : System}
    (h : Run (Steps (System.step sha256)) System.init ls s) :
    (∀ (i j : Nat) (τ τ' : Task) (p : String), s.tasks[i]? = some τ → s.tasks[j]? = some τ' →
      τ.current = some p → τ'.current = some p → i = j) ∧
    (∀ τ ∈ s.tasks, ∀ p m, τ.reference = some (p, m) → s.registry.peerLocks.get p = some m) ∧
    ∀ τ ∈ s.tasks, ∀ τ' ∈ s.tasks, ∀ p m m', τ.reference = some (p, m) →
      τ'.reference = some (p, m') → m = m' := by
  have hinv : LockInv s := by
    refine h.invariant init_lockInv ?_
    rintro s l t hi ⟨-, hstep⟩
    exact step_lockInv hi hstep
  refine ⟨fun i j τ τ' p hi hj => hinv.one_current hi hj, hinv.table, ?_⟩
  intro τ hτ τ' hτ' p m m' hr hr'
  have hm := hinv.table τ hτ p m hr
  rw [hinv.table τ' hτ' p m' hr'] at hm
  exact (Option.some.inj hm).symm

/-- Two calls of one peer: the first is past the mutex, the second waits for the same one. -/
theorem one_task_per_peer_waiting : ∃ s m φ c,
    Run (Steps (System.step id)) System.init
      [.call (.touch "peer" (.webSocket 1 1)), .call (.disconnect "peer" (.webSocket 1 1)),
        .lock 0] s ∧
    s.tasks[0]? = some (.holding m φ) ∧ s.tasks[1]? = some (.waiting m c) ∧
    s.registry.peerLocks.get "peer" = some m := by
  have h : (exec (System.step id) (fun _ _ => true) System.init
      [.call (.touch "peer" (.webSocket 1 1)), .call (.disconnect "peer" (.webSocket 1 1)),
        .lock 0]).any (fun s =>
      s.tasks == [.holding 0 (.entered (.touch "peer" (.webSocket 1 1))),
        .waiting 0 (.disconnect "peer" (.webSocket 1 1))]) = true := by
    decide
  simp only [Option.any_eq_true, beq_iff_eq] at h
  obtain ⟨s, hs, htasks⟩ := h
  refine ⟨s, 0, _, _, .of_exec hs, by rw [htasks]; rfl, by rw [htasks]; rfl, ?_⟩
  exact (one_task_per_peer id (.of_exec hs)).2.1 _ (htasks ▸ List.mem_cons_self) "peer" 0 rfl

section

variable {sha256 : Bytes → Bytes} {s t : System} {l : Step}

/-! ## Checked calls -/

/-- A call gets a task only when it passes its first check. -/
def Checked (s : System) : Prop :=
  ∀ τ ∈ s.tasks, ∀ c, τ.pending = some c → c.refusal = none

theorem arrive_checked (h : Checked s) (c : Call) : Checked (s.arrive c) := by
  have hsnoc : ∀ τ : Task, (∀ c', τ.pending = some c' → c'.refusal = none) →
      ∀ τ' ∈ s.tasks ++ [τ], ∀ c', τ'.pending = some c' → c'.refusal = none := by
    intro τ hτ τ' hmem
    rcases List.mem_append.mp hmem with hmem | hmem
    · exact h τ' hmem
    · rw [List.mem_singleton.mp hmem]
      exact hτ
  unfold System.arrive
  split
  · exact hsnoc _ (by rintro _ ⟨⟩)
  · rename_i hc
    split
    · exact hsnoc _ fun c' he => Option.some.inj he ▸ hc
    · split
      · exact hsnoc _ (by rintro _ ⟨⟩)
      · exact hsnoc _ fun c' he => Option.some.inj he ▸ hc

theorem step_checked (hi : Checked s) (h : s.step sha256 l = some t) : Checked t := by
  rcases step_tasks h with ⟨c, _, rfl⟩ | ⟨-, hs | ⟨i, τ₀, τ₁, h0, hs, -, hp⟩⟩
  · exact arrive_checked hi c
  · unfold Checked
    rw [hs]
    exact hi
  · unfold Checked
    rw [hs]
    intro τ hτ c hc
    rcases List.mem_or_eq_of_mem_set hτ with hτ | rfl
    · exact hi τ hτ c hc
    · exact hi τ₀ (List.mem_of_getElem? h0) c (hp c hc)

end

end Starry.Activation
