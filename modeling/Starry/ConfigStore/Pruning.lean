import Starry.ConfigStore.Rules

/-!
# What pruning may remove

Pruning only removes: files and entries of operations that are terminal in memory, idempotency
and audit records, and revisions.
-/

open Library Library.Prog

namespace Starry.ConfigStore

variable (env : Env)

/-- Actions of a pruning that may remove the operations of `T`. -/
def Act.prunes (T : String → Prop) (a : Act) : Prop :=
  a.isRead = true ∨ match a with
    | .remove (.operation id) | .update (.dropOperation id) => T id
    | .remove _ | .update (.dropIdempotency _) | .update (.dropRevision _) => True
    | _ => False

section Only

variable {T : String → Prop}

theorem reads_prunes : Reads (Act.prunes T) := fun _ ha => .inl ha

theorem durableStateBytes_only {S : Act → Prop} (h : Reads S) : TryOnly S durableStateBytes := by
  unfold durableStateBytes
  grind

theorem overBudget_only {S : Act → Prop} (h : Reads S) (s : StoreState) (audits : AuditRecords) :
    TryOnly S (overBudget s audits) := by
  have hbytes := durableStateBytes_only h
  unfold overBudget
  split
  · exact tryOnly_pure
  · exact .bind hbytes fun _ => tryOnly_pure

theorem pruneIdempotency_only (keys : List String) :
    TryOnly (Act.prunes T) (pruneIdempotency keys) := by
  induction keys with
  | nil => exact tryOnly_pure
  | cons key keys ih =>
    refine .bind (removeIfPresent_only (.inr trivial)) fun _ => ?_
    exact .bind (tryOnly_lift (update_only (.inr trivial))) fun _ => ih

theorem pruneAudits_only (ids : List String) (audits : AuditRecords) :
    TryOnly (Act.prunes T) (pruneAudits ids audits) := by
  induction ids generalizing audits with
  | nil => exact tryOnly_pure
  | cons id ids ih => exact .bind (removeIfPresent_only (.inr trivial)) fun _ => ih _

theorem pruneOperation_only {operation : Operation} (h : T operation.id) (audits : AuditRecords) :
    TryOnly (Act.prunes T) (pruneOperation env audits operation) := by
  refine .bind (removeIfPresent_only (.inr h)) fun _ => ?_
  refine .bind (removeIfPresent_only (.inr trivial)) fun _ => ?_
  refine .bind (removeIfPresent_only (.inr trivial)) fun _ => ?_
  refine .bind (tryOnly_lift reads_prunes.state) fun s => ?_
  refine .bind (pruneIdempotency_only _) fun _ => .bind (pruneAudits_only _ _) fun audits => ?_
  exact .bind (tryOnly_lift (update_only (.inr h))) fun _ => tryOnly_pure

theorem pruneOperations_only {cutoff : Int} {l : List Operation} (hl : ∀ o ∈ l, T o.id)
    (audits : AuditRecords) : TryOnly (Act.prunes T) (pruneOperations env cutoff l audits) := by
  induction l generalizing audits with
  | nil => exact tryOnly_pure
  | cons operation rest ih =>
    have hrest := ih fun o ho => hl o (List.mem_cons_of_mem _ ho)
    refine .bind (tryOnly_check _) fun expired => ?_
    refine .bind (tryOnly_lift reads_prunes.state) fun s => ?_
    refine .bind (overBudget_only reads_prunes s audits) fun exceeded => ?_
    split
    · exact hrest audits
    · exact .bind (pruneOperation_only env (hl operation List.mem_cons_self) audits)
        fun audits => hrest audits

theorem pruneStandaloneIdempotency_only (cutoff : Int) (l : List IdempotencyRecord) :
    TryOnly (Act.prunes T) (pruneStandaloneIdempotency env cutoff l) := by
  induction l with
  | nil => exact tryOnly_pure
  | cons record rest ih =>
    refine .bind (tryOnly_check _) fun expired => ?_
    refine .bind (tryOnly_lift reads_prunes.state) fun s => ?_
    split
    · exact ih
    · exact .bind (pruneIdempotency_only _) fun _ => ih

theorem pruneStandaloneAudits_only (cutoff : Int) (l : List AuditRecord) (audits : AuditRecords) :
    TryOnly (Act.prunes T) (pruneStandaloneAudits env cutoff l audits) := by
  induction l generalizing audits with
  | nil => exact tryOnly_pure
  | cons audit rest ih =>
    refine .bind (tryOnly_check _) fun expired => ?_
    split
    · exact ih audits
    · exact .bind (pruneAudits_only _ _) fun audits => ih audits

theorem syncDirectories_only {S : Act → Prop} (h : Reads S) (l : List Directory) :
    TryOnly S (syncDirectories l) := by
  induction l with
  | nil => exact tryOnly_pure
  | cons d rest ih => exact .bind (tryOnly_orElse (h.syncDirectory d)) fun _ => ih

theorem removeRevisionFiles_only (l : List File) (hl : ∀ f ∈ l, (Act.remove f).prunes T) :
    TryOnly (Act.prunes T) (removeRevisionFiles l) := by
  induction l with
  | nil => exact tryOnly_pure
  | cons f rest ih =>
    refine .bind (tryOnly_orElse (remove_only (hl f List.mem_cons_self))) fun _ => ?_
    exact ih fun f hf => hl f (List.mem_cons_of_mem _ hf)

theorem pruneOldRevisions_only (currentEtag : String) (recent : List String) (l : List Revision)
    (count bytes : Nat) :
    TryOnly (Act.prunes T) (pruneOldRevisions currentEtag recent l count bytes) := by
  induction l generalizing count bytes with
  | nil => exact tryOnly_pure
  | cons revision rest ih =>
    have hfiles : ∀ f ∈ revisionFiles revision, (Act.remove f).prunes T := by
      intro f hf
      simp only [revisionFiles, List.mem_cons, List.not_mem_nil, or_false] at hf
      rcases hf with rfl | rfl <;> exact .inr trivial
    unfold pruneOldRevisions
    split
    · exact tryOnly_pure
    · split
      · exact ih _ _
      · refine .bind (tryOnly_lift (totalBytes_only reads_prunes _)) fun size => ?_
        refine .bind (removeRevisionFiles_only _ hfiles) fun _ => ?_
        exact .bind (tryOnly_lift (update_only (.inr trivial))) fun _ => ih _ _

theorem pruneRevisions_only (currentEtag : String) :
    TryOnly (Act.prunes T) (pruneRevisions env currentEtag) := by
  refine reads_prunes.withState (.bind (tryOnly_lift reads_prunes.state) fun s => ?_)
  refine .bind (tryOnly_lift (totalBytes_only reads_prunes _)) fun bytes => ?_
  refine .bind (pruneOldRevisions_only _ _ _ _ _) fun _ => ?_
  exact tryOnly_orElse (reads_prunes.syncDirectory _)

/-- What follows once the terminal operations are known. -/
theorem pruneRest_only (cutoff : Int) (l : List Operation) (audits : AuditRecords)
    (hl : ∀ o ∈ l, T o.id) : TryOnly (Act.prunes T) (do
      let audits ← pruneOperations env cutoff (sortByText (·.updatedAt) l) audits
      let s ← lift state
      let guarded := protectedOperations env s
      let standalone := (s.idempotency.values env.order).filter fun record =>
        record.operationId.all fun id => !guarded.contains id
      pruneStandaloneIdempotency env cutoff (sortByText (·.createdAt) standalone)
      let standaloneAudits := (audits.values env.order).filter fun audit =>
        !guarded.contains audit.operationId
      pruneStandaloneAudits env cutoff (sortByText (·.updatedAt) standaloneAudits) audits
      syncDirectories [.operations, .idempotency, .audit, .recovery]) := by
  refine .bind (pruneOperations_only env ?_ audits) fun audits => ?_
  · intro o ho
    exact hl o ((List.mem_insertionSort _).mp ho)
  refine .bind (tryOnly_lift reads_prunes.state) fun s => ?_
  refine .bind (pruneStandaloneIdempotency_only env _ _) fun _ => ?_
  exact .bind (pruneStandaloneAudits_only env _ _ _) fun _ => syncDirectories_only reads_prunes _

end Only

/-! ## What is left -/

/-- The operations that may be pruned. -/
def Terminal (s : StoreState) (id : String) : Prop :=
  ∃ o, s.operations.get id = some o ∧ o.state.isTerminal = true

/-- The durable writes since `w` are `new`. -/
def Since (w w' : World) (new : List Write) : Prop := w'.writes = w.writes ++ new

/-- The world after a pruning that may remove the operations of `T`. -/
structure Pruned (T : String → Prop) (w w' : World) : Prop where
  config : w'.disk.config = w.disk.config
  changes : w'.changes = w.changes
  used : w'.used = w.used
  manual : w'.memory.state.manualInterventionRequired = w.memory.state.manualInterventionRequired
  active : w'.memory.activeOperation = w.memory.activeOperation
  spawned : w'.memory.spawned = w.memory.spawned
  operations : ∀ i, w'.disk.operations.get i = w.disk.operations.get i ∨
    T i ∧ w'.disk.operations.get i = none
  remembered : ∀ i, w'.memory.state.operations.get i = w.memory.state.operations.get i ∨
    T i ∧ w'.memory.state.operations.get i = none
  audits : ∀ k a, w'.disk.audits.get k = some a → w.disk.audits.get k = some a
  writes : ∃ new, Since w w' new ∧ (∀ x ∈ new, ∃ f, x = .removed f) ∧
    (∀ k, .removed (.idempotency k) ∈ new → w'.disk.idempotency.get k = none) ∧
    ∀ k, .removed (.idempotency k) ∉ new →
      w'.disk.idempotency.get k = w.disk.idempotency.get k

namespace Pruned

variable {T : String → Prop} {w w' w'' : World}

theorem refl (w : World) : Pruned T w w where
  config := rfl
  changes := rfl
  used := rfl
  manual := rfl
  active := rfl
  spawned := rfl
  operations _ := .inl rfl
  remembered _ := .inl rfl
  audits _ _ h := h
  writes := ⟨[], by simp [Since], by simp, by simp, fun _ _ => rfl⟩

theorem setLocks (h : Pruned T w w') (locks : List Mutex) : Pruned T w (w'.setLocks locks) where
  config := h.config
  changes := h.changes
  used := h.used
  manual := h.manual
  active := h.active
  spawned := h.spawned
  operations := h.operations
  remembered := h.remembered
  audits := h.audits
  writes := h.writes

/-- The ghost of a removal that is not one of an idempotency record. -/
theorem writes_snoc {f : File} (h : Pruned T w w') (hf : ∀ k, f ≠ .idempotency k)
    (hdisk : w''.disk.idempotency = w'.disk.idempotency)
    (hwrites : w''.writes = w'.writes ++ [.removed f]) :
    ∃ new, Since w w'' new ∧ (∀ x ∈ new, ∃ f, x = .removed f) ∧
      (∀ k, .removed (.idempotency k) ∈ new → w''.disk.idempotency.get k = none) ∧
      ∀ k, .removed (.idempotency k) ∉ new →
        w''.disk.idempotency.get k = w.disk.idempotency.get k := by
  obtain ⟨new, hnew, hremoved, hgone, hkept⟩ := h.writes
  have hmem : ∀ k, Write.removed (.idempotency k) ∈ new ++ [.removed f] ↔
      Write.removed (.idempotency k) ∈ new := by
    intro k
    simp [Ne.symm (hf k)]
  refine ⟨new ++ [.removed f], ?_, ?_, ?_, ?_⟩
  · rw [Since, hwrites, hnew, List.append_assoc]
  · intro x hx
    rcases List.mem_append.mp hx with hx | hx
    · exact hremoved x hx
    · exact ⟨f, List.mem_singleton.mp hx⟩
  · intro k hk
    rw [hdisk]
    exact hgone k ((hmem k).mp hk)
  · intro k hk
    rw [hdisk]
    exact hkept k fun h => hk ((hmem k).mpr h)

theorem erase {f : File} (h : Pruned T w w') (hf : (Act.remove f).prunes T) :
    Pruned T w (w'.erase f) where
  config := by cases f <;> exact h.config
  changes := h.changes
  used := h.used
  manual := h.manual
  active := h.active
  spawned := h.spawned
  remembered := h.remembered
  operations := by
    intro i
    cases f with
    | operation id =>
      obtain hf | hf := hf
      · cases hf
      change (w'.disk.operations.drop id).get i = _ ∨ _ ∧ (w'.disk.operations.drop id).get i = _
      rw [Keyed.get_drop]
      split
      · rename_i hi
        subst hi
        exact .inr ⟨hf, rfl⟩
      · exact h.operations i
    | _ => exact h.operations i
  audits := by
    intro k a hk
    cases f with
    | audit id =>
      change (w'.disk.audits.drop id).get k = some a at hk
      rw [Keyed.get_drop] at hk
      split at hk
      · cases hk
      · exact h.audits k a hk
    | _ => exact h.audits k a hk
  writes := by
    cases f with
    | idempotency key =>
      obtain ⟨new, hnew, hremoved, hgone, hkept⟩ := h.writes
      refine ⟨new ++ [.removed (.idempotency key)], ?_, ?_, ?_, ?_⟩
      · change w'.writes ++ [_] = _
        rw [hnew, List.append_assoc]
      · intro x hx
        rcases List.mem_append.mp hx with hx | hx
        · exact hremoved x hx
        · exact ⟨_, List.mem_singleton.mp hx⟩
      · intro k hk
        change (w'.disk.idempotency.drop key).get k = none
        rw [Keyed.get_drop]
        split
        · rfl
        · rename_i hne
          exact hgone k (by simpa [hne] using hk)
      · intro k hk
        change (w'.disk.idempotency.drop key).get k = _
        have hne : k ≠ key := by
          rintro rfl
          simp at hk
        rw [Keyed.get_drop, if_neg hne]
        exact hkept k fun h => hk (List.mem_append_left _ h)
    | _ => exact h.writes_snoc (by simp) rfl rfl

theorem update {u : Update} (h : Pruned T w w') (hu : (Act.update u).prunes T) :
    Pruned T w (w'.update u) where
  config := h.config
  changes := h.changes
  used := h.used
  manual := by
    rcases hu with hu | hu
    · cases hu
    · cases u <;> first | exact h.manual | exact hu.elim
  active := by
    rcases hu with hu | hu
    · cases hu
    · cases u <;> first | exact h.active | exact hu.elim
  spawned := by
    rcases hu with hu | hu
    · cases hu
    · cases u <;> first | exact h.spawned | exact hu.elim
  operations := h.operations
  remembered := by
    intro i
    rcases hu with hu | hu
    · cases hu
    · cases u with
      | dropOperation id =>
        change (w'.memory.state.operations.drop id).get i = _ ∨
          _ ∧ (w'.memory.state.operations.drop id).get i = _
        rw [Keyed.get_drop]
        split
        · rename_i hi
          subst hi
          exact .inr ⟨hu, rfl⟩
        · exact h.remembered i
      | dropIdempotency key => exact h.remembered i
      | dropRevision id => exact h.remembered i
      | _ => exact hu.elim
  audits := h.audits
  writes := h.writes

/-- Every action of a pruning only removes. -/
theorem next {a : Act} {r : a.Reply} {t : World} (h : Pruned T w w') (ha : a.prunes T)
    (hn : next w' a r t) : Pruned T w t := by
  cases next_effect hn with
  | same => exact h
  | lock m _ => exact h.setLocks _
  | unlock m => exact h.setLocks _
  | update u => exact h.update ha
  | remove f => exact h.erase ha
  | _ => exact absurd ha (by simp [Act.prunes, Act.isRead])

end Pruned

/-! ## The functions -/

section Specs

variable {H : Prop} {I : World → Prop} {T : String → Prop} {w w' : World} {α ε : Type}

theorem tries_prunes {p : ExceptT ε Agent α} (hp : TryOnly (Act.prunes T) p)
    (hI : ∀ t, Pruned T w t → I t) (h : Pruned T w w') :
    (rules H I).Tries p (fun _ t => Pruned T w t) (fun _ t => Pruned T w t) w' := by
  have hsafe : (rules H I).Safe p.run (fun _ => Pruned T w) w' :=
    Only.safe hp h fun s a ha hs => ⟨hI s hs, fun r t hn => hs.next ha hn.1⟩
  exact hsafe.mono fun r t hr => by cases r <;> exact hr

/-- Only operations that are terminal in memory are pruned. -/
theorem tries_pruneDurableRecords (hI : ∀ t, Pruned (Terminal w.memory.state) w t → I t) :
    (rules H I).Tries (pruneDurableRecords env)
      (fun _ t => Pruned (Terminal w.memory.state) w t)
      (fun _ t => Pruned (Terminal w.memory.state) w t) w := by
  have hrefl : Pruned (Terminal w.memory.state) w w := .refl w
  have hw : I w := hI w hrefl
  unfold pruneDurableRecords loadRecords
  simp only [Rules.tries_bind, tries_lift, Rules.safe_run]
  refine safe_load hw ?_ fun text => hrefl
  refine Rules.tries_bind.mpr (tries_lift.mpr (safe_timestamp.mpr ⟨hw, fun time => ?_⟩))
  refine tries_withLock hw ?_
  refine Rules.tries_bind.mpr (tries_lift.mpr (safe_state.mpr ⟨hI _ (hrefl.setLocks _), ?_⟩))
  refine (tries_prunes (pruneRest_only env _ _ _ ?_) hI (hrefl.setLocks _)).mono ?_ ?_
  · intro o ho
    obtain ⟨hmem, hterminal⟩ := List.mem_filter.mp ho
    exact ⟨o, Keyed.mem_values.mp hmem, hterminal⟩
  · exact fun _ t ht => ⟨hI t ht, ht.setLocks _⟩
  · exact fun _ t ht => ⟨hI t ht, ht.setLocks _⟩

theorem checkRoom_only (s : StoreState) : TryOnly (Act.prunes T) (checkRoom s) := by
  have hfull : TryOnly (Act.prunes T) (rejectsFull s) := by
    unfold rejectsFull
    split
    · exact tryOnly_pure
    · exact .bind (durableStateBytes_only reads_prunes) fun _ => tryOnly_pure
  refine .bind hfull fun full => ?_
  split
  · exact tryOnly_throw
  refine .bind (tryOnly_lift (reads_prunes.ask _)) ?_
  rintro (_ | available)
  · exact tryOnly_throw
  · dsimp only
    split
    · exact tryOnly_throw
    · exact tryOnly_pure

/-- A store that may be written does not ask for an operator. -/
theorem tries_ensureWritable (hI : ∀ t, Pruned (Terminal w.memory.state) w t → I t) :
    (rules H I).Tries (ensureWritable env)
      (fun _ t => Pruned (Terminal w.memory.state) w t ∧
        w.memory.state.manualInterventionRequired = false)
      (fun _ t => Pruned (Terminal w.memory.state) w t) w := by
  unfold ensureWritable checkWritable
  refine Rules.tries_bind.mpr ((tries_pruneDurableRecords env hI).mono (fun _ t ht => ?_)
    fun _ _ ht => ht)
  refine tries_withLock (hI t ht) ?_
  have hlocked := ht.setLocks (.state :: t.memory.locks)
  refine Rules.tries_bind.mpr (tries_lift.mpr (safe_state.mpr ⟨hI _ hlocked, ?_⟩))
  split
  · exact ⟨hI _ hlocked, hlocked.setLocks _⟩
  · rename_i hmanual
    have hclear : w.memory.state.manualInterventionRequired = false := by
      rw [← hlocked.manual]
      exact Bool.eq_false_iff.mpr hmanual
    refine (tries_prunes (checkRoom_only _) hI hlocked).mono ?_ ?_
    · exact fun _ u hu => ⟨hI u hu, hu.setLocks _, hclear⟩
    · exact fun _ u hu => ⟨hI u hu, hu.setLocks _⟩

end Specs

end Starry.ConfigStore
