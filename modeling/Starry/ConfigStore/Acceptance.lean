import Starry.ConfigStore.Blocking

/-!
# What accepting a transaction leaves

`accept_apply` and `accept_rollback` prune, put the intent on disk in three files and hand the
transaction over. A crash in between leaves at most a pending operation.
-/

open Library Library.Prog

namespace Starry.ConfigStore

variable (env : Env)

/-! ## Ids -/

/-- Every operation that is named on disk has been seen. -/
structure Known (w : World) : Prop where
  operations : ∀ i o, w.disk.operations.get i = some o → i ∈ w.used
  audits : ∀ k a, w.disk.audits.get k = some a → a.operationId ∈ w.used

namespace Known

variable {w t : World}

/-- A world with the same records, in which no id was forgotten. -/
theorem same (h : Known w) (hops : t.disk.operations = w.disk.operations)
    (haudits : t.disk.audits = w.disk.audits) (hused : ∀ i ∈ w.used, i ∈ t.used) : Known t := by
  constructor
  · intro i o hi
    rw [hops] at hi
    exact hused i (h.operations i o hi)
  · intro k a hk
    rw [haudits] at hk
    exact hused _ (h.audits k a hk)

theorem publish (h : Known w) (e : Entry) : Known (w.publish e) := by
  have hused : ∀ i ∈ w.used, i ∈ (w.publish e).used := fun i hi => List.mem_append_right _ hi
  cases e with
  | operation o =>
    refine ⟨fun i o' hi => ?_, fun k a hk => hused _ (h.audits k a hk)⟩
    change (w.disk.operations.put o).get i = some o' at hi
    rw [Keyed.get_put] at hi
    split at hi
    · rename_i hid
      rw [hid]
      exact List.mem_append_left _ (by simp [Entry.ids])
    · exact hused i (h.operations i o' hi)
  | audit a =>
    refine ⟨fun i o' hi => hused _ (h.operations i o' hi), fun k b hk => ?_⟩
    change (w.disk.audits.put a).get k = some b at hk
    rw [Keyed.get_put] at hk
    split at hk
    · cases hk
      exact List.mem_append_left _ (by simp [Entry.ids])
    · exact hused _ (h.audits k b hk)
  | _ => exact h.same rfl rfl hused

theorem erase (h : Known w) (f : File) : Known (w.erase f) := by
  cases f with
  | operation id =>
    refine ⟨fun i o' hi => ?_, h.audits⟩
    change (w.disk.operations.drop id).get i = some o' at hi
    rw [Keyed.get_drop] at hi
    split at hi
    · cases hi
    · exact h.operations i o' hi
  | audit id =>
    refine ⟨h.operations, fun k b hk => ?_⟩
    change (w.disk.audits.drop id).get k = some b at hk
    rw [Keyed.get_drop] at hk
    split at hk
    · cases hk
    · exact h.audits k b hk
  | _ => exact h.same rfl rfl fun _ hi => hi

/-- No action names an operation that was not seen. -/
theorem next {a : Act} {r : a.Reply} (h : Known w) (hn : next w a r t) : Known t := by
  cases next_effect hn with
  | newId id _ => exact h.same rfl rfl fun i hi => List.mem_cons_of_mem _ hi
  | rename e => exact h.publish e
  | remove f => exact h.erase f
  | _ => exact h.same rfl rfl fun _ hi => hi

end Known

/-! ## Crashes while a transaction is accepted -/

/-- What is on disk of the operations that were not seen in `w`: at most their intents. -/
structure Intended (w t : World) : Prop where
  config : t.disk.config = w.disk.config
  pending : ∀ i o, i ∉ w.used → t.disk.operations.get i = some o → o.state = .pending
  unclaimed : ∀ i, i ∉ w.used → Unclaimed i t.disk.audits

/-- The actions of an acceptance. -/
def Act.accepts (a : Act) : Prop :=
  a.isRead = true ∨ match a with
    | .newId | .reserve _ | .lock _ | .unlock _ | .remove _ | .update _ => True
    | .rename (.audit a) => a.result = .intentPersisted
    | .rename (.operation o) => o.state = .pending
    | .rename (.idempotency _) => True
    | _ => False

theorem reads_accepts : Reads Act.accepts := fun _ ha => .inl ha

theorem Act.prunes.accepts {T : String → Prop} {a : Act} (h : a.prunes T) : a.accepts := by
  obtain h | h := h
  · exact .inl h
  · cases a with
    | remove f => exact .inr trivial
    | update u => exact .inr trivial
    | _ => exact h.elim

namespace Intended

variable {w t u : World}

theorem start (h : Known w) : Intended w w where
  config := rfl
  pending i o hi ho := absurd (h.operations i o ho) hi
  unclaimed i hi k a hk hid := by
    subst hid
    exact absurd (h.audits k a hk) hi

theorem same (h : Intended w t) (hconfig : u.disk.config = t.disk.config)
    (hops : ∀ i o, u.disk.operations.get i = some o → t.disk.operations.get i = some o)
    (haudits : ∀ k a, u.disk.audits.get k = some a → t.disk.audits.get k = some a) :
    Intended w u where
  config := hconfig.trans h.config
  pending i o hi ho := h.pending i o hi (hops i o ho)
  unclaimed i hi k a hk := h.unclaimed i hi k a (haudits k a hk)

theorem erase (h : Intended w t) (f : File) : Intended w (t.erase f) := by
  cases f with
  | operation id =>
    refine h.same rfl (fun i o hi => ?_) fun _ _ hk => hk
    change (t.disk.operations.drop id).get i = some o at hi
    rw [Keyed.get_drop] at hi
    split at hi
    · cases hi
    · exact hi
  | audit id =>
    refine h.same rfl (fun _ _ hi => hi) fun k a hk => ?_
    change (t.disk.audits.drop id).get k = some a at hk
    rw [Keyed.get_drop] at hk
    split at hk
    · cases hk
    · exact hk
  | _ => exact h.same rfl (fun _ _ hi => hi) fun _ _ hk => hk

theorem publish {e : Entry} (h : Intended w t) (he : (Act.rename e).accepts) :
    Intended w (t.publish e) := by
  obtain he | he := he
  · cases he
  cases e with
  | audit a =>
    refine ⟨h.config, h.pending, fun i hi => (h.unclaimed i hi).put ?_⟩
    rw [he]
    simp
  | operation o =>
    refine ⟨h.config, fun i o' hi ho' => ?_, h.unclaimed⟩
    change (t.disk.operations.put o).get i = some o' at ho'
    rw [Keyed.get_put] at ho'
    split at ho'
    · cases ho'
      exact he
    · exact h.pending i o' hi ho'
  | idempotency r => exact h.same rfl (fun _ _ hi => hi) fun _ _ hk => hk
  | _ => exact he.elim

theorem next {a : Act} {r : a.Reply} (h : Intended w t) (ha : a.accepts) (hn : next t a r u) :
    Intended w u := by
  cases next_effect hn with
  | rename e => exact h.publish ha
  | remove f => exact h.erase f
  | renameConfig bytes => exact absurd ha (by simp [Act.accepts, Act.isRead])
  | removeConfig => exact absurd ha (by simp [Act.accepts, Act.isRead])
  | _ => exact h.same rfl (fun _ _ hi => hi) fun _ _ hk => hk

end Intended

section Only

theorem pruneDurableRecords_only :
    TryOnly (Act.prunes fun _ => True) (pruneDurableRecords env) := by
  refine .bind (tryOnly_lift (loadRecords_only reads_prunes)) fun r => ?_
  cases r with
  | error text => exact tryOnly_throw
  | ok audits =>
    refine .bind (tryOnly_lift reads_prunes.timestamp) fun time => reads_prunes.withState ?_
    exact .bind (tryOnly_lift reads_prunes.state) fun s =>
      pruneRest_only env _ _ _ fun _ _ => trivial

theorem ensureWritable_only : TryOnly (Act.prunes fun _ => True) (ensureWritable env) := by
  refine .bind (pruneDurableRecords_only env) fun _ => reads_prunes.withState ?_
  refine .bind (tryOnly_lift reads_prunes.state) fun s => ?_
  split
  · exact tryOnly_throw
  · exact checkRoom_only s

theorem ensureWritable_accepts : TryOnly Act.accepts (ensureWritable env) :=
  (ensureWritable_only env).mono fun _ ha => ha.accepts

theorem reserveOperation_only {S : Act → Prop} {id : String} (h : S (.reserve id)) :
    TryOnly S (reserveOperation id) :=
  .bind (tryOnly_lift (perform_only h)) fun _ => tryOnly_check _

theorem persistIntent_accepts {operation : Operation} {audit : AuditRecord}
    {record : IdempotencyRecord} (ho : operation.state = .pending)
    (ha : audit.result = .intentPersisted) :
    TryOnly Act.accepts (persistIntent operation audit record) := by
  refine .bind (persist_only reads_accepts (.inr ha)) fun _ => ?_
  refine .bind (persist_only reads_accepts (.inr ho)) fun _ => ?_
  refine .bind (persist_only reads_accepts (.inr trivial)) fun _ => ?_
  refine .bind (tryOnly_lift (update_only (.inr trivial))) fun _ => ?_
  exact tryOnly_lift (update_only (.inr trivial))

theorem beginTransaction_accepts (kind : Kind) (r : MutationRequest) (body : RequestBody)
    (candidate : Candidate) (auditDigest : String) :
    TryOnly Act.accepts (beginTransaction env kind r body candidate auditDigest) := by
  have hnow : TryOnly Act.accepts (lift now : Try String) := tryOnly_lift reads_accepts.now
  unfold beginTransaction
  refine .bind (tryOnly_lift (newId_only (.inr trivial))) fun id => ?_
  refine .bind (reserveOperation_only (.inr trivial)) fun _ => ?_
  refine .bind (tryOnly_lift (newId_only (.inr trivial))) fun auditId => ?_
  refine .bind hnow fun _ => .bind hnow fun _ => .bind hnow fun _ => .bind hnow fun _ => ?_
  refine .bind hnow fun _ => .bind (tryOnly_lift (persistIntent_accepts rfl rfl)) fun result => ?_
  cases result with
  | error e => exact .bind (tryOnly_lift (update_only (.inr trivial))) fun _ => tryOnly_throw
  | ok _ => exact .bind (tryOnly_lift (update_only (.inr trivial))) fun _ => tryOnly_pure

theorem checkCurrentEtag_only {S : Act → Prop} (h : Reads S) (etag : String) :
    TryOnly S (checkCurrentEtag env etag) := by
  unfold checkCurrentEtag
  grind

theorem startApply_accepts (r : ApplyRequest) : TryOnly Act.accepts (startApply env r) := by
  refine .bind (ensureWritable_accepts env) fun _ => ?_
  refine .bind (tryOnly_lift reads_accepts.plans) fun plans => ?_
  split
  · exact tryOnly_throw
  · refine .bind (tryOnly_lift reads_accepts.timestamp) fun time => .bind (tryOnly_check _) fun _ => ?_
    exact .bind (checkCurrentEtag_only env reads_accepts _) fun _ =>
      beginTransaction_accepts env _ _ _ _ _

theorem startRollback_accepts (r : RollbackRequest) :
    TryOnly Act.accepts (startRollback env r) := by
  refine .bind (ensureWritable_accepts env) fun _ => ?_
  refine .bind (tryOnly_lift reads_accepts.state) fun s => ?_
  split
  · exact tryOnly_throw
  · refine .bind (readDocument_only env reads_accepts _) fun bytes => .bind (tryOnly_check _) fun _ => ?_
    exact .bind (checkCurrentEtag_only env reads_accepts _) fun _ =>
      beginTransaction_accepts env _ _ _ _ _

theorem admit_accepts {r : MutationRequest} {body : RequestBody} {start : Try Operation}
    (h : TryOnly Act.accepts start) : TryOnly Act.accepts (admitMutation env r body start) := by
  refine tryOnly_withLock (.inr trivial) (.inr trivial) ?_
  refine .bind (tryOnly_lift reads_accepts.state) fun s => .bind (tryOnly_check _) fun found => ?_
  cases found with
  | none => exact h
  | some operation => exact tryOnly_pure

end Only

/-- A mutation, as it is accepted. -/
inductive Mutation
  | apply (r : ApplyRequest)
  | rollback (r : RollbackRequest)

def Mutation.request : Mutation → MutationRequest
  | .apply r => r.toMutationRequest
  | .rollback r => r.toMutationRequest

/-- `accept_apply` or `accept_rollback`. -/
def accept : Mutation → Try Operation
  | .apply r => acceptApply env r
  | .rollback r => acceptRollback env r

theorem accept_accepts (m : Mutation) : TryOnly Act.accepts (accept env m) := by
  cases m with
  | apply r => exact .bind (tryOnly_check _) fun _ => admit_accepts env (startApply_accepts env r)
  | rollback r =>
    refine .bind (tryOnly_check _) fun _ => .bind (tryOnly_check _) fun _ => ?_
    exact admit_accepts env (startRollback_accepts env r)

/-- Wherever an acceptance is stopped, at most intents are on disk. -/
theorem intended_of_passes {m : Mutation} {w t : World} (hw : Known w)
    (hp : Passes next (accept env m).run w t) : Intended w t := by
  have hsafe : (Rules.every (fun t _ => Intended w t) next).Safe (accept env m).run
      (fun _ => Intended w) w :=
    Only.safe (accept_accepts env m) (.start hw) fun s a ha hs => ⟨hs, fun r t hn => hs.next ha hn⟩
  exact hsafe.passes hp (fun _ _ h => h) fun _ _ h => h

/-! ## How an acceptance ends -/

section Ends

variable {H : Prop} {w u v t : World}

/-- The intent of a transaction in memory and on disk. -/
def World.intend (v : World) (operation : Operation) (audit : AuditRecord)
    (record : IdempotencyRecord) : World :=
  ((((v.publish (.audit audit)).publish (.operation operation)).publish
    (.idempotency record)).update (.putOperation operation)).update (.putIdempotency record)

/-- What a call that fails has written after its pruning: audit records, or an operation that
stays pending. -/
def Attempted (u t : World) : Prop :=
  ∃ new, Since u t new ∧
    ((∀ x ∈ new, ∃ a, x = .published (.audit a)) ∧ t.disk.operations = u.disk.operations ∧
        t.disk.idempotency = u.disk.idempotency ∨
      ∃ o, .published (.operation o) ∈ new ∧ o.state = .pending ∧
        t.disk.operations.get o.id = some o)

theorem Attempted.refl (u : World) : Attempted u u :=
  ⟨[], by simp [Since], .inl ⟨by simp, rfl, rfl⟩⟩

/-- Only what is on disk matters. -/
theorem Attempted.of_disk (hd : t.disk = u.disk) (hw : t.writes = u.writes) : Attempted u t :=
  ⟨[], by simp [Since, hw], .inl ⟨by simp, by rw [hd], by rw [hd]⟩⟩

theorem tries_persistIntent {operation : Operation} {audit : AuditRecord}
    {record : IdempotencyRecord} {Q : Unit → World → Prop} {E : TransactionError → World → Prop}
    (hd : v.disk = u.disk) (hw : v.writes = u.writes) (ho : operation.state = .pending)
    (done : Q () (v.intend operation audit record))
    (failed : ∀ e t, Attempted u t → t.memory = v.memory → E e t) :
    (rules H fun _ => True).Tries (persistIntent operation audit record) Q E v := by
  have haudit : Attempted u (v.publish (.audit audit)) := by
    refine ⟨[.published (.audit audit)], ?_, .inl ⟨?_, ?_, ?_⟩⟩
    · change v.writes ++ _ = _
      rw [hw]
    · simp
    · change v.disk.operations = _
      rw [hd]
    · change v.disk.idempotency = _
      rw [hd]
  have hop : ((v.publish (.audit audit)).publish (.operation operation)).disk.operations.get
      operation.id = some operation := by
    change (Keyed.put _ operation).get operation.id = _
    rw [Keyed.get_put, if_pos rfl]
  have hoperation : Attempted u ((v.publish (.audit audit)).publish (.operation operation)) := by
    refine ⟨[.published (.audit audit), .published (.operation operation)], ?_, .inr
      ⟨operation, by simp, ho, hop⟩⟩
    change v.writes ++ _ ++ _ = _
    rw [hw, List.append_assoc]
    rfl
  have hrecord : Attempted u (((v.publish (.audit audit)).publish (.operation operation)).publish
      (.idempotency record)) := by
    refine ⟨[.published (.audit audit), .published (.operation operation),
      .published (.idempotency record)], ?_, .inr ⟨operation, by simp, ho, hop⟩⟩
    change v.writes ++ _ ++ _ ++ _ = _
    rw [hw, List.append_assoc, List.append_assoc]
    rfl
  unfold persistIntent
  refine Rules.tries_bind.mpr (tries_persist trivial trivial ?_ (failed _ _ (.of_disk hd hw) rfl)
    (failed _ _ haudit rfl))
  refine Rules.tries_bind.mpr (tries_persist trivial trivial ?_ (failed _ _ haudit rfl)
    (failed _ _ hoperation rfl))
  refine Rules.tries_bind.mpr (tries_persist trivial trivial ?_ (failed _ _ hoperation rfl)
    (failed _ _ hrecord rfl))
  refine Rules.tries_bind.mpr (tries_lift.mpr (safe_update.mpr ⟨trivial, ?_⟩))
  exact tries_lift.mpr (safe_update.mpr ⟨trivial, done⟩)

/-- A transaction was handed over with its operation pending in memory and on disk. -/
structure Accepted (u t : World) (o : Operation) (work : TransactionWork) : Prop where
  spawned : t.memory.spawned = u.memory.spawned ++ [work]
  fresh : work.operationId ∉ u.used
  id : o.id = work.operationId
  state : o.state = .pending
  operation : t.memory.state.operations.get work.operationId = some o
  record : t.disk.operations.get work.operationId = some o
  manual : t.memory.state.manualInterventionRequired = u.memory.state.manualInterventionRequired

theorem tries_beginTransaction {kind : Kind} {r : MutationRequest} {body : RequestBody}
    {candidate : Candidate} {auditDigest : String} :
    (rules H fun _ => True).Tries (beginTransaction env kind r body candidate auditDigest)
      (fun o t => ∃ work, Accepted u t o work) (fun _ t => Attempted u t) u := by
  unfold beginTransaction reserveOperation
  refine Rules.tries_bind.mpr (tries_lift.mpr (safe_newId.mpr ⟨trivial, fun id hid => ?_⟩))
  refine Rules.tries_bind.mpr (Rules.tries_bind.mpr (tries_lift.mpr ?_))
  refine safe_perform _ trivial fun reply t hn => ?_
  obtain ⟨rfl, _, rfl⟩ | ⟨⟨e, rfl⟩, rfl⟩ := next_reserve hn
  · refine Rules.tries_bind.mpr (tries_lift.mpr (safe_newId.mpr ⟨trivial, fun auditId _ => ?_⟩))
    simp only [Rules.tries_bind, tries_lift, safe_now, true_and]
    intro t₁ t₂ t₃ t₄ t₅
    refine Rules.safe_run.mpr (tries_persistIntent (u := u) rfl rfl rfl ?_ ?_)
    · refine Rules.tries_bind.mpr (tries_lift.mpr (safe_update.mpr ⟨trivial, ?_⟩))
      refine ⟨_, rfl, hid, rfl, rfl, ?_, ?_, rfl⟩
      · change (Keyed.put _ _).get id = _
        rw [Keyed.get_put, if_pos rfl]
      · change (Keyed.put _ _).get id = _
        rw [Keyed.get_put, if_pos rfl]
    · intro e t ht _
      refine Rules.tries_bind.mpr (tries_lift.mpr (safe_releaseOperation.mpr ⟨trivial, ?_⟩))
      exact ht
  · exact .of_disk rfl rfl

/-- A call that started a transaction: it pruned, and the store asked for no operator. -/
def Started (w : World) (o : Operation) (t : World) : Prop :=
  ∃ u work, Pruned (Terminal w.memory.state) w u ∧
    w.memory.state.manualInterventionRequired = false ∧ Accepted u t o work

/-- A call that failed: it pruned, and may have written a part of its intent. -/
def Refused (w t : World) : Prop :=
  ∃ u, Pruned (Terminal w.memory.state) w u ∧ Attempted u t

theorem Pruned.of_setLocks {T : String → Prop} {locks : List Mutex}
    (h : Pruned T (w.setLocks locks) t) : Pruned T w t :=
  ⟨h.config, h.changes, h.used, h.manual, h.active, h.spawned, h.operations, h.remembered,
    h.audits, h.writes⟩

theorem Started.setLocks {o : Operation} {locks locks' : List Mutex}
    (h : Started (w.setLocks locks) o t) : Started w o (t.setLocks locks') := by
  obtain ⟨u, work, hu, hmanual, ha⟩ := h
  exact ⟨u, work, hu.of_setLocks, hmanual,
    ⟨ha.spawned, ha.fresh, ha.id, ha.state, ha.operation, ha.record, ha.manual⟩⟩

theorem Refused.setLocks {locks locks' : List Mutex} (h : Refused (w.setLocks locks) t) :
    Refused w (t.setLocks locks') := by
  obtain ⟨u, hu, ha⟩ := h
  exact ⟨u, hu.of_setLocks, ha⟩

/-- What is read between the pruning and the start of the transaction. -/
theorem tries_reads {α : Type} {T : String → Prop} {p : Try α} {Q : α → World → Prop}
    {E : TransactionError → World → Prop} (hp : TryOnly (Act.prunes T) p) (hu : Pruned T w u)
    (done : ∀ x t, Pruned T w t → Q x t) (failed : ∀ e t, Pruned T w t → E e t) :
    (rules H fun _ => True).Tries p Q E u :=
  (tries_prunes hp (fun _ _ => trivial) hu).mono done failed

theorem Pruned.refused (h : Pruned (Terminal w.memory.state) w u) : Refused w u :=
  ⟨u, h, .refl u⟩

/-- The last part of both kinds of calls. -/
theorem tries_begin_after {kind : Kind} {r : MutationRequest} {body : RequestBody}
    {candidate : Candidate} {auditDigest : String} (hu : Pruned (Terminal w.memory.state) w u)
    (hmanual : w.memory.state.manualInterventionRequired = false) :
    (rules H fun _ => True).Tries (do
        checkCurrentEtag env r.suppliedEtag
        beginTransaction env kind r body candidate auditDigest)
      (Started w) (fun _ t => Refused w t) u := by
  refine Rules.tries_bind.mpr (tries_reads (checkCurrentEtag_only env reads_prunes _) hu ?_ ?_)
  · intro _ t ht
    refine (tries_beginTransaction env).mono ?_ ?_
    · rintro o t' ⟨work, ha⟩
      exact ⟨t, work, ht, hmanual, ha⟩
    · intro e t' ha
      exact ⟨t, ht, ha⟩
  · exact fun _ t ht => ht.refused

theorem tries_startApply {r : ApplyRequest} :
    (rules H fun _ => True).Tries (startApply env r) (Started w) (fun _ t => Refused w t) w := by
  unfold startApply
  refine Rules.tries_bind.mpr ((tries_ensureWritable env fun _ _ => trivial).mono ?_
    fun _ t ht => ht.refused)
  rintro _ u ⟨hu, hmanual⟩
  refine Rules.tries_bind.mpr (tries_reads (tryOnly_lift reads_prunes.plans) hu ?_ ?_)
  · intro plans t ht
    split
    · exact ht.refused
    · refine Rules.tries_bind.mpr (tries_reads (tryOnly_lift reads_prunes.timestamp) ht ?_ ?_)
      · intro time t ht
        refine Rules.tries_bind.mpr (tries_reads (tryOnly_check _) ht ?_ ?_)
        · exact fun _ t ht => tries_begin_after env ht hmanual
        · exact fun _ t ht => ht.refused
      · exact fun _ t ht => ht.refused
  · exact fun _ t ht => ht.refused

theorem tries_startRollback {r : RollbackRequest} :
    (rules H fun _ => True).Tries (startRollback env r) (Started w) (fun _ t => Refused w t) w := by
  unfold startRollback
  refine Rules.tries_bind.mpr ((tries_ensureWritable env fun _ _ => trivial).mono ?_
    fun _ t ht => ht.refused)
  rintro _ u ⟨hu, hmanual⟩
  refine Rules.tries_bind.mpr (tries_reads (tryOnly_lift reads_prunes.state) hu ?_ ?_)
  · intro s t ht
    split
    · exact ht.refused
    · refine Rules.tries_bind.mpr (tries_reads (readDocument_only env reads_prunes _) ht ?_ ?_)
      · intro bytes t ht
        refine Rules.tries_bind.mpr (tries_reads (tryOnly_check _) ht ?_ ?_)
        · exact fun _ t ht => tries_begin_after env ht hmanual
        · exact fun _ t ht => ht.refused
      · exact fun _ t ht => ht.refused
  · exact fun _ t ht => ht.refused

/-- A call is answered from its record, starts a transaction, or fails. -/
theorem tries_admit {r : MutationRequest} {body : RequestBody} {start : Try Operation}
    (h : ∀ w, (rules H fun _ => True).Tries start (Started w) (fun _ t => Refused w t) w) :
    (rules H fun _ => True).Tries (admitMutation env r body start)
      (fun o t => t.memory.spawned = w.memory.spawned ∨ Started w o t) (fun _ t => Refused w t)
      w := by
  refine tries_withLock trivial ?_
  refine Rules.tries_bind.mpr (tries_lift.mpr (safe_state.mpr ⟨trivial, ?_⟩))
  refine Rules.tries_bind.mpr (tries_check.mpr ?_)
  split
  · rename_i found _
    cases found with
    | some operation => exact ⟨trivial, .inl rfl⟩
    | none =>
      refine (h _).mono ?_ ?_
      · exact fun o t ht => ⟨trivial, .inr ht.setLocks⟩
      · exact fun e t ht => ⟨trivial, ht.setLocks⟩
  · refine ⟨trivial, w, .refl w, .of_disk rfl rfl⟩

theorem tries_accept {m : Mutation} :
    (rules H fun _ => True).Tries (accept env m)
      (fun o t => t.memory.spawned = w.memory.spawned ∨ Started w o t) (fun _ t => Refused w t)
      w := by
  have hself : Refused w w := Pruned.refused (.refl w)
  cases m with
  | apply r =>
    refine Rules.tries_bind.mpr (tries_check.mpr ?_)
    split
    · exact tries_admit env fun w => tries_startApply env
    · exact hself
  | rollback r =>
    refine Rules.tries_bind.mpr (tries_check.mpr ?_)
    split
    · refine Rules.tries_bind.mpr (tries_check.mpr ?_)
      split
      · exact tries_admit env fun w => tries_startRollback env
      · exact hself
    · exact hself

/-- A transaction that was started is under way. -/
theorem Started.underway {o : Operation} (h : Started w o t) (hi : Intended w t) :
    ∃ work, t.memory.spawned = w.memory.spawned ++ [work] ∧ work.operationId ∉ w.used ∧
      o.id = work.operationId ∧ Underway work (view work.operationId t) := by
  obtain ⟨u, work, hu, hmanual, ha⟩ := h
  have hfresh : work.operationId ∉ w.used := hu.used ▸ ha.fresh
  have hlive : o.state.isTerminal = false := by
    rw [ha.state]
    rfl
  refine ⟨work, ?_, hfresh, ha.id, ⟨o, ha.operation, hlive⟩, ⟨o, ha.record, hlive⟩,
    hi.unclaimed _ hfresh, ?_⟩
  · rw [ha.spawned, hu.spawned]
  · exact ha.manual.trans (hu.manual.trans hmanual)

end Ends

end Starry.ConfigStore
