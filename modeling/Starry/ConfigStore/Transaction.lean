import Starry.ConfigStore.Rules

/-!
# What the parts of a transaction change

A transaction is followed through the view of its own operation: the managed file, the operation
in memory and on disk, the audit records, the revisions and the answers of HBBS.
-/

open Library

namespace Starry.ConfigStore

structure View where
  config : Option Bytes
  changes : Nat
  manual : Bool
  active : Option String
  operation : Option Operation
  record : Option Operation
  audits : AuditRecords
  revisions : Revisions
  manifests : Revisions
  documents : Table String Bytes
  replies : List (Method × Except AgentError Value)

/-- The world as the operation `id` depends on it. -/
def view (id : String) (w : World) : View :=
  { config := w.disk.config, changes := w.changes
    manual := w.memory.state.manualInterventionRequired
    active := w.memory.activeOperation
    operation := w.memory.state.operations.get id
    record := w.disk.operations.get id
    audits := w.disk.audits
    revisions := w.memory.state.revisions
    manifests := w.disk.revisions
    documents := w.disk.documents
    replies := w.replies }

section

variable {id : String} {w : World}

@[simp] theorem view_useId {r : String} : view id (w.useId r) = view id w := rfl

@[simp] theorem view_setLocks {locks : List Mutex} : view id (w.setLocks locks) = view id w := rfl

@[simp] theorem view_setConfig {config : Option Bytes} :
    view id (w.setConfig config) =
      { view id w with config, changes := (view id w).changes + 1 } := rfl

@[simp] theorem view_hear {m : Method} {r : Except AgentError Value} :
    view id (w.hear m r) = { view id w with replies := (view id w).replies ++ [(m, r)] } := rfl

@[simp] theorem view_markManual :
    view id (w.update .markManual) = { view id w with manual := true } := rfl

@[simp] theorem view_release {id' : String} :
    view id (w.update (.release id')) =
      { view id w with active := if (view id w).active = some id' then none
                                  else (view id w).active } := rfl

@[simp] theorem view_publish_audit {a : AuditRecord} :
    view id (w.publish (.audit a)) = { view id w with audits := (view id w).audits.put a } := rfl

theorem view_publish_operation {o : Operation} (h : o.id = id) :
    view id (w.publish (.operation o)) = { view id w with record := some o } := by
  simp [view, World.publish, Disk.put, h]

theorem view_putOperation {o : Operation} (h : o.id = id) :
    view id (w.update (.putOperation o)) = { view id w with operation := some o } := by
  simp [view, World.update, Memory.apply, StoreState.apply, h]

end

/-! ## The records of the operation -/

/-- What is on disk of a transaction when the agent stops. -/
abbrev OnDisk := Option Bytes → Option Operation → AuditRecords → Prop

def View.durably (v : View) (J : OnDisk) : Prop := J v.config v.record v.audits

/-- The rules of a transaction: `J` holds on disk before every action. With `H`, the existence
checks of the managed file are truthful. -/
def during (H : Prop) (id : String) (J : OnDisk) : Rules Act Act.Reply World :=
  rules H fun w => (view id w).durably J

section Specs

variable {H : Prop} {id : String} {J : OnDisk} {w : World} {v : View}

theorem tries_updateOperation {found : Operation} {state : OperationState}
    {ack error : Option Value} {Q : Unit → World → Prop} {E : TransactionError → World → Prop}
    (hv : view id w = v) (hfound : v.operation = some found) (hJ : v.durably J)
    (hJ' : ∀ time, J v.config (some (found.stamp state ack error time)) v.audits)
    (done : ∀ time t, view id t = { v with
      operation := some (found.stamp state ack error time)
      record := some (found.stamp state ack error time) } → Q () t)
    (lost : ∀ e t, view id t = v → E e t)
    (unsure : ∀ e time t,
      view id t = { v with record := some (found.stamp state ack error time) } → E e t) :
    (during H id J).Tries (updateOperation id state ack error) Q E w := by
  have hget : w.memory.state.operations.get id = some found := by
    rw [← hfound, ← hv]
    rfl
  have hid : found.id = id := Keyed.get_key hget
  have hw : (view id w).durably J := by rwa [hv]
  refine tries_withLock hw ?_
  simp only [Rules.tries_bind, tries_lift, safe_state]
  refine ⟨hw, ?_⟩
  split
  · rename_i hnone
    exact absurd (hget.symm.trans hnone) (Option.some_ne_none found)
  rename_i stored hstored
  obtain rfl := Option.some.inj (hget.symm.trans hstored)
  simp only [Rules.tries_bind, tries_lift, safe_now]
  refine ⟨hw, fun time => ?_⟩
  have hstamp : (found.stamp state ack error time).id = id := hid
  have hp : (view id ((w.setLocks (.state :: w.memory.locks)).publish
      (.operation (found.stamp state ack error time)))).durably J := by
    rw [view_publish_operation hstamp, view_setLocks, hv]
    exact hJ' time
  refine tries_persist hw hp ?_ ?_ ?_
  · refine safe_update.mpr ⟨hp, ?_, ?_⟩
    · rw [view_putOperation hstamp]
      exact hp
    · refine done time _ ?_
      rw [view_setLocks, view_putOperation hstamp, view_publish_operation hstamp, view_setLocks, hv]
  · exact ⟨hw, lost _ _ (by simpa using hv)⟩
  · refine ⟨hp, unsure _ time _ ?_⟩
    rw [view_setLocks, view_publish_operation hstamp, view_setLocks, hv]

/-- The audit record of the end may have been written. -/
def Audited (state : OperationState) (v v' : View) : Prop :=
  v' = v ∨ ∃ a : AuditRecord, a.result = .state state ∧ v' = { v with audits := v.audits.put a }

/-- The operation ends in `state` in memory and on disk, or the store asks for an operator. -/
theorem safe_finishOperation {work : TransactionWork} {found : Operation} {state : OperationState}
    {ack : Option Value} {error : TransactionError} {recovery : Option RecoveryResult}
    {Q : Unit → World → Prop} (hid : work.operationId = id) (hv : view id w = v)
    (hfound : v.operation = some found) (hJ : ∀ v', Audited state v v' → v'.durably J)
    (hJ' : ∀ v' problem time, Audited state v v' →
      J v'.config (some (found.stamp state ack problem time)) v'.audits)
    (done : ∀ v' o t, Audited state v v' → o.state = state →
      view id t = { v' with operation := some o, record := some o } → Q () t)
    (failed : ∀ v' record t, Audited state v v' →
      (record = v'.record ∨ ∃ o : Operation, o.state = state ∧ record = some o) →
      view id t = { v' with record, manual := true } → Q () t) :
    (during H id J).Safe (finishOperation work state ack error recovery) Q w := by
  have hw : v.durably J := hJ v (.inl rfl)
  -- What follows the audit record, whether or not it was written.
  have hrest : ∀ v' t, Audited state v v' → view id t = v' →
      (during H id J).Safe (recordOutcome work state ack error) Q t := by
    intro v' t ha ht
    have hop : v'.operation = some found := by
      obtain rfl | ⟨a, _, rfl⟩ := ha <;> exact hfound
    subst hid
    refine Rules.safe_bind.mpr (Rules.safe_run.mpr ?_)
    refine tries_updateOperation ht hop (hJ v' ha) (fun time => hJ' v' _ time ha) ?_ ?_ ?_
    · intro time u hu
      exact done v' _ u ha rfl hu
    · intro e u hu
      refine safe_markManual.mpr ⟨by rw [hu]; exact hJ v' ha, failed v' _ _ ha (.inl rfl) ?_⟩
      rw [view_markManual, hu]
    · intro e time u hu
      refine safe_markManual.mpr ⟨by rw [hu]; exact hJ' v' _ time ha, ?_⟩
      refine failed v' (some (found.stamp state ack (some (problemValue error work.requestId)) time))
        _ ha (.inr ⟨_, rfl, rfl⟩) ?_
      rw [view_markManual, hu]
  unfold finishOperation
  refine Rules.safe_bind.mpr (safe_now.mpr ⟨by rwa [hv], fun time => ?_⟩)
  have hput : ∀ a : AuditRecord, a.result = .state state →
      Audited state v (view id (w.publish (.audit a))) := by
    intro a ha
    exact .inr ⟨a, ha, by rw [view_publish_audit, hv]⟩
  refine Rules.safe_bind.mpr (Rules.safe_discard.mpr (safe_atomicWrite (by rwa [hv]) ?_ ?_ ?_ ?_))
  · exact hJ _ (hput _ (by rfl))
  · exact hrest _ _ (hput _ (by rfl)) rfl
  · exact fun _ => hrest _ _ (.inl rfl) hv
  · exact fun _ => hrest _ _ (hput _ (by rfl)) rfl

/-! ## The managed file -/

theorem tries_validateManagedParent {I : World → Prop} {Q : Parent → World → Prop}
    {E : TransactionError → World → Prop} (hI : I w) (done : ∀ parent, Q parent w)
    (failed : ∀ e, E e w) : (rules H I).Tries validateManagedParent Q E w := by
  unfold validateManagedParent
  refine Rules.tries_bind.mpr (tries_lift.mpr (safe_ask.mpr ⟨hI, ?_⟩))
  rintro (_ | parent)
  · exact failed _
  · exact done parent

theorem tries_inject {L : Rules Act Act.Reply World} {failAt : Option ConfigWriteFault}
    {fault : ConfigWriteFault} {detail : String} {Q : Unit → World → Prop}
    {E : TransactionError → World → Prop} (done : Q () w) (failed : ∀ e, E e w) :
    L.Tries (inject failAt fault detail) Q E w := by
  unfold inject
  split
  · exact failed _
  · exact done

/-- A step on the temporary file leaves the world as it is. -/
theorem tries_temporary {I : World → Prop} {step : TemporaryStep}
    {error : String → TransactionError} {Q : Unit → World → Prop}
    {E : TransactionError → World → Prop} (hI : I w) (done : Q () w) (failed : ∀ e, E e w) :
    (rules H I).Tries (orElse error (temporary step)) Q E w := by
  refine tries_orElse.mpr (safe_temporary.mpr ⟨hI, ?_⟩)
  rintro (text | _)
  · exact failed _
  · exact done

/-- Until the rename nothing has changed, and the rename is the last thing that can fail. -/
theorem tries_stageConfig {I : World → Prop} {bytes : Bytes}
    {original : OriginalConfig} {failAt : Option ConfigWriteFault} {Q : Unit → World → Prop}
    {E : TransactionError → World → Prop} (hI : I w) (done : Q () (w.setConfig (some bytes)))
    (failed : ∀ e, E e w) : (rules H I).Tries (stageConfig bytes original failAt) Q E w := by
  have hrename : (rules H I).Tries
      (orElse (fun _ => .internal "Cannot atomically replace the configuration.")
        (renameConfig bytes)) Q E w := by
    refine tries_orElse.mpr (safe_perform _ hI fun r t hn => ?_)
    obtain ⟨rfl, rfl⟩ | ⟨⟨text, rfl⟩, rfl⟩ := next_renameConfig.mp hn
    · exact done
    · exact failed _
  have hsynced : (rules H I).Tries
      (do
        inject failAt .fileSync "Injected configuration file fsync failure."
        orElse (fun _ => .internal "Cannot fsync the configuration temporary file.")
          (temporary .sync)
        inject failAt .rename "Injected configuration rename failure."
        if !sameParent (← validateManagedParent) original then throw unsafeConfigPath
        orElse (fun _ => .internal "Cannot atomically replace the configuration.")
          (renameConfig bytes)) Q E w := by
    refine Rules.tries_bind.mpr (tries_inject ?_ failed)
    refine Rules.tries_bind.mpr (tries_temporary hI ?_ failed)
    refine Rules.tries_bind.mpr (tries_inject ?_ failed)
    refine Rules.tries_bind.mpr (tries_validateManagedParent hI (fun parent => ?_) failed)
    split
    · exact failed _
    · exact hrename
  unfold stageConfig
  refine Rules.tries_bind.mpr (tries_inject ?_ failed)
  refine Rules.tries_bind.mpr (tries_temporary hI ?_ failed)
  refine Rules.tries_bind.mpr (tries_inject ?_ failed)
  refine Rules.tries_bind.mpr (tries_temporary hI ?_ failed)
  split
  · exact Rules.tries_bind.mpr (tries_temporary hI hsynced failed)
  · exact hsynced

/-- A failure reports a possible change exactly when the file was replaced. -/
theorem safe_atomicReplaceConfigWithFault {I : World → Prop} {bytes : Bytes}
    {original : OriginalConfig} {failAt : Option ConfigWriteFault}
    {Q : Except WriteFailure Unit → World → Prop} (hI : I w)
    (hI' : I (w.setConfig (some bytes))) (done : Q (.ok ()) (w.setConfig (some bytes)))
    (unchanged : ∀ e, Q (.error ⟨e, false⟩) w)
    (unsure : ∀ e, Q (.error ⟨e, true⟩) (w.setConfig (some bytes))) :
    (rules H I).Safe (atomicReplaceConfigWithFault bytes original failAt) Q w := by
  unfold atomicReplaceConfigWithFault
  refine Rules.safe_bind.mpr (Rules.safe_run.mpr ?_)
  refine tries_validateManagedParent hI (fun parent => ?_) unchanged
  dsimp only
  split
  · exact unchanged _
  refine Rules.safe_bind.mpr (Rules.safe_run.mpr (tries_stageConfig hI ?_ fun e => ?_))
  · refine Rules.safe_bind.mpr (Rules.safe_run.mpr ?_)
    unfold syncConfig
    refine Rules.tries_bind.mpr (tries_inject ?_ unsure)
    exact tries_orElse.mpr (safe_syncDirectory.mpr ⟨hI', done, fun _ => unsure _⟩)
  · exact Rules.safe_bind.mpr (Rules.safe_discard.mpr (safe_temporary.mpr ⟨hI, fun _ => unchanged e⟩))

end Specs

/-! ## Steps beside the managed file -/

/-- No audit record says that the operation succeeded. -/
def Unclaimed (id : String) (audits : AuditRecords) : Prop :=
  ∀ k a, audits.get k = some a → a.operationId = id → a.result ≠ .state .succeeded

theorem Unclaimed.put {id : String} {audits : AuditRecords} {a : AuditRecord}
    (h : Unclaimed id audits) (ha : a.result ≠ .state .succeeded) : Unclaimed id (audits.put a) := by
  intro k b hb hid
  rw [Keyed.get_put] at hb
  split at hb
  · cases hb
    exact ha
  · exact h k b hb hid

/-- The operation, its records and the state of the store are as they were. -/
structure Kept (id : String) (v v' : View) : Prop where
  manual : v'.manual = v.manual
  active : v'.active = v.active
  operation : v'.operation = v.operation
  record : v'.record = v.record
  audits : Unclaimed id v.audits → Unclaimed id v'.audits

/-- So is the managed file. -/
structure Held (id : String) (v v' : View) : Prop extends Kept id v v' where
  config : v'.config = v.config
  changes : v'.changes = v.changes

theorem Kept.trans {id : String} {v v' v'' : View} (h : Kept id v v') (h' : Kept id v' v'') :
    Kept id v v'' :=
  ⟨h'.manual.trans h.manual, h'.active.trans h.active, h'.operation.trans h.operation,
    h'.record.trans h.record, fun ha => h'.audits (h.audits ha)⟩

namespace Held

variable {id : String} {v v' v'' : View}

theorem refl (v : View) : Held id v v := ⟨⟨rfl, rfl, rfl, rfl, fun h => h⟩, rfl, rfl⟩

theorem trans (h : Held id v v') (h' : Held id v' v'') : Held id v v'' :=
  ⟨h.toKept.trans h'.toKept, h'.config.trans h.config, h'.changes.trans h.changes⟩

end Held

/-- Actions that touch neither the managed file nor an operation. -/
def Act.quiet : Act → Prop
  | .rename (.audit a) => a.result ≠ .state .succeeded
  | .rename (.operation _) => False
  | .rename _ => True
  | .update (.putRevision _) | .update (.dropRevision _) => True
  | .update _ => False
  | .remove (.revision _) | .remove (.document _) => True
  | .remove _ => False
  | .renameConfig _ | .removeConfig | .reserve _ => False
  | _ => True

theorem reads_quiet : Reads Act.quiet := by
  intro a ha
  cases a <;> first | trivial | cases ha

theorem Act.quiet.held {a : Act} {r : a.Reply} {w t : World} (id : String) (h : a.quiet)
    (hn : next w a r t) : Held id (view id w) (view id t) := by
  cases next_effect hn with
  | same => exact .refl _
  | newId _ _ => exact .refl _
  | lock m _ => exact .refl _
  | unlock m => exact .refl _
  | update u =>
    cases u with
    | putRevision rev => exact ⟨⟨rfl, rfl, rfl, rfl, fun ha => ha⟩, rfl, rfl⟩
    | dropRevision rid => exact ⟨⟨rfl, rfl, rfl, rfl, fun ha => ha⟩, rfl, rfl⟩
    | _ => exact h.elim
  | rename e =>
    cases e with
    | operation o => exact h.elim
    | audit a => exact ⟨⟨rfl, rfl, rfl, rfl, fun ha => ha.put h⟩, rfl, rfl⟩
    | _ => exact ⟨⟨rfl, rfl, rfl, rfl, fun ha => ha⟩, rfl, rfl⟩
  | remove f =>
    cases f with
    | revision rid => exact ⟨⟨rfl, rfl, rfl, rfl, fun ha => ha⟩, rfl, rfl⟩
    | document rid => exact ⟨⟨rfl, rfl, rfl, rfl, fun ha => ha⟩, rfl, rfl⟩
    | _ => exact h.elim
  | call m r => exact ⟨⟨rfl, rfl, rfl, rfl, fun ha => ha⟩, rfl, rfl⟩
  | _ => exact h.elim

section Quiet

variable {H : Prop} {id : String} {J : OnDisk} {w : World} {v : View} {α ε : Type}

theorem safe_quiet {p : Agent α} (h : p.Only Act.quiet)
    (hJ : ∀ v', Held id v v' → v'.durably J) (hv : Held id v (view id w)) :
    (during H id J).Safe p (fun _ t => Held id v (view id t)) w :=
  h.safe hv fun s a ha hs => ⟨hJ _ hs, fun r t hn => hs.trans (ha.held id hn.1)⟩

theorem tries_quiet {p : ExceptT ε Agent α} (h : Prog.TryOnly Act.quiet p)
    (hJ : ∀ v', Held id v v' → v'.durably J) (hv : Held id v (view id w)) :
    (during H id J).Tries p (fun _ t => Held id v (view id t)) (fun _ t => Held id v (view id t)) w :=
  (safe_quiet h hJ hv).mono fun r t hr => by cases r <;> exact hr

end Quiet

end Starry.ConfigStore
