import Starry.ConfigStore.System

/-!
# The phases of a task

What a task may do next depends on whether it is inside of the admission lock, whether its key was
recorded, and whether it holds the store. Every program of the agent keeps to these phases,
whatever its actions answer.
-/

open Library Library.Prog

namespace Starry.ConfigStore

variable (env : Env)

/-! ## Phases -/

/-- What the holder of the store may do with the record of its operation. -/
inductive Pen
  | open (id : String)
  /-- The operation was just published, and memory does not have it yet. -/
  | written (o : Operation)
  /-- The operation is ended, or the holder is a reload. -/
  | closed (id : String)

def Pen.id : Pen → String
  | .open id | .closed id => id
  | .written o => o.id

def Pen.Writes : Pen → String → Prop
  | .open id, i => id = i
  | .written o, i => o.id = i
  | .closed _, _ => False

/-- The pen once an operation is in memory. -/
def Pen.put (o : Operation) : Pen := if o.state.isTerminal then .closed o.id else .open o.id

inductive Phase
  | outside
  | entered
  /-- The key was not recorded when it was looked up. -/
  | clear
  | named (id : String)
  | begun (pen : Pen)
  /-- A reload that was recorded and is still inside. -/
  | keeping (pen : Pen)
  | leaving
  | working (pen : Pen)

namespace Phase

def pen : Phase → Option Pen
  | .begun pen | .keeping pen | .working pen => some pen
  | _ => none

def setPen : Phase → Pen → Phase
  | .begun _, pen => .begun pen
  | .keeping _, pen => .keeping pen
  | .working _, pen => .working pen
  | φ, _ => φ

/-- The task holds the admission lock. -/
def Inside : Phase → Prop
  | .outside | .working _ => False
  | _ => True

/-- The task is inside and does not hold the store. -/
def Leaves : Phase → Prop
  | .entered | .clear | .named _ | .leaving => True
  | _ => False

/-- The task may still start the work of its key. -/
def Cleared : Phase → Prop
  | .clear | .named _ | .begun _ => True
  | _ => False

end Phase

/-- Actions that no phase depends on. -/
def Act.plain : Act → Prop
  | .newId | .state | .reserve _ | .rename (.operation _) => False
  | .lock m | .unlock m => m ≠ .admission
  | .update (.putIdempotency r) => r.unresolved = false
  | .update (.putOperation _) | .update (.release _) | .update (.spawn _)
  | .update (.install _) => False
  | _ => True

inductive Phase.Step (key : String) : Phase → (a : Act) → a.Reply → Phase → Prop
  | plain (φ : Phase) (a : Act) (r : a.Reply) (h : a.plain) : Phase.Step key φ a r φ
  | enter (r : Act.Reply (.lock .admission)) :
      Phase.Step key .outside (.lock .admission) r .entered
  | leave (φ : Phase) (r : Act.Reply (.unlock .admission)) (h : φ.Leaves) :
      Phase.Step key φ (.unlock .admission) r .outside
  | keep (pen : Pen) (r : Act.Reply (.unlock .admission)) :
      Phase.Step key (.keeping pen) (.unlock .admission) r (.working pen)
  | found (s : StoreState) (h : Retained s key) : Phase.Step key .entered .state s .leaving
  | absent (s : StoreState) (h : ¬ Retained s key) : Phase.Step key .entered .state s .clear
  | state (φ : Phase) (s : StoreState) (h : φ ≠ .entered) : Phase.Step key φ .state s φ
  | name (id : String) : Phase.Step key .clear .newId id (.named id)
  | newId (φ : Phase) (id : String) (h : φ ≠ .clear) : Phase.Step key φ .newId id φ
  | reserve (id : String) : Phase.Step key (.named id) (.reserve id) (.ok ()) (.begun (.open id))
  | reload (id : String) : Phase.Step key .clear (.reserve id) (.ok ()) (.begun (.closed id))
  | busy (φ : Phase) (id : String) (e : TransactionError) :
      Phase.Step key φ (.reserve id) (.error e) φ
  | release (pen : Pen) (r : Act.Reply (.update (.release pen.id))) :
      Phase.Step key (.begun pen) (.update (.release pen.id)) r .leaving
  | finish (pen : Pen) (r : Act.Reply (.update (.release pen.id))) :
      Phase.Step key (.working pen) (.update (.release pen.id)) r .outside
  | spawn (work : TransactionWork) (r : Act.Reply (.update (.spawn work)))
      (hkey : work.audit.idempotencyKeyHash = key) :
      Phase.Step key (.begun (.open work.operationId)) (.update (.spawn work)) r .leaving
  | write (φ : Phase) (pen : Pen) (o : Operation) (hpen : φ.pen = some pen)
      (h : pen.Writes o.id) :
      Phase.Step key φ (.rename (.operation o)) (.ok ()) (φ.setPen (.written o))
  | lost (φ : Phase) (o : Operation) (text : String) :
      Phase.Step key φ (.rename (.operation o)) (.error text) φ
  | put (φ : Phase) (o : Operation) (r : Act.Reply (.update (.putOperation o)))
      (hpen : φ.pen = some (.written o)) :
      Phase.Step key φ (.update (.putOperation o)) r (φ.setPen (.put o))
  | start (pen : Pen) (record : IdempotencyRecord)
      (r : Act.Reply (.update (.putIdempotency record))) (h : record.keyHash = key) :
      Phase.Step key (.begun pen) (.update (.putIdempotency record)) r (.keeping pen)

/-- Every reply leads to a phase in which the rest is as required. -/
def phases (key : String) : Rules Act Act.Reply Phase where
  before a Q φ := ∀ r, ∃ ψ, Phase.Step key φ a r ψ ∧ Q r ψ
  mono hQ h r := by
    obtain ⟨ψ, hs, hq⟩ := h r
    exact ⟨ψ, hs, hQ r ψ hq⟩

/-! ## Parts that keep the phase -/

/-- Actions that keep the phase. -/
def Act.Keeps (key : String) (φ : Phase) (a : Act) : Prop := ∀ r, Phase.Step key φ a r φ

section Keeps

variable {key : String} {φ : Phase} {α ε : Type}

theorem Act.plain.keeps {a : Act} (h : a.plain) : a.Keeps key φ := fun r => .plain φ a r h

theorem safe_keeps {p : Agent α} {Q : α → Phase → Prop} (hp : p.Only (Act.Keeps key φ))
    (h : ∀ x, Q x φ) : (phases key).Safe p Q φ := by
  induction p with
  | pure x => exact h x
  | act a k ih => exact fun r => ⟨φ, hp.1 r, ih r (hp.2 r)⟩

theorem tries_keeps {p : ExceptT ε Agent α} {Q : α → Phase → Prop} {E : ε → Phase → Prop}
    (hp : TryOnly (Act.Keeps key φ) p) (h : ∀ x, Q x φ) (he : ∀ e, E e φ) :
    (phases key).Tries p Q E φ := by
  refine safe_keeps hp ?_
  rintro (e | x)
  · exact he e
  · exact h x

theorem reads_keeps (h : φ ≠ .entered) : Reads (Act.Keeps key φ) := by
  intro a ha
  cases a with
  | state => exact fun s => .state φ s h
  | lock m => exact Act.plain.keeps (bne_iff_ne.mp ha)
  | unlock m => exact Act.plain.keeps (bne_iff_ne.mp ha)
  | newId => cases ha
  | update u => cases ha
  | reserve id => cases ha
  | rename e => cases ha
  | remove f => cases ha
  | renameConfig bytes => cases ha
  | removeConfig => cases ha
  | call m => cases ha
  | _ => exact Act.plain.keeps trivial

theorem prunes_keeps {T : String → Prop} {a : Act} (h : φ ≠ .entered) (ha : a.prunes T) :
    a.Keeps key φ := by
  obtain ha | ha := ha
  · exact reads_keeps h a ha
  · cases a with
    | remove f => exact Act.plain.keeps trivial
    | update u =>
      cases u with
      | dropOperation id => exact Act.plain.keeps trivial
      | dropIdempotency k => exact Act.plain.keeps trivial
      | dropRevision id => exact Act.plain.keeps trivial
      | _ => exact ha.elim
    | _ => exact ha.elim

/-- Actions that keep the phase of a task that is past its lookup and has drawn its ids. -/
def Act.calm (a : Act) : Prop := a.plain ∨ a = .state ∨ a = .newId

theorem Act.calm.keeps {a : Act} (ha : a.calm) (h : φ ≠ .entered) (h' : φ ≠ .clear) :
    a.Keeps key φ := by
  obtain ha | rfl | rfl := ha
  · exact Act.plain.keeps ha
  · exact fun s => .state φ s h
  · exact fun id => .newId φ id h'

theorem reads_calm : Reads Act.calm := by
  intro a ha
  cases a with
  | state => exact .inr (.inl rfl)
  | lock m => exact .inl (bne_iff_ne.mp ha)
  | unlock m => exact .inl (bne_iff_ne.mp ha)
  | newId => cases ha
  | update u => cases ha
  | reserve id => cases ha
  | rename e => cases ha
  | remove f => cases ha
  | renameConfig bytes => cases ha
  | removeConfig => cases ha
  | call m => cases ha
  | _ => exact .inl trivial

theorem Act.prunes.calm {T : String → Prop} {a : Act} (ha : a.prunes T) : a.calm := by
  obtain ha | ha := ha
  · exact reads_calm a ha
  · cases a with
    | remove f => exact .inl trivial
    | update u =>
      cases u with
      | dropOperation id => exact .inl trivial
      | dropIdempotency k => exact .inl trivial
      | dropRevision id => exact .inl trivial
      | _ => exact ha.elim
    | _ => exact ha.elim

end Keeps

/-! ## Parts of a transaction -/

section Calm

theorem newId_calm : newId.Only Act.calm := newId_only (.inr (.inr rfl))

theorem hbbs_calm (m : Method) : TryOnly Act.calm (hbbs m) := by
  refine .bind (tryOnly_lift (call_only (.inl trivial))) fun r => ?_
  split
  · exact tryOnly_throw
  · exact tryOnly_pure

theorem runtimeState_calm : TryOnly Act.calm runtimeState :=
  .bind (hbbs_calm _) fun _ => tryOnly_check _

theorem persistRecovery_calm (work : TransactionWork) (original : OriginalConfig) :
    TryOnly Act.calm (persistRecovery work original) := by
  have hmetadata : ∀ m : RecoveryMetadata,
      TryOnly Act.calm (persist (.recovery m) "Cannot persist recovery metadata.") :=
    fun _ => persist_only reads_calm (.inl trivial)
  unfold persistRecovery
  split
  · exact .bind (tryOnly_lift reads_calm.now) fun _ => hmetadata _
  · refine .bind (persist_only reads_calm (.inl trivial)) fun _ => ?_
    exact .bind (tryOnly_lift reads_calm.now) fun _ => hmetadata _

theorem persistRevision_calm (revision : Revision) (document : Bytes) :
    TryOnly Act.calm (persistRevision revision document) := by
  refine .bind (persist_only reads_calm (.inl trivial)) fun _ => ?_
  refine .bind (persist_only reads_calm (.inl trivial)) fun _ => ?_
  exact tryOnly_lift (update_only (.inl trivial))

theorem ensureBaselineRevision_calm (work : TransactionWork) (original : OriginalConfig) :
    TryOnly Act.calm (ensureBaselineRevision env work original) := by
  unfold ensureBaselineRevision persistBaseline
  split
  · exact tryOnly_pure
  · split
    · exact tryOnly_pure
    · refine .bind (tryOnly_lift reads_calm.state) fun s => ?_
      split
      · exact tryOnly_pure
      · refine .bind (tryOnly_lift newId_calm) fun id => ?_
        exact .bind (tryOnly_lift reads_calm.now) fun time => persistRevision_calm _ _

theorem prepare_calm (work : TransactionWork) : TryOnly Act.calm (prepare env work) := by
  refine .bind (tryOnly_lift reads_calm.now) fun time => ?_
  refine .bind (persist_only reads_calm (.inl trivial)) fun _ => ?_
  refine .bind (readOriginal_only env reads_calm) fun original => ?_
  split
  · exact tryOnly_throw
  refine .bind runtimeState_calm fun runtime => ?_
  split
  · exact tryOnly_throw
  refine .bind (persistRecovery_calm work original) fun _ => ?_
  refine .bind (ensureBaselineRevision_calm env work original) fun _ => ?_
  refine .bind (readConfig_only env reads_calm) fun bytes => ?_
  split
  · exact tryOnly_throw
  · exact tryOnly_pure

theorem activate_calm (work : TransactionWork) : TryOnly Act.calm (activate env work) := by
  refine .bind (hbbs_calm _) fun value => .bind (tryOnly_check _) fun ack => ?_
  refine .bind ?_ fun _ => tryOnly_pure
  refine .bind (tryOnly_lift newId_calm) fun id => .bind (tryOnly_lift reads_calm.now) fun time => ?_
  refine .bind (persistRevision_calm _ _) fun _ => .discard (tryOnly_lift ?_)
  exact (pruneRevisions_only (T := fun _ => True) env _).mono fun a ha => ha.calm

theorem inject_only {S : Act → Prop} (failAt : Option ConfigWriteFault) (fault : ConfigWriteFault)
    (detail : String) : TryOnly S (inject failAt fault detail) := by
  unfold inject
  split
  · exact tryOnly_throw
  · exact tryOnly_pure

theorem stageConfig_calm (bytes : Bytes) (original : OriginalConfig)
    (failAt : Option ConfigWriteFault) : TryOnly Act.calm (stageConfig bytes original failAt) := by
  have hstep : ∀ (t : TemporaryStep) (error : String → TransactionError),
      TryOnly Act.calm (orElse error (temporary t)) :=
    fun t error => tryOnly_orElse (reads_calm.temporary t)
  have hrest : TryOnly Act.calm (do
      inject failAt .fileSync "Injected configuration file fsync failure."
      orElse (fun _ => .internal "Cannot fsync the configuration temporary file.")
        (temporary .sync)
      inject failAt .rename "Injected configuration rename failure."
      if !sameParent (← validateManagedParent) original then throw unsafeConfigPath
      orElse (fun _ => .internal "Cannot atomically replace the configuration.")
        (renameConfig bytes)) := by
    refine .bind (inject_only ..) fun _ => .bind (hstep ..) fun _ => ?_
    refine .bind (inject_only ..) fun _ => ?_
    refine .bind (validateManagedParent_only reads_calm) fun parent => ?_
    split
    · exact tryOnly_throw
    · exact tryOnly_orElse (perform_only (.inl trivial))
  unfold stageConfig
  refine .bind (inject_only ..) fun _ => .bind (hstep ..) fun _ => ?_
  refine .bind (inject_only ..) fun _ => .bind (hstep ..) fun _ => ?_
  split
  · exact .bind (hstep ..) fun _ => hrest
  · exact hrest

theorem replaceConfig_calm (bytes : Bytes) (original : OriginalConfig) :
    (atomicReplaceConfig bytes original).Only Act.calm := by
  unfold atomicReplaceConfig atomicReplaceConfigWithFault
  refine Only.bind (validateManagedParent_only reads_calm) fun parent => ?_
  split
  · exact only_pure
  · split
    · exact only_pure
    · refine Only.bind (stageConfig_calm bytes original none) fun staged => ?_
      split
      · exact Only.bind (Only.discard (reads_calm.temporary _)) fun _ => only_pure
      · have hsync : TryOnly Act.calm (syncConfig none) :=
          .bind (inject_only ..) fun _ => tryOnly_orElse (reads_calm.syncDirectory _)
        refine Only.bind hsync fun synced => ?_
        split <;> exact only_pure

theorem restoreConfig_calm (original : OriginalConfig) :
    TryOnly Act.calm (restoreConfig original) := by
  unfold restoreConfig
  split
  · refine .bind (tryOnly_lift (replaceConfig_calm _ _)) fun r => ?_
    split
    · exact tryOnly_pure
    · exact tryOnly_throw
  · refine .bind (tryOnly_lift (perform_only (.inl trivial))) fun present => ?_
    split
    · refine .bind (tryOnly_orElse (perform_only (.inl trivial))) fun _ => ?_
      exact tryOnly_orElse (reads_calm.syncDirectory _)
    · exact tryOnly_pure

theorem verifyRestoredBytes_calm (original : OriginalConfig) :
    TryOnly Act.calm (verifyRestoredBytes original) := by
  unfold verifyRestoredBytes
  split
  · refine .bind (tryOnly_lift (perform_only (.inl trivial))) fun raw => ?_
    split
    · exact tryOnly_throw
    · split
      · exact tryOnly_throw
      · exact tryOnly_pure
  · refine .bind (tryOnly_lift (perform_only (.inl trivial))) fun present => ?_
    split
    · exact tryOnly_throw
    · exact tryOnly_pure

theorem confirmRestored_calm (work : TransactionWork) (original : OriginalConfig) :
    TryOnly Act.calm (confirmRestored work original) := by
  refine .bind (restoreConfig_calm original) fun _ => ?_
  refine .bind (verifyRestoredBytes_calm original) fun _ => ?_
  refine .bind (.discard (tryOnly_lift (call_only (.inl trivial)))) fun _ => ?_
  refine .bind runtimeState_calm fun runtime => ?_
  split
  · exact tryOnly_throw
  · exact tryOnly_pure

end Calm

/-! ## A transaction -/

section Transaction

variable {key id : String} {φ : Phase} {α ε : Type}

theorem phase_ask {q : Query} {Q : q.Reply → Phase → Prop} (h : ∀ r, Q r φ) :
    (phases key).Safe (ask q) Q φ :=
  fun r => ⟨φ, .plain φ _ r trivial, h r⟩

theorem phase_now {Q : String → Phase → Prop} (h : ∀ r, Q r φ) : (phases key).Safe now Q φ :=
  phase_ask h

theorem phase_state {Q : StoreState → Phase → Prop} (hφ : φ ≠ .entered) (h : ∀ s, Q s φ) :
    (phases key).Safe state Q φ :=
  fun s => ⟨φ, .state φ s hφ, h s⟩

theorem phase_update {u : Update} {Q : Unit → Phase → Prop} (hu : (Act.update u).plain)
    (h : Q () φ) : (phases key).Safe (update u) Q φ :=
  fun r => ⟨φ, .plain φ _ r hu, h⟩

theorem phase_withLock {m : Mutex} {body : ExceptT ε Agent α} {Q : α → Phase → Prop}
    {E : ε → Phase → Prop} (hm : m ≠ .admission) (h : (phases key).Tries body Q E φ) :
    (phases key).Tries (withLock m body) Q E φ := by
  unfold withLock
  refine Rules.tries_bind.mpr (Rules.tries_lift.mpr fun r => ⟨φ, .plain φ _ r hm, ?_⟩)
  refine Rules.tries_bind.mpr (tries_lift.mpr (Rules.safe_run.mpr (h.mono ?_ ?_)))
  all_goals
    intro x ψ hx
    exact Rules.tries_bind.mpr (Rules.tries_lift.mpr fun r => ⟨ψ, .plain ψ _ r hm, hx⟩)

/-- Publishing an operation leaves it written, or the write is lost. -/
theorem phase_writeOperation {o : Operation} {pen : Pen} {Q : Os → Phase → Prop}
    (hpen : φ.pen = some pen) (hw : pen.Writes o.id) (done : Q (.ok ()) (φ.setPen (.written o)))
    (lost : ∀ text, Q (.error text) φ)
    (unsure : ∀ text, Q (.error text) (φ.setPen (.written o))) :
    (phases key).Safe (atomicWrite (.operation o)) Q φ := by
  have hclean : ∀ (r : Os) ψ, Q r ψ → (phases key).Safe (cleanUp r) Q ψ := by
    rintro (text | _) ψ hQ
    · exact Rules.safe_bind.mpr (Rules.safe_discard.mpr (phase_ask fun _ => hQ))
    · exact hQ
  have hstep : ∀ {t : TemporaryStep} {error : String → String} {R : Unit → Phase → Prop}
      {E : String → Phase → Prop}, R () φ → (∀ text, E text φ) →
      (phases key).Tries (orElse error (temporary t)) R E φ := by
    intro t error R E hR hE
    refine tries_orElse.mpr (phase_ask ?_)
    rintro (text | _)
    · exact hE _
    · exact hR
  rw [atomicWrite_eq]
  unfold publishEntry
  refine Rules.safe_bind.mpr (Rules.safe_run.mpr ?_)
  refine Rules.tries_bind.mpr (hstep ?_ fun _ => hclean _ _ (lost _))
  refine Rules.tries_bind.mpr (hstep ?_ fun _ => hclean _ _ (lost _))
  refine Rules.tries_bind.mpr (hstep ?_ fun _ => hclean _ _ (lost _))
  refine Rules.tries_bind.mpr (tries_orElse.mpr fun r => ?_)
  obtain text | _ := r
  · exact ⟨φ, .lost φ o text, hclean _ _ (lost _)⟩
  · refine ⟨_, .write φ pen o hpen hw, tries_orElse.mpr (Rules.safe_bind.mpr (phase_ask ?_))⟩
    rintro (text | _)
    · exact hclean _ _ (unsure _)
    · exact hclean _ _ done

/-- The task works on the operation and may still write it. -/
def Writing (id : String) (φ : Phase) : Prop := ∃ pen, φ = .working pen ∧ pen.Writes id

/-- The task works and holds the store under `id`. -/
def Holding (id : String) (φ : Phase) : Prop := ∃ pen, φ = .working pen ∧ pen.id = id

theorem Writing.holding (h : Writing id φ) : Holding id φ := by
  obtain ⟨pen, rfl, hw⟩ := h
  refine ⟨pen, rfl, ?_⟩
  cases pen with
  | «open» i => exact hw
  | written o => exact hw
  | closed i => exact hw.elim

theorem Writing.put {o : Operation} (ho : o.id = id) (h : o.state.isTerminal = false) :
    Writing id (.working (.put o)) :=
  ⟨_, rfl, by simp [Pen.put, h, Pen.Writes, ho]⟩

theorem phase_updateOperation {state : OperationState} {ack error : Option Value}
    (h : Writing id φ) :
    (phases key).Tries (updateOperation id state ack error)
      (fun _ ψ => Holding id ψ ∧ (state.isTerminal = false → Writing id ψ))
      (fun _ ψ => Writing id ψ) φ := by
  obtain ⟨pen, rfl, hw⟩ := h
  refine phase_withLock (by simp) ?_
  refine Rules.tries_bind.mpr (tries_lift.mpr (phase_state (by simp) fun s => ?_))
  split
  · exact ⟨pen, rfl, hw⟩
  · rename_i found hget
    have hid : found.id = id := Keyed.get_key hget
    refine Rules.tries_bind.mpr (tries_lift.mpr (phase_now fun time => ?_))
    have hwrites : pen.Writes (found.stamp state ack error time).id := by
      change pen.Writes found.id
      rwa [hid]
    refine Rules.tries_bind.mpr (tries_orElse.mpr
      (phase_writeOperation rfl hwrites ?_ (fun _ => ⟨pen, rfl, hw⟩) fun _ => ⟨_, rfl, hid⟩))
    refine tries_lift.mpr fun r => ⟨_, .put _ _ r rfl, ⟨_, rfl, ?_⟩, fun hlive => ?_⟩
    · unfold Pen.put
      split <;> exact hid
    · exact Writing.put hid hlive

/-- A write beside the operation keeps the phase. -/
theorem phase_write {e : Entry} {Q : Os → Phase → Prop} (he : (Act.rename e).plain)
    (hφ : φ ≠ .entered) (h : ∀ r, Q r φ) : (phases key).Safe (atomicWrite e) Q φ :=
  safe_keeps (atomicWrite_only (reads_keeps hφ) he.keeps) h

theorem Writing.ne (h : Writing id φ) : φ ≠ .entered ∧ φ ≠ .clear := by
  obtain ⟨pen, rfl, _⟩ := h
  exact ⟨by simp, by simp⟩

theorem phase_calm {p : ExceptT ε Agent α} {Q : α → Phase → Prop} {E : ε → Phase → Prop}
    (hp : TryOnly Act.calm p) (hφ : Writing id φ) (h : ∀ x, Q x φ) (he : ∀ e, E e φ) :
    (phases key).Tries p Q E φ :=
  tries_keeps (hp.mono fun _ ha => ha.keeps hφ.ne.1 hφ.ne.2) h he

theorem phase_finishOperation {work : TransactionWork} {state : OperationState}
    {ack : Option Value} {error : TransactionError} {recovery : Option RecoveryResult}
    (h : Writing work.operationId φ) :
    (phases key).Safe (finishOperation work state ack error recovery)
      (fun _ ψ => Holding work.operationId ψ) φ := by
  refine Rules.safe_bind.mpr (phase_now fun time => ?_)
  refine Rules.safe_bind.mpr (Rules.safe_discard.mpr (phase_write trivial h.ne.1 fun _ => ?_))
  refine Rules.safe_bind.mpr (Rules.safe_run.mpr ((phase_updateOperation h).mono ?_ ?_))
  · exact fun _ ψ hψ => hψ.1
  · exact fun _ ψ hψ => phase_update trivial hψ.holding

theorem phase_recoverTransaction {work : TransactionWork} {original : OriginalConfig}
    {cause : TransactionError} (h : Writing work.operationId φ) :
    (phases key).Safe (recoverTransaction work original cause)
      (fun _ ψ => Holding work.operationId ψ) φ := by
  refine Rules.safe_bind.mpr (Rules.safe_run.mpr
    (phase_calm (confirmRestored_calm work original) h ?_ ?_))
  · exact fun _ => phase_finishOperation h
  · exact fun _ => Rules.safe_bind.mpr (phase_update trivial (phase_finishOperation h))

theorem phase_recordSuccess {work : TransactionWork} {ack : Value}
    (h : Writing work.operationId φ) :
    (phases key).Safe (recordSuccess env work ack) (fun _ ψ => Holding work.operationId ψ) φ := by
  have hmanual : ∀ (audit : AuditRecord) ψ, Writing work.operationId ψ → (phases key).Safe
      (do
        markManual
        finishOperation { work with audit } .manualInterventionRequired none
          (rollbackFailed
            "The configuration activated but its durable result could not be recorded.")
          (some .durableResultFailed))
      (fun _ ψ => Holding work.operationId ψ) ψ := by
    intro audit ψ hψ
    refine Rules.safe_bind.mpr (phase_update trivial ?_)
    have hsame : Writing ({ work with audit } : TransactionWork).operationId ψ := hψ
    exact phase_finishOperation hsame
  refine Rules.safe_bind.mpr (phase_now fun time => ?_)
  refine Rules.safe_bind.mpr (Rules.safe_run.mpr (Rules.tries_bind.mpr (tries_orElse.mpr ?_)))
  refine phase_write trivial h.ne.1 ?_
  rintro (text | _)
  · exact hmanual _ _ h
  · refine (phase_updateOperation h).mono ?_ ?_
    · exact fun _ ψ hψ => hψ.1
    · exact fun _ ψ hψ => hmanual _ ψ hψ

theorem phase_replaceAndActivate {work : TransactionWork} {original : OriginalConfig}
    (h : Writing work.operationId φ) :
    (phases key).Safe (replaceAndActivate env work original)
      (fun _ ψ => Holding work.operationId ψ) φ := by
  refine Rules.safe_bind.mpr (safe_keeps ((replaceConfig_calm work.candidate original).mono
    fun _ ha => ha.keeps h.ne.1 h.ne.2) ?_)
  rintro (failure | _)
  · dsimp only
    split
    · exact phase_recoverTransaction h
    · exact phase_finishOperation h
  · refine Rules.safe_bind.mpr (Rules.safe_run.mpr (phase_calm (activate_calm env work) h ?_ ?_))
    · exact fun _ => phase_recordSuccess env h
    · exact fun _ => phase_recoverTransaction h

/-- A transaction keeps to its phases and ends with the store released. -/
theorem phase_executeTransaction {work : TransactionWork} (h : Writing work.operationId φ) :
    (phases key).Safe (executeTransaction env work) (fun _ ψ => ψ = .outside) φ := by
  have hrun : (phases key).Safe (runTransaction env work)
      (fun _ ψ => Holding work.operationId ψ) φ := by
    refine Rules.safe_bind.mpr (Rules.safe_run.mpr ((phase_updateOperation h).mono ?_ ?_))
    · rintro _ ψ ⟨_, hψ⟩
      refine Rules.safe_bind.mpr (Rules.safe_run.mpr
        (phase_calm (prepare_calm env work) (hψ rfl) ?_ ?_))
      · exact fun original => phase_replaceAndActivate env (hψ rfl)
      · exact fun e => phase_finishOperation (hψ rfl)
    · exact fun _ ψ hψ => phase_update trivial hψ.holding
  refine Rules.safe_bind.mpr (hrun.mono ?_)
  rintro _ ψ ⟨pen, rfl, hid⟩ r
  rw [← hid] at r ⊢
  exact ⟨.outside, .finish pen r, rfl⟩

end Transaction

/-! ## Requests -/

theorem idempotentOperation_absent {s : StoreState} {keyHash requestDigest : String}
    {caller : TransactionCaller} (h : ¬ Retained s keyHash) :
    idempotentOperation env s keyHash requestDigest caller = .ok none := by
  unfold Retained at h
  unfold idempotentOperation
  cases hget : s.idempotency.get keyHash with
  | none => rfl
  | some record => simp [hget] at h

theorem idempotentOperation_retained {s : StoreState} {keyHash : String} (requestDigest : String)
    (caller : TransactionCaller) (h : Retained s keyHash) :
    idempotentOperation env s keyHash requestDigest caller ≠ .ok none := by
  unfold Retained at h
  unfold idempotentOperation
  cases hget : s.idempotency.get keyHash with
  | none => simp [hget] at h
  | some record =>
    dsimp only
    split
    · simp
    · split
      · simp
      · split <;> simp

theorem idempotentReload_absent {s : StoreState} {keyHash requestDigest : String}
    {caller : TransactionCaller} (h : ¬ Retained s keyHash) :
    idempotentReload env s keyHash requestDigest caller = .ok none := by
  unfold Retained at h
  unfold idempotentReload
  cases hget : s.idempotency.get keyHash with
  | none => rfl
  | some record => simp [hget] at h

theorem idempotentReload_retained {s : StoreState} {keyHash : String} (requestDigest : String)
    (caller : TransactionCaller) (h : Retained s keyHash) :
    idempotentReload env s keyHash requestDigest caller ≠ .ok none := by
  unfold Retained at h
  unfold idempotentReload
  cases hget : s.idempotency.get keyHash with
  | none => simp [hget] at h
  | some record =>
    dsimp only
    split
    · simp
    · split
      · simp
      · split <;> simp

section Requests

variable {key : String} {α : Type}

/-- A body under the admission lock. -/
theorem phase_admission {body : Try α} {Q : α → Phase → Prop}
    {E : TransactionError → Phase → Prop}
    (h : (phases key).Tries body
      (fun x ψ => ∃ χ, (∀ r, Phase.Step key ψ (.unlock .admission) r χ) ∧ Q x χ)
      (fun e ψ => ψ.Leaves ∧ E e .outside) .entered) :
    (phases key).Tries (withLock .admission body) Q E .outside := by
  unfold withLock
  refine Rules.tries_bind.mpr (Rules.tries_lift.mpr fun r => ⟨.entered, .enter r, ?_⟩)
  refine Rules.tries_bind.mpr (tries_lift.mpr (Rules.safe_run.mpr (h.mono ?_ ?_)))
  · rintro x ψ ⟨χ, hstep, hx⟩
    exact Rules.tries_bind.mpr (Rules.tries_lift.mpr fun r => ⟨χ, hstep r, hx⟩)
  · rintro e ψ ⟨hψ, he⟩
    exact Rules.tries_bind.mpr (Rules.tries_lift.mpr fun r => ⟨_, .leave ψ r hψ, he⟩)

/-- The lookup of the key. -/
theorem phase_lookup {Q : StoreState → Phase → Prop}
    (found : ∀ s, Retained s key → Q s .leaving) (absent : ∀ s, ¬ Retained s key → Q s .clear) :
    (phases key).Safe state Q .entered := by
  intro s
  by_cases hs : Retained s key
  · exact ⟨_, .found s hs, found s hs⟩
  · exact ⟨_, .absent s hs, absent s hs⟩

theorem phase_ensureWritable {Q : Unit → Phase → Prop} {E : TransactionError → Phase → Prop}
    (h : Q () .clear) (he : ∀ e, E e .clear) :
    (phases key).Tries (ensureWritable env) Q E .clear :=
  tries_keeps ((ensureWritable_only env).mono fun _ ha => prunes_keeps (by simp) ha)
    (fun _ => h) he

/-- What is read between the lookup and the start of the work. -/
theorem phase_read {p : Try α} {Q : α → Phase → Prop} {E : TransactionError → Phase → Prop}
    (hp : ∀ S, Reads S → TryOnly S p) (h : ∀ x, Q x .clear) (he : ∀ e, E e .clear) :
    (phases key).Tries p Q E .clear :=
  tries_keeps (hp _ (reads_keeps (by simp))) h he

theorem phase_persist {φ : Phase} {e : Entry} {detail : String} {Q : Unit → Phase → Prop}
    {E : TransactionError → Phase → Prop} (he : (Act.rename e).plain) (hφ : φ ≠ .entered)
    (h : Q () φ) (hE : ∀ e, E e φ) : (phases key).Tries (persist e detail) Q E φ := by
  refine tries_orElse.mpr (phase_write he hφ ?_)
  rintro (text | _)
  · exact hE _
  · exact h

/-- The intent of a transaction: the operation is written and put, and then handed over. -/
theorem phase_persistIntent {id : String} {operation : Operation} {audit : AuditRecord}
    {record : IdempotencyRecord} {Q : Unit → Phase → Prop} {E : TransactionError → Phase → Prop}
    (hid : operation.id = id) (hstate : operation.state = .pending)
    (hrecord : record.unresolved = false) (done : Q () (.begun (.open id)))
    (failed : ∀ e pen, pen.id = id → E e (.begun pen)) :
    (phases key).Tries (persistIntent operation audit record) Q E (.begun (.open id)) := by
  unfold persistIntent
  refine Rules.tries_bind.mpr (phase_persist trivial (by simp) ?_ fun _ => failed _ _ rfl)
  refine Rules.tries_bind.mpr (tries_orElse.mpr
    (phase_writeOperation rfl hid.symm ?_ (fun _ => failed _ _ rfl) fun _ => failed _ _ hid))
  refine Rules.tries_bind.mpr (phase_persist trivial (by simp [Phase.setPen]) ?_
    fun _ => failed _ _ hid)
  refine Rules.tries_bind.mpr (tries_lift.mpr fun r => ⟨_, .put _ _ r rfl, ?_⟩)
  have hpen : Pen.put operation = .open id := by
    unfold Pen.put
    rw [hstate, hid]
    rfl
  change (phases key).Tries _ Q E (.begun (.put operation))
  rw [hpen]
  exact tries_lift.mpr (phase_update hrecord done)

theorem phase_beginTransaction {kind : Kind} {r : MutationRequest} {body : RequestBody}
    {candidate : Candidate} {auditDigest : String}
    (hkey : idempotencyHash env r.idempotencyKey = key) (hkind : kind ≠ .runtimeReload) :
    (phases key).Tries (beginTransaction env kind r body candidate auditDigest)
      (fun _ ψ => ψ.Leaves) (fun _ ψ => ψ.Leaves) .clear := by
  unfold beginTransaction reserveOperation
  refine Rules.tries_bind.mpr (tries_lift.mpr fun id => ⟨_, .name id, ?_⟩)
  refine Rules.tries_bind.mpr (Rules.tries_bind.mpr (tries_lift.mpr fun reply => ?_))
  obtain e | _ := reply
  · exact ⟨_, .busy _ id e, trivial⟩
  refine ⟨_, .reserve id, ?_⟩
  refine Rules.tries_bind.mpr (tries_lift.mpr fun auditId => ⟨_, .newId _ auditId (by simp), ?_⟩)
  refine Rules.tries_bind.mpr (tries_lift.mpr (phase_now fun _ => ?_))
  refine Rules.tries_bind.mpr (tries_lift.mpr (phase_now fun _ => ?_))
  refine Rules.tries_bind.mpr (tries_lift.mpr (phase_now fun _ => ?_))
  refine Rules.tries_bind.mpr (tries_lift.mpr (phase_now fun _ => ?_))
  refine Rules.tries_bind.mpr (tries_lift.mpr (phase_now fun _ => ?_))
  refine Rules.tries_bind.mpr (tries_lift.mpr (Rules.safe_run.mpr ?_))
  refine phase_persistIntent rfl rfl (by simp [IdempotencyRecord.unresolved, hkind]) ?_ ?_
  · exact Rules.tries_bind.mpr (tries_lift.mpr fun r => ⟨_, .spawn _ r hkey, trivial⟩)
  · intro e pen hpen
    subst hpen
    exact Rules.tries_bind.mpr (tries_lift.mpr fun r => ⟨_, .release pen r, trivial⟩)

theorem phase_startApply {r : ApplyRequest}
    (hkey : idempotencyHash env r.idempotencyKey = key) :
    (phases key).Tries (startApply env r) (fun _ ψ => ψ.Leaves) (fun _ ψ => ψ.Leaves) .clear := by
  refine Rules.tries_bind.mpr (phase_ensureWritable env ?_ fun _ => trivial)
  refine Rules.tries_bind.mpr (phase_read (fun S h => tryOnly_lift h.plans) ?_ fun _ => trivial)
  intro plans
  split
  · exact trivial
  refine Rules.tries_bind.mpr (phase_read (fun S h => tryOnly_lift h.timestamp) ?_ fun _ => trivial)
  intro time
  refine Rules.tries_bind.mpr (phase_read (fun S h => tryOnly_check _) ?_ fun _ => trivial)
  intro _
  refine Rules.tries_bind.mpr (phase_read (fun S h => checkCurrentEtag_only env h _) ?_
    fun _ => trivial)
  exact fun _ => phase_beginTransaction env hkey (by simp)

theorem phase_startRollback {r : RollbackRequest}
    (hkey : idempotencyHash env r.idempotencyKey = key) :
    (phases key).Tries (startRollback env r) (fun _ ψ => ψ.Leaves) (fun _ ψ => ψ.Leaves)
      .clear := by
  refine Rules.tries_bind.mpr (phase_ensureWritable env ?_ fun _ => trivial)
  refine Rules.tries_bind.mpr (phase_read (fun S h => tryOnly_lift h.state) ?_ fun _ => trivial)
  intro s
  split
  · exact trivial
  refine Rules.tries_bind.mpr (phase_read (fun S h => readDocument_only env h _) ?_
    fun _ => trivial)
  intro bytes
  refine Rules.tries_bind.mpr (phase_read (fun S h => tryOnly_check _) ?_ fun _ => trivial)
  intro _
  refine Rules.tries_bind.mpr (phase_read (fun S h => checkCurrentEtag_only env h _) ?_
    fun _ => trivial)
  exact fun _ => phase_beginTransaction env hkey (by simp)

theorem phase_admit {r : MutationRequest} {body : RequestBody} {start : Try Operation}
    (hkey : idempotencyHash env r.idempotencyKey = key)
    (h : (phases key).Tries start (fun _ ψ => ψ.Leaves) (fun _ ψ => ψ.Leaves) .clear) :
    (phases key).Tries (admitMutation env r body start) (fun _ ψ => ψ = .outside)
      (fun _ ψ => ψ = .outside) .outside := by
  have hleave : ∀ ψ : Phase, ψ.Leaves →
      ∃ χ, (∀ r, Phase.Step key ψ (.unlock .admission) r χ) ∧ χ = .outside :=
    fun ψ hψ => ⟨_, fun r => .leave ψ r hψ, rfl⟩
  refine phase_admission (Rules.tries_bind.mpr (tries_lift.mpr (phase_lookup ?_ ?_)))
  · intro s hs
    rw [hkey]
    refine Rules.tries_bind.mpr (tries_check.mpr ?_)
    have hnone := idempotentOperation_retained env (requestDigest env body) r.caller hs
    split
    · rename_i found hfound
      cases found with
      | none => exact absurd hfound hnone
      | some operation => exact hleave _ trivial
    · exact ⟨trivial, rfl⟩
  · intro s hs
    rw [hkey, idempotentOperation_absent env hs]
    refine h.mono ?_ ?_
    · exact fun _ ψ hψ => hleave ψ hψ
    · exact fun _ ψ hψ => ⟨hψ, rfl⟩

theorem phase_accept {m : Mutation}
    (hkey : idempotencyHash env m.request.idempotencyKey = key) :
    (phases key).Tries (accept env m) (fun _ ψ => ψ = .outside) (fun _ ψ => ψ = .outside)
      .outside := by
  cases m with
  | apply r =>
    refine Rules.tries_bind.mpr (tries_check.mpr ?_)
    split
    · exact phase_admit env hkey (phase_startApply env hkey)
    · rfl
  | rollback r =>
    refine Rules.tries_bind.mpr (tries_check.mpr ?_)
    split
    · refine Rules.tries_bind.mpr (tries_check.mpr ?_)
      split
      · exact phase_admit env hkey (phase_startRollback env hkey)
      · rfl
    · rfl

/-! Reloads. -/

theorem phase_startReload {r : ReloadRequest} {operationId : String}
    (hkey : idempotencyHash env r.idempotencyKey = key) :
    (phases key).Tries (startReload env r operationId)
      (fun reload ψ => ψ = .keeping (.closed reload.operationId)) (fun _ ψ => ψ.Leaves)
      .clear := by
  unfold startReload reserveOperation
  refine Rules.tries_bind.mpr (phase_ensureWritable env ?_ fun _ => trivial)
  refine Rules.tries_bind.mpr (phase_read (fun S h => readConfig_only env h) ?_ fun _ => trivial)
  intro current
  split
  · exact trivial
  refine Rules.tries_bind.mpr (Rules.tries_bind.mpr (tries_lift.mpr fun reply => ?_))
  obtain e | _ := reply
  · exact ⟨_, .busy _ operationId e, trivial⟩
  refine ⟨_, .reload operationId, ?_⟩
  refine Rules.tries_bind.mpr (tries_lift.mpr (phase_now fun _ => ?_))
  refine Rules.tries_bind.mpr (tries_lift.mpr fun auditId => ⟨_, .newId _ auditId (by simp), ?_⟩)
  refine Rules.tries_bind.mpr (tries_lift.mpr (phase_now fun _ => ?_))
  refine Rules.tries_bind.mpr (tries_lift.mpr (phase_now fun _ => ?_))
  have hrelease : ∀ {Q : PUnit → Phase → Prop}, Q () .leaving →
      (phases key).Safe (releaseOperation operationId) Q (.begun (.closed operationId)) :=
    fun hQ r => ⟨_, .release (.closed operationId) r, hQ⟩
  refine Rules.tries_bind.mpr (tries_lift.mpr (phase_write trivial (by simp) ?_))
  rintro (text | _)
  · exact Rules.tries_bind.mpr (tries_lift.mpr (hrelease trivial))
  refine Rules.tries_bind.mpr (tries_lift.mpr (Rules.safe_run.mpr ?_))
  refine Rules.tries_bind.mpr (phase_persist trivial (by simp) ?_ fun e => ?_)
  · exact tries_lift.mpr fun r => ⟨_, .start _ _ r hkey, rfl⟩
  · refine Rules.tries_bind.mpr (tries_lift.mpr (phase_now fun _ => ?_))
    refine Rules.tries_bind.mpr (Rules.tries_discard.mpr (tries_lift.mpr ?_))
    refine phase_write trivial (by simp) fun _ => ?_
    exact Rules.tries_bind.mpr (tries_lift.mpr (hrelease trivial))

theorem phase_admitReload {r : ReloadRequest} {operationId : String}
    (hkey : idempotencyHash env r.idempotencyKey = key) :
    (phases key).Tries (admitReload env r operationId)
      (fun x ψ => match x with
        | .inl _ => ψ = .outside
        | .inr reload => ψ = .working (.closed reload.operationId))
      (fun _ ψ => ψ = .outside) .outside := by
  refine phase_admission (Rules.tries_bind.mpr (tries_lift.mpr (phase_lookup ?_ ?_)))
  · intro s hs
    rw [hkey]
    refine Rules.tries_bind.mpr (tries_check.mpr ?_)
    have hnone := idempotentReload_retained env (requestDigest env r.body) r.caller hs
    split
    · rename_i found hfound
      cases found with
      | none => exact absurd hfound hnone
      | some outcome => exact ⟨_, fun r => .leave _ r trivial, rfl⟩
    · exact ⟨trivial, rfl⟩
  · intro s hs
    rw [hkey, idempotentReload_absent env hs]
    refine Rules.tries_bind.mpr (Rules.tries_bind.mpr ((phase_startReload env hkey).mono ?_ ?_))
    · rintro reload _ rfl
      exact ⟨_, fun r => .keep _ r, rfl⟩
    · exact fun _ ψ hψ => ⟨hψ, rfl⟩

theorem completedRecord_resolved (record : IdempotencyRecord)
    (result : Except TransactionError Value) :
    (completedRecord record result).unresolved = false := by
  cases result <;> simp [completedRecord, IdempotencyRecord.unresolved]

theorem phase_performReload {r : ReloadRequest} {reload : Reload} :
    (phases key).Tries (performReload r reload) (fun _ ψ => ψ = .outside)
      (fun _ ψ => ψ = .outside) (.working (.closed reload.operationId)) := by
  have hrelease : ∀ {Q : PUnit → Phase → Prop}, Q () .outside → (phases key).Safe
      (releaseOperation reload.operationId) Q (.working (.closed reload.operationId)) :=
    fun hQ r => ⟨_, .finish (.closed reload.operationId) r, hQ⟩
  have hrecord : ∀ result : Except TransactionError Value,
      (phases key).Tries (recordReload reload result) (fun _ ψ => ψ = .outside)
        (fun _ ψ => ψ = .outside) (.working (.closed reload.operationId)) := by
    intro result
    refine Rules.tries_bind.mpr (tries_lift.mpr (Rules.safe_run.mpr ?_))
    refine Rules.tries_bind.mpr (phase_persist trivial (by simp) ?_ fun e => ?_)
    · refine tries_lift.mpr (phase_update (completedRecord_resolved _ _) ?_)
      refine Rules.tries_bind.mpr (tries_lift.mpr (hrelease ?_))
      cases result <;> rfl
    · refine Rules.tries_bind.mpr (tries_lift.mpr (phase_update trivial ?_))
      exact Rules.tries_bind.mpr (tries_lift.mpr (hrelease rfl))
  unfold performReload
  refine Rules.tries_bind.mpr (tries_lift.mpr fun reply => ⟨_, .plain _ _ reply trivial, ?_⟩)
  refine Rules.tries_bind.mpr (tries_lift.mpr (phase_now fun _ => ?_))
  refine Rules.tries_bind.mpr (tries_lift.mpr (phase_write trivial (by simp) ?_))
  rintro (text | _)
  · refine Rules.tries_bind.mpr (tries_lift.mpr (phase_update trivial ?_))
    exact hrecord _
  · exact hrecord _

theorem phase_runtimeReload {r : ReloadRequest}
    (hkey : idempotencyHash env r.idempotencyKey = key) :
    (phases key).Tries (runtimeReload env r) (fun _ ψ => ψ = .outside) (fun _ ψ => ψ = .outside)
      .outside := by
  unfold runtimeReload
  refine Rules.tries_bind.mpr (tries_check.mpr ?_)
  split
  · refine Rules.tries_bind.mpr (tries_lift.mpr fun id => ⟨_, .newId _ id (by simp), ?_⟩)
    refine Rules.tries_bind.mpr ((phase_admitReload env hkey).mono ?_ fun _ _ hψ => hψ)
    rintro (outcome | reload) ψ hψ
    · obtain rfl : ψ = .outside := hψ
      cases outcome <;> rfl
    · obtain rfl : ψ = .working (.closed reload.operationId) := hψ
      exact phase_performReload
  · rfl

theorem createPlan_only {S : Act → Prop} (h : Reads S) (hid : S .newId)
    (hretain : ∀ time, S (.update (.retainPlans time))) (hput : ∀ p, S (.update (.putPlan p)))
    (r : PlanRequest) : TryOnly S (createPlan env r) := by
  refine .bind (readConfig_only env h) fun current => ?_
  split
  · exact tryOnly_throw
  refine .bind (tryOnly_lift (newId_only hid)) fun id => ?_
  refine .bind (tryOnly_lift (h.ask _)) fun expiry => h.withPlans ?_
  refine .bind (tryOnly_lift h.timestamp) fun time => ?_
  refine .bind (tryOnly_lift (update_only (hretain _))) fun _ => ?_
  refine .bind (tryOnly_lift h.plans) fun plans => ?_
  dsimp only
  split
  · exact tryOnly_throw
  · exact .bind (tryOnly_lift (update_only (hput _))) fun _ => tryOnly_pure

theorem createPlan_calm (r : PlanRequest) : TryOnly Act.calm (createPlan env r) :=
  createPlan_only env reads_calm (.inr (.inr rfl)) (fun _ => .inl trivial)
    (fun _ => .inl trivial) r

end Requests

end Starry.ConfigStore
