import Starry.ConfigStore.Outcome

/-!
# Configuration transactions are atomic

A transaction ends in exactly one of four ways. The exception is a managed file that did not exist
before: `Path::exists` is false also when the file cannot be inspected, so a recovery may take the
new file for removed.
-/

open Library

namespace Starry.ConfigStore

variable (env : Env)

inductive Outcome
  | succeeded | failed | rolledBack | manual
deriving DecidableEq, Repr

/-- The operation as the store reports it. -/
def InState (id : String) (state : OperationState) (w : World) : Prop :=
  ∃ o, w.memory.state.operations.get id = some o ∧ o.state = state

/-- What each way of ending says of the worlds before and after the transaction. -/
def Outcome.Holds (work : TransactionWork) (w w' : World) : Outcome → Prop
  | .succeeded => InState work.operationId .succeeded w' ∧
      w'.disk.config = some work.candidate ∧
      ∃ ack, Activated work ack (view work.operationId w')
  | .failed => InState work.operationId .failed w' ∧ w'.disk.config = w.disk.config ∧
      w'.changes = w.changes
  | .rolledBack => InState work.operationId .rolledBack w' ∧ w'.disk.config = w.disk.config ∧
      Reported work (view work.operationId w')
  | .manual => w'.memory.state.manualInterventionRequired = true

/-- Exactly one way of ending holds, and the store is released. -/
def EndsOnce (work : TransactionWork) (w w' : World) : Prop :=
  (∃! o : Outcome, o.Holds work w w') ∧ w'.memory.activeOperation ≠ some work.operationId

section

variable {work : TransactionWork} {w w' : World}

theorem InState.unique {id : String} {s s' : OperationState} (h : InState id s w)
    (h' : InState id s' w) : s = s' := by
  obtain ⟨o, ho, rfl⟩ := h
  obtain ⟨o', ho', rfl⟩ := h'
  rw [ho] at ho'
  cases ho'
  rfl

/-- The four ways exclude each other. -/
theorem Ended.unique (h : Ended work (view work.operationId w) (view work.operationId w')) :
    ∃! o : Outcome, o.Holds work w w' := by
  have hwhich : ∀ {s : OperationState} {o : Outcome},
      InState work.operationId s w' → o.Holds work w w' →
      (w'.memory.state.manualInterventionRequired = true ∧ o = .manual) ∨
      (s = .succeeded ∧ o = .succeeded) ∨ (s = .failed ∧ o = .failed) ∨
      (s = .rolledBack ∧ o = .rolledBack) := by
    intro s o hs ho
    cases o with
    | succeeded => exact .inr (.inl ⟨hs.unique ho.1, rfl⟩)
    | failed => exact .inr (.inr (.inl ⟨hs.unique ho.1, rfl⟩))
    | rolledBack => exact .inr (.inr (.inr ⟨hs.unique ho.1, rfl⟩))
    | manual => exact .inl ⟨ho, rfl⟩
  cases h with
  | succeeded o ack hop hstate hack hconfig hactivated hmanual =>
    have hin : InState work.operationId .succeeded w' := ⟨o, hop, hstate⟩
    refine ⟨.succeeded, ⟨hin, hconfig, ack, hactivated⟩, fun o' ho' => ?_⟩
    have hm : w'.memory.state.manualInterventionRequired = false := hmanual
    rcases hwhich hin ho' with ⟨ht, -⟩ | ⟨-, rfl⟩ | ⟨h, -⟩ | ⟨h, -⟩
    · rw [hm] at ht
      cases ht
    · rfl
    · cases h
    · cases h
  | failed o hop hstate hconfig hchanges hmanual =>
    have hin : InState work.operationId .failed w' := ⟨o, hop, hstate⟩
    refine ⟨.failed, ⟨hin, hconfig, hchanges⟩, fun o' ho' => ?_⟩
    have hm : w'.memory.state.manualInterventionRequired = false := hmanual
    rcases hwhich hin ho' with ⟨ht, -⟩ | ⟨h, -⟩ | ⟨-, rfl⟩ | ⟨h, -⟩
    · rw [hm] at ht
      cases ht
    · cases h
    · rfl
    · cases h
  | rolledBack o hop hstate hconfig hreported hmanual =>
    have hin : InState work.operationId .rolledBack w' := ⟨o, hop, hstate⟩
    refine ⟨.rolledBack, ⟨hin, hconfig, hreported⟩, fun o' ho' => ?_⟩
    have hm : w'.memory.state.manualInterventionRequired = false := hmanual
    rcases hwhich hin ho' with ⟨ht, -⟩ | ⟨h, -⟩ | ⟨h, -⟩ | ⟨-, rfl⟩
    · rw [hm] at ht
      cases ht
    · cases h
    · cases h
    · rfl
  | manual o hop hstate hmanual =>
    have hin : InState work.operationId o.state w' := ⟨o, hop, rfl⟩
    refine ⟨.manual, hmanual, fun o' ho' => ?_⟩
    rcases hwhich hin ho' with ⟨-, rfl⟩ | ⟨h, -⟩ | ⟨h, -⟩ | ⟨h, -⟩
    · rfl
    all_goals
      rw [h] at hstate
      cases hstate

end

/-! ## The run that goes wrong -/

/-- The rules of some run. -/
abbrev may : Rules Act Act.Reply World := .some next

section May

variable {w : World} {id : String} {α : Type} {E : TransactionError → World → Prop}

theorem may_ask {q : Query} {Q : q.Reply → World → Prop} (r : q.Reply) (h : Q r w) :
    may.Safe (ask q) Q w :=
  ⟨r, w, next_ask.mpr rfl, h⟩

theorem may_now {Q : String → World → Prop} (h : Q "" w) : may.Safe now Q w := may_ask "" h

theorem may_syncDirectory {d : Directory} {Q : Os → World → Prop} (h : Q (.ok ()) w) :
    may.Safe (syncDirectory d) Q w :=
  Rules.safe_bind.mpr (may_ask (q := .syncDirectory d) (.ok ()) h)

theorem may_temporary {t : TemporaryStep} {error : String → TransactionError}
    {Q : Unit → World → Prop} (h : Q () w) : may.Tries (orElse error (temporary t)) Q E w :=
  tries_orElse.mpr (may_ask (q := .temporary t) (.ok ()) h)

theorem may_atomicWrite {e : Entry} {Q : Os → World → Prop} (h : Q (.ok ()) (w.publish e)) :
    may.Safe (atomicWrite e) Q w := by
  have hstep : ∀ {t : TemporaryStep} {error : String → String} {Q : Unit → World → Prop}
      {E : String → World → Prop}, Q () w → may.Tries (orElse error (temporary t)) Q E w :=
    fun h => tries_orElse.mpr (may_ask (.ok ()) h)
  unfold atomicWrite publishEntry
  refine Rules.safe_bind.mpr (Rules.safe_run.mpr ?_)
  refine Rules.tries_bind.mpr (hstep (Rules.tries_bind.mpr (hstep (Rules.tries_bind.mpr
    (hstep (Rules.tries_bind.mpr (tries_orElse.mpr ?_)))))))
  refine ⟨.ok (), w.publish e, next_rename.mpr (.inl ⟨rfl, rfl⟩), ?_⟩
  exact tries_orElse.mpr (may_syncDirectory h)

theorem may_persist {e : Entry} {detail : String} {Q : Unit → World → Prop}
    (h : Q () (w.publish e)) : may.Tries (persist e detail) Q E w :=
  tries_orElse.mpr (may_atomicWrite h)

theorem may_update {u : Update} {Q : Unit → World → Prop} (h : Q () (w.update u)) :
    may.Safe (update u) Q w :=
  ⟨(), w.update u, next_update.mpr rfl, h⟩

theorem may_call {m : Method} {Q : Except AgentError Value → World → Prop}
    (r : Except AgentError Value) (h : Q r (w.hear m r)) : may.Safe (call m) Q w :=
  ⟨r, w.hear m r, next_call.mpr rfl, h⟩

theorem may_withLock {m : Mutex} {body : Try α} {Q : α → World → Prop}
    (hm : m ∉ w.memory.locks)
    (h : may.Tries body (fun x t => Q x (t.setLocks (t.memory.locks.erase m)))
      (fun e t => E e (t.setLocks (t.memory.locks.erase m)))
      (w.setLocks (m :: w.memory.locks))) : may.Tries (withLock m body) Q E w := by
  unfold withLock
  refine Rules.tries_bind.mpr (Rules.tries_lift.mpr ?_)
  refine ⟨(), _, next_lock.mpr ⟨hm, rfl⟩, ?_⟩
  refine Rules.tries_bind.mpr (tries_lift.mpr (Rules.safe_run.mpr (h.mono ?_ ?_)))
  all_goals
    intro x t hx
    refine Rules.tries_bind.mpr (Rules.tries_lift.mpr ?_)
    exact ⟨(), _, next_unlock.mpr rfl, hx⟩

/-- The view of the operation, in a world in which its records can be updated. -/
def At (id : String) (v : View) (w : World) : Prop := view id w = v ∧ .state ∉ w.memory.locks

theorem may_updateOperation {v : View} {found : Operation} {state : OperationState}
    {ack error : Option Value} {Q : Unit → World → Prop} (hw : At id v w)
    (hfound : v.operation = some found)
    (h : ∀ t, At id { v with operation := some (found.stamp state ack error "")
                             record := some (found.stamp state ack error "") } t → Q () t) :
    may.Tries (updateOperation id state ack error) Q E w := by
  obtain ⟨hv, hlock⟩ := hw
  have hget : w.memory.state.operations.get id = some found := by
    rw [← hfound, ← hv]
    rfl
  have hid : found.id = id := Keyed.get_key hget
  have hstamp : (found.stamp state ack error "").id = id := hid
  refine may_withLock hlock ?_
  refine Rules.tries_bind.mpr (tries_lift.mpr ⟨_, _, next_state.mpr ⟨rfl, rfl⟩, ?_⟩)
  change may.Tries _ _ _ _
  split
  · rename_i hnone
    exact absurd (hget.symm.trans hnone) (Option.some_ne_none found)
  rename_i stored hstored
  obtain rfl := Option.some.inj (hget.symm.trans hstored)
  refine Rules.tries_bind.mpr (tries_lift.mpr (may_now ?_))
  refine Rules.tries_bind.mpr (may_persist (tries_lift.mpr (may_update (h _ ⟨?_, ?_⟩))))
  · rw [view_setLocks, view_putOperation hstamp, view_publish_operation hstamp, view_setLocks, hv]
  · change Mutex.state ∉ (Mutex.state :: w.memory.locks).erase .state
    rwa [List.erase_cons_head]

theorem may_finishOperation {work : TransactionWork} {v : View} {found : Operation}
    {state : OperationState} {error : TransactionError} {recovery : Option RecoveryResult}
    {Q : Unit → World → Prop} (hid : work.operationId = id) (hw : At id v w)
    (hfound : v.operation = some found)
    (h : ∀ o t, o.state = state → t.disk.config = w.disk.config →
      t.memory.state.operations.get id = some o →
      t.memory.state.manualInterventionRequired = v.manual → Q () t) :
    may.Safe (finishOperation work state none error recovery) Q w := by
  obtain ⟨rfl, hlock⟩ := hw
  subst hid
  unfold finishOperation
  refine Rules.safe_bind.mpr (may_now (Rules.safe_bind.mpr (Rules.safe_discard.mpr ?_)))
  refine may_atomicWrite (Rules.safe_bind.mpr (Rules.safe_run.mpr ?_))
  refine may_updateOperation ⟨rfl, hlock⟩ hfound fun t ht => ?_
  exact h _ t rfl (congrArg View.config ht.1) (congrArg View.operation ht.1)
    (congrArg View.manual ht.1)

/-- A directory and an original that pass every check. -/
def plainParent : Parent := ⟨0, 0, true⟩

def absentOriginal : OriginalConfig := ⟨none, 0o600, 0, 0, 0, 0⟩

theorem may_validateManagedParent {Q : Parent → World → Prop} (h : Q plainParent w) :
    may.Tries validateManagedParent Q E w :=
  Rules.tries_bind.mpr (tries_lift.mpr (may_ask (some plainParent) h))

theorem may_readRegularBounded {Q : Option (Bytes × FileMeta) → World → Prop}
    (hnone : w.disk.config = none) (h : Q none w) :
    may.Tries (readRegularBounded env) Q E w := by
  unfold readRegularBounded
  refine Rules.tries_bind.mpr (tries_lift.mpr ⟨.ok none, w, ⟨.ok ⟨0, 0, 0⟩, ?_⟩, h⟩)
  simp [step, hnone, Except.map]

theorem may_hbbs {m : Method} {Q : Value → World → Prop} (value : Value)
    (h : Q value (w.hear m (.ok value))) : may.Tries (hbbs m) Q E w :=
  Rules.tries_bind.mpr (tries_lift.mpr (may_call (.ok value) h))

theorem may_runtimeState {Q : RuntimeSnapshot → World → Prop} {value : Value}
    {snapshot : RuntimeSnapshot} (hvalue : RuntimeSnapshot.fromValue value = .ok snapshot)
    (h : Q snapshot (w.hear .configRuntimeState (.ok value))) :
    may.Tries runtimeState Q E w := by
  refine Rules.tries_bind.mpr (may_hbbs value ?_)
  rw [hvalue]
  exact h

theorem may_prepare {work : TransactionWork} {v : View} {value : Value}
    {Q : OriginalConfig → World → Prop} (hw : At id v w) (hnone : v.config = none)
    (hetag : strongEtag env [] = work.baseEtag)
    (hvalue : RuntimeSnapshot.fromValue value = .ok work.baseRuntime)
    (h : ∀ v' t, v'.operation = v.operation → v'.manual = v.manual → At id v' t →
      Q absentOriginal t) : may.Tries (prepare env work) Q E w := by
  obtain ⟨rfl, hlock⟩ := hw
  unfold prepare readOriginal persistRecovery ensureBaselineRevision readConfig
  refine Rules.tries_bind.mpr (tries_lift.mpr (may_now ?_))
  refine Rules.tries_bind.mpr (may_persist ?_)
  refine Rules.tries_bind.mpr (Rules.tries_bind.mpr (may_validateManagedParent ?_))
  refine Rules.tries_bind.mpr (may_readRegularBounded env hnone ?_)
  refine Rules.tries_bind.mpr (tries_lift.mpr (may_ask (q := .effectiveOwner) (0, 0) ?_))
  change may.Tries (ite (strongEtag env [] ≠ work.baseEtag) _ _) _ _ _
  rw [if_neg (not_not.mpr hetag)]
  refine Rules.tries_bind.mpr (may_runtimeState hvalue ?_)
  rw [if_neg (not_not.mpr rfl)]
  refine Rules.tries_bind.mpr (Rules.tries_bind.mpr (tries_lift.mpr (may_now (may_persist ?_))))
  refine Rules.tries_bind.mpr (Rules.tries_bind.mpr (Rules.tries_bind.mpr ?_))
  refine may_readRegularBounded env hnone (Rules.tries_pure.mpr ?_)
  dsimp only
  rw [if_neg (not_not.mpr (by rfl))]
  refine h _ _ ?_ ?_ ⟨rfl, hlock⟩
  · rfl
  · rfl

theorem may_replaceConfig {bytes : Bytes} {Q : Except WriteFailure Unit → World → Prop}
    (h : Q (.ok ()) (w.setConfig (some bytes))) :
    may.Safe (atomicReplaceConfig bytes absentOriginal) Q w := by
  unfold atomicReplaceConfig atomicReplaceConfigWithFault stageConfig syncConfig
  refine Rules.safe_bind.mpr (Rules.safe_run.mpr (may_validateManagedParent ?_))
  refine Rules.safe_bind.mpr (Rules.safe_run.mpr ?_)
  refine Rules.tries_bind.mpr (Rules.tries_bind.mpr (may_temporary ?_))
  refine Rules.tries_bind.mpr (Rules.tries_bind.mpr (may_temporary ?_))
  refine Rules.tries_bind.mpr (Rules.tries_bind.mpr (may_temporary ?_))
  refine Rules.tries_bind.mpr (Rules.tries_bind.mpr (may_validateManagedParent ?_))
  refine tries_orElse.mpr ⟨.ok (), _, next_renameConfig.mpr (.inl ⟨rfl, rfl⟩), ?_⟩
  refine Rules.safe_bind.mpr (Rules.safe_run.mpr (Rules.tries_bind.mpr ?_))
  exact tries_orElse.mpr (may_syncDirectory h)

/-- Both existence checks fail, so the recovery believes that there is nothing to remove. -/
theorem may_confirmRestored {work : TransactionWork} {value : Value} {Q : Unit → World → Prop}
    (hvalue : RuntimeSnapshot.fromValue value = .ok work.baseRuntime)
    (h : ∀ replies, Q () { w with replies }) :
    may.Tries (confirmRestored work absentOriginal) Q E w := by
  have hexists : next w .configExists false w := ⟨false, rfl⟩
  unfold confirmRestored restoreConfig verifyRestoredBytes
  refine Rules.tries_bind.mpr (Rules.tries_bind.mpr (tries_lift.mpr ⟨false, w, hexists, ?_⟩))
  refine Rules.tries_bind.mpr (Rules.tries_bind.mpr (tries_lift.mpr ⟨false, w, hexists, ?_⟩))
  refine Rules.tries_bind.mpr (Rules.tries_discard.mpr (tries_lift.mpr (may_call (.ok .null) ?_)))
  refine Rules.tries_bind.mpr (may_runtimeState hvalue ?_)
  rw [if_neg (by simp)]
  exact h _

/-- A transaction over an absent file may end rolled back with the candidate in place. -/
theorem may_executeTransaction {work : TransactionWork}
    (hw : Underway work (view work.operationId w)) (hlock : .state ∉ w.memory.locks)
    (hv : Vulnerable env work w) :
    may.Safe (executeTransaction env work)
      (fun _ t => InState work.operationId .rolledBack t ∧ t.disk.config = some work.candidate ∧
        t.memory.state.manualInterventionRequired = false) w := by
  obtain ⟨found, hfound, _⟩ := hw.operation
  obtain ⟨hnone, hetag, value, hvalue⟩ := hv
  unfold executeTransaction runTransaction replaceAndActivate activate recoverTransaction
  refine Rules.safe_bind.mpr (Rules.safe_bind.mpr (Rules.safe_run.mpr ?_))
  refine may_updateOperation ⟨rfl, hlock⟩ hfound fun t ht => ?_
  refine Rules.safe_bind.mpr (Rules.safe_run.mpr ?_)
  refine may_prepare env ht hnone hetag hvalue fun v t hop hmanual ht => ?_
  refine Rules.safe_bind.mpr (may_replaceConfig ?_)
  -- HBBS does not reload, so the transaction recovers.
  refine Rules.safe_bind.mpr (Rules.safe_run.mpr (Rules.tries_bind.mpr ?_))
  refine Rules.tries_bind.mpr (tries_lift.mpr (may_call (.error ⟨"", "", false⟩) ?_))
  refine Rules.safe_bind.mpr (Rules.safe_run.mpr (may_confirmRestored hvalue fun replies => ?_))
  obtain ⟨rfl, hlock⟩ := ht
  refine may_finishOperation rfl ⟨rfl, hlock⟩ hop fun o u hstate hconfig hget hman => ?_
  refine may_update ⟨⟨o, hget, hstate⟩, hconfig, ?_⟩
  change u.memory.state.manualInterventionRequired = false
  exact hman.trans (hmanual.trans hw.manual)

end May

/-! ## The result -/

theorem not_endsOnce {work : TransactionWork} {w t : World} (hnone : w.disk.config = none)
    (hin : InState work.operationId .rolledBack t) (hconfig : t.disk.config = some work.candidate)
    (hmanual : t.memory.state.manualInterventionRequired = false) : ¬ EndsOnce work w t := by
  rintro ⟨⟨o, ho, _⟩, _⟩
  cases o with
  | succeeded => cases hin.unique ho.1
  | failed => cases hin.unique ho.1
  | rolledBack =>
    have hsame := ho.2.1
    rw [hconfig, hnone] at hsame
    cases hsame
  | manual =>
    have ho : t.memory.state.manualInterventionRequired = true := ho
    rw [hmanual] at ho
    cases ho

/-- A transaction ends in exactly one of the four ways when its existence checks are truthful, and
in every run unless it replaces a managed file that did not exist. -/
theorem transaction_atomic {work : TransactionWork} {w : World}
    (hw : Underway work (view work.operationId w)) (hlock : .state ∉ w.memory.locks) :
    (∀ es t, Eval (nextIf True) (executeTransaction env work) w es () t → EndsOnce work w t) ∧
    ((∀ es t, Eval next (executeTransaction env work) w es () t → EndsOnce work w t) ↔
      ¬ Vulnerable env work w) := by
  have hsafe : ∀ {H : Prop}, (Vulnerable env work w → H) → ∀ es t,
      Eval (nextIf H) (executeTransaction env work) w es () t → EndsOnce work w t := by
    intro H hH es t he
    obtain ⟨hfinal, hactive⟩ := (safe_executeTransaction env hH hw).eval he
    exact ⟨hfinal.ended.unique, hactive⟩
  refine ⟨hsafe fun _ => trivial, fun h hv => ?_, fun hv es t he => ?_⟩
  · obtain ⟨es, _, t, he, hin, hconfig, hmanual⟩ :=
      (may_executeTransaction env hw hlock hv).exists_eval
    exact not_endsOnce hv.1 hin hconfig hmanual (h es t he)
  · exact hsafe (H := False) hv es t (he.mono fun _ _ _ _ hn => ⟨hn, False.elim⟩)

/-! ## A concrete store

An agent of one instance whose managed file does not exist, and the transaction that creates it. -/

def sampleCaller : TransactionCaller := ⟨"center", "admin", "spiffe://center", none⟩

/-- `serde_json::to_vec`, for texts in which only quotes are escaped. -/
def sampleBody : RequestBody → Bytes
  | .configApply planId candidateDigest ifMatch comment => asBytes
      ("\x7b\"candidate_digest\":\"" ++ candidateDigest ++ "\",\"comment\":\"" ++ comment ++
        "\",\"if_match\":\"" ++ quoted ifMatch ++ "\",\"kind\":\"config_apply\",\"plan_id\":\"" ++
        planId ++ "\"\x7d")
  | .configRollback revisionId ifMatch comment => asBytes
      ("\x7b\"comment\":\"" ++ comment ++ "\",\"if_match\":\"" ++ quoted ifMatch ++
        "\",\"kind\":\"config_rollback\",\"revision_id\":\"" ++ revisionId ++ "\"\x7d")
  | .runtimeReload expectedSourceDigest => asBytes
      ("\x7b\"expected_source_digest\":\"" ++ expectedSourceDigest ++
        "\",\"kind\":\"runtime_reload\"\x7d")
where
  quoted (text : String) : String :=
    String.ofList (text.toList.flatMap fun c => if c = '"' then ['\\', '"'] else [c])

def emptyHash : String := "e3b0c44298fc1c149afbf4c8996fb92427ae41e4649b934ca495991b7852b855"

def candidateHash : String := "ca3d163bab055381827226140568f3bef7eaac187cebd76878e0b63e9e442356"

def samplePlanId : String := "00000000-0000-4000-8000-000000000001"

/-- The SHA-256 of every text that the store below hashes. -/
def sampleHashes : List (Bytes × String) :=
  [([], emptyHash),
   (asBytes "\x7b\x7d\n", candidateHash),
   (asBytes "k-1", "7c35c5a1785d20704e44d5de4beb81c1fce91b6fe48ed7c3159af6f7f832078b"),
   ([0, 0, 0, 0, 0, 0, 0, 6] ++ asBytes "center" ++ [0, 0, 0, 0, 0, 0, 0, 5] ++ asBytes "admin" ++
      [0, 0, 0, 0, 0, 0, 0, 15] ++ asBytes "spiffe://center",
    "0b3cc765f5bf54f5d9cd5440fca76b9da20002d21f35c1a58d23d664204b7220"),
   (sampleBody (.runtimeReload ("sha256:" ++ emptyHash)),
    "553ea30823fd142ce072f492de1dd579cb8d27a6ad60d5e01fb4fe018da08864"),
   (sampleBody (.configApply samplePlanId ("sha256:" ++ candidateHash)
      ("\"sha256:" ++ emptyHash ++ "\"") ""),
    "6acad3dfa745539110da17ff776e1627c432020a4f6a7a46faee7aaa30d610dc")]

def sampleEnv : Env where
  instanceId := "instance-1"
  maxConfigBytes := 1048576
  sha256Hex raw := (sampleHashes.lookup raw).getD ""
  toVec := sampleBody
  parseAndValidate _ := .error []
  parseFromRfc3339 text :=
    if text == "2026-01-01T00:00:00+00:00" then some 1767225600
    else if text == "2026-01-03T00:00:00+00:00" then some 1767398400
    else none
  isUuid text := text.utf8ByteSize == 36
  order := .stored

/-- The operation that an accepted plan leaves, with its audit record. -/
def sampleOperation : Operation :=
  { id := "00000000-0000-4000-8000-000000000002"
    auditId := some "00000000-0000-4000-8000-000000000003"
    kind := .configApply, state := .pending, createdAt := "2026-01-01T00:00:00+00:00"
    updatedAt := "2026-01-01T00:00:00+00:00", activationAck := none, error := none }

def sampleAudit : AuditRecord :=
  auditIntent sampleEnv sampleOperation "00000000-0000-4000-8000-000000000003"
    ⟨strongEtag sampleEnv [], "k-1", none, sampleCaller, ⟨1, none, none⟩, "request-1"⟩
    ("sha256:" ++ candidateHash) (idempotencyHash sampleEnv "k-1") "2026-01-01T00:00:00+00:00"
    "2026-01-01T00:00:00+00:00"

def sampleWork : TransactionWork :=
  { operationId := sampleOperation.id, requestId := "request-1", caller := sampleCaller
    candidate := asBytes "\x7b\x7d\n", candidateDigest := "sha256:" ++ candidateHash
    candidateEffectiveDigest := "sha256:" ++ candidateHash, schemaVersion := 1
    baseEtag := strongEtag sampleEnv [], baseRuntime := ⟨1, none, none⟩, comment := ""
    audit := sampleAudit }

/-- The store when the transaction begins. -/
def acceptedWorld (config : Option Bytes) : World :=
  { disk := ((Disk.empty config).put (.audit sampleAudit)).put (.operation sampleOperation)
    memory := { Memory.opened ⟨Keyed.empty.put sampleOperation, .empty, .empty, false⟩ with
      activeOperation := some sampleOperation.id }
    replies := [], changes := 0
    writes := [.published (.audit sampleAudit), .published (.operation sampleOperation)]
    used := [sampleOperation.id, sampleAudit.auditId, samplePlanId] }

theorem acceptedWorld_underway (config : Option Bytes) :
    Underway sampleWork (view sampleWork.operationId (acceptedWorld config)) := by
  have hget : (Keyed.empty.put sampleOperation : Operations).get sampleOperation.id =
      some sampleOperation := by
    rw [Keyed.get_put, if_pos rfl]
  refine ⟨⟨sampleOperation, hget, rfl⟩, ⟨sampleOperation, hget, rfl⟩, ?_, rfl⟩
  have hnone : Unclaimed sampleWork.operationId (Keyed.empty : AuditRecords) := by
    intro k a ha
    rw [Keyed.get_empty] at ha
    cases ha
  exact hnone.put (by simp [sampleAudit, auditIntent])

/-- Over an existing file every run ends in exactly one of the four ways. -/
theorem transaction_atomic_existing :
    Underway sampleWork (view sampleWork.operationId (acceptedWorld (some []))) ∧
    .state ∉ (acceptedWorld (some [])).memory.locks ∧
    ∀ es t, Eval next (executeTransaction sampleEnv sampleWork) (acceptedWorld (some [])) es () t →
      EndsOnce sampleWork (acceptedWorld (some [])) t := by
  have hlock : Mutex.state ∉ (acceptedWorld (some [])).memory.locks := List.not_mem_nil
  refine ⟨acceptedWorld_underway _, hlock, ?_⟩
  refine (transaction_atomic sampleEnv (acceptedWorld_underway _) hlock).2.mpr ?_
  rintro ⟨hnone, _⟩
  cases hnone

/-- Over an absent file a run may end rolled back with the candidate in place. -/
theorem absent_file_not_restored :
    ∃ es t, Eval next (executeTransaction sampleEnv sampleWork) (acceptedWorld none) es () t ∧
      InState sampleWork.operationId .rolledBack t ∧
      t.disk.config = some sampleWork.candidate ∧ ¬ EndsOnce sampleWork (acceptedWorld none) t := by
  have hvalue : RuntimeSnapshot.fromValue (.object [("generation", .uint 1)]) =
      .ok sampleWork.baseRuntime := by
    rfl
  have hrun := may_executeTransaction sampleEnv (acceptedWorld_underway none)
    (List.not_mem_nil (a := Mutex.state)) ⟨rfl, rfl, _, hvalue⟩
  obtain ⟨es, _, t, he, hin, hconfig, hmanual⟩ := hrun.exists_eval
  exact ⟨es, t, he, hin, hconfig, not_endsOnce rfl hin hconfig hmanual⟩

end Starry.ConfigStore
