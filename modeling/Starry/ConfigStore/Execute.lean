import Starry.ConfigStore.Admission

/-!
# Executing a transaction (`config_store.rs`)

The managed file is replaced and HBBS reloads it. What fails before the replacement ends the
operation as failed. What fails after it restores the original, and when that cannot be confirmed
the store asks for an operator.
-/

open Library

namespace Starry.ConfigStore

variable (env : Env)

/-! ## Records of the operation -/

/-- An operation in a new state. -/
def Operation.stamp (o : Operation) (state : OperationState) (ack error : Option Value)
    (time : String) : Operation :=
  { o with state, updatedAt := time, activationAck := ack, error }

def updateOperation (id : String) (state : OperationState) (ack error : Option Value) : Try Unit :=
  withLock .state do
    let s ← lift ConfigStore.state
    match s.operations.get id with
    | none => throw (.internal "The durable configuration operation is missing.")
    | some found =>
      let operation := found.stamp state ack error (← lift now)
      persist (.operation operation) "Cannot persist the operation result."
      lift (update (.putOperation operation))

def finishOperation (work : TransactionWork) (state : OperationState) (ack : Option Value)
    (error : TransactionError) (recovery : Option RecoveryResult) : Agent Unit := do
  let audit := { work.audit with
    result := .state state, errorCode := some error.code, recoveryResult := recovery,
    updatedAt := ← now }
  discard <| atomicWrite (.audit audit)
  match ← (updateOperation work.operationId state ack
    (some (problemValue error work.requestId))).run with
  | .ok () => pure ()
  | .error _ => markManual

/-- How `finishOperation` ends, with the audit record written or not. -/
def recordOutcome (work : TransactionWork) (state : OperationState) (ack : Option Value)
    (error : TransactionError) : Agent Unit := do
  match ← (updateOperation work.operationId state ack
    (some (problemValue error work.requestId))).run with
  | .ok () => pure ()
  | .error _ => markManual

/-! ## Revisions and recovery files -/

def persistRecovery (work : TransactionWork) (original : OriginalConfig) : Try Unit := do
  match original.bytes with
  | none => pure ()
  | some bytes =>
    persist (.backup work.operationId bytes) "Cannot persist the recovery backup."
  persist (.recovery
    { operationId := work.operationId, existed := original.bytes.isSome, mode := original.mode,
      uid := original.uid, gid := original.gid, etag := work.baseEtag,
      runtimeSourceDigest := work.baseRuntime.sourceDigest,
      runtimeEffectiveDigest := work.baseRuntime.effectiveDigest, createdAt := ← lift now })
    "Cannot persist recovery metadata."

def persistRevision (revision : Revision) (document : Bytes) : Try Unit := do
  persist (.document revision.id document) "Cannot persist the revision document."
  persist (.revision revision) "Cannot persist the revision manifest."
  lift (update (.putRevision revision))

def persistBaseline (work : TransactionWork) (validated : ValidatedConfig) (bytes : Bytes) :
    Try Unit := do
  let s ← lift state
  if (s.revisions.values env.order).any (·.afterEtag == work.baseEtag) then
    pure ()
  else
    persistRevision
      { id := ← lift newId, generation := max work.baseRuntime.generation 1,
        beforeEtag := work.baseEtag, afterEtag := work.baseEtag,
        candidateDigest := validated.sourceDigest, actor := "system:baseline",
        comment := "Baseline captured before the first managed transaction.",
        createdAt := ← lift now, result := .baseline } bytes

def ensureBaselineRevision (work : TransactionWork) (original : OriginalConfig) : Try Unit :=
  match original.bytes with
  | none => pure ()
  | some bytes => match validateCandidate env bytes with
    | .error _ => pure ()
    | .ok validated => persistBaseline env work validated bytes

/-- The revision of an activated candidate. A failure to prune old ones is only logged. -/
def saveRevision (work : TransactionWork) (generation : Nat) (afterEtag : String) : Try Unit := do
  persistRevision
    { id := ← lift newId, generation, beforeEtag := work.baseEtag, afterEtag,
      candidateDigest := work.candidateDigest, actor := work.caller.actor,
      comment := work.comment, createdAt := ← lift now, result := .succeeded } work.candidate
  discard <| lift (pruneRevisions env afterEtag).run

/-! ## HBBS -/

def hbbs (m : Method) : Try Value := do
  match ← lift (call m) with
  | .error error => throw (.ofAgent error)
  | .ok value => return value

def runtimeState : Try RuntimeSnapshot := do
  check (RuntimeSnapshot.fromValue (← hbbs .configRuntimeState))

/-! ## The transaction -/

/-- The part of `execute_transaction` before the managed file is replaced. -/
def prepare (work : TransactionWork) : Try OriginalConfig := do
  persist (.audit { work.audit with result := .state .running, updatedAt := ← lift now })
    "Cannot update the durable audit record."
  let original ← readOriginal env
  if strongEtag env (original.bytes.getD []) ≠ work.baseEtag then throw etagMismatch
  if (← runtimeState) ≠ work.baseRuntime then
    throw (.new 409 "PLAN_STALE" "The HBBS runtime changed before the transaction started." false)
  persistRecovery work original
  ensureBaselineRevision env work original
  if (← readConfig env) ≠ original.bytes.getD [] then throw etagMismatch
  return original

/-- Activates the candidate and saves its revision. Its failures are answered by a recovery. -/
def activate (work : TransactionWork) : Try Value := do
  let ack ← check (validateActivationAck work (← hbbs .runtimeReload))
  saveRevision env work (((ack.get "generation").bind Value.asU64).getD 0)
    (strongEtag env work.candidate)
  return ack

/-- The previous runtime configuration is active again. -/
def confirmRestored (work : TransactionWork) (original : OriginalConfig) : Try Unit := do
  restoreConfig original
  verifyRestoredBytes original
  discard <| lift (call .runtimeReload)
  let runtime ← runtimeState
  if runtime.sourceDigest ≠ work.baseRuntime.sourceDigest
      ∨ runtime.effectiveDigest ≠ work.baseRuntime.effectiveDigest then
    throw (rollbackFailed "HBBS did not return to the previous runtime configuration.")

def recoverTransaction (work : TransactionWork) (original : OriginalConfig)
    (cause : TransactionError) : Agent Unit := do
  match ← (confirmRestored work original).run with
  | .ok () => finishOperation work .rolledBack none cause (some .restoredAndAcknowledged)
  | .error recoveryError =>
    markManual
    finishOperation work .manualInterventionRequired none
      (rollbackFailed ("The configuration transaction failed and automatic recovery was not " ++
        "acknowledged: " ++ recoveryError.detail)) (some .failed)

/-- The result of an activated transaction. -/
def recordSuccess (work : TransactionWork) (ack : Value) : Agent Unit := do
  let audit := { work.audit with
    afterEtag := some (strongEtag env work.candidate),
    generation := some (((ack.get "generation").bind Value.asU64).getD 0),
    result := .state .succeeded, updatedAt := ← now }
  let recorded ← (do
    orElse .internal (atomicWrite (.audit audit))
    updateOperation work.operationId .succeeded (some ack) none : Try Unit).run
  match recorded with
  | .ok () => pure ()
  | .error _ =>
    markManual
    finishOperation { work with audit } .manualInterventionRequired none
      (rollbackFailed "The configuration activated but its durable result could not be recorded.")
      (some .durableResultFailed)

/-- Replaces the managed file and activates it. -/
def replaceAndActivate (work : TransactionWork) (original : OriginalConfig) : Agent Unit := do
  match ← atomicReplaceConfig work.candidate original with
  | .error failure =>
    if failure.mayHaveChanged then recoverTransaction work original failure.error
    else finishOperation work .failed none failure.error none
  | .ok () =>
    match ← (activate env work).run with
    | .error error => recoverTransaction work original error
    | .ok ack => recordSuccess env work ack

/-- `execute_transaction` up to the release of the store, with which each of its paths ends. -/
def runTransaction (work : TransactionWork) : Agent Unit := do
  match ← (updateOperation work.operationId .running none none).run with
  | .error _ => markManual
  | .ok () =>
    match ← (prepare env work).run with
    | .error error => finishOperation work .failed none error none
    | .ok original => replaceAndActivate env work original

def executeTransaction (work : TransactionWork) : Agent Unit := do
  runTransaction env work
  releaseOperation work.operationId

end Starry.ConfigStore
