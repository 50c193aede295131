import Starry.ConfigStore.Files

/-!
# Retention (`config_store.rs`)

Terminal operations go after a day or when the store is over its budget, and their idempotency,
audit and recovery files with them. An operation that is not terminal is never pruned.
-/

open Library

namespace Starry.ConfigStore

variable (env : Env)

/-- `sort_by` of a timestamp text: stable, earliest first. -/
def sortByText {α : Type} (text : α → String) (l : List α) : List α :=
  l.insertionSort fun x y => text x ≤ text y

def durableStateBytes : Try Nat := do
  match ← lift (ask .stateBytes) with
  | none => throw (.internal "Cannot inspect durable transaction state.")
  | some total => return total

/-! ## Durable records -/

def overBudget (s : StoreState) (audits : AuditRecords) : Try Bool := do
  if s.operations.len > maxDurableOperations || s.idempotency.len > maxDurableIdempotency
      || audits.len > maxDurableAudits then
    return true
  return (← durableStateBytes) > maxDurableStateBytes

def pruneIdempotency : List String → Try Unit
  | [] => pure ()
  | key :: keys => do
    removeIfPresent (.idempotency key)
    lift (update (.dropIdempotency key))
    pruneIdempotency keys

def pruneAudits : List String → AuditRecords → Try AuditRecords
  | [], audits => pure audits
  | id :: ids, audits => do
    removeIfPresent (.audit id)
    pruneAudits ids (audits.drop id)

/-- The files and entries of one operation. -/
def pruneOperation (audits : AuditRecords) (operation : Operation) : Try AuditRecords := do
  removeIfPresent (.operation operation.id)
  removeIfPresent (.recovery operation.id)
  removeIfPresent (.backup operation.id)
  let s ← lift state
  pruneIdempotency (((s.idempotency.values env.order).filter fun record =>
    record.operationId == some operation.id).map (·.keyHash))
  let audits ← pruneAudits (((audits.values env.order).filter fun audit =>
    audit.operationId == operation.id).map (·.auditId)) audits
  lift (update (.dropOperation operation.id))
  return audits

def pruneOperations (cutoff : Int) : List Operation → AuditRecords → Try AuditRecords
  | [], audits => pure audits
  | operation :: rest, audits => do
    let expired ← check (timestampBefore env operation.updatedAt cutoff)
    let s ← lift state
    let exceeded ← overBudget s audits
    if !expired && !exceeded then
      pruneOperations cutoff rest audits
    else
      let audits ← pruneOperation env audits operation
      pruneOperations cutoff rest audits

def pruneStandaloneIdempotency (cutoff : Int) : List IdempotencyRecord → Try Unit
  | [] => pure ()
  | record :: rest => do
    let expired ← check (timestampBefore env record.createdAt cutoff)
    let s ← lift state
    if !expired && s.idempotency.len ≤ maxDurableIdempotency then
      pruneStandaloneIdempotency cutoff rest
    else
      pruneIdempotency [record.keyHash]
      pruneStandaloneIdempotency cutoff rest

def pruneStandaloneAudits (cutoff : Int) : List AuditRecord → AuditRecords → Try Unit
  | [], _ => pure ()
  | audit :: rest, audits => do
    let expired ← check (timestampBefore env audit.updatedAt cutoff)
    if !expired && audits.len ≤ maxDurableAudits then
      pruneStandaloneAudits cutoff rest audits
    else
      let audits ← pruneAudits [audit.auditId] audits
      pruneStandaloneAudits cutoff rest audits

def syncDirectories : List Directory → Try Unit
  | [] => pure ()
  | d :: rest => do
    orElse .internal (syncDirectory d)
    syncDirectories rest

/-- The operations whose records may not be pruned. -/
def protectedOperations (s : StoreState) : List String :=
  ((s.operations.values env.order).filter fun operation => !operationIsTerminal operation).map
    (·.id)

/-- The body of `prune_durable_records`, under the lock of the state. -/
def pruneRecords (cutoff : Int) (audits : AuditRecords) : Try Unit := do
  let s ← lift state
  let terminal := (s.operations.values env.order).filter operationIsTerminal
  let audits ← pruneOperations env cutoff (sortByText (·.updatedAt) terminal) audits
  let s ← lift state
  let guarded := protectedOperations env s
  let standalone := (s.idempotency.values env.order).filter fun record =>
    record.operationId.all fun id => !guarded.contains id
  pruneStandaloneIdempotency env cutoff (sortByText (·.createdAt) standalone)
  let standaloneAudits := (audits.values env.order).filter fun audit =>
    !guarded.contains audit.operationId
  pruneStandaloneAudits env cutoff (sortByText (·.updatedAt) standaloneAudits) audits
  syncDirectories [.operations, .idempotency, .audit, .recovery]

def pruneDurableRecords : Try Unit := do
  match ← lift (loadRecords .audits).run with
  | .error text => throw (.internal text)
  | .ok audits =>
    let timestamp ← lift timestamp
    withLock .state (pruneRecords env (timestamp - operationRetentionSeconds) audits)

/-! ## Revisions -/

/-- What `fs::metadata` reports of the files, those it cannot read apart. -/
def totalBytes : List File → Agent Nat
  | [] => pure 0
  | f :: rest => do
    let size ← ask (.fileBytes f)
    let others ← totalBytes rest
    return size.getD 0 + others

def revisionFiles (revision : Revision) : List File :=
  [.revision revision.id, .document revision.id]

def removeRevisionFiles : List File → Check Unit
  | [] => pure ()
  | f :: rest => do
    orElse ("cannot prune revision state: " ++ ·) (remove f)
    removeRevisionFiles rest

def pruneOldRevisions (currentEtag : String) (protectedRecent : List String) :
    List Revision → Nat → Nat → Check Unit
  | [], _, _ => pure ()
  | revision :: rest, count, bytes => do
    if count ≤ maxRevisions && bytes ≤ maxRevisionBytes then
      pure ()
    else if protectedRecent.contains revision.id || revision.afterEtag == currentEtag then
      pruneOldRevisions currentEtag protectedRecent rest count bytes
    else
      let size ← lift (totalBytes (revisionFiles revision))
      removeRevisionFiles (revisionFiles revision)
      lift (update (.dropRevision revision.id))
      pruneOldRevisions currentEtag protectedRecent rest (count - 1) (bytes - size)

def pruneRevisions (currentEtag : String) : Check Unit :=
  withLock .state do
    let s ← lift state
    let ordered := sortByText (·.createdAt) (s.revisions.values env.order)
    let protectedRecent := (ordered.reverse.take 2).map (·.id)
    let bytes ← lift (totalBytes (ordered.flatMap revisionFiles))
    pruneOldRevisions currentEtag protectedRecent ordered ordered.length bytes
    orElse id (syncDirectory .revisions)

/-! ## Admission -/

def rejectsFull (s : StoreState) : Try Bool := do
  if s.operations.len ≥ maxDurableOperations || s.idempotency.len ≥ maxDurableIdempotency then
    return true
  return (← durableStateBytes) ≥ maxDurableStateBytes

def manualRequired : TransactionError :=
  .new 503 "ROLLBACK_FAILED"
    "A previous transaction requires operator reconciliation before further writes." false

/-- The checks of `ensure_writable` under the lock of the state. -/
def checkWritable : Try Unit := do
  let s ← lift state
  if s.manualInterventionRequired then throw manualRequired
  if ← rejectsFull s then
    throw (.new 503 "STARRY_NOT_READY" ("The bounded durable transaction store is full; " ++
      "reconcile protected records before retrying.") true)
  match ← lift (ask .availableSpace) with
  | none => throw (.internal "Cannot inspect free space for configuration recovery.")
  | some available =>
    if available < minimumFreeStateBytes then
      throw (.new 503 "STARRY_NOT_READY"
        "Insufficient free space is available for an atomic configuration backup." true)

/-- Those of them after the flag. -/
def checkRoom (s : StoreState) : Try Unit := do
  if ← rejectsFull s then
    throw (.new 503 "STARRY_NOT_READY" ("The bounded durable transaction store is full; " ++
      "reconcile protected records before retrying.") true)
  match ← lift (ask .availableSpace) with
  | none => throw (.internal "Cannot inspect free space for configuration recovery.")
  | some available =>
    if available < minimumFreeStateBytes then
      throw (.new 503 "STARRY_NOT_READY"
        "Insufficient free space is available for an atomic configuration backup." true)

def ensureWritable : Try Unit := do
  pruneDurableRecords env
  withLock .state checkWritable

end Starry.ConfigStore
