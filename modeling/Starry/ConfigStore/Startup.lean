import Starry.ConfigStore.Execute

/-!
# Opening the store (`config_store.rs`)

`open` reads the durable records. An operation or a reload that was interrupted is written back as
one that an operator has to reconcile, and the store is then not writable.
-/

open Library

namespace Starry.ConfigStore

variable (env : Env)

def createDirectories : List (Option Directory) → Check Unit
  | [] => pure ()
  | d :: rest => do
    orElse id (ask (.createPrivateDirectory d))
    createDirectories rest

/-- Gives older operations the id of their audit record. -/
def adoptAudits (audits : AuditRecords) : List Operation → Operations → Check Operations
  | [], operations => pure operations
  | operation :: rest, operations => do
    match operation.auditId, (audits.values env.order).find? (·.operationId == operation.id) with
    | none, some audit =>
      let adopted := { operation with auditId := some audit.auditId }
      orElse id (atomicWrite (.operation adopted))
      adoptAudits audits rest (operations.put adopted)
    | _, _ => adoptAudits audits rest operations

def interruptedError : TransactionError :=
  rollbackFailed ("The Agent restarted during a configuration transaction; " ++
    "operator reconciliation is required.")

def markAudits : List AuditRecord → AuditRecords → Check AuditRecords
  | [], audits => pure audits
  | audit :: rest, audits => do
    let marked := { audit with
      result := .state .manualInterventionRequired, errorCode := some "ROLLBACK_FAILED",
      recoveryResult := some .agentRestarted, updatedAt := ← lift now }
    orElse id (atomicWrite (.audit marked))
    markAudits rest (audits.put marked)

/-- Every operation that was interrupted, with its audit records. -/
def markInterrupted :
    List Operation → Operations → AuditRecords → Check Operations
  | [], operations, _ => pure operations
  | operation :: rest, operations, audits => do
    let marked := { operation with
      state := .manualInterventionRequired, updatedAt := ← lift now,
      error := some (problemValue interruptedError (← lift newId)) }
    orElse id (atomicWrite (.operation marked))
    let audits ← markAudits ((audits.values env.order).filter (·.operationId == operation.id))
      audits
    markInterrupted rest (operations.put marked) audits

def unresolvedFailure : StoredFailure :=
  ⟨500, "ROLLBACK_FAILED", "The Agent restarted while a runtime reload result was unresolved.",
    false⟩

def resolveReloads : List IdempotencyRecord → IdempotencyRecords → Check IdempotencyRecords
  | [], idempotency => pure idempotency
  | record :: rest, idempotency => do
    let resolved := { record with error := some unresolvedFailure }
    orElse id (atomicWrite (.idempotency resolved))
    resolveReloads rest (idempotency.put resolved)

def isInterrupted (operation : Operation) : Bool :=
  operation.state == .pending || operation.state == .running

/-- The durable records as `open` leaves them, and whether an operator is needed. -/
def recoverState : Check StoreState := do
  let operations : Operations ← loadRecords .operations
  let idempotency : IdempotencyRecords ← loadRecords .idempotency
  let revisions : Revisions ← loadRecords .revisions
  let audits : AuditRecords ← loadRecords .audits
  let operations ← adoptAudits env audits (operations.values env.order) operations
  let interrupted := (operations.values env.order).filter isInterrupted
  let unresolved := (idempotency.values env.order).filter (·.unresolved)
  let manual := (operations.values env.order).any (·.state == .manualInterventionRequired)
  let operations ← markInterrupted env interrupted operations audits
  let idempotency ← resolveReloads unresolved idempotency
  return ⟨operations, idempotency, revisions,
    manual || !interrupted.isEmpty || !unresolved.isEmpty⟩

/-- `ConfigTransactions::open` -/
def openStore : Check Unit := do
  createDirectories [none, some .operations, some .idempotency, some .revisions, some .audit,
    some .recovery]
  let s ← recoverState env
  lift (update (.install s))
  match ← lift (pruneDurableRecords env).run with
  | .error error => throw error.detail
  | .ok () => pure ()
  let currentEtag := match ← lift (readConfig env).run with
    | .ok bytes => strongEtag env bytes
    | .error _ => ""
  pruneRevisions env currentEtag

/-- What `openStore` removes once the state is installed. -/
def pruneAtStart : Check Unit := do
  match ← lift (pruneDurableRecords env).run with
  | .error error => throw error.detail
  | .ok () => pure ()
  let currentEtag := match ← lift (readConfig env).run with
    | .ok bytes => strongEtag env bytes
    | .error _ => ""
  pruneRevisions env currentEtag

end Starry.ConfigStore
