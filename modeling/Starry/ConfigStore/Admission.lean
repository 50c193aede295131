import Starry.ConfigStore.Retention

/-!
# Admission (`config_store.rs`)

A mutation is admitted under one lock: the lookup of its idempotency key, the check that the store
may be written, the reservation of the store and the intent on disk. The transaction itself is
handed to the runtime.
-/

open Library

namespace Starry.ConfigStore

variable (env : Env)

/-! ## Plans -/

structure PlanRequest where
  candidate : Bytes
  validated : ValidatedConfig
  suppliedEtag : String
  runtime : RuntimeSnapshot
  caller : TransactionCaller

def insertPlan (record : PlanRecord) : Try PlanRecord :=
  withLock .plans do
    let time ← lift timestamp
    lift (update (.retainPlans time))
    let plans ← lift plans
    let resident := ((plans.iter env.order).map fun e => e.2.candidate.length).sum
    if plans.len ≥ maxResidentPlans
        || resident + record.candidate.length > maxResidentPlanBytes then
      throw (.new 429 "PLAN_CAPACITY_EXCEEDED"
        "The bounded configuration plan cache is full; retry after existing plans expire." true)
    lift (update (.putPlan record))
    return record

def createPlan (r : PlanRequest) : Try PlanRecord := do
  let current ← readConfig env
  if r.suppliedEtag ≠ strongEtag env current then throw etagMismatch
  let id ← lift newId
  -- Both renderings of `Utc::now() + PLAN_LIFETIME_SECONDS`.
  let (expiresEpoch, expiresAt) ← lift (ask .expiry)
  insertPlan env
    { id, instanceId := env.instanceId, caller := r.caller, baseEtag := strongEtag env current,
      baseGeneration := r.runtime.generation, candidate := r.candidate,
      candidateDigest := r.validated.sourceDigest,
      candidateEffectiveDigest := r.validated.effectiveDigest,
      schemaVersion := r.validated.version, restartRequired := false, expiresEpoch, expiresAt }

/-! ## Idempotency -/

/-- What the store answers a call whose key is recorded; `none` for a new key. -/
def idempotentOperation (s : StoreState) (keyHash requestDigest : String)
    (caller : TransactionCaller) : Except TransactionError (Option Operation) :=
  match s.idempotency.get keyHash with
  | none => .ok none
  | some record =>
    if record.requestDigest ≠ requestDigest ∨ record.instanceId ≠ env.instanceId
        ∨ record.callerDigest ≠ callerDigest env caller then
      .error idempotencyReused
    else match record.operationId with
      | none => .error (.new 409 "IDEMPOTENCY_KEY_REUSED"
          "The idempotency key belongs to a different operation kind." false)
      | some id => match s.operations.get id with
        | none => .error (.internal "The durable idempotency record has no operation.")
        | some operation => .ok (some operation)

def idempotentReload (s : StoreState) (keyHash requestDigest : String)
    (caller : TransactionCaller) :
    Except TransactionError (Option (Except TransactionError Value)) :=
  match s.idempotency.get keyHash with
  | none => .ok none
  | some record =>
    if record.requestDigest ≠ requestDigest ∨ record.kind ≠ .runtimeReload
        ∨ record.instanceId ≠ env.instanceId ∨ record.callerDigest ≠ callerDigest env caller then
      .error idempotencyReused
    else match record.response with
      | some response => .ok (some (.ok response))
      | none => match record.error with
        | some error => .ok (some (.error error.toError))
        | none => .ok (some (.error .operationInProgress))

/-! ## Intents -/

def reserveOperation (id : String) : Try Unit := do
  check (← lift (reserve id))

def persistIntent (operation : Operation) (audit : AuditRecord) (record : IdempotencyRecord) :
    Try Unit := do
  persist (.audit audit) "Cannot persist the configuration audit intent."
  persist (.operation operation) "Cannot persist the configuration operation."
  persist (.idempotency record) "Cannot persist the idempotency record."
  lift (update (.putOperation operation))
  lift (update (.putIdempotency record))

def persistIdempotency (record : IdempotencyRecord) : Try Unit := do
  persist (.idempotency record) "Cannot persist the idempotency result."
  lift (update (.putIdempotency record))

/-! ## Transactions -/

/-- What is common to an apply and a rollback. -/
structure MutationRequest where
  suppliedEtag : String
  idempotencyKey : String
  comment : Option String
  caller : TransactionCaller
  runtime : RuntimeSnapshot
  requestId : String

structure ApplyRequest extends MutationRequest where
  planId : String
  candidateDigest : String

structure RollbackRequest extends MutationRequest where
  revisionId : String

def ApplyRequest.body (r : ApplyRequest) : RequestBody :=
  .configApply r.planId r.candidateDigest r.suppliedEtag (r.comment.getD "")

def RollbackRequest.body (r : RollbackRequest) : RequestBody :=
  .configRollback r.revisionId r.suppliedEtag (r.comment.getD "")

/-- What a transaction writes and what HBBS has to acknowledge. -/
structure Candidate where
  bytes : Bytes
  digest : String
  effectiveDigest : String
  schemaVersion : Nat
  baseEtag : String

def auditIntent (operation : Operation) (auditId : String) (r : MutationRequest)
    (candidateDigest keyHash createdAt updatedAt : String) : AuditRecord :=
  { auditId, operationId := operation.id, requestId := r.requestId,
    instanceId := env.instanceId, action := operation.kind, actor := r.caller.actor,
    service := r.caller.service, certificateUriSan := r.caller.certificateUriSan,
    traceparent := r.caller.traceparent, beforeEtag := r.suppliedEtag, afterEtag := none,
    generation := none, candidateDigest, result := .intentPersisted, errorCode := none,
    recoveryResult := none, idempotencyKeyHash := keyHash, comment := r.comment.getD "",
    createdAt, updatedAt }

def checkCurrentEtag (suppliedEtag : String) : Try Unit := do
  let current ← readConfig env
  if strongEtag env current ≠ suppliedEtag then throw etagMismatch

/-- Reserves the store, puts the intent on disk and hands the transaction over: the common end of
`accept_apply` and `accept_rollback`. -/
def beginTransaction (kind : Kind) (r : MutationRequest) (body : RequestBody)
    (candidate : Candidate) (auditDigest : String) : Try Operation := do
  let keyHash := idempotencyHash env r.idempotencyKey
  let operationId ← lift newId
  reserveOperation operationId
  let auditId ← lift newId
  let operation : Operation :=
    { id := operationId, auditId := some auditId, kind, state := .pending,
      createdAt := ← lift now, updatedAt := ← lift now, activationAck := none, error := none }
  let audit := auditIntent env operation auditId r auditDigest keyHash (← lift now) (← lift now)
  let record : IdempotencyRecord :=
    { keyHash, instanceId := env.instanceId, callerDigest := callerDigest env r.caller,
      requestDigest := requestDigest env body, kind, createdAt := ← lift now,
      operationId := some operationId, response := none, error := none }
  match ← lift (persistIntent operation audit record).run with
  | .error error =>
    lift (releaseOperation operationId)
    throw error
  | .ok () =>
    lift (update (.spawn
      { operationId, requestId := r.requestId, caller := r.caller, candidate := candidate.bytes,
        candidateDigest := candidate.digest,
        candidateEffectiveDigest := candidate.effectiveDigest,
        schemaVersion := candidate.schemaVersion, baseEtag := candidate.baseEtag,
        baseRuntime := r.runtime, comment := r.comment.getD "", audit }))
    return operation

/-- `accept_apply` for a key that is not recorded. -/
def startApply (r : ApplyRequest) : Try Operation := do
  ensureWritable env
  let plans ← lift plans
  match plans.get r.planId with
  | none => throw (.new 409 "PLAN_STALE"
      "The configuration plan is unknown or no longer available." false)
  | some plan =>
    let time ← lift timestamp
    check (validatePlan env plan r.candidateDigest r.suppliedEtag r.caller r.runtime time)
    checkCurrentEtag env r.suppliedEtag
    beginTransaction env .configApply r.toMutationRequest r.body
      ⟨plan.candidate, plan.candidateDigest, plan.candidateEffectiveDigest, plan.schemaVersion,
        plan.baseEtag⟩ r.candidateDigest

/-- `accept_rollback` for a key that is not recorded. -/
def startRollback (r : RollbackRequest) : Try Operation := do
  ensureWritable env
  let s ← lift state
  match s.revisions.get r.revisionId with
  | none => throw (.new 404 "REQUEST_INVALID" "The requested revision does not exist." false)
  | some revision =>
    let candidate ← readDocument env revision.id
    let validated ← check (validateCandidate env candidate)
    checkCurrentEtag env r.suppliedEtag
    beginTransaction env .configRollback r.toMutationRequest r.body
      ⟨candidate, validated.sourceDigest, validated.effectiveDigest, validated.version,
        r.suppliedEtag⟩ validated.sourceDigest

/-- Answers from the record of the key, or starts the work. -/
def admitMutation (r : MutationRequest) (body : RequestBody) (start : Try Operation) : Try Operation :=
  withLock .admission do
    let s ← lift state
    match ← check (idempotentOperation env s (idempotencyHash env r.idempotencyKey)
        (requestDigest env body) r.caller) with
    | some operation => return operation
    | none => start

def acceptApply (r : ApplyRequest) : Try Operation := do
  check (validateComment r.comment)
  admitMutation env r.toMutationRequest r.body (startApply env r)

def acceptRollback (r : RollbackRequest) : Try Operation := do
  check (validateComment r.comment)
  check (validateRevisionId env r.revisionId)
  admitMutation env r.toMutationRequest r.body (startRollback env r)

/-! ## Reloads -/

structure ReloadRequest where
  expectedSourceDigest : String
  idempotencyKey : String
  requestId : String
  caller : TransactionCaller

def ReloadRequest.body (r : ReloadRequest) : RequestBody := .runtimeReload r.expectedSourceDigest

/-- A reload that was admitted, with the records that its result completes. -/
structure Reload where
  operationId : String
  record : IdempotencyRecord
  audit : AuditRecord

/-- The admission of a reload whose key is not recorded. -/
def startReload (r : ReloadRequest) (operationId : String) : Try Reload := do
  ensureWritable env
  let current ← readConfig env
  if digest env current ≠ r.expectedSourceDigest then throw etagMismatch
  reserveOperation operationId
  let keyHash := idempotencyHash env r.idempotencyKey
  let record : IdempotencyRecord :=
    { keyHash, instanceId := env.instanceId, callerDigest := callerDigest env r.caller,
      requestDigest := requestDigest env r.body, kind := .runtimeReload, createdAt := ← lift now,
      operationId := none, response := none, error := none }
  let audit : AuditRecord :=
    { auditId := ← lift newId, operationId, requestId := r.requestId,
      instanceId := env.instanceId, action := .runtimeReload, actor := r.caller.actor,
      service := r.caller.service, certificateUriSan := r.caller.certificateUriSan,
      traceparent := r.caller.traceparent, beforeEtag := strongEtag env current,
      afterEtag := none, generation := none, candidateDigest := r.expectedSourceDigest,
      result := .intentPersisted, errorCode := none, recoveryResult := none,
      idempotencyKeyHash := keyHash, comment := "", createdAt := ← lift now,
      updatedAt := ← lift now }
  match ← lift (atomicWrite (.audit audit)) with
  | .error _ =>
    lift (releaseOperation operationId)
    throw (.internal "Cannot persist the runtime reload audit intent.")
  | .ok () =>
    match ← lift (persistIdempotency record).run with
    | .error error =>
      let failedAudit := { audit with
        result := .state .failed, errorCode := some error.code, updatedAt := ← lift now }
      discard <| lift (atomicWrite (.audit failedAudit))
      lift (releaseOperation operationId)
      throw error
    | .ok () => return ⟨operationId, record, audit⟩

/-- The answer of the key's record, or the reload to perform. -/
def admitReload (r : ReloadRequest) (operationId : String) :
    Try (Except TransactionError Value ⊕ Reload) :=
  withLock .admission do
    let s ← lift state
    match ← check (idempotentReload env s (idempotencyHash env r.idempotencyKey)
        (requestDigest env r.body) r.caller) with
    | some outcome => return .inl outcome
    | none => return .inr (← startReload env r operationId)

/-- The audit record of a reload that ended. -/
def completedAudit (audit : AuditRecord) (result : Except TransactionError Value)
    (updatedAt : String) : AuditRecord :=
  match result with
  | .ok response => { audit with
      updatedAt, result := .state .succeeded, afterEtag := some audit.beforeEtag,
      generation := (response.get "generation").bind Value.asU64 }
  | .error error => { audit with
      updatedAt, result := .state .failed, errorCode := some error.code }

def completedRecord (record : IdempotencyRecord) (result : Except TransactionError Value) :
    IdempotencyRecord :=
  match result with
  | .ok response => { record with response := some response }
  | .error error => { record with error := some (.ofError error) }

/-- HBBS reloads, and the result is recorded for later calls with the same key. -/
def performReload (r : ReloadRequest) (reload : Reload) : Try Value := do
  let reply ← lift (call .runtimeReload)
  let result : Except TransactionError Value := match reply with
    | .error error => .error (.ofAgent error)
    | .ok ack => validateReloadAck r.expectedSourceDigest reload.audit.auditId ack
  let updatedAt ← lift now
  let result ← match ← lift (atomicWrite (.audit (completedAudit reload.audit result updatedAt)))
    with
    | .ok () => pure result
    | .error _ => do
      lift markManual
      pure (.error (rollbackFailed
        "The runtime reload completed without a durable audit result."))
  match ← lift (persistIdempotency (completedRecord reload.record result)).run with
  | .error error =>
    lift markManual
    lift (releaseOperation reload.operationId)
    throw error
  | .ok () =>
    lift (releaseOperation reload.operationId)
    check result

/-- How `performReload` ends, with what it recorded of HBBS' answer. -/
def recordReload (reload : Reload) (result : Except TransactionError Value) : Try Value := do
  match ← lift (persistIdempotency (completedRecord reload.record result)).run with
  | .error error =>
    lift markManual
    lift (releaseOperation reload.operationId)
    throw error
  | .ok () =>
    lift (releaseOperation reload.operationId)
    check result

def runtimeReload (r : ReloadRequest) : Try Value := do
  check (validateDigest r.expectedSourceDigest)
  let operationId := "reload:" ++ (← lift newId)
  match ← admitReload env r operationId with
  | .inl outcome => check outcome
  | .inr reload => performReload r reload

end Starry.ConfigStore
