import Starry.Basic
import Starry.Library.Keyed

/-!
# Durable records of the control agent (`config_store.rs`)

The records of a configuration transaction, the errors it reports and the checks that read only
its arguments. Hashing, the configuration parser, RFC 3339 and UUID parsing are the parts of the
environment `Env` that are not in this module of the source.
-/

open Library

namespace Starry.ConfigStore

def planLifetimeSeconds : Int := 600
def maxCommentBytes : Nat := 500
def minimumFreeStateBytes : Nat := 16 * 1024 * 1024
def maxRevisions : Nat := 100
def maxRevisionBytes : Nat := 128 * 1024 * 1024
def maxResidentPlans : Nat := 128
def maxResidentPlanBytes : Nat := 16 * 1024 * 1024
def operationRetentionSeconds : Int := 86400
def maxDurableOperations : Nat := 256
def maxDurableIdempotency : Nat := 512
def maxDurableAudits : Nat := 512
def maxDurableStateBytes : Nat := 256 * 1024 * 1024

/-! ## JSON -/

/-- `serde_json::Value`. A number is an unsigned 64-bit integer or kept as its text. -/
inductive Value
  | null
  | bool (b : Bool)
  | uint (n : Nat)
  | number (text : String)
  | string (s : String)
  | array (items : List Value)
  | object (fields : List (String × Value))
deriving Inhabited

namespace Value

def get (key : String) : Value → Option Value
  | .object fields => fields.lookup key
  | _ => none

def asU64 : Value → Option Nat
  | .uint n => some n
  | _ => none

def asStr : Value → Option String
  | .string s => some s
  | _ => none

def asBool : Value → Option Bool
  | .bool b => some b
  | _ => none

def asArray : Value → Option (List Value)
  | .array items => some items
  | _ => none

/-- `Map::insert` on an object; `none` on any other value. -/
def insert (key : String) (v : Value) : Value → Option Value
  | .object fields => some (.object ((key, v) :: fields.filter fun f => f.1 != key))
  | _ => none

end Value

/-! ## Callers and errors -/

structure TransactionCaller where
  service : String
  actor : String
  certificateUriSan : String
  traceparent : Option String
deriving DecidableEq, Repr

structure RuntimeSnapshot where
  generation : Nat
  sourceDigest : Option String
  effectiveDigest : Option String
deriving DecidableEq, Repr

structure AgentError where
  code : String
  detail : String
  retryable : Bool
deriving DecidableEq, Repr

structure TransactionError where
  status : Nat
  code : String
  detail : String
  retryable : Bool
  errors : List Value

namespace TransactionError

def new (status : Nat) (code detail : String) (retryable : Bool) : TransactionError :=
  ⟨status, code, detail, retryable, []⟩

def withErrors (e : TransactionError) (errors : List Value) : TransactionError :=
  { e with errors }

def internal (detail : String) : TransactionError := new 503 "STARRY_NOT_READY" detail true

def operationInProgress : TransactionError :=
  new 409 "OPERATION_IN_PROGRESS" "Another configuration transaction is in progress." true

/-- `From<AgentError>` -/
def ofAgent (e : AgentError) : TransactionError :=
  let status :=
    if e.code == "CONFIG_TOO_LARGE" then 413
    else if e.code == "REQUEST_INVALID" || e.code == "CONFIG_INVALID" then 400
    else if e.code == "LOCAL_CONTROL_UNAVAILABLE" || e.code == "LOCAL_CONTROL_TIMEOUT"
        || e.code == "STARRY_NOT_READY" then 503
    else 502
  new status e.code e.detail e.retryable

end TransactionError

def unsafeConfigPath : TransactionError :=
  .new 400 "CONFIG_INVALID" ("The managed configuration path and parent chain must be confined, " ++
    "and the file must be regular, single-link, and not writable by group or other users.") false

def configTooLarge : TransactionError :=
  .new 413 "CONFIG_TOO_LARGE" "The managed configuration exceeds the configured byte limit." false

def etagMismatch : TransactionError :=
  .new 412 "CONFIG_ETAG_MISMATCH" "The configuration changed after the plan was created." false

def idempotencyReused : TransactionError :=
  .new 409 "IDEMPOTENCY_KEY_REUSED"
    "The idempotency key was already used with a different request." false

def rollbackFailed (detail : String) : TransactionError :=
  .new 500 "ROLLBACK_FAILED" detail false

structure StoredFailure where
  status : Nat
  code : String
  detail : String
  retryable : Bool
deriving DecidableEq, Repr

def StoredFailure.ofError (e : TransactionError) : StoredFailure :=
  ⟨e.status, e.code, e.detail, e.retryable⟩

def StoredFailure.toError (f : StoredFailure) : TransactionError :=
  .new f.status f.code f.detail f.retryable

def problemTitle (code : String) : String :=
  if code == "CONFIG_ETAG_MISMATCH" then "Configuration changed"
  else if code == "PLAN_EXPIRED" then "Plan expired"
  else if code == "PLAN_STALE" then "Plan stale"
  else if code == "OPERATION_IN_PROGRESS" then "Operation in progress"
  else if code == "IDEMPOTENCY_KEY_REUSED" then "Idempotency key reused"
  else if code == "ROLLBACK_FAILED" then "Rollback failed"
  else "Configuration transaction failed"

def problemValue (e : TransactionError) (requestId : String) : Value :=
  let slug := String.ofList ((toAsciiLowercase e.code).toList.map fun c =>
    if c = '_' then '-' else c)
  .object [("type", .string ("https://starry.invalid/problems/" ++ slug)),
    ("title", .string (problemTitle e.code)), ("status", .uint e.status),
    ("code", .string e.code), ("detail", .string e.detail), ("request_id", .string requestId),
    ("retryable", .bool e.retryable), ("errors", .array [])]

/-! ## Records -/

inductive Kind
  | configApply | configRollback | runtimeReload
deriving DecidableEq, Repr

inductive OperationState
  | pending | running | succeeded | failed | rolledBack | manualInterventionRequired
deriving DecidableEq, Repr

structure Operation where
  id : String
  auditId : Option String
  kind : Kind
  state : OperationState
  createdAt : String
  updatedAt : String
  activationAck : Option Value
  error : Option Value

/-- `operation_is_terminal` reads only the state. -/
def OperationState.isTerminal : OperationState → Bool
  | .pending | .running | .manualInterventionRequired => false
  | .succeeded | .failed | .rolledBack => true

def operationIsTerminal (o : Operation) : Bool := o.state.isTerminal

inductive RevisionResult
  | baseline | succeeded
deriving DecidableEq, Repr

structure Revision where
  id : String
  generation : Nat
  beforeEtag : String
  afterEtag : String
  candidateDigest : String
  actor : String
  comment : String
  createdAt : String
  result : RevisionResult
deriving DecidableEq, Repr

structure IdempotencyRecord where
  keyHash : String
  instanceId : String
  callerDigest : String
  requestDigest : String
  kind : Kind
  createdAt : String
  operationId : Option String
  response : Option Value
  error : Option StoredFailure

/-- A reload of which no result is recorded. -/
def IdempotencyRecord.unresolved (r : IdempotencyRecord) : Bool :=
  r.kind == .runtimeReload && r.response.isNone && r.error.isNone

inductive AuditResult
  | intentPersisted
  | state (s : OperationState)
deriving DecidableEq, Repr

inductive RecoveryResult
  | restoredAndAcknowledged | failed | durableResultFailed | agentRestarted
deriving DecidableEq, Repr

structure AuditRecord where
  auditId : String
  operationId : String
  requestId : String
  instanceId : String
  action : Kind
  actor : String
  service : String
  certificateUriSan : String
  traceparent : Option String
  beforeEtag : String
  afterEtag : Option String
  generation : Option Nat
  candidateDigest : String
  result : AuditResult
  errorCode : Option String
  recoveryResult : Option RecoveryResult
  idempotencyKeyHash : String
  comment : String
  createdAt : String
  updatedAt : String
deriving DecidableEq, Repr

/-- The metadata that `persist_recovery` stores beside the backup. -/
structure RecoveryMetadata where
  operationId : String
  existed : Bool
  mode : Nat
  uid : Nat
  gid : Nat
  etag : String
  runtimeSourceDigest : Option String
  runtimeEffectiveDigest : Option String
  createdAt : String
deriving DecidableEq, Repr

abbrev Operations := Keyed Operation.id
abbrev IdempotencyRecords := Keyed IdempotencyRecord.keyHash
abbrev Revisions := Keyed Revision.id
abbrev AuditRecords := Keyed AuditRecord.auditId

/-- A plan, less the list of changes and the risk, which no transaction reads. -/
structure PlanRecord where
  id : String
  instanceId : String
  caller : TransactionCaller
  baseEtag : String
  baseGeneration : Nat
  candidate : Bytes
  candidateDigest : String
  candidateEffectiveDigest : String
  schemaVersion : Nat
  restartRequired : Bool
  expiresEpoch : Int
  expiresAt : String
deriving DecidableEq, Repr

/-- The managed file before a transaction, with its owner and its directory. -/
structure OriginalConfig where
  bytes : Option Bytes
  mode : Nat
  uid : Nat
  gid : Nat
  parentDev : Nat
  parentIno : Nat
deriving DecidableEq, Repr

structure TransactionWork where
  operationId : String
  requestId : String
  caller : TransactionCaller
  candidate : Bytes
  candidateDigest : String
  candidateEffectiveDigest : String
  schemaVersion : Nat
  baseEtag : String
  baseRuntime : RuntimeSnapshot
  comment : String
  audit : AuditRecord
deriving DecidableEq, Repr

/-! ## The environment -/

structure ValidatedConfig where
  sourceDigest : String
  effectiveDigest : String
  version : Nat
deriving DecidableEq, Repr

/-- The body whose digest identifies a request. -/
inductive RequestBody
  | configApply (planId candidateDigest ifMatch comment : String)
  | configRollback (revisionId ifMatch comment : String)
  | runtimeReload (expectedSourceDigest : String)
deriving DecidableEq, Repr

structure Env where
  instanceId : String
  maxConfigBytes : Nat
  /-- The hexadecimal SHA-256 of a byte string. -/
  sha256Hex : Bytes → String
  /-- `serde_json::to_vec` of a request body. -/
  toVec : RequestBody → Bytes
  /-- `parse_document` and `validate_config`, with their diagnostics. -/
  parseAndValidate : Bytes → Except (List Value) ValidatedConfig
  /-- `DateTime::parse_from_rfc3339` in seconds. -/
  parseFromRfc3339 : String → Option Int
  isUuid : String → Bool
  /-- The order in which hash maps are visited. -/
  order : HashOrder

variable (env : Env)

def digest (raw : Bytes) : String := "sha256:" ++ env.sha256Hex raw

def strongEtag (raw : Bytes) : String := "\"" ++ digest env raw ++ "\""

def requestDigest (body : RequestBody) : String := digest env (env.toVec body)

def idempotencyHash (key : String) : String := env.sha256Hex (asBytes key)

/-- `u64::to_be_bytes` -/
def toBeBytes (n : Nat) : Bytes :=
  (List.range 8).reverse.map fun i => UInt8.ofNat (n / 256 ^ i)

def callerDigest (caller : TransactionCaller) : String :=
  let field (value : String) : Bytes := toBeBytes (asBytes value).length ++ asBytes value
  env.sha256Hex (field caller.service ++ field caller.actor ++ field caller.certificateUriSan)

def validateCandidate (raw : Bytes) : Except TransactionError ValidatedConfig :=
  match env.parseAndValidate raw with
  | .ok validated => .ok validated
  | .error errors => .error ((TransactionError.new 400 "CONFIG_INVALID"
      "The configuration candidate is invalid." false).withErrors errors)

def timestampBefore (value : String) (cutoff : Int) : Except TransactionError Bool :=
  match env.parseFromRfc3339 value with
  | some timestamp => .ok (timestamp < cutoff)
  | none => .error (.internal "Durable state contains an invalid timestamp.")

/-! ## Checks of the arguments -/

/-- `char::is_control`: the Unicode category Cc. -/
def isControl (c : Char) : Bool := c.toNat < 0x20 || (0x7f ≤ c.toNat && c.toNat < 0xa0)

def validateComment (comment : Option String) : Except TransactionError Unit :=
  match comment with
  | none => .ok ()
  | some value =>
    if value.utf8ByteSize > maxCommentBytes || value.toList.any isControl then
      .error (.new 400 "REQUEST_INVALID"
        "comment must contain at most 500 bytes and no control characters." false)
    else .ok ()

def isLowerHex (c : Char) : Bool := c.isDigit || ('a' ≤ c && c ≤ 'f')

def validateDigest (value : String) : Except TransactionError Unit :=
  if value.utf8ByteSize != 71 || !("sha256:".toList.isPrefixOf value.toList)
      || !(value.toList.drop 7).all isLowerHex then
    .error (.new 400 "REQUEST_INVALID" "A lowercase sha256 digest is required." false)
  else .ok ()

def validateRevisionId (revisionId : String) : Except TransactionError Unit :=
  if env.isUuid revisionId then .ok ()
  else .error (.new 400 "REQUEST_INVALID" "revision_id must be a UUID." false)

def optionalDigest : Option Value → Except TransactionError (Option String)
  | none | some .null => .ok none
  | some (.string value) => do
    validateDigest value
    return some value
  | _ => .error (.internal "HBBS returned an invalid runtime digest.")

def RuntimeSnapshot.fromValue (value : Value) : Except TransactionError RuntimeSnapshot :=
  match (value.get "generation").bind Value.asU64 with
  | none => .error (.internal "HBBS omitted the runtime generation.")
  | some generation => do
    let sourceDigest ← optionalDigest (value.get "source_digest")
    let effectiveDigest ← optionalDigest (value.get "effective_digest")
    return ⟨generation, sourceDigest, effectiveDigest⟩

def validatePlan (plan : PlanRecord) (candidateDigest suppliedEtag : String)
    (caller : TransactionCaller) (runtime : RuntimeSnapshot) (now : Int) :
    Except TransactionError Unit :=
  if plan.expiresEpoch < now then
    .error (.new 409 "PLAN_EXPIRED" "The configuration plan has expired." false)
  else if plan.instanceId ≠ env.instanceId ∨ plan.caller.service ≠ caller.service
      ∨ plan.caller.actor ≠ caller.actor
      ∨ plan.caller.certificateUriSan ≠ caller.certificateUriSan
      ∨ plan.candidateDigest ≠ candidateDigest then
    .error (.new 409 "PLAN_STALE" "The configuration plan does not match this request." false)
  else if plan.baseEtag ≠ suppliedEtag then .error etagMismatch
  else if plan.baseGeneration ≠ runtime.generation then
    .error (.new 409 "PLAN_STALE"
      "The active configuration generation changed after the plan was created." false)
  else if plan.restartRequired then
    .error (.new 409 "RESTART_REQUIRED" ("The planned change requires a process restart and " ++
      "cannot be applied by Control API v1.") false)
  else .ok ()

/-! ## Acknowledgements -/

/-- Every subsystem accepted, and there is at least one. -/
def subsystemsAccepted (ack : Value) : Bool :=
  match (ack.get "subsystem_acks").bind Value.asArray with
  | none => false
  | some acks => !acks.isEmpty && acks.all fun a => (a.get "accepted").bind Value.asBool == some true

def validateActivationAck (work : TransactionWork) (ack : Value) : Except TransactionError Value :=
  let generation := (ack.get "generation").bind Value.asU64
  if (ack.get "source_digest").bind Value.asStr != some work.candidateDigest
      || (ack.get "effective_digest").bind Value.asStr != some work.candidateEffectiveDigest
      || (ack.get "schema_version").bind Value.asU64 != some work.schemaVersion
      -- An absent generation is below every generation.
      || generation.all (· ≤ work.baseRuntime.generation)
      || !subsystemsAccepted ack then
    .error (.internal
      "HBBS returned an activation acknowledgement that does not match the candidate.")
  else .ok ack

/-- The check of `runtime_reload`, which stamps the audit's id on what it accepts. -/
def validateReloadAck (expectedSourceDigest auditId : String) (ack : Value) :
    Except TransactionError Value :=
  if (ack.get "source_digest").bind Value.asStr != some expectedSourceDigest
      || !subsystemsAccepted ack then
    .error (.internal "HBBS returned an incomplete runtime activation acknowledgement.")
  else
    match ack.insert "audit_id" (.string auditId) with
    | none => .error (.internal "HBBS returned a non-object runtime activation acknowledgement.")
    | some stamped => .ok stamped

end Starry.ConfigStore
