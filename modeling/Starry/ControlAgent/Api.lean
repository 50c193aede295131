import Starry.ConfigStore.Admission
import Starry.ControlAgent.ServiceAuth
import Starry.Enrollment.Records
import Starry.Library.FixedWindow

/-!
# The API of the Control Agent (`control_agent.rs`)

A handler is a program over what it asks of the rest: the verifier with its clock, the table of rates,
HBBS, the configuration transactions and the enrollments. The bytes of a request come in pieces.
-/

open Library

namespace Starry.ControlAgent

open Starry.ConfigStore (Value AgentError TransactionError TransactionCaller PlanRequest ApplyRequest
  RollbackRequest ReloadRequest Operation RuntimeSnapshot isLowerHex)
open Starry.Enrollment (RelayEnrollmentPrepareRequest RelayEnrollmentCompleteRequest
  RelayEnrollmentActivateRequest RelayEnrollmentRevokeRequest EnrollmentError)

def controlBodyLimit : Nat := 1024 * 1024 + 4096
def requestsPerMinute : Nat := 120

/-! ## Requests -/

inductive Route
  | healthLive | healthReady | capabilities | status | relays | configSchema | config | configHistory
  | operation (id : String)
  | relayEnrollments
  | relayEnrollment (id : String)
  | action (name : String)
  | other

structure Request where
  requestId : String
  /-- The value of a header, if it is visible ASCII. -/
  headers : String → Option String
  /-- The URIs among the alternative names of the client's certificate. -/
  certificateUris : Option (List String)
  route : Route
  body : List (Except Unit Bytes)

structure ConfigCandidate where
  document : String
  format : String

structure ConfigApplyRequest where
  planId : String
  candidateDigest : String
  comment : Option String

structure ConfigRollbackRequest where
  revisionId : String
  comment : Option String

/-- `serde_json::from_slice`, at the type of each body, and constants of the build. -/
structure Build where
  store : ConfigStore.Env
  peerVerify : Bytes → Option Value
  value : Bytes → Option Value
  candidate : Bytes → Option ConfigCandidate
  apply : Bytes → Option ConfigApplyRequest
  rollback : Bytes → Option ConfigRollbackRequest
  /-- The `expected_source_digest` of a `RuntimeReloadRequest`. -/
  reload : Bytes → Option String
  prepare : Bytes → Option RelayEnrollmentPrepareRequest
  complete : Bytes → Option RelayEnrollmentCompleteRequest
  activate : Bytes → Option RelayEnrollmentActivateRequest
  revoke : Bytes → Option RelayEnrollmentRevokeRequest
  schema : Value
  uiSchema : Value
  schemaDigest : String
  starryVersion : String
  upstreamVersion : String

structure AgentState where
  instanceId : String
  maxConfigBytes : Nat
  writeEnabled : Bool
  verifier : ServiceJwtVerifier
  /-- `relay_enrollments` is there. -/
  enrollments : Bool
  allowedSans : List String

structure ApiProblem where
  status : Nat
  code : String
  detail : String
  retryable : Bool
  requestId : String
  errors : List Value := []

inductive Response
  | json (status : Nat) (body : Value)
  | etagged (body : Value) (etag : String)
  | operation (status : Nat) (operation : Operation)
  | problem (problem : ApiProblem)

/-! ## What a handler asks for -/

inductive Action
  /-- Reads the clock and verifies. -/
  | verify (token certificate : Option String) (scope : String)
  /-- The section under the lock of the rates; `none` if the lock is poisoned. -/
  | enter (key : String)
  | newRequestId
  /-- `local_client::call` -/
  | call (requestId method : String) (params : Value)
  | readConfig
  | history
  | operation (id : String)
  | createPlan (r : PlanRequest)
  | acceptApply (r : ApplyRequest)
  | acceptRollback (r : RollbackRequest)
  | runtimeReload (r : ReloadRequest)
  | enrollmentList
  | enrollmentGet (id : String)
  | enrollmentPrepare (r : RelayEnrollmentPrepareRequest) (idempotencyKey : String)
  | enrollmentComplete (r : RelayEnrollmentCompleteRequest)
  | enrollmentActivate (r : RelayEnrollmentActivateRequest) (activationAck relaySnapshot : Value)
  | enrollmentRevoke (r : RelayEnrollmentRevokeRequest)

abbrev Reply : Action → Type
  | .verify .. => Except AuthFailure ControlPrincipal
  | .enter _ => Option Bool
  | .newRequestId => String
  | .call .. => Except AgentError Value
  | .readConfig => Except TransactionError Bytes
  | .history | .createPlan _ | .runtimeReload _ => Except TransactionError Value
  | .operation _ | .acceptApply _ | .acceptRollback _ => Except TransactionError Operation
  | .enrollmentList | .enrollmentGet _ | .enrollmentPrepare .. | .enrollmentComplete _
  | .enrollmentActivate .. | .enrollmentRevoke _ => Except EnrollmentError Value

abbrev Serve (α : Type) : Type := ExceptT ApiProblem (Prog Action Reply) α

def ask (a : Action) : Serve (Reply a) := liftM (Prog.perform (R := Reply) a)

/-! ## Problems -/

namespace Request

variable (request : Request)

def problem (status : Nat) (code detail : String) (retryable : Bool) : ApiProblem :=
  { status, code, detail, retryable, requestId := request.requestId }

def invalid (detail : String) : ApiProblem := request.problem 400 "REQUEST_INVALID" detail false

def internal : ApiProblem :=
  request.problem 500 "STARRY_NOT_READY" "The control Agent cannot complete the request." true

def ofAgent (e : AgentError) : ApiProblem :=
  let status :=
    if e.code == "CONFIG_TOO_LARGE" then 413
    else if ["STARRY_NOT_READY", "LOCAL_CONTROL_UNAVAILABLE", "LOCAL_CONTROL_TIMEOUT"].contains e.code
      then 503
    else if ["IP_INVALID", "TRANSPORT_INVALID", "REQUEST_INVALID"].contains e.code then 400
    else 502
  request.problem status e.code e.detail e.retryable

def ofAuth (e : AuthFailure) : ApiProblem := request.problem e.status e.code e.detail false

def ofTransaction (e : TransactionError) : ApiProblem :=
  { request.problem e.status e.code e.detail e.retryable with errors := e.errors }

def ofEnrollment (e : EnrollmentError) : ApiProblem :=
  request.problem e.status e.code e.detail e.retryable

def notFound : ApiProblem :=
  request.problem 404 "REQUEST_INVALID" "The requested control endpoint does not exist." false

def invalidJson : ApiProblem :=
  request.invalid "The control request body is not valid JSON for this endpoint."

def tooLarge : ApiProblem :=
  request.problem 413 "CONFIG_TOO_LARGE" "The control request body exceeds the protocol limit." false

/-! ## Headers -/

def bearerToken : Option String := do
  let value ← request.headers "authorization"
  match value.toList.dropWhile (· != ' ') with
  | _ :: token =>
    let scheme := String.ofList (value.toList.takeWhile (· != ' '))
    if eqIgnoreAsciiCase scheme "Bearer" && !token.any isWhiteSpace then some (String.ofList token)
    else none
  | [] => none

def validTraceparent : Option String := do
  let value ← request.headers "traceparent"
  match value.toList.splitOn '-' with
  | [version, traceId, parentId, flags] =>
    if version.length != 2 || version == ['f', 'f'] || traceId.length != 32 ||
        traceId.all (· == '0') || parentId.length != 16 || parentId.all (· == '0') ||
        flags.length != 2 || !(value.toList.filter (· != '-')).all isLowerHex then none
    else some value
  | _ => none

def requiredIfMatch : Except ApiProblem String :=
  match request.headers "if-match" with
  | none => .error (request.problem 428 "PRECONDITION_REQUIRED"
      "If-Match is required for this configuration request." false)
  | some value =>
    let text := value.toList
    if text.length != 73 || !"\"sha256:".toList.isPrefixOf text || text.getLast? != some '"' ||
        !((text.take 72).drop 8).all isLowerHex then
      .error (request.invalid "If-Match must contain one strong Starry SHA-256 ETag.")
    else .ok value

/-- Visible ASCII has no control characters, so that only the length is left to check. -/
def requiredIdempotencyKey : Except ApiProblem String :=
  match request.headers "idempotency-key" with
  | none => .error (request.problem 428 "PRECONDITION_REQUIRED"
      "Idempotency-Key is required for this request." false)
  | some value =>
    if value.utf8ByteSize < 16 || 128 < value.utf8ByteSize ||
        value.toList.any fun c => 128 ≤ c.toNat || ConfigStore.isControl c then
      .error (request.invalid "Idempotency-Key must contain 16 to 128 printable ASCII bytes.")
    else .ok value

/-- `allowed_uri_san`: the one name of the certificate that is allowed. -/
def uriSan (allowedSans : List String) : Option String :=
  match request.certificateUris.map fun uris => (uris.filter allowedSans.contains).dedup with
  | some [san] => some san
  | _ => none

def caller (principal : ControlPrincipal) : TransactionCaller :=
  ⟨principal.service, principal.actor, principal.certificateUriSan, request.validTraceparent⟩

end Request

/-! ## Authorization -/

section

variable (build : Build) (state : AgentState) (request : Request)

def check {α ε : Type} (problem : ε → ApiProblem) : Except ε α → Serve α
  | .ok a => pure a
  | .error e => throw (problem e)

def verifyPrincipal (scope : String) : Serve ControlPrincipal := do
  check request.ofAuth
    (← ask (.verify request.bearerToken (request.uriSan state.allowedSans) scope))

/-- The key of the rate of a principal. -/
def rateKey (principal : ControlPrincipal) : String :=
  principal.certificateUriSan ++ "\x00" ++ principal.service

def authorize (scope : String) : Serve ControlPrincipal := do
  let principal ← verifyPrincipal state request scope
  match ← ask (.enter (rateKey principal)) with
  | none => throw request.internal
  | some false => throw (request.problem 429 "REQUEST_INVALID"
      "The control request rate limit was exceeded." true)
  | some true => return principal

/-! ## Handlers -/

def callHbbs (method : String) (params : Value) : Serve Value := do
  check request.ofAgent (← ask (.call request.requestId method params))

def proxyEmpty (scope method : String) : Serve Response := do
  discard <| authorize state request scope
  return .json 200 (← callHbbs request method (.object []))

def healthReady : Serve Response := do
  let requestId ← ask .newRequestId
  match ← ask (.call requestId "status" (.object [])) with
  | .ok status =>
    if (status.get "ready").bind Value.asBool = some true then
      return .json 200 (.object [("status", .string "ready")])
    else return .json 503 (.object [("status", .string "not_ready")])
  | .error _ => return .json 503 (.object [("status", .string "not_ready")])

def capabilityVersions : List (String × Nat) :=
  [("config_schema", 5), ("relay_inventory", 1), ("allocation_simulation", 1),
    ("connection_auth", 1), ("relay_quality", 1), ("relay_active_probe", 1),
    ("relay_probe_protocol", 1), ("relay_load_protocol", 1), ("relay_telemetry_schema", 2),
    ("fast_relay_authorization", 1), ("fast_media_relay_udp", 1), ("starry_pairing", 1),
    ("config_downgrade_preview", 1), ("profile_activation_lease", 1), ("peer_registry", 2)] ++
  (if state.writeEnabled then [("config_transaction", 1), ("config_rollback", 1)] else []) ++
  (if state.enrollments then
    ("relay_enrollment", 1) :: if state.writeEnabled then
      [("relay_enrollment_write", 1), ("relay_enrollment_health_activation", 1)] else []
  else [])

def capabilities : Serve Response := do
  discard <| authorize state request "starry.control.read"
  discard <| callHbbs request "capabilities" (.object [])
  let runtime ← callHbbs request "config.runtime_state" (.object [])
  let activeSchema := ((runtime.get "schema_version").bind Value.asU64).getD 5
  return .json 200 (.object [
    ("protocol", .object [("name", .string "starry-control"), ("version", .string "1.0.0"),
      ("major", .uint 1)]),
    ("instance", .object [("id", .string state.instanceId), ("role", .string "hbbs"),
      ("starry_version", .string build.starryVersion),
      ("upstream_version", .string build.upstreamVersion)]),
    ("capabilities", .object ((capabilityVersions state).map fun e => (e.1, .uint e.2))),
    ("config", .object [("supported_schema_versions", .array ([1, 2, 3, 4, 5].map .uint)),
      ("active_schema_version", .uint activeSchema),
      ("schema_digest", .string build.schemaDigest)]),
    ("limits", .object [("max_config_bytes", .uint state.maxConfigBytes),
      ("max_plan_lifetime_seconds", .uint 600), ("operation_retention_seconds", .uint 86400)])])

def configSchema : Serve Response := do
  discard <| authorize state request "starry.config.read"
  return .etagged (.object [("schema", build.schema), ("ui_schema", build.uiSchema)])
    build.schemaDigest

def configGet : Serve Response := do
  discard <| authorize state request "starry.config.read"
  let raw ← check request.ofTransaction (← ask .readConfig)
  match String.fromUTF8? ⟨raw.toArray⟩ with
  | none => throw (request.problem 409 "CONFIG_INVALID"
      "The managed configuration is not valid UTF-8 YAML and must be repaired locally." false)
  | some document =>
    let etag := ConfigStore.digest build.store raw
    let runtime ← callHbbs request "config.runtime_state" (.object [])
    let runtimeDigest := (runtime.get "source_digest").bind Value.asStr
    let drift := if raw.isEmpty then runtimeDigest.isSome else runtimeDigest != some etag
    let extended := (((runtime.insert "etag" (.string ("\"" ++ etag ++ "\""))).bind
      (·.insert "drift" (.bool drift))).bind (·.insert "document" (.string document))).bind
      (·.insert "format" (.string "yaml"))
    match extended with
    | some body => return .etagged body etag
    | none => throw request.internal

def configHistory : Serve Response := do
  discard <| authorize state request "starry.config.read"
  let revisions ← check request.ofTransaction (← ask .history)
  return .json 200 (.object [("revisions", revisions)])

def operationGet (id : String) : Serve Response := do
  discard <| authorize state request "starry.control.read"
  return .operation 200 (← check request.ofTransaction (← ask (.operation id)))

/-- `enrollment_store` -/
def enrollmentStore : Except ApiProblem Unit :=
  if state.enrollments then .ok ()
  else .error (request.problem 404 "RELAY_ENROLLMENT_DISABLED"
    "Relay enrollment is not configured for this Control Agent." false)

def relayEnrollmentList : Serve Response := do
  discard <| authorize state request "starry.relay.read"
  check id (enrollmentStore state request)
  let records ← check request.ofEnrollment (← ask .enrollmentList)
  return .json 200 (.object [("version", .uint 1), ("items", records)])

def relayEnrollmentGet (enrollmentId : String) : Serve Response := do
  discard <| authorize state request "starry.relay.read"
  check id (enrollmentStore state request)
  return .json 200 (← check request.ofEnrollment (← ask (.enrollmentGet enrollmentId)))

def relayEnrollmentPrepare (r : RelayEnrollmentPrepareRequest) : Serve Response := do
  discard <| authorize state request "starry.relay.enroll"
  let idempotencyKey ← check id request.requiredIdempotencyKey
  check id (enrollmentStore state request)
  return .json 200 (← check request.ofEnrollment (← ask (.enrollmentPrepare r idempotencyKey)))

def relayEnrollmentComplete (r : RelayEnrollmentCompleteRequest) : Serve Response := do
  discard <| authorize state request "starry.relay.enroll"
  check id (enrollmentStore state request)
  return .json 200 (← check request.ofEnrollment (← ask (.enrollmentComplete r)))

def relayEnrollmentActivate (r : RelayEnrollmentActivateRequest) : Serve Response := do
  discard <| authorize state request "starry.relay.enroll"
  let operation ← check request.ofTransaction (← ask (.operation r.operationId))
  if operation.kind ≠ .configApply ∨ operation.state ≠ .succeeded then
    throw (request.problem 409 "RELAY_ENROLLMENT_ACTIVATION_ACK_MISMATCH"
      "Relay activation requires a succeeded configuration apply operation." false)
  else match operation.activationAck with
  | none => throw (request.problem 409 "RELAY_ENROLLMENT_ACTIVATION_ACK_MISMATCH"
      "The configuration apply operation has no activation acknowledgement." false)
  | some activationAck =>
    let relaySnapshot ← callHbbs request "relays" (.object [])
    check id (enrollmentStore state request)
    return .json 200 (← check request.ofEnrollment
      (← ask (.enrollmentActivate r activationAck relaySnapshot)))

def relayEnrollmentRevoke (r : RelayEnrollmentRevokeRequest) : Serve Response := do
  discard <| authorize state request "starry.relay.enroll"
  check id (enrollmentStore state request)
  return .json 200 (← check request.ofEnrollment (← ask (.enrollmentRevoke r)))

def simulate (params : Value) : Serve Response := do
  discard <| authorize state request "starry.relay.simulate"
  return .json 200 (← callHbbs request "allocation.simulate" params)

def peerVerify (params : Value) : Serve Response := do
  discard <| authorize state request "starry.peer.verify"
  let result ← callHbbs request "peer.verify" params
  match result.insert "instance_id" (.string state.instanceId) with
  | some result => return .json 200 result
  | none => throw request.internal

/-- What `config_validate` says of a document. -/
def validation (valid : Bool) (sourceDigest effectiveDigest : Value) (diagnostics : List Value) :
    Value :=
  .object [("valid", .bool valid), ("source_digest", sourceDigest),
    ("effective_digest", effectiveDigest), ("diagnostics", .array diagnostics)]

/-- `candidate_bytes`; the checks of `config_validate` are the same. -/
def candidateBytes (candidate : ConfigCandidate) : Except ApiProblem Bytes :=
  if candidate.format ≠ "yaml" then .error (request.invalid "Configuration format must be yaml.")
  else
    let document := asBytes candidate.document
    if state.maxConfigBytes < document.length then
      .error (request.problem 413 "CONFIG_TOO_LARGE"
        "The configuration candidate exceeds the configured byte limit." false)
    else .ok document

def configValidate (candidate : ConfigCandidate) : Serve Response := do
  discard <| authorize state request "starry.config.validate"
  let document ← check id (candidateBytes state request candidate)
  match build.store.parseAndValidate document with
  | .ok validated =>
    return .json 200 (validation true (.string validated.sourceDigest)
      (.string validated.effectiveDigest) [])
  | .error diagnostics => return .json 200 (validation false .null .null diagnostics)

def runtimeSnapshot : Serve RuntimeSnapshot := do
  let value ← callHbbs request "config.runtime_state" (.object [])
  check request.ofTransaction (RuntimeSnapshot.fromValue value)

def configPlan (candidate : ConfigCandidate) : Serve Response := do
  let principal ← authorize state request "starry.config.plan"
  let suppliedEtag ← check id request.requiredIfMatch
  let document ← check id (candidateBytes state request candidate)
  let validated ← check request.ofTransaction (ConfigStore.validateCandidate build.store document)
  let runtime ← runtimeSnapshot request
  return .json 200 (← check request.ofTransaction (← ask (.createPlan
    ⟨document, validated, suppliedEtag, runtime, request.caller principal⟩)))

def configApply (r : ConfigApplyRequest) : Serve Response := do
  let principal ← authorize state request "starry.config.apply"
  if !build.store.isUuid r.planId then throw (request.invalid "plan_id must be a UUID.")
  else
    check request.ofTransaction (ConfigStore.validateDigest r.candidateDigest)
    let suppliedEtag ← check id request.requiredIfMatch
    let idempotencyKey ← check id request.requiredIdempotencyKey
    let runtime ← runtimeSnapshot request
    return .operation 202 (← check request.ofTransaction (← ask (.acceptApply
      { planId := r.planId, candidateDigest := r.candidateDigest, suppliedEtag, idempotencyKey
        comment := r.comment, caller := request.caller principal, runtime
        requestId := request.requestId })))

def configRollback (r : ConfigRollbackRequest) : Serve Response := do
  let principal ← authorize state request "starry.config.rollback"
  let suppliedEtag ← check id request.requiredIfMatch
  let idempotencyKey ← check id request.requiredIdempotencyKey
  let runtime ← runtimeSnapshot request
  return .operation 202 (← check request.ofTransaction (← ask (.acceptRollback
    { revisionId := r.revisionId, suppliedEtag, idempotencyKey, comment := r.comment
      caller := request.caller principal, runtime, requestId := request.requestId })))

def runtimeReload (expectedSourceDigest : String) : Serve Response := do
  let principal ← authorize state request "starry.runtime.reload"
  let idempotencyKey ← check id request.requiredIdempotencyKey
  return .json 200 (← check request.ofTransaction (← ask (.runtimeReload
    ⟨expectedSourceDigest, idempotencyKey, request.requestId, request.caller principal⟩)))

/-! ## Dispatch -/

/-- The scope of an action, and whether it changes anything. -/
def actionScopes : List (String × String × Bool) :=
  [("peers:verify", "starry.peer.verify", false),
    ("allocations:simulate", "starry.relay.simulate", false),
    ("config:validate", "starry.config.validate", false),
    ("config:plan", "starry.config.plan", true),
    ("config:apply", "starry.config.apply", true),
    ("config:rollback", "starry.config.rollback", true),
    ("runtime:reload", "starry.runtime.reload", true),
    ("relay-enrollments:prepare", "starry.relay.enroll", true),
    ("relay-enrollments:complete", "starry.relay.enroll", true),
    ("relay-enrollments:activate", "starry.relay.enroll", true),
    ("relay-enrollments:revoke", "starry.relay.enroll", true)]

/-- Collects the pieces of the body. -/
def readBody : Bytes → List (Except Unit Bytes) → Except ApiProblem Bytes
  | bytes, [] => .ok bytes
  | _, .error _ :: _ => .error request.invalidJson
  | bytes, .ok chunk :: rest =>
    if controlBodyLimit < bytes.length + chunk.length then .error request.tooLarge
    else readBody (bytes ++ chunk) rest

def decoded {α : Type} (handler : α → Serve Response) : Option α → Serve Response
  | some value => handler value
  | none => throw request.invalidJson

def dispatch (action : String) (bytes : Bytes) : Serve Response :=
  match action with
  | "peers:verify" => decoded request (peerVerify state request) (build.peerVerify bytes)
  | "allocations:simulate" => decoded request (simulate state request) (build.value bytes)
  | "config:validate" =>
    decoded request (configValidate build state request) (build.candidate bytes)
  | "config:plan" => decoded request (configPlan build state request) (build.candidate bytes)
  | "config:apply" => decoded request (configApply build state request) (build.apply bytes)
  | "config:rollback" => decoded request (configRollback state request) (build.rollback bytes)
  | "runtime:reload" => decoded request (runtimeReload state request) (build.reload bytes)
  | "relay-enrollments:prepare" =>
    decoded request (relayEnrollmentPrepare state request) (build.prepare bytes)
  | "relay-enrollments:complete" =>
    decoded request (relayEnrollmentComplete state request) (build.complete bytes)
  | "relay-enrollments:activate" =>
    decoded request (relayEnrollmentActivate state request) (build.activate bytes)
  | "relay-enrollments:revoke" =>
    decoded request (relayEnrollmentRevoke state request) (build.revoke bytes)
  | _ => throw request.notFound

def controlAction (action : String) : Serve Response :=
  match actionScopes.lookup action with
  | none => throw request.notFound
  | some (scope, mutation) => do
    discard <| verifyPrincipal state request scope
    if mutation && !state.writeEnabled then
      throw (request.problem 404 "REQUEST_INVALID"
        "The requested control endpoint is disabled by the read-only profile." false)
    else match (request.headers "content-length").bind (parseUnsigned (2 ^ 64)) with
    | none => throw (request.problem 411 "REQUEST_INVALID"
        "Content-Length is required for control action requests." false)
    | some declaredLength =>
      if controlBodyLimit < declaredLength then throw request.tooLarge
      else dispatch build state request action (← check id (readBody request [] request.body))

/-- `router`, with the problem of a handler as its response. -/
def route : Serve Response :=
  match request.route with
  | .healthLive => return .json 200 (.object [("status", .string "live")])
  | .healthReady => healthReady
  | .capabilities => capabilities build state request
  | .status => proxyEmpty state request "starry.control.read" "status"
  | .relays => proxyEmpty state request "starry.relay.read" "relays"
  | .configSchema => configSchema build state request
  | .config => configGet build state request
  | .configHistory => configHistory state request
  | .operation id => operationGet state request id
  | .relayEnrollments => relayEnrollmentList state request
  | .relayEnrollment id => relayEnrollmentGet state request id
  | .action name => controlAction build state request name
  | .other => throw request.notFound

def serve : Prog Action Reply Response := do
  match ← (route build state request).run with
  | .ok response => return response
  | .error problem => return .problem problem

end

end Starry.ControlAgent
