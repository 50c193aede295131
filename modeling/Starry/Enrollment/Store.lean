import Starry.Enrollment.Evidence
import Starry.Library.Keyed
import Starry.Library.Serial

/-!
# The enrollment store (`RelayEnrollmentStore`)

The registry holds one record for each enrollment. Beside it every node has a directory for its
claim, its certificate and its telemetry secret. The calls take the guard of the store, so they run
one after another; a file appears and disappears at once, and nothing else does.
-/

open Library Library.Prog

namespace Starry.Enrollment

open Starry.ConfigStore (Value)

/-! ## Disk, clock and random numbers -/

structure RelayDir where
  claim : Option ClaimMarker := none
  certificate : Option String := none
  secret : Option String := none
deriving DecidableEq, Repr

/-- `secrets` and `issued` are ghosts: the random secrets so far, and for which enrollment each of
them was stored. -/
structure World where
  clock : Nat
  records : Keyed EnrollmentRecord.enrollmentId
  dirs : Table String RelayDir
  secrets : List String
  issued : List (String × String)

namespace World

variable (w : World)

def dir (node : String) : RelayDir := (w.dirs.get node).getD {}

def setDir (node : String) (d : RelayDir) : World := { w with dirs := w.dirs.insert node d }

def setClock (now : Nat) : World := { w with clock := now }

def putRecord (r : EnrollmentRecord) : World := { w with records := w.records.put r }

def addSecret (secret : String) : World := { w with secrets := secret :: w.secrets }

/-- The enrollment in whose name a file is stored. -/
def issue (node text : String) : World :=
  match (w.dir node).claim with
  | some marker => { w with issued := (trim text, marker.enrollmentId) :: w.issued }
  | none => w

end World

/-- The files of a node besides its claim. -/
inductive Credential
  | certificate | secret
deriving DecidableEq, Repr

def RelayDir.get (d : RelayDir) : Credential → Option String
  | .certificate => d.certificate
  | .secret => d.secret

def RelayDir.set (d : RelayDir) (c : Credential) (text : Option String) : RelayDir :=
  match c with
  | .certificate => { d with certificate := text }
  | .secret => { d with secret := text }

inductive Act
  /-- `unix_seconds` -/
  | now
  /-- `Uuid::now_v7` -/
  | newId
  /-- 32 random bytes as text. -/
  | randomSecret
  | issueCertificate (csrPem : String)
  | records
  | readRecord (id : String)
  /-- `atomic_json` without and with `replace`. -/
  | createRecord (record : EnrollmentRecord)
  | replaceRecord (record : EnrollmentRecord)
  | createDirectory (node : String)
  | readClaim (node : String)
  | createClaim (node : String) (marker : ClaimMarker)
  | removeClaim (node : String)
  | read (node : String) (c : Credential)
  | create (node : String) (c : Credential) (text : String)
  | remove (node : String) (c : Credential)
  | syncDirectory (node : String)
  | readCenterPublicKey
  | readRelayCa

abbrev Io (α : Type) := Except EnrollmentError α

def Act.Reply : Act → Type
  | .now => Nat
  | .newId | .randomSecret => String
  | .issueCertificate _ | .readCenterPublicKey | .readRelayCa => Io String
  | .records => Io (List EnrollmentRecord)
  | .readRecord _ => Io EnrollmentRecord
  | .readClaim _ => Io (Option ClaimMarker)
  | .read _ _ => Io (Option String)
  | .createRecord _ | .replaceRecord _ | .createDirectory _ | .createClaim _ _ | .removeClaim _
  | .create _ _ _ | .remove _ _ | .syncDirectory _ => Io Unit

/-- How a write ends. A file may have changed although the write reports an error. -/
inductive Write
  | done | failed | unsynced
deriving DecidableEq, Repr

def Act.Choice : Act → Type
  | .now => Nat
  | .newId | .randomSecret => String
  | .issueCertificate _ => Io String
  | .records => Option (List EnrollmentRecord)
  | .readRecord _ | .readClaim _ | .read _ _ | .createDirectory _ | .syncDirectory _
  | .readCenterPublicKey | .readRelayCa => Bool
  | .createRecord _ | .replaceRecord _ | .createClaim _ _ | .removeClaim _ | .create _ _ _
  | .remove _ _ => Write

/-- What the operator has set up. -/
structure Setup where
  instanceId : String
  centerPublicKey : String
  relayCa : String

section Step

variable (env : Env) (setup : Setup)

def readable {α : Type} (ok : Bool) (x : α) : Io α := if ok then .ok x else .error .internal

/-- A write to `w'`. -/
def write (w w' : World) : Write → Io Unit × World
  | .done => (.ok (), w')
  | .failed => (.error .internal, w)
  | .unsynced => (.error .internal, w')

def noWhiteSpace (text : String) : Bool := text.toList.all fun c => !isWhiteSpace c

def step (w : World) : (a : Act) → a.Choice → Option (a.Reply × World)
  | .now, (t : Nat) => if w.clock ≤ t then some (t, w.setClock t) else none
  | .newId, id => if env.isUuid id then some (id, w) else none
  | .randomSecret, secret =>
    if w.secrets.contains secret || !noWhiteSpace secret then none
    else some (secret, w.addSecret secret)
  | .issueCertificate _, r => some (r, w)
  | .records, listed => match listed with
    | none => some (.error .internal, w)
    | some listed =>
      if !listed.isPerm (w.records.values .stored) then none
      else if listed.length > maxRecords then some (.error .capacity, w)
      else some (.ok listed, w)
  | .readRecord id, (ok : Bool) => match w.records.get id with
    | none => some (if ok then .error (.gone "The Relay enrollment does not exist.")
        else .error .internal, w)
    | some record => some (readable ok record, w)
  | .createRecord record, c =>
    if (w.records.get record.enrollmentId).isSome then some (.error .internal, w)
    else some (write w (w.putRecord record) c)
  | .replaceRecord record, c => some (write w (w.putRecord record) c)
  | .createDirectory _, ok | .syncDirectory _, ok => some (readable ok (), w)
  | .readClaim node, ok => some (readable ok (w.dir node).claim, w)
  | .createClaim node marker, c =>
    if (w.dir node).claim.isSome then some (.error .internal, w)
    else some (write w (w.setDir node { w.dir node with claim := some marker }) c)
  | .removeClaim node, c => some (write w (w.setDir node { w.dir node with claim := none }) c)
  | .read node c, ok => some (readable ok ((w.dir node).get c), w)
  | .create node c text, choice =>
    if ((w.dir node).get c).isSome then some (.error .internal, w)
    else
      let w' := w.setDir node ((w.dir node).set c (some text))
      some (write w (match c with | .certificate => w' | .secret => w'.issue node text) choice)
  | .remove node c, choice =>
    some (write w (w.setDir node ((w.dir node).set c none)) choice)
  | .readCenterPublicKey, ok => some (readable ok setup.centerPublicKey, w)
  | .readRelayCa, ok => some (readable ok setup.relayCa, w)

def next : World → (a : Act) → a.Reply → World → Prop := byChoice (step env setup)

end Step

/-! ## Programs -/

abbrev Agent (α : Type) := Prog Act Act.Reply α
abbrev Try (α : Type) := ExceptT EnrollmentError (Prog Act Act.Reply) α

/-- An action whose errors end the call. -/
def io {α : Type} (p : Agent (Io α)) : Try α := ExceptT.mk p

def run (a : Act) : Agent a.Reply := perform a

def check (r : Io Unit) : Try Unit := ExceptT.mk (Pure.pure r)

def unixSeconds : Agent Nat := run .now
def newId : Agent String := run .newId
def randomSecret : Agent String := run .randomSecret

def readRecord (id : String) : Try EnrollmentRecord := io (run (.readRecord id))
def readClaim (node : String) : Try (Option ClaimMarker) := io (run (.readClaim node))

/-- A write whose error is ignored. -/
def writeAnyway (record : EnrollmentRecord) : Agent Unit := discard (run (.replaceRecord record))

def replayed (detail : String) : EnrollmentError := .conflict "RELAY_ENROLLMENT_REPLAYED" detail

def bindingMismatch (detail : String) : EnrollmentError :=
  .conflict "RELAY_ENROLLMENT_BINDING_MISMATCH" detail

section Programs

variable (env : Env) (setup : Setup)

def freshRecord (request : RelayEnrollmentPrepareRequest) (idempotencyDigest id : String)
    (now : Nat) : EnrollmentRecord :=
  { registryVersion := registryVersion
    instanceId := setup.instanceId
    enrollmentId := id
    prepareIdempotencyKeyDigest := idempotencyDigest
    configurationDigest := approvedDigest env request
    createdAtUnix := now
    expiresAtUnix := satAdd now request.expiresInSeconds
    state := .pendingClaim
    approved := request
    requestDigest := none
    keyFingerprint := none
    csrDigest := none
    completedAtUnix := none
    activationOperationId := none
    activationConfigGeneration := none
    activationHealthSnapshotId := none
    activatedAtUnix := none }

def prepare (request : RelayEnrollmentPrepareRequest) (idempotencyKey : String) :
    Try RelayEnrollmentPrepareResponse := do
  check (validatePrepare env request)
  check (validateIdempotencyKey idempotencyKey)
  let records ← io (run .records)
  let idempotencyDigest := env.digest (asBytes idempotencyKey)
  let configurationDigest := approvedDigest env request
  match records.find? fun record => record.prepareIdempotencyKeyDigest == idempotencyDigest &&
      record.configurationDigest == configurationDigest with
  | some record => return prepareResponse record true
  | none =>
    if records.any fun record => record.prepareIdempotencyKeyDigest == idempotencyDigest ||
        (record.approved.nodeId == request.nodeId && !record.state.isOver) then
      throw (.conflict "RELAY_ENROLLMENT_CONFLICT"
        "The idempotency key or Relay node identity is already bound.")
    if records.length ≥ maxRecords then throw .capacity
    let now ← unixSeconds
    let id ← newId
    let record := freshRecord env setup request idempotencyDigest id now
    io (run (.createRecord record))
    return prepareResponse record false

def claimRequestDigest (enrollmentId configurationDigest keyFingerprint csrPem : String) : String :=
  env.digest (asBytes ("starry-pairing-claim-v1\nrelay\nenroll\n" ++ enrollmentId ++ "\n" ++
    configurationDigest ++ "\n" ++ keyFingerprint ++ "\n" ++ env.digest (asBytes csrPem) ++ "\n"))

/-- `remove_relay_credentials`, with the claim that is expected to be there. -/
def removeRelayCredentials (node : String) (expected : ClaimMarker) : Try Unit := do
  let actual ← readClaim node
  match actual with
  | none => throw .internal
  | some actual =>
    if actual ≠ expected then
      throw (replayed "The Relay identity changed while credentials were being retired.")
    io (run (.remove node .certificate))
    io (run (.remove node .secret))
    io (run (.removeClaim node))
    io (run (.syncDirectory node))

def retireRevokedClaim (node : String) (current : EnrollmentRecord) (expected : ClaimMarker) :
    Try Unit := do
  let existing ← readClaim node
  match existing with
  | none => return ()
  | some existing =>
    if existing = expected then return ()
    let stillBound := replayed "The Relay identity is still bound to another enrollment."
    let previous ← tryCatch (readRecord existing.enrollmentId) fun _ => throw stillBound
    if previous.approved.nodeId ≠ current.approved.nodeId || !previous.state.isOver then
      throw stillBound
    removeRelayCredentials node existing

def validateOrWriteClaim (node : String) (expected : ClaimMarker) : Try Unit := do
  let existing ← readClaim node
  match existing with
  | some existing =>
    if existing ≠ expected then
      throw (replayed "The enrollment was already claimed by another key or CSR.")
  | none => io (run (.createClaim node expected))

def removeRelayCredentialsIfCurrent (record : EnrollmentRecord) : Try Unit := do
  let marker ← readClaim record.approved.nodeId
  match marker with
  | none => return ()
  | some marker =>
    if marker.enrollmentId ≠ record.enrollmentId ||
        marker.configurationDigest ≠ record.configurationDigest then return ()
    removeRelayCredentials record.approved.nodeId marker

/-- Issues a certificate or draws a secret, unless there is one. -/
def ensureCertificate (node csrPem : String) : Try Unit := do
  let existing ← io (run (.read node .certificate))
  if existing.isNone then
    let certificate ← io (run (.issueCertificate csrPem))
    io (run (.create node .certificate certificate))

def ensureSecret (node : String) : Try Unit := do
  let existing ← io (run (.read node .secret))
  if existing.isNone then
    let secret ← randomSecret
    io (run (.create node .secret (secret ++ "\n")))

def present (text : Option String) : Try String :=
  match text with
  | none => throw .internal
  | some text => return text

/-- The bundle for what was approved. -/
def relayBundle (approved : RelayEnrollmentPrepareRequest)
    (nodeCertificatePem relayCaPem centerPublicKey telemetrySecret : String) :
    RelayEnrollmentBundle :=
  { nodeId := approved.nodeId
    relayServer := approved.relayServer
    publicEndpoint := approved.publicEndpoint
    nodeCertificatePem
    relayCaPem
    centerPublicKey
    telemetrySecret
    maxSessions := approved.maxSessions
    capacityBandwidthBps := approved.capacityBandwidthBps
    draining := approved.draining
    relayPool := approved.relayPool
    profile := approved.profile
    wssEndpoint := approved.wssEndpoint
    activateAfterHealth := approved.activateAfterHealth
    fastMediaUdpPort := approved.fastMediaUdpPort }

def bundle (record : EnrollmentRecord) : Try RelayEnrollmentBundle := do
  let node := record.approved.nodeId
  let nodeCertificatePem ← present (← io (run (.read node .certificate)))
  let telemetrySecret := trim (← present (← io (run (.read node .secret))))
  if env.decodedUrlSafeLength telemetrySecret ≠ some 32 then throw .internal
  let centerPublicKey := trim (← io (run .readCenterPublicKey))
  let relayCaPem ← io (run .readRelayCa)
  let keyFingerprint ← present record.keyFingerprint
  let now ← unixSeconds
  if env.certificateKey nodeCertificatePem ≠ some keyFingerprint ||
      !env.certificateValid nodeCertificatePem relayCaPem now then throw .internal
  return relayBundle record.approved nodeCertificatePem relayCaPem centerPublicKey telemetrySecret

/-- What `complete` writes into the record. -/
def claimedRecord (record : EnrollmentRecord) (request : RelayEnrollmentCompleteRequest)
    (csrDigest : String) (completedAt : Nat) : EnrollmentRecord :=
  { record with
    requestDigest := some request.requestDigest
    keyFingerprint := some request.keyFingerprint
    csrDigest := some csrDigest
    completedAtUnix := some completedAt
    state := if record.state = .active then .active
      else if record.approved.activateAfterHealth then .claimedPendingHealth
      else .pendingApproval }

def claimMarker (record : EnrollmentRecord) (request : RelayEnrollmentCompleteRequest)
    (csrDigest : String) : ClaimMarker :=
  { version := 1
    enrollmentId := record.enrollmentId
    configurationDigest := record.configurationDigest
    requestDigest := request.requestDigest
    keyFingerprint := request.keyFingerprint
    csrDigest }

/-- The checks of `complete` on the record and the request. -/
def checkClaim (record : EnrollmentRecord) (request : RelayEnrollmentCompleteRequest) :
    Try Unit := do
  if record.configurationDigest ≠ request.configurationDigest then
    throw (bindingMismatch "The approved Relay configuration digest does not match.")
  let csrKeyFingerprint ← ExceptT.mk (Pure.pure (env.csrKey request.csrPem))
  if csrKeyFingerprint ≠ request.keyFingerprint || claimRequestDigest env request.enrollmentId
      request.configurationDigest request.keyFingerprint request.csrPem ≠ request.requestDigest then
    throw (bindingMismatch "The Relay CSR or claim digest does not match the enrollment.")
  match record.completedAtUnix with
  | none => return ()
  | some completed =>
    if record.requestDigest ≠ some request.requestDigest ||
        record.keyFingerprint ≠ some request.keyFingerprint ||
        record.csrDigest ≠ some (env.digest (asBytes request.csrPem)) then
      throw (replayed "The enrollment was already claimed by another key or CSR.")
    let now ← unixSeconds
    if satAdd completed claimRecoverySeconds < now then
      throw (.conflict "RELAY_ENROLLMENT_RECOVERY_EXPIRED"
        "The bounded lost-response recovery window has expired.")

def completedAt (record : EnrollmentRecord) : Agent Nat :=
  match record.completedAtUnix with
  | some completed => return completed
  | none => unixSeconds

def complete (request : RelayEnrollmentCompleteRequest) : Try RelayEnrollmentCompleteResponse := do
  check (validateComplete env request)
  let record ← readRecord request.enrollmentId
  if record.registryVersion ≠ registryVersion || record.instanceId ≠ setup.instanceId then
    throw (.invalid "Relay enrollment registry binding is invalid.")
  if record.state = .revoked then throw (.gone "The Relay enrollment was revoked.")
  let now ← unixSeconds
  if record.expiresAtUnix ≤ now && record.completedAtUnix.isNone then
    writeAnyway { record with state := .expired }
    throw (.gone "The Relay enrollment expired.")
  checkClaim env record request
  let node := record.approved.nodeId
  io (run (.createDirectory node))
  let csrDigest := env.digest (asBytes request.csrPem)
  let marker := claimMarker record request csrDigest
  retireRevokedClaim node record marker
  validateOrWriteClaim node marker
  ensureCertificate node request.csrPem
  ensureSecret node
  let claimed := claimedRecord record request csrDigest (← completedAt record)
  io (run (.replaceRecord claimed))
  let bundle ← bundle env claimed
  return {
    version := 1
    enrollmentId := claimed.enrollmentId
    configurationDigest := claimed.configurationDigest
    requestDigest := request.requestDigest
    keyFingerprint := request.keyFingerprint
    state := claimed.state
    bundle
    reused := record.completedAtUnix.isSome }

/-- What `activate` writes into the record. -/
def activeRecord (record : EnrollmentRecord) (request : RelayEnrollmentActivateRequest)
    (now : Nat) : EnrollmentRecord :=
  { record with
    state := .active
    activationOperationId := some request.operationId
    activationConfigGeneration := some request.configGeneration
    activationHealthSnapshotId := some request.healthSnapshotId
    activatedAtUnix := some now }

def activate (request : RelayEnrollmentActivateRequest) (activationAck relaySnapshot : Value) :
    Try RelayEnrollmentSummary := do
  check (validateActivate env request)
  let record ← readRecord request.enrollmentId
  if record.registryVersion ≠ registryVersion || record.instanceId ≠ setup.instanceId then
    throw (.invalid "Relay enrollment registry binding is invalid.")
  if record.configurationDigest ≠ request.configurationDigest then
    throw (bindingMismatch "The approved Relay configuration digest does not match.")
  if !record.approved.activateAfterHealth then
    throw (.conflict "RELAY_ENROLLMENT_PREAUTHORIZATION_REQUIRED"
      "This Relay enrollment was not pre-authorized for health-gated activation.")
  if record.state = .active then
    if record.activationOperationId = some request.operationId &&
        record.activationConfigGeneration = some request.configGeneration &&
        record.activationHealthSnapshotId = some request.healthSnapshotId then
      return summary record
    throw (.conflict "RELAY_ENROLLMENT_ACTIVATION_CONFLICT"
      "The Relay enrollment is already active under different evidence.")
  if record.state ≠ .claimedPendingHealth then
    throw (.conflict "RELAY_ENROLLMENT_STATE_MISMATCH"
      "The Relay enrollment is not awaiting health-gated activation.")
  check (validateActivationEvidence record request activationAck relaySnapshot)
  let now ← unixSeconds
  let record := activeRecord record request now
  io (run (.replaceRecord record))
  return summary record

def revoke (request : RelayEnrollmentRevokeRequest) : Try RelayEnrollmentSummary := do
  if request.version ≠ 1 || !env.isUuid request.enrollmentId then
    throw (.invalid "The Relay enrollment request is invalid.")
  let record ← readRecord request.enrollmentId
  if record.configurationDigest ≠ request.configurationDigest then
    throw (bindingMismatch "The approved Relay configuration digest does not match.")
  let record := { record with state := .revoked }
  io (run (.replaceRecord record))
  removeRelayCredentialsIfCurrent record
  return summary record

end Programs

/-! ## Runs of the store -/

inductive Call
  | prepare (request : RelayEnrollmentPrepareRequest) (idempotencyKey : String)
  | complete (request : RelayEnrollmentCompleteRequest)
  | activate (request : RelayEnrollmentActivateRequest) (activationAck relaySnapshot : Value)
  | revoke (request : RelayEnrollmentRevokeRequest)

inductive Answer
  | prepared (r : Io RelayEnrollmentPrepareResponse)
  | completed (r : Io RelayEnrollmentCompleteResponse)
  | activated (r : Io RelayEnrollmentSummary)
  | revoked (r : Io RelayEnrollmentSummary)

/-- A call and the time at which it is made. -/
structure TimedCall where
  call : Call
  time : Nat

def TimedCall.program (env : Env) (setup : Setup) (c : TimedCall) : Agent Answer :=
  match c.call with
  | .prepare request idempotencyKey =>
    Answer.prepared <$> (prepare env setup request idempotencyKey).run
  | .complete request => Answer.completed <$> (complete env setup request).run
  | .activate request ack snapshot =>
    Answer.activated <$> (activate env setup request ack snapshot).run
  | .revoke request => Answer.revoked <$> (revoke env request).run

/-- The clock does not go back between two calls. -/
def starts (w : World) (c : TimedCall) (w' : World) : Prop :=
  w.clock ≤ c.time ∧ w' = w.setClock c.time

abbrev Store := Serial Act Act.Reply World TimedCall Answer

def Store.Next (env : Env) (setup : Setup) : Store → SerialMove → Store → Prop :=
  Serial.Next (TimedCall.program env setup) starts (next env setup)

/-- A store that has never been used. -/
def World.initial (clock : Nat) : World := ⟨clock, .empty, .empty, [], []⟩

def Store.Reached (env : Env) (setup : Setup) (s : Store) : Prop :=
  ∃ clock, Reachable (Store.Next env setup) (Serial.initial (World.initial clock)) s

end Starry.Enrollment
