import Starry.Pairing.Files

/-!
# Pairing the control agent (`control_pair`)

A call makes or finds its key, writes down what it is about to claim, claims it, installs what the
broker has answered and removes what was written down.
-/

open Library Library.Prog

namespace Starry.Pairing

open Starry.Config (ensure)

namespace ControlPairOptions

variable (options : ControlPairOptions)

abbrev marker : PathBuf := options.stateDir.join "identity.json"
abbrev pendingPath : PathBuf := options.stateDir.join "pairing.pending.json"
abbrev pendingKeyPath : PathBuf := options.stateDir.join "server-key.pending.pem"
abbrev instanceId : PathBuf := options.stateDir.join "instance-id"
abbrev serverKey : PathBuf := options.identityDir.join "server-key.pem"
abbrev serverCert : PathBuf := options.identityDir.join "server-cert.pem"
abbrev clientCa : PathBuf := options.identityDir.join "client-ca.pem"
abbrev jwks : PathBuf := options.identityDir.join "service-jwks.json"
abbrev relayCa : PathBuf := options.identityDir.join "relay-ca.pem"
abbrev relayCaKey : PathBuf := options.identityDir.join "relay-ca-key.pem"
abbrev centerPublicKey : PathBuf := options.sharedDir.join "center-public-key"
abbrev tokenFile : PathBuf := options.sharedDir.join "local-control.token"

end ControlPairOptions

section Control

variable (env : Env) (code : PairingCode) (options : ControlPairOptions)

/-! ## A completed pairing -/

def certificateText (content : Content) (error : String) : Except String String :=
  content.asText.elim (.error error) .ok

def validateInstalledKeyAndCertificate (expectedFingerprint : String) : Try Unit := do
  let file ← readPrivateInput env options.serverKey
  let key ← check ((file.content.keyPair env).elim (.error "installed_identity_key_invalid") .ok)
  require (env.digest (env.publicKeyDer key) == expectedFingerprint)
    "installed_identity_key_mismatch"
  let found ← find options.serverCert
  let file ← check (found.elim (.error "installed_identity_certificate_unreadable") .ok)
  let certificate ← check (certificateText file.content "pairing_certificate_invalid")
  let now ← unixSeconds
  check (validateCertificateForKey env certificate expectedFingerprint now)

/-- What is pending belongs to the marker, as far as it is there. -/
def checkCompletedMetadata (marker : InstalledControlIdentity) (found : Option File) :
    Except String Unit :=
  match found with
  | none => .ok ()
  | some file => match file.content.asPending with
    | none => .error "pairing_pending_invalid"
    | some pending =>
      ensure (pending.version == protocolVersion && pending.purpose == Purpose.controlAgent.asStr &&
        pending.enrollmentId == marker.enrollmentId &&
        pending.configurationDigest == marker.configurationDigest &&
        pending.keyFingerprint == marker.keyFingerprint) "pairing_completed_pending_mismatch"

def cleanupCompletedPending (marker : InstalledControlIdentity) : Try Unit := do
  let found ← find options.pendingPath
  check (checkCompletedMetadata marker found)
  let found ← find options.pendingKeyPath
  if found.isSome then
    let file ← readPrivateInput env options.pendingKeyPath
    let key ← check ((file.content.keyPair env).elim (.error "pairing_pending_key_invalid") .ok)
    require (env.digest (env.publicKeyDer key) == marker.keyFingerprint)
      "pairing_completed_pending_key_mismatch"
    removePending options.pendingPath options.pendingKeyPath
  else removePending options.pendingPath options.pendingKeyPath

def validMarker (marker : InstalledControlIdentity) : Bool :=
  marker.version == protocolVersion && marker.purpose == Purpose.controlAgent.asStr &&
    marker.generation != 0 && env.isUuid marker.instanceId &&
    Enrollment.validDigest marker.configurationDigest && Enrollment.validDigest marker.keyFingerprint

def summary (keyFingerprint : String) : PairingSummary :=
  { purpose := Purpose.controlAgent.asStr
    enrollmentState := "paired"
    identityFingerprint := keyFingerprint
    output := options.output.display
    restartRequired := options.mode != .pair }

def completedControlRetry : Try (Option PairingSummary) := do
  let found ← find options.marker
  match found with
  | none => return none
  | some file =>
    let marker ← check (file.content.asMarker.elim (.error "control_identity_marker_invalid") .ok)
    require (validMarker env marker) "control_identity_marker_invalid"
    validateInstalledKeyAndCertificate env options marker.keyFingerprint
    if marker.enrollmentId ≠ code.enrollmentId ∨
        marker.configurationDigest ≠ code.configurationDigest then
      return none
    else
      cleanupCompletedPending env options marker
      return some (summary options marker.keyFingerprint)

/-! ## Instance, key and claim -/

def recoverPendingControlInstance : Try (Option String) := do
  let found ← find options.pendingPath
  match found with
  | none => return none
  | some file =>
    let pending ← check (file.content.asPending.elim (.error "pairing_pending_invalid") .ok)
    require (pending.version == protocolVersion && pending.purpose == Purpose.controlAgent.asStr &&
      pending.action == ControlPairMode.pair.action && pending.enrollmentId == code.enrollmentId &&
      pending.configurationDigest == code.configurationDigest) "pairing_pending_identity_changed"
    let instanceId ← check (pending.instanceId.elim (.error "pairing_pending_invalid") .ok)
    require (env.isUuid instanceId) "pairing_pending_invalid"
    return some instanceId

/-- The id of the instance by the mode and what is on the disk. -/
def selectInstance : Try String := do
  let existing ← readOptionalTrimmed env options.instanceId 64
  match options.mode, existing with
  | .pair, none =>
    let pending ← recoverPendingControlInstance env code options
    match pending with
    | some instanceId => return instanceId
    | none => liftM (run .newUuid)
  | .pair, some value =>
    let found ← find options.pendingPath
    require found.isSome "control_instance_exists_use_adopt"
    require (env.isUuid value) "control_instance_id_invalid"
    return value
  | .adopt, some value | .rotate, some value =>
    require (env.isUuid value) "control_instance_id_invalid"
    return value
  | .adopt, none | .rotate, none => throw "control_instance_id_missing"

/-- A key that is pending is used again. -/
def pendingKey (reuseExisting allowExistingIdentity : Bool) : Try Content := do
  let pending ← find options.pendingKeyPath
  let existing ← find options.serverKey
  if pending.isSome then
    let file ← readPrivateInput env options.pendingKeyPath
    return file.content
  else if reuseExisting && existing.isSome then
    let file ← readPrivateInput env options.serverKey
    atomicWrite options.pendingKeyPath file.content 0o600 false
    return file.content
  else
    require (existing.isNone || allowExistingIdentity) "identity_key_exists"
    let generated ← liftM (run .generateKey)
    let key ← check (generated.elim (.error "identity_key_generation_failed") .ok)
    atomicWrite options.pendingKeyPath (.text (env.serializePem key)) 0o600 false
    return .text (env.serializePem key)

/-- A key, the signing request for it and its fingerprint. -/
structure PreparedKey where
  privateKeyPem : Content
  csrPem : String
  keyFingerprint : String

def loadOrCreatePendingKey (reuseExisting allowExistingIdentity : Bool) (commonName : String) :
    Try PreparedKey := do
  let privateKeyPem ← pendingKey env options reuseExisting allowExistingIdentity
  let keyPair ← check ((privateKeyPem.keyPair env).elim (.error "identity_key_invalid") .ok)
  check (match options.tlsServerName with
    | some name => validateTlsServerName env name
    | none => .ok ())
  check (boundedName env commonName)
  let csrPem ← check ((env.serializeRequest keyPair options.tlsServerName.toList commonName).elim
    (.error "identity_csr_generation_failed") .ok)
  return ⟨privateKeyPem, trim csrPem, env.digest (env.publicKeyDer keyPair)⟩

def pendingIdentity (prepared : PreparedKey) (instanceId : String) : PendingIdentity :=
  { version := 1
    purpose := code.purpose.asStr
    action := options.mode.action
    enrollmentId := code.enrollmentId
    configurationDigest := code.configurationDigest
    requestDigest := claimRequestDigest env code.purpose options.mode.action code.enrollmentId
      code.configurationDigest prepared.keyFingerprint prepared.csrPem (some instanceId)
    keyFingerprint := prepared.keyFingerprint
    csrDigest := digest env prepared.csrPem
    instanceId := some instanceId }

def validateOrWritePending (expected : PendingIdentity) : Try Unit := do
  let found ← find options.pendingPath
  match found with
  | some file =>
    let existing ← check (file.content.asPending.elim (.error "pairing_pending_invalid") .ok)
    require (existing == expected) "pairing_pending_identity_changed"
  | none => atomicWrite options.pendingPath (.pending expected) 0o600 false

def claimRequest (pending : PendingIdentity) (prepared : PreparedKey) : ClaimRequest :=
  { version := 1
    purpose := code.purpose.asStr
    action := options.mode.action
    enrollmentId := code.enrollmentId
    configurationDigest := code.configurationDigest
    secret := code.secret
    requestDigest := pending.requestDigest
    keyFingerprint := prepared.keyFingerprint
    csrPem := prepared.csrPem
    instanceId := pending.instanceId }

/-- The certificate authority of the broker, if one is configured. -/
def readBrokerCa : Try Unit :=
  match options.brokerCaFile with
  | some path => do
    let file ← readPrivateInput env path
    let pem ← check (certificateText file.content "broker_ca_invalid")
    require (env.parseCertificate pem).isSome "broker_ca_invalid"
  | none => Pure.pure ()

def claimBroker (request : ClaimRequest) : Try ClaimResponse := do
  let now ← unixSeconds
  require (decide (now < code.expiresAtUnix)) "pairing_code_expired"
  readBrokerCa env options
  io (run (.claim request))

/-! ## Installation -/

/-- The settings of an agent that is installed, with the paths it is bound to. -/
def loadExistingGeneratedConfig : Try GeneratedAgentConfig := do
  let found ← find options.output
  let file ← check (found.elim (.error "control_generated_config_unreadable") .ok)
  require (decide (env.len file.content ≤ 1024 * 1024) && file.links == 1 &&
    file.mode &&& 0o027 == 0) "control_generated_config_invalid"
  let config ← check (file.content.asConfig.elim (.error "control_generated_config_invalid") .ok)
  require (config.version == 1 && config.instanceIdFile == options.instanceId.display &&
    config.tls.caFile == options.clientCa.display &&
    config.tls.certFile == options.serverCert.display &&
    config.tls.keyFile == options.serverKey.display &&
    config.serviceJwt.jwksFile == options.jwks.display &&
    config.localControl.tokenFile == options.tokenFile.display &&
    config.config.path == options.managedConfigPath.display &&
    config.config.backupDir == options.backupDir.display &&
    config.config.maxBytes != 0 && decide (config.config.maxBytes ≤ 16 * 1024 * 1024))
    "control_generated_config_binding_mismatch"
  return config

def previousConfig (completed : Bool) : Try (Option GeneratedAgentConfig) :=
  if completed then some <$> loadExistingGeneratedConfig env options else Pure.pure none

def generatedConfig (bundle : ControlAgentBundle) (previous : Option GeneratedAgentConfig) :
    GeneratedAgentConfig :=
  { version := 1
    instanceIdFile := options.instanceId.display
    listen := (previous.map (·.listen)).getD options.listen
    tls :=
      { caFile := options.clientCa.display
        certFile := options.serverCert.display
        keyFile := options.serverKey.display
        allowedClientUriSans := bundle.allowedClientUriSans }
    serviceJwt :=
      { issuer := bundle.serviceJwtIssuer
        jwksFile := options.jwks.display
        audiencePrefix := bundle.serviceJwtAudiencePrefix }
    localControl :=
      { address := (previous.map (·.localControl.address)).getD options.localControlAddress
        tokenFile := options.tokenFile.display }
    config :=
      { path := options.managedConfigPath.display
        backupDir := options.backupDir.display
        maxBytes := (previous.map (·.config.maxBytes)).getD (1024 * 1024)
        writeEnabled := (previous.map (·.config.writeEnabled)).getD false } }

/-- A certificate of the relay CA for a key, and its file. -/
def writeRelayCa (key : KeyPair) : Try Unit := do
  let certificate ← liftM (run (.selfSign key))
  let certificate ← check (certificate.elim (.error "relay_ca_generation_failed") .ok)
  atomicWrite options.relayCa (.text certificate) 0o640 false

def ensureRelayCa : Try Unit := do
  let certificate ← find options.relayCa
  let key ← find options.relayCaKey
  match certificate, key with
  | some certificate, some _ =>
    let _ ← readPrivateInput env options.relayCaKey
    let pem ← check (certificateText certificate.content "pairing_certificate_invalid")
    let now ← unixSeconds
    check (validateCertificatePem env pem now)
  | none, none =>
    let generated ← liftM (run .generateKey)
    let key ← check (generated.elim (.error "relay_ca_generation_failed") .ok)
    let certificate ← liftM (run (.selfSign key))
    let certificate ← check (certificate.elim (.error "relay_ca_generation_failed") .ok)
    atomicWrite options.relayCaKey (.text (env.serializePem key)) 0o600 false
    atomicWrite options.relayCa (.text certificate) 0o640 false
  | none, some _ =>
    let file ← readPrivateInput env options.relayCaKey
    let key ← check ((file.content.keyPair env).elim (.error "relay_ca_key_invalid") .ok)
    writeRelayCa options key
  | some _, none => throw "relay_ca_partial_identity"

def ensureToken : Try Unit := do
  let found ← find options.tokenFile
  if found.isSome then return ()
  else
    let token : String ← liftM (run .randomToken)
    atomicWrite options.tokenFile (.text (token ++ "\n")) 0o600 false

def existingGeneration (found : Option File) : Nat :=
  ((found.bind fun file => file.content.asMarker).map (·.generation)).getD 0

def installControlIdentity (bundle : ControlAgentBundle) (instanceId : String)
    (prepared : PreparedKey) : Try Unit := do
  let found ← find options.marker
  let completed := found.isSome
  require (!(completed && options.mode == .pair)) "control_identity_exists"
  let previous ← previousConfig env options completed
  atomicWrite options.instanceId (.text (instanceId ++ "\n")) 0o600 completed
  atomicWrite options.serverKey prepared.privateKeyPem 0o600 completed
  atomicWrite options.serverCert (.text bundle.serverCertificatePem) 0o640 completed
  atomicWrite options.clientCa (.text bundle.clientCaPem) 0o640 completed
  atomicWrite options.jwks (.json bundle.serviceJwks) 0o640 completed
  atomicWrite options.centerPublicKey (.text (bundle.centerPublicKey ++ "\n")) 0o640 completed
  ensureRelayCa env options
  ensureToken options
  atomicWrite options.output (.config (generatedConfig options bundle previous)) 0o640 completed
  let found ← find options.marker
  atomicWrite options.marker (.marker
    { version := 1
      purpose := "control-agent"
      enrollmentId := code.enrollmentId
      configurationDigest := code.configurationDigest
      instanceId
      keyFingerprint := prepared.keyFingerprint
      generation := max (satAdd (existingGeneration found) 1) 1 }) 0o600 completed

/-! ## The call -/

/-- The call after its code was read and its directories were prepared. -/
def pairIdentity : Try PairingSummary := do
  let completed ← find options.marker
  require (!(completed.isSome && options.mode == .pair)) "control_identity_exists_use_adopt_or_rotate"
  require (!(completed.isNone && options.mode == .rotate)) "control_identity_missing_for_rotate"
  let instanceId ← selectInstance env code options
  let prepared ← loadOrCreatePendingKey env options (options.mode == .adopt) (options.mode != .pair)
    instanceId
  let pending := pendingIdentity env code options prepared instanceId
  validateOrWritePending options pending
  let request := claimRequest code options pending prepared
  let response ← claimBroker env code options request
  let bundle ← check (validateClaimResponse env code request response)
  let now ← unixSeconds
  let now' ← unixSeconds
  check (validateControlBundle env bundle instanceId prepared.keyFingerprint code.configurationDigest
    now now')
  installControlIdentity env code options bundle instanceId prepared
  removePending options.pendingPath options.pendingKeyPath
  return summary options prepared.keyFingerprint

end Control

def controlPair (env : Env) (code : String) (options : ControlPairOptions) : Try PairingSummary := do
  let now ← unixSeconds
  let code ← check (PairingCode.parse env code .controlAgent now)
  check (validateControlPaths env options)
  io (run .prepareDirectories)
  require (options.output.parent.isSome && options.managedConfigPath.parent.isSome)
    "control_pairing_path_layout_invalid"
  let retried ← completedControlRetry env code options
  match retried with
  | some summary => return summary
  | none => pairIdentity env code options

end Starry.Pairing
