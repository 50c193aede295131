import Starry.Config.Validate
import Starry.Library.Table

/-!
# The keyset and its cache (`connection_auth.rs`)

A keyset is cached in one file and, in a second one, when it was fetched and its digest. What a step
reads from outside (files, clocks, the network) is given with it.
-/

open Library

namespace Starry.ConnectionAuth

open Starry.Config (ConnectionAuthConfig ConnectionAuthMode ensure onlyIf)

/-! ## Keysets -/

structure Jwk where
  kty : String
  crv : String
  keyUse : String
  alg : String
  kid : String
  x : String
  keyOps : Option (List String) := none
deriving DecidableEq, Repr

structure JwksCacheMetadata where
  version : Nat
  fetchedAtEpochSeconds : Nat
  jwksSha256 : String
deriving DecidableEq, Repr

/-- A path by its directory and its file name, if it has one. -/
structure CachePath where
  parent : String
  fileName : Option String
deriving DecidableEq, Repr

def CachePath.display (path : CachePath) : String := path.parent ++ "/" ++ path.fileName.getD ".."

structure Env where
  /-- `serde_json::from_slice` of a `JwksDocument`: its keys. -/
  readDocument : Bytes → Except String (List Jwk)
  decodeBase64Url : String → Option Bytes
  /-- `serde_json::to_vec` and `serde_json::from_slice` of a `JwksCacheMetadata` -/
  writeMetadata : JwksCacheMetadata → Except String Bytes
  readMetadata : Bytes → Except String JwksCacheMetadata
  sha256Hex : Bytes → String
  /-- `resolve_path` below the directory of the configuration -/
  resolvePath : String → CachePath

variable (env : Env)

/-- The Ed25519 public keys by their `kid`. -/
abbrev Keys := Table String Bytes

/-- One key of a document. -/
def insertKey (keys : Keys) (key : Jwk) : Except String Keys := do
  ensure (key.kty == "OKP" && key.crv == "Ed25519" && key.keyUse == "sig" && key.alg == "EdDSA" &&
      !key.kid.isEmpty && decide ((asBytes key.kid).length ≤ 128))
    "JWKS contains a key outside the OKP/Ed25519/EdDSA signing profile"
  ensure (key.keyOps.all fun operations => operations == ["verify"])
    "JWKS key_ops must contain only verify"
  let rawKey ← match env.decodeBase64Url key.x with
    | some rawKey => .ok rawKey
    | none => .error "JWKS contains an invalid base64url public key"
  ensure (rawKey.length == 32) "Ed25519 JWK public key must contain exactly 32 bytes"
  ensure (keys.get key.kid).isNone "JWKS contains a duplicate kid"
  return keys.insert key.kid rawKey

def parseJwks (raw : Bytes) : Except String Keys := do
  let document ← (env.readDocument raw).mapError fun err => "invalid JWKS document: " ++ err
  ensure (!document.isEmpty) "JWKS document contains no keys"
  document.foldlM (insertKey env) Table.empty

def jwksSha256 (raw : Bytes) : String := env.sha256Hex raw

/-! ## Freshness -/

def jwksMetadataPath (path : CachePath) : Except String CachePath :=
  match path.fileName with
  | some fileName => .ok { path with fileName := some (fileName ++ ".metadata.json") }
  | none => .error "JWKS cache path has no file name"

/-- What reading a file gives. -/
inductive ReadResult
  | bytes (raw : Bytes)
  | notFound
  | failed (text : String)
deriving DecidableEq, Repr

/-- A metadata file is believed for the keyset it was written for. -/
def believed (now : Nat) (raw metadataRaw : Bytes) : Except String (Option Nat) := do
  ensure (decide (metadataRaw.length ≤ 4096)) "JWKS cache metadata exceeds 4 KiB"
  let metadata ← (env.readMetadata metadataRaw).mapError fun err =>
    "invalid JWKS cache metadata: " ++ err
  ensure (metadata.version == 1) "unsupported JWKS cache metadata version"
  ensure (metadata.jwksSha256 == jwksSha256 env raw)
    "JWKS cache metadata digest does not match the keyset"
  ensure (decide (metadata.fetchedAtEpochSeconds ≤ satAdd now 300))
    "JWKS cache metadata has an invalid future timestamp"
  return some metadata.fetchedAtEpochSeconds

/-- `load_jwks_freshness`; `modified` is the modification time of the keyset's own file. -/
def loadJwksFreshness (now : Nat) (metadataFile : ReadResult) (modified : Except String Nat)
    (path : CachePath) (raw : Bytes) (requireMetadata : Bool) : Except String (Option Nat) := do
  let metadataPath ← jwksMetadataPath path
  match metadataFile with
  | .bytes metadataRaw => believed env now raw metadataRaw
  | .notFound =>
    if requireMetadata then .ok none
    else do
      let modified ← modified.mapError fun err => "cannot read JWKS file freshness: " ++ err
      ensure (decide (modified ≤ satAdd now 300))
        "JWKS file has an invalid future modification time"
      return some modified
  | .failed text =>
    .error ("cannot read JWKS cache metadata " ++ metadataPath.display ++ ": " ++ text)

/-! ## Preparing a runtime -/

/-- What `prepare` meets outside, in the order in which it asks. -/
structure PrepareInput where
  keysFile : Except String Bytes
  metadataFile : ReadResult
  modified : Except String Nat
  /-- `epoch_seconds` where the freshness is loaded -/
  loadedNow : Nat
  jwksClient : Except String Unit
  /-- `fetch_limited` -/
  response : Except String Bytes
  fetchedAt : Nat
  /-- `write_jwks_cache` -/
  written : Except String Unit
  /-- `epoch_seconds` where the download has failed, and at the end -/
  retainedNow : Nat
  now : Nat
  introspectionClient : Except String Unit

/-- A keyset with when it was fetched, as far as that is known. -/
structure LocalKeys where
  keys : Keys
  loadedAtEpochSeconds : Option Nat
  freshnessError : Option String

structure AuthRuntime where
  configuredMode : ConnectionAuthMode
  effectiveMode : ConnectionAuthMode
  config : ConnectionAuthConfig
  keys : Keys
  loadedAtEpochSeconds : Option Nat
  jwksFile : Option CachePath
  /-- Whether there is an introspection client. -/
  introspection : Bool

def AuthRuntime.disabled : AuthRuntime where
  configuredMode := .off
  effectiveMode := .off
  config := {}
  keys := Table.empty
  loadedAtEpochSeconds := none
  jwksFile := none
  introspection := false

def effectiveConnectionAuthMode (configured : ConnectionAuthMode) (mustLogin : Bool) :
    ConnectionAuthMode :=
  if mustLogin then .enforce else configured

def jwksFile (config : ConnectionAuthConfig) : Option CachePath :=
  if config.jwks.file.isEmpty then none else some (env.resolvePath config.jwks.file)

/-- The keyset of the configured file. -/
def localKeys (config : ConnectionAuthConfig) (io : PrepareInput) : Except String LocalKeys :=
  match jwksFile env config with
  | none => .ok ⟨Table.empty, none, none⟩
  | some path => do
    let raw ← io.keysFile.mapError fun err =>
      "cannot read JWKS " ++ path.display ++ ": " ++ err
    let keys ← parseJwks env raw
    match loadJwksFreshness env io.loadedNow io.metadataFile io.modified path raw
        (!config.jwks.url.isEmpty) with
    | .ok fetchedAt => return ⟨keys, fetchedAt, none⟩
    | .error err => return ⟨keys, none, some err⟩

/-- `epoch_seconds().checked_sub(loaded)` -/
def keyAge (now : Nat) (loadedAt : Option Nat) : Option Nat :=
  loadedAt.bind fun loaded => if loaded ≤ now then some (now - loaded) else none

/-- What an enforced runtime asks of the local keyset when the download has failed. -/
def checkRetained (maxStaleSeconds now : Nat) (found : LocalKeys) (err : String) :
    Except String Unit := do
  match found.freshnessError with
  | some freshnessError =>
    .error ("initial JWKS refresh failed and cached freshness is invalid: " ++ err ++ "; " ++
      freshnessError)
  | none => pure ()
  match keyAge now found.loadedAtEpochSeconds with
  | none =>
    .error ("initial JWKS refresh failed and cached freshness is unavailable: " ++ err)
  | some age =>
    ensure (decide (age ≤ maxStaleSeconds))
      ("initial JWKS refresh failed and cached keyset is stale: " ++ err)

/-- The keyset after the download, which replaces the local one and its cache. -/
def downloadKeys (config : ConnectionAuthConfig) (mode : ConnectionAuthMode) (io : PrepareInput)
    (found : LocalKeys) : Except String LocalKeys := do
  if config.jwks.url.isEmpty then return found
  match io.response with
  | .ok raw =>
    let refreshed ← parseJwks env raw
    onlyIf (jwksFile env config).isSome io.written
    return { found with keys := refreshed, loadedAtEpochSeconds := some io.fetchedAt }
  | .error err =>
    ensure (!(found.keys.entries.isEmpty && mode == .enforce))
      ("initial JWKS refresh failed: " ++ err)
    onlyIf (mode == .enforce)
      (checkRetained config.jwks.maxStaleSeconds io.retainedNow found err)
    return found

/-- The checks of an enforced runtime. -/
def checkEnforced (maxStaleSeconds now : Nat) (found : LocalKeys) : Except String Unit := do
  ensure (!found.keys.entries.isEmpty) "enforce mode has no valid Ed25519 verification key"
  match keyAge now found.loadedAtEpochSeconds with
  | none => .error "enforce mode cannot prove JWKS freshness"
  | some age =>
    ensure (decide (age ≤ maxStaleSeconds)) "enforce mode JWKS cache is stale"

def prepare (config : ConnectionAuthConfig) (mustLogin : Bool) (io : PrepareInput) :
    Except String AuthRuntime := do
  let effectiveMode := effectiveConnectionAuthMode config.mode mustLogin
  if effectiveMode == .off then return .disabled
  ensure (!(config.mode == .off && mustLogin))
    "must-login requires an explicit v3 connection_auth verifier configuration"
  let found ← localKeys env config io
  onlyIf (!config.jwks.url.isEmpty) io.jwksClient
  let found ← downloadKeys env config effectiveMode io found
  onlyIf (effectiveMode == .enforce) (checkEnforced config.jwks.maxStaleSeconds io.now found)
  let introspection := !config.introspection.url.isEmpty
  onlyIf introspection io.introspectionClient
  ensure (!(config.introspection.required && !introspection))
    "required introspection client is unavailable"
  return {
    configuredMode := config.mode
    effectiveMode
    config
    keys := found.keys
    loadedAtEpochSeconds := if found.keys.entries.isEmpty then none else found.loadedAtEpochSeconds
    jwksFile := jwksFile env config
    introspection }

end Starry.ConnectionAuth
