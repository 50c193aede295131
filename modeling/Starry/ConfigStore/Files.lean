import Starry.ConfigStore.World

/-!
# File access of the control agent (`config_store.rs`)

Durable records are written to a temporary file that is renamed into place. The managed
configuration is replaced the same way, and a failure says whether the rename had happened.
-/

open Library

namespace Starry.ConfigStore

/-! ## Single actions -/

def perform (a : Act) : Agent a.Reply := Prog.perform a
def ask (q : Query) : Agent q.Reply := perform (.ask q)
def now : Agent String := ask .now
def timestamp : Agent Int := ask .timestamp
def newId : Agent String := perform .newId
def state : Agent StoreState := perform .state
def plans : Agent (Table String PlanRecord) := perform .plans
def load (c : Collection) : Agent (Except String c.Records) := perform (.load c)
def rename (e : Entry) : Agent Os := perform (.rename e)
def remove (f : File) : Agent Os := perform (.remove f)
def reserve (id : String) : Agent (Except TransactionError Unit) := perform (.reserve id)
def call (m : Method) : Agent (Except AgentError Value) := perform (.call m)
def update (u : Update) : Agent Unit := perform (.update u)
def markManual : Agent Unit := update .markManual
def releaseOperation (id : String) : Agent Unit := update (.release id)

/-- Fails as a check of the arguments does. -/
def check {α ε : Type} : Except ε α → ExceptT ε Agent α
  | .ok x => pure x
  | .error e => throw e

/-- Code whose outcome is inspected, failures included. -/
def lift {α ε : Type} (p : Agent α) : ExceptT ε Agent α := liftM p

/-- Runs the code with the mutex held, however it ends. -/
def withLock {α ε : Type} (m : Mutex) (body : ExceptT ε Agent α) : ExceptT ε Agent α := do
  perform (.lock m)
  let result ← lift body.run
  perform (.unlock m)
  check result

/-- Turns the failure of a system call into an error of the code that made it. -/
def orElse {ε : Type} (error : String → ε) (call : Agent Os) : ExceptT ε Agent Unit := do
  match ← lift call with
  | .ok () => pure ()
  | .error text => throw (error text)

def temporary (t : TemporaryStep) : Agent Os := ask (.temporary t)

def syncDirectory (d : Directory) : Agent Os := do
  match ← ask (.syncDirectory d) with
  | .ok () => return .ok ()
  | .error text => return .error ("cannot fsync directory: " ++ text)

/-! ## Durable records -/

/-- The closure of `atomic_bytes`. -/
def publishEntry (e : Entry) : Check Unit := do
  orElse ("cannot create durable temporary file: " ++ ·) (temporary .create)
  orElse ("cannot write durable temporary file: " ++ ·) (temporary .write)
  orElse ("cannot fsync durable temporary file: " ++ ·) (temporary .sync)
  orElse ("cannot atomically publish durable state: " ++ ·) (rename e)
  orElse id (syncDirectory e.directory)

/-- `atomic_json` and `atomic_bytes`: the write may be published although it reports a failure. -/
def atomicWrite (e : Entry) : Agent Os := do
  let result ← (publishEntry e).run
  if let .error _ := result then
    discard <| temporary .remove
  return result

/-- What `atomicWrite` does once the file is published, or is not. -/
def cleanUp (result : Os) : Agent Os := do
  if let .error _ := result then
    discard <| temporary .remove
  return result

theorem atomicWrite_eq (e : Entry) : atomicWrite e = (publishEntry e).run >>= cleanUp := rfl

/-- A durable write whose failure is an internal error. -/
def persist (e : Entry) (detail : String) : Try Unit :=
  orElse (fun _ => .internal detail) (atomicWrite e)

def removeIfPresent (f : File) : Try Unit :=
  orElse (fun _ => .internal "Cannot prune expired durable transaction state.")
    (remove f)

def loadRecords (c : Collection) : Check c.Records := do
  check (← lift (load c))

/-! ## The managed configuration -/

def readManaged : Agent (Except ReadFailure (Option (Bytes × FileMeta))) := perform .readManaged
def readStored (id : String) : Agent (Except ReadFailure (Option Bytes)) :=
  perform (.readDocument id)
def readRaw : Agent (Option Bytes) := perform .readRaw
def configExists : Agent Bool := perform .configExists
def renameConfig (bytes : Bytes) : Agent Os := perform (.renameConfig bytes)
def removeConfig : Agent Os := perform .removeConfig

def ReadFailure.toError : ReadFailure → TransactionError
  | .unsafePath => unsafeConfigPath
  | .inspect => .internal "The managed configuration cannot be inspected."
  | .vanished => etagMismatch
  | .open => .internal "The managed configuration cannot be opened safely."
  | .inspectOpened => .internal "The managed configuration cannot be inspected after open."
  | .read => .internal "The managed configuration cannot be read."

variable (env : Env)

/-- `read_regular_bounded` of the managed file. -/
def readRegularBounded : Try (Option (Bytes × FileMeta)) := do
  match ← lift readManaged with
  | .error failure => throw failure.toError
  | .ok none => return none
  | .ok (some (bytes, metadata)) =>
    if bytes.length > env.maxConfigBytes then throw configTooLarge
    return some (bytes, metadata)

/-- An absent file reads as the empty one. -/
def readConfig : Try Bytes := do
  return ((← readRegularBounded env).map Prod.fst).getD []

/-- `read_bounded` of the document of a revision. -/
def readDocument (id : String) : Try Bytes := do
  match ← lift (readStored id) with
  | .error failure => throw failure.toError
  | .ok none => return []
  | .ok (some bytes) =>
    if bytes.length > env.maxConfigBytes then throw configTooLarge
    return bytes

def validateManagedParent : Try Parent := do
  match ← lift (ask .managedParent) with
  | none => throw unsafeConfigPath
  | some parent => return parent

def readOriginal : Try OriginalConfig := do
  let parent ← validateManagedParent
  let file ← readRegularBounded env
  let owner ← lift (ask .effectiveOwner)
  match file with
  | some (bytes, metadata) =>
    if metadata.uid ≠ owner.1 ∨ metadata.gid ≠ owner.2 then throw unsafeConfigPath
    return ⟨some bytes, metadata.mode, metadata.uid, metadata.gid, parent.dev, parent.ino⟩
  | none => return ⟨none, 0o600, owner.1, owner.2, parent.dev, parent.ino⟩

structure WriteFailure where
  error : TransactionError
  mayHaveChanged : Bool

inductive ConfigWriteFault
  | temporaryCreate | write | fileSync | rename | directorySync
deriving DecidableEq, Repr

/-- The failure that a test injects at one stage. -/
def inject (failAt : Option ConfigWriteFault) (fault : ConfigWriteFault) (detail : String) :
    Try Unit :=
  if failAt = some fault then throw (.internal detail) else pure ()

/-- Whether the directory of the managed file is still the one that was read. -/
def sameParent (parent : Parent) (original : OriginalConfig) : Bool :=
  parent.dev == original.parentDev && parent.ino == original.parentIno

/-- The closure of `atomic_replace_config_with_fault` up to the rename. -/
def stageConfig (bytes : Bytes) (original : OriginalConfig) (failAt : Option ConfigWriteFault) :
    Try Unit := do
  inject failAt .temporaryCreate "Injected configuration temporary-file creation failure."
  orElse (fun _ => .internal "Cannot create the configuration temporary file.")
    (temporary .create)
  inject failAt .write "Injected configuration temporary-file write failure."
  orElse (fun _ => .internal "Cannot write the configuration temporary file.") (temporary .write)
  if original.bytes.isSome then
    orElse (fun _ => .internal "Cannot preserve configuration file ownership.")
      (temporary .preserveOwner)
  inject failAt .fileSync "Injected configuration file fsync failure."
  orElse (fun _ => .internal "Cannot fsync the configuration temporary file.") (temporary .sync)
  inject failAt .rename "Injected configuration rename failure."
  if !sameParent (← validateManagedParent) original then throw unsafeConfigPath
  orElse (fun _ => .internal "Cannot atomically replace the configuration.")
    (renameConfig bytes)

/-- What the closure does once the file is renamed. -/
def syncConfig (failAt : Option ConfigWriteFault) : Try Unit := do
  inject failAt .directorySync "Injected configuration directory fsync failure."
  orElse (fun _ => .internal "Cannot fsync the configuration directory.") (syncDirectory .config)

def atomicReplaceConfigWithFault (bytes : Bytes) (original : OriginalConfig)
    (failAt : Option ConfigWriteFault) : Agent (Except WriteFailure Unit) := do
  match ← validateManagedParent.run with
  | .error error => return .error ⟨error, false⟩
  | .ok parent =>
    if !sameParent parent original || !parent.isDir then
      return .error ⟨unsafeConfigPath, false⟩
    match ← (stageConfig bytes original failAt).run with
    | .error error =>
      discard <| temporary .remove
      return .error ⟨error, false⟩
    | .ok () =>
      match ← (syncConfig failAt).run with
      | .error error => return .error ⟨error, true⟩
      | .ok () => return .ok ()

def atomicReplaceConfig (bytes : Bytes) (original : OriginalConfig) :
    Agent (Except WriteFailure Unit) :=
  atomicReplaceConfigWithFault bytes original none

def restoreConfig (original : OriginalConfig) : Try Unit := do
  match original.bytes with
  | some bytes =>
    match ← lift (atomicReplaceConfig bytes original) with
    | .ok () => pure ()
    | .error failure => throw (rollbackFailed failure.error.detail)
  | none =>
    if ← lift configExists then
      orElse (fun _ => rollbackFailed
        "Cannot remove the configuration created by the failed transaction.")
        removeConfig
      orElse (fun _ => rollbackFailed
        "Cannot fsync the configuration directory during recovery.") (syncDirectory .config)

def verifyRestoredBytes (original : OriginalConfig) : Try Unit := do
  match original.bytes with
  | some expected =>
    match ← lift readRaw with
    | none => throw (rollbackFailed "The restored configuration cannot be read.")
    | some actual =>
      if actual ≠ expected then
        throw (rollbackFailed
          "The restored configuration bytes do not match the recovery backup.")
  | none =>
    if ← lift configExists then
      throw (rollbackFailed
        "The transaction created a configuration file that could not be removed.")

end Starry.ConfigStore
