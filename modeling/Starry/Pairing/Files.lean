import Starry.Library.Prog
import Starry.Pairing.Identity

/-!
# The files of a pairing

Files are regular and found by their paths; a file that is there can be read. A new file is written
beside its place and linked to it, and has two links until the temporary file is gone. The writes may
fail, and the process may stop between any two of them.
-/

open Library Library.Prog

namespace Starry.Pairing

open Starry.Config (ensure)

structure File where
  content : Content
  mode : Nat
  links : Nat
deriving DecidableEq

/-- `keys` is a ghost: the keys seen so far. -/
structure World where
  files : PathBuf → Option File
  keys : List KeyPair

namespace World

def put (w : World) (path : PathBuf) (file : File) : World :=
  { w with files := Function.update w.files path (some file) }

def erase (w : World) (path : PathBuf) : World :=
  { w with files := Function.update w.files path none }

def addKey (w : World) (key : KeyPair) : World := { w with keys := key :: w.keys }

@[simp] theorem keys_put (w : World) (path : PathBuf) (file : File) : (w.put path file).keys = w.keys :=
  rfl

@[simp] theorem keys_erase (w : World) (path : PathBuf) : (w.erase path).keys = w.keys := rfl

@[simp] theorem files_addKey (w : World) (key : KeyPair) : (w.addKey key).files = w.files := rfl

@[simp] theorem keys_addKey (w : World) (key : KeyPair) : (w.addKey key).keys = key :: w.keys := rfl

@[simp] theorem files_put_self (w : World) (path : PathBuf) (file : File) :
    (w.put path file).files path = some file := by
  change Function.update w.files path (some file) path = some file
  exact Function.update_self ..

theorem files_put_of_ne {w : World} {path path' : PathBuf} {file : File} (h : path' ≠ path) :
    (w.put path file).files path' = w.files path' := by
  change Function.update w.files path (some file) path' = w.files path'
  exact Function.update_of_ne h ..

@[simp] theorem files_erase_self (w : World) (path : PathBuf) : (w.erase path).files path = none := by
  change Function.update w.files path none path = none
  exact Function.update_self ..

theorem files_erase_of_ne {w : World} {path path' : PathBuf} (h : path' ≠ path) :
    (w.erase path).files path' = w.files path' := by
  change Function.update w.files path none path' = w.files path'
  exact Function.update_of_ne h ..

/-- Writing what is there changes nothing. -/
theorem put_of_eq {w : World} {path : PathBuf} {file : File} (h : w.files path = some file) :
    w.put path file = w := by
  have hsame : Function.update w.files path (some file) = w.files := by
    rw [← h, Function.update_eq_self]
  exact congrArg (fun files => { w with files }) hsame

@[simp] theorem put_put (w : World) (path : PathBuf) (file file' : File) :
    (w.put path file).put path file' = w.put path file' := by
  have hlast : Function.update (Function.update w.files path (some file)) path (some file') =
      Function.update w.files path (some file') := Function.update_idem ..
  exact congrArg (fun files => { w with files }) hlast

end World

/-! ## Actions -/

inductive Link
  | linked | alreadyExists | failed
deriving DecidableEq, Repr

inductive Act
  /-- `unix_seconds` -/
  | now
  /-- `Uuid::now_v7` -/
  | newUuid
  /-- `KeyPair::generate_for` -/
  | generateKey
  /-- The PEM text of a certificate of the relay CA. -/
  | selfSign (key : KeyPair)
  /-- 32 random bytes as text. -/
  | randomToken
  /-- `create_private_directory` and `validate_persistent_directory` of every directory. -/
  | prepareDirectories
  | find (path : PathBuf)
  /-- The temporary file is written beside `path` and synced. -/
  | stage (path : PathBuf)
  | rename (path : PathBuf) (content : Content) (mode : Nat)
  | link (path : PathBuf) (content : Content) (mode : Nat)
  | unlinkTemporary (path : PathBuf)
  | syncDirectory (path : PathBuf)
  | remove (path : PathBuf)
  /-- The broker is asked, with its certificate pinned. -/
  | claim (request : ClaimRequest)

def Act.Reply : Act → Type
  | .now => Nat
  | .newUuid | .randomToken => String
  | .generateKey => Option KeyPair
  | .selfSign _ => Option String
  | .find _ => Option File
  | .prepareDirectories | .stage _ => Except String Unit
  | .link _ _ _ => Link
  | .rename _ _ _ | .unlinkTemporary _ | .syncDirectory _ | .remove _ => Bool
  | .claim _ => Except String ClaimResponse

/-- What the environment decides. -/
def Act.Choice : Act → Type
  | .now => Nat
  | .newUuid | .randomToken => String
  | .generateKey => Option KeyPair
  | .selfSign _ => Option String
  | .find _ => Unit
  | .prepareDirectories | .stage _ => Except String Unit
  | .link _ _ _ | .rename _ _ _ | .unlinkTemporary _ | .syncDirectory _ | .remove _ => Bool
  | .claim _ => Except String ClaimResponse

/-- Performs an action as the environment chooses. No key is generated twice. -/
def step (env : Env) (w : World) : (a : Act) → a.Choice → Option (a.Reply × World)
  | .now, t => some (t, w)
  | .newUuid, (id : String) => if env.isUuid id then some (id, w) else none
  | .generateKey, (key : Option KeyPair) =>
    match key with
    | none => some (none, w)
    | some key => if w.keys.contains key then none else some (some key, w.addKey key)
  | .selfSign _, r => some (r, w)
  | .randomToken, r => some (r, w)
  | .prepareDirectories, r => some (r, w)
  | .find path, _ => some (w.files path, w)
  | .stage _, r => some (r, w)
  | .rename path content mode, (ok : Bool) =>
    some (ok, if ok then w.put path ⟨content, mode, 1⟩ else w)
  | .link path content mode, (ok : Bool) =>
    if (w.files path).isSome then some (.alreadyExists, w)
    else if ok then some (.linked, w.put path ⟨content, mode, 2⟩)
    else some (.failed, w)
  | .unlinkTemporary path, (ok : Bool) =>
    some (ok, match w.files path with
      | some file => if ok then w.put path { file with links := file.links - 1 } else w
      | none => w)
  | .syncDirectory _, ok => some (ok, w)
  | .remove path, (ok : Bool) => some (ok, if ok then w.erase path else w)
  | .claim _, r => some (r, w)

def next (env : Env) : World → (a : Act) → a.Reply → World → Prop := byChoice (step env)

/-! ## Programs -/

abbrev Agent (α : Type) := Prog Act Act.Reply α

/-- Code that may fail with a text. -/
abbrev Try (α : Type) := ExceptT String (Prog Act Act.Reply) α

def run (a : Act) : Agent a.Reply := perform a

def check {α : Type} (r : Except String α) : Try α := ExceptT.mk (Pure.pure r)

/-- An action whose errors end the call. -/
def io {α : Type} (p : Agent (Except String α)) : Try α := ExceptT.mk p

def require (holds : Bool) (error : String) : Try Unit := check (ensure holds error)

/-- An action whose failure has a text. -/
def attempt (p : Agent Bool) (error : String) : Try Unit := do
  let done ← liftM p
  require done error

def find (path : PathBuf) : Try (Option File) := liftM (run (.find path))

def unixSeconds : Try Nat := liftM (run .now)

/-- The file at `path`, which has to be private. -/
def readPrivateInput (env : Env) (path : PathBuf) : Try File := do
  let found ← find path
  let file ← check (found.elim (.error "private_input_missing") .ok)
  require (decide (env.len file.content ≤ 1024 * 1024)) "private_input_unsafe"
  require (file.links == 1 && file.mode &&& 0o077 == 0) "private_input_permissions"
  return file

def existingFileMatches (path : PathBuf) (content : Content) (mode : Nat) : Try Bool := do
  let found ← find path
  match found with
  | none => return false
  | some file =>
    require (file.links == 1 && file.mode == mode) "state_file_permissions"
    return decide (file.content = content)

/-- The file takes its place, which must be free. -/
def linkNew (path : PathBuf) (content : Content) (mode : Nat) : Try Unit := do
  let outcome : Link ← liftM (run (.link path content mode))
  match outcome with
  | .linked => attempt (run (.unlinkTemporary path)) "state_temporary_cleanup_failed"
  | .alreadyExists =>
    let same ← existingFileMatches path content mode
    require same "state_file_exists"
  | .failed => throw "state_atomic_install_failed"

/-- The temporary file becomes the one at `path`. -/
def placeFile (path : PathBuf) (content : Content) (mode : Nat) (replace : Bool) : Try Unit :=
  if replace then attempt (run (.rename path content mode)) "state_atomic_replace_failed"
  else linkNew path content mode

def writeFile (path : PathBuf) (content : Content) (mode : Nat) (replace : Bool) : Try Unit := do
  let found ← find path
  require (found.isNone || replace) "state_file_exists"
  require path.parent.isSome "state_path_invalid"
  io (run (.stage path))
  placeFile path content mode replace
  attempt (run (.syncDirectory path)) "state_directory_sync_failed"

/-- `atomic_write` and `atomic_json` -/
def atomicWrite (path : PathBuf) (content : Content) (mode : Nat) (replace : Bool) : Try Unit :=
  if replace then writeFile path content mode replace
  else do
    let same ← existingFileMatches path content mode
    if same then return () else writeFile path content mode replace

def removePending (metadata key : PathBuf) : Try Unit := do
  attempt (run (.remove metadata)) "pairing_pending_cleanup_failed"
  attempt (run (.remove key)) "pairing_pending_cleanup_failed"

/-- `read_optional_trimmed` -/
def readOptionalTrimmed (env : Env) (path : PathBuf) (maximum : Nat) : Try (Option String) := do
  let found ← find path
  match found with
  | none => return none
  | some file =>
    let text ← check (file.content.asText.elim (.error "state_value_invalid") .ok)
    let value := trim text
    require (!value.isEmpty && decide (value.utf8ByteSize ≤ maximum) &&
      !value.toList.any env.isControl) "state_value_invalid"
    return some value

end Starry.Pairing
