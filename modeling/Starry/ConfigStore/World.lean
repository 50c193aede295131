import Starry.ConfigStore.Records
import Starry.Library.Prog

/-!
# The world a transaction runs in

The durable directories, the memory of the agent and the actions its code performs on them. What
the operating system and HBBS answer is chosen by the environment. Four fields are history only:
the answers of HBBS, the durable writes, the number of changes of the managed file among them and
the ids seen so far.

A single access to memory is one action. Only a section of several accesses takes its mutex, so a
run here may interleave more than the agent does.
-/

open Library

namespace Starry.ConfigStore

/-! ## Durable state -/

inductive Directory
  | operations | idempotency | audit | recovery | revisions | config
deriving DecidableEq, Repr

/-- A file of the state directories by its path. -/
inductive File
  | operation (id : String)
  | idempotency (keyHash : String)
  | audit (id : String)
  | revision (id : String)
  | document (id : String)
  | recovery (id : String)
  | backup (id : String)
deriving DecidableEq, Repr

/-- What is published at a path. The path of a record is made of its own key. -/
inductive Entry
  | operation (o : Operation)
  | idempotency (r : IdempotencyRecord)
  | audit (a : AuditRecord)
  | revision (r : Revision)
  | document (id : String) (bytes : Bytes)
  | recovery (m : RecoveryMetadata)
  | backup (id : String) (bytes : Bytes)

def Entry.directory : Entry → Directory
  | .operation _ => .operations
  | .idempotency _ => .idempotency
  | .audit _ => .audit
  | .revision _ | .document _ _ => .revisions
  | .recovery _ | .backup _ _ => .recovery

/-- The ids that an entry names. -/
def Entry.ids : Entry → List String
  | .operation o => [o.id]
  | .idempotency r => r.operationId.toList
  | .audit a => [a.auditId, a.operationId]
  | .revision r => [r.id]
  | .document id _ | .backup id _ => [id]
  | .recovery m => [m.operationId]

structure Disk where
  config : Option Bytes
  operations : Operations
  idempotency : IdempotencyRecords
  audits : AuditRecords
  revisions : Revisions
  documents : Table String Bytes
  recovery : Keyed RecoveryMetadata.operationId
  backups : Table String Bytes

namespace Disk

/-- Empty directories beside the managed file. -/
def empty (config : Option Bytes) : Disk :=
  ⟨config, .empty, .empty, .empty, .empty, .empty, .empty, .empty⟩

def put (d : Disk) : Entry → Disk
  | .operation o => { d with operations := d.operations.put o }
  | .idempotency r => { d with idempotency := d.idempotency.put r }
  | .audit a => { d with audits := d.audits.put a }
  | .revision r => { d with revisions := d.revisions.put r }
  | .document id bytes => { d with documents := d.documents.insert id bytes }
  | .recovery m => { d with recovery := d.recovery.put m }
  | .backup id bytes => { d with backups := d.backups.insert id bytes }

def erase (d : Disk) : File → Disk
  | .operation id => { d with operations := d.operations.drop id }
  | .idempotency keyHash => { d with idempotency := d.idempotency.drop keyHash }
  | .audit id => { d with audits := d.audits.drop id }
  | .revision id => { d with revisions := d.revisions.drop id }
  | .document id => { d with documents := d.documents.remove id }
  | .recovery id => { d with recovery := d.recovery.drop id }
  | .backup id => { d with backups := d.backups.remove id }

end Disk

/-- The directories that `load_records` reads. -/
inductive Collection
  | operations | idempotency | audits | revisions
deriving DecidableEq, Repr

def Collection.Records : Collection → Type
  | .operations => Operations
  | .idempotency => IdempotencyRecords
  | .audits => AuditRecords
  | .revisions => Revisions

def Disk.collection (d : Disk) : (c : Collection) → c.Records
  | .operations => d.operations
  | .idempotency => d.idempotency
  | .audits => d.audits
  | .revisions => d.revisions

/-! ## Memory -/

structure StoreState where
  operations : Operations
  idempotency : IdempotencyRecords
  revisions : Revisions
  manualInterventionRequired : Bool

inductive Mutex
  | admission | state | plans
deriving DecidableEq, Repr

structure Memory where
  state : StoreState
  plans : Table String PlanRecord
  activeOperation : Option String
  locks : List Mutex
  /-- Transactions handed to the runtime and not yet begun. -/
  spawned : List TransactionWork

/-- The memory of an agent that has just opened its store. -/
def Memory.opened (state : StoreState) : Memory := ⟨state, .empty, none, [], []⟩

def Memory.empty : Memory := .opened ⟨.empty, .empty, .empty, false⟩

inductive Update
  | putOperation (o : Operation)
  | putIdempotency (r : IdempotencyRecord)
  | putRevision (r : Revision)
  | dropOperation (id : String)
  | dropIdempotency (keyHash : String)
  | dropRevision (id : String)
  | markManual
  | retainPlans (now : Int)
  | putPlan (p : PlanRecord)
  | release (id : String)
  | spawn (work : TransactionWork)
  | install (s : StoreState)

def StoreState.apply (s : StoreState) : Update → StoreState
  | .putOperation o => { s with operations := s.operations.put o }
  | .putIdempotency r => { s with idempotency := s.idempotency.put r }
  | .putRevision r => { s with revisions := s.revisions.put r }
  | .dropOperation id => { s with operations := s.operations.drop id }
  | .dropIdempotency keyHash => { s with idempotency := s.idempotency.drop keyHash }
  | .dropRevision id => { s with revisions := s.revisions.drop id }
  | .markManual => { s with manualInterventionRequired := true }
  | .install s' => s'
  | .retainPlans _ | .putPlan _ | .release _ | .spawn _ => s

def Memory.apply (m : Memory) (u : Update) : Memory :=
  { m with
    state := m.state.apply u
    plans := match u with
      | .retainPlans now => m.plans.retain fun _ p => p.expiresEpoch ≥ now
      | .putPlan p => m.plans.insert p.id p
      | _ => m.plans
    activeOperation := match u with
      | .release id => if m.activeOperation = some id then none else m.activeOperation
      | _ => m.activeOperation
    spawned := match u with
      | .spawn work => m.spawned ++ [work]
      | _ => m.spawned }

/-! ## Actions -/

/-- The answer of a system call whose failure has a text. -/
abbrev Os := Except String Unit

inductive TemporaryStep
  | create | write | preserveOwner | sync | remove
deriving DecidableEq, Repr

structure Parent where
  dev : Nat
  ino : Nat
  isDir : Bool
deriving DecidableEq, Repr

structure FileMeta where
  mode : Nat
  uid : Nat
  gid : Nat
deriving DecidableEq, Repr

/-- What the code asks of the system without changing anything it reads later. -/
inductive Query
  | now | timestamp | expiry
  | stateBytes | availableSpace | fileBytes (f : File)
  | managedParent | effectiveOwner
  | temporary (t : TemporaryStep)
  | syncDirectory (d : Directory)
  | createPrivateDirectory (d : Option Directory)
deriving DecidableEq, Repr

def Query.Reply : Query → Type
  | .now => String
  | .timestamp => Int
  | .expiry => Int × String
  | .stateBytes | .availableSpace | .fileBytes _ => Option Nat
  | .managedParent => Option Parent
  | .effectiveOwner => Nat × Nat
  | .temporary _ | .syncDirectory _ | .createPrivateDirectory _ => Os

/-- The methods of HBBS that a transaction calls. -/
inductive Method
  | runtimeReload | configRuntimeState
deriving DecidableEq, Repr

inductive ReadFailure
  | unsafePath | inspect | vanished | open | inspectOpened | read
deriving DecidableEq, Repr

inductive LockFile
  | acquired | wouldBlock | cannotOpen | cannotAcquire
deriving DecidableEq, Repr

inductive Act
  | ask (q : Query)
  | newId
  | lock (m : Mutex)
  | unlock (m : Mutex)
  | state
  | plans
  | update (u : Update)
  | reserve (id : String)
  | load (c : Collection)
  | rename (e : Entry)
  | remove (f : File)
  | readDocument (id : String)
  | readManaged
  | readRaw
  | configExists
  | renameConfig (bytes : Bytes)
  | removeConfig
  | call (m : Method)

def Act.Reply : Act → Type
  | .ask q => q.Reply
  | .newId => String
  | .lock _ | .unlock _ | .update _ => Unit
  | .state => StoreState
  | .plans => Table String PlanRecord
  | .reserve _ => Except TransactionError Unit
  | .load c => Except String c.Records
  | .rename _ | .remove _ | .renameConfig _ | .removeConfig => Os
  | .readDocument _ => Except ReadFailure (Option Bytes)
  | .readManaged => Except ReadFailure (Option (Bytes × FileMeta))
  | .readRaw => Option Bytes
  | .configExists => Bool
  | .call _ => Except AgentError Value

/-- What the environment decides when an action is performed. -/
def Act.Choice : Act → Type
  | .ask q => q.Reply
  | .newId => String
  | .lock _ | .unlock _ | .update _ | .state | .plans => Unit
  | .reserve _ => LockFile
  | .load _ => Os
  | .rename _ | .remove _ | .renameConfig _ | .removeConfig => Os
  | .readDocument _ => Except ReadFailure Unit
  | .readManaged => Except ReadFailure FileMeta
  | .readRaw | .configExists => Bool
  | .call _ => Except AgentError Value

/-- A durable write that took place. -/
inductive Write
  | published (e : Entry)
  | removed (f : File)
  | configured (bytes : Option Bytes)

def Disk.write (d : Disk) : Write → Disk
  | .published e => d.put e
  | .removed f => d.erase f
  | .configured bytes => { d with config := bytes }

structure World where
  disk : Disk
  memory : Memory
  replies : List (Method × Except AgentError Value)
  writes : List Write
  changes : Nat
  used : List String

namespace World

def update (w : World) (u : Update) : World := { w with memory := w.memory.apply u }

def publish (w : World) (e : Entry) : World :=
  { w with
    disk := w.disk.put e, writes := w.writes ++ [.published e], used := e.ids ++ w.used }

def erase (w : World) (f : File) : World :=
  { w with disk := w.disk.erase f, writes := w.writes ++ [.removed f] }

/-- The managed file gets a new content, or is removed. -/
def setConfig (w : World) (config : Option Bytes) : World :=
  { w with
    disk := { w.disk with config }, writes := w.writes ++ [.configured config]
    changes := w.changes + 1 }

def useId (w : World) (id : String) : World := { w with used := id :: w.used }

def setLocks (w : World) (locks : List Mutex) : World :=
  { w with memory := { w.memory with locks } }

def activate (w : World) (id : String) : World :=
  { w with memory := { w.memory with activeOperation := some id } }

/-- HBBS answered. -/
def hear (w : World) (m : Method) (r : Except AgentError Value) : World :=
  { w with replies := w.replies ++ [(m, r)] }

/-- The agent stopped: its memory is gone. -/
def crash (w : World) : World := { w with memory := .empty }

end World

/-- Performs an action as the environment chooses. A lock that is held is waited for, and a new
id is none of those seen before. -/
def step (w : World) : (a : Act) → a.Choice → Option (a.Reply × World)
  | .ask _, c => some (c, w)
  | .newId, (c : String) => if w.used.contains c then none else some (c, w.useId c)
  | .lock m, _ =>
    if w.memory.locks.contains m then none else some ((), w.setLocks (m :: w.memory.locks))
  | .unlock m, _ => some ((), w.setLocks (w.memory.locks.erase m))
  | .state, _ => some (w.memory.state, w)
  | .plans, _ => some (w.memory.plans, w)
  | .update u, _ => some ((), w.update u)
  | .reserve id, (c : LockFile) =>
    if w.memory.activeOperation.isSome then some (.error .operationInProgress, w)
    else match c with
      | .acquired => some (.ok (), w.activate id)
      | .wouldBlock => some (.error .operationInProgress, w)
      | .cannotOpen =>
        some (.error (.internal "Cannot open the configuration transaction lock."), w)
      | .cannotAcquire =>
        some (.error (.internal "Cannot acquire the configuration transaction lock."), w)
  | .load c, (r : Os) => some (r.map fun _ => w.disk.collection c, w)
  | .rename e, (r : Os) => some (r, match r with | .ok _ => w.publish e | .error _ => w)
  | .remove f, (r : Os) => some (r, match r with | .ok _ => w.erase f | .error _ => w)
  | .readDocument id, (r : Except ReadFailure Unit) =>
    some (r.map fun _ => w.disk.documents.get id, w)
  | .readManaged, (r : Except ReadFailure FileMeta) =>
    some (r.map fun m => w.disk.config.map fun bytes => (bytes, m), w)
  | .readRaw, (r : Bool) => some (if r then w.disk.config else none, w)
  -- `Path::exists` is false also when the file cannot be inspected.
  | .configExists, (r : Bool) => some (r && w.disk.config.isSome, w)
  | .renameConfig bytes, (r : Os) =>
    some (r, match r with | .ok _ => w.setConfig (some bytes) | .error _ => w)
  | .removeConfig, (r : Os) =>
    some (r, match r with | .ok _ => w.setConfig none | .error _ => w)
  | .call m, (r : Except AgentError Value) => some (r, w.hear m r)

/-- A reply and a state that an action may lead to. -/
def next : World → (a : Act) → a.Reply → World → Prop := byChoice step

abbrev Agent := Prog Act Act.Reply

/-- Code that may fail with an error for the caller. -/
abbrev Try := ExceptT TransactionError Agent

/-- Code that may fail with a text. -/
abbrev Check := ExceptT String Agent

end Starry.ConfigStore
