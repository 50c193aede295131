import Starry.ConfigStore.Acceptance
import Starry.Library.Run

/-!
# The agent as a system of tasks

Every request is a task, and so is every transaction that was handed over. Between two actions of a
task any other task may act. The agent may stop at any point; its memory is then lost, and it is
opened again over what is on disk.
-/

open Library

namespace Starry.ConfigStore

variable (env : Env)

inductive Call
  | plan (r : PlanRequest)
  | mutation (m : Mutation)
  | reload (r : ReloadRequest)

inductive Job
  | call (c : Call)
  | transaction (work : TransactionWork)

inductive Answer
  | plan (r : Except TransactionError PlanRecord)
  | operation (r : Except TransactionError Operation)
  | response (r : Except TransactionError Value)
  | executed

def Job.program : Job → Agent Answer
  | .call (.plan r) => Answer.plan <$> (createPlan env r).run
  | .call (.mutation m) => Answer.operation <$> (accept env m).run
  | .call (.reload r) => Answer.response <$> (runtimeReload env r).run
  | .transaction work => do
    executeTransaction env work
    return .executed

/-- The hash of the idempotency key of a request. -/
def Job.key : Job → Option String
  | .call (.mutation m) => some (idempotencyHash env m.request.idempotencyKey)
  | .call (.reload r) => some (idempotencyHash env r.idempotencyKey)
  | .call (.plan _) | .transaction _ => none

/-- A task, with two ghosts: whether it is between `reserve_operation` and `release_operation`, and
the state in which it looked its key up. -/
structure Task where
  job : Job
  rest : Agent Answer
  holding : Bool
  looked : Option StoreState

def Task.start (job : Job) : Task :=
  { job, rest := job.program env, looked := none
    holding := match job with | .transaction _ => true | .call _ => false }

/-- The task after an action and its reply. A transaction that is handed over is held by its own
task. -/
def Task.after (task : Task) (rest : Agent Answer) : (a : Act) → a.Reply → Task
  | .reserve _, .ok _ => { task with rest, holding := true }
  | .update (.release _), _ | .update (.spawn _), _ => { task with rest, holding := false }
  | .state, s => { task with rest, looked := task.looked.or (some s) }
  | _, _ => { task with rest }

/-- The key for which an action starts work: a transaction is handed over, or a reload is
recorded without its result. -/
def Act.starts : Act → Option String
  | .update (.spawn work) => some work.audit.idempotencyKeyHash
  | .update (.putIdempotency r) => if r.unresolved then some r.keyHash else none
  | _ => none

/-- Takes a transaction out of the hands of the runtime. -/
def World.begin (w : World) (work : TransactionWork) : World :=
  { w with memory := { w.memory with spawned := w.memory.spawned.erase work } }

/-- The idempotency record of a key is retained. -/
def Retained (s : StoreState) (key : String) : Prop := (s.idempotency.get key).isSome = true

instance (s : StoreState) (key : String) : Decidable (Retained s key) :=
  inferInstanceAs (Decidable (_ = true))

/-- The agent. `started` is a ghost: the keys for which work was started, as long as their record
has been retained since. -/
structure System where
  up : Bool
  world : World
  tasks : Nat → Option Task
  started : List String

def System.init (config : Option Bytes) : System :=
  ⟨false, ⟨.empty config, .empty, [], [], 0, []⟩, fun _ => none, []⟩

def System.set (s : System) (i : Nat) (task : Task) : System :=
  { s with tasks := Function.update s.tasks i (some task) }

inductive Move
  | call (i : Nat) (c : Call)
  | act (i : Nat)
  | begin (i : Nat) (work : TransactionWork)
  | crash
  | stopped
  | opened

inductive System.Next : System → Move → System → Prop
  | call {s : System} (i : Nat) (c : Call) (hup : s.up = true) (hfree : s.tasks i = none) :
      System.Next s (.call i c) (s.set i (.start env (.call c)))
  | act {s : System} (i : Nat) {task : Task} {a : Act} {k : a.Reply → Agent Answer} {r : a.Reply}
      {w : World} (htask : s.tasks i = some task) (hrest : task.rest = .act a k)
      (hn : next s.world a r w) :
      System.Next s (.act i)
        { s.set i (task.after (k r) a r) with
          world := w
          started := (s.started ++ a.starts.toList).filter
            fun key => decide (Retained w.memory.state key) }
  | begin {s : System} (i : Nat) (work : TransactionWork) (hfree : s.tasks i = none)
      (hwork : work ∈ s.world.memory.spawned) :
      System.Next s (.begin i work)
        { s.set i (.start env (.transaction work)) with world := s.world.begin work }
  | crash {s : System} : System.Next s .crash ⟨false, s.world.crash, fun _ => none, []⟩
  | stopped {s : System} {w : World} (hdown : s.up = false)
      (hopen : Passes next (openStore env).run s.world w) :
      System.Next s .stopped ⟨false, w.crash, fun _ => none, []⟩
  | opened {s : System} {w : World} {es : List (Event Act Act.Reply World)} (hdown : s.up = false)
      (hopen : Eval next (openStore env).run s.world es (.ok ()) w) :
      System.Next s .opened ⟨true, w, fun _ => none, []⟩

/-- A state of the agent, from its first start over the managed file `config`. -/
def System.Reached (config : Option Bytes) (s : System) : Prop :=
  Reachable (System.Next env) (.init config) s

end Starry.ConfigStore
