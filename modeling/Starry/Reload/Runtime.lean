import Starry.Basic
import Starry.Library.Run

/-!
# Reloading the configuration of HBBS (`reload_starry_runtime`)

A reload switches the relay pool, the geo rules, the WebSocket health and the authentication one
after another, and activates the configuration last. The pool belongs to the main loop, which is
asked by a message and answers within five seconds or too late. Any number of reloads may run; they
interleave where the code awaits.
-/

open Library

namespace Starry.Reload

/-- A configuration by the parts that are switched on their own. -/
structure Config (G W A : Type) where
  relayServers : List String
  geo : G
  websocket : W
  auth : A

/-- `get_arg("relay-servers")` and the upstream function behind `parse_relay_servers`. -/
structure Env where
  relayServersArgument : String
  parseRelayServers : String → List String

structure Pool where
  relays : List String
  generation : Nat
deriving DecidableEq, Repr

/-- `Data::RelayServersApply`, for the run that waits for its acknowledgement. -/
structure Message where
  run : Nat
  relayServers : String
  generation : Nat
deriving DecidableEq, Repr

variable {G W A : Type}

/-- What a run has decided before its first await. -/
structure Job (G W A : Type) where
  candidate : Config G W A
  baseGeneration : Nat
  previous : Option (Config G W A)

/-- How a run ended. -/
inductive Outcome (G W A : Type)
  | activated (generation : Nat)
  /-- It failed before it sent anything. -/
  | refused (error : String)
  /-- It stopped waiting for the pool. -/
  | unacknowledged (job : Job G W A) (error : String)
  /-- It failed later, and restored what it had switched. -/
  | recovered (job : Job G W A) (error : String)

/-- Where a run stands, by what it waits for. -/
inductive Stage (G W A : Type)
  /-- `connection_auth::prepare` -/
  | preparing (job : Job G W A)
  /-- The acknowledgement of the pool. -/
  | applying (job : Job G W A)
  | applied (job : Job G W A) (previousRelayServers : String)
  /-- The acknowledgement of the pool, in `restore_runtime_subsystems`. -/
  | reverting (job : Job G W A) (error : String)
  | reverted (job : Job G W A) (error : String) (failures : List String)
  /-- `connection_auth::restore` -/
  | restoring (job : Job G W A) (error : String) (failures : List String)
  | finished (outcome : Outcome G W A)

def Stage.isFinished : Stage G W A → Bool
  | .finished _ => true
  | _ => false

/-- The state of the server. A part is in force with the section of the configuration that it was
prepared from, or with its defaults. -/
structure State (G W A : Type) where
  generation : Nat
  config : Option (Config G W A)
  pool : Pool
  geo : Option G
  websocket : Option W
  auth : Option A
  queue : List Message
  runs : List (Stage G W A)

namespace State

def goto (s : State G W A) (i : Nat) (stage : Stage G W A) : State G W A :=
  { s with runs := s.runs.set i stage }

def send (s : State G W A) (m : Message) : State G W A := { s with queue := s.queue ++ [m] }

end State

/-- The list of relays that a configuration stands for. -/
def relayText (env : Env) (config : Option (Config G W A)) : String :=
  match config with
  | some c =>
    if c.relayServers.isEmpty then env.relayServersArgument else ",".intercalate c.relayServers
  | none => env.relayServersArgument

/-- The text of `restore_runtime_subsystems`. -/
def recoveryText (failures : List String) : String :=
  if failures.isEmpty then "runtime subsystems restored" else "; ".intercalate failures

def timedOut : String := "Relay pool apply acknowledgement timed out"

/-- What happens next. The results of the subsystems are the environment's. -/
inductive Move (G W A : Type)
  /-- Loads, plans and prepares up to the first await. -/
  | start (loaded : Except String (Config G W A))
  | prepared (i : Nat) (auth : Except String Unit)
  /-- The main loop handles the first message. -/
  | handle
  | timeout (i : Nat)
  | activate (i : Nat) (geo websocket config : Except String Unit)
  | revert (i : Nat) (geo websocket : Except String Unit)
  | restored (i : Nat) (auth : Except String Unit)

section Step

variable (env : Env) (s : State G W A)

/-- Sends the old relays back: the beginning of `restore_runtime_subsystems`. -/
def restore (i : Nat) (job : Job G W A) (previousRelayServers error : String) : State G W A :=
  (s.send ⟨i, previousRelayServers, job.baseGeneration⟩).goto i (.reverting job error)

/-- The acknowledgement reaches the run that waits for it. -/
def acknowledge (m : Message) (s : State G W A) (previous : String) : State G W A :=
  match s.runs[m.run]? with
  | some (.applying job) => s.goto m.run (.applied job previous)
  | some (.reverting job error) => s.goto m.run (.reverted job error [])
  | _ => s

def handle : Option (State G W A) :=
  match s.queue with
  | [] => none
  | m :: rest =>
    some (acknowledge m
      { s with queue := rest, pool := ⟨env.parseRelayServers m.relayServers, m.generation⟩ }
      (",".intercalate s.pool.relays))

/-- The part of a reload after the acknowledgement of the pool. -/
def activate (i : Nat) (job : Job G W A) (previous : String)
    (geo websocket config : Except String Unit) : State G W A :=
  match geo with
  | .error e => restore s i job previous ("Geo apply acknowledgement failed: " ++ e)
  | .ok _ =>
    let s := { s with geo := some job.candidate.geo }
    match websocket with
    | .error e => restore s i job previous ("WebSocket apply acknowledgement failed: " ++ e)
    | .ok _ =>
      let s := { s with
        websocket := some job.candidate.websocket, auth := some job.candidate.auth }
      match config with
      | .error e => restore s i job previous ("configuration activation failed: " ++ e)
      | .ok _ =>
        if s.generation ≠ job.baseGeneration then
          restore s i job previous ("configuration activation failed: " ++
            "active generation changed from " ++ toString job.baseGeneration ++ " to " ++
            toString s.generation)
        else
          { s.goto i (.finished (.activated (satAdd s.generation 1))) with
            generation := satAdd s.generation 1, config := some job.candidate }

/-- The configuration that the geo rules and the WebSocket health are restored from. Without a
previous one, `reload` and `reconfigure` take the active one. -/
def recoverySource (job : Job G W A) : Option (Config G W A) := job.previous.or s.config

def rollbackFailure (job : Job G W A) (withPrevious without : String) :
    Except String Unit → List String
  | .ok _ => []
  | .error e => [(if job.previous.isSome then withPrevious else without) ++ e]

def step : Move G W A → Option (State G W A)
  | .start loaded =>
    some { s with runs := s.runs ++ [match loaded with
      | .error e => .finished (.refused e)
      | .ok candidate => .preparing ⟨candidate, s.generation, s.config⟩] }
  | .prepared i auth => match s.runs[i]? with
    | some (.preparing job) => some (match auth with
      | .error e => s.goto i (.finished (.refused e))
      | .ok _ =>
        (s.send ⟨i, relayText env (some job.candidate), satAdd job.baseGeneration 1⟩).goto i
          (.applying job))
    | _ => none
  | .handle => handle env s
  | .timeout i => match s.runs[i]? with
    | some (.applying job) => some (s.goto i (.finished (.unacknowledged job timedOut)))
    | some (.reverting job error) =>
      some (s.goto i (.reverted job error ["Relay rollback failed: " ++ timedOut]))
    | _ => none
  | .activate i geo websocket config => match s.runs[i]? with
    | some (.applied job previous) => some (activate s i job previous geo websocket config)
    | _ => none
  | .revert i geo websocket => match s.runs[i]? with
    | some (.reverted job error failures) =>
      let source := recoverySource s job
      some { s.goto i (.restoring job error (failures ++
          rollbackFailure job "Geo rollback failed: "
            "Geo relay reload rejected; retained last-known-good state: " geo ++
          rollbackFailure job "WebSocket rollback failed: "
            "WebSocket Signal reload rejected; retained last-known-good state: " websocket)) with
        geo := match geo with | .ok _ => source.map (·.geo) | .error _ => s.geo
        websocket := match websocket with
          | .ok _ => source.map (·.websocket)
          | .error _ => s.websocket }
    | _ => none
  | .restored i auth => match s.runs[i]? with
    | some (.restoring job error failures) =>
      let failures := failures ++ match auth with
        | .ok _ => []
        | .error e => ["connection authentication restore failed: " ++ e]
      some { s.goto i (.finished
          (.recovered job (error ++ "; recovery=" ++ recoveryText failures))) with
        auth := match auth with
          | .ok _ => job.previous.map (·.auth)
          | .error _ => s.auth }
    | _ => none

end Step

/-! ## What is in force -/

def candidatePool (env : Env) (config : Option (Config G W A)) (generation : Nat) : Pool :=
  ⟨env.parseRelayServers (relayText env config), generation⟩

/-- Every part is that of the active configuration, and the pool has its generation. -/
structure InForce (env : Env) (s : State G W A) : Prop where
  pool : s.pool = candidatePool env s.config s.generation
  geo : s.geo = s.config.map (·.geo)
  websocket : s.websocket = s.config.map (·.websocket)
  auth : s.auth = s.config.map (·.auth)

/-- The server after its start, with or without a configuration. -/
def startup (env : Env) (config : Option (Config G W A)) : State G W A :=
  let generation := if config.isSome then 1 else 0
  { generation, config, pool := candidatePool env config generation
    geo := config.map (·.geo), websocket := config.map (·.websocket), auth := config.map (·.auth)
    queue := [], runs := [] }

theorem startup_inForce (env : Env) (config : Option (Config G W A)) :
    InForce env (startup env config) := ⟨rfl, rfl, rfl, rfl⟩

/-- A pool of one relay is its name. -/
def sampleEnv : Env := ⟨"", fun text => [text]⟩

/-- Configurations with numbered parts. -/
def sampleConfig (relay : String) (n : Nat) : Config Nat Nat Nat := ⟨[relay], n, n, n⟩

end Starry.Reload
