import Starry.Library.Run
import Starry.RelayObserver.Snapshot

/-!
# The relay pool and its probes (`update_configured`, `update_native_online`)

The main loop of HBBS takes one message at a time. A probe is started with the relays of that moment
and answers by a message of its own, which does not say what was tested.
-/

open Library

namespace Starry.RelayObserver

/-- What the upstream server does. -/
structure PoolEnv where
  /-- The relays that `parse_relay_servers` finds in a list. -/
  parse : String → List String
  /-- What a probe of the first list may find online. -/
  answers : List String → List String → Bool

structure RelayPool where
  relayServers0 : List String
  pool : RelayPoolState
  /-- The relays that each probe was started with. -/
  probes : List (List String)

def RelayPool.init : RelayPool := ⟨[], ⟨0, [], []⟩, []⟩

/-- The answer of `RelayServersApply`. -/
structure RelayApplyAck where
  previousRelayServers : String
  subsystem : String
  accepted : Bool
  detail : String
deriving DecidableEq, Repr

/-- `update_configured`: a fresh list counts as online until it is probed. -/
def updateConfigured (_ : RelayPoolState) (relays : List String) (generation : Nat) :
    RelayPoolState :=
  { generation := generation, configured := relays, nativeOnline := relays }

def updateNativeOnline (pool : RelayPoolState) (relays : List String) : RelayPoolState :=
  { pool with nativeOnline := relays }

inductive PoolMessage
  /-- `generation` is what `runtime_state` says. -/
  | relayServers0 (relayServers : String) (generation : Nat)
  | relayServersApply (relayServers : String) (generation : Nat)
  | startProbe
  /-- The answer of the `k`-th probe. -/
  | relayServers (k : Nat) (online : List String)

variable (env : PoolEnv)

/-- `Data::RelayServers0` -/
def RelayPool.setServers (s : RelayPool) (relayServers : String) (generation : Nat) : RelayPool :=
  let relayServers0 := env.parse relayServers
  { s with
    relayServers0 := relayServers0
    pool := updateConfigured s.pool relayServers0 generation }

/-- `Data::RelayServersApply` -/
def RelayPool.applyServers (s : RelayPool) (relayServers : String) (generation : Nat) :
    RelayPool × RelayApplyAck :=
  let previous := String.intercalate "," s.relayServers0
  let s := s.setServers env relayServers generation
  (s,
    { previousRelayServers := previous
      subsystem := "relay_pool"
      accepted := true
      detail := "applied generation " ++ toString generation ++ " with " ++
        toString s.relayServers0.length ++ " configured Relay(s)" })

def RelayPool.step (s : RelayPool) : PoolMessage → Option RelayPool
  | .relayServers0 relayServers generation => some (s.setServers env relayServers generation)
  | .relayServersApply relayServers generation =>
    some (s.applyServers env relayServers generation).1
  | .startProbe => some { s with probes := s.probes ++ [s.relayServers0] }
  | .relayServers k online =>
    if s.probes[k]?.any (env.answers · online)
    then some { s with pool := updateNativeOnline s.pool online }
    else none

/-! ## Answers for the current pool -/

/-- A probe answers while the relays of the pool are those it was started with. -/
def currentProbe (s : RelayPool) : PoolMessage → Bool
  | .relayServers k _ => s.probes[k]?.all fun tested =>
      tested.all s.pool.configured.contains && s.pool.configured.all tested.contains
  | _ => true

variable {env} {s t : RelayPool}

/-- What is online is configured. -/
def RelayPool.Within (s : RelayPool) : Prop :=
  ∀ relay ∈ s.pool.nativeOnline, relay ∈ s.pool.configured

/-- The answer leaves every relay of the pool online that was not tested. -/
def RelayPool.KeepsUntested (s t : RelayPool) (k : Nat) : Prop :=
  ∀ relay ∈ s.pool.configured, relay ∉ s.probes[k]?.getD [] →
    isNativeOnline s.pool relay = true → isNativeOnline t.pool relay = true

theorem within_setServers (s : RelayPool) (relayServers : String) (generation : Nat) :
    (s.setServers env relayServers generation).Within := fun _ h => h

theorem currentProbe_tested {k : Nat} {online tested : List String}
    (h : currentProbe s (.relayServers k online) = true) (hk : s.probes[k]? = some tested) :
    (∀ relay ∈ tested, relay ∈ s.pool.configured) ∧
      ∀ relay ∈ s.pool.configured, relay ∈ tested := by
  simpa [currentProbe, hk] using h

/-- What a step has done when it takes an answer. -/
theorem step_relayServers {k : Nat} {online : List String}
    (h : s.step env (.relayServers k online) = some t) :
    (∃ tested, s.probes[k]? = some tested ∧ env.answers tested online = true) ∧
      t = { s with pool := updateNativeOnline s.pool online } := by
  simp only [RelayPool.step] at h
  split at h
  · rename_i hanswers
    exact ⟨by simpa [Option.any_eq_true] using hanswers, (Option.some.inj h).symm⟩
  · cases h

theorem within_step (henv : ∀ tested online, env.answers tested online = true → online ⊆ tested)
    (hs : s.Within) {i : PoolMessage} (h : Guarded (RelayPool.step env) currentProbe s i t) :
    t.Within := by
  obtain ⟨hcurrent, hstep⟩ := h
  cases i with
  | relayServers0 relayServers generation =>
    obtain rfl := Option.some.inj hstep
    exact within_setServers s relayServers generation
  | relayServersApply relayServers generation =>
    obtain rfl := Option.some.inj hstep
    exact within_setServers s relayServers generation
  | startProbe =>
    obtain rfl := Option.some.inj hstep
    exact hs
  | relayServers k online =>
    obtain ⟨⟨tested, hk, hanswers⟩, rfl⟩ := step_relayServers hstep
    intro relay hrelay
    exact (currentProbe_tested hcurrent hk).1 relay (henv tested online hanswers hrelay)

/-- Where every answer comes while the pool has the relays that were tested, no relay outside of the
pool is online, and no answer takes a relay offline that was not tested. -/
theorem reachability_current
    (henv : ∀ tested online, env.answers tested online = true → online ⊆ tested)
    (h : Reachable (Guarded (RelayPool.step env) currentProbe) .init s) :
    s.Within ∧ ∀ k online t,
      Guarded (RelayPool.step env) currentProbe s (.relayServers k online) t →
        s.KeepsUntested t k := by
  have hwithin : s.Within := h.invariant (by simp [RelayPool.Within, RelayPool.init])
    fun _ _ _ hs hn => within_step henv hs hn
  refine ⟨hwithin, ?_⟩
  intro k online t ⟨hcurrent, hstep⟩ relay hrelay huntested
  obtain ⟨⟨tested, hk, -⟩, -⟩ := step_relayServers hstep
  rw [hk] at huntested
  exact absurd ((currentProbe_tested hcurrent hk).2 relay hrelay) huntested

/-! ## An answer for the pool before -/

/-- A comma separates the relays; a probe sends no empty answer. -/
def commaSeparated : PoolEnv where
  parse relayServers := (relayServers.toList.splitOn ',').map String.ofList
  answers tested online := !online.isEmpty && online.all tested.contains

theorem commaSeparated_answers (tested online : List String)
    (h : commaSeparated.answers tested online = true) : online ⊆ tested := by
  simp only [commaSeparated, Bool.and_eq_true, List.all_eq_true, List.contains_iff_mem] at h
  exact fun relay hrelay => h.2 relay hrelay

def movedRelays : List PoolMessage :=
  [.relayServers0 "relay-a,relay-b" 1, .startProbe, .relayServersApply "relay-b,relay-c" 2]

def movedPool : RelayPool :=
  { relayServers0 := ["relay-b", "relay-c"]
    pool := ⟨2, ["relay-b", "relay-c"], ["relay-b", "relay-c"]⟩
    probes := [["relay-a", "relay-b"]] }

theorem exec_movedRelays :
    exec (RelayPool.step commaSeparated) currentProbe .init movedRelays = some movedPool := by
  rfl

theorem reachability_current_moved : movedPool.Within ∧ ∀ k online t,
    Guarded (RelayPool.step commaSeparated) currentProbe movedPool (.relayServers k online) t →
      movedPool.KeepsUntested t k :=
  reachability_current commaSeparated_answers ⟨_, Run.of_exec exec_movedRelays⟩

/-- A probe of the pool before puts a removed relay online, and takes a new one offline untested. -/
theorem late_answer_overwrites : ∃ s t : RelayPool,
    Reachable (Steps (RelayPool.step commaSeparated)) .init s ∧
      Steps (RelayPool.step commaSeparated) s (.relayServers 0 ["relay-a"]) t ∧
      ¬ t.Within ∧ ¬ s.KeepsUntested t 0 := by
  refine ⟨movedPool, { movedPool with pool := ⟨2, ["relay-b", "relay-c"], ["relay-a"]⟩ },
    ⟨_, (Run.of_exec exec_movedRelays).mono fun _ _ _ h => ⟨rfl, h.2⟩⟩, ⟨rfl, rfl⟩, ?_, ?_⟩
  · intro h
    exact absurd (h "relay-a" (by decide)) (by decide)
  · intro h
    exact absurd (h "relay-c" (by decide) (by decide) (by decide)) (by decide)

end Starry.RelayObserver
