import Starry.Basic
import Starry.Library.Run
import Starry.Library.Table

/-!
# Pairing in HBBR (`make_pair_`)

The first half of a relay session waits in `PEERS` until the second one takes it out, or for 30
seconds. `PENDING_RELAY_PAIRS` counts the waiting halves. Every connection is a task, and between
two of its accesses to shared state any other task may run.
-/

open Library

namespace Starry.Hbbr

/-- What an operator sets when the server starts. -/
structure Settings where
  key : String
  maxRelaySessions : Nat

def Settings.capacity (c : Settings) : Nat := max c.maxRelaySessions 1

structure RequestRelay where
  uuid : String
  licenceKey : String
deriving DecidableEq, Repr

structure PendingPeer where
  generation : Nat
deriving DecidableEq, Repr

/-- Where a task stands, by what it does next. -/
inductive Task
  /-- Takes its other half out of `PEERS`. -/
  | received (uuid : String)
  /-- Took it out, and counts it down. -/
  | found
  /-- Asks for a `RelayLoadGuard`. -/
  | paired
  /-- Relays, and drops its guard at the end. -/
  | relaying
  /-- Found nothing; `admission_available` comes next. -/
  | absent (uuid : String)
  /-- Compares the number of waiting halves. -/
  | available (uuid : String)
  /-- Takes its generation. -/
  | admitted (uuid : String)
  | numbered (uuid : String) (generation : Nat)
  /-- Its half is a new entry of `PEERS`, and is counted. -/
  | inserted (uuid : String) (generation : Nat)
  /-- Sleeps for 30 seconds. -/
  | waiting (uuid : String) (generation : Nat)
  /-- Took its own half out again with `PEERS` still locked, and counts it down. -/
  | expired
  | finished
deriving DecidableEq, Repr

structure State where
  peers : Table String PendingPeer
  /-- `PENDING_RELAY_PAIRS` -/
  pendingRelayPairs : Nat
  /-- `PENDING_SEQUENCE` -/
  pendingSequence : Nat
  /-- `ACTIVE_RELAY_SESSIONS` -/
  activeRelaySessions : Nat
  /-- `ADMISSION_REJECTIONS` -/
  admissionRejections : Nat
  /-- A task holds the lock of `PEERS` across two of its steps. -/
  locked : Bool
  tasks : List Task

def State.init : State := ⟨.empty, 0, 0, 0, 0, false, []⟩

namespace State

def goto (s : State) (i : Nat) (τ : Task) : State := { s with tasks := s.tasks.set i τ }

def reject (s : State) (i : Nat) : State :=
  { s.goto i .finished with admissionRejections := satAdd s.admissionRejections 1 }

/-- `atomic_saturating_sub(&PENDING_RELAY_PAIRS, 1)` -/
def countDown (s : State) : State := { s with pendingRelayPairs := s.pendingRelayPairs - 1 }

end State

/-- A task performs its next access. `draining` is what `is_draining` answers, where it is asked. -/
def act (c : Settings) (s : State) (i : Nat) (draining : Bool) : Task → Option State
  | .received uuid =>
    if s.locked then none
    else match s.peers.get uuid with
      | some _ => some { s.goto i .found with peers := s.peers.remove uuid }
      | none => some (s.goto i (.absent uuid))
  | .found => some (s.countDown.goto i .paired)
  | .paired =>
    if draining || s.activeRelaySessions ≥ c.capacity then some (s.reject i)
    else some { s.goto i .relaying with activeRelaySessions := s.activeRelaySessions + 1 }
  | .relaying =>
    some { s.goto i .finished with activeRelaySessions := s.activeRelaySessions - 1 }
  | .absent uuid =>
    if draining || s.activeRelaySessions ≥ c.capacity then some (s.reject i)
    else some (s.goto i (.available uuid))
  | .available uuid =>
    if s.pendingRelayPairs ≥ c.capacity then some (s.reject i)
    else some (s.goto i (.admitted uuid))
  | .admitted uuid =>
    some { s.goto i (.numbered uuid (satAdd s.pendingSequence 1)) with
      pendingSequence := (s.pendingSequence + 1) % 2 ^ 64 }
  | .numbered uuid generation =>
    if s.locked then none
    else
      let next : Task := match s.peers.get uuid with
        | none => .inserted uuid generation
        | some _ => .waiting uuid generation
      some { s.goto i next with peers := s.peers.insert uuid ⟨generation⟩ }
  | .inserted uuid generation =>
    some { s.goto i (.waiting uuid generation) with
      pendingRelayPairs := s.pendingRelayPairs + 1 }
  | .waiting uuid generation =>
    if s.locked then none
    else match s.peers.get uuid with
      | some peer =>
        if peer.generation = generation then
          some { s.goto i .expired with peers := s.peers.remove uuid, locked := true }
        else some (s.goto i .finished)
      | none => some (s.goto i .finished)
  | .expired => some { s.countDown.goto i .finished with locked := false }
  | .finished => none

inductive Move
  | request (rf : RequestRelay)
  | act (i : Nat) (draining : Bool)
deriving DecidableEq, Repr

def step (c : Settings) (s : State) : Move → Option State
  | .request rf =>
    let refused := !c.key.isEmpty && rf.licenceKey ≠ c.key || rf.uuid.isEmpty
    some { s with tasks := s.tasks ++ [if refused then .finished else .received rf.uuid] }
  | .act i draining => s.tasks[i]?.bind (act c s i draining)

/-! ## Accounting -/

/-- The task has added an entry that it has not counted. -/
def Task.adds : Task → Bool
  | .inserted _ _ => true
  | _ => false

/-- The task has removed an entry that it has not counted down. -/
def Task.removes : Task → Bool
  | .found | .expired => true
  | _ => false

/-- No task is between its update of `PEERS` and its update of the counter. -/
def State.Settled (s : State) : Prop := ∀ τ ∈ s.tasks, τ.adds = false ∧ τ.removes = false

instance (s : State) : Decidable s.Settled := inferInstanceAs (Decidable (∀ τ ∈ s.tasks, _))

/-- The counter is above zero wherever it is counted down. -/
def countsDown (s : State) : Move → Bool
  | .request _ => true
  | .act i _ => match s.tasks[i]? with
    | some τ => !τ.removes || 0 < s.pendingRelayPairs
    | none => true

/-- By how much the counter is ahead of `PEERS`, less what the tasks still have to do. -/
def State.ahead (s : State) : Int :=
  s.pendingRelayPairs + s.tasks.countP Task.adds - s.peers.len - s.tasks.countP Task.removes

theorem State.Settled.ahead {s : State} (h : s.Settled) :
    s.ahead = s.pendingRelayPairs - s.peers.len := by
  have hadds : s.tasks.countP Task.adds = 0 :=
    List.countP_eq_zero.mpr fun τ hτ => by simp [(h τ hτ).1]
  have hremoves : s.tasks.countP Task.removes = 0 :=
    List.countP_eq_zero.mpr fun τ hτ => by simp [(h τ hτ).2]
  unfold State.ahead
  omega

section Steps

variable {c : Settings} {s t : State}

/-- One task moves on. -/
theorem ahead_moved {i : Nat} {τ τ' : Task} (h : s.tasks[i]? = some τ)
    (ht : t.tasks = s.tasks.set i τ') :
    t.ahead = s.ahead + (t.pendingRelayPairs - s.pendingRelayPairs) - (t.peers.len - s.peers.len) +
      (τ'.adds.toNat - τ.adds.toNat) - (τ'.removes.toNat - τ.removes.toNat) := by
  have hadds := countP_set_of_getElem? (y := τ') Task.adds h
  have hremoves := countP_set_of_getElem? (y := τ') Task.removes h
  unfold State.ahead
  rw [ht]
  omega

/-- A task that does not touch `PEERS` or the counter. -/
theorem ahead_same {i : Nat} {τ τ' : Task} (h : s.tasks[i]? = some τ)
    (ht : t.tasks = s.tasks.set i τ') (hpending : t.pendingRelayPairs = s.pendingRelayPairs)
    (hpeers : t.peers = s.peers) (hadds : τ'.adds = τ.adds) (hremoves : τ'.removes = τ.removes) :
    t.ahead = s.ahead := by
  rw [ahead_moved h ht, hpending, hpeers, hadds, hremoves]
  omega

/-- The counter gets ahead exactly when it is counted down at zero. -/
theorem act_ahead {i : Nat} {draining : Bool} {τ : Task} (hτ : s.tasks[i]? = some τ)
    (h : act c s i draining τ = some t) :
    t.ahead = s.ahead + if τ.removes = true ∧ s.pendingRelayPairs = 0 then 1 else 0 := by
  have hsame : ∀ {τ'}, t.tasks = s.tasks.set i τ' → t.pendingRelayPairs = s.pendingRelayPairs →
      t.peers = s.peers → τ'.adds = τ.adds → τ'.removes = false → τ.removes = false →
      t.ahead = s.ahead + if τ.removes = true ∧ s.pendingRelayPairs = 0 then 1 else 0 := by
    intro τ' ht hpending hpeers hadds hremoves hremoves'
    rw [ahead_same hτ ht hpending hpeers hadds (hremoves.trans hremoves'.symm), hremoves']
    simp
  cases τ with
  | received uuid =>
    simp only [act] at h
    split at h
    · cases h
    · split at h
      · rename_i peer hpeer
        have hlen := Table.len_remove_of_some hpeer
        cases h
        rw [ahead_moved hτ rfl]
        simp only [State.goto, Task.adds, Task.removes, Bool.toNat_true, Bool.toNat_false]
        simp
        omega
      · cases h
        exact hsame rfl rfl rfl rfl rfl rfl
  | found =>
    cases h
    rw [ahead_moved hτ rfl]
    simp only [State.goto, State.countDown, Task.adds, Task.removes, Bool.toNat_true,
      Bool.toNat_false, true_and]
    split <;> omega
  | paired | absent uuid | available uuid =>
    simp only [act] at h
    split at h
    all_goals
      cases h
      exact hsame rfl rfl rfl rfl rfl rfl
  | relaying | admitted uuid =>
    cases h
    exact hsame rfl rfl rfl rfl rfl rfl
  | numbered uuid generation =>
    simp only [act] at h
    split at h
    · cases h
    · cases hget : s.peers.get uuid with
      | none =>
        rw [hget] at h
        have hlen := Table.len_insert s.peers uuid ⟨generation⟩
        rw [if_pos hget] at hlen
        cases h
        rw [ahead_moved hτ rfl]
        simp only [State.goto, Task.adds, Task.removes, Bool.toNat_true, Bool.toNat_false, hlen]
        simp
      | some peer =>
        rw [hget] at h
        have hlen := Table.len_insert s.peers uuid ⟨generation⟩
        rw [if_neg (by rw [hget]; simp)] at hlen
        cases h
        rw [ahead_moved hτ rfl]
        simp only [State.goto, Task.adds, Task.removes, Bool.toNat_false, hlen]
        simp
  | inserted uuid generation =>
    cases h
    rw [ahead_moved hτ rfl]
    simp only [State.goto, Task.adds, Task.removes, Bool.toNat_true, Bool.toNat_false]
    simp
  | waiting uuid generation =>
    simp only [act] at h
    split at h
    · cases h
    · split at h
      · rename_i peer hpeer
        split at h
        · have hlen := Table.len_remove_of_some hpeer
          cases h
          rw [ahead_moved hτ rfl]
          simp only [State.goto, Task.adds, Task.removes, Bool.toNat_true, Bool.toNat_false]
          simp
          omega
        · cases h
          exact hsame rfl rfl rfl rfl rfl rfl
      · cases h
        exact hsame rfl rfl rfl rfl rfl rfl
  | expired =>
    cases h
    rw [ahead_moved hτ rfl]
    simp only [State.goto, State.countDown, Task.adds, Task.removes, Bool.toNat_true,
      Bool.toNat_false, true_and]
    split <;> omega
  | finished => cases h

theorem step_ahead {m : Move} (h : step c s m = some t) :
    t.ahead = s.ahead + if countsDown s m then 0 else 1 := by
  cases m with
  | request rf =>
    cases h
    simp only [State.ahead, countsDown, List.countP_append, List.countP_singleton]
    split <;> simp [Task.adds, Task.removes]
  | act i draining =>
    obtain ⟨τ, hτ, h⟩ := Option.bind_eq_some_iff.mp h
    rw [act_ahead hτ h]
    simp only [countsDown, hτ]
    cases hr : τ.removes with
    | false => simp
    | true =>
      simp only [Bool.not_true, Bool.false_or, decide_eq_true_eq, true_and]
      split <;> split <;> omega

/-- Runs in which the counter is never counted down at zero, and runs in which it is. -/
theorem pending_pairs_exact (c : Settings) :
    (∀ s, Reachable (Guarded (step c) countsDown) .init s → s.Settled →
      s.pendingRelayPairs = s.peers.len) ∧
    ∀ u m v s, Reachable (Steps (step c)) .init u → step c u m = some v → countsDown u m = false →
      Reachable (Steps (step c)) v s → s.Settled → s.peers.len < s.pendingRelayPairs := by
  constructor
  · intro s hs hsettled
    have hzero : s.ahead = 0 := by
      refine hs.invariant (P := fun s => s.ahead = 0) rfl ?_
      rintro s m t hzero ⟨hok, hstep⟩
      rw [step_ahead hstep, hzero, hok]
      rfl
    rw [hsettled.ahead] at hzero
    omega
  · intro u m v s hu hstep hzero hs hsettled
    have hu : 0 ≤ u.ahead := by
      refine hu.invariant (P := fun s => 0 ≤ s.ahead) (le_refl 0) ?_
      rintro s m t hs ⟨_, hstep⟩
      rw [step_ahead hstep]
      split <;> omega
    have hv : 1 ≤ v.ahead := by
      rw [step_ahead hstep, hzero]
      simp only [Bool.false_eq_true, if_false]
      omega
    have hs : 1 ≤ s.ahead := by
      refine hs.invariant (P := fun s => 1 ≤ s.ahead) hv ?_
      rintro s m t hs ⟨_, hstep⟩
      rw [step_ahead hstep]
      split <;> omega
    rw [hsettled.ahead] at hs
    omega

end Steps

/-! ## Concrete runs -/

def openSettings : Settings := ⟨"", 10000⟩

def sampleRequest : RequestRelay := ⟨"u-1", ""⟩

/-- The first half arrives, and is counted at the end. -/
def firstHalf : List Move :=
  [.request sampleRequest, .act 0 false, .act 0 false, .act 0 false, .act 0 false, .act 0 false,
    .act 0 false]

def afterFirst : Option State := exec (step openSettings) countsDown .init firstHalf

theorem afterFirst_settled :
    (afterFirst.map fun s => (decide s.Settled, s.pendingRelayPairs, s.peers.len)) =
      some (true, 1, 1) := by
  rfl

/-- One waiting half. -/
theorem pending_pairs_exact_first :
    ∃ s, Reachable (Guarded (step openSettings) countsDown) .init s ∧ s.Settled ∧
      s.pendingRelayPairs = s.peers.len := by
  obtain ⟨s, hs, hstate⟩ := Option.map_eq_some_iff.mp afterFirst_settled
  have hsettled : s.Settled := of_decide_eq_true (Prod.mk.inj hstate).1
  have hreached : Reachable (Guarded (step openSettings) countsDown) .init s := ⟨_, .of_exec hs⟩
  exact ⟨s, hreached, hsettled, (pending_pairs_exact openSettings).1 s hreached hsettled⟩

/-- The second half takes the first one out between its entry and its count. -/
def earlyPairing : List Move :=
  [.request sampleRequest, .act 0 false, .act 0 false, .act 0 false, .act 0 false, .act 0 false,
    .request sampleRequest, .act 1 false, .act 1 false, .act 0 false]

def afterEarly : Option State :=
  exec (step openSettings) (fun _ _ => true) .init earlyPairing

theorem afterEarly_settled :
    (afterEarly.map fun s => (decide s.Settled, s.pendingRelayPairs, s.peers.len)) =
      some (true, 1, 0) := by
  rfl

/-- The counter stays at one with no half waiting. -/
theorem early_pairing_drifts :
    ∃ s, Reachable (Steps (step openSettings)) .init s ∧ s.Settled ∧
      s.pendingRelayPairs = 1 ∧ s.peers.len = 0 := by
  obtain ⟨s, hs, hstate⟩ := Option.map_eq_some_iff.mp afterEarly_settled
  simp only [Prod.mk.injEq] at hstate
  obtain ⟨hsettled, hpending, hlen⟩ := hstate
  exact ⟨s, ⟨_, .of_exec hs⟩, of_decide_eq_true hsettled, hpending, hlen⟩

end Starry.Hbbr
