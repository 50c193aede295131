import Starry.Library.Run
import Starry.Basic

/-!
# The load of the relay (`RelayLoadGuard`)

Every relayed session holds a guard. Two totals are shared by all of them, each changed by one
atomic access at a time. Between the accesses of one guard any others may come.
-/

open Library

namespace Starry.Hbbr

/-- A guard, by what its owner is doing. -/
inductive RelayLoadGuard
  | held (bandwidthBps : Nat)
  /-- In `update`: the new average is known, the total not yet adjusted. -/
  | averaged (bandwidthBps average : Nat)
  /-- In `update`: the total is adjusted, the guard not yet. -/
  | adjusted (bandwidthBps average : Nat)
  | dropping (bandwidthBps : Nat)
  /-- In `drop`: the bandwidth is given back, the session not yet. -/
  | released
  | dropped
deriving DecidableEq, Repr

structure RelayLoad where
  activeRelaySessions : Nat
  activeRelayBandwidthBps : Nat
  guards : List RelayLoadGuard
deriving DecidableEq, Repr

def RelayLoad.init : RelayLoad := ⟨0, 0, []⟩

/-- `fetch_add` on an `AtomicUsize`. -/
def fetchAdd (value amount : Nat) : Nat := (value + amount) % 2 ^ 64

def atomicSaturatingSub (value amount : Nat) : Nat := value - amount

def movingAverage (bandwidthBps sampleBps : Nat) : Nat :=
  if bandwidthBps = 0 then sampleBps else satAdd (satMul bandwidthBps 3) sampleBps / 4

inductive LoadStep
  /-- `draining` is what `is_draining` answers. -/
  | tryNew (draining : Bool)
  | update (k sampleBps : Nat)
  | drop (k : Nat)
  /-- The next access of a call on guard `k`. -/
  | advance (k : Nat)
deriving DecidableEq, Repr

namespace RelayLoad

/-- `RelayLoadGuard::try_new` -/
def tryNew (capacity : UInt64) (s : RelayLoad) (draining : Bool) : RelayLoad :=
  if draining then s
  else if s.activeRelaySessions < max capacity.toNat 1 then
    { s with
      activeRelaySessions := satAdd s.activeRelaySessions 1
      guards := s.guards ++ [.held 0] }
  else s

def advance (s : RelayLoad) (k : Nat) : RelayLoadGuard → Option RelayLoad
  | .averaged bandwidthBps average =>
    some { s with
      activeRelayBandwidthBps :=
        if average ≥ bandwidthBps
        then fetchAdd s.activeRelayBandwidthBps (average - bandwidthBps)
        else atomicSaturatingSub s.activeRelayBandwidthBps (bandwidthBps - average)
      guards := s.guards.set k (.adjusted bandwidthBps average) }
  | .adjusted _ average => some { s with guards := s.guards.set k (.held average) }
  | .dropping bandwidthBps =>
    some { s with
      activeRelayBandwidthBps := atomicSaturatingSub s.activeRelayBandwidthBps bandwidthBps
      guards := s.guards.set k .released }
  | .released =>
    some { s with
      activeRelaySessions := atomicSaturatingSub s.activeRelaySessions 1
      guards := s.guards.set k .dropped }
  | .held _ | .dropped => none

def step (capacity : UInt64) (s : RelayLoad) : LoadStep → Option RelayLoad
  | .tryNew draining => some (s.tryNew capacity draining)
  | .update k sampleBps =>
    match s.guards[k]? with
    | some (.held bandwidthBps) =>
      some { s with
        guards := s.guards.set k (.averaged bandwidthBps (movingAverage bandwidthBps sampleBps)) }
    | _ => none
  | .drop k =>
    match s.guards[k]? with
    | some (.held bandwidthBps) => some { s with guards := s.guards.set k (.dropping bandwidthBps) }
    | _ => none
  | .advance k => s.guards[k]?.bind (s.advance k)

end RelayLoad

/-! ## What the guards stand for -/

namespace RelayLoadGuard

def live : RelayLoadGuard → Bool
  | .dropped => false
  | _ => true

def updating : RelayLoadGuard → Bool
  | .averaged _ _ | .adjusted _ _ => true
  | _ => false

/-- A guard that has given its bandwidth back has none. -/
def bandwidthBps : RelayLoadGuard → Nat
  | .held bandwidthBps | .averaged bandwidthBps _ | .adjusted bandwidthBps _
  | .dropping bandwidthBps => bandwidthBps
  | .released | .dropped => 0

/-- The part of the total that a guard stands for. -/
def share : RelayLoadGuard → Nat
  | .adjusted _ average => average
  | guard => guard.bandwidthBps

end RelayLoadGuard

namespace RelayLoad

def exactSum (s : RelayLoad) : Nat := (s.guards.map RelayLoadGuard.share).sum

/-- The exact sum fits in a `usize` after the step. -/
def fits (capacity : UInt64) (s : RelayLoad) (i : LoadStep) : Bool :=
  (s.step capacity i).all fun t => t.exactSum < 2 ^ 64

/-- The next access of guard `k` takes more from a total than there is. -/
def saturates (s : RelayLoad) (k : Nat) : Bool :=
  match s.guards[k]? with
  | some (.averaged bandwidthBps average) =>
    average < bandwidthBps && s.activeRelayBandwidthBps < bandwidthBps - average
  | some (.dropping bandwidthBps) => s.activeRelayBandwidthBps < bandwidthBps
  | some .released => s.activeRelaySessions < 1
  | _ => false

/-- The totals are what the guards stand for. -/
structure Exact (capacity : UInt64) (s : RelayLoad) : Prop where
  sessions : s.activeRelaySessions = s.guards.countP RelayLoadGuard.live
  capacity : s.activeRelaySessions ≤ max 1 capacity.toNat
  bandwidth : s.activeRelayBandwidthBps = s.exactSum

theorem exact_init (capacity : UInt64) : Exact capacity .init :=
  ⟨rfl, Nat.zero_le _, rfl⟩

variable {capacity : UInt64} {s t : RelayLoad}

/-- One guard becomes another of the same kind. -/
theorem Exact.set (hs : Exact capacity s) {k bandwidthBps : Nat} {old : RelayLoadGuard}
    (new : RelayLoadGuard) (hk : s.guards[k]? = some old) (hlive : new.live = old.live)
    (hshare : bandwidthBps + old.share = s.activeRelayBandwidthBps + new.share) :
    Exact capacity { s with
      activeRelayBandwidthBps := bandwidthBps
      guards := s.guards.set k new } := by
  have hcount := countP_set_of_getElem? (y := new) RelayLoadGuard.live hk
  have hsum := sum_map_set_of_getElem? (y := new) RelayLoadGuard.share hk
  have hbandwidth := hs.bandwidth
  unfold exactSum at hbandwidth
  constructor
  · have hsessions := hs.sessions
    rw [hlive] at hcount
    simp only
    omega
  · exact hs.capacity
  · simp only [exactSum]
    omega

theorem Exact.tryNew (hs : Exact capacity s) (draining : Bool) :
    Exact capacity (s.tryNew capacity draining) := by
  unfold RelayLoad.tryNew
  split
  · exact hs
  split
  · rename_i hroom
    have hcapacity : capacity.toNat ≤ u64Max := Nat.le_pred_of_lt capacity.toNat_lt
    have hadd : satAdd s.activeRelaySessions 1 = s.activeRelaySessions + 1 := by
      unfold satAdd u64Max at *
      omega
    constructor
    · simp only [hadd]
      simp [hs.sessions, List.countP_append, RelayLoadGuard.live]
    · simp only [hadd]
      omega
    · simp [hs.bandwidth, exactSum, RelayLoadGuard.share, RelayLoadGuard.bandwidthBps]
  · exact hs

theorem Exact.released (hs : Exact capacity s) {k : Nat} (hk : s.guards[k]? = some .released) :
    Exact capacity { s with
      activeRelaySessions := atomicSaturatingSub s.activeRelaySessions 1
      guards := s.guards.set k .dropped } := by
  have hcount := countP_set_of_getElem? (y := .dropped) RelayLoadGuard.live hk
  have hsum := sum_map_set_of_getElem? (y := .dropped) RelayLoadGuard.share hk
  have hsessions := hs.sessions
  have hcapacity := hs.capacity
  have hbandwidth := hs.bandwidth
  simp only [RelayLoadGuard.live, RelayLoadGuard.share, RelayLoadGuard.bandwidthBps,
    Bool.toNat_true, Bool.toNat_false] at hcount hsum
  unfold exactSum at hbandwidth
  constructor
  · simp only [atomicSaturatingSub]
    omega
  · simp only [atomicSaturatingSub]
    omega
  · simp only [exactSum]
    omega

/-- The total takes the difference of an average, up or down. -/
theorem Exact.averaged (hs : Exact capacity s) {k bandwidthBps average : Nat}
    (hk : s.guards[k]? = some (.averaged bandwidthBps average))
    (hfits : s.exactSum - bandwidthBps + average < 2 ^ 64) :
    Exact capacity { s with
      activeRelayBandwidthBps :=
        if average ≥ bandwidthBps
        then fetchAdd s.activeRelayBandwidthBps (average - bandwidthBps)
        else atomicSaturatingSub s.activeRelayBandwidthBps (bandwidthBps - average)
      guards := s.guards.set k (.adjusted bandwidthBps average) } := by
  have hle : bandwidthBps ≤ s.exactSum := le_sum_map_of_getElem? RelayLoadGuard.share hk
  have hbandwidth := hs.bandwidth
  apply hs.set (.adjusted bandwidthBps average) hk rfl
  simp only [RelayLoadGuard.share, RelayLoadGuard.bandwidthBps]
  split
  · unfold fetchAdd
    rw [Nat.mod_eq_of_lt (by omega)]
    omega
  · unfold atomicSaturatingSub
    omega

theorem exactSum_averaged {k bandwidthBps average total : Nat}
    (hk : s.guards[k]? = some (.averaged bandwidthBps average)) :
    exactSum { s with
      activeRelayBandwidthBps := total
      guards := s.guards.set k (.adjusted bandwidthBps average) } =
    s.exactSum - bandwidthBps + average := by
  have hsum := sum_map_set_of_getElem? (y := .adjusted bandwidthBps average)
    RelayLoadGuard.share hk
  have hle : bandwidthBps ≤ s.exactSum := le_sum_map_of_getElem? RelayLoadGuard.share hk
  simp only [RelayLoadGuard.share, RelayLoadGuard.bandwidthBps] at hsum
  unfold exactSum at hle ⊢
  simp only
  omega

theorem Exact.advance (hs : Exact capacity s) {k : Nat} {guard : RelayLoadGuard}
    (hk : s.guards[k]? = some guard) (hfits : t.exactSum < 2 ^ 64)
    (h : s.advance k guard = some t) : Exact capacity t := by
  cases guard with
  | held | dropped => cases h
  | averaged bandwidthBps average =>
    obtain rfl := Option.some.inj h
    rw [exactSum_averaged hk] at hfits
    exact hs.averaged hk hfits
  | adjusted bandwidthBps average =>
    obtain rfl := Option.some.inj h
    exact hs.set _ hk rfl rfl
  | dropping bandwidthBps =>
    obtain rfl := Option.some.inj h
    apply hs.set .released hk rfl
    have hle : bandwidthBps ≤ s.exactSum := le_sum_map_of_getElem? RelayLoadGuard.share hk
    have hbandwidth := hs.bandwidth
    simp only [atomicSaturatingSub, RelayLoadGuard.share, RelayLoadGuard.bandwidthBps]
    omega
  | released =>
    obtain rfl := Option.some.inj h
    exact hs.released hk

/-- What one step preserves. -/
theorem Exact.step (hs : Exact capacity s) {i : LoadStep}
    (h : Guarded (RelayLoad.step capacity) (fits capacity) s i t) : Exact capacity t := by
  obtain ⟨hfits, hstep⟩ := h
  simp only [fits, hstep, Option.all_some, decide_eq_true_eq] at hfits
  cases i with
  | tryNew draining =>
    obtain rfl := Option.some.inj hstep
    exact hs.tryNew draining
  | update k sampleBps =>
    simp only [RelayLoad.step] at hstep
    split at hstep
    · rename_i hk
      obtain rfl := Option.some.inj hstep
      exact hs.set _ hk rfl rfl
    · cases hstep
  | drop k =>
    simp only [RelayLoad.step] at hstep
    split at hstep
    · rename_i hk
      obtain rfl := Option.some.inj hstep
      exact hs.set _ hk rfl rfl
    · cases hstep
  | advance k =>
    obtain ⟨guard, hk, hadvance⟩ := Option.bind_eq_some_iff.mp hstep
    exact hs.advance hk hfits hadvance

theorem Exact.not_saturates (hs : Exact capacity s) (k : Nat) : s.saturates k = false := by
  have hbandwidth := hs.bandwidth
  unfold saturates
  split
  · rename_i bandwidthBps average hk
    have hle : bandwidthBps ≤ s.exactSum := le_sum_map_of_getElem? RelayLoadGuard.share hk
    simp only [Bool.and_eq_false_iff, decide_eq_false_iff_not]
    omega
  · rename_i bandwidthBps hk
    have hle : bandwidthBps ≤ s.exactSum := le_sum_map_of_getElem? RelayLoadGuard.share hk
    simp only [decide_eq_false_iff_not]
    omega
  · rename_i hk
    have hpos : 0 < s.guards.countP RelayLoadGuard.live :=
      List.countP_pos_iff.mpr ⟨_, List.mem_of_getElem? hk, rfl⟩
    have hsessions := hs.sessions
    simp only [decide_eq_false_iff_not]
    omega
  · rfl

theorem share_of_not_updating {guard : RelayLoadGuard} (h : guard.updating = false) :
    guard.share = guard.bandwidthBps := by
  cases guard with
  | adjusted => cases h
  | _ => rfl

theorem Exact.quiet (hs : Exact capacity s) (h : ∀ guard ∈ s.guards, guard.updating = false) :
    s.activeRelayBandwidthBps = (s.guards.map RelayLoadGuard.bandwidthBps).sum := by
  rw [hs.bandwidth, exactSum]
  congr 1
  exact List.map_congr_left fun guard hguard => share_of_not_updating (h guard hguard)

theorem Exact.ended (hs : Exact capacity s) (h : ∀ guard ∈ s.guards, guard = .dropped) :
    s.activeRelaySessions = 0 ∧ s.activeRelayBandwidthBps = 0 := by
  constructor
  · rw [hs.sessions, List.countP_eq_zero]
    intro guard hguard
    rw [h guard hguard]
    decide
  · rw [hs.bandwidth, exactSum, List.sum_eq_zero_iff]
    intro share hshare
    obtain ⟨guard, hguard, rfl⟩ := List.mem_map.mp hshare
    rw [h guard hguard]
    rfl

/-- The totals count the guards and their bandwidth in every interleaving of their accesses, as long
as the exact sum of the bandwidths fits in a `usize`. -/
theorem accounting_exact
    (h : Reachable (Guarded (RelayLoad.step capacity) (fits capacity)) .init s) :
    s.activeRelaySessions = s.guards.countP RelayLoadGuard.live ∧
      s.activeRelaySessions ≤ max 1 capacity.toNat ∧
      ((∀ guard ∈ s.guards, guard.updating = false) →
        s.activeRelayBandwidthBps = (s.guards.map RelayLoadGuard.bandwidthBps).sum) ∧
      (∀ k, s.saturates k = false) ∧
      ((∀ guard ∈ s.guards, guard = .dropped) →
        s.activeRelaySessions = 0 ∧ s.activeRelayBandwidthBps = 0) := by
  have hs : Exact capacity s := h.invariant (exact_init capacity) fun _ _ _ hs hn => hs.step hn
  exact ⟨hs.sessions, hs.capacity, hs.quiet, hs.not_saturates, hs.ended⟩

/-- Two sessions; an average goes down while the other session ends. -/
def twoSessions : List LoadStep :=
  [.tryNew false, .tryNew false, .tryNew false, .update 0 4000, .update 1 800, .advance 1,
    .advance 0, .advance 0, .update 0 0, .advance 1, .drop 1, .advance 1, .advance 0, .advance 1]

def twoSessionsLoad : RelayLoad := ⟨1, 3000, [.adjusted 4000 3000, .dropped]⟩

theorem accounting_exact_two :
    twoSessionsLoad.activeRelaySessions = twoSessionsLoad.guards.countP RelayLoadGuard.live ∧
      twoSessionsLoad.activeRelaySessions ≤ max 1 (2 : UInt64).toNat ∧
      ((∀ guard ∈ twoSessionsLoad.guards, guard.updating = false) →
        twoSessionsLoad.activeRelayBandwidthBps =
          (twoSessionsLoad.guards.map RelayLoadGuard.bandwidthBps).sum) ∧
      (∀ k, twoSessionsLoad.saturates k = false) ∧
      ((∀ guard ∈ twoSessionsLoad.guards, guard = .dropped) →
        twoSessionsLoad.activeRelaySessions = 0 ∧ twoSessionsLoad.activeRelayBandwidthBps = 0) :=
  @accounting_exact 2 _ ⟨twoSessions, Run.of_exec (by decide)⟩

end RelayLoad

end Starry.Hbbr
