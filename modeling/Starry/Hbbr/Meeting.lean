import Starry.Hbbr.Pairing

/-!
# Two halves of one session

Two connections name the same uuid. Each looks for the other half in `PEERS` and, if there is none,
becomes a waiting half; these are two accesses. A run is watched here: when each task looked, whose
stream an entry of `PEERS` holds, and who relays with whom.
-/

open Library

namespace Starry.Hbbr

/-- How long a half waits, in milliseconds. -/
def pairingTimeout : Nat := 30000

structure Watched where
  state : State
  now : Nat
  /-- When a task looked its uuid up. -/
  looked : Nat → Option Nat
  /-- Since when a task sleeps. -/
  slept : Nat → Nat
  /-- Whose stream the entry of a uuid holds. -/
  offered : String → Option Nat
  /-- Whose stream a task took out. -/
  taken : Nat → Option Nat
  /-- The calls of `relay`: a task, and the one whose stream it has as its peer. -/
  relays : List (Nat × Option Nat)

def Watched.init : Watched :=
  ⟨.init, 0, fun _ => none, fun _ => 0, fun _ => none, fun _ => none, []⟩

/-- What is seen of an access by task `k`. -/
def Watched.note (w : Watched) (k time : Nat) (t : State) : Task → Watched
  | .received uuid =>
    { w with
      state := t
      now := time
      looked := Function.update w.looked k (some time)
      taken := match w.state.peers.get uuid with
        | some _ => Function.update w.taken k (w.offered uuid)
        | none => w.taken }
  | .paired =>
    { w with
      state := t
      now := time
      relays := if t.tasks[k]? = some .relaying then (k, w.taken k) :: w.relays else w.relays }
  | .numbered uuid _ =>
    { w with
      state := t
      now := time
      slept := Function.update w.slept k time
      offered := Function.update w.offered uuid (some k) }
  | _ => { w with state := t, now := time }

/-- The task is asleep. -/
def Watched.asleep (w : Watched) (k time : Nat) : Task → Bool
  | .waiting _ _ => time < w.slept k + pairingTimeout
  | _ => false

/-- An access at a time. -/
def watch (c : Settings) (w : Watched) (m : Nat × Move) : Option Watched :=
  if m.1 < w.now then none
  else match m.2 with
    | .request rf => (step c w.state (.request rf)).map fun t => { w with state := t, now := m.1 }
    | .act k draining => w.state.tasks[k]?.bind fun τ =>
      if w.asleep k m.1 τ then none
      else (act c w.state k draining τ).map fun t => w.note k m.1 t τ

/-! ## Two tasks of one uuid -/

section Setting

variable (c : Settings) (uuid : String) (i j : Nat)

def refused (rf : RequestRelay) : Bool :=
  !c.key.isEmpty && rf.licenceKey ≠ c.key || rf.uuid.isEmpty

/-- The tasks `i` and `j`, and no others, are for the uuid, and their key is valid. -/
def exactlyTwo (w : Watched) : Nat × Move → Bool
  | (_, .request rf) =>
    let mine := w.state.tasks.length == i || w.state.tasks.length == j
    (rf.uuid == uuid) == mine && (!mine || !refused c rf)
  | (_, .act _ _) => true

/-- Admission is open wherever one of the two asks. -/
def admissionOpen (w : Watched) : Nat × Move → Bool
  | (_, .act k draining) =>
    !(k == i || k == j) || match w.state.tasks[k]? with
      | some (.paired) | some (.absent _) =>
        !draining && decide (w.state.activeRelaySessions < c.capacity)
      | some (.available _) => decide (w.state.pendingRelayPairs < c.capacity)
      | _ => true
  | _ => true

/-- One looks less than 30 seconds after the other. -/
def inTime (w : Watched) : Nat × Move → Bool
  | (time, .act k _) =>
    !(k == i || k == j) || match w.state.tasks[k]? with
      | some (.received _) =>
        ((w.looked i).all fun t => decide (time < t + pairingTimeout)) &&
          (w.looked j).all fun t => decide (time < t + pairingTimeout)
      | _ => true
  | _ => true

def setting (w : Watched) (m : Nat × Move) : Bool :=
  exactlyTwo c uuid i j w m && admissionOpen c i j w m && inTime i j w m

/-- The task has found nothing, and is not in `PEERS` yet. -/
def Task.opening : Task → Bool
  | .absent _ | .available _ | .admitted _ | .numbered _ _ => true
  | _ => false

/-- Neither looks while the other is about to wait. -/
def apart (w : Watched) : Nat × Move → Bool
  | (_, .act k _) =>
    !(k == i || k == j) || match w.state.tasks[k]? with
      | some (.received _) =>
        !(w.state.tasks[i]?.any Task.opening) && !(w.state.tasks[j]?.any Task.opening)
      | _ => true
  | _ => true

end Setting

/-- The task is done with what it does at once: it sleeps, relays or has ended. -/
def Task.rests : Task → Bool
  | .waiting _ _ | .relaying | .expired | .finished => true
  | _ => false

def Watched.Rests (w : Watched) (k : Nat) : Prop := w.state.tasks[k]?.any Task.rests = true

/-- One of the two relays, or has relayed, with the other as its peer. -/
def Watched.Met (w : Watched) (i j : Nat) : Prop :=
  (i, some j) ∈ w.relays ∨ (j, some i) ∈ w.relays

/-! ## Stages -/

def Task.uuid? : Task → Option String
  | .received uuid | .absent uuid | .available uuid | .admitted uuid | .numbered uuid _
  | .inserted uuid _ | .waiting uuid _ => some uuid
  | .found | .paired | .relaying | .expired | .finished => none

/-- The task has not looked yet. -/
def Watched.Coming (w : Watched) (uuid : String) (k : Nat) : Prop :=
  w.state.tasks[k]? = none ∨ w.state.tasks[k]? = some (.received uuid)

/-- How far the two have come, if `a` is ahead of `b`. -/
inductive Meeting (uuid : String) (w : Watched) (a b : Nat) : Prop
  | fresh (ha : w.Coming uuid a) (hb : w.Coming uuid b) (hpeer : w.state.peers.get uuid = none)
  | opening (τ : Task) (t : Nat) (ha : w.state.tasks[a]? = some τ) (hopening : τ.opening = true)
      (huuid : τ.uuid? = some uuid) (hb : w.Coming uuid b)
      (hpeer : w.state.peers.get uuid = none) (hlooked : w.looked a = some t) (ht : t ≤ w.now)
  | offered (τ : Task) (g t : Nat) (ha : w.state.tasks[a]? = some τ)
      (hτ : τ = .inserted uuid g ∨ τ = .waiting uuid g) (hb : w.Coming uuid b)
      (hpeer : w.state.peers.get uuid = some ⟨g⟩) (hoffered : w.offered uuid = some a)
      (hlooked : w.looked a = some t) (ht : t ≤ w.slept a)
  | gone (τ : Task) (t : Nat) (ha : w.state.tasks[a]? = some τ)
      (hτ : τ = .expired ∨ τ = .finished) (hb : w.Coming uuid b)
      (hpeer : w.state.peers.get uuid = none) (hlooked : w.looked a = some t)
      (ht : t + pairingTimeout ≤ w.now)
  | met (σ τ : Task) (ha : w.state.tasks[a]? = some σ)
      (hσ : σ = .finished ∨ ∃ g, σ = .inserted uuid g ∨ σ = .waiting uuid g)
      (hb : w.state.tasks[b]? = some τ)
      (hτ : τ = .found ∨ τ = .paired ∨ (τ = .relaying ∨ τ = .finished) ∧ (b, some a) ∈ w.relays)
      (htaken : w.taken b = some a) (hpeer : w.state.peers.get uuid = none)

/-- A task that rests has looked. -/
theorem Watched.Coming.not_rests {w : Watched} {uuid : String} {k : Nat} (h : w.Coming uuid k) :
    ¬ w.Rests k := by
  unfold Watched.Rests
  rcases h with h | h <;> rw [h] <;> simp [Task.rests]

theorem Meeting.met_of_rests {uuid : String} {w : Watched} {a b : Nat} (h : Meeting uuid w a b)
    (hb : w.Rests b) : (b, some a) ∈ w.relays := by
  cases h with
  | fresh _ hcoming => exact absurd hb hcoming.not_rests
  | opening _ _ _ _ _ hcoming => exact absurd hb hcoming.not_rests
  | offered _ _ _ _ _ hcoming => exact absurd hb hcoming.not_rests
  | gone _ _ _ _ hcoming => exact absurd hb hcoming.not_rests
  | met σ τ _ _ hτb hτ =>
    unfold Watched.Rests at hb
    rw [hτb] at hb
    rcases hτ with rfl | rfl | ⟨-, hrelays⟩
    · cases hb
    · cases hb
    · exact hrelays

section Steps

variable {c : Settings} {uuid : String} {s t : State} {w w' : Watched} {k time : Nat}
  {draining : Bool} {τ : Task}

/-- What an access does to the tasks, and to entries of other uuids. -/
theorem act_spec (h : act c s k draining τ = some t) :
    ∃ τ', t.tasks = s.tasks.set k τ' ∧ (∀ u, τ'.uuid? = some u → τ.uuid? = some u) ∧
      ∀ u, τ.uuid? ≠ some u → t.peers.get u = s.peers.get u := by
  cases τ with
  | received v =>
    simp only [act] at h
    split at h
    · cases h
    · split at h <;> cases h
      · refine ⟨.found, rfl, by simp [Task.uuid?], fun u hu => ?_⟩
        have hne : u ≠ v := fun heq => hu (by rw [heq]; rfl)
        exact (Table.get_remove ..).trans (if_neg hne)
      · exact ⟨.absent v, rfl, by simp [Task.uuid?], fun _ _ => rfl⟩
  | numbered v g =>
    simp only [act] at h
    split at h
    · cases h
    · cases h
      refine ⟨_, rfl, fun u hu => ?_, fun u hu => ?_⟩
      · split at hu <;> exact hu
      · have hne : u ≠ v := fun heq => hu (by rw [heq]; rfl)
        exact (Table.get_insert ..).trans (if_neg hne)
  | waiting v g =>
    simp only [act] at h
    split at h
    · cases h
    · split at h
      · split at h <;> cases h
        · refine ⟨.expired, rfl, by simp [Task.uuid?], fun u hu => ?_⟩
          have hne : u ≠ v := fun heq => hu (by rw [heq]; rfl)
          exact (Table.get_remove ..).trans (if_neg hne)
        · exact ⟨.finished, rfl, by simp [Task.uuid?], fun _ _ => rfl⟩
      · cases h
        exact ⟨.finished, rfl, by simp [Task.uuid?], fun _ _ => rfl⟩
  | paired | absent v | available v =>
    simp only [act] at h
    split at h <;> cases h
    all_goals exact ⟨_, rfl, by simp [Task.uuid?], fun _ _ => rfl⟩
  | finished => cases h
  | found | relaying | admitted v | inserted v g | expired =>
    cases h
    exact ⟨_, rfl, by simp [Task.uuid?], fun _ _ => rfl⟩

@[simp] theorem note_state : (w.note k time t τ).state = t := by cases τ <;> rfl

@[simp] theorem note_now : (w.note k time t τ).now = time := by cases τ <;> rfl

theorem note_relays {x : Nat × Option Nat} (h : x ∈ w.relays) :
    x ∈ (w.note k time t τ).relays := by
  cases τ with
  | paired =>
    simp only [Watched.note]
    split
    · exact List.mem_cons_of_mem _ h
    · exact h
  | _ => exact h

/-- What a step leaves as it is for the task `a`. -/
structure Same (uuid : String) (w w' : Watched) (a : Nat) : Prop where
  task : ∀ τ, w.state.tasks[a]? = some τ → w'.state.tasks[a]? = some τ
  coming : w.Coming uuid a → w'.Coming uuid a
  looked : w'.looked a = w.looked a
  slept : w'.slept a = w.slept a
  taken : w'.taken a = w.taken a

/-- An access of a task leaves the other tasks alone. -/
theorem same_note {a : Nat} (uuid : String) (time : Nat) (hne : a ≠ k)
    (h : act c w.state k draining τ = some t) :
    Same uuid w (w.note k time t τ) a := by
  obtain ⟨τ', htasks, -, -⟩ := act_spec h
  have heq : (w.note k time t τ).state.tasks[a]? = w.state.tasks[a]? := by
    rw [note_state, htasks, List.getElem?_set_ne (Ne.symm hne)]
  have htask : ∀ σ, w.state.tasks[a]? = some σ →
      (w.note k time t τ).state.tasks[a]? = some σ := fun σ hσ => heq.trans hσ
  have hcoming : w.Coming uuid a → (w.note k time t τ).Coming uuid a := by
    unfold Watched.Coming
    rw [heq]
    exact id
  cases τ with
  | received v =>
    refine ⟨htask, hcoming, Function.update_of_ne hne .., rfl, ?_⟩
    simp only [Watched.note]
    cases w.state.peers.get v with
    | none => rfl
    | some peer => exact Function.update_of_ne hne ..
  | numbered v g => exact ⟨htask, hcoming, rfl, Function.update_of_ne hne .., rfl⟩
  | _ => exact ⟨htask, hcoming, rfl, rfl, rfl⟩

theorem Meeting.same {a b : Nat} (h : Meeting uuid w a b) (ha : Same uuid w w' a)
    (hb : Same uuid w w' b)
    (hpeers : w'.state.peers.get uuid = w.state.peers.get uuid)
    (hoffered : w'.offered uuid = w.offered uuid) (hrelays : ∀ x ∈ w.relays, x ∈ w'.relays)
    (hnow : w.now ≤ w'.now) : Meeting uuid w' a b := by
  cases h with
  | fresh h₁ h₂ hpeer => exact .fresh (ha.coming h₁) (hb.coming h₂) (hpeers.trans hpeer)
  | opening τ t h₁ hopening huuid h₂ hpeer hlooked ht =>
    exact .opening τ t (ha.task _ h₁) hopening huuid (hb.coming h₂) (hpeers.trans hpeer)
      (ha.looked.trans hlooked) (ht.trans hnow)
  | offered τ g t h₁ hτ h₂ hpeer hoff hlooked ht =>
    exact .offered τ g t (ha.task _ h₁) hτ (hb.coming h₂) (hpeers.trans hpeer)
      (hoffered.trans hoff) (ha.looked.trans hlooked) (by rw [ha.slept]; exact ht)
  | gone τ t h₁ hτ h₂ hpeer hlooked ht =>
    exact .gone τ t (ha.task _ h₁) hτ (hb.coming h₂) (hpeers.trans hpeer)
      (ha.looked.trans hlooked) (ht.trans hnow)
  | met σ τ h₁ hσ h₂ hτ htaken hpeer =>
    refine .met σ τ (ha.task _ h₁) hσ (hb.task _ h₂) ?_ (hb.taken.trans htaken)
      (hpeers.trans hpeer)
    exact hτ.imp_right fun h => h.imp_right fun h => ⟨h.1, hrelays _ h.2⟩

/-- A third task with another uuid. -/
theorem Meeting.other {a b : Nat} (h : Meeting uuid w a b) (hka : a ≠ k) (hkb : b ≠ k)
    (hact : act c w.state k draining τ = some t) (hτ : τ.uuid? ≠ some uuid)
    (htime : w.now ≤ time) : Meeting uuid (w.note k time t τ) a b := by
  obtain ⟨τ', -, -, hpeers⟩ := act_spec hact
  refine h.same (same_note uuid time hka hact) (same_note uuid time hkb hact) ?_ ?_ (fun _ => note_relays) ?_
  · rw [note_state]
    exact hpeers uuid hτ
  · cases τ with
    | numbered v g =>
      have hne : uuid ≠ v := fun heq => hτ (by rw [heq]; rfl)
      exact Function.update_of_ne hne ..
    | _ => rfl
  · rw [note_now]
    exact htime

/-! ## Steps of the two -/

section Two

variable {a b : Nat}

theorem Watched.Coming.act (h : w.Coming uuid k) (hτ : w.state.tasks[k]? = some τ) :
    τ = .received uuid := by
  rcases h with h | h <;> rw [hτ] at h <;> cases h
  rfl

theorem get_set_self {τ' : Task} (h : w.state.tasks[k]? = some τ)
    (ht : t.tasks = w.state.tasks.set k τ') : t.tasks[k]? = some τ' := by
  rw [ht]
  exact List.getElem?_set_self (List.getElem?_eq_some_iff.mp h).1

/-- The one that is ahead finds nothing, and goes on until it waits. -/
theorem Meeting.opens (h : w.Coming uuid a) (hb : w.Coming uuid b) (hne : b ≠ a)
    (hpeer : w.state.peers.get uuid = none) (hτ : w.state.tasks[a]? = some τ)
    (hact : act c w.state a draining τ = some t) :
    Meeting uuid (w.note a time t τ) a b := by
  have hsame := same_note uuid time hne hact
  cases h.act hτ
  simp only [Hbbr.act, hpeer] at hact
  split at hact
  · cases hact
  · cases hact
    refine .opening (.absent uuid) time ?_ rfl rfl (hsame.coming hb) hpeer ?_ (Nat.le_refl _)
    · exact get_set_self hτ rfl
    · exact Function.update_self ..

/-- Nobody is refused where admission is open. -/
def Admits (c : Settings) (s : State) (draining : Bool) : Task → Prop
  | .paired | .absent _ => draining = false ∧ s.activeRelaySessions < c.capacity
  | .available _ => s.pendingRelayPairs < c.capacity
  | _ => True

theorem Meeting.ahead (h : Meeting uuid w a b) (hne : b ≠ a) (hτ : w.state.tasks[a]? = some τ)
    (hact : act c w.state a draining τ = some t) (hopen : Admits c w.state draining τ)
    (hasleep : w.asleep a time τ = false) (htime : w.now ≤ time) :
    Meeting uuid (w.note a time t τ) a b := by
  have hsame := same_note uuid time hne hact
  cases h with
  | fresh ha hb hpeer => exact .opens ha hb hne hpeer hτ hact
  | opening σ u ha hopening huuid hb hpeer hlooked hu =>
    cases Option.some.inj (hτ.symm.trans ha)
    have hcoming := hsame.coming hb
    cases τ with
    | absent v =>
      cases huuid
      simp only [Hbbr.act] at hact
      rw [if_neg (by simpa using ⟨hopen.1, hopen.2⟩)] at hact
      cases hact
      exact .opening (.available _) u (get_set_self hτ rfl) rfl rfl hcoming hpeer hlooked
        (hu.trans htime)
    | available v =>
      cases huuid
      simp only [Hbbr.act] at hact
      rw [if_neg (Nat.not_le.mpr hopen)] at hact
      cases hact
      exact .opening (.admitted _) u (get_set_self hτ rfl) rfl rfl hcoming hpeer hlooked
        (hu.trans htime)
    | admitted v =>
      cases huuid
      cases hact
      exact .opening (.numbered _ _) u (get_set_self hτ rfl) rfl rfl hcoming hpeer hlooked
        (hu.trans htime)
    | numbered v g =>
      cases huuid
      simp only [Hbbr.act, hpeer] at hact
      split at hact
      · cases hact
      · cases hact
        refine .offered (.inserted _ g) g u (get_set_self hτ rfl) (.inl rfl) hcoming ?_ ?_ hlooked ?_
        · exact (Table.get_insert ..).trans (if_pos rfl)
        · exact Function.update_self ..
        · simp only [Watched.note, Function.update_self]
          exact hu.trans htime
    | _ => cases hopening
  | offered σ g u ha hσ hb hpeer hoffered hlooked hu =>
    cases Option.some.inj (hτ.symm.trans ha)
    have hcoming := hsame.coming hb
    rcases hσ with rfl | rfl
    · cases hact
      exact .offered (.waiting uuid g) g u (get_set_self hτ rfl) (.inr rfl) hcoming hpeer hoffered
        hlooked hu
    · -- Its sleep is over: the other one is too late.
      simp only [Hbbr.act, hpeer, if_true] at hact
      split at hact
      · cases hact
      · cases hact
        simp only [Watched.asleep, decide_eq_false_iff_not, not_lt] at hasleep
        refine .gone .expired u (get_set_self hτ rfl) (.inl rfl) hcoming ?_ hlooked ?_
        · exact (Table.get_remove ..).trans (if_pos rfl)
        · simp only [note_now]
          omega
  | gone σ u ha hσ hb hpeer hlooked hu =>
    cases Option.some.inj (hτ.symm.trans ha)
    rcases hσ with rfl | rfl <;> cases hact
    exact .gone .finished u (get_set_self hτ rfl) (.inr rfl) (hsame.coming hb) hpeer hlooked
      (hu.trans htime)
  | met σ τ' ha hσ hb hτ' htaken hpeer =>
    cases Option.some.inj (hτ.symm.trans ha)
    have hother := hsame.task _ hb
    have hrelays : τ' = .found ∨ τ' = .paired ∨
        (τ' = .relaying ∨ τ' = .finished) ∧ (b, some a) ∈ (w.note a time t τ).relays :=
      hτ'.imp_right fun h => h.imp_right fun h => ⟨h.1, note_relays h.2⟩
    rcases hσ with rfl | ⟨g, rfl | rfl⟩
    · cases hact
    · cases hact
      exact .met (.waiting uuid g) τ' (get_set_self hτ rfl) (.inr ⟨g, .inr rfl⟩) hother hrelays
        htaken hpeer
    · simp only [Hbbr.act, hpeer] at hact
      split at hact
      · cases hact
      · cases hact
        exact .met .finished τ' (get_set_self hτ rfl) (.inl rfl) hother hrelays htaken hpeer

/-- The one behind finds the half of the other, unless the two overlap or it comes too late. -/
theorem Meeting.behind (h : Meeting uuid w a b) (hne : a ≠ b) (hτ : w.state.tasks[b]? = some τ)
    (hact : act c w.state b draining τ = some t) (hopen : Admits c w.state draining τ)
    (hapart : τ = .received uuid → ¬ w.state.tasks[a]?.any Task.opening = true)
    (hintime : τ = .received uuid → ∀ u, w.looked a = some u → time < u + pairingTimeout)
    (htime : w.now ≤ time) :
    Meeting uuid (w.note b time t τ) a b ∨ Meeting uuid (w.note b time t τ) b a := by
  have hsame := same_note uuid time hne hact
  cases h with
  | fresh ha hb hpeer => exact .inr (.opens hb ha hne hpeer hτ hact)
  | opening σ u ha hopening huuid hb =>
    have hnot := hapart (hb.act hτ)
    rw [ha] at hnot
    exact absurd hopening hnot
  | offered σ g u ha hσ hb hpeer hoffered hlooked hu =>
    left
    cases hb.act hτ
    simp only [Hbbr.act, hpeer] at hact
    split at hact
    · cases hact
    · cases hact
      refine .met σ .found (hsame.task _ ha) (.inr ⟨g, hσ⟩) (get_set_self hτ rfl) (.inl rfl) ?_
        ?_
      · simp only [Watched.note, hpeer, Function.update_self]
        exact hoffered
      · exact (Table.get_remove ..).trans (if_pos rfl)
  | gone σ u ha hσ hb hpeer hlooked hu =>
    have hlate := hintime (hb.act hτ) u hlooked
    omega
  | met σ τ' ha hσ hb hτ' htaken hpeer =>
    left
    cases Option.some.inj (hτ.symm.trans hb)
    have hahead := hsame.task _ ha
    rcases hτ' with rfl | rfl | ⟨rfl | rfl, hrelays⟩
    · cases hact
      exact .met σ .paired hahead hσ (get_set_self hτ rfl) (.inr (.inl rfl)) htaken hpeer
    · simp only [Hbbr.act] at hact
      rw [if_neg (by simpa using ⟨hopen.1, hopen.2⟩)] at hact
      cases hact
      have hnext : (w.state.goto b .relaying).tasks[b]? = some .relaying := get_set_self hτ rfl
      refine .met σ .relaying hahead hσ hnext (.inr (.inr ⟨.inl rfl, ?_⟩)) htaken hpeer
      simp only [Watched.note]
      rw [if_pos hnext, htaken]
      exact List.mem_cons_self
    · cases hact
      exact .met σ .finished hahead hσ (get_set_self hτ rfl) (.inr (.inr ⟨.inr rfl, hrelays⟩)) htaken
        hpeer
    · cases hact

end Two

/-! ## Runs -/

/-- The two are at some stage, and no other task has their uuid. -/
structure Paired (uuid : String) (i j : Nat) (w : Watched) : Prop where
  meeting : Meeting uuid w i j ∨ Meeting uuid w j i
  others : ∀ k τ, k ≠ i → k ≠ j → w.state.tasks[k]? = some τ → τ.uuid? ≠ some uuid

variable {i j : Nat}

theorem Paired.init (uuid : String) (i j : Nat) : Paired uuid i j .init := by
  refine ⟨.inl (.fresh (.inl ?_) (.inl ?_) ?_), fun k τ _ _ h => ?_⟩
  · rfl
  · rfl
  · simp [Watched.init, State.init]
  · simp [Watched.init, State.init] at h

/-- A new connection. -/
theorem Paired.request {rf : RequestRelay} (h : Paired uuid i j w) (htime : w.now ≤ time)
    (hs : step c w.state (.request rf) = some t)
    (hok : exactlyTwo c uuid i j w (time, .request rf) = true) :
    Paired uuid i j { w with state := t, now := time } := by
  simp only [exactlyTwo, Bool.and_eq_true, beq_iff_eq, Bool.or_eq_true, Bool.not_eq_true'] at hok
  obtain ⟨huuid, hvalid⟩ := hok
  cases hs
  change Paired uuid i j { w with
    state := { w.state with
      tasks := w.state.tasks ++ [if refused c rf then .finished else .received rf.uuid] }
    now := time }
  generalize hnew : (if refused c rf then Task.finished else .received rf.uuid) = new
  have hold : ∀ (a : Nat) τ, w.state.tasks[a]? = some τ → (w.state.tasks ++ [new])[a]? = some τ := by
    intro a τ hτ
    rw [List.getElem?_append_left (List.getElem?_eq_some_iff.mp hτ).1, hτ]
  have hadded : ∀ (a : Nat) τ, (w.state.tasks ++ [new])[a]? = some τ →
      w.state.tasks[a]? = some τ ∨ a = w.state.tasks.length ∧ τ = new := by
    intro a τ hτ
    rw [List.getElem?_append] at hτ
    split at hτ
    · exact .inl hτ
    · rw [List.getElem?_singleton] at hτ
      split at hτ
      · cases hτ
        exact .inr ⟨by omega, rfl⟩
      · cases hτ
  have hmine : ∀ a, a = i ∨ a = j → a = w.state.tasks.length → new = .received uuid := by
    intro a ha hlen
    have hmine : (w.state.tasks.length == i || w.state.tasks.length == j) = true := by
      rcases ha with rfl | rfl <;> simp [hlen]
    rw [hmine] at huuid hvalid
    rw [← hnew, if_neg (by simpa using hvalid), beq_iff_eq.mp huuid]
  have hsame : ∀ a, a = i ∨ a = j → Same uuid w { w with
      state := { w.state with tasks := w.state.tasks ++ [new] }
      now := time } a := by
    intro a ha
    refine ⟨hold a, fun hcoming => ?_, rfl, rfl, rfl⟩
    rcases hcoming with hnone | hsome
    · unfold Watched.Coming
      cases hτ : (w.state.tasks ++ [new])[a]? with
      | none => exact .inl rfl
      | some τ =>
        rcases hadded a τ hτ with h | ⟨hlen, rfl⟩
        · rw [hnone] at h
          cases h
        · exact .inr (congrArg some (hmine a ha hlen))
    · exact .inr (hold a _ hsome)
  refine ⟨?_, fun k τ hki hkj hτ => ?_⟩
  · refine h.meeting.imp (fun h => ?_) fun h => ?_
    · exact h.same (hsame i (.inl rfl)) (hsame j (.inr rfl)) rfl rfl (fun _ => id) htime
    · exact h.same (hsame j (.inr rfl)) (hsame i (.inl rfl)) rfl rfl (fun _ => id) htime
  · rcases hadded k τ hτ with h' | ⟨hlen, rfl⟩
    · exact h.others k τ hki hkj h'
    · have hnot : (w.state.tasks.length == i || w.state.tasks.length == j) = false := by
        simp only [Bool.or_eq_false_iff, beq_eq_false_iff_ne]
        exact ⟨fun h => hki (hlen.trans h), fun h => hkj (hlen.trans h)⟩
      rw [hnot, beq_eq_false_iff_ne] at huuid
      rw [← hnew]
      split
      · simp [Task.uuid?]
      · simpa [Task.uuid?] using huuid

/-- What the setting says of an access by one of the two. -/
theorem admits_of_setting (hk : k = i ∨ k = j) (hτ : w.state.tasks[k]? = some τ)
    (hok : setting c uuid i j w (time, .act k draining) = true) :
    Admits c w.state draining τ ∧ (τ = .received uuid → ∀ a, a = i ∨ a = j →
      ∀ u, w.looked a = some u → time < u + pairingTimeout) := by
  have hmine : (k == i || k == j) = true := by
    rcases hk with rfl | rfl <;> simp
  simp only [setting, exactlyTwo, admissionOpen, inTime, hmine, hτ, Bool.true_and, Bool.not_true,
    Bool.false_or, Bool.and_eq_true] at hok
  obtain ⟨hopen, hin⟩ := hok
  constructor
  · cases τ with
    | paired | absent v =>
      simp only [Bool.and_eq_true, Bool.not_eq_true', decide_eq_true_eq] at hopen
      exact hopen
    | available v =>
      change w.state.pendingRelayPairs < c.capacity
      exact of_decide_eq_true hopen
    | _ => exact trivial
  · rintro rfl a ha u hu
    simp only [Bool.and_eq_true] at hin
    rcases ha with rfl | rfl
    · have h := hin.1
      rw [hu] at h
      exact of_decide_eq_true h
    · have h := hin.2
      rw [hu] at h
      exact of_decide_eq_true h

theorem apart_of_guard (uuid : String) (hk : k = i ∨ k = j) (hτ : w.state.tasks[k]? = some τ)
    (hok : apart i j w (time, .act k draining) = true) (hreceived : τ = .received uuid) :
    ∀ a, a = i ∨ a = j → ¬ w.state.tasks[a]?.any Task.opening = true := by
  have hmine : (k == i || k == j) = true := by
    rcases hk with rfl | rfl <;> simp
  subst hreceived
  simp only [apart, hmine, hτ, Bool.not_true, Bool.false_or, Bool.and_eq_true,
    Bool.not_eq_true'] at hok
  rintro a (rfl | rfl)
  · rw [hok.1]
    simp
  · rw [hok.2]
    simp

theorem Paired.step {m : Nat × Move} (hij : i ≠ j) (h : Paired uuid i j w)
    (hok : (setting c uuid i j w m && apart i j w m) = true) (hw : watch c w m = some w') :
    Paired uuid i j w' := by
  obtain ⟨time, m⟩ := m
  rw [Bool.and_eq_true] at hok
  unfold watch at hw
  split at hw
  · cases hw
  · rename_i hnot
    have htime : w.now ≤ time := Nat.not_lt.mp hnot
    cases m with
    | request rf =>
      obtain ⟨t, hs, rfl⟩ := Option.map_eq_some_iff.mp hw
      refine h.request htime hs ?_
      have hsetting := hok.1
      simp only [setting, Bool.and_eq_true] at hsetting
      exact hsetting.1.1
    | act k draining =>
      obtain ⟨τ, hτ, hw⟩ := Option.bind_eq_some_iff.mp hw
      split at hw
      · cases hw
      · rename_i hasleep
        rw [Bool.not_eq_true] at hasleep
        obtain ⟨t, hact, rfl⟩ := Option.map_eq_some_iff.mp hw
        obtain ⟨τ', htasks, huuid, -⟩ := act_spec hact
        refine ⟨?_, fun a σ hai haj hσ => ?_⟩
        · by_cases hk : k = i ∨ k = j
          · obtain ⟨hopen, hintime⟩ := admits_of_setting hk hτ hok.1
            have hapart := apart_of_guard uuid hk hτ hok.2
            have hboth : ∀ a b, (a = i ∨ a = j) → k = b → a ≠ b → Meeting uuid w a b →
                Meeting uuid (w.note k time t τ) a b ∨ Meeting uuid (w.note k time t τ) b a := by
              rintro a b ha rfl hne hm
              exact hm.behind hne hτ hact hopen (fun hr => hapart hr a ha)
                (fun hr => hintime hr a ha) htime
            rcases h.meeting with hm | hm <;> rcases hk with rfl | rfl
            · exact .inl (hm.ahead hij.symm hτ hact hopen hasleep htime)
            · exact hboth i k (.inl rfl) rfl hij hm
            · exact (hboth j k (.inr rfl) rfl hij.symm hm).symm
            · exact .inr (hm.ahead hij hτ hact hopen hasleep htime)
          · rw [not_or] at hk
            have hother := h.others k τ hk.1 hk.2 hτ
            exact h.meeting.imp
              (fun hm => hm.other (Ne.symm hk.1) (Ne.symm hk.2) hact hother htime)
              fun hm => hm.other (Ne.symm hk.2) (Ne.symm hk.1) hact hother htime
        · rw [note_state, htasks, List.getElem?_set] at hσ
          split at hσ
          · rename_i heq
            subst heq
            split at hσ
            · cases hσ
              exact fun hu => h.others k τ hai haj hτ (huuid uuid hu)
            · cases hσ
          · exact h.others a σ hai haj hσ

/-- Unless one looks while the other is about to wait, the two meet. -/
theorem halves_meet (c : Settings) (uuid : String) (i j : Nat) (hij : i ≠ j) (w : Watched)
    (h : Reachable (Guarded (watch c) fun w m => setting c uuid i j w m && apart i j w m) .init w)
    (hi : w.Rests i) (hj : w.Rests j) : w.Met i j := by
  have hpaired : Paired uuid i j w :=
    h.invariant (.init uuid i j) fun w m w' hp hn => hp.step hij hn.1 hn.2
  rcases hpaired.meeting with hm | hm
  · exact .inr (hm.met_of_rests hj)
  · exact .inl (hm.met_of_rests hi)

end Steps

/-! ## Concrete runs -/

/-- Two tasks, the second of which comes while the first waits. -/
def oneAfterAnother : List (Nat × Move) :=
  firstHalf.map (fun m => (0, m)) ++
    [(1000, .request sampleRequest), (1000, .act 1 false), (1000, .act 1 false),
      (1000, .act 1 false)]

def afterOneAfterAnother : Option Watched :=
  exec (watch openSettings)
    (fun w m => setting openSettings "u-1" 0 1 w m && apart 0 1 w m) .init oneAfterAnother

theorem halves_meet_second : ∃ w, afterOneAfterAnother = some w ∧ w.Met 0 1 := by
  have hrests : (afterOneAfterAnother.map fun w => (w.state.tasks[0]?.any Task.rests,
      w.state.tasks[1]?.any Task.rests)) = some (true, true) := by rfl
  obtain ⟨w, hw, hrests⟩ := Option.map_eq_some_iff.mp hrests
  exact ⟨w, hw, halves_meet openSettings "u-1" 0 1 (by decide) w ⟨_, .of_exec hw⟩
    (Prod.mk.inj hrests).1 (Prod.mk.inj hrests).2⟩

/-- Both look before either waits. -/
def bothLook : List (Nat × Move) :=
  let moves : List Move :=
    [.request sampleRequest, .request sampleRequest, .act 0 false, .act 1 false] ++
      List.replicate 5 (.act 0 false) ++ List.replicate 4 (.act 1 false)
  moves.map fun m => (0, m)

def afterBothLook : Option Watched :=
  exec (watch openSettings) (setting openSettings "u-1" 0 1) .init bothLook

/-- Both wait, each of them alone. -/
theorem halves_miss : ¬ ∀ w : Watched,
    Reachable (Guarded (watch openSettings) (setting openSettings "u-1" 0 1)) .init w →
    w.Rests 0 → w.Rests 1 → w.Met 0 1 := by
  intro hall
  have hrun : (afterBothLook.map fun w => (w.state.tasks[0]?.any Task.rests,
      w.state.tasks[1]?.any Task.rests, w.relays)) = some (true, true, []) := by rfl
  obtain ⟨w, hw, hrun⟩ := Option.map_eq_some_iff.mp hrun
  simp only [Prod.mk.injEq] at hrun
  have hmet := hall w ⟨_, .of_exec hw⟩ hrun.1 hrun.2.1
  unfold Watched.Met at hmet
  rw [hrun.2.2] at hmet
  simp at hmet

end Starry.Hbbr
