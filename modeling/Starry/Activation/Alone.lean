import Starry.Activation.WellFormed
import Starry.Library.Run

/-!
# Calls that run alone

What a call does if no other one comes between its sections.
-/

open Library

namespace Starry.Activation

/-- The sections of a call that runs alone, up to its claim or its end. -/
def Phase.alone (sha256 : Bytes → Bytes) (now : Instant) (random : RandomLease) :
    Nat → Registry → Phase → Registry × (Phase ⊕ Outcome)
  | 0, r, φ => (r, .inl φ)
  | n + 1, r, φ => match φ.advance sha256 r now random with
    | none => (r, .inl φ)
    | some (r, .inr o) => (r, .inr o)
    | some (r, .inl φ) => φ.alone sha256 now random n r

/-- A call that passed its first check and has its mutex. -/
def Registry.begin (sha256 : Bytes → Bytes) (now : Instant) (random : RandomLease) (r : Registry)
    (c : Call) : Registry × (Phase ⊕ Outcome) :=
  match c.refusal with
  | some o => (r, .inr o)
  | none => (Phase.entered c).alone sha256 now random 7 r

/-! ## A call alone -/

section

variable {sha256 : Bytes → Bytes} {now : Instant} {random : RandomLease} {r r' : Registry}
  {φ φ' : Phase} {o : Outcome} {P : Registry → Phase → Prop}

theorem Phase.alone_claim {n : Nat}
    (hP : ∀ r φ φ' r', P r φ → Moves r now random φ φ' r' → P r' φ') (h : P r φ)
    (hrun : φ.alone sha256 now random n r = (r', .inl φ')) : P r' φ' := by
  induction n generalizing r φ with
  | zero =>
    cases hrun
    exact h
  | succ n ih =>
    rw [Phase.alone] at hrun
    split at hrun
    · cases hrun
      exact h
    · cases hrun
    · rename_i r₁ φ₁ hadvance
      exact ih (hP _ _ _ _ h (advance_moves hadvance)) hrun

theorem Phase.alone_end {n : Nat}
    (hP : ∀ r φ φ' r', P r φ → Moves r now random φ φ' r' → P r' φ') (h : P r φ)
    (hrun : φ.alone sha256 now random n r = (r', .inr o)) :
    ∃ r₁ φ₁, P r₁ φ₁ ∧ Ends r₁ now φ₁ o r' := by
  induction n generalizing r φ with
  | zero => cases hrun
  | succ n ih =>
    rw [Phase.alone] at hrun
    split at hrun
    · cases hrun
    · rename_i r₁ o₁ hadvance
      cases hrun
      exact ⟨r, φ, h, advance_ends hadvance⟩
    · rename_i r₁ φ₁ hadvance
      exact ih (hP _ _ _ _ h (advance_moves hadvance)) hrun

/-- How many sections a call has before it, at most. -/
def Phase.left : Phase → Nat
  | .entered _ => 7
  | .maintained .. => 6
  | .expired .. => 5
  | .unleased .. => 4
  | .admitted .. => 3
  | .remembered .. => 2
  | .counted .. => 1
  | .activation _ | .renewal _ | .deactivation _ => 0

theorem Moves.left (h : Moves r now random φ φ' r') : φ'.left < φ.left := by
  cases h <;> simp [Phase.left]

/-- Seven sections are enough for every call. -/
theorem Phase.alone_left {n : Nat} (hn : φ.left ≤ n)
    (hrun : φ.alone sha256 now random n r = (r', .inl φ')) :
    φ'.advance sha256 r' now random = none := by
  induction n generalizing r φ with
  | zero =>
    cases hrun
    cases φ' <;> first | rfl | simp [Phase.left] at hn
  | succ n ih =>
    rw [Phase.alone] at hrun
    split at hrun
    · rename_i hadvance
      cases hrun
      exact hadvance
    · cases hrun
    · rename_i r₁ φ₁ hadvance
      have hlt := (advance_moves hadvance).left
      exact ih (by omega) hrun

/-- So a call that runs alone stops where it has its claim. -/
theorem begin_stops {c : Call} (h : r.begin sha256 now random c = (r', .inl φ')) :
    φ'.advance sha256 r' now random = none := by
  unfold Registry.begin at h
  split at h
  · cases h
  · exact Phase.alone_left (Nat.le_refl 7) h

/-- What it does is a run of its task, in a system where no other task moves. -/
theorem alone_run {s : System} {k n : Nat} {m : LockId} {next : Phase ⊕ Outcome}
    (hk : s.tasks[k]? = some (.holding m φ))
    (hrun : φ.alone sha256 now random n s.registry = (r', next)) :
    ∃ ls t, Run (Steps (System.step sha256)) s ls t ∧ t.registry = r' ∧
      (∀ l ∈ ls, l = .proceed k now random) ∧
      t.tasks[k]? = some (next.elim (.holding m) .finished) := by
  induction n generalizing s φ with
  | zero =>
    cases hrun
    exact ⟨[], s, .nil s, rfl, nofun, hk⟩
  | succ n ih =>
    have hlt := (List.getElem?_eq_some_iff.mp hk).1
    rw [Phase.alone] at hrun
    split at hrun
    · cases hrun
      exact ⟨[], s, .nil s, rfl, nofun, hk⟩
    · rename_i r₁ o hadvance
      cases hrun
      let t : System := { s.update r' k (.finished o) with drawn := s.draw (.inr o) }
      have hstep : s.step sha256 (.proceed k now random) = some t := by
        simp only [System.step, hk, hadvance]
        rfl
      exact ⟨_, t, .single ⟨rfl, hstep⟩, rfl, by simp, List.getElem?_set_self hlt⟩
    · rename_i r₁ φ₁ hadvance
      let t : System := { s.update r₁ k (.holding m φ₁) with drawn := s.draw (.inl φ₁) }
      have hstep : s.step sha256 (.proceed k now random) = some t := by
        simp only [System.step, hk, hadvance]
        rfl
      obtain ⟨ls, u, hrun, hr, hls, htask⟩ :=
        ih (s := t) (List.getElem?_set_self hlt) hrun
      refine ⟨.proceed k now random :: ls, u, (Run.single ⟨rfl, hstep⟩).append hrun, hr, ?_, htask⟩
      simpa using hls

/-- The record of a registration's first sections. -/
def Registry.leasesAt (r : Registry) (p : String) (now : Instant) : Table String LeaseRecord :=
  ((r.maintain now).expireRoute p now).leases

/-- What a registration has read after its first sections, from the registry `r₀` that it began
with. -/
def Phase.Reads (r₀ : Registry) (now : Instant) (p : String) (r : Registry) : Phase → Prop
  | .expired (.registration q) _ =>
    q.peerId = p ∧ r.leases = r₀.leasesAt p now ∧ r.v2Peers = r₀.v2Peers ∧
      r.nextGeneration = r₀.nextGeneration
  | .unleased q _ route _ | .admitted q route _ =>
    q.peerId = p ∧ r.leases = r₀.leasesAt p now ∧ r.v2Peers = r₀.v2Peers ∧
      r.nextGeneration = r₀.nextGeneration ∧ route = (r.leases.get p).bind LeaseRecord.route
  | .remembered q route _ | .counted q route _ =>
    q.peerId = p ∧ r.leases = r₀.leasesAt p now ∧ r₀.v2Peers ⊆ r.v2Peers ∧
      r.nextGeneration = r₀.nextGeneration ∧ route = (r.leases.get p).bind LeaseRecord.route ∧
      p ∈ r.v2Peers
  | .activation c =>
    c.peerId = p ∧ r.leases = r₀.leasesAt p now ∧ r₀.v2Peers ⊆ r.v2Peers ∧
      (c.tracked = false → p ∉ r₀.v2Peers) ∧
      (c.tracked = true → c.previousRoute = (r.leases.get p).bind LeaseRecord.route ∧
        (p ∈ r.v2Peers ∨ ∃ l, r.leases.get p = some l) ∧
        (c.generation = r₀.nextGeneration ∨
          ∃ l, r.leases.get p = some l ∧ c.generation = l.generation))
  | _ => False

theorem Phase.Reads.step {r₀ : Registry} {p : String} (h : φ.Reads r₀ now p r)
    (hm : Moves r now random φ φ' r') : φ'.Reads r₀ now p r' := by
  cases hm with
  | maintained | expired | expiredRegistration => cases h
  | legacy q t hv =>
    obtain ⟨rfl, hleases, hpeers, -⟩ := h
    refine ⟨rfl, hleases, hpeers.ge, fun _ => ?_, fun h => absurd h Bool.false_ne_true⟩
    rw [← hpeers]
    exact hv
  | reuse q t current b hlookup =>
    obtain ⟨rfl, hleases, hpeers, -⟩ := h
    have hcurrent := (lookupRegistration_reuse hlookup).1
    refine ⟨rfl, hleases, hpeers.ge, fun h => absurd h.symm Bool.false_ne_true,
      fun _ => ⟨?_, .inr ⟨current, hcurrent⟩, .inr ⟨current, hcurrent, rfl⟩⟩⟩
    simp only [hcurrent]
    rfl
  | unleased q t route existing hlookup =>
    obtain ⟨rfl, hleases, hpeers, hgeneration⟩ := h
    refine ⟨rfl, hleases, hpeers, hgeneration, ?_⟩
    cases hget : r.leases.get q.peerId with
    | none =>
      rw [hget] at hlookup
      cases hlookup
      rfl
    | some current =>
      rw [hget] at hlookup
      simp only [Registry.lookupRegistration] at hlookup
      split_ifs at hlookup <;> cases hlookup <;> rfl
  | admitted q t route existing b => exact h
  | remembered q route existing hroom =>
    obtain ⟨rfl, hleases, hpeers, hgeneration, hroute⟩ := h
    refine ⟨rfl, hleases, ?_, hgeneration, hroute, Finset.mem_insert_self ..⟩
    rw [← hpeers]
    exact Finset.subset_insert ..
  | counted q route => exact h
  | fresh q route | reserved q route =>
    obtain ⟨rfl, hleases, hpeers, hgeneration, hroute, hmem⟩ := h
    exact ⟨rfl, hleases, hpeers, fun h => absurd h.symm Bool.false_ne_true,
      fun _ => ⟨hroute, .inl hmem, .inl hgeneration⟩⟩
  | renewal | deactivation => cases h

/-- Whatever it has read, it has only let records expire. -/
theorem Phase.Reads.leases {r₀ : Registry} {p : String} (h : φ.Reads r₀ now p r) :
    r.leases = r₀.leasesAt p now ∧ r₀.v2Peers ⊆ r.v2Peers := by
  cases φ with
  | expired call t =>
    cases call with
    | registration q => exact ⟨h.2.1, h.2.2.1.ge⟩
    | _ => cases h
  | unleased q t route existing | admitted q route existing => exact ⟨h.2.1, h.2.2.1.ge⟩
  | remembered q route existing | counted q route active => exact ⟨h.2.1, h.2.2.1⟩
  | activation c => exact ⟨h.2.1, h.2.2.1⟩
  | entered | maintained | renewal | deactivation => cases h

theorem Phase.Reads.ends {r₀ : Registry} {p : String} (h : φ.Reads r₀ now p r)
    (he : Ends r now φ o r') : r'.leases = r.leases ∧ r'.v2Peers = r.v2Peers := by
  cases he with
  | touched | disconnected => cases h
  | _ => exact ⟨rfl, rfl⟩

theorem maintain_rest (r : Registry) (now : Instant) : (r.maintain now).v2Peers = r.v2Peers ∧
    (r.maintain now).nextGeneration = r.nextGeneration := by
  unfold Registry.maintain
  dsimp only
  split <;> exact ⟨rfl, rfl⟩

/-- A registration that runs alone lets records expire, or was refused at once. If it ends with a
claim, it has read all that the claim says. -/
theorem begin_registration {q : RegistrationRequest} {next : Phase ⊕ Outcome}
    (h : r.begin sha256 now random (.registration q) = (r', next)) :
    (r'.leases = r.leases ∨ r'.leases = r.leasesAt q.peerId now) ∧ r.v2Peers ⊆ r'.v2Peers ∧
      ∀ c, next = .inl (.activation c) → (Phase.activation c).Reads r now q.peerId r' := by
  unfold Registry.begin at h
  split at h
  · cases h
    exact ⟨.inl rfl, Finset.Subset.refl _, nofun⟩
  · have hstart : (Phase.expired (.registration q) now).Reads r now q.peerId
        ((r.maintain now).expireRoute q.peerId now) := ⟨rfl, rfl, maintain_rest r now⟩
    have halone : (Phase.expired (.registration q) now).alone sha256 now random 5
        ((r.maintain now).expireRoute q.peerId now) = (r', next) := h
    cases next with
    | inl φ =>
      have hreads : φ.Reads r now q.peerId r' :=
        Phase.alone_claim (P := fun r' φ => φ.Reads r now q.peerId r')
          (fun _ _ _ _ hr hm => hr.step hm) hstart halone
      refine ⟨.inr hreads.leases.1, hreads.leases.2, fun c hc => ?_⟩
      cases hc
      exact hreads
    | inr o =>
      obtain ⟨r₁, φ₁, hreads, hends⟩ := Phase.alone_end (P := fun r' φ => φ.Reads r now q.peerId r')
        (fun _ _ _ _ hr hm => hr.step hm) hstart halone
      obtain ⟨hleases, hpeers⟩ := hreads.ends hends
      refine ⟨.inr (hleases.trans hreads.leases.1), ?_, nofun⟩
      rw [hpeers]
      exact hreads.leases.2

/-- Without an activation id, a registration gets no tracked claim. -/
theorem begin_legacy {q : RegistrationRequest} {c : ActivationClaim} (hq : q.activationId = [])
    (h : r.begin sha256 now random (.registration q) = (r', .inl (.activation c))) :
    c.tracked = false := by
  unfold Registry.begin at h
  split at h
  · cases h
  · have halone : (Phase.expired (.registration q) now).alone sha256 now random 5
        ((r.maintain now).expireRoute q.peerId now) = (r', .inl (.activation c)) := h
    by_cases hv : q.peerId ∈ ((r.maintain now).expireRoute q.peerId now).v2Peers
    · simp only [Phase.alone, Phase.advance, readRegistration, hq, List.isEmpty_nil, if_true,
        if_pos hv] at halone
      cases halone
    · simp only [Phase.alone, Phase.advance, readRegistration, hq, List.isEmpty_nil, if_true,
        if_neg hv] at halone
      cases halone
      rfl

/-- A renewal that runs alone lets its record expire, and claims what it then finds. -/
theorem begin_renewal {q : RenewalRequest} {next : Phase ⊕ Outcome}
    (h : r.begin sha256 now random (.renewal q) = (r', next)) :
    (r' = r ∨ r' = r.expireRoute q.peerId now) ∧
      ∀ c, next = .inl (.renewal c) → r' = r.expireRoute q.peerId now ∧ c.peerId = q.peerId ∧
        Registry.lookupRenewal (r'.leases.get q.peerId) q =
          some (c.generation, c.previousRoute, c.tracked) := by
  unfold Registry.begin at h
  split at h
  · cases h
    exact ⟨.inl rfl, fun c hc => by cases hc⟩
  · have halone : (Phase.expired (.renewal q) now).alone sha256 now random 6
        (r.expireRoute q.peerId now) = (r', next) := h
    cases hlookup : Registry.lookupRenewal ((r.expireRoute q.peerId now).leases.get q.peerId) q with
    | none =>
      simp only [Phase.alone, Phase.advance, hlookup] at halone
      cases halone
      exact ⟨.inr rfl, fun c hc => by cases hc⟩
    | some found =>
      simp only [Phase.alone, Phase.advance, hlookup] at halone
      cases halone
      refine ⟨.inr rfl, fun c hc => ?_⟩
      cases hc
      exact ⟨rfl, rfl, hlookup⟩

theorem begin_deactivation {q : DeactivationRequest} {next : Phase ⊕ Outcome}
    (h : r.begin sha256 now random (.deactivation q) = (r', next)) :
    (r' = r ∨ r' = r.expireRoute q.peerId now) ∧
      ∀ c, next = .inl (.deactivation c) → c.peerId = q.peerId ∧
        ∃ lease, r'.leases.get q.peerId = some lease ∧ lease.route = some c.route := by
  unfold Registry.begin at h
  split at h
  · cases h
    exact ⟨.inl rfl, fun c hc => by cases hc⟩
  · have halone : (Phase.expired (.deactivation q) now).alone sha256 now random 6
        (r.expireRoute q.peerId now) = (r', next) := h
    cases hlookup :
      Registry.lookupDeactivation ((r.expireRoute q.peerId now).leases.get q.peerId) q with
    | none =>
      simp only [Phase.alone, Phase.advance, hlookup] at halone
      cases halone
      exact ⟨.inr rfl, fun c hc => by cases hc⟩
    | some found =>
      simp only [Phase.alone, Phase.advance, hlookup] at halone
      cases halone
      refine ⟨.inr rfl, fun c hc => ?_⟩
      cases hc
      refine ⟨rfl, ?_⟩
      unfold Registry.lookupDeactivation at hlookup
      split at hlookup
      · cases hlookup
      · rename_i lease hget
        split at hlookup
        · cases hlookup
        · obtain ⟨route, hroute, heq⟩ := Option.map_eq_some_iff.mp hlookup
          rw [← heq]
          exact ⟨lease, hget, hroute⟩

end

end Starry.Activation
