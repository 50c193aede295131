import Starry.Activation.Steps

/-!
# Well-formed leases

A record with a route has its 32 byte lease and a generation; one without a route has no lease;
a retired one has no route. A renewal can break this: its commit looks at the generation and at
`retired` again, but not at the route, which a drain or a sweep may have cleared meanwhile.
-/

open Library

namespace Starry.Activation

structure LeaseRecord.WellFormed (r : LeaseRecord) : Prop where
  leased : r.route.isSome → r.retired = false →
    r.routeLease.length = routeLeaseBytes ∧ r.generation ≠ 0
  unleased : r.route = none → r.routeLease = []
  retired : r.retired = true → r.route = none

/-! ## The guards -/

/-- The 64 bit generation counter has not wrapped to zero. -/
def unwrapped (s : System) (_ : Step) : Bool := s.registry.nextGeneration != 0

/-- A renewal that is committed onto its record still finds the route it renews. -/
def renewalFindsRoute (s : System) : Step → Bool
  | .commitRenewal i _ _ =>
    match s.tasks[i]? with
    | some (.holding _ (.renewal c)) =>
      !c.tracked || (s.lease c.peerId).all fun r => !c.matchesRecord r || r.route.isSome
    | _ => true
  | _ => true

theorem renewalFindsRoute_spec {s : System} {i : Nat} {route : RouteKind} {now : Instant}
    {m : LockId} {c : RenewalClaim} {r : LeaseRecord}
    (h : renewalFindsRoute s (.commitRenewal i route now) = true)
    (hi : s.tasks[i]? = some (.holding m (.renewal c))) (hc : c.tracked = true)
    (hl : s.lease c.peerId = some r) (hr : c.matchesRecord r = true) : r.route.isSome := by
  simp only [renewalFindsRoute, hi, hl, hc, Bool.not_true, Bool.false_or, Option.all_some, hr] at h
  exact h

/-! ## The invariant -/

structure LeaseInv (s : System) : Prop where
  records : ∀ p r, s.lease p = some r → r.WellFormed
  claims : ∀ (i : Nat) (m : LockId) (c : ActivationClaim),
    s.tasks[i]? = some (.holding m (.activation c)) → c.tracked = true →
    c.routeLease.length = routeLeaseBytes ∧ c.generation ≠ 0

theorem clear_wellFormed (r : LeaseRecord) (now : Instant) : (r.clear now).WellFormed :=
  ⟨by simp [LeaseRecord.clear], fun _ => rfl, fun _ => rfl⟩

theorem init_leaseInv : LeaseInv System.init := by
  refine ⟨?_, ?_⟩
  · intro p r h
    simp [System.lease, System.init, Registry.default] at h
  · intro i m c h
    simp [System.init] at h

theorem Quiet.wellFormed {o o' : Option LeaseRecord} (h : Quiet o o')
    (hw : ∀ r, o = some r → r.WellFormed) : ∀ r, o' = some r → r.WellFormed := by
  intro r' hr
  cases h with
  | same => exact hw r' hr
  | touched r now =>
    cases hr
    exact ⟨(hw r rfl).leased, (hw r rfl).unleased, (hw r rfl).retired⟩
  | cleared r now =>
    cases hr
    exact clear_wellFormed r now
  | swept => cases hr

section

variable {sha256 : Bytes → Bytes} {s t : System} {l : Step}

theorem step_records_wellFormed (hi : LeaseInv s) (hg : renewalFindsRoute s l = true)
    (h : s.step sha256 l = some t) {p : String} {r : LeaseRecord} (hr : t.lease p = some r) :
    r.WellFormed := by
  have hc := step_change h p
  generalize ho : s.lease p = o at hc
  rw [hr] at hc
  cases hc with
  | quiet hq => exact hq.wellFormed (fun r' h' => hi.records p r' (ho.trans h')) r rfl
  | activated o ht hc hp =>
    exact ⟨fun _ _ => hi.claims _ _ _ ht hc, by simp [ActivationClaim.record],
      by simp [ActivationClaim.record]⟩
  | renewed r₀ ht hc hp hm =>
    have hw := hi.records p r₀ ho
    have hroute := renewalFindsRoute_spec hg ht hc (hp ▸ ho) hm
    -- `matchesRecord` asks for a record that is not retired.
    have hret : r₀.retired = false := by
      simp only [RenewalClaim.matchesRecord, Bool.and_eq_true, Bool.not_eq_true'] at hm
      exact hm.2
    exact ⟨fun _ _ => hw.leased hroute hret, by simp, by simp [hret]⟩
  | retired r₀ ht hp hm =>
    exact ⟨by simp [LeaseRecord.clear], fun _ => rfl, fun _ => rfl⟩

/-- What a reused record looks like. -/
theorem lookupRegistration_reuse {o : Option LeaseRecord} {q : RegistrationRequest}
    {current : LeaseRecord} (h : Registry.lookupRegistration o q = .reuse current) :
    o = some current ∧ current.uuid = q.uuid ∧ current.activationEpoch = q.activationEpoch ∧
      current.activationId = q.activationId ∧ current.publicKey = q.publicKey ∧
      current.retired = false ∧ current.route.isSome := by
  cases o with
  | none => cases h
  | some c =>
    simp only [Registry.lookupRegistration] at h
    split at h
    · cases h
    · rename_i h1
      split at h
      · rename_i h2
        split at h
        · cases h
        · rename_i h3
          split at h
          · rename_i h4
            cases h
            simp only [Bool.or_eq_true, bne_iff_ne, decide_eq_true_eq, not_or, not_not,
              Bool.not_eq_true, beq_iff_eq] at h1 h2 h3
            exact ⟨rfl, h1.1, h2.symm, h3.1.1, h3.1.2, h3.2, h4⟩
          · cases h
      · cases h

theorem step_leaseInv (hi : LeaseInv s) (hu : unwrapped s l = true)
    (hg : renewalFindsRoute s l = true) (h : s.step sha256 l = some t) : LeaseInv t := by
  refine ⟨fun p r hr => step_records_wellFormed hi hg h hr, ?_⟩
  intro j m c hj hc
  rcases step_holding h hj with hs | ⟨_, _, _, he, _⟩ | ⟨now, random, φ, _, _, hm, _⟩
  · exact hi.claims j m c hs hc
  · cases he
  · simp only [unwrapped, bne_iff_ne, ne_eq] at hu
    generalize t.registry = r' at hm
    cases hm with
    | legacy q t hv => cases hc
    | reuse q t current b hl =>
      obtain ⟨ho, _, _, _, _, hret, hroute⟩ := lookupRegistration_reuse hl
      exact (hi.records q.peerId current ho).leased hroute hret
    | fresh q route => exact ⟨random.2, hu⟩
    | reserved q route active => exact ⟨random.2, hu⟩

end

/-- The steps at which the counter has not wrapped and no renewal revives a cleared route. -/
def leaseGuard (s : System) (l : Step) : Bool := unwrapped s l && renewalFindsRoute s l

/-- In a run without such a renewal every stored record is well formed. -/
theorem leases_wellFormed (sha256 : Bytes → Bytes) {ls : List Step} {s : System}
    (h : Run (Guarded (System.step sha256) leaseGuard) System.init ls s) :
    ∀ p r, s.lease p = some r → r.WellFormed := by
  have hinv : LeaseInv s := by
    refine h.invariant init_leaseInv ?_
    rintro s l t hi ⟨hok, hstep⟩
    rw [leaseGuard, Bool.and_eq_true] at hok
    exact step_leaseInv hi hok.1 hok.2 hstep
  exact hinv.records

/-! ## A renewal after a drain -/

def sampleRegistration : RegistrationRequest :=
  { peerId := "peer", uuid := List.replicate 16 1, publicKey := [2], activationEpoch := 1,
    activationId := List.replicate 16 3, fastIdentityVerified := false }

def sampleLease (b : UInt8) : RandomLease := ⟨List.replicate 32 b, List.length_replicate⟩

/-- Task `i` makes a call and runs so many of its sections. -/
def sampleCall (c : Call) (i sections : Nat) (random : RandomLease) : List Step :=
  [.call c, .lock i] ++ List.replicate sections (.proceed i 0 random)

/-- A first registration, committed onto a WebSocket route. -/
def sampleRegistered : List Step :=
  sampleCall (.registration sampleRegistration) 0 7 (sampleLease 7) ++
    [.commitActivation 0 (.webSocket 1 10) 0, .proceed 0 0 (sampleLease 6)]

/-- The renewal of that route by task 1, up to its claim. -/
def sampleRenewal : List Step :=
  sampleCall (.renewal ⟨"peer", 1, List.replicate 16 3, (sampleLease 7).val, 1⟩) 1 2 (sampleLease 8)

def sampleDrain : Step := .disconnectWebsocketRoutesNow [("peer", 1, 10)] 0

theorem leases_wellFormed_renewed : ∃ s r,
    Run (Guarded (System.step id) leaseGuard) System.init
      (sampleRegistered ++ sampleRenewal ++ [.commitRenewal 1 (.webSocket 1 11) 5]) s ∧
    s.lease "peer" = some r ∧ r.route = some (.webSocket 1 11) ∧ r.WellFormed := by
  have h : (exec (System.step id) leaseGuard System.init
      (sampleRegistered ++ sampleRenewal ++ [.commitRenewal 1 (.webSocket 1 11) 5])).any
      (fun s => (s.lease "peer").any fun r => r.route == some (.webSocket 1 11)) = true := by
    decide
  simp only [Option.any_eq_true, beq_iff_eq] at h
  obtain ⟨s, hs, r, hr, hroute⟩ := h
  exact ⟨s, r, .of_exec hs, hr, hroute, leases_wellFormed id (.of_exec hs) "peer" r hr⟩

/-- With a drain between the renewal and its commit, the record has a route and no lease. -/
theorem drained_renewal_not_wellFormed :
    ¬ ∀ ls s, Run (Steps (System.step id)) System.init ls s →
      ∀ p r, s.lease p = some r → r.WellFormed := by
  intro hall
  have h : (exec (System.step id) (fun _ _ => true) System.init
      (sampleRegistered ++ sampleRenewal ++
        [sampleDrain, .commitRenewal 1 (.webSocket 1 11) 0])).any
      (fun s => (s.lease "peer").any fun r =>
        r.route.isSome && !r.retired && r.routeLease.isEmpty) = true := by
    decide
  simp only [Option.any_eq_true, Bool.and_eq_true, Bool.not_eq_true', List.isEmpty_iff] at h
  obtain ⟨s, hs, r, hr, ⟨hroute, hret⟩, hlease⟩ := h
  have hlen := ((hall _ s (.of_exec hs) "peer" r hr).leased hroute hret).1
  rw [hlease] at hlen
  cases hlen

end Starry.Activation
