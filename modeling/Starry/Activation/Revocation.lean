import Starry.Activation.Newest

/-!
# A cleared lease stays revoked

Once the lease of a peer has been cleared, no request that presents it succeeds, and a new
registration gets another lease and another generation. The argument needs each outstanding
claim: a fresh one carries a value never stored before, and a retransmission, which carries the
stored one, must still find its route when it commits.
-/

open Library

namespace Starry.Activation

/-! ## The guards -/

/-- A retransmission that is committed still finds a record with a route. -/
def retransmissionFindsRoute (s : System) : Step → Bool
  | .commitActivation i _ _ =>
    match s.tasks[i]? with
    | some (.holding _ (.activation c)) =>
      !c.tracked || c.newLease || (s.lease c.peerId).any fun r => r.route.isSome
    | _ => true
  | _ => true

/-- `randombytes` returns a value that it has not returned before. -/
def freshRandom (s : System) : Step → Bool
  | .proceed _ _ random => decide (random.val ∉ s.drawn)
  | _ => true

def revocationGuard (s : System) (l : Step) : Bool :=
  unwrapped s l && renewalFindsRoute s l && retransmissionFindsRoute s l && freshRandom s l

theorem retransmissionFindsRoute_spec {s : System} {i : Nat} {route : RouteKind} {now : Instant}
    {m : LockId} {c : ActivationClaim}
    (h : retransmissionFindsRoute s (.commitActivation i route now) = true)
    (hi : s.tasks[i]? = some (.holding m (.activation c))) (hc : c.tracked = true)
    (hn : c.newLease = false) : ∃ r, s.lease c.peerId = some r ∧ r.route.isSome := by
  simp only [retransmissionFindsRoute, hi, hc, hn, Bool.not_true, Bool.false_or,
    Option.any_eq_true] at h
  exact h

theorem revocationGuard_spec {s : System} {l : Step} (h : revocationGuard s l = true) :
    unwrapped s l = true ∧ renewalFindsRoute s l = true ∧ retransmissionFindsRoute s l = true ∧
      freshRandom s l = true := by
  simp only [revocationGuard, Bool.and_eq_true] at h
  exact ⟨h.1.1.1, h.1.1.2, h.1.2, h.2⟩

/-! ## Leases come from `randombytes` -/

structure DrawnInv (s : System) : Prop where
  records : ∀ p r, s.lease p = some r → r.routeLease = [] ∨ r.routeLease ∈ s.drawn
  claims : ∀ (i : Nat) (m : LockId) (c : ActivationClaim),
    s.tasks[i]? = some (.holding m (.activation c)) → c.tracked = true →
    c.routeLease = [] ∨ c.routeLease ∈ s.drawn
  /-- A fresh claim carries a lease that its peer's record does not have. -/
  fresh : ∀ (i : Nat) (m : LockId) (c : ActivationClaim),
    s.tasks[i]? = some (.holding m (.activation c)) → c.newLease = true →
    c.routeLease ≠ [] ∧ ∀ r, s.lease c.peerId = some r → r.routeLease ≠ c.routeLease

theorem RandomLease.ne_nil (random : RandomLease) : random.val ≠ [] := by
  intro h
  have := random.2
  rw [h] at this
  cases this

section

variable {sha256 : Bytes → Bytes} {s t : System} {l : Step}

theorem draw_subset (s : System) (next : Phase ⊕ Outcome) : s.drawn ⊆ s.draw next := by
  unfold System.draw
  split
  · split
    · exact List.subset_cons_self _ _
    · exact List.Subset.refl _
  · exact List.Subset.refl _

theorem step_drawn (h : s.step sha256 l = some t) : s.drawn ⊆ t.drawn := by
  cases l with
  | proceed i now random =>
    simp only [System.step] at h
    split at h
    · split at h
      · cases h
      · cases h
        exact draw_subset s _
    · cases h
      exact List.Subset.refl _
    · cases h
  | call c =>
    cases h
    unfold System.arrive
    split
    · exact List.Subset.refl _
    · split
      · exact List.Subset.refl _
      · split <;> exact List.Subset.refl _
  | lock i =>
    simp only [System.step] at h
    split at h
    · split at h
      · cases h
      · cases h; exact List.Subset.refl _
    · cases h
  | commitActivation i route now | commitRenewal i route now | commitDeactivation i b now =>
    simp only [System.step] at h
    split at h
    · cases h; exact List.Subset.refl _
    · cases h
  | drop i =>
    simp only [System.step] at h
    split at h
    · cases h; exact List.Subset.refl _
    · cases h; exact List.Subset.refl _
    · cases h
  | disconnectWebsocketRoutesNow routes now => cases h; exact List.Subset.refl _
  | nextRouteGeneration => cases h; exact List.Subset.refl _

/-- A claim that a section makes is a legacy one, a retransmission of the stored record, or a
fresh one with the value just drawn. -/
theorem moves_claim {now : Instant} {random : RandomLease} {φ : Phase} {c : ActivationClaim}
    {r r' : Registry} (hm : Moves r now random φ (.activation c) r') :
    (∃ q, c = legacyClaim r q) ∨
    (∃ q current, c = reuseClaim q current ∧ r.leases.get q.peerId = some current ∧
      current.route.isSome) ∨
    ∃ q route reserved, c = freshClaim r q route reserved random ∧ r'.leases = r.leases := by
  cases hm with
  | legacy q => exact .inl ⟨q, rfl⟩
  | reuse q t current b hl =>
    obtain ⟨ho, -, -, -, -, -, hroute⟩ := lookupRegistration_reuse hl
    exact .inr (.inl ⟨q, current, rfl, ho, hroute⟩)
  | fresh q route => exact .inr (.inr ⟨q, route, false, rfl, rfl⟩)
  | reserved q route => exact .inr (.inr ⟨q, route, true, rfl, rfl⟩)

theorem step_drawnInv (hi : DrawnInv s) (hl : LockInv s) (hg : freshRandom s l = true)
    (h : s.step sha256 l = some t) : DrawnInv t := by
  have hsub := step_drawn h
  refine ⟨?_, ?_, ?_⟩
  · intro p r hr
    have hc := step_change h p
    generalize ho : s.lease p = o at hc
    rw [hr] at hc
    have hold : r.routeLease = [] ∨ r.routeLease ∈ s.drawn := by
      cases hc with
      | quiet hq =>
        obtain ⟨r₀, hr₀, -, -, -, -, -, -, ⟨-, he⟩ | ⟨-, he⟩⟩ := hq.kept rfl
        · rw [he]; exact hi.records p r₀ (ho.trans hr₀)
        · exact .inl he
      | activated o ht hc hp => exact hi.claims _ _ _ ht hc
      | renewed r₀ ht hc hp hm => exact hi.records p r₀ ho
      | retired r₀ ht hp hm => exact .inl rfl
    exact hold.imp_right fun hmem => hsub hmem
  · intro j m c hj hc
    rcases step_holding h hj with hs | ⟨_, _, _, he, _⟩ | ⟨now, random, φ, _, _, hm, hd⟩
    · exact (hi.claims j m c hs hc).imp_right fun hmem => hsub hmem
    · cases he
    · rcases moves_claim hm with ⟨q, rfl⟩ | ⟨q, current, rfl, ho, -⟩ | ⟨q, route, b, rfl, -⟩
      · cases hc
      · exact (hi.records q.peerId current ho).imp_right fun hmem => hsub hmem
      · right
        rw [hd]
        exact List.mem_cons_self
  · intro j m c hj hn
    rcases step_holding h hj with hs | ⟨_, _, _, he, _⟩ | ⟨now, random, φ, rfl, _, hm, _⟩
    · obtain ⟨hne, hrec⟩ := hi.fresh j m c hs hn
      refine ⟨hne, fun r hr => ?_⟩
      -- The claim's task keeps the mutex, so the record was at most cleared.
      obtain ⟨r₀, hr₀, -, -, -, -, -, -, ⟨-, he⟩ | ⟨-, he⟩⟩ := (held_quiet hl h hs hj).kept hr
      · rw [he]; exact hrec r₀ hr₀
      · rw [he]; exact fun hc => hne hc.symm
    · cases he
    · rcases moves_claim hm with ⟨q, rfl⟩ | ⟨q, current, rfl, -, -⟩ | ⟨q, route, b, rfl, hr'⟩
      · cases hn
      · cases hn
      · refine ⟨random.ne_nil, fun r hr => ?_⟩
        simp only [freshRandom, decide_eq_true_eq] at hg
        rw [System.lease, hr'] at hr
        intro heq
        rcases hi.records q.peerId r hr with hnil | hmem
        · exact random.ne_nil (heq.symm.trans hnil)
        · rw [heq] at hmem
          exact hg hmem

theorem init_drawnInv : DrawnInv System.init := by
  refine ⟨?_, ?_, ?_⟩
  · intro p r h
    simp [System.lease, System.init, Registry.default] at h
  · intro i m c h
    simp [System.init] at h
  · intro i m c h
    simp [System.init] at h

end

/-! ## Revoked leases -/

structure AllInv (s : System) : Prop where
  lease : LeaseInv s
  newest : NewestInv s
  lock : LockInv s
  drawn : DrawnInv s
  checked : Checked s

/-- Lease `L` of peer `p`, stored with generation `g`, is gone for good. -/
structure Revoked (p : String) (L : Bytes) (g : Nat) (s : System) : Prop where
  nonempty : L ≠ []
  drawn : L ∈ s.drawn
  given : Given s.registry.nextGeneration g
  record : ∀ r, s.lease p = some r → r.routeLease ≠ L ∧ (r.route.isSome → r.generation ≠ g)
  claims : ∀ (i : Nat) (m : LockId) (c : ActivationClaim),
    s.tasks[i]? = some (.holding m (.activation c)) → c.tracked = true → c.newLease = true →
    c.peerId = p → c.routeLease ≠ L ∧ c.generation ≠ g

section

variable {sha256 : Bytes → Bytes} {s t : System} {l : Step} {p : String} {L : Bytes} {g : Nat}

theorem step_allInv (hi : AllInv s) (hg : revocationGuard s l = true)
    (h : s.step sha256 l = some t) : AllInv t := by
  obtain ⟨hu, hren, -, hrand⟩ := revocationGuard_spec hg
  exact ⟨step_leaseInv hi.lease hu hren h, step_newestInv hi.newest hi.lock hu h,
    step_lockInv hi.lock h, step_drawnInv hi.drawn hi.lock hrand h, step_checked hi.checked h⟩

theorem run_allInv {ls : List Step}
    (h : Run (Guarded (System.step sha256) revocationGuard) System.init ls s) : AllInv s := by
  refine h.invariant ⟨init_leaseInv, init_newestInv, init_lockInv, init_drawnInv, ?_⟩ ?_
  · intro τ hτ
    simp [System.init] at hτ
  rintro s l t hi ⟨hg, hstep⟩
  exact step_allInv hi hg hstep

/-- A claim drawn after the lease was stored differs from it in lease and generation. -/
theorem drawn_claim_differs (hu : unwrapped s l = true) {random : RandomLease}
    (hrand : random.val ∉ s.drawn) (hL : L ∈ s.drawn)
    (hgiven : Given s.registry.nextGeneration g) (q : RegistrationRequest)
    (route : Option RouteKind) (b : Bool) :
    (freshClaim s.registry q route b random).routeLease ≠ L ∧
      (freshClaim s.registry q route b random).generation ≠ g := by
  refine ⟨?_, fun h => ?_⟩
  · rintro rfl
    exact hrand hL
  · simp only [unwrapped, bne_iff_ne, ne_eq] at hu
    have := hgiven.resolve_left hu
    simp only [freshClaim] at h
    omega

/-- The claims of `t` that carry a fresh lease differ from a lease of which those of `s` do. -/
theorem step_claims_differ (hg : revocationGuard s l = true) (h : s.step sha256 l = some t)
    (hL : L ∈ s.drawn) (hgiven : Given s.registry.nextGeneration g)
    (hold : ∀ (i : Nat) (m : LockId) (c : ActivationClaim),
      s.tasks[i]? = some (.holding m (.activation c)) → c.tracked = true → c.newLease = true →
      c.peerId = p → c.routeLease ≠ L ∧ c.generation ≠ g)
    (j : Nat) (m : LockId) (c : ActivationClaim)
    (hj : t.tasks[j]? = some (.holding m (.activation c))) (hc : c.tracked = true)
    (hn : c.newLease = true) (hp : c.peerId = p) : c.routeLease ≠ L ∧ c.generation ≠ g := by
  obtain ⟨hu, -, -, hrand⟩ := revocationGuard_spec hg
  rcases step_holding h hj with hs | ⟨_, _, _, he, _⟩ | ⟨now, random, φ, rfl, _, hm, _⟩
  · exact hold j m c hs hc hn hp
  · cases he
  · rcases moves_claim hm with ⟨q, rfl⟩ | ⟨q, current, rfl, -, -⟩ | ⟨q, route, b, rfl, -⟩
    · cases hn
    · cases hn
    · exact drawn_claim_differs hu (by simpa [freshRandom] using hrand) hL hgiven q route b

theorem step_revoked (hi : AllInv s) (hg : revocationGuard s l = true)
    (h : s.step sha256 l = some t) (hr : Revoked p L g s) : Revoked p L g t := by
  obtain ⟨hu, hren, hret, -⟩ := revocationGuard_spec hg
  refine ⟨hr.nonempty, step_drawn h hr.drawn, step_given hi.newest hu h hr.given, ?_,
    step_claims_differ hg h hr.drawn hr.given hr.claims⟩
  intro r hr'
  have hc := step_change h p
  generalize ho : s.lease p = o at hc
  rw [hr'] at hc
  cases hc with
  | quiet hq =>
    obtain ⟨r₀, hr₀, -, -, -, -, -, hgen, ⟨hroute, he⟩ | ⟨hroute, he⟩⟩ := hq.kept rfl
    · rw [hroute, he, hgen]
      exact hr.record r₀ (ho.trans hr₀)
    · rw [he, hroute]
      exact ⟨hr.nonempty.symm, by rintro ⟨⟩⟩
  | @activated i route now m c o ht hc hp =>
    simp only [ActivationClaim.record]
    cases hn : c.newLease with
    | true =>
      obtain ⟨h1, h2⟩ := hr.claims _ _ _ ht hc hn hp
      exact ⟨h1, fun _ => h2⟩
    | false =>
      -- The retransmission finds its route, so it stores what is stored already.
      obtain ⟨r₀, hr₀, hroute⟩ := retransmissionFindsRoute_spec hret ht hc hn
      obtain ⟨hgen, hlease⟩ := (hi.newest.tasks _ _ _ ht hc).reuse hn r₀ hr₀
      obtain ⟨h1, h2⟩ := hr.record r₀ (hp ▸ hr₀)
      rw [← hlease hroute, ← hgen]
      exact ⟨h1, fun _ => h2 hroute⟩
  | renewed r₀ ht hc hp hm =>
    obtain ⟨h1, h2⟩ := hr.record r₀ ho
    exact ⟨h1, fun _ => h2 (renewalFindsRoute_spec hren ht hc (hp ▸ ho) hm)⟩
  | retired r₀ ht hp hm => exact ⟨hr.nonempty.symm, by rintro ⟨⟩⟩

/-- The step that clears a lease revokes it. -/
theorem cleared_revoked (hi : AllInv s) (hg : revocationGuard s l = true)
    (h : s.step sha256 l = some t) {r r' : LeaseRecord} (hr : s.lease p = some r)
    (hlen : r.routeLease.length = routeLeaseBytes) (hr' : t.lease p = some r')
    (hcleared : r'.routeLease = []) : Revoked p r.routeLease r.generation t := by
  have hne : r.routeLease ≠ [] := by
    intro he
    rw [he] at hlen
    cases hlen
  obtain ⟨hu, -, -, -⟩ := revocationGuard_spec hg
  have hdrawn := (hi.drawn.records p r hr).resolve_left hne
  have hgiven := hi.newest.records p r hr
  refine ⟨hne, step_drawn h hdrawn, step_given hi.newest hu h hgiven, ?_, ?_⟩
  · intro r₁ hr₁
    rw [hr'] at hr₁
    cases hr₁
    refine ⟨by rw [hcleared]; exact hne.symm, fun hroute => absurd hroute ?_⟩
    have hc := step_change h p
    rw [hr, hr'] at hc
    cases hc with
    | quiet hq =>
      obtain ⟨r₀, hr₀, -, -, -, -, -, -, ⟨-, he⟩ | ⟨he, -⟩⟩ := hq.kept rfl
      · cases hr₀
        exact absurd (he.symm.trans hcleared) hne
      · simp [he]
    | activated o ht hc hp =>
      -- A tracked claim has a lease of 32 bytes.
      have := (hi.lease.claims _ _ _ ht hc).1
      simp only [ActivationClaim.record] at hcleared
      rw [hcleared] at this
      cases this
    | renewed r₀ ht hc hp hm => exact absurd hcleared hne
    | retired r₀ ht hp hm => simp [LeaseRecord.clear]
  · refine step_claims_differ hg h hdrawn hgiven ?_
    intro i m c hj hc hn hp
    subst hp
    have hlt := (hi.newest.tasks _ _ _ hj hc).fresh hn r hr
    exact ⟨fun he => (hi.drawn.fresh i m c hj hn).2 r hr he.symm, by omega⟩

end

/-! ## What a revoked lease is good for -/

/-- How a section of task `i` from `u` to `v` treats the lease `L` of `p`. -/
structure Rejects (p : String) (L : Bytes) (g : Nat) (u v : System) (i : Nat) : Prop where
  /-- `verify_active` succeeds only for another of the presented leases. -/
  verify : ∀ (m : LockId) (now : Instant) (q : VerifyRequest),
    u.tasks[i]? = some (.holding m (.expired (.verify q) now)) → q.peerId = p →
    v.tasks[i]? = some (.finished (.answered true)) →
    ∃ r, u.lease p = some r ∧ r.routeLease ∈ q.routeLeases ∧ r.routeLease ≠ L
  renewal : ∀ (m : LockId) (now : Instant) (q : RenewalRequest),
    u.tasks[i]? = some (.holding m (.expired (.renewal q) now)) → q.peerId = p →
    q.routeLease = L → v.tasks[i]? = some (.finished (.refused .stale))
  deactivation : ∀ (m : LockId) (now : Instant) (q : DeactivationRequest),
    u.tasks[i]? = some (.holding m (.expired (.deactivation q) now)) → q.peerId = p →
    q.routeLease = L → v.tasks[i]? = some (.finished (.refused .stale))
  registration : ∀ (m : LockId) (c : ActivationClaim),
    v.tasks[i]? = some (.holding m (.activation c)) → c.peerId = p →
    c.routeLease ≠ L ∧ c.generation ≠ g

section

variable {sha256 : Bytes → Bytes} {p : String} {L : Bytes} {g : Nat} {u v : System}

theorem verified_lease {o : Option LeaseRecord} {q : VerifyRequest}
    (h : Registry.verified o q = true) : ∃ r, o = some r ∧ r.routeLease ∈ q.routeLeases := by
  cases o with
  | none => cases h
  | some r =>
    simp only [Registry.verified, Bool.and_eq_true, List.any_eq_true, beq_iff_eq] at h
    obtain ⟨-, x, hx, rfl⟩ := h
    exact ⟨r, rfl, hx⟩

theorem lookupRenewal_none {o : Option LeaseRecord} {q : RenewalRequest}
    (hid : q.activationId ≠ []) (h : ∀ r, o = some r → r.routeLease ≠ q.routeLease) :
    Registry.lookupRenewal o q = none := by
  cases o with
  | none => simp [Registry.lookupRenewal, hid]
  | some r => simp [Registry.lookupRenewal, hid, h r rfl]

theorem lookupDeactivation_none {o : Option LeaseRecord} {q : DeactivationRequest}
    (h : ∀ r, o = some r → r.routeLease ≠ q.routeLease) :
    Registry.lookupDeactivation o q = none := by
  cases o with
  | none => rfl
  | some r => simp [Registry.lookupDeactivation, h r rfl]

/-- A renewal with a lease names its activation. -/
theorem renewal_activationId {q : RenewalRequest} (h : (Call.renewal q).refusal = none)
    (hL : q.routeLease ≠ []) : q.activationId ≠ [] := by
  intro hid
  simp [Call.refusal, RenewalRequest.invalid, hid, hL] at h

theorem proceed_rejects (hi : AllInv u) (hr : Revoked p L g u) {i : Nat} {now : Instant}
    {random : RandomLease} (hg : revocationGuard u (.proceed i now random) = true)
    (h : u.step sha256 (.proceed i now random) = some v) : Rejects p L g u v i := by
  have hlt : ∀ τ, u.tasks[i]? = some τ → i < u.tasks.length := fun τ hτ =>
    (List.getElem?_eq_some_iff.mp hτ).1
  refine ⟨?_, ?_, ?_, ?_⟩
  · intro m t q ht hp hv
    simp only [System.step, ht, Phase.advance, Option.some.injEq] at h
    rw [← h] at hv
    simp only [System.update, List.getElem?_set_self (hlt _ ht), Option.some.injEq,
      Task.finished.injEq, Outcome.answered.injEq] at hv
    subst hp
    obtain ⟨r, hr', hmem⟩ := verified_lease hv
    exact ⟨r, hr', hmem, (hr.record r hr').1⟩
  · intro m t q ht hp hL
    subst hp hL
    have hid := renewal_activationId
      (hi.checked _ (List.mem_of_getElem? ht) (.renewal q) rfl) hr.nonempty
    have hnone := lookupRenewal_none hid fun r hr' => (hr.record r hr').1
    simp only [System.lease] at hnone
    simp only [System.step, ht, Phase.advance, hnone, Option.some.injEq] at h
    rw [← h]
    simp [System.update, List.getElem?_set_self (hlt _ ht)]
  · intro m t q ht hp hL
    subst hp hL
    have hnone := lookupDeactivation_none fun r hr' => (hr.record r hr').1
    simp only [System.lease] at hnone
    simp only [System.step, ht, Phase.advance, hnone, Option.some.injEq] at h
    rw [← h]
    simp [System.update, List.getElem?_set_self (hlt _ ht)]
  · intro m c hv hp
    obtain ⟨hu, -, -, hrand⟩ := revocationGuard_spec hg
    have hgen : u.registry.nextGeneration ≠ g := by
      simp only [unwrapped, bne_iff_ne, ne_eq] at hu
      have := hr.given.resolve_left hu
      omega
    obtain ⟨m', φ, φ', r, ht, hm, rfl⟩ | ⟨m', φ, o, r, ht, he, rfl⟩ | ⟨m', c', ht, rfl⟩ :=
      proceed_cases h
    · simp only [System.update, List.getElem?_set_self (hlt _ ht), Option.some.injEq,
        Task.holding.injEq] at hv
      obtain ⟨rfl, rfl⟩ := hv
      rcases moves_claim hm with ⟨q, rfl⟩ | ⟨q, current, rfl, ho, hroute⟩ | ⟨q, route, b, rfl, -⟩
      · exact ⟨hr.nonempty.symm, hgen⟩
      · obtain ⟨h1, h2⟩ := hr.record current (hp ▸ ho)
        exact ⟨h1, h2 hroute⟩
      · exact drawn_claim_differs hu (by simpa [freshRandom] using hrand) hr.drawn hr.given q
          route b
    · simp [System.update, List.getElem?_set_self (hlt _ ht)] at hv
    · simp [System.update, List.getElem?_set_self (hlt _ ht)] at hv

end

/-- Once the lease of a peer has been cleared, every later section rejects it, whatever happened
in between, as long as renewals and retransmissions that commit still find their route. -/
theorem revocation_permanent (sha256 : Bytes → Bytes) {ls ls' : List Step} {s t u v : System}
    {l : Step} {p : String} {r r' : LeaseRecord} {i : Nat} {now : Instant} {random : RandomLease}
    (h : Run (Guarded (System.step sha256) revocationGuard) System.init ls s)
    (hclear : Guarded (System.step sha256) revocationGuard s l t)
    (hr : s.lease p = some r) (hlen : r.routeLease.length = routeLeaseBytes)
    (hr' : t.lease p = some r') (hempty : r'.routeLease = [])
    (h' : Run (Guarded (System.step sha256) revocationGuard) t ls' u)
    (hlast : Guarded (System.step sha256) revocationGuard u (.proceed i now random) v) :
    Rejects p r.routeLease r.generation u v i := by
  have hi := run_allInv h
  have ht : AllInv t ∧ Revoked p r.routeLease r.generation t :=
    ⟨step_allInv hi hclear.1 hclear.2, cleared_revoked hi hclear.1 hclear.2 hr hlen hr' hempty⟩
  have hu : AllInv u ∧ Revoked p r.routeLease r.generation u := by
    refine h'.invariant (P := fun u => AllInv u ∧ Revoked p r.routeLease r.generation u) ht ?_
    rintro a k b ⟨hia, hra⟩ ⟨hg, hstep⟩
    exact ⟨step_allInv hia hg hstep, step_revoked hia hg hstep hra⟩
  exact proceed_rejects hu.1 hu.2 hlast.1 hlast.2

/-- After the drain and a new registration, a renewal with the old lease is stale. -/
theorem revocation_permanent_renewal : ∃ (s t u v : System) (r : LeaseRecord),
    Run (Guarded (System.step id) revocationGuard) System.init sampleRegistered s ∧
    s.lease "peer" = some r ∧ r.routeLease = (sampleLease 7).val ∧
    Run (Guarded (System.step id) revocationGuard) t
      (sampleCall (.registration sampleRegistration) 1 6 (sampleLease 8) ++
        .commitActivation 1 (.webSocket 1 11) 0 ::
        sampleCall (.renewal ⟨"peer", 1, List.replicate 16 3, (sampleLease 7).val, 1⟩) 2 1
          (sampleLease 9)) u ∧
    u.step id (.proceed 2 0 (sampleLease 9)) = some v ∧
    Rejects "peer" r.routeLease r.generation u v 2 := by
  have h : (exec (System.step id) revocationGuard System.init sampleRegistered).any (fun s =>
      revocationGuard s sampleDrain && (s.step id sampleDrain).any fun t =>
      (exec (System.step id) revocationGuard t
        (sampleCall (.registration sampleRegistration) 1 6 (sampleLease 8) ++
          .commitActivation 1 (.webSocket 1 11) 0 ::
          sampleCall (.renewal ⟨"peer", 1, List.replicate 16 3, (sampleLease 7).val, 1⟩) 2 1
            (sampleLease 9))).any fun u =>
      revocationGuard u (.proceed 2 0 (sampleLease 9)) &&
      (u.step id (.proceed 2 0 (sampleLease 9))).isSome &&
      (s.lease "peer").any (fun r => r.routeLease == (sampleLease 7).val) &&
      (t.lease "peer").any fun r' => r'.routeLease.isEmpty) = true := by
    decide
  simp only [Option.any_eq_true, Bool.and_eq_true, Option.isSome_iff_exists, beq_iff_eq,
    List.isEmpty_iff] at h
  obtain ⟨s, hs, hgs, t, ht, u, hu, ⟨⟨hgu, v, hv⟩, r, hr, hl⟩, r', hr', he⟩ := h
  exact ⟨s, t, u, v, r, .of_exec hs, hr, hl, .of_exec hu, hv,
    revocation_permanent id (.of_exec hs) ⟨hgs, ht⟩ hr (by rw [hl]; rfl) hr' he (.of_exec hu)
      ⟨hgu, hv⟩⟩

/-- A retransmission that commits after the drain makes the drained lease active again. -/
theorem drained_lease_revived :
    ¬ ∀ (ls ls' : List Step) (s t u v : System) (l : Step) (p : String) (r r' : LeaseRecord)
      (i : Nat) (now : Instant) (random : RandomLease),
      Run (Guarded (System.step id) freshRandom) System.init ls s →
      Guarded (System.step id) freshRandom s l t →
      s.lease p = some r → r.routeLease.length = routeLeaseBytes →
      t.lease p = some r' → r'.routeLease = [] →
      Run (Guarded (System.step id) freshRandom) t ls' u →
      Guarded (System.step id) freshRandom u (.proceed i now random) v →
      Rejects p r.routeLease r.generation u v i := by
  intro hall
  have h : (exec (System.step id) freshRandom System.init
        (sampleRegistered ++ sampleRetransmission)).any (fun s =>
      (s.step id sampleDrain).any fun t =>
      (exec (System.step id) freshRandom t (.commitActivation 1 (.webSocket 1 11) 0 ::
        sampleCall (.verify ⟨"peer", List.replicate 16 1, 1, List.replicate 16 3,
          [(sampleLease 7).val]⟩) 2 1 (sampleLease 9))).any fun u =>
      freshRandom u (.proceed 2 0 (sampleLease 9)) &&
      decide (u.tasks[2]? = some (.holding 0 (.expired (.verify ⟨"peer", List.replicate 16 1, 1,
        List.replicate 16 3, [(sampleLease 7).val]⟩) 0))) &&
      (u.step id (.proceed 2 0 (sampleLease 9))).any (fun v =>
        decide (v.tasks[2]? = some (.finished (.answered true)))) &&
      (s.lease "peer").any (fun r => r.routeLease == (sampleLease 7).val) &&
      (t.lease "peer").any fun r' => r'.routeLease.isEmpty) = true := by
    decide
  simp only [Option.any_eq_true, Bool.and_eq_true, decide_eq_true_eq, beq_iff_eq,
    List.isEmpty_iff] at h
  obtain ⟨s, hs, t, ht, u, hu, ⟨⟨⟨hgu, htask⟩, v, hv, hans⟩, r, hr, hl⟩, r', hr', he⟩ := h
  have hrej := hall _ _ s t u v _ "peer" r r' 2 0 (sampleLease 9) (.of_exec hs) ⟨rfl, ht⟩ hr
    (by rw [hl]; rfl) hr' he (.of_exec hu) ⟨hgu, hv⟩
  obtain ⟨r₁, -, hmem, hne⟩ := hrej.verify _ _ _ htask rfl hans
  rw [List.mem_singleton] at hmem
  exact hne (hmem.trans hl.symm)

end Starry.Activation
