import Starry.Activation.Books

/-!
# Registrations at the limit

A reservation adds a count of records that was read earlier to the reservations there are now.
Between the two reads a sweep may remove a record, and between the insertion of a commit and its
`fetch_sub` one peer is counted twice. On such a count a registration can be refused although
there is room, after its peer has gone into `v2_peers`.
-/

open Library

namespace Starry.Activation

/-- A record is kept, or changes as its TTL and its retention have it. -/
def Lapsed (o o' : Option LeaseRecord) : Prop :=
  ∃ now, o' = o ∨ o' = o.map (LeaseRecord.expire now) ∨ o' = o.bind (Registry.swept now)

/-- The task that a step of a call belongs to, up to its claim. -/
def Step.task (s : System) : Step → Option Nat
  | .call _ => some s.tasks.length
  | .lock i | .proceed i _ _ => some i
  | _ => none

/-- What the books show of the step from `s` to `t`, on the way to `u`. -/
structure Bookkeeping (sha256 : Bytes → Bytes) (s : System) (l : Step) (t u : System) : Prop where
  balanced : Books s ∧ Books t ∧ Books u
  kept : s.registry.v2Peers ⊆ t.registry.v2Peers ∧ t.registry.v2Peers ⊆ u.registry.v2Peers
  /-- A peer that had a record gets no legacy registration any more. -/
  legacy : ∀ (r : LeaseRecord) (i : Nat) (m : LockId) (q : RegistrationRequest) (now now' : Instant)
    (random : RandomLease) (v : System), s.lease q.peerId = some r → q.activationId = [] →
    u.tasks[i]? = some (.holding m (.expired (.registration q) now)) →
    u.step sha256 (.proceed i now' random) = some v →
    v.tasks[i]? = some (.finished (.refused .stale))
  /-- If the call of this step fails in the end, the step changed neither collection. -/
  refused : ∀ (i : Nat) (e : ActivationError), l.task s = some i →
    u.tasks[i]? = some (.finished (.refused e)) →
    t.registry.v2Peers = s.registry.v2Peers ∧ ∀ p, Lapsed (s.lease p) (t.lease p)

/-! ## The guard -/

/-- A reservation is refused only on a count of records that is up to date and counts no peer
that still has its reservation too. -/
def countCurrent (s : System) : Step → Bool
  | .proceed i _ _ =>
    match s.tasks[i]? with
    | some (.holding _ (.counted _ _ active)) =>
      decide (active + s.tasks.countP Task.isStored ≤ s.registry.leases.len) ||
        decide (active + s.registry.pendingNewLeases < maxLeases)
    | _ => true
  | _ => true

section

variable {sha256 : Bytes → Bytes} {s t : System} {l : Step}

/-! ## Calls that fail -/

/-- A registration that is past `remember_v2_peer`, or a call that did not fail. -/
def Task.passed : Task → Bool
  | .holding _ φ => φ.claimed
  | .stored .. => true
  | .waiting .. | .finished (.refused _) => false
  | .finished _ => true

theorem Moves.claimed {r r' : Registry} {now : Instant} {random : RandomLease} {φ φ' : Phase}
    (h : Moves r now random φ φ' r') (hφ : φ.claimed = true) : φ'.claimed = true := by
  cases h <;> cases hφ <;> rfl

/-- Past `remember_v2_peer`, only a reservation can be refused. -/
theorem Ends.passed {r r' : Registry} {now : Instant} {φ : Phase} {o : Outcome}
    (h : Ends r now φ o r') (hφ : φ.claimed = true) : ∃ q route active,
      φ = .counted q route active ∧ maxLeases ≤ active + r.pendingNewLeases := by
  cases h with
  | touched | disconnected | verified => cases hφ
  | refused φ e b hn =>
    rw [hn] at hφ
    cases hφ
  | full q route active hfull => exact ⟨q, route, active, rfl, hfull⟩

theorem countCurrent_spec (hi : BookInv s) (hl : LockInv s) {i : Nat} {m : LockId} {now : Instant}
    {random : RandomLease} {q : RegistrationRequest} {route : Option RouteKind} {active : Nat}
    (hg : countCurrent s (.proceed i now random) = true)
    (hc : s.tasks[i]? = some (.holding m (.counted q route active))) :
    active + s.registry.pendingNewLeases < maxLeases := by
  simp only [countCurrent, hc, Bool.or_eq_true, decide_eq_true_eq] at hg
  rcases hg with hcur | hroom
  · exact reservation_fits hi hl hc hcur
  · exact hroom

theorem set_passed {ts : List Task} {i j : Nat} {τ τ' : Task} (hi : ts[i]? = some τ)
    (hp : τ.passed = true) (hj : j = i → τ'.passed = true) :
    ∃ σ, (ts.set j τ')[i]? = some σ ∧ σ.passed = true := by
  rw [List.getElem?_set]
  split
  · rename_i he
    exact ⟨τ', by rw [if_pos (he ▸ (List.getElem?_eq_some_iff.mp hi).1)], hj he⟩
  · exact ⟨τ, hi, hp⟩

theorem step_passed (hb : BookInv s) (hl : LockInv s) (hg : countCurrent s l = true)
    (h : s.step sha256 l = some t) {i : Nat} {τ : Task} (hi : s.tasks[i]? = some τ)
    (hp : τ.passed = true) : ∃ τ', t.tasks[i]? = some τ' ∧ τ'.passed = true := by
  cases l with
  | call c =>
    cases h
    obtain ⟨locks, σ, n, h, -⟩ := arrive_eq s c
    rw [h]
    exact ⟨τ, List.getElem?_append_left (List.getElem?_eq_some_iff.mp hi).1 ▸ hi, hp⟩
  | lock j =>
    simp only [System.step] at h
    split at h
    · rename_i m c hj
      split at h
      · cases h
      · cases h
        refine set_passed hi hp fun he => ?_
        subst he
        rw [hj] at hi
        cases hi
        cases hp
    · cases h
  | proceed j now random =>
    obtain ⟨m, φ, φ', r, hj, hm, rfl⟩ | ⟨m, φ, o, r, hj, he, rfl⟩ | ⟨m, c, hj, rfl⟩ :=
      proceed_cases h
    · refine set_passed hi hp fun he => ?_
      subst he
      rw [hj] at hi
      cases hi
      exact hm.claimed hp
    · refine set_passed hi hp fun heq => ?_
      subst heq
      rw [hj] at hi
      cases hi
      obtain ⟨q, route, active, rfl, hfull⟩ := he.passed hp
      have := countCurrent_spec hb hl hg hj
      omega
    · exact set_passed hi hp fun _ => rfl
  | commitActivation j route now =>
    simp only [System.step] at h
    split at h
    · cases h
      refine set_passed hi hp fun _ => ?_
      split <;> rfl
    · cases h
  | commitRenewal j route now | commitDeactivation j b now =>
    simp only [System.step] at h
    split at h
    · cases h
      exact set_passed hi hp fun _ => rfl
    · cases h
  | drop j =>
    simp only [System.step] at h
    split at h
    · cases h
      exact set_passed hi hp fun _ => rfl
    · cases h
      exact set_passed hi hp fun _ => rfl
    · cases h
  | disconnectWebsocketRoutesNow routes now | nextRouteGeneration =>
    cases h
    exact ⟨τ, hi, hp⟩

theorem lapsed_same {o o' : Option LeaseRecord} (h : o' = o) : Lapsed o o' := ⟨0, .inl h⟩

theorem Moves.lapsed {r r' : Registry} {now : Instant} {random : RandomLease} {φ φ' : Phase}
    (h : Moves r now random φ φ' r') (p : String) :
    Lapsed (r.leases.get p) (r'.leases.get p) := by
  have hexp : ∀ (q : String) (t : Instant),
      Lapsed (r.leases.get p) ((r.expireRoute q t).leases.get p) := by
    intro q t
    simp only [Registry.expireRoute, Table.get_modify]
    split
    · rename_i hq
      subst hq
      exact ⟨t, .inr (.inl rfl)⟩
    · exact lapsed_same rfl
  cases h with
  | maintained q =>
    simp only [Registry.maintain]
    split
    · exact lapsed_same rfl
    · exact ⟨now, .inr (.inr (by simp))⟩
  | expired call => exact hexp _ now
  | expiredRegistration q t => exact hexp _ t
  | _ => exact lapsed_same rfl

/-- A step of a call leaves both collections, but for the expiry of records, or the call is past
`remember_v2_peer` or answered after it. -/
theorem step_task (h : s.step sha256 l = some t) {i : Nat} (hi : l.task s = some i) :
    (t.registry.v2Peers = s.registry.v2Peers ∧ ∀ p, Lapsed (s.lease p) (t.lease p)) ∨
    ∃ τ, t.tasks[i]? = some τ ∧ τ.passed = true := by
  cases l with
  | call c =>
    left
    cases h
    obtain ⟨locks, τ, n, h, -⟩ := arrive_eq s c
    rw [h]
    exact ⟨rfl, fun p => lapsed_same rfl⟩
  | lock j =>
    left
    simp only [System.step] at h
    split at h
    · split at h
      · cases h
      · cases h
        exact ⟨rfl, fun p => lapsed_same rfl⟩
    · cases h
  | proceed j now random =>
    cases hi
    obtain ⟨m, φ, φ', r, hj, hm, rfl⟩ | ⟨m, φ, o, r, hj, he, rfl⟩ | ⟨m, c, hj, rfl⟩ :=
      proceed_cases h
    · rcases hm.v2Peers with hv | ⟨hφ, -⟩
      · exact .inl ⟨hv, hm.lapsed⟩
      · exact .inr ⟨_, List.getElem?_set_self (List.getElem?_eq_some_iff.mp hj).1, hφ⟩
    · have hset := List.getElem?_set_self (a := Task.finished o) (List.getElem?_eq_some_iff.mp hj).1
      cases he with
      | touched | disconnected | verified => exact .inr ⟨_, hset, rfl⟩
      | refused | full => exact .inl ⟨rfl, fun p => lapsed_same rfl⟩
    · exact .inl ⟨s.registry.release_v2Peers _,
        fun p => lapsed_same (by simp [System.lease, System.update])⟩
  | _ => cases hi

/-- A legacy registration of a peer in `v2_peers` is stale. -/
theorem legacy_stale {i : Nat} {m : LockId} {q : RegistrationRequest} {now now' : Instant}
    {random : RandomLease} (hv : q.peerId ∈ s.registry.v2Peers) (hq : q.activationId = [])
    (hi : s.tasks[i]? = some (.holding m (.expired (.registration q) now)))
    (h : s.step sha256 (.proceed i now' random) = some t) :
    t.tasks[i]? = some (.finished (.refused .stale)) := by
  simp only [System.step, hi, Phase.advance, readRegistration, hq, List.isEmpty_nil, if_true, hv,
    Option.some.injEq] at h
  rw [← h]
  exact List.getElem?_set_self (List.getElem?_eq_some_iff.mp hi).1

/-! ## Runs -/

theorem run_bookInv {ok : System → Step → Bool} {ls : List Step} {s₀ : System}
    (h : Run (Guarded (System.step sha256) ok) s₀ ls s) (h₀ : BookInv s₀ ∧ LockInv s₀) :
    (BookInv s ∧ LockInv s) ∧ s₀.registry.v2Peers ⊆ s.registry.v2Peers := by
  refine h.invariant (P := fun s => (BookInv s ∧ LockInv s) ∧
    s₀.registry.v2Peers ⊆ s.registry.v2Peers) ⟨h₀, Finset.Subset.refl _⟩ ?_
  rintro s l t ⟨⟨hb, hl⟩, hv⟩ ⟨-, hstep⟩
  exact ⟨⟨step_bookInv hb hl hstep, step_lockInv hl hstep⟩, hv.trans (step_v2Peers_subset hstep)⟩

theorem run_passed {ls : List Step} {u : System}
    (h : Run (Guarded (System.step sha256) countCurrent) t ls u) (h₀ : BookInv t ∧ LockInv t)
    {i : Nat} {τ : Task} (hi : t.tasks[i]? = some τ) (hp : τ.passed = true) :
    ∃ τ', u.tasks[i]? = some τ' ∧ τ'.passed = true := by
  have hinv := h.invariant (P := fun u => (BookInv u ∧ LockInv u) ∧
    ∃ τ', u.tasks[i]? = some τ' ∧ τ'.passed = true) ⟨h₀, τ, hi, hp⟩ ?_
  · exact hinv.2
  · rintro s l u ⟨⟨hb, hl⟩, σ, hσ, hpσ⟩ ⟨hg, hstep⟩
    exact ⟨⟨step_bookInv hb hl hstep, step_lockInv hl hstep⟩, step_passed hb hl hg hstep hσ hpσ⟩

end

/-- In a run in which no reservation is refused on an old count, the books always balance, and a
registration that fails has changed nothing in them. -/
theorem books_balance (sha256 : Bytes → Bytes) {ls ls' : List Step} {s t u : System} {l : Step}
    (h : Run (Guarded (System.step sha256) countCurrent) System.init ls s)
    (hstep : Guarded (System.step sha256) countCurrent s l t)
    (h' : Run (Guarded (System.step sha256) countCurrent) t ls' u) :
    Bookkeeping sha256 s l t u := by
  obtain ⟨hs, -⟩ := run_bookInv h ⟨init_bookInv, init_lockInv⟩
  obtain ⟨ht, hst⟩ := run_bookInv (.single hstep) hs
  obtain ⟨hu, htu⟩ := run_bookInv h' ht
  refine ⟨⟨hs.1.books, ht.1.books, hu.1.books⟩, ⟨hst, htu⟩, ?_, ?_⟩
  · intro r i m q now now' random v hr hq hi hv
    exact legacy_stale (htu (hst (hs.1.remembered _ r hr))) hq hi hv
  · intro i e hi he
    rcases step_task hstep.2 hi with hsame | ⟨τ, hτ, hp⟩
    · exact hsame
    · -- Past `remember_v2_peer` the call would not fail any more.
      obtain ⟨τ', hτ', hp'⟩ := run_passed h' ht hτ hp
      rw [he] at hτ'
      cases hτ'
      cases hp'

/-- A peer with a record that comes back as a legacy client is refused, and nothing else changes. -/
theorem books_balance_legacy : ∃ s t u : System,
    Run (Guarded (System.step id) countCurrent) System.init sampleRegistered s ∧
    s.step id (.call (.registration { sampleRegistration with
      activationEpoch := 0, activationId := [] })) = some t ∧
    u.tasks[1]? = some (.finished (.refused .stale)) ∧ u.registry.v2Peers.card = 1 ∧
    Bookkeeping id s (.call (.registration { sampleRegistration with
      activationEpoch := 0, activationId := [] })) t u := by
  have h : (exec (System.step id) countCurrent System.init sampleRegistered).any (fun s =>
      (s.step id (.call (.registration { sampleRegistration with
        activationEpoch := 0, activationId := [] }))).any fun t =>
      (exec (System.step id) countCurrent t
        (.lock 1 :: List.replicate 3 (.proceed 1 0 (sampleLease 8)))).any fun u =>
      decide (u.tasks[1]? = some (.finished (.refused .stale))) &&
        decide (u.registry.v2Peers.card = 1)) = true := by
    decide
  simp only [Option.any_eq_true, Bool.and_eq_true, decide_eq_true_eq] at h
  obtain ⟨s, hs, t, ht, u, hu, hstale, hcard⟩ := h
  exact ⟨s, t, u, .of_exec hs, ht, hstale, hcard,
    books_balance id (.of_exec hs) ⟨rfl, ht⟩ (.of_exec hu)⟩

/-! ## A full table -/

def peerName (n : Nat) : String := String.ofList (List.replicate (n + 1) 'a')

theorem peerName_inj {n k : Nat} (h : peerName n = peerName k) : n = k := by
  have := congrArg (fun s => s.toList.length) h
  simpa [peerName] using this

def fillRequest (n : Nat) : RegistrationRequest := { sampleRegistration with peerId := peerName n }

theorem fillRequest_refusal (n : Nat) : (Call.registration (fillRequest n)).refusal = none := by
  have hname : (peerName n).isEmpty = false := by
    rw [String.isEmpty_eq_false_iff]
    intro h
    have := congrArg String.toList h
    simp [peerName, List.replicate_succ] at this
  simp [Call.refusal, RegistrationRequest.invalid, fillRequest, sampleRegistration, hname,
    publicKeyMaxBytes, activationIdBytes]

/-- The peers `0 .. n - 1` have records of time 0, and so many of them a reservation too. -/
structure Filled (n pending : Nat) (s : System) : Prop where
  unlocked : ∀ τ ∈ s.tasks, ∀ m, τ.holds m = true → m < s.nextLock
  v2Peers : s.registry.v2Peers.card = n
  leases : s.registry.leases.len = n
  locks : s.registry.peerLocks.len = n
  pending : s.registry.pendingNewLeases = pending
  current : ∀ p r, s.lease p = some r → r.route.isSome = true ∧ r.updatedAt = 0
  free : ∀ k, n ≤ k → peerName k ∉ s.registry.v2Peers ∧ s.lease (peerName k) = none ∧
    s.registry.peerLocks.get (peerName k) = none

/-- The last task is `τ`. -/
structure Last (ts : List Task) (τ : Task) (r : Registry) (n : LockId) (s : System) : Prop where
  tasks : s.tasks = ts ++ [τ]
  registry : s.registry = r
  nextLock : s.nextLock = n

section

variable (sha256 : Bytes → Bytes) {s t : System} {ts : List Task} {r r' : Registry} {n : LockId}

theorem getElem?_last {τ : Task} (h : Last ts τ r n s) : s.tasks[ts.length]? = some τ := by
  rw [h.tasks]
  simp

theorem set_last (τ τ' : Task) : (ts ++ [τ]).set ts.length τ' = ts ++ [τ'] := by
  simp

theorem Last.proceed {m : LockId} {φ φ' : Phase} (h : Last ts (.holding m φ) r n s)
    (random : RandomLease) (ha : φ.advance sha256 r 0 random = some (r', .inl φ')) :
    ∃ t, Steps (System.step sha256) s (.proceed ts.length 0 random) t ∧
      Last ts (.holding m φ') r' n t := by
  have hstep : s.step sha256 (.proceed ts.length 0 random) =
      some { s.update r' ts.length (.holding m φ') with drawn := s.draw (.inl φ') } := by
    simp only [System.step, getElem?_last h, h.registry, ha]
  refine ⟨_, ⟨rfl, hstep⟩, ?_, rfl, h.nextLock⟩
  simp only [System.update, h.tasks, set_last]

/-- A record of time 0 is not old at time 0. -/
theorem maintain_current (h : ∀ p l, r.leases.get p = some l → l.route.isSome = true ∧
    l.updatedAt = 0) : ∃ c, r.maintain 0 = { r with maintenanceCalls := c } := by
  simp only [Registry.maintain]
  split
  · exact ⟨_, rfl⟩
  · have hsame : (r.leases.filterMap fun _ => Registry.swept 0) = r.leases := by
      apply Table.filterMap_eq_self
      intro p l hl
      obtain ⟨hroute, htime⟩ := h p l hl
      simp [Registry.swept, LeaseRecord.expire, LeaseRecord.expired, hroute, leaseTtl, secs]
    exact ⟨_, by rw [hsame]⟩

theorem expireRoute_absent {p : String} (h : r.leases.get p = none) (now : Instant) :
    r.expireRoute p now = r := by
  have hsame : r.leases.modify p (LeaseRecord.expire now) = r.leases := by
    apply Table.filterMap_eq_self
    intro k l hk
    rw [if_neg]
    rintro rfl
    rw [h] at hk
    cases hk
  simp only [Registry.expireRoute, hsame]

variable {k pending : Nat}

/-- The registry once the next peer has its mutex. -/
def System.lockNext (s : System) (k : Nat) : Registry :=
  { s.registry with peerLocks := s.registry.peerLocks.insert (peerName k) s.nextLock }

theorem Filled.arrived (h : Filled k pending s) (hk : k < maxPeerLocks) :
    ∃ t, Steps (System.step sha256) s (.call (.registration (fillRequest k))) t ∧
      Last s.tasks (.waiting s.nextLock (.registration (fillRequest k))) (s.lockNext k)
        (s.nextLock + 1) t := by
  have hlock := (h.free k (Nat.le_refl k)).2.2
  have hlen : ¬ s.registry.peerLocks.len ≥ maxPeerLocks := by
    rw [h.locks]
    omega
  have hpruned : s.prunedLocks = s.registry.peerLocks := by rw [System.prunedLocks, if_neg hlen]
  have hpeer : (Call.registration (fillRequest k)).peerId = peerName k := rfl
  refine ⟨s.arrive (.registration (fillRequest k)), ⟨rfl, rfl⟩, ?_⟩
  rw [System.arrive]
  simp only [fillRequest_refusal, hpeer, hlock, hpruned, if_neg hlen]
  exact ⟨rfl, rfl, rfl⟩

theorem Filled.entered (h : Filled k pending s) (hk : k < maxPeerLocks) :
    ∃ ls t, Run (Steps (System.step sha256)) s ls t ∧
      Last s.tasks (.holding s.nextLock (.entered (.registration (fillRequest k)))) (s.lockNext k)
        (s.nextLock + 1) t := by
  obtain ⟨t, hstep, hlast⟩ := h.arrived sha256 hk
  have hfree : t.tasks.any (Task.holds s.nextLock) = false := by
    rw [hlast.tasks, List.any_append, List.any_eq_false.mpr]
    · rfl
    · intro τ hτ hm
      exact Nat.lt_irrefl _ (h.unlocked τ hτ _ hm)
  have hlock : Steps (System.step sha256) t (.lock s.tasks.length) (t.update (s.lockNext k)
      s.tasks.length (.holding s.nextLock (.entered (.registration (fillRequest k))))) := by
    refine ⟨rfl, ?_⟩
    simp only [System.step, getElem?_last hlast, hfree, hlast.registry]
    rfl
  refine ⟨_, _, (Run.single hstep).snoc hlock, ?_, rfl, hlast.nextLock⟩
  simp only [System.update, hlast.tasks, set_last]

/-- The next peer registers, up to the check of its burst. -/
theorem Filled.admitted (h : Filled k pending s) (hk : k < maxPeerLocks) : ∃ ls t r,
    Run (Steps (System.step sha256)) s ls t ∧
    Last s.tasks (.holding s.nextLock (.admitted (fillRequest k) none false)) r (s.nextLock + 1) t ∧
    r.v2Peers = s.registry.v2Peers ∧ r.leases = s.registry.leases ∧
    r.pendingNewLeases = pending ∧
    r.peerLocks = s.registry.peerLocks.insert (peerName k) s.nextLock := by
  obtain ⟨ls, s₁, h₁, hentered⟩ := h.entered sha256 hk
  obtain ⟨c, hc⟩ := maintain_current (r := s.lockNext k) h.current
  have hnone : ((s.lockNext k).maintain 0).leases.get (fillRequest k).peerId = none := by
    rw [hc]
    exact (h.free k (Nat.le_refl k)).2.1
  obtain ⟨s₂, h₂, hmaintained⟩ := hentered.proceed sha256 (sampleLease 7) rfl
  obtain ⟨s₃, h₃, hexpired⟩ := hmaintained.proceed sha256 (sampleLease 7)
    (by rw [Phase.advance, expireRoute_absent hnone])
  obtain ⟨s₄, h₄, hunleased⟩ := hexpired.proceed sha256 (sampleLease 7)
    (by rw [Phase.advance, readRegistration, hnone]; rfl)
  obtain ⟨s₅, h₅, hadmitted⟩ := hunleased.proceed sha256 (sampleLease 7) rfl
  refine ⟨_, s₅, _, (((h₁.snoc h₂).snoc h₃).snoc h₄).snoc h₅, hadmitted, ?_⟩
  rw [hc]
  exact ⟨rfl, rfl, h.pending, rfl⟩

/-- Then it goes into `v2_peers`. -/
theorem Filled.remembered (h : Filled k pending s) (hk : k < maxV2Peers) : ∃ ls a t r,
    Run (Steps (System.step sha256)) s ls a ∧
    Steps (System.step sha256) a (.proceed s.tasks.length 0 (sampleLease 7)) t ∧
    a.registry.v2Peers = s.registry.v2Peers ∧
    Last s.tasks (.holding s.nextLock (.remembered (fillRequest k) none false)) r
      (s.nextLock + 1) t ∧
    r.v2Peers = insert (peerName k) s.registry.v2Peers ∧ r.leases = s.registry.leases ∧
    r.pendingNewLeases = pending ∧
    r.peerLocks = s.registry.peerLocks.insert (peerName k) s.nextLock := by
  obtain ⟨ls, a, r, hrun, hlast, hv, hl, hp, hm⟩ := h.admitted sha256 hk
  have hnew : (fillRequest k).peerId ∉ r.v2Peers := by
    rw [hv]
    exact (h.free k (Nat.le_refl k)).1
  have hroom : ¬ r.v2Peers.card ≥ maxV2Peers := by
    rw [hv, h.v2Peers]
    omega
  obtain ⟨t, hstep, ht⟩ := hlast.proceed sha256 (sampleLease 7)
    (by rw [Phase.advance, Registry.rememberV2Peer, if_neg hnew, if_neg hroom])
  refine ⟨ls, a, t, _, hrun, hstep, by rw [hlast.registry, hv], ht, ?_, hl, hp, hm⟩
  rw [hv]
  rfl

/-- It gets its reservation and its claim. -/
theorem Filled.claimed (h : Filled k 0 s) (hk : k < maxLeases) : ∃ ls t r c,
    Run (Steps (System.step sha256)) s ls t ∧
    Last s.tasks (.holding s.nextLock (.activation c)) r (s.nextLock + 1) t ∧
    c.peerId = peerName k ∧ c.tracked = true ∧ c.capacityReserved = true ∧
    r.v2Peers = insert (peerName k) s.registry.v2Peers ∧ r.leases = s.registry.leases ∧
    r.pendingNewLeases = 1 ∧
    r.peerLocks = s.registry.peerLocks.insert (peerName k) s.nextLock := by
  obtain ⟨ls, a, b, r, hrun, hstep, -, hlast, hv, hl, hp, hm⟩ := h.remembered sha256 hk
  obtain ⟨c, hc, hcounted⟩ := hlast.proceed sha256 (sampleLease 7) rfl
  have hroom : ¬ min (r.leases.len + r.pendingNewLeases) u64Max ≥ maxLeases := by
    rw [hl, hp, h.leases]
    omega
  obtain ⟨d, hd, hclaim⟩ := hcounted.proceed sha256 (sampleLease 7)
    (by rw [Phase.advance, Registry.reserveLeaseCapacity, if_neg hroom])
  refine ⟨_, d, _, _, ((hrun.snoc hstep).snoc hc).snoc hd, hclaim, rfl, rfl, rfl, hv, hl, ?_, hm⟩
  simp [Registry.advanceGeneration, hp]

theorem Last.commit {m : LockId} {c : ActivationClaim} (h : Last ts (.holding m (.activation c)) r n s)
    (hc : c.capacityReserved = true) (route : RouteKind) :
    ∃ t, Steps (System.step sha256) s (.commitActivation ts.length route 0) t ∧
      Last ts (.stored m c) (c.commit r route 0) n t := by
  have hstep : s.step sha256 (.commitActivation ts.length route 0) =
      some (s.update (c.commit r route 0) ts.length (.stored m c)) := by
    simp only [System.step, getElem?_last h, h.registry, hc, if_true]
  refine ⟨_, ⟨rfl, hstep⟩, ?_, rfl, h.nextLock⟩
  simp only [System.update, h.tasks, set_last]

theorem Last.release {m : LockId} {c : ActivationClaim} (h : Last ts (.stored m c) r n s) :
    ∃ t, Steps (System.step sha256) s (.proceed ts.length 0 (sampleLease 7)) t ∧
      Last ts (.finished .committed) (r.release c.capacityReserved) n t := by
  have hstep : s.step sha256 (.proceed ts.length 0 (sampleLease 7)) =
      some (s.update (r.release c.capacityReserved) ts.length (.finished .committed)) := by
    simp only [System.step, getElem?_last h, h.registry]
  refine ⟨_, ⟨rfl, hstep⟩, ?_, rfl, h.nextLock⟩
  simp only [System.update, h.tasks, set_last]

/-- The next peer has stored its record and still has its reservation. -/
theorem Filled.stored (h : Filled k 0 s) (hk : k < maxLeases) : ∃ ls t r c,
    Run (Steps (System.step sha256)) s ls t ∧
    Last s.tasks (.stored s.nextLock c) r (s.nextLock + 1) t ∧ c.capacityReserved = true ∧
    Filled (k + 1) 1 t := by
  obtain ⟨ls, a, r, c, hrun, hlast, hpeer, htr, hres, hv, hl, hp, hm⟩ :=
    h.claimed sha256 hk
  obtain ⟨t, hstep, ht⟩ := hlast.commit sha256 hres (.webSocket 1 1)
  obtain ⟨hnew, hnone, hlock⟩ := h.free k (Nat.le_refl k)
  have hreg : t.registry = { r with
      leases := s.registry.leases.insert (peerName k) (c.record (.webSocket 1 1) 0) } := by
    rw [ht.registry, ActivationClaim.commit, htr, hpeer, hl]
    rfl
  refine ⟨_, t, _, c, hrun.snoc hstep, ht, hres, ?_, ?_, ?_, ?_, ?_, ?_, ?_⟩
  · intro τ hτ m hτm
    rw [ht.nextLock]
    rw [ht.tasks, List.mem_append, List.mem_singleton] at hτ
    rcases hτ with hτ | rfl
    · exact Nat.lt_succ_of_lt (h.unlocked τ hτ m hτm)
    · simp only [Task.holds, beq_iff_eq] at hτm
      exact hτm ▸ Nat.lt_succ_self _
  · rw [hreg, hv, Finset.card_insert_of_notMem hnew, h.v2Peers]
  · rw [hreg, Table.len_insert, h.leases]
    exact if_pos hnone
  · rw [hreg, hm, Table.len_insert, if_pos hlock, h.locks]
  · rw [hreg, hp]
  · intro p l hpl
    rw [System.lease, hreg, Table.get_insert] at hpl
    split at hpl
    · cases hpl
      exact ⟨rfl, rfl⟩
    · exact h.current p l hpl
  · intro j hj
    obtain ⟨h1, h2, h3⟩ := h.free j (by omega)
    have hne : peerName j ≠ peerName k := by
      intro he
      have := peerName_inj he
      omega
    rw [System.lease, hreg, hv, hm, Table.get_insert, Table.get_insert, if_neg hne, if_neg hne]
    exact ⟨by simp [hne, h1], h2, h3⟩

/-- The next peer is registered. -/
theorem Filled.registered (h : Filled k 0 s) (hk : k < maxLeases) : ∃ ls t,
    Run (Steps (System.step sha256)) s ls t ∧ Filled (k + 1) 0 t := by
  obtain ⟨ls, a, r, c, hrun, hlast, hres, hfilled⟩ := h.stored sha256 hk
  obtain ⟨t, hstep, ht⟩ := hlast.release sha256
  have hpend : r.pendingNewLeases = 1 := hlast.registry ▸ hfilled.pending
  have hreg : t.registry = { a.registry with pendingNewLeases := 0 } := by
    rw [ht.registry, Registry.release, if_pos hres, hpend, hlast.registry]
  refine ⟨_, t, hrun.snoc hstep, ?_, ?_, ?_, ?_, ?_, ?_, ?_⟩
  · intro τ hτ m hτm
    rw [ht.tasks, List.mem_append, List.mem_singleton] at hτ
    rcases hτ with hτ | rfl
    · have := hfilled.unlocked τ (by rw [hlast.tasks]; exact List.mem_append_left _ hτ) m hτm
      rwa [ht.nextLock, ← hlast.nextLock]
    · cases hτm
  · rw [hreg]; exact hfilled.v2Peers
  · rw [hreg]; exact hfilled.leases
  · rw [hreg]; exact hfilled.locks
  · rw [hreg]
  · unfold System.lease; rw [hreg]; exact hfilled.current
  · unfold System.lease; rw [hreg]; exact hfilled.free

/-- So many peers can be registered one after the other. -/
theorem filled_run (sha256 : Bytes → Bytes) (k : Nat) (hk : k ≤ maxLeases) : ∃ ls s,
    Run (Steps (System.step sha256)) System.init ls s ∧ Filled k 0 s := by
  induction k with
  | zero =>
    refine ⟨[], _, .nil _, ?_, rfl, rfl, rfl, rfl, ?_, ?_⟩
    · intro τ hτ
      simp [System.init] at hτ
    · intro p r hr
      simp [System.lease, System.init, Registry.default] at hr
    · intro j _
      simp [System.lease, System.init, Registry.default]
  | succ k ih =>
    obtain ⟨ls, s, hrun, hs⟩ := ih (by omega)
    obtain ⟨ls', t, hrun', ht⟩ := hs.registered sha256 (by omega)
    exact ⟨_, t, hrun.append hrun', ht⟩

end

/-- With one commit between its insertion and its `fetch_sub`, the last peer that there is room
for goes into `v2_peers` and is then refused. -/
theorem full_table_refusal_remembered :
    ¬ ∀ (ls ls' : List Step) (s t u : System) (l : Step),
      Run (Steps (System.step id)) System.init ls s → Steps (System.step id) s l t →
      Run (Steps (System.step id)) t ls' u → Bookkeeping id s l t u := by
  intro hall
  obtain ⟨ls, s, hrun, hs⟩ := filled_run id 99998 (by decide)
  obtain ⟨ls₁, s₁, r₁, c, hrun₁, hlast₁, -, hs₁⟩ := hs.stored id (by decide)
  obtain ⟨ls₂, a, t, r, hrun₂, hstep, hva, hlast, hv, hl, hp, -⟩ :=
    hs₁.remembered id (by decide)
  obtain ⟨b, hb, hcounted⟩ := hlast.proceed id (sampleLease 7) rfl
  have hfull : min (r.leases.len + r.pendingNewLeases) u64Max ≥ maxLeases := by
    rw [hl, hs₁.leases, hp]
    decide
  have hrefused : b.step id (.proceed s₁.tasks.length 0 (sampleLease 7)) =
      some (b.update r s₁.tasks.length (.finished (.refused .capacity))) := by
    simp only [System.step, getElem?_last hcounted, hcounted.registry, Phase.advance,
      Registry.reserveLeaseCapacity, if_pos hfull]
    rfl
  have hend : (b.update r s₁.tasks.length (.finished (.refused .capacity))).tasks[s₁.tasks.length]? =
      some (.finished (.refused .capacity)) := by
    simp [System.update, hcounted.tasks]
  have hkept := ((hall _ _ a t _ _ ((hrun.append hrun₁).append hrun₂) hstep
    ((Run.single hb).snoc ⟨rfl, hrefused⟩)).refused _ .capacity rfl hend).1
  rw [hlast.registry, hv, hva] at hkept
  exact (hs₁.free 99999 (Nat.le_refl _)).1 (hkept ▸ Finset.mem_insert_self _ _)

end Starry.Activation
