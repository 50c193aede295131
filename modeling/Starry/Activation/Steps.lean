import Starry.Activation.Tasks

/-!
# What one step can do

Each proof about runs starts from the lemmas of this file: which record a step may change and
how (`step_change`), where a task may get to (`step_holding`), and what happens to the
generation counter and to the drawn leases.
-/

open Library

namespace Starry.Activation

/-! ## One record -/

/-- A change that installs nothing: the record is touched, its route is cleared, or it has none
and is swept away. -/
inductive Quiet : Option LeaseRecord → Option LeaseRecord → Prop
  | same (o : Option LeaseRecord) : Quiet o o
  | touched (r : LeaseRecord) (now : Instant) : Quiet (some r) (some { r with updatedAt := now })
  | cleared (r : LeaseRecord) (now : Instant) (h : r.route.isSome) :
      Quiet (some r) (some (r.clear now))
  | swept (r : LeaseRecord) (h : r.route = none) : Quiet (some r) none

theorem expire_cases (now : Instant) (r : LeaseRecord) :
    r.expire now = r ∨ r.route.isSome ∧ r.expire now = r.clear now := by
  unfold LeaseRecord.expire
  split
  · rename_i h
    simp only [LeaseRecord.expired, Bool.and_eq_true] at h
    exact .inr ⟨h.1, rfl⟩
  · exact .inl rfl

theorem disconnect_cases (route : RouteKind) (now : Instant) (r : LeaseRecord) :
    r.disconnect route now = r ∨ r.route.isSome ∧ r.disconnect route now = r.clear now := by
  unfold LeaseRecord.disconnect
  split
  · rename_i h
    simp only [Bool.and_eq_true, beq_iff_eq] at h
    exact .inr ⟨by simp [h.2], rfl⟩
  · exact .inl rfl

theorem touch_cases (route : RouteKind) (now : Instant) (r : LeaseRecord) :
    r.touch route now = r ∨ r.touch route now = { r with updatedAt := now } := by
  unfold LeaseRecord.touch
  split
  · exact .inr rfl
  · exact .inl rfl

theorem quiet_of_cases {r r' : LeaseRecord} {now : Instant}
    (h : r' = r ∨ r.route.isSome ∧ r' = r.clear now) : Quiet (some r) (some r') := by
  rcases h with rfl | ⟨hr, rfl⟩
  · exact .same _
  · exact .cleared r now hr

theorem swept_quiet (now : Instant) (r : LeaseRecord) :
    Quiet (some r) (Registry.swept now r) := by
  unfold Registry.swept
  rcases expire_cases now r with h | ⟨hr, h⟩
  · simp only [h]
    split
    · exact .same _
    · rename_i hn
      simp only [Bool.or_eq_true, not_or, Bool.not_eq_true, Option.isSome_eq_false_iff,
        Option.isNone_iff_eq_none] at hn
      exact .swept r hn.1
  · -- A record that expires now was updated now, so the sweep keeps it.
    simp only [h]
    rw [if_pos (by simp [LeaseRecord.clear, recordRetention, secs])]
    exact .cleared r now hr

/-! ## The sections of the registry -/

namespace Registry

variable (r : Registry) (p : String)

theorem expireRoute_quiet (q : String) (now : Instant) :
    Quiet (r.leases.get p) ((r.expireRoute q now).leases.get p) := by
  simp only [expireRoute, Table.get_modify]
  split
  · rename_i h; subst h
    cases r.leases.get p with
    | none => exact .same _
    | some l => exact quiet_of_cases (expire_cases now l)
  · exact .same _

theorem maintain_quiet (now : Instant) :
    Quiet (r.leases.get p) ((r.maintain now).leases.get p) := by
  simp only [maintain]
  split
  · exact .same _
  · simp only [Table.get_filterMap]
    cases r.leases.get p with
    | none => exact .same _
    | some l => exact swept_quiet now l

theorem disconnectRoute_quiet (q : String) (route : RouteKind) (now : Instant) :
    Quiet (r.leases.get p) ((r.disconnectRoute q route now).leases.get p) := by
  simp only [disconnectRoute, Table.get_modify]
  split
  · rename_i h; subst h
    cases r.leases.get p with
    | none => exact .same _
    | some l => exact quiet_of_cases (disconnect_cases route now l)
  · exact .same _

/-- What a drain leaves under `p`: the first matching route clears it, later ones find nothing. -/
theorem disconnectWebsocketRoutesNow_get (routes : List (String × Nat × Nat)) (now : Instant) :
    (r.disconnectWebsocketRoutesNow routes now).leases.get p = r.leases.get p ∨
    ∃ l, r.leases.get p = some l ∧ l.route.isSome ∧
      (r.disconnectWebsocketRoutesNow routes now).leases.get p = some (l.clear now) := by
  induction routes generalizing r with
  | nil => exact .inl rfl
  | cons route routes ih =>
    rw [disconnectWebsocketRoutesNow, List.foldl_cons, ← disconnectWebsocketRoutesNow]
    have hstep : (r.disconnectRoute route.1 (.webSocket route.2.1 route.2.2) now).leases.get p =
        r.leases.get p ∨ ∃ l, r.leases.get p = some l ∧ l.route.isSome ∧
        (r.disconnectRoute route.1 (.webSocket route.2.1 route.2.2) now).leases.get p =
          some (l.clear now) := by
      simp only [disconnectRoute, Table.get_modify]
      split
      · rename_i h; subst h
        cases r.leases.get route.1 with
        | none => exact .inl rfl
        | some l =>
          rcases disconnect_cases (.webSocket route.2.1 route.2.2) now l with h | ⟨hl, h⟩
          · left; simp [h]
          · right; exact ⟨l, rfl, hl, by simp [h]⟩
      · exact .inl rfl
    rcases ih (r.disconnectRoute route.1 (.webSocket route.2.1 route.2.2) now) with h | ⟨l, hl, hs, h⟩
    · rw [h]; exact hstep
    · rcases hstep with h1 | ⟨l1, _, _, h2⟩
      · right; exact ⟨l, h1 ▸ hl, hs, h⟩
      · -- The route is gone after the first clearing, so it is not cleared again.
        rw [h2] at hl
        obtain rfl := Option.some.inj hl
        simp [LeaseRecord.clear] at hs

theorem checkBurst_eq (sha256 : Bytes → Bytes) (q : RegistrationRequest) (now : Instant) :
    ∃ b, (r.checkBurst sha256 q now).2 = { r with bursts := b } := by
  simp only [checkBurst]
  split_ifs <;> exact ⟨_, rfl⟩

theorem rememberV2Peer_cases (q : String) :
    (r.v2Peers.card ≥ maxV2Peers ∧ r.rememberV2Peer q = (some .capacity, r)) ∨
    (q ∈ r.v2Peers ∨ r.v2Peers.card < maxV2Peers) ∧
      r.rememberV2Peer q = (none, { r with v2Peers := insert q r.v2Peers }) := by
  simp only [rememberV2Peer]
  split
  · rename_i h
    exact .inr ⟨.inl h, by rw [Finset.insert_eq_of_mem h]⟩
  · split
    · exact .inl ⟨‹_›, rfl⟩
    · exact .inr ⟨.inr (by omega), rfl⟩

theorem reserveLeaseCapacity_cases (active : Nat) :
    (maxLeases ≤ active + r.pendingNewLeases ∧
      r.reserveLeaseCapacity active = (some .capacity, r)) ∨
    active + r.pendingNewLeases < maxLeases ∧ r.reserveLeaseCapacity active =
      (none, { r with pendingNewLeases := r.pendingNewLeases + 1 }) := by
  simp only [reserveLeaseCapacity]
  split
  · exact .inl ⟨by omega, rfl⟩
  · rename_i h
    refine .inr ⟨?_, rfl⟩
    simp only [u64Max, maxLeases] at *
    omega

theorem release_eq (b : Bool) : ∃ n, r.release b = { r with pendingNewLeases := n } := by
  unfold release
  split
  · exact ⟨_, rfl⟩
  · exact ⟨_, rfl⟩

@[simp] theorem release_leases (b : Bool) : (r.release b).leases = r.leases := by
  obtain ⟨n, h⟩ := r.release_eq b; rw [h]

@[simp] theorem release_peerLocks (b : Bool) : (r.release b).peerLocks = r.peerLocks := by
  obtain ⟨n, h⟩ := r.release_eq b; rw [h]

@[simp] theorem release_nextGeneration (b : Bool) :
    (r.release b).nextGeneration = r.nextGeneration := by
  obtain ⟨n, h⟩ := r.release_eq b; rw [h]

end Registry

/-! ## One section of a task -/

/-- The sections after which a task still holds its mutex. -/
inductive Moves (r : Registry) (now : Instant) (random : RandomLease) :
    Phase → Phase → Registry → Prop
  | maintained (q : RegistrationRequest) :
      Moves r now random (.entered (.registration q)) (.maintained q now) (r.maintain now)
  | expired (call : Call) :
      Moves r now random (.entered call) (.expired call now) (r.expireRoute call.peerId now)
  | expiredRegistration (q : RegistrationRequest) (t : Instant) :
      Moves r now random (.maintained q t) (.expired (.registration q) t) (r.expireRoute q.peerId t)
  | legacy (q : RegistrationRequest) (t : Instant) (h : q.peerId ∉ r.v2Peers) :
      Moves r now random (.expired (.registration q) t) (.activation (legacyClaim r q))
        r.advanceGeneration
  | reuse (q : RegistrationRequest) (t : Instant) (current : LeaseRecord)
      (b : Table IdentityKey (List Instant))
      (h : Registry.lookupRegistration (r.leases.get q.peerId) q = .reuse current) :
      Moves r now random (.expired (.registration q) t) (.activation (reuseClaim q current))
        { r with bursts := b }
  | unleased (q : RegistrationRequest) (t : Instant) (route : Option RouteKind) (existing : Bool)
      (h : Registry.lookupRegistration (r.leases.get q.peerId) q = .fresh route existing) :
      Moves r now random (.expired (.registration q) t) (.unleased q t route existing) r
  | admitted (q : RegistrationRequest) (t : Instant) (route : Option RouteKind) (existing : Bool)
      (b : Table IdentityKey (List Instant)) :
      Moves r now random (.unleased q t route existing) (.admitted q route existing)
        { r with bursts := b }
  | remembered (q : RegistrationRequest) (route : Option RouteKind) (existing : Bool)
      (h : q.peerId ∈ r.v2Peers ∨ r.v2Peers.card < maxV2Peers) :
      Moves r now random (.admitted q route existing) (.remembered q route existing)
        { r with v2Peers := insert q.peerId r.v2Peers }
  | fresh (q : RegistrationRequest) (route : Option RouteKind) :
      Moves r now random (.remembered q route true)
        (.activation (freshClaim r q route false random)) r.advanceGeneration
  | counted (q : RegistrationRequest) (route : Option RouteKind) :
      Moves r now random (.remembered q route false) (.counted q route r.leases.len) r
  | reserved (q : RegistrationRequest) (route : Option RouteKind) (active : Nat) :
      Moves r now random (.counted q route active)
        (.activation (freshClaim r q route true random))
        { r with pendingNewLeases := r.pendingNewLeases + 1 }.advanceGeneration
  | renewal (q : RenewalRequest) (t : Instant) (generation : Nat) (route : Option RouteKind)
      (tracked : Bool)
      (h : Registry.lookupRenewal (r.leases.get q.peerId) q = some (generation, route, tracked)) :
      Moves r now random (.expired (.renewal q) t)
        (.renewal ⟨q.peerId, generation, route, tracked⟩) r
  | deactivation (q : DeactivationRequest) (t : Instant) (generation : Nat) (route : RouteKind)
      (h : Registry.lookupDeactivation (r.leases.get q.peerId) q = some (generation, route)) :
      Moves r now random (.expired (.deactivation q) t)
        (.deactivation ⟨q.peerId, q.activationEpoch, generation, route⟩) r

section

variable {sha256 : Bytes → Bytes} {r r' : Registry} {now : Instant} {random : RandomLease}
  {φ φ' : Phase} {next : Phase ⊕ Outcome}

/-- A burst check changes only `bursts`, and then goes on or refuses. -/
theorem burstThen_cases (sha256 : Bytes → Bytes) (r : Registry) (q : RegistrationRequest)
    (now : Instant) (φ : Phase) :
    (∃ b, burstThen sha256 r q now φ = ({ r with bursts := b }, .inl φ)) ∨
    ∃ b e, burstThen sha256 r q now φ = ({ r with bursts := b }, .inr (.refused e)) := by
  obtain ⟨b, hb⟩ := r.checkBurst_eq sha256 q now
  unfold burstThen
  split
  · split
    · rename_i e r1 h
      rw [h] at hb
      exact .inr ⟨b, e, by rw [← hb]⟩
    · rename_i r1 h
      rw [h] at hb
      exact .inl ⟨b, by rw [← hb]⟩
  · exact .inl ⟨r.bursts, rfl⟩

theorem readRegistration_moves {q : RegistrationRequest} {t : Instant}
    (h : readRegistration sha256 r q t = (r', .inl φ')) :
    Moves r now random (.expired (.registration q) t) φ' r' := by
  unfold readRegistration at h
  split at h
  · split at h
    · cases h
    · rename_i hv
      cases h
      exact .legacy q t hv
  · split at h
    · cases h
    · rename_i current hl
      rcases burstThen_cases sha256 r q t (.activation (reuseClaim q current)) with ⟨b, hb⟩ | ⟨b, e, hb⟩
      · rw [hb] at h
        cases h
        exact .reuse q t current b hl
      · rw [hb] at h
        cases h
    · rename_i route existing hl
      cases h
      exact .unleased q t route existing hl

theorem advance_moves (h : φ.advance sha256 r now random = some (r', .inl φ')) :
    Moves r now random φ φ' r' := by
  cases φ with
  | entered call =>
    cases call <;> simp only [Phase.advance, Option.some.injEq, Prod.mk.injEq, reduceCtorEq,
      and_false, Sum.inl.injEq] at h
    all_goals obtain ⟨rfl, rfl⟩ := h
    · exact .maintained _
    all_goals exact .expired _
  | maintained q t =>
    simp only [Phase.advance, Option.some.injEq, Prod.mk.injEq, Sum.inl.injEq] at h
    obtain ⟨rfl, rfl⟩ := h
    exact .expiredRegistration q t
  | expired call t =>
    cases call with
    | registration q =>
      simp only [Phase.advance, Option.some.injEq] at h
      exact readRegistration_moves h
    | renewal q =>
      simp only [Phase.advance] at h
      split at h
      · rename_i hl
        simp only [Option.some.injEq, Prod.mk.injEq, Sum.inl.injEq] at h
        obtain ⟨rfl, rfl⟩ := h
        exact .renewal q t _ _ _ hl
      · cases h
    | deactivation q =>
      simp only [Phase.advance] at h
      split at h
      · rename_i hl
        simp only [Option.some.injEq, Prod.mk.injEq, Sum.inl.injEq] at h
        obtain ⟨rfl, rfl⟩ := h
        exact .deactivation q t _ _ hl
      · cases h
    | touch p route => cases h
    | disconnect p route => cases h
    | verify q => cases h
  | unleased q t route existing =>
    simp only [Phase.advance, Option.some.injEq] at h
    rcases burstThen_cases sha256 r q t (.admitted q route existing) with ⟨b, hb⟩ | ⟨b, e, hb⟩
    · rw [hb] at h
      cases h
      exact .admitted q t route existing b
    · rw [hb] at h
      cases h
  | admitted q route existing =>
    rcases r.rememberV2Peer_cases q.peerId with ⟨-, hr⟩ | ⟨hv, hr⟩
    · simp only [Phase.advance, hr] at h
      cases h
    · simp only [Phase.advance, hr] at h
      cases h
      exact .remembered q route existing hv
  | remembered q route existing =>
    simp only [Phase.advance] at h
    split at h
    · rename_i he
      subst he
      cases h
      exact .fresh q route
    · rename_i he
      rw [Bool.not_eq_true] at he
      subst he
      cases h
      exact .counted q route
  | counted q route active =>
    rcases r.reserveLeaseCapacity_cases active with ⟨-, hr⟩ | ⟨-, hr⟩
    · simp only [Phase.advance, hr] at h
      cases h
    · simp only [Phase.advance, hr] at h
      cases h
      exact .reserved q route active
  | activation c => cases h
  | renewal c => cases h
  | deactivation c => cases h

/-- Whether the registration has its peer among `v2_peers`, or a claim. -/
def Phase.claimed : Phase → Bool
  | .remembered .. | .counted .. | .activation _ => true
  | _ => false

/-- The sections that end a task. -/
inductive Ends (r : Registry) (now : Instant) : Phase → Outcome → Registry → Prop
  | touched (p : String) (route : RouteKind) (b : Bool) :
      Ends r now (.entered (.touch p route)) (.answered b) (r.touchRoute p route now)
  | disconnected (p : String) (route : RouteKind) (b : Bool) :
      Ends r now (.entered (.disconnect p route)) (.answered b) (r.disconnectRoute p route now)
  | verified (q : VerifyRequest) (t : Instant) :
      Ends r now (.expired (.verify q) t)
        (.answered (Registry.verified (r.leases.get q.peerId) q)) r
  | refused (φ : Phase) (e : ActivationError) (b : Table IdentityKey (List Instant))
      (h : φ.claimed = false) : Ends r now φ (.refused e) { r with bursts := b }
  | full (q : RegistrationRequest) (route : Option RouteKind) (active : Nat)
      (h : maxLeases ≤ active + r.pendingNewLeases) :
      Ends r now (.counted q route active) (.refused .capacity) r

theorem Ends.stale (φ : Phase) (h : φ.claimed = false) : Ends r now φ (.refused .stale) r :=
  .refused φ .stale r.bursts h

theorem burstThen_ends {q : RegistrationRequest} {t : Instant} {o : Outcome} {ψ : Phase}
    (hφ : φ.claimed = false) (h : burstThen sha256 r q t ψ = (r', .inr o)) : Ends r now φ o r' := by
  rcases burstThen_cases sha256 r q t ψ with ⟨b, hb⟩ | ⟨b, e, hb⟩
  · rw [hb] at h
    cases h
  · rw [hb] at h
    cases h
    exact .refused φ e b hφ

theorem advance_ends {o : Outcome} (h : φ.advance sha256 r now random = some (r', .inr o)) :
    Ends r now φ o r' := by
  cases φ with
  | entered call =>
    cases call <;> simp only [Phase.advance, Option.some.injEq, Prod.mk.injEq, reduceCtorEq,
      and_false, Sum.inr.injEq] at h
    all_goals obtain ⟨rfl, rfl⟩ := h
    · exact .touched ..
    · exact .disconnected ..
  | maintained q t => cases h
  | expired call t =>
    cases call with
    | registration q =>
      simp only [Phase.advance, Option.some.injEq, readRegistration] at h
      split at h
      · split at h
        · cases h
          exact .stale _ rfl
        · cases h
      · split at h
        · cases h
          exact .stale _ rfl
        · exact burstThen_ends rfl h
        · cases h
    | renewal q =>
      simp only [Phase.advance] at h
      split at h
      · cases h
      · cases h
        exact .stale _ rfl
    | deactivation q =>
      simp only [Phase.advance] at h
      split at h
      · cases h
      · cases h
        exact .stale _ rfl
    | touch p route => cases h
    | disconnect p route => cases h
    | verify q =>
      cases h
      exact .verified q t
  | unleased q t route existing =>
    simp only [Phase.advance, Option.some.injEq] at h
    exact burstThen_ends rfl h
  | admitted q route existing =>
    rcases r.rememberV2Peer_cases q.peerId with ⟨-, hr⟩ | ⟨-, hr⟩
    · simp only [Phase.advance, hr] at h
      cases h
      exact .refused _ .capacity r.bursts rfl
    · simp only [Phase.advance, hr] at h
      cases h
  | remembered q route existing =>
    simp only [Phase.advance] at h
    split at h <;> cases h
  | counted q route active =>
    rcases r.reserveLeaseCapacity_cases active with ⟨hfull, hr⟩ | ⟨-, hr⟩
    · simp only [Phase.advance, hr] at h
      cases h
      exact .full q route active hfull
    · simp only [Phase.advance, hr] at h
      cases h
  | activation c => cases h
  | renewal c => cases h
  | deactivation c => cases h

theorem Moves.peerId (h : Moves r now random φ φ' r') : φ'.peerId = φ.peerId := by
  cases h <;> rfl

theorem Moves.pending (h : Moves r now random φ φ' r') {c : Call} (hc : φ'.pending = some c) :
    φ.pending = some c := by
  cases h <;> cases hc <;> rfl

theorem Moves.quiet (h : Moves r now random φ φ' r') (p : String) :
    Quiet (r.leases.get p) (r'.leases.get p) := by
  cases h with
  | maintained q => exact r.maintain_quiet p now
  | expired call => exact r.expireRoute_quiet p _ now
  | expiredRegistration q t => exact r.expireRoute_quiet p _ t
  | _ => exact .same _

theorem Moves.peerLocks (h : Moves r now random φ φ' r') : r'.peerLocks = r.peerLocks := by
  cases h with
  | maintained q => simp only [Registry.maintain]; split <;> rfl
  | _ => rfl

theorem Moves.nextGeneration (h : Moves r now random φ φ' r') :
    r'.nextGeneration = r.nextGeneration ∨
      r'.nextGeneration = (r.nextGeneration + 1) % 2 ^ 64 := by
  cases h with
  | maintained q => left; simp only [Registry.maintain]; split <;> rfl
  | legacy | fresh | reserved => exact .inr rfl
  | _ => exact .inl rfl

theorem Ends.peerLocks {o : Outcome} (h : Ends r now φ o r') : r'.peerLocks = r.peerLocks := by
  cases h <;> rfl

theorem Ends.nextGeneration {o : Outcome} (h : Ends r now φ o r') :
    r'.nextGeneration = r.nextGeneration := by
  cases h <;> rfl

end

/-! ## One step -/

/-- How step `l` may change the record of `p`. -/
inductive Change (s : System) (p : String) : Step → Option LeaseRecord → Option LeaseRecord → Prop
  | quiet {l : Step} {o o' : Option LeaseRecord} (h : Quiet o o') : Change s p l o o'
  | activated {i : Nat} {route : RouteKind} {now : Instant} {m : LockId} {c : ActivationClaim}
      (o : Option LeaseRecord) (ht : s.tasks[i]? = some (.holding m (.activation c)))
      (hc : c.tracked = true) (hp : c.peerId = p) :
      Change s p (.commitActivation i route now) o (some (c.record route now))
  | renewed {i : Nat} {route : RouteKind} {now : Instant} {m : LockId} {c : RenewalClaim}
      (r : LeaseRecord) (ht : s.tasks[i]? = some (.holding m (.renewal c)))
      (hc : c.tracked = true) (hp : c.peerId = p) (hr : c.matchesRecord r = true) :
      Change s p (.commitRenewal i route now) (some r)
        (some { r with route := some route, updatedAt := now })
  | retired {i : Nat} {b : Bool} {now : Instant} {m : LockId} {c : DeactivationClaim}
      (r : LeaseRecord) (ht : s.tasks[i]? = some (.holding m (.deactivation c)))
      (hp : c.peerId = p) (hr : c.matchesRecord r = true) :
      Change s p (.commitDeactivation i b now) (some r) (some { r.clear now with retired := true })

section

variable {sha256 : Bytes → Bytes} {s t : System} {l : Step}

theorem arrive_lease (s : System) (c : Call) (p : String) : (s.arrive c).lease p = s.lease p := by
  unfold System.arrive System.lease
  split
  · rfl
  · split
    · rfl
    · split <;> rfl

/-- The three ways a section can go, with what it leaves. -/
theorem proceed_cases {i : Nat} {now : Instant} {random : RandomLease}
    (h : s.step sha256 (.proceed i now random) = some t) :
    (∃ m φ φ' r, s.tasks[i]? = some (.holding m φ) ∧ Moves s.registry now random φ φ' r ∧
      t = { s.update r i (.holding m φ') with drawn := s.draw (.inl φ') }) ∨
    (∃ m φ o r, s.tasks[i]? = some (.holding m φ) ∧ Ends s.registry now φ o r ∧
      t = s.update r i (.finished o)) ∨
    ∃ m c, s.tasks[i]? = some (.stored m c) ∧
      t = s.update (s.registry.release c.capacityReserved) i (.finished .committed) := by
  simp only [System.step] at h
  split at h
  · rename_i m φ hi
    split at h
    · cases h
    · rename_i r next ha
      cases next with
      | inl φ' =>
        cases h
        exact .inl ⟨m, φ, φ', r, hi, advance_moves ha, rfl⟩
      | inr o =>
        cases h
        exact .inr (.inl ⟨m, φ, o, r, hi, advance_ends ha, rfl⟩)
  · rename_i m c hi
    cases h
    exact .inr (.inr ⟨m, c, hi, rfl⟩)
  · cases h

theorem step_change (h : s.step sha256 l = some t) (p : String) :
    Change s p l (s.lease p) (t.lease p) := by
  cases l with
  | call c =>
    cases h
    rw [arrive_lease]
    exact .quiet (.same _)
  | lock i =>
    simp only [System.step] at h
    split at h
    · split at h
      · cases h
      · cases h
        exact .quiet (.same _)
    · cases h
  | proceed i now random =>
    obtain ⟨m, φ, φ', r, hi, hm, rfl⟩ | ⟨m, φ, o, r, hi, he, rfl⟩ | ⟨m, c, hi, rfl⟩ :=
      proceed_cases h
    · exact .quiet (hm.quiet p)
    · cases he with
      | touched q route b =>
        simp only [System.lease, System.update, Registry.touchRoute, Table.get_modify]
        split
        · rename_i hp; subst hp
          cases hl : s.registry.leases.get p with
          | none => exact .quiet (.same _)
          | some l =>
            rcases touch_cases route now l with ht | ht
            · simp only [Option.map_some, ht]
              exact .quiet (.same _)
            · simp only [Option.map_some, ht]
              exact .quiet (.touched l now)
        · exact .quiet (.same _)
      | disconnected q route b => exact .quiet (s.registry.disconnectRoute_quiet p q route now)
      | verified q t => exact .quiet (.same _)
      | refused | full => exact .quiet (.same _)
    · simp only [System.lease, System.update, Registry.release_leases]
      exact .quiet (.same _)
  | commitActivation i route now =>
    simp only [System.step] at h
    split at h
    · rename_i m c hi
      cases h
      simp only [System.lease, System.update, ActivationClaim.commit]
      split
      · exact .quiet (.same _)
      · rename_i hc
        simp only [Table.get_insert]
        split
        · rename_i hp
          exact .activated _ hi (by simpa using hc) hp.symm
        · exact .quiet (.same _)
    · cases h
  | commitRenewal i route now =>
    simp only [System.step] at h
    split at h
    · rename_i m c hi
      cases h
      simp only [System.lease, System.update, RenewalClaim.commit]
      split
      · exact .quiet (.same _)
      · rename_i hc
        simp only [Table.get_modify]
        split
        · rename_i hp
          rw [← hp]
          cases s.registry.leases.get p with
          | none => exact .quiet (.same _)
          | some l =>
            simp only [Option.map_some]
            split
            · exact .renewed l hi (by simpa using hc) hp.symm ‹_›
            · exact .quiet (.same _)
        · exact .quiet (.same _)
    · cases h
  | commitDeactivation i b now =>
    simp only [System.step] at h
    split at h
    · rename_i m c hi
      cases h
      simp only [System.lease, System.update, DeactivationClaim.commit]
      split
      · exact .quiet (.same _)
      · simp only [Table.get_modify]
        split
        · rename_i hp
          rw [← hp]
          cases s.registry.leases.get p with
          | none => exact .quiet (.same _)
          | some l =>
            simp only [Option.map_some]
            split
            · exact .retired l hi hp.symm ‹_›
            · exact .quiet (.same _)
        · exact .quiet (.same _)
    · cases h
  | drop i =>
    simp only [System.step] at h
    split at h
    · cases h
      simp only [System.lease, System.update, Registry.release_leases]
      exact .quiet (.same _)
    · cases h
      exact .quiet (.same _)
    · cases h
  | disconnectWebsocketRoutesNow routes now =>
    cases h
    rcases s.registry.disconnectWebsocketRoutesNow_get p routes now with h | ⟨r, hr, hs, h⟩
    · simp only [System.lease, h]
      exact .quiet (.same _)
    · simp only [System.lease, h, hr]
      exact .quiet (.cleared r now hs)
  | nextRouteGeneration =>
    cases h
    exact .quiet (.same _)

theorem getElem?_set_cases {ts : List Task} {i j : Nat} {τ τ' : Task}
    (h : (ts.set i τ)[j]? = some τ') : ts[j]? = some τ' ∨ i = j ∧ τ = τ' := by
  rw [List.getElem?_set] at h
  split at h
  · rename_i hij
    split at h
    · exact .inr ⟨hij, Option.some.inj h⟩
    · cases h
  · exact .inl h

theorem getElem?_snoc_cases {ts : List Task} {j : Nat} {τ τ' : Task}
    (h : (ts ++ [τ])[j]? = some τ') : ts[j]? = some τ' ∨ j = ts.length ∧ τ = τ' := by
  rcases Nat.lt_or_ge j ts.length with hlt | hge
  · rw [List.getElem?_append_left hlt] at h
    exact .inl h
  · rw [List.getElem?_append_right hge, List.getElem?_singleton] at h
    split at h
    · exact .inr ⟨by omega, Option.some.inj h⟩
    · cases h

/-- A call that arrives waits for a mutex or is answered. -/
theorem arrive_task {c : Call} {j : Nat} {τ' : Task} (h : (s.arrive c).tasks[j]? = some τ') :
    s.tasks[j]? = some τ' ∨ (j = s.tasks.length ∧ ∃ m, τ' = .waiting m c) ∨
      j = s.tasks.length ∧ ∃ o, τ' = .finished o := by
  unfold System.arrive at h
  split at h
  · rcases getElem?_snoc_cases h with hs | ⟨hj, rfl⟩
    · exact .inl hs
    · exact .inr (.inr ⟨hj, _, rfl⟩)
  · split at h
    · rcases getElem?_snoc_cases h with hs | ⟨hj, rfl⟩
      · exact .inl hs
      · exact .inr (.inl ⟨hj, _, rfl⟩)
    · split at h
      · rcases getElem?_snoc_cases h with hs | ⟨hj, rfl⟩
        · exact .inl hs
        · exact .inr (.inr ⟨hj, _, rfl⟩)
      · rcases getElem?_snoc_cases h with hs | ⟨hj, rfl⟩
        · exact .inl hs
        · exact .inr (.inl ⟨hj, _, rfl⟩)

/-- How a task comes to hold its mutex in phase `φ'`. -/
theorem step_holding (h : s.step sha256 l = some t) {j : Nat} {m : LockId} {φ' : Phase}
    (hj : t.tasks[j]? = some (.holding m φ')) :
    s.tasks[j]? = some (.holding m φ') ∨
    (∃ c, l = .lock j ∧ s.tasks[j]? = some (.waiting m c) ∧ φ' = .entered c ∧
      s.tasks.any (Task.holds m) = false) ∨
    ∃ now random φ, l = .proceed j now random ∧ s.tasks[j]? = some (.holding m φ) ∧
      Moves s.registry now random φ φ' t.registry ∧ t.drawn = s.draw (.inl φ') := by
  cases l with
  | call c =>
    cases h
    left
    rcases arrive_task hj with hs | ⟨-, n, he⟩ | ⟨-, o, he⟩
    · exact hs
    · cases he
    · cases he
  | lock i =>
    simp only [System.step] at h
    split at h
    · rename_i m' c hi
      split at h
      · cases h
      · rename_i hheld
        cases h
        rcases getElem?_set_cases hj with hs | ⟨rfl, he⟩
        · exact .inl hs
        · cases he
          exact .inr (.inl ⟨c, rfl, hi, rfl, by simpa using hheld⟩)
    · cases h
  | proceed i now random =>
    obtain ⟨m', φ, ψ, r, hi, hm, rfl⟩ | ⟨m', φ, o, r, hi, he, rfl⟩ | ⟨m', c, hi, rfl⟩ :=
      proceed_cases h
    · rcases getElem?_set_cases hj with hs | ⟨rfl, he⟩
      · exact .inl hs
      · cases he
        exact .inr (.inr ⟨now, random, φ, rfl, hi, hm, rfl⟩)
    · exact .inl ((getElem?_set_cases hj).resolve_right (by simp))
    · exact .inl ((getElem?_set_cases hj).resolve_right (by simp))
  | commitActivation i route now =>
    simp only [System.step] at h
    split at h
    · cases h
      refine .inl ((getElem?_set_cases hj).resolve_right ?_)
      rintro ⟨-, he⟩
      split at he <;> cases he
    · cases h
  | commitRenewal i route now =>
    simp only [System.step] at h
    split at h
    · cases h
      exact .inl ((getElem?_set_cases hj).resolve_right (by simp))
    · cases h
  | commitDeactivation i b now =>
    simp only [System.step] at h
    split at h
    · cases h
      exact .inl ((getElem?_set_cases hj).resolve_right (by simp))
    · cases h
  | drop i =>
    simp only [System.step] at h
    split at h
    · cases h
      exact .inl ((getElem?_set_cases hj).resolve_right (by simp))
    · cases h
      exact .inl ((getElem?_set_cases hj).resolve_right (by simp))
    · cases h
  | disconnectWebsocketRoutesNow routes now =>
    cases h
    exact .inl hj
  | nextRouteGeneration =>
    cases h
    exact .inl hj

/-- How a task comes to have stored its record. -/
theorem step_stored (h : s.step sha256 l = some t) {j : Nat} {m : LockId} {c : ActivationClaim}
    (hj : t.tasks[j]? = some (.stored m c)) :
    s.tasks[j]? = some (.stored m c) ∨ ∃ route now, l = .commitActivation j route now ∧
      s.tasks[j]? = some (.holding m (.activation c)) := by
  cases l with
  | call c =>
    cases h
    left
    rcases arrive_task hj with hs | ⟨-, n, he⟩ | ⟨-, o, he⟩
    · exact hs
    · cases he
    · cases he
  | lock i =>
    simp only [System.step] at h
    split at h
    · split at h
      · cases h
      · cases h
        exact .inl ((getElem?_set_cases hj).resolve_right (by simp))
    · cases h
  | proceed i now random =>
    obtain ⟨m', φ, ψ, r, hi, hm, rfl⟩ | ⟨m', φ, o, r, hi, he, rfl⟩ | ⟨m', c, hi, rfl⟩ :=
      proceed_cases h
    all_goals exact .inl ((getElem?_set_cases hj).resolve_right (by simp))
  | commitActivation i route now =>
    simp only [System.step] at h
    split at h
    · rename_i m' c' hi
      cases h
      rcases getElem?_set_cases hj with hs | ⟨rfl, he⟩
      · exact .inl hs
      · split at he
        · cases he
          exact .inr ⟨route, now, rfl, hi⟩
        · cases he
    · cases h
  | commitRenewal i route now | commitDeactivation i b now =>
    simp only [System.step] at h
    split at h
    · cases h
      exact .inl ((getElem?_set_cases hj).resolve_right (by simp))
    · cases h
  | drop i =>
    simp only [System.step] at h
    split at h
    · cases h
      exact .inl ((getElem?_set_cases hj).resolve_right (by simp))
    · cases h
      exact .inl ((getElem?_set_cases hj).resolve_right (by simp))
    · cases h
  | disconnectWebsocketRoutesNow routes now | nextRouteGeneration =>
    cases h
    exact .inl hj

end

end Starry.Activation
