import Starry.Activation.Locks
import Starry.Activation.WellFormed

/-!
# The newest activation wins

A claim is checked when it begins and written when it commits. While it is open its task holds
the peer's mutex, so until the commit the record can only be touched, cleared or swept away
(`held_quiet`). What was checked about the activation therefore still holds. What was copied from
the record, the lease of a retransmission, may have been cleared.
-/

open Library

namespace Starry.Activation

/-! ## What a claim may replace -/

/-- An activation that `begin_registration` lets follow the record `r`. -/
structure Follows (u : Bytes) (e : Nat) (id key : Bytes) (r : LeaseRecord) : Prop where
  uuid : r.uuid = u
  epoch : r.activationEpoch ≤ e
  same : r.activationEpoch = e → r.activationId = id ∧ r.publicKey = key ∧ r.retired = false

/-- Generation `g` was given out before the counter stood at `next`. -/
def Given (next g : Nat) : Prop := next = 0 ∨ g < next

structure ActivationClaim.Fits (next : Nat) (o : Option LeaseRecord) (c : ActivationClaim) :
    Prop where
  follows : ∀ r, o = some r → Follows c.uuid c.activationEpoch c.activationId c.publicKey r
  given : Given next c.generation
  fresh : c.newLease = true → ∀ r, o = some r → r.generation < c.generation
  reuse : c.newLease = false → ∀ r, o = some r →
    r.generation = c.generation ∧ (r.route.isSome → r.routeLease = c.routeLease)

/-- What a phase knows about the record `o` of its peer. -/
def Phase.Fits (next : Nat) (o : Option LeaseRecord) : Phase → Prop
  | .unleased q _ _ _ | .admitted q _ _ | .remembered q _ _ | .counted q _ _ =>
    ∀ r, o = some r → Follows q.uuid q.activationEpoch q.activationId q.publicKey r
  | .activation c => c.tracked = true → c.Fits next o
  | _ => True

structure NewestInv (s : System) : Prop where
  counter : s.registry.nextGeneration < 2 ^ 64
  records : ∀ p r, s.lease p = some r → Given s.registry.nextGeneration r.generation
  tasks : ∀ (i : Nat) (m : LockId) (φ : Phase), s.tasks[i]? = some (.holding m φ) →
    φ.Fits s.registry.nextGeneration (s.lease φ.peerId)

/-! ## Quiet changes -/

/-- A quiet change keeps the activation and the generation, and a route that is still there keeps
its lease. -/
theorem Quiet.kept {o o' : Option LeaseRecord} (h : Quiet o o') {r' : LeaseRecord}
    (hr : o' = some r') : ∃ r, o = some r ∧ r'.uuid = r.uuid ∧
      r'.activationEpoch = r.activationEpoch ∧ r'.activationId = r.activationId ∧
      r'.publicKey = r.publicKey ∧ r'.retired = r.retired ∧ r'.generation = r.generation ∧
      (r'.route = r.route ∧ r'.routeLease = r.routeLease ∨
        r'.route = none ∧ r'.routeLease = []) := by
  cases h with
  | same => exact ⟨r', hr, rfl, rfl, rfl, rfl, rfl, rfl, .inl ⟨rfl, rfl⟩⟩
  | touched r now => cases hr; exact ⟨r, rfl, rfl, rfl, rfl, rfl, rfl, rfl, .inl ⟨rfl, rfl⟩⟩
  | cleared r now => cases hr; exact ⟨r, rfl, rfl, rfl, rfl, rfl, rfl, rfl, .inr ⟨rfl, rfl⟩⟩
  | swept => cases hr

theorem Quiet.follows {o o' : Option LeaseRecord} (h : Quiet o o') {u id key : Bytes} {e : Nat}
    (hf : ∀ r, o = some r → Follows u e id key r) : ∀ r, o' = some r → Follows u e id key r := by
  intro r' hr'
  obtain ⟨r, hr, hu, he, hid, hpk, hret, -, -⟩ := h.kept hr'
  obtain ⟨h1, h2, h3⟩ := hf r hr
  refine ⟨hu.trans h1, he ▸ h2, fun heq => ?_⟩
  rw [hid, hpk, hret]
  exact h3 (he ▸ heq)

theorem Quiet.claim_fits {o o' : Option LeaseRecord} (h : Quiet o o') {next : Nat}
    {c : ActivationClaim} (hf : c.Fits next o) : c.Fits next o' := by
  refine ⟨h.follows hf.follows, hf.given, fun hn r' hr' => ?_, fun hn r' hr' => ?_⟩
  · obtain ⟨r, hr, -, -, -, -, -, hgen, -⟩ := h.kept hr'
    rw [hgen]
    exact hf.fresh hn r hr
  · obtain ⟨r, hr, -, -, -, -, -, hgen, hroute⟩ := h.kept hr'
    obtain ⟨h1, h2⟩ := hf.reuse hn r hr
    refine ⟨hgen.trans h1, fun hs => ?_⟩
    rcases hroute with ⟨he, hl⟩ | ⟨he, -⟩
    · rw [hl]; exact h2 (he ▸ hs)
    · rw [he] at hs; cases hs

theorem Quiet.phase_fits {o o' : Option LeaseRecord} (h : Quiet o o') {next : Nat} {φ : Phase}
    (hf : φ.Fits next o) : φ.Fits next o' := by
  cases φ with
  | unleased | admitted | remembered | counted => exact h.follows hf
  | activation c => exact fun ht => h.claim_fits (hf ht)
  | _ => trivial

/-! ## The counter -/

theorem Given.advance {next g : Nat} (h : Given next g) (h0 : next ≠ 0) (hlt : next < 2 ^ 64) :
    Given ((next + 1) % 2 ^ 64) g := by
  unfold Given at *
  omega

theorem given_self {next : Nat} (hlt : next < 2 ^ 64) : Given ((next + 1) % 2 ^ 64) next := by
  unfold Given
  omega

theorem Phase.Fits.mono {next next' : Nat} {o : Option LeaseRecord} {φ : Phase}
    (h : φ.Fits next o) (hn : ∀ g, Given next g → Given next' g) : φ.Fits next' o := by
  cases φ with
  | activation c =>
    intro ht
    have hc := h ht
    exact ⟨hc.follows, hn _ hc.given, hc.fresh, hc.reuse⟩
  | unleased | admitted | remembered | counted => exact h
  | _ => trivial

section

variable {sha256 : Bytes → Bytes} {s t : System} {l : Step}

theorem step_nextGeneration (h : s.step sha256 l = some t) :
    t.registry.nextGeneration = s.registry.nextGeneration ∨
      t.registry.nextGeneration = (s.registry.nextGeneration + 1) % 2 ^ 64 := by
  cases l with
  | call c =>
    cases h
    left
    unfold System.arrive
    split
    · rfl
    · split
      · rfl
      · split <;> rfl
  | lock i =>
    simp only [System.step] at h
    split at h
    · split at h
      · cases h
      · cases h; exact .inl rfl
    · cases h
  | proceed i now random =>
    obtain ⟨m, φ, φ', r, hi, hm, rfl⟩ | ⟨m, φ, o, r, hi, he, rfl⟩ | ⟨m, c, hi, rfl⟩ :=
      proceed_cases h
    · exact hm.nextGeneration
    · exact .inl he.nextGeneration
    · left; simp [System.update]
  | commitActivation i route now =>
    simp only [System.step] at h
    split at h
    · cases h
      left
      simp only [System.update, ActivationClaim.commit]
      split <;> rfl
    · cases h
  | commitRenewal i route now =>
    simp only [System.step] at h
    split at h
    · cases h
      left
      simp only [System.update, RenewalClaim.commit]
      split <;> rfl
    · cases h
  | commitDeactivation i b now =>
    simp only [System.step] at h
    split at h
    · cases h
      left
      simp only [System.update, DeactivationClaim.commit]
      split <;> rfl
    · cases h
  | drop i =>
    simp only [System.step] at h
    split at h
    · cases h; left; simp [System.update]
    · cases h; exact .inl rfl
    · cases h
  | disconnectWebsocketRoutesNow routes now =>
    cases h
    left
    simp only [Registry.disconnectWebsocketRoutesNow]
    induction routes generalizing s with
    | nil => rfl
    | cons route routes ih =>
      exact ih (s := { s with registry :=
        s.registry.disconnectRoute route.1 (.webSocket route.2.1 route.2.2) now })
  | nextRouteGeneration => cases h; exact .inr rfl

theorem step_given (hi : NewestInv s) (hu : unwrapped s l = true) (h : s.step sha256 l = some t)
    {g : Nat} (hg : Given s.registry.nextGeneration g) : Given t.registry.nextGeneration g := by
  simp only [unwrapped, bne_iff_ne, ne_eq] at hu
  rcases step_nextGeneration h with hn | hn
  · rw [hn]; exact hg
  · rw [hn]; exact hg.advance hu hi.counter

/-! ## One step -/

/-- While a task keeps its mutex, the record of its peer changes only quietly. -/
theorem held_quiet (hl : LockInv s) (h : s.step sha256 l = some t) {j : Nat} {m : LockId}
    {φ : Phase} (hs : s.tasks[j]? = some (.holding m φ)) (ht : t.tasks[j]? = some (.holding m φ)) :
    Quiet (s.lease φ.peerId) (t.lease φ.peerId) := by
  -- A commit for this peer would be of task `j` itself, and that task goes on.
  have hend : ∀ (i : Nat) (n : LockId) (ψ : Phase) (τ : Task),
      s.tasks[i]? = some (.holding n ψ) → ψ.peerId = φ.peerId → (∀ n ψ, τ ≠ .holding n ψ) →
      t.tasks = s.tasks.set i τ → False := by
    intro i n ψ τ hi hp hτ hset
    have hij := hl.one_holder hi hs hp
    subst hij
    rw [hset, List.getElem?_set_self (List.getElem?_eq_some_iff.mp hs).1] at ht
    exact hτ m φ (Option.some.inj ht)
  have hc := step_change h φ.peerId
  generalize s.lease φ.peerId = o at hc
  generalize t.lease φ.peerId = o' at hc
  cases hc with
  | quiet hq => exact hq
  | @activated i route now n c o hi hc hp =>
    simp only [System.step, hi, Option.some.injEq] at h
    refine (hend _ _ _ _ hi hp ?_ (by rw [← h]; rfl)).elim
    intro n ψ
    split <;> simp
  | renewed r hi hc hp hr =>
    simp only [System.step, hi, Option.some.injEq] at h
    exact (hend _ _ _ (.finished _) hi hp (by simp) (by rw [← h]; rfl)).elim
  | retired r hi hp hr =>
    simp only [System.step, hi, Option.some.injEq] at h
    exact (hend _ _ _ (.finished _) hi hp (by simp) (by rw [← h]; rfl)).elim

theorem lookupRegistration_fresh {o : Option LeaseRecord} {q : RegistrationRequest}
    {route : Option RouteKind} {existing : Bool}
    (h : Registry.lookupRegistration o q = .fresh route existing) :
    ∀ r, o = some r → Follows q.uuid q.activationEpoch q.activationId q.publicKey r := by
  intro r hr
  subst hr
  simp only [Registry.lookupRegistration] at h
  split at h
  · cases h
  · rename_i h1
    simp only [Bool.or_eq_true, bne_iff_ne, decide_eq_true_eq, not_or, not_not, not_lt] at h1
    split at h
    · split at h
      · cases h
      · rename_i h2
        simp only [Bool.or_eq_true, bne_iff_ne, not_or, not_not, Bool.not_eq_true] at h2
        exact ⟨h1.1, h1.2, fun _ => ⟨h2.1.1, h2.1.2, h2.2⟩⟩
    · rename_i h2
      simp only [beq_iff_eq] at h2
      exact ⟨h1.1, h1.2, fun he => absurd he.symm h2⟩

theorem fresh_fits (hi : NewestInv s) (q : RegistrationRequest) (route : Option RouteKind)
    (reserved : Bool) (random : RandomLease) (hu : s.registry.nextGeneration ≠ 0)
    (hf : ∀ r, s.lease q.peerId = some r →
      Follows q.uuid q.activationEpoch q.activationId q.publicKey r) :
    (freshClaim s.registry q route reserved random).Fits
      ((s.registry.nextGeneration + 1) % 2 ^ 64) (s.lease q.peerId) := by
  refine ⟨hf, given_self hi.counter, fun _ r hr => ?_, by rintro ⟨⟩⟩
  exact (hi.records q.peerId r hr).resolve_left hu

/-- A section of a task keeps what the task knows. -/
theorem moves_fits (hi : NewestInv s) (hu : s.registry.nextGeneration ≠ 0) {now : Instant}
    {random : RandomLease} {φ φ' : Phase} {r' : Registry}
    (hm : Moves s.registry now random φ φ' r')
    (hφ : φ.Fits s.registry.nextGeneration (s.lease φ.peerId)) :
    φ'.Fits r'.nextGeneration (r'.leases.get φ'.peerId) := by
  cases hm with
  | legacy q t hv => rintro ⟨⟩
  | reuse q t current b hl =>
    obtain ⟨ho, hu, he, hid, hpk, hret, hroute⟩ := lookupRegistration_reuse hl
    have hcur : ∀ r, s.registry.leases.get q.peerId = some r → r = current := by
      intro r hr
      exact Option.some.inj (hr.symm.trans ho)
    refine fun _ => ⟨fun r hr => ?_, hi.records q.peerId current ho, by rintro ⟨⟩,
      fun _ r hr => ?_⟩
    · rw [hcur r hr]
      exact ⟨hu, he.le, fun _ => ⟨hid, hpk, hret⟩⟩
    · rw [hcur r hr]
      exact ⟨rfl, fun _ => rfl⟩
  | unleased q t route existing hl => exact lookupRegistration_fresh hl
  | admitted | remembered | counted => exact hφ
  | fresh q route => exact fun _ => fresh_fits hi q route false random hu hφ
  | reserved q route active => exact fun _ => fresh_fits hi q route true random hu hφ
  | maintained | expired | expiredRegistration | renewal | deactivation => trivial

theorem step_newestInv (hi : NewestInv s) (hl : LockInv s) (hu : unwrapped s l = true)
    (h : s.step sha256 l = some t) : NewestInv t := by
  have hu' : s.registry.nextGeneration ≠ 0 := by simpa [unwrapped] using hu
  refine ⟨?_, ?_, ?_⟩
  · have := hi.counter
    rcases step_nextGeneration h with hn | hn <;> omega
  · intro p r hr
    have hc := step_change h p
    generalize ho : s.lease p = o at hc
    rw [hr] at hc
    refine step_given hi hu h ?_
    cases hc with
    | quiet hq =>
      obtain ⟨r₀, hr₀, -, -, -, -, -, hgen, -⟩ := hq.kept rfl
      rw [hgen]
      exact hi.records p r₀ (ho.trans hr₀)
    | activated o ht hc hp => exact (hi.tasks _ _ _ ht hc).given
    | renewed r₀ ht hc hp hm => exact hi.records p r₀ ho
    | retired r₀ ht hp hm => exact hi.records p r₀ ho
  · intro j m φ hj
    rcases step_holding h hj with hs | ⟨c, _, _, rfl, _⟩ | ⟨now, random, φ₀, _, hs, hm, _⟩
    · exact ((held_quiet hl h hs hj).phase_fits (hi.tasks j m φ hs)).mono
        fun g hg => step_given hi hu h hg
    · trivial
    · exact moves_fits hi hu' hm (hi.tasks j m φ₀ hs)

theorem init_newestInv : NewestInv System.init := by
  refine ⟨by decide, ?_, ?_⟩
  · intro p r h
    simp [System.lease, System.init, Registry.default] at h
  · intro i m c h
    simp [System.init] at h

/-- Both invariants along a run in which the counter has not wrapped. -/
theorem run_newestInv {ok : System → Step → Bool} (hok : ∀ s l, ok s l = true → unwrapped s l = true)
    {ls : List Step} (h : Run (Guarded (System.step sha256) ok) System.init ls s) :
    NewestInv s ∧ LockInv s := by
  refine h.invariant (P := fun s => NewestInv s ∧ LockInv s) ⟨init_newestInv, init_lockInv⟩ ?_
  rintro s l t ⟨hi, hl⟩ ⟨hg, hstep⟩
  exact ⟨step_newestInv hi hl (hok s l hg) hstep, step_lockInv hl hstep⟩

end

/-! ## Consecutive versions -/

/-- `r'` may be stored right after `r`. -/
structure LeaseRecord.Precedes (r r' : LeaseRecord) : Prop where
  uuid : r'.uuid = r.uuid
  epoch : r.activationEpoch ≤ r'.activationEpoch
  same : r'.activationEpoch = r.activationEpoch →
    r'.activationId = r.activationId ∧ r'.publicKey = r.publicKey ∧
      (r.retired = true → r'.retired = true)
  generation : r.generation ≤ r'.generation
  newLease : r'.routeLease ≠ [] → r'.routeLease ≠ r.routeLease → r.generation < r'.generation

/-- A retransmission that is committed over a record still finds a route there. -/
def retransmissionKeepsRoute (s : System) : Step → Bool
  | .commitActivation i _ _ =>
    match s.tasks[i]? with
    | some (.holding _ (.activation c)) =>
      !c.tracked || c.newLease || (s.lease c.peerId).all fun r => r.route.isSome
    | _ => true
  | _ => true

theorem retransmissionKeepsRoute_spec {s : System} {i : Nat} {route : RouteKind} {now : Instant}
    {m : LockId} {c : ActivationClaim} {r : LeaseRecord}
    (h : retransmissionKeepsRoute s (.commitActivation i route now) = true)
    (hi : s.tasks[i]? = some (.holding m (.activation c))) (hc : c.tracked = true)
    (hn : c.newLease = false) (hl : s.lease c.peerId = some r) : r.route.isSome := by
  simp only [retransmissionKeepsRoute, hi, hl, hc, hn, Bool.not_true, Bool.false_or,
    Option.all_some] at h
  exact h

theorem Quiet.precedes {r r' : LeaseRecord} (h : Quiet (some r) (some r')) : r.Precedes r' := by
  obtain ⟨r₀, hr₀, hu, he, hid, hpk, hret, hgen, hroute⟩ := h.kept rfl
  cases hr₀
  refine ⟨hu, he.ge, fun _ => ⟨hid, hpk, fun h => hret.trans h⟩, hgen.ge, fun h1 h2 => ?_⟩
  rcases hroute with ⟨-, hl⟩ | ⟨-, hl⟩
  · exact absurd hl h2
  · exact absurd hl h1

theorem ActivationClaim.Fits.precedes {next : Nat} {r : LeaseRecord} {c : ActivationClaim}
    (h : c.Fits next (some r)) (hroute : c.newLease = false → r.route.isSome) (route : RouteKind)
    (now : Instant) : r.Precedes (c.record route now) := by
  have hf := h.follows r rfl
  have hgen : r.generation ≤ c.generation ∧
      (c.routeLease ≠ r.routeLease → r.generation < c.generation) := by
    cases hn : c.newLease with
    | true =>
      have := h.fresh hn r rfl
      exact ⟨by omega, fun _ => this⟩
    | false =>
      obtain ⟨h1, h2⟩ := h.reuse hn r rfl
      exact ⟨h1.le, fun hne => absurd (h2 (hroute hn)).symm hne⟩
  refine ⟨hf.uuid.symm, hf.epoch, fun he => ?_, hgen.1, fun _ h2 => hgen.2 h2⟩
  obtain ⟨hid, hpk, hret⟩ := hf.same he.symm
  exact ⟨hid.symm, hpk.symm, fun h => absurd (hret.symm.trans h) (by simp)⟩

/-- The steps at which the counter has not wrapped and no retransmission revives a cleared lease. -/
def newestGuard (s : System) (l : Step) : Bool := unwrapped s l && retransmissionKeepsRoute s l

/-- Along a run without such a retransmission, each version of a record follows the one before. -/
theorem newest_activation_wins (sha256 : Bytes → Bytes) {ls : List Step} {s t : System} {l : Step}
    (h : Run (Guarded (System.step sha256) newestGuard) System.init ls s)
    (hstep : Guarded (System.step sha256) newestGuard s l t) {p : String} {r r' : LeaseRecord}
    (hr : s.lease p = some r) (hr' : t.lease p = some r') : r.Precedes r' := by
  have hok : ∀ s l, newestGuard s l = true → unwrapped s l = true := by
    intro s l hg
    rw [newestGuard, Bool.and_eq_true] at hg
    exact hg.1
  obtain ⟨hi, -⟩ := run_newestInv hok h
  obtain ⟨hg, hstep⟩ := hstep
  rw [newestGuard, Bool.and_eq_true] at hg
  have hc := step_change hstep p
  generalize ho : s.lease p = o at hc
  rw [hr'] at hc
  rw [hr] at ho
  subst ho
  cases hc with
  | quiet hq => exact hq.precedes
  | activated o ht hc hp =>
    subst hp
    have hf := hi.tasks _ _ _ ht hc
    simp only [Phase.peerId, hr] at hf
    exact hf.precedes (fun hn => retransmissionKeepsRoute_spec hg.2 ht hc hn hr) _ _
  | renewed r₀ ht hc hp hm =>
    exact ⟨rfl, le_rfl, fun _ => ⟨rfl, rfl, id⟩, le_rfl, fun _ hne => absurd rfl hne⟩
  | retired r₀ ht hp hm =>
    exact ⟨rfl, le_rfl, fun _ => ⟨rfl, rfl, fun _ => rfl⟩, le_rfl, fun hne => absurd rfl hne⟩

/-! ## A retransmission after a drain -/

/-- The sample registration again, by task 1: the stored route makes it a retransmission. -/
def sampleRetransmission : List Step :=
  sampleCall (.registration sampleRegistration) 1 3 (sampleLease 8)

/-- After a drain it is a new registration instead. -/
theorem newest_activation_wins_reregistered : ∃ (s t : System) (r r' : LeaseRecord),
    Run (Guarded (System.step id) newestGuard) System.init
      (sampleRegistered ++ sampleDrain ::
        sampleCall (.registration sampleRegistration) 1 6 (sampleLease 8)) s ∧
    s.lease "peer" = some r ∧ t.lease "peer" = some r' ∧ r'.routeLease = (sampleLease 8).val ∧
    r.Precedes r' := by
  have h : (exec (System.step id) newestGuard System.init (sampleRegistered ++ sampleDrain ::
      sampleCall (.registration sampleRegistration) 1 6 (sampleLease 8))).any (fun s =>
        (s.lease "peer").isSome && newestGuard s (.commitActivation 1 (.webSocket 1 11) 0) &&
        (s.step id (.commitActivation 1 (.webSocket 1 11) 0)).any fun t =>
          (t.lease "peer").any fun r' => r'.routeLease == (sampleLease 8).val) = true := by
    decide
  simp only [Option.any_eq_true, Bool.and_eq_true, Option.isSome_iff_exists, beq_iff_eq] at h
  obtain ⟨s, hs, ⟨⟨r, hr⟩, hg⟩, t, ht, r', hr', hl⟩ := h
  exact ⟨s, t, r, r', .of_exec hs, hr, hr', hl,
    newest_activation_wins id (.of_exec hs) ⟨hg, ht⟩ hr hr'⟩

/-- With a drain before its commit, a retransmission installs a lease at the same generation. -/
theorem drained_retransmission_not_newer :
    ¬ ∀ ls s l t, Run (Steps (System.step id)) System.init ls s → Steps (System.step id) s l t →
      ∀ p r r', s.lease p = some r → t.lease p = some r' → r.Precedes r' := by
  intro hall
  have h : (exec (System.step id) (fun _ _ => true) System.init
      (sampleRegistered ++ sampleRetransmission ++ [sampleDrain])).any (fun s =>
        (s.step id (.commitActivation 1 (.webSocket 1 11) 0)).any fun t =>
          (s.lease "peer").any fun r => (t.lease "peer").any fun r' =>
            !r'.routeLease.isEmpty && r.routeLease.isEmpty && r'.generation == r.generation)
      = true := by
    decide
  simp only [Option.any_eq_true, Bool.and_eq_true, Bool.not_eq_true', List.isEmpty_iff,
    List.isEmpty_eq_false_iff, beq_iff_eq] at h
  obtain ⟨s, hs, t, ht, r, hr, r', hr', ⟨hne, hempty⟩, hgen⟩ := h
  have hp := hall _ s _ t (.of_exec hs) ⟨rfl, ht⟩ "peer" r r' hr hr'
  have hlt := hp.newLease hne (by rw [hempty]; exact hne)
  omega

end Starry.Activation
