import Starry.Activation.Newest

/-!
# The books of the registry

Records, `v2_peers` and reservations change at different steps and under different locks. What
relates them is carried by the tasks: a registration that found no record knows that there is none
as long as it holds its peer's mutex.
-/

open Library

namespace Starry.Activation

/-! ## The books -/

structure Books (s : System) : Prop where
  remembered : ∀ p r, s.lease p = some r → p ∈ s.registry.v2Peers
  capacity : s.registry.leases.len ≤ maxLeases
  reservations : s.registry.pendingNewLeases = s.tasks.countP Task.reserved

/-! ## The invariant -/

/-- What the collections show of the peer of a registration. -/
def Phase.Booked (r : Registry) : Phase → Prop
  | .unleased q _ _ existing | .admitted q _ existing =>
    existing = false → r.leases.get q.peerId = none
  | .remembered q _ existing =>
    q.peerId ∈ r.v2Peers ∧ (existing = false → r.leases.get q.peerId = none)
  | .counted q _ _ => q.peerId ∈ r.v2Peers ∧ r.leases.get q.peerId = none
  | .activation c =>
    (c.tracked = true → c.peerId ∈ r.v2Peers) ∧
      (c.capacityReserved = true → c.tracked = true ∧ r.leases.get c.peerId = none)
  | _ => True

structure BookInv (s : System) : Prop where
  remembered : ∀ p r, s.lease p = some r → p ∈ s.registry.v2Peers
  bounded : s.registry.v2Peers.card ≤ maxV2Peers
  reservations : s.registry.pendingNewLeases = s.tasks.countP Task.reserved
  tasks : ∀ (i : Nat) (m : LockId) (φ : Phase), s.tasks[i]? = some (.holding m φ) →
    φ.Booked s.registry

theorem init_bookInv : BookInv System.init := by
  refine ⟨?_, by simp [System.init, Registry.default], rfl, ?_⟩
  · intro p r h
    simp [System.lease, System.init, Registry.default] at h
  · intro i m φ h
    simp [System.init] at h

section

variable {sha256 : Bytes → Bytes} {s t : System} {l : Step}

/-! ## The collections after one step -/

theorem Quiet.none {o : Option LeaseRecord} (h : Quiet none o) : o = none := by
  cases h
  rfl

theorem Moves.v2Peers {r r' : Registry} {now : Instant} {random : RandomLease} {φ φ' : Phase}
    (h : Moves r now random φ φ' r') :
    r'.v2Peers = r.v2Peers ∨ φ'.claimed = true ∧ ∃ p, r'.v2Peers = insert p r.v2Peers ∧
      (p ∈ r.v2Peers ∨ r.v2Peers.card < maxV2Peers) := by
  cases h with
  | maintained q =>
    left
    simp only [Registry.maintain]
    split <;> rfl
  | remembered q route existing hv => exact .inr ⟨rfl, q.peerId, rfl, hv⟩
  | _ => exact .inl rfl

theorem Moves.pendingNewLeases {r r' : Registry} {now : Instant} {random : RandomLease}
    {φ φ' : Phase} (h : Moves r now random φ φ' r') :
    r'.pendingNewLeases = r.pendingNewLeases + φ'.reserved.toNat ∧ φ.reserved = false := by
  cases h with
  | maintained q =>
    refine ⟨?_, rfl⟩
    simp only [Registry.maintain]
    split <;> rfl
  | _ => exact ⟨rfl, rfl⟩

theorem Ends.v2Peers {r r' : Registry} {now : Instant} {φ : Phase} {o : Outcome}
    (h : Ends r now φ o r') : r'.v2Peers = r.v2Peers := by
  cases h <;> rfl

theorem Ends.pendingNewLeases {r r' : Registry} {now : Instant} {φ : Phase} {o : Outcome}
    (h : Ends r now φ o r') :
    r'.pendingNewLeases = r.pendingNewLeases ∧ φ.reserved = false := by
  cases h with
  | refused φ e b hφ =>
    refine ⟨rfl, ?_⟩
    cases φ with
    | activation c => cases hφ
    | _ => rfl
  | _ => exact ⟨rfl, rfl⟩

@[simp] theorem Registry.release_v2Peers (r : Registry) (b : Bool) :
    (r.release b).v2Peers = r.v2Peers := by
  obtain ⟨n, h⟩ := r.release_eq b; rw [h]

theorem Registry.disconnectWebsocketRoutesNow_eq (r : Registry) (routes : List (String × Nat × Nat))
    (now : Instant) : ∃ leases, r.disconnectWebsocketRoutesNow routes now = { r with leases } := by
  induction routes generalizing r with
  | nil => exact ⟨r.leases, rfl⟩
  | cons route routes ih =>
    obtain ⟨leases, h⟩ := ih (r.disconnectRoute route.1 (.webSocket route.2.1 route.2.2) now)
    exact ⟨leases, h⟩

theorem arrive_eq (s : System) (c : Call) : ∃ locks τ n, s.arrive c =
    { s with registry := { s.registry with peerLocks := locks }, tasks := s.tasks ++ [τ],
             nextLock := n } ∧ τ.reserved = false := by
  unfold System.arrive
  split
  · exact ⟨_, _, _, rfl, rfl⟩
  · split
    · exact ⟨_, _, _, rfl, rfl⟩
    · split <;> exact ⟨_, _, _, rfl, rfl⟩

/-- What a step does to the reservations: it leaves them and the tasks, adds a task without one,
or moves a task and changes their number by what the task gets and gives back. -/
theorem step_reservations (h : s.step sha256 l = some t) :
    (t.registry.pendingNewLeases = s.registry.pendingNewLeases ∧ (t.tasks = s.tasks ∨
      ∃ τ, t.tasks = s.tasks ++ [τ] ∧ τ.reserved = false)) ∨
    ∃ i τ τ', s.tasks[i]? = some τ ∧ t.tasks = s.tasks.set i τ' ∧
      t.registry.pendingNewLeases =
        s.registry.pendingNewLeases + τ'.reserved.toNat - τ.reserved.toNat := by
  cases l with
  | call c =>
    cases h
    obtain ⟨locks, τ, n, h, hτ⟩ := arrive_eq s c
    rw [h]
    exact .inl ⟨rfl, .inr ⟨τ, rfl, hτ⟩⟩
  | lock i =>
    simp only [System.step] at h
    split at h
    · rename_i m c hi
      split at h
      · cases h
      · cases h
        exact .inr ⟨i, _, _, hi, rfl, rfl⟩
    · cases h
  | proceed i now random =>
    obtain ⟨m, φ, φ', r, hi, hm, rfl⟩ | ⟨m, φ, o, r, hi, he, rfl⟩ | ⟨m, c, hi, rfl⟩ :=
      proceed_cases h
    · obtain ⟨hp, hφ⟩ := hm.pendingNewLeases
      refine .inr ⟨i, _, _, hi, rfl, ?_⟩
      simp only [System.update, Task.reserved, hp, hφ]
      rfl
    · obtain ⟨hp, hφ⟩ := he.pendingNewLeases
      refine .inr ⟨i, _, _, hi, rfl, ?_⟩
      simp only [System.update, Task.reserved, hp, hφ]
      rfl
    · refine .inr ⟨i, _, _, hi, rfl, ?_⟩
      cases hc : c.capacityReserved <;> simp [System.update, Task.reserved, Registry.release, hc]
  | commitActivation i route now =>
    simp only [System.step] at h
    split at h
    · rename_i m c hi
      cases h
      refine .inr ⟨i, _, _, hi, rfl, ?_⟩
      have hp : (c.commit s.registry route now).pendingNewLeases = s.registry.pendingNewLeases := by
        simp only [ActivationClaim.commit]
        split <;> rfl
      cases hc : c.capacityReserved <;> simp [System.update, Task.reserved, Phase.reserved, hp, hc]
    · cases h
  | commitRenewal i route now =>
    simp only [System.step] at h
    split at h
    · rename_i m c hi
      cases h
      refine .inr ⟨i, _, _, hi, rfl, ?_⟩
      simp only [System.update, RenewalClaim.commit, Task.reserved, Phase.reserved]
      split <;> rfl
    · cases h
  | commitDeactivation i b now =>
    simp only [System.step] at h
    split at h
    · rename_i m c hi
      cases h
      refine .inr ⟨i, _, _, hi, rfl, ?_⟩
      simp only [System.update, DeactivationClaim.commit, Task.reserved, Phase.reserved]
      split <;> rfl
    · cases h
  | drop i =>
    simp only [System.step] at h
    split at h
    · rename_i m φ hi
      cases h
      refine .inr ⟨i, _, _, hi, rfl, ?_⟩
      cases hφ : φ.reserved <;> simp [System.update, Task.reserved, Registry.release, hφ]
    · rename_i m c hi
      cases h
      exact .inr ⟨i, _, _, hi, rfl, rfl⟩
    · cases h
  | disconnectWebsocketRoutesNow routes now =>
    cases h
    obtain ⟨leases, h⟩ := s.registry.disconnectWebsocketRoutesNow_eq routes now
    exact .inl ⟨by simp only [h], .inl rfl⟩
  | nextRouteGeneration =>
    cases h
    exact .inl ⟨rfl, .inl rfl⟩

theorem step_v2Peers (h : s.step sha256 l = some t) :
    t.registry.v2Peers = s.registry.v2Peers ∨ ∃ p, t.registry.v2Peers = insert p s.registry.v2Peers ∧
      (p ∈ s.registry.v2Peers ∨ s.registry.v2Peers.card < maxV2Peers) := by
  cases l with
  | call c =>
    cases h
    obtain ⟨locks, τ, n, h, -⟩ := arrive_eq s c
    rw [h]
    exact .inl rfl
  | lock i =>
    simp only [System.step] at h
    split at h
    · split at h
      · cases h
      · cases h
        exact .inl rfl
    · cases h
  | proceed i now random =>
    obtain ⟨m, φ, φ', r, hi, hm, rfl⟩ | ⟨m, φ, o, r, hi, he, rfl⟩ | ⟨m, c, hi, rfl⟩ :=
      proceed_cases h
    · exact hm.v2Peers.imp_right fun hv => hv.2
    · exact .inl he.v2Peers
    · exact .inl (by simp [System.update])
  | commitActivation i route now =>
    simp only [System.step] at h
    split at h
    · cases h
      left
      simp only [System.update, ActivationClaim.commit]
      split <;> rfl
    · cases h
  | commitRenewal i route now =>
    simp only [System.step] at h
    split at h
    · cases h
      left
      simp only [System.update, RenewalClaim.commit]
      split <;> rfl
    · cases h
  | commitDeactivation i b now =>
    simp only [System.step] at h
    split at h
    · cases h
      left
      simp only [System.update, DeactivationClaim.commit]
      split <;> rfl
    · cases h
  | drop i =>
    simp only [System.step] at h
    split at h
    · cases h
      exact .inl (by simp [System.update])
    · cases h
      exact .inl rfl
    · cases h
  | disconnectWebsocketRoutesNow routes now =>
    cases h
    obtain ⟨leases, h⟩ := s.registry.disconnectWebsocketRoutesNow_eq routes now
    exact .inl (by simp only [h])
  | nextRouteGeneration =>
    cases h
    exact .inl rfl

theorem step_v2Peers_subset (h : s.step sha256 l = some t) :
    s.registry.v2Peers ⊆ t.registry.v2Peers := by
  rcases step_v2Peers h with he | ⟨p, he, -⟩
  · rw [he]
  · rw [he]
    exact Finset.subset_insert _ _

/-! ## The invariant is kept -/

theorem Phase.Booked.mono {r r' : Registry} {φ : Phase} (h : φ.Booked r)
    (hv : r.v2Peers ⊆ r'.v2Peers)
    (hn : r.leases.get φ.peerId = none → r'.leases.get φ.peerId = none) : φ.Booked r' := by
  cases φ with
  | unleased q t route existing | admitted q route existing => exact fun he => hn (h he)
  | remembered q route existing => exact ⟨hv h.1, fun he => hn (h.2 he)⟩
  | counted q route active => exact ⟨hv h.1, hn h.2⟩
  | activation c => exact ⟨fun hc => hv (h.1 hc), fun hc => ⟨(h.2 hc).1, hn (h.2 hc).2⟩⟩
  | _ => trivial

theorem lookupRegistration_new {o : Option LeaseRecord} {q : RegistrationRequest}
    {route : Option RouteKind} (h : Registry.lookupRegistration o q = .fresh route false) :
    o = none := by
  cases o with
  | none => rfl
  | some c =>
    simp only [Registry.lookupRegistration] at h
    split_ifs at h <;> cases h

theorem moves_booked (hi : BookInv s) {now : Instant} {random : RandomLease} {φ φ' : Phase}
    {r' : Registry} (hm : Moves s.registry now random φ φ' r') (hφ : φ.Booked s.registry) :
    φ'.Booked r' := by
  cases hm with
  | legacy q t hv => exact ⟨by rintro ⟨⟩, by rintro ⟨⟩⟩
  | reuse q t current b hl =>
    have ho := (lookupRegistration_reuse hl).1
    exact ⟨fun _ => hi.remembered q.peerId current ho, by rintro ⟨⟩⟩
  | unleased q t route existing hl =>
    rintro rfl
    exact lookupRegistration_new hl
  | admitted => exact hφ
  | remembered q route existing hv => exact ⟨Finset.mem_insert_self _ _, hφ⟩
  | fresh q route => exact ⟨fun _ => hφ.1, by rintro ⟨⟩⟩
  | counted q route => exact ⟨hφ.1, hφ.2 rfl⟩
  | reserved q route active => exact ⟨fun _ => hφ.1, fun _ => ⟨rfl, hφ.2⟩⟩
  | maintained | expired | expiredRegistration | renewal | deactivation => trivial

theorem step_remembered (hi : BookInv s) (h : s.step sha256 l = some t) {p : String}
    {r : LeaseRecord} (hr : t.lease p = some r) : p ∈ t.registry.v2Peers := by
  apply step_v2Peers_subset h
  have hc := step_change h p
  generalize ho : s.lease p = o at hc
  rw [hr] at hc
  cases hc with
  | quiet hq =>
    obtain ⟨r₀, hr₀, -⟩ := hq.kept rfl
    exact hi.remembered p r₀ (ho.trans hr₀)
  | activated o ht hc hp => exact hp ▸ (hi.tasks _ _ _ ht).1 hc
  | renewed r₀ ht hc hp hm => exact hi.remembered p r₀ ho
  | retired r₀ ht hp hm => exact hi.remembered p r₀ ho

theorem step_bookInv (hi : BookInv s) (hl : LockInv s) (h : s.step sha256 l = some t) :
    BookInv t := by
  refine ⟨fun p r hr => step_remembered hi h hr, ?_, ?_, ?_⟩
  · have hb := hi.bounded
    rcases step_v2Peers h with he | ⟨p, he, hp | hp⟩
    · rwa [he]
    · rwa [he, Finset.insert_eq_of_mem hp]
    · have := Finset.card_insert_le p s.registry.v2Peers
      rw [he]
      omega
  · have hres := hi.reservations
    rcases step_reservations h with ⟨hp, ht | ⟨τ, ht, hτ⟩⟩ | ⟨i, τ, τ', hs, ht, hp⟩
    · rw [hp, ht, hres]
    · simp [hp, ht, hres, List.countP_append, hτ]
    · have hcount := countP_set_of_getElem? (y := τ') Task.reserved hs
      rw [hp, ht, hres]
      omega
  · intro j m φ hj
    rcases step_holding h hj with hs | ⟨c, _, _, rfl, _⟩ | ⟨now, random, φ₀, _, hs, hm, _⟩
    · refine (hi.tasks j m φ hs).mono (step_v2Peers_subset h) fun hn => ?_
      have hq := held_quiet hl h hs hj
      simp only [System.lease] at hq
      rw [hn] at hq
      exact hq.none
    · trivial
    · exact moves_booked hi hm (hi.tasks j m φ₀ hs)

/-! ## Room for a reservation -/

/-- The peer of a claim that holds a reservation and has stored nothing yet. -/
def Task.reservedPeer : Task → Option String
  | .holding _ (.activation c) => if c.capacityReserved then some c.peerId else none
  | _ => none

def Task.isStored : Task → Bool
  | .stored .. => true
  | _ => false

theorem reserved_le (ts : List Task) : ts.countP Task.reserved ≤
    (ts.filterMap Task.reservedPeer).length + ts.countP Task.isStored := by
  induction ts with
  | nil => exact Nat.le_refl _
  | cons τ ts ih =>
    simp only [List.countP_cons, List.filterMap_cons]
    cases τ with
    | holding m φ =>
      cases φ with
      | activation c =>
        cases hc : c.capacityReserved <;>
          simp [Task.reserved, Phase.reserved, Task.reservedPeer, Task.isStored, hc] <;> omega
      | _ => simpa [Task.reserved, Phase.reserved, Task.reservedPeer, Task.isStored] using ih
    | stored m c =>
      cases hc : c.capacityReserved <;>
        simp [Task.reserved, Task.reservedPeer, Task.isStored, hc] <;> omega
    | waiting | finished => simpa [Task.reserved, Task.reservedPeer, Task.isStored] using ih

theorem reservedPeer_eq_some {τ : Task} {p : String} (h : τ.reservedPeer = some p) :
    ∃ m c, τ = .holding m (.activation c) ∧ c.capacityReserved = true ∧ c.peerId = p := by
  unfold Task.reservedPeer at h
  split at h
  · rename_i m c
    split at h
    · exact ⟨m, c, rfl, ‹_›, Option.some.inj h⟩
    · cases h
  · cases h

theorem reservedPeers_nodup (hl : LockInv s) : (s.tasks.filterMap Task.reservedPeer).Nodup := by
  rw [List.Nodup, List.pairwise_filterMap, List.pairwise_iff_getElem]
  rintro i j hi hj hij p hp p' hp' rfl
  obtain ⟨m, c, hc, -, rfl⟩ := reservedPeer_eq_some hp
  obtain ⟨n, d, hd, -, hpd⟩ := reservedPeer_eq_some hp'
  have := hl.one_holder (List.getElem?_eq_some_iff.mpr ⟨hi, hc⟩)
    (List.getElem?_eq_some_iff.mpr ⟨hj, hd⟩) hpd.symm
  omega

/-- The stored records, the reservations without a record and a peer that asks for one are all of
different peers, and all of these are in `v2_peers`. -/
theorem reservation_fits (hi : BookInv s) (hl : LockInv s) {i : Nat} {m : LockId}
    {q : RegistrationRequest} {route : Option RouteKind} {active : Nat}
    (hc : s.tasks[i]? = some (.holding m (.counted q route active)))
    (hcur : active + s.tasks.countP Task.isStored ≤ s.registry.leases.len) :
    active + s.registry.pendingNewLeases < maxLeases := by
  obtain ⟨hq, hnone⟩ := hi.tasks i m _ hc
  have hres : ∀ p ∈ s.tasks.filterMap Task.reservedPeer,
      p ∈ s.registry.v2Peers ∧ p ∉ s.registry.leases.keys ∧ p ≠ q.peerId := by
    intro p hp
    obtain ⟨τ, hτ, hp⟩ := List.mem_filterMap.mp hp
    obtain ⟨n, c, rfl, hcap, rfl⟩ := reservedPeer_eq_some hp
    obtain ⟨j, hj⟩ := List.mem_iff_getElem?.mp hτ
    obtain ⟨hv, hres⟩ := hi.tasks j n _ hj
    refine ⟨hv (hres hcap).1, Table.get_eq_none.mp (hres hcap).2, fun he => ?_⟩
    obtain rfl := hl.one_holder hj hc he
    rw [hj] at hc
    cases hc
  have hnodup : (s.registry.leases.keys ++
      (q.peerId :: s.tasks.filterMap Task.reservedPeer)).Nodup := by
    rw [List.nodup_append]
    refine ⟨s.registry.leases.keys_nodup, List.nodup_cons.mpr ⟨?_, reservedPeers_nodup hl⟩, ?_⟩
    · exact fun hmem => (hres _ hmem).2.2 rfl
    · rintro a ha b hb rfl
      rcases List.mem_cons.mp hb with rfl | hb
      · exact Table.get_eq_none.mp hnone ha
      · exact (hres a hb).2.1 ha
  have hsub : (s.registry.leases.keys ++
      (q.peerId :: s.tasks.filterMap Task.reservedPeer)).toFinset ⊆ s.registry.v2Peers := by
    intro p hp
    rw [List.mem_toFinset, List.mem_append, List.mem_cons] at hp
    rcases hp with hp | rfl | hp
    · cases hg : s.registry.leases.get p with
      | none => exact absurd hp (Table.get_eq_none.mp hg)
      | some r => exact hi.remembered p r hg
    · exact hq
    · exact (hres p hp).1
  have hcard := Finset.card_le_card hsub
  rw [List.toFinset_card_of_nodup hnodup, List.length_append, List.length_cons,
    ← Table.len_eq_keys] at hcard
  have hcount := reserved_le s.tasks
  have hpend := hi.reservations
  have hbound := hi.bounded
  simp only [maxV2Peers, maxLeases] at *
  omega

theorem BookInv.books (hi : BookInv s) : Books s := by
  refine ⟨hi.remembered, ?_, hi.reservations⟩
  have hsub : s.registry.leases.keys.toFinset ⊆ s.registry.v2Peers := by
    intro p hp
    cases hg : s.registry.leases.get p with
    | none => exact absurd (List.mem_toFinset.mp hp) (Table.get_eq_none.mp hg)
    | some r => exact hi.remembered p r hg
  have hcard := Finset.card_le_card hsub
  rw [List.toFinset_card_of_nodup s.registry.leases.keys_nodup, ← Table.len_eq_keys] at hcard
  have hbound := hi.bounded
  simp only [maxV2Peers, maxLeases] at *
  omega

end

end Starry.Activation
