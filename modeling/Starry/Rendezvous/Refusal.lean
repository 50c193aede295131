import Starry.Rendezvous.Identity
import Starry.Activation.Capacity

/-!
# What a refused registration leaves behind

The last check of a WebSocket registration is the room that `bind` finds in the session table. It
comes after `process_register_pk` has stored the identity and the time.
-/

open Library

namespace Starry.Rendezvous

open Starry.Activation (Lapsed LeaseRecord Task Phase)
open Starry.Routing (Routes)

/-! ## What routes traffic -/

/-- The fields of a peer that count. -/
def Peer.routing (peer : Peer) : Bytes × Bytes × SocketAddr × Nat × Instant :=
  (peer.uuid, peer.pk, peer.socketAddr, peer.routeGeneration, peer.lastRegTime)

/-- A peer that was not known may have got the empty entry of `get_or`. -/
def SamePeer (env : Env) (o o' : Option Peer) : Prop :=
  o'.map Peer.routing = o.map Peer.routing ∨
    o = none ∧ ∃ now, o'.map Peer.routing = some (Peer.default (env.expiredTime now)).routing

structure SameRouting (env : Env) (id : String) (s t : System) : Prop where
  peer : SamePeer env (s.peers.get id) (t.peers.get id)
  session : t.routes.sessions.get id = s.routes.sessions.get id
  /-- Apart from expiry. -/
  lease : Relation.ReflTransGen Lapsed (s.activation.lease id) (t.activation.lease id)

/-- While registration `i` of a peer is on its way, only registrations of other peers move. -/
def othersOnly (id : String) (i : Nat) (s : System) : Move → Bool
  | .arrive request _ => request.id != id
  | .advance j _ => j == i || s.handlers[j]?.all fun h => h.request.id != id
  | _ => false

/-- Where registration `i` binds its session, the table has room for it. -/
def roomToBind (env : Env) (i : Nat) (s : System) : Move → Bool
  | .advance j _ => j != i || match s.handlers[i]? with
    | some ⟨request, .webSocket _ _ effectiveAddr, .stored _ _⟩ =>
      s.routes.capacityAvailable request.id effectiveAddr.ip env.maxSessions
        env.maxSessionsPerEffectiveIp
    | _ => true
  | _ => true

/-- From the store on. -/
def Stage.accepting : Stage → Bool
  | .written .. | .stored .. | .bound .. | .routed .. | .committed .. | .answering _
  | .disconnecting .. | .disconnected _ | .sent | .done (some .ok) => true
  | _ => false

/-! ## Whose task it is -/

/-- The task is the peer's. -/
def OfPeer (id : String) (τ : Task) : Prop := ∀ p m, τ.reference = some (p, m) → p = id

/-- It has not read its record yet, or is a registration. -/
def Registering (τ : Task) : Prop := ∀ c, τ.pending = some c → ∃ q, c = .registration q

def Stage.token : Stage → Option Routing.SessionToken
  | .bound _ _ token | .answering token | .disconnecting _ token | .disconnected token => some token
  | .routed _ _ token | .committed _ _ token => token
  | _ => none

/-- Whether the task of the stage is a registration's. -/
def Stage.registering : Stage → Bool
  | .disconnecting .. => false
  | _ => true

structure Owns (a : Activation.System) (h : Handler) : Prop where
  task : ∀ k, h.stage.task = some k → ∃ τ, a.tasks[k]? = some τ ∧ OfPeer h.request.id τ ∧
    (h.stage.registering = true → Registering τ)
  token : ∀ token, h.stage.token = some token → token.peerId = h.request.id

/-- Every handler has its own peer's task and token. -/
def Owned (s : System) : Prop := ∀ h ∈ s.handlers, Owns s.activation h

section

variable {env : Env} {s t u : System} {a b : Activation.System} {i : Nat} {h : Handler}
  {input : Input} {stage : Stage} {id : String} {l : Activation.Step} {sha256 : Bytes → Bytes}

/-! ### Tasks -/

theorem arrive_getElem? (a : Activation.System) (c : Activation.Call) {k : Nat} {τ : Task}
    (hk : a.tasks[k]? = some τ) : (a.arrive c).tasks[k]? = some τ := by
  obtain ⟨locks, σ, n, heq, -⟩ := Activation.arrive_eq a c
  rw [heq]
  exact (List.getElem?_append_left (List.getElem?_eq_some_iff.mp hk).1).trans hk

theorem arrive_new (a : Activation.System) (c : Activation.Call) :
    ∃ τ, (a.arrive c).tasks[a.tasks.length]? = some τ ∧ OfPeer c.peerId τ ∧
      ∀ c', τ.pending = some c' → c' = c := by
  obtain ⟨locks, σ, n, heq, -⟩ := Activation.arrive_eq a c
  have hσ : (a.arrive c).tasks[a.tasks.length]? = some σ := by
    rw [heq]
    exact List.getElem?_concat_length
  refine ⟨σ, hσ, ?_⟩
  rcases Activation.arrive_task hσ with hold | ⟨-, m, rfl⟩ | ⟨-, o, rfl⟩
  · have hlt := (List.getElem?_eq_some_iff.mp hold).1
    exact absurd hlt (Nat.lt_irrefl _)
  · refine ⟨fun p m' hr => ?_, fun c' hp => ?_⟩
    · cases hr
      rfl
    · cases hp
      rfl
  · exact ⟨nofun, nofun⟩

/-- A step of the registry leaves every task its peer and its kind. -/
theorem task_kept (hstep : a.step sha256 l = some b) {k : Nat} {τ : Task}
    (hk : a.tasks[k]? = some τ) : ∃ τ', b.tasks[k]? = some τ' ∧
      (∀ id, OfPeer id τ → OfPeer id τ') ∧ (Registering τ → Registering τ') := by
  rcases Activation.step_tasks hstep with ⟨c, -, rfl⟩ | ⟨-, htasks | ⟨j, σ, σ', hj, htasks, hr, hp⟩⟩
  · exact ⟨τ, arrive_getElem? a c hk, fun _ => id, id⟩
  · exact ⟨τ, by rw [htasks]; exact hk, fun _ => id, id⟩
  · rw [htasks, List.getElem?_set]
    by_cases hjk : j = k
    · subst hjk
      rw [hj] at hk
      cases hk
      rw [if_pos rfl, if_pos (List.getElem?_eq_some_iff.mp hj).1]
      refine ⟨σ', rfl, fun id ho p m href => ?_, fun hreg c hc => hreg c (hp c hc)⟩
      rcases hr with hnone | hsame
      · rw [hnone] at href
        cases href
      · exact ho p m (hsame ▸ href)
    · rw [if_neg hjk]
      exact ⟨τ, hk, fun _ => id, id⟩

theorem Owns.mono (ho : Owns a h) (hstep : a.step sha256 l = some b) : Owns b h := by
  refine ⟨fun k hk => ?_, ho.token⟩
  obtain ⟨τ, hτ, hpeer, hreg⟩ := ho.task k hk
  obtain ⟨τ', hτ', hpeer', hreg'⟩ := task_kept hstep hτ
  exact ⟨τ', hτ', hpeer' _ hpeer, fun hs => hreg' (hreg hs)⟩

theorem Owns.keepsTask (ho : Owns a h)
    (htask : ∀ k, stage.task = some k → h.stage.task = some k ∧ h.stage.registering = true)
    (k : Nat) (hk : stage.task = some k) : ∃ τ, a.tasks[k]? = some τ ∧ OfPeer h.request.id τ ∧
      (stage.registering = true → Registering τ) := by
  obtain ⟨hold, hregistering⟩ := htask k hk
  obtain ⟨τ, hτ, hpeer, hreg⟩ := ho.task k hold
  exact ⟨τ, hτ, hpeer, fun _ => hreg hregistering⟩

/-- A handler that keeps its task and its token, or gives them up. -/
theorem Owns.to (ho : Owns a h)
    (htask : ∀ k, stage.task = some k → h.stage.task = some k ∧ h.stage.registering = true)
    (htoken : ∀ token, stage.token = some token → h.stage.token = some token) :
    Owns a { h with stage } :=
  ⟨ho.keepsTask htask, fun token ht => ho.token token (htoken token ht)⟩

theorem Advance.activation (ha : Advance env s h input stage u) :
    u.activation = s.activation ∨
      ∃ l, s.activation.step env.sha256 l = some u.activation := by
  cases ha with
  | found fast hstage =>
    unfold System.getOr
    split <;> exact .inl rfl
  | called _ _ _ _ hlease | awaited _ _ _ _ _ hlease | tooFrequent _ _ _ _ _ _ hlease
  | unbound _ _ _ _ _ _ _ _ _ _ _ hlease | committed _ _ _ _ _ hlease | removed _ _ _ hlease =>
    obtain ⟨activation, hstep, rfl⟩ := lease_spec hlease
    exact .inr ⟨_, hstep⟩
  | _ => exact .inl rfl

theorem Stage.early_task (he : stage.early = true) : stage.task = none ∧ stage.token = none := by
  cases stage <;> first | exact ⟨rfl, rfl⟩ | cases he

theorem Advance.owns (ho : Owns s.activation h) (ha : Advance env s h input stage u) :
    Owns u.activation { h with stage } := by
  cases ha with
  | preliminary stage hstage hnext =>
    obtain ⟨htask, htoken⟩ := Stage.early_task hnext
    exact ho.to (by rw [htask]; exact nofun) (by rw [htoken]; exact nofun)
  | found fast hstage =>
    have hactivation : (s.getOr env h.request.id input.now).activation = s.activation := by
      unfold System.getOr
      split <;> rfl
    rw [hactivation]
    exact ho.to nofun nofun
  | called fast comparison t hstage hlease =>
    obtain ⟨activation, hstep, rfl⟩ := lease_spec hlease
    obtain ⟨τ, hτ, hpeer, hpending⟩ :=
      arrive_new s.activation (.registration (h.request.request fast))
    cases hstep
    refine ⟨fun k hk => ?_, nofun⟩
    cases hk
    exact ⟨τ, hτ, hpeer, fun _ c hc => ⟨_, hpending c hc⟩⟩
  | awaited task l t hstage hl hlease =>
    obtain ⟨activation, hstep, rfl⟩ := lease_spec hlease
    exact ho.mono hstep
  | tooFrequent _ _ _ _ _ _ hlease | unbound _ _ _ _ _ _ _ _ _ _ _ hlease =>
    obtain ⟨activation, hstep, rfl⟩ := lease_spec hlease
    exact (ho.mono hstep).to nofun nofun
  | committed task claim token t hstage hlease =>
    obtain ⟨activation, hstep, rfl⟩ := lease_spec hlease
    exact (ho.mono hstep).to (fun k hk => by rw [hstage]; exact ⟨hk, rfl⟩)
      (fun token ht => by rw [hstage]; exact ht)
  | removed token t hstage hlease =>
    obtain ⟨activation, hstep, rfl⟩ := lease_spec hlease
    have htoken : token.peerId = h.request.id := ho.token token (by rw [hstage]; rfl)
    obtain ⟨τ, hτ, hpeer, -⟩ := arrive_new s.activation
      (.disconnect token.peerId (.webSocket token.generation token.connectionId))
    cases hstep
    refine ⟨fun k hk => ?_, fun token' ht => ?_⟩
    · cases hk
      exact ⟨τ, hτ, htoken ▸ hpeer, nofun⟩
    · cases ht
      exact htoken
  | claimed _ _ _ _ _ hstage | limited _ _ _ _ _ hstage | counted _ _ _ _ hstage
  | wrote _ _ _ hstage | refreshed _ _ _ hstage | returned _ _ hstage
  | routedNative _ _ _ hstage =>
    exact ho.to (fun k hk => by rw [hstage]; exact ⟨hk, rfl⟩) nofun
  | bound task claim connectionId routeAddr effectiveAddr token routes hstage hbind =>
    have hpeer : token.peerId = h.request.id := (Routing.bind_ok hbind).1
    refine ⟨ho.keepsTask fun k hk => by rw [hstage]; exact ⟨hk, rfl⟩, fun token' ht => ?_⟩
    cases ht
    exact hpeer
  | routedWebsocket _ _ _ hstage =>
    exact ho.to (fun k hk => by rw [hstage]; exact ⟨hk, rfl⟩) (fun token ht => by rw [hstage]; exact ht)
  | answering _ _ _ hstage | disconnected _ _ hstage =>
    exact ho.to nofun (fun token ht => by rw [hstage]; exact ht)
  | _ => exact ho.to nofun nofun

theorem Owned.advance (ho : Owned s) (hmem : h ∈ s.handlers)
    (ha : Advance env s h input stage u) : Owned (u.goto i h stage) := by
  intro h' hmem'
  rcases mem_goto ha.handlers hmem' with hold | rfl
  · rcases ha.activation with hsame | ⟨l, hstep⟩
    · exact (hsame : u.activation = _) ▸ ho h' hold
    · exact (ho h' hold).mono hstep
  · have howns : Owns u.activation { h with stage } := ha.owns (ho h hmem)
    exact howns

theorem Owned.step {m : Move} (ho : Owned s) (hw : s.step env m = some t) : Owned t := by
  cases m with
  | arrive request via =>
    cases hw
    intro h hmem
    rcases List.mem_append.mp hmem with hold | hnew
    · exact ho h hold
    · rw [List.mem_singleton.mp hnew]
      exact ⟨nofun, nofun⟩
  | advance i input =>
    obtain ⟨h, hi, hadvance⟩ := Option.bind_eq_some_iff.mp hw
    obtain ⟨stage, u, ha, rfl⟩ := advance_spec hadvance
    exact ho.advance (List.mem_of_getElem? hi) ha
  | lease l =>
    simp only [System.step] at hw
    split at hw
    · obtain ⟨activation, hstep, rfl⟩ := lease_spec hw
      exact fun h hmem => (ho h hmem).mono hstep
    · cases hw
  | _ =>
    cases hw
    exact ho

/-! ### Leases -/

/-- A call goes on. What it does to the record of `id` is expiry, if it is another peer's or a
registration. -/
theorem lapsed_await {k : Nat} {τ : Task} (hl : l = .lock k ∨ l = .proceed k input.now input.random)
    (hstep : a.step sha256 l = some b) (hk : a.tasks[k]? = some τ)
    (hτ : (∃ p, OfPeer p τ ∧ p ≠ id) ∨ Registering τ) : Lapsed (a.lease id) (b.lease id) := by
  rcases hl with rfl | rfl
  · simp only [Activation.System.step, hk] at hstep
    split at hstep
    · split at hstep
      · cases hstep
      · cases hstep
        exact Activation.lapsed_same rfl
    · cases hstep
  · rcases Activation.proceed_cases hstep with
      ⟨m, φ, φ', r, hi, hm, rfl⟩ | ⟨m, φ, o, r, hi, he, rfl⟩ | ⟨m, c, hi, rfl⟩
    · exact hm.lapsed id
    · rw [hk] at hi
      cases hi
      -- A touch or a disconnect is no registration, so it is of another peer.
      have hother : ∀ call, φ = .entered call → (∀ q, call ≠ .registration q) →
          call.peerId ≠ id := by
        rintro call rfl hcall
        rcases hτ with ⟨p, hpeer, hne⟩ | hreg
        · have hp : call.peerId = p := hpeer _ m rfl
          rw [hp]
          exact hne
        · obtain ⟨q, hq⟩ := hreg call rfl
          exact absurd hq (hcall q)
      cases he with
      | touched p route answer =>
        have hne : p ≠ id := hother _ rfl fun q hq => by cases hq
        refine Activation.lapsed_same ?_
        exact (Table.get_modify ..).trans (if_neg hne.symm)
      | disconnected p route answer =>
        have hne : p ≠ id := hother _ rfl fun q hq => by cases hq
        refine Activation.lapsed_same ?_
        exact (Table.get_modify ..).trans (if_neg hne.symm)
      | verified | refused | full => exact Activation.lapsed_same rfl
    · exact Activation.lapsed_same (by simp [Activation.System.lease, Activation.System.update])

theorem lease_call {c : Activation.Call} (hstep : a.step sha256 (.call c) = some b) :
    b.lease id = a.lease id := by
  cases hstep
  exact Activation.arrive_lease a c id

theorem lease_drop {k : Nat} (hstep : a.step sha256 (.drop k) = some b) :
    b.lease id = a.lease id := by
  simp only [Activation.System.step] at hstep
  split at hstep
  · cases hstep
    simp [Activation.System.lease, Activation.System.update]
  · cases hstep
    rfl
  · cases hstep

theorem lease_commit {k : Nat} {route : Activation.RouteKind} {now : Instant} {τ : Task} {p : String}
    (hstep : a.step sha256 (.commitActivation k route now) = some b) (hk : a.tasks[k]? = some τ)
    (hpeer : OfPeer p τ) (hne : p ≠ id) : b.lease id = a.lease id := by
  simp only [Activation.System.step] at hstep
  split at hstep
  · rename_i m c hi
    rw [hk] at hi
    cases hi
    cases hstep
    have hp : c.peerId = p := hpeer _ m rfl
    have hid : id ≠ c.peerId := by
      rw [hp]
      exact hne.symm
    simp only [Activation.System.lease, Activation.System.update, Activation.ActivationClaim.commit]
    split
    · rfl
    · rw [Table.get_insert, if_neg hid]
  · cases hstep

/-! ### One step -/

theorem SameRouting.refl (s : System) : SameRouting env id s s := ⟨.inl rfl, rfl, .refl⟩

theorem SameRouting.trans (h : SameRouting env id s t) (h' : SameRouting env id t u) :
    SameRouting env id s u := by
  refine ⟨?_, h'.session.trans h.session, h.lease.trans h'.lease⟩
  rcases h'.peer with hsame | ⟨hnone, hnew⟩
  · rw [SamePeer, hsame]
    exact h.peer
  · rcases h.peer with hsame | ⟨-, now, hsome⟩
    · rw [hnone] at hsame
      exact .inr ⟨Option.map_eq_none_iff.mp hsame.symm, hnew⟩
    · rw [hnone] at hsome
      cases hsome

theorem SameRouting.record (h : SameRouting env id s t) (b : Binding) :
    SameRouting env id s (t.record b) := ⟨h.peer, h.session, h.lease⟩

theorem SameRouting.goto (hs : SameRouting env id s u) :
    SameRouting env id s (u.goto i h stage) := ⟨hs.peer, hs.session, hs.lease⟩

/-- A step of the registry that is nothing to the record of `id` but expiry. -/
theorem sameRouting_lease (hlease : s.lease env l = some u)
    (hlapsed : ∀ b, s.activation.step env.sha256 l = some b →
      Lapsed (s.activation.lease id) (b.lease id)) : SameRouting env id s u := by
  obtain ⟨activation, hstep, rfl⟩ := lease_spec hlease
  exact ⟨.inl rfl, rfl, .single (hlapsed _ hstep)⟩

theorem sameRouting_getOr (s : System) (id id' : String) (now : Instant) :
    SameRouting env id s (s.getOr env id' now) := by
  have hothers : (s.getOr env id' now).routes = s.routes ∧
      (s.getOr env id' now).activation = s.activation := by
    unfold System.getOr
    split <;> exact ⟨rfl, rfl⟩
  refine ⟨?_, by rw [hothers.1], by rw [hothers.2]⟩
  rcases get_getOr env s id' id now with hsame | ⟨-, hnone, hsome⟩
  · rw [hsame]
    exact .inl rfl
  · rw [hsome]
    exact .inr ⟨hnone, now, rfl⟩

/-- A change of another peer, or one of no field that counts. -/
theorem sameRouting_modifyPeer {p : String} {f : Peer → Peer}
    (hf : id ≠ p ∨ ∀ peer, (f peer).routing = peer.routing) :
    SameRouting env id s (s.modifyPeer p f) := by
  refine ⟨.inl ?_, rfl, .refl⟩
  rw [get_modifyPeer]
  split
  · rename_i hid
    subst hid
    rcases hf with hne | hsame
    · exact absurd rfl hne
    · cases s.peers.get id with
      | none => rfl
      | some peer => exact congrArg some (hsame peer)
  · rfl

theorem sameRouting_removed {p : String} (hne : p ≠ id) (generation connectionId : Nat) :
    SameRouting env id s { s with
      routes := (s.routes.removeIfCurrentInner p generation connectionId true).2 } := by
  refine ⟨.inl rfl, ?_, .refl⟩
  rcases Routing.removeIfCurrentInner_cases s.routes p generation connectionId true with
    hsame | ⟨_, -, -, -, hsessions⟩
  · dsimp only
    rw [hsame]
  · dsimp only
    rw [hsessions, Table.get_remove, if_neg hne.symm]

/-- A registration changes nothing of another peer's. -/
theorem Advance.others (ho : Owns s.activation h) (hne : h.request.id ≠ id)
    (ha : Advance env s h input stage u) : SameRouting env id s u := by
  cases ha with
  | found fast hstage => exact sameRouting_getOr ..
  | called fast comparison t hstage hlease =>
    exact sameRouting_lease hlease fun b hstep => Activation.lapsed_same (lease_call hstep)
  | awaited task l t hstage hl hlease =>
    obtain ⟨τ, hτ, hpeer, -⟩ := ho.task task hstage
    exact sameRouting_lease hlease fun b hstep =>
      lapsed_await hl hstep hτ (.inl ⟨_, hpeer, hne⟩)
  | tooFrequent _ _ _ _ _ _ hlease | unbound _ _ _ _ _ _ _ _ _ _ _ hlease =>
    exact sameRouting_lease hlease fun b hstep => Activation.lapsed_same (lease_drop hstep)
  | committed task claim token t hstage hlease =>
    obtain ⟨τ, hτ, hpeer, -⟩ := ho.task task (by rw [hstage]; rfl)
    exact sameRouting_lease hlease fun b hstep =>
      Activation.lapsed_same (lease_commit hstep hτ hpeer hne)
  | counted | routedNative | routedWebsocket | touched =>
    exact sameRouting_modifyPeer (.inl hne.symm)
  | wrote | refreshed => exact (sameRouting_modifyPeer (.inl hne.symm)).record _
  | returned => exact (SameRouting.refl s).record _
  | bound task claim connectionId routeAddr effectiveAddr token routes hstage hbind =>
    refine ⟨.inl rfl, ?_, .refl⟩
    have hroutes := congrArg Prod.snd hbind
    dsimp only at hroutes ⊢
    rcases Routing.bind_cases s.routes h.request.id connectionId effectiveAddr.ip routeAddr
      claim.generation (Routing.nowMillis input.now) env.maxSessions env.maxSessionsPerEffectiveIp
      with hsame | ⟨-, -, hsessions⟩
    · rw [← hroutes, hsame]
    · rw [hroutes] at hsessions
      rw [hsessions, Table.get_insert, if_neg hne.symm]
  | replaced task claim generation connectionId hstage =>
    exact sameRouting_removed hne generation connectionId
  | removed token t hstage hlease =>
    have htoken : token.peerId = h.request.id := ho.token token (by rw [hstage]; rfl)
    refine (sameRouting_removed (htoken ▸ hne) _ _).trans (sameRouting_lease hlease ?_)
    exact fun b hstep => Activation.lapsed_same (lease_call hstep)
  | expired token hstage =>
    have htoken : token.peerId = h.request.id := ho.token token (by rw [hstage]; rfl)
    exact sameRouting_modifyPeer (.inl (htoken ▸ hne.symm))
  | _ => exact .refl s

/-- Up to its store, a registration changes nothing of its peer's either. -/
theorem Advance.unstored (ho : Owns s.activation h) (hold : h.stage.accepting = false)
    (hnew : stage.accepting = false) (ha : Advance env s h input stage u) :
    SameRouting env id s u := by
  cases ha with
  | found fast hstage => exact sameRouting_getOr ..
  | called fast comparison t hstage hlease =>
    exact sameRouting_lease hlease fun b hstep => Activation.lapsed_same (lease_call hstep)
  | awaited task l t hstage hl hlease =>
    obtain ⟨τ, hτ, -, hreg⟩ := ho.task task hstage
    have hregistering : h.stage.registering = true := by
      cases hs : h.stage <;> first | rfl | (rw [hs] at hold; cases hold)
    exact sameRouting_lease hlease fun b hstep =>
      lapsed_await hl hstep hτ (.inr (hreg hregistering))
  | tooFrequent _ _ _ _ _ _ hlease =>
    exact sameRouting_lease hlease fun b hstep => Activation.lapsed_same (lease_drop hstep)
  | unbound _ _ _ _ _ _ _ _ hstage =>
    rw [hstage] at hold
    cases hold
  | counted => exact sameRouting_modifyPeer (.inr fun _ => rfl)
  | refused | ignored | preliminary | verified | compared | claimed | unclaimed | limited =>
    exact .refl s
  | _ => cases hnew

theorem Stage.uncompared_of_early (he : stage.early = true) : stage.uncompared = true := by
  cases stage <;> first | rfl | cases he

theorem Stage.unstored (hu : stage.uncompared = true) : stage.accepting = false := by
  cases stage <;> first | rfl | cases hu

/-- After its store, a registration that finds room is answered with `OK`. -/
theorem Advance.accepted (hold : h.stage.accepting = true) (ha : Advance env s h input stage u)
    (hroom : ∀ connectionId routeAddr effectiveAddr task claim,
      h.via = .webSocket connectionId routeAddr effectiveAddr → h.stage = .stored task claim →
      s.routes.capacityAvailable h.request.id effectiveAddr.ip env.maxSessions
        env.maxSessionsPerEffectiveIp = true) : stage.accepting = true := by
  cases ha with
  | unbound task claim connectionId routeAddr effectiveAddr error routes t hstage hvia hbind =>
    obtain ⟨token, routes', hok⟩ := Routing.bind_of_capacity
      (hroom connectionId routeAddr effectiveAddr task claim hvia hstage)
    rw [hok] at hbind
    cases hbind
  | awaited => exact hold
  | refused result hstage hne =>
    rw [Stage.unstored hstage] at hold
    cases hold
  | preliminary stage hstage hnext =>
    rw [Stage.unstored (Stage.uncompared_of_early hstage)] at hold
    cases hold
  | ignored hstage | verified hstage | found _ hstage | compared _ _ _ hstage
  | called _ _ _ hstage | claimed _ _ _ _ _ hstage | unclaimed _ _ _ hstage
  | limited _ _ _ _ _ hstage | tooFrequent _ _ _ _ _ hstage | counted _ _ _ _ hstage =>
    rw [hstage] at hold
    cases hold
  | _ => rfl

/-! ### The request -/

/-- How a registration stands that arrived in `s`. -/
structure OnItsWay (env : Env) (s : System) (request : RegisterPk) (via : Transport) (i : Nat)
    (u : System) : Prop where
  owned : Owned u
  handler : ∃ stage, u.handlers[i]? = some ⟨request, via, stage⟩ ∧
    (stage.accepting = false → SameRouting env request.id s u)

variable {request : RegisterPk} {via : Transport} {m : Move}

theorem roomToBind_spec (hg : roomToBind env i s (.advance i input) = true)
    (hi : s.handlers[i]? = some h) {connectionId : Nat} {routeAddr effectiveAddr : SocketAddr}
    {task : Nat} {claim : Activation.ActivationClaim}
    (hvia : h.via = .webSocket connectionId routeAddr effectiveAddr)
    (hstage : h.stage = .stored task claim) :
    s.routes.capacityAvailable h.request.id effectiveAddr.ip env.maxSessions
      env.maxSessionsPerEffectiveIp = true := by
  obtain ⟨request, via, stage⟩ := h
  subst hvia hstage
  simpa [roomToBind, hi] using hg

theorem OnItsWay.own (hw : OnItsWay env s request via i u)
    (hroom : roomToBind env i u (.advance i input) = true)
    (hstep : u.step env (.advance i input) = some t) : OnItsWay env s request via i t := by
  have howned : Owned t := hw.owned.step hstep
  obtain ⟨stage, hi, hsame⟩ := hw.handler
  obtain ⟨h, hi', hadvance⟩ := Option.bind_eq_some_iff.mp hstep
  rw [hi] at hi'
  cases hi'
  obtain ⟨stage', v, ha, rfl⟩ := advance_spec hadvance
  have howns := hw.owned _ (List.mem_of_getElem? hi)
  have hset : (v.goto i ⟨request, via, stage⟩ stage').handlers[i]? =
      some ⟨request, via, stage'⟩ := by
    have hlt := (List.getElem?_eq_some_iff.mp hi).1
    rw [← ha.handlers] at hlt
    exact List.getElem?_set_self hlt
  refine ⟨howned, stage', hset, fun hnew => ?_⟩
  cases hold : stage.accepting with
  | true =>
    have haccepted := ha.accepted hold fun _ _ _ _ _ hvia hstage =>
      roomToBind_spec hroom hi hvia hstage
    rw [haccepted] at hnew
    cases hnew
  | false =>
    have hstep : SameRouting env request.id u v := ha.unstored howns hold hnew
    exact (hsame hold).trans hstep.goto

theorem OnItsWay.other {j : Nat} (hw : OnItsWay env s request via i u) (hj : j ≠ i)
    (hi : u.handlers[j]? = some h) (hne : h.request.id ≠ request.id)
    (hstep : u.step env (.advance j input) = some t) : OnItsWay env s request via i t := by
  have howned : Owned t := hw.owned.step hstep
  obtain ⟨stage, hstage, hsame⟩ := hw.handler
  obtain ⟨h', hi', hadvance⟩ := Option.bind_eq_some_iff.mp hstep
  rw [hi] at hi'
  cases hi'
  obtain ⟨stage', v, ha, rfl⟩ := advance_spec hadvance
  have hstep : SameRouting env request.id u v :=
    ha.others (hw.owned h (List.mem_of_getElem? hi)) hne
  refine ⟨howned, stage, ?_, fun hnew => (hsame hnew).trans hstep.goto⟩
  have hset : (v.goto j h stage').handlers[i]? = v.handlers[i]? := List.getElem?_set_ne hj
  rw [hset, ha.handlers]
  exact hstage

theorem OnItsWay.step (hw : OnItsWay env s request via i u)
    (hg : (othersOnly request.id i u m && roomToBind env i u m) = true)
    (hstep : u.step env m = some t) : OnItsWay env s request via i t := by
  rw [Bool.and_eq_true] at hg
  obtain ⟨hothers, hroom⟩ := hg
  cases m with
  | arrive request' via' =>
    have howned : Owned t := hw.owned.step hstep
    cases hstep
    obtain ⟨stage, hi, hsame⟩ := hw.handler
    refine ⟨howned, stage, ?_, fun hnew => ?_⟩
    · exact (List.getElem?_append_left (List.getElem?_eq_some_iff.mp hi).1).trans hi
    · obtain ⟨hpeer, hsession, hlease⟩ := hsame hnew
      exact ⟨hpeer, hsession, hlease⟩
  | advance j input =>
    by_cases hj : j = i
    · subst hj
      exact hw.own hroom hstep
    · obtain ⟨h, hi, -⟩ := Option.bind_eq_some_iff.mp hstep
      have hne : h.request.id ≠ request.id := by
        simpa [othersOnly, hi, hj] using hothers
      exact hw.other hj hi hne hstep
  | _ => cases hothers

end

theorem owned_of_run {env : Env} {peers : Table String Peer} {ms : List Move} {s : System}
    (h : Run (Steps (System.step env)) (.init peers) ms s) : Owned s := by
  have hinit : Owned (.init peers) := by
    have hhandlers : (System.init peers).handlers = [] := rfl
    intro h hmem
    rw [hhandlers] at hmem
    cases hmem
  exact h.invariant (P := Owned) hinit fun _ _ _ ho hn => ho.step hn.2

/-- A registration that is not answered with `OK` changes nothing that routes traffic, if the table
still has room where it binds its session. -/
theorem refused_changes_nothing (env : Env) (peers : Table String Peer) {ms ms' : List Move}
    {s s' t : System} {request : RegisterPk} {via : Transport} {reply : Option RegisterPkResult}
    (hreach : Run (Steps (System.step env)) (.init peers) ms s)
    (harrive : s.step env (.arrive request via) = some s')
    (hrun : Run (Guarded (System.step env) fun u m =>
      othersOnly request.id s.handlers.length u m && roomToBind env s.handlers.length u m) s' ms' t)
    (hdone : t.handlers[s.handlers.length]? = some ⟨request, via, .done reply⟩)
    (hrefused : reply ≠ some .ok) : SameRouting env request.id s t := by
  have harrived : OnItsWay env s request via s.handlers.length s' := by
    refine ⟨(owned_of_run hreach).step harrive, .arrived, ?_, fun _ => ?_⟩
    · cases harrive
      exact List.getElem?_concat_length
    · cases harrive
      exact ⟨.inl rfl, rfl, .refl⟩
  have hway : OnItsWay env s request via s.handlers.length t :=
    hrun.invariant (P := OnItsWay env s request via s.handlers.length) harrived
      fun _ _ _ hw hn => hw.step hn.1 hn.2
  obtain ⟨stage, hi, hsame⟩ := hway.handler
  rw [hdone] at hi
  cases hi
  apply hsame
  cases reply with
  | none => rfl
  | some result =>
    cases result with
    | ok => exact absurd rfl hrefused
    | uuidMismatch | tooFrequent | serverError => rfl

/-- A WebSocket registration with another uuid than the stored one. -/
theorem refused_changes_nothing_mismatch : ∃ s s' t,
    Run (Steps (System.step sampleEnv)) (.init .empty)
      (.arrive (legacyRequest 1) (.udp (.v4 1 1000)) :: advances 0 17) s ∧
    s.step sampleEnv (.arrive (legacyRequest 2) (.webSocket 5 (.v4 2 1000) (.v4 2 1000))) =
      some s' ∧
    t.handlers[s.handlers.length]? = some ⟨legacyRequest 2, .webSocket 5 (.v4 2 1000) (.v4 2 1000),
      .done (some .uuidMismatch)⟩ ∧ SameRouting sampleEnv "peer-1" s t := by
  have h : (exec (System.step sampleEnv) (fun _ _ => true) (.init .empty)
      (.arrive (legacyRequest 1) (.udp (.v4 1 1000)) :: advances 0 17)).any (fun s =>
        s.handlers.length == 1 &&
        (s.step sampleEnv (.arrive (legacyRequest 2)
          (.webSocket 5 (.v4 2 1000) (.v4 2 1000)))).any fun s' =>
          (exec (System.step sampleEnv) (fun u m => othersOnly (legacyRequest 2).id 1 u m &&
            roomToBind sampleEnv 1 u m) s' (advances 1 6)).any fun t =>
            t.handlers[1]? == some ⟨legacyRequest 2, .webSocket 5 (.v4 2 1000) (.v4 2 1000),
              .done (some .uuidMismatch)⟩) = true := by rfl
  simp only [Option.any_eq_true, Bool.and_eq_true, beq_iff_eq] at h
  obtain ⟨s, hs, hlen, s', hs', t, ht, hdone⟩ := h
  rw [← hlen] at ht hdone
  exact ⟨s, s', t, .of_exec hs, hs', hdone,
    refused_changes_nothing sampleEnv .empty (.of_exec hs) hs' (.of_exec ht) hdone nofun⟩

/-! ## The last session -/

def oneSession : Env := { sampleEnv with maxSessions := 1 }

/-- Two peers find room for one session. The second one binds first. -/
def lastSession : List Move :=
  advances 0 16 ++ .arrive { legacyRequest 2 with id := "peer-2" }
    (.webSocket 2 (.v4 2 1000) (.v4 2 1000)) :: (advances 1 17 ++ advances 0 1)

theorem refused_after_store :
    ¬ ∀ (env : Env) (peers : Table String Peer) (ms ms' : List Move) (s s' t : System)
      (request : RegisterPk) (via : Transport) (reply : Option RegisterPkResult),
      Run (Steps (System.step env)) (.init peers) ms s →
      s.step env (.arrive request via) = some s' →
      Run (Guarded (System.step env) (othersOnly request.id s.handlers.length)) s' ms' t →
      t.handlers[s.handlers.length]? = some ⟨request, via, .done reply⟩ → reply ≠ some .ok →
      SameRouting env request.id s t := by
  intro hall
  have h : ((System.init .empty).step oneSession (.arrive (legacyRequest 1)
      (.webSocket 1 (.v4 1 1000) (.v4 1 1000)))).any (fun s' =>
        (exec (System.step oneSession) (othersOnly (legacyRequest 1).id 0) s' lastSession).any
          fun t => t.handlers[0]? == some ⟨legacyRequest 1,
              .webSocket 1 (.v4 1 1000) (.v4 1 1000), .done (some .tooFrequent)⟩ &&
            (t.peers.get "peer-1").map Peer.uuid == some (List.replicate 16 1)) = true := by rfl
  simp only [Option.any_eq_true, Bool.and_eq_true, beq_iff_eq] at h
  obtain ⟨s', hs', t, ht, hdone, huuid⟩ := h
  have hsame := hall oneSession .empty [] lastSession _ s' t _ _ _ (.nil _) hs' (.of_exec ht) hdone
    nofun
  obtain ⟨peer, hpeer, hstored⟩ := Option.map_eq_some_iff.mp huuid
  rcases hsame.peer with hold | ⟨-, now, hnew⟩
  · have hpeer' : t.peers.get (legacyRequest 1).id = some peer := hpeer
    rw [hpeer'] at hold
    cases hold
  · have hpeer' : t.peers.get (legacyRequest 1).id = some peer := hpeer
    rw [hpeer'] at hnew
    have huuid' : peer.uuid = [] := congrArg Prod.fst (Option.some.inj hnew)
    rw [huuid'] at hstored
    exact absurd hstored (by decide)

end Starry.Rendezvous
