import Starry.Rendezvous.Registration
import Starry.Activation.WellFormed
import Starry.Library.Run

/-!
# Which identity a peer keeps

A registration compares its uuid with the stored one before it waits for the peer's claim, and
stores its own after that, without another look. Two that find no uuid may both go on.
-/

open Library

namespace Starry.Rendezvous

def System.storedUuid (s : System) (id : String) : Bytes :=
  ((s.peers.get id).map Peer.uuid).getD []

/-- Between the comparison and the return. -/
def Stage.pending : Stage → Bool
  | .compared .. | .claiming .. | .claimed .. | .limited .. | .counted .. | .written .. => true
  | _ => false

/-- Pending, and with no write of the identity to come. -/
def Stage.settled : Stage → Bool
  | .compared _ comparison | .claiming _ comparison _ | .claimed _ comparison _ _
  | .limited comparison _ _ _ | .counted comparison _ _ => !comparison.changed
  | .written .. => true
  | _ => false

/-- The request was seen to have a uuid. -/
def Stage.named : Stage → Bool
  | .verified _ | .found _ => true
  | stage => stage.pending

/-- A registration that finds no uuid compares only while none with another uuid is pending. -/
def alone (s : System) : Move → Bool
  | .advance i _ => match s.handlers[i]? with
    | some ⟨request, _, .found _⟩ =>
      !(s.storedUuid request.id).isEmpty || s.handlers.all fun other =>
        !(other.request.id == request.id && other.stage.pending) ||
          other.request.uuid == request.uuid
    | _ => true
  | _ => true

/-! ## The invariant -/

structure Begun (s : System) : Prop where
  named : ∀ h ∈ s.handlers, h.stage.named = true → h.request.uuid ≠ []
  present : ∀ h ∈ s.handlers, h.stage.pending = true → (s.peers.get h.request.id).isSome = true

/-- All that is stored, pending or in the history of the peer is of one uuid. -/
structure Agreed (id : String) (uuid : Bytes) (s : System) : Prop where
  pending : ∀ h ∈ s.handlers, h.request.id = id → h.stage.pending = true → h.request.uuid = uuid
  settled : ∀ h ∈ s.handlers, h.request.id = id → h.stage.settled = true → s.storedUuid id ≠ []
  stored : s.storedUuid id ≠ [] → s.storedUuid id = uuid
  history : ∀ b ∈ s.history, b.id = id → b.uuid = uuid ∧ s.storedUuid id ≠ []

section

variable {env : Env} {s t u : System} {i : Nat} {h : Handler} {input : Input} {stage : Stage}
  {id : String} {uuid : Bytes} {m : Move}

theorem Stage.pending_of_settled (hs : stage.settled = true) : stage.pending = true := by
  cases stage <;> first | rfl | cases hs

theorem Stage.named_of_pending (hp : stage.pending = true) : stage.named = true := by
  cases stage <;> first | rfl | cases hp

theorem mem_goto {h' : Handler} (hh : u.handlers = s.handlers)
    (hmem : h' ∈ (u.goto i h stage).handlers) : h' ∈ s.handlers ∨ h' = { h with stage } := by
  rw [← hh]
  exact List.mem_or_eq_of_mem_set hmem

/-! ### What keeps the stored uuid -/

theorem get_modifyPeer (s : System) (id id' : String) (f : Peer → Peer) :
    (s.modifyPeer id f).peers.get id' =
      if id' = id then (s.peers.get id).map f else s.peers.get id' := Table.get_modify ..

theorem isSome_modifyPeer (s : System) (id id' : String) (f : Peer → Peer) :
    ((s.modifyPeer id f).peers.get id').isSome = (s.peers.get id').isSome := by
  rw [get_modifyPeer]
  split
  · rename_i hid
    rw [hid]
    exact Option.isSome_map
  · rfl

theorem storedUuid_modifyPeer {f : Peer → Peer} (hf : ∀ peer, (f peer).uuid = peer.uuid)
    (id' : String) : (s.modifyPeer id f).storedUuid id' = s.storedUuid id' := by
  unfold System.storedUuid
  rw [get_modifyPeer]
  split
  · rename_i hid
    rw [hid]
    cases s.peers.get id with
    | none => rfl
    | some peer => exact hf peer
  · rfl

theorem get_getOr (env : Env) (s : System) (id id' : String) (now : Instant) :
    (s.getOr env id now).peers.get id' = s.peers.get id' ∨
      id = id' ∧ s.peers.get id' = none ∧
        (s.getOr env id now).peers.get id' = some (.default (env.expiredTime now)) := by
  unfold System.getOr
  split
  · exact .inl rfl
  · rename_i hnone
    dsimp only
    rw [Table.get_insert]
    split
    · rename_i hid
      subst hid
      exact .inr ⟨rfl, hnone, rfl⟩
    · exact .inl rfl

theorem storedUuid_getOr (s : System) (id id' : String) (now : Instant) :
    (s.getOr env id now).storedUuid id' = s.storedUuid id' := by
  unfold System.storedUuid
  rcases get_getOr env s id id' now with hsame | ⟨-, hnone, hsome⟩
  · rw [hsame]
  · rw [hnone, hsome]
    rfl

theorem expireWebsocketRoute_uuid (peer : Peer) (generation : Nat) (expired : Instant) :
    (peer.expireWebsocketRoute generation expired).uuid = peer.uuid := by
  unfold Peer.expireWebsocketRoute
  split <;> rfl

theorem deactivateNative_uuid (peer : Peer) (addr : SocketAddr) (generation : Nat)
    (expired : Instant) :
    ((peer.deactivateNative addr generation expired).getD peer).uuid = peer.uuid := by
  unfold Peer.deactivateNative
  split <;> rfl

/-! ### Steps -/

/-- What a step of a handler means for the identity of its peer. -/
inductive Identifies (s : System) (h : Handler) (stage : Stage) (u : System) : Prop
  | quiet (hstored : ∀ id, u.storedUuid id = s.storedUuid id) (hhistory : u.history = s.history)
      (hpending : stage.pending = true → h.stage.pending = true)
      (hsettled : stage.settled = true → h.stage.settled = true)
  | compared (fast : Bool) (hstage : h.stage = .found fast) (hu : u = s)
      (hsame : s.storedUuid h.request.id ≠ [] → s.storedUuid h.request.id = h.request.uuid)
      (hsettled : stage.settled = true → s.storedUuid h.request.id ≠ [])
  | wrote (b : Binding) (hb : b.id = h.request.id ∧ b.uuid = h.request.uuid)
      (hpending : h.stage.pending = true)
      (hstored : ∀ id, u.storedUuid id =
        if id = h.request.id ∧ (s.peers.get id).isSome = true then h.request.uuid
        else s.storedUuid id)
      (hhistory : u.history = s.history ++ [b])
  | returned (b : Binding) (hb : b.id = h.request.id ∧ b.uuid = h.request.uuid)
      (hpending : h.stage.pending = true) (hsettled : h.stage.settled = true)
      (hend : stage.pending = false) (hstored : ∀ id, u.storedUuid id = s.storedUuid id)
      (hhistory : u.history = s.history ++ [b])

theorem compare_uuid {peer : Peer} {rk : RegisterPk} {ip : String} {comparison : Comparison}
    (hcompare : peer.compare rk ip = some comparison) :
    (peer.uuid ≠ [] → peer.uuid = rk.uuid) ∧ (comparison.changed = false → peer.uuid ≠ []) := by
  unfold Peer.compare at hcompare
  split at hcompare
  · rename_i hempty
    cases hcompare
    rw [List.isEmpty_iff] at hempty
    exact ⟨fun hne => absurd hempty hne, nofun⟩
  · rename_i hempty
    rw [List.isEmpty_iff] at hempty
    split at hcompare
    · rename_i heq
      split at hcompare
      · cases hcompare
      · exact ⟨fun _ => beq_iff_eq.mp heq, fun _ => hempty⟩
    · cases hcompare

theorem Advance.handlers (ha : Advance env s h input stage u) : u.handlers = s.handlers := by
  cases ha with
  | found fast hstage =>
    unfold System.getOr
    split <;> rfl
  | called _ _ _ _ hlease | awaited _ _ _ _ _ hlease | tooFrequent _ _ _ _ _ _ hlease
  | unbound _ _ _ _ _ _ _ _ _ _ _ hlease | committed _ _ _ _ _ hlease | removed _ _ _ hlease =>
    obtain ⟨activation, -, rfl⟩ := lease_spec hlease
    rfl
  | _ => rfl

/-- A step of the registry is nothing to the identities. -/
theorem identifies_lease {l : Activation.Step} (hlease : s.lease env l = some u)
    (hpending : stage.pending = true → h.stage.pending = true)
    (hsettled : stage.settled = true → h.stage.settled = true) : Identifies s h stage u := by
  obtain ⟨activation, -, rfl⟩ := lease_spec hlease
  exact .quiet (fun _ => rfl) rfl hpending hsettled

theorem identifies_modifyPeer {id : String} {f : Peer → Peer}
    (hf : ∀ peer, (f peer).uuid = peer.uuid)
    (hpending : stage.pending = true → h.stage.pending = true)
    (hsettled : stage.settled = true → h.stage.settled = true) :
    Identifies s h stage (s.modifyPeer id f) :=
  .quiet (storedUuid_modifyPeer hf) rfl hpending hsettled

theorem Stage.early_named (he : stage.early = true) : stage.named = false := by
  cases stage <;> first | rfl | cases he

theorem Stage.early_pending (he : stage.early = true) : stage.pending = false := by
  cases stage <;> first | rfl | cases he

theorem Stage.early_settled (he : stage.early = true) : stage.settled = false := by
  cases stage <;> first | rfl | cases he

theorem Advance.identifies (ha : Advance env s h input stage u) : Identifies s h stage u := by
  cases ha with
  | preliminary stage hstage hnext =>
    refine .quiet (fun _ => rfl) rfl ?_ ?_
    · rw [Stage.early_pending hnext]
      exact nofun
    · rw [Stage.early_settled hnext]
      exact nofun
  | found fast hstage =>
    have hhistory : (s.getOr env h.request.id input.now).history = s.history := by
      unfold System.getOr
      split <;> rfl
    exact .quiet (fun _ => storedUuid_getOr ..) hhistory nofun nofun
  | compared fast peer comparison hstage hpeer hcompare =>
    obtain ⟨hsame, hchanged⟩ := compare_uuid hcompare
    have hstored : s.storedUuid h.request.id = peer.uuid := by
      unfold System.storedUuid
      rw [hpeer]
      rfl
    rw [← hstored] at hsame hchanged
    refine .compared fast hstage rfl hsame fun hsettled => hchanged ?_
    simpa only [Stage.settled, Bool.not_eq_true'] using hsettled
  | called fast comparison t hstage hlease =>
    exact identifies_lease hlease (by simp [hstage, Stage.pending]) (by simp [hstage, Stage.settled])
  | awaited task l t hstage hl hlease => exact identifies_lease hlease id id
  | tooFrequent fast comparison task claim t hstage hlease =>
    exact identifies_lease hlease nofun nofun
  | unbound _ _ _ _ _ _ _ t hstage _ _ hlease => exact identifies_lease hlease nofun nofun
  | committed task claim token t hstage hlease => exact identifies_lease hlease nofun nofun
  | removed token t hstage hlease =>
    obtain ⟨activation, -, rfl⟩ := lease_spec hlease
    exact .quiet (fun _ => rfl) rfl nofun nofun
  | claimed fast comparison task m claim hstage htask =>
    exact .quiet (fun _ => rfl) rfl (by simp [hstage, Stage.pending]) (by simp [hstage, Stage.settled])
  | limited fast comparison task claim regPk hstage =>
    exact .quiet (fun _ => rfl) rfl (by simp [hstage, Stage.pending]) (by simp [hstage, Stage.settled])
  | counted comparison task claim regPk hstage =>
    exact identifies_modifyPeer (fun _ => rfl) (by simp [hstage, Stage.pending])
      (by simp [hstage, Stage.settled])
  | wrote comparison task claim hstage =>
    refine .wrote _ ⟨rfl, rfl⟩ (by rw [hstage]; rfl) (fun id => ?_) rfl
    unfold System.storedUuid System.record
    rw [get_modifyPeer]
    by_cases hid : id = h.request.id
    · subst hid
      rw [if_pos rfl]
      cases s.peers.get h.request.id <;> simp [Peer.updatePk]
    · simp [hid]
  | refreshed comparison task claim hstage hsame =>
    refine .returned _ ⟨rfl, rfl⟩ (by rw [hstage]; rfl) ?_ rfl ?_ rfl
    · simp [hstage, Stage.settled, hsame]
    · exact storedUuid_modifyPeer fun _ => rfl
  | returned task claim hstage =>
    exact .returned _ ⟨rfl, rfl⟩ (by rw [hstage]; rfl) (by rw [hstage]; rfl) rfl (fun _ => rfl) rfl
  | routedNative | routedWebsocket | touched => exact identifies_modifyPeer (fun _ => rfl) nofun nofun
  | expired token hstage =>
    exact identifies_modifyPeer (fun _ => expireWebsocketRoute_uuid ..) nofun nofun
  | _ => exact .quiet (fun _ => rfl) rfl nofun nofun

theorem Advance.begun (ha : Advance env s h input stage u) :
    (stage.named = true → h.stage.named = true ∨ h.request.uuid ≠ []) ∧
    (stage.pending = true →
      h.stage.pending = true ∨ (s.peers.get h.request.id).isSome = true) ∧
    ∀ id, (s.peers.get id).isSome = true → (u.peers.get id).isSome = true := by
  cases ha with
  | preliminary stage hstage hnext =>
    refine ⟨fun hn => ?_, fun hp => ?_, fun _ hsome => hsome⟩
    · rw [Stage.early_named hnext] at hn
      cases hn
    · rw [Stage.early_pending hnext] at hp
      cases hp
  | verified hstage huuid => exact ⟨fun _ => .inr huuid, nofun, fun _ hsome => hsome⟩
  | found fast hstage =>
    refine ⟨fun _ => .inl (by rw [hstage]; rfl), nofun, fun id hsome => ?_⟩
    rcases get_getOr env s h.request.id id input.now with hsame | ⟨-, -, hnew⟩
    · rw [hsame]
      exact hsome
    · rw [hnew]
      rfl
  | compared fast peer comparison hstage hpeer hcompare =>
    exact ⟨fun _ => .inl (by rw [hstage]; rfl), fun _ => .inr (by rw [hpeer]; rfl),
      fun _ hsome => hsome⟩
  | called fast comparison t hstage hlease =>
    obtain ⟨activation, -, rfl⟩ := lease_spec hlease
    exact ⟨fun _ => .inl (by rw [hstage]; rfl), fun _ => .inl (by rw [hstage]; rfl),
      fun _ hsome => hsome⟩
  | awaited task l t hstage hl hlease =>
    obtain ⟨activation, -, rfl⟩ := lease_spec hlease
    exact ⟨.inl, .inl, fun _ hsome => hsome⟩
  | tooFrequent _ _ _ _ _ _ hlease | unbound _ _ _ _ _ _ _ _ _ _ _ hlease
  | committed _ _ _ _ _ hlease | removed _ _ _ hlease =>
    obtain ⟨activation, -, rfl⟩ := lease_spec hlease
    exact ⟨nofun, nofun, fun _ hsome => hsome⟩
  | claimed _ _ _ _ _ hstage htask | limited _ _ _ _ _ hstage | returned _ _ hstage =>
    exact ⟨fun _ => .inl (by rw [hstage]; rfl), fun _ => .inl (by rw [hstage]; rfl),
      fun _ hsome => hsome⟩
  | counted _ _ _ _ hstage | wrote _ _ _ hstage =>
    exact ⟨fun _ => .inl (by rw [hstage]; rfl), fun _ => .inl (by rw [hstage]; rfl),
      fun id hsome => (isSome_modifyPeer ..).trans hsome⟩
  | refreshed | routedNative | routedWebsocket | expired | touched =>
    exact ⟨nofun, nofun, fun id hsome => (isSome_modifyPeer ..).trans hsome⟩
  | _ => exact ⟨nofun, nofun, fun _ hsome => hsome⟩

theorem Begun.advance (hb : Begun s) (hmem : h ∈ s.handlers)
    (ha : Advance env s h input stage u) : Begun (u.goto i h stage) := by
  obtain ⟨hnamed, hpending, hsome⟩ := ha.begun
  refine ⟨fun h' hmem' hn => ?_, fun h' hmem' hp => ?_⟩
  · rcases mem_goto ha.handlers hmem' with hold | rfl
    · exact hb.named h' hold hn
    · exact (hnamed hn).elim (hb.named h hmem) id
  · apply hsome
    rcases mem_goto ha.handlers hmem' with hold | rfl
    · exact hb.present h' hold hp
    · exact (hpending hp).elim (hb.present h hmem) id

/-- What leaves the handlers and the peers' uuids keeps both invariants. -/
theorem Begun.frame (hb : Begun s) (hh : u.handlers = s.handlers)
    (hsome : ∀ id, (u.peers.get id).isSome = (s.peers.get id).isSome) : Begun u := by
  refine ⟨fun h hmem hn => ?_, fun h hmem hp => ?_⟩
  · rw [hh] at hmem
    exact hb.named h hmem hn
  · rw [hh] at hmem
    rw [hsome]
    exact hb.present h hmem hp

theorem Agreed.frame (hA : Agreed id uuid s) (hh : u.handlers = s.handlers)
    (hstored : ∀ id, u.storedUuid id = s.storedUuid id) (hhistory : u.history = s.history) :
    Agreed id uuid u := by
  refine ⟨fun h hmem => ?_, fun h hmem => ?_, ?_, fun b hmem => ?_⟩
  · rw [hh] at hmem
    exact hA.pending h hmem
  · rw [hh] at hmem
    rw [hstored]
    exact hA.settled h hmem
  · rw [hstored]
    exact hA.stored
  · rw [hhistory] at hmem
    rw [hstored]
    exact hA.history b hmem

/-- A handler goes on without binding anything. -/
theorem Agreed.quiet (hA : Agreed id uuid s) (hmem : h ∈ s.handlers)
    (hh : u.handlers = s.handlers) (hstored : ∀ id, u.storedUuid id = s.storedUuid id)
    (hhistory : u.history = s.history)
    (hpending : stage.pending = true → h.stage.pending = true)
    (hsettled : stage.settled = true → h.stage.settled = true) :
    Agreed id uuid (u.goto i h stage) := by
  have hu : (u.goto i h stage).storedUuid id = s.storedUuid id := hstored id
  refine ⟨fun h' hmem' hid hp => ?_, fun h' hmem' hid hs => ?_, ?_, fun b hb => ?_⟩
  · rcases mem_goto hh hmem' with hold | rfl
    · exact hA.pending h' hold hid hp
    · exact hA.pending h hmem hid (hpending hp)
  · rw [hu]
    rcases mem_goto hh hmem' with hold | rfl
    · exact hA.settled h' hold hid hs
    · exact hA.settled h hmem hid (hsettled hs)
  · rw [hu]
    exact hA.stored
  · rw [hu]
    exact hA.history b (hhistory ▸ hb)

/-- The pending registrations of another peer do not matter. -/
theorem Agreed.compared (hA : Agreed id uuid s) (hh : u.handlers = s.handlers)
    (hid : h.request.id = id → h.request.uuid = uuid)
    (hsettled : stage.settled = true → s.storedUuid h.request.id ≠ [])
    (hu : u = s) : Agreed id uuid (u.goto i h stage) := by
  subst hu
  refine ⟨fun h' hmem' hid' hp => ?_, fun h' hmem' hid' hs => ?_, hA.stored, hA.history⟩
  · rcases mem_goto hh hmem' with hold | rfl
    · exact hA.pending h' hold hid' hp
    · exact hid hid'
  · rcases mem_goto hh hmem' with hold | rfl
    · exact hA.settled h' hold hid' hs
    · rw [← hid']
      exact hsettled hs

/-- While nothing is stored, the uuid of the first comparison is the one agreed on. -/
theorem Agreed.first (hA : Agreed id uuid s) (hempty : s.storedUuid id = [])
    (halone : ∀ h' ∈ s.handlers, h'.request.id = id → h'.stage.pending = true →
      h'.request.uuid = h.request.uuid) : Agreed id h.request.uuid s :=
  ⟨halone, hA.settled, fun hne => absurd hempty hne,
    fun b hb hid => absurd hempty (hA.history b hb hid).2⟩

theorem Agreed.bound (hA : Agreed id uuid s) (hb : Begun s) (hmem : h ∈ s.handlers)
    (hh : u.handlers = s.handlers) (hpending : h.stage.pending = true) {b : Binding}
    (hbinds : b.id = h.request.id ∧ b.uuid = h.request.uuid)
    (hstored : u.storedUuid id =
      if id = h.request.id then h.request.uuid else s.storedUuid id)
    (hhistory : u.history = s.history ++ [b]) : Agreed id uuid (u.goto i h stage) := by
  by_cases hid : id = h.request.id
  · subst hid
    have huuid : h.request.uuid = uuid := hA.pending h hmem rfl hpending
    have hne : h.request.uuid ≠ [] := hb.named h hmem (Stage.named_of_pending hpending)
    have hu : (u.goto i h stage).storedUuid h.request.id = h.request.uuid :=
      hstored.trans (if_pos rfl)
    refine ⟨fun h' hmem' hid' hp => ?_, fun h' hmem' hid' hs => ?_, fun _ => hu.trans huuid,
      fun b' hb' hid' => ⟨?_, by rw [hu]; exact hne⟩⟩
    · rcases mem_goto hh hmem' with hold | rfl
      · exact hA.pending h' hold hid' hp
      · exact huuid
    · rw [hu]
      exact hne
    · rcases List.mem_append.mp ((congrArg (b' ∈ ·) hhistory).mp hb') with hold | hnew
      · exact (hA.history b' hold hid').1
      · rw [List.mem_singleton.mp hnew, hbinds.2, huuid]
  · have hu : (u.goto i h stage).storedUuid id = s.storedUuid id := hstored.trans (if_neg hid)
    refine ⟨fun h' hmem' hid' hp => ?_, fun h' hmem' hid' hs => ?_, ?_, fun b' hb' hid' => ?_⟩
    · rcases mem_goto hh hmem' with hold | rfl
      · exact hA.pending h' hold hid' hp
      · exact absurd hid'.symm hid
    · rw [hu]
      rcases mem_goto hh hmem' with hold | rfl
      · exact hA.settled h' hold hid' hs
      · exact absurd hid'.symm hid
    · rw [hu]
      exact hA.stored
    · rw [hu]
      rcases List.mem_append.mp ((congrArg (b' ∈ ·) hhistory).mp hb') with hold | hnew
      · exact hA.history b' hold hid'
      · rw [List.mem_singleton.mp hnew, hbinds.1] at hid'
        exact absurd hid'.symm hid

theorem alone_spec {fast : Bool} (hg : alone s (.advance i input) = true)
    (hi : s.handlers[i]? = some h) (hstage : h.stage = .found fast)
    (hempty : s.storedUuid h.request.id = []) :
    ∀ h' ∈ s.handlers, h'.request.id = h.request.id → h'.stage.pending = true →
      h'.request.uuid = h.request.uuid := by
  obtain ⟨request, via, stage⟩ := h
  subst hstage
  intro h' hmem hid hp
  simp only [alone, hi, hempty, List.isEmpty_nil, Bool.not_true, Bool.false_or,
    List.all_eq_true, Bool.or_eq_true, Bool.not_eq_true', Bool.and_eq_false_iff, beq_iff_eq] at hg
  rcases hg h' hmem with (hne | hn) | heq
  · rw [beq_eq_false_iff_ne] at hne
    exact absurd hid hne
  · rw [hp] at hn
    cases hn
  · exact heq

/-- A step of a handler keeps the agreement, perhaps on a uuid that it brings. -/
theorem Agreed.advance (hA : ∃ uuid, Agreed id uuid s) (hb : Begun s)
    (hg : alone s (.advance i input) = true) (hi : s.handlers[i]? = some h)
    (ha : Advance env s h input stage u) : ∃ uuid, Agreed id uuid (u.goto i h stage) := by
  obtain ⟨uuid, hA⟩ := hA
  have hmem : h ∈ s.handlers := List.mem_of_getElem? hi
  have hh := ha.handlers
  cases ha.identifies with
  | quiet hstored hhistory hpending hsettled =>
    exact ⟨uuid, hA.quiet hmem hh hstored hhistory hpending hsettled⟩
  | compared fast hstage hu hsame hsettled =>
    by_cases hid : h.request.id = id
    · subst hid
      by_cases hempty : s.storedUuid h.request.id = []
      · exact ⟨h.request.uuid, (hA.first hempty (alone_spec hg hi hstage hempty)).compared hh
          (fun _ => rfl) hsettled hu⟩
      · refine ⟨uuid, hA.compared hh (fun _ => ?_) hsettled hu⟩
        rw [← hsame hempty]
        exact hA.stored hempty
    · exact ⟨uuid, hA.compared hh (fun hid' => absurd hid' hid) hsettled hu⟩
  | wrote b hbinds hpending hstored hhistory =>
    refine ⟨uuid, hA.bound hb hmem hh hpending hbinds ?_ hhistory⟩
    rw [hstored]
    by_cases hid : id = h.request.id
    · subst hid
      simp [hb.present h hmem hpending]
    · simp [hid]
  | returned b hbinds hpending hsettled hend hstored hhistory =>
    refine ⟨uuid, hA.bound hb hmem hh hpending hbinds ?_ hhistory⟩
    rw [hstored]
    split
    · rename_i hid
      subst hid
      rw [hA.stored (hA.settled h hmem rfl hsettled), hA.pending h hmem rfl hpending]
    · rfl

/-- The steps outside the handlers leave them and the identities. -/
theorem outside_spec (hm : m.outside = true) (hw : s.step env m = some t) :
    t.handlers = s.handlers ∧ t.history = s.history ∧
      (∀ id, t.storedUuid id = s.storedUuid id) ∧
      ∀ id, (t.peers.get id).isSome = (s.peers.get id).isSome := by
  cases m with
  | arrive | advance => cases hm
  | updateAddr | touch =>
    cases hw
    exact ⟨rfl, rfl, storedUuid_modifyPeer fun _ => rfl, fun _ => isSome_modifyPeer ..⟩
  | expireWebsocketRoute id generation now =>
    cases hw
    exact ⟨rfl, rfl, storedUuid_modifyPeer fun _ => expireWebsocketRoute_uuid ..,
      fun _ => isSome_modifyPeer ..⟩
  | deactivateNative id addr generation now =>
    cases hw
    exact ⟨rfl, rfl, storedUuid_modifyPeer fun _ => deactivateNative_uuid ..,
      fun _ => isSome_modifyPeer ..⟩
  | removeSession | drain =>
    cases hw
    exact ⟨rfl, rfl, fun _ => rfl, fun _ => rfl⟩
  | lease l =>
    simp only [System.step] at hw
    split at hw
    · obtain ⟨activation, -, rfl⟩ := lease_spec hw
      exact ⟨rfl, rfl, fun _ => rfl, fun _ => rfl⟩
    · cases hw

/-- A handler that has just arrived is nothing to the invariants. -/
theorem Agreed.arrive (hA : Agreed id uuid s) (request : RegisterPk) (via : Transport) :
    Agreed id uuid { s with handlers := s.handlers ++ [⟨request, via, .arrived⟩] } := by
  refine ⟨fun h hmem hid hp => ?_, fun h hmem hid hs => ?_, hA.stored, hA.history⟩
  · rcases List.mem_append.mp hmem with hold | hnew
    · exact hA.pending h hold hid hp
    · rw [List.mem_singleton.mp hnew] at hp
      cases hp
  · rcases List.mem_append.mp hmem with hold | hnew
    · exact hA.settled h hold hid hs
    · rw [List.mem_singleton.mp hnew] at hs
      cases hs

theorem Begun.arrive (hb : Begun s) (request : RegisterPk) (via : Transport) :
    Begun { s with handlers := s.handlers ++ [⟨request, via, .arrived⟩] } := by
  refine ⟨fun h hmem hn => ?_, fun h hmem hp => ?_⟩
  · rcases List.mem_append.mp hmem with hold | hnew
    · exact hb.named h hold hn
    · rw [List.mem_singleton.mp hnew] at hn
      cases hn
  · rcases List.mem_append.mp hmem with hold | hnew
    · exact hb.present h hold hp
    · rw [List.mem_singleton.mp hnew] at hp
      cases hp

/-- What every run keeps in which a registration that finds no uuid compares alone. -/
def OneIdentity (s : System) : Prop := Begun s ∧ ∀ id, ∃ uuid, Agreed id uuid s

theorem OneIdentity.step (hI : OneIdentity s) (hg : alone s m = true)
    (hw : s.step env m = some t) : OneIdentity t := by
  obtain ⟨hb, hA⟩ := hI
  cases m with
  | arrive request via =>
    cases hw
    exact ⟨hb.arrive request via, fun id => (hA id).imp fun _ h => h.arrive request via⟩
  | advance i input =>
    obtain ⟨h, hi, hadvance⟩ := Option.bind_eq_some_iff.mp hw
    obtain ⟨stage, u, ha, rfl⟩ := advance_spec hadvance
    exact ⟨hb.advance (List.mem_of_getElem? hi) ha, fun id => Agreed.advance (hA id) hb hg hi ha⟩
  | updateAddr | touch | expireWebsocketRoute | deactivateNative | removeSession | drain | lease =>
    obtain ⟨hh, hhistory, hstored, hsome⟩ := outside_spec rfl hw
    exact ⟨hb.frame hh hsome, fun id => (hA id).imp fun _ h => h.frame hh hstored hhistory⟩

theorem OneIdentity.init (peers : Table String Peer) : OneIdentity (.init peers) := by
  have hhandlers : (System.init peers).handlers = [] := rfl
  have hhistory : (System.init peers).history = [] := rfl
  refine ⟨⟨?_, ?_⟩, fun id => ⟨(System.init peers).storedUuid id, ?_, ?_, fun _ => rfl, ?_⟩⟩
  · simp [hhandlers]
  · simp [hhandlers]
  · simp [hhandlers]
  · simp [hhandlers]
  · simp [hhistory]

end

def sampleEnv : Env := ⟨id, fun _ => "192.0.2.1", id, 10, 2⟩

def sampleInput : Input := ⟨true, 0, Activation.sampleLease 7⟩

def legacyRequest (b : UInt8) : RegisterPk := ⟨"peer-1", List.replicate 16 b, [b], 0, []⟩

def advances (i n : Nat) : List Move := List.replicate n (.advance i sampleInput)

end Starry.Rendezvous
