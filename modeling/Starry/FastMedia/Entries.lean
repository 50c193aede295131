import Starry.FastMedia.Engine

/-!
# FastMedia relay: what one input does to an entry

`step_entry` says it for the entry of every allocation id: it stays, is removed as expired, is
created or changed by a Bind with a valid grant, or takes a Media packet. Every invariant is proved
from it.
-/

open Library

namespace Starry.FastMedia

variable {F : Type}

/-! ## Bindings -/

section

variable (a : Allocation F) (role role' : Role) (b : Option (Binding F)) (now : Instant)

@[simp] theorem binding_setBinding :
    (a.setBinding role b).binding role' = if role' = role then b else a.binding role' := by
  cases role <;> cases role' <;> rfl

@[simp] theorem sessionId_setBinding : (a.setBinding role b).sessionId = a.sessionId := by
  cases role <;> rfl

@[simp] theorem invariant_setBinding : (a.setBinding role b).invariant = a.invariant := by
  cases role <;> rfl

@[simp] theorem created_setBinding : (a.setBinding role b).created = a.created := by
  cases role <;> rfl

@[simp] theorem lastActivity_setBinding :
    (a.setBinding role b).lastActivity = a.lastActivity := by
  cases role <;> rfl

@[simp] theorem binding_touch : (a.touch now).binding role = a.binding role := by
  cases role <;> rfl

@[simp] theorem sessionId_touch : (a.touch now).sessionId = a.sessionId := rfl

@[simp] theorem invariant_touch : (a.touch now).invariant = a.invariant := rfl

@[simp] theorem created_touch : (a.touch now).created = a.created := rfl

theorem touch_setBinding :
    (a.setBinding role b).touch a.lastActivity = a.setBinding role b := by
  cases role <;> rfl

/-- A rebind is counted in the window of its role, and nowhere else. -/
theorem allowRebind_eq : ∃ controller target, (a.allowRebind role now).1 =
    { a with controllerRebind := controller, targetRebind := target } := by
  cases role <;> exact ⟨_, _, rfl⟩

@[simp] theorem binding_allowRebind :
    (a.allowRebind role now).1.binding role' = a.binding role' := by
  cases role <;> cases role' <;> rfl

end

variable [F64 F]

/-- What a Bind of `role` from `source` leaves of the allocation `a`. -/
structure BoundAs (a : Allocation F) (source : SocketAddr) (role : Role) (a' : Allocation F) :
    Prop where
  sessionId : a'.sessionId = a.sessionId
  invariant : a'.invariant = a.invariant
  created : a'.created = a.created
  other : ∀ r, r ≠ role → a'.binding r = a.binding r
  kept : ∀ b, a.binding role = some b → ∃ b', a'.binding role = some b' ∧ b'.replay = b.replay ∧
    (b'.source = b.source ∨ b'.source = source)
  installed : a.binding role = none → ∃ b', a'.binding role = some b' ∧ b'.replay = .default ∧
    b'.source = source

theorem bindRole_spec (a : Allocation F) (source : SocketAddr) (role : Role) (kbps : Nat)
    (now : Instant) : BoundAs a source role (Engine.bindRole a source role kbps now).1 := by
  unfold Engine.bindRole
  cases hb : a.binding role with
  | none =>
    refine ⟨by simp, by simp, by simp, fun r hr => by simp [hr], by simp [hb], fun _ => ?_⟩
    exact ⟨_, by simp; rfl, rfl, rfl⟩
  | some b =>
    dsimp only
    split
    · refine ⟨rfl, rfl, rfl, by simp, fun b' hb' => ?_, by simp [hb]⟩
      exact ⟨b', by simp [hb'], rfl, .inl rfl⟩
    · obtain ⟨c, t, hr⟩ := allowRebind_eq a role now
      split
      · refine ⟨by simp [hr], by simp [hr], by simp [hr], by simp, fun b' hb' => ?_, by simp [hb]⟩
        exact ⟨b', by simp [hb'], rfl, .inl rfl⟩
      · refine ⟨by simp [hr], by simp [hr], by simp [hr], fun r hne => by simp [hne], ?_,
          by simp [hb]⟩
        intro b' hb'
        rw [hb] at hb'
        cases hb'
        refine ⟨{ b with source := source }, ?_, rfl, .inr rfl⟩
        rw [binding_touch, binding_setBinding, if_pos rfl]

/-! ## One input -/

/-- `i` is a Bind packet from `source` that is admitted and passes the checks up to its grant. -/
def BindOf (crypto : Crypto) (e : Engine F) (i : Input) (source : SocketAddr) (header : Header)
    (grant : FastRelayAuthorization) (inv : GrantInvariant) : Prop :=
  ∃ packet, i = .packet source packet i.now i.unix ∧ Header.parse packet = some header ∧
    header.kind = .bind ∧ (e.allowSource source.ip packet.length i.now).2 = true ∧
    e.bindGrant crypto source packet header i.unix = some (grant, inv)

/-- The entry that a Bind works on. -/
def entryOr (x : Option (Allocation F)) (header : Header) (inv : GrantInvariant) (now : Instant) :
    Allocation F :=
  x.getD (.new header.sessionId inv now)

inductive EntryStep (crypto : Crypto) (e : Engine F) (i : Input) (id : Bytes) :
    Option (Allocation F) → Option (Allocation F) → Prop
  | same (x : Option (Allocation F)) : EntryStep crypto e i id x x
  | removed (a : Allocation F)
      (hexp : a.expired i.now i.unix e.config.halfBindTtl e.config.idleTtl = true) :
      EntryStep crypto e i id (some a) none
  | bound (x : Option (Allocation F)) (source : SocketAddr) (header : Header)
      (grant : FastRelayAuthorization) (inv : GrantInvariant)
      (hbind : BindOf crypto e i source header grant inv) (hid : header.allocationId = id)
      (hsession : (entryOr x header inv i.now).sessionId = header.sessionId)
      (hinv : (entryOr x header inv i.now).invariant = inv) :
      EntryStep crypto e i id x (some (Engine.bindRole (entryOr x header inv i.now) source
        header.role grant.maxBitrateKbps i.now).1)
  | media (a : Allocation F) (role : Role) (sequence : Nat) (b : Binding F) (limiter : RoleLimit F)
      (active : Instant) (hb : a.binding role = some b)
      (hexp : a.expired i.now i.unix e.config.halfBindTtl e.config.idleTtl = false)
      (haccept : (b.replay.accept sequence).2 = true)
      (hactive : active = a.lastActivity ∨ active = i.now) :
      EntryStep crypto e i id (some a)
        (some ((a.setBinding role
          (some ⟨b.source, (b.replay.accept sequence).1, limiter⟩)).touch active))

/-- Admission touches only the limits. -/
theorem allowSource_eq (e : Engine F) (ip : IpAddr) (bytes : Nat) (now : Instant) :
    ∃ perIp global, (e.allowSource ip bytes now).1 =
      { e with perIp := perIp, global := global } := by
  unfold Engine.allowSource
  dsimp only
  split
  · exact ⟨_, _, rfl⟩
  · split <;> exact ⟨_, _, rfl⟩

section

variable {crypto : Crypto} {e : Engine F} {source : SocketAddr} {packet : Bytes} {header : Header}
  {now : Instant} {unix : Nat} {id : Bytes}

omit [F64 F] in
/-- The checks of a Bind read only the configuration and the cookie key. -/
theorem bindGrant_congr {e₀ : Engine F} (hc : e.config = e₀.config)
    (hk : e.cookieKey = e₀.cookieKey) :
    e.bindGrant crypto source packet header unix = e₀.bindGrant crypto source packet header unix := by
  simp only [Engine.bindGrant, Engine.cookie, hc, hk]
  rfl

/-- A Bind, handled by what the admission to `e₀` has left. -/
theorem handleBind_entry {e₀ : Engine F} (hc : e.config = e₀.config)
    (hk : e.cookieKey = e₀.cookieKey) (hparse : Header.parse packet = some header)
    (hkind : header.kind = .bind)
    (hadmitted : (e₀.allowSource source.ip packet.length now).2 = true) :
    EntryStep crypto e₀ (.packet source packet now unix) id (e.allocations.get id)
      ((e.handleBind crypto source packet header now unix).1.allocations.get id) := by
  unfold Engine.handleBind
  split
  · exact .same _
  · rename_i grant inv hgrant
    dsimp only
    split
    · exact .same _
    · by_cases hid : id = header.allocationId
      · subst hid
        rw [bindGrant_congr hc hk] at hgrant
        have hbind : BindOf crypto e₀ (.packet source packet now unix) source header grant inv :=
          ⟨packet, rfl, hparse, hkind, hadmitted, hgrant⟩
        split
        · -- Only an entry that was there can belong to another session.
          rename_i hne
          cases hx : e.allocations.get header.allocationId with
          | none => simp [hx, Allocation.new] at hne
          | some a => simpa [hx] using EntryStep.same (some a)
        · rename_i hsession
          split
          · rename_i hne
            cases hx : e.allocations.get header.allocationId with
            | none => simp [hx, Allocation.new] at hne
            | some a => simpa [hx] using EntryStep.same (some a)
          · rename_i hinv
            have hb := EntryStep.bound (e.allocations.get header.allocationId) source header grant inv
              hbind rfl (not_not.mp hsession) (not_not.mp hinv)
            split <;> simpa [entryOr, Input.now] using hb
      · split
        · simpa [hid] using EntryStep.same _
        · split
          · simpa [hid] using EntryStep.same _
          · split <;> simpa [hid] using EntryStep.same _

theorem handleMedia_entry {e₀ : Engine F} (hc : e.config = e₀.config) :
    EntryStep crypto e₀ (.packet source packet now unix) id (e.allocations.get id)
      ((e.handleMedia source packet header now unix).1.allocations.get id) := by
  unfold Engine.handleMedia
  split
  · exact .same _
  · rename_i a ha
    split
    · exact .same _
    · split
      · exact .same _
      · rename_i hlive
        split
        · exact .same _
        · dsimp only
          split
          · exact .same _
          · rename_i sequence hseq
            split
            · rename_i b other hb hother
              split
              · exact .same _
              · split
                · exact .same _
                · rename_i haccept
                  simp only [Bool.not_eq_true', Bool.not_eq_false] at haccept
                  simp only [hc, Bool.or_eq_true, not_or, Bool.not_eq_true] at hlive
                  by_cases hid : id = header.allocationId
                  · subst hid
                    rw [ha]
                    split
                    · -- The limiter refuses the packet, but its number has been taken.
                      simp only [Table.get_insert, if_true]
                      rw [← touch_setBinding a header.role]
                      exact .media a header.role sequence b _ _ hb hlive.1 haccept (.inl rfl)
                    · simp only [Table.get_insert, if_true]
                      exact .media a header.role sequence b _ now hb hlive.1 haccept (.inr rfl)
                  · split <;> simpa [hid] using EntryStep.same _
            · exact .same _

omit [F64 F] in
/-- The turns of the cleanup only remove entries that have expired. -/
theorem cleanupOne_iterate (now : Instant) (unix n : Nat) (e : Engine F) (id : Bytes) :
    ((Engine.cleanupOne now unix)^[n] e).config = e.config ∧
    ((Engine.cleanupOne now unix)^[n] e).cookieKey = e.cookieKey ∧
    (((Engine.cleanupOne now unix)^[n] e).allocations.get id = e.allocations.get id ∨
      ∃ a, e.allocations.get id = some a ∧
        a.expired now unix e.config.halfBindTtl e.config.idleTtl = true ∧
        ((Engine.cleanupOne now unix)^[n] e).allocations.get id = none) := by
  induction n generalizing e with
  | zero => exact ⟨rfl, rfl, .inl rfl⟩
  | succ n ih =>
    rw [Function.iterate_succ_apply]
    have hone : (Engine.cleanupOne now unix e).config = e.config ∧
        (Engine.cleanupOne now unix e).cookieKey = e.cookieKey ∧
        ((Engine.cleanupOne now unix e).allocations.get id = e.allocations.get id ∨
          (∃ a, e.allocations.get id = some a ∧
            a.expired now unix e.config.halfBindTtl e.config.idleTtl = true) ∧
          (Engine.cleanupOne now unix e).allocations.get id = none) := by
      unfold Engine.cleanupOne
      split
      · exact ⟨rfl, rfl, .inl rfl⟩
      · rename_i id' order horder
        dsimp only
        split
        · rename_i hexp
          refine ⟨rfl, rfl, ?_⟩
          by_cases hid : id = id'
          · subst hid
            cases ha : e.allocations.get id with
            | none => exact .inl (by simp)
            | some a =>
              rw [ha] at hexp
              exact .inr ⟨⟨a, rfl, hexp⟩, by simp⟩
          · exact .inl (by simp [hid])
        · exact ⟨rfl, rfl, .inl rfl⟩
    obtain ⟨hc, hk, hget⟩ := hone
    obtain ⟨hc', hk', hget'⟩ := ih (Engine.cleanupOne now unix e)
    refine ⟨hc'.trans hc, hk'.trans hk, ?_⟩
    rcases hget with hget | ⟨⟨a, ha, hexp⟩, hnone⟩
    · rw [hget, hc] at hget'
      exact hget'
    · rcases hget' with hget' | ⟨b, hb, -⟩
      · exact .inr ⟨a, ha, hexp, hget'.trans hnone⟩
      · rw [hnone] at hb
        cases hb

/-- What one input does to the entry of one id. -/
theorem step_entry (crypto : Crypto) (e : Engine F) (i : Input) (id : Bytes) :
    EntryStep crypto e i id (e.allocations.get id) ((e.step crypto i).1.allocations.get id) := by
  cases i with
  | cleanup now unix =>
    obtain ⟨-, -, hget⟩ := cleanupOne_iterate now unix cleanupPerTick e id
    simp only [Engine.step, Engine.cleanup]
    rcases hget with hget | ⟨a, ha, hexp, hnone⟩
    · rw [hget]
      exact .same _
    · rw [hnone, ha]
      exact .removed a hexp
  | packet source packet now unix =>
    simp only [Engine.step, Engine.handle]
    split
    · exact .same _
    · rename_i header hparse
      obtain ⟨perIp, global, he⟩ := allowSource_eq e source.ip packet.length now
      generalize hadm : e.allowSource source.ip packet.length now = admitted at he
      have hc : admitted.1.config = e.config := by rw [he]
      have hk : admitted.1.cookieKey = e.cookieKey := by rw [he]
      have ha : e.allocations = admitted.1.allocations := by rw [he]
      rw [ha]
      split
      · exact .same _
      · rename_i hadmitted
        simp only [Bool.not_eq_true', Bool.not_eq_false] at hadmitted
        split
        · exact .same _
        · rename_i hkind
          exact handleBind_entry hc hk hparse hkind (by rw [hadm]; exact hadmitted)
        · exact handleMedia_entry hc

/-- The configuration and the cookie key stay. -/
theorem handleBind_config (crypto : Crypto) (e : Engine F) (source : SocketAddr) (packet : Bytes)
    (header : Header) (now : Instant) (unix : Nat) :
    (e.handleBind crypto source packet header now unix).1.config = e.config ∧
      (e.handleBind crypto source packet header now unix).1.cookieKey = e.cookieKey := by
  unfold Engine.handleBind
  dsimp only
  split
  · exact ⟨rfl, rfl⟩
  · split
    · exact ⟨rfl, rfl⟩
    · split
      · exact ⟨rfl, rfl⟩
      · split
        · exact ⟨rfl, rfl⟩
        · split <;> exact ⟨rfl, rfl⟩

theorem step_config (crypto : Crypto) (e : Engine F) (i : Input) :
    (e.step crypto i).1.config = e.config ∧ (e.step crypto i).1.cookieKey = e.cookieKey := by
  cases i with
  | cleanup now unix =>
    obtain ⟨hc, hk, -⟩ := cleanupOne_iterate now unix cleanupPerTick e []
    exact ⟨hc, hk⟩
  | packet source packet now unix =>
    simp only [Engine.step, Engine.handle]
    split
    · exact ⟨rfl, rfl⟩
    · rename_i header hparse
      obtain ⟨perIp, global, he⟩ := allowSource_eq e source.ip packet.length now
      rw [he]
      split
      · exact ⟨rfl, rfl⟩
      · split
        · exact ⟨rfl, rfl⟩
        · exact handleBind_config crypto _ source packet header now unix
        · unfold Engine.handleMedia
          dsimp only
          repeat' split
          all_goals exact ⟨rfl, rfl⟩

/-! ## What is forwarded -/

/-- `handle_media` answers the Media packet `packet` with `out`. -/
structure Forwards (crypto : Crypto) (e : Engine F) (i : Input) (source : SocketAddr)
    (packet : Bytes) (header : Header) (out : Outgoing) : Prop where
  input : i = .packet source packet i.now i.unix
  parsed : Header.parse packet = some header
  media : header.kind = .media
  sent : out ∈ (e.step crypto i).2

/-- A packet is forwarded from the binding of its role to the other binding of a live entry, and
its sequence number is taken. -/
structure Relayed (e e' : Engine F) (source : SocketAddr) (packet : Bytes) (header : Header)
    (now : Instant) (unix : Nat) (out : Outgoing) (a : Allocation F) (b other : Binding F)
    (sequence : Nat) : Prop where
  entry : e.allocations.get header.allocationId = some a
  sender : a.binding header.role = some b
  receiver : a.binding header.role.opposite = some other
  source : b.source = source
  target : out.target = other.source
  bytes : out.bytes = packet.drop akrHeaderBytes
  inner : validateAkf1 out.bytes header.role header.sessionId = some sequence
  live : a.expired now unix e.config.halfBindTtl e.config.idleTtl = false
  fresh : (b.replay.accept sequence).2 = true
  taken : ∃ limiter, e'.allocations.get header.allocationId = some ((a.setBinding header.role
    (some ⟨b.source, (b.replay.accept sequence).1, limiter⟩)).touch now)

theorem handleMedia_relayed {out : Outgoing}
    (h : out ∈ (e.handleMedia source packet header now unix).2) :
    ∃ a b other sequence, Relayed e (e.handleMedia source packet header now unix).1 source packet
      header now unix out a b other sequence := by
  unfold Engine.handleMedia at h ⊢
  cases ha : e.allocations.get header.allocationId with
  | none => simp [ha] at h
  | some a =>
    simp only [ha] at h ⊢
    split at h
    · cases h
    · rename_i hsession
      rw [if_neg hsession]
      split at h
      · cases h
      · rename_i hlive
        rw [if_neg hlive]
        split at h
        · cases h
        · rename_i hboth
          rw [if_neg hboth]
          split at h
          · cases h
          · rename_i sequence hseq
            split at h
            · rename_i b other hb hother
              split at h
              · cases h
              · rename_i hsource
                split at h
                · cases h
                · rename_i hfresh
                  split at h
                  · cases h
                  · rename_i hlimit
                    rw [List.mem_singleton] at h
                    simp only [if_neg hsource, if_neg hfresh, if_neg hlimit]
                    simp only [Bool.or_eq_true, not_or, Bool.not_eq_true] at hlive
                    simp only [Bool.not_eq_true', Bool.not_eq_false] at hfresh
                    subst h
                    exact ⟨a, b, other, sequence, ha, hb, hother, not_not.mp hsource, rfl, rfl, hseq,
                      hlive.1, hfresh, (b.limiter.allow packet.length now).1, by simp⟩
            · cases h

theorem forwards_relayed {i : Input} {out : Outgoing}
    (h : Forwards crypto e i source packet header out) :
    ∃ a b other sequence, Relayed e (e.step crypto i).1 source packet header i.now i.unix out a b
      other sequence := by
  obtain ⟨hi, hparse, hkind, hsent⟩ := h
  obtain ⟨perIp, global, he⟩ := allowSource_eq e source.ip packet.length i.now
  have hstep : e.step crypto i = e.handle crypto source packet i.now i.unix := by
    rw [hi]
    rfl
  rw [hstep] at hsent ⊢
  unfold Engine.handle at hsent ⊢
  simp only [hparse, hkind] at hsent ⊢
  split at hsent
  · cases hsent
  · rename_i hadmitted
    rw [if_neg hadmitted]
    obtain ⟨a, b, other, sequence, hr⟩ := handleMedia_relayed hsent
    have hentry := hr.entry
    have hlive := hr.live
    rw [he] at hentry hlive
    exact ⟨a, b, other, sequence, { hr with entry := hentry, live := hlive }⟩

end

end Starry.FastMedia
