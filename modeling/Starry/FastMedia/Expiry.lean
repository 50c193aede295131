import Starry.FastMedia.Routing

/-!
# FastMedia relay: expired entries

An entry that has expired is to stay silent until the cleanup removes it. `handle_media` and
`cleanup` look at `expired`; `handle_bind` does not, so a Bind can bring back an entry that was idle
or half bound for too long. An entry past its age or its grant cannot come back.
-/

open Library

namespace Starry.FastMedia

variable {F : Type}

/-! ## Expiry -/

section

variable {a : Allocation F} {now now' : Instant} {unix unix' halfBindTtl idleTtl : Nat}

theorem expired_iff (role : Role) : a.expired now unix halfBindTtl idleTtl = true ↔
    a.invariant.expiresAt ≤ unix ∨ now - a.created > secs maxGrantTtlSeconds ∨
      now - a.lastActivity > idleTtl ∨
      (a.binding role = none ∨ a.binding role.opposite = none) ∧ now - a.created > halfBindTtl := by
  have hnone : a.controller = none ∨ a.target = none ↔
      a.binding role = none ∨ a.binding role.opposite = none := by
    cases role
    · exact Iff.rfl
    · exact or_comm
  simp only [Allocation.expired, Bool.or_eq_true, Bool.and_eq_true, decide_eq_true_eq,
    Option.isNone_iff_eq_none, hnone, or_assoc]

/-- Time does not bring an entry back. -/
theorem expired_mono (h : a.expired now unix halfBindTtl idleTtl = true) (hnow : now ≤ now')
    (hunix : unix ≤ unix') : a.expired now' unix' halfBindTtl idleTtl = true := by
  rw [expired_iff .controller] at h ⊢
  have hage : ∀ {t limit : Nat}, now - t > limit → now' - t > limit :=
    fun h => lt_of_lt_of_le h (Nat.sub_le_sub_right hnow _)
  rcases h with h | h | h | ⟨hb, h⟩
  · exact .inl (h.trans hunix)
  · exact .inr (.inl (hage h))
  · exact .inr (.inr (.inl (hage h)))
  · exact .inr (.inr (.inr ⟨hb, hage h⟩))

end

variable [F64 F] {crypto : Crypto}

/-! ## Binds on expired entries -/

/-- The input is a Bind that passes every check for the entry of `id`, which is expired, but not
past its age, and whose other role is bound or which is young enough to be half bound. -/
def revives (crypto : Crypto) (id : Bytes) (w : World F) (i : Input) : Bool :=
  match i with
  | .cleanup _ _ => false
  | .packet source packet now unix =>
    (Header.parse packet).any fun header => (w.engine.allocations.get id).any fun a =>
      header.kind == .bind && header.allocationId == id &&
      (w.engine.allowSource source.ip packet.length now).2 &&
      ((w.engine.bindGrant crypto source packet header unix).any fun g =>
        a.sessionId == header.sessionId && a.invariant == g.2 &&
        (Engine.bindRole a source header.role g.1.maxBitrateKbps now).2) &&
      a.expired now unix w.engine.config.halfBindTtl w.engine.config.idleTtl &&
      decide (now - a.created ≤ secs maxGrantTtlSeconds) &&
      ((a.binding header.role.opposite).isSome ||
        decide (now - a.created ≤ w.engine.config.halfBindTtl))

/-- An input after which the entry of `id` is there, and that does not bring it back. -/
def Unrevived (crypto : Crypto) (id : Bytes) (w : World F) (i : Input) (w' : World F) : Prop :=
  Stays crypto id w i w' ∧ revives crypto id w i = false

/-- A Bind that is refused for its rebinds changes nothing that expiry depends on. -/
theorem bindRole_refused {a : Allocation F} {source : SocketAddr} {role : Role} {kbps : Nat}
    {now : Instant} (h : (Engine.bindRole a source role kbps now).2 = false) {unix half idle : Nat} :
    (Engine.bindRole a source role kbps now).1.expired now unix half idle =
      a.expired now unix half idle := by
  unfold Engine.bindRole at h ⊢
  cases hb : a.binding role with
  | none => simp [hb] at h
  | some b =>
    simp only [hb] at h ⊢
    split
    · rename_i hs
      simp [hs] at h
    · rename_i hs
      obtain ⟨c, t, hr⟩ := allowRebind_eq a role now
      rw [if_neg hs] at h
      split
      · simp only [hr]
        rfl
      · rename_i hallow
        rw [if_neg hallow] at h
        cases h

section

variable {w w' : World F} {i : Input} {id : Bytes} {a : Allocation F}

/-- The entry of `id` is there and has expired. -/
def Expired (w : World F) (id : Bytes) : Prop :=
  ∃ a, w.engine.allocations.get id = some a ∧
    a.expired w.now w.unix w.engine.config.halfBindTtl w.engine.config.idleTtl = true

theorem step_clock (h : Next crypto w i w') :
    w'.now = i.now ∧ w'.unix = i.unix ∧ w.now ≤ i.now ∧ w.unix ≤ i.unix := by
  obtain ⟨hclock, hstep⟩ := h
  cases hstep
  exact ⟨rfl, rfl, clocksAdvance_iff.mp hclock⟩

theorem unrevived_expired (h : Expired w id) (hs : Unrevived crypto id w i w') :
    Expired w' id := by
  obtain ⟨a, ha, hexp⟩ := h
  obtain ⟨⟨hnext, hsome⟩, hrev⟩ := hs
  obtain ⟨hnow, hunix, hle, hle'⟩ := step_clock hnext
  have hexp' := expired_mono hexp hle hle'
  have hentry := step_entry crypto w.engine i id
  rw [← step_world hnext, ha] at hentry
  rw [Expired, hnow, hunix, step_world hnext, (step_config crypto w.engine i).1,
    ← step_world hnext]
  generalize hx : w'.engine.allocations.get id = x' at hentry hsome
  cases hentry with
  | same => exact ⟨a, rfl, hexp'⟩
  | removed => cases hsome
  | media _ r number b limiter active hb hlive =>
    rw [hlive] at hexp'
    cases hexp'
  | bound _ source header grant inv hbind hid hsession hinv =>
    refine ⟨_, rfl, ?_⟩
    simp only [entryOr, Option.getD_some] at hsession hinv ⊢
    cases hok : (Engine.bindRole a source header.role grant.maxBitrateKbps i.now).2 with
    | false => rw [bindRole_refused hok]; exact hexp'
    | true =>
      have hspec := bindRole_spec a source header.role grant.maxBitrateKbps i.now
      obtain ⟨packet, hi, hparse, hkind, hadmitted, hgrant⟩ := hbind
      have hrev' : revives crypto id w (.packet source packet i.now i.unix) = false := by
        rw [← hi]
        exact hrev
      simp only [revives, hparse, ha, Option.any_some, hkind, hid, hadmitted, hgrant, hsession, hinv,
        hok, hexp', beq_self_eq_true, Bool.true_and, Bool.and_eq_false_iff, Bool.or_eq_false_iff,
        decide_eq_false_iff_not, not_le, Option.isSome_eq_false_iff, Option.isNone_iff_eq_none]
        at hrev'
      -- All checks have passed, so the entry is too old, or half bound for too long.
      have hopposite := hspec.other header.role.opposite (by cases header.role <;> decide)
      rw [expired_iff header.role, hspec.created, hopposite]
      rcases hrev' with hage | ⟨hother, hage⟩
      · exact .inr (.inl hage)
      · exact .inr (.inr (.inr ⟨.inr hother, hage⟩))

end

/-- Once an entry has expired, no input forwards anything through it as long as it stays and no
Bind brings it back. -/
theorem expired_never_forwards {config : Config} {key : Bytes} {start : Instant} {startUnix : Nat}
    {is : List Input} {w : World F}
    (h : Run (Next crypto) (World.init config key start startUnix) is w) {id : Bytes}
    {a : Allocation F} {now : Instant} {unix : Nat} (ha : w.engine.allocations.get id = some a)
    (hexp : a.expired now unix config.halfBindTtl config.idleTtl = true) {js : List Input}
    {w' : World F} (h' : Run (Unrevived crypto id) ⟨w.engine, now, unix⟩ js w') {i : Input}
    (hclock : clocksAdvance w' i = true) :
    ∀ source packet header out, header.allocationId = id →
      ¬ Forwards crypto w'.engine i source packet header out := by
  rintro source packet header out rfl hf
  have hstart : Expired (⟨w.engine, now, unix⟩ : World F) header.allocationId := by
    refine ⟨a, ha, ?_⟩
    rw [run_config h]
    exact hexp
  obtain ⟨a', ha', hexp'⟩ := h'.invariant (P := fun v => Expired v header.allocationId) hstart
    fun _ _ _ => unrevived_expired
  obtain ⟨a₁, b, other, sequence, hr⟩ := forwards_relayed hf
  have hlive := hr.live
  have hentry := hr.entry
  rw [ha'] at hentry
  cases hentry
  obtain ⟨hnow, hunix⟩ := clocksAdvance_iff.mp hclock
  rw [expired_mono hexp' hnow hunix] at hlive
  cases hlive

/-- The controller alone binds; after the half-bind TTL its refreshing Bind does not help. -/
theorem expired_never_forwards_half_bound : ∃ w a w', ∃ a' : Allocation Nat,
    Run (Next sampleCrypto) sampleWorld [sampleBindAt .controller 0] w ∧
    w.engine.allocations.get sampleId = some a ∧
    a.expired (secs 11) 0 sampleConfig.halfBindTtl sampleConfig.idleTtl = true ∧
    Run (Unrevived sampleCrypto sampleId) ⟨w.engine, secs 11, 0⟩
      [sampleBindAt .controller (secs 11)] w' ∧
    w'.engine.allocations.get sampleId = some a' ∧ a'.lastActivity = secs 11 ∧
    ∀ source packet header out, header.allocationId = sampleId →
      ¬ Forwards sampleCrypto w'.engine (sampleFirst (secs 12)) source packet header out := by
  have h : (exec (World.step sampleCrypto) clocksAdvance sampleWorld
      [sampleBindAt .controller 0]).any (fun w =>
      (w.engine.allocations.get sampleId).any fun a =>
        a.expired (secs 11) 0 sampleConfig.halfBindTtl sampleConfig.idleTtl &&
        !revives sampleCrypto sampleId ⟨w.engine, secs 11, 0⟩ (sampleBindAt .controller (secs 11)) &&
        ((w.engine.step sampleCrypto
          (sampleBindAt .controller (secs 11))).1.allocations.get sampleId).any fun a' =>
            a'.lastActivity == secs 11) = true := by
    decide +kernel
  simp only [Option.any_eq_true, Bool.and_eq_true, Bool.not_eq_true', beq_iff_eq] at h
  obtain ⟨w, hw, a, ha, ⟨hexp, hrev⟩, a', ha', hactive⟩ := h
  have hstays : Stays sampleCrypto sampleId ⟨w.engine, secs 11, 0⟩
      (sampleBindAt .controller (secs 11)) _ := ⟨next_step le_rfl le_rfl, by dsimp only; rw [ha']; rfl⟩
  have hrun : Run (Unrevived sampleCrypto sampleId) _ _ _ := .single ⟨hstays, hrev⟩
  refine ⟨w, a, _, a', .of_exec hw, ha, hexp, hrun, by dsimp only; exact ha', hactive, ?_⟩
  refine expired_never_forwards (.of_exec hw) ha hexp hrun (clocksAdvance_iff.mpr ⟨?_, le_rfl⟩)
  exact Nat.mul_le_mul_right _ (by decide)

/-- The target binds one second after the half-bind TTL, and its packet is forwarded. -/
theorem late_bind_revives : ∃ w w' : World Nat, ∃ a out,
    Run (Next sampleCrypto) sampleWorld [sampleBindAt .controller 0] w ∧
    w.engine.allocations.get sampleId = some a ∧
    a.expired (secs 11) 0 sampleConfig.halfBindTtl sampleConfig.idleTtl = true ∧
    Run (Stays sampleCrypto sampleId) ⟨w.engine, secs 11, 0⟩ [sampleBindAt .target (secs 11)] w' ∧
    clocksAdvance w' (sampleFirst (secs 11)) = true ∧
    Forwards sampleCrypto w'.engine (sampleFirst (secs 11)) (sampleSource .target)
      (sampleMedia .target 1) (sampleHeader .media .target) out := by
  have h : (exec (World.step sampleCrypto) clocksAdvance sampleWorld
      [sampleBindAt .controller 0]).any (fun w =>
      (w.engine.allocations.get sampleId).any fun a =>
        a.expired (secs 11) 0 sampleConfig.halfBindTtl sampleConfig.idleTtl &&
        ((w.engine.step sampleCrypto (sampleBindAt .target (secs 11))).1.allocations.get
          sampleId).isSome &&
        (((w.engine.step sampleCrypto (sampleBindAt .target (secs 11))).1.step sampleCrypto
          (sampleFirst (secs 11))).2.head?).isSome) = true := by
    decide +kernel
  simp only [Option.any_eq_true, Bool.and_eq_true] at h
  obtain ⟨w, hw, a, ha, ⟨hexp, hsome⟩, hout⟩ := h
  obtain ⟨out, hout⟩ := Option.isSome_iff_exists.mp hout
  have hstays : Stays sampleCrypto sampleId ⟨w.engine, secs 11, 0⟩
      (sampleBindAt .target (secs 11)) _ := ⟨next_step le_rfl le_rfl, by dsimp only; exact hsome⟩
  refine ⟨w, _, a, out, .of_exec hw, ha, hexp, .single hstays,
    clocksAdvance_iff.mpr ⟨le_rfl, le_rfl⟩, ?_⟩
  refine ⟨rfl, by decide +kernel, rfl, ?_⟩
  dsimp only
  exact List.mem_of_head? hout

end Starry.FastMedia
