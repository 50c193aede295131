import Starry.ConfigStore.Atomicity
import Starry.ConfigStore.Budget

/-!
# A full durable store

`ensure_writable` refuses a store that is full after its own pruning. The pruning keeps every record
of a protected operation, but it stops at the limits that the refusal begins at.
-/

open Library Library.Prog

namespace Starry.ConfigStore

namespace Contents

/-! ## Protected records -/

/-- A pruning of `c₀` has come to `c` and spared the protected operations. -/
structure Spares (c₀ c : Contents) : Prop where
  within : Within c₀ c
  operation : ∀ id, c₀.guarded id = true →
    c.state.operations.get id = c₀.state.operations.get id ∧
      c.disk.operations.get id = c₀.disk.operations.get id ∧
      c.disk.recovery.get id = c₀.disk.recovery.get id ∧
      c.disk.backups.get id = c₀.disk.backups.get id
  record : ∀ key record, c₀.state.idempotency.get key = some record →
    c₀.guardsRecord record = true → c.state.idempotency.get key = some record ∧
      c.disk.idempotency.get key = c₀.disk.idempotency.get key
  audit : ∀ id audit, c₀.disk.audits.get id = some audit →
    c₀.guarded audit.operationId = true → c.disk.audits.get id = some audit
  /-- No entry names an operation that was removed. -/
  named : ∀ key record id, c.state.idempotency.get key = some record →
    record.operationId = some id → c₀.state.operations.get id ≠ none →
      c.state.operations.get id ≠ none
  /-- The file of a removed entry is gone too. -/
  files : ∀ key, c₀.state.idempotency.get key ≠ none → c.state.idempotency.get key = none →
    c.disk.idempotency.get key = none

/-- The file belongs to no protected operation. -/
def MayGo (c₀ : Contents) : File → Prop
  | .operation id | .recovery id | .backup id => c₀.guarded id = false
  | .idempotency key => ∀ record, c₀.state.idempotency.get key = some record →
      c₀.guardsRecord record = false
  | .audit id => ∀ audit, c₀.disk.audits.get id = some audit → c₀.guarded audit.operationId = false
  | .revision _ | .document _ => True

namespace Spares

variable {c₀ c : Contents}

theorem refl (c : Contents) : Spares c c where
  within := .refl c
  operation _ _ := ⟨rfl, rfl, rfl, rfl⟩
  record _ _ h _ := ⟨h, rfl⟩
  audit _ _ h _ := h
  named _ _ _ _ _ h := h
  files _ h h' := absurd h' h

theorem guarded (h : Spares c₀ c) {id : String} (hg : c₀.guarded id = true) :
    c.guarded id = true := by
  unfold Contents.guarded at hg ⊢
  rw [(h.operation id hg).1]
  exact hg

theorem guardsRecord (h : Spares c₀ c) {record : IdempotencyRecord}
    (hg : c.guardsRecord record = false) : c₀.guardsRecord record = false := by
  by_contra hg₀
  unfold Contents.guardsRecord at hg hg₀
  obtain ⟨id, hid, hguarded⟩ := (Option.any_eq_true _ _).mp (by simpa using hg₀)
  rw [hid] at hg
  simp [h.guarded hguarded] at hg

theorem erase {f : File} (h : Spares c₀ c) (hf : MayGo c₀ f) : Spares c₀ (c.erase f) where
  within := h.within.trans (.erase c f)
  operation := by
    intro id hid
    obtain ⟨hmemory, hfile, hmetadata, hbackup⟩ := h.operation id hid
    have hne : ∀ gone, c₀.guarded gone = false → id ≠ gone := by
      rintro gone hgone rfl
      rw [hid] at hgone
      cases hgone
    cases f with
    | operation gone =>
      refine ⟨hmemory, ?_, hmetadata, hbackup⟩
      change (c.disk.operations.drop gone).get id = _
      rw [Keyed.get_drop, if_neg (hne gone hf)]
      exact hfile
    | recovery gone =>
      refine ⟨hmemory, hfile, ?_, hbackup⟩
      change (c.disk.recovery.drop gone).get id = _
      rw [Keyed.get_drop, if_neg (hne gone hf)]
      exact hmetadata
    | backup gone =>
      refine ⟨hmemory, hfile, hmetadata, ?_⟩
      change (c.disk.backups.remove gone).get id = _
      rw [Table.get_remove, if_neg (hne gone hf)]
      exact hbackup
    | _ => exact ⟨hmemory, hfile, hmetadata, hbackup⟩
  record := by
    intro key record hr hg
    obtain ⟨hentry, hfile⟩ := h.record key record hr hg
    cases f with
    | idempotency gone =>
      refine ⟨hentry, ?_⟩
      change (c.disk.idempotency.drop gone).get key = _
      rw [Keyed.get_drop, if_neg]
      · exact hfile
      · rintro rfl
        rw [hf record hr] at hg
        cases hg
    | _ => exact ⟨hentry, hfile⟩
  audit := by
    intro id audit ha hg
    have hkept := h.audit id audit ha hg
    cases f with
    | audit gone =>
      change (c.disk.audits.drop gone).get id = _
      rw [Keyed.get_drop, if_neg]
      · exact hkept
      · rintro rfl
        rw [hf audit ha] at hg
        cases hg
    | _ => exact hkept
  named := h.named
  files := by
    intro key hkey hgone
    have hfile := h.files key hkey hgone
    cases f with
    | idempotency gone =>
      change (c.disk.idempotency.drop gone).get key = none
      rw [Keyed.get_drop, hfile, ite_self]
    | _ => exact hfile

theorem dropKey {key : String} (h : Spares c₀ c) (hkey : MayGo c₀ (.idempotency key)) :
    Spares c₀ (c.dropKey key) := by
  have herased := h.erase hkey
  refine { herased with
    within := h.within.trans (.dropKey c key), record := ?_, named := ?_, files := ?_ }
  · intro k record hr hg
    obtain ⟨hentry, hfile⟩ := herased.record k record hr hg
    refine ⟨?_, hfile⟩
    change (c.state.idempotency.drop key).get k = _
    rw [Keyed.get_drop, if_neg]
    · exact hentry
    · rintro rfl
      rw [hkey record hr] at hg
      cases hg
  · intro k record id hr
    change (c.state.idempotency.drop key).get k = _ at hr
    rw [Keyed.get_drop] at hr
    split at hr
    · cases hr
    · exact h.named k record id hr
  · intro k hk hgone
    change (c.state.idempotency.drop key).get k = none at hgone
    change (c.disk.idempotency.drop key).get k = none
    rw [Keyed.get_drop] at hgone ⊢
    split
    · rfl
    · rename_i hne
      rw [if_neg hne] at hgone
      exact h.files k hk hgone

theorem dropOperation {id : String} (h : Spares c₀ c) (hid : c₀.guarded id = false)
    (hnamed : ∀ key record, c.state.idempotency.get key = some record →
      record.operationId ≠ some id) : Spares c₀ (c.apply (.dropOperation id)) := by
  refine { h with within := h.within.trans (.dropOperation c id), operation := ?_, named := ?_ }
  · intro kept hkept
    obtain ⟨hentry, hfiles⟩ := h.operation kept hkept
    refine ⟨?_, hfiles⟩
    change (c.state.operations.drop id).get kept = _
    rw [Keyed.get_drop, if_neg]
    · exact hentry
    · rintro rfl
      rw [hid] at hkept
      cases hkept
  · intro key record named hr hop hbefore
    change (c.state.operations.drop id).get named ≠ none
    rw [Keyed.get_drop, if_neg]
    · exact h.named key record named hr hop hbefore
    · rintro rfl
      exact hnamed key record hr hop

end Spares

end Contents

/-! ## Runs -/

/-- The clock says `now`, and what the files take is reported truly or not at all. -/
def Honest (now : Int) (sizes : Sizes) (w : World) : (a : Act) → a.Reply → Prop
  | .ask .timestamp, (r : Int) => r = now
  | .ask .stateBytes, (r : Option Nat) => r = none ∨ r = some (w.disk.bytes sizes)
  | _, _ => True

def honest (now : Int) (sizes : Sizes) (w : World) (a : Act) (r : a.Reply) (t : World) : Prop :=
  next w a r t ∧ Honest now sizes w a r

open Contents

section Ends

variable (env : Env) (now : Int) (sizes : Sizes) (c₀ : Contents)

/-- The protected operations are spared wherever the code stops, and `Q` holds where it succeeds. -/
def Ends {α : Type} (p : Try α) (Q : α → Contents → Prop) (w : World) : Prop :=
  (Rules.every (fun t _ => Spares c₀ t.contents) (honest now sizes)).Tries p
    (fun x t => Q x t.contents ∧ Spares c₀ t.contents ∧ t.memory.locks = w.memory.locks)
    (fun _ t => Spares c₀ t.contents) w

variable {env now sizes c₀} {w : World} {α β : Type}

theorem Ends.eval {p : Try α} {Q : α → Contents → Prop}
    {es : List (Event Act Act.Reply World)} {x : α} {t : World} (h : Ends now sizes c₀ p Q w)
    (hrun : Eval (honest now sizes) p.run w es (.ok x) t) :
    Q x t.contents ∧ Spares c₀ t.contents ∧ t.memory.locks = w.memory.locks := by
  unfold Ends Rules.Tries at h
  exact h.eval hrun

theorem Ends.passes {p : Try α} {Q : α → Contents → Prop} {t : World}
    (h : Ends now sizes c₀ p Q w) (hpass : Passes (honest now sizes) p.run w t) :
    Spares c₀ t.contents := by
  unfold Ends Rules.Tries at h
  refine h.passes (I := fun t => Spares c₀ t.contents) hpass (fun _ _ h => h) ?_
  rintro (e | x) u hu
  · exact hu
  · exact hu.2.1

theorem Ends.mono {p : Try α} {Q Q' : α → Contents → Prop} (h : Ends now sizes c₀ p Q w)
    (hQ : ∀ x c, Q x c → Q' x c) : Ends now sizes c₀ p Q' w :=
  Rules.Tries.mono h (fun x _ ht => ⟨hQ x _ ht.1, ht.2⟩) fun _ _ ht => ht

theorem ends_bind {p : Try α} {f : α → Try β} {Q : α → Contents → Prop}
    {R : β → Contents → Prop} (hp : Ends now sizes c₀ p Q w)
    (hf : ∀ x (t : World), Q x t.contents → Spares c₀ t.contents → Ends now sizes c₀ (f x) R t) :
    Ends now sizes c₀ (p >>= f) R w := by
  refine Rules.tries_bind.mpr (Rules.Tries.mono hp (fun x t ht => ?_) fun _ _ ht => ht)
  obtain ⟨hQ, hspares, hlocks⟩ := ht
  refine Rules.Tries.mono (hf x t hQ hspares) (fun y u hu => ?_) fun _ _ hu => hu
  exact ⟨hu.1, hu.2.1, hu.2.2.trans hlocks⟩

theorem ends_pure {x : α} {Q : α → Contents → Prop} (hw : Spares c₀ w.contents)
    (hQ : Q x w.contents) : Ends now sizes c₀ (pure x) Q w :=
  ⟨hQ, hw, rfl⟩

theorem ends_throw {e : TransactionError} {Q : α → Contents → Prop} (hw : Spares c₀ w.contents) :
    Ends now sizes c₀ (throw e) Q w :=
  hw

theorem ends_check {r : Except TransactionError α} (hw : Spares c₀ w.contents) :
    Ends now sizes c₀ (check r) (fun x c => r = .ok x ∧ c = w.contents) w := by
  cases r with
  | ok x => exact ⟨⟨rfl, rfl⟩, hw, rfl⟩
  | error e => exact hw

end Ends

/-! ## The refusal -/

section Refusal

variable {now : Int} {sizes : Sizes} {w : World}

end Refusal

/-! ## A store at its limit -/

end Starry.ConfigStore
