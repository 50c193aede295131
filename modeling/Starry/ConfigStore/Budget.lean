import Starry.ConfigStore.Pruning

/-!
# The budget of the durable store

What a pruning leaves of the records in memory and on the disk. The oldest terminal operations are
given up while the store is over its budget; of the others those go that have expired, as do the
oldest records without a protected operation while there are too many of them.
-/

open Library Library.Prog

namespace Starry.ConfigStore

/-! ## Contents -/

/-- The records in memory and on the disk. -/
structure Contents where
  state : StoreState
  disk : Disk

def World.contents (w : World) : Contents := ⟨w.memory.state, w.disk⟩

/-- How many bytes the files take. `foreign` are those of files that the store does not know. -/
structure Sizes where
  entry : Entry → Nat
  foreign : Nat

/-- The files in the directories that `durable_state_bytes` looks at. -/
def Disk.durable (d : Disk) : List Entry :=
  (d.operations.values .stored).map .operation ++ (d.idempotency.values .stored).map .idempotency ++
    (d.audits.values .stored).map .audit ++ (d.recovery.values .stored).map .recovery ++
      (d.backups.iter .stored).map fun e => .backup e.1 e.2

def Disk.bytes (sizes : Sizes) (d : Disk) : Nat :=
  sizes.foreign + (d.durable.map sizes.entry).sum

namespace Contents

def erase (c : Contents) (f : File) : Contents := { c with disk := c.disk.erase f }

def apply (c : Contents) (u : Update) : Contents := { c with state := c.state.apply u }

/-- The operation is not terminal. -/
def guarded (c : Contents) (id : String) : Bool :=
  (c.state.operations.get id).any fun operation => !operationIsTerminal operation

/-- The record is one of an operation that is not terminal. -/
def guardsRecord (c : Contents) (record : IdempotencyRecord) : Bool :=
  record.operationId.any c.guarded

section Limits

variable (sizes : Sizes) (c : Contents)

/-- The test of `prune_durable_records`. -/
def exceeds : Bool :=
  decide (maxDurableOperations < c.state.operations.len) ||
    decide (maxDurableIdempotency < c.state.idempotency.len) ||
    decide (maxDurableAudits < c.disk.audits.len) ||
    decide (maxDurableStateBytes < c.disk.bytes sizes)

end Limits

/-! ## Giving records up -/

section Pruned

variable (env : Env) (sizes : Sizes) (cutoff : Int)

def before (text : String) : Bool :=
  (env.parseFromRfc3339 text).any fun timestamp => decide (timestamp < cutoff)

def keysOf (c : Contents) (id : String) : List String :=
  ((c.state.idempotency.values env.order).filter fun record => record.operationId == some id).map
    (·.keyHash)

def auditsOf (c : Contents) (id : String) : List String :=
  ((c.disk.audits.values env.order).filter fun audit => audit.operationId == id).map (·.auditId)

def dropKey (c : Contents) (key : String) : Contents :=
  (c.erase (.idempotency key)).apply (.dropIdempotency key)

def dropAudit (c : Contents) (id : String) : Contents := c.erase (.audit id)

/-- The files and entries of one operation go. -/
def giveUp (c : Contents) (o : Operation) : Contents :=
  let c := ((c.erase (.operation o.id)).erase (.recovery o.id)).erase (.backup o.id)
  let c := (c.keysOf env o.id).foldl dropKey c
  let c := (c.auditsOf env o.id).foldl dropAudit c
  c.apply (.dropOperation o.id)

/-- Of the operations the first ones while the store is over its budget, and of the others the
expired ones. -/
def givenUp : List Operation → Contents → List Operation
  | [], _ => []
  | o :: l, c =>
    if c.exceeds sizes then o :: givenUp l (c.giveUp env o)
    else (o :: l).filter fun o => before env cutoff o.updatedAt

/-- The first ones of `len` records down to `limit`, and of the others the expired ones. -/
def surplus {α : Type} (expired : α → Bool) (limit len : Nat) (l : List α) : List α :=
  l.take (len - limit) ++ (l.drop (len - limit)).filter expired

def oldestTerminal (c : Contents) : List Operation :=
  sortByText (·.updatedAt) ((c.state.operations.values env.order).filter operationIsTerminal)

def afterOperations (c : Contents) : Contents :=
  (givenUp env sizes cutoff (c.oldestTerminal env) c).foldl (giveUp env) c

/-- The idempotency records that no protected operation owns, oldest first. -/
def standalone (c : Contents) : List IdempotencyRecord :=
  sortByText (·.createdAt) ((c.state.idempotency.values env.order).filter fun record =>
    record.operationId.all fun id => !(protectedOperations env c.state).contains id)

def afterIdempotency (c : Contents) : Contents :=
  (surplus (fun record => before env cutoff record.createdAt) maxDurableIdempotency
    c.state.idempotency.len (c.standalone env)).foldl (fun c record => c.dropKey record.keyHash) c

def standaloneAudits (c : Contents) : List AuditRecord :=
  sortByText (·.updatedAt) ((c.disk.audits.values env.order).filter fun audit =>
    !(protectedOperations env c.state).contains audit.operationId)

def afterAudits (c : Contents) : Contents :=
  (surplus (fun audit => before env cutoff audit.updatedAt) maxDurableAudits c.disk.audits.len
    (c.standaloneAudits env)).foldl (fun c audit => c.dropAudit audit.auditId) c

/-- What a pruning leaves. -/
def left (c : Contents) : Contents :=
  ((c.afterOperations env sizes cutoff).afterIdempotency env cutoff).afterAudits env cutoff

end Pruned

end Contents

/-! ## Sizes -/

/-- Removing a file removes nothing else, and adds nothing. -/
theorem sublist_durable (d : Disk) (f : File) : (d.erase f).durable.Sublist d.durable := by
  unfold Disk.durable
  cases f with
  | operation id =>
    exact ((((Keyed.sublist_drop _ _).map _).append (.refl _)).append (.refl _)).append (.refl _) |>.append
      (.refl _)
  | idempotency key =>
    exact ((((List.Sublist.refl _).append ((Keyed.sublist_drop _ _).map _)).append (.refl _)).append
      (.refl _)).append (.refl _)
  | audit id =>
    exact ((((List.Sublist.refl _).append (.refl _)).append ((Keyed.sublist_drop _ _).map _)).append
      (.refl _)).append (.refl _)
  | recovery id =>
    exact ((((List.Sublist.refl _).append (.refl _)).append (.refl _)).append
      ((Keyed.sublist_drop _ _).map _)).append (.refl _)
  | backup id =>
    refine ((((List.Sublist.refl _).append (.refl _)).append (.refl _)).append (.refl _)).append ?_
    refine List.Sublist.map _ ?_
    unfold Table.iter Disk.erase Table.remove
    exact List.Sublist.map _ (List.kerase_sublist ..)
  | revision id | document id => exact .refl _

/-! ## What is only removed -/

namespace Contents

/-- Nothing was added to `c₀`. -/
structure Within (c₀ c : Contents) : Prop where
  operations : (c.state.operations.values .stored).Sublist (c₀.state.operations.values .stored)
  idempotency : (c.state.idempotency.values .stored).Sublist (c₀.state.idempotency.values .stored)
  audits : (c.disk.audits.values .stored).Sublist (c₀.disk.audits.values .stored)
  durable : c.disk.durable.Sublist c₀.disk.durable
  manual : c.state.manualInterventionRequired = c₀.state.manualInterventionRequired

namespace Within

variable {c₀ c c' : Contents}

theorem refl (c : Contents) : Within c c := ⟨.refl _, .refl _, .refl _, .refl _, rfl⟩

theorem trans (h : Within c₀ c) (h' : Within c c') : Within c₀ c' where
  operations := h'.operations.trans h.operations
  idempotency := h'.idempotency.trans h.idempotency
  audits := h'.audits.trans h.audits
  durable := h'.durable.trans h.durable
  manual := h'.manual.trans h.manual

theorem erase (c : Contents) (f : File) : Within c (c.erase f) where
  operations := .refl _
  idempotency := .refl _
  audits := by
    cases f with
    | audit id => exact Keyed.sublist_drop _ _
    | _ => exact .refl _
  durable := sublist_durable _ _
  manual := rfl

theorem dropOperation (c : Contents) (id : String) : Within c (c.apply (.dropOperation id)) where
  operations := Keyed.sublist_drop _ _
  idempotency := .refl _
  audits := .refl _
  durable := .refl _
  manual := rfl

theorem dropKey (c : Contents) (key : String) : Within c (c.dropKey key) :=
  (erase c _).trans ⟨.refl _, Keyed.sublist_drop _ _, .refl _, .refl _, rfl⟩

theorem foldl {α : Type} {f : Contents → α → Contents} (hf : ∀ c x, Within c (f c x))
    (l : List α) (c : Contents) : Within c (l.foldl f c) := by
  induction l generalizing c with
  | nil => exact refl c
  | cons x l ih => exact (hf c x).trans (ih _)

theorem giveUp (env : Env) (c : Contents) (o : Operation) : Within c (c.giveUp env o) := by
  unfold Contents.giveUp
  refine Within.trans ?_ (dropOperation _ _)
  refine Within.trans ?_ (foldl (fun c id => erase c (.audit id)) _ _)
  refine Within.trans ?_ (foldl dropKey _ _)
  exact ((erase _ _).trans (erase _ _)).trans (erase _ _)

theorem operation {id : String} {o : Operation} (h : Within c₀ c)
    (ho : c.state.operations.get id = some o) : c₀.state.operations.get id = some o :=
  Keyed.get_of_sublist h.operations ho

theorem record {key : String} {record : IdempotencyRecord} (h : Within c₀ c)
    (hr : c.state.idempotency.get key = some record) :
    c₀.state.idempotency.get key = some record :=
  Keyed.get_of_sublist h.idempotency hr

theorem audit {id : String} {audit : AuditRecord} (h : Within c₀ c)
    (ha : c.disk.audits.get id = some audit) : c₀.disk.audits.get id = some audit :=
  Keyed.get_of_sublist h.audits ha

theorem guarded {id : String} (h : Within c₀ c) (hg : c.guarded id = true) :
    c₀.guarded id = true := by
  unfold Contents.guarded at hg ⊢
  rw [Option.any_eq_true] at hg ⊢
  obtain ⟨o, ho, hterminal⟩ := hg
  exact ⟨o, h.operation ho, hterminal⟩

theorem len_operations_le (h : Within c₀ c) :
    c.state.operations.len ≤ c₀.state.operations.len := by
  rw [← Keyed.len_values, ← Keyed.len_values]
  exact h.operations.length_le

theorem len_idempotency_le (h : Within c₀ c) :
    c.state.idempotency.len ≤ c₀.state.idempotency.len := by
  rw [← Keyed.len_values, ← Keyed.len_values]
  exact h.idempotency.length_le

theorem len_audits_le (h : Within c₀ c) : c.disk.audits.len ≤ c₀.disk.audits.len := by
  rw [← Keyed.len_values, ← Keyed.len_values]
  exact h.audits.length_le

theorem bytes_le (sizes : Sizes) (h : Within c₀ c) : c.disk.bytes sizes ≤ c₀.disk.bytes sizes := by
  unfold Disk.bytes
  have hsum := (h.durable.map sizes.entry).sum_le_sum (by simp)
  omega

/-- A store that fits goes on to fit. -/
theorem fits {sizes : Sizes} (h : Within c₀ c) (hfits : c₀.exceeds sizes = false) :
    c.exceeds sizes = false := by
  have hoperations := h.len_operations_le
  have hidempotency := h.len_idempotency_le
  have haudits := h.len_audits_le
  have hbytes := h.bytes_le sizes
  simp only [exceeds, Bool.or_eq_false_iff, decide_eq_false_iff_not, not_lt] at hfits ⊢
  omega

end Within

/-! ## The operations -/

section Passes

variable (env : Env) (sizes : Sizes) (cutoff : Int)

variable {env sizes cutoff} {c₀ c : Contents}

theorem Within.guardsRecord {record : IdempotencyRecord} (h : Within c₀ c)
    (hg : c.guardsRecord record = true) : c₀.guardsRecord record = true := by
  unfold Contents.guardsRecord at hg ⊢
  rw [Option.any_eq_true] at hg ⊢
  obtain ⟨id, hid, hguarded⟩ := hg
  exact ⟨id, hid, h.guarded hguarded⟩

end Passes

end Contents

end Starry.ConfigStore
