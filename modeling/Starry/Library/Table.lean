import Mathlib

/-!
# Hash tables

A table holds every key at most once. Its lookups, insertions and removals are those of
Mathlib's association lists. The bulk operations of a hash map are added here, with its
size and its iteration, which may visit the entries in any order.
-/

namespace Library

abbrev Table (K V : Type) := AList (fun _ : K => V)

/-- The order in which a hash map happens to visit its entries: some rearrangement of them. -/
structure HashOrder where
  arrange : {α : Type} → List α → List α
  perm : ∀ {α : Type} (l : List α), (arrange l).Perm l

/-- The order in which the entries are stored. -/
def HashOrder.stored : HashOrder := ⟨id, fun l => .refl l⟩

namespace Table

variable {K V : Type}

def empty : Table K V := (∅ : AList _)

def len (m : Table K V) : Nat := m.entries.length

/-- Keeps an entry with its new value, or drops it. -/
def filterMap (f : K → V → Option V) (m : Table K V) : Table K V :=
  ⟨m.entries.filterMap fun e => (f e.1 e.2).map fun v => (⟨e.1, v⟩ : (_ : K) × V), by
    have hsub : (m.entries.filterMap fun e =>
        (f e.1 e.2).map fun v => (⟨e.1, v⟩ : (_ : K) × V)).keys.Sublist m.entries.keys := by
      induction m.entries with
      | nil => simp
      | cons e l ih =>
        cases h : f e.1 e.2 with
        | none => simpa [List.filterMap_cons, h] using ih.trans (List.sublist_cons_self _ _)
        | some v => simpa [List.filterMap_cons, h] using ih
    exact hsub.nodup m.nodupKeys⟩

def retain (p : K → V → Bool) (m : Table K V) : Table K V :=
  m.filterMap fun k v => if p k v then some v else none

variable [DecidableEq K]

def get (m : Table K V) (k : K) : Option V := AList.lookup k m

def insert (m : Table K V) (k : K) (v : V) : Table K V := AList.insert k v m

def remove (m : Table K V) (k : K) : Table K V := AList.erase k m

/-- Changes the value under one key, if there is one. -/
def modify (m : Table K V) (k : K) (f : V → V) : Table K V :=
  m.filterMap fun k' v => some (if k' = k then f v else v)

/-! ## Lookups -/

@[simp] theorem get_empty (k : K) : (empty : Table K V).get k = none := AList.lookup_empty k

@[simp] theorem get_insert (m : Table K V) (k : K) (v : V) (k' : K) :
    (m.insert k v).get k' = if k' = k then some v else m.get k' := by
  unfold get insert
  split
  · rename_i h; subst h; exact AList.lookup_insert m
  · exact AList.lookup_insert_ne ‹_›

@[simp] theorem get_remove (m : Table K V) (k k' : K) :
    (m.remove k).get k' = if k' = k then none else m.get k' := by
  unfold get remove
  split
  · rename_i h; subst h; exact AList.lookup_erase _ m
  · exact AList.lookup_erase_ne ‹_›

theorem dlookup_filterMap (f : K → V → Option V) (l : List ((_ : K) × V)) (k : K)
    (h : l.NodupKeys) :
    (l.filterMap fun e => (f e.1 e.2).map fun v => (⟨e.1, v⟩ : (_ : K) × V)).dlookup k =
      Option.bind (α := V) (l.dlookup k) (f k) := by
  induction l with
  | nil => rfl
  | cons e l ih =>
    obtain ⟨k', v⟩ := e
    have hl := ih (List.nodupKeys_of_nodupKeys_cons h)
    by_cases hk : k' = k
    · subst hk
      cases hf : f k' v with
      | some w => simp [hf]
      | none =>
        -- The key is not in the tail, so dropping this entry leaves nothing under it.
        have hn : l.dlookup k' = none :=
          List.dlookup_eq_none.mpr (List.notMem_keys_of_nodupKeys_cons h)
        simpa [List.filterMap_cons, hf, hn] using hl
    · cases hf : f k' v with
      | some w => simpa [List.filterMap_cons, hf, List.dlookup, hk] using hl
      | none => simpa [List.filterMap_cons, hf, List.dlookup, hk] using hl

@[simp] theorem get_filterMap (f : K → V → Option V) (m : Table K V) (k : K) :
    (m.filterMap f).get k = (m.get k).bind (f k) :=
  dlookup_filterMap f m.entries k m.nodupKeys

@[simp] theorem get_retain (p : K → V → Bool) (m : Table K V) (k : K) :
    (m.retain p).get k = (m.get k).filter (p k) := by
  rw [retain, get_filterMap]
  cases m.get k <;> simp [Option.filter]

@[simp] theorem get_modify (m : Table K V) (k : K) (f : V → V) (k' : K) :
    (m.modify k f).get k' = if k' = k then (m.get k).map f else m.get k' := by
  rw [modify, get_filterMap]
  split
  · rename_i h; subst h
    cases m.get k' <;> simp
  · cases m.get k' <;> simp_all

theorem mem_entries {m : Table K V} {k : K} {v : V} :
    (⟨k, v⟩ : (_ : K) × V) ∈ m.entries ↔ m.get k = some v := by
  rw [← Option.mem_def, get, AList.mem_lookup_iff]

theorem filterMap_eq_self {f : K → V → Option V} {m : Table K V}
    (h : ∀ k v, m.get k = some v → f k v = some v) : m.filterMap f = m := by
  have hentries : (m.entries.filterMap fun e => (f e.1 e.2).map fun v => (⟨e.1, v⟩ : (_ : K) × V)) =
      m.entries.filterMap some := by
    apply List.filterMap_congr
    rintro ⟨k, v⟩ hmem
    simp only [h k v (mem_entries.mp hmem), Option.map_some]
  apply AList.ext
  exact hentries.trans List.filterMap_some

/-- Taking an entry out and putting one back under the same key is one insertion. -/
@[simp] theorem insert_remove (m : Table K V) (k : K) (v : V) :
    (m.remove k).insert k v = m.insert k v := by
  apply AList.ext
  unfold insert remove
  rw [AList.entries_insert, AList.entries_insert]
  congr 1
  apply List.kerase_of_notMem_keys
  exact List.notMem_keys_kerase k m.nodupKeys

/-- What a table filled from a list holds comes from the list. -/
theorem mem_of_get_foldl_insert {α : Type} {f : α → K} {g : α → V} {l : List α}
    {m : Table K V} {k : K} {v : V}
    (h : (l.foldl (fun m x => m.insert (f x) (g x)) m).get k = some v) :
    (∃ x ∈ l, f x = k ∧ g x = v) ∨ m.get k = some v := by
  induction l generalizing m with
  | nil => exact .inr h
  | cons x l ih =>
    rcases ih h with ⟨y, hy, hk⟩ | hm
    · exact .inl ⟨y, List.mem_cons_of_mem x hy, hk⟩
    · rw [get_insert] at hm
      split at hm
      · rename_i hk
        exact .inl ⟨x, List.mem_cons_self, hk.symm, Option.some.inj hm⟩
      · exact .inr hm

theorem isSome_get_insert {m : Table K V} {k k' : K} (v : V) (h : (m.get k').isSome = true) :
    ((m.insert k v).get k').isSome = true := by
  rw [get_insert]
  split
  · rfl
  · exact h

/-- A table filled from a list holds all of its keys. -/
theorem isSome_get_foldl_insert {α : Type} {f : α → K} {g : α → V} {l : List α} {x : α}
    (m : Table K V) (h : x ∈ l ∨ (m.get (f x)).isSome = true) :
    ((l.foldl (fun m x => m.insert (f x) (g x)) m).get (f x)).isSome = true := by
  induction l generalizing m with
  | nil => exact h.resolve_left List.not_mem_nil
  | cons y l ih =>
    apply ih
    rcases h with h | h
    · rcases List.mem_cons.mp h with rfl | h
      · exact .inr (by simp)
      · exact .inl h
    · exact .inr (isSome_get_insert _ h)

/-! ## Size -/

omit [DecidableEq K] in
@[simp] theorem len_empty : (empty : Table K V).len = 0 := rfl

omit [DecidableEq K] in
theorem len_eq_keys (m : Table K V) : m.len = m.keys.length := by simp [len, AList.keys, List.keys]

theorem get_eq_none {m : Table K V} {k : K} : m.get k = none ↔ k ∉ m.keys := by
  rw [get, AList.lookup_eq_none, AList.mem_keys]

omit [DecidableEq K] in
theorem len_filterMap_le (f : K → V → Option V) (m : Table K V) : (m.filterMap f).len ≤ m.len :=
  List.length_filterMap_le ..

omit [DecidableEq K] in
theorem len_retain_le (p : K → V → Bool) (m : Table K V) : (m.retain p).len ≤ m.len :=
  len_filterMap_le _ m

/-- A table with fewer keys is smaller. -/
theorem len_le_of_get {W : Type} {m : Table K V} {n : Table K W}
    (h : ∀ k, (m.get k).isSome = true → (n.get k).isSome = true) : m.len ≤ n.len := by
  rw [len_eq_keys, len_eq_keys]
  apply (List.subperm_of_subset m.keys_nodup fun k hk => ?_).length_le
  by_contra hn
  have hm : m.get k ≠ none := fun hnone => get_eq_none.mp hnone hk
  have hsome := h k (Option.isSome_iff_ne_none.mpr hm)
  rw [get_eq_none.mpr hn] at hsome
  cases hsome

theorem len_insert (m : Table K V) (k : K) (v : V) :
    (m.insert k v).len = if m.get k = none then m.len + 1 else m.len := by
  rw [len_eq_keys, len_eq_keys, insert, AList.keys_insert, List.length_cons, List.length_erase]
  by_cases h : m.get k = none
  · rw [if_pos h, if_neg (get_eq_none.mp h)]
  · have hk : k ∈ m.keys := by rw [get_eq_none] at h; exact not_not.mp h
    have := List.length_pos_of_mem hk
    rw [if_neg h, if_pos hk]
    omega

theorem len_remove_le (m : Table K V) (k : K) : (m.remove k).len ≤ m.len := by
  rw [len_eq_keys, len_eq_keys, remove, AList.keys_erase]
  exact List.length_erase_le

theorem len_remove_of_some {m : Table K V} {k : K} {v : V} (h : m.get k = some v) :
    (m.remove k).len + 1 = m.len := by
  have hk : k ∈ m.keys := by
    by_contra hk
    rw [← get_eq_none, h] at hk
    cases hk
  have := List.length_pos_of_mem hk
  rw [len_eq_keys, len_eq_keys, remove, AList.keys_erase, List.length_erase_of_mem hk]
  omega

/-! ## Iteration -/

omit [DecidableEq K] in
def iter (m : Table K V) (ord : HashOrder) : List (K × V) :=
  ord.arrange (m.entries.map fun e => (e.1, e.2))

theorem mem_iter {ord : HashOrder} {m : Table K V} {k : K} {v : V} :
    (k, v) ∈ m.iter ord ↔ m.get k = some v := by
  rw [iter, (ord.perm _).mem_iff, List.mem_map, ← Option.mem_def, get, AList.mem_lookup_iff]
  constructor
  · rintro ⟨⟨k', v'⟩, he, h⟩
    obtain ⟨rfl, rfl⟩ := Prod.mk.inj h
    exact he
  · intro h
    exact ⟨_, h, rfl⟩

end Table

/-! ## The largest element of an iteration -/

section

variable {α β : Type} [LinearOrder β]

def pickMax (key : α → β) (best : Option α) (x : α) : Option α :=
  match best with
  | none => some x
  | some y => if key y ≤ key x then some x else some y

/-- The element with the largest key; of several, the last one. -/
def maxByKey (key : α → β) (l : List α) : Option α := l.foldl (pickMax key) none

theorem foldl_pickMax_mem (key : α → β) (l : List α) (b : Option α) (x : α)
    (h : l.foldl (pickMax key) b = some x) : x ∈ l ∨ b = some x := by
  induction l generalizing b with
  | nil => exact .inr h
  | cons y l ih =>
    rcases ih _ h with hx | hx
    · exact .inl (List.mem_cons_of_mem _ hx)
    · cases b with
      | none =>
        left
        simp only [pickMax, Option.some.injEq] at hx
        simp [hx]
      | some z =>
        simp only [pickMax] at hx
        split at hx
        · left
          simp only [Option.some.injEq] at hx
          simp [hx]
        · exact .inr hx

theorem maxByKey_mem {key : α → β} {l : List α} {x : α} (h : maxByKey key l = some x) : x ∈ l := by
  simpa using foldl_pickMax_mem key l none x h

theorem foldl_pickMax_le (key : α → β) (l : List α) (b : Option α) (x : α)
    (h : l.foldl (pickMax key) b = some x) :
    (∀ y ∈ l, key y ≤ key x) ∧ ∀ y, b = some y → key y ≤ key x := by
  induction l generalizing b with
  | nil =>
    refine ⟨by simp, fun y hy => ?_⟩
    cases h.symm.trans hy
    exact le_rfl
  | cons z l ih =>
    obtain ⟨hl, hb⟩ := ih _ h
    cases b with
    | none => exact ⟨List.forall_mem_cons.mpr ⟨hb z rfl, hl⟩, by simp⟩
    | some y =>
      simp only [pickMax] at hb
      by_cases hyz : key y ≤ key z
      · rw [if_pos hyz] at hb
        have hz := hb z rfl
        exact ⟨List.forall_mem_cons.mpr ⟨hz, hl⟩, by rintro _ ⟨⟩; exact hyz.trans hz⟩
      · rw [if_neg hyz] at hb
        have hy := hb y rfl
        refine ⟨List.forall_mem_cons.mpr ⟨?_, hl⟩, by rintro _ ⟨⟩; exact hy⟩
        exact (le_of_lt (not_le.mp hyz)).trans hy

theorem maxByKey_le {key : α → β} {l : List α} {x y : α} (h : maxByKey key l = some x)
    (hy : y ∈ l) : key y ≤ key x :=
  (foldl_pickMax_le key l none x h).1 y hy

theorem foldl_pickMax_isSome (key : α → β) (l : List α) (b : Option α) (h : l ≠ [] ∨ b.isSome) :
    (l.foldl (pickMax key) b).isSome := by
  induction l generalizing b with
  | nil => simpa using h
  | cons x l ih =>
    refine ih _ (.inr ?_)
    cases b with
    | none => rfl
    | some y => simp only [pickMax]; split <;> rfl

theorem maxByKey_isSome (key : α → β) {l : List α} (h : l ≠ []) : (maxByKey key l).isSome :=
  foldl_pickMax_isSome key l none (.inl h)

end

/-! ## Tables with a limit -/

namespace Table

variable {K V : Type} [DecidableEq K] {β : Type} [LinearOrder β]

/-- Removes the entry with the largest key, by the order in which they are visited. -/
def removeMax (ord : HashOrder) (key : V → β) (m : Table K V) : Table K V :=
  match maxByKey (fun e : K × V => key e.2) (m.iter ord) with
  | none => m
  | some e => m.remove e.1

/-- Inserts under a limit: a new key takes the place of the entry with the largest key. -/
def insertLimited (ord : HashOrder) (key : V → β) (limit : Nat) (m : Table K V) (k : K) (v : V) :
    Table K V :=
  (if (m.get k).isNone && decide (m.len ≥ limit) then m.removeMax ord key else m).insert k v

variable {ord : HashOrder} {key : V → β} {m : Table K V} {k k' : K} {v v' : V}

omit [DecidableEq K] in
/-- Only an empty table has no largest entry. -/
theorem len_of_maxByKey {key : K × V → β} (h : maxByKey key (m.iter ord) = none) : m.len = 0 := by
  by_contra hne
  have hiter : m.iter ord ≠ [] := by
    intro he
    have hlen := (ord.perm (m.entries.map fun e => (e.1, e.2))).length_eq
    rw [iter] at he
    rw [he, List.length_map] at hlen
    exact hne hlen.symm
  have := maxByKey_isSome key hiter
  rw [h] at this
  cases this

/-- Either nothing is there to remove, or an entry with the largest key goes. -/
theorem removeMax_cases (ord : HashOrder) (key : V → β) (m : Table K V) :
    m.len = 0 ∧ m.removeMax ord key = m ∨
      ∃ k v, m.get k = some v ∧ (∀ k' v', m.get k' = some v' → key v' ≤ key v) ∧
        m.removeMax ord key = m.remove k := by
  unfold removeMax
  split
  · rename_i h
    exact .inl ⟨len_of_maxByKey h, rfl⟩
  · rename_i e h
    obtain ⟨k, v⟩ := e
    refine .inr ⟨k, v, mem_iter.mp (maxByKey_mem h), fun k' v' hk' => ?_, rfl⟩
    have hmem : (k', v') ∈ m.iter ord := mem_iter.mpr hk'
    have hle := maxByKey_le h hmem
    exact hle

theorem get_of_removeMax (h : (m.removeMax ord key).get k = some v) : m.get k = some v := by
  rcases removeMax_cases ord key m with ⟨_, he⟩ | ⟨k', v', _, _, he⟩
  · rwa [he] at h
  · rw [he, get_remove] at h
    split at h
    · cases h
    · exact h

theorem len_removeMax (ord : HashOrder) (key : V → β) (h : 0 < m.len) :
    (m.removeMax ord key).len + 1 = m.len := by
  rcases removeMax_cases ord key m with ⟨h0, _⟩ | ⟨k, v, hk, _, he⟩
  · omega
  · rw [he]; exact len_remove_of_some hk

theorem get_insertLimited {limit : Nat} (h : (m.insertLimited ord key limit k v).get k' = some v') :
    k' = k ∧ v' = v ∨ k' ≠ k ∧ m.get k' = some v' := by
  rw [insertLimited, get_insert] at h
  split at h
  · rename_i hk
    cases h
    exact .inl ⟨hk, rfl⟩
  · rename_i hk
    refine .inr ⟨hk, ?_⟩
    split at h
    · exact get_of_removeMax h
    · exact h

theorem get_insertLimited_self {limit : Nat} :
    (m.insertLimited ord key limit k v).get k = some v := by
  rw [insertLimited, get_insert, if_pos rfl]

theorem len_insertLimited {limit : Nat} (h : m.len ≤ max 1 limit) :
    (m.insertLimited ord key limit k v).len ≤ max 1 limit := by
  rw [insertLimited, len_insert]
  split
  · rename_i hcond
    simp only [Bool.and_eq_true, decide_eq_true_eq] at hcond
    by_cases h0 : 0 < m.len
    · have := len_removeMax ord key h0
      split <;> omega
    · have hle : (m.removeMax ord key).len ≤ m.len := by
        rcases removeMax_cases ord key m with ⟨_, he⟩ | ⟨k', v', _, _, he⟩
        · rw [he]
        · rw [he]; exact len_remove_le m k'
      split <;> omega
  · rename_i hcond
    simp only [Bool.and_eq_true, decide_eq_true_eq, not_and, Option.isNone_iff_eq_none] at hcond
    split
    · have := hcond ‹_›
      omega
    · exact h

end Table

end Library
