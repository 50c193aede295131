import Starry.Library.Table

/-!
# Records stored under their own key

A table of records in which every record stands under the key it names.
-/

namespace Library

structure Keyed {K V : Type} [DecidableEq K] (key : V → K) where
  table : Table K V
  keyed : ∀ k v, table.get k = some v → key v = k

namespace Keyed

variable {K V : Type} [DecidableEq K] {key : V → K}

def empty : Keyed key := ⟨Table.empty, by simp⟩

def get (r : Keyed key) (k : K) : Option V := r.table.get k

def len (r : Keyed key) : Nat := r.table.len

def put (r : Keyed key) (v : V) : Keyed key :=
  ⟨r.table.insert (key v) v, by
    intro k w h
    rw [Table.get_insert] at h
    split at h
    · rename_i hk
      cases h
      exact hk.symm
    · exact r.keyed k w h⟩

def drop (r : Keyed key) (k : K) : Keyed key :=
  ⟨r.table.remove k, by
    intro k' w h
    rw [Table.get_remove] at h
    split at h
    · cases h
    · exact r.keyed k' w h⟩

/-- The records, in the order in which the table happens to visit them. -/
def values (r : Keyed key) (ord : HashOrder) : List V := (r.table.iter ord).map Prod.snd

@[simp] theorem get_empty (k : K) : (empty : Keyed key).get k = none := Table.get_empty k

@[simp] theorem get_put (r : Keyed key) (v : V) (k : K) :
    (r.put v).get k = if k = key v then some v else r.get k :=
  Table.get_insert ..

@[simp] theorem get_drop (r : Keyed key) (k k' : K) :
    (r.drop k).get k' = if k' = k then none else r.get k' :=
  Table.get_remove ..

theorem get_key {r : Keyed key} {k : K} {v : V} (h : r.get k = some v) : key v = k :=
  r.keyed k v h

theorem mem_values {r : Keyed key} {ord : HashOrder} {v : V} :
    v ∈ r.values ord ↔ r.get (key v) = some v := by
  simp only [values, List.mem_map, Prod.exists, Table.mem_iter, exists_eq_right]
  constructor
  · rintro ⟨k, h⟩
    rwa [get, r.keyed k v h]
  · intro h
    exact ⟨key v, h⟩

/-! ## Sizes -/

theorem len_drop_of_get {r : Keyed key} {k : K} {v : V} (h : r.get k = some v) :
    (r.drop k).len + 1 = r.len :=
  Table.len_remove_of_some h

/-- No two records have one key. -/
theorem nodup_values (r : Keyed key) (ord : HashOrder) : ((r.values ord).map key).Nodup := by
  have hkeys : (r.values ord).map key = (r.table.iter ord).map Prod.fst := by
    unfold values
    rw [List.map_map]
    refine List.map_congr_left fun e he => ?_
    exact r.keyed e.1 e.2 (Table.mem_iter.mp he)
  have hperm : ((r.table.iter ord).map Prod.fst).Perm r.table.keys := by
    have hmap : r.table.keys = (r.table.entries.map fun e => (e.1, e.2)).map Prod.fst := by
      simp [AList.keys, List.keys]
    rw [hmap]
    exact (ord.perm _).map _
  rw [hkeys]
  exact hperm.nodup_iff.mpr r.table.keys_nodup

theorem len_values (r : Keyed key) : (r.values .stored).length = r.len := by
  simp [values, Table.iter, HashOrder.stored, len, Table.len]

theorem length_values (r : Keyed key) (ord : HashOrder) : (r.values ord).length = r.len := by
  unfold values
  rw [List.length_map, Table.iter, (ord.perm _).length_eq, List.length_map, len, Table.len]

theorem sublist_drop (r : Keyed key) (k : K) :
    ((r.drop k).values .stored).Sublist (r.values .stored) := by
  unfold values drop Table.iter Table.remove
  simp only [HashOrder.stored, id, List.map_map]
  exact List.Sublist.map _ (List.kerase_sublist ..)

theorem get_of_sublist {r r' : Keyed key} {k : K} {v : V}
    (h : (r'.values .stored).Sublist (r.values .stored)) (hv : r'.get k = some v) :
    r.get k = some v := by
  obtain rfl := get_key hv
  exact mem_values.mp (h.subset (mem_values.mpr hv))

/-! ## Lists of records -/

/-- Records of the table, each once. -/
def Lists (r : Keyed key) (l : List V) : Prop :=
  (∀ v ∈ l, r.get (key v) = some v) ∧ (l.map key).Nodup

namespace Lists

variable {r : Keyed key} {v : V} {l : List V}

theorem tail (h : r.Lists (v :: l)) : r.Lists l :=
  ⟨fun w hw => h.1 w (List.mem_cons_of_mem _ hw), (List.nodup_cons.mp h.2).2⟩

theorem perm {l' : List V} (h : r.Lists l) (hperm : l.Perm l') : r.Lists l' :=
  ⟨fun w hw => h.1 w (hperm.mem_iff.mpr hw), (hperm.map key).nodup_iff.mp h.2⟩

/-- A list that is long enough holds every record. -/
theorem perm_values (h : r.Lists l) (hlen : l.length = r.len) : l.Perm (r.values .stored) := by
  have hsub : l ⊆ r.values .stored := fun v hv => mem_values.mpr (h.1 v hv)
  refine (List.subperm_of_subset h.2.of_map hsub).perm_of_length_le ?_
  rw [len_values, hlen]

theorem drop (h : r.Lists (v :: l)) : (r.drop (key v)).Lists l := by
  refine ⟨fun w hw => ?_, h.tail.2⟩
  have hne : key w ≠ key v := by
    intro heq
    have hmem := List.mem_map_of_mem (f := key) hw
    rw [heq] at hmem
    exact (List.nodup_cons.mp h.2).1 hmem
  rw [get_drop, if_neg hne]
  exact h.tail.1 w hw

theorem len_drop (h : r.Lists (v :: l)) : (r.drop (key v)).len = r.len - 1 := by
  have hlen := len_drop_of_get (h.1 v List.mem_cons_self)
  omega

end Lists

end Keyed

end Library
