import Starry.Library.Table

/-!
# Paired tables

Two tables that hold one entry each for the same things. A limited insertion into both evicts the
two entries of one thing, as long as they agree on the keys that are compared and no two entries
share the largest.
-/

namespace Library

variable {K V L W : Type} [DecidableEq K] [DecidableEq L]

/-- `link v` is the key, in the second table, of what `v` stands for in the first. -/
structure Paired (link : V → L) (R : K → V → W → Prop) (m : Table K V) (n : Table L W) :
    Prop where
  forth : ∀ k v, m.get k = some v → ∃ w, n.get (link v) = some w ∧ R k v w
  back : ∀ l w, n.get l = some w → ∃ k v, m.get k = some v ∧ link v = l
  inj : ∀ k k' v v', m.get k = some v → m.get k' = some v' → link v = link v' → k = k'

/-- At most one entry has the largest key. -/
def Table.soleMax {β : Type} [LinearOrder β] (key : V → β) (m : Table K V) : Bool :=
  decide ((m.entries.filter fun e => m.entries.all fun e' => decide (key e'.2 ≤ key e.2)).length ≤ 1)

theorem Table.soleMax_unique {β : Type} [LinearOrder β] {key : V → β} {m : Table K V} {k k' : K}
    {v v' : V} (h : m.soleMax key = true) (hk : m.get k = some v) (hk' : m.get k' = some v')
    (hmax : ∀ j u, m.get j = some u → key u ≤ key v)
    (hmax' : ∀ j u, m.get j = some u → key u ≤ key v') : k = k' := by
  have hmem : ∀ (j : K) (u : V), m.get j = some u → (∀ i x, m.get i = some x → key x ≤ key u) →
      (⟨j, u⟩ : (_ : K) × V) ∈ m.entries.filter
        fun e => m.entries.all fun e' => decide (key e'.2 ≤ key e.2) := by
    intro j u hj hu
    rw [List.mem_filter, List.all_eq_true]
    refine ⟨mem_entries.mpr hj, ?_⟩
    rintro ⟨i, x⟩ hx
    exact decide_eq_true (hu i x (mem_entries.mp hx))
  have h1 := hmem k v hk hmax
  have h2 := hmem k' v' hk' hmax'
  rw [soleMax, decide_eq_true_eq] at h
  generalize m.entries.filter _ = l at h h1 h2
  obtain _ | ⟨e, _ | ⟨e', l⟩⟩ := l
  · cases h1
  · cases (List.mem_singleton.mp h1).trans (List.mem_singleton.mp h2).symm
    rfl
  · simp only [List.length_cons] at h
    omega

namespace Paired

variable {link : V → L} {R : K → V → W → Prop} {m : Table K V} {n : Table L W} {k : K} {v : V}
  {w : W}

theorem empty (link : V → L) (R : K → V → W → Prop) :
    Paired link R (Table.empty : Table K V) (Table.empty : Table L W) := by
  refine ⟨?_, ?_, ?_⟩ <;> simp

theorem mono {R' : K → V → W → Prop} (h : Paired link R m n)
    (hsub : ∀ k v w, R k v w → R' k v w) : Paired link R' m n := by
  refine ⟨fun k v hk => ?_, h.back, h.inj⟩
  obtain ⟨w, hw, hr⟩ := h.forth k v hk
  exact ⟨w, hw, hsub k v w hr⟩

theorem len_eq (h : Paired link R m n) : m.len = n.len := by
  have hnodup : (m.entries.map fun e => link e.2).Nodup := by
    refine List.Nodup.map_on ?_ m.nodupKeys.nodup
    rintro ⟨k, v⟩ hk ⟨k', v'⟩ hk' he
    rw [Table.mem_entries] at hk hk'
    obtain rfl := h.inj k k' v v' hk hk' he
    rw [hk] at hk'
    cases hk'
    rfl
  have hperm : (m.entries.map fun e => link e.2).Perm n.keys := by
    rw [List.perm_ext_iff_of_nodup hnodup (AList.keys_nodup n)]
    intro l
    rw [List.mem_map, ← not_iff_not, ← Table.get_eq_none]
    constructor
    · intro hl
      cases hw : n.get l with
      | none => rfl
      | some w =>
        obtain ⟨k, v, hk, rfl⟩ := h.back l w hw
        exact absurd ⟨⟨k, v⟩, Table.mem_entries.mpr hk, rfl⟩ hl
    · rintro hl ⟨⟨k, v⟩, hk, rfl⟩
      obtain ⟨w, hw, -⟩ := h.forth k v (Table.mem_entries.mp hk)
      rw [hl] at hw
      cases hw
  rw [Table.len, Table.len_eq_keys, ← hperm.length_eq, List.length_map]

/-- Both tables keep, or drop, the entries of one thing. -/
theorem retain (h : Paired link R m n) {p : K → V → Bool} {p' : L → W → Bool}
    (hp : ∀ k v w, R k v w → p k v = p' (link v) w) : Paired link R (m.retain p) (n.retain p') := by
  have hget : ∀ {k : K} {v : V}, (m.retain p).get k = some v → m.get k = some v ∧ p k v = true := by
    intro k v hk
    rwa [Table.get_retain, Option.filter_eq_some_iff] at hk
  refine ⟨fun k v hk => ?_, fun l w hw => ?_, fun k k' v v' hk hk' => ?_⟩
  · obtain ⟨hk, hpk⟩ := hget hk
    obtain ⟨w, hw, hr⟩ := h.forth k v hk
    refine ⟨w, ?_, hr⟩
    rw [Table.get_retain, Option.filter_eq_some_iff]
    exact ⟨hw, hp k v w hr ▸ hpk⟩
  · rw [Table.get_retain, Option.filter_eq_some_iff] at hw
    obtain ⟨hw, hpw⟩ := hw
    obtain ⟨k, v, hk, rfl⟩ := h.back l w hw
    obtain ⟨w', hw', hr⟩ := h.forth k v hk
    rw [hw] at hw'
    cases hw'
    refine ⟨k, v, ?_, rfl⟩
    rw [Table.get_retain, Option.filter_eq_some_iff]
    exact ⟨hk, (hp k v w hr).trans hpw⟩
  · exact h.inj k k' v v' (hget hk).1 (hget hk').1

theorem insert (h : Paired link R m n) (hk : m.get k = none) (hl : n.get (link v) = none)
    (hr : R k v w) : Paired link R (m.insert k v) (n.insert (link v) w) := by
  have hlink : ∀ {j : K} {u : V}, m.get j = some u → link u ≠ link v := by
    intro j u hj he
    obtain ⟨x, hx, -⟩ := h.forth j u hj
    rw [he, hl] at hx
    cases hx
  refine ⟨fun j u hj => ?_, fun l x hx => ?_, fun j j' u u' hj hj' he => ?_⟩
  · rw [Table.get_insert] at hj
    split at hj
    · rename_i hjk
      cases hj
      subst hjk
      exact ⟨w, by simp, hr⟩
    · obtain ⟨x, hx, hrx⟩ := h.forth j u hj
      exact ⟨x, by rw [Table.get_insert, if_neg (hlink hj), hx], hrx⟩
  · rw [Table.get_insert] at hx
    split at hx
    · rename_i hlv
      exact ⟨k, v, by simp, hlv.symm⟩
    · obtain ⟨j, u, hj, rfl⟩ := h.back l x hx
      refine ⟨j, u, ?_, rfl⟩
      rw [Table.get_insert, if_neg, hj]
      rintro rfl
      rw [hk] at hj
      cases hj
  · rw [Table.get_insert] at hj hj'
    split at hj <;> split at hj'
    · rename_i hjk hjk'
      exact hjk.trans hjk'.symm
    · cases hj
      exact absurd he.symm (hlink hj')
    · cases hj'
      exact absurd he (hlink hj)
    · exact h.inj j j' u u' hj hj' he

theorem remove (h : Paired link R m n) (hk : m.get k = some v) :
    Paired link R (m.remove k) (n.remove (link v)) := by
  have hget : ∀ {j : K} {u : V}, (m.remove k).get j = some u → j ≠ k ∧ m.get j = some u := by
    intro j u hj
    rw [Table.get_remove] at hj
    split at hj
    · cases hj
    · exact ⟨‹_›, hj⟩
  refine ⟨fun j u hj => ?_, fun l x hx => ?_, fun j j' u u' hj hj' => ?_⟩
  · obtain ⟨hne, hj⟩ := hget hj
    obtain ⟨x, hx, hrx⟩ := h.forth j u hj
    refine ⟨x, ?_, hrx⟩
    rw [Table.get_remove, if_neg, hx]
    exact fun he => hne (h.inj j k u v hj hk he)
  · rw [Table.get_remove] at hx
    split at hx
    · cases hx
    · rename_i hlv
      obtain ⟨j, u, hj, rfl⟩ := h.back l x hx
      refine ⟨j, u, ?_, rfl⟩
      rw [Table.get_remove, if_neg, hj]
      rintro rfl
      rw [hk] at hj
      cases hj
      exact hlv rfl
  · exact h.inj j j' u u' (hget hj).2 (hget hj').2

section

variable {β : Type} [LinearOrder β] {key : V → β} {key' : W → β} {ord : HashOrder}

theorem removeMax (h : Paired link R m n) (hkey : ∀ k v w, R k v w → key v = key' w)
    (hsole : m.soleMax key = true) :
    Paired link R (m.removeMax ord key) (n.removeMax ord key') := by
  rcases Table.removeMax_cases ord key' n with ⟨h0, he⟩ | ⟨l, w, hw, hmax, he⟩
  · rcases Table.removeMax_cases ord key m with ⟨-, he'⟩ | ⟨k, v, hk, -, -⟩
    · rw [he, he']
      exact h
    · have := Table.len_remove_of_some hk
      rw [h.len_eq, h0] at this
      omega
  · obtain ⟨k, v, hk, rfl⟩ := h.back l w hw
    -- The partner of what goes from the second table has the largest key of the first.
    have hmax' : ∀ j u, m.get j = some u → key u ≤ key v := by
      intro j u hj
      obtain ⟨x, hx, hrx⟩ := h.forth j u hj
      obtain ⟨w', hw', hrw⟩ := h.forth k v hk
      rw [hw] at hw'
      cases hw'
      rw [hkey j u x hrx, hkey k v w hrw]
      exact hmax _ x hx
    rcases Table.removeMax_cases ord key m with ⟨h0, -⟩ | ⟨k', v', hk', hmax'', he'⟩
    · have := Table.len_remove_of_some hk
      omega
    · obtain rfl := Table.soleMax_unique hsole hk hk' hmax' hmax''
      rw [he, he']
      exact h.remove hk

/-- Limited insertions keep two tables paired if there is room, or one entry alone is to go. -/
theorem insertLimited (h : Paired link R m n) (hkey : ∀ k v w, R k v w → key v = key' w)
    {limit : Nat} (hk : m.get k = none) (hl : n.get (link v) = none) (hr : R k v w)
    (hroom : m.len < limit ∨ m.soleMax key = true) :
    Paired link R (m.insertLimited ord key limit k v)
      (n.insertLimited ord key' limit (link v) w) := by
  unfold Table.insertLimited
  rw [hk, hl, ← h.len_eq]
  simp only [Option.isNone_none, Bool.true_and, decide_eq_true_eq]
  split
  · rename_i hfull
    have hsole := hroom.resolve_left (by omega)
    refine (h.removeMax hkey hsole).insert ?_ ?_ hr
    · by_contra hne
      obtain ⟨x, hx⟩ := Option.ne_none_iff_exists'.mp hne
      rw [Table.get_of_removeMax hx] at hk
      cases hk
    · by_contra hne
      obtain ⟨x, hx⟩ := Option.ne_none_iff_exists'.mp hne
      rw [Table.get_of_removeMax hx] at hl
      cases hl
  · exact h.insert hk hl hr

end

end Paired

end Library
