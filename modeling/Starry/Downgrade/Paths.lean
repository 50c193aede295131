import Starry.Downgrade.Export

/-!
# What an edit removes

A path leads through a value by keys and indices. The edits of the export create no path, so what is
gone after several of them is what each of them removes.
-/

namespace Starry.ConfigStore.Value

inductive Token
  | key (k : String)
  | index (i : Nat)
deriving DecidableEq, Repr

def Token.text : Token → String
  | .key k => k
  | .index i => toString i

def step : Token → Value → Option Value
  | .key k, v => v.get k
  | .index i, .array items => items[i]?
  | .index _, _ => none

def follow : List Token → Value → Option Value
  | [], v => some v
  | t :: path, v => (step t v).bind (follow path)

def isScalar : Value → Bool
  | .array _ | .object _ => false
  | _ => true

/-- A path that leads somewhere in the first value and nowhere in the second. -/
def Lost (v v' : Value) (path : List Token) : Prop :=
  (follow path v).isSome ∧ follow path v' = none

/-- An edit that creates no path. -/
def Prunes (f : Value → Value) : Prop :=
  ∀ v path, follow path v = none → follow path (f v) = none

variable {f g : Value → Value} {v : Value} {path : List Token} {key : String}

theorem follow_key (k : String) (path : List Token) (v : Value) :
    follow (.key k :: path) v = (v.get k).bind (follow path) := rfl

theorem get_of_scalar (h : v.isScalar = true) (k : String) : v.get k = none := by
  cases v <;> first | rfl | cases h

theorem follow_scalar (h : v.isScalar = true) : (follow path v).isSome ↔ path = [] := by
  cases path with
  | nil => simp [follow]
  | cons t path =>
    have hstep : step t v = none := by
      cases t with
      | key k => exact get_of_scalar h k
      | index i => cases v <;> first | rfl | cases h
    simp [follow, hstep]

theorem step_index_remove (key : String) (v : Value) (i : Nat) :
    step (.index i) (v.remove key) = step (.index i) v := by
  cases v <;> rfl

theorem step_index_modify (key : String) (f : Value → Value) (v : Value) (i : Nat) :
    step (.index i) (v.modify key f) = step (.index i) v := by
  cases v <;> rfl

theorem get_mapItems (f : Value → Value) (v : Value) (k : String) :
    (v.mapItems f).get k = v.get k := by
  cases v <;> rfl

theorem step_index_mapItems (f : Value → Value) (v : Value) (i : Nat) :
    step (.index i) (v.mapItems f) = (step (.index i) v).map f := by
  cases v <;> simp [mapItems, step]

theorem modify_modify (key : String) (f g : Value → Value) (v : Value) :
    (v.modify key f).modify key g = v.modify key fun x => g (f x) := by
  cases v with
  | object fields =>
    simp only [modify, List.map_map, object.injEq]
    refine List.map_congr_left fun field _ => ?_
    by_cases hkey : field.1 = key <;> simp [hkey]
  | _ => rfl

/-! ## Each edit -/

theorem lost_self : ¬ Lost v v path := by
  rintro ⟨hsome, hnone⟩
  rw [hnone] at hsome
  cases hsome

theorem lost_remove : Lost v (v.remove key) path ↔
    ∃ rest x, path = .key key :: rest ∧ v.get key = some x ∧ (follow rest x).isSome := by
  constructor
  · rintro ⟨hsome, hnone⟩
    cases path with
    | nil => cases hnone
    | cons t path =>
      cases t with
      | index i =>
        rw [follow, step_index_remove] at hnone
        exact absurd ⟨hsome, hnone⟩ lost_self
      | key k =>
        rw [follow_key, get_remove] at hnone
        rw [follow_key] at hsome
        split at hnone
        · rename_i hk
          subst hk
          obtain ⟨y, hy⟩ := Option.isSome_iff_exists.mp hsome
          obtain ⟨x, hx, hy⟩ := Option.bind_eq_some_iff.mp hy
          exact ⟨path, x, rfl, hx, Option.isSome_iff_exists.mpr ⟨y, hy⟩⟩
        · rw [hnone] at hsome
          cases hsome
  · rintro ⟨rest, x, rfl, hx, hrest⟩
    refine ⟨?_, ?_⟩
    · rw [follow_key, hx]
      exact hrest
    · rw [follow_key, get_remove, if_pos rfl]
      rfl

theorem lost_modify : Lost v (v.modify key f) path ↔
    ∃ rest x, path = .key key :: rest ∧ v.get key = some x ∧ Lost x (f x) rest := by
  constructor
  · rintro ⟨hsome, hnone⟩
    cases path with
    | nil => cases hnone
    | cons t path =>
      cases t with
      | index i =>
        rw [follow, step_index_modify] at hnone
        exact absurd ⟨hsome, hnone⟩ lost_self
      | key k =>
        rw [follow_key, get_modify] at hnone
        rw [follow_key] at hsome
        split at hnone
        · rename_i hk
          subst hk
          obtain ⟨y, hy⟩ := Option.isSome_iff_exists.mp hsome
          obtain ⟨x, hx, hy⟩ := Option.bind_eq_some_iff.mp hy
          rw [hx] at hnone
          exact ⟨path, x, rfl, hx, Option.isSome_iff_exists.mpr ⟨y, hy⟩, hnone⟩
        · rw [hnone] at hsome
          cases hsome
  · rintro ⟨rest, x, rfl, hx, hsome, hnone⟩
    refine ⟨?_, ?_⟩
    · rw [follow_key, hx]
      exact hsome
    · rw [follow_key, get_modify, if_pos rfl, hx]
      exact hnone

theorem lost_mapItems : Lost v (v.mapItems f) path ↔
    ∃ i rest x, path = .index i :: rest ∧ step (.index i) v = some x ∧ Lost x (f x) rest := by
  constructor
  · rintro ⟨hsome, hnone⟩
    cases path with
    | nil => cases hnone
    | cons t path =>
      cases t with
      | key k =>
        rw [follow_key, get_mapItems] at hnone
        exact absurd ⟨hsome, hnone⟩ lost_self
      | index i =>
        rw [follow, step_index_mapItems] at hnone
        rw [follow] at hsome
        obtain ⟨y, hy⟩ := Option.isSome_iff_exists.mp hsome
        obtain ⟨x, hx, hy⟩ := Option.bind_eq_some_iff.mp hy
        rw [hx] at hnone
        exact ⟨i, path, x, rfl, hx, Option.isSome_iff_exists.mpr ⟨y, hy⟩, hnone⟩
  · rintro ⟨i, rest, x, rfl, hx, hsome, hnone⟩
    refine ⟨?_, ?_⟩
    · rw [follow, hx]
      exact hsome
    · rw [follow, step_index_mapItems, hx]
      exact hnone

/-- An edit through a pointer removes below the pointer. -/
theorem lost_edit (keys : List String) : Lost v (v.edit keys f) path ↔
    ∃ rest x, path = keys.map Token.key ++ rest ∧ v.pointer keys = some x ∧ Lost x (f x) rest := by
  induction keys generalizing v path with
  | nil => simp [edit, pointer]
  | cons key keys ih =>
    rw [edit, lost_modify]
    constructor
    · rintro ⟨rest, x, rfl, hx, hlost⟩
      obtain ⟨rest, y, rfl, hy, hlost⟩ := ih.mp hlost
      exact ⟨rest, y, rfl, by rw [pointer, hx]; exact hy, hlost⟩
    · rintro ⟨rest, y, rfl, hy, hlost⟩
      obtain ⟨x, hx, hy⟩ := Option.bind_eq_some_iff.mp hy
      exact ⟨_, x, rfl, hx, ih.mpr ⟨rest, y, rfl, hy, hlost⟩⟩

/-! ## Edits in a row -/

theorem Prunes.remove (key : String) : Prunes (remove key) := by
  intro v path hnone
  cases path with
  | nil => cases hnone
  | cons t path =>
    cases t with
    | index i =>
      rw [follow, step_index_remove]
      exact hnone
    | key k =>
      rw [follow_key, get_remove]
      split
      · rfl
      · exact hnone

theorem Prunes.modify (hf : Prunes f) (key : String) : Prunes (modify key f) := by
  intro v path hnone
  cases path with
  | nil => cases hnone
  | cons t path =>
    cases t with
    | index i =>
      rw [follow, step_index_modify]
      exact hnone
    | key k =>
      rw [follow_key] at hnone
      rw [follow_key, get_modify]
      split
      · rename_i hk
        subst hk
        cases hx : v.get k with
        | none => rfl
        | some x =>
          rw [hx] at hnone
          exact hf x path hnone
      · exact hnone

theorem Prunes.mapItems (hf : Prunes f) : Prunes (mapItems f) := by
  intro v path hnone
  cases path with
  | nil => cases hnone
  | cons t path =>
    cases t with
    | key k =>
      rw [follow_key, get_mapItems]
      exact hnone
    | index i =>
      rw [follow] at hnone
      rw [follow, step_index_mapItems]
      cases hx : step (.index i) v with
      | none => rfl
      | some x =>
        rw [hx] at hnone
        exact hf x path hnone

theorem Prunes.edit (hf : Prunes f) (keys : List String) : Prunes (edit keys f) := by
  induction keys with
  | nil => exact hf
  | cons key keys ih => exact ih.modify key

theorem lost_comp {v₁ v₂ : Value} (h₁ : ∀ p, follow p v = none → follow p v₁ = none)
    (h₂ : ∀ p, follow p v₁ = none → follow p v₂ = none) :
    Lost v v₂ path ↔ Lost v v₁ path ∨ Lost v₁ v₂ path := by
  constructor
  · rintro ⟨hsome, hnone⟩
    cases hmid : follow path v₁ with
    | none => exact .inl ⟨hsome, hmid⟩
    | some x => exact .inr ⟨by rw [hmid]; rfl, hnone⟩
  · rintro (⟨hsome, hnone⟩ | ⟨hsome, hnone⟩)
    · exact ⟨hsome, h₂ path hnone⟩
    · refine ⟨?_, hnone⟩
      rw [Option.isSome_iff_ne_none] at hsome ⊢
      exact fun hv => hsome (h₁ path hv)

/-! ## Pointers after an edit -/

theorem pointer_edit_self (keys : List String) (f : Value → Value) (v : Value) :
    (v.edit keys f).pointer keys = (v.pointer keys).map f := by
  induction keys generalizing v with
  | nil => rfl
  | cons key keys ih =>
    rw [edit, pointer, pointer, get_modify, if_pos rfl]
    cases v.get key with
    | none => rfl
    | some x => exact ih x

theorem get_edit_ne {key key' : String} (hne : key' ≠ key) (keys : List String)
    (f : Value → Value) (v : Value) : (v.edit (key :: keys) f).get key' = v.get key' := by
  rw [edit, get_modify, if_neg hne]

end Starry.ConfigStore.Value
