import Starry.ConfigStore.Records

/-!
# JSON values as `serde_json` keeps them

A map of `serde_json` is ordered by its keys, so two values are equal just when they are written the
same. A location is reached by the tokens of a pointer: a key in an object, an index in an array.
-/

namespace Starry.ConfigStore.Value

/-! ## Equality -/

mutual

def beq : Value → Value → Bool
  | .null, .null => true
  | .bool a, .bool b => a == b
  | .uint a, .uint b => a == b
  | .number a, .number b => a == b
  | .string a, .string b => a == b
  | .array xs, .array ys => beqItems xs ys
  | .object xs, .object ys => beqFields xs ys
  | _, _ => false

def beqItems : List Value → List Value → Bool
  | [], [] => true
  | x :: xs, y :: ys => beq x y && beqItems xs ys
  | _, _ => false

def beqFields : List (String × Value) → List (String × Value) → Bool
  | [], [] => true
  | (key, x) :: xs, (key', y) :: ys => key == key' && beq x y && beqFields xs ys
  | _, _ => false

end

mutual

theorem beq_iff (x y : Value) : beq x y = true ↔ x = y := by
  cases x with
  | array xs => cases y <;> simp [beq, beqItems_iff]
  | object xs => cases y <;> simp [beq, beqFields_iff]
  | _ => cases y <;> simp [beq]

theorem beqItems_iff (xs ys : List Value) : beqItems xs ys = true ↔ xs = ys := by
  cases xs with
  | nil => cases ys <;> simp [beqItems]
  | cons x xs =>
    cases ys with
    | nil => simp [beqItems]
    | cons y ys => simp [beqItems, beq_iff x y, beqItems_iff xs ys]

theorem beqFields_iff (xs ys : List (String × Value)) : beqFields xs ys = true ↔ xs = ys := by
  cases xs with
  | nil => cases ys <;> simp [beqFields]
  | cons x xs =>
    cases ys with
    | nil => simp [beqFields]
    | cons y ys =>
      obtain ⟨key, x⟩ := x
      simp [beqFields, beq_iff x y.2, beqFields_iff xs ys, Prod.ext_iff]

end

instance : DecidableEq Value := fun x y => decidable_of_iff _ (beq_iff x y)

/-! ## Ordered maps -/

mutual

/-- The keys of every object are in order. -/
def Sorted : Value → Prop
  | .array items => SortedItems items
  | .object fields => (fields.map Prod.fst).Pairwise (· < ·) ∧ SortedFields fields
  | _ => True

def SortedItems : List Value → Prop
  | [] => True
  | item :: items => item.Sorted ∧ SortedItems items

def SortedFields : List (String × Value) → Prop
  | [] => True
  | (_, value) :: fields => value.Sorted ∧ SortedFields fields

end

theorem sortedItems_iff {items : List Value} : SortedItems items ↔ ∀ v ∈ items, v.Sorted := by
  induction items with
  | nil => simp [SortedItems]
  | cons item items ih => simp [SortedItems, ih]

theorem sortedFields_iff {fields : List (String × Value)} :
    SortedFields fields ↔ ∀ field ∈ fields, field.2.Sorted := by
  induction fields with
  | nil => simp [SortedFields]
  | cons field fields ih => simp [SortedFields, ih]

theorem mem_of_lookup {fields : List (String × Value)} {key : String} {v : Value}
    (h : fields.lookup key = some v) : (key, v) ∈ fields := by
  obtain ⟨before, after, rfl, -⟩ := List.lookup_eq_some_iff.mp h
  simp

theorem Sorted.lookup {fields : List (String × Value)} (h : (object fields).Sorted) {key : String}
    {v : Value} (hv : fields.lookup key = some v) : v.Sorted := by
  unfold Sorted at h
  exact sortedFields_iff.mp h.2 _ (mem_of_lookup hv)

/-- A key that is below all others is not among them. -/
theorem lookup_eq_none_of_lt {fields : List (String × Value)} {key : String}
    (h : ∀ key' ∈ fields.map Prod.fst, key < key') : fields.lookup key = none := by
  rw [List.lookup_eq_none_iff]
  intro field hfield
  have hlt := h field.1 (List.mem_map_of_mem hfield)
  simpa using (ne_of_lt hlt)

/-- Ordered fields are what the lookups say. -/
theorem fields_ext {xs ys : List (String × Value)} (hxs : (xs.map Prod.fst).Pairwise (· < ·))
    (hys : (ys.map Prod.fst).Pairwise (· < ·)) (h : ∀ key, xs.lookup key = ys.lookup key) :
    xs = ys := by
  induction xs generalizing ys with
  | nil =>
    cases ys with
    | nil => rfl
    | cons y ys =>
      obtain ⟨key, v⟩ := y
      simpa using h key
  | cons x xs ih =>
    cases ys with
    | nil =>
      obtain ⟨key, v⟩ := x
      simpa using h key
    | cons y ys =>
      obtain ⟨key, v⟩ := x
      obtain ⟨key', w⟩ := y
      simp only [List.map_cons, List.pairwise_cons] at hxs hys
      have hxnone := lookup_eq_none_of_lt hxs.1
      have hynone := lookup_eq_none_of_lt hys.1
      have hkey : key = key' := by
        rcases lt_trichotomy key key' with hlt | heq | hgt
        · have hnone : ys.lookup key = none :=
            lookup_eq_none_of_lt fun k hk => hlt.trans (hys.1 k hk)
          have hlookup := h key
          simp [List.lookup_cons, hnone, beq_false_of_ne hlt.ne] at hlookup
        · exact heq
        · have hnone : xs.lookup key' = none :=
            lookup_eq_none_of_lt fun k hk => hgt.trans (hxs.1 k hk)
          have hlookup := h key'
          simp [List.lookup_cons, hnone, beq_false_of_ne hgt.ne] at hlookup
      subst hkey
      have hvalue : v = w := by simpa [List.lookup_cons] using h key
      subst hvalue
      have htail : xs = ys := by
        apply ih hxs.2 hys.2
        intro other
        by_cases hother : other = key
        · rw [hother, hxnone, hynone]
        · simpa [List.lookup_cons, beq_false_of_ne hother] using h other
      rw [htail]

theorem object_ext {xs ys : List (String × Value)} (hxs : (object xs).Sorted)
    (hys : (object ys).Sorted) (h : ∀ key, xs.lookup key = ys.lookup key) : xs = ys := by
  unfold Sorted at hxs hys
  exact fields_ext hxs.1 hys.1 h

/-! ## Locations -/

/-- An index without a sign or a leading zero. -/
def arrayIndex (token : String) : Option Nat :=
  (parseUnsigned (2 ^ 64) token).filter fun n => toString n == token

def child (token : String) : Value → Option Value
  | .object fields => fields.lookup token
  | .array items => (arrayIndex token).bind (items[·]?)
  | _ => none

/-- What stands at a location, if anything does. -/
def resolve : List String → Option Value → Option Value
  | [], v => v
  | token :: path, v => resolve path (v.bind (child token))

@[simp] theorem resolve_none (path : List String) : resolve path none = none := by
  induction path with
  | nil => rfl
  | cons token path ih => exact ih

theorem resolve_append (path path' : List String) (v : Option Value) :
    resolve (path ++ path') v = resolve path' (resolve path v) := by
  induction path generalizing v with
  | nil => rfl
  | cons token path ih => exact ih _

def isObject : Option Value → Bool
  | some (.object _) => true
  | _ => false

theorem eq_object_of_isObject {v : Option Value} (h : isObject v = true) :
    ∃ fields, v = some (.object fields) := by
  unfold isObject at h
  split at h
  · exact ⟨_, rfl⟩
  · cases h

end Starry.ConfigStore.Value

namespace Starry.ConfigStore

/-- A value of `serde_json`. -/
abbrev Json : Type := { v : Value // v.Sorted }

end Starry.ConfigStore
