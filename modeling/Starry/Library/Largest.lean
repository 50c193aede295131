import Mathlib

/-!
# The first and the last of the largest

Items of a list have a size or do not count. Among the largest ones that count, a search that keeps
the best so far ends at the first one if only a larger item takes its place.
-/

namespace Library.Largest

variable {α β : Type} {size : α → Option Nat} {value : α → β} {l : List α} {a b : α} {k n : Nat}

/-- No item that counts is larger than this one, and none of its size comes before it. -/
def First (size : α → Option Nat) (l : List α) (a : α) : Prop :=
  ∃ i n : Nat, l[i]? = some a ∧ size a = some n ∧
    ∀ (j : Nat) b k, l[j]? = some b → size b = some k → k ≤ n ∧ (k = n → i ≤ j)

/-- No item that counts is larger than this one, and none of its size comes after it. -/
def Last (size : α → Option Nat) (l : List α) (a : α) : Prop :=
  ∃ i n : Nat, l[i]? = some a ∧ size a = some n ∧
    ∀ (j : Nat) b k, l[j]? = some b → size b = some k → k ≤ n ∧ (k = n → j ≤ i)

theorem First.mem (h : First size l a) : a ∈ l := by
  obtain ⟨i, n, hi, -⟩ := h
  exact List.mem_of_getElem? hi

theorem First.unique (ha : First size l a) (hb : First size l b) : a = b := by
  obtain ⟨i, n, hi, hn, hai⟩ := ha
  obtain ⟨j, k, hj, hk, hbj⟩ := hb
  obtain ⟨hle, hij⟩ := hai j b k hj hk
  obtain ⟨hge, hji⟩ := hbj i a n hi hn
  have hk : k = n := by omega
  have hsame : i = j := by
    have h1 := hij hk
    have h2 := hji hk.symm
    omega
  rw [hsame, hj] at hi
  exact (Option.some.inj hi).symm

/-- The first of the largest depends on the sizes through their order only. -/
theorem First.of_order {size' : α → Option Nat} (h : First size l a)
    (hsome : ∀ b ∈ l, (size b).isSome = (size' b).isSome)
    (horder : ∀ b ∈ l, ∀ c ∈ l, ∀ k n k' n', size b = some k → size c = some n →
      size' b = some k' → size' c = some n' → (k ≤ n ↔ k' ≤ n')) : First size' l a := by
  obtain ⟨i, n, hi, hn, hall⟩ := h
  have ha := List.mem_of_getElem? hi
  obtain ⟨n', hn'⟩ : ∃ n', size' a = some n' := by
    rw [← Option.isSome_iff_exists, ← hsome a ha, hn]
    rfl
  refine ⟨i, n', hi, hn', ?_⟩
  intro j b k' hj hk'
  have hb := List.mem_of_getElem? hj
  obtain ⟨k, hk⟩ : ∃ k, size b = some k := by
    rw [← Option.isSome_iff_exists, hsome b hb, hk']
    rfl
  obtain ⟨hle, hfirst⟩ := hall j b k hj hk
  have hup := horder b hb a ha k n k' n' hk hn hk' hn'
  have hdown := horder a ha b hb n k n' k' hn hk hn' hk'
  exact ⟨hup.mp hle, fun hsame => hfirst (by omega)⟩

/-! ## A search that keeps the best so far -/

/-- Only a larger item takes the place of the best one. -/
def pick (size : α → Option Nat) (value : α → β) (best : Option (Nat × β)) (a : α) :
    Option (Nat × β) :=
  match size a with
  | none => best
  | some n => if best.all fun found => found.1 < n then some (n, value a) else best

/-- The best so far is the first of the largest items looked at. -/
def Found (size : α → Option Nat) (value : α → β) (l : List α) (best : Option (Nat × β)) : Prop :=
  match best with
  | none => ∀ a ∈ l, size a = none
  | some (n, v) => ∃ a, First size l a ∧ size a = some n ∧ value a = v

theorem First.append (h : First size l a) (hn : size a = some n)
    (hb : ∀ k, size b = some k → k ≤ n) : First size (l ++ [b]) a := by
  obtain ⟨i, n', hi, hn', hall⟩ := h
  cases hn.symm.trans hn'
  have hlt := (List.getElem?_eq_some_iff.mp hi).1
  refine ⟨i, n, by rw [List.getElem?_append_left hlt, hi], hn, ?_⟩
  intro j c k hj hk
  by_cases hjl : j < l.length
  · rw [List.getElem?_append_left hjl] at hj
    exact hall j c k hj hk
  · have hc : c = b := by
      rw [List.getElem?_append_right (by omega)] at hj
      exact List.mem_singleton.mp (List.mem_of_getElem? hj)
    subst hc
    exact ⟨hb k hk, fun _ => by omega⟩

theorem first_append_new (hn : size b = some n)
    (hl : ∀ a ∈ l, ∀ k, size a = some k → k < n) : First size (l ++ [b]) b := by
  refine ⟨l.length, n, by simp, hn, ?_⟩
  intro j c k hj hk
  by_cases hjl : j < l.length
  · rw [List.getElem?_append_left hjl] at hj
    have hlt := hl c (List.mem_of_getElem? hj) k hk
    exact ⟨by omega, fun hsame => by omega⟩
  · have hc : c = b := by
      rw [List.getElem?_append_right (by omega)] at hj
      exact List.mem_singleton.mp (List.mem_of_getElem? hj)
    subst hc
    cases hn.symm.trans hk
    exact ⟨le_refl _, fun _ => by omega⟩

/-- The step lemma: one more item. -/
theorem pick_found {best : Option (Nat × β)} (h : Found size value l best) :
    Found size value (l ++ [b]) (pick size value best b) := by
  unfold pick
  cases hb : size b with
  | none =>
    cases best with
    | none =>
      intro a ha
      rcases List.mem_append.mp ha with ha | ha
      · exact h a ha
      · rw [List.mem_singleton.mp ha, hb]
    | some found =>
      obtain ⟨a, hfirst, hn, hv⟩ := h
      exact ⟨a, hfirst.append hn (by simp [hb]), hn, hv⟩
  | some n =>
    cases best with
    | none =>
      refine ⟨b, first_append_new hb ?_, hb, rfl⟩
      intro a ha k hk
      rw [h a ha] at hk
      cases hk
    | some found =>
      obtain ⟨a, hfirst, hk, hv⟩ := h
      by_cases hlt : found.1 < n
      · simp only [Option.all_some, decide_eq_true hlt, if_true]
        refine ⟨b, first_append_new hb ?_, hb, rfl⟩
        intro c hc m hm
        obtain ⟨i, k', -, hk', hall⟩ := hfirst
        cases hk.symm.trans hk'
        obtain ⟨j, hj⟩ := List.getElem?_of_mem hc
        have hle := (hall j c m hj hm).1
        omega
      · simp only [Option.all_some, decide_eq_false hlt]
        exact ⟨a, hfirst.append hk (by rintro m hm; cases hb.symm.trans hm; omega), hk, hv⟩

theorem foldl_pick_found : Found size value l (l.foldl (pick size value) none) := by
  induction l using List.reverseRecOn with
  | nil =>
    intro a ha
    cases ha
  | append_singleton l b ih =>
    rw [List.foldl_append]
    exact pick_found ih

/-- What the search ends at. -/
theorem foldl_pick_eq_some {v : β} :
    ((l.foldl (pick size value) none).map fun best => best.2) = some v ↔
      ∃ a, First size l a ∧ value a = v := by
  have hfound : Found size value l (l.foldl (pick size value) none) := foldl_pick_found
  generalize l.foldl (pick size value) none = best at hfound
  cases best with
  | none =>
    refine ⟨nofun, ?_⟩
    rintro ⟨a, ha, -⟩
    obtain ⟨i, n, hi, hn, -⟩ := ha
    rw [hfound a (List.mem_of_getElem? hi)] at hn
    cases hn
  | some found =>
    obtain ⟨a, ha, -, hv⟩ := hfound
    constructor
    · rintro ⟨⟩
      exact ⟨a, ha, hv⟩
    · rintro ⟨b, hb, rfl⟩
      rw [Option.map_some, ← hv, ha.unique hb]

/-! ## Existence -/

theorem exists_first (hb : b ∈ l) (hn : size b = some n) : ∃ a, First size l a := by
  have hfound : Found size id l (l.foldl (pick size id) none) := foldl_pick_found
  cases hbest : l.foldl (pick size id) none with
  | none =>
    rw [hbest] at hfound
    rw [hfound b hb] at hn
    cases hn
  | some found =>
    rw [hbest] at hfound
    obtain ⟨a, ha, -⟩ := hfound
    exact ⟨a, ha⟩

theorem Last.of_reverse (h : First size l.reverse a) : Last size l a := by
  obtain ⟨i, n, hi, hn, hall⟩ := h
  have hlt : i < l.length := by
    have h := (List.getElem?_eq_some_iff.mp hi).1
    rwa [List.length_reverse] at h
  refine ⟨l.length - 1 - i, n, by rwa [← List.getElem?_reverse hlt], hn, ?_⟩
  intro j b k hj hk
  have hjl := (List.getElem?_eq_some_iff.mp hj).1
  have hback : l.reverse[l.length - 1 - j]? = some b := by
    rw [List.getElem?_reverse (by omega), ← hj]
    congr 1
    omega
  obtain ⟨hle, hfirst⟩ := hall _ b k hback hk
  exact ⟨hle, fun hsame => by have h := hfirst hsame; omega⟩

theorem exists_last (hb : b ∈ l) (hn : size b = some n) : ∃ a, Last size l a := by
  obtain ⟨a, ha⟩ := exists_first (List.mem_reverse.mpr hb) hn
  exact ⟨a, Last.of_reverse ha⟩

theorem exists_last_iff : (∃ a, Last size l a) ↔ ∃ a, First size l a := by
  constructor
  · rintro ⟨a, i, n, hi, hn, -⟩
    exact exists_first (List.mem_of_getElem? hi) hn
  · rintro ⟨a, i, n, hi, hn, -⟩
    exact exists_last (List.mem_of_getElem? hi) hn

end Library.Largest
