import Mathlib

/-!
# Splitting a text

Words between separators, the two sides of the first occurrence of a pattern, and the lines of a
text.
-/

namespace Library.Words

variable {α : Type}

/-! ## Words -/

/-- The words between separators, where `current` is the beginning of the first one, in reverse. -/
def wordsFrom (sep : α → Bool) (current : List α) : List α → List (List α)
  | [] => if current.isEmpty then [] else [current.reverse]
  | c :: text =>
    if sep c then
      if current.isEmpty then wordsFrom sep [] text
      else current.reverse :: wordsFrom sep [] text
    else wordsFrom sep (c :: current) text

def words (sep : α → Bool) (text : List α) : List (List α) := wordsFrom sep [] text

section Words

variable {sep : α → Bool} {word text current : List α} {s : α}

theorem wordsFrom_append (hword : ∀ c ∈ word, sep c = false) :
    wordsFrom sep current (word ++ text) = wordsFrom sep (word.reverse ++ current) text := by
  induction word generalizing current with
  | nil => rfl
  | cons c word ih =>
    rw [List.cons_append, wordsFrom, hword c List.mem_cons_self, if_neg (by decide),
      ih fun d hd => hword d (List.mem_cons_of_mem _ hd)]
    simp

/-- A word and what follows its separator. -/
theorem words_cons (hne : word ≠ []) (hword : ∀ c ∈ word, sep c = false) (hs : sep s = true) :
    words sep (word ++ s :: text) = word :: words sep text := by
  unfold words
  rw [wordsFrom_append hword, List.append_nil, wordsFrom, if_pos hs, if_neg (by simpa using hne),
    List.reverse_reverse]

/-- The first of the words between single separators. -/
theorem words_intercalate {v : List α} {l : List (List α)} (hne : word ≠ [])
    (hword : ∀ c ∈ word, sep c = false) (hs : sep s = true) :
    words sep ([s].intercalate (word :: v :: l)) =
      word :: words sep ([s].intercalate (v :: l)) := by
  rw [List.intercalate_cons_cons, List.append_assoc, List.singleton_append,
    words_cons hne hword hs]

theorem not_mem_intercalate {c : α} {l : List (List α)} (hne : c ≠ s) (hl : ∀ w ∈ l, c ∉ w) :
    c ∉ [s].intercalate l := by
  induction l with
  | nil => exact List.not_mem_nil
  | cons w l ih =>
    have hw := hl w List.mem_cons_self
    cases l with
    | nil => rwa [List.intercalate_singleton]
    | cons v l =>
      have hrest := ih fun u hu => hl u (List.mem_cons_of_mem _ hu)
      rw [List.intercalate_cons_cons]
      simp [hw, hne, hrest]

end Words

/-! ## The two sides of a pattern -/

def splitOnce [DecidableEq α] (pattern : List α) : List α → Option (List α × List α)
  | [] => if pattern.isEmpty then some ([], []) else none
  | c :: text =>
    if pattern.isPrefixOf (c :: text) then some ([], (c :: text).drop pattern.length)
    else (splitOnce pattern text).map fun sides => (c :: sides.1, sides.2)

section SplitOnce

variable [DecidableEq α] {word text rest : List α} {s d : α}

/-- A word without the first letter of the pattern is passed over. -/
theorem splitOnce_word {pattern : List α} (hword : s ∉ word) :
    splitOnce (s :: pattern) (word ++ text) =
      (splitOnce (s :: pattern) text).map fun sides => (word ++ sides.1, sides.2) := by
  induction word with
  | nil => rw [List.nil_append]; simp
  | cons c word ih =>
    rw [List.mem_cons, not_or] at hword
    have hno : (s :: pattern).isPrefixOf (c :: (word ++ text)) = false := by
      rw [List.isPrefixOf, beq_eq_false_iff_ne.mpr hword.1, Bool.false_and]
    rw [List.cons_append, splitOnce, if_neg (by simp [hno]), ih hword.2, Option.map_map]
    rfl

theorem splitOnce_here {pattern : List α} :
    splitOnce (s :: pattern) ((s :: pattern) ++ text) = some ([], text) := by
  have hyes : (s :: pattern).isPrefixOf (s :: (pattern ++ text)) = true :=
    List.isPrefixOf_iff_prefix.mpr (List.prefix_append (s :: pattern) text)
  rw [List.cons_append, splitOnce, if_pos hyes]
  simp

theorem not_isPrefixOf_word (hne : word ≠ []) (hword : s ∉ word) (hmark : word ≠ [d]) :
    [d, s].isPrefixOf (word ++ text) = false := by
  cases word with
  | nil => exact absurd rfl hne
  | cons c word =>
    cases word with
    | nil =>
      have hc : d ≠ c := by
        rintro rfl
        exact hmark rfl
      rw [List.cons_append, List.isPrefixOf, beq_eq_false_iff_ne.mpr hc, Bool.false_and]
    | cons e word =>
      have he : s ≠ e := by
        rintro rfl
        exact hword (by simp)
      rw [List.cons_append, List.cons_append, List.isPrefixOf, List.isPrefixOf,
        beq_eq_false_iff_ne.mpr he, Bool.false_and, Bool.and_false]

/-- Words between single separators, none of which is the mark alone. -/
theorem splitOnce_words {l : List (List α)} (hnil : l ≠ [])
    (hl : ∀ w ∈ l, w ≠ [] ∧ s ∉ w ∧ w ≠ [d]) :
    splitOnce [s, d, s] ([s].intercalate l ++ ([s, d, s] ++ rest)) =
      some ([s].intercalate l, rest) := by
  induction l with
  | nil => exact absurd rfl hnil
  | cons w l ih =>
    obtain ⟨-, hw, -⟩ := hl w List.mem_cons_self
    cases l with
    | nil =>
      rw [List.intercalate_singleton, splitOnce_word hw, splitOnce_here]
      simp
    | cons v l =>
      obtain ⟨hne, hv, hmark⟩ := hl v (by simp)
      have hnext := ih (by simp) fun u hu => hl u (List.mem_cons_of_mem _ hu)
      -- The separator after `w` does not begin the mark, as `v` is a word of its own.
      obtain ⟨more, hmore⟩ :
          ∃ more, [s].intercalate (v :: l) ++ ([s, d, s] ++ rest) = v ++ more := by
        cases l with
        | nil => exact ⟨_, by rw [List.intercalate_singleton]⟩
        | cons u l =>
          rw [List.intercalate_cons_cons, List.append_assoc, List.append_assoc]
          exact ⟨_, rfl⟩
      have hno : [s, d, s].isPrefixOf (s :: ([s].intercalate (v :: l) ++ ([s, d, s] ++ rest))) =
          false := by
        rw [hmore, List.isPrefixOf, beq_self_eq_true, Bool.true_and]
        exact not_isPrefixOf_word hne hv hmark
      rw [List.intercalate_cons_cons, List.append_assoc, List.append_assoc, splitOnce_word hw,
        List.singleton_append, splitOnce, if_neg (ne_of_eq_of_ne hno Bool.false_ne_true), hnext]
      simp

end SplitOnce

/-! ## Lines -/

/-- The line that ends at a newline loses a carriage return at its end. -/
def stripReturn [DecidableEq α] (r : α) (line : List α) : List α :=
  if line.getLast? = some r then line.dropLast else line

/-- The lines, where `current` is the beginning of the first one, in reverse. -/
def linesFrom [DecidableEq α] (n r : α) (current : List α) : List α → List (List α)
  | [] => if current.isEmpty then [] else [current.reverse]
  | c :: text =>
    if c = n then stripReturn r current.reverse :: linesFrom n r [] text
    else linesFrom n r (c :: current) text

def lines [DecidableEq α] (n r : α) (text : List α) : List (List α) := linesFrom n r [] text

section Lines

variable [DecidableEq α] {n r : α} {line text current : List α}

theorem linesFrom_append (hline : n ∉ line) :
    linesFrom n r current (line ++ text) = linesFrom n r (line.reverse ++ current) text := by
  induction line generalizing current with
  | nil => rfl
  | cons c line ih =>
    rw [List.mem_cons, not_or] at hline
    rw [List.cons_append, linesFrom, if_neg (Ne.symm hline.1), ih hline.2]
    simp

theorem lines_cons (hline : n ∉ line) :
    lines n r (line ++ n :: text) = stripReturn r line :: lines n r text := by
  unfold lines
  rw [linesFrom_append hline, List.append_nil, linesFrom, if_pos rfl, List.reverse_reverse]

/-- The lines of a text in which each one ends at a newline. -/
theorem lines_flatMap {l : List (List α)} (hl : ∀ line ∈ l, n ∉ line) :
    lines n r (l.flatMap fun line => line ++ [n]) = l.map (stripReturn r) := by
  induction l with
  | nil => rfl
  | cons line l ih =>
    rw [List.flatMap_cons, List.append_assoc, List.singleton_append,
      lines_cons (hl line List.mem_cons_self), ih fun x hx => hl x (List.mem_cons_of_mem _ hx),
      List.map_cons]

theorem stripReturn_append {a b : List α} (hb : b ≠ []) :
    stripReturn r (a ++ b) = a ++ stripReturn r b := by
  have hlast : (a ++ b).getLast? = b.getLast? := by
    rw [List.getLast?_append]
    cases hbl : b.getLast? with
    | none => exact absurd (List.getLast?_eq_none_iff.mp hbl) hb
    | some c => rfl
  unfold stripReturn
  rw [hlast]
  split
  · exact List.dropLast_append_of_ne_nil hb
  · rfl

end Lines

end Library.Words
