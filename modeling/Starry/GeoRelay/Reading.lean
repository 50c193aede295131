import Starry.GeoRelay.Parser

/-!
# What the parser reads

A parser stands between two characters of its source, before what is left of it. Each reader takes
something off the front of that and never slices elsewhere.
-/

open Library Library.Text

namespace Starry.GeoRelay

theorem ok_bind {α β : Type} {x : α} {f : α → Except Halt β} : (Except.ok x >>= f) = f x := rfl

namespace ExpressionParser

/-- The parser before what is left of the source. -/
def cursor (source rest : List Char) (depth terms : Nat) : ExpressionParser :=
  ⟨source, offset source rest, depth, terms⟩

/-- The loop of `read_predicate` over the characters: the quote that is open at the end, and what is
left. -/
def scan : Option Char → Bool → List Char → Option Char × List Char
  | quote, _, [] => (quote, [])
  | some activeQuote, escaped, ch :: rest =>
    if escaped then scan (some activeQuote) false rest
    else if ch == '\\' then scan (some activeQuote) true rest
    else if ch == activeQuote then scan none escaped rest
    else scan (some activeQuote) escaped rest
  | none, escaped, ch :: rest =>
    if isQuote ch then scan (some ch) escaped rest
    else if isOperator ch then (none, ch :: rest)
    else scan none escaped rest

section Cursor

variable {source rest text : List Char} {depth terms : Nat} {c : Char}

theorem suffix_tail (h : c :: rest <:+ source) : rest <:+ source :=
  (List.suffix_cons c rest).trans h

theorem cursor_start : cursor source source depth terms = ⟨source, 0, depth, terms⟩ := by
  rw [cursor, offset_self]

theorem peek_cursor (h : rest <:+ source) :
    (cursor source rest depth terms).peek = .ok rest.head? := by
  unfold peek cursor
  dsimp only
  rw [sliceFrom_offset h]
  rfl

theorem advance_cursor (h : c :: rest <:+ source) :
    (cursor source (c :: rest) depth terms).advance c = cursor source rest depth terms := by
  unfold advance cursor
  dsimp only
  rw [offset_cons h]

theorem consume_found (h : c :: rest <:+ source) :
    (cursor source (c :: rest) depth terms).consume c =
      .ok (true, cursor source rest depth terms) := by
  unfold consume
  rw [peek_cursor h]
  change (if some c = some c then _ else _) = _
  rw [if_pos rfl, advance_cursor h]
  rfl

theorem consume_missing (h : rest <:+ source) (hne : rest.head? ≠ some c) :
    (cursor source rest depth terms).consume c =
      .ok (false, cursor source rest depth terms) := by
  unfold consume
  rw [peek_cursor h]
  change (if rest.head? = some c then _ else _) = _
  rw [if_neg hne]
  rfl

theorem skipLoop_cursor {fuel : Nat} (h : rest <:+ source) (hfuel : rest.length < fuel) :
    skipLoop fuel (cursor source rest depth terms) =
      .ok (cursor source (rest.dropWhile isWhiteSpace) depth terms) := by
  induction rest generalizing fuel with
  | nil =>
    obtain ⟨fuel, rfl⟩ := Nat.exists_eq_add_of_lt hfuel
    rw [skipLoop, peek_cursor h]
    rfl
  | cons c rest ih =>
    obtain ⟨fuel, rfl⟩ : ∃ n, fuel = n + 1 := ⟨fuel - 1, by omega⟩
    rw [skipLoop, peek_cursor h]
    change (if !isWhiteSpace c then _ else _) = _
    rw [List.dropWhile_cons]
    cases hc : isWhiteSpace c with
    | true =>
      rw [advance_cursor h]
      exact ih (suffix_tail h) (by simpa using hfuel)
    | false => rfl

theorem skipWhitespace_cursor (h : rest <:+ source) :
    (cursor source rest depth terms).skipWhitespace =
      .ok (cursor source (rest.dropWhile isWhiteSpace) depth terms) :=
  skipLoop_cursor h (Nat.lt_succ_of_le h.length_le)

theorem dropWhile_suffix_source (h : rest <:+ source) : rest.dropWhile isWhiteSpace <:+ source :=
  (List.dropWhile_suffix _).trans h

/-- What is scanned is the front of what was left. -/
theorem scan_suffix (quote : Option Char) (escaped : Bool) (rest : List Char) :
    (scan quote escaped rest).2 <:+ rest := by
  induction rest generalizing quote escaped with
  | nil => cases quote <;> exact List.suffix_refl _
  | cons c rest ih =>
    have hcons : ∀ quote escaped, (scan quote escaped rest).2 <:+ c :: rest := fun quote escaped =>
      (ih quote escaped).trans (List.suffix_cons c rest)
    cases quote with
    | none =>
      unfold scan
      split
      · exact hcons _ _
      · split
        · exact List.suffix_refl _
        · exact hcons _ _
    | some activeQuote =>
      unfold scan
      split
      · exact hcons _ _
      · split
        · exact hcons _ _
        · split <;> exact hcons _ _

theorem readLoop_cursor {fuel : Nat} (quote : Option Char) (escaped : Bool) (h : rest <:+ source)
    (hfuel : rest.length < fuel) :
    readLoop fuel quote escaped (cursor source rest depth terms) =
      .ok ((scan quote escaped rest).1,
        cursor source (scan quote escaped rest).2 depth terms) := by
  induction rest generalizing fuel quote escaped with
  | nil =>
    obtain ⟨fuel, rfl⟩ := Nat.exists_eq_add_of_lt hfuel
    rw [readLoop, peek_cursor h]
    cases quote <;> rfl
  | cons c rest ih =>
    obtain ⟨fuel, rfl⟩ : ∃ n, fuel = n + 1 := ⟨fuel - 1, by omega⟩
    have hrest : rest.length < fuel := by simpa using hfuel
    have hnext := fun quote escaped => ih quote escaped (suffix_tail h) hrest
    rw [readLoop, peek_cursor h]
    cases quote with
    | none =>
      change (if isQuote c then _ else _) = _
      rw [scan, advance_cursor h]
      cases isQuote c with
      | true => exact hnext (some c) escaped
      | false =>
        cases isOperator c with
        | true => rfl
        | false => exact hnext none escaped
    | some activeQuote =>
      change (if escaped = true then _ else _) = _
      rw [scan, advance_cursor h]
      cases escaped with
      | true => exact hnext (some activeQuote) false
      | false =>
        cases c == '\\' with
        | true => exact hnext (some activeQuote) true
        | false =>
          cases c == activeQuote with
          | true => exact hnext none false
          | false => exact hnext (some activeQuote) false

/-- The text of the predicate that is read, if there is one. -/
def predicateText (rest : List Char) : Option (List Char × List Char) :=
  let scanned := scan none false rest
  let value := rest.take (rest.length - scanned.2.length)
  if scanned.1.isSome || (trimText value).isEmpty then none else some (value, scanned.2)

theorem take_scan (rest : List Char) :
    rest.take (rest.length - (scan none false rest).2.length) ++ (scan none false rest).2 = rest := by
  obtain ⟨value, hvalue⟩ := scan_suffix none false rest
  generalize (scan none false rest).2 = rest' at hvalue ⊢
  subst hvalue
  rw [List.length_append, Nat.add_sub_cancel, List.take_left]

theorem readPredicate_cursor (h : rest <:+ source) : ∃ message,
    (cursor source rest depth terms).readPredicate =
      match predicateText (rest.dropWhile isWhiteSpace) with
      | none => .error (.invalid message)
      | some (value, rest') => .ok (trimText value, cursor source rest' depth terms) := by
  have hskip := dropWhile_suffix_source h
  unfold readPredicate
  rw [skipWhitespace_cursor h, ok_bind]
  generalize rest.dropWhile isWhiteSpace = rest at hskip ⊢
  have hfuel : rest.length < (cursor source rest depth terms).source.length + 1 :=
    Nat.lt_succ_of_le hskip.length_le
  have hsplit := take_scan rest
  dsimp only
  rw [readLoop_cursor none false hskip hfuel, ok_bind]
  unfold predicateText
  dsimp only
  generalize rest.take (rest.length - (scan none false rest).2.length) = value at hsplit ⊢
  generalize hscan : (scan none false rest).2 = rest' at hsplit ⊢
  have hslice : sliceOf source (offset source rest) (offset source rest') = .ok value := by
    unfold sliceOf
    rw [← hsplit] at hskip ⊢
    rw [slice_offset hskip]
    rfl
  have hslice : sliceOf (cursor source rest' depth terms).source (cursor source rest depth terms).position
    (cursor source rest' depth terms).position = .ok value := hslice
  rw [hslice, ok_bind]
  cases (scan none false rest).1 with
  | some quote => exact ⟨_, rfl⟩
  | none =>
    cases (trimText value).isEmpty with
    | true => exact ⟨_, rfl⟩
    | false => exact ⟨"", rfl⟩

end Cursor

end ExpressionParser

end Starry.GeoRelay
