import Starry.GeoRelay.Reading

/-!
# The grammar of Geo expressions

What an expression is, said without a parser: `/` is or, `+` is and, and both associate to the
left. The parser accepts what the grammar derives, with the tree of the derivation.
-/

open Library Library.Text

namespace Starry.GeoRelay

open Starry.RelayObserver (Expression Predicate)
open ExpressionParser

/-! ## The grammar -/

def Blank (text : List Char) : Prop := ∀ c ∈ text, isWhiteSpace c = true

/-- What stands between two quotes. -/
inductive QuotedBody (quote : Char) : List Char → Prop
  | nil : QuotedBody quote []
  | escaped {c : Char} {text : List Char} (h : QuotedBody quote text) :
      QuotedBody quote ('\\' :: c :: text)
  | plain {c : Char} {text : List Char} (hc : c ≠ '\\' ∧ c ≠ quote) (h : QuotedBody quote text) :
      QuotedBody quote (c :: text)

/-- A text without an operator outside of quotes. -/
inductive PredicateText : List Char → Prop
  | nil : PredicateText []
  | plain {c : Char} {text : List Char} (hc : isQuote c = false ∧ isOperator c = false)
      (h : PredicateText text) : PredicateText (c :: text)
  | quoted {quote : Char} {body text : List Char} (hquote : isQuote quote = true)
      (hbody : QuotedBody quote body) (h : PredicateText text) :
      PredicateText (quote :: (body ++ quote :: text))

inductive Symbol
  | or | and | primary

/-- What a text means, with at most so many nested parentheses and with its number of predicates. -/
inductive Derives : Symbol → Nat → List Char → Nat → Expression → Prop
  | and {depth terms : Nat} {text : List Char} {e : Expression}
      (h : Derives .and depth text terms e) : Derives .or depth text terms e
  | or {depth terms terms' : Nat} {text text' : List Char} {left right : Expression}
      (hleft : Derives .or depth text terms left) (hright : Derives .and depth text' terms' right) :
      Derives .or depth (text ++ '/' :: text') (terms + terms') (.or left right)
  | primary {depth terms : Nat} {text : List Char} {e : Expression}
      (h : Derives .primary depth text terms e) : Derives .and depth text terms e
  | both {depth terms terms' : Nat} {text text' : List Char} {left right : Expression}
      (hleft : Derives .and depth text terms left)
      (hright : Derives .primary depth text' terms' right) :
      Derives .and depth (text ++ '+' :: text') (terms + terms') (.and left right)
  | group {depth terms : Nat} {before text after : List Char} {e : Expression}
      (hbefore : Blank before) (h : Derives .or depth text terms e) (hafter : Blank after) :
      Derives .primary (depth + 1) (before ++ '(' :: (text ++ ')' :: after)) terms e
  | predicate {depth : Nat} {text : List Char} {e : Expression} (htext : PredicateText text)
      (h : Predicate.compile (trimText text) = .ok e) : Derives .primary depth text 1 e

/-! ## Blanks -/

section Blanks

variable {text blank rest : List Char} {c : Char}

theorem Blank.nil : Blank [] := fun _ h => absurd h List.not_mem_nil

theorem Blank.append {other : List Char} (h : Blank blank) (ho : Blank other) :
    Blank (blank ++ other) := by
  intro c hc
  rcases List.mem_append.mp hc with hc | hc
  · exact h c hc
  · exact ho c hc

theorem blank_takeWhile (text : List Char) : Blank (text.takeWhile isWhiteSpace) := fun _ hc =>
  List.mem_takeWhile_imp hc

theorem Blank.dropWhile (h : Blank blank) :
    (blank ++ rest).dropWhile isWhiteSpace = rest.dropWhile isWhiteSpace :=
  List.dropWhile_append_of_pos h

theorem dropWhile_of_head (h : ∀ c, rest.head? = some c → isWhiteSpace c = false) :
    rest.dropWhile isWhiteSpace = rest := by
  cases rest with
  | nil => rfl
  | cons c rest =>
    rw [List.dropWhile_cons, if_neg]
    rw [h c rfl]
    exact Bool.false_ne_true

theorem trimText_eq : trimText text = (text.dropWhile isWhiteSpace).rdropWhile isWhiteSpace := rfl

theorem Blank.trimText_left (h : Blank blank) : trimText (blank ++ text) = trimText text := by
  rw [trimText, h.dropWhile]
  rfl

theorem Blank.trimText_right (h : Blank blank) : trimText (text ++ blank) = trimText text := by
  have hreverse : ∀ c ∈ blank.reverse, isWhiteSpace c = true := fun c hc =>
    h c (List.mem_reverse.mp hc)
  unfold trimText
  rw [List.dropWhile_append]
  split
  · rename_i hempty
    rw [List.isEmpty_iff.mp hempty, List.dropWhile_eq_nil_iff.mpr h]
  · rw [List.reverse_append, List.dropWhile_append_of_pos hreverse]

theorem isWhiteSpace_plain (h : isWhiteSpace c = true) :
    isQuote c = false ∧ isOperator c = false := by
  have hne : ∀ d, isWhiteSpace d = false → c ≠ d := by
    rintro d hd rfl
    rw [h] at hd
    cases hd
  have hquotes := And.intro (hne singleQuote (by decide)) (hne '"' (by decide))
  have hoperators := And.intro (hne '+' (by decide)) (And.intro (hne '/' (by decide))
    (And.intro (hne '(' (by decide)) (hne ')' (by decide))))
  unfold isQuote isOperator
  simp [hquotes, hoperators]

end Blanks

/-! ## The text of a predicate -/

section PredicateText

variable {text blank rest body value rest' : List Char} {c quote : Char}

/-- What follows an operand: nothing or an operator. -/
def Stops (rest : List Char) : Prop := ∀ c, rest.head? = some c → isOperator c = true

theorem PredicateText.append (h : PredicateText text) (hrest : PredicateText rest) :
    PredicateText (text ++ rest) := by
  induction h with
  | nil => exact hrest
  | plain hc _ ih => exact .plain hc ih
  | quoted hquote hbody _ ih =>
    rw [List.cons_append, List.append_assoc]
    exact .quoted hquote hbody ih

theorem Blank.predicateText (h : Blank blank) : PredicateText blank := by
  induction blank with
  | nil => exact .nil
  | cons c blank ih =>
    exact .plain (isWhiteSpace_plain (h c List.mem_cons_self))
      (ih fun d hd => h d (List.mem_cons_of_mem c hd))

theorem PredicateText.dropWhile (h : PredicateText text) :
    PredicateText (text.dropWhile isWhiteSpace) := by
  induction h with
  | nil => exact .nil
  | plain hc h ih =>
    rw [List.dropWhile_cons]
    split
    · exact ih
    · exact .plain hc h
  | quoted hquote hbody h =>
    rw [List.dropWhile_cons, if_neg]
    · exact .quoted hquote hbody h
    · intro hblank
      rw [(isWhiteSpace_plain hblank).1] at hquote
      cases hquote

/-! ### Scanning it -/

theorem isQuote_ne_backslash (h : isQuote quote = true) : (quote == '\\') = false := by
  rw [beq_eq_false_iff_ne]
  rintro rfl
  exact absurd h (by decide)

theorem scan_body (hquote : isQuote quote = true) (hbody : QuotedBody quote body) (rest : List Char) :
    scan (some quote) false (body ++ quote :: rest) = scan none false rest := by
  induction hbody with
  | nil =>
    rw [List.nil_append, scan, if_neg Bool.false_ne_true, isQuote_ne_backslash hquote,
      if_neg Bool.false_ne_true, beq_self_eq_true, if_pos rfl]
  | escaped h ih =>
    rw [List.cons_append, List.cons_append, scan, if_neg Bool.false_ne_true, beq_self_eq_true,
      if_pos rfl, scan, if_pos rfl]
    exact ih
  | plain hc h ih =>
    rw [List.cons_append, scan, if_neg Bool.false_ne_true, if_neg (by simpa using hc.1),
      if_neg (by simpa using hc.2)]
    exact ih

theorem scan_stops (h : Stops rest) : scan none false rest = (none, rest) := by
  cases rest with
  | nil => rfl
  | cons c rest =>
    have hop := h c rfl
    have hquote : isQuote c = false := by
      rw [Bool.eq_false_iff]
      intro hquote
      unfold isQuote at hquote
      rw [Bool.or_eq_true, beq_iff_eq, beq_iff_eq] at hquote
      rcases hquote with rfl | rfl <;> exact absurd hop (by decide)
    rw [scan, if_neg (by simp [hquote]), if_pos hop]

/-- A predicate is scanned to the operator after it. -/
theorem PredicateText.scan (h : PredicateText text) (hrest : Stops rest) :
    ExpressionParser.scan none false (text ++ rest) = (none, rest) := by
  induction h with
  | nil => exact scan_stops hrest
  | plain hc _ ih =>
    rw [List.cons_append, ExpressionParser.scan, if_neg (by simp [hc.1]), if_neg (by simp [hc.2])]
    exact ih
  | quoted hquote hbody _ ih =>
    rw [List.cons_append, List.append_assoc, List.cons_append, ExpressionParser.scan, if_pos hquote,
      scan_body hquote hbody]
    exact ih

/-- What is left of a text where a quote is open: its end, and then as without. -/
def Closes (quote : Char) (rest rest' : List Char) : Prop :=
  ∃ body text, QuotedBody quote body ∧ PredicateText text ∧
    rest = body ++ quote :: (text ++ rest')

theorem scan_sound (rest rest' : List Char) :
    (scan none false rest = (none, rest') →
      ∃ text, PredicateText text ∧ rest = text ++ rest' ∧ Stops rest') ∧
    ∀ quote, isQuote quote = true →
      (scan (some quote) false rest = (none, rest') → Closes quote rest rest' ∧ Stops rest') ∧
      (scan (some quote) true rest = (none, rest') →
        ∃ c text, rest = c :: text ∧ Closes quote text rest' ∧ Stops rest') := by
  induction rest with
  | nil =>
    refine ⟨fun h => ?_, fun quote hquote => ⟨fun h => ?_, fun h => ?_⟩⟩
    · cases h
      exact ⟨[], .nil, rfl, fun c hc => by cases hc⟩
    · cases h
    · cases h
  | cons c rest ih =>
    obtain ⟨hplain, hquoted⟩ := ih
    refine ⟨fun h => ?_, fun quote hquote => ⟨fun h => ?_, fun h => ?_⟩⟩
    · rw [scan] at h
      split at h
      · rename_i hc
        obtain ⟨⟨body, text, hbody, htext, rfl⟩, hstops⟩ := (hquoted c hc).1 h
        refine ⟨_, .quoted hc hbody htext, ?_, hstops⟩
        rw [List.cons_append, List.append_assoc, List.cons_append]
      · rename_i hc
        split at h
        · rename_i hop
          cases h
          refine ⟨[], .nil, rfl, fun d hd => ?_⟩
          cases hd
          exact hop
        · rename_i hop
          obtain ⟨text, htext, rfl, hstops⟩ := hplain h
          exact ⟨c :: text, .plain ⟨by simpa using hc, by simpa using hop⟩ htext, rfl, hstops⟩
    · rw [scan, if_neg Bool.false_ne_true] at h
      split at h
      · rename_i hc
        obtain ⟨d, text, rfl, ⟨body, value, hbody, hvalue, rfl⟩, hstops⟩ := (hquoted quote hquote).2 h
        rw [beq_iff_eq] at hc
        subst hc
        exact ⟨⟨_, value, .escaped hbody, hvalue, rfl⟩, hstops⟩
      · rename_i hc
        split at h
        · rename_i hclose
          rw [beq_iff_eq] at hclose
          subst hclose
          obtain ⟨text, htext, rfl, hstops⟩ := hplain h
          exact ⟨⟨[], text, .nil, htext, rfl⟩, hstops⟩
        · rename_i hclose
          obtain ⟨⟨body, text, hbody, htext, rfl⟩, hstops⟩ := (hquoted quote hquote).1 h
          exact ⟨⟨c :: body, text, .plain ⟨by simpa using hc, by simpa using hclose⟩ hbody, htext,
            rfl⟩, hstops⟩
    · rw [scan, if_pos rfl] at h
      exact ⟨c, rest, rfl, (hquoted quote hquote).1 h⟩

/-- The parser reads the text of a predicate up to an operator, and no blank one. -/
theorem predicateText_eq_some : predicateText rest = some (value, rest') ↔
    rest = value ++ rest' ∧ PredicateText value ∧ Stops rest' ∧ trimText value ≠ [] := by
  unfold predicateText
  dsimp only
  constructor
  · intro h
    split at h
    · cases h
    · rename_i hread
      rw [Bool.or_eq_true, not_or, Bool.not_eq_true, Option.isSome_eq_false_iff,
        Option.isNone_iff_eq_none] at hread
      obtain ⟨hquote, hblank⟩ := hread
      obtain ⟨text, htext, hsplit, hstops⟩ := (scan_sound rest _).1 (Prod.ext hquote rfl)
      have hvalue := take_scan rest
      cases h
      rw [List.isEmpty_iff] at hblank
      have hsame := List.append_cancel_right (hvalue.trans hsplit)
      rw [hsame] at hblank ⊢
      exact ⟨hsplit, htext, hstops, hblank⟩
  · rintro ⟨rfl, htext, hstops, hblank⟩
    rw [htext.scan hstops, List.length_append, Nat.add_sub_cancel, List.take_left, if_neg]
    simpa using hblank

end PredicateText

end Starry.GeoRelay
