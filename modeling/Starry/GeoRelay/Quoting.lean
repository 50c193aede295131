import Starry.GeoRelay.Acceptance

/-!
# Quoted values

A value is quoted with a backslash before every backslash and every such quote. Whatever is in it,
the predicate of its field is the predicate of the value.
-/

open Library Library.Text

namespace Starry.GeoRelay

open Starry.RelayObserver (Expression Predicate)
open ExpressionParser

def escapeChar (quote c : Char) : List Char := if c = '\\' ∨ c = quote then ['\\', c] else [c]

def quoteText (quote : Char) (value : List Char) : List Char :=
  quote :: (value.flatMap (escapeChar quote) ++ [quote])

section Quoting

variable {quote : Char} {value text : List Char}

theorem quotedBody_escape (quote : Char) (value : List Char) :
    QuotedBody quote (value.flatMap (escapeChar quote)) := by
  induction value with
  | nil => exact .nil
  | cons c value ih =>
    rw [List.flatMap_cons, escapeChar]
    split
    · exact .escaped ih
    · rename_i hc
      exact .plain (not_or.mp hc) ih

theorem unescape_escapeChar (quote c : Char) (before : List Char) :
    (escapeChar quote c).foldl unescapeStep (before, false) = (before ++ [c], false) := by
  unfold escapeChar
  split
  · rfl
  · rename_i hc
    have hplain : (c == '\\') = false := beq_eq_false_iff_ne.mpr (not_or.mp hc).1
    simp [unescapeStep, hplain]

/-- The decoder takes back what the quoting has done. -/
theorem unescape_escape (quote : Char) (value before : List Char) :
    (value.flatMap (escapeChar quote)).foldl unescapeStep (before, false) =
      (before ++ value, false) := by
  induction value generalizing before with
  | nil => simp
  | cons c value ih =>
    rw [List.flatMap_cons, List.foldl_append, unescape_escapeChar, ih, List.append_assoc]
    rfl

/-- A text that begins and ends with something else than a blank. -/
theorem trimText_eq_self {first last : Char} {middle : List Char}
    (hfirst : isWhiteSpace first = false) (hlast : isWhiteSpace last = false) :
    trimText (first :: (middle ++ [last])) = first :: (middle ++ [last]) := by
  have hdrop : ∀ (c : Char) (text : List Char), isWhiteSpace c = false →
      (c :: text).dropWhile isWhiteSpace = c :: text := by
    intro c text hc
    rw [List.dropWhile_cons, hc, if_neg Bool.false_ne_true]
  unfold trimText
  rw [hdrop _ _ hfirst, ← List.cons_append, List.reverse_append, List.reverse_singleton,
    List.singleton_append, hdrop _ _ hlast, List.reverse_cons, List.reverse_reverse]

theorem isWhiteSpace_quote (h : isQuote quote = true) : isWhiteSpace quote = false := by
  rw [← Bool.not_eq_true]
  intro hblank
  rw [(isWhiteSpace_plain hblank).1] at h
  cases h

theorem decodeValue_quoteText (hquote : isQuote quote = true) :
    decodeValue (quoteText quote value) = .ok (trimText value) := by
  have hblank := isWhiteSpace_quote hquote
  have hpos := quote.utf8Size_pos
  have hlen : ¬ byteLen (quoteText quote value) < quote.utf8Size * 2 := by
    simp only [quoteText, byteLen_cons, byteLen_append, byteLen_nil]
    omega
  have hlast : (quoteText quote value).getLast? = some quote := by
    rw [quoteText, ← List.cons_append, List.getLast?_concat]
  have htrim : trimText (quoteText quote value) = quoteText quote value :=
    trimText_eq_self hblank hblank
  unfold decodeValue
  dsimp only
  rw [htrim]
  change (if !isQuote quote then _ else if _ then _ else _) = _
  rw [hquote, if_neg (by decide), hlast, if_neg (by simpa using hlen)]
  rw [quoteText, sliceOf_quoted, ok_bind, unescape_escape]
  rfl

def cityText (quote : Char) (value : List Char) : List Char :=
  ['c', 'i', 't', 'y', ':'] ++ quoteText quote value

theorem predicateText_cityText (hquote : isQuote quote = true) :
    PredicateText (cityText quote value) := by
  have hfield : PredicateText ['c', 'i', 't', 'y', ':'] :=
    .plain (by decide) (.plain (by decide) (.plain (by decide) (.plain (by decide)
      (.plain (by decide) .nil))))
  exact hfield.append (.quoted hquote (quotedBody_escape quote value) .nil)

theorem compile_cityText (hquote : isQuote quote = true) (hvalue : trimText value = value)
    (hne : value ≠ []) :
    Predicate.compile (trimText (cityText quote value)) =
      .ok (.predicate (.city (String.ofList value))) := by
  have hlast := isWhiteSpace_quote hquote
  have htrim : trimText (cityText quote value) = cityText quote value := by
    have htext : cityText quote value = 'c' :: (['i', 't', 'y', ':', quote] ++
        value.flatMap (escapeChar quote) ++ [quote]) := rfl
    rw [htext]
    exact trimText_eq_self (by decide) hlast
  have hstar : cityText quote value ≠ ['*'] := by simp [cityText]
  have hcode : isCountryCode (cityText quote value) = false := by
    have hlen : byteLen (cityText quote value) ≠ 2 := by
      have hc := ('c').utf8Size_pos
      have hi := ('i').utf8Size_pos
      have ht := ('t').utf8Size_pos
      simp only [cityText, byteLen_append, byteLen_cons]
      omega
    unfold isCountryCode
    rw [beq_eq_false_iff_ne.mpr hlen, Bool.false_and]
  have hsplit : splitOnce (cityText quote value) =
      some (['c', 'i', 't', 'y'], quoteText quote value) := by
    rw [splitOnce, if_pos (by simp [cityText])]
    rfl
  have hfield : String.ofList (lowercase (trimText ['c', 'i', 't', 'y'])) = "city" := by decide
  unfold Predicate.compile
  dsimp only
  rw [htrim, htrim, if_neg hstar, hcode, if_neg Bool.false_ne_true, hsplit]
  dsimp only
  rw [hfield, decodeValue_quoteText hquote, ok_bind, hvalue, if_neg (by simpa using hne)]
  rfl

/-- The text of a value in quotes. -/
def quoted (quote : Char) (value : String) : String :=
  String.ofList (quoteText quote value.toList)

theorem accepts_quoted {value : String} (hquote : isQuote quote = true) (hne : value ≠ "")
    (hvalue : trim value = value) :
    Accepts ("city:" ++ quoted quote value) (.predicate (.city value)) := by
  have htoList : ("city:" ++ quoted quote value).toList = cityText quote value.toList := by
    rw [String.toList_append, quoted, String.toList_ofList, String.toList_ofList]
    rfl
  have htrim : trimText value.toList = value.toList := by
    have hsame := congrArg String.toList hvalue
    rwa [trim, String.toList_ofList] at hsame
  have hcompile := compile_cityText hquote htrim fun hnil => hne (String.toList_eq_nil_iff.mp hnil)
  rw [String.ofList_toList] at hcompile
  refine ⟨1, by decide, ?_⟩
  rw [htoList]
  exact .and (.primary (.predicate (predicateText_cityText hquote) hcompile))

end Quoting

/-- The parser ends on every text without a slice that goes wrong, and accepts what the grammar
derives within the limits, with the tree of the derivation. A quoted value is the value of its
predicate, whatever it holds. -/
theorem parse_accepts_grammar :
    (∀ source, Reported (parse source)) ∧
    (∀ source e, parse source = .ok e ↔ Accepts source e) ∧
    ∀ quote value, isQuote quote = true → value ≠ "" → trim value = value →
      parse ("city:" ++ quoted quote value) = .ok (.predicate (.city value)) := by
  refine ⟨fun source halt herror => ?_, fun source e => ⟨fun hok => ?_, parse_complete⟩,
    fun quote value hquote hne hvalue => parse_complete (accepts_quoted hquote hne hvalue)⟩
  · rcases parse_sound source with ⟨message, h⟩ | ⟨e, h, -⟩
    · rw [h] at herror
      cases herror
      exact ⟨message, rfl⟩
    · rw [h] at herror
      cases herror
  · rcases parse_sound source with ⟨message, h⟩ | ⟨e', h, haccepts⟩
    · rw [h] at hok
      cases hok
    · rw [h] at hok
      cases hok
      exact haccepts

end Starry.GeoRelay
