import Starry.GeoRelay.Grammar

/-!
# What the parser accepts

The parser returns what the grammar derives: by induction on the derivation from the grammar to the
parser, and on the bound of its loops the other way. Every other text is reported as invalid.
-/

open Library Library.Text

namespace Starry.GeoRelay

open Starry.RelayObserver (Expression Predicate)
open ExpressionParser

/-! ## Reports -/

/-- No slice has gone wrong and no loop has run out of its bound. -/
def Reported {α : Type} (r : Except Halt α) : Prop :=
  ∀ halt, r = .error halt → ∃ message, halt = .invalid message

section Reported

variable {α β : Type} {x : Except Halt α} {f : α → Except Halt β} {value : List Char}

theorem reported_ok (a : α) : Reported (.ok a) := fun _ h => by cases h

theorem reported_invalid (message : String) : Reported (.error (.invalid message) : Except Halt α) :=
  fun _ h => by cases h; exact ⟨message, rfl⟩

theorem Reported.bind (hx : Reported x) (hf : ∀ a, Reported (f a)) : Reported (x >>= f) := by
  cases x with
  | ok a => exact hf a
  | error halt =>
    obtain ⟨message, rfl⟩ := hx halt rfl
    exact reported_invalid message

/-- Between a quote at the front and the same at the end there is a slice. -/
theorem sliceOf_quoted (first : Char) (body : List Char) :
    sliceOf (first :: (body ++ [first])) first.utf8Size
      (byteLen (first :: (body ++ [first])) - first.utf8Size) = .ok body := by
  have hslice := @slice_append [first] body [first]
  have hstop : byteLen (first :: (body ++ [first])) - first.utf8Size =
      byteLen [first] + byteLen body := by
    simp only [byteLen_cons, byteLen_append, byteLen_nil]
    omega
  have hstart : byteLen [first] = first.utf8Size := by simp
  rw [hstart] at hslice hstop
  unfold sliceOf
  rw [hstop, show slice (first :: (body ++ [first])) first.utf8Size (first.utf8Size + byteLen body) =
    some body from hslice]
  rfl

theorem decodeValue_reported (raw : List Char) : Reported (decodeValue raw) := by
  unfold decodeValue
  dsimp only
  generalize trimText raw = raw
  cases raw with
  | nil => exact reported_ok _
  | cons first rest =>
    change Reported (if _ then _ else _)
    split
    · exact reported_ok _
    · split
      · exact reported_invalid _
      · rename_i hends
        simp only [Bool.or_eq_true, decide_eq_true_eq, not_or, not_lt, bne_iff_ne, ne_eq,
          not_not] at hends
        obtain ⟨hlen, hlast⟩ := hends
        -- One quote alone is too short to be at both ends.
        obtain ⟨body, rfl⟩ : ∃ body, rest = body ++ [first] := by
          rcases List.eq_nil_or_concat rest with rfl | ⟨body, last, rfl⟩
          · have hpos := first.utf8Size_pos
            simp only [byteLen_cons, byteLen_nil] at hlen
            omega
          · rw [List.concat_eq_append, ← List.cons_append, List.getLast?_concat] at hlast
            cases hlast
            exact ⟨body, List.concat_eq_append⟩
        rw [sliceOf_quoted, ok_bind]
        split
        · exact reported_invalid _
        · exact reported_ok _

theorem parseNonzeroU32_reported (field : String) (value : List Char) :
    Reported (parseNonzeroU32 field value) := by
  unfold parseNonzeroU32
  split
  · exact reported_invalid _
  · split
    · exact reported_invalid _
    · exact reported_ok _

theorem ofField_reported (field : String) (value : List Char) :
    Reported (Predicate.ofField field value) := by
  have hnumber : ∀ digits (f : Nat → Predicate),
      Reported (parseNonzeroU32 field digits >>= fun n => (pure (f n) : Except Halt Predicate)) :=
    fun digits f => (parseNonzeroU32_reported field digits).bind fun n => reported_ok _
  unfold Predicate.ofField
  repeat' split
  · exact reported_ok _
  · exact reported_invalid _
  · exact reported_ok _
  · exact reported_ok _
  · exact reported_ok _
  · exact hnumber _ _
  · exact hnumber _ _
  · exact reported_ok _
  · exact reported_invalid _

theorem compile_reported (raw : List Char) : Reported (Predicate.compile raw) := by
  unfold Predicate.compile
  dsimp only
  split
  · exact reported_ok _
  · split
    · exact reported_ok _
    · split
      · exact reported_invalid _
      · refine (decodeValue_reported _).bind fun value => ?_
        split
        · exact reported_invalid _
        · exact (ofField_reported _ _).bind fun predicate => reported_ok _

theorem compile_nil (e : Expression) : Predicate.compile [] ≠ .ok e := by
  have hnil : Predicate.compile [] = .error (.invalid "'' must be '*' or field:value") := rfl
  rw [hnil]
  exact fun h => by cases h

end Reported

/-! ## Steps of the loops -/

/-- What follows begins with one of these, or is nothing. -/
def Follows (operators : List Char) (rest : List Char) : Prop :=
  ∀ c, rest.head? = some c → c ∈ operators

section Steps

variable {source rest blank : List Char} {depth terms fuel : Nat} {e : Expression} {c : Char}
  {operators : List Char}

theorem isWhiteSpace_operator (h : isOperator c = true) : isWhiteSpace c = false := by
  rw [← Bool.not_eq_true]
  intro hblank
  rw [(isWhiteSpace_plain hblank).2] at h
  cases h

theorem Follows.mono {more : List Char} (h : Follows operators rest) (hsub : operators ⊆ more) :
    Follows more rest := fun c hc => hsub (h c hc)

theorem Follows.stops (h : Follows operators rest) (hsub : operators ⊆ ['+', '/', ')']) :
    Stops rest := by
  intro c hc
  have hmem := h.mono hsub c hc
  simp only [List.mem_cons, List.not_mem_nil, or_false] at hmem
  rcases hmem with rfl | rfl | rfl <;> rfl

theorem Follows.head_ne (h : Follows operators rest) (hc : c ∉ operators) :
    rest.head? ≠ some c := fun heq => hc (h c heq)

theorem follows_cons (h : c ∈ operators) : Follows operators (c :: rest) := by
  intro d hd
  cases hd
  exact h

/-- Blanks before an operator or the end are skipped. -/
theorem Stops.dropWhile (h : Stops rest) (hblank : Blank blank) :
    (blank ++ rest).dropWhile isWhiteSpace = rest := by
  rw [hblank.dropWhile]
  exact dropWhile_of_head fun c hc => isWhiteSpace_operator (h c hc)

theorem Blank.operator (h : Blank blank) (hc : isOperator c = true) :
    (blank ++ c :: rest).dropWhile isWhiteSpace = c :: rest :=
  Stops.dropWhile (fun d hd => by cases hd; exact hc) h

theorem orLoop_stop (hsuffix : rest <:+ source)
    (hne : (rest.dropWhile isWhiteSpace).head? ≠ some '/') :
    orLoop (fuel + 1) e (cursor source rest depth terms) =
      .ok (e, cursor source (rest.dropWhile isWhiteSpace) depth terms) := by
  rw [orLoop, skipWhitespace_cursor hsuffix, ok_bind,
    consume_missing (dropWhile_suffix_source hsuffix) hne]
  rfl

theorem orLoop_step (hsuffix : rest <:+ source) {next : List Char}
    (hnext : rest.dropWhile isWhiteSpace = '/' :: next) :
    orLoop (fuel + 1) e (cursor source rest depth terms) =
      parseAnd fuel (cursor source next depth terms) >>= fun r => orLoop fuel (.or e r.1) r.2 := by
  have hskip := dropWhile_suffix_source hsuffix
  rw [hnext] at hskip
  rw [orLoop, skipWhitespace_cursor hsuffix, ok_bind, hnext, consume_found hskip]
  rfl

theorem andLoop_stop (hsuffix : rest <:+ source)
    (hne : (rest.dropWhile isWhiteSpace).head? ≠ some '+') :
    andLoop (fuel + 1) e (cursor source rest depth terms) =
      .ok (e, cursor source (rest.dropWhile isWhiteSpace) depth terms) := by
  rw [andLoop, skipWhitespace_cursor hsuffix, ok_bind,
    consume_missing (dropWhile_suffix_source hsuffix) hne]
  rfl

theorem andLoop_step (hsuffix : rest <:+ source) {next : List Char}
    (hnext : rest.dropWhile isWhiteSpace = '+' :: next) :
    andLoop (fuel + 1) e (cursor source rest depth terms) =
      parsePrimary fuel (cursor source next depth terms) >>= fun r =>
        andLoop fuel (.and e r.1) r.2 := by
  have hskip := dropWhile_suffix_source hsuffix
  rw [hnext] at hskip
  rw [andLoop, skipWhitespace_cursor hsuffix, ok_bind, hnext, consume_found hskip]
  rfl

/-- What a parenthesis leads to. -/
def closeGroup (r : Expression × ExpressionParser) : Except Halt (Expression × ExpressionParser) := do
  let p ← { r.2 with depth := r.2.depth - 1 }.skipWhitespace
  let (found, p) ← p.consume ')'
  if !found then throw (.invalid ("missing ')' at byte " ++ toString p.position))
  else pure (r.1, p)

theorem parsePrimary_group (hsuffix : rest <:+ source) {inner : List Char}
    (hopen : rest.dropWhile isWhiteSpace = '(' :: inner) (hdepth : depth < maxExpressionDepth) :
    parsePrimary (fuel + 1) (cursor source rest depth terms) =
      parseOr fuel (cursor source inner (depth + 1) terms) >>= closeGroup := by
  have hskip := dropWhile_suffix_source hsuffix
  rw [hopen] at hskip
  rw [parsePrimary, skipWhitespace_cursor hsuffix, ok_bind, hopen, consume_found hskip, ok_bind]
  change (if maxExpressionDepth ≤ depth then _ else _) = _
  rw [if_neg (not_le.mpr hdepth)]
  rfl

theorem parsePrimary_deep (hsuffix : rest <:+ source) {inner : List Char}
    (hopen : rest.dropWhile isWhiteSpace = '(' :: inner) (hdepth : maxExpressionDepth ≤ depth) :
    ∃ message, parsePrimary (fuel + 1) (cursor source rest depth terms) =
      .error (.invalid message) := by
  have hskip := dropWhile_suffix_source hsuffix
  rw [hopen] at hskip
  refine ⟨"expression nesting exceeds " ++ toString maxExpressionDepth ++ " levels", ?_⟩
  rw [parsePrimary, skipWhitespace_cursor hsuffix, ok_bind, hopen, consume_found hskip, ok_bind]
  change (if maxExpressionDepth ≤ depth then _ else _) = _
  rw [if_pos hdepth]
  rfl

/-- The predicate that is read is counted and compiled. -/
def countTerm (r : List Char × ExpressionParser) : Except Halt (Expression × ExpressionParser) :=
  let p := { r.2 with terms := r.2.terms + 1 }
  if p.terms > maxExpressionTerms then
    throw (.invalid ("expression contains more than " ++ toString maxExpressionTerms ++ " terms"))
  else do
    let expression ← Predicate.compile r.1
    pure (expression, p)

theorem parsePrimary_predicate (hsuffix : rest <:+ source)
    (hopen : (rest.dropWhile isWhiteSpace).head? ≠ some '(') :
    parsePrimary (fuel + 1) (cursor source rest depth terms) =
      (cursor source (rest.dropWhile isWhiteSpace) depth terms).readPredicate >>= countTerm := by
  rw [parsePrimary, skipWhitespace_cursor hsuffix, ok_bind,
    consume_missing (dropWhile_suffix_source hsuffix) hopen, ok_bind]
  rfl

end Steps

/-! ## From the grammar to the parser -/

section Complete

variable {source rest blank text : List Char} {depth terms fuel : Nat} {e : Expression} {c : Char}

/-- What the parser does with a derived text before `rest`, by its symbol. After an operand of a
chain it stands where the loop of the chain looks for the next one. -/
def Runs (source : List Char) : Symbol → Nat → List Char → Nat → Expression → Prop
  | .primary, levels, text, count, e =>
    ∀ {rest : List Char} {depth terms fuel : Nat}, text ++ rest <:+ source →
      Follows ['+', '/', ')'] rest → depth + levels ≤ maxExpressionDepth →
      terms + count ≤ maxExpressionTerms → 3 * (text ++ rest).length + 1 ≤ fuel →
      ∃ blank, Blank blank ∧ blank <:+ text ∧
        parsePrimary fuel (cursor source (text ++ rest) depth terms) =
          .ok (e, cursor source (blank ++ rest) depth (terms + count))
  | .and, levels, text, count, e =>
    ∀ {rest : List Char} {depth terms fuel : Nat}, text ++ rest <:+ source →
      Follows ['+', '/', ')'] rest → depth + levels ≤ maxExpressionDepth →
      terms + count ≤ maxExpressionTerms → 3 * (text ++ rest).length + 2 ≤ fuel →
      ∃ blank fuel', Blank blank ∧ blank <:+ text ∧ 3 * (blank ++ rest).length + 1 ≤ fuel' ∧
        parseAnd fuel (cursor source (text ++ rest) depth terms) =
          andLoop fuel' e (cursor source (blank ++ rest) depth (terms + count))
  | .or, levels, text, count, e =>
    ∀ {rest : List Char} {depth terms fuel : Nat}, text ++ rest <:+ source →
      Follows ['/', ')'] rest → depth + levels ≤ maxExpressionDepth →
      terms + count ≤ maxExpressionTerms → 3 * (text ++ rest).length + 3 ≤ fuel →
      ∃ blank fuel', Blank blank ∧ blank <:+ text ∧ 3 * (blank ++ rest).length + 1 ≤ fuel' ∧
        parseOr fuel (cursor source (text ++ rest) depth terms) =
          orLoop fuel' e (cursor source (blank ++ rest) depth (terms + count))

/-- A chain of `+` ends before anything but `+`. -/
theorem Runs.and_done {levels count : Nat} (h : Runs source .and levels text count e)
    (hsuffix : text ++ rest <:+ source) (hrest : Follows ['/', ')'] rest)
    (hdepth : depth + levels ≤ maxExpressionDepth) (hterms : terms + count ≤ maxExpressionTerms)
    (hfuel : 3 * (text ++ rest).length + 2 ≤ fuel) :
    parseAnd fuel (cursor source (text ++ rest) depth terms) =
      .ok (e, cursor source rest depth (terms + count)) := by
  obtain ⟨blank, fuel', hblank, hend, hfuel', hrun⟩ :=
    h hsuffix (hrest.mono (by simp)) hdepth hterms hfuel
  obtain ⟨fuel', rfl⟩ : ∃ n, fuel' = n + 1 := ⟨fuel' - 1, by omega⟩
  have hsuffix' : blank ++ rest <:+ source :=
    (List.suffix_append_self_iff.mpr hend).trans hsuffix
  have hskip := (hrest.stops (by simp)).dropWhile hblank
  have hstop := hrest.head_ne (c := '+') (by simp)
  rw [← hskip] at hstop
  rw [hrun, andLoop_stop hsuffix' hstop, hskip]

/-- A chain of `/` ends before a parenthesis and at the end. -/
theorem Runs.or_done {levels count : Nat} (h : Runs source .or levels text count e)
    (hsuffix : text ++ rest <:+ source) (hrest : Follows [')'] rest)
    (hdepth : depth + levels ≤ maxExpressionDepth) (hterms : terms + count ≤ maxExpressionTerms)
    (hfuel : 3 * (text ++ rest).length + 3 ≤ fuel) :
    parseOr fuel (cursor source (text ++ rest) depth terms) =
      .ok (e, cursor source rest depth (terms + count)) := by
  obtain ⟨blank, fuel', hblank, hend, hfuel', hrun⟩ :=
    h hsuffix (hrest.mono (by simp)) hdepth hterms hfuel
  obtain ⟨fuel', rfl⟩ : ∃ n, fuel' = n + 1 := ⟨fuel' - 1, by omega⟩
  have hsuffix' : blank ++ rest <:+ source :=
    (List.suffix_append_self_iff.mpr hend).trans hsuffix
  have hskip := (hrest.stops (by simp)).dropWhile hblank
  have hstop := hrest.head_ne (c := '/') (by simp)
  rw [← hskip] at hstop
  rw [hrun, orLoop_stop hsuffix' hstop, hskip]

variable {levels count count' : Nat} {text' before after : List Char} {left right : Expression}

theorem runs_or_of_and (h : Runs source .and levels text count e) :
    Runs source .or levels text count e := by
  intro rest depth terms fuel hsuffix hrest hdepth hterms hfuel
  obtain ⟨fuel, rfl⟩ : ∃ n, fuel = n + 1 := ⟨fuel - 1, by omega⟩
  have hdone := h.and_done hsuffix hrest hdepth hterms (Nat.le_of_succ_le_succ hfuel)
  refine ⟨[], fuel, .nil, List.nil_suffix, ?_, ?_⟩
  · rw [List.length_append] at hfuel
    rw [List.nil_append]
    omega
  · rw [parseOr, hdone, ok_bind]
    rfl

theorem runs_or (hleft : Runs source .or levels text count left)
    (hright : Runs source .and levels text' count' right) :
    Runs source .or levels (text ++ '/' :: text') (count + count') (.or left right) := by
  intro rest depth terms fuel hsuffix hrest hdepth hterms hfuel
  rw [List.append_assoc, List.cons_append] at hsuffix hfuel ⊢
  obtain ⟨blank, fuel', hblank, hend, hfuel', hrun⟩ :=
    hleft hsuffix (follows_cons (by simp)) hdepth
      (by omega : terms + count ≤ maxExpressionTerms) hfuel
  obtain ⟨fuel', rfl⟩ : ∃ n, fuel' = n + 1 := ⟨fuel' - 1, by omega⟩
  have hloop : blank ++ '/' :: (text' ++ rest) <:+ source :=
    (List.suffix_append_self_iff.mpr hend).trans hsuffix
  have hnext : text' ++ rest <:+ source := (List.suffix_cons _ _).trans
    ((List.suffix_append blank _).trans hloop)
  simp only [List.length_append, List.length_cons] at hfuel'
  have hdone := hright.and_done hnext hrest hdepth
    (by omega : terms + count + count' ≤ maxExpressionTerms)
    (by rw [List.length_append]; omega : 3 * (text' ++ rest).length + 2 ≤ fuel')
  refine ⟨[], fuel', .nil, List.nil_suffix, by rw [List.nil_append]; omega, ?_⟩
  rw [hrun, orLoop_step hloop (hblank.operator rfl), hdone, ok_bind, Nat.add_assoc]
  rfl

theorem runs_and_of_primary (h : Runs source .primary levels text count e) :
    Runs source .and levels text count e := by
  intro rest depth terms fuel hsuffix hrest hdepth hterms hfuel
  obtain ⟨fuel, rfl⟩ : ∃ n, fuel = n + 1 := ⟨fuel - 1, by omega⟩
  have hfuel := Nat.le_of_succ_le_succ hfuel
  obtain ⟨blank, hblank, hend, hrun⟩ := h hsuffix hrest hdepth hterms hfuel
  have hlen := hend.length_le
  refine ⟨blank, fuel, hblank, hend, ?_, ?_⟩
  · rw [List.length_append] at hfuel ⊢
    omega
  · rw [parseAnd, hrun, ok_bind]

theorem runs_and (hleft : Runs source .and levels text count left)
    (hright : Runs source .primary levels text' count' right) :
    Runs source .and levels (text ++ '+' :: text') (count + count') (.and left right) := by
  intro rest depth terms fuel hsuffix hrest hdepth hterms hfuel
  rw [List.append_assoc, List.cons_append] at hsuffix hfuel ⊢
  obtain ⟨blank, fuel', hblank, hend, hfuel', hrun⟩ :=
    hleft hsuffix (follows_cons (by simp)) hdepth
      (by omega : terms + count ≤ maxExpressionTerms) hfuel
  obtain ⟨fuel', rfl⟩ : ∃ n, fuel' = n + 1 := ⟨fuel' - 1, by omega⟩
  have hloop : blank ++ '+' :: (text' ++ rest) <:+ source :=
    (List.suffix_append_self_iff.mpr hend).trans hsuffix
  have hnext : text' ++ rest <:+ source := (List.suffix_cons _ _).trans
    ((List.suffix_append blank _).trans hloop)
  simp only [List.length_append, List.length_cons] at hfuel'
  obtain ⟨blank', hblank', hend', hrun'⟩ := hright hnext hrest hdepth
    (by omega : terms + count + count' ≤ maxExpressionTerms)
    (by rw [List.length_append]; omega : 3 * (text' ++ rest).length + 1 ≤ fuel')
  have hlen := hend'.length_le
  refine ⟨blank', fuel', hblank', ?_, by rw [List.length_append]; omega, ?_⟩
  · exact hend'.trans ((List.suffix_cons _ _).trans (List.suffix_append text _))
  · rw [hrun, andLoop_step hloop (hblank.operator rfl), hrun', ok_bind, Nat.add_assoc]

theorem closeGroup_cursor (hsuffix : rest <:+ source) {next : List Char}
    (hnext : rest.dropWhile isWhiteSpace = ')' :: next) :
    closeGroup (e, cursor source rest (depth + 1) terms) =
      .ok (e, cursor source next depth terms) := by
  have hskip := dropWhile_suffix_source hsuffix
  rw [hnext] at hskip
  unfold closeGroup
  change ((cursor source rest depth terms).skipWhitespace >>= _) = _
  rw [skipWhitespace_cursor hsuffix, ok_bind, hnext, consume_found hskip]
  rfl

theorem closeGroup_open (hsuffix : rest <:+ source)
    (hne : (rest.dropWhile isWhiteSpace).head? ≠ some ')') :
    ∃ message, closeGroup (e, cursor source rest (depth + 1) terms) =
      .error (.invalid message) := by
  refine ⟨"missing ')' at byte " ++
    toString (cursor source (rest.dropWhile isWhiteSpace) depth terms).position, ?_⟩
  unfold closeGroup
  change ((cursor source rest depth terms).skipWhitespace >>= _) = _
  rw [skipWhitespace_cursor hsuffix, ok_bind,
    consume_missing (dropWhile_suffix_source hsuffix) hne]
  rfl

theorem runs_group (hbefore : Blank before) (h : Runs source .or levels text count e)
    (hafter : Blank after) :
    Runs source .primary (levels + 1) (before ++ '(' :: (text ++ ')' :: after)) count e := by
  intro rest depth terms fuel hsuffix hrest hdepth hterms hfuel
  have hsame : before ++ '(' :: (text ++ ')' :: after) ++ rest =
      before ++ '(' :: (text ++ ')' :: (after ++ rest)) := by simp
  rw [hsame] at hsuffix hfuel ⊢
  obtain ⟨fuel, rfl⟩ : ∃ n, fuel = n + 1 := ⟨fuel - 1, by omega⟩
  have hopen : (before ++ '(' :: (text ++ ')' :: (after ++ rest))).dropWhile isWhiteSpace =
      '(' :: (text ++ ')' :: (after ++ rest)) := hbefore.operator rfl
  have hinner : text ++ ')' :: (after ++ rest) <:+ source := (List.suffix_cons _ _).trans
    ((List.suffix_append before _).trans hsuffix)
  have hclose : ')' :: (after ++ rest) <:+ source := (List.suffix_append text _).trans hinner
  simp only [List.length_append, List.length_cons] at hfuel
  have hfuel : 3 * (text ++ ')' :: (after ++ rest)).length + 3 ≤ fuel := by
    simp only [List.length_append, List.length_cons]
    omega
  have hdone := h.or_done hinner (follows_cons (by simp))
    (by omega : depth + 1 + levels ≤ maxExpressionDepth) hterms hfuel
  refine ⟨after, hafter, ?_, ?_⟩
  · exact (List.suffix_cons _ _).trans ((List.suffix_append text _).trans
      ((List.suffix_cons _ _).trans (List.suffix_append before _)))
  · rw [parsePrimary_group hsuffix hopen (by omega), hdone, ok_bind]
    exact closeGroup_cursor hclose (Blank.nil.operator rfl)

theorem runs_predicate (htext : PredicateText text)
    (h : Predicate.compile (trimText text) = .ok e) : Runs source .primary levels text 1 e := by
  intro rest depth terms fuel hsuffix hrest hdepth hterms hfuel
  obtain ⟨fuel, rfl⟩ : ∃ n, fuel = n + 1 := ⟨fuel - 1, by omega⟩
  have hstops : Stops rest := hrest.stops (by simp)
  have hblank : trimText text ≠ [] := by
    intro hnil
    rw [hnil] at h
    exact compile_nil e h
  have htrim : trimText (text.dropWhile isWhiteSpace) = trimText text := by
    rw [trimText, trimText, List.dropWhile_idempotent]
  -- The text begins with something else than a blank, and so with no operator.
  have hstart : (text ++ rest).dropWhile isWhiteSpace = text.dropWhile isWhiteSpace ++ rest := by
    rw [List.dropWhile_append, if_neg]
    intro hempty
    rw [trimText, List.isEmpty_iff.mp hempty] at hblank
    exact hblank rfl
  have hread : predicateText (((text ++ rest).dropWhile isWhiteSpace).dropWhile isWhiteSpace) =
      some (text.dropWhile isWhiteSpace, rest) := by
    rw [List.dropWhile_idempotent, hstart, predicateText_eq_some, htrim]
    exact ⟨rfl, htext.dropWhile, hstops, hblank⟩
  have hopen : ((text ++ rest).dropWhile isWhiteSpace).head? ≠ some '(' := by
    rw [hstart]
    have hne : text.dropWhile isWhiteSpace ≠ [] := by
      intro hnil
      rw [trimText, hnil] at hblank
      exact hblank rfl
    have hdrop := htext.dropWhile
    generalize text.dropWhile isWhiteSpace = text at hdrop hne
    cases hdrop with
    | nil => exact absurd rfl hne
    | plain hc _ =>
      intro hhead
      cases hhead
      exact absurd hc.2 (by decide)
    | quoted hquote _ _ =>
      intro hhead
      cases hhead
      exact absurd hquote (by decide)
  obtain ⟨message, hrun⟩ := @readPredicate_cursor source _ depth terms
    (dropWhile_suffix_source hsuffix)
  rw [hread] at hrun
  refine ⟨[], .nil, List.nil_suffix, ?_⟩
  rw [parsePrimary_predicate hsuffix hopen, hrun]
  dsimp only
  rw [ok_bind, htrim]
  have hcount : ¬ (cursor source rest depth terms).terms + 1 > maxExpressionTerms :=
    not_lt.mpr hterms
  unfold countTerm
  dsimp only
  rw [if_neg hcount, h]
  rfl

theorem Derives.runs {symbol : Symbol} (h : Derives symbol levels text count e) :
    Runs source symbol levels text count e := by
  induction h with
  | and _ ih => exact runs_or_of_and ih
  | or _ _ ihleft ihright => exact runs_or ihleft ihright
  | primary _ ih => exact runs_and_of_primary ih
  | both _ _ ihleft ihright => exact runs_and ihleft ihright
  | group hbefore _ hafter ih => exact runs_group hbefore ih hafter
  | predicate htext h => exact runs_predicate htext h

end Complete

/-! ## From the parser to the grammar -/

/-- The text is reported as invalid, or the front of it that was read is of the kind `Q`, with its
number of predicates and its tree. -/
def Reads (source rest : List Char) (depth terms : Nat) (Q : List Char → Nat → Expression → Prop)
    (r : Except Halt (Expression × ExpressionParser)) : Prop :=
  (∃ message, r = .error (.invalid message)) ∨
    ∃ text rest' count e, rest = text ++ rest' ∧ terms + count ≤ maxExpressionTerms ∧
      Q text count e ∧ r = .ok (e, cursor source rest' depth (terms + count))

/-- What continues a tree of the kind `symbol` to another one. -/
def Continues (symbol : Symbol) (levels : Nat) (e : Expression) (text : List Char) (count : Nat)
    (e' : Expression) : Prop :=
  ∀ front before, Derives symbol levels front before e →
    Derives symbol levels (front ++ text) (before + count) e'

section Sound

variable {source rest text : List Char} {depth terms count levels fuel : Nat} {e : Expression}
  {symbol : Symbol} {P Q : List Char → Nat → Expression → Prop}
  {r : Except Halt (Expression × ExpressionParser)}

theorem Reads.bind {f : Expression × ExpressionParser → Except Halt (Expression × ExpressionParser)}
    (hr : Reads source rest depth terms P r)
    (hf : ∀ text rest' count e, rest = text ++ rest' → terms + count ≤ maxExpressionTerms →
      P text count e → Reads source rest' depth (terms + count)
        (fun text' count' e' => Q (text ++ text') (count + count') e')
        (f (e, cursor source rest' depth (terms + count)))) :
    Reads source rest depth terms Q (r >>= f) := by
  rcases hr with ⟨message, rfl⟩ | ⟨text, rest', count, e, hsplit, hterms, hP, rfl⟩
  · exact .inl ⟨message, rfl⟩
  · rcases hf text rest' count e hsplit hterms hP with
      ⟨message, herror⟩ | ⟨text', rest'', count', e', hsplit', hterms', hQ, hok⟩
    · exact .inl ⟨message, herror⟩
    · refine .inr ⟨text ++ text', rest'', count + count', e', ?_, ?_, hQ, ?_⟩
      · rw [hsplit, hsplit', List.append_assoc]
      · omega
      · rw [← Nat.add_assoc]
        exact hok

theorem Reads.mono (h : Reads source rest depth terms P r)
    (hPQ : ∀ text count e, P text count e → Q text count e) : Reads source rest depth terms Q r := by
  rcases h with herror | ⟨text, rest', count, e, hsplit, hterms, hP, hok⟩
  · exact .inl herror
  · exact .inr ⟨text, rest', count, e, hsplit, hterms, hPQ _ _ _ hP, hok⟩

/-- Blanks at the end of a text do not change what it means. -/
theorem Derives.blank {blank : List Char} (h : Derives symbol levels text count e)
    (hblank : Blank blank) : Derives symbol levels (text ++ blank) count e := by
  induction h with
  | and _ ih => exact .and ih
  | or hleft _ _ ih =>
    rw [List.append_assoc, List.cons_append]
    exact .or hleft ih
  | primary _ ih => exact .primary ih
  | both hleft _ _ ih =>
    rw [List.append_assoc, List.cons_append]
    exact .both hleft ih
  | group hbefore h hafter _ =>
    rw [List.append_assoc, List.cons_append, List.append_assoc, List.cons_append]
    exact .group hbefore h (hafter.append hblank)
  | predicate htext h =>
    rw [← hblank.trimText_right] at h
    exact .predicate (htext.append hblank.predicateText) h

/-- With so much of the bound left, the readers end. -/
structure Sound (source : List Char) (fuel : Nat) : Prop where
  primary : ∀ rest depth terms, rest <:+ source → depth ≤ maxExpressionDepth →
    terms ≤ maxExpressionTerms → 3 * rest.length + 1 ≤ fuel →
    Reads source rest depth terms (Derives .primary (maxExpressionDepth - depth))
      (parsePrimary fuel (cursor source rest depth terms))
  and : ∀ rest depth terms, rest <:+ source → depth ≤ maxExpressionDepth →
    terms ≤ maxExpressionTerms → 3 * rest.length + 2 ≤ fuel →
    Reads source rest depth terms (Derives .and (maxExpressionDepth - depth))
      (parseAnd fuel (cursor source rest depth terms))
  or : ∀ rest depth terms, rest <:+ source → depth ≤ maxExpressionDepth →
    terms ≤ maxExpressionTerms → 3 * rest.length + 3 ≤ fuel →
    Reads source rest depth terms (Derives .or (maxExpressionDepth - depth))
      (parseOr fuel (cursor source rest depth terms))
  andLoop : ∀ rest depth terms e, rest <:+ source → depth ≤ maxExpressionDepth →
    terms ≤ maxExpressionTerms → 3 * rest.length + 1 ≤ fuel →
    Reads source rest depth terms (Continues .and (maxExpressionDepth - depth) e)
      (andLoop fuel e (cursor source rest depth terms))
  orLoop : ∀ rest depth terms e, rest <:+ source → depth ≤ maxExpressionDepth →
    terms ≤ maxExpressionTerms → 3 * rest.length + 1 ≤ fuel →
    Reads source rest depth terms (Continues .or (maxExpressionDepth - depth) e)
      (orLoop fuel e (cursor source rest depth terms))

theorem reads_stop (hQ : Q (rest.takeWhile isWhiteSpace) 0 e) (hterms : terms ≤ maxExpressionTerms) :
    Reads source rest depth terms Q
      (.ok (e, cursor source (rest.dropWhile isWhiteSpace) depth terms)) :=
  .inr ⟨_, _, 0, e, (List.takeWhile_append_dropWhile).symm, hterms, hQ, rfl⟩

theorem Reads.prepend {front next : List Char} (hsplit : rest = front ++ next)
    (h : Reads source next depth terms (fun text count e => Q (front ++ text) count e) r) :
    Reads source rest depth terms Q r := by
  rcases h with herror | ⟨text, rest', count, e, hnext, hterms, hQ, hok⟩
  · exact .inl herror
  · refine .inr ⟨front ++ text, rest', count, e, ?_, hterms, hQ, hok⟩
    rw [hsplit, hnext, List.append_assoc]

/-- A blank and an operator, an operand, and then the rest of the chain. -/
theorem continues_step {front text' : List Char} {count' : Nat} {e' tree : Expression} {c : Char}
    (hfront : Blank front) (hstep : ∀ start before, Derives symbol levels start before e →
      Derives symbol levels (start ++ c :: text) (before + count) tree)
    (hrest : Continues symbol levels tree text' count' e') :
    Continues symbol levels e (front ++ [c] ++ (text ++ text')) (count + count') e' := by
  intro start before h
  have hall := hrest _ _ (hstep _ _ (h.blank hfront))
  have htext : start ++ (front ++ [c] ++ (text ++ text')) =
      start ++ front ++ c :: text ++ text' := by simp
  rw [htext, ← Nat.add_assoc]
  exact hall

theorem split_operator {c : Char} {next : List Char}
    (hnext : rest.dropWhile isWhiteSpace = c :: next) :
    rest = rest.takeWhile isWhiteSpace ++ [c] ++ next := by
  have hsplit : rest.takeWhile isWhiteSpace ++ rest.dropWhile isWhiteSpace = rest :=
    List.takeWhile_append_dropWhile
  rw [hnext] at hsplit
  rw [List.append_assoc, List.singleton_append, hsplit]

theorem length_operator {c : Char} {next : List Char}
    (hnext : rest.dropWhile isWhiteSpace = c :: next) : next.length + 1 ≤ rest.length := by
  have hsuffix : rest.dropWhile isWhiteSpace <:+ rest := List.dropWhile_suffix _
  have hlen := hsuffix.length_le
  rw [hnext, List.length_cons] at hlen
  exact hlen

theorem suffix_operator {c : Char} {next : List Char} (hsuffix : rest <:+ source)
    (hnext : rest.dropWhile isWhiteSpace = c :: next) : next <:+ source := by
  have hskip := dropWhile_suffix_source hsuffix
  rw [hnext] at hskip
  exact suffix_tail hskip

theorem suffix_of_split {rest' : List Char} (hsuffix : rest <:+ source) (h : rest = text ++ rest') :
    rest' <:+ source := (h ▸ List.suffix_append text rest').trans hsuffix

theorem length_of_split {rest' : List Char} (h : rest = text ++ rest') :
    rest'.length ≤ rest.length := by
  rw [h, List.length_append]
  exact Nat.le_add_left _ _

theorem Sound.andLoop_succ (h : Sound source fuel) (hsuffix : rest <:+ source)
    (hdepth : depth ≤ maxExpressionDepth) (hterms : terms ≤ maxExpressionTerms)
    (hfuel : 3 * rest.length + 1 ≤ fuel + 1) :
    Reads source rest depth terms (Continues .and (maxExpressionDepth - depth) e)
      (ExpressionParser.andLoop (fuel + 1) e (cursor source rest depth terms)) := by
  by_cases hplus : (rest.dropWhile isWhiteSpace).head? = some '+'
  · obtain ⟨next, hnext⟩ := List.head?_eq_some_iff.mp hplus
    have hlen := length_operator hnext
    have hsource := suffix_operator hsuffix hnext
    rw [andLoop_step hsuffix hnext]
    refine (Reads.bind (h.primary next depth terms hsource hdepth hterms (by omega)) ?_).prepend
      (split_operator hnext)
    intro text rest' count right hsplit hcount hright
    have hlen' := length_of_split hsplit
    refine (h.andLoop rest' depth (terms + count) _ (suffix_of_split hsource hsplit) hdepth hcount
      (by omega)).mono fun text' count' e' hcontinues => ?_
    exact continues_step (blank_takeWhile rest) (fun _ _ hleft => .both hleft hright) hcontinues
  · rw [andLoop_stop hsuffix hplus]
    exact reads_stop (fun start before hleft => hleft.blank (blank_takeWhile rest)) hterms

theorem Sound.orLoop_succ (h : Sound source fuel) (hsuffix : rest <:+ source)
    (hdepth : depth ≤ maxExpressionDepth) (hterms : terms ≤ maxExpressionTerms)
    (hfuel : 3 * rest.length + 1 ≤ fuel + 1) :
    Reads source rest depth terms (Continues .or (maxExpressionDepth - depth) e)
      (ExpressionParser.orLoop (fuel + 1) e (cursor source rest depth terms)) := by
  by_cases hslash : (rest.dropWhile isWhiteSpace).head? = some '/'
  · obtain ⟨next, hnext⟩ := List.head?_eq_some_iff.mp hslash
    have hlen := length_operator hnext
    have hsource := suffix_operator hsuffix hnext
    rw [orLoop_step hsuffix hnext]
    refine (Reads.bind (h.and next depth terms hsource hdepth hterms (by omega)) ?_).prepend
      (split_operator hnext)
    intro text rest' count right hsplit hcount hright
    have hlen' := length_of_split hsplit
    refine (h.orLoop rest' depth (terms + count) _ (suffix_of_split hsource hsplit) hdepth hcount
      (by omega)).mono fun text' count' e' hcontinues => ?_
    exact continues_step (blank_takeWhile rest) (fun _ _ hleft => .or hleft hright) hcontinues
  · rw [orLoop_stop hsuffix hslash]
    exact reads_stop (fun start before hleft => hleft.blank (blank_takeWhile rest)) hterms

theorem Sound.and_succ (h : Sound source fuel) (hsuffix : rest <:+ source)
    (hdepth : depth ≤ maxExpressionDepth) (hterms : terms ≤ maxExpressionTerms)
    (hfuel : 3 * rest.length + 2 ≤ fuel + 1) :
    Reads source rest depth terms (Derives .and (maxExpressionDepth - depth))
      (parseAnd (fuel + 1) (cursor source rest depth terms)) := by
  rw [parseAnd]
  refine Reads.bind (h.primary rest depth terms hsuffix hdepth hterms (by omega)) ?_
  intro text rest' count e hsplit hcount hfirst
  have hlen := length_of_split hsplit
  exact (h.andLoop rest' depth (terms + count) e (suffix_of_split hsuffix hsplit) hdepth hcount
    (by omega)).mono fun text' count' e' hcontinues => hcontinues _ _ (.primary hfirst)

theorem Sound.or_succ (h : Sound source fuel) (hsuffix : rest <:+ source)
    (hdepth : depth ≤ maxExpressionDepth) (hterms : terms ≤ maxExpressionTerms)
    (hfuel : 3 * rest.length + 3 ≤ fuel + 1) :
    Reads source rest depth terms (Derives .or (maxExpressionDepth - depth))
      (parseOr (fuel + 1) (cursor source rest depth terms)) := by
  rw [parseOr]
  refine Reads.bind (h.and rest depth terms hsuffix hdepth hterms (by omega)) ?_
  intro text rest' count e hsplit hcount hfirst
  have hlen := length_of_split hsplit
  exact (h.orLoop rest' depth (terms + count) e (suffix_of_split hsuffix hsplit) hdepth hcount
    (by omega)).mono fun text' count' e' hcontinues => hcontinues _ _ (.and hfirst)

theorem Sound.group_succ (h : Sound source fuel) (hsuffix : rest <:+ source) {inner : List Char}
    (hopen : rest.dropWhile isWhiteSpace = '(' :: inner) (hterms : terms ≤ maxExpressionTerms)
    (hfuel : 3 * rest.length + 1 ≤ fuel + 1) :
    Reads source rest depth terms (Derives .primary (maxExpressionDepth - depth))
      (parsePrimary (fuel + 1) (cursor source rest depth terms)) := by
  by_cases hdepth : depth < maxExpressionDepth
  · have hlen := length_operator hopen
    have hsource := suffix_operator hsuffix hopen
    rw [parsePrimary_group hsuffix hopen hdepth]
    rcases h.or inner (depth + 1) terms hsource hdepth hterms (by omega) with
      ⟨message, herror⟩ | ⟨text, rest', count, e, hsplit, hcount, htext, hok⟩
    · rw [herror]
      exact .inl ⟨message, rfl⟩
    · have hrest := suffix_of_split hsource hsplit
      rw [hok, ok_bind]
      by_cases hclose : (rest'.dropWhile isWhiteSpace).head? = some ')'
      · obtain ⟨next, hnext⟩ := List.head?_eq_some_iff.mp hclose
        rw [closeGroup_cursor hrest hnext]
        have hgroup := Derives.group (blank_takeWhile rest) (htext.blank (blank_takeWhile rest'))
          Blank.nil
        rw [show maxExpressionDepth - (depth + 1) + 1 = maxExpressionDepth - depth by omega] at hgroup
        refine .inr ⟨_, next, count, e, ?_, hcount, hgroup, rfl⟩
        have hfront := split_operator hopen
        have hback := split_operator hnext
        calc rest = rest.takeWhile isWhiteSpace ++ ['('] ++
              (text ++ (rest'.takeWhile isWhiteSpace ++ [')'] ++ next)) := by
              rw [← hback, ← hsplit]
              exact hfront
          _ = _ := by simp only [List.append_assoc, List.cons_append, List.nil_append]
      · exact .inl (closeGroup_open hrest hclose)
  · exact .inl (parsePrimary_deep hsuffix hopen (not_lt.mp hdepth))

theorem predicate_succ (hsuffix : rest <:+ source)
    (hopen : (rest.dropWhile isWhiteSpace).head? ≠ some '(') :
    Reads source rest depth terms (Derives .primary levels)
      (parsePrimary (fuel + 1) (cursor source rest depth terms)) := by
  obtain ⟨message, hread⟩ := @readPredicate_cursor source _ depth terms
    (dropWhile_suffix_source hsuffix)
  rw [List.dropWhile_idempotent] at hread
  rw [parsePrimary_predicate hsuffix hopen, hread]
  cases htext : predicateText (rest.dropWhile isWhiteSpace) with
  | none => exact .inl ⟨message, rfl⟩
  | some found =>
    obtain ⟨value, rest'⟩ := found
    obtain ⟨hsplit, hvalue, -, -⟩ := predicateText_eq_some.mp htext
    dsimp only
    rw [ok_bind]
    unfold countTerm
    dsimp only
    split
    · exact .inl ⟨_, rfl⟩
    · rename_i hcount
      have hcount : terms + 1 ≤ maxExpressionTerms := not_lt.mp hcount
      cases hcompile : Predicate.compile (trimText value) with
      | error halt =>
        obtain ⟨message, rfl⟩ := compile_reported _ halt hcompile
        exact .inl ⟨message, rfl⟩
      | ok e =>
        have hblank := blank_takeWhile rest
        rw [← hblank.trimText_left] at hcompile
        refine .inr ⟨_, rest', 1, e, ?_, hcount,
          .predicate (hblank.predicateText.append hvalue) hcompile, rfl⟩
        rw [List.append_assoc, ← hsplit, List.takeWhile_append_dropWhile]

theorem sound (source : List Char) (fuel : Nat) : Sound source fuel := by
  induction fuel with
  | zero =>
    refine ⟨?_, ?_, ?_, ?_, ?_⟩
    all_goals
      intros
      omega
  | succ fuel ih =>
    refine ⟨?_, ?_, ?_, ?_, ?_⟩
    · intro rest depth terms hsuffix hdepth hterms hfuel
      by_cases hopen : (rest.dropWhile isWhiteSpace).head? = some '('
      · obtain ⟨inner, hinner⟩ := List.head?_eq_some_iff.mp hopen
        exact ih.group_succ hsuffix hinner hterms hfuel
      · exact predicate_succ hsuffix hopen
    · exact fun rest depth terms => ih.and_succ
    · exact fun rest depth terms => ih.or_succ
    · exact fun rest depth terms e => ih.andLoop_succ
    · exact fun rest depth terms e => ih.orLoop_succ

end Sound

/-! ## Whole texts -/

/-- A text means an expression, within the limits of the parser. -/
def Accepts (source : String) (e : Expression) : Prop :=
  ∃ count ≤ maxExpressionTerms, Derives .or maxExpressionDepth source.toList count e

theorem reads_parseOr (source : List Char) :
    Reads source source 0 0 (Derives .or maxExpressionDepth)
      (parseOr (enough source) (cursor source source 0 0)) :=
  (sound source (enough source)).or source 0 0 (List.suffix_refl source) (Nat.zero_le _)
    (Nat.zero_le _) le_rfl

/-- Nothing may follow the expression. -/
def toEnd (source : List Char) (r : Expression × ExpressionParser) : Except Halt Expression := do
  let p ← r.2.skipWhitespace
  if p.position ≠ byteLen source then
    throw (.invalid ("unexpected token at byte " ++ toString p.position))
  else pure r.1

theorem parse_cursor (source : String) : parse source =
    parseOr (enough source.toList) (cursor source.toList source.toList 0 0) >>=
      toEnd source.toList := by
  rw [cursor_start]
  rfl

section Whole

variable {source rest : List Char} {depth terms : Nat} {e : Expression}

theorem offset_lt (h : rest <:+ source) (hne : rest ≠ []) : offset source rest < byteLen source := by
  obtain ⟨front, rfl⟩ := h
  obtain ⟨c, rest, rfl⟩ := List.exists_cons_of_ne_nil hne
  have hpos := c.utf8Size_pos
  rw [offset_append, byteLen_append, byteLen_cons]
  omega

theorem toEnd_blank (h : rest <:+ source) (hblank : Blank rest) :
    toEnd source (e, cursor source rest depth terms) = .ok e := by
  have hend : (cursor source [] depth terms).position = byteLen source := offset_nil
  unfold toEnd
  dsimp only
  rw [skipWhitespace_cursor h, ok_bind, List.dropWhile_eq_nil_iff.mpr hblank,
    if_neg (not_not.mpr hend)]
  rfl

theorem toEnd_more (h : rest <:+ source) (hmore : rest.dropWhile isWhiteSpace ≠ []) :
    ∃ message, toEnd source (e, cursor source rest depth terms) = .error (.invalid message) := by
  have hlt : (cursor source (rest.dropWhile isWhiteSpace) depth terms).position <
      byteLen source := offset_lt (dropWhile_suffix_source h) hmore
  unfold toEnd
  dsimp only
  rw [skipWhitespace_cursor h, ok_bind, if_pos hlt.ne]
  exact ⟨_, rfl⟩

/-- A text that is parsed is derived by the grammar, and any other is reported. -/
theorem parse_sound (source : String) :
    (∃ message, parse source = .error (.invalid message)) ∨
      ∃ e, parse source = .ok e ∧ Accepts source e := by
  rw [parse_cursor]
  rcases reads_parseOr source.toList with
    ⟨message, herror⟩ | ⟨text, rest, count, e, hsplit, hcount, htext, hok⟩
  · rw [herror]
    exact .inl ⟨message, rfl⟩
  · have hsuffix : rest <:+ source.toList := hsplit ▸ List.suffix_append text rest
    rw [hok, ok_bind]
    by_cases hmore : rest.dropWhile isWhiteSpace = []
    · have hblank : Blank rest := List.dropWhile_eq_nil_iff.mp hmore
      refine .inr ⟨e, toEnd_blank hsuffix hblank, count, by omega, ?_⟩
      rw [hsplit]
      exact htext.blank hblank
    · exact .inl (toEnd_more hsuffix hmore)

theorem parse_complete {source : String} (h : Accepts source e) : parse source = .ok e := by
  obtain ⟨count, hcount, hderives⟩ := h
  have hruns : Runs source.toList .or maxExpressionDepth source.toList count e := hderives.runs
  have hsource : source.toList ++ [] <:+ source.toList := by rw [List.append_nil]
  have hdone := hruns.or_done hsource (fun c hc => by cases hc)
    (Nat.zero_add _).le (by omega : 0 + count ≤ maxExpressionTerms)
    (by rw [List.append_nil]; exact le_rfl : _ ≤ enough source.toList)
  rw [List.append_nil] at hdone
  rw [parse_cursor, hdone, ok_bind]
  exact toEnd_blank List.nil_suffix .nil

end Whole

end Starry.GeoRelay
