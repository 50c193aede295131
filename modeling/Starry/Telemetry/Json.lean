import Starry.ConfigStore.Records

/-!
# Compact JSON

The text of a value without spaces, and what reads it back. Both are for values in which no text has
to be escaped, as in what HBBR says of itself.
-/

open Library

namespace Starry.Telemetry

open Starry.ConfigStore (Value)

/-- A character that JSON has in a text as it is. -/
def isPlain (c : Char) : Bool := decide (' ' ≤ c) && decide (c ≤ '~') && c != '"' && c != '\\'

mutual

/-- No text has to be escaped, and a map has its names in their order. -/
def IsPlain : Value → Prop
  | .null | .bool _ | .uint _ => True
  | .number _ => False
  | .string s => s.toList.all isPlain = true
  | .array items => ItemsPlain items
  | .object fields => (fields.map Prod.fst).IsChain (· < ·) ∧ FieldsPlain fields

def ItemsPlain : List Value → Prop
  | [] => True
  | v :: items => IsPlain v ∧ ItemsPlain items

def FieldsPlain : List (String × Value) → Prop
  | [] => True
  | (name, v) :: fields => name.toList.all isPlain = true ∧ IsPlain v ∧ FieldsPlain fields

end

/-! ## Writing -/

def quoted (s : String) : List Char := '"' :: s.toList ++ ['"']

mutual

def render : Value → List Char
  | .null => ['n', 'u', 'l', 'l']
  | .bool true => ['t', 'r', 'u', 'e']
  | .bool false => ['f', 'a', 'l', 's', 'e']
  | .uint n => Nat.toDigits 10 n
  | .number text => text.toList
  | .string s => quoted s
  | .array [] => ['[', ']']
  | .array (v :: items) => '[' :: render v ++ renderItems items
  | .object [] => ['\x7b', '\x7d']
  | .object ((name, v) :: fields) =>
    '\x7b' :: quoted name ++ ':' :: render v ++ renderFields fields

/-- The items after the first, and the end of the array. -/
def renderItems : List Value → List Char
  | [] => [']']
  | v :: items => ',' :: render v ++ renderItems items

def renderFields : List (String × Value) → List Char
  | [] => ['\x7d']
  | (name, v) :: fields => ',' :: quoted name ++ ':' :: render v ++ renderFields fields

end

/-! ## Reading -/

def readQuoted : List Char → Option (String × List Char)
  | '"' :: text =>
    match text.dropWhile (· != '"') with
    | _ :: rest => some (String.ofList (text.takeWhile (· != '"')), rest)
    | [] => none
  | _ => none

def readDigits (text : List Char) : Option (Value × List Char) :=
  if (text.takeWhile Char.isDigit).isEmpty then none
  else some (.uint (Nat.ofDigitChars 10 (text.takeWhile Char.isDigit) 0),
    text.dropWhile Char.isDigit)

/-- A name, a colon and what `value` makes of the rest. -/
def readField (value : List Char → Option (Value × List Char)) (text : List Char) :
    Option ((String × Value) × List Char) := do
  let (name, text) ← readQuoted text
  guard (text.head? = some ':')
  let (v, text) ← value text.tail
  return ((name, v), text)

mutual

def readValue : Nat → List Char → Option (Value × List Char)
  | 0, _ => none
  | fuel + 1, text =>
    match text with
    | 'n' :: rest => some (.null, rest.drop 3)
    | 't' :: rest => some (.bool true, rest.drop 3)
    | 'f' :: rest => some (.bool false, rest.drop 4)
    | '"' :: rest => (readQuoted ('"' :: rest)).map fun (s, rest) => (.string s, rest)
    | '[' :: rest =>
      if rest.head? = some ']' then some (.array [], rest.tail)
      else do
        let (v, rest) ← readValue fuel rest
        let (items, rest) ← readItems fuel rest
        return (.array (v :: items), rest)
    | '\x7b' :: rest =>
      if rest.head? = some '\x7d' then some (.object [], rest.tail)
      else do
        let (field, rest) ← readField (readValue fuel) rest
        let (fields, rest) ← readFields fuel rest
        return (.object (field :: fields), rest)
    | text => readDigits text

def readItems : Nat → List Char → Option (List Value × List Char)
  | 0, _ => none
  | fuel + 1, text =>
    match text with
    | ']' :: rest => some ([], rest)
    | ',' :: rest => do
      let (v, rest) ← readValue fuel rest
      let (items, rest) ← readItems fuel rest
      return (v :: items, rest)
    | _ => none

def readFields : Nat → List Char → Option (List (String × Value) × List Char)
  | 0, _ => none
  | fuel + 1, text =>
    match text with
    | '\x7d' :: rest => some ([], rest)
    | ',' :: rest => do
      let (field, rest) ← readField (readValue fuel) rest
      let (fields, rest) ← readFields fuel rest
      return (field :: fields, rest)
    | _ => none

end

/-! ## What is read back -/

/-- A number ends where no digit follows. -/
def Ends (rest : List Char) : Prop := ∀ c ∈ rest.head?, c.isDigit = false

theorem plain_ne_quote {s : String} (h : s.toList.all isPlain = true) :
    ∀ c ∈ s.toList, (c != '"') = true := by
  rw [List.all_eq_true] at h
  intro c hc
  have hplain := h c hc
  simp only [isPlain, Bool.and_eq_true] at hplain
  exact hplain.1.2

theorem readQuoted_quoted {s : String} (h : s.toList.all isPlain = true) (rest : List Char) :
    readQuoted (quoted s ++ rest) = some (s, rest) := by
  have hquote := plain_ne_quote h
  have htake : (s.toList ++ '"' :: rest).takeWhile (· != '"') = s.toList := by
    rw [List.takeWhile_append_of_pos hquote]
    simp
  have hdrop : (s.toList ++ '"' :: rest).dropWhile (· != '"') = '"' :: rest := by
    rw [List.dropWhile_append_of_pos hquote]
    simp
  simp only [quoted, List.cons_append, List.append_assoc, List.nil_append, readQuoted, hdrop, htake,
    String.ofList_toList]

theorem readDigits_toDigits (n : Nat) {rest : List Char} (h : Ends rest) :
    readDigits (Nat.toDigits 10 n ++ rest) = some (.uint n, rest) := by
  have hdigit : ∀ c ∈ Nat.toDigits 10 n, c.isDigit = true := fun c hc =>
    Nat.isDigit_of_mem_toDigits (by decide) (by decide) hc
  have hnone : rest.takeWhile Char.isDigit = [] ∧ rest.dropWhile Char.isDigit = rest := by
    cases rest with
    | nil => exact ⟨rfl, rfl⟩
    | cons c rest =>
      have hc : c.isDigit = false := h c rfl
      simp [hc]
  have htake : (Nat.toDigits 10 n ++ rest).takeWhile Char.isDigit = Nat.toDigits 10 n := by
    rw [List.takeWhile_append_of_pos hdigit, hnone.1, List.append_nil]
  have hdrop : (Nat.toDigits 10 n ++ rest).dropWhile Char.isDigit = rest := by
    rw [List.dropWhile_append_of_pos hdigit, hnone.2]
  unfold readDigits
  rw [htake, hdrop, if_neg (by simp [Nat.toDigits_ne_nil]), Nat.ofDigitChars_ten_toDigits]

/-- A number begins with a digit. -/
theorem exists_digit (n : Nat) :
    ∃ c digits, Nat.toDigits 10 n = c :: digits ∧ c.isDigit = true := by
  obtain ⟨c, digits, hdigits⟩ := List.exists_cons_of_ne_nil (Nat.toDigits_ne_nil (n := n) (b := 10))
  refine ⟨c, digits, hdigits, ?_⟩
  exact Nat.isDigit_of_mem_toDigits (by decide) (by decide) (hdigits ▸ List.mem_cons_self)

/-- No value begins like the end of an array. -/
theorem head_render (v : Value) (h : IsPlain v) (rest : List Char) :
    (render v ++ rest).head? ≠ some ']' := by
  cases v with
  | null => simp [render]
  | bool b => cases b <;> simp [render]
  | uint n =>
    obtain ⟨c, digits, hdigits, hdigit⟩ := exists_digit n
    rw [render, hdigits]
    intro heq
    cases heq
    exact absurd hdigit (by decide)
  | number text => exact h.elim
  | string s => simp [render, quoted]
  | array items => cases items <;> simp [render]
  | object fields => cases fields <;> simp [render]

theorem ends_renderItems (items : List Value) (rest : List Char) :
    Ends (renderItems items ++ rest) := by
  cases items <;> simp [renderItems, Ends]

theorem ends_renderFields (fields : List (String × Value)) (rest : List Char) :
    Ends (renderFields fields ++ rest) := by
  cases fields <;> simp [renderFields, Ends]

theorem length_render_pos (v : Value) (h : IsPlain v) : 0 < (render v).length := by
  cases v with
  | null => simp [render]
  | bool b => cases b <;> simp [render]
  | uint n => exact List.length_pos_iff.mpr Nat.toDigits_ne_nil
  | number text => exact h.elim
  | string s => simp [render, quoted]
  | array items => cases items <;> simp [render]
  | object fields => cases fields <;> simp [render]

theorem readField_eq {name : String} {v : Value} {value : List Char → Option (Value × List Char)}
    {rest : List Char} (hname : name.toList.all isPlain = true)
    (hvalue : value (render v ++ rest) = some (v, rest)) :
    readField value (quoted name ++ ':' :: (render v ++ rest)) = some ((name, v), rest) := by
  unfold readField
  rw [readQuoted_quoted hname]
  simp [hvalue, guard]

mutual

/-- A value is read from the front of a text, with a step for each of its characters. -/
theorem readValue_render : ∀ (v : Value), IsPlain v → ∀ (fuel : Nat) (rest : List Char),
    (render v).length ≤ fuel → Ends rest → readValue fuel (render v ++ rest) = some (v, rest)
  | v, hv, 0, rest, hfuel, hrest => by
    have hpos := length_render_pos v hv
    omega
  | .null, _, fuel + 1, rest, _, _ => rfl
  | .bool true, _, fuel + 1, rest, _, _ => rfl
  | .bool false, _, fuel + 1, rest, _, _ => rfl
  | .uint n, _, fuel + 1, rest, _, hrest => by
    obtain ⟨c, digits, hdigits, hdigit⟩ := exists_digit n
    have hread := readDigits_toDigits n hrest
    rw [hdigits] at hread
    rw [render, hdigits, ← hread, List.cons_append, readValue]
    -- None of the other values begins with a digit.
    all_goals
      intro _ heq
      cases heq
      exact absurd hdigit (by decide)
  | .number _, hv, _ + 1, _, _, _ => hv.elim
  | .string s, hv, fuel + 1, rest, _, _ => by
    have hread := readQuoted_quoted hv rest
    simp only [quoted, List.cons_append] at hread
    simp only [render, quoted, List.cons_append, readValue, hread, Option.map_some]
  | .array [], _, fuel + 1, rest, _, _ => rfl
  | .array (v :: items), hv, fuel + 1, rest, hfuel, hrest => by
    simp only [render, List.length_cons, List.length_append] at hfuel
    have hhead := head_render v hv.1 (renderItems items ++ rest)
    have hvalue := readValue_render v hv.1 fuel (renderItems items ++ rest) (by omega)
      (ends_renderItems items rest)
    have hitems := readItems_render items hv.2 fuel rest (by omega)
    simp only [render, List.cons_append, List.append_assoc, readValue]
    rw [if_neg hhead, hvalue]
    simp [hitems]
  | .object [], _, fuel + 1, rest, _, _ => rfl
  | .object ((name, v) :: fields), hv, fuel + 1, rest, hfuel, hrest => by
    simp only [render, List.length_cons, List.length_append] at hfuel
    have hvalue := readValue_render v hv.2.2.1 fuel (renderFields fields ++ rest) (by omega)
      (ends_renderFields fields rest)
    have hfield := readField_eq hv.2.1 hvalue
    have hfields := readFields_render fields hv.2.2.2 fuel rest (by omega)
    have hhead : (quoted name ++ ':' :: (render v ++ (renderFields fields ++ rest))).head? ≠
        some '\x7d' := by
      simp [quoted]
    simp only [render, List.cons_append, List.append_assoc, readValue]
    rw [if_neg hhead, hfield]
    simp [hfields]

theorem readItems_render : ∀ (items : List Value), ItemsPlain items → ∀ (fuel : Nat)
    (rest : List Char), (renderItems items).length ≤ fuel →
      readItems fuel (renderItems items ++ rest) = some (items, rest)
  | [], _, 0, rest, hfuel => by simp [renderItems] at hfuel
  | _ :: _, _, 0, rest, hfuel => by simp [renderItems] at hfuel
  | [], _, fuel + 1, rest, _ => rfl
  | v :: items, hv, fuel + 1, rest, hfuel => by
    simp only [renderItems, List.length_cons, List.length_append] at hfuel
    have hvalue := readValue_render v hv.1 fuel (renderItems items ++ rest) (by omega)
      (ends_renderItems items rest)
    have hitems := readItems_render items hv.2 fuel rest (by omega)
    simp only [renderItems, List.cons_append, List.append_assoc, readItems]
    rw [hvalue]
    simp [hitems]

theorem readFields_render : ∀ (fields : List (String × Value)), FieldsPlain fields →
    ∀ (fuel : Nat) (rest : List Char), (renderFields fields).length ≤ fuel →
      readFields fuel (renderFields fields ++ rest) = some (fields, rest)
  | [], _, 0, rest, hfuel => by simp [renderFields] at hfuel
  | _ :: _, _, 0, rest, hfuel => by simp [renderFields] at hfuel
  | [], _, fuel + 1, rest, _ => rfl
  | (name, v) :: fields, hv, fuel + 1, rest, hfuel => by
    simp only [renderFields, List.length_cons, List.length_append] at hfuel
    have hvalue := readValue_render v hv.2.1 fuel (renderFields fields ++ rest) (by omega)
      (ends_renderFields fields rest)
    have hfield := readField_eq hv.1 hvalue
    have hfields := readFields_render fields hv.2.2 fuel rest (by omega)
    simp only [renderFields, List.cons_append, List.append_assoc, readFields]
    rw [hfield]
    simp [hfields]

end

/-! ## Sizes -/

mutual

/-- What the compact text of a value may come to, with a separator after each item. -/
def jsonSize : Value → Nat
  | .null => 4
  | .bool _ => 5
  | .uint n => (toString n).utf8ByteSize
  | .number text => text.utf8ByteSize
  | .string s => s.utf8ByteSize + 2
  | .array items => itemsSize items + 2
  | .object fields => fieldsSize fields + 2

def itemsSize : List Value → Nat
  | [] => 0
  | v :: items => jsonSize v + 1 + itemsSize items

def fieldsSize : List (String × Value) → Nat
  | [] => 0
  | (name, v) :: fields => name.utf8ByteSize + 4 + jsonSize v + fieldsSize fields

end

theorem quoted_size (s : String) : String.utf8Len (quoted s) = s.utf8ByteSize + 2 := by
  have hquote : '"'.utf8Size = 1 := by decide
  simp only [quoted, List.cons_append, String.utf8Len_cons, String.utf8Len_append,
    String.utf8Len_nil, String.utf8Len_toList, hquote]

mutual

theorem render_size : ∀ v : Value, String.utf8Len (render v) ≤ jsonSize v
  | .null | .bool true | .bool false => by decide
  | .uint n => by
    rw [jsonSize, render, Nat.toString_eq_repr, ← String.utf8Len_toList, Nat.toList_repr]
  | .number text => by rw [jsonSize, render, String.utf8Len_toList]
  | .string s => (quoted_size s).le
  | .array [] => by decide
  | .array (v :: items) => by
    have hv := render_size v
    have hitems := renderItems_size items
    have hopen : '['.utf8Size = 1 := by decide
    simp only [jsonSize, itemsSize, render, List.cons_append, String.utf8Len_cons,
      String.utf8Len_append, hopen]
    omega
  | .object [] => by decide
  | .object ((name, v) :: fields) => by
    have hv := render_size v
    have hname := quoted_size name
    have hfields := renderFields_size fields
    have hsigns : '\x7b'.utf8Size = 1 ∧ ':'.utf8Size = 1 := by decide
    simp only [jsonSize, fieldsSize, render, List.cons_append, String.utf8Len_cons,
      String.utf8Len_append, hsigns]
    omega

theorem renderItems_size : ∀ items : List Value,
    String.utf8Len (renderItems items) ≤ itemsSize items + 1
  | [] => by decide
  | v :: items => by
    have hv := render_size v
    have hitems := renderItems_size items
    have hcomma : ','.utf8Size = 1 := by decide
    simp only [itemsSize, renderItems, List.cons_append, String.utf8Len_cons,
      String.utf8Len_append, hcomma]
    omega

theorem renderFields_size : ∀ fields : List (String × Value),
    String.utf8Len (renderFields fields) ≤ fieldsSize fields + 1
  | [] => by decide
  | (name, v) :: fields => by
    have hv := render_size v
    have hname := quoted_size name
    have hfields := renderFields_size fields
    have hsigns : ','.utf8Size = 1 ∧ ':'.utf8Size = 1 := by decide
    simp only [fieldsSize, renderFields, List.cons_append, String.utf8Len_cons,
      String.utf8Len_append, hsigns]
    omega

end

/-! ## In bytes -/

def plainToVec (v : Value) : Bytes := asBytes (String.ofList (render v))

def plainFromSlice (bytes : Bytes) : Option Value := do
  let text ← ByteArray.utf8Decode? ⟨bytes.toArray⟩
  let (v, rest) ← readValue text.size text.toList
  guard rest.isEmpty
  return v

theorem plainToVec_size (v : Value) (h : IsPlain v) :
    0 < (plainToVec v).length ∧ (plainToVec v).length ≤ jsonSize v := by
  have hlength : (plainToVec v).length = String.utf8Len (render v) := by
    rw [← String.utf8ByteSize_ofList]
    rfl
  have hpos : String.utf8Len (render v) ≠ 0 := by
    rw [Ne, String.utf8Len_eq_zero]
    exact List.length_pos_iff.mp (length_render_pos v h)
  rw [hlength]
  exact ⟨Nat.pos_of_ne_zero hpos, render_size v⟩

theorem plainFromSlice_toVec (v : Value) (h : IsPlain v) :
    plainFromSlice (plainToVec v) = some v := by
  have hbytes : (⟨(plainToVec v).toArray⟩ : ByteArray) = (render v).utf8Encode := rfl
  have hread := readValue_render v h (render v).length [] le_rfl nofun
  rw [List.append_nil] at hread
  unfold plainFromSlice
  rw [hbytes, List.utf8Decode?_utf8Encode]
  simp [hread, guard]

end Starry.Telemetry
