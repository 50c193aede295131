import Mathlib

/-!
# Positions in a text

A text is its characters, and a position counts the bytes of their UTF-8. A slice that does not
begin and end between characters is none, as it is for one that ends outside of the text.
-/

namespace Library.Text

def byteLen (text : List Char) : Nat := (text.map Char.utf8Size).sum

/-- What is left of a text from a position on. -/
def sliceFrom : List Char → Nat → Option (List Char)
  | text, 0 => some text
  | [], _ + 1 => none
  | c :: text, n + 1 =>
    if c.utf8Size ≤ n + 1 then sliceFrom text (n + 1 - c.utf8Size) else none

/-- The text before a position. -/
def sliceTo : List Char → Nat → Option (List Char)
  | _, 0 => some []
  | [], _ + 1 => none
  | c :: text, n + 1 =>
    if c.utf8Size ≤ n + 1 then (sliceTo text (n + 1 - c.utf8Size)).map (c :: ·) else none

def slice (text : List Char) (start stop : Nat) : Option (List Char) :=
  if start ≤ stop then (sliceFrom text start).bind fun rest => sliceTo rest (stop - start)
  else none

/-- The position at which an end of the text begins. -/
def offset (text rest : List Char) : Nat := byteLen text - byteLen rest

variable {text a b rest : List Char} {c : Char}

@[simp] theorem byteLen_nil : byteLen [] = 0 := rfl

@[simp] theorem byteLen_cons : byteLen (c :: text) = c.utf8Size + byteLen text := by
  rw [byteLen, List.map_cons, List.sum_cons, byteLen]

@[simp] theorem byteLen_append : byteLen (a ++ b) = byteLen a + byteLen b := by
  rw [byteLen, List.map_append, List.sum_append, byteLen, byteLen]

theorem sliceFrom_append : sliceFrom (a ++ b) (byteLen a) = some b := by
  induction a with
  | nil => cases b <;> rfl
  | cons c a ih =>
    have hpos := c.utf8Size_pos
    obtain ⟨n, hn⟩ : ∃ n, byteLen (c :: a) = n + 1 := ⟨byteLen (c :: a) - 1, by simp; omega⟩
    rw [byteLen_cons] at hn
    rw [byteLen_cons, hn, List.cons_append, sliceFrom, if_pos (by omega), ← ih]
    congr 1
    omega

theorem sliceTo_append : sliceTo (a ++ b) (byteLen a) = some a := by
  induction a with
  | nil => cases b <;> rfl
  | cons c a ih =>
    have hpos := c.utf8Size_pos
    obtain ⟨n, hn⟩ : ∃ n, byteLen (c :: a) = n + 1 := ⟨byteLen (c :: a) - 1, by simp; omega⟩
    rw [byteLen_cons] at hn
    have hrest : n + 1 - c.utf8Size = byteLen a := by omega
    rw [byteLen_cons, hn, List.cons_append, sliceTo, if_pos (by omega), hrest, ih]
    rfl

theorem slice_append {d : List Char} :
    slice (a ++ (b ++ d)) (byteLen a) (byteLen a + byteLen b) = some b := by
  rw [slice, if_pos (Nat.le_add_right _ _), sliceFrom_append, Option.bind_some,
    Nat.add_sub_cancel_left, sliceTo_append]

theorem sliceTo_eq_some {n : Nat} : sliceTo text n = some a ↔ a <+: text ∧ byteLen a = n := by
  constructor
  · intro h
    induction text, n using sliceTo.induct generalizing a with
    | case1 text =>
      cases text <;> cases h <;> exact ⟨List.nil_prefix, rfl⟩
    | case2 n => cases h
    | case3 c text n hc ih =>
      rw [sliceTo, if_pos hc] at h
      obtain ⟨before, hbefore, rfl⟩ := Option.map_eq_some_iff.mp h
      obtain ⟨hstart, hlen⟩ := ih hbefore
      rw [byteLen_cons]
      exact ⟨List.cons_prefix_cons.mpr ⟨rfl, hstart⟩, by omega⟩
    | case4 c text n hc =>
      rw [sliceTo, if_neg hc] at h
      cases h
  · rintro ⟨⟨b, rfl⟩, rfl⟩
    exact sliceTo_append

/-! ## Characters replaced by others of the same size -/

section Replace

variable {f : Char → Char} (hf : ∀ c, (f c).utf8Size = c.utf8Size)
include hf

theorem byteLen_map (text : List Char) : byteLen (text.map f) = byteLen text := by
  induction text with
  | nil => rfl
  | cons c text ih => rw [List.map_cons, byteLen_cons, byteLen_cons, hf, ih]

theorem sliceTo_map (text : List Char) (n : Nat) :
    sliceTo (text.map f) n = (sliceTo text n).map (List.map f) := by
  induction text, n using sliceTo.induct with
  | case1 text => cases text <;> rfl
  | case2 n => rfl
  | case3 c text n hc ih =>
    rw [List.map_cons, sliceTo, sliceTo, hf, if_pos hc, if_pos hc, ih, Option.map_map,
      Option.map_map]
    rfl
  | case4 c text n hc =>
    rw [List.map_cons, sliceTo, sliceTo, hf, if_neg hc, if_neg hc]
    rfl

end Replace

/-! ## Ends of a text -/

theorem offset_append : offset (a ++ b) b = byteLen a := by
  rw [offset, byteLen_append, Nat.add_sub_cancel]

theorem sliceFrom_offset (h : rest <:+ text) : sliceFrom text (offset text rest) = some rest := by
  obtain ⟨before, rfl⟩ := h
  rw [offset_append]
  exact sliceFrom_append

theorem offset_cons (h : c :: rest <:+ text) :
    offset text (c :: rest) + c.utf8Size = offset text rest := by
  obtain ⟨before, rfl⟩ := h
  rw [offset_append, offset, byteLen_append, byteLen_cons]
  omega

theorem slice_offset (h : a ++ rest <:+ text) :
    slice text (offset text (a ++ rest)) (offset text rest) = some a := by
  obtain ⟨before, rfl⟩ := h
  have hrest : offset (before ++ (a ++ rest)) rest = byteLen before + byteLen a := by
    rw [← List.append_assoc, offset_append, byteLen_append]
  rw [offset_append, hrest]
  exact slice_append

theorem offset_self : offset text text = 0 := Nat.sub_self _

theorem offset_nil : offset text [] = byteLen text := rfl

/-! ## Literals -/

/-- The characters of a literal are read off it, without its bytes. -/
theorem size_literal {text : String} {chars : List Char} {n : Nat}
    (htext : text = String.ofList chars) (hsize : String.utf8Len chars = n) :
    text.utf8ByteSize = n := by
  rw [htext, String.utf8ByteSize_ofList, hsize]

theorem not_mem_literal {text : String} {chars : List Char} {c : Char}
    (htext : text = String.ofList chars) (hmem : c ∉ chars) : c ∉ text.toList := by
  rw [htext, String.toList_ofList]
  exact hmem

/-- How a text begins is read off its first literal. -/
theorem take_literal {text : String} {chars : List Char} {n : Nat}
    (htext : text = String.ofList chars) (hn : n ≤ chars.length) (rest : String) :
    (text ++ rest).toList.take n = chars.take n := by
  rw [htext, String.toList_append, String.toList_ofList, List.take_append_of_le_length hn]

end Library.Text
