import Mathlib

/-!
# A stream that arrives in pieces

The bytes of a stream arrive in pieces that its writer does not choose. A read takes what it can of
the next piece; reading exactly `n` goes on until it has them, or fails at the end of the stream.
-/

namespace Library

variable {α : Type*}

/-- `chunks` are the pieces of `bytes`. -/
structure Cut (bytes : List α) (chunks : List (List α)) : Prop where
  flatten : chunks.flatten = bytes
  nonempty : ∀ chunk ∈ chunks, chunk ≠ []

/-- One read into a buffer of `n`; at the end of the stream it gives nothing. -/
def readChunk (n : Nat) : List (List α) → List α × List (List α)
  | [] => ([], [])
  | chunk :: chunks =>
    if chunk.length ≤ n then (chunk, chunks) else (chunk.take n, chunk.drop n :: chunks)

/-- Reads until there are `n`. -/
def readExact : Nat → List (List α) → Option (List α) × List (List α)
  | 0, chunks => (some [], chunks)
  | _ + 1, [] => (none, [])
  | n + 1, chunk :: chunks =>
    if chunk.length ≤ n + 1 then
      let (more, left) := readExact (n + 1 - chunk.length) chunks
      (more.map (chunk ++ ·), left)
    else (some (chunk.take (n + 1)), chunk.drop (n + 1) :: chunks)

variable {n : Nat} {bytes chunk : List α} {chunks : List (List α)}

namespace Cut

theorem nil : Cut ([] : List α) [] := ⟨rfl, by simp⟩

theorem single (h : bytes ≠ []) : Cut bytes [bytes] := ⟨by simp, by simpa using h⟩

/-- The first piece may be any part that is not empty. -/
theorem pair (hn : 0 < n) (h : n < bytes.length) : Cut bytes [bytes.take n, bytes.drop n] := by
  refine ⟨by simp, ?_⟩
  simp only [List.mem_cons, List.not_mem_nil, or_false, forall_eq_or_imp, forall_eq]
  constructor
  · rw [← List.length_pos_iff, List.length_take]
    omega
  · rw [← List.length_pos_iff, List.length_drop]
    omega

theorem tail (h : Cut bytes (chunk :: chunks)) : Cut (bytes.drop chunk.length) chunks := by
  refine ⟨?_, fun c hc => h.nonempty c (List.mem_cons_of_mem _ hc)⟩
  rw [← h.flatten, List.flatten_cons, List.drop_left]

theorem head_eq (h : Cut bytes (chunk :: chunks)) : bytes.take chunk.length = chunk := by
  rw [← h.flatten, List.flatten_cons, List.take_left]

theorem head_pos (h : Cut bytes (chunk :: chunks)) : 0 < chunk.length :=
  List.length_pos_iff.mpr (h.nonempty chunk List.mem_cons_self)

theorem head_le (h : Cut bytes (chunk :: chunks)) : chunk.length ≤ bytes.length := by
  rw [← h.flatten, List.flatten_cons, List.length_append]
  exact Nat.le_add_right _ _

/-- A piece of which only a part was read. -/
theorem rest (h : Cut bytes (chunk :: chunks)) (hn : n < chunk.length) :
    Cut (bytes.drop n) (chunk.drop n :: chunks) := by
  constructor
  · rw [← h.flatten, List.flatten_cons, List.flatten_cons, List.drop_append_of_le_length hn.le]
  · intro c hc
    rcases List.mem_cons.mp hc with rfl | hc
    · rw [← List.length_pos_iff, List.length_drop]
      omega
    · exact h.nonempty c (List.mem_cons_of_mem _ hc)

end Cut

/-! ## Reading -/

theorem readChunk_le (h : chunk.length ≤ n) : readChunk n (chunk :: chunks) = (chunk, chunks) :=
  if_pos h

theorem readChunk_gt (h : n < chunk.length) :
    readChunk n (chunk :: chunks) = (chunk.take n, chunk.drop n :: chunks) :=
  if_neg (Nat.not_le.mpr h)

/-- A read gives a part of the bytes, and the rest is still cut into pieces. -/
theorem readChunk_spec (h : Cut bytes chunks) :
    (readChunk n chunks).1 = bytes.take (readChunk n chunks).1.length ∧
      (readChunk n chunks).1.length ≤ n ∧
      Cut (bytes.drop (readChunk n chunks).1.length) (readChunk n chunks).2 := by
  cases chunks with
  | nil =>
    have hnil : bytes = [] := h.flatten.symm
    subst hnil
    exact ⟨rfl, Nat.zero_le _, h⟩
  | cons chunk chunks =>
    rcases Nat.lt_or_ge n chunk.length with hgt | hle
    · have hlength : (chunk.take n).length = n := List.length_take_of_le hgt.le
      rw [readChunk_gt hgt]
      refine ⟨?_, hlength.le, ?_⟩
      · rw [hlength, ← h.flatten, List.flatten_cons, List.take_append_of_le_length hgt.le]
      · rw [hlength]
        exact h.rest hgt
    · rw [readChunk_le hle]
      exact ⟨h.head_eq.symm, hle, h.tail⟩

/-- Only the end of the stream gives nothing. -/
theorem readChunk_pos (h : Cut bytes chunks) (hn : 0 < n) :
    (readChunk n chunks).1.length = 0 ↔ bytes = [] := by
  cases chunks with
  | nil =>
    have hnil : bytes = [] := h.flatten.symm
    simp [readChunk, hnil]
  | cons chunk chunks =>
    have hpos := h.head_pos
    have hle := h.head_le
    have hne : bytes ≠ [] := List.length_pos_iff.mp (by omega)
    simp only [hne, iff_false]
    rcases Nat.lt_or_ge n chunk.length with hgt | hle
    · rw [readChunk_gt hgt, List.length_take]
      omega
    · rw [readChunk_le hle]
      exact Nat.ne_of_gt hpos

/-- Reading exactly `n` gives the next `n`, whatever the pieces are. -/
theorem readExact_some (h : Cut bytes chunks) (hn : n ≤ bytes.length) :
    (readExact n chunks).1 = some (bytes.take n) ∧ Cut (bytes.drop n) (readExact n chunks).2 := by
  induction chunks generalizing n bytes with
  | nil =>
    have hnil : bytes = [] := h.flatten.symm
    subst hnil
    obtain rfl : n = 0 := by simpa using hn
    exact ⟨rfl, h⟩
  | cons chunk chunks ih =>
    cases n with
    | zero => exact ⟨rfl, h⟩
    | succ n =>
      unfold readExact
      split
      · rename_i hle
        obtain ⟨hmore, hleft⟩ := ih h.tail
          (show n + 1 - chunk.length ≤ (bytes.drop chunk.length).length by
            rw [List.length_drop]
            omega)
        dsimp only
        constructor
        · rw [hmore, Option.map_some]
          nth_rewrite 1 [← h.head_eq]
          rw [← List.take_add, Nat.add_sub_cancel' hle]
        · rw [List.drop_drop, Nat.add_sub_cancel' hle] at hleft
          exact hleft
      · rename_i hgt
        constructor
        · rw [← h.flatten, List.flatten_cons, List.take_append_of_le_length (by omega)]
        · exact h.rest (by omega)

theorem readExact_none (h : Cut bytes chunks) (hn : bytes.length < n) :
    (readExact n chunks).1 = none := by
  induction chunks generalizing n bytes with
  | nil =>
    cases n with
    | zero => exact absurd hn (Nat.not_lt_zero _)
    | succ n => rfl
  | cons chunk chunks ih =>
    cases n with
    | zero => exact absurd hn (Nat.not_lt_zero _)
    | succ n =>
      have hle := h.head_le
      unfold readExact
      rw [if_pos (by omega)]
      dsimp only
      rw [ih h.tail (by rw [List.length_drop]; omega)]
      rfl

/-- The first read may end anywhere. -/
theorem exists_cut (n length : Nat) (bytes : List α) (hpos : 0 < length) (hn : length ≤ n)
    (hbytes : length ≤ bytes.length) :
    ∃ chunks, Cut bytes chunks ∧ (readChunk n chunks).1.length = length := by
  rcases Nat.lt_or_ge length bytes.length with hless | hall
  · have htake : (bytes.take length).length = length := List.length_take_of_le hbytes
    refine ⟨_, .pair hpos hless, ?_⟩
    rw [readChunk_le (by rwa [htake]), htake]
  · have hsame : length = bytes.length := Nat.le_antisymm hbytes hall
    refine ⟨_, .single (List.length_pos_iff.mp (hsame ▸ hpos)), ?_⟩
    rw [readChunk_le (hsame ▸ hn)]
    exact hsame.symm

end Library
