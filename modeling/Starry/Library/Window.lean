import Mathlib

/-!
# Times in a sliding window

Times are kept in the order in which they came, and at `now` the old ones are dropped from the
front. What is kept of all of them are those that a window with `now` in it may hold.
-/

namespace Library.Window

/-- Has not left the window of length `w` up to `now`. -/
def live (w now t : Nat) : Bool := decide (now < t + w)

/-- In the half-open window of length `w` from `start`. -/
def inside (w start t : Nat) : Bool := decide (start ≤ t) && decide (t < start + w)

def dropOld (w now : Nat) (times : List Nat) : List Nat := times.dropWhile fun t => !live w now t

/-- The end of all times, less some that have left the window. -/
def Kept (w now : Nat) (all kept : List Nat) : Prop :=
  ∃ dropped, all = dropped ++ kept ∧ ∀ t ∈ dropped, t + w ≤ now

variable {w now later start t : Nat} {times all kept : List Nat}

theorem live_iff : live w now t = true ↔ now < t + w := decide_eq_true_iff

theorem not_live_iff : live w now t = false ↔ t + w ≤ now := by
  rw [live, decide_eq_false_iff_not, not_lt]

theorem inside_iff : inside w start t = true ↔ start ≤ t ∧ t < start + w := by
  rw [inside, Bool.and_eq_true, decide_eq_true_iff, decide_eq_true_iff]

/-- As a difference that saturates. -/
theorem le_sub_iff (hw : 0 < w) : w ≤ now - t ↔ ¬ now < t + w := by omega

@[simp] theorem dropOld_nil : dropOld w now [] = [] := rfl

theorem dropOld_sublist : (dropOld w now times).Sublist times := List.dropWhile_sublist _

theorem dropOld_dropOld : dropOld w now (dropOld w now times) = dropOld w now times :=
  List.dropWhile_idempotent _ times

/-- Of times in their order nothing old is left. -/
theorem live_of_mem_dropOld (h : times.Pairwise (· ≤ ·)) (ht : t ∈ dropOld w now times) :
    live w now t = true := by
  induction times with
  | nil => cases ht
  | cons x times ih =>
    obtain ⟨hx, htimes⟩ := List.pairwise_cons.mp h
    rw [dropOld, List.dropWhile_cons] at ht
    split at ht
    · exact ih htimes ht
    · rename_i hlive
      rw [Bool.not_eq_true', Bool.not_eq_false, live_iff] at hlive
      rw [live_iff]
      rcases List.mem_cons.mp ht with rfl | ht
      · exact hlive
      · exact hlive.trans_le (Nat.add_le_add_right (hx t ht) w)

namespace Kept

theorem refl : Kept w now all all := ⟨[], rfl, by simp⟩

theorem mono (h : Kept w now all kept) (hle : now ≤ later) : Kept w later all kept := by
  obtain ⟨dropped, hsplit, hold⟩ := h
  exact ⟨dropped, hsplit, fun t ht => (hold t ht).trans hle⟩

theorem dropOld (h : Kept w now all kept) : Kept w now all (dropOld w now kept) := by
  obtain ⟨dropped, rfl, hold⟩ := h
  refine ⟨dropped ++ kept.takeWhile fun t => !live w now t, ?_, fun t ht => ?_⟩
  · rw [List.append_assoc, Window.dropOld, List.takeWhile_append_dropWhile]
  · rcases List.mem_append.mp ht with ht | ht
    · exact hold t ht
    · have hout := List.mem_takeWhile_imp ht
      rw [Bool.not_eq_true'] at hout
      exact not_live_iff.mp hout

theorem push (h : Kept w now all kept) (t : Nat) : Kept w now (all ++ [t]) (kept ++ [t]) := by
  obtain ⟨dropped, rfl, hold⟩ := h
  exact ⟨dropped, List.append_assoc .., hold⟩

theorem subset (h : Kept w now all kept) : kept ⊆ all := by
  obtain ⟨dropped, rfl, -⟩ := h
  exact List.subset_append_right dropped kept

theorem sorted (h : Kept w now all kept) (hall : all.Pairwise (· ≤ ·)) :
    kept.Pairwise (· ≤ ·) := by
  obtain ⟨dropped, rfl, -⟩ := h
  exact (List.pairwise_append.mp hall).2.1

/-- What is live has been kept. -/
theorem mem_of_live (h : Kept w now all kept) (ht : t ∈ all) (hlive : live w now t = true) :
    t ∈ kept := by
  obtain ⟨dropped, rfl, hold⟩ := h
  rcases List.mem_append.mp ht with ht | ht
  · exact absurd (live_iff.mp hlive) (not_lt.mpr (hold t ht))
  · exact ht

/-- Nothing that was dropped is in a window with `now`. -/
theorem count_inside (h : Kept w now all kept) (hnow : now < start + w) :
    all.countP (inside w start) ≤ kept.length := by
  obtain ⟨dropped, rfl, hold⟩ := h
  have hout : dropped.countP (inside w start) = 0 := by
    rw [List.countP_eq_zero]
    intro t ht hin
    have hle := hold t ht
    rw [inside_iff] at hin
    omega
  rw [List.countP_append, hout, Nat.zero_add]
  exact List.countP_le_length

/-- The live ones are those that are kept at `now`. -/
theorem count_live (h : Kept w now all kept) :
    all.countP (live w now) = kept.countP (live w now) := by
  obtain ⟨dropped, rfl, hold⟩ := h
  have hout : dropped.countP (live w now) = 0 := by
    rw [List.countP_eq_zero]
    intro t ht
    rw [Bool.not_eq_true, not_live_iff]
    exact hold t ht
  rw [List.countP_append, hout, Nat.zero_add]

/-- Of times in their order, as many are kept at `now` as are live. -/
theorem length_dropOld (h : Kept w now all kept) (hall : all.Pairwise (· ≤ ·)) :
    (Window.dropOld w now kept).length = all.countP (live w now) := by
  rw [h.dropOld.count_live, eq_comm, List.countP_eq_length]
  exact fun t ht => live_of_mem_dropOld (h.sorted hall) ht

end Kept

end Library.Window
