import Starry.Library.Window

/-!
# Counting in fixed windows

A window begins when it is first used, and again at the first use after it has ended. It admits what
comes up to a limit. Any interval of its length meets two windows at most.
-/

namespace Library

structure FixedWindow where
  started : Nat
  count : Nat
deriving DecidableEq, Repr

namespace FixedWindow

variable {w limit now later start : Nat} {times : List Nat} {x : FixedWindow}

/-- The window that `now` falls into. -/
def roll (w now : Nat) (x : FixedWindow) : FixedWindow :=
  if w ≤ now - x.started then ⟨now, 0⟩ else x

/-- Whether `now` is admitted, and the window after that. -/
def enter (w limit now : Nat) (x : FixedWindow) : Bool × FixedWindow :=
  let x := x.roll w now
  if limit ≤ x.count then (false, x) else (true, { x with count := x.count + 1 })

/-- What a window says of the times that were admitted before. -/
structure Counts (w limit now : Nat) (times : List Nat) (x : FixedWindow) : Prop where
  started : x.started ≤ now
  past : ∀ t ∈ times, t ≤ now ∧ t < x.started + w
  count : times.countP (fun t => decide (x.started ≤ t)) = x.count
  bound : x.count ≤ limit
  /-- Of the last window, what an interval that meets this one may hold. -/
  before : times.countP (fun t => decide (t < x.started ∧ x.started < t + w)) ≤ limit
  any : ∀ start, times.countP (Window.inside w start) ≤ 2 * limit

theorem countP_le_add {p q r : Nat → Bool} (h : ∀ t, p t = true → q t = true ∨ r t = true)
    (times : List Nat) : times.countP p ≤ times.countP q + times.countP r := by
  induction times with
  | nil => simp
  | cons t times ih =>
    have ht := h t
    simp only [List.countP_cons]
    split <;> split <;> split <;> simp_all <;> omega

namespace Counts

theorem fresh (w limit now : Nat) : Counts w limit now [] ⟨now, 0⟩ :=
  ⟨le_rfl, by simp, rfl, Nat.zero_le _, Nat.zero_le _, by simp⟩

theorem mono (h : Counts w limit now times x) (hle : now ≤ later) :
    Counts w limit later times x :=
  ⟨h.started.trans hle, fun t ht => ⟨(h.past t ht).1.trans hle, (h.past t ht).2⟩, h.count, h.bound,
    h.before, h.any⟩

/-- Everything that was admitted is before the end of the window. -/
theorem roll (hw : 0 < w) (h : Counts w limit now times x) :
    Counts w limit now times (x.roll w now) ∧ now < (x.roll w now).started + w := by
  have hstarted := h.started
  unfold FixedWindow.roll
  split
  · rename_i hended
    refine ⟨⟨le_rfl, fun t ht => ⟨(h.past t ht).1, ?_⟩, ?_, Nat.zero_le _, ?_, h.any⟩, ?_⟩
    · have hpast := (h.past t ht).2
      dsimp only
      omega
    · rw [List.countP_eq_zero]
      intro t ht hafter
      have hpast := (h.past t ht).2
      rw [decide_eq_true_iff] at hafter
      dsimp only at hafter
      omega
    · refine (List.countP_mono_left fun t _ ht => ?_).trans (h.count.le.trans h.bound)
      rw [decide_eq_true_iff] at ht ⊢
      dsimp only at ht
      omega
    · dsimp only
      omega
  · rename_i hlive
    exact ⟨h, by omega⟩

/-- What an interval holds is of this window, or of the last one. -/
theorem inside_le (h : Counts w limit now times x) (hstart : x.started < start + w) :
    times.countP (Window.inside w start) ≤ x.count + limit := by
  have hsplit := countP_le_add (p := Window.inside w start)
    (q := fun t => decide (x.started ≤ t))
    (r := fun t => decide (t < x.started ∧ x.started < t + w)) (fun t ht => by
      rw [Window.inside_iff] at ht
      simp only [decide_eq_true_eq]
      omega) times
  have hcount := h.count
  have hbefore := h.before
  omega

theorem push (h : Counts w limit now times x) (hlive : now < x.started + w)
    (hroom : x.count < limit) :
    Counts w limit now (times ++ [now]) { x with count := x.count + 1 } := by
  have hstarted := h.started
  refine ⟨hstarted, fun t ht => ?_, ?_, hroom, ?_, fun start => ?_⟩
  · rcases List.mem_append.mp ht with ht | ht
    · exact h.past t ht
    · rw [List.mem_singleton.mp ht]
      exact ⟨le_rfl, hlive⟩
  · rw [List.countP_append, h.count]
    simp [hstarted]
  · rw [List.countP_append]
    have hnow : ¬ now < x.started := Nat.not_lt.mpr hstarted
    simpa [hnow] using h.before
  · rw [List.countP_append]
    by_cases hin : Window.inside w start now = true
    · have hmeets := Window.inside_iff.mp hin
      have hle : times.countP (Window.inside w start) ≤ x.count + limit := h.inside_le (by omega)
      simp only [List.countP_singleton, hin, if_true]
      omega
    · have hany := h.any start
      simp only [List.countP_singleton, hin]
      simpa using hany

/-- What is admitted is counted, and the rest changes nothing. -/
theorem enter (hw : 0 < w) (h : Counts w limit now times x) :
    Counts w limit now (if (x.enter w limit now).1 then times ++ [now] else times)
      (x.enter w limit now).2 := by
  obtain ⟨hroll, hlive⟩ := h.roll hw
  unfold FixedWindow.enter
  dsimp only
  split
  · exact hroll
  · rename_i hroom
    exact hroll.push hlive (by omega)

/-- Only a window that is full refuses: as many as the limit were admitted a short time before. -/
theorem refused (hw : 0 < w) (h : Counts w limit now times x)
    (hrefused : (x.enter w limit now).1 = false) :
    limit ≤ times.countP (Window.live w now) := by
  obtain ⟨hroll, hlive⟩ := h.roll hw
  unfold FixedWindow.enter at hrefused
  dsimp only at hrefused
  split at hrefused
  · rename_i hfull
    refine hfull.trans (hroll.count.ge.trans (List.countP_mono_left fun t _ ht => ?_))
    rw [decide_eq_true_iff] at ht
    rw [Window.live_iff]
    omega
  · cases hrefused

end Counts

end FixedWindow

end Library
