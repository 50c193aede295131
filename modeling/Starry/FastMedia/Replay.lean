import Starry.FastMedia.Limits

/-!
# FastMedia relay: the replay window over any calls

Rust stops at a subtraction below zero and at a shift by the width of its operand. The calls are
made here with these checks, from the default window and with any numbers.
-/

namespace Starry.FastMedia

/-! ## Checked arithmetic -/

def checkedSub (x y : Nat) : Option Nat := if y ≤ x then some (x - y) else none

/-- `u128 << n` -/
def checkedShl (x : BitVec 128) (n : Nat) : Option (BitVec 128) :=
  if n < 128 then some (x <<< n) else none

/-- `accept`, which has no value where the arithmetic would overflow. -/
def ReplayWindow.acceptChecked (w : ReplayWindow) (sequence : Nat) :
    Option (ReplayWindow × Bool) :=
  if sequence = 0 then some (w, false)
  else if sequence > w.maximum then
    -- `saturating_sub`
    let shift := sequence - w.maximum
    let bitmap := if shift ≥ 128 then some 1 else (checkedShl w.bitmap shift).map (· ||| 1)
    bitmap.map fun bitmap => (⟨sequence, bitmap⟩, true)
  else
    (checkedSub w.maximum sequence).bind fun distance =>
      if distance ≥ 128 then some (w, false)
      else (checkedShl 1 distance).map fun bit =>
        if w.bitmap &&& bit ≠ 0 then (w, false)
        else ({ w with bitmap := w.bitmap ||| bit }, true)

/-- A call, with the numbers that have been accepted. -/
def ReplayWindow.call (state : ReplayWindow × List Nat) (sequence : UInt64) :
    Option (ReplayWindow × List Nat) := do
  let (w, ok) ← state.1.acceptChecked sequence.toNat
  return (w, if ok then sequence.toNat :: state.2 else state.2)

/-- The calls of `accept` on the default window. -/
def ReplayWindow.calls (sequences : List UInt64) : Option (ReplayWindow × List Nat) :=
  sequences.foldlM ReplayWindow.call (.default, [])

/-! ## Any calls -/

theorem acceptChecked_eq (w : ReplayWindow) (sequence : Nat) :
    w.acceptChecked sequence = some (w.accept sequence) := by
  unfold ReplayWindow.acceptChecked ReplayWindow.accept
  split
  · rfl
  · split
    · dsimp only
      split
      · rfl
      · rename_i hshift
        rw [checkedShl, if_pos (by omega)]
        rfl
    · rename_i hle
      rw [checkedSub, if_pos (by omega)]
      dsimp only [Option.bind_some]
      split
      · rfl
      · rename_i hnear
        rw [checkedShl, if_pos (by omega)]
        dsimp only [Option.map_some]
        have hbit : ((1 <<< (w.maximum - sequence) : Nat) : BitVec 128) =
            1#128 <<< (w.maximum - sequence) := rfl
        rw [hbit]
        split <;> simp_all

/-- The largest number accepted. -/
def largest (accepted : List Nat) : Nat := accepted.foldr max 0

theorem maximum_accept {w : ReplayWindow} {accepted : List Nat} (h : w.maximum = largest accepted)
    (sequence : Nat) : (w.accept sequence).1.maximum =
      largest (if (w.accept sequence).2 then sequence :: accepted else accepted) := by
  have hcons : largest (sequence :: accepted) = max sequence w.maximum := by
    rw [h]
    rfl
  unfold ReplayWindow.accept
  split
  · simpa using h
  · split
    · simp only [if_true, hcons]
      omega
    · dsimp only
      split
      · simpa using h
      · split
        · simpa using h
        · simp only [if_true, hcons]
          omega

theorem maximum_accept_lt {w : ReplayWindow} {sequence bound : Nat} (h : w.maximum < bound)
    (hs : sequence < bound) : (w.accept sequence).1.maximum < bound := by
  unfold ReplayWindow.accept
  split
  · exact h
  · split
    · exact hs
    · dsimp only
      split
      · exact h
      · split <;> exact h

/-- The window after any calls. -/
theorem calls_tracks (sequences : List UInt64) : ∃ (w : ReplayWindow) (accepted : List Nat),
    ReplayWindow.calls sequences = some (w, accepted) ∧ w.Tracks accepted ∧
      w.maximum = largest accepted ∧ w.maximum < 2 ^ 64 := by
  induction sequences using List.reverseRecOn with
  | nil => exact ⟨_, _, rfl, tracks_default, rfl, by decide⟩
  | append_singleton sequences s ih =>
    obtain ⟨w, accepted, hcalls, htracks, hlargest, hbound⟩ := ih
    refine ⟨(w.accept s.toNat).1, _, ?_, (accept_spec htracks s.toNat).2,
      maximum_accept hlargest s.toNat, maximum_accept_lt hbound s.toNat_lt⟩
    unfold ReplayWindow.calls at hcalls ⊢
    rw [List.foldlM_append, hcalls]
    simp only [Option.bind_eq_bind, Option.bind_some, List.foldlM_cons, List.foldlM_nil,
      ReplayWindow.call, acceptChecked_eq]
    rfl

/-- After any calls a number is accepted exactly if it is not zero, has not been accepted, and lies
less than 128 places behind the largest one accepted; nothing overflows. -/
theorem replay_window_exact (sequences : List UInt64) (s : UInt64) :
    ∃ (w w' : ReplayWindow) (accepted : List Nat) (ok : Bool),
      ReplayWindow.calls sequences = some (w, accepted) ∧
      w.acceptChecked s.toNat = some (w', ok) ∧
      (ok = true ↔ 0 < s.toNat ∧ s.toNat ∉ accepted ∧ s.toNat + 128 > largest accepted) := by
  obtain ⟨w, accepted, hcalls, htracks, hlargest, -⟩ := calls_tracks sequences
  refine ⟨w, _, accepted, _, hcalls, acceptChecked_eq w s.toNat, ?_⟩
  rw [← hlargest]
  exact (accept_spec htracks s.toNat).1

/-- The window moves by 127 places, by 128, and to the end of its numbers. -/
example : (ReplayWindow.calls [1, 128, 1, 2, 129, 1, 2, 18446744073709551615, 130]).map (·.2) =
    some [18446744073709551615, 129, 2, 128, 1] := by decide

end Starry.FastMedia
