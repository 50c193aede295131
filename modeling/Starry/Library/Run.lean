import Mathlib

/-!
# Runs of a transition system

A system is a relation `next s i t`: input `i` may take state `s` to state `t`. A run is a
finite sequence of such steps.
-/

namespace Library

variable {σ ι : Type*} {next next' : σ → ι → σ → Prop}

inductive Run (next : σ → ι → σ → Prop) : σ → List ι → σ → Prop
  | nil (s : σ) : Run next s [] s
  | snoc {s t u : σ} {is : List ι} {i : ι} :
      Run next s is t → next t i u → Run next s (is ++ [i]) u

/-- A partial step function as a relation, of the steps that `ok` admits. -/
def Guarded (step : σ → ι → Option σ) (ok : σ → ι → Bool) (s : σ) (i : ι) (t : σ) : Prop :=
  ok s i = true ∧ step s i = some t

/-- The steps of a function, without a guard. -/
def Steps (step : σ → ι → Option σ) : σ → ι → σ → Prop := Guarded step fun _ _ => true

/-- Runs the inputs in order, if each of them is possible and admitted. -/
def exec (step : σ → ι → Option σ) (ok : σ → ι → Bool) : σ → List ι → Option σ
  | s, [] => some s
  | s, i :: is => if ok s i then (step s i).bind fun t => exec step ok t is else none

theorem exec_cons {step : σ → ι → Option σ} {ok : σ → ι → Bool} {s t : σ} {i : ι} {is : List ι}
    (hok : ok s i = true) (h : step s i = some t) :
    exec step ok s (i :: is) = exec step ok t is := by
  rw [exec, if_pos hok, h]
  rfl

theorem exec_append {step : σ → ι → Option σ} {ok : σ → ι → Bool} {s t : σ} {is js : List ι}
    (h : exec step ok s is = some t) : exec step ok s (is ++ js) = exec step ok t js := by
  induction is generalizing s with
  | nil =>
    cases h
    rfl
  | cons i is ih =>
    rw [exec] at h
    split at h
    · rename_i hok
      obtain ⟨u, hu, h⟩ := Option.bind_eq_some_iff.mp h
      rw [List.cons_append, exec_cons hok hu]
      exact ih h
    · cases h

/-- `s` can be reached from `s₀`. -/
def Reachable (next : σ → ι → σ → Prop) (s₀ s : σ) : Prop := ∃ is, Run next s₀ is s

namespace Run

variable {s t u : σ} {is js : List ι}

theorem single {i : ι} (h : next s i t) : Run next s [i] t := by
  simpa using (Run.nil s).snoc h

/-- What holds at the start and is kept by every step holds at the end. -/
theorem invariant {P : σ → Prop} (h : Run next s is t) (h0 : P s)
    (hstep : ∀ s i t, P s → next s i t → P t) : P t := by
  induction h with
  | nil => exact h0
  | snoc _ hn ih => exact hstep _ _ _ ih hn

theorem mono (h : Run next s is t) (hsub : ∀ s i t, next s i t → next' s i t) :
    Run next' s is t := by
  induction h with
  | nil => exact .nil _
  | snoc _ hn ih => exact ih.snoc (hsub _ _ _ hn)

theorem append (h : Run next s is t) (h' : Run next t js u) : Run next s (is ++ js) u := by
  induction h' with
  | nil => simpa using h
  | snoc _ hn ih => simpa using ih.snoc hn

/-- Where a run leaves `P`, one of its steps does. -/
theorem leaves {P : σ → Prop} (h : Run next s is t) (hs : P s) (ht : ¬ P t) :
    ∃ js i u v, js ++ [i] <+: is ∧ Run next s js u ∧ P u ∧ next u i v ∧ ¬ P v := by
  induction h with
  | nil => exact absurd hs ht
  | @snoc u t is i hrun hn ih =>
    by_cases hu : P u
    · exact ⟨is, i, u, t, List.prefix_refl _, hrun, hu, hn, ht⟩
    · obtain ⟨js, j, x, y, hpre, hx⟩ := ih hu
      exact ⟨js, j, x, y, hpre.trans (List.prefix_append ..), hx⟩

/-- An evaluation is a run. -/
theorem of_exec {step : σ → ι → Option σ} {ok : σ → ι → Bool} (h : exec step ok s is = some t) :
    Run (Guarded step ok) s is t := by
  induction is generalizing s with
  | nil => cases h; exact .nil _
  | cons i is ih =>
    rw [exec] at h
    split at h
    · rename_i hok
      obtain ⟨u, hu, h⟩ := Option.bind_eq_some_iff.mp h
      exact (Run.single ⟨hok, hu⟩).append (ih h)
    · cases h

end Run

namespace Reachable

variable {s₀ s t : σ}

theorem refl (s : σ) : Reachable next s s := ⟨[], .nil s⟩

theorem step {i : ι} (h : Reachable next s₀ s) (hn : next s i t) : Reachable next s₀ t := by
  obtain ⟨is, hr⟩ := h
  exact ⟨_, hr.snoc hn⟩

theorem invariant {P : σ → Prop} (h : Reachable next s₀ s) (h0 : P s₀)
    (hstep : ∀ s i t, P s → next s i t → P t) : P s := by
  obtain ⟨is, hr⟩ := h
  exact hr.invariant h0 hstep

end Reachable

/-! ## Steps that were taken -/

/-- On the way from `s₀` to `s` a step with `P` was taken. -/
def Happened (next : σ → ι → σ → Prop) (s₀ : σ) (P : σ → ι → Prop) (s : σ) : Prop :=
  ∃ u i v, Reachable next s₀ u ∧ next u i v ∧ Reachable next v s ∧ P u i

namespace Happened

variable {s₀ s t : σ} {i : ι} {P Q : σ → ι → Prop}

theorem now (h : Reachable next s₀ s) (hn : next s i t) (hP : P s i) : Happened next s₀ P t :=
  ⟨s, i, t, h, hn, .refl t, hP⟩

theorem later (h : Happened next s₀ P s) (hn : next s i t) : Happened next s₀ P t := by
  obtain ⟨u, j, v, hu, hv, hs, hP⟩ := h
  exact ⟨u, j, v, hu, hv, hs.step hn, hP⟩

theorem mono (h : Happened next s₀ P s) (hsub : ∀ u j, P u j → Q u j) : Happened next s₀ Q s := by
  obtain ⟨u, j, v, hu, hv, hs, hP⟩ := h
  exact ⟨u, j, v, hu, hv, hs, hsub u j hP⟩

end Happened

/-! ## Steps that come to an end -/

/-- However the system goes on by steps of its own, a state in `Q` is reached, and it can go on until
then. -/
inductive Surely (next : σ → ι → σ → Prop) (own : ι → Prop) (Q : σ → Prop) : σ → Prop
  | now {s : σ} : Q s → Surely next own Q s
  | later {s : σ} : (∃ i t, own i ∧ next s i t) →
      (∀ i t, own i → next s i t → Surely next own Q t) → Surely next own Q s

/-- Where no step is left, `Q` holds. -/
theorem Surely.of_stuck {own : ι → Prop} {Q : σ → Prop} {s : σ} (h : Surely next own Q s)
    (hstuck : ∀ i t, own i → ¬ next s i t) : Q s := by
  cases h with
  | now h => exact h
  | later hsome _ =>
    obtain ⟨i, t, hi, hn⟩ := hsome
    exact absurd hn (hstuck i t hi)

/-- What is reached without meeting `Q` still has it ahead. -/
theorem Surely.step {own : ι → Prop} {Q : σ → Prop} {s t : σ} {i : ι} (h : Surely next own Q s)
    (hQ : ¬ Q s) (hi : own i) (hn : next s i t) : Surely next own Q t := by
  cases h with
  | now h => exact absurd h hQ
  | later _ hall => exact hall i t hi hn

/-! ## Systems of tasks -/

/-- One task of a list moves on. -/
theorem countP_set_of_getElem? {τ : Type*} {l : List τ} {i : Nat} {x y : τ} (p : τ → Bool)
    (h : l[i]? = some x) :
    (l.set i y).countP p + (p x).toNat = l.countP p + (p y).toNat := by
  obtain ⟨hlt, rfl⟩ := List.getElem?_eq_some_iff.mp h
  have hpos : (p l[i]).toNat ≤ l.countP p := by
    cases hp : p l[i] with
    | false => exact Nat.zero_le _
    | true => exact List.countP_pos_iff.mpr ⟨_, List.getElem_mem hlt, hp⟩
  have hnat : ∀ b : Bool, b.toNat = if b then 1 else 0 := by decide
  rw [List.countP_set hlt, hnat, hnat]
  rw [hnat] at hpos
  omega

theorem sum_map_set_of_getElem? {τ : Type*} {l : List τ} {i : Nat} {x y : τ} (f : τ → Nat)
    (h : l[i]? = some x) : ((l.set i y).map f).sum + f x = (l.map f).sum + f y := by
  induction l generalizing i with
  | nil => simp at h
  | cons z l ih =>
    cases i with
    | zero =>
      obtain rfl : z = x := by simpa using h
      simp only [List.set_cons_zero, List.map_cons, List.sum_cons]
      omega
    | succ i =>
      have hrest := ih (by simpa using h)
      simp only [List.set_cons_succ, List.map_cons, List.sum_cons]
      omega

/-- What one task counts for is part of the sum. -/
theorem le_sum_map_of_getElem? {τ : Type*} {l : List τ} {i : Nat} {x : τ} (f : τ → Nat)
    (h : l[i]? = some x) : f x ≤ (l.map f).sum :=
  List.single_le_sum (by simp) _ (List.mem_map_of_mem (List.mem_of_getElem? h))

end Library
