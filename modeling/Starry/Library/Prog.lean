import Mathlib

/-!
# Programs over actions

A program ends with a value, or performs an action and goes on with its reply. The same
program is run to its end, stopped half way, and checked against a protocol.
-/

namespace Library

inductive Prog (A : Type) (R : A → Type) (α : Type)
  | pure (x : α)
  | act (a : A) (k : R a → Prog A R α)

variable {A : Type} {R : A → Type} {σ α β ε : Type}

namespace Prog

def bind : Prog A R α → (α → Prog A R β) → Prog A R β
  | .pure x, f => f x
  | .act a k, f => .act a fun r => (k r).bind f

instance : Monad (Prog A R) where
  pure := Prog.pure
  bind := Prog.bind

/-- The program of one action. -/
def perform (a : A) : Prog A R (R a) := .act a .pure

end Prog

/-- What is needed before an action for a condition on its reply and the state after it. -/
structure Rules (A : Type) (R : A → Type) (σ : Type) where
  before : (a : A) → (R a → σ → Prop) → σ → Prop
  mono : ∀ {a : A} {Q Q' : R a → σ → Prop} {s : σ},
    (∀ r t, Q r t → Q' r t) → before a Q s → before a Q' s

namespace Rules

/-- Every action is allowed where it is performed, and every outcome of it is as required. -/
def every (allowed : σ → A → Prop) (next : σ → (a : A) → R a → σ → Prop) : Rules A R σ where
  before a Q s := allowed s a ∧ ∀ r t, next s a r t → Q r t
  mono hQ h := ⟨h.1, fun r t hn => hQ r t (h.2 r t hn)⟩

/-- Some outcome of every action is as required. -/
def some (next : σ → (a : A) → R a → σ → Prop) : Rules A R σ where
  before a Q s := ∃ r t, next s a r t ∧ Q r t
  mono hQ h := by
    obtain ⟨r, t, hn, h⟩ := h
    exact ⟨r, t, hn, hQ r t h⟩

variable {L : Rules A R σ}

/-- The program ends as `Q` says, by the rules for its actions. -/
def Safe (L : Rules A R σ) : Prog A R α → (α → σ → Prop) → σ → Prop
  | .pure x, Q, s => Q x s
  | .act a k, Q, s => L.before a (fun r t => L.Safe (k r) Q t) s

/-- The same for a program that may fail, with a condition for each way of ending. -/
def Tries (L : Rules A R σ) (p : ExceptT ε (Prog A R) α) (Q : α → σ → Prop)
    (E : ε → σ → Prop) (s : σ) : Prop :=
  L.Safe p.run (fun r t => match r with | .ok x => Q x t | .error e => E e t) s

/-! ## Composition -/

variable {s t : σ} {Q Q' : α → σ → Prop} {E E' : ε → σ → Prop}

/-- A program whose failures are inspected. -/
@[simp] theorem safe_run {p : ExceptT ε (Prog A R) α} {Q : Except ε α → σ → Prop} :
    L.Safe p.run Q s ↔ L.Tries p (fun x => Q (.ok x)) (fun e => Q (.error e)) s := by
  unfold Tries
  have hQ : Q = fun r t => match r with | .ok x => Q (.ok x) t | .error e => Q (.error e) t := by
    funext r t
    cases r <;> rfl
  rw [← hQ]

@[simp] theorem safe_pure {x : α} : L.Safe (pure x) Q s ↔ Q x s := Iff.rfl

@[simp] theorem safe_perform {a : A} {Q : R a → σ → Prop} :
    L.Safe (Prog.perform a) Q s ↔ L.before a Q s := Iff.rfl

@[simp] theorem safe_bind {p : Prog A R α} {f : α → Prog A R β} {Q : β → σ → Prop} :
    L.Safe (p >>= f) Q s ↔ L.Safe p (fun x => L.Safe (f x) Q) s := by
  change L.Safe (p.bind f) Q s ↔ _
  induction p generalizing s with
  | pure x => exact Iff.rfl
  | act a k ih => exact ⟨L.mono fun r t => (ih r).mp, L.mono fun r t => (ih r).mpr⟩

@[simp] theorem safe_map {p : Prog A R α} {f : α → β} {Q : β → σ → Prop} :
    L.Safe (f <$> p) Q s ↔ L.Safe p (fun x => Q (f x)) s :=
  safe_bind

@[simp] theorem safe_discard {p : Prog A R α} {Q : PUnit → σ → Prop} :
    L.Safe (discard p) Q s ↔ L.Safe p (fun _ => Q ()) s :=
  safe_bind

theorem Safe.mono {p : Prog A R α} (h : L.Safe p Q s) (hQ : ∀ x t, Q x t → Q' x t) :
    L.Safe p Q' s := by
  induction p generalizing s with
  | pure x => exact hQ x s h
  | act a k ih => exact L.mono (fun r t => ih r) h

@[simp] theorem tries_pure {x : α} : L.Tries (pure x) Q E s ↔ Q x s := Iff.rfl

@[simp] theorem tries_throw {e : ε} : L.Tries (throw e : ExceptT ε (Prog A R) α) Q E s ↔ E e s :=
  Iff.rfl

@[simp] theorem tries_lift {p : Prog A R α} :
    L.Tries (liftM p : ExceptT ε (Prog A R) α) Q E s ↔ L.Safe p Q s := by
  change L.Safe (Except.ok <$> p) _ s ↔ _
  rw [safe_map]

@[simp] theorem tries_bind {p : ExceptT ε (Prog A R) α} {f : α → ExceptT ε (Prog A R) β}
    {Q : β → σ → Prop} : L.Tries (p >>= f) Q E s ↔ L.Tries p (fun x => L.Tries (f x) Q E) E s := by
  change L.Safe (p.run >>= _) _ s ↔ _
  rw [safe_bind]
  constructor
  all_goals
    intro h
    refine h.mono fun r t hr => ?_
    cases r <;> exact hr

@[simp] theorem tries_discard {p : ExceptT ε (Prog A R) α} {Q : PUnit → σ → Prop} :
    L.Tries (discard p) Q E s ↔ L.Tries p (fun _ => Q ()) E s :=
  tries_bind

@[simp] theorem tries_tryCatch {p : ExceptT ε (Prog A R) α} {f : ε → ExceptT ε (Prog A R) α} :
    L.Tries (tryCatch p f) Q E s ↔ L.Tries p Q (fun e => L.Tries (f e) Q E) s := by
  change L.Safe (p.run >>= _) _ s ↔ _
  rw [safe_bind]
  constructor
  all_goals
    intro h
    refine h.mono fun r t hr => ?_
    cases r <;> exact hr

theorem Tries.mono {p : ExceptT ε (Prog A R) α} (h : L.Tries p Q E s)
    (hQ : ∀ x t, Q x t → Q' x t) (hE : ∀ e t, E e t → E' e t) : L.Tries p Q' E' s :=
  Safe.mono h fun r t hr => by
    cases r with
    | ok x => exact hQ x t hr
    | error e => exact hE e t hr

end Rules

/-! ## The actions of a program -/

/-- Every action of the program is one of `S`, whatever the replies. -/
def Prog.Only (S : A → Prop) : Prog A R α → Prop
  | .pure _ => True
  | .act a k => S a ∧ ∀ r, (k r).Only S

namespace Prog

variable {S S' : A → Prop}

@[simp] theorem only_pure {x : α} : (Pure.pure x : Prog A R α).Only S := trivial

@[simp] theorem only_perform {a : A} : (perform a : Prog A R (R a)).Only S ↔ S a := by
  simp [perform, Only]

theorem Only.bind {p : Prog A R α} {f : α → Prog A R β} (h : p.Only S) (h' : ∀ x, (f x).Only S) :
    (p >>= f).Only S := by
  change (p.bind f).Only S
  induction p with
  | pure x => exact h' x
  | act a k ih => exact ⟨h.1, fun r => ih r (h.2 r)⟩

theorem Only.discard {p : Prog A R α} (h : p.Only S) : (Functor.discard p).Only S :=
  Only.bind h fun _ => trivial

theorem Only.mono {p : Prog A R α} (h : p.Only S) (hS : ∀ a, S a → S' a) : p.Only S' := by
  induction p with
  | pure x => trivial
  | act a k ih => exact ⟨hS a h.1, fun r => ih r (h.2 r)⟩

/-- What every action of `S` needs and keeps holds throughout the program. -/
theorem Only.safe {allowed : σ → A → Prop} {next : σ → (a : A) → R a → σ → Prop} {I : σ → Prop}
    {p : Prog A R α} {s : σ} (h : p.Only S) (hs : I s)
    (hS : ∀ s a, S a → I s → allowed s a ∧ ∀ r t, next s a r t → I t) :
    (Rules.every allowed next).Safe p (fun _ => I) s := by
  induction p generalizing s with
  | pure x => exact hs
  | act a k ih =>
    obtain ⟨hok, hstep⟩ := hS s a h.1 hs
    exact ⟨hok, fun r t hn => ih r (h.2 r) (hstep r t hn)⟩

/-- `Only` for a program that may fail. -/
def TryOnly (S : A → Prop) (p : ExceptT ε (Prog A R) α) : Prop := p.run.Only S

@[simp] theorem tryOnly_pure {x : α} : TryOnly S (Pure.pure x : ExceptT ε (Prog A R) α) := trivial

@[simp] theorem tryOnly_throw {e : ε} : TryOnly S (throw e : ExceptT ε (Prog A R) α) := trivial

theorem TryOnly.lift {p : Prog A R α} (h : p.Only S) :
    TryOnly S (liftM p : ExceptT ε (Prog A R) α) :=
  Only.bind h fun _ => trivial

theorem TryOnly.bind {p : ExceptT ε (Prog A R) α} {f : α → ExceptT ε (Prog A R) β}
    (h : TryOnly S p) (h' : ∀ x, TryOnly S (f x)) : TryOnly S (p >>= f) := by
  refine Only.bind h fun r => ?_
  cases r with
  | ok x => exact h' x
  | error e => trivial

theorem TryOnly.discard {p : ExceptT ε (Prog A R) α} (h : TryOnly S p) :
    TryOnly S (Functor.discard p) :=
  TryOnly.bind h fun _ => trivial

theorem TryOnly.mono {p : ExceptT ε (Prog A R) α} (h : TryOnly S p) (hS : ∀ a, S a → S' a) :
    TryOnly S' p :=
  Only.mono h hS

end Prog

/-- The program performs an action of `S` before it ends, whatever the replies. -/
def Prog.Must (S : A → Prop) : Prog A R α → Prop
  | .pure _ => False
  | .act a k => S a ∨ ∀ r, (k r).Must S

/-! ## Runs -/

/-- One action of a run, its reply and the state after it. -/
structure Event (A : Type) (R : A → Type) (σ : Type) where
  act : A
  reply : R act
  state : σ

/-- A run of a program to its end, with what happened on the way. -/
inductive Eval (next : σ → (a : A) → R a → σ → Prop) :
    Prog A R α → σ → List (Event A R σ) → α → σ → Prop
  | pure (x : α) (s : σ) : Eval next (.pure x) s [] x s
  | act {a : A} {k : R a → Prog A R α} {s t u : σ} {r : R a} {es : List (Event A R σ)} {x : α} :
      next s a r t → Eval next (k r) t es x u → Eval next (.act a k) s (⟨a, r, t⟩ :: es) x u

/-- The states a program passes through: where it may be stopped. -/
inductive Passes (next : σ → (a : A) → R a → σ → Prop) : Prog A R α → σ → σ → Prop
  | here (p : Prog A R α) (s : σ) : Passes next p s s
  | act {a : A} {k : R a → Prog A R α} {s t u : σ} {r : R a} :
      next s a r t → Passes next (k r) t u → Passes next (.act a k) s u

/-- A run of a program that is not at its end, and what is left of the program. -/
inductive Partway (next : σ → (a : A) → R a → σ → Prop) :
    Prog A R α → σ → Prog A R α → σ → Prop
  | here (p : Prog A R α) (s : σ) : Partway next p s p s
  | act {a : A} {k : R a → Prog A R α} {q : Prog A R α} {s t u : σ} {r : R a} :
      next s a r t → Partway next (k r) t q u → Partway next (.act a k) s q u

variable {next : σ → (a : A) → R a → σ → Prop} {s t : σ} {p : Prog A R α}

theorem Rules.Safe.eval {allowed : σ → A → Prop} {Q : α → σ → Prop} {es : List (Event A R σ)}
    {x : α} (h : (Rules.every allowed next).Safe p Q s) (he : Eval next p s es x t) : Q x t := by
  induction he with
  | pure x s => exact h
  | act hn _ ih => exact ih (h.2 _ _ hn)

/-- What every action needs of its state holds wherever the program is stopped. -/
theorem Rules.Safe.passes {allowed : σ → A → Prop} {Q : α → σ → Prop} {I : σ → Prop}
    (h : (Rules.every allowed next).Safe p Q s) (hp : Passes next p s t)
    (hI : ∀ s a, allowed s a → I s) (hQ : ∀ x s, Q x s → I s) : I t := by
  induction hp with
  | here p s =>
    cases p with
    | pure x => exact hQ x s h
    | act a k => exact hI s a h.1
  | act hn _ ih => exact ih (h.2 _ _ hn)

/-- What may happen is what happens in some run. -/
theorem Rules.Safe.exists_eval {Q : α → σ → Prop} (h : (Rules.some next).Safe p Q s) :
    ∃ es x t, Eval next p s es x t ∧ Q x t := by
  induction p generalizing s with
  | pure x => exact ⟨[], x, s, .pure x s, h⟩
  | act a k ih =>
    obtain ⟨r, t, hn, h⟩ := h
    obtain ⟨es, x, u, he, hQ⟩ := ih r h
    exact ⟨_, x, u, .act hn he, hQ⟩

theorem Eval.mono {next' : σ → (a : A) → R a → σ → Prop} {es : List (Event A R σ)} {x : α}
    (h : Eval next p s es x t) (hsub : ∀ s a r t, next s a r t → next' s a r t) :
    Eval next' p s es x t := by
  induction h with
  | pure x s => exact .pure x s
  | act hn _ ih => exact .act (hsub _ _ _ _ hn) ih

theorem Passes.mono {next' : σ → (a : A) → R a → σ → Prop} (h : Passes next p s t)
    (hsub : ∀ s a r t, next s a r t → next' s a r t) : Passes next' p s t := by
  induction h with
  | here p s => exact .here p s
  | act hn _ ih => exact .act (hsub _ _ _ _ hn) ih

/-- What every action keeps holds wherever the program is stopped. -/
theorem Passes.invariant {P : σ → Prop} (h : Passes next p s t) (hs : P s)
    (hstep : ∀ s a r t, P s → next s a r t → P t) : P t := by
  induction h with
  | here p s => exact hs
  | act hn _ ih => exact ih (hstep _ _ _ _ hs hn)

theorem Eval.ends {es : List (Event A R σ)} {x : α} (h : Eval next p s es x t) :
    Passes next p s t := by
  induction h with
  | pure x s => exact .here _ s
  | act hn _ ih => exact .act hn ih

/-- A run of two programs in sequence is a run of each. -/
theorem Eval.of_bind {p : Prog A R α} {f : α → Prog A R β} {s t : σ} {es : List (Event A R σ)}
    {x : β} (h : Eval next (p >>= f) s es x t) :
    ∃ es₁ es₂ y u, es = es₁ ++ es₂ ∧ Eval next p s es₁ y u ∧ Eval next (f y) u es₂ x t := by
  change Eval next (p.bind f) s es x t at h
  induction p generalizing s es with
  | pure y => exact ⟨[], es, y, s, rfl, .pure y s, h⟩
  | act a k ih =>
    cases h with
    | act hn h =>
      obtain ⟨es₁, es₂, y, u, rfl, h₁, h₂⟩ := ih _ h
      exact ⟨_ :: es₁, es₂, y, u, rfl, .act hn h₁, h₂⟩

theorem Eval.passes {es : List (Event A R σ)} {x : α} (h : Eval next p s es x t) :
    ∀ e ∈ es, Passes next p s e.state := by
  induction h with
  | pure x s => simp
  | act hn _ ih =>
    intro e he
    rcases List.mem_cons.mp he with rfl | he
    · exact .act hn (.here _ _)
    · exact .act hn (ih e he)

/-! ## Evaluation

An environment chooses what each action does; its choices make the run a computation. -/

section Machine

variable {C : A → Type} {step : σ → (a : A) → C a → Option (R a × σ)}
  {choose : σ → (a : A) → C a}

def byChoice (step : σ → (a : A) → C a → Option (R a × σ)) (s : σ) (a : A) (r : R a) (t : σ) :
    Prop :=
  ∃ c, step s a c = some (r, t)

def Prog.runWith (step : σ → (a : A) → C a → Option (R a × σ)) (choose : σ → (a : A) → C a) :
    Prog A R α → σ → Option (α × σ)
  | .pure x, s => some (x, s)
  | .act a k, s => (step s a (choose s a)).bind fun rt => (k rt.1).runWith step choose rt.2

/-- The state after the first `n` actions. -/
def Prog.stopAfter (step : σ → (a : A) → C a → Option (R a × σ)) (choose : σ → (a : A) → C a) :
    Nat → Prog A R α → σ → Option σ
  | 0, _, s => some s
  | _ + 1, .pure _, _ => none
  | n + 1, .act a k, s =>
    (step s a (choose s a)).bind fun rt => (k rt.1).stopAfter step choose n rt.2

/-- What is left before the first action that `stop` names, and the state there. -/
def Prog.runUntil (step : σ → (a : A) → C a → Option (R a × σ)) (choose : σ → (a : A) → C a)
    (stop : A → Bool) : Prog A R α → σ → Option (Prog A R α × σ)
  | .pure x, s => some (.pure x, s)
  | .act a k, s =>
    if stop a then some (.act a k, s)
    else (step s a (choose s a)).bind fun rt => (k rt.1).runUntil step choose stop rt.2

theorem Partway.of_runUntil {stop : A → Bool} {q : Prog A R α}
    (h : p.runUntil step choose stop s = some (q, t)) : Partway (byChoice step) p s q t := by
  induction p generalizing s with
  | pure x =>
    cases h
    exact .here _ _
  | act a k ih =>
    unfold Prog.runUntil at h
    split at h
    · cases h
      exact .here _ _
    · obtain ⟨⟨r, u⟩, hr, h⟩ := Option.bind_eq_some_iff.mp h
      exact .act ⟨_, hr⟩ (ih r h)

theorem Eval.of_runWith {x : α} (h : p.runWith step choose s = some (x, t)) :
    ∃ es, Eval (byChoice step) p s es x t := by
  induction p generalizing s with
  | pure y =>
    cases h
    exact ⟨[], .pure _ _⟩
  | act a k ih =>
    obtain ⟨⟨r, u⟩, hr, h⟩ := Option.bind_eq_some_iff.mp h
    obtain ⟨es, he⟩ := ih r h
    exact ⟨_, .act ⟨_, hr⟩ he⟩

theorem Passes.of_stopAfter {n : Nat} (h : p.stopAfter step choose n s = some t) :
    Passes (byChoice step) p s t := by
  induction n generalizing p s with
  | zero =>
    cases h
    exact .here _ _
  | succ n ih =>
    cases p with
    | pure y => cases h
    | act a k =>
      obtain ⟨⟨r, u⟩, hr, h⟩ := Option.bind_eq_some_iff.mp h
      exact .act ⟨_, hr⟩ (ih h)

end Machine

end Library
