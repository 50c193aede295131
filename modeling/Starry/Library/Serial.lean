import Starry.Library.Prog
import Starry.Library.Run

/-!
# One program at a time

A machine answers calls one after another. Each call is a program; between two of its actions the
machine may be stopped, which drops the program and keeps the state.
-/

namespace Library

variable {A : Type} {R : A → Type} {σ κ ο : Type}

/-- A call that was answered, with the states before and after it. -/
structure Answered (σ κ ο : Type) where
  call : κ
  before : σ
  answer : ο
  after : σ

structure Running (A : Type) (R : A → Type) (σ κ ο : Type) where
  call : κ
  before : σ
  rest : Prog A R ο

structure Serial (A : Type) (R : A → Type) (σ κ ο : Type) where
  state : σ
  running : Option (Running A R σ κ ο)
  history : List (Answered σ κ ο)

inductive SerialMove
  | call | act | answer | stop

namespace Serial

def initial (s : σ) : Serial A R σ κ ο := ⟨s, none, []⟩

/-- `starts` says how a call begins, `next` what an action may do. -/
inductive Next (program : κ → Prog A R ο) (starts : σ → κ → σ → Prop)
    (next : σ → (a : A) → R a → σ → Prop) :
    Serial A R σ κ ο → SerialMove → Serial A R σ κ ο → Prop
  | call {s t : σ} {history : List (Answered σ κ ο)} (call : κ) (h : starts s call t) :
      Next program starts next ⟨s, none, history⟩ .call ⟨t, some ⟨call, s, program call⟩, history⟩
  | act {s t : σ} {history : List (Answered σ κ ο)} {call : κ} {before : σ} {a : A}
      {k : R a → Prog A R ο} {r : R a} (h : next s a r t) :
      Next program starts next ⟨s, some ⟨call, before, .act a k⟩, history⟩ .act
        ⟨t, some ⟨call, before, k r⟩, history⟩
  | answer {s : σ} {history : List (Answered σ κ ο)} {call : κ} {before : σ} {x : ο} :
      Next program starts next ⟨s, some ⟨call, before, .pure x⟩, history⟩ .answer
        ⟨s, none, history ++ [⟨call, before, x, s⟩]⟩
  | stop {s : σ} {history : List (Answered σ κ ο)} {running : Running A R σ κ ο} :
      Next program starts next ⟨s, some running, history⟩ .stop ⟨s, none, history⟩

variable {program : κ → Prog A R ο} {starts : σ → κ → σ → Prop}
  {next : σ → (a : A) → R a → σ → Prop} {I : List (Answered σ κ ο) → σ → Prop}
  {E : σ → σ → Prop} {s₀ : σ} {m m' : Serial A R σ κ ο}

/-- Every action keeps the invariant, and changes the state as `E` allows. -/
def rules (next : σ → (a : A) → R a → σ → Prop) (I : σ → Prop) (E : σ → σ → Prop) :
    Rules A R σ :=
  .every (fun s a => ∀ r t, next s a r t → I t ∧ E s t) next

/-- The state keeps the invariant, and what is left of the program will. -/
structure Kept (next : σ → (a : A) → R a → σ → Prop) (I : List (Answered σ κ ο) → σ → Prop)
    (E : σ → σ → Prop) (m : Serial A R σ κ ο) : Prop where
  state : I m.history m.state
  running : ∀ running, m.running = some running →
    (rules next (I m.history) E).Safe running.rest
      (fun x t => I (m.history ++ [⟨running.call, running.before, x, t⟩]) t) m.state

/-- Calls that keep an invariant at each of their actions keep it in every run, wherever the machine
is stopped. -/
theorem Kept.reachable (hinit : I [] s₀)
    (hcall : ∀ history s call t, I history s → starts s call t → I history t ∧
      (rules next (I history) E).Safe (program call)
        (fun x u => I (history ++ [⟨call, s, x, u⟩]) u) t)
    (h : Reachable (Next program starts next) (initial s₀) m) : Kept next I E m := by
  refine h.invariant (P := Kept next I E) ⟨hinit, by simp [initial]⟩ ?_
  rintro m i m' ⟨hstate, hrunning⟩ hn
  cases hn with
  | call call hstart =>
    obtain ⟨hkept, hsafe⟩ := hcall _ _ _ _ hstate hstart
    refine ⟨hkept, fun running hr => ?_⟩
    cases hr
    exact hsafe
  | act hnext =>
    obtain ⟨hallowed, hrest⟩ := hrunning _ rfl
    refine ⟨(hallowed _ _ hnext).1, fun running hr => ?_⟩
    cases hr
    exact hrest _ _ hnext
  | answer => exact ⟨hrunning _ rfl, by simp⟩
  | stop => exact ⟨hstate, by simp⟩

/-- Every step of such a run changes the state as `E` allows. -/
theorem Kept.changes {i : SerialMove} (h : Kept next I E m) (hrefl : ∀ s, E s s)
    (hstart : ∀ s call t, starts s call t → E s t) (hn : Next program starts next m i m') :
    E m.state m'.state := by
  cases hn with
  | call call hs => exact hstart _ _ _ hs
  | act hnext => exact ((h.running _ rfl).1 _ _ hnext).2
  | answer => exact hrefl _
  | stop => exact hrefl _

/-- The invariant may be used at the end of a program. -/
theorem safe_of_kept {I' : σ → Prop} {p : Prog A R ο} {Q : ο → σ → Prop} {s : σ} (hs : I' s)
    (h : (rules next I' E).Safe p (fun x t => I' t → Q x t) s) : (rules next I' E).Safe p Q s := by
  induction p generalizing s with
  | pure x => exact h hs
  | act a k ih =>
    obtain ⟨hallowed, hrest⟩ := h
    exact ⟨hallowed, fun r t hn => ih r (hallowed r t hn).1 (hrest r t hn)⟩

/-- What every allowed change keeps holds throughout the program. -/
theorem safe_and {I' J : σ → Prop} {p : Prog A R ο} {Q : ο → σ → Prop} {s : σ}
    (hJ : ∀ s t, J s → E s t → J t) (h : (rules next I' E).Safe p Q s) (hs : J s) :
    (rules next (fun s => I' s ∧ J s) E).Safe p (fun x t => Q x t ∧ J t) s := by
  induction p generalizing s with
  | pure x => exact ⟨h, hs⟩
  | act a k ih =>
    obtain ⟨hallowed, hrest⟩ := h
    refine ⟨fun r t hn => ?_, fun r t hn => ih r (hrest r t hn) (hJ s t hs (hallowed r t hn).2)⟩
    exact ⟨⟨(hallowed r t hn).1, hJ s t hs (hallowed r t hn).2⟩, (hallowed r t hn).2⟩

/-- What is left of a program may run to its end. -/
theorem runs {p : Prog A R ο} {s t u : σ} {history : List (Answered σ κ ο)} {call : κ} {x : ο}
    {es : List (Event A R σ)} (he : Eval next p t es x u)
    (h : Reachable (Next program starts next) (initial s₀) ⟨t, some ⟨call, s, p⟩, history⟩) :
    Reachable (Next program starts next) (initial s₀) ⟨u, some ⟨call, s, .pure x⟩, history⟩ := by
  induction he with
  | pure y t => exact h
  | act hn _ ih => exact ih (h.step (.act hn))

/-- A call that is made and runs to its end is answered. -/
theorem answered {s t u : σ} {history : List (Answered σ κ ο)} {call : κ} {x : ο}
    {es : List (Event A R σ)}
    (h : Reachable (Next program starts next) (initial s₀) ⟨s, none, history⟩)
    (hstart : starts s call t) (he : Eval next (program call) t es x u) :
    Reachable (Next program starts next) (initial s₀)
      ⟨u, none, history ++ [⟨call, s, x, u⟩]⟩ :=
  (runs he (h.step (.call call hstart))).step .answer

/-- A call may be stopped in every state that it passes through. -/
theorem stopped {s t : σ} {p : Prog A R ο} {history : List (Answered σ κ ο)} {call : κ} {before : σ}
    (h : Reachable (Next program starts next) (initial s₀) ⟨s, some ⟨call, before, p⟩, history⟩)
    (hp : Passes next p s t) :
    Reachable (Next program starts next) (initial s₀) ⟨t, none, history⟩ := by
  induction hp with
  | here => exact h.step .stop
  | act hn _ ih => exact ih (h.step (.act hn))

/-! ## Evaluation -/

section Serve

variable {C : A → Type} {step : σ → (a : A) → C a → Option (R a × σ)}
  {choose : σ → (a : A) → C a} {begins : σ → κ → Option σ}

/-- Answers calls in order, if each of them begins and runs to its end. -/
def serve (program : κ → Prog A R ο) (begins : σ → κ → Option σ)
    (step : σ → (a : A) → C a → Option (R a × σ)) (choose : σ → (a : A) → C a) :
    σ → List (Answered σ κ ο) → List κ → Option (Serial A R σ κ ο)
  | s, history, [] => some ⟨s, none, history⟩
  | s, history, call :: calls =>
    (begins s call).bind fun t => ((program call).runWith step choose t).bind fun x =>
      serve program begins step choose x.2 (history ++ [⟨call, s, x.1, x.2⟩]) calls

theorem reachable_serve (hbegins : ∀ s call t, begins s call = some t → starts s call t)
    {s : σ} {history : List (Answered σ κ ο)} {calls : List κ}
    (h : Reachable (Next program starts (byChoice step)) (initial s₀) ⟨s, none, history⟩)
    (hserve : serve program begins step choose s history calls = some m) :
    Reachable (Next program starts (byChoice step)) (initial s₀) m := by
  induction calls generalizing s history with
  | nil =>
    cases hserve
    exact h
  | cons call calls ih =>
    obtain ⟨t, ht, hserve⟩ := Option.bind_eq_some_iff.mp hserve
    obtain ⟨x, hx, hserve⟩ := Option.bind_eq_some_iff.mp hserve
    obtain ⟨es, he⟩ := Eval.of_runWith hx
    exact ih (answered h (hbegins s call t ht) he) hserve

end Serve

end Serial

end Library
