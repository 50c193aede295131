import Starry.ConfigStore.Atomicity
import Starry.ConfigStore.Restart

/-!
# How long the store stays blocked

A store that asks for an operator admits no write. `open` computes the flag from the records on
disk and rewrites some of them, so the block survives restarts exactly as long as its cause does.
An operation that is not ended is such a cause. A reload without a result is not: the first `open`
resolves it.
-/

open Library

namespace Starry.ConfigStore

variable (env : Env)

/-! ## The block -/

/-- `ensure_writable` fails because the store asks for an operator, or in the pruning that comes
before that check. -/
structure Refuses (w : World) : Prop where
  flag : w.memory.state.manualInterventionRequired = true
  refused : ∀ es r t, Eval next (ensureWritable env).run w es r t →
    r = .error manualRequired ∨
      ∃ es' e t', r = .error e ∧ Eval next (pruneDurableRecords env).run w es' (.error e) t'

theorem tries_blocked {w : World} (h : w.memory.state.manualInterventionRequired = true) :
    (rules False fun _ => True).Tries (withLock .state checkWritable) (fun _ _ => False)
      (fun e _ => e = manualRequired) w := by
  refine tries_withLock trivial ?_
  refine Rules.tries_bind.mpr (tries_lift.mpr (safe_state.mpr ⟨trivial, ?_⟩))
  change Rules.Tries _ (ite (w.memory.state.manualInterventionRequired = true) _ _) _ _ _
  rw [if_pos h]
  exact ⟨trivial, rfl⟩

theorem refuses_of_flag {w : World} (h : w.memory.state.manualInterventionRequired = true) :
    Refuses env w := by
  refine ⟨h, fun es r t he => ?_⟩
  obtain ⟨es₁, es₂, pruned, u, -, hprune, hrest⟩ := he.of_bind
  cases pruned with
  | error e =>
    cases hrest
    exact .inr ⟨es₁, e, _, rfl, hprune⟩
  | ok _ =>
    have hu := eval_ok (I := fun _ => True) (tries_pruneDurableRecords env fun _ _ => trivial)
      hprune
    have hblocked := tries_blocked (hu.manual.trans h)
    cases r with
    | ok x => exact (eval_ok hblocked hrest).elim
    | error e =>
      obtain rfl : e = manualRequired := eval_error hblocked hrest
      exact .inl rfl

/-! ## Restarts -/

/-- The directories of `w` after restarts of which `n` opened the store. The others stopped or
failed half way. -/
inductive Reopened (w : World) : Nat → World → Prop
  | here : Reopened w 0 w
  | stopped {n : Nat} {u t : World} : Reopened w n u →
      Passes next (openStore env).run u.crash t → Reopened w n t
  | opened {n : Nat} {u t : World} {es : List (Event Act Act.Reply World)} : Reopened w n u →
      Eval next (openStore env).run u.crash es (.ok ()) t → Reopened w (n + 1) t

variable {env} {w u t : World} {n : Nat} {es : List (Event Act Act.Reply World)}

theorem Resumed.crash (h : Resumed w u) : Resumed w u.crash :=
  ⟨h.config, h.changes, h.operations, h.reloads, h.audits⟩

theorem opened_of_eval (h : Eval next (openStore env).run u.crash es (.ok ()) t) :
    Opened u.crash t :=
  eval_ok (Q := fun _ t => Opened u.crash t) (tries_openStore env) h

theorem Reopened.resumed (h : Reopened env w n u) : Resumed w u := by
  induction h with
  | here => exact .refl w
  | stopped _ hp ih =>
    refine ih.crash.trans (passes_tries (tries_openStore env) hp ?_ ?_)
    · exact fun _ t ht => ht.resumed
    · exact fun _ t ht => ht
  | opened _ he ih => exact ih.crash.trans (opened_of_eval he).resumed

theorem Reopened.resolved (h : Reopened env w n u) (hn : 1 ≤ n) : ¬ Unresolved u.disk := by
  induction h with
  | here => omega
  | stopped _ hp ih =>
    intro hu
    refine ih hn ?_
    have hr := passes_tries (tries_openStore env) hp (fun _ t ht => ht.resumed) fun _ t ht => ht
    exact hr.unresolved hu
  | opened _ he ih => exact (opened_of_eval he).resolved

/-- The flag of a store that was opened after any number of restarts. -/
theorem Reopened.flag_iff (h : Reopened env w n u)
    (he : Eval next (openStore env).run u.crash es (.ok ()) t) :
    t.memory.state.manualInterventionRequired = true ↔ Live w.disk ∨ Unresolved u.disk := by
  rw [(opened_of_eval he).flag]
  exact or_congr h.resumed.live_iff Iff.rfl

/-- An operation that is not ended keeps the store blocked through every restart. Without one the
store is free again at the second restart at the latest. -/
theorem manual_block_durable (h : Reopened env w n u)
    (he : Eval next (openStore env).run u.crash es (.ok ()) t) :
    (Live w.disk → Refuses env t) ∧
      (¬ Live w.disk → 1 ≤ n → t.memory.state.manualInterventionRequired = false) := by
  constructor
  · intro hlive
    exact refuses_of_flag env ((h.flag_iff he).mpr (.inl hlive))
  · intro hlive hn
    refine Bool.eq_false_iff.mpr fun hflag => ?_
    rcases (h.flag_iff he).mp hflag with hl | hu
    · exact hlive hl
    · exact h.resolved hn hu


/-! ## A concrete run -/

/-- A system in which everything succeeds, at one point of time. -/
def sampleAnswers (time : String) (epoch : Int) (w : World) : (a : Act) → a.Choice
  | .ask .now => time
  | .ask .timestamp => epoch
  | .ask .expiry => (epoch + planLifetimeSeconds, time)
  | .ask .stateBytes => some 0
  | .ask .availableSpace => some (1024 * 1024 * 1024)
  | .ask (.fileBytes _) => some 0
  | .ask .managedParent => some ⟨1, 1, true⟩
  | .ask .effectiveOwner => (0, 0)
  | .ask (.temporary _) => .ok ()
  | .ask (.syncDirectory _) => .ok ()
  | .ask (.createPrivateDirectory _) => .ok ()
  | .newId => "00000000-0000-4000-8000-00000000000" ++ toString (w.used.length + 1)
  | .lock _ | .unlock _ | .update _ | .state | .plans => ()
  | .reserve _ => .acquired
  | .load _ => .ok ()
  | .rename _ | .remove _ | .renameConfig _ | .removeConfig => .ok ()
  | .readDocument _ => .ok ()
  | .readManaged => .ok ⟨0o600, 0, 0⟩
  | .readRaw | .configExists => true
  | .call .configRuntimeState => .ok (.object [("generation", .uint 1)])
  | .call .runtimeReload => .ok (.object
      [("source_digest", .string ("sha256:" ++ candidateHash)),
       ("effective_digest", .string ("sha256:" ++ candidateHash)), ("schema_version", .uint 1),
       ("generation", .uint 2),
       ("subsystem_acks", .array [.object [("accepted", .bool true)]])])

/-- The first of January. -/
def firstDay : World → (a : Act) → a.Choice :=
  sampleAnswers "2026-01-01T00:00:00+00:00" 1767225600

/-- An agent that was never started, over an absent managed file. -/
def emptyWorld : World := ⟨.empty none, .empty, [], [], 0, []⟩

def sampleReload : ReloadRequest := ⟨"sha256:" ++ emptyHash, "k-1", "request-1", sampleCaller⟩

/-- The store that `open` leaves, if it succeeds. -/
def openedAt (answers : World → (a : Act) → a.Choice) (w : World) : Option World :=
  match (openStore sampleEnv).run.runWith step answers w with
  | some (.ok (), t) => some t
  | _ => none

theorem eval_openedAt {answers : World → (a : Act) → a.Choice} (h : openedAt answers w = some t) :
    ∃ es, Eval next (openStore sampleEnv).run w es (.ok ()) t := by
  unfold openedAt at h
  split at h
  · rename_i heq
    cases h
    exact Eval.of_runWith heq
  · cases h

/-- A transaction that was interrupted blocks the store that is opened next. -/
theorem manual_block_durable_interrupted :
    Live (acceptedWorld none).disk ∧ ∃ es t,
      Eval next (openStore sampleEnv).run (acceptedWorld none).crash es (.ok ()) t ∧
      Refuses sampleEnv t := by
  have hlive : Live (acceptedWorld none).disk := ⟨sampleOperation.id, sampleOperation, rfl, rfl⟩
  have hopen : (openedAt firstDay (acceptedWorld none).crash).isSome = true := by rfl
  obtain ⟨t, ht⟩ := Option.isSome_iff_exists.mp hopen
  obtain ⟨es, he⟩ := eval_openedAt ht
  exact ⟨hlive, es, t, he, (manual_block_durable .here he).1 hlive⟩

/-- The agent is opened, stops while HBBS reloads, is opened, and is opened again. -/
def interruptedReload : Option (World × World × World × World) :=
  (openedAt firstDay emptyWorld).bind fun opened =>
  ((runtimeReload sampleEnv sampleReload).run.stopAfter step firstDay 37 opened).bind fun stopped =>
  (openedAt firstDay stopped.crash).bind fun once =>
  (openedAt firstDay once.crash).bind fun twice => some (opened, stopped, once, twice)

theorem interruptedReload_flags :
    (interruptedReload.map fun x => (x.2.2.1.memory.state.manualInterventionRequired,
      x.2.2.2.memory.state.manualInterventionRequired)) = some (true, false) := by
  rfl

/-- A store that is blocked by an unresolved reload is free at the second restart. -/
theorem reload_block_lost :
    ∃ opened stopped once twice es es₁ es₂,
      Eval next (openStore sampleEnv).run emptyWorld es (.ok ()) opened ∧
      Passes next (runtimeReload sampleEnv sampleReload).run opened stopped ∧
      Eval next (openStore sampleEnv).run stopped.crash es₁ (.ok ()) once ∧
      Refuses sampleEnv once ∧
      Eval next (openStore sampleEnv).run once.crash es₂ (.ok ()) twice ∧
      twice.memory.state.manualInterventionRequired = false := by
  obtain ⟨⟨opened, stopped, once, twice⟩, hrun, hflags⟩ :=
    Option.map_eq_some_iff.mp interruptedReload_flags
  obtain ⟨_, h₁, hrun⟩ := Option.bind_eq_some_iff.mp hrun
  obtain ⟨_, h₂, hrun⟩ := Option.bind_eq_some_iff.mp hrun
  obtain ⟨_, h₃, hrun⟩ := Option.bind_eq_some_iff.mp hrun
  obtain ⟨_, h₄, hrun⟩ := Option.bind_eq_some_iff.mp hrun
  cases hrun
  obtain ⟨es, h₁⟩ := eval_openedAt h₁
  obtain ⟨es₁, h₃⟩ := eval_openedAt h₃
  obtain ⟨es₂, h₄⟩ := eval_openedAt h₄
  obtain ⟨honce, htwice⟩ := Prod.mk.inj hflags
  exact ⟨opened, stopped, once, twice, es, es₁, es₂, h₁, .of_stopAfter h₂, h₃,
    refuses_of_flag sampleEnv honce, h₄, htwice⟩

end Starry.ConfigStore
