import Starry.ConfigStore.Idempotency

/-!
# A crash during a transaction

The records of a transaction are written before what they announce, so the restart can tell from
them how far it got. Retention may have removed the record of a transaction that succeeded.
-/

open Library

namespace Starry.ConfigStore

variable (env : Env)

/-! ## What a restart leaves of a transaction -/

/-- No record of the operation says that it succeeded. -/
def NeverSucceeded (id : String) (w : World) : Prop :=
  (∀ o, w.disk.operations.get id = some o → o.state ≠ .succeeded) ∧
  (∀ o, w.memory.state.operations.get id = some o → o.state ≠ .succeeded) ∧
  Unclaimed id w.disk.audits

/-- How a transaction over the managed file `original` stands in a store that was opened. -/
inductive Settled (work : TransactionWork) (original : Option Bytes) (t : World) : Prop
  | unchanged (hconfig : t.disk.config = original) (hnever : NeverSucceeded work.operationId t)
  | succeeded (hconfig : t.disk.config = some work.candidate)
      (hin : InState work.operationId .succeeded t)
  | manual (hin : InState work.operationId .manualInterventionRequired t) (hrefuses : Refuses env t)

/-- The operation had succeeded when the agent stopped, and its record was not kept. -/
structure Retired (work : TransactionWork) (c t : World) : Prop where
  before : ∃ o, c.disk.operations.get work.operationId = some o ∧ o.state = .succeeded
  after : t.memory.state.operations.get work.operationId = none
  config : t.disk.config = some work.candidate

section Restarts

variable {env} {work : TransactionWork} {original : Option Bytes} {c t w : World}

theorem Carried.not_succeeded {x y : Option Operation} (h : Carried x y)
    (hx : ∀ o, x = some o → o.state ≠ .succeeded) : ∀ o, y = some o → o.state ≠ .succeeded := by
  rintro o' rfl hs
  cases hx' : x with
  | none => cases h.absent hx'
  | some o =>
    cases hterminal : o.state.isTerminal with
    | true => exact hx o hx' (by rw [← h.terminal o o' hx' hterminal rfl]; exact hs)
    | false =>
      obtain ⟨o'', ho'', hlive⟩ := h.live o hx' hterminal
      cases ho''
      rw [hs] at hlive
      cases hlive

/-- An operation that was not ended is marked for an operator, on disk and in memory. -/
theorem Opened.inState_manual {id : String} (h : Opened c.crash t)
    (hlive : ∃ o, c.disk.operations.get id = some o ∧ o.state.isTerminal = false) :
    InState id .manualInterventionRequired t := by
  obtain ⟨o, ho, hlive⟩ := hlive
  obtain ⟨o₁, ho₁, hlive₁⟩ := (h.resumed.operations id).live o ho hlive
  obtain ⟨o₂, ho₂, hlive₂⟩ := (h.remembered id).live o ho hlive
  obtain rfl := h.agrees id o₂ o₁ ho₂ ho₁
  exact ⟨o₂, ho₂, h.marked id o₂ ho₁ hlive₁⟩

/-- What is on disk at the crash decides how the transaction stands after the restart. -/
theorem settled_of_opened
    (hc : (view work.operationId c).durably (CrashSafe work.operationId original work.candidate))
    (ho : Opened c.crash t) : Settled env work original t ∨ Retired work c t := by
  rcases hc with ⟨hconfig, hrecord, hunclaimed⟩ | ⟨hconfig, o, hget, hstate⟩ | hlive
  · refine .inl (.unchanged (ho.resumed.config.trans hconfig) ⟨?_, ?_, ?_⟩)
    · exact (ho.resumed.operations _).not_succeeded hrecord
    · exact (ho.remembered _).not_succeeded hrecord
    · exact ho.resumed.unclaimed hunclaimed
  · have hsame : t.disk.config = some work.candidate := ho.resumed.config.trans hconfig
    have hterminal : o.state.isTerminal = true := by
      rw [hstate]
      rfl
    cases hmemory : t.memory.state.operations.get work.operationId with
    | none => exact .inr ⟨⟨o, hget, hstate⟩, hmemory, hsame⟩
    | some o' =>
      have hkept := (ho.remembered work.operationId).terminal o o' hget hterminal hmemory
      exact .inl (.succeeded hsame ⟨o', hmemory, hkept.trans hstate⟩)
  · refine .inl (.manual (ho.inState_manual hlive) (refuses_of_flag env ?_))
    obtain ⟨o, hget, hlive⟩ := hlive
    exact ho.flag.mpr (.inl ⟨work.operationId, o, hget, hlive⟩)

/-- A crash while the transaction is accepted leaves its file and at most a pending operation. -/
theorem Intended.crashSafe (h : Intended w c) (hfresh : work.operationId ∉ w.used) :
    (view work.operationId c).durably
      (CrashSafe work.operationId w.disk.config work.candidate) := by
  refine .inl ⟨h.config, fun o ho hs => ?_, h.unclaimed _ hfresh⟩
  have hpending := h.pending _ o hfresh ho
  rw [hs] at hpending
  cases hpending

end Restarts

/-! ## The result -/

/-- Where the agent may stop between the call that accepts a transaction and its end. The existence
checks of the managed file are truthful. -/
inductive StopsAt (w : World) (es : List (Event Act Act.Reply World)) (w₁ : World)
    (work : TransactionWork) : World → Prop
  | called : StopsAt w es w₁ work w
  | accepting (e : Event Act Act.Reply World) (he : e ∈ es) : StopsAt w es w₁ work e.state
  | executing (c : World)
      (hp : Passes (nextIf True) (executeTransaction env work) (w₁.begin work) c) :
      StopsAt w es w₁ work c

variable {env}

/-- Wherever the agent stops in a transaction that it accepted, the store that is opened next has
the original file and no success, a success and the candidate, or an operation for an operator and
no writes. The record of a success may have expired. -/
theorem transaction_crash_safe {config : Option Bytes} {s : System} {m : Mutation}
    {es : List (Event Act Act.Reply World)} {o : Operation} {w₁ : World}
    (h : System.Reached env config s)
    (ha : Eval next (accept env m).run s.world es (.ok o) w₁)
    (hnew : w₁.memory.spawned ≠ s.world.memory.spawned) :
    ∃ work, w₁.memory.spawned = s.world.memory.spawned ++ [work] ∧ work.operationId = o.id ∧
      ∀ c es' t, StopsAt env s.world es w₁ work c →
        Eval next (openStore env).run c.crash es' (.ok ()) t →
        Settled env work s.world.disk.config t ∨ Retired work c t := by
  obtain ⟨φ, hφ⟩ := h.invariant
  have hknown : Known s.world := hφ.holders.coherent.known
  have hintended : ∀ c, Passes next (accept env m).run s.world c → Intended s.world c :=
    fun c hp => intended_of_passes env hknown hp
  have hstarted : Started s.world o w₁ :=
    (eval_ok (I := fun _ => True) (tries_accept env) ha).resolve_left hnew
  obtain ⟨work, hspawned, hfresh, hid, hunderway⟩ := hstarted.underway (hintended w₁ ha.ends)
  refine ⟨work, hspawned, hid.symm, fun c es' t hc he => ?_⟩
  refine settled_of_opened ?_ (opened_of_eval he)
  cases hc with
  | called => exact (hintended _ (.here _ _)).crashSafe hfresh
  | accepting e hmem => exact (hintended _ (ha.passes e hmem)).crashSafe hfresh
  | executing c hp =>
    have hconfig : (w₁.begin work).disk.config = s.world.disk.config :=
      (hintended w₁ ha.ends).config
    have hsafe := safe_executeTransaction env (H := True) (fun _ => trivial)
      (w := w₁.begin work) hunderway
    unfold following during rules at hsafe
    rw [← hconfig]
    exact hsafe.passes hp (fun _ _ hJ => hJ) fun _ u hu => hu.1.durable

/-! ## A concrete run -/

def samplePlan : PlanRequest :=
  { candidate := asBytes "\x7b\x7d\n"
    validated := ⟨"sha256:" ++ candidateHash, "sha256:" ++ candidateHash, 1⟩
    suppliedEtag := strongEtag sampleEnv [], runtime := ⟨1, none, none⟩, caller := sampleCaller }

def sampleApply : ApplyRequest :=
  { suppliedEtag := strongEtag sampleEnv [], idempotencyKey := "k-1", comment := none
    caller := sampleCaller, runtime := ⟨1, none, none⟩, requestId := "request-1"
    planId := samplePlanId, candidateDigest := "sha256:" ++ candidateHash }

/-- Two days after the first. -/
def thirdDay : World → (a : Act) → a.Choice :=
  sampleAnswers "2026-01-03T00:00:00+00:00" 1767398400

/-- The agent is opened and plans a document. -/
def plannedAt : Option (World × Answer × World) :=
  (openedAt firstDay emptyWorld).bind fun opened =>
  (((Job.call (.plan samplePlan)).program sampleEnv).runWith step firstDay opened).map
    fun x => (opened, x)

/-- A transaction that was accepted, and the store after it. -/
structure AcceptedRun where
  planned : World
  operation : Operation
  work : TransactionWork
  accepted : World

/-- The plan is accepted. -/
def acceptedAt : Option AcceptedRun :=
  plannedAt.bind fun x =>
  match (accept sampleEnv (.apply sampleApply)).run.runWith step firstDay x.2.2 with
  | some (.ok o, w) => w.memory.spawned.head?.map fun work => ⟨x.2.2, o, work, w⟩
  | _ => none

theorem reached_planned {w : World} (h : plannedAt.map (·.2.2) = some w) :
    ∃ s, System.Reached sampleEnv none s ∧ s.world = w := by
  obtain ⟨⟨opened, x, _⟩, hplanned, rfl⟩ := Option.map_eq_some_iff.mp h
  obtain ⟨_, hopen, hmap⟩ := Option.bind_eq_some_iff.mp hplanned
  obtain ⟨_, hrun, heq⟩ := Option.map_eq_some_iff.mp hmap
  cases heq
  obtain ⟨_, he⟩ := eval_openedAt hopen
  obtain ⟨_, hplan⟩ := Eval.of_runWith hrun
  have hopened : System.Reached sampleEnv none ⟨true, opened, fun _ => none, []⟩ :=
    (Reachable.refl (System.init none)).step (.opened rfl he)
  have hcalled : System.Reached sampleEnv none _ :=
    Reachable.step hopened (.call 0 (.plan samplePlan) rfl rfl)
  obtain ⟨s, _, hs, hworld, _⟩ := hcalled.runs (i := 0) rfl rfl rfl hplan
  exact ⟨s, hs, hworld⟩

theorem reached_accepted {x : AcceptedRun} (h : acceptedAt = some x) :
    ∃ s es, System.Reached sampleEnv none s ∧ s.world = x.planned ∧
      Eval next (accept sampleEnv (.apply sampleApply)).run s.world es (.ok x.operation)
        x.accepted ∧ x.accepted.memory.spawned.head? = some x.work := by
  obtain ⟨y, hplanned, hrun⟩ := Option.bind_eq_some_iff.mp h
  obtain ⟨s, hs, hworld⟩ := reached_planned (w := y.2.2) (by rw [hplanned]; rfl)
  split at hrun
  · rename_i o w heq
    obtain ⟨work, hwork, rfl⟩ := Option.map_eq_some_iff.mp hrun
    obtain ⟨es, he⟩ := Eval.of_runWith heq
    rw [← hworld] at he
    exact ⟨s, es, hs, hworld, he, hwork⟩
  · cases hrun

/-- The agent stops when the transaction begins, and is opened on the same day. -/
def interruptedAt : Option (AcceptedRun × World) :=
  acceptedAt.bind fun x =>
  (openedAt firstDay (x.accepted.begin x.work).crash).map fun t => (x, t)

theorem interruptedAt_state :
    (interruptedAt.map fun x => (x.1.planned.memory.spawned.length,
      x.1.accepted.memory.spawned.length)) = some (0, 1) := by
  rfl

/-- A crash at the beginning of the transaction. -/
theorem transaction_crash_safe_begun :
    ∃ s es o w₁ work c t, System.Reached sampleEnv none s ∧
      Eval next (accept sampleEnv (.apply sampleApply)).run s.world es (.ok o) w₁ ∧
      w₁.memory.spawned = s.world.memory.spawned ++ [work] ∧
      StopsAt sampleEnv s.world es w₁ work c ∧
      (Settled sampleEnv work s.world.disk.config t ∨ Retired work c t) := by
  obtain ⟨⟨x, t⟩, hx, hstate⟩ := Option.map_eq_some_iff.mp interruptedAt_state
  obtain ⟨_, haccepted, hmap⟩ := Option.bind_eq_some_iff.mp hx
  obtain ⟨_, hopen, heq⟩ := Option.map_eq_some_iff.mp hmap
  cases heq
  obtain ⟨s, es, hs, hworld, he, hwork⟩ := reached_accepted haccepted
  obtain ⟨hnone, hone⟩ := Prod.mk.inj hstate
  have hempty : s.world.memory.spawned = [] := by
    rw [hworld]
    exact List.eq_nil_of_length_eq_zero hnone
  have hnew : x.accepted.memory.spawned ≠ s.world.memory.spawned := by
    intro hsame
    have hone : x.accepted.memory.spawned.length = 1 := hone
    rw [hsame, hempty] at hone
    cases hone
  obtain ⟨work, hspawned, _, hsettled⟩ := transaction_crash_safe hs he hnew
  have hsame : work = x.work := by
    rw [hspawned, hempty] at hwork
    exact Option.some.inj hwork
  subst hsame
  obtain ⟨_, hopened⟩ := eval_openedAt hopen
  have hstops : StopsAt sampleEnv s.world es x.accepted x.work (x.accepted.begin x.work) :=
    .executing _ (.here _ _)
  exact ⟨s, es, x.operation, x.accepted, x.work, _, t, hs, he, hspawned, hstops,
    hsettled _ _ t hstops hopened⟩

/-- The transaction is executed, the agent stops and is opened two days later. -/
def retiredAt : Option (AcceptedRun × World × World) :=
  acceptedAt.bind fun x =>
  ((executeTransaction sampleEnv x.work).runWith step firstDay (x.accepted.begin x.work)).bind
    fun executed => (openedAt thirdDay executed.2.crash).map fun t => (x, executed.2, t)

theorem retiredAt_state :
    (retiredAt.map fun x => (x.1.planned.disk.config, x.2.2.disk.config,
      x.2.2.memory.state.operations.get x.1.work.operationId)) =
    some (none, some (asBytes "\x7b\x7d\n"), none) := by
  rfl

/-- Two days after a transaction succeeded, the restart removes its record. -/
theorem succeeded_record_retired :
    ∃ s es o w₁ work es₁ c es₂ t, System.Reached sampleEnv none s ∧
      Eval next (accept sampleEnv (.apply sampleApply)).run s.world es (.ok o) w₁ ∧
      w₁.memory.spawned.head? = some work ∧
      Eval next (executeTransaction sampleEnv work) (w₁.begin work) es₁ () c ∧
      Eval next (openStore sampleEnv).run c.crash es₂ (.ok ()) t ∧
      ¬ Settled sampleEnv work s.world.disk.config t := by
  obtain ⟨⟨x, c, t⟩, hx, hstate⟩ := Option.map_eq_some_iff.mp retiredAt_state
  obtain ⟨_, haccepted, hbind⟩ := Option.bind_eq_some_iff.mp hx
  obtain ⟨executed, hrun, hmap⟩ := Option.bind_eq_some_iff.mp hbind
  obtain ⟨_, hopen, heq⟩ := Option.map_eq_some_iff.mp hmap
  cases heq
  obtain ⟨s, es, hs, hworld, he, hwork⟩ := reached_accepted haccepted
  obtain ⟨es₁, hexec⟩ := Eval.of_runWith hrun
  obtain ⟨es₂, hopened⟩ := eval_openedAt hopen
  simp only [Prod.mk.injEq] at hstate
  obtain ⟨hbefore, hconfig, hgone⟩ := hstate
  refine ⟨s, es, x.operation, x.accepted, x.work, es₁, _, es₂, t, hs, he, hwork, hexec, hopened,
    ?_⟩
  rintro (⟨hsame, _⟩ | ⟨_, o, ho, _⟩ | ⟨⟨o, ho, _⟩, _⟩)
  · rw [hworld, hbefore, hconfig] at hsame
    cases hsame
  · rw [hgone] at ho
    cases ho
  · rw [hgone] at ho
    cases ho

end Starry.ConfigStore
