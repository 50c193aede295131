import Starry.ConfigStore.Idempotency

/-!
# Abandoned requests (`control_agent.rs`)

A request is served inside of its connection. When the client goes away, or the connection is at
its deadline, the future of the handler is dropped where it waits, and nothing after that point
runs. A transaction that was handed over is a task of the runtime, which nobody drops.
-/

open Library Library.Prog

namespace Starry.ConfigStore

variable (env : Env)

/-! ## Dropped handlers -/

/-- The handler of a task is at an await point: before it calls the store (it reads the body and
asks HBBS for a snapshot), while HBBS is called, or while its answer is sent. -/
inductive Task.Awaits : Task → Prop
  | arriving (c : Call) : Task.Awaits (.start env (.call c))
  | calling {task : Task} {c : Call} {m : Method} {k : Act.Reply (.call m) → Agent Answer}
      (hjob : task.job = .call c) (hrest : task.rest = .act (.call m) k) : Task.Awaits task
  | answering {task : Task} {c : Call} {x : Answer} (hjob : task.job = .call c)
      (hrest : task.rest = .pure x) : Task.Awaits task

/-- The task is gone. What it changed stays, but the lock file is closed with it. -/
def System.drop (s : System) (i : Nat) : System :=
  { s with tasks := Function.update s.tasks i none }

inductive Happening
  | moved (m : Move)
  | dropped (i : Nat)

/-- The agent, with handlers that may be dropped where they wait. -/
inductive System.Serves : System → Happening → System → Prop
  | moved {s t : System} {m : Move} (h : System.Next env s m t) : System.Serves s (.moved m) t
  | dropped {s : System} (i : Nat) {task : Task} (htask : s.tasks i = some task)
      (hawait : task.Awaits env) : System.Serves s (.dropped i) (s.drop i)

/-- A `runtime_reload` that waits for HBBS. -/
def Task.Reloading (task : Task) : Prop :=
  (∃ r, task.job = .call (.reload r)) ∧ ∃ m k, task.rest = .act (.call m) k

/-- The handler that is dropped is not a reload that waits for HBBS. -/
def Spares (s : System) : Happening → Prop
  | .moved _ => True
  | .dropped i => ∀ task, s.tasks i = some task → ¬ task.Reloading

def System.ServesSparing (s : System) (e : Happening) (t : System) : Prop :=
  System.Serves env s e t ∧ Spares s e

/-! ## Who runs an operation -/

/-- `release_operation`, or the hand-over of the transaction. -/
def Act.GivesBack (id : String) : Act → Prop
  | .update (.release i) => i = id
  | .update (.spawn work) => work.operationId = id
  | _ => False

/-- The task is alive, and gives the operation back whatever its actions answer. -/
def Task.Runs (task : Task) (id : String) : Prop :=
  task.holding = true ∧ task.rest.Must (Act.GivesBack id)

def System.Running (s : System) (id : String) : Prop :=
  (∃ i task, s.tasks i = some task ∧ task.Runs id) ∨
    ∃ work ∈ s.world.memory.spawned, work.operationId = id

/-- Every task that was running has ended. -/
def System.Ended (s : System) : Prop :=
  s.world.memory.spawned = [] ∧ ∀ i task, s.tasks i = some task → ∃ x, task.rest = .pure x

/-- An active operation is being run. Once all tasks have ended, `reserve_operation` turns nobody
down, unless another process has locked the file. -/
structure System.Unwedged (s : System) : Prop where
  running : ∀ id, s.world.memory.activeOperation = some id → s.Running id
  writable : s.Ended → ∀ id c r w, step s.world (.reserve id) c = some (r, w) →
    r = .error .operationInProgress → c = LockFile.wouldBlock

/-! ## Pens -/

section Pens

variable {key : String} {φ ψ : Phase} {a : Act} {r : a.Reply} {pen : Pen}

theorem Pen.put_id (o : Operation) : (Pen.put o).id = o.id := by
  unfold Pen.put
  split <;> rfl

/-- A holder keeps its operation until it gives it back. -/
theorem Phase.Step.keeps_pen (hs : Phase.Step key φ a r ψ) (hpen : φ.pen = some pen) :
    a.GivesBack pen.id ∨ ∃ pen', ψ.pen = some pen' ∧ pen'.id = pen.id := by
  cases hs with
  | plain _ _ _ _ => exact .inr ⟨pen, hpen, rfl⟩
  | state _ _ _ => exact .inr ⟨pen, hpen, rfl⟩
  | newId _ _ _ => exact .inr ⟨pen, hpen, rfl⟩
  | busy _ _ _ => exact .inr ⟨pen, hpen, rfl⟩
  | lost _ _ _ => exact .inr ⟨pen, hpen, rfl⟩
  | leave _ _ hleaves => cases φ <;> first | exact hleaves.elim | cases hpen
  | keep pen' =>
    cases hpen
    exact .inr ⟨_, rfl, rfl⟩
  | release pen' =>
    cases hpen
    exact .inl rfl
  | finish pen' =>
    cases hpen
    exact .inl rfl
  | spawn work _ _ =>
    cases hpen
    exact .inl rfl
  | write _ pen' o hpen' hw =>
    rw [hpen] at hpen'
    cases hpen'
    exact .inr ⟨_, Holders.setPen_pen hpen, (Holders.pen_id hw).symm⟩
  | put _ o _ hpen' =>
    rw [hpen] at hpen'
    cases hpen'
    exact .inr ⟨_, Holders.setPen_pen hpen, Pen.put_id o⟩
  | start pen' record _ _ =>
    cases hpen
    exact .inr ⟨_, rfl, rfl⟩
  | _ => cases hpen

/-- A program that ends outside gives back what it holds. -/
theorem must_giveBack {α : Type} {p : Agent α} (hpen : φ.pen = some pen)
    (h : (phases key).Safe p (fun _ ψ => ψ = .outside) φ) : p.Must (Act.GivesBack pen.id) := by
  induction p generalizing φ pen with
  | pure x =>
    obtain rfl : φ = .outside := h
    cases hpen
  | act a k ih =>
    by_cases hgive : a.GivesBack pen.id
    · exact .inl hgive
    refine .inr fun r => ?_
    obtain ⟨ψ, hs, hsafe⟩ := h r
    obtain ⟨pen', hψ, hid⟩ := (hs.keeps_pen hpen).resolve_left hgive
    rw [← hid]
    exact ih r hψ hsafe

end Pens

/-! ## The active operation has a holder -/

/-- Some task holds the active operation, or it was handed over. -/
def Staffed (w : World) (φ : Nat → Phase) : Prop :=
  ∀ id, w.memory.activeOperation = some id →
    (∃ i pen, (φ i).pen = some pen ∧ pen.id = id) ∨ ∃ work ∈ w.memory.spawned, work.operationId = id

namespace Staffed

variable {w w' : World} {φ : Nat → Phase} {i : Nat} {ψ : Phase}

theorem of_none (h : w.memory.activeOperation = none) : Staffed w φ := by
  intro id hid
  rw [h] at hid
  cases hid

/-- The phase of one task changes, and its operation does not. -/
theorem update (h : Staffed w φ) (ha : w'.memory.activeOperation = w.memory.activeOperation)
    (hs : w'.memory.spawned = w.memory.spawned)
    (hpen : ∀ pen, (φ i).pen = some pen → ∃ pen', ψ.pen = some pen' ∧ pen'.id = pen.id) :
    Staffed w' (Function.update φ i ψ) := by
  intro id hid
  rw [ha] at hid
  rw [hs]
  obtain ⟨j, pen, hj, hpid⟩ | hspawned := h id hid
  · refine .inl ?_
    by_cases hji : j = i
    · subst hji
      obtain ⟨pen', hψ, hid'⟩ := hpen pen hj
      exact ⟨j, pen', by rwa [Function.update_self], hid'.trans hpid⟩
    · exact ⟨j, pen, by rwa [Function.update_of_ne hji], hpid⟩
  · exact .inr hspawned

/-- One task holds what is active. -/
theorem single (pen : Pen) (ha : w'.memory.activeOperation = some pen.id)
    (hψ : ψ.pen = some pen) : Staffed w' (Function.update φ i ψ) := by
  intro id hid
  rw [ha] at hid
  cases hid
  exact .inl ⟨i, pen, by rwa [Function.update_self], rfl⟩

theorem release {pen : Pen} (hh : Holders w φ) (hpen : (φ i).pen = some pen) :
    Staffed (w.update (.release pen.id)) (Function.update φ i ψ) := by
  refine of_none ?_
  change (if w.memory.activeOperation = some pen.id then none else w.memory.activeOperation) = none
  rw [if_pos (hh.active i pen hpen)]

theorem step {key : String} {χ : Phase} {a : Act} {r : a.Reply} (h : Staffed w φ)
    (hh : Holders w φ) (hχ : φ i = χ) (hs : Phase.Step key χ a r ψ) (hn : next w a r w') :
    Staffed w' (Function.update φ i ψ) := by
  have hstay : w'.memory.activeOperation = w.memory.activeOperation →
      w'.memory.spawned = w.memory.spawned →
      (∀ pen, χ.pen = some pen → ∃ pen', ψ.pen = some pen' ∧ pen'.id = pen.id) →
      Staffed w' (Function.update φ i ψ) := fun ha hw hpen => h.update ha hw (hχ ▸ hpen)
  have hsame : ψ = χ → ∀ pen, χ.pen = some pen → ∃ pen', ψ.pen = some pen' ∧ pen'.id = pen.id := by
    rintro rfl pen hpen
    exact ⟨pen, hpen, rfl⟩
  cases hs with
  | plain _ _ _ ha =>
    have hf := ha.frame hn
    exact hstay hf.active hf.spawned (hsame rfl)
  | enter =>
    obtain ⟨_, rfl⟩ := next_lock.mp hn
    exact hstay rfl rfl (by simp [Phase.pen])
  | leave _ _ hl =>
    obtain rfl := next_unlock.mp hn
    refine hstay rfl rfl fun pen hpen => ?_
    cases χ <;> first | exact hl.elim | cases hpen
  | keep pen =>
    obtain rfl := next_unlock.mp hn
    exact hstay rfl rfl fun pen' hpen => ⟨pen', hpen, rfl⟩
  | found s _ =>
    obtain ⟨_, rfl⟩ := next_state.mp hn
    exact hstay rfl rfl (by simp [Phase.pen])
  | absent s _ =>
    obtain ⟨_, rfl⟩ := next_state.mp hn
    exact hstay rfl rfl (by simp [Phase.pen])
  | state _ s _ =>
    obtain ⟨_, rfl⟩ := next_state.mp hn
    exact hstay rfl rfl (hsame rfl)
  | name id =>
    obtain ⟨_, rfl⟩ := next_newId.mp hn
    exact hstay rfl rfl (by simp [Phase.pen])
  | newId _ id _ =>
    obtain ⟨_, rfl⟩ := next_newId.mp hn
    exact hstay rfl rfl (hsame rfl)
  | reserve id =>
    obtain ⟨_, _, rfl⟩ | ⟨⟨e, he⟩, _⟩ := next_reserve hn
    · exact single (.open id) rfl rfl
    · cases he
  | reload id =>
    obtain ⟨_, _, rfl⟩ | ⟨⟨e, he⟩, _⟩ := next_reserve hn
    · exact single (.closed id) rfl rfl
    · cases he
  | busy _ id e =>
    obtain ⟨he, _⟩ | ⟨_, rfl⟩ := next_reserve hn
    · cases he
    · exact hstay rfl rfl (hsame rfl)
  | release pen =>
    obtain rfl := next_update.mp hn
    exact release hh (by rw [hχ]; rfl)
  | finish pen =>
    obtain rfl := next_update.mp hn
    exact release hh (by rw [hχ]; rfl)
  | spawn work _ _ =>
    obtain rfl := next_update.mp hn
    intro id hid
    have hactive := hh.active i (.open work.operationId) (by rw [hχ]; rfl)
    change w.memory.activeOperation = some id at hid
    rw [hactive] at hid
    cases hid
    exact .inr ⟨work, List.mem_append_right _ (List.mem_singleton.mpr rfl), rfl⟩
  | write _ pen o hpen hw =>
    obtain ⟨_, rfl⟩ | ⟨⟨text, ht⟩, _⟩ := next_rename.mp hn
    · refine hstay rfl rfl fun pen' hpen' => ?_
      rw [hpen] at hpen'
      cases hpen'
      exact ⟨_, Holders.setPen_pen hpen, (Holders.pen_id hw).symm⟩
    · cases ht
  | lost _ o text =>
    obtain ⟨ht, _⟩ | ⟨_, rfl⟩ := next_rename.mp hn
    · cases ht
    · exact hstay rfl rfl (hsame rfl)
  | put _ o _ hpen =>
    obtain rfl := next_update.mp hn
    refine hstay rfl rfl fun pen' hpen' => ?_
    rw [hpen] at hpen'
    cases hpen'
    exact ⟨_, Holders.setPen_pen hpen, Pen.put_id o⟩
  | start pen record _ _ =>
    obtain rfl := next_update.mp hn
    exact hstay rfl rfl fun pen' hpen => ⟨pen', hpen, rfl⟩

/-- A transaction that was handed over is taken by its own task. -/
theorem begin {work : TransactionWork} (hh : Holders w φ) (hwork : work ∈ w.memory.spawned) :
    Staffed (w.begin work) (Function.update φ i (.working (.open work.operationId))) :=
  single (.open work.operationId) (hh.spawnedActive work hwork) rfl

end Staffed

/-! ## Only reloads and transactions call HBBS -/

def Act.offline : Act → Prop
  | .call _ => False
  | _ => True

def Job.Offline : Job → Prop
  | .call (.plan _) | .call (.mutation _) => True
  | .call (.reload _) | .transaction _ => False

theorem reads_offline : Reads Act.offline := by
  intro a ha
  cases a with
  | call m => cases ha
  | _ => trivial

theorem Act.accepts.offline {a : Act} (h : a.accepts) : a.offline := by
  cases a with
  | call m =>
    obtain h | h := h
    · cases h
    · exact h.elim
  | _ => trivial

theorem program_offline {job : Job} (h : job.Offline) : (job.program env).Only Act.offline := by
  cases job with
  | call c =>
    cases c with
    | plan r =>
      refine Only.bind ?_ fun _ => trivial
      exact createPlan_only env reads_offline trivial (fun _ => trivial) (fun _ => trivial) r
    | mutation m =>
      exact Only.bind ((accept_accepts env m).mono fun _ ha => ha.offline) fun _ => trivial
    | reload r => exact h.elim
  | transaction work => exact h.elim

/-! ## Every state of the agent -/

section Serving

variable {env} {s t : System} {φ : Nat → Phase}

/-- A task is dropped. If it held the store, nobody does now. -/
theorem Holders.drop {w : World} {i : Nat} (h : Holders w φ) :
    Holders w (Function.update φ i .outside) := by
  cases hpen : (φ i).pen with
  | none => exact h.frame (.refl w) h.coherent.known hpen.symm (by simp)
  | some pen =>
    obtain ⟨halone, hnil⟩ := h.alone hpen
    refine .idle h.coherent hnil (fun j => ?_) fun j id hj => ?_
    · rw [Function.update_apply]
      split
      · rfl
      · exact halone j (by assumption)
    · rw [Function.update_apply] at hj
      split at hj
      · cases hj
      · obtain ⟨hu, hnone, _⟩ := h.named j id hj
        exact ⟨hu, hnone⟩

theorem Invariant.drop {i : Nat} (h : Invariant env s φ) :
    Invariant env (s.drop i) (Function.update φ i .outside) := by
  have htasks : ∀ j task, (s.drop i).tasks j = some task → j ≠ i ∧ s.tasks j = some task := by
    intro j task hj
    simp only [System.drop, Function.update_apply] at hj
    split at hj
    · cases hj
    · exact ⟨by assumption, hj⟩
  refine ⟨h.locking.stay (fun hi => hi.elim) fun hl => hl, h.holders.drop,
    ⟨fun j task hj hc => ?_, h.keys.retained, h.keys.nodup⟩, fun j task hj => ?_, fun j hj => ?_,
    fun hdown => ⟨(h.down hdown).1, fun j => ?_⟩⟩
  · obtain ⟨hji, hj⟩ := htasks j task hj
    rw [Function.update_of_ne hji] at hc
    exact h.keys.cleared j task hj hc
  · obtain ⟨hji, hj⟩ := htasks j task hj
    rw [Function.update_of_ne hji]
    exact h.tasks j task hj
  · rw [Function.update_apply]
    split
    · rfl
    · rename_i hji
      simp only [System.drop, Function.update_of_ne hji] at hj
      exact h.idle j hj
  · simp only [System.drop, Function.update_apply]
    split
    · rfl
    · exact (h.down hdown).2 j

/-- The tasks that never call HBBS. -/
def Offline (s : System) : Prop :=
  ∀ i task, s.tasks i = some task → task.job.Offline → task.rest.Only Act.offline

theorem Offline.set {i : Nat} {task : Task} {w : World} {started : List String} (h : Offline s)
    (hrest : task.job.Offline → task.rest.Only Act.offline) :
    Offline { s.set i task with world := w, started } := by
  intro j task' hj hjob
  simp only [System.set, Function.update_apply] at hj
  split at hj
  · cases hj
    exact hrest hjob
  · exact h j task' hj hjob

theorem Offline.next {m : Move} (h : Offline s) (hn : System.Next env s m t) : Offline t := by
  cases hn with
  | call i c hup hfree => exact Offline.set (s := s) h fun hjob => program_offline env hjob
  | act i htask hrest hn =>
    rename_i task a k r w
    refine Offline.set (s := s) h fun hjob => ?_
    rw [Task.after_job] at hjob
    have honly := h i task htask hjob
    rw [hrest] at honly
    rw [Task.after_rest]
    exact honly.2 r
  | begin i work hfree hwork => exact Offline.set (s := s) h fun hjob => hjob.elim
  | crash => exact fun _ _ hj => nomatch hj
  | stopped hdown hopen => exact fun _ _ hj => nomatch hj
  | opened hdown hopen => exact fun _ _ hj => nomatch hj

theorem Offline.drop {i : Nat} (h : Offline s) : Offline (s.drop i) := by
  intro j task hj hjob
  simp only [System.drop, Function.update_apply] at hj
  split at hj
  · cases hj
  · exact h j task hj hjob

/-- What every state has in which no reload was dropped. -/
def Attended (env : Env) (s : System) : Prop :=
  Offline s ∧ ∃ φ, Invariant env s φ ∧ Staffed s.world φ

theorem Attended.moved {m : Move} (h : Attended env s) (hn : System.Next env s m t) :
    Attended env t := by
  obtain ⟨hoff, φ, hφ, hstaff⟩ := h
  refine ⟨hoff.next hn, ?_⟩
  have hforgot : t.world.memory.activeOperation = none →
      ∃ ψ, Invariant env t ψ ∧ Staffed t.world ψ := by
    intro hnone
    obtain ⟨ψ, hψ⟩ := hφ.next hn
    exact ⟨ψ, hψ, .of_none hnone⟩
  cases hn with
  | call i c hup hfree => exact ⟨φ, hφ.call c hup hfree, hstaff⟩
  | act i htask hrest hn =>
    obtain ⟨χ, hs, hχ⟩ := hφ.act htask hrest hn
    exact ⟨_, hχ, hstaff.step hφ.holders rfl hs hn⟩
  | begin i work hfree hwork => exact ⟨_, hφ.begin hwork, .begin hφ.holders hwork⟩
  | crash => exact hforgot rfl
  | stopped hdown hopen => exact hforgot rfl
  | opened hdown hopen =>
    refine hforgot ?_
    have ho : Opened s.world _ :=
      eval_ok (Q := fun _ t => Opened s.world t) (tries_openStore env) hopen
    rw [ho.active, (hφ.down hdown).1]
    rfl

/-- A handler that waits, and is not a reload that waits for HBBS, holds nothing. -/
theorem Task.Awaits.free {task : Task} {key : String} {χ : Phase} (h : task.Awaits env)
    (hspare : ¬ task.Reloading) (hoff : task.job.Offline → task.rest.Only Act.offline)
    (hsafe : (phases key).Safe task.rest (fun _ ψ => ψ = .outside) χ)
    (hholding : task.holding = χ.pen.isSome) : χ.pen = none := by
  cases h with
  | arriving c => exact Option.not_isSome_iff_eq_none.mp (by rw [← hholding]; exact Bool.false_ne_true)
  | calling hjob hrest =>
    rename_i c m k
    have hcall : task.job.Offline → False := by
      intro hjob
      have honly := hoff hjob
      rw [hrest] at honly
      exact honly.1
    rw [hjob] at hcall
    cases c with
    | plan r => exact (hcall trivial).elim
    | mutation m => exact (hcall trivial).elim
    | reload r => exact absurd ⟨⟨r, hjob⟩, m, k, hrest⟩ hspare
  | answering hjob hrest =>
    rw [hrest] at hsafe
    obtain rfl : χ = .outside := hsafe
    rfl

theorem Attended.next {e : Happening} (h : Attended env s) (hn : System.ServesSparing env s e t) :
    Attended env t := by
  obtain ⟨hn, hspare⟩ := hn
  cases hn with
  | moved hn => exact h.moved hn
  | dropped i htask hawait =>
    rename_i task
    obtain ⟨hoff, φ, hφ, hstaff⟩ := h
    obtain ⟨hsafe, hholding⟩ := hφ.tasks i task htask
    have hpen : (φ i).pen = none :=
      hawait.free (hspare task htask) (hoff i task htask) hsafe hholding
    refine ⟨hoff.drop, _, hφ.drop, hstaff.update rfl rfl fun pen hi => ?_⟩
    rw [hpen] at hi
    cases hi

/-- Whoever holds the active operation is a task that is alive, and gives it back. -/
theorem Attended.running {id : String} (h : Attended env s)
    (hactive : s.world.memory.activeOperation = some id) : s.Running id := by
  obtain ⟨_, φ, hφ, hstaff⟩ := h
  obtain ⟨i, pen, hpen, rfl⟩ | hspawned := hstaff id hactive
  · refine .inl ?_
    cases htask : s.tasks i with
    | none =>
      rw [hφ.idle i htask] at hpen
      cases hpen
    | some task =>
      obtain ⟨hsafe, hholding⟩ := hφ.tasks i task htask
      refine ⟨i, task, htask, ?_, must_giveBack hpen hsafe⟩
      rw [hholding, hpen]
      rfl
  · exact .inr hspawned

/-- Nothing runs once every task has ended. -/
theorem System.Ended.not_running {id : String} (h : s.Ended) : ¬ s.Running id := by
  rintro (⟨i, task, htask, _, hmust⟩ | ⟨work, hwork, _⟩)
  · obtain ⟨x, hrest⟩ := h.2 i task htask
    rw [hrest] at hmust
    exact hmust
  · rw [h.1] at hwork
    cases hwork

/-- A store that is free is refused only for the lock file. -/
theorem reserve_free {w w' : World} {id : String} {c : LockFile} {r : Except TransactionError Unit}
    (hfree : w.memory.activeOperation = none)
    (h : step w (.reserve id) c = some (r, w')) (hr : r = .error .operationInProgress) :
    c = .wouldBlock := by
  have hcode : ∀ text, TransactionError.internal text ≠ .operationInProgress := by
    intro text heq
    have hcode : "STARRY_NOT_READY" = "OPERATION_IN_PROGRESS" := congrArg TransactionError.code heq
    exact absurd hcode (by decide)
  simp only [step, hfree, Option.isSome_none, Bool.false_eq_true, if_false] at h
  cases c with
  | acquired =>
    cases h
    cases hr
  | wouldBlock => rfl
  | cannotOpen =>
    cases h
    exact absurd (Except.error.inj hr) (hcode _)
  | cannotAcquire =>
    cases h
    exact absurd (Except.error.inj hr) (hcode _)

/-- In every run in which no reload is dropped while it waits for HBBS, an active operation is run
by a task that gives it back. -/
theorem abandoned_requests_harmless {config : Option Bytes}
    (h : Reachable (System.ServesSparing env) (.init config) s) : s.Unwedged := by
  have hattended : Attended env s := by
    refine Reachable.invariant (P := Attended env) h ⟨fun _ _ hj => (nomatch hj), ?_⟩
      fun _ _ _ hs hn => hs.next hn
    obtain ⟨φ, hφ⟩ := Invariant.init env config
    exact ⟨φ, hφ, .of_none rfl⟩
  refine ⟨fun id hactive => hattended.running hactive, fun hended id c r w hstep hr => ?_⟩
  refine reserve_free ?_ hstep hr
  refine Option.eq_none_iff_forall_not_mem.mpr fun id' hactive => ?_
  exact hended.not_running (hattended.running hactive)

/-! ## Dropped reloads -/

/-- Nobody holds the active operation. -/
structure Wedged (env : Env) (id : String) (s : System) : Prop where
  up : s.up = true
  active : s.world.memory.activeOperation = some id
  spawned : s.world.memory.spawned = []
  phases : ∃ φ, Invariant env s φ ∧ ∀ i, (φ i).pen = none

/-- Without a holder an operation stays active. -/
theorem wedged_act {key : String} {φ ψ : Phase} {a : Act} {r : a.Reply} {w w' : World}
    {id : String} (hactive : w.memory.activeOperation = some id) (hpen : φ.pen = none)
    (hs : Phase.Step key φ a r ψ) (hn : next w a r w') :
    w'.memory.activeOperation = some id ∧ w'.memory.spawned = w.memory.spawned ∧
      ψ.pen = none := by
  cases hs with
  | plain _ _ _ ha =>
    have hf := ha.frame hn
    exact ⟨hf.active.trans hactive, hf.spawned, hpen⟩
  | enter =>
    obtain ⟨_, rfl⟩ := next_lock.mp hn
    exact ⟨hactive, rfl, rfl⟩
  | leave _ _ _ =>
    obtain rfl := next_unlock.mp hn
    exact ⟨hactive, rfl, rfl⟩
  | found s _ =>
    obtain ⟨_, rfl⟩ := next_state.mp hn
    exact ⟨hactive, rfl, rfl⟩
  | absent s _ =>
    obtain ⟨_, rfl⟩ := next_state.mp hn
    exact ⟨hactive, rfl, rfl⟩
  | state _ s _ =>
    obtain ⟨_, rfl⟩ := next_state.mp hn
    exact ⟨hactive, rfl, hpen⟩
  | name id =>
    obtain ⟨_, rfl⟩ := next_newId.mp hn
    exact ⟨hactive, rfl, rfl⟩
  | newId _ id _ =>
    obtain ⟨_, rfl⟩ := next_newId.mp hn
    exact ⟨hactive, rfl, hpen⟩
  | reserve id =>
    obtain ⟨_, hfree, _⟩ | ⟨⟨e, he⟩, _⟩ := next_reserve hn
    · rw [hfree] at hactive
      cases hactive
    · cases he
  | reload id =>
    obtain ⟨_, hfree, _⟩ | ⟨⟨e, he⟩, _⟩ := next_reserve hn
    · rw [hfree] at hactive
      cases hactive
    · cases he
  | busy _ id e =>
    obtain ⟨he, _⟩ | ⟨_, rfl⟩ := next_reserve hn
    · cases he
    · exact ⟨hactive, rfl, hpen⟩
  | lost _ o text =>
    obtain ⟨ht, _⟩ | ⟨_, rfl⟩ := next_rename.mp hn
    · cases ht
    · exact ⟨hactive, rfl, hpen⟩
  | write _ pen o hpen' _ =>
    rw [hpen] at hpen'
    cases hpen'
  | put _ o _ hpen' =>
    rw [hpen] at hpen'
    cases hpen'
  | _ => cases hpen

theorem pens_update {φ : Nat → Phase} {i : Nat} {ψ : Phase} (h : ∀ j, (φ j).pen = none)
    (hψ : ψ.pen = none) (j : Nat) : (Function.update φ i ψ j).pen = none := by
  rw [Function.update_apply]
  split
  · exact hψ
  · exact h j

theorem Wedged.next {id : String} {e : Happening} (h : Wedged env id s)
    (hn : System.Serves env s e t) (hup : t.up = true) : Wedged env id t := by
  obtain ⟨hs, hactive, hspawned, φ, hφ, hpens⟩ := h
  cases hn with
  | moved hn =>
    cases hn with
    | call i c _ hfree => exact ⟨hup, hactive, hspawned, φ, hφ.call c hs hfree, hpens⟩
    | act i htask hrest hn =>
      obtain ⟨χ, hstep, hχ⟩ := hφ.act htask hrest hn
      obtain ⟨ha, hw, hpen⟩ := wedged_act hactive (hpens i) hstep hn
      exact ⟨hup, ha, hw.trans hspawned, _, hχ, pens_update hpens hpen⟩
    | begin i work _ hwork =>
      rw [hspawned] at hwork
      cases hwork
    | crash => cases hup
    | stopped hdown hopen => cases hup
    | opened hdown hopen =>
      rw [hs] at hdown
      cases hdown
  | dropped i htask hawait =>
    exact ⟨hup, hactive, hspawned, _, hφ.drop, pens_update hpens rfl⟩

/-- A dropped reload leaves its operation active without a holder, so every write is refused for
as long as the agent stays up. -/
theorem dropped_reload_wedges {i : Nat} {task : Task} {es : List Happening}
    (h : Attended env s) (hup : s.up = true) (htask : s.tasks i = some task)
    (hholding : task.holding = true)
    (hrun : Run (fun u e v => System.Serves env u e v ∧ v.up = true) (s.drop i) es t) :
    ∀ id c r w, step t.world (.reserve id) c = some (r, w) → r = .error .operationInProgress := by
  obtain ⟨_, φ, hφ, _⟩ := h
  have hpen : (φ i).pen.isSome = true := by
    rw [← (hφ.tasks i task htask).2]
    exact hholding
  obtain ⟨pen, hpen⟩ := Option.isSome_iff_exists.mp hpen
  obtain ⟨halone, hnil⟩ := hφ.holders.alone hpen
  have hstart : Wedged env pen.id (s.drop i) := by
    refine ⟨hup, hφ.holders.active i pen hpen, hnil, _, hφ.drop, fun j => ?_⟩
    rw [Function.update_apply]
    split
    · rfl
    · exact halone j (by assumption)
  have hwedged : Wedged env pen.id t := hrun.invariant hstart fun _ _ _ hs hn => hs.next hn.1 hn.2
  intro id c r w hstep
  simp only [step, hwedged.active, Option.isSome_some, if_true] at hstep
  cases hstep
  rfl

/-- A task that is left alone runs a part of its program. -/
theorem System.Reached.advances {config : Option Bytes} {i : Nat} {task : Task}
    {p q : Agent Answer} {w w' : World} (h : System.Reached env config s)
    (htask : s.tasks i = some task) (hp : task.rest = p) (hw : s.world = w)
    (he : Partway next p w q w') :
    ∃ t task', System.Reached env config t ∧ t.world = w' ∧ t.up = s.up ∧
      t.tasks = Function.update s.tasks i (some task') ∧ task'.job = task.job ∧
      task'.rest = q := by
  induction he generalizing s task with
  | here p w =>
    refine ⟨s, task, h, hw, rfl, ?_, rfl, hp⟩
    rw [← htask]
    exact (Function.update_eq_self i s.tasks).symm
  | act hn _ ih =>
    rename_i a k q w u w' r _
    subst hw
    have hset : Function.update s.tasks i (some (task.after (k r) a r)) i = some _ :=
      Function.update_self _ _ _
    obtain ⟨t, task', ht, hw', hup, htasks, hjob, hrest⟩ :=
      ih (Reachable.step h (.act i htask hp hn)) hset (Task.after_rest _ _ _ _) rfl
    refine ⟨t, task', ht, hw', hup, htasks.trans ?_, hjob.trans (Task.after_job _ _ _ _), hrest⟩
    exact Function.update_idem _ _ _

/-- A run without dropped handlers. -/
theorem System.Reached.served {config : Option Bytes} (h : System.Reached env config s) :
    Reachable (System.ServesSparing env) (.init config) s := by
  obtain ⟨ms, hrun⟩ := h
  induction hrun with
  | nil => exact .refl _
  | snoc _ hn ih => exact Reachable.step (i := .moved _) ih ⟨.moved hn, trivial⟩

end Serving

/-! ## A concrete run -/

def isCall : Act → Bool
  | .call _ => true
  | _ => false

def callsNow : Agent Answer → Bool
  | .act a _ => isCall a
  | .pure _ => false

/-- The agent is opened, and a reload waits for HBBS. -/
def waitingAt : Option (World × Agent Answer × World) :=
  (openedAt firstDay emptyWorld).bind fun opened =>
  (((Job.call (.reload sampleReload)).program sampleEnv).runUntil step firstDay isCall opened).map
    fun x => (opened, x)

theorem waitingAt_state :
    (waitingAt.map fun x => (callsNow x.2.1, x.2.2.memory.activeOperation.isSome,
      x.2.2.memory.spawned.length)) = some (true, true, 0) := by
  rfl

theorem calling_of_callsNow {p : Agent Answer} (h : callsNow p = true) :
    ∃ m k, p = .act (.call m) k := by
  cases p with
  | pure x => cases h
  | act a k =>
    cases a with
    | call m => exact ⟨m, k, rfl⟩
    | _ => cases h

theorem reached_waiting :
    ∃ s task, System.Reached sampleEnv none s ∧
      s.tasks = Function.update (fun _ => none) 0 (some task) ∧ task.Reloading ∧
      s.world.memory.spawned = [] ∧
      s.world.memory.activeOperation.isSome = true := by
  obtain ⟨⟨opened, q, w⟩, hrun, hstate⟩ := Option.map_eq_some_iff.mp waitingAt_state
  obtain ⟨opened, hopen, hrun⟩ := Option.bind_eq_some_iff.mp hrun
  obtain ⟨_, hrun, heq⟩ := Option.map_eq_some_iff.mp hrun
  cases heq
  obtain ⟨_, he⟩ := eval_openedAt hopen
  have hopened : System.Reached sampleEnv none ⟨true, opened, fun _ => none, []⟩ :=
    (Reachable.refl (System.init none)).step (.opened rfl he)
  have hcalled : System.Reached sampleEnv none _ :=
    Reachable.step hopened (.call 0 (.reload sampleReload) rfl rfl)
  obtain ⟨s, task, hs, rfl, _, htasks, hjob, hrest⟩ :=
    hcalled.advances (i := 0) rfl rfl rfl (Partway.of_runUntil hrun)
  obtain ⟨hcalls, hactive, hspawned⟩ := by simpa using hstate
  obtain ⟨m, k, hq⟩ := calling_of_callsNow hcalls
  refine ⟨s, task, hs, htasks.trans (Function.update_idem _ _ _), ⟨⟨_, hjob⟩, m, k, ?_⟩, ?_, hactive⟩
  · rw [hrest]
    exact hq
  · exact hspawned

/-- While HBBS has not answered, the reload that runs gives its operation back. -/
theorem abandoned_requests_harmless_waiting :
    ∃ s task id, System.Reached sampleEnv none s ∧ s.tasks 0 = some task ∧ task.Reloading ∧
      s.world.memory.activeOperation = some id ∧ s.Running id := by
  obtain ⟨s, task, hs, htasks, hreloading, _, hactive⟩ := reached_waiting
  obtain ⟨id, hactive⟩ := Option.isSome_iff_exists.mp hactive
  have htask : s.tasks 0 = some task := by
    rw [htasks]
    exact Function.update_self _ _ _
  exact ⟨s, task, id, hs, htask, hreloading, hactive,
    (abandoned_requests_harmless hs.served).running id hactive⟩

/-- The client of a reload goes away while HBBS is asked. Nothing runs any more, and every write is
refused. -/
theorem dropped_reload_active :
    ∃ s, Reachable (System.Serves sampleEnv) (.init none) s ∧ s.Ended ∧
      (∃ id, s.world.memory.activeOperation = some id ∧ ¬ s.Running id) ∧
      ∀ id c r w, step s.world (.reserve id) c = some (r, w) →
        r = .error .operationInProgress := by
  obtain ⟨s, task, hs, htasks, ⟨⟨r, hjob⟩, m, k, hrest⟩, hspawned, hactive⟩ := reached_waiting
  obtain ⟨id, hactive⟩ := Option.isSome_iff_exists.mp hactive
  have hserved : Reachable (System.Serves sampleEnv) (.init none) s := by
    obtain ⟨es, hrun⟩ := hs.served
    exact ⟨es, hrun.mono fun _ _ _ hn => hn.1⟩
  have htask : s.tasks 0 = some task := by
    rw [htasks]
    exact Function.update_self _ _ _
  have hended : (s.drop 0).Ended := by
    refine ⟨hspawned, fun i task' hi => ?_⟩
    simp only [System.drop, htasks, Function.update_idem, Function.update_apply] at hi
    split at hi <;> cases hi
  refine ⟨s.drop 0, hserved.step (.dropped 0 htask (.calling hjob hrest)), hended,
    ⟨id, hactive, hended.not_running⟩, fun id' c r w hstep => ?_⟩
  simp only [step, show (s.drop 0).world.memory.activeOperation = some id from hactive,
    Option.isSome_some, if_true] at hstep
  cases hstep
  rfl

end Starry.ConfigStore
