import Starry.ConfigStore.Exclusion

/-!
# Mutations happen at most once

A request whose key is recorded is answered from the record. Whatever the tasks of the agent do in
between, at most one of them holds the store, and no key is used twice while its record is
retained.
-/

open Library

namespace Starry.ConfigStore

variable (env : Env)

/-! ## Answers from a record -/

/-- The record was made by the same instance for the same caller and request. -/
def Matches (record : IdempotencyRecord) (caller : TransactionCaller) (digest : String) : Prop :=
  record.instanceId = env.instanceId ∧ record.callerDigest = callerDigest env caller ∧
    record.requestDigest = digest

def TransactionError.IsReuse (e : TransactionError) : Prop :=
  e.status = 409 ∧ e.code = "IDEMPOTENCY_KEY_REUSED"

def Mutation.body : Mutation → RequestBody
  | .apply r => r.body
  | .rollback r => r.body

/-- What the record of a key answers a request: the recorded operation, response or error as it
is, or a failure. -/
def Recorded (s : StoreState) (record : IdempotencyRecord) : Job → Answer → Prop
  | .call (.mutation m), .operation r =>
      (∃ e, r = .error e ∧ e.IsReuse) ∨
      Matches env record m.request.caller (requestDigest env m.body) ∧
        ∃ id, record.operationId = some id ∧
          ((∃ o, s.operations.get id = some o ∧ r = .ok o) ∨
            s.operations.get id = none ∧
              r = .error (.internal "The durable idempotency record has no operation."))
  | .call (.reload q), .response r =>
      (∃ e, r = .error e ∧ e.IsReuse) ∨
      Matches env record q.caller (requestDigest env q.body) ∧ record.kind = .runtimeReload ∧
        ((∃ v, record.response = some v ∧ r = .ok v) ∨
          (∃ f, record.response = none ∧ record.error = some f ∧ r = .error f.toError) ∨
          record.unresolved = true ∧ r = .error .operationInProgress)
  | _, _ => False

theorem recorded_operation {s : StoreState} {m : Mutation} {record : IdempotencyRecord}
    {r : Except TransactionError Operation} {key : String}
    (hget : s.idempotency.get key = some record)
    (h : idempotentOperation env s key (requestDigest env m.body) m.request.caller =
      r.map some) : Recorded env s record (.call (.mutation m)) (.operation r) := by
  unfold idempotentOperation at h
  rw [hget] at h
  dsimp only at h
  split at h
  · cases r with
    | ok o => cases h
    | error e =>
      cases h
      exact .inl ⟨_, rfl, rfl, rfl⟩
  · rename_i hmatch
    have hmatches : Matches env record m.request.caller (requestDigest env m.body) := by
      simp only [not_or, not_not] at hmatch
      exact ⟨hmatch.2.1, hmatch.2.2, hmatch.1⟩
    split at h
    · cases r with
      | ok o => cases h
      | error e =>
        cases h
        exact .inl ⟨_, rfl, rfl, rfl⟩
    · rename_i id hid
      refine .inr ⟨hmatches, id, hid, ?_⟩
      split at h
      · cases r with
        | ok o => cases h
        | error e =>
          cases h
          exact .inr ⟨by assumption, rfl⟩
      · cases r with
        | ok o =>
          cases h
          exact .inl ⟨_, by assumption, rfl⟩
        | error e => cases h

theorem recorded_response {s : StoreState} {q : ReloadRequest} {record : IdempotencyRecord}
    {r : Except TransactionError Value} {key : String}
    (hget : s.idempotency.get key = some record)
    (h : idempotentReload env s key (requestDigest env q.body) q.caller = .ok (some r) ∨
      ∃ e, idempotentReload env s key (requestDigest env q.body) q.caller = .error e ∧
        r = .error e) : Recorded env s record (.call (.reload q)) (.response r) := by
  unfold idempotentReload at h
  rw [hget] at h
  dsimp only at h
  split at h
  · obtain h | ⟨e, h, rfl⟩ := h
    · cases h
    · cases h
      exact .inl ⟨_, rfl, rfl, rfl⟩
  · rename_i hmatch
    simp only [not_or, not_not] at hmatch
    obtain ⟨hdigest, hkind, hinstance, hcaller⟩ := hmatch
    refine .inr ⟨⟨hinstance, hcaller, hdigest⟩, hkind, ?_⟩
    split at h
    · obtain h | ⟨e, h, _⟩ := h
      · cases h
        exact .inl ⟨_, by assumption, rfl⟩
      · cases h
    · rename_i hresponse
      split at h
      · obtain h | ⟨e, h, _⟩ := h
        · cases h
          exact .inr (.inl ⟨_, hresponse, by assumption, rfl⟩)
        · cases h
      · rename_i herror
        obtain h | ⟨e, h, _⟩ := h
        · cases h
          refine .inr (.inr ⟨?_, rfl⟩)
          simp [IdempotencyRecord.unresolved, hkind, hresponse, herror]
        · cases h

/-- The request was turned down before its key was looked up. -/
def Answer.IsInvalid (x : Answer) : Prop :=
  ∃ e : TransactionError, (x = .operation (.error e) ∨ x = .response (.error e)) ∧
    e.status = 400 ∧ e.code = "REQUEST_INVALID"

/-- What a request is answered, by the state in which it looked its key up. -/
def Answered (job : Job) (key : String) (x : Answer) : Option StoreState → Prop
  | none => x.IsInvalid
  | some s => ∀ record, s.idempotency.get key = some record → Recorded env s record job x

theorem answered_absent {job : Job} {key : String} {x : Answer} {s : StoreState}
    (h : ¬ Retained s key) : Answered env job key x (some s) := by
  intro record hget
  unfold Retained at h
  simp [hget] at h

/-! ## Lookups -/

/-- The state in which a task looks its key up is the first one it reads. -/
def Act.look (l : Option StoreState) : (a : Act) → a.Reply → Option StoreState
  | .state, s => l.or (some s)
  | _, _ => l

/-- A task that found its key only leaves the lock, and one that takes the store did not find it. -/
def lookups (key : String) : Rules Act Act.Reply (Option StoreState) :=
  .every (fun l a => (∀ s, l = some s → Retained s key → a = .unlock .admission) ∧
    ∀ id, a = .reserve id → ∃ s, l = some s ∧ ¬ Retained s key) fun l a r l' => l' = a.look l r

section Lookups

variable {key : String} {α : Type} {l : Option StoreState}

theorem look_some {s : StoreState} {a : Act} (r : a.Reply) : a.look (some s) r = some s := by
  cases a <;> rfl

/-- A task that did not find its key is free. -/
theorem look_absent {s : StoreState} {p : Agent α} {Q : α → Option StoreState → Prop}
    (hs : ¬ Retained s key) (hQ : ∀ x, Q x (some s)) : (lookups key).Safe p Q (some s) := by
  induction p with
  | pure x => exact hQ x
  | act a k ih =>
    refine ⟨⟨fun s' hs' h => ?_, fun id _ => ⟨s, rfl, hs⟩⟩, ?_⟩
    · cases hs'
      exact absurd h hs
    · rintro r _ rfl
      rw [look_some]
      exact ih r

theorem look_before {a : Act} {Q : a.Reply → Option StoreState → Prop}
    (hr : ∀ id, a ≠ .reserve id) (hl : ∀ r, a.look none r = none) (h : ∀ r, Q r none) :
    (lookups key).before a Q none := by
  refine ⟨⟨by simp, fun id hid => absurd hid (hr id)⟩, ?_⟩
  rintro r _ rfl
  rw [hl]
  exact h r

/-- The lookup under the admission lock, and the lock given back. -/
theorem look_admission {rest : StoreState → Try α}
    {A : Except TransactionError α → Option StoreState → Prop}
    (hfound : ∀ s, Retained s key → ∃ r, rest s = check r ∧ A r (some s))
    (hfree : ∀ s r, ¬ Retained s key → A r (some s)) :
    (lookups key).Safe (withLock .admission (do rest (← lift state))).run A none := by
  refine Rules.safe_run.mpr ?_
  unfold withLock
  refine Rules.tries_bind.mpr (Rules.tries_lift.mpr (look_before (by simp) (fun _ => rfl) ?_))
  intro _
  refine Rules.tries_bind.mpr (tries_lift.mpr (Rules.safe_run.mpr (Rules.tries_bind.mpr
    (tries_lift.mpr ⟨⟨by simp, by simp⟩, ?_⟩))))
  rintro s _ rfl
  change (lookups key).Tries (rest s) _ _ (some s)
  by_cases hs : Retained s key
  · obtain ⟨r, hrest, hr⟩ := hfound s hs
    have hunlock : ∀ {Q : Unit → Option StoreState → Prop}, Q () (some s) →
        (lookups key).Safe (perform (.unlock .admission)) Q (some s) := by
      intro Q hQ
      refine ⟨⟨fun _ _ _ => rfl, by simp⟩, ?_⟩
      rintro r _ rfl
      exact hQ
    rw [hrest]
    refine tries_check.mpr ?_
    cases r <;> exact Rules.tries_bind.mpr (Rules.tries_lift.mpr (hunlock hr))
  · refine look_absent hs fun r => ?_
    cases r <;> exact look_absent hs fun r' => by cases r' <;> exact hfree s _ hs

end Lookups

/-! ## Requests -/

section Requests

variable {key : String}

theorem look_mutationAdmission (m : Mutation) {start : Try Operation}
    (hkey : idempotencyHash env m.request.idempotencyKey = key) :
    (lookups key).Safe (admitMutation env m.request m.body start).run
      (fun r => Answered env (.call (.mutation m)) key (.operation r)) none := by
  refine look_admission (fun s hs => ?_) fun s r hs => answered_absent env hs
  rw [hkey]
  have hnone := idempotentOperation_retained env (requestDigest env m.body) m.request.caller hs
  cases hr : idempotentOperation env s key (requestDigest env m.body) m.request.caller with
  | ok found =>
    cases found with
    | none => exact absurd hr hnone
    | some operation =>
      refine ⟨.ok operation, rfl, fun record hget => ?_⟩
      exact recorded_operation env hget hr
  | error e =>
    refine ⟨.error e, rfl, fun record hget => ?_⟩
    exact recorded_operation env hget hr

theorem answered_invalid {job : Job} {e : TransactionError} (hstatus : e.status = 400)
    (hcode : e.code = "REQUEST_INVALID") :
    Answered env job key (.operation (.error e)) none ∧
      Answered env job key (.response (.error e)) none :=
  ⟨⟨e, .inl rfl, hstatus, hcode⟩, ⟨e, .inr rfl, hstatus, hcode⟩⟩

theorem validateComment_invalid {comment : Option String} {e : TransactionError}
    (h : validateComment comment = .error e) : e.status = 400 ∧ e.code = "REQUEST_INVALID" := by
  unfold validateComment at h
  split at h
  · cases h
  · split at h
    · cases h
      exact ⟨rfl, rfl⟩
    · cases h

theorem validateRevisionId_invalid {revisionId : String} {e : TransactionError}
    (h : validateRevisionId env revisionId = .error e) :
    e.status = 400 ∧ e.code = "REQUEST_INVALID" := by
  unfold validateRevisionId at h
  split at h
  · cases h
  · cases h
    exact ⟨rfl, rfl⟩

theorem validateDigest_invalid {value : String} {e : TransactionError}
    (h : validateDigest value = .error e) : e.status = 400 ∧ e.code = "REQUEST_INVALID" := by
  unfold validateDigest at h
  split at h
  · cases h
    exact ⟨rfl, rfl⟩
  · cases h

/-- The checks of a mutation come before the lookup. -/
theorem look_accept {m : Mutation}
    (hkey : idempotencyHash env m.request.idempotencyKey = key) :
    (lookups key).Safe (accept env m).run
      (fun r => Answered env (.call (.mutation m)) key (.operation r)) none := by
  refine Rules.safe_run.mpr ?_
  cases m with
  | apply r =>
    refine Rules.tries_bind.mpr (tries_check.mpr ?_)
    split
    · exact Rules.safe_run.mp (look_mutationAdmission env (.apply r) hkey)
    · rename_i e he
      obtain ⟨hstatus, hcode⟩ := validateComment_invalid he
      exact (answered_invalid env hstatus hcode).1
  | rollback r =>
    refine Rules.tries_bind.mpr (tries_check.mpr ?_)
    split
    · refine Rules.tries_bind.mpr (tries_check.mpr ?_)
      split
      · exact Rules.safe_run.mp (look_mutationAdmission env (.rollback r) hkey)
      · rename_i e he
        obtain ⟨hstatus, hcode⟩ := validateRevisionId_invalid env he
        exact (answered_invalid env hstatus hcode).1
    · rename_i e he
      obtain ⟨hstatus, hcode⟩ := validateComment_invalid he
      exact (answered_invalid env hstatus hcode).1

/-- A reload whose key was found has its answer, and one that is to be performed did not find it. -/
def Admitted (r : ReloadRequest) (key : String)
    (x : Except TransactionError (Except TransactionError Value ⊕ Reload)) :
    Option StoreState → Prop
  | none => False
  | some s => Retained s key → ∃ outcome, (x = .ok (.inl outcome) ∨
      ∃ e, outcome = .error e ∧ x = .error e) ∧
        Answered env (.call (.reload r)) key (.response outcome) (some s)

theorem look_reloadAdmission {r : ReloadRequest} {operationId : String}
    (hkey : idempotencyHash env r.idempotencyKey = key) :
    (lookups key).Safe (admitReload env r operationId).run (Admitted env r key) none := by
  refine look_admission (fun s hs => ?_) fun s r hs hr => absurd hr hs
  rw [hkey]
  have hnone := idempotentReload_retained env (requestDigest env r.body) r.caller hs
  cases hr : idempotentReload env s key (requestDigest env r.body) r.caller with
  | ok found =>
    cases found with
    | none => exact absurd hr hnone
    | some outcome =>
      refine ⟨.ok (.inl outcome), rfl, fun _ => ⟨outcome, .inl rfl, fun record hget => ?_⟩⟩
      exact recorded_response env hget (.inl hr)
  | error e =>
    refine ⟨.error e, rfl, fun _ => ⟨.error e, .inr ⟨e, rfl, rfl⟩, fun record hget => ?_⟩⟩
    exact recorded_response env hget (.inr ⟨e, hr, rfl⟩)

theorem look_runtimeReload {r : ReloadRequest}
    (hkey : idempotencyHash env r.idempotencyKey = key) :
    (lookups key).Safe (runtimeReload env r).run
      (fun x => Answered env (.call (.reload r)) key (.response x)) none := by
  refine Rules.safe_run.mpr ?_
  unfold runtimeReload
  refine Rules.tries_bind.mpr (tries_check.mpr ?_)
  split
  · refine Rules.tries_bind.mpr (tries_lift.mpr (look_before (by simp) (fun _ => rfl) fun id => ?_))
    refine Rules.tries_bind.mpr ((look_reloadAdmission env hkey).mono ?_)
    intro x l hx
    cases l with
    | none => exact hx.elim
    | some s =>
      by_cases hs : Retained s key
      · obtain ⟨outcome, rfl | ⟨e, rfl, rfl⟩, hanswer⟩ := hx hs
        · cases outcome <;> exact hanswer
        · exact hanswer
      · have hfree : ∀ x, Answered env (.call (.reload r)) key (.response x) (some s) :=
          fun x => answered_absent env hs
        cases x with
        | ok x => exact look_absent hs fun x => by cases x <;> exact hfree _
        | error e => exact hfree _
  · rename_i e he
    obtain ⟨hstatus, hcode⟩ := validateDigest_invalid he
    exact (answered_invalid env hstatus hcode).2

/-- Every request with a key. -/
theorem look_program {job : Job} (hkey : job.key env = some key) :
    (lookups key).Safe (job.program env) (Answered env job key) none := by
  cases job with
  | call c =>
    cases c with
    | plan r => cases hkey
    | mutation m => exact Rules.safe_map.mpr (look_accept env (Option.some.inj hkey))
    | reload r => exact Rules.safe_map.mpr (look_runtimeReload env (Option.some.inj hkey))
  | transaction work => cases hkey

end Requests

/-! ## Runs -/

/-- A task is as far as its lookup says, and holds the store only if it did not find its key. -/
def Task.Looking (task : Task) (key : String) : Prop :=
  (lookups key).Safe task.rest (Answered env task.job key) task.looked ∧
    (task.holding = true → ∃ s, task.looked = some s ∧ ¬ Retained s key)

def Looking (s : System) : Prop :=
  ∀ i task key, s.tasks i = some task → task.job.key env = some key → task.Looking env key

theorem Task.after_looked (task : Task) (rest : Agent Answer) (a : Act) (r : a.Reply) :
    (task.after rest a r).looked = a.look task.looked r := by
  cases a with
  | reserve id => cases r <;> rfl
  | update u => cases u <;> rfl
  | _ => rfl

/-- Only a reservation makes a task hold the store. -/
theorem Task.after_reserved {task : Task} {rest : Agent Answer} {a : Act} {r : a.Reply}
    (h : (task.after rest a r).holding = true) : task.holding = true ∨ ∃ id, a = .reserve id := by
  cases a with
  | reserve id => exact .inr ⟨id, rfl⟩
  | update u => cases u <;> first | exact .inl h | cases h
  | _ => exact .inl h

section Runs

variable {env} {s t : System}

theorem Task.Looking.start {job : Job} {key : String} (hkey : job.key env = some key) :
    (Task.start env job).Looking env key := by
  refine ⟨look_program env hkey, fun hh => ?_⟩
  cases job with
  | call c => cases hh
  | transaction work => cases hkey

theorem Task.Looking.after {task : Task} {a : Act} {k : a.Reply → Agent Answer} {key : String}
    (h : task.Looking env key) (hrest : task.rest = .act a k) (r : a.Reply) :
    (task.after (k r) a r).Looking env key := by
  obtain ⟨hsafe, hholding⟩ := h
  rw [hrest] at hsafe
  unfold Task.Looking
  rw [Task.after_job, Task.after_rest, Task.after_looked]
  refine ⟨hsafe.2 r _ rfl, fun hh => ?_⟩
  have hfree : ∃ s, task.looked = some s ∧ ¬ Retained s key := by
    rcases Task.after_reserved hh with hh | ⟨id, rfl⟩
    · exact hholding hh
    · exact hsafe.1.2 id rfl
  obtain ⟨s, hs, hfree⟩ := hfree
  rw [hs, look_some]
  exact ⟨s, rfl, hfree⟩

theorem Looking.set {i : Nat} {task : Task} (h : Looking env s)
    (htask : ∀ key, task.job.key env = some key → task.Looking env key) :
    Looking env (s.set i task) := by
  intro j task' key hj hkey
  simp only [System.set, Function.update_apply] at hj
  split at hj
  · cases hj
    exact htask key hkey
  · exact h j task' key hj hkey

theorem Looking.next {m : Move} (h : Looking env s) (hn : System.Next env s m t) :
    Looking env t := by
  cases hn with
  | call i c hup hfree => exact h.set fun key hkey => .start hkey
  | act i htask hrest hn =>
    rename_i task a k r w
    refine Looking.set (s := s) h fun key hkey => ?_
    rw [Task.after_job] at hkey
    exact (h i task key htask hkey).after hrest r
  | begin i work hfree hwork => exact Looking.set (s := s) h fun key hkey => .start hkey
  | crash => exact fun _ _ _ hj => nomatch hj
  | stopped hdown hopen => exact fun _ _ _ hj => nomatch hj
  | opened hdown hopen => exact fun _ _ _ hj => nomatch hj

theorem System.Reached.looking {config : Option Bytes} (h : System.Reached env config s) :
    Looking env s :=
  Reachable.invariant (P := Looking env) h (fun _ _ _ hj => nomatch hj) fun _ _ _ hs hn => hs.next hn

/-- In every state that the requests, the transactions and the restarts of the agent lead to, at
most one task holds the store, a transaction that waits for its task holds it alone, and no key
has started work twice since its record is retained. A request that found its key never holds the
store and only leaves the lock; its answer comes from the record, or from the checks before the
lookup. -/
theorem mutations_exactly_once {config : Option Bytes} (h : System.Reached env config s) :
    (∀ i j task task', s.tasks i = some task → s.tasks j = some task' → task.holding = true →
      task'.holding = true → i = j) ∧
    s.world.memory.spawned.length ≤ 1 ∧
    (s.world.memory.spawned ≠ [] → ∀ i task, s.tasks i = some task → task.holding = false) ∧
    s.started.Nodup ∧
    ∀ i task key, s.tasks i = some task → task.job.key env = some key →
      (∀ st, task.looked = some st → Retained st key →
        task.holding = false ∧ ∀ a k, task.rest = .act a k → a = .unlock .admission) ∧
      ∀ x, task.rest = .pure x → Answered env task.job key x task.looked := by
  obtain ⟨φ, hφ⟩ := h.invariant
  have hlook := h.looking
  refine ⟨?_, hφ.holders.spawnedOne, ?_, hφ.keys.nodup, ?_⟩
  · intro i j task task' hi hj hh hh'
    rw [(hφ.tasks i task hi).2] at hh
    rw [(hφ.tasks j task' hj).2] at hh'
    exact hφ.holders.unique i j hh hh'
  · intro hspawned i task hi
    obtain ⟨work, hwork⟩ := List.exists_mem_of_ne_nil _ hspawned
    rw [(hφ.tasks i task hi).2, hφ.holders.spawnedFree work hwork i]
    rfl
  · intro i task key hi hkey
    obtain ⟨hsafe, hholding⟩ := hlook i task key hi hkey
    refine ⟨fun st hst hretained => ⟨?_, fun a k hrest => ?_⟩, fun x hrest => ?_⟩
    · refine Bool.eq_false_iff.mpr fun hh => ?_
      obtain ⟨st', hst', hfree⟩ := hholding hh
      rw [hst] at hst'
      cases hst'
      exact hfree hretained
    · rw [hrest] at hsafe
      exact hsafe.1.1 st hst hretained
    · rw [hrest] at hsafe
      exact hsafe

/-- A task that is left alone runs its program to the end. -/
theorem System.Reached.runs {config : Option Bytes} {i : Nat} {task : Task} {p : Agent Answer}
    {w w' : World} {es : List (Event Act Act.Reply World)} {x : Answer}
    (h : System.Reached env config s) (htask : s.tasks i = some task) (hp : task.rest = p)
    (hw : s.world = w) (he : Eval next p w es x w') :
    ∃ t task', System.Reached env config t ∧ t.world = w' ∧ t.up = s.up ∧
      t.tasks = Function.update s.tasks i (some task') ∧ task'.job = task.job ∧
      task'.rest = .pure x := by
  induction he generalizing s task with
  | pure x w =>
    refine ⟨s, task, h, hw, rfl, ?_, rfl, hp⟩
    rw [← htask]
    exact (Function.update_eq_self i s.tasks).symm
  | act hn _ ih =>
    rename_i a k w u w' r es x _
    subst hw
    have hset : Function.update s.tasks i (some (task.after (k r) a r)) i = some _ :=
      Function.update_self _ _ _
    obtain ⟨t, task', ht, hw', hup, htasks, hjob, hrest⟩ :=
      ih (Reachable.step h (.act i htask hp hn)) hset (Task.after_rest _ _ _ _) rfl
    refine ⟨t, task', ht, hw', hup, htasks.trans ?_, hjob.trans (Task.after_job _ _ _ _), hrest⟩
    exact Function.update_idem _ _ _

end Runs

/-! ## A concrete run -/

/-- The agent is opened and reloads; HBBS acknowledges another document, which is recorded. -/
def reloadedAt : Option (World × Answer × World) :=
  (openedAt firstDay emptyWorld).bind fun opened =>
  (((Job.call (.reload sampleReload)).program sampleEnv).runWith step firstDay opened).map
    fun x => (opened, x)

/-- The hash of the key of the reload. -/
def reloadedKey : String := idempotencyHash sampleEnv "k-1"

def recordedCode (w : World) : Option (Bool × Option String) :=
  (w.memory.state.idempotency.get reloadedKey).map fun record =>
    (record.response.isSome, record.error.map (·.code))

theorem reloadedAt_recorded :
    (reloadedAt.map fun x => recordedCode x.2.2) = some (some (false, some "STARRY_NOT_READY")) := by
  rfl

/-- The agent after the reload, with the finished task and its record. -/
theorem reached_reloaded :
    ∃ s task x, System.Reached sampleEnv none s ∧ s.up = true ∧ s.tasks 1 = none ∧
      s.tasks 0 = some task ∧ task.rest = .pure x ∧ task.job.key sampleEnv = some reloadedKey ∧
      recordedCode s.world = some (false, some "STARRY_NOT_READY") := by
  obtain ⟨⟨opened, x, w⟩, hrun, hrecorded⟩ := Option.map_eq_some_iff.mp reloadedAt_recorded
  obtain ⟨opened, hopen, hrun⟩ := Option.bind_eq_some_iff.mp hrun
  obtain ⟨_, hrun, heq⟩ := Option.map_eq_some_iff.mp hrun
  cases heq
  obtain ⟨_, he⟩ := eval_openedAt hopen
  obtain ⟨_, hreload⟩ := Eval.of_runWith hrun
  have hopened : System.Reached sampleEnv none ⟨true, opened, fun _ => none, []⟩ :=
    (Reachable.refl (System.init none)).step (.opened rfl he)
  have hcalled : System.Reached sampleEnv none _ :=
    Reachable.step hopened (.call 0 (.reload sampleReload) rfl rfl)
  obtain ⟨s, task, hs, rfl, hup, htasks, hjob, hrest⟩ := hcalled.runs (i := 0) rfl rfl rfl hreload
  refine ⟨s, task, x, hs, hup, ?_, ?_, hrest, ?_, hrecorded⟩
  · rw [htasks]
    rfl
  · rw [htasks]
    exact Function.update_self _ _ _
  · rw [hjob]
    rfl

/-- The finished reload does not hold the store, and its answer is from its own lookup. -/
theorem mutations_exactly_once_reloaded :
    ∃ s task x, System.Reached sampleEnv none s ∧ s.tasks 0 = some task ∧
      task.rest = .pure x ∧ s.started.Nodup ∧
      Answered sampleEnv task.job reloadedKey x task.looked := by
  obtain ⟨s, task, x, hs, _, _, htask, hrest, hkey, _⟩ := reached_reloaded
  obtain ⟨_, _, _, hnodup, hkeys⟩ := mutations_exactly_once hs
  exact ⟨s, task, x, hs, htask, hrest, hnodup, (hkeys 0 task _ htask hkey).2 x hrest⟩

/-- The answer is what the record holds, or one of the two refusals. -/
def Replays (s : StoreState) (record : IdempotencyRecord) (x : Answer) : Prop :=
  (∃ id o, record.operationId = some id ∧ s.operations.get id = some o ∧ x = .operation (.ok o)) ∨
  (∃ v, record.response = some v ∧ x = .response (.ok v)) ∨
  (∃ f, record.error = some f ∧ x = .response (.error f.toError)) ∨
  ∃ e : TransactionError, (x = .operation (.error e) ∨ x = .response (.error e)) ∧
    (e.code = "IDEMPOTENCY_KEY_REUSED" ∨ e.code = "OPERATION_IN_PROGRESS")

/-- A call whose key is recorded is turned down for its digest before the record is looked up. -/
theorem retained_key_turned_down :
    ∃ s task key record x, System.Reached sampleEnv none s ∧
      s.tasks 1 = some task ∧ task = .start sampleEnv task.job ∧
      task.job.key sampleEnv = some key ∧ task.rest = .pure x ∧
      s.world.memory.state.idempotency.get key = some record ∧
      ¬ Replays s.world.memory.state record x := by
  obtain ⟨s, _, _, hs, hup, hfree, _, _, _, hrecorded⟩ := reached_reloaded
  obtain ⟨record, hget, hcode⟩ := Option.map_eq_some_iff.mp hrecorded
  obtain ⟨_, hcode⟩ := Prod.mk.inj hcode
  let call : Call := .reload { sampleReload with expectedSourceDigest := "" }
  have hcalled : System.Reached sampleEnv none (s.set 1 (.start sampleEnv (.call call))) :=
    Reachable.step hs (.call 1 call hup hfree)
  have hrest : (Task.start sampleEnv (.call call)).rest = .pure (.response (.error
      (.new 400 "REQUEST_INVALID" "A lowercase sha256 digest is required." false))) := by
    rfl
  refine ⟨_, .start sampleEnv (.call call), reloadedKey, record, _, hcalled,
    Function.update_self 1 _ s.tasks, rfl, rfl, hrest, hget, ?_⟩
  rintro (⟨_, _, _, _, hx⟩ | ⟨_, _, hx⟩ | ⟨f, hf, hx⟩ | ⟨e, hx | hx, hreuse⟩)
  · cases hx
  · cases hx
  · rw [hf] at hcode
    have hinvalid : f.toError.code = "REQUEST_INVALID" := by
      rw [← Except.error.inj (Answer.response.inj hx)]
      rfl
    have hcode : f.code = "STARRY_NOT_READY" := Option.some.inj hcode
    change f.code = _ at hinvalid
    rw [hcode] at hinvalid
    exact absurd hinvalid (by decide)
  · cases hx
  · cases hx
    revert hreuse
    simp [TransactionError.new]

end Starry.ConfigStore
