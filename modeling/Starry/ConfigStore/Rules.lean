import Starry.ConfigStore.Startup

/-!
# Rules for the actions

What each action may do to the world, and which actions each function performs.
-/

open Library Library.Prog

namespace Starry.ConfigStore

variable {w w' : World}

/-! ## Single actions -/

@[simp] theorem next_ask {q : Query} {r : q.Reply} : next w (.ask q) r w' ↔ w' = w := by
  constructor
  · rintro ⟨c, h⟩
    cases h
    rfl
  · rintro rfl
    exact ⟨r, rfl⟩

@[simp] theorem next_newId {r : String} :
    next w .newId r w' ↔ r ∉ w.used ∧ w' = w.useId r := by
  constructor
  · rintro ⟨c, h⟩
    change (if w.used.contains c then none else some (c, w.useId c)) = some (r, w') at h
    split at h
    · cases h
    · cases h
      simp_all
  · rintro ⟨hr, rfl⟩
    exact ⟨r, if_neg (by simpa using hr)⟩

@[simp] theorem next_lock {m : Mutex} {r : Unit} :
    next w (.lock m) r w' ↔ m ∉ w.memory.locks ∧ w' = w.setLocks (m :: w.memory.locks) := by
  constructor
  · rintro ⟨c, h⟩
    change (if w.memory.locks.contains m then none
      else some ((), w.setLocks (m :: w.memory.locks))) = some (r, w') at h
    split at h
    · cases h
    · cases h
      simp_all
  · rintro ⟨hr, rfl⟩
    exact ⟨(), if_neg (by simpa using hr)⟩

@[simp] theorem next_unlock {m : Mutex} {r : Unit} :
    next w (.unlock m) r w' ↔ w' = w.setLocks (w.memory.locks.erase m) := by
  constructor
  · rintro ⟨c, h⟩
    cases h
    rfl
  · rintro rfl
    exact ⟨(), rfl⟩

@[simp] theorem next_state {r : StoreState} :
    next w .state r w' ↔ r = w.memory.state ∧ w' = w := by
  constructor
  · rintro ⟨c, h⟩
    cases h
    exact ⟨rfl, rfl⟩
  · rintro ⟨rfl, rfl⟩
    exact ⟨(), rfl⟩

@[simp] theorem next_plans {r : Table String PlanRecord} :
    next w .plans r w' ↔ r = w.memory.plans ∧ w' = w := by
  constructor
  · rintro ⟨c, h⟩
    cases h
    exact ⟨rfl, rfl⟩
  · rintro ⟨rfl, rfl⟩
    exact ⟨(), rfl⟩

@[simp] theorem next_update {u : Update} {r : Unit} :
    next w (.update u) r w' ↔ w' = w.update u := by
  constructor
  · rintro ⟨c, h⟩
    cases h
    rfl
  · rintro rfl
    exact ⟨(), rfl⟩

/-- A reservation succeeds only in a store that is free, and an error changes nothing. -/
theorem next_reserve {id : String} {r : Except TransactionError Unit}
    (h : next w (.reserve id) r w') :
    r = .ok () ∧ w.memory.activeOperation = none ∧ w' = w.activate id ∨
      (∃ e, r = .error e) ∧ w' = w := by
  obtain ⟨c, h⟩ := h
  by_cases hbusy : w.memory.activeOperation.isSome = true
  · cases (if_pos hbusy).symm.trans h
    exact .inr ⟨⟨_, rfl⟩, rfl⟩
  · have hfree := (if_neg hbusy).symm.trans h
    cases c with
    | acquired =>
      cases hfree
      exact .inl ⟨rfl, by simpa using hbusy, rfl⟩
    | wouldBlock | cannotOpen | cannotAcquire =>
      cases hfree
      exact .inr ⟨⟨_, rfl⟩, rfl⟩

@[simp] theorem next_load {c : Collection} {r : Except String c.Records} :
    next w (.load c) r w' ↔ (∀ t, r = .ok t → t = w.disk.collection c) ∧ w' = w := by
  constructor
  · rintro ⟨choice, h⟩
    cases choice <;> cases h <;> simp [Except.map]
  · rintro ⟨hr, rfl⟩
    cases r with
    | ok t => exact ⟨.ok (), by rw [hr t rfl]; rfl⟩
    | error e => exact ⟨.error e, rfl⟩

@[simp] theorem next_rename {e : Entry} {r : Os} :
    next w (.rename e) r w' ↔
      r = .ok () ∧ w' = w.publish e ∨ (∃ text, r = .error text) ∧ w' = w := by
  constructor
  · rintro ⟨c, h⟩
    cases c <;> cases h <;> simp
  · rintro (⟨rfl, rfl⟩ | ⟨⟨text, rfl⟩, rfl⟩)
    · exact ⟨.ok (), rfl⟩
    · exact ⟨.error text, rfl⟩

@[simp] theorem next_remove {f : File} {r : Os} :
    next w (.remove f) r w' ↔
      r = .ok () ∧ w' = w.erase f ∨ (∃ text, r = .error text) ∧ w' = w := by
  constructor
  · rintro ⟨c, h⟩
    cases c <;> cases h <;> simp
  · rintro (⟨rfl, rfl⟩ | ⟨⟨text, rfl⟩, rfl⟩)
    · exact ⟨.ok (), rfl⟩
    · exact ⟨.error text, rfl⟩

@[simp] theorem next_renameConfig {bytes : Bytes} {r : Os} :
    next w (.renameConfig bytes) r w' ↔
      r = .ok () ∧ w' = w.setConfig (some bytes) ∨ (∃ text, r = .error text) ∧ w' = w := by
  constructor
  · rintro ⟨c, h⟩
    cases c <;> cases h <;> simp
  · rintro (⟨rfl, rfl⟩ | ⟨⟨text, rfl⟩, rfl⟩)
    · exact ⟨.ok (), rfl⟩
    · exact ⟨.error text, rfl⟩

@[simp] theorem next_removeConfig {r : Os} :
    next w .removeConfig r w' ↔
      r = .ok () ∧ w' = w.setConfig none ∨ (∃ text, r = .error text) ∧ w' = w := by
  constructor
  · rintro ⟨c, h⟩
    cases c <;> cases h <;> simp
  · rintro (⟨rfl, rfl⟩ | ⟨⟨text, rfl⟩, rfl⟩)
    · exact ⟨.ok (), rfl⟩
    · exact ⟨.error text, rfl⟩

@[simp] theorem next_readDocument {id : String} {r : Except ReadFailure (Option Bytes)} :
    next w (.readDocument id) r w' ↔
      (∀ bytes, r = .ok bytes → bytes = w.disk.documents.get id) ∧ w' = w := by
  constructor
  · rintro ⟨c, h⟩
    cases c <;> cases h <;> simp [Except.map]
  · rintro ⟨hr, rfl⟩
    cases r with
    | ok bytes => exact ⟨.ok (), by rw [hr bytes rfl]; rfl⟩
    | error e => exact ⟨.error e, rfl⟩

theorem next_readManaged {r : Except ReadFailure (Option (Bytes × FileMeta))}
    (h : next w .readManaged r w') :
    (∀ found, r = .ok found → found.map Prod.fst = w.disk.config) ∧ w' = w := by
  obtain ⟨c, h⟩ := h
  cases c with
  | ok m =>
    cases h
    refine ⟨?_, rfl⟩
    rintro found ⟨⟩
    cases w.disk.config <;> rfl
  | error e =>
    cases h
    exact ⟨by rintro found ⟨⟩, rfl⟩

theorem next_readRaw {r : Option Bytes} (h : next w .readRaw r w') :
    (∀ bytes, r = some bytes → w.disk.config = some bytes) ∧ w' = w := by
  obtain ⟨c, h⟩ := h
  cases c <;> cases h <;> simp

theorem next_configExists {r : Bool} (h : next w .configExists r w') :
    (r = true → w.disk.config.isSome) ∧ w' = w := by
  obtain ⟨c, h⟩ := h
  cases c <;> cases h <;> simp

@[simp] theorem next_call {m : Method} {r : Except AgentError Value} :
    next w (.call m) r w' ↔ w' = w.hear m r := by
  constructor
  · rintro ⟨c, h⟩
    cases h
    rfl
  · rintro rfl
    exact ⟨r, rfl⟩

/-- What an action may make of the world. -/
inductive Effect (w : World) : Act → World → Prop
  | same (a : Act) : Effect w a w
  | newId (id : String) (h : id ∉ w.used) : Effect w .newId (w.useId id)
  | lock (m : Mutex) (h : m ∉ w.memory.locks) :
      Effect w (.lock m) (w.setLocks (m :: w.memory.locks))
  | unlock (m : Mutex) : Effect w (.unlock m) (w.setLocks (w.memory.locks.erase m))
  | update (u : Update) : Effect w (.update u) (w.update u)
  | reserve (id : String) (h : w.memory.activeOperation = none) :
      Effect w (.reserve id) (w.activate id)
  | rename (e : Entry) : Effect w (.rename e) (w.publish e)
  | remove (f : File) : Effect w (.remove f) (w.erase f)
  | renameConfig (bytes : Bytes) : Effect w (.renameConfig bytes) (w.setConfig (some bytes))
  | removeConfig : Effect w .removeConfig (w.setConfig none)
  | call (m : Method) (r : Except AgentError Value) : Effect w (.call m) (w.hear m r)

theorem next_effect {a : Act} {r : a.Reply} (h : next w a r w') : Effect w a w' := by
  have hsame : w' = w → Effect w a w' := by
    rintro rfl
    exact .same a
  cases a with
  | ask q => exact hsame (next_ask.mp h)
  | newId =>
    obtain ⟨hr, rfl⟩ := next_newId.mp h
    exact .newId _ hr
  | lock m =>
    obtain ⟨hm, rfl⟩ := next_lock.mp h
    exact .lock m hm
  | unlock m =>
    obtain rfl := next_unlock.mp h
    exact .unlock m
  | state => exact hsame (next_state.mp h).2
  | plans => exact hsame (next_plans.mp h).2
  | update u =>
    obtain rfl := next_update.mp h
    exact .update u
  | reserve id =>
    obtain ⟨_, hfree, rfl⟩ | ⟨_, rfl⟩ := next_reserve h
    · exact .reserve id hfree
    · exact .same _
  | load c => exact hsame (next_load.mp h).2
  | rename e =>
    obtain ⟨_, rfl⟩ | ⟨_, rfl⟩ := next_rename.mp h
    · exact .rename e
    · exact .same _
  | remove f =>
    obtain ⟨_, rfl⟩ | ⟨_, rfl⟩ := next_remove.mp h
    · exact .remove f
    · exact .same _
  | readDocument id => exact hsame (next_readDocument.mp h).2
  | readManaged => exact hsame (next_readManaged h).2
  | readRaw => exact hsame (next_readRaw h).2
  | configExists => exact hsame (next_configExists h).2
  | renameConfig bytes =>
    obtain ⟨_, rfl⟩ | ⟨_, rfl⟩ := next_renameConfig.mp h
    · exact .renameConfig bytes
    · exact .same _
  | removeConfig =>
    obtain ⟨_, rfl⟩ | ⟨_, rfl⟩ := next_removeConfig.mp h
    · exact .removeConfig
    · exact .same _
  | call m =>
    obtain rfl := next_call.mp h
    exact .call m _

/-! ## Programs -/

/-- The existence check of the managed file is answered truthfully. -/
def Truthful (w : World) : (a : Act) → a.Reply → Prop
  | .configExists, (r : Bool) => r = w.disk.config.isSome
  | _, _ => True

/-- The actions. With `H`, the existence checks of the managed file are truthful. -/
def nextIf (H : Prop) (w : World) (a : Act) (r : a.Reply) (w' : World) : Prop :=
  next w a r w' ∧ (H → Truthful w a r)

/-- `I` holds before every action, whatever the actions lead to. -/
def rules (H : Prop) (I : World → Prop) : Rules Act Act.Reply World :=
  .every (fun w _ => I w) (nextIf H)

section Rules

variable {H : Prop} {I : World → Prop} {α ε : Type} {E : ε → World → Prop}

theorem safe_perform (a : Act) {Q : a.Reply → World → Prop} (hI : I w)
    (h : ∀ r t, next w a r t → Q r t) : (rules H I).Safe (perform a) Q w :=
  ⟨hI, fun r t hn => h r t hn.1⟩

@[simp] theorem safe_ask {q : Query} {Q : q.Reply → World → Prop} :
    (rules H I).Safe (ask q) Q w ↔ I w ∧ ∀ r, Q r w := by
  constructor
  · rintro ⟨hI, h⟩
    exact ⟨hI, fun r => h r w ⟨next_ask.mpr rfl, fun _ => trivial⟩⟩
  · rintro ⟨hI, h⟩
    refine safe_perform _ hI fun r t hn => ?_
    obtain rfl := next_ask.mp hn
    exact h r

@[simp] theorem safe_now {Q : String → World → Prop} :
    (rules H I).Safe now Q w ↔ I w ∧ ∀ r, Q r w :=
  safe_ask

@[simp] theorem safe_timestamp {Q : Int → World → Prop} :
    (rules H I).Safe timestamp Q w ↔ I w ∧ ∀ r, Q r w :=
  safe_ask

@[simp] theorem safe_temporary {t : TemporaryStep} {Q : Os → World → Prop} :
    (rules H I).Safe (temporary t) Q w ↔ I w ∧ ∀ r, Q r w :=
  safe_ask

@[simp] theorem safe_newId {Q : String → World → Prop} :
    (rules H I).Safe newId Q w ↔ I w ∧ ∀ r, r ∉ w.used → Q r (w.useId r) := by
  constructor
  · rintro ⟨hI, h⟩
    exact ⟨hI, fun r hr => h r _ ⟨next_newId.mpr ⟨hr, rfl⟩, fun _ => trivial⟩⟩
  · rintro ⟨hI, h⟩
    refine safe_perform _ hI fun r t hn => ?_
    obtain ⟨hr, rfl⟩ := next_newId.mp hn
    exact h r hr

@[simp] theorem safe_state {Q : StoreState → World → Prop} :
    (rules H I).Safe state Q w ↔ I w ∧ Q w.memory.state w := by
  constructor
  · rintro ⟨hI, h⟩
    exact ⟨hI, h _ w ⟨next_state.mpr ⟨rfl, rfl⟩, fun _ => trivial⟩⟩
  · rintro ⟨hI, h⟩
    refine safe_perform _ hI fun r t hn => ?_
    obtain ⟨rfl, rfl⟩ := next_state.mp hn
    exact h

@[simp] theorem safe_update {u : Update} {Q : Unit → World → Prop} :
    (rules H I).Safe (update u) Q w ↔ I w ∧ Q () (w.update u) := by
  constructor
  · rintro ⟨hI, h⟩
    exact ⟨hI, h () _ ⟨next_update.mpr rfl, fun _ => trivial⟩⟩
  · rintro ⟨hI, h⟩
    refine safe_perform _ hI fun r t hn => ?_
    obtain rfl := next_update.mp hn
    exact h

theorem safe_rename {e : Entry} {Q : Os → World → Prop} (hI : I w)
    (done : Q (.ok ()) (w.publish e)) (lost : ∀ text, Q (.error text) w) :
    (rules H I).Safe (rename e) Q w := by
  refine safe_perform _ hI fun r t hn => ?_
  obtain ⟨rfl, rfl⟩ | ⟨⟨text, rfl⟩, rfl⟩ := next_rename.mp hn
  · exact done
  · exact lost text

theorem safe_remove {f : File} {Q : Os → World → Prop} (hI : I w)
    (done : Q (.ok ()) (w.erase f)) (lost : ∀ text, Q (.error text) w) :
    (rules H I).Safe (remove f) Q w := by
  refine safe_perform _ hI fun r t hn => ?_
  obtain ⟨rfl, rfl⟩ | ⟨⟨text, rfl⟩, rfl⟩ := next_remove.mp hn
  · exact done
  · exact lost text

@[simp] theorem safe_call {m : Method} {Q : Except AgentError Value → World → Prop} :
    (rules H I).Safe (call m) Q w ↔ I w ∧ ∀ r, Q r (w.hear m r) := by
  constructor
  · rintro ⟨hI, h⟩
    exact ⟨hI, fun r => h r _ ⟨next_call.mpr rfl, fun _ => trivial⟩⟩
  · rintro ⟨hI, h⟩
    refine safe_perform _ hI fun r t hn => ?_
    obtain rfl := next_call.mp hn
    exact h r

theorem safe_load {c : Collection} {Q : Except String c.Records → World → Prop} (hI : I w)
    (done : Q (.ok (w.disk.collection c)) w) (failed : ∀ text, Q (.error text) w) :
    (rules H I).Safe (load c) Q w := by
  refine safe_perform _ hI fun r t hn => ?_
  obtain ⟨hr, rfl⟩ := next_load.mp hn
  cases r with
  | ok records =>
    obtain rfl := hr records rfl
    exact done
  | error text => exact failed text

@[simp] theorem safe_markManual {Q : Unit → World → Prop} :
    (rules H I).Safe markManual Q w ↔ I w ∧ Q () (w.update .markManual) :=
  safe_update

@[simp] theorem safe_releaseOperation {id : String} {Q : Unit → World → Prop} :
    (rules H I).Safe (releaseOperation id) Q w ↔ I w ∧ Q () (w.update (.release id)) :=
  safe_update

@[simp] theorem safe_syncDirectory {d : Directory} {Q : Os → World → Prop} :
    (rules H I).Safe (syncDirectory d) Q w ↔
      I w ∧ Q (.ok ()) w ∧ ∀ text, Q (.error ("cannot fsync directory: " ++ text)) w := by
  simp only [syncDirectory, Rules.safe_bind, safe_ask, and_congr_right_iff]
  intro _
  constructor
  · intro h
    exact ⟨h (.ok ()), fun text => h (.error text)⟩
  · rintro ⟨hok, herr⟩ (text | _)
    · exact herr text
    · exact hok

/-! Code that may fail. -/

section Fails

variable {σ : Type} {L : Rules Act Act.Reply σ} {s : σ} {E : ε → σ → Prop}

@[simp] theorem tries_lift {p : Agent α} {Q : α → σ → Prop} :
    L.Tries (lift p) Q E s ↔ L.Safe p Q s :=
  Rules.tries_lift

theorem tries_check {r : Except ε α} {Q : α → σ → Prop} :
    L.Tries (check r) Q E s ↔ match r with | .ok x => Q x s | .error e => E e s := by
  cases r <;> rfl

@[simp] theorem tries_check_ok {x : α} {Q : α → σ → Prop} :
    L.Tries (check (.ok x)) Q E s ↔ Q x s := Iff.rfl

@[simp] theorem tries_check_error {e : ε} {Q : α → σ → Prop} :
    L.Tries (check (.error e : Except ε α)) Q E s ↔ E e s := Iff.rfl

@[simp] theorem tries_orElse {error : String → ε} {call : Agent Os} {Q : Unit → σ → Prop} :
    L.Tries (orElse error call) Q E s ↔
      L.Safe call (fun r t => match r with | .ok _ => Q () t | .error text => E (error text) t)
        s := by
  simp only [orElse, Rules.tries_bind, tries_lift]
  constructor
  all_goals
    intro h
    refine h.mono fun r t hr => ?_
    cases r <;> exact hr

end Fails

theorem tries_withLock {m : Mutex} {body : ExceptT ε Agent α} {Q : α → World → Prop}
    (hI : I w)
    (h : (rules H I).Tries body
      (fun x t => I t ∧ Q x (t.setLocks (t.memory.locks.erase m)))
      (fun e t => I t ∧ E e (t.setLocks (t.memory.locks.erase m)))
      (w.setLocks (m :: w.memory.locks))) :
    (rules H I).Tries (withLock m body) Q E w := by
  unfold withLock
  refine Rules.tries_bind.mpr (Rules.tries_lift.mpr (safe_perform _ hI fun _ t ht => ?_))
  obtain ⟨_, rfl⟩ := next_lock.mp ht
  refine Rules.tries_bind.mpr (tries_lift.mpr (Rules.safe_run.mpr (h.mono ?_ ?_)))
  all_goals
    rintro x t ⟨hIt, hx⟩
    refine Rules.tries_bind.mpr (Rules.tries_lift.mpr (safe_perform _ hIt fun _ u hu => ?_))
    obtain rfl := next_unlock.mp hu
    exact hx

/-- The write is done, or lost, or done and reported as lost. -/
theorem safe_atomicWrite {e : Entry} {Q : Os → World → Prop} (hI : I w) (hp : I (w.publish e))
    (done : Q (.ok ()) (w.publish e)) (lost : ∀ text, Q (.error text) w)
    (unsure : ∀ text, Q (.error text) (w.publish e)) :
    (rules H I).Safe (atomicWrite e) Q w := by
  have hclean : ∀ (r : Os) t, I t → Q r t → (rules H I).Safe (cleanUp r) Q t := by
    rintro (text | _) t ht hQ
    · simpa [cleanUp] using ⟨ht, hQ⟩
    · simpa [cleanUp] using hQ
  simp only [atomicWrite_eq, Rules.safe_bind, Rules.safe_run, publishEntry, Rules.tries_bind,
    tries_orElse, safe_temporary]
  refine ⟨hI, ?_⟩
  rintro (text | _)
  · exact hclean _ _ hI (lost _)
  refine ⟨hI, ?_⟩
  rintro (text | _)
  · exact hclean _ _ hI (lost _)
  refine ⟨hI, ?_⟩
  rintro (text | _)
  · exact hclean _ _ hI (lost _)
  refine safe_rename hI (safe_syncDirectory.mpr ⟨hp, ?_, fun text => ?_⟩) fun text => ?_
  · exact hclean _ _ hp done
  · exact hclean _ _ hp (unsure _)
  · exact hclean _ _ hI (lost _)

theorem tries_persist {e : Entry} {detail : String} {Q : Unit → World → Prop}
    {E : TransactionError → World → Prop} (hI : I w) (hp : I (w.publish e))
    (done : Q () (w.publish e)) (lost : E (.internal detail) w)
    (unsure : E (.internal detail) (w.publish e)) :
    (rules H I).Tries (persist e detail) Q E w :=
  tries_orElse.mpr (safe_atomicWrite hI hp done (fun _ => lost) fun _ => unsure)

/-! Runs, whatever the existence checks answer. -/

theorem nextIf_false {t : World} {a : Act} {r : a.Reply} (h : next w a r t) :
    nextIf False w a r t :=
  ⟨h, False.elim⟩

theorem eval_ok {p : ExceptT ε Agent α} {Q : α → World → Prop}
    {es : List (Event Act Act.Reply World)} {x : α} {t : World}
    (h : (rules False I).Tries p Q E w) (he : Eval next p.run w es (.ok x) t) : Q x t := by
  have hs : (Rules.every (fun w _ => I w) (nextIf False)).Safe p.run
    (fun r t => match r with | .ok x => Q x t | .error e => E e t) w := h
  exact hs.eval (he.mono fun _ _ _ _ hn => nextIf_false hn)

theorem eval_error {p : ExceptT ε Agent α} {Q : α → World → Prop}
    {es : List (Event Act Act.Reply World)} {e : ε} {t : World}
    (h : (rules False I).Tries p Q E w) (he : Eval next p.run w es (.error e) t) : E e t := by
  have hs : (Rules.every (fun w _ => I w) (nextIf False)).Safe p.run
    (fun r t => match r with | .ok x => Q x t | .error e => E e t) w := h
  exact hs.eval (he.mono fun _ _ _ _ hn => nextIf_false hn)

theorem passes_tries {p : ExceptT ε Agent α} {Q : α → World → Prop} {t : World}
    (h : (rules False I).Tries p Q E w) (hp : Passes next p.run w t)
    (hQ : ∀ x t, Q x t → I t) (hE : ∀ e t, E e t → I t) : I t := by
  have hs : (Rules.every (fun w _ => I w) (nextIf False)).Safe p.run
    (fun r t => match r with | .ok x => Q x t | .error e => E e t) w := h
  refine hs.passes (hp.mono fun _ _ _ _ hn => nextIf_false hn) (fun _ _ hI => hI) ?_
  rintro (e | x) t ht
  · exact hE e t ht
  · exact hQ x t ht

end Rules

/-! ## Actions that change nothing

Each function is described by the actions it performs: any set of actions that has the reads and
the writes it makes contains them all. -/

def Act.isRead : Act → Bool
  | .ask _ | .state | .plans | .load _ | .readDocument _ | .readManaged | .readRaw
  | .configExists => true
  | .lock m | .unlock m => m != .admission
  | _ => false

def Reads (S : Act → Prop) : Prop := ∀ a : Act, a.isRead = true → S a

attribute [grind ←] TryOnly.bind TryOnly.lift TryOnly.discard Only.bind Only.discard
attribute [grind =] only_perform
attribute [grind .] tryOnly_pure tryOnly_throw only_pure

section Only

variable {S : Act → Prop} {α ε : Type} (env : Env)

theorem perform_only {a : Act} (h : S a) : (perform a).Only S := only_perform.mpr h

@[grind ←] theorem Reads.ask (h : Reads S) (q : Query) : (ask q).Only S := perform_only (h _ rfl)

@[grind ←] theorem Reads.plans (h : Reads S) : plans.Only S := perform_only (h _ rfl)

@[grind ←] theorem rename_only {e : Entry} (h : S (.rename e)) : (rename e).Only S :=
  perform_only h

@[grind ←] theorem remove_only {f : File} (h : S (.remove f)) : (remove f).Only S :=
  perform_only h

@[grind ←] theorem call_only {m : Method} (h : S (.call m)) : (call m).Only S := perform_only h

@[grind ←] theorem update_only {u : Update} (h : S (.update u)) : (update u).Only S :=
  perform_only h

@[grind ←] theorem newId_only (h : S .newId) : newId.Only S := perform_only h

@[grind ←] theorem Reads.state (h : Reads S) : state.Only S := perform_only (h _ rfl)

@[grind ←] theorem Reads.now (h : Reads S) : now.Only S := h.ask .now

@[grind ←] theorem Reads.timestamp (h : Reads S) : timestamp.Only S := h.ask .timestamp

@[grind ←] theorem Reads.temporary (h : Reads S) (t : TemporaryStep) : (temporary t).Only S :=
  h.ask _

@[grind ←] theorem tryOnly_lift {p : Agent α} (h : p.Only S) :
    TryOnly S (lift p : ExceptT ε Agent α) :=
  .lift h

@[grind .] theorem tryOnly_check (r : Except ε α) : TryOnly S (check r) := by
  cases r <;> simp [check]

@[grind ←] theorem tryOnly_orElse {error : String → ε} {call : Agent Os} (h : call.Only S) :
    TryOnly S (orElse error call) := by
  unfold orElse
  grind

@[grind ←] theorem Reads.syncDirectory (h : Reads S) (d : Directory) :
    (syncDirectory d).Only S := by
  unfold ConfigStore.syncDirectory
  grind

theorem tryOnly_withLock {m : Mutex} {body : ExceptT ε Agent α} (hl : S (.lock m))
    (hu : S (.unlock m)) (hb : TryOnly S body) : TryOnly S (withLock m body) := by
  refine .bind (.lift (perform_only hl)) fun _ => .bind (.lift hb) fun r => ?_
  exact .bind (.lift (perform_only hu)) fun _ => tryOnly_check r

@[grind ←] theorem Reads.withState {body : ExceptT ε Agent α} (h : Reads S)
    (hb : TryOnly S body) : TryOnly S (withLock .state body) :=
  tryOnly_withLock (h _ rfl) (h _ rfl) hb

@[grind ←] theorem Reads.withPlans {body : ExceptT ε Agent α} (h : Reads S)
    (hb : TryOnly S body) : TryOnly S (withLock .plans body) :=
  tryOnly_withLock (h _ rfl) (h _ rfl) hb

theorem publishEntry_only {e : Entry} (h : Reads S) (he : S (.rename e)) :
    TryOnly S (publishEntry e) := by
  unfold publishEntry
  grind

@[grind ←] theorem atomicWrite_only {e : Entry} (h : Reads S) (he : S (.rename e)) :
    (atomicWrite e).Only S := by
  have hp : (publishEntry e).run.Only S := publishEntry_only h he
  unfold atomicWrite
  grind

@[grind ←] theorem persist_only {e : Entry} {detail : String} (h : Reads S)
    (he : S (.rename e)) : TryOnly S (persist e detail) :=
  tryOnly_orElse (atomicWrite_only h he)

@[grind ←] theorem removeIfPresent_only {f : File} (hf : S (.remove f)) :
    TryOnly S (removeIfPresent f) := by
  exact tryOnly_orElse (perform_only hf)

@[grind ←] theorem loadRecords_only {c : Collection} (h : Reads S) :
    TryOnly S (loadRecords c) := by
  refine .bind (.lift (perform_only (h _ rfl))) fun r => tryOnly_check r

@[grind ←] theorem readRegularBounded_only (h : Reads S) :
    TryOnly S (readRegularBounded env) := by
  refine .bind (.lift (perform_only (h _ rfl))) fun r => ?_
  grind

@[grind ←] theorem readConfig_only (h : Reads S) : TryOnly S (readConfig env) := by
  unfold readConfig
  grind

@[grind ←] theorem readDocument_only (h : Reads S) (id : String) :
    TryOnly S (readDocument env id) := by
  refine .bind (.lift (perform_only (h _ rfl))) fun r => ?_
  grind

@[grind ←] theorem validateManagedParent_only (h : Reads S) :
    TryOnly S validateManagedParent := by
  unfold validateManagedParent
  grind

@[grind ←] theorem readOriginal_only (h : Reads S) : TryOnly S (readOriginal env) := by
  unfold readOriginal
  grind

theorem totalBytes_only {S : Act → Prop} (h : Reads S) (l : List File) :
    (totalBytes l).Only S := by
  induction l with
  | nil => exact only_pure
  | cons f rest ih => exact .bind (h.ask _) fun _ => .bind ih fun _ => only_pure

end Only

end Starry.ConfigStore
