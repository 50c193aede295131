import Starry.ConfigStore.Outcome
import Starry.ConfigStore.Pruning

/-!
# What a restart makes of the records on disk

`open` marks every operation that was not ended for an operator and resolves every reload without
a result. It starts no operation and ends none.
-/

open Library

namespace Starry.ConfigStore

variable (env : Env)

/-! ## Records before and after -/

/-- Some operation on disk has not ended. -/
def Live (d : Disk) : Prop :=
  ∃ id o, d.operations.get id = some o ∧ o.state.isTerminal = false

/-- Some reload on disk has no result. -/
def Unresolved (d : Disk) : Prop :=
  ∃ k r, d.idempotency.get k = some r ∧ r.unresolved = true

/-- A record on disk and what a restart may have made of it so far. -/
structure Carried (x y : Option Operation) : Prop where
  absent : x = none → y = none
  live : ∀ o, x = some o → o.state.isTerminal = false →
    ∃ o', y = some o' ∧ o'.state.isTerminal = false
  terminal : ∀ o o', x = some o → o.state.isTerminal = true → y = some o' → o'.state = o.state

namespace Carried

variable {x y z : Option Operation} {o o' : Operation}

theorem refl (x : Option Operation) : Carried x x where
  absent h := h
  live o ho hlive := ⟨o, ho, hlive⟩
  terminal o o' ho _ ho' := by
    rw [ho] at ho'
    cases ho'
    rfl

theorem trans (h : Carried x y) (h' : Carried y z) : Carried x z where
  absent hx := h'.absent (h.absent hx)
  live o ho hlive := by
    obtain ⟨o', ho', hlive'⟩ := h.live o ho hlive
    exact h'.live o' ho' hlive'
  terminal o o'' ho hterminal ho'' := by
    cases hy : y with
    | none =>
      rw [h'.absent hy] at ho''
      cases ho''
    | some o' =>
      have hsame := h.terminal o o' ho hterminal hy
      rw [h'.terminal o' o'' hy (by rw [hsame]; exact hterminal) ho'', hsame]

/-- An operation that is not ended was not ended before. -/
theorem was_live (h : Carried x (some o')) (ho' : o'.state.isTerminal = false) :
    ∃ o, x = some o ∧ o.state.isTerminal = false := by
  cases x with
  | none => cases h.absent rfl
  | some o =>
    refine ⟨o, rfl, Bool.eq_false_iff.mpr fun hterminal => ?_⟩
    rw [h.terminal o o' rfl hterminal rfl, hterminal] at ho'
    cases ho'

/-- A record that keeps its state, or one that is not ended and stays so. -/
theorem put (ho : o'.state = o.state ∨ o.state.isTerminal = false ∧ o'.state.isTerminal = false) :
    Carried (some o) (some o') where
  absent h := nomatch h
  live := by
    rintro _ ⟨⟩ hlive
    refine ⟨o', rfl, ?_⟩
    rcases ho with ho | ⟨_, ho⟩
    · rwa [ho]
    · exact ho
  terminal := by
    rintro _ _ ⟨⟩ hterminal ⟨⟩
    rcases ho with ho | ⟨ho, _⟩
    · exact ho
    · rw [hterminal] at ho
      cases ho

/-- A record that is removed was terminal. -/
theorem gone (ho : ∀ o, x = some o → o.state.isTerminal = true) : Carried x none where
  absent _ := rfl
  live o hx hlive := by
    rw [ho o hx] at hlive
    cases hlive
  terminal _ _ _ _ h := nomatch h

end Carried

/-- What a restart may have done to the disk so far. -/
structure Resumed (w t : World) : Prop where
  config : t.disk.config = w.disk.config
  changes : t.changes = w.changes
  operations : ∀ i, Carried (w.disk.operations.get i) (t.disk.operations.get i)
  reloads : ∀ k r, t.disk.idempotency.get k = some r → r.unresolved = true →
    w.disk.idempotency.get k = some r
  audits : ∀ k a, t.disk.audits.get k = some a → w.disk.audits.get k = some a ∨
    a.result = .state .manualInterventionRequired

namespace Resumed

variable {w t u : World}

theorem refl (w : World) : Resumed w w :=
  ⟨rfl, rfl, fun _ => .refl _, fun _ _ h _ => h, fun _ _ h => .inl h⟩

theorem trans (h : Resumed w t) (h' : Resumed t u) : Resumed w u where
  config := h'.config.trans h.config
  changes := h'.changes.trans h.changes
  operations i := (h.operations i).trans (h'.operations i)
  reloads k r hk hr := h.reloads k r (h'.reloads k r hk hr) hr
  audits k a hk := by
    rcases h'.audits k a hk with hk | ha
    · exact h.audits k a hk
    · exact .inr ha

/-- A restart leaves an operation that is not ended exactly if it found one. -/
theorem live_iff (h : Resumed w t) : Live t.disk ↔ Live w.disk := by
  constructor
  · rintro ⟨i, o', ho', hlive⟩
    have hi := h.operations i
    rw [ho'] at hi
    obtain ⟨o, ho, hlive⟩ := hi.was_live hlive
    exact ⟨i, o, ho, hlive⟩
  · rintro ⟨i, o, ho, hlive⟩
    obtain ⟨o', ho', hlive⟩ := (h.operations i).live o ho hlive
    exact ⟨i, o', ho', hlive⟩

theorem unresolved (h : Resumed w t) : Unresolved t.disk → Unresolved w.disk := by
  rintro ⟨k, r, hk, hr⟩
  exact ⟨k, r, h.reloads k r hk hr, hr⟩

theorem unclaimed {id : String} (h : Resumed w t) (hu : Unclaimed id w.disk.audits) :
    Unclaimed id t.disk.audits := by
  intro k a hk hid
  rcases h.audits k a hk with hk | ha
  · exact hu k a hk hid
  · rw [ha]
    simp

theorem useId (h : Resumed w t) (id : String) : Resumed w (t.useId id) :=
  ⟨h.config, h.changes, h.operations, h.reloads, h.audits⟩

theorem publish_operation {o o' : Operation} (h : Resumed w t)
    (ho : t.disk.operations.get o'.id = some o)
    (hs : o'.state = o.state ∨ o.state.isTerminal = false ∧ o'.state.isTerminal = false) :
    Resumed w (t.publish (.operation o')) := by
  refine ⟨h.config, h.changes, fun i => ?_, h.reloads, h.audits⟩
  change Carried _ ((t.disk.operations.put o').get i)
  rw [Keyed.get_put]
  split
  · rename_i hi
    have hput := (h.operations i).trans (.refl _)
    rw [hi, ho] at hput
    rw [hi]
    exact hput.trans (.put hs)
  · exact h.operations i

theorem publish_audit {a : AuditRecord} (h : Resumed w t)
    (ha : a.result = .state .manualInterventionRequired) : Resumed w (t.publish (.audit a)) := by
  refine ⟨h.config, h.changes, h.operations, h.reloads, fun k b hk => ?_⟩
  change (t.disk.audits.put a).get k = some b at hk
  rw [Keyed.get_put] at hk
  split at hk
  · cases hk
    exact .inr ha
  · exact h.audits k b hk

theorem publish_reload {r : IdempotencyRecord} (h : Resumed w t) (hr : r.unresolved = false) :
    Resumed w (t.publish (.idempotency r)) := by
  refine ⟨h.config, h.changes, h.operations, fun k r' hk hr' => ?_, h.audits⟩
  change (t.disk.idempotency.put r).get k = some r' at hk
  rw [Keyed.get_put] at hk
  split at hk
  · cases hk
    rw [hr] at hr'
    cases hr'
  · exact h.reloads k r' hk hr'

theorem pruned {T : String → Prop} (h : Resumed w t) (hp : Pruned T t u)
    (hT : ∀ i o, T i → t.disk.operations.get i = some o → o.state.isTerminal = true) :
    Resumed w u := by
  refine h.trans ⟨hp.config, hp.changes, fun i => ?_, fun k r hk hr => ?_, fun k a hk => ?_⟩
  · rcases hp.operations i with hi | ⟨hi, hnone⟩
    · rw [hi]
      exact .refl _
    · rw [hnone]
      exact .gone fun o ho => hT i o hi ho
  · obtain ⟨new, _, _, hgone, hkept⟩ := hp.writes
    by_cases hmem : Write.removed (.idempotency k) ∈ new
    · rw [hgone k hmem] at hk
      cases hk
    · rw [← hkept k hmem]
      exact hk
  · exact .inl (hp.audits k a hk)

end Resumed

/-! ## The recovery of the records -/

section Recovery

variable {H : Prop} {w t : World}

theorem tries_publish {e : Entry} {Q : Unit → World → Prop} {E : String → World → Prop}
    {I : World → Prop} (hI : I t) (hp : I (t.publish e)) (done : Q () (t.publish e))
    (lost : ∀ text, E text t) (unsure : ∀ text, E text (t.publish e)) :
    (rules H I).Tries (orElse id (atomicWrite e)) Q E t :=
  tries_orElse.mpr (safe_atomicWrite hI hp done lost unsure)

/-- A table of `open` that agrees with the disk. -/
def Mirrors (operations : Operations) (t : World) : Prop :=
  ∀ i, operations.get i = t.disk.operations.get i

theorem Mirrors.publish {operations : Operations} {o : Operation} (h : Mirrors operations t) :
    Mirrors (operations.put o) (t.publish (.operation o)) := by
  intro i
  change _ = (t.disk.operations.put o).get i
  rw [Keyed.get_put, Keyed.get_put, h i]

/-- What no part of the recovery changes. -/
structure Beside (t u : World) : Prop where
  memory : u.memory = t.memory
  idempotency : u.disk.idempotency = t.disk.idempotency

theorem tries_adoptAudits {audits : AuditRecords} {l : List Operation} {operations : Operations}
    (h : Resumed w t) (hm : Mirrors operations t)
    (hl : ∀ o ∈ l, ∃ o', t.disk.operations.get o.id = some o' ∧ o'.state = o.state) :
    (rules H (Resumed w)).Tries (adoptAudits env audits l operations)
      (fun operations u => Resumed w u ∧ Mirrors operations u ∧ Beside t u)
      (fun _ u => Resumed w u) t := by
  induction l generalizing t operations with
  | nil => exact ⟨h, hm, rfl, rfl⟩
  | cons operation rest ih =>
    have hrest : ∀ o ∈ rest, ∃ o', t.disk.operations.get o.id = some o' ∧ o'.state = o.state :=
      fun o ho => hl o (List.mem_cons_of_mem _ ho)
    unfold adoptAudits
    split
    · rename_i audit _ _
      obtain ⟨found, hfound, hstate⟩ := hl operation List.mem_cons_self
      have hp : Resumed w (t.publish
          (.operation { operation with auditId := some audit.auditId })) :=
        h.publish_operation hfound (.inl hstate.symm)
      refine Rules.tries_bind.mpr (tries_publish h hp ?_ (fun _ => h) fun _ => hp)
      refine (ih hp hm.publish fun o ho => ?_).mono ?_ fun _ _ hu => hu
      · obtain ⟨o', ho', hs⟩ := hrest o ho
        change ∃ o', (t.disk.operations.put _).get o.id = some o' ∧ _
        rw [Keyed.get_put]
        split
        · rename_i hid
          change o.id = operation.id at hid
          rw [hid, hfound] at ho'
          cases ho'
          exact ⟨_, rfl, hstate.symm.trans hs⟩
        · exact ⟨o', ho', hs⟩
      · rintro operations u ⟨hu, hmu, hb⟩
        exact ⟨hu, hmu, hb.memory, hb.idempotency⟩
    · exact ih h hm hrest

theorem tries_markAudits {l : List AuditRecord} {audits : AuditRecords} (h : Resumed w t) :
    (rules H (Resumed w)).Tries (markAudits l audits)
      (fun _ u => Resumed w u ∧ u.disk.operations = t.disk.operations ∧ Beside t u)
      (fun _ u => Resumed w u) t := by
  induction l generalizing t audits with
  | nil => exact ⟨h, rfl, rfl, rfl⟩
  | cons audit rest ih =>
    unfold markAudits
    refine Rules.tries_bind.mpr (tries_lift.mpr (safe_now.mpr ⟨h, fun time => ?_⟩))
    have hp : Resumed w (t.publish (.audit { audit with
        result := .state .manualInterventionRequired, errorCode := some "ROLLBACK_FAILED",
        recoveryResult := some .agentRestarted, updatedAt := time })) := h.publish_audit rfl
    refine Rules.tries_bind.mpr (tries_publish h hp ?_ (fun _ => h) fun _ => hp)
    refine (ih hp).mono ?_ fun _ _ hu => hu
    rintro audits u ⟨hu, hops, hb⟩
    exact ⟨hu, hops, hb.memory, hb.idempotency⟩

/-- Every operation of the list is marked for an operator. -/
theorem tries_markInterrupted {l : List Operation} {operations : Operations}
    {audits : AuditRecords} (h : Resumed w t) (hm : Mirrors operations t)
    (hl : ∀ o ∈ l, ∃ o', t.disk.operations.get o.id = some o' ∧ o'.state.isTerminal = false) :
    (rules H (Resumed w)).Tries (markInterrupted env l operations audits)
      (fun operations u => Resumed w u ∧ Mirrors operations u ∧ Beside t u ∧
        ∀ i o, u.disk.operations.get i = some o → isInterrupted o = true →
          t.disk.operations.get i = some o ∧ ∀ o' ∈ l, o'.id ≠ i)
      (fun _ u => Resumed w u) t := by
  induction l generalizing t operations audits with
  | nil => exact ⟨h, hm, ⟨rfl, rfl⟩, fun i o hi _ => ⟨hi, by simp⟩⟩
  | cons operation rest ih =>
    obtain ⟨found, hfound, hlive⟩ := hl operation List.mem_cons_self
    unfold markInterrupted
    refine Rules.tries_bind.mpr (tries_lift.mpr (safe_now.mpr ⟨h, fun time => ?_⟩))
    refine Rules.tries_bind.mpr (tries_lift.mpr (safe_newId.mpr ⟨h, fun id _ => ?_⟩))
    set marked : Operation := { operation with
      state := .manualInterventionRequired, updatedAt := time,
      error := some (problemValue interruptedError id) } with hmarked
    have hp : Resumed w ((t.useId id).publish (.operation marked)) :=
      (h.useId id).publish_operation hfound (.inr ⟨hlive, rfl⟩)
    have hmp : Mirrors (operations.put marked) ((t.useId id).publish (.operation marked)) :=
      Mirrors.publish (t := t.useId id) hm
    refine Rules.tries_bind.mpr (tries_publish (h.useId id) hp ?_ (fun _ => h.useId id) fun _ => hp)
    refine Rules.tries_bind.mpr ((tries_markAudits hp).mono ?_ fun _ _ hu => hu)
    rintro audits u ⟨hu, hops, hb⟩
    have hmu : Mirrors (operations.put marked) u := by
      intro i
      rw [hops]
      exact hmp i
    have hget : ∀ i, u.disk.operations.get i =
        if i = operation.id then some marked else t.disk.operations.get i := by
      intro i
      rw [hops]
      exact Keyed.get_put ..
    refine (ih hu hmu fun o ho => ?_).mono ?_ fun _ _ hv => hv
    · rw [hget]
      split
      · exact ⟨marked, rfl, rfl⟩
      · exact hl o (List.mem_cons_of_mem _ ho)
    · rintro operations v ⟨hv, hmv, hbv, hleft⟩
      refine ⟨hv, hmv, ⟨hbv.memory.trans hb.memory, hbv.idempotency.trans hb.idempotency⟩, ?_⟩
      intro i o hi ho
      obtain ⟨hiu, hother⟩ := hleft i o hi ho
      rw [hget] at hiu
      split at hiu
      · cases hiu
        cases ho
      · rename_i hne
        refine ⟨hiu, fun o' ho' => ?_⟩
        rcases List.mem_cons.mp ho' with rfl | ho'
        · exact Ne.symm hne
        · exact hother o' ho'

/-- Every reload of the list gets a result. -/
theorem tries_resolveReloads {l : List IdempotencyRecord} {idempotency : IdempotencyRecords}
    (h : Resumed w t) (hm : ∀ k, idempotency.get k = t.disk.idempotency.get k) :
    (rules H (Resumed w)).Tries (resolveReloads l idempotency)
      (fun idempotency u => Resumed w u ∧ (∀ k, idempotency.get k = u.disk.idempotency.get k) ∧
        u.memory = t.memory ∧ u.disk.operations = t.disk.operations ∧
        ∀ k r, u.disk.idempotency.get k = some r → r.unresolved = true →
          t.disk.idempotency.get k = some r ∧ ∀ r' ∈ l, r'.keyHash ≠ k)
      (fun _ u => Resumed w u) t := by
  induction l generalizing t idempotency with
  | nil => exact ⟨h, hm, rfl, rfl, fun k r hk _ => ⟨hk, by simp⟩⟩
  | cons record rest ih =>
    unfold resolveReloads
    set resolved : IdempotencyRecord := { record with error := some unresolvedFailure } with hres
    have hnot : resolved.unresolved = false := by
      simp [IdempotencyRecord.unresolved, hres]
    have hp : Resumed w (t.publish (.idempotency resolved)) := h.publish_reload hnot
    have hget : ∀ k, (t.publish (.idempotency resolved)).disk.idempotency.get k =
        if k = record.keyHash then some resolved else t.disk.idempotency.get k :=
      fun k => Keyed.get_put ..
    refine Rules.tries_bind.mpr (tries_publish h hp ?_ (fun _ => h) fun _ => hp)
    refine (ih hp fun k => ?_).mono ?_ fun _ _ hu => hu
    · rw [hget, Keyed.get_put, hm k]
    · rintro idempotency u ⟨hu, hmu, hmem, hops, hleft⟩
      refine ⟨hu, hmu, hmem, hops, fun k r hk hr => ?_⟩
      obtain ⟨hkt, hother⟩ := hleft k r hk hr
      rw [hget] at hkt
      split at hkt
      · cases hkt
        rw [hnot] at hr
        cases hr
      · rename_i hne
        refine ⟨hkt, fun r' hr' => ?_⟩
        rcases List.mem_cons.mp hr' with rfl | hr'
        · exact Ne.symm hne
        · exact hother r' hr'

/-- What `open` knows when it has read and marked the records. -/
structure Recovered (w u : World) (s : StoreState) : Prop where
  resumed : Resumed w u
  memory : u.memory = w.memory
  operations : Mirrors s.operations u
  idempotency : ∀ k, s.idempotency.get k = u.disk.idempotency.get k
  flag : s.manualInterventionRequired = true ↔ Live w.disk ∨ Unresolved w.disk
  marked : ∀ i o, u.disk.operations.get i = some o → o.state.isTerminal = false →
    o.state = .manualInterventionRequired
  resolved : ¬ Unresolved u.disk

theorem tries_loadRecords {c : Collection} {I : World → Prop} {Q : c.Records → World → Prop}
    {E : String → World → Prop} (hI : I t) (done : Q (t.disk.collection c) t)
    (failed : ∀ text, E text t) : (rules H I).Tries (loadRecords c) Q E t :=
  Rules.tries_bind.mpr (tries_lift.mpr (safe_load hI done failed))

/-- The states that are not terminal. -/
theorem live_cases {o : Operation} (h : o.state.isTerminal = false) :
    isInterrupted o = true ∨ o.state = .manualInterventionRequired := by
  unfold isInterrupted
  cases hs : o.state <;> simp_all [OperationState.isTerminal]

theorem isInterrupted_live {o : Operation} (h : isInterrupted o = true) :
    o.state.isTerminal = false := by
  unfold isInterrupted at h
  cases hs : o.state <;> simp_all [OperationState.isTerminal]

/-- The flag that `open` computes from the tables it has read. -/
theorem flag_iff {operations : Operations} {idempotency : IdempotencyRecords} {d : Disk}
    (hops : ∀ i, operations.get i = d.operations.get i)
    (hidem : ∀ k, idempotency.get k = d.idempotency.get k) :
    ((operations.values env.order).any (·.state == .manualInterventionRequired) ||
      !((operations.values env.order).filter isInterrupted).isEmpty ||
      !((idempotency.values env.order).filter (·.unresolved)).isEmpty) = true ↔
      Live d ∨ Unresolved d := by
  have hmarked : (operations.values env.order).any (·.state == .manualInterventionRequired) = true ↔
      ∃ o, o ∈ operations.values env.order ∧ o.state = .manualInterventionRequired := by
    simp
  have hfilter : ∀ {α : Type} (l : List α) (p : α → Bool),
      (!(l.filter p).isEmpty) = true ↔ ∃ x ∈ l, p x = true := by
    intro α l p
    simp [List.filter_eq_nil_iff]
  rw [Bool.or_eq_true, Bool.or_eq_true, hmarked, hfilter, hfilter]
  constructor
  · rintro ((⟨o, ho, hs⟩ | ⟨o, ho, hs⟩) | ⟨r, hr, hs⟩)
    · exact .inl ⟨o.id, o, (hops _).symm.trans (Keyed.mem_values.mp ho), by rw [hs]; rfl⟩
    · exact .inl ⟨o.id, o, (hops _).symm.trans (Keyed.mem_values.mp ho), isInterrupted_live hs⟩
    · exact .inr ⟨r.keyHash, r, (hidem _).symm.trans (Keyed.mem_values.mp hr), hs⟩
  · rintro (⟨i, o, hi, hs⟩ | ⟨k, r, hk, hs⟩)
    · rw [← hops] at hi
      obtain rfl := Keyed.get_key hi
      have hmem : o ∈ operations.values env.order := Keyed.mem_values.mpr hi
      rcases live_cases hs with hs | hs
      · exact .inl (.inr ⟨o, hmem, hs⟩)
      · exact .inl (.inl ⟨o, hmem, hs⟩)
    · rw [← hidem] at hk
      obtain rfl := Keyed.get_key hk
      exact .inr ⟨r, Keyed.mem_values.mpr hk, hs⟩

theorem tries_recoverState :
    (rules H (Resumed w)).Tries (recoverState env) (fun s u => Recovered w u s)
      (fun _ u => Resumed w u) w := by
  have h := Resumed.refl w
  unfold recoverState
  refine Rules.tries_bind.mpr (tries_loadRecords h ?_ fun _ => h)
  refine Rules.tries_bind.mpr (tries_loadRecords h ?_ fun _ => h)
  refine Rules.tries_bind.mpr (tries_loadRecords h ?_ fun _ => h)
  refine Rules.tries_bind.mpr (tries_loadRecords h ?_ fun _ => h)
  have hl : ∀ o ∈ Keyed.values w.disk.operations env.order,
      ∃ o', w.disk.operations.get o.id = some o' ∧ o'.state = o.state :=
    fun o ho => ⟨o, Keyed.mem_values.mp ho, rfl⟩
  refine Rules.tries_bind.mpr ((tries_adoptAudits env h (fun _ => rfl) hl).mono ?_ fun _ _ hu => hu)
  rintro operations t ⟨ht, hmt, hbt⟩
  have hflag := flag_iff env hmt fun k => congrArg (Keyed.get · k) hbt.idempotency.symm
  have hlt : ∀ o ∈ (operations.values env.order).filter isInterrupted,
      ∃ o', t.disk.operations.get o.id = some o' ∧ o'.state.isTerminal = false := by
    intro o ho
    obtain ⟨hmem, hi⟩ := List.mem_filter.mp ho
    exact ⟨o, (hmt _).symm.trans (Keyed.mem_values.mp hmem), isInterrupted_live hi⟩
  refine Rules.tries_bind.mpr ((tries_markInterrupted env ht hmt hlt).mono ?_ fun _ _ hu => hu)
  rintro marked u ⟨hu, hmu, hbu, hleft⟩
  have hidem : ∀ k, w.disk.idempotency.get k = u.disk.idempotency.get k := fun k =>
    congrArg (Keyed.get · k) (hbu.idempotency.trans hbt.idempotency).symm
  refine Rules.tries_bind.mpr ((tries_resolveReloads hu hidem).mono ?_ fun _ _ hv => hv)
  rintro resolved v ⟨hv, hmv, hmem, hops, hnone⟩
  refine
    { resumed := hv
      memory := hmem.trans (hbu.memory.trans hbt.memory)
      operations := fun i => (hmu i).trans (congrArg (Keyed.get · i) hops.symm)
      idempotency := hmv
      flag := ?_
      marked := ?_
      resolved := ?_ }
  · refine hflag.trans (or_congr ht.live_iff ?_)
    unfold Unresolved
    rw [hbt.idempotency]
  · intro i o hi hlive
    rw [hops] at hi
    rcases live_cases hlive with hint | hs
    · -- An interrupted operation that is left would have been on the list.
      obtain ⟨hit, hnot⟩ := hleft i o hi hint
      rw [← hmt] at hit
      obtain rfl := Keyed.get_key hit
      exact absurd rfl (hnot o (List.mem_filter.mpr ⟨Keyed.mem_values.mpr hit, hint⟩))
    · exact hs
  · rintro ⟨k, r, hk, hr⟩
    obtain ⟨hku, hnot⟩ := hnone k r hk hr
    rw [← hidem] at hku
    obtain rfl := Keyed.get_key hku
    exact absurd rfl (hnot r (List.mem_filter.mpr ⟨Keyed.mem_values.mpr hku, hr⟩))

end Recovery

/-! ## Opening -/

/-- A store that was opened on the disk of `w`. -/
structure Opened (w t : World) : Prop where
  resumed : Resumed w t
  flag : t.memory.state.manualInterventionRequired = true ↔ Live w.disk ∨ Unresolved w.disk
  marked : ∀ i o, t.disk.operations.get i = some o → o.state.isTerminal = false →
    o.state = .manualInterventionRequired
  remembered : ∀ i, Carried (w.disk.operations.get i) (t.memory.state.operations.get i)
  agrees : ∀ i o o', t.memory.state.operations.get i = some o →
    t.disk.operations.get i = some o' → o = o'
  resolved : ¬ Unresolved t.disk
  active : t.memory.activeOperation = w.memory.activeOperation
  spawned : t.memory.spawned = w.memory.spawned

section Opening

variable {H : Prop} {w t : World}

theorem tries_createDirectories {I : World → Prop} {l : List (Option Directory)}
    {Q : Unit → World → Prop} {E : String → World → Prop} (hI : I w) (done : Q () w)
    (failed : ∀ text, E text w) : (rules H I).Tries (createDirectories l) Q E w := by
  induction l with
  | nil => exact done
  | cons d rest ih =>
    refine Rules.tries_bind.mpr (tries_orElse.mpr (safe_ask.mpr ⟨hI, ?_⟩))
    rintro (text | _)
    · exact failed _
    · exact ih

/-- The disk after the installed table was pruned. -/
theorem Recovered.opened {u v : World} {s : StoreState} (h : Recovered w u s)
    (hp : Pruned (Terminal s) (u.update (.install s)) v) : Opened w v := by
  have hterminal : ∀ i o, Terminal s i → u.disk.operations.get i = some o →
      o.state.isTerminal = true := by
    rintro i o ⟨o', ho', hs⟩ ho
    rw [h.operations i, ho] at ho'
    cases ho'
    exact hs
  have hresumed : Resumed w v :=
    Resumed.pruned (t := u.update (.install s))
      ⟨h.resumed.config, h.resumed.changes, h.resumed.operations, h.resumed.reloads,
        h.resumed.audits⟩ hp hterminal
  have hdisk : ∀ i o, v.disk.operations.get i = some o → u.disk.operations.get i = some o := by
    intro i o hi
    rcases hp.operations i with hsame | ⟨_, hnone⟩
    · rw [hsame] at hi
      exact hi
    · rw [hnone] at hi
      cases hi
  have hmem : ∀ i o, v.memory.state.operations.get i = some o →
      u.disk.operations.get i = some o := by
    intro i o hi
    rw [← h.operations]
    rcases hp.remembered i with hsame | ⟨_, hnone⟩
    · rw [hsame] at hi
      exact hi
    · rw [hnone] at hi
      cases hi
  refine
    { resumed := hresumed
      flag := ?_
      marked := fun i o hi => h.marked i o (hdisk i o hi)
      remembered := fun i => (h.resumed.operations i).trans ?_
      agrees := ?_
      resolved := ?_
      active := hp.active.trans ?_
      spawned := hp.spawned.trans ?_ }
  · rw [hp.manual]
    exact h.flag
  · rcases hp.remembered i with hsame | ⟨hi, hnone⟩
    · rw [hsame]
      change Carried _ (s.operations.get i)
      rw [h.operations]
      exact .refl _
    · rw [hnone]
      exact .gone fun o ho => hterminal i o hi ho
  · intro i o o' ho ho'
    have hboth := (hmem i o ho).symm.trans (hdisk i o' ho')
    cases hboth
    rfl
  · rintro ⟨k, r, hk, hr⟩
    obtain ⟨new, _, _, hgone, hkept⟩ := hp.writes
    by_cases hk' : Write.removed (.idempotency k) ∈ new
    · rw [hgone k hk'] at hk
      cases hk
    · rw [hkept k hk'] at hk
      exact h.resolved ⟨k, r, hk, hr⟩
  · change u.memory.activeOperation = _
    rw [h.memory]
  · change u.memory.spawned = _
    rw [h.memory]

/-- What is on disk stays as it is throughout `open`, and a store that is opened asks for an
operator exactly if something was left to reconcile. -/
theorem tries_openStore :
    (rules H (Resumed w)).Tries (openStore env) (fun _ t => Opened w t)
      (fun _ t => Resumed w t) w := by
  have h := Resumed.refl w
  unfold openStore
  refine Rules.tries_bind.mpr (tries_createDirectories h ?_ fun _ => h)
  refine Rules.tries_bind.mpr ((tries_recoverState env).mono ?_ fun _ _ hu => hu)
  intro s u hs
  have hinstalled : (rules H (Resumed w)).Tries (pruneAtStart env) (fun _ t => Opened w t)
      (fun _ t => Resumed w t) (u.update (.install s)) := by
    have hI : ∀ t, Pruned (Terminal s) (u.update (.install s)) t → Resumed w t :=
      fun t ht => (hs.opened ht).resumed
    refine Rules.tries_bind.mpr (tries_lift.mpr (Rules.safe_run.mpr ?_))
    refine (tries_pruneDurableRecords env hI).mono (fun _ t ht => ?_) fun _ t ht => hI t ht
    refine Rules.tries_bind.mpr (tries_lift.mpr (Rules.safe_run.mpr ?_))
    have hrevisions : ∀ (etag : String) v, Pruned (Terminal s) (u.update (.install s)) v →
        (rules H (Resumed w)).Tries (pruneRevisions env etag) (fun _ t => Opened w t)
          (fun _ t => Resumed w t) v := fun etag v hv =>
      (tries_prunes (pruneRevisions_only env etag) hI hv).mono (fun _ _ hv => hs.opened hv)
        fun _ v hv => hI v hv
    refine (tries_prunes (readConfig_only env reads_prunes) hI ht).mono ?_ ?_
    · exact fun bytes v hv => hrevisions _ v hv
    · exact fun _ v hv => hrevisions _ v hv
  exact Rules.tries_bind.mpr (tries_lift.mpr (safe_update.mpr ⟨hs.resumed, hinstalled⟩))

end Opening

end Starry.ConfigStore
