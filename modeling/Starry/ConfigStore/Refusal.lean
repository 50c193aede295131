import Starry.ConfigStore.CrashSafety

/-!
# What a refused call leaves behind

A call that fails may have pruned, and may have put a part of its intent on disk. `open` takes the
operation of an intent for one that was interrupted.
-/

open Library

namespace Starry.ConfigStore

variable (env : Env)

/-! ## Opening again and again -/

/-- The store was opened `n` times over the directories of `w`, with nothing in between. -/
inductive OpenedTimes (w : World) : Nat → World → Prop
  | once {t : World} {es : List (Event Act Act.Reply World)}
      (he : Eval next (openStore env).run w.crash es (.ok ()) t) : OpenedTimes w 1 t
  | again {n : Nat} {u t : World} {es : List (Event Act Act.Reply World)} (h : OpenedTimes w n u)
      (he : Eval next (openStore env).run u.crash es (.ok ()) t) : OpenedTimes w (n + 1) t

/-- Nothing that the call wrote or removed changes what `open` makes of the records: an operation
that is not ended was on disk before, or the operation of the call was not published and a reload
without a result was not the last one to be removed. -/
def Harmless (w : World) (new : List Write) : Prop :=
  Live w.disk ∨
    (∀ o, .published (.operation o) ∉ new) ∧
      (Unresolved w.disk → ∃ k r, w.disk.idempotency.get k = some r ∧ r.unresolved = true ∧
        .removed (.idempotency k) ∉ new)

section

variable {env} {w t u : World} {n : Nat} {new : List Write}

theorem OpenedTimes.reopened (h : OpenedTimes env w n t) : Reopened env w n t := by
  induction h with
  | once he => exact .opened .here he
  | again _ he ih => exact .opened ih he

/-- A reload without a result counts for the first time only. -/
theorem OpenedTimes.flag_iff (h : OpenedTimes env w n t) :
    1 ≤ n ∧ (t.memory.state.manualInterventionRequired = true ↔
      Live w.disk ∨ n = 1 ∧ Unresolved w.disk) := by
  cases h with
  | once he =>
    refine ⟨le_refl 1, (opened_of_eval he).flag.trans (or_congr Iff.rfl ?_)⟩
    simp [World.crash]
  | @again m u t es h he =>
    have hm : 1 ≤ m := by
      cases h <;> omega
    refine ⟨by omega, ((h.reopened).flag_iff he).trans (or_congr Iff.rfl ?_)⟩
    have hresolved := h.reopened.resolved hm
    constructor
    · exact fun hu => absurd hu hresolved
    · rintro ⟨hone, _⟩
      omega

/-! ## What is on disk after a call that failed -/

theorem Attempted.live (h : Attempted u t) (hu : Live u.disk) : Live t.disk := by
  obtain ⟨new, _, ⟨_, hops, _⟩ | ⟨o, _, hpending, hget⟩⟩ := h
  · obtain ⟨i, o, ho, hlive⟩ := hu
    rw [← hops] at ho
    exact ⟨i, o, ho, hlive⟩
  · refine ⟨o.id, o, hget, ?_⟩
    rw [hpending]
    rfl

/-- An operation that is not ended is not pruned. -/
theorem Pruned.live (h : Pruned (Terminal w.memory.state) w u) (hc : Coherent w)
    (hw : Live w.disk) : Live u.disk := by
  obtain ⟨i, o, ho, hlive⟩ := hw
  rcases h.operations i with hi | ⟨⟨o', ho', hterminal⟩, _⟩
  · exact ⟨i, o, hi.trans ho, hlive⟩
  · rw [hc.ended i o' o ho' hterminal ho] at hlive
    cases hlive

theorem Pruned.was_live {T : String → Prop} (h : Pruned T w u) (hu : Live u.disk) :
    Live w.disk := by
  obtain ⟨i, o, ho, hlive⟩ := hu
  rcases h.operations i with hi | ⟨_, hnone⟩
  · exact ⟨i, o, hi ▸ ho, hlive⟩
  · rw [hnone] at ho
    cases ho

/-- The records after a call that failed: its operation, or what the pruning left. -/
theorem Refused.disk (h : Refused w t) (hnew : Since w t new) :
    (∃ o, .published (.operation o) ∈ new) ∧ Live t.disk ∨
      (∀ o, .published (.operation o) ∉ new) ∧ (Live t.disk → Live w.disk) ∧
        (Unresolved t.disk ↔ ∃ k r, w.disk.idempotency.get k = some r ∧ r.unresolved = true ∧
          .removed (.idempotency k) ∉ new) := by
  obtain ⟨u, hu, hattempt⟩ := h
  obtain ⟨removed, hremoved, hfiles, hgone, hkept⟩ := hu.writes
  obtain ⟨written, hwritten, hcases⟩ := hattempt
  have hsplit : new = removed ++ written := by
    unfold Since at hnew hremoved hwritten
    rw [hwritten, hremoved, List.append_assoc] at hnew
    exact (List.append_cancel_left hnew).symm
  subst hsplit
  rcases hcases with ⟨haudits, hops, hkeys⟩ | ⟨o, hmem, hpending, hget⟩
  · right
    have hnone : ∀ k, .removed (.idempotency k) ∉ written := by
      intro k hk
      obtain ⟨a, ha⟩ := haudits _ hk
      cases ha
    refine ⟨fun o ho => ?_, fun hlive => ?_, ?_⟩
    · rcases List.mem_append.mp ho with ho | ho
      · obtain ⟨f, hf⟩ := hfiles _ ho
        cases hf
      · obtain ⟨a, ha⟩ := haudits _ ho
        cases ha
    · refine hu.was_live ?_
      unfold Live at hlive ⊢
      rwa [hops] at hlive
    · unfold Unresolved
      rw [hkeys]
      constructor
      · rintro ⟨k, r, hk, hr⟩
        have hmem : .removed (.idempotency k) ∉ removed := by
          intro hmem
          rw [hgone k hmem] at hk
          cases hk
        rw [hkept k hmem] at hk
        exact ⟨k, r, hk, hr, by simp [hmem, hnone k]⟩
      · rintro ⟨k, r, hk, hr, hmem⟩
        rw [← hkept k fun h => hmem (List.mem_append_left _ h)] at hk
        exact ⟨k, r, hk, hr⟩
  · left
    refine ⟨⟨o, List.mem_append_right _ hmem⟩, o.id, o, hget, ?_⟩
    rw [hpending]
    rfl

/-- A call that failed leaves the flag of every later `open` as it would have been exactly if it is
harmless. Otherwise the first or the second of them differs. -/
theorem refused_call_harmless {config : Option Bytes} {s : System} {m : Mutation}
    {es : List (Event Act Act.Reply World)} {e : TransactionError}
    (h : System.Reached env config s)
    (he : Eval next (accept env m).run s.world es (.error e) t) (hnew : Since s.world t new) :
    (Harmless s.world new → ∀ n u u', OpenedTimes env t n u → OpenedTimes env s.world n u' →
      u.memory.state.manualInterventionRequired = u'.memory.state.manualInterventionRequired) ∧
    (¬ Harmless s.world new → ∃ n, 1 ≤ n ∧ ∀ u u', OpenedTimes env t n u →
      OpenedTimes env s.world n u' →
      u.memory.state.manualInterventionRequired ≠
        u'.memory.state.manualInterventionRequired) := by
  obtain ⟨φ, hφ⟩ := h.invariant
  have hrefused : Refused s.world t :=
    eval_error (I := fun _ => True) (E := fun _ t => Refused s.world t) (tries_accept env) he
  have hlive : Live s.world.disk → Live t.disk := by
    obtain ⟨u, hu, hattempt⟩ := hrefused
    exact fun hw => hattempt.live (hu.live hφ.holders.coherent hw)
  have hdisk := hrefused.disk hnew
  constructor
  · intro hharmless n u u' hu hu'
    rw [Bool.eq_iff_iff, hu.flag_iff.2, hu'.flag_iff.2]
    rcases hharmless with hw | ⟨hnone, hreload⟩
    · exact iff_of_true (.inl (hlive hw)) (.inl hw)
    · rcases hdisk with ⟨⟨o, ho⟩, _⟩ | ⟨_, hback, hunresolved⟩
      · exact absurd ho (hnone o)
      · refine or_congr ⟨hback, hlive⟩ (and_congr_right fun _ => ?_)
        rw [hunresolved]
        refine ⟨?_, hreload⟩
        rintro ⟨k, r, hk, hr, _⟩
        exact ⟨k, r, hk, hr⟩
  · intro hharm
    have hdead : ¬ Live s.world.disk := fun hw => hharm (.inl hw)
    rcases hdisk with ⟨_, hnow⟩ | ⟨hnone, hback, hunresolved⟩
    -- The second `open` finds no reload without a result, with or without the call.
    · refine ⟨2, by omega, fun u u' hu hu' heq => ?_⟩
      have htrue := hu.flag_iff.2.mpr (.inl hnow)
      rw [heq, hu'.flag_iff.2] at htrue
      rcases htrue with hw | ⟨htwo, _⟩
      · exact hdead hw
      · cases htwo
    · refine ⟨1, le_refl 1, fun u u' hu hu' heq => hharm (.inr ⟨hnone, fun hw => ?_⟩)⟩
      have htrue := hu'.flag_iff.2.mpr (.inr ⟨rfl, hw⟩)
      rw [← heq, hu.flag_iff.2] at htrue
      rcases htrue with hnow | ⟨_, hnow⟩
      · exact absurd (hback hnow) hdead
      · exact hunresolved.mp hnow

end

/-! ## A concrete run -/

/-- The renames of operations, or of idempotency records, fail. -/
def failingAt (d : Directory) (w : World) (a : Act) : a.Choice :=
  match a with
  | .rename e => if e.directory = d then .error "No space left on device" else .ok ()
  | a => firstDay w a

/-- The store after the plan, the store after the call that fails, and the store that is opened
after each. -/
structure RefusedRun where
  planned : World
  refused : World
  again : World
  without : World

def refusedAt (d : Directory) : Option (TransactionError × RefusedRun) :=
  plannedAt.bind fun x =>
  match (accept sampleEnv (.apply sampleApply)).run.runWith step (failingAt d) x.2.2 with
  | some (.error e, t) =>
    (openedAt firstDay t.crash).bind fun again =>
    (openedAt firstDay x.2.2.crash).map fun without => (e, ⟨x.2.2, t, again, without⟩)
  | _ => none

theorem reached_refused {d : Directory} {e : TransactionError} {x : RefusedRun}
    (h : refusedAt d = some (e, x)) :
    ∃ s es, System.Reached sampleEnv none s ∧ s.world = x.planned ∧
      Eval next (accept sampleEnv (.apply sampleApply)).run s.world es (.error e) x.refused ∧
      OpenedTimes sampleEnv x.refused 1 x.again ∧ OpenedTimes sampleEnv s.world 1 x.without := by
  obtain ⟨y, hplanned, hrun⟩ := Option.bind_eq_some_iff.mp h
  obtain ⟨s, hs, hworld⟩ := reached_planned (w := y.2.2) (by rw [hplanned]; rfl)
  split at hrun
  · rename_i e t heq
    obtain ⟨again, hagain, hmap⟩ := Option.bind_eq_some_iff.mp hrun
    obtain ⟨without, hwithout, hx⟩ := Option.map_eq_some_iff.mp hmap
    cases hx
    obtain ⟨es, he⟩ := Eval.of_runWith heq
    obtain ⟨_, hagain⟩ := eval_openedAt hagain
    obtain ⟨_, hwithout⟩ := eval_openedAt hwithout
    rw [← hworld] at he hwithout
    exact ⟨s, es, hs, hworld, he, .once hagain, .once hwithout⟩
  · cases hrun

def Write.isOperation : Write → Bool
  | .published (.operation _) => true
  | _ => false

theorem refusedAt_operations :
    ((refusedAt .operations).map fun x => (x.2.planned.writes.length,
      x.2.refused.writes.any Write.isOperation,
      (x.2.planned.disk.idempotency.values .stored).length)) = some (0, false, 0) := by
  rfl

/-- A call that fails to publish its operation leaves no trace for the next `open`. -/
theorem refused_call_harmless_unpublished :
    ∃ s es e t new u u', System.Reached sampleEnv none s ∧
      Eval next (accept sampleEnv (.apply sampleApply)).run s.world es (.error e) t ∧
      Since s.world t new ∧ OpenedTimes sampleEnv t 1 u ∧ OpenedTimes sampleEnv s.world 1 u' ∧
      u.memory.state.manualInterventionRequired = u'.memory.state.manualInterventionRequired := by
  obtain ⟨⟨e, x⟩, hx, hstate⟩ := Option.map_eq_some_iff.mp refusedAt_operations
  simp only [Prod.mk.injEq] at hstate
  obtain ⟨hbefore, hwrites, hreloads⟩ := hstate
  obtain ⟨s, es, hs, hworld, he, hagain, hwithout⟩ := reached_refused hx
  have hnew : Since s.world x.refused x.refused.writes := by
    unfold Since
    rw [hworld, List.eq_nil_of_length_eq_zero hbefore, List.nil_append]
  have hharmless : Harmless s.world x.refused.writes := by
    refine .inr ⟨fun o ho => ?_, ?_⟩
    · have hany := List.any_eq_false.mp hwrites _ ho
      exact hany rfl
    · rintro ⟨k, r, hk, _⟩
      have hmem : r ∈ x.planned.disk.idempotency.values .stored := by
        rw [Keyed.mem_values, Keyed.get_key hk, ← hworld]
        exact hk
      rw [List.eq_nil_of_length_eq_zero hreloads] at hmem
      cases hmem
  exact ⟨s, es, e, x.refused, _, _, _, hs, he, hnew, hagain, hwithout,
    (refused_call_harmless hs he hnew).1 hharmless 1 _ _ hagain hwithout⟩

theorem refusedAt_idempotency :
    ((refusedAt .idempotency).map fun x => (x.2.again.memory.state.manualInterventionRequired,
      x.2.without.memory.state.manualInterventionRequired)) = some (true, false) := by
  rfl

/-- A call that fails to publish its idempotency record blocks the store that is opened next. -/
theorem refused_call_blocks :
    ∃ s es e t u u', System.Reached sampleEnv none s ∧
      Eval next (accept sampleEnv (.apply sampleApply)).run s.world es (.error e) t ∧
      OpenedTimes sampleEnv t 1 u ∧ OpenedTimes sampleEnv s.world 1 u' ∧
      u.memory.state.manualInterventionRequired = true ∧
      u'.memory.state.manualInterventionRequired = false := by
  obtain ⟨⟨e, x⟩, hx, hstate⟩ := Option.map_eq_some_iff.mp refusedAt_idempotency
  simp only [Prod.mk.injEq] at hstate
  obtain ⟨s, es, hs, _, he, hagain, hwithout⟩ := reached_refused hx
  exact ⟨s, es, e, x.refused, _, _, hs, he, hagain, hwithout, hstate.1, hstate.2⟩

end Starry.ConfigStore
