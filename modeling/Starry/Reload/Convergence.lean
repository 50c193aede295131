import Starry.Reload.Runtime

/-!
# Reloads that do not overlap converge

The last step of a reload compares the generation that it started from. A reload that lost the race
restores what it had seen at its start over the state of the winner, so two reloads that overlap may
leave the parts of different configurations in force.
-/

open Library

namespace Starry.Reload

variable {G W A : Type}

/-- A reload starts only when no other one is under way. -/
def alone (s : State G W A) : Move G W A → Bool
  | .start _ => s.runs.all Stage.isFinished
  | _ => true

/-- Every part accepts the candidate, and the pool answers in time. -/
def succeeds : Move G W A → Bool
  | .start _ | .handle => true
  | .prepared _ auth | .restored _ auth => auth.isOk
  | .timeout _ => false
  | .activate _ geo websocket config => geo.isOk && websocket.isOk && config.isOk
  | .revert _ geo websocket => geo.isOk && websocket.isOk

/-- What holds while a reload that is alone stands at a stage. -/
def Stage.Sound (env : Env) (s : State G W A) (i : Nat) : Stage G W A → Prop
  | .preparing job => InForce env s ∧ s.queue = [] ∧ job.baseGeneration = s.generation
  | .applying job => job.baseGeneration = s.generation ∧
      s.queue = [⟨i, relayText env (some job.candidate), satAdd s.generation 1⟩]
  | .applied job _ => job.baseGeneration = s.generation ∧ s.queue = [] ∧
      s.pool = candidatePool env (some job.candidate) (satAdd s.generation 1)
  | .finished _ => InForce env s ∧ s.queue = []
  | _ => False

/-- At most one reload is under way. -/
inductive Sound (env : Env) (s : State G W A) : Prop
  | idle (hdone : ∀ stage ∈ s.runs, stage.isFinished = true) (hforce : InForce env s)
      (hqueue : s.queue = [])
  | running (i : Nat) (stage : Stage G W A) (hi : s.runs[i]? = some stage)
      (hothers : ∀ j, j ≠ i → ∀ other, s.runs[j]? = some other → other.isFinished = true)
      (hsound : stage.Sound env s i)

section

variable {env : Env} {s t : State G W A}

/-- The one reload moves on. -/
theorem Sound.goto {i : Nat} {stage : Stage G W A} (stage' : Stage G W A)
    (hi : s.runs[i]? = some stage)
    (hothers : ∀ j, j ≠ i → ∀ other, s.runs[j]? = some other → other.isFinished = true)
    (hruns : t.runs = s.runs.set i stage') (hsound : stage'.Sound env t i) : Sound env t := by
  have hlt : i < s.runs.length := (List.getElem?_eq_some_iff.mp hi).1
  refine .running i stage' ?_ (fun j hj other hother => ?_) hsound
  · rw [hruns, List.getElem?_set_self hlt]
  · rw [hruns, List.getElem?_set_ne hj.symm] at hother
    exact hothers j hj other hother

/-- A reload that is not finished is the one under way. -/
theorem Sound.stage {i : Nat} {stage : Stage G W A} (h : Sound env s)
    (hi : s.runs[i]? = some stage) (hlive : stage.isFinished = false) :
    stage.Sound env s i ∧
      ∀ j, j ≠ i → ∀ other, s.runs[j]? = some other → other.isFinished = true := by
  cases h with
  | idle hdone _ _ =>
    rw [hdone stage (List.mem_of_getElem? hi)] at hlive
    cases hlive
  | running j stage' hj hothers hsound =>
    by_cases hij : i = j
    · subst hij
      rw [hi] at hj
      cases hj
      exact ⟨hsound, hothers⟩
    · rw [hothers i hij stage hi] at hlive
      cases hlive

theorem Sound.start {loaded : Except String (Config G W A)} (h : Sound env s)
    (halone : s.runs.all Stage.isFinished = true) :
    Sound env { s with runs := s.runs ++ [match loaded with
      | .error e => .finished (.refused e)
      | .ok candidate => .preparing ⟨candidate, s.generation, s.config⟩] } := by
  have hdone : ∀ stage ∈ s.runs, stage.isFinished = true := List.all_eq_true.mp halone
  have hidle : InForce env s ∧ s.queue = [] := by
    cases h with
    | idle _ hforce hqueue => exact ⟨hforce, hqueue⟩
    | running i stage hi _ hsound =>
      have hfinished := hdone stage (List.mem_of_getElem? hi)
      cases stage with
      | finished outcome => exact hsound
      | _ => cases hfinished
  obtain ⟨⟨hpool, hgeo, hws, hauth⟩, hqueue⟩ := hidle
  have hforce : ∀ runs, InForce env { s with runs } := fun _ => ⟨hpool, hgeo, hws, hauth⟩
  refine .running s.runs.length _ (List.getElem?_concat_length) (fun j hj other hother => ?_) ?_
  · rw [List.getElem?_append] at hother
    split at hother
    · exact hdone other (List.mem_of_getElem? hother)
    · rename_i hge
      have hpos : j - s.runs.length ≠ 0 := by omega
      simp [hpos] at hother
  · cases loaded with
    | error e => exact ⟨hforce _, hqueue⟩
    | ok candidate => exact ⟨hforce _, hqueue, rfl⟩

/-- The main loop applies the candidate of the one reload, and acknowledges it. -/
theorem Sound.handle (h : Sound env s) (hn : Reload.handle env s = some t) : Sound env t := by
  unfold Reload.handle at hn
  split at hn
  · cases hn
  · rename_i m rest hqueue
    cases hn
    cases h with
    | idle _ _ hempty =>
      rw [hqueue] at hempty
      cases hempty
    | running i stage hi hothers hsound =>
      cases stage with
      | preparing job =>
        rw [hsound.2.1] at hqueue
        cases hqueue
      | applied job previous =>
        rw [hsound.2.1] at hqueue
        cases hqueue
      | finished outcome =>
        rw [hsound.2] at hqueue
        cases hqueue
      | applying job =>
        obtain ⟨hbase, hsent⟩ := hsound
        rw [hsent] at hqueue
        cases hqueue
        unfold acknowledge
        dsimp only
        rw [hi]
        exact .goto (.applied job _) hi hothers rfl ⟨hbase, rfl, rfl⟩
      | reverting job error | reverted job error failures | restoring job error failures =>
        exact hsound.elim

/-- The last part of the one reload puts its candidate in force. -/
theorem Sound.activate {i : Nat} {job : Job G W A} {previous : String}
    {geo websocket config : Except String Unit} (h : Sound env s)
    (hi : s.runs[i]? = some (.applied job previous))
    (hok : (geo.isOk && websocket.isOk && config.isOk) = true) :
    Sound env (Reload.activate s i job previous geo websocket config) := by
  obtain ⟨⟨hbase, hqueue, hpool⟩, hothers⟩ := h.stage hi rfl
  simp only [Bool.and_eq_true] at hok
  obtain ⟨⟨hgeo, hwebsocket⟩, hconfig⟩ := hok
  cases geo with
  | error e => cases hgeo
  | ok _ =>
    cases websocket with
    | error e => cases hwebsocket
    | ok _ =>
      cases config with
      | error e => cases hconfig
      | ok _ =>
        simp only [Reload.activate]
        rw [if_neg (by simp [hbase])]
        refine .goto (.finished _) hi hothers rfl ⟨⟨?_, rfl, rfl, rfl⟩, hqueue⟩
        exact hpool

/-- Every step of reloads that succeed one at a time. -/
theorem Sound.step {m : Move G W A} (h : Sound env s) (halone : alone s m = true)
    (hok : succeeds m = true) (hn : Reload.step env s m = some t) : Sound env t := by
  cases m with
  | start loaded =>
    cases hn
    exact h.start halone
  | handle => exact h.handle hn
  | timeout i => cases hok
  | prepared i auth =>
    simp only [Reload.step] at hn
    split at hn
    · rename_i job hi
      obtain ⟨⟨hforce, hqueue, hbase⟩, hothers⟩ := h.stage hi rfl
      cases auth with
      | error e => cases hok
      | ok _ =>
        cases hn
        refine .goto (.applying job) hi hothers rfl ⟨hbase, ?_⟩
        change s.queue ++ [_] = _
        rw [hqueue, hbase]
        rfl
    · cases hn
  | activate i geo websocket config =>
    simp only [Reload.step] at hn
    split at hn
    · rename_i job previous hi
      cases hn
      exact h.activate hi hok
    · cases hn
  | revert i geo websocket =>
    simp only [Reload.step] at hn
    split at hn
    · rename_i job error failures hi
      exact (h.stage hi rfl).1.elim
    · cases hn
  | restored i auth =>
    simp only [Reload.step] at hn
    split at hn
    · rename_i job error failures hi
      exact (h.stage hi rfl).1.elim
    · cases hn

/-- In every run in which a reload starts only while no other one is under way, the configuration
that is active is in force whenever all reloads have finished. -/
theorem reloads_converge (env : Env) (config : Option (Config G W A))
    (h : Reachable (Guarded (Reload.step env) fun s m => alone s m && succeeds m)
      (startup env config) s) (hdone : ∀ stage ∈ s.runs, stage.isFinished = true) :
    InForce env s := by
  have hsound : Sound env s := by
    refine h.invariant (P := Sound env) (.idle (by simp [startup]) (startup_inForce env config) rfl)
      ?_
    rintro s m t hs ⟨hguard, hn⟩
    obtain ⟨halone, hok⟩ := Bool.and_eq_true_iff.mp hguard
    exact hs.step halone hok hn
  cases hsound with
  | idle _ hforce _ => exact hforce
  | running i stage hi _ hsound =>
    have hfinished := hdone stage (List.mem_of_getElem? hi)
    cases stage with
    | finished outcome => exact hsound.1
    | _ => cases hfinished

end

/-! ## Concrete runs -/

def oneReload : List (Move Nat Nat Nat) :=
  [.start (.ok (sampleConfig "relay-b" 2)), .prepared 0 (.ok ()), .handle,
    .activate 0 (.ok ()) (.ok ()) (.ok ())]

/-- The parts that are in force, and whether all reloads have finished. -/
def summary (s : State Nat Nat Nat) :=
  (s.runs.all Stage.isFinished, (s.generation, s.config.map fun c => (c.geo, c.auth)), s.pool, s.geo, s.auth)

theorem oneReload_done :
    ((exec (step sampleEnv) (fun s m => alone s m && succeeds m)
      (startup sampleEnv (some (sampleConfig "relay-a" 1))) oneReload).map summary) =
      some (true, (2, some (2, 2)), ⟨["relay-b"], 2⟩, some 2, some 2) := by
  rfl

theorem reloads_converge_one :
    ∃ s, Reachable (Guarded (step sampleEnv) fun s m => alone s m && succeeds m)
        (startup sampleEnv (some (sampleConfig "relay-a" 1))) s ∧ s.generation = 2 ∧
      InForce sampleEnv s := by
  obtain ⟨s, hs, hsummary⟩ := Option.map_eq_some_iff.mp oneReload_done
  simp only [summary, Prod.mk.injEq] at hsummary
  have hreached : Reachable (Guarded (step sampleEnv) fun s m => alone s m && succeeds m)
      (startup sampleEnv (some (sampleConfig "relay-a" 1))) s := ⟨_, .of_exec hs⟩
  exact ⟨s, hreached, hsummary.2.1.1, reloads_converge sampleEnv _ hreached
    (List.all_eq_true.mp hsummary.1)⟩

/-- Two reloads start from the same generation. The second one loses and restores. -/
def twoReloads : List (Move Nat Nat Nat) :=
  [.start (.ok (sampleConfig "relay-b" 2)), .start (.ok (sampleConfig "relay-c" 3)),
    .prepared 0 (.ok ()), .handle, .activate 0 (.ok ()) (.ok ()) (.ok ()),
    .prepared 1 (.ok ()), .handle, .activate 1 (.ok ()) (.ok ()) (.ok ()), .handle,
    .revert 1 (.ok ()) (.ok ()), .restored 1 (.ok ())]

theorem twoReloads_done :
    ((exec (step sampleEnv) (fun _ m => succeeds m)
      (startup sampleEnv (some (sampleConfig "relay-a" 1))) twoReloads).map summary) =
      some (true, (2, some (2, 2)), ⟨["relay-b"], 1⟩, some 1, some 1) := by
  rfl

/-- The pool is left with an old generation and the other parts with an old configuration. -/
theorem overlapping_reloads_diverge :
    ∃ s, Reachable (Guarded (step sampleEnv) fun _ m => succeeds m)
        (startup sampleEnv (some (sampleConfig "relay-a" 1))) s ∧
      (∀ stage ∈ s.runs, stage.isFinished = true) ∧ s.pool.generation ≠ s.generation ∧
      s.geo ≠ s.config.map (·.geo) ∧ s.auth ≠ s.config.map (·.auth) ∧ ¬ InForce sampleEnv s := by
  obtain ⟨s, hs, hsummary⟩ := Option.map_eq_some_iff.mp twoReloads_done
  simp only [summary, Prod.mk.injEq] at hsummary
  obtain ⟨hdone, ⟨hgeneration, hconfig⟩, hpool, hgeo, hauth⟩ := hsummary
  obtain ⟨config, hc, hparts⟩ := Option.map_eq_some_iff.mp hconfig
  rw [Prod.mk.injEq] at hparts
  have hgeo' : s.geo ≠ s.config.map (·.geo) := by
    rw [hgeo, hc, Option.map_some, hparts.1]
    decide
  refine ⟨s, ⟨_, .of_exec hs⟩, List.all_eq_true.mp hdone, ?_, hgeo', ?_,
    fun hforce => hgeo' hforce.geo⟩
  · rw [hpool, hgeneration]
    decide
  · rw [hauth, hc, Option.map_some, hparts.2]
    decide

end Starry.Reload
