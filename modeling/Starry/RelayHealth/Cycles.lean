import Starry.RelayHealth.Probes

/-!
# Cycles and configurations

A cycle probes the endpoints of one configuration and records the results one by one, while calls of
`reconfigure` number a configuration and write it later, in any order. A run is watched here: what
was recorded since the state was last written.
-/

open Library

namespace Starry.RelayHealth

open Starry.RelayObserver (Status)

/-! ## Steps -/

/-- A call of `reconfigure` that has its number and not yet written the state. -/
structure Numbered where
  generation : Nat
  enabled : Bool
  config : RelayHealthConfig

def Numbered.state (call : Numbered) (s : HealthState) : HealthState :=
  { enabled := call.enabled
    generation := call.generation
    completedGeneration := 0
    snapshotId := s.snapshotId + 1
    config := call.config
    endpoints := call.config.endpoints.foldl
      (fun table endpoint => table.insert (toAsciiLowercase endpoint.relay) {}) .empty }

/-- The background task. -/
inductive Prober
  | absent
  | waiting
  | probing (generation : Nat) (config : RelayHealthConfig)
  | recording (generation : Nat) (config : RelayHealthConfig)
      (results : List (String × Except String ProbeSuccess))

/-- A result that has changed an endpoint. -/
structure Recorded where
  generation : Nat
  relay : String
  result : Except String ProbeSuccess
  /-- It was a success, and no replay. -/
  accepted : Bool

structure Health where
  /-- `GENERATION` -/
  counter : Nat
  calls : List Numbered
  state : HealthState
  prober : Prober
  /-- What was recorded since the state was written, the last first. -/
  log : List Recorded

def Health.init : Health := ⟨0, [], .initial, .absent, []⟩

def accepted (endpoint : EndpointState) : Except String ProbeSuccess → Bool
  | .ok success => !isReplay endpoint success
  | .error _ => false

/-- `record`, with the thresholds of the cycle. -/
def recordUnder (config : RelayHealthConfig) (generation : Nat) (relay : String)
    (result : Except String ProbeSuccess) (s : HealthState) : HealthState :=
  if s.generation ≠ generation then s
  else match s.endpoints.get (toAsciiLowercase relay) with
    | none => s
    | some endpoint =>
      { s with
        snapshotId := s.snapshotId + 1
        endpoints := s.endpoints.insert (toAsciiLowercase relay)
          (recordResult endpoint result config.successThreshold config.failureThreshold) }

/-- What is seen of `record`. -/
def noteRecorded (generation : Nat) (relay : String) (result : Except String ProbeSuccess)
    (s : HealthState) : List Recorded :=
  if s.generation ≠ generation then []
  else match s.endpoints.get (toAsciiLowercase relay) with
    | none => []
    | some endpoint => [⟨generation, toAsciiLowercase relay, result, accepted endpoint result⟩]

inductive CycleMove
  /-- `reconfigure` takes a number. -/
  | number (enabled : Bool) (config : RelayHealthConfig)
  /-- It writes the state, and starts the task. -/
  | write (i : Nat)
  /-- The task reads the state, after its interval or when it is woken. -/
  | read
  /-- All probes have ended, in some order. -/
  | collected (results : List (String × Except String ProbeSuccess))
  /-- The next result is recorded, or the cycle ends. -/
  | advance

def Health.step (w : Health) : CycleMove → Option Health
  | .number enabled config =>
    -- the thresholds are `u32`
    if config.successThreshold ≤ u32Max ∧ config.failureThreshold ≤ u32Max then
      some { w with
        counter := w.counter + 1
        calls := w.calls ++ [⟨w.counter + 1, enabled, config⟩] }
    else none
  | .write i => w.calls[i]?.map fun call =>
    { w with
      calls := w.calls.eraseIdx i
      state := call.state w.state
      prober := match w.prober with
        | .absent => .waiting
        | prober => prober
      log := [] }
  | .read => match w.prober with
    | .waiting =>
      if w.state.enabled then
        some { w with prober := .probing w.state.generation w.state.config }
      else none
    | _ => none
  | .collected results => match w.prober with
    | .probing generation config =>
      if (results.map Prod.fst).isPerm (config.endpoints.map (·.relay)) then
        some { w with prober := .recording generation config results }
      else none
    | _ => none
  | .advance => match w.prober with
    | .recording generation config ((relay, result) :: results) =>
      some { w with
        state := recordUnder config generation relay result w.state
        prober := .recording generation config results
        log := noteRecorded generation relay result w.state ++ w.log }
    | .recording generation _ [] =>
      some { w with state := finishCycle generation w.state, prober := .waiting }
    | _ => none

/-! ## Runs of equal outcomes -/

/-- The maximal runs of equal outcomes with their lengths, the last first. -/
def runs : List Bool → List (Bool × Nat)
  | [] => []
  | outcome :: outcomes => match runs outcomes with
    | [] => [(outcome, 1)]
    | (b, n) :: rest => if b = outcome then (b, n + 1) :: rest else (outcome, 1) :: (b, n) :: rest

def RelayHealthConfig.threshold (config : RelayHealthConfig) (outcome : Bool) : Nat :=
  if outcome then config.successThreshold else config.failureThreshold

/-- The last run that reached its threshold. -/
def lastReached (config : RelayHealthConfig) (outcomes : List Bool) : Option (Bool × Nat) :=
  (runs outcomes).find? fun run => config.threshold run.1 ≤ run.2

def verdict : Option (Bool × Nat) → Status
  | none => .unknown
  | some (true, _) => .healthy
  | some (false, _) => .unhealthy

/-- How many of the last outcomes are `b`. -/
def current (b : Bool) (outcomes : List Bool) : Nat :=
  match runs outcomes with
  | (c, n) :: _ => if c = b then n else 0
  | [] => 0

/-- A new outcome goes on with the last run, or begins one. -/
theorem runs_cons (o : Bool) (outcomes : List Bool) :
    ∃ rest, runs (o :: outcomes) = (o, current o outcomes + 1) :: rest ∧
      (rest = runs outcomes ∨ runs outcomes = (o, current o outcomes) :: rest) := by
  unfold current
  rw [runs]
  cases hruns : runs outcomes with
  | nil => exact ⟨[], rfl, .inl rfl⟩
  | cons run rest =>
    obtain ⟨c, n⟩ := run
    by_cases hc : c = o
    · subst hc
      exact ⟨rest, by simp, .inr (by simp)⟩
    · exact ⟨(c, n) :: rest, by simp [hc], .inl rfl⟩

theorem current_cons (b o : Bool) (outcomes : List Bool) :
    current b (o :: outcomes) = if o = b then current b outcomes + 1 else 0 := by
  obtain ⟨rest, hruns, -⟩ := runs_cons o outcomes
  conv_lhs => rw [current, hruns]
  change (if o = b then current o outcomes + 1 else 0) = _
  split
  · rename_i hob
    rw [hob]
  · rfl

/-- A new outcome decides if its run reaches the threshold. -/
theorem lastReached_cons (config : RelayHealthConfig) (o : Bool) (outcomes : List Bool) :
    lastReached config (o :: outcomes) =
      if config.threshold o ≤ current o outcomes + 1 then some (o, current o outcomes + 1)
      else lastReached config outcomes := by
  obtain ⟨rest, hruns, hrest⟩ := runs_cons o outcomes
  unfold lastReached
  rw [hruns]
  split
  · rename_i hreached
    exact List.find?_cons_of_pos (decide_eq_true hreached)
  · rename_i hreached
    rw [List.find?_cons_of_neg (by simpa using hreached)]
    rcases hrest with rfl | hrest
    · rfl
    · rw [hrest, List.find?_cons_of_neg (by simpa using (by omega))]

/-! ## One endpoint -/

section Endpoint

variable {config : RelayHealthConfig} {endpoint : EndpointState} {outcomes : List Bool}
  {result : Except String ProbeSuccess}

/-- What the outcomes of an endpoint, the last first, say about its state. -/
structure Judged (config : RelayHealthConfig) (outcomes : List Bool) (endpoint : EndpointState) :
    Prop where
  status : endpoint.status = verdict (lastReached config outcomes)
  successes : endpoint.consecutiveSuccesses = min (current true outcomes) u32Max
  failures : endpoint.consecutiveFailures = min (current false outcomes) u32Max
  load : endpoint.load.isSome = true → outcomes.head? = some true

theorem Judged.initial (config : RelayHealthConfig) : Judged config [] {} :=
  ⟨rfl, rfl, rfl, fun h => by cases h⟩

theorem Judged.failure (h : Judged config outcomes endpoint)
    (hthreshold : config.failureThreshold ≤ u32Max) :
    Judged config (false :: outcomes) (applyFailure endpoint config.failureThreshold) := by
  have hcount : min (endpoint.consecutiveFailures + 1) u32Max =
      min (current false outcomes + 1) u32Max := by
    rw [h.failures]
    omega
  refine ⟨?_, ?_, ?_, fun hload => by cases hload⟩
  · rw [lastReached_cons]
    change (if min (endpoint.consecutiveFailures + 1) u32Max ≥ config.failureThreshold
      then Status.unhealthy else endpoint.status) = _
    rw [hcount, h.status]
    change _ = verdict (if config.failureThreshold ≤ _ then _ else _)
    split
    · rw [if_pos (by omega)]
      rfl
    · rw [if_neg (by omega)]
  · rw [current_cons]
    rfl
  · rw [current_cons, if_pos rfl]
    exact hcount

theorem Judged.success {success : ProbeSuccess} (h : Judged config outcomes endpoint)
    (hthreshold : config.successThreshold ≤ u32Max) :
    Judged config (true :: outcomes) (applySuccess endpoint success config.successThreshold) := by
  have hcount : min (endpoint.consecutiveSuccesses + 1) u32Max =
      min (current true outcomes + 1) u32Max := by
    rw [h.successes]
    omega
  refine ⟨?_, ?_, ?_, fun _ => rfl⟩
  · rw [lastReached_cons]
    change (if min (endpoint.consecutiveSuccesses + 1) u32Max ≥ config.successThreshold
      then Status.healthy else endpoint.status) = _
    rw [hcount, h.status]
    change _ = verdict (if config.successThreshold ≤ _ then _ else _)
    split
    · rw [if_pos (by omega)]
      rfl
    · rw [if_neg (by omega)]
  · rw [current_cons, if_pos rfl]
    exact hcount
  · rw [current_cons]
    rfl

/-- A result counts as a success if it is accepted. -/
theorem Judged.recordResult (h : Judged config outcomes endpoint)
    (result : Except String ProbeSuccess)
    (hsuccess : config.successThreshold ≤ u32Max) (hfailure : config.failureThreshold ≤ u32Max) :
    Judged config (accepted endpoint result :: outcomes)
      (recordResult endpoint result config.successThreshold config.failureThreshold) := by
  unfold RelayHealth.recordResult accepted
  cases result with
  | error e => exact h.failure hfailure
  | ok success =>
    dsimp only
    split
    · rename_i hreplay
      rw [hreplay]
      exact h.failure hfailure
    · rename_i hreplay
      rw [Bool.not_eq_true] at hreplay
      rw [hreplay]
      exact h.success hsuccess

end Endpoint

/-! ## Every run -/

/-- The results of a relay since the state was written, the last first. -/
def Health.results (w : Health) (relay : String) : List Recorded :=
  w.log.filter fun r => r.relay == relay

def Health.outcomes (w : Health) (relay : String) : List Bool := (w.results relay).map (·.accepted)

/-- What results, the last first, make of a new endpoint. -/
def replayed (config : RelayHealthConfig) (results : List Recorded) : EndpointState :=
  results.foldr (fun r endpoint =>
    recordResult endpoint r.result config.successThreshold config.failureThreshold) {}

def RelayHealthConfig.Fits (config : RelayHealthConfig) : Prop :=
  config.successThreshold ≤ u32Max ∧ config.failureThreshold ≤ u32Max

/-- The generation and the configuration of the cycle. -/
def Prober.cycle : Prober → Option (Nat × RelayHealthConfig)
  | .probing generation config | .recording generation config _ => some (generation, config)
  | .absent | .waiting => none

/-- A result of the endpoint has been recorded. -/
def Health.Seen (w : Health) (endpoint : RelayEndpointConfig) : Prop :=
  ∃ r ∈ w.log, r.relay = toAsciiLowercase endpoint.relay

/-- Every number is for one configuration. -/
structure Health.Ordered (w : Health) : Prop where
  distinct : (w.calls.map (·.generation)).Nodup
  calls : ∀ call ∈ w.calls, 0 < call.generation ∧ call.generation ≤ w.counter ∧
    call.generation ≠ w.state.generation ∧ call.config.Fits
  state : w.state.generation ≤ w.counter
  fits : w.state.config.Fits
  cycle : ∀ generation config, w.prober.cycle = some (generation, config) →
    generation ≤ w.counter ∧ (∀ call ∈ w.calls, call.generation ≠ generation) ∧
      (generation = w.state.generation → config = w.state.config)

/-- The state is what the results of its own generation make of it. -/
structure Health.Kept (w : Health) : Prop where
  current : ∀ r ∈ w.log, r.generation = w.state.generation
  present : ∀ endpoint ∈ w.state.config.endpoints,
    (w.state.endpoints.get (toAsciiLowercase endpoint.relay)).isSome = true
  judged : ∀ relay endpoint, w.state.endpoints.get relay = some endpoint →
    endpoint = replayed w.state.config (w.results relay) ∧
      Judged w.state.config (w.outcomes relay) endpoint
  recording : ∀ generation config results, w.prober = .recording generation config results →
    generation = w.state.generation → ∀ endpoint ∈ config.endpoints,
      endpoint.relay ∈ results.map Prod.fst ∨ w.Seen endpoint
  completed : w.state.completedGeneration = w.state.generation →
    ∀ endpoint ∈ w.state.config.endpoints, w.Seen endpoint

section Runs

variable {w w' : Health} {config : RelayHealthConfig} {relay : String}
  {result : Except String ProbeSuccess}

theorem Health.Ordered.init : Health.init.Ordered :=
  ⟨by simp [Health.init], by simp [Health.init], Nat.le_refl _, ⟨by decide, by decide⟩,
    fun _ _ h => by cases h⟩

theorem Health.Kept.init : Health.init.Kept := by
  refine ⟨by simp [Health.init], by simp [Health.init, HealthState.initial], fun relay e he => ?_,
    nofun,
    by simp [Health.init, HealthState.initial]⟩
  have hempty : (Table.empty : Table String EndpointState).get relay = some e := he
  rw [Table.get_empty] at hempty
  cases hempty

/-- The cycle, the calls and the generation stay as they are. -/
theorem Health.Ordered.same (h : w.Ordered) (hcounter : w'.counter = w.counter)
    (hcalls : w'.calls = w.calls) (hgeneration : w'.state.generation = w.state.generation)
    (hconfig : w'.state.config = w.state.config)
    (hcycle : ∀ generation config, w'.prober.cycle = some (generation, config) →
      w.prober.cycle = some (generation, config)) : w'.Ordered := by
  refine ⟨hcalls ▸ h.distinct, ?_, ?_, hconfig ▸ h.fits, fun generation config heq => ?_⟩
  · rw [hcalls, hcounter, hgeneration]
    exact h.calls
  · rw [hcounter, hgeneration]
    exact h.state
  · rw [hcalls, hcounter, hgeneration, hconfig]
    exact h.cycle generation config (hcycle generation config heq)

theorem recordUnder_generation (config : RelayHealthConfig) (generation : Nat) (relay : String)
    (result : Except String ProbeSuccess) (s : HealthState) :
    (recordUnder config generation relay result s).generation = s.generation ∧
      (recordUnder config generation relay result s).completedGeneration = s.completedGeneration ∧
      (recordUnder config generation relay result s).config = s.config := by
  unfold recordUnder
  split
  · exact ⟨rfl, rfl, rfl⟩
  · split <;> exact ⟨rfl, rfl, rfl⟩

theorem finishCycle_generation (generation : Nat) (s : HealthState) :
    (finishCycle generation s).generation = s.generation ∧
      (finishCycle generation s).config = s.config ∧
      (finishCycle generation s).endpoints = s.endpoints := by
  unfold finishCycle
  split <;> exact ⟨rfl, rfl, rfl⟩

theorem Health.Ordered.write {i : Nat} {call : Numbered} {prober : Prober} (h : w.Ordered)
    (hcall : w.calls[i]? = some call)
    (hprober : prober.cycle = w.prober.cycle) :
    Health.Ordered { w with
      calls := w.calls.eraseIdx i
      state := call.state w.state
      prober := prober
      log := [] } := by
  obtain ⟨hlt, rfl⟩ := List.getElem?_eq_some_iff.mp hcall
  have hmem : ∀ other ∈ w.calls.eraseIdx i, other ∈ w.calls := fun other ho =>
    List.mem_of_mem_eraseIdx ho
  have hperm : (w.calls[i] :: w.calls.eraseIdx i).Perm w.calls := List.getElem_cons_eraseIdx_perm hlt
  have hdistinct := (hperm.map (·.generation)).nodup_iff.mpr h.distinct
  rw [List.map_cons, List.nodup_cons] at hdistinct
  obtain ⟨-, hle, -, hfits⟩ := h.calls _ (List.getElem_mem hlt)
  refine ⟨hdistinct.2, fun other ho => ?_, hle, hfits, fun generation config heq => ?_⟩
  · obtain ⟨hpos, hle, -, hfits⟩ := h.calls other (hmem other ho)
    refine ⟨hpos, hle, fun heq => hdistinct.1 ?_, hfits⟩
    have heq : other.generation = w.calls[i].generation := heq
    exact heq ▸ List.mem_map_of_mem ho
  · obtain ⟨hle, hother, -⟩ := h.cycle generation config (hprober ▸ heq)
    exact ⟨hle, fun other ho => hother other (hmem other ho),
      fun heq => absurd heq.symm (hother _ (List.getElem_mem hlt))⟩

theorem Health.Ordered.number {enabled : Bool} (h : w.Ordered) (hfits : config.Fits) :
    Health.Ordered { w with
      counter := w.counter + 1
      calls := w.calls ++ [⟨w.counter + 1, enabled, config⟩] } := by
  refine ⟨?_, fun call hc => ?_, Nat.le_succ_of_le h.state, h.fits, fun generation c heq => ?_⟩
  · rw [List.map_append, List.nodup_append]
    refine ⟨h.distinct, List.nodup_singleton _, fun g hg g' hg' => ?_⟩
    obtain ⟨call, hc, rfl⟩ := List.mem_map.mp hg
    rw [List.mem_singleton.mp hg']
    exact (Nat.lt_succ_of_le (h.calls call hc).2.1).ne
  · rcases List.mem_append.mp hc with hc | hc
    · obtain ⟨hpos, hle, hne, hfits⟩ := h.calls call hc
      exact ⟨hpos, Nat.le_succ_of_le hle, hne, hfits⟩
    · rw [List.mem_singleton.mp hc]
      exact ⟨Nat.succ_pos _, Nat.le_refl _, (Nat.lt_succ_of_le h.state).ne', hfits⟩
  · obtain ⟨hle, hother, hconfig⟩ := h.cycle generation c heq
    refine ⟨Nat.le_succ_of_le hle, fun call hc => ?_, hconfig⟩
    rcases List.mem_append.mp hc with hc | hc
    · exact hother call hc
    · rw [List.mem_singleton.mp hc]
      exact (Nat.lt_succ_of_le hle).ne'

theorem Health.Kept.write {i : Nat} {call : Numbered} {prober : Prober} (h : w.Ordered)
    (hcall : w.calls[i]? = some call) (hprober : prober.cycle = w.prober.cycle) :
    Health.Kept { w with
      calls := w.calls.eraseIdx i
      state := call.state w.state
      prober := prober
      log := [] } := by
  have hmem := List.mem_of_getElem? hcall
  obtain ⟨hpos, -, -, -⟩ := h.calls call hmem
  refine ⟨?_, fun endpoint he => ?_, fun relay endpoint he => ?_, ?_, ?_⟩
  · exact fun r hr => absurd hr List.not_mem_nil
  · exact Table.isSome_get_foldl_insert (f := fun endpoint : RelayEndpointConfig =>
      toAsciiLowercase endpoint.relay) _ (.inl he)
  · obtain ⟨_, -, -, rfl⟩ | hempty := Table.mem_of_get_foldl_insert
      (f := fun endpoint : RelayEndpointConfig => toAsciiLowercase endpoint.relay) he
    · exact ⟨rfl, .initial _⟩
    · rw [Table.get_empty] at hempty
      cases hempty
  · intro generation config results heq hgeneration
    have hcycle : w.prober.cycle = some (generation, config) := by
      rw [← hprober, show prober = .recording generation config results from heq]
      rfl
    exact absurd hgeneration.symm ((h.cycle generation config hcycle).2.1 call hmem)
  · intro hcompleted
    have hzero : 0 = call.generation := hcompleted
    omega

/-- The endpoints and the log stay as they are. -/
theorem Health.Kept.same (h : w.Kept) (hlog : w'.log = w.log)
    (hgeneration : w'.state.generation = w.state.generation)
    (hconfig : w'.state.config = w.state.config)
    (hendpoints : w'.state.endpoints = w.state.endpoints)
    (hrecording : ∀ generation config results, w'.prober = .recording generation config results →
      generation = w'.state.generation → ∀ endpoint ∈ config.endpoints,
        endpoint.relay ∈ results.map Prod.fst ∨ w'.Seen endpoint)
    (hcompleted : w'.state.completedGeneration = w'.state.generation →
      ∀ endpoint ∈ w'.state.config.endpoints, w'.Seen endpoint) : w'.Kept := by
  refine ⟨?_, ?_, ?_, hrecording, hcompleted⟩
  · rw [hlog, hgeneration]
    exact h.current
  · rw [hconfig, hendpoints]
    exact h.present
  · unfold Health.outcomes Health.results
    rw [hconfig, hendpoints, hlog]
    exact h.judged

/-- A result of an older cycle changes nothing. -/
theorem recordUnder_stale (config : RelayHealthConfig) (relay : String)
    (result : Except String ProbeSuccess) {generation : Nat} {s : HealthState}
    (h : s.generation ≠ generation) :
    recordUnder config generation relay result s = s ∧
      noteRecorded generation relay result s = [] := ⟨if_pos h, if_pos h⟩

theorem recordUnder_current (config : RelayHealthConfig) (result : Except String ProbeSuccess)
    {generation : Nat} {s : HealthState} {endpoint : EndpointState}
    (h : s.generation = generation)
    (hget : s.endpoints.get (toAsciiLowercase relay) = some endpoint) :
    (recordUnder config generation relay result s).endpoints =
        s.endpoints.insert (toAsciiLowercase relay)
          (recordResult endpoint result config.successThreshold config.failureThreshold) ∧
      noteRecorded generation relay result s =
        [⟨generation, toAsciiLowercase relay, result, accepted endpoint result⟩] := by
  unfold recordUnder noteRecorded
  rw [if_neg (not_not.mpr h), if_neg (not_not.mpr h), hget]
  exact ⟨rfl, rfl⟩

/-- The next result of a cycle. -/
theorem Health.Kept.record {generation : Nat} {results : List (String × Except String ProbeSuccess)}
    (ho : w.Ordered) (h : w.Kept)
    (hprober : w.prober = .recording generation config ((relay, result) :: results)) :
    Health.Kept { w with
      state := recordUnder config generation relay result w.state
      prober := .recording generation config results
      log := noteRecorded generation relay result w.state ++ w.log } := by
  have hseen : ∀ {w' : Health} endpoint, (∀ r ∈ w.log, r ∈ w'.log) → w.Seen endpoint →
      w'.Seen endpoint := fun endpoint hlog ⟨r, hr, heq⟩ => ⟨r, hlog r hr, heq⟩
  by_cases hgeneration : w.state.generation = generation
  · have hcycle := (ho.cycle generation config (by rw [hprober]; rfl)).2.2 hgeneration.symm
    subst hcycle hgeneration
    have hrecording := h.recording _ _ _ hprober rfl
    obtain ⟨hsame, hsameCompleted, hsameConfig⟩ :=
      recordUnder_generation w.state.config w.state.generation relay result w.state
    cases hget : w.state.endpoints.get (toAsciiLowercase relay) with
    | none =>
      have hnone : recordUnder w.state.config w.state.generation relay result w.state = w.state ∧
          noteRecorded w.state.generation relay result w.state = [] := by
        unfold recordUnder noteRecorded
        rw [hget]
        simp
      rw [hnone.1, hnone.2]
      refine h.same rfl rfl rfl rfl (fun g c rs heq _ endpoint he => ?_) h.completed
      cases heq
      rcases hrecording endpoint he with hmem | hseen
      · rcases List.mem_cons.mp hmem with heq | hmem
        · have hsome := h.present endpoint he
          rw [heq, hget] at hsome
          cases hsome
        · exact .inl hmem
      · exact .inr hseen
    | some endpoint =>
      obtain ⟨hendpoints, hlog⟩ := recordUnder_current w.state.config result rfl hget
      rw [hlog]
      refine ⟨fun r hr => ?_, fun e he => ?_, fun key e he => ?_, fun g c rs heq hg e he => ?_,
        fun hcompleted e he => hseen e (fun r hr => List.mem_cons_of_mem _ hr) ?_⟩
      · rcases List.mem_cons.mp hr with rfl | hr
        · exact hsame.symm
        · exact (h.current r hr).trans hsame.symm
      · change ((recordUnder _ _ _ _ _).endpoints.get _).isSome = true
        rw [hendpoints]
        exact Table.isSome_get_insert _ (h.present e (hsameConfig ▸ he))
      · change (recordUnder _ _ _ _ _).endpoints.get key = some e at he
        rw [hendpoints, Table.get_insert] at he
        dsimp only
        rw [hsameConfig]
        split at he
        · rename_i hkey
          subst hkey
          cases he
          obtain ⟨hreplayed, hjudged⟩ := h.judged _ endpoint hget
          have hresults : Health.results { w with
              log := ⟨w.state.generation, toAsciiLowercase relay, result,
                accepted endpoint result⟩ :: w.log } (toAsciiLowercase relay) =
              ⟨w.state.generation, toAsciiLowercase relay, result, accepted endpoint result⟩ ::
                w.results (toAsciiLowercase relay) := List.filter_cons_of_pos (beq_self_eq_true _)
          refine ⟨?_, ?_⟩
          · refine Eq.trans ?_ (congrArg (replayed w.state.config) hresults).symm
            conv_lhs => rw [hreplayed]
            rfl
          · have hjudged := hjudged.recordResult result ho.fits.1 ho.fits.2
            refine Eq.subst (motive := fun os => Judged _ os _) ?_ hjudged
            exact (congrArg (List.map Recorded.accepted) hresults).symm
        · rename_i hkey
          have hresults : Health.results { w with
              log := ⟨w.state.generation, toAsciiLowercase relay, result,
                accepted endpoint result⟩ :: w.log } key = w.results key :=
            List.filter_cons_of_neg (by simpa using Ne.symm hkey)
          have hjudged := h.judged key e he
          refine ⟨hjudged.1.trans (congrArg (replayed w.state.config) hresults).symm, ?_⟩
          refine Eq.subst (motive := fun os => Judged _ os _) ?_ hjudged.2
          exact (congrArg (List.map Recorded.accepted) hresults).symm
      · cases heq
        rcases hrecording e he with hmem | hold
        · rcases List.mem_cons.mp hmem with heq | hmem
          · exact .inr ⟨_, List.mem_cons_self, by rw [heq]⟩
          · exact .inl hmem
        · exact .inr (hseen e (fun r hr => List.mem_cons_of_mem _ hr) hold)
      · change (recordUnder _ _ _ _ _).completedGeneration = (recordUnder _ _ _ _ _).generation
          at hcompleted
        rw [hsameCompleted, hsame] at hcompleted
        exact h.completed hcompleted e (hsameConfig ▸ he)
  · obtain ⟨hstate, hlog⟩ := recordUnder_stale config relay result hgeneration
    rw [hstate, hlog]
    refine h.same rfl rfl rfl rfl (fun g c rs heq hg => ?_) h.completed
    cases heq
    exact absurd hg.symm hgeneration

/-- The end of a cycle. -/
theorem Health.Kept.finish {generation : Nat} (ho : w.Ordered) (h : w.Kept)
    (hprober : w.prober = .recording generation config []) :
    Health.Kept { w with state := finishCycle generation w.state, prober := .waiting } := by
  obtain ⟨hgeneration, hconfig, hendpoints⟩ := finishCycle_generation generation w.state
  refine h.same rfl hgeneration hconfig hendpoints nofun fun hcompleted endpoint he => ?_
  change endpoint ∈ (finishCycle generation w.state).config.endpoints at he
  rw [hconfig] at he
  by_cases hg : w.state.generation = generation
  · have hcycle := (ho.cycle generation config (by rw [hprober]; rfl)).2.2 hg.symm
    have hrecording := h.recording _ _ _ hprober hg.symm endpoint (hcycle ▸ he)
    exact hrecording.resolve_left List.not_mem_nil
  · have hsame : finishCycle generation w.state = w.state := if_neg fun h => hg h.1
    refine h.completed ?_ endpoint he
    have hcompleted : (finishCycle generation w.state).completedGeneration =
        (finishCycle generation w.state).generation := hcompleted
    rw [hsame] at hcompleted
    exact hcompleted

theorem Health.step_kept {m : CycleMove} (ho : w.Ordered) (h : w.Kept)
    (hw : w.step m = some w') : w'.Ordered ∧ w'.Kept := by
  cases m with
  | number enabled config =>
    simp only [Health.step] at hw
    split at hw
    · rename_i hfits
      cases hw
      exact ⟨ho.number hfits, h.same rfl rfl rfl rfl h.recording h.completed⟩
    · cases hw
  | write i =>
    obtain ⟨call, hcall, rfl⟩ := Option.map_eq_some_iff.mp hw
    have hprober : (match w.prober with
        | .absent => Prober.waiting
        | prober => prober).cycle = w.prober.cycle := by
      cases w.prober <;> rfl
    exact ⟨ho.write hcall hprober, .write ho hcall hprober⟩
  | read =>
    simp only [Health.step] at hw
    split at hw
    · split at hw
      · cases hw
        refine ⟨?_, h.same rfl rfl rfl rfl nofun h.completed⟩
        refine ⟨ho.distinct, ho.calls, ho.state, ho.fits, fun generation config heq => ?_⟩
        cases heq
        exact ⟨ho.state, fun call hc => (ho.calls call hc).2.2.1, fun _ => rfl⟩
      · cases hw
    · cases hw
  | collected results =>
    simp only [Health.step] at hw
    split at hw
    · rename_i generation config hprober
      split at hw
      · rename_i hperm
        cases hw
        refine ⟨ho.same rfl rfl rfl rfl fun g c heq => ?_,
          h.same rfl rfl rfl rfl (fun g c rs heq hg endpoint he => ?_) h.completed⟩
        · rw [hprober]
          exact heq
        · cases heq
          exact .inl ((List.isPerm_iff.mp hperm).mem_iff.mpr (List.mem_map_of_mem he))
      · cases hw
    · cases hw
  | advance =>
    simp only [Health.step] at hw
    split at hw
    · rename_i generation config relay result results hprober
      cases hw
      obtain ⟨hsame, -, hconfig⟩ :=
        recordUnder_generation config generation relay result w.state
      refine ⟨ho.same rfl rfl hsame hconfig fun g c heq => ?_, .record ho h hprober⟩
      rw [hprober]
      exact heq
    · rename_i generation config hprober
      cases hw
      obtain ⟨hsame, hconfig, -⟩ := finishCycle_generation generation w.state
      exact ⟨ho.same rfl rfl hsame hconfig nofun, .finish ho h hprober⟩
    · cases hw

/-- What is known of an endpoint from its outcomes, the last first. -/
structure EndpointSound (config : RelayHealthConfig) (outcomes : List Bool)
    (endpoint : EndpointState) : Prop where
  healthy : endpoint.status = .healthy ↔ ∃ n, lastReached config outcomes = some (true, n)
  unknown : endpoint.status = .unknown ↔ lastReached config outcomes = none
  counters : ¬ (0 < endpoint.consecutiveSuccesses ∧ 0 < endpoint.consecutiveFailures)
  load : endpoint.load.isSome = true → outcomes.head? = some true

theorem current_or (outcomes : List Bool) :
    current true outcomes = 0 ∨ current false outcomes = 0 := by
  cases outcomes with
  | nil => exact .inl rfl
  | cons o outcomes =>
    rw [current_cons, current_cons]
    cases o
    · exact .inl rfl
    · exact .inr rfl

theorem Judged.sound {outcomes : List Bool} {endpoint : EndpointState}
    (h : Judged config outcomes endpoint) : EndpointSound config outcomes endpoint := by
  refine ⟨?_, ?_, ?_, h.load⟩
  · rw [h.status]
    constructor
    · intro hverdict
      cases hlast : lastReached config outcomes with
      | none =>
        rw [hlast] at hverdict
        cases hverdict
      | some run =>
        obtain ⟨b, n⟩ := run
        rw [hlast] at hverdict
        cases b
        · cases hverdict
        · exact ⟨n, rfl⟩
    · rintro ⟨n, hlast⟩
      rw [hlast]
      rfl
  · rw [h.status]
    constructor
    · intro hverdict
      cases hlast : lastReached config outcomes with
      | none => rfl
      | some run =>
        obtain ⟨b, n⟩ := run
        rw [hlast] at hverdict
        cases b <;> cases hverdict
    · intro hlast
      rw [hlast]
      rfl
  · rw [h.successes, h.failures]
    have hor := current_or outcomes
    omega

/-- A snapshot that is ready speaks of its own configuration, and every endpoint is what the results
of its own generation make of it. -/
theorem ready_endpoints_probed (w : Health) (h : Reachable (Steps Health.step) .init w) :
    (∀ now maxTelemetryAgeSeconds,
      (runtimeSnapshot now maxTelemetryAgeSeconds w.state).isReady = true →
      ∀ endpoint ∈ w.state.config.endpoints, w.Seen endpoint) ∧
    (∀ r ∈ w.log, r.generation = w.state.generation) ∧
    ∀ relay endpoint, w.state.endpoints.get relay = some endpoint →
      endpoint = replayed w.state.config (w.results relay) ∧
      EndpointSound w.state.config (w.outcomes relay) endpoint := by
  have hkept : w.Ordered ∧ w.Kept :=
    h.invariant ⟨.init, .init⟩ fun _ _ _ hw hn => Health.step_kept hw.1 hw.2 hn.2
  refine ⟨fun now age hready => hkept.2.completed ?_, hkept.2.current, fun relay endpoint he => ?_⟩
  · simp only [RelayObserver.RuntimeHealthSnapshot.isReady, Bool.and_eq_true, beq_iff_eq] at hready
    exact hready.2
  · obtain ⟨hreplayed, hjudged⟩ := hkept.2.judged relay endpoint he
    exact ⟨hreplayed, hjudged.sound⟩

end Runs

/-! ## A concrete run -/

def sampleEndpoint : RelayEndpointConfig := ⟨"relay-a", "wss://relay-a/ws/relay", none, none⟩

def sampleHealthConfig : RelayHealthConfig := ⟨[sampleEndpoint], 1, 1⟩

def sampleSuccess : ProbeSuccess := ⟨5, none, some 1, some 1, none⟩

/-- A second configuration is written while the first one is probed. -/
def overtaken : List CycleMove :=
  [.number true sampleHealthConfig, .write 0, .read, .number true sampleHealthConfig, .write 0,
    .collected [("relay-a", .error "probe_timeout")], .advance, .advance, .read,
    .collected [("relay-a", .ok sampleSuccess)], .advance, .advance]

def afterOvertaken : Option Health := exec Health.step (fun _ _ => true) .init overtaken

theorem ready_endpoints_probed_overtaken : ∃ w, afterOvertaken = some w ∧
    w.state.generation = 2 ∧ w.state.completedGeneration = 2 ∧ w.Seen sampleEndpoint := by
  have hrun : (afterOvertaken.map fun w => (w.state.enabled, w.state.generation,
      w.state.completedGeneration, w.state.config.endpoints)) =
        some (true, 2, 2, [sampleEndpoint]) := by rfl
  obtain ⟨w, hw, hrun⟩ := Option.map_eq_some_iff.mp hrun
  simp only [Prod.mk.injEq] at hrun
  obtain ⟨henabled, hgeneration, hcompleted, hendpoints⟩ := hrun
  have hsound := ready_endpoints_probed w ⟨_, .of_exec hw⟩
  refine ⟨w, hw, hgeneration, hcompleted, hsound.1 0 0 ?_ sampleEndpoint (by simp [hendpoints])⟩
  simp [RelayObserver.RuntimeHealthSnapshot.isReady, runtimeSnapshot, henabled, hgeneration,
    hcompleted]

end Starry.RelayHealth
