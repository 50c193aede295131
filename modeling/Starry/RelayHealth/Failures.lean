import Starry.Library.Text
import Starry.RelayHealth.Cycles

/-!
# Texts of failed probes

A failed probe is described by a text of at most 240 bytes, and a text whose byte 240 lies within a
character cannot be cut there: the health task panics. It is spawned once, so nothing starts it
again.
-/

open Library Library.Text

namespace Starry.RelayHealth

/-! ## Texts -/

def maxErrorBytes : Nat := 240

/-- `String::truncate`, without a result where it panics. -/
def truncate (text : List Char) (length : Nat) : Option (List Char) :=
  if byteLen text ≤ length then some text else sliceTo text length

def replaceByBlank (c : Char) (text : List Char) : List Char :=
  text.map fun d => if d = c then ' ' else d

def sanitizeError (error : String) : Option String :=
  (truncate (replaceByBlank '\n' (replaceByBlank '\r' error.toList)) maxErrorBytes).map
    String.ofList

structure ProbeFailure where
  code : String
  message : String
deriving DecidableEq, Repr

def ProbeFailure.new (code message : String) : Option ProbeFailure :=
  (sanitizeError message).map fun message => ⟨code, message⟩

/-- The text is short enough, or a character ends at its byte 240. -/
def FitsLimit (text : String) : Prop :=
  byteLen text.toList ≤ maxErrorBytes ∨
    ∃ start, start <+: text.toList ∧ byteLen start = maxErrorBytes

theorem size_replaced {c : Char} (hc : c.utf8Size = 1) (d : Char) :
    (if d = c then ' ' else d).utf8Size = d.utf8Size := by
  split
  · rename_i hd
    rw [hd, hc]
    rfl
  · rfl

theorem truncate_replaceByBlank {c : Char} (hc : c.utf8Size = 1) (text : List Char) (n : Nat) :
    truncate (replaceByBlank c text) n = (truncate text n).map (replaceByBlank c) := by
  unfold truncate replaceByBlank
  rw [byteLen_map (size_replaced hc), sliceTo_map (size_replaced hc)]
  split <;> rfl

theorem isSome_truncate {text : List Char} {n : Nat} :
    (truncate text n).isSome = true ↔
      byteLen text ≤ n ∨ ∃ start, start <+: text ∧ byteLen start = n := by
  unfold truncate
  split
  · rename_i hshort
    simp [hshort]
  · rename_i hlong
    rw [Option.isSome_iff_exists]
    simp only [sliceTo_eq_some, hlong, false_or]

theorem isSome_new {code text : String} :
    (ProbeFailure.new code text).isSome = true ↔ FitsLimit text := by
  unfold ProbeFailure.new sanitizeError FitsLimit
  rw [Option.isSome_map, Option.isSome_map, truncate_replaceByBlank (by decide),
    truncate_replaceByBlank (by decide), Option.isSome_map, Option.isSome_map, isSome_truncate]

/-! ## The task -/

/-- What a probe comes to. A failure has its code and the text that is passed to
`ProbeFailure::new`. -/
abbrev Outcome := Except (String × String) ProbeSuccess

def finishProbe : Outcome → Option (Except ProbeFailure ProbeSuccess)
  | .ok success => some (.ok success)
  | .error (code, text) => (ProbeFailure.new code text).map .error

/-- What `collect_bounded` returns, in the order in which the probes ended. -/
def collectBounded :
    List (String × Outcome) → Option (List (String × Except ProbeFailure ProbeSuccess))
  | [] => some []
  | (relay, outcome) :: probes => do
    let result ← finishProbe outcome
    let results ← collectBounded probes
    return (relay, result) :: results

/-- `record`, with the failure that it makes of a replay. -/
def recordReturning (config : RelayHealthConfig) (generation : Nat) (relay : String)
    (result : Except String ProbeSuccess) (s : HealthState) : Option HealthState :=
  if s.generation ≠ generation then some s
  else match s.endpoints.get (toAsciiLowercase relay), result with
    | some endpoint, .ok success =>
      if isReplay endpoint success then
        (ProbeFailure.new "telemetry_sequence_replay"
          "telemetry sequence or uptime did not advance monotonically").map fun _ =>
            recordUnder config generation relay result s
      else some (recordUnder config generation relay result s)
    | _, _ => some (recordUnder config generation relay result s)

/-- The health task. One that has panicked is not started again: `STARTED` stays set. -/
structure Task where
  health : Health
  stopped : Bool

def Task.init : Task := ⟨.init, false⟩

inductive TaskMove
  /-- `reconfigure` takes a number, and writes the state. -/
  | number (enabled : Bool) (config : RelayHealthConfig)
  | write (i : Nat)
  /-- The task reads the state. -/
  | read
  /-- Its probes have ended. -/
  | collected (probes : List (String × Outcome))
  /-- It records the next result, or ends its cycle. -/
  | advance

def Task.become (t : Task) (health : Option Health) : Option Task :=
  health.map fun health => { t with health }

def Task.step (t : Task) : TaskMove → Option Task
  | .number enabled config => t.become (t.health.step (.number enabled config))
  | .write i => t.become (t.health.step (.write i))
  | .read => if t.stopped then none else t.become (t.health.step .read)
  | .collected probes =>
    if t.stopped then none
    else match t.health.prober with
      | .probing _ config =>
        if (probes.map Prod.fst).isPerm (config.endpoints.map (·.relay)) then
          match collectBounded probes with
          | none => some { t with stopped := true }
          | some results => t.become (t.health.step (.collected
              (results.map fun r => (r.1, r.2.mapError (·.code)))))
        else none
      | _ => none
  | .advance =>
    if t.stopped then none
    else match t.health.prober with
      | .recording generation config ((relay, result) :: _) =>
        match recordReturning config generation relay result t.health.state with
        | none => some { t with stopped := true }
        | some _ => t.become (t.health.step .advance)
      | _ => t.become (t.health.step .advance)

/-! ## Steps -/

/-- Every failure of the probes has a text that fits. -/
def TaskMove.Fits : TaskMove → Prop
  | .collected probes =>
    ∀ relay code text, (relay, .error (code, text)) ∈ probes → FitsLimit text
  | _ => True

section Steps

variable {t t' : Task} {m : TaskMove} {health : Option Health}

theorem Task.of_become (h : t.become health = some t') :
    health = some t'.health ∧ t'.stopped = t.stopped := by
  obtain ⟨health', hhealth, rfl⟩ := Option.map_eq_some_iff.mp h
  exact ⟨hhealth, rfl⟩

theorem isSome_finishProbe {outcome : Outcome} :
    (finishProbe outcome).isSome = true ↔
      ∀ code text, outcome = .error (code, text) → FitsLimit text := by
  cases outcome with
  | ok success => simp [finishProbe]
  | error failure =>
    obtain ⟨code, text⟩ := failure
    rw [finishProbe, Option.isSome_map, isSome_new]
    constructor
    · rintro hfits code' text' ⟨⟩
      exact hfits
    · intro h
      exact h code text rfl

/-- All the probes return if every failure among them does. -/
theorem isSome_collectBounded {probes : List (String × Outcome)} :
    (collectBounded probes).isSome = true ↔ (TaskMove.collected probes).Fits := by
  induction probes with
  | nil => simp [collectBounded, TaskMove.Fits]
  | cons probe probes ih =>
    obtain ⟨relay, outcome⟩ := probe
    have hboth : (collectBounded ((relay, outcome) :: probes)).isSome = true ↔
        (finishProbe outcome).isSome = true ∧ (collectBounded probes).isSome = true := by
      rw [collectBounded]
      cases finishProbe outcome <;> cases collectBounded probes <;> simp
    rw [hboth, ih, isSome_finishProbe]
    unfold TaskMove.Fits
    constructor
    · rintro ⟨hfirst, hrest⟩ relay' code text hmem
      rcases List.mem_cons.mp hmem with heq | hmem
      · exact hfirst code text (Prod.mk.inj heq).2.symm
      · exact hrest relay' code text hmem
    · intro h
      refine ⟨fun code text heq => h relay code text ?_, fun relay' code text hmem =>
        h relay' code text (List.mem_cons_of_mem _ hmem)⟩
      rw [heq]
      exact List.mem_cons_self

theorem map_fst_collectBounded {probes : List (String × Outcome)}
    {results : List (String × Except ProbeFailure ProbeSuccess)}
    (h : collectBounded probes = some results) : results.map Prod.fst = probes.map Prod.fst := by
  induction probes generalizing results with
  | nil =>
    cases h
    rfl
  | cons probe probes ih =>
    obtain ⟨relay, outcome⟩ := probe
    rw [collectBounded] at h
    obtain ⟨result, -, h⟩ := Option.bind_eq_some_iff.mp h
    obtain ⟨rest, hrest, h⟩ := Option.bind_eq_some_iff.mp h
    cases h
    exact congrArg (relay :: ·) (ih hrest)

/-- `record` always returns: the text of a replay is short. -/
theorem recordReturning_eq (config : RelayHealthConfig) (generation : Nat) (relay : String)
    (result : Except String ProbeSuccess) (s : HealthState) :
    recordReturning config generation relay result s =
      some (recordUnder config generation relay result s) := by
  have hreplay : (ProbeFailure.new "telemetry_sequence_replay"
      "telemetry sequence or uptime did not advance monotonically").isSome = true := by
    decide
  obtain ⟨failure, hfailure⟩ := Option.isSome_iff_exists.mp hreplay
  unfold recordReturning
  split
  · rename_i hgeneration
    rw [recordUnder, if_pos hgeneration]
  · split
    · rw [hfailure, Option.map_some, ite_self]
    · rfl

theorem Task.step_advance (h : t.stopped = false) :
    t.step .advance = t.become (t.health.step .advance) := by
  rw [Task.step, h, if_neg (by decide)]
  split
  · rw [recordReturning_eq]
  · rfl

/-- Only probes with a text that does not fit stop the task. -/
theorem Task.stopped_step (h : t.step m = some t') :
    t'.stopped = false ↔ t.stopped = false ∧ m.Fits := by
  have hkeeps : ∀ {health}, t.become health = some t' → m.Fits →
      (t'.stopped = false ↔ t.stopped = false ∧ m.Fits) := by
    intro health hbecome hfits
    rw [(Task.of_become hbecome).2]
    exact ⟨fun hs => ⟨hs, hfits⟩, fun hs => hs.1⟩
  cases m with
  | number enabled config => exact hkeeps h trivial
  | write i => exact hkeeps h trivial
  | read =>
    rw [Task.step] at h
    split at h
    · cases h
    · exact hkeeps h trivial
  | collected probes =>
    rw [Task.step] at h
    split at h
    · cases h
    rename_i hstopped
    rw [Bool.not_eq_true] at hstopped
    split at h
    · split at h
      · split at h
        · rename_i hnone
          cases h
          have hunfit : ¬ (TaskMove.collected probes).Fits := by
            rw [← isSome_collectBounded, hnone]
            simp
          simp [hunfit]
        · rename_i results hresults
          refine hkeeps h (isSome_collectBounded.mp ?_)
          rw [hresults]
          rfl
      · cases h
    · cases h
  | advance =>
    by_cases hstopped : t.stopped = true
    · rw [Task.step, if_pos hstopped] at h
      cases h
    · rw [Task.step_advance (by simpa using hstopped)] at h
      exact hkeeps h trivial

/-! ## Runs -/

/-- A panic is the only way to stop, and nothing undoes it. -/
theorem Task.stopped_run {ms : List TaskMove} (h : Run (Steps Task.step) t ms t') :
    t'.stopped = false ↔ t.stopped = false ∧ ∀ m ∈ ms, m.Fits := by
  induction h with
  | nil => simp
  | snoc _ hn ih =>
    rw [Task.stopped_step hn.2, ih]
    simp only [List.mem_append, List.mem_singleton]
    constructor
    · rintro ⟨⟨hs, hms⟩, hm⟩
      refine ⟨hs, fun m' hm' => ?_⟩
      rcases hm' with hm' | rfl
      · exact hms m' hm'
      · exact hm
    · rintro ⟨hs, hms⟩
      exact ⟨⟨hs, fun m hm => hms m (.inl hm)⟩, hms _ (.inr rfl)⟩

def TaskMove.isAdvance : TaskMove → Bool
  | .advance => true
  | _ => false

/-- The cycle comes to its end: probes whose texts fit are recorded, and after a step for each
result the next one completes the generation, unless another one has taken its place. -/
structure Task.Completes (t : Task) : Prop where
  collects : ∀ generation config probes, t.health.prober = .probing generation config →
    (probes.map Prod.fst).Perm (config.endpoints.map (·.relay)) →
    (TaskMove.collected probes).Fits →
    ∃ results t', t.step (.collected probes) = some t' ∧
      t'.health.prober = .recording generation config results
  records : ∀ generation config results, t.health.prober = .recording generation config results →
    ∀ ms t', Run (Steps Task.step) t ms t' → ms.countP TaskMove.isAdvance = results.length →
      ∃ t'', t'.step .advance = some t'' ∧ t''.health.prober = .waiting ∧
        (t''.health.state.generation = generation →
          t''.health.state.completedGeneration = generation)

/-- What is left of a cycle that records its results. -/
theorem Task.recording_run {generation : Nat} {config : RelayHealthConfig}
    {results : List (String × Except String ProbeSuccess)} {ms : List TaskMove}
    (h : Run (Steps Task.step) t ms t') (hs : t.stopped = false)
    (hprober : t.health.prober = .recording generation config results)
    (hcount : ms.countP TaskMove.isAdvance ≤ results.length) :
    t'.stopped = false ∧ t'.health.prober =
      .recording generation config (results.drop (ms.countP TaskMove.isAdvance)) := by
  induction h with
  | nil => exact ⟨hs, hprober⟩
  | @snoc u t' ms m _ hn ih =>
    have hstep := hn.2
    rw [List.countP_append, List.countP_singleton] at hcount ⊢
    obtain ⟨hu, hrecording⟩ := ih (by omega)
    cases m with
    | number enabled config' =>
      obtain ⟨hhealth, hsame⟩ := Task.of_become hstep
      refine ⟨hsame.trans hu, ?_⟩
      simp only [Health.step] at hhealth
      split at hhealth
      · rw [← Option.some.inj hhealth]
        exact hrecording
      · cases hhealth
    | write i =>
      obtain ⟨hhealth, hsame⟩ := Task.of_become hstep
      refine ⟨hsame.trans hu, ?_⟩
      obtain ⟨call, -, heq⟩ := Option.map_eq_some_iff.mp hhealth
      rw [← heq]
      dsimp only
      rw [hrecording]
      rfl
    | read =>
      rw [Task.step, if_neg (by simp [hu])] at hstep
      have hhealth := (Task.of_become hstep).1
      simp [Health.step, hrecording] at hhealth
    | collected probes =>
      rw [Task.step, if_neg (by simp [hu]), hrecording] at hstep
      cases hstep
    | advance =>
      rw [Task.step_advance hu] at hstep
      obtain ⟨hhealth, hsame⟩ := Task.of_become hstep
      refine ⟨hsame.trans hu, ?_⟩
      have hless : ms.countP TaskMove.isAdvance < results.length := hcount
      rw [Health.step, hrecording, List.drop_eq_getElem_cons hless] at hhealth
      rw [← Option.some.inj hhealth]
      rfl

theorem finishCycle_completes (generation : Nat) (s : HealthState)
    (h : (finishCycle generation s).generation = generation) :
    (finishCycle generation s).completedGeneration = generation := by
  rw [(finishCycle_generation generation s).1] at h
  unfold finishCycle
  split
  · rfl
  · rename_i hdone
    by_contra hne
    exact hdone ⟨h, hne⟩

theorem Task.completes (hs : t.stopped = false) : t.Completes := by
  refine ⟨fun generation config probes hprober hperm hfits => ?_,
    fun generation config results hprober ms t' hrun hcount => ?_⟩
  · obtain ⟨results, hresults⟩ := Option.isSome_iff_exists.mp (isSome_collectBounded.mpr hfits)
    have hnames : (results.map fun r => (r.1, r.2.mapError (·.code))).map Prod.fst =
        probes.map Prod.fst := by
      rw [List.map_map, ← map_fst_collectBounded hresults]
      rfl
    refine ⟨results.map fun r => (r.1, r.2.mapError (·.code)), { t with health := { t.health with
      prober := .recording generation config (results.map fun r =>
        (r.1, r.2.mapError (·.code))) } }, ?_, rfl⟩
    · rw [Task.step, if_neg (by simp [hs]), hprober]
      dsimp only
      rw [if_pos (List.isPerm_iff.mpr hperm), hresults]
      dsimp only
      rw [Health.step, hprober]
      dsimp only
      rw [hnames, if_pos (List.isPerm_iff.mpr hperm)]
      rfl
  · obtain ⟨hs', hrecording⟩ := Task.recording_run hrun hs hprober hcount.le
    rw [hcount, List.drop_length] at hrecording
    refine ⟨{ t' with health := { t'.health with
      state := finishCycle generation t'.health.state, prober := .waiting } }, ?_, rfl,
      finishCycle_completes generation t'.health.state⟩
    rw [Task.step_advance hs', Health.step, hrecording]
    rfl

/-- A text that does not fit is the one thing that stops the health of the relays: without it every
cycle completes its generation, and after it no cycle ends any more. -/
theorem health_goes_on_iff {ms : List TaskMove} (h : Run (Steps Task.step) .init ms t) :
    (∀ code text, (ProbeFailure.new code text).isSome = true ↔ FitsLimit text) ∧
    (t.stopped = false ∧ t.Completes ↔ ∀ m ∈ ms, m.Fits) ∧
    (t.stopped = true → ∀ ms' t', Run (Steps Task.step) t ms' t' → t'.stopped = true) := by
  refine ⟨fun code text => isSome_new, ⟨fun hgoes => ?_, fun hfits => ?_⟩, fun hs ms' t' hrun => ?_⟩
  · exact ((Task.stopped_run h).mp hgoes.1).2
  · have hs : t.stopped = false := (Task.stopped_run h).mpr ⟨rfl, hfits⟩
    exact ⟨hs, Task.completes hs⟩
  · by_contra hnot
    rw [Bool.not_eq_true, Task.stopped_run hrun, hs] at hnot
    exact Bool.noConfusion hnot.1

end Steps

/-! ## A text of two-byte characters -/

/-- One configuration is probed once, and its relay fails with `text`. -/
def failing (text : String) : List TaskMove :=
  [.number true sampleHealthConfig, .write 0, .read,
    .collected [("relay-a", .error ("connect_failed", text))]]

def afterFailing (text : String) : Option Task :=
  exec Task.step (fun _ _ => true) .init (failing text)

/-- 241 bytes, of which byte 240 is within the last character. -/
def wideText : String := String.ofList ('a' :: List.replicate 120 'é')

/-- The task stops in the middle of its cycle. -/
theorem stops_at_wideText :
    ∃ t, Run (Steps Task.step) .init (failing wideText) t ∧ t.stopped = true ∧
      (ProbeFailure.new "connect_failed" wideText).isSome = false := by
  have hpanics : (afterFailing wideText).map (·.stopped) = some true := by
    decide +kernel
  obtain ⟨t, ht, hstopped⟩ := Option.map_eq_some_iff.mp hpanics
  exact ⟨t, .of_exec ht, hstopped, by decide +kernel⟩

/-- A refused connection is recorded, and the cycle goes on to its end. -/
theorem health_goes_on_iff_refused :
    ∃ t, Run (Steps Task.step) .init (failing "Connection refused (os error 111)") t ∧
      t.stopped = false ∧ t.Completes := by
  have hreturns : (afterFailing "Connection refused (os error 111)").map (·.stopped) =
      some false := by
    decide
  obtain ⟨t, ht, -⟩ := Option.map_eq_some_iff.mp hreturns
  have hrun : Run (Steps Task.step) .init (failing "Connection refused (os error 111)") t :=
    .of_exec ht
  refine ⟨t, hrun, (health_goes_on_iff hrun).2.1.mpr fun m hm => ?_⟩
  simp only [failing, List.mem_cons, List.not_mem_nil, or_false] at hm
  obtain rfl | rfl | rfl | rfl := hm
  · trivial
  · trivial
  · trivial
  · exact isSome_collectBounded.mp (by decide)

end Starry.RelayHealth
