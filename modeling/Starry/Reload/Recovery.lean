import Starry.Reload.Runtime

/-!
# A reload that fails

A reload that fails after the acknowledgement of the pool restores every part. One that stops
waiting for the acknowledgement returns at once and leaves its message behind, which the main loop
applies later.
-/

open Library

namespace Starry.Reload

variable {G W A : Type}

/-- There is one reload. -/
def single (s : State G W A) : Move G W A → Bool
  | .start _ => s.runs.isEmpty
  | _ => true

/-- The configuration before the reload can be prepared again. -/
def recovers : Move G W A → Bool
  | .revert _ geo websocket => geo.isOk && websocket.isOk
  | .restored _ auth => auth.isOk
  | _ => true

/-- Everything that was in force still is. -/
structure Unchanged (s₀ s : State G W A) : Prop where
  generation : s.generation = s₀.generation
  config : s.config = s₀.config
  pool : s.pool = s₀.pool
  geo : s.geo = s₀.geo
  websocket : s.websocket = s₀.websocket
  auth : s.auth = s₀.auth

def isAnswer : Move G W A → Bool
  | .handle | .timeout _ => true
  | _ => false

/-- What ended the wait for the candidate's pool. -/
def firstAnswer (moves : List (Move G W A)) : Option (Move G W A) := moves.find? isAnswer

/-- Recovery from the state before the reload gives that state. -/
structure Restorable (env : Env) (s₀ : State G W A) : Prop where
  pool : ⟨env.parseRelayServers (",".intercalate s₀.pool.relays), s₀.generation⟩ = s₀.pool
  geo : s₀.config.map (·.geo) = s₀.geo
  websocket : s₀.config.map (·.websocket) = s₀.websocket
  auth : s₀.config.map (·.auth) = s₀.auth

/-- When a reload that fails changes nothing, by what ended its wait. -/
def Harmless (env : Env) (s₀ : State G W A) (moves : List (Move G W A)) : Prop :=
  match firstAnswer moves with
  | none => True
  | some (.timeout _) => ∀ candidate, .start (.ok candidate) ∈ moves →
      candidatePool env (some candidate) (satAdd s₀.generation 1) = s₀.pool
  | some _ => Restorable env s₀

/-! ## What a reload has changed so far -/

/-- The active configuration is still that from before the reload. -/
def SameActive (s₀ s : State G W A) : Prop :=
  s.generation = s₀.generation ∧ s.config = s₀.config

/-- Geo rules, WebSocket health and authentication are still those from before. -/
def SameParts (s₀ s : State G W A) : Prop :=
  s.geo = s₀.geo ∧ s.websocket = s₀.websocket ∧ s.auth = s₀.auth

/-- A message is on its way to the pool, or there. -/
def Delivering (env : Env) (s : State G W A) (m : Message) : Prop :=
  s.queue = [m] ∨ s.queue = [] ∧ s.pool = ⟨env.parseRelayServers m.relayServers, m.generation⟩

def applyMessage (env : Env) (s₀ : State G W A) (candidate : Config G W A) : Message :=
  ⟨0, relayText env (some candidate), satAdd s₀.generation 1⟩

def revertMessage (s₀ : State G W A) : Message :=
  ⟨0, ",".intercalate s₀.pool.relays, s₀.generation⟩

/-- What a run has decided at its start. -/
def Job.StartedFrom (s₀ : State G W A) (moves : List (Move G W A)) (job : Job G W A) : Prop :=
  job.baseGeneration = s₀.generation ∧ job.previous = s₀.config ∧
    ∀ candidate, .start (.ok candidate) ∈ moves ↔ candidate = job.candidate

def Stage.Tracks (env : Env) (s₀ s : State G W A) (moves : List (Move G W A)) :
    Stage G W A → Prop
  | .preparing job => job.StartedFrom s₀ moves ∧ SameParts s₀ s ∧ s.pool = s₀.pool ∧
      s.queue = [] ∧ firstAnswer moves = none
  | .applying job => job.StartedFrom s₀ moves ∧ SameParts s₀ s ∧ s.pool = s₀.pool ∧
      s.queue = [applyMessage env s₀ job.candidate] ∧ firstAnswer moves = none
  | .applied job previous => job.StartedFrom s₀ moves ∧ s.queue = [] ∧
      previous = ",".intercalate s₀.pool.relays ∧ firstAnswer moves = some .handle
  | .reverting job _ => job.StartedFrom s₀ moves ∧ s.queue = [revertMessage s₀] ∧
      firstAnswer moves = some .handle
  | .reverted job _ _ => job.StartedFrom s₀ moves ∧ Delivering env s (revertMessage s₀) ∧
      firstAnswer moves = some .handle
  | .restoring job _ _ => job.StartedFrom s₀ moves ∧ Delivering env s (revertMessage s₀) ∧
      s.geo = s₀.config.map (·.geo) ∧ s.websocket = s₀.config.map (·.websocket) ∧
      firstAnswer moves = some .handle
  | .finished (.activated _) => s.queue = []
  | .finished (.refused _) => SameParts s₀ s ∧ s.pool = s₀.pool ∧ s.queue = [] ∧
      firstAnswer moves = none
  | .finished (.unacknowledged job _) => job.StartedFrom s₀ moves ∧ SameParts s₀ s ∧
      Delivering env s (applyMessage env s₀ job.candidate) ∧
      ∃ i, firstAnswer moves = some (.timeout i)
  | .finished (.recovered _ _) => Delivering env s (revertMessage s₀) ∧
      s.geo = s₀.config.map (·.geo) ∧ s.websocket = s₀.config.map (·.websocket) ∧
      s.auth = s₀.config.map (·.auth) ∧ firstAnswer moves = some .handle

/-- How a run ended without an activation. -/
def Outcome.isFailed : Outcome G W A → Bool
  | .activated _ => false
  | _ => true

def Stage.isActivated : Stage G W A → Bool
  | .finished (.activated _) => true
  | _ => false

/-- Nothing has started, or one reload is as far as its stage says. -/
inductive Tracked (env : Env) (s₀ : State G W A) (moves : List (Move G W A)) (s : State G W A) :
    Prop
  | idle (hmoves : moves = []) (hs : s = s₀)
  | running (stage : Stage G W A) (hruns : s.runs = [stage])
      (hactive : stage.isActivated = false → SameActive s₀ s)
      (htracks : stage.Tracks env s₀ s moves)

section

variable {env : Env} {s₀ s t : State G W A} {moves : List (Move G W A)} {m : Move G W A}

theorem firstAnswer_snoc : firstAnswer (moves ++ [m]) =
    (firstAnswer moves).or (if isAnswer m then some m else none) := by
  unfold firstAnswer
  rw [List.find?_append, List.find?_singleton]

theorem firstAnswer_kept {a : Move G W A} (h : firstAnswer moves = some a) :
    firstAnswer (moves ++ [m]) = some a := by
  rw [firstAnswer_snoc, h, Option.some_or]

theorem Job.StartedFrom.snoc {job : Job G W A} (h : job.StartedFrom s₀ moves)
    (hm : ∀ candidate, m ≠ .start (.ok candidate)) : job.StartedFrom s₀ (moves ++ [m]) := by
  refine ⟨h.1, h.2.1, fun candidate => ?_⟩
  rw [← h.2.2 candidate, List.mem_append, List.mem_singleton]
  exact or_iff_left (hm candidate).symm

/-- A run of the list has the only index. -/
theorem stage_of_single {i : Nat} {stage stage' : Stage G W A} (hruns : s.runs = [stage])
    (hi : s.runs[i]? = some stage') : i = 0 ∧ stage' = stage := by
  rw [hruns, List.getElem?_singleton] at hi
  split at hi
  · exact ⟨‹_›, (Option.some.inj hi).symm⟩
  · cases hi

theorem set_single {stage stage' : Stage G W A} (hruns : s.runs = [stage]) :
    s.runs.set 0 stage' = [stage'] := by
  rw [hruns, List.set_cons_zero]

theorem Tracked.start {loaded : Except String (Config G W A)} (hruns : s₀.runs = [])
    (hqueue : s₀.queue = []) (h : Tracked env s₀ moves s) (hsingle : s.runs.isEmpty = true)
    (hn : Reload.step env s (.start loaded) = some t) :
    Tracked env s₀ (moves ++ [.start loaded]) t := by
  cases h with
  | running stage hstage _ _ =>
    rw [hstage] at hsingle
    cases hsingle
  | idle hmoves hs =>
    subst hmoves hs
    cases hn
    have hanswer : firstAnswer ([] ++ [Move.start loaded]) = none := rfl
    cases loaded with
    | error e =>
      refine .running (.finished (.refused e)) (by simp [hruns]) (fun _ => ⟨rfl, rfl⟩) ?_
      exact ⟨⟨rfl, rfl, rfl⟩, rfl, hqueue, hanswer⟩
    | ok candidate =>
      refine .running (.preparing ⟨candidate, s.generation, s.config⟩) (by simp [hruns])
        (fun _ => ⟨rfl, rfl⟩) ?_
      refine ⟨⟨rfl, rfl, fun c => ?_⟩, ⟨rfl, rfl, rfl⟩, rfl, hqueue, hanswer⟩
      simp

theorem Tracked.prepared {i : Nat} {auth : Except String Unit} (hruns : s₀.runs = [])
    (h : Tracked env s₀ moves s) (hn : Reload.step env s (.prepared i auth) = some t) :
    Tracked env s₀ (moves ++ [.prepared i auth]) t := by
  simp only [Reload.step] at hn
  split at hn
  · rename_i job hi
    cases hn
    cases h with
    | idle _ hs => simp [hs, hruns] at hi
    | running stage hstage hactive htracks =>
      obtain ⟨rfl, rfl⟩ := stage_of_single hstage hi
      obtain ⟨hjob, hparts, hpool, hqueue, hanswer⟩ := htracks
      have hanswer' : firstAnswer (moves ++ [.prepared 0 auth]) = none := by
        rw [firstAnswer_snoc, hanswer]
        rfl
      cases auth with
      | error e =>
        refine .running (.finished (.refused e)) (set_single hstage)
          (fun _ => hactive rfl) ?_
        exact ⟨hparts, hpool, hqueue, hanswer'⟩
      | ok _ =>
        refine .running (.applying job) (set_single hstage)
          (fun _ => hactive rfl) ?_
        refine ⟨hjob.snoc (by simp), hparts, hpool, ?_, hanswer'⟩
        simp [State.goto, State.send, hqueue, applyMessage, hjob.1]
  · cases hn

/-- The message at the head of the queue is the one on its way. -/
theorem Delivering.head {m m' : Message} {rest : List Message} (h : Delivering env s m)
    (hq : s.queue = m' :: rest) : m' = m ∧ rest = [] := by
  obtain hqueue | ⟨hqueue, -⟩ := h
  · rw [hqueue] at hq
    cases hq
    exact ⟨rfl, rfl⟩
  · rw [hqueue] at hq
    cases hq

theorem Delivering.delivered {m : Message} (hqueue : t.queue = [])
    (hpool : t.pool = ⟨env.parseRelayServers m.relayServers, m.generation⟩) :
    Delivering env t m := .inr ⟨hqueue, hpool⟩

/-- Where a run stands after an acknowledgement. -/
def Stage.acknowledged (previous : String) : Stage G W A → Stage G W A
  | .applying job => .applied job previous
  | .reverting job error => .reverted job error []
  | other => other

theorem acknowledge_single {stage : Stage G W A} {m : Message} {previous : String}
    (hstage : s.runs = [stage]) (hm : m.run = 0) :
    acknowledge m s previous = { s with runs := [stage.acknowledged previous] } := by
  unfold acknowledge
  rw [hm, hstage]
  cases stage with
  | applying job => simp [State.goto, hstage, Stage.acknowledged]
  | reverting job error => simp [State.goto, hstage, Stage.acknowledged]
  | _ =>
    cases s
    cases hstage
    rfl

/-- The main loop handles the message that the stage has sent, if there is one. -/
theorem Stage.Tracks.handled {stage : Stage G W A} {m : Message} {rest : List Message}
    (h : stage.Tracks env s₀ s moves) (hq : s.queue = m :: rest)
    (hqueue : t.queue = rest) (hparts : SameParts s t)
    (hpool : t.pool = ⟨env.parseRelayServers m.relayServers, m.generation⟩) :
    m.run = 0 ∧ (stage.acknowledged (",".intercalate s.pool.relays)).Tracks env s₀ t
      (moves ++ [.handle]) := by
  obtain ⟨hgeo, hws, hauth⟩ := hparts
  cases stage with
  | preparing job =>
    obtain ⟨-, -, -, hempty, -⟩ := h
    rw [hq] at hempty
    cases hempty
  | applied job previous =>
    obtain ⟨-, hempty, -⟩ := h
    rw [hq] at hempty
    cases hempty
  | applying job =>
    obtain ⟨hjob, -, hsame, hsent, hanswer⟩ := h
    rw [hq] at hsent
    cases hsent
    refine ⟨rfl, hjob.snoc (by simp), hqueue, by rw [hsame], ?_⟩
    rw [firstAnswer_snoc, hanswer]
    rfl
  | reverting job error =>
    obtain ⟨hjob, hsent, hanswer⟩ := h
    rw [hq] at hsent
    cases hsent
    exact ⟨rfl, hjob.snoc (by simp), .delivered hqueue hpool, firstAnswer_kept hanswer⟩
  | reverted job error failures =>
    obtain ⟨hjob, hsent, hanswer⟩ := h
    obtain ⟨rfl, rfl⟩ := hsent.head hq
    exact ⟨rfl, hjob.snoc (by simp), .delivered hqueue hpool, firstAnswer_kept hanswer⟩
  | restoring job error failures =>
    obtain ⟨hjob, hsent, hgeo', hws', hanswer⟩ := h
    obtain ⟨rfl, rfl⟩ := hsent.head hq
    exact ⟨rfl, hjob.snoc (by simp), .delivered hqueue hpool, hgeo.trans hgeo', hws.trans hws',
      firstAnswer_kept hanswer⟩
  | finished outcome =>
    cases outcome with
    | activated generation =>
      rw [Stage.Tracks, hq] at h
      cases h
    | refused error =>
      obtain ⟨-, -, hempty, -⟩ := h
      rw [hq] at hempty
      cases hempty
    | unacknowledged job error =>
      obtain ⟨hjob, ⟨hgeo', hws', hauth'⟩, hsent, i, hanswer⟩ := h
      obtain ⟨rfl, rfl⟩ := hsent.head hq
      exact ⟨rfl, hjob.snoc (by simp), ⟨hgeo.trans hgeo', hws.trans hws', hauth.trans hauth'⟩,
        .delivered hqueue hpool, i, firstAnswer_kept hanswer⟩
    | recovered job error =>
      obtain ⟨hsent, hgeo', hws', hauth', hanswer⟩ := h
      obtain ⟨rfl, rfl⟩ := hsent.head hq
      exact ⟨rfl, .delivered hqueue hpool, hgeo.trans hgeo', hws.trans hws',
        hauth.trans hauth', firstAnswer_kept hanswer⟩

theorem Stage.isActivated_acknowledged {previous : String} {stage : Stage G W A} :
    (stage.acknowledged previous).isActivated = stage.isActivated := by
  cases stage <;> rfl

theorem Tracked.handle (hqueue : s₀.queue = []) (h : Tracked env s₀ moves s)
    (hn : Reload.handle env s = some t) : Tracked env s₀ (moves ++ [.handle]) t := by
  unfold Reload.handle at hn
  split at hn
  · cases hn
  · rename_i m rest hq
    cases hn
    cases h with
    | idle _ hs =>
      rw [hs, hqueue] at hq
      cases hq
    | running stage hstage hactive htracks =>
      obtain ⟨hzero, hnext⟩ := htracks.handled (t := { s with
        queue := rest, pool := ⟨env.parseRelayServers m.relayServers, m.generation⟩
        runs := [stage.acknowledged (",".intercalate s.pool.relays)] }) hq rfl ⟨rfl, rfl, rfl⟩ rfl
      rw [acknowledge_single (by exact hstage) hzero]
      refine .running _ rfl (fun hnot => ?_) hnext
      rw [Stage.isActivated_acknowledged] at hnot
      exact hactive hnot

theorem Tracked.timeout {i : Nat} (hruns : s₀.runs = []) (h : Tracked env s₀ moves s)
    (hn : Reload.step env s (.timeout i) = some t) :
    Tracked env s₀ (moves ++ [.timeout i]) t := by
  cases h with
  | idle _ hs => simp [Reload.step, hs, hruns] at hn
  | running stage hstage hactive htracks =>
    simp only [Reload.step] at hn
    split at hn
    · rename_i job hi
      cases hn
      obtain ⟨rfl, rfl⟩ := stage_of_single hstage hi
      obtain ⟨hjob, hparts, hpool, hsent, hanswer⟩ := htracks
      refine .running (.finished (.unacknowledged job timedOut)) (set_single hstage)
        (fun _ => hactive rfl) ?_
      refine ⟨hjob.snoc (by simp), hparts, .inl hsent, 0, ?_⟩
      rw [firstAnswer_snoc, hanswer]
      rfl
    · rename_i job error hi
      cases hn
      obtain ⟨rfl, rfl⟩ := stage_of_single hstage hi
      obtain ⟨hjob, hsent, hanswer⟩ := htracks
      refine .running (.reverted job error ["Relay rollback failed: " ++ timedOut])
        (set_single hstage) (fun _ => hactive rfl) ?_
      exact ⟨hjob.snoc (by simp), .inl hsent, firstAnswer_kept hanswer⟩
    · cases hn

/-- Every failure after the acknowledgement sends the old relays back. -/
theorem Tracked.restore {job : Job G W A} {previous error : String} (hstage : s.runs.length = 1)
    (hactive : SameActive s₀ s) (hjob : job.StartedFrom s₀ moves) (hqueue : s.queue = [])
    (hprevious : previous = ",".intercalate s₀.pool.relays)
    (hanswer : firstAnswer moves = some .handle) :
    Tracked env s₀ moves (Reload.restore s 0 job previous error) := by
  obtain ⟨stage, hstage⟩ := List.length_eq_one_iff.mp hstage
  refine .running (.reverting job error) ?_ (fun _ => hactive) ⟨hjob, ?_, hanswer⟩
  · simp [Reload.restore, State.goto, State.send, hstage]
  · simp [Reload.restore, State.goto, State.send, hqueue, revertMessage, hprevious, hjob.1]

theorem Tracked.activate {i : Nat} {geo websocket config : Except String Unit}
    (hruns : s₀.runs = []) (h : Tracked env s₀ moves s)
    (hn : Reload.step env s (.activate i geo websocket config) = some t) :
    Tracked env s₀ (moves ++ [.activate i geo websocket config]) t := by
  cases h with
  | idle _ hs => simp [Reload.step, hs, hruns] at hn
  | running stage hstage hactive htracks =>
    simp only [Reload.step] at hn
    split at hn
    · rename_i job previous hi
      cases hn
      obtain ⟨rfl, rfl⟩ := stage_of_single hstage hi
      obtain ⟨hjob, hempty, hprevious, hanswer⟩ := htracks
      have hjob' := hjob.snoc (m := .activate 0 geo websocket config) (by simp)
      have hanswer' := firstAnswer_kept (m := .activate 0 geo websocket config) hanswer
      have hlength : s.runs.length = 1 := by simp [hstage]
      have hsame := hactive rfl
      unfold Reload.activate
      split
      · exact .restore hlength hsame hjob' hempty hprevious hanswer'
      · split
        · exact .restore hlength hsame hjob' hempty hprevious hanswer'
        · split
          · exact .restore hlength hsame hjob' hempty hprevious hanswer'
          · dsimp only
            split
            · exact .restore hlength hsame hjob' hempty hprevious hanswer'
            · refine .running (.finished (.activated (satAdd s.generation 1)))
                (set_single hstage) (by simp [Stage.isActivated]) hempty
    · cases hn

theorem ok_of_isOk {ε α : Type} {r : Except ε α} (h : r.isOk = true) : ∃ a, r = .ok a := by
  cases r with
  | error e => cases h
  | ok a => exact ⟨a, rfl⟩

theorem Tracked.revert {i : Nat} {geo websocket : Except String Unit} (hruns : s₀.runs = [])
    (hok : (geo.isOk && websocket.isOk) = true) (h : Tracked env s₀ moves s)
    (hn : Reload.step env s (.revert i geo websocket) = some t) :
    Tracked env s₀ (moves ++ [.revert i geo websocket]) t := by
  obtain ⟨hgeo, hws⟩ := Bool.and_eq_true_iff.mp hok
  obtain ⟨⟨⟩, rfl⟩ := ok_of_isOk hgeo
  obtain ⟨⟨⟩, rfl⟩ := ok_of_isOk hws
  cases h with
  | idle _ hs => simp [Reload.step, hs, hruns] at hn
  | running stage hstage hactive htracks =>
    simp only [Reload.step] at hn
    split at hn
    · rename_i job error failures hi
      cases hn
      obtain ⟨rfl, rfl⟩ := stage_of_single hstage hi
      obtain ⟨hjob, hsent, hanswer⟩ := htracks
      have hsource : recoverySource s job = s₀.config := by
        rw [recoverySource, hjob.2.1, (hactive rfl).2, Option.or_self]
      refine .running _ (set_single hstage) (fun _ => hactive rfl) ?_
      refine ⟨hjob.snoc (by simp), hsent, ?_, ?_, firstAnswer_kept hanswer⟩
      · simp only [hsource]
      · simp only [hsource]
    · cases hn

theorem Tracked.restored {i : Nat} {auth : Except String Unit} (hruns : s₀.runs = [])
    (hok : auth.isOk = true) (h : Tracked env s₀ moves s)
    (hn : Reload.step env s (.restored i auth) = some t) :
    Tracked env s₀ (moves ++ [.restored i auth]) t := by
  obtain ⟨⟨⟩, rfl⟩ := ok_of_isOk hok
  cases h with
  | idle _ hs => simp [Reload.step, hs, hruns] at hn
  | running stage hstage hactive htracks =>
    simp only [Reload.step] at hn
    split at hn
    · rename_i job error failures hi
      cases hn
      obtain ⟨rfl, rfl⟩ := stage_of_single hstage hi
      obtain ⟨hjob, hsent, hgeo, hws, hanswer⟩ := htracks
      refine .running _ (set_single hstage) (fun _ => hactive rfl) ?_
      refine ⟨hsent, hgeo, hws, ?_, firstAnswer_kept hanswer⟩
      simp only [hjob.2.1]
    · cases hn

/-- Every step of one reload whose recovery can prepare the configuration from before. -/
theorem Tracked.step (hruns : s₀.runs = []) (hqueue : s₀.queue = [])
    (h : Tracked env s₀ moves s) (hsingle : single s m = true) (hok : recovers m = true)
    (hn : Reload.step env s m = some t) : Tracked env s₀ (moves ++ [m]) t := by
  cases m with
  | start loaded => exact h.start hruns hqueue hsingle hn
  | prepared i auth => exact h.prepared hruns hn
  | handle => exact h.handle hqueue hn
  | timeout i => exact h.timeout hruns hn
  | activate i geo websocket config => exact h.activate hruns hn
  | revert i geo websocket => exact h.revert hruns hok hn
  | restored i auth => exact h.restored hruns hok hn

theorem tracked (hruns : s₀.runs = []) (hqueue : s₀.queue = [])
    (h : Run (Guarded (Reload.step env) fun s m => single s m && recovers m) s₀ moves s) :
    Tracked env s₀ moves s := by
  induction h with
  | nil => exact .idle rfl rfl
  | snoc _ hn ih =>
    obtain ⟨hsingle, hok⟩ := Bool.and_eq_true_iff.mp hn.1
    exact ih.step hruns hqueue hsingle hok hn.2

/-- A message that is no longer queued has reached the pool. -/
theorem Delivering.pool {m : Message} (h : Delivering env s m) (hempty : s.queue = []) :
    s.pool = ⟨env.parseRelayServers m.relayServers, m.generation⟩ := by
  obtain hqueue | ⟨-, hpool⟩ := h
  · rw [hempty] at hqueue
    cases hqueue
  · exact hpool

/-- A reload that fails changes nothing if and only if it failed before it sent anything, or it
failed after the acknowledgement of the pool and recovery gives the state from before, or it
stopped waiting for a pool that is the one from before. -/
theorem failed_reload_unchanged (env : Env) (s₀ s : State G W A) (moves : List (Move G W A))
    (outcome : Outcome G W A) (hruns : s₀.runs = []) (hqueue : s₀.queue = [])
    (h : Run (Guarded (Reload.step env) fun s m => single s m && recovers m) s₀ moves s)
    (hfinished : s.runs = [.finished outcome]) (hfailed : outcome.isFailed = true)
    (hempty : s.queue = []) : Unchanged s₀ s ↔ Harmless env s₀ moves := by
  cases tracked hruns hqueue h with
  | idle _ hs =>
    rw [hs, hruns] at hfinished
    cases hfinished
  | running stage hstage hactive htracks =>
    rw [hfinished] at hstage
    cases hstage
    unfold Harmless
    cases outcome with
    | activated generation => cases hfailed
    | refused error =>
      obtain ⟨⟨hgeo, hws, hauth⟩, hpool, -, hanswer⟩ := htracks
      rw [hanswer]
      exact iff_of_true ⟨(hactive rfl).1, (hactive rfl).2, hpool, hgeo, hws, hauth⟩ trivial
    | unacknowledged job error =>
      obtain ⟨hjob, ⟨hgeo, hws, hauth⟩, hsent, i, hanswer⟩ := htracks
      have hpool : s.pool = candidatePool env (some job.candidate) (satAdd s₀.generation 1) :=
        hsent.pool hempty
      rw [hanswer]
      constructor
      · rintro hunchanged candidate hstart
        rw [(hjob.2.2 candidate).mp hstart, ← hpool]
        exact hunchanged.pool
      · intro hsame
        refine ⟨(hactive rfl).1, (hactive rfl).2, ?_, hgeo, hws, hauth⟩
        rw [hpool]
        exact hsame _ ((hjob.2.2 _).mpr rfl)
    | recovered job error =>
      obtain ⟨hsent, hgeo, hws, hauth, hanswer⟩ := htracks
      have hpool := hsent.pool hempty
      rw [hanswer]
      constructor
      · intro hunchanged
        refine ⟨?_, hgeo.symm.trans hunchanged.geo, hws.symm.trans hunchanged.websocket,
          hauth.symm.trans hunchanged.auth⟩
        exact hpool.symm.trans hunchanged.pool
      · intro hrestorable
        refine ⟨(hactive rfl).1, (hactive rfl).2, ?_, hgeo.trans hrestorable.geo,
          hws.trans hrestorable.websocket, hauth.trans hrestorable.auth⟩
        exact hpool.trans hrestorable.pool

end

/-! ## Concrete runs -/

def beforeReload : State Nat Nat Nat := startup sampleEnv (some (sampleConfig "relay-a" 1))

/-- The WebSocket health refuses the candidate, and everything is restored. -/
def refusedByWebsocket : List (Move Nat Nat Nat) :=
  [.start (.ok (sampleConfig "relay-b" 2)), .prepared 0 (.ok ()), .handle,
    .activate 0 (.ok ()) (.error "draining") (.ok ()), .handle, .revert 0 (.ok ()) (.ok ()),
    .restored 0 (.ok ())]

/-- The main loop is late: the message of the reload is handled after its end. -/
def handledLate : List (Move Nat Nat Nat) :=
  [.start (.ok (sampleConfig "relay-b" 2)), .prepared 0 (.ok ()), .timeout 0, .handle]

/-- Whether a run failed, and the pool, the geo rules and the active generation at its end. -/
def ending (moves : List (Move Nat Nat Nat)) :=
  (exec (step sampleEnv) (fun s m => single s m && recovers m) beforeReload moves).map fun s =>
    (s.runs.map fun stage => stage.isFinished && !stage.isActivated, s.queue, s.pool, s.geo,
      s.generation)

theorem refusedByWebsocket_ending : ending refusedByWebsocket =
    some ([true], [], ⟨["relay-a"], 1⟩, some 1, 1) := by
  rfl

theorem handledLate_ending : ending handledLate =
    some ([true], [], ⟨["relay-b"], 2⟩, some 1, 1) := by
  rfl

/-- A run that ended as `ending` says is a run of one reload that failed. -/
theorem failed_of_ending {moves : List (Move Nat Nat Nat)} {pool : Pool} {geo : Option Nat}
    {generation : Nat} (h : ending moves = some ([true], [], pool, geo, generation)) :
    ∃ s outcome, Run (Guarded (step sampleEnv) fun s m => single s m && recovers m) beforeReload
        moves s ∧ s.runs = [.finished outcome] ∧ outcome.isFailed = true ∧ s.queue = [] ∧
      s.pool = pool ∧ s.generation = generation := by
  obtain ⟨s, hs, hending⟩ := Option.map_eq_some_iff.mp h
  simp only [Prod.mk.injEq] at hending
  obtain ⟨hruns, hqueue, hpool, -, hgeneration⟩ := hending
  obtain ⟨stage, hstage, hfailed⟩ := List.map_eq_singleton_iff.mp hruns
  cases stage with
  | finished outcome =>
    refine ⟨s, outcome, .of_exec hs, hstage, ?_, hqueue, hpool, hgeneration⟩
    cases outcome with
    | activated generation => cases hfailed
    | _ => rfl
  | _ => cases hfailed

theorem failed_reload_unchanged_websocket :
    ∃ s, Run (Guarded (step sampleEnv) fun s m => single s m && recovers m) beforeReload
      refusedByWebsocket s ∧ (Unchanged beforeReload s ↔
        Harmless sampleEnv beforeReload refusedByWebsocket) ∧ Unchanged beforeReload s := by
  obtain ⟨s, outcome, hrun, hruns, hfailed, hqueue, -⟩ := failed_of_ending refusedByWebsocket_ending
  have hiff := failed_reload_unchanged sampleEnv beforeReload s refusedByWebsocket outcome rfl rfl
    hrun hruns hfailed hqueue
  exact ⟨s, hrun, hiff, hiff.mpr ⟨rfl, rfl, rfl, rfl⟩⟩

/-- The pool is the candidate's, with a generation that was never activated. -/
theorem late_acknowledgement_switches_pool :
    ∃ s outcome, Run (Guarded (step sampleEnv) fun s m => single s m && recovers m) beforeReload
        handledLate s ∧ s.runs = [.finished outcome] ∧ outcome.isFailed = true ∧ s.queue = [] ∧
      beforeReload.pool = ⟨["relay-a"], 1⟩ ∧ s.pool = ⟨["relay-b"], 2⟩ ∧ s.generation = 1 ∧
      InForce sampleEnv beforeReload ∧ ¬ Unchanged beforeReload s := by
  obtain ⟨s, outcome, hrun, hruns, hfailed, hqueue, hpool, hgeneration⟩ :=
    failed_of_ending handledLate_ending
  refine ⟨s, outcome, hrun, hruns, hfailed, hqueue, rfl, hpool, hgeneration,
    startup_inForce _ _, fun hunchanged => ?_⟩
  have hsame : (⟨["relay-b"], 2⟩ : Pool) = ⟨["relay-a"], 1⟩ := hpool.symm.trans hunchanged.pool
  revert hsame
  decide

end Starry.Reload
