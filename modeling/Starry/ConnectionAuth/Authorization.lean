import Starry.ConnectionAuth.Revocation
import Starry.ConnectionAuth.Verification

/-!
# Authorizing connection attempts (`authorize_connection_attempt`)

A call takes the runtime that is active when it begins and keeps it. While it waits for its
introspection, runtimes are prepared and activated, and keysets are refreshed.
-/

open Library

namespace Starry.ConnectionAuth

open Starry.Config (ConnectionAuthConfig ConnectionAuthMode onlyIf)

/-! ## Decisions -/

inductive SignalTransport
  | unsupportedUdp | tcp | secureTcp | webSocket
deriving DecidableEq, Repr

structure AuthDecision where
  proceed : Bool
  verdict : String
  reason : String
  mode : ConnectionAuthMode
deriving DecidableEq, Repr

/-- The decision on a token that was looked at. -/
def decision (mode : ConnectionAuthMode) : Except String Unit → AuthDecision
  | .ok () => ⟨true, "allow", "allow", mode⟩
  | .error reason =>
    if mode = .audit then ⟨true, "would_deny", reason, mode⟩ else ⟨false, "deny", reason, mode⟩

/-! ## Runtimes and calls -/

structure Runtime where
  auth : AuthRuntime
  lookups : Lookups := .init
  /-- It is a `PreparedAuth`. -/
  prepared : Bool := true
  cancelled : Bool := false
  /-- `refresh_jwks` is running. -/
  refreshing : Bool := false

/-- Where a call is; `now` is its clock reading. -/
inductive Stage
  | begun (now : Nat)
  | verified (claims : LocalClaims) (now : Nat)
  /-- It is call `k` of its runtime's introspection. -/
  | asking (k : Nat) (claims : LocalClaims) (now : Nat)
  | decided (decision : AuthDecision) (decidedAt : Instant)
  | gone

structure Attempt where
  token : String
  transport : SignalTransport
  runtime : Nat
  stage : Stage

structure AuthWorld where
  runtimes : List Runtime
  active : Nat
  attempts : List Attempt
  now : Instant

def AuthWorld.init : AuthWorld where
  runtimes := [{ auth := .disabled, prepared := false }]
  active := 0
  attempts := []
  now := 0

inductive Event
  /-- `keysNow` is `epoch_seconds` where the keyset is read. -/
  | verify (keysNow : Nat)
  | lookup
  | acquire
  | send
  | answer (result : HttpResult)
  | finish
  /-- The caller is gone. -/
  | drop

inductive AuthStep
  /-- `restore` prepares the configuration it has, or the default one, and activates it. -/
  | prepare (config : ConnectionAuthConfig) (mustLogin : Bool) (io : PrepareInput)
  | activate (r : Nat)
  | beginRefresh (r : Nat)
  | endRefresh (r : Nat) (response : Except String Bytes) (fetchedAt : Nat)
      (written : Except String Unit)
  | attempt (token : String) (transport : SignalTransport) (now : Nat)
  | go (a : Nat) (event : Event)

variable (env : Env) (jwt : Jwt) (ord : HashOrder)

def refreshJwks (auth : AuthRuntime) (response : Except String Bytes) (fetchedAt : Nat)
    (written : Except String Unit) : Except String AuthRuntime := do
  if auth.config.jwks.url.isEmpty then return auth
  let raw ← response
  let keys ← parseJwks env raw
  onlyIf auth.jwksFile.isSome written
  return { auth with keys, loadedAtEpochSeconds := some fetchedAt }

/-! ## A call -/

def Runtime.settle (runtime : Runtime) (now : Instant) (result : Except String Unit) : Stage :=
  .decided (decision runtime.auth.effectiveMode result) now

/-- `authorize_connection_attempt` up to its first look at the token. -/
def Runtime.begin (runtime : Runtime) (now : Instant) (transport : SignalTransport) (epoch : Nat) :
    Stage :=
  let mode := runtime.auth.effectiveMode
  if transport = .unsupportedUdp then .decided ⟨false, "deny", "unsupported_transport", mode⟩ now
  else if mode = .off then .decided ⟨true, "skipped", "mode_off", mode⟩ now
  else .begun epoch

def Runtime.introspect (runtime : Runtime) (now : Instant) (step : CallStep) : Option Lookups :=
  runtime.lookups.step runtime.auth.config.introspection ord (now, step)

/-- `verify_local_at`, and `introspect` where there is no client. -/
def Runtime.verify (runtime : Runtime) (now : Instant) (keysNow : Nat) (token : String)
    (epoch : Nat) : Stage :=
  match verifyLocalAt env jwt runtime.auth keysNow token epoch with
  | .error reason => runtime.settle now (.error reason)
  | .ok claims =>
    if runtime.auth.introspection then .verified claims epoch
    else if runtime.auth.config.introspection.required then
      runtime.settle now (.error "introspection_unavailable")
    else runtime.settle now (.ok ())

def cachedResult : Bool × String → Except String Unit
  | (active, reason) => if active then .ok () else .error reason

/-- What the introspection returns at this step of its call, if it returns. -/
def Runtime.returned (runtime : Runtime) (call : Call) : Event → Option (Except String Unit)
  | .acquire =>
    if runtime.lookups.permits < maxIntrospectionConcurrency then none
    else some (.error "introspection_unavailable")
  | .finish => call.phase.result.map fun answer => cachedResult (verdict call.subject answer.2)
  | _ => none

/-- Where a call is after an event of its introspection. -/
def Runtime.after (runtime : Runtime) (now : Instant) (call : Call) (stage : Stage)
    (event : Event) : Stage :=
  match event, runtime.returned call event with
  | .drop, _ => .gone
  | _, some result => runtime.settle now result
  | _, none => stage

/-- The step of a call of the introspection. -/
def Event.callStep (k : Nat) : Event → Option CallStep
  | .acquire => some (.acquire k)
  | .send => some (.send k)
  | .answer result => some (.answer k result)
  | .finish => some (.finish k)
  | .drop => some (.abandon k)
  | _ => none

/-- What an event makes of a call and of the introspection of its runtime. -/
def Attempt.go (attempt : Attempt) (runtime : Runtime) (now : Instant) (event : Event) :
    Option (Lookups × Stage) :=
  match event, attempt.stage with
  | .verify keysNow, .begun epoch =>
    some (runtime.lookups, runtime.verify env jwt now keysNow attempt.token epoch)
  | .lookup, .verified claims epoch =>
    let hash := jwt.sha256 (asBytes attempt.token)
    (runtime.introspect ord now (.call hash claims.subject claims.expiresAt epoch)).map
      fun lookups => (lookups,
        match (cacheLookup now runtime.lookups.cache hash).2 with
        | some found => runtime.settle now (cachedResult found)
        | none => .asking runtime.lookups.calls.length claims epoch)
  | event, .asking k _ _ => do
    let call ← runtime.lookups.calls[k]?
    let step ← event.callStep k
    let lookups ← runtime.introspect ord now step
    return (lookups, runtime.after now call attempt.stage event)
  | _, _ => none

/-! ## The process -/

def AuthWorld.update (s : AuthWorld) (r : Nat) (f : Runtime → Runtime) : AuthWorld :=
  { s with runtimes := s.runtimes.modify r f }

def AuthWorld.act (s : AuthWorld) : AuthStep → Option AuthWorld
  | .prepare config mustLogin io =>
    match prepare env config mustLogin io with
    | .ok auth => some { s with runtimes := s.runtimes ++ [{ auth }] }
    | .error _ => some s
  | .activate r => do
    let runtime ← s.runtimes[r]?
    guard runtime.prepared
    let s := s.update s.active fun old => { old with cancelled := true }
    return { s.update r fun new => { new with prepared := false } with active := r }
  | .beginRefresh r => do
    let runtime ← s.runtimes[r]?
    guard (!runtime.auth.config.jwks.url.isEmpty && !runtime.prepared && !runtime.cancelled &&
      !runtime.refreshing)
    return s.update r fun x => { x with refreshing := true }
  | .endRefresh r response fetchedAt written => do
    let runtime ← s.runtimes[r]?
    guard runtime.refreshing
    let auth := match refreshJwks env runtime.auth response fetchedAt written with
      | .ok auth => auth
      -- The keys that were known last are retained.
      | .error _ => runtime.auth
    return s.update r fun x => { x with auth, refreshing := false }
  | .attempt token transport now => do
    let runtime ← s.runtimes[s.active]?
    let stage := runtime.begin s.now transport now
    return { s with attempts := s.attempts ++ [⟨token, transport, s.active, stage⟩] }
  | .go a event => do
    let attempt ← s.attempts[a]?
    let runtime ← s.runtimes[attempt.runtime]?
    let (lookups, stage) ← attempt.go env jwt ord runtime s.now event
    let s := s.update attempt.runtime fun x => { x with lookups }
    return { s with attempts := s.attempts.set a { attempt with stage } }

/-- A step at a time. -/
def AuthWorld.step (s : AuthWorld) (i : Instant × AuthStep) : Option AuthWorld :=
  if i.1 < s.now then none else { s with now := i.1 }.act env jwt ord i.2

/-! ## What stays as it is -/

/-- A refresh replaces the keyset and nothing else. -/
structure AuthRuntime.SameSetup (x y : AuthRuntime) : Prop where
  config : y.config = x.config
  mode : y.effectiveMode = x.effectiveMode
  introspection : y.introspection = x.introspection

/-- Calls of the introspection only change their phases. -/
def CallsKeep (calls calls' : List Call) : Prop :=
  ∀ (k : Nat) (call : Call), calls[k]? = some call → ∃ phase, calls'[k]? = some { call with phase }

structure Runtime.Keeps (x y : Runtime) : Prop where
  setup : x.auth.SameSetup y.auth
  calls : CallsKeep x.lookups.calls y.lookups.calls

def RuntimesKeep (s t : AuthWorld) : Prop :=
  ∀ (r : Nat) (x : Runtime), s.runtimes[r]? = some x → ∃ y, t.runtimes[r]? = some y ∧ x.Keeps y

variable {env : Env} {jwt : Jwt} {ord : HashOrder}

theorem AuthRuntime.SameSetup.refl (x : AuthRuntime) : x.SameSetup x := ⟨rfl, rfl, rfl⟩

theorem AuthRuntime.SameSetup.trans {x y z : AuthRuntime} (h : x.SameSetup y) (h' : y.SameSetup z) :
    x.SameSetup z :=
  ⟨h'.config.trans h.config, h'.mode.trans h.mode, h'.introspection.trans h.introspection⟩

theorem CallsKeep.refl (calls : List Call) : CallsKeep calls calls :=
  fun _ call hk => ⟨call.phase, hk⟩

theorem Runtime.Keeps.refl (x : Runtime) : x.Keeps x := ⟨.refl _, .refl _⟩

theorem Runtime.Keeps.trans {x y z : Runtime} (h : x.Keeps y) (h' : y.Keeps z) : x.Keeps z := by
  refine ⟨h.setup.trans h'.setup, fun k call hk => ?_⟩
  obtain ⟨phase, hphase⟩ := h.calls k call hk
  obtain ⟨phase', hphase'⟩ := h'.calls k _ hphase
  exact ⟨phase', hphase'⟩

theorem RuntimesKeep.of_eq {s t : AuthWorld} (h : t.runtimes = s.runtimes) : RuntimesKeep s t :=
  fun _ x hx => ⟨x, h ▸ hx, .refl x⟩

theorem RuntimesKeep.trans {s t u : AuthWorld} (h : RuntimesKeep s t) (h' : RuntimesKeep t u) :
    RuntimesKeep s u := by
  intro r x hx
  obtain ⟨y, hy, hxy⟩ := h r x hx
  obtain ⟨z, hz, hyz⟩ := h' r y hy
  exact ⟨z, hz, hxy.trans hyz⟩

/-- One runtime is changed. -/
theorem RuntimesKeep.update {s : AuthWorld} {r : Nat} {f : Runtime → Runtime}
    (h : ∀ x, s.runtimes[r]? = some x → x.Keeps (f x)) : RuntimesKeep s (s.update r f) := by
  intro r' x hx
  change ∃ y, (s.runtimes.modify r f)[r']? = some y ∧ _
  rw [List.getElem?_modify, hx]
  by_cases hr : r = r'
  · subst hr
    exact ⟨f x, by simp, h x hx⟩
  · exact ⟨x, by simp [hr], .refl x⟩

section Calls

variable {config : Config.IntrospectionConfig} {s t : Lookups}

theorem goto_calls {k : Nat} {call : Call} (hk : s.calls[k]? = some call) (phase : Phase) :
    CallsKeep s.calls (s.goto k call phase).calls := by
  intro k' call' hk'
  change ∃ phase', (s.calls.set k { call with phase })[k']? = _
  by_cases heq : k = k'
  · subst heq
    obtain rfl := Option.some.inj (hk.symm.trans hk')
    exact ⟨phase, List.getElem?_set_self (List.getElem?_eq_some_iff.mp hk).1⟩
  · exact ⟨call'.phase, (List.getElem?_set_ne heq).trans hk'⟩

/-- What a step of the introspection keeps of its calls. -/
theorem introspection_calls {i : Instant × CallStep} (h : s.step config ord i = some t) :
    CallsKeep s.calls t.calls := by
  unfold Lookups.step at h
  split at h
  · cases h
  split at h
  · obtain rfl := Option.some.inj h
    intro k call hk
    exact ⟨call.phase, List.getElem?_append_left (List.getElem?_eq_some_iff.mp hk).1 ▸ hk⟩
  · obtain ⟨call, hk, h⟩ := Option.bind_eq_some_iff.mp h
    unfold Lookups.acquire at h
    split at h
    · split at h <;> obtain rfl := Option.some.inj h <;> exact goto_calls hk _
    · cases h
  · obtain ⟨call, hk, h⟩ := Option.bind_eq_some_iff.mp h
    unfold Lookups.send at h
    split at h
    · split at h <;> obtain rfl := Option.some.inj h <;> exact goto_calls hk _
    · cases h
  · obtain ⟨call, hk, h⟩ := Option.bind_eq_some_iff.mp h
    unfold Lookups.answer at h
    split at h
    · split at h <;> obtain rfl := Option.some.inj h <;> exact goto_calls hk _
    · cases h
  · obtain ⟨call, hk, h⟩ := Option.bind_eq_some_iff.mp h
    obtain ⟨answer, -, rfl⟩ := Option.map_eq_some_iff.mp h
    exact goto_calls hk _
  · obtain ⟨call, hk, rfl⟩ := Option.map_eq_some_iff.mp h
    exact goto_calls hk _

/-- A call that has not found its token is entered at the end. -/
theorem call_entered {now : Instant} {hash : Bytes} {subject : String} {expiresAt nowEpoch : Nat}
    (h : s.step config ord (now, .call hash subject expiresAt nowEpoch) = some t) :
    ∃ phase, t.calls[s.calls.length]? = some ⟨hash, subject, expiresAt, nowEpoch, phase⟩ := by
  unfold Lookups.step at h
  split at h
  · cases h
  · obtain rfl := Option.some.inj h
    exact ⟨_, List.getElem?_concat_length⟩

/-- An active answer for the subject of a call. -/
def AnsweredActive (call : Call) : Prop :=
  ∃ request response, call.phase = .answered request (.ok response) ∧ response.active = true ∧
    response.sub = some call.subject

theorem answeredActive_of_verdict {call : Call}
    {answer : Option Nat × Except String IntrospectionResponse}
    (hphase : call.phase.result = some answer)
    (hverdict : (verdict call.subject answer.2).1 = true) : AnsweredActive call := by
  obtain ⟨request, result⟩ := answer
  cases hp : call.phase with
  | answered request' result' =>
    rw [hp] at hphase
    obtain ⟨-, rfl⟩ := Prod.mk.inj (Option.some.inj hphase)
    cases result' with
    | error reason => cases hverdict
    | ok response =>
      simp only [verdict] at hverdict
      split at hverdict
      · rename_i hactive
        split at hverdict
        · rename_i hsub
          exact ⟨request', response, hp, hactive, hsub⟩
        · cases hverdict
      · cases hverdict
  | timedOut =>
    rw [hp] at hphase
    obtain ⟨-, rfl⟩ := Prod.mk.inj (Option.some.inj hphase)
    cases hverdict
  | _ =>
    rw [hp] at hphase
    cases hphase

/-- An entry that says active was there before, or is that of a call that has its answer. -/
theorem introspection_cached {i : Instant × CallStep} (h : s.step config ord i = some t)
    {hash : Bytes} {entry : CacheEntry} (hentry : t.cache.entries.get hash = some entry)
    (hactive : entry.active = true) :
    s.cache.entries.get hash = some entry ∨ ∃ k call, i.2 = .finish k ∧ s.calls[k]? = some call ∧
      hash = call.hash ∧ AnsweredActive call ∧ entry.expiresAt =
        i.1 + secs (min config.positiveCacheSeconds (call.expiresAt - call.nowEpoch)) := by
  obtain ⟨now, i⟩ := i
  unfold Lookups.step at h
  split at h
  · cases h
  cases i with
  | call hash' subject expiresAt nowEpoch =>
    obtain rfl := Option.some.inj h
    exact .inl (get_cacheLookup hash' hentry)
  | acquire k =>
    obtain ⟨call, -, h⟩ := Option.bind_eq_some_iff.mp h
    exact .inl ((acquire_keeps h).2.1 ▸ hentry)
  | send k =>
    obtain ⟨call, -, h⟩ := Option.bind_eq_some_iff.mp h
    exact .inl ((send_keeps h).2.1 ▸ hentry)
  | answer k result =>
    obtain ⟨call, -, h⟩ := Option.bind_eq_some_iff.mp h
    exact .inl ((answer_keeps h).2.1 ▸ hentry)
  | finish k =>
    obtain ⟨call, hk, h⟩ := Option.bind_eq_some_iff.mp h
    obtain ⟨answer, hphase, rfl⟩ := Option.map_eq_some_iff.mp h
    rcases get_cacheStore hentry with ⟨hhash, hverdict, hexpires, -⟩ | ⟨-, hold⟩
    · have hverdict := hverdict.symm.trans hactive
      refine .inr ⟨k, call, rfl, hk, hhash, answeredActive_of_verdict hphase hverdict, ?_⟩
      simpa [cacheTtl, hverdict] using hexpires
    · exact .inl hold
  | abandon k =>
    obtain ⟨call, -, rfl⟩ := Option.map_eq_some_iff.mp h
    exact .inl hentry

end Calls

theorem refreshJwks_ok {auth auth' : AuthRuntime} {response : Except String Bytes} {fetchedAt : Nat}
    {written : Except String Unit} (h : refreshJwks env auth response fetchedAt written = .ok auth') :
    auth.SameSetup auth' := by
  unfold refreshJwks at h
  split at h
  · obtain rfl := Except.ok.inj h
    exact .refl _
  · obtain ⟨_, -, h⟩ := bind_eq_ok.mp h
    obtain ⟨_, -, h⟩ := bind_eq_ok.mp h
    obtain ⟨_, -, h⟩ := bind_eq_ok.mp h
    obtain rfl := Except.ok.inj h
    exact ⟨rfl, rfl, rfl⟩

/-- The client of the introspection is there as the configuration says. -/
def AuthRuntime.Linked (auth : AuthRuntime) : Prop :=
  auth.effectiveMode ≠ .off → auth.introspection = !auth.config.introspection.url.isEmpty

theorem AuthRuntime.Linked.of_sameSetup {x y : AuthRuntime} (h : x.Linked) (hsame : x.SameSetup y) :
    y.Linked := by
  unfold AuthRuntime.Linked
  rw [hsame.mode, hsame.introspection, hsame.config]
  exact h

theorem prepare_linked {config : ConnectionAuthConfig} {mustLogin : Bool} {io : PrepareInput}
    {auth : AuthRuntime} (h : prepare env config mustLogin io = .ok auth) : auth.Linked := by
  unfold prepare at h
  simp only at h
  split at h
  · obtain rfl := Except.ok.inj h
    exact fun hmode => absurd rfl hmode
  obtain ⟨_, -, h⟩ := bind_eq_ok.mp h
  obtain ⟨_, -, h⟩ := bind_eq_ok.mp h
  obtain ⟨_, -, h⟩ := bind_eq_ok.mp h
  obtain ⟨_, -, h⟩ := bind_eq_ok.mp h
  obtain ⟨_, -, h⟩ := bind_eq_ok.mp h
  obtain ⟨_, -, h⟩ := bind_eq_ok.mp h
  obtain ⟨_, -, h⟩ := bind_eq_ok.mp h
  obtain rfl := Except.ok.inj h
  exact fun _ => rfl

/-! ## Steps -/

section Steps

variable {s t : AuthWorld} {i : Instant × AuthStep}

theorem go_calls {attempt : Attempt} {runtime : Runtime} {now : Instant} {event : Event}
    {lookups : Lookups} {stage : Stage}
    (h : attempt.go env jwt ord runtime now event = some (lookups, stage)) :
    CallsKeep runtime.lookups.calls lookups.calls := by
  unfold Attempt.go at h
  split at h
  · obtain ⟨rfl, -⟩ := Prod.mk.inj (Option.some.inj h)
    exact .refl _
  · obtain ⟨lookups, hstep, heq⟩ := Option.map_eq_some_iff.mp h
    obtain ⟨rfl, -⟩ := Prod.mk.inj heq
    exact introspection_calls hstep
  · obtain ⟨call, -, h⟩ := Option.bind_eq_some_iff.mp h
    obtain ⟨step, -, h⟩ := Option.bind_eq_some_iff.mp h
    obtain ⟨lookups, hstep, h⟩ := Option.bind_eq_some_iff.mp h
    obtain ⟨rfl, -⟩ := Prod.mk.inj (Option.some.inj h)
    exact introspection_calls hstep
  · cases h

/-- What is in the cache of a runtime after an event. -/
theorem go_cached {attempt : Attempt} {runtime : Runtime} {now : Instant} {event : Event}
    {lookups : Lookups} {stage : Stage} {hash : Bytes} {entry : CacheEntry}
    (h : attempt.go env jwt ord runtime now event = some (lookups, stage))
    (hentry : lookups.cache.entries.get hash = some entry) (hactive : entry.active = true) :
    runtime.lookups.cache.entries.get hash = some entry ∨ ∃ k found epoch call,
      event = .finish ∧ attempt.stage = .asking k found epoch ∧
      runtime.lookups.calls[k]? = some call ∧ hash = call.hash ∧ AnsweredActive call ∧
      entry.expiresAt = now + secs (min runtime.auth.config.introspection.positiveCacheSeconds
        (call.expiresAt - call.nowEpoch)) := by
  unfold Attempt.go at h
  split at h
  · obtain ⟨rfl, -⟩ := Prod.mk.inj (Option.some.inj h)
    exact .inl hentry
  · obtain ⟨lookups, hstep, heq⟩ := Option.map_eq_some_iff.mp h
    obtain ⟨rfl, -⟩ := Prod.mk.inj heq
    rcases introspection_cached hstep hentry hactive with hold | ⟨k, call, hfinish, -⟩
    · exact .inl hold
    · cases hfinish
  · rename_i event _ _ k found epoch hstage
    obtain ⟨call, hk, h⟩ := Option.bind_eq_some_iff.mp h
    obtain ⟨step, hcallStep, h⟩ := Option.bind_eq_some_iff.mp h
    obtain ⟨lookups, hstep, h⟩ := Option.bind_eq_some_iff.mp h
    obtain ⟨rfl, -⟩ := Prod.mk.inj (Option.some.inj h)
    rcases introspection_cached hstep hentry hactive with hold | ⟨k', call', hfinish, hk', hrest⟩
    · exact .inl hold
    · cases event with
      | finish =>
        cases hfinish
        cases Option.some.inj hcallStep
        exact .inr ⟨k, found, epoch, call', rfl, hstage, hk', hrest⟩
      | verify keysNow => cases hcallStep
      | lookup => cases hcallStep
      | _ =>
        cases Option.some.inj hcallStep
        cases hfinish
  · cases h

theorem act_runtimes {step : AuthStep} (h : s.act env jwt ord step = some t) :
    RuntimesKeep s t := by
  cases step with
  | prepare config mustLogin io =>
    simp only [AuthWorld.act] at h
    split at h
    · obtain rfl := Option.some.inj h
      intro r x hx
      exact ⟨x, List.getElem?_append_left (List.getElem?_eq_some_iff.mp hx).1 ▸ hx, .refl x⟩
    · obtain rfl := Option.some.inj h
      exact .of_eq rfl
  | activate r =>
    obtain ⟨runtime, -, h⟩ := Option.bind_eq_some_iff.mp h
    obtain ⟨_, -, h⟩ := Option.bind_eq_some_iff.mp h
    obtain rfl := Option.some.inj h
    refine (RuntimesKeep.update (r := s.active) ?_).trans (.trans (.update (r := r) ?_) (.of_eq rfl))
    · exact fun x _ => ⟨.refl _, .refl _⟩
    · exact fun x _ => ⟨.refl _, .refl _⟩
  | beginRefresh r =>
    obtain ⟨runtime, -, h⟩ := Option.bind_eq_some_iff.mp h
    obtain ⟨_, -, h⟩ := Option.bind_eq_some_iff.mp h
    obtain rfl := Option.some.inj h
    exact .update fun x _ => ⟨.refl _, .refl _⟩
  | endRefresh r response fetchedAt written =>
    obtain ⟨runtime, hr, h⟩ := Option.bind_eq_some_iff.mp h
    obtain ⟨_, -, h⟩ := Option.bind_eq_some_iff.mp h
    obtain rfl := Option.some.inj h
    apply RuntimesKeep.update
    intro x hx
    obtain rfl := Option.some.inj (hr.symm.trans hx)
    refine ⟨?_, .refl _⟩
    change runtime.auth.SameSetup (match refreshJwks env runtime.auth response fetchedAt written with
      | .ok auth => auth
      | .error _ => runtime.auth)
    split
    · rename_i auth hauth
      exact refreshJwks_ok hauth
    · exact .refl _
  | attempt token transport now =>
    obtain ⟨runtime, -, h⟩ := Option.bind_eq_some_iff.mp h
    obtain rfl := Option.some.inj h
    exact .of_eq rfl
  | go a event =>
    obtain ⟨attempt, -, h⟩ := Option.bind_eq_some_iff.mp h
    obtain ⟨runtime, hr, h⟩ := Option.bind_eq_some_iff.mp h
    obtain ⟨⟨lookups, stage⟩, hgo, h⟩ := Option.bind_eq_some_iff.mp h
    obtain rfl := Option.some.inj h
    refine (RuntimesKeep.update (r := attempt.runtime) fun x hx => ?_).trans (.of_eq rfl)
    obtain rfl := Option.some.inj (hr.symm.trans hx)
    exact ⟨.refl _, go_calls hgo⟩

theorem step_act (h : s.step env jwt ord i = some t) :
    s.now ≤ i.1 ∧ ({ s with now := i.1 } : AuthWorld).act env jwt ord i.2 = some t := by
  unfold AuthWorld.step at h
  split at h
  · cases h
  · rename_i hnow
    exact ⟨Nat.le_of_not_lt hnow, h⟩

theorem step_later (hnow : s.now ≤ i.1)
    (h : ({ s with now := i.1 } : AuthWorld).act env jwt ord i.2 = some t) :
    s.step env jwt ord i = some t :=
  (if_neg (Nat.not_lt.mpr hnow)).trans h

theorem step_runtimes (h : s.step env jwt ord i = some t) : RuntimesKeep s t :=
  (RuntimesKeep.of_eq (s := s) (t := { s with now := i.1 }) rfl).trans (act_runtimes (step_act h).2)

theorem get_update {r r' : Nat} {f : Runtime → Runtime} {y : Runtime}
    (h : (s.update r f).runtimes[r']? = some y) :
    ∃ x, s.runtimes[r']? = some x ∧ (y = x ∨ r = r' ∧ y = f x) := by
  change (s.runtimes.modify r f)[r']? = some y at h
  rw [List.getElem?_modify] at h
  obtain ⟨x, hx, rfl⟩ := Option.map_eq_some_iff.mp h
  by_cases hr : r = r'
  · exact ⟨x, hx, .inr ⟨hr, if_pos hr⟩⟩
  · exact ⟨x, hx, .inl (if_neg hr)⟩

/-- Where a runtime comes from: it was prepared, or it was there before. -/
theorem act_from {step : AuthStep} (h : s.act env jwt ord step = some t) {r : Nat} {y : Runtime}
    (hy : t.runtimes[r]? = some y) :
    (y.lookups = .init ∧ ∃ config mustLogin io, prepare env config mustLogin io = .ok y.auth) ∨
      ∃ x, s.runtimes[r]? = some x ∧ (y.lookups = x.lookups ∨
        ∃ a attempt event stage, step = .go a event ∧ s.attempts[a]? = some attempt ∧
          attempt.runtime = r ∧
          attempt.go env jwt ord x s.now event = some (y.lookups, stage)) := by
  cases step with
  | prepare config mustLogin io =>
    simp only [AuthWorld.act] at h
    split at h
    · rename_i auth hprepare
      obtain rfl := Option.some.inj h
      rcases Nat.lt_or_ge r s.runtimes.length with hlt | hge
      · exact .inr ⟨y, (List.getElem?_append_left hlt).symm.trans hy, .inl rfl⟩
      · have hnew := (List.getElem?_append_right hge).symm.trans hy
        obtain rfl := List.mem_singleton.mp (List.mem_of_getElem? hnew)
        exact .inl ⟨rfl, config, mustLogin, io, hprepare⟩
    · obtain rfl := Option.some.inj h
      exact .inr ⟨y, hy, .inl rfl⟩
  | activate r' =>
    obtain ⟨runtime, -, h⟩ := Option.bind_eq_some_iff.mp h
    obtain ⟨_, -, h⟩ := Option.bind_eq_some_iff.mp h
    obtain rfl := Option.some.inj h
    obtain ⟨x, hx, hy⟩ := get_update (r := r') hy
    obtain ⟨z, hz, hx⟩ := get_update hx
    refine .inr ⟨z, hz, .inl ?_⟩
    rcases hx with rfl | ⟨-, rfl⟩ <;> rcases hy with rfl | ⟨-, rfl⟩ <;> rfl
  | beginRefresh r' =>
    obtain ⟨runtime, -, h⟩ := Option.bind_eq_some_iff.mp h
    obtain ⟨_, -, h⟩ := Option.bind_eq_some_iff.mp h
    obtain rfl := Option.some.inj h
    obtain ⟨x, hx, hy⟩ := get_update hy
    refine .inr ⟨x, hx, .inl ?_⟩
    rcases hy with rfl | ⟨-, rfl⟩ <;> rfl
  | endRefresh r' response fetchedAt written =>
    obtain ⟨runtime, -, h⟩ := Option.bind_eq_some_iff.mp h
    obtain ⟨_, -, h⟩ := Option.bind_eq_some_iff.mp h
    obtain rfl := Option.some.inj h
    obtain ⟨x, hx, hy⟩ := get_update hy
    refine .inr ⟨x, hx, .inl ?_⟩
    rcases hy with rfl | ⟨-, rfl⟩ <;> rfl
  | attempt token transport now =>
    obtain ⟨runtime, -, h⟩ := Option.bind_eq_some_iff.mp h
    obtain rfl := Option.some.inj h
    exact .inr ⟨y, hy, .inl rfl⟩
  | go a event =>
    obtain ⟨attempt, ha, h⟩ := Option.bind_eq_some_iff.mp h
    obtain ⟨runtime, hr, h⟩ := Option.bind_eq_some_iff.mp h
    obtain ⟨⟨lookups, stage⟩, hgo, h⟩ := Option.bind_eq_some_iff.mp h
    obtain rfl := Option.some.inj h
    obtain ⟨x, hx, hy⟩ := get_update (r := attempt.runtime) hy
    refine .inr ⟨x, hx, ?_⟩
    rcases hy with rfl | ⟨rfl, rfl⟩
    · exact .inl rfl
    · obtain rfl := Option.some.inj (hr.symm.trans hx)
      exact .inr ⟨a, attempt, event, stage, rfl, ha, rfl, hgo⟩

/-- Where a call comes from: it was as it is, it has just begun, or an event has moved it. -/
theorem act_attempts {step : AuthStep} (h : s.act env jwt ord step = some t) {a : Nat}
    {attempt : Attempt} (ha : t.attempts[a]? = some attempt) :
    s.attempts[a]? = some attempt ∨
    (∃ (runtime : Runtime) (now : Nat), step = .attempt attempt.token attempt.transport now ∧
      s.active = attempt.runtime ∧ s.attempts.length = a ∧
      attempt.stage = runtime.begin s.now attempt.transport now) ∨
    ∃ stage event runtime lookups, step = .go a event ∧
      s.attempts[a]? = some { attempt with stage } ∧
      s.runtimes[attempt.runtime]? = some runtime ∧
      t.runtimes[attempt.runtime]? = some { runtime with lookups } ∧
      Attempt.go env jwt ord { attempt with stage } runtime s.now event =
        some (lookups, attempt.stage) := by
  cases step with
  | prepare config mustLogin io =>
    simp only [AuthWorld.act] at h
    split at h <;> obtain rfl := Option.some.inj h <;> exact .inl ha
  | activate r =>
    obtain ⟨runtime, -, h⟩ := Option.bind_eq_some_iff.mp h
    obtain ⟨_, -, h⟩ := Option.bind_eq_some_iff.mp h
    obtain rfl := Option.some.inj h
    exact .inl ha
  | beginRefresh r =>
    obtain ⟨runtime, -, h⟩ := Option.bind_eq_some_iff.mp h
    obtain ⟨_, -, h⟩ := Option.bind_eq_some_iff.mp h
    obtain rfl := Option.some.inj h
    exact .inl ha
  | endRefresh r response fetchedAt written =>
    obtain ⟨runtime, -, h⟩ := Option.bind_eq_some_iff.mp h
    obtain ⟨_, -, h⟩ := Option.bind_eq_some_iff.mp h
    obtain rfl := Option.some.inj h
    exact .inl ha
  | attempt token transport now =>
    obtain ⟨runtime, -, h⟩ := Option.bind_eq_some_iff.mp h
    obtain rfl := Option.some.inj h
    rcases Nat.lt_or_ge a s.attempts.length with hlt | hge
    · exact .inl ((List.getElem?_append_left hlt).symm.trans ha)
    · have hlen := (List.getElem?_eq_some_iff.mp ha).1
      rw [List.length_append, List.length_singleton] at hlen
      have hnew := (List.getElem?_append_right hge).symm.trans ha
      obtain rfl := List.mem_singleton.mp (List.mem_of_getElem? hnew)
      exact .inr (.inl ⟨runtime, now, rfl, rfl, by omega, rfl⟩)
  | go b event =>
    obtain ⟨before, hb, h⟩ := Option.bind_eq_some_iff.mp h
    obtain ⟨runtime, hr, h⟩ := Option.bind_eq_some_iff.mp h
    obtain ⟨⟨lookups, stage⟩, hgo, h⟩ := Option.bind_eq_some_iff.mp h
    obtain rfl := Option.some.inj h
    by_cases hab : b = a
    · subst hab
      have hset := (List.getElem?_set_self (List.getElem?_eq_some_iff.mp hb).1).symm.trans ha
      obtain rfl := Option.some.inj hset
      refine .inr (.inr ⟨before.stage, event, runtime, lookups, rfl, hb, hr, ?_, hgo⟩)
      change (s.runtimes.modify before.runtime _)[before.runtime]? = _
      rw [List.getElem?_modify, hr]
      simp
    · exact .inl ((List.getElem?_set_ne hab).symm.trans ha)

end Steps

end Starry.ConnectionAuth
