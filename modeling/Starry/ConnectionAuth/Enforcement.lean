import Starry.ConnectionAuth.Authorization
import Starry.Library.Text

/-!
# What an enforced call rests on

A call that proceeds under an enforced runtime was verified against the keyset of that moment, and an
active answer for its token was stored not long ago. Neither is looked at again after that: the key may
be gone by then, and the time of an answer is that of its entry in the cache.
-/

open Library

namespace Starry.ConnectionAuth

open Starry.Config (ConnectionAuthConfig ConnectionAuthMode ensure onlyIf)

section

variable (env : Env) (jwt : Jwt) (ord : HashOrder)
variable (signed : Bytes → String → Prop) (claimsOf : String → Option Claims)

/-- A step with `P` was taken before. -/
def Saw (P : AuthWorld → Instant × AuthStep → Prop) (s : AuthWorld) : Prop :=
  Happened (Steps (AuthWorld.step env jwt ord)) .init P s

/-- The call begins, and this runtime is the active one. -/
def Begins (attempt : Attempt) (a now : Nat) (s : AuthWorld) (i : Instant × AuthStep) : Prop :=
  i.2 = .attempt attempt.token attempt.transport now ∧ s.active = attempt.runtime ∧
    s.attempts.length = a

/-- The call is verified, with what its runtime is at that moment. -/
def Verifies (attempt : Attempt) (a now keysNow : Nat) (auth : AuthRuntime) (claims : Claims)
    (s : AuthWorld) (i : Instant × AuthStep) : Prop :=
  i.2 = .go a (.verify keysNow) ∧ s.attempts[a]? = some { attempt with stage := .begun now } ∧
    (s.runtimes[attempt.runtime]?).map (·.auth) = some auth ∧
    Verified env jwt signed claimsOf auth keysNow attempt.token now claims

/-- A call of a runtime has received an active answer for its token, which is stored. -/
def Stores (r : Nat) (token subject : String) (storedAt : Instant) (askedNow : Nat) (s : AuthWorld)
    (i : Instant × AuthStep) : Prop :=
  ∃ b k found runtime call request response,
    i = (storedAt, .go b .finish) ∧
    s.attempts[b]?.map (fun other => (other.token, other.runtime)) = some (token, r) ∧
    s.attempts[b]?.map (·.stage) = some (.asking k found askedNow) ∧
    s.runtimes[r]? = some runtime ∧ runtime.lookups.calls[k]? = some call ∧
    call.phase = .answered request (.ok response) ∧ response.active = true ∧
    response.sub = some subject

/-- What a call rests on that proceeds. -/
def Justified (attempt : Attempt) (a : Nat) (decidedAt : Instant) (s : AuthWorld) : Prop :=
  ∃ now keysNow auth claims,
    auth.effectiveMode = .enforce ∧
    Saw env jwt ord (Begins attempt a now) s ∧
    Saw env jwt ord (Verifies env jwt signed claimsOf attempt a now keysNow auth claims) s ∧
    (auth.config.introspection.url ≠ "" → ∃ storedAt askedNow,
      Saw env jwt ord (Stores attempt.runtime attempt.token claims.sub storedAt askedNow) s ∧
      decidedAt ≤ storedAt +
        secs (min auth.config.introspection.positiveCacheSeconds (claims.exp - askedNow)))

/-! ## What calls rest on -/

/-- What was verified of a call; its runtime is set up as it was then. -/
def Checked (attempt : Attempt) (a : Nat) (found : LocalClaims) (now : Nat) (s : AuthWorld) : Prop :=
  ∃ keysNow auth claims, found = ⟨claims.sub, claims.exp⟩ ∧
    Saw env jwt ord (Begins attempt a now) s ∧
    Saw env jwt ord (Verifies env jwt signed claimsOf attempt a now keysNow auth claims) s ∧
    ∃ runtime, s.runtimes[attempt.runtime]? = some runtime ∧ auth.SameSetup runtime.auth

/-- The call of the introspection is about the token. -/
def Asks (attempt : Attempt) (k : Nat) (found : LocalClaims) (now : Nat) (s : AuthWorld) : Prop :=
  ∃ runtime call, s.runtimes[attempt.runtime]? = some runtime ∧
    runtime.lookups.calls[k]? = some call ∧ call.hash = jwt.sha256 (asBytes attempt.token) ∧
    call.subject = found.subject ∧ call.expiresAt = found.expiresAt ∧ call.nowEpoch = now

/-- What is known of a call where it is. -/
def Traced (attempt : Attempt) (a : Nat) (s : AuthWorld) : Prop :=
  match attempt.stage with
  | .begun now => Saw env jwt ord (Begins attempt a now) s
  | .verified found now => Checked env jwt ord signed claimsOf attempt a found now s
  | .asking k found now =>
    Checked env jwt ord signed claimsOf attempt a found now s ∧ Asks jwt attempt k found now s
  | .decided decision decidedAt => decision.mode = .enforce → decision.proceed = true →
    Justified env jwt ord signed claimsOf attempt a decidedAt s
  | .gone => True

/-- An entry that says active is that of an active answer, for its time. -/
def CacheJustified (s : AuthWorld) : Prop :=
  ∀ (r : Nat) (runtime : Runtime) (hash : Bytes) (entry : CacheEntry),
    s.runtimes[r]? = some runtime → runtime.lookups.cache.entries.get hash = some entry →
    entry.active = true → ∃ token claims storedAt askedNow,
      hash = jwt.sha256 (asBytes token) ∧ claimsOf token = some claims ∧
      Saw env jwt ord (Stores r token claims.sub storedAt askedNow) s ∧
      entry.expiresAt = storedAt + secs
        (min runtime.auth.config.introspection.positiveCacheSeconds (claims.exp - askedNow))

structure Kept (s : AuthWorld) : Prop where
  attempts : ∀ (a : Nat) (attempt : Attempt), s.attempts[a]? = some attempt →
    Traced env jwt ord signed claimsOf attempt a s
  cached : CacheJustified env jwt ord claimsOf s
  linked : ∀ (r : Nat) (runtime : Runtime), s.runtimes[r]? = some runtime → runtime.auth.Linked

end

section Invariant

variable {env : Env} {jwt : Jwt} {ord : HashOrder}
variable {signed : Bytes → String → Prop} {claimsOf : String → Option Claims}
variable {s t : AuthWorld} {i : Instant × AuthStep} {attempt : Attempt} {a : Nat}

theorem Checked.later {found : LocalClaims} {now : Nat}
    (h : Checked env jwt ord signed claimsOf attempt a found now s)
    (hn : s.step env jwt ord i = some t) :
    Checked env jwt ord signed claimsOf attempt a found now t := by
  obtain ⟨keysNow, auth, claims, hfound, hbegan, hverified, runtime, hruntime, hsame⟩ := h
  obtain ⟨runtime', hruntime', hkeeps⟩ := step_runtimes hn _ _ hruntime
  exact ⟨keysNow, auth, claims, hfound, hbegan.later ⟨rfl, hn⟩, hverified.later ⟨rfl, hn⟩, runtime',
    hruntime', hsame.trans hkeeps.setup⟩

theorem Asks.later {k : Nat} {found : LocalClaims} {now : Nat}
    (h : Asks jwt attempt k found now s) (hn : s.step env jwt ord i = some t) :
    Asks jwt attempt k found now t := by
  obtain ⟨runtime, call, hruntime, hk, hcall⟩ := h
  obtain ⟨runtime', hruntime', hkeeps⟩ := step_runtimes hn _ _ hruntime
  obtain ⟨phase, hk'⟩ := hkeeps.calls k call hk
  exact ⟨runtime', _, hruntime', hk', hcall⟩

theorem Justified.later {decidedAt : Instant}
    (h : Justified env jwt ord signed claimsOf attempt a decidedAt s)
    (hn : s.step env jwt ord i = some t) :
    Justified env jwt ord signed claimsOf attempt a decidedAt t := by
  obtain ⟨now, keysNow, auth, claims, hmode, hbegan, hverified, hanswer⟩ := h
  refine ⟨now, keysNow, auth, claims, hmode, hbegan.later ⟨rfl, hn⟩, hverified.later ⟨rfl, hn⟩, ?_⟩
  intro hurl
  obtain ⟨storedAt, askedNow, hstored, hrecent⟩ := hanswer hurl
  exact ⟨storedAt, askedNow, hstored.later ⟨rfl, hn⟩, hrecent⟩

theorem Traced.later (h : Traced env jwt ord signed claimsOf attempt a s)
    (hn : s.step env jwt ord i = some t) : Traced env jwt ord signed claimsOf attempt a t := by
  obtain ⟨token, transport, runtime, stage⟩ := attempt
  cases stage with
  | begun now => exact Happened.later h ⟨rfl, hn⟩
  | verified found now => exact Checked.later h hn
  | asking k found now => exact ⟨h.1.later hn, h.2.later hn⟩
  | decided d decidedAt => exact fun hmode hproceed => (h hmode hproceed).later hn
  | gone => trivial

theorem decision_enforced {mode : ConnectionAuthMode} {result : Except String Unit}
    (hmode : (decision mode result).mode = .enforce)
    (hproceed : (decision mode result).proceed = true) : mode = .enforce ∧ result = .ok () := by
  cases result with
  | ok u => exact ⟨hmode, rfl⟩
  | error reason =>
    by_cases haudit : mode = .audit
    · simp [decision, haudit] at hmode
    · simp [decision, haudit] at hproceed

/-- What was verified, read off the run. -/
theorem Saw.written {now keysNow : Nat} {auth : AuthRuntime} {claims : Claims}
    (h : Saw env jwt ord (Verifies env jwt signed claimsOf attempt a now keysNow auth claims) s) :
    claimsOf attempt.token = some claims := by
  obtain ⟨u, j, v, -, -, -, -, -, -, hverified⟩ := h
  exact hverified.written

/-- A call that proceeds has an answer, if its runtime asks for one. -/
theorem Checked.justified {found : LocalClaims} {now : Nat} {runtime : Runtime}
    {decidedAt : Instant} (h : Checked env jwt ord signed claimsOf attempt a found now s)
    (hruntime : s.runtimes[attempt.runtime]? = some runtime)
    (hmode : runtime.auth.effectiveMode = .enforce)
    (hanswer : ∀ claims, found = ⟨claims.sub, claims.exp⟩ → claimsOf attempt.token = some claims →
      runtime.auth.config.introspection.url ≠ "" → ∃ storedAt askedNow,
        Saw env jwt ord (Stores attempt.runtime attempt.token claims.sub storedAt askedNow) s ∧
        decidedAt ≤ storedAt + secs
          (min runtime.auth.config.introspection.positiveCacheSeconds (claims.exp - askedNow))) :
    Justified env jwt ord signed claimsOf attempt a decidedAt s := by
  obtain ⟨keysNow, auth, claims, hfound, hbegan, hverified, runtime', hruntime', hsame⟩ := h
  obtain rfl := Option.some.inj (hruntime.symm.trans hruntime')
  refine ⟨now, keysNow, auth, claims, hsame.mode.symm.trans hmode, hbegan, hverified, ?_⟩
  rw [← hsame.config]
  exact hanswer claims hfound hverified.written

/-- A cached answer is one for the token itself. -/
theorem cached_answer {runtime : Runtime} {now : Instant} {reason : String} {claims : Claims}
    (hideal : jwt.Ideal signed claimsOf) (hs : CacheJustified env jwt ord claimsOf s)
    (hruntime : s.runtimes[attempt.runtime]? = some runtime)
    (hfound : (cacheLookup now runtime.lookups.cache (jwt.sha256 (asBytes attempt.token))).2 =
      some (true, reason)) (hclaims : claimsOf attempt.token = some claims) :
    ∃ storedAt askedNow,
      Saw env jwt ord (Stores attempt.runtime attempt.token claims.sub storedAt askedNow) s ∧
      now ≤ storedAt + secs
        (min runtime.auth.config.introspection.positiveCacheSeconds (claims.exp - askedNow)) := by
  obtain ⟨entry, hentry, hactive, hlive⟩ := cacheLookup_active hfound
  obtain ⟨token, claims', storedAt, askedNow, hhash, hclaims', hstored, hexpires⟩ :=
    hs _ _ _ _ hruntime hentry hactive
  obtain rfl := hideal.sha256 _ _ hhash
  obtain rfl := Option.some.inj (hclaims.symm.trans hclaims')
  exact ⟨storedAt, askedNow, hstored, hexpires ▸ hlive.le⟩

theorem settled {runtime : Runtime} {now : Instant} {result : Except String Unit}
    (hstage : attempt.stage = runtime.settle now result)
    (h : runtime.auth.effectiveMode = .enforce → result = .ok () →
      Justified env jwt ord signed claimsOf attempt a now s) :
    Traced env jwt ord signed claimsOf attempt a s := by
  unfold Traced
  rw [hstage]
  intro hmode hproceed
  obtain ⟨hmode, hresult⟩ := decision_enforced hmode hproceed
  exact h hmode hresult

theorem cachedResult_ok {found : Bool × String} (h : cachedResult found = .ok ()) :
    ∃ reason, found = (true, reason) := by
  obtain ⟨active, reason⟩ := found
  cases active with
  | false => cases h
  | true => exact ⟨reason, rfl⟩

theorem traced_begin {runtime : Runtime} {now : Instant} {epoch : Nat}
    (hstage : attempt.stage = runtime.begin now attempt.transport epoch)
    (h : Saw env jwt ord (Begins attempt a epoch) s) :
    Traced env jwt ord signed claimsOf attempt a s := by
  unfold Runtime.begin at hstage
  unfold Traced
  simp only at hstage
  split at hstage
  · rw [hstage]
    exact fun _ hproceed => absurd hproceed Bool.false_ne_true
  · split at hstage
    · rename_i hoff
      rw [hstage]
      intro hmode
      cases hoff.symm.trans hmode
    · rw [hstage]
      exact h

/-- A call is verified. -/
theorem traced_verify {runtime : Runtime} {keysNow now : Nat} (hideal : jwt.Ideal signed claimsOf)
    (h₀ : Reachable (Steps (AuthWorld.step env jwt ord)) .init s)
    (hn : s.step env jwt ord i = some t) (hi : i.2 = .go a (.verify keysNow))
    (hbegan : Saw env jwt ord (Begins attempt a now) s)
    (ha : s.attempts[a]? = some { attempt with stage := .begun now })
    (hruntime : s.runtimes[attempt.runtime]? = some runtime) (hlinked : runtime.auth.Linked)
    (hstage : attempt.stage = runtime.verify env jwt i.1 keysNow attempt.token now) :
    Traced env jwt ord signed claimsOf attempt a t := by
  unfold Runtime.verify at hstage
  split at hstage
  · refine settled hstage fun _ hresult => ?_
    cases hresult
  rename_i found hfound
  obtain ⟨claims, hverified, rfl⟩ := verifyLocalAt_ok hideal hfound
  obtain ⟨runtime', hruntime', hkeeps⟩ := step_runtimes hn _ _ hruntime
  have hchecked : Checked env jwt ord signed claimsOf attempt a ⟨claims.sub, claims.exp⟩ now t := by
    refine ⟨keysNow, runtime.auth, claims, rfl, hbegan.later ⟨rfl, hn⟩, ?_, runtime', hruntime',
      hkeeps.setup⟩
    exact .now h₀ ⟨rfl, hn⟩ ⟨hi, ha, by rw [hruntime]; rfl, hverified⟩
  split at hstage
  · unfold Traced
    rw [hstage]
    exact hchecked
  rename_i hclient
  split at hstage
  · refine settled hstage fun _ hresult => ?_
    cases hresult
  · refine settled hstage fun hmode _ => ?_
    refine hchecked.justified hruntime' (hkeeps.setup.mode.trans hmode) fun _ _ _ hurl => ?_
    -- Without a client there is no endpoint.
    have hnone := hlinked (by rw [hmode]; nofun)
    rw [hkeeps.setup.config] at hurl
    rw [Bool.eq_false_of_not_eq_true hclient] at hnone
    exact absurd (by simpa using hnone.symm) hurl

/-- A verified call looks its token up. -/
theorem traced_lookup {runtime : Runtime} {lookups : Lookups} {found : LocalClaims} {now : Nat}
    (hideal : jwt.Ideal signed claimsOf) (hn : s.step env jwt ord i = some t)
    (hcached : CacheJustified env jwt ord claimsOf s)
    (hchecked : Checked env jwt ord signed claimsOf attempt a found now s)
    (hruntime : s.runtimes[attempt.runtime]? = some runtime)
    (hruntime' : t.runtimes[attempt.runtime]? = some { runtime with lookups })
    (hcall : runtime.introspect ord i.1 (.call (jwt.sha256 (asBytes attempt.token)) found.subject
      found.expiresAt now) = some lookups)
    (hstage : attempt.stage =
      match (cacheLookup i.1 runtime.lookups.cache (jwt.sha256 (asBytes attempt.token))).2 with
      | some result => runtime.settle i.1 (cachedResult result)
      | none => .asking runtime.lookups.calls.length found now) :
    Traced env jwt ord signed claimsOf attempt a t := by
  split at hstage
  · rename_i result hfound
    refine settled hstage fun hmode hresult => ?_
    obtain ⟨reason, rfl⟩ := cachedResult_ok hresult
    apply Justified.later _ hn
    exact hchecked.justified hruntime hmode fun claims _ hclaims _ =>
      cached_answer hideal hcached hruntime hfound hclaims
  · unfold Traced
    rw [hstage]
    refine ⟨hchecked.later hn, ?_⟩
    obtain ⟨phase, hk⟩ := call_entered hcall
    exact ⟨_, _, hruntime', hk, rfl, rfl, rfl, rfl⟩

/-- What a call of the introspection has for its attempt when it finishes with an active answer. -/
theorem stores_now {runtime : Runtime} {call : Call} {k now : Nat} {found : LocalClaims}
    {claims : Claims} (h₀ : Reachable (Steps (AuthWorld.step env jwt ord)) .init s)
    (hn : s.step env jwt ord i = some t) (hi : i.2 = .go a .finish)
    (ha : s.attempts[a]? = some { attempt with stage := .asking k found now })
    (hruntime : s.runtimes[attempt.runtime]? = some runtime)
    (hk : runtime.lookups.calls[k]? = some call) (hsubject : call.subject = claims.sub)
    (hanswered : AnsweredActive call) :
    Saw env jwt ord (Stores attempt.runtime attempt.token claims.sub i.1 now) t := by
  obtain ⟨request, response, hphase, hactive, hsub⟩ := hanswered
  refine .now h₀ ⟨rfl, hn⟩ ⟨a, k, found, runtime, call, request, response, ?_, ?_, ?_, hruntime, hk,
    hphase, hactive, hsubject ▸ hsub⟩
  · exact Prod.ext rfl hi
  · rw [ha]
    rfl
  · rw [ha]
    rfl

/-- A call of the introspection goes on. -/
theorem traced_asking {runtime : Runtime} {event : Event} {call : Call} {k now : Nat}
    {found : LocalClaims} (h₀ : Reachable (Steps (AuthWorld.step env jwt ord)) .init s)
    (hn : s.step env jwt ord i = some t) (hi : i.2 = .go a event)
    (htraced : Traced env jwt ord signed claimsOf { attempt with stage := .asking k found now } a s)
    (ha : s.attempts[a]? = some { attempt with stage := .asking k found now })
    (hruntime : s.runtimes[attempt.runtime]? = some runtime)
    (hk : runtime.lookups.calls[k]? = some call)
    (hstage : attempt.stage = runtime.after i.1 call (.asking k found now) event) :
    Traced env jwt ord signed claimsOf attempt a t := by
  obtain ⟨hchecked, runtime', call', hruntime', hk', hhash, hsubject, hrest⟩ := htraced
  obtain rfl := Option.some.inj (hruntime.symm.trans hruntime')
  obtain rfl := Option.some.inj (hk.symm.trans hk')
  unfold Runtime.after at hstage
  split at hstage
  · unfold Traced
    rw [hstage]
    trivial
  · rename_i event _ _ result _ hreturned
    refine settled hstage fun hmode hresult => ?_
    obtain rfl := hresult
    obtain ⟨runtime', hruntime', hkeeps⟩ := step_runtimes hn _ _ hruntime
    have hlater : Checked env jwt ord signed claimsOf attempt a found now t :=
      Checked.later hchecked hn
    refine hlater.justified hruntime' (hkeeps.setup.mode.trans hmode) fun claims hfound _ _ => ?_
    cases event with
    | finish =>
      obtain ⟨answer, hphase, hverdict⟩ := Option.map_eq_some_iff.mp hreturned
      obtain ⟨reason, hverdict⟩ := cachedResult_ok hverdict
      have hanswered := answeredActive_of_verdict hphase (congrArg Prod.fst hverdict)
      have hsub : call.subject = claims.sub := by rw [hsubject, hfound]
      exact ⟨i.1, now, stores_now h₀ hn hi ha hruntime hk hsub hanswered, Nat.le_add_right _ _⟩
    | acquire =>
      simp only [Runtime.returned] at hreturned
      split at hreturned <;> cases hreturned
    | _ => cases hreturned
  · have hsame : attempt = { attempt with stage := .asking k found now } := by rw [← hstage]
    rw [hsame]
    exact Traced.later ⟨hchecked, runtime, call, hruntime, hk, hhash, hsubject, hrest⟩ hn

/-- What is known of a call that an event moves. -/
theorem traced_go {runtime : Runtime} {event : Event} {lookups : Lookups} {stage : Stage}
    (hideal : jwt.Ideal signed claimsOf)
    (h₀ : Reachable (Steps (AuthWorld.step env jwt ord)) .init s)
    (hs : Kept env jwt ord signed claimsOf s) (hn : s.step env jwt ord i = some t)
    (hi : i.2 = .go a event) (ha : s.attempts[a]? = some { attempt with stage })
    (hruntime : s.runtimes[attempt.runtime]? = some runtime)
    (hruntime' : t.runtimes[attempt.runtime]? = some { runtime with lookups })
    (hgo : Attempt.go env jwt ord { attempt with stage } runtime i.1 event =
      some (lookups, attempt.stage)) : Traced env jwt ord signed claimsOf attempt a t := by
  have htraced := hs.attempts a _ ha
  unfold Attempt.go at hgo
  split at hgo
  · rename_i keysNow now hbegun
    obtain rfl : stage = .begun now := hbegun
    obtain ⟨-, hstage⟩ := Prod.mk.inj (Option.some.inj hgo)
    exact traced_verify hideal h₀ hn hi htraced ha hruntime (hs.linked _ _ hruntime) hstage.symm
  · rename_i found now hverified
    obtain rfl : stage = .verified found now := hverified
    obtain ⟨lookups', hcall, heq⟩ := Option.map_eq_some_iff.mp hgo
    obtain ⟨rfl, hstage⟩ := Prod.mk.inj heq
    exact traced_lookup hideal hn hs.cached htraced hruntime hruntime' hcall hstage.symm
  · rename_i k found now hasking
    obtain rfl : stage = .asking k found now := hasking
    obtain ⟨call, hk, hgo⟩ := Option.bind_eq_some_iff.mp hgo
    obtain ⟨step, -, hgo⟩ := Option.bind_eq_some_iff.mp hgo
    obtain ⟨lookups', -, hgo⟩ := Option.bind_eq_some_iff.mp hgo
    obtain ⟨rfl, hstage⟩ := Prod.mk.inj (Option.some.inj hgo)
    exact traced_asking h₀ hn hi htraced ha hruntime hk hstage.symm
  · cases hgo

/-- An entry that an event leaves. -/
theorem cacheJustified_go {runtime : Runtime} {event : Event} {lookups : Lookups} {stage : Stage}
    {hash : Bytes} {entry : CacheEntry}
    (h₀ : Reachable (Steps (AuthWorld.step env jwt ord)) .init s)
    (hs : Kept env jwt ord signed claimsOf s) (hn : s.step env jwt ord i = some t)
    (hi : i.2 = .go a event) (ha : s.attempts[a]? = some attempt)
    (hruntime : s.runtimes[attempt.runtime]? = some runtime)
    (hgo : attempt.go env jwt ord runtime i.1 event = some (lookups, stage))
    (hentry : lookups.cache.entries.get hash = some entry) (hactive : entry.active = true) :
    ∃ token claims storedAt askedNow,
      hash = jwt.sha256 (asBytes token) ∧ claimsOf token = some claims ∧
      Saw env jwt ord (Stores attempt.runtime token claims.sub storedAt askedNow) t ∧
      entry.expiresAt = storedAt + secs
        (min runtime.auth.config.introspection.positiveCacheSeconds (claims.exp - askedNow)) := by
  rcases go_cached hgo hentry hactive with hold |
    ⟨k, found, now, call, rfl, hstage, hk, hhash, hanswered, hexpires⟩
  · obtain ⟨token, claims, storedAt, askedNow, hhash, hclaims, hstored, hexpires⟩ :=
      hs.cached _ _ _ _ hruntime hold hactive
    exact ⟨token, claims, storedAt, askedNow, hhash, hclaims, hstored.later ⟨rfl, hn⟩, hexpires⟩
  · have htraced := hs.attempts a attempt ha
    unfold Traced at htraced
    rw [hstage] at htraced
    obtain ⟨⟨_, _, claims, rfl, -, hverified, -⟩, runtime', call', hruntime', hk', hasked⟩ := htraced
    obtain rfl := Option.some.inj (hruntime.symm.trans hruntime')
    obtain rfl := Option.some.inj (hk.symm.trans hk')
    obtain ⟨hhash', hsubject, hexpiresAt, hnow⟩ := hasked
    refine ⟨attempt.token, claims, i.1, now, hhash.trans hhash', hverified.written, ?_, ?_⟩
    · exact stores_now h₀ hn hi (by rw [ha, ← hstage]) hruntime hk hsubject hanswered
    · rw [hexpires, hexpiresAt, hnow]

/-- What one step preserves. -/
theorem Kept.step (hideal : jwt.Ideal signed claimsOf)
    (h₀ : Reachable (Steps (AuthWorld.step env jwt ord)) .init s)
    (hs : Kept env jwt ord signed claimsOf s) (hn : s.step env jwt ord i = some t) :
    Kept env jwt ord signed claimsOf t := by
  have hact := (step_act hn).2
  constructor
  · intro a attempt ha
    rcases act_attempts hact ha with
      hold | ⟨runtime, now, hi, hactive, hlast, hstage⟩ |
        ⟨stage, event, runtime, lookups, hi, hold, hruntime, hruntime', hgo⟩
    · exact (hs.attempts a attempt hold).later hn
    · exact traced_begin hstage (.now h₀ ⟨rfl, hn⟩ ⟨hi, hactive, hlast⟩)
    · exact traced_go hideal h₀ hs hn hi hold hruntime hruntime' hgo
  · intro r y hash entry hy hentry hactive
    rcases act_from hact hy with ⟨hnew, -⟩ | ⟨x, hx, hlookups⟩
    · rw [hnew] at hentry
      cases (Table.get_empty hash).symm.trans hentry
    obtain ⟨y', hy', hkeeps⟩ := step_runtimes hn _ _ hx
    obtain rfl := Option.some.inj (hy.symm.trans hy')
    rw [hkeeps.setup.config]
    rcases hlookups with hsame | ⟨a, attempt, event, stage, hi, ha, rfl, hgo⟩
    · rw [hsame] at hentry
      obtain ⟨token, claims, storedAt, askedNow, hhash, hclaims, hstored, hexpires⟩ :=
        hs.cached _ _ _ _ hx hentry hactive
      exact ⟨token, claims, storedAt, askedNow, hhash, hclaims, hstored.later ⟨rfl, hn⟩, hexpires⟩
    · exact cacheJustified_go h₀ hs hn hi ha hx hgo hentry hactive
  · intro r y hy
    rcases act_from hact hy with ⟨-, config, mustLogin, io, hprepare⟩ | ⟨x, hx, -⟩
    · exact prepare_linked hprepare
    · obtain ⟨y', hy', hkeeps⟩ := step_runtimes hn _ _ hx
      obtain rfl := Option.some.inj (hy.symm.trans hy')
      exact (hs.linked r x hx).of_sameSetup hkeeps.setup

theorem kept_init : Kept env jwt ord signed claimsOf .init := by
  constructor
  · intro a attempt ha
    simp [AuthWorld.init] at ha
  · intro r runtime hash entry hr hentry
    obtain rfl := List.mem_singleton.mp (List.mem_of_getElem? hr)
    cases (Table.get_empty hash).symm.trans hentry
  · intro r runtime hr
    obtain rfl := List.mem_singleton.mp (List.mem_of_getElem? hr)
    exact fun hmode => absurd rfl hmode

/-- A call that proceeds under an enforced runtime was verified against the keyset that runtime had at
that moment, and rests on an active answer for its token that was stored not long ago. -/
theorem enforced_call_justified (hideal : jwt.Ideal signed claimsOf)
    (h : Reachable (Steps (AuthWorld.step env jwt ord)) .init s) {a : Nat} {attempt : Attempt}
    {decision : AuthDecision} {decidedAt : Instant} (ha : s.attempts[a]? = some attempt)
    (hstage : attempt.stage = .decided decision decidedAt) (hmode : decision.mode = .enforce)
    (hproceed : decision.proceed = true) :
    Justified env jwt ord signed claimsOf attempt a decidedAt s := by
  have hkept : Reachable (Steps (AuthWorld.step env jwt ord)) .init s ∧
      Kept env jwt ord signed claimsOf s := by
    refine h.invariant (P := fun s => Reachable _ _ s ∧ _) ⟨.refl _, kept_init⟩ ?_
    rintro s i t ⟨hr, hs⟩ hn
    exact ⟨hr.step hn, hs.step hideal hr hn.2⟩
  have htraced := hkept.2.attempts a attempt ha
  unfold Traced at htraced
  rw [hstage] at htraced
  exact htraced hmode hproceed

end Invariant

/-! ## A key that is withdrawn while a call waits -/

def fixtureHeader : String :=
  "eyJhbGciOiJFZERTQSIsImtpZCI6Imtlc3Nva3UtZml4dHVyZS0yMDMwLTAxIiwidHlwIjoiYXQrand0In0"

def payloadIssued : String :=
  "eyJhdWQiOlsia2Vzc29rdS1hcGkiLCJydXN0ZGVzay1jb25uZWN0Il0sImF1dGhfdmVyc2lvbiI6NywiZXhwIjox"

def payloadIssuer : String :=
  "ODkzNDU2MzAwLCJpYXQiOjE4OTM0NTU5NDAsImlzcyI6Imh0dHBzOi8vYXBpLmV4YW1wbGUudGVzdCIsImp0aSI6"

def payloadId : String :=
  "IjAxOTQxZjI5LTdjMzAtNzAwMC04MDAwLTAwMDAwMDAwMDAwMSIsIm5iZiI6MTg5MzQ1NTk0MCwic2NvcGUiOlsi"

def payloadSubject : String :=
  "Y29ubmVjdDppbml0aWF0ZSJdLCJzdWIiOiI0MiIsInRva2VuX3VzZSI6ImFjY2VzcyIsInVzZXJfaWQiOjQyfQ"

def fixturePayload : String := payloadIssued ++ payloadIssuer ++ payloadId ++ payloadSubject

def fixtureSignature : String :=
  "Fsj4qtqj0t07NZWQGxB4Gwjm2cnpwnhFvWfaOmvnPmYRT267tmG9Hd2YrG8BriUR4DU0olahdwLCWIGjZJnWCw"

def fixtureToken : String :=
  fixtureHeader ++ "." ++ fixturePayload ++ "." ++ fixtureSignature

def headerJson : String :=
  "\x7b\"alg\":\"EdDSA\",\"kid\":\"kessoku-fixture-2030-01\",\"typ\":\"at+jwt\"\x7d"

def jsonAudience : String :=
  "\x7b\"aud\":[\"kessoku-api\",\"rustdesk-connect\"],\"auth_version\":7,"

def jsonIssuer : String :=
  "\"exp\":1893456300,\"iat\":1893455940,\"iss\":\"https://api.example.test\","

def jsonId : String :=
  "\"jti\":\"01941f29-7c30-7000-8000-000000000001\",\"nbf\":1893455940,"

def jsonSubject : String :=
  "\"scope\":[\"connect:initiate\"],\"sub\":\"42\",\"token_use\":\"access\",\"user_id\":42\x7d"

def payloadJson : String := jsonAudience ++ jsonIssuer ++ jsonId ++ jsonSubject

def signatureBytes : Bytes :=
  [22, 200, 248, 170, 218, 163, 210, 221, 59, 53, 149, 144, 27, 16, 120, 27, 8, 230, 217,
    201, 233, 194, 120, 69, 189, 103, 218, 58, 107, 231, 62, 102, 17, 79, 110, 187, 182, 97,
    189, 29, 221, 152, 172, 111, 1, 174, 37, 17, 224, 53, 52, 162, 86, 161, 119, 2, 194, 88,
    129, 163, 100, 153, 214, 11]

def fixtureDigest : Bytes :=
  [84, 173, 74, 67, 133, 117, 74, 163, 0, 248, 218, 163, 25, 124, 251, 240, 205, 146, 212,
    235, 141, 244, 70, 186, 37, 117, 159, 105, 177, 30, 213, 249]

def fixtureClaims : Claims where
  iss := "https://api.example.test"
  aud := .many ["kessoku-api", "rustdesk-connect"]
  tokenUse := "access"
  scope := .values ["connect:initiate"]
  sub := "42"
  userId := 42
  authVersion := 7
  jti := "01941f29-7c30-7000-8000-000000000001"
  iat := 1893455940
  nbf := 1893455940
  exp := 1893456300

/-- The key of the fixture and the one after it. -/
def fixtureKeyBytes : Bytes :=
  [207, 137, 171, 20, 242, 104, 219, 56, 176, 89, 8, 165, 33, 166, 32, 8, 72, 31, 129, 66,
    150, 113, 107, 103, 76, 28, 28, 202, 161, 34, 226, 161]

def fixtureKey : Jwk where
  kty := "OKP"
  crv := "Ed25519"
  keyUse := "sig"
  alg := "EdDSA"
  kid := "kessoku-fixture-2030-01"
  x := "z4mrFPJo2ziwWQilIaYgCEgfgUKWcWtnTBwcyqEi4qE"

def rotatedKey : Jwk where
  kty := "OKP"
  crv := "Ed25519"
  keyUse := "sig"
  alg := "EdDSA"
  kid := "kessoku-fixture-2030-02"
  x := "AAAAAAAAAAAAAAAAAAAAAAAAAAAAAAAAAAAAAAAAAAA"

/-- A document with one key. -/
def keyDocument (key : Jwk) : Bytes := asBytes
  ("\x7b\"keys\":[\x7b\"kty\":\"OKP\",\"crv\":\"Ed25519\",\"use\":\"sig\",\"alg\":\"EdDSA\"," ++
    "\"kid\":\"" ++ key.kid ++ "\",\"x\":\"" ++ key.x ++ "\"\x7d]\x7d")

/-- Libraries that know two keys and one token. -/
def fixtureEnv : Env :=
  { sampleEnv with
    readDocument := fun raw =>
      if raw = keyDocument fixtureKey then .ok [fixtureKey]
      else if raw = keyDocument rotatedKey then .ok [rotatedKey]
      else .error "expected value"
    decodeBase64Url := fun text =>
      if text = fixtureHeader then some (asBytes headerJson)
      else if text = fixturePayload then some (asBytes payloadJson)
      else if text = fixtureSignature then some signatureBytes
      else if text = fixtureKey.x then some fixtureKeyBytes
      else if text = rotatedKey.x then some (List.replicate 32 0)
      else none }

def fixtureJwt : Jwt where
  encodeBase64Url bytes :=
    if bytes = asBytes headerJson then fixtureHeader
    else if bytes = asBytes payloadJson then fixturePayload
    else fixtureSignature
  decodeHeader token :=
    if token = fixtureToken then some ⟨.edDSA, some "at+jwt", some fixtureKey.kid⟩ else none
  decode token key _ :=
    if token = fixtureToken ∧ key = fixtureKeyBytes then .ok fixtureClaims
    else .error .invalidSignature
  isUuid text := text == "01941f29-7c30-7000-8000-000000000001"
  sha256 raw := if raw = asBytes fixtureToken then fixtureDigest else 0 :: raw

def fixtureSigned (key : Bytes) (token : String) : Prop :=
  token = fixtureToken ∧ key = fixtureKeyBytes

def fixtureClaimsOf (token : String) : Option Claims :=
  if token = fixtureToken then some fixtureClaims else none

theorem fixtureJwt_ideal : fixtureJwt.Ideal fixtureSigned fixtureClaimsOf := by
  constructor
  · intro token key validation claims h
    simp only [fixtureJwt] at h
    split at h
    · assumption
    · cases h
  · intro token key validation claims h
    simp only [fixtureJwt] at h
    split at h
    · rename_i hknown
      rw [fixtureClaimsOf, if_pos hknown.1, ← Except.ok.inj h]
    · cases h
  · intro a b h
    have hother : ∀ raw : Bytes, fixtureDigest ≠ 0 :: raw := by
      intro raw heq
      cases heq
    simp only [fixtureJwt] at h
    split at h <;> split at h
    · rename_i ha hb
      exact asBytes_inj.mp (ha.trans hb.symm)
    · exact absurd h (hother _)
    · exact absurd h.symm (hother _)
    · exact asBytes_inj.mp (List.cons.inj h).2

theorem length_asBytes (text : String) : (asBytes text).length = text.utf8ByteSize := by
  simp [asBytes]

theorem size_fixtureHeader : fixtureHeader.utf8ByteSize = 83 :=
  Text.size_literal (Eq.refl fixtureHeader) (by decide)

theorem size_fixturePayload : fixturePayload.utf8ByteSize = 350 := by
  have hissued : payloadIssued.utf8ByteSize = 88 :=
    Text.size_literal (Eq.refl payloadIssued) (by decide)
  have hissuer : payloadIssuer.utf8ByteSize = 88 :=
    Text.size_literal (Eq.refl payloadIssuer) (by decide)
  have hid : payloadId.utf8ByteSize = 88 :=
    Text.size_literal (Eq.refl payloadId) (by decide)
  have hsubject : payloadSubject.utf8ByteSize = 86 :=
    Text.size_literal (Eq.refl payloadSubject) (by decide)
  simp only [fixturePayload, String.utf8ByteSize_append, hissued, hissuer, hid, hsubject]

theorem size_fixtureSignature : fixtureSignature.utf8ByteSize = 86 :=
  Text.size_literal (Eq.refl fixtureSignature) (by decide)

theorem size_fixtureToken : fixtureToken.utf8ByteSize = 521 := by
  have hdot : ".".utf8ByteSize = 1 := by decide
  simp only [fixtureToken, String.utf8ByteSize_append, size_fixtureHeader, size_fixturePayload,
    size_fixtureSignature, hdot]

theorem size_headerJson : headerJson.utf8ByteSize = 62 :=
  Text.size_literal (Eq.refl headerJson) (by decide)

theorem size_payloadJson : payloadJson.utf8ByteSize = 262 := by
  have haudience : jsonAudience.utf8ByteSize = 59 :=
    Text.size_literal (Eq.refl jsonAudience) (by decide)
  have hissuer : jsonIssuer.utf8ByteSize = 67 :=
    Text.size_literal (Eq.refl jsonIssuer) (by decide)
  have hid : jsonId.utf8ByteSize = 62 :=
    Text.size_literal (Eq.refl jsonId) (by decide)
  have hsubject : jsonSubject.utf8ByteSize = 74 :=
    Text.size_literal (Eq.refl jsonSubject) (by decide)
  simp only [payloadJson, String.utf8ByteSize_append, haudience, hissuer, hid, hsubject]

theorem ne_of_size {a b : String} (h : a.utf8ByteSize ≠ b.utf8ByteSize) : a ≠ b :=
  fun heq => h (congrArg String.utf8ByteSize heq)

def fixtureConfig : ConnectionAuthConfig where
  mode := .enforce
  issuer := "https://api.example.test"
  audience := "rustdesk-connect"
  jwks := { url := "https://api.example.test/jwks" }
  introspection := { url := "https://api.example.test/introspect" }

def fixtureIo : PrepareInput where
  keysFile := .error "not found"
  metadataFile := .notFound
  modified := .error "not found"
  loadedNow := 1893455700
  jwksClient := .ok ()
  response := .ok (keyDocument fixtureKey)
  fetchedAt := 1893455700
  written := .ok ()
  retainedNow := 1893455700
  now := 1893455700
  introspectionClient := .ok ()

/-- The runtime with one key. -/
def fixtureAuth (kid : String) (key : Bytes) (loadedAt : Nat) : AuthRuntime where
  configuredMode := .enforce
  effectiveMode := .enforce
  config := fixtureConfig
  keys := Table.empty.insert kid key
  loadedAtEpochSeconds := some loadedAt
  jwksFile := none
  introspection := true

/-- A document with one key of the profile. -/
theorem parseJwks_single {env : Env} {raw rawKey : Bytes} {key : Jwk}
    (hread : env.readDocument raw = .ok [key]) (hkty : key.kty = "OKP") (hcrv : key.crv = "Ed25519")
    (huse : key.keyUse = "sig") (halg : key.alg = "EdDSA") (hkid : key.kid.isEmpty = false)
    (hlen : (asBytes key.kid).length ≤ 128) (hops : key.keyOps = none)
    (hdecode : env.decodeBase64Url key.x = some rawKey) (hraw : rawKey.length = 32) :
    parseJwks env raw = .ok (Table.empty.insert key.kid rawKey) := by
  have hinsert : insertKey env Table.empty key = .ok (Table.empty.insert key.kid rawKey) := by
    simp [insertKey, ensure, hkty, hcrv, huse, halg, hkid, hlen, hops, hdecode, hraw, bind,
      Except.bind, pure, Except.pure]
  unfold parseJwks
  rw [hread]
  exact (bind_pure _).trans hinsert

theorem parseJwks_fixture : parseJwks fixtureEnv (keyDocument fixtureKey) =
    .ok (Table.empty.insert fixtureKey.kid fixtureKeyBytes) := by
  refine parseJwks_single ?_ rfl rfl rfl rfl (by decide) (by decide) rfl ?_ rfl
  · simp only [fixtureEnv, if_true]
  · have hheader : fixtureKey.x ≠ fixtureHeader := by decide
    have hpayload : fixtureKey.x ≠ fixturePayload := by decide
    have hsignature : fixtureKey.x ≠ fixtureSignature := by decide
    simp only [fixtureEnv, if_neg hheader, if_neg hpayload, if_neg hsignature, if_true]

theorem parseJwks_rotated : parseJwks fixtureEnv (keyDocument rotatedKey) =
    .ok (Table.empty.insert rotatedKey.kid (List.replicate 32 0)) := by
  have hne : keyDocument rotatedKey ≠ keyDocument fixtureKey := by
    unfold keyDocument
    rw [ne_eq, asBytes_inj]
    decide
  refine parseJwks_single ?_ rfl rfl rfl rfl (by decide) (by decide) rfl ?_ rfl
  · simp only [fixtureEnv, if_neg hne, if_true]
  · have hheader : rotatedKey.x ≠ fixtureHeader := by decide
    have hpayload : rotatedKey.x ≠ fixturePayload := by decide
    have hsignature : rotatedKey.x ≠ fixtureSignature := by decide
    have hkey : rotatedKey.x ≠ fixtureKey.x := by decide
    simp only [fixtureEnv, if_neg hheader, if_neg hpayload, if_neg hsignature, if_neg hkey, if_true]

theorem prepare_fixture : prepare fixtureEnv fixtureConfig false fixtureIo =
    .ok (fixtureAuth fixtureKey.kid fixtureKeyBytes 1893455700) := by
  have hjwks : fixtureConfig.jwks.url.isEmpty = false := by decide
  have hintrospection : fixtureConfig.introspection.url.isEmpty = false := by decide
  have hfile : jwksFile fixtureEnv fixtureConfig = none := by simp [jwksFile, fixtureConfig]
  have hdownload : downloadKeys fixtureEnv fixtureConfig .enforce fixtureIo ⟨Table.empty, none, none⟩ =
      .ok ⟨Table.empty.insert fixtureKey.kid fixtureKeyBytes, some 1893455700, none⟩ := by
    simp [downloadKeys, hjwks, hfile, parseJwks_fixture, onlyIf, bind, Except.bind, pure, Except.pure,
      fixtureIo]
  have hmode : effectiveConnectionAuthMode fixtureConfig.mode false = .enforce := rfl
  have henforced : checkEnforced fixtureConfig.jwks.maxStaleSeconds fixtureIo.now
      ⟨Table.empty.insert fixtureKey.kid fixtureKeyBytes, some 1893455700, none⟩ = .ok () := by
    decide
  simp [prepare, hmode, hdownload, localKeys, hfile, hjwks, hintrospection, henforced, onlyIf, ensure,
    bind, Except.bind, pure, Except.pure]
  rfl

theorem splitOn_fixtureToken : fixtureToken.toList.splitOn '.' =
    [fixtureHeader.toList, fixturePayload.toList, fixtureSignature.toList] := by
  have hheader : '.' ∉ fixtureHeader.toList :=
    Text.not_mem_literal (Eq.refl fixtureHeader) (by decide)
  have hissued : '.' ∉ payloadIssued.toList :=
    Text.not_mem_literal (Eq.refl payloadIssued) (by decide)
  have hissuer : '.' ∉ payloadIssuer.toList :=
    Text.not_mem_literal (Eq.refl payloadIssuer) (by decide)
  have hid : '.' ∉ payloadId.toList :=
    Text.not_mem_literal (Eq.refl payloadId) (by decide)
  have hsubject : '.' ∉ payloadSubject.toList :=
    Text.not_mem_literal (Eq.refl payloadSubject) (by decide)
  have hsignature : '.' ∉ fixtureSignature.toList :=
    Text.not_mem_literal (Eq.refl fixtureSignature) (by decide)
  have hpayload : '.' ∉ fixturePayload.toList := by
    simp only [fixturePayload, String.toList_append, List.mem_append, hissued, hissuer, hid, hsubject,
      or_self, not_false_eq_true]
  have htoken : fixtureToken.toList =
      ['.'].intercalate [fixtureHeader.toList, fixturePayload.toList, fixtureSignature.toList] := by
    have hdot : ".".toList = ['.'] := rfl
    simp only [fixtureToken, String.toList_append, hdot, List.intercalate, List.intersperse,
      List.flatten_cons, List.flatten_nil, List.append_nil, List.append_assoc]
  rw [htoken]
  apply List.splitOn_intercalate
  · simp [hheader, hpayload, hsignature]
  · simp

theorem canonical_fixtureToken : canonicalCompactJwt fixtureEnv fixtureJwt fixtureToken = true := by
  have hpayload : fixturePayload ≠ fixtureHeader := ne_of_size (by
    rw [size_fixturePayload, size_fixtureHeader]
    decide)
  have hsignature : fixtureSignature ≠ fixtureHeader := ne_of_size (by
    rw [size_fixtureSignature, size_fixtureHeader]
    decide)
  have hsignature' : fixtureSignature ≠ fixturePayload := ne_of_size (by
    rw [size_fixtureSignature, size_fixturePayload]
    decide)
  have hbytes : asBytes payloadJson ≠ asBytes headerJson := fun heq =>
    absurd (congrArg List.length heq) (by
      rw [length_asBytes, length_asBytes, size_payloadJson, size_headerJson]
      decide)
  have hbytes' : signatureBytes ≠ asBytes headerJson := fun heq =>
    absurd (congrArg List.length heq) (by
      rw [length_asBytes, size_headerJson]
      decide)
  have hbytes'' : signatureBytes ≠ asBytes payloadJson := fun heq =>
    absurd (congrArg List.length heq) (by
      rw [length_asBytes, size_payloadJson]
      decide)
  have hsegment : ∀ {n : Nat} (text : String), text.utf8ByteSize = n + 1 → text.toList ≠ [] := by
    intro n text hsize hnil
    rw [String.toList_eq_nil_iff.mp hnil] at hsize
    cases hsize
  apply canonicalCompactJwt_iff.mpr
  refine ⟨_, _, _, splitOn_fixtureToken, ?_⟩
  simp only [List.forall_mem_cons, String.ofList_toList]
  refine ⟨⟨?_, asBytes headerJson, ?_, ?_⟩, ⟨?_, asBytes payloadJson, ?_, ?_⟩,
    ⟨?_, signatureBytes, ?_, ?_⟩, by simp⟩
  · exact hsegment _ size_fixtureHeader
  · simp only [fixtureEnv, if_true]
  · simp only [fixtureJwt, if_true]
  · exact hsegment _ size_fixturePayload
  · simp only [fixtureEnv, if_neg hpayload, if_true]
  · simp only [fixtureJwt, if_neg hbytes, if_true]
  · exact hsegment _ size_fixtureSignature
  · simp only [fixtureEnv, if_neg hsignature, if_neg hsignature', if_true]
  · simp only [fixtureJwt, if_neg hbytes', if_neg hbytes'']

theorem verify_fixture : verifyLocalAt fixtureEnv fixtureJwt
    (fixtureAuth fixtureKey.kid fixtureKeyBytes 1893455700) 1893456000 fixtureToken 1893456000 =
      .ok ⟨"42", 1893456300⟩ := by
  have hsize : (asBytes fixtureToken).length ≤ fixtureConfig.maxTokenBytes := by
    rw [length_asBytes, size_fixtureToken]
    decide
  have hne : fixtureToken.isEmpty = false := by
    simp [String.isEmpty, size_fixtureToken]
  have hheader : fixtureJwt.decodeHeader fixtureToken =
      some ⟨.edDSA, some "at+jwt", some fixtureKey.kid⟩ := by
    simp only [fixtureJwt, if_true]
  have hkey : (fixtureAuth fixtureKey.kid fixtureKeyBytes 1893455700).key 1893456000
      ⟨.edDSA, some "at+jwt", some fixtureKey.kid⟩ = .ok fixtureKeyBytes := by
    decide
  have hdecode : ∀ v, fixtureJwt.decode fixtureToken fixtureKeyBytes v = .ok fixtureClaims := by
    intro v
    simp only [fixtureJwt, and_self, if_true]
  have hclaims : checkClaims fixtureJwt fixtureConfig 1893456000 fixtureClaims = .ok () := by
    decide
  refine bind_eq_ok.mpr ⟨(), by simp [hne], ?_⟩
  refine bind_eq_ok.mpr ⟨(), Config.ensure_ok.mpr (decide_eq_true hsize), ?_⟩
  refine bind_eq_ok.mpr ⟨(), Config.ensure_ok.mpr canonical_fixtureToken, ?_⟩
  refine bind_eq_ok.mpr ⟨_, orFail_ok.mpr hheader, ?_⟩
  refine bind_eq_ok.mpr ⟨_, hkey, ?_⟩
  refine bind_eq_ok.mpr ⟨fixtureClaims, by rw [hdecode]; rfl, ?_⟩
  exact bind_eq_ok.mpr ⟨(), hclaims, rfl⟩

def activeAnswer : Except String IntrospectionResponse := .ok { active := true, sub := some "42" }

/-- A call whose answer arrives after half a second and is stored ten and a half seconds later; in the
meantime the keyset is refreshed. -/
def lateRun : List (Instant × AuthStep) :=
  [(0, .prepare fixtureConfig false fixtureIo), (0, .activate 1),
    (secs 300, .attempt fixtureToken .tcp 1893456000),
    (secs 300, .go 0 (.verify 1893456000)), (secs 300, .go 0 .lookup), (secs 300, .go 0 .acquire),
    (secs 300, .go 0 .send), (millis 300200, .beginRefresh 1),
    (millis 300300, .endRefresh 1 (.ok (keyDocument rotatedKey)) 1893456000 (.ok ())),
    (millis 300500, .go 0 (.answer (.success activeAnswer))), (secs 311, .go 0 .finish)]

theorem refresh_rotated : refreshJwks fixtureEnv (fixtureAuth fixtureKey.kid fixtureKeyBytes 1893455700)
    (.ok (keyDocument rotatedKey)) 1893456000 (.ok ()) =
      .ok (fixtureAuth rotatedKey.kid (List.replicate 32 0) 1893456000) := by
  have hurl : fixtureConfig.jwks.url.isEmpty = false := by decide
  simp [refreshJwks, parseJwks_rotated, fixtureAuth, hurl, onlyIf, bind, Except.bind, pure,
    Except.pure]

/-- The introspection with one call. -/
def waiting (hash : Bytes) (phase : Phase) (permits requests : Nat) (now : Instant) : Lookups where
  cache := ⟨Table.empty, 0⟩
  permits := permits
  calls := [⟨hash, "42", 1893456300, 1893456000, phase⟩]
  now := now
  requests := requests
  origin := fun _ => 0
  inactive := []

def fixtureHash : Bytes := fixtureJwt.sha256 (asBytes fixtureToken)

/-- The process with one call and the runtime that is active. -/
def lateWorld (auth : AuthRuntime) (lookups : Lookups) (refreshing : Bool) (stage : Stage)
    (now : Instant) : AuthWorld where
  runtimes :=
    [{ auth := .disabled, prepared := false, cancelled := true },
      { auth, lookups, prepared := false, refreshing }]
  active := 1
  attempts := [⟨fixtureToken, .tcp, 1, stage⟩]
  now := now

/-- A call that is verified and has to ask. -/
theorem go_verified {env : Env} {jwt : Jwt} {ord : HashOrder} {attempt : Attempt} {runtime : Runtime}
    {now : Instant} {keysNow epoch : Nat} {claims : LocalClaims}
    (h : verifyLocalAt env jwt runtime.auth keysNow attempt.token epoch = .ok claims)
    (hstage : attempt.stage = .begun epoch) (hclient : runtime.auth.introspection = true) :
    attempt.go env jwt ord runtime now (.verify keysNow) =
      some (runtime.lookups, .verified claims epoch) := by
  unfold Attempt.go
  rw [hstage]
  unfold Runtime.verify
  simp only [h, hclient, if_true]

theorem lateWorld_go {auth : AuthRuntime} {lookups lookups' : Lookups} {refreshing : Bool}
    {stage stage' : Stage} {now now' : Instant} {event : Event} (hnow : now ≤ now')
    (h : Attempt.go fixtureEnv fixtureJwt .stored ⟨fixtureToken, .tcp, 1, stage⟩
      { auth, lookups, prepared := false, refreshing } now' event = some (lookups', stage')) :
    AuthWorld.step fixtureEnv fixtureJwt .stored (lateWorld auth lookups refreshing stage now)
      (now', .go 0 event) = some (lateWorld auth lookups' refreshing stage' now') := by
  refine step_later hnow ?_
  simp [AuthWorld.act, lateWorld, h, AuthWorld.update]

def fixtureBefore : AuthRuntime := fixtureAuth fixtureKey.kid fixtureKeyBytes 1893455700

def fixtureAfter : AuthRuntime := fixtureAuth rotatedKey.kid (List.replicate 32 0) 1893456000

/-- The runtime is active and the call has begun. -/
theorem exec_begun : exec (AuthWorld.step fixtureEnv fixtureJwt .stored) (fun _ _ => true) .init
      [(0, .prepare fixtureConfig false fixtureIo), (0, .activate 1),
        (secs 300, .attempt fixtureToken .tcp 1893456000)] =
    some (lateWorld fixtureBefore .init false (.begun 1893456000) (secs 300)) := by
  have hprepare : AuthWorld.step fixtureEnv fixtureJwt .stored .init
      (0, .prepare fixtureConfig false fixtureIo) =
        some ⟨[{ auth := .disabled, prepared := false }, { auth := fixtureBefore }], 0, [], 0⟩ := by
    simp [AuthWorld.step, AuthWorld.act, AuthWorld.init, prepare_fixture, fixtureBefore]
  rw [exec_cons rfl hprepare]
  rfl

/-- The keyset is replaced. -/
theorem step_refresh (lookups : Lookups) (stage : Stage) :
    exec (AuthWorld.step fixtureEnv fixtureJwt .stored) (fun _ _ => true)
      (lateWorld fixtureBefore lookups false stage (secs 300))
      [(millis 300200, .beginRefresh 1),
        (millis 300300, .endRefresh 1 (.ok (keyDocument rotatedKey)) 1893456000 (.ok ()))] =
    some (lateWorld fixtureAfter lookups false stage (millis 300300)) := by
  have hbegin : AuthWorld.step fixtureEnv fixtureJwt .stored
      (lateWorld fixtureBefore lookups false stage (secs 300)) (millis 300200, .beginRefresh 1) =
        some (lateWorld fixtureBefore lookups true stage (millis 300200)) := by
    have hurl : fixtureBefore.config.jwks.url ≠ "" := by decide
    refine step_later (show secs 300 ≤ millis 300200 by decide) ?_
    simp [AuthWorld.act, lateWorld, AuthWorld.update, hurl, guard]
  have hend : AuthWorld.step fixtureEnv fixtureJwt .stored
      (lateWorld fixtureBefore lookups true stage (millis 300200))
      (millis 300300, .endRefresh 1 (.ok (keyDocument rotatedKey)) 1893456000 (.ok ())) =
        some (lateWorld fixtureAfter lookups false stage (millis 300300)) := by
    refine step_later (show millis 300200 ≤ millis 300300 by decide) ?_
    simp [AuthWorld.act, lateWorld, AuthWorld.update, guard, fixtureBefore, refresh_rotated, fixtureAfter]
  rw [exec_cons rfl hbegin, exec_cons rfl hend]
  rfl

def foundClaims : LocalClaims := ⟨"42", 1893456300⟩

/-- The call has sent its request. -/
theorem exec_sent : exec (AuthWorld.step fixtureEnv fixtureJwt .stored) (fun _ _ => true)
      (lateWorld fixtureBefore .init false (.begun 1893456000) (secs 300))
      [(secs 300, .go 0 (.verify 1893456000)), (secs 300, .go 0 .lookup), (secs 300, .go 0 .acquire),
        (secs 300, .go 0 .send)] =
    some (lateWorld fixtureBefore (waiting fixtureHash (.sent 1 (secs 300 + millis 1000) 0) 1 1 (secs 300)) false
      (.asking 0 foundClaims 1893456000) (secs 300)) := by
  have hverify : Attempt.go fixtureEnv fixtureJwt .stored
      ⟨fixtureToken, .tcp, 1, .begun 1893456000⟩ { auth := fixtureBefore, prepared := false } (secs 300)
      (.verify 1893456000) = some (.init, .verified foundClaims 1893456000) :=
    go_verified verify_fixture rfl rfl
  have hlookup : Attempt.go fixtureEnv fixtureJwt .stored
      ⟨fixtureToken, .tcp, 1, .verified foundClaims 1893456000⟩
      { auth := fixtureBefore, prepared := false } (secs 300) .lookup =
        some (waiting fixtureHash .missed 0 0 (secs 300), .asking 0 foundClaims 1893456000) := by
    have hcall : ∀ hash, ({ auth := fixtureBefore, prepared := false } : Runtime).introspect .stored
        (secs 300) (.call hash foundClaims.subject foundClaims.expiresAt 1893456000) =
          some (waiting hash .missed 0 0 (secs 300)) := fun _ => rfl
    have hcalled := hcall fixtureHash
    unfold Attempt.go
    simp only
    unfold fixtureHash at hcalled ⊢
    rw [hcalled]
    rfl
  have hacquire : Attempt.go fixtureEnv fixtureJwt .stored
      ⟨fixtureToken, .tcp, 1, .asking 0 foundClaims 1893456000⟩
      { auth := fixtureBefore, lookups := waiting fixtureHash .missed 0 0 (secs 300), prepared := false }
      (secs 300) .acquire = some (waiting fixtureHash (.permitted 0 (secs 300 + millis 1000)) 1 0 (secs 300),
        .asking 0 foundClaims 1893456000) := by
    generalize fixtureHash = hash
    rfl
  have hsend : Attempt.go fixtureEnv fixtureJwt .stored
      ⟨fixtureToken, .tcp, 1, .asking 0 foundClaims 1893456000⟩
      { auth := fixtureBefore,
        lookups := waiting fixtureHash (.permitted 0 (secs 300 + millis 1000)) 1 0 (secs 300), prepared := false }
      (secs 300) .send = some (waiting fixtureHash (.sent 1 (secs 300 + millis 1000) 0) 1 1 (secs 300),
        .asking 0 foundClaims 1893456000) := by
    generalize fixtureHash = hash
    rfl
  rw [exec_cons rfl (lateWorld_go (Nat.le_refl _) hverify),
    exec_cons rfl (lateWorld_go (Nat.le_refl _) hlookup),
    exec_cons rfl (lateWorld_go (Nat.le_refl _) hacquire),
    exec_cons rfl (lateWorld_go (Nat.le_refl _) hsend)]
  rfl

/-- The answer arrives, and is stored and taken later. -/
theorem exec_answered : ∃ lookups,
    exec (AuthWorld.step fixtureEnv fixtureJwt .stored) (fun _ _ => true)
      (lateWorld fixtureAfter (waiting fixtureHash (.sent 1 (secs 300 + millis 1000) 0) 1 1 (secs 300)) false
        (.asking 0 foundClaims 1893456000) (millis 300300))
      [(millis 300500, .go 0 (.answer (.success activeAnswer))), (secs 311, .go 0 .finish)] =
    some (lateWorld fixtureAfter lookups false
      (.decided ⟨true, "allow", "allow", .enforce⟩ (secs 311)) (secs 311)) := by
  have hanswer : Attempt.go fixtureEnv fixtureJwt .stored
      ⟨fixtureToken, .tcp, 1, .asking 0 foundClaims 1893456000⟩
      { auth := fixtureAfter,
        lookups := waiting fixtureHash (.sent 1 (secs 300 + millis 1000) 0) 1 1 (secs 300), prepared := false }
      (millis 300500) (.answer (.success activeAnswer)) =
        some (waiting fixtureHash (.answered 0 activeAnswer) 0 1 (millis 300500),
          .asking 0 foundClaims 1893456000) := by
    generalize fixtureHash = hash
    rfl
  have hfinish : ∃ lookups, Attempt.go fixtureEnv fixtureJwt .stored
      ⟨fixtureToken, .tcp, 1, .asking 0 foundClaims 1893456000⟩
      { auth := fixtureAfter,
        lookups := waiting fixtureHash (.answered 0 activeAnswer) 0 1 (millis 300500),
        prepared := false } (secs 311) .finish =
        some (lookups, .decided ⟨true, "allow", "allow", .enforce⟩ (secs 311)) := by
    generalize fixtureHash = hash
    exact ⟨_, rfl⟩
  obtain ⟨lookups, hfinish⟩ := hfinish
  refine ⟨lookups, ?_⟩
  rw [exec_cons rfl (lateWorld_go (show millis 300300 ≤ millis 300500 by decide) hanswer),
    exec_cons rfl (lateWorld_go (show millis 300500 ≤ secs 311 by decide) hfinish)]
  rfl

theorem exec_lateRun : ∃ lookups, exec (AuthWorld.step fixtureEnv fixtureJwt .stored) (fun _ _ => true)
      .init lateRun = some (lateWorld fixtureAfter lookups false
        (.decided ⟨true, "allow", "allow", .enforce⟩ (secs 311)) (secs 311)) := by
  obtain ⟨lookups, hanswered⟩ := exec_answered
  refine ⟨lookups, ?_⟩
  refine (exec_append exec_begun).trans ?_
  refine (exec_append exec_sent).trans ?_
  exact (exec_append (step_refresh _ _)).trans hanswered

/-- The call of that run rests on a key and an answer, each of which was good at its time. -/
theorem enforced_call_justified_late : ∃ s,
    Reachable (Steps (AuthWorld.step fixtureEnv fixtureJwt .stored)) .init s ∧
    Justified fixtureEnv fixtureJwt .stored fixtureSigned fixtureClaimsOf
      ⟨fixtureToken, .tcp, 1, .decided ⟨true, "allow", "allow", .enforce⟩ (secs 311)⟩ 0 (secs 311)
      s := by
  obtain ⟨lookups, hexec⟩ := exec_lateRun
  have hreach : Reachable (Steps (AuthWorld.step fixtureEnv fixtureJwt .stored)) .init _ :=
    ⟨_, Run.of_exec hexec⟩
  exact ⟨_, hreach, enforced_call_justified fixtureJwt_ideal hreach rfl rfl rfl rfl⟩

/-- When it proceeds, its key is not in the keyset any more, and its answer was received longer ago
than an answer is to be used. -/
theorem withdrawn_key_admitted : ∃ s header auth,
    Run (Steps (AuthWorld.step fixtureEnv fixtureJwt .stored)) .init lateRun s ∧
    s.attempts =
      [⟨fixtureToken, .tcp, 1, .decided ⟨true, "allow", "allow", .enforce⟩ (secs 311)⟩] ∧
    s.active = 1 ∧ (s.runtimes[1]?).map (·.auth) = some auth ∧ auth.effectiveMode = .enforce ∧
    fixtureJwt.decodeHeader fixtureToken = some header ∧ header.kid.bind auth.keys.get = none ∧
    ∀ i ∈ lateRun, ∀ a result, i.2 = .go a (.answer result) →
      i.1 + secs (min auth.config.introspection.positiveCacheSeconds
        (fixtureClaims.exp - 1893456000)) < secs 311 := by
  obtain ⟨lookups, hexec⟩ := exec_lateRun
  have hheader : fixtureJwt.decodeHeader fixtureToken =
      some ⟨.edDSA, some "at+jwt", some fixtureKey.kid⟩ := by
    simp only [fixtureJwt, if_true]
  refine ⟨_, _, fixtureAfter, Run.of_exec hexec, rfl, rfl, rfl, rfl, hheader, ?_, ?_⟩
  · change fixtureAfter.keys.get fixtureKey.kid = none
    decide
  · intro i hi a result hanswer
    simp only [lateRun, List.mem_cons, List.not_mem_nil, or_false] at hi
    rcases hi with rfl | rfl | rfl | rfl | rfl | rfl | rfl | rfl | rfl | rfl | rfl <;>
      cases hanswer
    decide

end Starry.ConnectionAuth
