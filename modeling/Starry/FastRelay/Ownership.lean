import Starry.FastRelay.State

/-!
# Who owns a session

`sessions` and `responses` are indexes of `grants`. They are changed on their own in four places,
and `remove_grant` looks at them only when the grant is still there. The indexes stay exact all the
same, so a session belongs to one pair, and the target gets the controller's half of the grant that
the initiator got last.
-/

open Library
open Starry.Quality (normalizeIp)

namespace Starry.FastRelay

/-- Both indexes show the stored grants and nothing else. -/
structure Owned (s : FastRelayState) : Prop where
  sessions : ∀ u k, s.sessions.get u = some k ↔ (s.grants.get k).isSome ∧ k.sessionUuid = u
  responses : ∀ ρ k, s.responses.get ρ = some k ↔ (s.grants.get k).isSome ∧ k.response = ρ

theorem default_owned : Owned .default := by
  constructor <;> simp [FastRelayState.default]

/-- Nothing but rates and counters differs. -/
structure SameGrants (s t : FastRelayState) : Prop where
  grants : t.grants = s.grants
  sessions : t.sessions = s.sessions
  responses : t.responses = s.responses

namespace SameGrants

variable {s t u : FastRelayState}

theorem refl (s : FastRelayState) : SameGrants s s := ⟨rfl, rfl, rfl⟩

theorem trans (h : SameGrants s t) (h' : SameGrants t u) : SameGrants s u :=
  ⟨h'.grants.trans h.grants, h'.sessions.trans h.sessions, h'.responses.trans h.responses⟩

theorem bump (h : SameGrants s t) (c : Counter) : SameGrants s (t.bump c) :=
  ⟨h.grants, h.sessions, h.responses⟩

theorem owned (h : SameGrants s t) (ho : Owned s) : Owned t := by
  constructor
  · rw [h.grants, h.sessions]; exact ho.sessions
  · rw [h.grants, h.responses]; exact ho.responses

end SameGrants

section

variable {sign : Sign} {env : Env} {s t : FastRelayState} {policy : PolicySnapshot} {q : Request}
  {key : GrantKey}

/-! ## Removing -/

theorem removeGrant_get (s : FastRelayState) (key k : GrantKey) :
    (s.removeGrant key).grants.get k = if k = key then none else s.grants.get k := by
  unfold FastRelayState.removeGrant
  split
  · rename_i h
    split
    · rename_i he
      subst he
      exact Option.isNone_iff_eq_none.mp h
    · rfl
  · exact Table.get_remove s.grants key k

theorem removeGrant_owned (h : Owned s) (key : GrantKey) : Owned (s.removeGrant key) := by
  constructor
  · intro u k
    rw [removeGrant_get]
    unfold FastRelayState.removeGrant
    split
    · -- The grant is gone already, and then the indexes do not show it.
      rename_i hnone
      rw [h.sessions]
      split
      · rename_i he
        subst he
        simp [Option.isNone_iff_eq_none.mp hnone]
      · rfl
    · simp only [Table.get_retain, Option.filter_eq_some_iff, h.sessions, bne_iff_ne, ne_eq]
      split
      · simp_all
      · simp_all
  · intro ρ k
    rw [removeGrant_get]
    unfold FastRelayState.removeGrant
    split
    · rename_i hnone
      rw [h.responses]
      split
      · rename_i he
        subst he
        simp [Option.isNone_iff_eq_none.mp hnone]
      · rfl
    · simp only [Table.get_retain, Option.filter_eq_some_iff, h.responses, bne_iff_ne, ne_eq]
      split
      · simp_all
      · simp_all

theorem removeOldestGrant_cases (s : FastRelayState) (env : Env) :
    s.removeOldestGrant env = s ∨ ∃ k, s.removeOldestGrant env = s.removeGrant k := by
  unfold FastRelayState.removeOldestGrant
  split
  · exact .inl rfl
  · exact .inr ⟨_, rfl⟩

/-- The tables into which a record is stored. -/
theorem evicted_cases (s : FastRelayState) (env : Env) (maximum : Nat) (key : GrantKey) :
    ∃ t, (t = s ∨ ∃ k, t = s.removeGrant k) ∧ ∀ record, s.store env maximum key record =
      { (t.removeGrant key) with
        sessions := (t.removeGrant key).sessions.insert key.sessionUuid key
        responses := (t.removeGrant key).responses.insert key.response key
        grants := (t.removeGrant key).grants.insert key record } := by
  unfold FastRelayState.store
  split
  · exact ⟨s.removeOldestGrant env, removeOldestGrant_cases s env, fun _ => rfl⟩
  · exact ⟨s, .inl rfl, fun _ => rfl⟩

/-! ## Storing -/

/-- The grants after a record was stored: it, and others as they were. -/
theorem store_get (s : FastRelayState) (env : Env) (maximum : Nat) (key : GrantKey)
    (record : GrantRecord) {k : GrantKey} {r : GrantRecord}
    (h : (s.store env maximum key record).grants.get k = some r) :
    k = key ∧ r = record ∨ k ≠ key ∧ s.grants.get k = some r := by
  obtain ⟨t, ht, hstore⟩ := evicted_cases s env maximum key
  rw [hstore] at h
  simp only [Table.get_insert, removeGrant_get] at h
  split at h
  · cases h
    exact .inl ⟨‹_›, rfl⟩
  · refine .inr ⟨‹_›, ?_⟩
    rcases ht with rfl | ⟨k', rfl⟩
    · exact h
    · rw [removeGrant_get] at h
      split at h
      · cases h
      · exact h

theorem store_owned (h : Owned s) (hfree : ∀ k, s.sessions.get key.sessionUuid = some k → k = key)
    (env : Env) (maximum : Nat) (record : GrantRecord) :
    Owned (s.store env maximum key record) := by
  obtain ⟨t, ht, hstore⟩ := evicted_cases s env maximum key
  have hown : Owned (t.removeGrant key) := by
    apply removeGrant_owned
    rcases ht with rfl | ⟨k, rfl⟩
    · exact h
    · exact removeGrant_owned h k
  -- No other pair has a grant for this session.
  have hother : ∀ k, ((t.removeGrant key).grants.get k).isSome → k.sessionUuid ≠ key.sessionUuid := by
    intro k hk he
    rw [removeGrant_get] at hk
    split at hk
    · cases hk
    · rename_i hne
      refine hne (hfree k ((h.sessions _ _).mpr ⟨?_, he⟩))
      rcases ht with rfl | ⟨k', rfl⟩
      · exact hk
      · rw [removeGrant_get] at hk
        split at hk
        · cases hk
        · exact hk
  rw [hstore]
  constructor
  · intro u k
    simp only [Table.get_insert]
    by_cases hu : u = key.sessionUuid
    · subst hu
      by_cases hk : k = key
      · simp [hk]
      · simp only [if_pos, if_neg hk, Option.some.injEq, Ne.symm hk, false_iff, not_and]
        exact hother k
    · by_cases hk : k = key
      · subst hk
        rw [if_neg hu, hown.sessions]
        simp [Ne.symm hu]
      · rw [if_neg hu, if_neg hk, hown.sessions]
  · intro ρ k
    simp only [Table.get_insert]
    by_cases hρ : ρ = key.response
    · subst hρ
      by_cases hk : k = key
      · simp [hk]
      · simp only [if_pos, if_neg hk, Option.some.injEq, Ne.symm hk, false_iff, not_and]
        intro hs he
        exact hother k hs (congrArg ResponseKey.sessionUuid he)
    · by_cases hk : k = key
      · subst hk
        rw [if_neg hρ, hown.responses]
        simp [Ne.symm hρ]
      · rw [if_neg hρ, if_neg hk, hown.responses]

/-! ## One call -/

theorem consumeSigningRate_same (s : FastRelayState) (env : Env) (ip : IpAddr) (maximum : Nat) :
    SameGrants s (s.consumeSigningRate env ip maximum).2 := by
  have hsame : SameGrants s (if (s.signingRates.get ip).isNone &&
      decide (s.signingRates.len ≥ max maximum 1) then s.removeOldestSigningRate env else s) := by
    split
    · exact ⟨rfl, rfl, rfl⟩
    · exact .refl s
  unfold FastRelayState.consumeSigningRate
  dsimp only
  generalize (if (s.signingRates.get ip).isNone && decide (s.signingRates.len ≥ max maximum 1)
    then s.removeOldestSigningRate env else s) = t at hsame ⊢
  generalize (if env.instant - ((t.signingRates.get ip).getD ⟨env.instant, 0⟩).windowStarted ≥
    secs signingRateWindowSeconds then (⟨env.instant, 0⟩ : SigningRate)
    else (t.signingRates.get ip).getD ⟨env.instant, 0⟩) = rate
  split
  · exact ⟨hsame.grants, hsame.sessions, hsame.responses⟩
  · exact ⟨hsame.grants, hsame.sessions, hsame.responses⟩

theorem countIssued_same (s : FastRelayState) (fastMedia : Bool) :
    SameGrants s (s.countIssued fastMedia) := by
  unfold FastRelayState.countIssued
  simp only
  split
  · exact ⟨rfl, rfl, rfl⟩
  · exact ⟨rfl, rfl, rfl⟩

/-- Either nothing is issued, or a record with both halves is stored. -/
theorem issue_cases (sign : Sign) (env : Env) (s : FastRelayState) (policy : PolicySnapshot)
    (q : Request) (signingKey : SecretKey) (now : Nat) :
    (∃ t, issue sign env s policy q signingKey now = (.refused, t) ∧ SameGrants s t) ∨
    ∃ target controller t u,
      signGrants sign env policy q signingKey (now + policy.config.authorizationTtlSeconds) =
        some (target, controller) ∧
      now + policy.config.authorizationTtlSeconds ≤ u64Max ∧
      issue sign env s policy q signingKey now = (.issued target controller, u) ∧
      SameGrants s t ∧ SameGrants (t.store env policy.maxAuthorizations q.key
        (q.record env policy target controller (now + policy.config.authorizationTtlSeconds))) u := by
  unfold issue
  split
  · exact .inl ⟨s, rfl, .refl s⟩
  · rename_i htime
    generalize ht : (if policy.config.fastMediaV1Enabled && !q.fastMedia policy
      then (s.bump .fastMediaUnavailable).bump .reliableFallbacks else s) = t
    have hsame : SameGrants s t := by
      rw [← ht]
      split
      · exact ⟨rfl, rfl, rfl⟩
      · exact .refl s
    dsimp only
    split
    · exact .inl ⟨t, rfl, hsame⟩
    · split
      · exact .inl ⟨t, rfl, hsame⟩
      · rename_i target controller hsign
        exact .inr ⟨target, controller, t, _, hsign, by omega, rfl, hsame, countIssued_same _ _⟩

/-- What `authorize_locked` can do: refuse, return the stored grant again, or store a new one. -/
theorem authorizeLocked_cases (sign : Sign) (env : Env) (s : FastRelayState)
    (policy : PolicySnapshot) (q : Request) :
    (∃ t, authorizeLocked sign env s policy q = (.refused, t) ∧ SameGrants s t) ∨
    (∃ r t, s.grants.get q.key = some r ∧
      authorizeLocked sign env s policy q = (.reused r.targetSigned, t) ∧ SameGrants s t) ∨
    ∃ signingKey now target controller t u, q.admit policy = .ok (signingKey, now) ∧
      (∀ k, s.sessions.get q.sessionUuid = some k → k = q.key) ∧
      signGrants sign env policy q signingKey (now + policy.config.authorizationTtlSeconds) =
        some (target, controller) ∧
      now + policy.config.authorizationTtlSeconds ≤ u64Max ∧
      authorizeLocked sign env s policy q = (.issued target controller, u) ∧
      SameGrants s t ∧ SameGrants (t.store env policy.maxAuthorizations q.key
        (q.record env policy target controller (now + policy.config.authorizationTtlSeconds))) u := by
  unfold authorizeLocked
  split
  · exact .inl ⟨_, rfl, (SameGrants.refl s).bump _⟩
  · rename_i signingKey now hadmit
    split
    · exact .inl ⟨_, rfl, (SameGrants.refl s).bump _⟩
    · rename_i hany
      have hfree : ∀ k, s.sessions.get q.sessionUuid = some k → k = q.key := by
        intro k hk
        by_contra hne
        exact hany (by simp [hk, hne])
      split
      · rename_i r hr
        refine .inr (.inl ⟨r, _, ?_, rfl, (SameGrants.refl s).bump _⟩)
        exact (Option.filter_eq_some_iff.mp hr).1
      · have hrate := consumeSigningRate_same s env (normalizeIp q.sourceIp) policy.maxAuthorizations
        split
        · rename_i t hc
          rw [hc] at hrate
          exact .inl ⟨_, rfl, hrate.bump _⟩
        · rename_i t hc
          rw [hc] at hrate
          rcases issue_cases sign env t policy q signingKey now with
            ⟨u, hu, hsame⟩ | ⟨target, controller, v, u, hsign, htime, hu, hsame, hstore⟩
          · exact .inl ⟨u, hu, hrate.trans hsame⟩
          · exact .inr (.inr ⟨signingKey, now, target, controller, v, u, hadmit, hfree, hsign, htime,
              hu, hrate.trans hsame, hstore⟩)

theorem authorizeLocked_owned (h : Owned s) (sign : Sign) (env : Env) (policy : PolicySnapshot)
    (q : Request) : Owned (authorizeLocked sign env s policy q).2 := by
  rcases authorizeLocked_cases sign env s policy q with ⟨t, he, hsame⟩ | ⟨r, t, -, he, hsame⟩ |
    ⟨sk, now, target, controller, t, u, -, hfree, -, -, he, hsame, hstore⟩
  · rw [he]
    exact hsame.owned h
  · rw [he]
    exact hsame.owned h
  · rw [he]
    refine hstore.owned (store_owned (hsame.owned h) ?_ env _ _)
    rw [hsame.sessions]
    exact hfree

theorem responseLocked_same (s : FastRelayState) (policy : PolicySnapshot) (sessionUuid : String)
    (sourceIp : IpAddr) (selectedRelay : String) (now : Nat) :
    SameGrants s (responseLocked s policy sessionUuid sourceIp selectedRelay now).2 := by
  unfold responseLocked
  split
  · exact .refl s
  · exact (SameGrants.refl s).bump _

theorem cleanup_owned (h : Owned s) (env : Env) (policy : PolicySnapshot) (now : Nat) :
    Owned (s.cleanup env policy now) := by
  have hsub : ∀ k, ((s.cleanup env policy now).grants.get k).isSome → (s.grants.get k).isSome := by
    intro k hk
    simp only [FastRelayState.cleanup, Table.get_retain] at hk
    obtain ⟨r, hr⟩ := Option.isSome_iff_exists.mp hk
    rw [(Option.filter_eq_some_iff.mp hr).1]
    rfl
  constructor
  · intro u k
    have hindex : (s.cleanup env policy now).sessions.get u =
        (s.sessions.get u).filter fun k => ((s.cleanup env policy now).grants.get k).isSome :=
      Table.get_retain _ _ _
    rw [hindex, Option.filter_eq_some_iff, h.sessions]
    constructor
    · rintro ⟨⟨-, hu⟩, hk⟩
      exact ⟨hk, hu⟩
    · rintro ⟨hk, hu⟩
      exact ⟨⟨hsub k hk, hu⟩, hk⟩
  · intro ρ k
    have hindex : (s.cleanup env policy now).responses.get ρ =
        (s.responses.get ρ).filter fun k => ((s.cleanup env policy now).grants.get k).isSome :=
      Table.get_retain _ _ _
    rw [hindex, Option.filter_eq_some_iff, h.responses]
    constructor
    · rintro ⟨⟨-, hρ⟩, hk⟩
      exact ⟨hk, hρ⟩
    · rintro ⟨hk, hρ⟩
      exact ⟨⟨hsub k hk, hρ⟩, hk⟩

theorem cleanup_get {k : GrantKey} {r : GrantRecord} {now : Nat}
    (h : (s.cleanup env policy now).grants.get k = some r) : s.grants.get k = some r := by
  simp only [FastRelayState.cleanup, Table.get_retain] at h
  exact (Option.filter_eq_some_iff.mp h).1

end

/-! ## Runs -/

/-- The halves that a new issuance made. -/
def Answer.issuance : Answer → Option (Bytes × Bytes)
  | .issued target controller => some (target, controller)
  | _ => none

/-- The target grant that was returned last for a pair. -/
def System.lastReturned (s : System) (k : GrantKey) : Option Bytes :=
  (s.returned.find? fun e => e.1 == k).bind fun e => e.2.returned

/-- The halves of the grant that was issued last for a pair. -/
def System.lastIssued (s : System) (k : GrantKey) : Option (Bytes × Bytes) :=
  s.returned.findSome? fun e => if e.1 == k then e.2.issuance else none

structure CacheInv (s : System) : Prop where
  owned : Owned s.state
  /-- A stored record is of the issuance that the last returned grant is from. -/
  latest : ∀ k r, s.state.grants.get k = some r → s.lastReturned k = some r.targetSigned ∧
    s.lastIssued k = some (r.targetSigned, r.controllerSigned)

theorem init_cacheInv : CacheInv System.init := by
  refine ⟨default_owned, ?_⟩
  intro k r h
  simp [System.init, FastRelayState.default] at h

section

variable {sign : Sign} {s t : System} {l : Step}

/-- The history of a pair after a grant was returned for a pair. -/
theorem lastReturned_cons (state : FastRelayState) (key k : GrantKey) (a : Answer)
    (es : List (GrantKey × Answer)) :
    System.lastReturned ⟨state, (key, a) :: es⟩ k =
      if key = k then a.returned else System.lastReturned ⟨state, es⟩ k := by
  simp only [System.lastReturned, List.find?_cons]
  by_cases h : key = k
  · simp [h]
  · simp [h, beq_eq_false_iff_ne.mpr h]

theorem lastIssued_cons (state : FastRelayState) (key k : GrantKey) (a : Answer)
    (es : List (GrantKey × Answer)) :
    System.lastIssued ⟨state, (key, a) :: es⟩ k =
      if key = k then a.issuance.or (System.lastIssued ⟨state, es⟩ k)
      else System.lastIssued ⟨state, es⟩ k := by
  simp only [System.lastIssued, List.findSome?_cons, beq_iff_eq]
  by_cases h : key = k
  · simp only [h, if_true]
    cases a.issuance <;> rfl
  · simp [h]

theorem step_cacheInv (hi : CacheInv s) (h : s.step sign l = some t) : CacheInv t := by
  cases l with
  | authorize env policy q =>
    simp only [System.step, Option.some.injEq] at h
    subst h
    refine ⟨authorizeLocked_owned hi.owned sign env policy q, ?_⟩
    intro k r hk
    rcases authorizeLocked_cases sign env s.state policy q with ⟨u, he, hsame⟩ |
      ⟨r', u, hr', he, hsame⟩ | ⟨sk, now, target, controller, v, u, -, -, -, -, he, hsame, hstore⟩
    · simp only [he, hsame.grants] at hk ⊢
      exact hi.latest k r hk
    · simp only [he, hsame.grants] at hk ⊢
      obtain ⟨hret, hiss⟩ := hi.latest k r hk
      simp only [Answer.returned, Option.isSome_some, if_true, lastReturned_cons, lastIssued_cons,
        Answer.issuance, Option.none_or]
      split
      · rename_i hkey
        rw [hkey, hk] at hr'
        cases hr'
        exact ⟨rfl, hiss⟩
      · exact ⟨hret, hiss⟩
    · simp only [he, hstore.grants] at hk ⊢
      simp only [Answer.returned, Option.isSome_some, if_true, lastReturned_cons, lastIssued_cons,
        Answer.issuance, Option.some_or]
      rcases store_get _ _ _ _ _ hk with ⟨rfl, rfl⟩ | ⟨hne, hk⟩
      · simp [Request.record]
      · rw [hsame.grants] at hk
        simp only [if_neg (Ne.symm hne)]
        exact hi.latest k r hk
  | response policy sessionUuid sourceIp selectedRelay now =>
    cases h
    have hsame := responseLocked_same s.state policy sessionUuid sourceIp selectedRelay now
    refine ⟨hsame.owned hi.owned, ?_⟩
    intro k r hk
    rw [hsame.grants] at hk
    exact hi.latest k r hk
  | cleanup env policy now =>
    cases h
    exact ⟨cleanup_owned hi.owned env policy now, fun k r hk => hi.latest k r (cleanup_get hk)⟩

theorem run_cacheInv {ls : List Step} (h : Run (Steps (System.step sign)) System.init ls s) :
    CacheInv s := by
  refine h.invariant init_cacheInv ?_
  rintro s l t hi ⟨-, hstep⟩
  exact step_cacheInv hi hstep

/-- A request for a session of another pair is refused. -/
theorem authorizeLocked_other {state : FastRelayState} (ho : Owned state) {env : Env}
    {policy : PolicySnapshot} {q : Request} {k : GrantKey} {r : GrantRecord}
    (hk : state.grants.get k = some r) (hu : k.sessionUuid = q.sessionUuid) (hne : k ≠ q.key) :
    (authorizeLocked sign env state policy q).1.returned = none ∧
      SameGrants state (authorizeLocked sign env state policy q).2 := by
  have hsession : state.sessions.get q.sessionUuid = some k :=
    (ho.sessions _ _).mpr ⟨by rw [hk]; rfl, hu⟩
  rcases authorizeLocked_cases sign env state policy q with ⟨t, he, hsame⟩ | ⟨r', t, hr', -, -⟩ |
    ⟨sk, now, target, controller, t, u, -, hfree, -, -, -, -, -⟩
  · rw [he]
    exact ⟨rfl, hsame⟩
  · have hown := (ho.sessions q.sessionUuid q.key).mpr ⟨by rw [hr']; rfl, rfl⟩
    rw [hsession] at hown
    exact absurd (Option.some.inj hown) hne
  · exact absurd (hfree k hsession) hne

/-- A response is the controller's half of a stored grant, for the target it names. -/
theorem responseLocked_some {state : FastRelayState} (ho : Owned state) {policy : PolicySnapshot}
    {u relay : String} {ip : IpAddr} {now : Nat} {b : Bytes}
    (h : (responseLocked state policy u ip relay now).1 = some b) :
    ∃ k r, state.grants.get k = some r ∧ k.sessionUuid = u ∧ k.targetIp = normalizeIp ip ∧
      r.controllerSigned = b ∧ now < r.expiresAt := by
  unfold responseLocked at h
  split at h
  · cases h
  · simp only [Option.map_eq_some_iff, Option.filter_eq_some_iff, Option.bind_eq_some_iff] at h
    obtain ⟨r, ⟨⟨k, hk, hr⟩, hok⟩, hb⟩ := h
    have hkey := ((ho.responses _ _).mp hk).2
    simp only [Bool.and_eq_true, decide_eq_true_eq] at hok
    exact ⟨k, r, hr, congrArg ResponseKey.sessionUuid hkey, congrArg ResponseKey.targetIp hkey, hb,
      hok.1.2⟩

end

/-- In every reachable cache both indexes are exact, a session belongs to one pair, calls of other
pairs get nothing and change nothing, and a target gets the half that goes with the grant returned
last for its pair. -/
theorem session_ownership (sign : Sign) {ls : List Step} {s : System}
    (h : Run (Steps (System.step sign)) System.init ls s) :
    Owned s.state ∧
    (∀ k k', (s.state.grants.get k).isSome → (s.state.grants.get k').isSome →
      k.sessionUuid = k'.sessionUuid → k = k') ∧
    (∀ env policy q k r, s.state.grants.get k = some r → k.sessionUuid = q.sessionUuid → k ≠ q.key →
      (authorizeLocked sign env s.state policy q).1.returned = none ∧
        SameGrants s.state (authorizeLocked sign env s.state policy q).2) ∧
    (∀ policy u ip relay now k r, s.state.grants.get k = some r → k.sessionUuid = u →
      k.targetIp ≠ normalizeIp ip → (responseLocked s.state policy u ip relay now).1 = none ∧
        SameGrants s.state (responseLocked s.state policy u ip relay now).2) ∧
    ∀ policy u ip relay now b, (responseLocked s.state policy u ip relay now).1 = some b →
      ∃ k target, (s.state.grants.get k).isSome ∧ k.sessionUuid = u ∧
        k.targetIp = normalizeIp ip ∧ s.lastReturned k = some target ∧
        s.lastIssued k = some (target, b) := by
  have hi := run_cacheInv h
  have hone : ∀ k k', (s.state.grants.get k).isSome → (s.state.grants.get k').isSome →
      k.sessionUuid = k'.sessionUuid → k = k' := by
    intro k k' hk hk' hu
    have h1 := (hi.owned.sessions k'.sessionUuid k).mpr ⟨hk, hu⟩
    have h2 := (hi.owned.sessions k'.sessionUuid k').mpr ⟨hk', rfl⟩
    exact Option.some.inj (h1.symm.trans h2)
  refine ⟨hi.owned, hone, ?_, ?_, ?_⟩
  · intro env policy q k r hk hu hne
    exact authorizeLocked_other hi.owned hk hu hne
  · intro policy u ip relay now k r hk hu hne
    refine ⟨?_, responseLocked_same _ _ _ _ _ _⟩
    by_contra hsome
    obtain ⟨b, hb⟩ := Option.ne_none_iff_exists'.mp hsome
    obtain ⟨k', r', hk', hu', ht', -⟩ := responseLocked_some hi.owned hb
    have := hone k k' (by rw [hk]; rfl) (by rw [hk']; rfl) (hu.trans hu'.symm)
    exact hne (this ▸ ht')
  · intro policy u ip relay now b hb
    obtain ⟨k, r, hk, hu, ht, hc, -⟩ := responseLocked_some hi.owned hb
    obtain ⟨hret, hiss⟩ := hi.latest k r hk
    exact ⟨k, r.targetSigned, by rw [hk]; rfl, hu, ht, hret, hc ▸ hiss⟩

/-! ## A session -/

def samplePolicy : PolicySnapshot :=
  { generation := 1, maxAuthorizations := 10,
    config := { fastCompatEnabled := true, fastMediaV1Enabled := true,
                authorizationTtlSeconds := 90, maxBitrateKbps := 50000, relayMaxDatagram := 1200 } }

def sampleEndpoint : Observer.FastMediaRelayEndpoint := ⟨1, 22119, rfl⟩

def sampleRequest : Request :=
  { sessionUuid := "session", sourceIp := .v4 1, targetIp := .v4 2, selectedRelay := " Relay-A:21117",
    transport := .secureTcp, auth := ⟨true, "allow"⟩, qualitySelection := none,
    fastMediaEndpoint := some sampleEndpoint, signingKey := some [7], now := some 1800000000 }

def sampleEnv : Env := ⟨0, .stored, ⟨List.replicate 16 5, List.length_replicate⟩⟩

/-- A signature of 64 bytes in front of the message. -/
def sampleSign : Sign := fun message key => List.replicate 64 (key.headD 0) ++ message

/-- The target of a session gets its half, and the initiator's next request the same grant. -/
theorem session_ownership_delivered : ∃ s b,
    Run (Steps (System.step sampleSign)) System.init
      [.authorize sampleEnv samplePolicy sampleRequest,
        .authorize sampleEnv samplePolicy sampleRequest] s ∧
    (responseLocked s.state samplePolicy "session" (.v4 2) "relay-a:21117" 1800000001).1 = some b ∧
    ∃ target, s.lastReturned sampleRequest.key = some target ∧
      s.lastIssued sampleRequest.key = some (target, b) := by
  have h : (exec (System.step sampleSign) (fun _ _ => true) System.init
      [.authorize sampleEnv samplePolicy sampleRequest,
        .authorize sampleEnv samplePolicy sampleRequest]).any (fun s =>
      (responseLocked s.state samplePolicy "session" (.v4 2) "relay-a:21117" 1800000001).1.isSome &&
      (s.state.grants.get sampleRequest.key).isSome) = true := by
    decide
  simp only [Option.any_eq_true, Bool.and_eq_true, Option.isSome_iff_exists] at h
  obtain ⟨s, hs, ⟨b, hb⟩, r, hr⟩ := h
  obtain ⟨-, hone, -, -, hresp⟩ := session_ownership sampleSign (.of_exec hs)
  obtain ⟨k, target, hk, hu, -, hret, hiss⟩ := hresp _ _ _ _ _ b hb
  obtain rfl := hone k sampleRequest.key hk (by rw [hr]; rfl) hu
  exact ⟨s, b, .of_exec hs, hb, target, hret, hiss⟩

end Starry.FastRelay
