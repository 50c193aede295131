import Starry.Downgrade.Drain
import Starry.FastRelay.Issuance

/-!
# Drain evidence from the cache

`runtime_snapshot` counts the grants that are cached, and an export takes a count of zero for the
end of FastMedia. A relay still accepts every grant that was signed and has not expired, so the
evidence is as good as the cache: each live grant has to be in it, or one that expires no earlier.
-/

open Library
open Starry.ConfigStore (Value)
open Starry.Downgrade

namespace Starry.FastRelay

/-! ## The snapshot -/

/-- The fields of `RuntimeSnapshot` that are not event counters. -/
structure RuntimeSnapshot where
  protocolVersion : Nat
  fastCompatEnabled : Bool
  fastMediaV1Enabled : Bool
  activeAuthorizations : Nat
  activeFastMediaAuthorizations : Nat
  lastFastMediaAuthorizationExpiresAtUnix : Nat
deriving DecidableEq, Repr

/-- The cached grants for FastMedia, as they are visited. -/
def FastRelayState.fastMediaRecords (s : FastRelayState) (order : HashOrder) : List GrantRecord :=
  ((s.grants.iter order).map (·.2)).filter (·.fastMedia)

def runtimeSnapshot (env : Env) (policy : PolicySnapshot) (now : Nat) (s : FastRelayState) :
    RuntimeSnapshot × FastRelayState :=
  let s := s.cleanup env policy now
  let records := s.fastMediaRecords env.order
  ({ protocolVersion
     fastCompatEnabled := policy.config.fastCompatEnabled
     fastMediaV1Enabled := policy.config.fastMediaV1Enabled
     activeAuthorizations := s.grants.len
     activeFastMediaAuthorizations := records.length
     lastFastMediaAuthorizationExpiresAtUnix := (records.map (·.expiresAt)).max?.getD 0 }, s)

/-- The snapshot as the answer to `relays`, with what HBBS knows of the relays. -/
def RuntimeSnapshot.toValue (s : RuntimeSnapshot) (relays : List Value) : Value :=
  .object [
    ("relays", .array relays),
    ("fast_relay", .object [
      ("protocol_version", .uint s.protocolVersion),
      ("fast_compat_enabled", .bool s.fastCompatEnabled),
      ("fast_media_v1_enabled", .bool s.fastMediaV1Enabled),
      ("active_authorizations", .uint s.activeAuthorizations),
      ("active_fast_media_authorizations", .uint s.activeFastMediaAuthorizations),
      ("last_fast_media_authorization_expires_at_unix",
        .uint s.lastFastMediaAuthorizationExpiresAtUnix)])]

/-! ## Runs of one process -/

namespace Step

def reading : Step → Option Nat
  | .authorize _ _ q => q.now
  | .response _ _ _ _ now | .cleanup _ _ now => some now

def instant : Step → Option Instant
  | .authorize env _ _ | .cleanup env _ _ => some env.instant
  | .response .. => none

/-- The record of the grants that a call signs. -/
def signs (sign : Sign) (s : FastRelayState) : Step → Option GrantRecord
  | .authorize env policy q =>
    match (authorizeLocked sign env s policy q).1, q.now with
    | .issued target controller, some now =>
      some (q.record env policy target controller (now + policy.config.authorizationTtlSeconds))
    | _, _ => none
  | .response .. | .cleanup .. => none

def apply (sign : Sign) (s : FastRelayState) : Step → FastRelayState
  | .authorize env policy q => (authorizeLocked sign env s policy q).2
  | .response policy sessionUuid sourceIp selectedRelay now =>
    (responseLocked s policy sessionUuid sourceIp selectedRelay now).2
  | .cleanup env policy now => s.cleanup env policy now

end Step

/-- The cache, and three ghosts: the records of all grants that were signed and the last readings
of the clocks. -/
structure Ledger where
  state : FastRelayState
  signed : List GrantRecord
  clock : Nat
  instant : Instant

def Ledger.init : Ledger := ⟨.default, [], 0, 0⟩

/-- The clocks do not go back. -/
def Ledger.timely (l : Ledger) (step : Step) : Bool :=
  (step.reading.all fun now => decide (l.clock ≤ now)) &&
    step.instant.all fun instant => decide (l.instant ≤ instant)

def Ledger.step (sign : Sign) (l : Ledger) (step : Step) : Option Ledger :=
  some { state := step.apply sign l.state
         signed := (step.signs sign l.state).toList ++ l.signed
         clock := step.reading.getD l.clock
         instant := step.instant.getD l.instant }

/-! ## What a call takes out of the cache -/

/-- The grant that `remove_oldest_grant` picks. -/
def oldestGrant (env : Env) (s : FastRelayState) : Option GrantKey :=
  (maxByKey (fun e : GrantKey × GrantRecord => env.instant - e.2.created)
    (s.grants.iter env.order)).map (·.1)

/-- The step takes the grant of a pair out of the cache without asking whether it has expired: it
is older than the current TTL, it is replaced, or it has to make room. -/
def Step.Drops (sign : Sign) (s : FastRelayState) : Step → GrantKey → Prop
  | .authorize env policy q, k =>
    ((Step.authorize env policy q).signs sign s).isSome = true ∧
      (k = q.key ∨ s.grants.get q.key = none ∧ s.grants.len ≥ max policy.maxAuthorizations 1 ∧
        oldestGrant env s = some k)
  | .response .., _ => False
  | .cleanup env policy _, k => ∃ r, s.grants.get k = some r ∧
      env.instant - r.created > secs policy.config.authorizationTtlSeconds

/-- A grant for FastMedia that expires no earlier than `r`. -/
def GrantRecord.Outlasts (r' r : GrantRecord) : Prop :=
  r'.fastMedia = true ∧ r.expiresAt ≤ r'.expiresAt

/-- A FastMedia grant that a step takes out of the cache has expired, or one that expires no
earlier stays there or is signed in its place. -/
def Spares (sign : Sign) (s : FastRelayState) (step : Step) : Prop :=
  ∀ k r, s.grants.get k = some r → r.fastMedia = true →
    (∀ now, step.reading = some now → now < r.expiresAt) → step.Drops sign s k →
    (∃ r', step.signs sign s = some r' ∧ r'.Outlasts r) ∨
      ∃ k' r', s.grants.get k' = some r' ∧ r'.Outlasts r ∧ ¬ step.Drops sign s k'

/-- The steps of a process whose clocks do not go back. -/
def Ledger.Next (sign : Sign) : Ledger → Step → Ledger → Prop :=
  Guarded (Ledger.step sign) Ledger.timely

def Ledger.SparingNext (sign : Sign) (l : Ledger) (step : Step) (m : Ledger) : Prop :=
  l.Next sign step m ∧ Spares sign l.state step

/-- Whatever snapshot is taken next: if the export finds no blocker in its drain state, every
FastMedia grant that was signed has expired. -/
def Ledger.EvidenceSound (l : Ledger) (env : Env) (policy : PolicySnapshot) (now : Nat) : Prop :=
  ∀ relays observed previewed value,
    fastMediaDrainStateFromSnapshot ((runtimeSnapshot env policy now l.state).1.toValue relays)
      observed = .ok value →
    drainBlockers previewed (parseDrainState value) = [] →
    ∀ g ∈ l.signed, g.fastMedia = true → g.expiresAt ≤ now

/-! ## The cache after a step -/

section

variable {sign : Sign} {env : Env} {s t : FastRelayState} {policy : PolicySnapshot} {q : Request}
  {key k : GrantKey} {r record : GrantRecord} {maximum : Nat} {step : Step}

/-- Storing a record puts the oldest grant out. -/
def Evicts (s : FastRelayState) (env : Env) (maximum : Nat) (key k : GrantKey) : Prop :=
  s.grants.get key = none ∧ s.grants.len ≥ max maximum 1 ∧ oldestGrant env s = some k

theorem evicts_congr (h : t.grants = s.grants) :
    Evicts t env maximum key k ↔ Evicts s env maximum key k := by
  unfold Evicts oldestGrant
  rw [h]

theorem removeOldestGrant_get (s : FastRelayState) (env : Env) (k : GrantKey) :
    (s.removeOldestGrant env).grants.get k =
      if oldestGrant env s = some k then none else s.grants.get k := by
  unfold FastRelayState.removeOldestGrant oldestGrant
  split
  · rename_i hnone
    simp [hnone]
  · rename_i oldest hsome
    rw [removeGrant_get, hsome]
    simp [eq_comm]

theorem store_self : (s.store env maximum key record).grants.get key = some record := by
  obtain ⟨t, _, hstore⟩ := evicted_cases s env maximum key
  rw [hstore]
  simp

/-- Another grant is stored after a call if and only if it was, and was not put out. -/
theorem store_other (hne : k ≠ key) : (s.store env maximum key record).grants.get k = some r ↔
    s.grants.get k = some r ∧ ¬ Evicts s env maximum key k := by
  have hremoved : ∀ t : FastRelayState, ((t.removeGrant key).grants.insert key record).get k =
      t.grants.get k := by
    intro t
    rw [Table.get_insert, if_neg hne, removeGrant_get, if_neg hne]
  unfold FastRelayState.store Evicts
  dsimp only
  rw [hremoved]
  split
  · rename_i hfull
    simp only [Bool.and_eq_true, Option.isNone_iff_eq_none, decide_eq_true_eq] at hfull
    rw [removeOldestGrant_get]
    split
    · rename_i hold
      simp [hfull, hold]
    · rename_i hold
      simp [hold]
  · rename_i hfull
    simp only [Bool.and_eq_true, Option.isNone_iff_eq_none, decide_eq_true_eq] at hfull
    constructor
    · exact fun h => ⟨h, fun he => hfull ⟨he.1, he.2.1⟩⟩
    · exact fun h => h.1

/-- A call signs nothing and leaves the grants alone, or it stores the record it signs. -/
theorem authorize_cases (sign : Sign) (env : Env) (s : FastRelayState) (policy : PolicySnapshot)
    (q : Request) :
    ((Step.authorize env policy q).signs sign s = none ∧
      ((Step.authorize env policy q).apply sign s).grants = s.grants) ∨
    ∃ (record : GrantRecord) (t : FastRelayState),
      (Step.authorize env policy q).signs sign s = some record ∧ t.grants = s.grants ∧
      ((Step.authorize env policy q).apply sign s).grants =
        (t.store env policy.maxAuthorizations q.key record).grants := by
  simp only [Step.signs, Step.apply]
  rcases authorizeLocked_cases sign env s policy q with ⟨t, he, hsame⟩ | ⟨r, t, -, he, hsame⟩ |
    ⟨sk, now, target, controller, t, u, hadmit, -, -, -, he, hsame, hstore⟩
  · rw [he]
    exact .inl ⟨rfl, hsame.grants⟩
  · rw [he]
    exact .inl ⟨rfl, hsame.grants⟩
  · rw [he, (admit_ok hadmit).time]
    exact .inr ⟨_, t, rfl, hsame.grants, hstore.grants⟩

theorem authorize_drops {t : FastRelayState} (hsign : (Step.authorize env policy q).signs sign s =
    some record) (ht : t.grants = s.grants) :
    (Step.authorize env policy q).Drops sign s k ↔
      k = q.key ∨ Evicts t env policy.maxAuthorizations q.key k := by
  rw [evicts_congr ht]
  simp only [Step.Drops, hsign, Option.isSome_some, true_and]
  exact Iff.rfl

/-- A grant that has not expired stays, unless the step drops it. -/
theorem apply_keeps (h : s.grants.get k = some r)
    (hlive : ∀ now, step.reading = some now → now < r.expiresAt)
    (hkeep : ¬ step.Drops sign s k) : (step.apply sign s).grants.get k = some r := by
  cases step with
  | authorize env policy q =>
    obtain ⟨_, hsame⟩ | ⟨record, t, hsign, ht, hstore⟩ := authorize_cases sign env s policy q
    · rw [hsame]
      exact h
    · rw [authorize_drops hsign ht, not_or] at hkeep
      rw [hstore, store_other hkeep.1, ht]
      exact ⟨h, hkeep.2⟩
  | response policy uuid ip relay now =>
    unfold Step.apply
    rw [(responseLocked_same s policy uuid ip relay now).grants]
    exact h
  | cleanup env policy now =>
    have hnow : now < r.expiresAt := hlive now rfl
    have hage : env.instant - r.created ≤ secs policy.config.authorizationTtlSeconds :=
      not_lt.mp fun hold => hkeep ⟨r, h, hold⟩
    simp only [Step.apply, FastRelayState.cleanup, Table.get_retain, h, Option.filter_some]
    simp [hage, hnow]

theorem apply_signs (h : step.signs sign s = some r) :
    ∃ k, (step.apply sign s).grants.get k = some r := by
  cases step with
  | authorize env policy q =>
    obtain ⟨hnone, _⟩ | ⟨record, t, hsign, _, hstore⟩ := authorize_cases sign env s policy q
    · rw [hnone] at h
      cases h
    · rw [hsign] at h
      cases h
      exact ⟨q.key, by rw [hstore, store_self]⟩
  | response policy uuid ip relay now => cases h
  | cleanup env policy now => cases h

/-- What is cached after a step was signed by it, or was cached and is not dropped. -/
theorem of_apply (h : (step.apply sign s).grants.get k = some r) :
    step.signs sign s = some r ∨ s.grants.get k = some r ∧ ¬ step.Drops sign s k := by
  cases step with
  | authorize env policy q =>
    obtain ⟨hnone, hsame⟩ | ⟨record, t, hsign, ht, hstore⟩ := authorize_cases sign env s policy q
    · rw [hsame] at h
      refine .inr ⟨h, fun hdrop => ?_⟩
      have hsigns := hdrop.1
      rw [hnone] at hsigns
      cases hsigns
    · rw [hstore] at h
      by_cases hk : k = q.key
      · rw [hk, store_self] at h
        exact .inl (hsign.trans h)
      · rw [store_other hk, ht] at h
        rw [authorize_drops hsign ht]
        exact .inr ⟨h.1, not_or.mpr ⟨hk, h.2⟩⟩
  | response policy uuid ip relay now =>
    unfold Step.apply at h
    rw [(responseLocked_same s policy uuid ip relay now).grants] at h
    exact .inr ⟨h, id⟩
  | cleanup env policy now =>
    have hget := cleanup_get h
    refine .inr ⟨hget, ?_⟩
    rintro ⟨r', hr', hold⟩
    rw [hget] at hr'
    cases hr'
    simp only [Step.apply, FastRelayState.cleanup, Table.get_retain, hget,
      Option.filter_some] at h
    split at h
    · rename_i hkeep
      simp only [Bool.and_eq_true, decide_eq_true_eq] at hkeep
      exact absurd hkeep.1 (not_le.mpr hold)
    · cases h

/-- A cleanup leaves nothing that has expired. -/
theorem cleanup_live {now : Nat} (h : (s.cleanup env policy now).grants.get k = some r) :
    now < r.expiresAt := by
  simp only [FastRelayState.cleanup, Table.get_retain, Option.filter_eq_some_iff] at h
  simp only [Bool.and_eq_true, decide_eq_true_eq] at h
  exact h.2.2

theorem mem_fastMediaRecords {order : HashOrder} :
    r ∈ s.fastMediaRecords order ↔ (∃ k, s.grants.get k = some r) ∧ r.fastMedia = true := by
  unfold FastRelayState.fastMediaRecords
  rw [List.mem_filter, List.mem_map]
  constructor
  · rintro ⟨⟨⟨k, r⟩, hmem, rfl⟩, hmedia⟩
    exact ⟨⟨k, Table.mem_iter.mp hmem⟩, hmedia⟩
  · rintro ⟨⟨k, hk⟩, hmedia⟩
    exact ⟨⟨(k, r), Table.mem_iter.mpr hk, rfl⟩, hmedia⟩

/-! ## Runs -/

/-- Every live grant is cached, or one that expires no earlier, and only grants that were signed
are cached. -/
structure Ledger.Covered (l : Ledger) : Prop where
  live : ∀ g ∈ l.signed, g.fastMedia = true → l.clock < g.expiresAt →
    ∃ k r, l.state.grants.get k = some r ∧ r.Outlasts g
  cached : ∀ k r, l.state.grants.get k = some r → r ∈ l.signed

variable {l m : Ledger} {now : Nat}

theorem init_covered : Ledger.init.Covered := by
  refine ⟨fun g hg => ?_, fun k r h => ?_⟩
  · exact absurd hg List.not_mem_nil
  · simp [Ledger.init, FastRelayState.default] at h

theorem GrantRecord.Outlasts.trans {a b c : GrantRecord} (h : a.Outlasts b) (h' : b.Outlasts c) :
    a.Outlasts c :=
  ⟨h.1, h'.2.trans h.2⟩

/-- The clock of the ledger is at the reading of the step, and was not after it. -/
theorem timely_reading (h : l.timely step = true) (hread : step.reading = some now) :
    l.clock ≤ now := by
  simp only [Ledger.timely, hread, Option.all_some, Bool.and_eq_true, decide_eq_true_eq] at h
  exact h.1

theorem step_clock (h : l.Next sign step m) : l.clock ≤ m.clock ∧
    ∀ now, step.reading = some now → m.clock = now := by
  obtain ⟨htime, hstep⟩ := h
  cases hstep
  refine ⟨?_, fun now hread => by simp [hread]⟩
  cases hread : step.reading with
  | none => exact le_rfl
  | some now => exact timely_reading htime hread

theorem step_signed (h : l.Next sign step m) : m.state = step.apply sign l.state ∧
    m.signed = (step.signs sign l.state).toList ++ l.signed := by
  obtain ⟨_, hstep⟩ := h
  cases hstep
  exact ⟨rfl, rfl⟩

theorem cached_next (hc : l.Covered) (h : l.Next sign step m) {k : GrantKey} {r : GrantRecord}
    (hget : m.state.grants.get k = some r) : r ∈ m.signed := by
  obtain ⟨hstate, hsigned⟩ := step_signed h
  rw [hstate] at hget
  rw [hsigned]
  obtain hsign | ⟨hold, _⟩ := of_apply hget
  · rw [hsign]
    exact List.mem_cons_self
  · exact List.mem_append_right _ (hc.cached k r hold)

/-- A sparing step keeps every live grant covered. -/
theorem covered_next (hc : l.Covered) (h : l.SparingNext sign step m) : m.Covered := by
  obtain ⟨h, hspare⟩ := h
  obtain ⟨hstate, hsigned⟩ := step_signed h
  obtain ⟨hclock, hreading⟩ := step_clock h
  refine ⟨fun g hg hmedia hlive => ?_, fun k r hget => cached_next hc h hget⟩
  rw [hstate]
  rw [hsigned, List.mem_append, Option.mem_toList] at hg
  obtain hsign | hg := hg
  · obtain ⟨k, hk⟩ := apply_signs hsign
    exact ⟨k, g, hk, hmedia, le_rfl⟩
  · obtain ⟨k, r, hk, hr⟩ := hc.live g hg hmedia (lt_of_le_of_lt hclock hlive)
    have hlater : ∀ r' : GrantRecord, r'.Outlasts g →
        ∀ now, step.reading = some now → now < r'.expiresAt := by
      intro r' hr' now hread
      rw [hreading now hread] at hlive
      exact lt_of_lt_of_le hlive hr'.2
    by_cases hdrop : step.Drops sign l.state k
    · obtain ⟨r', hsign, hr'⟩ | ⟨k', r', hk', hr', hkeep⟩ :=
        hspare k r hk hr.1 (hlater r hr) hdrop
      · obtain ⟨k', hk'⟩ := apply_signs hsign
        exact ⟨k', r', hk', hr'.trans hr⟩
      · exact ⟨k', r', apply_keeps hk' (hlater r' (hr'.trans hr)) hkeep, hr'.trans hr⟩
    · exact ⟨k, r, apply_keeps hk (hlater r hr) hdrop, hr⟩

theorem run_covered {ls : List Step} (h : Run (Ledger.SparingNext sign) .init ls l) : l.Covered :=
  h.invariant init_covered fun _ _ _ hc hn => covered_next hc hn

/-! ## The evidence -/

/-- A drain state without blockers was made of a cache without FastMedia. -/
theorem records_of_no_blockers {relays : List Value} {observed previewed : Nat} {value : Value}
    (h : fastMediaDrainStateFromSnapshot ((runtimeSnapshot env policy now s).1.toValue relays)
      observed = .ok value)
    (hb : drainBlockers previewed (parseDrainState value) = []) :
    (s.cleanup env policy now).fastMediaRecords env.order = [] := by
  obtain ⟨fastRelay, enabled, authorizations, expiry, allocations, streams, hrelay, -, hauth, -,
    rfl⟩ := fastMediaDrainState_ok h
  rw [parseDrainState_made] at hb
  have hzero : authorizations = 0 := no_authorization hb
  have hcount : authorizations = ((s.cleanup env policy now).fastMediaRecords env.order).length := by
    cases hrelay
    exact (Option.some.inj hauth).symm
  exact List.eq_nil_of_length_eq_zero (hcount.symm.trans hzero)

/-- In every run in which no FastMedia grant is taken out of the cache before it expires, unless
one that expires no earlier is there, evidence of a drained HBBS is sound. -/
theorem drain_evidence_sound {ls : List Step} (h : Run (Ledger.SparingNext sign) .init ls l)
    (htime : l.timely (.cleanup env policy now) = true)
    (hspare : Spares sign l.state (.cleanup env policy now)) : l.EvidenceSound env policy now := by
  intro relays observed previewed value hvalue hblockers g hg hmedia
  by_contra hlive
  -- The snapshot is a cleanup first.
  have hnext : l.SparingNext sign (.cleanup env policy now) _ := ⟨⟨htime, rfl⟩, hspare⟩
  obtain ⟨k, r, hk, hr⟩ := (covered_next (run_covered h) hnext).live g
    (List.mem_append_right _ hg) hmedia (not_le.mp hlive)
  have hmem : r ∈ (l.state.cleanup env policy now).fastMediaRecords env.order :=
    mem_fastMediaRecords.mpr ⟨⟨k, hk⟩, hr.1⟩
  rw [records_of_no_blockers hvalue hblockers] at hmem
  exact absurd hmem List.not_mem_nil

/-- The evidence of a cache that FastMedia has left, under a policy without FastMedia. -/
theorem evidence_of_no_records (hmedia : policy.config.fastMediaV1Enabled = false)
    (hnone : (s.cleanup env policy now).fastMediaRecords env.order = []) :
    ∃ value, fastMediaDrainStateFromSnapshot
        ((runtimeSnapshot env policy now s).1.toValue []) 0 = .ok value ∧
      drainBlockers 0 (parseDrainState value) = [] := by
  have hsnapshot : (runtimeSnapshot env policy now s).1 =
      ⟨protocolVersion, policy.config.fastCompatEnabled, false,
        (s.cleanup env policy now).grants.len, 0, 0⟩ := by
    unfold runtimeSnapshot
    dsimp only
    rw [hmedia, hnone]
    rfl
  rw [hsnapshot]
  exact ⟨_, rfl, rfl⟩

/-- Only a step that has read the clock drops a grant. -/
theorem drops_reading (h : step.Drops sign s k) : ∃ now, step.reading = some now := by
  cases step with
  | authorize env policy q =>
    have hsigns := h.1
    cases hnow : q.now with
    | none => simp [Step.signs, hnow] at hsigns
    | some now => exact ⟨now, hnow⟩
  | response policy uuid ip relay now => exact h.elim
  | cleanup env policy now => exact ⟨now, rfl⟩

/-- Where a step does not spare a grant, the evidence is wrong until the grant expires. -/
theorem unspared_grant_hidden (hc : l.Covered) (h : l.Next sign step m)
    (hspare : ¬ Spares sign l.state step) :
    ∃ env policy now, m.timely (.cleanup env policy now) = true ∧
      Spares sign m.state (.cleanup env policy now) ∧ ¬ m.EvidenceSound env policy now := by
  obtain ⟨hstate, hsigned⟩ := step_signed h
  unfold Spares at hspare
  push Not at hspare
  obtain ⟨k, r, hk, hmedia, hlive, hdrop, hnew, hold⟩ := hspare
  -- The last second of the grant.
  have hlast : m.clock ≤ r.expiresAt - 1 ∧ 0 < r.expiresAt := by
    obtain ⟨now, hread⟩ := drops_reading hdrop
    have hnow := hlive now hread
    rw [(step_clock h).2 now hread]
    omega
  have houtlasts : ∀ k' r', m.state.grants.get k' = some r' → ¬ r'.Outlasts r := by
    intro k' r' hget hr'
    rw [hstate] at hget
    obtain hsign | ⟨hget, hkeep⟩ := of_apply hget
    · exact hnew r' hsign hr'
    · exact hkeep (hold k' r' hget hr')
  let policy : PolicySnapshot := ⟨0, ⟨false, false, 0, 0, 0⟩, 0⟩
  let env : Env := ⟨m.instant, .stored, ⟨List.replicate 16 0, List.length_replicate⟩⟩
  refine ⟨env, policy, r.expiresAt - 1, ?_, ?_, fun hsound => ?_⟩
  · simp [Ledger.timely, Step.reading, Step.instant, env, hlast.1]
  · intro k' r' hget hmedia' hlive' _
    have hlater : r.expiresAt - 1 < r'.expiresAt := hlive' _ rfl
    exact absurd ⟨hmedia', by omega⟩ (houtlasts k' r' hget)
  · have hnone : (m.state.cleanup env policy (r.expiresAt - 1)).fastMediaRecords env.order = [] := by
      refine List.eq_nil_iff_forall_not_mem.mpr fun r' hmem => ?_
      obtain ⟨⟨k', hget⟩, hmedia'⟩ := mem_fastMediaRecords.mp hmem
      have hlater := cleanup_live hget
      exact houtlasts k' r' (cleanup_get hget) ⟨hmedia', by omega⟩
    obtain ⟨value, hvalue, hblockers⟩ := evidence_of_no_records rfl hnone
    have hmem : r ∈ m.signed := by
      rw [hsigned]
      exact List.mem_append_right _ (hc.cached k r hk)
    have hexpired := hsound [] 0 0 value hvalue hblockers r hmem hmedia
    omega

end

/-! ## Two cleanups -/

/-- FastMedia is turned off, and the TTL is `ttl` from now on. -/
def offPolicy (ttl : Nat) : PolicySnapshot :=
  { samplePolicy with
    generation := 2
    config := { samplePolicy.config with fastMediaV1Enabled := false, authorizationTtlSeconds := ttl } }

def laterEnv (seconds : Nat) : Env := { sampleEnv with instant := secs seconds }

def issuing : Step := .authorize sampleEnv samplePolicy sampleRequest

/-- The cache after the first grant of a session, at 1800000000 for 90 seconds. -/
def issuedLedger : Ledger :=
  { state := issuing.apply sampleSign .default
    signed := (issuing.signs sampleSign .default).toList ++ []
    clock := 1800000000, instant := 0 }

theorem issuedLedger_next : Ledger.init.SparingNext sampleSign issuing issuedLedger := by
  refine ⟨⟨by decide, rfl⟩, fun k r h => ?_⟩
  simp [Ledger.init, FastRelayState.default] at h

theorem issuedLedger_signed :
    issuedLedger.signed.map (fun g => (g.fastMedia, g.expiresAt)) = [(true, 1800000090)] := by
  decide

theorem issuedLedger_grant : ∃ g, issuedLedger.signed = [g] ∧ g.fastMedia = true ∧
    g.expiresAt = 1800000090 := by
  obtain ⟨g, hsigned, hg⟩ := List.map_eq_singleton_iff.mp issuedLedger_signed
  obtain ⟨hmedia, hexpires⟩ := Prod.mk.inj hg
  exact ⟨g, hsigned, hmedia, hexpires⟩

/-- Ninety seconds later the grant has expired. -/
theorem drain_evidence_sound_expired :
    Run (Ledger.SparingNext sampleSign) .init [issuing] issuedLedger ∧
      (∃ g ∈ issuedLedger.signed, g.fastMedia = true) ∧
      issuedLedger.EvidenceSound (laterEnv 90) (offPolicy 90) 1800000090 := by
  obtain ⟨g, hsigned, hmedia, hexpires⟩ := issuedLedger_grant
  have hrun := Run.single issuedLedger_next
  refine ⟨hrun, ⟨g, ?_, hmedia⟩, drain_evidence_sound hrun (by decide) fun k r hk _ hlive => ?_⟩
  · rw [hsigned]
    exact List.mem_singleton_self g
  · have hmem := (run_covered hrun).cached k r hk
    rw [hsigned, List.mem_singleton] at hmem
    have hlater : 1800000090 < r.expiresAt := hlive _ rfl
    rw [hmem, hexpires] at hlater
    omega

/-- FastMedia is turned off and the TTL shortened to 30 seconds. After 31 seconds the grant has left
the cache, the export has no blocker, and a relay still takes the grant for 59 seconds. -/
theorem shortened_ttl_hides_grant : ∃ value, ∃ g ∈ issuedLedger.signed,
    Run (Ledger.Next sampleSign) .init [issuing] issuedLedger ∧
    issuedLedger.timely (.cleanup (laterEnv 31) (offPolicy 30) 1800000031) = true ∧
    fastMediaDrainStateFromSnapshot ((runtimeSnapshot (laterEnv 31) (offPolicy 30) 1800000031
      issuedLedger.state).1.toValue []) 1800000031 = .ok value ∧
    drainBlockers 1800000031 (parseDrainState value) = [] ∧
    g.fastMedia = true ∧ 1800000031 < g.expiresAt := by
  obtain ⟨g, hsigned, hmedia, hexpires⟩ := issuedLedger_grant
  refine ⟨_, g, by rw [hsigned]; exact List.mem_singleton_self g, .single issuedLedger_next.1,
    by decide, rfl, ?_, hmedia, by omega⟩
  decide

end Starry.FastRelay
