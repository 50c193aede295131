import Starry.ConnectionAuth.Introspection

/-!
# Inactive answers stand

An entry of the cache holds the answer that was stored last. Where no active answer is overtaken by an
inactive one, an entry that says active was not asked for before a token was found inactive, or that
was long ago.
-/

open Library

namespace Starry.ConnectionAuth

open Starry.Config (IntrospectionConfig)

section

variable (config : IntrospectionConfig)

/-- An active answer is taken only where no later request was answered inactive shortly before. -/
def notOvertaken (s : Lookups) (i : Instant × CallStep) : Bool :=
  match i.2, s.authorizes i with
  | .finish _, some (hash, request) => s.Stands config i.1 hash request
  | _, _ => true

/-- What says active in the cache still stands. -/
structure CacheStands (s : Lookups) : Prop where
  past : ∀ inactive ∈ s.inactive, inactive.storedAt ≤ s.now
  cached : ∀ hash entry, s.cache.entries.get hash = some entry → entry.active = true →
    s.Stands config s.now hash (s.origin hash)

end

variable {config : IntrospectionConfig} {ord : HashOrder} {s t : Lookups}

theorem get_evictTimes {limit n : Nat} {entries : Table Bytes CacheEntry} {hash : Bytes}
    {entry : CacheEntry} (h : (evictTimes ord limit n entries).get hash = some entry) :
    entries.get hash = some entry := by
  induction n generalizing entries with
  | zero => exact h
  | succ n ih =>
    rw [evictTimes] at h
    split at h
    · exact Table.get_of_removeMax (ih h)
    · exact h

/-- The rounds are enough. -/
theorem len_evictTimes {limit n : Nat} {entries : Table Bytes CacheEntry} (h : entries.len ≤ n) :
    (evictTimes ord limit n entries).len ≤ limit := by
  induction n generalizing entries with
  | zero =>
    rw [evictTimes]
    omega
  | succ n ih =>
    rw [evictTimes]
    split
    · have hlen := Table.len_removeMax ord
        (fun entry : CacheEntry => OrderDual.toDual entry.sequence) (m := entries) (by omega)
      exact ih (by omega)
    · omega

/-- A lookup only takes entries away. -/
theorem get_cacheLookup {now : Instant} {cache : IntrospectionCache} (hash : Bytes) {hash' : Bytes}
    {entry : CacheEntry} (h : (cacheLookup now cache hash).1.entries.get hash' = some entry) :
    cache.entries.get hash' = some entry := by
  unfold cacheLookup at h
  rw [Table.get_retain] at h
  exact (Option.filter_eq_some_iff.mp h).1

theorem cacheLookup_active {now : Instant} {cache : IntrospectionCache} {hash : Bytes}
    {reason : String} (h : (cacheLookup now cache hash).2 = some (true, reason)) :
    ∃ entry, cache.entries.get hash = some entry ∧ entry.active = true ∧ now < entry.expiresAt := by
  unfold cacheLookup at h
  obtain ⟨entry, hentry, heq⟩ := Option.map_eq_some_iff.mp h
  rw [Table.get_retain] at hentry
  obtain ⟨hentry, hlive⟩ := Option.filter_eq_some_iff.mp hentry
  exact ⟨entry, hentry, (Prod.mk.inj heq).1, by simpa using hlive⟩

/-- What is in the cache after a verdict was stored: the verdict, or what was there. -/
theorem get_cacheStore {now : Instant} {cache : IntrospectionCache} {hash hash' : Bytes}
    {active : Bool} {reason : String} {tokenExp nowEpoch : Nat} {entry : CacheEntry}
    (h : (cacheStore config ord now cache hash active reason tokenExp nowEpoch).entries.get hash' =
      some entry) :
    (hash' = hash ∧ entry.active = active ∧
        entry.expiresAt = now + secs (cacheTtl config active tokenExp nowEpoch) ∧
        cacheTtl config active tokenExp nowEpoch ≠ 0) ∨
      ((hash' ≠ hash ∨ cacheTtl config active tokenExp nowEpoch = 0) ∧
        cache.entries.get hash' = some entry) := by
  unfold cacheStore at h
  simp only at h
  split at h
  · rename_i hzero
    exact .inr ⟨.inr hzero, h⟩
  · rename_i hstored
    have hinsert := get_evictTimes h
    rw [Table.get_insert] at hinsert
    split at hinsert
    · rename_i hhash
      obtain rfl := Option.some.inj hinsert
      exact .inl ⟨hhash, rfl, rfl, hstored⟩
    · rename_i hhash
      exact .inr ⟨.inl hhash, hinsert⟩

/-! ## Steps -/

theorem Lookups.Stands.mono {now now' : Instant} {hash : Bytes} {request : Nat}
    (h : s.Stands config now hash request) (hnow : now ≤ now') : s.Stands config now' hash request :=
  fun inactive hmem hhash hlater => (h inactive hmem hhash hlater).trans hnow

/-- A step that stores nothing. -/
theorem CacheStands.keep (hs : CacheStands config s) (hnow : s.now ≤ t.now)
    (hcache : ∀ hash entry, t.cache.entries.get hash = some entry →
      s.cache.entries.get hash = some entry)
    (horigin : t.origin = s.origin) (hinactive : t.inactive = s.inactive) :
    CacheStands config t := by
  constructor
  · intro inactive hmem
    rw [hinactive] at hmem
    exact (hs.past inactive hmem).trans hnow
  · intro hash entry hentry hactive
    have hstands := (hs.cached hash entry (hcache hash entry hentry) hactive).mono hnow
    unfold Lookups.Stands at hstands ⊢
    rwa [hinactive, horigin]

theorem acquire_keeps {k : Nat} {call : Call} (h : s.acquire config k call = some t) :
    t.now = s.now ∧ t.cache = s.cache ∧ t.origin = s.origin ∧ t.inactive = s.inactive := by
  unfold Lookups.acquire at h
  split at h
  · split at h <;> obtain rfl := Option.some.inj h <;> exact ⟨rfl, rfl, rfl, rfl⟩
  · cases h

theorem send_keeps {k : Nat} {call : Call} (h : s.send k call = some t) :
    t.now = s.now ∧ t.cache = s.cache ∧ t.origin = s.origin ∧ t.inactive = s.inactive := by
  unfold Lookups.send at h
  split at h
  · split at h <;> obtain rfl := Option.some.inj h <;> exact ⟨rfl, rfl, rfl, rfl⟩
  · cases h

theorem answer_keeps {k : Nat} {call : Call} {result : HttpResult}
    (h : s.answer k call result = some t) :
    t.now = s.now ∧ t.cache = s.cache ∧ t.origin = s.origin ∧ t.inactive = s.inactive := by
  unfold Lookups.answer at h
  split at h
  · split at h <;> obtain rfl := Option.some.inj h <;> exact ⟨rfl, rfl, rfl, rfl⟩
  · cases h

/-- What is logged of a result. -/
theorem mem_note_inactive (config : IntrospectionConfig) {call : Call} {request : Option Nat}
    {result : Except String IntrospectionResponse} {inactive : Inactive}
    (h : inactive ∈ (s.note config call request result).inactive) :
    inactive ∈ s.inactive ∨
      inactive.hash = call.hash ∧ inactive.storedAt = s.now ∧
        (verdict call.subject result).1 = false := by
  simp only [Lookups.note] at h
  split at h
  · rename_i request response
    split at h
    · exact .inl h
    · rename_i hactive
      rcases List.mem_cons.mp h with rfl | h
      · exact .inr ⟨rfl, rfl, by simp [verdict, hactive]⟩
      · exact .inl h
  · exact .inl h

theorem note_origin {call : Call} {request : Option Nat}
    {result : Except String IntrospectionResponse} {hash : Bytes}
    (h : hash ≠ call.hash ∨ cacheTtl config (verdict call.subject result).1 call.expiresAt
      call.nowEpoch = 0) :
    (s.note config call request result).origin hash = s.origin hash := by
  simp only [Lookups.note]
  split
  · rfl
  · rename_i hstored
    rcases h with hne | hzero
    · rw [Function.update_of_ne hne]
    · exact absurd hzero hstored

/-- A verdict that is active answers a request. -/
theorem isSome_of_verdict {phase : Phase} {answer : Option Nat × Except String IntrospectionResponse}
    (h : phase.result = some answer) {subject : String}
    (hverdict : (verdict subject answer.2).1 = true) : answer.1.isSome = true := by
  cases phase with
  | answered request result =>
    obtain rfl := Option.some.inj h
    rfl
  | timedOut =>
    obtain rfl := Option.some.inj h
    cases hverdict
  | _ => cases h

/-- A verdict that is active stands when it is taken; one that is not leaves no entry that says
active, unless it is forgotten at once. -/
theorem CacheStands.finish (hs : CacheStands config s) {k : Nat} {call : Call}
    (hactive : ∀ answer, call.phase.result = some answer →
      (verdict call.subject answer.2).1 = true →
        s.Stands config s.now call.hash (answer.1.getD 0))
    (h : s.finish config ord k call = some t) : CacheStands config t := by
  obtain ⟨⟨request, result⟩, hphase, rfl⟩ := Option.map_eq_some_iff.mp h
  constructor
  · intro inactive hmem
    rcases mem_note_inactive config hmem with hmem | ⟨-, hat, -⟩
    · exact hs.past inactive hmem
    · exact hat.le
  · intro hash entry hentry hentryActive inactive hmem hhash hlater
    rcases get_cacheStore hentry with ⟨rfl, hverdict, -, hstored⟩ | ⟨hkept, hold⟩
    · -- The entry is the verdict, so it is active and logs nothing.
      have hverdict : (verdict call.subject result).1 = true := hverdict.symm.trans hentryActive
      rcases mem_note_inactive config hmem with hmem | ⟨-, -, hfalse⟩
      · have horigin : (s.note config call request result).origin call.hash = request.getD 0 := by
          simp [Lookups.note, hstored]
        apply hactive _ hphase hverdict inactive hmem hhash
        simpa [Lookups.goto, horigin] using hlater
      · rw [hverdict] at hfalse
        cases hfalse
    · have horigin : (s.note config call request result).origin hash = s.origin hash :=
        note_origin hkept
      rcases mem_note_inactive config hmem with hmem | ⟨hsame, hat, hfalse⟩
      · apply hs.cached hash entry hold hentryActive inactive hmem hhash
        simpa [Lookups.goto, horigin] using hlater
      · -- The verdict is kept for no time at all.
        rcases hkept with hne | hzero
        · exact absurd (hhash.symm.trans hsame) hne
        · have hnegative : config.negativeCacheSeconds = 0 := by
            simpa [cacheTtl, hfalse] using hzero
          rw [hat, hnegative]
          exact Nat.le_refl _

/-- Where a result that is taken says active, it stands. -/
theorem stands_of_notOvertaken {now : Instant} {k : Nat} {call : Call}
    {answer : Option Nat × Except String IntrospectionResponse}
    (hadmitted : notOvertaken config s (now, .finish k) = true) (hk : s.calls[k]? = some call)
    (hphase : call.phase.result = some answer)
    (hverdict : (verdict call.subject answer.2).1 = true) :
    s.Stands config now call.hash (answer.1.getD 0) := by
  obtain ⟨request, hrequest⟩ := Option.isSome_iff_exists.mp (isSome_of_verdict hphase hverdict)
  simpa [notOvertaken, Lookups.authorizes, hk, hphase, hverdict, hrequest] using hadmitted

theorem CacheStands.later (hs : CacheStands config s) {now : Instant} (h : s.now ≤ now) :
    CacheStands config { s with now := now } :=
  hs.keep h (fun _ _ hentry => hentry) rfl rfl

theorem step_some {i : Instant × CallStep} (h : s.step config ord i = some t) : s.now ≤ i.1 := by
  unfold Lookups.step at h
  split at h
  · cases h
  · rename_i hnow
    exact Nat.le_of_not_lt hnow

/-- What one step preserves. -/
theorem CacheStands.step (hs : CacheStands config s) {i : Instant × CallStep}
    (h : Guarded (Lookups.step config ord) (notOvertaken config) s i t) : CacheStands config t := by
  obtain ⟨hadmitted, h⟩ := h
  have hnow := step_some h
  obtain ⟨now, i⟩ := i
  have hs := hs.later hnow
  unfold Lookups.step at h
  rw [if_neg (Nat.not_lt.mpr hnow)] at h
  cases i with
  | call hash subject expiresAt nowEpoch =>
    obtain rfl := Option.some.inj h
    exact hs.keep (Nat.le_refl _) (fun _ _ hentry => get_cacheLookup hash hentry) rfl rfl
  | acquire k =>
    obtain ⟨call, -, h⟩ := Option.bind_eq_some_iff.mp h
    obtain ⟨hat, hcache, horigin, hinactive⟩ := acquire_keeps h
    exact hs.keep hat.ge (fun _ _ hentry => hcache ▸ hentry) horigin hinactive
  | send k =>
    obtain ⟨call, -, h⟩ := Option.bind_eq_some_iff.mp h
    obtain ⟨hat, hcache, horigin, hinactive⟩ := send_keeps h
    exact hs.keep hat.ge (fun _ _ hentry => hcache ▸ hentry) horigin hinactive
  | answer k result =>
    obtain ⟨call, -, h⟩ := Option.bind_eq_some_iff.mp h
    obtain ⟨hat, hcache, horigin, hinactive⟩ := answer_keeps h
    exact hs.keep hat.ge (fun _ _ hentry => hcache ▸ hentry) horigin hinactive
  | finish k =>
    obtain ⟨call, hk, h⟩ := Option.bind_eq_some_iff.mp h
    refine hs.finish ?_ h
    intro answer hphase hverdict
    exact stands_of_notOvertaken hadmitted hk hphase hverdict
  | abandon k =>
    obtain ⟨call, -, rfl⟩ := Option.map_eq_some_iff.mp h
    exact hs.keep (Nat.le_refl _) (fun _ _ hentry => hentry) rfl rfl

/-- Two calls for one token; the second request is answered first. -/
def overtaken : List (Instant × CallStep) :=
  [(0, .call [1] "42" 1000 0), (0, .call [1] "42" 1000 0), (0, .acquire 0), (0, .acquire 1),
    (1, .send 0), (2, .send 1),
    (3, .answer 0 (.success (.ok { active := true, sub := some "42" }))),
    (4, .answer 1 (.success (.ok { active := false, reason := some "user_disabled" }))),
    (5, .finish 1)]

end Starry.ConnectionAuth
