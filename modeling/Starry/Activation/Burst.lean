import Starry.Activation.Steps

/-!
# Fast re-registrations in a window

What `check_burst` keeps of an identity is the end of what it has accepted of it: no more than the
limit fits into a window, as long as no sweep was ahead of the clock of the identity.
-/

open Library

namespace Starry.Activation

open Registry (dropOld)

/-! ## One call -/

/-- The times under a key. -/
def entriesOf (bursts : Table IdentityKey (List Instant)) (key : IdentityKey) : List Instant :=
  (bursts.get key).getD []

def RegistrationRequest.identityKey (sha256 : Bytes → Bytes) (q : RegistrationRequest) :
    IdentityKey :=
  ⟨q.peerId, q.uuid, sha256 q.publicKey⟩

/-- Whether a call of the identity first drops the old times of all identities. -/
def Registry.sweeps (r : Registry) (key : IdentityKey) : Bool :=
  r.maintenanceCalls % maintenanceInterval = 0 ||
    ((r.bursts.get key).isNone && decide (r.bursts.len ≥ maxBurstIdentities))

/-- The times under a key once the sweep is over. -/
def Registry.sweptEntries (r : Registry) (key : IdentityKey) (now : Instant) (k : IdentityKey) :
    List Instant :=
  if r.sweeps key then dropOld now (entriesOf r.bursts k) else entriesOf r.bursts k

section Call

theorem left_window {w e t : Nat} (hw : 0 < w) : w ≤ t - e ↔ e + w ≤ t := by omega

variable {now : Instant} {entries : List Instant}

theorem dropOld_dropOld : dropOld now (dropOld now entries) = dropOld now entries := by
  unfold dropOld
  exact List.dropWhile_idempotent _ entries

theorem dropOld_nil : dropOld now [] = [] := rfl

/-- What is dropped has left the window, and in order of time so has nothing else. -/
theorem dropOld_spec (now : Instant) (entries : List Instant) : ∃ dropped, entries = dropped ++ dropOld now entries ∧
    ∀ e ∈ dropped, e + burstWindow ≤ now := by
  refine ⟨entries.takeWhile fun e => decide (now - e ≥ burstWindow),
    (List.takeWhile_append_dropWhile).symm, fun e he => ?_⟩
  have hold := List.mem_takeWhile_imp he
  rw [decide_eq_true_eq] at hold
  exact (left_window (by decide)).mp hold

theorem dropOld_recent (h : entries.Pairwise (· ≤ ·)) :
    ∀ e ∈ dropOld now entries, now < e + burstWindow := by
  induction entries with
  | nil => simp [dropOld]
  | cons x entries ih =>
    obtain ⟨hx, hentries⟩ := List.pairwise_cons.mp h
    unfold dropOld
    rw [List.dropWhile_cons]
    split
    · exact ih hentries
    · rename_i hkept
      rw [decide_eq_true_eq] at hkept
      have hfirst : now < x + burstWindow :=
        not_le.mp fun hle => hkept ((left_window (by decide)).mpr hle)
      intro e he
      rcases List.mem_cons.mp he with rfl | he
      · exact hfirst
      · exact hfirst.trans_le (Nat.add_le_add_right (hx e he) burstWindow)

variable {r : Registry} {sha256 : Bytes → Bytes} {q : RegistrationRequest} {k : IdentityKey}

/-- The table after the sweep. -/
def Registry.sweptBursts (r : Registry) (key : IdentityKey) (now : Instant) :
    Table IdentityKey (List Instant) :=
  if r.sweeps key then
    r.bursts.filterMap fun _ entries =>
      let kept := dropOld now entries
      if kept.isEmpty then none else some kept
  else r.bursts

theorem entriesOf_sweptBursts (key : IdentityKey) :
    entriesOf (r.sweptBursts key now) k = r.sweptEntries key now k := by
  unfold Registry.sweptBursts Registry.sweptEntries
  split
  · unfold entriesOf
    rw [Table.get_filterMap]
    cases r.bursts.get k with
    | none => exact dropOld_nil.symm
    | some entries =>
      dsimp only [Option.bind_some, Option.getD_some]
      split
      · rename_i hempty
        exact (List.isEmpty_iff.mp hempty).symm
      · rfl
  · rfl

theorem entriesOf_insert (bursts : Table IdentityKey (List Instant)) (key : IdentityKey)
    (entries : List Instant) :
    entriesOf (bursts.insert key entries) k = if k = key then entries else entriesOf bursts k := by
  unfold entriesOf
  rw [Table.get_insert]
  split <;> rfl

theorem checkBurst_def : r.checkBurst sha256 q now =
    let bursts := r.sweptBursts (q.identityKey sha256) now
    if (bursts.get (q.identityKey sha256)).isNone && decide (bursts.len ≥ maxBurstIdentities) then
      (some .capacity, { r with bursts })
    else
      let entries := dropOld now (entriesOf bursts (q.identityKey sha256))
      if entries.length ≥ burstLimit then
        (some .rateLimited, { r with bursts := bursts.insert (q.identityKey sha256) entries })
      else
        (none, { r with bursts := bursts.insert (q.identityKey sha256) (entries ++ [now]) }) := rfl

/-- What a call answers and leaves under the key of its identity. -/
inductive Burst (now : Instant) (old swept : List Instant) : Option ActivationError →
    List Instant → Prop
  | capacity : Burst now old swept (some .capacity) swept
  | limited (h : burstLimit ≤ (dropOld now old).length) :
      Burst now old swept (some .rateLimited) (dropOld now old)
  | accepted (h : (dropOld now old).length < burstLimit) :
      Burst now old swept none (dropOld now old ++ [now])

theorem checkBurst_own (r : Registry) (sha256 : Bytes → Bytes) (q : RegistrationRequest)
    (now : Instant) : Burst now (entriesOf r.bursts (q.identityKey sha256))
    (r.sweptEntries (q.identityKey sha256) now (q.identityKey sha256))
    (r.checkBurst sha256 q now).1
    (entriesOf (r.checkBurst sha256 q now).2.bursts (q.identityKey sha256)) := by
  have hswept : dropOld now (r.sweptEntries (q.identityKey sha256) now (q.identityKey sha256)) =
      dropOld now (entriesOf r.bursts (q.identityKey sha256)) := by
    unfold Registry.sweptEntries
    split
    · exact dropOld_dropOld
    · rfl
  rw [checkBurst_def]
  simp only [entriesOf_sweptBursts, hswept]
  split
  · rw [entriesOf_sweptBursts]
    exact .capacity
  · split
    · rename_i hfull
      rw [entriesOf_insert, if_pos rfl]
      exact .limited hfull
    · rename_i hroom
      rw [entriesOf_insert, if_pos rfl]
      exact .accepted (not_le.mp hroom)

theorem checkBurst_other (h : k ≠ q.identityKey sha256) :
    entriesOf (r.checkBurst sha256 q now).2.bursts k =
      r.sweptEntries (q.identityKey sha256) now k := by
  rw [checkBurst_def]
  dsimp only
  split
  · exact entriesOf_sweptBursts _
  · split
    · rw [entriesOf_insert, if_neg h, entriesOf_sweptBursts]
    · rw [entriesOf_insert, if_neg h, entriesOf_sweptBursts]

end Call

/-! ## Calls one after another -/

/-- A call, with the registry that it finds around the table of the bursts. -/
structure BurstCall where
  registry : Registry
  request : RegistrationRequest
  now : Instant

structure AnsweredBurst where
  key : IdentityKey
  now : Instant
  result : Option ActivationError
  swept : Bool
deriving DecidableEq

structure BurstHistory where
  bursts : Table IdentityKey (List Instant)
  /-- The oldest first. -/
  answered : List AnsweredBurst

def BurstHistory.call (sha256 : Bytes → Bytes) (s : BurstHistory) (c : BurstCall) : BurstHistory :=
  let r := { c.registry with bursts := s.bursts }
  let key := c.request.identityKey sha256
  let answer := r.checkBurst sha256 c.request c.now
  { bursts := answer.2.bursts
    answered := s.answered ++ [⟨key, c.now, answer.1, r.sweeps key⟩] }

def burstHistory (sha256 : Bytes → Bytes) (calls : List BurstCall) : BurstHistory :=
  calls.foldl (BurstHistory.call sha256) ⟨.empty, []⟩

/-- When calls of the identity were accepted. -/
def acceptedAt (answered : List AnsweredBurst) (key : IdentityKey) : List Instant :=
  (answered.filter fun a => decide (a.key = key) && decide (a.result = none)).map (·.now)

section History

variable {sha256 : Bytes → Bytes} {calls : List BurstCall} {c : BurstCall} {k : IdentityKey}

theorem burstHistory_snoc : burstHistory sha256 (calls ++ [c]) =
    (burstHistory sha256 calls).call sha256 c := by
  unfold burstHistory
  rw [List.foldl_append, List.foldl_cons, List.foldl_nil]

theorem acceptedAt_snoc (answered : List AnsweredBurst) (a : AnsweredBurst) :
    acceptedAt (answered ++ [a]) k =
      acceptedAt answered k ++ if a.key = k ∧ a.result = none then [a.now] else [] := by
  unfold acceptedAt
  rw [List.filter_append, List.map_append]
  congr 1
  by_cases h : a.key = k ∧ a.result = none
  · simp [h]
  · rw [if_neg h, List.filter_cons_of_neg (by simpa using h)]
    rfl

theorem mem_acceptedAt {answered : List AnsweredBurst} {t : Instant}
    (h : t ∈ acceptedAt answered k) : ∃ a ∈ answered, a.key = k ∧ a.now = t := by
  obtain ⟨a, ha, rfl⟩ := List.mem_map.mp h
  obtain ⟨hmem, hkey⟩ := List.mem_filter.mp ha
  simp only [Bool.and_eq_true, decide_eq_true_eq] at hkey
  exact ⟨a, hmem, hkey.1, rfl⟩

/-- The times of the calls of each identity do not go back. -/
def TimesAdvance (answered : List AnsweredBurst) : Prop :=
  answered.Pairwise fun a b => a.key = b.key → a.now ≤ b.now

/-- No sweep was ahead of a later call of the identity. -/
def SweepsBehind (answered : List AnsweredBurst) (key : IdentityKey) : Prop :=
  answered.Pairwise fun a b => a.swept = true → b.key = key → a.now ≤ b.now

theorem acceptedAt_sorted {answered : List AnsweredBurst} (h : TimesAdvance answered) :
    (acceptedAt answered k).Pairwise (· ≤ ·) := by
  unfold acceptedAt
  rw [List.pairwise_map]
  refine (h.filter _).imp_of_mem fun ha hb hab => hab ?_
  have hka := (List.mem_filter.mp ha).2
  have hkb := (List.mem_filter.mp hb).2
  simp only [Bool.and_eq_true, decide_eq_true_eq] at hka hkb
  exact hka.1.trans hkb.1.symm

/-- What is kept is the end of what was accepted of an identity: the rest had left the window at a
sweep or at a call of the identity. -/
def Kept (answered : List AnsweredBurst) (k : IdentityKey) (accepted entries : List Instant) :
    Prop :=
  ∃ dropped, accepted = dropped ++ entries ∧
    ∀ t ∈ dropped, ∃ a ∈ answered, (a.swept = true ∨ a.key = k) ∧ t + burstWindow ≤ a.now

section Kept

variable {answered : List AnsweredBurst} {accepted entries : List Instant} {a : AnsweredBurst}

theorem Kept.later (h : Kept answered k accepted entries) :
    Kept (answered ++ [a]) k accepted entries := by
  obtain ⟨dropped, hsplit, hdropped⟩ := h
  refine ⟨dropped, hsplit, fun t ht => ?_⟩
  obtain ⟨b, hb, hwhy⟩ := hdropped t ht
  exact ⟨b, List.mem_append_left _ hb, hwhy⟩

theorem Kept.drop (h : Kept answered k accepted entries) (ha : a ∈ answered)
    (hwhy : a.swept = true ∨ a.key = k) : Kept answered k accepted (dropOld a.now entries) := by
  obtain ⟨dropped, hsplit, hdropped⟩ := h
  obtain ⟨left, hleft, hold⟩ := dropOld_spec a.now entries
  refine ⟨dropped ++ left, ?_, fun t ht => ?_⟩
  · rw [hsplit, List.append_assoc, ← hleft]
  · rcases List.mem_append.mp ht with ht | ht
    · exact hdropped t ht
    · exact ⟨a, ha, hwhy, hold t ht⟩

theorem Kept.push (h : Kept answered k accepted entries) (t : Instant) :
    Kept answered k (accepted ++ [t]) (entries ++ [t]) := by
  obtain ⟨dropped, hsplit, hdropped⟩ := h
  exact ⟨dropped, by rw [hsplit, List.append_assoc], hdropped⟩

/-- One call, answered with `a`. -/
theorem Kept.call {r : Registry} {q : RegistrationRequest}
    (h : Kept answered k accepted (entriesOf r.bursts k)) (hkey : a.key = q.identityKey sha256)
    (hresult : a.result = (r.checkBurst sha256 q a.now).1) (hswept : a.swept = r.sweeps a.key) :
    Kept (answered ++ [a]) k (accepted ++ if a.key = k ∧ a.result = none then [a.now] else [])
      (entriesOf (r.checkBurst sha256 q a.now).2.bursts k) := by
  have hmem : a ∈ answered ++ [a] := List.mem_append_right _ (List.mem_singleton_self a)
  have hsweep : Kept (answered ++ [a]) k accepted (r.sweptEntries a.key a.now k) := by
    unfold Registry.sweptEntries
    split
    · rename_i hsweeps
      exact h.later.drop hmem (.inl (hswept.trans hsweeps))
    · exact h.later
  rw [hkey] at hsweep
  by_cases hk : k = q.identityKey sha256
  · have hdrop := h.later.drop hmem (.inr (hkey.trans hk.symm))
    have hown := checkBurst_own r sha256 q a.now
    rw [← hk, ← hresult] at hown
    rw [← hk] at hsweep
    rw [hkey, ← hk]
    generalize entriesOf (r.checkBurst sha256 q a.now).2.bursts k = entries at hown ⊢
    generalize a.result = result at hown ⊢
    cases hown with
    | capacity =>
      rw [if_neg (by simp), List.append_nil]
      exact hsweep
    | limited =>
      rw [if_neg (by simp), List.append_nil]
      exact hdrop
    | accepted =>
      rw [if_pos ⟨rfl, rfl⟩]
      exact hdrop.push a.now
  · rw [checkBurst_other hk, if_neg (fun hsame => hk (hsame.1.symm.trans hkey)), List.append_nil]
    exact hsweep

end Kept

def KeptOf (s : BurstHistory) (k : IdentityKey) : Prop :=
  Kept s.answered k (acceptedAt s.answered k) (entriesOf s.bursts k)

theorem KeptOf.call {s : BurstHistory} (h : KeptOf s k) : KeptOf (s.call sha256 c) k := by
  unfold KeptOf BurstHistory.call
  rw [acceptedAt_snoc]
  exact Kept.call h rfl rfl rfl

theorem keptOf_history (sha256 : Bytes → Bytes) (calls : List BurstCall) (k : IdentityKey) :
    KeptOf (burstHistory sha256 calls) k := by
  induction calls using List.reverseRecOn with
  | nil => exact ⟨[], rfl, by simp⟩
  | append_singleton calls c ih =>
    rw [burstHistory_snoc]
    exact ih.call

/-! ## Windows -/

/-- The half-open window of 30 seconds from `t`. -/
def inWindow (t a : Instant) : Bool := decide (t ≤ a) && decide (a < t + burstWindow)

/-- The accepted ones of the 30 seconds up to `now`. -/
def recent (now a : Instant) : Bool := decide (a ≤ now) && decide (now < a + burstWindow)

section Windows

variable {answered : List AnsweredBurst} {accepted entries : List Instant} {now t : Instant}
  {a : AnsweredBurst}

/-- Nothing that was dropped is in a window with `now`. -/
theorem Kept.window (h : Kept answered k accepted entries)
    (hbehind : ∀ x ∈ answered, (x.swept = true ∨ x.key = k) → x.now ≤ now)
    (hnow : now < t + burstWindow) : (accepted.filter (inWindow t)).length ≤ entries.length := by
  obtain ⟨dropped, rfl, hdropped⟩ := h
  have hout : dropped.filter (inWindow t) = [] := by
    rw [List.filter_eq_nil_iff]
    intro d hd hin
    obtain ⟨x, hx, hwhy, hold⟩ := hdropped d hd
    have hlate : d + burstWindow < t + burstWindow := (hold.trans (hbehind x hx hwhy)).trans_lt hnow
    unfold inWindow at hin
    simp only [Bool.and_eq_true, decide_eq_true_eq] at hin
    exact absurd (Nat.add_lt_add_iff_right.mp hlate) (not_lt.mpr hin.1)
  rw [List.filter_append, hout, List.nil_append]
  exact List.length_filter_le _ _

/-- What is kept at `now` is recent. -/
theorem Kept.recent (h : Kept answered k accepted entries) (hsorted : accepted.Pairwise (· ≤ ·))
    (hpast : ∀ t ∈ accepted, t ≤ now) :
    (dropOld now entries).length ≤ (accepted.filter (recent now)).length := by
  obtain ⟨dropped, rfl, -⟩ := h
  have hkept : dropOld now entries ⊆ entries := (List.dropWhile_sublist _).subset
  have hall : (dropOld now entries).filter (Activation.recent now) = dropOld now entries := by
    rw [List.filter_eq_self]
    intro t ht
    have hin := dropOld_recent (List.pairwise_append.mp hsorted).2.1 t ht
    have hle := hpast t (List.mem_append_right _ (hkept ht))
    unfold Activation.recent
    simp only [Bool.and_eq_true, decide_eq_true_eq]
    exact ⟨hle, hin⟩
  rw [← hall, List.filter_append, List.length_append]
  have hsub : ((dropOld now entries).filter (Activation.recent now)).length ≤
      (entries.filter (Activation.recent now)).length :=
    ((List.dropWhile_sublist _).filter _).length_le
  omega

theorem TimesAdvance.init (h : TimesAdvance (answered ++ [a])) : TimesAdvance answered :=
  (List.pairwise_append.mp h).1

theorem TimesAdvance.last (h : TimesAdvance (answered ++ [a])) :
    ∀ x ∈ answered, x.key = a.key → x.now ≤ a.now := fun x hx =>
  (List.pairwise_append.mp h).2.2 x hx a (List.mem_singleton_self a)

theorem SweepsBehind.init (h : SweepsBehind (answered ++ [a]) k) : SweepsBehind answered k :=
  (List.pairwise_append.mp h).1

theorem SweepsBehind.last (h : SweepsBehind (answered ++ [a]) k) (hk : a.key = k) :
    ∀ x ∈ answered, x.swept = true → x.now ≤ a.now := fun x hx hswept =>
  (List.pairwise_append.mp h).2.2 x hx a (List.mem_singleton_self a) hswept hk

/-- The answer to a last call, and what was kept for it. -/
theorem burstHistory_last (sha256 : Bytes → Bytes) (calls : List BurstCall) (c : BurstCall) :
    ∃ a, (burstHistory sha256 (calls ++ [c])).answered =
        (burstHistory sha256 calls).answered ++ [a] ∧
      a.key = c.request.identityKey sha256 ∧ a.now = c.now ∧
      (a.result = none →
        (dropOld a.now (entriesOf (burstHistory sha256 calls).bursts a.key)).length < burstLimit) ∧
      (a.result = some .rateLimited →
        burstLimit ≤ (dropOld a.now (entriesOf (burstHistory sha256 calls).bursts a.key)).length) := by
  rw [burstHistory_snoc]
  refine ⟨_, rfl, rfl, rfl, ?_⟩
  have hown := checkBurst_own { c.registry with bursts := (burstHistory sha256 calls).bursts }
    sha256 c.request c.now
  dsimp only at hown ⊢
  generalize (Registry.checkBurst _ sha256 c.request c.now).1 = result at hown ⊢
  generalize entriesOf (Registry.checkBurst _ sha256 c.request c.now).2.bursts _ = after at hown
  cases hown with
  | capacity => exact ⟨by simp, by simp⟩
  | limited h => exact ⟨by simp, fun _ => h⟩
  | accepted h => exact ⟨fun _ => h, by simp⟩

theorem window_bound (calls : List BurstCall)
    (hadvance : TimesAdvance (burstHistory sha256 calls).answered)
    (hbehind : SweepsBehind (burstHistory sha256 calls).answered k) (t : Instant) :
    ((acceptedAt (burstHistory sha256 calls).answered k).filter (inWindow t)).length ≤
      burstLimit := by
  induction calls using List.reverseRecOn with
  | nil => exact Nat.zero_le _
  | append_singleton calls c ih =>
    obtain ⟨a, ha, -, -, hroom, -⟩ := burstHistory_last sha256 calls c
    rw [ha] at hadvance hbehind ⊢
    have hbefore := ih hadvance.init hbehind.init
    rw [acceptedAt_snoc]
    split
    · rename_i haccepted
      obtain ⟨hk, hresult⟩ := haccepted
      rw [List.filter_append, List.length_append]
      by_cases hin : inWindow t a.now = true
      · have hkept := (keptOf_history sha256 calls k).later.drop
          (List.mem_append_right _ (List.mem_singleton_self a)) (.inr hk)
        have hpast : ∀ x ∈ (burstHistory sha256 calls).answered ++ [a],
            (x.swept = true ∨ x.key = k) → x.now ≤ a.now := by
          intro x hx hwhy
          rcases List.mem_append.mp hx with hx | hx
          · rcases hwhy with hswept | hkey
            · exact hbehind.last hk x hx hswept
            · exact hadvance.last x hx (hkey.trans hk.symm)
          · exact le_of_eq (congrArg AnsweredBurst.now (List.mem_singleton.mp hx))
        have hwindow : a.now < t + burstWindow := by
          unfold inWindow at hin
          simp only [Bool.and_eq_true, decide_eq_true_eq] at hin
          exact hin.2
        have hlen := (hkept.window hpast hwindow).trans_lt (hk ▸ hroom hresult)
        have hone := List.length_filter_le (inWindow t) [a.now]
        rw [List.length_singleton] at hone
        omega
      · rw [List.filter_cons_of_neg hin]
        exact hbefore
    · rw [List.append_nil]
      exact hbefore

/-- A refusal comes after as many accepted calls as the limit says. -/
theorem limited_bound (calls : List BurstCall)
    (hadvance : TimesAdvance (burstHistory sha256 calls).answered)
    {before after : List AnsweredBurst} {x : AnsweredBurst}
    (hsplit : (burstHistory sha256 calls).answered = before ++ x :: after)
    (hresult : x.result = some .rateLimited) :
    burstLimit ≤ ((acceptedAt before x.key).filter (recent x.now)).length := by
  induction calls using List.reverseRecOn generalizing after with
  | nil => cases before <;> cases hsplit
  | append_singleton calls c ih =>
    obtain ⟨a, ha, -, -, -, hfull⟩ := burstHistory_last sha256 calls c
    rw [ha] at hadvance hsplit
    rcases List.eq_nil_or_concat after with rfl | ⟨after, y, rfl⟩
    · obtain ⟨hbefore, hx⟩ := List.append_inj' hsplit rfl
      rw [List.cons.injEq] at hx
      rw [← hbefore, ← hx.1]
      refine (hfull (hx.1 ▸ hresult)).trans ?_
      refine (keptOf_history sha256 calls a.key).recent (acceptedAt_sorted hadvance.init) ?_
      intro t ht
      obtain ⟨b, hb, hkey, rfl⟩ := mem_acceptedAt ht
      exact hadvance.last b hb hkey
    · rw [List.concat_eq_append, ← List.cons_append, ← List.append_assoc] at hsplit
      exact ih hadvance.init (List.append_inj' hsplit rfl).1

end Windows

/-- The answers are to the calls, in their order. -/
theorem answered_calls (sha256 : Bytes → Bytes) (calls : List BurstCall) :
    (burstHistory sha256 calls).answered.map (fun a => (a.key, a.now)) =
      calls.map fun c => (c.request.identityKey sha256, c.now) := by
  induction calls using List.reverseRecOn with
  | nil => rfl
  | append_singleton calls c ih =>
    obtain ⟨a, ha, hkey, hnow, -⟩ := burstHistory_last sha256 calls c
    rw [ha, List.map_append, List.map_append, ih, List.map_singleton, List.map_singleton, hkey,
      hnow]

theorem timesAdvance_of_calls
    (h : calls.Pairwise fun b c =>
      b.request.identityKey sha256 = c.request.identityKey sha256 → b.now ≤ c.now) :
    TimesAdvance (burstHistory sha256 calls).answered := by
  have hpairs : (calls.map fun c => (c.request.identityKey sha256, c.now)).Pairwise
      fun x y => x.1 = y.1 → x.2 ≤ y.2 := List.pairwise_map.mpr h
  rw [← answered_calls, List.pairwise_map] at hpairs
  exact hpairs

end History

/-- Calls of `check_burst` whose times do not go back for any identity, with anything else changing
in the registry between them. A call is refused as rate-limited only if 12 calls of its identity
were accepted in the 30 seconds before it. No half-open window of 30 seconds holds more than 12
accepted calls of an identity for which no call was behind an earlier sweep. -/
theorem burst_bound (sha256 : Bytes → Bytes) (calls : List BurstCall)
    (hadvance : calls.Pairwise fun b c =>
      b.request.identityKey sha256 = c.request.identityKey sha256 → b.now ≤ c.now) :
    (∀ k, SweepsBehind (burstHistory sha256 calls).answered k → ∀ t,
      ((acceptedAt (burstHistory sha256 calls).answered k).filter (inWindow t)).length ≤ 12) ∧
    ∀ before x after, (burstHistory sha256 calls).answered = before ++ x :: after →
      x.result = some .rateLimited →
      12 ≤ ((acceptedAt before x.key).filter (recent x.now)).length := by
  have hanswered := timesAdvance_of_calls hadvance
  exact ⟨fun k hbehind t => window_bound calls hanswered hbehind t,
    fun before x after hsplit hresult => limited_bound calls hanswered hsplit hresult⟩

/-! ## Samples -/

def sampleBurst (peerId : String) (now : Instant) (maintenanceCalls : Nat) : BurstCall :=
  { registry := { Registry.default with maintenanceCalls }
    request := ⟨peerId, [], [], 1, [], true⟩
    now }

/-- The thirteenth call in a row is refused, after twelve accepted ones. -/
theorem burst_bound_thirteen :
    ((burstHistory id (List.replicate 13 (sampleBurst "a" 0 1))).answered.map
      fun x => x.result) = List.replicate 12 none ++ [some .rateLimited] ∧
    ((acceptedAt (burstHistory id (List.replicate 13 (sampleBurst "a" 0 1))).answered
      ⟨"a", [], []⟩).filter (inWindow 0)).length ≤ 12 := by
  have hadvance : (List.replicate 13 (sampleBurst "a" 0 1)).Pairwise fun b c =>
      b.request.identityKey id = c.request.identityKey id → b.now ≤ c.now :=
    List.pairwise_replicate.mpr (.inr fun _ => le_refl _)
  refine ⟨by decide +kernel, (burst_bound id _ hadvance).1 ⟨"a", [], []⟩ ?_ 0⟩
  unfold SweepsBehind
  decide +kernel

/-- Twelve calls at the start; another identity's sweep after 30 seconds, and then a call that read
the clock just before but came to the table later: thirteen in one window. -/
def overtakenCalls : List BurstCall :=
  List.replicate 12 (sampleBurst "a" 0 1) ++
    [sampleBurst "b" (secs 30) 0, sampleBurst "a" (secs 30 - 1) 1]

theorem overtaken_sweep : ¬ ∀ (sha256 : Bytes → Bytes) (calls : List BurstCall),
    (calls.Pairwise fun b c =>
      b.request.identityKey sha256 = c.request.identityKey sha256 → b.now ≤ c.now) →
    ∀ k t, ((acceptedAt (burstHistory sha256 calls).answered k).filter (inWindow t)).length ≤
      12 := by
  intro h
  have hadvance : overtakenCalls.Pairwise fun b c =>
      b.request.identityKey id = c.request.identityKey id → b.now ≤ c.now := by
    decide +kernel
  have hcount : ((acceptedAt (burstHistory id overtakenCalls).answered ⟨"a", [], []⟩).filter
      (inWindow 0)).length = 13 := by
    decide +kernel
  have hle := h id overtakenCalls hadvance ⟨"a", [], []⟩ 0
  omega

end Starry.Activation
