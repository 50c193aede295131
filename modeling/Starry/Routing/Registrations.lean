import Starry.Library.Table
import Starry.Library.Window
import Starry.Basic

/-!
# The limit of WebSocket registrations (`allow_registration`)

An address is refused once its limit of the last minute is used up, or where the table of the
addresses is full. The table is swept on every 256th call.
-/

open Library

namespace Starry.Routing

def maxRegistrationIps : Nat := 65536

def registrationSweepInterval : Nat := 256

def registrationCutoff : Nat := secs 60

/-- `REGISTRATIONS` and `REGISTRATION_CALLS` -/
structure Registrations where
  entries : Table IpAddr (List Instant)
  /-- A `usize`, which wraps. -/
  calls : Nat

namespace Registrations

def init : Registrations := ⟨.empty, 0⟩

/-- Drops the registrations at the front that are older than the cutoff. -/
def dropOld (now : Instant) (entries : List Instant) : List Instant :=
  entries.dropWhile fun instant => decide (now - instant ≥ registrationCutoff)

variable (s : Registrations)

/-- The table, once it is swept if that is due. -/
def swept (now : Instant) : Table IpAddr (List Instant) :=
  if s.calls % registrationSweepInterval = 0 then
    s.entries.filterMap fun _ entries =>
      let kept := dropOld now entries
      if kept.isEmpty then none else some kept
  else s.entries

def allowRegistration (effectiveIp : IpAddr) (limit : Nat) (now : Instant) :
    Bool × Registrations :=
  let calls := (s.calls + 1) % 2 ^ 64
  let registrations := s.swept now
  if (registrations.get effectiveIp).isNone && decide (registrations.len ≥ maxRegistrationIps) then
    (false, ⟨registrations, calls⟩)
  else
    let entries := dropOld now ((registrations.get effectiveIp).getD [])
    if entries.length ≥ limit then (false, ⟨registrations.insert effectiveIp entries, calls⟩)
    else (true, ⟨registrations.insert effectiveIp (entries ++ [now]), calls⟩)

/-- The registrations of an address. -/
def of (ip : IpAddr) : List Instant := (s.entries.get ip).getD []

end Registrations

/-! ## Calls one after another -/

structure RegistrationCall where
  effectiveIp : IpAddr
  now : Instant
deriving DecidableEq

/-- The limiter, and the calls it has accepted, the oldest first. -/
structure Admissions where
  limiter : Registrations
  accepted : List RegistrationCall

def Admissions.call (limit : Nat) (s : Admissions) (c : RegistrationCall) : Admissions :=
  let answer := s.limiter.allowRegistration c.effectiveIp limit c.now
  { limiter := answer.2
    accepted := if answer.1 then s.accepted ++ [c] else s.accepted }

def admissions (limit : Nat) (calls : List RegistrationCall) : Admissions :=
  calls.foldl (Admissions.call limit) ⟨.init, []⟩

/-- When calls of an address were accepted. -/
def acceptedOf (accepted : List RegistrationCall) (ip : IpAddr) : List Instant :=
  (accepted.filter fun c => decide (c.effectiveIp = ip)).map (·.now)

/-- How many calls of an address were accepted in the minute up to `now`. -/
def acceptedLately (accepted : List RegistrationCall) (now : Instant) (ip : IpAddr) : Nat :=
  (acceptedOf accepted ip).countP (Window.live registrationCutoff now)

/-- The address has used its limit up, or as many others as the table holds have registered. -/
def Justified (limit : Nat) (accepted : List RegistrationCall) (c : RegistrationCall) : Prop :=
  limit ≤ acceptedLately accepted c.now c.effectiveIp ∨
    ∃ others : Finset IpAddr, others.card = maxRegistrationIps ∧ c.effectiveIp ∉ others ∧
      ∀ ip ∈ others, 0 < acceptedLately accepted c.now ip

/-- No minute has more than the limit of accepted calls of an address, and whatever is refused is
refused for a reason. -/
structure LimiterExact (limit : Nat) (calls : List RegistrationCall) : Prop where
  accepted : ∀ ip start, (acceptedOf (admissions limit calls).accepted ip).countP
    (Window.inside registrationCutoff start) ≤ limit
  refused : ∀ before c after, calls = before ++ c :: after →
    ((admissions limit before).limiter.allowRegistration c.effectiveIp limit c.now).1 = false →
    Justified limit (admissions limit before).accepted c

/-- A call does not find the table full of addresses that a sweep would take out. -/
def Registrations.Roomy (s : Registrations) (c : RegistrationCall) : Prop :=
  s.calls % registrationSweepInterval = 0 ∨ (s.entries.get c.effectiveIp).isSome ∨
    s.entries.len < maxRegistrationIps ∨
    ∀ ip entries, s.entries.get ip = some entries →
      ∃ t ∈ entries, Window.live registrationCutoff c.now t = true

/-! ## What the limiter knows -/

section Known

variable {s : Registrations} {limit : Nat} {ip k : IpAddr} {now last : Instant}
  {entries : List Instant}

theorem Registrations.dropOld_eq :
    Registrations.dropOld now entries = Window.dropOld registrationCutoff now entries := by
  unfold Registrations.dropOld Window.dropOld
  congr 1
  funext t
  rw [Window.live, ← decide_not]
  exact decide_eq_decide.mpr (Window.le_sub_iff (by decide))

theorem Registrations.of_swept (s : Registrations) (now : Instant) (k : IpAddr) :
    ((s.swept now).get k).getD [] = s.of k ∨
      ((s.swept now).get k).getD [] = Window.dropOld registrationCutoff now (s.of k) := by
  unfold Registrations.swept Registrations.of
  split
  · right
    rw [Table.get_filterMap]
    cases s.entries.get k with
    | none => rfl
    | some entries =>
      dsimp only [Option.bind_some, Option.getD_some]
      rw [← Registrations.dropOld_eq]
      split
      · rename_i hempty
        exact (List.isEmpty_iff.mp hempty).symm
      · rfl
  · exact .inl rfl

theorem Registrations.dropOld_swept (s : Registrations) (now : Instant) (k : IpAddr) :
    Registrations.dropOld now (((s.swept now).get k).getD []) =
      Window.dropOld registrationCutoff now (s.of k) := by
  rw [Registrations.dropOld_eq]
  rcases s.of_swept now k with h | h
  · rw [h]
  · rw [h, Window.dropOld_dropOld]

theorem Registrations.len_swept_le (s : Registrations) (now : Instant) :
    (s.swept now).len ≤ s.entries.len := by
  unfold Registrations.swept
  split
  · exact Table.len_filterMap_le _ _
  · exact le_rfl

theorem of_insert (registrations : Table IpAddr (List Instant)) (entries : List Instant)
    (calls : Nat) : (Registrations.mk (registrations.insert ip entries) calls).of k =
      if k = ip then entries else (registrations.get k).getD [] := by
  unfold Registrations.of
  rw [Table.get_insert]
  split <;> rfl

/-- What a call answers and leaves. -/
inductive Registered (s : Registrations) (ip : IpAddr) (limit : Nat) (now : Instant) :
    Bool → Table IpAddr (List Instant) → Prop
  | full (hnew : (s.swept now).get ip = none) (hfull : maxRegistrationIps ≤ (s.swept now).len) :
      Registered s ip limit now false (s.swept now)
  | limited (hlimit : limit ≤ (Window.dropOld registrationCutoff now (s.of ip)).length)
      (hroom : (s.swept now).get ip = none → (s.swept now).len < maxRegistrationIps) :
      Registered s ip limit now false
        ((s.swept now).insert ip (Window.dropOld registrationCutoff now (s.of ip)))
  | accepted (hlimit : (Window.dropOld registrationCutoff now (s.of ip)).length < limit)
      (hroom : (s.swept now).get ip = none → (s.swept now).len < maxRegistrationIps) :
      Registered s ip limit now true
        ((s.swept now).insert ip (Window.dropOld registrationCutoff now (s.of ip) ++ [now]))

theorem allowRegistration_cases (s : Registrations) (ip : IpAddr) (limit : Nat) (now : Instant) :
    Registered s ip limit now (s.allowRegistration ip limit now).1
      (s.allowRegistration ip limit now).2.entries := by
  unfold Registrations.allowRegistration
  dsimp only
  rw [Registrations.dropOld_swept]
  split
  · rename_i hfull
    simp only [Bool.and_eq_true, Option.isNone_iff_eq_none, decide_eq_true_eq] at hfull
    exact .full hfull.1 hfull.2
  · rename_i hroom
    simp only [Bool.and_eq_true, Option.isNone_iff_eq_none, decide_eq_true_eq, not_and,
      not_le] at hroom
    split
    · exact .limited ‹_› hroom
    · exact .accepted (not_le.mp ‹_›) hroom

end Known

/-! ## One call after another -/

/-- The calls up to `last`: what is kept of an address is the end of what was accepted. -/
structure Admissions.Inv (s : Admissions) (limit : Nat) (last : Instant) : Prop where
  kept : ∀ ip, Window.Kept registrationCutoff last (acceptedOf s.accepted ip) (s.limiter.of ip)
  sorted : ∀ ip, (acceptedOf s.accepted ip).Pairwise (· ≤ ·)
  past : ∀ c ∈ s.accepted, c.now ≤ last
  bounded : ∀ ip, (s.limiter.of ip).length ≤ limit
  nonempty : ∀ ip entries, s.limiter.entries.get ip = some entries → entries ≠ []
  len : s.limiter.entries.len ≤ maxRegistrationIps

section Calls

variable {s : Admissions} {limit : Nat} {last : Instant} {c : RegistrationCall} {k : IpAddr}

theorem acceptedOf_snoc (accepted : List RegistrationCall) (c : RegistrationCall) :
    acceptedOf (accepted ++ [c]) k =
      acceptedOf accepted k ++ if c.effectiveIp = k then [c.now] else [] := by
  unfold acceptedOf
  rw [List.filter_append, List.map_append]
  congr 1
  by_cases h : c.effectiveIp = k
  · simp [h]
  · simp [h]

theorem mem_acceptedOf {accepted : List RegistrationCall} {t : Instant}
    (h : t ∈ acceptedOf accepted k) : ∃ c ∈ accepted, c.effectiveIp = k ∧ c.now = t := by
  obtain ⟨c, hc, rfl⟩ := List.mem_map.mp h
  obtain ⟨hmem, hip⟩ := List.mem_filter.mp hc
  exact ⟨c, hmem, of_decide_eq_true hip, rfl⟩

theorem acceptedLately_pos {accepted : List RegistrationCall} {now : Instant} :
    0 < acceptedLately accepted now k ↔
      ∃ t ∈ acceptedOf accepted k, Window.live registrationCutoff now t = true :=
  List.countP_pos_iff

theorem nonempty_of_swept {s : Registrations} {now : Instant}
    (h : ∀ ip entries, s.entries.get ip = some entries → entries ≠ []) {entries : List Instant}
    (hget : (s.swept now).get k = some entries) : entries ≠ [] := by
  unfold Registrations.swept at hget
  split at hget
  · rw [Table.get_filterMap] at hget
    obtain ⟨old, -, hkept⟩ := Option.bind_eq_some_iff.mp hget
    dsimp only at hkept
    split at hkept
    · cases hkept
    · rename_i hne
      cases hkept
      simpa using hne
  · exact h k entries hget

theorem Admissions.Inv.kept_swept (h : s.Inv limit last) (hnow : last ≤ c.now) (k : IpAddr) :
    Window.Kept registrationCutoff c.now (acceptedOf s.accepted k)
      (((s.limiter.swept c.now).get k).getD []) := by
  have hkept := (h.kept k).mono hnow
  rcases s.limiter.of_swept c.now k with heq | heq
  · rw [heq]
    exact hkept
  · rw [heq]
    exact hkept.dropOld

/-- The entries of the address of a call, less the old ones, are those of the last minute. -/
theorem Admissions.Inv.length_dropOld (h : s.Inv limit last) (hnow : last ≤ c.now) (k : IpAddr) :
    (Window.dropOld registrationCutoff c.now (s.limiter.of k)).length =
      acceptedLately s.accepted c.now k :=
  ((h.kept k).mono hnow).length_dropOld (h.sorted k)

theorem Admissions.Inv.call (h : s.Inv limit last) (hnow : last ≤ c.now) (hlimit : 0 < limit) :
    (s.call limit c).Inv limit c.now := by
  have hcases := allowRegistration_cases s.limiter c.effectiveIp limit c.now
  have hpast : ∀ d ∈ s.accepted, d.now ≤ c.now := fun d hd => (h.past d hd).trans hnow
  have hlen := (Registrations.len_swept_le s.limiter c.now).trans h.len
  have hbounded : ∀ k, (((s.limiter.swept c.now).get k).getD []).length ≤ limit := by
    intro k
    rcases s.limiter.of_swept c.now k with heq | heq
    · rw [heq]
      exact h.bounded k
    · rw [heq]
      exact Window.dropOld_sublist.length_le.trans (h.bounded k)
  unfold Admissions.call
  dsimp only
  generalize (s.limiter.allowRegistration c.effectiveIp limit c.now).1 = allowed at hcases ⊢
  generalize hafter : (s.limiter.allowRegistration c.effectiveIp limit c.now).2 = after at hcases ⊢
  obtain ⟨entries, calls⟩ := after
  dsimp only at hcases ⊢
  cases hcases with
  | full =>
    exact ⟨h.kept_swept hnow, h.sorted, hpast, hbounded, fun _ _ => nonempty_of_swept h.nonempty, hlen⟩
  | limited hfull hroom =>
    refine ⟨fun k => ?_, h.sorted, hpast, fun k => ?_, fun k entries hget => ?_, ?_⟩
    · rw [if_neg Bool.false_ne_true, of_insert]
      split
      · rename_i hk
        rw [hk]
        exact ((h.kept _).mono hnow).dropOld
      · exact h.kept_swept hnow k
    · rw [of_insert]
      split
      · exact Window.dropOld_sublist.length_le.trans (h.bounded _)
      · exact hbounded k
    · rw [Table.get_insert] at hget
      split at hget
      · cases hget
        exact List.ne_nil_of_length_pos (hlimit.trans_le hfull)
      · exact nonempty_of_swept h.nonempty hget
    · rw [Table.len_insert]
      split
      · exact hroom ‹_›
      · exact hlen
  | accepted hfull hroom =>
    refine ⟨fun k => ?_, fun k => ?_, fun d hd => ?_, fun k => ?_, fun k entries hget => ?_, ?_⟩
    · rw [if_pos rfl, of_insert, acceptedOf_snoc]
      split
      · rename_i hk
        rw [hk, if_pos rfl]
        exact (((h.kept _).mono hnow).dropOld).push c.now
      · rename_i hk
        rw [if_neg fun heq => hk heq.symm, List.append_nil]
        exact h.kept_swept hnow k
    · rw [if_pos rfl, acceptedOf_snoc, List.pairwise_append]
      refine ⟨h.sorted k, by split <;> simp, fun t ht u hu => ?_⟩
      obtain ⟨d, hd, -, rfl⟩ := mem_acceptedOf ht
      split at hu
      · rw [List.mem_singleton.mp hu]
        exact hpast d hd
      · cases hu
    · rcases List.mem_append.mp hd with hd | hd
      · exact hpast d hd
      · exact le_of_eq (congrArg RegistrationCall.now (List.mem_singleton.mp hd))
    · rw [of_insert]
      split
      · rw [List.length_append, List.length_singleton]
        exact hfull
      · exact hbounded k
    · rw [Table.get_insert] at hget
      split at hget
      · cases hget
        simp
      · exact nonempty_of_swept h.nonempty hget
    · rw [Table.len_insert]
      split
      · exact hroom ‹_›
      · exact hlen

theorem Admissions.Inv.mono (h : s.Inv limit last) {later : Instant} (hle : last ≤ later) :
    s.Inv limit later :=
  ⟨fun ip => (h.kept ip).mono hle, h.sorted, fun d hd => (h.past d hd).trans hle, h.bounded,
    h.nonempty, h.len⟩

/-- Whatever the swept table holds of an address has been accepted lately, as long as a call finds
it roomy. -/
theorem Admissions.Inv.lately_of_swept (h : s.Inv limit last) (hnow : last ≤ c.now)
    (hroomy : s.limiter.Roomy c) (hnew : (s.limiter.swept c.now).get c.effectiveIp = none)
    (hfull : maxRegistrationIps ≤ (s.limiter.swept c.now).len) {entries : List Instant}
    (hget : (s.limiter.swept c.now).get k = some entries) :
    0 < acceptedLately s.accepted c.now k := by
  have hkept := h.kept_swept hnow k
  rw [hget, Option.getD_some] at hkept
  rw [acceptedLately_pos]
  suffices hlive : ∃ t ∈ entries, Window.live registrationCutoff c.now t = true by
    obtain ⟨t, ht, hlive⟩ := hlive
    exact ⟨t, hkept.subset ht, hlive⟩
  by_cases hsweep : s.limiter.calls % registrationSweepInterval = 0
  · -- The sweep leaves nothing but what is live.
    have hne := nonempty_of_swept h.nonempty hget
    have hdrop := s.limiter.dropOld_swept c.now k
    obtain ⟨t, ht⟩ := List.exists_mem_of_ne_nil entries hne
    refine ⟨t, ht, Window.live_of_mem_dropOld (((h.kept k).mono hnow).sorted (h.sorted k)) ?_⟩
    unfold Registrations.swept at hget
    rw [if_pos hsweep, Table.get_filterMap] at hget
    obtain ⟨old, hold, hkeep⟩ := Option.bind_eq_some_iff.mp hget
    dsimp only at hkeep
    split at hkeep
    · cases hkeep
    · cases hkeep
      rw [Registrations.of, hold, Option.getD_some, ← Registrations.dropOld_eq]
      exact ht
  · have hswept : s.limiter.swept c.now = s.limiter.entries := if_neg hsweep
    rw [hswept] at hnew hfull hget
    rcases hroomy with hsweeps | hknown | hroom | hall
    · exact absurd hsweeps hsweep
    · rw [hnew] at hknown
      cases hknown
    · exact absurd hfull (not_le.mpr hroom)
    · exact hall k entries hget

theorem Admissions.Inv.justified (h : s.Inv limit last) (hnow : last ≤ c.now)
    (hroomy : s.limiter.Roomy c)
    (hrefused : (s.limiter.allowRegistration c.effectiveIp limit c.now).1 = false) :
    Justified limit s.accepted c := by
  have hcases := allowRegistration_cases s.limiter c.effectiveIp limit c.now
  rw [hrefused] at hcases
  generalize (s.limiter.allowRegistration c.effectiveIp limit c.now).2.entries = entries at hcases
  cases hcases with
  | full hnew hfull =>
    have hlen := (Registrations.len_swept_le s.limiter c.now).trans h.len
    refine .inr ⟨(s.limiter.swept c.now).keys.toFinset, ?_, ?_, fun ip hip => ?_⟩
    · rw [List.toFinset_card_of_nodup (AList.keys_nodup _), ← Table.len_eq_keys]
      exact le_antisymm hlen hfull
    · rw [List.mem_toFinset]
      exact Table.get_eq_none.mp hnew
    · rw [List.mem_toFinset] at hip
      cases hget : (s.limiter.swept c.now).get ip with
      | none => exact absurd hip (Table.get_eq_none.mp hget)
      | some entries => exact h.lately_of_swept hnow hroomy hnew hfull hget
  | limited hlimited =>
    left
    rw [← h.length_dropOld hnow]
    exact hlimited

theorem Admissions.Inv.not_justified (h : s.Inv limit last) (hnow : last ≤ c.now)
    (hlimit : 0 < limit) (hroomy : ¬ s.limiter.Roomy c) :
    (s.limiter.allowRegistration c.effectiveIp limit c.now).1 = false ∧
      ¬ Justified limit s.accepted c := by
  unfold Registrations.Roomy at hroomy
  push Not at hroomy
  obtain ⟨hsweep, hnew, hfull, stale, entries, hstale, hold⟩ := hroomy
  rw [ne_eq, Bool.not_eq_true, Option.isSome_eq_false_iff, Option.isNone_iff_eq_none] at hnew
  have hswept : s.limiter.swept c.now = s.limiter.entries := if_neg hsweep
  constructor
  · unfold Registrations.allowRegistration
    dsimp only
    rw [hswept, if_pos (by simp [hnew, hfull])]
  · rintro (hused | ⟨others, hcard, -, hlately⟩)
    · rw [← h.length_dropOld hnow, Registrations.of, hnew] at hused
      exact absurd hused (not_le.mpr hlimit)
    · -- The others are all the addresses of the table, the stale one among them.
      have hkept := fun ip => (h.kept ip).mono hnow
      have hsub : others ⊆ s.limiter.entries.keys.toFinset := by
        intro ip hip
        obtain ⟨t, ht, hlive⟩ := acceptedLately_pos.mp (hlately ip hip)
        have hmem := (hkept ip).mem_of_live ht hlive
        rw [List.mem_toFinset]
        by_contra hout
        rw [Registrations.of, Table.get_eq_none.mpr hout] at hmem
        cases hmem
      have hkeys : s.limiter.entries.keys.toFinset.card ≤ others.card := by
        rw [List.toFinset_card_of_nodup (AList.keys_nodup _), ← Table.len_eq_keys, hcard]
        exact h.len
      have hin : stale ∈ others := by
        rw [Finset.eq_of_subset_of_card_le hsub hkeys, List.mem_toFinset]
        by_contra hout
        rw [Table.get_eq_none.mpr hout] at hstale
        cases hstale
      obtain ⟨t, ht, hlive⟩ := acceptedLately_pos.mp (hlately stale hin)
      have hmem := (hkept stale).mem_of_live ht hlive
      rw [Registrations.of, hstale] at hmem
      exact hold t hmem hlive

end Calls

/-! ## Runs -/

section Runs

variable {limit : Nat} {calls : List RegistrationCall} {c : RegistrationCall}

theorem admissions_snoc :
    admissions limit (calls ++ [c]) = (admissions limit calls).call limit c := by
  unfold admissions
  rw [List.foldl_append, List.foldl_cons, List.foldl_nil]

def TimesAdvance (calls : List RegistrationCall) : Prop := calls.Pairwise fun b c => b.now ≤ c.now

theorem inv_admissions (hlimit : 0 < limit) (h : TimesAdvance calls) {last : Instant}
    (hlast : ∀ c ∈ calls, c.now ≤ last) : (admissions limit calls).Inv limit last := by
  induction calls using List.reverseRecOn generalizing last with
  | nil =>
    exact ⟨fun _ => .refl, fun _ => .nil, by simp [admissions], fun _ => Nat.zero_le _,
      fun ip entries hget => by simp [admissions, Registrations.init] at hget, Nat.zero_le _⟩
  | append_singleton calls c ih =>
    obtain ⟨hcalls, -, hpast⟩ := List.pairwise_append.mp h
    rw [admissions_snoc]
    have hbefore := ih hcalls fun b hb => hpast b hb c (List.mem_singleton_self c)
    exact (hbefore.call le_rfl hlimit).mono (hlast c (by simp))

theorem window_bound (hlimit : 0 < limit) (h : TimesAdvance calls) (ip : IpAddr) (start : Instant) :
    (acceptedOf (admissions limit calls).accepted ip).countP
      (Window.inside registrationCutoff start) ≤ limit := by
  induction calls using List.reverseRecOn with
  | nil => exact Nat.zero_le _
  | append_singleton calls c ih =>
    obtain ⟨hcalls, -, hpast⟩ := List.pairwise_append.mp h
    have hbefore := ih hcalls
    by_cases hin : c.now < start + registrationCutoff
    · have hlast : ∀ b ∈ calls ++ [c], b.now ≤ c.now := by
        intro b hb
        rcases List.mem_append.mp hb with hb | hb
        · exact hpast b hb c (List.mem_singleton_self c)
        · exact le_of_eq (congrArg RegistrationCall.now (List.mem_singleton.mp hb))
      have hinv := inv_admissions hlimit h hlast
      exact ((hinv.kept ip).count_inside hin).trans (hinv.bounded ip)
    · -- The call is not in the window.
      rw [admissions_snoc]
      unfold Admissions.call
      dsimp only
      split
      · rw [acceptedOf_snoc, List.countP_append]
        have hout : (if c.effectiveIp = ip then [c.now] else []).countP
            (Window.inside registrationCutoff start) = 0 := by
          split
          · rw [List.countP_singleton, if_neg fun hc => hin (Window.inside_iff.mp hc).2]
          · rfl
        rw [hout]
        exact hbefore
      · exact hbefore

/-- A refusal is justified if and only if the call finds the table roomy. -/
theorem refusal_justified_iff (hlimit : 0 < limit) (h : TimesAdvance (calls ++ [c])) :
    (((admissions limit calls).limiter.allowRegistration c.effectiveIp limit c.now).1 = false →
      Justified limit (admissions limit calls).accepted c) ↔
      (admissions limit calls).limiter.Roomy c := by
  obtain ⟨hcalls, -, hpast⟩ := List.pairwise_append.mp h
  have hinv := inv_admissions hlimit hcalls fun b hb => hpast b hb c (List.mem_singleton_self c)
  constructor
  · intro hjustified
    by_contra hroomy
    obtain ⟨hrefused, hnot⟩ := hinv.not_justified le_rfl hlimit hroomy
    exact hnot (hjustified hrefused)
  · exact fun hroomy hrefused => hinv.justified le_rfl hroomy hrefused

/-- The limiter is exact over a run of calls if and only if no call of a new address finds the
table full, with no sweep due, and an address in it that has not registered in the last minute. -/
theorem limiter_exact_iff (limit : Nat) (calls : List RegistrationCall) (hlimit : 0 < limit)
    (h : TimesAdvance calls) :
    LimiterExact limit calls ↔
      ∀ before c after, calls = before ++ c :: after → (admissions limit before).limiter.Roomy c := by
  have hpre : ∀ {before c after}, calls = before ++ c :: after → TimesAdvance (before ++ [c]) := by
    rintro before c after rfl
    exact List.Pairwise.sublist
      ((List.Sublist.refl before).append (List.singleton_sublist.mpr List.mem_cons_self)) h
  constructor
  · intro hexact before c after hsplit
    exact (refusal_justified_iff hlimit (hpre hsplit)).mp (hexact.refused before c after hsplit)
  · intro hroomy
    refine ⟨window_bound hlimit h, fun before c after hsplit => ?_⟩
    exact (refusal_justified_iff hlimit (hpre hsplit)).mpr (hroomy before c after hsplit)

end Runs

/-! ## A table full of old addresses -/

def sampleIp (n : Nat) : IpAddr := .v4 (.ofNat 32 n)

/-- Registrations of as many addresses, all at the start. -/
def sampleCalls (n : Nat) : List RegistrationCall := (List.range n).map fun k => ⟨sampleIp k, 0⟩

theorem sampleIp_injective {a b : Nat} (ha : a < 2 ^ 32) (hb : b < 2 ^ 32)
    (h : sampleIp a = sampleIp b) : a = b := by
  have hofNat : BitVec.ofNat 32 a = BitVec.ofNat 32 b := IpAddr.v4.inj h
  have htoNat := congrArg BitVec.toNat hofNat
  rwa [BitVec.toNat_ofNat, BitVec.toNat_ofNat, Nat.mod_eq_of_lt ha, Nat.mod_eq_of_lt hb] at htoNat

/-- One registration of each of `n` addresses, and `calls` calls. -/
structure Filled (s : Registrations) (n calls : Nat) : Prop where
  calls : s.calls = calls
  len : s.entries.len = n
  known : ∀ k < 2 ^ 32, (s.entries.get (sampleIp k)).isSome = true ↔ k < n
  first : ∀ ip entries, s.entries.get ip = some entries → entries = [0]

section Filled

variable {s : Registrations} {n calls : Nat}

theorem Filled.swept (h : Filled s n calls) : s.swept 0 = s.entries := by
  unfold Registrations.swept
  split
  · apply Table.filterMap_eq_self
    rintro ip entries hget
    rw [h.first ip entries hget]
    decide
  · rfl

theorem Filled.call_new (h : Filled s n n) (hn : n < maxRegistrationIps) :
    Filled (s.allowRegistration (sampleIp n) 1 0).2 (n + 1) (n + 1) := by
  have hsmall : n < 2 ^ 32 := hn.trans (by decide)
  have hnew : s.entries.get (sampleIp n) = none := by
    rw [← Option.isNone_iff_eq_none, ← Option.isSome_eq_false_iff, ← Bool.not_eq_true,
      h.known n hsmall]
    exact lt_irrefl n
  have hroom : ¬ maxRegistrationIps ≤ n := not_le.mpr hn
  have hstep : s.allowRegistration (sampleIp n) 1 0 =
      (true, ⟨s.entries.insert (sampleIp n) [0], n + 1⟩) := by
    unfold Registrations.allowRegistration
    dsimp only
    rw [h.swept, hnew, h.len, h.calls, Nat.mod_eq_of_lt (by omega)]
    simp [hroom, Registrations.dropOld]
  rw [hstep]
  refine ⟨rfl, ?_, fun k hk => ?_, fun ip entries hget => ?_⟩
  · rw [Table.len_insert, if_pos hnew, h.len]
  · rw [Table.get_insert]
    split
    · rename_i heq
      rw [sampleIp_injective hk hsmall heq]
      simp
    · rename_i hne
      rw [h.known k hk]
      have hkn : k ≠ n := fun heq => hne (congrArg sampleIp heq)
      omega
  · rw [Table.get_insert] at hget
    split at hget
    · cases hget
      rfl
    · exact h.first ip entries hget

/-- A further call of a known address leaves the table as it is. -/
theorem Filled.call_known (h : Filled s n n) (hn : 0 < n) (hle : n ≤ maxRegistrationIps) :
    Filled (s.allowRegistration (sampleIp 0) 1 0).2 n (n + 1) := by
  obtain ⟨entries, hget⟩ := Option.isSome_iff_exists.mp ((h.known 0 (by decide)).mpr hn)
  obtain rfl := h.first _ _ hget
  have hmax : maxRegistrationIps < 2 ^ 32 := by decide
  have hdrop : Registrations.dropOld 0 [0] = [0] := by decide
  have hstep : s.allowRegistration (sampleIp 0) 1 0 =
      (false, ⟨s.entries.insert (sampleIp 0) [0], n + 1⟩) := by
    unfold Registrations.allowRegistration
    dsimp only
    rw [h.swept, hget, h.calls, Nat.mod_eq_of_lt (by omega)]
    simp [hdrop]
  rw [hstep]
  refine ⟨rfl, ?_, fun k hk => ?_, fun ip entries hip => ?_⟩
  · rw [Table.len_insert, if_neg (by simp [hget]), h.len]
  · rw [Table.get_insert]
    split
    · rename_i heq
      rw [sampleIp_injective hk (by decide) heq]
      simpa using hn
    · exact h.known k hk
  · rw [Table.get_insert] at hip
    split at hip
    · cases hip
      rfl
    · exact h.first ip entries hip

theorem Filled.not_roomy (h : Filled s maxRegistrationIps (maxRegistrationIps + 1)) :
    ¬ s.Roomy ⟨sampleIp maxRegistrationIps, secs 60⟩ := by
  rintro (hsweep | hknown | hroom | hall)
  · rw [h.calls] at hsweep
    exact absurd hsweep (by decide)
  · exact absurd ((h.known _ (by decide)).mp hknown) (lt_irrefl _)
  · rw [h.len] at hroom
    exact absurd hroom (lt_irrefl _)
  · have hsome := (h.known 0 (by decide)).mpr (by decide)
    obtain ⟨entries, hget⟩ := Option.isSome_iff_exists.mp hsome
    obtain ⟨t, ht, hlive⟩ := hall _ _ hget
    rw [h.first _ _ hget, List.mem_singleton] at ht
    rw [ht] at hlive
    exact absurd hlive (by decide)

/-- After the last of the addresses, a known one comes once more. -/
theorem Filled.call {s : Admissions} (h : Filled s.limiter n n) (hn : 0 < n)
    (hle : n ≤ maxRegistrationIps) : Filled (s.call 1 ⟨sampleIp 0, 0⟩).limiter n (n + 1) :=
  h.call_known hn hle

theorem filled_sampleCalls (hn : n ≤ maxRegistrationIps) :
    Filled (admissions 1 (sampleCalls n)).limiter n n := by
  induction n with
  | zero =>
    exact ⟨rfl, rfl, by simp [admissions, sampleCalls, Registrations.init],
      by simp [admissions, sampleCalls, Registrations.init]⟩
  | succ n ih =>
    unfold sampleCalls
    rw [List.range_succ, List.map_append, List.map_singleton, admissions_snoc]
    exact (ih (by omega)).call_new hn

end Filled

/-- The limiter is full of addresses that registered a minute ago. -/
def sampleRun : List RegistrationCall :=
  sampleCalls maxRegistrationIps ++ [⟨sampleIp 0, 0⟩] ++ [⟨sampleIp maxRegistrationIps, secs 60⟩]

theorem timesAdvance_sampleRun : TimesAdvance sampleRun := by
  have hzero : ∀ c ∈ sampleCalls maxRegistrationIps ++ [⟨sampleIp 0, 0⟩], c.now = 0 := by
    intro c hc
    rcases List.mem_append.mp hc with hc | hc
    · obtain ⟨k, -, rfl⟩ := List.mem_map.mp hc
      rfl
    · rw [List.mem_singleton.mp hc]
  unfold TimesAdvance sampleRun
  rw [List.pairwise_append]
  refine ⟨?_, List.pairwise_singleton _ _, fun b hb c _ => ?_⟩
  · exact List.pairwise_of_forall_mem_list fun b hb c _ => by rw [hzero b hb]; exact Nat.zero_le _
  · rw [hzero b hb]
    exact Nat.zero_le _

/-- A new address is refused though none has registered in the last minute. -/
theorem stale_table_refuses : TimesAdvance sampleRun ∧ ¬ LimiterExact 1 sampleRun := by
  refine ⟨timesAdvance_sampleRun, fun h => ?_⟩
  have hadvance := timesAdvance_sampleRun
  have hjustified := h.refused _ _ [] rfl
  unfold sampleRun at hadvance
  rw [refusal_justified_iff Nat.one_pos hadvance, admissions_snoc] at hjustified
  have hfilled := (filled_sampleCalls le_rfl).call (by decide) le_rfl
  exact hfilled.not_roomy hjustified

theorem limiter_exact_sample : LimiterExact 1 sampleRun ↔
    ∀ before c after, sampleRun = before ++ c :: after →
      (admissions 1 before).limiter.Roomy c :=
  limiter_exact_iff 1 sampleRun Nat.one_pos timesAdvance_sampleRun

end Starry.Routing
