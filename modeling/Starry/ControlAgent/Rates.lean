import Starry.ControlAgent.Access

/-!
# How often a principal is let through

A window counts for each pair of a certificate and a service. It begins at a request, so any minute
meets two windows at most.
-/

open Library

namespace Starry.ControlAgent

section

variable {build : Build} {state : AgentState} {jwt : ServiceJwt} {s t : System} {key : String}

/-- Whether the action was an admission for the key. -/
def Performed.enters (key : String) : Performed → Bool
  | ⟨.enter key', reply⟩ => key' == key && reply == some true
  | _ => false

/-- How often the request of a task was admitted for the key. -/
def Task.admissions (key : String) (task : Task) : Nat :=
  task.trace.countP (Performed.enters key)

/-- When the key was admitted. -/
def System.times (s : System) (key : String) : List Instant :=
  (s.admitted.filter fun e => e.1 == key).map Prod.snd

/-- The windows count what was admitted, and what was admitted are the admissions of the tasks. -/
structure Rated (s : System) : Prop where
  window : ∀ key x, s.rate.get key = some x →
    FixedWindow.Counts (secs 60) requestsPerMinute s.now (s.times key) x
  unused : ∀ key, s.rate.get key = none → s.times key = []
  tasks : ∀ key, (s.tasks.map (Task.admissions key)).sum = (s.times key).length

/-- A key without a window begins one. -/
theorem Rated.counts (h : Rated s) (key : String) :
    FixedWindow.Counts (secs 60) requestsPerMinute s.now (s.times key)
      ((s.rate.get key).getD ⟨s.now, 0⟩) := by
  cases hget : s.rate.get key with
  | none =>
    rw [h.unused key hget]
    exact .fresh ..
  | some x => exact h.window key x hget

/-! ## One admission -/

theorem enter_rate (key : String) : (s.enter key).2.rate.get key =
    some (((s.rate.get key).getD ⟨s.now, 0⟩).enter (secs 60) requestsPerMinute s.now).2 := by
  simp [System.enter]

theorem enter_rate_other {key' : String} (hne : key' ≠ key) :
    (s.enter key).2.rate.get key' = s.rate.get key' := by
  simp [System.enter, hne]

theorem enter_times (key : String) : (s.enter key).2.times key =
    if (s.enter key).1 then s.times key ++ [s.now] else s.times key := by
  unfold System.enter System.times
  dsimp only
  split
  · rw [List.filter_append, List.map_append]
    simp
  · rfl

theorem enter_times_other {key' : String} (hne : key' ≠ key) :
    (s.enter key).2.times key' = s.times key' := by
  have hother : (key == key') = false := by simpa using fun h : key = key' => hne h.symm
  unfold System.enter System.times
  dsimp only
  split
  · rw [List.filter_append, List.map_append]
    simp [hother]
  · rfl

theorem Rated.enter_window (h : Rated s) (key key' : String) (x : FixedWindow)
    (hget : (s.enter key).2.rate.get key' = some x) :
    FixedWindow.Counts (secs 60) requestsPerMinute s.now ((s.enter key).2.times key') x := by
  by_cases heq : key' = key
  · subst heq
    rw [enter_rate] at hget
    rw [enter_times, ← Option.some.inj hget]
    exact (h.counts key').enter (by decide)
  · rw [enter_rate_other heq] at hget
    rw [enter_times_other heq]
    exact h.window key' x hget

theorem Rated.enter_unused (h : Rated s) (key key' : String)
    (hget : (s.enter key).2.rate.get key' = none) : (s.enter key).2.times key' = [] := by
  by_cases heq : key' = key
  · subst heq
    rw [enter_rate] at hget
    cases hget
  · rw [enter_rate_other heq] at hget
    rw [enter_times_other heq]
    exact h.unused key' hget

/-! ## Runs -/

/-- What an action adds to the admissions of its task, it adds to what was admitted. -/
theorem outcome_admissions {a : Action} {r : Reply a} (h : Outcome state jwt s a r t)
    (key : String) : (t.times key).length =
      (s.times key).length + if Performed.enters key ⟨a, r⟩ then 1 else 0 := by
  cases h with
  | verify token certificate scope epoch => rfl
  | poisoned key' => simp [Performed.enters]
  | enter key' =>
    by_cases heq : key = key'
    · subst heq
      rw [enter_times]
      cases (s.enter key).1 <;> simp [Performed.enters]
    · have hne : (key' == key) = false := by simpa using fun h : key' = key => heq h.symm
      rw [enter_times_other heq]
      simp [Performed.enters, hne]
  | any r hverify hother =>
    have hno : Performed.enters key ⟨a, r⟩ = false := by
      unfold Performed.enters
      split
      · rename_i heq
        cases heq
        exact absurd rfl (hother _)
      · rfl
    simp [hno]

theorem rated_outcome {a : Action} {r : Reply a} (hs : Rated s) (h : Outcome state jwt s a r t) :
    (∀ key x, t.rate.get key = some x →
      FixedWindow.Counts (secs 60) requestsPerMinute t.now (t.times key) x) ∧
      ∀ key, t.rate.get key = none → t.times key = [] := by
  cases h with
  | enter key => exact ⟨hs.enter_window key, hs.enter_unused key⟩
  | verify token certificate scope epoch => exact ⟨hs.window, hs.unused⟩
  | poisoned key => exact ⟨hs.window, hs.unused⟩
  | any r hverify hother => exact ⟨hs.window, hs.unused⟩

theorem rated_step {m : Turn} (hs : Rated s) (hn : Proceed build state jwt s m t) : Rated t := by
  cases hn with
  | wait d => exact ⟨fun key x h => (hs.window key x h).mono (Nat.le_add_right _ _), hs.unused,
      hs.tasks⟩
  | arrive request =>
    refine ⟨hs.window, hs.unused, fun key => ?_⟩
    rw [List.map_append, List.sum_append, hs.tasks]
    simp [Task.admissions, System.times]
  | @act u i request a k trace r hi h =>
    obtain ⟨hwindow, hunused⟩ := rated_outcome hs h
    refine ⟨hwindow, hunused, fun key => ?_⟩
    have hsum := sum_map_set_of_getElem? (y := ⟨request, k r, trace ++ [⟨a, r⟩]⟩)
      (Task.admissions key) hi
    have hmore := outcome_admissions h key
    have hbefore := hs.tasks key
    simp only [Task.admissions, List.countP_append, List.countP_singleton] at hsum hbefore ⊢
    rw [outcome_tasks h]
    change _ = (u.times key).length
    omega

theorem rated_reachable (h : Reachable (Proceed build state jwt) System.init s) : Rated s := by
  apply h.invariant (P := Rated) _ fun _ _ _ hs hn => rated_step hs hn
  constructor
  · simp [System.init]
  · exact fun _ _ => rfl
  · exact fun _ => rfl

/-! ## Different keys -/

theorem last_separator {α : Type} {x : α} {l m l' m' : List α} (hm : x ∉ m) (hm' : x ∉ m')
    (h : l ++ x :: m = l' ++ x :: m') : l = l' ∧ m = m' := by
  rcases List.append_eq_append_iff.mp h with ⟨c, rfl, hc⟩ | ⟨c, rfl, hc⟩
  · cases c with
    | nil => simp_all
    | cons y c =>
      rw [List.cons_append, List.cons.injEq] at hc
      exact absurd (hc.2 ▸ List.mem_append_right c List.mem_cons_self) hm
  · cases c with
    | nil => simp_all
    | cons y c =>
      rw [List.cons_append, List.cons.injEq] at hc
      exact absurd (hc.2 ▸ List.mem_append_right c List.mem_cons_self) hm'

theorem not_mem_of_boundedIdentity {value : String} (h : boundedIdentity value = true) :
    '\x00' ∉ value.toList := by
  unfold boundedIdentity at h
  rw [Bool.and_eq_true, Bool.not_eq_true', List.any_eq_false] at h
  intro hmem
  exact h.2 _ hmem (by decide)

/-- A name of a service has no separator in it, whatever the certificate has. -/
theorem rateKey_inj {p q : ControlPrincipal} (hp : boundedIdentity p.service = true)
    (hq : boundedIdentity q.service = true) (h : rateKey p = rateKey q) :
    p.certificateUriSan = q.certificateUriSan ∧ p.service = q.service := by
  unfold rateKey at h
  have hlist := congrArg String.toList h
  simp only [String.toList_append, List.append_assoc] at hlist
  obtain ⟨hcertificate, hservice⟩ := last_separator (not_mem_of_boundedIdentity hp)
    (not_mem_of_boundedIdentity hq) hlist
  exact ⟨String.toList_injective hcertificate, String.toList_injective hservice⟩

/-- However the requests of a principal come, no minute has more than twice the rate of them admitted,
and it is refused only when the last minute has had as many as the rate; nothing is counted for it but
what was admitted for its own certificate and service. -/
theorem admissions_bounded (h : Reachable (Proceed build state jwt) System.init s)
    (principal : ControlPrincipal) :
    (∀ start, (s.times (rateKey principal)).countP (Window.inside (secs 60) start) ≤
      2 * requestsPerMinute) ∧
    ((s.enter (rateKey principal)).1 = false →
      requestsPerMinute ≤ (s.times (rateKey principal)).countP (Window.live (secs 60) s.now)) ∧
    (s.times (rateKey principal)).length =
      (s.tasks.map (Task.admissions (rateKey principal))).sum ∧
    ∀ other, boundedIdentity principal.service = true → boundedIdentity other.service = true →
      rateKey other = rateKey principal →
        other.certificateUriSan = principal.certificateUriSan ∧
          other.service = principal.service := by
  have hrated := rated_reachable h
  have hcounts := hrated.counts (rateKey principal)
  refine ⟨hcounts.any, fun hrefused => hcounts.refused (by decide) hrefused,
    (hrated.tasks _).symm, fun other hprincipal hother heq => rateKey_inj hother hprincipal heq⟩

end

theorem admissions_bounded_reload : ∃ s,
    Reachable (Proceed reloadBuild reloadState reloadJwt) System.init s ∧
      (s.tasks.map (Task.admissions (rateKey reloadPrincipal))).sum = 1 ∧
      ∀ start, (s.times (rateKey reloadPrincipal)).countP (Window.inside (secs 60) start) ≤
        2 * requestsPerMinute := by
  obtain ⟨s, task, r, k, hreachable, -, -, -, hadmitted⟩ := reload_reachable
  obtain ⟨hany, -, htasks, -⟩ := admissions_bounded hreachable reloadPrincipal
  refine ⟨s, hreachable, ?_, hany⟩
  rw [← htasks]
  simp [System.times, hadmitted]

end Starry.ControlAgent
