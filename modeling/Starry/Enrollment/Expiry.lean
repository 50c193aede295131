import Starry.Enrollment.Lifecycle

/-!
# Expired approvals (`RelayEnrollmentStore::prepare`)

`complete` is the only call that stores `expired`. Until it has been made for an approval that
nobody claimed in time, `prepare` takes the record by its stored state for one that still binds
the node.
-/

open Library Library.Prog

namespace Starry.Enrollment

/-! ## Runs in which nothing fails -/

/-- No read or write fails, and a new id is one that no record has. -/
def Unhindered (w : World) : (a : Act) → a.Choice → Prop
  | .newId, (id : String) => w.records.get id = none
  | .records, listed => listed.isSome = true
  | .createRecord _, c => c = .done
  | _, _ => True

section

variable (env : Env) (setup : Setup)

def steady (w : World) (a : Act) (r : a.Reply) (t : World) : Prop :=
  ∃ c, Unhindered w a c ∧ step env setup w a c = some (r, t)

/-- Every run of `prepare` in which nothing fails ends with an enrollment. -/
def Prepares (w : World) (request : RelayEnrollmentPrepareRequest) (idempotencyKey : String) :
    Prop :=
  ∀ es r t, Eval (steady env setup) (prepare env setup request idempotencyKey).run w es r t →
    ∃ response, r = .ok response

/-- Those runs. -/
abbrev steadily : Rules Act Act.Reply World := .every (fun _ _ => True) (steady env setup)

end

/-- The record is revoked, or expired, or nobody claimed it in time. -/
def EnrollmentRecord.Lapsed (now : Nat) (r : EnrollmentRecord) : Prop :=
  r.state.isOver = true ∨ r.completedAtUnix = none ∧ r.expiresAtUnix ≤ now

variable {env : Env} {setup : Setup} {w : World} {request : RelayEnrollmentPrepareRequest}
  {idempotencyKey : String}

theorem length_values (w : World) : (w.records.values .stored).length = w.records.len := by
  simp [Keyed.values, Keyed.len, Table.iter, Table.len, HashOrder.stored]

/-! ## Single actions -/

theorem steady_records {r : Io (List EnrollmentRecord)} {t : World}
    (hroom : w.records.len < maxRecords) (h : steady env setup w .records r t) :
    t = w ∧ ∃ listed, r = .ok listed ∧ listed.Perm (w.records.values .stored) := by
  obtain ⟨c, hc, hstep⟩ := h
  obtain ⟨listed, rfl⟩ := Option.isSome_iff_exists.mp hc
  simp only [step] at hstep
  split at hstep
  · cases hstep
  · rename_i hperm
    have hp : listed.Perm (w.records.values .stored) := List.isPerm_iff.mp (by simpa using hperm)
    have hlength := hp.length_eq
    rw [length_values] at hlength
    rw [if_neg (by omega)] at hstep
    cases hstep
    exact ⟨rfl, listed, rfl, hp⟩

theorem steady_now {r : Nat} {t : World} (h : steady env setup w .now r t) :
    t = w.setClock r := by
  obtain ⟨c, -, hstep⟩ := h
  simp only [step] at hstep
  split at hstep
  · cases hstep
    rfl
  · cases hstep

theorem steady_newId {r : String} {t : World} (h : steady env setup w .newId r t) :
    t = w ∧ w.records.get r = none := by
  obtain ⟨c, hc, hstep⟩ := h
  simp only [step] at hstep
  split at hstep
  · cases hstep
    exact ⟨rfl, hc⟩
  · cases hstep

theorem steady_createRecord {record : EnrollmentRecord} {r : Io Unit} {t : World}
    (hfresh : w.records.get record.enrollmentId = none)
    (h : steady env setup w (.createRecord record) r t) : r = .ok () := by
  obtain ⟨c, hc, hstep⟩ := h
  cases hc
  simp only [step, hfresh, Option.isSome_none, Bool.false_eq_true, if_false] at hstep
  cases hstep
  rfl

/-- All records may be listed as they are stored. -/
theorem exists_records (hroom : w.records.len < maxRecords) :
    steady env setup w .records (.ok (w.records.values .stored)) w := by
  refine ⟨some (w.records.values .stored), rfl, ?_⟩
  have hperm : (w.records.values .stored).isPerm (w.records.values .stored) = true :=
    List.isPerm_iff.mpr (.refl _)
  have hlength : ¬ (w.records.values .stored).length > maxRecords := by
    rw [length_values]
    omega
  simp [step, hperm, hlength]

section Rules

variable {α : Type} {E : EnrollmentError → World → Prop}

theorem tries_records {Q : List EnrollmentRecord → World → Prop}
    (hroom : w.records.len < maxRecords)
    (h : ∀ listed, listed.Perm (w.records.values .stored) → Q listed w) :
    (steadily env setup).Tries (io (run .records)) Q E w := by
  refine ⟨trivial, fun r t hnext => ?_⟩
  obtain ⟨rfl, listed, rfl, hlisted⟩ := steady_records hroom hnext
  exact h listed hlisted

theorem tries_unixSeconds {Q : Nat → World → Prop} (h : ∀ now, Q now (w.setClock now)) :
    (steadily env setup).Tries (liftM unixSeconds) Q E w := by
  refine Rules.tries_lift.mpr ⟨trivial, fun r t hnext => ?_⟩
  obtain rfl := steady_now hnext
  exact h r

theorem tries_newId {Q : String → World → Prop} (h : ∀ id, w.records.get id = none → Q id w) :
    (steadily env setup).Tries (liftM newId) Q E w := by
  refine Rules.tries_lift.mpr ⟨trivial, fun r t hnext => ?_⟩
  obtain ⟨rfl, hfresh⟩ := steady_newId hnext
  exact h r hfresh

theorem tries_createRecord {record : EnrollmentRecord} {Q : Unit → World → Prop}
    (hfresh : w.records.get record.enrollmentId = none) (h : ∀ t, Q () t) :
    (steadily env setup).Tries (io (run (.createRecord record))) Q E w := by
  refine ⟨trivial, fun r t hnext => ?_⟩
  obtain rfl := steady_createRecord hfresh hnext
  exact h t

theorem may_records {Q : List EnrollmentRecord → World → Prop}
    (hroom : w.records.len < maxRecords) (h : Q (w.records.values .stored) w) :
    (Rules.some (steady env setup)).Tries (io (run .records)) Q E w :=
  ⟨_, _, exists_records hroom, h⟩

end Rules

/-! ## Preparing -/

/-- The records do not answer for the key. -/
def Unused (env : Env) (w : World) (idempotencyKey : String) : Prop :=
  ∀ r, w.records.get r.enrollmentId = some r →
    r.prepareIdempotencyKeyDigest ≠ env.digest (asBytes idempotencyKey)

/-- The records of one node. -/
def World.OfNode (w : World) (node : String) (r : EnrollmentRecord) : Prop :=
  w.records.get r.enrollmentId = some r ∧ r.approved.nodeId = node

theorem find_unused {listed : List EnrollmentRecord} {p : EnrollmentRecord → Bool}
    (hlisted : listed.Perm (w.records.values .stored)) (hunused : Unused env w idempotencyKey) :
    (listed.find? fun r =>
      r.prepareIdempotencyKeyDigest == env.digest (asBytes idempotencyKey) && p r) = none := by
  rw [List.find?_eq_none]
  intro r hr
  have hkey := hunused r (Keyed.mem_values.mp (hlisted.mem_iff.mp hr))
  simp [hkey]

/-- What `prepare` looks for among the records, when nobody has used its key. -/
theorem any_bound {listed : List EnrollmentRecord}
    (hlisted : listed.Perm (w.records.values .stored)) (hunused : Unused env w idempotencyKey) :
    (listed.any fun r => r.prepareIdempotencyKeyDigest == env.digest (asBytes idempotencyKey) ||
      (r.approved.nodeId == request.nodeId && !r.state.isOver)) = true ↔
    ∃ r, w.OfNode request.nodeId r ∧ r.state.isOver = false := by
  rw [List.any_eq_true]
  constructor
  · rintro ⟨r, hr, hbound⟩
    have hget := Keyed.mem_values.mp (hlisted.mem_iff.mp hr)
    have hkey := hunused r hget
    simp only [Bool.or_eq_true, beq_iff_eq, hkey, false_or, Bool.and_eq_true, Bool.not_eq_true']
      at hbound
    exact ⟨r, ⟨hget, hbound.1⟩, hbound.2⟩
  · rintro ⟨r, ⟨hget, hnode⟩, hlive⟩
    refine ⟨r, hlisted.mem_iff.mpr (Keyed.mem_values.mpr hget), ?_⟩
    simp [hnode, hlive]

/-- With an unused key and room for a record, only a live record of the node is in the way. -/
theorem prepares_of_over (hvalid : validatePrepare env request = .ok ())
    (hkey : validateIdempotencyKey idempotencyKey = .ok ())
    (hunused : Unused env w idempotencyKey) (hroom : w.records.len < maxRecords)
    (hover : ∀ r, w.OfNode request.nodeId r → r.state.isOver = true) :
    Prepares env setup w request idempotencyKey := by
  have hsafe : (steadily env setup).Tries (prepare env setup request idempotencyKey)
      (fun _ _ => True) (fun _ _ => False) w := by
    unfold prepare
    rw [hvalid, hkey]
    refine Rules.tries_bind.mpr (Rules.tries_bind.mpr (Rules.tries_bind.mpr ?_))
    refine tries_records hroom fun listed hlisted => ?_
    dsimp only
    split
    · rename_i record hfind
      rw [find_unused hlisted hunused] at hfind
      cases hfind
    · rw [if_neg, if_neg]
      · refine Rules.tries_bind.mpr (tries_unixSeconds fun now => ?_)
        refine Rules.tries_bind.mpr (tries_newId fun id hfresh => ?_)
        exact Rules.tries_bind.mpr (tries_createRecord hfresh fun t => trivial)
      · rw [hlisted.length_eq, length_values]
        omega
      · rw [any_bound hlisted hunused]
        rintro ⟨r, hr, hlive⟩
        rw [hover r hr] at hlive
        cases hlive
  intro es r t he
  have hr := Rules.Safe.eval hsafe he
  cases r with
  | ok response => exact ⟨response, rfl⟩
  | error e => exact hr.elim

/-- A live record of the node is a conflict. -/
theorem not_prepares_of_live (hvalid : validatePrepare env request = .ok ())
    (hkey : validateIdempotencyKey idempotencyKey = .ok ())
    (hunused : Unused env w idempotencyKey) (hroom : w.records.len < maxRecords)
    {r : EnrollmentRecord} (hr : w.OfNode request.nodeId r) (hlive : r.state.isOver = false) :
    ¬ Prepares env setup w request idempotencyKey := by
  intro hprepares
  have hfails : (Rules.some (steady env setup)).Tries (prepare env setup request idempotencyKey)
      (fun _ _ => False) (fun _ _ => True) w := by
    unfold prepare
    rw [hvalid, hkey]
    refine Rules.tries_bind.mpr (Rules.tries_bind.mpr (Rules.tries_bind.mpr ?_))
    refine may_records hroom ?_
    dsimp only
    rw [find_unused (.refl _) hunused]
    dsimp only
    rw [if_pos ((any_bound (.refl _) hunused).mpr ⟨r, hr, hlive⟩)]
    trivial
  obtain ⟨es, x, t, he, hx⟩ := hfails.exists_eval
  obtain ⟨response, rfl⟩ := hprepares es x t he
  exact hx

/-- An approval that ran out unclaimed is out of the way once it is stored as expired. -/
theorem expired_approvals_prepared (hvalid : validatePrepare env request = .ok ())
    (hkey : validateIdempotencyKey idempotencyKey = .ok ())
    (hunused : Unused env w idempotencyKey) (hroom : w.records.len < maxRecords)
    (hlapsed : ∀ r, w.OfNode request.nodeId r → r.Lapsed w.clock) :
    Prepares env setup w request idempotencyKey ↔
      ∀ r, w.OfNode request.nodeId r → r.completedAtUnix = none → r.expiresAtUnix ≤ w.clock →
        r.state.isOver = true := by
  constructor
  · intro hprepares r hr _ _
    by_contra hlive
    exact not_prepares_of_live hvalid hkey hunused hroom hr (by simpa using hlive) hprepares
  · intro hstored
    refine prepares_of_over hvalid hkey hunused hroom fun r hr => ?_
    rcases hlapsed r hr with hover | ⟨hunclaimed, hpast⟩
    · exact hover
    · exact hstored r hr hunclaimed hpast

/-! ## An approval nobody claims -/

/-- The node is approved until time 700. -/
def approvedOnce : Option Store :=
  Serial.serve (TimedCall.program againEnv sampleSetup) begins
    (step againEnv sampleSetup) sampleChoices (World.initial 100) []
    [⟨.prepare (sampleRequest "native" none none) "first-key", 100⟩]

/-- The same, and the relay comes too late. -/
def expiredOnce : Option Store :=
  Serial.serve (TimedCall.program againEnv sampleSetup) begins
    (step againEnv sampleSetup) sampleChoices (World.initial 100) []
    [⟨.prepare (sampleRequest "native" none none) "first-key", 100⟩,
      ⟨.complete (sampleClaim firstId), 800⟩]

/-- The store has room, nobody used the key, and the records are as `p` says. -/
def Store.allows (s : Store) (idempotencyKey : String) (p : EnrollmentRecord → Bool) : Bool :=
  decide (s.state.records.len < maxRecords) && (s.state.records.values .stored).all fun r =>
    r.prepareIdempotencyKeyDigest != againEnv.digest (asBytes idempotencyKey) && p r

theorem Store.allows_spec {s : Store} {p : EnrollmentRecord → Bool}
    (h : s.allows idempotencyKey p = true) :
    s.state.records.len < maxRecords ∧ Unused againEnv s.state idempotencyKey ∧
      ∀ r, s.state.records.get r.enrollmentId = some r → p r = true := by
  simp only [Store.allows, Bool.and_eq_true, decide_eq_true_eq, List.all_eq_true, bne_iff_ne] at h
  refine ⟨h.1, fun r hr => (h.2 r (Keyed.mem_values.mpr hr)).1, fun r hr => ?_⟩
  exact (h.2 r (Keyed.mem_values.mpr hr)).2

/-- The relay asks too late, which stores its approval as expired, and its node is free again. -/
theorem expired_approvals_prepared_late : ∃ s, expiredOnce = some s ∧
    (Prepares againEnv sampleSetup s.state (sampleRequest "native" none none) "second-key" ↔
      ∀ r, s.state.OfNode "relay-sg" r → r.completedAtUnix = none →
        r.expiresAtUnix ≤ s.state.clock → r.state.isOver = true) := by
  have h : (expiredOnce.map fun s => s.allows "second-key" fun r => r.state.isOver) =
      some true := by
    decide +kernel
  obtain ⟨s, hs, hallows⟩ := Option.map_eq_some_iff.mp h
  obtain ⟨hroom, hunused, hover⟩ := Store.allows_spec hallows
  exact ⟨s, hs, expired_approvals_prepared (by decide) (by decide) hunused hroom
    fun r hr => .inl (hover r hr.1)⟩

/-- At time 800 the approval that ended at 700 still binds its node. -/
theorem expired_approval_blocks : ¬ ∀ (s : Store) (now : Nat)
    (request : RelayEnrollmentPrepareRequest) (idempotencyKey : String),
    s.Reached againEnv sampleSetup → s.state.clock ≤ now →
    validatePrepare againEnv request = .ok () → validateIdempotencyKey idempotencyKey = .ok () →
    Unused againEnv s.state idempotencyKey → s.state.records.len < maxRecords →
    (∀ r, s.state.OfNode request.nodeId r → r.Lapsed now) →
    Prepares againEnv sampleSetup (s.state.setClock now) request idempotencyKey := by
  intro hall
  have h : (approvedOnce.map fun s => s.allows "second-key" (fun r =>
      r.approved.nodeId == "relay-sg" && r.state == .pendingClaim && r.completedAtUnix.isNone &&
        decide (r.expiresAtUnix ≤ 800)) && decide (s.state.clock ≤ 800) &&
        !(s.state.records.values .stored).isEmpty) = some true := by
    decide +kernel
  obtain ⟨s, hs, hfacts⟩ := Option.map_eq_some_iff.mp h
  rw [Bool.and_eq_true, Bool.and_eq_true, decide_eq_true_eq, Bool.not_eq_true'] at hfacts
  obtain ⟨⟨hallows, hclock⟩, hsome⟩ := hfacts
  obtain ⟨hroom, hunused, hpending⟩ := Store.allows_spec hallows
  have hreached : s.Reached againEnv sampleSetup :=
    ⟨100, Serial.reachable_serve (fun _ _ _ => starts_of_begins) (.refl _) hs⟩
  have hlapsed : ∀ r, s.state.OfNode "relay-sg" r → r.Lapsed 800 := by
    intro r hr
    have hp := hpending r hr.1
    simp only [Bool.and_eq_true, beq_iff_eq, Option.isNone_iff_eq_none, decide_eq_true_eq] at hp
    exact .inr ⟨hp.1.2, hp.2⟩
  obtain ⟨r, hr⟩ := List.exists_mem_of_ne_nil _ (List.isEmpty_eq_false_iff.mp hsome)
  have hget := Keyed.mem_values.mp hr
  have hp := hpending r hget
  simp only [Bool.and_eq_true, beq_iff_eq] at hp
  have hvalid : validatePrepare againEnv (sampleRequest "native" none none) = .ok () := by decide
  have hprepares := hall s 800 (sampleRequest "native" none none) "second-key" hreached hclock
    hvalid (by decide) hunused hroom hlapsed
  refine not_prepares_of_live (w := s.state.setClock 800) hvalid (by decide) hunused hroom
    ⟨hget, hp.1.1.1⟩ ?_ hprepares
  rw [hp.1.1.2]
  rfl

end Starry.Enrollment
