import Starry.Enrollment.Sound

/-!
# Rules for the actions of the store

What has to be shown where a call performs an action. Errors end a call, and nothing is claimed
about them beyond `Sound`.
-/

open Library Library.Prog

namespace Starry.Enrollment

variable (env : Env) (setup : Setup)

/-- Every action keeps the store sound, and advances it. -/
abbrev rules : Rules Act Act.Reply World := Serial.rules (next env setup) Sound (Advance env)

/-- A program that may fail ends as `Q` says, unless it fails. -/
def Ends {α : Type} (p : Try α) (Q : α → World → Prop) (w : World) : Prop :=
  (rules env setup).Tries p Q (fun _ _ => True) w

section

variable {env : Env} {setup : Setup} {w : World} {α β : Type} {Q : α → World → Prop}

@[simp] theorem ends_pure {x : α} : Ends env setup (Pure.pure x) Q w ↔ Q x w := Iff.rfl

@[simp] theorem ends_throw {e : EnrollmentError} :
    Ends env setup (throw e : Try α) Q w ↔ True := Iff.rfl

@[simp] theorem ends_bind {p : Try α} {f : α → Try β} {Q : β → World → Prop} :
    Ends env setup (p >>= f) Q w ↔ Ends env setup p (fun x => Ends env setup (f x) Q) w :=
  Rules.tries_bind

@[simp] theorem ends_lift {p : Agent α} :
    Ends env setup (liftM p : Try α) Q w ↔ (rules env setup).Safe p Q w :=
  Rules.tries_lift

theorem Ends.mono {p : Try α} {Q' : α → World → Prop} (h : Ends env setup p Q w)
    (hQ : ∀ x t, Q x t → Q' x t) : Ends env setup p Q' w :=
  Rules.Tries.mono h hQ fun _ _ h => h

/-- The store is sound wherever a program ends. -/
theorem Ends.of_sound {p : Try α} (hs : Sound w)
    (h : Ends env setup p (fun x t => Sound t → Q x t) w) : Ends env setup p Q w := by
  refine Serial.safe_of_kept hs (Rules.Safe.mono h fun r t hr hsound => ?_)
  cases r with
  | ok x => exact hr hsound
  | error e => trivial

@[simp] theorem ends_check {r : Io Unit} {Q : Unit → World → Prop} :
    Ends env setup (check r) Q w ↔ (r = .ok () → Q () w) := by
  cases r with
  | ok x => exact ⟨fun h _ => h, fun h => h rfl⟩
  | error e => exact iff_of_true trivial (by simp)

theorem ends_ite {p : Prop} [Decidable p] {a b : Try α} (ha : p → Ends env setup a Q w)
    (hb : ¬ p → Ends env setup b Q w) : Ends env setup (if p then a else b) Q w := by
  split
  · exact ha ‹_›
  · exact hb ‹_›

/-! ## Reading -/

/-- An action that changes nothing. -/
theorem before_quiet {a : Act} {Q : a.Reply → World → Prop} (hs : Sound w)
    (hquiet : ∀ r t, next env setup w a r t → t = w)
    (h : ∀ r, next env setup w a r w → Q r w) : (rules env setup).before a Q w := by
  constructor
  · intro r t hn
    rw [hquiet r t hn]
    exact ⟨hs, .refl w⟩
  · intro r t hn
    have ht := hquiet r t hn
    subst ht
    exact h r hn

theorem ends_readRecord {id : String} {Q : EnrollmentRecord → World → Prop} (hs : Sound w)
    (h : ∀ r, w.records.get id = some r → Q r w) : Ends env setup (readRecord id) Q w := by
  refine before_quiet hs ?_ ?_
  · rintro r t ⟨ok, hn⟩
    simp only [step] at hn
    split at hn <;> cases hn <;> rfl
  · rintro r ⟨ok, hn⟩
    simp only [step] at hn
    split at hn
    · cases hn
      cases ok <;> trivial
    · rename_i record hrecord
      cases hn
      cases ok
      · trivial
      · exact h record hrecord

theorem ends_readClaim {node : String} {Q : Option ClaimMarker → World → Prop} (hs : Sound w)
    (h : Q (w.dir node).claim w) : Ends env setup (readClaim node) Q w := by
  refine before_quiet hs ?_ ?_
  · rintro r t ⟨ok, hn⟩
    cases hn
    rfl
  · rintro r ⟨ok, hn⟩
    cases ok <;> cases hn
    · trivial
    · exact h

theorem ends_read {node : String} {c : Credential} {Q : Option String → World → Prop}
    (hs : Sound w) (h : Q ((w.dir node).get c) w) :
    Ends env setup (io (run (.read node c))) Q w := by
  refine before_quiet hs ?_ ?_
  · rintro r t ⟨ok, hn⟩
    cases hn
    rfl
  · rintro r ⟨ok, hn⟩
    cases ok <;> cases hn
    · trivial
    · exact h

theorem ends_createDirectory {node : String} {Q : Unit → World → Prop} (hs : Sound w)
    (h : Q () w) : Ends env setup (io (run (.createDirectory node))) Q w := by
  refine before_quiet hs ?_ ?_
  · rintro r t ⟨ok, hn⟩
    cases hn
    rfl
  · rintro r ⟨ok, hn⟩
    cases ok <;> cases hn
    · trivial
    · exact h

theorem ends_syncDirectory {node : String} {Q : Unit → World → Prop} (hs : Sound w)
    (h : Q () w) : Ends env setup (io (run (.syncDirectory node))) Q w := by
  refine before_quiet hs ?_ ?_
  · rintro r t ⟨ok, hn⟩
    cases hn
    rfl
  · rintro r ⟨ok, hn⟩
    cases ok <;> cases hn
    · trivial
    · exact h

theorem ends_issueCertificate {csrPem : String} {Q : String → World → Prop} (hs : Sound w)
    (h : ∀ certificate, Q certificate w) :
    Ends env setup (io (run (.issueCertificate csrPem))) Q w := by
  refine before_quiet hs ?_ ?_
  · rintro r t ⟨c, hn⟩
    cases hn
    rfl
  · rintro (e | certificate) -
    · trivial
    · exact h certificate

theorem ends_readCenterPublicKey {Q : String → World → Prop} (hs : Sound w)
    (h : Q setup.centerPublicKey w) : Ends env setup (io (run .readCenterPublicKey)) Q w := by
  refine before_quiet hs ?_ ?_
  · rintro r t ⟨ok, hn⟩
    cases hn
    rfl
  · rintro r ⟨ok, hn⟩
    cases ok <;> cases hn
    · trivial
    · exact h

theorem ends_readRelayCa {Q : String → World → Prop} (hs : Sound w) (h : Q setup.relayCa w) :
    Ends env setup (io (run .readRelayCa)) Q w := by
  refine before_quiet hs ?_ ?_
  · rintro r t ⟨ok, hn⟩
    cases hn
    rfl
  · rintro r ⟨ok, hn⟩
    cases ok <;> cases hn
    · trivial
    · exact h

theorem ends_records {Q : List EnrollmentRecord → World → Prop} (hs : Sound w)
    (h : ∀ listed : List EnrollmentRecord,
      (∀ r, r ∈ listed ↔ w.records.get r.enrollmentId = some r) → Q listed w) :
    Ends env setup (io (run .records)) Q w := by
  refine before_quiet hs ?_ ?_
  · rintro r t ⟨c, hn⟩
    simp only [step] at hn
    split at hn
    · cases hn
      rfl
    · split at hn
      · cases hn
      · split at hn <;> cases hn <;> rfl
  · rintro r ⟨c, hn⟩
    simp only [step] at hn
    split at hn
    · cases hn
      trivial
    · rename_i listed
      split at hn
      · cases hn
      · rename_i hperm
        split at hn
        · cases hn
          trivial
        · cases hn
          refine h listed fun r => ?_
          have hp : listed.Perm (w.records.values .stored) :=
            List.isPerm_iff.mp (by simpa using hperm)
          rw [hp.mem_iff, Keyed.mem_values]

/-! ## Clock, identifiers and secrets -/

theorem safe_unixSeconds {Q : Nat → World → Prop} (hs : Sound w)
    (h : ∀ now, w.clock ≤ now → Q now (w.setClock now)) :
    (rules env setup).Safe unixSeconds Q w := by
  have hnext : ∀ (r : Nat) t, next env setup w .now r t → w.clock ≤ r ∧ t = w.setClock r := by
    rintro r t ⟨c, hn⟩
    simp only [step] at hn
    split at hn
    · rename_i hle
      cases hn
      exact ⟨hle, rfl⟩
    · cases hn
  constructor
  · intro r t hn
    obtain ⟨hle, rfl⟩ := hnext r t hn
    exact ⟨hs.setClock hle, .setClock hle⟩
  · intro r t hn
    obtain ⟨hle, rfl⟩ := hnext r t hn
    exact h r hle

theorem safe_newId {Q : String → World → Prop} (hs : Sound w) (h : ∀ id, Q id w) :
    (rules env setup).Safe newId Q w := by
  refine before_quiet hs ?_ ?_
  · rintro r t ⟨c, hn⟩
    simp only [step] at hn
    split at hn <;> cases hn
    rfl
  · rintro r -
    exact h r

theorem safe_randomSecret {Q : String → World → Prop} (hs : Sound w)
    (h : ∀ secret, secret ∉ w.secrets → noWhiteSpace secret = true →
      Q secret (w.addSecret secret)) : (rules env setup).Safe randomSecret Q w := by
  have hnext : ∀ (r : String) t, next env setup w .randomSecret r t →
      r ∉ w.secrets ∧ noWhiteSpace r = true ∧ t = w.addSecret r := by
    rintro r t ⟨c, hn⟩
    simp only [step] at hn
    split at hn
    · cases hn
    · rename_i hfresh
      cases hn
      simp only [Bool.or_eq_true, not_or, Bool.not_eq_true', Bool.not_eq_false,
        List.contains_iff_mem] at hfresh
      exact ⟨hfresh.1, hfresh.2, rfl⟩
  constructor
  · intro r t hn
    obtain ⟨-, -, rfl⟩ := hnext r t hn
    exact ⟨hs.addSecret r, .addSecret r⟩
  · intro r t hn
    obtain ⟨hfresh, hspace, rfl⟩ := hnext r t hn
    exact h r hfresh hspace

/-! ## Writing -/

/-- A write to `w'` may fail before and after it has happened. -/
theorem before_write {a : Act} {Q : a.Reply → World → Prop} {w' : World} {x y : a.Reply}
    (hs : Sound w) (hs' : Sound w') (hadvance : Advance env w w')
    (hnext : ∀ r t, next env setup w a r t →
      r = x ∧ t = w' ∨ r = y ∧ (t = w ∨ t = w'))
    (h : Q x w') (hfailed : ∀ t, Q y t) : (rules env setup).before a Q w := by
  constructor
  · intro r t hn
    rcases hnext r t hn with ⟨-, rfl⟩ | ⟨-, rfl | rfl⟩
    · exact ⟨hs', hadvance⟩
    · exact ⟨hs, .refl _⟩
    · exact ⟨hs', hadvance⟩
  · intro r t hn
    rcases hnext r t hn with ⟨rfl, rfl⟩ | ⟨rfl, -⟩
    · exact h
    · exact hfailed t

theorem write_cases {w w' t : World} {c : Write} {r : Io Unit} (h : write w w' c = (r, t)) :
    r = .ok () ∧ t = w' ∨ r = .error .internal ∧ (t = w ∨ t = w') := by
  cases c <;> cases h
  · exact .inl ⟨rfl, rfl⟩
  · exact .inr ⟨rfl, .inl rfl⟩
  · exact .inr ⟨rfl, .inr rfl⟩

theorem ends_replaceRecord {r r' : EnrollmentRecord} {Q : Unit → World → Prop} (hs : Sound w)
    (hr : w.records.get r'.enrollmentId = some r) (hadvance : RecordAdvance r r')
    (hsound : RecordSound w r') (h : Q () (w.putRecord r')) :
    Ends env setup (io (run (.replaceRecord r'))) Q w := by
  refine before_write (x := .ok ()) (y := .error .internal) hs
    (hs.replaceRecord hr hadvance hsound) (.replaceRecord hr hadvance) ?_ h fun _ => trivial
  rintro reply t ⟨c, hn⟩
  exact write_cases (Option.some.inj hn)

/-- The same where an error does not end the call. -/
theorem safe_writeAnyway {r r' : EnrollmentRecord} {Q : Unit → World → Prop}
    (hs : Sound w) (hr : w.records.get r'.enrollmentId = some r) (hadvance : RecordAdvance r r')
    (hsound : RecordSound w r') (h : ∀ t, Q () t) :
    (rules env setup).Safe (writeAnyway r') Q w := by
  unfold writeAnyway
  rw [Rules.safe_discard]
  refine before_write (x := .ok ()) (y := .error .internal) hs
    (hs.replaceRecord hr hadvance hsound) (.replaceRecord hr hadvance) ?_ (h _) h
  rintro reply t ⟨c, hn⟩
  exact write_cases (Option.some.inj hn)

theorem ends_createRecord {r : EnrollmentRecord} {Q : Unit → World → Prop} (hs : Sound w)
    (hstate : r.state = .pendingClaim) (hclaim : r.completedAtUnix = none)
    (happroved : Approved env r)
    (hnode : ∀ id x, w.records.get id = some x → x.approved.nodeId = r.approved.nodeId →
      x.state.isOver = true)
    (h : w.records.get r.enrollmentId = none → Q () (w.putRecord r)) :
    Ends env setup (io (run (.createRecord r))) Q w := by
  cases hnew : w.records.get r.enrollmentId with
  | some x =>
    refine before_quiet hs ?_ ?_
    all_goals
      rintro reply
      simp only [next, byChoice, step, hnew, Option.isSome_some, if_true]
    · rintro t ⟨c, hn⟩
      cases hn
      rfl
    · rintro ⟨c, hn⟩
      cases hn
      trivial
  | none =>
    refine before_write (x := .ok ()) (y := .error .internal) hs
      (hs.createRecord hnew hstate hclaim hnode) (.createRecord hnew hstate happroved) ?_ (h hnew)
      fun _ => trivial
    rintro reply t ⟨c, hn⟩
    simp only [step, hnew, Option.isSome_none, Bool.false_eq_true, if_false] at hn
    exact write_cases (Option.some.inj hn)

theorem ends_createClaim {node : String} {m : ClaimMarker} {r : EnrollmentRecord}
    {Q : Unit → World → Prop} (hs : Sound w) (hclaim : (w.dir node).claim = none)
    (hr : w.records.get m.enrollmentId = some r) (hnode : r.approved.nodeId = node)
    (h : Q () (w.setDir node { w.dir node with claim := some m })) :
    Ends env setup (io (run (.createClaim node m))) Q w := by
  refine before_write (x := .ok ()) (y := .error .internal) hs (hs.createClaim hclaim hr hnode)
    (.setDir_of_vacant (hs.vacant_of_claim hclaim)) ?_ h fun _ => trivial
  rintro reply t ⟨c, hn⟩
  simp only [step, hclaim, Option.isSome_none, Bool.false_eq_true, if_false] at hn
  exact write_cases (Option.some.inj hn)

theorem ends_removeClaim {node : String} {Q : Unit → World → Prop} (hs : Sound w)
    (hvacant : Vacant w node) (hempty : ∀ c, (w.dir node).get c = none)
    (h : Q () (w.setDir node { w.dir node with claim := none })) :
    Ends env setup (io (run (.removeClaim node))) Q w := by
  refine before_write (x := .ok ()) (y := .error .internal) hs (hs.removeClaim hvacant hempty)
    (.setDir_of_vacant hvacant) ?_ h fun _ => trivial
  rintro reply t ⟨c, hn⟩
  exact write_cases (Option.some.inj hn)

theorem ends_remove {node : String} {c : Credential} {Q : Unit → World → Prop} (hs : Sound w)
    (hvacant : Vacant w node) (h : Q () (w.setDir node ((w.dir node).set c none))) :
    Ends env setup (io (run (.remove node c))) Q w := by
  refine before_write (x := .ok ()) (y := .error .internal) hs (hs.removeCredential hvacant)
    (.setDir_of_vacant hvacant) ?_ h fun _ => trivial
  rintro reply t ⟨choice, hn⟩
  exact write_cases (Option.some.inj hn)

theorem ends_createCertificate {node text : String} {m : ClaimMarker} {Q : Unit → World → Prop}
    (hs : Sound w) (hclaim : (w.dir node).claim = some m)
    (hnone : (w.dir node).certificate = none)
    (h : Q () (w.setDir node ((w.dir node).set .certificate (some text)))) :
    Ends env setup (io (run (.create node .certificate text))) Q w := by
  refine before_write (x := .ok ()) (y := .error .internal) hs (hs.createCertificate hclaim hnone)
    (.setDir_of_vacant (hs.vacant_of_credential (c := .certificate) hnone)) ?_ h fun _ => trivial
  rintro reply t ⟨c, hn⟩
  simp only [step, RelayDir.get, hnone, Option.isSome_none, Bool.false_eq_true, if_false] at hn
  exact write_cases (Option.some.inj hn)

theorem ends_createSecret {node text : String} {m : ClaimMarker} {Q : Unit → World → Prop}
    (hs : Sound w) (hclaim : (w.dir node).claim = some m) (hnone : (w.dir node).secret = none)
    (hgenerated : trim text ∈ w.secrets) (hnew : ∀ id, (trim text, id) ∉ w.issued)
    (h : Q () ((w.setDir node ((w.dir node).set .secret (some text))).issue node text)) :
    Ends env setup (io (run (.create node .secret text))) Q w := by
  refine before_write (x := .ok ()) (y := .error .internal) hs
    (hs.createSecret hclaim hnone hgenerated hnew) (.createSecret hs hclaim hnone) ?_ h
    fun _ => trivial
  rintro reply t ⟨c, hn⟩
  simp only [step, RelayDir.get, hnone, Option.isSome_none, Bool.false_eq_true, if_false] at hn
  exact write_cases (Option.some.inj hn)

end

end Starry.Enrollment
