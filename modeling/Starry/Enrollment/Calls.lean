import Starry.Enrollment.Rules

/-!
# What each call does

Every call is followed action by action. A claim is written before the credentials that it stands
for, and removed after them.
-/

open Library Library.Prog

namespace Starry.Enrollment

variable {env : Env} {setup : Setup} {w : World} {node : String}

/-! ## Claims and credentials -/

/-- The records are the same, and time has gone on. -/
structure SameRecords (w w' : World) : Prop where
  records : w'.records = w.records
  clock : w.clock ≤ w'.clock

theorem SameRecords.refl (w : World) : SameRecords w w := ⟨rfl, Nat.le_refl _⟩

theorem SameRecords.trans {u v : World} (h : SameRecords w u) (h' : SameRecords u v) :
    SameRecords w v :=
  ⟨h'.records.trans h.records, h.clock.trans h'.clock⟩

theorem SameRecords.setDir {d : RelayDir} : SameRecords w (w.setDir node d) := ⟨rfl, Nat.le_refl _⟩

/-- The three files of a node are removed, the claim last. -/
theorem ends_removeRelayCredentials {expected : ClaimMarker} {Q : Unit → World → Prop}
    (hs : Sound w) (hvacant : Vacant w node)
    (h : ∀ t, SameRecords w t → (t.dir node).claim = none → Q () t) :
    Ends env setup (removeRelayCredentials node expected) Q w := by
  unfold removeRelayCredentials
  rw [ends_bind]
  refine ends_readClaim hs ?_
  split
  · trivial
  · rename_i actual _
    dsimp only
    split
    · trivial
    · rw [ends_bind]
      refine ends_remove hs hvacant ?_
      generalize hu : w.setDir node ((w.dir node).set .certificate none) = u
      have hsu : Sound u := hu ▸ hs.removeCredential hvacant
      have hvu : Vacant u node := hu ▸ hvacant
      rw [ends_bind]
      refine ends_remove hsu hvu ?_
      generalize hv : u.setDir node ((u.dir node).set .secret none) = v
      have hsv : Sound v := hv ▸ hsu.removeCredential hvu
      have hvv : Vacant v node := hv ▸ hvu
      have hempty : ∀ c, (v.dir node).get c = none := by
        intro c
        cases c <;> simp [← hv, ← hu, RelayDir.get, RelayDir.set]
      rw [ends_bind]
      refine ends_removeClaim hsv hvv hempty ?_
      refine ends_syncDirectory (hsv.removeClaim hvv hempty) (h _ ?_ ?_)
      · subst hu hv
        exact ⟨rfl, Nat.le_refl _⟩
      · rw [World.dir_setDir_self]

/-- A claim of an enrollment that is over belongs to no completed one. -/
theorem Sound.vacant_of_over {m : ClaimMarker} {previous : EnrollmentRecord} (hs : Sound w)
    (hclaim : (w.dir node).claim = some m)
    (hprevious : w.records.get m.enrollmentId = some previous)
    (hover : previous.state.isOver = true) : Vacant w node := by
  intro id r hr hnode hc
  by_contra hrevoked
  obtain ⟨m', hm', hmarks⟩ := ((hs.record id r hr).equipped hc hrevoked).claim
  rw [hnode, hclaim] at hm'
  cases hm'
  have hid : r.enrollmentId = id := Keyed.get_key hr
  rw [hmarks.enrollmentId, hid, hr] at hprevious
  cases hprevious
  have hclaimed := (hs.record id previous hr).claimed hc
  cases hstate : previous.state with
  | expired => exact hclaimed.2 hstate
  | revoked => exact hrevoked hstate
  | _ => simp [hstate, EnrollmentState.isOver] at hover

/-- The claim of an older enrollment is retired, or there is none. -/
theorem ends_retireRevokedClaim {current : EnrollmentRecord} {expected : ClaimMarker}
    {Q : Unit → World → Prop} (hs : Sound w)
    (h : ∀ t, SameRecords w t →
      (t.dir node).claim = none ∨ (t.dir node).claim = some expected → Q () t) :
    Ends env setup (retireRevokedClaim node current expected) Q w := by
  unfold retireRevokedClaim
  rw [ends_bind]
  refine ends_readClaim hs ?_
  split
  · rename_i hclaim
    exact h w (.refl w) (.inl hclaim)
  · rename_i existing hclaim
    dsimp only
    split
    · rename_i hsame
      exact h w (.refl w) (.inr (by rw [hclaim, hsame]))
    · rw [ends_bind]
      have hread : Ends env setup (readRecord existing.enrollmentId)
          (fun r t => t = w ∧ w.records.get existing.enrollmentId = some r) w :=
        ends_readRecord hs fun r hr => ⟨rfl, hr⟩
      unfold Ends
      rw [Rules.tries_tryCatch]
      refine Rules.Tries.mono hread ?_ fun _ _ _ => trivial
      rintro previous t ⟨rfl, hprevious⟩
      split
      · trivial
      · rename_i hover
        simp only [Bool.or_eq_true, not_or, Bool.not_eq_true', Bool.not_eq_false] at hover
        exact ends_removeRelayCredentials hs (hs.vacant_of_over hclaim hprevious hover.2)
          fun t ht hnone => h t ht (.inl hnone)

theorem ends_validateOrWriteClaim {expected : ClaimMarker} {r : EnrollmentRecord}
    {Q : Unit → World → Prop} (hs : Sound w)
    (hr : w.records.get expected.enrollmentId = some r) (hnode : r.approved.nodeId = node)
    (h : ∀ t, SameRecords w t → (t.dir node).claim = some expected → Q () t) :
    Ends env setup (validateOrWriteClaim node expected) Q w := by
  unfold validateOrWriteClaim
  rw [ends_bind]
  refine ends_readClaim hs ?_
  split
  · rename_i existing hclaim
    split
    · trivial
    · rename_i hsame
      exact h w (.refl w) (by rw [hclaim, not_not.mp hsame])
  · rename_i hclaim
    refine ends_createClaim hs hclaim hr hnode (h _ .setDir ?_)
    rw [World.dir_setDir_self]

theorem dropWhile_isWhiteSpace {l : List Char} (h : ∀ c ∈ l, isWhiteSpace c = false) :
    l.dropWhile isWhiteSpace = l := by
  cases l with
  | nil => rfl
  | cons c l => rw [List.dropWhile_cons_of_neg (by simp [h c List.mem_cons_self])]

theorem trim_newline {secret : String} (h : noWhiteSpace secret = true) :
    trim (secret ++ "\n") = secret := by
  have hall : ∀ c ∈ secret.toList, isWhiteSpace c = false := by
    intro c hc
    simpa using List.all_eq_true.mp h c hc
  have hlist : (secret ++ "\n").toList.dropWhile isWhiteSpace = secret.toList ++ ['\n'] ∨
      secret.toList = [] := by
    rw [String.toList_append]
    cases hs : secret.toList with
    | nil => exact .inr rfl
    | cons c l =>
      have hc : isWhiteSpace c = false := hall c (by rw [hs]; exact List.mem_cons_self)
      refine .inl ?_
      rw [List.cons_append, List.dropWhile_cons_of_neg (by simp [hc])]
      rfl
  unfold trim
  rcases hlist with hlist | hempty
  · rw [hlist, List.reverse_append, List.reverse_singleton, List.singleton_append,
      List.dropWhile_cons_of_pos (by decide), dropWhile_isWhiteSpace, List.reverse_reverse,
      String.ofList_toList]
    intro c hc
    exact hall c (List.mem_reverse.mp hc)
  · have hsecret : secret = "" := String.toList_inj.mp hempty
    subst hsecret
    decide

/-- What the certificate and the secret of a node leave alone. -/
structure SameClaim (w w' : World) (node : String) : Prop extends SameRecords w w' where
  claim : (w'.dir node).claim = (w.dir node).claim

theorem ends_ensureCertificate {csrPem : String} {m : ClaimMarker} {Q : Unit → World → Prop}
    (hs : Sound w) (hclaim : (w.dir node).claim = some m)
    (h : ∀ t, SameClaim w t node → (t.dir node).certificate.isSome = true → Q () t) :
    Ends env setup (ensureCertificate node csrPem) Q w := by
  unfold ensureCertificate
  rw [ends_bind]
  refine ends_read hs ?_
  split
  · rename_i hnone
    rw [Option.isNone_iff_eq_none] at hnone
    rw [ends_bind]
    refine ends_issueCertificate hs fun certificate => ?_
    refine ends_createCertificate hs hclaim hnone (h _ ⟨.setDir, ?_⟩ ?_)
    · rw [World.dir_setDir_self, RelayDir.claim_set]
    · rw [World.dir_setDir_self]
      rfl
  · rename_i hsome
    refine h w ⟨.refl w, rfl⟩ ?_
    rw [Bool.not_eq_true, Option.isNone_eq_false_iff] at hsome
    exact hsome

theorem ends_ensureSecret {m : ClaimMarker} {Q : Unit → World → Prop} (hs : Sound w)
    (hclaim : (w.dir node).claim = some m)
    (h : ∀ t, SameClaim w t node → (t.dir node).certificate = (w.dir node).certificate →
      (t.dir node).secret.isSome = true → Q () t) :
    Ends env setup (ensureSecret node) Q w := by
  unfold ensureSecret
  rw [ends_bind]
  refine ends_read hs ?_
  split
  · rename_i hnone
    rw [Option.isNone_iff_eq_none] at hnone
    rw [ends_bind, ends_lift]
    refine safe_randomSecret hs fun secret hfresh hspace => ?_
    have htrim := trim_newline hspace
    refine ends_createSecret (hs.addSecret secret) hclaim hnone ?_ ?_ (h _ ⟨?_, ?_⟩ ?_ ?_)
    · rw [htrim]
      exact List.mem_cons_self
    · intro id hid
      rw [htrim] at hid
      exact hfresh (hs.issued secret id hid)
    · constructor
      · simp [World.addSecret]
      · simp [World.addSecret, World.setDir]
    · simp [RelayDir.claim_set]
    · simp [RelayDir.set]
    · simp [RelayDir.set]
  · rename_i hsome
    refine h w ⟨.refl w, rfl⟩ rfl ?_
    rw [Bool.not_eq_true, Option.isNone_eq_false_iff] at hsome
    exact hsome

/-! ## Bundles -/

/-- What a bundle is made of. -/
structure Bundles (env : Env) (setup : Setup) (w : World) (record : EnrollmentRecord)
    (bundle : RelayEnrollmentBundle) : Prop where
  certificate : (w.dir record.approved.nodeId).certificate = some bundle.nodeCertificatePem
  secret : ∃ text, (w.dir record.approved.nodeId).secret = some text ∧
    trim text = bundle.telemetrySecret
  key : ∃ keyFingerprint, record.keyFingerprint = some keyFingerprint ∧
    env.certificateKey bundle.nodeCertificatePem = some keyFingerprint
  secretLength : env.decodedUrlSafeLength bundle.telemetrySecret = some 32
  contents : bundle = relayBundle record.approved bundle.nodeCertificatePem setup.relayCa
    (trim setup.centerPublicKey) bundle.telemetrySecret

@[simp] theorem ends_present {text : Option String} {Q : String → World → Prop} :
    Ends env setup (present text) Q w ↔ ∀ x, text = some x → Q x w := by
  cases text with
  | none => exact iff_of_true trivial (by simp)
  | some x => exact ⟨fun h y hy => Option.some.inj hy ▸ h, fun h => h x rfl⟩

theorem ends_bundle {record : EnrollmentRecord} {Q : RelayEnrollmentBundle → World → Prop}
    (hs : Sound w)
    (h : ∀ bundle now, w.clock ≤ now → Bundles env setup w record bundle →
      Q bundle (w.setClock now)) : Ends env setup (bundle env record) Q w := by
  unfold bundle
  dsimp only
  rw [ends_bind]
  refine ends_read hs ?_
  rw [ends_bind, ends_present]
  intro certificate hcertificate
  rw [ends_bind]
  refine ends_read hs ?_
  rw [ends_bind, ends_present]
  intro text htext
  split
  · trivial
  · rename_i hlength
    rw [ends_bind]
    refine ends_readCenterPublicKey hs ?_
    rw [ends_bind]
    refine ends_readRelayCa hs ?_
    rw [ends_bind, ends_present]
    intro keyFingerprint hkey
    rw [ends_bind, ends_lift]
    refine safe_unixSeconds hs fun now hnow => ?_
    split
    · trivial
    · rename_i hvalid
      simp only [Bool.or_eq_true, not_or, decide_eq_true_eq, not_not] at hvalid
      exact h _ now hnow ⟨hcertificate, ⟨text, htext, rfl⟩, ⟨keyFingerprint, hkey, hvalid.1⟩,
        not_not.mp hlength, rfl⟩

/-! ## Completing -/

/-- What a claim has to match. A completed one is matched again only for a while. -/
structure ClaimMatches (env : Env) (record : EnrollmentRecord)
    (request : RelayEnrollmentCompleteRequest) (now : Nat) : Prop where
  configurationDigest : record.configurationDigest = request.configurationDigest
  again : ∀ completed, record.completedAtUnix = some completed →
    record.requestDigest = some request.requestDigest ∧
    record.keyFingerprint = some request.keyFingerprint ∧
    record.csrDigest = some (env.digest (asBytes request.csrPem)) ∧
    now ≤ completed + claimRecoverySeconds

theorem ends_checkClaim {record : EnrollmentRecord} {request : RelayEnrollmentCompleteRequest}
    {Q : Unit → World → Prop} (hs : Sound w)
    (h : ∀ now, w.clock ≤ now → ClaimMatches env record request w.clock →
      Q () (w.setClock now)) : Ends env setup (checkClaim env record request) Q w := by
  have hclock : w = w.setClock w.clock := rfl
  unfold checkClaim
  dsimp only
  refine ends_ite (fun _ => trivial) fun hdigest => ?_
  rw [not_not] at hdigest
  rw [ends_bind]
  cases env.csrKey request.csrPem with
  | error e => trivial
  | ok csrKeyFingerprint =>
    refine ends_ite (fun _ => trivial) fun _ => ?_
    split
    · rename_i hnone
      rw [hclock]
      refine h w.clock (Nat.le_refl _) ⟨hdigest, fun completed hsome => ?_⟩
      rw [hnone] at hsome
      cases hsome
    · rename_i completed hcompleted
      refine ends_ite (fun _ => trivial) fun hsame => ?_
      rw [ends_bind, ends_lift]
      refine safe_unixSeconds hs fun now hnow => ?_
      refine ends_ite (fun _ => trivial) fun hlate => ?_
      refine h now hnow ⟨hdigest, fun c hc => ?_⟩
      rw [hcompleted] at hc
      cases hc
      simp only [Bool.or_eq_true, not_or, decide_eq_true_eq, not_not] at hsame
      refine ⟨hsame.1.1, hsame.1.2, hsame.2, ?_⟩
      unfold satAdd at hlate
      omega

theorem safe_completedAt {record : EnrollmentRecord} {Q : Nat → World → Prop} (hs : Sound w)
    (hcompleted : ∀ c, record.completedAtUnix = some c → c ≤ w.clock)
    (h : ∀ completed now, w.clock ≤ now → completed ≤ now →
      (∀ c, record.completedAtUnix = some c → c = completed) →
      Q completed (w.setClock now)) :
    (rules env setup).Safe (completedAt record) Q w := by
  unfold completedAt
  split
  · rename_i completed hsome
    exact h completed w.clock (Nat.le_refl _) (hcompleted completed hsome) fun c hc =>
      Option.some.inj (hc.symm.trans hsome)
  · rename_i hnone
    refine safe_unixSeconds hs fun now hnow => h now now hnow (Nat.le_refl _) fun c hc => ?_
    rw [hnone] at hc
    cases hc

/-- The enrollment is marked as expired. -/
theorem RecordSound.expire {record : EnrollmentRecord} (h : RecordSound w record)
    (hcompleted : record.completedAtUnix = none) (hrevoked : record.state ≠ .revoked)
    (hexpired : record.expiresAtUnix ≤ w.clock) :
    RecordAdvance record { record with state := .expired } ∧
      RecordSound w { record with state := .expired } := by
  constructor
  · refine ⟨?_, rfl, rfl, fun _ => ⟨rfl, rfl, rfl, rfl⟩⟩
    rcases h.unclaimed hcompleted with hstate | hstate | hstate
    · rw [hstate]
      exact .expire
    · rw [hstate]
      exact .stay _
    · exact absurd hstate hrevoked
  · exact ⟨fun _ => hexpired, fun _ => .inr (.inl rfl), fun hc => absurd hcompleted hc, by simp,
      by simp, fun c hc => by simp [hcompleted] at hc, fun hc => absurd hcompleted hc⟩

section Claimed

variable {record : EnrollmentRecord} {request : RelayEnrollmentCompleteRequest} {completed : Nat}

/-- A claim moves an enrollment on, or finds it where an earlier one has left it. -/
theorem RecordSound.claim_advance {now : Nat} (h : RecordSound w record)
    (hrevoked : record.state ≠ .revoked) (hexpired : record.state ≠ .expired)
    (hmatches : ClaimMatches env record request now)
    (hsame : ∀ c, record.completedAtUnix = some c → c = completed) :
    RecordAdvance record
      (claimedRecord record request (env.digest (asBytes request.csrPem)) completed) := by
  refine ⟨?_, rfl, rfl, fun hc => ?_⟩
  · unfold claimedRecord
    cases hstate : record.state with
    | expired => exact absurd hstate hexpired
    | revoked => exact absurd hstate hrevoked
    | active => exact .stay _
    | pendingClaim =>
      cases record.approved.activateAfterHealth
      · exact .claimForApproval
      · exact .claimForHealth
    | claimedPendingHealth =>
      rw [h.health (.inl hstate)]
      exact .stay _
    | pendingApproval =>
      rw [h.approval hstate]
      exact .stay _
  · obtain ⟨c, hc⟩ := Option.ne_none_iff_exists'.mp hc
    obtain ⟨hrequest, hkey, hcsr, -⟩ := hmatches.again c hc
    refine ⟨?_, hrequest.symm, hkey.symm, hcsr.symm⟩
    rw [hc, hsame c hc]
    rfl

theorem claimedRecord_state_ne {csrDigest : String} :
    (claimedRecord record request csrDigest completed).state ≠ .revoked := by
  unfold claimedRecord
  dsimp only
  split
  · decide
  · split <;> decide

theorem RecordSound.claim {m : ClaimMarker} (h : RecordSound w record)
    (hclaim : (w.dir record.approved.nodeId).claim = some m)
    (hm : m = claimMarker record request (env.digest (asBytes request.csrPem)))
    (hcredentials : ∀ c, ((w.dir record.approved.nodeId).get c).isSome = true)
    (hcompleted : completed ≤ w.clock) :
    RecordSound w
      (claimedRecord record request (env.digest (asBytes request.csrPem)) completed) := by
  subst hm
  constructor
  · unfold claimedRecord
    dsimp only
    split
    · simp
    · split <;> simp
  · intro hnone
    cases hnone
  · intro _
    unfold claimedRecord
    dsimp only
    split
    · simp
    · split <;> simp
  · unfold claimedRecord
    dsimp only
    split
    · rename_i hactive
      exact fun _ => h.health (.inr hactive)
    · split
      · rename_i hhealth
        exact fun _ => hhealth
      · simp
  · unfold claimedRecord
    dsimp only
    split
    · simp
    · split
      · simp
      · rename_i hhealth
        exact fun _ => by simpa using hhealth
  · intro c hc
    cases hc
    exact hcompleted
  · intro _ _
    exact ⟨⟨_, hclaim, rfl, rfl, rfl, rfl, rfl⟩, hcredentials⟩

end Claimed

/-- What a successful claim found, and what it leaves. -/
structure Completes (env : Env) (setup : Setup) (w : World) (request : RelayEnrollmentCompleteRequest)
    (response : RelayEnrollmentCompleteResponse) (t : World) : Prop where
  before : ∃ r, w.records.get request.enrollmentId = some r ∧ r.state ≠ .revoked ∧
    (r.completedAtUnix = none → w.clock < r.expiresAtUnix) ∧
    ∀ completed, r.completedAtUnix = some completed →
      w.clock ≤ completed + claimRecoverySeconds
  after : ∃ r completed, t.records.get request.enrollmentId = some r ∧ r.state ≠ .revoked ∧
    r.completedAtUnix = some completed ∧ completed ≤ t.clock ∧
    r.requestDigest = some request.requestDigest ∧
    r.keyFingerprint = some request.keyFingerprint ∧
    r.csrDigest = some (env.digest (asBytes request.csrPem)) ∧
    Bundles env setup t r response.bundle
  checked : validateComplete env request = .ok ()
  approved : ∃ r, w.records.get request.enrollmentId = some r ∧
    request.configurationDigest = r.configurationDigest ∧
    response.bundle = relayBundle r.approved response.bundle.nodeCertificatePem setup.relayCa
      (trim setup.centerPublicKey) response.bundle.telemetrySecret

theorem ends_complete (hs : Sound w) (request : RelayEnrollmentCompleteRequest) :
    Ends env setup (complete env setup request) (fun r t => Completes env setup w request r t) w := by
  unfold complete
  dsimp only
  rw [ends_bind, ends_check]
  intro hchecked
  rw [ends_bind]
  refine ends_readRecord hs fun record hrecord => ?_
  have hid : record.enrollmentId = request.enrollmentId := Keyed.get_key hrecord
  refine ends_ite (fun _ => trivial) fun _ => ?_
  refine ends_ite (fun _ => trivial) fun hrevoked => ?_
  rw [ends_bind, ends_lift]
  refine safe_unixSeconds hs fun now hnow => ?_
  generalize hu : w.setClock now = u
  have hsu : Sound u := hu ▸ hs.setClock hnow
  have hru : u.records.get record.enrollmentId = some record := by rw [← hu, hid]; exact hrecord
  have hsound := hsu.record _ _ hru
  have hclock : u.clock = now := by rw [← hu]; rfl
  refine ends_ite (fun hexpired => ?_) fun hexpired => ?_
  · -- The claim comes too late.
    simp only [Bool.and_eq_true, decide_eq_true_eq, Option.isNone_iff_eq_none] at hexpired
    obtain ⟨hadvance, hkept⟩ := hsound.expire hexpired.2 hrevoked (hclock ▸ hexpired.1)
    rw [ends_bind, ends_lift]
    exact safe_writeAnyway hsu hru hadvance hkept fun _ => trivial
  · simp only [Bool.and_eq_true, decide_eq_true_eq, Option.isNone_iff_eq_none, not_and] at hexpired
    have hlive : record.state ≠ .expired := by
      intro hstate
      have hover := hsound.expired hstate
      rw [hclock] at hover
      exact (hsound.claimed (hexpired hover)).2 hstate
    rw [ends_bind]
    refine ends_checkClaim hsu fun now' hnow' hmatches => ?_
    have hsv := hsu.setClock hnow'
    have hsamev : SameRecords u (u.setClock now') := ⟨rfl, hnow'⟩
    generalize u.setClock now' = v at hsv hsamev
    rw [ends_bind]
    refine ends_createDirectory hsv ?_
    rw [ends_bind]
    refine Ends.of_sound hsv (ends_retireRevokedClaim hsv fun a hva _ hsa => ?_)
    have hsamea := hsamev.trans hva
    have hra : a.records.get record.enrollmentId = some record := by rw [hsamea.records]; exact hru
    rw [ends_bind]
    refine Ends.of_sound hsa (ends_validateOrWriteClaim hsa hra rfl fun b hab hclaim hsb => ?_)
    have hsameb := hsamea.trans hab
    rw [ends_bind]
    refine Ends.of_sound hsb (ends_ensureCertificate hsb hclaim fun c hbc hcertificate hsc => ?_)
    have hsamec := hsameb.trans hbc.toSameRecords
    have hclaimc := hbc.claim.trans hclaim
    rw [ends_bind]
    refine Ends.of_sound hsc (ends_ensureSecret hsc hclaimc fun d hcd hcert hsecret hsd => ?_)
    have hsamed := hsamec.trans hcd.toSameRecords
    have hclaimd := hcd.claim.trans hclaimc
    have hrd : d.records.get record.enrollmentId = some record := by rw [hsamed.records]; exact hru
    have hcredentials : ∀ c, ((d.dir record.approved.nodeId).get c).isSome = true := by
      intro c
      cases c with
      | certificate => rw [← hcert] at hcertificate; exact hcertificate
      | secret => exact hsecret
    have hsoundd := hsd.record _ _ hrd
    rw [ends_bind, ends_lift]
    refine safe_completedAt hsd hsoundd.completed fun completed time htime hcompleted hsame => ?_
    have hse := hsd.setClock htime
    have hadvance := hsoundd.claim_advance hrevoked hlive hmatches hsame
    have hclaimed := (hse.record _ _ hrd).claim hclaimd rfl hcredentials hcompleted
    rw [ends_bind]
    refine ends_replaceRecord hse hrd hadvance hclaimed ?_
    rw [ends_bind]
    refine ends_bundle (hse.replaceRecord hrd hadvance hclaimed) fun bundle final hfinal hb => ?_
    refine ⟨⟨record, hrecord, hrevoked, fun hnone => ?_, fun c hc => ?_⟩,
      ⟨_, completed, ?_, claimedRecord_state_ne, rfl, ?_, rfl, rfl, rfl, hb.1, hb.2, hb.3, hb.4,
        hb.5⟩, hchecked, record, hrecord, hmatches.configurationDigest.symm, hb.contents⟩
    · have hearly : ¬ record.expiresAtUnix ≤ now := fun hlate => hexpired hlate hnone
      omega
    · have hrecent := (hmatches.again c hc).2.2.2
      omega
    · rw [World.records_setClock, World.get_putRecord]
      exact if_pos hid.symm
    · exact hcompleted.trans hfinal

/-! ## Preparing, activating and revoking -/

theorem ends_prepare (hs : Sound w) (request : RelayEnrollmentPrepareRequest)
    (idempotencyKey : String) :
    Ends env setup (prepare env setup request idempotencyKey) (fun _ _ => True) w := by
  unfold prepare
  rw [ends_bind, ends_check]
  intro hchecked
  rw [ends_bind, ends_check]
  intro _
  rw [ends_bind]
  refine ends_records hs fun listed hlisted => ?_
  dsimp only
  split
  · trivial
  · refine ends_ite (fun _ => trivial) fun hfree => ?_
    refine ends_ite (fun _ => trivial) fun _ => ?_
    rw [ends_bind, ends_lift]
    refine safe_unixSeconds hs fun now hnow => ?_
    rw [ends_bind, ends_lift]
    refine safe_newId (hs.setClock hnow) fun id => ?_
    rw [ends_bind]
    refine ends_createRecord (hs.setClock hnow) rfl rfl ⟨hchecked, rfl⟩ (fun id' x hx hnode => ?_)
      fun _ => trivial
    -- Every live record was listed, and none of them is for this node.
    have hkey : x.enrollmentId = id' := Keyed.get_key hx
    have hmem : x ∈ listed := (hlisted x).mpr (by rw [hkey]; exact hx)
    by_contra hlive
    rw [Bool.not_eq_true] at hlive
    refine hfree (List.any_eq_true.mpr ⟨x, hmem, ?_⟩)
    have hsame : x.approved.nodeId = request.nodeId := hnode
    simp only [hsame, hlive, beq_self_eq_true, Bool.not_false, Bool.and_true, Bool.or_true]

theorem RecordSound.activate {r : EnrollmentRecord} (h : RecordSound w r)
    (hstate : r.state = .claimedPendingHealth) (request : RelayEnrollmentActivateRequest)
    (now : Nat) :
    RecordAdvance r (activeRecord r request now) ∧ RecordSound w (activeRecord r request now) := by
  have hclaimed : r.completedAtUnix ≠ none := by
    intro hnone
    rcases h.unclaimed hnone with hother | hother | hother <;> simp [hstate] at hother
  have hequipped := h.equipped hclaimed (by simp [hstate])
  unfold activeRecord
  constructor
  · refine ⟨?_, rfl, rfl, fun _ => ⟨rfl, rfl, rfl, rfl⟩⟩
    rw [hstate]
    exact .activate
  · refine ⟨by simp, fun hnone => absurd hnone hclaimed, fun _ => by simp, fun _ =>
      h.health (.inl hstate), by simp, h.completed, fun _ _ => ?_⟩
    obtain ⟨m, hm, hmarks⟩ := hequipped.claim
    exact ⟨⟨m, hm, hmarks.1, hmarks.2, hmarks.3, hmarks.4, hmarks.5⟩, hequipped.credentials⟩

theorem ends_activate (hs : Sound w) (request : RelayEnrollmentActivateRequest)
    (activationAck relaySnapshot : ConfigStore.Value) :
    Ends env setup (activate env setup request activationAck relaySnapshot) (fun _ _ => True) w := by
  unfold activate
  rw [ends_bind, ends_check]
  intro _
  rw [ends_bind]
  refine ends_readRecord hs fun record hrecord => ?_
  have hid : record.enrollmentId = request.enrollmentId := Keyed.get_key hrecord
  dsimp only
  refine ends_ite (fun _ => trivial) fun _ => ?_
  refine ends_ite (fun _ => trivial) fun _ => ?_
  refine ends_ite (fun _ => trivial) fun _ => ?_
  refine ends_ite (fun _ => ends_ite (fun _ => trivial) fun _ => trivial) fun _ => ?_
  refine ends_ite (fun _ => trivial) fun hstate => ?_
  rw [ends_bind, ends_check]
  intro _
  rw [ends_bind, ends_lift]
  refine safe_unixSeconds hs fun now hnow => ?_
  have hsu := hs.setClock hnow
  have hru : (w.setClock now).records.get record.enrollmentId = some record := by
    rw [hid]
    exact hrecord
  obtain ⟨hadvance, hsound⟩ := (hsu.record _ _ hru).activate (not_not.mp hstate)
    request now
  rw [ends_bind]
  exact ends_replaceRecord hsu hru hadvance hsound trivial

theorem RecordSound.revoke {r : EnrollmentRecord} (h : RecordSound w r) :
    RecordAdvance r { r with state := .revoked } ∧ RecordSound w { r with state := .revoked } :=
  ⟨⟨.revoke _, rfl, rfl, fun _ => ⟨rfl, rfl, rfl, rfl⟩⟩,
    by simp, fun _ => .inr (.inr rfl), fun _ => by simp, by simp, by simp, h.completed,
    fun _ hrevoked => absurd rfl hrevoked⟩

theorem ends_removeRelayCredentialsIfCurrent {record : EnrollmentRecord} {Q : Unit → World → Prop}
    (hs : Sound w) (hrecord : w.records.get record.enrollmentId = some record)
    (hrevoked : record.state = .revoked) (h : ∀ t, SameRecords w t → Q () t) :
    Ends env setup (removeRelayCredentialsIfCurrent record) Q w := by
  unfold removeRelayCredentialsIfCurrent
  rw [ends_bind]
  refine ends_readClaim hs ?_
  split
  · exact h w (.refl w)
  · rename_i marker hclaim
    refine ends_ite (fun _ => h w (.refl w)) fun hcurrent => ?_
    simp only [Bool.or_eq_true, decide_eq_true_eq, not_or, not_not] at hcurrent
    have hvacant := hs.vacant_of_over hclaim (by rw [hcurrent.1]; exact hrecord)
      (by rw [hrevoked]; rfl)
    exact ends_removeRelayCredentials hs hvacant fun t ht _ => h t ht

/-- A successful revocation leaves the enrollment revoked. -/
theorem ends_revoke (hs : Sound w) (request : RelayEnrollmentRevokeRequest) :
    Ends env setup (revoke env request) (fun _ t => ∃ r,
      t.records.get request.enrollmentId = some r ∧ r.state = .revoked) w := by
  unfold revoke
  refine ends_ite (fun _ => trivial) fun _ => ?_
  rw [ends_bind]
  refine ends_readRecord hs fun record hrecord => ?_
  have hid : record.enrollmentId = request.enrollmentId := Keyed.get_key hrecord
  dsimp only
  refine ends_ite (fun _ => trivial) fun _ => ?_
  have hr : w.records.get record.enrollmentId = some record := by
    rw [hid]
    exact hrecord
  obtain ⟨hadvance, hsound⟩ := (hs.record _ _ hr).revoke
  rw [ends_bind]
  refine ends_replaceRecord hs hr hadvance hsound ?_
  rw [ends_bind]
  refine ends_removeRelayCredentialsIfCurrent (hs.replaceRecord hr hadvance hsound) ?_ rfl
    fun t ht => ?_
  · rw [World.get_putRecord]
    exact if_pos rfl
  · refine ⟨{ record with state := .revoked }, ?_, rfl⟩
    rw [ht.records, World.get_putRecord]
    exact if_pos hid.symm

end Starry.Enrollment
