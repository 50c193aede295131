import Starry.Enrollment.Store

/-!
# What every durable write keeps

The registry and the directories of the nodes are written one file at a time. `Sound` holds between
any two writes, and `Advance` says how one write may change what is there.
-/

open Library

namespace Starry.Enrollment

/-- The steps of an enrollment. -/
inductive Moves : EnrollmentState → EnrollmentState → Prop
  | stay (s : EnrollmentState) : Moves s s
  | claimForHealth : Moves .pendingClaim .claimedPendingHealth
  | claimForApproval : Moves .pendingClaim .pendingApproval
  | expire : Moves .pendingClaim .expired
  | activate : Moves .claimedPendingHealth .active
  | revoke (s : EnrollmentState) : Moves s .revoked

/-- A claim is in the name of an enrollment, with the key that its record names. -/
structure Marks (m : ClaimMarker) (r : EnrollmentRecord) : Prop where
  enrollmentId : m.enrollmentId = r.enrollmentId
  configurationDigest : m.configurationDigest = r.configurationDigest
  requestDigest : r.requestDigest = some m.requestDigest
  keyFingerprint : r.keyFingerprint = some m.keyFingerprint
  csrDigest : r.csrDigest = some m.csrDigest

/-- An enrollment that was completed and not revoked has its claim and its credentials. -/
structure Equipped (w : World) (r : EnrollmentRecord) : Prop where
  claim : ∃ m, (w.dir r.approved.nodeId).claim = some m ∧ Marks m r
  credentials : ∀ c, ((w.dir r.approved.nodeId).get c).isSome = true

structure RecordSound (w : World) (r : EnrollmentRecord) : Prop where
  expired : r.state = .expired → r.expiresAtUnix ≤ w.clock
  unclaimed : r.completedAtUnix = none →
    r.state = .pendingClaim ∨ r.state = .expired ∨ r.state = .revoked
  claimed : r.completedAtUnix ≠ none → r.state ≠ .pendingClaim ∧ r.state ≠ .expired
  health : r.state = .claimedPendingHealth ∨ r.state = .active →
    r.approved.activateAfterHealth = true
  approval : r.state = .pendingApproval → r.approved.activateAfterHealth = false
  completed : ∀ completed, r.completedAtUnix = some completed → completed ≤ w.clock
  equipped : r.completedAtUnix ≠ none → r.state ≠ .revoked → Equipped w r

structure DirSound (w : World) (node : String) : Prop where
  claimed : ∀ c, ((w.dir node).get c).isSome = true → (w.dir node).claim.isSome = true
  owner : ∀ m, (w.dir node).claim = some m →
    ∃ r, w.records.get m.enrollmentId = some r ∧ r.approved.nodeId = node
  secret : ∀ text, (w.dir node).secret = some text →
    ∃ m, (w.dir node).claim = some m ∧ (trim text, m.enrollmentId) ∈ w.issued

structure Sound (w : World) : Prop where
  unique : ∀ id id' r r', w.records.get id = some r → w.records.get id' = some r' →
    r.approved.nodeId = r'.approved.nodeId → r.state.isOver = false → r'.state.isOver = false →
    id = id'
  record : ∀ id r, w.records.get id = some r → RecordSound w r
  dir : ∀ node, DirSound w node
  issuedOnce : ∀ secret id id', (secret, id) ∈ w.issued → (secret, id') ∈ w.issued → id = id'
  issued : ∀ secret id, (secret, id) ∈ w.issued → secret ∈ w.secrets

/-- The configuration was checked, and the record has its digest. -/
structure Approved (env : Env) (r : EnrollmentRecord) : Prop where
  checked : validatePrepare env r.approved = .ok ()
  digest : r.configurationDigest = approvedDigest env r.approved

/-- A record after a write: what it was approved for and whom it belongs to stay, and so does a
completed claim. -/
structure RecordAdvance (r r' : EnrollmentRecord) : Prop where
  moves : Moves r.state r'.state
  approved : r'.approved = r.approved
  configurationDigest : r'.configurationDigest = r.configurationDigest
  completed : r.completedAtUnix ≠ none → r'.completedAtUnix = r.completedAtUnix ∧
    r'.requestDigest = r.requestDigest ∧ r'.keyFingerprint = r.keyFingerprint ∧
    r'.csrDigest = r.csrDigest

structure Advance (env : Env) (w w' : World) : Prop where
  clock : w.clock ≤ w'.clock
  records : ∀ id r, w.records.get id = some r →
    ∃ r', w'.records.get id = some r' ∧ RecordAdvance r r'
  fresh : ∀ id r', w.records.get id = none → w'.records.get id = some r' →
    r'.state = .pendingClaim ∧ Approved env r'
  credentials : ∀ id r, w.records.get id = some r → r.completedAtUnix ≠ none →
    r.state ≠ .revoked → ∀ c,
      (w'.dir r.approved.nodeId).get c = (w.dir r.approved.nodeId).get c
  issued : ∀ x, x ∈ w.issued → x ∈ w'.issued

theorem RecordAdvance.refl (r : EnrollmentRecord) : RecordAdvance r r :=
  ⟨.stay _, rfl, rfl, fun _ => ⟨rfl, rfl, rfl, rfl⟩⟩

theorem Advance.refl {env : Env} (w : World) : Advance env w w :=
  ⟨Nat.le_refl _, fun _ r h => ⟨r, h, .refl r⟩, fun _ _ hnone hsome => by simp [hnone] at hsome,
    fun _ _ _ _ _ _ => rfl, fun _ h => h⟩

theorem Sound.initial (clock : Nat) : Sound (World.initial clock) := by
  constructor
  · intro id id' r r' h
    simp [World.initial] at h
  · intro id r h
    simp [World.initial] at h
  · intro node
    have hdir : (World.initial clock).dir node = {} := by simp [World.dir, World.initial]
    constructor
    · intro c hc
      rw [hdir] at hc
      cases c <;> cases hc
    · intro m hm
      rw [hdir] at hm
      cases hm
    · intro text htext
      rw [hdir] at htext
      cases htext
  · intro secret id id' h
    cases h
  · intro secret id h
    cases h

/-! ## Directories -/

section Dirs

variable {w : World} {node node' : String} {d : RelayDir}

theorem World.dir_setDir : (w.setDir node d).dir node' = if node' = node then d else w.dir node' := by
  unfold World.dir World.setDir
  rw [Table.get_insert]
  split <;> rfl

@[simp] theorem World.dir_setDir_self : (w.setDir node d).dir node = d := by
  rw [dir_setDir, if_pos rfl]

@[simp] theorem World.records_setDir : (w.setDir node d).records = w.records := rfl

@[simp] theorem World.dir_putRecord {r : EnrollmentRecord} :
    (w.putRecord r).dir node = w.dir node := rfl

@[simp] theorem World.get_putRecord {r : EnrollmentRecord} {id : String} :
    (w.putRecord r).records.get id =
      if id = r.enrollmentId then some r else w.records.get id :=
  Keyed.get_put ..

@[simp] theorem World.dir_setClock {now : Nat} : (w.setClock now).dir node = w.dir node := rfl

@[simp] theorem World.records_setClock {now : Nat} : (w.setClock now).records = w.records := rfl

@[simp] theorem World.dir_addSecret {secret : String} :
    (w.addSecret secret).dir node = w.dir node := rfl

@[simp] theorem World.records_issue {text : String} : (w.issue node text).records = w.records := by
  unfold World.issue
  split <;> rfl

@[simp] theorem World.dir_issue {text : String} : (w.issue node text).dir node' = w.dir node' := by
  unfold World.issue
  split <;> rfl

@[simp] theorem World.clock_issue {text : String} : (w.issue node text).clock = w.clock := by
  unfold World.issue
  split <;> rfl

end Dirs

/-! ## Writes -/

section Writes

variable {env : Env} {w : World} {node : String}

/-- Every enrollment of the node that was completed is revoked. -/
def Vacant (w : World) (node : String) : Prop :=
  ∀ id r, w.records.get id = some r → r.approved.nodeId = node → r.completedAtUnix ≠ none →
    r.state = .revoked

theorem Moves.isOver {a b : EnrollmentState} (h : Moves a b) (hb : b.isOver = false) :
    a.isOver = false := by
  cases h with
  | stay => exact hb
  | expire | revoke => cases hb
  | _ => rfl

theorem Moves.revoked {b : EnrollmentState} (h : Moves .revoked b) : b = .revoked := by
  cases h <;> rfl

theorem RecordSound.mono {w' : World} {r : EnrollmentRecord} (h : RecordSound w r)
    (hclock : w.clock ≤ w'.clock)
    (hdir : r.completedAtUnix ≠ none → r.state ≠ .revoked → Equipped w r → Equipped w' r) :
    RecordSound w' r :=
  ⟨fun he => (h.expired he).trans hclock, h.unclaimed, h.claimed, h.health, h.approval,
    fun c hc => (h.completed c hc).trans hclock,
    fun hc hr => hdir hc hr (h.equipped hc hr)⟩

theorem Sound.setClock (h : Sound w) {now : Nat} (hnow : w.clock ≤ now) :
    Sound (w.setClock now) := by
  refine ⟨h.unique, fun id r hr => (h.record id r hr).mono hnow fun _ _ he => ⟨he.1, he.2⟩,
    fun node => ?_, h.issuedOnce, h.issued⟩
  exact ⟨(h.dir node).claimed, (h.dir node).owner, (h.dir node).secret⟩

theorem Advance.setClock {now : Nat} (hnow : w.clock ≤ now) : Advance env w (w.setClock now) := by
  refine ⟨hnow, fun _ r h => ⟨r, h, .refl r⟩, fun _ _ hnone hsome => ?_, fun _ _ _ _ _ _ => rfl,
    fun _ h => h⟩
  exact absurd (hnone.symm.trans hsome) (by simp)

theorem Sound.addSecret (h : Sound w) (secret : String) : Sound (w.addSecret secret) := by
  refine ⟨h.unique, fun id r hr => (h.record id r hr).mono (Nat.le_refl _) fun _ _ he =>
    ⟨he.1, he.2⟩, fun node => ?_, h.issuedOnce, fun s id hi => List.mem_cons_of_mem _
    (h.issued s id hi)⟩
  exact ⟨(h.dir node).claimed, (h.dir node).owner, (h.dir node).secret⟩

theorem Advance.addSecret (secret : String) : Advance env w (w.addSecret secret) := by
  refine ⟨Nat.le_refl _, fun _ r h => ⟨r, h, .refl r⟩, fun _ _ hnone hsome => ?_,
    fun _ _ _ _ _ _ => rfl, fun _ h => h⟩
  exact absurd (hnone.symm.trans hsome) (by simp)

/-- A record replaces an older version of itself. -/
theorem Sound.replaceRecord {r r' : EnrollmentRecord} (h : Sound w)
    (hr : w.records.get r'.enrollmentId = some r) (hadvance : RecordAdvance r r')
    (hsound : RecordSound w r') : Sound (w.putRecord r') := by
  have hlive : ∀ id x, (w.putRecord r').records.get id = some x → x.state.isOver = false →
      ∃ y, w.records.get id = some y ∧ y.approved = x.approved ∧ y.state.isOver = false := by
    intro id x hx hover
    rw [World.get_putRecord] at hx
    split at hx
    · rename_i hid
      cases hx
      exact ⟨r, hid ▸ hr, hadvance.approved.symm, hadvance.moves.isOver hover⟩
    · exact ⟨x, hx, rfl, hover⟩
  refine ⟨?_, ?_, fun node => ?_, h.issuedOnce, h.issued⟩
  · intro id id' x x' hx hx' hnode hover hover'
    obtain ⟨y, hy, happroved, hy'⟩ := hlive id x hx hover
    obtain ⟨z, hz, happroved', hz'⟩ := hlive id' x' hx' hover'
    exact h.unique id id' y z hy hz (by rw [happroved, happroved', hnode]) hy' hz'
  · intro id x hx
    rw [World.get_putRecord] at hx
    split at hx
    · cases hx
      exact hsound.mono (Nat.le_refl _) fun _ _ he => ⟨he.1, he.2⟩
    · exact (h.record id x hx).mono (Nat.le_refl _) fun _ _ he => ⟨he.1, he.2⟩
  · refine ⟨(h.dir node).claimed, fun m hm => ?_, (h.dir node).secret⟩
    obtain ⟨x, hx, hnode⟩ := (h.dir node).owner m hm
    rw [World.get_putRecord]
    split
    · rename_i hid
      rw [hid, hr] at hx
      cases hx
      exact ⟨r', rfl, by rw [hadvance.approved]; exact hnode⟩
    · exact ⟨x, hx, hnode⟩

theorem Advance.replaceRecord {r r' : EnrollmentRecord}
    (hr : w.records.get r'.enrollmentId = some r) (hadvance : RecordAdvance r r') :
    Advance env w (w.putRecord r') := by
  refine ⟨Nat.le_refl _, fun id x hx => ?_, fun id x hnone hsome => ?_, fun _ _ _ _ _ _ => rfl,
    fun _ h => h⟩
  · rw [World.get_putRecord]
    split
    · rename_i hid
      rw [hid, hr] at hx
      cases hx
      exact ⟨r', rfl, hadvance⟩
    · exact ⟨x, hx, .refl x⟩
  · rw [World.get_putRecord] at hsome
    split at hsome
    · rename_i hid
      rw [hid, hr] at hnone
      cases hnone
    · rw [hnone] at hsome
      cases hsome

/-- A new enrollment of a node that has no other one. -/
theorem Sound.createRecord {r : EnrollmentRecord} (h : Sound w)
    (hnew : w.records.get r.enrollmentId = none) (hstate : r.state = .pendingClaim)
    (hclaim : r.completedAtUnix = none)
    (hnode : ∀ id x, w.records.get id = some x → x.approved.nodeId = r.approved.nodeId →
      x.state.isOver = true) : Sound (w.putRecord r) := by
  refine ⟨?_, ?_, fun node => ?_, h.issuedOnce, h.issued⟩
  · intro id id' x x' hx hx' hsame hover hover'
    rw [World.get_putRecord] at hx hx'
    split at hx
    · rename_i hid
      cases hx
      split at hx'
      · rename_i hid'
        rw [hid, hid']
      · rw [hnode id' x' hx' hsame.symm] at hover'
        cases hover'
    · split at hx'
      · cases hx'
        rw [hnode id x hx hsame] at hover
        cases hover
      · exact h.unique id id' x x' hx hx' hsame hover hover'
  · intro id x hx
    rw [World.get_putRecord] at hx
    split at hx
    · cases hx
      exact ⟨by simp [hstate], fun _ => .inl hstate, fun hc => absurd hclaim hc, by simp [hstate],
        by simp [hstate], by simp [hclaim], fun hc => absurd hclaim hc⟩
    · exact (h.record id x hx).mono (Nat.le_refl _) fun _ _ he => ⟨he.1, he.2⟩
  · refine ⟨(h.dir node).claimed, fun m hm => ?_, (h.dir node).secret⟩
    obtain ⟨x, hx, hxnode⟩ := (h.dir node).owner m hm
    refine ⟨x, ?_, hxnode⟩
    rw [World.get_putRecord, if_neg, hx]
    rintro hid
    rw [hid, hnew] at hx
    cases hx

theorem Advance.createRecord {r : EnrollmentRecord} (hnew : w.records.get r.enrollmentId = none)
    (hstate : r.state = .pendingClaim) (happroved : Approved env r) :
    Advance env w (w.putRecord r) := by
  refine ⟨Nat.le_refl _, fun id x hx => ?_, fun id x hnone hsome => ?_, fun _ _ _ _ _ _ => rfl,
    fun _ h => h⟩
  · refine ⟨x, ?_, .refl x⟩
    rw [World.get_putRecord, if_neg, hx]
    rintro hid
    rw [hid, hnew] at hx
    cases hx
  · rw [World.get_putRecord] at hsome
    split at hsome
    · cases hsome
      exact ⟨hstate, happroved⟩
    · rw [hnone] at hsome
      cases hsome

/-- A directory changes. Completed enrollments of its node keep what they have. -/
theorem Sound.setDir {d : RelayDir} (h : Sound w) (hdir : DirSound (w.setDir node d) node)
    (hequipped : ∀ id r, w.records.get id = some r → r.approved.nodeId = node →
      r.completedAtUnix ≠ none → r.state ≠ .revoked → Equipped (w.setDir node d) r) :
    Sound (w.setDir node d) := by
  refine ⟨h.unique, fun id r hr => ?_, fun node' => ?_, h.issuedOnce, h.issued⟩
  · refine (h.record id r hr).mono (Nat.le_refl _) fun hc hrevoked he => ?_
    by_cases hnode : r.approved.nodeId = node
    · exact hequipped id r hr hnode hc hrevoked
    · constructor
      · rw [World.dir_setDir, if_neg hnode]
        exact he.claim
      · rw [World.dir_setDir, if_neg hnode]
        exact he.credentials
  · by_cases hnode : node' = node
    · subst hnode
      exact hdir
    · constructor
      · rw [World.dir_setDir, if_neg hnode]
        exact (h.dir node').claimed
      · rw [World.dir_setDir, if_neg hnode]
        exact (h.dir node').owner
      · rw [World.dir_setDir, if_neg hnode]
        exact (h.dir node').secret

theorem Advance.setDir {d : RelayDir}
    (hsame : ∀ id r, w.records.get id = some r → r.approved.nodeId = node →
      r.completedAtUnix ≠ none → r.state ≠ .revoked → ∀ c, d.get c = (w.dir node).get c) :
    Advance env w (w.setDir node d) := by
  refine ⟨Nat.le_refl _, fun _ r h => ⟨r, h, .refl r⟩, fun _ _ hnone hsome => ?_,
    fun id r hr hc hrevoked c => ?_, fun _ h => h⟩
  · exact absurd (hnone.symm.trans hsome) (by simp)
  · rw [World.dir_setDir]
    split
    · rename_i hnode
      rw [hsame id r hr hnode hc hrevoked c, hnode]
    · rfl

/-- A node without its claim, or without one of its credentials, has no completed enrollment. -/
theorem Sound.vacant_of_claim (h : Sound w) (hclaim : (w.dir node).claim = none) :
    Vacant w node := by
  intro id r hr hnode hc
  by_contra hrevoked
  obtain ⟨m, hm, -⟩ := ((h.record id r hr).equipped hc hrevoked).claim
  rw [hnode, hclaim] at hm
  cases hm

theorem Sound.vacant_of_credential (h : Sound w) {c : Credential}
    (hcredential : (w.dir node).get c = none) : Vacant w node := by
  intro id r hr hnode hc
  by_contra hrevoked
  have hsome := ((h.record id r hr).equipped hc hrevoked).credentials c
  rw [hnode, hcredential] at hsome
  cases hsome

/-- In a vacant directory any sound change will do. -/
theorem Sound.setDir_of_vacant {d : RelayDir} (h : Sound w) (hvacant : Vacant w node)
    (hdir : DirSound (w.setDir node d) node) : Sound (w.setDir node d) :=
  h.setDir hdir fun id r hr hnode hc hrevoked => absurd (hvacant id r hr hnode hc) hrevoked

theorem Advance.setDir_of_vacant {d : RelayDir} (hvacant : Vacant w node) :
    Advance env w (w.setDir node d) :=
  .setDir fun id r hr hnode hc hrevoked => absurd (hvacant id r hr hnode hc) hrevoked

theorem Sound.credential_none (h : Sound w) (hclaim : (w.dir node).claim = none)
    (c : Credential) : (w.dir node).get c = none := by
  by_contra hsome
  have hclaimed := (h.dir node).claimed c (Option.isSome_iff_ne_none.mpr hsome)
  rw [hclaim] at hclaimed
  cases hclaimed

/-- A claim is written into a directory without one. -/
theorem Sound.createClaim {m : ClaimMarker} {r : EnrollmentRecord} (h : Sound w)
    (hclaim : (w.dir node).claim = none) (hr : w.records.get m.enrollmentId = some r)
    (hnode : r.approved.nodeId = node) :
    Sound (w.setDir node { w.dir node with claim := some m }) := by
  refine h.setDir_of_vacant (h.vacant_of_claim hclaim) ⟨fun c _ => ?_, fun m' hm => ?_,
    fun text htext => ?_⟩
  · rw [World.dir_setDir_self]
    rfl
  · rw [World.dir_setDir_self] at hm
    cases hm
    exact ⟨r, hr, hnode⟩
  · rw [World.dir_setDir_self] at htext
    exact absurd (htext.symm.trans (h.credential_none hclaim .secret)) (by simp)

/-- The claim is removed last. -/
theorem Sound.removeClaim (h : Sound w) (hvacant : Vacant w node)
    (hempty : ∀ c, (w.dir node).get c = none) :
    Sound (w.setDir node { w.dir node with claim := none }) := by
  refine h.setDir_of_vacant hvacant ⟨fun c hc => ?_, fun m hm => ?_, fun text htext => ?_⟩
  · rw [World.dir_setDir_self] at hc
    have hnone := hempty c
    cases c <;> exact absurd hc (by simpa [RelayDir.get] using hnone)
  · rw [World.dir_setDir_self] at hm
    cases hm
  · rw [World.dir_setDir_self] at htext
    exact absurd (htext.symm.trans (hempty .secret)) (by simp)

theorem RelayDir.claim_set {d : RelayDir} {c : Credential} {text : Option String} :
    (d.set c text).claim = d.claim := by
  cases c <;> rfl

theorem RelayDir.get_set {d : RelayDir} {c c' : Credential} {text : Option String} :
    (d.set c text).get c' = if c' = c then text else d.get c' := by
  cases c <;> cases c' <;> rfl

theorem Sound.removeCredential {c : Credential} (h : Sound w) (hvacant : Vacant w node) :
    Sound (w.setDir node ((w.dir node).set c none)) := by
  refine h.setDir_of_vacant hvacant ⟨fun c' hc => ?_, fun m hm => ?_, fun text htext => ?_⟩
  · rw [World.dir_setDir_self, RelayDir.get_set] at hc
    rw [World.dir_setDir_self, RelayDir.claim_set]
    split at hc
    · cases hc
    · exact (h.dir node).claimed c' hc
  · rw [World.dir_setDir_self, RelayDir.claim_set] at hm
    exact (h.dir node).owner m hm
  · rw [World.dir_setDir_self] at htext ⊢
    have hold : (w.dir node).secret = some text := by
      cases c with
      | certificate => exact htext
      | secret => cases htext
    rw [RelayDir.claim_set]
    exact (h.dir node).secret text hold

theorem Sound.createCertificate {m : ClaimMarker} {text : String} (h : Sound w)
    (hclaim : (w.dir node).claim = some m) (hnone : (w.dir node).certificate = none) :
    Sound (w.setDir node ((w.dir node).set .certificate (some text))) := by
  refine h.setDir_of_vacant (h.vacant_of_credential (c := .certificate) hnone)
    ⟨fun c _ => ?_, fun m' hm => ?_, fun secret hsecret => ?_⟩
  · rw [World.dir_setDir_self, RelayDir.claim_set, hclaim]
    rfl
  · rw [World.dir_setDir_self, RelayDir.claim_set] at hm
    exact (h.dir node).owner m' hm
  · rw [World.dir_setDir_self] at hsecret ⊢
    exact (h.dir node).secret secret hsecret

/-- A secret is issued, and nobody has had it before. -/
theorem Sound.addIssued {secret id : String} (h : Sound w) (hgenerated : secret ∈ w.secrets)
    (hnew : ∀ id, (secret, id) ∉ w.issued) :
    Sound { w with issued := (secret, id) :: w.issued } := by
  refine ⟨h.unique, fun id r hr => (h.record id r hr).mono (Nat.le_refl _) fun _ _ he =>
    ⟨he.1, he.2⟩, fun node => ?_, ?_, ?_⟩
  · refine ⟨(h.dir node).claimed, (h.dir node).owner, fun text htext => ?_⟩
    obtain ⟨m, hm, hi⟩ := (h.dir node).secret text htext
    exact ⟨m, hm, List.mem_cons_of_mem _ hi⟩
  · intro secret' a b ha hb
    rcases List.mem_cons.mp ha with ha | ha
    · cases ha
      rcases List.mem_cons.mp hb with hb | hb
      · cases hb
        rfl
      · exact absurd hb (hnew b)
    · rcases List.mem_cons.mp hb with hb | hb
      · cases hb
        exact absurd ha (hnew a)
      · exact h.issuedOnce secret' a b ha hb
  · intro secret' a ha
    rcases List.mem_cons.mp ha with ha | ha
    · cases ha
      exact hgenerated
    · exact h.issued secret' a ha

theorem World.issue_setDir {m : ClaimMarker} {d : RelayDir} {text : String}
    (hclaim : d.claim = some m) :
    (w.setDir node d).issue node text =
      ({ w with issued := (trim text, m.enrollmentId) :: w.issued } : World).setDir node d := by
  unfold World.issue
  rw [World.dir_setDir_self, hclaim]
  rfl

theorem Sound.createSecret {m : ClaimMarker} {text : String} (h : Sound w)
    (hclaim : (w.dir node).claim = some m) (hnone : (w.dir node).secret = none)
    (hgenerated : trim text ∈ w.secrets) (hnew : ∀ id, (trim text, id) ∉ w.issued) :
    Sound ((w.setDir node ((w.dir node).set .secret (some text))).issue node text) := by
  have hclaim' : ((w.dir node).set .secret (some text)).claim = some m := by
    rw [RelayDir.claim_set, hclaim]
  rw [World.issue_setDir hclaim']
  refine (h.addIssued hgenerated hnew).setDir_of_vacant
    (h.vacant_of_credential (c := .secret) hnone) ⟨fun c _ => ?_, fun m' hm => ?_, fun secret hs => ?_⟩
  · rw [World.dir_setDir_self, hclaim']
    rfl
  · rw [World.dir_setDir_self, RelayDir.claim_set] at hm
    exact (h.dir node).owner m' hm
  · rw [World.dir_setDir_self] at hs
    cases hs
    refine ⟨m, ?_, List.mem_cons_self⟩
    rw [World.dir_setDir_self, hclaim']

theorem Advance.createSecret {m : ClaimMarker} {text : String} (h : Sound w)
    (hclaim : (w.dir node).claim = some m) (hnone : (w.dir node).secret = none) :
    Advance env w ((w.setDir node ((w.dir node).set .secret (some text))).issue node text) := by
  have hadvance : Advance env w (w.setDir node ((w.dir node).set .secret (some text))) :=
    .setDir_of_vacant (h.vacant_of_credential (c := .secret) hnone)
  rw [World.issue_setDir (by rw [RelayDir.claim_set]; exact hclaim)]
  exact ⟨hadvance.clock, hadvance.records, hadvance.fresh, hadvance.credentials,
    fun x hx => List.mem_cons_of_mem _ hx⟩

end Writes

end Starry.Enrollment
