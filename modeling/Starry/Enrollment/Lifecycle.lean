import Starry.Enrollment.Calls

/-!
# Enrollments over whole runs

The store is called again and again, and it may be stopped between any two actions. `Logged` says
what the answers so far have in common with the store as it is now; two answers are compared through
it.
-/

open Library Library.Prog

namespace Starry.Enrollment

variable {env : Env} {setup : Setup} {w : World}

abbrev Entry := Answered World TimedCall Answer

/-- The entry is a successful claim. -/
structure Claims (e : Entry) (request : RelayEnrollmentCompleteRequest)
    (response : RelayEnrollmentCompleteResponse) : Prop where
  call : e.call.call = .complete request
  answer : e.answer = .completed (.ok response)

/-- The entry is a successful revocation. -/
structure Revokes (e : Entry) (enrollmentId : String) : Prop where
  call : ∃ request, e.call.call = .revoke request ∧ request.enrollmentId = enrollmentId
  answer : ∃ summary, e.answer = .revoked (.ok summary)

def IsRevoked (w : World) (enrollmentId : String) : Prop :=
  ∃ r, w.records.get enrollmentId = some r ∧ r.state = .revoked

/-- What one call has found, and what it leaves. -/
structure Served (env : Env) (setup : Setup) (t : World) (e : Entry) : Prop where
  claims : ∀ request response, Claims e request response → Completes env setup t request response e.after
  revokes : ∀ enrollmentId, Revokes e enrollmentId → IsRevoked e.after enrollmentId

/-- Every call is safe, and its answer is about what it has done. -/
theorem safe_program (env : Env) (setup : Setup) (hs : Sound w) (before : World) (c : TimedCall) :
    (rules env setup).Safe (c.program env setup) (fun x t => Served env setup w ⟨c, before, x, t⟩) w := by
  obtain ⟨call, time⟩ := c
  unfold TimedCall.program
  cases call with
  | prepare request idempotencyKey =>
    rw [Rules.safe_map, Rules.safe_run]
    refine Rules.Tries.mono (ends_prepare hs request idempotencyKey) ?_ ?_ <;>
    · intro _ _ _
      exact ⟨fun _ _ h => absurd h.call (by simp), fun _ h => by simpa using h.call⟩
  | complete request =>
    rw [Rules.safe_map, Rules.safe_run]
    refine Rules.Tries.mono (ends_complete hs request) ?_ ?_
    · intro response t h
      refine ⟨fun request' response' hc => ?_, fun _ h => by simpa using h.call⟩
      cases hc.call
      cases hc.answer
      exact h
    · intro e t _
      exact ⟨fun _ _ h => absurd h.answer (by simp), fun _ h => by simpa using h.call⟩
  | activate request activationAck relaySnapshot =>
    rw [Rules.safe_map, Rules.safe_run]
    refine Rules.Tries.mono (ends_activate hs request activationAck relaySnapshot) ?_ ?_ <;>
    · intro _ _ _
      exact ⟨fun _ _ h => absurd h.call (by simp), fun _ h => by simpa using h.call⟩
  | revoke request =>
    rw [Rules.safe_map, Rules.safe_run]
    refine Rules.Tries.mono (ends_revoke hs request) ?_ ?_
    · intro summary t h
      refine ⟨fun _ _ h => absurd h.call (by simp), fun enrollmentId hr => ?_⟩
      obtain ⟨request', hcall, hid⟩ := hr.call
      cases hcall
      exact hid ▸ h
    · intro e t _
      exact ⟨fun _ _ h => absurd h.call (by simp), fun _ h => by simpa using h.answer⟩

/-! ## What stays of a claim -/

/-- The record of an enrollment that was claimed with this request, no later than `latest`. -/
structure RecordRemains (env : Env) (w : World) (request : RelayEnrollmentCompleteRequest)
    (bundle : RelayEnrollmentBundle) (latest : Nat) (r : EnrollmentRecord) : Prop where
  completed : ∃ completed, r.completedAtUnix = some completed ∧ completed ≤ latest
  requestDigest : r.requestDigest = some request.requestDigest
  keyFingerprint : r.keyFingerprint = some request.keyFingerprint
  csrDigest : r.csrDigest = some (env.digest (asBytes request.csrPem))
  certificate : r.state ≠ .revoked →
    (w.dir r.approved.nodeId).certificate = some bundle.nodeCertificatePem
  secret : r.state ≠ .revoked → ∃ text, (w.dir r.approved.nodeId).secret = some text ∧
    trim text = bundle.telemetrySecret

structure Remains (env : Env) (w : World) (request : RelayEnrollmentCompleteRequest)
    (bundle : RelayEnrollmentBundle) (latest : Nat) : Prop where
  record : ∃ r, w.records.get request.enrollmentId = some r ∧
    RecordRemains env w request bundle latest r
  issued : (bundle.telemetrySecret, request.enrollmentId) ∈ w.issued

section Remains

variable {w' t : World} {request : RelayEnrollmentCompleteRequest} {bundle : RelayEnrollmentBundle}
  {latest : Nat}

theorem Remains.advance (h : Remains env w request bundle latest) (ha : Advance env w w') :
    Remains env w' request bundle latest := by
  obtain ⟨r, hr, hremains⟩ := h.record
  obtain ⟨r', hr', hadvance⟩ := ha.records _ r hr
  obtain ⟨completed, hcompleted, hlatest⟩ := hremains.completed
  have hclaimed : r.completedAtUnix ≠ none := by simp [hcompleted]
  obtain ⟨hc, hd, hk, hs⟩ := hadvance.completed hclaimed
  have hlive : r'.state ≠ .revoked → r.state ≠ .revoked := by
    intro hstate hrevoked
    exact hstate (Moves.revoked (hrevoked ▸ hadvance.moves))
  refine ⟨⟨r', hr', ⟨completed, hc.trans hcompleted, hlatest⟩, hd.trans hremains.requestDigest,
    hk.trans hremains.keyFingerprint, hs.trans hremains.csrDigest, fun hstate => ?_,
    fun hstate => ?_⟩, ha.issued _ h.issued⟩
  · rw [hadvance.approved]
    exact (ha.credentials _ r hr hclaimed (hlive hstate) .certificate).trans
      (hremains.certificate (hlive hstate))
  · obtain ⟨text, htext, htrim⟩ := hremains.secret (hlive hstate)
    rw [hadvance.approved]
    exact ⟨text, (ha.credentials _ r hr hclaimed (hlive hstate) .secret).trans htext, htrim⟩

theorem IsRevoked.advance {enrollmentId : String} (h : IsRevoked w enrollmentId)
    (ha : Advance env w w') : IsRevoked w' enrollmentId := by
  obtain ⟨r, hr, hrevoked⟩ := h
  obtain ⟨r', hr', hadvance⟩ := ha.records _ r hr
  exact ⟨r', hr', Moves.revoked (hrevoked ▸ hadvance.moves)⟩

/-- A claim that has just succeeded. -/
theorem Completes.remains {response : RelayEnrollmentCompleteResponse} (hs : Sound t)
    (h : Completes env setup w request response t) :
    Remains env t request response.bundle t.clock := by
  obtain ⟨r, completed, hr, hstate, hcompleted, hclock, hrequest, hkey, hcsr, hbundles⟩ := h.after
  refine ⟨⟨r, hr, ⟨completed, hcompleted, hclock⟩, hrequest, hkey, hcsr,
    fun _ => hbundles.certificate, fun _ => hbundles.secret⟩, ?_⟩
  obtain ⟨text, htext, htrim⟩ := hbundles.secret
  obtain ⟨m, hm, hissued⟩ := (hs.dir _).secret text htext
  obtain ⟨m', hm', hmarks⟩ := ((hs.record _ r hr).equipped (by simp [hcompleted]) hstate).claim
  rw [hm] at hm'
  cases hm'
  have hid : r.enrollmentId = request.enrollmentId := Keyed.get_key hr
  rw [← htrim, ← hid, ← hmarks.enrollmentId]
  exact hissued

end Remains

/-! ## Histories -/

/-- What the answers so far say about the store as it is now. -/
structure Logged (env : Env) (history : List Entry) (w : World) : Prop where
  claims : ∀ e ∈ history, ∀ request response, Claims e request response →
    Remains env w request response.bundle e.after.clock
  revokes : ∀ e ∈ history, ∀ enrollmentId, Revokes e enrollmentId → IsRevoked w enrollmentId
  approved : ∀ id r, w.records.get id = some r → Approved env r

theorem Advance.approved {w' : World} (ha : Advance env w w')
    (h : ∀ id r, w.records.get id = some r → Approved env r) :
    ∀ id r, w'.records.get id = some r → Approved env r := by
  intro id r' hr'
  cases hr : w.records.get id with
  | none => exact (ha.fresh id r' hr hr').2
  | some r =>
    obtain ⟨x, hx, hadvance⟩ := ha.records id r hr
    rw [hr'] at hx
    cases hx
    have hold := h id r hr
    constructor
    · rw [hadvance.approved]
      exact hold.checked
    · rw [hadvance.approved, hadvance.configurationDigest]
      exact hold.digest

theorem Logged.advance {history : List Entry} {w' : World} (h : Logged env history w)
    (ha : Advance env w w') : Logged env history w' :=
  ⟨fun e he request response hc => (h.claims e he request response hc).advance ha,
    fun e he enrollmentId hr => (h.revokes e he enrollmentId hr).advance ha,
    ha.approved h.approved⟩

/-- A claim was possible when it was made, and its certificate is for its own key. -/
def Lawful (env : Env) (e : Entry) : Prop :=
  ∀ request response, Claims e request response →
    (∃ r, e.before.records.get request.enrollmentId = some r ∧ r.state ≠ .revoked ∧
      (r.completedAtUnix = none → e.call.time < r.expiresAtUnix)) ∧
    env.certificateKey response.bundle.nodeCertificatePem = some request.keyFingerprint

/-- What was delivered is what was approved. -/
structure Delivered (env : Env) (setup : Setup) (request : RelayEnrollmentCompleteRequest)
    (bundle : RelayEnrollmentBundle) : Prop where
  checked : validateComplete env request = .ok ()
  secret : env.decodedUrlSafeLength bundle.telemetrySecret = some 32
  approved : ∃ approved, validatePrepare env approved = .ok () ∧
    request.configurationDigest = approvedDigest env approved ∧
    bundle = relayBundle approved bundle.nodeCertificatePem setup.relayCa
      (trim setup.centerPublicKey) bundle.telemetrySecret

/-- Two successful claims for one enrollment, the first of which was answered at `answered`. -/
structure Recovers (env : Env) (request request' : RelayEnrollmentCompleteRequest)
    (bundle bundle' : RelayEnrollmentBundle) (answered time : Nat) : Prop where
  requestDigest : request'.requestDigest = request.requestDigest
  keyFingerprint : request'.keyFingerprint = request.keyFingerprint
  csrDigest : env.digest (asBytes request'.csrPem) = env.digest (asBytes request.csrPem)
  certificate : bundle'.nodeCertificatePem = bundle.nodeCertificatePem
  secret : bundle'.telemetrySecret = bundle.telemetrySecret
  recent : time ≤ answered + claimRecoverySeconds

/-- What holds of an answer and a later one. -/
structure Compatible (env : Env) (e e' : Entry) : Prop where
  same : ∀ request response request' response', Claims e request response →
    Claims e' request' response' → request'.enrollmentId = request.enrollmentId →
    Recovers env request request' response.bundle response'.bundle e.after.clock e'.call.time
  other : ∀ request response request' response', Claims e request response →
    Claims e' request' response' → request'.enrollmentId ≠ request.enrollmentId →
    response'.bundle.telemetrySecret ≠ response.bundle.telemetrySecret
  revoked : ∀ enrollmentId request response, Revokes e enrollmentId → Claims e' request response →
    request.enrollmentId ≠ enrollmentId

structure History (env : Env) (setup : Setup) (history : List Entry) (w : World) : Prop where
  logged : Logged env history w
  lawful : ∀ e ∈ history, Lawful env e
  delivered : ∀ e ∈ history, ∀ request response, Claims e request response →
    Delivered env setup request response.bundle
  compatible : history.Pairwise (Compatible env)

def Consistent (env : Env) (setup : Setup) (history : List Entry) (w : World) : Prop :=
  Sound w ∧ History env setup history w

section Answer

variable {history : List Entry} {before : World} {c : TimedCall} {x : Answer} {t : World}

theorem Served.lawful (hstart : starts before c w)
    (h : Served env setup w ⟨c, before, x, t⟩) : Lawful env ⟨c, before, x, t⟩ := by
  obtain ⟨-, rfl⟩ := hstart
  intro request response hc
  have hcompletes := h.claims request response hc
  obtain ⟨r, hr, hstate, hunclaimed, -⟩ := hcompletes.before
  obtain ⟨r', _, _, _, _, _, _, hkey, _, hbundles⟩ := hcompletes.after
  obtain ⟨keyFingerprint, hkey', hcertificate⟩ := hbundles.key
  rw [hkey] at hkey'
  cases hkey'
  exact ⟨⟨r, hr, hstate, hunclaimed⟩, hcertificate⟩

/-- A claim for an enrollment that an earlier one has completed. -/
theorem Remains.recovers {request request' : RelayEnrollmentCompleteRequest}
    {bundle : RelayEnrollmentBundle} {response' : RelayEnrollmentCompleteResponse} {latest : Nat}
    (hw : Remains env w request bundle latest) (ht : Remains env t request bundle latest)
    (hid : request'.enrollmentId = request.enrollmentId)
    (h : Completes env setup w request' response' t) :
    Recovers env request request' bundle response'.bundle latest w.clock := by
  obtain ⟨r, hr, hremains⟩ := hw.record
  obtain ⟨completed, hcompleted, hlatest⟩ := hremains.completed
  obtain ⟨x, hx, -, -, hrecent⟩ := h.before
  obtain ⟨r', hr', hremains'⟩ := ht.record
  obtain ⟨x', _, hx', hstate, -, -, hrequest, hkey, hcsr, hbundles⟩ := h.after
  rw [hid, hr] at hx
  cases hx
  rw [hid, hr'] at hx'
  cases hx'
  refine ⟨?_, ?_, ?_, ?_, ?_, (hrecent completed hcompleted).trans (by omega)⟩
  · exact Option.some.inj (hrequest.symm.trans hremains'.requestDigest)
  · exact Option.some.inj (hkey.symm.trans hremains'.keyFingerprint)
  · exact Option.some.inj (hcsr.symm.trans hremains'.csrDigest)
  · exact Option.some.inj (hbundles.certificate.symm.trans (hremains'.certificate hstate))
  · obtain ⟨text, htext, htrim⟩ := hbundles.secret
    obtain ⟨text', htext', htrim'⟩ := hremains'.secret hstate
    rw [htext] at htext'
    cases htext'
    exact htrim.symm.trans htrim'

/-- An answer is compatible with every earlier one. -/
theorem Served.compatible (hstart : starts before c w) (hw : Logged env history w) (hs : Sound t)
    (ht : Logged env history t) (h : Served env setup w ⟨c, before, x, t⟩) :
    ∀ e ∈ history, Compatible env e ⟨c, before, x, t⟩ := by
  obtain ⟨-, rfl⟩ := hstart
  intro e he
  constructor
  · intro request response request' response' hc hc' hid
    exact (hw.claims e he request response hc).recovers (ht.claims e he request response hc) hid
      (h.claims request' response' hc')
  · intro request response request' response' hc hc' hid hsecret
    have hissued := (ht.claims e he request response hc).issued
    have hissued' := ((h.claims request' response' hc').remains hs).issued
    rw [hsecret] at hissued'
    exact hid (hs.issuedOnce _ _ _ hissued' hissued)
  · intro enrollmentId request response hr hc hid
    obtain ⟨r, hrecord, hrevoked⟩ := hw.revokes e he enrollmentId hr
    obtain ⟨r', hr', hstate, -⟩ := (h.claims request response hc).before
    rw [hid, hrecord] at hr'
    cases hr'
    exact hstate hrevoked

theorem Completes.delivered {request : RelayEnrollmentCompleteRequest}
    {response : RelayEnrollmentCompleteResponse}
    (hw : ∀ id r, w.records.get id = some r → Approved env r)
    (h : Completes env setup w request response t) :
    Delivered env setup request response.bundle := by
  obtain ⟨r, hr, hdigest, hcontents⟩ := h.approved
  obtain ⟨_, _, _, _, _, _, _, _, _, hbundles⟩ := h.after
  have happroved := hw _ r hr
  exact ⟨h.checked, hbundles.secretLength, r.approved, happroved.checked,
    hdigest.trans happroved.digest, hcontents⟩

theorem Logged.answer (hs : Sound t) (ht : Logged env history t)
    (h : Served env setup w ⟨c, before, x, t⟩) :
    Logged env (history ++ [⟨c, before, x, t⟩]) t := by
  refine ⟨?_, ?_, ht.approved⟩
  · intro e he request response hc
    rcases List.mem_append.mp he with he | he
    · exact ht.claims e he request response hc
    · cases List.mem_singleton.mp he
      exact (h.claims request response hc).remains hs
  · intro e he enrollmentId hr
    rcases List.mem_append.mp he with he | he
    · exact ht.revokes e he enrollmentId hr
    · cases List.mem_singleton.mp he
      exact h.revokes enrollmentId hr

theorem History.answer (hstart : starts before c w) (hw : Logged env history w) (hs : Sound t)
    (ht : History env setup history t) (h : Served env setup w ⟨c, before, x, t⟩) :
    History env setup (history ++ [⟨c, before, x, t⟩]) t := by
  refine ⟨ht.logged.answer hs h, fun e he => ?_, fun e he request response hc => ?_, ?_⟩
  · rcases List.mem_append.mp he with he | he
    · exact ht.lawful e he
    · rw [List.mem_singleton.mp he]
      exact h.lawful hstart
  · rcases List.mem_append.mp he with he | he
    · exact ht.delivered e he request response hc
    · cases List.mem_singleton.mp he
      exact (h.claims request response hc).delivered hw.approved
  · rw [List.pairwise_append]
    refine ⟨ht.compatible, List.pairwise_singleton .., fun e he e' he' => ?_⟩
    rw [List.mem_singleton.mp he']
    exact h.compatible hstart hw hs ht.logged e he

end Answer

/-- In every run the store is sound after every action, and its answers are consistent. -/
theorem Store.Reached.kept {s : Store} (h : s.Reached env setup) :
    Serial.Kept (next env setup) (Consistent env setup) (Advance env) s := by
  obtain ⟨clock, h⟩ := h
  refine Serial.Kept.reachable ?_ ?_ h
  · exact ⟨.initial clock, ⟨by simp, by simp, by simp [World.initial]⟩, by simp, by simp, .nil⟩
  · rintro history u c t ⟨hsound, hhistory⟩ hstart
    have hadvance : Advance env u t := by
      obtain ⟨hle, rfl⟩ := hstart
      exact .setClock hle
    have ht : Sound t := by
      obtain ⟨hle, rfl⟩ := hstart
      exact hsound.setClock hle
    have hkept : ∀ v v', History env setup history v → Advance env v v' → History env setup history v' :=
      fun v v' hv ha => ⟨hv.logged.advance ha, hv.lawful, hv.delivered, hv.compatible⟩
    have hlogged := hkept u t hhistory hadvance
    refine ⟨⟨ht, hlogged⟩, ?_⟩
    have hsafe := Serial.safe_and hkept (safe_program env setup ht u c) hlogged
    refine Serial.safe_of_kept ⟨ht, hlogged⟩ (Rules.Safe.mono hsafe ?_)
    rintro x v ⟨hserved, hv⟩ ⟨hs, -⟩
    exact ⟨hs, hv.answer hstart hlogged.logged hs hserved⟩

/-! ## Main results -/

/-- How the registry changes in one step. -/
structure RecordsMove (w w' : World) : Prop where
  moves : ∀ id r, w.records.get id = some r →
    ∃ r', w'.records.get id = some r' ∧ Moves r.state r'.state
  fresh : ∀ id r', w.records.get id = none → w'.records.get id = some r' →
    r'.state = .pendingClaim

/-- A node has one enrollment that is not over. -/
def LiveOnce (w : World) : Prop :=
  ∀ id id' r r', w.records.get id = some r → w.records.get id' = some r' →
    r.approved.nodeId = r'.approved.nodeId → r.state.isOver = false → r'.state.isOver = false →
    id = id'

/-- Credentials exist together with a claim for an enrollment of the same node. -/
def CredentialsClaimed (w : World) : Prop :=
  ∀ node c, ((w.dir node).get c).isSome = true →
    ∃ m r, (w.dir node).claim = some m ∧ w.records.get m.enrollmentId = some r ∧
      r.approved.nodeId = node

theorem enrollment_lifecycle (s : Store) (h : s.Reached env setup) :
    (∀ i s', Store.Next env setup s i s' → RecordsMove s.state s'.state) ∧
    LiveOnce s.state ∧ CredentialsClaimed s.state := by
  have hkept := h.kept
  have hsound := hkept.state.1
  refine ⟨fun i s' hn => ?_, hsound.unique, fun node c hc => ?_⟩
  · have ha := hkept.changes Advance.refl (fun u c t hs => by
      obtain ⟨hle, rfl⟩ := hs
      exact .setClock hle) hn
    refine ⟨fun id r hr => ?_, fun id r' hnone hsome => (ha.fresh id r' hnone hsome).1⟩
    obtain ⟨r', hr', hadvance⟩ := ha.records id r hr
    exact ⟨r', hr', hadvance.moves⟩
  · obtain ⟨m, hm⟩ := Option.isSome_iff_exists.mp ((hsound.dir node).claimed c hc)
    obtain ⟨r, hr, hnode⟩ := (hsound.dir node).owner m hm
    exact ⟨m, r, hm, hr, hnode⟩

theorem enrollment_credentials_isolated (s : Store) (h : s.Reached env setup) :
    (∀ e ∈ s.history, Lawful env e) ∧ s.history.Pairwise (Compatible env) :=
  ⟨h.kept.state.2.lawful, h.kept.state.2.compatible⟩

/-! ## A node that is enrolled again -/

/-- A digest that tells short texts apart. -/
def textDigest (bytes : Bytes) : String :=
  let n := bytes.foldl (fun n b => (n * 257 + b.toNat + 1) % 10 ^ 64) 0
  "sha256:" ++ String.ofList (Nat.toDigits 10 (10 ^ 64 + n)).tail

def againEnv : Env := { sampleEnv with digest := textDigest }

def sampleSetup : Setup := ⟨"agent", "center", "ca"⟩

def firstId : String := "00000000-0000-7000-8000-000000000001"
def secondId : String := "00000000-0000-7000-8000-000000000002"

/-- Nothing fails, and the clock stands still during a call. -/
def sampleChoices (w : World) : (a : Act) → a.Choice
  | .now => w.clock
  | .newId => if w.records.len = 0 then firstId else secondId
  | .randomSecret => if w.secrets.isEmpty then "secret-one" else "secret-two"
  | .issueCertificate _ => .ok "certificate"
  | .records => some (w.records.values .stored)
  | .readRecord _ | .readClaim _ | .read _ _ | .createDirectory _ | .syncDirectory _
  | .readCenterPublicKey | .readRelayCa => true
  | .createRecord _ | .replaceRecord _ | .createClaim _ _ | .removeClaim _ | .create _ _ _
  | .remove _ _ => .done

def sampleClaim (enrollmentId : String) : RelayEnrollmentCompleteRequest :=
  let configurationDigest := textDigest []
  let keyFingerprint := "sha256:3333333333333333333333333333333333333333333333333333333333333333"
  { version := 1, enrollmentId, configurationDigest
    requestDigest := claimRequestDigest againEnv enrollmentId configurationDigest keyFingerprint "csr"
    keyFingerprint, csrPem := "csr" }

def begins (w : World) (c : TimedCall) : Option World :=
  if w.clock ≤ c.time then some (w.setClock c.time) else none

theorem starts_of_begins {w t : World} {c : TimedCall} (h : begins w c = some t) :
    starts w c t := by
  unfold begins at h
  split at h
  · rename_i hle
    cases h
    exact ⟨hle, rfl⟩
  · cases h

/-- A node is enrolled, claimed and revoked, and then enrolled and claimed with the same key. -/
def enrolledAgain : Option Store :=
  let request := sampleRequest "native" none none
  Serial.serve (TimedCall.program againEnv sampleSetup) begins
    (step againEnv sampleSetup) sampleChoices (World.initial 100) []
    [⟨.prepare request "first-key", 100⟩, ⟨.complete (sampleClaim firstId), 101⟩,
      ⟨.revoke ⟨1, firstId, textDigest []⟩, 102⟩, ⟨.prepare request "second-key", 103⟩,
      ⟨.complete (sampleClaim secondId), 104⟩]

theorem reached_enrolledAgain : ∃ s, enrolledAgain = some s ∧ s.Reached againEnv sampleSetup := by
  obtain ⟨s, hs⟩ := Option.isSome_iff_exists.mp (by decide +kernel : enrolledAgain.isSome = true)
  exact ⟨s, hs, 100, Serial.reachable_serve (fun _ _ _ => starts_of_begins) (.refl _) hs⟩

theorem enrolledAgain_lifecycle : ∃ s, enrolledAgain = some s ∧
    (∀ i s', Store.Next againEnv sampleSetup s i s' → RecordsMove s.state s'.state) ∧
    LiveOnce s.state ∧ CredentialsClaimed s.state := by
  obtain ⟨s, hs, h⟩ := reached_enrolledAgain
  exact ⟨s, hs, enrollment_lifecycle s h⟩

theorem enrolledAgain_isolated : ∃ s, enrolledAgain = some s ∧
    (∀ e ∈ s.history, Lawful againEnv e) ∧ s.history.Pairwise (Compatible againEnv) := by
  obtain ⟨s, hs, h⟩ := reached_enrolledAgain
  exact ⟨s, hs, enrollment_credentials_isolated s h⟩

/-- The second and the last answer are claims for two enrollments, and the certificate of the first
is for the key of the other. -/
def sharesKey (s : Store) : Bool :=
  match s.history with
  | [_, e, _, _, e'] => match e.call.call, e.answer, e'.call.call, e'.answer with
    | .complete a, .completed (.ok x), .complete b, .completed (.ok _) =>
      b.enrollmentId != a.enrollmentId &&
        againEnv.certificateKey x.bundle.nodeCertificatePem == some b.keyFingerprint
    | _, _, _, _ => false
  | _ => false

/-- No bundle holds a certificate for the key of another enrollment. -/
def KeysApart (env : Env) (e e' : Entry) : Prop :=
  ∀ request response request' response', Claims e request response → Claims e' request' response' →
    request'.enrollmentId ≠ request.enrollmentId →
    env.certificateKey response.bundle.nodeCertificatePem ≠ some request'.keyFingerprint

theorem not_keysApart {s : Store} (h : sharesKey s = true) :
    ∃ e ∈ s.history, ∃ e' ∈ s.history, ¬ KeysApart againEnv e e' := by
  unfold sharesKey at h
  split at h
  · rename_i e₁ e e₃ e₄ e' heq
    split at h
    · rename_i a x b y hcall hanswer hcall' hanswer'
      simp only [Bool.and_eq_true, bne_iff_ne, beq_iff_eq] at h
      refine ⟨e, by simp [heq], e', by simp [heq], fun hapart => ?_⟩
      exact hapart a x b y ⟨hcall, hanswer⟩ ⟨hcall', hanswer'⟩ h.1 h.2
    · cases h
  · cases h

/-- A key may be enrolled again, so two enrollments may have one key. -/
theorem enrollments_share_key : ¬ ∀ s : Store, s.Reached againEnv sampleSetup →
    ∀ e ∈ s.history, ∀ e' ∈ s.history, KeysApart againEnv e e' := by
  intro hall
  obtain ⟨s, hs, h⟩ := reached_enrolledAgain
  have hshares : (enrolledAgain.map sharesKey) = some true := by decide +kernel
  rw [hs] at hshares
  obtain ⟨e, he, e', he', hnot⟩ := not_keysApart (Option.some.inj hshares)
  exact hnot (hall s h e he e' he')

end Starry.Enrollment
