import Starry.Pairing.Rules

/-!
# Rotation

A rotation installs the key that is pending, or a new one. Which files a call leaves alone follows from
their names.
-/

open Library Library.Prog

namespace Starry.Pairing

open Starry.Config (ensure)

/-! ## What is installed -/

namespace World

variable (env : Env) (w : World) (options : ControlPairOptions)

/-- The key in `server-key.pem`. -/
def installedKey : Option KeyPair :=
  (w.files options.serverKey).bind fun file => file.content.keyPair env

/-- The key in `server-key.pending.pem`. -/
def pendingKey : Option KeyPair :=
  (w.files options.pendingKeyPath).bind fun file => file.content.keyPair env

def generation : Nat := existingGeneration (w.files options.marker)

/-- The enrollment that the marker names. -/
def enrollment : Option String :=
  ((w.files options.marker).bind fun file => file.content.asMarker).map (·.enrollmentId)

end World

/-- The enrollment that a code is for. -/
def codeEnrollment (env : Env) (code : String) : Option String :=
  (env.decodePayload (String.ofList ((trim code).toList.drop 4))).map (·.enrollmentId)

section

variable {env : Env} {w t u : World} {options : ControlPairOptions} {code : PairingCode}

theorem World.installedKey_congr (h : t.files options.serverKey = w.files options.serverKey) :
    t.installedKey env options = w.installedKey env options := by
  unfold World.installedKey
  rw [h]

theorem parse_enrollment {text : String} {expected : Purpose} {now : Nat}
    (h : PairingCode.parse env text expected now = .ok code) :
    codeEnrollment env text = some code.enrollmentId := by
  simp only [PairingCode.parse, bind_eq_ok] at h
  obtain ⟨-, -, -, -, payload, hpayload, _, -, -, -, -, -, -, -, -, -, -, -, -, -, -, -, h⟩ := h
  obtain rfl := Except.ok.inj h
  unfold codeEnrollment
  rw [elim_eq_ok.mp hpayload]
  rfl

/-! ## Files by their names -/

theorem World.files_put_name {dir dir' : PathBuf} {name name' : String} {file : File}
    (h : name' ≠ name) : (w.put (dir.join name) file).files (dir'.join name') =
      w.files (dir'.join name') :=
  World.files_put_of_ne fun heq => h (PathBuf.join_inj.mp heq).2

theorem World.files_erase_name {dir dir' : PathBuf} {name name' : String} (h : name' ≠ name) :
    (w.erase (dir.join name)).files (dir'.join name') = w.files (dir'.join name') :=
  World.files_erase_of_ne fun heq => h (PathBuf.join_inj.mp heq).2

theorem writable_other {dir : PathBuf} {name : String} {content : Content} (h : name ∉ keyNames) :
    Writable env w (dir.join name) content := by
  intro dir' name' key hname hpath
  obtain ⟨-, rfl⟩ := PathBuf.join_inj.mp hpath
  exact absurd hname h

theorem writable_key {path : PathBuf} {content : Content}
    (h : ∀ key, content.keyPair env = some key → key ∈ w.keys) : Writable env w path content :=
  fun _ _ key _ _ hkey => h key hkey

theorem writable_config {path : PathBuf} {config : GeneratedAgentConfig} :
    Writable env w path (.config config) :=
  writable_key (by simp [Content.keyPair, Content.asText])

/-- Only files of these names have changed, and keys were only added. -/
structure Keeps (names : List String) (w t : World) : Prop where
  files : ∀ dir name, name ∉ names → t.files (PathBuf.join dir name) = w.files (dir.join name)
  keys : w.keys ⊆ t.keys

theorem Keeps.refl (names : List String) (w : World) : Keeps names w w := ⟨fun _ _ _ => rfl, fun _ h => h⟩

theorem Keeps.trans {names : List String} (h : Keeps names w t) (h' : Keeps names t u) :
    Keeps names w u :=
  ⟨fun dir name hname => (h'.files dir name hname).trans (h.files dir name hname),
    fun _ hkey => h'.keys (h.keys hkey)⟩

theorem Keeps.put {names : List String} {dir : PathBuf} {name : String} (hname : name ∈ names)
    (file : File) : Keeps names w (w.put (dir.join name) file) :=
  ⟨fun _ _ hother => World.files_put_name fun heq => hother (heq ▸ hname), fun _ h => h⟩

theorem Keeps.addKey (names : List String) (key : KeyPair) : Keeps names w (w.addKey key) :=
  ⟨fun _ _ _ => rfl, fun _ h => List.mem_cons_of_mem _ h⟩

/-! ## A completed pairing -/

theorem ends_validateInstalledKeyAndCertificate {fingerprint : String} {Q : Unit → World → Prop}
    (hw : Known env w) (h : ∀ key, w.installedKey env options = some key → Q () w) :
    Ends env (validateInstalledKeyAndCertificate env options fingerprint) Q w := by
  unfold validateInstalledKeyAndCertificate
  refine ends_bind.mpr (ends_readPrivateInput hw fun file hfile => ?_)
  refine ends_bind.mpr (ends_check.mpr fun key hkey => ends_bind.mpr (ends_require.mpr fun _ => ?_))
  refine ends_bind.mpr (ends_find hw (ends_bind.mpr (ends_check.mpr fun _ _ => ?_)))
  refine ends_bind.mpr (ends_check.mpr fun _ _ => ends_bind.mpr (ends_ask rfl hw fun _ => ?_))
  refine ends_check.mpr fun _ _ => h key ?_
  unfold World.installedKey
  rw [hfile]
  exact elim_eq_ok.mp hkey

theorem ends_cleanupCompletedPending {marker : InstalledControlIdentity} {Q : Unit → World → Prop}
    (hw : Known env w) (h : ∀ t, Known env t → Q () t) :
    Ends env (cleanupCompletedPending env options marker) Q w := by
  have hremove : Ends env (removePending options.pendingPath options.pendingKeyPath) Q w :=
    ends_removePending hw (h _ ((hw.erase _).erase _))
  unfold cleanupCompletedPending
  refine ends_bind.mpr (ends_find hw (ends_bind.mpr (ends_check.mpr fun _ _ => ?_)))
  refine ends_bind.mpr (ends_find hw (ends_ite (fun _ => ?_) fun _ => hremove))
  refine ends_bind.mpr (ends_readPrivateInput hw fun _ _ => ends_bind.mpr (ends_check.mpr fun _ _ => ?_))
  exact ends_bind.mpr (ends_require.mpr fun _ => hremove)

/-- Where the call goes on, the marker is of another claim and its key is installed. -/
theorem ends_completedControlRetry {Q : Option PairingSummary → World → Prop} (hw : Known env w)
    (hnone : w.files options.marker = none → Q none w)
    (hother : ∀ key, w.installedKey env options = some key → Q none w)
    (hsame : ∀ summary t, Known env t → w.enrollment options = some code.enrollmentId →
      Q (some summary) t) :
    Ends env (completedControlRetry env code options) Q w := by
  unfold completedControlRetry
  refine ends_bind.mpr (ends_find hw ?_)
  cases hfile : w.files options.marker with
  | none => exact hnone hfile
  | some file =>
    refine ends_bind.mpr (ends_check.mpr fun marker hmarker => ends_bind.mpr ?_)
    refine ends_require.mpr fun _ => ends_bind.mpr ?_
    refine ends_validateInstalledKeyAndCertificate hw fun key hkey => ?_
    refine ends_ite (fun _ => hother key hkey) fun hclaim => ?_
    refine ends_bind.mpr (ends_cleanupCompletedPending hw fun t ht => hsame _ t ht ?_)
    have henrollment : marker.enrollmentId = code.enrollmentId := by
      simp only [not_or, not_not] at hclaim
      exact hclaim.1
    unfold World.enrollment
    rw [hfile, Option.bind_some, elim_eq_ok.mp hmarker, Option.map_some, henrollment]

/-! ## Instance and key -/

theorem ends_readOptionalTrimmed {path : PathBuf} {maximum : Nat}
    {Q : Option String → World → Prop} (hw : Known env w) (h : ∀ value, Q value w) :
    Ends env (readOptionalTrimmed env path maximum) Q w := by
  unfold readOptionalTrimmed
  refine ends_bind.mpr (ends_find hw ?_)
  cases w.files path with
  | none => exact h none
  | some file =>
    exact ends_bind.mpr (ends_check.mpr fun _ _ => ends_bind.mpr (ends_require.mpr fun _ => h _))

theorem ends_recoverPendingControlInstance {Q : Option String → World → Prop} (hw : Known env w)
    (h : ∀ value, Q value w) : Ends env (recoverPendingControlInstance env code options) Q w := by
  unfold recoverPendingControlInstance
  refine ends_bind.mpr (ends_find hw ?_)
  cases w.files options.pendingPath with
  | none => exact h none
  | some file =>
    refine ends_bind.mpr (ends_check.mpr fun _ _ => ends_bind.mpr (ends_require.mpr fun _ => ?_))
    exact ends_bind.mpr (ends_check.mpr fun _ _ => ends_bind.mpr (ends_require.mpr fun _ => h _))

theorem ends_selectInstance {Q : String → World → Prop} (hw : Known env w) (h : ∀ id, Q id w) :
    Ends env (selectInstance env code options) Q w := by
  unfold selectInstance
  refine ends_bind.mpr (ends_readOptionalTrimmed hw fun existing => ?_)
  have hexisting : ∀ value : String, Ends env (do
      require (env.isUuid value) "control_instance_id_invalid"
      return value) Q w :=
    fun value => ends_bind.mpr (ends_require.mpr fun _ => h value)
  cases options.mode with
  | pair =>
    cases existing with
    | none =>
      refine ends_bind.mpr (ends_recoverPendingControlInstance hw fun pending => ?_)
      cases pending with
      | none => exact ends_ask rfl hw h
      | some id => exact h id
    | some value =>
      refine ends_bind.mpr (ends_find hw (ends_bind.mpr (ends_require.mpr fun _ => ?_)))
      exact hexisting value
  | adopt | rotate =>
    cases existing with
    | none => trivial
    | some value => exact hexisting value

/-- Where the key of a call comes from, and what is written for it. -/
inductive KeyFrom (env : Env) (options : ControlPairOptions) (reuse : Bool) (w : World) :
    Content → World → Prop
  | pending {file : File} (h : w.files options.pendingKeyPath = some file) :
      KeyFrom env options reuse w file.content w
  | installed {file : File} (hreuse : reuse = true)
      (h : w.files options.serverKey = some file) :
      KeyFrom env options reuse w file.content
        (w.put options.pendingKeyPath ⟨file.content, 0o600, 1⟩)
  | generated {key : KeyPair} (hnone : w.files options.pendingKeyPath = none) (hkey : key ∉ w.keys) :
      KeyFrom env options reuse w (.text (env.serializePem key))
        ((w.addKey key).put options.pendingKeyPath ⟨.text (env.serializePem key), 0o600, 1⟩)

theorem keyPair_serializePem (key : KeyPair) :
    (Content.text (env.serializePem key)).keyPair env = some key :=
  env.fromPem_serializePem key

namespace KeyFrom

variable {reuse : Bool} {content : Content}

theorem known (hw : Known env w) (h : KeyFrom env options reuse w content t) (key : KeyPair)
    (hkey : content.keyPair env = some key) : key ∈ t.keys := by
  cases h with
  | pending h => exact hw _ _ _ _ (by simp [keyNames]) h hkey
  | installed _ h => exact hw _ _ _ _ (by simp [keyNames]) h hkey
  | generated =>
    rw [keyPair_serializePem] at hkey
    obtain rfl := Option.some.inj hkey
    exact List.mem_cons_self

theorem keeps (h : KeyFrom env options reuse w content t) :
    Keeps ["server-key.pending.pem"] w t := by
  cases h with
  | pending => exact .refl _ w
  | installed => exact .put List.mem_cons_self _
  | @generated key => exact (Keeps.addKey _ key).trans (.put List.mem_cons_self _)

/-- A rotation uses the key that is pending, or one that is installed nowhere. -/
theorem ne_installed (hw : Known env w) (h : KeyFrom env options false w content t)
    {installed key : KeyPair} (hinstalled : w.installedKey env options = some installed)
    (hkey : content.keyPair env = some key) :
    key ≠ installed ↔ w.pendingKey env options ≠ w.installedKey env options := by
  cases h with
  | pending h =>
    unfold World.pendingKey
    rw [hinstalled, h, Option.bind_some, hkey, ne_eq, ne_eq, Option.some.injEq]
  | installed hreuse => cases hreuse
  | generated hnone hfresh =>
    rw [keyPair_serializePem] at hkey
    obtain rfl := Option.some.inj hkey
    unfold World.pendingKey
    rw [hinstalled, hnone, Option.bind_none]
    refine iff_of_true ?_ (Option.some_ne_none installed).symm
    rintro rfl
    obtain ⟨file, hfile, hcontent⟩ := Option.bind_eq_some_iff.mp hinstalled
    exact hfresh (hw _ _ _ _ (by simp [keyNames]) hfile hcontent)

end KeyFrom

theorem ends_pendingKey {reuse allowExisting : Bool} {Q : Content → World → Prop} (hw : Known env w)
    (h : ∀ content t, Known env t → KeyFrom env options reuse w content t → Q content t) :
    Ends env (pendingKey env options reuse allowExisting) Q w := by
  unfold pendingKey
  refine ends_bind.mpr (ends_find hw (ends_bind.mpr (ends_find hw ?_)))
  refine ends_ite (fun _ => ?_) fun hpending => ends_ite (fun hreuse => ?_) fun _ => ?_
  · exact ends_bind.mpr (ends_readPrivateInput hw fun file hfile => h _ _ hw (.pending hfile))
  · have hreuse : reuse = true := (Bool.and_eq_true_iff.mp hreuse).1
    refine ends_bind.mpr (ends_readPrivateInput hw fun file hfile => ends_bind.mpr ?_)
    have hkeys : ∀ key, file.content.keyPair env = some key → key ∈ w.keys :=
      fun key hkey => hw _ _ _ _ (by simp [keyNames]) hfile hkey
    exact ends_atomicWrite hw (writable_key hkeys) fun hput => h _ _ hput (.installed hreuse hfile)
  · have hnone : w.files options.pendingKeyPath = none := by simpa using hpending
    refine ends_bind.mpr (ends_require.mpr fun _ => ends_bind.mpr ?_)
    refine ends_generateKey hw (ends_bind.mpr (ends_check.mpr (by simp))) fun key hfresh => ?_
    refine ends_bind.mpr (ends_check.mpr fun key' hkey => ends_bind.mpr ?_)
    obtain rfl := Option.some.inj (elim_eq_ok.mp hkey)
    refine ends_atomicWrite (hw.addKey key) (writable_key fun key' hkey => ?_)
      fun hput => h _ _ hput (.generated hnone hfresh)
    rw [keyPair_serializePem] at hkey
    obtain rfl := Option.some.inj hkey
    exact List.mem_cons_self

theorem ends_loadOrCreatePendingKey {reuse allowExisting : Bool} {name : String}
    {Q : PreparedKey → World → Prop} (hw : Known env w)
    (h : ∀ prepared key t, Known env t → KeyFrom env options reuse w prepared.privateKeyPem t →
      prepared.privateKeyPem.keyPair env = some key → Q prepared t) :
    Ends env (loadOrCreatePendingKey env options reuse allowExisting name) Q w := by
  unfold loadOrCreatePendingKey
  refine ends_bind.mpr (ends_pendingKey hw fun content t ht hfrom => ends_bind.mpr ?_)
  refine ends_check.mpr fun key hkey => ends_bind.mpr (ends_check.mpr fun _ _ => ends_bind.mpr ?_)
  refine ends_check.mpr fun _ _ => ends_bind.mpr (ends_check.mpr fun csrPem _ => ?_)
  exact h ⟨content, _, _⟩ key t ht hfrom (elim_eq_ok.mp hkey)

/-! ## Claim and installation -/

theorem ends_validateOrWritePending {expected : PendingIdentity} {Q : Unit → World → Prop}
    (hw : Known env w) (h : ∀ t, Known env t → Keeps ["pairing.pending.json"] w t → Q () t) :
    Ends env (validateOrWritePending options expected) Q w := by
  unfold validateOrWritePending
  refine ends_bind.mpr (ends_find hw ?_)
  cases w.files options.pendingPath with
  | none =>
    exact ends_atomicWrite hw (writable_other (by decide)) fun hput =>
      h _ hput (.put List.mem_cons_self _)
  | some file =>
    exact ends_bind.mpr (ends_check.mpr fun _ _ => ends_require.mpr fun _ => h w hw (.refl _ w))

theorem ends_claimBroker {request : ClaimRequest} {Q : ClaimResponse → World → Prop}
    (hw : Known env w) (h : ∀ response, Q response w) :
    Ends env (claimBroker env code options request) Q w := by
  have hclaim : Ends env (io (run (.claim request))) Q w :=
    ends_io.mpr (safe_quiet rfl hw fun _ _ x _ => h x)
  unfold claimBroker
  refine ends_bind.mpr (ends_ask rfl hw fun _ => ends_bind.mpr (ends_require.mpr fun _ => ?_))
  refine ends_bind.mpr ?_
  unfold readBrokerCa
  cases options.brokerCaFile with
  | none => exact hclaim
  | some path =>
    refine ends_bind.mpr (ends_readPrivateInput hw fun _ _ => ends_bind.mpr ?_)
    exact ends_check.mpr fun _ _ => ends_require.mpr fun _ => hclaim

def relayCaNames : List String := ["relay-ca.pem", "relay-ca-key.pem", "local-control.token"]

theorem ends_ensureRelayCa {Q : Unit → World → Prop} (hw : Known env w)
    (h : ∀ t, Known env t → Keeps relayCaNames w t → Q () t) :
    Ends env (ensureRelayCa env options) Q w := by
  have hcertificate : ∀ t certificate, Known env t → Keeps relayCaNames w t →
      Ends env (atomicWrite options.relayCa (.text certificate) 0o640 false) Q t := by
    intro t certificate ht hkeeps
    refine ends_atomicWrite ht (writable_other (by decide)) fun hput => ?_
    exact h _ hput (hkeeps.trans (.put (by decide) _))
  unfold ensureRelayCa
  refine ends_bind.mpr (ends_find hw (ends_bind.mpr (ends_find hw ?_)))
  cases w.files options.relayCa with
  | none =>
    cases w.files options.relayCaKey with
    | none =>
      refine ends_bind.mpr (ends_generateKey hw (ends_bind.mpr (ends_check.mpr (by simp))) ?_)
      intro key _
      have hknown := hw.addKey key
      refine ends_bind.mpr (ends_check.mpr fun _ _ => ends_bind.mpr (ends_ask rfl hknown fun _ => ?_))
      refine ends_bind.mpr (ends_check.mpr fun certificate _ => ends_bind.mpr ?_)
      refine ends_atomicWrite hknown (writable_other (by decide)) fun hput => ?_
      exact hcertificate _ certificate hput ((Keeps.addKey _ key).trans (.put (by decide) _))
    | some file =>
      refine ends_bind.mpr (ends_readPrivateInput hw fun _ _ => ends_bind.mpr ?_)
      refine ends_check.mpr fun key _ => ends_bind.mpr (ends_ask rfl hw fun _ => ends_bind.mpr ?_)
      exact ends_check.mpr fun certificate _ => hcertificate w certificate hw (.refl _ w)
  | some certificate =>
    cases w.files options.relayCaKey with
    | none => trivial
    | some file =>
      refine ends_bind.mpr (ends_readPrivateInput hw fun _ _ => ends_bind.mpr ?_)
      refine ends_check.mpr fun _ _ => ends_bind.mpr (ends_ask rfl hw fun _ => ?_)
      exact ends_check.mpr fun _ _ => h w hw (.refl _ w)

theorem ends_ensureToken {Q : Unit → World → Prop} (hw : Known env w)
    (h : ∀ t, Known env t → Keeps relayCaNames w t → Q () t) : Ends env (ensureToken options) Q w := by
  unfold ensureToken
  refine ends_bind.mpr (ends_find hw (ends_ite (fun _ => h w hw (.refl _ w)) fun _ => ?_))
  refine ends_bind.mpr (ends_ask rfl hw fun token => ?_)
  exact ends_atomicWrite hw (writable_other (by decide)) fun hput => h _ hput (.put (by decide) _)

/-- A configuration that is kept was read from where the new one goes. -/
theorem ends_previousConfig {completed : Bool} {Q : Option GeneratedAgentConfig → World → Prop}
    (hw : Known env w)
    (h : ∀ previous, (completed = true → ∃ file config, w.files options.output = some file ∧
      file.content = .config config) → Q previous w) :
    Ends env (previousConfig env options completed) Q w := by
  unfold previousConfig
  refine ends_ite (fun _ => ?_) fun hnot => h none fun hcompleted => absurd hcompleted hnot
  unfold loadExistingGeneratedConfig
  refine ends_map.mpr (ends_bind.mpr (ends_find hw (ends_bind.mpr (ends_check.mpr ?_))))
  intro file hfile
  refine ends_bind.mpr (ends_require.mpr fun _ => ends_bind.mpr (ends_check.mpr fun config hconfig => ?_))
  refine ends_bind.mpr (ends_require.mpr fun _ => h _ fun _ => ⟨file, config, elim_eq_ok.mp hfile, ?_⟩)
  have hcontent := elim_eq_ok.mp hconfig
  cases hfound : file.content with
  | config value =>
    rw [hfound] at hcontent
    exact congrArg _ (Option.some.inj hcontent)
  | _ =>
    rw [hfound] at hcontent
    cases hcontent

/-- What an installation leaves, as far as a rotation depends on it. -/
structure Installed (env : Env) (options : ControlPairOptions) (w : World) (key : Content) (t : World) :
    Prop where
  generation : t.generation options = max (satAdd (w.generation options) 1) 1
  serverKey : options.output ≠ options.serverKey →
    t.installedKey env options = key.keyPair env
  output : (w.files options.marker).isSome = true → ∃ file config,
    w.files options.output = some file ∧ file.content = .config config

theorem generation_put (w : World) (marker : InstalledControlIdentity) (mode links : Nat) :
    (w.put options.marker ⟨.marker marker, mode, links⟩).generation options = marker.generation := by
  unfold World.generation
  rw [World.files_put_self]
  rfl

theorem ends_installControlIdentity {bundle : ControlAgentBundle} {instanceId : String}
    {prepared : PreparedKey} {Q : Unit → World → Prop} (hw : Known env w)
    (hlayout : options.output.startsWith options.stateDir = false)
    (hkey : ∀ key, prepared.privateKeyPem.keyPair env = some key → key ∈ w.keys)
    (h : ∀ t, Known env t → Installed env options w prepared.privateKeyPem t → Q () t) :
    Ends env (installControlIdentity env code options bundle instanceId prepared) Q w := by
  have hmarker : options.marker ≠ options.output := by
    intro heq
    rw [← heq, PathBuf.startsWith_join] at hlayout
    cases hlayout
  unfold installControlIdentity
  refine ends_bind.mpr (ends_find hw (ends_bind.mpr (ends_require.mpr fun _ => ends_bind.mpr ?_)))
  refine ends_previousConfig hw fun previous hprevious => ends_bind.mpr ?_
  refine ends_atomicWrite hw (writable_other (by decide)) fun h₁ => ends_bind.mpr ?_
  refine ends_atomicWrite h₁ (writable_key hkey) fun h₂ => ends_bind.mpr ?_
  refine ends_atomicWrite h₂ (writable_other (by decide)) fun h₃ => ends_bind.mpr ?_
  refine ends_atomicWrite h₃ (writable_other (by decide)) fun h₄ => ends_bind.mpr ?_
  refine ends_atomicWrite h₄ (writable_other (by decide)) fun h₅ => ends_bind.mpr ?_
  refine ends_atomicWrite h₅ (writable_other (by decide)) fun h₆ => ends_bind.mpr ?_
  refine ends_ensureRelayCa h₆ fun t ht hca => ends_bind.mpr ?_
  refine ends_ensureToken ht fun u hu htoken => ends_bind.mpr ?_
  refine ends_atomicWrite hu writable_config fun h₇ => ends_bind.mpr (ends_find h₇ ?_)
  refine ends_atomicWrite h₇ (writable_other (by decide)) fun h₈ => h _ h₈ ?_
  have hkept := hca.trans htoken
  constructor
  · rw [generation_put, World.files_put_of_ne hmarker, hkept.files _ _ (by decide)]
    iterate 6 rw [World.files_put_name (by decide)]
    rfl
  · intro houtput
    unfold World.installedKey
    rw [World.files_put_name (by decide), World.files_put_of_ne houtput.symm,
      hkept.files _ _ (by decide)]
    iterate 4 rw [World.files_put_name (by decide)]
    rw [World.files_put_self]
    rfl
  · exact hprevious

/-! ## A rotation -/

/-- The key is another one, and the generation the next. -/
def Rotated (env : Env) (options : ControlPairOptions) (w t : World) : Prop :=
  t.installedKey env options ≠ w.installedKey env options ∧
    t.generation options = w.generation options + 1

/-- No key is pending that is installed already, and there is a next generation. -/
def CanRotate (env : Env) (options : ControlPairOptions) (w : World) : Prop :=
  w.pendingKey env options ≠ w.installedKey env options ∧ w.generation options < u64Max

theorem next_generation {n : Nat} : max (satAdd n 1) 1 = n + 1 ↔ n < u64Max := by
  unfold satAdd u64Max
  omega

/-- The files of an installed identity are not the generated configuration. -/
theorem output_ne_serverKey {key : KeyPair} {content : Content}
    (hkey : w.installedKey env options = some key) (hmarker : (w.files options.marker).isSome = true)
    (h : Installed env options w content t) : options.output ≠ options.serverKey := by
  intro heq
  obtain ⟨file, config, hfile, hconfig⟩ := h.output hmarker
  obtain ⟨file', hfile', hcontent⟩ := Option.bind_eq_some_iff.mp hkey
  rw [heq, hfile'] at hfile
  obtain rfl := Option.some.inj hfile
  rw [hconfig] at hcontent
  cases hcontent

theorem ends_pairIdentity (hw : Known env w)
    (hlayout : options.output.startsWith options.stateDir = false)
    (hinstalled : (w.files options.marker).isSome = true →
      ∃ key, w.installedKey env options = some key) :
    Ends env (pairIdentity env code options) (fun _ t => options.mode = .rotate →
      (Rotated env options w t ↔ CanRotate env options w)) w := by
  unfold pairIdentity
  refine ends_bind.mpr (ends_find hw (ends_bind.mpr (ends_require.mpr fun _ => ends_bind.mpr ?_)))
  refine ends_require.mpr fun hcompleted => ends_bind.mpr ?_
  refine ends_selectInstance hw fun instanceId => ends_bind.mpr ?_
  refine ends_loadOrCreatePendingKey hw fun prepared key t₁ h₁ hfrom hkey => ends_bind.mpr ?_
  refine ends_validateOrWritePending h₁ fun t₂ h₂ hpending => ends_bind.mpr ?_
  refine ends_claimBroker h₂ fun response => ends_bind.mpr (ends_check.mpr fun bundle _ => ?_)
  refine ends_bind.mpr (ends_ask rfl h₂ fun _ => ends_bind.mpr (ends_ask rfl h₂ fun _ => ?_))
  refine ends_bind.mpr (ends_check.mpr fun _ _ => ends_bind.mpr ?_)
  have hknown : ∀ key, prepared.privateKeyPem.keyPair env = some key → key ∈ t₂.keys :=
    fun key hkey => hpending.keys (hfrom.known hw key hkey)
  refine ends_installControlIdentity h₂ hlayout hknown fun t₃ h₃ hdone => ends_bind.mpr ?_
  refine ends_removePending h₃ fun hmode => ?_
  have hmarker : t₂.files options.marker = w.files options.marker :=
    (hpending.files _ _ (by decide)).trans (hfrom.keeps.files _ _ (by decide))
  have hserver : t₂.installedKey env options = w.installedKey env options :=
    World.installedKey_congr
      ((hpending.files _ _ (by decide)).trans (hfrom.keeps.files _ _ (by decide)))
  have hsome : (w.files options.marker).isSome = true := by
    cases hfile : w.files options.marker with
    | none => simp [hfile, hmode] at hcompleted
    | some file => rfl
  obtain ⟨installed, hold⟩ := hinstalled hsome
  have houtput : options.output ≠ options.serverKey :=
    output_ne_serverKey (hserver.trans hold) (hmarker ▸ hsome) hdone
  rw [hmode] at hfrom
  have hchanged := hfrom.ne_installed hw hold hkey
  have hnew : ((t₃.erase options.pendingPath).erase options.pendingKeyPath).installedKey env options =
      some key := by
    rw [World.installedKey_congr ((World.files_erase_name (by decide)).trans
      (World.files_erase_name (by decide))), hdone.serverKey houtput, hkey]
  have hgeneration : ((t₃.erase options.pendingPath).erase options.pendingKeyPath).generation options =
      max (satAdd (w.generation options) 1) 1 := by
    have hthird := hdone.generation
    unfold World.generation at hthird ⊢
    rw [World.files_erase_name (by decide), World.files_erase_name (by decide), hthird, hmarker]
  unfold Rotated CanRotate
  rw [hnew, hgeneration, next_generation, ← hchanged, hold, ne_eq, ne_eq, Option.some.injEq]

theorem ends_controlPair (hw : Known env w) (text : String) :
    Ends env (controlPair env text options) (fun _ t => options.mode = .rotate →
      codeEnrollment env text ≠ w.enrollment options →
        (Rotated env options w t ↔ CanRotate env options w)) w := by
  unfold controlPair
  refine ends_bind.mpr (ends_ask rfl hw fun now => ends_bind.mpr (ends_check.mpr fun code hcode => ?_))
  refine ends_bind.mpr (ends_check.mpr fun _ hpaths => ends_bind.mpr (ends_io.mpr ?_))
  refine safe_quiet rfl hw fun _ _ _ _ => ends_bind.mpr (ends_require.mpr fun _ => ends_bind.mpr ?_)
  have hlayout : options.output.startsWith options.stateDir = false := by
    simp only [validateControlPaths, bind_eq_ok, Config.ensure_ok] at hpaths
    obtain ⟨-, -, -, hlayout, -⟩ := hpaths
    simp only [Bool.not_or, Bool.and_eq_true, Bool.not_eq_true'] at hlayout
    exact hlayout.1.2
  refine ends_completedControlRetry hw (fun hnone => ?_) (fun key hkey => ?_) ?_
  · exact (ends_pairIdentity hw hlayout (by simp [hnone])).mono fun _ t h hmode _ => h hmode
  · exact (ends_pairIdentity hw hlayout fun _ => ⟨key, hkey⟩).mono fun _ t h hmode _ => h hmode
  · intro summary t _ henrollment _ hother
    exact absurd ((parse_enrollment hcode).trans henrollment.symm) hother

end

/-! ## Runs -/

structure PairCall where
  code : String
  options : ControlPairOptions

def PairCall.program (env : Env) (c : PairCall) : Agent (Except String PairingSummary) :=
  (controlPair env c.code c.options).run

/-- A call that was answered. -/
abbrev Entry := Answered World PairCall (Except String PairingSummary)

abbrev Pairings := Serial Act Act.Reply World PairCall (Except String PairingSummary)

/-- Calls one after another, each of which may stop anywhere. -/
abbrev Pairings.Next (env : Env) : Pairings → SerialMove → Pairings → Prop :=
  Serial.Next (PairCall.program env) (fun w _ t => w = t) (next env)

/-- A rotation for another enrollment has returned. -/
structure Rotates (env : Env) (e : Entry) : Prop where
  mode : e.call.options.mode = .rotate
  answer : ∃ summary, e.answer = .ok summary
  enrollment : codeEnrollment env e.call.code ≠ e.before.enrollment e.call.options

/-- Where the call is a rotation, it has rotated if and only if it could. -/
def Decided (env : Env) (e : Entry) : Prop :=
  Rotates env e →
    (Rotated env e.call.options e.before e.after ↔ CanRotate env e.call.options e.before)

theorem safe_program {env : Env} {w : World} (hw : Known env w) (c : PairCall) :
    (rules env).Safe (c.program env) (fun answer t => Known env t ∧ Decided env ⟨c, w, answer, t⟩)
      w := by
  refine Serial.safe_of_kept hw ?_
  unfold PairCall.program
  rw [Rules.safe_run]
  refine Rules.Tries.mono (ends_controlPair hw c.code) ?_ ?_
  · intro _ t h ht
    exact ⟨ht, fun hrotates => h hrotates.mode hrotates.enrollment⟩
  · intro _ t _ ht
    refine ⟨ht, fun hrotates => ?_⟩
    obtain ⟨summary, hanswer⟩ := hrotates.answer
    cases hanswer

/-- In every run from a disk whose server keys are known, a rotation for another enrollment that
returns has changed the key and made the generation larger by one if and only if it could. -/
theorem rotation_changes_key_iff {env : Env} {w₀ : World} (h₀ : Known env w₀) {m : Pairings}
    (h : Reachable (Pairings.Next env) (Serial.initial w₀) m) :
    ∀ e ∈ m.history, Rotates env e →
      (Rotated env e.call.options e.before e.after ↔ CanRotate env e.call.options e.before) := by
  have hkept := Serial.Kept.reachable (E := fun _ _ => True)
    (I := fun history w => Known env w ∧ ∀ e ∈ history, Decided env e) ⟨h₀, by simp⟩ ?_ h
  · exact hkept.state.2
  · rintro history w call t ⟨hw, hhistory⟩ rfl
    refine ⟨⟨hw, hhistory⟩, ?_⟩
    refine (Serial.safe_and (J := fun _ => ∀ e ∈ history, Decided env e) (fun _ _ hJ _ => hJ)
      (safe_program hw call) hhistory).mono ?_
    rintro answer t ⟨⟨ht, hcall⟩, hold⟩
    refine ⟨ht, fun e he => ?_⟩
    rcases List.mem_append.mp he with he | he
    · exact hold e he
    · obtain rfl := List.mem_singleton.mp he
      exact hcall

/-! ## A key that is kept -/

def World.empty : World := ⟨fun _ => none, []⟩

theorem known_empty (env : Env) : Known env .empty :=
  fun _ _ _ _ _ hfile _ => absurd hfile (by simp [World.empty])

def sampleDigest : String :=
  "sha256:0000000000000000000000000000000000000000000000000000000000000000"
def sampleInstance : String := "01900000-0000-7000-8000-000000000000"

def sampleBundle (instanceId : String) : ControlAgentBundle :=
  { instanceId
    agentOrigin := "https://agent", serverCertificatePem := "certificate", clientCaPem := "client ca"
    allowedClientUriSans := ["spiffe://client"]
    serviceJwks := .object [("keys", .array [.object [("kty", .string "OKP"),
      ("crv", .string "Ed25519"), ("x", .string "key")]])]
    serviceJwtIssuer := "https://issuer", serviceJwtAudiencePrefix := "urn:starry:"
    centerPublicKey := "key" }

def samplePayload (enrollmentId : String) : PairingCodePayload :=
  { version := 1, purpose := "control-agent", brokerOrigin := "https://broker"
    brokerSpkiSha256 := sampleDigest, enrollmentId, configurationDigest := sampleDigest
    expiresAtUnix := 600, secret := "secret" }

theorem sample_pem (key : KeyPair) :
    (some ⟨(String.ofList (key.der.map fun b => Char.ofNat b.toNat)).toList.map fun c =>
      UInt8.ofNat c.toNat⟩ : Option KeyPair) = some key := by
  obtain ⟨der⟩ := key
  simp only [String.toList_ofList, List.map_map, Option.some.injEq, KeyPair.mk.injEq]
  conv_rhs => rw [← List.map_id der]
  refine List.map_congr_left fun b _ => ?_
  have hb : b.toNat < 256 := b.toNat_lt
  have hvalid : (b.toNat).isValidChar := Or.inl (by omega)
  simp [Char.toNat_ofNat, hvalid]

def sampleEnv : Env where
  parseUrl _ := some ⟨"https", some "host", none, "", none, "/", none, none⟩
  isUuid text := text.utf8ByteSize == 36
  digest _ := sampleDigest
  toVec _ := []
  csrKey _ := .ok sampleDigest
  certificateKey _ := some sampleDigest
  certificateValid _ _ _ := true
  decodedLength _ := some 32
  decodedUrlSafeLength _ := some 32
  decodePayload text :=
    if text = "A" then some (samplePayload "01900000-0000-7000-8000-00000000000a")
    else if text = "B" then some (samplePayload "01900000-0000-7000-8000-00000000000b")
    else none
  fromPem pem := some ⟨pem.toList.map fun c => UInt8.ofNat c.toNat⟩
  serializePem key := String.ofList (key.der.map fun b => Char.ofNat b.toNat)
  publicKeyDer key := key.der
  serializeRequest _ _ _ := some "request"
  parseCertificate _ := some ⟨[], 0, 100⟩
  readBundle value := value.asStr.map sampleBundle
  isIpAddr _ := false
  isControl c := c.toNat < 32
  len _ := 100
  fromPem_serializePem := sample_pem

def sampleOptions (mode : ControlPairMode) : ControlPairOptions :=
  { mode, tlsServerName := none
    stateDir := ⟨true, ["state"]⟩, identityDir := ⟨true, ["identity"]⟩
    output := ⟨true, ["generated", "agent.yaml"]⟩, sharedDir := ⟨true, ["shared"]⟩
    managedConfigPath := ⟨true, ["config", "config.yaml"]⟩, backupDir := ⟨true, ["backup"]⟩
    listen := "0.0.0.0:21120", localControlAddress := "127.0.0.1:21119", brokerCaFile := none }

/-- Nothing fails, and the broker answers every claim. -/
def sampleChoice (w : World) : (a : Act) → a.Choice
  | .now => (10 : Nat)
  | .newUuid => sampleInstance
  | .generateKey => some (⟨[UInt8.ofNat w.keys.length]⟩ : KeyPair)
  | .selfSign _ => some "relay ca"
  | .randomToken => "token"
  | .find _ => ()
  | .prepareDirectories | .stage _ => (.ok () : Except String Unit)
  | .link _ _ _ | .rename _ _ _ | .unlinkTemporary _ | .syncDirectory _ | .remove _ => true
  | .claim request => (.ok
      { version := 1, purpose := request.purpose, enrollmentId := request.enrollmentId
        configurationDigest := request.configurationDigest, requestDigest := request.requestDigest
        keyFingerprint := request.keyFingerprint, bundle := .string (request.instanceId.getD "") } :
      Except String ClaimResponse)

def pairA : PairCall := ⟨"SP1.A", sampleOptions .pair⟩
def rotateB : PairCall := ⟨"SP1.B", sampleOptions .rotate⟩


/-- Both calls run to their ends. -/
def rotated : Option Pairings :=
  Serial.serve (PairCall.program sampleEnv) (fun w _ => some w) (step sampleEnv) sampleChoice .empty []
    [pairA, rotateB]

/-- The first call stops between its last two removals. -/
def interrupted : Option Pairings :=
  ((pairA.program sampleEnv).stopAfter (step sampleEnv) sampleChoice 102 .empty).bind fun w =>
    Serial.serve (PairCall.program sampleEnv) (fun w _ => some w) (step sampleEnv) sampleChoice w []
      [rotateB]

/-- The key before and after the last call, if it was a rotation for another enrollment that returned. -/
def lastRotation (m : Pairings) : Option (Option KeyPair × Option KeyPair) :=
  (m.history.getLast?.filter fun e => decide (e.call.options.mode = .rotate) && e.answer.isOk &&
    decide (codeEnrollment sampleEnv e.call.code ≠ e.before.enrollment e.call.options)).map fun e =>
      (e.before.installedKey sampleEnv e.call.options, e.after.installedKey sampleEnv e.call.options)

theorem rotates_of_lastRotation {m : Pairings} {before after : Option KeyPair}
    (h : lastRotation m = some (before, after)) : ∃ e ∈ m.history, Rotates sampleEnv e ∧
      e.before.installedKey sampleEnv e.call.options = before ∧
      e.after.installedKey sampleEnv e.call.options = after := by
  obtain ⟨e, he, hkeys⟩ := Option.map_eq_some_iff.mp h
  obtain ⟨hlast, htest⟩ := Option.filter_eq_some_iff.mp he
  obtain ⟨hbefore, hafter⟩ := Prod.mk.inj hkeys
  simp only [Bool.and_eq_true, decide_eq_true_eq] at htest
  obtain ⟨⟨hmode, hanswer⟩, henrollment⟩ := htest
  refine ⟨e, List.mem_of_getLast? hlast, ⟨hmode, ?_, henrollment⟩, hbefore, hafter⟩
  cases hresult : e.answer with
  | ok summary => exact ⟨summary, rfl⟩
  | error _ =>
    rw [hresult] at hanswer
    cases hanswer

theorem rotated_keys : rotated.bind lastRotation = some (some ⟨[0]⟩, some ⟨[2]⟩) := by
  decide +kernel

theorem interrupted_keys : interrupted.bind lastRotation = some (some ⟨[0]⟩, some ⟨[0]⟩) := by
  decide +kernel

theorem rotation_changes_key_iff_sample : ∃ m : Pairings,
    Reachable (Pairings.Next sampleEnv) (Serial.initial .empty) m ∧
      (∃ e ∈ m.history, Rotates sampleEnv e) ∧
      ∀ e ∈ m.history, Rotates sampleEnv e →
        (Rotated sampleEnv e.call.options e.before e.after ↔
          CanRotate sampleEnv e.call.options e.before) := by
  obtain ⟨m, hm, hkeys⟩ := Option.bind_eq_some_iff.mp rotated_keys
  have hreach : Reachable (Pairings.Next sampleEnv) (Serial.initial .empty) m :=
    Serial.reachable_serve (fun _ _ _ h => Option.some.inj h) (.refl _) hm
  obtain ⟨e, he, hrotates, -⟩ := rotates_of_lastRotation hkeys
  exact ⟨m, hreach, ⟨e, he, hrotates⟩, rotation_changes_key_iff (known_empty sampleEnv) hreach⟩

/-- The key of the first call is still pending, and the rotation takes it for its own. -/
theorem pending_key_installed_again : ∃ m : Pairings,
    Reachable (Pairings.Next sampleEnv) (Serial.initial .empty) m ∧
      ∃ e ∈ m.history, Rotates sampleEnv e ∧
        e.after.installedKey sampleEnv e.call.options =
          e.before.installedKey sampleEnv e.call.options := by
  obtain ⟨m, hm, hkeys⟩ := Option.bind_eq_some_iff.mp interrupted_keys
  obtain ⟨w, hstop, hm⟩ := Option.bind_eq_some_iff.mp hm
  have hstopped : Reachable (Pairings.Next sampleEnv) (Serial.initial .empty) ⟨w, none, []⟩ :=
    Serial.stopped ((Reachable.refl _).step (.call pairA rfl)) (.of_stopAfter hstop)
  have hreach : Reachable (Pairings.Next sampleEnv) (Serial.initial .empty) m :=
    Serial.reachable_serve (fun _ _ _ h => Option.some.inj h) hstopped hm
  obtain ⟨e, he, hrotates, hbefore, hafter⟩ := rotates_of_lastRotation hkeys
  exact ⟨m, hreach, e, he, hrotates, hafter.trans hbefore.symm⟩

end Starry.Pairing
