import Starry.Downgrade.Lowered
import Starry.Downgrade.Removed

/-!
# A downgrade preserves the meaning of a document

What a document means is its normalized configuration. The export keeps it, and reports it ready
whenever nothing of FastMedia is left and its text fits.
-/

open Starry.ConfigStore (Value)

namespace Starry.Downgrade

open Starry.Config
open Starry.ConfigStore.Value (Lost)

variable {env : Env} {text : Bytes} {document : Value} {wire : StarryConfigWire}
  {validated : ValidatedConfig}

/-! ## Accepted documents -/

/-- The document is accepted. -/
def Accepts (env : Env) (text : Bytes) (validated : ValidatedConfig) : Prop :=
  parseDocument env.toEnv text >>= validateConfig env.toEnv = .ok validated

/-- The typed and the untyped reading of a text are of one value. -/
structure ReadsAs (env : Env) (text : Bytes) (v : Value) : Prop where
  value : env.readValue text = some v
  wire : (env.readWire text).toOption = StarryConfigWire.ofValue v

/-- A value is written to a text that reads back as the value. -/
def WritesBack (env : Env) (v : Value) : Prop :=
  ∃ text, env.write v = some text ∧ text.all isAsciiWhitespace = false ∧ ReadsAs env text v

structure Accepted (env : Env) (text : Bytes) (wire : StarryConfigWire)
    (validated : ValidatedConfig) : Prop where
  fits : text.length ≤ maxConfigBytes
  read : env.readWire text = .ok wire
  valid : validate env.toEnv wire.config = .ok validated.config

theorem ok_of_mapError {α β γ : Type} {x : Except α γ} {f : α → β} {y : γ}
    (h : x.mapError f = .ok y) : x = .ok y := by
  cases x with
  | ok z =>
    cases h
    rfl
  | error e => cases h

theorem Accepts.accepted (h : Accepts env text validated) :
    ∃ wire, Accepted env text wire validated := by
  obtain ⟨parsed, hparse, hvalid⟩ := bind_eq_ok.mp h
  unfold parseDocument at hparse
  split at hparse
  · cases hparse
  · rename_i hfits
    split at hparse
    · cases hparse
    · split at hparse
      · rename_i wire hread
        cases hparse
        refine ⟨wire, Nat.not_lt.mp hfits, hread, ?_⟩
        unfold validateConfig at hvalid
        obtain ⟨_, -, hvalid⟩ := bind_eq_ok.mp hvalid
        obtain ⟨config, hconfig, hvalid⟩ := bind_eq_ok.mp hvalid
        obtain ⟨bytes, -, hvalid⟩ := bind_eq_ok.mp hvalid
        cases hvalid
        exact ok_of_mapError hconfig
      · cases hparse

/-- The document as it is exported is accepted, if it is not too large. -/
theorem accepts_exported (hserializes : ∀ config, ∃ bytes, env.toVec config = .ok bytes)
    (hreads : ReadsAs env text (exported document)) (hnonblank : text.all isAsciiWhitespace = false)
    (hfits : text.length ≤ maxConfigBytes) (hwire : StarryConfigWire.ofValue document = some wire)
    (hvalid : validate env.toEnv wire.config = .ok validated.config)
    (hmedia : validated.config.fastMode.relay.fastMediaV1Enabled = false)
    (hcompat : validated.config.fastMode.relay.fastCompatEnabled = true →
      validated.config.relayQuality.enabled = true) :
    ∃ lowered, Accepts env text lowered ∧ lowered.config = validated.config.lowered := by
  have hkept := validate_kept hvalid
  have hread : env.readWire text = .ok wire.erased := by
    have hwire' := hreads.wire.trans (ofValue_exported hwire)
    cases hread : env.readWire text with
    | ok wire' =>
      rw [hread] at hwire'
      cases hwire'
      rfl
    | error err =>
      rw [hread] at hwire'
      cases hwire'
  have hvalid' : validate env.toEnv wire.erased.config = .ok validated.config.lowered := by
    rw [config_erased (hkept.fastMode ▸ hmedia)]
    exact validate_lowered hvalid hmedia hcompat
  obtain ⟨bytes, hbytes⟩ := hserializes validated.config.lowered
  refine ⟨⟨validated.config.lowered, env.sha256Digest text, env.sha256Digest bytes⟩, ?_, rfl⟩
  refine bind_eq_ok.mpr ⟨⟨text, wire.erased⟩, ?_, ?_⟩
  · rw [parseDocument, if_neg (Nat.not_lt.mpr hfits), hnonblank, if_neg Bool.false_ne_true, hread]
  · have hversion : checkVersion wire.erased = .ok () := by
      rw [checkVersion, versionRefusal_erased]
    unfold validateConfig
    refine bind_eq_ok.mpr ⟨(), hversion, bind_eq_ok.mpr ⟨validated.config.lowered, ?_,
      bind_eq_ok.mpr ⟨bytes, ?_, rfl⟩⟩⟩
    · rw [hvalid']
      rfl
    · rw [hbytes]
      rfl

theorem version_of_document {n : Nat} (h : StarryConfigWire.ofValue document = some wire)
    (hversion : wire.version = n) : document.get "version" = some (.uint n) := by
  unfold StarryConfigWire.ofValue at h
  simp only [Option.bind_eq_bind, Option.bind_eq_some_iff] at h
  obtain ⟨-, -, version, ⟨v, hv, hread⟩, servers, -, tcp, -, mmdb, -, geo, -, signal, -, auth, -,
    quality, -, mode, -, heq⟩ := h
  cases heq
  cases v with
  | uint m =>
    rw [asUnsigned] at hread
    split at hread
    · cases hread
      rw [hv, ← hversion]
    · cases hread
  | _ => cases hread

/-! ## Blockers -/

theorem asBool_withDefault {o : Option Value} {b : Bool}
    (h : withDefault false Value.asBool o = some b) : o.bind Value.asBool = some true ↔ b = true := by
  cases o with
  | none =>
    cases h
    simp
  | some v =>
    rw [withDefault_some] at h
    simp [h]

theorem asBool_orNull {o : Option Value} {x : Option Bool}
    (h : withDefault none (orNull Value.asBool) o = some x) :
    o.bind Value.asBool = some true ↔ x.getD false = true := by
  rcases orNull_spec h with ⟨rfl, hnull⟩ | ⟨v, b, rfl, hb, rfl⟩
  · cases o with
    | none => simp
    | some v =>
      rw [hnull v rfl]
      simp [Value.asBool]
  · simp [hb]

theorem RelayQualityConfig.enabled_of_value {v : Value} {quality : RelayQualityConfig}
    (h : RelayQualityConfig.ofValue v = some quality) :
    withDefault false Value.asBool (v.get "enabled") = some quality.enabled := by
  unfold RelayQualityConfig.ofValue at h
  obtain ⟨_, _, h⟩ := Option.bind_eq_some_iff.mp h
  obtain ⟨enabled, henabled, h⟩ := Option.bind_eq_some_iff.mp h
  iterate 20 obtain ⟨_, _, h⟩ := Option.bind_eq_some_iff.mp h
  cases h
  exact henabled

theorem quality_of_document (h : StarryConfigWire.ofValue document = some wire) :
    (document.pointer ["relay_quality", "enabled"]).bind Value.asBool = some true ↔
      wire.config.relayQuality.enabled = true := by
  unfold StarryConfigWire.ofValue at h
  simp only [Option.bind_eq_bind, Option.bind_eq_some_iff] at h
  obtain ⟨-, -, version, -, servers, -, tcp, -, mmdb, -, geo, -, signal, -, auth, -, quality,
    hquality, mode, -, heq⟩ := h
  cases heq
  rw [show ["relay_quality", "enabled"] = ["relay_quality"] ++ ["enabled"] from rfl, pointer_snoc]
  simp only [Value.pointer, StarryConfigWire.config]
  rcases orNull_spec hquality with ⟨rfl, hnull⟩ | ⟨v, read, hv, hread, rfl⟩
  · cases hv : document.get "relay_quality" with
    | none => simp
    | some v =>
      rw [hnull v hv]
      simp [Value.get]
  · rw [hv]
    simpa using asBool_withDefault (RelayQualityConfig.enabled_of_value hread)

theorem featureBlockers_eq_nil (h : StarryConfigWire.ofValue document = some wire) :
    featureBlockers document = [] ↔
      wire.config.fastMode.relay.fastMediaV1Enabled = false ∧
        (wire.config.fastMode.relay.fastCompatEnabled = true →
          wire.config.relayQuality.enabled = true) := by
  have hrelay := relay_of_document h
  have hsnoc : ∀ key, document.pointer ["fast_mode", "relay", key] =
      (document.pointer relayPath).bind (Value.get key) :=
    fun key => pointer_snoc relayPath key document
  have hfields : (((document.pointer relayPath).bind (Value.get "fast_media_v1_enabled")).bind
        Value.asBool = some true ↔ (wire.fastMode.getD {}).relay.fastMediaV1Enabled.getD false) ∧
      (((document.pointer relayPath).bind (Value.get "fast_compat_enabled")).bind
        Value.asBool = some true ↔ (wire.fastMode.getD {}).relay.fastCompatEnabled) := by
    cases hr : document.pointer relayPath with
    | none =>
      rw [hr] at hrelay
      rw [← Option.some.inj hrelay]
      simp
    | some r =>
      rw [hr, withDefault_some] at hrelay
      obtain ⟨hcompat, hmedia, -⟩ := FastRelayConfigWire.fields_of_value hrelay
      exact ⟨asBool_orNull hmedia, asBool_withDefault hcompat⟩
  unfold featureBlockers
  simp only [List.append_eq_nil_iff, ite_eq_right_iff, beq_iff_eq, Bool.and_eq_true, bne_iff_ne,
    hsnoc, hfields, ne_eq, quality_of_document h, reduceCtorEq, imp_false, not_and, Bool.not_eq_true,
    Bool.not_eq_false]
  rfl

/-- A drain state without anything left of FastMedia. -/
structure CleanDrain (now : Nat) (state : DrainState) : Prop where
  version : state.version = 1
  fresh : state.observedAtUnix ≤ satAdd now 30 ∧ now - state.observedAtUnix ≤ 60
  allocations : state.fastMediaActiveAllocations = 0
  authorizations : state.fastMediaActiveAuthorizations = 0
  streams : state.fastMediaActiveStreams = 0
  disabled : state.fastMediaRuntimeEnabled = false
  elapsed : state.lastFastMediaAuthorizationExpiresAtUnix ≤ now

theorem drainBlockers_eq_nil {now : Nat} {state : DrainState} :
    drainBlockers now (.ok state) = [] ↔ CleanDrain now state := by
  unfold drainBlockers
  simp only [List.append_eq_nil_iff, ite_eq_right_iff, reduceCtorEq, imp_false, not_or, not_not,
    Nat.not_lt, Bool.not_eq_true, gt_iff_lt, ne_eq]
  exact ⟨fun ⟨⟨⟨⟨hversion, hfresh⟩, hactive⟩, hdisabled⟩, helapsed⟩ =>
      ⟨hversion, hfresh, hactive.1, hactive.2.1, hactive.2.2, hdisabled, helapsed⟩,
    fun h => ⟨⟨⟨⟨h.version, h.fresh⟩, h.allocations, h.authorizations, h.streams⟩, h.disabled⟩,
      h.elapsed⟩⟩

/-- There are certificates, and each is valid for the rollback. -/
def LongEnough (env : Env) (now : Nat) (certificates : List String) : Prop :=
  certificates ≠ [] ∧ ∀ path ∈ certificates, ∃ remaining,
    certificateRemainingSeconds env now path = .ok remaining ∧
      minimumRollbackCertificateSeconds ≤ remaining

theorem certificateBlockers_eq_nil {now : Nat} {certificates : List String}
    (h : LongEnough env now certificates) : certificateBlockers env now certificates = [] := by
  unfold certificateBlockers
  rw [List.append_eq_nil_iff, List.flatMap_eq_nil_iff]
  refine ⟨if_neg (by simpa using h.1), fun path hpath => ?_⟩
  obtain ⟨remaining, hremaining, hlong⟩ := h.2 path hpath
  rw [hremaining, certificateBlocker, if_neg (Nat.not_lt.mpr hlong)]

/-- A text that is too large has a blocker. -/
theorem fits_of_validation (h : validationBlockers env text = []) :
    text.length ≤ maxConfigBytes := by
  by_contra hlarge
  have hparse : parseDocument env.toEnv text = .error (.single "CONFIG_TOO_LARGE" ""
      ("configuration is " ++ toString text.length ++ " bytes; maximum is " ++
        toString maxConfigBytes)) := if_pos (Nat.not_le.mp hlarge)
  rw [validationBlockers, hparse] at h
  cases h

theorem sortDedup_eq_nil {blockers : List String} : sortDedup blockers = [] ↔ blockers = [] := by
  unfold sortDedup
  rw [List.destutter_eq_nil, ← List.length_eq_zero_iff, List.length_mergeSort,
    List.length_eq_zero_iff]

/-! ## The export -/

/-- What the export has gone through when it reports. -/
structure Reported (env : Env) (now : Nat) (options : DowngradeOptions) (document : Value)
    (report : DowngradeReport) : Prop where
  version : (document.get "version").bind Value.asU64 = some 5
  written : env.write (exported document) = some report.document
  removed : report.removedJsonPointers = (removeV5OnlyFields document).2
  ready : report.ready = true → featureBlockers document = [] ∧
    validationBlockers env report.document = []

theorem previewOrExport_reported {now : Nat} {options : DowngradeOptions} {raw : Bytes}
    {report : DowngradeReport} (hraw : env.readFile options.input = some raw)
    (hvalue : env.readValue raw = some document)
    (h : previewOrExport env now options = .ok report) :
    Reported env now options document report := by
  unfold previewOrExport at h
  obtain ⟨_, -, h⟩ := bind_eq_ok.mp h
  obtain ⟨raw', hraw', h⟩ := bind_eq_ok.mp h
  cases hraw.symm.trans (orCode_ok.mp hraw')
  obtain ⟨document', hvalue', h⟩ := bind_eq_ok.mp h
  cases hvalue.symm.trans (orCode_ok.mp hvalue')
  obtain ⟨_, hversion, h⟩ := bind_eq_ok.mp h
  obtain ⟨text, htext, h⟩ := bind_eq_ok.mp h
  obtain ⟨_, -, h⟩ := bind_eq_ok.mp h
  cases h
  refine ⟨by simpa using hversion, orCode_ok.mp htext, rfl, fun hready => ?_⟩
  have hnone := List.isEmpty_iff.mp hready
  rw [exportBlockers, sortDedup_eq_nil] at hnone
  simp only [List.append_eq_nil_iff] at hnone
  exact ⟨hnone.1.1.1, hnone.2⟩

/-- For a document of version 5 whose readings agree: what is reported ready has kept its meaning,
and a document without FastMedia is reported ready once it is drained, if its text is not too
large. -/
theorem downgrade_preserves_meaning (now : Nat) (options : DowngradeOptions) {raw : Bytes}
    (hinput : env.validateRegularFile options.input maxConfigBytes = .ok ())
    (hraw : env.readFile options.input = some raw) (hreads : ReadsAs env raw document)
    (hwrites : WritesBack env (exported document))
    (hserializes : ∀ config, ∃ bytes, env.toVec config = .ok bytes)
    (haccepts : Accepts env raw validated) (hversion : validated.config.version = 5) :
    (∀ report, previewOrExport env now options = .ok report → report.ready = true →
      (∃ lowered, Accepts env report.document lowered ∧
        lowered.config = validated.config.lowered) ∧
      ∃ (removed : List (List Value.Token)) (v' : Value),
        report.removedJsonPointers = removed.map pathText ∧
        env.readValue report.document = some v' ∧
        ∀ path, path ∈ removed ↔ Lost document v' path) ∧
    (validated.config.fastMode.relay.fastMediaV1Enabled = false →
      (validated.config.fastMode.relay.fastCompatEnabled = true →
        validated.config.relayQuality.enabled = true) →
      (∃ state, drainStateOf env options = .ok state ∧ CleanDrain now state) →
      LongEnough env now options.certificates →
      (∀ text, env.write (exported document) = some text → text.length ≤ maxConfigBytes) →
      (∀ path ∈ options.output, ∀ text, env.atomicCreate path text = .ok ()) →
      ∃ report, previewOrExport env now options = .ok report ∧ report.ready = true) := by
  obtain ⟨wire, haccepted⟩ := haccepts.accepted
  have hwire : StarryConfigWire.ofValue document = some wire := by
    rw [← hreads.wire, haccepted.read]
    rfl
  have hkept := validate_kept haccepted.valid
  have hdocument : document.get "version" = some (.uint 5) :=
    version_of_document hwire (hkept.version.symm.trans hversion)
  obtain ⟨text, htext, hnonblank, hback⟩ := hwrites
  constructor
  · intro report hreport hready
    have hrep := previewOrExport_reported hraw hreads.value hreport
    cases htext.symm.trans hrep.written
    obtain ⟨hfeatures, hvalidation⟩ := hrep.ready hready
    obtain ⟨hmedia, hcompat⟩ := (featureBlockers_eq_nil hwire).mp hfeatures
    refine ⟨accepts_exported hserializes hback hnonblank (fits_of_validation hvalidation) hwire
      haccepted.valid (hkept.fastMode ▸ hmedia) ?_, removedPaths document, exported document,
      hrep.removed.trans (removeV5OnlyFields_snd document), hback.value,
      fun path => mem_removedPaths_iff_lost hwire hdocument⟩
    rw [hkept.fastMode, hkept.quality]
    exact hcompat
  · rintro hmedia hcompat ⟨state, hstate, hclean⟩ hcertificates hfits houtput
    obtain ⟨lowered, haccepts', -⟩ := accepts_exported hserializes hback hnonblank
      (hfits text htext) hwire haccepted.valid hmedia hcompat
    have hvalidation : validationBlockers env text = [] := by
      rw [validationBlockers, haccepts']
    have hfeatures : featureBlockers document = [] := by
      rw [hkept.fastMode] at hmedia hcompat
      rw [hkept.quality] at hcompat
      exact (featureBlockers_eq_nil hwire).mpr ⟨hmedia, hcompat⟩
    have hnone : exportBlockers env now options document text = [] := by
      rw [exportBlockers, sortDedup_eq_nil, hfeatures, hstate, drainBlockers_eq_nil.mpr hclean,
        certificateBlockers_eq_nil hcertificates, hvalidation]
      rfl
    have hwritten : writeOutput env text (exportBlockers env now options document text)
        options.output = .ok () := by
      cases hpath : options.output with
      | none => rfl
      | some path =>
        rw [hnone]
        exact houtput path hpath text
    refine ⟨_, bind_eq_ok.mpr ⟨(), hinput, bind_eq_ok.mpr ⟨raw, orCode_ok.mpr hraw,
      bind_eq_ok.mpr ⟨document, orCode_ok.mpr hreads.value, bind_eq_ok.mpr ⟨(), ?_,
        bind_eq_ok.mpr ⟨text, orCode_ok.mpr htext, bind_eq_ok.mpr ⟨(), hwritten, rfl⟩⟩⟩⟩⟩⟩, ?_⟩
    · rw [ensure_ok, hdocument]
      rfl
    · rw [hnone]
      rfl

/-! ## Concrete documents -/

def readAs (v : Value) : Except YamlError StarryConfigWire :=
  match StarryConfigWire.ofValue v with
  | some wire => .ok wire
  | none => .error ⟨"", none⟩

theorem readAs_toOption (v : Value) : (readAs v).toOption = StarryConfigWire.ofValue v := by
  unfold readAs
  cases StarryConfigWire.ofValue v <;> rfl

/-- Libraries that know one document and its export, and a certificate for two years. -/
def tableEnv (raw text : Bytes) (document : Value) : Env where
  readWire bytes := readAs (if bytes = raw then document else exported document)
  parseUrl _ := .error "relative URL without a base"
  parseHost _ := .ok .domain
  parseNetwork _ := .ok ()
  compileRules _ := .ok ()
  debug _ := "[]"
  toVec _ := .ok []
  sha256Digest _ := "sha256:"
  readValue bytes := some (if bytes = raw then document else exported document)
  write _ := some text
  readJson _ := none
  readCertificate _ := some (0, 63072000)
  validateRegularFile _ _ := .ok ()
  readFile path := some (if path = "starry.yaml" then raw else [])
  atomicCreate _ _ := .ok ()

def drainedOptions : DowngradeOptions where
  input := "starry.yaml"
  output := none
  runtimeState := none
  runtimeStateValue := some (.object [
    ("version", .uint 1),
    ("observed_at_unix", .uint 1000),
    ("fast_media_runtime_enabled", .bool false),
    ("fast_media_active_allocations", .uint 0),
    ("fast_media_active_authorizations", .uint 0),
    ("fast_media_active_streams", .uint 0),
    ("last_fast_media_authorization_expires_at_unix", .uint 0)])
  certificates := ["server.pem"]

section Table

variable {raw text : Bytes}

theorem tableEnv_reads : ReadsAs (tableEnv raw text document) raw document := by
  constructor
  · simp [tableEnv]
  · simp [tableEnv, readAs_toOption]

theorem tableEnv_writes (hne : text ≠ raw) (hnonblank : text.all isAsciiWhitespace = false) :
    WritesBack (tableEnv raw text document) (exported document) := by
  refine ⟨text, rfl, hnonblank, ?_, ?_⟩
  · simp [tableEnv, hne]
  · simp [tableEnv, hne, readAs_toOption]

theorem tableEnv_accepts (hwire : StarryConfigWire.ofValue document = some wire)
    (hfits : raw.length ≤ maxConfigBytes) (hnonblank : raw.all isAsciiWhitespace = false)
    (hversion : checkVersion wire = .ok ())
    (hvalid : validate (tableEnv raw text document).toEnv wire.config = .ok wire.config) :
    Accepts (tableEnv raw text document) raw ⟨wire.config, "sha256:", "sha256:"⟩ := by
  have hread : (tableEnv raw text document).readWire raw = .ok wire := by
    simp [tableEnv, readAs, hwire]
  refine bind_eq_ok.mpr ⟨⟨raw, wire⟩, ?_, ?_⟩
  · rw [parseDocument, if_neg (Nat.not_lt.mpr hfits), hnonblank, if_neg Bool.false_ne_true, hread]
  · refine bind_eq_ok.mpr ⟨(), hversion, bind_eq_ok.mpr ⟨wire.config, ?_, rfl⟩⟩
    rw [hvalid]
    rfl

theorem drained_clean : ∃ state, drainStateOf (tableEnv raw text document) drainedOptions =
    .ok state ∧ CleanDrain 1000 state :=
  ⟨⟨1, 1000, false, 0, 0, 0, 0⟩, parseDrainState_made 1000 0 0 0 0 false,
    rfl, by decide, rfl, rfl, rfl, rfl, by decide⟩

theorem certificates_long :
    LongEnough (tableEnv raw text document) 1000 drainedOptions.certificates := by
  refine ⟨by simp [drainedOptions], fun path hpath => ⟨63071000, ?_, by decide⟩⟩
  rfl

end Table

def sampleDocument : Value :=
  .object [
    ("version", .uint 5),
    ("fast_mode", .object [("relay", .object [
      ("fast_media_v1_enabled", .bool false), ("relay_max_datagram", .uint 1300)])])]

def sampleText : Bytes := asBytes
  "version: 5\nfast_mode:\n  relay:\n    fast_media_v1_enabled: false\n    relay_max_datagram: 1300\n"

def sampleExport : Bytes := asBytes "fast_mode:\n  relay: \x7b\x7d\nversion: 4\n"

def sampleWire : StarryConfigWire where
  version := 5
  fastMode := some { relay := { fastMediaV1Enabled := some false, relayMaxDatagram := some 1300 } }

/-- A Geo rule of which the relays are listed, in a document without Geo rules. -/
def namesDocument (names : List String) : Value :=
  .object [
    ("version", .uint 5),
    ("geo", .object [("rules", .array [.object [
      ("name", .string "a"), ("match", .object []), ("relays", .array (names.map .string))]])])]

def namesWire (names : List String) : StarryConfigWire where
  version := 5
  geo := { rules := [{ name := "a", expressions := {}, relays := names }] }

/-- The list in one line. -/
def flowText (n : Nat) : Bytes :=
  asBytes "version: 5\ngeo: \x7brules: [\x7bname: a, match: \x7b\x7d, relays: [" ++
    (List.replicate n (asBytes "a,")).flatten ++ asBytes "]\x7d]\x7d\n"

/-- The list as it is written, with a line for every item. -/
def blockText (n : Nat) : Bytes :=
  asBytes "geo:\n  rules:\n  - match: \x7b\x7d\n    name: a\n    relays:\n" ++
    (List.replicate n (asBytes "    - a\n")).flatten ++ asBytes "version: 4\n"

theorem sample_accepts : Accepts (tableEnv sampleText sampleExport sampleDocument) sampleText
    ⟨sampleWire.config, "sha256:", "sha256:"⟩ :=
  tableEnv_accepts rfl (by decide) (by decide) rfl
    (validate_default (fun _ _ => rfl) rfl rfl rfl)

theorem downgrade_preserves_meaning_sample :
    ∃ report, previewOrExport (tableEnv sampleText sampleExport sampleDocument) 1000
        drainedOptions = .ok report ∧ report.ready = true ∧
      (∃ lowered, Accepts (tableEnv sampleText sampleExport sampleDocument) report.document
          lowered ∧ lowered.config = sampleWire.config.lowered) ∧
      ∃ (removed : List (List Value.Token)) (v' : Value),
        report.removedJsonPointers = removed.map pathText ∧
        (tableEnv sampleText sampleExport sampleDocument).readValue report.document = some v' ∧
        ∀ path, path ∈ removed ↔ Lost sampleDocument v' path := by
  obtain ⟨hmeaning, hready⟩ := downgrade_preserves_meaning 1000 drainedOptions rfl rfl
    tableEnv_reads (tableEnv_writes (by decide) (by decide)) (fun _ => ⟨[], rfl⟩) sample_accepts rfl
  obtain ⟨report, hreport, hready⟩ := hready rfl (fun h => (nomatch h)) drained_clean
    certificates_long (fun text htext => by cases htext; decide) fun path hpath => (nomatch hpath)
  exact ⟨report, hreport, hready, hmeaning report hreport hready⟩

theorem namesDocument_wire (names : List String) :
    StarryConfigWire.ofValue (namesDocument names) = some (namesWire names) := by
  have hnames : asList asText (.array (names.map .string)) = some names := by
    simp only [asList]
    induction names with
    | nil => rfl
    | cons name names ih => simp [asText, ih]
  have hrule : GeoRuleConfig.ofValue (.object [("name", .string "a"), ("match", .object []),
      ("relays", .array (names.map .string))]) =
        some { name := "a", expressions := {}, relays := names } := by
    change (asList asText (.array (names.map .string))).bind _ = _
    rw [hnames]
    rfl
  have hgeo : GeoConfig.ofValue (.object [("rules", .array [.object [("name", .string "a"),
      ("match", .object []), ("relays", .array (names.map .string))]])]) =
        some { rules := [{ name := "a", expressions := {}, relays := names }] } := by
    change (([_] : List Value).mapM GeoRuleConfig.ofValue).bind _ = _
    rw [List.mapM_cons, hrule]
    rfl
  change (GeoConfig.ofValue _).bind _ = _
  rw [hgeo]
  rfl

theorem flowText_length (n : Nat) : (flowText n).length = 60 + 2 * n := by
  have hfirst : (asBytes "version: 5\ngeo: \x7brules: [\x7bname: a, match: \x7b\x7d, relays: [").length
      = 55 := by decide
  have hitem : (asBytes "a,").length = 2 := by decide
  have hlast : (asBytes "]\x7d]\x7d\n").length = 5 := by decide
  simp only [flowText, List.length_append, List.length_flatten, List.map_replicate,
    List.sum_replicate, hfirst, hitem, hlast, smul_eq_mul]
  omega

theorem blockText_length (n : Nat) : (blockText n).length = 63 + 8 * n := by
  have hfirst : (asBytes "geo:\n  rules:\n  - match: \x7b\x7d\n    name: a\n    relays:\n").length =
      52 := by decide
  have hitem : (asBytes "    - a\n").length = 8 := by decide
  have hlast : (asBytes "version: 4\n").length = 11 := by decide
  simp only [blockText, List.length_append, List.length_flatten, List.map_replicate,
    List.sum_replicate, hfirst, hitem, hlast, smul_eq_mul]
  omega

/-- The items of a list have a line each in the export, so a document that fits may have an export
that does not. -/
theorem long_list_not_ready :
    let names := List.replicate 150000 "a"
    let env := tableEnv (flowText 150000) (blockText 150000) (namesDocument names)
    (flowText 150000).length ≤ maxConfigBytes ∧
    env.readFile drainedOptions.input = some (flowText 150000) ∧
    ReadsAs env (flowText 150000) (namesDocument names) ∧
    WritesBack env (exported (namesDocument names)) ∧
    (∃ validated, Accepts env (flowText 150000) validated ∧ validated.config.version = 5 ∧
      validated.config.fastMode.relay.fastMediaV1Enabled = false ∧
      validated.config.fastMode.relay.fastCompatEnabled = false) ∧
    (∃ state, drainStateOf env drainedOptions = .ok state ∧ CleanDrain 1000 state) ∧
    LongEnough env 1000 drainedOptions.certificates ∧ drainedOptions.output = none ∧
    ¬ ∃ report, previewOrExport env 1000 drainedOptions = .ok report ∧ report.ready = true := by
  intro names env
  have hflow : (flowText 150000).length ≤ maxConfigBytes := by
    rw [flowText_length]
    decide
  have hblock : maxConfigBytes < (blockText 150000).length := by
    rw [blockText_length]
    decide
  have hne : blockText 150000 ≠ flowText 150000 := fun heq => by
    rw [heq] at hblock
    exact Nat.not_lt.mpr hflow hblock
  have hblank : ∀ n, (flowText n).all isAsciiWhitespace = false ∧
      (blockText n).all isAsciiWhitespace = false := fun n => ⟨rfl, rfl⟩
  refine ⟨hflow, rfl, tableEnv_reads, tableEnv_writes hne (hblank _).2,
    ⟨_, tableEnv_accepts (namesDocument_wire names) hflow (hblank _).1 rfl
      (validate_default (fun _ _ => rfl) rfl rfl rfl), rfl, rfl, rfl⟩,
    drained_clean, certificates_long, rfl, ?_⟩
  rintro ⟨report, hreport, hready⟩
  have hrep := previewOrExport_reported rfl tableEnv_reads.value hreport
  have hfits := fits_of_validation (hrep.ready hready).2
  have htext : blockText 150000 = report.document := Option.some.inj hrep.written
  rw [← htext] at hfits
  exact Nat.not_lt.mpr hfits hblock

end Starry.Downgrade
