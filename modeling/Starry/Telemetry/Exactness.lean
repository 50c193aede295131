import Starry.Hbbr.Replay
import Starry.Library.Base64
import Starry.Telemetry.Json
import Starry.Telemetry.Payload

/-!
# A response is accepted as it was meant

HBBR signs the payload together with the nonce of the request. HBBS checks the signature, the sizes,
the schema and the invariants of the values before it takes a word of it.
-/

open Library

namespace Starry.Telemetry

open Starry.ConfigStore (Value)
open Starry.Hbbr (Headers hexDecode hexDecodeTag hexNibble tagBytes boundedRequestHeader)
open Starry.RelayHealth (TelemetryEnvelope FastMediaTelemetryEnvelope Response validateTelemetry
  validateVersion relayTelemetry RelayEndpointConfig ProbeSuccess probe telemetryClockSkewMillis)
open Starry.RelayObserver (RelayLoadTelemetry)

/-! ## What the two programs call -/

/-- JSON as `serde_json` writes and reads it, and the authentication of `sodiumoxide`. -/
structure Codec where
  toVec : Value → Bytes
  fromSlice : Bytes → Option Value
  Key : Type
  authenticate : String → Key → Bytes
  verify : Bytes → String → Key → Bool

/-- What the two programs rely on. -/
structure Codec.Faithful (codec : Codec) : Prop where
  fromSlice_toVec : ∀ v, IsPlain v → codec.fromSlice (codec.toVec v) = some v
  toVec_size : ∀ v, IsPlain v → 0 < (codec.toVec v).length ∧ (codec.toVec v).length ≤ jsonSize v
  verify_authenticate : ∀ text key, codec.verify (codec.authenticate text key) text key = true
  tag_size : ∀ text key, (codec.authenticate text key).length = tagBytes

/-! ## The headers -/

def hexDigit (n : Nat) : Char :=
  if n < 10 then Char.ofNat ('0'.toNat + n) else Char.ofNat ('a'.toNat + (n - 10))

def hexEncode (value : Bytes) : String :=
  String.ofList (value.flatMap fun byte => [hexDigit (byte.toNat / 16), hexDigit (byte.toNat % 16)])

/-- `base64::encode_config` with `URL_SAFE_NO_PAD`. -/
def encodeBase64 (bytes : Bytes) : String := String.ofList (Base64.encode bytes)

/-- `base64::decode_config` with `URL_SAFE_NO_PAD`. -/
def decodeBase64 (text : String) : Option Bytes := Base64.decode text.toList

section

variable (codec : Codec)

def Payload.text (t : Payload) : String := encodeBase64 (codec.toVec t.toValue)

/-- What is signed of a response. -/
def responseText (nonce payload : String) : String :=
  "starry-telemetry-response-v1\n" ++ nonce ++ "\n" ++ payload

/-- The headers that `add_public_capability_headers` and `add_authenticated_telemetry_headers` put
on a response. -/
def responseHeaders (key : codec.Key) (version requestNonce payload : String) : Headers
  | "x-starry-version" => some version
  | "x-starry-relay-probe-protocol" => some "1"
  | "x-starry-relay-load-protocol" => some "1"
  | "x-starry-telemetry" => some payload
  | "x-starry-telemetry-auth" =>
    some (hexEncode (codec.authenticate (responseText requestNonce payload) key))
  | _ => none

structure TelemetryRequestContext where
  nonce : String
  key : codec.Key

/-- `bounded_header`, on a response. -/
def boundedHeader (response : Headers) (name : String) (maximum : Nat) : Option String :=
  boundedRequestHeader response name maximum

def headerU64 (response : Headers) (name : String) (maximum : Nat) : Option Nat :=
  (response name).bind fun raw =>
    if raw.isEmpty || decide (raw.utf8ByteSize > 20) || !raw.toList.all Char.isDigit then none
    else (parseUnsigned (2 ^ 64) raw).filter (· ≤ maximum)

def capabilityVersion (response : Headers) (name : String) : Option Nat :=
  (headerU64 response name u32Max).filter (0 < ·)

/-- `relay_telemetry` up to its envelope. -/
def openEnvelope (response : Headers) (context : TelemetryRequestContext codec) :
    Except String TelemetryEnvelope :=
  match boundedHeader response "x-starry-telemetry" 8192 with
  | none => .error "telemetry_missing"
  | some payload =>
    match boundedHeader response "x-starry-telemetry-auth" 128 with
    | none => .error "telemetry_auth_missing"
    | some signature =>
      match hexDecodeTag signature with
      | none => .error "telemetry_auth_invalid"
      | some tag =>
        if !codec.verify tag (responseText context.nonce payload) context.key then
          .error "telemetry_auth_invalid"
        else match decodeBase64 payload with
          | none => .error "telemetry_payload_invalid"
          | some decoded =>
            if decoded.length > 6144 then .error "telemetry_payload_invalid"
            else match (codec.fromSlice decoded).bind envelopeOfValue with
              | none => .error "telemetry_payload_invalid"
              | some envelope => .ok envelope

/-- What HBBS reads of a response. -/
def responseOf (response : Headers) (context : TelemetryRequestContext codec) : Response where
  version := response "x-starry-version"
  relayProbeProtocol := capabilityVersion response "x-starry-relay-probe-protocol"
  relayLoadProtocol := capabilityVersion response "x-starry-relay-load-protocol"
  telemetry := openEnvelope codec response context

end

/-! ## The signature -/

theorem hexNibble_hexDigit : ∀ n < 16, hexNibble (hexDigit n) = some n := by decide

theorem hexDigit_size : ∀ n < 16, (hexDigit n).utf8Size = 1 := by decide

theorem hexDecode_hexEncode (value : Bytes) : hexDecode (hexEncode value).toList = some value := by
  unfold hexEncode
  rw [String.toList_ofList]
  induction value with
  | nil => rfl
  | cons byte value ih =>
    have hlt := byte.toNat_lt
    have hbyte : UInt8.ofNat (byte.toNat / 16 * 16 + byte.toNat % 16) = byte := by
      rw [Nat.div_add_mod']
      exact UInt8.ofNat_toNat
    simp only [List.flatMap_cons, List.cons_append, List.nil_append, hexDecode, ih,
      hexNibble_hexDigit _ (Nat.mod_lt _ (by decide : 0 < 16)),
      hexNibble_hexDigit (byte.toNat / 16) (by omega)]
    change some (UInt8.ofNat (byte.toNat / 16 * 16 + byte.toNat % 16) :: value) = _
    rw [hbyte]

theorem hexEncode_size (value : Bytes) : (hexEncode value).utf8ByteSize = 2 * value.length := by
  unfold hexEncode
  rw [String.utf8ByteSize_ofList]
  induction value with
  | nil => rfl
  | cons byte value ih =>
    have hlt := byte.toNat_lt
    simp only [List.flatMap_cons, List.cons_append, List.nil_append, String.utf8Len_cons, ih,
      hexDigit_size _ (Nat.mod_lt _ (by decide : 0 < 16)),
      hexDigit_size (byte.toNat / 16) (by omega), List.length_cons]
    omega

theorem hexDecodeTag_hexEncode {tag : Bytes} (h : tag.length = tagBytes) :
    hexDecodeTag (hexEncode tag) = some tag := by
  unfold hexDecodeTag
  rw [hexEncode_size, h, if_neg (by decide), hexDecode_hexEncode]

/-! ## The schema -/

/-- A field is of the type that the schema has under its name. -/
def Fits (s : String × FieldType) (f : String × Value) : Prop :=
  s.1 = f.1 ∧ s.2.accepts f.2 = true

theorem names_eq {schema : Schema} {fields : List (String × Value)}
    (h : List.Forall₂ Fits schema fields) : schema.map Prod.fst = fields.map Prod.fst := by
  induction h with
  | nil => rfl
  | cons hhead _ ih => rw [List.map_cons, List.map_cons, hhead.1, ih]

theorem lookup_fits {schema : Schema} {fields : List (String × Value)}
    (hnames : (schema.map Prod.fst).Nodup) (h : List.Forall₂ Fits schema fields) :
    ∀ f ∈ fields, (schema.lookup f.1).any (fun type => type.accepts f.2) = true := by
  induction h with
  | nil => simp
  | @cons s f schema fields hhead htail ih =>
    rw [List.map_cons, List.nodup_cons] at hnames
    intro g hg
    rcases List.mem_cons.mp hg with rfl | hg
    · simp [List.lookup, hhead.1, hhead.2]
    · have hne : (g.1 == s.1) = false := by
        rw [beq_eq_false_iff_ne]
        intro heq
        apply hnames.1
        rw [names_eq htail, ← heq]
        exact List.mem_map_of_mem hg
      rw [show schema = schema from rfl, List.lookup_cons, hne]
      exact ih hnames.2 g hg

/-- Fields in the order of the schema. -/
theorem accepts_of_fits {schema : Schema} {fields : List (String × Value)}
    (hnames : (schema.map Prod.fst).Nodup) (h : List.Forall₂ Fits schema fields) :
    schema.accepts (.object fields) = true := by
  simp only [Schema.accepts, Bool.and_eq_true, decide_eq_true_eq, List.all_eq_true]
  refine ⟨⟨names_eq h ▸ hnames, lookup_fits hnames h⟩, fun s hs => ?_⟩
  have hmem : s.1 ∈ fields.map Prod.fst := names_eq h ▸ List.mem_map_of_mem hs
  obtain ⟨f, hf, hname⟩ := List.mem_map.mp hmem
  rw [Bool.or_eq_true, List.any_eq_true]
  exact .inr ⟨f, hf, beq_iff_eq.mpr hname⟩

theorem fastMediaFields_fit (t : Payload) :
    List.Forall₂ Fits fastMediaSchema (fastMediaFields t) := by
  have hu64 : ∀ n : UInt64, FieldType.u64.accepts (.uint n.toNat) = true := fun n =>
    decide_eq_true n.toNat_lt
  have hu16 : FieldType.u16.accepts (.uint t.fastMedia.udpPort.toNat) = true :=
    decide_eq_true t.fastMedia.udpPort.toNat_lt
  simp only [fastMediaSchema, fastMediaFields, List.forall₂_cons, List.forall₂_nil_left_iff, Fits,
    hu64, hu16, true_and, and_true]
  exact ⟨rfl, rfl, rfl⟩

theorem telemetryFields_fit {t : Payload} (h : t.Sound) :
    List.Forall₂ Fits telemetrySchema (telemetryFields t) := by
  have hu64 : ∀ n : UInt64, FieldType.u64.accepts (.uint n.toNat) = true := fun n =>
    decide_eq_true n.toNat_lt
  have hbig : ∀ n, n ≤ u64Max → FieldType.u64.accepts (.uint n) = true := fun n hn =>
    decide_eq_true (by unfold u64Max at hn; omega)
  have hu32 : ∀ n, n ≤ u32Max → FieldType.u32.accepts (.uint n) = true := fun n hn =>
    decide_eq_true (by unfold u32Max at hn; omega)
  simp only [telemetrySchema, telemetryFields, List.forall₂_cons, List.forall₂_nil_left_iff, Fits,
    hu64, true_and, and_true]
  refine ⟨hu32 _ (h.sessions.trans h.capacity.2), rfl, hbig _ h.bandwidth, rfl, hbig _ h.limit.2,
    hu32 _ h.capacity.2, rfl, rfl, hu32 _ (h.basis.trans (by decide)), hbig _ h.observed,
    hu32 _ h.pending, rfl, rfl, rfl, hbig _ h.sequence.2, rfl, hbig _ h.uptime, rfl⟩

theorem fastMediaOfValue_fields (t : Payload) : fastMediaOfValue (.object (fastMediaFields t)) =
    some ⟨1, t.fastMedia.enabled, t.fastMedia.healthy, t.fastMedia.udpPort⟩ := by
  unfold fastMediaOfValue
  rw [accepts_of_fits (by decide) (fastMediaFields_fit t)]
  change some (FastMediaTelemetryEnvelope.mk 1 t.fastMedia.enabled t.fastMedia.healthy
    (UInt16.ofNat t.fastMedia.udpPort.toNat)) = _
  rw [UInt16.ofNat_toNat]

theorem envelopeOfValue_toValue {t : Payload} (h : t.Sound) :
    envelopeOfValue t.toValue = some t.envelope := by
  unfold envelopeOfValue Payload.toValue
  rw [accepts_of_fits (by decide) (telemetryFields_fit h)]
  change ((fastMediaOfValue (.object (fastMediaFields t))).map some).bind
    (fun fastMedia => some { t.envelope with fastMedia }) = _
  rw [fastMediaOfValue_fields]
  rfl

/-! ## The sizes -/

theorem utf8Len_ascii {l : List Char} (h : ∀ c ∈ l, c.utf8Size = 1) :
    String.utf8Len l = l.length := by
  induction l with
  | nil => rfl
  | cons c l ih =>
    rw [String.utf8Len_cons, ih fun d hd => h d (List.mem_cons_of_mem _ hd), h c List.mem_cons_self,
      List.length_cons]

theorem decodeBase64_encodeBase64 (bytes : Bytes) :
    decodeBase64 (encodeBase64 bytes) = some bytes := by
  unfold decodeBase64 encodeBase64
  rw [String.toList_ofList, Base64.decode_encode]

theorem encodeBase64_size (bytes : Bytes) :
    (encodeBase64 bytes).utf8ByteSize = (4 * bytes.length + 2) / 3 := by
  have hsize : ∀ c ∈ Base64.encode bytes, c.utf8Size = 1 := by
    intro c hc
    obtain ⟨n, hn, rfl⟩ := Base64.mem_encode hc
    exact Base64.size_digit n hn
  unfold encodeBase64
  rw [String.utf8ByteSize_ofList, utf8Len_ascii hsize, Base64.length_encode]

theorem digits_size {n : Nat} (h : n ≤ u64Max) : (toString n).utf8ByteSize ≤ 20 := by
  have hdigit : ∀ c ∈ Nat.toDigits 10 n, c.utf8Size = 1 := by
    intro c hc
    have hc := Nat.isDigit_of_mem_toDigits (by decide) (by decide) hc
    rw [Char.utf8Size_eq_one_iff]
    simp only [Char.isDigit, Bool.and_eq_true, decide_eq_true_eq, UInt32.le_iff_toNat_le] at hc ⊢
    exact hc.2.trans (by decide)
  rw [← String.utf8Len_toList, Nat.toString_eq_repr, Nat.toList_repr, utf8Len_ascii hdigit,
    Nat.length_toDigits_le_iff (by decide) (by decide)]
  unfold u64Max at h
  omega

theorem fieldsSize_le {fields : List (String × Value)}
    (h : ∀ f ∈ fields, f.1.utf8ByteSize ≤ 40) :
    fieldsSize fields ≤ 44 * fields.length + (fields.map fun f => jsonSize f.2).sum := by
  induction fields with
  | nil => exact Nat.zero_le _
  | cons f fields ih =>
    have hhead := h f List.mem_cons_self
    have htail := ih fun g hg => h g (List.mem_cons_of_mem _ hg)
    simp only [fieldsSize, List.length_cons, List.map_cons, List.sum_cons]
    omega

/-- Every name in the two objects is a short one. -/
theorem names_short {schema : Schema} {fields : List (String × Value)}
    (h : List.Forall₂ Fits schema fields)
    (hshort : ∀ name ∈ schema.map Prod.fst, name.utf8ByteSize ≤ 40) :
    ∀ f ∈ fields, f.1.utf8ByteSize ≤ 40 := fun f hf =>
  hshort f.1 (names_eq h ▸ List.mem_map_of_mem hf)

theorem fastMedia_size (t : Payload) : fieldsSize (fastMediaFields t) ≤ 1408 := by
  have hsize := fieldsSize_le (names_short (fastMediaFields_fit t) (by decide))
  have hvalue : ∀ f ∈ fastMediaFields t, jsonSize f.2 ≤ 20 := by
    have hu64 : ∀ n : UInt64, (toString n.toNat).utf8ByteSize ≤ 20 := fun n =>
      digits_size (toNat_le_u64Max n)
    have hport : (toString t.fastMedia.udpPort.toNat).utf8ByteSize ≤ 20 :=
      digits_size (t.fastMedia.udpPort.toNat_lt.le.trans (by decide))
    have hprotocol : (toString 1).utf8ByteSize ≤ 20 := digits_size (by decide)
    simp only [fastMediaFields, List.forall_mem_cons, jsonSize, hu64, hport, hprotocol, true_and]
    decide
  have hsum := List.sum_le_card_nsmul ((fastMediaFields t).map fun f => jsonSize f.2) 20 (by
    intro n hn
    obtain ⟨f, hf, rfl⟩ := List.mem_map.mp hn
    exact hvalue f hf)
  rw [List.length_map, smul_eq_mul] at hsum
  have hlength : (fastMediaFields t).length = 22 := rfl
  omega

/-- The strings of a payload: a version, and the name of a process. -/
structure Payload.Named (t : Payload) : Prop where
  version : validateVersion t.version = some t.version
  nonempty : t.processInstanceId.isEmpty = false
  size : t.processInstanceId.utf8ByteSize ≤ 64
  name : (t.processInstanceId.toList.all fun c => c.isAlphanum || c == '-') = true

theorem validateVersion_self {version : String} (h : validateVersion version = some version) :
    version.utf8ByteSize ≤ 128 ∧ (version.toList.all fun c =>
      c.isAlphanum || c == '.' || c == '_' || c == '+' || c == '-') = true := by
  unfold validateVersion at h
  split at h
  · cases h
  · rename_i hvalid
    simp only [Bool.or_eq_true, not_or, decide_eq_true_eq, Bool.not_eq_true',
      Bool.not_eq_false] at hvalid
    exact ⟨Nat.not_lt.mp hvalid.1.2, hvalid.2⟩

theorem telemetry_size {t : Payload} (h : t.Sound) (hn : t.Named) : jsonSize t.toValue ≤ 4000 := by
  have hsize := fieldsSize_le (names_short (telemetryFields_fit h) (by decide))
  have hlength : (telemetryFields t).length = 24 := rfl
  have hu64 : ∀ n : UInt64, (toString n.toNat).utf8ByteSize ≤ 20 := fun n =>
    digits_size (toNat_le_u64Max n)
  have hu32 : ∀ n, n ≤ u32Max → (toString n).utf8ByteSize ≤ 20 := fun n hn =>
    digits_size (hn.trans (by decide))
  have hversion := (validateVersion_self hn.version).1
  have hid := hn.size
  have hmedia := fastMedia_size t
  have hsum : List.Forall₂ (· ≤ ·) ((telemetryFields t).map fun f => jsonSize f.2)
      [20, 5, 20, 20, 20, 20, 20, 5, 1410, 20, 20, 20, 20, 20, 20, 20, 66, 20, 20, 20, 20, 20, 20,
        130] := by
    simp only [telemetryFields, List.map_cons, List.map_nil, List.forall₂_cons,
      List.forall₂_nil_left_iff, jsonSize, hu64, le_refl, true_and, and_true]
    exact ⟨hu32 _ (h.sessions.trans h.capacity.2), digits_size h.bandwidth, hu32 _ (by decide),
      digits_size h.limit.2, hu32 _ h.capacity.2, by omega, hu32 _ (h.basis.trans (by decide)),
      digits_size h.observed, hu32 _ h.pending, by omega, hu32 _ (by decide), hu32 _ (by decide),
      digits_size h.sequence.2, hu32 _ (by decide), digits_size h.uptime, by omega⟩
  have hle := hsum.sum_le_sum
  rw [show [20, 5, 20, 20, 20, 20, 20, 5, 1410, 20, 20, 20, 20, 20, 20, 20, 66, 20, 20, 20, 20, 20,
    20, 130].sum = 1996 from rfl] at hle
  unfold Payload.toValue
  rw [jsonSize]
  omega

/-! ## The texts -/

/-- The characters of versions and of names of processes. -/
theorem isPlain_of_word {c : Char}
    (h : (c.isAlphanum || c == '.' || c == '_' || c == '+' || c == '-') = true) :
    isPlain c = true := by
  have hquote : c ≠ '"' := by
    rintro rfl
    exact absurd h (by decide)
  have hbackslash : c ≠ '\\' := by
    rintro rfl
    exact absurd h (by decide)
  have hrange : ' ' ≤ c ∧ c ≤ '~' := by
    simp only [Char.isAlphanum, Char.isAlpha, Char.isUpper, Char.isLower, Char.isDigit,
      Bool.or_eq_true, Bool.and_eq_true, decide_eq_true_eq, beq_iff_eq] at h
    have hbetween : ∀ first last : Char, ' ' ≤ first → last ≤ '~' → first.val ≤ c.val →
        c.val ≤ last.val → ' ' ≤ c ∧ c ≤ '~' := fun first last hfirst hlast hge hle =>
      ⟨UInt32.le_trans hfirst hge, UInt32.le_trans hle hlast⟩
    rcases h with ((((((hupper | hlower) | hdigit) | rfl) | rfl) | rfl) | rfl)
    · exact hbetween 'A' 'Z' (by decide) (by decide) hupper.1 hupper.2
    · exact hbetween 'a' 'z' (by decide) (by decide) hlower.1 hlower.2
    · exact hbetween '0' '9' (by decide) (by decide) hdigit.1 hdigit.2
    all_goals decide
  simp [isPlain, hquote, hbackslash, hrange]

theorem fieldsPlain_of_fits {schema : Schema} {fields : List (String × Value)}
    (h : List.Forall₂ Fits schema fields)
    (hplain : ∀ name ∈ schema.map Prod.fst, name.toList.all isPlain = true)
    (hvalue : ∀ f ∈ fields, IsPlain f.2) : FieldsPlain fields := by
  induction h with
  | nil => trivial
  | @cons s f schema fields hhead htail ih =>
    refine ⟨hhead.1 ▸ hplain s.1 List.mem_cons_self, hvalue f List.mem_cons_self, ?_⟩
    exact ih (fun name hname => hplain name (List.mem_cons_of_mem _ hname))
      fun g hg => hvalue g (List.mem_cons_of_mem _ hg)

theorem fastMedia_plain (t : Payload) : IsPlain (.object (fastMediaFields t)) := by
  refine ⟨names_eq (fastMediaFields_fit t) ▸ ?_,
    fieldsPlain_of_fits (fastMediaFields_fit t) (by decide) ?_⟩
  · decide
  · simp [fastMediaFields, IsPlain]

theorem version_plain {version : String} (h : validateVersion version = some version) :
    version.toList.all isPlain = true := by
  have hwords := (validateVersion_self h).2
  rw [List.all_eq_true] at hwords ⊢
  exact fun c hc => isPlain_of_word (hwords c hc)

theorem Payload.Named.id_plain {t : Payload} (hn : t.Named) :
    t.processInstanceId.toList.all isPlain = true := by
  have hname := hn.name
  rw [List.all_eq_true] at hname ⊢
  intro c hc
  apply isPlain_of_word
  have hc := hname c hc
  simp only [Bool.or_eq_true] at hc ⊢
  tauto

theorem telemetry_plain {t : Payload} (h : t.Sound) (hn : t.Named) : IsPlain t.toValue := by
  refine ⟨names_eq (telemetryFields_fit h) ▸ ?_,
    fieldsPlain_of_fits (telemetryFields_fit h) (by decide) ?_⟩
  · decide
  · have hmedia := fastMedia_plain t
    have hversion := version_plain hn.version
    have hid := hn.id_plain
    simp only [telemetryFields, List.forall_mem_cons, IsPlain, hversion, hid, true_and]
    exact ⟨hmedia, by simp⟩

/-! ## The whole way -/

theorem instanceValid_of_named {t : Payload} (hn : t.Named) :
    RelayHealth.instanceValid t.envelope = true := by
  unfold RelayHealth.instanceValid Payload.envelope
  simp [hn.nonempty, hn.size]
  simpa using hn.name

theorem schemaValid_of_sound {t : Payload} (h : t.Sound) :
    RelayHealth.schemaValid t.envelope = true := by
  have hport := h.listener.port
  have hhealthy := h.listener.healthy
  simp only [RelayHealth.schemaValid, Payload.envelope]
  cases henabled : t.fastMedia.enabled with
  | false =>
    have hsick : t.fastMedia.healthy = false := by
      cases hh : t.fastMedia.healthy with
      | false => rfl
      | true => exact absurd (hhealthy hh) (by simp [henabled])
    simp [hsick]
  | true => simp [hport henabled]

theorem validateTelemetry_envelope {t : Payload} (h : t.Sound) (hn : t.Named) {now : Nat}
    (hclock : t.observedAtUnixMs ≤ satAdd now telemetryClockSkewMillis) :
    validateTelemetry now t.envelope = .ok () := by
  unfold validateTelemetry
  rw [schemaValid_of_sound h, instanceValid_of_named hn]
  refine if_pos ?_
  have hadmission := h.admission
  simp [Payload.envelope, h.sequence.1, hclock, h.basis, h.sessions, h.capacity.1, h.limit.1,
    hadmission]

theorem boundedHeader_some {response : Headers} {name value : String} {maximum : Nat}
    (hvalue : response name = some value) (hpos : 0 < value.utf8ByteSize)
    (hle : value.utf8ByteSize ≤ maximum) : boundedHeader response name maximum = some value := by
  unfold boundedHeader boundedRequestHeader
  have hnonempty : value.isEmpty = false := by
    simp only [String.isEmpty, beq_eq_false_iff_ne]
    omega
  rw [hvalue]
  simp [Option.filter, hnonempty, hle]

section

variable {codec : Codec} {t : Payload}

theorem text_size (hc : codec.Faithful) (h : t.Sound) (hn : t.Named) :
    0 < (t.text codec).utf8ByteSize ∧ (t.text codec).utf8ByteSize ≤ 8192 := by
  have hsize := hc.toVec_size t.toValue (telemetry_plain h hn)
  have hjson := telemetry_size h hn
  unfold Payload.text
  rw [encodeBase64_size]
  omega

/-- The envelope of a response to this very request. -/
theorem openEnvelope_response (hc : codec.Faithful) (h : t.Sound) (hn : t.Named) (key : codec.Key)
    (version nonce : String) :
    openEnvelope codec (responseHeaders codec key version nonce (t.text codec)) ⟨nonce, key⟩ =
      .ok t.envelope := by
  have hsize := hc.toVec_size t.toValue (telemetry_plain h hn)
  have hjson := telemetry_size h hn
  have htext := text_size hc h hn
  have htag := hc.tag_size (responseText nonce (t.text codec)) key
  have hpayload : boundedHeader (responseHeaders codec key version nonce (t.text codec))
      "x-starry-telemetry" 8192 = some (t.text codec) :=
    boundedHeader_some rfl htext.1 htext.2
  have hsignature : boundedHeader (responseHeaders codec key version nonce (t.text codec))
      "x-starry-telemetry-auth" 128 =
        some (hexEncode (codec.authenticate (responseText nonce (t.text codec)) key)) := by
    apply boundedHeader_some rfl
    · rw [hexEncode_size, htag]
      decide
    · rw [hexEncode_size, htag]
      decide
  unfold openEnvelope
  rw [hpayload]
  dsimp only
  rw [hsignature]
  dsimp only
  rw [hexDecodeTag_hexEncode htag]
  dsimp only
  rw [hc.verify_authenticate]
  unfold Payload.text
  rw [decodeBase64_encodeBase64]
  dsimp only
  rw [if_neg (by simp), if_neg (by omega), hc.fromSlice_toVec _ (telemetry_plain h hn),
    Option.bind_some, envelopeOfValue_toValue h]

end

/-- A response to this very request is a success. -/
theorem probe_response {codec : Codec} (hc : codec.Faithful) {t : Payload} (h : t.Sound)
    (hn : t.Named) (key : codec.Key) (nonce : String) {endpoint : RelayEndpointConfig}
    (hsecret : endpoint.telemetrySecretFile.isSome = true) {now : Nat}
    (hclock : t.observedAtUnixMs ≤ satAdd now telemetryClockSkewMillis) (latencyMs : Nat) :
    probe endpoint now latencyMs (.ok (responseOf codec
      (responseHeaders codec key t.version nonce (t.text codec)) ⟨nonce, key⟩)) =
        .ok ⟨latencyMs, some t.version, some 1, some 1, some t.envelope.load⟩ := by
  have hopen := openEnvelope_response hc h hn key t.version nonce
  have hvalid := validateTelemetry_envelope h hn hclock
  have hversion : validateVersion t.envelope.version = some t.version := hn.version
  have hrelay : relayTelemetry now (responseOf codec
      (responseHeaders codec key t.version nonce (t.text codec)) ⟨nonce, key⟩) =
        .ok (t.version, 1, 1, t.envelope.load) := by
    unfold relayTelemetry
    rw [show (responseOf codec _ _).telemetry = .ok t.envelope from hopen]
    change validateTelemetry now t.envelope >>= _ = _
    rw [hvalid]
    change (match validateVersion t.envelope.version with | none => _ | some version => _) = _
    rw [hversion]
    rfl
  change (if endpoint.telemetrySecretFile.isSome = true then _ else _) = _
  rw [if_pos hsecret, hrelay]
  rfl

/-- A process has a valid version and a name that may stand in a payload. -/
structure Identity.Valid (identity : Identity) : Prop where
  version : validateVersion identity.starryVersion = some identity.starryVersion
  nonempty : identity.processInstanceId.isEmpty = false
  size : identity.processInstanceId.utf8ByteSize ≤ 64
  name : (identity.processInstanceId.toList.all fun c => c.isAlphanum || c == '-') = true

theorem Identity.Valid.named {identity : Identity} (h : identity.Valid) (r : Reading)
    (sequence : Nat) : (r.payload identity sequence).Named :=
  ⟨h.version, h.nonempty, h.size, h.name⟩

/-- `TELEMETRY_SEQUENCE.fetch_add(1)` and `saturating_add(1)`: the sequence of a payload, and the
counter after it. -/
def nextSequence (counter : UInt64) : Nat × UInt64 := (satAdd counter.toNat 1, counter + 1)

theorem nextSequence_range (counter : UInt64) :
    0 < (nextSequence counter).1 ∧ (nextSequence counter).1 ≤ u64Max := by
  simp only [nextSequence, satAdd, u64Max]
  omega

def sampleIdentity : Identity where
  processInstanceId := "0197f3c2-6d1a-7c3e-8b4f-5a6d7e8f9012"
  starryVersion := "1.1.14-patch-v1.3.1"
  maxRelaySessions := 10

/-- The sessions are read before one of them counts its 8000 bps, and the port of the listener
before it is bound. -/
def sampleReading : Reading where
  unixMillis := 90000
  uptimeSeconds := 60
  activeRelaySessions := 2
  activeRelayBandwidthBps := 8000
  listener := ⟨true, true, 21120⟩
  draining := false
  pendingRelayPairs := 2
  totalBandwidth := 64000
  counters := ⟨0, 0, 0, 0, 3, 0⟩
  fastMediaCounters := ⟨1, 2, 4, 0, 2, 0, 0, 0, 0, 0, 0, 512, 61440, 1, 0, 0, 0, 0⟩

theorem sampleIdentity_valid : sampleIdentity.Valid :=
  ⟨by decide, by decide, by decide, by decide⟩

theorem sampleReading_found : sampleReading.Found sampleIdentity := by
  have hsessions : exec (Hbbr.RelayLoad.step 10) (fun _ _ => true) .init
      [.tryNew false, .tryNew false] = some ⟨2, 0, [.held 0, .held 0]⟩ := by decide
  have hbandwidth : exec (Hbbr.RelayLoad.step 10) (fun _ _ => true) .init
      [.tryNew false, .tryNew false, .update 0 8000, .advance 0] =
        some ⟨2, 8000, [.adjusted 0 8000, .held 0]⟩ := by decide
  have hspawn : exec FastMediaListener.step (fun _ _ => true) .init [.spawn 21120] =
      some ⟨true, false, 21120⟩ := by decide
  have hbound : exec FastMediaListener.step (fun _ m => m.ofTask) ⟨true, false, 21120⟩ [.bound] =
      some ⟨true, true, 21120⟩ := by decide
  exact ⟨⟨_, ⟨_, .of_exec hsessions⟩, rfl⟩, ⟨_, ⟨_, .of_exec hbandwidth⟩, rfl⟩,
    _, _, _, _, ⟨_, .of_exec hspawn⟩, .refl _, .refl _, ⟨_, .of_exec hbound⟩, rfl⟩

def sampleEndpoint : RelayEndpointConfig where
  relay := "relay.example"
  url := "wss://relay.example/ws/relay"
  telemetrySecretFile := some "/etc/starry/telemetry.key"
  fastMediaUdpPort := some 21120

/-- What HBBS then knows of the relay. -/
def sampleTelemetry : RelayLoadTelemetry where
  telemetrySchema := 2
  processInstanceId := sampleIdentity.processInstanceId
  sequence := 7
  observedAtUnixMs := 90000
  uptimeSeconds := 60
  loadBasisPoints := 2000
  capacitySessions := 10
  capacityBandwidthBps := 64000
  draining := false
  fastMediaRelayUdp := some 1
  fastMediaUdpEnabled := some true
  fastMediaUdpHealthy := some true
  fastMediaUdpPort := some 21120

end Starry.Telemetry
