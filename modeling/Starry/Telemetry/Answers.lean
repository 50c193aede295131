import Starry.Library.Text
import Starry.Telemetry.Network

/-!
# What comes of a request

A request is not a response, and either has one nonce. So a response that HBBS accepts is the answer
to its own request, and of one process everything that is signed for a new nonce comes later than
what was signed before it was drawn.
-/

open Library

namespace Starry.Telemetry

open Starry.Hbbr (Headers SignedRequest TelemetryReplayCache authenticateTelemetryRequest
  checkTelemetryRequest boundedRequestHeader hexDecodeTag isAsciiHexdigit absDiff tagBytes
  telemetryAuthClockSkewSeconds)
open Starry.RelayHealth (RelayEndpointConfig ProbeSuccess Response TelemetryEnvelope probe)
open Starry.RelayObserver (RelayLoadTelemetry)

/-! ## What is signed -/

theorem isAsciiHexdigit_size {c : Char} (h : isAsciiHexdigit c = true) : c.utf8Size = 1 := by
  have hle : ∀ last : Char, last.val ≤ 127 → c ≤ last → c.utf8Size = 1 := fun last hlast hc =>
    Char.utf8Size_eq_one_iff.mpr (UInt32.le_trans hc hlast)
  simp only [isAsciiHexdigit, Char.isDigit, Bool.or_eq_true, Bool.and_eq_true,
    decide_eq_true_eq] at h
  rcases h with (hdigit | hlower) | hupper
  · exact hle '9' (by decide) hdigit.2
  · exact hle 'f' (by decide) hlower.2
  · exact hle 'F' (by decide) hupper.2

theorem length_of_simple {nonce : String} (h : isSimple nonce = true) :
    nonce.toList.length = 32 := by
  simp only [isSimple, Bool.and_eq_true, beq_iff_eq, List.all_eq_true] at h
  rw [← utf8Len_ascii fun c hc => isAsciiHexdigit_size (h.2 c hc), String.utf8Len_toList, h.1]

theorem around_inj {before between : String} {a a' b b' : String}
    (hlength : a.toList.length = a'.toList.length)
    (h : before ++ a ++ between ++ b = before ++ a' ++ between ++ b') : a = a' ∧ b = b' := by
  have hchars := congrArg String.toList h
  simp only [String.toList_append, List.append_assoc, List.append_cancel_left_eq] at hchars
  obtain ⟨ha, hrest⟩ := List.append_inj hchars hlength
  exact ⟨String.toList_inj.mp ha, String.toList_inj.mp (List.append_cancel_left hrest)⟩

theorem before_inj {a a' b b' after : String} (hlength : b.toList.length = b'.toList.length)
    (h : a ++ b ++ after = a' ++ b' ++ after) : b = b' := by
  have hchars := congrArg String.toList h
  simp only [String.toList_append, List.append_cancel_right_eq] at hchars
  exact String.toList_inj.mp (List.append_inj' hchars hlength).2

theorem responseText_inj {nonce nonce' payload payload' : String}
    (hlength : nonce.toList.length = nonce'.toList.length)
    (h : responseText nonce payload = responseText nonce' payload') :
    nonce = nonce' ∧ payload = payload' := around_inj hlength h

theorem canonical_inj {r r' : SignedRequest}
    (hlength : r.nonce.toList.length = r'.nonce.toList.length)
    (h : r.canonical = r'.canonical) : r.nonce = r'.nonce := before_inj hlength h

theorem canonical_start (r : SignedRequest) :
    ∃ rest, r.canonical = "starry-telemetry-request-v1\n" ++ rest := by
  have hassoc : ∀ a b c d e : String, a ++ b ++ c ++ d ++ e = a ++ (b ++ c ++ d ++ e) := by
    simp only [String.append_assoc, implies_true]
  exact ⟨_, hassoc ..⟩

theorem responseText_start (nonce payload : String) :
    ∃ rest, responseText nonce payload = "starry-telemetry-response-v1\n" ++ rest := by
  have hassoc : ∀ a b c d : String, a ++ b ++ c ++ d = a ++ (b ++ c ++ d) := by
    simp only [String.append_assoc, implies_true]
  exact ⟨_, hassoc ..⟩

/-- No request is a response. -/
theorem canonical_ne_responseText (r : SignedRequest) (nonce payload : String) :
    r.canonical ≠ responseText nonce payload := by
  intro h
  obtain ⟨rest, hrest⟩ := canonical_start r
  obtain ⟨rest', hrest'⟩ := responseText_start nonce payload
  have hrequest := Text.take_literal (n := 20) (Eq.refl "starry-telemetry-request-v1\n")
    (by decide) rest
  have hresponse := Text.take_literal (n := 20) (Eq.refl "starry-telemetry-response-v1\n")
    (by decide) rest'
  have htexts := hrest.symm.trans (h.trans hrest')
  have hstart := congrArg (fun text => text.toList.take 20) htexts
  exact absurd (hrequest.symm.trans (hstart.trans hresponse)) (by decide)

section

variable {codec : Codec}

theorem accept_request {key : codec.Key} {now : Nat} {headers : Headers}
    {cache cache' : TelemetryReplayCache} {nonce : String}
    (h : authenticateTelemetryRequest codec.verify (some key) now headers cache =
      (some nonce, cache')) :
    ∃ value tag, ∃ r : SignedRequest, headers "x-starry-telemetry-auth" = some value ∧
      hexDecodeTag value = some tag ∧ codec.verify tag r.canonical key = true ∧
      r.nonce = nonce ∧ isSimple nonce = true := by
  have hvalue : ∀ {name value : String} {maximum : Nat},
      boundedRequestHeader headers name maximum = some value → headers name = some value :=
    fun h => (Option.filter_eq_some_iff.mp h).1
  unfold authenticateTelemetryRequest at h
  split at h
  · cases h
  rename_i r hcheck
  obtain ⟨hnonce, -⟩ := Prod.mk.inj h
  split at hnonce
  swap
  · cases hnonce
  cases hnonce
  unfold checkTelemetryRequest at hcheck
  obtain ⟨key', hkey, hcheck⟩ := Option.bind_eq_some_iff.mp hcheck
  cases hkey
  obtain ⟨timestamp, -, hcheck⟩ := Option.bind_eq_some_iff.mp hcheck
  obtain ⟨t, -, hcheck⟩ := Option.bind_eq_some_iff.mp hcheck
  split at hcheck
  · cases hcheck
  obtain ⟨nonce, -, hcheck⟩ := Option.bind_eq_some_iff.mp hcheck
  split at hcheck
  · cases hcheck
  rename_i hsimple
  obtain ⟨signature, hsignature, hcheck⟩ := Option.bind_eq_some_iff.mp hcheck
  obtain ⟨tag, htag, hcheck⟩ := Option.bind_eq_some_iff.mp hcheck
  dsimp only at hcheck
  split at hcheck
  · rename_i hverify
    cases hcheck
    refine ⟨signature, tag, _, hvalue hsignature, htag, hverify, rfl, ?_⟩
    simpa [isSimple] using hsimple
  · cases hcheck

theorem Process.accept_of {p : Process codec} {now : Nat} {headers : Headers}
    {nonce : String}
    (h : (authenticateTelemetryRequest codec.verify (some p.key) now headers p.cache).1 =
      some nonce) :
    p.accept now headers = { p with
      cache := (authenticateTelemetryRequest codec.verify (some p.key) now headers p.cache).2
      answering := p.answering ++ [.accepted nonce] } := by
  unfold Process.accept
  generalize authenticateTelemetryRequest codec.verify (some p.key) now headers p.cache =
    result at h ⊢
  obtain ⟨nonce', cache⟩ := result
  cases h
  rfl

theorem digits_pos (n : Nat) : 0 < (toString n).utf8ByteSize := by
  rw [← String.utf8Len_toList, Nat.toString_eq_repr, Nat.toList_repr]
  exact Nat.pos_of_ne_zero fun h => Nat.toDigits_ne_nil (String.utf8Len_eq_zero.mp h)

/-- A request that arrives as it was signed, soon enough and for the first time, is accepted. -/
theorem Asked.accepted (hc : codec.Faithful) {q : Asked codec} (hsimple : isSimple q.nonce = true)
    (htime : q.unixSeconds ≤ u64Max) {now : Nat}
    (hclock : absDiff now q.unixSeconds ≤ telemetryAuthClockSkewSeconds)
    {cache : TelemetryReplayCache} (hfresh : q.nonce ∉ (cache.forget now).entries) :
    (authenticateTelemetryRequest codec.verify (some q.key) now q.headers cache).1 =
      some q.nonce := by
  have htag := hc.tag_size q.text q.key
  have hsize := hexEncode_size (codec.authenticate q.text q.key)
  have hnonce : q.nonce.utf8ByteSize = 32 ∧ q.nonce.toList.all isAsciiHexdigit = true := by
    simpa [isSimple] using hsimple
  have hlimit : q.unixSeconds < 2 ^ 64 := by
    unfold u64Max at htime
    omega
  have htimestamp : boundedRequestHeader q.headers "x-starry-telemetry-timestamp" 20 =
      some (toString q.unixSeconds) :=
    boundedHeader_some rfl (digits_pos _) (digits_size htime)
  have hheader : boundedRequestHeader q.headers "x-starry-telemetry-nonce" 32 = some q.nonce :=
    boundedHeader_some rfl (by omega) (by omega)
  have hsignature : boundedRequestHeader q.headers "x-starry-telemetry-auth" 64 =
      some (hexEncode (codec.authenticate q.text q.key)) := by
    rw [htag] at hsize
    exact boundedHeader_some rfl (hsize ▸ by decide) (hsize ▸ by decide)
  have hcheck : checkTelemetryRequest codec.verify (some q.key) now q.headers =
      some ⟨toString q.unixSeconds, q.nonce, hexEncode (codec.authenticate q.text q.key)⟩ := by
    unfold checkTelemetryRequest
    rw [htimestamp, hheader, hsignature]
    dsimp only [Option.bind_eq_bind, Option.bind_some]
    rw [parseUnsigned_toString hlimit]
    dsimp only [Option.bind_some]
    rw [if_neg (Nat.not_lt.mpr hclock), if_neg (by simp [hnonce]), hexDecodeTag_hexEncode htag]
    exact if_pos (hc.verify_authenticate q.text q.key)
  unfold authenticateTelemetryRequest
  rw [hcheck]
  dsimp only
  unfold TelemetryReplayCache.insertFresh
  rw [if_neg hfresh]
  rfl

theorem openEnvelope_ok {response : Headers} {context : TelemetryRequestContext codec}
    {envelope : TelemetryEnvelope} (h : openEnvelope codec response context = .ok envelope) :
    ∃ value tag payload decoded, response "x-starry-telemetry-auth" = some value ∧
      hexDecodeTag value = some tag ∧
      codec.verify tag (responseText context.nonce payload) context.key = true ∧
      decodeBase64 payload = some decoded ∧
      (codec.fromSlice decoded).bind envelopeOfValue = some envelope := by
  unfold openEnvelope at h
  split at h
  · cases h
  rename_i payload hpayload
  split at h
  · cases h
  rename_i value hvalue
  split at h
  · cases h
  rename_i tag htag
  split at h
  · cases h
  rename_i hverify
  split at h
  · cases h
  rename_i decoded hdecoded
  split at h
  · cases h
  split at h
  · cases h
  rename_i envelope' hopen
  cases h
  refine ⟨value, tag, payload, decoded, (Option.filter_eq_some_iff.mp hvalue).1, htag, ?_, hdecoded,
    hopen⟩
  simpa using hverify

theorem probe_load {endpoint : RelayEndpointConfig} {now latencyMs : Nat} {response : Response}
    {success : ProbeSuccess} {load : RelayLoadTelemetry}
    (h : probe endpoint now latencyMs (.ok response) = .ok success)
    (hload : success.load = some load) :
    endpoint.telemetrySecretFile.isSome = true ∧
      ∃ envelope, response.telemetry = .ok envelope ∧ load = envelope.load := by
  obtain ⟨response', hresponse, h⟩ := bind_eq_ok.mp h
  cases hresponse
  split at h
  · rename_i hsecret
    obtain ⟨⟨version, probeProtocol, loadProtocol, load'⟩, hrelay, h⟩ := bind_eq_ok.mp h
    obtain ⟨envelope, henvelope, hrelay⟩ := bind_eq_ok.mp hrelay
    obtain ⟨-, -, hrelay⟩ := bind_eq_ok.mp hrelay
    refine ⟨hsecret, envelope, henvelope, ?_⟩
    split at hrelay
    · cases hrelay
    cases hrelay
    dsimp only at h
    split at h
    · cases h
    cases h
    exact (Option.some.inj hload).symm
  · cases h
    cases hload

/-! ## What HBBR keeps to -/

/-- The sequence of a ticket, as long as the counter has not come around. -/
def Numbered (ticket sequence : Nat) : Prop :=
  (0 < sequence ∧ sequence ≤ u64Max) ∧ (ticket ≤ u64Max → sequence = ticket)

theorem numbered_next (fetched : Nat) :
    Numbered (fetched + 1) (nextSequence (UInt64.ofNat fetched)).1 := by
  refine ⟨nextSequence_range _, fun hle => ?_⟩
  unfold u64Max at hle
  simp only [nextSequence, satAdd, UInt64.toNat_ofNat', u64Max]
  omega

structure Process.Kept (p : Process codec) (asked : List (Asked codec)) : Prop where
  valid : p.identity.Valid
  counter : p.counter = UInt64.ofNat p.fetched
  asked : ∀ x ∈ p.answering, ∃ q ∈ asked, q.nonce = x.nonce
  drawn : ∀ nonce ticket sequence, .drawn nonce ticket sequence ∈ p.answering →
    ticket ≤ p.fetched ∧ Numbered ticket sequence

structure Answer.Kept (a : Answer codec) (w : World codec) : Prop where
  found : a.reading.Found a.identity
  valid : a.identity.Valid
  numbered : Numbered a.ticket a.sequence
  asked : ∃ q ∈ w.asked, q.nonce = a.nonce
  process : ∃ p, w.processes[a.process]? = some p ∧ p.identity = a.identity ∧
    a.ticket ≤ p.fetched ∧ a.reading.uptimeSeconds.toNat ≤ p.uptimeSeconds

structure World.Known (w : World codec) : Prop where
  nonces : (w.asked.map (·.nonce)).Nodup
  simple : ∀ q ∈ w.asked, isSimple q.nonce = true
  names : (w.processes.map (·.identity.processInstanceId)).Nodup
  processes : ∀ p ∈ w.processes, p.Kept w.asked
  answers : ∀ a ∈ w.answers, a.Kept w

/-- What a process does in one step. -/
structure Process.Works (p p' : Process codec) (k : Nat) (asked : List (Asked codec))
    (new : List (Answer codec)) : Prop where
  identity : p'.identity = p.identity
  fetched : p.fetched ≤ p'.fetched
  uptime : p.uptimeSeconds ≤ p'.uptimeSeconds
  kept : p'.Kept asked
  drawn : ∀ nonce ticket sequence, .drawn nonce ticket sequence ∈ p'.answering →
    .drawn nonce ticket sequence ∈ p.answering ∨ p.fetched < ticket
  new : ∀ a ∈ new, a.process = k ∧ a.identity = p.identity ∧ a.reading.Found p.identity ∧
    .drawn a.nonce a.ticket a.sequence ∈ p.answering ∧
    p.uptimeSeconds ≤ a.reading.uptimeSeconds.toNat ∧
    a.reading.uptimeSeconds.toNat ≤ p'.uptimeSeconds

/-- What a step changes of HBBR and of the requests. -/
inductive World.Effect (w w' : World codec) : Prop
  | none (processes : w'.processes = w.processes) (asked : w'.asked = w.asked)
    (answers : w'.answers = w.answers)
  | asked (q : Asked codec) (simple : isSimple q.nonce = true)
    (fresh : q.nonce ∉ w.asked.map (·.nonce)) (processes : w'.processes = w.processes)
    (asked : w'.asked = w.asked ++ [q]) (answers : w'.answers = w.answers)
  | started (identity : Identity) (key : codec.Key) (valid : identity.Valid)
    (fresh : identity.processInstanceId ∉ w.processes.map (·.identity.processInstanceId))
    (processes : w'.processes = w.processes ++ [.start identity key]) (asked : w'.asked = w.asked)
    (answers : w'.answers = w.answers)
  | worked (k : Nat) (p p' : Process codec) (new : List (Answer codec))
    (here : w.processes[k]? = some p) (works : p.Works p' k w.asked new)
    (processes : w'.processes = w.processes.set k p') (asked : w'.asked = w.asked)
    (answers : w'.answers = w.answers ++ new)

section Processes

variable {w : World codec} {p p' : Process codec} {headers : Headers} {now k j : Nat}

/-- A request that is accepted was asked. -/
theorem World.Known.asked_of_accept (hw : w.Known) (hforged : w.Unforged headers)
    {cache cache' : TelemetryReplayCache} {nonce : String}
    (h : authenticateTelemetryRequest codec.verify (some p.key) now headers cache =
      (some nonce, cache')) : ∃ q ∈ w.asked, q.nonce = nonce := by
  obtain ⟨value, tag, r, hvalue, htag, hverify, rfl, hsimple⟩ := accept_request h
  rcases hforged value tag hvalue htag _ _ hverify with ⟨q, hq, -, htext⟩ | ⟨a, -, -, htext⟩
  · refine ⟨q, hq, canonical_inj (r := ⟨toString q.unixSeconds, q.nonce, ""⟩) ?_ htext⟩
    exact (length_of_simple (hw.simple q hq)).trans (length_of_simple hsimple).symm
  · exact absurd htext.symm (canonical_ne_responseText _ _ _)

theorem Process.Kept.accept (hp : p.Kept w.asked) (hw : w.Known) (hforged : w.Unforged headers) :
    p.Works (p.accept now headers) k w.asked [] := by
  unfold Process.accept
  cases hresult : authenticateTelemetryRequest codec.verify (some p.key) now headers p.cache with
  | mk nonce cache =>
    have hsame : ∀ nonce' ticket sequence, .drawn nonce' ticket sequence ∈
        p.answering ++ nonce.toList.map .accepted →
          .drawn nonce' ticket sequence ∈ p.answering := by
      intro nonce' ticket sequence hmem
      simpa using hmem
    refine ⟨rfl, Nat.le_refl _, Nat.le_refl _, ⟨hp.valid, hp.counter, fun x hx => ?_,
      fun nonce' ticket sequence hmem => hp.drawn _ _ _ (hsame _ _ _ hmem)⟩,
      fun nonce' ticket sequence hmem => .inl (hsame _ _ _ hmem), by simp⟩
    rcases List.mem_append.mp hx with hx | hx
    · exact hp.asked x hx
    · obtain ⟨nonce', hnonce', rfl⟩ := List.mem_map.mp hx
      rw [Option.mem_toList] at hnonce'
      cases hnonce'
      exact hw.asked_of_accept hforged hresult

theorem Process.Kept.draw {asked : List (Asked codec)} (hp : p.Kept asked)
    (h : p.draw j = some p') : p.Works p' k asked [] := by
  unfold Process.draw at h
  split at h
  swap
  · cases h
  rename_i nonce hnonce
  cases h
  refine ⟨rfl, Nat.le_succ _, Nat.le_refl _, ⟨hp.valid, ?_, fun x hx => ?_,
    fun nonce' ticket sequence hmem => ?_⟩, fun nonce' ticket sequence hmem => ?_, by simp⟩
  · simp [hp.counter]
  · rcases List.mem_or_eq_of_mem_set hx with hx | rfl
    · exact hp.asked x hx
    · obtain ⟨q, hq, heq⟩ := hp.asked _ (List.mem_of_getElem? hnonce)
      exact ⟨q, hq, heq⟩
  · rcases List.mem_or_eq_of_mem_set hmem with hmem | heq
    · obtain ⟨hle, hnumbered⟩ := hp.drawn _ _ _ hmem
      exact ⟨Nat.le_succ_of_le hle, hnumbered⟩
    · cases heq
      exact ⟨Nat.le_refl _, hp.counter ▸ numbered_next p.fetched⟩
  · rcases List.mem_or_eq_of_mem_set hmem with hmem | heq
    · exact .inl hmem
    · cases heq
      exact .inr (Nat.lt_succ_self _)

theorem Process.Kept.sign {asked : List (Asked codec)} {r : Reading} {a : Answer codec}
    (hp : p.Kept asked) (hfound : r.Found p.identity) (h : p.sign k j r = some (a, p')) :
    p.Works p' k asked [a] := by
  unfold Process.sign at h
  split at h
  swap
  · cases h
  rename_i nonce ticket sequence hdrawn
  split at h
  · cases h
  rename_i huptime
  cases h
  refine ⟨rfl, Nat.le_refl _, Nat.not_lt.mp huptime, ⟨hp.valid, hp.counter,
    fun x hx => hp.asked x (List.mem_of_mem_eraseIdx hx),
    fun _ _ _ hmem => hp.drawn _ _ _ (List.mem_of_mem_eraseIdx hmem)⟩,
    fun _ _ _ hmem => .inl (List.mem_of_mem_eraseIdx hmem), fun a ha => ?_⟩
  rw [List.mem_singleton.mp ha]
  exact ⟨rfl, rfl, hfound, List.mem_of_getElem? hdrawn, Nat.not_lt.mp huptime, Nat.le_refl _⟩

end Processes

variable {w w' : World codec} {m : Move codec}

theorem World.Known.effect (hw : w.Known) (h : w.Next m w') : w.Effect w' := by
  obtain ⟨hallowed, hstep⟩ := h
  cases m with
  | cycle m =>
    cases m with
    | collected results => cases hstep
    | number enabled config =>
      obtain ⟨health, -, rfl⟩ := Option.map_eq_some_iff.mp hstep
      exact .none rfl rfl rfl
    | write i =>
      obtain ⟨health, -, rfl⟩ := Option.map_eq_some_iff.mp hstep
      exact .none rfl rfl rfl
    | read =>
      obtain ⟨health, -, rfl⟩ := Option.map_eq_some_iff.mp hstep
      exact .none rfl rfl rfl
    | advance =>
      obtain ⟨health, -, rfl⟩ := Option.map_eq_some_iff.mp hstep
      exact .none rfl rfl rfl
  | ask i key unixMillis nonce =>
    simp only [World.step] at hstep
    split at hstep
    · split at hstep
      · cases hstep
        exact .asked _ hallowed.1 hallowed.2 rfl rfl rfl
      · cases hstep
        exact .none rfl rfl rfl
    · cases hstep
  | receive i now latencyMs response =>
    simp only [World.step] at hstep
    split at hstep
    · cases hstep
      exact .none rfl rfl rfl
    · cases hstep
  | fail i code =>
    simp only [World.step] at hstep
    split at hstep
    · cases hstep
      exact .none rfl rfl rfl
    · cases hstep
      exact .none rfl rfl rfl
    · cases hstep
  | collect =>
    obtain ⟨health, -, rfl⟩ := Option.map_eq_some_iff.mp hstep
    exact .none rfl rfl rfl
  | start identity key =>
    cases hstep
    exact .started identity key hallowed.1 hallowed.2 rfl rfl rfl
  | accept k now headers =>
    obtain ⟨p, hp, rfl⟩ := Option.map_eq_some_iff.mp hstep
    have hkept := hw.processes p (List.mem_of_getElem? hp)
    exact .worked k p _ [] hp (hkept.accept hw hallowed) rfl rfl (List.append_nil _).symm
  | draw k j =>
    obtain ⟨p', hp', rfl⟩ := Option.map_eq_some_iff.mp hstep
    obtain ⟨p, hp, hdraw⟩ := Option.bind_eq_some_iff.mp hp'
    have hkept := hw.processes p (List.mem_of_getElem? hp)
    exact .worked k p p' [] hp (hkept.draw hdraw) rfl rfl (List.append_nil _).symm
  | sign k j r =>
    obtain ⟨⟨a, p'⟩, hp', rfl⟩ := Option.map_eq_some_iff.mp hstep
    obtain ⟨p, hp, hsign⟩ := Option.bind_eq_some_iff.mp hp'
    have hkept := hw.processes p (List.mem_of_getElem? hp)
    exact .worked k p p' [a] hp (hkept.sign (hallowed p hp) hsign) rfl rfl rfl

/-- Nothing of this is lost. -/
structure World.Grown (w w' : World codec) : Prop where
  asked : ∀ q ∈ w.asked, q ∈ w'.asked
  answers : ∀ a ∈ w.answers, a ∈ w'.answers
  processes : ∀ (k : Nat) (p : Process codec), w.processes[k]? = some p →
    ∃ p' : Process codec, w'.processes[k]? = some p' ∧ p'.identity = p.identity ∧
      p.fetched ≤ p'.fetched ∧ p.uptimeSeconds ≤ p'.uptimeSeconds

theorem World.Effect.grown (h : w.Effect w') : w.Grown w' := by
  cases h with
  | none hprocesses hasked hanswers =>
    refine ⟨fun q hq => hasked ▸ hq, fun a ha => hanswers ▸ ha, fun k p hp => ?_⟩
    exact ⟨p, hprocesses ▸ hp, rfl, Nat.le_refl _, Nat.le_refl _⟩
  | asked q _ _ hprocesses hasked hanswers =>
    refine ⟨fun q hq => hasked ▸ List.mem_append_left _ hq, fun a ha => hanswers ▸ ha,
      fun k p hp => ?_⟩
    exact ⟨p, hprocesses ▸ hp, rfl, Nat.le_refl _, Nat.le_refl _⟩
  | started identity key _ _ hprocesses hasked hanswers =>
    refine ⟨fun q hq => hasked ▸ hq, fun a ha => hanswers ▸ ha, fun k p hp => ?_⟩
    refine ⟨p, ?_, rfl, Nat.le_refl _, Nat.le_refl _⟩
    rw [hprocesses, List.getElem?_append_left (List.getElem?_eq_some_iff.mp hp).1, hp]
  | worked k p p' new hhere hworks hprocesses hasked hanswers =>
    refine ⟨fun q hq => hasked ▸ hq, fun a ha => hanswers ▸ List.mem_append_left _ ha,
      fun i u hu => ?_⟩
    rw [hprocesses, List.getElem?_set]
    split
    · rename_i hk
      subst hk
      cases hhere.symm.trans hu
      rw [if_pos (List.getElem?_eq_some_iff.mp hhere).1]
      exact ⟨p', rfl, hworks.identity, hworks.fetched, hworks.uptime⟩
    · exact ⟨u, hu, rfl, Nat.le_refl _, Nat.le_refl _⟩

theorem Answer.Kept.grow {a : Answer codec} (h : a.Kept w) (hgrown : w.Grown w') : a.Kept w' := by
  obtain ⟨q, hq, hnonce⟩ := h.asked
  obtain ⟨p, hp, hidentity, hticket, huptime⟩ := h.process
  obtain ⟨p', hp', hidentity', hfetched, hlater⟩ := hgrown.processes _ p hp
  exact ⟨h.found, h.valid, h.numbered, ⟨q, hgrown.asked q hq, hnonce⟩,
    ⟨p', hp', hidentity'.trans hidentity, hticket.trans hfetched, huptime.trans hlater⟩⟩

theorem Process.Kept.mono {p : Process codec} {asked asked' : List (Asked codec)}
    (h : p.Kept asked) (hsub : ∀ q ∈ asked, q ∈ asked') : p.Kept asked' := by
  refine ⟨h.valid, h.counter, fun x hx => ?_, h.drawn⟩
  obtain ⟨q, hq, hnonce⟩ := h.asked x hx
  exact ⟨q, hsub q hq, hnonce⟩

/-- A process keeps its name. -/
theorem names_set {processes : List (Process codec)} {k : Nat} {p p' : Process codec}
    (hhere : processes[k]? = some p) (hidentity : p'.identity = p.identity) :
    (processes.set k p').map (·.identity.processInstanceId) =
      processes.map (·.identity.processInstanceId) := by
  apply List.ext_getElem?
  intro i
  rw [List.map_set, List.getElem?_set]
  split
  · rename_i hk
    subst hk
    have hlt := (List.getElem?_eq_some_iff.mp hhere).1
    rw [if_pos (by simpa using hlt), List.getElem?_map, hhere, Option.map_some, hidentity]
  · rfl

theorem World.Known.init : (World.init : World codec).Known := by
  constructor <;> simp [World.init]

theorem World.Known.step (hw : w.Known) (h : w.Effect w') : w'.Known := by
  have hgrown := h.grown
  cases h with
  | none hprocesses hasked hanswers =>
    refine ⟨hasked ▸ hw.nonces, hasked ▸ hw.simple, hprocesses ▸ hw.names, ?_, fun a ha => ?_⟩
    · rw [hprocesses, hasked]
      exact hw.processes
    · rw [hanswers] at ha
      exact (hw.answers a ha).grow hgrown
  | asked q hsimple hfresh hprocesses hasked hanswers =>
    refine ⟨?_, fun q' hq' => ?_, hprocesses ▸ hw.names, fun p hp => ?_, fun a ha => ?_⟩
    · rw [hasked, List.map_append, List.nodup_append]
      refine ⟨hw.nonces, List.nodup_singleton _, fun x hx y hy => ?_⟩
      rw [List.mem_singleton.mp hy]
      rintro rfl
      exact hfresh hx
    · rw [hasked] at hq'
      rcases List.mem_append.mp hq' with hq' | hq'
      · exact hw.simple q' hq'
      · rw [List.mem_singleton.mp hq']
        exact hsimple
    · rw [hprocesses] at hp
      exact (hw.processes p hp).mono hgrown.asked
    · rw [hanswers] at ha
      exact (hw.answers a ha).grow hgrown
  | started identity key hvalid hfresh hprocesses hasked hanswers =>
    refine ⟨hasked ▸ hw.nonces, hasked ▸ hw.simple, ?_, fun p hp => ?_, fun a ha => ?_⟩
    · rw [hprocesses, List.map_append, List.nodup_append]
      refine ⟨hw.names, List.nodup_singleton _, fun x hx y hy => ?_⟩
      rw [List.mem_singleton.mp hy]
      rintro rfl
      exact hfresh hx
    · rw [hprocesses] at hp
      rcases List.mem_append.mp hp with hp | hp
      · exact hasked ▸ hw.processes p hp
      · rw [List.mem_singleton.mp hp]
        exact ⟨hvalid, rfl, nofun, nofun⟩
    · rw [hanswers] at ha
      exact (hw.answers a ha).grow hgrown
  | worked k p p' new hhere hworks hprocesses hasked hanswers =>
    have hp := hw.processes p (List.mem_of_getElem? hhere)
    refine ⟨hasked ▸ hw.nonces, hasked ▸ hw.simple, ?_, fun u hu => ?_, fun a ha => ?_⟩
    · rw [hprocesses, names_set hhere hworks.identity]
      exact hw.names
    · rw [hprocesses] at hu
      rw [hasked]
      rcases List.mem_or_eq_of_mem_set hu with hu | rfl
      · exact hw.processes u hu
      · exact hworks.kept
    · rw [hanswers] at ha
      rcases List.mem_append.mp ha with ha | ha
      · exact (hw.answers a ha).grow hgrown
      · obtain ⟨hk, hidentity, hfound, hdrawn, -, hlast⟩ := hworks.new a ha
        obtain ⟨hticket, hnumbered⟩ := hp.drawn _ _ _ hdrawn
        obtain ⟨q, hq, hnonce⟩ := hp.asked _ hdrawn
        refine ⟨hidentity ▸ hfound, hidentity ▸ hp.valid, hnumbered, ⟨q, hasked ▸ hq, hnonce⟩, p',
          ?_, hworks.identity.trans hidentity.symm, hticket.trans hworks.fetched, hlast⟩
        rw [hprocesses, hk, List.getElem?_set_self (List.getElem?_eq_some_iff.mp hhere).1]

/-! ## What a result stands for -/

section Results

variable {a a' : Answer codec} {nonce : String}

/-- What HBBS takes out of a response is what HBBR has put into the answer to its nonce. -/
theorem World.Known.received (hw : w.Known) (hc : codec.Faithful) {response : Headers}
    (hforged : w.Unforged response) {context : TelemetryRequestContext codec}
    (hsimple : isSimple context.nonce = true) {endpoint : RelayEndpointConfig}
    {now latencyMs : Nat} {success : ProbeSuccess} {load : RelayLoadTelemetry}
    (h : probe endpoint now latencyMs (.ok (received codec response (some context))) = .ok success)
    (hload : success.load = some load) :
    ∃ a ∈ w.answers, a.nonce = context.nonce ∧ a.key = context.key ∧
      load = a.payload.envelope.load := by
  obtain ⟨-, envelope, henvelope, rfl⟩ := probe_load h hload
  obtain ⟨value, tag, payload, decoded, hvalue, htag, hverify, hdecoded, hopen⟩ :=
    openEnvelope_ok henvelope
  rcases hforged value tag hvalue htag _ _ hverify with ⟨q, -, -, htext⟩ | ⟨a, ha, hkey, htext⟩
  · exact absurd htext (canonical_ne_responseText _ _ _)
  · have hkept := hw.answers a ha
    obtain ⟨q, hq, hnonce⟩ := hkept.asked
    have hlength : a.nonce.toList.length = context.nonce.toList.length := by
      rw [← hnonce, length_of_simple (hw.simple q hq), length_of_simple hsimple]
    obtain ⟨hsame, rfl⟩ := responseText_inj hlength htext
    refine ⟨a, ha, hsame, hkey, ?_⟩
    have hsound : a.payload.Sound := payload_sound hkept.found hkept.numbered.1
    rw [Payload.text, decodeBase64_encodeBase64] at hdecoded
    cases hdecoded
    rw [hc.fromSlice_toVec _ (telemetry_plain hsound (hkept.valid.named _ _)), Option.bind_some,
      envelopeOfValue_toValue hsound] at hopen
    rw [Option.some.inj hopen]

/-- Of one process, the second has the later ticket and no earlier clock. -/
def Answer.Before (a a' : Answer codec) : Prop :=
  a'.process = a.process → a.ticket < a'.ticket ∧
    a.reading.uptimeSeconds.toNat ≤ a'.reading.uptimeSeconds.toNat

/-- All that is ever signed for the nonce comes after the answer. -/
structure World.After (w : World codec) (a : Answer codec) (nonce : String) : Prop where
  answers : ∀ a' ∈ w.answers, a'.nonce = nonce → a.Before a'
  drawn : ∀ p : Process codec, w.processes[a.process]? = some p → ∀ ticket sequence,
    .drawn nonce ticket sequence ∈ p.answering → a.ticket < ticket

/-- Nobody has heard of a nonce before it is asked. -/
theorem World.Known.after_fresh (hw : w.Known) (hfresh : nonce ∉ w.asked.map (·.nonce)) :
    w.After a nonce := by
  refine ⟨fun a' ha' hnonce => ?_, fun p hp ticket sequence hdrawn => ?_⟩
  · obtain ⟨q, hq, heq⟩ := (hw.answers a' ha').asked
    exact absurd (List.mem_map.mpr ⟨q, hq, heq.trans hnonce⟩) hfresh
  · obtain ⟨q, hq, heq⟩ := (hw.processes p (List.mem_of_getElem? hp)).asked _ hdrawn
    exact absurd (List.mem_map.mpr ⟨q, hq, heq⟩) hfresh

theorem World.After.step (h : w.After a nonce) (hw : w.Known) (ha : a ∈ w.answers)
    (heffect : w.Effect w') : w'.After a nonce := by
  cases heffect with
  | none hprocesses hasked hanswers => exact ⟨hanswers ▸ h.answers, hprocesses ▸ h.drawn⟩
  | asked q _ _ hprocesses hasked hanswers => exact ⟨hanswers ▸ h.answers, hprocesses ▸ h.drawn⟩
  | started identity key _ _ hprocesses hasked hanswers =>
    refine ⟨hanswers ▸ h.answers, fun p hp ticket sequence hdrawn => ?_⟩
    obtain ⟨u, hu, -⟩ := (hw.answers a ha).process
    rw [hprocesses, List.getElem?_append_left (List.getElem?_eq_some_iff.mp hu).1] at hp
    exact h.drawn p hp ticket sequence hdrawn
  | worked k p p' new hhere hworks hprocesses hasked hanswers =>
    obtain ⟨u, hu, -, hticket, huptime⟩ := (hw.answers a ha).process
    refine ⟨fun a' ha' hnonce => ?_, fun v hv ticket sequence hdrawn => ?_⟩
    · rw [hanswers] at ha'
      rcases List.mem_append.mp ha' with ha' | ha'
      · exact h.answers a' ha' hnonce
      · obtain ⟨hk, -, -, hdrawn, hle, -⟩ := hworks.new a' ha'
        intro hprocess
        rw [← hprocess, hk] at hu
        cases hhere.symm.trans hu
        rw [← hk, hprocess] at hhere
        exact ⟨h.drawn p hhere _ _ (hnonce ▸ hdrawn), huptime.trans hle⟩
    · rw [hprocesses, List.getElem?_set] at hv
      split at hv
      · rename_i hk
        rw [hk] at hhere
        cases hhere.symm.trans hu
        rw [if_pos (hk ▸ (List.getElem?_eq_some_iff.mp hhere).1)] at hv
        cases hv
        rcases hworks.drawn _ _ _ hdrawn with hold | hnew
        · exact h.drawn p hhere _ _ hold
        · exact hticket.trans_lt hnew
      · exact h.drawn v hv _ _ hdrawn

end Results

end

end Starry.Telemetry
