import Starry.FastMedia.Entries

/-!
# FastMedia relay: routing safety

Whatever packets arrive from whatever sources, a datagram is forwarded only between the two current
bindings of one entry, both of them installed by grants that were signed for that allocation and
their own role, and no sequence number of a role is forwarded twice while the entry lives.
-/

open Library

namespace Starry.FastMedia

variable {F : Type} [F64 F] {crypto : Crypto}

/-! ## Histories -/

/-- An input at clocks that do not go back. -/
def Next (crypto : Crypto) : World F → Input → World F → Prop :=
  Guarded (World.step crypto) clocksAdvance

theorem next_step {w : World F} {i : Input} (hnow : w.now ≤ i.now) (hunix : w.unix ≤ i.unix) :
    Next crypto w i ⟨(w.engine.step crypto i).1, i.now, i.unix⟩ :=
  ⟨clocksAdvance_iff.mpr ⟨hnow, hunix⟩, rfl⟩

/-- An input after which the entry of `id` is there. -/
def Stays (crypto : Crypto) (id : Bytes) (w : World F) (i : Input) (w' : World F) : Prop :=
  Next crypto w i w' ∧ (w'.engine.allocations.get id).isSome = true

/-- The binding of `role` to `source` was installed in this lifetime of the entry of `id`, by a
Bind with a grant that was signed for that id and role and has the invariant `inv`. -/
def Installed (crypto : Crypto) (signed : Bytes → Prop) (start : World F) (is : List Input)
    (w : World F) (id : Bytes) (role : Role) (source : SocketAddr) (inv : GrantInvariant) : Prop :=
  ∃ before i after w₁ w₂, is = before ++ i :: after ∧ Run (Next crypto) start before w₁ ∧
    Stays crypto id w₁ i w₂ ∧ Run (Stays crypto id) w₂ after w ∧
    ∃ header grant payload, BindOf crypto w₁.engine i source header grant inv ∧
      signed payload ∧ crypto.parseGrant payload = some grant ∧
      header.allocationId = id ∧ header.role = role ∧
      grant.relayAllocationId = id ∧ grant.relayEndpointRole = role.byte.toNat

section

variable {signed : Bytes → Prop} {start w w' : World F} {is : List Input} {i : Input} {id : Bytes}
  {role : Role} {source : SocketAddr} {inv : GrantInvariant}

theorem Installed.extend (h : Installed crypto signed start is w id role source inv)
    (hs : Stays crypto id w i w') :
    Installed crypto signed start (is ++ [i]) w' id role source inv := by
  obtain ⟨before, j, after, w₁, w₂, rfl, h1, h2, h3, h4⟩ := h
  exact ⟨before, j, after ++ [i], w₁, w₂, by simp, h1, h2, h3.snoc hs, h4⟩

omit [F64 F] in
/-- The payload behind the grant of a Bind. -/
theorem bindGrant_some {e : Engine F} {packet : Bytes} {header : Header} {unix : Nat}
    {grant : FastRelayAuthorization}
    (h : e.bindGrant crypto source packet header unix = some (grant, inv)) :
    ∃ m payload, crypto.verify m e.config.publicKey = some payload ∧
      crypto.parseGrant payload = some grant ∧
      GrantInvariant.validated crypto grant header e.config.relayServer e.config.udpPort unix =
        .ok inv := by
  unfold Engine.bindGrant at h
  dsimp only at h
  split at h
  · cases h
  · split at h
    · cases h
    · split at h
      · cases h
      · split at h
        · cases h
        · rename_i payload hverify
          split at h
          · cases h
          · rename_i g hparse
            split at h
            · rename_i v hv
              cases h
              exact ⟨_, payload, hverify, hparse, hv⟩
            · cases h

/-- A Bind that has just been accepted. -/
theorem Installed.now {header : Header} {grant : FastRelayAuthorization}
    (hsign : ∀ m p, crypto.verify m w.engine.config.publicKey = some p → signed p)
    (h : Run (Next crypto) start is w) (hs : Stays crypto id w i w')
    (hbind : BindOf crypto w.engine i source header grant inv) (hid : header.allocationId = id) :
    Installed crypto signed start (is ++ [i]) w' id header.role source inv := by
  have hgrant := hbind
  obtain ⟨packet, -, -, -, -, hgrant⟩ := hgrant
  obtain ⟨m, payload, hverify, hparse, hvalid⟩ := bindGrant_some hgrant
  obtain ⟨hrole, halloc, -⟩ := validated_ok hvalid
  exact ⟨is, i, [], w, w', rfl, h, hs, .nil w', header, grant, payload, hbind, hsign m payload hverify,
    hparse, hid, rfl, halloc.trans hid, hrole⟩

/-! ## Entries of a run -/

/-- What holds of every binding: how it was installed, and that its window has tracked what it
accepted. -/
def EntriesOk (crypto : Crypto) (signed : Bytes → Prop) (start : World F) (is : List Input)
    (w : World F) : Prop :=
  ∀ id a role b, w.engine.allocations.get id = some a → a.binding role = some b →
    Installed crypto signed start is w id role b.source a.invariant ∧
      ∃ seen, b.replay.Tracks seen

theorem step_world (hs : Next crypto w i w') : w'.engine = (w.engine.step crypto i).1 := by
  obtain ⟨-, hstep⟩ := hs
  cases hstep
  rfl

theorem accept_tracks {r : ReplayWindow} {seen : List Nat} (h : r.Tracks seen) {sequence : Nat}
    (ha : (r.accept sequence).2 = true) : (r.accept sequence).1.Tracks (sequence :: seen) := by
  have hs := (accept_spec h sequence).2
  rwa [if_pos ha] at hs

theorem step_entriesOk
    (hsign : ∀ m p, crypto.verify m w.engine.config.publicKey = some p → signed p)
    (h : Run (Next crypto) start is w) (hok : EntriesOk crypto signed start is w)
    (hs : Next crypto w i w') : EntriesOk crypto signed start (is ++ [i]) w' := by
  intro id a' role b' ha' hb'
  have hstay : Stays crypto id w i w' := ⟨hs, by rw [ha']; rfl⟩
  have hentry := step_entry crypto w.engine i id
  rw [← step_world hs, ha'] at hentry
  generalize hx : w.engine.allocations.get id = x at hentry
  cases hentry with
  | same =>
    obtain ⟨hi, ht⟩ := hok id a' role b' hx hb'
    exact ⟨hi.extend hstay, ht⟩
  | media a r sequence b limiter active hb hexp haccept hactive =>
    simp only [binding_touch, binding_setBinding] at hb'
    split at hb'
    · rename_i hr
      subst hr
      cases hb'
      obtain ⟨hi, seen, ht⟩ := hok id a role b hx hb
      simp only [invariant_touch, invariant_setBinding]
      exact ⟨hi.extend hstay, _, accept_tracks ht haccept⟩
    · obtain ⟨hi, ht⟩ := hok id a role b' hx hb'
      simp only [invariant_touch, invariant_setBinding]
      exact ⟨hi.extend hstay, ht⟩
  | bound x source header grant inv hbind hid hsession hinv =>
    have hspec := bindRole_spec (entryOr x header inv i.now) source header.role
      grant.maxBitrateKbps i.now
    have hnew := Installed.now hsign h hstay hbind hid
    -- A binding of the entry before the Bind is one of an entry that was there.
    have hold : ∀ r b, (entryOr x header inv i.now).binding r = some b →
        Installed crypto signed start (is ++ [i]) w' id r b.source inv ∧
          ∃ seen, b.replay.Tracks seen := by
      intro r b hb
      cases x with
      | none => cases r <;> cases hb
      | some a =>
        obtain ⟨hi, ht⟩ := hok id a r b hx hb
        rw [show a.invariant = inv from hinv] at hi
        exact ⟨hi.extend hstay, ht⟩
    rw [hspec.invariant, hinv]
    by_cases hr : role = header.role
    · subst hr
      cases hprev : (entryOr x header inv i.now).binding header.role with
      | none =>
        obtain ⟨b, hb, hreplay, hsource⟩ := hspec.installed hprev
        rw [hb'] at hb
        cases hb
        rw [hsource, hreplay]
        exact ⟨hnew, [], tracks_default⟩
      | some prev =>
        obtain ⟨hi, ht⟩ := hold _ prev hprev
        obtain ⟨b, hb, hreplay, hsource⟩ := hspec.kept prev hprev
        rw [hb'] at hb
        cases hb
        rw [hreplay]
        rcases hsource with hsource | hsource
        · rw [hsource]
          exact ⟨hi, ht⟩
        · rw [hsource]
          exact ⟨hnew, ht⟩
    · rw [hspec.other role hr] at hb'
      exact hold role b' hb'

theorem run_config {config : Config} {key : Bytes} {now : Instant} {unix : Nat}
    (h : Run (Next crypto) (World.init config key now unix) is w) : w.engine.config = config := by
  refine h.invariant (P := fun w => w.engine.config = config) rfl ?_
  intro w i w' hw hs
  rw [step_world hs, (step_config crypto w.engine i).1, hw]

theorem run_entriesOk {config : Config} {key : Bytes} {now : Instant} {unix : Nat}
    (hsign : ∀ m p, crypto.verify m config.publicKey = some p → signed p)
    (h : Run (Next crypto) (World.init config key now unix) is w) :
    EntriesOk crypto signed (World.init config key now unix) is w := by
  induction h with
  | nil =>
    intro id a role b ha
    simp [World.init, Engine.new] at ha
  | snoc h hs ih =>
    refine step_entriesOk ?_ h ih hs
    rw [run_config h]
    exact hsign

/-! ## No sequence number twice -/

/-- The entry of `id` has taken the sequence number for `role`. -/
def Taken (w : World F) (id : Bytes) (role : Role) (sequence : Nat) : Prop :=
  ∃ a b seen, w.engine.allocations.get id = some a ∧ a.binding role = some b ∧
    b.replay.Tracks seen ∧ sequence ∈ seen

theorem stays_taken {sequence : Nat} (h : Taken w id role sequence) (hs : Stays crypto id w i w') :
    Taken w' id role sequence := by
  obtain ⟨a, b, seen, ha, hb, ht, hmem⟩ := h
  obtain ⟨hnext, hsome⟩ := hs
  have hentry := step_entry crypto w.engine i id
  rw [← step_world hnext, ha] at hentry
  generalize hx : w'.engine.allocations.get id = x' at hentry hsome
  cases hentry with
  | same => exact ⟨a, b, seen, hx, hb, ht, hmem⟩
  | removed => cases hsome
  | media a r number b₁ limiter active hb₁ hexp haccept hactive =>
    by_cases hr : role = r
    · subst hr
      rw [hb] at hb₁
      cases hb₁
      exact ⟨_, _, _, hx, by simp; rfl, accept_tracks ht haccept, List.mem_cons_of_mem _ hmem⟩
    · exact ⟨_, b, seen, hx, by simp [hr, hb], ht, hmem⟩
  | bound x source header grant inv hbind hid hsession hinv =>
    have hspec := bindRole_spec a source header.role grant.maxBitrateKbps i.now
    by_cases hr : role = header.role
    · subst hr
      obtain ⟨b', hb', hreplay, -⟩ := hspec.kept b hb
      exact ⟨_, b', seen, hx, hb', hreplay ▸ ht, hmem⟩
    · exact ⟨_, b, seen, hx, (hspec.other role hr).trans hb, ht, hmem⟩

section

omit [F64 F]

variable {e e' : Engine F} {packet : Bytes} {header : Header} {now : Instant} {unix : Nat}
  {out : Outgoing} {a : Allocation F} {b other : Binding F} {sequence : Nat} {seen : List Nat}

/-- A number that is forwarded was not taken before. -/
theorem Relayed.not_seen
    (hr : Relayed e e' source packet header now unix out a b other sequence)
    (ht : b.replay.Tracks seen) : sequence ∉ seen :=
  ((accept_spec ht sequence).1.mp hr.fresh).2.1

theorem Relayed.now_taken
    (hr : Relayed e w.engine source packet header now unix out a b other sequence)
    (ht : b.replay.Tracks seen) : Taken w header.allocationId header.role sequence := by
  obtain ⟨limiter, htaken⟩ := hr.taken
  exact ⟨_, _, _, htaken, by simp; rfl, accept_tracks ht hr.fresh, List.mem_cons_self⟩

end

end

/-- The AKF1 sequence number. -/
def sequenceOf (payload : Bytes) : Nat := fromLeBytes (slice payload 14 22)

theorem validateAkf1_some {payload : Bytes} {role : Role} {sessionId sequence : Nat}
    (h : validateAkf1 payload role sessionId = some sequence) :
    byteAt payload 5 = role.byte - 1 ∧ fromLeBytes (slice payload 6 14) = sessionId ∧
      sequenceOf payload = sequence := by
  unfold validateAkf1 at h
  split at h
  · cases h
  · rename_i hcond
    simp only [Bool.or_eq_true, bne_iff_ne, ne_eq, not_or, not_not] at hcond
    dsimp only at h
    split at h
    · cases h
      exact ⟨hcond.1.2, hcond.2, rfl⟩
    · cases h

/-- In every run, a datagram that `handle_media` returns is its packet without the header, goes
from the binding of the header's role to the opposite binding of the same entry, and both bindings
were installed by grants signed for that allocation and their own role, with one invariant. While
that entry stays, no later packet of the role is forwarded with the same sequence number. -/
theorem relay_routing_safe {signed : Bytes → Prop} {config : Config} {key : Bytes} {now : Instant}
    {unix : Nat} (hsign : ∀ m p, crypto.verify m config.publicKey = some p → signed p)
    {is : List Input} {w w' : World F}
    (h : Run (Next crypto) (World.init config key now unix) is w) {i : Input}
    (hi : Next crypto w i w') {source : SocketAddr} {packet : Bytes} {header : Header}
    {out : Outgoing} (hf : Forwards crypto w.engine i source packet header out) :
    out.bytes = packet.drop akrHeaderBytes ∧
    byteAt out.bytes 5 = header.role.byte - 1 ∧
    fromLeBytes (slice out.bytes 6 14) = header.sessionId ∧
    (∃ a b other, w.engine.allocations.get header.allocationId = some a ∧
      a.binding header.role = some b ∧ b.source = source ∧
      a.binding header.role.opposite = some other ∧ out.target = other.source ∧
      Installed crypto signed (World.init config key now unix) is w header.allocationId header.role
        source a.invariant ∧
      Installed crypto signed (World.init config key now unix) is w header.allocationId
        header.role.opposite out.target a.invariant) ∧
    ∀ js w₁ j source' packet' header' out', Run (Stays crypto header.allocationId) w' js w₁ →
      Forwards crypto w₁.engine j source' packet' header' out' →
      header'.allocationId = header.allocationId → header'.role = header.role →
      sequenceOf out'.bytes ≠ sequenceOf out.bytes := by
  obtain ⟨a, b, other, sequence, hr⟩ := forwards_relayed hf
  have hok := run_entriesOk hsign h
  obtain ⟨hinst, seen, htracks⟩ := hok _ a _ b hr.entry hr.sender
  obtain ⟨hinst', -⟩ := hok _ a _ other hr.entry hr.receiver
  obtain ⟨hrole, hsession, hseq⟩ := validateAkf1_some hr.inner
  refine ⟨hr.bytes, hrole, hsession, ⟨a, b, other, hr.entry, hr.sender, hr.source, hr.receiver,
    hr.target, hr.source ▸ hinst, hr.target ▸ hinst'⟩, ?_⟩
  intro js w₁ j source' packet' header' out' hrun hf' hid hrole' he
  rw [← step_world hi] at hr
  have htaken := hr.now_taken htracks
  have hlater : Taken w₁ header.allocationId header.role sequence :=
    hrun.invariant (P := fun v => Taken v header.allocationId header.role sequence) htaken
      fun _ _ _ => stays_taken
  obtain ⟨a₁, b₁, other₁, sequence₁, hr₁⟩ := forwards_relayed hf'
  obtain ⟨-, -, hseq₁⟩ := validateAkf1_some hr₁.inner
  obtain ⟨a₂, b₂, seen₂, ha₂, hb₂, ht₂, hmem⟩ := hlater
  -- The entry and the binding are those that the later packet was checked against.
  have hentry := hr₁.entry
  have hsender := hr₁.sender
  rw [hid, ha₂] at hentry
  cases hentry
  rw [hrole', hb₂] at hsender
  cases hsender
  have hfresh := hr₁.not_seen ht₂
  rw [← hseq₁, he, hseq] at hfresh
  exact hfresh hmem

/-! ## A sample -/

/-- Whole numbers, which `f64` represents exactly at the sizes of the sample. -/
instance sampleF64 : F64 Nat where
  ofU64 n := n
  asSecs n := n / 1000000000
  add := (· + ·)
  sub := (· - ·)
  mul := (· * ·)
  min := min
  lt x y := decide (x < y)

def sampleConfig : Config :=
  { udpPort := 22119, relayServer := "relay.example:21117", publicKey := [1], maxAllocations := 8,
    halfBindTtl := secs 10, idleTtl := secs 30, perIpPacketsPerSecond := 100000,
    globalPacketsPerSecond := 100000, perIpBytesPerSecond := 100000000,
    globalBytesPerSecond := 100000000 }

def sampleId : Bytes := List.replicate 16 3

def sampleGrant (role : Role) : FastRelayAuthorization :=
  { version := 1, sessionUuid := "session-test", expiresAt := 90, allowFastCompat := true,
    allowFastMediaV1 := true, maxBitrateKbps := 50000, relayUdpProtocol := 1,
    relayServer := "relay.example:21117", relayUdpPort := 22119,
    relayAllocationId := sampleId, relayMaxDatagram := 1200,
    relayEndpointRole := role.byte.toNat }

/-- The payloads of the two grants that were signed. -/
def samplePayload (role : Role) : Bytes := [role.byte]

/-- A signature of 64 bytes before the payload, as `sign::sign` puts it. -/
def sampleSigned (role : Role) : Bytes := List.replicate 64 9 ++ samplePayload role

def sampleCrypto : Crypto where
  authenticate _ _ := List.replicate 32 7
  verify m _ := ([Role.controller, .target].find? fun role => m = sampleSigned role).map samplePayload
  parseGrant p := ([Role.controller, .target].find? fun role => p = samplePayload role).map sampleGrant
  sha256 _ := List.replicate 32 0

def sampleHeader (kind : Kind) (role : Role) : Header := ⟨kind, role, 77, sampleId⟩

def sampleBind (role : Role) : Bytes :=
  (sampleHeader .bind role).encode 3 ++ List.replicate 16 role.byte ++ List.replicate 8 7 ++
    toLeBytes 2 65 ++ sampleSigned role

def sampleMedia (role : Role) (sequence : Nat) : Bytes :=
  (sampleHeader .media role).encode 5 ++ akf1 ++ [1, role.byte - 1] ++ toLeBytes 8 77 ++
    toLeBytes 8 sequence ++ List.replicate 67 0

def sampleSource : Role → SocketAddr
  | .controller => .v4 0xC000020A 40000
  | .target => .v4 0xC6336414 50000

/-- A Bind of the role. -/
def sampleBindAt (role : Role) (now : Instant) : Input :=
  .packet (sampleSource role) (sampleBind role) now 0

def sampleWorld : World Nat := World.init sampleConfig [2] 0 0

theorem sampleCrypto_signed (m p : Bytes) (h : sampleCrypto.verify m sampleConfig.publicKey = some p) :
    p = samplePayload .controller ∨ p = samplePayload .target := by
  obtain ⟨role, -, rfl⟩ := Option.map_eq_some_iff.mp h
  cases role
  · exact .inl rfl
  · exact .inr rfl

/-- The first packet of the target. -/
def sampleFirst (now : Instant) : Input :=
  .packet (sampleSource .target) (sampleMedia .target 1) now 0

/-- The target's first packet is forwarded, and only once. -/
theorem relay_routing_safe_target : ∃ w w' : World Nat,
    Run (Next sampleCrypto) sampleWorld [sampleBindAt .controller 0, sampleBindAt .target 0] w ∧
    Next sampleCrypto w (sampleFirst 0) w' ∧
    (∃ out, Forwards sampleCrypto w.engine (sampleFirst 0) (sampleSource .target)
        (sampleMedia .target 1) (sampleHeader .media .target) out ∧
      out.bytes = (sampleMedia .target 1).drop akrHeaderBytes) ∧
    ∀ out, ¬ Forwards sampleCrypto w'.engine (sampleFirst 0) (sampleSource .target)
      (sampleMedia .target 1) (sampleHeader .media .target) out := by
  have h : (exec (World.step sampleCrypto) clocksAdvance sampleWorld
      [sampleBindAt .controller 0, sampleBindAt .target 0]).any (fun w =>
      clocksAdvance w (sampleFirst 0) &&
      ((w.engine.step sampleCrypto (sampleFirst 0)).2.head?).isSome) = true := by
    decide +kernel
  simp only [Option.any_eq_true, Bool.and_eq_true, Option.isSome_iff_exists] at h
  obtain ⟨w, hw, hclock, out, hout⟩ := h
  have hf : Forwards sampleCrypto w.engine (sampleFirst 0) (sampleSource .target)
      (sampleMedia .target 1) (sampleHeader .media .target) out :=
    ⟨rfl, by decide +kernel, rfl, List.mem_of_head? hout⟩
  have hnext : Next sampleCrypto w (sampleFirst 0)
      ⟨(w.engine.step sampleCrypto (sampleFirst 0)).1, 0, 0⟩ := ⟨hclock, rfl⟩
  have hsafe := relay_routing_safe sampleCrypto_signed (.of_exec hw) hnext hf
  refine ⟨w, _, .of_exec hw, hnext, ⟨out, hf, hsafe.1⟩, fun out' hf' => ?_⟩
  obtain ⟨a, b, other, sequence, hr⟩ := forwards_relayed hf'
  refine hsafe.2.2.2.2 [] _ _ _ _ _ _ (.nil _) hf' rfl rfl ?_
  rw [hr.bytes, hsafe.1]

end Starry.FastMedia
