import Starry.FastMedia.Cleanup

/-!
# FastMedia relay: no amplification

Rust stops at a slice or an index out of range. The engine is written here once more with these
checks, in the order in which the code reads a packet; they never fail. What leaves the engine is
bounded by what came in.
-/

open Library

namespace Starry.FastMedia

variable {F : Type} [F64 F]

/-! ## Checked reads -/

/-- `&packet[start..stop]` -/
def checkedSlice (packet : Bytes) (start stop : Nat) : Option Bytes :=
  if start ≤ stop ∧ stop ≤ packet.length then some (slice packet start stop) else none

/-- `&packet[start..]` -/
def checkedFrom (packet : Bytes) (start : Nat) : Option Bytes :=
  if start ≤ packet.length then some (packet.drop start) else none

/-- `copy_from_slice` into an array, which has to be of the same length. -/
def copyFromSlice (width : Nat) (bytes : Bytes) : Option Bytes :=
  if bytes.length = width then some bytes else none

/-- An array of `width` bytes from `packet[start..stop]`. -/
def copied (packet : Bytes) (start stop width : Nat) : Option Bytes :=
  (checkedSlice packet start stop).bind (copyFromSlice width)

def Header.parseChecked (packet : Bytes) : Option (Option Header) :=
  if packet.length < akrHeaderBytes then some none
  else do
    let magic ← checkedSlice packet 0 4
    if magic != akr1 then return none
    else
      let version ← packet[4]?
      if version.toNat != protocolVersion then return none
      else
        let reserved ← packet[7]?
        if reserved != 0 then return none
        else
          let kind ← packet[5]?
          match Kind.fromByte kind with
          | none => return none
          | some kind =>
            let role ← packet[6]?
            match Role.fromByte role with
            | none => return none
            | some role =>
              let sessionId ← checkedSlice packet 8 16
              if fromLeBytes sessionId = 0 then return none
              else
                let allocationId ← checkedSlice packet 16 32
                if allocationId.all (· == 0) then return none
                else return some { kind, role, sessionId := fromLeBytes sessionId, allocationId }

def validateAkf1Checked (payload : Bytes) (role : Role) (sessionId : Nat) : Option (Option Nat) :=
  if payload.length < minAkf1Bytes then some none
  else do
    let magic ← checkedSlice payload 0 4
    if magic != akf1 then return none
    else
      let version ← payload[4]?
      if version != 1 then return none
      else
        let source ← payload[5]?
        if source != role.byte - 1 then return none
        else
          let session ← checkedSlice payload 6 14
          if fromLeBytes session != sessionId then return none
          else
            let sequence ← checkedSlice payload 14 22
            return if 0 < fromLeBytes sequence then some (fromLeBytes sequence) else none

section Reads

variable {packet : Bytes}

theorem checkedSlice_eq {start stop : Nat} (h : start ≤ stop) (hstop : stop ≤ packet.length) :
    checkedSlice packet start stop = some (slice packet start stop) := if_pos ⟨h, hstop⟩

theorem checkedFrom_eq {start : Nat} (h : start ≤ packet.length) :
    checkedFrom packet start = some (packet.drop start) := if_pos h

theorem getElem?_byteAt {i : Nat} (h : i < packet.length) :
    packet[i]? = some (byteAt packet i) := by
  unfold byteAt
  rw [List.getElem?_eq_getElem h, List.getD_eq_getElem _ _ h]

theorem length_slice {start stop : Nat} (h : stop ≤ packet.length) :
    (slice packet start stop).length = stop - start := by
  unfold slice
  rw [List.length_take, List.length_drop]
  omega

theorem copied_eq {start stop width : Nat} (h : start + width = stop)
    (hstop : stop ≤ packet.length) : copied packet start stop width =
      some (slice packet start stop) := by
  unfold copied
  rw [checkedSlice_eq (by omega) hstop, Option.bind_some, copyFromSlice,
    if_pos (by rw [length_slice hstop]; omega)]

theorem parseChecked_eq (packet : Bytes) :
    Header.parseChecked packet = some (Header.parse packet) := by
  unfold Header.parseChecked Header.parse
  by_cases hlen : packet.length < akrHeaderBytes
  · simp [hlen]
  · have hlong : 32 ≤ packet.length := not_lt.mp hlen
    rw [checkedSlice_eq (by omega) (by omega), checkedSlice_eq (by omega) (by omega),
      checkedSlice_eq (by omega) (by omega), getElem?_byteAt (by omega), getElem?_byteAt (by omega),
      getElem?_byteAt (by omega), getElem?_byteAt (by omega)]
    simp only [hlen, if_false, Option.bind_eq_bind, Option.bind_some, Option.pure_def,
      decide_false, Bool.false_or]
    by_cases hmagic : (slice packet 0 4 != akr1) = true
    · simp [hmagic]
    · by_cases hversion : ((byteAt packet 4).toNat != protocolVersion) = true
      · simp [hmagic, hversion]
      · by_cases hreserved : (byteAt packet 7 != 0) = true
        · simp [hmagic, hversion, hreserved]
        · simp only [hmagic, hversion, hreserved, Bool.or_self, if_false, Bool.false_eq_true]
          cases hkind : Kind.fromByte (byteAt packet 5) with
          | none => rfl
          | some kind =>
            cases hrole : Role.fromByte (byteAt packet 6) with
            | none => rfl
            | some role =>
              dsimp only
              split
              · rfl
              · split <;> rfl

theorem validateAkf1Checked_eq (payload : Bytes) (role : Role) (sessionId : Nat) :
    validateAkf1Checked payload role sessionId = some (validateAkf1 payload role sessionId) := by
  unfold validateAkf1Checked validateAkf1
  by_cases hlen : payload.length < minAkf1Bytes
  · simp [hlen]
  · have hlong : 89 ≤ payload.length := not_lt.mp hlen
    rw [checkedSlice_eq (by omega) (by omega), checkedSlice_eq (by omega) (by omega),
      checkedSlice_eq (by omega) (by omega), getElem?_byteAt (by omega), getElem?_byteAt (by omega)]
    simp only [hlen, if_false, Option.bind_eq_bind, Option.bind_some, Option.pure_def,
      decide_false, Bool.false_or]
    by_cases hmagic : (slice payload 0 4 != akf1) = true
    · simp [hmagic]
    · by_cases hversion : (byteAt payload 4 != 1) = true
      · simp [hmagic, hversion]
      · by_cases hsource : (byteAt payload 5 != role.byte - 1) = true
        · simp [hmagic, hversion, hsource]
        · by_cases hsession : (fromLeBytes (slice payload 6 14) != sessionId) = true
          · simp [hmagic, hversion, hsource, hsession]
          · simp [hmagic, hversion, hsource, hsession]

end Reads

/-! ## The engine with checked reads -/

namespace Engine

variable (crypto : Crypto) (e : Engine F) (source : SocketAddr) (packet : Bytes) (header : Header)
  (now : Instant) (unix : Nat)

def cookieChecked (nonce : Bytes) (epoch : Nat) : Option Bytes :=
  let canonical := asBytes "starry-akr1-cookie-v1" ++ [0] ++ octets source.ip ++
    toLeBytes 2 source.port ++ [header.role.byte] ++ toLeBytes 8 header.sessionId ++
    header.allocationId ++ nonce ++ toLeBytes 8 epoch
  copied (crypto.authenticate canonical e.cookieKey) 0 8 8

def handleHelloChecked : Option (List Outgoing) :=
  if packet.length ≠ helloCookieBytes then some []
  else do
    let rest ← checkedFrom packet 48
    if rest.any (· != 0) then return []
    else
      let nonce ← copied packet akrHeaderBytes 48 16
      let cookie ← e.cookieChecked crypto source header nonce (unix / cookieEpochSeconds)
      return [⟨source, header.encode 2 ++ nonce ++ cookie⟩]

/-- Whether the cookie of one of two epochs was received; the second one is only computed if the
first one differs. -/
def cookieValidChecked (nonce receivedCookie : Bytes) : Option Bool := do
  let currentEpoch := unix / cookieEpochSeconds
  let current ← e.cookieChecked crypto source header nonce currentEpoch
  if current == receivedCookie then return true
  else
    let previous ← e.cookieChecked crypto source header nonce (currentEpoch - 1)
    return previous == receivedCookie

def bindGrantChecked : Option (Option (FastRelayAuthorization × GrantInvariant)) :=
  if packet.length < bindPrefixBytes then some none
  else do
    let low ← packet[56]?
    let high ← packet[57]?
    let authorizationLen := fromLeBytes [low, high]
    if authorizationLen = 0 || authorizationLen > maxAuthorizationBytes ||
        packet.length ≠ bindPrefixBytes + authorizationLen then return none
    else
      let nonce ← copied packet 32 48 16
      let receivedCookie ← copied packet 48 56 8
      let cookieValid ← e.cookieValidChecked crypto source header unix nonce receivedCookie
      if !cookieValid then return none
      else
        let signed ← checkedFrom packet bindPrefixBytes
        return (crypto.verify signed e.config.publicKey).bind fun payload =>
          (crypto.parseGrant payload).bind fun grant =>
            match GrantInvariant.validated crypto grant header e.config.relayServer
                e.config.udpPort unix with
            | .ok invariant => some (grant, invariant)
            | .error _ => none

/-- `handle_bind` after its checks, which reads nothing of the packet any more. -/
def installGrant (grant : FastRelayAuthorization) (invariant : GrantInvariant) :
    Engine F × List Outgoing :=
  let existing := e.allocations.get header.allocationId
  if existing.isNone && decide (e.allocations.len ≥ e.config.maxAllocations) then (e, [])
  else
    let a := existing.getD (.new header.sessionId invariant now)
    let e := { e with allocations := e.allocations.insert header.allocationId a }
    if a.sessionId ≠ header.sessionId then (e, [])
    else if a.invariant ≠ invariant then (e, [])
    else
      let r := bindRole a source header.role grant.maxBitrateKbps now
      let e := { e with allocations := e.allocations.insert header.allocationId r.1 }
      if !r.2 then (e, [])
      else
        let e := { e with cleanupOrder :=
          if existing.isNone then e.cleanupOrder ++ [header.allocationId] else e.cleanupOrder }
        (e, [⟨source, header.encode 4⟩])

def handleBindChecked : Option (Engine F × List Outgoing) := do
  match ← e.bindGrantChecked crypto source packet header unix with
  | none => return (e, [])
  | some (grant, invariant) => return e.installGrant source header now grant invariant

def handleMediaChecked : Option (Engine F × List Outgoing) :=
  match e.allocations.get header.allocationId with
  | none => some (e, [])
  | some a =>
    if a.sessionId ≠ header.sessionId then some (e, [])
    else if a.expired now unix e.config.halfBindTtl e.config.idleTtl ||
        decide (packet.length > a.invariant.maxDatagram) then some (e, [])
    else if a.controller.isNone || a.target.isNone then some (e, [])
    else do
      let payload ← checkedFrom packet akrHeaderBytes
      match ← validateAkf1Checked payload header.role header.sessionId with
      | none => return (e, [])
      | some sequence =>
        match a.binding header.role, a.binding header.role.opposite with
        | some b, some other =>
          if b.source ≠ source then return (e, [])
          else
            let replay := b.replay.accept sequence
            if !replay.2 then return (e, [])
            else
              let limiter := b.limiter.allow packet.length now
              let a := a.setBinding header.role (some ⟨b.source, replay.1, limiter.1⟩)
              if !limiter.2 then
                return ({ e with allocations := e.allocations.insert header.allocationId a }, [])
              else
                return ({ e with allocations :=
                  e.allocations.insert header.allocationId (a.touch now) },
                  [⟨other.source, payload⟩])
        | _, _ => return (e, [])

def handleChecked : Option (Engine F × List Outgoing) := do
  match ← Header.parseChecked packet with
  | none => return (e, [])
  | some header =>
    let admitted := e.allowSource source.ip packet.length now
    let e := admitted.1
    if !admitted.2 then return (e, [])
    else
      match header.kind with
      | .hello => (e.handleHelloChecked crypto source packet header unix).map fun out => (e, out)
      | .bind => e.handleBindChecked crypto source packet header now unix
      | .media => e.handleMediaChecked source packet header now unix

end Engine

section Agreement

variable {crypto : Crypto} {e : Engine F} {source : SocketAddr} {packet : Bytes} {header : Header}
  {now : Instant} {unix : Nat}

/-- `auth::TAGBYTES` -/
def Crypto.Tags (crypto : Crypto) : Prop := ∀ m key, (crypto.authenticate m key).length = 32

omit [F64 F] in
theorem cookieChecked_eq (htags : crypto.Tags) (nonce : Bytes) (epoch : Nat) :
    e.cookieChecked crypto source header nonce epoch =
      some (e.cookie crypto source header nonce epoch) := by
  unfold Engine.cookieChecked Engine.cookie
  dsimp only
  rw [copied_eq (by omega) (by rw [htags]; omega)]
  rfl

omit [F64 F] in
theorem handleHelloChecked_eq (htags : crypto.Tags) :
    e.handleHelloChecked crypto source packet header unix =
      some (e.handleHello crypto source packet header unix) := by
  unfold Engine.handleHelloChecked Engine.handleHello
  by_cases hlen : packet.length = helloCookieBytes
  · have hlong : packet.length = 56 := hlen
    have hnonce : copied packet akrHeaderBytes 48 16 = some (slice packet akrHeaderBytes 48) :=
      copied_eq rfl (by omega)
    rw [checkedFrom_eq (by omega), hnonce]
    simp only [hlen, ne_eq, not_true, if_false, Option.bind_eq_bind, Option.bind_some,
      cookieChecked_eq htags, Option.pure_def, decide_false, Bool.false_or]
    split <;> rfl
  · simp [hlen]

theorem slice_pair (h : 58 ≤ packet.length) :
    slice packet 56 58 = [byteAt packet 56, byteAt packet 57] := by
  unfold slice byteAt
  rw [List.drop_eq_getElem_cons (by omega), List.drop_eq_getElem_cons (by omega),
    List.getD_eq_getElem _ _ (by omega), List.getD_eq_getElem _ _ (by omega)]
  rfl

omit [F64 F] in
theorem cookieValidChecked_eq (htags : crypto.Tags) (nonce receivedCookie : Bytes) :
    e.cookieValidChecked crypto source header unix nonce receivedCookie =
      some ([unix / cookieEpochSeconds, unix / cookieEpochSeconds - 1].any fun epoch =>
        e.cookie crypto source header nonce epoch == receivedCookie) := by
  unfold Engine.cookieValidChecked
  simp only [cookieChecked_eq htags, Option.bind_eq_bind, Option.bind_some, Option.pure_def,
    List.any_cons, List.any_nil, Bool.or_false]
  split
  · rename_i hcurrent
    rw [hcurrent, Bool.true_or]
  · rename_i hcurrent
    rw [Bool.not_eq_true] at hcurrent
    rw [hcurrent, Bool.false_or]

omit [F64 F] in
theorem bindGrantChecked_eq (htags : crypto.Tags) :
    e.bindGrantChecked crypto source packet header unix =
      some (e.bindGrant crypto source packet header unix) := by
  unfold Engine.bindGrantChecked Engine.bindGrant
  by_cases hlen : packet.length < bindPrefixBytes
  · simp [hlen]
  · have hlong : 58 ≤ packet.length := not_lt.mp hlen
    have hrest : checkedFrom packet bindPrefixBytes = some (packet.drop bindPrefixBytes) :=
      checkedFrom_eq hlong
    rw [getElem?_byteAt (by omega), getElem?_byteAt (by omega),
      copied_eq (show 32 + 16 = 48 from rfl) (by omega),
      copied_eq (show 48 + 8 = 56 from rfl) (by omega), hrest, slice_pair hlong]
    simp only [hlen, if_false, Option.bind_eq_bind, Option.bind_some, Option.pure_def,
      cookieValidChecked_eq htags]
    split
    · rfl
    · split
      · rfl
      · congr 1
        cases crypto.verify (packet.drop bindPrefixBytes) e.config.publicKey with
        | none => rfl
        | some payload =>
          dsimp only [Option.bind_some]
          cases crypto.parseGrant payload <;> rfl

theorem handleBind_eq : e.handleBind crypto source packet header now unix =
    match e.bindGrant crypto source packet header unix with
    | none => (e, [])
    | some (grant, invariant) => e.installGrant source header now grant invariant := rfl

theorem handleBindChecked_eq (htags : crypto.Tags) :
    e.handleBindChecked crypto source packet header now unix =
      some (e.handleBind crypto source packet header now unix) := by
  unfold Engine.handleBindChecked
  rw [bindGrantChecked_eq htags, handleBind_eq]
  cases e.bindGrant crypto source packet header unix <;> rfl

theorem handleMediaChecked_eq (hlen : akrHeaderBytes ≤ packet.length) :
    e.handleMediaChecked source packet header now unix =
      some (e.handleMedia source packet header now unix) := by
  unfold Engine.handleMediaChecked Engine.handleMedia
  rw [checkedFrom_eq hlen]
  simp only [Option.bind_eq_bind, Option.bind_some, validateAkf1Checked_eq, Option.pure_def]
  cases e.allocations.get header.allocationId with
  | none => rfl
  | some a =>
    dsimp only
    by_cases hsession : a.sessionId ≠ header.sessionId
    · rw [if_pos hsession, if_pos hsession]
    rw [if_neg hsession, if_neg hsession]
    by_cases hlive : (a.expired now unix e.config.halfBindTtl e.config.idleTtl ||
        decide (packet.length > a.invariant.maxDatagram)) = true
    · rw [if_pos hlive, if_pos hlive]
    rw [if_neg hlive, if_neg hlive]
    by_cases hboth : (a.controller.isNone || a.target.isNone) = true
    · rw [if_pos hboth, if_pos hboth]
    rw [if_neg hboth, if_neg hboth]
    cases validateAkf1 (packet.drop akrHeaderBytes) header.role header.sessionId with
    | none => rfl
    | some sequence =>
      dsimp only
      cases a.binding header.role with
      | none => rfl
      | some b =>
        cases a.binding header.role.opposite with
        | none => rfl
        | some other =>
          dsimp only
          by_cases hsource : b.source ≠ source
          · rw [if_pos hsource, if_pos hsource]
          rw [if_neg hsource, if_neg hsource]
          by_cases hreplay : (!(b.replay.accept sequence).2) = true
          · rw [if_pos hreplay, if_pos hreplay]
          rw [if_neg hreplay, if_neg hreplay]
          by_cases hlimit : (!(b.limiter.allow packet.length now).2) = true
          · rw [if_pos hlimit, if_pos hlimit]
          · rw [if_neg hlimit, if_neg hlimit]

/-- A header has been read from a packet that is at least as long. -/
theorem parse_length (h : Header.parse packet = some header) :
    32 ≤ packet.length ∧ header.allocationId.length = 16 := by
  unfold Header.parse at h
  split at h
  · cases h
  · rename_i hchecks
    simp only [Bool.or_eq_true, decide_eq_true_eq, not_or] at hchecks
    have hlong : 32 ≤ packet.length := not_lt.mp hchecks.1.1.1
    refine ⟨hlong, ?_⟩
    split at h
    · dsimp only at h
      split at h
      · cases h
      · split at h
        · cases h
        · cases h
          exact length_slice hlong
    · cases h

theorem handleChecked_eq (htags : crypto.Tags) :
    e.handleChecked crypto source packet now unix =
      some (e.handle crypto source packet now unix) := by
  unfold Engine.handleChecked Engine.handle
  rw [parseChecked_eq]
  cases hparse : Header.parse packet with
  | none => rfl
  | some header =>
    have hlen := (parse_length hparse).1
    simp only [Option.bind_eq_bind, Option.bind_some, handleHelloChecked_eq htags,
      handleBindChecked_eq htags, handleMediaChecked_eq hlen, Option.pure_def]
    split
    · rfl
    · cases hkind : header.kind <;> rfl

end Agreement

/-! ## What goes out -/

/-- A Bind whose cookie and signature verify. -/
structure BindVerified (crypto : Crypto) (e : Engine F) (source : SocketAddr) (packet : Bytes)
    (header : Header) (unix : Nat) : Prop where
  kind : header.kind = .bind
  cookie : ([unix / cookieEpochSeconds, unix / cookieEpochSeconds - 1].any fun epoch =>
    e.cookie crypto source header (slice packet 32 48) epoch == slice packet 48 56) = true
  signature : (crypto.verify (packet.drop bindPrefixBytes) e.config.publicKey).isSome = true

/-- A Media packet from the source its role is bound to, accepted for replay. -/
structure MediaAccepted (e : Engine F) (source : SocketAddr) (packet : Bytes) (header : Header) :
    Prop where
  kind : header.kind = .media
  accepted : ∃ a b sequence, e.allocations.get header.allocationId = some a ∧
    a.binding header.role = some b ∧ b.source = source ∧
    validateAkf1 (packet.drop akrHeaderBytes) header.role header.sessionId = some sequence ∧
    (b.replay.accept sequence).2 = true

/-- The state of the allocations is what it was, but for the entry of `id` if `authorized`. -/
def Confined (e e' : Engine F) (id : Bytes) (authorized : Prop) : Prop :=
  (e'.allocations = e.allocations ∧ e'.cleanupOrder = e.cleanupOrder) ∨
    authorized ∧ ∀ id' ≠ id, e'.allocations.get id' = e.allocations.get id'

/-- What the engine answers to a packet. -/
structure Bounded (source : SocketAddr) (packet : Bytes) (header : Header) (outs : List Outgoing) :
    Prop where
  single : outs.length ≤ 1
  shorter : ∀ out ∈ outs, out.bytes.length ≤ packet.length
  replies : header.kind ≠ .media → ∀ out ∈ outs,
    out.target = source ∧ Header.parse out.bytes = none

section Sent

variable {crypto : Crypto} {e : Engine F} {source : SocketAddr} {packet : Bytes} {header : Header}
  {now : Instant} {unix : Nat}

theorem toLeBytes_length (width value : Nat) : (toLeBytes width value).length = width := by
  induction width generalizing value with
  | zero => rfl
  | succ width ih =>
    unfold toLeBytes
    rw [List.length_cons, ih]

theorem encode_length (kind : UInt8) (h : header.allocationId.length = 16) :
    (header.encode kind).length = akrHeaderBytes := by
  simp only [Header.encode, List.length_append, toLeBytes_length, h]
  rfl

/-- A header of a kind that no client sends is not read. -/
theorem parse_encode (kind : UInt8) (rest : Bytes) (h : Kind.fromByte kind = none) :
    Header.parse (header.encode kind ++ rest) = none := by
  have hkind : byteAt (header.encode kind ++ rest) 5 = kind := rfl
  unfold Header.parse
  rw [hkind, h]
  split <;> rfl

theorem Bounded.nil : Bounded source packet header [] :=
  ⟨Nat.zero_le 1, by simp, by simp⟩

theorem Bounded.reply {bytes : Bytes} (hlen : bytes.length ≤ packet.length)
    (hparse : Header.parse bytes = none) : Bounded source packet header [⟨source, bytes⟩] := by
  refine ⟨le_refl 1, fun out hout => ?_, fun _ out hout => ?_⟩
  · rw [List.mem_singleton.mp hout]
    exact hlen
  · rw [List.mem_singleton.mp hout]
    exact ⟨rfl, hparse⟩

omit [F64 F] in
theorem handleHello_bounded (htags : crypto.Tags) (hid : header.allocationId.length = 16) :
    Bounded source packet header (e.handleHello crypto source packet header unix) := by
  unfold Engine.handleHello
  split
  · exact .nil
  · rename_i hshape
    simp only [Bool.or_eq_true, decide_eq_true_eq, not_or, ne_eq, not_not] at hshape
    have hlen : packet.length = 56 := hshape.1
    have hnonce : (slice packet akrHeaderBytes 48).length = 16 := length_slice (by omega)
    have hcookie : (e.cookie crypto source header (slice packet akrHeaderBytes 48)
        (unix / cookieEpochSeconds)).length = 8 := by
      unfold Engine.cookie
      dsimp only
      rw [List.length_take, htags]
      rfl
    apply Bounded.reply
    · rw [List.length_append, List.length_append, encode_length 2 hid, hnonce, hcookie, hlen]
      exact le_refl 56
    · rw [List.append_assoc]
      exact parse_encode 2 _ rfl

omit [F64 F] in
theorem bindGrant_verified {grant : FastRelayAuthorization} {inv : GrantInvariant}
    (hkind : header.kind = .bind)
    (h : e.bindGrant crypto source packet header unix = some (grant, inv)) :
    BindVerified crypto e source packet header unix := by
  unfold Engine.bindGrant at h
  dsimp only at h
  split at h
  · cases h
  · split at h
    · cases h
    · split at h
      · cases h
      · rename_i hcookie
        simp only [Bool.not_eq_true', Bool.not_eq_false] at hcookie
        split at h
        · cases h
        · rename_i payload hverify
          exact ⟨hkind, hcookie, by rw [hverify]; rfl⟩

theorem handleBind_bounded (hlen : akrHeaderBytes ≤ packet.length)
    (hid : header.allocationId.length = 16) :
    Bounded source packet header (e.handleBind crypto source packet header now unix).2 := by
  have hbound : Bounded source packet header [⟨source, header.encode 4⟩] := by
    apply Bounded.reply
    · rw [encode_length 4 hid]
      exact hlen
    · rw [← List.append_nil (header.encode 4)]
      exact parse_encode 4 [] rfl
  rw [handleBind_eq]
  split
  · exact .nil
  · unfold Engine.installGrant
    dsimp only
    split
    · exact .nil
    · split
      · exact .nil
      · split
        · exact .nil
        · split
          · exact .nil
          · exact hbound

theorem handleBind_confined (hkind : header.kind = .bind) :
    Confined e (e.handleBind crypto source packet header now unix).1 header.allocationId
      (BindVerified crypto e source packet header unix) := by
  rw [handleBind_eq]
  split
  · exact .inl ⟨rfl, rfl⟩
  · rename_i grant inv hgrant
    have hverified := bindGrant_verified hkind hgrant
    unfold Engine.installGrant
    dsimp only
    split
    · exact .inl ⟨rfl, rfl⟩
    · refine .inr ⟨hverified, fun id' hne => ?_⟩
      split
      · simp [hne]
      · split
        · simp [hne]
        · split <;> simp [hne]

theorem handleMedia_bounded (hkind : header.kind = .media) :
    Bounded source packet header (e.handleMedia source packet header now unix).2 := by
  have hshorter : ∀ out ∈ (e.handleMedia source packet header now unix).2,
      out.bytes.length ≤ packet.length := by
    intro out hout
    obtain ⟨a, b, other, sequence, hr⟩ := handleMedia_relayed hout
    rw [hr.bytes, List.length_drop]
    omega
  refine ⟨?_, hshorter, fun hne => absurd hkind hne⟩
  unfold Engine.handleMedia
  dsimp only
  repeat' split
  all_goals simp

theorem handleMedia_confined (hkind : header.kind = .media) :
    Confined e (e.handleMedia source packet header now unix).1 header.allocationId
      (MediaAccepted e source packet header) := by
  unfold Engine.handleMedia
  split
  · exact .inl ⟨rfl, rfl⟩
  · rename_i a ha
    split
    · exact .inl ⟨rfl, rfl⟩
    · split
      · exact .inl ⟨rfl, rfl⟩
      · split
        · exact .inl ⟨rfl, rfl⟩
        · dsimp only
          split
          · exact .inl ⟨rfl, rfl⟩
          · rename_i sequence hsequence
            split
            · rename_i b other hb hother
              split
              · exact .inl ⟨rfl, rfl⟩
              · rename_i hsource
                split
                · exact .inl ⟨rfl, rfl⟩
                · rename_i hfresh
                  simp only [Bool.not_eq_true', Bool.not_eq_false] at hfresh
                  refine .inr ⟨⟨hkind, a, b, sequence, ha, hb, not_not.mp hsource, hsequence,
                    hfresh⟩, fun id' hne => ?_⟩
                  split <;> simp [hne]
            · exact .inl ⟨rfl, rfl⟩

end Sent

/-- No read of a packet of any length is out of range. The engine answers with at most one datagram,
not longer than the packet; to a Hello or a Bind with one to its source, which it would not read
itself. Allocations only change for a Bind whose cookie and signature verify, or a Media packet that
is accepted for replay, and only the one it names. -/
theorem no_amplification (crypto : Crypto) (htags : crypto.Tags) (e : Engine F)
    (source : SocketAddr) (packet : Bytes) (now : Instant) (unix : Nat) :
    e.handleChecked crypto source packet now unix =
        some (e.handle crypto source packet now unix) ∧
      match Header.parse packet with
      | none => e.handle crypto source packet now unix = (e, [])
      | some header =>
        Bounded source packet header (e.handle crypto source packet now unix).2 ∧
          Confined e (e.handle crypto source packet now unix).1 header.allocationId
            (BindVerified crypto e source packet header unix ∨
              MediaAccepted e source packet header) := by
  refine ⟨handleChecked_eq htags, ?_⟩
  unfold Engine.handle
  cases hparse : Header.parse packet with
  | none => rfl
  | some header =>
    obtain ⟨hlen, hid⟩ := parse_length hparse
    obtain ⟨perIp, global, he⟩ := allowSource_eq e source.ip packet.length now
    dsimp only
    rw [he]
    split
    · exact ⟨.nil, .inl ⟨rfl, rfl⟩⟩
    · split
      · exact ⟨handleHello_bounded htags hid, .inl ⟨rfl, rfl⟩⟩
      · rename_i hkind
        have hbounded : Bounded source packet header (Engine.handleBind crypto
            { e with perIp, global } source packet header now unix).2 := handleBind_bounded hlen hid
        have hconfined : Confined { e with perIp, global } (Engine.handleBind crypto
            { e with perIp, global } source packet header now unix).1 header.allocationId
            (BindVerified crypto { e with perIp, global } source packet header unix) :=
          handleBind_confined hkind
        rcases hconfined with hsame | ⟨⟨-, hcookie, hsignature⟩, hothers⟩
        · exact ⟨hbounded, .inl hsame⟩
        · exact ⟨hbounded, .inr ⟨.inl ⟨hkind, hcookie, hsignature⟩, hothers⟩⟩
      · rename_i hkind
        have hbounded : Bounded source packet header (Engine.handleMedia
            { e with perIp, global } source packet header now unix).2 := handleMedia_bounded hkind
        have hconfined : Confined { e with perIp, global } (Engine.handleMedia
            { e with perIp, global } source packet header now unix).1 header.allocationId
            (MediaAccepted { e with perIp, global } source packet header) :=
          handleMedia_confined hkind
        rcases hconfined with hsame | ⟨⟨-, haccepted⟩, hothers⟩
        · exact ⟨hbounded, .inl hsame⟩
        · exact ⟨hbounded, .inr ⟨.inr ⟨hkind, haccepted⟩, hothers⟩⟩

/-- The Bind of the controller is answered with 32 bytes. -/
theorem no_amplification_bind : sampleCrypto.Tags ∧
    Bounded (sampleSource .controller) (sampleBind .controller) (sampleHeader .bind .controller)
      (sampleWorld.engine.handle sampleCrypto (sampleSource .controller) (sampleBind .controller)
        0 0).2 ∧
    (sampleWorld.engine.handle sampleCrypto (sampleSource .controller) (sampleBind .controller)
      0 0).2.map (fun out => out.bytes.length) = [32] := by
  have htags : sampleCrypto.Tags := fun _ _ => rfl
  have h := no_amplification sampleCrypto htags sampleWorld.engine (sampleSource .controller)
    (sampleBind .controller) 0 0
  have hparse : Header.parse (sampleBind .controller) = some (sampleHeader .bind .controller) := by
    decide +kernel
  simp only [hparse] at h
  exact ⟨htags, h.2.1, by decide +kernel⟩

end Starry.FastMedia
