import Starry.Basic

/-!
# FastMedia relay: packets and grants

The AKR1 header, the part of the AKF1 payload that the relay looks at, and the grant of a Bind.
Integers on the wire are little-endian.
-/

namespace Starry.FastMedia

def protocolVersion : Nat := 1
def akrHeaderBytes : Nat := 32
def helloCookieBytes : Nat := 56
def bindPrefixBytes : Nat := 58
def maxAuthorizationBytes : Nat := 4096
def minRelayDatagram : Nat := 608
def maxRelayDatagram : Nat := 1400
def minAkf1Bytes : Nat := 22 + 16 + 51
def maxGrantTtlSeconds : Nat := 300
def maxIpBuckets : Nat := 4096
def cleanupPerTick : Nat := 64
def cookieEpochSeconds : Nat := 10
def rebindsPerMinute : Nat := 12

/-! ## Bytes -/

def fromLeBytes : Bytes → Nat
  | [] => 0
  | b :: bs => b.toNat + 256 * fromLeBytes bs

/-- The `width` lowest bytes of a number. -/
def toLeBytes : Nat → Nat → Bytes
  | 0, _ => []
  | width + 1, value => UInt8.ofNat value :: toLeBytes width (value / 256)

theorem fromLeBytes_toLeBytes (width value : Nat) :
    fromLeBytes (toLeBytes width value) = value % 256 ^ width := by
  induction width generalizing value with
  | zero => simp [toLeBytes, fromLeBytes, Nat.mod_one]
  | succ width ih =>
    unfold toLeBytes fromLeBytes
    rw [ih, UInt8.toNat_ofNat', pow_succ' 256 width]
    exact Nat.mod_mul.symm

/-- `packet[start..stop]`. -/
def slice (packet : Bytes) (start stop : Nat) : Bytes := (packet.drop start).take (stop - start)

/-- `packet[i]`, of an index that is in range. -/
def byteAt (packet : Bytes) (i : Nat) : UInt8 := packet.getD i 0

/-- `b"AKR1"` -/
def akr1 : Bytes := [0x41, 0x4B, 0x52, 0x31]

/-- `b"AKF1"` -/
def akf1 : Bytes := [0x41, 0x4B, 0x46, 0x31]

/-! ## Header -/

/-- The kinds that a client may send. -/
inductive Kind
  | hello | bind | media
deriving DecidableEq, Repr

def Kind.fromByte (b : UInt8) : Option Kind :=
  if b = 1 then some .hello else if b = 3 then some .bind else if b = 5 then some .media else none

inductive Role
  | controller | target
deriving DecidableEq, Repr

def Role.byte : Role → UInt8
  | .controller => 1
  | .target => 2

def Role.fromByte (b : UInt8) : Option Role :=
  if b = Role.controller.byte then some .controller
  else if b = Role.target.byte then some .target
  else none

def Role.opposite : Role → Role
  | .controller => .target
  | .target => .controller

structure Header where
  kind : Kind
  role : Role
  sessionId : Nat
  allocationId : Bytes
deriving DecidableEq, Repr

def Header.parse (packet : Bytes) : Option Header :=
  if packet.length < akrHeaderBytes || slice packet 0 4 != akr1 ||
      (byteAt packet 4).toNat != protocolVersion || byteAt packet 7 != 0 then none
  else
    match Kind.fromByte (byteAt packet 5), Role.fromByte (byteAt packet 6) with
    | some kind, some role =>
      let sessionId := fromLeBytes (slice packet 8 16)
      let allocationId := slice packet 16 32
      if sessionId = 0 then none
      else if allocationId.all (· == 0) then none
      else some { kind, role, sessionId, allocationId }
    | _, _ => none

def Header.encode (h : Header) (kind : UInt8) : Bytes :=
  akr1 ++ [UInt8.ofNat protocolVersion, kind, h.role.byte, 0] ++ toLeBytes 8 h.sessionId ++
    h.allocationId

/-- The sequence number of an AKF1 payload from `role` in the session. -/
def validateAkf1 (payload : Bytes) (role : Role) (sessionId : Nat) : Option Nat :=
  if payload.length < minAkf1Bytes || slice payload 0 4 != akf1 || byteAt payload 4 != 1 ||
      byteAt payload 5 != role.byte - 1 || fromLeBytes (slice payload 6 14) != sessionId then none
  else
    let sequence := fromLeBytes (slice payload 14 22)
    if 0 < sequence then some sequence else none

/-! ## Grants -/

structure FastRelayAuthorization where
  version : Nat
  sessionUuid : String
  expiresAt : Nat
  allowFastCompat : Bool
  allowFastMediaV1 : Bool
  maxBitrateKbps : Nat
  relayUdpProtocol : Nat
  relayServer : String
  relayUdpPort : Nat
  relayAllocationId : Bytes
  relayMaxDatagram : Nat
  relayEndpointRole : Nat
deriving DecidableEq, Repr

structure GrantInvariant where
  sessionUuidDigest : Bytes
  expiresAt : Nat
  maxBitrateKbps : Nat
  maxDatagram : Nat
deriving DecidableEq, Repr

inductive GrantError
  | role | allocation | other
deriving DecidableEq, Repr

/-- What the relay takes from its libraries: `auth::authenticate` of a message under a key,
`sign::verify` of a signed message under a public key, the protobuf parser and SHA-256. -/
structure Crypto where
  authenticate : Bytes → Bytes → Bytes
  verify : Bytes → Bytes → Option Bytes
  parseGrant : Bytes → Option FastRelayAuthorization
  sha256 : Bytes → Bytes

def GrantInvariant.validated (crypto : Crypto) (grant : FastRelayAuthorization) (header : Header)
    (relayServer : String) (udpPort unix : Nat) : Except GrantError GrantInvariant :=
  if grant.relayEndpointRole ≠ header.role.byte.toNat then .error .role
  else if grant.relayAllocationId ≠ header.allocationId then .error .allocation
  else if grant.version ≠ protocolVersion ∨ grant.sessionUuid.isEmpty = true ∨
      grant.sessionUuid.utf8ByteSize > 128 ∨ grant.allowFastMediaV1 = false ∨
      grant.allowFastCompat = false ∨ grant.relayUdpProtocol ≠ protocolVersion ∨
      eqIgnoreAsciiCase grant.relayServer relayServer = false ∨ grant.relayUdpPort ≠ udpPort ∨
      ¬ (minRelayDatagram ≤ grant.relayMaxDatagram ∧ grant.relayMaxDatagram ≤ maxRelayDatagram) ∨
      ¬ (1000 ≤ grant.maxBitrateKbps ∧ grant.maxBitrateKbps ≤ 200000) ∨
      grant.expiresAt ≤ unix ∨ grant.expiresAt > satAdd unix maxGrantTtlSeconds then .error .other
  else
    .ok
      { sessionUuidDigest := crypto.sha256 (asBytes grant.sessionUuid)
        expiresAt := grant.expiresAt
        maxBitrateKbps := grant.maxBitrateKbps
        maxDatagram := grant.relayMaxDatagram }

/-- A grant that is accepted is for the role and the allocation of its header, and has not
expired. -/
theorem validated_ok {crypto : Crypto} {grant : FastRelayAuthorization} {header : Header}
    {relayServer : String} {udpPort unix : Nat} {inv : GrantInvariant}
    (h : GrantInvariant.validated crypto grant header relayServer udpPort unix = .ok inv) :
    grant.relayEndpointRole = header.role.byte.toNat ∧
      grant.relayAllocationId = header.allocationId ∧ unix < inv.expiresAt := by
  unfold GrantInvariant.validated at h
  split at h
  · cases h
  · rename_i h1
    split at h
    · cases h
    · rename_i h2
      split at h
      · cases h
      · rename_i h3
        cases h
        simp only [not_or, not_le] at h3
        exact ⟨not_not.mp h1, not_not.mp h2, h3.2.2.2.2.2.2.2.2.2.2.1⟩

end Starry.FastMedia
