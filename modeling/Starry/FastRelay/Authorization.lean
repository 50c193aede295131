import Starry.FastMedia.Packet
import Starry.Observer.Snapshot

/-!
# Signed authorizations (`fast_relay.rs`)

The configuration that HBBS issues grants under, the protobuf encoding of a grant and its
signature. The encoding is written out because the relay limits its size.
-/

open Starry.FastMedia (FastRelayAuthorization)
open Starry.Observer (FastMediaRelayEndpoint)

namespace Starry.FastRelay

def protocolVersion : Nat := 1
def endpointController : Nat := 1
def endpointTarget : Nat := 2
def maxSessionUuidBytes : Nat := 128
def signingRateWindowSeconds : Nat := 60
def maxSignaturesPerSourcePerMinute : Nat := 120
def minRelayDatagram : Nat := 608
def maxRelayDatagram : Nat := 1400

structure FastRelayConfig where
  fastCompatEnabled : Bool
  fastMediaV1Enabled : Bool
  authorizationTtlSeconds : Nat
  maxBitrateKbps : Nat
  relayMaxDatagram : Nat
deriving DecidableEq, Repr

structure PolicySnapshot where
  generation : Nat
  config : FastRelayConfig
  maxAuthorizations : Nat
deriving DecidableEq, Repr

/-! ## Encoding -/

/-- A base 128 varint of at most `fuel + 1` bytes. -/
def varint : Nat → Nat → Bytes
  | 0, n => [UInt8.ofNat (n % 128)]
  | fuel + 1, n =>
    if n < 128 then [UInt8.ofNat n]
    else UInt8.ofNat (n % 128 + 128) :: varint fuel (n / 128)

/-- An integer or boolean field of proto3. The default is left out. -/
def varintField (tag value : Nat) : Bytes :=
  if value = 0 then [] else UInt8.ofNat (tag * 8) :: varint 9 value

/-- A string or bytes field. -/
def bytesField (tag : Nat) (value : Bytes) : Bytes :=
  if value.isEmpty then [] else UInt8.ofNat (tag * 8 + 2) :: varint 9 value.length ++ value

/-- `write_to_bytes` of a `FastRelayAuthorization`. -/
def encodeAuthorization (g : FastRelayAuthorization) : Bytes :=
  varintField 1 g.version ++ bytesField 2 (asBytes g.sessionUuid) ++ varintField 3 g.expiresAt ++
  varintField 4 g.allowFastCompat.toNat ++ varintField 5 g.allowFastMediaV1.toNat ++
  varintField 6 g.maxBitrateKbps ++ varintField 7 g.relayUdpProtocol ++
  bytesField 8 (asBytes g.relayServer) ++ varintField 9 g.relayUdpPort ++
  bytesField 10 g.relayAllocationId ++ varintField 11 g.relayMaxDatagram ++
  varintField 12 g.relayEndpointRole

theorem varint_length (fuel n : Nat) : (varint fuel n).length ≤ fuel + 1 := by
  induction fuel generalizing n with
  | zero => simp [varint]
  | succ fuel ih =>
    unfold varint
    split
    · simp
    · have := ih (n / 128)
      simp only [List.length_cons]
      omega

theorem varintField_length (tag value : Nat) : (varintField tag value).length ≤ 11 := by
  unfold varintField
  split
  · simp
  · have := varint_length 9 value
    simp only [List.length_cons]
    omega

theorem bytesField_length (tag : Nat) (value : Bytes) :
    (bytesField tag value).length ≤ 11 + value.length := by
  unfold bytesField
  split
  · simp
  · have := varint_length 9 value.length
    simp only [List.cons_append, List.length_cons, List.length_append]
    omega

theorem asBytes_length (s : String) : (asBytes s).length = s.utf8ByteSize := rfl

theorem encodeAuthorization_length (g : FastRelayAuthorization) :
    (encodeAuthorization g).length ≤ 132 + g.sessionUuid.utf8ByteSize +
      g.relayServer.utf8ByteSize + g.relayAllocationId.length := by
  have hv := varintField_length
  have h1 := hv 1 g.version
  have h2 := bytesField_length 2 (asBytes g.sessionUuid)
  have h3 := hv 3 g.expiresAt
  have h4 := hv 4 g.allowFastCompat.toNat
  have h5 := hv 5 g.allowFastMediaV1.toNat
  have h6 := hv 6 g.maxBitrateKbps
  have h7 := hv 7 g.relayUdpProtocol
  have h8 := bytesField_length 8 (asBytes g.relayServer)
  have h9 := hv 9 g.relayUdpPort
  have h10 := bytesField_length 10 g.relayAllocationId
  have h11 := hv 11 g.relayMaxDatagram
  have h12 := hv 12 g.relayEndpointRole
  rw [asBytes_length] at h2 h8
  simp only [encodeAuthorization, List.length_append]
  omega

/-! ## Signing -/

/-- `sign::SecretKey` -/
abbrev SecretKey := Bytes

/-- `sign::sign` of a message under a secret key. -/
abbrev Sign := Bytes → SecretKey → Bytes

/-- The payload of a grant. -/
def authorizationPayload (sessionUuid : String) (expiresAt : Nat) (config : FastRelayConfig)
    (selectedRelay : String) (endpoint : Option FastMediaRelayEndpoint)
    (relayAllocationId : Option Bytes) (endpointRole : Nat) : FastRelayAuthorization :=
  { version := protocolVersion
    sessionUuid
    expiresAt
    allowFastCompat := config.fastCompatEnabled || endpoint.isSome
    allowFastMediaV1 := endpoint.isSome
    maxBitrateKbps := config.maxBitrateKbps
    relayUdpProtocol := (endpoint.map (·.protocol)).getD 0
    relayServer := selectedRelay
    relayUdpPort := (endpoint.map fun e => e.udpPort.toNat).getD 0
    relayAllocationId := relayAllocationId.getD []
    relayMaxDatagram := if endpoint.isSome then config.relayMaxDatagram else 0
    relayEndpointRole := if endpoint.isSome then endpointRole else 0 }

def buildSignedAuthorization (sign : Sign) (sessionUuid : String) (expiresAt : Nat)
    (config : FastRelayConfig) (selectedRelay : String) (endpoint : Option FastMediaRelayEndpoint)
    (relayAllocationId : Option Bytes) (endpointRole : Nat) (signingKey : SecretKey) :
    Option Bytes :=
  if sessionUuid.isEmpty || decide (sessionUuid.utf8ByteSize > maxSessionUuidBytes) ||
      !(decide (1000 ≤ config.maxBitrateKbps) && decide (config.maxBitrateKbps ≤ 200000)) ||
      selectedRelay.isEmpty ||
      (endpoint.isSome && (relayAllocationId.map List.length != some 16 ||
        !(endpointRole == endpointController || endpointRole == endpointTarget))) then none
  else
    let payload := authorizationPayload sessionUuid expiresAt config selectedRelay endpoint
      relayAllocationId endpointRole
    some (sign (encodeAuthorization payload) signingKey)

end Starry.FastRelay
