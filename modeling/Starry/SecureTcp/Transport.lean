import Starry.FastMedia.Packet

/-!
# Secure TCP

The negotiation of a native TCP connection, and the transports that it ends with. libsodium and the
Protobuf coding of the messages are parameters.
-/

namespace Starry.SecureTcp

open Starry.FastMedia (fromLeBytes toLeBytes)

inductive ErrorKind
  | invalidInput | invalidData | unexpectedEof | timedOut | other
deriving DecidableEq, Repr

structure IoError where
  kind : ErrorKind
  message : String
deriving DecidableEq, Repr

/-- The `union` of a `RendezvousMessage`, as far as the negotiation reads it. -/
inductive Message
  | keyExchange (keys : List Bytes)
  | other
deriving DecidableEq, Repr

structure Env where
  /-- `secretbox::seal`: plaintext, nonce, key. -/
  secretboxSeal : Bytes → Bytes → Bytes → Bytes
  /-- `secretbox::open`: ciphertext, nonce, key. -/
  secretboxOpen : Bytes → Bytes → Bytes → Option Bytes
  /-- `box_::open`: ciphertext, nonce, public key, secret key. -/
  boxOpen : Bytes → Bytes → Bytes → Bytes → Option Bytes
  toCurve25519Pk : Bytes → Option Bytes
  toCurve25519Sk : Bytes → Option Bytes
  parseFromBytes : Bytes → Except String Message

def keyBytes : Nat := 32
def nonceBytes : Nat := 24
def macBytes : Nat := 16
def boxMacBytes : Nat := 16
def boxPublicKeyBytes : Nat := 32
def signSecretKeyBytes : Nat := 64
def signPublicKeyBytes : Nat := 32

inductive SecureTcpMode
  | off | auto
deriving DecidableEq, Repr

structure SecureTcpConfig where
  mode : SecureTcpMode
deriving DecidableEq, Repr

/-! ## The cipher -/

structure SecureCipher where
  key : Bytes
  sequence : Nat
deriving DecidableEq, Repr

namespace SecureCipher

variable (env : Env) (cipher : SecureCipher)

def new (key : Bytes) : SecureCipher := ⟨key, 0⟩

/-- The nonce of a sequence number. -/
def nonceOf (sequence : Nat) : Bytes := toLeBytes 8 sequence ++ List.replicate (nonceBytes - 8) 0

def nextNonce : Except IoError Bytes × SecureCipher :=
  if cipher.sequence < u64Max then
    (.ok (nonceOf (cipher.sequence + 1)), { cipher with sequence := cipher.sequence + 1 })
  else (.error ⟨.invalidData, "Secure TCP nonce sequence exhausted"⟩, cipher)

def encrypt (plaintext : Bytes) : Except IoError Bytes × SecureCipher :=
  match cipher.nextNonce with
  | (.ok nonce, cipher) => (.ok (env.secretboxSeal plaintext nonce cipher.key), cipher)
  | (.error e, cipher) => (.error e, cipher)

def decrypt (ciphertext : Bytes) : Except IoError Bytes × SecureCipher :=
  if ciphertext.length < macBytes then
    (.error ⟨.invalidData, "encrypted frame is shorter than the authentication tag"⟩, cipher)
  else match cipher.nextNonce with
    | (.ok nonce, cipher) => match env.secretboxOpen ciphertext nonce cipher.key with
      | some plaintext => (.ok plaintext, cipher)
      | none => (.error ⟨.invalidData, "Secure TCP frame authentication failed"⟩, cipher)
    | (.error e, cipher) => (.error e, cipher)

end SecureCipher

/-! ## The transports -/

inductive TcpWriteTransport
  | plain
  | secure (cipher : SecureCipher)
deriving DecidableEq, Repr

inductive TcpReadTransport
  | plain
  | secure (cipher : SecureCipher)
deriving DecidableEq, Repr

/-- What `send` hands to the sink. -/
def TcpWriteTransport.send (env : Env) (bytes : Bytes) :
    TcpWriteTransport → Except IoError Bytes × TcpWriteTransport
  | .plain => (.ok bytes, .plain)
  | .secure cipher =>
    let (encrypted, cipher) := cipher.encrypt env bytes
    (encrypted, .secure cipher)

/-- What `next` returns, of what the stream of frames returns to it. -/
def TcpReadTransport.next (env : Env) (frame : Option (Except IoError Bytes)) :
    TcpReadTransport → Option (Except IoError Bytes) × TcpReadTransport
  | .plain => (frame, .plain)
  | .secure cipher => match frame with
    | some (.ok bytes) =>
      let (plaintext, cipher) := cipher.decrypt env bytes
      (some plaintext, .secure cipher)
    | some (.error e) => (some (.error e), .secure cipher)
    | none => (none, .secure cipher)

/-! ## Negotiation -/

structure NegotiatedTcp where
  sink : TcpWriteTransport
  stream : TcpReadTransport
  firstPlaintext : Option Bytes
  secured : Bool
deriving DecidableEq, Repr

def plainTransport (firstPlaintext : Option Bytes) : NegotiatedTcp :=
  ⟨.plain, .plain, firstPlaintext, false⟩

/-- The transports of a key. -/
def secureTransport (key : Bytes) : NegotiatedTcp :=
  ⟨.secure (.new key), .secure (.new key), none, true⟩

def signingKeypair (env : Env) (signingKey : Bytes) : Except IoError (Bytes × Bytes) := do
  let publicKey := signingKey.drop (signSecretKeyBytes - signPublicKeyBytes)
  let curvePublic ← (env.toCurve25519Pk publicKey).elim (.error ⟨.invalidData,
    "cannot convert the server Ed25519 public key to Curve25519"⟩) .ok
  let curveSecret ← (env.toCurve25519Sk signingKey).elim (.error ⟨.invalidData,
    "cannot convert the server Ed25519 secret key to Curve25519"⟩) .ok
  return (curvePublic, curveSecret)

def openClientKey (env : Env) (keys : List Bytes) (curveSecretKey : Bytes) :
    Except IoError Bytes :=
  match keys with
  | [clientPublicKey, sealedKey] =>
    if clientPublicKey.length ≠ boxPublicKeyBytes then
      .error ⟨.invalidData, "client Curve25519 public key has an invalid length"⟩
    else if sealedKey.length ≠ keyBytes + boxMacBytes then
      .error ⟨.invalidData, "sealed client symmetric key has an invalid length"⟩
    else match env.boxOpen sealedKey (List.replicate nonceBytes 0) clientPublicKey
        curveSecretKey with
      | none => .error ⟨.invalidData, "cannot authenticate the client symmetric key"⟩
      | some opened =>
        if opened.length ≠ keyBytes then
          .error ⟨.invalidData, "client symmetric key has an invalid length"⟩
        else .ok opened
  | _ => .error ⟨.invalidData, "client key exchange must contain exactly two values"⟩

/-- How the wait for the client's first frame ends. -/
inductive FirstFrame
  | received (bytes : Bytes)
  | failed (e : IoError)
  | closed
  | timedOut
deriving DecidableEq, Repr

def FirstFrame.bytes : FirstFrame → Except IoError Bytes
  | .received bytes => .ok bytes
  | .failed e => .error e
  | .closed => .error ⟨.unexpectedEof, "connection closed during Secure TCP negotiation"⟩
  | .timedOut => .error ⟨.timedOut, "Secure TCP negotiation timed out"⟩

/-- `sent` is the outcome of `send_server_key_exchange`. -/
def negotiate (env : Env) (signingKey : Option Bytes) (config : SecureTcpConfig)
    (sent : Except IoError Unit) (first : FirstFrame) : Except IoError NegotiatedTcp :=
  match config.mode, signingKey with
  | .off, _ | _, none => .ok (plainTransport none)
  | .auto, some signingKey => do
    let (_, curveSecretKey) ← signingKeypair env signingKey
    sent
    let bytes ← first.bytes
    match env.parseFromBytes bytes with
    | .error err => .error ⟨.invalidData, "invalid first Rendezvous frame: " ++ err⟩
    | .ok (.keyExchange keys) => do
      let key ← openClientKey env keys curveSecretKey
      return secureTransport key
    | .ok .other => return plainTransport (some bytes)

/-! ## What they do -/

section Specs

open SecureCipher (nonceOf)

variable {env : Env} {cipher : SecureCipher} {n : NegotiatedTcp}

/-- Both ciphers of a secured connection start with one key. -/
theorem negotiate_secured {signingKey : Option Bytes} {config : SecureTcpConfig}
    {sent : Except IoError Unit} {first : FirstFrame}
    (h : negotiate env signingKey config sent first = .ok n) (hsecured : n.secured = true) :
    ∃ key, n = secureTransport key := by
  have hplain : ∀ first, .ok (plainTransport first) = (.ok n : Except IoError NegotiatedTcp) →
      ∃ key, n = secureTransport key := by
    rintro first heq
    injection heq with heq
    subst heq
    simp [plainTransport] at hsecured
  unfold negotiate at h
  split at h
  · exact hplain _ h
  · exact hplain _ h
  · obtain ⟨keypair, -, h⟩ := bind_eq_ok.mp h
    obtain ⟨-, -, h⟩ := bind_eq_ok.mp h
    obtain ⟨bytes, -, h⟩ := bind_eq_ok.mp h
    split at h
    · simp at h
    · obtain ⟨key, -, h⟩ := bind_eq_ok.mp h
      injection h with h
      exact ⟨key, h.symm⟩
    · exact hplain _ h

theorem nonceOf_inj {a b : Nat} (ha : a ≤ u64Max) (hb : b ≤ u64Max)
    (h : nonceOf a = nonceOf b) : a = b := by
  unfold nonceOf at h
  have hbytes : toLeBytes 8 a = toLeBytes 8 b := List.append_cancel_right h
  have hvalue := congrArg fromLeBytes hbytes
  rw [FastMedia.fromLeBytes_toLeBytes, FastMedia.fromLeBytes_toLeBytes] at hvalue
  unfold u64Max at ha hb
  omega

theorem encrypt_spec (env : Env) (cipher : SecureCipher) (plaintext : Bytes) :
    (∃ e, cipher.encrypt env plaintext = (.error e, cipher)) ∨
    cipher.sequence < u64Max ∧ cipher.nextNonce.1 = .ok (nonceOf (cipher.sequence + 1)) ∧
      cipher.encrypt env plaintext =
        (.ok (env.secretboxSeal plaintext (nonceOf (cipher.sequence + 1)) cipher.key),
          { cipher with sequence := cipher.sequence + 1 }) := by
  unfold SecureCipher.encrypt SecureCipher.nextNonce
  by_cases hlt : cipher.sequence < u64Max
  · right
    simp [hlt]
  · left
    simp [hlt]

theorem decrypt_spec (env : Env) (cipher : SecureCipher) (frame : Bytes) :
    (∃ e sequence, cipher.decrypt env frame = (.error e, { cipher with sequence })) ∨
    cipher.sequence < u64Max ∧ cipher.nextNonce.1 = .ok (nonceOf (cipher.sequence + 1)) ∧
      ∃ m, env.secretboxOpen frame (nonceOf (cipher.sequence + 1)) cipher.key = some m ∧
        cipher.decrypt env frame = (.ok m, { cipher with sequence := cipher.sequence + 1 }) := by
  unfold SecureCipher.decrypt SecureCipher.nextNonce
  by_cases hshort : frame.length < macBytes
  · exact .inl ⟨_, cipher.sequence, by rw [if_pos hshort]⟩
  rw [if_neg hshort]
  by_cases hlt : cipher.sequence < u64Max
  · simp only [hlt, if_true]
    split
    · rename_i m hopen
      exact .inr ⟨trivial, trivial, m, hopen, rfl⟩
    · exact .inl ⟨_, _, rfl⟩
  · exact .inl ⟨_, cipher.sequence, by rw [if_neg hlt]⟩

end Specs

end Starry.SecureTcp
