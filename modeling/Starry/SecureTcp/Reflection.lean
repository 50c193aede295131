import Starry.Library.Run
import Starry.SecureTcp.Transport

/-!
# What a secured connection delivers

Both ends of a connection start with the same transports. The network is the attacker's: any frame
may reach either end at any time, as long as one that opens was sealed by one of the ends.
-/

open Library

namespace Starry.SecureTcp

open SecureCipher (nonceOf)

/-! ## Steps -/

inductive Side
  | server | client
deriving DecidableEq, Repr

def Side.peer : Side → Side
  | .server => .client
  | .client => .server

/-- A use of a key and a nonce. -/
structure Sealed where
  key : Bytes
  nonce : Bytes
  plaintext : Bytes
  frame : Bytes
deriving DecidableEq, Repr

/-- A call of `next`. -/
structure Read where
  frame : Except IoError Bytes
  result : Except IoError Bytes

structure Party where
  sink : TcpWriteTransport
  stream : TcpReadTransport
  /-- What its write transport has sealed. -/
  sent : List Sealed
  reads : List Read

abbrev Connection := Side → Party

def Connection.start (n : NegotiatedTcp) : Connection := fun _ => ⟨n.sink, n.stream, [], []⟩

inductive Move
  | send (side : Side) (bytes : Bytes)
  | deliver (side : Side) (frame : Option (Except IoError Bytes))

/-- What a send seals, if it returns `frame`. -/
def TcpWriteTransport.sealing (plaintext : Bytes) (frame : Except IoError Bytes) :
    TcpWriteTransport → List Sealed
  | .plain => []
  | .secure cipher => match cipher.nextNonce.1, frame with
    | .ok nonce, .ok frame => [⟨cipher.key, nonce, plaintext, frame⟩]
    | _, _ => []

namespace Party

variable (env : Env) (p : Party)

def send (bytes : Bytes) : Party :=
  let (frame, sink) := p.sink.send env bytes
  { p with sink, sent := p.sent ++ p.sink.sealing bytes frame }

def deliver (frame : Option (Except IoError Bytes)) : Party :=
  let (result, stream) := p.stream.next env frame
  { p with
    stream
    reads := p.reads ++ (frame.bind fun frame => result.map fun result => ⟨frame, result⟩).toList }

end Party

namespace Connection

variable (env : Env) (c : Connection)

def step : Move → Option Connection
  | .send side bytes => some (Function.update c side ((c side).send env bytes))
  | .deliver side frame => some (Function.update c side ((c side).deliver env frame))

/-- Ideal authentication: a frame that opens was sealed with the key and the nonce. -/
def authentic : Move → Bool
  | .send _ _ => true
  | .deliver side frame => match (c side).stream, frame with
    | .secure cipher, some (.ok frame) => match cipher.nextNonce.1 with
      | .ok nonce => match env.secretboxOpen frame nonce cipher.key with
        | some m => [Side.server, .client].any fun origin =>
          (c origin).sent.contains ⟨cipher.key, nonce, m, frame⟩
        | none => true
      | .error _ => true
    | _, _ => true

end Connection

/-- The steps of a connection whose network is the attacker's. -/
abbrev Attacked (env : Env) : Connection → Move → Connection → Prop :=
  Guarded (Connection.step env) (Connection.authentic env)

/-- What the calls of `next` return up to the first error. -/
def beforeError : List Read → List Bytes
  | [] => []
  | r :: rs => match r.result with
    | .ok plaintext => plaintext :: beforeError rs
    | .error _ => []

/-- The plaintexts that `side` reads before its first error. -/
def Connection.returned (c : Connection) (side : Side) : List Bytes := beforeError (c side).reads

/-- The plaintexts that `side` seals. -/
def Connection.sealed (c : Connection) (side : Side) : List Bytes :=
  (c side).sent.map Sealed.plaintext

/-- One of the frames that reached `side` is its own. -/
def Connection.Reflected (c : Connection) (side : Side) : Prop :=
  ∃ x ∈ (c side).sent, ∃ r ∈ (c side).reads, r.frame = .ok x.frame

/-! ## Up to the first error -/

/-- A further read adds its plaintext, unless there was an error. -/
theorem getElem?_beforeError_snoc {rs : List Read} {r : Read} {k : Nat} {m : Bytes}
    (h : (beforeError (rs ++ [r]))[k]? = some m) :
    (beforeError rs)[k]? = some m ∨
      k = rs.length ∧ r.result = .ok m ∧ ∀ r ∈ rs, r.result.isOk = true := by
  induction rs generalizing k with
  | nil =>
    right
    simp only [List.nil_append, beforeError] at h
    split at h
    · rename_i plaintext hr
      simp only [List.getElem?_singleton] at h
      split at h
      · rename_i hk
        injection h with h
        subst h
        exact ⟨hk, hr, by simp⟩
      · simp at h
    · simp at h
  | cons r' rs ih =>
    simp only [List.cons_append, beforeError] at h ⊢
    split at h
    · rename_i plaintext hr
      cases k with
      | zero => exact .inl h
      | succ k =>
        rcases ih (by simpa using h) with hbefore | ⟨hk, hlast, hall⟩
        · exact .inl (by simpa using hbefore)
        · right
          refine ⟨by simpa using hk, hlast, fun x hx => ?_⟩
          rcases List.mem_cons.mp hx with rfl | hx
          · rw [hr]
            rfl
          · exact hall x hx
    · simp at h

/-! ## The invariant -/

/-- The `k`-th use of a key is with nonce `k + 1`. -/
def InOrder (key : Bytes) (sent : List Sealed) : Prop :=
  ∀ k x, sent[k]? = some x → x.key = key ∧ x.nonce = nonceOf (k + 1)

/-- A party of a connection with one key. -/
structure Party.Framed (key : Bytes) (p : Party) : Prop where
  sink : p.sink = .secure ⟨key, p.sent.length⟩
  bounded : p.sent.length ≤ u64Max
  inOrder : InOrder key p.sent
  stream : ∃ sequence, p.stream = .secure ⟨key, sequence⟩ ∧
    ((∀ r ∈ p.reads, r.result.isOk = true) → sequence = p.reads.length)

/-- What is read at `k` was sealed at `k`, by one of the ends. -/
def Connection.Paired (c : Connection) (side : Side) : Prop :=
  ∀ (k : Nat) (m : Bytes), (c.returned side)[k]? = some m → ∃ (origin : Side) (x : Sealed) (r : Read),
    (c origin).sent[k]? = some x ∧ x.plaintext = m ∧
      (c side).reads[k]? = some r ∧ r.frame = .ok x.frame

section Invariant

variable {env : Env} {key : Bytes} {c c' : Connection} {side : Side} {p : Party}

theorem InOrder.index {sent sent' : List Sealed} {x x' : Sealed} {k k' : Nat}
    (h : InOrder key sent) (h' : InOrder key sent') (hlen : sent.length ≤ u64Max)
    (hlen' : sent'.length ≤ u64Max) (hx : sent[k]? = some x) (hx' : sent'[k']? = some x')
    (hnonce : x.nonce = x'.nonce) : k = k' := by
  have hk : k < sent.length := (List.getElem?_eq_some_iff.mp hx).1
  have hk' : k' < sent'.length := (List.getElem?_eq_some_iff.mp hx').1
  rw [(h k x hx).2, (h' k' x' hx').2] at hnonce
  have hsame := nonceOf_inj (by omega) (by omega) hnonce
  omega

theorem Party.Framed.send (h : p.Framed key) (bytes : Bytes) : (p.send env bytes).Framed key := by
  unfold Party.send TcpWriteTransport.send
  rw [h.sink]
  simp only [TcpWriteTransport.sealing]
  rcases encrypt_spec env ⟨key, p.sent.length⟩ bytes with ⟨e, herror⟩ | ⟨hlt, hnonce, hok⟩
  · -- The sequence is exhausted, and the sink gets nothing.
    have hnone : ∀ nonce : Except IoError Bytes, (match nonce, (.error e : Except IoError Bytes) with
        | .ok nonce, .ok frame => [Sealed.mk key nonce bytes frame]
        | _, _ => []) = [] := by
      intro nonce
      cases nonce <;> rfl
    simp only [herror, hnone, List.append_nil]
    exact ⟨rfl, h.bounded, h.inOrder, h.stream⟩
  · simp only [hok, hnonce]
    change p.sent.length < u64Max at hlt
    refine ⟨by simp, by simp only [List.length_append, List.length_singleton]; omega, ?_, h.stream⟩
    intro k x hx
    rw [List.getElem?_append] at hx
    split at hx
    · exact h.inOrder k x hx
    · rename_i hk
      simp only [List.getElem?_singleton] at hx
      split at hx
      · injection hx with hx
        subst hx
        have hlast : k = p.sent.length := by omega
        exact ⟨rfl, by rw [hlast]⟩
      · simp at hx

/-- What one call of `next` adds. -/
theorem Party.Framed.deliver (env : Env) (h : p.Framed key) (frame : Option (Except IoError Bytes)) :
    (p.deliver env frame).Framed key ∧ (p.deliver env frame).sent = p.sent ∧
    ((p.deliver env frame).reads = p.reads ∨
      ∃ r, frame = some r.frame ∧ (p.deliver env frame).reads = p.reads ++ [r] ∧
        ((∃ e, r.result = .error e) ∨ ∃ bytes m cipher, r.frame = .ok bytes ∧ r.result = .ok m ∧
          p.stream = .secure cipher ∧ cipher.key = key ∧ cipher.sequence < u64Max ∧
          cipher.nextNonce.1 = .ok (nonceOf (cipher.sequence + 1)) ∧
          env.secretboxOpen bytes (nonceOf (cipher.sequence + 1)) key = some m)) := by
  obtain ⟨sequence, hstream, hsequence⟩ := h.stream
  have hfailed : ∀ (r : Read) (e : IoError), r.result = .error e →
      ¬ ∀ x ∈ p.reads ++ [r], x.result.isOk = true := by
    intro r e he hall
    have hlast := hall r (by simp)
    rw [he] at hlast
    simp [Except.isOk, Except.toBool] at hlast
  unfold Party.deliver TcpReadTransport.next
  rw [hstream]
  cases frame with
  | none => exact ⟨by simpa using ⟨h.sink, h.bounded, h.inOrder, sequence, rfl, hsequence⟩, rfl,
      .inl (by simp)⟩
  | some frame =>
    cases frame with
    | error e =>
      let r : Read := ⟨.error e, .error e⟩
      exact ⟨⟨h.sink, h.bounded, h.inOrder, sequence, rfl, fun hall =>
        absurd hall (hfailed r e rfl)⟩, rfl, .inr ⟨r, rfl, rfl, .inl ⟨e, rfl⟩⟩⟩
    | ok bytes =>
      rcases decrypt_spec env ⟨key, sequence⟩ bytes with
        ⟨e, sequence', herror⟩ | ⟨hlt, hnonce, m, hopen, hok⟩
      · simp only [herror]
        let r : Read := ⟨.ok bytes, .error e⟩
        exact ⟨⟨h.sink, h.bounded, h.inOrder, sequence', rfl, fun hall =>
          absurd hall (hfailed r e rfl)⟩, trivial, .inr ⟨r, rfl, rfl, .inl ⟨e, rfl⟩⟩⟩
      · simp only [hok]
        let r : Read := ⟨.ok bytes, .ok m⟩
        refine ⟨⟨h.sink, h.bounded, h.inOrder, sequence + 1, rfl, fun hall => ?_⟩, trivial,
          .inr ⟨r, rfl, rfl, .inr ⟨bytes, m, _, rfl, rfl, rfl, rfl, hlt, hnonce, hopen⟩⟩⟩
        have hbefore := hsequence fun x hx => hall x (List.mem_append_left _ hx)
        simp [hbefore]

theorem Connection.opened_of_authentic {bytes nonce m : Bytes} {cipher : SecureCipher}
    (h : c.authentic env (.deliver side (some (.ok bytes))) = true)
    (hstream : (c side).stream = .secure cipher) (hnonce : cipher.nextNonce.1 = .ok nonce)
    (hopen : env.secretboxOpen bytes nonce cipher.key = some m) :
    ∃ origin, ⟨cipher.key, nonce, m, bytes⟩ ∈ (c origin).sent := by
  simp only [Connection.authentic, hstream, hnonce, hopen, List.any_cons, List.any_nil,
    Bool.or_false, Bool.or_eq_true, List.contains_iff_mem] at h
  exact h.elim (fun h => ⟨_, h⟩) fun h => ⟨_, h⟩

/-- Both ends keep their order, and read only what was sealed at that place. -/
structure Connection.Framed (key : Bytes) (c : Connection) : Prop where
  party : ∀ side, (c side).Framed key
  paired : ∀ side, c.Paired side

theorem Connection.Framed.start (key : Bytes) :
    (Connection.start (secureTransport key)).Framed key := by
  refine ⟨fun side => ⟨rfl, Nat.zero_le _, ?_, 0, rfl, fun _ => rfl⟩, fun side k m hm => ?_⟩
  · intro k x hx
    simp [Connection.start] at hx
  · simp [Connection.returned, Connection.start, beforeError] at hm

/-- What was sealed stays where it is. -/
theorem Connection.Paired.mono (h : c.Paired side) (hside : (c' side).reads = (c side).reads)
    (hsent : ∀ origin, (c origin).sent <+: (c' origin).sent) : c'.Paired side := by
  intro k m hm
  unfold Connection.returned at hm
  rw [hside] at hm ⊢
  obtain ⟨origin, x, r, hx, hrest⟩ := h k m hm
  obtain ⟨more, hmore⟩ := hsent origin
  have hlt := (List.getElem?_eq_some_iff.mp hx).1
  refine ⟨origin, x, r, ?_, hrest⟩
  rw [← hmore, List.getElem?_append_left hlt, hx]

theorem sent_update (hp : (c side).sent <+: p.sent) (origin : Side) :
    (c origin).sent <+: (Function.update c side p origin).sent := by
  by_cases ho : origin = side
  · rw [ho, Function.update_self]
    exact hp
  · rw [Function.update_of_ne ho]

/-- One end changes, and keeps what it has sealed. -/
theorem Connection.Framed.update (h : c.Framed key) (hp : p.Framed key)
    (hsent : (c side).sent <+: p.sent)
    (hpaired : Connection.Paired (Function.update c side p) side) :
    Connection.Framed key (Function.update c side p) := by
  refine ⟨fun other => ?_, fun other => ?_⟩
  · by_cases ho : other = side
    · rw [ho, Function.update_self]
      exact hp
    · rw [Function.update_of_ne ho]
      exact h.party other
  · by_cases ho : other = side
    · rw [ho]
      exact hpaired
    · exact (h.paired other).mono (by rw [Function.update_of_ne ho]) (sent_update hsent)

/-- An opened frame was sealed at the place of the read. -/
theorem Connection.Framed.opened {bytes m : Bytes} {cipher : SecureCipher} (h : c.Framed key)
    (hauthentic : c.authentic env (.deliver side (some (.ok bytes))) = true)
    (hstream : (c side).stream = .secure cipher) (hkey : cipher.key = key)
    (hlt : cipher.sequence < u64Max)
    (hnonce : cipher.nextNonce.1 = .ok (nonceOf (cipher.sequence + 1)))
    (hopen : env.secretboxOpen bytes (nonceOf (cipher.sequence + 1)) key = some m) :
    ∃ origin, (c origin).sent[cipher.sequence]? =
      some ⟨key, nonceOf (cipher.sequence + 1), m, bytes⟩ := by
  rw [← hkey] at hopen
  obtain ⟨origin, hmem⟩ := c.opened_of_authentic hauthentic hstream hnonce hopen
  rw [hkey] at hmem
  obtain ⟨j, hj⟩ := List.mem_iff_getElem?.mp hmem
  have hlen : j < (c origin).sent.length := (List.getElem?_eq_some_iff.mp hj).1
  have hbounded := (h.party origin).bounded
  have hsame : nonceOf (cipher.sequence + 1) = nonceOf (j + 1) :=
    ((h.party origin).inOrder j _ hj).2
  have hplace := nonceOf_inj (by omega) (by omega) hsame
  have hindex : cipher.sequence = j := by omega
  exact ⟨origin, hindex ▸ hj⟩

theorem Connection.Framed.deliver {frame : Option (Except IoError Bytes)} (h : c.Framed key)
    (hauthentic : c.authentic env (.deliver side frame) = true) :
    Connection.Framed key (Function.update c side ((c side).deliver env frame)) := by
  obtain ⟨hp, hsent, hreads⟩ := (h.party side).deliver env frame
  have hkept : (c side).sent <+: ((c side).deliver env frame).sent := by rw [hsent]
  refine h.update hp hkept ?_
  rcases hreads with hsame | ⟨r, rfl, hmore, hresult⟩
  · exact (h.paired side).mono (by rw [Function.update_self, hsame]) (sent_update hkept)
  · intro k m hm
    have hreads : (Function.update c side ((c side).deliver env (some r.frame)) side).reads =
        (c side).reads ++ [r] := by rw [Function.update_self, hmore]
    unfold Connection.returned at hm
    rw [hreads] at hm ⊢
    have hwhere : ∃ (origin : Side) (x : Sealed) (r' : Read), (c origin).sent[k]? = some x ∧
        x.plaintext = m ∧ ((c side).reads ++ [r])[k]? = some r' ∧ r'.frame = .ok x.frame := by
      rcases getElem?_beforeError_snoc hm with hold | ⟨rfl, hr, hall⟩
      · obtain ⟨origin, x, r', hx, hplain, hr', hframe⟩ := h.paired side k m hold
        refine ⟨origin, x, r', hx, hplain, ?_, hframe⟩
        rw [List.getElem?_append_left (List.getElem?_eq_some_iff.mp hr').1, hr']
      · rcases hresult with ⟨e, he⟩ | ⟨bytes, m', cipher, hbytes, hm', hstream, hkey, hlt, hnonce, hopen⟩
        · rw [hr] at he
          cases he
        · rw [hr] at hm'
          injection hm' with hm'
          subst hm'
          rw [hbytes] at hauthentic
          obtain ⟨sequence, hsecure, hsequence⟩ := (h.party side).stream
          have hcipher : cipher = ⟨key, (c side).reads.length⟩ := by
            rw [hstream] at hsecure
            injection hsecure with hsecure
            rw [hsecure, hsequence hall]
          obtain ⟨origin, hx⟩ := h.opened hauthentic hstream hkey hlt hnonce hopen
          rw [hcipher] at hx
          exact ⟨origin, _, r, hx, rfl, by simp, hbytes⟩
    obtain ⟨origin, x, r', hx, hrest⟩ := hwhere
    obtain ⟨more, hsentMore⟩ := sent_update hkept origin
    refine ⟨origin, x, r', ?_, hrest⟩
    rw [← hsentMore, List.getElem?_append_left (List.getElem?_eq_some_iff.mp hx).1, hx]

theorem Party.sent_send (env : Env) (p : Party) (bytes : Bytes) :
    p.sent <+: (p.send env bytes).sent := List.prefix_append ..

theorem Connection.Framed.step {m : Move} (h : c.Framed key) (hn : Attacked env c m c') :
    c'.Framed key := by
  obtain ⟨hauthentic, hstep⟩ := hn
  cases m with
  | send side bytes =>
    simp only [Connection.step, Option.some.injEq] at hstep
    subst hstep
    have hsent := (c side).sent_send env bytes
    refine h.update ((h.party side).send bytes) hsent ?_
    exact (h.paired side).mono (by rw [Function.update_self]; rfl) (sent_update hsent)
  | deliver side frame =>
    simp only [Connection.step, Option.some.injEq] at hstep
    subst hstep
    exact h.deliver hauthentic

theorem Connection.Framed.reachable (h : Reachable (Attacked env) (.start (secureTransport key)) c) :
    c.Framed key :=
  h.invariant (.start key) fun _ _ _ hc hn => hc.step hn

/-- Without a frame of its own, an end reads only what its peer has sealed. -/
theorem Connection.Paired.returned_in_order (h : c.Paired side) (hr : ¬ c.Reflected side) :
    c.returned side <+: c.sealed side.peer := by
  apply List.prefix_iff_getElem?.mpr
  intro k hk
  obtain ⟨origin, x, r, hx, hplain, hread, hframe⟩ :=
    h k _ (List.getElem?_eq_getElem hk)
  have hother : origin = side.peer := by
    by_contra hne
    have hown : origin = side := by
      cases origin <;> cases side <;> simp [Side.peer] at hne ⊢
    subst hown
    exact hr ⟨x, List.mem_of_getElem? hx, r, List.mem_of_getElem? hread, hframe⟩
  subst hother
  unfold Connection.sealed
  rw [List.getElem?_map, hx, ← hplain]
  rfl

/-- One write transport never uses a nonce twice. -/
theorem Party.Framed.nonces_differ (h : p.Framed key) :
    p.sent.Pairwise fun x y => ¬ (x.key = y.key ∧ x.nonce = y.nonce) := by
  rw [List.pairwise_iff_getElem]
  rintro j k hj hk hlt ⟨-, hnonce⟩
  have hsame := h.inOrder.index h.inOrder h.bounded h.bounded (List.getElem?_eq_getElem hj)
    (List.getElem?_eq_getElem hk) hnonce
  omega

end Invariant

section Frames

variable {env : Env} {signingKey : Option Bytes} {config : SecureTcpConfig}
  {sent : Except IoError Unit} {first : FirstFrame} {n : NegotiatedTcp}

/-- Each plaintext that an end of a secured connection returns was sealed at the same place by its
peer, or by the end itself if the frame came back to it. Each write transport uses its nonces once,
and both use the same. -/
theorem frames_in_place (hn : negotiate env signingKey config sent first = .ok n)
    (hsecured : n.secured = true) (c : Connection)
    (h : Reachable (Attacked env) (.start n) c) :
    (∀ side, c.Paired side) ∧
    (∀ side, ¬ c.Reflected side → c.returned side <+: c.sealed side.peer) ∧
    (∀ side, (c side).sent.Pairwise fun x y => ¬ (x.key = y.key ∧ x.nonce = y.nonce)) ∧
    ∀ (k : Nat) (x y : Sealed), (c .server).sent[k]? = some x → (c .client).sent[k]? = some y →
      x.key = y.key ∧ x.nonce = y.nonce := by
  obtain ⟨key, rfl⟩ := negotiate_secured hn hsecured
  have hframed := Connection.Framed.reachable h
  refine ⟨hframed.paired, fun side => (hframed.paired side).returned_in_order,
    fun side => (hframed.party side).nonces_differ, fun k x y hx hy => ?_⟩
  obtain ⟨hxkey, hxnonce⟩ := (hframed.party .server).inOrder k x hx
  obtain ⟨hykey, hynonce⟩ := (hframed.party .client).inOrder k y hy
  exact ⟨hxkey.trans hykey.symm, hxnonce.trans hynonce.symm⟩

end Frames

/-! ## Concrete runs -/

/-- A tag of the nonce and the key, in front of the plaintext. -/
def sampleTag (nonce key : Bytes) : Bytes :=
  List.zipWith (· + ·) (nonce.take macBytes) (key.take macBytes)

def sampleEnv : Env where
  secretboxSeal plaintext nonce key := sampleTag nonce key ++ plaintext
  secretboxOpen ciphertext nonce key :=
    if ciphertext.take macBytes = sampleTag nonce key then some (ciphertext.drop macBytes) else none
  boxOpen ciphertext _ _ _ := some (ciphertext.drop boxMacBytes)
  toCurve25519Pk := some
  toCurve25519Sk := some
  parseFromBytes bytes :=
    .ok (.keyExchange [bytes.take boxPublicKeyBytes, bytes.drop boxPublicKeyBytes])

def sampleNegotiated : Except IoError NegotiatedTcp :=
  negotiate sampleEnv (some (List.replicate signSecretKeyBytes 1)) ⟨.auto⟩ (.ok ())
    (.received (List.replicate (boxPublicKeyBytes + keyBytes + boxMacBytes) 7))

def sampleKey : Bytes := List.replicate keyBytes 7

/-- The first frame of an end. -/
def firstFrame (plaintext : Bytes) : Bytes :=
  sampleEnv.secretboxSeal plaintext (nonceOf 1) sampleKey

def answered : Option Connection :=
  exec (Connection.step sampleEnv) (Connection.authentic sampleEnv)
    (.start (secureTransport sampleKey))
    [.send .client [1, 2], .deliver .server (some (.ok (firstFrame [1, 2]))), .send .server [3],
      .deliver .client (some (.ok (firstFrame [3])))]

theorem sampleNegotiated_secure : sampleNegotiated = .ok (secureTransport sampleKey) := by rfl

theorem frames_in_place_answered : ∃ c, answered = some c ∧ ¬ c.Reflected .server ∧
    c.returned .server = [[1, 2]] ∧ c.returned .server <+: c.sealed .client := by
  have hrun : (answered.map fun c => ((c .server).sent.map Sealed.frame,
      (c .server).reads.map Read.frame, c.returned .server)) =
      some ([firstFrame [3]], [.ok (firstFrame [1, 2])], [[1, 2]]) := by rfl
  obtain ⟨c, hc, hvalues⟩ := Option.map_eq_some_iff.mp hrun
  simp only [Prod.mk.injEq] at hvalues
  obtain ⟨hsent, hreads, hreturned⟩ := hvalues
  have hown : ¬ c.Reflected .server := by
    rintro ⟨x, hx, r, hr, hsame⟩
    have hxframe : x.frame ∈ [firstFrame [3]] := hsent ▸ List.mem_map_of_mem hx
    have hrframe : r.frame ∈ [.ok (firstFrame [1, 2])] := hreads ▸ List.mem_map_of_mem hr
    rw [List.mem_singleton] at hxframe hrframe
    rw [hrframe, hxframe, Except.ok.injEq] at hsame
    exact absurd hsame (by decide)
  have hall := frames_in_place sampleNegotiated_secure rfl c ⟨_, .of_exec hc⟩
  exact ⟨c, hc, hown, hreturned, hall.2.1 .server hown⟩

/-- The server's first frame comes back to it, while the client has sealed another one. -/
def reflected : Option Connection :=
  exec (Connection.step sampleEnv) (Connection.authentic sampleEnv)
    (.start (secureTransport sampleKey))
    [.send .client [1, 2], .send .server [3], .deliver .server (some (.ok (firstFrame [3])))]

/-- The server takes its own frame for the client's, and one nonce has sealed two messages. -/
theorem own_frame_accepted : ∃ c, sampleNegotiated = .ok (secureTransport sampleKey) ∧
    Reachable (Attacked sampleEnv) (.start (secureTransport sampleKey)) c ∧
    ¬ c.returned .server <+: c.sealed .client ∧
    ∃ x ∈ (c .server).sent, ∃ y ∈ (c .client).sent,
      x.key = y.key ∧ x.nonce = y.nonce ∧ x.plaintext ≠ y.plaintext := by
  have hrun : (reflected.map fun c => (c.returned .server, (c .server).sent, (c .client).sent)) =
      some ([[3]], [⟨sampleKey, nonceOf 1, [3], firstFrame [3]⟩],
        [⟨sampleKey, nonceOf 1, [1, 2], firstFrame [1, 2]⟩]) := by rfl
  obtain ⟨c, hc, hvalues⟩ := Option.map_eq_some_iff.mp hrun
  simp only [Prod.mk.injEq] at hvalues
  obtain ⟨hreturned, hserver, hclient⟩ := hvalues
  refine ⟨c, rfl, ⟨_, .of_exec hc⟩, ?_, ?_⟩
  · unfold Connection.sealed
    rw [hreturned, hclient]
    decide
  · rw [hserver, hclient]
    exact ⟨_, List.mem_singleton_self _, _, List.mem_singleton_self _, rfl, rfl, by decide⟩

end Starry.SecureTcp
