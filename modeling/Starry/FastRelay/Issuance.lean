import Starry.FastRelay.Ownership

/-!
# The relay accepts what HBBS issues

HBBS and the relay check a grant in separate programs, each with its own bounds. Every grant that
`authorize_locked` signs for FastMedia is inside the bounds of `GrantInvariant::validated`, from the
second it is issued until it expires, in its own role and in no other.
-/

open Library
open Starry.FastMedia (Crypto Header Role FastRelayAuthorization GrantInvariant maxAuthorizationBytes)
open Starry.Observer (FastMediaRelayEndpoint)

namespace Starry.FastRelay

/-- The payload that is signed for one end of a FastMedia session issued at `now`. -/
def Request.grant (q : Request) (env : Env) (policy : PolicySnapshot)
    (endpoint : FastMediaRelayEndpoint) (now : Nat) (role : Role) : FastRelayAuthorization :=
  authorizationPayload q.sessionUuid (now + policy.config.authorizationTtlSeconds) policy.config
    (trim q.selectedRelay) (some endpoint) (some env.allocationId.val) role.byte.toNat

/-- What the libraries do for one grant: a signature is 64 bytes long and stands before the message,
and the relay gets back what was signed and encoded. -/
structure RoundTrip (crypto : Crypto) (sign : Sign) (secretKey publicKey : Bytes)
    (grant : FastRelayAuthorization) : Prop where
  length : (sign (encodeAuthorization grant) secretKey).length =
    64 + (encodeAuthorization grant).length
  verified : crypto.verify (sign (encodeAuthorization grant) secretKey) publicKey =
    some (encodeAuthorization grant)
  parsed : crypto.parseGrant (encodeAuthorization grant) = some grant

/-- A relay takes the signed grant for its own role, with this invariant, and for no other. -/
structure Accepted (crypto : Crypto) (publicKey signed : Bytes) (allocationId : Bytes) (role : Role)
    (relayServer : String) (udpPort unix : Nat) (inv : GrantInvariant) : Prop where
  fits : signed.length ≤ maxAuthorizationBytes
  accepted : ∃ payload grant, crypto.verify signed publicKey = some payload ∧
    crypto.parseGrant payload = some grant ∧ ∀ header : Header, header.allocationId = allocationId →
      (header.role = role →
        GrantInvariant.validated crypto grant header relayServer udpPort unix = .ok inv) ∧
      (header.role = role.opposite →
        GrantInvariant.validated crypto grant header relayServer udpPort unix = .error .role)

section

variable {sign : Sign} {env : Env} {policy : PolicySnapshot} {q : Request} {signingKey : SecretKey}
  {now : Nat}

/-- What a request has passed when it is admitted. -/
structure Admitted (policy : PolicySnapshot) (q : Request) (signingKey : SecretKey) (now : Nat) :
    Prop where
  key : q.signingKey = some signingKey
  time : q.now = some now
  ttl : policy.config.authorizationTtlSeconds ≤ 300
  bitrate : 1000 ≤ policy.config.maxBitrateKbps ∧ policy.config.maxBitrateKbps ≤ 200000
  datagram : minRelayDatagram ≤ policy.config.relayMaxDatagram ∧
    policy.config.relayMaxDatagram ≤ maxRelayDatagram
  uuid : q.sessionUuid.isEmpty = false ∧ q.sessionUuid.utf8ByteSize ≤ maxSessionUuidBytes
  relay : (trim q.selectedRelay).utf8ByteSize ≤ 256

theorem config_bounds {c : FastRelayConfig} (h : ¬ c.invalid = true) :
    c.authorizationTtlSeconds ≤ 300 ∧ (1000 ≤ c.maxBitrateKbps ∧ c.maxBitrateKbps ≤ 200000) ∧
      minRelayDatagram ≤ c.relayMaxDatagram ∧ c.relayMaxDatagram ≤ maxRelayDatagram := by
  simp only [FastRelayConfig.invalid, Bool.or_eq_true, Bool.not_eq_true', Bool.and_eq_false_iff,
    decide_eq_false_iff_not, not_or, not_not] at h
  exact ⟨h.1.1.2, h.1.2, h.2⟩

theorem admit_ok (h : q.admit policy = .ok (signingKey, now)) : Admitted policy q signingKey now := by
  unfold Request.admit at h
  split at h
  · cases h
  split at h
  · cases h
  rename_i hconfig
  split at h
  · cases h
  split at h
  · cases h
  rename_i huuid
  split at h
  · cases h
  rename_i hrelay
  split at h
  · cases h
  split at h
  · cases h
  · cases h
  · rename_i hkey hnow
    cases h
    simp only [Bool.or_eq_true, decide_eq_true_eq, not_or, Bool.not_eq_true, not_lt] at huuid hrelay
    obtain ⟨httl, hbitrate, hdatagram⟩ := config_bounds hconfig
    exact ⟨hkey, hnow, httl, hbitrate, hdatagram, huuid, hrelay.2⟩

theorem buildSigned_eq {uuid relay : String} {expiresAt role : Nat} {config : FastRelayConfig}
    {endpoint : Option FastMediaRelayEndpoint} {allocationId : Option Bytes} {signed : Bytes}
    (h : buildSignedAuthorization sign uuid expiresAt config relay endpoint allocationId role
      signingKey = some signed) :
    signed = sign (encodeAuthorization (authorizationPayload uuid expiresAt config relay endpoint
      allocationId role)) signingKey := by
  unfold buildSignedAuthorization at h
  split at h
  · cases h
  · exact (Option.some.inj h).symm

/-- Both halves of a FastMedia issuance, as they are signed. -/
theorem signGrants_media {endpoint : FastMediaRelayEndpoint} {target controller : Bytes}
    (he : q.fastMediaEndpoint = some endpoint) (hm : policy.config.fastMediaV1Enabled = true)
    (h : signGrants sign env policy q signingKey (now + policy.config.authorizationTtlSeconds) =
      some (target, controller)) :
    target = sign (encodeAuthorization (q.grant env policy endpoint now .target)) signingKey ∧
    controller =
      sign (encodeAuthorization (q.grant env policy endpoint now .controller)) signingKey := by
  simp only [signGrants, he, hm, Option.filter_some, if_true, Option.bind_eq_bind,
    Option.bind_eq_some_iff, Option.some.injEq, Prod.mk.injEq] at h
  obtain ⟨a, ha, b, hb, rfl, rfl⟩ := h
  exact ⟨buildSigned_eq ha, buildSigned_eq hb⟩

/-! ## The relay's side -/

theorem grant_fits (hq : Admitted policy q signingKey now) {crypto : Crypto} {publicKey : Bytes}
    {env : Env} {endpoint : FastMediaRelayEndpoint} {role : Role}
    (hround : RoundTrip crypto sign signingKey publicKey (q.grant env policy endpoint now role)) :
    (sign (encodeAuthorization (q.grant env policy endpoint now role)) signingKey).length ≤
      maxAuthorizationBytes := by
  have hlen := encodeAuthorization_length (q.grant env policy endpoint now role)
  have huuid : (q.grant env policy endpoint now role).sessionUuid.utf8ByteSize ≤ 128 := hq.uuid.2
  have hrelay : (q.grant env policy endpoint now role).relayServer.utf8ByteSize ≤ 256 := hq.relay
  have halloc : (q.grant env policy endpoint now role).relayAllocationId.length = 16 :=
    env.allocationId.2
  rw [hround.length]
  unfold maxAuthorizationBytes
  omega

/-- The bounds of the two programs line up. -/
theorem grant_validated (hq : Admitted policy q signingKey now) (crypto : Crypto) {env : Env}
    {endpoint : FastMediaRelayEndpoint} {relayServer : String} {unix : Nat} {header : Header}
    (hrelay : eqIgnoreAsciiCase (trim q.selectedRelay) relayServer = true) (hfrom : now ≤ unix)
    (huntil : unix < now + policy.config.authorizationTtlSeconds)
    (htime : now + policy.config.authorizationTtlSeconds ≤ u64Max)
    (halloc : header.allocationId = env.allocationId.val) :
    GrantInvariant.validated crypto (q.grant env policy endpoint now header.role) header relayServer
      endpoint.udpPort.toNat unix = .ok
      { sessionUuidDigest := crypto.sha256 (asBytes q.sessionUuid)
        expiresAt := now + policy.config.authorizationTtlSeconds
        maxBitrateKbps := policy.config.maxBitrateKbps
        maxDatagram := policy.config.relayMaxDatagram } := by
  have httl := hq.ttl
  have hexp : ¬ now + policy.config.authorizationTtlSeconds >
      satAdd unix FastMedia.maxGrantTtlSeconds := by
    unfold satAdd FastMedia.maxGrantTtlSeconds
    omega
  have hunix : ¬ now + policy.config.authorizationTtlSeconds ≤ unix := by omega
  have hlong : ¬ q.sessionUuid.utf8ByteSize > 128 := Nat.not_lt.mpr hq.uuid.2
  have hempty : ¬ q.sessionUuid.isEmpty = true := by simp [hq.uuid.1]
  have hdatagram := hq.datagram
  have hbitrate := hq.bitrate
  unfold GrantInvariant.validated
  rw [if_neg, if_neg, if_neg]
  · rfl
  · simp only [Request.grant, authorizationPayload, Option.isSome_some, Bool.or_true, if_true,
      Option.map_some, Option.getD_some, endpoint.supported, hrelay]
    rintro (h | h | h | h | h | h | h | h | h | h | h | h)
    · exact h rfl
    · exact hempty h
    · exact hlong h
    · cases h
    · cases h
    · exact h rfl
    · cases h
    · exact h rfl
    · exact h hdatagram
    · exact h hbitrate
    · exact hunix h
    · exact hexp h
  · exact not_not.mpr halloc.symm
  · exact not_not.mpr rfl

theorem grant_other_role (crypto : Crypto) {env : Env} {endpoint : FastMediaRelayEndpoint}
    {relayServer : String} {udpPort unix : Nat} {header : Header} {role : Role}
    (hrole : header.role = role.opposite) :
    GrantInvariant.validated crypto (q.grant env policy endpoint now role) header relayServer
      udpPort unix = .error .role := by
  unfold GrantInvariant.validated
  rw [if_pos]
  rw [hrole]
  cases role <;> simp [Request.grant, authorizationPayload, Role.opposite, Role.byte]

theorem grant_accepted (hq : Admitted policy q signingKey now) {crypto : Crypto}
    {publicKey : Bytes} {env : Env} {endpoint : FastMediaRelayEndpoint} {role : Role}
    (hround : RoundTrip crypto sign signingKey publicKey (q.grant env policy endpoint now role))
    {relayServer : String} (hrelay : eqIgnoreAsciiCase (trim q.selectedRelay) relayServer = true)
    {unix : Nat} (hfrom : now ≤ unix) (huntil : unix < now + policy.config.authorizationTtlSeconds)
    (htime : now + policy.config.authorizationTtlSeconds ≤ u64Max) :
    Accepted crypto publicKey
      (sign (encodeAuthorization (q.grant env policy endpoint now role)) signingKey)
      env.allocationId.val role relayServer endpoint.udpPort.toNat unix
      { sessionUuidDigest := crypto.sha256 (asBytes q.sessionUuid)
        expiresAt := now + policy.config.authorizationTtlSeconds
        maxBitrateKbps := policy.config.maxBitrateKbps
        maxDatagram := policy.config.relayMaxDatagram } := by
  refine ⟨grant_fits hq hround, _, _, hround.verified, hround.parsed, ?_⟩
  intro header halloc
  constructor
  · rintro rfl
    exact grant_validated hq crypto hrelay hfrom huntil htime halloc
  · exact grant_other_role crypto

/-! ## From the request to the response -/

/-- The record that an issuance leaves, with both halves. -/
theorem issued_record {state : FastRelayState} {target half : Bytes}
    (h : (authorizeLocked sign env state policy q).1 = .issued target half) :
    ∃ signingKey now r, Admitted policy q signingKey now ∧
      signGrants sign env policy q signingKey (now + policy.config.authorizationTtlSeconds) =
        some (target, half) ∧
      now + policy.config.authorizationTtlSeconds ≤ u64Max ∧
      (authorizeLocked sign env state policy q).2.grants.get q.key = some r ∧
      r.controllerSigned = half := by
  rcases authorizeLocked_cases sign env state policy q with ⟨t, he, -⟩ | ⟨r, t, -, he, -⟩ |
    ⟨sk, now, target', half', t, u, hadmit, -, hsign, htime, he, -, hstore⟩
  · rw [he] at h
    cases h
  · rw [he] at h
    cases h
  · rw [he] at h ⊢
    cases h
    refine ⟨sk, now, q.record env policy target half (now + policy.config.authorizationTtlSeconds),
      admit_ok hadmit, hsign, htime, ?_, rfl⟩
    obtain ⟨v, -, hv⟩ := evicted_cases t env policy.maxAuthorizations q.key
    rw [hstore.grants, hv]
    simp

end

/-- Both halves of a FastMedia issuance, the one returned at once and the one that the target gets
later from the same record, are accepted by the relay as long as they have not expired, with the
same invariant, and neither is accepted in the role of the other. -/
theorem issued_grants_accepted (sign : Sign) (crypto : Crypto) {ls ls' : List Step} {s t u : System}
    {env : Env} {policy policy' : PolicySnapshot} {q : Request} {signingKey publicKey : Bytes}
    {now now' : Nat} {endpoint : FastMediaRelayEndpoint} {target half controller : Bytes} {ip : IpAddr}
    {relay : String}
    (hs : Run (Steps (System.step sign)) System.init ls s)
    (ht : s.step sign (.authorize env policy q) = some t)
    (hissued : (authorizeLocked sign env s.state policy q).1 = .issued target half)
    (hmedia : policy.config.fastMediaV1Enabled = true) (hend : q.fastMediaEndpoint = some endpoint)
    (hkey : q.signingKey = some signingKey) (hnow : q.now = some now)
    (hu : Run (Steps (System.step sign)) t ls' u)
    (hrecord : u.state.grants.get q.key = t.state.grants.get q.key)
    (hresponse : (responseLocked u.state policy' q.sessionUuid ip relay now').1 = some controller)
    (hround : ∀ role, RoundTrip crypto sign signingKey publicKey
      (q.grant env policy endpoint now role)) :
    ∀ relayServer unix, eqIgnoreAsciiCase (trim q.selectedRelay) relayServer = true → now ≤ unix →
      unix < now + policy.config.authorizationTtlSeconds → ∃ inv,
        inv.expiresAt = now + policy.config.authorizationTtlSeconds ∧
        Accepted crypto publicKey target env.allocationId.val .target relayServer
          endpoint.udpPort.toNat unix inv ∧
        Accepted crypto publicKey controller env.allocationId.val .controller relayServer
          endpoint.udpPort.toNat unix inv := by
  obtain ⟨sk, now₀, r, hq, hsign, htime, hr, hhalf⟩ := issued_record hissued
  obtain rfl := Option.some.inj (hkey.symm.trans hq.key)
  obtain rfl := Option.some.inj (hnow.symm.trans hq.time)
  obtain ⟨htarget, hcontroller⟩ := signGrants_media hend hmedia hsign
  -- The session has one pair, so the response is from the record of the issuance.
  have hrun : Run (Steps (System.step sign)) System.init _ u := (hs.snoc ⟨rfl, ht⟩).append hu
  have htstate : t.state = (authorizeLocked sign env s.state policy q).2 := by
    cases ht
    rfl
  have hstored : u.state.grants.get q.key = some r := by rw [hrecord, htstate, hr]
  have ho := (run_cacheInv hrun).owned
  obtain ⟨k, r', hk, hsession, -, hc, -⟩ := responseLocked_some ho hresponse
  have h1 := (ho.sessions q.sessionUuid k).mpr ⟨by rw [hk]; rfl, hsession⟩
  have h2 := (ho.sessions q.sessionUuid q.key).mpr ⟨by rw [hstored]; rfl, rfl⟩
  obtain rfl := Option.some.inj (h1.symm.trans h2)
  obtain rfl := Option.some.inj (hk.symm.trans hstored)
  rw [← hc, hhalf, hcontroller, htarget]
  intro relayServer unix hrelay hfrom huntil
  exact ⟨_, rfl, grant_accepted hq (hround .target) hrelay hfrom huntil htime,
    grant_accepted hq (hround .controller) hrelay hfrom huntil htime⟩

/-- The payload of one end of the sample session. -/
def sampleGrant (role : Role) : FastRelayAuthorization :=
  sampleRequest.grant sampleEnv samplePolicy sampleEndpoint 1800000000 role

/-- Takes the signature off, and reads the two grants of the sample session. -/
def sampleCrypto : Crypto :=
  { authenticate := fun message _ => message
    verify := fun signed _ => some (signed.drop 64)
    parseGrant := fun payload =>
      if payload = encodeAuthorization (sampleGrant .target) then some (sampleGrant .target)
      else if payload = encodeAuthorization (sampleGrant .controller)
        then some (sampleGrant .controller)
      else none
    sha256 := id }

theorem sampleGrant_roundTrip (role : Role) :
    RoundTrip sampleCrypto sampleSign [7] [7] (sampleGrant role) := by
  refine ⟨?_, ?_, ?_⟩
  · rw [sampleSign, List.length_append, List.length_replicate]
  · simp only [sampleCrypto, sampleSign, List.drop_left' List.length_replicate]
  · cases role with
    | target => simp [sampleCrypto]
    | controller =>
      have hne : encodeAuthorization (sampleGrant .controller) ≠
          encodeAuthorization (sampleGrant .target) := by decide
      simp [sampleCrypto, hne]

theorem issued_grants_accepted_delivered : ∃ target controller inv,
    Accepted sampleCrypto [7] target (List.replicate 16 5) .target "relay-a:21117" 22119 1800000089
      inv ∧
    Accepted sampleCrypto [7] controller (List.replicate 16 5) .controller "relay-a:21117" 22119
      1800000089 inv := by
  have h : ((System.init.step sampleSign (.authorize sampleEnv samplePolicy sampleRequest)).any
      fun t => (responseLocked t.state samplePolicy "session" (.v4 2) "relay-a:21117"
        1800000001).1.isSome) = true := by
    decide
  have hanswer : ((authorizeLocked sampleSign sampleEnv System.init.state samplePolicy
      sampleRequest).1.issuance).isSome = true := by
    decide
  simp only [Option.any_eq_true, Option.isSome_iff_exists] at h hanswer
  obtain ⟨t, ht, controller, hc⟩ := h
  obtain ⟨⟨target, half⟩, hissued⟩ := hanswer
  have hanswer' : (authorizeLocked sampleSign sampleEnv System.init.state samplePolicy
      sampleRequest).1 = .issued target half := by
    generalize (authorizeLocked sampleSign sampleEnv System.init.state samplePolicy
      sampleRequest).1 = a at hissued
    cases a with
    | issued => cases hissued; rfl
    | refused | reused => cases hissued
  obtain ⟨inv, -, h1, h2⟩ := issued_grants_accepted sampleSign sampleCrypto (.nil _) ht hanswer' rfl rfl
    rfl rfl (.nil t) rfl hc sampleGrant_roundTrip "relay-a:21117" 1800000089 (by decide) (by decide)
    (by decide)
  exact ⟨target, controller, inv, h1, h2⟩

end Starry.FastRelay
