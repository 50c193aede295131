import Starry.FastRelay.Authorization
import Starry.Library.Run
import Starry.Quality.State

/-!
# The authorization cache (`fast_relay.rs`)

Grants that were signed are kept, so that the target gets the controller's half of the same
issuance, and a repeated request the same grant. Every call runs under one lock. A call reads the
monotonic clock once here.
-/

open Library
open Starry.Observer (FastMediaRelayEndpoint)
open Starry.Quality (Uuid RelaySelection normalizeIp)

namespace Starry.FastRelay

structure GrantKey where
  sessionUuid : String
  initiatorIp : IpAddr
  targetIp : IpAddr
deriving DecidableEq, Repr

structure ResponseKey where
  sessionUuid : String
  targetIp : IpAddr
deriving DecidableEq, Repr

structure GrantRecord where
  targetSigned : Bytes
  controllerSigned : Bytes
  selectedRelay : String
  qualityAllocationId : Option Bytes
  configGeneration : Nat
  expiresAt : Nat
  created : Instant
  fastMedia : Bool
deriving DecidableEq, Repr

structure SigningRate where
  windowStarted : Instant
  count : Nat
deriving DecidableEq, Repr

inductive Counter
  | issuedSessions | targetGrantsIssued | controllerGrantsIssued | fastCompatSessions
  | fastMediaSessions | reused | delivered | disabled | insecureRequests | invalidConfiguration
  | invalidUuids | invalidServerSelection | missingSigningKeys | signingFailures
  | qualitySelectionFailures | rateLimited | responseMisses | expiredCacheEvictions
  | fastMediaUnavailable | reliableFallbacks
deriving DecidableEq, Repr

structure FastRelayState where
  grants : Table GrantKey GrantRecord
  sessions : Table String GrantKey
  responses : Table ResponseKey GrantKey
  signingRates : Table IpAddr SigningRate
  counters : Counter → Nat

def FastRelayState.default : FastRelayState :=
  { grants := .empty, sessions := .empty, responses := .empty, signingRates := .empty,
    counters := fun _ => 0 }

/-! ## Requests -/

inductive SignalTransport
  | unsupportedUdp | tcp | secureTcp | webSocket
deriving DecidableEq, Repr

structure AuthDecision where
  proceed : Bool
  verdict : String
deriving DecidableEq, Repr

/-- The arguments of `authorize_locked` that come from the request. -/
structure Request where
  sessionUuid : String
  sourceIp : IpAddr
  targetIp : IpAddr
  selectedRelay : String
  transport : SignalTransport
  auth : AuthDecision
  qualitySelection : Option RelaySelection
  fastMediaEndpoint : Option FastMediaRelayEndpoint
  signingKey : Option SecretKey
  now : Option Nat
deriving DecidableEq, Repr

/-- What a call finds around it: the monotonic clock, the order its maps are visited in and the
identifier it draws. -/
structure Env where
  instant : Instant
  order : HashOrder
  allocationId : Uuid

def Request.key (q : Request) : GrantKey :=
  ⟨q.sessionUuid, normalizeIp q.sourceIp, normalizeIp q.targetIp⟩

def GrantKey.response (k : GrantKey) : ResponseKey := ⟨k.sessionUuid, k.targetIp⟩

def Request.qualityAllocationId (q : Request) : Option Bytes :=
  q.qualitySelection.map fun selection => selection.decision.allocationId

/-- The selection of the quality protocol does not belong to this request. -/
def Request.selectionFails (q : Request) (policy : PolicySnapshot) : Bool :=
  q.qualitySelection.any fun selection =>
    selection.configGeneration != policy.generation ||
    selection.decision.protocolVersion != Quality.protocolVersion ||
    !eqIgnoreAsciiCase selection.decision.relayServer (trim q.selectedRelay) ||
    selection.decision.allocationId.length != 16 ||
    normalizeIp selection.targetIp != normalizeIp q.targetIp

def FastRelayConfig.invalid (c : FastRelayConfig) : Bool :=
  !(decide (30 ≤ c.authorizationTtlSeconds) && decide (c.authorizationTtlSeconds ≤ 300)) ||
  !(decide (1000 ≤ c.maxBitrateKbps) && decide (c.maxBitrateKbps ≤ 200000)) ||
  !(decide (minRelayDatagram ≤ c.relayMaxDatagram) && decide (c.relayMaxDatagram ≤ maxRelayDatagram))

/-- The checks that look at nothing but the request and the policy. -/
def Request.admit (q : Request) (policy : PolicySnapshot) : Except Counter (SecretKey × Nat) :=
  if !policy.config.fastCompatEnabled && !policy.config.fastMediaV1Enabled then .error .disabled
  else if policy.config.invalid then .error .invalidConfiguration
  else if !(q.transport == .secureTcp || q.transport == .webSocket) || !q.auth.proceed ||
      q.auth.verdict != "allow" then .error .insecureRequests
  else if q.sessionUuid.isEmpty || decide (q.sessionUuid.utf8ByteSize > maxSessionUuidBytes) then
    .error .invalidUuids
  else if (trim q.selectedRelay).isEmpty || decide ((trim q.selectedRelay).utf8ByteSize > 256) then
    .error .invalidServerSelection
  else if q.selectionFails policy then .error .qualitySelectionFailures
  else
    match q.signingKey, q.now with
    | none, _ => .error .missingSigningKeys
    | some _, none => .error .signingFailures
    | some signingKey, some now => .ok (signingKey, now)

/-! ## The tables -/

namespace FastRelayState

variable (s : FastRelayState)

def bump (c : Counter) : FastRelayState :=
  { s with counters := fun c' => if c' = c then satAdd (s.counters c') 1 else s.counters c' }

def removeGrant (key : GrantKey) : FastRelayState :=
  if (s.grants.get key).isNone then s
  else { s with grants := s.grants.remove key, sessions := s.sessions.retain fun _ k => k != key,
                responses := s.responses.retain fun _ k => k != key }

def removeOldestGrant (env : Env) : FastRelayState :=
  match maxByKey (fun e : GrantKey × GrantRecord => env.instant - e.2.created)
      (s.grants.iter env.order) with
  | none => s
  | some oldest => s.removeGrant oldest.1

def removeOldestSigningRate (env : Env) : FastRelayState :=
  { s with signingRates :=
      s.signingRates.removeMax env.order fun rate => env.instant - rate.windowStarted }

def consumeSigningRate (env : Env) (sourceIp : IpAddr) (maximum : Nat) : Bool × FastRelayState :=
  let s := if (s.signingRates.get sourceIp).isNone &&
      decide (s.signingRates.len ≥ max maximum 1) then s.removeOldestSigningRate env else s
  let rate := (s.signingRates.get sourceIp).getD ⟨env.instant, 0⟩
  let rate : SigningRate := if env.instant - rate.windowStarted ≥ secs signingRateWindowSeconds
    then ⟨env.instant, 0⟩ else rate
  if rate.count ≥ maxSignaturesPerSourcePerMinute then
    (false, { s with signingRates := s.signingRates.insert sourceIp rate })
  else
    let rate := { rate with count := min (rate.count + 1) u32Max }
    (true, { s with signingRates := s.signingRates.insert sourceIp rate })

def cleanup (env : Env) (policy : PolicySnapshot) (now : Nat) : FastRelayState :=
  let before := s.grants.len
  let grants := s.grants.retain fun _ record =>
    decide (env.instant - record.created ≤ secs policy.config.authorizationTtlSeconds) &&
      decide (record.expiresAt > now)
  { grants
    sessions := s.sessions.retain fun _ key => (grants.get key).isSome
    responses := s.responses.retain fun _ key => (grants.get key).isSome
    signingRates := s.signingRates.retain fun _ rate =>
      decide (env.instant - rate.windowStarted ≤ secs signingRateWindowSeconds)
    counters := fun c => if c = .expiredCacheEvictions
      then satAdd (s.counters c) (before - grants.len) else s.counters c }

end FastRelayState

/-! ## Issuing -/

/-- What `authorize_locked` comes to. The caller sees `returned` only. -/
inductive Answer
  | refused
  | reused (signed : Bytes)
  | issued (target controller : Bytes)
deriving DecidableEq, Repr

def Answer.returned : Answer → Option Bytes
  | .refused => none
  | .reused signed => some signed
  | .issued target _ => some target

/-- The stored grant that may be returned again. -/
def reusable (s : FastRelayState) (policy : PolicySnapshot) (q : Request) (now : Nat) :
    Option GrantRecord :=
  (s.grants.get q.key).filter fun existing =>
    existing.configGeneration == policy.generation &&
    existing.qualityAllocationId == q.qualityAllocationId &&
    eqIgnoreAsciiCase existing.selectedRelay (trim q.selectedRelay) &&
    decide (existing.expiresAt > now)

/-- The grants of the target and of the controller. Without FastMedia they are the same. -/
def signGrants (sign : Sign) (env : Env) (policy : PolicySnapshot) (q : Request)
    (signingKey : SecretKey) (expiresAt : Nat) : Option (Bytes × Bytes) :=
  match q.fastMediaEndpoint.filter fun _ => policy.config.fastMediaV1Enabled with
  | some endpoint => do
    let target ← buildSignedAuthorization sign q.sessionUuid expiresAt policy.config
      (trim q.selectedRelay) (some endpoint) (some env.allocationId.val) endpointTarget signingKey
    let controller ← buildSignedAuthorization sign q.sessionUuid expiresAt policy.config
      (trim q.selectedRelay) (some endpoint) (some env.allocationId.val) endpointController signingKey
    some (target, controller)
  | none => do
    let signed ← buildSignedAuthorization sign q.sessionUuid expiresAt policy.config
      (trim q.selectedRelay) none none 0 signingKey
    some (signed, signed)

def Request.fastMedia (q : Request) (policy : PolicySnapshot) : Bool :=
  policy.config.fastMediaV1Enabled && q.fastMediaEndpoint.isSome

/-- The record of a new issuance. -/
def Request.record (q : Request) (env : Env) (policy : PolicySnapshot) (target controller : Bytes)
    (expiresAt : Nat) : GrantRecord :=
  { targetSigned := target, controllerSigned := controller, selectedRelay := trim q.selectedRelay,
    qualityAllocationId := q.qualityAllocationId, configGeneration := policy.generation, expiresAt,
    created := env.instant, fastMedia := q.fastMedia policy }

/-- The tables with a new record: the oldest may have to go, and what the pair had before goes. -/
def FastRelayState.store (s : FastRelayState) (env : Env) (maximum : Nat) (key : GrantKey)
    (record : GrantRecord) : FastRelayState :=
  let s := if (s.grants.get key).isNone && decide (s.grants.len ≥ max maximum 1)
    then s.removeOldestGrant env else s
  let s := s.removeGrant key
  { s with sessions := s.sessions.insert key.sessionUuid key,
           responses := s.responses.insert key.response key, grants := s.grants.insert key record }

/-- `issued_sessions` and the counters that go with it. -/
def FastRelayState.countIssued (s : FastRelayState) (fastMedia : Bool) : FastRelayState :=
  let s := (((s.bump .issuedSessions).bump .targetGrantsIssued).bump .controllerGrantsIssued).bump
    .fastCompatSessions
  if fastMedia then s.bump .fastMediaSessions else s

def issue (sign : Sign) (env : Env) (s : FastRelayState) (policy : PolicySnapshot) (q : Request)
    (signingKey : SecretKey) (now : Nat) : Answer × FastRelayState :=
  -- `checked_add`
  if now + policy.config.authorizationTtlSeconds > u64Max then (.refused, s)
  else
    let expiresAt := now + policy.config.authorizationTtlSeconds
    let s := if policy.config.fastMediaV1Enabled && !q.fastMedia policy
      then (s.bump .fastMediaUnavailable).bump .reliableFallbacks else s
    if !policy.config.fastCompatEnabled && !q.fastMedia policy then (.refused, s)
    else
      match signGrants sign env policy q signingKey expiresAt with
      | none => (.refused, s)
      | some (target, controller) =>
        (.issued target controller,
          (s.store env policy.maxAuthorizations q.key
            (q.record env policy target controller expiresAt)).countIssued (q.fastMedia policy))

def authorizeLocked (sign : Sign) (env : Env) (s : FastRelayState) (policy : PolicySnapshot)
    (q : Request) : Answer × FastRelayState :=
  match q.admit policy with
  | .error c => (.refused, s.bump c)
  | .ok (signingKey, now) =>
    if (s.sessions.get q.sessionUuid).any fun existing => existing != q.key then
      (.refused, s.bump .invalidUuids)
    else
      match reusable s policy q now with
      | some existing => (.reused existing.targetSigned, s.bump .reused)
      | none =>
        match s.consumeSigningRate env (normalizeIp q.sourceIp) policy.maxAuthorizations with
        | (false, s) => (.refused, s.bump .rateLimited)
        | (true, s) => issue sign env s policy q signingKey now

def responseLocked (s : FastRelayState) (policy : PolicySnapshot) (sessionUuid : String)
    (sourceIp : IpAddr) (selectedRelay : String) (now : Nat) : Option Bytes × FastRelayState :=
  if sessionUuid.isEmpty || decide (sessionUuid.utf8ByteSize > maxSessionUuidBytes) then (none, s)
  else
    let result := (((s.responses.get ⟨sessionUuid, normalizeIp sourceIp⟩).bind fun key =>
      s.grants.get key).filter fun record =>
        record.configGeneration == policy.generation && decide (record.expiresAt > now) &&
          eqIgnoreAsciiCase record.selectedRelay selectedRelay).map (·.controllerSigned)
    (result, s.bump (if result.isSome then .delivered else .responseMisses))

/-! ## Steps -/

inductive Step
  | authorize (env : Env) (policy : PolicySnapshot) (q : Request)
  | response (policy : PolicySnapshot) (sessionUuid : String) (sourceIp : IpAddr)
      (selectedRelay : String) (now : Nat)
  | cleanup (env : Env) (policy : PolicySnapshot) (now : Nat)

/-- The cache, and every target grant that was returned, the newest first. -/
structure System where
  state : FastRelayState
  /-- Ghost: the pair of each grant and what the call came to. -/
  returned : List (GrantKey × Answer)

def System.init : System := ⟨.default, []⟩

def System.step (sign : Sign) (s : System) : Step → Option System
  | .authorize env policy q =>
    let (answer, state) := authorizeLocked sign env s.state policy q
    some ⟨state, if answer.returned.isSome then (q.key, answer) :: s.returned else s.returned⟩
  | .response policy sessionUuid sourceIp selectedRelay now =>
    some { s with state :=
      (responseLocked s.state policy sessionUuid sourceIp selectedRelay now).2 }
  | .cleanup env policy now => some { s with state := s.state.cleanup env policy now }

end Starry.FastRelay
