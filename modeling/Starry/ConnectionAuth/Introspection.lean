import Starry.Config.Schema
import Starry.Library.Run
import Starry.Library.Table

/-!
# Introspection and its cache (`IntrospectionRuntime`)

A token that passes the local checks is looked up by its hash and, if nothing is cached, asked about.
Calls are not coalesced: each sends its own request and stores its own verdict when it is answered.
A run is watched here: in which order requests were sent, and which answers said inactive.
-/

open Library

namespace Starry.ConnectionAuth

open Starry.Config (IntrospectionConfig)

def maxIntrospectionConcurrency : Nat := 64

/-! ## The cache -/

structure CacheEntry where
  active : Bool
  reason : String
  expiresAt : Instant
  sequence : Nat
deriving DecidableEq, Repr

structure IntrospectionCache where
  entries : Table Bytes CacheEntry
  sequence : Nat

def cacheLookup (now : Instant) (cache : IntrospectionCache) (hash : Bytes) :
    IntrospectionCache × Option (Bool × String) :=
  let entries := cache.entries.retain fun _ entry => decide (now < entry.expiresAt)
  ({ cache with entries }, (entries.get hash).map fun entry => (entry.active, entry.reason))

/-- Up to `n` rounds of removing the oldest entry. -/
def evictTimes (ord : HashOrder) (limit : Nat) : Nat → Table Bytes CacheEntry → Table Bytes CacheEntry
  | 0, entries => entries
  | n + 1, entries =>
    if limit < entries.len then
      evictTimes ord limit n (entries.removeMax ord fun entry => OrderDual.toDual entry.sequence)
    else entries

/-- Removes the oldest entries until no more than `limit` are left, which is after as many rounds as
there are entries at the latest. -/
def evictOldest (ord : HashOrder) (limit : Nat) (entries : Table Bytes CacheEntry) :
    Table Bytes CacheEntry :=
  evictTimes ord limit entries.len entries

/-- How many seconds a verdict is kept. -/
def cacheTtl (config : IntrospectionConfig) (active : Bool) (tokenExp nowEpoch : Nat) : Nat :=
  if active then min config.positiveCacheSeconds (tokenExp - nowEpoch)
  else config.negativeCacheSeconds

def cacheStore (config : IntrospectionConfig) (ord : HashOrder) (now : Instant)
    (cache : IntrospectionCache) (hash : Bytes) (active : Bool) (reason : String)
    (tokenExp nowEpoch : Nat) : IntrospectionCache :=
  let ttl := cacheTtl config active tokenExp nowEpoch
  if ttl = 0 then cache
  else
    let sequence := satAdd cache.sequence 1
    { sequence
      entries := evictOldest ord config.maxCacheEntries
        (cache.entries.insert hash { active, reason, expiresAt := now + secs ttl, sequence }) }

/-! ## A request -/

structure IntrospectionResponse where
  active : Bool
  sub : Option String := none
  reason : Option String := none
deriving DecidableEq, Repr

/-- What `reqwest` gives for one attempt. -/
inductive HttpResult
  /-- The time that was left has passed. -/
  | elapsed
  /-- `read_json_limited` of an answer with success. -/
  | success (body : Except String IntrospectionResponse)
  | serverError
  | otherStatus
  | connectError
  | timeoutError
  | otherError

/-- The end of the `attempt`-th attempt: a result, or another attempt. -/
def endAttempt (attempt : Nat) : HttpResult → Option (Except String IntrospectionResponse)
  | .elapsed => some (.error "introspection_timeout")
  | .success body => some body
  | .serverError => if attempt = 1 then none else some (.error "introspection_unavailable")
  | .otherStatus => some (.error "introspection_unavailable")
  | .connectError => if attempt = 1 then none else some (.error "introspection_unavailable")
  | .timeoutError => if attempt = 1 then none else some (.error "introspection_timeout")
  | .otherError => some (.error "introspection_unavailable")

def introspectionReason : Option String → String
  | some "user_disabled" => "user_disabled"
  | some "expired" => "expired"
  | some "deleted_user" => "user_disabled"
  | _ => "revoked"

/-- The verdict of `introspect` on what its request has brought. -/
def verdict (subject : String) : Except String IntrospectionResponse → Bool × String
  | .ok response =>
    if response.active then
      if response.sub = some subject then (true, "allow") else (false, "subject_mismatch")
    else (false, introspectionReason response.reason)
  | .error reason => (false, reason)

/-! ## Calls -/

/-- A call of `introspect` that has not found its token in the cache. -/
inductive Phase
  | missed
  /-- It may send its next request; `attempt` requests are sent. -/
  | permitted (attempt : Nat) (deadline : Instant)
  | sent (attempt : Nat) (deadline : Instant) (request : Nat)
  /-- The result is not stored yet. -/
  | answered (request : Nat) (result : Except String IntrospectionResponse)
  /-- No time was left for another request. -/
  | timedOut
  | returned

structure Call where
  hash : Bytes
  /-- The claims of the token, and when it was verified. -/
  subject : String
  expiresAt : Nat
  nowEpoch : Nat
  phase : Phase

/-- An answer that said inactive. -/
structure Inactive where
  hash : Bytes
  request : Nat
  storedAt : Instant
deriving DecidableEq, Repr

structure Lookups where
  cache : IntrospectionCache
  /-- The permits in use. -/
  permits : Nat
  calls : List Call
  now : Instant
  /-- How many requests were sent; they are numbered in this order. -/
  requests : Nat
  /-- The request whose answer the entry of a hash holds. -/
  origin : Bytes → Nat
  inactive : List Inactive

def Lookups.init : Lookups := ⟨⟨Table.empty, 0⟩, 0, [], 0, 0, fun _ => 0, []⟩

inductive CallStep
  | call (hash : Bytes) (subject : String) (expiresAt nowEpoch : Nat)
  | acquire (k : Nat)
  | send (k : Nat)
  | answer (k : Nat) (result : HttpResult)
  | finish (k : Nat)
  /-- The caller is gone. -/
  | abandon (k : Nat)

def Lookups.goto (s : Lookups) (k : Nat) (call : Call) (phase : Phase) : Lookups :=
  { s with calls := s.calls.set k { call with phase } }

/-- What `request` has brought, and the request it answers. -/
def Phase.result : Phase → Option (Option Nat × Except String IntrospectionResponse)
  | .answered request result => some (some request, result)
  | .timedOut => some (none, .error "introspection_timeout")
  | _ => none

def Phase.holdsPermit : Phase → Bool
  | .permitted _ _ | .sent _ _ _ => true
  | _ => false

variable (config : IntrospectionConfig) (ord : HashOrder)

/-- The next access of a call, by its phase. -/
def Lookups.acquire (s : Lookups) (k : Nat) (call : Call) : Option Lookups :=
  match call.phase with
  | .missed =>
    if s.permits < maxIntrospectionConcurrency then
      some ({ s with permits := s.permits + 1 }.goto k call
        (.permitted 0 (s.now + millis config.timeoutMs)))
    else some (s.goto k call .returned)
  | _ => none

def Lookups.send (s : Lookups) (k : Nat) (call : Call) : Option Lookups :=
  match call.phase with
  | .permitted attempt deadline =>
    if deadline ≤ s.now then
      some ({ s with permits := s.permits - 1 }.goto k call
        .timedOut)
    else
      some ({ s with requests := s.requests + 1 }.goto k call
        (.sent (attempt + 1) deadline s.requests))
  | _ => none

def Lookups.answer (s : Lookups) (k : Nat) (call : Call) (result : HttpResult) : Option Lookups :=
  match call.phase with
  | .sent attempt deadline request =>
    match endAttempt attempt result with
    | some result =>
      some ({ s with permits := s.permits - 1 }.goto k call (.answered request result))
    | none => some (s.goto k call (.permitted attempt deadline))
  | _ => none

/-- What is seen of a result that is stored. -/
def Lookups.note (s : Lookups) (call : Call) (request : Option Nat)
    (result : Except String IntrospectionResponse) : Lookups :=
  let stored := cacheTtl config (verdict call.subject result).1 call.expiresAt call.nowEpoch
  { s with
    origin := if stored = 0 then s.origin
      else Function.update s.origin call.hash (request.getD 0)
    inactive := match request, result with
      | some request, .ok response =>
        if response.active then s.inactive else ⟨call.hash, request, s.now⟩ :: s.inactive
      | _, _ => s.inactive }

/-- Stores the verdict and returns it. -/
def Lookups.finish (s : Lookups) (k : Nat) (call : Call) : Option Lookups :=
  call.phase.result.map fun answer =>
    let found := verdict call.subject answer.2
    { s.note config call answer.1 answer.2 with
      cache := cacheStore config ord s.now s.cache call.hash found.1 found.2 call.expiresAt
        call.nowEpoch }.goto k call .returned

/-- A step at a time. -/
def Lookups.step (s : Lookups) (i : Instant × CallStep) : Option Lookups :=
  if i.1 < s.now then none
  else
    let s := { s with now := i.1 }
    match i.2 with
    | .call hash subject expiresAt nowEpoch =>
      let found := cacheLookup s.now s.cache hash
      let phase := match found.2 with
        | some _ => .returned
        | none => .missed
      some { s with
        cache := found.1
        calls := s.calls ++ [⟨hash, subject, expiresAt, nowEpoch, phase⟩] }
    | .acquire k => s.calls[k]?.bind (s.acquire config k)
    | .send k => s.calls[k]?.bind (s.send k)
    | .answer k result => s.calls[k]?.bind fun call => s.answer k call result
    | .finish k => s.calls[k]?.bind (s.finish config ord k)
    | .abandon k => s.calls[k]?.map fun call =>
      { s with permits := s.permits - call.phase.holdsPermit.toNat }.goto k call .returned

/-! ## What an authorization rests on -/

/-- The token that a step authorizes, and the request whose answer it is authorized by. -/
def Lookups.authorizes (s : Lookups) (i : Instant × CallStep) : Option (Bytes × Nat) :=
  match i.2 with
  | .call hash _ _ _ =>
    match (cacheLookup i.1 s.cache hash).2 with
    | some (true, _) => some (hash, s.origin hash)
    | _ => none
  | .finish k => s.calls[k]?.bind fun call => call.phase.result.bind fun answer =>
    if (verdict call.subject answer.2).1 then answer.1.map fun request => (call.hash, request)
    else none
  | _ => none

/-- No answer to a later request has said inactive in the last `negative_cache_seconds`. -/
def Lookups.Stands (s : Lookups) (now : Instant) (hash : Bytes) (request : Nat) : Prop :=
  ∀ inactive ∈ s.inactive, inactive.hash = hash → request < inactive.request →
    inactive.storedAt + secs config.negativeCacheSeconds ≤ now

instance (s : Lookups) (now : Instant) (hash : Bytes) (request : Nat) :
    Decidable (s.Stands config now hash request) :=
  inferInstanceAs (Decidable (∀ _ ∈ _, _))

end Starry.ConnectionAuth
