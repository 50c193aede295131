import Starry.Basic
import Starry.Library.Run

/-!
# Authenticated telemetry requests

HBBR answers a telemetry request once. It remembers the nonces that it has seen for as long as a
timestamp may lie beside its clock, counted from their arrival.
-/

open Library

namespace Starry.Hbbr

/-- `TELEMETRY_AUTH_CLOCK_SKEW_SECONDS` -/
def telemetryAuthClockSkewSeconds : Nat := 30

def telemetryReplayCapacity : Nat := 4096

/-- `u64::abs_diff` -/
def absDiff (x y : Nat) : Nat := (x - y) + (y - x)

/-! ## The replay cache -/

structure TelemetryReplayCache where
  entries : Finset String
  order : List (Nat × String)
deriving DecidableEq

namespace TelemetryReplayCache

def empty : TelemetryReplayCache := ⟨∅, []⟩

/-- Takes from the front as long as `due` says so. -/
def popWhile (due : List (Nat × String) → Bool) (entries : Finset String) :
    List (Nat × String) → TelemetryReplayCache
  | [] => ⟨entries, []⟩
  | x :: order =>
    if due (x :: order) then popWhile due (entries.erase x.2) order else ⟨entries, x :: order⟩

/-- The front has been there for too long. -/
def stale (now : Nat) : List (Nat × String) → Bool
  | (seenAt, _) :: _ => telemetryAuthClockSkewSeconds < now - seenAt
  | [] => false

def full (order : List (Nat × String)) : Bool := telemetryReplayCapacity ≤ order.length

def forget (cache : TelemetryReplayCache) (now : Nat) : TelemetryReplayCache :=
  popWhile (stale now) cache.entries cache.order

def insertFresh (cache : TelemetryReplayCache) (now : Nat) (nonce : String) :
    Bool × TelemetryReplayCache :=
  let cache := cache.forget now
  if nonce ∈ cache.entries then (false, cache)
  else
    let cache := popWhile full cache.entries cache.order
    (true, ⟨insert nonce cache.entries, cache.order ++ [(now, nonce)]⟩)

end TelemetryReplayCache

/-! ## Requests -/

/-- The values of a request's headers, of those that are text. -/
abbrev Headers := String → Option String

def boundedRequestHeader (headers : Headers) (name : String) (max : Nat) : Option String :=
  (headers name).filter fun value => !value.isEmpty && value.utf8ByteSize ≤ max

def hexNibble (c : Char) : Option Nat :=
  if '0' ≤ c ∧ c ≤ '9' then some (c.toNat - '0'.toNat)
  else if 'a' ≤ c ∧ c ≤ 'f' then some (c.toNat - 'a'.toNat + 10)
  else none

def hexDecode : List Char → Option Bytes
  | high :: low :: rest => do
    let high ← hexNibble high
    let low ← hexNibble low
    let decoded ← hexDecode rest
    return UInt8.ofNat (high * 16 + low) :: decoded
  | [] => some []
  | [_] => none

/-- `auth::TAGBYTES` -/
def tagBytes : Nat := 32

def hexDecodeTag (value : String) : Option Bytes :=
  if value.utf8ByteSize ≠ tagBytes * 2 then none else hexDecode value.toList

def isAsciiHexdigit (c : Char) : Bool :=
  c.isDigit || ('a' ≤ c && c ≤ 'f') || ('A' ≤ c && c ≤ 'F')

/-- What a request is accepted for. -/
structure SignedRequest where
  timestamp : String
  nonce : String
  signature : String
deriving DecidableEq, Repr

def SignedRequest.canonical (r : SignedRequest) : String :=
  "starry-telemetry-request-v1\n" ++ r.timestamp ++ "\n" ++ r.nonce ++ "\n/ws/telemetry"

def SignedRequest.time (r : SignedRequest) : Option Nat := parseUnsigned (2 ^ 64) r.timestamp

/-- The three headers of a telemetry request. -/
def signedRequest (headers : Headers) : Option SignedRequest := do
  let timestamp ← boundedRequestHeader headers "x-starry-telemetry-timestamp" 20
  let nonce ← boundedRequestHeader headers "x-starry-telemetry-nonce" 32
  let signature ← boundedRequestHeader headers "x-starry-telemetry-auth" 64
  return ⟨timestamp, nonce, signature⟩

section Authentication

variable {Key : Type} (verify : Bytes → String → Key → Bool) (key : Option Key)

/-- The checks before the nonce is looked up. -/
def checkTelemetryRequest (now : Nat) (headers : Headers) : Option SignedRequest := do
  let key ← key
  let timestamp ← boundedRequestHeader headers "x-starry-telemetry-timestamp" 20
  let timestampValue ← parseUnsigned (2 ^ 64) timestamp
  if absDiff now timestampValue > telemetryAuthClockSkewSeconds then none
  else
    let nonce ← boundedRequestHeader headers "x-starry-telemetry-nonce" 32
    if nonce.utf8ByteSize ≠ 32 || !nonce.toList.all isAsciiHexdigit then none
    else
      let signature ← boundedRequestHeader headers "x-starry-telemetry-auth" 64
      let tag ← hexDecodeTag signature
      let request : SignedRequest := ⟨timestamp, nonce, signature⟩
      if verify tag request.canonical key then some request else none

def authenticateTelemetryRequest (now : Nat) (headers : Headers) (cache : TelemetryReplayCache) :
    Option String × TelemetryReplayCache :=
  match checkTelemetryRequest verify key now headers with
  | none => (none, cache)
  | some request =>
    let (fresh, cache) := cache.insertFresh now request.nonce
    (if fresh then some request.nonce else none, cache)

/-! ## Runs -/

/-- The relay, and the requests that it has accepted, each with the clock's reading. -/
structure Telemetry where
  cache : TelemetryReplayCache
  now : Nat
  accepted : List (Nat × SignedRequest)

def Telemetry.init : Telemetry := ⟨.empty, 0, []⟩

/-- A request at a reading of the clock. -/
def receive (w : Telemetry) (m : Nat × Headers) : Option Telemetry :=
  if m.1 < w.now then none
  else
    let (nonce, cache) := authenticateTelemetryRequest verify key m.1 m.2 w.cache
    let new := if nonce.isSome then (signedRequest m.2).toList else []
    some ⟨cache, m.1, w.accepted ++ new.map fun r => (m.1, r)⟩

/-- Fewer distinct requests than the cache has room for were accepted in the last 60 seconds. -/
def roomy (w : Telemetry) (m : Nat × Headers) : Bool :=
  let recent := w.accepted.filter fun a => m.1 < a.1 + 60
  (recent.map Prod.snd).dedup.length < telemetryReplayCapacity

/-- A request does not come back when its nonce is forgotten, more than 30 seconds after it was
accepted, while its timestamp is not yet 30 seconds behind the clock. -/
def timely (w : Telemetry) (m : Nat × Headers) : Bool :=
  w.accepted.all fun a => signedRequest m.2 != some a.2 ||
    decide (m.1 ≤ a.1 + telemetryAuthClockSkewSeconds) ||
    a.2.time.all fun t => decide (t + telemetryAuthClockSkewSeconds < m.1)

variable {verify key}

/-! ## What the cache holds -/

namespace TelemetryReplayCache

variable {due : List (Nat × String) → Bool} {entries : Finset String} {order : List (Nat × String)}

theorem popWhile_spec (due : List (Nat × String) → Bool) (entries : Finset String)
    (order : List (Nat × String)) :
    ∃ popped, order = popped ++ (popWhile due entries order).order ∧
      (∀ n, n ∈ (popWhile due entries order).entries ↔ n ∈ entries ∧ n ∉ popped.map Prod.snd) ∧
      (∀ x ∈ popped, ∃ rest, due (x :: rest) = true) ∧
      ∀ x rest, (popWhile due entries order).order = x :: rest → due (x :: rest) = false := by
  induction order generalizing entries with
  | nil => exact ⟨[], by simp [popWhile]⟩
  | cons x order ih =>
    rw [popWhile]
    split
    · rename_i hdue
      obtain ⟨popped, horder, hentries, hpopped, hfront⟩ := ih (entries.erase x.2)
      refine ⟨x :: popped, congrArg (x :: ·) horder, fun n => ?_, ?_, hfront⟩
      · rw [hentries, Finset.mem_erase, List.map_cons, List.mem_cons]
        tauto
      · intro y hy
        rcases List.mem_cons.mp hy with rfl | hy
        · exact ⟨order, hdue⟩
        · exact hpopped y hy
    · rename_i hdue
      refine ⟨[], rfl, by simp, by simp, fun y rest heq => ?_⟩
      rw [← heq]
      exact Bool.not_eq_true _ ▸ hdue

theorem popWhile_full (h : order.length < telemetryReplayCapacity) :
    popWhile full entries order = ⟨entries, order⟩ := by
  cases order with
  | nil => rfl
  | cons x order =>
    have hfull : full (x :: order) = false := decide_eq_false (Nat.not_le.mpr h)
    rw [popWhile, hfull]
    rfl

theorem insertFresh_known {cache : TelemetryReplayCache} {now : Nat} {nonce : String}
    (h : nonce ∈ (cache.forget now).entries) :
    cache.insertFresh now nonce = (false, cache.forget now) := if_pos h

theorem insertFresh_new {cache : TelemetryReplayCache} {now : Nat} {nonce : String}
    (h : nonce ∉ (cache.forget now).entries)
    (hlen : (cache.forget now).order.length < telemetryReplayCapacity) :
    cache.insertFresh now nonce = (true, ⟨insert nonce (cache.forget now).entries,
      (cache.forget now).order ++ [(now, nonce)]⟩) := by
  refine (if_neg h).trans ?_
  rw [popWhile_full hlen]

theorem stale_cons {now : Nat} {x : Nat × String} {rest : List (Nat × String)} :
    stale now (x :: rest) = decide (x.1 + telemetryAuthClockSkewSeconds < now) := by
  unfold stale
  exact decide_eq_decide.mpr (by omega)

end TelemetryReplayCache

/-- What is remembered of a request. -/
def remembered (a : Nat × SignedRequest) : Nat × String := (a.1, a.2.nonce)

/-- The cache holds the requests of the last 30 seconds, in their order. -/
structure Telemetry.Tracked (w : Telemetry) : Prop where
  ordered : (w.accepted.map Prod.fst).Pairwise (· ≤ ·)
  past : ∀ a ∈ w.accepted, a.1 ≤ w.now
  split : ∃ old recent, w.accepted = old ++ recent ∧ w.cache.order = recent.map remembered ∧
    ∀ a ∈ old, a.1 + telemetryAuthClockSkewSeconds < w.now
  entries : ∀ n, n ∈ w.cache.entries ↔ n ∈ w.cache.order.map Prod.snd
  nonces : (w.cache.order.map Prod.snd).Nodup
  once : (w.accepted.map Prod.snd).Nodup

variable {w w' : Telemetry} {now : Nat} {headers : Headers} {r : SignedRequest}

theorem Telemetry.Tracked.init : Telemetry.init.Tracked :=
  ⟨by simp [Telemetry.init], by simp [Telemetry.init], ⟨[], [], rfl, rfl, by simp⟩,
    by simp [Telemetry.init, TelemetryReplayCache.empty],
    by simp [Telemetry.init, TelemetryReplayCache.empty], by simp [Telemetry.init]⟩

theorem absDiff_le {x y d : Nat} : absDiff x y ≤ d ↔ x ≤ y + d ∧ y ≤ x + d := by
  unfold absDiff
  omega

/-- A request that is accepted has a timestamp close to the clock. -/
theorem checkTelemetryRequest_some (h : checkTelemetryRequest verify key now headers = some r) :
    signedRequest headers = some r ∧
      ∃ t, r.time = some t ∧ now ≤ t + telemetryAuthClockSkewSeconds := by
  unfold checkTelemetryRequest at h
  obtain ⟨key, -, h⟩ := Option.bind_eq_some_iff.mp h
  obtain ⟨timestamp, htimestamp, h⟩ := Option.bind_eq_some_iff.mp h
  obtain ⟨t, ht, h⟩ := Option.bind_eq_some_iff.mp h
  split at h
  · cases h
  rename_i hdiff
  obtain ⟨nonce, hnonce, h⟩ := Option.bind_eq_some_iff.mp h
  split at h
  · cases h
  obtain ⟨signature, hsignature, h⟩ := Option.bind_eq_some_iff.mp h
  obtain ⟨tag, -, h⟩ := Option.bind_eq_some_iff.mp h
  dsimp only at h
  split at h
  · cases h
    refine ⟨?_, t, ht, (absDiff_le.mp (Nat.not_lt.mp hdiff)).1⟩
    simp [signedRequest, htimestamp, hnonce, hsignature]
  · cases h

theorem Telemetry.Tracked.tick (h : w.Tracked) (hnow : w.now ≤ now) :
    Telemetry.Tracked { w with now := now } := by
  obtain ⟨old, recent, haccepted, horder, hold⟩ := h.split
  exact ⟨h.ordered, fun a ha => (h.past a ha).trans hnow,
    ⟨old, recent, haccepted, horder, fun a ha => (hold a ha).trans_le hnow⟩, h.entries, h.nonces,
    h.once⟩

/-- The cache forgets what is older than 30 seconds. -/
theorem Telemetry.Tracked.forget (h : w.Tracked) :
    Telemetry.Tracked { w with cache := w.cache.forget w.now } := by
  obtain ⟨popped, hpopped, hentries, hstale, -⟩ := TelemetryReplayCache.popWhile_spec
    (TelemetryReplayCache.stale w.now) w.cache.entries w.cache.order
  change w.cache.order = popped ++ (w.cache.forget w.now).order at hpopped
  obtain ⟨old, recent, haccepted, horder, hold⟩ := h.split
  rw [hpopped] at horder
  obtain ⟨gone, rest, rfl, rfl, hrest⟩ := List.append_eq_map_iff.mp horder
  have hnonces := h.nonces
  rw [hpopped, List.map_append, List.nodup_append] at hnonces
  refine ⟨h.ordered, h.past, ⟨old ++ gone, rest, by simp [haccepted], hrest.symm, ?_⟩, fun n => ?_,
    hnonces.2.1, h.once⟩
  · intro a ha
    rcases List.mem_append.mp ha with ha | ha
    · exact hold a ha
    · obtain ⟨rest, hdue⟩ := hstale _ (List.mem_map_of_mem ha)
      rw [TelemetryReplayCache.stale_cons] at hdue
      exact of_decide_eq_true hdue
  · refine (hentries n).trans ?_
    rw [h.entries, hpopped, List.map_append, List.mem_append]
    constructor
    · rintro ⟨hn, hnot⟩
      exact hn.resolve_left hnot
    · intro hn
      exact ⟨.inr hn, fun hmem => hnonces.2.2 n hmem n hn rfl⟩

/-- What it still holds is not older. -/
theorem Telemetry.Tracked.fresh (h : w.Tracked) {x : Nat × String}
    (hx : x ∈ (w.cache.forget w.now).order) :
    w.now ≤ x.1 + telemetryAuthClockSkewSeconds := by
  obtain ⟨-, -, -, -, hfront⟩ := TelemetryReplayCache.popWhile_spec
    (TelemetryReplayCache.stale w.now) w.cache.entries w.cache.order
  obtain ⟨old, recent, haccepted, horder, -⟩ := h.forget.split
  have hsorted := h.ordered
  change w.accepted = old ++ recent at haccepted
  rw [haccepted, List.map_append, List.pairwise_append] at hsorted
  change (w.cache.forget w.now).order = recent.map remembered at horder
  cases hlist : (w.cache.forget w.now).order with
  | nil =>
    rw [hlist] at hx
    cases hx
  | cons y rest =>
    have hy := hfront y rest hlist
    rw [TelemetryReplayCache.stale_cons, decide_eq_false_iff_not, Nat.not_lt] at hy
    have hle : y.1 ≤ x.1 := by
      have hfst : (y :: rest).map Prod.fst = recent.map Prod.fst := by
        rw [← hlist, horder, List.map_map]
        rfl
      have hpair := hfst ▸ hsorted.2.1
      rw [hlist] at hx
      rcases List.mem_cons.mp hx with rfl | hx
      · exact Nat.le_refl _
      · exact (List.pairwise_cons.mp hpair).1 _ (List.mem_map_of_mem hx)
    omega

/-- With few requests nothing is thrown out before its time. -/
theorem Telemetry.Tracked.not_full (h : w.Tracked) (hroomy : roomy w (w.now, headers) = true) :
    (w.cache.forget w.now).order.length < telemetryReplayCapacity := by
  obtain ⟨old, recent, haccepted, horder, -⟩ := h.forget.split
  change w.accepted = old ++ recent at haccepted
  change (w.cache.forget w.now).order = recent.map remembered at horder
  have hall : ∀ a ∈ recent, decide (w.now < a.1 + 60) = true := by
    intro a ha
    have hfresh := h.fresh (horder ▸ List.mem_map_of_mem ha)
    have hle : w.now ≤ a.1 + 30 := hfresh
    exact decide_eq_true (by omega)
  have honce := h.once
  unfold roomy at hroomy
  have hroomy := of_decide_eq_true hroomy
  rw [(List.filter_sublist.map Prod.snd |>.nodup honce).dedup, List.length_map] at hroomy
  refine Nat.lt_of_le_of_lt ?_ hroomy
  rw [horder, List.length_map, haccepted, List.filter_append, List.length_append,
    List.filter_eq_self.mpr hall]
  exact Nat.le_add_left ..

/-- A request that was accepted before is refused while its nonce is remembered, and its timestamp
is too old then. -/
theorem Telemetry.Tracked.not_again (h : w.Tracked) (htimely : timely w (w.now, headers) = true)
    (hcheck : checkTelemetryRequest verify key w.now headers = some r)
    (hnonce : r.nonce ∉ (w.cache.forget w.now).entries) : r ∉ w.accepted.map Prod.snd := by
  intro hmem
  obtain ⟨a, ha, rfl⟩ := List.mem_map.mp hmem
  obtain ⟨hsigned, t, ht, hnow⟩ := checkTelemetryRequest_some hcheck
  have hcase := List.all_eq_true.mp htimely a ha
  rw [hsigned, ht] at hcase
  simp only [bne_self_eq_false, Bool.false_or, Bool.or_eq_true, decide_eq_true_eq,
    Option.all_some] at hcase
  rcases hcase with hrecent | hlate
  · obtain ⟨old, recent, haccepted, horder, hold⟩ := h.forget.split
    change w.accepted = old ++ recent at haccepted
    change (w.cache.forget w.now).order = recent.map remembered at horder
    rw [haccepted] at ha
    rcases List.mem_append.mp ha with ha | ha
    · exact absurd (hold a ha) (Nat.not_lt.mpr hrecent)
    · apply hnonce
      refine (h.forget.entries a.2.nonce).mpr ?_
      change _ ∈ (w.cache.forget w.now).order.map Prod.snd
      rw [horder]
      exact List.mem_map_of_mem (List.mem_map_of_mem ha)
  · exact absurd hnow (Nat.not_le.mpr hlate)

theorem Telemetry.Tracked.accept (h : w.Tracked)
    (hnonce : r.nonce ∉ (w.cache.forget w.now).entries) (hnew : r ∉ w.accepted.map Prod.snd) :
    Telemetry.Tracked ⟨⟨insert r.nonce (w.cache.forget w.now).entries,
      (w.cache.forget w.now).order ++ [(w.now, r.nonce)]⟩, w.now, w.accepted ++ [(w.now, r)]⟩ := by
  obtain ⟨old, recent, haccepted, horder, hold⟩ := h.forget.split
  change w.accepted = old ++ recent at haccepted
  change (w.cache.forget w.now).order = recent.map remembered at horder
  have hentries := h.forget.entries
  change ∀ n, n ∈ (w.cache.forget w.now).entries ↔
    n ∈ (w.cache.forget w.now).order.map Prod.snd at hentries
  refine ⟨?_, ?_, ⟨old, recent ++ [(w.now, r)], ?_, ?_, hold⟩, fun n => ?_, ?_, ?_⟩
  · rw [List.map_append, List.pairwise_append]
    refine ⟨h.ordered, List.pairwise_singleton .., fun x hx y hy => ?_⟩
    obtain ⟨a, ha, rfl⟩ := List.mem_map.mp hx
    rw [List.mem_singleton.mp hy]
    exact h.past a ha
  · intro a ha
    rcases List.mem_append.mp ha with ha | ha
    · exact h.past a ha
    · rw [List.mem_singleton.mp ha]
  · simp [haccepted]
  · simp [horder, remembered]
  · simp [hentries, or_comm]
  · rw [List.map_append, List.nodup_append]
    refine ⟨h.forget.nonces, List.nodup_singleton _, fun x hx y hy => ?_⟩
    rw [List.mem_singleton.mp hy]
    rintro rfl
    exact hnonce ((hentries _).mpr hx)
  · rw [List.map_append, List.nodup_append]
    refine ⟨h.once, List.nodup_singleton _, fun x hx y hy => ?_⟩
    rw [List.mem_singleton.mp hy]
    rintro rfl
    exact hnew hx

theorem Telemetry.Tracked.receive {m : Nat × Headers} (h : w.Tracked)
    (hok : (roomy w m && timely w m) = true) (hw : receive verify key w m = some w') :
    w'.Tracked := by
  obtain ⟨now, headers⟩ := m
  rw [Bool.and_eq_true] at hok
  unfold Hbbr.receive at hw
  split at hw
  · cases hw
  · rename_i hnow
    have h := h.tick (Nat.not_lt.mp hnow)
    cases hw
    cases hcheck : checkTelemetryRequest verify key now headers with
    | none => simpa [authenticateTelemetryRequest, hcheck] using h
    | some r =>
      by_cases hnonce : r.nonce ∈ (w.cache.forget now).entries
      · have hknown := TelemetryReplayCache.insertFresh_known hnonce
        simpa [authenticateTelemetryRequest, hcheck, hknown] using h.forget
      · have hnew := TelemetryReplayCache.insertFresh_new hnonce (h.not_full hok.1)
        have hagain := h.not_again hok.2 hcheck hnonce
        simpa [authenticateTelemetryRequest, hcheck, hnew, (checkTelemetryRequest_some hcheck).1]
          using h.accept hnonce hagain

/-- A request is accepted once, if it does not come back after its nonce is forgotten. -/
theorem accepted_once (verify : Bytes → String → Key → Bool) (key : Option Key) (w : Telemetry)
    (h : Reachable (Guarded (receive verify key) fun w m => roomy w m && timely w m) .init w) :
    (w.accepted.map Prod.snd).Nodup := by
  have htracked : w.Tracked :=
    h.invariant .init fun w m w' hw hn => hw.receive hn.1 hn.2
  exact htracked.once

end Authentication

/-! ## Concrete runs -/

/-- A request whose timestamp is 30 seconds ahead of the clock at 100. -/
def aheadRequest : SignedRequest where
  timestamp := "130"
  nonce := "00000000000000000000000000000001"
  signature := "abababababababababababababababababababababababababababababababab"

def aheadHeaders : Headers
  | "x-starry-telemetry-timestamp" => some aheadRequest.timestamp
  | "x-starry-telemetry-nonce" => some aheadRequest.nonce
  | "x-starry-telemetry-auth" => some aheadRequest.signature
  | _ => none

/-- The only tag under the key is the one of this request. -/
def verifyAhead (tag : Bytes) (text : String) (_ : Unit) : Bool :=
  tag == List.replicate 32 0xab && text == aheadRequest.canonical

def repeatedSoon : Option Telemetry :=
  exec (receive verifyAhead (some ())) (fun w m => roomy w m && timely w m) .init
    [(100, aheadHeaders), (130, aheadHeaders), (161, aheadHeaders)]

theorem accepted_once_repeated : ∃ w, repeatedSoon = some w ∧
    w.accepted = [(100, aheadRequest)] ∧ (w.accepted.map Prod.snd).Nodup := by
  have hrun : repeatedSoon.map Telemetry.accepted = some [(100, aheadRequest)] := by rfl
  obtain ⟨w, hw, haccepted⟩ := Option.map_eq_some_iff.mp hrun
  exact ⟨w, hw, haccepted, accepted_once verifyAhead (some ()) w ⟨_, .of_exec hw⟩⟩

def repeatedLate : Option Telemetry :=
  exec (receive verifyAhead (some ())) roomy .init [(100, aheadHeaders), (131, aheadHeaders)]

/-- After 31 seconds the nonce is forgotten, and the timestamp is still close to the clock. -/
theorem accepted_twice : ¬ ∀ w : Telemetry,
    Reachable (Guarded (receive verifyAhead (some ())) roomy) .init w →
    (w.accepted.map Prod.snd).Nodup := by
  intro hall
  have hrun : repeatedLate.map Telemetry.accepted =
      some [(100, aheadRequest), (131, aheadRequest)] := by rfl
  obtain ⟨w, hw, haccepted⟩ := Option.map_eq_some_iff.mp hrun
  have honce := hall w ⟨_, .of_exec hw⟩
  rw [haccepted] at honce
  simp at honce

end Starry.Hbbr
