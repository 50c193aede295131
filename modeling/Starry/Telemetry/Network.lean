import Starry.RelayHealth.Cycles
import Starry.Telemetry.Exactness

/-!
# HBBS and the relays that it asks

Between them is a network that may keep, repeat, redirect and change everything. It cannot make a
tag that verifies. Relays may begin anew, and several may hold one secret.
-/

open Library

namespace Starry.Telemetry

open Starry.Hbbr (Headers SignedRequest TelemetryReplayCache authenticateTelemetryRequest
  hexDecodeTag isAsciiHexdigit)
open Starry.RelayHealth (Health HealthState CycleMove Prober RelayEndpointConfig RelayHealthConfig
  ProbeSuccess Response probe)

section

variable (codec : Codec)

/-! ## HBBR -/

/-- A telemetry request that was accepted, on its way to a response. -/
inductive Answering
  | accepted (nonce : String)
  /-- The sequence is fetched, as the `ticket`-th of the process, and the clock not yet read. -/
  | drawn (nonce : String) (ticket sequence : Nat)
deriving DecidableEq, Repr

def Answering.nonce : Answering → String
  | .accepted nonce | .drawn nonce _ _ => nonce

structure Process where
  identity : Identity
  key : codec.Key
  cache : TelemetryReplayCache
  /-- `TELEMETRY_SEQUENCE` -/
  counter : UInt64
  /-- How often it was fetched. -/
  fetched : Nat
  /-- The last reading of `PROCESS_STARTED`. -/
  uptimeSeconds : Nat
  answering : List Answering

/-- What was read and signed for a request. -/
structure Answer where
  process : Nat
  identity : Identity
  key : codec.Key
  nonce : String
  ticket : Nat
  sequence : Nat
  reading : Reading

/-! ## HBBS -/

/-- A request that was signed for a probe of a generation. -/
structure Asked where
  generation : Nat
  relay : String
  unixSeconds : Nat
  nonce : String
  key : codec.Key

/-- A probe of the running cycle. -/
inductive Flight
  | starting
  | waiting (context : Option (TelemetryRequestContext codec))
  | ended

/-- What HBBS reads of a response. Without a secret it leaves the telemetry. -/
def received (response : Headers) : Option (TelemetryRequestContext codec) → Response
  | some context => responseOf codec response context
  | none => {
      version := response "x-starry-version"
      relayProbeProtocol := capabilityVersion response "x-starry-relay-probe-protocol"
      relayLoadProtocol := capabilityVersion response "x-starry-relay-load-protocol"
      telemetry := .error "telemetry_missing" }

structure World where
  health : Health
  probes : List (RelayEndpointConfig × Flight codec)
  /-- What the probes have come to, in the order in which they ended. -/
  results : List (String × Except String ProbeSuccess)
  processes : List (Process codec)
  asked : List (Asked codec)
  answers : List (Answer codec)

inductive Move
  /-- `reconfigure`, or a step of the task that is no probe. -/
  | cycle (m : CycleMove)
  /-- `telemetry_request` for the `i`-th probe, with the key in its file. -/
  | ask (i : Nat) (key : codec.Key) (unixMillis : UInt64) (nonce : String)
  | receive (i now latencyMs : Nat) (response : Headers)
  /-- A probe that comes to no response. -/
  | fail (i : Nat) (code : String)
  | collect
  | start (identity : Identity) (key : codec.Key)
  | accept (k now : Nat) (headers : Headers)
  | draw (k j : Nat)
  | sign (k j : Nat) (r : Reading)

end

section

variable {codec : Codec}

def Process.start (identity : Identity) (key : codec.Key) : Process codec :=
  ⟨identity, key, .empty, 0, 0, 0, []⟩

def Process.accept (p : Process codec) (now : Nat) (headers : Headers) : Process codec :=
  let (nonce, cache) :=
    authenticateTelemetryRequest codec.verify (some p.key) now headers p.cache
  { p with cache, answering := p.answering ++ nonce.toList.map .accepted }

/-- `telemetry_payload`, up to its `fetch_add`. -/
def Process.draw (p : Process codec) (j : Nat) : Option (Process codec) :=
  match p.answering[j]? with
  | some (.accepted nonce) =>
    let (sequence, counter) := nextSequence p.counter
    some { p with
      counter
      fetched := p.fetched + 1
      answering := p.answering.set j (.drawn nonce (p.fetched + 1) sequence) }
  | _ => none

/-- The rest of it, and the signature. The clock does not go back. -/
def Process.sign (p : Process codec) (k j : Nat) (r : Reading) :
    Option (Answer codec × Process codec) :=
  match p.answering[j]? with
  | some (.drawn nonce ticket sequence) =>
    if r.uptimeSeconds.toNat < p.uptimeSeconds then none
    else some (⟨k, p.identity, p.key, nonce, ticket, sequence, r⟩,
      { p with
        uptimeSeconds := r.uptimeSeconds.toNat
        answering := p.answering.eraseIdx j })
  | _ => none

def Answer.payload (a : Answer codec) : Payload := a.reading.payload a.identity a.sequence

def Answer.text (a : Answer codec) : String := responseText a.nonce (a.payload.text codec)

def Answer.headers (a : Answer codec) : Headers :=
  responseHeaders codec a.key a.identity.starryVersion a.nonce (a.payload.text codec)

def Asked.text (q : Asked codec) : String :=
  (⟨toString q.unixSeconds, q.nonce, ""⟩ : SignedRequest).canonical

def Asked.headers (q : Asked codec) : Headers
  | "x-starry-telemetry-timestamp" => some (toString q.unixSeconds)
  | "x-starry-telemetry-nonce" => some q.nonce
  | "x-starry-telemetry-auth" => some (hexEncode (codec.authenticate q.text q.key))
  | _ => none

namespace World

def init : World codec := ⟨.init, [], [], [], [], []⟩

/-- The relays of the cycle. -/
def relays : Prober → List RelayEndpointConfig
  | .probing _ config => config.endpoints
  | _ => []

def step (w : World codec) : Move codec → Option (World codec)
  | .cycle (.collected _) => none
  | .cycle .read => (w.health.step .read).map fun health =>
    { w with health, probes := (relays health.prober).map (·, .starting), results := [] }
  | .cycle m => (w.health.step m).map fun health => { w with health }
  | .ask i key unixMillis nonce =>
    match w.health.prober, w.probes[i]? with
    | .probing generation _, some (endpoint, .starting) =>
      if endpoint.telemetrySecretFile.isSome then
        some { w with
          probes := w.probes.set i (endpoint, .waiting (some ⟨nonce, key⟩))
          asked := w.asked ++
            [⟨generation, endpoint.relay, unixMillis.toNat / 1000, nonce, key⟩] }
      else some { w with probes := w.probes.set i (endpoint, .waiting none) }
    | _, _ => none
  | .receive i now latencyMs response =>
    match w.probes[i]? with
    | some (endpoint, .waiting context) =>
      some { w with
        probes := w.probes.set i (endpoint, .ended)
        results := w.results ++ [(endpoint.relay,
          probe endpoint now latencyMs (.ok (received codec response context)))] }
    | _ => none
  | .fail i code =>
    match w.probes[i]? with
    | some (endpoint, .starting) | some (endpoint, .waiting _) =>
      some { w with
        probes := w.probes.set i (endpoint, .ended)
        results := w.results ++ [(endpoint.relay, .error code)] }
    | _ => none
  | .collect => (w.health.step (.collected w.results)).map fun health =>
    { w with health, probes := [], results := [] }
  | .start identity key => some { w with processes := w.processes ++ [.start identity key] }
  | .accept k now headers => w.processes[k]?.map fun p =>
    { w with processes := w.processes.set k (p.accept now headers) }
  | .draw k j => (w.processes[k]?.bind fun p => p.draw j).map fun p =>
    { w with processes := w.processes.set k p }
  | .sign k j r => (w.processes[k]?.bind fun p => p.sign k j r).map fun (answer, p) =>
    { w with processes := w.processes.set k p, answers := w.answers ++ [answer] }

/-- One of the two has made a tag for this text. -/
def Signed (w : World codec) (key : codec.Key) (text : String) : Prop :=
  (∃ q ∈ w.asked, q.key = key ∧ q.text = text) ∨ ∃ a ∈ w.answers, a.key = key ∧ a.text = text

/-- A tag that verifies was made by one of the two. -/
def Unforged (w : World codec) (headers : Headers) : Prop :=
  ∀ value tag, headers "x-starry-telemetry-auth" = some value → hexDecodeTag value = some tag →
    ∀ key text, codec.verify tag text key = true → w.Signed key text

end World

/-- What `Uuid::simple` writes. -/
def isSimple (nonce : String) : Bool :=
  nonce.utf8ByteSize == 32 && nonce.toList.all isAsciiHexdigit

/-- `validate` refuses a relay that is there twice. -/
def DistinctRelays (config : RelayHealthConfig) : Prop :=
  (config.endpoints.map fun endpoint => toAsciiLowercase endpoint.relay).Nodup

/-- Identifiers are not given twice, the network forges nothing, and what a process reads is what it
has. -/
def World.allows (w : World codec) : Move codec → Prop
  | .cycle (.number _ config) => DistinctRelays config
  | .ask _ _ _ nonce => isSimple nonce = true ∧ nonce ∉ w.asked.map (·.nonce)
  | .receive _ _ _ response => w.Unforged response
  | .start identity _ => identity.Valid ∧
    identity.processInstanceId ∉ w.processes.map (·.identity.processInstanceId)
  | .accept _ _ headers => w.Unforged headers
  | .sign k _ r => ∀ p, w.processes[k]? = some p → r.Found p.identity
  | _ => True

def World.Next (w : World codec) (m : Move codec) (w' : World codec) : Prop :=
  w.allows m ∧ w.step m = some w'

end

end Starry.Telemetry
