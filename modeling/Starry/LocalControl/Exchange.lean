import Starry.Library.Text
import Starry.LocalControl.Framing

/-!
# Local control: one exchange (`local_client.rs`, `local_control.rs`, `handle_listener2`)

The Control Agent opens a connection, writes one request and reads one response. Either side may stop
waiting, and the connection may break anywhere in the bytes of either direction.
-/

open Library

namespace Starry.LocalControl

open Starry.ConfigStore (Value AgentError)

/-! ## Responses -/

structure ErrorBody where
  code : String
  detail : String
  retryable : Bool

structure Response where
  requestId : String
  ok : Bool
  result : Option Value
  error : Option ErrorBody

def Response.success (requestId : String) (result : Value) : Response :=
  ⟨requestId, true, some result, none⟩

/-- `Response::error` -/
def Response.failure (requestId code detail : String) (retryable : Bool) : Response :=
  ⟨requestId, false, none, some ⟨code, detail, retryable⟩⟩

def ErrorBody.toValue (e : ErrorBody) : Value :=
  .object [("code", .string e.code), ("detail", .string e.detail), ("retryable", .bool e.retryable)]

/-- What `Serialize` makes of it: a field without a value is skipped. -/
def Response.toValue (r : Response) : Value :=
  .object ([("request_id", .string r.requestId), ("ok", .bool r.ok)] ++
    (r.result.map fun v => ("result", v)).toList ++
    (r.error.map fun e => ("error", e.toValue)).toList)

/-- The document that the client writes. -/
def Request.toValue (r : Request) : Value :=
  .object [("request_id", .string r.requestId), ("method", .string r.method),
    ("auth_token", .string r.authToken), ("params", r.params)]

/-- `serde_json`, for documents. -/
structure Codec where
  toVec : Value → Bytes
  fromSlice : Bytes → Except String Value

/-! ## The token -/

/-- What `fs::metadata` and `fs::read` find. -/
structure TokenFile where
  isFile : Bool
  mode : Nat
  raw : Except String Bytes

def isTokenByte (b : UInt8) : Bool :=
  let n := b.toNat
  (48 ≤ n && n ≤ 57) || (65 ≤ n && n ≤ 90) || (97 ≤ n && n ≤ 122) || n == 45 || n == 95

def readAuthTokenFile (files : String → Except String TokenFile) (path : String) :
    Except String String := do
  let metadata ← (files path).mapError fun err =>
    "cannot inspect local control token " ++ path ++ ": " ++ err
  if !metadata.isFile then
    .error ("local control token " ++ path ++ " is not a regular file")
  else if metadata.mode &&& 0o077 ≠ 0 then
    .error ("local control token " ++ path ++ " must not grant group or other permissions")
  else
    let raw ← metadata.raw.mapError fun err =>
      "cannot read local control token " ++ path ++ ": " ++ err
    match String.fromUTF8? ⟨raw.toArray⟩ with
    | none => .error "local control token must be UTF-8"
    | some text =>
      let token := trim text
      if token.utf8ByteSize < 32 || token.utf8ByteSize > 256 || !(asBytes token).all isTokenByte then
        .error "local control token must be 32..256 base64url characters"
      else .ok token

/-- Looks at every byte of both, whatever they are. -/
def constantTimeEq (left right : Bytes) : Bool :=
  (List.range (max left.length right.length)).foldl
    (fun difference index => difference ||| (left.getD index 0 ^^^ right.getD index 0).toNat)
    (left.length ^^^ right.length) == 0

def unauthorized : ProtocolError :=
  ⟨"LOCAL_CONTROL_UNAUTHORIZED", "local control authentication failed", true⟩

/-- `path` is the value of `STARRY_LOCAL_CONTROL_TOKEN_FILE`. -/
def authenticate (path : Option String) (files : String → Except String TokenFile)
    (request : Request) : Except ProtocolError Unit :=
  match path.filter fun path => path.toList.head? == some '/' with
  | none => .error unauthorized
  | some path => do
    let expected ← (readAuthTokenFile files path).mapError fun _ => unauthorized
    if !constantTimeEq (asBytes expected) (asBytes request.authToken) then .error unauthorized
    else .ok ()

/-! ## HBBS -/

/-- What the methods ask of the server. A value that cannot be serialized is not there. -/
structure Services where
  base64Decode : String → Option Bytes
  relaysConsistent : Bool
  relays : Option Value
  config : Value
  runtimeState : Option Value
  verifierState : String
  auth : Value
  verifyActive : String → Bytes → Nat → Bytes → List Bytes → Bool
  simulate : Value → Except AgentError (Option Value)
  reload : Except String (Option Value)

def capabilities : Value :=
  .object [
    ("protocol", .object [("name", .string "starry-local-control"), ("version", .uint 1)]),
    ("methods", .array (["capabilities", "status", "relays", "peer.verify", "allocation.simulate",
      "config.runtime_state", "runtime.reload"].map .string)),
    ("limits", .object [("max_frame_bytes", .uint maxFrameBytes)])]

def isEmptyObject : Value → Bool
  | .object fields => fields.isEmpty
  | _ => false

/-- The answer to a method whose value still has to be serialized. -/
def respond (requestId what : String) : Option Value → Response
  | some value => .success requestId value
  | none => .failure requestId "LOCAL_CONTROL_PROTOCOL_ERROR" ("cannot serialize " ++ what) false

section

variable (services : Services)

/-- Base64 of exactly `n` bytes. -/
def decodeBytes (n : Nat) (text : String) : Option Bytes :=
  (services.base64Decode text).filter fun value => value.length = n

/-- The method `peer.verify`: whatever is missing or malformed is not registered. -/
def peerRegistered (params : Value) : Bool :=
  let activationEpoch := ((params.get "activation_epoch").bind Value.asU64).getD 0
  match (params.get "id").bind Value.asStr, (params.get "uuid").bind Value.asStr,
      (params.get "activation_id").bind Value.asStr,
      (params.get "route_leases").bind Value.asArray with
  | some peerId, some uuid, some activationId, some routeLeases =>
    if !peerId.isEmpty && peerId.utf8ByteSize ≤ 128 && 0 < activationEpoch &&
        !routeLeases.isEmpty && routeLeases.length ≤ 16 then
      match decodeBytes services 16 uuid, decodeBytes services 16 activationId,
          routeLeases.mapM fun value => value.asStr.bind (decodeBytes services 32) with
      | some uuid, some activationId, some routeLeases =>
        services.verifyActive peerId uuid activationEpoch activationId routeLeases
      | _, _, _ => false
    else false
  | _, _, _, _ => false

def handleLocalControlRequest (request : Request) : Response :=
  let requestId := request.requestId
  let emptyParams := isEmptyObject request.params
  let method := request.method
  if method == "capabilities" && emptyParams then .success requestId capabilities
  else if method == "status" && emptyParams then
    let authReady := services.verifierState == "disabled" || services.verifierState == "ready"
    .success requestId (.object [("ready", .bool (services.relaysConsistent && authReady)),
      ("config", services.config), ("auth", services.auth)])
  else if method == "relays" && emptyParams then
    if !services.relaysConsistent then
      .failure requestId "STARRY_NOT_READY"
        "Relay pool and active configuration generations are not synchronized" true
    else respond requestId "Relay runtime snapshot" services.relays
  else if method == "peer.verify" then
    .success requestId (.object [("registered", .bool (peerRegistered services request.params))])
  else if method == "allocation.simulate" then
    match services.simulate request.params with
    | .ok trace => respond requestId "allocation trace" trace
    | .error e => .failure requestId e.code e.detail e.retryable
  else if method == "config.runtime_state" && emptyParams then
    respond requestId "runtime configuration state" services.runtimeState
  else if method == "runtime.reload" && emptyParams then
    match services.reload with
    | .ok ack => respond requestId "runtime activation acknowledgement" ack
    | .error e => .failure requestId "CONFIG_INVALID" e false
  else if ["capabilities", "status", "relays", "config.runtime_state",
      "runtime.reload"].contains method then
    .failure requestId "REQUEST_INVALID" "this local control method does not accept parameters" false
  else .failure requestId "REQUEST_INVALID" "unknown local control method" false

end

/-- `u32::to_be_bytes` of a length -/
def toBeBytes (n : Nat) : Bytes :=
  [UInt8.ofNat (n / 2 ^ 24), UInt8.ofNat (n / 2 ^ 16), UInt8.ofNat (n / 2 ^ 8), UInt8.ofNat n]

/-- The frame around a payload, as both sides write it. -/
def frame (payload : Bytes) : Bytes := magic ++ (toBeBytes payload.length ++ payload)

def writeResponse (codec : Codec) (response : Response) : Except ProtocolError Bytes :=
  let payload := codec.toVec response.toValue
  if payload.length > maxFrameBytes then
    .error (protocolError "local control response exceeds the frame limit" true)
  else .ok (frame payload)

structure Server where
  env : Env
  codec : Codec
  tokenFile : Option String
  files : String → Except String TokenFile
  services : Services

namespace Server

variable (server : Server)

/-- The answer to a request that was read. -/
def answer (request : Request) : List Request × Response :=
  match authenticate server.tokenFile server.files request with
  | .ok () => ([request], handleLocalControlRequest server.services request)
  | .error e => ([], .failure request.requestId e.code e.detail false)

/-- What is handled of the bytes of a connection, and the response if there is one. -/
def reply (reader : List Bytes) : List Request × Option Response :=
  match readRequestInner server.env reader with
  | .ok request => ((server.answer request).1, some (server.answer request).2)
  | .error (.error e) => ([], if e.framed then some (.failure "" e.code e.detail false) else none)
  | .error .panic => ([], none)

/-- The bytes that go out. A response that cannot be written is dropped with the connection. -/
def written (response : Option Response) : Bytes :=
  match response.map (writeResponse server.codec) with
  | some (.ok bytes) => bytes
  | _ => []

end Server

/-! ## The Control Agent -/

def localUnavailable : AgentError :=
  ⟨"LOCAL_CONTROL_UNAVAILABLE", "HBBS local control is unavailable.", true⟩

def localTimeout : AgentError := ⟨"LOCAL_CONTROL_TIMEOUT", "HBBS local control timed out.", true⟩

def replyInvalid (detail : String) : AgentError := ⟨"LOCAL_CONTROL_PROTOCOL_ERROR", detail, false⟩

/-- How an operation on the connection fails. -/
inductive Failure
  | timedOut | broken

def Failure.toError : Failure → AgentError
  | .timedOut => localTimeout
  | .broken => localUnavailable

/-- What comes in, and how it goes on after that. -/
structure Incoming where
  pieces : List Bytes
  ending : Failure

def Incoming.readExact (n : Nat) (incoming : Incoming) : Except AgentError (Bytes × Incoming) :=
  match Library.readExact n incoming.pieces with
  | (some got, pieces) => .ok (got, { incoming with pieces })
  | (none, _) => .error incoming.ending.toError

/-- What a response says, for the request with this id. -/
def readResponse (requestId : String) (response : Value) : Except AgentError Value :=
  if (response.get "request_id").bind Value.asStr ≠ some requestId then
    .error (replyInvalid "HBBS returned a mismatched local control request ID.")
  else if (response.get "ok").bind Value.asBool = some true then
    match response.get "result" with
    | some result => .ok result
    | none => .error (replyInvalid "HBBS omitted the local control result.")
  else
    let error := (response.get "error").getD .null
    .error ⟨((error.get "code").bind Value.asStr).getD "LOCAL_CONTROL_PROTOCOL_ERROR",
      ((error.get "detail").bind Value.asStr).getD "HBBS rejected the local control request.",
      ((error.get "retryable").bind Value.asBool).getD false⟩

structure Client where
  codec : Codec
  tokenFile : String
  files : String → Except String TokenFile

namespace Client

variable (client : Client)

/-- The request with the client's token, if there is one. -/
def request (requestId method : String) (params : Value) : Except AgentError Request :=
  match readAuthTokenFile client.files client.tokenFile with
  | .error _ => .error ⟨"LOCAL_CONTROL_UNAUTHORIZED",
      "The local control authentication token is unavailable.", false⟩
  | .ok authToken => .ok ⟨requestId, method, authToken, params⟩

/-- What the client writes. -/
def prepare (requestId method : String) (params : Value) : Except AgentError Bytes := do
  let request ← client.request requestId method params
  let payload := client.codec.toVec request.toValue
  if payload.length > maxFrameBytes then
    .error ⟨"CONFIG_TOO_LARGE", "The local control request exceeds the protocol limit.", false⟩
  else .ok (frame payload)

/-- The end of `call_with_token_file`: reads the response. -/
def readReply (requestId : String) (incoming : Incoming) : Except AgentError Value := do
  let (start, incoming) ← incoming.readExact magic.length
  if start ≠ magic then
    .error (replyInvalid "HBBS returned an invalid local control magic.")
  else
    let (lengthBytes, incoming) ← incoming.readExact 4
    let length := fromBeBytes lengthBytes
    if length = 0 ∨ length > maxFrameBytes then
      .error (replyInvalid "HBBS returned an invalid local control frame length.")
    else
      let (body, _) ← incoming.readExact length
      match client.codec.fromSlice body with
      | .error _ => .error (replyInvalid "HBBS returned invalid local control JSON.")
      | .ok response => readResponse requestId response

end Client

/-! ## An exchange -/

/-- One call of the client, with its result and the requests that the server handles for it. -/
inductive Exchange (client : Client) (server : Server) (requestId method : String) (params : Value) :
    Except AgentError Value → List Request → Prop
  | unsent {e : AgentError} (h : client.prepare requestId method params = .error e) :
      Exchange client server requestId method params (.error e) []
  /-- There is no connection, or the server reads nothing in time. -/
  | lost {bytes : Bytes} (h : client.prepare requestId method params = .ok bytes)
      (failure : Failure) : Exchange client server requestId method params
        (.error failure.toError) []
  /-- The client fails while it writes. Any part of the request may have arrived. -/
  | unwritten {bytes sent : Bytes} {reader : List Bytes}
      (h : client.prepare requestId method params = .ok bytes) (hsent : sent <+: bytes)
      (hreader : Cut sent reader) (failure : Failure) :
      Exchange client server requestId method params (.error failure.toError)
        (server.reply reader).1
  /-- Any part of the response may arrive. -/
  | answered {bytes got : Bytes} {reader pieces : List Bytes}
      (h : client.prepare requestId method params = .ok bytes) (hreader : Cut bytes reader)
      (hgot : got <+: server.written (server.reply reader).2) (hpieces : Cut got pieces)
      (ending : Failure) :
      Exchange client server requestId method params
        (client.readReply requestId ⟨pieces, ending⟩) (server.reply reader).1

/-! ## Reading back what was written -/

theorem fromBeBytes_toBeBytes {n : Nat} (h : n < 2 ^ 32) : fromBeBytes (toBeBytes n) = n := by
  simp only [fromBeBytes, toBeBytes, List.foldl_cons, List.foldl_nil, UInt8.toNat_ofNat']
  omega

theorem toBeBytes_length (n : Nat) : (toBeBytes n).length = 4 := rfl

theorem framed_frame {payload : Bytes} (hne : payload ≠ []) (hmax : payload.length ≤ maxFrameBytes) :
    Framed (frame payload) payload [] := by
  have hlimit : maxFrameBytes < 2 ^ 32 := by decide
  refine ⟨toBeBytes payload.length, rfl, fromBeBytes_toBeBytes (by omega),
    List.length_pos_iff.mpr hne, hmax, ?_⟩
  rw [List.append_nil]
  rfl

theorem frame_length (payload : Bytes) :
    (frame payload).length = magic.length + 4 + payload.length := by
  simp only [frame, List.length_append, toBeBytes_length]
  omega

theorem foldl_or_eq_zero (f : Nat → Nat) (indices : List Nat) (n : Nat) :
    indices.foldl (fun difference index => difference ||| f index) n = 0 ↔
      n = 0 ∧ ∀ index ∈ indices, f index = 0 := by
  induction indices generalizing n with
  | nil => simp
  | cons index indices ih =>
    rw [List.foldl_cons, ih]
    simp [Nat.or_eq_zero_iff, and_assoc]

theorem constantTimeEq_iff {left right : Bytes} : constantTimeEq left right = true ↔ left = right := by
  unfold constantTimeEq
  rw [beq_iff_eq, foldl_or_eq_zero]
  constructor
  · rintro ⟨hlength, hbytes⟩
    have hsame : left.length = right.length := Nat.xor_eq_zero_iff.mp hlength
    apply List.ext_getElem hsame
    intro i hi hi'
    have hbyte := hbytes i (List.mem_range.mpr (by omega))
    rw [List.getD_eq_getElem _ _ hi, List.getD_eq_getElem _ _ hi'] at hbyte
    have hzero : left[i] ^^^ right[i] = 0 := UInt8.toNat_inj.mp hbyte
    exact UInt8.xor_eq_zero_iff.mp hzero
  · rintro rfl
    simp

section

variable {client : Client} {server : Server} {requestId method : String} {params : Value}
  {request : Request} {payload bytes got sent : Bytes} {reader pieces : List Bytes}
  {ending : Failure}

theorem authenticate_ok {path : Option String} {files : String → Except String TokenFile} :
    authenticate path files request = .ok () ↔
      ∃ name, path = some name ∧ name.toList.head? = some '/' ∧
        readAuthTokenFile files name = .ok request.authToken := by
  unfold authenticate
  cases path with
  | none => simp
  | some name =>
    by_cases habsolute : name.toList.head? = some '/'
    · have hfilter : (some name).filter (fun path => path.toList.head? == some '/') = some name := by
        simp [Option.filter, habsolute]
      rw [hfilter]
      cases hread : readAuthTokenFile files name with
      | error e => simp [hread, habsolute, Except.mapError, bind, Except.bind]
      | ok expected =>
        simp only [Except.mapError, bind, Except.bind, Bool.not_eq_true', Option.some.injEq,
          exists_eq_left', hread, habsolute, true_and, Except.ok.injEq]
        rw [← asBytes_inj, ← constantTimeEq_iff]
        cases constantTimeEq (asBytes expected) (asBytes request.authToken) <;> simp
    · have hfilter : (some name).filter (fun path => path.toList.head? == some '/') = none := by
        simp [Option.filter, habsolute]
      rw [hfilter]
      simp [habsolute]

theorem Incoming.readExact_ok (ending : Failure) {n : Nat} (h : Cut bytes pieces) (hn : n ≤ bytes.length) : ∃ pieces',
    Incoming.readExact n ⟨pieces, ending⟩ = .ok (bytes.take n, ⟨pieces', ending⟩) ∧
      Cut (bytes.drop n) pieces' := by
  obtain ⟨hgot, hcut⟩ := readExact_some h hn
  refine ⟨_, ?_, hcut⟩
  unfold Incoming.readExact
  generalize Library.readExact n pieces = read at *
  obtain ⟨got, left⟩ := read
  obtain rfl : got = _ := hgot
  rfl

theorem Incoming.readExact_error {n : Nat} (h : Cut bytes pieces) (hn : bytes.length < n) :
    Incoming.readExact n ⟨pieces, ending⟩ = .error ending.toError := by
  have hgot := readExact_none h hn
  unfold Incoming.readExact
  generalize Library.readExact n pieces = read at *
  obtain ⟨got, left⟩ := read
  obtain rfl : got = none := hgot
  rfl

/-! ## What the server makes of the request -/

/-- The errors that the server may answer where it does not get to the request. -/
def refusals (env : Env) (request : Request) : List ProtocolError :=
  [ioError "truncated local control magic" env.endOfFile true,
    ioError "truncated local control frame" env.endOfFile true] ++
  match validateRequest request with
  | .ok () => []
  | .error e => [e]

/-- Every response that the bytes of a request, or of a part of it, may get. -/
def Server.replies (server : Server) (request : Request) : List Response :=
  (server.answer request).2 ::
    (refusals server.env request).map fun e => .failure "" e.code e.detail false

/-- A part of a frame is not enough. -/
theorem outcome_of_part (env : Env) {used : Nat} (hne : payload ≠ [])
    (hmax : payload.length ≤ maxFrameBytes) (hsent : sent <+: frame payload)
    (hshort : sent.length < (frame payload).length) (hused : used ≤ sent.length) :
    ∃ e, outcome env used sent = .error e ∧
      (e.framed = true → e = ioError "truncated local control magic" env.endOfFile true ∨
        e = ioError "truncated local control frame" env.endOfFile true) := by
  have hpos := List.length_pos_iff.mpr hne
  have hlimit : maxFrameBytes < 2 ^ 32 := by decide
  rw [frame_length] at hshort
  by_cases hnil : sent = []
  · unfold outcome
    rw [if_pos hnil]
    exact ⟨_, rfl, by simp [protocolError]⟩
  · by_cases hmagic : sent.length < magic.length
    · have hstart : sent <+: magic :=
        List.prefix_of_prefix_length_le hsent (List.prefix_append _ _) hmagic.le
      unfold outcome
      rw [if_neg hnil, if_pos ⟨by omega, (List.take_prefix _ _).trans hstart, hmagic⟩]
      exact ⟨_, rfl, fun _ => .inl rfl⟩
    · have hline : sent.take magic.length = magic := by
        rw [List.prefix_iff_eq_take.mp hsent, List.take_take, Nat.min_eq_left (by omega)]
        exact List.take_left
      have hbody : sent.drop magic.length <+: toBeBytes payload.length ++ payload := by
        have hdrop := hsent.drop magic.length
        rwa [frame, List.drop_left] at hdrop
      have hlength : (sent.drop magic.length).length = sent.length - magic.length :=
        List.length_drop
      rw [outcome_of_magic hline]
      unfold frameOutcome
      dsimp only
      split
      · exact ⟨_, rfl, fun _ => .inr rfl⟩
      · rename_i hfour
        have htake : (sent.drop magic.length).take 4 = toBeBytes payload.length := by
          rw [List.prefix_iff_eq_take.mp hbody, List.take_take, Nat.min_eq_left (by omega)]
          exact List.take_left' (toBeBytes_length _)
        rw [htake, fromBeBytes_toBeBytes (by omega), if_neg (by omega), if_neg (by omega),
          if_pos (by omega)]
        exact ⟨_, rfl, fun _ => .inr rfl⟩

theorem readPayload_of_read {env : Env} (hread : env.fromSlice payload = .ok request) :
    readPayload env payload = (validateRequest request).map fun _ => request := by
  unfold readPayload
  rw [hread]
  change (validateRequest request >>= fun _ => pure request) = _
  cases validateRequest request <;> rfl

theorem reply_of_whole (hne : payload ≠ []) (hmax : payload.length ≤ maxFrameBytes)
    (hread : server.env.fromSlice payload = .ok request) (hreader : Cut (frame payload) reader) :
    server.reply reader = match validateRequest request with
      | .ok () => ((server.answer request).1, some (server.answer request).2)
      | .error e => ([], if e.framed then some (.failure "" e.code e.detail false) else none) := by
  have hfirst := (firstRead_le hreader).2
  rw [frame_length] at hfirst
  unfold Server.reply
  rw [readRequestInner_eq hreader, outcome_of_framed (framed_frame hne hmax), if_neg (by omega),
    readPayload_of_read hread]
  cases validateRequest request <;> rfl

theorem reply_of_part (request : Request) (hne : payload ≠ []) (hmax : payload.length ≤ maxFrameBytes)
    (hsent : sent <+: frame payload) (hshort : sent.length < (frame payload).length)
    (hreader : Cut sent reader) : (server.reply reader).1 = [] ∧
      ∀ response, (server.reply reader).2 = some response →
        ∃ e ∈ refusals server.env request, response = .failure "" e.code e.detail false := by
  obtain ⟨e, houtcome, hframed⟩ := outcome_of_part server.env hne hmax hsent hshort
    (firstRead_le hreader).2
  unfold Server.reply
  rw [readRequestInner_eq hreader, houtcome]
  refine ⟨rfl, fun response hresponse => ?_⟩
  simp only [Except.mapError] at hresponse
  split at hresponse
  · rename_i htrue
    refine ⟨e, ?_, (Option.some.inj hresponse).symm⟩
    unfold refusals
    rcases hframed htrue with rfl | rfl <;> simp
  · cases hresponse

/-! ## What the client makes of the response -/

theorem readReply_eq {response : Value} (hne : payload ≠ [])
    (hmax : payload.length ≤ maxFrameBytes) (hread : client.codec.fromSlice payload = .ok response)
    (hgot : got <+: frame payload) (hpieces : Cut got pieces) :
    client.readReply requestId ⟨pieces, ending⟩ =
      if got.length < (frame payload).length then .error ending.toError
      else readResponse requestId response := by
  have hpos := List.length_pos_iff.mpr hne
  have hlimit : maxFrameBytes < 2 ^ 32 := by decide
  rw [frame_length]
  unfold Client.readReply
  by_cases hmagic : got.length < magic.length
  · rw [Incoming.readExact_error hpieces hmagic, if_pos (by omega)]
    rfl
  · obtain ⟨pieces', hstart, hpieces'⟩ :=
      Incoming.readExact_ok ending hpieces (Nat.not_lt.mp hmagic)
    have hline : got.take magic.length = magic := by
      rw [List.prefix_iff_eq_take.mp hgot, List.take_take, Nat.min_eq_left (by omega)]
      exact List.take_left
    have hbody : got.drop magic.length <+: toBeBytes payload.length ++ payload := by
      have hdrop := hgot.drop magic.length
      rwa [frame, List.drop_left] at hdrop
    have hlength : (got.drop magic.length).length = got.length - magic.length := List.length_drop
    generalize got.drop magic.length = body at *
    rw [hstart, hline]
    change (Incoming.readExact 4 ⟨pieces', ending⟩ >>= _) = _
    by_cases hfour : body.length < 4
    · rw [Incoming.readExact_error hpieces' hfour, if_pos (by omega)]
      rfl
    · obtain ⟨pieces'', hread', hpieces''⟩ :=
        Incoming.readExact_ok ending hpieces' (Nat.not_lt.mp hfour)
      have htake : body.take 4 = toBeBytes payload.length := by
        rw [List.prefix_iff_eq_take.mp hbody, List.take_take, Nat.min_eq_left (by omega)]
        exact List.take_left' (toBeBytes_length _)
      have hrest : body.drop 4 <+: payload := by
        have hdrop := hbody.drop 4
        rwa [List.drop_left' (toBeBytes_length _)] at hdrop
      have hleft : (body.drop 4).length = body.length - 4 := List.length_drop
      rw [hread', htake]
      change (if _ then _ else _) = _
      rw [fromBeBytes_toBeBytes (by omega), if_neg (by omega)]
      by_cases hshort : got.length < magic.length + 4 + payload.length
      · rw [Incoming.readExact_error hpieces'' (by omega), if_pos hshort]
        rfl
      · obtain ⟨_, hwhole, -⟩ :=
          Incoming.readExact_ok ending hpieces'' (n := payload.length) (by omega)
        have hall : (body.drop 4).take payload.length = payload := by
          have heq : body.drop 4 = payload := hrest.eq_of_length_le (by omega)
          rw [heq, List.take_length]
        rw [hwhole, hall, if_neg hshort]
        change (match client.codec.fromSlice payload with | .error _ => _ | .ok response => _) = _
        rw [hread]

theorem readReply_nil (hgot : got <+: []) (hpieces : Cut got pieces) :
    client.readReply requestId ⟨pieces, ending⟩ = .error ending.toError := by
  have hpos : got.length < magic.length := by
    rw [List.prefix_nil.mp hgot]
    decide
  unfold Client.readReply
  rw [Incoming.readExact_error hpieces hpos]
  rfl

theorem readResponse_success {value : Value} :
    readResponse requestId (Response.success requestId value).toValue = .ok value := by
  simp [readResponse, Response.success, Response.toValue, Value.get, Value.asStr, Value.asBool,
    List.lookup]

theorem readResponse_failure {id code detail : String} {retryable : Bool} :
    readResponse requestId (Response.failure id code detail retryable).toValue =
      if id = requestId then .error ⟨code, detail, retryable⟩
      else .error (replyInvalid "HBBS returned a mismatched local control request ID.") := by
  simp [readResponse, Response.failure, Response.toValue, ErrorBody.toValue, Value.get, Value.asStr,
    Value.asBool, List.lookup]

theorem respond_cases (id what : String) (value : Option Value) :
    (∃ v, respond id what value = .success id v) ∨
      ∃ code detail retryable, respond id what value = .failure id code detail retryable := by
  cases value with
  | none => exact .inr ⟨_, _, _, rfl⟩
  | some v => exact .inl ⟨v, rfl⟩

/-- Every method answers the request that it was called for. -/
theorem handleLocalControlRequest_cases (services : Services) (request : Request) :
    (∃ v, handleLocalControlRequest services request = .success request.requestId v) ∨
      ∃ code detail retryable, handleLocalControlRequest services request =
        .failure request.requestId code detail retryable := by
  unfold handleLocalControlRequest
  dsimp only
  split
  · exact .inl ⟨_, rfl⟩
  split
  · exact .inl ⟨_, rfl⟩
  split
  · split
    · exact .inr ⟨_, _, _, rfl⟩
    · exact respond_cases ..
  split
  · exact .inl ⟨_, rfl⟩
  split
  · split
    · exact respond_cases ..
    · exact .inr ⟨_, _, _, rfl⟩
  split
  · exact respond_cases ..
  split
  · split
    · exact respond_cases ..
    · exact .inr ⟨_, _, _, rfl⟩
  split
  · exact .inr ⟨_, _, _, rfl⟩
  · exact .inr ⟨_, _, _, rfl⟩

/-! ## Exactness -/

/-- What a response tells the caller. -/
def Response.told (response : Response) : Except AgentError Value :=
  match response.result, response.error with
  | some value, _ => .ok value
  | none, some e => .error ⟨e.code, e.detail, e.retryable⟩
  | none, none => .error (replyInvalid "HBBS omitted the local control result.")

/-- The result is no more than what the server handled, and that is the request or nothing. -/
structure Justified (client : Client) (server : Server) (requestId method : String)
    (params : Value) (result : Except AgentError Value) (handled : List Request) : Prop where
  once : handled = [] ∨ ∃ request, handled = [request] ∧
    client.request requestId method params = .ok request ∧ validateRequest request = .ok () ∧
    authenticate server.tokenFile server.files request = .ok ()
  ok : ∀ value, result = .ok value → ∃ request ∈ handled,
    handleLocalControlRequest server.services request = .success requestId value
  error : ∀ e, result = .error e → ∀ request ∈ handled, e = localTimeout ∨ e = localUnavailable ∨
    handleLocalControlRequest server.services request =
      .failure requestId e.code e.detail e.retryable

theorem Failure.toError_cases (failure : Failure) :
    failure.toError = localTimeout ∨ failure.toError = localUnavailable := by
  cases failure with
  | timedOut => exact .inl rfl
  | broken => exact .inr rfl

/-- Nothing was handled, and nothing is reported. -/
theorem Justified.nothing (e : AgentError) :
    Justified client server requestId method params (.error e) [] :=
  ⟨.inl rfl, by simp, by simp⟩

/-- The connection failed. -/
theorem Justified.failed {handled : List Request} (failure : Failure)
    (h : handled = [] ∨ ∃ request, handled = [request] ∧
      client.request requestId method params = .ok request ∧ validateRequest request = .ok () ∧
      authenticate server.tokenFile server.files request = .ok ()) :
    Justified client server requestId method params (.error failure.toError) handled := by
  refine ⟨h, by simp, fun e he request _ => ?_⟩
  rw [← Except.error.inj he]
  exact failure.toError_cases.imp_right .inl

/-- The documents of an exchange survive it. -/
structure Lossless (client : Client) (server : Server) (request : Request) : Prop where
  request_ne : client.codec.toVec request.toValue ≠ []
  request_read : server.env.fromSlice (client.codec.toVec request.toValue) = .ok request
  reply_ne : ∀ response ∈ server.replies request, server.codec.toVec response.toValue ≠ []
  reply_read : ∀ response ∈ server.replies request,
    client.codec.fromSlice (server.codec.toVec response.toValue) = .ok response.toValue

theorem prepare_ok (h : client.prepare requestId method params = .ok bytes) : ∃ request,
    client.request requestId method params = .ok request ∧
      (client.codec.toVec request.toValue).length ≤ maxFrameBytes ∧
      bytes = frame (client.codec.toVec request.toValue) := by
  unfold Client.prepare at h
  obtain ⟨request, hrequest, h⟩ := bind_eq_ok.mp h
  dsimp only at h
  split at h
  · cases h
  · rename_i hfits
    exact ⟨request, hrequest, by omega, (Except.ok.inj h).symm⟩

theorem request_requestId (h : client.request requestId method params = .ok request) :
    request.requestId = requestId := by
  unfold Client.request at h
  split at h
  · cases h
  · rw [← Except.ok.inj h]

theorem written_cases (server : Server) (response : Response) :
    (server.codec.toVec response.toValue).length ≤ maxFrameBytes ∧
        server.written (some response) = frame (server.codec.toVec response.toValue) ∨
      maxFrameBytes < (server.codec.toVec response.toValue).length ∧
        server.written (some response) = [] := by
  unfold Server.written
  rw [Option.map_some, writeResponse]
  rcases Nat.lt_or_ge maxFrameBytes (server.codec.toVec response.toValue).length with hlong | hfits
  · rw [if_pos hlong]
    exact .inr ⟨hlong, rfl⟩
  · rw [if_neg (Nat.not_lt.mpr hfits)]
    exact .inl ⟨hfits, rfl⟩

/-- What arrives of a response is all of it, or the connection fails. -/
theorem readReply_written (requestId : String) (ending : Failure) {response : Response}
    (hne : server.codec.toVec response.toValue ≠ [])
    (hread : client.codec.fromSlice (server.codec.toVec response.toValue) = .ok response.toValue)
    (hgot : got <+: server.written (some response)) (hpieces : Cut got pieces) :
    client.readReply requestId ⟨pieces, ending⟩ = .error ending.toError ∨
      client.readReply requestId ⟨pieces, ending⟩ = readResponse requestId response.toValue := by
  rcases written_cases server response with ⟨hfits, hwritten⟩ | ⟨-, hwritten⟩
  · rw [hwritten] at hgot
    rw [readReply_eq hne hfits hread hgot hpieces]
    split
    · exact .inl rfl
    · exact .inr rfl
  · rw [hwritten] at hgot
    exact .inl (readReply_nil hgot hpieces)

theorem told_of_answer (server : Server) (h : request.requestId = requestId) :
    readResponse requestId (server.answer request).2.toValue = (server.answer request).2.told := by
  subst h
  unfold Server.answer
  split
  · rcases handleLocalControlRequest_cases server.services request with ⟨v, hv⟩ |
      ⟨code, detail, retryable, hv⟩
    · rw [hv, readResponse_success]
      rfl
    · rw [hv, readResponse_failure, if_pos rfl]
      rfl
  · rw [readResponse_failure, if_pos rfl]
    rfl

/-- A request that arrives whole: its answer, or the refusal of what cannot be one. -/
theorem reply_cases (h : Lossless client server request)
    (hmax : (client.codec.toVec request.toValue).length ≤ maxFrameBytes)
    (hreader : Cut (frame (client.codec.toVec request.toValue)) reader) :
    (validateRequest request = .ok () ∧
        server.reply reader = ((server.answer request).1, some (server.answer request).2)) ∨
      ((server.reply reader).1 = [] ∧ ∀ response, (server.reply reader).2 = some response →
        ∃ e ∈ refusals server.env request, response = .failure "" e.code e.detail false) := by
  have hreply := reply_of_whole h.request_ne hmax h.request_read hreader
  cases hvalid : validateRequest request with
  | ok _ =>
    rw [hvalid] at hreply
    exact .inl ⟨rfl, hreply⟩
  | error e =>
    rw [hvalid] at hreply
    rw [hreply]
    refine .inr ⟨rfl, fun response hresponse => ⟨e, ?_, ?_⟩⟩
    · simp [refusals, hvalid]
    · dsimp only at hresponse
      split at hresponse
      · exact (Option.some.inj hresponse).symm
      · cases hresponse

theorem answer_once (server : Server) (request : Request) : (server.answer request).1 = [] ∨
    (server.answer request).1 = [request] ∧
      authenticate server.tokenFile server.files request = .ok () ∧
      (server.answer request).2 = handleLocalControlRequest server.services request := by
  unfold Server.answer
  split
  · rename_i hauth
    exact .inr ⟨rfl, hauth, rfl⟩
  · exact .inl rfl

/-- The end of an exchange whose response got as far as the client. -/
theorem justified_of_response {handled : List Request} {response : Response}
    (hrequest : client.request requestId method params = .ok request)
    (hvalid : validateRequest request = .ok ())
    (hhandled : handled = (server.answer request).1) (hresponse : response = (server.answer request).2) :
    Justified client server requestId method params response.told handled := by
  subst hhandled hresponse
  have hid := request_requestId hrequest
  rcases answer_once server request with hnone | ⟨hone, hauth, hresponse⟩
  · have htold : ∃ e, (server.answer request).2.told = .error e := by
      unfold Server.answer at hnone ⊢
      split at hnone
      · cases hnone
      · exact ⟨_, rfl⟩
    obtain ⟨e, htold⟩ := htold
    rw [hnone, htold]
    exact .nothing e
  · rw [hone, hresponse]
    refine ⟨.inr ⟨request, rfl, hrequest, hvalid, hauth⟩, fun value hvalue => ?_, fun e he => ?_⟩
    · refine ⟨request, List.mem_singleton_self _, ?_⟩
      rcases handleLocalControlRequest_cases server.services request with ⟨v, hv⟩ |
        ⟨code, detail, retryable, hv⟩
      · rw [hv] at hvalue
        rw [hv, hid, Except.ok.inj hvalue]
      · rw [hv] at hvalue
        cases hvalue
    · intro other hother
      obtain rfl := List.mem_singleton.mp hother
      rcases handleLocalControlRequest_cases server.services other with ⟨v, hv⟩ |
        ⟨code, detail, retryable, hv⟩
      · rw [hv] at he
        cases he
      · rw [hv] at he
        rw [hv, hid, ← Except.error.inj he]
        exact .inr (.inr rfl)

/-- The result of a response that was read. -/
theorem answered_justified (h : Lossless client server request)
    (hrequest : client.request requestId method params = .ok request)
    (hmax : (client.codec.toVec request.toValue).length ≤ maxFrameBytes)
    (hreader : Cut (frame (client.codec.toVec request.toValue)) reader)
    (hgot : got <+: server.written (server.reply reader).2) (hpieces : Cut got pieces) :
    Justified client server requestId method params (client.readReply requestId ⟨pieces, ending⟩)
      (server.reply reader).1 := by
  rcases reply_cases h hmax hreader with ⟨hvalid, hreply⟩ | ⟨hnone, hrefusal⟩
  · have hmem : (server.answer request).2 ∈ server.replies request := List.mem_cons_self
    rw [hreply] at hgot ⊢
    rcases readReply_written requestId ending (h.reply_ne _ hmem)
      (h.reply_read _ hmem) hgot hpieces with hread | hread
    · rw [hread]
      apply Justified.failed
      rcases answer_once server request with hnone | ⟨hone, hauth, -⟩
      · exact .inl hnone
      · exact .inr ⟨request, hone, hrequest, hvalid, hauth⟩
    · rw [hread, told_of_answer server (request_requestId hrequest)]
      exact justified_of_response hrequest hvalid rfl rfl
  · rw [hnone]
    cases hresponse : (server.reply reader).2 with
    | none =>
      rw [hresponse] at hgot
      rw [readReply_nil hgot hpieces]
      exact .nothing _
    | some response =>
      rw [hresponse] at hgot
      obtain ⟨e, he, rfl⟩ := hrefusal response hresponse
      have hmem := List.mem_cons_of_mem (server.answer request).2 (List.mem_map_of_mem
        (f := fun e : ProtocolError => Response.failure "" e.code e.detail false) he)
      rcases readReply_written requestId ending (h.reply_ne _ hmem)
        (h.reply_read _ hmem) hgot hpieces with hread | hread
      · rw [hread]
        exact .nothing _
      · rw [hread, readResponse_failure]
        split
        · exact .nothing _
        · exact .nothing _

/-- A part of the request is never handled. -/
theorem unwritten_justified (h : Lossless client server request)
    (hrequest : client.request requestId method params = .ok request)
    (hmax : (client.codec.toVec request.toValue).length ≤ maxFrameBytes)
    (hsent : sent <+: frame (client.codec.toVec request.toValue)) (hreader : Cut sent reader)
    (failure : Failure) :
    Justified client server requestId method params (.error failure.toError)
      (server.reply reader).1 := by
  rcases Nat.lt_or_ge sent.length (frame (client.codec.toVec request.toValue)).length with
    hshort | hwhole
  · rw [(reply_of_part request h.request_ne hmax hsent hshort hreader).1]
    exact .nothing _
  · obtain rfl := hsent.eq_of_length_le hwhole
    apply Justified.failed
    rcases reply_cases h hmax hreader with ⟨hvalid, hreply⟩ | ⟨hnone, -⟩
    · rw [hreply]
      rcases answer_once server request with hnone | ⟨hone, hauth, -⟩
      · exact .inl hnone
      · exact .inr ⟨request, hone, hrequest, hvalid, hauth⟩
    · exact .inl hnone

/-- An exchange is exact: a call returns a value only if the server handled this very request once,
with the client's token as its own, and that is its answer; it reports an error of a request that was
handled only as the server gave it, or that the connection failed. A request that is valid and has
the server's token, with nothing lost, is handled, and what is returned is the answer of its method
if that fits into a frame. -/
theorem exchange_exact (client : Client) (server : Server) (requestId method : String)
    (params : Value) (hlossless : ∀ request,
      client.request requestId method params = .ok request → Lossless client server request) :
    (∀ result handled, Exchange client server requestId method params result handled →
      Justified client server requestId method params result handled) ∧
    ∀ request bytes reader pieces ending,
      client.request requestId method params = .ok request →
      client.prepare requestId method params = .ok bytes → Cut bytes reader →
      Cut (server.written (server.reply reader).2) pieces → validateRequest request = .ok () →
      authenticate server.tokenFile server.files request = .ok () →
      (server.reply reader).1 = [request] ∧
        client.readReply requestId ⟨pieces, ending⟩ =
          let response := handleLocalControlRequest server.services request
          if (server.codec.toVec response.toValue).length ≤ maxFrameBytes then response.told
          else .error ending.toError := by
  constructor
  · intro result handled h
    cases h with
    | unsent _ => exact .nothing _
    | lost _ failure => exact .nothing _
    | unwritten h hsent hreader failure =>
      obtain ⟨request, hrequest, hmax, rfl⟩ := prepare_ok h
      exact unwritten_justified (hlossless _ hrequest) hrequest hmax hsent hreader failure
    | answered h hreader hgot hpieces ending =>
      obtain ⟨request, hrequest, hmax, rfl⟩ := prepare_ok h
      exact answered_justified (hlossless _ hrequest) hrequest hmax hreader hgot hpieces
  · intro request bytes reader pieces ending hrequest hprepare hreader hpieces hvalid hauth
    obtain ⟨request', hrequest', hmax, rfl⟩ := prepare_ok hprepare
    obtain rfl : request = request' := Except.ok.inj (hrequest.symm.trans hrequest')
    have h := hlossless _ hrequest
    have hreply := reply_of_whole h.request_ne hmax h.request_read hreader
    rw [hvalid] at hreply
    have hanswer : server.answer request =
        ([request], handleLocalControlRequest server.services request) := by
      rw [Server.answer, hauth]
    have hmem : handleLocalControlRequest server.services request ∈ server.replies request := by
      rw [Server.replies, hanswer]
      exact List.mem_cons_self
    have htold := told_of_answer server (request_requestId hrequest)
    rw [hanswer] at hreply htold
    rw [hreply] at hpieces ⊢
    refine ⟨rfl, ?_⟩
    dsimp only
    rcases written_cases server
      (handleLocalControlRequest server.services request) with ⟨hfits, hwritten⟩ | ⟨hlong, hwritten⟩
    · rw [hwritten] at hpieces
      rw [readReply_eq (h.reply_ne _ hmem) hfits (h.reply_read _ hmem) List.prefix_rfl hpieces,
        if_neg (Nat.lt_irrefl _), if_pos hfits, htold]
    · rw [hwritten] at hpieces
      rw [readReply_nil List.prefix_rfl hpieces, if_neg (Nat.not_le.mpr hlong)]

end

/-! ## A call of `status` -/

def statusToken : String := "0123456789abcdef0123456789abcdef"

def statusRequest : Request := ⟨"r", "status", statusToken, .object []⟩

def statusValue : Value :=
  .object [("ready", .bool true), ("config", .null), ("auth", .null)]

def statusPayload : Bytes :=
  asBytes ("\x7b\"auth_token\":\"0123456789abcdef0123456789abcdef\",\"method\":\"status\"," ++
    "\"params\":\x7b\x7d,\"request_id\":\"r\"\x7d")

def statusReply : Bytes :=
  asBytes ("\x7b\"request_id\":\"r\",\"ok\":true,\"result\":" ++
    "\x7b\"auth\":null,\"config\":null,\"ready\":true\x7d\x7d")

/-- The document of a refusal of half a request. -/
def refusalReply (detail : String) : Bytes :=
  asBytes ("\x7b\"request_id\":\"\",\"ok\":false,\"error\":\x7b\"code\":" ++
    "\"LOCAL_CONTROL_PROTOCOL_ERROR\",\"detail\":\"" ++ detail ++
    "\",\"retryable\":false\x7d\x7d")

def refusalDetails : List String :=
  ["truncated local control magic: early eof", "truncated local control frame: early eof"]

/-- The documents of this call. -/
def statusCodec : Codec where
  toVec v :=
    match v.get "method", (v.get "error").bind fun e => (e.get "detail").bind Value.asStr with
    | some _, _ => statusPayload
    | none, none => statusReply
    | none, some detail => refusalReply detail
  fromSlice bytes :=
    if bytes = statusReply then .ok (Response.success "r" statusValue).toValue
    else match refusalDetails.find? fun detail => bytes = refusalReply detail with
      | some detail =>
        .ok (Response.failure "" "LOCAL_CONTROL_PROTOCOL_ERROR" detail false).toValue
      | none => .error "expected value"

def statusFiles (path : String) : Except String TokenFile :=
  if path = "/run/starry/token" then .ok ⟨true, 0o100600, .ok (asBytes statusToken)⟩
  else .error "No such file or directory"

def statusServices : Services where
  base64Decode _ := none
  relaysConsistent := true
  relays := none
  config := .null
  runtimeState := none
  verifierState := "disabled"
  auth := .null
  verifyActive _ _ _ _ _ := false
  simulate _ := .ok none
  reload := .ok none

def statusServer : Server where
  env := ⟨fun bytes => if bytes = statusPayload then .ok statusRequest else .error "expected value",
    "early eof"⟩
  codec := statusCodec
  tokenFile := some "/run/starry/token"
  files := statusFiles
  services := statusServices

def statusClient : Client := ⟨statusCodec, "/run/starry/token", statusFiles⟩

theorem statusToken_read : readAuthTokenFile statusFiles "/run/starry/token" = .ok statusToken := by
  rfl

theorem refusalReply_start (detail : String) : ∃ rest, refusalReply detail =
    asBytes ("\x7b\"request_id\":\"\",\"ok\":false,\"error\":\x7b\"code\":" ++ rest) := by
  rw [refusalReply, String.append_assoc, String.append_assoc]
  exact ⟨_, rfl⟩

theorem statusLossless : Lossless statusClient statusServer statusRequest := by
  have hreplies : statusServer.replies statusRequest =
      .success "r" statusValue :: refusalDetails.map fun detail =>
        .failure "" "LOCAL_CONTROL_PROTOCOL_ERROR" detail false := by
    rfl
  have hsuccess : statusServer.codec.toVec (Response.success "r" statusValue).toValue =
      statusReply := by
    rfl
  have hfailure : ∀ detail, statusServer.codec.toVec
      (Response.failure "" "LOCAL_CONTROL_PROTOCOL_ERROR" detail false).toValue =
      refusalReply detail := fun _ => rfl
  have hother : ∀ detail, refusalReply detail ≠ statusReply := by
    intro detail h
    obtain ⟨rest, hrest⟩ := refusalReply_start detail
    rw [hrest, statusReply, asBytes_inj] at h
    have hstart := congrArg (fun text => text.toList.take 16) h
    rw [Text.take_literal (Eq.refl _) (by decide),
      Text.take_literal (Eq.refl _) (by decide)] at hstart
    exact absurd hstart (by decide)
  have hinjective : ∀ detail detail', refusalReply detail = refusalReply detail' →
      detail = detail' := by
    intro detail detail' h
    rw [refusalReply, refusalReply, asBytes_inj] at h
    simpa using h
  have hne : ∀ detail, refusalReply detail ≠ [] := by
    intro detail h
    have hempty : refusalReply detail = asBytes "" := h
    obtain ⟨rest, hrest⟩ := refusalReply_start detail
    rw [hrest, asBytes_inj] at hempty
    have hstart := congrArg (fun text => text.toList.take 1) hempty
    rw [Text.take_literal (Eq.refl _) (by decide), String.toList_empty] at hstart
    exact absurd hstart (by decide)
  constructor
  · exact List.cons_ne_nil _ _
  · have hread : ∀ bytes, bytes = statusPayload →
        statusServer.env.fromSlice bytes = .ok statusRequest := fun _ h => if_pos h
    exact hread _ rfl
  · rw [hreplies]
    intro response hmem
    rcases List.mem_cons.mp hmem with rfl | hmem
    · rw [hsuccess]
      exact List.cons_ne_nil _ _
    · obtain ⟨detail, -, rfl⟩ := List.mem_map.mp hmem
      rw [hfailure]
      exact hne detail
  · rw [hreplies]
    intro response hmem
    rcases List.mem_cons.mp hmem with rfl | hmem
    · rw [hsuccess]
      have hread : ∀ bytes, bytes = statusReply → statusCodec.fromSlice bytes =
          .ok (Response.success "r" statusValue).toValue := fun _ h => if_pos h
      exact hread _ rfl
    · obtain ⟨detail, hdetail, rfl⟩ := List.mem_map.mp hmem
      rw [hfailure]
      unfold statusClient statusCodec
      dsimp only
      rw [if_neg (hother detail)]
      cases hfind : refusalDetails.find? fun other => refusalReply detail = refusalReply other with
      | none =>
        have hall := List.find?_eq_none.mp hfind detail hdetail
        simp at hall
      | some other =>
        have hsame := List.find?_some hfind
        rw [decide_eq_true_iff] at hsame
        rw [hinjective _ _ hsame]

theorem statusClient_request : statusClient.request "r" "status" (.object []) = .ok statusRequest := by
  unfold Client.request
  rw [show readAuthTokenFile statusClient.files statusClient.tokenFile = _ from statusToken_read]
  rfl

/-- A request in two pieces, and the answer in one. -/
theorem exchange_exact_status :
    (statusServer.reply [(frame statusPayload).take 7, (frame statusPayload).drop 7]).1 =
        [statusRequest] ∧
      statusClient.readReply "r" ⟨[frame statusReply], .broken⟩ = .ok statusValue := by
  have hreader : Cut (frame statusPayload)
      [(frame statusPayload).take 7, (frame statusPayload).drop 7] :=
    .pair (by decide) (by rw [frame_length, magic_length]; omega)
  have hvalid : validateRequest statusRequest = .ok () := by
    rfl
  have hauth : authenticate statusServer.tokenFile statusServer.files statusRequest = .ok () :=
    authenticate_ok.mpr ⟨_, rfl, by decide, statusToken_read⟩
  have hlossless : ∀ request, statusClient.request "r" "status" (.object []) = .ok request →
      Lossless statusClient statusServer request := by
    intro request hrequest
    rw [statusClient_request] at hrequest
    cases hrequest
    exact statusLossless
  have hprepare : statusClient.prepare "r" "status" (.object []) = .ok (frame statusPayload) := by
    unfold Client.prepare
    rw [statusClient_request]
    rfl
  have hreply : (statusServer.reply
      [(frame statusPayload).take 7, (frame statusPayload).drop 7]).2 =
        some (.success "r" statusValue) := by
    rw [reply_of_whole statusLossless.request_ne (by decide) statusLossless.request_read hreader,
      hvalid]
    dsimp only
    rw [Server.answer, hauth]
    rfl
  have hwritten : statusServer.written (some (.success "r" statusValue)) = frame statusReply := by
    rfl
  have hpieces : Cut (statusServer.written (statusServer.reply
      [(frame statusPayload).take 7, (frame statusPayload).drop 7]).2) [frame statusReply] := by
    rw [hreply, hwritten]
    exact .single (List.cons_ne_nil _ _)
  obtain ⟨hhandled, hresult⟩ := (exchange_exact statusClient statusServer "r" "status" (.object [])
    hlossless).2 statusRequest _ _ _ .broken statusClient_request hprepare hreader hpieces hvalid
    hauth
  exact ⟨hhandled, hresult⟩

end Starry.LocalControl
