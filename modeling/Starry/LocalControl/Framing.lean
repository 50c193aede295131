import Starry.ConfigStore.Records
import Starry.Library.Chunks

/-!
# Local control: reading a request (`local_control.rs`)

A request is a frame: a magic line, the length of the payload and the payload. The first read may
stop anywhere in it or run past its end. Slices are checked here as Rust checks them, and one that
is out of range is a panic.
-/

open Library

namespace Starry.LocalControl

open Starry.ConfigStore (Value)

def magic : Bytes := asBytes "STARRYCTL/1\n"
def maxFrameBytes : Nat := 1024 * 1024
def initialReadBytes : Nat := 1024

structure Request where
  requestId : String
  method : String
  authToken : String
  params : Value

structure ProtocolError where
  code : String
  detail : String
  framed : Bool
deriving DecidableEq, Repr

structure Env where
  /-- `serde_json::from_slice` of a `Request` -/
  fromSlice : Bytes → Except String Request
  /-- The text of the error of `read_exact` at the end of the stream. -/
  endOfFile : String

inductive Fault
  | panic
  | error (e : ProtocolError)
deriving DecidableEq, Repr

def protocolError (detail : String) (framed : Bool) : ProtocolError :=
  ⟨"LOCAL_CONTROL_PROTOCOL_ERROR", detail, framed⟩

def ioError (context error : String) (framed : Bool) : ProtocolError :=
  protocolError (context ++ ": " ++ error) framed

/-! ## The payload -/

/-- `char::is_control` -/
def isControl (c : Char) : Bool := c.toNat < 32 || (127 ≤ c.toNat && c.toNat < 160)

def isObject : Value → Bool
  | .object _ => true
  | _ => false

def validateRequest (request : Request) : Except ProtocolError Unit :=
  if request.requestId.isEmpty || request.requestId.utf8ByteSize > 128 then
    .error (protocolError "request_id must contain between 1 and 128 bytes" true)
  else if request.method.isEmpty || request.method.utf8ByteSize > 128 then
    .error (protocolError "method must contain between 1 and 128 bytes" true)
  else if (request.requestId.toList ++ request.method.toList).any isControl then
    .error (protocolError "request_id and method must not contain control characters" true)
  else if !isObject request.params then
    .error (protocolError "params must be a JSON object" true)
  else if request.authToken.utf8ByteSize < 32 || request.authToken.utf8ByteSize > 256 then
    .error ⟨"LOCAL_CONTROL_UNAUTHORIZED", "local control authentication failed", true⟩
  else .ok ()

/-- What comes of a payload. -/
def readPayload (env : Env) (payload : Bytes) : Except ProtocolError Request := do
  let request ← (env.fromSlice payload).mapError fun err =>
    protocolError ("invalid local control JSON: " ++ err) true
  validateRequest request
  return request

/-- `u32::from_be_bytes` -/
def fromBeBytes (bytes : Bytes) : Nat := bytes.foldl (fun n byte => n * 256 + byte.toNat) 0

/-! ## Buffers -/

/-- `&bytes[start..stop]` -/
def slice (bytes : Bytes) (start stop : Nat) : Except Fault Bytes :=
  if start ≤ stop ∧ stop ≤ bytes.length then .ok ((bytes.take stop).drop start)
  else .error .panic

/-- `buffer[start..stop].copy_from_slice(source)` -/
def copyFromSlice (buffer : Bytes) (start stop : Nat) (source : Bytes) : Except Fault Bytes :=
  if start ≤ stop ∧ stop ≤ buffer.length ∧ source.length = stop - start then
    .ok (buffer.take start ++ source ++ buffer.drop stop)
  else .error .panic

/-- `reader.read_exact(&mut buffer[start..stop])` -/
def readExactInto (refusal : ProtocolError) (buffer : Bytes) (start stop : Nat)
    (reader : List Bytes) : Except Fault (Bytes × List Bytes) :=
  if start ≤ stop ∧ stop ≤ buffer.length then
    match readExact (stop - start) reader with
    | (some got, reader) => .ok (buffer.take start ++ got ++ buffer.drop stop, reader)
    | (none, _) => .error (.error refusal)
  else .error .panic

/-! ## Reading -/

/-- The part of `output` that was read before. -/
def copyAvailable (initial : Bytes) (cursor available : Nat) (output : Bytes) :
    Except Fault (Bytes × Nat) :=
  if 0 < available then do
    let source ← slice initial cursor (cursor + available)
    let output ← copyFromSlice output 0 available source
    return (output, cursor + available)
  else .ok (output, cursor)

section

variable (env : Env)

/-- Fills `output` from what was read before, and then from the reader. -/
def readExactBuffered (reader : List Bytes) (initial : Bytes) (cursor : Nat) (output : Bytes) :
    Except Fault (Bytes × Nat × List Bytes) := do
  let available := min (initial.length - cursor) output.length
  let (output, cursor) ← copyAvailable initial cursor available output
  if available < output.length then
    let refusal := ioError "truncated local control frame" env.endOfFile true
    let (output, reader) ← readExactInto refusal output available output.length reader
    return (output, cursor, reader)
  else return (output, cursor, reader)

def readFramedRequest (reader : List Bytes) (initial : Bytes) : Except Fault Request := do
  let cursor := magic.length
  let (lengthBytes, cursor, reader) ←
    readExactBuffered env reader initial cursor (List.replicate 4 0)
  let length := fromBeBytes lengthBytes
  if length = 0 then
    .error (.error (protocolError "local control JSON payload is empty" true))
  else if length > maxFrameBytes then
    .error (.error (protocolError ("local control frame is " ++ toString length ++
      " bytes; maximum is " ++ toString maxFrameBytes) true))
  else
    let (payload, cursor, _) ←
      readExactBuffered env reader initial cursor (List.replicate length 0)
    if cursor < initial.length then
      .error (.error (protocolError "unexpected bytes follow the local control frame" true))
    else (readPayload env payload).mapError .error

def legacyRefusal : ProtocolError :=
  protocolError "legacy text control is disabled; STARRYCTL/1 framing is required" false

/-- The end of `read_request_inner`: `used` bytes of `initial` are read. -/
def dispatchRequest (reader : List Bytes) (initial : Bytes) (used : Nat) :
    Except Fault Request := do
  if magic.length ≤ used then
    let start ← slice initial 0 magic.length
    if start = magic then
      let initial ← slice initial 0 used
      readFramedRequest env reader initial
    else .error (.error legacyRefusal)
  else .error (.error legacyRefusal)

def readRequestInner (reader : List Bytes) : Except Fault Request := do
  let (got, reader) := readChunk initialReadBytes reader
  let used := got.length
  let initial ← copyFromSlice (List.replicate initialReadBytes 0) 0 used got
  if used = 0 then
    .error (.error (protocolError "local control request is empty" false))
  else if used < magic.length then
    let start ← slice initial 0 used
    if start.isPrefixOf magic then
      let refusal := ioError "truncated local control magic" env.endOfFile true
      let (initial, reader) ← readExactInto refusal initial used magic.length reader
      dispatchRequest env reader initial magic.length
    else dispatchRequest env reader initial used
  else dispatchRequest env reader initial used

end

/-! ## What the bytes decide -/

/-- The bytes after the magic line, when `used` bytes were read at first. -/
def frameOutcome (env : Env) (used : Nat) (body : Bytes) : Except ProtocolError Request :=
  let truncated := ioError "truncated local control frame" env.endOfFile true
  if body.length < 4 then .error truncated
  else
    let length := fromBeBytes (body.take 4)
    if length = 0 then .error (protocolError "local control JSON payload is empty" true)
    else if length > maxFrameBytes then
      .error (protocolError ("local control frame is " ++ toString length ++
        " bytes; maximum is " ++ toString maxFrameBytes) true)
    else if body.length < 4 + length then .error truncated
    else if magic.length + 4 + length < used then
      .error (protocolError "unexpected bytes follow the local control frame" true)
    else readPayload env ((body.drop 4).take length)

/-- The whole stream, when `used` bytes were read at first. -/
def outcome (env : Env) (used : Nat) (bytes : Bytes) : Except ProtocolError Request :=
  if bytes = [] then .error (protocolError "local control request is empty" false)
  else if used < magic.length ∧ bytes.take used <+: magic ∧ bytes.length < magic.length then
    .error (ioError "truncated local control magic" env.endOfFile true)
  else if (magic.length ≤ used ∨ bytes.take used <+: magic) ∧ bytes.take magic.length = magic then
    frameOutcome env used (bytes.drop magic.length)
  else .error legacyRefusal

section

variable {env : Env} {reader : List Bytes} {initial output rest bytes : Bytes}
  {cursor available : Nat}

theorem slice_ok {start stop : Nat} (h : start ≤ stop) (h' : stop ≤ bytes.length) :
    slice bytes start stop = .ok ((bytes.take stop).drop start) := if_pos ⟨h, h'⟩

theorem copyAvailable_ok (hcursor : available ≤ initial.length - cursor)
    (houtput : available ≤ output.length) : copyAvailable initial cursor available output =
      .ok ((initial.drop cursor).take available ++ output.drop available, cursor + available) := by
  unfold copyAvailable
  split
  · have hsource : (initial.take (cursor + available)).drop cursor =
        (initial.drop cursor).take available := by
      rw [List.drop_take, Nat.add_sub_cancel_left]
    have hlength : ((initial.drop cursor).take available).length = available := by
      rw [List.length_take, List.length_drop]
      omega
    rw [slice_ok (Nat.le_add_right _ _) (by omega), hsource]
    change (do
      let output ← copyFromSlice output 0 available ((initial.drop cursor).take available)
      pure (output, cursor + available)) = _
    rw [copyFromSlice, if_pos ⟨Nat.zero_le _, houtput, by rw [hlength, Nat.sub_zero]⟩]
    rfl
  · rename_i hzero
    obtain rfl : available = 0 := by omega
    simp

theorem readExactInto_ok (refusal : ProtocolError) {buffer : Bytes} {start stop : Nat}
    (h : Cut rest reader) (hstart : start ≤ stop) (hstop : stop ≤ buffer.length)
    (hrest : stop - start ≤ rest.length) : ∃ reader',
    readExactInto refusal buffer start stop reader =
        .ok (buffer.take start ++ rest.take (stop - start) ++ buffer.drop stop, reader') ∧
      Cut (rest.drop (stop - start)) reader' := by
  obtain ⟨hgot, hcut⟩ := readExact_some h hrest
  refine ⟨_, ?_, hcut⟩
  unfold readExactInto
  rw [if_pos ⟨hstart, hstop⟩]
  generalize readExact (stop - start) reader = got at *
  obtain ⟨got, reader'⟩ := got
  obtain rfl : got = _ := hgot
  rfl

theorem readExactInto_error {refusal : ProtocolError} {buffer : Bytes} {start stop : Nat}
    (h : Cut rest reader) (hstart : start ≤ stop) (hstop : stop ≤ buffer.length)
    (hrest : rest.length < stop - start) :
    readExactInto refusal buffer start stop reader = .error (.error refusal) := by
  have hgot := readExact_none h hrest
  unfold readExactInto
  rw [if_pos ⟨hstart, hstop⟩]
  generalize readExact (stop - start) reader = got at *
  obtain ⟨got, reader'⟩ := got
  obtain rfl : got = none := hgot
  rfl

/-- What is left of the first read comes first, and then what the reader brings. -/
theorem readExactBuffered_eq (reader : List Bytes) (initial : Bytes) (cursor : Nat)
    (output : Bytes) : readExactBuffered env reader initial cursor output =
      let available := min (initial.length - cursor) output.length
      let filled := (initial.drop cursor).take available ++ output.drop available
      if available < output.length then
        (readExactInto (ioError "truncated local control frame" env.endOfFile true) filled available
          output.length reader).map fun got => (got.1, cursor + available, got.2)
      else .ok (filled, cursor + available, reader) := by
  have hlength : ((initial.drop cursor).take (min (initial.length - cursor) output.length) ++
      output.drop (min (initial.length - cursor) output.length)).length = output.length := by
    rw [List.length_append, List.length_take, List.length_drop, List.length_drop]
    omega
  unfold readExactBuffered
  dsimp only
  rw [copyAvailable_ok (Nat.min_le_left _ _) (Nat.min_le_right _ _)]
  change (if _ < List.length _ then _ else _) = _
  rw [hlength]
  split
  · generalize readExactInto _ _ _ _ reader = got
    cases got <;> rfl
  · rfl

theorem readExactBuffered_ok (env : Env) (initial output : Bytes) (cursor : Nat)
    (h : Cut rest reader)
    (hlength : output.length ≤ (initial.drop cursor ++ rest).length) : ∃ reader',
    readExactBuffered env reader initial cursor output =
        .ok ((initial.drop cursor ++ rest).take output.length,
          cursor + min (initial.length - cursor) output.length, reader') ∧
      Cut (rest.drop (output.length - (initial.length - cursor))) reader' := by
  have hinitial : (initial.drop cursor).length = initial.length - cursor := List.length_drop
  rw [List.length_append, hinitial] at hlength
  rw [readExactBuffered_eq]
  dsimp only
  rw [List.take_append, hinitial]
  rcases Nat.lt_or_ge (initial.length - cursor) output.length with hless | hmore
  · have havailable : min (initial.length - cursor) output.length = initial.length - cursor :=
      Nat.min_eq_left hless.le
    have hall : (initial.drop cursor).take (initial.length - cursor) = initial.drop cursor :=
      List.take_of_length_le hinitial.le
    have hfilled : (initial.drop cursor ++ output.drop (initial.length - cursor)).length =
        output.length := by
      rw [List.length_append, List.length_drop, List.length_drop]
      omega
    rw [havailable, if_pos hless, hall]
    obtain ⟨reader', hread, hcut⟩ := readExactInto_ok
      (ioError "truncated local control frame" env.endOfFile true) h hless.le hfilled.ge (by omega)
    refine ⟨reader', ?_, hcut⟩
    rw [hread]
    have hkept : (initial.drop cursor ++ output.drop (initial.length - cursor)).take
        (initial.length - cursor) = initial.drop cursor := List.take_left' hinitial
    have hsuffix : (initial.drop cursor ++ output.drop (initial.length - cursor)).drop
        output.length = [] := List.drop_of_length_le hfilled.le
    have hwhole : (initial.drop cursor).take output.length = initial.drop cursor :=
      List.take_of_length_le (by omega)
    rw [hkept, hsuffix, hwhole, List.append_nil]
    rfl
  · have havailable : min (initial.length - cursor) output.length = output.length :=
      Nat.min_eq_right hmore
    have hnone : output.length - (initial.length - cursor) = 0 := by omega
    rw [havailable, if_neg (Nat.lt_irrefl _), hnone]
    exact ⟨reader, by simp, by simpa using h⟩

theorem readExactBuffered_error (h : Cut rest reader)
    (hlength : (initial.drop cursor ++ rest).length < output.length) :
    readExactBuffered env reader initial cursor output =
      .error (.error (ioError "truncated local control frame" env.endOfFile true)) := by
  have hinitial : (initial.drop cursor).length = initial.length - cursor := List.length_drop
  rw [List.length_append, hinitial] at hlength
  rw [readExactBuffered_eq]
  dsimp only
  have havailable : min (initial.length - cursor) output.length = initial.length - cursor := by omega
  rw [havailable, if_pos (by omega), readExactInto_error h (by omega) ?_ (by omega)]
  · rfl
  · rw [List.length_append, List.length_take, List.length_drop, List.length_drop]
    omega

/-- What the two sources still hold after `n` more bytes. -/
theorem drop_unread (initial rest : Bytes) (cursor n : Nat) :
    initial.drop (cursor + min (initial.length - cursor) n) ++
        rest.drop (n - (initial.length - cursor)) = (initial.drop cursor ++ rest).drop n := by
  rw [List.drop_append, List.length_drop, ← List.drop_drop]
  rcases Nat.le_total (initial.length - cursor) n with hle | hle
  · rw [Nat.min_eq_left hle, List.drop_of_length_le (by rw [List.length_drop]),
      List.drop_of_length_le (l := initial.drop cursor) (by rw [List.length_drop]; exact hle)]
  · rw [Nat.min_eq_right hle]

theorem magic_length : magic.length = 12 := by rfl

theorem readFramedRequest_eq (env : Env) (hinitial : magic.length ≤ initial.length) (h : Cut rest reader) :
    readFramedRequest env reader initial =
      (frameOutcome env initial.length (initial.drop magic.length ++ rest)).mapError .error := by
  have hcursor := magic_length
  have hunread := drop_unread initial rest magic.length 4
  generalize hbody : initial.drop magic.length ++ rest = body at *
  unfold readFramedRequest frameOutcome
  dsimp only
  split
  · rename_i hshort
    rw [readExactBuffered_error h (by simpa [hbody] using hshort)]
    rfl
  · rename_i hlength
    obtain ⟨reader', hread, hcut⟩ := readExactBuffered_ok env initial (List.replicate 4 0)
      magic.length h (by simpa [hbody] using Nat.not_lt.mp hlength)
    simp only [List.length_replicate, hbody] at hread hcut
    rw [hread]
    change (if fromBeBytes (body.take 4) = 0 then _ else _) = _
    generalize fromBeBytes (body.take 4) = length
    split
    · rfl
    · split
      · rfl
      · have hrest : (body.drop 4).length = body.length - 4 := List.length_drop
        split
        · rename_i hshort
          rw [readExactBuffered_error hcut (by
            rw [hunread, hrest, List.length_replicate]
            omega)]
          rfl
        · rename_i hpayload
          obtain ⟨reader'', hread, -⟩ := readExactBuffered_ok env initial (List.replicate length 0)
            (magic.length + min (initial.length - magic.length) 4) hcut (by
              rw [hunread, hrest, List.length_replicate]
              omega)
          simp only [List.length_replicate, hunread] at hread
          rw [hread]
          change (if _ < initial.length then _ else _) = _
          split
          · rename_i hbehind
            dsimp only at hbehind
            rw [if_pos (by omega)]
            rfl
          · rename_i hbehind
            dsimp only at hbehind
            rw [if_neg (by omega)]

theorem dispatchRequest_eq (env : Env) {used : Nat} (hused : used ≤ initial.length)
    (h : Cut rest reader) :
    dispatchRequest env reader initial used =
      if magic.length ≤ used ∧ initial.take magic.length = magic then
        (frameOutcome env used ((initial.take used).drop magic.length ++ rest)).mapError .error
      else .error (.error legacyRefusal) := by
  unfold dispatchRequest
  by_cases hlong : magic.length ≤ used
  · have hstart : slice initial 0 magic.length = .ok (initial.take magic.length) :=
      slice_ok (Nat.zero_le _) (hlong.trans hused)
    have hread : slice initial 0 used = .ok (initial.take used) := slice_ok (Nat.zero_le _) hused
    have hlength : (initial.take used).length = used := List.length_take_of_le hused
    have hframed := readFramedRequest_eq env (hlong.trans hlength.ge) h
    rw [hlength] at hframed
    rw [if_pos hlong, hstart, hread]
    change (if initial.take magic.length = magic then readFramedRequest env reader (initial.take used)
      else _) = _
    rw [hframed]
    simp only [hlong, true_and]
  · rw [if_neg hlong, if_neg fun hboth => hlong hboth.1]

/-- A first read that ends within the magic line sees nothing behind a frame. -/
theorem frameOutcome_short {used used' : Nat} (h : used ≤ magic.length) (h' : used' ≤ magic.length)
    (body : Bytes) : frameOutcome env used body = frameOutcome env used' body := by
  have hnone : ∀ n ≤ magic.length, ∀ length, ¬ magic.length + 4 + length < n := by omega
  unfold frameOutcome
  simp only [hnone used h, hnone used' h']

/-- The pieces matter only through the length of the first read. -/
theorem readRequestInner_eq (h : Cut bytes reader) : readRequestInner env reader =
    (outcome env (readChunk initialReadBytes reader).1.length bytes).mapError .error := by
  obtain ⟨hgot, hused, hcut⟩ := readChunk_spec (n := initialReadBytes) h
  have hempty := readChunk_pos h (show 0 < initialReadBytes by decide)
  unfold readRequestInner
  generalize readChunk initialReadBytes reader = got at *
  obtain ⟨got, reader'⟩ := got
  dsimp only at hgot hused hcut hempty ⊢
  have hmagic : magic.length ≤ initialReadBytes := by decide
  -- The buffer: what was read, and zeros behind it.
  have hcopy : copyFromSlice (List.replicate initialReadBytes 0) 0 got.length got =
      .ok (got ++ List.replicate (initialReadBytes - got.length) 0) := by
    rw [copyFromSlice, if_pos ⟨Nat.zero_le _, by rwa [List.length_replicate], (Nat.sub_zero _).symm⟩]
    simp
  have hlength : (got ++ List.replicate (initialReadBytes - got.length) (0 : UInt8)).length =
      initialReadBytes := by
    rw [List.length_append, List.length_replicate]
    omega
  have htake : (got ++ List.replicate (initialReadBytes - got.length) (0 : UInt8)).take got.length =
      got := List.take_left
  have hwhole : got ++ bytes.drop got.length = bytes := by
    nth_rewrite 1 [hgot]
    exact List.take_append_drop _ _
  rw [hcopy]
  generalize got ++ List.replicate (initialReadBytes - got.length) (0 : UInt8) = initial at *
  change (if got.length = 0 then _ else _) = _
  unfold outcome
  by_cases hnil : bytes = []
  · rw [if_pos (hempty.mpr hnil), if_pos hnil]
    rfl
  · rw [if_neg fun hzero => hnil (hempty.mp hzero), if_neg hnil]
    by_cases hshort : got.length < magic.length
    · rw [if_pos hshort, slice_ok (Nat.zero_le _) (by omega), htake]
      change (if got.isPrefixOf magic = true then _ else _) = _
      rw [← hgot]
      by_cases hstart : got <+: magic
      · rw [if_pos (List.isPrefixOf_iff_prefix.mpr hstart)]
        have hrest : (bytes.drop got.length).length = bytes.length - got.length := List.length_drop
        by_cases hend : bytes.length < magic.length
        · rw [readExactInto_error hcut hshort.le (by omega) (by omega),
            if_pos ⟨hshort, hstart, hend⟩]
          rfl
        · rw [if_neg fun hall => hend hall.2.2]
          obtain ⟨reader'', hread, hcut'⟩ := readExactInto_ok
            (ioError "truncated local control magic" env.endOfFile true) hcut hshort.le
            (show magic.length ≤ initial.length by omega) (by omega)
          have hline : got ++ (bytes.drop got.length).take (magic.length - got.length) =
              bytes.take magic.length := by
            nth_rewrite 1 [hgot]
            rw [← List.take_add, Nat.add_sub_cancel' hshort.le]
          have hmany : (bytes.take magic.length).length = magic.length :=
            List.length_take_of_le (Nat.not_lt.mp hend)
          have hbuffer : (bytes.take magic.length ++ initial.drop magic.length).take magic.length =
              bytes.take magic.length := List.take_left' hmany
          have hfull : magic.length ≤
              (bytes.take magic.length ++ initial.drop magic.length).length := by
            rw [List.length_append]
            omega
          have hdispatch := dispatchRequest_eq env hfull hcut'
          rw [hbuffer, List.drop_of_length_le hmany.le, List.nil_append, List.drop_drop,
            Nat.add_sub_cancel' hshort.le] at hdispatch
          rw [hread, htake, hline]
          refine hdispatch.trans ?_
          rw [frameOutcome_short le_rfl hshort.le]
          simp only [le_refl, true_and, hstart, or_true]
          split <;> rfl
      · rw [if_neg fun hstarts => hstart (List.isPrefixOf_iff_prefix.mp hstarts),
          dispatchRequest_eq env (by omega) hcut, if_neg fun hboth => Nat.not_le.mpr hshort hboth.1,
          if_neg fun hall => hstart hall.2.1,
          if_neg fun hall => hall.1.elim (Nat.not_le.mpr hshort) hstart]
        rfl
    · have hlong := Nat.not_lt.mp hshort
      have hline : initial.take magic.length = bytes.take magic.length := by
        calc initial.take magic.length = (initial.take got.length).take magic.length := by
              rw [List.take_take, Nat.min_eq_left hlong]
          _ = (bytes.take got.length).take magic.length := by rw [htake, ← hgot]
          _ = bytes.take magic.length := by rw [List.take_take, Nat.min_eq_left hlong]
      have hbody : got.drop magic.length ++ bytes.drop got.length = bytes.drop magic.length := by
        nth_rewrite 2 [← hwhole]
        rw [List.drop_append_of_le_length hlong]
      have hnot : ¬ (got.length < magic.length ∧ bytes.take got.length <+: magic ∧
          bytes.length < magic.length) := fun hall => hshort hall.1
      rw [if_neg hshort, dispatchRequest_eq env (by omega) hcut, htake, hline, hbody, if_neg hnot]
      simp only [hlong, true_and, true_or]
      split <;> rfl

end

/-! ## Frames -/

/-- `bytes` start with a frame around `payload`, and `rest` follows. -/
def Framed (bytes payload rest : Bytes) : Prop :=
  ∃ length : Bytes, length.length = 4 ∧ fromBeBytes length = payload.length ∧
    0 < payload.length ∧ payload.length ≤ maxFrameBytes ∧
    bytes = magic ++ (length ++ (payload ++ rest))

/-- The bytes are one frame, and its payload is a request. -/
def Requests (env : Env) (bytes : Bytes) (request : Request) : Prop :=
  ∃ payload, Framed bytes payload [] ∧ readPayload env payload = .ok request

/-- Something follows the frame of a request. -/
def Followed (env : Env) (bytes : Bytes) : Prop :=
  ∃ payload rest request, rest ≠ [] ∧ Framed bytes payload rest ∧
    readPayload env payload = .ok request

section

variable {env : Env} {bytes body payload payload' rest rest' : Bytes} {used : Nat}
  {request : Request}

/-- A stream starts with one frame at most. -/
theorem Framed.unique (h : Framed bytes payload rest) (h' : Framed bytes payload' rest') :
    payload = payload' ∧ rest = rest' := by
  obtain ⟨length, hfour, hlength, -, -, rfl⟩ := h
  obtain ⟨length', hfour', hlength', -, -, hsame⟩ := h'
  obtain ⟨rfl, hbody⟩ := List.append_inj (List.append_cancel_left hsame)
    (hfour.trans hfour'.symm)
  exact List.append_inj hbody (hlength.symm.trans hlength')

theorem Framed.length_eq (h : Framed bytes payload rest) :
    bytes.length = magic.length + 4 + payload.length + rest.length := by
  obtain ⟨length, hfour, -, -, -, rfl⟩ := h
  simp only [List.length_append, hfour]
  omega

/-- The body of a stream that starts with a frame. -/
theorem frameOutcome_of_framed {length : Bytes} (hfour : length.length = 4)
    (hlength : fromBeBytes length = payload.length) (hpos : 0 < payload.length)
    (hmax : payload.length ≤ maxFrameBytes) :
    frameOutcome env used (length ++ (payload ++ rest)) =
      if magic.length + 4 + payload.length < used then
        .error (protocolError "unexpected bytes follow the local control frame" true)
      else readPayload env payload := by
  have htake : (length ++ (payload ++ rest)).take 4 = length := List.take_left' hfour
  have hdrop : (length ++ (payload ++ rest)).drop 4 = payload ++ rest := List.drop_left' hfour
  have hpayload : (payload ++ rest).take payload.length = payload := List.take_left
  have hwhole : (length ++ (payload ++ rest)).length = 4 + payload.length + rest.length := by
    simp only [List.length_append, hfour]
    omega
  unfold frameOutcome
  dsimp only
  rw [if_neg (by omega), htake, hlength, if_neg (by omega), if_neg (by omega), if_neg (by omega),
    hdrop, hpayload]

/-- Where neither an error of the frame nor a frame is found, there is none. -/
theorem frameOutcome_cases (env : Env) (body : Bytes) :
    (∃ e, ∀ used, frameOutcome env used body = .error e) ∨
      ∃ length payload rest : Bytes, length.length = 4 ∧ fromBeBytes length = payload.length ∧
        0 < payload.length ∧ payload.length ≤ maxFrameBytes ∧ body = length ++ (payload ++ rest) := by
  unfold frameOutcome
  dsimp only
  split
  · exact .inl ⟨_, fun _ => rfl⟩
  · rename_i hfour
    split
    · exact .inl ⟨_, fun _ => rfl⟩
    · rename_i hpos
      split
      · exact .inl ⟨_, fun _ => rfl⟩
      · rename_i hmax
        split
        · exact .inl ⟨_, fun _ => rfl⟩
        · rename_i hlong
          have hlength : ((body.drop 4).take (fromBeBytes (body.take 4))).length =
              fromBeBytes (body.take 4) :=
            List.length_take_of_le (by rw [List.length_drop]; omega)
          refine .inr ⟨body.take 4, (body.drop 4).take (fromBeBytes (body.take 4)),
            (body.drop 4).drop (fromBeBytes (body.take 4)),
            List.length_take_of_le (Nat.not_lt.mp hfour), hlength.symm, by omega, by omega, ?_⟩
          rw [List.take_append_drop, List.take_append_drop]

/-- The outcome of a stream that starts with the magic line. -/
theorem outcome_of_magic (h : bytes.take magic.length = magic) :
    outcome env used bytes = frameOutcome env used (bytes.drop magic.length) := by
  have hlong : magic.length ≤ bytes.length := by
    have hlength := congrArg List.length h
    rw [List.length_take] at hlength
    omega
  have hpos : 0 < bytes.length := by
    have hmagic := magic_length
    omega
  have hstart : magic.length ≤ used ∨ bytes.take used <+: magic := by
    rcases Nat.le_total magic.length used with hle | hle
    · exact .inl hle
    · rw [← h]
      exact .inr (List.take_prefix_take_left hle)
  unfold outcome
  rw [if_neg (List.length_pos_iff.mp hpos), if_neg fun hall => by omega, if_pos ⟨hstart, h⟩]

/-- The outcome of a stream that does not. -/
theorem outcome_of_other (hne : bytes ≠ []) (hmagic : bytes.take magic.length ≠ magic) :
    outcome env used bytes =
      if used < magic.length ∧ bytes.take used <+: magic ∧ bytes.length < magic.length then
        .error (ioError "truncated local control magic" env.endOfFile true)
      else .error legacyRefusal := by
  unfold outcome
  rw [if_neg hne]
  split
  · rfl
  · exact if_neg fun hboth => hmagic hboth.2

/-- The outcome of a stream that starts with a frame. -/
theorem outcome_of_framed (h : Framed bytes payload rest) : outcome env used bytes =
    if magic.length + 4 + payload.length < used then
      .error (protocolError "unexpected bytes follow the local control frame" true)
    else readPayload env payload := by
  obtain ⟨length, hfour, hlength, hpos, hmax, rfl⟩ := h
  have hdrop : (magic ++ (length ++ (payload ++ rest))).drop magic.length =
      length ++ (payload ++ rest) := List.drop_left
  rw [outcome_of_magic List.take_left, hdrop, frameOutcome_of_framed hfour hlength hpos hmax]

/-- Only a frame is accepted. -/
theorem framed_of_outcome (h : outcome env used bytes = .ok request) :
    ∃ payload rest, Framed bytes payload rest := by
  unfold outcome at h
  split at h
  · cases h
  · split at h
    · cases h
    · split at h
      · rename_i hmagic
        rcases frameOutcome_cases env (bytes.drop magic.length) with ⟨e, he⟩ |
          ⟨length, payload, rest, hfour, hlength, hpos, hmax, hbody⟩
        · rw [he] at h
          cases h
        · refine ⟨payload, rest, length, hfour, hlength, hpos, hmax, ?_⟩
          have hsplit := List.take_append_drop magic.length bytes
          rw [hmagic.2] at hsplit
          rw [← hbody]
          exact hsplit.symm
      · cases h

end

/-! ## Every way of cutting -/

/-- However the bytes arrive, nothing panics, and a request comes of them exactly if they are its
frame. -/
def ExactFraming (env : Env) (bytes : Bytes) : Prop :=
  ∀ reader, Cut bytes reader → readRequestInner env reader ≠ .error .panic ∧
    ∀ request, readRequestInner env reader = .ok request ↔ Requests env bytes request

/-- Even the errors are the same. -/
def SameErrors (env : Env) (bytes : Bytes) : Prop :=
  ∀ reader reader', Cut bytes reader → Cut bytes reader' →
    readRequestInner env reader = readRequestInner env reader'

section

variable {env : Env} {bytes payload rest : Bytes} {reader : List Bytes} {request : Request}

theorem mapError_ok {x : Except ProtocolError Request} :
    x.mapError Fault.error = .ok request ↔ x = .ok request := by
  cases x <;> simp [Except.mapError]

theorem mapError_injective {x y : Except ProtocolError Request}
    (h : x.mapError Fault.error = y.mapError Fault.error) : x = y := by
  cases x <;> cases y <;> simp_all [Except.mapError]

theorem not_panic (h : Cut bytes reader) : readRequestInner env reader ≠ .error .panic := by
  rw [readRequestInner_eq h]
  cases outcome env (readChunk initialReadBytes reader).1.length bytes <;> simp [Except.mapError]

/-- The first read is not longer than its buffer or the stream. -/
theorem firstRead_le (h : Cut bytes reader) :
    (readChunk initialReadBytes reader).1.length ≤ initialReadBytes ∧
      (readChunk initialReadBytes reader).1.length ≤ bytes.length := by
  obtain ⟨hgot, hused, -⟩ := readChunk_spec (n := initialReadBytes) h
  refine ⟨hused, ?_⟩
  rw [hgot, List.length_take]
  exact Nat.min_le_right _ _

/-- The bytes behind a frame stay unread when the first read ends before them. -/
theorem exactFraming_iff : ExactFraming env bytes ↔ ¬ Followed env bytes := by
  constructor
  · rintro hexact ⟨payload, rest, request, hrest, hframed, hpayload⟩
    have hlong := hframed.length_eq
    have hmagic := magic_length
    obtain ⟨reader, hcut, hfirst⟩ := exists_cut initialReadBytes 1 bytes Nat.one_pos (by decide)
      (by omega)
    have hread : readRequestInner env reader = .ok request := by
      rw [readRequestInner_eq hcut, hfirst, outcome_of_framed hframed, if_neg (by omega), hpayload]
      rfl
    obtain ⟨payload', hframed', -⟩ := ((hexact reader hcut).2 request).mp hread
    exact hrest (hframed.unique hframed').2
  · intro hfollowed reader hcut
    obtain ⟨-, hused⟩ := firstRead_le hcut
    refine ⟨not_panic hcut, fun request => ?_⟩
    rw [readRequestInner_eq hcut, mapError_ok]
    constructor
    · intro hread
      obtain ⟨payload, rest, hframed⟩ := framed_of_outcome hread
      rw [outcome_of_framed hframed] at hread
      split at hread
      · cases hread
      · have hrest : rest = [] := by
          by_contra hne
          exact hfollowed ⟨payload, rest, request, hne, hframed, hread⟩
        exact ⟨payload, hrest ▸ hframed, hread⟩
    · rintro ⟨payload, hframed, hpayload⟩
      have hlong := hframed.length_eq
      rw [List.length_nil] at hlong
      rw [outcome_of_framed hframed, if_neg (by omega), hpayload]

/-- The stream leaves the magic line and ends before the line would. -/
def Broken (bytes : Bytes) : Prop :=
  bytes.length < magic.length ∧ bytes.take 1 <+: magic ∧ ¬ bytes <+: magic

/-- Something follows a frame, and the first read may see it. -/
def SeenBehind (bytes : Bytes) : Prop :=
  ∃ payload rest, rest ≠ [] ∧ Framed bytes payload rest ∧
    magic.length + 4 + payload.length < initialReadBytes

/-- No refusal of a payload reads like the one of what follows a frame. -/
theorem readPayload_ne : readPayload env payload ≠
    .error (protocolError "unexpected bytes follow the local control frame" true) := by
  unfold readPayload
  cases env.fromSlice payload with
  | error err =>
    intro h
    have hdetail : "invalid local control JSON: " ++ err =
        "unexpected bytes follow the local control frame" :=
      congrArg ProtocolError.detail (Except.error.inj h)
    have hlist := congrArg String.toList hdetail
    rw [String.toList_append] at hlist
    simp at hlist
  | ok request =>
    change (validateRequest request >>= fun _ => pure request) ≠ _
    unfold validateRequest
    intro h
    split at h
    · exact absurd (Except.error.inj h) (by decide)
    · split at h
      · exact absurd (Except.error.inj h) (by decide)
      · split at h
        · exact absurd (Except.error.inj h) (by decide)
        · split at h
          · exact absurd (Except.error.inj h) (by decide)
          · split at h
            · exact absurd (Except.error.inj h) (by decide)
            · cases h

/-- The outcome does not depend on the first read. -/
theorem outcome_stable (hbroken : ¬ Broken bytes) (hseen : ¬ SeenBehind bytes) {used used' : Nat}
    (hpos : 0 < used) (hle : used ≤ bytes.length ∧ used ≤ initialReadBytes)
    (hpos' : 0 < used') (hle' : used' ≤ bytes.length ∧ used' ≤ initialReadBytes) :
    outcome env used bytes = outcome env used' bytes := by
  have hne : bytes ≠ [] := List.length_pos_iff.mp (by omega)
  by_cases hmagic : bytes.take magic.length = magic
  · rw [outcome_of_magic hmagic, outcome_of_magic hmagic]
    rcases frameOutcome_cases env (bytes.drop magic.length) with ⟨e, he⟩ |
      ⟨length, payload, rest, hfour, hlength, hsome, hmax, hbody⟩
    · rw [he, he]
    · have hframed : Framed bytes payload rest := by
        refine ⟨length, hfour, hlength, hsome, hmax, ?_⟩
        have hsplit := List.take_append_drop magic.length bytes
        rw [hmagic] at hsplit
        rw [← hbody]
        exact hsplit.symm
      have hlong := hframed.length_eq
      -- A first read that saw more would have seen the rest.
      have hnone : ∀ n, n ≤ bytes.length ∧ n ≤ initialReadBytes →
          ¬ magic.length + 4 + payload.length < n := by
        intro n hn hless
        exact hseen ⟨payload, rest, List.length_pos_iff.mp (by omega), hframed, by omega⟩
      rw [hbody, frameOutcome_of_framed hfour hlength hsome hmax, if_neg (hnone _ hle),
        frameOutcome_of_framed hfour hlength hsome hmax, if_neg (hnone _ hle')]
  · have htruncated : ∀ n, 0 < n → n ≤ bytes.length →
        (n < magic.length ∧ bytes.take n <+: magic ∧ bytes.length < magic.length ↔
          bytes.length < magic.length ∧ bytes <+: magic) := by
      intro n hn hsome
      constructor
      · rintro ⟨-, hstart, hshort⟩
        refine ⟨hshort, ?_⟩
        by_contra hleft
        exact hbroken ⟨hshort, (List.take_prefix_take_left hn).trans hstart, hleft⟩
      · rintro ⟨hshort, hstart⟩
        exact ⟨by omega, (List.take_prefix _ _).trans hstart, hshort⟩
    rw [outcome_of_other hne hmagic, outcome_of_other hne hmagic]
    simp only [htruncated used hpos hle.1, htruncated used' hpos' hle'.1]

theorem sameErrors_iff : SameErrors env bytes ↔ ¬ Broken bytes ∧ ¬ SeenBehind bytes := by
  have hmagic := magic_length
  have hbuffer : 12 ≤ initialReadBytes := by decide
  constructor
  · refine fun hsame => ⟨?_, ?_⟩
    · rintro ⟨hshort, hstart, hleft⟩
      have hne : bytes ≠ [] := by
        rintro rfl
        exact hleft List.nil_prefix
      have hpos : 0 < bytes.length := List.length_pos_iff.mpr hne
      have hother : bytes.take magic.length ≠ magic := by
        rw [List.take_of_length_le hshort.le]
        exact fun heq => absurd (congrArg List.length heq) (Nat.ne_of_lt hshort)
      obtain ⟨reader, hcut, hfirst⟩ := exists_cut initialReadBytes 1 bytes Nat.one_pos
        (by omega) hpos
      obtain ⟨reader', hcut', hfirst'⟩ := exists_cut initialReadBytes bytes.length bytes
        hpos (by omega) le_rfl
      have hboth := hsame reader reader' hcut hcut'
      rw [readRequestInner_eq hcut, readRequestInner_eq hcut', hfirst, hfirst',
        outcome_of_other hne hother, outcome_of_other hne hother,
        if_pos ⟨by omega, hstart, hshort⟩,
        if_neg fun hall => hleft (by simpa using hall.2.1)] at hboth
      have hframed : true = false :=
        congrArg ProtocolError.framed (Except.error.inj (mapError_injective hboth))
      cases hframed
    · rintro ⟨payload, rest, hrest, hframed, hsmall⟩
      have hlong := hframed.length_eq
      have hbehind : 0 < rest.length := List.length_pos_iff.mpr hrest
      obtain ⟨reader, hcut, hfirst⟩ := exists_cut initialReadBytes 1 bytes
        Nat.one_pos (by omega) (by omega)
      obtain ⟨reader', hcut', hfirst'⟩ := exists_cut initialReadBytes
        (magic.length + 4 + payload.length + 1) bytes (by omega) (by omega) (by omega)
      have hboth := hsame reader reader' hcut hcut'
      rw [readRequestInner_eq hcut, readRequestInner_eq hcut', hfirst, hfirst',
        outcome_of_framed hframed, outcome_of_framed hframed, if_neg (by omega),
        if_pos (by omega)] at hboth
      exact readPayload_ne (mapError_injective hboth)
  · rintro ⟨hbroken, hseen⟩ reader reader' hcut hcut'
    rw [readRequestInner_eq hcut, readRequestInner_eq hcut']
    by_cases hne : bytes = []
    · unfold outcome
      rw [if_pos hne, if_pos hne]
    · have hsome : ∀ reader, Cut bytes reader →
          0 < (readChunk initialReadBytes reader).1.length := by
        intro reader hcut
        have hempty := readChunk_pos hcut (n := initialReadBytes) (by omega)
        exact Nat.pos_of_ne_zero fun hzero => hne (hempty.mp hzero)
      rw [outcome_stable hbroken hseen (hsome _ hcut) (firstRead_le hcut).symm (hsome _ hcut')
        (firstRead_le hcut').symm]

/-- A request comes of exactly its frame, however that arrives, unless something follows it: then the
first read may end before it, and what follows is never read. Even the errors are the same unless the
stream ends within the magic line, or the first read may see what follows a frame. -/
theorem framing_exact_iff (env : Env) (bytes : Bytes) :
    (∀ reader, Cut bytes reader → readRequestInner env reader ≠ .error .panic) ∧
      (ExactFraming env bytes ↔ ¬ Followed env bytes) ∧
      (SameErrors env bytes ↔ ¬ Broken bytes ∧ ¬ SeenBehind bytes) :=
  ⟨fun _ hcut => not_panic hcut, exactFraming_iff, sameErrors_iff⟩

end

/-! ## A byte behind a frame -/

def sampleRequest : Request :=
  ⟨"r", "status", "0123456789abcdef0123456789abcdef", .object []⟩

def samplePayload : Bytes :=
  asBytes ("\x7b\"request_id\":\"r\",\"method\":\"status\"," ++
    "\"auth_token\":\"0123456789abcdef0123456789abcdef\"\x7d")

def sampleEnv : Env where
  fromSlice bytes := if bytes = samplePayload then .ok sampleRequest else .error "expected value"
  endOfFile := "early eof"

def smuggled : Bytes := magic ++ ([0, 0, 0, 84] ++ (samplePayload ++ [0x78]))

theorem framed_smuggled : Framed smuggled samplePayload [0x78] :=
  ⟨[0, 0, 0, 84], rfl, rfl, by decide, by decide, rfl⟩

theorem readPayload_sample : readPayload sampleEnv samplePayload = .ok sampleRequest := by rfl

/-- In one piece the stream is refused, and after a first read of the magic line it is accepted. -/
theorem accepts_smuggled :
    Cut smuggled [smuggled] ∧ Cut smuggled [smuggled.take 12, smuggled.drop 12] ∧
      readRequestInner sampleEnv [smuggled] = .error (.error
        (protocolError "unexpected bytes follow the local control frame" true)) ∧
      readRequestInner sampleEnv [smuggled.take 12, smuggled.drop 12] = .ok sampleRequest ∧
      ¬ Requests sampleEnv smuggled sampleRequest := by
  have hlong : smuggled.length = 101 := framed_smuggled.length_eq
  have hwhole : Cut smuggled [smuggled] := .single (List.length_pos_iff.mp (by omega))
  have hcut : Cut smuggled [smuggled.take 12, smuggled.drop 12] := .pair (by omega) (by omega)
  refine ⟨hwhole, hcut, ?_, ?_, ?_⟩
  · rw [readRequestInner_eq hwhole, outcome_of_framed framed_smuggled]
    rfl
  · rw [readRequestInner_eq hcut, outcome_of_framed framed_smuggled]
    rfl
  · rintro ⟨payload, hframed, -⟩
    cases (framed_smuggled.unique hframed).2

end Starry.LocalControl
