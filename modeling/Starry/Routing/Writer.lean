import Starry.Routing.Sessions
import Starry.Library.Prog

/-!
# The writer of a WebSocket (`websocket_signal/session.rs`)

Everything that is sent to a client goes through one bounded queue to a writer. The calls of the
senders and the writer interleave at every access to the flag and to the queue.
-/

open Library

namespace Starry.Routing

inductive OutboundFrame
  | binary (bytes : Bytes)
  | pong (bytes : Bytes)
  | close
deriving DecidableEq, Repr

inductive TrySendError
  | closed | full
deriving DecidableEq, Repr

namespace WsWriteTransport

/-- An access to what the clones of a writer share: `closed`, and the queue. -/
inductive Action
  | load
  | store
  | swap
  | offer (frame : OutboundFrame)

abbrev Reply : Action → Type
  | .load | .swap => Bool
  | .store => Unit
  | .offer _ => Except TrySendError Unit

def ask (a : Action) : Prog Action Reply (Reply a) := .perform a

/-- What `try_send` makes of the answer of the queue. -/
def answered : Except TrySendError Unit → Prog Action Reply (Except SendError Unit)
  | .ok () => return .ok ()
  | .error .closed => do
    ask .store
    return .error .closed
  | .error .full => do
    ask .store
    discard (ask (.offer .close))
    return .error .full

def trySend (frame : OutboundFrame) : Prog Action Reply (Except SendError Unit) := do
  if ← ask .load then
    return .error .closed
  answered (← ask (.offer frame))

def sendBinary (bytes : Bytes) : Prog Action Reply (Except SendError Unit) :=
  trySend (.binary bytes)

def sendPong (bytes : Bytes) : Prog Action Reply (Except SendError Unit) := trySend (.pong bytes)

def close : Prog Action Reply Unit := do
  if !(← ask .load) then
    if !(← ask (.offer .close)).isOk then
      ask .store

def abort : Prog Action Reply Unit := do
  if !(← ask .swap) then
    discard (ask (.offer .close))

end WsWriteTransport

open WsWriteTransport (Action Reply answered)

inductive Call
  | sendBinary (bytes : Bytes)
  | sendPong (bytes : Bytes)
  | close
  | abort
deriving DecidableEq, Repr

namespace Call

def run : Call → Prog Action Reply (Except SendError Unit)
  | .sendBinary bytes => WsWriteTransport.sendBinary bytes
  | .sendPong bytes => WsWriteTransport.sendPong bytes
  | .close => do
    WsWriteTransport.close
    return .ok ()
  | .abort => do
    WsWriteTransport.abort
    return .ok ()

/-- What a call is to deliver. -/
def frame : Call → Option OutboundFrame
  | .sendBinary bytes => some (.binary bytes)
  | .sendPong bytes => some (.pong bytes)
  | .close | .abort => none

end Call

/-! ## Senders and the writer side by side -/

/-- A frame in the queue, with the number of the call that it is from. -/
structure Entry where
  call : Nat
  frame : OutboundFrame
deriving DecidableEq, Repr

structure Accessed where
  act : Action
  reply : Reply act

structure Sending where
  call : Call
  rest : Prog Action Reply (Except SendError Unit)
  trace : List Accessed

/-- Where `writer_loop` is. -/
inductive Writer
  | recv
  /-- Before the flag is looked at. -/
  | received (entry : Entry)
  | send (entry : Entry)
  /-- Before the flag is looked at again. -/
  | sent (entry : Entry)
  | leave
  | closing
  | done
deriving DecidableEq, Repr

structure Outbound where
  closed : Bool
  queue : List Entry
  writer : Writer
  calls : List Sending
  /-- What the queue has taken, in its order. -/
  accepted : List Entry
  /-- What the writer has written, in its order. -/
  wire : List Entry

namespace Outbound

def init : Outbound := ⟨false, [], .recv, [], [], []⟩

/-- `try_send` of the queue. There is no receiver any more when the writer is done. -/
def offer (capacity : Nat) (s : Outbound) (entry : Entry) : Except TrySendError Unit × Outbound :=
  if s.writer = .done then (.error .closed, s)
  else if s.queue.length < capacity then
    (.ok (), { s with queue := s.queue ++ [entry], accepted := s.accepted ++ [entry] })
  else (.error .full, s)

def access (capacity : Nat) (s : Outbound) (call : Nat) : (a : Action) → Reply a × Outbound
  | .load => (s.closed, s)
  | .store => ((), { s with closed := true })
  | .swap => (s.closed, { s with closed := true })
  | .offer frame => s.offer capacity ⟨call, frame⟩

end Outbound

/-- A step of `writer_loop`. It has a sender of its own, so that the queue never ends. -/
inductive Outbound.Writes : Outbound → Outbound → Prop
  | recv {s : Outbound} {entry : Entry} {queue : List Entry} (hw : s.writer = .recv)
      (hq : s.queue = entry :: queue) : Writes s { s with queue, writer := .received entry }
  | discard {s : Outbound} {entry : Entry} (hw : s.writer = .received entry)
      (hclosed : s.closed = true) (hdata : entry.frame ≠ .close) : Writes s { s with writer := .leave }
  | pass {s : Outbound} {entry : Entry} (hw : s.writer = .received entry)
      (h : s.closed = false ∨ entry.frame = .close) : Writes s { s with writer := .send entry }
  | sent {s : Outbound} {entry : Entry} (hw : s.writer = .send entry) :
      Writes s { s with wire := s.wire ++ [entry], writer := .sent entry }
  -- an error may come before or after the frame is written
  | failed {s : Outbound} {entry : Entry} (written : Bool) (hw : s.writer = .send entry) :
      Writes s { s with wire := if written then s.wire ++ [entry] else s.wire, writer := .leave }
  | more {s : Outbound} {entry : Entry} (hw : s.writer = .sent entry)
      (hopen : s.closed = false) (hdata : entry.frame ≠ .close) : Writes s { s with writer := .recv }
  | last {s : Outbound} {entry : Entry} (hw : s.writer = .sent entry)
      (h : s.closed = true ∨ entry.frame = .close) : Writes s { s with writer := .leave }
  | leave {s : Outbound} (hw : s.writer = .leave) :
      Writes s { s with closed := true, writer := .closing }
  | closing {s : Outbound} (hw : s.writer = .closing) :
      Writes s { s with queue := [], writer := .done }

inductive OutboundEvent
  | begin | access | write

inductive Outbound.Next (capacity : Nat) : Outbound → OutboundEvent → Outbound → Prop
  | begin {s : Outbound} (call : Call) :
      Next capacity s .begin { s with calls := s.calls ++ [⟨call, call.run, []⟩] }
  | access {s : Outbound} {i : Nat} {call : Call} {a : Action}
      {k : Reply a → Prog Action Reply (Except SendError Unit)} {trace : List Accessed}
      (hi : s.calls[i]? = some ⟨call, .act a k, trace⟩) :
      Next capacity s .access { (s.access capacity i a).2 with
        calls := s.calls.set i ⟨call, k (s.access capacity i a).1,
          trace ++ [⟨a, (s.access capacity i a).1⟩]⟩ }
  | write {s t : Outbound} (h : Writes s t) : Next capacity s .write t

/-! ## What goes through -/

namespace Writer

/-- What the writer has taken from the queue and not written yet. -/
def hand : Writer → List Entry
  | .received entry | .send entry => [entry]
  | _ => []

def running : Writer → Bool
  | .recv | .received _ | .send _ | .sent _ => true
  | _ => false

end Writer

/-- No frame but the last is a `Close`. -/
def EndsAtClose (wire : List Entry) : Prop := ∀ entry ∈ wire.dropLast, entry.frame ≠ .close

/-- While the writer runs it has all that was accepted, in its order. -/
structure Flow (capacity : Nat) (s : Outbound) : Prop where
  bound : s.queue.length ≤ capacity
  order : s.wire <+: s.accepted
  running : s.writer.running = true → s.accepted = s.wire ++ s.writer.hand ++ s.queue
  last : EndsAtClose s.wire
  data : s.writer.running = true → (∀ entry, s.writer ≠ .sent entry) →
    ∀ entry ∈ s.wire, entry.frame ≠ .close
  sent : ∀ entry, s.writer = .sent entry → ∃ wire, s.wire = wire ++ [entry] ∧
    ∀ e ∈ wire, e.frame ≠ .close
  closed : s.writer = .closing ∨ s.writer = .done → s.closed = true

section

variable {capacity : Nat} {s t : Outbound} {call : Call} {gone : Prop} {trace : List Accessed}

theorem EndsAtClose.of_data {wire : List Entry} (h : ∀ entry ∈ wire, entry.frame ≠ .close) :
    EndsAtClose wire := fun entry he => h entry (List.dropLast_subset _ he)

theorem EndsAtClose.push {wire : List Entry} {entry : Entry}
    (h : ∀ e ∈ wire, e.frame ≠ .close) : EndsAtClose (wire ++ [entry]) := by
  unfold EndsAtClose
  rw [List.dropLast_concat]
  exact h

theorem flow_init : Flow capacity .init := by
  constructor
  · exact Nat.zero_le _
  · exact List.prefix_refl _
  · exact fun _ => rfl
  · exact .of_data (by simp [Outbound.init])
  · simp [Outbound.init]
  · simp [Outbound.init]
  · simp [Outbound.init]

/-- An access leaves the writer alone; it sets the flag, or puts a frame at the end of the queue. -/
theorem access_cases (capacity : Nat) (s : Outbound) (i : Nat) (a : Action) :
    (s.access capacity i a).2 = s ∨
    (s.access capacity i a).2 = { s with closed := true } ∨
    ∃ frame, a = .offer frame ∧ s.writer ≠ .done ∧ s.queue.length < capacity ∧
      (s.access capacity i a).2 =
        { s with queue := s.queue ++ [⟨i, frame⟩], accepted := s.accepted ++ [⟨i, frame⟩] } := by
  cases a with
  | load => exact .inl rfl
  | store => exact .inr (.inl rfl)
  | swap => exact .inr (.inl rfl)
  | offer frame =>
    simp only [Outbound.access, Outbound.offer]
    split
    · exact .inl rfl
    · rename_i hdone
      split
      · rename_i hroom
        exact .inr (.inr ⟨frame, rfl, hdone, hroom, rfl⟩)
      · exact .inl rfl

theorem Flow.access (h : Flow capacity s) (i : Nat) (a : Action) :
    Flow capacity (s.access capacity i a).2 := by
  rcases access_cases capacity s i a with heq | heq | ⟨frame, -, -, hroom, heq⟩ <;> rw [heq]
  · exact h
  · exact { h with closed := fun _ => rfl }
  · refine { h with bound := ?_, order := ?_, running := fun hrunning => ?_ }
    · simpa using hroom
    · exact h.order.trans (List.prefix_append _ _)
    · rw [h.running hrunning]
      simp

theorem Flow.writes (h : Flow capacity s) (hw : s.Writes t) : Flow capacity t := by
  cases hw with
  | @recv entry queue hw hq =>
    have hall := h.running (by simp [hw, Writer.running])
    have hdata := h.data (by simp [hw, Writer.running]) (by simp [hw])
    have hbound := h.bound
    rw [hq] at hbound
    refine ⟨(Nat.le_succ _).trans hbound, h.order, fun _ => ?_, h.last, fun _ _ => hdata, ?_, ?_⟩
    · rw [hall, hw, hq]
      simp [Writer.hand]
    · simp
    · simp
  | discard hw hclosed hdata =>
    exact ⟨h.bound, h.order, by simp [Writer.running], h.last, by simp [Writer.running], by simp,
      by simp⟩
  | pass hw hpass =>
    have hall := h.running (by simp [hw, Writer.running])
    have hdata := h.data (by simp [hw, Writer.running]) (by simp [hw])
    refine ⟨h.bound, h.order, fun _ => ?_, h.last, fun _ _ => hdata, by simp, by simp⟩
    rw [hall, hw]
    rfl
  | @sent entry hw =>
    have hall := h.running (by simp [hw, Writer.running])
    have hdata := h.data (by simp [hw, Writer.running]) (by simp [hw])
    rw [hw] at hall
    refine ⟨h.bound, ?_, fun _ => ?_, .push hdata, by simp, ?_, by simp⟩
    · rw [hall]
      exact List.prefix_append _ _
    · rw [hall]
      simp [Writer.hand]
    · rintro entry' heq
      cases heq
      exact ⟨_, rfl, hdata⟩
  | @failed entry written hw =>
    have hall := h.running (by simp [hw, Writer.running])
    have hdata := h.data (by simp [hw, Writer.running]) (by simp [hw])
    rw [hw] at hall
    refine ⟨h.bound, ?_, by simp [Writer.running], ?_, by simp [Writer.running], by simp, by simp⟩
    · dsimp only
      split
      · rw [hall]
        exact List.prefix_append _ _
      · exact h.order
    · dsimp only
      split
      · exact .push hdata
      · exact h.last
  | @more entry hw hopen hdata =>
    obtain ⟨wire, hwire, hbefore⟩ := h.sent entry hw
    have hall := h.running (by simp [hw, Writer.running])
    refine ⟨h.bound, h.order, fun _ => ?_, h.last, fun _ _ e he => ?_, by simp, by simp⟩
    · rw [hall, hw]
      rfl
    · dsimp only at he
      rw [hwire] at he
      rcases List.mem_append.mp he with he | he
      · exact hbefore e he
      · rw [List.mem_singleton.mp he]
        exact hdata
  | last hw hlast =>
    exact ⟨h.bound, h.order, by simp [Writer.running], h.last, by simp [Writer.running], by simp,
      by simp⟩
  | leave hw =>
    exact ⟨h.bound, h.order, by simp [Writer.running], h.last, by simp [Writer.running], by simp,
      fun _ => rfl⟩
  | closing hw =>
    exact ⟨Nat.zero_le _, h.order, by simp [Writer.running], h.last, by simp [Writer.running],
      by simp, fun _ => h.closed (.inl hw)⟩

theorem flow_step {e : OutboundEvent} (h : Flow capacity s) (hn : s.Next capacity e t) :
    Flow capacity t := by
  cases hn with
  | begin call => exact { h with }
  | access hi => exact { h.access _ _ with }
  | write hw => exact h.writes hw

theorem flow_reachable (h : Reachable (Outbound.Next capacity) .init s) : Flow capacity s :=
  h.invariant flow_init fun _ _ _ hs hn => flow_step hs hn

/-! ## Where a call is -/

/-- What is left of a sending after its first look at the flag. -/
def loaded (frame : OutboundFrame) (closed : Bool) : Prog Action Reply (Except SendError Unit) :=
  if closed then return .error .closed else .act (.offer frame) answered

/-- What is left of `close`. -/
def closeOffered (answer : Except TrySendError Unit) : Prog Action Reply (Except SendError Unit) :=
  if answer.isOk then return .ok () else .act .store fun _ => return .ok ()

def closeLoaded (closed : Bool) : Prog Action Reply (Except SendError Unit) :=
  if closed then return .ok () else .act (.offer .close) closeOffered

/-- The last that a call does when it has set the flag. -/
def farewell (r : Except SendError Unit) : Prog Action Reply (Except SendError Unit) :=
  .act (.offer .close) fun _ => return r

def swapped (closed : Bool) : Prog Action Reply (Except SendError Unit) :=
  if closed then return .ok () else farewell (.ok ())

/-- What may be left of a call, and what it has seen; the receiver is away only when it is `gone`. -/
inductive At (gone : Prop) (call : Call) (trace : List Accessed) :
    Prog Action Reply (Except SendError Unit) → Prop
  | load {frame : OutboundFrame} (h : call.frame = some frame) :
      At gone call trace (.act .load (loaded frame))
  | offer {frame : OutboundFrame} (h : call.frame = some frame) :
      At gone call trace (.act (.offer frame) answered)
  | late {frame : OutboundFrame} (h : call.frame = some frame) (hgone : gone) :
      At gone call trace (.act .store fun _ => return .error .closed)
  | full {frame : OutboundFrame} (h : call.frame = some frame) :
      At gone call trace (.act .store fun _ => farewell (.error .full))
  | farewell (r : Except SendError Unit) (h : call.frame = none ∨ r = .error .full) :
      At gone call trace (farewell r)
  | swap (h : call = .abort) : At gone call trace (.act .swap swapped)
  | loadClose (h : call = .close) : At gone call trace (.act .load closeLoaded)
  | close (h : call = .close) : At gone call trace (.act (.offer .close) closeOffered)
  | missed (h : call = .close)
      (hmissed : gone ∨ ⟨.offer .close, .error .full⟩ ∈ trace) :
      At gone call trace (.act .store fun _ => return .ok ())
  | done (r : Except SendError Unit) : At gone call trace (.pure r)

theorem close_run : Call.close.run = .act .load closeLoaded := by
  have hloaded : ∀ closed, Prog.bind (if (!closed) = true then do
        if !(← WsWriteTransport.ask (.offer .close)).isOk then
          WsWriteTransport.ask .store
      else pure ()) (fun _ => pure (.ok ())) = closeLoaded closed := by
    intro closed
    cases closed with
    | true => rfl
    | false =>
      refine congrArg (Prog.act _) (funext fun answer => ?_)
      match answer with
      | .ok () => rfl
      | .error e => rfl
  exact congrArg (Prog.act _) (funext hloaded)

theorem abort_run : Call.abort.run = .act .swap swapped := by
  refine congrArg (Prog.act _) (funext fun closed => ?_)
  cases closed <;> rfl

theorem At.start (gone : Prop) (call : Call) : At gone call [] call.run := by
  cases call with
  | sendBinary bytes => exact @At.load _ _ _ (.binary bytes) rfl
  | sendPong bytes => exact @At.load _ _ _ (.pong bytes) rfl
  | close =>
    rw [close_run]
    exact .loadClose rfl
  | abort =>
    rw [abort_run]
    exact .swap rfl

theorem At.mono {gone' : Prop} {rest : Prog Action Reply (Except SendError Unit)}
    (h : At gone call trace rest) (himp : gone → gone') : At gone' call trace rest := by
  cases h with
  | load h => exact .load h
  | offer h => exact .offer h
  | late h hgone => exact .late h (himp hgone)
  | full h => exact .full h
  | farewell r h => exact .farewell r h
  | swap h => exact .swap h
  | loadClose h => exact .loadClose h
  | close h => exact .close h
  | missed h hmissed => exact .missed h (hmissed.imp_left himp)
  | done r => exact .done r

/-- An access takes a call to the next place. -/
theorem At.step {a : Action} {k : Reply a → Prog Action Reply (Except SendError Unit)}
    (h : At gone call trace (.act a k)) (r : Reply a)
    (hgone : ∀ frame, (⟨a, r⟩ : Accessed) = ⟨.offer frame, .error .closed⟩ → gone) :
    At gone call (trace ++ [⟨a, r⟩]) (k r) := by
  cases h with
  | load h =>
    match r with
    | true => exact .done _
    | false => exact .offer h
  | @offer frame h =>
    match r with
    | .ok () => exact .done _
    | .error .closed => exact .late h (hgone frame rfl)
    | .error .full => exact .full h
  | late h hgone' => exact .done _
  | full h => exact .farewell _ (.inr rfl)
  | farewell r' h => exact .done _
  | swap h =>
    match r with
    | true => exact .done _
    | false => exact .farewell _ (.inl (by rw [h]; rfl))
  | loadClose h =>
    match r with
    | true => exact .done _
    | false => exact .close h
  | close h =>
    match r with
    | .ok () => exact .done _
    | .error .closed => exact .missed h (.inl (hgone _ rfl))
    | .error .full => exact .missed h (.inr (by simp))
  | missed h hmissed => exact .done _

/-! ## What is taken of a call -/

/-- The data that was taken of a call. -/
def Outbound.takenOf (s : Outbound) (i : Nat) : List Entry :=
  s.accepted.filter fun entry => entry.call == i && entry.frame != .close

/-- The frame of a sending that has succeeded. -/
def Sending.delivered (i : Nat) (sending : Sending) : List Entry :=
  match sending.call.frame, sending.rest with
  | some frame, .pure (.ok ()) => [⟨i, frame⟩]
  | _, _ => []

structure Told (s : Outbound) : Prop where
  place : ∀ (i : Nat) (sending : Sending), s.calls[i]? = some sending →
    At (s.writer = .done) sending.call sending.trace sending.rest
  taken : ∀ (i : Nat) (sending : Sending), s.calls[i]? = some sending → s.takenOf i = sending.delivered i
  later : ∀ i : Nat, s.calls[i]? = none → s.takenOf i = []

theorem told_init : Told .init := by
  constructor <;> simp [Outbound.init, Outbound.takenOf]

theorem takenOf_push (s : Outbound) (queue : List Entry) (entry : Entry) (i : Nat) :
    ({ s with queue, accepted := s.accepted ++ [entry] } : Outbound).takenOf i =
      s.takenOf i ++ if entry.call = i ∧ entry.frame ≠ .close then [entry] else [] := by
  unfold Outbound.takenOf
  rw [List.filter_append, List.filter_singleton]
  congr 1
  by_cases hcall : entry.call = i <;> by_cases hframe : entry.frame = .close <;>
    simp [hcall, hframe, Bool.cond_eq_ite]

theorem frame_ne_close {frame : OutboundFrame} (h : call.frame = some frame) : frame ≠ .close := by
  cases call <;> simp [Call.frame] at h <;> subst h <;> simp

@[simp] theorem delivered_act {i : Nat} {a : Action}
    {k : Reply a → Prog Action Reply (Except SendError Unit)} :
    Sending.delivered i ⟨call, .act a k, trace⟩ = [] := by
  unfold Sending.delivered
  split <;> simp_all

theorem delivered_none {i : Nat} {rest : Prog Action Reply (Except SendError Unit)}
    (h : call.frame = none) : Sending.delivered i ⟨call, rest, trace⟩ = [] := by
  unfold Sending.delivered
  split <;> simp_all

@[simp] theorem delivered_error {i : Nat} {e : SendError} :
    Sending.delivered i ⟨call, .pure (.error e), trace⟩ = [] := by
  unfold Sending.delivered
  split <;> simp_all

/-- The data that an access has handed over. -/
def Accessed.taken (i : Nat) : Accessed → List Entry
  | ⟨.offer frame, .ok ()⟩ => if frame = .close then [] else [⟨i, frame⟩]
  | _ => []

theorem access_takenOf (capacity : Nat) (s : Outbound) (i j : Nat) (a : Action) :
    (s.access capacity i a).2.takenOf j = s.takenOf j ++
      if i = j then Accessed.taken i ⟨a, (s.access capacity i a).1⟩ else [] := by
  have hsame : s.takenOf j = s.takenOf j ++ if i = j then [] else [] := by simp
  cases a with
  | load => exact hsame
  | store => exact hsame
  | swap => exact hsame
  | offer frame =>
    simp only [Outbound.access, Outbound.offer]
    split
    · exact hsame
    · split
      · dsimp only
        rw [takenOf_push]
        by_cases hframe : frame = .close <;> by_cases heq : i = j <;>
          simp [Accessed.taken, hframe, heq]
      · exact hsame

/-- What a call has delivered is what its last access has handed over. -/
theorem At.delivered {a : Action} {k : Reply a → Prog Action Reply (Except SendError Unit)}
    (h : At gone call trace (.act a k)) (i : Nat) (r : Reply a) (trace' : List Accessed) :
    Sending.delivered i ⟨call, k r, trace'⟩ = Accessed.taken i ⟨a, r⟩ := by
  cases h with
  | load h =>
    match r with
    | true => exact delivered_error
    | false => exact delivered_act
  | @offer frame h =>
    match r with
    | .ok () =>
      have hframe := frame_ne_close h
      simp [Sending.delivered, Accessed.taken, answered, pure, h, hframe]
    | .error .closed => exact delivered_act
    | .error .full => exact delivered_act
  | late h hgone' => exact delivered_error
  | full h => exact delivered_act
  | farewell r' h =>
    have htaken : ∀ answer, Accessed.taken i ⟨.offer .close, answer⟩ = [] := by
      intro answer
      match answer with
      | .ok () => rfl
      | .error _ => rfl
    rw [htaken]
    rcases h with h | rfl
    · exact delivered_none h
    · exact delivered_error
  | swap h => exact delivered_none (by rw [h]; rfl)
  | loadClose h => exact delivered_none (by rw [h]; rfl)
  | close h => 
    rw [delivered_none (by rw [h]; rfl)]
    match r with
    | .ok () => rfl
    | .error _ => rfl
  | missed h hmissed => exact delivered_none (by rw [h]; rfl)

theorem Outbound.Writes.accepted (h : s.Writes t) : t.accepted = s.accepted := by
  cases h <;> rfl

theorem Outbound.Writes.calls (h : s.Writes t) : t.calls = s.calls := by
  cases h <;> rfl

theorem Outbound.Writes.not_done (h : s.Writes t) : s.writer ≠ .done := by
  cases h <;> simp [*]

@[simp] theorem access_writer (capacity : Nat) (s : Outbound) (i : Nat) (a : Action) :
    (s.access capacity i a).2.writer = s.writer := by
  rcases access_cases capacity s i a with heq | heq | ⟨frame, -, -, -, heq⟩ <;> rw [heq]

@[simp] theorem access_calls (capacity : Nat) (s : Outbound) (i : Nat) (a : Action) :
    (s.access capacity i a).2.calls = s.calls := by
  rcases access_cases capacity s i a with heq | heq | ⟨frame, -, -, -, heq⟩ <;> rw [heq]

/-- The queue answers that it is closed only when the writer is done. -/
theorem access_gone {i : Nat} {a : Action} {frame : OutboundFrame}
    (h : (⟨a, (s.access capacity i a).1⟩ : Accessed) = ⟨.offer frame, .error .closed⟩) :
    s.writer = .done := by
  cases a with
  | load => cases h
  | store => cases h
  | swap => cases h
  | offer frame' =>
    simp only [Outbound.access, Outbound.offer] at h
    split at h
    · assumption
    · split at h <;> simp at h

theorem told_access {i : Nat} {a : Action}
    {k : Reply a → Prog Action Reply (Except SendError Unit)} (hs : Told s)
    (hi : s.calls[i]? = some ⟨call, .act a k, trace⟩) :
    Told { (s.access capacity i a).2 with
      calls := s.calls.set i ⟨call, k (s.access capacity i a).1,
        trace ++ [⟨a, (s.access capacity i a).1⟩]⟩ } := by
  have hat := hs.place i _ hi
  have hbefore := hs.taken i _ hi
  have htaken := access_takenOf capacity s i
  refine ⟨fun j sending hj => ?_, fun j sending hj => ?_, fun j hj => ?_⟩
  · rw [List.getElem?_set] at hj
    split at hj
    · split at hj
      · cases hj
        simpa using hat.step _ fun frame => access_gone
      · cases hj
    · simpa using hs.place j sending hj
  · change (s.access capacity i a).2.takenOf j = _
    rw [htaken]
    rw [List.getElem?_set] at hj
    split at hj
    · rename_i heq
      subst heq
      split at hj
      · cases hj
        rw [hat.delivered, hbefore, delivered_act, if_pos rfl]
        rfl
      · cases hj
    · rename_i hne
      rw [if_neg hne, List.append_nil]
      exact hs.taken j sending hj
  · change (s.access capacity i a).2.takenOf j = _
    rw [htaken]
    have hne : i ≠ j := by
      rintro rfl
      rw [List.getElem?_set_self'] at hj
      simp [hi] at hj
    rw [if_neg hne, List.append_nil]
    rw [List.getElem?_set_ne hne] at hj
    exact hs.later j hj

theorem delivered_run (i : Nat) : Sending.delivered i ⟨call, call.run, trace⟩ = [] := by
  cases hrest : call.run with
  | act a k => exact delivered_act
  | pure r => cases call <;> cases hrest

theorem began_cases {calls : List Sending} {sending : Sending} {j : Nat}
    (h : (calls ++ [⟨call, call.run, []⟩])[j]? = some sending) :
    calls[j]? = some sending ∨ calls[j]? = none ∧ sending = ⟨call, call.run, []⟩ := by
  rw [List.getElem?_append] at h
  split at h
  · exact .inl h
  · rename_i hge
    rw [List.getElem?_singleton] at h
    split at h
    · exact .inr ⟨List.getElem?_eq_none (by omega), (Option.some.inj h).symm⟩
    · cases h

theorem told_step {e : OutboundEvent} (hs : Told s) (hn : s.Next capacity e t) : Told t := by
  cases hn with
  | begin call =>
    refine ⟨fun j sending hj => ?_, fun j sending hj => ?_, fun j hj => ?_⟩
    · rcases began_cases hj with hj | ⟨-, rfl⟩
      · exact hs.place j sending hj
      · exact .start _ _
    · rcases began_cases hj with hj | ⟨hnone, rfl⟩
      · exact hs.taken j sending hj
      · exact (hs.later j hnone).trans (delivered_run j).symm
    · rw [List.getElem?_eq_none_iff, List.length_append] at hj
      exact hs.later j (List.getElem?_eq_none (by omega))
  | access hi => exact told_access hs hi
  | write hw =>
    refine ⟨fun j sending hj => ?_, fun j sending hj => ?_, fun j hj => ?_⟩
    · rw [hw.calls] at hj
      exact (hs.place j sending hj).mono fun hdone => absurd hdone hw.not_done
    · rw [hw.calls] at hj
      unfold Outbound.takenOf
      rw [hw.accepted]
      exact hs.taken j sending hj
    · rw [hw.calls] at hj
      unfold Outbound.takenOf
      rw [hw.accepted]
      exact hs.later j hj

theorem told_reachable (h : Reachable (Outbound.Next capacity) .init s) : Told s :=
  h.invariant told_init fun _ _ _ hs hn => told_step hs hn

/-- However senders and writer interleave, what is written is in the order in which the queue has
taken it, with nothing between left out or written twice, and a `Close` is the last of it. The queue
keeps to its capacity. As long as the writer is open, all that was taken is on the wire, in its hand or
in the queue; a sending that has succeeded was taken once, and any other was not. -/
theorem delivered_in_order (h : Reachable (Outbound.Next capacity) .init s) :
    s.queue.length ≤ capacity ∧ s.wire <+: s.accepted ∧ EndsAtClose s.wire ∧
    (s.closed = false → s.writer ≠ .leave → s.accepted = s.wire ++ s.writer.hand ++ s.queue) ∧
    ∀ (i : Nat) (sending : Sending), s.calls[i]? = some sending →
      s.takenOf i = sending.delivered i := by
  have hflow := flow_reachable h
  refine ⟨hflow.bound, hflow.order, hflow.last, fun hopen hleave => ?_, (told_reachable h).taken⟩
  apply hflow.running
  cases hw : s.writer with
  | recv => rfl
  | received entry => rfl
  | send entry => rfl
  | sent entry => rfl
  | leave => exact absurd hw hleave
  | closing => simp [hflow.closed (.inl hw)] at hopen
  | done => simp [hflow.closed (.inr hw)] at hopen

/-! ## After the flag is set -/

namespace Outbound

/-- A call is about to wake the writer. -/
def Pending (s : Outbound) : Prop := ∃ sending ∈ s.calls, ∃ r, sending.rest = farewell r

/-- A `close` has found the queue full: it sets the flag, and puts no `Close`. -/
def Missed (s : Outbound) : Prop :=
  ∃ sending ∈ s.calls, sending.call = .close ∧ ⟨.offer .close, .error .full⟩ ∈ sending.trace

end Outbound

def Woken (s : Outbound) : Prop :=
  s.closed = true → s.writer = .recv → s.queue = [] → s.Pending ∨ s.Missed

theorem mem_set_of_ne {l : List Sending} {i : Nat} {x y z : Sending} (hi : l[i]? = some y)
    (hx : x ∈ l) (hne : x ≠ y) : x ∈ l.set i z := by
  obtain ⟨j, hj⟩ := List.mem_iff_getElem?.mp hx
  have hij : i ≠ j := by
    rintro rfl
    exact hne (Option.some.inj (hj.symm.trans hi))
  exact List.mem_of_getElem? (by rw [List.getElem?_set_ne hij]; exact hj)

theorem mem_set_self {l : List Sending} {i : Nat} {y z : Sending} (hi : l[i]? = some y) :
    z ∈ l.set i z := List.mem_set (List.getElem?_eq_some_iff.mp hi).1 z

/-- An access that offers nothing takes no farewell away. -/
theorem awaits_set {i : Nat} {a : Action} {r : Reply a}
    {k rest : Prog Action Reply (Except SendError Unit)} {t : Outbound}
    (hcalls : t.calls = s.calls.set i ⟨call, rest, trace ++ [⟨a, r⟩]⟩)
    (hi : s.calls[i]? = some ⟨call, k, trace⟩) (hk : ∀ r, k ≠ farewell r)
    (h : s.Pending ∨ s.Missed) : t.Pending ∨ t.Missed := by
  unfold Outbound.Pending Outbound.Missed
  rw [hcalls]
  rcases h with ⟨sending, hmem, r', hrest⟩ | ⟨sending, hmem, hclose, hfull⟩
  · refine .inl ⟨sending, mem_set_of_ne hi hmem ?_, r', hrest⟩
    rintro rfl
    exact hk r' hrest
  · by_cases heq : sending = ⟨call, k, trace⟩
    · subst heq
      exact .inr ⟨_, mem_set_self hi, hclose, List.mem_append_left _ hfull⟩
    · exact .inr ⟨sending, mem_set_of_ne hi hmem heq, hclose, hfull⟩

/-- An empty queue takes what is offered. -/
theorem offered_queue (hc : 0 < capacity) (hw : s.writer ≠ .done) (i : Nat)
    (frame : OutboundFrame) : (s.access capacity i (.offer frame)).2.queue ≠ [] := by
  simp only [Outbound.access, Outbound.offer, if_neg hw]
  split
  · simp
  · rename_i hfull
    intro hqueue
    dsimp only at hqueue
    rw [hqueue] at hfull
    exact hfull hc

theorem woken_access (hc : 0 < capacity) {i : Nat} {a : Action}
    {k : Reply a → Prog Action Reply (Except SendError Unit)} (hs : Woken s) (htold : Told s)
    (hi : s.calls[i]? = some ⟨call, .act a k, trace⟩) :
    Woken { (s.access capacity i a).2 with
      calls := s.calls.set i ⟨call, k (s.access capacity i a).1,
        trace ++ [⟨a, (s.access capacity i a).1⟩]⟩ } := by
  intro hclosed hwriter hqueue
  dsimp only at hclosed hwriter hqueue
  rw [access_writer] at hwriter
  have hrunning : s.writer ≠ .done := by simp [hwriter]
  have hat := htold.place i _ hi
  dsimp only at hat
  cases hat with
  | load h => exact awaits_set rfl hi (by simp [farewell]) (hs hclosed hwriter hqueue)
  | loadClose h => exact awaits_set rfl hi (by simp [farewell]) (hs hclosed hwriter hqueue)
  | offer h => exact absurd hqueue (offered_queue hc hrunning i _)
  | farewell r h => exact absurd hqueue (offered_queue hc hrunning i _)
  | close h => exact absurd hqueue (offered_queue hc hrunning i _)
  | late h hgone => exact absurd hgone hrunning
  | full h => exact .inl ⟨_, mem_set_self hi, _, rfl⟩
  | swap h =>
    cases hbefore : s.closed with
    | true => exact awaits_set rfl hi (by simp [farewell]) (hs hbefore hwriter hqueue)
    | false =>
      refine .inl ⟨_, mem_set_self hi, .ok (), ?_⟩
      simp [Outbound.access, hbefore, swapped]
  | missed h hmissed =>
    rcases hmissed with hgone | hmissed
    · exact absurd hgone hrunning
    · exact .inr ⟨_, mem_set_self hi, h, List.mem_append_left _ hmissed⟩

theorem woken_step (hc : 0 < capacity) {e : OutboundEvent} (hs : Woken s ∧ Told s)
    (hn : s.Next capacity e t) : Woken t ∧ Told t := by
  refine ⟨?_, told_step hs.2 hn⟩
  cases hn with
  | begin call =>
    intro hclosed hwriter hqueue
    rcases hs.1 hclosed hwriter hqueue with ⟨sending, hmem, h⟩ | ⟨sending, hmem, h⟩
    · exact .inl ⟨sending, List.mem_append_left _ hmem, h⟩
    · exact .inr ⟨sending, List.mem_append_left _ hmem, h⟩
  | access hi => exact woken_access hc hs.1 hs.2 hi
  | write hw =>
    intro hclosed hwriter hqueue
    cases hw with
    | more hsent hopen hdata =>
      dsimp only at hclosed
      rw [hopen] at hclosed
      cases hclosed
    | _ => cases hwriter

theorem woken_reachable (hc : 0 < capacity) (h : Reachable (Outbound.Next capacity) .init s) :
    Woken s :=
  (h.invariant (P := fun s => Woken s ∧ Told s) ⟨by simp [Woken, Outbound.init], told_init⟩
    fun _ _ _ hs hn => woken_step hc hs hn).1

/-- How far the writer is from its end, if it does not go back to the queue. -/
def Writer.rank : Writer → Nat
  | .recv => 6
  | .received _ => 5
  | .send _ => 4
  | .sent _ => 3
  | .leave => 2
  | .closing => 1
  | .done => 0

theorem rank_lt (hclosed : s.closed = true) (h : s.Writes t) :
    t.writer.rank < s.writer.rank := by
  cases h with
  | more hw hopen hdata =>
    rw [hopen] at hclosed
    cases hclosed
  | _ => simp [*, Writer.rank]

/-- Only at the queue the writer may have to wait. -/
theorem writes_or_waits (s : Outbound) :
    s.writer = .done ∨ s.writer = .recv ∧ s.queue = [] ∨ ∃ t, s.Writes t := by
  cases hw : s.writer with
  | recv =>
    cases hq : s.queue with
    | nil => exact .inr (.inl ⟨rfl, rfl⟩)
    | cons entry queue => exact .inr (.inr ⟨_, .recv hw hq⟩)
  | received entry =>
    by_cases hpass : s.closed = false ∨ entry.frame = .close
    · exact .inr (.inr ⟨_, .pass hw hpass⟩)
    · simp only [not_or, Bool.not_eq_false] at hpass
      exact .inr (.inr ⟨_, .discard hw hpass.1 hpass.2⟩)
  | send entry => exact .inr (.inr ⟨_, .sent hw⟩)
  | sent entry =>
    by_cases hlast : s.closed = true ∨ entry.frame = .close
    · exact .inr (.inr ⟨_, .last hw hlast⟩)
    · simp only [not_or, Bool.not_eq_true] at hlast
      exact .inr (.inr ⟨_, .more hw hlast.1 hlast.2⟩)
  | leave => exact .inr (.inr ⟨_, .leave hw⟩)
  | closing => exact .inr (.inr ⟨_, .closing hw⟩)
  | done => exact .inl rfl

def Entry.isData (entry : Entry) : Bool := entry.frame != .close

/-- The data that the writer is past looking at the flag for. -/
def Writer.committed : Writer → Nat
  | .send entry => if entry.isData then 1 else 0
  | _ => 0

/-- What a sending that came after the flag may be. -/
def Refused (n : Nat) (s : Outbound) : Prop :=
  ∀ (i : Nat) (sending : Sending), n ≤ i → s.calls[i]? = some sending →
    sending.call.frame ≠ none →
      sending.rest = sending.call.run ∨ sending.rest = .pure (.error .closed)

theorem run_of_frame {frame : OutboundFrame} (h : call.frame = some frame) :
    call.run = .act .load (loaded frame) := by
  cases call with
  | sendBinary bytes =>
    cases h
    rfl
  | sendPong bytes =>
    cases h
    rfl
  | close => cases h
  | abort => cases h

theorem refused_access {n i : Nat} {a : Action}
    {k : Reply a → Prog Action Reply (Except SendError Unit)} (hs : Refused n s)
    (hclosed : s.closed = true) (hi : s.calls[i]? = some ⟨call, .act a k, trace⟩) :
    Refused n { (s.access capacity i a).2 with
      calls := s.calls.set i ⟨call, k (s.access capacity i a).1,
        trace ++ [⟨a, (s.access capacity i a).1⟩]⟩ } := by
  intro j sending hn hj hframe
  rw [List.getElem?_set] at hj
  split at hj
  · rename_i heq
    subst heq
    split at hj
    · cases hj
      rcases hs i _ hn hi hframe with hrun | hrun
      · obtain ⟨frame, hsome⟩ := Option.ne_none_iff_exists'.mp hframe
        dsimp only at hrun hsome
        rw [run_of_frame hsome] at hrun
        cases hrun
        refine .inr ?_
        dsimp only [Outbound.access]
        rw [hclosed]
        rfl
      · cases hrun
    · cases hj
  · exact hs j sending hn hj hframe

/-- Since the flag was set in `s`. -/
structure Since (s t : Outbound) : Prop where
  closed : t.closed = true
  data : t.wire.countP Entry.isData + t.writer.committed ≤
    s.wire.countP Entry.isData + s.writer.committed
  refused : Refused s.calls.length t

theorem Since.refl (h : s.closed = true) : Since s s := by
  refine ⟨h, le_rfl, fun i sending hn hi _ => ?_⟩
  rw [List.getElem?_eq_none hn] at hi
  cases hi

theorem access_wire (capacity : Nat) (s : Outbound) (i : Nat) (a : Action) :
    (s.access capacity i a).2.wire = s.wire := by
  rcases access_cases capacity s i a with heq | heq | ⟨frame, -, -, -, heq⟩ <;> rw [heq]

theorem access_closed (i : Nat) (a : Action) (h : s.closed = true) :
    (s.access capacity i a).2.closed = true := by
  rcases access_cases capacity s i a with heq | heq | ⟨frame, -, -, -, heq⟩ <;> simp [heq, h]

theorem writes_closed (h : s.closed = true) (hw : s.Writes t) : t.closed = true := by
  cases hw <;> first | rfl | exact h

/-- With the flag set, only what the writer is past looking for is written. -/
theorem writes_data (h : s.closed = true) (hw : s.Writes t) :
    t.wire.countP Entry.isData + t.writer.committed ≤
      s.wire.countP Entry.isData + s.writer.committed := by
  cases hw with
  | recv hw hq => simp [hw, Writer.committed]
  | discard hw hclosed hdata => simp [Writer.committed]
  | @pass entry hw hpass =>
    rw [h] at hpass
    have hclose : entry.frame = .close := by simpa using hpass
    simp [Writer.committed, Entry.isData, hclose]
  | @sent entry hw =>
    rw [List.countP_append, List.countP_singleton, hw]
    simp [Writer.committed]
  | @failed entry written hw =>
    dsimp only
    split
    · rw [List.countP_append, List.countP_singleton, hw]
      simp [Writer.committed]
    · simp [Writer.committed]
  | more hw hopen hdata => simp [Writer.committed]
  | last hw hlast => simp [Writer.committed]
  | leave hw => simp [Writer.committed]
  | closing hw => simp [Writer.committed]

theorem Since.step {u : Outbound} (h : Since s t) {e : OutboundEvent}
    (hn : t.Next capacity e u) : Since s u := by
  cases hn with
  | begin call =>
    refine ⟨h.closed, h.data, fun i sending hn hi hframe => ?_⟩
    rcases began_cases hi with hi | ⟨-, rfl⟩
    · exact h.refused i sending hn hi hframe
    · exact .inl rfl
  | access hi =>
    refine ⟨access_closed _ _ h.closed, ?_, refused_access h.refused h.closed hi⟩
    rw [access_wire, access_writer]
    exact h.data
  | write hw =>
    refine ⟨writes_closed h.closed hw, (writes_data h.closed hw).trans h.data, ?_⟩
    unfold Refused
    rw [hw.calls]
    exact h.refused

/-- Once the flag is set, the writer comes to its end in a few steps of its own, and it waits on the
way only for a sender that has set the flag and is about to wake it, or after a `close` that found the
queue full, which nobody makes up for. From then on one more frame of data may be written, the one
that it was about to write, and a sending that comes later is refused. -/
theorem closing_finishes (hc : 0 < capacity) (h : Reachable (Outbound.Next capacity) .init s)
    (hclosed : s.closed = true) :
    (s.writer = .done ∨ (∃ t, s.Writes t) ∨ s.Pending ∨ s.Missed) ∧
    (∀ t, s.Writes t → t.writer.rank < s.writer.rank) ∧
    ∀ es t, Run (Outbound.Next capacity) s es t →
      t.wire.countP Entry.isData ≤ s.wire.countP Entry.isData + s.writer.committed ∧
      ∀ (i : Nat) (sending : Sending), s.calls.length ≤ i → t.calls[i]? = some sending →
        sending.call.frame ≠ none → ∀ r, sending.rest = .pure r → r = .error .closed := by
  refine ⟨?_, fun t hw => rank_lt hclosed hw, fun es t hrun => ?_⟩
  · rcases writes_or_waits s with hdone | ⟨hrecv, hqueue⟩ | hwrites
    · exact .inl hdone
    · exact .inr (.inr (woken_reachable hc h hclosed hrecv hqueue))
    · exact .inr (.inl hwrites)
  · have hsince := hrun.invariant (P := Since s) (.refl hclosed) fun _ _ _ hs hn => hs.step hn
    refine ⟨(Nat.le_add_right _ _).trans hsince.data, fun i sending hn hi hframe r hr => ?_⟩
    rcases hsince.refused i sending hn hi hframe with hrest | hrest
    · obtain ⟨frame, hsome⟩ := Option.ne_none_iff_exists'.mp hframe
      rw [run_of_frame hsome, hr] at hrest
      cases hrest
    · rw [hr] at hrest
      cases hrest
      rfl

end

/-! ## A close that is missed -/

/-- A frame was sent, and a `close` found it in the queue before the writer took it. -/
def missedClose : Outbound where
  closed := true
  queue := []
  writer := .recv
  calls :=
    [⟨.sendBinary [1], .pure (.ok ()), [⟨.load, false⟩, ⟨.offer (.binary [1]), .ok ()⟩]⟩,
      ⟨.close, .pure (.ok ()), [⟨.load, false⟩, ⟨.offer .close, .error .full⟩, ⟨.store, ()⟩]⟩]
  accepted := [⟨0, .binary [1]⟩]
  wire := [⟨0, .binary [1]⟩]

theorem missedClose_reachable : Reachable (Outbound.Next 1) .init missedClose := by
  have hinit : Reachable (Outbound.Next 1) .init .init := .refl _
  have hsends := hinit.step (.begin (.sendBinary [1]))
  have hopen := hsends.step (.access (i := 0) rfl)
  have hsent := hopen.step (.access (i := 0) rfl)
  have hcloses := hsent.step (.begin .close)
  have hlooked := hcloses.step (.access (i := 1) rfl)
  have hfull := hlooked.step (.access (i := 1) rfl)
  have hreceived := hfull.step (.write (.recv rfl rfl))
  have hpassed := hreceived.step (.write (.pass rfl (.inl rfl)))
  have hwritten := hpassed.step (.write (.sent rfl))
  have hback := hwritten.step (.write (.more rfl rfl (by decide)))
  have hstored := hback.step (.access (i := 1) rfl)
  exact hstored

theorem delivered_in_order_missedClose :
    missedClose.wire <+: missedClose.accepted ∧ missedClose.takenOf 0 = [⟨0, .binary [1]⟩] := by
  obtain ⟨-, horder, -, -, htaken⟩ := delivered_in_order missedClose_reachable
  exact ⟨horder, htaken 0 _ rfl⟩

/-- The writer waits there, and nobody is about to wake it. -/
theorem closing_finishes_missedClose : ¬ (∃ t, missedClose.Writes t) ∧ ¬ missedClose.Pending ∧
    missedClose.Missed := by
  have hwrites : ¬ ∃ t, missedClose.Writes t := by
    rintro ⟨t, hw⟩
    cases hw <;> contradiction
  have hpending : ¬ missedClose.Pending := by
    rintro ⟨sending, hmem, r, hr⟩
    simp only [missedClose, List.mem_cons, List.not_mem_nil, or_false] at hmem
    rcases hmem with rfl | rfl <;> cases hr
  rcases (closing_finishes Nat.one_pos missedClose_reachable rfl).1 with h | h | h | h
  · cases h
  · exact absurd h hwrites
  · exact absurd h hpending
  · exact ⟨hwrites, hpending, h⟩

end Starry.Routing
