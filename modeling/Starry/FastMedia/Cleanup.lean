import Starry.FastMedia.Expiry

/-!
# FastMedia relay: the queue of the cleanup

The queue holds every entry once, so a number of cleanups that depends only on the number of entries
reaches all of them.
-/

open Library

namespace Starry.FastMedia

variable {F : Type}

/-- The queue holds the ids of the entries, each of them once. -/
structure Engine.Queued (e : Engine F) : Prop where
  nodup : e.cleanupOrder.Nodup
  keys : ∀ id, id ∈ e.cleanupOrder ↔ (e.allocations.get id).isSome = true
  bounded : e.allocations.len ≤ e.config.maxAllocations

def Input.isCleanup : Input → Bool
  | .cleanup .. => true
  | .packet .. => false

def Input.isBind : Input → Bool
  | .packet _ bytes _ _ => (Header.parse bytes).any fun header => header.kind == .bind
  | .cleanup .. => false

/-! ## The queue -/

section Queue

variable {e : Engine F} {now : Instant} {unix : Nat}

theorem Engine.Queued.length (h : e.Queued) : e.cleanupOrder.length = e.allocations.len := by
  rw [Table.len_eq_keys]
  apply List.Perm.length_eq
  apply (List.perm_ext_iff_of_nodup h.nodup e.allocations.keys_nodup).mpr
  intro id
  have hkey := Table.get_eq_none (m := e.allocations) (k := id)
  rw [h.keys id, Option.isSome_iff_ne_none, ne_eq, hkey, not_not]

theorem cleanupOne_queued (h : e.Queued) : (Engine.cleanupOne now unix e).Queued := by
  unfold Engine.cleanupOne
  split
  · exact h
  · rename_i id order horder
    have hnodup := h.nodup
    have hkeys := h.keys
    rw [horder] at hnodup hkeys
    obtain ⟨hid, horderNodup⟩ := List.nodup_cons.mp hnodup
    dsimp only
    split
    · refine ⟨horderNodup, fun id' => ?_, (Table.len_remove_le _ _).trans h.bounded⟩
      by_cases hsame : id' = id
      · subst hsame
        simp [hid]
      · have hkey := hkeys id'
        rw [List.mem_cons, or_iff_right hsame] at hkey
        rw [Table.get_remove, if_neg hsame, hkey]
    · have hperm : (order ++ [id]).Perm (id :: order) := by simp
      refine ⟨hperm.nodup_iff.mpr hnodup, fun id' => ?_, h.bounded⟩
      exact hperm.mem_iff.trans (hkeys id')

theorem cleanup_queued (h : e.Queued) : (e.cleanup now unix).Queued := by
  have hturns : ∀ n : Nat, ((Engine.cleanupOne now unix)^[n] e).Queued := by
    intro n
    induction n with
    | zero => exact h
    | succ n ih =>
      rw [Function.iterate_succ_apply']
      exact cleanupOne_queued ih
  obtain ⟨hnodup, hkeys, hbounded⟩ := hturns cleanupPerTick
  exact ⟨hnodup, hkeys, hbounded⟩

end Queue

variable [F64 F] {crypto : Crypto}

section Handle

variable {e : Engine F} {source : SocketAddr} {packet : Bytes} {header : Header} {now : Instant}
  {unix : Nat}

/-- What a Bind for `id` does to the ids that are there and to the queue. -/
inductive Enqueues (e : Engine F) (id : Bytes) (e' : Engine F) : Prop
  | kept (order : e'.cleanupOrder = e.cleanupOrder)
      (ids : ∀ id', (e'.allocations.get id').isSome = (e.allocations.get id').isSome)
  | added (absent : e.allocations.get id = none)
      (room : e'.allocations.len ≤ e'.config.maxAllocations)
      (order : e'.cleanupOrder = e.cleanupOrder ++ [id])
      (ids : ∀ id', (e'.allocations.get id').isSome =
        (decide (id' = id) || (e.allocations.get id').isSome))

/-- A new entry passes every check that is left, so it always enters the queue. -/
theorem handleBind_enqueues : Enqueues e header.allocationId
    (e.handleBind crypto source packet header now unix).1 := by
  unfold Engine.handleBind
  split
  · exact .kept rfl fun _ => rfl
  · rename_i grant inv hgrant
    dsimp only
    cases hx : e.allocations.get header.allocationId with
    | none =>
      split
      · exact .kept rfl fun _ => rfl
      · rename_i hroom
        split
        · rename_i hne
          simp [Allocation.new] at hne
        · split
          · rename_i hne
            simp [Allocation.new] at hne
          · split
            · rename_i hrefused
              have hnew : (Engine.bindRole (.new header.sessionId inv now : Allocation F) source
                  header.role grant.maxBitrateKbps now).2 = true := by
                cases header.role <;> rfl
              simp [hnew] at hrefused
            · refine .added hx ?_ (by simp) fun id' => by
                by_cases hid : id' = header.allocationId <;> simp [hid]
              simp only [Option.isNone_none, Bool.true_and, decide_eq_true_eq] at hroom
              simp only [Table.len_insert, hx, Table.get_insert, if_true, reduceCtorEq, if_false]
              omega
    | some a =>
      have hids : ∀ (a' : Allocation F) (id' : Bytes),
          ((e.allocations.insert header.allocationId a').get id').isSome =
            (e.allocations.get id').isSome := by
        intro a' id'
        by_cases hid : id' = header.allocationId <;> simp [hid, hx]
      have hids₂ : ∀ (a₁ a₂ : Allocation F) (id' : Bytes),
          (((e.allocations.insert header.allocationId a₁).insert header.allocationId a₂).get
            id').isSome = (e.allocations.get id').isSome := by
        intro a₁ a₂ id'
        by_cases hid : id' = header.allocationId <;> simp [hid, hx]
      split
      · exact .kept rfl fun _ => rfl
      · split
        · exact .kept rfl (hids _)
        · split
          · exact .kept rfl (hids _)
          · split
            · exact .kept rfl (hids₂ _ _)
            · exact .kept (by simp) (hids₂ _ _)

omit [F64 F] in
theorem Enqueues.queued {e' : Engine F} {id : Bytes} (h : Enqueues e id e')
    (hconfig : e'.config = e.config) (hq : e.Queued) : e'.Queued := by
  cases h with
  | kept order ids =>
    refine ⟨order ▸ hq.nodup, fun id' => by rw [order, ids, hq.keys id'], ?_⟩
    rw [hconfig]
    refine le_trans (Table.len_le_of_get fun id' h => ?_) hq.bounded
    rw [← ids id']
    exact h
  | added absent room order ids =>
    have hfresh : id ∉ e.cleanupOrder := by
      rw [hq.keys, absent]
      simp
    refine ⟨?_, fun id' => ?_, room⟩
    · rw [order]
      apply List.nodup_append.mpr
      refine ⟨hq.nodup, by simp, fun a ha b hb hab => ?_⟩
      rw [List.mem_singleton] at hb
      exact hfresh (hb ▸ hab ▸ ha)
    · rw [order, ids, List.mem_append, List.mem_singleton, hq.keys id']
      simp [or_comm]

/-- The ids that are there, and the queue, stay. -/
def SameIds (e e' : Engine F) : Prop :=
  e'.cleanupOrder = e.cleanupOrder ∧
    ∀ id, (e'.allocations.get id).isSome = (e.allocations.get id).isSome

theorem handleMedia_sameIds : SameIds e (e.handleMedia source packet header now unix).1 := by
  unfold Engine.handleMedia
  split
  · exact ⟨rfl, fun _ => rfl⟩
  · rename_i a ha
    have hids : ∀ (a' : Allocation F) (id' : Bytes),
        ((e.allocations.insert header.allocationId a').get id').isSome =
          (e.allocations.get id').isSome := by
      intro a' id'
      by_cases hid : id' = header.allocationId <;> simp [hid, ha]
    dsimp only
    repeat' split
    all_goals first | exact ⟨rfl, fun _ => rfl⟩ | exact ⟨rfl, hids _⟩

/-- Nothing but a Bind changes which ids are there, or the queue. -/
theorem handle_enqueues (crypto : Crypto) (e : Engine F) (source : SocketAddr) (packet : Bytes) (now : Instant)
    (unix : Nat) :
    SameIds e (e.handle crypto source packet now unix).1 ∨
      (Input.packet source packet now unix).isBind = true ∧
        ∃ id, Enqueues e id (e.handle crypto source packet now unix).1 := by
  unfold Engine.handle
  split
  · exact .inl ⟨rfl, fun _ => rfl⟩
  · rename_i header hparse
    obtain ⟨perIp, global, he⟩ := allowSource_eq e source.ip packet.length now
    dsimp only
    rw [he]
    split
    · exact .inl ⟨rfl, fun _ => rfl⟩
    · split
      · exact .inl ⟨rfl, fun _ => rfl⟩
      · rename_i hkind
        right
        refine ⟨by simp [Input.isBind, hparse, hkind], header.allocationId, ?_⟩
        have hbind : Enqueues { e with perIp, global } header.allocationId (Engine.handleBind crypto
            { e with perIp, global } source packet header now unix).1 := handleBind_enqueues
        cases hbind with
        | kept order ids => exact .kept order ids
        | added absent room order ids => exact .added absent room order ids
      · exact .inl (handleMedia_sameIds (e := { e with perIp, global }))

theorem step_queued (crypto : Crypto) (h : e.Queued) (i : Input) :
    (e.step crypto i).1.Queued := by
  have hconfig := (step_config crypto e i).1
  cases i with
  | cleanup now unix => exact cleanup_queued h
  | packet source packet now unix =>
    rcases handle_enqueues crypto e source packet now unix with
      ⟨order, ids⟩ | ⟨-, id, hbind⟩
    · have hkept : Enqueues e [] (e.handle crypto source packet now unix).1 := .kept order ids
      exact hkept.queued hconfig h
    · exact hbind.queued hconfig h

end Handle

/-! ## Turns -/

section Turns

variable {e e' : Engine F} {now : Instant} {unix k : Nat} {queue : List Bytes} {doomed : Bytes → Prop}

/-- The first `k` places of `queue` have been visited: what was doomed there is gone. -/
def Visited (queue : List Bytes) (doomed : Bytes → Prop) (k : Nat) (e : Engine F) : Prop :=
  (∃ survivors, e.cleanupOrder = queue.drop k ++ survivors) ∧
    ∀ id ∈ queue.take k, doomed id → e.allocations.get id = none

/-- An entry of `id` that is there has expired. -/
def Doomed (e : Engine F) (now : Instant) (unix : Nat) (id : Bytes) : Prop :=
  ∀ a, e.allocations.get id = some a →
    a.expired now unix e.config.halfBindTtl e.config.idleTtl = true

omit [F64 F] in
theorem cleanupOne_visited (h : Visited queue doomed k e)
    (hdoomed : ∀ id, doomed id → Doomed e now unix id) :
    Visited queue doomed (k + 1) (Engine.cleanupOne now unix e) := by
  obtain ⟨⟨survivors, horder⟩, hgone⟩ := h
  have hkept : ∀ id, e.allocations.get id = none →
      (Engine.cleanupOne now unix e).allocations.get id = none := by
    intro id hnone
    unfold Engine.cleanupOne
    split
    · exact hnone
    · dsimp only
      split
      · rw [Table.get_remove]
        split
        · rfl
        · exact hnone
      · exact hnone
  by_cases hk : k < queue.length
  · rw [List.drop_eq_getElem_cons hk, List.cons_append] at horder
    have htake : queue.take (k + 1) = queue.take k ++ [queue[k]] := by
      rw [List.take_add_one, List.getElem?_eq_getElem hk]
      rfl
    have hfront : doomed queue[k] →
        (Engine.cleanupOne now unix e).allocations.get queue[k] = none := by
      intro hd
      have hexpired : ((e.allocations.get queue[k]).all fun a =>
          a.expired now unix e.config.halfBindTtl e.config.idleTtl) = true := by
        cases ha : e.allocations.get queue[k] with
        | none => rfl
        | some a => exact hdoomed _ hd a ha
      unfold Engine.cleanupOne
      rw [horder]
      dsimp only
      rw [if_pos hexpired]
      simp
    refine ⟨?_, fun id hid hd => ?_⟩
    · unfold Engine.cleanupOne
      rw [horder]
      dsimp only
      split
      · exact ⟨survivors, rfl⟩
      · exact ⟨survivors ++ [queue[k]], List.append_assoc _ _ _⟩
    · rw [htake, List.mem_append, List.mem_singleton] at hid
      rcases hid with hid | rfl
      · exact hkept id (hgone id hid hd)
      · exact hfront hd
  · refine ⟨⟨_, by rw [List.drop_eq_nil_of_le (by omega), List.nil_append]⟩, fun id hid hd => ?_⟩
    rw [List.take_of_length_le (by omega)] at hid
    refine hkept id (hgone id ?_ hd)
    rw [List.take_of_length_le (by omega)]
    exact hid

omit [F64 F] in
theorem cleanup_visited (h : Visited queue doomed k e)
    (hdoomed : ∀ id, doomed id → Doomed e now unix id) :
    Visited queue doomed (k + cleanupPerTick) (e.cleanup now unix) := by
  have hturns : ∀ n : Nat,
      Visited queue doomed (k + n) ((Engine.cleanupOne now unix)^[n] e) := by
    intro n
    induction n with
    | zero => exact h
    | succ n ih =>
      rw [Function.iterate_succ_apply']
      refine cleanupOne_visited ih fun id hd a ha => ?_
      obtain ⟨hconfig, -, hget⟩ := cleanupOne_iterate now unix n e id
      rcases hget with hsame | ⟨-, -, -, hnone⟩
      · rw [hconfig]
        exact hdoomed id hd a (hsame ▸ ha)
      · rw [hnone] at ha
        cases ha
  exact hturns cleanupPerTick

/-- What is doomed stays so, or goes. -/
theorem Doomed.step {w w' : World F} {i : Input} {id : Bytes}
    (h : Doomed w.engine w.now w.unix id) (hn : Next crypto w i w') (hbind : i.isBind = false) :
    Doomed w'.engine w'.now w'.unix id := by
  obtain ⟨hnow, hunix, hle, hle'⟩ := step_clock hn
  intro a' ha'
  have hconfig : w'.engine.config = w.engine.config := by
    rw [step_world hn]
    exact (step_config crypto w.engine i).1
  have hentry := step_entry crypto w.engine i id
  rw [← step_world hn, ha'] at hentry
  rw [hnow, hunix, hconfig]
  generalize hx : w.engine.allocations.get id = x at hentry
  cases hentry with
  | same => exact expired_mono (h a' hx) hle hle'
  | media a _ _ _ _ _ _ hlive =>
    have hexp := expired_mono (h a hx) hle hle'
    rw [hlive] at hexp
    cases hexp
  | bound _ _ _ _ _ hb =>
    obtain ⟨packet, hi, hparse, hkind, -⟩ := hb
    rw [hi] at hbind
    simp [Input.isBind, hparse, hkind] at hbind

theorem Visited.step {w w' : World F} {i : Input} (h : Visited queue doomed k w.engine)
    (hdoomed : ∀ id, doomed id → Doomed w.engine w.now w.unix id) (hn : Next crypto w i w')
    (hbind : i.isBind = false) :
    Visited queue doomed (k + if i.isCleanup then cleanupPerTick else 0) w'.engine := by
  obtain ⟨-, -, hle, hle'⟩ := step_clock hn
  rw [step_world hn]
  cases i with
  | cleanup now unix =>
    exact cleanup_visited h fun id hd a ha => expired_mono (hdoomed id hd a ha) hle hle'
  | packet source packet now unix =>
    rcases handle_enqueues crypto w.engine source packet now unix with
      ⟨horder, hids⟩ | ⟨htrue, -⟩
    · obtain ⟨⟨survivors, hs⟩, hgone⟩ := h
      refine ⟨⟨survivors, horder.trans hs⟩, fun id hid hd => ?_⟩
      have hsame := hids id
      rw [hgone id hid hd, Option.isSome_none, Option.isSome_eq_false_iff,
        Option.isNone_iff_eq_none] at hsame
      exact hsame
    · rw [hbind] at htrue
      cases htrue

theorem run_visited (doomed : Bytes → Prop) {w w' : World F} {is : List Input} (h : Run (Next crypto) w is w')
    (hbind : ∀ i ∈ is, i.isBind = false)
    (hdoomed : ∀ id, doomed id → Doomed w.engine w.now w.unix id) :
    Visited w.engine.cleanupOrder doomed (cleanupPerTick * is.countP Input.isCleanup) w'.engine ∧
      ∀ id, doomed id → Doomed w'.engine w'.now w'.unix id := by
  induction h with
  | nil => exact ⟨⟨⟨[], by simp⟩, by simp⟩, hdoomed⟩
  | @snoc u v is i hrun hn ih =>
    obtain ⟨hvisited, hstill⟩ := ih fun j hj => hbind j (List.mem_append_left _ hj)
    have hi : i.isBind = false := hbind i (by simp)
    refine ⟨?_, fun id hd => (hstill id hd).step hn hi⟩
    have hnext := hvisited.step hstill hn hi
    have hcount : cleanupPerTick * (is ++ [i]).countP Input.isCleanup =
        cleanupPerTick * is.countP Input.isCleanup +
          if i.isCleanup then cleanupPerTick else 0 := by
      rw [List.countP_append, List.countP_singleton, Nat.mul_add]
      split <;> simp
    rw [hcount]
    exact hnext

/-- An entry only goes when it has expired. -/
theorem removed_expired {w w' : World F} {i : Input} {id : Bytes} (hn : Next crypto w i w')
    (hsome : (w.engine.allocations.get id).isSome = true)
    (hnone : ¬ (w'.engine.allocations.get id).isSome = true) :
    ∃ a, w.engine.allocations.get id = some a ∧
      a.expired i.now i.unix w.engine.config.halfBindTtl w.engine.config.idleTtl = true := by
  have hentry := step_entry crypto w.engine i id
  rw [← step_world hn] at hentry
  generalize hx : w.engine.allocations.get id = x at hentry hsome
  generalize hx' : w'.engine.allocations.get id = x' at hentry hnone
  cases hentry with
  | same => exact absurd hsome hnone
  | removed a hexp => exact ⟨a, rfl, hexp⟩
  | bound => simp at hnone
  | media => simp at hnone

theorem reachable_queued {config : Config} {cookieKey : Bytes} {now₀ : Instant} {unix₀ : Nat}
    {w : World F}
    (h : Reachable (Steps (World.step crypto)) (.init config cookieKey now₀ unix₀) w) :
    w.engine.Queued := by
  have hstart : (World.init config cookieKey now₀ unix₀ : World F).engine.Queued :=
    ⟨List.nodup_nil, fun id => by simp [World.init, Engine.new], Nat.zero_le _⟩
  refine h.invariant (P := fun w => w.engine.Queued) hstart ?_
  rintro u i v hq ⟨-, hstep⟩
  cases hstep
  exact step_queued crypto hq i

end Turns

/-- In every state the queue of the cleanup holds every entry once and nothing else, and there are
at most as many entries as configured. From there, as many cleanups as the queue has batches of 64
remove every entry that had expired at the first of them, if no Bind comes in between; and what
goes on the way goes at an input at whose clocks it has expired. -/
theorem cleanup_queue_complete (crypto : Crypto) (config : Config) (cookieKey : Bytes)
    (now₀ : Instant) (unix₀ : Nat) (w : World F)
    (h : Reachable (Steps (World.step crypto)) (.init config cookieKey now₀ unix₀) w) :
    (w.engine.cleanupOrder.Nodup ∧
      (∀ id, id ∈ w.engine.cleanupOrder ↔ (w.engine.allocations.get id).isSome = true) ∧
      w.engine.allocations.len ≤ w.engine.config.maxAllocations) ∧
    ∀ (now : Instant) (unix : Nat) (is : List Input) (w' : World F),
      Run (Next crypto) ⟨w.engine, now, unix⟩ (.cleanup now unix :: is) w' →
      (∀ i ∈ is, i.isBind = false) →
      (w.engine.allocations.len + 63) / 64 ≤
        (Input.cleanup now unix :: is).countP Input.isCleanup →
      (∀ id a, w.engine.allocations.get id = some a →
        a.expired now unix w.engine.config.halfBindTtl w.engine.config.idleTtl = true →
        w'.engine.allocations.get id = none) ∧
      ∀ id, (w.engine.allocations.get id).isSome = true → w'.engine.allocations.get id = none →
        ∃ js i u v a, js ++ [i] <+: .cleanup now unix :: is ∧
          Run (Next crypto) ⟨w.engine, now, unix⟩ js u ∧ Next crypto u i v ∧
          u.engine.allocations.get id = some a ∧
          a.expired i.now i.unix u.engine.config.halfBindTtl u.engine.config.idleTtl = true ∧
          v.engine.allocations.get id = none := by
  have hq := reachable_queued h
  refine ⟨⟨hq.nodup, hq.keys, hq.bounded⟩, fun now unix is w' hrun hbind hcount => ⟨?_, ?_⟩⟩
  · intro id a ha hexp
    have hall : ∀ i ∈ Input.cleanup now unix :: is, i.isBind = false := by
      intro i hi
      rcases List.mem_cons.mp hi with rfl | hi
      · rfl
      · exact hbind i hi
    obtain ⟨⟨-, hgone⟩, -⟩ := run_visited
      (fun id => Doomed w.engine now unix id) hrun hall fun _ hd => hd
    have hdoomed : Doomed w.engine now unix id := by
      intro b hb
      rw [ha] at hb
      cases hb
      exact hexp
    refine hgone id ?_ hdoomed
    rw [List.take_of_length_le]
    · exact (hq.keys id).mpr (by rw [ha]; rfl)
    · have hlen : w.engine.cleanupOrder.length = w.engine.allocations.len := hq.length
      have hbatch : cleanupPerTick = 64 := rfl
      rw [hlen, hbatch]
      omega
  · intro id hsome hnone
    obtain ⟨js, i, u, v, hpre, hu, hthere, hn, hleft⟩ :=
      hrun.leaves (P := fun w => (w.engine.allocations.get id).isSome = true) hsome (by simp [hnone])
    obtain ⟨a, ha, hexp⟩ := removed_expired hn hthere hleft
    exact ⟨js, i, u, v, a, hpre, hu, hn, ha, hexp, by simpa using hleft⟩

/-- The controller alone binds, and the cleanup after the half-bind TTL removes its entry. -/
theorem cleanup_queue_complete_half_bound : ∃ w w' : World Nat, ∃ a,
    Run (Steps (World.step sampleCrypto)) sampleWorld [sampleBindAt .controller 0] w ∧
    Run (Next sampleCrypto) ⟨w.engine, secs 11, 0⟩ [.cleanup (secs 11) 0] w' ∧
    w.engine.allocations.get sampleId = some a ∧ w'.engine.allocations.get sampleId = none := by
  have h : (exec (World.step sampleCrypto) (fun _ _ => true) sampleWorld
      [sampleBindAt .controller 0]).any (fun w => w.engine.allocations.len == 1 &&
      (w.engine.allocations.get sampleId).any fun a =>
        a.expired (secs 11) 0 w.engine.config.halfBindTtl w.engine.config.idleTtl) = true := by
    decide +kernel
  simp only [Option.any_eq_true, Bool.and_eq_true, beq_iff_eq] at h
  obtain ⟨w, hw, hlen, a, ha, hexp⟩ := h
  have hrun : Run (Next sampleCrypto) ⟨w.engine, secs 11, 0⟩ [.cleanup (secs 11) 0] _ :=
    .single (next_step le_rfl le_rfl)
  refine ⟨w, _, a, .of_exec hw, hrun, ha, ?_⟩
  have hcount : (w.engine.allocations.len + 63) / 64 ≤
      [Input.cleanup (secs 11) 0].countP Input.isCleanup := by
    rw [hlen]
    decide
  exact ((cleanup_queue_complete sampleCrypto sampleConfig [2] 0 0 w ⟨_, .of_exec hw⟩).2 (secs 11) 0
    [] _ hrun (by simp) hcount).1 sampleId a ha hexp

end Starry.FastMedia
