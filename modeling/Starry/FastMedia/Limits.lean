import Starry.FastMedia.Packet

/-!
# FastMedia relay: replay windows and limits

The replay window is specified against the sequence numbers it has accepted. The token buckets
count in `f64`, whose arithmetic is a parameter here: nothing below depends on how it rounds.
-/

namespace Starry.FastMedia

/-! ## Replay window -/

structure ReplayWindow where
  maximum : Nat
  bitmap : BitVec 128
deriving DecidableEq, Repr

def ReplayWindow.default : ReplayWindow := ⟨0, 0⟩

def ReplayWindow.accept (w : ReplayWindow) (sequence : Nat) : ReplayWindow × Bool :=
  if sequence = 0 then (w, false)
  else if sequence > w.maximum then
    let shift := sequence - w.maximum
    (⟨sequence, if shift ≥ 128 then 1 else w.bitmap <<< shift ||| 1⟩, true)
  else
    let distance := w.maximum - sequence
    if distance ≥ 128 then (w, false)
    else
      let bit : BitVec 128 := 1 <<< distance
      if w.bitmap &&& bit ≠ 0 then (w, false)
      else ({ w with bitmap := w.bitmap ||| bit }, true)

/-- The window has accepted exactly the numbers of `seen`: below its maximum it remembers the last
128 places. -/
structure ReplayWindow.Tracks (w : ReplayWindow) (seen : List Nat) : Prop where
  bound : ∀ s ∈ seen, 0 < s ∧ s ≤ w.maximum
  bits : ∀ d < 128, w.bitmap.getLsbD d = true ↔ d < w.maximum ∧ w.maximum - d ∈ seen

theorem tracks_default : ReplayWindow.default.Tracks [] := by
  refine ⟨by simp, fun d hd => ?_⟩
  simp [ReplayWindow.default]

theorem and_bit_ne_zero {b : BitVec 128} {d : Nat} (hd : d < 128) :
    b &&& 1#128 <<< d ≠ 0 ↔ b.getLsbD d = true := by
  rw [← BitVec.twoPow_eq, BitVec.and_twoPow]
  split
  · rename_i hbit
    simp only [hbit, iff_true]
    intro h
    have := congrArg (BitVec.getLsbD · d) h
    simp [hd] at this
  · rename_i hbit
    simp [hbit]

/-- The window after a number above its maximum. -/
theorem tracks_advance {w : ReplayWindow} {seen : List Nat} (h : w.Tracks seen) {s : Nat}
    (hs : w.maximum < s) :
    ReplayWindow.Tracks
      ⟨s, if s - w.maximum ≥ 128 then 1 else w.bitmap <<< (s - w.maximum) ||| 1⟩ (s :: seen) := by
  have hold : ∀ d, 0 < d → d < s → s - d ∈ s :: seen → s - w.maximum ≤ d := by
    intro d h0 hd hmem
    rcases List.mem_cons.mp hmem with he | hmem
    · omega
    · have := h.bound _ hmem
      omega
  refine ⟨?_, fun d hd => ?_⟩
  · intro x hx
    rcases List.mem_cons.mp hx with rfl | hx
    · exact ⟨by omega, le_rfl⟩
    · have := h.bound x hx
      exact ⟨this.1, this.2.trans hs.le⟩
  · dsimp only
    rcases Nat.eq_zero_or_pos d with rfl | h0
    · have : 0 < s := by omega
      split <;> simp [this]
    · split
      · rename_i hshift
        have h1 : (1 : BitVec 128).getLsbD d = false := by
          simp [BitVec.getLsbD_one]
          omega
        simp only [h1, Bool.false_eq_true, false_iff, not_and]
        intro hds hmem
        have := hold d h0 hds hmem
        omega
      · rename_i hshift
        have h1 : (1 : BitVec 128).getLsbD d = false := by
          simp [BitVec.getLsbD_one]
          omega
        rw [BitVec.getLsbD_or, h1, Bool.or_false, BitVec.getLsbD_shiftLeft]
        by_cases hge : s - w.maximum ≤ d
        · have hbits := h.bits (d - (s - w.maximum)) (by omega)
          simp only [hd, decide_true, Bool.true_and, show ¬ d < s - w.maximum by omega, decide_false,
            Bool.not_false, hbits]
          constructor
          · rintro ⟨hlt, hmem⟩
            rw [show w.maximum - (d - (s - w.maximum)) = s - d by omega] at hmem
            exact ⟨by omega, List.mem_cons_of_mem _ hmem⟩
          · rintro ⟨hlt, hmem⟩
            refine ⟨by omega, ?_⟩
            rw [show w.maximum - (d - (s - w.maximum)) = s - d by omega]
            rcases List.mem_cons.mp hmem with he | hmem
            · omega
            · exact hmem
        · simp only [show d < s - w.maximum by omega, decide_true, Bool.not_true, Bool.and_false,
            Bool.false_and, Bool.false_eq_true, false_iff, not_and]
          intro hds hmem
          exact absurd (hold d h0 hds hmem) hge

/-- The window after a number that fills a place below its maximum. -/
theorem tracks_fill {w : ReplayWindow} {seen : List Nat} (h : w.Tracks seen) {s : Nat} (h0 : 0 < s)
    (hs : s ≤ w.maximum) (hd : w.maximum - s < 128) :
    ReplayWindow.Tracks ⟨w.maximum, w.bitmap ||| 1#128 <<< (w.maximum - s)⟩ (s :: seen) := by
  refine ⟨?_, fun d hd' => ?_⟩
  · intro x hx
    rcases List.mem_cons.mp hx with rfl | hx
    · exact ⟨h0, hs⟩
    · exact h.bound x hx
  · rw [← BitVec.twoPow_eq, BitVec.getLsbD_or, BitVec.getLsbD_twoPow, Bool.or_eq_true,
      h.bits d hd', List.mem_cons]
    simp only [hd, decide_true, Bool.true_and, decide_eq_true_eq]
    constructor
    · rintro (⟨hlt, hmem⟩ | rfl)
      · exact ⟨hlt, .inr hmem⟩
      · exact ⟨by omega, .inl (by omega)⟩
    · rintro ⟨hlt, he | hmem⟩
      · right
        omega
      · exact .inl ⟨hlt, hmem⟩

/-- A number is accepted exactly if it is not zero, was not accepted before and is not 128 or more
places behind. -/
theorem accept_spec {w : ReplayWindow} {seen : List Nat} (h : w.Tracks seen) (sequence : Nat) :
    ((w.accept sequence).2 = true ↔ 0 < sequence ∧ sequence ∉ seen ∧ w.maximum < sequence + 128) ∧
      (w.accept sequence).1.Tracks
        (if (w.accept sequence).2 then sequence :: seen else seen) := by
  unfold ReplayWindow.accept
  split
  · rename_i h0
    simp [h0, h]
  · rename_i h0
    split
    · rename_i hs
      refine ⟨?_, tracks_advance h hs⟩
      simp only [true_iff]
      refine ⟨by omega, fun hmem => ?_, by omega⟩
      have := h.bound _ hmem
      omega
    · rename_i hs
      dsimp only
      split
      · rename_i hd
        refine ⟨?_, h⟩
        simp only [Bool.false_eq_true, false_iff]
        omega
      · rename_i hd
        have hbits := h.bits (w.maximum - sequence) (by omega)
        rw [show w.maximum - (w.maximum - sequence) = sequence by omega] at hbits
        split
        · rename_i hbit
          have hmem := (hbits.mp ((and_bit_ne_zero (by omega)).mp hbit)).2
          simp [hmem, h]
        · rename_i hbit
          refine ⟨?_, tracks_fill h (by omega) (by omega) (by omega)⟩
          simp only [true_iff]
          refine ⟨by omega, fun hmem => hbit ?_, by omega⟩
          exact (and_bit_ne_zero (by omega)).mpr (hbits.mpr ⟨by omega, hmem⟩)

/-! ## Rate limits -/

/-- The operations of `f64` that the buckets use. -/
class F64 (F : Type) where
  ofU64 : Nat → F
  /-- `Duration::as_secs_f64`, of a number of nanoseconds. -/
  asSecs : Nat → F
  add : F → F → F
  sub : F → F → F
  mul : F → F → F
  min : F → F → F
  lt : F → F → Bool

variable {F : Type} [F64 F]

structure TokenBucket (F : Type) where
  rate : Nat
  capacity : Nat
  available : F
  updated : Instant

def TokenBucket.new (rate capacity : Nat) (now : Instant) : TokenBucket F :=
  { rate := max rate 1, capacity := max capacity 1, available := F64.ofU64 (max capacity 1),
    updated := now }

def TokenBucket.allow (b : TokenBucket F) (amount : Nat) (now : Instant) : TokenBucket F × Bool :=
  let elapsed : F := F64.asSecs (now - b.updated)
  let available :=
    F64.min (F64.add b.available (F64.mul elapsed (F64.ofU64 b.rate))) (F64.ofU64 b.capacity)
  if F64.lt available (F64.ofU64 amount) then ({ b with available, updated := now }, false)
  else ({ b with available := F64.sub available (F64.ofU64 amount), updated := now }, true)

structure RoleLimit (F : Type) where
  bytes : TokenBucket F

def RoleLimit.new (sourceKbps : Nat) (now : Instant) : RoleLimit F :=
  let wireKbps := satAdd (satMul sourceKbps 145) 99 / 100
  let bytesPerSecond := satAdd (satMul wireKbps 1000) 7 / 8
  let burst := max (256 * 1024) (satMul bytesPerSecond 50 / 1000)
  ⟨.new bytesPerSecond burst now⟩

def RoleLimit.allow (l : RoleLimit F) (bytes : Nat) (now : Instant) : RoleLimit F × Bool :=
  let r := l.bytes.allow bytes now
  (⟨r.1⟩, r.2)

structure TrafficLimit (F : Type) where
  packets : TokenBucket F
  bytes : TokenBucket F
  lastSeen : Instant

def TrafficLimit.new (packetsPerSecond bytesPerSecond : Nat) (now : Instant) : TrafficLimit F :=
  { packets := .new packetsPerSecond (max packetsPerSecond 1) now
    bytes := .new bytesPerSecond (max bytesPerSecond 1) now
    lastSeen := now }

def TrafficLimit.allow (l : TrafficLimit F) (bytes : Nat) (now : Instant) : TrafficLimit F × Bool :=
  let p := l.packets.allow 1 now
  if p.2 then
    let b := l.bytes.allow bytes now
    ({ packets := p.1, bytes := b.1, lastSeen := now }, b.2)
  else ({ l with packets := p.1, lastSeen := now }, false)

structure RebindWindow where
  started : Instant
  count : Nat
deriving DecidableEq, Repr

def RebindWindow.new (now : Instant) : RebindWindow := ⟨now, 0⟩

def RebindWindow.allow (r : RebindWindow) (now : Instant) : RebindWindow × Bool :=
  let r := if now - r.started ≥ secs 60 then ⟨now, 0⟩ else r
  if r.count ≥ rebindsPerMinute then (r, false) else ({ r with count := r.count + 1 }, true)

end Starry.FastMedia
