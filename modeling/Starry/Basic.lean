import Mathlib

/-!
# Values shared by the server's modules

Bytes, clocks and addresses as the Rust standard library has them. An `Instant` counts
nanoseconds, so differences saturate at zero as `duration_since` does.
-/

namespace Starry

abbrev Bytes := List UInt8

abbrev Instant := Nat

def secs (n : Nat) : Nat := n * 1000000000

def millis (n : Nat) : Nat := n * 1000000

def u32Max : Nat := 2 ^ 32 - 1

def u64Max : Nat := 2 ^ 64 - 1

/-- `u64::saturating_add` and `u64::saturating_mul`. -/
def satAdd (x y : Nat) : Nat := min (x + y) u64Max

def satMul (x y : Nat) : Nat := min (x * y) u64Max

/-! ## Fallible code -/

theorem bind_eq_ok {ε α β : Type} {x : Except ε α} {f : α → Except ε β} {b : β} :
    (x >>= f) = .ok b ↔ ∃ a, x = .ok a ∧ f a = .ok b := by
  cases x <;> simp [bind, Except.bind]

/-! ## Text -/

def toAsciiLowercase (s : String) : String := String.ofList (s.toList.map Char.toLower)

def asBytes (s : String) : Bytes := s.toUTF8.data.toList

theorem asBytes_inj {a b : String} : asBytes a = asBytes b ↔ a = b := by
  constructor
  · intro h
    apply String.toByteArray_inj.mp
    exact ByteArray.ext (Array.toList_inj.mp h)
  · rintro rfl
    rfl

def eqIgnoreAsciiCase (a b : String) : Bool := toAsciiLowercase a == toAsciiLowercase b

/-- `char::is_whitespace`: the Unicode property `White_Space`. -/
def isWhiteSpace (c : Char) : Bool :=
  let n := c.toNat
  (9 ≤ n && n ≤ 13) || n == 0x20 || n == 0x85 || n == 0xA0 || n == 0x1680 ||
    (0x2000 ≤ n && n ≤ 0x200A) || n == 0x2028 || n == 0x2029 || n == 0x202F || n == 0x205F ||
    n == 0x3000

/-- `str::trim` -/
def trim (s : String) : String :=
  String.ofList ((s.toList.dropWhile isWhiteSpace).reverse.dropWhile isWhiteSpace).reverse

/-- `str::parse` to an unsigned integer below `limit`. -/
def parseUnsigned (limit : Nat) (text : String) : Option Nat :=
  let digits := match text.toList with
    | '+' :: rest => rest
    | other => other
  if digits.isEmpty || !digits.all Char.isDigit then none
  else
    let n := Nat.ofDigitChars 10 digits 0
    if n < limit then some n else none

theorem parseUnsigned_toString {limit n : Nat} (h : n < limit) :
    parseUnsigned limit (toString n) = some n := by
  have hlist : (toString n).toList = Nat.toDigits 10 n := by
    rw [Nat.toString_eq_repr, Nat.toList_repr]
  have hdigit : ∀ c ∈ Nat.toDigits 10 n, c.isDigit = true := fun c hc =>
    Nat.isDigit_of_mem_toDigits (by decide) (by decide) hc
  unfold parseUnsigned
  rw [hlist]
  cases hdigits : Nat.toDigits 10 n with
  | nil => exact absurd hdigits Nat.toDigits_ne_nil
  | cons c rest =>
    have hplus : c ≠ '+' := by
      rintro rfl
      exact absurd (hdigit '+' (by simp [hdigits])) (by decide)
    have hall : (c :: rest).all Char.isDigit = true := by
      rw [← hdigits]
      exact List.all_eq_true.mpr hdigit
    have hvalue : Nat.ofDigitChars 10 (c :: rest) 0 = n := by
      rw [← hdigits]
      exact Nat.ofDigitChars_ten_toDigits
    split
    · rename_i heq
      cases heq
      exact absurd rfl hplus
    · simp only [hall, hvalue]
      simp [h]

/-! ## Addresses -/

inductive IpAddr
  | v4 (addr : BitVec 32)
  | v6 (addr : BitVec 128)
deriving DecidableEq, Repr

inductive SocketAddr
  | v4 (ip : BitVec 32) (port : Nat)
  | v6 (ip : BitVec 128) (port flowinfo scopeId : Nat)
deriving DecidableEq, Repr

def SocketAddr.ip : SocketAddr → IpAddr
  | .v4 ip _ => .v4 ip
  | .v6 ip _ _ _ => .v6 ip

def SocketAddr.port : SocketAddr → Nat
  | .v4 _ port => port
  | .v6 _ port _ _ => port

/-- `SocketAddr::new`: flow information and scope are zero. -/
def SocketAddr.new : IpAddr → Nat → SocketAddr
  | .v4 ip, port => .v4 ip port
  | .v6 ip, port => .v6 ip port 0 0

/-- `Ipv6Addr::to_ipv4_mapped`: the addresses `::ffff:a.b.c.d`. -/
def toIpv4Mapped (ip : BitVec 128) : Option (BitVec 32) :=
  if ip >>> 32 = 0xffff then some (ip.setWidth 32) else none

end Starry
