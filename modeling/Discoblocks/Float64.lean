import Mathlib.Algebra.Order.Field.Rat
import Mathlib.Algebra.Order.Ring.Cast

/-!
# Binary64 arithmetic

The monitor's threshold test is computed in Go's `float64`: `AsApproximateFloat64` of the claim's
capacity, `float64` of the trigger percentage, a product, a quotient by one hundred, a difference
and a comparison. Each operation is IEEE 754 binary64: exact on its arguments, then rounded to the
nearest value of the format, ties to the even significand, with overflow to an infinity.

A value is NaN, an infinity, or a finite dyadic `(-1) ^ neg * m * 2 ^ e`. Rounding yields the
format's own form: `m < 2 ^ 53` and `2 ^ 52 ≤ m` for normal values, the exponent `-1074` and
`m < 2 ^ 52` for subnormal ones, and `finite false 0 0` for zero. The sign of a zero is not kept:
the code divides only by one hundred, and no comparison reads it. The operations read a finite
argument as the exact value it denotes, whatever its form. All arithmetic is on naturals and
integers, so a fixed computation evaluates by `decide`.

Against the rationals: a comparison of two finite values is the comparison of the values they
denote (`lt_finite`), and `float64(n)` is exact for `n < 2 ^ 53` (`ofNat_exact`), so the trigger
percentage reaches the threshold test unrounded.
-/

namespace Discoblocks

/-- A Go `float64`. -/
inductive F64 where
  | nan
  | inf (neg : Bool)
  | finite (neg : Bool) (m : Nat) (e : Int)
  deriving DecidableEq, Repr

namespace F64

/-- The number of binary digits of `n`. -/
def bitLength (n : Nat) : Nat := go n n
where
  /-- Halve `n` until it is zero; `fuel ≥ n` suffices. -/
  go : Nat → Nat → Nat
    | 0, _ => 0
    | fuel + 1, n => if n = 0 then 0 else go fuel (n / 2) + 1

/-- The fraction `n / d` divided by `2 ^ t`, as a pair of naturals. -/
def scale (n d : Nat) (t : Int) : Nat × Nat :=
  if 0 ≤ t then (n, d * 2 ^ t.toNat) else (n * 2 ^ (-t).toNat, d)

/-- The fraction `p.1 / p.2` rounded to the nearest natural, ties to even. -/
def roundHalfEven (p : Nat × Nat) : Nat :=
  if p.2 < 2 * (p.1 % p.2) ∨ (2 * (p.1 % p.2) = p.2 ∧ p.1 / p.2 % 2 = 1) then p.1 / p.2 + 1
  else p.1 / p.2

/-- The exponent of the leading binary digit of `n / d`: `⌊log₂ (n / d)⌋` for `n ≠ 0`. -/
def leadingExponent (n d : Nat) : Int :=
  let e : Int := (bitLength n : Int) - bitLength d
  if (scale n d e).1 < (scale n d e).2 then e - 1 else e

/-- The value `(-1) ^ neg * m * 2 ^ u` of a rounded significand `m ≤ 2 ^ 53`: a significand
that rounding carried to `2 ^ 53` moves to the next exponent, and an exponent above the largest
finite value's overflows. -/
def pack (neg : Bool) (m : Nat) (u : Int) : F64 :=
  if m = 0 then .finite false 0 0
  else if m = 2 ^ 53 then (if 971 < u + 1 then .inf neg else .finite neg (2 ^ 52) (u + 1))
  else if 971 < u then .inf neg else .finite neg m u

/-- `(-1) ^ neg * n / d * 2 ^ s` rounded to binary64: 53 significant bits, and no bit below
`2 ^ -1074`. -/
def roundFraction (neg : Bool) (n d : Nat) (s : Int) : F64 :=
  let u := max (leadingExponent n d + s - 52) (-1074)
  pack neg (roundHalfEven (scale n d (u - s))) u

/-- The binary64 value nearest a rational. -/
def round (q : ℚ) : F64 := roundFraction (q < 0) q.num.natAbs q.den 0

/-- `float64(n)`. -/
def ofNat (n : Nat) : F64 := roundFraction false n 1 0

def zero : F64 := .finite false 0 0

def signed (neg : Bool) (n : Nat) : Int := if neg then -n else n

/-- The rational a finite value denotes. -/
def value (neg : Bool) (m : Nat) (e : Int) : ℚ := signed neg m * 2 ^ e

/-- Two finite values as integer multiples of `2 ^ min e e'`. -/
def align (a : Bool) (m : Nat) (e : Int) (b : Bool) (m' : Nat) (e' : Int) : Int × Int :=
  (signed a (m * 2 ^ (e - min e e').toNat), signed b (m' * 2 ^ (e' - min e e').toNat))

def mul : F64 → F64 → F64
  | .nan, _ | _, .nan => .nan
  | .inf a, .inf b => .inf (a != b)
  | .inf a, .finite b m _ | .finite b m _, .inf a => if m = 0 then .nan else .inf (a != b)
  | .finite a m e, .finite b m' e' => roundFraction (a != b) (m * m') 1 (e + e')

def div : F64 → F64 → F64
  | .nan, _ | _, .nan | .inf _, .inf _ => .nan
  | .inf a, .finite b _ _ => .inf (a != b)
  | .finite _ _ _, .inf _ => zero
  | .finite a m e, .finite b m' e' =>
    if m' = 0 then (if m = 0 then .nan else .inf a)
    else roundFraction (a != b) m m' (e - e')

def sub : F64 → F64 → F64
  | .nan, _ | _, .nan => .nan
  | .inf a, .inf b => if a = b then .nan else .inf a
  | .inf a, .finite _ _ _ => .inf a
  | .finite _ _ _, .inf b => .inf (!b)
  | .finite a m e, .finite b m' e' =>
    let p := align a m e b m' e'
    roundFraction (p.1 - p.2 < 0) (p.1 - p.2).natAbs 1 (min e e')

/-- `x < y`: false whenever either is NaN. -/
def lt : F64 → F64 → Bool
  | .nan, _ | _, .nan => false
  | .inf a, .inf b => a && !b
  | .inf a, .finite _ _ _ => a
  | .finite _ _ _, .inf b => !b
  | .finite a m e, .finite b m' e' => (align a m e b m' e').1 < (align a m e b m' e').2

example : roundFraction false 7 10 0 = .finite false 6305039478318694 (-53) := by decide
example : round 100 = .finite false (100 * 2 ^ 46) (-46) := by decide
example : roundFraction false 1 1 1024 = .inf false := by decide

@[simp] theorem sub_nan (x : F64) : x.sub .nan = .nan := by cases x <;> rfl
@[simp] theorem lt_nan (x : F64) : x.lt .nan = false := by cases x <;> rfl
@[simp] theorem nan_lt (x : F64) : nan.lt x = false := by cases x <;> rfl

theorem signed_mul (neg : Bool) (m k : Nat) : signed neg (m * k) = signed neg m * k := by
  cases neg <;> simp [signed]

/-- A finite value as an integer multiple of `2 ^ μ`, for `μ ≤ e`. -/
theorem value_eq_shift (neg : Bool) (m : Nat) {e μ : Int} (h : μ ≤ e) :
    value neg m e = (signed neg (m * 2 ^ (e - μ).toNat) : ℚ) * 2 ^ μ := by
  rw [signed_mul, value]
  push_cast
  rw [mul_assoc, ← zpow_natCast, ← zpow_add₀ two_ne_zero, Int.toNat_of_nonneg (by omega)]
  congr 2
  omega

/-- Comparing two finite values is exact. -/
theorem lt_finite (a b : Bool) (m m' : Nat) (e e' : Int) :
    (finite a m e).lt (finite b m' e') = decide (value a m e < value b m' e') := by
  simp only [lt, align, decide_eq_decide]
  rw [value_eq_shift a m (min_le_left e e'), value_eq_shift b m' (min_le_right e e'),
    mul_lt_mul_right (zpow_pos two_pos _)]
  exact Int.cast_lt.symm

/-- Enough fuel computes the bit length as `Nat.log2`. -/
theorem bitLength_go {fuel n : Nat} (h : n ≤ fuel) :
    bitLength.go fuel n = if n = 0 then 0 else n.log2 + 1 := by
  induction fuel generalizing n with
  | zero => simp [bitLength.go, Nat.le_zero.1 h]
  | succ f ih =>
    unfold bitLength.go
    by_cases hn : n = 0
    · simp [hn]
    rw [if_neg hn, if_neg hn, ih (by omega)]
    by_cases h2 : n / 2 = 0
    · obtain rfl : n = 1 := by omega
      simp [Nat.log2.eq_1 1]
    · rw [if_neg h2, Nat.log2.eq_1 n, if_pos (by omega)]

theorem bitLength_eq {n : Nat} (hn : n ≠ 0) : bitLength n = n.log2 + 1 := by
  rw [bitLength, bitLength_go le_rfl, if_neg hn]

theorem scale_of_nonpos (n d : Nat) {t : Int} (h : t ≤ 0) :
    scale n d t = (n * 2 ^ (-t).toNat, d) := by
  unfold scale
  split
  · obtain rfl : t = 0 := by omega
    simp
  · rfl

@[simp] theorem roundHalfEven_one (x : Nat) : roundHalfEven (x, 1) = x := by
  simp [roundHalfEven, Nat.mod_one]

/-- The leading exponent of a nonzero natural is its binary logarithm. -/
theorem leadingExponent_one {n : Nat} (hn : n ≠ 0) : leadingExponent n 1 = n.log2 := by
  have he : (bitLength n : Int) - (bitLength 1 : Nat) = n.log2 := by
    rw [bitLength_eq hn, show bitLength 1 = 1 from rfl]; push_cast; omega
  have hs : scale n 1 n.log2 = (n, 2 ^ n.log2) := by simp [scale]
  simp only [leadingExponent, he, hs, not_lt.2 (Nat.log2_self_le hn), if_false]

/-- `float64(n)` is exact below `2 ^ 53`. -/
theorem ofNat_exact {n : Nat} (hn : n < 2 ^ 53) :
    ∃ m e, ofNat n = finite false m e ∧ value false m e = n := by
  by_cases h0 : n = 0
  · subst h0; exact ⟨0, 0, by decide, by simp [value, signed]⟩
  have hL : n.log2 < 53 := (Nat.log2_lt h0).2 hn
  refine ⟨n * 2 ^ (52 - n.log2), n.log2 - 52, ?_, ?_⟩
  · have hu : max ((n.log2 : Int) + 0 - 52) (-1074) = n.log2 - 52 := by omega
    simp only [ofNat, roundFraction, leadingExponent_one h0, hu, sub_zero]
    rw [scale_of_nonpos _ _ (by omega), roundHalfEven_one,
      show (-((n.log2 : Int) - 52)).toNat = 52 - n.log2 by omega]
    have hpos : n * 2 ^ (52 - n.log2) ≠ 0 := Nat.mul_ne_zero h0 (pow_pos two_pos _).ne'
    have hlt : n * 2 ^ (52 - n.log2) < 2 ^ 53 :=
      calc n * 2 ^ (52 - n.log2) < 2 ^ (n.log2 + 1) * 2 ^ (52 - n.log2) :=
            Nat.mul_lt_mul_of_pos_right Nat.lt_log2_self (pow_pos two_pos _)
        _ = 2 ^ 53 := by rw [← pow_add]; congr 1; omega
    rw [pack, if_neg hpos, if_neg hlt.ne, if_neg (by omega)]
  · simp only [value, signed, if_false, Bool.false_eq_true]
    push_cast
    rw [mul_assoc, ← zpow_natCast, ← zpow_add₀ two_ne_zero,
      show ((52 - n.log2 : Nat) : Int) + (n.log2 - 52) = 0 by omega, zpow_zero, mul_one]

end F64

end Discoblocks
