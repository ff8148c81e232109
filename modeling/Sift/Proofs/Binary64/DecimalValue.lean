import Mathlib.Tactic.FieldSimp
import Sift.Proofs.Binary64.NearestEncoding

/-!
The value of a decimal number, digit by digit, and what it is read as: a finite number exactly where
the value is small enough, and then the number that is nearest to the value and keeps the sign.
-/

namespace Sift

namespace Decimal

def digitValue (c : Char) : Nat := c.toNat - '0'.toNat

/-- Each digit in front of the point counts ten times as much as the next one. -/
def wholeValue : List Char → ℚ
  | [] => 0
  | c :: rest => digitValue c * 10 ^ rest.length + wholeValue rest

/-- The digits behind the point count tenths, and what is behind them tenths of those. -/
def fractionValue : List Char → ℚ
  | [] => 0
  | c :: rest => (digitValue c + fractionValue rest) / 10

def magnitude (d : Decimal) : ℚ := wholeValue d.whole + fractionValue d.fraction

def value (d : Decimal) : ℚ := withSign d.negative d.magnitude

theorem digitsValue_append (digits more : List Char) :
    digitsValue (digits ++ more) = digitsValue digits * 10 ^ more.length + digitsValue more := by
  rw [digitsValue_eq, digitsValue_eq, digitsValue_eq, Nat.ofDigitChars_append,
    Nat.ofDigitChars_eq_ofDigitChars_zero (l := more), Nat.mul_comm]

theorem digitsValue_singleton (c : Char) : digitsValue [c] = digitValue c := by
  simp [digitsValue, digitValue]

theorem digitsValue_cons (c : Char) (rest : List Char) :
    digitsValue (c :: rest) = digitValue c * 10 ^ rest.length + digitsValue rest := by
  rw [← digitsValue_singleton, ← digitsValue_append, List.singleton_append]

theorem wholeValue_eq (digits : List Char) : wholeValue digits = digitsValue digits := by
  induction digits with
  | nil => simp [wholeValue, digitsValue]
  | cons c rest ih =>
    rw [wholeValue, ih, digitsValue_cons]
    push_cast
    rfl

theorem fractionValue_eq (digits : List Char) :
    fractionValue digits = digitsValue digits / 10 ^ digits.length := by
  induction digits with
  | nil => simp [fractionValue, digitsValue]
  | cons c rest ih =>
    rw [fractionValue, ih, digitsValue_cons, List.length_cons, pow_succ]
    push_cast
    field_simp

/-- The value is that of all the digits, divided by a power of ten for those behind the point. -/
theorem magnitude_eq (d : Decimal) :
    d.magnitude = (digitsValue (d.whole ++ d.fraction) : ℚ) / (10 ^ d.fraction.length : Nat) := by
  rw [magnitude, wholeValue_eq, fractionValue_eq, digitsValue_append]
  push_cast
  field_simp

theorem magnitude_nonneg (d : Decimal) : 0 ≤ d.magnitude := by
  rw [magnitude_eq]
  exact div_nonneg (Nat.cast_nonneg _) (Nat.cast_nonneg _)

theorem abs_value (d : Decimal) : |d.value| = d.magnitude := by
  rw [value, abs_withSign, abs_of_nonneg d.magnitude_nonneg]

end Decimal

namespace Magnitude

/-- The midpoint behind the largest finite number. -/
theorem last_midpoint :
    valueAt (infinityPlace - 1) + valueAt infinityPlace = 2 * (2 ^ 1024 - 2 ^ 970) := by
  have hpos : (unitsPerOne : ℚ) ≠ 0 := Nat.cast_ne_zero.mpr unitsPerOne_pos.ne'
  have hlast : unitsAt (infinityPlace - 1) = (2 * blockSize - 1) * 2 ^ 2045 :=
    unitsAt_block 2045 (2 * blockSize - 1) (by decide) (by decide)
  have hinfinity : unitsAt infinityPlace = 2 * blockSize * 2 ^ 2045 :=
    unitsAt_block 2045 (2 * blockSize) (by decide) (by decide)
  have hscale : (2 : ℚ) ^ 2045 = 2 * 2 ^ 970 * unitsPerOne := by
    rw [unitsPerOne, Nat.cast_pow, Nat.cast_ofNat, ← pow_succ', ← pow_add]
  have htop : (2 : ℚ) ^ 1024 = 2 ^ 54 * 2 ^ 970 := by rw [← pow_add]
  rw [valueAt, valueAt, hlast, hinfinity, ← add_div, div_eq_iff hpos, Nat.cast_mul, Nat.cast_mul,
    Nat.cast_pow, Nat.cast_ofNat, hscale, htop]
  generalize (2 : ℚ) ^ 970 = step, (unitsPerOne : ℚ) = scale
  norm_num [blockSize]
  ring

theorem nearest_place_eq (n d : Nat) :
    (nearest n d).place = min (nearestPlace (n * unitsPerOne) d) infinityPlace :=
  nearest_place n d

/-- A finite magnitude that a quotient is rounded to is at the place that it rounds to. -/
theorem roundsTo_nearest {n d : Nat} (hd : 0 < d) (h : (nearest n d).place < infinityPlace) :
    RoundsTo (nearest n d).place (n * unitsPerOne) d := by
  have hplace : (nearest n d).place = nearestPlace (n * unitsPerOne) d := by
    have := nearest_place_eq n d
    omega
  rw [hplace]
  exact roundsTo_nearestPlace _ d hd

/-- A quotient is rounded to a finite magnitude exactly if it lies below the last midpoint. -/
theorem nearest_place_lt_iff (n : Nat) {d : Nat} (hd : 0 < d) :
    (nearest n d).place < infinityPlace ↔ (n : ℚ) / d < 2 ^ 1024 - 2 ^ 970 := by
  have hrounds : RoundsTo (nearestPlace (n * unitsPerOne) d) (n * unitsPerOne) d :=
    roundsTo_nearestPlace _ d hd
  have hdouble : (n : ℚ) / d < 2 ^ 1024 - 2 ^ 970 ↔
      2 * ((n : ℚ) / d) < valueAt (infinityPlace - 1) + valueAt infinityPlace := by
    rw [last_midpoint, mul_lt_mul_iff_right₀ two_pos]
  rw [nearest_place_eq, hdouble]
  generalize nearestPlace (n * unitsPerOne) d = p at hrounds
  constructor
  · intro hlt
    by_cases hlast : p = infinityPlace - 1
    · -- the last place in front of infinity is odd
      subst hlast
      exact (hrounds.midpoints_of_odd hd (by decide)).2
    · have hp : valueAt p < valueAt (infinityPlace - 1) := valueAt_strictMono (by omega)
      have hnext : valueAt (p + 1) < valueAt infinityPlace := valueAt_strictMono (by omega)
      have hupper := (hrounds.midpoints hd).2
      linarith
  · intro hlt
    by_contra hnot
    have hp : valueAt infinityPlace ≤ valueAt p := valueAt_strictMono.monotone (by omega)
    have hbefore : valueAt (infinityPlace - 1) ≤ valueAt (p - 1) :=
      valueAt_strictMono.monotone (by omega)
    have hlower := (hrounds.midpoints hd).1
    linarith

end Magnitude

namespace Decimal

open Magnitude

def rounded (d : Decimal) : Magnitude :=
  nearest (digitsValue (d.whole ++ d.fraction)) (10 ^ d.fraction.length)

theorem toBinary64_eq (d : Decimal) : d.toBinary64 = .signed d.negative d.rounded := rfl

theorem isFinite_toBinary64_iff_place (d : Decimal) :
    d.toBinary64.isFinite = true ↔ d.rounded.place < infinityPlace := by
  rw [toBinary64_eq, Binary64.isFinite, decide_eq_true_iff]

theorem isFinite_toBinary64_iff (d : Decimal) :
    d.toBinary64.isFinite = true ↔ |d.value| < 2 ^ 1024 - 2 ^ 970 := by
  have hten : 0 < 10 ^ d.fraction.length := Nat.pow_pos (by decide)
  rw [abs_value, magnitude_eq, ← nearest_place_lt_iff _ hten, isFinite_toBinary64_iff_place,
    rounded]

/-- A decimal number that is read as a finite one is read as the one nearest to its value. -/
theorem nearest_toBinary64 {d : Decimal} (h : d.toBinary64.isFinite = true) :
    ∃ bits, d.toBinary64.bits? = some bits ∧ Encoding.negative bits = d.negative ∧
      Encoding.Nearest bits d.value := by
  have hten : 0 < 10 ^ d.fraction.length := Nat.pow_pos (by decide)
  have hfinite := d.isFinite_toBinary64_iff_place.mp h
  have hnearest := nearest_encoding hfinite hten (roundsTo_nearest hten hfinite) d.negative
  rw [← magnitude_eq] at hnearest
  exact ⟨_, rfl, negative_encoding d.negative hfinite, hnearest⟩

end Decimal

end Sift
