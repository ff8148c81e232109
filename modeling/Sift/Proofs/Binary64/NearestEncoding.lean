import Mathlib.Algebra.Order.AbsoluteValue.Basic
import Mathlib.Tactic.NormNum
import Sift.Proofs.Binary64.Encoding

/-!
The nearest number. What a quotient rounds to is, as a pattern of bits, the finite number nearest to
it, and of two that are equally near the one with the even significand. Under one sign there is just
one such number.
-/

namespace Sift

def withSign (negative : Bool) (x : ℚ) : ℚ := if negative then -x else x

theorem abs_withSign (negative : Bool) (x : ℚ) : |withSign negative x| = |x| := by
  cases negative <;> simp [withSign]

theorem withSign_withSign (negative : Bool) (x : ℚ) :
    withSign negative (withSign negative x) = x := by
  cases negative <;> simp [withSign]

/-- Of two numbers the smaller one is nearer to those below the midpoint. -/
theorem abs_sub_lt_abs_sub_iff {a b x : ℚ} (h : a < b) : |a - x| < |b - x| ↔ 2 * x < a + b := by
  have hsquares : (b - x) ^ 2 - (a - x) ^ 2 = (b - a) * (a + b - 2 * x) := by ring
  have hpos : 0 < b - a := sub_pos.mpr h
  rw [← sq_lt_sq, ← sub_pos, hsquares, mul_pos_iff_of_pos_left hpos, sub_pos]

theorem abs_sub_le_abs_sub_iff {a b x : ℚ} (h : a < b) : |a - x| ≤ |b - x| ↔ 2 * x ≤ a + b := by
  have hsquares : (b - x) ^ 2 - (a - x) ^ 2 = (b - a) * (a + b - 2 * x) := by ring
  have hpos : 0 < b - a := sub_pos.mpr h
  rw [← sq_le_sq, ← sub_nonneg, hsquares, mul_nonneg_iff_of_pos_left hpos, sub_nonneg]

namespace Encoding

/-- No finite number is nearer to a rational one, and if one of another value is as near, then the
significand of this one is even. -/
structure Nearest (bits : Nat) (x : ℚ) : Prop where
  finite : Finite bits
  distance_le : ∀ other, Finite other → |value bits - x| ≤ |value other - x|
  even : ∀ other, Finite other → value other ≠ value bits →
    |value other - x| = |value bits - x| → Even (significand bits)

end Encoding

namespace Magnitude

def valueAt (place : Nat) : ℚ := unitsAt place / unitsPerOne

def value (m : Magnitude) : ℚ := valueAt m.place

theorem valueAt_strictMono : StrictMono valueAt := by
  intro p q h
  have hpos : (0 : ℚ) < unitsPerOne := Nat.cast_pos.mpr unitsPerOne_pos
  rw [valueAt, valueAt, div_lt_div_iff_of_pos_right hpos, Nat.cast_lt]
  exact unitsAt_strictMono h

theorem valueAt_nonneg (place : Nat) : 0 ≤ valueAt place :=
  div_nonneg (Nat.cast_nonneg _) (Nat.cast_nonneg _)

theorem valueAt_zero : valueAt 0 = 0 := by
  rw [valueAt, show unitsAt 0 = 0 from rfl, Nat.cast_zero, zero_div]

section

variable {m : Magnitude} (h : m.place < infinityPlace)

include h

theorem value_encoding_eq (negative : Bool) :
    Encoding.value (m.encoding negative) = withSign negative m.value := by
  rw [value_encoding negative h, Binary64.value, withSign, value, valueAt]
  generalize (unitsPerOne : ℚ) = scale
  cases negative <;> simp [Binary64.units, units, neg_div]

/-- A sign that both have makes no difference to how far two numbers are apart. -/
theorem distance_encoding (negative : Bool) (x : ℚ) :
    |Encoding.value (m.encoding negative) - withSign negative x| = |m.value - x| := by
  rw [value_encoding_eq h]
  cases negative with
  | false => rfl
  | true => rw [withSign, withSign, if_pos rfl, if_pos rfl, neg_sub_neg, abs_sub_comm]

/-- Under different signs both count. -/
theorem distance_encoding_of_ne {negative negative' : Bool} (hne : negative' ≠ negative) {x : ℚ}
    (hx : 0 ≤ x) :
    |Encoding.value (m.encoding negative') - withSign negative x| = m.value + x := by
  have hopposite : withSign negative x = withSign negative' (-x) := by
    cases negative <;> cases negative' <;> simp [withSign] at hne ⊢
  have hvalue : 0 ≤ m.value := valueAt_nonneg m.place
  rw [hopposite, distance_encoding h, sub_neg_eq_add, abs_of_nonneg (add_nonneg hvalue hx)]

/-- So under another sign a number is no nearer. -/
theorem distance_le_encoding (negative negative' : Bool) {x : ℚ} (hx : 0 ≤ x) :
    |m.value - x| ≤ |Encoding.value (m.encoding negative') - withSign negative x| := by
  by_cases hsame : negative' = negative
  · rw [hsame, distance_encoding h]
  · have hvalue : 0 ≤ m.value := valueAt_nonneg m.place
    rw [distance_encoding_of_ne h hsame hx, abs_le]
    constructor <;> linarith

end

section

variable {p n d : Nat}

theorem midpoint_le_iff (hd : 0 < d) (q : Nat) :
    (unitsAt p + unitsAt q) * d ≤ 2 * (n * unitsPerOne) ↔
      valueAt p + valueAt q ≤ 2 * (n / d) := by
  have hpos : (0 : ℚ) < unitsPerOne := Nat.cast_pos.mpr unitsPerOne_pos
  have hd' : (0 : ℚ) < d := Nat.cast_pos.mpr hd
  rw [valueAt, valueAt, ← add_div, mul_div_assoc', div_le_div_iff₀ hpos hd', ← Nat.cast_le (α := ℚ)]
  push_cast
  rw [mul_assoc]

theorem le_midpoint_iff (hd : 0 < d) (q : Nat) :
    2 * (n * unitsPerOne) ≤ (unitsAt p + unitsAt q) * d ↔
      2 * (n / d) ≤ valueAt p + valueAt q := by
  have hpos : (0 : ℚ) < unitsPerOne := Nat.cast_pos.mpr unitsPerOne_pos
  have hd' : (0 : ℚ) < d := Nat.cast_pos.mpr hd
  rw [valueAt, valueAt, ← add_div, mul_div_assoc', div_le_div_iff₀ hd' hpos, ← Nat.cast_le (α := ℚ)]
  push_cast
  rw [mul_assoc]

/-- A quotient lies between the midpoints around the place that it rounds to. -/
theorem RoundsTo.midpoints (hd : 0 < d) (h : RoundsTo p (n * unitsPerOne) d) :
    valueAt (p - 1) + valueAt p ≤ 2 * (n / d) ∧ 2 * (n / d) ≤ valueAt p + valueAt (p + 1) := by
  rw [← midpoint_le_iff hd, ← le_midpoint_iff hd]
  exact h.le

/-- A midpoint does not round to an odd place. -/
theorem RoundsTo.midpoints_of_odd (hd : 0 < d) (h : RoundsTo p (n * unitsPerOne) d)
    (hodd : p % 2 ≠ 0) :
    valueAt (p - 1) + valueAt p < 2 * (n / d) ∧ 2 * (n / d) < valueAt p + valueAt (p + 1) := by
  rw [RoundsTo, if_neg hodd] at h
  rw [← not_le, ← not_le, ← midpoint_le_iff hd, ← le_midpoint_iff hd, not_le, not_le]
  exact h

/-- No place is nearer to a quotient than the one that it rounds to. -/
theorem RoundsTo.distance_le (hd : 0 < d) (h : RoundsTo p (n * unitsPerOne) d) (q : Nat) :
    |valueAt p - n / d| ≤ |valueAt q - n / d| := by
  obtain ⟨hlower, hupper⟩ := h.midpoints hd
  rcases Nat.lt_trichotomy p q with hlt | rfl | hgt
  · have hnext : valueAt (p + 1) ≤ valueAt q := valueAt_strictMono.monotone hlt
    rw [abs_sub_le_abs_sub_iff (valueAt_strictMono hlt)]
    linarith
  · exact le_refl _
  · have hbefore : valueAt q ≤ valueAt (p - 1) := valueAt_strictMono.monotone (by omega)
    rw [← not_lt, abs_sub_lt_abs_sub_iff (valueAt_strictMono hgt)]
    linarith

/-- Only an even place leaves another one as near. -/
theorem RoundsTo.even (hd : 0 < d) (h : RoundsTo p (n * unitsPerOne) d) {q : Nat} (hne : q ≠ p)
    (heq : |valueAt q - n / d| = |valueAt p - n / d|) : p % 2 = 0 := by
  by_contra hodd
  obtain ⟨hlower, hupper⟩ := h.midpoints_of_odd hd hodd
  rcases Nat.lt_or_gt_of_ne hne with hlt | hgt
  · have hbefore : valueAt q ≤ valueAt (p - 1) := valueAt_strictMono.monotone (by omega)
    have hle := (abs_sub_le_abs_sub_iff (valueAt_strictMono hlt)).mp (le_of_eq heq)
    linarith
  · have hnext : valueAt (p + 1) ≤ valueAt q := valueAt_strictMono.monotone hgt
    have hle := mt (abs_sub_lt_abs_sub_iff (valueAt_strictMono hgt)).mpr (not_lt.mpr (le_of_eq heq))
    linarith

end

/-- What a quotient rounds to is nearest to it, and under a sign to what the sign makes of it. -/
theorem nearest_encoding {m : Magnitude} (hm : m.place < infinityPlace) {n d : Nat} (hd : 0 < d)
    (h : RoundsTo m.place (n * unitsPerOne) d) (negative : Bool) :
    Encoding.Nearest (m.encoding negative) (withSign negative (n / d)) := by
  have hx : (0 : ℚ) ≤ n / d := div_nonneg (Nat.cast_nonneg n) (Nat.cast_nonneg d)
  refine ⟨finite_encoding negative hm, ?_, ?_⟩
  · intro other hother
    obtain ⟨negative', m', hm', rfl⟩ := exists_eq_encoding hother
    rw [distance_encoding hm]
    exact (h.distance_le hd m'.place).trans (distance_le_encoding hm' negative _ hx)
  · intro other hother hne heq
    obtain ⟨negative', m', hm', rfl⟩ := exists_eq_encoding hother
    rw [distance_encoding hm] at heq
    have hle := distance_le_encoding hm' negative negative' hx
    rw [heq] at hle
    rw [even_significand_iff]
    by_cases hplace : m'.place = m.place
    · -- the same place under another sign is as near only if it is zero, and then of the same value
      exfalso
      obtain rfl := eq_of_place_eq hplace
      have hsign : negative' ≠ negative := by
        rintro rfl
        exact hne rfl
      have hzero := h.distance_le hd 0
      rw [valueAt_zero, zero_sub, abs_neg, abs_of_nonneg hx] at hzero
      rw [distance_encoding_of_ne hm hsign hx] at heq
      have hvalue : m'.value = 0 :=
        le_antisymm (by linarith [heq.trans_le hzero]) (valueAt_nonneg m'.place)
      apply hne
      rw [value_encoding_eq hm, value_encoding_eq hm, hvalue]
      simp [withSign]
    · exact h.even hd hplace (le_antisymm hle (h.distance_le hd m'.place))

/-- Between two places with even numbers there is another one, and it is nearer to what lies in the
middle. -/
theorem exists_nearer {m m' : Magnitude} (heven : m.place % 2 = 0) (heven' : m'.place % 2 = 0)
    (hlt : m.place < m'.place) {x : ℚ} (heq : |m.value - x| = |m'.value - x|) :
    ∃ k : Magnitude, k.place < m'.place ∧ |k.value - x| < |m.value - x| := by
  have hlast := m'.place_le
  refine ⟨⟨m.place + 1, by omega⟩, show m.place + 1 < m'.place by omega, ?_⟩
  have hbelow : m.value < valueAt (m.place + 1) := valueAt_strictMono (by omega)
  have habove : valueAt (m.place + 1) < m'.value := valueAt_strictMono (by omega)
  have hmiddle :=
    mt (abs_sub_lt_abs_sub_iff (hbelow.trans habove)).mpr (not_lt.mpr (le_of_eq heq.symm))
  rw [← not_le]
  intro hle
  have hfar := (abs_sub_le_abs_sub_iff hbelow).mp hle
  linarith

end Magnitude

namespace Encoding

open Magnitude

/-- Of two numbers that are nearest and have the same sign, neither has the smaller place. -/
theorem Nearest.not_place_lt {negative : Bool} {m m' : Magnitude} {x : ℚ}
    (hm : m.place < infinityPlace) (hm' : m'.place < infinityPlace)
    (h : Nearest (m.encoding negative) x) (h' : Nearest (m'.encoding negative) x) :
    ¬ m.place < m'.place := by
  intro hlt
  have hvalue : value (m.encoding negative) ≠ value (m'.encoding negative) := by
    rw [value_encoding_eq hm, value_encoding_eq hm']
    intro heq
    have hsame := congrArg (withSign negative) heq
    rw [withSign_withSign, withSign_withSign] at hsame
    exact absurd hsame (ne_of_lt (valueAt_strictMono hlt))
  have heq : |value (m.encoding negative) - x| = |value (m'.encoding negative) - x| :=
    le_antisymm (h.distance_le _ h'.finite) (h'.distance_le _ h.finite)
  have heven := (even_significand_iff negative).mp (h.even _ h'.finite hvalue.symm heq.symm)
  have heven' := (even_significand_iff negative).mp (h'.even _ h.finite hvalue heq)
  obtain ⟨x, rfl⟩ : ∃ y, x = withSign negative y := ⟨_, (withSign_withSign negative x).symm⟩
  rw [distance_encoding hm, distance_encoding hm'] at heq
  obtain ⟨k, hk, hnearer⟩ := exists_nearer heven heven' hlt heq
  have hle := h.distance_le _ (finite_encoding negative (hk.trans hm'))
  rw [distance_encoding hm, distance_encoding (hk.trans hm')] at hle
  linarith

/-- Under one sign a rational number has only one number that is nearest to it. -/
theorem Nearest.unique {bits bits' : Nat} {x : ℚ} (h : Nearest bits x) (h' : Nearest bits' x)
    (hsign : negative bits = negative bits') : bits = bits' := by
  obtain ⟨sign, m, hm, rfl⟩ := exists_eq_encoding h.finite
  obtain ⟨sign', m', hm', rfl⟩ := exists_eq_encoding h'.finite
  rw [negative_encoding sign hm, negative_encoding sign' hm'] at hsign
  obtain rfl := hsign
  have hle := Nearest.not_place_lt hm hm' h h'
  have hge := Nearest.not_place_lt hm' hm h' h
  obtain rfl : m = m' := eq_of_place_eq (by omega)
  rfl

end Encoding

end Sift
