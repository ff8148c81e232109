import Mathlib.Data.Rat.Cast.Order
import Sift.Proofs.Binary64.Printing

/-!
Integers as floating-point numbers. Rounding keeps order, and a number stays itself. So an integer
and a number never change sides by rounding the integer, though they may come to be equal. Integers
up to two to the power 53 are numbers themselves.
-/

namespace Sift

namespace Magnitude

/-- The smaller one of two quotients does not round to the larger place. -/
theorem RoundsTo.mono {p q n n' d : Nat} (hd : 0 < d) (hp : RoundsTo p n d) (hq : RoundsTo q n' d)
    (h : n ≤ n') : p ≤ q := by
  by_contra hnot
  have hbelow : unitsAt q ≤ unitsAt (p - 1) := unitsAt_strictMono.monotone (by omega)
  have habove : unitsAt (q + 1) ≤ unitsAt p := unitsAt_strictMono.monotone (by omega)
  have hends : (unitsAt q + unitsAt (q + 1)) * d ≤ (unitsAt (p - 1) + unitsAt p) * d :=
    Nat.mul_le_mul_right d (by omega)
  have hlower := hp.le.1
  have hupper := hq.le.2
  -- the quotients can only be the same, and no quotient rounds to two places
  obtain rfl : n = n' := by omega
  have := hp.unique hd hq
  omega

theorem nearestPlace_mono {n n' d : Nat} (hd : 0 < d) (h : n ≤ n') :
    nearestPlace n d ≤ nearestPlace n' d :=
  (roundsTo_nearestPlace n d hd).mono hd (roundsTo_nearestPlace n' d hd) h

/-- The value at a place rounds to the place itself. -/
theorem nearestPlace_unitsAt (place : Nat) {d : Nat} (hd : 0 < d) :
    nearestPlace (unitsAt place * d) d = place := by
  apply (roundsTo_nearestPlace _ d hd).unique hd
  by_cases hzero : place = 0
  · subst hzero
    simp [RoundsTo, unitsAt, blockSize]
  · exact roundsTo_self (Nat.pos_of_ne_zero hzero) d hd

def ofNat (k : Nat) : Magnitude := nearest k 1

def unitsPerOne : Nat := 2 ^ 1074

theorem unitsPerOne_pos : 0 < unitsPerOne := by
  unfold unitsPerOne
  generalize 1074 = n
  exact Nat.two_pow_pos n

theorem two_pow_mul_two_pow {i : Nat} (hi : i ≤ 1074) : 2 ^ i * 2 ^ (1074 - i) = unitsPerOne := by
  unfold unitsPerOne
  generalize 1074 = n at hi ⊢
  rw [← Nat.pow_add, Nat.add_sub_cancel' hi]

def unitsOf (k : Nat) : Nat := k * unitsPerOne

theorem ofNat_place (k : Nat) : (ofNat k).place = min (nearestPlace (unitsOf k) 1) infinityPlace :=
  nearest_place k 1

theorem units_mono {m m' : Magnitude} (h : m.place ≤ m'.place) : m.units ≤ m'.units :=
  unitsAt_strictMono.monotone h

theorem ofNat_mono {k k' : Nat} (h : k ≤ k') : (ofNat k).units ≤ (ofNat k').units := by
  apply units_mono
  have hplace : nearestPlace (unitsOf k) 1 ≤ nearestPlace (unitsOf k') 1 :=
    nearestPlace_mono Nat.one_pos (Nat.mul_le_mul_right _ h)
  rw [ofNat_place, ofNat_place]
  omega

/-- A whole number below a magnitude is not rounded to one above it. -/
theorem units_ofNat_le {k : Nat} {m : Magnitude} (h : unitsOf k ≤ m.units) :
    (ofNat k).units ≤ m.units := by
  apply units_mono
  have hself : nearestPlace m.units 1 = m.place := by
    have hunits := nearestPlace_unitsAt m.place Nat.one_pos
    rwa [Nat.mul_one] at hunits
  have hplace := nearestPlace_mono Nat.one_pos h
  rw [ofNat_place]
  omega

/-- A whole number above a magnitude is not rounded to one below it. -/
theorem le_units_ofNat {k : Nat} {m : Magnitude} (h : m.units ≤ unitsOf k) :
    m.units ≤ (ofNat k).units := by
  apply units_mono
  have hself : nearestPlace m.units 1 = m.place := by
    have hunits := nearestPlace_unitsAt m.place Nat.one_pos
    rwa [Nat.mul_one] at hunits
  have hplace := nearestPlace_mono Nat.one_pos h
  have hlast := m.place_le
  rw [ofNat_place]
  omega

/-- A whole number has a place of its own if it takes the form of a step of a block. -/
theorem exists_units_eq_of_step {k i : Nat} (hi : i ≤ 1074) (hstep : k * 2 ^ i ≤ 2 * blockSize)
    (hfirst : i = 1074 ∨ blockSize ≤ k * 2 ^ i) : ∃ m : Magnitude, m.units = unitsOf k := by
  have hplace : (1074 - i) * blockSize + k * 2 ^ i ≤ infinityPlace := by
    simp only [infinityPlace, blockSize] at hstep ⊢
    omega
  have hunits := unitsAt_block (1074 - i) (k * 2 ^ i) hstep (by omega)
  rw [Nat.mul_assoc, two_pow_mul_two_pow hi] at hunits
  exact ⟨⟨_, hplace⟩, by rw [units, hunits, unitsOf]⟩

/-- Whole numbers up to two to the power 53 have places of their own. -/
theorem exists_units_eq {k : Nat} (h : k ≤ 2 ^ 53) : ∃ m : Magnitude, m.units = unitsOf k := by
  by_cases hzero : k = 0
  · apply exists_units_eq_of_step (Nat.le_refl 1074)
    · rw [hzero, Nat.zero_mul]
      exact Nat.zero_le _
    · exact .inl rfl
  · obtain ⟨digits, hdigits⟩ : ∃ digits, digits = Nat.log2 k := ⟨_, rfl⟩
    have hlower : 2 ^ digits ≤ k := hdigits ▸ Nat.log2_self_le hzero
    have hupper : k < 2 ^ (digits + 1) := hdigits ▸ Nat.lt_log2_self
    apply exists_units_eq_of_step (show 52 - digits ≤ 1074 by omega)
    · by_cases hlarge : digits ≤ 52
      · calc k * 2 ^ (52 - digits) ≤ 2 ^ (digits + 1) * 2 ^ (52 - digits) :=
              Nat.mul_le_mul_right _ (Nat.le_of_lt hupper)
          _ = 2 ^ 53 := by
              rw [← Nat.pow_add]
              congr 1
              omega
          _ = 2 * blockSize := rfl
      · rw [Nat.sub_eq_zero_of_le (Nat.le_of_not_le hlarge), Nat.pow_zero, Nat.mul_one]
        exact h
    · right
      calc blockSize = 2 ^ 52 := rfl
        _ ≤ 2 ^ (digits + (52 - digits)) := Nat.pow_le_pow_right Nat.two_pos (by omega)
        _ = 2 ^ digits * 2 ^ (52 - digits) := Nat.pow_add 2 digits (52 - digits)
        _ ≤ k * 2 ^ (52 - digits) := Nat.mul_le_mul_right _ hlower

theorem units_ofNat {k : Nat} (h : k ≤ 2 ^ 53) : (ofNat k).units = unitsOf k := by
  obtain ⟨m, hm⟩ := exists_units_eq h
  rw [← hm]
  exact Nat.le_antisymm (units_ofNat_le (Nat.le_of_eq hm.symm))
    (le_units_ofNat (Nat.le_of_eq hm))

end Magnitude

namespace Binary64

open Magnitude

def units : Binary64 → Int
  | .nan => 0
  | .signed negative m => if negative then -(m.units : Int) else m.units

def value (x : Binary64) : ℚ := x.units / unitsPerOne

def intUnits (i : Int) : Int := i * unitsPerOne

theorem intUnits_eq (i : Int) :
    intUnits i = if i < 0 then -(unitsOf i.natAbs : Int) else unitsOf i.natAbs := by
  unfold intUnits unitsOf
  split
  · rename_i h
    rw [Nat.cast_mul, ← neg_mul, Int.ofNat_natAbs_of_nonpos (Int.le_of_lt h), neg_neg]
  · rename_i h
    rw [Nat.cast_mul, Int.natAbs_of_nonneg (Int.not_lt.mp h)]

theorem units_ofInt (i : Int) :
    (ofInt i).units =
      if i < 0 then -((ofNat i.natAbs).units : Int) else (ofNat i.natAbs).units := by
  simp [ofInt, ofRatio, units, ofNat]

/-- An integer that is not above a number is not rounded to one above it. -/
theorem units_ofInt_le {i : Int} {negative : Bool} {m : Magnitude}
    (h : intUnits i ≤ (signed negative m).units) :
    (ofInt i).units ≤ (signed negative m).units := by
  have hbelow := @units_ofNat_le i.natAbs m
  have habove := @le_units_ofNat i.natAbs m
  rw [intUnits_eq] at h
  rw [units_ofInt]
  by_cases hi : i < 0
  · rw [if_pos hi] at h ⊢
    cases negative with
    | false =>
      simp only [units, Bool.false_eq_true, if_false]
      omega
    | true =>
      simp only [units, if_true] at h ⊢
      omega
  · rw [if_neg hi] at h ⊢
    cases negative with
    | false =>
      simp only [units, Bool.false_eq_true, if_false] at h ⊢
      omega
    | true =>
      simp only [units, if_true] at h ⊢
      omega

theorem units_ofInt_neg (i : Int) : (ofInt (-i)).units = -(ofInt i).units := by
  have hzero : (ofNat 0).units = 0 := by rw [units_ofNat (Nat.zero_le _), unitsOf, Nat.zero_mul]
  rw [units_ofInt, units_ofInt, Int.natAbs_neg]
  rcases Int.lt_trichotomy i 0 with hneg | rfl | hpos
  · rw [if_neg (show ¬ -i < 0 by omega), if_pos hneg, neg_neg]
  · simp [hzero]
  · rw [if_pos (show -i < 0 by omega), if_neg (show ¬ i < 0 by omega)]

/-- An integer that is not below a number is not rounded to one below it. -/
theorem le_units_ofInt {i : Int} {negative : Bool} {m : Magnitude}
    (h : (signed negative m).units ≤ intUnits i) :
    (signed negative m).units ≤ (ofInt i).units := by
  have hflip : (signed (!negative) m).units = -(signed negative m).units := by
    cases negative <;> simp [units]
  have hopposite : intUnits (-i) ≤ (signed (!negative) m).units := by
    rw [hflip, intUnits, neg_mul, ← intUnits]
    omega
  have hle := units_ofInt_le hopposite
  rw [units_ofInt_neg, hflip] at hle
  omega

/-- The larger one of two integers is not rounded to the smaller number. -/
theorem units_ofInt_mono {i i' : Int} (h : i ≤ i') : (ofInt i).units ≤ (ofInt i').units := by
  rw [units_ofInt, units_ofInt]
  by_cases hi : i < 0
  · by_cases hi' : i' < 0
    · have hmono : (ofNat i'.natAbs).units ≤ (ofNat i.natAbs).units := ofNat_mono (by omega)
      rw [if_pos hi, if_pos hi']
      omega
    · rw [if_pos hi, if_neg hi']
      omega
  · have hmono : (ofNat i.natAbs).units ≤ (ofNat i'.natAbs).units := ofNat_mono (by omega)
    rw [if_neg hi, if_neg (by omega)]
    omega

/-- Integers up to two to the power 53 are numbers. -/
theorem units_ofInt_of_natAbs_le {i : Int} (h : i.natAbs ≤ 2 ^ 53) :
    (ofInt i).units = intUnits i := by
  rw [units_ofInt, intUnits_eq, units_ofNat h]

theorem value_le_iff (x : Binary64) (i : Int) : x.value ≤ i ↔ x.units ≤ intUnits i := by
  have hpos : (0 : ℚ) < unitsPerOne := Nat.cast_pos.mpr unitsPerOne_pos
  rw [value, div_le_iff₀ hpos, intUnits]
  exact_mod_cast Iff.rfl

theorem le_value_iff (x : Binary64) (i : Int) : i ≤ x.value ↔ intUnits i ≤ x.units := by
  have hpos : (0 : ℚ) < unitsPerOne := Nat.cast_pos.mpr unitsPerOne_pos
  rw [value, le_div_iff₀ hpos, intUnits]
  exact_mod_cast Iff.rfl

theorem value_lt_iff (x : Binary64) (i : Int) : x.value < i ↔ x.units < intUnits i := by
  rw [← not_le, le_value_iff, not_le]

theorem lt_value_iff (x : Binary64) (i : Int) : i < x.value ↔ intUnits i < x.units := by
  rw [← not_le, value_le_iff, not_le]

theorem value_eq_iff (x : Binary64) (i : Int) : x.value = i ↔ x.units = intUnits i := by
  rw [le_antisymm_iff, value_le_iff, le_value_iff, ← Int.le_antisymm_iff]

theorem value_ofInt {i : Int} (h : i.natAbs ≤ 2 ^ 53) : (ofInt i).value = i :=
  (value_eq_iff (ofInt i) i).mpr (units_ofInt_of_natAbs_le h)

section

variable {i : Int} {negative : Bool} {m : Magnitude}

/-- An integer that is rounded to more than a number is greater than it. -/
theorem value_lt_of_units_lt (h : (signed negative m).units < (ofInt i).units) :
    (signed negative m).value < i := by
  rw [value_lt_iff, ← not_le]
  intro hle
  exact absurd (units_ofInt_le hle) (not_le.mpr h)

/-- An integer that is rounded to less than a number is less than it. -/
theorem lt_value_of_units_lt (h : (ofInt i).units < (signed negative m).units) :
    i < (signed negative m).value := by
  rw [lt_value_iff, ← not_le]
  intro hle
  exact absurd (le_units_ofInt hle) (not_le.mpr h)

/-- An integer that is a number is not changed by rounding. -/
theorem units_ofInt_of_value_eq (h : (signed negative m).value = i) :
    (ofInt i).units = (signed negative m).units := by
  have hunits := (value_eq_iff _ i).mp h
  exact Int.le_antisymm (units_ofInt_le (Int.le_of_eq hunits.symm))
    (le_units_ofInt (Int.le_of_eq hunits))

end

end Binary64

end Sift
