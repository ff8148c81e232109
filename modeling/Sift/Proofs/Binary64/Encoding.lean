import Mathlib.Algebra.Order.Field.Power
import Sift.Proofs.Binary64.Integers

/-!
The 64 bits of a finite number. They are a sign, an exponent and a fraction, and the value is read
off these three. Every finite pattern of bits is that of one number, whose place is what the bits
behind the sign write.
-/

namespace Sift

namespace Encoding

def negative (bits : Nat) : Bool := decide (bits / 2 ^ 63 % 2 = 1)

def exponent (bits : Nat) : Nat := bits / 2 ^ 52 % 2 ^ 11

def fraction (bits : Nat) : Nat := bits % 2 ^ 52

/-- The last exponent is kept for infinity and for what is not a number. -/
structure Finite (bits : Nat) : Prop where
  bits_lt : bits < 2 ^ 64
  exponent_ne : exponent bits ≠ 2047

/-- A one stands in front of the fraction, unless the exponent is zero. -/
def significand (bits : Nat) : Nat :=
  if exponent bits = 0 then fraction bits else 2 ^ 52 + fraction bits

/-- The value of a finite pattern. The exponent zero scales as the exponent one does. -/
def value (bits : Nat) : ℚ :=
  (if negative bits then -1 else 1) *
    (significand bits * 2 ^ ((max (exponent bits) 1 : Nat) - 1075 : ℤ))

end Encoding

namespace Magnitude

def encoding (negative : Bool) (m : Magnitude) : Nat :=
  if negative then 2048 * blockSize + m.place else m.place

section

variable {m : Magnitude} (negative : Bool)

theorem fraction_encoding : Encoding.fraction (m.encoding negative) = m.place % 2 ^ 52 := by
  unfold Encoding.fraction encoding blockSize
  split <;> omega

theorem even_significand_iff :
    Even (Encoding.significand (m.encoding negative)) ↔ m.place % 2 = 0 := by
  unfold Encoding.significand
  rw [fraction_encoding, Nat.even_iff]
  split <;> omega

variable (h : m.place < infinityPlace)

include h

theorem negative_encoding : Encoding.negative (m.encoding negative) = negative := by
  simp only [infinityPlace, blockSize] at h
  unfold Encoding.negative encoding blockSize
  cases negative with
  | false =>
    rw [decide_eq_false_iff_not]
    simp only [Bool.false_eq_true, if_false]
    omega
  | true =>
    rw [decide_eq_true_eq]
    simp only [if_true]
    omega

theorem exponent_encoding : Encoding.exponent (m.encoding negative) = m.place / 2 ^ 52 := by
  simp only [infinityPlace, blockSize] at h
  unfold Encoding.exponent encoding blockSize
  split <;> omega

theorem finite_encoding : Encoding.Finite (m.encoding negative) where
  bits_lt := by
    simp only [infinityPlace, blockSize] at h
    unfold encoding blockSize
    split <;> omega
  exponent_ne := by
    rw [exponent_encoding negative h]
    simp only [infinityPlace, blockSize] at h
    omega

/-- The significand of a number counts the steps of its block. -/
theorem units_eq : m.units = Encoding.significand (m.encoding negative) *
    2 ^ (max (Encoding.exponent (m.encoding negative)) 1 - 1) := by
  have hblock : blockSize = 2 ^ 52 := rfl
  unfold Encoding.significand
  rw [exponent_encoding negative h, fraction_encoding, units, unitsAt, hblock]
  by_cases hlow : m.place < 2 ^ 52
  · rw [if_pos hlow, Nat.div_eq_of_lt hlow, if_pos rfl, Nat.mod_eq_of_lt hlow]
    simp
  · have hpos : 1 ≤ m.place / 2 ^ 52 := (Nat.one_le_div_iff (by decide)).mpr (by omega)
    rw [if_neg hlow, if_neg (by omega), Nat.shiftLeft_eq, Nat.max_eq_left hpos]

/-- The value that the bits write is the value of the number. -/
theorem value_encoding :
    Encoding.value (m.encoding negative) = (Binary64.signed negative m).value := by
  have hscale (k : Nat) (hk : 1 ≤ k) : (2 : ℚ) ^ ((k : ℤ) - 1075) * unitsPerOne = 2 ^ (k - 1) := by
    unfold unitsPerOne
    rw [Nat.cast_pow, Nat.cast_ofNat, ← zpow_natCast, ← zpow_natCast, ← zpow_add₀ two_ne_zero]
    congr 1
    push_cast [hk]
    ring
  have hpos : (unitsPerOne : ℚ) ≠ 0 := Nat.cast_ne_zero.mpr unitsPerOne_pos.ne'
  have hunits : (m.units : ℚ) = Encoding.significand (m.encoding negative) *
      2 ^ (max (Encoding.exponent (m.encoding negative)) 1 - 1) := by
    rw [units_eq negative h]
    push_cast
    rfl
  rw [Binary64.value, eq_div_iff hpos, Encoding.value, mul_assoc, mul_assoc,
    hscale _ (Nat.le_max_right _ _), ← hunits, negative_encoding negative h]
  cases negative <;> simp [Binary64.units]

end

/-- Every finite pattern of bits is that of a number. -/
theorem exists_eq_encoding {bits : Nat} (h : Encoding.Finite bits) :
    ∃ (negative : Bool) (m : Magnitude), m.place < infinityPlace ∧ bits = m.encoding negative := by
  have hlt := h.bits_lt
  have hne := h.exponent_ne
  unfold Encoding.exponent at hne
  have hplace : bits % 2 ^ 63 < infinityPlace := by
    simp only [infinityPlace, blockSize]
    omega
  refine ⟨decide (2 ^ 63 ≤ bits), ⟨bits % 2 ^ 63, Nat.le_of_lt hplace⟩, hplace, ?_⟩
  unfold encoding blockSize
  simp only [decide_eq_true_eq]
  split <;> omega

end Magnitude

/-- No two numbers have the same bits. -/
theorem Binary64.eq_of_bits? {x y : Binary64} {bits : Nat} (hx : x.bits? = some bits)
    (hy : y.bits? = some bits) : x = y := by
  cases x with
  | nan => cases hx
  | signed negative m =>
    cases y with
    | nan => cases hy
    | signed negative' m' =>
      have hle := m.place_le
      have hle' := m'.place_le
      have heq : (if negative then 2048 * blockSize + m.place else m.place) =
          if negative' then 2048 * blockSize + m'.place else m'.place :=
        Option.some.inj (hx.trans hy.symm)
      unfold infinityPlace blockSize at hle hle'
      unfold blockSize at heq
      obtain ⟨rfl, hplace⟩ : negative = negative' ∧ m.place = m'.place := by
        cases negative <;> cases negative' <;> simp at heq ⊢ <;> omega
      rw [Magnitude.eq_of_place_eq hplace]

end Sift
