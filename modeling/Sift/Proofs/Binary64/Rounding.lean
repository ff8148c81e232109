import Mathlib.Order.Monotone.Basic
import Mathlib.Tactic.Linarith
import Mathlib.Tactic.Ring
import Sift.Binary64.Basic

/-!
Rounding to nearest. Around the value at each place lies an interval that ends at the midpoints to
the two neighbours; the places with an even number own the ends of theirs. The intervals cover every
quotient once, and `nearest` finds the place whose interval the quotient lies in.
-/

namespace Sift

namespace Magnitude

theorem blockSize_pos : 0 < blockSize := by decide

theorem eq_of_place_eq {m m' : Magnitude} (h : m.place = m'.place) : m = m' := by
  cases m
  cases m'
  cases h
  rfl

/-- A block after the first begins a power of two, and its steps are as wide as that power says. -/
theorem unitsAt_block (block step : Nat) (hstep : step ≤ 2 * blockSize)
    (hfirst : block = 0 ∨ blockSize ≤ step) :
    unitsAt (block * blockSize + step) = step * 2 ^ block := by
  unfold unitsAt
  have hpos := blockSize_pos
  by_cases hlow : step < blockSize
  · have hzero : block = 0 := by omega
    simp [hzero, hlow]
  · have hnot : ¬ block * blockSize + step < blockSize := by
      have := Nat.zero_le (block * blockSize)
      omega
    rw [if_neg hnot, Nat.shiftLeft_eq]
    rcases Nat.lt_or_eq_of_le hstep with hlt | heq
    · -- the place lies inside the block
      have hplace : block * blockSize + step = (step - blockSize) + (block + 1) * blockSize := by
        rw [Nat.add_mul]
        omega
      have hmod : (block * blockSize + step) % blockSize = step - blockSize := by
        rw [hplace, Nat.add_mul_mod_self_right]
        exact Nat.mod_eq_of_lt (by omega)
      have hdiv : (block * blockSize + step) / blockSize = block + 1 := by
        rw [hplace, Nat.add_mul_div_right _ _ hpos, Nat.div_eq_of_lt (by omega)]
        omega
      rw [hmod, hdiv, Nat.add_sub_cancel, Nat.add_sub_cancel' (by omega)]
    · -- the place is the first of the block after it
      have hplace : block * blockSize + step = (block + 2) * blockSize := by
        rw [Nat.add_mul, heq]
      have hmod : (block * blockSize + step) % blockSize = 0 := by
        rw [hplace]
        exact Nat.mul_mod_left _ _
      have hdiv : (block * blockSize + step) / blockSize = block + 2 := by
        rw [hplace]
        exact Nat.mul_div_cancel _ hpos
      rw [hmod, hdiv, heq]
      simp only [Nat.add_zero, Nat.add_succ_sub_one, Nat.pow_succ]
      ring

/-- Every place lies in a block. -/
theorem exists_block (place : Nat) : ∃ block step, place = block * blockSize + step ∧
    step < 2 * blockSize ∧ (block = 0 ∨ blockSize ≤ step) := by
  have hpos := blockSize_pos
  by_cases hlow : place < blockSize
  · exact ⟨0, place, by omega, by omega, .inl rfl⟩
  · have hdiv := Nat.div_add_mod place blockSize
    have hmod := Nat.mod_lt place hpos
    have hone : 1 ≤ place / blockSize := (Nat.one_le_div_iff hpos).mpr (by omega)
    refine ⟨place / blockSize - 1, blockSize + place % blockSize, ?_, by omega, .inr (by omega)⟩
    rw [Nat.sub_mul, Nat.mul_comm, Nat.one_mul]
    have : blockSize * 1 ≤ blockSize * (place / blockSize) := Nat.mul_le_mul_left _ hone
    omega

theorem unitsAt_succ_of_block (block step : Nat) (hstep : step < 2 * blockSize)
    (hfirst : block = 0 ∨ blockSize ≤ step) :
    unitsAt (block * blockSize + step + 1) = (step + 1) * 2 ^ block := by
  rw [Nat.add_assoc]
  exact unitsAt_block block (step + 1) hstep (by omega)

theorem unitsAt_lt_succ (place : Nat) : unitsAt place < unitsAt (place + 1) := by
  obtain ⟨block, step, rfl, hstep, hfirst⟩ := exists_block place
  rw [unitsAt_succ_of_block block step hstep hfirst,
    unitsAt_block block step (Nat.le_of_lt hstep) hfirst]
  exact Nat.mul_lt_mul_of_pos_right (Nat.lt_succ_self step) (Nat.two_pow_pos block)

/-- Places are in the order of their values. -/
theorem unitsAt_strictMono : StrictMono unitsAt := strictMono_nat_of_lt_succ unitsAt_lt_succ

theorem unitsAt_inj {p q : Nat} : unitsAt p = unitsAt q ↔ p = q :=
  unitsAt_strictMono.injective.eq_iff

/-- The quotient `n / d`, in units, lies between the midpoints to the neighbours of a place. -/
def RoundsTo (place n d : Nat) : Prop :=
  if place % 2 = 0 then
    (unitsAt (place - 1) + unitsAt place) * d ≤ 2 * n ∧
      2 * n ≤ (unitsAt place + unitsAt (place + 1)) * d
  else
    (unitsAt (place - 1) + unitsAt place) * d < 2 * n ∧
      2 * n < (unitsAt place + unitsAt (place + 1)) * d

theorem RoundsTo.le {place n d : Nat} (h : RoundsTo place n d) :
    (unitsAt (place - 1) + unitsAt place) * d ≤ 2 * n ∧
      2 * n ≤ (unitsAt place + unitsAt (place + 1)) * d := by
  unfold RoundsTo at h
  split at h
  · exact h
  · exact ⟨Nat.le_of_lt h.1, Nat.le_of_lt h.2⟩

/-- Whether a quotient rounds to a place depends on its value alone. -/
theorem RoundsTo.of_mul_eq {place n d n' d' : Nat} (hd : 0 < d) (hd' : 0 < d')
    (heq : n * d' = n' * d) (h : RoundsTo place n d) : RoundsTo place n' d' := by
  -- both sides of a bound are multiplied by the other denominator
  have hle (u : Nat) : u * d' ≤ 2 * n' ↔ u * d ≤ 2 * n := by
    constructor
    · intro hu
      refine Nat.le_of_mul_le_mul_right ?_ hd'
      calc u * d * d' = u * d' * d := by ring
        _ ≤ 2 * n' * d := Nat.mul_le_mul_right d hu
        _ = 2 * n * d' := by rw [Nat.mul_assoc, ← heq]; ring
    · intro hu
      refine Nat.le_of_mul_le_mul_right ?_ hd
      calc u * d' * d = u * d * d' := by ring
        _ ≤ 2 * n * d' := Nat.mul_le_mul_right d' hu
        _ = 2 * n' * d := by rw [Nat.mul_assoc, heq]; ring
  have hge (u : Nat) : 2 * n' ≤ u * d' ↔ 2 * n ≤ u * d := by
    constructor
    · intro hu
      refine Nat.le_of_mul_le_mul_right ?_ hd'
      calc 2 * n * d' = 2 * n' * d := by rw [Nat.mul_assoc, heq]; ring
        _ ≤ u * d' * d := Nat.mul_le_mul_right d hu
        _ = u * d * d' := by ring
    · intro hu
      refine Nat.le_of_mul_le_mul_right ?_ hd
      calc 2 * n' * d = 2 * n * d' := by rw [Nat.mul_assoc, ← heq]; ring
        _ ≤ u * d * d' := Nat.mul_le_mul_right d' hu
        _ = u * d' * d := by ring
  unfold RoundsTo at h ⊢
  simpa only [hle, hge, ← Nat.not_le] using h

/-- No quotient rounds to two places. -/
theorem RoundsTo.unique {p q n d : Nat} (hd : 0 < d) (hp : RoundsTo p n d)
    (hq : RoundsTo q n d) : p = q := by
  -- the upper end of the lower interval and the lower end of the upper one can only coincide
  have hlt {p q : Nat} (hp : RoundsTo p n d) (hq : RoundsTo q n d) : ¬ p < q := by
    intro h
    have hmono : unitsAt p ≤ unitsAt (q - 1) := unitsAt_strictMono.monotone (by omega)
    have hmono' : unitsAt (p + 1) ≤ unitsAt q := unitsAt_strictMono.monotone (by omega)
    have hends : (unitsAt p + unitsAt (p + 1)) * d ≤ (unitsAt (q - 1) + unitsAt q) * d :=
      Nat.mul_le_mul_right d (by omega)
    have hple := hp.le.2
    have hqle := hq.le.1
    have hsame : (unitsAt p + unitsAt (p + 1)) * d = (unitsAt (q - 1) + unitsAt q) * d := by omega
    have hunits : unitsAt p = unitsAt (q - 1) := by
      have := Nat.eq_of_mul_eq_mul_right hd hsame
      omega
    have hnext : p = q - 1 := unitsAt_inj.mp hunits
    unfold RoundsTo at hp hq
    split at hp <;> split at hq <;> omega
  have hpq := hlt hp hq
  have hqp := hlt hq hp
  omega

/-- The rounded quotient is at most half of one away, and an even one where it is just half. -/
theorem roundHalfEven_spec (n d : Nat) (hd : 0 < d) :
    2 * roundHalfEven n d * d ≤ 2 * n + d ∧ 2 * n ≤ (2 * roundHalfEven n d + 1) * d ∧
      (roundHalfEven n d % 2 = 1 → 2 * roundHalfEven n d * d < 2 * n + d ∧
        2 * n < (2 * roundHalfEven n d + 1) * d) := by
  have hdiv := Nat.div_add_mod n d
  have hmod := Nat.mod_lt n hd
  have hcomm : 2 * (n / d) * d = 2 * (d * (n / d)) := by ring
  have hnext : 2 * (n / d + 1) * d = 2 * (d * (n / d)) + 2 * d := by ring
  unfold roundHalfEven
  dsimp only
  split
  · rename_i h
    rw [Nat.add_mul, Nat.one_mul, hcomm]
    refine ⟨by omega, by omega, ?_⟩
    intro hodd
    omega
  · rename_i h
    rw [Nat.add_mul, Nat.one_mul, hnext]
    refine ⟨by omega, by omega, ?_⟩
    intro hodd
    omega

theorem le_roundHalfEven (n d : Nat) : n / d ≤ roundHalfEven n d := by
  unfold roundHalfEven
  dsimp only
  split <;> omega

theorem roundHalfEven_le (n d : Nat) : roundHalfEven n d ≤ n / d + 1 := by
  unfold roundHalfEven
  dsimp only
  split <;> omega

def blocksBelow (n d : Nat) : Nat := Nat.log2 (n / d) - 52

/-- The place that a quotient in units is rounded to, were there no end to the places. -/
def nearestPlace (n d : Nat) : Nat :=
  blocksBelow n d * blockSize + roundHalfEven n (d * 2 ^ blocksBelow n d)

theorem nearest_place (numerator denominator : Nat) :
    (nearest numerator denominator).place =
      min (nearestPlace (numerator * 2 ^ 1074) denominator) infinityPlace := by
  unfold nearestPlace blocksBelow
  rw [← Nat.shiftLeft_eq, ← Nat.shiftLeft_eq denominator]
  rfl

/-- A quotient behind some blocks is as large as the number that begins the next one. -/
theorem blockSize_mul_le {n d : Nat} (h : blocksBelow n d ≠ 0) :
    blockSize * 2 ^ blocksBelow n d ≤ n / d := by
  have hlog : Nat.log2 (n / d) = 52 + blocksBelow n d := by
    unfold blocksBelow at h ⊢
    omega
  have hne : n / d ≠ 0 := by
    intro hzero
    simp [blocksBelow, hzero] at h
  calc blockSize * 2 ^ blocksBelow n d = 2 ^ Nat.log2 (n / d) := by
        rw [hlog, Nat.pow_add]
        rfl
    _ ≤ n / d := Nat.log2_self_le hne

theorem lt_two_mul_blockSize_mul (n d : Nat) :
    n / d < 2 * blockSize * 2 ^ blocksBelow n d := by
  have hlog : Nat.log2 (n / d) + 1 ≤ 53 + blocksBelow n d := by
    unfold blocksBelow
    omega
  calc n / d < 2 ^ (Nat.log2 (n / d) + 1) := Nat.lt_log2_self
    _ ≤ 2 ^ (53 + blocksBelow n d) := Nat.pow_le_pow_right (by decide) hlog
    _ = 2 * blockSize * 2 ^ blocksBelow n d := by
        rw [Nat.pow_add]
        rfl

/-- The step that is rounded to lies in the block, or is the first one behind it. -/
theorem nearestStep_bounds (n d : Nat) :
    roundHalfEven n (d * 2 ^ blocksBelow n d) ≤ 2 * blockSize ∧
      (blocksBelow n d = 0 ∨ blockSize ≤ roundHalfEven n (d * 2 ^ blocksBelow n d)) := by
  have hpow := Nat.two_pow_pos (blocksBelow n d)
  have hlt : n / (d * 2 ^ blocksBelow n d) < 2 * blockSize := by
    rw [← Nat.div_div_eq_div_mul]
    exact (Nat.div_lt_iff_lt_mul hpow).mpr (lt_two_mul_blockSize_mul n d)
  have hupper := roundHalfEven_le n (d * 2 ^ blocksBelow n d)
  refine ⟨by omega, ?_⟩
  by_cases hzero : blocksBelow n d = 0
  · exact .inl hzero
  · right
    refine Nat.le_trans ?_ (le_roundHalfEven n (d * 2 ^ blocksBelow n d))
    rw [← Nat.div_div_eq_div_mul]
    exact (Nat.le_div_iff_mul_le hpow).mpr (blockSize_mul_le hzero)

/-- The value behind a step is at least one step width away. -/
theorem le_unitsAt_succ (block step : Nat) (hstep : step ≤ 2 * blockSize)
    (hfirst : block = 0 ∨ blockSize ≤ step) :
    (step + 1) * 2 ^ block ≤ unitsAt (block * blockSize + step + 1) := by
  rcases Nat.lt_or_eq_of_le hstep with hlt | rfl
  · exact Nat.le_of_eq (unitsAt_succ_of_block block step hlt hfirst).symm
  · have hplace : block * blockSize + 2 * blockSize + 1 =
        (block + 1) * blockSize + (blockSize + 1) := by ring
    have hpos := blockSize_pos
    rw [hplace, unitsAt_block (block + 1) (blockSize + 1) (by omega) (by omega), Nat.pow_succ]
    calc (2 * blockSize + 1) * 2 ^ block ≤ (2 * blockSize + 2) * 2 ^ block :=
          Nat.mul_le_mul_right _ (by omega)
      _ = (blockSize + 1) * (2 ^ block * 2) := by ring

/-- The value in front of a step that does not begin a block is one step width away. -/
theorem unitsAt_pred (block step : Nat) (hstep : step ≤ 2 * blockSize) (hpos : 0 < step)
    (hfirst : block = 0 ∨ blockSize < step) :
    unitsAt (block * blockSize + step - 1) = (step - 1) * 2 ^ block := by
  rw [Nat.add_sub_assoc hpos]
  exact unitsAt_block block (step - 1) (by omega) (by omega)

/-- The midpoint behind a step lies at least half a step width away. -/
theorem le_midpoint_succ (block step d : Nat) (hstep : step ≤ 2 * blockSize)
    (hfirst : block = 0 ∨ blockSize ≤ step) :
    (2 * step + 1) * (d * 2 ^ block) ≤
      (unitsAt (block * blockSize + step) + unitsAt (block * blockSize + step + 1)) * d := by
  have hunits := unitsAt_block block step hstep hfirst
  have hsucc := le_unitsAt_succ block step hstep hfirst
  calc (2 * step + 1) * (d * 2 ^ block) = (step * 2 ^ block + (step + 1) * 2 ^ block) * d := by
        ring
    _ ≤ _ := Nat.mul_le_mul_right d (by omega)

/-- The midpoint in front of a step that does not begin a block lies half a step width away. -/
theorem midpoint_pred (block step d : Nat) (hstep : step ≤ 2 * blockSize) (hpos : 0 < step)
    (hfirst : block = 0 ∨ blockSize < step) :
    (unitsAt (block * blockSize + step - 1) + unitsAt (block * blockSize + step)) * d +
      d * 2 ^ block = 2 * step * (d * 2 ^ block) := by
  rw [unitsAt_pred block step hstep hpos hfirst, unitsAt_block block step hstep (by omega)]
  obtain ⟨step, rfl⟩ : ∃ k, step = k + 1 := ⟨step - 1, by omega⟩
  simp only [Nat.add_sub_cancel]
  ring

/-- A quotient rounds to the place that is computed for it. -/
theorem roundsTo_nearestPlace (n d : Nat) (hd : 0 < d) : RoundsTo (nearestPlace n d) n d := by
  obtain ⟨hstep, hfirst⟩ := nearestStep_bounds n d
  have hwidth : 0 < d * 2 ^ blocksBelow n d := Nat.mul_pos hd (Nat.two_pow_pos _)
  obtain ⟨hlower, hupper, hodd⟩ := roundHalfEven_spec n (d * 2 ^ blocksBelow n d) hwidth
  have hlarge (hblock : blocksBelow n d ≠ 0) : blockSize * 2 ^ blocksBelow n d * d ≤ n :=
    (Nat.le_div_iff_mul_le hd).mp (blockSize_mul_le hblock)
  unfold nearestPlace
  generalize hs : roundHalfEven n (d * 2 ^ blocksBelow n d) = step at *
  generalize blocksBelow n d = block at *
  have hunits := unitsAt_block block step hstep hfirst
  have hup := le_midpoint_succ block step d hstep hfirst
  have hdown := midpoint_pred block step d hstep
  have hparity : (block * blockSize + step) % 2 = step % 2 := by
    simp only [blockSize]
    omega
  unfold RoundsTo
  rw [hparity]
  split
  · rename_i heven
    refine ⟨?_, Nat.le_trans hupper hup⟩
    by_cases hinner : 0 < step ∧ (block = 0 ∨ blockSize < step)
    · have := hdown hinner.1 hinner.2
      omega
    · by_cases hblock : block = 0
      · -- the place is zero, and the bound with it
        have hzero : step = 0 := by omega
        simp [hblock, hzero, unitsAt, blockSize]
      · -- the step begins a block, and the quotient is no smaller than its value
        have hbegin : step = blockSize := by omega
        have hpred : unitsAt (block * blockSize + step - 1) ≤ unitsAt (block * blockSize + step) :=
          unitsAt_strictMono.monotone (Nat.sub_le _ _)
        have hle := hlarge hblock
        calc (unitsAt (block * blockSize + step - 1) + unitsAt (block * blockSize + step)) * d ≤
            2 * unitsAt (block * blockSize + step) * d := Nat.mul_le_mul_right d (by omega)
          _ = 2 * (blockSize * 2 ^ block * d) := by rw [hunits, hbegin, Nat.mul_assoc]
          _ ≤ 2 * n := Nat.mul_le_mul_left 2 hle
  · rename_i hnot
    have hstrict := hodd (by omega)
    have hinner : block = 0 ∨ blockSize < step := by
      rcases hfirst with hzero | hle
      · exact .inl hzero
      · right
        rcases Nat.lt_or_eq_of_le hle with hlt | heq
        · exact hlt
        · simp [← heq, blockSize] at hnot
    have := hdown (by omega) hinner
    omega

/-- Rounding finds the place that a quotient rounds to, if there is one in front of infinity. -/
theorem nearest_eq_of_roundsTo {m : Magnitude} {numerator denominator : Nat}
    (hd : 0 < denominator) (h : RoundsTo m.place (numerator * 2 ^ 1074) denominator) :
    nearest numerator denominator = m := by
  have hplace := (roundsTo_nearestPlace (numerator * 2 ^ 1074) denominator hd).unique hd h
  apply eq_of_place_eq
  rw [nearest_place, hplace]
  exact Nat.min_eq_left m.place_le

end Magnitude

end Sift
