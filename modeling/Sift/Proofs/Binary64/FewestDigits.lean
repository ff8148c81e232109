import Mathlib.Data.List.DropRight
import Sift.Proofs.Binary64.DecimalValue

/-!
The text of a number has the fewest digits that read as it. All decimals that read as a number lie
in one interval, and the text has its digits from the coarsest power of ten of which a multiple lies
in there. Other decimals with fewer digits would be smaller, and a power of ten between them and the
text would be a multiple of a coarser one.
-/

namespace Sift

namespace Magnitude

variable {place exponent : Nat}

/-- What lies between two quotients that round to a place rounds to it too. -/
theorem RoundsTo.of_between {n k n' d : Nat} (h : RoundsTo place n d) (h' : RoundsTo place n' d)
    (hle : n ≤ k) (hge : k ≤ n') : RoundsTo place k d := by
  unfold RoundsTo at h h' ⊢
  split at h
  · rename_i heven
    rw [if_pos heven] at h' ⊢
    omega
  · rename_i hodd
    rw [if_neg hodd] at h' ⊢
    omega

/-- Nothing rounds to zero but zero. -/
theorem RoundsTo.pos {n d : Nat} (hplace : 0 < place) (hd : 0 < d) (h : RoundsTo place n d) :
    0 < n := by
  have hbelow : unitsAt (place - 1) < unitsAt place := unitsAt_strictMono (by omega)
  have hlower : 0 < (unitsAt (place - 1) + unitsAt place) * d := Nat.mul_pos (by omega) hd
  have := h.le.1
  omega

/-- If any multiple of a power of ten reads as the number at a place, then one of the two next to
the number does. -/
theorem onGrid?_ne_none (hplace : 0 < place) {k : Nat}
    (h : RoundsTo place (k * 10 ^ exponent) decimalsPerUnit) : onGrid? place exponent ≠ none := by
  obtain ⟨step, hstep⟩ : ∃ step, step = 10 ^ exponent := ⟨_, rfl⟩
  obtain ⟨value, hvalue⟩ : ∃ value, value = unitsAt place * decimalsPerUnit := ⟨_, rfl⟩
  have hself := roundsTo_self hplace decimalsPerUnit decimalsPerUnit_pos
  have hpos : 0 < step := hstep ▸ Nat.pow_pos (by decide)
  have hbelow : value / step * step ≤ value := Nat.div_mul_le_self value step
  have habove : value < step * (value / step + 1) := Nat.lt_mul_div_succ value hpos
  rw [← hstep] at h
  rw [← hvalue] at hself
  have hreads : readsAs place (value / step * step) = true ∨
      readsAs place ((value / step + 1) * step) = true := by
    rw [readsAs_iff, readsAs_iff]
    rcases Nat.lt_or_ge (value / step) k with hlt | hge
    · right
      refine hself.of_between h ?_ (Nat.mul_le_mul_right step hlt)
      rw [Nat.mul_comm]
      exact Nat.le_of_lt habove
    · left
      exact h.of_between hself (Nat.mul_le_mul_right step hge) hbelow
  unfold onGrid?
  rw [show Nat.pow 10 exponent = step from hstep.symm, ← hvalue]
  dsimp only
  split <;> simp_all

/-- A grid up to the bound of the search on which some decimal reads as the number at a place is not
coarser than the one that is found. -/
theorem le_coarsest {bound : Nat} (hle : exponent ≤ bound) (h : onGrid? place exponent ≠ none) :
    exponent ≤ (coarsest place bound).2 := by
  induction bound with
  | zero => exact Nat.le_trans hle (Nat.zero_le _)
  | succ bound ih =>
    rw [coarsest]
    split
    · exact hle
    · rename_i hnone
      apply ih
      have hne : exponent ≠ bound + 1 := by
        rintro rfl
        exact h hnone
      omega

/-- On a grid behind the bound of the search no decimal reads as the number at a place. -/
theorem le_tooCoarse (hplace : 0 < place) {k : Nat}
    (h : RoundsTo place (k * 10 ^ exponent) decimalsPerUnit) : exponent ≤ tooCoarse place := by
  obtain ⟨bound, hbound⟩ : ∃ bound, bound = unitsAt (place + 1) * decimalsPerUnit := ⟨_, rfl⟩
  have hk : 0 < k := Nat.pos_of_mul_pos_right (h.pos hplace decimalsPerUnit_pos)
  have hpow : 10 ^ exponent ≤ bound := by
    have hmono : unitsAt place ≤ unitsAt (place + 1) := Nat.le_of_lt (unitsAt_lt_succ place)
    have hends : (unitsAt place + unitsAt (place + 1)) * decimalsPerUnit ≤ 2 * bound := by
      rw [hbound, ← Nat.mul_assoc]
      exact Nat.mul_le_mul_right _ (by omega)
    have hupper := h.le.2
    have hone : 1 * 10 ^ exponent ≤ k * 10 ^ exponent := Nat.mul_le_mul_right _ hk
    omega
  unfold tooCoarse
  rw [← hbound]
  by_contra hlt
  have hdigits : Nat.log2 bound + 1 ≤ 33 * (Nat.log2 bound / 33 + 1) := by omega
  have hcontra : bound < 10 ^ exponent := by
    calc bound < 2 ^ (Nat.log2 bound + 1) := Nat.lt_log2_self
      _ ≤ 2 ^ (33 * (Nat.log2 bound / 33 + 1)) := Nat.pow_le_pow_right Nat.two_pos hdigits
      _ = (2 ^ 33) ^ (Nat.log2 bound / 33 + 1) := Nat.pow_mul 2 33 _
      _ ≤ (10 ^ 10) ^ (Nat.log2 bound / 33 + 1) := Nat.pow_le_pow_left (by decide) _
      _ = 10 ^ (10 * (Nat.log2 bound / 33 + 1)) := (Nat.pow_mul 10 10 _).symm
      _ ≤ 10 ^ exponent := Nat.pow_le_pow_right (by decide) (by omega)
  omega

/-- No coarser grid than that of the shortest digits has a decimal that reads as the number. -/
theorem le_shortest {m : Magnitude} (hm : 0 < m.place) {k : Nat}
    (h : RoundsTo m.place (k * 10 ^ exponent) decimalsPerUnit) : exponent ≤ m.shortest.2 :=
  le_coarsest (le_tooCoarse hm h) (onGrid?_ne_none hm h)

end Magnitude

namespace Decimal

def isZero (c : Char) : Bool := c == '0'

/-- The digits but for the zeros in front of the first other digit and behind the last one. -/
def significant (d : Decimal) : List Char :=
  ((d.whole ++ d.fraction).dropWhile isZero).rdropWhile isZero

def significantDigits (d : Decimal) : Nat := d.significant.length

theorem digitValue_lt {c : Char} (h : c.isDigit = true) : digitValue c < 10 := by
  have hrange : 48 ≤ c.toNat ∧ c.toNat ≤ 57 := by
    simpa [Char.isDigit, UInt32.le_iff_toNat_le] using h
  have hzero : '0'.toNat = 48 := rfl
  unfold digitValue
  omega

theorem digitValue_pos {c : Char} (h : c.isDigit = true) (hne : c ≠ '0') : 0 < digitValue c := by
  have hrange : 48 ≤ c.toNat ∧ c.toNat ≤ 57 := by
    simpa [Char.isDigit, UInt32.le_iff_toNat_le] using h
  have hzero : '0'.toNat = 48 := rfl
  have htoNat : c.toNat ≠ '0'.toNat := fun heq => hne (Char.toNat_inj.mp heq)
  unfold digitValue
  omega

section

variable {digits : List Char} (h : ∀ c ∈ digits, c.isDigit = true)

include h

theorem digitsValue_lt : digitsValue digits < 10 ^ digits.length := by
  induction digits with
  | nil => exact Nat.one_pos
  | cons c rest ih =>
    rw [List.forall_mem_cons] at h
    have hrest := ih h.2
    have hc : (digitValue c + 1) * 10 ^ rest.length ≤ 10 * 10 ^ rest.length :=
      Nat.mul_le_mul_right _ (digitValue_lt h.1)
    rw [Nat.add_mul] at hc
    rw [digitsValue_cons, List.length_cons, Nat.pow_succ']
    omega

/-- A first digit that is not zero counts fully. -/
theorem ten_pow_le_digitsValue (hne : digits ≠ []) (hfirst : digits.head hne ≠ '0') :
    10 ^ (digits.length - 1) ≤ digitsValue digits := by
  obtain ⟨c, rest, rfl⟩ := List.exists_cons_of_ne_nil hne
  have hc := digitValue_pos (h c (by simp)) hfirst
  have hle : 1 * 10 ^ rest.length ≤ digitValue c * 10 ^ rest.length := Nat.mul_le_mul_right _ hc
  rw [digitsValue_cons, List.length_cons, Nat.add_sub_cancel]
  omega

/-- A last digit that is not zero leaves a number that ten does not divide. -/
theorem not_ten_dvd_digitsValue (hne : digits ≠ []) (hlast : digits.getLast hne ≠ '0') :
    ¬ 10 ∣ digitsValue digits := by
  obtain ⟨front, c, rfl⟩ := (List.eq_nil_or_concat' digits).resolve_left hne
  have hc := h c (by simp)
  have hpos := digitValue_pos hc (by simpa using hlast)
  have hlt := digitValue_lt hc
  rw [digitsValue_append, digitsValue_singleton, List.length_singleton, Nat.pow_one]
  omega

end

theorem eq_zeros {digits : List Char} (h : ∀ c ∈ digits, isZero c = true) :
    digits = List.replicate digits.length '0' := by
  apply List.eq_replicate_of_mem
  intro c hc
  simpa [isZero] using h c hc

theorem digitsValue_dropWhile (digits : List Char) :
    digitsValue (digits.dropWhile isZero) = digitsValue digits := by
  have hzeros : digits.takeWhile isZero = _ := eq_zeros (fun _ => List.mem_takeWhile_imp)
  have hsplit := List.takeWhile_append_dropWhile (p := isZero) (l := digits)
  rw [hzeros] at hsplit
  have hvalue := digitsValue_zeros_append (digits.dropWhile isZero) (digits.takeWhile isZero).length
  rwa [hsplit, eq_comm] at hvalue

theorem exists_digitsValue_rdropWhile (digits : List Char) :
    ∃ zeros, digitsValue digits = digitsValue (digits.rdropWhile isZero) * 10 ^ zeros := by
  have hzeros : digits.rtakeWhile isZero = _ := eq_zeros (fun _ => List.mem_rtakeWhile_imp)
  have hsplit := List.rdropWhile_append_rtakeWhile (p := isZero) (l := digits)
  rw [hzeros] at hsplit
  have hvalue :=
    digitsValue_append_zeros (digits.rdropWhile isZero) (digits.rtakeWhile isZero).length
  rw [hsplit] at hvalue
  exact ⟨_, hvalue⟩

/-- The zeros behind the significant digits make up a power of ten. -/
theorem exists_digitsValue_eq (d : Decimal) :
    ∃ zeros, digitsValue (d.whole ++ d.fraction) = digitsValue d.significant * 10 ^ zeros := by
  have hvalue := exists_digitsValue_rdropWhile ((d.whole ++ d.fraction).dropWhile isZero)
  rwa [digitsValue_dropWhile] at hvalue

namespace WellFormed

variable {d : Decimal} (h : d.WellFormed)

include h

theorem isDigit_of_mem_significant : ∀ c ∈ d.significant, c.isDigit = true := by
  intro c hc
  have hmem : c ∈ d.whole ++ d.fraction :=
    (List.dropWhile_sublist _).subset ((List.rdropWhile_prefix _ _).subset hc)
  exact (List.mem_append.mp hmem).elim (h.whole_digits c) (h.fraction_digits c)

theorem digitsValue_significant_lt : digitsValue d.significant < 10 ^ d.significantDigits :=
  digitsValue_lt h.isDigit_of_mem_significant

/-- The number of the significant digits takes all of them, and ten does not divide it. -/
theorem digitsValue_significant (hne : d.significant ≠ []) :
    10 ^ (d.significantDigits - 1) ≤ digitsValue d.significant ∧
      ¬ 10 ∣ digitsValue d.significant := by
  have hfront := List.rdropWhile_prefix isZero ((d.whole ++ d.fraction).dropWhile isZero)
  constructor
  · have hfirst := List.head_dropWhile_not isZero (hfront.ne_nil hne)
    rw [← hfront.head hne] at hfirst
    apply ten_pow_le_digitsValue h.isDigit_of_mem_significant hne
    exact beq_eq_false_iff_ne.mp hfirst
  · have hlast := List.rdropWhile_last_not isZero _ hne
    apply not_ten_dvd_digitsValue h.isDigit_of_mem_significant hne
    exact beq_eq_false_iff_ne.mp (Bool.not_eq_true _ ▸ hlast)

end WellFormed

end Decimal

namespace Magnitude

open Decimal

variable {m : Magnitude}

def unitPlaces : Nat := 1074

theorem unitsPerOne_mul_decimalsPerUnit : unitsPerOne * decimalsPerUnit = 10 ^ unitPlaces := by
  rw [unitsPerOne, two_pow_mul_decimalsPerUnit, unitPlaces]

/-- A decimal that reads as a number is a multiple of no power of ten coarser than that of the
shortest digits, also when both are counted in finer parts. -/
theorem le_shortest_add (hm : 0 < m.place) {k exponent places : Nat}
    (h : RoundsTo m.place (k * 10 ^ exponent) (decimalsPerUnit * 10 ^ places)) :
    exponent ≤ m.shortest.2 + places := by
  by_contra hlt
  have hten : 0 < 10 ^ places := Nat.pow_pos (by decide)
  have hsplit : 10 ^ exponent = 10 ^ (exponent - places) * 10 ^ places := by
    rw [← Nat.pow_add, Nat.sub_add_cancel (by omega)]
  have heq : k * 10 ^ exponent * decimalsPerUnit =
      k * 10 ^ (exponent - places) * (decimalsPerUnit * 10 ^ places) := by
    rw [hsplit]
    ring
  have hcoarse := le_shortest hm
    (h.of_mul_eq (Nat.mul_pos decimalsPerUnit_pos hten) decimalsPerUnit_pos heq)
  omega

/-- The value of a decimal number that reads as a magnitude, by its significant digits. -/
theorem exists_roundsTo_significant {d : Decimal} (hd : d.rounded = m)
    (hfinite : m.place < infinityPlace) :
    ∃ zeros, digitsValue (d.whole ++ d.fraction) = digitsValue d.significant * 10 ^ zeros ∧
      RoundsTo m.place (digitsValue d.significant * 10 ^ (zeros + unitPlaces))
        (decimalsPerUnit * 10 ^ d.fraction.length) := by
  have hten : 0 < 10 ^ d.fraction.length := Nat.pow_pos (by decide)
  obtain ⟨zeros, hzeros⟩ := exists_digitsValue_eq d
  subst hd
  have hrounds := roundsTo_nearest hten hfinite
  refine ⟨zeros, hzeros, hrounds.of_mul_eq hten (Nat.mul_pos decimalsPerUnit_pos hten) ?_⟩
  rw [hzeros, Nat.pow_add, ← unitsPerOne_mul_decimalsPerUnit]
  ring

/-- Where ten does not divide the digits of a decimal number with the value of the shortest digits,
the last of them counts the same power of ten. -/
theorem exponent_eq_of_shortest (hm : 0 < m.place) {k zeros places : Nat} (hk : ¬ 10 ∣ k)
    (hrounds : RoundsTo m.place (k * 10 ^ (zeros + unitPlaces)) (decimalsPerUnit * 10 ^ places))
    (hvalue : k * 10 ^ zeros * 10 ^ unitPlaces =
      m.shortest.1 * 10 ^ m.shortest.2 * 10 ^ places) :
    zeros + unitPlaces = m.shortest.2 + places := by
  apply Nat.le_antisymm (le_shortest_add hm hrounds)
  by_contra hlt
  obtain ⟨more, hmore⟩ : ∃ more, m.shortest.2 + places = more + 1 + (zeros + unitPlaces) :=
    ⟨m.shortest.2 + places - (zeros + unitPlaces) - 1, by omega⟩
  rw [Nat.mul_assoc, ← Nat.pow_add, Nat.mul_assoc, ← Nat.pow_add, hmore,
    Nat.pow_add 10 (more + 1), ← Nat.mul_assoc] at hvalue
  have hfactor := Nat.eq_of_mul_eq_mul_right (Nat.pow_pos (by decide)) hvalue
  apply hk
  rw [hfactor, Nat.pow_succ, ← Nat.mul_assoc]
  exact Nat.dvd_mul_left 10 _

/-- A power of ten that separates the digits of two decimals makes up a decimal between them, and it
rounds to the place that both round to. -/
theorem roundsTo_ten_pow {place large small digits scale scale' d : Nat}
    (h : RoundsTo place (large * 10 ^ scale) d) (h' : RoundsTo place (small * 10 ^ scale') d)
    (hlarge : 10 ^ digits ≤ large) (hsmall : small ≤ 10 ^ digits) (hle : scale' ≤ scale) :
    RoundsTo place (1 * 10 ^ (digits + scale)) d := by
  rw [Nat.one_mul, Nat.pow_add]
  refine h'.of_between h ?_ (Nat.mul_le_mul_right _ hlarge)
  exact Nat.mul_le_mul hsmall (Nat.pow_le_pow_right (by decide) hle)

/-- No decimal number that reads as a magnitude has fewer significant digits than one with the value
of the shortest digits. -/
theorem significantDigits_le (hm : 0 < m.place) (hfinite : m.place < infinityPlace)
    {d d' : Decimal} (hd : d.WellFormed) (hd' : d'.WellFormed) (hreads : d.rounded = m)
    (hreads' : d'.rounded = m)
    (hvalue : digitsValue (d.whole ++ d.fraction) * 10 ^ unitPlaces =
      m.shortest.1 * 10 ^ m.shortest.2 * 10 ^ d.fraction.length) :
    d.significantDigits ≤ d'.significantDigits := by
  by_contra hfewer
  have hne : d.significant ≠ [] := by
    apply List.ne_nil_of_length_pos
    rw [← significantDigits]
    omega
  obtain ⟨hlarge, hdvd⟩ := hd.digitsValue_significant hne
  have hsmall := hd'.digitsValue_significant_lt
  obtain ⟨zeros, hzeros, hrounds⟩ := exists_roundsTo_significant hreads hfinite
  obtain ⟨zeros', -, hrounds'⟩ := exists_roundsTo_significant hreads' hfinite
  rw [hzeros] at hvalue
  have hexponent := exponent_eq_of_shortest hm hdvd hrounds hvalue
  have hexponent' := le_shortest_add hm hrounds'
  rw [hexponent] at hrounds
  have hten : 0 < 10 ^ d.fraction.length := Nat.pow_pos (by decide)
  have hten' : 0 < 10 ^ d'.fraction.length := Nat.pow_pos (by decide)
  have htext : RoundsTo m.place
      (digitsValue d.significant * 10 ^ (m.shortest.2 + d'.fraction.length))
      (decimalsPerUnit * 10 ^ d'.fraction.length) := by
    refine hrounds.of_mul_eq (Nat.mul_pos decimalsPerUnit_pos hten)
      (Nat.mul_pos decimalsPerUnit_pos hten') ?_
    rw [Nat.pow_add, Nat.pow_add]
    ring
  -- A power of ten lies between the two decimals, unless the first one has a single digit.
  have hsmall' : digitsValue d'.significant ≤ 10 ^ (d.significantDigits - 1) :=
    Nat.le_trans (Nat.le_of_lt hsmall) (Nat.pow_le_pow_right (by decide) (by omega))
  have hbetween := le_shortest_add hm (roundsTo_ten_pow htext hrounds' hlarge hsmall' hexponent')
  -- Then the other one has none, and is zero.
  have hnone : d'.significantDigits = 0 := by omega
  have hpos := hrounds'.pos hm (Nat.mul_pos decimalsPerUnit_pos hten')
  rw [hnone, Nat.pow_zero, Nat.lt_one_iff] at hsmall
  rw [hsmall, Nat.zero_mul] at hpos
  exact absurd hpos (Nat.lt_irrefl 0)

end Magnitude

/-- The text of a finite number is a decimal number that reads as it, and no other one that does so
has fewer significant digits. -/
theorem Binary64.exists_fewest_digits {x : Binary64} (hx : x.isFinite = true) :
    ∃ d : Decimal, d.WellFormed ∧ x.toChars = d.spelling ∧ d.toBinary64 = x ∧
      ∀ d' : Decimal, d'.WellFormed → d'.toBinary64 = x →
        d.significantDigits ≤ d'.significantDigits := by
  cases x with
  | nan => cases hx
  | signed negative m =>
    have hfinite : m.place < infinityPlace := by simpa [isFinite] using hx
    by_cases hzero : m.place = 0
    · obtain ⟨hd, htext, hreads⟩ := m.zero_decimal negative hzero
      exact ⟨_, hd, htext, hreads, fun d' _ _ => Nat.zero_le _⟩
    · have hpos := Nat.pos_of_ne_zero hzero
      obtain ⟨d, hd, rfl, htext, hvalue⟩ := m.exists_decimal_shortest negative hpos hfinite
      have hreads : d.rounded = m := Magnitude.nearest_of_shortest hpos hvalue
      rw [show 1074 = Magnitude.unitPlaces from rfl] at hvalue
      refine ⟨d, hd, htext, by rw [Decimal.toBinary64_eq, hreads], ?_⟩
      intro d' hd' hreads'
      rw [Decimal.toBinary64_eq] at hreads'
      injection hreads' with hsign hreads'
      exact Magnitude.significantDigits_le hpos hfinite hd hd' hreads hreads' hvalue

end Sift
