import Sift.Binary64.Decimal
import Sift.Binary64.Shortest
import Sift.Proofs.Binary64.Rounding

/-!
The text of a finite number is a decimal number without an exponent, and reads back as the very
same number.
-/

namespace Sift

namespace Decimal

/-- The parts of a decimal number are digits, and there is one in front of the point. -/
structure WellFormed (d : Decimal) : Prop where
  whole_ne_nil : d.whole ≠ []
  whole_digits : ∀ c ∈ d.whole, c.isDigit = true
  fraction_digits : ∀ c ∈ d.fraction, c.isDigit = true

/-- A decimal number begins with a minus or a digit. -/
theorem WellFormed.exists_cons_spelling {d : Decimal} (h : d.WellFormed) :
    ∃ c rest, d.spelling = c :: rest ∧ (c = '-' ∨ c.isDigit = true) := by
  obtain ⟨negative, whole, fraction⟩ := d
  cases negative with
  | true => exact ⟨'-', _, rfl, .inl rfl⟩
  | false =>
    obtain ⟨c, whole, rfl⟩ := List.exists_cons_of_ne_nil h.whole_ne_nil
    exact ⟨c, _, rfl, .inr (h.whole_digits c (by simp))⟩

/-- Where a text neither goes on with a digit nor with a point. -/
def Ends (text : List Char) : Prop := ∀ c, text.head? = some c → c.isDigit = false ∧ c ≠ '.'

/-- Where a number with these digits behind its point comes to its end: no digit follows, and if
there is no point yet, no point with a digit behind it. -/
structure Stops (fraction rest : List Char) : Prop where
  digit : ∀ c, rest.head? = some c → c.isDigit = false
  point : fraction = [] → ∀ c more, rest = '.' :: c :: more → c.isDigit = false

theorem Ends.stops {rest : List Char} (h : Ends rest) (fraction : List Char) :
    Stops fraction rest where
  digit := fun c hc => (h c hc).1
  point := by
    rintro - c more rfl
    exact absurd rfl (h '.' rfl).2

theorem takeWhile_isDigit_append {digits rest : List Char}
    (hdigits : ∀ c ∈ digits, c.isDigit = true)
    (hrest : ∀ c, rest.head? = some c → c.isDigit = false) :
    (digits ++ rest).takeWhile Char.isDigit = digits ∧
      (digits ++ rest).dropWhile Char.isDigit = rest := by
  rw [List.takeWhile_append_of_pos hdigits, List.dropWhile_append_of_pos hdigits]
  cases rest with
  | nil => simp
  | cons c rest =>
    have hc : ¬ c.isDigit = true := by simp [hrest c rfl]
    simp [List.takeWhile_cons_of_neg hc, List.dropWhile_cons_of_neg hc]

theorem readFraction_append_of_digits {digits rest : List Char}
    (hdigits : ∀ c ∈ digits, c.isDigit = true) (hrest : Stops digits rest) :
    readFraction ((if digits.isEmpty then [] else '.' :: digits) ++ rest) = (digits, rest) := by
  by_cases hnil : digits = []
  · subst hnil
    simp only [List.isEmpty_nil, if_true, List.nil_append]
    unfold readFraction
    split
    · rename_i more
      cases more with
      | nil => rfl
      | cons c more =>
        have hc : ¬ c.isDigit = true := by simp [hrest.point rfl c more rfl]
        rw [List.takeWhile_cons_of_neg hc, if_pos rfl]
    · rfl
  · obtain ⟨htake, hdrop⟩ := takeWhile_isDigit_append hdigits hrest.digit
    have hempty : digits.isEmpty = false := by simp [hnil]
    simp [hempty, readFraction, htake, hdrop, hnil]

theorem readUnsigned?_append {negative : Bool} {whole fraction rest : List Char}
    (h : WellFormed ⟨negative, whole, fraction⟩) (hrest : Stops fraction rest) :
    readUnsigned? negative
        (whole ++ ((if fraction.isEmpty then [] else '.' :: fraction) ++ rest)) =
      some (⟨negative, whole, fraction⟩, rest) := by
  have hpoint : ∀ c, ((if fraction.isEmpty then [] else '.' :: fraction) ++ rest).head? = some c →
      c.isDigit = false := by
    intro c hc
    by_cases hnil : fraction = []
    · exact hrest.digit c (by simpa [hnil] using hc)
    · have hempty : fraction.isEmpty = false := by simp [hnil]
      simp only [hempty, Bool.false_eq_true, if_false, List.cons_append, List.head?_cons,
        Option.some.injEq] at hc
      subst hc
      rfl
  obtain ⟨htake, hdrop⟩ := takeWhile_isDigit_append h.whole_digits hpoint
  have hfraction := readFraction_append_of_digits h.fraction_digits hrest
  have hwhole : whole ≠ [] := h.whole_ne_nil
  simp only [readUnsigned?, htake, hdrop, hfraction, hwhole, if_false]

/-- The spelling of a decimal number is read as that number where the number comes to its end, and
the text behind it is left. -/
theorem read?_spelling_append {d : Decimal} (h : d.WellFormed) {rest : List Char}
    (hrest : Stops d.fraction rest) : read? (d.spelling ++ rest) = some (d, rest) := by
  obtain ⟨negative, whole, fraction⟩ := d
  have hread := readUnsigned?_append h hrest
  cases negative with
  | true =>
    simp only [spelling, if_true, List.append_assoc, List.cons_append, List.nil_append]
    exact hread
  | false =>
    simp only [spelling, Bool.false_eq_true, if_false, List.append_assoc, List.nil_append]
    obtain ⟨c, whole, rfl⟩ := List.exists_cons_of_ne_nil h.whole_ne_nil
    have hminus : c ≠ '-' := by
      rintro rfl
      exact absurd (h.whole_digits '-' (by simp)) (by decide)
    simp only [List.cons_append] at hread ⊢
    unfold read?
    split
    · rename_i heq
      exact absurd (List.cons.inj heq).1 hminus
    · exact hread

theorem digitsValue_eq (digits : List Char) : digitsValue digits = Nat.ofDigitChars 10 digits 0 :=
  (Nat.ofDigitChars_eq_foldl).symm

theorem digitsValue_toDigits (n : Nat) : digitsValue (Nat.toDigits 10 n) = n := by
  rw [digitsValue_eq]
  exact Nat.ofDigitChars_toDigits (by decide) (by decide)

theorem digitsValue_append_zeros (digits : List Char) (n : Nat) :
    digitsValue (digits ++ List.replicate n '0') = digitsValue digits * 10 ^ n := by
  rw [digitsValue_eq, digitsValue_eq, Nat.ofDigitChars_append, Nat.ofDigitChars_replicate_zero,
    Nat.mul_comm]

theorem digitsValue_zeros_append (digits : List Char) (n : Nat) :
    digitsValue (List.replicate n '0' ++ digits) = digitsValue digits := by
  rw [digitsValue_eq, digitsValue_eq, Nat.ofDigitChars_append, Nat.ofDigitChars_replicate_zero,
    Nat.mul_zero]

end Decimal

namespace Magnitude

theorem two_pow_mul_decimalsPerUnit : 2 ^ 1074 * decimalsPerUnit = 10 ^ 1074 := by
  unfold decimalsPerUnit
  generalize 1074 = n
  exact (Nat.mul_pow 2 5 n).symm

theorem decimalsPerUnit_pos : 0 < decimalsPerUnit := by
  unfold decimalsPerUnit
  generalize 1074 = n
  exact Nat.pow_pos (by decide)

theorem readsAs_iff (place decimal : Nat) :
    readsAs place decimal = true ↔ RoundsTo place decimal decimalsPerUnit := by
  unfold readsAs RoundsTo
  dsimp only
  split <;> simp

/-- The value at a place other than zero rounds to the place itself. -/
theorem roundsTo_self {place : Nat} (hpos : 0 < place) (d : Nat) (hd : 0 < d) :
    RoundsTo place (unitsAt place * d) d := by
  have hbelow : unitsAt (place - 1) < unitsAt place := unitsAt_strictMono (by omega)
  have habove : unitsAt place < unitsAt (place + 1) := unitsAt_lt_succ place
  have hlower : (unitsAt (place - 1) + unitsAt place) * d < 2 * unitsAt place * d :=
    Nat.mul_lt_mul_of_pos_right (by omega) hd
  have hupper : 2 * unitsAt place * d < (unitsAt place + unitsAt (place + 1)) * d :=
    Nat.mul_lt_mul_of_pos_right (by omega) hd
  unfold RoundsTo
  rw [← Nat.mul_assoc]
  split
  · exact ⟨Nat.le_of_lt hlower, Nat.le_of_lt hupper⟩
  · exact ⟨hlower, hupper⟩

theorem roundsTo_of_onGrid? {place exponent factor : Nat}
    (h : onGrid? place exponent = some factor) :
    RoundsTo place (factor * 10 ^ exponent) decimalsPerUnit := by
  rw [← readsAs_iff]
  unfold onGrid? at h
  dsimp only at h
  split at h
  · rename_i hbelow habove
    cases h
    split
    · exact hbelow
    · exact habove
  · rename_i hbelow habove
    cases h
    exact hbelow
  · rename_i hbelow habove
    cases h
    exact habove
  · cases h

/-- The digits found on the coarsest grid read as the number they were sought for. -/
theorem roundsTo_coarsest {place : Nat} (hpos : 0 < place) (exponent : Nat) :
    RoundsTo place ((coarsest place exponent).1 * 10 ^ (coarsest place exponent).2)
      decimalsPerUnit := by
  induction exponent with
  | zero =>
    simp only [coarsest, Nat.pow_zero, Nat.mul_one]
    exact roundsTo_self hpos decimalsPerUnit decimalsPerUnit_pos
  | succ exponent ih =>
    simp only [coarsest]
    split
    · rename_i factor h
      exact roundsTo_of_onGrid? h
    · exact ih

theorem roundsTo_shortest {m : Magnitude} (hpos : 0 < m.place) :
    RoundsTo m.place (m.shortest.1 * 10 ^ m.shortest.2) decimalsPerUnit :=
  roundsTo_coarsest hpos _

end Magnitude

theorem isDigit_of_mem_toDigits {n : Nat} {c : Char} (h : c ∈ Nat.toDigits 10 n) :
    c.isDigit = true :=
  Nat.isDigit_of_mem_toDigits (by decide) (by decide) h

theorem isDigit_of_mem_zeros {n : Nat} {c : Char} (h : c ∈ List.replicate n '0') :
    c.isDigit = true := by
  rw [(List.mem_replicate.mp h).2]
  decide

def WritesDecimal (negative : Bool) (digits exponent : Nat) : Prop :=
  ∃ whole fraction, Decimal.WellFormed ⟨negative, whole, fraction⟩ ∧
    positional digits exponent = whole ++ (if fraction.isEmpty then [] else '.' :: fraction) ∧
    Decimal.digitsValue (whole ++ fraction) * 10 ^ 1074 =
      digits * 10 ^ exponent * 10 ^ fraction.length

/-- Digits that reach no further than the point stand in front of it, with zeros behind them. -/
theorem writesDecimal_of_le (negative : Bool) (digits : Nat) {exponent : Nat}
    (h : 1074 ≤ exponent) : WritesDecimal negative digits exponent := by
  refine ⟨Nat.toDigits 10 digits ++ List.replicate (exponent - 1074) '0', [],
    ⟨by simp, ?_, by simp⟩, by simp [positional, h], ?_⟩
  · intro c hc
    exact (List.mem_append.mp hc).elim isDigit_of_mem_toDigits isDigit_of_mem_zeros
  · rw [List.append_nil, Decimal.digitsValue_append_zeros, Decimal.digitsValue_toDigits,
      Nat.mul_assoc, ← Nat.pow_add, Nat.sub_add_cancel h, List.length_nil, Nat.pow_zero,
      Nat.mul_one]

/-- Zeros in front of other digits fill the places up to the point and the one before it. -/
theorem writesDecimal_of_lt (negative : Bool) (digits : Nat) {exponent : Nat}
    (h : ¬ 1074 ≤ exponent) : WritesDecimal negative digits exponent := by
  obtain ⟨places, hplaces⟩ : ∃ places, places = 1074 - exponent := ⟨_, rfl⟩
  obtain ⟨padded, hpadded⟩ : ∃ padded, padded =
      List.replicate (places + 1 - (Nat.toDigits 10 digits).length) '0' ++
        Nat.toDigits 10 digits := ⟨_, rfl⟩
  have hlength : places + 1 ≤ padded.length := by
    rw [hpadded, List.length_append, List.length_replicate]
    omega
  have hpad : ∀ c ∈ padded, c.isDigit = true := by
    intro c hc
    rw [hpadded] at hc
    exact (List.mem_append.mp hc).elim isDigit_of_mem_zeros isDigit_of_mem_toDigits
  have hdrop : (padded.drop (padded.length - places)).length = places := by
    rw [List.length_drop]
    omega
  have hempty : (padded.drop (padded.length - places)).isEmpty = false := by
    rw [List.isEmpty_eq_false_iff]
    apply List.ne_nil_of_length_pos
    omega
  refine ⟨padded.take (padded.length - places), padded.drop (padded.length - places),
    ⟨?_, ?_, ?_⟩, ?_, ?_⟩
  · apply List.ne_nil_of_length_pos
    simp only [List.length_take]
    omega
  · exact fun c hc => hpad c (List.mem_of_mem_take hc)
  · exact fun c hc => hpad c (List.mem_of_mem_drop hc)
  · rw [hempty, positional, if_neg h, hpadded, hplaces]
    rfl
  · have htotal : 1074 = exponent + places := by omega
    rw [List.take_append_drop, hdrop, hpadded, Decimal.digitsValue_zeros_append,
      Decimal.digitsValue_toDigits, Nat.mul_assoc, ← Nat.pow_add, ← htotal]

theorem writesDecimal (negative : Bool) (digits exponent : Nat) :
    WritesDecimal negative digits exponent := by
  by_cases h : 1074 ≤ exponent
  · exact writesDecimal_of_le negative digits h
  · exact writesDecimal_of_lt negative digits h

/-- A positive finite magnitude is written as a decimal number with the value of its shortest
digits. -/
theorem Magnitude.exists_decimal_shortest (negative : Bool) {m : Magnitude} (hpos : 0 < m.place)
    (hfinite : m.place < infinityPlace) :
    ∃ d : Decimal, d.WellFormed ∧ d.negative = negative ∧
      (Binary64.signed negative m).toChars = d.spelling ∧
      Decimal.digitsValue (d.whole ++ d.fraction) * 10 ^ 1074 =
        m.shortest.1 * 10 ^ m.shortest.2 * 10 ^ d.fraction.length := by
  obtain ⟨whole, fraction, hd, hpositional, hvalue⟩ :=
    writesDecimal negative m.shortest.1 m.shortest.2
  refine ⟨⟨negative, whole, fraction⟩, hd, rfl, ?_, hvalue⟩
  simp [Binary64.toChars, Magnitude.toChars, Nat.ne_of_gt hpos, Nat.ne_of_lt hfinite, hpositional,
    Decimal.spelling]

/-- A decimal number with the value of the shortest digits reads as the magnitude. -/
theorem Magnitude.nearest_of_shortest {m : Magnitude} (hpos : 0 < m.place) {n places : Nat}
    (hvalue : n * 10 ^ 1074 = m.shortest.1 * 10 ^ m.shortest.2 * 10 ^ places) :
    nearest n (Nat.pow 10 places) = m := by
  have hten : 0 < Nat.pow 10 places := Nat.pow_pos (by decide)
  have heq : m.shortest.1 * 10 ^ m.shortest.2 * Nat.pow 10 places =
      n * 2 ^ 1074 * decimalsPerUnit := by
    rw [Nat.mul_assoc n, two_pow_mul_decimalsPerUnit]
    exact hvalue.symm
  have hrounds := roundsTo_shortest hpos
  exact nearest_eq_of_roundsTo hten (hrounds.of_mul_eq decimalsPerUnit_pos hten heq)

/-- Zero is written as the digit zero, and reads as itself. -/
theorem Magnitude.zero_decimal (negative : Bool) {m : Magnitude} (hzero : m.place = 0) :
    Decimal.WellFormed ⟨negative, ['0'], []⟩ ∧
      (Binary64.signed negative m).toChars = Decimal.spelling ⟨negative, ['0'], []⟩ ∧
      Decimal.toBinary64 ⟨negative, ['0'], []⟩ = .signed negative m := by
  refine ⟨⟨by simp, by simp, by simp⟩, ?_, ?_⟩
  · simp [Binary64.toChars, Magnitude.toChars, hzero, Decimal.spelling]
  · have hm : nearest 0 1 = m := by
      apply nearest_eq_of_roundsTo (by decide)
      rw [Nat.zero_mul, hzero]
      simp [RoundsTo, unitsAt, blockSize]
    exact congrArg (Binary64.signed negative) hm

/-- A finite number is written as a decimal number that reads as the same number. -/
theorem Binary64.exists_decimal {x : Binary64} (hx : x.isFinite = true) :
    ∃ d : Decimal, d.WellFormed ∧ x.toChars = d.spelling ∧ d.toBinary64 = x := by
  cases x with
  | nan => cases hx
  | signed negative m =>
    have hfinite : m.place < infinityPlace := by simpa [Binary64.isFinite] using hx
    by_cases hzero : m.place = 0
    · exact ⟨_, m.zero_decimal negative hzero⟩
    · have hpos := Nat.pos_of_ne_zero hzero
      obtain ⟨d, hd, rfl, htext, hvalue⟩ := m.exists_decimal_shortest negative hpos hfinite
      exact ⟨d, hd, htext,
        congrArg (Binary64.signed d.negative) (Magnitude.nearest_of_shortest hpos hvalue)⟩

end Sift
