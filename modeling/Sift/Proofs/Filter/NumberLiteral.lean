import Sift.Filter.Printer
import Sift.Proofs.Binary64.FewestDigits
import Sift.Proofs.Filter.Splitting

/-!
Number literals. A decimal number that is a text by itself is read as one lexeme, which is the
nearest floating-point number, or it is out of range. The text that a number is written as is read
as that very number, and so is no decimal number with fewer significant digits.
-/

namespace Sift

/-- A decimal number by itself is one lexeme, or out of range. -/
theorem lexemes_of_wellFormed {text : String} {d : Decimal} (hd : d.WellFormed)
    (htext : text.toList = d.spelling) :
    lexemes text = if d.toBinary64.isFinite then .ok [⟨.number d.toBinary64, d.spelling, 0⟩]
      else .error ⟨.numberOutOfRange, text, 0⟩ := by
  have hstops : Decimal.Stops d.fraction [] := ⟨by simp, by simp⟩
  have hlongest := Longest.number hd hstops
  have hstart : Cursor.start text = ⟨0, d.spelling ++ []⟩ := by
    rw [Cursor.start, htext, List.append_nil]
  change (Cursor.start text).lexemes = _
  rw [hstart]
  cases hfinite : d.toBinary64.isFinite with
  | true => exact (Splits.single (.number hd hfinite) hlongest 0).lexemes_eq_ok rfl
  | false =>
    have hfault : FaultAt .numberOutOfRange d.spelling (Cursor.mk 0 (d.spelling ++ [])).rest :=
      .number hd hfinite hlongest
    rw [hfault.lexemes_eq, ← htext, String.ofList_toList]
    rfl

/-- The text is one lexeme from end to end, and that is the number with these bits. -/
def ReadsAs (text : String) (bits : Nat) : Prop :=
  ∃ l x, lexemes text = .ok [l] ∧ l.position = 0 ∧ l.stop = text.utf8ByteSize ∧
    l.token = .number x ∧ x.bits? = some bits

section

variable {text : String} {d : Decimal} (hd : d.WellFormed) (htext : text.toList = d.spelling)

include hd htext

theorem readsAs_of_finite (hfinite : d.toBinary64.isFinite = true) {bits : Nat}
    (hbits : d.toBinary64.bits? = some bits) : ReadsAs text bits := by
  have hlexemes := lexemes_of_wellFormed hd htext
  rw [if_pos hfinite] at hlexemes
  refine ⟨_, d.toBinary64, hlexemes, rfl, ?_, rfl, hbits⟩
  rw [utf8ByteSize_eq, htext, Lexeme.stop, Nat.zero_add]

theorem ReadsAs.bits?_eq {bits : Nat} (h : ReadsAs text bits) :
    d.toBinary64.bits? = some bits := by
  obtain ⟨l, x, hlexemes, -, -, htoken, hbits⟩ := h
  rw [lexemes_of_wellFormed hd htext] at hlexemes
  split at hlexemes
  · cases hlexemes
    cases htoken
    exact hbits
  · cases hlexemes

end

/-- A decimal number of any length that is a text by itself is read as the number nearest to its
value, with the same sign, if its magnitude is less than the midpoint between the largest number and
the power of two behind it. Of two numbers that are equally near it is the one with the even
significand, so there is only one that it can be. Any other decimal number is out of range, and the
error quotes all of it. -/
theorem decimal_read_nearest {text : String} {d : Decimal} (hd : d.WellFormed)
    (htext : text.toList = d.spelling) :
    (|d.value| < 2 ^ 1024 - 2 ^ 970 →
      ∃ bits, ReadsAs text bits ∧ Encoding.negative bits = d.negative ∧
        Encoding.Nearest bits d.value ∧
        ∀ other, Encoding.negative other = d.negative → Encoding.Nearest other d.value →
          other = bits) ∧
    (2 ^ 1024 - 2 ^ 970 ≤ |d.value| →
      ∃ e, lexemes text = .error e ∧ e.fault.message = "number out of range" ∧ e.position = 0 ∧
        e.fragment = text) := by
  constructor
  · intro hsmall
    have hfinite := d.isFinite_toBinary64_iff.mpr hsmall
    obtain ⟨bits, hbits, hnegative, hnearest⟩ := Decimal.nearest_toBinary64 hfinite
    refine ⟨bits, readsAs_of_finite hd htext hfinite hbits, hnegative, hnearest, ?_⟩
    intro other hother hnearest'
    exact hnearest'.unique hnearest (hother.trans hnegative.symm)
  · intro hlarge
    have hinfinite : ¬ d.toBinary64.isFinite = true := by
      rw [d.isFinite_toBinary64_iff]
      exact not_lt.mpr hlarge
    have hlexemes := lexemes_of_wellFormed hd htext
    rw [if_neg hinfinite] at hlexemes
    exact ⟨_, hlexemes, rfl, rfl, rfl⟩

def Decimal.tenPower (zeros : Nat) : Decimal := ⟨false, '1' :: List.replicate zeros '0', []⟩

theorem Decimal.wellFormed_tenPower (zeros : Nat) : (tenPower zeros).WellFormed where
  whole_ne_nil := List.cons_ne_nil _ _
  whole_digits := by
    intro c hc
    rcases List.mem_cons.mp hc with rfl | hc
    · rfl
    · exact isDigit_of_mem_zeros hc
  fraction_digits := by
    intro c hc
    cases hc

theorem Decimal.value_tenPower (zeros : Nat) : (tenPower zeros).value = 10 ^ zeros := by
  have hzeros : digitsValue (List.replicate zeros '0') = 0 := by
    simpa [digitsValue] using digitsValue_zeros_append [] zeros
  rw [value, magnitude, tenPower, wholeValue_eq, digitsValue_cons, hzeros, List.length_replicate]
  simp [withSign, fractionValue, digitValue]

theorem Encoding.one_le_last_midpoint : (1 : ℚ) ≤ 2 ^ 1024 - 2 ^ 970 := by
  have hpower : (1 : ℚ) ≤ 2 ^ 970 := one_le_pow₀ (by norm_num)
  have htop : (2 : ℚ) ^ 1024 = 2 ^ 54 * 2 ^ 970 := by rw [← pow_add]
  rw [htop]
  generalize (2 : ℚ) ^ 970 = step at hpower
  linarith

theorem Encoding.last_midpoint_le : (2 : ℚ) ^ 1024 - 2 ^ 970 ≤ 10 ^ 400 := by
  have hstep : (0 : ℚ) ≤ 2 ^ 970 := pow_nonneg (by norm_num) 970
  calc (2 : ℚ) ^ 1024 - 2 ^ 970
      ≤ 2 ^ 1024 := sub_le_self _ hstep
    _ ≤ 2 ^ (3 * 400) := pow_le_pow_right₀ (by norm_num) (by norm_num)
    _ = (2 ^ 3) ^ 400 := pow_mul 2 3 400
    _ ≤ 10 ^ 400 := pow_le_pow_left₀ (by norm_num) (by norm_num) 400

/-- A tenth, which no number is equal to, and a number that is too large by far. -/
theorem decimal_read_nearest_tenth :
    (∃ bits, ReadsAs "-0.1" bits ∧ Encoding.negative bits = true ∧
      Encoding.Nearest bits (-(1 / 10))) ∧
    ∃ e, lexemes (String.ofList (Decimal.tenPower 400).spelling) = .error e ∧
      e.fault.message = "number out of range" := by
  constructor
  · let d : Decimal := ⟨true, ['0'], ['1']⟩
    have hd : d.WellFormed := ⟨by simp [d], by simp [d], by simp [d]⟩
    have hvalue : d.value = -(1 / 10) := by
      simp [d, Decimal.value, Decimal.magnitude, Decimal.wholeValue, Decimal.fractionValue,
        Decimal.digitValue, withSign]
    have hsmall : |d.value| < 2 ^ 1024 - 2 ^ 970 := by
      rw [hvalue, abs_neg, abs_of_pos (by norm_num)]
      exact lt_of_lt_of_le (by norm_num) Encoding.one_le_last_midpoint
    have htext : "-0.1".toList = d.spelling := rfl
    obtain ⟨bits, hreads, hnegative, hnearest, -⟩ := (decimal_read_nearest hd htext).1 hsmall
    exact ⟨bits, hreads, hnegative, hvalue ▸ hnearest⟩
  · have hd := Decimal.wellFormed_tenPower 400
    have hlarge : 2 ^ 1024 - 2 ^ 970 ≤ |(Decimal.tenPower 400).value| := by
      rw [Decimal.value_tenPower, abs_of_pos (by positivity)]
      exact Encoding.last_midpoint_le
    obtain ⟨e, herror, hmessage, -⟩ := (decimal_read_nearest hd (String.toList_ofList)).2 hlarge
    exact ⟨e, herror, hmessage⟩

/-- Every finite number is written as a decimal number without an exponent. That text is read as one
lexeme from end to end, which is the number with the same 64 bits. No decimal number with fewer
significant digits is read as that number. -/
theorem number_text_fewest_digits {bits : Nat} (h : Encoding.Finite bits) :
    ∃ x : Binary64, x.bits? = some bits ∧ (∀ y : Binary64, y.bits? = some bits → y = x) ∧
      ∃ d : Decimal, d.WellFormed ∧ (Literal.number x).toChars = d.spelling ∧
        ReadsAs (String.ofList d.spelling) bits ∧
        ∀ d' : Decimal, d'.WellFormed → ReadsAs (String.ofList d'.spelling) bits →
          d.significantDigits ≤ d'.significantDigits := by
  obtain ⟨negative, m, hm, rfl⟩ := Magnitude.exists_eq_encoding h
  have hfinite : (Binary64.signed negative m).isFinite = true := decide_eq_true hm
  obtain ⟨d, hd, htext, hreads, hfewest⟩ := Binary64.exists_fewest_digits hfinite
  have hbits : (Binary64.signed negative m).bits? = some (m.encoding negative) := rfl
  have hunique (y : Binary64) (hy : y.bits? = some (m.encoding negative)) :
      y = .signed negative m := Binary64.eq_of_bits? hy hbits
  refine ⟨.signed negative m, hbits, hunique, d, hd, htext, ?_, ?_⟩
  · rw [← hreads] at hfinite hbits
    exact readsAs_of_finite hd String.toList_ofList hfinite hbits
  · intro d' hd' hreads'
    exact hfewest d' hd' (hunique _ (hreads'.bits?_eq hd' String.toList_ofList))

/-- A tenth is written with a single digit that counts. -/
theorem number_text_fewest_digits_tenth : ∃ (x : Binary64) (d : Decimal),
    x.bits? = some 4591870180066957722 ∧ (Literal.number x).toChars = d.spelling ∧
      ReadsAs (String.ofList d.spelling) 4591870180066957722 ∧ d.significantDigits ≤ 1 := by
  have hfinite : Encoding.Finite 4591870180066957722 := ⟨by decide, by decide⟩
  obtain ⟨x, hbits, -, d, -, htext, hreads, hfewest⟩ := number_text_fewest_digits hfinite
  let tenth : Decimal := ⟨false, ['0'], ['1']⟩
  have htenth : tenth.WellFormed := ⟨by simp [tenth], by simp [tenth], by simp [tenth]⟩
  have hreads' : ReadsAs (String.ofList tenth.spelling) 4591870180066957722 :=
    readsAs_of_finite htenth String.toList_ofList (by decide +kernel) (by decide +kernel)
  exact ⟨x, d, hbits, htext, hreads, hfewest tenth htenth hreads'⟩

end Sift
