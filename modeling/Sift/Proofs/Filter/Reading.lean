import Sift.Proofs.Binary64.Numerals
import Sift.Proofs.Filter.Lexing

namespace Sift

theorem toNat_of_isDigit {c : Char} (h : c.isDigit = true) : 48 ≤ c.toNat ∧ c.toNat ≤ 57 := by
  simpa [Char.isDigit, UInt32.le_iff_toNat_le] using h

theorem toNat_of_isNameStart {c : Char} (h : Reading.isNameStart c = true) :
    65 ≤ c.toNat ∧ c.toNat ≤ 122 := by
  have hranges : (decide (c.val ≥ 65 ∧ c.val ≤ 90) ||
      (decide (c.val ≥ 97) && decide (c.val ≤ 122)) || c == '_') = true := h
  simp only [Bool.or_eq_true, Bool.and_eq_true, decide_eq_true_eq, beq_iff_eq, ge_iff_le,
    UInt32.le_iff_toNat_le] at hranges
  change ((65 ≤ c.toNat ∧ c.toNat ≤ 90) ∨ (97 ≤ c.toNat ∧ c.toNat ≤ 122)) ∨ c = '_' at hranges
  rcases hranges with (h | h) | rfl
  · omega
  · omega
  · decide

theorem isBlank_eq_false {c : Char} (h : 33 ≤ c.toNat ∧ c.toNat ≤ 126) : isBlank c = false := by
  simp [isBlank]
  omega

namespace Reading

theorem ofText_quoted {body : List Char} (hbody : '\'' ∉ body) (text : List Char) :
    ofText '\'' (body ++ '\'' :: text) =
      ⟨.ok (.text (String.ofList body)), '\'' :: body ++ ['\''], text⟩ := by
  have hinside : ∀ d ∈ body, (d != '\'') = true := by
    intro d hd
    have hne : d ≠ '\'' := fun heq => hbody (heq ▸ hd)
    simpa using hne
  have htake : (body ++ '\'' :: text).takeWhile (· != '\'') = body := by
    rw [List.takeWhile_append_of_pos hinside, List.takeWhile_cons_of_neg (by simp),
      List.append_nil]
  have hdrop : (body ++ '\'' :: text).dropWhile (· != '\'') = '\'' :: text := by
    rw [List.dropWhile_append_of_pos hinside, List.dropWhile_cons_of_neg (by simp)]
  change quoted (body ++ '\'' :: text) = _
  unfold quoted
  rw [hdrop, htake]

theorem ofText_eq {c : Char} (text : List Char)
    (h : c.toNat = 45 ∨ 48 ≤ c.toNat ∧ c.toNat ≤ 57 ∨ 65 ≤ c.toNat ∧ c.toNat ≤ 122) :
    ofText c text =
      match Decimal.read? (c :: text) with
      | some (decimal, rest) => number decimal rest
      | none =>
        if isNameStart c then word (c :: text)
        else ⟨.error (.unexpectedCharacter c), [c], text⟩ := by
  have hne : ∀ d ∈ ['(', ')', '\'', '=', '!', '>', '<', '~'], c ≠ d := by
    rintro d hd rfl
    simp only [List.mem_cons, List.not_mem_nil, or_false] at hd
    rcases hd with rfl | rfl | rfl | rfl | rfl | rfl | rfl | rfl
    all_goals exact absurd h (by decide)
  simp only [List.mem_cons, List.not_mem_nil, or_false, forall_eq_or_imp, forall_eq] at hne
  obtain ⟨hopen, hclose, hquote, heq, hnot, hgt, hlt, hmatch⟩ := hne
  have hoperator : isOperatorStart c = false := by
    simp [isOperatorStart, heq, hnot, hgt, hlt, hmatch]
  unfold ofText
  rw [if_neg hopen, if_neg hclose, if_neg hquote]
  exact if_neg (by simp [hoperator])

theorem ofText_of_isNameStart {c : Char} (hc : isNameStart c = true) (text : List Char) :
    ofText c text = word (c :: text) := by
  have hrange := toNat_of_isNameStart hc
  have hdigit : c.isDigit = false := by
    by_contra h
    have := toNat_of_isDigit (Bool.not_eq_false _ ▸ h)
    omega
  have hminus : c ≠ '-' := by
    rintro rfl
    exact absurd hrange (by decide)
  have hread : Decimal.read? (c :: text) = none := by
    unfold Decimal.read?
    split
    · rename_i heq
      exact absurd (List.cons.inj heq).1 hminus
    · simp [Decimal.readUnsigned?, hdigit]
  rw [ofText_eq text (by omega), hread]
  simp [hc]

/-- A word ends where no letter, digit or underscore follows. -/
theorem ofText_word {c : Char} {rest text : List Char} (hc : isNameStart c = true)
    (hrest : ∀ d ∈ rest, isNamePart d = true)
    (htext : ∀ d, text.head? = some d → isNamePart d = false) :
    ofText c (rest ++ text) = ⟨.ok (Token.ofWord (c :: rest)), c :: rest, text⟩ := by
  have hparts : ∀ d ∈ c :: rest, isNamePart d = true :=
    List.forall_mem_cons.mpr ⟨isNamePart_of_isNameStart hc, hrest⟩
  have htail : text.takeWhile isNamePart = [] ∧ text.dropWhile isNamePart = text := by
    cases text with
    | nil => exact ⟨rfl, rfl⟩
    | cons d text =>
      have hd : ¬ isNamePart d = true := by simp [htext d rfl]
      exact ⟨List.takeWhile_cons_of_neg hd, List.dropWhile_cons_of_neg hd⟩
  rw [ofText_of_isNameStart hc, ← List.cons_append]
  simp only [word, List.takeWhile_append_of_pos hparts, List.dropWhile_append_of_pos hparts, htail,
    List.append_nil]

theorem ofText_number {c : Char} {rest text : List Char} {d : Decimal} (hd : d.WellFormed)
    (hspelling : d.spelling = c :: rest) (hstops : Decimal.Stops d.fraction text) :
    ofText c (rest ++ text) = number d text := by
  have hread := Decimal.read?_spelling_append hd hstops
  obtain ⟨first, tail, heq, hfirst⟩ := hd.exists_cons_spelling
  rw [hspelling, List.cons.injEq] at heq
  obtain ⟨rfl, rfl⟩ := heq
  have hrange : c.toNat = 45 ∨ 48 ≤ c.toNat ∧ c.toNat ≤ 57 := by
    rcases hfirst with rfl | hdigit
    · exact .inl rfl
    · exact .inr (toNat_of_isDigit hdigit)
  rw [hspelling, List.cons_append] at hread
  rw [ofText_eq _ (by omega), hread]

end Reading

end Sift
