import Mathlib.Data.List.TakeWhile
import Sift.Proofs.Binary64.Printing

/-!
Reading decimal numbers takes as much of the text as a number can cover. It takes the spelling of a
number exactly where that number comes to its end, and nothing only where no number begins.
-/

namespace Sift.Decimal

theorem Stops.of_append {fraction more rest : List Char} (h : Stops fraction (more ++ rest)) :
    Stops fraction more where
  digit := by
    intro c hc
    cases more with
    | nil => cases hc
    | cons d more => exact h.digit c hc
  point := by
    rintro hnil c text rfl
    exact h.point hnil c (text ++ rest) rfl

theorem head?_dropWhile_isDigit (text : List Char) :
    ∀ c, (text.dropWhile Char.isDigit).head? = some c → c.isDigit = false := by
  intro c hc
  have hnot := List.head?_dropWhile_not Char.isDigit text
  rw [hc] at hnot
  simpa using hnot

private theorem stops_of_readFraction {text : List Char}
    (htext : ∀ c, text.head? = some c → c.isDigit = false) :
    (∀ c ∈ (readFraction text).1, c.isDigit = true) ∧
      Stops (readFraction text).1 (readFraction text).2 := by
  unfold readFraction
  split
  · rename_i rest
    by_cases hnil : rest.takeWhile Char.isDigit = []
    · rw [if_pos hnil]
      refine ⟨by simp, htext, ?_⟩
      rintro - c more heq
      obtain rfl : rest = c :: more := (List.cons.inj heq).2
      by_contra hc
      rw [List.takeWhile_cons_of_pos (by simpa using hc)] at hnil
      cases hnil
    · rw [if_neg hnil]
      refine ⟨fun c hc => List.mem_takeWhile_imp hc, head?_dropWhile_isDigit rest, ?_⟩
      exact fun habsurd => absurd habsurd hnil
  · rename_i hpoint
    refine ⟨by simp, htext, ?_⟩
    rintro - c more rfl
    exact absurd rfl (hpoint (c :: more))

private theorem stops_of_readUnsigned? {negative : Bool} {text rest : List Char} {d : Decimal}
    (h : readUnsigned? negative text = some (d, rest)) :
    d.WellFormed ∧ Stops d.fraction rest := by
  obtain ⟨hdigits, hstops⟩ := stops_of_readFraction (head?_dropWhile_isDigit text)
  unfold readUnsigned? at h
  by_cases hwhole : text.takeWhile Char.isDigit = []
  · simp [hwhole] at h
  · simp only [hwhole, if_false, Option.some.injEq, Prod.mk.injEq] at h
    obtain ⟨rfl, rfl⟩ := h
    exact ⟨⟨hwhole, fun c hc => List.mem_takeWhile_imp hc, hdigits⟩, hstops⟩

/-- Reading takes the spelling of a number from the front of a text exactly where that number comes
to its end. -/
theorem read?_eq_some_iff (text rest : List Char) (d : Decimal) :
    read? text = some (d, rest) ↔
      d.WellFormed ∧ Stops d.fraction rest ∧ text = d.spelling ++ rest := by
  constructor
  · intro h
    have hspelling := spelling_append_of_read? h
    have hstops : d.WellFormed ∧ Stops d.fraction rest := by
      unfold read? at h
      split at h
      · exact stops_of_readUnsigned? h
      · exact stops_of_readUnsigned? h
    exact ⟨hstops.1, hstops.2, hspelling.symm⟩
  · rintro ⟨hd, hstops, rfl⟩
    exact read?_spelling_append hd hstops

/-- Where a number begins, one is read. -/
theorem WellFormed.read?_ne_none {d : Decimal} (h : d.WellFormed) (rest : List Char) :
    read? (d.spelling ++ rest) ≠ none := by
  obtain ⟨negative, whole, fraction⟩ := d
  obtain ⟨c, whole, rfl⟩ := List.exists_cons_of_ne_nil h.whole_ne_nil
  have hc : c.isDigit = true := h.whole_digits c (by simp)
  cases negative with
  | true =>
    simp only [spelling, if_true, List.append_assoc, List.cons_append, List.nil_append]
    simp [read?, readUnsigned?, hc]
  | false =>
    have hminus : c ≠ '-' := by
      rintro rfl
      exact absurd hc (by decide)
    simp only [spelling, Bool.false_eq_true, if_false, List.append_assoc, List.nil_append,
      List.cons_append]
    unfold read?
    split
    · rename_i heq
      exact absurd (List.cons.inj heq).1 hminus
    · simp [readUnsigned?, hc]

/-- A number that has not come to its end is the front of a longer number. -/
theorem WellFormed.exists_longer {d : Decimal} (h : d.WellFormed) {rest : List Char}
    (hrest : ¬ Stops d.fraction rest) :
    ∃ more, more ≠ [] ∧ more <+: rest ∧
      ∃ d' : Decimal, d'.WellFormed ∧ d'.spelling = d.spelling ++ more := by
  obtain ⟨negative, whole, fraction⟩ := d
  by_cases hdigit : ∃ c, rest.head? = some c ∧ c.isDigit = true
  · obtain ⟨c, hhead, hc⟩ := hdigit
    obtain ⟨rest, rfl⟩ : ∃ tail, rest = c :: tail := List.head?_eq_some_iff.mp hhead
    refine ⟨[c], by simp, ⟨rest, rfl⟩, ?_⟩
    by_cases hnil : fraction = []
    · subst hnil
      refine ⟨⟨negative, whole ++ [c], []⟩, ⟨by simp, ?_, by simp⟩, by simp [spelling]⟩
      intro d hd
      rcases List.mem_append.mp hd with hd | hd
      · exact h.whole_digits d hd
      · exact List.mem_singleton.mp hd ▸ hc
    · have hempty : fraction.isEmpty = false := by simp [hnil]
      refine ⟨⟨negative, whole, fraction ++ [c]⟩, ⟨h.whole_ne_nil, h.whole_digits, ?_⟩,
        by simp [spelling, hempty]⟩
      intro d hd
      rcases List.mem_append.mp hd with hd | hd
      · exact h.fraction_digits d hd
      · exact List.mem_singleton.mp hd ▸ hc
  · have hpoint : fraction = [] ∧ ∃ c more, rest = '.' :: c :: more ∧ c.isDigit = true := by
      by_contra hnone
      refine hrest ⟨?_, ?_⟩
      · intro c hc
        by_contra hdigits
        exact hdigit ⟨c, hc, by simpa using hdigits⟩
      · intro hnil c more hmore
        by_contra hdigits
        exact hnone ⟨hnil, c, more, hmore, by simpa using hdigits⟩
    obtain ⟨rfl, c, more, rfl, hc⟩ := hpoint
    refine ⟨['.', c], by simp, ⟨more, rfl⟩, ⟨negative, whole, [c]⟩, ?_, by simp [spelling]⟩
    refine ⟨h.whole_ne_nil, h.whole_digits, ?_⟩
    intro d hd
    exact List.mem_singleton.mp hd ▸ hc

end Sift.Decimal
