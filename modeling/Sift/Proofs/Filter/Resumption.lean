import Sift.Proofs.Filter.Quotation
import Sift.Proofs.Filter.Spacing

/-!
Reading on, whatever has been found. Where reading goes on depends on what it has left to read and
on nothing before that. A step either leaves less to read or finds what every later step finds too,
so after as many steps as the text has characters nothing new is found.
-/

namespace Sift

namespace Cursor

/-- What is found for good: the end of the text, or a character that nothing begins with. -/
def Lasts : Except SyntaxError (Option Lexeme) → Prop
  | .ok none => True
  | .ok (some _) => False
  | .error e => ∃ c, e.fault = .unexpectedCharacter c

/-- Where a step of reading leaves off in the text, by what it has found. A lexeme and a number too
large have been passed, as far as they go, and of `=` or `!` the one byte. Behind a quote without a
partner nothing is left. A character that nothing begins with has not been passed. A step finds no
other fault. -/
def LeftAfter (text : String) (stop : Cursor) : Except SyntaxError (Option Lexeme) → Prop
  | .ok none => stop = ⟨text.utf8ByteSize, []⟩
  | .ok (some l) => stop.offset = l.stop
  | .error ⟨.unknownOperator, _, position⟩ => stop.offset = position + 1
  | .error ⟨.numberOutOfRange, fragment, position⟩ =>
    ∃ d : Decimal, d.WellFormed ∧ fragment = String.ofList d.spelling ∧
      Longest d.spelling stop.rest ∧ stop.offset = position + utf8Length d.spelling
  | .error ⟨.unterminatedText, _, _⟩ => stop = ⟨text.utf8ByteSize, []⟩
  | .error ⟨.unexpectedCharacter c, _, position⟩ =>
    stop.offset = position ∧ stop.rest.head? = some c
  | .error _ => False

variable {cursor : Cursor} {text : String}

theorem after_add (cursor : Cursor) (steps more : Nat) :
    cursor.after (steps + more) = (cursor.after steps).after more := by
  induction more with
  | zero => rfl
  | succ more ih => rw [← Nat.add_assoc, after, ih, after]

theorem after_shift (n : Nat) (cursor : Cursor) (steps : Nat) :
    (cursor.shift n).after steps = (cursor.after steps).shift n := by
  induction steps with
  | zero => rfl
  | succ steps ih => rw [after, ih, next_shift, after]

/-- From a cursor on the rest of the text is read as if by itself, so many bytes further on. -/
theorem after_eq_shift (cursor : Cursor) (steps : Nat) :
    cursor.after steps =
      ((start (String.ofList cursor.rest)).after steps).shift cursor.offset := by
  have hstart : (start (String.ofList cursor.rest)).shift cursor.offset = cursor := by
    simp [shift, start]
  rw [← after_shift, hstart]

theorem offset_le_after (cursor : Cursor) (steps : Nat) :
    cursor.offset ≤ (cursor.after steps).offset := by
  rw [after_eq_shift]
  exact Nat.le_add_left _ _

theorem next_after_eq (cursor : Cursor) (steps : Nat) :
    (cursor.after steps).next.1 =
      (((start (String.ofList cursor.rest)).after steps).next.1.map
        (Option.map (Lexeme.shift cursor.offset))).mapError (SyntaxError.shift cursor.offset) := by
  rw [after_eq_shift cursor steps, next_shift]

theorem StandsIn.eq_end (h : cursor.StandsIn text) (hrest : cursor.rest = []) :
    cursor = ⟨text.utf8ByteSize, []⟩ := by
  obtain ⟨passed, htext, hoffset⟩ := h
  obtain ⟨offset, rest⟩ := cursor
  simp only at htext hoffset hrest
  rw [hrest, List.append_nil] at htext
  rw [hrest, hoffset, utf8ByteSize_eq, htext]

/-- Reading goes on behind every fault but a character that nothing begins with. -/
theorem leftAfter_of_faultAt {here : Cursor} {fault : SyntaxFault} {piece rest : List Char}
    (h : FaultAt fault piece (piece ++ rest)) (hfault : ∀ c, fault ≠ .unexpectedCharacter c)
    (hstop : (here.advance piece rest).StandsIn text) :
    (here.advance piece rest).LeftAfter text
      (.error ⟨fault, String.ofList piece, here.offset⟩) := by
  generalize hwhole : piece ++ rest = whole at h
  cases h with
  | unterminated hbody =>
    have hrest : rest = [] := List.append_right_eq_self.mp hwhole
    exact hstop.eq_end hrest
  | equals heq => exact rfl
  | exclamation heq htilde => exact rfl
  | @number d behind hd hinfinite hlongest =>
    obtain rfl : rest = behind := List.append_cancel_left hwhole
    exact ⟨d, hd, rfl, hlongest, rfl⟩
  | @character c => exact absurd rfl (hfault c)

theorem StandsIn.leftAfter_next (h : cursor.StandsIn text) :
    cursor.next.2.LeftAfter text cursor.next.1 := by
  have hstop := h.next
  have hsteps := cursor.steps_next
  have hfaultAt (e : SyntaxError) (he : cursor.next.1 = .error e) := (faultAt_of_next he).1
  generalize cursor.next = outcome at hsteps hstop hfaultAt
  cases hsteps with
  | ends hrest => exact hstop.eq_end hrest
  | takes hrest hspelling => exact rfl
  | faults hrest hpiece hfault =>
    have hat := hfaultAt _ rfl
    rw [String.toList_ofList, hrest] at hat
    exact leftAfter_of_faultAt hat hfault hstop
  | stays hrest => exact ⟨rfl, congrArg List.head? hrest⟩

/-- A step that takes nothing moves behind the blanks, and the next step finds the same there. -/
theorem next_of_lasts (h : Lasts cursor.next.1) : cursor.next.2.next = cursor.next := by
  have hsteps := cursor.steps_next
  generalize hnext : cursor.next = outcome at hsteps h
  cases hsteps with
  | ends hrest => exact cursor.next_skipBlanks.trans hnext
  | takes hrest hspelling => exact h.elim
  | faults hrest hpiece hfault =>
    obtain ⟨c, hc⟩ := h
    exact absurd hc (hfault c)
  | stays hrest => exact cursor.next_skipBlanks.trans hnext

theorem next_after_of_lasts (h : Lasts cursor.next.1) (steps : Nat) :
    (cursor.after steps).next = cursor.next := by
  induction steps with
  | zero => rfl
  | succ steps ih =>
    rw [← ih] at h
    rw [after, next_of_lasts h, ih]

/-- A step that finds something new leaves less to read. -/
theorem lasts_or_shortens (cursor : Cursor) :
    Lasts cursor.next.1 ∨ cursor.next.2.rest.length < cursor.rest.length := by
  have hblanks : cursor.skipBlanks.rest.length ≤ cursor.rest.length :=
    (List.dropWhile_sublist isBlank).length_le
  have hshort {piece rest : List Char} (hrest : cursor.skipBlanks.rest = piece ++ rest)
      (hpiece : piece ≠ []) : rest.length < cursor.rest.length := by
    have hpos := List.length_pos_iff.mpr hpiece
    rw [hrest, List.length_append] at hblanks
    omega
  have hsteps := cursor.steps_next
  generalize cursor.next = outcome at hsteps
  cases hsteps with
  | ends hrest => exact .inl trivial
  | takes hrest hspelling => exact .inr (hshort hrest hspelling.ne_nil)
  | faults hrest hpiece hfault => exact .inr (hshort hrest hpiece)
  | @stays c rest hrest => exact .inl ⟨c, rfl⟩

theorem lasts_or_length_after_le (cursor : Cursor) (steps : Nat) :
    Lasts (cursor.after steps).next.1 ∨
      (cursor.after steps).rest.length + steps ≤ cursor.rest.length := by
  induction steps with
  | zero => exact .inr (Nat.le_refl _)
  | succ steps ih =>
    by_cases hlasts : Lasts (cursor.after steps).next.1
    · refine .inl ?_
      rwa [after, next_of_lasts hlasts]
    · have hlength := ih.resolve_left hlasts
      have hshort := (cursor.after steps).lasts_or_shortens.resolve_left hlasts
      refine .inr ?_
      rw [after]
      omega

/-- After as many steps as there are characters nothing new is found. -/
theorem lasts_after_length (cursor : Cursor) :
    Lasts (cursor.after cursor.rest.length).next.1 := by
  rcases cursor.lasts_or_length_after_le cursor.rest.length with hlasts | hlength
  · exact hlasts
  · have hrest : (cursor.after cursor.rest.length).rest = [] :=
      List.eq_nil_of_length_eq_zero (by omega)
    have hnone : (cursor.after cursor.rest.length).next.1 = .ok none :=
      (next_eq_none_iff _).mpr (by simp [hrest])
    rw [hnone]
    trivial

end Cursor

/-- Reading may go on after any number of steps, faults or not. What is left to read is the text
from the offset of the cursor on, which lies between characters, and a step leaves off where what it
finds says. No later step goes back. It finds what it would find if what was left had been read by
itself, so many bytes further on, and what is found for good is found by every later step, which
stays there. So after as many steps as the text has characters the answer is always the same. -/
theorem reading_settles (text : String) :
    (∀ steps here, here = (Cursor.start text).after steps →
      Slice text here.offset text.utf8ByteSize (String.ofList here.rest) ∧
      here.next.2.LeftAfter text here.next.1 ∧
      ∀ more later, later = (Cursor.start text).after (steps + more) →
        here.offset ≤ later.offset ∧
        later.next.1 = (((Cursor.start (String.ofList here.rest)).after more).next.1.map
          (Option.map (Lexeme.shift here.offset))).mapError (SyntaxError.shift here.offset) ∧
        (Cursor.Lasts here.next.1 → later.next = here.next)) ∧
    ∃ answer, Cursor.Lasts answer ∧
      ∀ steps, text.length ≤ steps → ((Cursor.start text).after steps).next.1 = answer := by
  constructor
  · rintro steps here rfl
    have hstands := (Cursor.standsIn_start text).after steps
    refine ⟨hstands.slice_rest, hstands.leftAfter_next, ?_⟩
    rintro more later rfl
    rw [Cursor.after_add]
    refine ⟨Cursor.offset_le_after _ more, Cursor.next_after_eq _ more, ?_⟩
    intro hlasts
    exact Cursor.next_after_of_lasts hlasts more
  · have hlasts := (Cursor.start text).lasts_after_length
    rw [Cursor.start, String.length_toList] at hlasts
    refine ⟨_, hlasts, ?_⟩
    intro steps hsteps
    obtain ⟨more, rfl⟩ := Nat.exists_eq_add_of_le hsteps
    rw [Cursor.after_add]
    exact congrArg Prod.fst (Cursor.next_after_of_lasts hlasts more)

/-- Reading goes on behind the equals sign, takes the name, and stays in front of the last
character. -/
theorem reading_settles_stuck :
    ((Cursor.start "= n #").after 1).offset = 1 ∧
      (∀ more, ((Cursor.start "= n #").after (2 + more)).next.1 =
        .error ⟨.unexpectedCharacter '#', "#", 4⟩) ∧
      Cursor.Lasts ((Cursor.start "= n #").after 5).next.1 := by
  have hequals : ((Cursor.start "= n #").after 0).next.1 =
      .error ⟨.unknownOperator, "=", 0⟩ := by
    decide +kernel
  have hsign : ((Cursor.start "= n #").after 2).next.1 =
      .error ⟨.unexpectedCharacter '#', "#", 4⟩ := by
    decide +kernel
  have hlasts : Cursor.Lasts ((Cursor.start "= n #").after 2).next.1 := by
    rw [hsign]
    exact ⟨'#', rfl⟩
  obtain ⟨hsteps, answer, hanswer, hsame⟩ := reading_settles "= n #"
  obtain ⟨-, hleft, -⟩ := hsteps 0 _ rfl
  obtain ⟨-, -, hlater⟩ := hsteps 2 _ rfl
  refine ⟨?_, ?_, ?_⟩
  · rw [hequals] at hleft
    exact hleft
  · intro more
    obtain ⟨-, -, hstays⟩ := hlater more _ rfl
    rw [hstays hlasts, hsign]
  · rw [hsame 5 (by decide)]
    exact hanswer

/-- As many steps as there are characters can be needed. -/
example : ((Cursor.start "((").after 1).next.1 ≠ ((Cursor.start "((").after 2).next.1 := by
  decide +kernel

end Sift
