import Sift.Proofs.Filter.LongestMatch

/-!
Splitting a text into lexemes follows the lexical grammar. The lexemes of a text are the only ones
that it splits into to its end, and a text that does not split to its end has a fault where the
splitting stops.
-/

namespace Sift

theorem utf8Length_append (text text' : List Char) :
    utf8Length (text ++ text') = utf8Length text + utf8Length text' := by
  induction text with
  | nil => simp [utf8Length]
  | cons c text ih => simp [utf8Length, ih, Nat.add_assoc]

theorem utf8Length_pos {text : List Char} (h : text ≠ []) : 0 < utf8Length text := by
  obtain ⟨c, rest, rfl⟩ := List.exists_cons_of_ne_nil h
  have hc := c.utf8Size_pos
  rw [utf8Length]
  omega

theorem utf8ByteSize_ofList (chars : List Char) :
    (String.ofList chars).utf8ByteSize = utf8Length chars := by
  induction chars with
  | nil => rfl
  | cons c chars ih =>
    have hcons : String.ofList (c :: chars) = String.singleton c ++ String.ofList chars := by
      apply String.toList_injective
      simp
    rw [hcons, String.utf8ByteSize_append, String.utf8ByteSize_singleton, ih, utf8Length]

theorem utf8ByteSize_eq (text : String) : text.utf8ByteSize = utf8Length text.toList := by
  rw [← utf8ByteSize_ofList, String.ofList_toList]

/-- The lexeme covers the piece of the text that its position and its spelling say. -/
def Lexeme.Covers (l : Lexeme) (cursor : Cursor) : Prop :=
  l.spelling ≠ [] ∧ ∃ before after, cursor.rest = before ++ l.spelling ++ after ∧
    l.position = cursor.offset + utf8Length before

theorem Token.HasSpelling.ne_nil {token : Token} {piece : List Char}
    (h : token.HasSpelling piece) : piece ≠ [] := by
  obtain ⟨c, rest, hpiece, -⟩ := Lexical.exists_kind (.inl ⟨token, h⟩)
  rw [hpiece]
  exact List.cons_ne_nil c rest

namespace Splits

variable {a b c : Cursor} {l : Lexeme} {ls ls' : List Lexeme}

theorem append (h : Splits a ls b) (h' : Splits b ls' c) : Splits a (ls ++ ls') c := by
  induction h with
  | @blanks offset blanks rest hblanks =>
    cases h' with
    | @blanks _ blanks' rest' hblanks' =>
      have hboth := List.forall_mem_append.mpr ⟨hblanks, hblanks'⟩
      have hsplits : Splits ⟨offset, (blanks ++ blanks') ++ rest'⟩ []
          ⟨offset + utf8Length (blanks ++ blanks'), rest'⟩ := .blanks hboth
      rw [utf8Length_append, ← Nat.add_assoc, List.append_assoc] at hsplits
      exact hsplits
    | lexeme hblanks' hposition hspelling hlongest hrest =>
      have hboth := List.forall_mem_append.mpr ⟨hblanks, hblanks'⟩
      rw [Nat.add_assoc, ← utf8Length_append] at hposition
      rw [← List.append_assoc]
      exact .lexeme hboth hposition hspelling hlongest hrest
  | lexeme hblanks hposition hspelling hlongest _ ih =>
    exact .lexeme hblanks hposition hspelling hlongest (ih h')

theorem refl (a : Cursor) : Splits a [] a := by
  have hblanks : ∀ c ∈ ([] : List Char), isBlank c = true := by simp
  exact .blanks hblanks

theorem single {token : Token} {piece rest : List Char} (hspelling : token.HasSpelling piece)
    (hlongest : Longest piece rest) (offset : Nat) :
    Splits ⟨offset, piece ++ rest⟩ [⟨token, piece, offset⟩] ⟨offset + utf8Length piece, rest⟩ := by
  have hblanks : ∀ c ∈ ([] : List Char), isBlank c = true := by simp
  let l : Lexeme := ⟨token, piece, offset⟩
  have hposition : l.position = offset + utf8Length [] := rfl
  exact .lexeme hblanks hposition hspelling hlongest (.refl _)

/-- A splitting stops behind what it has passed. -/
theorem exists_passed (h : Splits a ls b) :
    ∃ passed, a.rest = passed ++ b.rest ∧ b.offset = a.offset + utf8Length passed := by
  induction h with
  | @blanks offset blanks rest _ => exact ⟨blanks, rfl, rfl⟩
  | @lexeme offset blanks rest l ls stop _ hposition _ _ _ ih =>
    obtain ⟨passed, hrest, hoffset⟩ := ih
    simp only at hrest hoffset
    refine ⟨blanks ++ (l.spelling ++ passed), by simp [hrest], ?_⟩
    simp only [Lexeme.stop, utf8Length_append] at hoffset ⊢
    omega

theorem covers (h : Splits a ls b) : ∀ l ∈ ls, l.Covers a := by
  induction h with
  | blanks => simp
  | @lexeme offset blanks rest l ls stop _ hposition hspelling _ _ ih =>
    intro m hm
    rcases List.mem_cons.mp hm with rfl | hm
    · exact ⟨hspelling.ne_nil, blanks, rest, by simp, hposition⟩
    · obtain ⟨hne, before, after, hrest, hbefore⟩ := ih m hm
      simp only at hrest hbefore
      refine ⟨hne, blanks ++ (l.spelling ++ before), after, by simp [hrest], ?_⟩
      simp only [Lexeme.stop, utf8Length_append] at hbefore ⊢
      omega

theorem offset_le (h : Splits a ls b) : ∀ l ∈ ls, a.offset ≤ l.position := by
  intro l hl
  obtain ⟨-, before, after, -, hposition⟩ := h.covers l hl
  omega

/-- The lexemes of a splitting stand one behind the other. -/
theorem pairwise_stop_le (h : Splits a ls b) : ls.Pairwise (fun l m => l.stop ≤ m.position) := by
  induction h with
  | blanks => exact .nil
  | lexeme _ _ _ _ hrest ih => exact .cons hrest.offset_le ih

end Splits

namespace Cursor

variable {cursor : Cursor} {l : Lexeme}

theorem next_append_of_isBlank {blanks : List Char} (h : ∀ c ∈ blanks, isBlank c = true)
    (offset : Nat) (rest : List Char) :
    (⟨offset, blanks ++ rest⟩ : Cursor).next =
      (⟨offset + utf8Length blanks, rest⟩ : Cursor).next := by
  induction blanks generalizing offset with
  | nil => rfl
  | cons c blanks ih =>
    rw [List.forall_mem_cons] at h
    rw [List.cons_append, next_cons_of_isBlank h.1, ih h.2, utf8Length, Nat.add_assoc]

theorem lexemes_eq_of_next_eq {cursor' : Cursor} (h : cursor.next = cursor'.next) :
    cursor.lexemes = cursor'.lexemes := by
  rw [lexemes_eq, lexemes_eq cursor', h]

end Cursor

/-- What is read from a place on goes on as the text splits there. -/
theorem Splits.lexemes_eq {cursor stop : Cursor} {ls : List Lexeme} (h : Splits cursor ls stop) :
    cursor.lexemes = stop.lexemes.map (ls ++ ·) := by
  induction h with
  | @blanks offset blanks rest hblanks =>
    rw [Cursor.lexemes_eq_of_next_eq (Cursor.next_append_of_isBlank hblanks offset rest)]
    cases (⟨offset + utf8Length blanks, rest⟩ : Cursor).lexemes <;> rfl
  | @lexeme offset blanks rest l ls stop hblanks hposition hspelling hlongest _ ih =>
    obtain ⟨token, spelling, position⟩ := l
    obtain ⟨c, piece, rfl⟩ := List.exists_cons_of_ne_nil hspelling.ne_nil
    have hblank := Lexical.isBlank_eq_false (.inl ⟨token, hspelling⟩)
    have hread := Reading.ofText_of_hasSpelling hspelling hlongest
    have hnext := Cursor.next_cons_of_not_isBlank hblank position (piece ++ rest)
      (congrArg Reading.result hread)
    rw [hread] at hnext
    simp only at hposition hnext
    rw [Cursor.lexemes_eq_of_next_eq (Cursor.next_append_of_isBlank hblanks offset _), ← hposition,
      Cursor.lexemes_eq, List.cons_append, hnext]
    change Except.map _ (Cursor.lexemes ⟨position + utf8Length (c :: piece), rest⟩) = _
    rw [Lexeme.stop] at ih
    rw [ih]
    cases stop.lexemes <;> rfl

theorem Splits.lexemes_eq_ok {cursor stop : Cursor} {ls : List Lexeme} (h : Splits cursor ls stop)
    (hstop : stop.rest = []) : cursor.lexemes = .ok ls := by
  have hnil : stop.lexemes = .ok [] := (Cursor.lexemes_eq_nil_iff stop).mpr (by simp [hstop])
  rw [h.lexemes_eq, hnil]
  simp [Except.map]

theorem FaultAt.lexemes_eq {fault : SyntaxFault} {piece : List Char} {here : Cursor}
    (h : FaultAt fault piece here.rest) :
    here.lexemes = .error ⟨fault, String.ofList piece, here.offset⟩ := by
  obtain ⟨offset, rest⟩ := here
  obtain ⟨c, text, rfl, hblank⟩ := h.exists_cons
  obtain ⟨hresult, hspelling⟩ := Reading.ofText_of_faultAt h
  rw [Cursor.lexemes_eq, Cursor.next_cons_of_error hblank offset text hresult, hspelling]

namespace Cursor

variable {cursor : Cursor} {l : Lexeme}

theorem splits_skipBlanks (cursor : Cursor) : Splits cursor [] cursor.skipBlanks := by
  obtain ⟨offset, rest⟩ := cursor
  have hblanks : ∀ c ∈ rest.takeWhile isBlank, isBlank c = true :=
    fun c hc => List.mem_takeWhile_imp hc
  have hsplits : Splits ⟨offset, rest.takeWhile isBlank ++ rest.dropWhile isBlank⟩ []
      (skipBlanks ⟨offset, rest⟩) := .blanks hblanks
  rw [List.takeWhile_append_dropWhile] at hsplits
  exact hsplits

theorem next_skipBlanks (cursor : Cursor) : cursor.skipBlanks.next = cursor.next := by
  obtain ⟨offset, rest⟩ := cursor
  have hblanks : ∀ c ∈ rest.takeWhile isBlank, isBlank c = true :=
    fun c hc => List.mem_takeWhile_imp hc
  have hnext := next_append_of_isBlank hblanks offset (rest.dropWhile isBlank)
  rw [List.takeWhile_append_dropWhile] at hnext
  exact hnext.symm

/-- Behind its blanks a text is at its end, or goes on with a character that is no blank. -/
theorem skipBlanks_cases (cursor : Cursor) :
    cursor.skipBlanks.next.1 = .ok none ∨
      ∃ offset c text, cursor.skipBlanks = ⟨offset, c :: text⟩ ∧ isBlank c = false := by
  cases hrest : cursor.rest.dropWhile isBlank with
  | nil =>
    have hblanks : ∀ c ∈ cursor.skipBlanks.rest, isBlank c = true := by
      simp [skipBlanks, advance, hrest]
    exact .inl ((next_eq_none_iff _).mpr hblanks)
  | cons c text =>
    have hnot := List.head?_dropWhile_not isBlank cursor.rest
    rw [hrest] at hnot
    have hhere : cursor.skipBlanks = ⟨cursor.skipBlanks.offset, c :: text⟩ := by
      rw [← hrest]
      rfl
    exact .inr ⟨_, c, text, hhere, by simpa using hnot⟩

/-- One step of reading takes a lexeme of the grammar, if there is any text and no fault. -/
theorem splits_of_next (h : cursor.next.1 = .ok (some l)) : Splits cursor [l] cursor.next.2 := by
  apply Splits.append cursor.splits_skipBlanks
  rw [← next_skipBlanks] at h ⊢
  rcases cursor.skipBlanks_cases with hnone | ⟨offset, c, text, hhere, hblank⟩
  · rw [hnone] at h
    cases h
  · rw [hhere] at h ⊢
    have hfollows := Reading.follows_ofText hblank text
    have happend := (Reading.ofText_append c text).1
    cases hresult : (Reading.ofText c text).result with
    | error fault =>
      rw [next_cons_of_error hblank offset text hresult] at h
      cases h
    | ok token =>
      rw [next_cons_of_not_isBlank hblank offset text hresult] at h ⊢
      cases h
      rw [Reading.follows_iff_of_ok hresult] at hfollows
      rw [← happend]
      exact .single hfollows.1 hfollows.2 offset

/-- Where a step of reading finds no lexeme, there is a fault. -/
theorem faultAt_of_next {e : SyntaxError} (h : cursor.next.1 = .error e) :
    FaultAt e.fault e.fragment.toList cursor.skipBlanks.rest ∧
      e.position = cursor.skipBlanks.offset := by
  rw [← next_skipBlanks] at h
  rcases cursor.skipBlanks_cases with hnone | ⟨offset, c, text, hhere, hblank⟩
  · rw [hnone] at h
    cases h
  · rw [hhere] at h ⊢
    have hfollows := Reading.follows_ofText hblank text
    cases hresult : (Reading.ofText c text).result with
    | ok token =>
      rw [next_cons_of_not_isBlank hblank offset text hresult] at h
      cases h
    | error fault =>
      rw [next_cons_of_error hblank offset text hresult] at h
      cases h
      rw [Reading.follows_iff_of_error hresult] at hfollows
      rw [String.toList_ofList]
      exact ⟨hfollows, rfl⟩

/-- The text splits as far as it is read, and where reading stops short of its end, there is a
fault. -/
theorem splits_lexemes (cursor : Cursor) :
    match cursor.lexemes with
    | .ok ls => ∃ stop, stop.rest = [] ∧ Splits cursor ls stop
    | .error e => ∃ ls here, Splits cursor ls here ∧
        FaultAt e.fault e.fragment.toList here.rest ∧ e.position = here.offset := by
  fun_induction Cursor.lexemes cursor with
  | case1 cursor e hnext => exact ⟨[], _, cursor.splits_skipBlanks, faultAt_of_next hnext⟩
  | case2 cursor hnext =>
    have hall := cursor.next_eq_none_iff.mp hnext
    have hrest : cursor.skipBlanks.rest = [] := List.dropWhile_eq_nil_iff.mpr hall
    exact ⟨_, hrest, cursor.splits_skipBlanks⟩
  | case3 cursor l hnext ih =>
    have hfirst := splits_of_next hnext
    cases hrest : cursor.next.2.lexemes with
    | error e =>
      rw [hrest] at ih
      obtain ⟨ls, here, hsplits, hfault⟩ := ih
      exact ⟨l :: ls, here, hfirst.append hsplits, hfault⟩
    | ok ls =>
      rw [hrest] at ih
      obtain ⟨stop, hstop, hsplits⟩ := ih
      exact ⟨stop, hstop, hfirst.append hsplits⟩

end Cursor

/-- A text that has lexemes splits into them. -/
theorem exists_splits {text : String} {ls : List Lexeme} (h : lexemes text = .ok ls) :
    ∃ stop, stop.rest = [] ∧ Splits (Cursor.start text) ls stop := by
  have hread := (Cursor.start text).splits_lexemes
  change (Cursor.start text).lexemes = _ at h
  rw [h] at hread
  exact hread

theorem position_lt_of_lexemes {text : String} {ls : List Lexeme} (h : lexemes text = .ok ls) :
    ∀ l ∈ ls, l.position < text.utf8ByteSize := by
  obtain ⟨stop, -, hsplits⟩ := exists_splits h
  intro l hl
  obtain ⟨hspelling, before, after, hrest, hposition⟩ := hsplits.covers l hl
  have hpos := utf8Length_pos hspelling
  rw [utf8ByteSize_eq, show text.toList = _ from hrest, utf8Length_append, utf8Length_append]
  simp only [Cursor.start] at hposition
  omega

/-- Reading a text follows the lexical grammar. Its lexemes are those that it splits into to its
end, each the longest at its place, and there is only one such splitting. A fault is reported
exactly where a splitting stops in front of one. The lexemes of a splitting cover the pieces of the
text that they say, one behind the other. -/
theorem lexemes_iff_splits (text : String) :
    (∀ ls, lexemes text = .ok ls ↔
      ∃ stop, stop.rest = [] ∧ Splits (Cursor.start text) ls stop) ∧
    (∀ e, lexemes text = .error e ↔
      ∃ ls here, Splits (Cursor.start text) ls here ∧
        FaultAt e.fault e.fragment.toList here.rest ∧ e.position = here.offset) ∧
    (∀ ls ls' stop stop', Splits (Cursor.start text) ls stop → stop.rest = [] →
      Splits (Cursor.start text) ls' stop' → stop'.rest = [] → ls = ls' ∧ stop = stop') ∧
    (∀ ls here, Splits (Cursor.start text) ls here →
      (∃ passed, text.toList = passed ++ here.rest ∧ here.offset = utf8Length passed) ∧
      (∀ l ∈ ls, l.Covers (Cursor.start text)) ∧
      ls.Pairwise (fun l m => l.stop ≤ m.position)) := by
  have hread := (Cursor.start text).splits_lexemes
  have hok {ls : List Lexeme} {stop : Cursor} (h : Splits (Cursor.start text) ls stop)
      (hstop : stop.rest = []) : lexemes text = .ok ls := h.lexemes_eq_ok hstop
  have hpassed {ls : List Lexeme} {here : Cursor} (h : Splits (Cursor.start text) ls here) :
      ∃ passed, text.toList = passed ++ here.rest ∧ here.offset = utf8Length passed := by
    obtain ⟨passed, hrest, hoffset⟩ := h.exists_passed
    exact ⟨passed, hrest, by simpa [Cursor.start] using hoffset⟩
  refine ⟨?_, ?_, ?_, ?_⟩
  · intro ls
    constructor
    · intro h
      change (Cursor.start text).lexemes = _ at h
      rw [h] at hread
      exact hread
    · rintro ⟨stop, hstop, h⟩
      exact hok h hstop
  · intro e
    constructor
    · intro h
      change (Cursor.start text).lexemes = _ at h
      rw [h] at hread
      exact hread
    · rintro ⟨ls, here, h, hfault, hposition⟩
      change (Cursor.start text).lexemes = _
      rw [h.lexemes_eq, hfault.lexemes_eq, String.ofList_toList, ← hposition]
      rfl
  · intro ls ls' stop stop' h hstop h' hstop'
    obtain ⟨passed, hrest, hoffset⟩ := hpassed h
    obtain ⟨passed', hrest', hoffset'⟩ := hpassed h'
    rw [hstop, List.append_nil] at hrest
    rw [hstop', List.append_nil, hrest] at hrest'
    have hoffsets : stop.offset = stop'.offset := by rw [hoffset, hoffset', hrest']
    have hlexemes := (hok h hstop).symm.trans (hok h' hstop')
    obtain ⟨offset, rest⟩ := stop
    obtain ⟨offset', rest'⟩ := stop'
    obtain rfl : offset = offset' := hoffsets
    obtain rfl : rest = [] := hstop
    obtain rfl : rest' = [] := hstop'
    exact ⟨Except.ok.inj hlexemes, rfl⟩
  · intro ls here h
    exact ⟨hpassed h, h.covers, h.pairwise_stop_le⟩

/-- The number takes the point and the digit behind it, and stops at the second point. -/
theorem lexemes_second_point :
    ∃ ls here passed, Splits (Cursor.start "n>=1.5.") ls here ∧
      FaultAt (.unexpectedCharacter '.') ['.'] here.rest ∧
      "n>=1.5.".toList = passed ++ here.rest ∧ utf8Length passed = 6 := by
  obtain ⟨ls, here, h, hfault, hposition⟩ :=
    ((lexemes_iff_splits "n>=1.5.").2.1 ⟨.unexpectedCharacter '.', ".", 6⟩).mp (by decide +kernel)
  obtain ⟨⟨passed, hrest, hoffset⟩, -⟩ := (lexemes_iff_splits "n>=1.5.").2.2.2 ls here h
  exact ⟨ls, here, passed, h, hfault, hrest, (hposition.trans hoffset).symm⟩

end Sift
