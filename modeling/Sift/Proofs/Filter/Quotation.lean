import Sift.Proofs.Filter.CorrectPrefix

/-!
What is quoted of a text. Reading always stands between two characters, at the offset of what it has
left to read. So every lexeme and every fault is a slice of the text, and a syntax error quotes the
text from its position on. It quotes nothing only at the end.
-/

namespace Sift

/-- The bytes of the text from one offset to another are those of the piece, and the two offsets lie
between characters of the text. -/
structure Slice (text : String) (start stop : Nat) (piece : String) : Prop where
  start_le : start ≤ stop
  stop_le : stop ≤ text.utf8ByteSize
  start_valid : String.Pos.Raw.IsValid text ⟨start⟩
  stop_valid : String.Pos.Raw.IsValid text ⟨stop⟩
  bytes_eq : piece.toUTF8 = text.toUTF8.extract start stop

/-- Between some characters and some others stands a slice. -/
theorem slice_of_append {text : String} {before piece after : List Char}
    (h : text.toList = before ++ piece ++ after) :
    Slice text (utf8Length before) (utf8Length before + utf8Length piece)
      (String.ofList piece) := by
  have hsplit : text = String.ofList before ++ (String.ofList piece ++ String.ofList after) := by
    apply String.toList_injective
    simp [h]
  have hbytes : text.toUTF8 = (String.ofList before).toUTF8 ++
      ((String.ofList piece).toUTF8 ++ (String.ofList after).toUTF8) := by
    rw [hsplit]
    simp only [String.toUTF8_eq_toByteArray, String.toByteArray_append]
  rw [← utf8ByteSize_ofList before, ← utf8ByteSize_ofList piece]
  refine ⟨Nat.le_add_right _ _, ?_, ?_, ?_, ?_⟩
  · rw [hsplit, String.utf8ByteSize_append, String.utf8ByteSize_append]
    omega
  · exact String.Pos.Raw.isValid_iff_exists_append.mpr ⟨_, _, hsplit, rfl⟩
  · rw [← String.append_assoc] at hsplit
    refine String.Pos.Raw.isValid_iff_exists_append.mpr ⟨_, _, hsplit, ?_⟩
    apply String.Pos.Raw.ext
    exact String.utf8ByteSize_append.symm
  · have hback := ByteArray.extract_append_size_add (a := (String.ofList before).toUTF8)
      (b := (String.ofList piece).toUTF8 ++ (String.ofList after).toUTF8) (i := 0)
      (j := (String.ofList piece).toUTF8.size)
    rw [ByteArray.extract_append_eq_left rfl] at hback
    rw [hbytes]
    exact hback.symm

/-- The error quotes the text from its position on, and the end of the text if it quotes nothing. -/
structure SyntaxError.Quotes (e : SyntaxError) (text : String) : Prop where
  position_le : e.position ≤ text.utf8ByteSize
  slice : Slice text e.position (e.position + e.fragment.utf8ByteSize) e.fragment
  empty_iff : e.fragment = "" ↔ e.position = text.utf8ByteSize

structure Lexeme.StandsIn (l : Lexeme) (text : String) : Prop where
  slice : Slice text l.position l.stop (String.ofList l.spelling)
  body_slice : ∀ body, l.token = .text body → Slice text (l.position + 1) (l.stop - 1) body

theorem SyntaxError.quotes_of_append {text : String} {before piece after : List Char}
    (h : text.toList = before ++ piece ++ after) (hpiece : piece ≠ []) (fault : SyntaxFault) :
    SyntaxError.Quotes ⟨fault, String.ofList piece, utf8Length before⟩ text := by
  have hslice := slice_of_append h
  have hpos := utf8Length_pos hpiece
  have hsize : text.utf8ByteSize = _ := utf8ByteSize_eq text
  rw [h, utf8Length_append, utf8Length_append] at hsize
  refine ⟨Nat.le_trans hslice.start_le hslice.stop_le, ?_, ?_⟩
  · rwa [utf8ByteSize_ofList]
  · refine iff_of_false ?_ (by simp only; omega)
    intro hempty
    have hzero : (String.ofList piece).utf8ByteSize = 0 :=
      String.utf8ByteSize_eq_zero_iff.mpr hempty
    rw [utf8ByteSize_ofList] at hzero
    omega

theorem SyntaxError.quotes_end (text : String) (fault : SyntaxFault) :
    SyntaxError.Quotes ⟨fault, "", text.utf8ByteSize⟩ text := by
  have hslice : Slice text (utf8Length text.toList) (utf8Length text.toList + utf8Length [])
      (String.ofList []) := by
    have hsplit : text.toList = text.toList ++ [] ++ [] := by simp
    exact slice_of_append hsplit
  rw [← utf8ByteSize_eq] at hslice
  exact ⟨Nat.le_refl _, hslice, iff_of_true rfl rfl⟩

theorem Token.HasSpelling.eq_of_text {body : String} {piece : List Char}
    (h : (Token.text body).HasSpelling piece) : piece = '\'' :: body.toList ++ ['\''] := by
  generalize htoken : Token.text body = token at h
  cases h with
  | text hbody =>
    cases htoken
    rw [String.toList_ofList]
  | keyword hword =>
    subst htoken
    simp [keywordTokens] at hword
  | name hword => cases htoken
  | number hd hfinite => cases htoken
  | operator op => cases htoken
  | lparen => cases htoken
  | rparen => cases htoken

theorem Lexeme.standsIn_of_append {text : String} {before after : List Char} {l : Lexeme}
    (h : text.toList = before ++ l.spelling ++ after) (hposition : l.position = utf8Length before)
    (hspelling : l.token.HasSpelling l.spelling) : l.StandsIn text where
  slice := by
    rw [Lexeme.stop, hposition]
    exact slice_of_append h
  body_slice body hbody := by
    rw [hbody] at hspelling
    have hpiece := hspelling.eq_of_text
    have hsplit : text.toList = (before ++ ['\'']) ++ body.toList ++ ('\'' :: after) := by
      rw [h, hpiece]
      simp
    have hslice := slice_of_append hsplit
    have hquote : utf8Length ['\''] = 1 := rfl
    have hlength : utf8Length l.spelling = 1 + (utf8Length body.toList + 1) := by
      rw [hpiece, List.cons_append, utf8Length, utf8Length_append]
      rfl
    have hstop : l.stop - 1 = utf8Length (before ++ ['\'']) + utf8Length body.toList := by
      rw [Lexeme.stop, hposition, hlength, utf8Length_append, hquote]
      omega
    rw [String.ofList_toList, ← hstop, utf8Length_append, hquote, ← hposition] at hslice
    exact hslice

theorem FaultAt.eq_of_character {c : Char} {piece rest : List Char}
    (h : FaultAt (.unexpectedCharacter c) piece rest) : piece = [c] := by
  cases h
  rfl

namespace Cursor

/-- A step of reading finds the end of the text, takes a lexeme, goes on behind a fault, or stays in
front of a character that begins no lexeme. -/
inductive Steps (cursor : Cursor) : Except SyntaxError (Option Lexeme) × Cursor → Prop where
  | ends (hrest : cursor.skipBlanks.rest = []) : Steps cursor (.ok none, cursor.skipBlanks)
  | takes {token : Token} {piece rest : List Char}
    (hrest : cursor.skipBlanks.rest = piece ++ rest) (hspelling : token.HasSpelling piece) :
    Steps cursor (.ok (some ⟨token, piece, cursor.skipBlanks.offset⟩),
      cursor.skipBlanks.advance piece rest)
  | faults {fault : SyntaxFault} {piece rest : List Char}
    (hrest : cursor.skipBlanks.rest = piece ++ rest) (hpiece : piece ≠ [])
    (hfault : ∀ c, fault ≠ .unexpectedCharacter c) :
    Steps cursor (.error ⟨fault, String.ofList piece, cursor.skipBlanks.offset⟩,
      cursor.skipBlanks.advance piece rest)
  | stays {c : Char} {rest : List Char} (hrest : cursor.skipBlanks.rest = c :: rest) :
    Steps cursor (.error ⟨.unexpectedCharacter c, String.ofList [c], cursor.skipBlanks.offset⟩,
      cursor.skipBlanks)

theorem steps_next (cursor : Cursor) : cursor.Steps cursor.next := by
  unfold next
  dsimp only
  split
  · rename_i hrest
    exact .ends hrest
  · rename_i c text hrest
    have hblank : isBlank c = false := by
      have hnot := List.head?_dropWhile_not isBlank cursor.rest
      rw [show cursor.rest.dropWhile isBlank = c :: text from hrest] at hnot
      simpa using hnot
    have hfollows := Reading.follows_ofText hblank text
    obtain ⟨happend, hpiece⟩ := Reading.ofText_append c text
    have hsplit := hrest.trans happend.symm
    split
    · rename_i token hresult
      rw [Reading.follows_iff_of_ok hresult] at hfollows
      exact .takes hsplit hfollows.1
    · rename_i fault hresult
      rw [Reading.follows_iff_of_error hresult] at hfollows
      split
      · rw [hfollows.eq_of_character] at hsplit ⊢
        exact .stays hsplit
      · rename_i hother
        exact .faults hsplit hpiece hother

def after (cursor : Cursor) : Nat → Cursor
  | 0 => cursor
  | steps + 1 => (cursor.after steps).next.2

/-- The cursor is at the offset of what it has left to read of the text. -/
def StandsIn (cursor : Cursor) (text : String) : Prop :=
  ∃ passed, text.toList = passed ++ cursor.rest ∧ cursor.offset = utf8Length passed

theorem standsIn_start (text : String) : (start text).StandsIn text := ⟨[], rfl, rfl⟩

namespace StandsIn

variable {cursor : Cursor} {text : String} (h : cursor.StandsIn text)

include h

theorem advance {piece rest : List Char} (hrest : cursor.rest = piece ++ rest) :
    (cursor.advance piece rest).StandsIn text := by
  obtain ⟨passed, htext, hoffset⟩ := h
  refine ⟨passed ++ piece, ?_, ?_⟩
  · rw [htext, hrest, List.append_assoc]
    rfl
  · rw [Cursor.advance, hoffset, utf8Length_append]

theorem skipBlanks : cursor.skipBlanks.StandsIn text :=
  h.advance List.takeWhile_append_dropWhile.symm

theorem next : cursor.next.2.StandsIn text := by
  have hhere := h.skipBlanks
  have hsteps := cursor.steps_next
  generalize cursor.next = outcome at hsteps
  cases hsteps with
  | ends hrest => exact hhere
  | takes hrest hspelling => exact hhere.advance hrest
  | faults hrest hpiece hfault => exact hhere.advance hrest
  | stays hrest => exact hhere

/-- Reading stands between characters after any number of steps. -/
theorem after (steps : Nat) : (cursor.after steps).StandsIn text := by
  induction steps with
  | zero => exact h
  | succ steps ih => exact ih.next

theorem slice_rest : Slice text cursor.offset text.utf8ByteSize (String.ofList cursor.rest) := by
  obtain ⟨passed, htext, hoffset⟩ := h
  have hslice : Slice text (utf8Length passed) (utf8Length passed + utf8Length cursor.rest)
      (String.ofList cursor.rest) := slice_of_append (by rw [htext, List.append_nil])
  rwa [utf8ByteSize_eq, htext, utf8Length_append, hoffset]

theorem quotes_of_next {e : SyntaxError} (he : cursor.next.1 = .error e) : e.Quotes text := by
  obtain ⟨passed, htext, hoffset⟩ := h.skipBlanks
  have hsteps := cursor.steps_next
  generalize cursor.next = outcome at hsteps he
  cases hsteps with
  | ends hrest => cases he
  | takes hrest hspelling => cases he
  | faults hrest hpiece hfault =>
    cases he
    rw [hoffset]
    exact SyntaxError.quotes_of_append (by rw [htext, hrest, List.append_assoc]) hpiece _
  | @stays c rest hrest =>
    cases he
    have hsplit : text.toList = passed ++ [c] ++ rest := by
      rw [htext, hrest, List.append_assoc, List.singleton_append]
    rw [hoffset]
    exact SyntaxError.quotes_of_append hsplit (List.cons_ne_nil c []) _

theorem standsIn_of_next {l : Lexeme} (hl : cursor.next.1 = .ok (some l)) : l.StandsIn text := by
  obtain ⟨passed, htext, hoffset⟩ := h.skipBlanks
  have hsteps := cursor.steps_next
  generalize cursor.next = outcome at hsteps hl
  cases hsteps with
  | takes hrest hspelling =>
    cases hl
    have hsplit := htext
    rw [hrest, ← List.append_assoc] at hsplit
    exact Lexeme.standsIn_of_append hsplit hoffset hspelling
  | ends hrest => cases hl
  | faults hrest hpiece hfault => cases hl
  | stays hrest => cases hl

/-- Wherever the reading of a lexeme stands, what it has left is the slice from there to the end. -/
theorem slice_of_reading {c : Char} {rest passed left : List Char}
    (hrest : cursor.rest = c :: rest)
    (hspelling : (Reading.ofText c rest).spelling = passed ++ left) :
    Slice text (cursor.offset + utf8Length passed) text.utf8ByteSize
      (String.ofList (left ++ (Reading.ofText c rest).rest)) := by
  have hsplit : cursor.rest = passed ++ (left ++ (Reading.ofText c rest).rest) := by
    rw [hrest, ← (Reading.ofText_append c rest).1, hspelling, List.append_assoc]
  exact (h.advance hsplit).slice_rest

end StandsIn

/-- What is read from a cursor to the end stands in the text, lexemes and fault alike. -/
theorem StandsIn.lexemes {cursor : Cursor} {text : String} (h : cursor.StandsIn text) :
    match cursor.lexemes with
    | .ok ls => ∀ l ∈ ls, l.StandsIn text
    | .error e => e.Quotes text := by
  fun_induction Cursor.lexemes cursor with
  | case1 cursor e hnext => exact h.quotes_of_next hnext
  | case2 cursor hnext => simp
  | case3 cursor l hnext ih =>
    have hrest := ih h.next
    cases hlexemes : cursor.next.2.lexemes with
    | error e =>
      rw [hlexemes] at hrest
      exact hrest
    | ok ls =>
      rw [hlexemes] at hrest
      exact List.forall_mem_cons.mpr ⟨h.standsIn_of_next hnext, hrest⟩

end Cursor

theorem quotes_of_lexemes {text : String} {e : SyntaxError} (h : lexemes text = .error e) :
    e.Quotes text := by
  have hread := (Cursor.standsIn_start text).lexemes
  change (Cursor.start text).lexemes = _ at h
  rw [h] at hread
  exact hread

theorem standsIn_of_lexemes {text : String} {ls : List Lexeme} (h : lexemes text = .ok ls) :
    ∀ l ∈ ls, l.StandsIn text := by
  have hread := (Cursor.standsIn_start text).lexemes
  change (Cursor.start text).lexemes = _ at h
  rw [h] at hread
  exact hread

/-- An error that quotes a lexeme quotes the text, where the lexeme stands. -/
theorem quotes_of_mem {text : String} {ls : List Lexeme} (h : lexemes text = .ok ls) {l : Lexeme}
    (hl : l ∈ ls) (fault : SyntaxFault) :
    SyntaxError.Quotes ⟨fault, String.ofList l.spelling, l.position⟩ text := by
  obtain ⟨stop, -, hsplits⟩ := exists_splits h
  obtain ⟨hpiece, before, after, hrest, hposition⟩ := hsplits.covers l hl
  rw [Cursor.start, Nat.zero_add] at hposition
  rw [hposition]
  exact SyntaxError.quotes_of_append hrest hpiece fault

namespace Filter

open Grammar

/-- The reader blames a lexeme or the end of the text, and quotes what it blames. -/
theorem quotes_of_parse {text : String} {limits : Limits} {e : SyntaxError}
    (h : Filter.parse text limits = .error (.malformed e)) : e.Quotes text := by
  cases hlexemes : lexemes text with
  | error fault =>
    unfold Filter.parse at h
    rw [hlexemes] at h
    split at h
    · cases h
    · cases h
      exact quotes_of_lexemes hlexemes
  | ok ls =>
    rcases reaches_of_error (ofLexemes_of_parse hlexemes h) with
      ⟨before, l, after, q, rfl, -, hrefused⟩ | ⟨q, hreaches, hfinish⟩
    · obtain ⟨fault, -, rfl⟩ := Parse.eq_of_step_error (hrefused 0)
      exact quotes_of_mem hlexemes (by simp) fault
    · rcases eq_of_finish_error hfinish with
        ⟨what, -, rfl⟩ | ⟨disjuncts, conjuncts, l, level, enclosing, rfl, rfl⟩
      · exact SyntaxError.quotes_end text _
      · obtain ⟨before, after, rfl, -⟩ := (encloses_of_reaches hreaches).lastOpen
        exact quotes_of_mem hlexemes (by simp) .unclosed

/-- A syntax error, of the lexemes or of their order, has a position in the text, where its fragment
stands between characters, and the fragment is empty just where the position is the end of the text.
Every lexeme is the slice that it says, and quoted text the slice between its quotes. After any
number of steps, whatever faults there were, what is left to read is a slice, and so it is wherever
the reading of the next lexeme stands. -/
theorem errors_quote_text (text : String) (limits : Limits) :
    (∀ e, lexemes text = .error e ∨ Filter.parse text limits = .error (.malformed e) →
      e.Quotes text) ∧
    (∀ ls, lexemes text = .ok ls → ∀ l ∈ ls, l.StandsIn text) ∧
    ∀ steps here, here = (Cursor.start text).after steps →
      (∀ e, here.next.1 = .error e → e.Quotes text) ∧
      (∀ l, here.next.1 = .ok (some l) → l.StandsIn text) ∧
      Slice text here.offset text.utf8ByteSize (String.ofList here.rest) ∧
      ∀ c rest, here.skipBlanks.rest = c :: rest →
        ∀ passed left, (Reading.ofText c rest).spelling = passed ++ left →
          Slice text (here.skipBlanks.offset + utf8Length passed) text.utf8ByteSize
            (String.ofList (left ++ (Reading.ofText c rest).rest)) := by
  refine ⟨?_, fun ls => standsIn_of_lexemes, ?_⟩
  · rintro e (h | h)
    · exact quotes_of_lexemes h
    · exact quotes_of_parse h
  · rintro steps here rfl
    have hstands := (Cursor.standsIn_start text).after steps
    refine ⟨fun e => hstands.quotes_of_next, fun l => hstands.standsIn_of_next,
      hstands.slice_rest, ?_⟩
    intro c rest hrest passed left hspelling
    exact hstands.skipBlanks.slice_of_reading hrest hspelling

/-- A character of three bytes is quoted in full, behind quoted text of two bytes, and an error
behind that text quotes a single byte. -/
theorem errors_quote_text_wide :
    Slice "n == 'é' €" 10 13 "€" ∧ Slice "n == 'é' €" 6 8 "é" ∧ Slice "n == 'é' n" 10 11 "n" := by
  have hfault : lexemes "n == 'é' €" = .error ⟨.unexpectedCharacter '€', "€", 10⟩ := by
    decide +kernel
  have hquoted : ((Cursor.start "n == 'é' €").after 2).next.1 =
      .ok (some ⟨.text "é", ['\'', 'é', '\''], 5⟩) := by
    decide +kernel
  have htrailing : Filter.parse "n == 'é' n" {} =
      .error (.malformed ⟨.trailingInput, "n", 10⟩) := by
    decide +kernel
  obtain ⟨herrors, -, hsteps⟩ := errors_quote_text "n == 'é' €" {}
  obtain ⟨herrors', -, -⟩ := errors_quote_text "n == 'é' n" {}
  exact ⟨(herrors _ (.inl hfault)).slice, ((hsteps 2 _ rfl).2.1 _ hquoted).body_slice _ rfl,
    (herrors' _ (.inr htrailing)).slice⟩

end Filter

end Sift
