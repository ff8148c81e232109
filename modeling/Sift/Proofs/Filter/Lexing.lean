import Mathlib.Data.List.TakeWhile
import Sift.Filter.Lexer

/-!
What the lexemes of a text can be, and how texts are put together from the spellings of tokens.
Every token that is read could be written again: names are no keywords, quoted text has no quote in
it, and numbers are finite.
-/

namespace Sift

def keywords : List String := ["true", "false", "null", "and", "or", "not"]

/-- A name is a letter or an underscore followed by letters, digits and underscores, all of them
ASCII, and no keyword. -/
def IsName (text : String) : Prop :=
  (∃ c rest, text.toList = c :: rest ∧ Reading.isNameStart c = true ∧
    ∀ d ∈ rest, Reading.isNamePart d = true) ∧ text ∉ keywords

def Token.Spellable : Token → Prop
  | .name word => IsName word
  | .text value => '\'' ∉ value.toList
  | .number value => value.isFinite = true
  | _ => True

theorem Token.ofWord_eq_name {word : List Char} (h : String.ofList word ∉ keywords) :
    Token.ofWord word = .name (String.ofList word) := by
  simp only [keywords, List.mem_cons, not_or] at h
  unfold Token.ofWord
  split <;> simp_all

theorem Token.spellable_ofWord {c : Char} {rest : List Char}
    (hc : Reading.isNameStart c = true) (hrest : ∀ d ∈ rest, Reading.isNamePart d = true) :
    (Token.ofWord (c :: rest)).Spellable := by
  by_cases h : String.ofList (c :: rest) ∈ keywords
  · simp only [keywords, List.mem_cons, List.not_mem_nil, or_false] at h
    rcases h with h | h | h | h | h | h <;> simp [Token.ofWord, h, Token.Spellable]
  · rw [Token.ofWord_eq_name h]
    exact ⟨⟨c, rest, String.toList_ofList, hc, hrest⟩, h⟩

namespace Reading

theorem isNamePart_of_isNameStart {c : Char} (h : isNameStart c = true) : isNamePart c = true := by
  simp only [isNameStart, Bool.or_eq_true] at h
  simp only [isNamePart, Char.isAlphanum, Bool.or_eq_true]
  exact h.elim (fun halpha => .inl (.inl halpha)) .inr

private theorem spellable_word {c : Char} {text : List Char} {token : Token}
    (hc : isNameStart c = true) (h : (word (c :: text)).result = .ok token) : token.Spellable := by
  simp only [word, Except.ok.injEq] at h
  subst h
  rw [List.takeWhile_cons_of_pos (isNamePart_of_isNameStart hc)]
  exact Token.spellable_ofWord hc (fun d hd => List.mem_takeWhile_imp hd)

private theorem spellable_quoted {text : List Char} {token : Token}
    (h : (quoted text).result = .ok token) : token.Spellable := by
  unfold quoted at h
  split at h
  · cases h
  · simp only [Except.ok.injEq] at h
    subst h
    simp only [Token.Spellable, String.toList_ofList]
    intro hmem
    simpa using List.mem_takeWhile_imp hmem

private theorem spellable_operator {c : Char} {text : List Char} {token : Token}
    (h : (operator c text).result = .ok token) : token.Spellable := by
  unfold operator at h
  split at h
  all_goals cases h
  all_goals exact trivial

private theorem spellable_number {decimal : Decimal} {rest : List Char} {token : Token}
    (h : (number decimal rest).result = .ok token) : token.Spellable := by
  simp only [number] at h
  split at h
  · rename_i hfinite
    cases h
    exact hfinite
  · cases h

/-- A token that is read at the front of a text has a spelling. -/
theorem spellable_ofText {c : Char} {text : List Char} {token : Token}
    (h : (ofText c text).result = .ok token) : token.Spellable := by
  unfold ofText at h
  split at h
  · cases h
    exact trivial
  split at h
  · cases h
    exact trivial
  split at h
  · exact spellable_quoted h
  split at h
  · exact spellable_operator h
  split at h
  · exact spellable_number h
  split at h
  · rename_i hstart
    exact spellable_word hstart h
  · cases h

end Reading

namespace Cursor

theorem lexemes_eq (cursor : Cursor) :
    cursor.lexemes =
      match cursor.next.1 with
      | .error e => .error e
      | .ok none => .ok []
      | .ok (some lexeme) => (cursor.next.2.lexemes).map (lexeme :: ·) := by
  rw [lexemes]
  split <;> simp_all

theorem next_cons_of_isBlank {c : Char} (hc : isBlank c = true) (offset : Nat)
    (text : List Char) :
    (⟨offset, c :: text⟩ : Cursor).next = (⟨offset + c.utf8Size, text⟩ : Cursor).next := by
  have hskip : (⟨offset, c :: text⟩ : Cursor).skipBlanks =
      (⟨offset + c.utf8Size, text⟩ : Cursor).skipBlanks := by
    simp only [skipBlanks, advance, List.takeWhile_cons_of_pos hc, List.dropWhile_cons_of_pos hc,
      utf8Length, Nat.add_assoc]
  simp only [next, hskip]

theorem skipBlanks_cons {c : Char} (hc : isBlank c = false) (offset : Nat) (text : List Char) :
    (⟨offset, c :: text⟩ : Cursor).skipBlanks = ⟨offset, c :: text⟩ := by
  have hneg : ¬ isBlank c = true := by simp [hc]
  simp only [skipBlanks, advance, List.takeWhile_cons_of_neg hneg,
    List.dropWhile_cons_of_neg hneg, utf8Length, Nat.add_zero]

theorem next_cons_of_not_isBlank {c : Char} (hc : isBlank c = false) (offset : Nat)
    (text : List Char) {token : Token} (h : (Reading.ofText c text).result = .ok token) :
    (⟨offset, c :: text⟩ : Cursor).next =
      (.ok (some ⟨token, (Reading.ofText c text).spelling, offset⟩),
        ⟨offset + utf8Length (Reading.ofText c text).spelling, (Reading.ofText c text).rest⟩) := by
  simp only [next, skipBlanks_cons hc, h]
  rfl

theorem next_cons_of_error {c : Char} (hc : isBlank c = false) (offset : Nat) (text : List Char)
    {fault : SyntaxFault} (h : (Reading.ofText c text).result = .error fault) :
    (⟨offset, c :: text⟩ : Cursor).next.1 =
      .error ⟨fault, String.ofList (Reading.ofText c text).spelling, offset⟩ := by
  simp only [next, skipBlanks_cons hc, h]

/-- Nothing is left to read exactly if only blanks are left. -/
theorem next_eq_none_iff (cursor : Cursor) :
    cursor.next.1 = .ok none ↔ ∀ c ∈ cursor.rest, isBlank c = true := by
  have hall : cursor.skipBlanks.rest = [] ↔ ∀ c ∈ cursor.rest, isBlank c = true :=
    List.dropWhile_eq_nil_iff
  rw [← hall]
  unfold next
  simp only
  split
  · simp_all
  · rename_i c text hrest
    split <;> simp_all

theorem lexemes_eq_nil_iff (cursor : Cursor) :
    cursor.lexemes = .ok [] ↔ ∀ c ∈ cursor.rest, isBlank c = true := by
  rw [← next_eq_none_iff, lexemes_eq]
  split
  · simp_all
  · simp_all
  · rename_i lexeme h
    cases cursor.next.2.lexemes <;> simp_all [Except.map]

theorem spellable_of_next {cursor : Cursor} {lexeme : Lexeme}
    (h : cursor.next.1 = .ok (some lexeme)) : lexeme.token.Spellable := by
  unfold next at h
  simp only at h
  split at h
  · simp at h
  · split at h
    · rename_i token hresult
      simp only [Except.ok.injEq, Option.some.injEq] at h
      subst h
      exact Reading.spellable_ofText hresult
    · simp at h

theorem spellable_of_mem_lexemes {cursor : Cursor} {ls : List Lexeme}
    (h : cursor.lexemes = .ok ls) : ∀ l ∈ ls, l.token.Spellable := by
  fun_induction Cursor.lexemes cursor generalizing ls with
  | case1 => cases h
  | case2 =>
    cases h
    simp
  | case3 cursor lexeme hnext ih =>
    cases hrest : cursor.next.2.lexemes with
    | error e => simp [hrest, Except.map] at h
    | ok ls' =>
      simp only [hrest, Except.map, Except.ok.injEq] at h
      subst h
      intro l hl
      rcases List.mem_cons.mp hl with rfl | hl'
      · exact spellable_of_next hnext
      · exact ih hrest l hl'

end Cursor

/-- A text has no lexemes exactly if it is all blank. -/
theorem lexemes_eq_nil_iff (text : String) :
    lexemes text = .ok [] ↔ ∀ c ∈ text.toList, isBlank c = true :=
  Cursor.lexemes_eq_nil_iff (Cursor.start text)

/-- Every token of a text has a spelling. -/
theorem spellable_of_mem_lexemes {text : String} {ls : List Lexeme} (h : lexemes text = .ok ls) :
    ∀ l ∈ ls, l.token.Spellable :=
  Cursor.spellable_of_mem_lexemes h

end Sift
