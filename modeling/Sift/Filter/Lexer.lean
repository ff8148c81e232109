import Sift.Binary64.Decimal
import Sift.Filter.Token

/-!
Splitting filter text into lexemes. One reading covers the longest lexeme at the front of the text,
and nothing of the text is lost between the lexeme and the rest.
-/

namespace Sift

/-- What stands at the front of a text that does not begin with a blank: a token or a fault, the
characters it covers, and the text after them. -/
structure Reading where
  result : Except SyntaxFault Token
  spelling : List Char
  rest : List Char

namespace Reading

def isNameStart (c : Char) : Bool := c.isAlpha || c == '_'

def isNamePart (c : Char) : Bool := c.isAlphanum || c == '_'

def word (text : List Char) : Reading :=
  let spelling := text.takeWhile isNamePart
  ⟨.ok (.ofWord spelling), spelling, text.dropWhile isNamePart⟩

/-- Quoted text, given what follows the opening quote. It runs to the next quote, whatever stands
in between. -/
def quoted (text : List Char) : Reading :=
  let body := text.takeWhile (· != '\'')
  match text.dropWhile (· != '\'') with
  | [] => ⟨.error .unterminatedText, '\'' :: text, []⟩
  | quote :: rest => ⟨.ok (.text (String.ofList body)), '\'' :: body ++ [quote], rest⟩

/-- A number is read whatever its size, and is a fault if it rounds to infinity. -/
def number (decimal : Decimal) (rest : List Char) : Reading :=
  let value := decimal.toBinary64
  ⟨if value.isFinite then .ok (.number value) else .error .numberOutOfRange,
    decimal.spelling, rest⟩

def isOperatorStart (c : Char) : Bool :=
  c == '=' || c == '!' || c == '>' || c == '<' || c == '~'

/-- An operator, given its first character. Two characters are taken where they make an operator
together. -/
def operator (first : Char) (text : List Char) : Reading :=
  match first, text with
  | '=', '=' :: rest => ⟨.ok (.operator .eq), ['=', '='], rest⟩
  | '!', '=' :: rest => ⟨.ok (.operator .ne), ['!', '='], rest⟩
  | '!', '~' :: rest => ⟨.ok (.operator .notMatching), ['!', '~'], rest⟩
  | '>', '=' :: rest => ⟨.ok (.operator .ge), ['>', '='], rest⟩
  | '<', '=' :: rest => ⟨.ok (.operator .le), ['<', '='], rest⟩
  | '>', rest => ⟨.ok (.operator .gt), ['>'], rest⟩
  | '<', rest => ⟨.ok (.operator .lt), ['<'], rest⟩
  | '~', rest => ⟨.ok (.operator .matching), ['~'], rest⟩
  | c, rest => ⟨.error .unknownOperator, [c], rest⟩

def ofText (c : Char) (text : List Char) : Reading :=
  if c = '(' then ⟨.ok .lparen, [c], text⟩
  else if c = ')' then ⟨.ok .rparen, [c], text⟩
  else if c = '\'' then quoted text
  else if isOperatorStart c then operator c text
  else
    match Decimal.read? (c :: text) with
    | some (decimal, rest) => number decimal rest
    | none =>
      if isNameStart c then word (c :: text) else ⟨.error (.unexpectedCharacter c), [c], text⟩

private theorem operator_append (c : Char) (text : List Char) :
    (operator c text).spelling ++ (operator c text).rest = c :: text ∧
      (operator c text).spelling ≠ [] := by
  unfold operator
  split <;> simp

private theorem quoted_append (text : List Char) :
    (quoted text).spelling ++ (quoted text).rest = '\'' :: text ∧ (quoted text).spelling ≠ [] := by
  unfold quoted
  split
  · simp
  · rename_i quote rest h
    have hsplit := List.takeWhile_append_dropWhile (p := (· != '\'')) (l := text)
    rw [h] at hsplit
    simpa using hsplit

private theorem number_append {text rest : List Char} {d : Decimal}
    (h : Decimal.read? text = some (d, rest)) :
    (number d rest).spelling ++ (number d rest).rest = text ∧ (number d rest).spelling ≠ [] := by
  have hwhole := Decimal.whole_ne_nil_of_read? h
  refine ⟨Decimal.spelling_append_of_read? h, ?_⟩
  simp [number, Decimal.spelling, hwhole]

/-- A reading covers at least one character, and what it covers and leaves is the text. -/
theorem ofText_append (c : Char) (text : List Char) :
    (ofText c text).spelling ++ (ofText c text).rest = c :: text ∧
      (ofText c text).spelling ≠ [] := by
  unfold ofText
  split
  · simp
  split
  · simp
  split
  · rename_i hquote
    rw [hquote]
    exact quoted_append text
  split
  · exact operator_append c text
  split
  · rename_i h
    exact number_append h
  split
  · rename_i hstart
    have hpart : isNamePart c = true := by
      simp only [isNameStart, Bool.or_eq_true] at hstart
      simp only [isNamePart, Char.isAlphanum, Bool.or_eq_true]
      exact hstart.elim (fun halpha => .inl (.inl halpha)) .inr
    simp [word, hpart, List.takeWhile_append_dropWhile]
  · simp

/-- A reading leaves less than it was given, so repeated reading comes to an end. -/
theorem ofText_rest_length_lt (c : Char) (text : List Char) :
    (ofText c text).rest.length < (c :: text).length := by
  have h := ofText_append c text
  have hlength := congrArg List.length h.1
  have hpos := List.length_pos_iff.mpr h.2
  simp only [List.length_append] at hlength
  omega

end Reading

structure Cursor where
  offset : Nat
  rest : List Char
deriving DecidableEq

namespace Cursor

def start (text : String) : Cursor := ⟨0, text.toList⟩

def advance (cursor : Cursor) (passed rest : List Char) : Cursor :=
  ⟨cursor.offset + utf8Length passed, rest⟩

def skipBlanks (cursor : Cursor) : Cursor :=
  cursor.advance (cursor.rest.takeWhile isBlank) (cursor.rest.dropWhile isBlank)

/-- Reads the next lexeme, or `none` at the end of the text, and says where reading goes on. After a
fault it goes on behind the faulty piece, except that a character which begins no lexeme stays
where it is. -/
def next (cursor : Cursor) : Except SyntaxError (Option Lexeme) × Cursor :=
  let here := cursor.skipBlanks
  match here.rest with
  | [] => (.ok none, here)
  | c :: text =>
    let reading := Reading.ofText c text
    let after := here.advance reading.spelling reading.rest
    match reading.result with
    | .ok token => (.ok (some ⟨token, reading.spelling, here.offset⟩), after)
    | .error fault =>
      (.error ⟨fault, String.ofList reading.spelling, here.offset⟩,
        match fault with
        | .unexpectedCharacter _ => here
        | _ => after)

/-- A lexeme has been taken from the text in front of the cursor. -/
theorem next_shortens {cursor : Cursor} {lexeme : Lexeme}
    (h : cursor.next.1 = .ok (some lexeme)) : cursor.next.2.rest.length < cursor.rest.length := by
  have hblank : (cursor.rest.dropWhile isBlank).length ≤ cursor.rest.length :=
    (List.dropWhile_sublist isBlank).length_le
  unfold next at h ⊢
  simp only [skipBlanks, advance] at h ⊢
  split at h
  · simp at h
  · rename_i c text hrest
    have hshort := Reading.ofText_rest_length_lt c text
    rw [hrest] at hblank
    split at h
    · rename_i hresult
      dsimp only
      omega
    · simp at h

def lexemes (cursor : Cursor) : Except SyntaxError (List Lexeme) :=
  match _ : cursor.next.1 with
  | .error e => .error e
  | .ok none => .ok []
  | .ok (some lexeme) => (cursor.next.2.lexemes).map (lexeme :: ·)
termination_by cursor.rest.length
decreasing_by exact next_shortens ‹_›

end Cursor

def lexemes (text : String) : Except SyntaxError (List Lexeme) := (Cursor.start text).lexemes

end Sift
