import Sift.Proofs.Filter.Reading

/-!
The lexical grammar of filter text. Tokens have spellings, a lexeme is a spelling that the text
does not prolong to a longer one, and a text splits into lexemes with blanks between them. What can
stand where no lexeme does is a fault. The first character of a piece says of which kind it is.
-/

namespace Sift

def keywordTokens : List (String × Token) :=
  [("true", .bool true), ("false", .bool false), ("null", .null), ("and", .and), ("or", .or),
    ("not", .not)]

/-- The ways to write a token. Every token but a number has just one. -/
inductive Token.HasSpelling : Token → List Char → Prop where
  | name {word : String} (hword : IsName word) : HasSpelling (.name word) word.toList
  | keyword {word : String} {token : Token} (hword : (word, token) ∈ keywordTokens) :
    HasSpelling token word.toList
  | text {body : List Char} (hbody : '\'' ∉ body) :
    HasSpelling (.text (String.ofList body)) ('\'' :: body ++ ['\''])
  | number {d : Decimal} (hd : d.WellFormed) (hfinite : d.toBinary64.isFinite = true) :
    HasSpelling (.number d.toBinary64) d.spelling
  | operator (op : Operator) : HasSpelling (.operator op) op.text.toList
  | lparen : HasSpelling .lparen ['(']
  | rparen : HasSpelling .rparen [')']

/-- The pieces of text that have the form of a lexeme. A number may be of any size. -/
def Lexical (piece : List Char) : Prop :=
  (∃ token : Token, token.HasSpelling piece) ∨ ∃ d : Decimal, d.WellFormed ∧ piece = d.spelling

/-- The text behind a piece does not prolong it to a longer piece of such a form. -/
def Longest (piece rest : List Char) : Prop :=
  ∀ more, more ≠ [] → more <+: rest → ¬ Lexical (piece ++ more)

/-- What can be wrong at the front of a text, with the piece that the fault is about: a quote
without a partner, `=` and `!` that belong to no operator, a number too large, and a character that
is no blank and that nothing begins with. -/
inductive FaultAt : SyntaxFault → List Char → List Char → Prop where
  | unterminated {body : List Char} (hbody : '\'' ∉ body) :
    FaultAt .unterminatedText ('\'' :: body) ('\'' :: body)
  | equals {rest : List Char} (heq : rest.head? ≠ some '=') :
    FaultAt .unknownOperator ['='] ('=' :: rest)
  | exclamation {rest : List Char} (heq : rest.head? ≠ some '=') (htilde : rest.head? ≠ some '~') :
    FaultAt .unknownOperator ['!'] ('!' :: rest)
  | number {d : Decimal} {rest : List Char} (hd : d.WellFormed)
    (hinfinite : d.toBinary64.isFinite = false) (hlongest : Longest d.spelling rest) :
    FaultAt .numberOutOfRange d.spelling (d.spelling ++ rest)
  | character {c : Char} {rest : List Char} (hblank : isBlank c = false)
    (hother : c ∉ ['\'', '=', '!'])
    (hnone : ∀ piece, piece ≠ [] → piece <+: c :: rest → ¬ Lexical piece) :
    FaultAt (.unexpectedCharacter c) [c] (c :: rest)

/-- The text between two places is made of these lexemes, each the longest at its place, with
nothing but blanks in front of them, between them and behind them. -/
inductive Splits : Cursor → List Lexeme → Cursor → Prop where
  | blanks {offset : Nat} {blanks rest : List Char} (hblanks : ∀ c ∈ blanks, isBlank c = true) :
    Splits ⟨offset, blanks ++ rest⟩ [] ⟨offset + utf8Length blanks, rest⟩
  | lexeme {offset : Nat} {blanks rest : List Char} {l : Lexeme} {ls : List Lexeme} {stop : Cursor}
    (hblanks : ∀ c ∈ blanks, isBlank c = true)
    (hposition : l.position = offset + utf8Length blanks)
    (hspelling : l.token.HasSpelling l.spelling) (hlongest : Longest l.spelling rest)
    (hrest : Splits ⟨l.stop, rest⟩ ls stop) :
    Splits ⟨offset, blanks ++ (l.spelling ++ rest)⟩ (l :: ls) stop

inductive Lexical.Kind (c : Char) (rest : List Char) : Prop where
  | parenthesis (hc : c = '(' ∨ c = ')') (hrest : rest = [])
  | quoted (hc : c = '\'') (body : List Char) (hbody : '\'' ∉ body) (hrest : rest = body ++ ['\''])
  | operator (hc : Reading.isOperatorStart c = true) (op : Operator)
    (hop : op.text.toList = c :: rest)
  | number (hc : c = '-' ∨ c.isDigit = true) (d : Decimal) (hd : d.WellFormed)
    (hspelling : d.spelling = c :: rest)
  | word (hc : Reading.isNameStart c = true) (hrest : ∀ d ∈ rest, Reading.isNamePart d = true)

theorem toNat_of_isOperatorStart {c : Char} (h : Reading.isOperatorStart c = true) :
    c.toNat = 33 ∨ 60 ≤ c.toNat ∧ c.toNat ≤ 62 ∨ c.toNat = 126 := by
  simp only [Reading.isOperatorStart, Bool.or_eq_true, beq_iff_eq] at h
  rcases h with (((rfl | rfl) | rfl) | rfl) | rfl <;> decide

theorem Operator.exists_cons_text (op : Operator) :
    ∃ c rest, op.text.toList = c :: rest ∧ Reading.isOperatorStart c = true := by
  cases op <;> simp [Operator.text, Reading.isOperatorStart]

namespace Lexical

variable {c : Char} {rest : List Char}

private theorem exists_kind_spelling {d : Decimal} (hd : d.WellFormed) :
    ∃ c rest, d.spelling = c :: rest ∧ Kind c rest := by
  obtain ⟨c, rest, hspelling, hc⟩ := hd.exists_cons_spelling
  exact ⟨c, rest, hspelling, .number hc d hd hspelling⟩

/-- Every piece is of some kind. -/
theorem exists_kind {piece : List Char} (h : Lexical piece) :
    ∃ c rest, piece = c :: rest ∧ Kind c rest := by
  rcases h with ⟨token, h⟩ | ⟨d, hd, rfl⟩
  · cases h with
    | name hword =>
      obtain ⟨⟨c, rest, hlist, hc, hrest⟩, -⟩ := hword
      exact ⟨c, rest, hlist, .word hc hrest⟩
    | keyword hword =>
      simp only [keywordTokens, List.mem_cons, Prod.mk.injEq, List.not_mem_nil, or_false] at hword
      rcases hword with ⟨rfl, -⟩ | ⟨rfl, -⟩ | ⟨rfl, -⟩ | ⟨rfl, -⟩ | ⟨rfl, -⟩ | ⟨rfl, -⟩
      all_goals exact ⟨_, _, rfl, .word rfl (List.all_eq_true.mp rfl)⟩
    | @text body hbody => exact ⟨'\'', _, rfl, .quoted rfl body hbody rfl⟩
    | number hd hfinite => exact exists_kind_spelling hd
    | operator op =>
      obtain ⟨c, rest, htext, hc⟩ := op.exists_cons_text
      exact ⟨c, rest, htext, .operator hc op htext⟩
    | lparen => exact ⟨'(', [], rfl, .parenthesis (.inl rfl) rfl⟩
    | rparen => exact ⟨')', [], rfl, .parenthesis (.inr rfl) rfl⟩
  · exact exists_kind_spelling hd

theorem kind (h : Lexical (c :: rest)) : Kind c rest := by
  obtain ⟨first, tail, heq, hkind⟩ := h.exists_kind
  rw [List.cons.injEq] at heq
  obtain ⟨rfl, rfl⟩ := heq
  exact hkind

/-- The kinds have no first character in common. -/
private theorem toNat_of_kind (h : Kind c rest) :
    (40 ≤ c.toNat ∧ c.toNat ≤ 41 ∧ rest = []) ∨
    (c.toNat = 39 ∧ ∃ body, '\'' ∉ body ∧ rest = body ++ ['\'']) ∨
    ((c.toNat = 33 ∨ 60 ≤ c.toNat ∧ c.toNat ≤ 62 ∨ c.toNat = 126) ∧
      ∃ op : Operator, op.text.toList = c :: rest) ∨
    ((c.toNat = 45 ∨ 48 ≤ c.toNat ∧ c.toNat ≤ 57) ∧
      ∃ d : Decimal, d.WellFormed ∧ d.spelling = c :: rest) ∨
    (65 ≤ c.toNat ∧ c.toNat ≤ 122 ∧ ∀ d ∈ rest, Reading.isNamePart d = true) := by
  cases h with
  | parenthesis hc hrest =>
    rcases hc with rfl | rfl
    · exact .inl ⟨by decide, by decide, hrest⟩
    · exact .inl ⟨by decide, by decide, hrest⟩
  | quoted hc body hbody hrest =>
    subst hc
    exact .inr (.inl ⟨by decide, body, hbody, hrest⟩)
  | operator hc op hop =>
    have hrange := toNat_of_isOperatorStart hc
    exact .inr (.inr (.inl ⟨hrange, op, hop⟩))
  | number hc d hd hspelling =>
    have hrange : c.toNat = 45 ∨ 48 ≤ c.toNat ∧ c.toNat ≤ 57 := by
      rcases hc with rfl | hdigit
      · exact .inl rfl
      · exact .inr (toNat_of_isDigit hdigit)
    exact .inr (.inr (.inr (.inl ⟨hrange, d, hd, hspelling⟩)))
  | word hc hrest =>
    have hrange := toNat_of_isNameStart hc
    exact .inr (.inr (.inr (.inr ⟨hrange.1, hrange.2, hrest⟩)))

theorem nil_of_parenthesis (h : Lexical (c :: rest)) (hc : c = '(' ∨ c = ')') : rest = [] := by
  have hrange : 40 ≤ c.toNat ∧ c.toNat ≤ 41 := by
    rcases hc with rfl | rfl <;> decide
  rcases toNat_of_kind h.kind with ⟨-, -, hrest⟩ | h | h | h | h
  · exact hrest
  all_goals omega

theorem exists_body (h : Lexical ('\'' :: rest)) : ∃ body, '\'' ∉ body ∧ rest = body ++ ['\''] := by
  have hrange : '\''.toNat = 39 := rfl
  rcases toNat_of_kind h.kind with h | ⟨-, hbody⟩ | h | h | h
  · omega
  · exact hbody
  all_goals omega

theorem exists_operator (h : Lexical (c :: rest)) (hc : Reading.isOperatorStart c = true) :
    ∃ op : Operator, op.text.toList = c :: rest := by
  have hrange := toNat_of_isOperatorStart hc
  rcases toNat_of_kind h.kind with h | h | ⟨-, hop⟩ | h | h
  · omega
  · omega
  · exact hop
  all_goals omega

theorem exists_decimal (h : Lexical (c :: rest)) (hc : c = '-' ∨ c.isDigit = true) :
    ∃ d : Decimal, d.WellFormed ∧ d.spelling = c :: rest := by
  have hrange : c.toNat = 45 ∨ 48 ≤ c.toNat ∧ c.toNat ≤ 57 := by
    rcases hc with rfl | hdigit
    · exact .inl rfl
    · exact .inr (toNat_of_isDigit hdigit)
  rcases toNat_of_kind h.kind with h | h | h | ⟨-, hd⟩ | h
  · omega
  · omega
  · omega
  · exact hd
  · omega

theorem isNamePart_of_mem (h : Lexical (c :: rest)) (hc : Reading.isNameStart c = true) :
    ∀ d ∈ rest, Reading.isNamePart d = true := by
  have hrange := toNat_of_isNameStart hc
  rcases toNat_of_kind h.kind with h | h | h | h | ⟨-, -, hrest⟩
  · omega
  · omega
  · omega
  · omega
  · exact hrest

theorem isBlank_eq_false (h : Lexical (c :: rest)) : isBlank c = false := by
  rcases toNat_of_kind h.kind with h | h | h | h | h
  all_goals exact Sift.isBlank_eq_false (by omega)

end Lexical

end Sift
