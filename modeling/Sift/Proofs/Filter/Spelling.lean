import Sift.Filter.Printer
import Sift.Proofs.Binary64.Printing
import Sift.Proofs.Filter.Grammar
import Sift.Proofs.Filter.Reading

namespace Sift

/-- The text is read to the end as these tokens, wherever it begins. -/
def Scans (text : List Char) (ts : List Token) : Prop :=
  ∀ offset, ∃ ls, (⟨offset, text⟩ : Cursor).lexemes = .ok ls ∧ ls.map Lexeme.token = ts

theorem scans_nil : Scans [] [] := by
  intro offset
  exact ⟨[], (Cursor.lexemes_eq_nil_iff ⟨offset, []⟩).mpr (by simp), rfl⟩

namespace Scans

variable {c : Char} {text rest : List Char} {ts : List Token}

theorem blank (hc : isBlank c = true) (h : Scans text ts) : Scans (c :: text) ts := by
  intro offset
  have heq : (⟨offset, c :: text⟩ : Cursor).lexemes =
      (⟨offset + c.utf8Size, text⟩ : Cursor).lexemes := by
    rw [Cursor.lexemes_eq, Cursor.next_cons_of_isBlank hc, ← Cursor.lexemes_eq]
  rw [heq]
  exact h _

theorem blanks {blanks : List Char} (hblanks : ∀ c ∈ blanks, isBlank c = true)
    (h : Scans text ts) : Scans (blanks ++ text) ts := by
  induction blanks with
  | nil => exact h
  | cons c blanks ih =>
    rw [List.forall_mem_cons] at hblanks
    exact blank hblanks.1 (ih hblanks.2)

theorem token {t : Token} (hc : isBlank c = false)
    (hread : (Reading.ofText c text).result = .ok t)
    (h : Scans (Reading.ofText c text).rest ts) : Scans (c :: text) (t :: ts) := by
  intro offset
  obtain ⟨ls, hls, htokens⟩ := h (offset + utf8Length (Reading.ofText c text).spelling)
  refine ⟨⟨t, (Reading.ofText c text).spelling, offset⟩ :: ls, ?_, by simp [htokens]⟩
  rw [Cursor.lexemes_eq, Cursor.next_cons_of_not_isBlank hc offset text hread]
  simp [hls, Except.map]

theorem lparen (h : Scans text ts) : Scans ('(' :: text) (.lparen :: ts) :=
  token (by decide) rfl h

theorem rparen (h : Scans text ts) : Scans (')' :: text) (.rparen :: ts) :=
  token (by decide) rfl h

theorem space (h : Scans text ts) : Scans (' ' :: text) ts := blank (by decide) h

/-- An operator in front of a blank is not prolonged. -/
theorem operator (op : Operator) (h : Scans text ts) :
    Scans (op.text.toList ++ ' ' :: text) (.operator op :: ts) := by
  cases op <;> exact token (by decide) rfl (space h)

theorem quoted {value : String} (hvalue : '\'' ∉ value.toList) (h : Scans text ts) :
    Scans ('\'' :: value.toList ++ '\'' :: text) (.text value :: ts) := by
  have hread := Reading.ofText_quoted hvalue text
  rw [String.ofList_toList] at hread
  have hresult := congrArg Reading.result hread
  have hrest := congrArg Reading.rest hread
  exact token (by decide) hresult (hrest ▸ h)

theorem word (hc : Reading.isNameStart c = true) (hrest : rest.all Reading.isNamePart = true)
    (htext : ∀ d, text.head? = some d → Reading.isNamePart d = false) (h : Scans text ts) :
    Scans (c :: rest ++ text) (Token.ofWord (c :: rest) :: ts) := by
  have hrange := toNat_of_isNameStart hc
  have hread := Reading.ofText_word hc (List.all_eq_true.mp hrest) htext
  have hresult := congrArg Reading.result hread
  have hleft := congrArg Reading.rest hread
  exact token (isBlank_eq_false (by omega)) hresult (hleft ▸ h)

theorem name {field : String} (hfield : IsName field)
    (htext : ∀ d, text.head? = some d → Reading.isNamePart d = false) (h : Scans text ts) :
    Scans (field.toList ++ text) (.name field :: ts) := by
  obtain ⟨⟨c, rest, hlist, hc, hrest⟩, hkeyword⟩ := hfield
  have hword : Token.ofWord (c :: rest) = .name field := by
    have hfield : String.ofList (c :: rest) = field := by rw [← hlist, String.ofList_toList]
    rw [Token.ofWord_eq_name (by rwa [hfield]), hfield]
  rw [hlist, ← hword]
  exact word hc (List.all_eq_true.mpr hrest) htext h

theorem number {x : Binary64} (hx : x.isFinite = true) (htext : Decimal.Ends text)
    (h : Scans text ts) : Scans (x.toChars ++ text) (.number x :: ts) := by
  obtain ⟨d, hd, htoChars, hvalue⟩ := Binary64.exists_decimal hx
  obtain ⟨c, spelling, hspelling, hc⟩ := hd.exists_cons_spelling
  have hblank : isBlank c = false := by
    rcases hc with rfl | hdigit
    · decide
    · have hrange := toNat_of_isDigit hdigit
      exact isBlank_eq_false (by omega)
  have hread := Reading.ofText_number hd hspelling (htext.stops d.fraction)
  have hresult : (Reading.ofText c (spelling ++ text)).result = .ok (.number x) := by
    rw [hread]
    simp [Reading.number, hvalue, hx]
  have hrest : (Reading.ofText c (spelling ++ text)).rest = text := by
    rw [hread]
    rfl
  rw [htoChars, hspelling]
  exact token hblank hresult (hrest.symm ▸ h)

end Scans

def Delimited (text : List Char) : Prop := ∀ c, text.head? = some c → c = ' ' ∨ c = ')'

theorem delimited_nil : Delimited [] := by
  intro c hc
  cases hc

theorem delimited_space (text : List Char) : Delimited (' ' :: text) := by
  intro c hc
  cases hc
  exact .inl rfl

theorem delimited_rparen (text : List Char) : Delimited (')' :: text) := by
  intro c hc
  cases hc
  exact .inr rfl

theorem Delimited.isNamePart {text : List Char} (h : Delimited text) :
    ∀ c, text.head? = some c → Reading.isNamePart c = false := by
  intro c hc
  rcases h c hc with rfl | rfl <;> decide

theorem Delimited.ends {text : List Char} (h : Delimited text) : Decimal.Ends text := by
  intro c hc
  rcases h c hc with rfl | rfl <;> decide

/-- The characters are read as the tokens in front of any text that does not prolong them. -/
def Spells (chars : List Char) (ts : List Token) : Prop :=
  ∀ ⦃text : List Char⦄ ⦃us : List Token⦄, Delimited text → Scans text us →
    Scans (chars ++ text) (ts ++ us)

namespace Spells

theorem scans {chars : List Char} {ts : List Token} (h : Spells chars ts) : Scans chars ts := by
  simpa using h delimited_nil scans_nil

theorem literal {l : Literal} (hl : l.token.Spellable) : Spells l.toChars [l.token] := by
  intro text us htext h
  cases l with
  | text value =>
    have hchars : (Literal.text value).toChars ++ text = '\'' :: value.toList ++ '\'' :: text := by
      change ('\'' :: value.toList ++ ['\'']) ++ text = _
      rw [List.append_assoc]
      rfl
    rw [hchars]
    exact Scans.quoted hl h
  | number value => exact Scans.number hl htext.ends h
  | bool value =>
    cases value with
    | true => exact Scans.word (by decide) (by decide) htext.isNamePart h
    | false => exact Scans.word (by decide) (by decide) htext.isNamePart h
  | null => exact Scans.word (by decide) (by decide) htext.isNamePart h

theorem comparison {field : String} (op : Operator) {l : Literal} (hfield : IsName field)
    (hl : l.token.Spellable) :
    Spells (Expr.comparison field op l).toChars [.name field, .operator op, l.token] := by
  intro text us htext h
  have hliteral := literal hl htext h
  have hoperator := Scans.operator op hliteral
  have hname := Scans.name hfield (delimited_space _).isNamePart (Scans.space hoperator)
  simpa [Expr.toChars] using hname

variable {chars chars' : List Char} {ts ts' : List Token}

theorem not (h : Spells chars ts) : Spells ("not ".toList ++ chars) (.not :: ts) := by
  intro text us htext hus
  have hrest := Scans.space (h htext hus)
  have hword : Scans (['n', 'o', 't'] ++ ' ' :: (chars ++ text)) (.not :: (ts ++ us)) :=
    Scans.word (by decide) (by decide) (delimited_space _).isNamePart hrest
  exact hword

theorem and (h : Spells chars ts) (h' : Spells chars' ts') :
    Spells (chars ++ " and ".toList ++ chars') (ts ++ .and :: ts') := by
  intro text us htext hus
  have hrest := Scans.space (h' htext hus)
  have hword : Scans (['a', 'n', 'd'] ++ ' ' :: (chars' ++ text)) (.and :: (ts' ++ us)) :=
    Scans.word (by decide) (by decide) (delimited_space _).isNamePart hrest
  simpa using h (delimited_space _) (Scans.space hword)

theorem or (h : Spells chars ts) (h' : Spells chars' ts') :
    Spells (chars ++ " or ".toList ++ chars') (ts ++ .or :: ts') := by
  intro text us htext hus
  have hrest := Scans.space (h' htext hus)
  have hword : Scans (['o', 'r'] ++ ' ' :: (chars' ++ text)) (.or :: (ts' ++ us)) :=
    Scans.word (by decide) (by decide) (delimited_space _).isNamePart hrest
  simpa using h (delimited_space _) (Scans.space hword)

theorem parenthesized (needed : Bool) (h : Spells chars ts) :
    Spells (Sift.parenthesized needed chars)
      (if needed then .lparen :: (ts ++ [.rparen]) else ts) := by
  intro text us htext hus
  cases needed with
  | true =>
    have hinner := h (delimited_rparen text) (Scans.rparen hus)
    simpa [Sift.parenthesized] using Scans.lparen hinner
  | false => exact h htext hus

end Spells

/-- A text that spells the tokens of a tree is derived by the tree. -/
theorem Grammar.Disjunction.derives_of_spells {d : Grammar.Disjunction} {text : String}
    (h : Spells text.toList d.tokens) : d.Derives text := by
  obtain ⟨ls, hlexemes, htokens⟩ := h.scans 0
  exact ⟨ls, hlexemes, htokens⟩

end Sift
