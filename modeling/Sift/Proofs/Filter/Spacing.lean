import Sift.Proofs.Filter.Joining

/-!
Blanks between lexemes. A lexeme is read the same however far on in a text it stands, and a blank
goes on none. So texts with blanks between them are read one after the other, blanks may be put in
wherever no lexeme is divided, and which blanks there are matters only inside quotes.
-/

namespace Sift

def Lexeme.shift (n : Nat) (l : Lexeme) : Lexeme := { l with position := l.position + n }

def SyntaxError.shift (n : Nat) (e : SyntaxError) : SyntaxError :=
  { e with position := e.position + n }

theorem map_token_shift (n : Nat) (ls : List Lexeme) :
    (ls.map (Lexeme.shift n)).map Lexeme.token = ls.map Lexeme.token := by
  rw [List.map_map]
  rfl

namespace Cursor

def shift (n : Nat) (cursor : Cursor) : Cursor := ⟨cursor.offset + n, cursor.rest⟩

theorem advance_shift (n : Nat) (cursor : Cursor) (passed rest : List Char) :
    (cursor.shift n).advance passed rest = (cursor.advance passed rest).shift n := by
  simp only [advance, shift, Nat.add_right_comm]

/-- One step of reading does not depend on where the text stands. -/
theorem next_shift (n : Nat) (cursor : Cursor) :
    (cursor.shift n).next =
      ((cursor.next.1.map (Option.map (Lexeme.shift n))).mapError (SyntaxError.shift n),
        cursor.next.2.shift n) := by
  have hrest (cursor : Cursor) : (cursor.shift n).rest = cursor.rest := rfl
  have hoffset (cursor : Cursor) : (cursor.shift n).offset = cursor.offset + n := rfl
  unfold next
  simp only [skipBlanks, advance_shift, hrest, hoffset]
  generalize cursor.advance _ _ = here
  cases here.rest with
  | nil => rfl
  | cons c text =>
    simp only
    cases (Reading.ofText c text).result with
    | ok token => rfl
    | error fault => cases fault <;> rfl

theorem lexemes_shift (n : Nat) (cursor : Cursor) :
    (cursor.shift n).lexemes =
      (cursor.lexemes.map (List.map (Lexeme.shift n))).mapError (SyntaxError.shift n) := by
  fun_induction Cursor.lexemes cursor with
  | case1 cursor e hnext =>
    rw [lexemes_eq, next_shift, hnext]
    rfl
  | case2 cursor hnext =>
    rw [lexemes_eq, next_shift, hnext]
    rfl
  | case3 cursor l hnext ih =>
    rw [lexemes_eq, next_shift, hnext]
    simp only [Except.map, Except.mapError, Option.map_some, ih]
    cases cursor.next.2.lexemes <;> rfl

end Cursor

theorem lexemes_at (offset : Nat) (text : String) :
    (⟨offset, text.toList⟩ : Cursor).lexemes =
      ((lexemes text).map (List.map (Lexeme.shift offset))).mapError
        (SyntaxError.shift offset) := by
  have hstart : (⟨offset, text.toList⟩ : Cursor) = (Cursor.start text).shift offset := by
    simp [Cursor.shift, Cursor.start]
  rw [hstart, Cursor.lexemes_shift]
  rfl

structure IsGap (text : String) : Prop where
  ne_empty : text ≠ ""
  blank : ∀ c ∈ text.toList, isBlank c = true

/-- A part of a name is a letter, an underscore or a digit. -/
theorem Reading.isNamePart_cases {c : Char} (h : isNamePart c = true) :
    isNameStart c = true ∨ c.isDigit = true := by
  simp only [isNamePart, Char.isAlphanum, Bool.or_eq_true] at h
  simp only [isNameStart, Bool.or_eq_true]
  tauto

theorem isBlank_eq_false_of_isNamePart {c : Char} (h : Reading.isNamePart c = true) :
    isBlank c = false := by
  apply isBlank_eq_false
  rcases Reading.isNamePart_cases h with hstart | hdigit
  · have := toNat_of_isNameStart hstart
    omega
  · have := toNat_of_isDigit hdigit
    omega

theorem IsGap.exists_cons {w : String} (hw : IsGap w) :
    ∃ d blanks, w.toList = d :: blanks ∧ isBlank d = true := by
  obtain ⟨d, blanks, hlist⟩ : ∃ d blanks, w.toList = d :: blanks := by
    apply List.exists_cons_of_ne_nil
    intro hnil
    exact hw.ne_empty (String.toList_eq_nil_iff.mp hnil)
  exact ⟨d, blanks, hlist, hw.blank d (by simp [hlist])⟩

/-- Blanks go on no lexeme, and neither does what stands behind them. -/
theorem IsGap.detached {w : String} (hw : IsGap w) (text : List Char) :
    Detached (w.toList ++ text) := by
  obtain ⟨d, blanks, hlist, hd⟩ := hw.exists_cons
  intro c hc
  rw [hlist] at hc
  obtain rfl : d = c := Option.some.inj hc
  refine ⟨?_, ?_, ?_⟩
  · by_contra hpart
    rw [isBlank_eq_false_of_isNamePart (by simpa using hpart)] at hd
    cases hd
  · rintro rfl
    cases hd
  · rintro rfl
    cases hd

theorem Longest.of_append {piece rest text : List Char} (h : Longest piece (rest ++ text)) :
    Longest piece rest := by
  intro more hmore hfront
  exact h more hmore (hfront.trans (List.prefix_append rest text))

/-- What a text splits into stays the same in front of a detached text. -/
theorem Splits.append_detached {cursor stop : Cursor} {ls : List Lexeme}
    (h : Splits cursor ls stop) {text : List Char} (htext : Detached text) :
    Splits ⟨cursor.offset, cursor.rest ++ text⟩ ls ⟨stop.offset, stop.rest ++ text⟩ := by
  induction h with
  | blanks hblanks =>
    rw [List.append_assoc]
    exact .blanks hblanks
  | @lexeme offset blanks rest l ls stop hblanks hposition hspelling hlongest _ ih =>
    obtain ⟨c, piece, hpiece⟩ := List.exists_cons_of_ne_nil hspelling.ne_nil
    have hlonger : Longest l.spelling (rest ++ text) := by
      rw [hpiece] at hspelling hlongest ⊢
      exact hlongest.append_detached (.inl ⟨l.token, hspelling⟩) htext
    rw [List.append_assoc, List.append_assoc]
    exact .lexeme hblanks hposition hspelling hlonger ih

/-- Behind another text and blanks, a text is read as it is by itself, only further on. -/
theorem lexemes_append_gap {a w b : String} (hw : IsGap w) {ls : List Lexeme}
    (h : lexemes a = .ok ls) :
    lexemes (a ++ w ++ b) =
      ((lexemes b).map (fun ls' => ls ++ ls'.map (Lexeme.shift (a ++ w).utf8ByteSize))).mapError
        (SyntaxError.shift (a ++ w).utf8ByteSize) := by
  obtain ⟨⟨offset, rest⟩, hstop, hsplits⟩ := exists_splits h
  obtain rfl : rest = [] := hstop
  obtain ⟨passed, hpassed, hoffset⟩ := hsplits.exists_passed
  have hbehind := hsplits.append_detached (hw.detached b.toList)
  have hsize : offset + utf8Length w.toList = (a ++ w).utf8ByteSize := by
    simp only [Cursor.start, List.append_nil] at hpassed hoffset
    rw [hoffset, ← hpassed, utf8ByteSize_eq, String.toList_append, utf8Length_append, Nat.zero_add]
  have hstart : Cursor.start (a ++ w ++ b) = ⟨0, a.toList ++ (w.toList ++ b.toList)⟩ := by
    simp [Cursor.start]
  change (Cursor.start (a ++ w ++ b)).lexemes = _
  rw [hstart]
  change Splits ⟨0, a.toList ++ (w.toList ++ b.toList)⟩ ls ⟨offset, w.toList ++ b.toList⟩ at hbehind
  rw [hbehind.lexemes_eq,
    Cursor.lexemes_eq_of_next_eq (Cursor.next_append_of_isBlank hw.blank offset b.toList), hsize,
    lexemes_at]
  cases lexemes b <;> rfl

theorem Splits.hasSpelling {cursor stop : Cursor} {ls : List Lexeme} (h : Splits cursor ls stop) :
    ∀ l ∈ ls, l.token.HasSpelling l.spelling := by
  induction h with
  | blanks => simp
  | lexeme _ _ hspelling _ _ ih => exact List.forall_mem_cons.mpr ⟨hspelling, ih⟩

def Lexeme.Straddles (l : Lexeme) (offset : Nat) : Prop := l.position < offset ∧ offset < l.stop

instance (l : Lexeme) (offset : Nat) : Decidable (l.Straddles offset) :=
  inferInstanceAs (Decidable (_ ∧ _))

theorem isBlank_eq_false_of_any {piece : List Char} (h : piece.any isBlank = false) :
    ∀ c ∈ piece, isBlank c = false := by
  simpa using h

theorem Decimal.WellFormed.isBlank_eq_false {d : Decimal} (hd : d.WellFormed) :
    ∀ c ∈ d.spelling, isBlank c = false := by
  have hdigit {c : Char} (hc : c.isDigit = true) : isBlank c = false := by
    have := toNat_of_isDigit hc
    apply Sift.isBlank_eq_false
    omega
  have hsign : ∀ c ∈ (if d.negative then ['-'] else []), isBlank c = false := by
    split
    · exact isBlank_eq_false_of_any rfl
    · simp
  have hpoint : ∀ c ∈ (if d.fraction.isEmpty then [] else '.' :: d.fraction),
      isBlank c = false := by
    split
    · simp
    · rw [List.forall_mem_cons]
      exact ⟨rfl, fun c hc => hdigit (hd.fraction_digits c hc)⟩
  simp only [Decimal.spelling, List.forall_mem_append]
  exact ⟨⟨hsign, fun c hc => hdigit (hd.whole_digits c hc)⟩, hpoint⟩

/-- No lexeme but quoted text has blanks in it. -/
theorem Token.HasSpelling.isBlank_eq_false {token : Token} {piece : List Char}
    (h : token.HasSpelling piece) (hquoted : ∀ value, token ≠ .text value) :
    ∀ c ∈ piece, isBlank c = false := by
  cases h with
  | name hword =>
    obtain ⟨⟨c, rest, hlist, hc, hrest⟩, -⟩ := hword
    rw [hlist, List.forall_mem_cons]
    exact ⟨isBlank_eq_false_of_isNamePart (Reading.isNamePart_of_isNameStart hc),
      fun d hd => isBlank_eq_false_of_isNamePart (hrest d hd)⟩
  | keyword hword =>
    apply isBlank_eq_false_of_any
    simp only [keywordTokens, List.mem_cons, Prod.mk.injEq, List.not_mem_nil, or_false] at hword
    rcases hword with ⟨rfl, -⟩ | ⟨rfl, -⟩ | ⟨rfl, -⟩ | ⟨rfl, -⟩ | ⟨rfl, -⟩ | ⟨rfl, -⟩
    all_goals rfl
  | @text body hbody => exact absurd rfl (hquoted (String.ofList body))
  | number hd hfinite => exact hd.isBlank_eq_false
  | operator op =>
    apply isBlank_eq_false_of_any
    cases op <;> rfl
  | lparen => exact isBlank_eq_false_of_any rfl
  | rparen => exact isBlank_eq_false_of_any rfl

/-- Of two texts that are the same in two parts each, one first part goes on where the other one
ends. -/
theorem append_eq_append_cases {x y a b : List Char} (h : x ++ y = a ++ b) :
    (∃ more, a = x ++ more ∧ y = more ++ b) ∨
      ∃ more, more ≠ [] ∧ x = a ++ more ∧ b = more ++ y := by
  rcases List.append_eq_append_iff.mp h with hfirst | ⟨more, rfl, rfl⟩
  · exact .inl hfirst
  · by_cases hnil : more = []
    · exact .inl ⟨[], by simp [hnil], by simp [hnil]⟩
    · exact .inr ⟨more, hnil, rfl, rfl⟩

theorem Splits.gap (offset : Nat) {blanks : List Char} (hblanks : ∀ c ∈ blanks, isBlank c = true) :
    Splits ⟨offset, blanks⟩ [] ⟨offset + utf8Length blanks, []⟩ := by
  have hsplits : Splits ⟨offset, blanks ++ []⟩ [] ⟨offset + utf8Length blanks, []⟩ :=
    .blanks hblanks
  rwa [List.append_nil] at hsplits

/-- A place with a part of the lexeme on either side lies inside it. -/
theorem Lexeme.straddles_of_parts {l : Lexeme} {offset : Nat} {blanks a b : List Char}
    (hposition : l.position = offset + utf8Length blanks) (hspelling : l.spelling = a ++ b)
    (ha : a ≠ []) (hb : b ≠ []) : l.Straddles (offset + utf8Length (blanks ++ a)) := by
  have hbefore := utf8Length_pos ha
  have hbehind := utf8Length_pos hb
  rw [Straddles, stop, hposition, hspelling, utf8Length_append, utf8Length_append]
  omega

/-- A text that splits to its end splits in two at any place, unless that place lies inside a
lexeme. -/
theorem Splits.exists_parts {cursor stop : Cursor} {ls : List Lexeme} (h : Splits cursor ls stop)
    (hstop : stop.rest = []) {a b : List Char} (hrest : cursor.rest = a ++ b) :
    (∃ ls₁ ls₂, ls = ls₁ ++ ls₂ ∧
      Splits ⟨cursor.offset, a⟩ ls₁ ⟨cursor.offset + utf8Length a, []⟩ ∧
      Splits ⟨cursor.offset + utf8Length a, b⟩ ls₂ stop) ∨
    ∃ l ∈ ls, l.Straddles (cursor.offset + utf8Length a) ∧
      ∃ c ∈ l.spelling, b.head? = some c := by
  induction h generalizing a with
  | @blanks offset blanks rest hblanks =>
    obtain rfl : rest = [] := hstop
    simp only [List.append_nil] at hrest
    subst hrest
    obtain ⟨ha, hb⟩ := List.forall_mem_append.mp hblanks
    rw [utf8Length_append, ← Nat.add_assoc]
    exact .inl ⟨[], [], rfl, .gap offset ha, .gap _ hb⟩
  | @lexeme offset blanks rest l ls stop hblanks hposition hspelling hlongest hsplits ih =>
    simp only at hrest ⊢
    rcases append_eq_append_cases hrest with ⟨a, rfl, hlexeme⟩ | ⟨more, hmore, rfl, rfl⟩
    · rcases append_eq_append_cases hlexeme with ⟨a, rfl, rfl⟩ | ⟨more, hmore, hpiece, rfl⟩
      · -- the place lies behind the lexeme
        have hplace : l.stop + utf8Length a =
            offset + utf8Length (blanks ++ (l.spelling ++ a)) := by
          simp only [Lexeme.stop, utf8Length_append]
          omega
        rw [← hplace]
        rcases ih hstop rfl with ⟨ls₁, ls₂, rfl, hfirst, hsecond⟩ | ⟨m, hm, hstraddles⟩
        · refine .inl ⟨l :: ls₁, ls₂, rfl, ?_, hsecond⟩
          exact .lexeme hblanks hposition hspelling hlongest.of_append hfirst
        · exact .inr ⟨m, List.mem_cons_of_mem l hm, hstraddles⟩
      · by_cases hnil : a = []
        · -- the lexeme begins at the place
          subst hnil
          simp only [List.nil_append] at hpiece
          subst hpiece
          rw [List.append_nil]
          refine .inl ⟨[], l :: ls, rfl, .gap offset hblanks, ?_⟩
          have hnone : ∀ c ∈ ([] : List Char), isBlank c = true := by simp
          exact .lexeme hnone hposition hspelling hlongest hsplits
        · -- the place lies inside the lexeme
          refine .inr ⟨l, List.mem_cons_self,
            l.straddles_of_parts hposition hpiece hnil hmore, ?_⟩
          obtain ⟨c, more, rfl⟩ := List.exists_cons_of_ne_nil hmore
          exact ⟨c, by simp [hpiece], rfl⟩
    · -- the place lies in front of the lexeme
      obtain ⟨ha, hb⟩ := List.forall_mem_append.mp hblanks
      rw [utf8Length_append, ← Nat.add_assoc] at hposition
      exact .inl ⟨[], l :: ls, rfl, .gap offset ha, .lexeme hb hposition hspelling hlongest hsplits⟩

theorem map_shift_eq_ok {result : Except SyntaxError (List Lexeme)} {n : Nat} {ls : List Lexeme}
    (h : (result.map (List.map (Lexeme.shift n))).mapError (SyntaxError.shift n) = .ok ls) :
    ∃ ls', result = .ok ls' ∧ ls = ls'.map (Lexeme.shift n) := by
  cases result with
  | error e => cases h
  | ok ls' =>
    cases h
    exact ⟨ls', rfl, rfl⟩

/-- Where no lexeme is divided, the two parts of a text are read for themselves. -/
theorem exists_lexemes_parts {a b : String} {ls : List Lexeme} (h : lexemes (a ++ b) = .ok ls)
    (hwhole : ∀ l ∈ ls, l.Straddles a.utf8ByteSize → ∀ c ∈ l.spelling, b.toList.head? ≠ some c) :
    ∃ first second, lexemes a = .ok first ∧ lexemes b = .ok second ∧
      ls = first ++ second.map (Lexeme.shift a.utf8ByteSize) := by
  obtain ⟨stop, hstop, hsplits⟩ := exists_splits h
  have hlist : (Cursor.start (a ++ b)).rest = a.toList ++ b.toList := String.toList_append
  have hplace : (Cursor.start (a ++ b)).offset + utf8Length a.toList = a.utf8ByteSize := by
    rw [utf8ByteSize_eq, Cursor.start, Nat.zero_add]
  have hparts := hsplits.exists_parts hstop hlist
  rw [hplace] at hparts
  rcases hparts with ⟨first, second, rfl, hfirst, hsecond⟩ | ⟨l, hl, hstraddles, c, hc, hhead⟩
  · have hread := hsecond.lexemes_eq_ok hstop
    rw [lexemes_at] at hread
    obtain ⟨second, hb, rfl⟩ := map_shift_eq_ok hread
    exact ⟨first, second, hfirst.lexemes_eq_ok rfl, hb, rfl⟩
  · exact absurd hhead (hwhole l hl hstraddles c hc)

/-- The lexeme, so many bytes further on if it stands at the place or behind it. -/
def Lexeme.shiftFrom (offset n : Nat) (l : Lexeme) : Lexeme :=
  if offset ≤ l.position then l.shift n else l

/-- Blanks put in where no lexeme is divided move on the lexemes behind them. -/
theorem lexemes_insert_gap {a w b : String} (hw : IsGap w) {ls : List Lexeme}
    (h : lexemes (a ++ b) = .ok ls) (hwhole : ∀ l ∈ ls, ¬ l.Straddles a.utf8ByteSize) :
    lexemes (a ++ w ++ b) =
      .ok (ls.map (Lexeme.shiftFrom a.utf8ByteSize w.utf8ByteSize)) := by
  obtain ⟨first, second, hfirst, hsecond, rfl⟩ :=
    exists_lexemes_parts h (fun l hl hstraddles => absurd hstraddles (hwhole l hl))
  have hstay : first.map (Lexeme.shiftFrom a.utf8ByteSize w.utf8ByteSize) = first := by
    rw [List.map_congr_left (g := id), List.map_id]
    intro l hl
    exact if_neg (Nat.not_le.mpr (position_lt_of_lexemes hfirst l hl))
  have hmove : (second.map (Lexeme.shift a.utf8ByteSize)).map
      (Lexeme.shiftFrom a.utf8ByteSize w.utf8ByteSize) =
        second.map (Lexeme.shift (a ++ w).utf8ByteSize) := by
    rw [List.map_map]
    apply List.map_congr_left
    intro l _
    have hbehind : a.utf8ByteSize ≤ (l.shift a.utf8ByteSize).position := Nat.le_add_left _ _
    rw [Function.comp_apply, Lexeme.shiftFrom, if_pos hbehind, String.utf8ByteSize_append]
    simp only [Lexeme.shift, Nat.add_assoc]
  rw [lexemes_append_gap hw hfirst, hsecond, List.map_append, hstay, hmove]
  rfl

def tokens (text : String) : Except SyntaxError (List Token) :=
  (lexemes text).map (List.map Lexeme.token)

/-- Behind blanks it does not matter how many there are. -/
theorem tokens_append_gap {a w b : String} (hw : IsGap w) {first second : List Lexeme}
    (hfirst : lexemes a = .ok first) (hsecond : lexemes b = .ok second) :
    tokens (a ++ w ++ b) = .ok (first.map Lexeme.token ++ second.map Lexeme.token) := by
  rw [tokens, lexemes_append_gap hw hfirst, hsecond]
  simp only [Except.map, Except.mapError, List.map_append, map_token_shift]

/-- Blanks are put in where no lexeme is divided, or other blanks stand where there were some, not
in quotes. -/
inductive Respaced : String → String → Prop where
  | insert {a w b : String} {ls : List Lexeme} (hw : IsGap w) (hlexemes : lexemes (a ++ b) = .ok ls)
    (hwhole : ∀ l ∈ ls, ¬ l.Straddles a.utf8ByteSize) : Respaced (a ++ b) (a ++ w ++ b)
  | replace {a w w' b : String} {ls : List Lexeme} (hw : IsGap w) (hw' : IsGap w')
    (hlexemes : lexemes (a ++ w ++ b) = .ok ls)
    (hunquoted : ∀ l ∈ ls, ∀ value, l.token = .text value → ¬ l.Straddles a.utf8ByteSize) :
    Respaced (a ++ w ++ b) (a ++ w' ++ b)

theorem Respaced.tokens_eq {text text' : String} (h : Respaced text text') :
    tokens text' = tokens text := by
  cases h with
  | @insert a w b ls hw hlexemes hwhole =>
    obtain ⟨first, second, hfirst, hsecond, rfl⟩ :=
      exists_lexemes_parts hlexemes (fun l hl hstraddles => absurd hstraddles (hwhole l hl))
    rw [tokens_append_gap hw hfirst hsecond, tokens, hlexemes, Except.map, List.map_append,
      map_token_shift]
  | @replace a w w' b ls hw hw' hlexemes hunquoted =>
    -- Only quoted text goes past a blank, so no lexeme is divided in front of the blanks.
    have hwhole : ∀ l ∈ ls, l.Straddles a.utf8ByteSize →
        ∀ c ∈ l.spelling, (w ++ b).toList.head? ≠ some c := by
      intro l hl hstraddles c hc hhead
      obtain ⟨stop, -, hsplits⟩ := exists_splits hlexemes
      have hplain := (hsplits.hasSpelling l hl).isBlank_eq_false
        (fun value htoken => hunquoted l hl value htoken hstraddles) c hc
      obtain ⟨d, blanks, hlist, hd⟩ := hw.exists_cons
      obtain rfl : d = c := by simpa [hlist] using hhead
      rw [hd] at hplain
      cases hplain
    have happend := hlexemes
    rw [String.append_assoc] at happend
    obtain ⟨first, rest, hfirst, hrest, -⟩ := exists_lexemes_parts happend hwhole
    have hall := lexemes_append_gap hw (b := b) hfirst
    rw [hlexemes] at hall
    cases hsecond : lexemes b with
    | error e =>
      rw [hsecond] at hall
      cases hall
    | ok second => rw [tokens_append_gap hw hfirst hsecond, tokens_append_gap hw' hfirst hsecond]

namespace Filter

open Grammar

theorem derives_iff_tokens {d : Disjunction} {text : String} :
    d.Derives text ↔ tokens text = .ok d.tokens := by
  rw [Disjunction.Derives, tokens]
  cases lexemes text <;> simp [Except.map]

theorem forall_isBlank_iff_tokens {text : String} :
    (∀ c ∈ text.toList, isBlank c = true) ↔ tokens text = .ok [] := by
  rw [← lexemes_eq_nil_iff, tokens]
  cases lexemes text <;> simp [Except.map]

/-- The tokens say what a text is read to. -/
theorem parse_eq_ok_iff_of_tokens_eq {text text' : String} (h : tokens text' = tokens text)
    {limits : Limits} (hlength : text.utf8ByteSize ≤ limits.maxLength)
    (hlength' : text'.utf8ByteSize ≤ limits.maxLength) (f : Filter) :
    Filter.parse text limits = .ok f ↔ Filter.parse text' limits = .ok f := by
  cases f with
  | matchAll =>
    rw [parse_eq_ok_matchAll_iff, parse_eq_ok_matchAll_iff, forall_isBlank_iff_tokens,
      forall_isBlank_iff_tokens, h]
    exact and_congr_left' (iff_of_true hlength hlength')
  | expr e =>
    simp only [parse_eq_ok_expr_iff, derives_iff_tokens, h, hlength, hlength']

/-- Blanks between lexemes are of no account. Behind a text and blanks, any text is read as it is by
itself, to the same lexemes or the same error, only further on. Blanks put in where no lexeme is
divided move on the lexemes behind them, and nothing else. So however often blanks are put in
between lexemes or are replaced by others, not in quotes, the text is read to the same filter where
the limit on length leaves room. -/
theorem spacing_irrelevant :
    (∀ a w b : String, IsGap w → ∀ ls, lexemes a = .ok ls →
      lexemes (a ++ w ++ b) =
        ((lexemes b).map (fun ls' => ls ++ ls'.map (Lexeme.shift (a ++ w).utf8ByteSize))).mapError
          (SyntaxError.shift (a ++ w).utf8ByteSize)) ∧
    (∀ a w b : String, IsGap w → ∀ ls, lexemes (a ++ b) = .ok ls →
      (∀ l ∈ ls, ¬ l.Straddles a.utf8ByteSize) →
      lexemes (a ++ w ++ b) =
        .ok (ls.map (Lexeme.shiftFrom a.utf8ByteSize w.utf8ByteSize))) ∧
    ∀ text text' : String, Relation.ReflTransGen Respaced text text' → ∀ limits : Limits,
      text.utf8ByteSize ≤ limits.maxLength → text'.utf8ByteSize ≤ limits.maxLength →
      ∀ f, Filter.parse text limits = .ok f ↔ Filter.parse text' limits = .ok f := by
  refine ⟨fun a w b hw ls h => lexemes_append_gap hw h,
    fun a w b hw ls h hwhole => lexemes_insert_gap hw h hwhole, ?_⟩
  intro text text' h limits hlength hlength' f
  have htokens : tokens text' = tokens text := by
    clear hlength'
    induction h with
    | refl => rfl
    | tail _ hlast ih => rw [hlast.tokens_eq, ih]
  exact parse_eq_ok_iff_of_tokens_eq htokens hlength hlength' f

/-- A wide blank is put in behind the closing quote, and a tab and a line break take the place of
the space behind `or`. The blanks inside the quotes are text. -/
theorem spacing_irrelevant_quoted :
    lexemes ("n=='é  b'" ++ "\u2003" ++ "or n>=1.5") =
      .ok [⟨.name "n", ['n'], 0⟩, ⟨.operator .eq, ['=', '='], 1⟩,
        ⟨.text "é  b", ['\'', 'é', ' ', ' ', 'b', '\''], 3⟩, ⟨.or, ['o', 'r'], 13⟩,
        ⟨.name "n", ['n'], 16⟩, ⟨.operator .ge, ['>', '='], 17⟩,
        ⟨.number (Decimal.toBinary64 ⟨false, ['1'], ['5']⟩), ['1', '.', '5'], 19⟩] ∧
    ∀ f, Filter.parse "n=='é  b'or n>=1.5" {} = .ok f ↔
      Filter.parse "n=='é  b'\u2003or\t\nn>=1.5" {} = .ok f := by
  let ls : List Lexeme :=
    [⟨.name "n", ['n'], 0⟩, ⟨.operator .eq, ['=', '='], 1⟩,
      ⟨.text "é  b", ['\'', 'é', ' ', ' ', 'b', '\''], 3⟩, ⟨.or, ['o', 'r'], 10⟩,
      ⟨.name "n", ['n'], 13⟩, ⟨.operator .ge, ['>', '='], 14⟩,
      ⟨.number (Decimal.toBinary64 ⟨false, ['1'], ['5']⟩), ['1', '.', '5'], 16⟩]
  have hwide : IsGap "\u2003" := ⟨by decide, List.all_eq_true.mp rfl⟩
  have hspace : IsGap " " := ⟨by decide, List.all_eq_true.mp rfl⟩
  have hbreak : IsGap "\t\n" := ⟨by decide, List.all_eq_true.mp rfl⟩
  have hls : lexemes ("n=='é  b'" ++ "or n>=1.5") = .ok ls := by decide +kernel
  have hwhole : ∀ l ∈ ls, ¬ l.Straddles "n=='é  b'".utf8ByteSize := by
    decide +kernel
  obtain ⟨-, hinsert, hparse⟩ := spacing_irrelevant
  have hinserted := hinsert "n=='é  b'" "\u2003" "or n>=1.5" hwide ls hls hwhole
  refine ⟨hinserted, ?_⟩
  have hfirst : Respaced ("n=='é  b'" ++ "or n>=1.5") ("n=='é  b'" ++ "\u2003" ++ "or n>=1.5") :=
    .insert hwide hls hwhole
  have hsecond : Respaced ("n=='é  b'\u2003or" ++ " " ++ "n>=1.5")
      ("n=='é  b'\u2003or" ++ "\t\n" ++ "n>=1.5") := by
    have hunquoted : ∀ l ∈ ls.map (Lexeme.shiftFrom "n=='é  b'".utf8ByteSize "\u2003".utf8ByteSize),
        ¬ l.Straddles "n=='é  b'\u2003or".utf8ByteSize := by
      decide +kernel
    exact .replace hspace hbreak hinserted (fun l hl _ _ => hunquoted l hl)
  exact hparse _ _ (.tail (.single hfirst) hsecond) {} (by decide) (by decide)

end Filter

end Sift
