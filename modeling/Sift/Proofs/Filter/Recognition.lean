import Mathlib.Control.Monad.Basic
import Sift.Proofs.Filter.Lexing
import Sift.Proofs.Filter.Parsing

/-!
What the reader has read when it stands at a place: the operands so far are expressions of trees,
and the tokens so far are those of the trees with the connectives, `not`s and parentheses that are
still open. Each step keeps this, so a text that is read to its end is a sentence, and reading is
described by the grammar in full.
-/

namespace Sift

namespace Parse

/-- The steps of the reader. Only a `not` and an opening parenthesis ask for more depth. -/
inductive Transition (maxDepth : Nat) : Parse → Lexeme → Parse → Prop where
  | not {l : Lexeme} {level : Level} {enclosing : List (Lexeme × Level)} (htoken : l.token = .not)
    (hdepth : depth level enclosing + 1 ≤ maxDepth) :
    Transition maxDepth ⟨.operand level, enclosing⟩ l
      ⟨.operand ⟨level.disjuncts, level.conjuncts, level.negations + 1⟩, enclosing⟩
  | lparen {l : Lexeme} {level : Level} {enclosing : List (Lexeme × Level)}
    (htoken : l.token = .lparen) (hdepth : depth level enclosing + 1 ≤ maxDepth) :
    Transition maxDepth ⟨.operand level, enclosing⟩ l ⟨.operand .empty, (l, level) :: enclosing⟩
  | name {l : Lexeme} {level : Level} {enclosing : List (Lexeme × Level)} {field : String}
    (htoken : l.token = .name field) :
    Transition maxDepth ⟨.operand level, enclosing⟩ l ⟨.operator level field, enclosing⟩
  | operator {l : Lexeme} {level : Level} {enclosing : List (Lexeme × Level)} {field : String}
    {op : Operator} (htoken : l.token = .operator op) :
    Transition maxDepth ⟨.operator level field, enclosing⟩ l ⟨.literal level field op, enclosing⟩
  | literal {l : Lexeme} {level : Level} {enclosing : List (Lexeme × Level)} {field : String}
    {op : Operator} {literal : Literal} (htoken : l.token = literal.token) :
    Transition maxDepth ⟨.literal level field op, enclosing⟩ l
      ⟨.connective level.disjuncts (level.conjoin (.comparison field op literal)), enclosing⟩
  | and {l : Lexeme} {disjuncts : Option Expr} {conjuncts : Expr}
    {enclosing : List (Lexeme × Level)} (htoken : l.token = .and) :
    Transition maxDepth ⟨.connective disjuncts conjuncts, enclosing⟩ l
      ⟨.operand ⟨disjuncts, some conjuncts, 0⟩, enclosing⟩
  | or {l : Lexeme} {disjuncts : Option Expr} {conjuncts : Expr}
    {enclosing : List (Lexeme × Level)} (htoken : l.token = .or) :
    Transition maxDepth ⟨.connective disjuncts conjuncts, enclosing⟩ l
      ⟨.operand ⟨some (Level.joinOr disjuncts conjuncts), none, 0⟩, enclosing⟩
  | rparen {l opening : Lexeme} {disjuncts : Option Expr} {conjuncts : Expr} {outer : Level}
    {enclosing : List (Lexeme × Level)} (htoken : l.token = .rparen) :
    Transition maxDepth ⟨.connective disjuncts conjuncts, (opening, outer) :: enclosing⟩ l
      ⟨.connective outer.disjuncts (outer.conjoin (Level.joinOr disjuncts conjuncts)), enclosing⟩

theorem transition_of_descend {maxDepth : Nat} {level : Level}
    {enclosing : List (Lexeme × Level)} {q : Parse}
    (h : descend maxDepth level enclosing = .ok q) :
    depth level enclosing ≤ maxDepth ∧ q = ⟨.operand level, enclosing⟩ := by
  unfold descend at h
  split at h
  · cases h
  · rename_i hle
    cases h
    exact ⟨Nat.not_lt.mp hle, rfl⟩

/-- A step that does not fail is one of the steps listed above. -/
theorem transition_of_step {maxDepth : Nat} {p q : Parse} {l : Lexeme}
    (h : step maxDepth p l = .ok q) : Transition maxDepth p l q := by
  obtain ⟨awaiting, enclosing⟩ := p
  cases awaiting with
  | operand level =>
    simp only [step] at h
    split at h
    · rename_i htoken
      obtain ⟨hdepth, rfl⟩ := transition_of_descend h
      rw [depth_mk, Nat.add_right_comm, ← depth_eq] at hdepth
      exact .not htoken hdepth
    · rename_i htoken
      obtain ⟨hdepth, rfl⟩ := transition_of_descend h
      rw [depth_cons] at hdepth
      exact .lparen htoken hdepth
    · rename_i field htoken
      cases h
      exact .name htoken
    · cases h
  | operator level field =>
    simp only [step] at h
    split at h
    · rename_i op htoken
      cases h
      exact .operator htoken
    · cases h
  | literal level field op =>
    simp only [step] at h
    split at h
    · rename_i literal hliteral
      cases h
      exact .literal ((Token.literal?_eq_some_iff _ _).mp hliteral)
    · cases h
  | connective disjuncts conjuncts =>
    simp only [step] at h
    split at h
    · rename_i htoken
      cases h
      exact .and htoken
    · rename_i htoken
      cases h
      exact .or htoken
    · rename_i htoken
      cases h
      exact .rparen htoken
    · cases h
    · cases h

end Parse

namespace Grammar

open Parse

def ReadOr : Option Expr → List Token → Prop
  | none, ts => ts = []
  | some e, ts => ∃ d : Disjunction, d.expr = e ∧ ts = d.tokens ++ [.or]

def ReadAnd : Option Expr → List Token → Prop
  | none, ts => ts = []
  | some e, ts => ∃ c : Conjunction, c.expr = e ∧ ts = c.tokens ++ [.and]

def ReadLevel (level : Level) (ts : List Token) : Prop :=
  ∃ before joined, ReadOr level.disjuncts before ∧ ReadAnd level.conjuncts joined ∧
    ts = before ++ joined ++ List.replicate level.negations .not

def ReadEnclosing : List (Lexeme × Level) → List Token → Prop
  | [], ts => ts = []
  | (_, level) :: enclosing, ts => ∃ outer inner, ReadEnclosing enclosing outer ∧
      ReadLevel level inner ∧ ts = outer ++ inner ++ [.lparen]

def ReadInnermost : Awaiting → List Token → Prop
  | .operand level, ts => ReadLevel level ts
  | .operator level field, ts => ∃ before, ReadLevel level before ∧ ts = before ++ [.name field]
  | .literal level field op, ts =>
    ∃ before, ReadLevel level before ∧ ts = before ++ [.name field, .operator op]
  | .connective disjuncts conjuncts, ts => ∃ before, ∃ c : Conjunction,
      ReadOr disjuncts before ∧ c.expr = conjuncts ∧ ts = before ++ c.tokens

/-- The tokens that the reader has taken when it stands at a place. -/
def ReadSoFar (p : Parse) (ts : List Token) : Prop :=
  ∃ outer inner, ReadEnclosing p.enclosing outer ∧ ReadInnermost p.awaiting inner ∧
    ts = outer ++ inner

theorem readLevel_empty : ReadLevel .empty [] := ⟨[], [], rfl, rfl, rfl⟩

theorem readSoFar_start : ReadSoFar Parse.start [] := ⟨[], [], rfl, readLevel_empty, rfl⟩

def Unary.negate : Nat → Unary → Unary
  | 0, u => u
  | n + 1, u => .not (Unary.negate n u)

theorem Unary.tokens_negate (n : Nat) (u : Unary) :
    (Unary.negate n u).tokens = List.replicate n .not ++ u.tokens := by
  induction n with
  | zero => rfl
  | succ n ih => simp [Unary.negate, Unary.tokens, ih, List.replicate_succ]

theorem Unary.expr_negate (n : Nat) (u : Unary) :
    (Unary.negate n u).expr = Level.negate n u.expr := by
  induction n with
  | zero => rfl
  | succ n ih => exact congrArg Expr.not ih

/-- The operands in front of an `and` and the one behind it are a conjunction. -/
theorem exists_conjunction {conjuncts : Option Expr} {ts : List Token}
    (h : ReadAnd conjuncts ts) (u : Unary) :
    ∃ c : Conjunction, c.expr = Level.joinAnd conjuncts u.expr ∧ c.tokens = ts ++ u.tokens := by
  cases conjuncts with
  | none =>
    obtain rfl : ts = [] := h
    exact ⟨u.alone, rfl, by simp⟩
  | some e =>
    obtain ⟨c, rfl, rfl⟩ := h
    exact ⟨c.snoc u, by simp [Level.joinAnd], by simp⟩

/-- The operands in front of an `or` and the one behind it are a disjunction. -/
theorem exists_disjunction {disjuncts : Option Expr} {ts : List Token}
    (h : ReadOr disjuncts ts) (c : Conjunction) :
    ∃ d : Disjunction, d.expr = Level.joinOr disjuncts c.expr ∧ d.tokens = ts ++ c.tokens := by
  cases disjuncts with
  | none =>
    obtain rfl : ts = [] := h
    exact ⟨c.alone, rfl, by simp⟩
  | some e =>
    obtain ⟨d, rfl, rfl⟩ := h
    exact ⟨d.snoc c, by simp [Level.joinOr], by simp⟩

/-- A level that gets its operand goes on to a connective. -/
theorem readInnermost_connective {level : Level} {ts : List Token} (h : ReadLevel level ts)
    (p : Primary) :
    ReadInnermost (.connective level.disjuncts (level.conjoin p.expr)) (ts ++ p.tokens) := by
  obtain ⟨before, joined, hor, hand, rfl⟩ := h
  obtain ⟨c, hexpr, htokens⟩ :=
    exists_conjunction hand (Unary.negate level.negations (.primary p))
  refine ⟨before, c, hor, ?_, ?_⟩
  · rw [hexpr, Unary.expr_negate]
    rfl
  · rw [htokens, Unary.tokens_negate]
    simp [Unary.tokens]

/-- Each step adds its token to those read so far. -/
theorem readSoFar_step {maxDepth : Nat} {p q : Parse} {l : Lexeme} {ts : List Token}
    (h : Transition maxDepth p l q) (hread : ReadSoFar p ts) :
    ReadSoFar q (ts ++ [l.token]) := by
  obtain ⟨outer, inner, houter, hinner, rfl⟩ := hread
  cases h with
  | @not l level enclosing htoken hdepth =>
    obtain ⟨before, joined, hor, hand, rfl⟩ := hinner
    refine ⟨outer, _, houter, ⟨before, joined, hor, hand, rfl⟩, ?_⟩
    simp [htoken, List.replicate_succ']
  | lparen htoken hdepth =>
    exact ⟨_, [], ⟨outer, inner, houter, hinner, rfl⟩, readLevel_empty, by simp [htoken]⟩
  | name htoken =>
    exact ⟨outer, _, houter, ⟨inner, hinner, rfl⟩, by simp [htoken]⟩
  | operator htoken =>
    obtain ⟨before, hlevel, rfl⟩ := hinner
    exact ⟨outer, _, houter, ⟨before, hlevel, rfl⟩, by simp [htoken]⟩
  | @literal l level enclosing field op literal htoken =>
    obtain ⟨before, hlevel, rfl⟩ := hinner
    have hnext := readInnermost_connective hlevel (.comparison field op literal)
    exact ⟨outer, _, houter, hnext, by simp [htoken, Primary.tokens]⟩
  | @and l disjuncts conjuncts enclosing htoken =>
    obtain ⟨before, c, hor, hexpr, rfl⟩ := hinner
    exact ⟨outer, _, houter, ⟨before, _, hor, ⟨c, hexpr, rfl⟩, rfl⟩, by simp [htoken]⟩
  | @or l disjuncts conjuncts enclosing htoken =>
    obtain ⟨before, c, hor, rfl, rfl⟩ := hinner
    obtain ⟨d, hexpr, htokens⟩ := exists_disjunction hor c
    exact ⟨outer, _, houter, ⟨_, [], ⟨d, hexpr, rfl⟩, rfl, rfl⟩, by simp [htoken, htokens]⟩
  | @rparen l opening disjuncts conjuncts level enclosing htoken =>
    obtain ⟨before, c, hor, rfl, rfl⟩ := hinner
    obtain ⟨d, hexpr, htokens⟩ := exists_disjunction hor c
    obtain ⟨outer, inner, houter, hlevel, rfl⟩ := houter
    have hnext := readInnermost_connective hlevel (.group d)
    simp only [Primary.expr, hexpr] at hnext
    exact ⟨outer, _, houter, hnext, by simp [htoken, Primary.tokens, htokens]⟩

/-- Where reading stands, there it has read the tokens of all lexemes on the way. -/
theorem readSoFar_foldlM {maxDepth : Nat} {ls : List Lexeme} {p q : Parse} {ts : List Token}
    (hread : ReadSoFar p ts) (h : ls.foldlM (step maxDepth) p = .ok q) :
    ReadSoFar q (ts ++ ls.map Lexeme.token) := by
  induction ls generalizing p ts with
  | nil =>
    cases h
    simpa using hread
  | cons l ls ih =>
    rw [List.foldlM_cons, bind_eq_ok_iff] at h
    obtain ⟨p', hstep, hrest⟩ := h
    have hnext := readSoFar_step (transition_of_step hstep) hread
    simpa using ih hnext hrest

/-- Lexemes that are read to the end are a sentence, and the expression is the one it writes. -/
theorem exists_of_ofLexemes {maxDepth length : Nat} {ls : List Lexeme} {e : Expr}
    (h : Expr.ofLexemes maxDepth length ls = .ok e) :
    ∃ d : Disjunction, ls.map Lexeme.token = d.tokens ∧ d.expr = e := by
  unfold Expr.ofLexemes at h
  cases hfold : ls.foldlM (step maxDepth) start with
  | error e => simp [hfold, Except.bind] at h
  | ok q =>
    obtain ⟨awaiting, enclosing⟩ := q
    obtain ⟨outer, inner, houter, hinner, htokens⟩ := readSoFar_foldlM readSoFar_start hfold
    simp only [hfold, Except.bind, finish] at h
    split at h
    · cases h
    · cases h
    · cases h
    · cases h
      obtain rfl : outer = [] := houter
      obtain ⟨before, c, hor, rfl, rfl⟩ := hinner
      obtain ⟨d, hexpr, hd⟩ := exists_disjunction hor c
      exact ⟨d, by simpa [hd] using htokens, hexpr⟩
    · cases h

/-- Lexemes are read to an expression exactly if they are a sentence that writes it and that is
nested within the limit. -/
theorem ofLexemes_eq_ok_iff (maxDepth length : Nat) (ls : List Lexeme) (e : Expr) :
    Expr.ofLexemes maxDepth length ls = .ok e ↔
      ∃ d : Disjunction, ls.map Lexeme.token = d.tokens ∧ d.nesting ≤ maxDepth ∧ d.expr = e := by
  constructor
  · intro h
    obtain ⟨d, htokens, hexpr⟩ := exists_of_ofLexemes h
    rw [d.ofLexemes_eq htokens] at h
    by_cases hnesting : d.nesting ≤ maxDepth
    · exact ⟨d, htokens, hnesting, hexpr⟩
    · simp [within, hnesting] at h
  · rintro ⟨d, htokens, hnesting, rfl⟩
    rw [d.ofLexemes_eq htokens, within_of_le hnesting]

end Grammar

open Grammar

/-- A text is read to an expression exactly if it fits the limits and its lexemes are a sentence
that writes the expression. -/
theorem Filter.parse_eq_ok_expr_iff (text : String) (limits : Limits) (e : Expr) :
    Filter.parse text limits = .ok (.expr e) ↔
      text.utf8ByteSize ≤ limits.maxLength ∧
        ∃ d : Disjunction, d.Derives text ∧ d.nesting ≤ limits.maxDepth ∧ d.expr = e := by
  unfold Filter.parse
  by_cases hlength : limits.maxLength < text.utf8ByteSize
  · simp [hlength, Nat.not_le.mpr hlength]
  rw [if_neg hlength]
  simp only [Nat.not_lt.mp hlength, true_and]
  cases hlexemes : lexemes text with
  | error error => simp [Disjunction.Derives, hlexemes]
  | ok ls =>
    have hderives (d : Disjunction) : d.Derives text ↔ ls.map Lexeme.token = d.tokens := by
      simp [Disjunction.Derives, hlexemes]
    simp only [hderives]
    cases ls with
    | nil =>
      constructor
      · intro h
        cases h
      · rintro ⟨d, hd, -, -⟩
        exact absurd hd.symm d.tokens_ne_nil
    | cons l ls =>
      rw [← ofLexemes_eq_ok_iff limits.maxDepth text.utf8ByteSize]
      dsimp only
      cases Expr.ofLexemes limits.maxDepth text.utf8ByteSize (l :: ls) <;> simp [Except.map]

/-- A text is read to the filter that keeps everything exactly if it fits the limit on length and
is all blank. -/
theorem Filter.parse_eq_ok_matchAll_iff (text : String) (limits : Limits) :
    Filter.parse text limits = .ok .matchAll ↔
      text.utf8ByteSize ≤ limits.maxLength ∧ ∀ c ∈ text.toList, isBlank c = true := by
  rw [← lexemes_eq_nil_iff]
  unfold Filter.parse
  by_cases hlength : limits.maxLength < text.utf8ByteSize
  · simp [hlength, Nat.not_le.mpr hlength]
  rw [if_neg hlength]
  simp only [Nat.not_lt.mp hlength, true_and]
  cases lexemes text with
  | error error => simp
  | ok ls =>
    cases ls with
    | nil => simp
    | cons l ls =>
      dsimp only
      cases Expr.ofLexemes limits.maxDepth text.utf8ByteSize (l :: ls) <;> simp [Except.map]

/-- Reading a text follows the grammar. Where the limits leave room, the lexemes are read to an
expression exactly if they are a sentence that writes it, and a sentence has only one tree. Blank
text within the limit on length is read to the filter that keeps everything. Text that is neither
blank nor a sentence within the limits is refused. -/
theorem Filter.parse_sentence_iff (text : String) (limits : Limits) :
    (∀ ls e, lexemes text = .ok ls → ls ≠ [] → text.utf8ByteSize ≤ limits.maxLength →
      ls.length ≤ limits.maxDepth →
      (Filter.parse text limits = .ok (.expr e) ↔
        ∃ d : Disjunction, d.tokens = ls.map Lexeme.token ∧ d.expr = e)) ∧
    (∀ d d' : Disjunction, d.tokens = d'.tokens → d = d') ∧
    (Filter.parse text limits = .ok .matchAll ↔
      text.utf8ByteSize ≤ limits.maxLength ∧ ∀ c ∈ text.toList, isBlank c = true) ∧
    ((∃ error, Filter.parse text limits = .error error) ↔
      ¬ (text.utf8ByteSize ≤ limits.maxLength ∧ ∀ c ∈ text.toList, isBlank c = true) ∧
      ¬ (text.utf8ByteSize ≤ limits.maxLength ∧
        ∃ d : Disjunction, d.Derives text ∧ d.nesting ≤ limits.maxDepth)) := by
  refine ⟨?_, fun d d' => Disjunction.tokens_inj, Filter.parse_eq_ok_matchAll_iff text limits, ?_⟩
  · intro ls e hlexemes _ hlength hdepth
    rw [Filter.parse_eq_ok_expr_iff]
    constructor
    · rintro ⟨-, d, ⟨ls', hlexemes', htokens⟩, -, hexpr⟩
      obtain rfl : ls = ls' := by simpa [hlexemes] using hlexemes'
      exact ⟨d, htokens.symm, hexpr⟩
    · rintro ⟨d, htokens, hexpr⟩
      have hnesting := d.nesting_le
      rw [htokens, List.length_map] at hnesting
      exact ⟨hlength, d, ⟨ls, hlexemes, htokens.symm⟩, Nat.le_trans hnesting hdepth, hexpr⟩
  · rw [← Filter.parse_eq_ok_matchAll_iff]
    constructor
    · rintro ⟨error, hparse⟩
      refine ⟨by simp [hparse], ?_⟩
      rintro ⟨hlength, d, hderives, hnesting⟩
      have hok := (Filter.parse_eq_ok_expr_iff text limits d.expr).mpr
        ⟨hlength, d, hderives, hnesting, rfl⟩
      rw [hparse] at hok
      cases hok
    · rintro ⟨hblank, hsentence⟩
      cases hparse : Filter.parse text limits with
      | error error => exact ⟨error, rfl⟩
      | ok filter =>
        cases filter with
        | matchAll => exact absurd hparse hblank
        | expr e =>
          obtain ⟨hlength, d, hderives, hnesting, -⟩ :=
            (Filter.parse_eq_ok_expr_iff text limits e).mp hparse
          exact absurd ⟨hlength, d, hderives, hnesting⟩ hsentence

/-- The `not` belongs to the first comparison alone. -/
theorem Filter.parse_not_or :
    Filter.parse "not a ~ 'x' or b == null" {} =
      .ok (.expr (.or (.not (.comparison "a" .matching (.text "x")))
        (.comparison "b" .eq .null))) :=
  let ls : List Lexeme :=
    [⟨.not, ['n', 'o', 't'], 0⟩, ⟨.name "a", ['a'], 4⟩, ⟨.operator .matching, ['~'], 6⟩,
      ⟨.text "x", ['\'', 'x', '\''], 8⟩, ⟨.or, ['o', 'r'], 12⟩, ⟨.name "b", ['b'], 15⟩,
      ⟨.operator .eq, ['=', '='], 17⟩, ⟨.null, ['n', 'u', 'l', 'l'], 20⟩]
  let d : Disjunction :=
    (Unary.not (.primary (.comparison "a" .matching (.text "x")))).alone.alone.snoc
      (Unary.primary (.comparison "b" .eq .null)).alone
  ((Filter.parse_sentence_iff "not a ~ 'x' or b == null" {}).1 ls d.expr (by decide +kernel)
    (by simp [ls]) (by decide +kernel) (by decide)).mpr ⟨d, rfl, rfl⟩

end Sift
