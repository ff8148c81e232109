import Sift.Proofs.Filter.DepthLimit
import Sift.Proofs.Filter.Parentheses
import Sift.Proofs.Filter.Splitting

/-!
Where malformed text is at fault. A fault in the order of the lexemes is reported at the first
lexeme that no sentence could have there, or at the end of a text that a sentence could begin with,
or at the last parenthesis that is still open where nothing else is missing.
-/

namespace Sift

theorem pairwise_position_lt {text : String} {ls : List Lexeme} (h : lexemes text = .ok ls) :
    ls.Pairwise (fun l m => l.position < m.position) := by
  obtain ⟨stop, -, hsplits⟩ := exists_splits h
  refine hsplits.pairwise_stop_le.imp_of_mem ?_
  intro l m hl _ hstop
  obtain ⟨hspelling, -⟩ := hsplits.covers l hl
  have hpos := utf8Length_pos hspelling
  rw [Lexeme.stop] at hstop
  omega

/-- No two lexemes of a text stand at one place. -/
theorem eq_of_position_eq {text : String} {ls : List Lexeme} (h : lexemes text = .ok ls) {i j : Nat}
    (hi : i < ls.length) (hj : j < ls.length) (hposition : ls[i].position = ls[j].position) :
    i = j := by
  have hpairwise := List.pairwise_iff_getElem.mp (pairwise_position_lt h)
  by_contra hne
  rcases Nat.lt_or_gt_of_ne hne with hlt | hlt
  · have := hpairwise i j hi hj hlt
    omega
  · have := hpairwise j i hj hi hlt
    omega

namespace Parse

theorem eq_of_step_error {maxDepth : Nat} {p : Parse} {l : Lexeme} {e : SyntaxError}
    (h : step maxDepth p l = .error (.malformed e)) :
    ∃ fault, fault ≠ .unclosed ∧ e = ⟨fault, String.ofList l.spelling, l.position⟩ := by
  have hrefuse {fault : SyntaxFault} (hfault : fault ≠ .unclosed)
      (h : refuse l fault = .error (.malformed e)) :
      ∃ fault, fault ≠ .unclosed ∧ e = ⟨fault, String.ofList l.spelling, l.position⟩ := by
    cases h
    exact ⟨fault, hfault, rfl⟩
  have hdescend {level : Level} {enclosing : List (Lexeme × Level)} :
      descend maxDepth level enclosing ≠ .error (.malformed e) := by
    unfold descend
    split <;> simp
  obtain ⟨awaiting, enclosing⟩ := p
  cases awaiting with
  | operand level =>
    simp only [step] at h
    split at h
    · exact absurd h hdescend
    · exact absurd h hdescend
    · cases h
    · exact hrefuse (by simp) h
  | operator level field =>
    simp only [step] at h
    split at h
    · cases h
    · exact hrefuse (by simp) h
  | literal level field op =>
    simp only [step] at h
    split at h
    · cases h
    · exact hrefuse (by simp) h
  | connective disjuncts conjuncts =>
    simp only [step] at h
    split at h
    · cases h
    · cases h
    · cases h
    · exact hrefuse (by simp) h
    · exact hrefuse (by simp) h

/-- Lexemes that are refused are read up to one of them, which no limit admits. -/
theorem exists_refused {maxDepth : Nat} {p : Parse} {ls : List Lexeme} {e : SyntaxError}
    (h : ls.foldlM (step maxDepth) p = .error (.malformed e)) :
    ∃ before l after q, ls = before ++ l :: after ∧ Reaches p before q ∧
      ∀ maxDepth', step maxDepth' q l = .error (.malformed e) := by
  induction ls generalizing p with
  | nil => cases h
  | cons l ls ih =>
    rw [List.foldlM_cons] at h
    cases step_cases p l with
    | refused e' hstep =>
      rw [hstep] at h
      cases h
      exact ⟨[], l, ls, p, rfl, Reaches.nil_iff.mpr rfl, hstep⟩
    | taken q needed _ _ hstep =>
      by_cases hle : needed ≤ maxDepth
      · rw [hstep, within_of_le hle] at h
        obtain ⟨before, l', after, q', rfl, hreaches, hrefused⟩ := ih h
        exact ⟨l :: before, l', after, q', rfl, (reaches_cons_iff hstep).mpr hreaches, hrefused⟩
      · rw [hstep, within, if_neg hle] at h
        cases h

/-- The place that some lexemes lead to does not depend on the limit. -/
theorem Reaches.unique {p q q' : Parse} {ls : List Lexeme} (h : Reaches p ls q)
    (h' : Reaches p ls q') : q = q' := by
  obtain ⟨maxDepth, hfold⟩ := h
  obtain ⟨maxDepth', hfold'⟩ := h'
  have hboth := foldlM_mono (Nat.le_max_left maxDepth maxDepth') hfold
  rw [foldlM_mono (Nat.le_max_right maxDepth maxDepth') hfold'] at hboth
  cases hboth
  rfl

/-- Where some lexemes lead to and one more leads on, it does so from the place they lead to. -/
theorem Reaches.exists_transition {p q r : Parse} {ls : List Lexeme} {l : Lexeme}
    (h : Reaches p ls q) (h' : Reaches p (ls ++ [l]) r) :
    ∃ maxDepth, step maxDepth q l = .ok r := by
  obtain ⟨maxDepth, hfold⟩ := h'
  rw [List.foldlM_append, bind_eq_ok_iff] at hfold
  obtain ⟨q', hfirst, hlast⟩ := hfold
  obtain rfl := h.unique ⟨maxDepth, hfirst⟩
  rw [List.foldlM_cons, bind_eq_ok_iff] at hlast
  obtain ⟨r', hstep, hnil⟩ := hlast
  cases hnil
  exact ⟨maxDepth, hstep⟩

end Parse

namespace Grammar

open Parse

/-- A lexeme that is refused goes on no sentence. -/
theorem not_viable_of_refused {ls : List Lexeme} {q : Parse} {l : Lexeme} {e : SyntaxError}
    (h : Reaches Parse.start ls q)
    (hrefused : ∀ maxDepth, step maxDepth q l = .error (.malformed e)) :
    ¬ Viable ((ls ++ [l]).map Lexeme.token) := by
  rw [viable_iff_reaches]
  rintro ⟨r, hreaches⟩
  obtain ⟨maxDepth, hstep⟩ := h.exists_transition hreaches
  rw [hrefused] at hstep
  cases hstep

/-- The tokens that an operand can begin with, and those that are an operator or a literal. -/
def Meets : Expectation → Token → Prop
  | .operand, t => t = .not ∨ t = .lparen ∨ ∃ field, t = .name field
  | .operator, t => ∃ op, t = .operator op
  | .literal, t => ∃ literal : Literal, t = literal.token

/-- Every sentence that begins with the tokens goes on with what is expected. -/
def Requires (ts : List Token) (what : Expectation) : Prop :=
  ∀ d : Disjunction, ts <+: d.tokens → ∃ t rest, d.tokens = ts ++ t :: rest ∧ Meets what t

def expectation? : Awaiting → Option Expectation
  | .operand _ => some .operand
  | .operator _ _ => some .operator
  | .literal _ _ _ => some .literal
  | .connective _ _ => none

/-- Only what the reader waits for leads on. -/
theorem meets_of_transition {maxDepth : Nat} {p q : Parse} {l : Lexeme} {what : Expectation}
    (h : Transition maxDepth p l q) (hwhat : expectation? p.awaiting = some what) :
    Meets what l.token := by
  cases h with
  | not htoken =>
    cases hwhat
    exact .inl htoken
  | lparen htoken =>
    cases hwhat
    exact .inr (.inl htoken)
  | name htoken =>
    cases hwhat
    exact .inr (.inr ⟨_, htoken⟩)
  | operator htoken =>
    cases hwhat
    exact ⟨_, htoken⟩
  | literal htoken =>
    cases hwhat
    exact ⟨_, htoken⟩
  | and => cases hwhat
  | or => cases hwhat
  | rparen => cases hwhat

/-- Lexemes that are not read to their end are no sentence. -/
theorem tokens_ne_of_error {maxDepth length : Nat} {ls : List Lexeme} {e : SyntaxError}
    (h : Expr.ofLexemes maxDepth length ls = .error (.malformed e)) (d : Disjunction) :
    d.tokens ≠ ls.map Lexeme.token := by
  intro htokens
  rw [d.ofLexemes_eq htokens.symm, within] at h
  split at h
  · cases h
  · cases h

theorem requires_of_reaches {ls : List Lexeme} {q : Parse} {what : Expectation}
    (h : Reaches Parse.start ls q) (hwhat : expectation? q.awaiting = some what)
    (hsentence : ∀ d : Disjunction, d.tokens ≠ ls.map Lexeme.token) :
    Requires (ls.map Lexeme.token) what := by
  rintro d ⟨rest, hrest⟩
  cases rest with
  | nil =>
    rw [List.append_nil] at hrest
    exact absurd hrest.symm (hsentence d)
  | cons t rest =>
    refine ⟨t, rest, hrest.symm, ?_⟩
    have hviable : Viable ((ls ++ [bare t]).map Lexeme.token) := ⟨d, rest, by simp [← hrest, bare]⟩
    obtain ⟨r, hreaches⟩ := (viable_iff_reaches _).mp hviable
    obtain ⟨maxDepth, hstep⟩ := h.exists_transition hreaches
    exact meets_of_transition (transition_of_step hstep) hwhat

/-- How reading can fail at the end of the lexemes. -/
theorem eq_of_finish_error {length : Nat} {p : Parse} {e : SyntaxError}
    (h : finish length p = .error (.malformed e)) :
    (∃ what, expectation? p.awaiting = some what ∧ e = ⟨.endsBefore what, "", length⟩) ∨
    ∃ disjuncts conjuncts l level enclosing,
      p = ⟨.connective disjuncts conjuncts, (l, level) :: enclosing⟩ ∧
      e = ⟨.unclosed, String.ofList l.spelling, l.position⟩ := by
  obtain ⟨awaiting, enclosing⟩ := p
  cases awaiting with
  | operand level =>
    cases h
    exact .inl ⟨.operand, rfl, rfl⟩
  | operator level field =>
    cases h
    exact .inl ⟨.operator, rfl, rfl⟩
  | literal level field op =>
    cases h
    exact .inl ⟨.literal, rfl, rfl⟩
  | connective disjuncts conjuncts =>
    cases enclosing with
    | nil => cases h
    | cons opening enclosing =>
      obtain ⟨l, level⟩ := opening
      cases h
      exact .inr ⟨disjuncts, conjuncts, l, level, enclosing, rfl, rfl⟩

/-- Where an operand has been read, closing parentheses are all that a sentence can still need. -/
theorem exists_closed_of_reaches {ls : List Lexeme} {disjuncts : Option Expr} {conjuncts : Expr}
    {enclosing : List (Lexeme × Level)}
    (h : Reaches Parse.start ls ⟨.connective disjuncts conjuncts, enclosing⟩) :
    ∃ d : Disjunction,
      d.tokens = ls.map Lexeme.token ++ List.replicate enclosing.length .rparen := by
  obtain ⟨maxDepth, hfold⟩ := h
  obtain ⟨outer, inner, houter, hinner, htokens⟩ := readSoFar_foldlM readSoFar_start hfold
  rw [List.nil_append] at htokens
  rw [htokens]
  exact exists_closed houter hinner

/-- Reading fails at a lexeme or behind the last one. -/
theorem reaches_of_error {maxDepth length : Nat} {ls : List Lexeme} {e : SyntaxError}
    (h : Expr.ofLexemes maxDepth length ls = .error (.malformed e)) :
    (∃ before l after q, ls = before ++ l :: after ∧ Reaches Parse.start before q ∧
      ∀ maxDepth', step maxDepth' q l = .error (.malformed e)) ∨
    ∃ q, Reaches Parse.start ls q ∧ finish length q = .error (.malformed e) := by
  unfold Expr.ofLexemes at h
  cases hfold : ls.foldlM (step maxDepth) Parse.start with
  | error other =>
    rw [hfold] at h
    cases h
    exact .inl (exists_refused hfold)
  | ok q =>
    rw [hfold] at h
    exact .inr ⟨q, ⟨maxDepth, hfold⟩, h⟩

end Grammar

/-- The error is about the place of a lexeme, though not about a parenthesis left open there. -/
def SyntaxError.AtLexeme (e : SyntaxError) (ls : List Lexeme) : Prop :=
  e.fault ≠ .unclosed ∧ ∃ i, ∃ hi : i < ls.length, e.position = ls[i].position

def SyntaxError.AtEnd (e : SyntaxError) (text : String) : Prop :=
  e.position = text.utf8ByteSize ∧ e.fragment = ""

theorem SyntaxError.not_atEnd_of_lt {e : SyntaxError} {text : String}
    (h : e.position < text.utf8ByteSize) : ¬ e.AtEnd text := by
  rintro ⟨hposition, -⟩
  omega

namespace Filter

open Grammar

theorem ofLexemes_of_parse {text : String} {limits : Limits} {ls : List Lexeme} {e : SyntaxError}
    (hlexemes : lexemes text = .ok ls)
    (herror : Filter.parse text limits = .error (.malformed e)) :
    Expr.ofLexemes limits.maxDepth text.utf8ByteSize ls = .error (.malformed e) := by
  unfold Filter.parse at herror
  split at herror
  · cases herror
  · rw [hlexemes] at herror
    cases ls with
    | nil => cases herror
    | cons l ls =>
      dsimp only at herror
      cases hread : Expr.ofLexemes limits.maxDepth text.utf8ByteSize (l :: ls) with
      | ok expr =>
        rw [hread] at herror
        cases herror
      | error other =>
        rw [hread] at herror
        cases herror
        rfl

/-- A text with lexemes in a wrong order is at fault at one of three places, and only at one. A
lexeme is blamed if the text in front of it can be completed to a sentence and the lexeme cannot
follow there. The end of the text is blamed if all of it can be completed and is no sentence, since
every sentence goes on with the operand, the operator or the literal that the error names. A
parenthesis is blamed for being open if closing parentheses are all that is missing, and then it is
the last one that is open. -/
theorem malformed_at {text : String} {limits : Limits} {ls : List Lexeme} {e : SyntaxError}
    (hlexemes : lexemes text = .ok ls)
    (herror : Filter.parse text limits = .error (.malformed e)) :
    ((e.AtLexeme ls ∧ ¬ e.AtEnd text ∧ e.fault ≠ .unclosed) ∨
      (¬ e.AtLexeme ls ∧ e.AtEnd text ∧ e.fault ≠ .unclosed) ∨
      (¬ e.AtLexeme ls ∧ ¬ e.AtEnd text ∧ e.fault = .unclosed)) ∧
    (e.AtLexeme ls → ∀ i (hi : i < ls.length), e.position = ls[i].position →
      Viable ((ls.take i).map Lexeme.token) ∧ ¬ Viable ((ls.take (i + 1)).map Lexeme.token)) ∧
    (e.AtEnd text → Viable (ls.map Lexeme.token) ∧
      (∀ d : Disjunction, d.tokens ≠ ls.map Lexeme.token) ∧
      ∃ what, e.fault = .endsBefore what ∧ Requires (ls.map Lexeme.token) what) ∧
    (e.fault = .unclosed →
      (∃ n, ∃ d : Disjunction, d.tokens = ls.map Lexeme.token ++ List.replicate n .rparen) ∧
      ∃ l, e.position = l.position ∧ LastOpen l ls) := by
  have hread := ofLexemes_of_parse hlexemes herror
  have hinside := position_lt_of_lexemes hlexemes
  rcases reaches_of_error hread with ⟨before, l, after, q, rfl, hreaches, hrefused⟩ | hend
  · obtain ⟨fault, hfault, rfl⟩ := Parse.eq_of_step_error (hrefused 0)
    have hatLexeme : SyntaxError.AtLexeme ⟨fault, String.ofList l.spelling, l.position⟩
        (before ++ l :: after) := ⟨hfault, before.length, by simp, by simp⟩
    have hnotEnd : ¬ SyntaxError.AtEnd ⟨fault, String.ofList l.spelling, l.position⟩ text :=
      SyntaxError.not_atEnd_of_lt (hinside l (by simp))
    refine ⟨.inl ⟨hatLexeme, hnotEnd, hfault⟩, ?_, fun h => absurd h hnotEnd,
      fun h => absurd h hfault⟩
    intro _ i hi hposition
    obtain rfl : i = before.length :=
      eq_of_position_eq hlexemes hi (by simp) (hposition.symm.trans (by simp))
    have htake : (before ++ l :: after).take (before.length + 1) = before ++ [l] := by
      simp [List.take_append]
    rw [htake, List.take_left]
    exact ⟨(viable_iff_reaches before).mpr ⟨q, hreaches⟩, not_viable_of_refused hreaches hrefused⟩
  · obtain ⟨q, hreaches, hfinish⟩ := hend
    rcases eq_of_finish_error hfinish with
      ⟨what, hwhat, rfl⟩ | ⟨disjuncts, conjuncts, l, level, enclosing, rfl, rfl⟩
    · have hnotLexeme :
          ¬ SyntaxError.AtLexeme ⟨.endsBefore what, "", text.utf8ByteSize⟩ ls := by
        rintro ⟨-, i, hi, hposition⟩
        have hl := hinside ls[i] (List.getElem_mem hi)
        simp only at hposition
        omega
      refine ⟨.inr (.inl ⟨hnotLexeme, ⟨rfl, rfl⟩, by simp⟩), fun h => absurd h hnotLexeme, ?_,
        by simp⟩
      intro _
      have hsentence := tokens_ne_of_error hread
      exact ⟨(viable_iff_reaches ls).mpr ⟨q, hreaches⟩, hsentence, what, rfl,
        requires_of_reaches hreaches hwhat hsentence⟩
    · have hopen := (encloses_of_reaches hreaches).lastOpen
      have hnotLexeme : ¬ SyntaxError.AtLexeme
          ⟨.unclosed, String.ofList l.spelling, l.position⟩ ls := fun h => h.1 rfl
      have hnotEnd : ¬ SyntaxError.AtEnd
          ⟨.unclosed, String.ofList l.spelling, l.position⟩ text := by
        obtain ⟨before, after, rfl, -⟩ := hopen
        exact SyntaxError.not_atEnd_of_lt (hinside l (by simp))
      refine ⟨.inr (.inr ⟨hnotLexeme, hnotEnd, rfl⟩), fun h => absurd h hnotLexeme,
        fun h => absurd h hnotEnd, ?_⟩
      intro _
      obtain ⟨d, hclosed⟩ := exists_closed_of_reaches hreaches
      exact ⟨⟨_, d, hclosed⟩, l, rfl, hopen⟩

/-- The second parenthesis of the first text is closed, so the first one is to blame. In the second
text a literal is missing. In the third one a connective would have to stand in front of `b`. -/
theorem malformed_at_three_places :
    (∃ l, l.position = 0 ∧ LastOpen l
      [⟨.lparen, ['('], 0⟩, ⟨.lparen, ['('], 1⟩, ⟨.name "a", ['a'], 2⟩,
        ⟨.operator .eq, ['=', '='], 4⟩, ⟨.null, ['n', 'u', 'l', 'l'], 7⟩, ⟨.rparen, [')'], 11⟩]) ∧
    (Viable [.not, .name "a", .operator .gt] ∧
      Requires [.not, .name "a", .operator .gt] .literal) ∧
    Viable [.name "a", .operator .gt, .null] ∧
    ¬ Viable [.name "a", .operator .gt, .null, .name "b"] := by
  refine ⟨?_, ?_, ?_⟩
  · let ls : List Lexeme :=
      [⟨.lparen, ['('], 0⟩, ⟨.lparen, ['('], 1⟩, ⟨.name "a", ['a'], 2⟩,
        ⟨.operator .eq, ['=', '='], 4⟩, ⟨.null, ['n', 'u', 'l', 'l'], 7⟩, ⟨.rparen, [')'], 11⟩]
    have hlexemes : lexemes "((a == null)" = .ok ls := by decide +kernel
    have herror : Filter.parse "((a == null)" {} = .error (.malformed ⟨.unclosed, "(", 0⟩) := by
      decide +kernel
    obtain ⟨-, -, -, hopen⟩ := malformed_at hlexemes herror
    obtain ⟨-, l, hposition, hlast⟩ := hopen rfl
    exact ⟨l, hposition.symm, hlast⟩
  · let ls : List Lexeme :=
      [⟨.not, ['n', 'o', 't'], 0⟩, ⟨.name "a", ['a'], 4⟩, ⟨.operator .gt, ['>'], 5⟩]
    have hlexemes : lexemes "not a>" = .ok ls := by decide +kernel
    have herror : Filter.parse "not a>" {} =
        .error (.malformed ⟨.endsBefore .literal, "", 6⟩) := by
      decide +kernel
    obtain ⟨-, -, hend, -⟩ := malformed_at hlexemes herror
    obtain ⟨hviable, -, what, hwhat, hrequires⟩ := hend ⟨rfl, rfl⟩
    cases hwhat
    exact ⟨hviable, hrequires⟩
  · let ls : List Lexeme :=
      [⟨.name "a", ['a'], 0⟩, ⟨.operator .gt, ['>'], 1⟩, ⟨.null, ['n', 'u', 'l', 'l'], 2⟩,
        ⟨.name "b", ['b'], 7⟩]
    have hlexemes : lexemes "a>null b" = .ok ls := by decide +kernel
    have herror : Filter.parse "a>null b" {} =
        .error (.malformed ⟨.trailingInput, "b", 7⟩) := by
      decide +kernel
    obtain ⟨-, hlexeme, -⟩ := malformed_at hlexemes herror
    exact hlexeme ⟨by simp, 3, by simp [ls], rfl⟩ 3 (by simp [ls]) rfl

end Filter

end Sift
