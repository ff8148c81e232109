import Mathlib.Data.List.Infix
import Mathlib.Order.Bounds.Basic
import Sift.Proofs.Filter.OpenMarks

/-!
The limit on depth. The greatest number of `not`s and parentheses that are open at once is the
threshold of the limit: where the limit is lower, reading ends in it, and where it is not, the limit
makes no difference.
-/

namespace Sift

namespace Parse

def limited {α : Type} (maxDepth needed : Nat) (outcome : Except FilterError α) :
    Except FilterError α :=
  if needed ≤ maxDepth then outcome else .error (.exceeds .depth maxDepth)

/-- How a step can go, whatever the limit: it is refused for what it is, or it leads to a place
that takes as much depth as is open there. -/
inductive Step (p : Parse) (l : Lexeme) : Prop where
  | refused (e : SyntaxError) (hstep : ∀ maxDepth, step maxDepth p l = .error (.malformed e))
  | taken (q : Parse) (needed : Nat) (hneeded : needed ≤ q.marks.length)
    (hmarks : q.marks.length ≤ max p.marks.length needed)
    (hstep : ∀ maxDepth, step maxDepth p l = within maxDepth needed q)

section

variable {p : Parse} {l : Lexeme}

theorem Step.of_refuse (fault : SyntaxFault)
    (hstep : ∀ maxDepth, step maxDepth p l = refuse l fault) : Step p l :=
  .refused _ hstep

theorem Step.of_ok (q : Parse) (hnot : l.token ≠ .not) (hlparen : l.token ≠ .lparen)
    (hstep : ∀ maxDepth, step maxDepth p l = .ok q) : Step p l := by
  have hmarks := marks_of_transition (transition_of_step (hstep 0))
  have hlength := Mark.length_next_le p.marks hnot hlparen
  rw [← hmarks] at hlength
  refine .taken q 0 (Nat.zero_le _) (by omega) (fun maxDepth => ?_)
  rw [hstep, within_of_le (Nat.zero_le maxDepth)]

theorem Step.of_descend (level : Level) (enclosing : List (Lexeme × Level))
    (hstep : ∀ maxDepth, step maxDepth p l = descend maxDepth level enclosing) : Step p l := by
  have hlength : (marks ⟨.operand level, enclosing⟩).length = depth level enclosing :=
    length_marksAround level enclosing
  refine .taken _ (depth level enclosing) hlength.ge (by omega) (fun maxDepth => ?_)
  rw [hstep, descend_eq]

end

theorem step_cases (p : Parse) (l : Lexeme) : Step p l := by
  obtain ⟨awaiting, enclosing⟩ := p
  cases awaiting with
  | operand level =>
    cases htoken : l.token
    case not =>
      refine .of_descend { level with negations := level.negations + 1 } enclosing ?_
      simp only [step, htoken, implies_true]
    case lparen =>
      refine .of_descend .empty ((l, level) :: enclosing) ?_
      simp only [step, htoken, implies_true]
    case name field =>
      refine .of_ok ⟨.operator level field, enclosing⟩ (by simp [htoken]) (by simp [htoken]) ?_
      simp only [step, htoken, implies_true]
    all_goals
      refine .of_refuse (.expected .operand) ?_
      simp only [step, htoken, implies_true]
  | operator level field =>
    cases htoken : l.token
    case operator op =>
      refine .of_ok ⟨.literal level field op, enclosing⟩ (by simp [htoken]) (by simp [htoken]) ?_
      simp only [step, htoken, implies_true]
    all_goals
      refine .of_refuse (.expected .operator) ?_
      simp only [step, htoken, implies_true]
  | literal level field op =>
    cases hliteral : l.token.literal? with
    | none =>
      refine .of_refuse (.expected .literal) ?_
      simp only [step, hliteral, implies_true]
    | some literal =>
      have htoken := (Token.literal?_eq_some_iff _ _).mp hliteral
      have hnot : l.token ≠ .not := by cases literal <;> simp [htoken, Literal.token]
      have hlparen : l.token ≠ .lparen := by cases literal <;> simp [htoken, Literal.token]
      refine .of_ok ⟨.connective level.disjuncts
        (level.conjoin (.comparison field op literal)), enclosing⟩ hnot hlparen ?_
      simp only [step, hliteral, implies_true]
  | connective disjuncts conjuncts =>
    cases htoken : l.token
    case and =>
      refine .of_ok ⟨.operand ⟨disjuncts, some conjuncts, 0⟩, enclosing⟩ (by simp [htoken])
        (by simp [htoken]) ?_
      simp only [step, htoken, implies_true]
    case or =>
      refine .of_ok ⟨.operand ⟨some (Level.joinOr disjuncts conjuncts), none, 0⟩, enclosing⟩
        (by simp [htoken]) (by simp [htoken]) ?_
      simp only [step, htoken, implies_true]
    case rparen =>
      cases enclosing with
      | nil =>
        refine .of_refuse .trailingInput ?_
        simp only [step, htoken, implies_true]
      | cons opening enclosing =>
        obtain ⟨opening, outer⟩ := opening
        refine .of_ok ⟨.connective outer.disjuncts
          (outer.conjoin (Level.joinOr disjuncts conjuncts)), enclosing⟩ (by simp [htoken])
          (by simp [htoken]) ?_
        simp only [step, htoken, implies_true]
    all_goals
      cases enclosing with
      | nil =>
        refine .of_refuse .trailingInput ?_
        simp only [step, htoken, implies_true]
      | cons opening enclosing =>
        refine .of_refuse .expectedClosing ?_
        simp only [step, htoken, implies_true]

theorem le_of_within {maxDepth needed : Nat} {p q : Parse}
    (h : within maxDepth needed p = .ok q) : needed ≤ maxDepth := by
  by_contra hlt
  rw [within, if_neg hlt] at h
  cases h

/-- A higher limit leaves room for the same steps. -/
theorem foldlM_mono {maxDepth maxDepth' : Nat} {p q : Parse} {ls : List Lexeme}
    (hle : maxDepth ≤ maxDepth') (h : ls.foldlM (step maxDepth) p = .ok q) :
    ls.foldlM (step maxDepth') p = .ok q := by
  induction ls generalizing p with
  | nil => exact h
  | cons l ls ih =>
    rw [List.foldlM_cons, bind_eq_ok_iff] at h ⊢
    obtain ⟨p', hfirst, hrest⟩ := h
    refine ⟨p', ?_, ih hrest⟩
    cases step_cases p l with
    | refused e hstep =>
      rw [hstep] at hfirst
      cases hfirst
    | taken q needed hneeded hmarks hstep =>
      rw [hstep] at hfirst ⊢
      have hle' := le_of_within hfirst
      rw [within_of_le hle'] at hfirst
      rw [within_of_le (Nat.le_trans hle' hle), hfirst]

theorem Reaches.nil_iff {p q : Parse} : Reaches p [] q ↔ p = q := by
  constructor
  · rintro ⟨maxDepth, h⟩
    cases h
    rfl
  · rintro rfl
    exact ⟨0, rfl⟩

theorem not_reaches_of_refused {p q : Parse} {l : Lexeme} {ls : List Lexeme} {e : SyntaxError}
    (hstep : ∀ maxDepth, step maxDepth p l = .error (.malformed e)) : ¬ Reaches p (l :: ls) q := by
  rintro ⟨maxDepth, h⟩
  rw [List.foldlM_cons, hstep] at h
  cases h

theorem reaches_cons_iff {p q r : Parse} {l : Lexeme} {ls : List Lexeme} {needed : Nat}
    (hstep : ∀ maxDepth, step maxDepth p l = within maxDepth needed q) :
    Reaches p (l :: ls) r ↔ Reaches q ls r := by
  constructor
  · rintro ⟨maxDepth, h⟩
    rw [List.foldlM_cons, bind_eq_ok_iff] at h
    obtain ⟨p', hfirst, hrest⟩ := h
    rw [hstep] at hfirst
    have hle := le_of_within hfirst
    rw [within_of_le hle] at hfirst
    cases hfirst
    exact ⟨maxDepth, hrest⟩
  · rintro ⟨maxDepth, h⟩
    refine ⟨max maxDepth needed, ?_⟩
    rw [List.foldlM_cons, hstep, within_of_le (by omega)]
    exact foldlM_mono (by omega) h

/-- The numbers of marks that are open at the places on the way. -/
def depths (p : Parse) (ls : List Lexeme) : Set Nat :=
  {n | ∃ ls' q, ls' <+: ls ∧ Reaches p ls' q ∧ n = q.marks.length}

theorem depths_nil (p : Parse) : depths p [] = {p.marks.length} := by
  ext n
  simp [depths, Reaches.nil_iff]

theorem depths_of_refused {p : Parse} {l : Lexeme} {e : SyntaxError}
    (hstep : ∀ maxDepth, step maxDepth p l = .error (.malformed e)) (ls : List Lexeme) :
    depths p (l :: ls) = {p.marks.length} := by
  ext n
  simp [depths, List.prefix_cons_iff, Reaches.nil_iff, not_reaches_of_refused hstep]

theorem depths_of_taken {p q : Parse} {l : Lexeme} {needed : Nat}
    (hstep : ∀ maxDepth, step maxDepth p l = within maxDepth needed q) (ls : List Lexeme) :
    depths p (l :: ls) = insert p.marks.length (depths q ls) := by
  ext n
  simp [depths, List.prefix_cons_iff, Reaches.nil_iff, reaches_cons_iff hstep]

theorem limited_of_le {α : Type} {maxDepth needed : Nat} (h : needed ≤ maxDepth)
    (outcome : Except FilterError α) : limited maxDepth needed outcome = outcome := if_pos h

theorem limited_of_lt {α : Type} {maxDepth needed : Nat} (h : maxDepth < needed)
    (outcome : Except FilterError α) :
    limited maxDepth needed outcome = .error (.exceeds .depth maxDepth) := if_neg (by omega)

/-- Reading some lexemes takes as much depth as is open at once on the way. With less it ends in the
limit, and otherwise as it does without one. -/
theorem exists_outcome (p : Parse) (ls : List Lexeme) :
    ∃ needed outcome, IsGreatest (depths p ls) needed ∧
      (∀ limit bound, outcome ≠ .error (.exceeds limit bound)) ∧
      ∀ maxDepth, p.marks.length ≤ maxDepth →
        ls.foldlM (step maxDepth) p = limited maxDepth needed outcome := by
  induction ls generalizing p with
  | nil =>
    refine ⟨p.marks.length, .ok p, depths_nil p ▸ isGreatest_singleton, by simp, ?_⟩
    intro maxDepth hdepth
    rw [limited_of_le hdepth]
    rfl
  | cons l ls ih =>
    cases step_cases p l with
    | refused e hstep =>
      refine ⟨p.marks.length, .error (.malformed e),
        depths_of_refused hstep ls ▸ isGreatest_singleton, by simp, ?_⟩
      intro maxDepth hdepth
      rw [limited_of_le hdepth, List.foldlM_cons, hstep]
      rfl
    | taken q needed hneeded hmarks hstep =>
      obtain ⟨needed', outcome, hgreatest, houtcome, hrest⟩ := ih q
      refine ⟨max p.marks.length needed', outcome,
        depths_of_taken hstep ls ▸ hgreatest.insert p.marks.length, houtcome, ?_⟩
      intro maxDepth hdepth
      have hself : q.marks.length ≤ needed' :=
        hgreatest.2 ⟨[], q, List.nil_prefix, Reaches.nil_iff.mpr rfl, rfl⟩
      rw [List.foldlM_cons, hstep]
      by_cases hle : needed ≤ maxDepth
      · rw [within_of_le hle]
        change ls.foldlM (step maxDepth) q = _
        rw [hrest maxDepth (by omega)]
        have hmax : max p.marks.length needed' ≤ maxDepth ↔ needed' ≤ maxDepth := by omega
        simp only [limited, hmax]
      · rw [limited_of_lt (by omega), within, if_neg hle]
        rfl

theorem finish_ne_exceeds (length : Nat) (p : Parse) (limit : Limit) (bound : Nat) :
    finish length p ≠ .error (.exceeds limit bound) := by
  obtain ⟨awaiting, enclosing⟩ := p
  cases awaiting with
  | connective disjuncts conjuncts => cases enclosing <;> simp [finish]
  | _ => simp [finish]

theorem limited_bind {α β : Type} (maxDepth needed : Nat) (outcome : Except FilterError α)
    (f : α → Except FilterError β) :
    (limited maxDepth needed outcome).bind f = limited maxDepth needed (outcome.bind f) := by
  by_cases hle : needed ≤ maxDepth
  · rw [limited_of_le hle, limited_of_le hle]
  · rw [limited_of_lt (by omega), limited_of_lt (by omega)]
    rfl

theorem bind_ne_exceeds {α β : Type} {outcome : Except FilterError α}
    {f : α → Except FilterError β} (h : ∀ limit bound, outcome ≠ .error (.exceeds limit bound))
    (hf : ∀ a limit bound, f a ≠ .error (.exceeds limit bound)) :
    ∀ limit bound, outcome.bind f ≠ .error (.exceeds limit bound) := by
  intro limit bound
  cases outcome with
  | ok a => exact hf a limit bound
  | error e =>
    intro hbind
    cases hbind
    exact h limit bound rfl

end Parse

namespace Grammar

/-- The numbers of marks that are open at once in the part of a text that a sentence could begin
with. -/
def depths (ts : List Token) : Set Nat :=
  {n | ∃ before, before <+: ts ∧ Viable before ∧ n = (openMarks before).length}

theorem depths_eq (ls : List Lexeme) :
    depths (ls.map Lexeme.token) = Parse.depths Parse.start ls := by
  ext n
  constructor
  · rintro ⟨before, ⟨after, htokens⟩, hviable, rfl⟩
    obtain ⟨ls', ls'', rfl, rfl, -⟩ := List.map_eq_append_iff.mp htokens.symm
    obtain ⟨q, hreaches⟩ := (viable_iff_reaches ls').mp hviable
    exact ⟨ls', q, List.prefix_append ls' ls'', hreaches, by rw [Parse.marks_of_reaches hreaches]⟩
  · rintro ⟨ls', q, hprefix, hreaches, rfl⟩
    have hviable := (viable_iff_reaches ls').mpr ⟨q, hreaches⟩
    exact ⟨_, hprefix.map Lexeme.token, hviable, by rw [Parse.marks_of_reaches hreaches]⟩

end Grammar

/-- The result of some lexemes, for all limits on depth at once. -/
theorem Expr.exists_threshold (length : Nat) (ls : List Lexeme) :
    ∃ needed result, IsGreatest (Grammar.depths (ls.map Lexeme.token)) needed ∧
      (∀ limit bound, result ≠ .error (.exceeds limit bound)) ∧
      ∀ maxDepth, Expr.ofLexemes maxDepth length ls = Parse.limited maxDepth needed result := by
  obtain ⟨needed, outcome, hgreatest, houtcome, hrun⟩ := Parse.exists_outcome Parse.start ls
  rw [← Grammar.depths_eq] at hgreatest
  refine ⟨needed, outcome.bind (Parse.finish length), hgreatest, ?_, ?_⟩
  · exact Parse.bind_ne_exceeds houtcome (Parse.finish_ne_exceeds length)
  · intro maxDepth
    rw [Expr.ofLexemes, hrun maxDepth (Nat.zero_le _), Parse.limited_bind]

/-- The threshold of a sentence is the nesting of its tree. -/
theorem Grammar.Disjunction.isGreatest_depths (d : Disjunction) :
    IsGreatest (depths d.tokens) d.nesting := by
  have hls := map_token_bare d.tokens
  obtain ⟨needed, result, hgreatest, hresult, hread⟩ :=
    Expr.exists_threshold 0 (d.tokens.map bare)
  have hboth (maxDepth : Nat) :
      Parse.within maxDepth d.nesting d.expr = Parse.limited maxDepth needed result :=
    (d.ofLexemes_eq hls maxDepth 0).symm.trans (hread maxDepth)
  have hle : d.nesting ≤ needed := by
    by_contra h
    have hexceeds := hboth needed
    rw [Parse.limited_of_le (Nat.le_refl needed), Parse.within, if_neg h] at hexceeds
    exact hresult _ _ hexceeds.symm
  have hge : needed ≤ d.nesting := by
    by_contra h
    have hexceeds := hboth d.nesting
    rw [Parse.limited_of_lt (by omega), Parse.within_of_le (Nat.le_refl _)] at hexceeds
    cases hexceeds
  rw [hls] at hgreatest
  rwa [Nat.le_antisymm hle hge]

namespace Filter

/-- The result of a text that has lexemes, for all limits on depth at once. -/
theorem exists_threshold {text : String} {ls : List Lexeme} (hlexemes : lexemes text = .ok ls) :
    ∃ needed result, IsGreatest (Grammar.depths (ls.map Lexeme.token)) needed ∧
      (∀ limit bound, result ≠ .error (.exceeds limit bound)) ∧
      ∀ limits : Limits, text.utf8ByteSize ≤ limits.maxLength →
        Filter.parse text limits = Parse.limited limits.maxDepth needed result := by
  obtain ⟨needed, result, hgreatest, hresult, hread⟩ :=
    Expr.exists_threshold text.utf8ByteSize ls
  cases ls with
  | nil =>
    have hzero : needed = 0 := by
      obtain ⟨before, hprefix, -, rfl⟩ := hgreatest.1
      obtain rfl : before = [] := List.prefix_nil.mp hprefix
      rfl
    refine ⟨needed, .ok .matchAll, hgreatest, by simp, ?_⟩
    intro limits hlength
    rw [hzero, Parse.limited_of_le (Nat.zero_le _), Filter.parse, if_neg (by omega), hlexemes]
  | cons l ls =>
    have hmap (outcome : Except FilterError Expr) :
        outcome.map Filter.expr = outcome.bind (fun e => .ok (.expr e)) := by
      cases outcome <;> rfl
    refine ⟨needed, result.map Filter.expr, hgreatest, ?_, ?_⟩
    · rw [hmap]
      exact Parse.bind_ne_exceeds hresult (by simp)
    · intro limits hlength
      rw [Filter.parse, if_neg (by omega), hlexemes]
      change (Expr.ofLexemes limits.maxDepth text.utf8ByteSize (l :: ls)).map Filter.expr = _
      rw [hread, hmap, hmap, Parse.limited_bind]

/-- The limits only ever refuse a text. One that is too long is refused for its length, and one
with a fault in its lexemes for that fault. Any other text has a threshold: the greatest number of
`not`s and parentheses that are open at once in the part of it that a sentence could begin with. A
limit on depth below the threshold is the result, and every limit from the threshold on has the same
result. A tree that has been read leaves nothing open, a parenthesis is closed only where it is
open, and the depth in force is the number of marks. -/
theorem parse_threshold (text : String) :
    (∀ limits : Limits, limits.maxLength < text.utf8ByteSize →
      Filter.parse text limits = .error (.exceeds .length limits.maxLength)) ∧
    (∀ (limits : Limits) (e : SyntaxError), text.utf8ByteSize ≤ limits.maxLength →
      lexemes text = .error e → Filter.parse text limits = .error (.malformed e)) ∧
    (∀ ls, lexemes text = .ok ls →
      ∃ needed, IsGreatest (Grammar.depths (ls.map Lexeme.token)) needed ∧
        ∀ limits : Limits, text.utf8ByteSize ≤ limits.maxLength →
          (limits.maxDepth < needed →
            Filter.parse text limits = .error (.exceeds .depth limits.maxDepth)) ∧
          (needed ≤ limits.maxDepth →
            (∀ limit bound, Filter.parse text limits ≠ .error (.exceeds limit bound)) ∧
            ∀ limits' : Limits, text.utf8ByteSize ≤ limits'.maxLength →
              needed ≤ limits'.maxDepth →
              Filter.parse text limits' = Filter.parse text limits)) ∧
    (∀ limits limits' : Limits, limits.maxLength ≤ limits'.maxLength →
      limits.maxDepth ≤ limits'.maxDepth →
      (∀ limit bound, Filter.parse text limits ≠ .error (.exceeds limit bound)) →
      Filter.parse text limits' = Filter.parse text limits) ∧
    (∀ (before : List Token) (d : Grammar.Disjunction),
      openMarks (before ++ d.tokens) = Mark.complete (openMarks before)) ∧
    (∀ (maxDepth : Nat) (p q : Parse) (ls : List Lexeme) (d : Grammar.Disjunction),
      ls.map Lexeme.token = d.tokens → ls.foldlM (Parse.step maxDepth) p = .ok q →
      q.marks = Mark.complete p.marks) ∧
    (∀ before, Grammar.Viable (before ++ [.rparen]) →
      ∃ outer, openMarks before = .paren :: outer) ∧
    (∀ maxDepth level enclosing (ls : List Lexeme),
      ls.foldlM (Parse.step maxDepth) Parse.start = .ok ⟨.operand level, enclosing⟩ →
      Parse.depth level enclosing = (openMarks (ls.map Lexeme.token)).length) := by
  have hlong {limits : Limits} (h : limits.maxLength < text.utf8ByteSize) :
      Filter.parse text limits = .error (.exceeds .length limits.maxLength) := by
    rw [Filter.parse, if_pos h]
  have hfault {limits : Limits} {e : SyntaxError} (hlength : text.utf8ByteSize ≤ limits.maxLength)
      (h : lexemes text = .error e) : Filter.parse text limits = .error (.malformed e) := by
    rw [Filter.parse, if_neg (by omega), h]
  refine ⟨fun _ => hlong, fun _ _ => hfault, ?_, ?_, ?_, ?_, ?_, ?_⟩
  · intro ls hlexemes
    obtain ⟨needed, result, hgreatest, hresult, hparse⟩ := exists_threshold hlexemes
    refine ⟨needed, hgreatest, ?_⟩
    intro limits hlength
    constructor
    · intro hdepth
      rw [hparse limits hlength, Parse.limited_of_lt hdepth]
    · intro hdepth
      rw [hparse limits hlength, Parse.limited_of_le hdepth]
      refine ⟨hresult, fun limits' hlength' hdepth' => ?_⟩
      rw [hparse limits' hlength', Parse.limited_of_le hdepth']
  · intro limits limits' hlength hdepth hresult
    have hfits : text.utf8ByteSize ≤ limits.maxLength := by
      by_contra h
      exact hresult _ _ (hlong (by omega))
    cases hlexemes : lexemes text with
    | error e => rw [hfault hfits hlexemes, hfault (by omega) hlexemes]
    | ok ls =>
      obtain ⟨needed, result, -, -, hparse⟩ := exists_threshold hlexemes
      have hneeded : needed ≤ limits.maxDepth := by
        by_contra h
        exact hresult _ _ ((hparse limits hfits).trans (Parse.limited_of_lt (by omega) _))
      rw [hparse limits hfits, hparse limits' (by omega), Parse.limited_of_le hneeded,
        Parse.limited_of_le (by omega)]
  · exact Grammar.Disjunction.openMarks_append
  · intro maxDepth p q ls d hls hfold
    exact d.marks_of_foldlM hls hfold
  · intro before hviable
    exact hviable.exists_paren
  · intro maxDepth level enclosing ls hfold
    rw [← Parse.marks_of_reaches ⟨maxDepth, hfold⟩, ← Parse.length_marksAround]
    rfl

/-- A text that ends too early still needs the depth of what is open in it. -/
theorem parse_unclosed :
    Filter.parse "not (a == null" { maxDepth := 1 } = .error (.exceeds .depth 1) ∧
      Filter.parse "not (a == null" { maxDepth := 2 } = Filter.parse "not (a == null" {} := by
  let ls : List Lexeme :=
    [⟨.not, ['n', 'o', 't'], 0⟩, ⟨.lparen, ['('], 4⟩, ⟨.name "a", ['a'], 5⟩,
      ⟨.operator .eq, ['=', '='], 7⟩, ⟨.null, ['n', 'u', 'l', 'l'], 10⟩]
  let d : Grammar.Disjunction :=
    (Grammar.Unary.not (.primary (.group
      (Grammar.Unary.primary (.comparison "a" .eq .null)).alone.alone))).alone.alone
  have hlexemes : lexemes "not (a == null" = .ok ls := by decide +kernel
  obtain ⟨needed, ⟨⟨before, hbefore, -, hneeded⟩, hgreatest⟩, hlimits⟩ :=
    (parse_threshold "not (a == null").2.2.1 ls hlexemes
  have hlow : 2 ≤ needed := hgreatest ⟨[.not, .lparen], ⟨_, rfl⟩, ⟨d, _, rfl⟩, rfl⟩
  have hhigh : needed ≤ 2 := by
    have hmem : before ∈ (ls.map Lexeme.token).inits := (List.mem_inits before _).mpr hbefore
    have hall : ∀ ts ∈ (ls.map Lexeme.token).inits, (openMarks ts).length ≤ 2 := by decide
    rw [hneeded]
    exact hall before hmem
  have hfits : "not (a == null".utf8ByteSize ≤ 4096 := by decide
  constructor
  · exact (hlimits { maxDepth := 1 } hfits).1 hlow
  · exact ((hlimits {} hfits).2 (by simp; omega)).2 { maxDepth := 2 } hfits hhigh

end Filter

end Sift
