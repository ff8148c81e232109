import Mathlib.Data.List.DropRight
import Sift.Proofs.Filter.Viability

/-!
What is open in a text. The `not`s without a complete operand and the open parentheses can be told
from the tokens alone, and the reader keeps count of them: they are what it has around it wherever
it stands. A tree that has been read leaves none of them.
-/

namespace Sift

/-- What can be open in a text: a `not` whose operand is not complete, or a parenthesis. -/
inductive Mark where
  | not | paren
deriving DecidableEq

namespace Mark

/-- A complete operand completes the `not`s directly in front of it. -/
def complete (marks : List Mark) : List Mark := marks.dropWhile (· == .not)

/-- What is open behind a token, innermost first. A literal ends a comparison, and a closing
parenthesis an operand in parentheses. -/
def next (marks : List Mark) : Token → List Mark
  | .not => .not :: marks
  | .lparen => .paren :: marks
  | .rparen => complete marks.tail
  | .text _ | .number _ | .bool _ | .null => complete marks
  | .name _ | .operator _ | .and | .or => marks

theorem complete_complete (marks : List Mark) :
    complete (complete marks) = complete marks :=
  List.dropWhile_idempotent _ marks

theorem next_literal (marks : List Mark) (literal : Literal) :
    next marks literal.token = complete marks := by
  cases literal <;> rfl

theorem length_complete_le (marks : List Mark) :
    (complete marks).length ≤ marks.length :=
  (List.dropWhile_sublist _).length_le

/-- Only a `not` and an opening parenthesis open anything. -/
theorem length_next_le (marks : List Mark) {token : Token} (hnot : token ≠ .not)
    (hlparen : token ≠ .lparen) : (next marks token).length ≤ marks.length := by
  have hcomplete := length_complete_le marks
  have htail := length_complete_le marks.tail
  rw [List.length_tail] at htail
  cases token with
  | not => exact absurd rfl hnot
  | lparen => exact absurd rfl hlparen
  | rparen => exact Nat.le_trans htail (Nat.sub_le _ _)
  | text value => exact hcomplete
  | number value => exact hcomplete
  | bool value => exact hcomplete
  | null => exact hcomplete
  | name text => exact Nat.le_refl _
  | operator op => exact Nat.le_refl _
  | and => exact Nat.le_refl _
  | or => exact Nat.le_refl _

end Mark

def openMarks (ts : List Token) : List Mark := ts.foldl Mark.next []

namespace Parse

def marksAround (level : Level) : List (Lexeme × Level) → List Mark
  | [] => List.replicate level.negations .not
  | (_, outer) :: enclosing =>
    List.replicate level.negations .not ++ .paren :: marksAround outer enclosing

def marks (p : Parse) : List Mark :=
  match p.awaiting with
  | .operand level | .operator level _ | .literal level _ _ => marksAround level p.enclosing
  | .connective _ _ => marksAround .empty p.enclosing

/-- The depth that the limit speaks of is the number of marks. -/
theorem length_marksAround (level : Level) (enclosing : List (Lexeme × Level)) :
    (marksAround level enclosing).length = depth level enclosing := by
  induction enclosing generalizing level with
  | nil => simp [marksAround, depth]
  | cons opening enclosing ih =>
    obtain ⟨l, outer⟩ := opening
    simp only [marksAround, depth, List.length_append, List.length_replicate, List.length_cons,
      ih outer]
    omega

theorem complete_marksAround (level : Level) (enclosing : List (Lexeme × Level)) :
    Mark.complete (marksAround level enclosing) = marksAround .empty enclosing := by
  have hnots : ∀ mark ∈ List.replicate level.negations Mark.not, (mark == Mark.not) = true := by
    intro mark hmark
    simp [List.eq_of_mem_replicate hmark]
  cases enclosing with
  | nil => exact List.dropWhile_eq_nil_iff.mpr hnots
  | cons opening enclosing =>
    simp only [Mark.complete, marksAround, List.dropWhile_append_of_pos hnots]
    rfl

/-- A step opens and completes what its token does. -/
theorem marks_of_transition {maxDepth : Nat} {p q : Parse} {l : Lexeme}
    (h : Transition maxDepth p l q) : q.marks = Mark.next p.marks l.token := by
  cases h with
  | @not l level enclosing htoken hdepth =>
    rw [htoken]
    cases enclosing <;> simp [marks, marksAround, Mark.next, List.replicate_succ]
  | lparen htoken hdepth =>
    rw [htoken]
    rfl
  | name htoken =>
    rw [htoken]
    rfl
  | operator htoken =>
    rw [htoken]
    rfl
  | literal htoken =>
    rw [htoken, Mark.next_literal]
    exact (complete_marksAround _ _).symm
  | @and l disjuncts conjuncts enclosing htoken =>
    rw [htoken]
    cases enclosing <;> rfl
  | @or l disjuncts conjuncts enclosing htoken =>
    rw [htoken]
    cases enclosing <;> rfl
  | rparen htoken =>
    rw [htoken]
    exact (complete_marksAround _ _).symm

/-- A closing parenthesis is taken only where one is open. -/
theorem exists_paren_of_rparen {maxDepth : Nat} {p q : Parse} {l : Lexeme}
    (h : Transition maxDepth p l q) (htoken : l.token = .rparen) :
    ∃ outer, p.marks = .paren :: outer := by
  cases h with
  | rparen _ => exact ⟨_, rfl⟩
  | @literal _ _ _ _ _ literal hliteral =>
    rw [hliteral] at htoken
    cases literal <;> cases htoken
  | _ hother => exact absurd (hother.symm.trans htoken) (by simp)

theorem marks_of_foldlM {maxDepth : Nat} {p q : Parse} {ls : List Lexeme}
    (h : ls.foldlM (step maxDepth) p = .ok q) :
    q.marks = (ls.map Lexeme.token).foldl Mark.next p.marks := by
  induction ls generalizing p with
  | nil =>
    cases h
    rfl
  | cons l ls ih =>
    rw [List.foldlM_cons, bind_eq_ok_iff] at h
    obtain ⟨p', hstep, hrest⟩ := h
    rw [ih hrest, marks_of_transition (transition_of_step hstep)]
    rfl

/-- Reading keeps count: what is open where the reader stands is what its tokens have left open. -/
theorem marks_of_reaches {ls : List Lexeme} {q : Parse} (h : Reaches start ls q) :
    q.marks = openMarks (ls.map Lexeme.token) := by
  obtain ⟨maxDepth, hfold⟩ := h
  exact marks_of_foldlM hfold

end Parse

namespace Grammar

mutual

theorem Disjunction.foldl_next (d : Disjunction) (marks : List Mark) :
    d.tokens.foldl Mark.next marks = Mark.complete marks := by
  match d with
  | .mk first rest =>
    rw [Disjunction.tokens, List.foldl_append, first.foldl_next, rest.foldl_next]

theorem Disjuncts.foldl_next (ds : Disjuncts) (marks : List Mark) :
    ds.tokens.foldl Mark.next (Mark.complete marks) = Mark.complete marks := by
  match ds with
  | .none => rfl
  | .or next rest =>
    rw [Disjuncts.tokens, List.foldl_cons, List.foldl_append]
    change rest.tokens.foldl Mark.next (next.tokens.foldl Mark.next (Mark.complete marks)) = _
    rw [next.foldl_next, Mark.complete_complete, rest.foldl_next]

theorem Conjunction.foldl_next (c : Conjunction) (marks : List Mark) :
    c.tokens.foldl Mark.next marks = Mark.complete marks := by
  match c with
  | .mk first rest =>
    rw [Conjunction.tokens, List.foldl_append, first.foldl_next, rest.foldl_next]

theorem Conjuncts.foldl_next (cs : Conjuncts) (marks : List Mark) :
    cs.tokens.foldl Mark.next (Mark.complete marks) = Mark.complete marks := by
  match cs with
  | .none => rfl
  | .and next rest =>
    rw [Conjuncts.tokens, List.foldl_cons, List.foldl_append]
    change rest.tokens.foldl Mark.next (next.tokens.foldl Mark.next (Mark.complete marks)) = _
    rw [next.foldl_next, Mark.complete_complete, rest.foldl_next]

theorem Unary.foldl_next (u : Unary) (marks : List Mark) :
    u.tokens.foldl Mark.next marks = Mark.complete marks := by
  match u with
  | .not operand => exact operand.foldl_next (.not :: marks)
  | .primary operand => exact operand.foldl_next marks

theorem Primary.foldl_next (p : Primary) (marks : List Mark) :
    p.tokens.foldl Mark.next marks = Mark.complete marks := by
  match p with
  | .group inner =>
    rw [Primary.tokens, List.foldl_cons, List.foldl_append, inner.foldl_next]
    rfl
  | .comparison field op literal => exact Mark.next_literal marks literal

end

theorem Disjunction.openMarks_append (before : List Token) (d : Disjunction) :
    openMarks (before ++ d.tokens) = Mark.complete (openMarks before) := by
  rw [openMarks, List.foldl_append]
  exact d.foldl_next (openMarks before)

/-- Where a sentence goes on with a closing parenthesis, that parenthesis is open. -/
theorem Viable.exists_paren {before : List Token} (h : Viable (before ++ [.rparen])) :
    ∃ outer, openMarks before = .paren :: outer := by
  have hviable : Viable ((before.map bare ++ [bare .rparen]).map Lexeme.token) := by
    rw [List.map_append, map_token_bare]
    exact h
  obtain ⟨q, maxDepth, hfold⟩ := (viable_iff_reaches _).mp hviable
  rw [List.foldlM_append, Parse.bind_eq_ok_iff] at hfold
  obtain ⟨p, hbefore, hlast⟩ := hfold
  have hmarks := Parse.marks_of_reaches ⟨maxDepth, hbefore⟩
  have hstep : Parse.step maxDepth p (bare .rparen) = .ok q := by
    rw [List.foldlM_cons, Parse.bind_eq_ok_iff] at hlast
    obtain ⟨p', hstep, hnil⟩ := hlast
    cases hnil
    exact hstep
  rw [map_token_bare] at hmarks
  rw [← hmarks]
  exact Parse.exists_paren_of_rparen (Parse.transition_of_step hstep) rfl

/-- A tree that is read from any place leaves nothing open there. -/
theorem Disjunction.marks_of_foldlM (d : Disjunction) {maxDepth : Nat} {p q : Parse}
    {ls : List Lexeme} (hls : ls.map Lexeme.token = d.tokens)
    (h : ls.foldlM (Parse.step maxDepth) p = .ok q) : q.marks = Mark.complete p.marks := by
  rw [Parse.marks_of_foldlM h, hls]
  exact d.foldl_next p.marks

end Grammar

end Sift
