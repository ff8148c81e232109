import Sift.Proofs.Filter.RoundTrip

/-!
The canonical text of an expression is nested no more deeply than any text that the expression is
read from. Every parenthesis in it stands where the tree of that text has one too, so the limits on
depth that admit a text admit the canonical one.
-/

namespace Sift

namespace Expr

/-- The nesting of an expression where only expressions that bind so tightly go without
parentheses. -/
def nestingWithin (precedence : Nat) (e : Expr) : Nat :=
  parenthesizedNesting (e.precedence < precedence) e.nesting

theorem nestingWithin_of_le {e : Expr} {precedence : Nat} (h : precedence ≤ e.precedence) :
    e.nestingWithin precedence = e.nesting := by
  simp [nestingWithin, parenthesizedNesting, Nat.not_lt.mpr h]

/-- No expression needs more than one pair of parentheses. -/
theorem nestingWithin_le (e : Expr) (precedence : Nat) :
    e.nestingWithin precedence ≤ e.nesting + 1 := by
  unfold nestingWithin parenthesizedNesting
  split <;> omega

/-- Where less tight expressions go without parentheses, no more of them are needed. -/
theorem nestingWithin_mono (e : Expr) {loose tight : Nat} (h : loose ≤ tight) :
    e.nestingWithin loose ≤ e.nestingWithin tight := by
  by_cases hloose : e.precedence < loose
  · have htight : e.precedence < tight := by omega
    simp [nestingWithin, parenthesizedNesting, hloose, htight]
  · simp only [nestingWithin, parenthesizedNesting, hloose, decide_false, Bool.false_eq_true,
      if_false]
    split <;> omega

theorem one_le_precedence (e : Expr) : 1 ≤ e.precedence := by
  cases e <;> simp [precedence]

theorem nesting_or (left right : Expr) :
    (Expr.or left right).nesting = max left.nesting (right.nestingWithin 2) := by
  rw [← nestingWithin_of_le left.one_le_precedence]
  rfl

theorem nesting_and (left right : Expr) :
    (Expr.and left right).nesting = max (left.nestingWithin 2) (right.nestingWithin 3) := rfl

theorem nesting_not (operand : Expr) :
    (Expr.not operand).nesting = operand.nestingWithin 3 + 1 := rfl

end Expr

namespace Grammar

mutual

theorem Disjunction.nesting_expr_le (d : Disjunction) : d.expr.nesting ≤ d.nesting := by
  match d with
  | .mk first rest =>
    have hfirst := first.nestingWithin_expr_le
    have hloose : first.expr.nestingWithin 1 ≤ first.expr.nestingWithin 2 :=
      first.expr.nestingWithin_mono (by omega)
    rw [Expr.nestingWithin_of_le first.expr.one_le_precedence] at hloose
    have hrest := rest.nesting_expr_le first.expr
    simp only [Disjunction.expr, Disjunction.nesting]
    omega

theorem Disjuncts.nesting_expr_le (ds : Disjuncts) (left : Expr) :
    (ds.expr left).nesting ≤ max left.nesting ds.nesting := by
  match ds with
  | .none => exact Nat.le_max_left _ _
  | .or next rest =>
    have hnext := next.nestingWithin_expr_le
    have hrest := rest.nesting_expr_le (.or left next.expr)
    rw [Expr.nesting_or] at hrest
    simp only [Disjuncts.expr, Disjuncts.nesting]
    omega

theorem Conjunction.nestingWithin_expr_le (c : Conjunction) :
    c.expr.nestingWithin 2 ≤ c.nesting := by
  match c with
  | .mk first rest =>
    have hfirst := first.nestingWithin_expr_le
    have hloose : first.expr.nestingWithin 2 ≤ first.expr.nestingWithin 3 :=
      first.expr.nestingWithin_mono (by omega)
    have hrest := rest.nestingWithin_expr_le first.expr
    simp only [Conjunction.expr, Conjunction.nesting]
    omega

theorem Conjuncts.nestingWithin_expr_le (cs : Conjuncts) (left : Expr) :
    (cs.expr left).nestingWithin 2 ≤ max (left.nestingWithin 2) cs.nesting := by
  match cs with
  | .none => exact Nat.le_max_left _ _
  | .and next rest =>
    have hnext := next.nestingWithin_expr_le
    have hrest := rest.nestingWithin_expr_le (.and left next.expr)
    have hprecedence : 2 ≤ (Expr.and left next.expr).precedence := Nat.le_refl 2
    rw [Expr.nestingWithin_of_le hprecedence, Expr.nesting_and] at hrest
    simp only [Conjuncts.expr, Conjuncts.nesting]
    omega

theorem Unary.nestingWithin_expr_le (u : Unary) : u.expr.nestingWithin 3 ≤ u.nesting := by
  match u with
  | .not operand =>
    have hoperand := operand.nestingWithin_expr_le
    have hprecedence : 3 ≤ (Expr.not operand.expr).precedence := Nat.le_refl 3
    rw [Unary.expr, Expr.nestingWithin_of_le hprecedence, Expr.nesting_not]
    exact Nat.succ_le_succ hoperand
  | .primary operand => exact operand.nestingWithin_expr_le

theorem Primary.nestingWithin_expr_le (p : Primary) : p.expr.nestingWithin 3 ≤ p.nesting := by
  match p with
  | .group inner =>
    have hinner := inner.nesting_expr_le
    have hgroup := inner.expr.nestingWithin_le 3
    simp only [Primary.expr, Primary.nesting]
    omega
  | .comparison field op literal => exact Nat.le_refl 0

end

end Grammar

open Grammar

namespace Filter

/-- A limit on depth that admits a text admits the canonical text of what it is read to. -/
theorem parse_toString_of_parse {text : String} {limits : Limits} {e : Expr}
    (h : Filter.parse text limits = .ok (.expr e)) :
    (∀ limits' : Limits, limits.maxDepth ≤ limits'.maxDepth →
      (toString e).utf8ByteSize ≤ limits'.maxLength →
      Filter.parse (toString e) limits' = .ok (.expr e)) ∧
    (Filter.parse (toString e) limits = .ok (.expr e) ∨
      Filter.parse (toString e) limits = .error (.exceeds .length limits.maxLength)) := by
  obtain ⟨-, d, hderives, hdepth, rfl⟩ := (Filter.parse_eq_ok_expr_iff text limits e).mp h
  obtain ⟨d', hexpr, hnesting, hderives'⟩ := hderives.writable_expr.exists_derives
  have hcanonical : d'.nesting ≤ limits.maxDepth := by
    rw [hnesting]
    exact Nat.le_trans d.nesting_expr_le hdepth
  have hparse (limits' : Limits) (hdepth' : limits.maxDepth ≤ limits'.maxDepth)
      (hlength : (toString d.expr).utf8ByteSize ≤ limits'.maxLength) :
      Filter.parse (toString d.expr) limits' = .ok (.expr d.expr) := by
    rw [Filter.parse_eq_ok_expr_iff]
    exact ⟨hlength, d', hderives', Nat.le_trans hcanonical hdepth', hexpr⟩
  refine ⟨hparse, ?_⟩
  by_cases hlength : (toString d.expr).utf8ByteSize ≤ limits.maxLength
  · exact .inl (hparse limits (Nat.le_refl _) hlength)
  · right
    rw [Filter.parse, if_pos (Nat.lt_of_not_le hlength)]

/-- The parentheses around the `or` are needed, and those inside them are not. -/
theorem parse_canonical_not_or :
    Filter.parse "not (a == null or b == null)" { maxLength := 28, maxDepth := 5 } =
      .ok (.expr (.not (.or (.comparison "a" .eq .null) (.comparison "b" .eq .null)))) := by
  let e : Expr := .not (.or (.comparison "a" .eq .null) (.comparison "b" .eq .null))
  have hread : Filter.parse "not((((a == null)) or b == null))" { maxDepth := 5 } =
      .ok (.expr e) := by
    decide +kernel
  have hcanonical : toString e = "not (a == null or b == null)" := by decide +kernel
  have hparse := (parse_toString_of_parse hread).1 { maxLength := 28, maxDepth := 5 }
    (Nat.le_refl 5) (by rw [hcanonical]; decide)
  rw [hcanonical] at hparse
  exact hparse

end Filter

end Sift
