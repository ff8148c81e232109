import Sift.Proofs.Filter.Recognition
import Sift.Proofs.Filter.Spelling

/-!
Writing and reading are inverse to each other on the filters that can be written. The canonical text
of a writable expression is a sentence that writes it, and whatever is read is writable.
-/

namespace Sift

open Grammar

namespace Expr

def fields : Expr → List String
  | .comparison field _ _ => [field]
  | .and left right | .or left right => left.fields ++ right.fields
  | .not operand => operand.fields

def literals : Expr → List Literal
  | .comparison _ _ literal => [literal]
  | .and left right | .or left right => left.literals ++ right.literals
  | .not operand => operand.literals

def Writable (e : Expr) : Prop :=
  (∀ field ∈ e.fields, IsName field) ∧ ∀ l ∈ e.literals, l.token.Spellable

@[simp] theorem writable_comparison (field : String) (op : Operator) (l : Literal) :
    (Expr.comparison field op l).Writable ↔ IsName field ∧ l.token.Spellable := by
  simp [Writable, fields, literals]

@[simp] theorem writable_and (left right : Expr) :
    (Expr.and left right).Writable ↔ left.Writable ∧ right.Writable := by
  simp only [Writable, fields, literals, List.forall_mem_append]
  exact and_and_and_comm

@[simp] theorem writable_or (left right : Expr) :
    (Expr.or left right).Writable ↔ left.Writable ∧ right.Writable := by
  simp only [Writable, fields, literals, List.forall_mem_append]
  exact and_and_and_comm

@[simp] theorem writable_not (operand : Expr) :
    (Expr.not operand).Writable ↔ operand.Writable := Iff.rfl

end Expr

/-- The literals with a spelling are those without a quote in a text and without a number that is
not finite. -/
theorem Literal.forall_spellable_iff (ls : List Literal) :
    (∀ l ∈ ls, l.token.Spellable) ↔
      (∀ text, .text text ∈ ls → '\'' ∉ text.toList) ∧
      ∀ x, .number x ∈ ls → x.isFinite = true := by
  constructor
  · intro h
    exact ⟨fun text hmem => h _ hmem, fun x hmem => h _ hmem⟩
  · rintro ⟨htext, hnumber⟩ l hl
    cases l with
    | text text => exact htext text hl
    | number x => exact hnumber x hl
    | bool b => exact trivial
    | null => exact trivial

namespace Grammar

mutual

theorem Disjunction.writable_expr {d : Disjunction} (h : ∀ t ∈ d.tokens, t.Spellable) :
    d.expr.Writable := by
  match d with
  | .mk first rest =>
    simp only [Disjunction.tokens, List.forall_mem_append] at h
    exact Disjuncts.writable_expr (Conjunction.writable_expr h.1) h.2

theorem Disjuncts.writable_expr {ds : Disjuncts} {left : Expr} (hleft : left.Writable)
    (h : ∀ t ∈ ds.tokens, t.Spellable) : (ds.expr left).Writable := by
  match ds with
  | .none => exact hleft
  | .or next rest =>
    simp only [Disjuncts.tokens, List.forall_mem_cons, List.forall_mem_append] at h
    obtain ⟨-, hnext, hrest⟩ := h
    have hor := (Expr.writable_or left next.expr).mpr ⟨hleft, Conjunction.writable_expr hnext⟩
    have hall := Disjuncts.writable_expr hor hrest
    exact hall

theorem Conjunction.writable_expr {c : Conjunction} (h : ∀ t ∈ c.tokens, t.Spellable) :
    c.expr.Writable := by
  match c with
  | .mk first rest =>
    simp only [Conjunction.tokens, List.forall_mem_append] at h
    exact Conjuncts.writable_expr (Unary.writable_expr h.1) h.2

theorem Conjuncts.writable_expr {cs : Conjuncts} {left : Expr} (hleft : left.Writable)
    (h : ∀ t ∈ cs.tokens, t.Spellable) : (cs.expr left).Writable := by
  match cs with
  | .none => exact hleft
  | .and next rest =>
    simp only [Conjuncts.tokens, List.forall_mem_cons, List.forall_mem_append] at h
    obtain ⟨-, hnext, hrest⟩ := h
    have hand := (Expr.writable_and left next.expr).mpr ⟨hleft, Unary.writable_expr hnext⟩
    have hall := Conjuncts.writable_expr hand hrest
    exact hall

theorem Unary.writable_expr {u : Unary} (h : ∀ t ∈ u.tokens, t.Spellable) :
    u.expr.Writable := by
  match u with
  | .not operand =>
    simp only [Unary.tokens, List.forall_mem_cons] at h
    exact (Expr.writable_not _).mpr (Unary.writable_expr h.2)
  | .primary operand => exact Primary.writable_expr h

theorem Primary.writable_expr {p : Primary} (h : ∀ t ∈ p.tokens, t.Spellable) :
    p.expr.Writable := by
  match p with
  | .group inner =>
    simp only [Primary.tokens, List.forall_mem_cons, List.forall_mem_append] at h
    exact Disjunction.writable_expr h.2.1
  | .comparison field op literal =>
    simp only [Primary.tokens, List.forall_mem_cons] at h
    exact (Expr.writable_comparison field op literal).mpr ⟨h.1, h.2.2.1⟩

end

theorem Disjunction.Derives.writable_expr {d : Disjunction} {text : String}
    (h : d.Derives text) : d.expr.Writable := by
  obtain ⟨ls, hlexemes, htokens⟩ := h
  refine Disjunction.writable_expr ?_
  rw [← htokens]
  intro t ht
  obtain ⟨l, hl, rfl⟩ := List.mem_map.mp ht
  exact spellable_of_mem_lexemes hlexemes l hl

theorem Disjunction.not_derives_empty (d : Disjunction) : ¬ d.Derives "" := by
  rintro ⟨ls, hlexemes, htokens⟩
  have hempty := (lexemes_eq_nil_iff "").mpr (by simp)
  obtain rfl : [] = ls := by simpa [hempty] using hlexemes
  exact d.tokens_ne_nil htokens.symm

/-- A text has no two derivations. -/
theorem Disjunction.Derives.unique {d d' : Disjunction} {text : String} (h : d.Derives text)
    (h' : d'.Derives text) : d = d' := by
  obtain ⟨ls, hlexemes, htokens⟩ := h
  obtain ⟨ls', hlexemes', htokens'⟩ := h'
  obtain rfl : ls = ls' := by simpa [hlexemes] using hlexemes'
  exact Disjunction.tokens_inj (htokens.symm.trans htokens')

end Grammar

theorem Binary64.sameValue_iff (x y : Binary64) :
    x.sameValue y = true ↔ ∃ units, x.units? = some units ∧ y.units? = some units := by
  unfold Binary64.sameValue Binary64.compare?
  cases x.units? with
  | none => simp
  | some a =>
    cases y.units? with
    | none => simp
    | some b =>
      simp only [beq_iff_eq, Option.some.injEq, compare_eq_iff_eq, exists_eq_left']
      exact eq_comm

theorem Binary64.sameValue_self {x : Binary64} (hx : x.isFinite = true) :
    x.sameValue x = true := by
  rw [Binary64.sameValue_iff]
  cases x with
  | nan => cases hx
  | signed negative m => exact ⟨_, rfl, rfl⟩

/-- Only infinity has the value of infinity. -/
theorem Binary64.isFinite_of_sameValue {x y : Binary64} (h : x.sameValue y = true)
    (hx : x.isFinite = true) : y.isFinite = true := by
  obtain ⟨units, hxunits, hyunits⟩ := (Binary64.sameValue_iff x y).mp h
  cases x with
  | nan => cases hx
  | signed negative m =>
    cases y with
    | nan => cases hyunits
    | signed negative' m' =>
      simp only [Binary64.units?, Option.some.injEq] at hxunits hyunits
      have hunits : m.units = m'.units := by
        split at hxunits <;> split at hyunits <;> omega
      have hplace := Magnitude.unitsAt_inj.mp hunits
      simpa only [Binary64.isFinite, hplace] using hx

theorem Literal.spellable_of_sameValue {l l' : Literal} (h : l.sameValue l' = true)
    (hl : l.token.Spellable) : l'.token.Spellable := by
  unfold Literal.sameValue at h
  split at h
  · exact Binary64.isFinite_of_sameValue h hl
  · rw [← beq_iff_eq.mp h]
    exact hl

theorem Literal.sameValue_self {l : Literal} (hl : l.token.Spellable) :
    l.sameValue l = true := by
  cases l with
  | number x => exact Binary64.sameValue_self hl
  | text text => exact beq_self_eq_true _
  | bool b => exact beq_self_eq_true _
  | null => rfl

theorem Expr.writable_of_sameValue {e e' : Expr} (h : e.sameValue e' = true)
    (he : e.Writable) : e'.Writable := by
  fun_induction Expr.sameValue e e' with
  | case1 field op l field' op' l' =>
    simp only [Bool.and_eq_true, beq_iff_eq] at h
    obtain ⟨⟨rfl, rfl⟩, hl⟩ := h
    rw [Expr.writable_comparison] at he ⊢
    exact ⟨he.1, Literal.spellable_of_sameValue hl he.2⟩
  | case2 left right left' right' ihl ihr =>
    rw [Bool.and_eq_true] at h
    rw [Expr.writable_and] at he ⊢
    exact ⟨ihl h.1 he.1, ihr h.2 he.2⟩
  | case3 left right left' right' ihl ihr =>
    rw [Bool.and_eq_true] at h
    rw [Expr.writable_or] at he ⊢
    exact ⟨ihl h.1 he.1, ihr h.2 he.2⟩
  | case4 operand operand' ih => exact ih h he
  | case5 => cases h

theorem Expr.Writable.sameValue_self {e : Expr} (he : e.Writable) : e.sameValue e = true := by
  induction e with
  | comparison field op l =>
    rw [Expr.writable_comparison] at he
    simp [Expr.sameValue, Literal.sameValue_self he.2]
  | and left right ihl ihr =>
    rw [Expr.writable_and] at he
    simp [Expr.sameValue, ihl he.1, ihr he.2]
  | or left right ihl ihr =>
    rw [Expr.writable_or] at he
    simp [Expr.sameValue, ihl he.1, ihr he.2]
  | not operand ih => exact ih he

namespace Expr

def parenthesizedNesting (needed : Bool) (nesting : Nat) : Nat :=
  if needed then nesting + 1 else nesting

/-- The greatest number of `not`s and parentheses, taken together, around a comparison in the
canonical text. -/
def nesting : Expr → Nat
  | .comparison _ _ _ => 0
  | .or left right =>
    max (parenthesizedNesting (left.precedence < 1) left.nesting)
      (parenthesizedNesting (right.precedence < 2) right.nesting)
  | .and left right =>
    max (parenthesizedNesting (left.precedence < 2) left.nesting)
      (parenthesizedNesting (right.precedence < 3) right.nesting)
  | .not operand => parenthesizedNesting (operand.precedence < 3) operand.nesting + 1

/-- The canonical text of an expression is spelled from a tree of every kind that binds no tighter
than the expression does, and that tree is nested as the text is. -/
structure Spelled (e : Expr) : Prop where
  disjunction : ∃ d : Disjunction,
    d.expr = e ∧ d.nesting = e.nesting ∧ Spells e.toChars d.tokens
  conjunction : 2 ≤ e.precedence → ∃ c : Conjunction,
    c.expr = e ∧ c.nesting = e.nesting ∧ Spells e.toChars c.tokens
  unary : 3 ≤ e.precedence → ∃ u : Unary,
    u.expr = e ∧ u.nesting = e.nesting ∧ Spells e.toChars u.tokens

theorem Spelled.of_conjunction {e : Expr}
    (h : ∃ c : Conjunction, c.expr = e ∧ c.nesting = e.nesting ∧ Spells e.toChars c.tokens)
    (hunary : 3 ≤ e.precedence → ∃ u : Unary,
      u.expr = e ∧ u.nesting = e.nesting ∧ Spells e.toChars u.tokens) :
    Spelled e := by
  obtain ⟨c, hexpr, hnesting, hspells⟩ := h
  exact ⟨⟨c.alone, hexpr, by simpa using hnesting, by simpa using hspells⟩,
    fun _ => ⟨c, hexpr, hnesting, hspells⟩, hunary⟩

theorem Spelled.of_unary {e : Expr}
    (h : ∃ u : Unary, u.expr = e ∧ u.nesting = e.nesting ∧ Spells e.toChars u.tokens) :
    Spelled e := by
  obtain ⟨u, hexpr, hnesting, hspells⟩ := h
  exact .of_conjunction ⟨u.alone, hexpr, by simpa using hnesting, by simpa using hspells⟩
    (fun _ => ⟨u, hexpr, hnesting, hspells⟩)

/-- Parentheses make an operand of any expression. -/
theorem Spelled.exists_group {e : Expr} (h : Spelled e) : ∃ u : Unary, u.expr = e ∧
    u.nesting = e.nesting + 1 ∧ Spells (parenthesized true e.toChars) u.tokens := by
  obtain ⟨d, hexpr, hnesting, hspells⟩ := h.disjunction
  exact ⟨.primary (.group d), hexpr, congrArg (· + 1) hnesting, hspells.parenthesized true⟩

/-- What stands behind `not` and behind `and`. -/
theorem Spelled.exists_unary {e : Expr} (h : Spelled e) : ∃ u : Unary, u.expr = e ∧
    u.nesting = parenthesizedNesting (e.precedence < 3) e.nesting ∧
    Spells (parenthesized (e.precedence < 3) e.toChars) u.tokens := by
  by_cases hloose : e.precedence < 3
  · simpa [hloose, parenthesizedNesting] using h.exists_group
  · simpa [hloose, parenthesized, parenthesizedNesting] using h.unary (by omega)

/-- What stands in front of `and` and behind `or`. -/
theorem Spelled.exists_conjunction {e : Expr} (h : Spelled e) : ∃ c : Conjunction, c.expr = e ∧
    c.nesting = parenthesizedNesting (e.precedence < 2) e.nesting ∧
    Spells (parenthesized (e.precedence < 2) e.toChars) c.tokens := by
  by_cases hloose : e.precedence < 2
  · obtain ⟨u, hexpr, hnesting, hspells⟩ := h.exists_group
    exact ⟨u.alone, hexpr, by simpa [hloose, parenthesizedNesting] using hnesting,
      by simpa [hloose] using hspells⟩
  · simpa [hloose, parenthesized, parenthesizedNesting] using h.conjunction (by omega)

/-- What stands in front of `or`, where no expression needs parentheses. -/
theorem Spelled.exists_disjunction {e : Expr} (h : Spelled e) : ∃ d : Disjunction, d.expr = e ∧
    d.nesting = parenthesizedNesting (e.precedence < 1) e.nesting ∧
    Spells (parenthesized (e.precedence < 1) e.toChars) d.tokens := by
  have htight : ¬ e.precedence < 1 := by cases e <;> simp [precedence]
  simpa [htight, parenthesized, parenthesizedNesting] using h.disjunction

/-- The canonical text of a writable expression writes that expression. -/
theorem Writable.spelled {e : Expr} (he : e.Writable) : Spelled e := by
  induction e with
  | comparison field op l =>
    obtain ⟨hfield, hl⟩ := (writable_comparison field op l).mp he
    exact .of_unary ⟨.primary (.comparison field op l), rfl, rfl, .comparison op hfield hl⟩
  | not operand ih =>
    obtain ⟨u, rfl, hnesting, hspells⟩ := (ih he).exists_unary
    exact .of_unary ⟨.not u, rfl, congrArg (· + 1) hnesting, hspells.not⟩
  | and left right ihl ihr =>
    obtain ⟨hleft, hright⟩ := (writable_and left right).mp he
    obtain ⟨c, rfl, hnesting, hc⟩ := (ihl hleft).exists_conjunction
    obtain ⟨u, rfl, hnesting', hu⟩ := (ihr hright).exists_unary
    have hspells := hc.and hu
    rw [← Conjunction.tokens_snoc] at hspells
    exact .of_conjunction ⟨c.snoc u, by simp, by rw [c.nesting_snoc, hnesting, hnesting']; rfl,
      hspells⟩ (fun h => absurd h (by simp [precedence]))
  | or left right ihl ihr =>
    obtain ⟨hleft, hright⟩ := (writable_or left right).mp he
    obtain ⟨d, rfl, hnesting, hd⟩ := (ihl hleft).exists_disjunction
    obtain ⟨c, rfl, hnesting', hc⟩ := (ihr hright).exists_conjunction
    have hspells := hd.or hc
    rw [← Disjunction.tokens_snoc] at hspells
    exact ⟨⟨d.snoc c, by simp, by rw [d.nesting_snoc, hnesting, hnesting']; rfl, hspells⟩,
      fun h => absurd h (by simp [precedence]), fun h => absurd h (by simp [precedence])⟩

theorem toList_toString (e : Expr) : (toString e).toList = e.toChars := by
  change (String.ofList (e.prepend [])).toList = e.toChars
  rw [String.toList_ofList, prepend_eq_append, List.append_nil]

/-- The canonical text of a writable expression is a sentence that writes it. -/
theorem Writable.exists_derives {e : Expr} (he : e.Writable) :
    ∃ d : Disjunction, d.expr = e ∧ d.nesting = e.nesting ∧ d.Derives (toString e) := by
  obtain ⟨d, hexpr, hnesting, hspells⟩ := he.spelled.disjunction
  rw [← toList_toString] at hspells
  exact ⟨d, hexpr, hnesting, d.derives_of_spells hspells⟩

end Expr

namespace Filter

def fields : Filter → List String
  | .matchAll => []
  | .expr e => e.fields

def literals : Filter → List Literal
  | .matchAll => []
  | .expr e => e.literals

/-- A writable expression is read from its canonical text as it was, signs of zeros included,
exactly if the text fits the limits. -/
theorem parse_toString_expr {e : Expr} (he : e.Writable) {limits : Limits}
    (hlength : (toString e).utf8ByteSize ≤ limits.maxLength)
    (hnesting : ∀ d : Disjunction, d.Derives (toString e) → d.nesting ≤ limits.maxDepth) :
    Filter.parse (toString e) limits = .ok (.expr e) := by
  obtain ⟨d, hexpr, -, hderives⟩ := he.exists_derives
  rw [Filter.parse_eq_ok_expr_iff]
  exact ⟨hlength, d, hderives, hnesting d hderives, hexpr⟩

/-- Reading the text of a filter gives the filter back, up to the signs of zeros, exactly if all
names in it are names, no text in it contains a quote, all numbers in it are finite and its text
fits the limits. -/
theorem parse_toString_iff (f : Filter) (limits : Limits) :
    (∃ g, Filter.parse (toString f) limits = .ok g ∧ g.sameValue f = true) ↔
      (∀ field ∈ f.fields, IsName field) ∧
      (∀ text, .text text ∈ f.literals → '\'' ∉ text.toList) ∧
      (∀ x, .number x ∈ f.literals → x.isFinite = true) ∧
      (toString f).utf8ByteSize ≤ limits.maxLength ∧
      ∀ d : Disjunction, d.Derives (toString f) → d.nesting ≤ limits.maxDepth := by
  cases f with
  | matchAll =>
    change (∃ g, Filter.parse "" limits = .ok g ∧ g.sameValue .matchAll = true) ↔ _
    constructor
    · rintro ⟨g, hparse, -⟩
      refine ⟨by simp [fields], by simp [literals], by simp [literals], Nat.zero_le _, ?_⟩
      exact fun d hd => absurd hd d.not_derives_empty
    · intro _
      have hparse := (Filter.parse_eq_ok_matchAll_iff "" limits).mpr ⟨Nat.zero_le _, by simp⟩
      exact ⟨.matchAll, hparse, rfl⟩
  | expr e =>
    have hspellable := Literal.forall_spellable_iff e.literals
    constructor
    · rintro ⟨g, hparse, hsame⟩
      cases g with
      | matchAll => cases hsame
      | expr e' =>
        obtain ⟨hlength, d, hderives, hnesting, rfl⟩ :=
          (Filter.parse_eq_ok_expr_iff _ limits e').mp hparse
        have he : e.Writable := Expr.writable_of_sameValue hsame hderives.writable_expr
        refine ⟨he.1, (hspellable.mp he.2).1, (hspellable.mp he.2).2, hlength, ?_⟩
        intro d' hderives'
        rw [hderives'.unique hderives]
        exact hnesting
    · rintro ⟨hfields, htexts, hnumbers, hlength, hnesting⟩
      have he : e.Writable := ⟨hfields, hspellable.mpr ⟨htexts, hnumbers⟩⟩
      exact ⟨.expr e, Filter.parse_toString_expr he hlength hnesting, he.sameValue_self⟩

end Filter

end Sift
