import Sift.Filter.Parser

/-!
The grammar of filter text, as the trees of its derivations. A tree determines the tokens it
derives, the expression they write and how deeply they are nested. The grammar is unambiguous: the
tokens determine the tree.
-/

namespace Sift

def Literal.token : Literal → Token
  | .text value => .text value
  | .number value => .number value
  | .bool value => .bool value
  | .null => .null

theorem Token.literal?_eq_some_iff (token : Token) (literal : Literal) :
    token.literal? = some literal ↔ token = literal.token := by
  cases token <;> cases literal <;> simp [Token.literal?, Literal.token]

theorem Literal.token_inj {l l' : Literal} : l.token = l'.token ↔ l = l' := by
  cases l <;> cases l' <;> simp [Literal.token]

namespace Grammar

mutual

inductive Disjunction where
  | mk (first : Conjunction) (rest : Disjuncts)

inductive Disjuncts where
  | none
  | or (next : Conjunction) (rest : Disjuncts)

inductive Conjunction where
  | mk (first : Unary) (rest : Conjuncts)

inductive Conjuncts where
  | none
  | and (next : Unary) (rest : Conjuncts)

/-- An operand with any number of `not`s in front of it. -/
inductive Unary where
  | not (operand : Unary)
  | primary (operand : Primary)

inductive Primary where
  | group (inner : Disjunction)
  | comparison (field : String) (op : Operator) (literal : Literal)

end

mutual

def Disjunction.tokens : Disjunction → List Token
  | .mk first rest => first.tokens ++ rest.tokens

def Disjuncts.tokens : Disjuncts → List Token
  | .none => []
  | .or next rest => .or :: (next.tokens ++ rest.tokens)

def Conjunction.tokens : Conjunction → List Token
  | .mk first rest => first.tokens ++ rest.tokens

def Conjuncts.tokens : Conjuncts → List Token
  | .none => []
  | .and next rest => .and :: (next.tokens ++ rest.tokens)

def Unary.tokens : Unary → List Token
  | .not operand => .not :: operand.tokens
  | .primary operand => operand.tokens

def Primary.tokens : Primary → List Token
  | .group inner => .lparen :: (inner.tokens ++ [.rparen])
  | .comparison field op literal => [.name field, .operator op, literal.token]

end

mutual

/-- The expression that a tree writes. Chains of a connective group to the left, and parentheses
leave no trace. -/
def Disjunction.expr : Disjunction → Expr
  | .mk first rest => rest.expr first.expr

def Disjuncts.expr (left : Expr) : Disjuncts → Expr
  | .none => left
  | .or next rest => rest.expr (.or left next.expr)

def Conjunction.expr : Conjunction → Expr
  | .mk first rest => rest.expr first.expr

def Conjuncts.expr (left : Expr) : Conjuncts → Expr
  | .none => left
  | .and next rest => rest.expr (.and left next.expr)

def Unary.expr : Unary → Expr
  | .not operand => .not operand.expr
  | .primary operand => operand.expr

def Primary.expr : Primary → Expr
  | .group inner => inner.expr
  | .comparison field op literal => .comparison field op literal

end

mutual

/-- The greatest number of `not`s and parentheses, taken together, around a comparison. -/
def Disjunction.nesting : Disjunction → Nat
  | .mk first rest => max first.nesting rest.nesting

def Disjuncts.nesting : Disjuncts → Nat
  | .none => 0
  | .or next rest => max next.nesting rest.nesting

def Conjunction.nesting : Conjunction → Nat
  | .mk first rest => max first.nesting rest.nesting

def Conjuncts.nesting : Conjuncts → Nat
  | .none => 0
  | .and next rest => max next.nesting rest.nesting

def Unary.nesting : Unary → Nat
  | .not operand => operand.nesting + 1
  | .primary operand => operand.nesting

def Primary.nesting : Primary → Nat
  | .group inner => inner.nesting + 1
  | .comparison _ _ _ => 0

end

mutual

/-- No tree is nested more deeply than its tokens are many. -/
theorem Disjunction.nesting_le (d : Disjunction) : d.nesting ≤ d.tokens.length := by
  match d with
  | .mk first rest =>
    have hfirst := first.nesting_le
    have hrest := rest.nesting_le
    simp only [Disjunction.nesting, Disjunction.tokens, List.length_append]
    omega

theorem Disjuncts.nesting_le (ds : Disjuncts) : ds.nesting ≤ ds.tokens.length := by
  match ds with
  | .none => exact Nat.zero_le _
  | .or next rest =>
    have hnext := next.nesting_le
    have hrest := rest.nesting_le
    simp only [Disjuncts.nesting, Disjuncts.tokens, List.length_cons, List.length_append]
    omega

theorem Conjunction.nesting_le (c : Conjunction) : c.nesting ≤ c.tokens.length := by
  match c with
  | .mk first rest =>
    have hfirst := first.nesting_le
    have hrest := rest.nesting_le
    simp only [Conjunction.nesting, Conjunction.tokens, List.length_append]
    omega

theorem Conjuncts.nesting_le (cs : Conjuncts) : cs.nesting ≤ cs.tokens.length := by
  match cs with
  | .none => exact Nat.zero_le _
  | .and next rest =>
    have hnext := next.nesting_le
    have hrest := rest.nesting_le
    simp only [Conjuncts.nesting, Conjuncts.tokens, List.length_cons, List.length_append]
    omega

theorem Unary.nesting_le (u : Unary) : u.nesting ≤ u.tokens.length := by
  match u with
  | .not operand =>
    have hoperand := operand.nesting_le
    simp only [Unary.nesting, Unary.tokens, List.length_cons]
    omega
  | .primary operand => exact operand.nesting_le

theorem Primary.nesting_le (p : Primary) : p.nesting ≤ p.tokens.length := by
  match p with
  | .group inner =>
    have hinner := inner.nesting_le
    simp only [Primary.nesting, Primary.tokens, List.length_cons, List.length_append]
    omega
  | .comparison _ _ _ => exact Nat.zero_le _

end

theorem Unary.tokens_ne_nil (u : Unary) : u.tokens ≠ [] := by
  match u with
  | .not operand => simp [Unary.tokens]
  | .primary (.group inner) => simp [Unary.tokens, Primary.tokens]
  | .primary (.comparison field op literal) => simp [Unary.tokens, Primary.tokens]

/-- There is no empty sentence. -/
theorem Disjunction.tokens_ne_nil (d : Disjunction) : d.tokens ≠ [] := by
  obtain ⟨⟨first, rest⟩, others⟩ := d
  simp [Disjunction.tokens, Conjunction.tokens, first.tokens_ne_nil]

def Disjuncts.snoc : Disjuncts → Conjunction → Disjuncts
  | .none, last => .or last .none
  | .or next rest, last => .or next (rest.snoc last)

def Disjunction.snoc : Disjunction → Conjunction → Disjunction
  | .mk first rest, last => .mk first (rest.snoc last)

def Conjuncts.snoc : Conjuncts → Unary → Conjuncts
  | .none, last => .and last .none
  | .and next rest, last => .and next (rest.snoc last)

def Conjunction.snoc : Conjunction → Unary → Conjunction
  | .mk first rest, last => .mk first (rest.snoc last)

theorem Disjuncts.tokens_snoc (ds : Disjuncts) (last : Conjunction) :
    (ds.snoc last).tokens = ds.tokens ++ .or :: last.tokens := by
  match ds with
  | .none => simp [Disjuncts.snoc, Disjuncts.tokens]
  | .or next rest => simp [Disjuncts.snoc, Disjuncts.tokens, rest.tokens_snoc last]

theorem Disjuncts.expr_snoc (ds : Disjuncts) (last : Conjunction) (left : Expr) :
    (ds.snoc last).expr left = .or (ds.expr left) last.expr := by
  match ds with
  | .none => rfl
  | .or next rest => exact rest.expr_snoc last (.or left next.expr)

@[simp] theorem Disjunction.tokens_snoc (d : Disjunction) (last : Conjunction) :
    (d.snoc last).tokens = d.tokens ++ .or :: last.tokens := by
  cases d
  simp [Disjunction.snoc, Disjunction.tokens, Disjuncts.tokens_snoc]

@[simp] theorem Disjunction.expr_snoc (d : Disjunction) (last : Conjunction) :
    (d.snoc last).expr = .or d.expr last.expr := by
  cases d
  exact Disjuncts.expr_snoc _ last _

theorem Conjuncts.tokens_snoc (cs : Conjuncts) (last : Unary) :
    (cs.snoc last).tokens = cs.tokens ++ .and :: last.tokens := by
  match cs with
  | .none => simp [Conjuncts.snoc, Conjuncts.tokens]
  | .and next rest => simp [Conjuncts.snoc, Conjuncts.tokens, rest.tokens_snoc last]

theorem Conjuncts.expr_snoc (cs : Conjuncts) (last : Unary) (left : Expr) :
    (cs.snoc last).expr left = .and (cs.expr left) last.expr := by
  match cs with
  | .none => rfl
  | .and next rest => exact rest.expr_snoc last (.and left next.expr)

@[simp] theorem Conjunction.tokens_snoc (c : Conjunction) (last : Unary) :
    (c.snoc last).tokens = c.tokens ++ .and :: last.tokens := by
  cases c
  simp [Conjunction.snoc, Conjunction.tokens, Conjuncts.tokens_snoc]

@[simp] theorem Conjunction.expr_snoc (c : Conjunction) (last : Unary) :
    (c.snoc last).expr = .and c.expr last.expr := by
  cases c
  exact Conjuncts.expr_snoc _ last _

@[simp] theorem Disjuncts.nesting_snoc (ds : Disjuncts) (last : Conjunction) :
    (ds.snoc last).nesting = max ds.nesting last.nesting := by
  match ds with
  | .none => simp [Disjuncts.snoc, Disjuncts.nesting]
  | .or next rest => simp [Disjuncts.snoc, Disjuncts.nesting, rest.nesting_snoc last, Nat.max_assoc]

@[simp] theorem Disjunction.nesting_snoc (d : Disjunction) (last : Conjunction) :
    (d.snoc last).nesting = max d.nesting last.nesting := by
  cases d
  simp [Disjunction.snoc, Disjunction.nesting, Nat.max_assoc]

@[simp] theorem Conjuncts.nesting_snoc (cs : Conjuncts) (last : Unary) :
    (cs.snoc last).nesting = max cs.nesting last.nesting := by
  match cs with
  | .none => simp [Conjuncts.snoc, Conjuncts.nesting]
  | .and next rest =>
    simp [Conjuncts.snoc, Conjuncts.nesting, rest.nesting_snoc last, Nat.max_assoc]

@[simp] theorem Conjunction.nesting_snoc (c : Conjunction) (last : Unary) :
    (c.snoc last).nesting = max c.nesting last.nesting := by
  cases c
  simp [Conjunction.snoc, Conjunction.nesting, Nat.max_assoc]

def Conjunction.alone (c : Conjunction) : Disjunction := .mk c .none

@[simp] theorem Conjunction.tokens_alone (c : Conjunction) : c.alone.tokens = c.tokens := by
  simp [Conjunction.alone, Disjunction.tokens, Disjuncts.tokens]

@[simp] theorem Conjunction.nesting_alone (c : Conjunction) : c.alone.nesting = c.nesting :=
  Nat.max_zero _

def Unary.alone (u : Unary) : Conjunction := .mk u .none

@[simp] theorem Unary.tokens_alone (u : Unary) : u.alone.tokens = u.tokens := by
  simp [Unary.alone, Conjunction.tokens, Conjuncts.tokens]

@[simp] theorem Unary.nesting_alone (u : Unary) : u.alone.nesting = u.nesting := Nat.max_zero _

/-- The tokens of a text are those of the tree. -/
def Disjunction.Derives (d : Disjunction) (text : String) : Prop :=
  ∃ ls, lexemes text = .ok ls ∧ ls.map Lexeme.token = d.tokens

def EndsConjunction (ts : List Token) : Prop := ts.head? ≠ some .and

def EndsDisjunction (ts : List Token) : Prop := ts.head? ≠ some .and ∧ ts.head? ≠ some .or

theorem Primary.head?_tokens_append (p : Primary) (ts : List Token) :
    (p.tokens ++ ts).head? ≠ some .not := by
  cases p <;> simp [Primary.tokens]

theorem Disjuncts.endsConjunction_tokens_append (ds : Disjuncts) {ts : List Token}
    (h : EndsDisjunction ts) : EndsConjunction (ds.tokens ++ ts) := by
  cases ds with
  | none => exact h.1
  | or next rest => simp [EndsConjunction, Disjuncts.tokens]

mutual

/-- Where no connective follows, the tokens show where a tree ends. What follows a conjunction may be
an `or`. -/
theorem Disjunction.eq_of_tokens_append {d d' : Disjunction} {ts ts' : List Token}
    (hts : EndsDisjunction ts) (hts' : EndsDisjunction ts')
    (h : d.tokens ++ ts = d'.tokens ++ ts') : d = d' ∧ ts = ts' := by
  match d, d' with
  | .mk first rest, .mk first' rest' =>
    simp only [Disjunction.tokens, List.append_assoc] at h
    obtain ⟨rfl, hrest⟩ := Conjunction.eq_of_tokens_append
      (rest.endsConjunction_tokens_append hts) (rest'.endsConjunction_tokens_append hts') h
    obtain ⟨rfl, rfl⟩ := Disjuncts.eq_of_tokens_append hts hts' hrest
    exact ⟨rfl, rfl⟩

theorem Disjuncts.eq_of_tokens_append {ds ds' : Disjuncts} {ts ts' : List Token}
    (hts : EndsDisjunction ts) (hts' : EndsDisjunction ts')
    (h : ds.tokens ++ ts = ds'.tokens ++ ts') : ds = ds' ∧ ts = ts' := by
  match ds, ds' with
  | .none, .none => exact ⟨rfl, h⟩
  | .none, .or next' rest' =>
    simp only [Disjuncts.tokens, List.nil_append] at h
    exact absurd (by simp [h]) hts.2
  | .or next rest, .none =>
    simp only [Disjuncts.tokens, List.nil_append] at h
    exact absurd (by simp [← h]) hts'.2
  | .or next rest, .or next' rest' =>
    simp only [Disjuncts.tokens, List.cons_append, List.append_assoc, List.cons.injEq,
      true_and] at h
    obtain ⟨rfl, hrest⟩ := Conjunction.eq_of_tokens_append
      (rest.endsConjunction_tokens_append hts) (rest'.endsConjunction_tokens_append hts') h
    obtain ⟨rfl, rfl⟩ := Disjuncts.eq_of_tokens_append hts hts' hrest
    exact ⟨rfl, rfl⟩

theorem Conjunction.eq_of_tokens_append {c c' : Conjunction} {ts ts' : List Token}
    (hts : EndsConjunction ts) (hts' : EndsConjunction ts')
    (h : c.tokens ++ ts = c'.tokens ++ ts') : c = c' ∧ ts = ts' := by
  match c, c' with
  | .mk first rest, .mk first' rest' =>
    simp only [Conjunction.tokens, List.append_assoc] at h
    obtain ⟨rfl, hrest⟩ := Unary.eq_of_tokens_append h
    obtain ⟨rfl, rfl⟩ := Conjuncts.eq_of_tokens_append hts hts' hrest
    exact ⟨rfl, rfl⟩

theorem Conjuncts.eq_of_tokens_append {cs cs' : Conjuncts} {ts ts' : List Token}
    (hts : EndsConjunction ts) (hts' : EndsConjunction ts')
    (h : cs.tokens ++ ts = cs'.tokens ++ ts') : cs = cs' ∧ ts = ts' := by
  match cs, cs' with
  | .none, .none => exact ⟨rfl, h⟩
  | .none, .and next' rest' =>
    simp only [Conjuncts.tokens, List.nil_append] at h
    exact absurd (by simp [h]) hts
  | .and next rest, .none =>
    simp only [Conjuncts.tokens, List.nil_append] at h
    exact absurd (by simp [← h]) hts'
  | .and next rest, .and next' rest' =>
    simp only [Conjuncts.tokens, List.cons_append, List.append_assoc, List.cons.injEq,
      true_and] at h
    obtain ⟨rfl, hrest⟩ := Unary.eq_of_tokens_append h
    obtain ⟨rfl, rfl⟩ := Conjuncts.eq_of_tokens_append hts hts' hrest
    exact ⟨rfl, rfl⟩

theorem Unary.eq_of_tokens_append {u u' : Unary} {ts ts' : List Token}
    (h : u.tokens ++ ts = u'.tokens ++ ts') : u = u' ∧ ts = ts' := by
  match u, u' with
  | .not operand, .not operand' =>
    simp only [Unary.tokens, List.cons_append, List.cons.injEq, true_and] at h
    obtain ⟨rfl, rfl⟩ := Unary.eq_of_tokens_append h
    exact ⟨rfl, rfl⟩
  | .not operand, .primary operand' =>
    have hhead := operand'.head?_tokens_append ts'
    simp only [Unary.tokens] at h
    exact absurd (by simp [← h]) hhead
  | .primary operand, .not operand' =>
    have hhead := operand.head?_tokens_append ts
    simp only [Unary.tokens] at h
    exact absurd (by simp [h]) hhead
  | .primary operand, .primary operand' =>
    obtain ⟨rfl, rfl⟩ := Primary.eq_of_tokens_append h
    exact ⟨rfl, rfl⟩

theorem Primary.eq_of_tokens_append {p p' : Primary} {ts ts' : List Token}
    (h : p.tokens ++ ts = p'.tokens ++ ts') : p = p' ∧ ts = ts' := by
  match p, p' with
  | .group inner, .group inner' =>
    simp only [Primary.tokens, List.cons_append, List.append_assoc, List.cons.injEq,
      true_and] at h
    obtain ⟨rfl, hts⟩ := Disjunction.eq_of_tokens_append (by simp [EndsDisjunction])
      (by simp [EndsDisjunction]) h
    simp only [List.nil_append, List.cons.injEq, true_and] at hts
    exact ⟨rfl, hts⟩
  | .group inner, .comparison field' op' literal' => simp [Primary.tokens] at h
  | .comparison field op literal, .group inner' => simp [Primary.tokens] at h
  | .comparison field op literal, .comparison field' op' literal' =>
    simp only [Primary.tokens, List.cons_append, List.nil_append, List.cons.injEq,
      Token.name.injEq, Token.operator.injEq, Literal.token_inj] at h
    obtain ⟨rfl, rfl, rfl, rfl⟩ := h
    exact ⟨rfl, rfl⟩

end

/-- The tokens determine the tree. -/
theorem Disjunction.tokens_inj {d d' : Disjunction} (h : d.tokens = d'.tokens) : d = d' := by
  have hends : EndsDisjunction [] := by simp [EndsDisjunction]
  have happend : d.tokens ++ [] = d'.tokens ++ [] := by simpa using h
  exact (Disjunction.eq_of_tokens_append hends hends happend).1

end Grammar

end Sift
