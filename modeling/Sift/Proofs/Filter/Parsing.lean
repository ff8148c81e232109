import Sift.Proofs.Filter.Grammar

/-!
The reader of filter text accepts the sentences of the grammar and no others, and builds the
expression of the only derivation. A derivation is read up to its end exactly when its nesting is
within the depth limit.
-/

namespace Sift

namespace Parse

/-- Two results in a row are one if both are. -/
theorem bind_eq_ok_iff {α β : Type} {x : Except FilterError α} {f : α → Except FilterError β}
    {b : β} : x >>= f = .ok b ↔ ∃ a, x = .ok a ∧ f a = .ok b := by
  cases x with
  | error e =>
    constructor
    · intro h
      cases h
    · rintro ⟨a, ha, -⟩
      cases ha
  | ok a =>
    constructor
    · intro h
      exact ⟨a, rfl, h⟩
    · rintro ⟨a', ha, h⟩
      cases ha
      exact h

def within {α : Type} (maxDepth needed : Nat) (result : α) : Except FilterError α :=
  if needed ≤ maxDepth then .ok result else .error (.exceeds .depth maxDepth)

theorem within_of_le {α : Type} {maxDepth needed : Nat} (h : needed ≤ maxDepth) (result : α) :
    within maxDepth needed result = .ok result := if_pos h

/-- Of two results in a row the one that needs more depth decides. -/
theorem within_bind {α β : Type} {maxDepth m n : Nat} {a : α} {b : β}
    {f : α → Except FilterError β} (h : m ≤ maxDepth → f a = within maxDepth n b) :
    (within maxDepth m a >>= f) = within maxDepth (max m n) b := by
  by_cases hm : m ≤ maxDepth
  · have hmax : max m n ≤ maxDepth ↔ n ≤ maxDepth := by omega
    rw [within_of_le hm]
    change f a = _
    rw [h hm]
    simp only [within, hmax]
  · have hmax : ¬ max m n ≤ maxDepth := by omega
    simp only [within, hm, hmax, if_false]
    rfl

/-- The lexemes lead from one place of reading to another, for which so much depth is needed. Where
the limit is less, reading them ends in that limit. -/
def Reads (maxDepth : Nat) (p : Parse) (ls : List Lexeme) (needed : Nat) (q : Parse) : Prop :=
  ls.foldlM (step maxDepth) p = within maxDepth needed q

section

variable {maxDepth m n : Nat} {p q r : Parse} {l : Lexeme} {ls ls' : List Lexeme}

theorem Reads.of_eq (h : Reads maxDepth p ls m q) (hmn : m = n) : Reads maxDepth p ls n q :=
  hmn ▸ h

theorem reads_nil (h : n ≤ maxDepth) : Reads maxDepth p [] n p := (within_of_le h p).symm

theorem Reads.cons (hstep : step maxDepth p l = within maxDepth m q)
    (h : m ≤ maxDepth → Reads maxDepth q ls n r) : Reads maxDepth p (l :: ls) (max m n) r := by
  unfold Reads
  rw [List.foldlM_cons, hstep]
  exact within_bind h

theorem Reads.append (h : Reads maxDepth p ls m q)
    (h' : m ≤ maxDepth → Reads maxDepth q ls' n r) :
    Reads maxDepth p (ls ++ ls') (max m n) r := by
  unfold Reads at *
  rw [List.foldlM_append, h]
  exact within_bind h'

end

theorem depth_eq (level : Level) (enclosing : List (Lexeme × Level)) :
    depth level enclosing = level.negations + depth .empty enclosing := by
  cases enclosing with
  | nil => simp [depth, Level.empty]
  | cons outer rest =>
    simp only [depth, Level.empty]
    omega

theorem depth_mk (disjuncts conjuncts : Option Expr) (negations : Nat)
    (enclosing : List (Lexeme × Level)) :
    depth ⟨disjuncts, conjuncts, negations⟩ enclosing = negations + depth .empty enclosing :=
  depth_eq _ enclosing

theorem depth_cons (l : Lexeme) (level : Level) (enclosing : List (Lexeme × Level)) :
    depth .empty ((l, level) :: enclosing) = depth level enclosing + 1 := by
  simp only [depth, Level.empty]
  omega

theorem descend_eq (maxDepth : Nat) (level : Level) (enclosing : List (Lexeme × Level)) :
    descend maxDepth level enclosing =
      within maxDepth (depth level enclosing) ⟨.operand level, enclosing⟩ := by
  by_cases h : depth level enclosing ≤ maxDepth
  · simp [descend, within, h, Nat.not_lt.mpr h]
  · simp [descend, within, h, Nat.lt_of_not_le h]

/-- The `not`s in front of an operand may be put on in either order. -/
theorem negate_succ (n : Nat) (e : Expr) : Level.negate (n + 1) e = Level.negate n (.not e) := by
  induction n with
  | zero => rfl
  | succ n ih => exact congrArg Expr.not ih

end Parse

namespace Grammar

open Parse

section

variable {maxDepth : Nat}

mutual

theorem Disjunction.reads {d : Disjunction} {ls : List Lexeme}
    (enclosing : List (Lexeme × Level)) (hls : ls.map Lexeme.token = d.tokens)
    (hdepth : depth .empty enclosing ≤ maxDepth) :
    ∃ disjuncts conjuncts, Level.joinOr disjuncts conjuncts = d.expr ∧
      Reads maxDepth ⟨.operand .empty, enclosing⟩ ls (depth .empty enclosing + d.nesting)
        ⟨.connective disjuncts conjuncts, enclosing⟩ := by
  match d with
  | .mk first rest =>
    obtain ⟨ls₁, ls₂, rfl, h₁, h₂⟩ := List.map_eq_append_iff.mp hls
    have hfirst := Conjunction.reads enclosing none h₁ hdepth
    obtain ⟨disjuncts, conjuncts, hexpr, hrest⟩ :=
      Disjuncts.reads enclosing none first.expr h₂ hdepth
    refine ⟨disjuncts, conjuncts, hexpr, ?_⟩
    exact (hfirst.append (fun _ => hrest)).of_eq (by simp only [Disjunction.nesting]; omega)

theorem Disjuncts.reads {ds : Disjuncts} {ls : List Lexeme}
    (enclosing : List (Lexeme × Level)) (disjuncts : Option Expr) (conjuncts : Expr)
    (hls : ls.map Lexeme.token = ds.tokens) (hdepth : depth .empty enclosing ≤ maxDepth) :
    ∃ disjuncts' conjuncts',
      Level.joinOr disjuncts' conjuncts' = ds.expr (Level.joinOr disjuncts conjuncts) ∧
      Reads maxDepth ⟨.connective disjuncts conjuncts, enclosing⟩ ls
        (depth .empty enclosing + ds.nesting)
        ⟨.connective disjuncts' conjuncts', enclosing⟩ := by
  match ds with
  | .none =>
    obtain rfl := List.map_eq_nil_iff.mp hls
    exact ⟨disjuncts, conjuncts, rfl, reads_nil hdepth⟩
  | .or next rest =>
    obtain ⟨l, ls', rfl, hl, hls'⟩ := List.map_eq_cons_iff.mp hls
    obtain ⟨ls₁, ls₂, rfl, h₁, h₂⟩ := List.map_eq_append_iff.mp hls'
    have hstep : step maxDepth ⟨.connective disjuncts conjuncts, enclosing⟩ l =
        within maxDepth (depth .empty enclosing)
          ⟨.operand ⟨some (Level.joinOr disjuncts conjuncts), none, 0⟩, enclosing⟩ := by
      simp only [step, hl, within_of_le hdepth]
    have hnext := Conjunction.reads enclosing (some (Level.joinOr disjuncts conjuncts)) h₁ hdepth
    obtain ⟨disjuncts', conjuncts', hexpr, hrest⟩ :=
      Disjuncts.reads enclosing (some (Level.joinOr disjuncts conjuncts)) next.expr h₂ hdepth
    refine ⟨disjuncts', conjuncts', hexpr, ?_⟩
    exact (Reads.cons hstep (fun _ => hnext.append (fun _ => hrest))).of_eq
      (by simp only [Disjuncts.nesting]; omega)

theorem Conjunction.reads {c : Conjunction} {ls : List Lexeme}
    (enclosing : List (Lexeme × Level)) (disjuncts : Option Expr)
    (hls : ls.map Lexeme.token = c.tokens) (hdepth : depth .empty enclosing ≤ maxDepth) :
    Reads maxDepth ⟨.operand ⟨disjuncts, none, 0⟩, enclosing⟩ ls
      (depth .empty enclosing + c.nesting) ⟨.connective disjuncts c.expr, enclosing⟩ := by
  match c with
  | .mk first rest =>
    obtain ⟨ls₁, ls₂, rfl, h₁, h₂⟩ := List.map_eq_append_iff.mp hls
    have hlevel := depth_mk disjuncts none 0 enclosing
    have hfirst := Unary.reads enclosing ⟨disjuncts, none, 0⟩ h₁ (by omega)
    have hrest := Conjuncts.reads enclosing disjuncts first.expr h₂ hdepth
    exact (hfirst.append (fun _ => hrest)).of_eq
      (by simp only [hlevel, Conjunction.nesting]; omega)

theorem Conjuncts.reads {cs : Conjuncts} {ls : List Lexeme}
    (enclosing : List (Lexeme × Level)) (disjuncts : Option Expr) (conjuncts : Expr)
    (hls : ls.map Lexeme.token = cs.tokens) (hdepth : depth .empty enclosing ≤ maxDepth) :
    Reads maxDepth ⟨.connective disjuncts conjuncts, enclosing⟩ ls
      (depth .empty enclosing + cs.nesting)
      ⟨.connective disjuncts (cs.expr conjuncts), enclosing⟩ := by
  match cs with
  | .none =>
    obtain rfl := List.map_eq_nil_iff.mp hls
    exact reads_nil hdepth
  | .and next rest =>
    obtain ⟨l, ls', rfl, hl, hls'⟩ := List.map_eq_cons_iff.mp hls
    obtain ⟨ls₁, ls₂, rfl, h₁, h₂⟩ := List.map_eq_append_iff.mp hls'
    have hlevel := depth_mk disjuncts (some conjuncts) 0 enclosing
    have hstep : step maxDepth ⟨.connective disjuncts conjuncts, enclosing⟩ l =
        within maxDepth (depth .empty enclosing)
          ⟨.operand ⟨disjuncts, some conjuncts, 0⟩, enclosing⟩ := by
      simp only [step, hl, within_of_le hdepth]
    have hnext := Unary.reads enclosing ⟨disjuncts, some conjuncts, 0⟩ h₁ (by omega)
    have hrest := Conjuncts.reads enclosing disjuncts (.and conjuncts next.expr) h₂ hdepth
    exact (Reads.cons hstep (fun _ => hnext.append (fun _ => hrest))).of_eq
      (by simp only [hlevel, Conjuncts.nesting]; omega)

theorem Unary.reads {u : Unary} {ls : List Lexeme}
    (enclosing : List (Lexeme × Level)) (level : Level)
    (hls : ls.map Lexeme.token = u.tokens) (hdepth : depth level enclosing ≤ maxDepth) :
    Reads maxDepth ⟨.operand level, enclosing⟩ ls (depth level enclosing + u.nesting)
      ⟨.connective level.disjuncts (level.conjoin u.expr), enclosing⟩ := by
  match u with
  | .not operand =>
    obtain ⟨l, ls', rfl, hl, hls'⟩ := List.map_eq_cons_iff.mp hls
    have hlevel := depth_mk level.disjuncts level.conjuncts (level.negations + 1) enclosing
    have houter := depth_eq level enclosing
    have hstep : step maxDepth ⟨.operand level, enclosing⟩ l =
        within maxDepth (depth level enclosing + 1)
          ⟨.operand ⟨level.disjuncts, level.conjuncts, level.negations + 1⟩, enclosing⟩ := by
      simp only [step, hl, descend_eq, hlevel, houter]
      congr 1
      omega
    have hoperand (hle : depth level enclosing + 1 ≤ maxDepth) := Unary.reads enclosing
      ⟨level.disjuncts, level.conjuncts, level.negations + 1⟩ hls' (by omega)
    simp only [Level.conjoin, negate_succ] at hoperand
    exact (Reads.cons hstep hoperand).of_eq (by simp only [hlevel, houter, Unary.nesting]; omega)
  | .primary operand => exact Primary.reads enclosing level hls hdepth

theorem Primary.reads {p : Primary} {ls : List Lexeme}
    (enclosing : List (Lexeme × Level)) (level : Level)
    (hls : ls.map Lexeme.token = p.tokens) (hdepth : depth level enclosing ≤ maxDepth) :
    Reads maxDepth ⟨.operand level, enclosing⟩ ls (depth level enclosing + p.nesting)
      ⟨.connective level.disjuncts (level.conjoin p.expr), enclosing⟩ := by
  match p with
  | .group inner =>
    obtain ⟨l, ls', rfl, hl, hls'⟩ := List.map_eq_cons_iff.mp hls
    obtain ⟨ls₁, ls₂, rfl, h₁, h₂⟩ := List.map_eq_append_iff.mp hls'
    obtain ⟨r, rest, rfl, hr, hrest⟩ := List.map_eq_cons_iff.mp h₂
    obtain rfl := List.map_eq_nil_iff.mp hrest
    have hlevel := depth_cons l level enclosing
    have hopen : step maxDepth ⟨.operand level, enclosing⟩ l =
        within maxDepth (depth level enclosing + 1)
          ⟨.operand .empty, (l, level) :: enclosing⟩ := by
      simp only [step, hl, descend_eq, hlevel]
    have hinner (hle : depth level enclosing + 1 ≤ maxDepth) :
        Reads maxDepth ⟨.operand .empty, (l, level) :: enclosing⟩ (ls₁ ++ [r])
          (depth level enclosing + 1 + inner.nesting)
          ⟨.connective level.disjuncts (level.conjoin inner.expr), enclosing⟩ := by
      obtain ⟨disjuncts, conjuncts, hexpr, hreads⟩ :=
        Disjunction.reads ((l, level) :: enclosing) h₁ (by omega)
      have hclose : step maxDepth ⟨.connective disjuncts conjuncts, (l, level) :: enclosing⟩ r =
          within maxDepth 0
            ⟨.connective level.disjuncts (level.conjoin inner.expr), enclosing⟩ := by
        simp only [step, hr, hexpr]
        rfl
      have hend := Reads.cons hclose (fun _ => reads_nil (Nat.zero_le maxDepth))
      exact (hreads.append (fun _ => hend)).of_eq (by omega)
    exact (Reads.cons hopen hinner).of_eq (by simp only [Primary.nesting]; omega)
  | .comparison field op literal =>
    obtain ⟨l₁, ls₁, rfl, h₁, hls₁⟩ := List.map_eq_cons_iff.mp hls
    obtain ⟨l₂, ls₂, rfl, h₂, hls₂⟩ := List.map_eq_cons_iff.mp hls₁
    obtain ⟨l₃, ls₃, rfl, h₃, hls₃⟩ := List.map_eq_cons_iff.mp hls₂
    obtain rfl := List.map_eq_nil_iff.mp hls₃
    have hliteral := (Token.literal?_eq_some_iff l₃.token literal).mpr h₃
    unfold Reads
    rw [within_of_le (by simpa [Primary.nesting] using hdepth)]
    simp only [List.foldlM_cons, List.foldlM_nil, step, h₁, h₂, hliteral]
    rfl

end

end

/-- A derivation is read to its end exactly if its nesting is within the limit. -/
theorem Disjunction.ofLexemes_eq {d : Disjunction} {ls : List Lexeme}
    (hls : ls.map Lexeme.token = d.tokens) (maxDepth length : Nat) :
    Expr.ofLexemes maxDepth length ls = within maxDepth d.nesting d.expr := by
  obtain ⟨disjuncts, conjuncts, hexpr, hreads⟩ := d.reads [] hls (Nat.zero_le maxDepth)
  have hfinish : Parse.finish length ⟨.connective disjuncts conjuncts, []⟩ =
      within maxDepth 0 d.expr := by
    rw [within_of_le (Nat.zero_le maxDepth), ← hexpr]
    rfl
  have hnesting : max (0 + d.nesting) 0 = d.nesting := by omega
  have hfold : ls.foldlM (step maxDepth) start =
      within maxDepth (0 + d.nesting) ⟨.connective disjuncts conjuncts, []⟩ := hreads
  calc Expr.ofLexemes maxDepth length ls
      = within maxDepth (0 + d.nesting) ⟨.connective disjuncts conjuncts, []⟩ >>=
          Parse.finish length := congrArg (Except.bind · (Parse.finish length)) hfold
    _ = within maxDepth (max (0 + d.nesting) 0) d.expr := within_bind (fun _ => hfinish)
    _ = within maxDepth d.nesting d.expr := by rw [hnesting]

end Grammar

end Sift
