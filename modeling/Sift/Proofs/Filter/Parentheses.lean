import Mathlib.Data.List.Infix
import Sift.Proofs.Filter.Viability

/-!
Which parentheses of a text are open. The parentheses around the place where the reader stands are
those that nothing behind them closes, and the innermost is the last of these.
-/

namespace Sift

namespace Grammar

open Parse

/-- None of the tokens closes a parenthesis that is opened in front of them: as far as one reads
them, there are no more closing parentheses than opening ones. -/
def ClosesNone (ts : List Token) : Prop :=
  ∀ before, before <+: ts → before.count .rparen ≤ before.count .lparen

structure Balanced (ts : List Token) : Prop where
  closesNone : ClosesNone ts
  count_eq : ts.count .lparen = ts.count .rparen

/-- The lexeme is the last opening parenthesis that nothing behind it closes. -/
def LastOpen (l : Lexeme) (ls : List Lexeme) : Prop :=
  ∃ before after, ls = before ++ l :: after ∧ l.token = .lparen ∧
    ClosesNone (after.map Lexeme.token) ∧
    ∀ inner outer, after.map Lexeme.token = inner ++ .lparen :: outer → ¬ ClosesNone outer

theorem balanced_nil : Balanced [] where
  closesNone := by
    intro before hprefix
    rw [List.prefix_nil.mp hprefix]
    exact Nat.le_refl 0
  count_eq := rfl

/-- A beginning of two texts in a row ends in the first one or in the second. -/
theorem prefix_append_cases {before ts ts' : List Token} (h : before <+: ts ++ ts') :
    before <+: ts ∨ ∃ more, before = ts ++ more ∧ more <+: ts' := by
  rcases List.prefix_or_prefix_of_prefix h (List.prefix_append ts ts') with hshort | ⟨more, rfl⟩
  · exact .inl hshort
  · exact .inr ⟨more, rfl, (List.prefix_append_right_inj ts).mp h⟩

namespace Balanced

variable {ts ts' : List Token}

theorem append (h : Balanced ts) (h' : Balanced ts') : Balanced (ts ++ ts') where
  closesNone := by
    intro before hprefix
    rcases prefix_append_cases hprefix with hshort | ⟨more, rfl, hmore⟩
    · exact h.closesNone before hshort
    · have hsecond := h'.closesNone more hmore
      have hfirst := h.count_eq
      simp only [List.count_append]
      omega
  count_eq := by
    have hfirst := h.count_eq
    have hsecond := h'.count_eq
    simp only [List.count_append]
    omega

theorem single {t : Token} (hopen : t ≠ .lparen) (hclose : t ≠ .rparen) : Balanced [t] where
  closesNone := by
    intro before hprefix
    have hnone : before.count .rparen = 0 := by
      apply List.count_eq_zero_of_not_mem
      intro hmem
      exact hclose (List.mem_singleton.mp (List.IsPrefix.subset hprefix hmem)).symm
    omega
  count_eq := by
    rw [List.count_singleton, List.count_singleton]
    simp [hopen, hclose]

theorem group (h : Balanced ts) : Balanced (.lparen :: (ts ++ [.rparen])) where
  closesNone := by
    intro before hprefix
    rcases List.prefix_cons_iff.mp hprefix with rfl | ⟨before, rfl, hinner⟩
    · exact Nat.le_refl 0
    · have hcount : before.count .rparen ≤ before.count .lparen + 1 := by
        rcases prefix_append_cases hinner with hshort | ⟨more, rfl, hmore⟩
        · have hle := h.closesNone before hshort
          omega
        · have hle := hmore.sublist.count_le .rparen
          have heq := h.count_eq
          simp only [List.count_append, List.count_singleton_self] at hle ⊢
          omega
      simpa using hcount
  count_eq := by
    have heq := h.count_eq
    simp [heq]

/-- Among matching parentheses every opening one is closed. -/
theorem not_closesNone {before after : List Token} (h : Balanced (before ++ .lparen :: after)) :
    ¬ ClosesNone after := by
  intro hafter
  have hbefore := h.closesNone before (List.prefix_append before _)
  have hrest := hafter after List.prefix_rfl
  have heq := h.count_eq
  simp only [List.count_append, List.count_cons_self, List.count_cons_of_ne, ne_eq, reduceCtorEq,
    not_false_eq_true] at heq
  omega

end Balanced

/-- The parentheses around a place are opened by the lexemes in front of it, each behind the one
around it, and all others among these lexemes match. -/
def Encloses : List (Lexeme × Level) → List Lexeme → Prop
  | [], ls => Balanced (ls.map Lexeme.token)
  | (l, _) :: enclosing, ls => ∃ before after, ls = before ++ l :: after ∧ l.token = .lparen ∧
      Balanced (after.map Lexeme.token) ∧ Encloses enclosing before

namespace Encloses

variable {enclosing : List (Lexeme × Level)} {ls ls' : List Lexeme}

theorem append (h : Encloses enclosing ls) (hbalanced : Balanced (ls'.map Lexeme.token)) :
    Encloses enclosing (ls ++ ls') := by
  cases enclosing with
  | nil =>
    have hboth := Balanced.append h hbalanced
    rw [← List.map_append] at hboth
    exact hboth
  | cons opening enclosing =>
    obtain ⟨before, after, rfl, hopen, hafter, houter⟩ := h
    have hboth := hafter.append hbalanced
    rw [← List.map_append] at hboth
    exact ⟨before, after ++ ls', by simp, hopen, hboth, houter⟩

/-- A step opens or closes a parenthesis just as its token does. -/
theorem step {maxDepth : Nat} {p q : Parse} {l : Lexeme} (h : Transition maxDepth p l q)
    (hp : Encloses p.enclosing ls) : Encloses q.enclosing (ls ++ [l]) := by
  have hneutral (hopen : l.token ≠ .lparen) (hclose : l.token ≠ .rparen) :
      Encloses p.enclosing (ls ++ [l]) := hp.append (.single hopen hclose)
  cases h with
  | lparen htoken => exact ⟨ls, [], rfl, htoken, balanced_nil, hp⟩
  | rparen htoken =>
    obtain ⟨before, after, rfl, hopen, hafter, houter⟩ := hp
    have hgroup := hafter.group
    rw [← hopen, ← htoken] at hgroup
    rw [← List.map_singleton, ← List.map_append, ← List.map_cons] at hgroup
    simpa using houter.append hgroup
  | not htoken => exact hneutral (by simp [htoken]) (by simp [htoken])
  | name htoken => exact hneutral (by simp [htoken]) (by simp [htoken])
  | operator htoken => exact hneutral (by simp [htoken]) (by simp [htoken])
  | @literal _ _ _ _ _ literal htoken =>
    exact hneutral (by cases literal <;> simp [htoken, Literal.token])
      (by cases literal <;> simp [htoken, Literal.token])
  | and htoken => exact hneutral (by simp [htoken]) (by simp [htoken])
  | or htoken => exact hneutral (by simp [htoken]) (by simp [htoken])

theorem foldlM {maxDepth : Nat} {p q : Parse} (hp : Encloses p.enclosing ls)
    (h : ls'.foldlM (Parse.step maxDepth) p = .ok q) : Encloses q.enclosing (ls ++ ls') := by
  induction ls' generalizing p ls with
  | nil =>
    cases h
    simpa using hp
  | cons l ls' ih =>
    rw [List.foldlM_cons, bind_eq_ok_iff] at h
    obtain ⟨p', hstep, hrest⟩ := h
    have hnext := hp.step (transition_of_step hstep)
    simpa using ih hnext hrest

/-- The innermost parenthesis around a place is the last one that is still open. -/
theorem lastOpen {l : Lexeme} {level : Level} (h : Encloses ((l, level) :: enclosing) ls) :
    LastOpen l ls := by
  obtain ⟨before, after, rfl, hopen, hafter, -⟩ := h
  refine ⟨before, after, rfl, hopen, hafter.closesNone, ?_⟩
  intro inner outer hsplit
  rw [hsplit] at hafter
  exact hafter.not_closesNone

end Encloses

/-- The parentheses around the reader are those that its tokens have left open. -/
theorem encloses_of_reaches {ls : List Lexeme} {q : Parse} (h : Reaches Parse.start ls q) :
    Encloses q.enclosing ls := by
  obtain ⟨maxDepth, hfold⟩ := h
  have hstart : Encloses Parse.start.enclosing [] := balanced_nil
  simpa using hstart.foldlM hfold

end Grammar

end Sift
