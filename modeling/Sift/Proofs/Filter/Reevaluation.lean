import Sift.Proofs.Filter.Meaning

/-!
Evaluating an expression again in the same pass. A pass keeps every pattern that it has once kept,
and adds to them only what compiles. So an expression that has been answered has the same answer
for the rest of the pass, without another pattern being compiled, and the outcome of an expression
does not depend on what other expressions have added to the pass.
-/

namespace Sift

namespace Pass

/-- A later state of a pass keeps what an earlier one keeps, and besides it nothing but what texts
compile to. -/
structure Grows (maxSize : Nat) (pass later : Pass) : Prop where
  kept : ∀ text pattern, pass.patterns.lookup text = some pattern →
    later.patterns.lookup text = some pattern
  compiled : ∀ text pattern, later.patterns.lookup text = some pattern →
    pass.patterns.lookup text = some pattern ∨ Pattern.compile? maxSize text = some pattern

abbrev Stage (β : Type) := Pass → Except FilterError β × Pass

def Stage.andThen {β γ : Type} (first : Stage β) (second : β → Stage γ) : Stage γ := fun pass =>
  match first pass with
  | (.ok result, next) => second result next
  | (.error error, next) => (.error error, next)

/-- A stage whose outcome is the same in every later state of a pass. Once it has succeeded it does
not touch the pass any more. -/
structure Steady {β : Type} (maxSize : Nat) (stage : Stage β) : Prop where
  grows : ∀ pass : Pass, pass.Grows maxSize (stage pass).2
  outcome : ∀ {pass later : Pass}, pass.Grows maxSize later → (stage later).1 = (stage pass).1
  again : ∀ {pass next later : Pass} {result : β}, stage pass = (.ok result, next) →
    next.Grows maxSize later → stage later = (.ok result, later)

section

variable {maxSize : Nat} {pass later last : Pass}

theorem Grows.refl (pass : Pass) : pass.Grows maxSize pass where
  kept := by
    intro text pattern h
    exact h
  compiled := by
    intro text pattern h
    exact .inl h

theorem Grows.trans (h : pass.Grows maxSize later) (h' : later.Grows maxSize last) :
    pass.Grows maxSize last where
  kept := by
    intro text pattern hpass
    exact h'.kept text pattern (h.kept text pattern hpass)
  compiled := by
    intro text pattern hlast
    rcases h'.compiled text pattern hlast with hlater | hcompile
    · exact h.compiled text pattern hlater
    · exact .inr hcompile

theorem lookup_cons_eq {β : Type} (key text : String) (value : β) (entries : List (String × β)) :
    ((key, value) :: entries).lookup text =
      if text = key then some value else entries.lookup text := by
  rw [List.lookup_cons]
  by_cases heq : text = key
  · simp [heq]
  · rw [if_neg heq, beq_false_of_ne heq]

theorem grows_compile (pass : Pass) (text : String) :
    pass.Grows maxSize (pass.compile maxSize text).2 := by
  unfold compile
  cases hlookup : pass.patterns.lookup text with
  | some pattern => exact .refl pass
  | none =>
    cases hcompile : Pattern.compile? maxSize text with
    | none => exact ⟨fun _ _ h => h, fun _ _ h => .inl h⟩
    | some pattern =>
      constructor
      · intro text' pattern' hkept
        have hne : text' ≠ text := by
          rintro rfl
          rw [hlookup] at hkept
          cases hkept
        simp only [record, lookup_cons_eq, if_neg hne]
        exact hkept
      · intro text' pattern' hlater
        simp only [record, lookup_cons_eq] at hlater
        by_cases heq : text' = text
        · rw [if_pos heq] at hlater
          rw [heq, hcompile]
          exact .inr hlater
        · rw [if_neg heq] at hlater
          exact .inl hlater

/-- A pattern that a pass comes to keep is the one that it would have compiled before. -/
theorem Grows.compile_fst (h : pass.Grows maxSize later) (text : String) :
    (later.compile maxSize text).1 = (pass.compile maxSize text).1 := by
  cases hpass : pass.patterns.lookup text with
  | some pattern => simp only [compile, hpass, h.kept text pattern hpass]
  | none =>
    cases hlater : later.patterns.lookup text with
    | none =>
      simp only [compile, hpass, hlater]
      cases Pattern.compile? maxSize text <;> rfl
    | some pattern =>
      have hcompile : Pattern.compile? maxSize text = some pattern := by
        rcases h.compiled text pattern hlater with hkept | hcompile
        · rw [hpass] at hkept
          cases hkept
        · exact hcompile
      simp only [compile, hpass, hlater, hcompile]

/-- A pattern that has been compiled is kept. -/
theorem lookup_of_compile {text : String} {pattern : Pattern} {next : Pass}
    (h : pass.compile maxSize text = (.ok pattern, next)) :
    next.patterns.lookup text = some pattern := by
  unfold compile at h
  cases hlookup : pass.patterns.lookup text with
  | some pattern =>
    rw [hlookup] at h
    cases h
    exact hlookup
  | none =>
    rw [hlookup] at h
    cases hcompile : Pattern.compile? maxSize text with
    | none =>
      rw [hcompile] at h
      cases h
    | some pattern =>
      rw [hcompile] at h
      cases h
      exact List.lookup_cons_self

end

namespace Steady

variable {maxSize : Nat}

theorem const {β : Type} (result : Except FilterError β) :
    Steady maxSize (fun pass => (result, pass)) where
  grows := .refl
  outcome := by
    intro pass later _
    rfl
  again := by
    intro pass next later answer h _
    cases h
    rfl

theorem of_eq {β : Type} {stage stage' : Stage β} (h : Steady maxSize stage')
    (heq : ∀ pass, stage pass = stage' pass) : Steady maxSize stage := by
  rw [funext heq]
  exact h

theorem compile (text : String) : Steady maxSize (Pass.compile maxSize text) where
  grows pass := pass.grows_compile text
  outcome h := h.compile_fst text
  again := by
    intro pass next later pattern h hlater
    have hkept := hlater.kept text pattern (lookup_of_compile h)
    simp only [Pass.compile, hkept]

theorem andThen {β γ : Type} {first : Stage β} {second : β → Stage γ}
    (hfirst : Steady maxSize first) (hsecond : ∀ result, Steady maxSize (second result)) :
    Steady maxSize (first.andThen second) where
  grows := by
    intro pass
    have hnext := hfirst.grows pass
    unfold Stage.andThen
    rcases hfrom : first pass with ⟨error | result, next⟩
    · rw [hfrom] at hnext
      exact hnext
    · rw [hfrom] at hnext
      exact hnext.trans ((hsecond result).grows next)
  outcome := by
    intro pass later h
    have hpass := hfirst.grows pass
    have hlater := hfirst.grows later
    have hsame := hfirst.outcome h
    unfold Stage.andThen
    rcases hfrom : first pass with ⟨outcome, next⟩
    rcases hafter : first later with ⟨outcome', next'⟩
    rw [hfrom] at hpass hsame
    rw [hafter] at hlater hsame
    obtain rfl : outcome' = outcome := hsame
    cases outcome' with
    | error error => rfl
    | ok result =>
      -- Both are what the second stage gives in the state in front of the first one.
      calc (second result next').1 = (second result pass).1 :=
            (hsecond result).outcome (h.trans hlater)
        _ = (second result next).1 := ((hsecond result).outcome hpass).symm
  again := by
    intro pass last later answer h hlater
    unfold Stage.andThen at h ⊢
    rcases hfrom : first pass with ⟨error | result, next⟩
    · rw [hfrom] at h
      cases h
    · simp only [hfrom] at h
      have hlast : next.Grows maxSize last := by
        have hgrows := (hsecond result).grows next
        rwa [h] at hgrows
      rw [hfirst.again hfrom (hlast.trans hlater)]
      exact (hsecond result).again h hlater

theorem compileFor (op : Operator) (literal : Literal) :
    Steady maxSize (Pass.compileFor maxSize op literal) := by
  unfold Pass.compileFor
  cases op.takesPattern with
  | false => exact const _
  | true =>
    cases literal with
    | text text =>
      have hsome (pattern : Pattern) :
          Steady maxSize (fun pass => (.ok (some pattern), pass)) := const _
      apply ((compile text).andThen hsome).of_eq
      intro pass
      simp only [Stage.andThen]
      rcases pass.compile maxSize text with ⟨error | pattern, next⟩ <;> rfl
    | number number | bool value | null => exact const _

end Steady

end Pass

section

variable {α : Type} (schema : Schema α) (maxSize : Nat) (item : α)

theorem steady_evaluateComparison (field : String) (op : Operator) (literal : Literal) :
    Pass.Steady maxSize (evaluateComparison schema maxSize item field op literal) := by
  unfold evaluateComparison
  cases schema.resolve field with
  | none => exact .const _
  | some f =>
    simp only
    cases f.type.check op literal.kind with
    | error fault => exact .const _
    | ok _ =>
      have hread (pattern : Option Pattern) : Pass.Steady maxSize (fun pass =>
          (((f.read item).satisfies f.type op literal pattern).mapError
            (.mismatch field), pass)) := .const _
      apply ((Pass.Steady.compileFor op literal).andThen hread).of_eq
      intro pass
      unfold Pass.Stage.andThen
      rcases pass.compileFor maxSize op literal with ⟨error | pattern, next⟩ <;> rfl

/-- The outcome of an expression is the same in every later state of a pass, and once the expression
has been answered, answering it again compiles nothing. -/
theorem Expr.steady_evaluate (e : Expr) :
    Pass.Steady maxSize (e.evaluate schema maxSize item) := by
  induction e with
  | comparison field op literal =>
    exact steady_evaluateComparison schema maxSize item field op literal
  | and left right ihl ihr =>
    have hright (answer : Bool) : Pass.Steady maxSize (fun pass =>
        if answer then right.evaluate schema maxSize item pass else (.ok false, pass)) := by
      cases answer with
      | true => exact ihr
      | false => exact .const _
    apply (ihl.andThen hright).of_eq
    intro pass
    unfold Pass.Stage.andThen
    rw [evaluate]
    rcases left.evaluate schema maxSize item pass with ⟨error | answer, next⟩
    · rfl
    · cases answer <;> rfl
  | or left right ihl ihr =>
    have hright (answer : Bool) : Pass.Steady maxSize (fun pass =>
        if answer then (.ok true, pass) else right.evaluate schema maxSize item pass) := by
      cases answer with
      | true => exact .const _
      | false => exact ihr
    apply (ihl.andThen hright).of_eq
    intro pass
    unfold Pass.Stage.andThen
    rw [evaluate]
    rcases left.evaluate schema maxSize item pass with ⟨error | answer, next⟩
    · rfl
    · cases answer <;> rfl
  | not operand ih =>
    have hnegated (answer : Bool) : Pass.Steady maxSize (fun pass => (.ok !answer, pass)) :=
      .const _
    apply (ih.andThen hnegated).of_eq
    intro pass
    unfold Pass.Stage.andThen
    rw [evaluate]
    rcases operand.evaluate schema maxSize item pass with ⟨error | answer, next⟩ <;> rfl

end

end Sift
