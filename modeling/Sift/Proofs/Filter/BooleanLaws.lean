import Sift.Proofs.Filter.Reevaluation
import Sift.Proofs.Filter.Selection

/-!
The laws of Boolean algebra that evaluation obeys as it is, errors and skipped operands included.
The two sides of such a law have the same outcome in every pass and leave the same pass behind,
wherever they stand in a larger expression. The order of the operands matters for the errors alone.
-/

namespace Sift

namespace Expr

/-- The laws, from the side that is replaced to the side that replaces it. -/
inductive Law : Expr → Expr → Prop where
  | not_and (a b : Expr) : Law (.not (.and a b)) (.or (.not a) (.not b))
  | not_or (a b : Expr) : Law (.not (.or a b)) (.and (.not a) (.not b))
  | not_not (a : Expr) : Law (.not (.not a)) a
  | and_assoc (a b c : Expr) : Law (.and (.and a b) c) (.and a (.and b c))
  | or_assoc (a b c : Expr) : Law (.or (.or a b) c) (.or a (.or b c))
  | and_self (a : Expr) : Law (.and a a) a
  | or_self (a : Expr) : Law (.or a a) a
  | or_and_self (a b : Expr) : Law (.or a (.and a b)) a
  | and_or_self (a b : Expr) : Law (.and a (.or a b)) a
  | and_or (a b c : Expr) : Law (.and a (.or b c)) (.or (.and a b) (.and a c))
  | or_and (a b c : Expr) : Law (.or a (.and b c)) (.and (.or a b) (.or a c))

inductive Context where
  | hole
  | andLeft (context : Context) (right : Expr)
  | andRight (left : Expr) (context : Context)
  | orLeft (context : Context) (right : Expr)
  | orRight (left : Expr) (context : Context)
  | not (context : Context)

def Context.fill (e : Expr) : Context → Expr
  | .hole => e
  | .andLeft context right => .and (context.fill e) right
  | .andRight left context => .and left (context.fill e)
  | .orLeft context right => .or (context.fill e) right
  | .orRight left context => .or left (context.fill e)
  | .not context => .not (context.fill e)

end Expr

def compiledPatterns (events : List Event) : List String :=
  events.filterMap fun
    | .compile pattern => some pattern
    | .failed _ _ => none

section

variable {α : Type} (schema : Schema α) (maxSize : Nat) (item : α)

/-- An expression fails, or it is answered. If it is answered, evaluating it again, at once or
later, gives the same answer and leaves the pass alone. -/
theorem Expr.evaluate_cases (e : Expr) (pass : Pass) :
    (∃ error next, e.evaluate schema maxSize item pass = (.error error, next)) ∨
    ∃ answer next, e.evaluate schema maxSize item pass = (.ok answer, next) ∧
      pass.Grows maxSize next ∧ ∀ later : Pass, next.Grows maxSize later →
        e.evaluate schema maxSize item later = (.ok answer, later) := by
  have hsteady := e.steady_evaluate schema maxSize item
  have hgrows := hsteady.grows pass
  rcases hevaluate : e.evaluate schema maxSize item pass with ⟨error | answer, next⟩
  · exact .inl ⟨error, next, rfl⟩
  · rw [hevaluate] at hgrows
    refine .inr ⟨answer, next, rfl, hgrows, ?_⟩
    intro later hlater
    exact hsteady.again hevaluate hlater

/-- The two sides of a law have the same outcome and leave the same pass behind. -/
theorem Expr.Law.evaluate_eq {e e' : Expr} (h : e.Law e') (pass : Pass) :
    e.evaluate schema maxSize item pass = e'.evaluate schema maxSize item pass := by
  cases h with
  | not_and a b | not_or a b =>
    simp only [evaluate]
    rcases a.evaluate schema maxSize item pass with ⟨error | _ | _, next⟩ <;> rfl
  | not_not =>
    simp only [evaluate]
    rcases e'.evaluate schema maxSize item pass with ⟨error | _ | _, next⟩ <;> rfl
  | and_assoc a b c | or_assoc a b c =>
    simp only [evaluate]
    rcases a.evaluate schema maxSize item pass with ⟨error | _ | _, next⟩ <;> rfl
  | and_self =>
    rcases e'.evaluate_cases schema maxSize item pass with
      ⟨error, next, ha⟩ | ⟨answer, next, ha, -, hagain⟩
    · simp only [evaluate, ha]
    · cases answer with
      | true => simp only [evaluate, ha, hagain next (.refl next)]
      | false => simp only [evaluate, ha]
  | or_self =>
    rcases e'.evaluate_cases schema maxSize item pass with
      ⟨error, next, ha⟩ | ⟨answer, next, ha, -, hagain⟩
    · simp only [evaluate, ha]
    · cases answer with
      | true => simp only [evaluate, ha]
      | false => simp only [evaluate, ha, hagain next (.refl next)]
  | or_and_self _ b =>
    rcases e'.evaluate_cases schema maxSize item pass with
      ⟨error, next, ha⟩ | ⟨answer, next, ha, -, hagain⟩
    · simp only [evaluate, ha]
    · cases answer with
      | true => simp only [evaluate, ha]
      | false => simp only [evaluate, ha, hagain next (.refl next)]
  | and_or_self _ b =>
    rcases e'.evaluate_cases schema maxSize item pass with
      ⟨error, next, ha⟩ | ⟨answer, next, ha, -, hagain⟩
    · simp only [evaluate, ha]
    · cases answer with
      | true => simp only [evaluate, ha, hagain next (.refl next)]
      | false => simp only [evaluate, ha]
  | and_or a b c =>
    rcases a.evaluate_cases schema maxSize item pass with
      ⟨error, next, ha⟩ | ⟨answer, next, ha, -, hagain⟩
    · simp only [evaluate, ha]
    · cases answer with
      | false => simp only [evaluate, ha, hagain next (.refl next)]
      | true =>
        -- If `b` does not hold, `a` is evaluated again behind it.
        rcases b.evaluate_cases schema maxSize item next with
          ⟨error, after, hb⟩ | ⟨answer, after, hb, hgrows, -⟩
        · simp only [evaluate, ha, hb]
        · cases answer with
          | true => simp only [evaluate, ha, hb]
          | false => simp only [evaluate, ha, hb, hagain after hgrows]
  | or_and a b c =>
    rcases a.evaluate_cases schema maxSize item pass with
      ⟨error, next, ha⟩ | ⟨answer, next, ha, -, hagain⟩
    · simp only [evaluate, ha]
    · cases answer with
      | true => simp only [evaluate, ha, hagain next (.refl next)]
      | false =>
        rcases b.evaluate_cases schema maxSize item next with
          ⟨error, after, hb⟩ | ⟨answer, after, hb, hgrows, -⟩
        · simp only [evaluate, ha, hb]
        · cases answer with
          | true => simp only [evaluate, ha, hb, hagain after hgrows]
          | false => simp only [evaluate, ha, hb]

/-- What is true of two expressions in every pass is true of what they stand in. -/
theorem Expr.Context.evaluate_fill_congr {e e' : Expr} (context : Context)
    (h : ∀ pass, e.evaluate schema maxSize item pass = e'.evaluate schema maxSize item pass)
    (pass : Pass) :
    (context.fill e).evaluate schema maxSize item pass =
      (context.fill e').evaluate schema maxSize item pass := by
  induction context generalizing pass with
  | hole => exact h pass
  | andLeft context right ih => simp only [fill, evaluate, ih]
  | andRight left context ih => simp only [fill, evaluate, ih]
  | orLeft context right ih => simp only [fill, evaluate, ih]
  | orRight left context ih => simp only [fill, evaluate, ih]
  | not context ih => simp only [fill, evaluate, ih]

theorem Expr.evaluate_and_fst (a b : Expr) (pass : Pass) :
    ((Expr.and a b).evaluate schema maxSize item pass).1 =
      (a.evaluate schema maxSize item pass).1.bind (fun answer =>
        if answer then (b.evaluate schema maxSize item pass).1 else .ok false) := by
  have hgrows := (a.steady_evaluate schema maxSize item).grows pass
  rcases ha : a.evaluate schema maxSize item pass with ⟨error | _ | _, next⟩
  · simp only [evaluate, ha, Except.bind]
  · simp [evaluate, ha, Except.bind]
  · rw [ha] at hgrows
    have hb := (b.steady_evaluate schema maxSize item).outcome hgrows
    simp [evaluate, ha, hb, Except.bind]

theorem Expr.evaluate_or_fst (a b : Expr) (pass : Pass) :
    ((Expr.or a b).evaluate schema maxSize item pass).1 =
      (a.evaluate schema maxSize item pass).1.bind (fun answer =>
        if answer then .ok true else (b.evaluate schema maxSize item pass).1) := by
  have hgrows := (a.steady_evaluate schema maxSize item).grows pass
  rcases ha : a.evaluate schema maxSize item pass with ⟨error | _ | _, next⟩
  · simp only [evaluate, ha, Except.bind]
  · rw [ha] at hgrows
    have hb := (b.steady_evaluate schema maxSize item).outcome hgrows
    simp [evaluate, ha, hb, Except.bind]
  · simp [evaluate, ha, Except.bind]

theorem Expr.and_comm_of_ok {a b : Expr} {pass : Pass} {answer answer' : Bool}
    (h : ((Expr.and a b).evaluate schema maxSize item pass).1 = .ok answer)
    (h' : ((Expr.and b a).evaluate schema maxSize item pass).1 = .ok answer') :
    answer = answer' := by
  rw [evaluate_and_fst] at h h'
  rcases ha : (a.evaluate schema maxSize item pass).1 with error | _ | _ <;>
    rcases hb : (b.evaluate schema maxSize item pass).1 with error' | _ | _ <;>
      simp_all [Except.bind]

theorem Expr.or_comm_of_ok {a b : Expr} {pass : Pass} {answer answer' : Bool}
    (h : ((Expr.or a b).evaluate schema maxSize item pass).1 = .ok answer)
    (h' : ((Expr.or b a).evaluate schema maxSize item pass).1 = .ok answer') :
    answer = answer' := by
  rw [evaluate_or_fst] at h h'
  rcases ha : (a.evaluate schema maxSize item pass).1 with error | _ | _ <;>
    rcases hb : (b.evaluate schema maxSize item pass).1 with error' | _ | _ <;>
      simp_all [Except.bind]

variable {schema maxSize} {e e' : Expr}

theorem compiledPatterns_record_failed (pass : Pass) (e : Expr) (error : FilterError) :
    compiledPatterns (pass.record (.failed e error)).events = compiledPatterns pass.events := by
  simp [compiledPatterns, Pass.record]

theorem Expr.run_congr {pass : Pass}
    (h : e.evaluate schema maxSize item pass = e'.evaluate schema maxSize item pass) :
    (∃ answer next, e.run schema maxSize item pass = (.ok answer, next) ∧
      e'.run schema maxSize item pass = (.ok answer, next)) ∨
    ∃ (error : FilterError) (next : Pass),
      e.run schema maxSize item pass = (.error error, next.record (.failed e error)) ∧
      e'.run schema maxSize item pass = (.error error, next.record (.failed e' error)) := by
  unfold run
  rw [h]
  rcases e'.evaluate schema maxSize item pass with ⟨error | answer, next⟩
  · exact .inr ⟨error, next, rfl, rfl⟩
  · exact .inl ⟨answer, next, rfl, rfl⟩

theorem Expr.select_congr
    (h : ∀ item pass, e.evaluate schema maxSize item pass = e'.evaluate schema maxSize item pass)
    (items : List α) (pass : Pass) :
    (e.select schema maxSize items pass).1 = (e'.select schema maxSize items pass).1 ∧
    compiledPatterns (e.select schema maxSize items pass).2.events =
      compiledPatterns (e'.select schema maxSize items pass).2.events := by
  induction items generalizing pass with
  | nil => exact ⟨rfl, rfl⟩
  | cons item items ih =>
    rcases run_congr item (h item pass) with
      ⟨answer, next, hrun, hrun'⟩ | ⟨error, next, hrun, hrun'⟩
    · obtain ⟨hkept, hcompiled⟩ := ih next
      simp only [select, hrun, hrun']
      rcases hselect : e.select schema maxSize items next with ⟨kept, last⟩
      rcases hselect' : e'.select schema maxSize items next with ⟨kept', last'⟩
      rw [hselect, hselect'] at hkept hcompiled
      obtain rfl : kept = kept' := hkept
      cases kept with
      | error error => exact ⟨rfl, hcompiled⟩
      | ok kept => exact ⟨rfl, hcompiled⟩
    · simp only [select, hrun, hrun', compiledPatterns_record_failed, and_self]

theorem Filter.matchesItem_congr
    (h : e.evaluate schema maxSize item .start = e'.evaluate schema maxSize item .start) :
    ((Filter.expr e).matchesItem schema maxSize item).1 =
      ((Filter.expr e').matchesItem schema maxSize item).1 ∧
    compiledPatterns ((Filter.expr e).matchesItem schema maxSize item).2 =
      compiledPatterns ((Filter.expr e').matchesItem schema maxSize item).2 := by
  unfold matchesItem
  rcases Expr.run_congr item h with ⟨answer, next, hrun, hrun'⟩ | ⟨error, next, hrun, hrun'⟩
  · simp only [hrun, hrun', and_self]
  · simp only [hrun, hrun', compiledPatterns_record_failed, and_self]

end

/-- Wherever one side of a law stands in a filter, the other may stand: the answer or the error is
the same, and the same patterns are compiled in the same order, for one item in any pass as for all
the items of a selection. The operands of `and` and of `or` may change places as far as neither
order ends in an error. -/
theorem Filter.boolean_laws {α : Type} (schema : Schema α) (maxSize : Nat) :
    (∀ e e' : Expr, e.Law e' → ∀ context : Expr.Context,
      (∀ item pass, (context.fill e).evaluate schema maxSize item pass =
        (context.fill e').evaluate schema maxSize item pass) ∧
      (∀ item,
        ((Filter.expr (context.fill e)).matchesItem schema maxSize item).1 =
          ((Filter.expr (context.fill e')).matchesItem schema maxSize item).1 ∧
        compiledPatterns ((Filter.expr (context.fill e)).matchesItem schema maxSize item).2 =
          compiledPatterns ((Filter.expr (context.fill e')).matchesItem schema maxSize item).2) ∧
      ∀ items,
        ((Filter.expr (context.fill e)).select schema maxSize items).1 =
          ((Filter.expr (context.fill e')).select schema maxSize items).1 ∧
        compiledPatterns ((Filter.expr (context.fill e)).select schema maxSize items).2 =
          compiledPatterns ((Filter.expr (context.fill e')).select schema maxSize items).2) ∧
    ∀ (a b : Expr) (item : α) (pass : Pass) (answer answer' : Bool),
      (((Expr.and a b).evaluate schema maxSize item pass).1 = .ok answer →
        ((Expr.and b a).evaluate schema maxSize item pass).1 = .ok answer' → answer = answer') ∧
      (((Expr.or a b).evaluate schema maxSize item pass).1 = .ok answer →
        ((Expr.or b a).evaluate schema maxSize item pass).1 = .ok answer' → answer = answer') := by
  constructor
  · intro e e' hlaw context
    have hevaluate (item : α) (pass : Pass) :
        (context.fill e).evaluate schema maxSize item pass =
          (context.fill e').evaluate schema maxSize item pass := by
      apply context.evaluate_fill_congr
      exact hlaw.evaluate_eq schema maxSize item
    refine ⟨hevaluate, ?_, ?_⟩
    · intro item
      exact matchesItem_congr item (hevaluate item .start)
    · intro items
      exact Expr.select_congr hevaluate items .start
  · intro a b item pass answer answer'
    constructor
    · intro h h'
      exact Expr.and_comm_of_ok schema maxSize item h h'
    · intro h h'
      exact Expr.or_comm_of_ok schema maxSize item h h'

/-- There is no field `size`, and it is not looked at, because the name settles the answer. The
pattern is compiled once, however often the comparison is written. -/
theorem Filter.boolean_laws_names :
    (((Filter.expr (.not (.or (.comparison "name" .matching (.text "b"))
        (.and (.comparison "name" .matching (.text "b"))
          (.comparison "size" .eq .null))))).matchesItem Schema.ofName 1000 "ab").1 = .ok false ∧
    compiledPatterns ((Filter.expr (.not (.or (.comparison "name" .matching (.text "b"))
        (.and (.comparison "name" .matching (.text "b"))
          (.comparison "size" .eq .null))))).matchesItem Schema.ofName 1000 "ab").2 = ["b"]) ∧
    ∃ answer,
      ((Expr.or (.comparison "name" .matching (.text "b"))
        (.comparison "name" .eq (.text "a"))).evaluate Schema.ofName 1000 "ab" .start).1 =
          .ok answer ∧
      ((Expr.or (.comparison "name" .eq (.text "a"))
        (.comparison "name" .matching (.text "b"))).evaluate Schema.ofName 1000 "ab" .start).1 =
          .ok answer := by
  constructor
  · have hlaw := (Filter.boolean_laws Schema.ofName 1000).1 _ _ (.or_and_self
      (.comparison "name" .matching (.text "b")) (.comparison "size" .eq .null)) (.not .hole)
    obtain ⟨hanswer, hcompiled⟩ := hlaw.2.1 "ab"
    exact ⟨hanswer.trans rfl, hcompiled.trans rfl⟩
  · have h : ((Expr.or (.comparison "name" .matching (.text "b"))
        (.comparison "name" .eq (.text "a"))).evaluate Schema.ofName 1000 "ab" .start).1 =
          .ok true := rfl
    obtain ⟨answer, h'⟩ : ∃ answer, ((Expr.or (.comparison "name" .eq (.text "a"))
        (.comparison "name" .matching (.text "b"))).evaluate Schema.ofName 1000 "ab" .start).1 =
          .ok answer := ⟨_, rfl⟩
    have hsame := ((Filter.boolean_laws Schema.ofName 1000).2 _ _ _ _ _ _).2 h h'
    rw [← hsame] at h'
    exact ⟨true, h, h'⟩

end Sift
