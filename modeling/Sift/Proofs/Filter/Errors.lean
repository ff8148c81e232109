import Sift.Proofs.Filter.Selection

/-!
Where the errors of an evaluation come from. Whether a comparison fails, and how, is settled before
an item is looked at, because a field only has values of its type. Every error of a filter is such
an error of one of its comparisons.
-/

namespace Sift

theorem Value.HasType.isNullable {type : SemanticType} (h : Value.null.HasType type) :
    type.isNullable = true := by
  cases type with
  | scalar type =>
    obtain ⟨carried, hcarried⟩ := h
    cases type <;> cases hcarried
  | boxed type => rfl
  | message => rfl

/-- Nothing is wrong with a comparison: there is a field of the name, its type admits the operator
and the literal, and the pattern compiles where there is one. -/
def Schema.Accepts {α : Type} (schema : Schema α) (maxSize : Nat) (field : String) (op : Operator)
    (literal : Literal) : Prop :=
  ∃ f, schema.resolve field = some f ∧ f.type.admits op literal.kind = true ∧
    ∀ text, literal = .text text → op.takesPattern = true →
      ∃ pattern, Pattern.compile? maxSize text = some pattern

section

variable {α : Type} {schema : Schema α} {maxSize : Nat}

theorem Literal.exists_patternFor {literal : Literal} {op : Operator}
    (h : ∀ text, literal = .text text → op.takesPattern = true →
      ∃ pattern, Pattern.compile? maxSize text = some pattern) :
    ∃ pattern, literal.patternFor maxSize op = .ok pattern := by
  cases literal with
  | text source =>
    by_cases htakes : op.takesPattern = true
    · obtain ⟨pattern, hpattern⟩ := h source rfl htakes
      exact ⟨some pattern, by simp [Literal.patternFor, htakes, hpattern]⟩
    · exact ⟨none, by simp [Literal.patternFor, htakes]⟩
  | number number => exact ⟨none, rfl⟩
  | bool expected => exact ⟨none, rfl⟩
  | null => exact ⟨none, rfl⟩

theorem Schema.Accepts.exists_comparand {field : String} {op : Operator} {literal : Literal}
    (h : schema.Accepts maxSize field op literal) :
    ∃ f, schema.comparand maxSize field op literal = .ok f := by
  obtain ⟨f, hresolve, hadmits, hpattern⟩ := h
  have hcheck := (f.type.check_eq_ok_iff op literal.kind).mpr hadmits
  obtain ⟨pattern, hcompiled⟩ := Literal.exists_patternFor hpattern
  refine ⟨f, ?_⟩
  simp only [Schema.comparand, hresolve, hcheck, hcompiled]
  rfl

/-- What is wrong with a comparison is never that a value was misread. -/
theorem Schema.comparand_ne_misread (field : String) (op : Operator) (literal : Literal)
    (name : String) (type : SemanticType) (value : Value) :
    schema.comparand maxSize field op literal ≠ .error (.mismatch name (.misread type value)) := by
  unfold Schema.comparand
  cases schema.resolve field with
  | none => simp
  | some f =>
    simp only [SemanticType.check]
    by_cases hadmits : f.type.admits op literal.kind = true
    · rw [if_pos hadmits]
      simp only [Literal.patternFor]
      split
      · split
        · rename_i source htakes
          cases Pattern.compile? maxSize source <;> simp [Except.map]
        · simp [Except.map]
      · simp [Except.map]
    · rw [if_neg hadmits]
      simp

theorem Expr.meaning_comparison_of_error {field : String} {op : Operator} {literal : Literal}
    {error : FilterError} (h : schema.comparand maxSize field op literal = .error error)
    (item : α) : (Expr.comparison field op literal).meaning schema maxSize item = .error error := by
  rw [Expr.meaning, h]
  rfl

theorem Expr.exists_meaning_comparison {field : String} {op : Operator} {literal : Literal}
    {f : Field α} (h : schema.comparand maxSize field op literal = .ok f) (item : α) :
    ∃ answer, (Expr.comparison field op literal).meaning schema maxSize item = .ok answer := by
  rw [Expr.meaning, h]
  exact ⟨_, rfl⟩

theorem Expr.comparand_of_meaning {field : String} {op : Operator} {literal : Literal} {item : α}
    {error : FilterError}
    (h : (Expr.comparison field op literal).meaning schema maxSize item = .error error) :
    schema.comparand maxSize field op literal = .error error := by
  cases hcomparand : schema.comparand maxSize field op literal with
  | error other =>
    rw [Expr.meaning_comparison_of_error hcomparand item] at h
    cases h
    rfl
  | ok f =>
    obtain ⟨answer, hanswer⟩ := Expr.exists_meaning_comparison hcomparand item
    rw [hanswer] at h
    cases h

end

def Expr.comparisons : Expr → List (String × Operator × Literal)
  | .comparison field op literal => [(field, op, literal)]
  | .and left right | .or left right => left.comparisons ++ right.comparisons
  | .not operand => operand.comparisons

def Filter.comparisons : Filter → List (String × Operator × Literal)
  | .matchAll => []
  | .expr e => e.comparisons

section

variable {α : Type} {schema : Schema α} {maxSize : Nat}

/-- What fails in a row of two fails in one of them. -/
private theorem error_of_bind {β γ : Type} {x : Except FilterError β}
    {next : β → Except FilterError γ} {error : FilterError} (h : x.bind next = .error error) :
    x = .error error ∨ ∃ b, next b = .error error := by
  cases x with
  | error other =>
    cases h
    exact .inl rfl
  | ok b => exact .inr ⟨b, h⟩

private theorem exists_comparand_append {cs cs' : List (String × Operator × Literal)}
    {error : FilterError}
    (h : (∃ field op literal, (field, op, literal) ∈ cs ∧
        schema.comparand maxSize field op literal = .error error) ∨
      ∃ field op literal, (field, op, literal) ∈ cs' ∧
        schema.comparand maxSize field op literal = .error error) :
    ∃ field op literal, (field, op, literal) ∈ cs ++ cs' ∧
      schema.comparand maxSize field op literal = .error error := by
  rcases h with ⟨field, op, literal, hmem, hcomparand⟩ | ⟨field, op, literal, hmem, hcomparand⟩
  · exact ⟨field, op, literal, List.mem_append_left cs' hmem, hcomparand⟩
  · exact ⟨field, op, literal, List.mem_append_right cs hmem, hcomparand⟩

/-- An error of an expression is an error of one of its comparisons. -/
theorem Expr.exists_comparand_of_error {e : Expr} {item : α} {error : FilterError}
    (h : e.meaning schema maxSize item = .error error) :
    ∃ field op literal, (field, op, literal) ∈ e.comparisons ∧
      schema.comparand maxSize field op literal = .error error := by
  induction e with
  | comparison field op literal =>
    exact ⟨field, op, literal, by simp [comparisons], comparand_of_meaning h⟩
  | and left right ihl ihr =>
    have hside : left.meaning schema maxSize item = .error error ∨
        right.meaning schema maxSize item = .error error := by
      refine (error_of_bind h).imp_right ?_
      rintro ⟨answer, hright⟩
      cases answer with
      | false => cases hright
      | true => exact hright
    exact exists_comparand_append (hside.imp ihl ihr)
  | or left right ihl ihr =>
    have hside : left.meaning schema maxSize item = .error error ∨
        right.meaning schema maxSize item = .error error := by
      refine (error_of_bind h).imp_right ?_
      rintro ⟨answer, hright⟩
      cases answer with
      | false => exact hright
      | true => cases hright
    exact exists_comparand_append (hside.imp ihl ihr)
  | not operand ih =>
    rw [meaning] at h
    cases hoperand : operand.meaning schema maxSize item with
    | error other =>
      rw [hoperand] at h
      cases h
      exact ih hoperand
    | ok answer =>
      rw [hoperand] at h
      cases h

/-- An expression with nothing wrong in its comparisons answers. -/
theorem Expr.exists_meaning {e : Expr}
    (h : ∀ field op literal, (field, op, literal) ∈ e.comparisons →
      schema.Accepts maxSize field op literal) (item : α) :
    ∃ answer, e.meaning schema maxSize item = .ok answer := by
  cases hmeaning : e.meaning schema maxSize item with
  | ok answer => exact ⟨answer, rfl⟩
  | error error =>
    obtain ⟨field, op, literal, hmem, hcomparand⟩ := Expr.exists_comparand_of_error hmeaning
    obtain ⟨f, hf⟩ := (h field op literal hmem).exists_comparand
    rw [hf] at hcomparand
    cases hcomparand

/-- In a sound pass a comparison has the error that is wrong with it, or answers. -/
theorem Pass.Sound.evaluateComparison_fst {pass : Pass} (h : pass.Sound maxSize) (field : String)
    (op : Operator) (literal : Literal) (item : α) :
    (Sift.evaluateComparison schema maxSize item field op literal pass).1 =
      (Expr.comparison field op literal).meaning schema maxSize item := by
  obtain ⟨next, hnext, -⟩ := h.evaluateComparison schema item field op literal
  rw [hnext]

end

/-- Items that are a name and, as a part of their own, a flag that may be missing. -/
def Declarations.flagged : Declarations (String × Option Bool) :=
  .field ⟨"name", none, none⟩ (.scalar .string Prod.fst)
    (.embed Prod.snd (.field ⟨"flag", none, some "set"⟩ (.boxed .bool (fun flag => flag)) .nil)
      .nil)

/-- Errors do not come from the data. A comparison has one and the same error on every item or
answers on every item, also in the middle of a pass; for every field only has values of its type,
and none is ever misread. So a filter with nothing wrong in its comparisons answers on all items,
and an error that a filter has on an item is the error that one of its comparisons has on all. -/
theorem Filter.error_of_comparison {α : Type} (declarations : Declarations α) (maxSize : Nat) :
    let schema := Schema.ofDeclarations declarations
    (∀ field op literal,
      (∃ error, ∀ item pass, Pass.Sound maxSize pass →
        (evaluateComparison schema maxSize item field op literal pass).1 = .error error) ∨
      ∀ item pass, Pass.Sound maxSize pass →
        ∃ answer, (evaluateComparison schema maxSize item field op literal pass).1 = .ok answer) ∧
    (∀ name f, schema.resolve name = some f → ∀ item, (f.read item).HasType f.type ∧
      (f.read item = .null → f.type.isNullable = true)) ∧
    (∀ field op literal item pass, Pass.Sound maxSize pass → ∀ name type value,
      (evaluateComparison schema maxSize item field op literal pass).1 ≠
        .error (.mismatch name (.misread type value))) ∧
    (∀ filter : Filter, (∀ field op literal, (field, op, literal) ∈ filter.comparisons →
        schema.Accepts maxSize field op literal) →
      (∀ item, ∃ answer, (filter.matchesItem schema maxSize item).1 = .ok answer) ∧
      ∀ items, ∃ kept, (filter.select schema maxSize items).1 = .ok kept) ∧
    ∀ (filter : Filter) item error, (filter.matchesItem schema maxSize item).1 = .error error →
      ∃ field op literal, (field, op, literal) ∈ filter.comparisons ∧
        ∀ other pass, Pass.Sound maxSize pass →
          (evaluateComparison schema maxSize other field op literal pass).1 = .error error := by
  intro schema
  refine ⟨?_, ?_, ?_, ?_, ?_⟩
  · intro field op literal
    cases hcomparand : schema.comparand maxSize field op literal with
    | error error =>
      refine .inl ⟨error, ?_⟩
      intro item pass hpass
      rw [hpass.evaluateComparison_fst]
      exact Expr.meaning_comparison_of_error hcomparand item
    | ok f =>
      refine .inr ?_
      intro item pass hpass
      rw [hpass.evaluateComparison_fst]
      exact Expr.exists_meaning_comparison hcomparand item
  · intro name f _ item
    refine ⟨f.hasType_read item, ?_⟩
    intro hnull
    have htype := f.hasType_read item
    rw [hnull] at htype
    exact htype.isNullable
  · intro field op literal item pass hpass name type value h
    rw [hpass.evaluateComparison_fst] at h
    exact Schema.comparand_ne_misread field op literal name type value (Expr.comparand_of_meaning h)
  · intro filter haccepts
    cases filter with
    | matchAll => exact ⟨fun _ => ⟨true, rfl⟩, fun items => ⟨items, rfl⟩⟩
    | expr e =>
      have hanswers := Expr.exists_meaning (e := e) haccepts
      refine ⟨?_, ?_⟩
      · intro item
        rw [e.matchesItem_expr]
        exact hanswers item
      · intro items
        rw [Filter.select_expr, e.selection_of_ok (fun item _ => hanswers item)]
        exact ⟨_, rfl⟩
  · intro filter item error h
    cases filter with
    | matchAll => cases h
    | expr e =>
      rw [e.matchesItem_expr] at h
      obtain ⟨field, op, literal, hmem, hcomparand⟩ := Expr.exists_comparand_of_error h
      refine ⟨field, op, literal, hmem, ?_⟩
      intro other pass hpass
      rw [hpass.evaluateComparison_fst]
      exact Expr.meaning_comparison_of_error hcomparand other

/-- A missing flag is no error, and a missing field is one whatever the name and the flag are. -/
theorem Filter.error_of_flagged :
    (∀ item, ∃ answer, ((Filter.expr (.and (.comparison "name" .matching (.text "b"))
      (.comparison "set" .ne (.bool true)))).matchesItem (.ofDeclarations .flagged) 1000 item).1 =
        .ok answer) ∧
    (∃ f, (Schema.ofDeclarations .flagged).resolve "set" = some f ∧ f.read ("a", none) = .null ∧
      f.type.isNullable = true) ∧
    (∀ name type value, (evaluateComparison (.ofDeclarations .flagged) 1000 ("a", none) "set" .eq
      (.bool true) .start).1 ≠ .error (.mismatch name (.misread type value))) ∧
    ∃ error, ∀ other, (evaluateComparison (.ofDeclarations .flagged) 1000 other "flag" .eq .null
      .start).1 = .error error := by
  have h := Filter.error_of_comparison .flagged 1000
  obtain ⟨-, hread, hmisread, hanswers, herror⟩ := h
  refine ⟨?_, ?_, ?_, ?_⟩
  · refine (hanswers _ ?_).1
    intro field op literal hmem
    simp only [Filter.comparisons, Expr.comparisons, List.cons_append, List.nil_append,
      List.mem_cons, Prod.mk.injEq, List.not_mem_nil, or_false] at hmem
    rcases hmem with ⟨rfl, rfl, rfl⟩ | ⟨rfl, rfl, rfl⟩
    · refine ⟨_, rfl, rfl, ?_⟩
      intro text htext _
      cases htext
      exact ⟨_, rfl⟩
    · refine ⟨_, rfl, rfl, ?_⟩
      intro text htext
      cases htext
  · exact ⟨_, rfl, rfl, (hread "set" _ rfl ("a", none)).2 rfl⟩
  · exact hmisread "set" .eq (.bool true) ("a", none) .start (Pass.sound_start 1000)
  · obtain ⟨field, op, literal, hmem, hother⟩ :=
      herror (.expr (.not (.comparison "flag" .eq .null))) ("a", none) _ rfl
    simp only [Filter.comparisons, Expr.comparisons, List.mem_cons, Prod.mk.injEq,
      List.not_mem_nil, or_false] at hmem
    obtain ⟨rfl, rfl, rfl⟩ := hmem
    exact ⟨_, fun other => hother other .start (Pass.sound_start 1000)⟩

end Sift
