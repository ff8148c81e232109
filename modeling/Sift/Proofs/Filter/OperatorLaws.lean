import Sift.Proofs.Filter.Errors

/-!
How the operators hang together. All operators that are admitted for a field and a literal decide by
one and the same thing: whether the value is absent, in which order it stands to the literal, or
whether it matches a pattern. So some are complements of others, and some are alternatives of two
others, also for values that stand in no order to the literal.
-/

namespace Sift

namespace Operator

theorem holdsPartial_le (order : Option Ordering) :
    le.holdsPartial order = (lt.holdsPartial order || eq.holdsPartial order) := by
  rcases order with _ | _ | _ | _ <;> rfl

theorem holdsPartial_ge (order : Option Ordering) :
    ge.holdsPartial order = (gt.holdsPartial order || eq.holdsPartial order) := by
  rcases order with _ | _ | _ | _ <;> rfl

theorem holdsPartial_ne (order : Option Ordering) :
    ne.holdsPartial order = !eq.holdsPartial order := by
  rcases order with _ | _ | _ | _ <;> rfl

/-- Where there is an order, it is one of three. -/
theorem countP_holdsPartial (order : Option Ordering) :
    [lt, eq, gt].countP (fun op => op.holdsPartial order) = if order.isSome then 1 else 0 := by
  rcases order with _ | _ | _ | _ <;> rfl

theorem holdsPartial_none_iff (op : Operator) : op.holdsPartial none = true ↔ op = .ne := by
  simp [holdsPartial]

end Operator

/-- The order in which a value stands to a text or a number, if it is in any order to it. -/
def Value.orderTo (value : Value) : Literal → Option Ordering
  | .text text =>
    match value with
    | .string actual => some (compare actual text)
    | _ => none
  | .number number => value.number?.bind (fun actual => actual.compare? number)
  | .bool _ | .null => none

theorem Binary64.compare?_isSome_iff (x y : Binary64) :
    (x.compare? y).isSome = true ↔ x ≠ .nan ∧ y ≠ .nan := by
  cases x <;> cases y <;> simp [compare?, units?]

/-- Not-a-number is the value of float fields alone. -/
theorem Value.number?_eq_nan_iff {value : Value} {actual : Binary64}
    (h : value.number? = some actual) : actual = .nan ↔ value = .float .nan := by
  cases value <;> simp_all [number?, Binary64.ofInt, Binary64.ofRatio] <;> simp [← h]

namespace Value.Compares

variable {value : Value} {op : Operator} {literal : Literal}

/-- Texts and numbers are compared by nothing but the order. -/
theorem answer_eq_holdsPartial (h : value.Compares op literal)
    (hkind : literal.kind = .text ∨ literal.kind = .number) (hop : op.takesPattern = false)
    (maxSize : Nat) :
    value.answer maxSize op literal = op.holdsPartial (value.orderTo literal) := by
  cases h with
  | null value hop => simp [Literal.kind] at hkind
  | absent hliteral =>
    have hnone : Value.null.orderTo literal = none := by cases literal <;> rfl
    rw [hnone]
    cases literal with
    | null => exact absurd rfl hliteral
    | text text | number number | bool expected =>
      cases op with
      | matching | notMatching => cases hop
      | eq | ne | gt | ge | lt | le => rfl
  | texts actual text =>
    rw [answer, Operator.relatesTexts_eq_relates hop, ← Operator.holds_compare_string]
    rfl
  | numbers hactual number hop =>
    rw [orderTo, hactual, Option.bind_some, Operator.holdsPartial_compare?]
    cases value <;> simp_all [answer, number?]
  | bools actual expected hop => simp [Literal.kind] at hkind

theorem orderTo_isSome_iff (h : value.Compares op literal)
    (hkind : literal.kind = .text ∨ literal.kind = .number) :
    (value.orderTo literal).isSome = true ↔
      value ≠ .null ∧ value ≠ .float .nan ∧ literal ≠ .number .nan := by
  cases h with
  | null value hop => simp [Literal.kind] at hkind
  | absent hliteral => cases literal <;> simp [orderTo, number?]
  | texts actual text => simp [orderTo]
  | numbers hactual number hop =>
    have hpresent : value ≠ .null := by
      rintro rfl
      cases hactual
    rw [orderTo, hactual, Option.bind_some, Binary64.compare?_isSome_iff]
    simp [hpresent, number?_eq_nan_iff hactual]
  | bools actual expected hop => simp [Literal.kind] at hkind

theorem orderTo_eq_none_iff (h : value.Compares op literal)
    (hkind : literal.kind = .text ∨ literal.kind = .number) :
    value.orderTo literal = none ↔
      value = .null ∨ value = .float .nan ∨ literal = .number .nan := by
  rw [← Option.not_isSome_iff_eq_none, h.orderTo_isSome_iff hkind]
  simp only [ne_eq, Classical.not_and_iff_not_or_not, Classical.not_not]

theorem answer_ne (h : value.Compares .eq literal) (maxSize : Nat) :
    value.answer maxSize .ne literal = !value.answer maxSize .eq literal := by
  cases h with
  | null value hop => cases value <;> rfl
  | absent hliteral =>
    cases literal with
    | null => exact absurd rfl hliteral
    | text text | number number | bool expected => rfl
  | texts actual text => simp [answer, Operator.relatesTexts, Operator.relates]
  | numbers hactual number hop =>
    have heq : value.Compares .eq (.number number) := .numbers hactual number rfl
    have hne : value.Compares .ne (.number number) := .numbers hactual number rfl
    rw [hne.answer_eq_holdsPartial (.inr rfl) rfl, heq.answer_eq_holdsPartial (.inr rfl) rfl]
    exact Operator.holdsPartial_ne _
  | bools actual expected hop => cases actual <;> cases expected <;> rfl

theorem answer_notMatching (h : value.Compares .matching literal) (maxSize : Nat) :
    value.answer maxSize .notMatching literal = !value.answer maxSize .matching literal := by
  cases h with
  | absent hliteral =>
    cases literal with
    | null => exact absurd rfl hliteral
    | text text | number number | bool expected => rfl
  | texts actual text => rfl
  | null value hop | numbers hactual number hop | bools actual expected hop => cases hop

end Value.Compares

/-- What a type admits depends on no more than what sort of operator it is. -/
theorem SemanticType.admits_congr {op op' : Operator} (hequality : op.isEquality = op'.isEquality)
    (htakes : op.takesPattern = op'.takesPattern) (type : SemanticType) (kind : LiteralKind) :
    type.admits op kind = type.admits op' kind := by
  simp only [admits, hequality, htakes]

theorem SemanticType.admits_ordering {op : Operator} (hop : op.takesPattern = false)
    {kind : LiteralKind} (hkind : kind = .text ∨ kind = .number) (type : SemanticType) :
    type.admits op kind = type.admits .eq kind := by
  have heq : Operator.eq.takesPattern = false := rfl
  unfold admits
  rcases hkind with rfl | rfl
  · cases type.comparable? with
    | none => rfl
    | some inner => cases inner <;> rfl
  · cases type.comparable? with
    | none => rfl
    | some inner => simp only [hop, heq]

section

variable {α : Type} {schema : Schema α} {maxSize : Nat}

theorem Schema.comparand_eq_ok_iff {field : String} {op : Operator} {literal : Literal}
    {f : Field α} :
    schema.comparand maxSize field op literal = .ok f ↔
      schema.resolve field = some f ∧ f.type.admits op literal.kind = true ∧
        ∃ pattern, literal.patternFor maxSize op = .ok pattern := by
  unfold comparand
  cases hresolve : schema.resolve field with
  | none => simp
  | some g =>
    by_cases hadmits : g.type.admits op literal.kind = true
    · simp only [(g.type.check_eq_ok_iff op literal.kind).mpr hadmits]
      cases literal.patternFor maxSize op with
      | error error => simp [Except.map]
      | ok pattern =>
        simp only [Except.map, Except.ok.injEq, Option.some.injEq, exists_eq', and_true]
        constructor
        · rintro rfl
          exact ⟨rfl, hadmits⟩
        · exact And.left
    · simp only [SemanticType.check, if_neg hadmits, Option.some.injEq, reduceCtorEq, false_iff]
      rintro ⟨rfl, hadmitted, -⟩
      exact hadmits hadmitted

/-- Operators of one sort have the same comparand, if any. -/
theorem Schema.comparand_congr {op op' : Operator} (hequality : op.isEquality = op'.isEquality)
    (htakes : op.takesPattern = op'.takesPattern) {field : String} {literal : Literal}
    {f : Field α} :
    schema.comparand maxSize field op literal = .ok f ↔
      schema.comparand maxSize field op' literal = .ok f := by
  rw [comparand_eq_ok_iff, comparand_eq_ok_iff, SemanticType.admits_congr hequality htakes]
  simp only [Literal.patternFor, htakes]

/-- Outcomes that are both errors, or of which one is the opposite of the other. -/
def Complements (outcome outcome' : Except FilterError Bool) : Prop :=
  (∃ error error', outcome = .error error ∧ outcome' = .error error') ∨
  ∃ answer, outcome = .ok answer ∧ outcome' = .ok (!answer)

theorem complements_of_answer (op op' : Operator) (hequality : op.isEquality = op'.isEquality)
    (htakes : op.takesPattern = op'.takesPattern) {literal : Literal}
    (hanswer : ∀ value : Value, value.Compares op literal →
      value.answer maxSize op' literal = !value.answer maxSize op literal)
    (field : String) (item : α) :
    Complements ((Expr.comparison field op literal).meaning schema maxSize item)
      ((Expr.comparison field op' literal).meaning schema maxSize item) := by
  simp only [Expr.meaning]
  have hcongr {f : Field α} : schema.comparand maxSize field op literal = .ok f ↔
      schema.comparand maxSize field op' literal = .ok f :=
    Schema.comparand_congr hequality htakes
  cases hcomparand : schema.comparand maxSize field op literal with
  | error error =>
    cases hcomparand' : schema.comparand maxSize field op' literal with
    | error error' => exact .inl ⟨error, error', rfl, rfl⟩
    | ok f =>
      rw [hcongr.mpr hcomparand'] at hcomparand
      cases hcomparand
  | ok f =>
    rw [hcongr.mp hcomparand]
    have hadmits := (Schema.comparand_eq_ok_iff.mp hcomparand).2.1
    refine .inr ⟨(f.read item).answer maxSize op literal, rfl, ?_⟩
    rw [← hanswer _ ((f.hasType_read item).compares hadmits)]
    rfl

/-- Texts and numbers are admitted by all operators but those that take a pattern, or by none. -/
theorem Schema.comparand_ordering {op : Operator} (hop : op.takesPattern = false)
    {literal : Literal} (hkind : literal.kind = .text ∨ literal.kind = .number) {field : String}
    {f : Field α} :
    schema.comparand maxSize field op literal = .ok f ↔
      schema.resolve field = some f ∧ f.type.admits .eq literal.kind = true := by
  have hpattern : literal.patternFor maxSize op = .ok none := by
    cases literal <;> simp [Literal.patternFor, hop]
  rw [comparand_eq_ok_iff, SemanticType.admits_ordering hop hkind, hpattern]
  simp

theorem Expr.exists_meaning_error {field : String} {op : Operator} {literal : Literal}
    (h : ∀ f, schema.comparand maxSize field op literal ≠ .ok f) (item : α) :
    ∃ error, (Expr.comparison field op literal).meaning schema maxSize item = .error error := by
  cases hcomparand : schema.comparand maxSize field op literal with
  | error error => exact ⟨error, meaning_comparison_of_error hcomparand item⟩
  | ok f => exact absurd hcomparand (h f)

theorem Expr.meaning_comparison_of_ok {field : String} {op : Operator} {literal : Literal}
    {f : Field α} (h : schema.comparand maxSize field op literal = .ok f) (item : α) :
    (Expr.comparison field op literal).meaning schema maxSize item =
      .ok ((f.read item).answer maxSize op literal) := by
  rw [meaning, h]
  rfl

/-- Where a text or a number is admitted at all, the order to it decides. -/
theorem Expr.meaning_of_admits_eq {field : String} {op : Operator} (hop : op.takesPattern = false)
    {literal : Literal} (hkind : literal.kind = .text ∨ literal.kind = .number) {f : Field α}
    (hresolve : schema.resolve field = some f) (hadmits : f.type.admits .eq literal.kind = true)
    (item : α) :
    (Expr.comparison field op literal).meaning schema maxSize item =
      .ok (op.holdsPartial ((f.read item).orderTo literal)) := by
  have hcomparand : schema.comparand maxSize field op literal = .ok f :=
    (Schema.comparand_ordering hop hkind).mpr ⟨hresolve, hadmits⟩
  have hadmitsOp := (Schema.comparand_eq_ok_iff.mp hcomparand).2.1
  have hcompares := (f.hasType_read item).compares hadmitsOp
  rw [meaning_comparison_of_ok hcomparand item, hcompares.answer_eq_holdsPartial hkind hop]

/-- Where a value may be absent, `null` asks whether it is. -/
theorem Expr.meaning_null_of_nullable {field : String} {f : Field α}
    (hresolve : schema.resolve field = some f) (hnullable : f.type.isNullable = true) (item : α) :
    (Expr.comparison field .eq .null).meaning schema maxSize item =
        .ok (f.read item == .null) ∧
      (Expr.comparison field .ne .null).meaning schema maxSize item =
        .ok (f.read item != .null) := by
  have hcomparand (op : Operator) (hop : op.isEquality = true) :
      schema.comparand maxSize field op .null = .ok f := by
    apply Schema.comparand_eq_ok_iff.mpr
    refine ⟨hresolve, ?_, none, rfl⟩
    simp [SemanticType.admits, Literal.kind, hnullable, hop]
  rw [meaning_comparison_of_ok (hcomparand .eq rfl) item,
    meaning_comparison_of_ok (hcomparand .ne rfl) item]
  cases f.read item <;> exact ⟨rfl, rfl⟩

/-- Where no value is absent, `null` is not admitted. -/
theorem Expr.exists_meaning_null_error {field : String} {f : Field α}
    (hresolve : schema.resolve field = some f) (hrequired : f.type.isNullable = false)
    (op : Operator) (item : α) :
    ∃ error, (Expr.comparison field op .null).meaning schema maxSize item = .error error := by
  apply exists_meaning_error
  intro g hcomparand
  obtain ⟨hg, hadmits, -⟩ := Schema.comparand_eq_ok_iff.mp hcomparand
  rw [hresolve] at hg
  cases hg
  simp [SemanticType.admits, Literal.kind, hrequired] at hadmits

end

/-- For one field and one literal the operators are consistent on every item. `==` and `!=` are
complements, and so are `~` and `!~`. The others decide alike whether they are in error for a text
or a number; if they are not, each order is an alternative of two, and one of the three orders holds
unless the value is absent or one side is not-a-number, when `!=` alone holds. Against `null`, `==`
and `!=` tell whether the value is absent. -/
theorem Filter.operators_consistent {α : Type} (declarations : Declarations α) (maxSize : Nat)
    (item : α) (field : String) (literal : Literal) :
    let schema := Schema.ofDeclarations declarations
    let outcome (op : Operator) :=
      ((Filter.expr (.comparison field op literal)).matchesItem schema maxSize item).1
    Complements (outcome .eq) (outcome .ne) ∧
    Complements (outcome .matching) (outcome .notMatching) ∧
    (literal.kind = .text ∨ literal.kind = .number →
      ((¬ ∃ f, schema.resolve field = some f ∧ f.type.admits .eq literal.kind = true) ∧
        ∀ op, op.takesPattern = false → ∃ error, outcome op = .error error) ∨
      ∃ f, schema.resolve field = some f ∧ f.type.admits .eq literal.kind = true ∧
        ∃ holds : Operator → Bool,
          (∀ op, op.takesPattern = false → outcome op = .ok (holds op)) ∧
          holds .le = (holds .lt || holds .eq) ∧
          holds .ge = (holds .gt || holds .eq) ∧
          [Operator.lt, .eq, .gt].countP holds ≤ 1 ∧
          ([Operator.lt, .eq, .gt].countP holds = 1 ↔
            f.read item ≠ .null ∧ f.read item ≠ .float .nan ∧ literal ≠ .number .nan) ∧
          (f.read item = .null ∨ f.read item = .float .nan ∨ literal = .number .nan →
            ∀ op, holds op = true ↔ op = .ne)) ∧
    (literal = .null → ∀ f, schema.resolve field = some f →
      (f.type.isNullable = true → outcome .eq = .ok (f.read item == .null) ∧
        outcome .ne = .ok (f.read item != .null)) ∧
      (f.type.isNullable = false → ∀ op, ∃ error, outcome op = .error error)) := by
  intro schema outcome
  have hmeaning (op : Operator) :
      outcome op = (Expr.comparison field op literal).meaning schema maxSize item :=
    Expr.matchesItem_expr _ schema maxSize item
  simp only [hmeaning]
  refine ⟨?_, ?_, ?_, ?_⟩
  · exact complements_of_answer .eq .ne rfl rfl (fun _ h => h.answer_ne maxSize) field item
  · exact complements_of_answer .matching .notMatching rfl rfl
      (fun _ h => h.answer_notMatching maxSize) field item
  · intro hkind
    by_cases hadmitted : ∃ f, schema.resolve field = some f ∧
        f.type.admits .eq literal.kind = true
    · obtain ⟨f, hresolve, hadmits⟩ := hadmitted
      have hcompares := (f.hasType_read item).compares hadmits
      refine .inr ⟨f, hresolve, hadmits,
        fun op => op.holdsPartial ((f.read item).orderTo literal), ?_,
        Operator.holdsPartial_le _, Operator.holdsPartial_ge _, ?_, ?_, ?_⟩
      · intro op hop
        exact Expr.meaning_of_admits_eq hop hkind hresolve hadmits item
      · rw [Operator.countP_holdsPartial]
        split <;> decide
      · rw [Operator.countP_holdsPartial, ← hcompares.orderTo_isSome_iff hkind]
        split <;> simp_all
      · intro hunordered op
        have hnone := (hcompares.orderTo_eq_none_iff hkind).mpr hunordered
        simp only [hnone, Operator.holdsPartial_none_iff]
    · refine .inl ⟨hadmitted, ?_⟩
      intro op hop
      apply Expr.exists_meaning_error
      intro f hcomparand
      exact hadmitted ⟨f, (Schema.comparand_ordering hop hkind).mp hcomparand⟩
  · rintro rfl f hresolve
    constructor
    · intro hnullable
      exact Expr.meaning_null_of_nullable hresolve hnullable item
    · intro hrequired op
      exact Expr.exists_meaning_null_error hresolve hrequired op item

def Declarations.scored : Declarations (Option Binary64) :=
  .embed id (.field ⟨"score", none, none⟩ (.boxed .float id) .nil) .nil

/-- A score that is not-a-number is unequal to one and in no order to it. A missing score is
null. -/
theorem Filter.operators_consistent_scored :
    let outcome (score : Option Binary64) (op : Operator) (literal : Literal) :=
      ((Filter.expr (.comparison "score" op literal)).matchesItem (.ofDeclarations .scored) 1000
        score).1
    (∀ op, op.takesPattern = false →
      outcome (some .nan) op (.number (.ofInt 1)) = .ok (op == .ne)) ∧
    Complements (outcome none .matching (.text "1")) (outcome none .notMatching (.text "1")) ∧
    outcome none .eq .null = .ok true ∧ outcome none .ne .null = .ok false := by
  intro outcome
  have hpresent := operators_consistent .scored 1000 (some .nan) "score" (.number (.ofInt 1))
  have hpattern := operators_consistent .scored 1000 none "score" (.text "1")
  have habsent := operators_consistent .scored 1000 none "score" .null
  refine ⟨?_, hpattern.2.1, (habsent.2.2.2 rfl _ rfl).1 rfl⟩
  intro op hop
  rcases hpresent.2.2.1 (.inr rfl) with ⟨hnone, -⟩ | ⟨f, hf, -, holds, houtcome, -, -, -, -, hne⟩
  · exact absurd ⟨_, rfl, rfl⟩ hnone
  · cases hf
    have hholds : holds op = (op == .ne) := by
      rw [Bool.eq_iff_iff, hne (.inr (.inl rfl)) op, beq_iff_eq]
    rw [← hholds]
    exact houtcome op hop

end Sift
