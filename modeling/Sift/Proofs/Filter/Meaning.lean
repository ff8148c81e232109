import Sift.Filter.Evaluation

/-!
What filters mean. The meaning of an expression is defined by recursion on it, and no compiled
pattern is kept from one comparison to the next. Evaluation computes the meaning from every pass
whose patterns are what their texts compile to, and leaves such a pass behind.
-/

namespace Sift

/-- The operators as relations of an order. The pattern operators are none. -/
def Operator.relates {α : Type} [LT α] [DecidableLT α] [DecidableEq α] (op : Operator) (a b : α) :
    Bool :=
  match op with
  | .eq => a = b
  | .ne => a ≠ b
  | .gt => b < a
  | .ge => b < a ∨ a = b
  | .lt => a < b
  | .le => a < b ∨ a = b
  | .matching | .notMatching => false

/-- Texts relate in the order of their characters, or by whether a match of the pattern lies
anywhere in the text. -/
def Operator.relatesTexts (op : Operator) (maxSize : Nat) (actual text : String) : Bool :=
  match op with
  | .matching => (Pattern.compile? maxSize text).any (fun p => p.occursIn actual.toList)
  | .notMatching => !(Pattern.compile? maxSize text).any (fun p => p.occursIn actual.toList)
  | op => op.relates actual text

/-- Numbers relate as their values do. Not-a-number is unequal to every number, itself included,
and stands in no order to any. -/
def Operator.relatesNumbers (op : Operator) (x y : Binary64) : Bool :=
  match x.units?, y.units? with
  | some a, some b => op.relates a b
  | _, _ => op == .ne

theorem Operator.holds_eq_relates {α : Type} [Ord α] [LT α] [DecidableLT α] [DecidableEq α]
    {a b : α} (hlt : compare a b = .lt ↔ a < b) (heq : compare a b = .eq ↔ a = b)
    (hgt : compare a b = .gt ↔ b < a) (op : Operator) :
    op.holds (compare a b) = op.relates a b := by
  cases hcompare : compare a b <;> cases op <;>
    simp_all [Operator.holds, Operator.relates]

/-- An operator does not tell two pairs apart that stand in the same order. -/
theorem Operator.relates_congr {α β : Type} [LT α] [DecidableLT α] [DecidableEq α] [LT β]
    [DecidableLT β] [DecidableEq β] {a b : α} {a' b' : β} (hlt : a < b ↔ a' < b')
    (hgt : b < a ↔ b' < a') (heq : a = b ↔ a' = b') (op : Operator) :
    op.relates a b = op.relates a' b' := by
  cases op <;> simp only [relates, hlt, hgt, heq, ne_eq]

theorem Operator.holds_compare_string (op : Operator) (a b : String) :
    op.holds (compare a b) = op.relates a b := by
  have hlt (a b : String) : compare a b = .lt ↔ a < b := compareOfLessAndEq_eq_lt
  have hgt : compare a b = .gt ↔ b < a := Std.OrientedCmp.gt_iff_lt.trans (hlt b a)
  exact holds_eq_relates (hlt a b) Std.compare_eq_iff_eq hgt op

/-- All operators on texts but those that take a pattern go by the order. -/
theorem Operator.relatesTexts_eq_relates {op : Operator} (hop : op.takesPattern = false)
    (maxSize : Nat) (actual text : String) :
    op.relatesTexts maxSize actual text = op.relates actual text := by
  cases op with
  | matching | notMatching => cases hop
  | eq | ne | gt | ge | lt | le => rfl

theorem Operator.holds_compare_int (op : Operator) (a b : Int) :
    op.holds (compare a b) = op.relates a b :=
  holds_eq_relates Std.compare_eq_lt Std.compare_eq_iff_eq Std.compare_eq_gt op

theorem Operator.holdsPartial_compare? (op : Operator) (x y : Binary64) :
    op.holdsPartial (x.compare? y) = op.relatesNumbers x y := by
  unfold Binary64.compare? relatesNumbers
  cases x.units? with
  | none => rfl
  | some a =>
    cases y.units? with
    | none => rfl
    | some b => exact op.holds_compare_int a b

def Literal.patternFor (literal : Literal) (maxSize : Nat) (op : Operator) :
    Except FilterError (Option Pattern) :=
  match literal with
  | .text source =>
    if op.takesPattern then
      (Pattern.compile? maxSize source).elim (.error (.badPattern source)) (fun p => .ok (some p))
    else .ok none
  | _ => .ok none

/-- The field that a comparison is about, unless there is something wrong with the comparison. No
item has a part in this. -/
def Schema.comparand {α : Type} (schema : Schema α) (maxSize : Nat) (field : String)
    (op : Operator) (literal : Literal) : Except FilterError (Field α) :=
  match schema.resolve field with
  | none => .error (.mismatch field (.noSuchField (schema.suggest field)))
  | some f =>
    match f.type.check op literal.kind with
    | .error fault => .error (.mismatch field fault)
    | .ok () => (literal.patternFor maxSize op).map (fun _ => f)

/-- What a comparison says of the value of its field. With `null` it asks whether the value is
absent. An absent value equals no other literal and matches no pattern. -/
def Value.answer (value : Value) (maxSize : Nat) (op : Operator) (literal : Literal) : Bool :=
  match literal, value with
  | .null, value => (value == .null) == (op == .eq)
  | _, .null => op == .ne || op == .notMatching
  | .text text, .string actual => op.relatesTexts maxSize actual text
  | .number number, value => value.number?.any (fun actual => op.relatesNumbers actual number)
  | .bool expected, .bool actual => (actual == expected) == (op == .eq)
  | _, _ => false

/-- The values that a field of a type can have. -/
def Value.HasType (value : Value) : SemanticType → Prop
  | .scalar type => ∃ carried : type.Carrier, value = .ofScalar type carried
  | .boxed type => value = .null ∨ ∃ carried : type.Carrier, value = .ofScalar type carried
  | .message => value = .null ∨ value = .message

theorem Field.hasType_read {α : Type} (f : Field α) (item : α) : (f.read item).HasType f.type := by
  obtain ⟨names, source, depth⟩ := f
  cases source with
  | scalar type get => exact ⟨get item, rfl⟩
  | boxed type get =>
    cases hget : get item with
    | none => exact .inl (by simp [Field.read, Source.read, hget])
    | some carried => exact .inr ⟨carried, by simp [Field.read, Source.read, hget]⟩
  | message isSet =>
    cases hset : isSet item with
    | true => exact .inr (by simp [Field.read, Source.read, hset])
    | false => exact .inl (by simp [Field.read, Source.read, hset])

theorem Value.isNull_eq (value : Value) : value.isNull = (value == .null) := by
  cases value <;> rfl

/-- A present value is of the scalar type that literals are compared with. -/
theorem Value.HasType.exists_carried {value : Value} {type : SemanticType} {inner : ScalarType}
    (h : value.HasType type) (hpresent : value ≠ .null) (hinner : type.comparable? = some inner) :
    ∃ carried : inner.Carrier, value = .ofScalar inner carried := by
  cases type with
  | scalar type =>
    cases hinner
    exact h
  | boxed type =>
    cases hinner
    exact h.resolve_left hpresent
  | message => cases hinner

/-- A present value that is no message is of the scalar type that its field is compared as. -/
theorem Value.HasType.exists_scalar {value : Value} {type : SemanticType} (h : value.HasType type)
    (hpresent : value ≠ .null) (hmessage : value ≠ .message) :
    ∃ inner, type.comparable? = some inner ∧
      ∃ carried : inner.Carrier, value = .ofScalar inner carried := by
  cases type with
  | scalar inner => exact ⟨inner, rfl, h.exists_carried hpresent rfl⟩
  | boxed inner => exact ⟨inner, rfl, h.exists_carried hpresent rfl⟩
  | message => exact absurd h (not_or.mpr ⟨hpresent, hmessage⟩)

inductive Value.Compares (op : Operator) : Value → Literal → Prop where
  | null (value : Value) (hop : op.isEquality = true) : Compares op value .null
  | absent {literal : Literal} (hliteral : literal ≠ .null) : Compares op .null literal
  | texts (actual text : String) : Compares op (.string actual) (.text text)
  | numbers {value : Value} {actual : Binary64} (hactual : value.number? = some actual)
      (number : Binary64) (hop : op.takesPattern = false) : Compares op value (.number number)
  | bools (actual expected : Bool) (hop : op.isEquality = true) :
    Compares op (.bool actual) (.bool expected)

/-- A type admits no other comparisons of its values. -/
theorem Value.HasType.compares {value : Value} {type : SemanticType} {op : Operator}
    {literal : Literal} (hvalue : value.HasType type)
    (hadmits : type.admits op literal.kind = true) : value.Compares op literal := by
  by_cases hnull : literal = .null
  · subst hnull
    have hboth : type.isNullable = true ∧ op.isEquality = true := by
      simpa [SemanticType.admits, Literal.kind] using hadmits
    exact .null value hboth.2
  by_cases habsent : value = .null
  · rw [habsent]
    exact .absent hnull
  cases hinner : type.comparable? with
  | none => cases literal <;> simp_all [SemanticType.admits, Literal.kind]
  | some inner =>
    obtain ⟨carried, rfl⟩ := hvalue.exists_carried habsent hinner
    cases literal with
    | null => exact absurd rfl hnull
    | text text =>
      cases inner with
      | string => exact .texts carried text
      | integer | unsignedInteger | float | bool =>
        simp [SemanticType.admits, Literal.kind, hinner] at hadmits
    | number number =>
      have hboth : inner.isNumeric = true ∧ op.takesPattern = false := by
        simpa [SemanticType.admits, Literal.kind, hinner] using hadmits
      cases inner with
      | integer | unsignedInteger | float => exact .numbers rfl number hboth.2
      | string | bool => cases hboth.1
    | bool expected =>
      cases inner with
      | bool =>
        have hop : op.isEquality = true := by
          simpa [SemanticType.admits, Literal.kind, hinner] using hadmits
        exact .bools carried expected hop
      | string | integer | unsignedInteger | float =>
        simp [SemanticType.admits, Literal.kind, hinner] at hadmits

theorem Value.satisfies_text {actual text : String} {type : SemanticType} {maxSize : Nat}
    {op : Operator} {pattern : Option Pattern}
    (hpattern : (Literal.text text).patternFor maxSize op = .ok pattern) :
    (Value.string actual).satisfies type op (.text text) pattern =
      .ok (op.relatesTexts maxSize actual text) := by
  simp only [Literal.patternFor] at hpattern
  split at hpattern
  · rename_i htakes
    cases hcompile : Pattern.compile? maxSize text with
    | none =>
      rw [hcompile] at hpattern
      cases hpattern
    | some p =>
      rw [hcompile] at hpattern
      cases hpattern
      have hdistinct : (Operator.notMatching == Operator.matching) = false := rfl
      cases op with
      | matching | notMatching =>
        simp [satisfies, isNull, Operator.relatesTexts, hcompile, hdistinct]
      | eq | ne | gt | ge | lt | le => cases htakes
  · rename_i htakes
    cases hpattern
    rw [Operator.relatesTexts_eq_relates (by simpa using htakes), ← Operator.holds_compare_string]
    rfl

theorem Value.satisfies_number {value : Value} {actual : Binary64}
    (hactual : value.number? = some actual) (type : SemanticType) (maxSize : Nat) (op : Operator)
    (number : Binary64) (pattern : Option Pattern) :
    value.satisfies type op (.number number) pattern =
      .ok (value.answer maxSize op (.number number)) := by
  have hrelates := op.holdsPartial_compare? actual number
  cases value <;> simp_all [number?, satisfies, isNull, answer]

theorem Value.satisfies_bool (actual expected : Bool) (type : SemanticType) {op : Operator}
    (hop : op.isEquality = true) (pattern : Option Pattern) :
    (Value.bool actual).satisfies type op (.bool expected) pattern =
      .ok ((actual == expected) == (op == .eq)) := by
  cases op with
  | eq | ne => cases actual <;> cases expected <;> rfl
  | gt | ge | lt | le | matching | notMatching => cases hop

/-- A comparison that the type of the value admits is never misread. -/
theorem Value.satisfies_eq_answer {value : Value} {type : SemanticType} {maxSize : Nat}
    {op : Operator} {literal : Literal} {pattern : Option Pattern} (hvalue : value.HasType type)
    (hadmits : type.admits op literal.kind = true)
    (hpattern : literal.patternFor maxSize op = .ok pattern) :
    value.satisfies type op literal pattern = .ok (value.answer maxSize op literal) := by
  cases hvalue.compares hadmits with
  | null value hop =>
    simp only [satisfies, if_true, answer, isNull_eq]
    cases op with
    | eq | ne => cases value <;> rfl
    | gt | ge | lt | le | matching | notMatching => cases hop
  | absent hliteral =>
    cases literal with
    | null => exact absurd rfl hliteral
    | text text | number number | bool expected => rfl
  | texts actual text => exact satisfies_text hpattern
  | numbers hactual number hop => exact satisfies_number hactual type maxSize op number pattern
  | bools actual expected hop => exact satisfies_bool actual expected type hop pattern

/-- The check refuses exactly what the type does not admit. -/
theorem SemanticType.check_eq_ok_iff (type : SemanticType) (op : Operator) (kind : LiteralKind) :
    type.check op kind = .ok () ↔ type.admits op kind = true := by
  unfold check
  split <;> simp_all

section

variable {α : Type} (schema : Schema α) (maxSize : Nat) (item : α)

/-- What an expression says of an item. An error of the left operand is the error of the whole, and
the right operand counts only where the left one leaves the answer open. -/
def Expr.meaning : Expr → Except FilterError Bool
  | .comparison field op literal =>
    (schema.comparand maxSize field op literal).map
      (fun f => (f.read item).answer maxSize op literal)
  | .and left right =>
    left.meaning.bind (fun answer => if answer then right.meaning else .ok false)
  | .or left right =>
    left.meaning.bind (fun answer => if answer then .ok true else right.meaning)
  | .not operand => operand.meaning.map (fun answer => !answer)

def Filter.meaning : Filter → Except FilterError Bool
  | .matchAll => .ok true
  | .expr e => e.meaning schema maxSize item

end

/-- Every pattern that the pass keeps is what its text compiles to. -/
def Pass.Sound (maxSize : Nat) (pass : Pass) : Prop :=
  ∀ entry ∈ pass.patterns, Pattern.compile? maxSize entry.1 = some entry.2

namespace Pass

variable {maxSize : Nat} {pass : Pass}

theorem sound_start (maxSize : Nat) : Pass.start.Sound maxSize := by
  intro entry hentry
  cases hentry

theorem Sound.record (h : pass.Sound maxSize) (event : Event) :
    (pass.record event).Sound maxSize := h

theorem Sound.compile?_of_lookup (h : pass.Sound maxSize) {text : String} {pattern : Pattern}
    (hlookup : pass.patterns.lookup text = some pattern) :
    Pattern.compile? maxSize text = some pattern := by
  obtain ⟨before, after, hpatterns, -⟩ := List.lookup_eq_some_iff.mp hlookup
  have hmem : (text, pattern) ∈ pass.patterns := by simp [hpatterns]
  exact h (text, pattern) hmem

/-- Looking a pattern up and compiling it have the same result. -/
theorem Sound.compile (h : pass.Sound maxSize) (text : String) :
    ∃ next, pass.compile maxSize text =
      ((Pattern.compile? maxSize text).elim (.error (.badPattern text)) .ok, next) ∧
      next.Sound maxSize := by
  unfold Pass.compile
  cases hlookup : pass.patterns.lookup text with
  | some pattern =>
    rw [h.compile?_of_lookup hlookup]
    exact ⟨pass, rfl, h⟩
  | none =>
    cases hcompile : Pattern.compile? maxSize text with
    | none => exact ⟨_, rfl, h.record _⟩
    | some pattern =>
      refine ⟨_, rfl, ?_⟩
      intro entry hentry
      rcases List.mem_cons.mp hentry with rfl | hentry
      · exact hcompile
      · exact h entry hentry

theorem Sound.compileFor (h : pass.Sound maxSize) (op : Operator) (literal : Literal) :
    ∃ next, pass.compileFor maxSize op literal = (literal.patternFor maxSize op, next) ∧
      next.Sound maxSize := by
  cases htakes : op.takesPattern with
  | false => cases literal <;> simp [Pass.compileFor, Literal.patternFor, htakes, h]
  | true =>
    cases literal with
    | text text =>
      obtain ⟨next, hcompile, hsound⟩ := h.compile text
      refine ⟨next, ?_, hsound⟩
      simp only [Pass.compileFor, Literal.patternFor, htakes, if_true, hcompile]
      cases Pattern.compile? maxSize text <;> rfl
    | number number | bool value | null => simp [Pass.compileFor, Literal.patternFor, h]

end Pass

section

variable {α : Type} (schema : Schema α) {maxSize : Nat} (item : α) {pass : Pass}

theorem Pass.Sound.evaluateComparison (h : pass.Sound maxSize) (field : String) (op : Operator)
    (literal : Literal) :
    ∃ next, Sift.evaluateComparison schema maxSize item field op literal pass =
      ((Expr.comparison field op literal).meaning schema maxSize item, next) ∧
      next.Sound maxSize := by
  unfold Sift.evaluateComparison Expr.meaning Schema.comparand
  cases schema.resolve field with
  | none => exact ⟨pass, rfl, h⟩
  | some f =>
    simp only
    cases hcheck : f.type.check op literal.kind with
    | error fault => exact ⟨pass, rfl, h⟩
    | ok _ =>
      obtain ⟨next, hcompile, hsound⟩ := h.compileFor op literal
      refine ⟨next, ?_, hsound⟩
      simp only [hcompile]
      cases hpattern : literal.patternFor maxSize op with
      | error error => rfl
      | ok pattern =>
        have hadmits := (f.type.check_eq_ok_iff op literal.kind).mp hcheck
        simp only [Value.satisfies_eq_answer (f.hasType_read item) hadmits hpattern]
        rfl

/-- Evaluation computes the meaning from every sound pass, and leaves a sound pass. -/
theorem Pass.Sound.evaluate (h : pass.Sound maxSize) (e : Expr) :
    ∃ next, e.evaluate schema maxSize item pass = (e.meaning schema maxSize item, next) ∧
      next.Sound maxSize := by
  induction e generalizing pass with
  | comparison field op literal => exact h.evaluateComparison schema item field op literal
  | and left right ihl ihr =>
    obtain ⟨next, hleft, hsound⟩ := ihl h
    simp only [Expr.evaluate, Expr.meaning, hleft]
    cases left.meaning schema maxSize item with
    | error error => exact ⟨next, rfl, hsound⟩
    | ok answer =>
      cases answer with
      | true => exact ihr hsound
      | false => exact ⟨next, rfl, hsound⟩
  | or left right ihl ihr =>
    obtain ⟨next, hleft, hsound⟩ := ihl h
    simp only [Expr.evaluate, Expr.meaning, hleft]
    cases left.meaning schema maxSize item with
    | error error => exact ⟨next, rfl, hsound⟩
    | ok answer =>
      cases answer with
      | true => exact ⟨next, rfl, hsound⟩
      | false => exact ihr hsound
  | not operand ih =>
    obtain ⟨next, hoperand, hsound⟩ := ih h
    refine ⟨next, ?_, hsound⟩
    simp only [Expr.evaluate, Expr.meaning, hoperand]
    cases operand.meaning schema maxSize item <;> rfl

/-- A run of a whole expression differs from its evaluation in the record of a failure alone. -/
theorem Pass.Sound.run (h : pass.Sound maxSize) (e : Expr) :
    ∃ next, e.run schema maxSize item pass = (e.meaning schema maxSize item, next) ∧
      next.Sound maxSize := by
  obtain ⟨next, hevaluate, hsound⟩ := h.evaluate schema item e
  unfold Expr.run
  rw [hevaluate]
  cases e.meaning schema maxSize item with
  | error error => exact ⟨_, rfl, hsound.record _⟩
  | ok answer => exact ⟨next, rfl, hsound⟩

end

theorem Expr.matchesItem_expr {α : Type} (e : Expr) (schema : Schema α) (maxSize : Nat)
    (item : α) :
    ((Filter.expr e).matchesItem schema maxSize item).1 = e.meaning schema maxSize item := by
  obtain ⟨next, hrun, -⟩ := (Pass.sound_start maxSize).run schema item e
  exact congrArg Prod.fst hrun

end Sift
