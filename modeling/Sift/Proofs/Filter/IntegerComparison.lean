import Sift.Proofs.Binary64.Integers
import Sift.Proofs.Filter.OperatorLaws

/-!
Integer fields and number literals. The integer of a field is rounded before it is compared, so an
integer far from zero may be found equal to a literal that it only lies near to. But rounding does
not reverse an order: what is found to be greater or less is so, and what is equal, or not less, is
found to be.
-/

namespace Sift

section

variable {a b : Int}

theorem Operator.relates_gt_iff : gt.relates a b = true ↔ b < a := by
  simp [relates]

theorem Operator.relates_lt_iff : lt.relates a b = true ↔ a < b := by
  simp [relates]

theorem Operator.relates_ge_iff : ge.relates a b = true ↔ b ≤ a := by
  rw [relates, decide_eq_true_iff, eq_comm, ← Int.le_iff_lt_or_eq]

theorem Operator.relates_le_iff : le.relates a b = true ↔ a ≤ b := by
  rw [relates, decide_eq_true_iff, ← Int.le_iff_lt_or_eq]

theorem Operator.relates_eq_iff : eq.relates a b = true ↔ a = b := by
  simp [relates]

end

namespace Binary64

/-- Finite numbers relate as their values in units do. -/
theorem relatesNumbers_signed (op : Operator) (negative negative' : Bool) (m m' : Magnitude) :
    op.relatesNumbers (signed negative m) (signed negative' m') =
      op.relates (signed negative m).units (signed negative' m').units := rfl

/-- An integer that is a number relates to numbers as its value does. -/
theorem relates_units_ofInt {i : Int} (h : i.natAbs ≤ 2 ^ 53) (op : Operator) (n : Binary64) :
    op.relates (ofInt i).units n.units = op.relates (i : ℚ) n.value := by
  rw [units_ofInt_of_natAbs_le h]
  apply Operator.relates_congr
  · exact (lt_value_iff n i).symm
  · exact (value_lt_iff n i).symm
  · rw [eq_comm, ← value_eq_iff, eq_comm]

end Binary64

def Value.integer? : Value → Option Int
  | .integer value => some value.toInt
  | .unsigned value => some value.toNat
  | _ => none

theorem Value.number?_of_integer? {value : Value} {i : Int} (h : value.integer? = some i) :
    value.number? = some (.ofInt i) := by
  cases value with
  | integer value | unsigned value =>
    cases h
    rfl
  | null | string text | float value | bool value | message => cases h

theorem Value.HasType.admits_number {value : Value} {type : SemanticType} {x : Binary64}
    (h : value.HasType type) (hnumber : value.number? = some x) :
    type.admits .eq .number = true := by
  have hother {absent : Value} (habsent : absent.number? = none) : value ≠ absent := by
    rintro rfl
    rw [habsent] at hnumber
    cases hnumber
  obtain ⟨inner, hinner, carried, rfl⟩ := h.exists_scalar (hother rfl) (hother rfl)
  cases inner with
  | integer | unsignedInteger | float =>
    simp only [SemanticType.admits, hinner]
    rfl
  | string | bool => cases hnumber

section

variable {α : Type} {schema : Schema α} {item : α} {field : String}

/-- The field is there, and in the item it is present and is this integer. -/
def Schema.HasInteger (schema : Schema α) (item : α) (field : String) (i : Int) : Prop :=
  ∃ f, schema.resolve field = some f ∧ (f.read item).integer? = some i

def Schema.HasFloat (schema : Schema α) (item : α) (field : String) (x : Binary64) : Prop :=
  ∃ f, schema.resolve field = some f ∧ f.read item = .float x

/-- What a comparison of the field with a number says of the item. -/
def Schema.compareNumber (schema : Schema α) (maxSize : Nat) (item : α) (field : String)
    (op : Operator) (n : Binary64) : Except FilterError Bool :=
  ((Filter.expr (.comparison field op (.number n))).matchesItem schema maxSize item).1

/-- A number in a field is compared as a number. -/
theorem Schema.compareNumber_eq {f : Field α} (hresolve : schema.resolve field = some f)
    {x : Binary64} (hx : (f.read item).number? = some x) {op : Operator}
    (hop : op.takesPattern = false) (maxSize : Nat) (n : Binary64) :
    schema.compareNumber maxSize item field op n = .ok (op.relatesNumbers x n) := by
  have hadmits : f.type.admits .eq (Literal.number n).kind = true :=
    (f.hasType_read item).admits_number hx
  rw [compareNumber, Expr.matchesItem_expr,
    Expr.meaning_of_admits_eq hop (.inr rfl) hresolve hadmits, Value.orderTo, hx, Option.bind_some,
    Operator.holdsPartial_compare?]

theorem Binary64.exists_signed {n : Binary64} (hn : n.isFinite = true) :
    ∃ negative m, n = .signed negative m := by
  cases n with
  | nan => cases hn
  | signed negative m => exact ⟨negative, m, rfl⟩

/-- An integer in a field is rounded, and then compared in units. -/
theorem Schema.HasInteger.compareNumber_eq {i : Int} (h : schema.HasInteger item field i)
    {op : Operator} (hop : op.takesPattern = false) (maxSize : Nat) (negative : Bool)
    (m : Magnitude) :
    schema.compareNumber maxSize item field op (.signed negative m) =
      .ok (op.relates (Binary64.ofInt i).units (Binary64.signed negative m).units) := by
  obtain ⟨f, hresolve, hinteger⟩ := h
  exact Schema.compareNumber_eq hresolve (Value.number?_of_integer? hinteger) hop maxSize _

end

/-- An integer field is compared soundly with a finite number. All operators but those that take a
pattern have an answer, and for integers up to two to the power 53 it is how the integer stands to
the value of the number. For all others a strict order that is found is there, and where the integer
is equal to the number, or not less or not greater, that is found. A larger integer is found to be
greater than all that a smaller one is. It makes no difference whether a field is signed, whether it
may be absent, or whether it holds the same value as a floating-point number. -/
theorem Filter.integer_comparison {α : Type} {schema : Schema α} {item : α} {field : String}
    {i : Int} (h : schema.HasInteger item field i) {n : Binary64} (hn : n.isFinite = true)
    (maxSize : Nat) :
    (∀ op : Operator, op.takesPattern = false →
      ∃ answer, schema.compareNumber maxSize item field op n = .ok answer) ∧
    (i.natAbs ≤ 2 ^ 53 → ∀ op : Operator, op.takesPattern = false →
      schema.compareNumber maxSize item field op n = .ok (op.relates (i : ℚ) n.value)) ∧
    (schema.compareNumber maxSize item field .gt n = .ok true → n.value < i) ∧
    (schema.compareNumber maxSize item field .lt n = .ok true → i < n.value) ∧
    (n.value ≤ i → schema.compareNumber maxSize item field .ge n = .ok true) ∧
    (i ≤ n.value → schema.compareNumber maxSize item field .le n = .ok true) ∧
    (n.value = i → schema.compareNumber maxSize item field .eq n = .ok true) ∧
    ∀ {β : Type} (schema' : Schema β) (item' : β) (field' : String),
      (∀ i', schema'.HasInteger item' field' i' → i ≤ i' → ∀ op : Operator,
        op = .ge ∨ op = .gt → schema.compareNumber maxSize item field op n = .ok true →
          schema'.compareNumber maxSize item' field' op n = .ok true) ∧
      (schema'.HasInteger item' field' i ∨
        (∃ x : Binary64, schema'.HasFloat item' field' x ∧ x.isFinite = true ∧ x.value = i) →
        ∀ op : Operator, op.takesPattern = false →
          schema'.compareNumber maxSize item' field' op n =
            schema.compareNumber maxSize item field op n) := by
  obtain ⟨negative, m, rfl⟩ := Binary64.exists_signed hn
  have hcompare {op : Operator} (hop : op.takesPattern = false) :=
    h.compareNumber_eq hop maxSize negative m
  refine ⟨?_, ?_, ?_, ?_, ?_, ?_, ?_, ?_⟩
  · intro op hop
    exact ⟨_, hcompare hop⟩
  · intro hsmall op hop
    rw [hcompare hop, Binary64.relates_units_ofInt hsmall]
  · intro hgt
    rw [hcompare rfl, Except.ok.injEq, Operator.relates_gt_iff] at hgt
    exact Binary64.value_lt_of_units_lt hgt
  · intro hlt
    rw [hcompare rfl, Except.ok.injEq, Operator.relates_lt_iff] at hlt
    exact Binary64.lt_value_of_units_lt hlt
  · intro hle
    rw [hcompare rfl, Except.ok.injEq, Operator.relates_ge_iff]
    exact Binary64.le_units_ofInt ((Binary64.value_le_iff _ i).mp hle)
  · intro hle
    rw [hcompare rfl, Except.ok.injEq, Operator.relates_le_iff]
    exact Binary64.units_ofInt_le ((Binary64.le_value_iff _ i).mp hle)
  · intro heq
    rw [hcompare rfl, Except.ok.injEq, Operator.relates_eq_iff]
    exact Binary64.units_ofInt_of_value_eq heq
  · intro β schema' item' field'
    constructor
    · intro i' h' hle op hop hholds
      have hmono := Binary64.units_ofInt_mono hle
      rcases hop with rfl | rfl
      · rw [hcompare rfl, Except.ok.injEq, Operator.relates_ge_iff] at hholds
        rw [h'.compareNumber_eq rfl, Except.ok.injEq, Operator.relates_ge_iff]
        exact Int.le_trans hholds hmono
      · rw [hcompare rfl, Except.ok.injEq, Operator.relates_gt_iff] at hholds
        rw [h'.compareNumber_eq rfl, Except.ok.injEq, Operator.relates_gt_iff]
        exact Int.lt_of_lt_of_le hholds hmono
    · rintro (h' | ⟨x, ⟨f, hresolve, hread⟩, hx, hvalue⟩) op hop
      · rw [hcompare hop, h'.compareNumber_eq hop]
      · obtain ⟨negative', m', rfl⟩ := Binary64.exists_signed hx
        have hnumber : (f.read item').number? = some (.signed negative' m') := by
          rw [hread]
          rfl
        rw [hcompare hop, Schema.compareNumber_eq hresolve hnumber hop,
          Binary64.relatesNumbers_signed, Binary64.units_ofInt_of_value_eq hvalue]

def Schema.ofSigned : Schema Int64 :=
  .ofDeclarations (.field ⟨"n", none, none⟩ (.scalar .integer id) .nil)

def Schema.ofUnsigned : Schema (Option UInt64) :=
  .ofDeclarations (.field ⟨"n", none, none⟩ (.boxed .unsignedInteger id) .nil)

/-- The integer behind two to the power 53 is no number and is rounded down. It is not below the
number that it is rounded to, signed or unsigned, and neither is the largest of all integers. -/
theorem Filter.integer_comparison_rounded :
    Schema.ofSigned.compareNumber 0 9007199254740993 "n" .ge (.ofInt 9007199254740992) =
      .ok true ∧
    Schema.ofUnsigned.compareNumber 0 (some 9007199254740993) "n" .ge
      (.ofInt 9007199254740992) = .ok true ∧
    Schema.ofUnsigned.compareNumber 0 (some 18446744073709551615) "n" .ge
      (.ofInt 9007199254740992) = .ok true := by
  have hsigned : Schema.ofSigned.HasInteger 9007199254740993 "n" 9007199254740993 :=
    ⟨_, rfl, rfl⟩
  have hunsigned : Schema.ofUnsigned.HasInteger (some 9007199254740993) "n" 9007199254740993 :=
    ⟨_, rfl, rfl⟩
  have hlargest :
      Schema.ofUnsigned.HasInteger (some 18446744073709551615) "n" 18446744073709551615 :=
    ⟨_, rfl, rfl⟩
  have hfinite : (Binary64.ofInt 9007199254740992).isFinite = true := by decide +kernel
  have hvalue : (Binary64.ofInt 9007199254740992).value = (9007199254740992 : Int) :=
    Binary64.value_ofInt (by decide)
  obtain ⟨-, -, -, -, hge, -, -, hothers⟩ := Filter.integer_comparison hsigned hfinite 0
  have hle : (Binary64.ofInt 9007199254740992).value ≤ (9007199254740993 : Int) := by
    rw [hvalue]
    norm_num
  obtain ⟨-, hsame⟩ := hothers Schema.ofUnsigned (some 9007199254740993) "n"
  obtain ⟨hmore, -⟩ := hothers Schema.ofUnsigned (some 18446744073709551615) "n"
  refine ⟨hge hle, ?_, ?_⟩
  · rw [hsame (.inl hunsigned) .ge rfl]
    exact hge hle
  · exact hmore _ hlargest (by decide) .ge (.inl rfl) (hge hle)

end Sift
