import Sift.Proofs.Filter.OperatorLaws
import Sift.Proofs.Filter.Suggestion

/-!
Text fields and text literals. Texts are compared by their characters, which is the same as
comparing their code points and the same as comparing their bytes. The field names of a schema are
in that order too.
-/

namespace Sift

namespace Operator

section

variable {a b : String}

/-- Texts relate as their bytes do. -/
theorem relates_bytes (op : Operator) :
    op.relates a.toUTF8.data.toList b.toUTF8.data.toList = op.relates a b :=
  relates_congr Utf8.toUTF8_lt_iff Utf8.toUTF8_lt_iff Utf8.toUTF8_eq_iff op

/-- Texts relate as their code points do. -/
theorem relates_codePoints (op : Operator) :
    op.relates (a.toList.map Char.toNat) (b.toList.map Char.toNat) = op.relates a b :=
  relates_congr Utf8.codePoints_lt_iff Utf8.codePoints_lt_iff Utf8.codePoints_eq_iff op

theorem relates_le_text_iff : le.relates a b = true ↔ a ≤ b := by
  rw [relates, decide_eq_true_iff]
  constructor
  · rintro (hlt | rfl)
    · exact String.not_lt.mp (String.lt_asymm hlt)
    · exact String.le_refl a
  · intro hle
    by_cases hlt : a < b
    · exact .inl hlt
    · exact .inr (String.le_antisymm hle (String.not_lt.mp hlt))

end

section

variable {names : List String} (h : names.Pairwise (· < ·)) {i j : Nat} {a b : String}
  (ha : names[i]? = some a) (hb : names[j]? = some b)

include h ha hb

theorem lt_iff_of_pairwise : a < b ↔ i < j := by
  obtain ⟨hi, rfl⟩ := List.getElem?_eq_some_iff.mp ha
  obtain ⟨hj, rfl⟩ := List.getElem?_eq_some_iff.mp hb
  have hmono := List.pairwise_iff_getElem.mp h
  rcases Nat.lt_trichotomy i j with hlt | rfl | hgt
  · exact iff_of_true (hmono i j hi hj hlt) hlt
  · exact iff_of_false (String.lt_irrefl _) (Nat.lt_irrefl i)
  · exact iff_of_false (String.lt_asymm (hmono j i hj hi hgt)) (Nat.lt_asymm hgt)

/-- In a list in order, elements relate as their places do. -/
theorem relates_of_pairwise (op : Operator) : op.relates a b = op.relates i j := by
  have hlt := lt_iff_of_pairwise h ha hb
  have hgt := lt_iff_of_pairwise h hb ha
  refine relates_congr hlt hgt ⟨?_, ?_⟩ op
  · rintro rfl
    have hij := mt hlt.mpr (String.lt_irrefl a)
    have hji := mt hgt.mpr (String.lt_irrefl a)
    omega
  · rintro rfl
    exact Option.some.inj (ha.symm.trans hb)

end

end Operator

theorem Value.HasType.admits_text {text : String} {type : SemanticType}
    (h : (Value.string text).HasType type) : type.admits .eq .text = true := by
  obtain ⟨inner, hinner, carried, heq⟩ := h.exists_scalar Value.noConfusion Value.noConfusion
  cases inner with
  | string => simp only [SemanticType.admits, hinner]
  | integer | unsignedInteger | float | bool => cases heq

section

variable {α : Type} {schema : Schema α} {item : α} {field : String}

def Schema.HasText (schema : Schema α) (item : α) (field : String) (a : String) : Prop :=
  ∃ f, schema.resolve field = some f ∧ f.read item = .string a

/-- What a comparison of the field with a text says of the item. -/
def Schema.compareText (schema : Schema α) (maxSize : Nat) (item : α) (field : String)
    (op : Operator) (t : String) : Except FilterError Bool :=
  ((Filter.expr (.comparison field op (.text t))).matchesItem schema maxSize item).1

/-- A text in a field is compared in the order of texts. -/
theorem Schema.HasText.compareText_eq {a : String} (h : schema.HasText item field a)
    {op : Operator} (hop : op.takesPattern = false) (maxSize : Nat) (t : String) :
    schema.compareText maxSize item field op t = .ok (op.relates a t) := by
  obtain ⟨f, hresolve, hread⟩ := h
  have htype := f.hasType_read item
  rw [hread] at htype
  have hadmits : f.type.admits .eq (Literal.text t).kind = true := htype.admits_text
  rw [compareText, Expr.matchesItem_expr,
    Expr.meaning_of_admits_eq hop (.inl rfl) hresolve hadmits, hread, Value.orderTo,
    Operator.holdsPartial, Operator.holds_compare_string]

end

/-- A text field is compared with a text as the bytes of the two compare, and as their code points
do. What the operators say of any texts is one total order: of two texts one is not greater than the
other, texts that are not greater than each other are the same, and what is not greater is so across
a third text. It is the order in which the field names of a schema stand. -/
theorem Filter.text_comparison {α : Type} {schema : Schema α} {item : α} {field : String}
    {a : String} (h : schema.HasText item field a) (maxSize : Nat) :
    (∀ (op : Operator) (t : String), op.takesPattern = false →
      schema.compareText maxSize item field op t =
        .ok (op.relates a.toUTF8.data.toList t.toUTF8.data.toList) ∧
      schema.compareText maxSize item field op t =
        .ok (op.relates (a.toList.map Char.toNat) (t.toList.map Char.toNat))) ∧
    (∀ {β : Type} (schema' : Schema β) (item' : β) (field' b : String),
      schema'.HasText item' field' b →
        (schema.compareText maxSize item field .le b = .ok true ∨
          schema'.compareText maxSize item' field' .le a = .ok true) ∧
        (schema.compareText maxSize item field .le b = .ok true →
          schema'.compareText maxSize item' field' .le a = .ok true → a = b) ∧
        ∀ t, schema.compareText maxSize item field .le b = .ok true →
          schema'.compareText maxSize item' field' .le t = .ok true →
            schema.compareText maxSize item field .le t = .ok true) ∧
    ∀ {γ : Type} (declarations : Declarations γ) (op : Operator) (i j : Nat) (t : String),
      op.takesPattern = false → (Schema.ofDeclarations declarations).names[i]? = some a →
        (Schema.ofDeclarations declarations).names[j]? = some t →
          schema.compareText maxSize item field op t = .ok (op.relates i j) := by
  have hle {β : Type} {schema' : Schema β} {item' : β} {field' b t : String}
      (h' : schema'.HasText item' field' b) :
      schema'.compareText maxSize item' field' .le t = .ok true ↔ b ≤ t := by
    rw [h'.compareText_eq rfl, Except.ok.injEq, Operator.relates_le_text_iff]
  refine ⟨?_, ?_, ?_⟩
  · intro op t hop
    rw [Operator.relates_bytes, Operator.relates_codePoints]
    exact ⟨h.compareText_eq hop maxSize t, h.compareText_eq hop maxSize t⟩
  · intro β schema' item' field' b h'
    simp only [hle h, hle h']
    exact ⟨String.le_total a b, String.le_antisymm, fun t => String.le_trans⟩
  · intro γ declarations op i j t hop ha ht
    rw [h.compareText_eq hop,
      Operator.relates_of_pairwise (Schema.pairwise_names declarations) ha ht]

def Schema.ofTexts : Schema String :=
  .ofDeclarations (.field ⟨"text", none, none⟩ (.scalar .string id) .nil)

/-- The last character of three bytes is less than the first one of four, and a text is less than
those that go on behind it. -/
theorem Filter.text_comparison_widths :
    Schema.ofTexts.compareText 0 "\uffff" "text" .lt "😀" = .ok true ∧
    Schema.ofTexts.compareText 0 "é" "text" .ge "é\uffff" = .ok false := by
  have hwide : Schema.ofTexts.HasText "\uffff" "text" "\uffff" := ⟨_, rfl, rfl⟩
  have hshort : Schema.ofTexts.HasText "é" "text" "é" := ⟨_, rfl, rfl⟩
  obtain ⟨hfirst, -, -⟩ := Filter.text_comparison hwide 0
  obtain ⟨hsecond, -, -⟩ := Filter.text_comparison hshort 0
  constructor
  · rw [(hfirst .lt "😀" rfl).2]
    decide
  · rw [(hsecond .ge "é\uffff" rfl).2]
    decide

end Sift
