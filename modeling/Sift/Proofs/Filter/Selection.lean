import Sift.Proofs.Filter.Meaning

namespace Sift

section

variable {α : Type} {schema : Schema α} {maxSize : Nat}

/-- The items that an expression holds of, or the error of the first item that has one. -/
def Expr.selection (schema : Schema α) (maxSize : Nat) (e : Expr) :
    List α → Except FilterError (List α)
  | [] => .ok []
  | item :: items =>
    (e.meaning schema maxSize item).bind (fun keep =>
      (e.selection schema maxSize items).map (fun kept => if keep then item :: kept else kept))

/-- What a pass has kept for earlier items has no part in the selection. -/
theorem Pass.Sound.select {pass : Pass} (h : pass.Sound maxSize) (e : Expr) (items : List α) :
    ∃ next, e.select schema maxSize items pass = (e.selection schema maxSize items, next) ∧
      next.Sound maxSize := by
  induction items generalizing pass with
  | nil => exact ⟨pass, rfl, h⟩
  | cons item items ih =>
    obtain ⟨afterItem, hrun, hafterItem⟩ := h.run schema item e
    simp only [Expr.select, Expr.selection, hrun]
    cases e.meaning schema maxSize item with
    | error error => exact ⟨afterItem, rfl, hafterItem⟩
    | ok keep =>
      obtain ⟨next, hselect, hnext⟩ := ih hafterItem
      refine ⟨next, ?_, hnext⟩
      simp only [hselect]
      cases e.selection schema maxSize items <;> rfl

/-- Whether evaluation keeps an item. An item that evaluation fails on is not kept. -/
def Filter.keeps (filter : Filter) (schema : Schema α) (maxSize : Nat) (item : α) : Bool :=
  match (filter.matchesItem schema maxSize item).1 with
  | .ok answer => answer
  | .error _ => false

theorem Filter.select_expr (e : Expr) (items : List α) :
    ((Filter.expr e).select schema maxSize items).1 = e.selection schema maxSize items := by
  obtain ⟨next, hselect, -⟩ := (Pass.sound_start maxSize).select e items
  exact congrArg Prod.fst hselect

theorem Expr.selection_of_ok (e : Expr) {items : List α}
    (hall : ∀ item ∈ items, ∃ answer, e.meaning schema maxSize item = .ok answer) :
    e.selection schema maxSize items =
      .ok (items.filter ((Filter.expr e).keeps schema maxSize)) := by
  induction items with
  | nil => rfl
  | cons item items ih =>
    obtain ⟨⟨answer, hanswer⟩, hrest⟩ := List.forall_mem_cons.mp hall
    have hkeeps : (Filter.expr e).keeps schema maxSize item = answer := by
      simp only [Filter.keeps, e.matchesItem_expr, hanswer]
    rw [List.filter_cons, hkeeps, Expr.selection, hanswer, ih hrest]
    rfl

theorem Expr.selection_of_error (e : Expr) {before after : List α} {item : α} {error : FilterError}
    (hbefore : ∀ earlier ∈ before, ∃ answer, e.meaning schema maxSize earlier = .ok answer)
    (hitem : e.meaning schema maxSize item = .error error) :
    e.selection schema maxSize (before ++ item :: after) = .error error := by
  induction before with
  | nil =>
    rw [List.nil_append, Expr.selection, hitem]
    rfl
  | cons first before ih =>
    obtain ⟨⟨answer, hanswer⟩, hrest⟩ := List.forall_mem_cons.mp hbefore
    rw [List.cons_append, Expr.selection, hanswer, ih hrest]
    rfl

/-- Of items that are not all evaluated without an error there is a first one that is not. -/
theorem Expr.exists_first_error (e : Expr) {items : List α}
    (h : ¬ ∀ item ∈ items, ∃ answer, e.meaning schema maxSize item = .ok answer) :
    ∃ before item after error, items = before ++ item :: after ∧
      (∀ earlier ∈ before, ∃ answer, e.meaning schema maxSize earlier = .ok answer) ∧
      e.meaning schema maxSize item = .error error := by
  induction items with
  | nil => exact absurd (by simp) h
  | cons item items ih =>
    cases hmeaning : e.meaning schema maxSize item with
    | error error => exact ⟨[], item, items, error, rfl, by simp, hmeaning⟩
    | ok answer =>
      have hrest : ¬ ∀ item ∈ items, ∃ answer, e.meaning schema maxSize item = .ok answer := by
        intro hall
        exact h (List.forall_mem_cons.mpr ⟨⟨answer, hmeaning⟩, hall⟩)
      obtain ⟨before, failing, after, error, rfl, hbefore, hfailing⟩ := ih hrest
      refine ⟨item :: before, failing, after, error, rfl, ?_, hfailing⟩
      exact List.forall_mem_cons.mpr ⟨⟨answer, hmeaning⟩, hbefore⟩

def Schema.ofName : Schema String :=
  .ofDeclarations (.field ⟨"name", none, none⟩ (.scalar .string id) .nil)

/-- If a filter can be evaluated on every item by itself, the selection is the items it matches, in
their order; otherwise it is the error of the first item that has one. For the patterns that a pass
has kept have no part in any evaluation. -/
theorem Filter.select_agrees_matchesItem (filter : Filter) (schema : Schema α) (maxSize : Nat)
    (items : List α) :
    ((∀ item ∈ items, ∃ answer, (filter.matchesItem schema maxSize item).1 = .ok answer) →
      (filter.select schema maxSize items).1 = .ok (items.filter (filter.keeps schema maxSize))) ∧
    ((¬ ∀ item ∈ items, ∃ answer, (filter.matchesItem schema maxSize item).1 = .ok answer) →
      ∃ before item after error, items = before ++ item :: after ∧
        (∀ earlier ∈ before,
          ∃ answer, (filter.matchesItem schema maxSize earlier).1 = .ok answer) ∧
        (filter.matchesItem schema maxSize item).1 = .error error ∧
        (filter.select schema maxSize items).1 = .error error) ∧
    (∀ pass : Pass, pass.Sound maxSize → ∀ (e : Expr) (item : α),
      (e.evaluate schema maxSize item pass).1 = (e.evaluate schema maxSize item .start).1 ∧
      (e.evaluate schema maxSize item pass).2.Sound maxSize) := by
  refine ⟨?_, ?_, ?_⟩
  · intro hall
    cases filter with
    | matchAll =>
      have hfilter : items.filter (Filter.matchAll.keeps schema maxSize) = items :=
        List.filter_eq_self.mpr (fun _ _ => rfl)
      rw [hfilter]
      rfl
    | expr e =>
      simp only [e.matchesItem_expr] at hall
      rw [Filter.select_expr, e.selection_of_ok hall]
  · intro hnot
    cases filter with
    | matchAll => exact absurd (fun _ _ => ⟨true, rfl⟩) hnot
    | expr e =>
      simp only [e.matchesItem_expr] at hnot ⊢
      obtain ⟨before, item, after, error, rfl, hbefore, hitem⟩ := e.exists_first_error hnot
      refine ⟨before, item, after, error, rfl, hbefore, hitem, ?_⟩
      rw [Filter.select_expr, e.selection_of_error hbefore hitem]
  · intro pass hpass e item
    obtain ⟨next, hevaluate, hnext⟩ := hpass.evaluate schema item e
    obtain ⟨fresh, hfresh, -⟩ := (Pass.sound_start maxSize).evaluate schema item e
    rw [hevaluate, hfresh]
    exact ⟨rfl, hnext⟩

end

/-- The second item of the second selection reaches a field that is not there. The third evaluation
finds its pattern compiled by an earlier one. -/
theorem Filter.select_names :
    ((Filter.expr (.comparison "name" .matching (.text "b"))).select Schema.ofName 1000
      ["ab", "a"]).1 = .ok ["ab"] ∧
    (∃ error, ((Filter.expr (.or (.comparison "name" .eq (.text "a"))
      (.comparison "size" .eq .null))).select Schema.ofName 1000 ["a", "b"]).1 = .error error) ∧
    ((Expr.comparison "name" .matching (.text "b")).evaluate Schema.ofName 1000 "a"
      ((Expr.comparison "name" .matching (.text "b")).evaluate Schema.ofName 1000 "ab" .start).2).1 =
      ((Expr.comparison "name" .matching (.text "b")).evaluate Schema.ofName 1000 "a" .start).1 := by
  refine ⟨?_, ?_, ?_⟩
  · have hall : ∀ item ∈ ["ab", "a"], ∃ answer, ((Filter.expr
        (.comparison "name" .matching (.text "b"))).matchesItem Schema.ofName 1000 item).1 =
          .ok answer := by
      simp only [List.forall_mem_cons, List.not_mem_nil, false_imp_iff, implies_true, and_true]
      exact ⟨⟨true, rfl⟩, ⟨false, rfl⟩⟩
    have hselect := (Filter.select_agrees_matchesItem _ _ _ _).1 hall
    exact hselect
  · have hnot : ¬ ∀ item ∈ ["a", "b"], ∃ answer, ((Filter.expr
        (.or (.comparison "name" .eq (.text "a")) (.comparison "size" .eq .null))).matchesItem
          Schema.ofName 1000 item).1 = .ok answer := by
      intro hall
      obtain ⟨answer, hanswer⟩ := hall "b" (by simp)
      cases hanswer
    obtain ⟨-, -, -, error, -, -, -, hselect⟩ :=
      (Filter.select_agrees_matchesItem _ _ _ _).2.1 hnot
    exact ⟨error, hselect⟩
  · have hsound := ((Filter.select_agrees_matchesItem .matchAll Schema.ofName 1000 []).2.2 .start
      (Pass.sound_start 1000) (.comparison "name" .matching (.text "b")) "ab").2
    exact ((Filter.select_agrees_matchesItem .matchAll Schema.ofName 1000 []).2.2 _ hsound
      (.comparison "name" .matching (.text "b")) "a").1

end Sift
