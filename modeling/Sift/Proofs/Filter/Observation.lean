import Sift.Proofs.Filter.BooleanLaws
import Sift.Proofs.Filter.Errors
import Sift.Proofs.Filter.RoundTrip
import Sift.Proofs.Schema.Composition

/-!
What a filter observes. Evaluation sees no more of a schema and an item than the types and values of
the fields that the filter names, and for names that are not there the names to suggest. So other
fields may be added, and other values may change, without an effect on the filter.
-/

namespace Sift

/-- What there is to be seen under a name: the type of the field and its value in an item. -/
def Schema.observe {α : Type} (schema : Schema α) (item : α) (name : String) :
    Option (SemanticType × Value) :=
  (schema.resolve name).map (fun f => (f.type, f.read item))

/-- Errors that differ at most in the name that is suggested for an unknown one. -/
inductive FilterError.SameButSuggestion : FilterError → FilterError → Prop where
  | same (error : FilterError) : SameButSuggestion error error
  | suggestion (field : String) (suggested suggested' : Option String) :
    SameButSuggestion (.mismatch field (.noSuchField suggested))
      (.mismatch field (.noSuchField suggested'))

inductive EndAlike (related : FilterError → FilterError → Prop) :
    Except FilterError Bool × Pass → Except FilterError Bool × Pass → Prop where
  | answer (answer : Bool) (pass : Pass) : EndAlike related (.ok answer, pass) (.ok answer, pass)
  | error {error error' : FilterError} (h : related error error') (pass : Pass) :
    EndAlike related (.error error, pass) (.error error', pass)

theorem EndAlike.refl {related : FilterError → FilterError → Prop}
    (hrefl : ∀ error, related error error) (ending : Except FilterError Bool × Pass) :
    EndAlike related ending ending := by
  obtain ⟨outcome, pass⟩ := ending
  cases outcome with
  | error error => exact .error (hrefl error) pass
  | ok answer => exact .answer answer pass

theorem EndAlike.eq {ending ending' : Except FilterError Bool × Pass}
    (h : EndAlike (· = ·) ending ending') : ending = ending' := by
  cases h with
  | answer answer pass => rfl
  | error h pass => rw [h]

/-- Two schemas, each with an item, in which the same is seen under a name. If nothing is, the
errors are related. -/
structure SeenAlike {α β : Type} (related : FilterError → FilterError → Prop) (schema : Schema α)
    (item : α) (schema' : Schema β) (item' : β) (name : String) : Prop where
  observe_eq : schema.observe item name = schema'.observe item' name
  unknown : schema.resolve name = none →
    related (.mismatch name (.noSuchField (schema.suggest name)))
      (.mismatch name (.noSuchField (schema'.suggest name)))

section

variable {α β : Type} {related : FilterError → FilterError → Prop} {schema : Schema α}
  {item : α} {schema' : Schema β} {item' : β} {maxSize : Nat}

theorem SeenAlike.evaluateComparison {field : String} (hrefl : ∀ error, related error error)
    (h : SeenAlike related schema item schema' item' field) (op : Operator) (literal : Literal)
    (pass : Pass) :
    EndAlike related (Sift.evaluateComparison schema maxSize item field op literal pass)
      (Sift.evaluateComparison schema' maxSize item' field op literal pass) := by
  obtain ⟨hobserve, hunknown⟩ := h
  unfold Schema.observe at hobserve
  unfold Sift.evaluateComparison
  cases hresolve : schema.resolve field with
  | none =>
    rw [hresolve] at hobserve
    have hresolve' := Option.map_eq_none_iff.mp hobserve.symm
    rw [hresolve']
    exact .error (hunknown hresolve) pass
  | some f =>
    rw [hresolve] at hobserve
    obtain ⟨g, hresolve', hseen⟩ := Option.map_eq_some_iff.mp hobserve.symm
    obtain ⟨htype, hread⟩ := Prod.mk.inj hseen
    rw [hresolve']
    simp only [htype, hread]
    exact .refl hrefl _

/-- Evaluations of an expression end alike where the same is seen under the names in it. -/
theorem Expr.evaluate_alike {e : Expr} (hrefl : ∀ error, related error error)
    (h : ∀ name ∈ e.fields, SeenAlike related schema item schema' item' name) (pass : Pass) :
    EndAlike related (e.evaluate schema maxSize item pass)
      (e.evaluate schema' maxSize item' pass) := by
  induction e generalizing pass with
  | comparison field op literal =>
    exact (h field List.mem_cons_self).evaluateComparison hrefl op literal pass
  | and left right ihl ihr =>
    have hleft := ihl (fun name hname => h name (List.mem_append_left _ hname)) pass
    have hright := ihr (fun name hname => h name (List.mem_append_right _ hname))
    simp only [evaluate]
    generalize left.evaluate schema maxSize item pass = ending at hleft
    generalize left.evaluate schema' maxSize item' pass = ending' at hleft
    cases hleft with
    | answer answer next =>
      cases answer with
      | true => exact hright next
      | false => exact .answer false next
    | error herror next => exact .error herror next
  | or left right ihl ihr =>
    have hleft := ihl (fun name hname => h name (List.mem_append_left _ hname)) pass
    have hright := ihr (fun name hname => h name (List.mem_append_right _ hname))
    simp only [evaluate]
    generalize left.evaluate schema maxSize item pass = ending at hleft
    generalize left.evaluate schema' maxSize item' pass = ending' at hleft
    cases hleft with
    | answer answer next =>
      cases answer with
      | true => exact .answer true next
      | false => exact hright next
    | error herror next => exact .error herror next
  | not operand ih =>
    have hoperand := ih h pass
    simp only [evaluate]
    generalize operand.evaluate schema maxSize item pass = ending at hoperand
    generalize operand.evaluate schema' maxSize item' pass = ending' at hoperand
    cases hoperand with
    | answer answer next => exact .answer (!answer) next
    | error herror next => exact .error herror next

/-- Whole filters end alike too. Their logs agree but for the error in the record of a failure. -/
theorem Filter.matchesItem_alike {filter : Filter} (hrefl : ∀ error, related error error)
    (h : ∀ name ∈ filter.fields, SeenAlike related schema item schema' item' name) :
    ((∃ answer, (filter.matchesItem schema maxSize item).1 = .ok answer ∧
        (filter.matchesItem schema' maxSize item').1 = .ok answer) ∨
      ∃ error error', (filter.matchesItem schema maxSize item).1 = .error error ∧
        (filter.matchesItem schema' maxSize item').1 = .error error' ∧ related error error') ∧
    compiledPatterns (filter.matchesItem schema maxSize item).2 =
      compiledPatterns (filter.matchesItem schema' maxSize item').2 := by
  cases filter with
  | matchAll => exact ⟨.inl ⟨true, rfl, rfl⟩, rfl⟩
  | expr e =>
    have halike : EndAlike related (e.evaluate schema maxSize item .start)
        (e.evaluate schema' maxSize item' .start) := Expr.evaluate_alike hrefl h .start
    simp only [matchesItem, Expr.run]
    generalize e.evaluate schema maxSize item .start = ending at halike
    generalize e.evaluate schema' maxSize item' .start = ending' at halike
    cases halike with
    | answer answer next => exact ⟨.inl ⟨answer, rfl, rfl⟩, rfl⟩
    | error herror next =>
      refine ⟨.inr ⟨_, _, rfl, rfl, herror⟩, ?_⟩
      simp only [compiledPatterns_record_failed]

/-- A filter has the same answer or error and the same events where the same is seen under its
names and the same is suggested for those that are not there. -/
theorem Filter.matchesItem_eq_of_observe {filter : Filter}
    (h : ∀ name ∈ filter.fields, schema.observe item name = schema'.observe item' name ∧
      (schema.resolve name = none → schema.suggest name = schema'.suggest name)) :
    filter.matchesItem schema maxSize item = filter.matchesItem schema' maxSize item' := by
  cases filter with
  | matchAll => rfl
  | expr e =>
    have hseen (name : String) (hname : name ∈ e.fields) :
        SeenAlike (· = ·) schema item schema' item' name := by
      obtain ⟨hobserve, hsuggest⟩ := h name hname
      refine ⟨hobserve, ?_⟩
      intro hnone
      rw [hsuggest hnone]
    have heq : e.evaluate schema maxSize item .start = e.evaluate schema' maxSize item' .start :=
      (Expr.evaluate_alike (fun _ => rfl) hseen .start).eq
    simp only [matchesItem, Expr.run, heq]

end

/-- Fields of other names may be added to a schema, at any places, and nothing but the suggestion in
the error of an unknown name can differ afterwards. Items of which the fields that a filter names
have the same values are the same to the filter, and to the record of its evaluation. -/
theorem Filter.observes_named_fields {α : Type} (filter : Filter) (maxSize : Nat) :
    (∀ declarations declarations' : Declarations α,
      Declarations.Widened filter.fields declarations declarations' → ∀ item,
        let before := filter.matchesItem (.ofDeclarations declarations) maxSize item
        let after := filter.matchesItem (.ofDeclarations declarations') maxSize item
        ((∃ answer, before.1 = .ok answer ∧ after.1 = .ok answer) ∨
          ∃ error error', before.1 = .error error ∧ after.1 = .error error' ∧
            error.SameButSuggestion error') ∧
        compiledPatterns before.2 = compiledPatterns after.2) ∧
    ∀ (schema : Schema α) (item item' : α),
      (∀ name ∈ filter.fields, ∀ f, schema.resolve name = some f → f.read item = f.read item') →
        filter.matchesItem schema maxSize item = filter.matchesItem schema maxSize item' := by
  constructor
  · intro declarations declarations' hwidened item
    apply Filter.matchesItem_alike .same
    intro name hname
    refine ⟨?_, fun _ => .suggestion name _ _⟩
    rw [Schema.observe, Schema.observe, hwidened.resolve_eq hname]
  · intro schema item item' hread
    apply Filter.matchesItem_eq_of_observe
    intro name hname
    refine ⟨Option.map_congr ?_, fun _ => rfl⟩
    intro f hf
    rw [hread name hname f hf]

/-- A part that declared nothing comes to declare a flag. A filter on the name alone keeps its
answer and its patterns, and does not see whether the flag is set. -/
theorem Filter.observes_named_fields_flagged :
    let filter : Filter := .expr (.or (.comparison "name" .matching (.text "b"))
      (.comparison "nam" .eq .null))
    let plain : Declarations (String × Option Bool) :=
      .field ⟨"name", none, none⟩ (.scalar .string Prod.fst) (.embed Prod.snd .nil .nil)
    Declarations.Widened filter.fields plain .flagged ∧
    (filter.matchesItem (.ofDeclarations .flagged) 1000 ("ab", none)).1 = .ok true ∧
    compiledPatterns (filter.matchesItem (.ofDeclarations .flagged) 1000 ("ab", none)).2 = ["b"] ∧
    filter.matchesItem (.ofDeclarations .flagged) 1000 ("a", none) =
      filter.matchesItem (.ofDeclarations .flagged) 1000 ("a", some true) := by
  intro filter plain
  have hwidened : Declarations.Widened filter.fields plain .flagged := by
    refine .field _ _ (.embed _ (.newField _ _ ?_ .nil) .nil)
    decide
  obtain ⟨hwider, hitems⟩ := @Filter.observes_named_fields (String × Option Bool) filter 1000
  obtain ⟨houtcome, hcompiled⟩ := hwider plain .flagged hwidened ("ab", none)
  have hplain : (filter.matchesItem (.ofDeclarations plain) 1000 ("ab", none)).1 = .ok true := rfl
  refine ⟨hwidened, ?_, hcompiled.symm.trans rfl, ?_⟩
  · rcases houtcome with ⟨answer, hbefore, hafter⟩ | ⟨error, error', hbefore, -, -⟩
    · rw [hplain] at hbefore
      rw [hafter, ← hbefore]
    · rw [hplain] at hbefore
      cases hbefore
  · apply hitems
    intro name hname f hresolve
    simp only [filter, Filter.fields, Expr.fields, List.cons_append, List.nil_append,
      List.mem_cons, List.not_mem_nil, or_false] at hname
    rcases hname with rfl | rfl
    · cases hresolve
      rfl
    · cases hresolve

end Sift
