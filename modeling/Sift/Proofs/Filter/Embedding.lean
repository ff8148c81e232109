import Sift.Proofs.Filter.Observation

/-!
Filters on embedded parts. A part is filtered within an item as it is by itself: its fields are
found under their names, they are one embedding deeper, and a filter on them has the same outcome.
Only the suggestion for an unknown name takes the other fields of the item into account.
-/

namespace Sift

/-- A field of a part, and the same field of the items that the part is embedded in. -/
structure Field.Embedded {α β : Type} (part : α → β) (inner : Field β) (outer : Field α) :
    Prop where
  name_eq : outer.name = inner.name
  ident_eq : outer.ident = inner.ident
  type_eq : outer.type = inner.type
  depth_eq : outer.depth = inner.depth + 1
  read_eq : ∀ item, outer.read item = inner.read (part item)

theorem Field.embedded_embed {α β : Type} (part : α → β) (f : Field β) :
    Embedded part f (f.embed part) where
  name_eq := rfl
  ident_eq := rfl
  type_eq := Source.type_comap part f.source
  depth_eq := rfl
  read_eq := Source.read_comap part f.source

section

variable {α β : Type} {part : α → β} {schema : Schema β} {outer : Schema α} {name : String}

theorem Schema.embedded_of_resolve
    (h : outer.resolve name = (schema.resolve name).map (Field.embed part)) :
    Option.Rel (Field.Embedded part) (schema.resolve name) (outer.resolve name) := by
  rw [h]
  cases schema.resolve name with
  | none => exact .none
  | some f => exact .some (f.embedded_embed part)

theorem Schema.observe_of_resolve
    (h : outer.resolve name = (schema.resolve name).map (Field.embed part)) (item : α) :
    outer.observe item name = schema.observe (part item) name := by
  rw [observe, observe, h, Option.map_map]
  apply Option.map_congr
  intro f _
  have hembedded := f.embedded_embed part
  exact Prod.ext hembedded.type_eq (hembedded.read_eq item)

end

/-- Where nothing but a part is declared, every name stands for the field that it stands for in the
part, if for any, and every filter has the outcome on an item that it has on the part of it, with
the same events. Where other fields are declared around the part, this is so for all names that they
leave free, except that the suggestion for an unknown one may be another. -/
theorem Schema.embed_transparent {α β : Type} (part : α → β) (inner : Declarations β) :
    let schema := ofDeclarations inner
    let alone := ofDeclarations (.embed part inner .nil)
    (∀ name, Option.Rel (Field.Embedded part) (schema.resolve name) (alone.resolve name)) ∧
    (∀ (filter : Filter) maxSize item,
      filter.matchesItem alone maxSize item = filter.matchesItem schema maxSize (part item)) ∧
    ∀ before after : Declarations α,
      let among := ofDeclarations (before.append (.embed part inner after))
      (∀ name, (∀ f ∈ (before.append after).fields, f.name ≠ name) →
        Option.Rel (Field.Embedded part) (schema.resolve name) (among.resolve name)) ∧
      ∀ filter : Filter,
        (∀ name ∈ filter.fields, ∀ f ∈ (before.append after).fields, f.name ≠ name) →
        ∀ maxSize item,
          ((∃ answer, (filter.matchesItem among maxSize item).1 = .ok answer ∧
              (filter.matchesItem schema maxSize (part item)).1 = .ok answer) ∨
            ∃ error error', (filter.matchesItem among maxSize item).1 = .error error ∧
              (filter.matchesItem schema maxSize (part item)).1 = .error error' ∧
              error.SameButSuggestion error') ∧
          ((∀ name ∈ filter.fields, (schema.resolve name).isSome = true) →
            filter.matchesItem among maxSize item =
              filter.matchesItem schema maxSize (part item)) := by
  intro schema alone
  have halone (name : String) :
      alone.resolve name = (schema.resolve name).map (Field.embed part) :=
    resolve_embed part inner name
  refine ⟨?_, ?_, ?_⟩
  · intro name
    exact embedded_of_resolve (halone name)
  · intro filter maxSize item
    apply Filter.matchesItem_eq_of_observe
    intro name _
    refine ⟨observe_of_resolve (halone name) item, ?_⟩
    intro _
    exact suggest_eq_of_names_eq (names_embed part inner) name
  · intro before after among
    have hamong {name : String} (hfree : ∀ f ∈ (before.append after).fields, f.name ≠ name) :
        among.resolve name = (schema.resolve name).map (Field.embed part) :=
      resolve_embed_among hfree part inner
    refine ⟨fun name hfree => embedded_of_resolve (hamong hfree), ?_⟩
    intro filter hfree maxSize item
    constructor
    · apply And.left
      apply Filter.matchesItem_alike .same
      intro name hname
      exact ⟨observe_of_resolve (hamong (hfree name hname)) item, fun _ => .suggestion name _ _⟩
    · intro hknown
      apply Filter.matchesItem_eq_of_observe
      intro name hname
      refine ⟨observe_of_resolve (hamong (hfree name hname)) item, ?_⟩
      intro hnone
      have hsome := hknown name hname
      rw [hamong (hfree name hname), Option.map_eq_none_iff] at hnone
      rw [hnone] at hsome
      cases hsome

/-- Beside an owner, an item with a name and a flag is embedded, which has the flag embedded itself.
So the flag lies under two embeddings, and is absent where it is absent in the part. -/
theorem Schema.embed_transparent_flagged :
    let owned : Declarations (String × String × Option Bool) :=
      .field ⟨"owner", none, none⟩ (.scalar .string Prod.fst) (.embed Prod.snd .flagged .nil)
    let filter : Filter := .expr (.and (.comparison "name" .matching (.text "b"))
      (.comparison "set" .eq .null))
    (∃ f, (ofDeclarations owned).resolve "set" = some f ∧ f.ident = "flag" ∧ f.depth = 2 ∧
      f.read ("a", "ab", none) = .null) ∧
    filter.matchesItem (ofDeclarations owned) 1000 ("a", "ab", none) =
      filter.matchesItem (ofDeclarations .flagged) 1000 ("ab", none) := by
  intro owned filter
  obtain ⟨hresolve, hfilter⟩ := (embed_transparent Prod.snd .flagged).2.2
    (.field ⟨"owner", none, none⟩ (.scalar .string Prod.fst) .nil) .nil
  constructor
  · obtain ⟨f, hf⟩ : ∃ f, (ofDeclarations .flagged).resolve "set" = some f := ⟨_, rfl⟩
    have hset := hresolve "set" (by decide)
    rw [hf] at hset
    cases hset with
    | some hembedded =>
      cases hf
      exact ⟨_, rfl, hembedded.ident_eq, hembedded.depth_eq, hembedded.read_eq ("a", "ab", none)⟩
  · refine (hfilter filter ?_ 1000 ("a", "ab", none)).2 ?_
    · decide
    · decide

end Sift
