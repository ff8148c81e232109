import Sift.Proofs.Schema.Resolution

/-!
Schemas of declarations that stand within others. What a name stands for depends on its own
declarations alone. So a part brings all its fields along when it is embedded, each one embedding
deeper, and declarations of other names may be added anywhere.
-/

namespace Sift

namespace Schema

variable {α β : Type} {fields : List (Field α)} {name : String}

/-- Fields of other names may be left out of those that are entered. -/
theorem Ordered.named_foldl_enter (h : Ordered fields) (declared : List (Field α))
    (name : String) :
    named name (declared.foldl Schema.enter fields) =
      (declared.filter (fun f => f.name = name)).foldl
        (fun earlier new => some (preferred earlier new)) (named name fields) := by
  induction declared generalizing fields with
  | nil => rfl
  | cons new declared ih =>
    rw [List.foldl_cons, ih (h.enter new), h.named_enter]
    by_cases hnew : new.name = name
    · rw [if_pos hnew, List.filter_cons_of_pos (by simpa using hnew), List.foldl_cons]
    · rw [if_neg hnew, List.filter_cons_of_neg (by simpa using hnew)]

theorem resolve_eq_of_filter_eq {declarations declarations' : Declarations α}
    (h : declarations.fields.filter (fun f => f.name = name) =
      declarations'.fields.filter (fun f => f.name = name)) :
    (ofDeclarations declarations).resolve name = (ofDeclarations declarations').resolve name := by
  change named name (declarations.fields.foldl enter []) =
    named name (declarations'.fields.foldl enter [])
  rw [Ordered.named_foldl_enter .nil, Ordered.named_foldl_enter .nil, h]

/-- Fields are entered in the same way when all of them lie one embedding deeper. -/
theorem enter_map_embed (part : α → β) (fields : List (Field β)) (new : Field β) :
    enter (fields.map (Field.embed part)) (new.embed part) =
      (enter fields new).map (Field.embed part) := by
  induction fields with
  | nil => rfl
  | cons f rest ih =>
    have hname (g : Field β) : (g.embed part).name = g.name := rfl
    have hpreferred : preferred (some (f.embed part)) (new.embed part) =
        (preferred (some f) new).embed part := by
      simp only [preferred, Field.embed, Nat.add_le_add_iff_right]
      split <;> rfl
    rw [List.map_cons, enter_cons, enter_cons, hname, hname, hpreferred, ih]
    repeat' split
    all_goals rfl

/-- The schema of a part, where nothing but the part is declared. -/
theorem fields_ofDeclarations_embed (part : α → β) (inner : Declarations β) :
    (ofDeclarations (.embed part inner .nil)).fields =
      (ofDeclarations inner).fields.map (Field.embed part) := by
  have hfields (entered : List (Field β)) :
      (inner.fields.map (Field.embed part)).foldl enter (entered.map (Field.embed part)) =
        (inner.fields.foldl enter entered).map (Field.embed part) := by
    rw [List.foldl_map]
    induction inner.fields generalizing entered with
    | nil => rfl
    | cons f rest ih => rw [List.foldl_cons, List.foldl_cons, enter_map_embed, ih]
  simp only [ofDeclarations, Declarations.fields, List.append_nil]
  exact hfields []

theorem resolve_embed (part : α → β) (inner : Declarations β) (name : String) :
    (ofDeclarations (.embed part inner .nil)).resolve name =
      ((ofDeclarations inner).resolve name).map (Field.embed part) := by
  rw [resolve, fields_ofDeclarations_embed, List.find?_map]
  rfl

theorem names_embed (part : α → β) (inner : Declarations β) :
    (ofDeclarations (.embed part inner .nil)).names = (ofDeclarations inner).names := by
  rw [names, fields_ofDeclarations_embed, List.map_map]
  rfl

theorem suggest_eq_of_names_eq {schema : Schema α} {schema' : Schema β}
    (h : schema.names = schema'.names) (name : String) :
    schema.suggest name = schema'.suggest name := by
  simp only [suggest, h]

end Schema

def Declarations.append {α : Type} : Declarations α → Declarations α → Declarations α
  | .nil, others => others
  | .field names source rest, others => .field names source (rest.append others)
  | .embed part inner rest, others => .embed part inner (rest.append others)

theorem Declarations.fields_append {α : Type} (declarations others : Declarations α) :
    (declarations.append others).fields = declarations.fields ++ others.fields := by
  induction declarations with
  | nil => rfl
  | field names source rest ih => rw [append, fields, ih, fields, List.cons_append]
  | embed part inner rest _ ih => rw [append, fields, ih, fields, List.append_assoc]

/-- A name that is not declared around an embedded part is looked up in that part. -/
theorem Schema.resolve_embed_among {α β : Type} {before after : Declarations α} {name : String}
    (h : ∀ f ∈ (before.append after).fields, f.name ≠ name) (part : α → β)
    (inner : Declarations β) :
    (ofDeclarations (before.append (.embed part inner after))).resolve name =
      ((ofDeclarations inner).resolve name).map (Field.embed part) := by
  rw [Declarations.fields_append] at h
  have hbefore : before.fields.filter (fun f => f.name = name) = [] := by
    simpa using fun f hf => h f (List.mem_append_left _ hf)
  have hafter : after.fields.filter (fun f => f.name = name) = [] := by
    simpa using fun f hf => h f (List.mem_append_right _ hf)
  rw [← resolve_embed]
  apply resolve_eq_of_filter_eq
  simp only [Declarations.fields_append, Declarations.fields, List.filter_append, hbefore, hafter,
    List.nil_append, List.append_nil]

namespace Declarations

/-- The second declarations are the first ones with others put between them, at any places and
within embedded parts too. Those that are put in declare none of the given names. -/
inductive Widened (names : List String) : {α : Type} → Declarations α → Declarations α → Prop
  | nil {α : Type} : Widened names (.nil : Declarations α) .nil
  | field {α : Type} (fieldNames : FieldNames) (source : Source α) {rest rest' : Declarations α}
      (h : Widened names rest rest') :
    Widened names (.field fieldNames source rest) (.field fieldNames source rest')
  | embed {α β : Type} (part : α → β) {inner inner' : Declarations β}
      {rest rest' : Declarations α} (hinner : Widened names inner inner')
      (h : Widened names rest rest') :
    Widened names (.embed part inner rest) (.embed part inner' rest')
  | newField {α : Type} (fieldNames : FieldNames) (source : Source α)
      {rest rest' : Declarations α} (hnew : fieldNames.resolved ∉ names)
      (h : Widened names rest rest') :
    Widened names rest (.field fieldNames source rest')
  | newEmbed {α β : Type} (part : α → β) (inner : Declarations β) {rest rest' : Declarations α}
      (hnew : ∀ f ∈ inner.fields, f.name ∉ names) (h : Widened names rest rest') :
    Widened names rest (.embed part inner rest')

theorem Widened.filter_fields {names : List String} {α : Type}
    {declarations declarations' : Declarations α} (h : Widened names declarations declarations')
    {name : String} (hname : name ∈ names) :
    declarations'.fields.filter (fun f => f.name = name) =
      declarations.fields.filter (fun f => f.name = name) := by
  have hembed {α β : Type} (part : α → β) (fs : List (Field β)) :
      (fs.map (Field.embed part)).filter (fun f => f.name = name) =
        (fs.filter (fun f => f.name = name)).map (Field.embed part) := List.filter_map
  induction h with
  | nil => rfl
  | field fieldNames source h ih => simp only [fields, List.filter_cons, ih]
  | embed part hinner h ihInner ih =>
    simp only [fields, List.filter_append, hembed, ihInner, ih]
  | newField fieldNames source hnew h ih =>
    have hne : (⟨fieldNames, source, 0⟩ : Field _).name ≠ name := by
      rintro rfl
      exact hnew hname
    rw [fields, List.filter_cons_of_neg (by simpa using hne), ih]
  | newEmbed part inner hnew h ih =>
    have hnone : inner.fields.filter (fun f => f.name = name) = [] := by
      simp only [List.filter_eq_nil_iff, decide_eq_true_eq]
      rintro f hf rfl
      exact hnew f hf hname
    simp only [fields, List.filter_append, hembed, hnone, List.map_nil, List.nil_append, ih]

/-- The given names stand for the same fields as before. -/
theorem Widened.resolve_eq {names : List String} {α : Type}
    {declarations declarations' : Declarations α} (h : Widened names declarations declarations')
    {name : String} (hname : name ∈ names) :
    (Schema.ofDeclarations declarations').resolve name =
      (Schema.ofDeclarations declarations).resolve name :=
  Schema.resolve_eq_of_filter_eq (h.filter_fields hname)

end Declarations

end Sift
