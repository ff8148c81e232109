import Mathlib.Data.List.Dedup
import Mathlib.Data.List.Induction
import Mathlib.Logic.Relation
import Sift.Proofs.Schema.Entering
import Sift.Proofs.Text.Utf8Order

/-!
Which declaration the name of a field stands for. The declarations are entered one by one, and after
each of them the schema holds, for every name declared so far, the first of its declarations under
the fewest embeddings.
-/

namespace Sift

/-- The declared fields from the outside inwards, under so many embeddings already and with the way
from an item to the part that they are declared of. -/
def Declarations.flatten {ω : Type} : {α : Type} → Nat → (ω → α) → Declarations α → List (Field ω)
  | _, _, _, .nil => []
  | _, depth, part, .field names source rest =>
    ⟨names, source.comap part, depth⟩ :: rest.flatten depth part
  | _, depth, part, .embed inward inner rest =>
    inner.flatten (depth + 1) (fun item => inward (part item)) ++ rest.flatten depth part

theorem Source.comap_comap {α β γ : Type} (outer : α → β) (inner : β → γ) (source : Source γ) :
    (source.comap inner).comap outer = source.comap (fun item => inner (outer item)) := by
  cases source <;> rfl

theorem Source.comap_id {α : Type} (source : Source α) : source.comap id = source := by
  cases source <;> rfl

theorem Declarations.flatten_eq_map {α ω : Type} (depth : Nat) (part : ω → α)
    (declarations : Declarations α) :
    declarations.flatten depth part = declarations.fields.map (fun f =>
      ⟨f.names, f.source.comap part, f.depth + depth⟩) := by
  induction declarations generalizing depth with
  | nil => rfl
  | field names source rest ih => simp [flatten, fields, ih]
  | embed inward inner rest ihInner ihRest =>
    rw [flatten, fields, ihInner, ihRest, List.map_append, List.map_map]
    congr 1
    apply List.map_congr_left
    intro f _
    have hdepth : f.depth + (depth + 1) = f.depth + 1 + depth := by omega
    simp [Field.embed, Source.comap_comap, hdepth]

theorem Declarations.flatten_zero {α : Type} (declarations : Declarations α) :
    declarations.flatten 0 id = declarations.fields := by
  rw [flatten_eq_map]
  simp [Source.comap_id]

/-- The name that filters use is the wire name, or else the display name, or else the identifier. -/
theorem FieldNames.resolved_eq_iff (names : FieldNames) (name : String) :
    names.resolved = name ↔ names.wire = some name ∨
      names.wire = none ∧ (names.display = some name ∨
        names.display = none ∧ names.ident = name) := by
  obtain ⟨ident, display, wire⟩ := names
  cases wire <;> cases display <;> simp [resolved]

namespace Schema

variable {α : Type} {declared : List (Field α)} {f g new : Field α} {name : String}

/-- Of the declarations of a name this one counts: none stands under fewer embeddings, and none that
comes earlier under as few. -/
def Counts (declared : List (Field α)) (name : String) (f : Field α) : Prop :=
  f.name = name ∧ ∃ earlier later, declared = earlier ++ f :: later ∧
    (∀ g ∈ earlier, g.name = name → f.depth < g.depth) ∧
    ∀ g ∈ later, g.name = name → f.depth ≤ g.depth

namespace Counts

theorem mem (h : Counts declared name f) : f ∈ declared := by
  obtain ⟨-, earlier, later, rfl, -, -⟩ := h
  simp

theorem depth_le (h : Counts declared name f) (hg : g ∈ declared) (hname : g.name = name) :
    f.depth ≤ g.depth := by
  obtain ⟨-, earlier, later, rfl, hearlier, hlater⟩ := h
  rcases List.mem_append.mp hg with hg | hg
  · exact Nat.le_of_lt (hearlier g hg hname)
  · rcases List.mem_cons.mp hg with rfl | hg
    · exact Nat.le_refl g.depth
    · exact hlater g hg hname

theorem find?_eq (h : Counts declared name f) :
    declared.find? (fun g => g.name == name && g.depth == f.depth) = some f := by
  obtain ⟨hname, earlier, later, rfl, hearlier, -⟩ := h
  apply List.find?_eq_some_iff_append.mpr
  refine ⟨by simp [hname], earlier, later, rfl, ?_⟩
  intro g hg
  by_cases hsame : g.name = name
  · have hlt := hearlier g hg hsame
    simp [hsame, Nat.ne_of_gt hlt]
  · simp [hsame]

theorem unique (h : Counts declared name f) (h' : Counts declared name g) : f = g := by
  have hdepth : f.depth = g.depth :=
    Nat.le_antisymm (h.depth_le h'.mem h'.1) (h'.depth_le h.mem h.1)
  have hf := h.find?_eq
  rw [hdepth, h'.find?_eq] at hf
  exact (Option.some.inj hf).symm

theorem stays (h : Counts declared name f) (hnew : new.name = name → f.depth ≤ new.depth) :
    Counts (declared ++ [new]) name f := by
  obtain ⟨hname, earlier, later, rfl, hearlier, hlater⟩ := h
  refine ⟨hname, earlier, later ++ [new], by simp, hearlier, ?_⟩
  intro g hg hsame
  rcases List.mem_append.mp hg with hg | hg
  · exact hlater g hg hsame
  · rw [List.mem_singleton.mp hg] at hsame ⊢
    exact hnew hsame

theorem last (hname : new.name = name)
    (hdeeper : ∀ g ∈ declared, g.name = name → new.depth < g.depth) :
    Counts (declared ++ [new]) name new :=
  ⟨hname, declared, [], rfl, hdeeper, by simp⟩

end Counts

theorem ordered_foldl_enter {fields : List (Field α)} (h : Ordered fields)
    (declared : List (Field α)) : Ordered (declared.foldl enter fields) := by
  induction declared generalizing fields with
  | nil => exact h
  | cons new declared ih => exact ih (h.enter new)

/-- After any number of declarations the one that counts is found under each name that has been
declared, and nothing under other names. -/
theorem named_foldl_enter (declared : List (Field α)) (name : String) :
    (named name (declared.foldl enter []) = none ∧ ∀ f ∈ declared, f.name ≠ name) ∨
    ∃ f, named name (declared.foldl enter []) = some f ∧ Counts declared name f := by
  induction declared using List.reverseRecOn with
  | nil => exact .inl ⟨rfl, by simp⟩
  | append_singleton declared new ih =>
    have hordered : Ordered (declared.foldl enter []) := ordered_foldl_enter .nil declared
    rw [List.foldl_append, List.foldl_cons, List.foldl_nil, hordered.named_enter]
    by_cases hnew : new.name = name
    · rw [if_pos hnew]
      right
      rcases ih with ⟨hnone, hother⟩ | ⟨f, hsome, hcounts⟩
      · rw [hnone]
        refine ⟨new, rfl, .last hnew ?_⟩
        intro g hg hsame
        exact absurd hsame (hother g hg)
      · rw [hsome]
        by_cases hle : f.depth ≤ new.depth
        · exact ⟨f, by simp [preferred, hle], hcounts.stays (fun _ => hle)⟩
        · refine ⟨new, by simp [preferred, hle], .last hnew ?_⟩
          intro g hg hsame
          have hleast := hcounts.depth_le hg hsame
          omega
    · rw [if_neg hnew]
      rcases ih with ⟨hnone, hother⟩ | ⟨f, hsome, hcounts⟩
      · left
        refine ⟨hnone, ?_⟩
        intro g hg
        rcases List.mem_append.mp hg with hg | hg
        · exact hother g hg
        · rw [List.mem_singleton.mp hg]
          exact hnew
      · right
        exact ⟨f, hsome, hcounts.stays (fun hsame => absurd hsame hnew)⟩

/-- Entering a field before fields that stand deeper is the same as entering it behind them. -/
theorem foldl_enter_behind {fields deeper : List (Field α)} (h : Ordered fields)
    (hdeeper : ∀ g ∈ deeper, f.depth < g.depth) :
    (f :: deeper).foldl enter fields = (deeper ++ [f]).foldl enter fields := by
  induction deeper generalizing fields with
  | nil => rfl
  | cons g deeper ih =>
    have hlt := hdeeper g List.mem_cons_self
    have hrest : ∀ g ∈ deeper, f.depth < g.depth := by
      intro g hg
      exact hdeeper g (List.mem_cons_of_mem _ hg)
    calc (f :: g :: deeper).foldl enter fields
        = deeper.foldl enter (enter (enter fields f) g) := rfl
      _ = deeper.foldl enter (enter (enter fields g) f) := by
          rw [h.enter_comm (Nat.ne_of_lt hlt)]
      _ = (f :: deeper).foldl enter (enter fields g) := rfl
      _ = (deeper ++ [f]).foldl enter (enter fields g) := ih (h.enter g) hrest

end Schema

/-- At one place, which may lie within embedded parts, a field that was declared in front of an
embedded part is declared behind it. -/
inductive Declarations.Moved : {α : Type} → Declarations α → Declarations α → Prop
  | across {α β : Type} (names : FieldNames) (source : Source α) (part : α → β)
      (inner : Declarations β) (rest : Declarations α) :
    Moved (.field names source (.embed part inner rest))
      (.embed part inner (.field names source rest))
  | behindField {α : Type} (names : FieldNames) (source : Source α) {rest rest' : Declarations α}
      (h : Moved rest rest') : Moved (.field names source rest) (.field names source rest')
  | behindEmbed {α β : Type} (part : α → β) (inner : Declarations β) {rest rest' : Declarations α}
      (h : Moved rest rest') : Moved (.embed part inner rest) (.embed part inner rest')
  | inside {α β : Type} (part : α → β) {inner inner' : Declarations β} (rest : Declarations α)
      (h : Moved inner inner') : Moved (.embed part inner rest) (.embed part inner' rest)

theorem Declarations.Moved.exists_fields {α : Type} {declarations declarations' : Declarations α}
    (h : declarations.Moved declarations') :
    ∃ before f deeper after, declarations.fields = before ++ (f :: deeper) ++ after ∧
      declarations'.fields = before ++ (deeper ++ [f]) ++ after ∧
      ∀ g ∈ deeper, f.depth < g.depth := by
  induction h with
  | across names source part inner rest =>
    refine ⟨[], ⟨names, source, 0⟩, inner.fields.map (Field.embed part), rest.fields, rfl, ?_, ?_⟩
    · simp [fields]
    · intro g hg
      obtain ⟨f, -, rfl⟩ := List.mem_map.mp hg
      exact Nat.succ_pos f.depth
  | behindField names source h ih =>
    obtain ⟨before, f, deeper, after, hfields, hfields', hdeeper⟩ := ih
    exact ⟨⟨names, source, 0⟩ :: before, f, deeper, after, by simp [fields, hfields],
      by simp [fields, hfields'], hdeeper⟩
  | behindEmbed part inner h ih =>
    obtain ⟨before, f, deeper, after, hfields, hfields', hdeeper⟩ := ih
    exact ⟨inner.fields.map (Field.embed part) ++ before, f, deeper, after,
      by simp [fields, hfields], by simp [fields, hfields'], hdeeper⟩
  | inside part rest h ih =>
    obtain ⟨before, f, deeper, after, hfields, hfields', hdeeper⟩ := ih
    refine ⟨before.map (Field.embed part), f.embed part, deeper.map (Field.embed part),
      after.map (Field.embed part) ++ rest.fields, by simp [fields, hfields],
      by simp [fields, hfields'], ?_⟩
    intro g hg
    obtain ⟨inner, hinner, rfl⟩ := List.mem_map.mp hg
    exact Nat.succ_lt_succ (hdeeper inner hinner)

namespace Schema

variable {α : Type} (declarations : Declarations α)

theorem ofDeclarations_eq_of_moved {declarations declarations' : Declarations α}
    (h : declarations.Moved declarations') :
    ofDeclarations declarations = ofDeclarations declarations' := by
  obtain ⟨before, f, deeper, after, hfields, hfields', hdeeper⟩ := h.exists_fields
  have hordered : Ordered (before.foldl enter []) := ordered_foldl_enter .nil before
  have hbehind := foldl_enter_behind hordered hdeeper
  simp only [ofDeclarations, hfields, hfields', List.foldl_append (l := before ++ _),
    List.foldl_append (l := before), hbehind]

/-- Any number of such moves, there and back, leaves the schema as it is. -/
theorem ofDeclarations_eq_of_rearranged {declarations declarations' : Declarations α}
    (h : Relation.EqvGen Declarations.Moved declarations declarations') :
    ofDeclarations declarations = ofDeclarations declarations' := by
  induction h with
  | rel _ _ hmoved => exact ofDeclarations_eq_of_moved hmoved
  | refl _ => rfl
  | symm _ _ _ ih => exact ih.symm
  | trans _ _ _ _ _ ih ih' => exact ih.trans ih'

theorem ordered_ofDeclarations : Ordered (ofDeclarations declarations).fields :=
  ordered_foldl_enter .nil declarations.fields

theorem resolve_ofDeclarations_eq_some_iff (name : String) (f : Field α) :
    (ofDeclarations declarations).resolve name = some f ↔ Counts declarations.fields name f := by
  change named name (declarations.fields.foldl enter []) = some f ↔ _
  rcases named_foldl_enter declarations.fields name with ⟨hnone, hother⟩ | ⟨g, hsome, hcounts⟩
  · rw [hnone]
    constructor
    · intro h
      cases h
    · intro h
      exact absurd h.1 (hother f h.mem)
  · rw [hsome]
    constructor
    · intro h
      rw [← Option.some.inj h]
      exact hcounts
    · intro h
      rw [hcounts.unique h]

theorem resolve_ofDeclarations_isSome_iff (name : String) :
    ((ofDeclarations declarations).resolve name).isSome = true ↔
      ∃ f ∈ declarations.fields, f.name = name := by
  change (named name (declarations.fields.foldl enter [])).isSome = true ↔ _
  rcases named_foldl_enter declarations.fields name with ⟨hnone, hother⟩ | ⟨g, hsome, hcounts⟩
  · simpa [hnone] using hother
  · simp only [hsome, Option.isSome_some, true_iff]
    exact ⟨g, hcounts.mem, hcounts.1⟩

theorem mem_names_ofDeclarations_iff (name : String) :
    name ∈ (ofDeclarations declarations).names ↔ ∃ f ∈ declarations.fields, f.name = name := by
  rw [← resolve_ofDeclarations_isSome_iff]
  unfold resolve names
  rw [List.find?_isSome]
  simp

/-- The size of a schema is the number of names that are declared. -/
theorem size_ofDeclarations :
    (ofDeclarations declarations).size = (declarations.fields.map Field.name).dedup.length := by
  have hnodup : (ofDeclarations declarations).names.Nodup :=
    List.pairwise_map.mpr (ordered_ofDeclarations declarations).pairwise_ne
  have hperm : (ofDeclarations declarations).names.Perm
      (declarations.fields.map Field.name).dedup := by
    apply (List.perm_ext_iff_of_nodup hnodup (List.nodup_dedup _)).mpr
    intro name
    rw [mem_names_ofDeclarations_iff, List.mem_dedup, List.mem_map]
  have hlength := hperm.length_eq
  rwa [names, List.length_map] at hlength

/-- A schema has a field of a name exactly if the name is declared, and the field is the declaration
that counts: the first of those under the fewest embeddings. The names of the schema are the
declared ones, each once and in the order of their bytes. Where direct declarations stand among
embedded parts does not matter. -/
theorem ofDeclarations_resolves (declarations : Declarations α) :
    (∀ f ∈ declarations.flatten 0 id, ∀ name, f.name = name ↔ f.names.wire = some name ∨
      f.names.wire = none ∧ (f.names.display = some name ∨
        f.names.display = none ∧ f.names.ident = name)) ∧
    (∀ name, ((ofDeclarations declarations).resolve name).isSome = true ↔
      ∃ f ∈ declarations.flatten 0 id, f.name = name) ∧
    (∀ name f, (ofDeclarations declarations).resolve name = some f ↔
      Counts (declarations.flatten 0 id) name f) ∧
    (∀ f ∈ (ofDeclarations declarations).fields,
      (ofDeclarations declarations).resolve f.name = some f) ∧
    (ofDeclarations declarations).names.Pairwise
      (fun a b => a.toUTF8.data.toList < b.toUTF8.data.toList) ∧
    (∀ name, name ∈ (ofDeclarations declarations).names ↔
      ∃ f ∈ declarations.flatten 0 id, f.name = name) ∧
    (ofDeclarations declarations).size =
      ((declarations.flatten 0 id).map Field.name).dedup.length ∧
    ∀ declarations', Relation.EqvGen Declarations.Moved declarations declarations' →
      ofDeclarations declarations = ofDeclarations declarations' := by
  rw [declarations.flatten_zero]
  refine ⟨?_, resolve_ofDeclarations_isSome_iff declarations,
    resolve_ofDeclarations_eq_some_iff declarations, ?_, ?_,
    mem_names_ofDeclarations_iff declarations, size_ofDeclarations declarations, ?_⟩
  · intro f _ name
    exact f.names.resolved_eq_iff name
  · intro f hf
    exact (ordered_ofDeclarations declarations).named_of_mem hf
  · apply List.pairwise_map.mpr
    apply List.Pairwise.imp ?_ (ordered_ofDeclarations declarations)
    intro f g hlt
    exact Utf8.toUTF8_lt_iff.mpr hlt
  · intro declarations' hrearranged
    exact ofDeclarations_eq_of_rearranged hrearranged

end Schema

/-- Items of which a part is embedded. The part declares under its display name what the item
declares itself later. -/
def Declarations.shadowing : Declarations (String × String) :=
  .embed Prod.snd (.field ⟨"text", some "name", none⟩ (.scalar .string id) .nil)
    (.field ⟨"name", none, none⟩ (.scalar .string Prod.fst) .nil)

/-- The direct declaration counts though it comes later, and there is no difference to declaring it
first. -/
theorem Schema.ofDeclarations_shadowing :
    (ofDeclarations Declarations.shadowing).resolve "name" =
      some ⟨⟨"name", none, none⟩, .scalar .string Prod.fst, 0⟩ ∧
    ofDeclarations Declarations.shadowing = ofDeclarations (.field ⟨"name", none, none⟩
      (.scalar .string Prod.fst)
      (.embed Prod.snd (.field ⟨"text", some "name", none⟩ (.scalar .string id) .nil) .nil)) := by
  obtain ⟨-, -, hresolve, -, -, -, -, hrearranged⟩ :=
    ofDeclarations_resolves Declarations.shadowing
  constructor
  · apply (hresolve "name" _).mpr
    refine ⟨rfl, [⟨⟨"text", some "name", none⟩, .scalar .string Prod.snd, 1⟩], [], rfl, ?_, ?_⟩
    · intro g hg _
      rw [List.mem_singleton.mp hg]
      exact Nat.zero_lt_one
    · intro g hg
      cases hg
  · apply hrearranged
    exact .symm _ _ (.rel _ _ (.across _ _ _ _ .nil))

end Sift
