import Sift.Schema.Field
import Sift.Text.Debug
import Sift.Text.EditDistance
import Sift.Text.Lowercase

/-!
Schemas: the fields of a type by the names that filters use. Of several declarations of a name the
one under the fewest embeddings counts, and of those the first.
-/

namespace Sift

structure Schema (α : Type) where
  fields : List (Field α)

namespace Schema

/-- Enters a field into fields that are in the order of their names. A field that has the name
already stays, unless it lies deeper. -/
def enter {α : Type} (fields : List (Field α)) (new : Field α) : List (Field α) :=
  match fields with
  | [] => [new]
  | f :: rest =>
    if f.name = new.name then (if f.depth ≤ new.depth then f else new) :: rest
    else if new.name < f.name then new :: f :: rest
    else f :: enter rest new

def ofDeclarations {α : Type} (declarations : Declarations α) : Schema α :=
  ⟨declarations.fields.foldl enter []⟩

/-- The field with the given name. -/
def resolve {α : Type} (schema : Schema α) (name : String) : Option (Field α) :=
  schema.fields.find? (fun f => f.name == name)

def names {α : Type} (schema : Schema α) : List String := schema.fields.map Field.name

def size {α : Type} (schema : Schema α) : Nat := schema.fields.length

def nearest? : List (String × Nat) → Option (String × Nat)
  | [] => none
  | candidate :: rest =>
    match nearest? rest with
    | none => some candidate
    | some best => if best.2 < candidate.2 then some best else some candidate

/-- The field name to suggest for one that is not there: the nearest name when case is left aside,
if it is within three edits. The name itself is no suggestion. -/
def suggest {α : Type} (schema : Schema α) (name : String) : Option String :=
  let wanted := lowercase name
  let candidates := schema.names.map (fun c => (c, editDistance wanted (lowercase c)))
  match nearest? candidates with
  | none => none
  | some (best, distance) => if best ≠ name ∧ distance ≤ 3 then some best else none

def describe {α : Type} (schema : Schema α) (typeName : String) : String :=
  "Schema \x7b type_name: " ++ debugText typeName ++ ", fields: [" ++
    ", ".intercalate (schema.names.map debugText) ++ "] \x7d"

end Schema

end Sift
