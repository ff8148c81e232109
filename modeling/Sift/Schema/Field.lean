import Sift.Schema.Value

/-!
Fields as they are declared: the names of a field, and how its value is found in an item. The type
of a field and the values it can have come from one and the same declaration, so they cannot
disagree.
-/

namespace Sift

structure FieldNames where
  ident : String
  display : Option String := none
  wire : Option String := none
deriving DecidableEq

/-- The name that filters use: the wire name if there is one, else the display name, else the
identifier. -/
def FieldNames.resolved (names : FieldNames) : String :=
  (names.wire.or names.display).getD names.ident

inductive Source (α : Type) where
  | scalar (type : ScalarType) (get : α → type.Carrier)
  | boxed (type : ScalarType) (get : α → Option type.Carrier)
  | message (isSet : α → Bool)

namespace Source

def type {α : Type} : Source α → SemanticType
  | .scalar type _ => .scalar type
  | .boxed type _ => .boxed type
  | .message _ => .message

/-- The value of an item. An absent one is null. -/
def read {α : Type} : Source α → α → Value
  | .scalar type get, item => .ofScalar type (get item)
  | .boxed type get, item =>
    match get item with
    | some value => .ofScalar type value
    | none => .null
  | .message isSet, item => if isSet item then .message else .null

def comap {α β : Type} (part : α → β) : Source β → Source α
  | .scalar type get => .scalar type (fun item => get (part item))
  | .boxed type get => .boxed type (fun item => get (part item))
  | .message isSet => .message (fun item => isSet (part item))

@[simp] theorem type_comap {α β : Type} (part : α → β) (source : Source β) :
    (source.comap part).type = source.type := by
  cases source <;> rfl

@[simp] theorem read_comap {α β : Type} (part : α → β) (source : Source β) (item : α) :
    (source.comap part).read item = source.read (part item) := by
  cases source <;> rfl

end Source

/-- A field of a schema. Its depth is the number of embeddings it was declared under. -/
structure Field (α : Type) where
  names : FieldNames
  source : Source α
  depth : Nat

namespace Field

def name {α : Type} (f : Field α) : String := f.names.resolved

def ident {α : Type} (f : Field α) : String := f.names.ident

def type {α : Type} (f : Field α) : SemanticType := f.source.type

def read {α : Type} (f : Field α) (item : α) : Value := f.source.read item

def embed {α β : Type} (part : α → β) (f : Field β) : Field α :=
  ⟨f.names, f.source.comap part, f.depth + 1⟩

end Field

/-- What a type declares of its items, in order: fields of its own, and embedded parts with the
declarations of their type. -/
inductive Declarations : Type → Type 1 where
  | nil {α : Type} : Declarations α
  | field {α : Type} (names : FieldNames) (source : Source α) (rest : Declarations α) :
    Declarations α
  | embed {α β : Type} (part : α → β) (inner : Declarations β) (rest : Declarations α) :
    Declarations α

instance {α : Type} : Inhabited (Declarations α) := ⟨.nil⟩

def Declarations.fields {α : Type} : Declarations α → List (Field α)
  | .nil => []
  | .field names source rest => ⟨names, source, 0⟩ :: rest.fields
  | .embed part inner rest => inner.fields.map (Field.embed part) ++ rest.fields

end Sift
