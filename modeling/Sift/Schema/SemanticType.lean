namespace Sift

inductive ScalarType where
  | string | integer | unsignedInteger | float | bool
deriving DecidableEq, Repr

namespace ScalarType

def isNumeric : ScalarType → Bool
  | .integer | .unsignedInteger | .float => true
  | .string | .bool => false

def name : ScalarType → String
  | .string => "string"
  | .integer => "integer"
  | .unsignedInteger => "unsigned integer"
  | .float => "float"
  | .bool => "bool"

def all : List ScalarType := [.string, .integer, .unsignedInteger, .float, .bool]

end ScalarType

/-- A plain scalar is always present. A boxed scalar may be absent, and a message is a nested value
of which only the presence can be seen. -/
inductive SemanticType where
  | scalar (type : ScalarType)
  | boxed (type : ScalarType)
  | message
deriving DecidableEq, Repr

namespace SemanticType

def isNullable : SemanticType → Bool
  | .scalar _ => false
  | .boxed _ | .message => true

def comparable? : SemanticType → Option ScalarType
  | .scalar type | .boxed type => some type
  | .message => none

def name : SemanticType → String
  | .scalar type => type.name
  | .boxed type => "nullable " ++ type.name
  | .message => "message"

def all : List SemanticType :=
  ScalarType.all.map .scalar ++ ScalarType.all.map .boxed ++ [.message]

def ofName? (name : String) : Option SemanticType := all.find? (fun type => type.name == name)

end SemanticType

end Sift
