import Sift.Binary64.Shortest
import Sift.Schema.SemanticType
import Sift.Text.Debug

namespace Sift

/-- What a present field of a scalar type holds. Integers have 64 bits. -/
def ScalarType.Carrier : ScalarType → Type
  | .string => String
  | .integer => Int64
  | .unsignedInteger => UInt64
  | .float => Binary64
  | .bool => Bool

/-- A value read from an item. Of a message nothing but its presence is seen. -/
inductive Value where
  | null
  | string (text : String)
  | integer (value : Int64)
  | unsigned (value : UInt64)
  | float (value : Binary64)
  | bool (value : Bool)
  | message
deriving DecidableEq

namespace Value

def ofScalar : (type : ScalarType) → type.Carrier → Value
  | .string, text => .string text
  | .integer, value => .integer value
  | .unsignedInteger, value => .unsigned value
  | .float, value => .float value
  | .bool, value => .bool value

def isNull : Value → Bool
  | .null => true
  | _ => false

def number? : Value → Option Binary64
  | .integer value => some (.ofInt value.toInt)
  | .unsigned value => some (.ofInt value.toNat)
  | .float value => some value
  | _ => none

def debugText : Value → String
  | .null => "Null"
  | .string text => "Str(" ++ Sift.debugText text ++ ")"
  | .integer value => "Int(" ++ toString value.toInt ++ ")"
  | .unsigned value => "Uint(" ++ toString value.toNat ++ ")"
  | .float value => "Float(" ++ value.debugText ++ ")"
  | .bool value => "Bool(" ++ toString value ++ ")"
  | .message => "Message"

end Value

end Sift
