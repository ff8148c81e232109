import Sift.Filter.Expr
import Sift.Filter.Token
import Sift.Schema.Value

namespace Sift

inductive MismatchFault where
  | noSuchField (suggestion : Option String)
  | incomparable (type : SemanticType) (kind : LiteralKind) (op : Operator)
  | misread (type : SemanticType) (value : Value)
  | described (message : String)
deriving DecidableEq

def MismatchFault.message : MismatchFault → String
  | .noSuchField none => "no such field"
  | .noSuchField (some name) => "no such field. Did you mean '" ++ name ++ "'?"
  | .incomparable type kind op =>
    "cannot compare " ++ type.name ++ " field with " ++ kind.name ++ " literal using '" ++
      op.text ++ "'"
  | .misread type value => type.name ++ " field read as " ++ value.debugText
  | .described message => message

inductive Limit where
  | length | depth
deriving DecidableEq, Repr

def Limit.name : Limit → String
  | .length => "length"
  | .depth => "depth"

inductive FilterError where
  | malformed (error : SyntaxError)
  | mismatch (field : String) (fault : MismatchFault)
  | badPattern (pattern : String)
  | exceeds (limit : Limit) (bound : Nat)
deriving DecidableEq

inductive ErrorClass where
  | malformed | mismatch | badPattern
deriving DecidableEq, Repr

namespace FilterError

/-- Text over a limit counts as malformed text. -/
def errorClass : FilterError → ErrorClass
  | .malformed _ | .exceeds _ _ => .malformed
  | .mismatch _ _ => .mismatch
  | .badPattern _ => .badPattern

/-- A message about a piece of text ends with that piece, unless it is empty. What is wrong with a
bad pattern is up to the one who compiled it. -/
def message (error : FilterError) (diagnosis : String → String := fun _ => "") : String :=
  match error with
  | .malformed e =>
    "syntax error at position " ++ toString e.position ++ ": " ++ e.fault.message ++
      (if e.fragment.isEmpty then "" else " near '" ++ e.fragment ++ "'")
  | .mismatch field fault => "type mismatch on field '" ++ field ++ "': " ++ fault.message
  | .badPattern pattern => "invalid regular expression '" ++ pattern ++ "': " ++ diagnosis pattern
  | .exceeds limit bound => "filter " ++ limit.name ++ " exceeds the limit of " ++ toString bound

end FilterError

end Sift
