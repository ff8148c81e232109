import Sift.Filter.Error

/-!
Which comparisons a field of a type admits. Text is compared with string fields by every operator,
numbers with numeric fields by all but the pattern operators, truth values with boolean fields for
equality, and `null` with fields that may be absent, for equality too.
-/

namespace Sift

def SemanticType.admits (type : SemanticType) (op : Operator) (kind : LiteralKind) : Bool :=
  match kind, type.comparable? with
  | .null, _ => type.isNullable && op.isEquality
  | .text, some .string => true
  | .number, some inner => inner.isNumeric && !op.takesPattern
  | .bool, some .bool => op.isEquality
  | _, _ => false

def SemanticType.check (type : SemanticType) (op : Operator) (kind : LiteralKind) :
    Except MismatchFault Unit :=
  if type.admits op kind then .ok () else .error (.incomparable type kind op)

end Sift
