namespace Sift

inductive Operator where
  | eq | ne | gt | ge | lt | le | matching | notMatching
deriving DecidableEq, Repr

namespace Operator

def text : Operator → String
  | .eq => "=="
  | .ne => "!="
  | .gt => ">"
  | .ge => ">="
  | .lt => "<"
  | .le => "<="
  | .matching => "~"
  | .notMatching => "!~"

def all : List Operator := [.eq, .ne, .gt, .ge, .lt, .le, .matching, .notMatching]

def ofText? (spelling : String) : Option Operator := all.find? (fun op => op.text == spelling)

def isEquality : Operator → Bool
  | .eq | .ne => true
  | _ => false

def isOrdering : Operator → Bool
  | .gt | .ge | .lt | .le => true
  | _ => false

def takesPattern : Operator → Bool
  | .matching | .notMatching => true
  | _ => false

/-- Whether the operator holds of two values in the given order. The two pattern operators never
hold of an order: they do not compare values. -/
def holds : Operator → Ordering → Bool
  | .eq, order => order == .eq
  | .ne, order => order != .eq
  | .gt, order => order == .gt
  | .ge, order => order != .lt
  | .lt, order => order == .lt
  | .le, order => order != .gt
  | .matching, _ | .notMatching, _ => false

/-- Whether the operator holds of two values that may stand in no order. Such values are unequal
and nothing else. -/
def holdsPartial (op : Operator) : Option Ordering → Bool
  | some order => op.holds order
  | none => op == .ne

end Operator

end Sift
