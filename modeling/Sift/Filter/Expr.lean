import Sift.Binary64.Basic
import Sift.Filter.Operator

namespace Sift

inductive Literal where
  | text (value : String)
  | number (value : Binary64)
  | bool (value : Bool)
  | null
deriving DecidableEq

inductive LiteralKind where
  | text | number | bool | null
deriving DecidableEq, Repr

namespace LiteralKind

def name : LiteralKind → String
  | .text => "string"
  | .number => "number"
  | .bool => "bool"
  | .null => "null"

def all : List LiteralKind := [.text, .number, .bool, .null]

def ofName? (name : String) : Option LiteralKind := all.find? (fun kind => kind.name == name)

end LiteralKind

namespace Literal

def kind : Literal → LiteralKind
  | .text _ => .text
  | .number _ => .number
  | .bool _ => .bool
  | .null => .null

def sameValue : Literal → Literal → Bool
  | .number x, .number y => x.sameValue y
  | x, y => x == y

end Literal

/-- A comparison names a field by text, whether or not there is such a field. -/
inductive Expr where
  | comparison (field : String) (op : Operator) (literal : Literal)
  | and (left right : Expr)
  | or (left right : Expr)
  | not (operand : Expr)
deriving DecidableEq

def Expr.sameValue : Expr → Expr → Bool
  | .comparison f op l, .comparison g op' l' => f == g && op == op' && l.sameValue l'
  | .and a b, .and c d => a.sameValue c && b.sameValue d
  | .or a b, .or c d => a.sameValue c && b.sameValue d
  | .not a, .not b => a.sameValue b
  | _, _ => false

/-- A filter without an expression keeps every item. -/
inductive Filter where
  | matchAll
  | expr (expression : Expr)
deriving DecidableEq

namespace Filter

def expr? : Filter → Option Expr
  | .matchAll => none
  | .expr e => some e

def sameValue : Filter → Filter → Bool
  | .matchAll, .matchAll => true
  | .expr a, .expr b => a.sameValue b
  | _, _ => false

end Filter

end Sift
