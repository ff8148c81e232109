import Sift.Binary64.Shortest
import Sift.Filter.Expr

/-!
The canonical text of a filter. Parentheses stand only where the tree would otherwise be read
differently.
-/

namespace Sift

/-- Text in a literal is quoted as it is; there is no way to write a quote inside it. -/
def Literal.toChars : Literal → List Char
  | .text value => '\'' :: value.toList ++ ['\'']
  | .number value => value.toChars
  | .bool true => "true".toList
  | .bool false => "false".toList
  | .null => "null".toList

def parenthesized (needed : Bool) (text : List Char) : List Char :=
  if needed then '(' :: text ++ [')'] else text

/-- Puts a text, which may need parentheses, in front of another one. The text is given by what it
is in front of any other. -/
def prependParenthesized (needed : Bool) (prepend : List Char → List Char) (rest : List Char) :
    List Char :=
  if needed then '(' :: prepend (')' :: rest) else prepend rest

/-- In front of another text stands the text as it stands alone. -/
theorem prependParenthesized_eq_append {prepend : List Char → List Char} {text : List Char}
    (h : ∀ rest, prepend rest = text ++ rest) (needed : Bool) (rest : List Char) :
    prependParenthesized needed prepend rest = parenthesized needed text ++ rest := by
  cases needed <;> simp [prependParenthesized, parenthesized, h]

namespace Expr

def precedence : Expr → Nat
  | .or _ _ => 1
  | .and _ _ => 2
  | .not _ => 3
  | .comparison _ _ _ => 4

/-- Both connectives group to the left, so a right operand that is of the same kind needs
parentheses and a left one does not. -/
def toChars : Expr → List Char
  | .comparison field op literal =>
    field.toList ++ ' ' :: op.text.toList ++ ' ' :: literal.toChars
  | .or left right =>
    parenthesized (left.precedence < 1) left.toChars ++ " or ".toList ++
      parenthesized (right.precedence < 2) right.toChars
  | .and left right =>
    parenthesized (left.precedence < 2) left.toChars ++ " and ".toList ++
      parenthesized (right.precedence < 3) right.toChars
  | .not operand => "not ".toList ++ parenthesized (operand.precedence < 3) operand.toChars

/-- Puts the canonical text in front of another text. A long text is made from its end, so no part
of it is copied twice. -/
def prepend : Expr → List Char → List Char
  | .comparison field op literal, rest =>
    (Expr.comparison field op literal).toChars ++ rest
  | .or left right, rest =>
    prependParenthesized (left.precedence < 1) left.prepend
      (" or ".toList ++ prependParenthesized (right.precedence < 2) right.prepend rest)
  | .and left right, rest =>
    prependParenthesized (left.precedence < 2) left.prepend
      (" and ".toList ++ prependParenthesized (right.precedence < 3) right.prepend rest)
  | .not operand, rest =>
    "not ".toList ++ prependParenthesized (operand.precedence < 3) operand.prepend rest

/-- In front of another text stands the canonical text. -/
theorem prepend_eq_append (e : Expr) (rest : List Char) : e.prepend rest = e.toChars ++ rest := by
  induction e generalizing rest with
  | comparison field op literal => rfl
  | and left right ihl ihr =>
    simp only [prepend, toChars, prependParenthesized_eq_append ihl,
      prependParenthesized_eq_append ihr, List.append_assoc]
  | or left right ihl ihr =>
    simp only [prepend, toChars, prependParenthesized_eq_append ihl,
      prependParenthesized_eq_append ihr, List.append_assoc]
  | not operand ih =>
    simp only [prepend, toChars, prependParenthesized_eq_append ih, List.append_assoc]

end Expr

def Filter.toChars : Filter → List Char
  | .matchAll => []
  | .expr e => e.toChars

instance : ToString Expr where
  toString e := String.ofList (e.prepend [])

instance : ToString Filter where
  toString f := (f.expr?.map toString).getD ""

end Sift
