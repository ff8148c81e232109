import Sift.Binary64.Basic
import Sift.Filter.Operator
import Sift.Text.Blank

namespace Sift

inductive Token where
  | name (text : String)
  | text (value : String)
  | number (value : Binary64)
  | bool (value : Bool)
  | null
  | operator (op : Operator)
  | and
  | or
  | not
  | lparen
  | rparen
deriving DecidableEq

def Token.ofWord (word : List Char) : Token :=
  match String.ofList word with
  | "true" => .bool true
  | "false" => .bool false
  | "null" => .null
  | "and" => .and
  | "or" => .or
  | "not" => .not
  | other => .name other

/-- A token with the characters it was read from and the byte offset of the first of them. -/
structure Lexeme where
  token : Token
  spelling : List Char
  position : Nat
deriving DecidableEq

def Lexeme.stop (l : Lexeme) : Nat := l.position + utf8Length l.spelling

inductive Expectation where
  | operand | operator | literal
deriving DecidableEq, Repr

inductive SyntaxFault where
  | unterminatedText
  | numberOutOfRange
  | unknownOperator
  | unexpectedCharacter (c : Char)
  | expected (what : Expectation)
  | expectedClosing
  | trailingInput
  | unclosed
  | endsBefore (what : Expectation)
  | described (message : String)
deriving DecidableEq

/-- The text of a fault, without the place it lies at. -/
def SyntaxFault.message : SyntaxFault → String
  | .unterminatedText => "unterminated string literal"
  | .numberOutOfRange => "number out of range"
  | .unknownOperator => "unknown operator"
  | .unexpectedCharacter c => "unexpected character '" ++ c.toString ++ "'"
  | .expected .operand => "expected a field name or '('"
  | .expected .operator => "expected a comparison operator"
  | .expected .literal => "expected a literal"
  | .expectedClosing => "expected ')'"
  | .trailingInput => "unexpected trailing input"
  | .unclosed => "unclosed parenthesis"
  | .endsBefore .operand => "unexpected end of expression, expected a comparison or '('"
  | .endsBefore .operator => "unexpected end of expression, expected a comparison operator"
  | .endsBefore .literal => "unexpected end of expression, expected a literal"
  | .described message => message

/-- A fault with the piece of text it lies in and the byte offset of that piece. The piece is empty
where the text ends too early. -/
structure SyntaxError where
  fault : SyntaxFault
  fragment : String
  position : Nat
deriving DecidableEq

end Sift
