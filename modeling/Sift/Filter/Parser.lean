import Sift.Filter.Error
import Sift.Filter.Lexer
import Sift.Limits

/-!
Reading a filter from its lexemes. The reader takes one lexeme at a time and keeps what it has read
so far as a stack of unfinished levels, one for each open parenthesis. The nesting that the depth
limit speaks of can be read off that stack at any moment.
-/

namespace Sift

/-- A level of the expression that waits for its next operand: the operands up to the last `or`,
those since then that `and` joins, and the number of `not`s in front of the operand to come. -/
structure Level where
  disjuncts : Option Expr
  conjuncts : Option Expr
  negations : Nat
deriving DecidableEq

namespace Level

def empty : Level := ⟨none, none, 0⟩

/-- `not` binds more tightly than the connectives, so the `not`s in front of an operand apply to it
alone. -/
def negate : Nat → Expr → Expr
  | 0, e => e
  | n + 1, e => .not (negate n e)

def joinAnd : Option Expr → Expr → Expr
  | none, e => e
  | some left, e => .and left e

def joinOr : Option Expr → Expr → Expr
  | none, e => e
  | some left, e => .or left e

def conjoin (level : Level) (operand : Expr) : Expr :=
  joinAnd level.conjuncts (negate level.negations operand)

end Level

inductive Awaiting where
  | operand (level : Level)
  | operator (level : Level) (field : String)
  | literal (level : Level) (field : String) (op : Operator)
  | connective (disjuncts : Option Expr) (conjuncts : Expr)
deriving DecidableEq

/-- The innermost level, and around it the open parentheses with the levels they stand in,
innermost first. -/
structure Parse where
  awaiting : Awaiting
  enclosing : List (Lexeme × Level)
deriving DecidableEq

/-- The literal that a token writes. -/
def Token.literal? : Token → Option Literal
  | .text value => some (.text value)
  | .number value => some (.number value)
  | .bool value => some (.bool value)
  | .null => some .null
  | _ => none

namespace Parse

def start : Parse := ⟨.operand .empty, []⟩

def depth (level : Level) : List (Lexeme × Level) → Nat
  | [] => level.negations
  | (_, outer) :: enclosing => level.negations + 1 + depth outer enclosing

/-- A lexeme that cannot stand here is quoted in full. -/
def refuse (lexeme : Lexeme) (fault : SyntaxFault) : Except FilterError Parse :=
  .error (.malformed ⟨fault, String.ofList lexeme.spelling, lexeme.position⟩)

def descend (maxDepth : Nat) (level : Level) (enclosing : List (Lexeme × Level)) :
    Except FilterError Parse :=
  if maxDepth < depth level enclosing then .error (.exceeds .depth maxDepth)
  else .ok ⟨.operand level, enclosing⟩

def step (maxDepth : Nat) (parse : Parse) (lexeme : Lexeme) : Except FilterError Parse :=
  match parse.awaiting with
  | .operand level =>
    match lexeme.token with
    | .not => descend maxDepth { level with negations := level.negations + 1 } parse.enclosing
    | .lparen => descend maxDepth .empty ((lexeme, level) :: parse.enclosing)
    | .name field => .ok { parse with awaiting := .operator level field }
    | _ => refuse lexeme (.expected .operand)
  | .operator level field =>
    match lexeme.token with
    | .operator op => .ok { parse with awaiting := .literal level field op }
    | _ => refuse lexeme (.expected .operator)
  | .literal level field op =>
    match lexeme.token.literal? with
    | some literal =>
      .ok { parse with
        awaiting := .connective level.disjuncts (level.conjoin (.comparison field op literal)) }
    | none => refuse lexeme (.expected .literal)
  | .connective disjuncts conjuncts =>
    match lexeme.token, parse.enclosing with
    | .and, _ => .ok { parse with awaiting := .operand ⟨disjuncts, some conjuncts, 0⟩ }
    | .or, _ =>
      .ok { parse with awaiting := .operand ⟨some (Level.joinOr disjuncts conjuncts), none, 0⟩ }
    | .rparen, (_, outer) :: enclosing =>
      let inner := Level.joinOr disjuncts conjuncts
      .ok ⟨.connective outer.disjuncts (outer.conjoin inner), enclosing⟩
    | _, [] => refuse lexeme .trailingInput
    | _, _ :: _ => refuse lexeme .expectedClosing

def finish (length : Nat) (parse : Parse) : Except FilterError Expr :=
  let endsBefore (what : Expectation) : Except FilterError Expr :=
    .error (.malformed ⟨.endsBefore what, "", length⟩)
  match parse.awaiting, parse.enclosing with
  | .operand _, _ => endsBefore .operand
  | .operator _ _, _ => endsBefore .operator
  | .literal _ _ _, _ => endsBefore .literal
  | .connective disjuncts conjuncts, [] => .ok (Level.joinOr disjuncts conjuncts)
  | .connective _ _, (lexeme, _) :: _ =>
    .error (.malformed ⟨.unclosed, String.ofList lexeme.spelling, lexeme.position⟩)

end Parse

def Expr.ofLexemes (maxDepth length : Nat) (lexemes : List Lexeme) : Except FilterError Expr :=
  (lexemes.foldlM (Parse.step maxDepth) Parse.start).bind (Parse.finish length)

/-- Reads a filter. Too long a text is refused before anything in it is read, and a fault of its
lexemes wins over every fault of their order. -/
def Filter.parse (text : String) (limits : Limits) : Except FilterError Filter :=
  if limits.maxLength < text.utf8ByteSize then .error (.exceeds .length limits.maxLength)
  else
    match lexemes text with
    | .error e => .error (.malformed e)
    | .ok [] => .ok .matchAll
    | .ok ls => (Expr.ofLexemes limits.maxDepth text.utf8ByteSize ls).map .expr

end Sift
