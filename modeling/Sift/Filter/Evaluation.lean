import Sift.Filter.Parser
import Sift.Filter.Printer
import Sift.Filter.Typing
import Sift.Limits
import Sift.Pattern.Parser
import Sift.Pattern.Search
import Sift.Schema.Basic

/-!
Evaluating filters. Patterns are compiled when a comparison that uses them is first reached, and
kept for the rest of the pass; what a pass does along the way is recorded as events. Neither has a
part in the answer.
-/

namespace Sift

/-- What a pass records: a pattern about to be compiled, and the evaluation of a filter that ended
in an error. -/
inductive Event where
  | compile (pattern : String)
  | failed (filter : Expr) (error : FilterError)
deriving DecidableEq

/-- The patterns compiled so far, latest first, and the events so far. -/
structure Pass where
  patterns : List (String × Pattern)
  events : List Event

namespace Pass

def start : Pass := ⟨[], []⟩

def record (pass : Pass) (event : Event) : Pass := { pass with events := pass.events ++ [event] }

/-- Finds a pattern or compiles it. One that does not compile is not kept. -/
def compile (maxSize : Nat) (text : String) (pass : Pass) : Except FilterError Pattern × Pass :=
  match pass.patterns.lookup text with
  | some pattern => (.ok pattern, pass)
  | none =>
    let pass := pass.record (.compile text)
    match Pattern.compile? maxSize text with
    | some pattern => (.ok pattern, { pass with patterns := (text, pattern) :: pass.patterns })
    | none => (.error (.badPattern text), pass)

def compileFor (maxSize : Nat) (op : Operator) (literal : Literal) (pass : Pass) :
    Except FilterError (Option Pattern) × Pass :=
  match op.takesPattern, literal with
  | true, .text text =>
    match pass.compile maxSize text with
    | (.ok pattern, pass) => (.ok (some pattern), pass)
    | (.error e, pass) => (.error e, pass)
  | _, _ => (.ok none, pass)

end Pass

/-- Whether a comparison holds of a value. An absent value equals no literal but `null` and matches
no pattern, and stands in no order to any. A value that its type does not have is misread. -/
def Value.satisfies (value : Value) (type : SemanticType) (op : Operator) (literal : Literal)
    (pattern : Option Pattern) : Except MismatchFault Bool :=
  if literal = .null then .ok (if op = .ne then !value.isNull else value.isNull)
  else if value.isNull then .ok (op == .ne || op == .notMatching)
  else
    match literal, value, value.number? with
    | .text text, .string actual, _ =>
      match pattern with
      | some pattern => .ok (pattern.occursIn actual.toList == (op == .matching))
      | none => .ok (op.holds (compare actual text))
    | .number number, _, some actual => .ok (op.holdsPartial (actual.compare? number))
    | .bool expected, .bool actual, _ => .ok (op.holds (compare actual expected))
    | _, _, _ => .error (.misread type value)

section

variable {α : Type} (schema : Schema α) (maxSize : Nat) (item : α)

/-- Evaluates a comparison. The field is looked up first, then the comparison is checked against its
type, then the pattern is compiled, and only then is the item looked at. -/
def evaluateComparison (field : String) (op : Operator) (literal : Literal) (pass : Pass) :
    Except FilterError Bool × Pass :=
  match schema.resolve field with
  | none => (.error (.mismatch field (.noSuchField (schema.suggest field))), pass)
  | some f =>
    match f.type.check op literal.kind with
    | .error fault => (.error (.mismatch field fault), pass)
    | .ok () =>
      match pass.compileFor maxSize op literal with
      | (.error e, pass) => (.error e, pass)
      | (.ok pattern, pass) =>
        (((f.read item).satisfies f.type op literal pattern).mapError (.mismatch field), pass)

/-- Evaluates an expression from left to right. An operand that cannot change the answer any more is
not looked at, and an error ends the evaluation. -/
def Expr.evaluate : Expr → Pass → Except FilterError Bool × Pass
  | .comparison field op literal, pass =>
    evaluateComparison schema maxSize item field op literal pass
  | .and left right, pass =>
    match left.evaluate pass with
    | (.ok true, pass) => right.evaluate pass
    | (.ok false, pass) => (.ok false, pass)
    | (.error e, pass) => (.error e, pass)
  | .or left right, pass =>
    match left.evaluate pass with
    | (.ok true, pass) => (.ok true, pass)
    | (.ok false, pass) => right.evaluate pass
    | (.error e, pass) => (.error e, pass)
  | .not operand, pass =>
    match operand.evaluate pass with
    | (.ok answer, pass) => (.ok !answer, pass)
    | (.error e, pass) => (.error e, pass)

def Expr.run (e : Expr) (pass : Pass) : Except FilterError Bool × Pass :=
  match e.evaluate schema maxSize item pass with
  | (.ok answer, pass) => (.ok answer, pass)
  | (.error error, pass) => (.error error, pass.record (.failed e error))

end

/-- Those of the items that an expression holds of, in order. All share one pass, and the first
error ends it. -/
def Expr.select {α : Type} (schema : Schema α) (maxSize : Nat) (e : Expr) :
    List α → Pass → Except FilterError (List α) × Pass
  | [], pass => (.ok [], pass)
  | item :: items, pass =>
    match e.run schema maxSize item pass with
    | (.error error, pass) => (.error error, pass)
    | (.ok keep, pass) =>
      match e.select schema maxSize items pass with
      | (.error error, pass) => (.error error, pass)
      | (.ok kept, pass) => (.ok (if keep then item :: kept else kept), pass)

namespace Filter

def matchesItem {α : Type} (filter : Filter) (schema : Schema α) (maxSize : Nat) (item : α) :
    Except FilterError Bool × List Event :=
  match filter with
  | .matchAll => (.ok true, [])
  | .expr e =>
    let (answer, pass) := e.run schema maxSize item .start
    (answer, pass.events)

def select {α : Type} (filter : Filter) (schema : Schema α) (maxSize : Nat) (items : List α) :
    Except FilterError (List α) × List Event :=
  match filter with
  | .matchAll => (.ok items, [])
  | .expr e =>
    let (kept, pass) := e.select schema maxSize items .start
    (kept, pass.events)

end Filter

def matchesText {α : Type} (schema : Schema α) (item : α) (text : String) :
    Except FilterError Bool :=
  match Filter.parse text {} with
  | .error e => .error e
  | .ok filter => (filter.matchesItem schema ({} : Limits).maxPatternSize item).1

end Sift
