import Sift.Text.Blank
import Sift.Unicode.CodePoints

/-!
Patterns as trees, and the plainest form of a tree. Sequences and choices are written without
others of their kind as their first parts, neighbouring characters are one text, and what several
alternatives begin with stands in front of the choice between the rest.
-/

namespace Sift

namespace Pattern

/-- Where in a text an assertion holds. Lines end at a line feed, or in the CRLF mode at a carriage
return, a line feed, or both together. Word assertions look at word characters, all of them or the
ASCII ones. -/
inductive Assertion where
  | textStart
  | textEnd
  | lineStart (crlf : Bool)
  | lineEnd (crlf : Bool)
  | wordBoundary (ascii : Bool)
  | notWordBoundary (ascii : Bool)
  | wordStart (ascii : Bool)
  | wordEnd (ascii : Bool)
  | wordStartHalf (ascii : Bool)
  | wordEndHalf (ascii : Bool)
deriving DecidableEq, Repr

end Pattern

/-- A pattern. Which of several matches is preferred and what groups capture cannot be seen in an
answer, but patterns that differ in it are not the same. -/
inductive Pattern where
  | empty
  | letters (text : List Char)
  | oneOf (members : Unicode.CodePoints)
  | assertion (kind : Pattern.Assertion)
  | seq (first rest : Pattern)
  | alt (first rest : Pattern)
  | repeated (body : Pattern) (least : Nat) (most : Option Nat) (preferShort : Bool)
  | group (number : Nat) (body : Pattern)
deriving DecidableEq, Repr

namespace Pattern

/-- Whether every match is empty because nothing in the pattern takes a character. -/
def takesNothing : Pattern → Bool
  | .empty | .assertion _ => true
  | .letters _ | .oneOf _ => false
  | .seq first rest | .alt first rest => first.takesNothing && rest.takesNothing
  | .repeated body _ _ _ | .group _ body => body.takesNothing

/-- A number of characters that every match has at least. There is none where a part can match
nothing at all. -/
def leastLength? : Pattern → Option Nat
  | .empty | .assertion _ => some 0
  | .letters text => some text.length
  | .oneOf members => if members.isEmpty then none else some 1
  | .seq first rest =>
    match first.leastLength?, rest.leastLength? with
    | some m, some n => some (m + n)
    | _, _ => none
  | .alt first rest =>
    match first.leastLength?, rest.leastLength? with
    | some m, some n => some (min m n)
    | _, _ => none
  | .repeated body least _ _ => body.leastLength?.map (least * ·)
  | .group _ body => body.leastLength?

/-- A class as a pattern. A class of one character is a text. -/
def ofClass (members : Unicode.CodePoints) : Pattern :=
  match members.only? with
  | some n => .letters [Char.ofNat n]
  | none => .oneOf members

/-- Repeats a pattern. One that takes nothing is needed at most once. -/
def repeating (body : Pattern) (least : Nat) (most : Option Nat) (preferShort : Bool) : Pattern :=
  let (least, most) :=
    if body.takesNothing then (min least 1, some (min (most.getD 1) 1)) else (least, most)
  if most = some 0 then .empty
  else if least = 1 ∧ most = some 1 then body
  else .repeated body least most preferShort

def parts : Pattern → List Pattern
  | .empty => []
  | .seq first rest => first :: rest.parts
  | p => [p]

/-- Puts a part in front of others. Two texts become one. -/
def consPart (part : Pattern) (later : List Pattern) : List Pattern :=
  match part, later with
  | .letters a, .letters b :: others => .letters (a ++ b) :: others
  | part, later => part :: later

def ofParts : List Pattern → Pattern
  | [] => .empty
  | [part] => part
  | part :: later => .seq part (ofParts later)

def sequence (patterns : List Pattern) : Pattern :=
  ofParts ((patterns.flatMap parts).foldr consPart [])

def alternatives : Pattern → List Pattern
  | .alt first rest => first :: rest.alternatives
  | p => [p]

def ofAlternatives : List Pattern → Pattern
  | [] => .oneOf .empty
  | [p] => p
  | p :: others => .alt p (ofAlternatives others)

def letter? : Pattern → Option Nat
  | .letters [c] => some c.toNat
  | _ => none

def class? : Pattern → Option Unicode.CodePoints
  | .oneOf members => some members
  | _ => none

def sequenceParts : Pattern → List Pattern
  | .seq first rest => (Pattern.seq first rest).parts
  | _ => []

def commonFront : List Pattern → List Pattern → List Pattern
  | p :: ps, q :: qs => if p = q then p :: commonFront ps qs else []
  | _, _ => []

def sharedFront : List Pattern → List Pattern
  | [] => []
  | p :: others => others.foldl (fun front q => commonFront front q.sequenceParts) p.sequenceParts

def junctions : Pattern → Nat
  | .seq first rest | .alt first rest => first.junctions + rest.junctions + 1
  | _ => 0

/-- A choice between patterns, whose shared parts are moved to its front so many times at most. -/
def alternation : Nat → List Pattern → Pattern
  | 0, patterns => ofAlternatives (patterns.flatMap alternatives)
  | times + 1, patterns =>
    let all := patterns.flatMap alternatives
    match all, all.mapM letter?, all.mapM class? with
    | [p], _, _ => p
    | _, some members, _ => ofClass (.ofIntervals (members.map (fun n => ⟨n, n⟩)))
    | _, none, some classes => ofClass (.unions classes)
    | _, none, none =>
      let front := sharedFront all
      if front.isEmpty then ofAlternatives all
      else
        let rests := all.map (fun p => sequence (p.parts.drop front.length))
        sequence (front ++ [alternation times rests])

/-- A choice between patterns in its plainest form. Moving parts to the front shortens every
alternative, so it comes to an end. -/
def choice (patterns : List Pattern) : Pattern :=
  alternation (patterns.foldl (fun n p => n + p.junctions) 1) patterns

def classes : Pattern → List Unicode.CodePoints
  | .oneOf members => [members]
  | .seq first rest | .alt first rest => first.classes ++ rest.classes
  | .repeated body _ _ _ | .group _ body => body.classes
  | _ => []

def lettersUsed : Pattern → List Char
  | .letters text => text
  | .seq first rest | .alt first rest => first.lettersUsed ++ rest.lettersUsed
  | .repeated body _ _ _ | .group _ body => body.lettersUsed
  | _ => []

end Pattern

end Sift
