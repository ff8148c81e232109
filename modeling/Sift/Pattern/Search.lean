import Sift.Pattern.Basic
import Sift.Pattern.CharClass

/-!
Searching a text for a pattern. A set of positions in the text is a number whose bits are the
positions, and a pattern turns the set of positions where its matches start into the set of those
where they end.
-/

namespace Sift.Pattern

open Unicode (CodePoints)

def isWord (ascii : Bool) : Option Char → Bool
  | none => false
  | some c =>
    if ascii then Shorthand.word.asciiClass.contains c.toNat
    else Shorthand.wordClass.contains c.toNat

/-- Whether an assertion holds between two characters. At the ends of the text one or both are
missing. -/
def Assertion.holds (a : Assertion) (before after : Option Char) : Bool :=
  match a with
  | .textStart => before.isNone
  | .textEnd => after.isNone
  | .lineStart false => before.isNone || before == some '\n'
  | .lineStart true =>
    before.isNone || before == some '\n' || (before == some '\r' && after != some '\n')
  | .lineEnd false => after.isNone || after == some '\n'
  | .lineEnd true =>
    after.isNone || after == some '\r' || (after == some '\n' && before != some '\r')
  | .wordBoundary ascii => isWord ascii before != isWord ascii after
  | .notWordBoundary ascii => isWord ascii before == isWord ascii after
  | .wordStart ascii => !isWord ascii before && isWord ascii after
  | .wordEnd ascii => isWord ascii before && !isWord ascii after
  | .wordStartHalf ascii => !isWord ascii before
  | .wordEndHalf ascii => !isWord ascii after

/-- A pattern laid over a text: in place of what it says about characters stand the positions where
that is so. A repetition has a number of rounds that it takes at least, and of further rounds. -/
inductive Overlay where
  | empty
  | step (starts : Nat)
  | gate (positions : Nat)
  | seq (first rest : Overlay)
  | alt (first rest : Overlay)
  | repeated (body : Overlay) (least further : Nat)

/-- The positions in a text with the given characters before and after them, the first of which is
at its front. -/
def positionsWhere (test : Option Char → Option Char → Bool) : Option Char → List Char → Nat
  | before, [] => (test before none).toNat
  | before, c :: text =>
    2 * positionsWhere test (some c) text + (test before (some c)).toNat

def positionsOf (text : List Char) (test : Char → Bool) : Nat :=
  positionsWhere (fun _ after => after.any test) none text

namespace Overlay

/-- Lays a pattern over a text, given the positions of letters and classes in it. Rounds without a
limit end after as many as the text has positions, because all but the last reach a new one. -/
def ofPattern (ofLetter : Char → Nat) (ofClass : CodePoints → Nat) (text : List Char) :
    Pattern → Overlay
  | .empty => .empty
  | .letters word => word.foldr (fun c later => .seq (.step (ofLetter c)) later) .empty
  | .oneOf members => .step (ofClass members)
  | .assertion a => .gate (positionsWhere a.holds none text)
  | .seq first rest =>
    .seq (ofPattern ofLetter ofClass text first) (ofPattern ofLetter ofClass text rest)
  | .alt first rest =>
    .alt (ofPattern ofLetter ofClass text first) (ofPattern ofLetter ofClass text rest)
  | .repeated body least most _ =>
    let further :=
      match most with
      | none => text.length + 1
      | some most => most - least
    .repeated (ofPattern ofLetter ofClass text body) least further
  | .group _ body => ofPattern ofLetter ofClass text body

def rounds (round : Nat → Nat) : Nat → Nat → Nat
  | 0, positions => positions
  | n + 1, positions => if positions = 0 then 0 else rounds round n (round positions)

/-- The positions reached in at most the given number of rounds. Each round starts from those that
the round before reached for the first time. -/
def reach (round : Nat → Nat) : Nat → Nat → Nat → Nat
  | 0, reached, _ => reached
  | n + 1, reached, latest =>
    let all := reached ||| round latest
    if all = reached then reached else reach round n all (all ^^^ reached)

def ends : Overlay → Nat → Nat
  | .empty, positions => positions
  | .step starts, positions => 2 * (positions &&& starts)
  | .gate allowed, positions => positions &&& allowed
  | .seq first rest, positions => ends rest (ends first positions)
  | .alt first rest, positions => ends first positions ||| ends rest positions
  | .repeated body least further, positions =>
    let start := rounds (ends body) least positions
    reach (ends body) further start start

end Overlay

def overlay (p : Pattern) (text : List Char) : Overlay :=
  let letters := p.lettersUsed.eraseDups.map (fun c => (c, positionsOf text (· == c)))
  let classes :=
    p.classes.eraseDups.map (fun a => (a, positionsOf text (fun c => a.contains c.toNat)))
  .ofPattern (fun c => (letters.lookup c).getD 0) (fun a => (classes.lookup a).getD 0) text p

def occursIn (p : Pattern) (text : List Char) : Bool :=
  (p.overlay text).ends ((1 <<< (text.length + 1)) - 1) != 0

end Sift.Pattern
