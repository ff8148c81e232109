import Sift.Pattern.Basic
import Sift.Text.Utf8Ranges

/-!
The size of the compiled form of a pattern. A pattern is compiled into two machines that read bytes
in UTF-8, one of them from the back of a text. The size of a machine is that of its states and of
the moves that a state keeps in a list of its own.
-/

namespace Sift.Pattern

open Unicode (CodePoints)
open Utf8 (ByteRange)

inductive Direction where
  | forward
  | backward
deriving DecidableEq, Repr

def stateSize : Nat := 32

def branchSize (ranges : Nat) : Nat := stateSize + 8 * ranges

def forkSize (moves : Nat) : Nat := stateSize + 4 * moves

abbrev ByteState := List (ByteRange × Nat)

/-- The states made so far, the latest first. A state has the number of those made before it; the
number zero stands for the end. -/
structure ByteStates where
  made : List ByteState

namespace ByteStates

/-- The number of a state, which is made unless it exists. -/
def add (states : ByteStates) (state : ByteState) : Nat × ByteStates :=
  let unlike := states.made.takeWhile (· != state)
  if unlike.length < states.made.length then (states.made.length - unlike.length, states)
  else (states.made.length + 1, ⟨state :: states.made⟩)

def byFirst : List (List ByteRange) → List (ByteRange × List (List ByteRange))
  | [] => []
  | [] :: others => byFirst others
  | (range :: rest) :: others =>
    match byFirst others with
    | [] => [(range, [rest])]
    | (next, rests) :: groups =>
      if next = range then (range, rest :: rests) :: groups
      else (range, [rest]) :: (next, rests) :: groups

/-- Makes the states for sequences of so many ranges at most, and gives the number of the first. -/
def addSequences : Nat → List (List ByteRange) → ByteStates → Nat × ByteStates
  | 0, _, states => (0, states)
  | length + 1, sequences, states =>
    let groups := byFirst sequences
    if groups.isEmpty then (0, states)
    else
      let (moves, states) :=
        groups.foldl
          (fun (moves, states) (range, rests) =>
            let (next, states) := addSequences length rests states
            ((range, next) :: moves, states))
          (([] : ByteState), states)
      states.add moves

def size (states : ByteStates) : Nat :=
  states.made.foldl (fun n state => n + branchSize state.length) 0

end ByteStates

/-- How many ranges of the sequences are not shared with the sequence before. -/
def unsharedRanges : List ByteRange → List (List ByteRange) → Nat
  | _, [] => 0
  | before, sequence :: others =>
    let shared := ((sequence.zip before).takeWhile (fun pair => pair.1 == pair.2)).length
    sequence.length - shared + unsharedRanges sequence others

/-- The size of a class. ASCII characters need one state. Forwards, states from which the same is
read are one; backwards, the ways out of the first bytes are. -/
def classSize (direction : Direction) (members : CodePoints) : Nat :=
  let sequences := Utf8.sequences members
  if members.isAscii then stateSize + branchSize members.intervals.length
  else
    match direction with
    | .forward => stateSize + (ByteStates.addSequences 4 sequences ⟨[]⟩).2.size
    | .backward =>
      stateSize + forkSize sequences.length + stateSize * unsharedRanges [] sequences

def dividedAtEmpty (words : List (List UInt8)) : List (List (List UInt8)) :=
  match words with
  | [] => [[]]
  | [] :: others => [] :: dividedAtEmpty others
  | word :: others =>
    match dividedAtEmpty others with
    | [] => [[word]]
    | part :: parts => (word :: part) :: parts

/-- The size of a tree of words that are read byte by byte, given how long they are at most. Words
behind one that ends are kept apart from those before it. -/
def wordsSize : Nat → List (List UInt8) → Nat
  | 0, _ => 0
  | length + 1, words =>
    if words.all (·.isEmpty) then 0
    else
      let divided :=
        match dividedAtEmpty words with
        | [] :: parts => [] :: parts.dropWhile (·.isEmpty)
        | parts => parts
      let filled := divided.filter (fun part => !part.isEmpty)
      let nodes := filled.map (fun part =>
        let letters := (part.filterMap (·.head?)).eraseDups
        let state := if letters.length = 1 then stateSize else branchSize letters.length
        letters.foldl
          (fun size letter =>
            let rests := part.filterMap (fun word =>
              match word with
              | [] => none
              | first :: rest => if first = letter then some rest else none)
            size + wordsSize length rests)
          state)
      forkSize (filled.length + (divided.length - 1)) + nodes.foldl (· + ·) 0

def word? (direction : Direction) : Pattern → Option (List UInt8)
  | .letters text =>
    let bytes := text.flatMap String.utf8EncodeChar
    some (match direction with
      | .forward => bytes
      | .backward => bytes.reverse)
  | _ => none

def wordChoiceSize? (direction : Direction) (p : Pattern) : Option Nat :=
  (p.alternatives.mapM (word? direction)).map (fun words =>
    stateSize + wordsSize ((words.map (·.length)).foldl max 0 + 1) words)

/-- The size of a repetition, given that of its body and whether every match of the body takes a
character. -/
def repeatedSize (body : Nat) (takesSome : Bool) (least : Nat) : Option Nat → Nat
  | none =>
    if least = 0 ∧ takesSome = false then body + 2 * forkSize 2 + stateSize
    else max least 1 * body + forkSize 2
  | some most =>
    if least = 0 ∧ most = 1 then forkSize 2 + body + stateSize
    else
      let front := if least = 0 then stateSize else least * body
      if least = most then front
      else front + stateSize + (most - least) * (forkSize 2 + body)

/-- The size of a pattern, given those of classes. It may be meant as the rest of a choice, which
goes on to each of its alternatives. -/
def size (direction : Direction) (sizeOfClass : CodePoints → Nat) (asRest : Bool) : Pattern → Nat
  | .alt first rest =>
    match if asRest then none else wordChoiceSize? direction (.alt first rest) with
    | some size => size
    | none =>
      (if asRest then 4 else 2 * stateSize + 4) + size direction sizeOfClass false first +
        size direction sizeOfClass true rest
  | .empty | .assertion _ => whole stateSize
  | .letters text => whole (stateSize * utf8Length text)
  | .oneOf members => whole (sizeOfClass members)
  | .seq first rest =>
    whole (size direction sizeOfClass false first + size direction sizeOfClass false rest)
  | .repeated body least most _ =>
    let takesSome := decide (0 < body.leastLength?.getD 0)
    whole (repeatedSize (size direction sizeOfClass false body) takesSome least most)
  | .group _ body =>
    let bounds :=
      match direction with
      | .forward => 2 * stateSize
      | .backward => 0
    whole (bounds + size direction sizeOfClass false body)
where
  /-- A pattern that is no choice is one alternative. -/
  whole (size : Nat) : Nat := if asRest then 4 + size else size

def startsAtStart : Pattern → Bool
  | .assertion a => a == .textStart
  | .seq first rest => first.startsAtStart || (first.takesNothing && rest.startsAtStart)
  | .alt first rest => first.startsAtStart && rest.startsAtStart
  | .repeated body least _ _ => decide (0 < least) && body.startsAtStart
  | .group _ body => body.startsAtStart
  | _ => false

def endsAtEnd : Pattern → Bool
  | .assertion a => a == .textEnd
  | .seq first rest => rest.endsAtEnd || (rest.takesNothing && first.endsAtEnd)
  | .alt first rest => first.endsAtEnd && rest.endsAtEnd
  | .repeated body least _ _ => decide (0 < least) && body.endsAtEnd
  | .group _ body => body.endsAtEnd
  | _ => false

/-- The size of what surrounds a pattern: the last state, forwards the bounds of the whole match,
and a search for its beginning where that is not known. -/
def frameSize (direction : Direction) (p : Pattern) : Nat :=
  let search (anchored : Bool) : Nat :=
    if anchored then stateSize else stateSize + branchSize 1 + forkSize 2
  match direction with
  | .forward => search p.startsAtStart + 3 * stateSize
  | .backward => search p.endsAtEnd + stateSize

/-- The size of one of the two machines. Every class is measured once. -/
def machineSize (direction : Direction) (p : Pattern) : Nat :=
  let table := p.classes.eraseDups.map (fun a => (a, classSize direction a))
  frameSize direction p + p.size direction (fun a => (table.lookup a).getD 0) false

/-- The longest text in bytes that is searched for without a machine. -/
def maxPlainText : Nat := 100

def isPlainText : Pattern → Bool
  | .letters text => decide (utf8Length text ≤ maxPlainText)
  | _ => false

/-- Whether both machines of a pattern keep within a limit, or none is needed. -/
def fits (maxSize : Nat) (p : Pattern) : Bool :=
  p.isPlainText ||
    decide (machineSize .forward p ≤ maxSize) && decide (machineSize .backward p ≤ maxSize)

end Sift.Pattern
