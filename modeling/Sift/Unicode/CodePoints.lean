import Sift.Text.Pieces

/-!
Sets of characters, as intervals of code points. Surrogates are no characters; a set never has them.
Tables of sets are written as text: runs with blanks or line ends between them. A run is a first
code point, or a first and a last one with `-` between them, in hexadecimal, and after `/` the
distance of its members where it is not one.
-/

namespace Sift.Unicode

def words (text : String) : List (List Char) :=
  ((pieces '\n' text.toList).flatMap (pieces ' ')).filter (fun word => !word.isEmpty)

structure Interval where
  first : Nat
  last : Nat
deriving DecidableEq, Repr

/-- Every `step`-th code point from the first to the last. -/
structure Run where
  first : Nat
  last : Nat
  step : Nat
deriving DecidableEq, Repr

namespace Run

def contains (r : Run) (n : Nat) : Bool :=
  decide (r.first ≤ n ∧ n ≤ r.last ∧ (n - r.first) % r.step = 0)

def members (r : Run) : List Nat :=
  (List.range ((r.last - r.first) / r.step + 1)).map (fun i => r.first + r.step * i)

def intervals (r : Run) : List Interval :=
  if r.step = 1 then [⟨r.first, r.last⟩] else r.members.map (fun n => ⟨n, n⟩)

def ofText (text : List Char) : Run :=
  match pieces '/' text with
  | [] => ⟨0, 0, 1⟩
  | bounds :: distance =>
    match pieces '-' bounds with
    | [] => ⟨0, 0, 1⟩
    | first :: last =>
      ⟨hexValue first, hexValue (last.headD first), hexValue (distance.headD ['1'])⟩

end Run

/-- A set of code points. The intervals stand in increasing order and neither overlap nor touch, so
a set is written in one way only. -/
structure CodePoints where
  intervals : List Interval
deriving DecidableEq, Repr

namespace CodePoints

def anyContains : List Interval → Nat → Bool
  | [], _ => false
  | i :: others, n => decide (i.first ≤ n) && (decide (n ≤ i.last) || anyContains others n)

def contains (s : CodePoints) (n : Nat) : Bool := anyContains s.intervals n

/-- Puts an interval in front of those that begin no earlier, and joins it with those it overlaps or
touches. -/
def joinFront (i : Interval) : List Interval → List Interval
  | [] => [i]
  | j :: others =>
    if j.first ≤ i.last + 1 then joinFront ⟨i.first, max i.last j.last⟩ others else i :: j :: others

def ofOrdered (intervals : List Interval) : CodePoints := ⟨intervals.foldr joinFront []⟩

def ofIntervals (intervals : List Interval) : CodePoints :=
  ofOrdered (intervals.mergeSort (fun i j => decide (i.first ≤ j.first)))

def ofText (text : String) : CodePoints :=
  ofIntervals ((words text).flatMap (fun word => (Run.ofText word).intervals))

def empty : CodePoints := ⟨[]⟩

def union (s t : CodePoints) : CodePoints :=
  ofOrdered (s.intervals.merge t.intervals (fun i j => decide (i.first ≤ j.first)))

def unions (sets : List CodePoints) : CodePoints := ofIntervals (sets.flatMap (·.intervals))

def gaps (start : Nat) : List Interval → List Interval
  | [] => if start ≤ 0x10FFFF then [⟨start, 0x10FFFF⟩] else []
  | i :: others =>
    if start < i.first then ⟨start, i.first - 1⟩ :: gaps (i.last + 1) others
    else gaps (i.last + 1) others

/-- The code points that are no characters. -/
def surrogates : CodePoints := ⟨[⟨0xD800, 0xDFFF⟩]⟩

def complement (s : CodePoints) : CodePoints := ⟨gaps 0 (s.union surrogates).intervals⟩

def inter (s t : CodePoints) : CodePoints := (s.complement.union t.complement).complement

def difference (s t : CodePoints) : CodePoints := (s.complement.union t).complement

def symmetricDifference (s t : CodePoints) : CodePoints := (s.difference t).union (t.difference s)

def all : CodePoints := empty.complement

def range (first last : Nat) : CodePoints := all.inter ⟨[⟨first, last⟩]⟩

def single (n : Nat) : CodePoints := ⟨[⟨n, n⟩]⟩

def isEmpty (s : CodePoints) : Bool := s.intervals.isEmpty

def only? (s : CodePoints) : Option Nat :=
  match s.intervals with
  | [i] => if i.first = i.last then some i.first else none
  | _ => none

def isAscii (s : CodePoints) : Bool := s.intervals.all (fun i => decide (i.last < 0x80))

end CodePoints

end Sift.Unicode
