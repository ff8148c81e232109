import Sift.Binary64.Basic

/-!
The shortest decimal text of a floating-point number: the fewest digits that read back as the same
number, and of those the nearest to it. All arithmetic is on whole multiples of `10 ^ (-1074)`,
of which every finite number is one.
-/

namespace Sift

namespace Magnitude

/-- One unit of `2 ^ (-1074)` is this multiple of `10 ^ (-1074)`. -/
def decimalsPerUnit : Nat := Nat.pow 5 1074

/-- Whether a decimal, as a multiple of `10 ^ (-1074)`, reads as the number at a place. The decimals
that do so lie between the midpoints to the two neighbours, and a midpoint itself goes to the even
place. -/
def readsAs (place decimal : Nat) : Bool :=
  let lower := (unitsAt (place - 1) + unitsAt place) * decimalsPerUnit
  let upper := (unitsAt place + unitsAt (place + 1)) * decimalsPerUnit
  if place % 2 = 0 then decide (lower ≤ 2 * decimal ∧ 2 * decimal ≤ upper)
  else decide (lower < 2 * decimal ∧ 2 * decimal < upper)

/-- The multiple of `10 ^ exponent` that reads as the number at a place, as its factor. Where both
neighbours on that grid do, it is the nearer one, and the greater one if both are equally near. -/
def onGrid? (place exponent : Nat) : Option Nat :=
  let step := Nat.pow 10 exponent
  let value := unitsAt place * decimalsPerUnit
  let below := value / step
  match readsAs place (below * step), readsAs place ((below + 1) * step) with
  | true, true => some (if 2 * (value % step) < step then below else below + 1)
  | true, false => some below
  | false, true => some (below + 1)
  | false, false => none

/-- The coarsest grid up to the given one on which some decimal reads as the number at a place, and
that decimal. On the finest grid it is the number itself. -/
def coarsest (place : Nat) : Nat → Nat × Nat
  | 0 => (unitsAt place * decimalsPerUnit, 0)
  | exponent + 1 =>
    match onGrid? place (exponent + 1) with
    | some factor => (factor, exponent + 1)
    | none => coarsest place exponent

/-- An exponent whose grid is too coarse for a number of this size. It rests on
`2 ^ 33 < 10 ^ 10`. -/
def tooCoarse (place : Nat) : Nat :=
  10 * (Nat.log2 (unitsAt (place + 1) * decimalsPerUnit) / 33 + 2)

/-- The shortest digits of a positive finite magnitude, with the exponent of the last one counted
from `10 ^ (-1074)`. -/
def shortest (m : Magnitude) : Nat × Nat := coarsest m.place (tooCoarse m.place)

end Magnitude

/-- Writes `digits * 10 ^ (exponent - 1074)` without an exponent: zeros fill the places up to the
point. -/
def positional (digits exponent : Nat) : List Char :=
  let written := Nat.toDigits 10 digits
  if 1074 ≤ exponent then written ++ List.replicate (exponent - 1074) '0'
  else
    let places := 1074 - exponent
    let padded := List.replicate (places + 1 - written.length) '0' ++ written
    padded.take (padded.length - places) ++ '.' :: padded.drop (padded.length - places)

def Magnitude.toChars (m : Magnitude) : List Char :=
  if m.place = 0 then ['0']
  else if m.place = infinityPlace then ['i', 'n', 'f']
  else positional m.shortest.1 m.shortest.2

/-- The text of a number: a minus where it has the negative sign, also on zero. -/
def Binary64.toChars : Binary64 → List Char
  | .nan => ['N', 'a', 'N']
  | .signed negative m => (if negative then ['-'] else []) ++ m.toChars

instance : ToString Binary64 where
  toString x := String.ofList x.toChars

def scientific (digits exponent : Nat) : List Char :=
  let written := Nat.toDigits 10 digits
  let power : Int := (exponent + written.length - 1 : Nat) - 1074
  written.take 1 ++ (if written.length = 1 then [] else '.' :: written.drop 1) ++
    'e' :: (toString power).toList

/-- Below `10 ^ (-4)` and from `10 ^ 16` on, messages for developers write a number with an
exponent, and the other numbers with a point. -/
def Magnitude.debugChars (m : Magnitude) : List Char :=
  if m.place = infinityPlace then m.toChars
  else if 0 < m.place ∧ m.place < (nearest 1 (Nat.pow 10 4)).place ∨
      (nearest (Nat.pow 10 16) 1).place ≤ m.place then
    scientific m.shortest.1 m.shortest.2
  else if m.toChars.contains '.' then m.toChars
  else m.toChars ++ ['.', '0']

def Binary64.debugText : Binary64 → String
  | .nan => "NaN"
  | .signed negative m => (if negative then "-" else "") ++ String.ofList m.debugChars

end Sift
