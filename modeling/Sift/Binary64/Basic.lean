/-!
Numbers of the 64-bit binary floating-point format. A nonnegative number is named by its place in
increasing order, and its value is a whole multiple of `2 ^ (-1074)`, so every comparison here is a
comparison of integers.
-/

namespace Sift

/-- The places from one power of two to the next: two to the power 52. -/
def blockSize : Nat := 4503599627370496

/-- The place of infinity, behind 2047 blocks of finite numbers. -/
def infinityPlace : Nat := 2047 * blockSize

/-- Zero stands at place `0`, the least positive number at place `1`, and infinity at the place
after the largest finite number. -/
structure Magnitude where
  place : Nat
  place_le : place ≤ infinityPlace
deriving DecidableEq

namespace Magnitude

def infinity : Magnitude := ⟨infinityPlace, Nat.le_refl _⟩

/-- The value at a place, in units of `2 ^ (-1074)`. The places of the first two blocks lie one unit
apart; each block after them is spaced twice as widely as the block before. Infinity gets the value
that the next finite number would have. -/
def unitsAt (place : Nat) : Nat :=
  if place < blockSize then place
  else (blockSize + place % blockSize) <<< (place / blockSize - 1)

def units (m : Magnitude) : Nat := unitsAt m.place

def roundHalfEven (numerator denominator : Nat) : Nat :=
  let quotient := numerator / denominator
  let twiceRest := 2 * (numerator % denominator)
  if twiceRest < denominator ∨ twiceRest = denominator ∧ quotient % 2 = 0 then quotient
  else quotient + 1

/-- The magnitude nearest to `numerator / denominator`, an exact half going to the even place. The
quotient in units has `blocks` binary digits more than a place can tell apart, and rounding drops
exactly those; rounding up to a power of two moves into the next block by itself. -/
def nearest (numerator denominator : Nat) : Magnitude :=
  let scaled := numerator <<< 1074
  let blocks := Nat.log2 (scaled / denominator) - 52
  let place := blocks * blockSize + roundHalfEven scaled (denominator <<< blocks)
  ⟨min place infinityPlace, Nat.min_le_right _ _⟩

end Magnitude

/-- A floating-point number. The two zeros differ as numbers and are equal in value; there is one
not-a-number. -/
inductive Binary64 where
  | nan
  | signed (negative : Bool) (magnitude : Magnitude)
deriving DecidableEq

namespace Binary64

def infinity (negative : Bool) : Binary64 := .signed negative .infinity

/-- The number nearest to the quotient, with the given sign also where it rounds to zero. -/
def ofRatio (negative : Bool) (numerator denominator : Nat) : Binary64 :=
  .signed negative (.nearest numerator denominator)

def ofInt (i : Int) : Binary64 := ofRatio (decide (i < 0)) i.natAbs 1

def isFinite : Binary64 → Bool
  | .nan => false
  | .signed _ m => decide (m.place < infinityPlace)

def units? : Binary64 → Option Int
  | .nan => none
  | .signed negative m => some (if negative then -(m.units : Int) else m.units)

/-- How two numbers compare in value; not-a-number compares with nothing. -/
def compare? (x y : Binary64) : Option Ordering :=
  match x.units?, y.units? with
  | some a, some b => some (compare a b)
  | _, _ => none

def sameValue (x y : Binary64) : Bool := x.compare? y == some .eq

/-- The 64 bits of the interchange encoding: the sign and then the place. Not-a-number has no
encoding of its own here. -/
def bits? : Binary64 → Option Nat
  | .nan => none
  | .signed negative m => some (if negative then 2048 * blockSize + m.place else m.place)

end Binary64

end Sift
