import Sift.Binary64.Basic

/-!
Decimal number text: an optional minus, digits, and possibly a point with more digits after it. It
has no exponent, and every such text has a value.
-/

namespace Sift

/-- The parts of a decimal number. An empty fraction stands for no point at all. -/
structure Decimal where
  negative : Bool
  whole : List Char
  fraction : List Char
deriving DecidableEq

namespace Decimal

/-- Splits off the point and the digits after it. A point without a digit behind it is no part of
the number. -/
def readFraction (text : List Char) : List Char × List Char :=
  match text with
  | '.' :: rest =>
    if rest.takeWhile Char.isDigit = [] then ([], text)
    else (rest.takeWhile Char.isDigit, rest.dropWhile Char.isDigit)
  | _ => ([], text)

def readUnsigned? (negative : Bool) (text : List Char) : Option (Decimal × List Char) :=
  let whole := text.takeWhile Char.isDigit
  let (fraction, rest) := readFraction (text.dropWhile Char.isDigit)
  if whole = [] then none else some (⟨negative, whole, fraction⟩, rest)

/-- Splits the longest decimal number off the front of the text, if there is one. -/
def read? (text : List Char) : Option (Decimal × List Char) :=
  match text with
  | '-' :: rest => readUnsigned? true rest
  | _ => readUnsigned? false text

def spelling (d : Decimal) : List Char :=
  (if d.negative then ['-'] else []) ++ d.whole ++
    (if d.fraction.isEmpty then [] else '.' :: d.fraction)

private theorem readFraction_append (text : List Char) :
    (if (readFraction text).1.isEmpty then [] else '.' :: (readFraction text).1) ++
      (readFraction text).2 = text := by
  unfold readFraction
  split
  · rename_i rest
    by_cases h : rest.takeWhile Char.isDigit = []
    · simp [h]
    · simp [h, List.takeWhile_append_dropWhile]
  · simp

private theorem append_of_readUnsigned? {negative : Bool} {text rest : List Char} {d : Decimal}
    (h : readUnsigned? negative text = some (d, rest)) :
    d.spelling ++ rest = (if negative then ['-'] else []) ++ text ∧ d.whole ≠ [] := by
  unfold readUnsigned? at h
  by_cases hw : text.takeWhile Char.isDigit = []
  · simp [hw] at h
  · simp only [hw, if_false, Option.some.injEq, Prod.mk.injEq] at h
    obtain ⟨rfl, rfl⟩ := h
    refine ⟨?_, hw⟩
    simp only [spelling, List.append_assoc]
    rw [readFraction_append, List.takeWhile_append_dropWhile]

/-- Nothing is lost between a number and the text after it. -/
theorem spelling_append_of_read? {text rest : List Char} {d : Decimal}
    (h : read? text = some (d, rest)) : d.spelling ++ rest = text := by
  unfold read? at h
  split at h
  · simpa using (append_of_readUnsigned? h).1
  · simpa using (append_of_readUnsigned? h).1

/-- A number has a digit in front of the point. -/
theorem whole_ne_nil_of_read? {text rest : List Char} {d : Decimal}
    (h : read? text = some (d, rest)) : d.whole ≠ [] := by
  unfold read? at h
  split at h
  · exact (append_of_readUnsigned? h).2
  · exact (append_of_readUnsigned? h).2

def digitsValue (digits : List Char) : Nat :=
  digits.foldl (fun value digit => 10 * value + (digit.toNat - '0'.toNat)) 0

/-- The floating-point number nearest to the written value. A minus is kept in front of zero. -/
def toBinary64 (d : Decimal) : Binary64 :=
  .ofRatio d.negative (digitsValue (d.whole ++ d.fraction)) (Nat.pow 10 d.fraction.length)

end Decimal

/-- Reads a text that is one decimal number from end to end. -/
def Binary64.ofText? (text : String) : Option Binary64 :=
  match Decimal.read? text.toList with
  | some (d, []) => some d.toBinary64
  | _ => none

end Sift
