import Sift.Binary64.Decimal
import Sift.Text.Pieces

namespace Sift.Toml

/-- Reads digits, between which single underscores may stand. An underscore without a digit on both
sides is an error. -/
def readDigits? (isDigit : Char → Bool) (text : List Char) : Option (List Char × List Char) :=
  let run := text.takeWhile (fun c => isDigit c || c == '_')
  if run.head?.any isDigit && run.getLast?.any isDigit && !hasDouble run then
    some (run.filter isDigit, text.drop run.length)
  else none
where
  /-- Whether two underscores stand side by side. -/
  hasDouble : List Char → Bool
    | '_' :: '_' :: _ => true
    | _ :: rest => hasDouble rest
    | [] => false

def readSign : List Char → Bool × List Char
  | '-' :: rest => (true, rest)
  | '+' :: rest => (false, rest)
  | text => (false, text)

/-- Reads the digits of a decimal number, in which no zero may stand in front of other digits. -/
def readWhole? (text : List Char) : Option (List Char × List Char) :=
  match text with
  | '0' :: rest => some (['0'], rest)
  | _ => readDigits? Char.isDigit text

def valueInBase (base : Nat) (digits : List Char) : Nat :=
  digits.foldl (fun value d => base * value + (hexDigit? d).getD 0) 0

/-- Integers have 64 bits, and the least of them is this far from zero. -/
def integerBound : Nat := 9223372036854775808

/-- The integer of a sign and a size, if it has 64 bits. -/
def integer? (negative : Bool) (value : Nat) : Option Int :=
  if negative then if value ≤ integerBound then some (-(value : Int)) else none
  else if value < integerBound then some value else none

/-- Reads an integer: in base 16, 8 or 2 without a sign, or in base 10. -/
def readInteger? (text : List Char) : Option (Int × List Char) :=
  let based (base : Nat) (isDigit : Char → Bool) (text : List Char) : Option (Int × List Char) := do
    let (digits, rest) ← readDigits? isDigit text
    let value ← integer? false (valueInBase base digits)
    some (value, rest)
  match text with
  | '0' :: 'x' :: rest => based 16 (fun c => (hexDigit? c).isSome) rest
  | '0' :: 'o' :: rest => based 8 (fun c => decide ('0' ≤ c ∧ c ≤ '7')) rest
  | '0' :: 'b' :: rest => based 2 (fun c => c == '0' || c == '1') rest
  | _ => do
    let (negative, unsigned) := readSign text
    let (digits, rest) ← readWhole? unsigned
    let value ← integer? negative (valueInBase 10 digits)
    some (value, rest)

/-- Whether the number written by these digits with this exponent is too large to be finite. Far
exponents are decided without being worked out. -/
def overflows (digits : List Char) (exponent : Int) : Bool :=
  let value := valueInBase 10 digits
  if value = 0 then false
  else if exponent > 400 then true
  else if exponent + digits.length < 0 then false
  else
    let x : Binary64 :=
      if exponent < 0 then .ofRatio false value (Nat.pow 10 exponent.natAbs)
      else .ofRatio false (value * Nat.pow 10 exponent.natAbs) 1
    !x.isFinite

def readExponent? : List Char → Option (Int × List Char)
  | e :: rest =>
    if e = 'e' ∨ e = 'E' then
      let (negative, unsigned) := readSign rest
      (readDigits? Char.isDigit unsigned).map (fun (digits, rest) =>
        let value : Int := valueInBase 10 digits
        (if negative then -value else value, rest))
    else none
  | [] => none

/-- Reads a floating-point number: one with a fraction, an exponent or both, or a name for one that
is not finite. A positive number too large to be finite is an error. -/
def readFloat? (text : List Char) : Option (List Char) :=
  let (negative, unsigned) := readSign text
  match unsigned with
  | 'i' :: 'n' :: 'f' :: rest => some rest
  | 'n' :: 'a' :: 'n' :: rest => some rest
  | _ => do
    let (whole, rest) ← readWhole? unsigned
    let bounded (digits : List Char) (exponent : Int) (rest : List Char) : Option (List Char) :=
      if !negative && overflows digits exponent then none else some rest
    match rest with
    | '.' :: rest =>
      let (fraction, rest) ← readDigits? Char.isDigit rest
      let scale : Int := -(fraction.length : Int)
      match readExponent? rest, rest with
      | some (exponent, rest), _ => bounded (whole ++ fraction) (scale + exponent) rest
      | none, 'e' :: _ => none
      | none, 'E' :: _ => none
      | none, rest => bounded (whole ++ fraction) scale rest
    | rest =>
      let (exponent, rest) ← readExponent? rest
      bounded whole exponent rest

def readField? (count least most : Nat) (text : List Char) : Option (Nat × List Char) :=
  let digits := text.take count
  let value := valueInBase 10 digits
  if digits.length = count ∧ digits.all Char.isDigit ∧ least ≤ value ∧ value ≤ most then
    some (value, text.drop count)
  else none

def readChar? (c : Char) : List Char → Option (List Char)
  | d :: rest => if c = d then some rest else none
  | [] => none

/-- February has a day more in leap years. -/
def daysInMonth (year month : Nat) : Nat :=
  if month = 2 then
    if year % 4 = 0 ∧ (year % 100 ≠ 0 ∨ year % 400 = 0) then 29 else 28
  else if [4, 6, 9, 11].contains month then 30
  else 31

def readDate? (text : List Char) : Option (List Char) := do
  let (year, rest) ← readField? 4 0 9999 text
  let rest ← readChar? '-' rest
  let (month, rest) ← readField? 2 1 12 rest
  let rest ← readChar? '-' rest
  let (_, rest) ← readField? 2 1 (daysInMonth year month) rest
  some rest

def readTime? (text : List Char) : Option (List Char) := do
  let (_, rest) ← readField? 2 0 23 text
  let rest ← readChar? ':' rest
  let (_, rest) ← readField? 2 0 59 rest
  let rest ← readChar? ':' rest
  let (_, rest) ← readField? 2 0 60 rest
  match rest with
  | '.' :: fraction =>
    if fraction.head?.any Char.isDigit then some (fraction.dropWhile Char.isDigit) else some rest
  | rest => some rest

/-- Reads the difference from universal time. -/
def readOffset? (text : List Char) : Option (List Char) :=
  match text with
  | 'Z' :: rest => some rest
  | 'z' :: rest => some rest
  | sign :: rest =>
    if sign = '+' ∨ sign = '-' then do
      let (_, rest) ← readField? 2 0 23 rest
      let rest ← readChar? ':' rest
      let (_, rest) ← readField? 2 0 59 rest
      some rest
    else none
  | [] => none

def readDateTime? (text : List Char) : Option (List Char) :=
  match readDate? text with
  | none => readTime? text
  | some rest =>
    match rest with
    | delimiter :: time =>
      if delimiter = 'T' ∨ delimiter = 't' ∨ delimiter = ' ' then
        match readTime? time with
        | some rest => some ((readOffset? rest).getD rest)
        | none => some (delimiter :: time)
      else some rest
    | [] => some []

end Sift.Toml
