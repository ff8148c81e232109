import Sift.Unicode.CaseMapping
import Sift.Unicode.Property

namespace Sift.Pattern

open Unicode (CodePoints GeneralCategory Property)

namespace CharClass

def otherAsciiCase (n : Nat) : Nat :=
  if 0x41 ≤ n ∧ n ≤ 0x5A then n + 0x20 else if 0x61 ≤ n ∧ n ≤ 0x7A then n - 0x20 else n

/-- The class with everything that differs from a member in the case of an ASCII letter only. -/
def foldAsciiCase (a : CodePoints) : CodePoints :=
  let letters := (List.range 0x80).filter (fun n => a.contains (otherAsciiCase n))
  a.union (.ofIntervals (letters.map (fun n => ⟨n, n⟩)))

def asciiNames : List (String × CodePoints) :=
  [("alnum", ⟨[⟨0x30, 0x39⟩, ⟨0x41, 0x5A⟩, ⟨0x61, 0x7A⟩]⟩),
   ("alpha", ⟨[⟨0x41, 0x5A⟩, ⟨0x61, 0x7A⟩]⟩),
   ("ascii", ⟨[⟨0x00, 0x7F⟩]⟩),
   ("blank", ⟨[⟨0x09, 0x09⟩, ⟨0x20, 0x20⟩]⟩),
   ("cntrl", ⟨[⟨0x00, 0x1F⟩, ⟨0x7F, 0x7F⟩]⟩),
   ("digit", ⟨[⟨0x30, 0x39⟩]⟩),
   ("graph", ⟨[⟨0x21, 0x7E⟩]⟩),
   ("lower", ⟨[⟨0x61, 0x7A⟩]⟩),
   ("print", ⟨[⟨0x20, 0x7E⟩]⟩),
   ("punct", ⟨[⟨0x21, 0x2F⟩, ⟨0x3A, 0x40⟩, ⟨0x5B, 0x60⟩, ⟨0x7B, 0x7E⟩]⟩),
   ("space", ⟨[⟨0x09, 0x0D⟩, ⟨0x20, 0x20⟩]⟩),
   ("upper", ⟨[⟨0x41, 0x5A⟩]⟩),
   ("word", ⟨[⟨0x30, 0x39⟩, ⟨0x41, 0x5A⟩, ⟨0x5F, 0x5F⟩, ⟨0x61, 0x7A⟩]⟩),
   ("xdigit", ⟨[⟨0x30, 0x39⟩, ⟨0x41, 0x46⟩, ⟨0x61, 0x66⟩]⟩)]

end CharClass

inductive Shorthand where
  | digit | space | word
deriving DecidableEq, Repr

namespace Shorthand

/-- The ASCII members of a shorthand. -/
def asciiClass : Shorthand → CodePoints
  | .digit => ⟨[⟨0x30, 0x39⟩]⟩
  | .space => ⟨[⟨0x09, 0x0D⟩, ⟨0x20, 0x20⟩]⟩
  | .word => ⟨[⟨0x30, 0x39⟩, ⟨0x41, 0x5A⟩, ⟨0x5F, 0x5F⟩, ⟨0x61, 0x7A⟩]⟩

/-- What a word is made of: letters, marks, decimal digits, connectors and joiners. -/
def wordClass : CodePoints :=
  CodePoints.unions
    [Property.alphabetic.codePoints, GeneralCategory.nonspacingMark.codePoints,
     GeneralCategory.spacingMark.codePoints, GeneralCategory.enclosingMark.codePoints,
     GeneralCategory.decimalNumber.codePoints, GeneralCategory.connectorPunctuation.codePoints,
     Property.joinControl.codePoints]

def unicodeClass : Shorthand → CodePoints
  | .digit => GeneralCategory.decimalNumber.codePoints
  | .space => Property.whiteSpace.codePoints
  | .word => wordClass

end Shorthand

end Sift.Pattern
