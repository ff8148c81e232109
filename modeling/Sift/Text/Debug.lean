import Sift.Unicode.Additions

namespace Sift

/-- What does not print by itself is written by its code point. -/
def debugChar (c : Char) : List Char :=
  if c = '\x00' then ['\\', '0']
  else if c = '\t' then ['\\', 't']
  else if c = '\r' then ['\\', 'r']
  else if c = '\n' then ['\\', 'n']
  else if c = '\\' ∨ c = '"' then ['\\', c]
  else if Unicode.Additions.printable.contains c.toNat &&
    !Unicode.Additions.graphemeExtend.contains c.toNat then [c]
  else "\\u\x7b".toList ++ Nat.toDigits 16 c.toNat ++ ['}']

def debugText (text : String) : String :=
  "\"" ++ String.ofList (text.toList.flatMap debugChar) ++ "\""

end Sift
