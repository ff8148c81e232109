import Sift.Unicode.Additions
import Sift.Unicode.CaseMapping

namespace Sift

/-- Whether a cased character follows, not counting those that case ignores. -/
def casedFollows (text : List Char) : Bool :=
  match text.dropWhile (fun c => Unicode.Additions.caseIgnorable.contains c.toNat) with
  | [] => false
  | c :: _ => Unicode.Additions.cased.contains c.toNat

/-- The lower case of a character, except for the capital sigma. Only the capital I with a dot has a
lower case of two characters. -/
def lowercaseChars (c : Char) : List Char :=
  if c.toNat = 0x130 then ['i', '\u0307'] else [Char.ofNat (Unicode.lowercase c.toNat)]

/-- A capital sigma that ends a word has a lower case of its own. The characters before it are
given in reverse. -/
def lowercaseAfter (before : List Char) : List Char → List Char
  | [] => []
  | c :: rest =>
    (if c = 'Σ' then if casedFollows before && !casedFollows rest then ['ς'] else ['σ']
      else lowercaseChars c) ++ lowercaseAfter (c :: before) rest

def lowercase (text : String) : List Char := lowercaseAfter [] text.toList

end Sift
