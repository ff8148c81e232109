import Sift.Text.Pieces
import Sift.Text.Utf8

/-!
The form encoding of query strings: pairs of a key and a value, joined by `&`, with `=` between the
two and percent escapes inside them.
-/

namespace Sift.QueryString

/-- The bytes that a text writes. A plus writes a space, and a percent sign with two hexadecimal
digits the byte with that number. Any other percent sign writes itself. -/
def unescape : List UInt8 → List UInt8
  | [] => []
  | 0x25 :: high :: low :: rest =>
    match hexDigit? (Char.ofNat high.toNat), hexDigit? (Char.ofNat low.toNat) with
    | some h, some l => UInt8.ofNat (16 * h + l) :: unescape rest
    | _, _ => 0x25 :: unescape (high :: low :: rest)
  | 0x2B :: rest => 0x20 :: unescape rest
  | b :: rest => b :: unescape rest

/-- The text that a part of a pair writes. Bytes that are not UTF-8 are replaced. -/
def decode (part : List Char) : String :=
  String.ofList (Utf8.decodeLossy (unescape (Utf8.encode part)))

/-- The key and value of a pair. The value begins behind the first `=`; without one it is empty. -/
def pair (piece : List Char) : String × String :=
  (decode (piece.takeWhile (· != '=')), decode ((piece.dropWhile (· != '=')).drop 1))

/-- The pairs of a query string in order. Empty pieces are no pairs. -/
def pairs (query : String) : List (String × String) :=
  ((pieces '&' query.toList).filter (fun piece => !piece.isEmpty)).map pair

end Sift.QueryString
