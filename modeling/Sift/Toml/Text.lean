import Sift.Text.Pieces

/-!
Strings, keys, blanks and comments of TOML text. A reader gives what it has read and the text after
it, or nothing if the text does not begin with what it reads.
-/

namespace Sift.Toml

def isSpace (c : Char) : Bool := c == ' ' || c == '\t'

def skipSpaces (text : List Char) : List Char := text.dropWhile isSpace

/-- Whether a character may stand in a comment: anything but control characters, of which the tab is
allowed. -/
def isPrintable (c : Char) : Bool := c == '\t' || (decide (0x20 ≤ c.toNat) && c.toNat != 0x7F)

def readNewline? : List Char → Option (List Char)
  | '\n' :: rest => some rest
  | '\r' :: '\n' :: rest => some rest
  | _ => none

def readLineEnd? : List Char → Option (List Char)
  | [] => some []
  | text => readNewline? text

def skipComment : List Char → List Char
  | '#' :: rest => rest.dropWhile isPrintable
  | text => text

def readLineRest? (text : List Char) : Option (List Char) :=
  readLineEnd? (skipComment (skipSpaces text))

def readCodePoint? (count : Nat) (text : List Char) : Option (Char × List Char) :=
  let digits := text.take count
  let value := hexValue digits
  if digits.length = count ∧ digits.all (fun c => (hexDigit? c).isSome) ∧ value.isValidChar then
    some (Char.ofNat value, text.drop count)
  else none

def readEscape? : List Char → Option (Char × List Char)
  | 'b' :: rest => some ('\x08', rest)
  | 't' :: rest => some ('\t', rest)
  | 'n' :: rest => some ('\n', rest)
  | 'f' :: rest => some ('\x0C', rest)
  | 'r' :: rest => some ('\r', rest)
  | '"' :: rest => some ('"', rest)
  | '\\' :: rest => some ('\\', rest)
  | 'u' :: rest => readCodePoint? 4 rest
  | 'U' :: rest => readCodePoint? 8 rest
  | _ => none

/-- Reads a string with escapes on one line, given what follows its opening quote. The fuel is the
number of characters that may be read. -/
def readBasic? : Nat → List Char → Option (List Char × List Char)
  | 0, _ => none
  | _ + 1, '"' :: rest => some ([], rest)
  | fuel + 1, '\\' :: rest => do
    let (c, rest) ← readEscape? rest
    let (text, rest) ← readBasic? fuel rest
    some (c :: text, rest)
  | fuel + 1, c :: rest =>
    if isPrintable c then (readBasic? fuel rest).map (fun read => (c :: read.1, read.2)) else none
  | _ + 1, [] => none

def readLiteral? (text : List Char) : Option (List Char × List Char) :=
  let body := text.takeWhile (fun c => c != '\'' && isPrintable c)
  match text.drop body.length with
  | '\'' :: rest => some (body, rest)
  | _ => none

/-- The quotes at the front of a text, up to five of them. -/
def leadingQuotes (quote : Char) (text : List Char) : Nat :=
  ((text.take 5).takeWhile (· == quote)).length

def skipBlankLines : List Char → List Char
  | [] => []
  | c :: rest =>
    if isSpace c || c == '\n' then skipBlankLines rest
    else if c = '\r' ∧ rest.head? = some '\n' then skipBlankLines rest
    else c :: rest

/-- Reads a string over several lines, given what follows its opening quotes. Three quotes end it,
and up to two more before them belong to it. The fuel is the number of characters that may be
read. -/
def readLines? (quote : Char) : Nat → List Char → Option (List Char × List Char)
  | 0, _ => none
  | _ + 1, [] => none
  | fuel + 1, c :: rest =>
    let more (c : Char) (rest : List Char) : Option (List Char × List Char) :=
      (readLines? quote fuel rest).map (fun read => (c :: read.1, read.2))
    if c = quote then
      let quotes := leadingQuotes quote (c :: rest)
      if 3 ≤ quotes then some (List.replicate (quotes - 3) quote, rest.drop (quotes - 1))
      else more c rest
    else if c = '\\' ∧ quote = '"' then
      match readNewline? (skipSpaces rest) with
      | some after => readLines? quote fuel (skipBlankLines after)
      | none =>
        match readEscape? rest with
        | some (c, rest) => more c rest
        | none => none
    else
      match readNewline? (c :: rest) with
      | some rest => more '\n' rest
      | none => if isPrintable c then more c rest else none

/-- Reads a string over several lines. A line end right after the opening quotes does not count. -/
def readMultiline? (quote : Char) (text : List Char) : Option (List Char × List Char) :=
  readLines? quote (text.length + 1) ((readNewline? text).getD text)

def readString? : List Char → Option (List Char × List Char)
  | '"' :: '"' :: '"' :: rest => readMultiline? '"' rest
  | '\'' :: '\'' :: '\'' :: rest => readMultiline? '\'' rest
  | '"' :: rest => readBasic? (rest.length + 1) rest
  | '\'' :: rest => readLiteral? rest
  | _ => none

def isBareKeyPart (c : Char) : Bool := c.isAlphanum || c == '-' || c == '_'

def readSimpleKey? : List Char → Option (String × List Char)
  | '"' :: rest => (readBasic? (rest.length + 1) rest).map (fun read => (.ofList read.1, read.2))
  | '\'' :: rest => (readLiteral? rest).map (fun read => (.ofList read.1, read.2))
  | text =>
    match text.takeWhile isBareKeyPart with
    | [] => none
    | key => some (.ofList key, text.dropWhile isBareKeyPart)

/-- Reads a key, the parts of which are joined by dots. Blanks may stand around the parts. The fuel
is the number of parts there may be. -/
def readKey? : Nat → List Char → Option (List String × List Char)
  | 0, _ => none
  | fuel + 1, text => do
    let (part, rest) ← readSimpleKey? (skipSpaces text)
    match skipSpaces rest with
    | '.' :: rest => do
      let (parts, rest) ← readKey? fuel rest
      some (part :: parts, rest)
    | rest => some ([part], rest)

end Sift.Toml
