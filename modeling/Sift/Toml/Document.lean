import Sift.Toml.Number
import Sift.Toml.Table
import Sift.Toml.Text

namespace Sift.Toml

/-- How many arrays and inline tables may be nested, and how many parts a key may have. -/
def maxNesting : Nat := 79

/-- Skips blanks, line ends and comments, which may all stand between the values of an array. -/
def skipFiller (inComment : Bool) : List Char → List Char
  | [] => []
  | c :: rest =>
    if c = '\n' ∨ (c = '\r' ∧ rest.head? = some '\n') then skipFiller false rest
    else if inComment then if isPrintable c then skipFiller true rest else c :: rest
    else if isSpace c then skipFiller false rest
    else if c = '#' then skipFiller true rest
    else c :: rest

def readScalar? (text : List Char) : Option (Value × List Char) :=
  match text with
  | '"' :: _ => (readString? text).map (fun read => (.other, read.2))
  | '\'' :: _ => (readString? text).map (fun read => (.other, read.2))
  | 't' :: 'r' :: 'u' :: 'e' :: rest => some (.other, rest)
  | 'f' :: 'a' :: 'l' :: 's' :: 'e' :: rest => some (.other, rest)
  | _ =>
    match readDateTime? text with
    | some rest => some (.other, rest)
    | none =>
      match readFloat? text with
      | some rest => some (.other, rest)
      | none => (readInteger? text).map (fun read => (.integer read.1, read.2))

mutual

/-- Reads a value. The fuel is the number of characters that may be read; the depth is the number of
arrays and inline tables that may yet be opened. -/
def readValue? (fuel depth : Nat) (text : List Char) : Option (Value × List Char) :=
  match fuel, depth, text with
  | 0, _, _ => none
  | _ + 1, 0, '[' :: _ => none
  | _ + 1, 0, '{' :: _ => none
  | fuel + 1, depth + 1, '[' :: rest => (readElements? fuel depth rest).map (fun r => (.other, r))
  | fuel + 1, depth + 1, '{' :: rest =>
    match skipSpaces rest with
    | '}' :: rest => some (.other, rest)
    | rest => (readPairs? fuel depth .empty rest).map (fun r => (.other, r))
  | _ + 1, _, text => readScalar? text

/-- Reads the values of an array and its closing bracket. A comma may stand after the last one. -/
def readElements? (fuel depth : Nat) (text : List Char) : Option (List Char) :=
  match fuel, skipFiller false text with
  | 0, _ => none
  | _ + 1, ']' :: rest => some rest
  | fuel + 1, rest =>
    match readValue? fuel depth rest with
    | none => none
    | some (_, rest) =>
      match skipFiller false rest with
      | ',' :: rest => readElements? fuel depth rest
      | ']' :: rest => some rest
      | _ => none

def readPairs? (fuel depth : Nat) (t : Table) (text : List Char) : Option (List Char) :=
  match fuel with
  | 0 => none
  | fuel + 1 =>
    match readKey? maxNesting text with
    | some (key, '=' :: rest) =>
      match readValue? fuel depth (skipSpaces rest) with
      | none => none
      | some (value, rest) =>
        match t.enter key value, skipSpaces rest with
        | some t, ',' :: rest => readPairs? fuel depth t rest
        | some _, '}' :: rest => some rest
        | _, _ => none
    | _ => none

end

def Document.readItem? (d : Document) (text : List Char) : Option (Document × List Char) :=
  match text with
  | '#' :: _ => (readLineEnd? (skipComment text)).map (fun rest => (d, rest))
  | '\n' :: _ | '\r' :: _ => (readNewline? text).map (fun rest => (d, rest))
  | '[' :: '[' :: rest =>
    match readKey? maxNesting rest with
    | some (key, ']' :: ']' :: rest) => do
      let d ← d.beginElement key
      let rest ← readLineRest? rest
      some (d, rest)
    | _ => none
  | '[' :: rest =>
    match readKey? maxNesting rest with
    | some (key, ']' :: rest) => do
      let d ← d.beginTable key
      let rest ← readLineRest? rest
      some (d, rest)
    | _ => none
  | _ =>
    match readKey? maxNesting text with
    | some (key, '=' :: rest) => do
      let (value, rest) ← readValue? (rest.length + 1) maxNesting (skipSpaces rest)
      let current ← d.current.enter key value
      let rest ← readLineRest? rest
      some ({ d with current := current }, rest)
    | _ => none

def Document.readRest? : Nat → Document → List Char → Option Document
  | 0, _, _ => none
  | fuel + 1, d, text =>
    match skipSpaces text with
    | [] => some d
    | text =>
      match d.readItem? text with
      | none => none
      | some (d, rest) => Document.readRest? fuel d rest

def skipMark : List Char → List Char
  | '\uFEFF' :: rest => rest
  | text => text

/-- The root table of a document. -/
def Table.ofText? (text : String) : Option Table :=
  (Document.readRest? (text.length + 1) .start (skipMark text.toList)).bind Document.finish

end Sift.Toml
