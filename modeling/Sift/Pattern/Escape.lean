import Sift.Pattern.Basic
import Sift.Pattern.Flags
import Sift.Pattern.NamedClass

namespace Sift.Pattern

/-- A part of a pattern that is written as one. A literal that is written as two hexadecimal digits
may stand for a byte. -/
inductive Primitive where
  | literal (c : Char) (asByte : Bool)
  | members (a : Unicode.CodePoints)
  | assertion (a : Assertion)

/-- The character that a literal stands for. Outside of the Unicode mode a byte that is no ASCII
character is refused. -/
def literal? (flags : Flags) (c : Char) (asByte : Bool) : Option Char :=
  if !flags.unicode && asByte && decide (0x7F < c.toNat) then none else some c

/-- A code point that is no character has no literal. -/
def charOfNat? (n : Nat) : Option Char :=
  if n.isValidChar then some (Char.ofNat n) else none

def readDigits? (flags : Flags) : Nat → List Char → Option (List Char × List Char)
  | 0, text => some ([], text)
  | count + 1, text =>
    match flags.skip text with
    | [] => none
    | c :: rest =>
      if (hexDigit? c).isNone then none
      else (readDigits? flags count rest).map (fun read => (c :: read.1, read.2))

def readNumbered? (flags : Flags) (count : Nat) (text : List Char) :
    Option (Primitive × List Char) :=
  match flags.skip text with
  | '{' :: rest =>
    match readBraced? flags.ignoreSpace false rest with
    | none => none
    | some (digits, rest) =>
      if digits = [] ∨ digits.any (fun c => (hexDigit? c).isNone) then none
      else (charOfNat? (hexValue digits)).map (fun c => (.literal c false, rest))
  | text =>
    match readDigits? flags count text with
    | none => none
    | some (digits, rest) =>
      (charOfNat? (hexValue digits)).map (fun c => (.literal c (count == 2), rest))

/-- Reads a class by the name of a property, a single letter or a text in braces. The sign in the
braces negates as the letter in front of them does. -/
def readProperty? (flags : Flags) (negated : Bool) (text : List Char) :
    Option (Primitive × List Char) :=
  let resolve (named : Option (Unicode.CodePoints × Bool)) (rest : List Char) :
      Option (Primitive × List Char) :=
    match named with
    | none => none
    | some (a, opposite) =>
      if !flags.unicode then none
      else (flags.classUnder? (negated != opposite) a).map (fun a => (.members a, rest))
  match flags.skip text with
  | [] => none
  | '{' :: rest =>
    match readBraced? flags.ignoreSpace false rest with
    | none => none
    | some (name, rest) => resolve (bracedClass? name) rest
  | c :: rest =>
    if c = '\\' then none else resolve ((namedClass? [c]).map (fun a => (a, false))) rest

/-- A shorthand or its complement. Case makes no difference to it. -/
def shorthand? (flags : Flags) (kind : Shorthand) (negated : Bool) : Option Primitive :=
  if flags.unicode then
    some (.members (if negated then kind.unicodeClass.complement else kind.unicodeClass))
  else
    (Flags.classUnder? { flags with ignoreCase := false } negated kind.asciiClass).map .members

def isBoundaryPart (c : Char) : Bool := c.isAlpha || c == '-'

/-- Reads a word boundary. Braces after it that begin with a letter or a hyphen name a special one;
other braces are left to be read as a repetition. -/
def readBoundary? (flags : Flags) (text : List Char) : Option (Primitive × List Char) :=
  let ascii := !flags.unicode
  let plain : Option (Primitive × List Char) := some (.assertion (.wordBoundary ascii), text)
  match text with
  | '{' :: rest =>
    match flags.skip rest with
    | [] => none
    | c :: _ =>
      if !isBoundaryPart c then plain
      else
        match readBraced? flags.ignoreSpace false rest with
        | none => none
        | some (name, rest) =>
          match String.ofList name with
          | "start" => some (.assertion (.wordStart ascii), rest)
          | "end" => some (.assertion (.wordEnd ascii), rest)
          | "start-half" => some (.assertion (.wordStartHalf ascii), rest)
          | "end-half" => some (.assertion (.wordEndHalf ascii), rest)
          | _ => none
  | _ => plain

def isMeta (c : Char) : Bool := "\\.+*?()|[]\x7b\x7d^$#&-~".toList.contains c

def isEscapable (c : Char) : Bool :=
  isMeta c || (decide (c.toNat < 0x80) && !c.isAlphanum && c != '<' && c != '>')

def readEscape? (flags : Flags) : List Char → Option (Primitive × List Char)
  | [] => none
  | c :: rest =>
    let ascii := !flags.unicode
    let literal (c : Char) : Option (Primitive × List Char) := some (.literal c false, rest)
    let assertion (a : Assertion) : Option (Primitive × List Char) := some (.assertion a, rest)
    let shorthand (kind : Shorthand) (negated : Bool) : Option (Primitive × List Char) :=
      (shorthand? flags kind negated).map (fun p => (p, rest))
    match c with
    | 'x' => readNumbered? flags 2 rest
    | 'u' => readNumbered? flags 4 rest
    | 'U' => readNumbered? flags 8 rest
    | 'p' => readProperty? flags false rest
    | 'P' => readProperty? flags true rest
    | 'd' => shorthand .digit false
    | 'D' => shorthand .digit true
    | 's' => shorthand .space false
    | 'S' => shorthand .space true
    | 'w' => shorthand .word false
    | 'W' => shorthand .word true
    | 'a' => literal '\x07'
    | 'f' => literal '\x0C'
    | 't' => literal '\t'
    | 'n' => literal '\n'
    | 'r' => literal '\r'
    | 'v' => literal '\x0B'
    | 'A' => assertion .textStart
    | 'z' => assertion .textEnd
    | 'b' => readBoundary? flags rest
    | 'B' => assertion (.notWordBoundary ascii)
    | '<' => assertion (.wordStart ascii)
    | '>' => assertion (.wordEnd ascii)
    | _ => if isEscapable c then literal c else none

end Sift.Pattern
