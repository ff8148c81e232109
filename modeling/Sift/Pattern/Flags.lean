import Sift.Pattern.CharClass
import Sift.Text.Blank

namespace Sift.Pattern

/-- Modes hold from where they are set to the end of the group they are set in. Preferring short
matches is a mode that may be set and makes no difference to whether a match exists. -/
structure Flags where
  ignoreCase : Bool := false
  multiLine : Bool := false
  dotAll : Bool := false
  preferShort : Bool := false
  unicode : Bool := true
  crlf : Bool := false
  ignoreSpace : Bool := false
deriving DecidableEq, Repr

namespace Flags

def set? (flags : Flags) (letter : Char) (on : Bool) : Option Flags :=
  match letter with
  | 'i' => some { flags with ignoreCase := on }
  | 'm' => some { flags with multiLine := on }
  | 's' => some { flags with dotAll := on }
  | 'U' => some { flags with preferShort := on }
  | 'u' => some { flags with unicode := on }
  | 'R' => some { flags with crlf := on }
  | 'x' => some { flags with ignoreSpace := on }
  | _ => none

/-- What a list of flags does: it sets them for the rest of the group around it, or it begins a
group of its own for which they hold. -/
inductive Scope where
  | rest
  | group
deriving DecidableEq, Repr

/-- Reads a list of flags up to the `)` or `:` behind it. A minus turns what follows off. Nothing
may stand twice, a minus needs a flag after it, and setting no flag for the rest is refused. The
letters read so far are given, and whether they are being turned on. -/
def read? (flags : Flags) (seen : List Char) (on : Bool) :
    List Char → Option (Flags × Scope × List Char)
  | [] => none
  | c :: rest =>
    if c = ')' then if seen = [] ∨ seen.head? = some '-' then none else some (flags, .rest, rest)
    else if c = ':' then if seen.head? = some '-' then none else some (flags, .group, rest)
    else if seen.contains c then none
    else if c = '-' then read? flags (c :: seen) false rest
    else
      match flags.set? c on with
      | none => none
      | some flags => read? flags (c :: seen) on rest

end Flags

/-- Skips blanks and comments where the mode says that they do not count. A comment runs from `#` to
the end of the line. -/
def skipSpace (ignore : Bool) (inComment : Bool) : List Char → List Char
  | [] => []
  | c :: rest =>
    if !ignore then c :: rest
    else if inComment then skipSpace ignore (c != '\n') rest
    else if isBlank c then skipSpace ignore false rest
    else if c = '#' then skipSpace ignore true rest
    else c :: rest

def Flags.skip (flags : Flags) (text : List Char) : List Char :=
  skipSpace flags.ignoreSpace false text

def readBraced? (ignore : Bool) (inComment : Bool) : List Char → Option (List Char × List Char)
  | [] => none
  | c :: rest =>
    if inComment then readBraced? ignore (c != '\n') rest
    else if ignore && isBlank c then readBraced? ignore false rest
    else if ignore && c == '#' then readBraced? ignore true rest
    else if c = '}' then some ([], rest)
    else (readBraced? ignore false rest).map (fun read => (c :: read.1, read.2))

/-- A class as it is meant under the modes: letters of either case where case is left aside, and
then the complement if it is negated. Outside of the Unicode mode classes are of bytes, and one
with members that are not ASCII is refused, because a byte alone may be no character. -/
def Flags.classUnder? (flags : Flags) (negated : Bool) (a : Unicode.CodePoints) :
    Option Unicode.CodePoints :=
  if flags.unicode then
    let folded := if flags.ignoreCase then a.foldCase else a
    some (if negated then folded.complement else folded)
  else
    let folded := if flags.ignoreCase then CharClass.foldAsciiCase a else a
    let whole := if negated then (Unicode.CodePoints.range 0 0xFF).difference folded else folded
    if whole.isAscii then some whole else none

end Sift.Pattern
