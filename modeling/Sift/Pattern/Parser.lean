import Sift.Pattern.Bracket
import Sift.Pattern.Size
import Sift.Unicode.Additions

/-!
Reading patterns. The text is read from left to right under the modes in force, with a stack of
unfinished groups. A pattern that does not read, or whose compiled form would be too large, is no
pattern; why is not told.
-/

namespace Sift.Pattern

/-- A part of a pattern that has been read, with how deeply it is nested. A list of flags is a part
that cannot be repeated. -/
structure Part where
  pattern : Pattern
  nesting : Nat
  repeatable : Bool

/-- Alternatives: those that are complete, and the parts of the one being read, both latest
first. -/
structure Branches where
  complete : List Part
  parts : List Part

namespace Branches

def empty : Branches := ⟨[], []⟩

def add (b : Branches) (part : Part) : Branches := { b with parts := part :: b.parts }

def deepest (parts : List Part) : Nat := parts.foldl (fun n p => max n p.nesting) 0

def sequence (parts : List Part) : Part :=
  match parts with
  | [] => ⟨.empty, 0, true⟩
  | [part] => part
  | _ => ⟨.sequence (parts.reverse.map (·.pattern)), deepest parts + 1, true⟩

def alternate (b : Branches) : Branches := ⟨sequence b.parts :: b.complete, []⟩

def whole (b : Branches) : Part :=
  match b.complete with
  | [] => sequence b.parts
  | complete =>
    let all := sequence b.parts :: complete
    ⟨.choice (all.reverse.map (·.pattern)), deepest all + 1, true⟩

/-- Repeats the last part. There must be one. -/
def repeatLast (b : Branches) (least : Nat) (most : Option Nat) (preferShort : Bool) :
    Option Branches :=
  match b.parts with
  | [] => none
  | part :: parts =>
    if part.repeatable then
      let repeated := repeating part.pattern least most preferShort
      some ⟨b.complete, ⟨repeated, part.nesting + 1, true⟩ :: parts⟩
    else none

end Branches

/-- A group that is not closed yet: what came before it, the modes to return to, and its number if
it captures what it matches. -/
structure OpenGroup where
  before : Branches
  flags : Flags
  number : Option Nat

structure Progress where
  branches : Branches
  flags : Flags
  groups : List OpenGroup
  names : List (List Char)
  captures : Nat

namespace Progress

def start : Progress := ⟨.empty, {}, [], [], 0⟩

def add (s : Progress) (pattern : Pattern) (nesting : Nat) : Progress :=
  { s with branches := s.branches.add ⟨pattern, nesting, true⟩ }

def openGroup (s : Progress) (flags : Flags) (number : Option Nat) : Progress :=
  { s with
    branches := .empty
    flags := flags
    groups := ⟨s.branches, s.flags, number⟩ :: s.groups }

/-- Begins a group that captures what it matches. Such groups are numbered in the order in which
they begin. -/
def openCapture (s : Progress) : Progress :=
  { s.openGroup s.flags (some (s.captures + 1)) with captures := s.captures + 1 }

/-- Ends the innermost group, and with it the modes set inside. -/
def closeGroup (s : Progress) : Option Progress :=
  match s.groups with
  | [] => none
  | g :: groups =>
    let inner := s.branches.whole
    let pattern :=
      match g.number with
      | none => inner.pattern
      | some number => .group number inner.pattern
    some { s with
      branches := g.before.add ⟨pattern, inner.nesting + 1, true⟩
      flags := g.flags
      groups := groups }

def setFlags (s : Progress) (flags : Flags) : Progress :=
  { s with flags := flags, branches := s.branches.add ⟨.empty, 0, false⟩ }

end Progress

/-- What a character in a pattern stands for: the character itself, or where case is left aside all
that differ from it in case only. -/
def character (flags : Flags) (c : Char) : Pattern :=
  let itself := Unicode.CodePoints.single c.toNat
  if !flags.ignoreCase then .letters [c]
  else if flags.unicode then ofClass itself.foldCase
  else ofClass (CharClass.foldAsciiCase itself)

def Primitive.pattern? (flags : Flags) : Primitive → Option Pattern
  | .literal c asByte => (literal? flags c asByte).map (character flags)
  | .members a => some (ofClass a)
  | .assertion a => some (.assertion a)

/-- What a dot stands for: any character, and unless the mode says so no end of a line. Outside of
the Unicode mode it would stand for a byte and is refused. -/
def dotClass? (flags : Flags) : Option Unicode.CodePoints :=
  if !flags.unicode then none
  else if flags.dotAll then some .all
  else if flags.crlf then some (Unicode.CodePoints.complement ⟨[⟨0x0A, 0x0A⟩, ⟨0x0D, 0x0D⟩]⟩)
  else some (Unicode.CodePoints.complement (.single 0x0A))

/-- A caret stands for the start of a line, or of the text alone. -/
def lineStart (flags : Flags) : Assertion :=
  if flags.multiLine then .lineStart flags.crlf else .textStart

def lineEnd (flags : Flags) : Assertion :=
  if flags.multiLine then .lineEnd flags.crlf else .textEnd

def isNameStart (c : Char) : Bool := c == '_' || Unicode.Additions.alphabetic.contains c.toNat

/-- Behind its first character a name may also have numbers, points and brackets. -/
def isNamePart (c : Char) : Bool :=
  isNameStart c || c == '.' || c == '[' || c == ']' || Unicode.Additions.numeric.contains c.toNat

def readName? (text : List Char) : Option (List Char × List Char) :=
  match text.takeWhile (· != '>'), text.dropWhile (· != '>') with
  | first :: others, _ :: rest =>
    if isNameStart first && others.all isNamePart then some (first :: others, rest) else none
  | _, _ => none

/-- Reads what follows an opening parenthesis. Looking ahead or behind is not supported. -/
def readGroup? (s : Progress) (text : List Char) : Option (Progress × List Char) :=
  let named (text : List Char) : Option (Progress × List Char) :=
    match readName? text with
    | none => none
    | some (name, rest) =>
      if s.names.contains name then none
      else some ({ s.openCapture with names := name :: s.names }, rest)
  match s.flags.skip text with
  | '?' :: '=' :: _ => none
  | '?' :: '!' :: _ => none
  | '?' :: '<' :: '=' :: _ => none
  | '?' :: '<' :: '!' :: _ => none
  | '?' :: 'P' :: '<' :: rest => named rest
  | '?' :: '<' :: rest => named rest
  | '?' :: rest =>
    match s.flags.read? [] true rest with
    | none => none
    | some (flags, .rest, rest) => some (s.setFlags flags, rest)
    | some (flags, .group, rest) => some (s.openGroup flags none, rest)
  | rest => some (s.openCapture, rest)

/-- A repetition may be followed by a question mark, which says to prefer the other kind of match:
a short one, or a long one where the modes say to prefer short ones. -/
def readPreference (flags : Flags) : List Char → Bool × List Char
  | '?' :: rest => (!flags.preferShort, rest)
  | text => (flags.preferShort, text)

def readCount? (flags : Flags) (text : List Char) : Option (Nat × List Char) :=
  let digitsAndRest := takeDigits (text.dropWhile isBlank)
  match digitsAndRest with
  | ([], _) => none
  | (digits, rest) =>
    let value := digits.foldl (fun n d => 10 * n + (d.toNat - '0'.toNat)) 0
    if value < 4294967296 then some (value, flags.skip (rest.dropWhile isBlank)) else none
where
  /-- The digits at the front, between which what does not count is left out. -/
  takeDigits (text : List Char) : List Char × List Char :=
    match flags.ignoreSpace with
    | false => (text.takeWhile Char.isDigit, text.dropWhile Char.isDigit)
    | true => spaced false text
  spaced (inComment : Bool) : List Char → List Char × List Char
    | [] => ([], [])
    | c :: rest =>
      if inComment then spaced (c != '\n') rest
      else if isBlank c then spaced false rest
      else if c == '#' then spaced true rest
      else if c.isDigit then ((c :: (spaced false rest).1), (spaced false rest).2)
      else ([], c :: rest)

/-- Reads the counts of a repetition, given what follows its opening brace. The least count may not
be left out. -/
def readCounts? (flags : Flags) (text : List Char) : Option (Nat × Option Nat × List Char) :=
  match readCount? flags (flags.skip text) with
  | none => none
  | some (least, '}' :: rest) => some (least, some least, rest)
  | some (least, ',' :: rest) =>
    match flags.skip rest with
    | '}' :: rest => some (least, none, rest)
    | rest =>
      match readCount? flags rest with
      | some (most, '}' :: rest) => if least ≤ most then some (least, some most, rest) else none
      | _ => none
  | some _ => none

def Progress.step? (s : Progress) (c : Char) (rest : List Char) : Option (Progress × List Char) :=
  let repeatLast (least : Nat) (most : Option Nat) (rest : List Char) :
      Option (Progress × List Char) :=
    let (preferShort, rest) := readPreference s.flags rest
    (s.branches.repeatLast least most preferShort).map (fun b => ({ s with branches := b }, rest))
  match c with
  | '(' => readGroup? s rest
  | ')' => s.closeGroup.map (fun s => (s, rest))
  | '|' => some ({ s with branches := s.branches.alternate }, rest)
  | '?' => repeatLast 0 (some 1) rest
  | '*' => repeatLast 0 none rest
  | '+' => repeatLast 1 none rest
  | '{' =>
    match readCounts? s.flags rest with
    | none => none
    | some (least, most, rest) => repeatLast least most (s.flags.skip rest)
  | '[' =>
    let (bracket, rest) := OpenBracket.start s.flags rest
    match readBracket? s.flags (rest.length + 1) bracket [] rest with
    | none => none
    | some (part, rest) => some (s.add (ofClass part.members) part.nesting, rest)
  | '\\' =>
    match readEscape? s.flags rest with
    | none => none
    | some (primitive, rest) =>
      (primitive.pattern? s.flags).map (fun pattern => (s.add pattern 0, rest))
  | '.' => (dotClass? s.flags).map (fun a => (s.add (ofClass a) 0, rest))
  | '^' => some (s.add (.assertion (lineStart s.flags)) 0, rest)
  | '$' => some (s.add (.assertion (lineEnd s.flags)) 0, rest)
  | c => some (s.add (character s.flags c) 0, rest)

def maxNesting : Nat := 250

/-- Reads the rest of a pattern. The fuel is the number of characters that may be read. -/
def readRest? : Nat → Progress → List Char → Option Pattern
  | 0, _, _ => none
  | fuel + 1, s, text =>
    match s.flags.skip text with
    | [] =>
      let whole := s.branches.whole
      if s.groups.isEmpty && decide (whole.nesting ≤ maxNesting) then some whole.pattern else none
    | c :: rest =>
      match s.step? c rest with
      | none => none
      | some (s, rest) => readRest? fuel s rest

def parse? (text : List Char) : Option Pattern := readRest? (text.length + 1) .start text

def compile? (maxSize : Nat) (text : String) : Option Pattern :=
  match parse? text.toList with
  | none => none
  | some p => if p.fits maxSize then some p else none

end Sift.Pattern
