import Sift.Pattern.Escape

/-!
Classes in brackets: their members listed one after another, as ranges, by names, as classes in
brackets inside them, and combined by set operations.
-/

namespace Sift.Pattern

structure SetPart where
  members : Unicode.CodePoints
  nesting : Nat

/-- The operations between parts of a class, which all bind alike. -/
inductive SetOperation where
  | intersection | difference | symmetricDifference
deriving DecidableEq, Repr

/-- An unfinished class: whether it is negated, the left operand of an operation whose right operand
is being read, the parts read since, and whether only leading hyphens have been read so far. -/
structure OpenBracket where
  negated : Bool
  pending : Option (SetPart × SetOperation)
  parts : List SetPart
  leading : Bool

namespace OpenBracket

def joined (b : OpenBracket) : SetPart :=
  match b.parts with
  | [] => ⟨.empty, 0⟩
  | [part] => part
  | _ =>
    ⟨.unions (b.parts.map (·.members)),
      (b.parts.foldl (fun n p => max n p.nesting) 0) + 1⟩

def operated (flags : Flags) (b : OpenBracket) : Option SetPart :=
  match b.pending with
  | none => some b.joined
  | some (left, operation) => do
    let a ← flags.classUnder? false left.members
    let c ← flags.classUnder? false b.joined.members
    let members :=
      match operation with
      | .intersection => a.inter c
      | .difference => a.difference c
      | .symmetricDifference => a.symmetricDifference c
    some ⟨members, max left.nesting b.joined.nesting + 1⟩

def add (b : OpenBracket) (part : SetPart) : OpenBracket :=
  { b with parts := part :: b.parts, leading := false }

def operate (flags : Flags) (b : OpenBracket) (operation : SetOperation) : Option OpenBracket :=
  (b.operated flags).map (fun left => ⟨b.negated, some (left, operation), [], false⟩)

def close (flags : Flags) (b : OpenBracket) : Option SetPart := do
  let whole ← b.operated flags
  let members ← flags.classUnder? b.negated whole.members
  some ⟨members, whole.nesting + 1⟩

def start (flags : Flags) (text : List Char) : OpenBracket × List Char :=
  match flags.skip text with
  | '^' :: rest => (⟨true, none, [], true⟩, rest)
  | text => (⟨false, none, [], true⟩, text)

end OpenBracket

/-- Reads a class of ASCII characters by its name, given what follows the bracket in front of its
colon. Text that is no such class is not an error; it is read otherwise. -/
def readAsciiClass? (text : List Char) : Option (Unicode.CodePoints × Bool × List Char) :=
  match text with
  | ':' :: rest =>
    let (negated, rest) :=
      match rest with
      | '^' :: rest => (true, rest)
      | _ => (false, rest)
    match rest.dropWhile (· != ':') with
    | ':' :: ']' :: after =>
      (CharClass.asciiNames.lookup (String.ofList (rest.takeWhile (· != ':')))).map
        (fun a => (a, negated, after))
    | _ => none
  | _ => none

/-- A literal in a class. Outside of the Unicode mode only ASCII is taken. -/
def memberLiteral? (flags : Flags) (c : Char) : Option Char :=
  if !flags.unicode && decide (0x7F < c.toNat) then none else some c

def readMember? (flags : Flags) (c : Char) (text : List Char) : Option (Primitive × List Char) :=
  if c = '\\' then readEscape? flags text else some (.literal c false, text)

/-- The character behind a hyphen that tells whether the hyphen makes a range. Where blanks do not
count, they are passed over and so is the sign that begins a comment, once, but not the comment. -/
def behindHyphen (flags : Flags) (text : List Char) : Option Char :=
  if !flags.ignoreSpace then text.head?
  else
    match text.dropWhile isBlank with
    | [] => text.head?
    | '#' :: rest => ((rest.dropWhile isBlank).head?).or text.head?
    | c :: _ => some c

/-- Reads a member of a class, or a range from one to another. A hyphen makes a range unless it
seems to be followed by a closing bracket or a further hyphen. -/
def readRange? (flags : Flags) (c : Char) (text : List Char) :
    Option (Unicode.CodePoints × List Char) := do
  let (first, rest) ← readMember? flags c text
  let alone : Option (Unicode.CodePoints × List Char) :=
    match first with
    | .literal c _ => (memberLiteral? flags c).map (fun c => (.single c.toNat, rest))
    | .members a => some (a, rest)
    | .assertion _ => none
  match flags.skip rest with
  | [] => none
  | '-' :: rest =>
    let behind := behindHyphen flags rest
    if behind = some ']' ∨ behind = some '-' then alone
    else
      match flags.skip rest with
      | [] => none
      | d :: rest =>
        let (last, rest) ← readMember? flags d rest
        match first, last with
        | .literal c _, .literal d _ =>
          let c ← memberLiteral? flags c
          let d ← memberLiteral? flags d
          if c ≤ d then some (.range c.toNat d.toNat, rest) else none
        | _, _ => none
  | _ => alone

/-- Reads the rest of a class, given the innermost unfinished class and those around it. The fuel is
the number of characters that may be read. -/
def readBracket? (flags : Flags) :
    Nat → OpenBracket → List OpenBracket → List Char → Option (SetPart × List Char)
  | 0, _, _, _ => none
  | fuel + 1, b, outer, text =>
    match flags.skip text with
    | [] => none
    | c :: rest =>
      let literal := SetPart.mk (.single c.toNat) 0
      if b.leading && c == '-' then
        readBracket? flags fuel { b.add literal with leading := true } outer rest
      else if b.leading && b.parts.isEmpty && c == ']' then
        readBracket? flags fuel (b.add literal) outer rest
      else if c = '[' then
        match readAsciiClass? rest with
        | some (a, negated, after) =>
          match flags.classUnder? negated a with
          | none => none
          | some a => readBracket? flags fuel (b.add ⟨a, 0⟩) outer after
        | none =>
          let (inner, rest) := OpenBracket.start flags rest
          readBracket? flags fuel inner (b :: outer) rest
      else if c = ']' then
        match b.close flags, outer with
        | none, _ => none
        | some part, [] => some (part, rest)
        | some part, around :: outer => readBracket? flags fuel (around.add part) outer rest
      else
        let operation : Option (SetOperation × List Char) :=
          match c, rest with
          | '&', '&' :: rest => some (.intersection, rest)
          | '-', '-' :: rest => some (.difference, rest)
          | '~', '~' :: rest => some (.symmetricDifference, rest)
          | _, _ => none
        match operation with
        | some (operation, rest) =>
          match b.operate flags operation with
          | none => none
          | some b => readBracket? flags fuel b outer rest
        | none =>
          match readRange? flags c rest with
          | none => none
          | some (a, rest) => readBracket? flags fuel (b.add ⟨a, 0⟩) outer rest

end Sift.Pattern
