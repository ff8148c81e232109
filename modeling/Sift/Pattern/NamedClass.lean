import Sift.Unicode.Age
import Sift.Unicode.Boundary
import Sift.Unicode.Property
import Sift.Unicode.Script

/-!
The classes that patterns refer to by the name of a character property. Names are compared loosely:
case, blanks, underscores, hyphens and a leading `is` make no difference.
-/

namespace Sift.Pattern

open Unicode (BoundaryClass CodePoints GeneralCategory Property Script Version)

/-- The form of a name that names are compared by. Of what remains after a leading `is`, a lone `c`
keeps the two letters before it, because that is a name of its own. -/
def looseName (name : List Char) : List Char :=
  let loosen (text : List Char) :=
    (text.filter (fun c => c != ' ' && c != '_' && c != '-' && decide (c.toNat < 0x80))).map
      Char.toLower
  match name with
  | i :: s :: rest =>
    if i.toLower = 'i' ∧ s.toLower = 's' then
      if loosen rest = ['c'] then ['i', 's', 'c'] else loosen rest
    else loosen name
  | _ => loosen name

def isNamed (names : List String) (loose : List Char) : Bool :=
  names.any (fun name => looseName name.toList == loose)

def categoryClass? (loose : List Char) : Option CodePoints :=
  if isNamed ["any"] loose then some .all
  else if isNamed ["ascii"] loose then some (.range 0 0x7F)
  else if isNamed ["assigned"] loose then some GeneralCategory.unassigned.codePoints.complement
  else
    match GeneralCategory.groups.find? (fun g => isNamed g.1 loose) with
    | some (_, members) => some (.unions (members.map (·.codePoints)))
    | none => (GeneralCategory.all.find? (fun c => isNamed c.names loose)).map (·.codePoints)

def script? (loose : List Char) : Option Script :=
  Script.all.find? (fun s => isNamed s.names loose)

def propertyClass? (loose : List Char) : Option CodePoints :=
  (Property.all.find? (fun p => isNamed p.names loose)).map (·.codePoints)

def boundaryClass? (classes : List BoundaryClass) (loose : List Char) : Option CodePoints :=
  (classes.find? (fun c => isNamed c.names loose)).map (·.members)

/-- The class of a bare name: a property, else a general category, else a script. -/
def namedClass? (name : List Char) : Option CodePoints :=
  let loose := looseName name
  (propertyClass? loose).or ((categoryClass? loose).or ((script? loose).map (·.own)))

/-- The class of the characters for which a property has a value. A character has the age of every
version that knows it. -/
def valueClass? (property value : List Char) : Option CodePoints :=
  let loose := looseName property
  let value := looseName value
  if isNamed ["General_Category", "gc"] loose then categoryClass? value
  else if isNamed ["Script", "sc"] loose then (script? value).map (·.own)
  else if isNamed ["Script_Extensions", "scx"] loose then (script? value).map (·.extensions)
  else if isNamed ["Age"] loose then
    Version.assignedBy? (fun v => isNamed v.names value) Version.all
  else if isNamed ["Grapheme_Cluster_Break", "GCB"] loose then
    boundaryClass? BoundaryClass.grapheme value
  else if isNamed ["Word_Break", "WB"] loose then boundaryClass? BoundaryClass.word value
  else if isNamed ["Sentence_Break", "SB"] loose then boundaryClass? BoundaryClass.sentence value
  else none

def splitUnequal : List Char → Option (List Char × List Char)
  | [] => none
  | '!' :: '=' :: rest => some ([], rest)
  | c :: rest => (splitUnequal rest).map (fun parts => (c :: parts.1, parts.2))

/-- The class that stands between the braces of a property, and whether its complement is meant. A
property and its value are separated by `!=`, else by the first `:`, else by the first `=`. -/
def bracedClass? (text : List Char) : Option (CodePoints × Bool) :=
  let splitAt (c : Char) := (text.takeWhile (· != c), (text.dropWhile (· != c)).drop 1)
  match splitUnequal text with
  | some (property, value) => (valueClass? property value).map (fun a => (a, true))
  | none =>
    let members :=
      if text.contains ':' then valueClass? (splitAt ':').1 (splitAt ':').2
      else if text.contains '=' then valueClass? (splitAt '=').1 (splitAt '=').2
      else namedClass? text
    members.map (fun a => (a, false))

end Sift.Pattern
