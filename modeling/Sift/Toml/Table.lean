/-!
Tables of TOML documents, and the rules on defining the parts of a table only once.
-/

namespace Sift.Toml

/-- A value. Only integers are looked at further on; of the others it is enough that they are not
integers. -/
inductive Value where
  | integer (value : Int)
  | other
deriving DecidableEq, Repr

/-- What a key stands for: a value, a table, or an array of tables, latest first. A table is
implicit until a header defines it, and dotted if it came about as part of a dotted key. -/
inductive Node where
  | value (value : Value)
  | table (implicit dotted : Bool) (entries : List (String × Node))
  | tables (elements : List (List (String × Node)))

structure Table where
  implicit : Bool
  dotted : Bool
  entries : List (String × Node)

namespace Table

def empty : Table := ⟨false, false, []⟩

def get? (t : Table) (key : String) : Option Node := t.entries.lookup key

/-- Sets an entry, in its place if there is one. -/
def set (t : Table) (key : String) (node : Node) : Table :=
  if (t.entries.lookup key).isSome then
    { t with entries := t.entries.map (fun e => if e.1 == key then (key, node) else e) }
  else { t with entries := t.entries ++ [(key, node)] }

def erase (t : Table) (key : String) : Table :=
  { t with entries := t.entries.filter (fun e => e.1 != key) }

def toNode (t : Table) : Node := .table t.implicit t.dotted t.entries

/-- Changes the table at the end of a path, making the tables on the way that are not there. In an
array of tables the path goes on in the latest. A path does not lead through a value, and the path
of a dotted key not through a table that a header has defined. -/
def modifyAt (dotted : Bool) (change : Table → Option Table) : List String → Table → Option Table
  | [], t => change t
  | key :: path, t =>
    match t.get? key with
    | none => (modifyAt dotted change path ⟨true, dotted, []⟩).map (fun u => t.set key u.toNode)
    | some (.value _) => none
    | some (.tables []) => none
    | some (.tables (latest :: others)) =>
      (modifyAt dotted change path ⟨false, false, latest⟩).map
        (fun u => t.set key (.tables (u.entries :: others)))
    | some (.table implicit isDotted entries) =>
      if dotted && !implicit then none
      else
        (modifyAt dotted change path ⟨implicit, isDotted, entries⟩).map
          (fun u => t.set key u.toNode)

def entryAt? (last : String) : List String → Table → Option Node
  | [], t => t.get? last
  | key :: path, t =>
    match t.get? key with
    | some (.table implicit dotted entries) => entryAt? last path ⟨implicit, dotted, entries⟩
    | some (.tables (latest :: _)) => entryAt? last path ⟨false, false, latest⟩
    | _ => none

/-- Enters a value under a key of one or more parts. A key is given a value once, and dotted keys
only lead into tables that dotted keys made. -/
def enter (t : Table) (key : List String) (value : Value) : Option Table :=
  match key.getLast? with
  | none => none
  | some last =>
    let path := key.dropLast
    let change (u : Table) : Option Table :=
      if u.dotted == path.isEmpty || (u.get? last).isSome then none
      else some (u.set last (.value value))
    t.modifyAt true change path

end Table

/-- A document as far as it has been read: the tables that are complete, and the one being read with
the path from the root to it. -/
structure Document where
  root : Table
  current : Table
  path : List String
  inArray : Bool

namespace Document

def start : Document := ⟨.empty, .empty, [], false⟩

def finish (d : Document) : Option Table :=
  match d.path.getLast? with
  | none => some d.current
  | some last =>
    let place (parent : Table) : Option Table :=
      if d.inArray then
        match parent.get? last with
        | none => some (parent.set last (.tables [d.current.entries]))
        | some (.tables elements) =>
          some (parent.set last (.tables (d.current.entries :: elements)))
        | some _ => none
      else if (parent.get? last).isSome then none
      else some (parent.set last d.current.toNode)
    d.root.modifyAt false place d.path.dropLast

/-- Begins the table that a header names. A table is defined by a header once, but it may already be
there because headers of tables inside it came first. -/
def beginTable (d : Document) (path : List String) : Option Document := do
  let root ← d.finish
  let last ← path.getLast?
  let found ← root.modifyAt false some path.dropLast
  match found.entryAt? last path.dropLast with
  | none => some ⟨found, .empty, path, false⟩
  | some (.table true false entries) =>
    let without ← found.modifyAt false (fun t => some (t.erase last)) path.dropLast
    some ⟨without, ⟨false, false, entries⟩, path, false⟩
  | some _ => none

def beginElement (d : Document) (path : List String) : Option Document := do
  let root ← d.finish
  let last ← path.getLast?
  let check (parent : Table) : Option Table :=
    match parent.get? last with
    | none => some parent
    | some (.tables _) => some parent
    | some _ => none
  let found ← root.modifyAt false check path.dropLast
  some ⟨found, .empty, path, true⟩

end Document

end Sift.Toml
