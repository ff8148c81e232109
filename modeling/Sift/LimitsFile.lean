import Sift.Limits
import Sift.Text.Utf8
import Sift.Toml.Document

namespace Sift

inductive LoadError where
  | missing (path : String)
  | notUtf8
  | notLimits
deriving DecidableEq, Repr

def LoadError.message : LoadError → String
  | .missing path =>
    "failed to read config file " ++ path ++ ": No such file or directory (os error 2)"
  | .notUtf8 => "stream did not contain valid UTF-8"
  | .notLimits => "invalid filter config"

namespace Limits

/-- The limit that a table sets under a key. It has to be an integer that is not negative. -/
def read? (t : Toml.Table) (key : String) (default : Nat) : Option Nat :=
  match t.get? key with
  | none => some default
  | some (.value (.integer value)) => if 0 ≤ value then some value.toNat else none
  | some _ => none

/-- Reads limits from TOML text. Those that are missing keep their defaults, and keys that are no
limits are passed over. -/
def ofToml (text : String) : Except LoadError Limits :=
  let default : Limits := {}
  let limits : Option Limits := do
    let t ← Toml.Table.ofText? text
    let maxLength ← read? t "max_length" default.maxLength
    let maxDepth ← read? t "max_depth" default.maxDepth
    let maxPatternSize ← read? t "regex_size_limit" default.maxPatternSize
    some ⟨maxLength, maxDepth, maxPatternSize⟩
  match limits with
  | some limits => .ok limits
  | none => .error .notLimits

def toToml (limits : Limits) : String :=
  "max_length = " ++ toString limits.maxLength ++ "\nmax_depth = " ++ toString limits.maxDepth ++
    "\nregex_size_limit = " ++ toString limits.maxPatternSize ++ "\n"

/-- Reads limits from a file, given its contents if it is there. -/
def load (path : String) (contents : Option (List UInt8)) : Except LoadError Limits :=
  match contents with
  | none => .error (.missing path)
  | some bytes =>
    match Utf8.decode? bytes with
    | none => .error .notUtf8
    | some text => ofToml (String.ofList text)

end Limits

end Sift
