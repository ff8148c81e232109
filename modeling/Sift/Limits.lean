namespace Sift

/-- The bounds on the length of filter text in bytes, on the nesting of `not` and parentheses in
it, and on the size in bytes of a compiled pattern. -/
structure Limits where
  maxLength : Nat := 4096
  maxDepth : Nat := 64
  maxPatternSize : Nat := 1048576
deriving DecidableEq, Repr

end Sift
