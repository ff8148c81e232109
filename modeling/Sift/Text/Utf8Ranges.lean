import Sift.Unicode.CodePoints

/-!
Sets of characters as sequences of byte ranges. A range of characters is divided until the UTF-8
encodings of each piece are all the sequences of bytes from a range for the first byte, a range for
the second, and so on.
-/

namespace Sift.Utf8

open Unicode (CodePoints Interval)

structure ByteRange where
  first : Nat
  last : Nat
deriving DecidableEq, Repr

def ByteRange.continuation : ByteRange := ⟨0x80, 0xBF⟩

def blockSize (continuations : Nat) : Nat := 1 <<< (6 * continuations)

/-- The sequences for the numbers from a first to a last one. Each is written as a leading byte,
which counts from the given one, and continuation bytes. Numbers that have the leading byte of the
first or of the last one are set apart where not all that have it are meant. -/
def rangeSequences (lead : Nat) : Nat → Nat → Nat → List (List ByteRange)
  | 0, first, last => [[⟨lead + first, lead + last⟩]]
  | continuations + 1, first, last =>
    let block := blockSize (continuations + 1)
    let a := first / block
    let b := last / block
    let under (n low high : Nat) : List (List ByteRange) :=
      (rangeSequences 0x80 continuations low high).map (⟨lead + n, lead + n⟩ :: ·)
    if a = b then under a (first % block) (last % block)
    else
      let front := if first % block = 0 then [] else under a (first % block) (block - 1)
      let back := if last % block = block - 1 then [] else under b 0 (last % block)
      let start := if front.isEmpty then a else a + 1
      let stop := if back.isEmpty then b + 1 else b
      let middle :=
        if start < stop then
          [⟨lead + start, lead + stop - 1⟩ ::
            List.replicate (continuations + 1) ByteRange.continuation]
        else []
      front ++ middle ++ back

/-- The lengths of encodings: the first and the last code point that has the length, how many
continuation bytes there are, and what the leading byte counts from. -/
def lengths : List (Interval × Nat × Nat) :=
  [(⟨0, 0x7F⟩, 0, 0), (⟨0x80, 0x7FF⟩, 1, 0xC0), (⟨0x800, 0xFFFF⟩, 2, 0xE0),
   (⟨0x10000, 0x10FFFF⟩, 3, 0xF0)]

def intervalSequences (i : Interval) : List (List ByteRange) :=
  lengths.flatMap (fun (whole, continuations, lead) =>
    let first := max i.first whole.first
    let last := min i.last whole.last
    if first ≤ last then rangeSequences lead continuations first last else [])

def sequences (s : CodePoints) : List (List ByteRange) := s.intervals.flatMap intervalSequences

end Sift.Utf8
