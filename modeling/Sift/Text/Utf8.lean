namespace Sift.Utf8

/-- The continuation bytes that a first byte calls for, and the range of the first of them. The
range leaves out overlong forms, surrogates and values past the last code point. No range stands
for a byte that begins nothing. -/
def expected (first : UInt8) : Option (Nat × UInt8 × UInt8) :=
  if first < 0x80 then some (0, 0x80, 0xBF)
  else if first < 0xC2 then none
  else if first < 0xE0 then some (1, 0x80, 0xBF)
  else if first == 0xE0 then some (2, 0xA0, 0xBF)
  else if first == 0xED then some (2, 0x80, 0x9F)
  else if first < 0xF0 then some (2, 0x80, 0xBF)
  else if first == 0xF0 then some (3, 0x90, 0xBF)
  else if first < 0xF4 then some (3, 0x80, 0xBF)
  else if first == 0xF4 then some (3, 0x80, 0x8F)
  else none

def leadBits (first : UInt8) : Nat → Nat
  | 0 => first.toNat
  | 1 => first.toNat % 0x20
  | 2 => first.toNat % 0x10
  | _ => first.toNat % 0x08

/-- The continuation bytes at the front of a text, as far as they are called for, with what
follows them. The first has a range of its own. -/
def continuations : Nat → UInt8 → UInt8 → List UInt8 → List UInt8 × List UInt8
  | 0, _, _, rest => ([], rest)
  | _ + 1, _, _, [] => ([], [])
  | missing + 1, low, high, b :: rest =>
    if low ≤ b ∧ b ≤ high then
      let (more, rest') := continuations missing 0x80 0xBF rest
      (b :: more, rest')
    else ([], b :: rest)

/-- Reading continuation bytes does not lengthen the text. -/
theorem continuations_length_le (missing : Nat) (low high : UInt8) (bytes : List UInt8) :
    (continuations missing low high bytes).2.length ≤ bytes.length := by
  induction missing generalizing low high bytes with
  | zero => simp [continuations]
  | succ missing ih =>
    cases bytes with
    | nil => simp [continuations]
    | cons b rest =>
      unfold continuations
      split
      · exact Nat.le_succ_of_le (ih 0x80 0xBF rest)
      · exact Nat.le_refl _

/-- What stands at the front of a byte text: a character, or a longest piece that begins a
character and does not complete it, or a byte that begins none. -/
def front (first : UInt8) (rest : List UInt8) : Option Char × List UInt8 :=
  match expected first with
  | none => (none, rest)
  | some (count, low, high) =>
    let (more, rest') := continuations count low high rest
    if more.length = count then
      (some (Char.ofNat (more.foldl (fun n b => n * 0x40 + b.toNat % 0x40) (leadBits first count))),
        rest')
    else (none, rest')

/-- Only the bytes behind the first one are left to read, so reading comes to an end. -/
theorem front_length_le (first : UInt8) (rest : List UInt8) :
    (front first rest).2.length ≤ rest.length := by
  unfold front
  split
  · exact Nat.le_refl _
  · rename_i count low high _
    have h := continuations_length_le count low high rest
    simp only
    split <;> exact h

/-- The characters of a byte text, `none` in place of each longest invalid piece. -/
def pieces : List UInt8 → List (Option Char)
  | [] => []
  | first :: rest => (front first rest).1 :: pieces (front first rest).2
termination_by bytes => bytes.length
decreasing_by exact Nat.lt_succ_of_le (front_length_le first rest)

def decode? (bytes : List UInt8) : Option (List Char) := (pieces bytes).mapM id

def decodeLossy (bytes : List UInt8) : List Char :=
  (pieces bytes).map (fun piece => piece.getD '\uFFFD')

def encode (text : List Char) : List UInt8 := text.flatMap String.utf8EncodeChar

end Sift.Utf8
