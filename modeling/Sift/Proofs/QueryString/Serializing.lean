import Sift.Proofs.Text.Utf8Decoding
import Sift.QueryString

/-!
Writing pairs as a query string. Whichever characters are escaped beyond those that have a meaning
in a query string, the pairs are read as they were written.
-/

namespace Sift.QueryString

def isReserved (c : Char) : Bool :=
  c == '%' || c == '&' || c == '=' || c == '+' || c == '?' || c == ' '

/-- Ways of writing bytes as text. A space may be written as a plus, other characters that are not
reserved as themselves, and every byte by its number in hexadecimal digits of either case. -/
inductive Escapes : List UInt8 → List Char → Prop where
  | nil : Escapes [] []
  | plus {bytes : List UInt8} {text : List Char} (h : Escapes bytes text) :
    Escapes (0x20 :: bytes) ('+' :: text)
  | plain {bytes : List UInt8} {text : List Char} (c : Char) (hascii : c.toNat < 0x80)
      (hreserved : isReserved c = false) (h : Escapes bytes text) :
    Escapes (UInt8.ofNat c.toNat :: bytes) (c :: text)
  | percent {bytes : List UInt8} {text : List Char} {high low : Char} {upper lower : Nat}
      (hhigh : hexDigit? high = some upper) (hlow : hexDigit? low = some lower)
      (h : Escapes bytes text) :
    Escapes (UInt8.ofNat (16 * upper + lower) :: bytes) ('%' :: high :: low :: text)

def WritesPair (pair : String × String) (piece : List Char) : Prop :=
  ∃ key value, piece = key ++ '=' :: value ∧ Escapes (Utf8.encode pair.1.toList) key ∧
    Escapes (Utf8.encode pair.2.toList) value

inductive Writes : List (String × String) → List Char → Prop where
  | nil : Writes [] []
  | last {pair : String × String} {piece : List Char} (hpair : WritesPair pair piece) :
    Writes [pair] piece
  | cons {pair next : String × String} {pairs : List (String × String)} {piece text : List Char}
      (hpair : WritesPair pair piece) (h : Writes (next :: pairs) text) :
    Writes (pair :: next :: pairs) (piece ++ '&' :: text)

theorem toNat_lt_of_hexDigit? {c : Char} {digit : Nat} (h : hexDigit? c = some digit) :
    c.toNat < 0x80 := by
  have hle {last : Char} (hlast : c ≤ last) : c.toNat ≤ last.toNat :=
    UInt32.le_iff_toNat_le.mp hlast
  unfold hexDigit? at h
  split at h
  · rename_i hdigit
    exact Nat.lt_of_le_of_lt (hle hdigit.2) (by decide)
  · split at h
    · rename_i hlower
      exact Nat.lt_of_le_of_lt (hle hlower.2) (by decide)
    · split at h
      · rename_i hupper
        exact Nat.lt_of_le_of_lt (hle hupper.2) (by decide)
      · cases h

theorem encode_cons_of_ascii {c : Char} (h : c.toNat < 0x80) (text : List Char) :
    Utf8.encode (c :: text) = UInt8.ofNat c.toNat :: Utf8.encode text := by
  have hbytes : String.utf8EncodeChar c = [UInt8.ofNat c.toNat] := if_pos (Nat.le_of_lt_succ h)
  rw [Utf8.encode, List.flatMap_cons, hbytes]
  rfl

theorem ofNat_toNat_of_ascii {c : Char} (h : c.toNat < 0x80) :
    Char.ofNat (UInt8.ofNat c.toNat).toNat = c := by
  rw [Utf8.toNat_ofNat (by omega)]
  exact Char.ofNat_toNat c

theorem unescape_cons_of_ne {b : UInt8} (hpercent : b ≠ 0x25) (hplus : b ≠ 0x2B)
    (rest : List UInt8) : unescape (b :: rest) = b :: unescape rest := by
  rw [unescape]
  · intro _ _ _ h
    exact absurd h hpercent
  · exact hplus

/-- A character that is not reserved is not taken for the sign of an escape. -/
theorem ofNat_toNat_ne {c d : Char} (hc : c.toNat < 0x80) (hd : d.toNat < 0x80) (hne : c ≠ d) :
    UInt8.ofNat c.toNat ≠ UInt8.ofNat d.toNat := by
  intro heq
  apply hne
  rw [← ofNat_toNat_of_ascii hc, heq, ofNat_toNat_of_ascii hd]

theorem Escapes.unescape_encode {bytes : List UInt8} {text : List Char} (h : Escapes bytes text) :
    unescape (Utf8.encode text) = bytes := by
  induction h with
  | nil => rfl
  | plus h ih =>
    rw [encode_cons_of_ascii (by decide)]
    change unescape (0x2B :: _) = _
    rw [unescape, ih]
  | plain c hascii hreserved h ih =>
    have hne (d : Char) (hd : isReserved d = true) : c ≠ d := by
      rintro rfl
      rw [hreserved] at hd
      cases hd
    have hpercent : UInt8.ofNat c.toNat ≠ 0x25 :=
      ofNat_toNat_ne hascii (d := '%') (by decide) (hne '%' rfl)
    have hplus : UInt8.ofNat c.toNat ≠ 0x2B :=
      ofNat_toNat_ne hascii (d := '+') (by decide) (hne '+' rfl)
    rw [encode_cons_of_ascii hascii, unescape_cons_of_ne hpercent hplus, ih]
  | percent hhigh hlow h ih =>
    have hhighAscii := toNat_lt_of_hexDigit? hhigh
    have hlowAscii := toNat_lt_of_hexDigit? hlow
    rw [encode_cons_of_ascii (by decide), encode_cons_of_ascii hhighAscii,
      encode_cons_of_ascii hlowAscii]
    change unescape (0x25 :: _) = _
    rw [unescape, ofNat_toNat_of_ascii hhighAscii, ofNat_toNat_of_ascii hlowAscii, hhigh, hlow, ih]

/-- Escaped text contains no sign that splits a query string, and no question mark. -/
theorem Escapes.not_mem {bytes : List UInt8} {text : List Char} (h : Escapes bytes text) {d : Char}
    (hd : d ∈ ['&', '=', '?']) : d ∉ text := by
  have hsign : isReserved d = true ∧ d ≠ '%' ∧ d ≠ '+' ∧ hexDigit? d = none := by
    simp only [List.mem_cons, List.not_mem_nil, or_false] at hd
    rcases hd with rfl | rfl | rfl <;> decide
  obtain ⟨hreserved, hpercent, hplus, hdigit⟩ := hsign
  have hne {c : Char} {digit : Nat} (hc : hexDigit? c = some digit) : d ≠ c := by
    rintro rfl
    rw [hdigit] at hc
    cases hc
  induction h with
  | nil => exact List.not_mem_nil
  | plus h ih => exact List.not_mem_cons_of_ne_of_not_mem hplus ih
  | plain c hascii hplain h ih =>
    apply List.not_mem_cons_of_ne_of_not_mem ?_ ih
    rintro rfl
    rw [hreserved] at hplain
    cases hplain
  | percent hhigh hlow h ih =>
    apply List.not_mem_cons_of_ne_of_not_mem hpercent
    apply List.not_mem_cons_of_ne_of_not_mem (hne hhigh)
    exact List.not_mem_cons_of_ne_of_not_mem (hne hlow) ih

theorem Escapes.decode_eq {s : String} {text : List Char}
    (h : Escapes (Utf8.encode s.toList) text) : decode text = s := by
  rw [decode, h.unescape_encode, Utf8.decodeLossy_encode, String.ofList_toList]

theorem WritesPair.pair_eq {p : String × String} {piece : List Char} (h : WritesPair p piece) :
    pair piece = p := by
  obtain ⟨key, value, rfl, hkey, hvalue⟩ := h
  have hsplit : ∀ c ∈ key, (c != '=') = true := by
    intro c hc
    rw [bne_iff_ne]
    rintro rfl
    exact hkey.not_mem (by decide) hc
  rw [pair, List.takeWhile_append_of_pos hsplit, List.dropWhile_append_of_pos hsplit]
  simp only [List.takeWhile_cons, List.dropWhile_cons, bne_self_eq_false, Bool.false_eq_true,
    if_false, List.append_nil, List.drop_succ_cons, List.drop_zero, hkey.decode_eq,
    hvalue.decode_eq]

theorem WritesPair.not_mem {p : String × String} {piece : List Char} (h : WritesPair p piece)
    {d : Char} (hd : d ∈ ['&', '?']) : d ∉ piece := by
  obtain ⟨key, value, rfl, hkey, hvalue⟩ := h
  have hsign : d ∈ ['&', '=', '?'] ∧ d ≠ '=' := by
    simp only [List.mem_cons, List.not_mem_nil, or_false] at hd
    rcases hd with rfl | rfl <;> decide
  rw [List.mem_append, List.mem_cons]
  rintro (hmem | rfl | hmem)
  · exact hkey.not_mem hsign.1 hmem
  · exact hsign.2 rfl
  · exact hvalue.not_mem hsign.1 hmem

theorem WritesPair.ne_nil {p : String × String} {piece : List Char} (h : WritesPair p piece) :
    piece ≠ [] := by
  obtain ⟨key, value, rfl, -, -⟩ := h
  simp

theorem pieces_of_not_mem {separator : Char} {piece : List Char} (h : separator ∉ piece) :
    pieces separator piece = [piece] := by
  induction piece with
  | nil => rfl
  | cons c piece ih =>
    have hc : c ≠ separator := Ne.symm (List.ne_of_not_mem_cons h)
    rw [pieces, if_neg hc, ih (List.not_mem_of_not_mem_cons h)]

theorem pieces_append {separator : Char} {piece : List Char} (h : separator ∉ piece)
    (rest : List Char) :
    pieces separator (piece ++ separator :: rest) = piece :: pieces separator rest := by
  induction piece with
  | nil => rw [List.nil_append, pieces, if_pos rfl]
  | cons c piece ih =>
    have hc : c ≠ separator := Ne.symm (List.ne_of_not_mem_cons h)
    rw [List.cons_append, pieces, if_neg hc, ih (List.not_mem_of_not_mem_cons h)]

theorem Writes.pairs_eq {ps : List (String × String)} {text : List Char} (h : Writes ps text) :
    pairs (String.ofList text) = ps := by
  have hkept {p : String × String} {piece : List Char} (hpair : WritesPair p piece)
      (others : List (List Char)) :
      ((piece :: others).filter (fun piece => !piece.isEmpty)).map pair =
        p :: (others.filter (fun piece => !piece.isEmpty)).map pair := by
    rw [List.filter_cons_of_pos (by simpa using hpair.ne_nil), List.map_cons, hpair.pair_eq]
  rw [pairs, String.toList_ofList]
  induction h with
  | nil => rfl
  | last hpair =>
    rw [pieces_of_not_mem (hpair.not_mem (by decide)), hkept hpair]
    rfl
  | cons hpair h ih => rw [pieces_append (hpair.not_mem (by decide)), hkept hpair, ih]

theorem Writes.not_mem {ps : List (String × String)} {text : List Char} (h : Writes ps text) :
    '?' ∉ text := by
  induction h with
  | nil => exact List.not_mem_nil
  | last hpair => exact hpair.not_mem (by decide)
  | cons hpair h ih =>
    rw [List.mem_append, List.mem_cons]
    rintro (hmem | heq | hmem)
    · exact hpair.not_mem (by decide) hmem
    · cases heq
    · exact ih hmem

def isPlain (c : Char) : Bool :=
  c.isAlphanum || c == '*' || c == '-' || c == '.' || c == '_'

def hexChar (digit : Nat) : Char :=
  if digit < 10 then Char.ofNat ('0'.toNat + digit) else Char.ofNat ('A'.toNat + digit - 10)

/-- A space is written as a plus, and what is not plain by the numbers of its bytes. -/
def escapeByte (b : UInt8) : List Char :=
  let c := Char.ofNat b.toNat
  if c = ' ' then ['+']
  else if isPlain c then [c]
  else ['%', hexChar (b.toNat / 16), hexChar (b.toNat % 16)]

def escape (s : String) : List Char := (Utf8.encode s.toList).flatMap escapeByte

def serialize : List (String × String) → List Char
  | [] => []
  | [pair] => escape pair.1 ++ '=' :: escape pair.2
  | pair :: next :: pairs =>
    escape pair.1 ++ '=' :: escape pair.2 ++ '&' :: serialize (next :: pairs)

theorem toNat_lt_of_isPlain {c : Char} (h : isPlain c = true) : c.toNat < 0x80 := by
  have hranges : ((((((decide (c.val ≥ 65 ∧ c.val ≤ 90) ||
      (decide (c.val ≥ 97) && decide (c.val ≤ 122))) ||
      (decide (c.val ≥ 48) && decide (c.val ≤ 57))) || c == '*') || c == '-') || c == '.') ||
      c == '_') = true := h
  simp only [Bool.or_eq_true, Bool.and_eq_true, decide_eq_true_eq, beq_iff_eq, ge_iff_le,
    UInt32.le_iff_toNat_le] at hranges
  change (((((((65 ≤ c.toNat ∧ c.toNat ≤ 90) ∨ (97 ≤ c.toNat ∧ c.toNat ≤ 122)) ∨
    (48 ≤ c.toNat ∧ c.toNat ≤ 57)) ∨ c = '*') ∨ c = '-') ∨ c = '.') ∨ c = '_') at hranges
  rcases hranges with ((((((h | h) | h) | rfl) | rfl) | rfl) | rfl)
  · omega
  · omega
  · omega
  all_goals decide

theorem isReserved_of_isPlain {c : Char} (h : isPlain c = true) : isReserved c = false := by
  cases hreserved : isReserved c with
  | false => rfl
  | true =>
    simp only [isReserved, Bool.or_eq_true, beq_iff_eq] at hreserved
    rcases hreserved with ((((rfl | rfl) | rfl) | rfl) | rfl) | rfl <;> cases h

theorem hexDigit?_hexChar {digit : Nat} (h : digit < 16) :
    hexDigit? (hexChar digit) = some digit := by
  have hall : ∀ digit : Fin 16, hexDigit? (hexChar digit) = some digit.val := by decide
  exact hall ⟨digit, h⟩

theorem toNat_ofNat_byte (b : UInt8) : (Char.ofNat b.toNat).toNat = b.toNat := by
  have hb : b.toNat < 256 := b.toNat_lt
  have hvalid : b.toNat.isValidChar := .inl (by omega)
  rw [Char.ofNat, dif_pos hvalid]
  rfl

theorem escapes_flatMap (bytes : List UInt8) : Escapes bytes (bytes.flatMap escapeByte) := by
  induction bytes with
  | nil => exact .nil
  | cons b bytes ih =>
    have hb : b.toNat < 256 := b.toNat_lt
    have hbyte : UInt8.ofNat (Char.ofNat b.toNat).toNat = b := by
      rw [toNat_ofNat_byte, UInt8.ofNat_toNat]
    rw [List.flatMap_cons, escapeByte]
    by_cases hspace : Char.ofNat b.toNat = ' '
    · have hb : b = 0x20 := by
        rw [← hbyte, hspace]
        rfl
      rw [if_pos hspace, hb]
      exact .plus ih
    rw [if_neg hspace]
    by_cases hplain : isPlain (Char.ofNat b.toNat) = true
    · have hescapes :=
        Escapes.plain _ (toNat_lt_of_isPlain hplain) (isReserved_of_isPlain hplain) ih
      rw [hbyte] at hescapes
      rwa [if_pos hplain]
    · have hescapes := Escapes.percent (hexDigit?_hexChar (show b.toNat / 16 < 16 by omega))
        (hexDigit?_hexChar (show b.toNat % 16 < 16 by omega)) ih
      rw [Nat.div_add_mod, UInt8.ofNat_toNat] at hescapes
      rwa [if_neg hplain]

theorem writesPair_escape (p : String × String) :
    WritesPair p (escape p.1 ++ '=' :: escape p.2) :=
  ⟨escape p.1, escape p.2, rfl, escapes_flatMap _, escapes_flatMap _⟩

/-- The form encoding is one of the ways of writing pairs. -/
theorem writes_serialize (ps : List (String × String)) : Writes ps (serialize ps) := by
  fun_induction serialize ps with
  | case1 => exact .nil
  | case2 p => exact .last (writesPair_escape p)
  | case3 p next ps ih => exact .cons (writesPair_escape p) ih

end Sift.QueryString
