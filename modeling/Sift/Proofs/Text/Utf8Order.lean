import Sift.Text.Utf8

/-!
The order of texts by their characters is the order of their bytes. Encodings of different lengths
begin with bytes of different ranges, and encodings of one length compare as the numbers that their
bytes write.
-/

namespace Sift.Utf8

theorem ofNat_cons_lt_iff {m n : Nat} (hm : m < 256) (hn : n < 256) (s t : List UInt8) :
    UInt8.ofNat m :: s < UInt8.ofNat n :: t ↔ m < n ∨ m = n ∧ s < t := by
  rw [List.cons_lt_cons_iff, UInt8.lt_iff_toNat_lt, ← UInt8.toNat_inj,
    UInt8.toNat_ofNat_of_lt' hm, UInt8.toNat_ofNat_of_lt' hn]

/-- The encoding of a smaller character is smaller, whatever stands behind the two. -/
theorem encodeChar_append_lt {c d : Char} (h : c < d) (s t : List UInt8) :
    String.utf8EncodeChar c ++ s < String.utf8EncodeChar d ++ t := by
  have hlt : c.val.toNat < d.val.toNat := UInt32.lt_iff_toNat_lt.mp h
  have hvalid : d.val.toNat < 0x110000 := by
    have hd := d.valid
    simp only [UInt32.isValidChar, Nat.isValidChar] at hd
    omega
  simp only [String.utf8EncodeChar.eq_1]
  generalize c.val.toNat = m at hlt
  generalize d.val.toNat = n at hlt hvalid
  -- The upper digits of a number to the base 64 are what the next byte up is made of.
  have hdigits (k : Nat) : k / 64 / 64 = k / 4096 ∧ k / 4096 / 64 = k / 262144 := by omega
  have htop (k : Nat) (hk : k < 0x110000) : k / 262144 % 8 = k / 262144 := by omega
  have hm := hdigits m
  have hn := hdigits n
  rw [htop m (by omega), htop n hvalid]
  repeat' split
  all_goals
    simp (disch := omega) only [List.cons_append, List.nil_append, ofNat_cons_lt_iff]
    omega

theorem encode_lt_encode {s t : List Char} (h : s < t) : encode s < encode t := by
  induction s generalizing t with
  | nil =>
    cases t with
    | nil => exact absurd h (List.lt_irrefl [])
    | cons d t =>
      have hne : encode (d :: t) ≠ [] := by simp [encode, String.utf8EncodeChar_ne_nil]
      obtain ⟨b, bytes, hbytes⟩ := List.exists_cons_of_ne_nil hne
      rw [hbytes]
      exact List.nil_lt_cons b bytes
  | cons c s ih =>
    cases t with
    | nil => exact absurd h (List.not_lt_nil (c :: s))
    | cons d t =>
      simp only [encode, List.flatMap_cons]
      rcases List.cons_lt_cons_iff.mp h with hlt | ⟨rfl, hlt⟩
      · exact encodeChar_append_lt hlt _ _
      · exact List.append_left_lt (ih hlt)

theorem encode_lt_encode_iff {s t : List Char} : encode s < encode t ↔ s < t := by
  constructor
  · intro h
    apply List.not_le.mp
    intro hle
    rcases List.le_iff_lt_or_eq.mp hle with hgt | rfl
    · exact List.lt_asymm h (encode_lt_encode hgt)
    · exact List.lt_irrefl _ h
  · exact encode_lt_encode

theorem encode_toList (s : String) : encode s.toList = s.toUTF8.data.toList := by
  have hbytes : s.toUTF8 = (encode s.toList).toByteArray := String.utf8Encode_toList.symm
  rw [hbytes, List.data_toByteArray]

/-- Texts are in the order of their bytes. -/
theorem toUTF8_lt_iff {a b : String} : a.toUTF8.data.toList < b.toUTF8.data.toList ↔ a < b := by
  rw [← encode_toList, ← encode_toList, encode_lt_encode_iff, String.lt_iff]

theorem toUTF8_eq_iff {a b : String} : a.toUTF8.data.toList = b.toUTF8.data.toList ↔ a = b := by
  rw [Array.toList_inj, ← ByteArray.ext_iff]
  exact String.toByteArray_inj

theorem map_toNat_lt_iff {s t : List Char} : s.map Char.toNat < t.map Char.toNat ↔ s < t := by
  induction s generalizing t with
  | nil =>
    cases t with
    | nil => simp
    | cons d t => simp
  | cons c s ih =>
    cases t with
    | nil => simp
    | cons d t =>
      rw [List.map_cons, List.map_cons, List.cons_lt_cons_iff, List.cons_lt_cons_iff, ih,
        Char.toNat_inj, Char.lt_def, UInt32.lt_iff_toNat_lt]
      rfl

/-- Texts are in the order of their code points. -/
theorem codePoints_lt_iff {a b : String} :
    a.toList.map Char.toNat < b.toList.map Char.toNat ↔ a < b := by
  rw [map_toNat_lt_iff, String.lt_iff]

theorem codePoints_eq_iff {a b : String} :
    a.toList.map Char.toNat = b.toList.map Char.toNat ↔ a = b := by
  rw [List.map_inj_right (fun _ _ h => Char.toNat_inj.mp h), String.toList_inj]

end Sift.Utf8
