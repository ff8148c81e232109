import Sift.Text.Utf8

/-!
Reading the bytes of a text gives the text. The first byte of a character says how many bytes follow
and in which range the first of them lies, and no character has bytes outside these ranges.
-/

namespace Sift.Utf8

theorem expected_ofNat {k : Nat} (hk : k < 256) :
    expected (UInt8.ofNat k) =
      if k < 0x80 then some (0, 0x80, 0xBF)
      else if k < 0xC2 then none
      else if k < 0xE0 then some (1, 0x80, 0xBF)
      else if k = 0xE0 then some (2, 0xA0, 0xBF)
      else if k = 0xED then some (2, 0x80, 0x9F)
      else if k < 0xF0 then some (2, 0x80, 0xBF)
      else if k = 0xF0 then some (3, 0x90, 0xBF)
      else if k < 0xF4 then some (3, 0x80, 0xBF)
      else if k = 0xF4 then some (3, 0x80, 0x8F)
      else none := by
  simp only [expected, UInt8.lt_iff_toNat_lt, beq_iff_eq, ← UInt8.toNat_inj,
    UInt8.toNat_ofNat_of_lt' hk]
  rfl

/-- Bytes in their ranges are all taken, if they are as many as are called for. -/
theorem continuations_append {low high : UInt8} {bytes : List UInt8}
    (hfirst : ∀ b ∈ bytes.head?, low ≤ b ∧ b ≤ high)
    (hmore : ∀ b ∈ bytes.tail, 0x80 ≤ b ∧ b ≤ 0xBF) (rest : List UInt8) :
    continuations bytes.length low high (bytes ++ rest) = (bytes, rest) := by
  induction bytes generalizing low high with
  | nil => rfl
  | cons b bytes ih =>
    have hb : low ≤ b ∧ b ≤ high := hfirst b rfl
    have hrest : continuations bytes.length 0x80 0xBF (bytes ++ rest) = (bytes, rest) := by
      apply ih
      · intro b' hb'
        exact hmore b' (List.mem_of_mem_head? hb')
      · intro b' hb'
        exact hmore b' (List.mem_of_mem_tail hb')
    rw [List.cons_append, List.length_cons, continuations, if_pos hb, hrest]

theorem front_append {first low high : UInt8} {bytes : List UInt8}
    (hexpected : expected first = some (bytes.length, low, high))
    (hfirst : ∀ b ∈ bytes.head?, low ≤ b ∧ b ≤ high)
    (hmore : ∀ b ∈ bytes.tail, 0x80 ≤ b ∧ b ≤ 0xBF) (rest : List UInt8) :
    front first (bytes ++ rest) =
      (some (Char.ofNat (bytes.foldl (fun n b => n * 0x40 + b.toNat % 0x40)
        (leadBits first bytes.length))), rest) := by
  simp only [front, hexpected, continuations_append hfirst hmore, if_true]

/-- The bound is spelled out, so that `omega` can discharge it. -/
theorem toNat_ofNat {k : Nat} (hk : k < 256) : (UInt8.ofNat k).toNat = k :=
  UInt8.toNat_ofNat_of_lt' hk

theorem within_iff {low high : UInt8} {k : Nat} (hk : k < 256) :
    low ≤ UInt8.ofNat k ∧ UInt8.ofNat k ≤ high ↔ low.toNat ≤ k ∧ k ≤ high.toNat := by
  rw [UInt8.le_iff_toNat_le, UInt8.le_iff_toNat_le, toNat_ofNat hk]

theorem continues (digit : Nat) :
    0x80 ≤ UInt8.ofNat (digit % 64 + 128) ∧ UInt8.ofNat (digit % 64 + 128) ≤ 0xBF := by
  rw [within_iff (by omega)]
  have hdigit : digit % 64 < 64 := Nat.mod_lt digit (by decide)
  exact ⟨Nat.le_add_left 128 _, Nat.add_le_add_right (Nat.le_of_lt_succ hdigit) 128⟩

/-- After the first of three bytes comes one that makes neither an overlong form nor a surrogate. -/
theorem expected_first_of_three {n : Nat} (hlow : 2047 < n) (hhigh : n ≤ 65535)
    (hvalid : n < 0xD800 ∨ 0xDFFF < n) : ∃ low high,
      expected (UInt8.ofNat (n / 4096 % 16 + 224)) = some (2, low, high) ∧
      low ≤ UInt8.ofNat (n / 64 % 64 + 128) ∧ UInt8.ofNat (n / 64 % 64 + 128) ≤ high := by
  rw [expected_ofNat (by omega), if_neg (by omega), if_neg (by omega), if_neg (by omega)]
  simp only [within_iff (show n / 64 % 64 + 128 < 256 by omega)]
  by_cases hoverlong : n / 4096 % 16 + 224 = 0xE0
  · exact ⟨0xA0, 0xBF, if_pos hoverlong, by change 160 ≤ _; omega, by change _ ≤ 191; omega⟩
  rw [if_neg hoverlong]
  by_cases hsurrogate : n / 4096 % 16 + 224 = 0xED
  · exact ⟨0x80, 0x9F, if_pos hsurrogate, by change 128 ≤ _; omega, by change _ ≤ 159; omega⟩
  rw [if_neg hsurrogate]
  exact ⟨0x80, 0xBF, if_pos (by omega), by change 128 ≤ _; omega, by change _ ≤ 191; omega⟩

/-- After the first of four bytes comes one that makes neither an overlong form nor a value past the
last code point. -/
theorem expected_first_of_four {n : Nat} (hlow : 65535 < n) (hhigh : n < 0x110000) :
    ∃ low high, expected (UInt8.ofNat (n / 262144 % 8 + 240)) = some (3, low, high) ∧
      low ≤ UInt8.ofNat (n / 4096 % 64 + 128) ∧ UInt8.ofNat (n / 4096 % 64 + 128) ≤ high := by
  rw [expected_ofNat (by omega), if_neg (by omega), if_neg (by omega), if_neg (by omega),
    if_neg (by omega), if_neg (by omega), if_neg (by omega)]
  simp only [within_iff (show n / 4096 % 64 + 128 < 256 by omega)]
  by_cases hoverlong : n / 262144 % 8 + 240 = 0xF0
  · exact ⟨0x90, 0xBF, if_pos hoverlong, by change 144 ≤ _; omega, by change _ ≤ 191; omega⟩
  rw [if_neg hoverlong]
  by_cases hlast : n / 262144 % 8 + 240 < 0xF4
  · exact ⟨0x80, 0xBF, if_pos hlast, by change 128 ≤ _; omega, by change _ ≤ 191; omega⟩
  rw [if_neg hlast]
  exact ⟨0x80, 0x8F, if_pos (by omega), by change 128 ≤ _; omega, by change _ ≤ 143; omega⟩

/-- The bytes of a character are read as the character, whatever stands behind them. -/
theorem pieces_encodeChar_append (c : Char) (rest : List UInt8) :
    pieces (String.utf8EncodeChar c ++ rest) = some c :: pieces rest := by
  have hvalid : c.val.toNat < 0xD800 ∨ 0xDFFF < c.val.toNat ∧ c.val.toNat < 0x110000 := c.valid
  have hofNat : Char.ofNat c.val.toNat = c := Char.ofNat_toNat c
  -- It is enough to look at the front, where the first byte says what has to follow.
  suffices h : ∃ first bytes, String.utf8EncodeChar c = first :: bytes ∧
      front first (bytes ++ rest) = (some c, rest) by
    obtain ⟨first, bytes, hbytes, hfront⟩ := h
    rw [hbytes, List.cons_append, pieces, hfront]
  rw [String.utf8EncodeChar.eq_1]
  generalize c.val.toNat = n at hvalid hofNat
  by_cases hone : n ≤ 127
  · have hexpected : expected (UInt8.ofNat n) = some (0, 0x80, 0xBF) := by
      rw [expected_ofNat (by omega), if_pos (by omega)]
    refine ⟨_, _, if_pos hone, (front_append hexpected ?_ ?_ rest).trans ?_⟩
    · intro b hb
      cases hb
    · exact List.forall_mem_nil _
    · simp (disch := omega) only [List.foldl_nil, List.length_nil, leadBits, toNat_ofNat, hofNat]
  rw [if_neg hone]
  by_cases htwo : n ≤ 2047
  · have hexpected : expected (UInt8.ofNat (n / 64 % 32 + 192)) = some (1, 0x80, 0xBF) := by
      rw [expected_ofNat (by omega), if_neg (by omega), if_neg (by omega), if_pos (by omega)]
    have hvalue : (n / 64 % 32 + 192) % 32 * 64 + (n % 64 + 128) % 64 = n := by omega
    refine ⟨_, _, if_pos htwo, (front_append hexpected ?_ ?_ rest).trans ?_⟩
    · rintro _ ⟨⟩
      exact continues n
    · exact List.forall_mem_nil _
    · simp (disch := omega) only [List.foldl_cons, List.foldl_nil, List.length_cons,
        List.length_nil, leadBits, toNat_ofNat, hvalue, hofNat]
  rw [if_neg htwo]
  by_cases hthree : n ≤ 65535
  · obtain ⟨low, high, hexpected, hrange⟩ :=
      expected_first_of_three (n := n) (by omega) hthree (by omega)
    have hvalue : ((n / 4096 % 16 + 224) % 16 * 64 + (n / 64 % 64 + 128) % 64) * 64 +
        (n % 64 + 128) % 64 = n := by omega
    refine ⟨_, _, if_pos hthree, (front_append hexpected ?_ ?_ rest).trans ?_⟩
    · rintro _ ⟨⟩
      exact hrange
    · exact List.forall_mem_singleton.mpr (continues n)
    · simp (disch := omega) only [List.foldl_cons, List.foldl_nil, List.length_cons,
        List.length_nil, leadBits, toNat_ofNat, hvalue, hofNat]
  · obtain ⟨low, high, hexpected, hrange⟩ :=
      expected_first_of_four (n := n) (by omega) (by omega)
    have hvalue : (((n / 262144 % 8 + 240) % 8 * 64 + (n / 4096 % 64 + 128) % 64) * 64 +
        (n / 64 % 64 + 128) % 64) * 64 + (n % 64 + 128) % 64 = n := by omega
    refine ⟨_, _, if_neg hthree, (front_append hexpected ?_ ?_ rest).trans ?_⟩
    · rintro _ ⟨⟩
      exact hrange
    · exact List.forall_mem_cons.mpr
        ⟨continues (n / 64), List.forall_mem_singleton.mpr (continues n)⟩
    · simp (disch := omega) only [List.foldl_cons, List.foldl_nil, List.length_cons,
        List.length_nil, leadBits, toNat_ofNat, hvalue, hofNat]

theorem pieces_encode (text : List Char) : pieces (encode text) = text.map some := by
  induction text with
  | nil => rw [encode, List.flatMap_nil, pieces, List.map_nil]
  | cons c text ih =>
    rw [encode, List.flatMap_cons, pieces_encodeChar_append, List.map_cons]
    exact congrArg (some c :: ·) ih

/-- No character of a text is replaced when its bytes are read. -/
theorem decodeLossy_encode (text : List Char) : decodeLossy (encode text) = text := by
  rw [decodeLossy, pieces_encode, List.map_map]
  exact List.map_id text

end Sift.Utf8
