import Mathlib.Data.List.TakeWhile
import Sift.Text.Lowercase

/-!
The lower case of a text. Every character is put in lower case where it stands. Capital letters of
an alphabet have their small letters at a fixed distance, and a capital sigma goes by the letters
around it.
-/

namespace Sift

namespace Unicode

structure Alphabet where
  first : Char
  last : Char
  distance : Nat

def alphabets : List Alphabet :=
  [⟨'A', 'Z', 32⟩, ⟨'À', 'Ö', 32⟩, ⟨'Ø', 'Þ', 32⟩, ⟨'Α', 'Ρ', 32⟩, ⟨'Σ', 'Ϋ', 32⟩,
   ⟨'А', 'Я', 32⟩, ⟨'Ѐ', 'Џ', 80⟩, ⟨'Ա', 'Ֆ', 48⟩]

theorem image?_eq_none {r : CaseRun} {n : Nat} (h : n < r.run.first ∨ r.run.last < n) :
    r.image? n = none := by
  have hnot : r.run.contains n = false := by
    apply decide_eq_false
    omega
  rw [CaseRun.image?, hnot]
  rfl

/-- The runs in front of the first one that reaches so far have nothing to say. -/
theorem lowercase_of_dropWhile {first n : Nat} {r : CaseRun} {after : List CaseRun}
    (h : lowercaseRuns.dropWhile (fun r => decide (r.run.last < first)) = r :: after)
    (hfirst : first ≤ n) (hr : r.run.contains n = true) :
    lowercase n = r.target + (n - r.run.first) := by
  let before := lowercaseRuns.takeWhile (fun r => decide (r.run.last < first))
  have hruns : lowercaseRuns = before ++ r :: after := by
    rw [← h]
    exact List.takeWhile_append_dropWhile.symm
  have hbefore : before.findSome? (·.image? n) = none := by
    rw [List.findSome?_eq_none_iff]
    intro s hs
    have hlast := List.mem_takeWhile_imp (p := fun r : CaseRun => decide (r.run.last < first)) hs
    rw [decide_eq_true_iff] at hlast
    exact image?_eq_none (.inr (Nat.lt_of_lt_of_le hlast hfirst))
  have himage : r.image? n = some (r.target + (n - r.run.first)) := by
    rw [CaseRun.image?, hr]
    rfl
  rw [lowercase, hruns, List.findSome?_append, hbefore, Option.none_or, List.findSome?_cons,
    himage]
  rfl

theorem lowercase_of_alphabet {a : Alphabet} (ha : a ∈ alphabets) {n : Nat}
    (hfirst : a.first.toNat ≤ n) (hlast : n ≤ a.last.toNat) : lowercase n = n + a.distance := by
  have hruns : ∀ a ∈ alphabets, ∃ r ∈ lowercaseRuns.dropWhile
        (fun r => decide (r.run.last < a.first.toNat)) |>.head?,
      r.run.first ≤ a.first.toNat ∧ a.last.toNat ≤ r.run.last ∧ r.run.step = 1 ∧
        r.target = r.run.first + a.distance := by
    decide +kernel
  obtain ⟨r, hhead, hstart, hend, hstep, htarget⟩ := hruns a ha
  obtain ⟨after, hdrop⟩ := List.head?_eq_some_iff.mp hhead
  have hr : r.run.contains n = true := by
    apply decide_eq_true
    rw [hstep]
    exact ⟨by omega, by omega, Nat.mod_one _⟩
  rw [lowercase_of_dropWhile hdrop hfirst hr]
  omega

theorem lowercase_of_ascii {n : Nat} (h : n < 128) :
    lowercase n = if 65 ≤ n ∧ n ≤ 90 then n + 32 else n := by
  split
  · rename_i hletter
    have hlatin : (⟨'A', 'Z', 32⟩ : Alphabet) ∈ alphabets := by simp [alphabets]
    exact lowercase_of_alphabet hlatin hletter.1 hletter.2
  · rename_i hother
    have hruns : ∀ r ∈ lowercaseRuns,
        65 ≤ r.run.first ∧ r.run.last ≤ 90 ∨ 128 ≤ r.run.first := by
      decide +kernel
    have hnone : lowercaseRuns.findSome? (·.image? n) = none := by
      rw [List.findSome?_eq_none_iff]
      intro r hr
      have hrange := hruns r hr
      exact image?_eq_none (by omega)
    rw [lowercase, hnone]
    rfl

end Unicode

theorem forall_ascii {p : Char → Prop} (h : ∀ n < 128, p (Char.ofNat n)) {c : Char}
    (hc : c.toNat < 128) : p c := by
  have hp := h c.toNat hc
  rwa [Char.ofNat_toNat] at hp

theorem toLower_eq_or (c : Char) : c.toLower = c ∨ c.toNat < 128 := by
  unfold Char.toLower
  split
  · rename_i hletter
    have hle : c.toNat ≤ 90 := UInt32.le_iff_toNat_le.mp hletter.2
    exact .inr (by omega)
  · exact .inl rfl

theorem lowercaseChars_of_ascii {c : Char} (hc : c.toNat < 128) :
    lowercaseChars c = [c.toLower] := by
  have hletter : Char.ofNat (if 65 ≤ c.toNat ∧ c.toNat ≤ 90 then c.toNat + 32 else c.toNat) =
      c.toLower :=
    forall_ascii (p := fun c => Char.ofNat
      (if 65 ≤ c.toNat ∧ c.toNat ≤ 90 then c.toNat + 32 else c.toNat) = c.toLower)
      (by decide +kernel) hc
  rw [lowercaseChars, if_neg (by omega), Unicode.lowercase_of_ascii hc, hletter]

theorem lowercaseChars_toLower (c : Char) : lowercaseChars c.toLower = lowercaseChars c := by
  rcases toLower_eq_or c with h | hc
  · rw [h]
  · have hlower : c.toLower.toNat < 128 ∧ c.toLower.toLower = c.toLower :=
      forall_ascii (p := fun c => c.toLower.toNat < 128 ∧ c.toLower.toLower = c.toLower)
        (by decide +kernel) hc
    rw [lowercaseChars_of_ascii hc, lowercaseChars_of_ascii hlower.1, hlower.2]

theorem toLower_eq_sigma_iff (c : Char) : c.toLower = 'Σ' ↔ c = 'Σ' := by
  constructor
  · intro h
    rcases toLower_eq_or c with hsame | hc
    · rw [← hsame, h]
    · have hne : c.toLower ≠ 'Σ' :=
        forall_ascii (p := fun c => c.toLower ≠ 'Σ') (by decide +kernel) hc
      exact absurd h hne
  · rintro rfl
    rfl

theorem toList_toLower (text : String) : text.toLower.toList = text.toList.map Char.toLower :=
  String.toList_map

theorem sigma_mem_toLower_iff (text : String) : 'Σ' ∈ text.toLower.toList ↔ 'Σ' ∈ text.toList := by
  rw [toList_toLower, List.mem_map]
  constructor
  · rintro ⟨c, hc, hsigma⟩
    rwa [← (toLower_eq_sigma_iff c).mp hsigma]
  · intro h
    exact ⟨'Σ', h, rfl⟩

/-- Without a capital sigma no character depends on those around it. -/
theorem lowercase_of_not_mem {text : String} (h : 'Σ' ∉ text.toList) :
    lowercase text = text.toList.flatMap lowercaseChars := by
  have hafter (before rest : List Char) (hrest : 'Σ' ∉ rest) :
      lowercaseAfter before rest = rest.flatMap lowercaseChars := by
    induction rest generalizing before with
    | nil => rfl
    | cons c rest ih =>
      rw [List.mem_cons, not_or] at hrest
      rw [lowercaseAfter, if_neg (Ne.symm hrest.1), ih _ hrest.2, List.flatMap_cons]
  exact hafter [] text.toList h

theorem lowercase_eq_toLower {text : String} (h : ∀ c ∈ text.toList, c.toNat < 128) :
    lowercase text = text.toLower.toList := by
  have hsigma : 'Σ' ∉ text.toList := by
    intro hmem
    exact absurd (h 'Σ' hmem) (by decide)
  rw [lowercase_of_not_mem hsigma, toList_toLower, List.map_eq_flatMap, List.flatMap_def,
    List.flatMap_def]
  exact congrArg List.flatten (List.map_congr_left fun c hc => lowercaseChars_of_ascii (h c hc))

theorem lowercase_toLower {text : String} (h : 'Σ' ∉ text.toList) :
    lowercase text.toLower = lowercase text := by
  have hlower : 'Σ' ∉ text.toLower.toList := by rwa [sigma_mem_toLower_iff]
  rw [lowercase_of_not_mem h, lowercase_of_not_mem hlower, toList_toLower, List.flatMap_map]
  simp only [lowercaseChars_toLower]

theorem lowercase_eq_of_toLower_eq {a b : String} (h : a.toLower = b.toLower)
    (ha : 'Σ' ∉ a.toList) : lowercase a = lowercase b := by
  have hb : 'Σ' ∉ b.toList := by rwa [← sigma_mem_toLower_iff, ← h, sigma_mem_toLower_iff]
  rw [← lowercase_toLower ha, h, lowercase_toLower hb]

/-- The first thing in the text that case does not ignore is a cased character. -/
def MeetsCased (text : List Char) : Prop :=
  ∃ passed c rest, text = passed ++ c :: rest ∧
    (∀ d ∈ passed, Unicode.Additions.caseIgnorable.contains d.toNat = true) ∧
    Unicode.Additions.caseIgnorable.contains c.toNat = false ∧
    Unicode.Additions.cased.contains c.toNat = true

theorem casedFollows_iff (text : List Char) : casedFollows text = true ↔ MeetsCased text := by
  let ignorable (c : Char) := Unicode.Additions.caseIgnorable.contains c.toNat
  constructor
  · intro h
    unfold casedFollows at h
    split at h
    · cases h
    · rename_i c rest hdrop
      have hnot := List.head?_dropWhile_not ignorable text
      rw [hdrop] at hnot
      refine ⟨text.takeWhile ignorable, c, rest, ?_, ?_, by simpa using hnot, h⟩
      · rw [← hdrop, List.takeWhile_append_dropWhile]
      · intro d hd
        exact List.mem_takeWhile_imp (p := ignorable) hd
  · rintro ⟨passed, c, rest, rfl, hpassed, hc, hcased⟩
    have hneg : ¬ ignorable c = true := by simp [ignorable, hc]
    have hdrop : (passed ++ c :: rest).dropWhile ignorable = c :: rest := by
      rw [List.dropWhile_append_of_pos hpassed, List.dropWhile_cons_of_neg hneg]
    unfold casedFollows
    rw [hdrop]
    exact hcased

inductive LowersTo (before after : List Char) : Char → List Char → Prop where
  | finalSigma (hbefore : MeetsCased before.reverse) (hafter : ¬ MeetsCased after) :
    LowersTo before after 'Σ' ['ς']
  | sigma (h : MeetsCased before.reverse → MeetsCased after) : LowersTo before after 'Σ' ['σ']
  | dottedI : LowersTo before after 'İ' ['i', '\u0307']
  | other {c : Char} (hsigma : c ≠ 'Σ') (hdotted : c ≠ 'İ') :
    LowersTo before after c [Char.ofNat (Unicode.lowercase c.toNat)]

/-- The lower case of a text that stands behind another one. -/
inductive Lowers : List Char → List Char → List Char → Prop where
  | nil (before : List Char) : Lowers before [] []
  | cons {before rest piece small : List Char} {c : Char} (hc : LowersTo before rest c piece)
    (hrest : Lowers (before ++ [c]) rest small) : Lowers before (c :: rest) (piece ++ small)

theorem lowersTo_iff {before after piece : List Char} {c : Char} :
    LowersTo before after c piece ↔
      piece = if c = 'Σ' then
        (if casedFollows before.reverse && !casedFollows after then ['ς'] else ['σ'])
        else lowercaseChars c := by
  have hfinal : (casedFollows before.reverse && !casedFollows after) = true ↔
      MeetsCased before.reverse ∧ ¬ MeetsCased after := by
    rw [Bool.and_eq_true, casedFollows_iff, Bool.not_eq_true', ← Bool.not_eq_true,
      casedFollows_iff]
  constructor
  · intro h
    cases h with
    | finalSigma hbefore hafter => rw [if_pos rfl, if_pos (hfinal.mpr ⟨hbefore, hafter⟩)]
    | sigma h =>
      rw [if_pos rfl, if_neg]
      rw [hfinal]
      exact fun hends => hends.2 (h hends.1)
    | dottedI => rfl
    | other hsigma hdotted =>
      have hcode : c.toNat ≠ 0x130 := fun hcode => hdotted (Char.toNat_inj.mp hcode)
      rw [if_neg hsigma, lowercaseChars, if_neg hcode]
  · rintro rfl
    by_cases hsigma : c = 'Σ'
    · subst hsigma
      rw [if_pos rfl]
      by_cases hends : MeetsCased before.reverse ∧ ¬ MeetsCased after
      · rw [if_pos (hfinal.mpr hends)]
        exact .finalSigma hends.1 hends.2
      · rw [if_neg (mt hfinal.mp hends)]
        refine .sigma fun hbefore => ?_
        by_contra hafter
        exact hends ⟨hbefore, hafter⟩
    · rw [if_neg hsigma]
      by_cases hdotted : c = 'İ'
      · subst hdotted
        exact .dottedI
      · have hcode : c.toNat ≠ 0x130 := fun hcode => hdotted (Char.toNat_inj.mp hcode)
        rw [lowercaseChars, if_neg hcode]
        exact .other hsigma hdotted

theorem lowers_iff {before text small : List Char} :
    Lowers before text small ↔ small = lowercaseAfter before.reverse text := by
  induction text generalizing before small with
  | nil =>
    constructor
    · intro h
      cases h
      rfl
    · rintro rfl
      exact .nil before
  | cons c rest ih =>
    have hreverse : (before ++ [c]).reverse = c :: before.reverse := by simp
    rw [lowercaseAfter, ← hreverse]
    constructor
    · intro h
      cases h with
      | cons hc hrest => rw [ih.mp hrest, lowersTo_iff.mp hc]
    · rintro rfl
      exact .cons (lowersTo_iff.mpr rfl) (ih.mpr rfl)

/-- Lower case is found character by character, is that of ASCII on ASCII text, and goes over from
the capitals of an alphabet to its small letters. -/
structure IsLowerCase (lower : String → List Char) : Prop where
  lowers : ∀ text small, Lowers [] text.toList small ↔ small = lower text
  ascii : ∀ text : String, (∀ c ∈ text.toList, c.toNat < 128) → lower text = text.toLower.toList
  alphabet : ∀ a ∈ Unicode.alphabets, ∀ c, a.first.toNat ≤ c.toNat → c.toNat ≤ a.last.toNat →
    lower (String.singleton c) = [Char.ofNat (c.toNat + a.distance)]

theorem isLowerCase_lowercase : IsLowerCase lowercase where
  lowers _ _ := lowers_iff
  ascii _ h := lowercase_eq_toLower h
  alphabet a ha c hfirst hlast := by
    have hletter := Unicode.lowercase_of_alphabet ha hfirst hlast
    have hchars : lowercase (String.singleton c) =
        (if c = 'Σ' then ['σ'] else lowercaseChars c) ++ [] := by
      rw [lowercase, String.toList_singleton]
      rfl
    rw [hchars, List.append_nil]
    by_cases hsigma : c = 'Σ'
    · subst hsigma
      rw [if_pos rfl, ← hletter]
      decide +kernel
    · have hoff : ∀ a ∈ Unicode.alphabets, a.first.toNat ≤ 0x130 → ¬ 0x130 ≤ a.last.toNat := by
        decide
      have hcode : c.toNat ≠ 0x130 := by
        intro hdotted
        rw [hdotted] at hfirst hlast
        exact hoff a ha hfirst hlast
      rw [if_neg hsigma, lowercaseChars, if_neg hcode, hletter]

end Sift
