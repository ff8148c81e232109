import Mathlib.Order.Bounds.Basic
import Sift.Text.EditDistance

/-!
The edit distance of two texts is the least number of edits that turn one into the other. It is
computed from the distances of shorter texts. Edits that reach it can be read off that computation,
and no edit, wherever it is made, changes the distance from any text by more than one.
-/

namespace Sift

inductive Edit : List Char → List Char → Prop where
  | insert (front back : List Char) (c : Char) : Edit (front ++ back) (front ++ c :: back)
  | delete (front back : List Char) (c : Char) : Edit (front ++ c :: back) (front ++ back)
  | replace (front back : List Char) (c d : Char) :
    Edit (front ++ c :: back) (front ++ d :: back)

/-- So many edits, one after the other, turn the first text into the second. -/
inductive Edits : Nat → List Char → List Char → Prop where
  | none (text : List Char) : Edits 0 text text
  | more {n : Nat} {text other last : List Char} (h : Edit text other)
    (hrest : Edits n other last) :
    Edits (n + 1) text last

theorem Edit.cons {text other : List Char} (h : Edit text other) (c : Char) :
    Edit (c :: text) (c :: other) := by
  cases h with
  | insert front back d => exact .insert (c :: front) back d
  | delete front back d => exact .delete (c :: front) back d
  | replace front back d e => exact .replace (c :: front) back d e

theorem Edits.cons {n : Nat} {text other : List Char} (h : Edits n text other) (c : Char) :
    Edits n (c :: text) (c :: other) := by
  induction h with
  | none text => exact .none (c :: text)
  | more h _ ih => exact .more (h.cons c) ih

theorem length_distancesCons (c : Char) {other : List Char} {ns : List Nat}
    (h : ns.length = other.length + 1) : (distancesCons c other ns).length = ns.length := by
  induction other generalizing ns with
  | nil =>
    obtain ⟨n, rfl⟩ := List.length_eq_one_iff.mp h
    rfl
  | cons d other ih =>
    match ns with
    | distance :: shorter :: shortest =>
      have hrest : (shorter :: shortest).length = other.length + 1 := Nat.succ.inj h
      exact congrArg Nat.succ (ih hrest)

theorem length_distances (other text : List Char) :
    (distances other text).length = other.length + 1 := by
  induction text with
  | nil => simp [distances]
  | cons c text ih => rw [distances, length_distancesCons c ih, ih]

/-- The first of the distances is the one from the whole text. -/
theorem exists_distances_eq (other text : List Char) :
    ∃ ns, distances other text = editDistance text other :: ns := by
  obtain ⟨n, ns, h⟩ := List.exists_cons_of_length_eq_add_one (length_distances other text)
  exact ⟨ns, by rw [editDistance, h, List.headD_cons]⟩

theorem editDistance_nil_left (other : List Char) : editDistance [] other = other.length := by
  simp [editDistance, distances, List.range_succ]

theorem distances_cons_cons {c d : Char} {other text : List Char}
    (h : distances (d :: other) text = editDistance text (d :: other) :: distances other text) :
    distances (d :: other) (c :: text) =
      (if c = d then editDistance text other
        else 1 + min (editDistance text (d :: other))
          (min (editDistance text other) (editDistance (c :: text) other))) ::
        distances other (c :: text) := by
  obtain ⟨ns, hns⟩ := exists_distances_eq other text
  have hrest :
      distances other (c :: text) = distancesCons c other (editDistance text other :: ns) :=
    congrArg (distancesCons c other) hns
  rw [distances, h, hns, editDistance.eq_1 (c :: text) other, hrest]
  rfl

/-- The others are the distances from what stands behind its first character. -/
theorem distances_cons (d : Char) (other text : List Char) :
    distances (d :: other) text = editDistance text (d :: other) :: distances other text := by
  induction text with
  | nil => simp [distances, editDistance_nil_left, List.range_succ]
  | cons c text ih =>
    have hstep := distances_cons_cons (c := c) ih
    rw [editDistance, hstep, List.headD_cons]

theorem editDistance_nil_right (text : List Char) : editDistance text [] = text.length := by
  have hsingle : distances [] text = [text.length] := by
    induction text with
    | nil => rfl
    | cons c text ih =>
      rw [distances, ih]
      rfl
  rw [editDistance, hsingle, List.headD_cons]

theorem editDistance_cons_cons (c d : Char) (text other : List Char) :
    editDistance (c :: text) (d :: other) =
      if c = d then editDistance text other
      else 1 + min (editDistance text (d :: other))
        (min (editDistance text other) (editDistance (c :: text) other)) := by
  rw [editDistance, distances_cons_cons (distances_cons d other text), List.headD_cons]

theorem editDistance_cons_self (c : Char) (text other : List Char) :
    editDistance (c :: text) (c :: other) = editDistance text other := by
  rw [editDistance_cons_cons, if_pos rfl]

theorem editDistance_cons_of_ne {c d : Char} (h : c ≠ d) (text other : List Char) :
    editDistance (c :: text) (d :: other) =
      1 + min (editDistance text (d :: other))
        (min (editDistance text other) (editDistance (c :: text) other)) := by
  rw [editDistance_cons_cons, if_neg h]

theorem editDistance_comm (text other : List Char) :
    editDistance text other = editDistance other text := by
  induction text generalizing other with
  | nil => rw [editDistance_nil_left, editDistance_nil_right]
  | cons c text ih =>
    induction other with
    | nil => rw [editDistance_nil_left, editDistance_nil_right]
    | cons d other ih' =>
      by_cases h : c = d
      · rw [h, editDistance_cons_self, editDistance_cons_self, ih]
      · rw [editDistance_cons_of_ne h, editDistance_cons_of_ne (Ne.symm h), ih, ih, ih']
        omega

theorem editDistance_self (text : List Char) : editDistance text text = 0 := by
  induction text with
  | nil => rfl
  | cons c text ih => rw [editDistance_cons_self, ih]

theorem edits_insert (text : List Char) : Edits text.length [] text := by
  induction text with
  | nil => exact .none []
  | cons c text ih => exact .more (.insert [] [] c) (ih.cons c)

theorem edits_delete (text : List Char) : Edits text.length text [] := by
  induction text with
  | nil => exact .none []
  | cons c text ih => exact .more (.delete [] text c) ih

theorem edits_editDistance (text other : List Char) :
    Edits (editDistance text other) text other := by
  induction text generalizing other with
  | nil =>
    rw [editDistance_nil_left]
    exact edits_insert other
  | cons c text ih =>
    induction other with
    | nil =>
      rw [editDistance_nil_right]
      exact edits_delete (c :: text)
    | cons d other ih' =>
      by_cases h : c = d
      · subst h
        rw [editDistance_cons_self]
        exact (ih other).cons c
      · have hleast :
            editDistance (c :: text) (d :: other) = editDistance text (d :: other) + 1 ∨
            editDistance (c :: text) (d :: other) = editDistance text other + 1 ∨
            editDistance (c :: text) (d :: other) = editDistance (c :: text) other + 1 := by
          rw [editDistance_cons_of_ne h]
          omega
        rcases hleast with hdelete | hreplace | hinsert
        · rw [hdelete]
          exact .more (.delete [] text c) (ih (d :: other))
        · rw [hreplace]
          exact .more (.replace [] text c d) ((ih other).cons d)
        · rw [hinsert]
          exact .more (.insert [] (c :: text) d) (ih'.cons d)

/-- One character more on the left makes a difference of at most one if one more on the right does,
whatever stands there. -/
theorem editDistance_cons_le {text : List Char}
    (h : ∀ other d, editDistance text other ≤ editDistance text (d :: other) + 1) (c : Char)
    (other : List Char) : editDistance (c :: text) other ≤ editDistance text other + 1 := by
  cases other with
  | nil => simp [editDistance_nil_right]
  | cons d other =>
    by_cases heq : c = d
    · rw [heq, editDistance_cons_self]
      exact h other d
    · rw [editDistance_cons_of_ne heq]
      omega

theorem editDistance_le_cons_right (text other : List Char) (d : Char) :
    editDistance text other ≤ editDistance text (d :: other) + 1 := by
  induction text generalizing other d with
  | nil =>
    simp only [editDistance_nil_left, List.length_cons]
    omega
  | cons c text ih =>
    have hcons := editDistance_cons_le ih c other
    by_cases heq : c = d
    · rw [heq, editDistance_cons_self, ← heq]
      exact hcons
    · have hmore := ih other d
      rw [editDistance_cons_of_ne heq]
      omega

/-- Putting a character in front adds at most one to the distance. -/
theorem editDistance_cons_left_le (c : Char) (text other : List Char) :
    editDistance (c :: text) other ≤ editDistance text other + 1 :=
  editDistance_cons_le (editDistance_le_cons_right text) c other

/-- Taking a character away from the front adds at most one to the distance. -/
theorem editDistance_le_cons_left (c : Char) (text other : List Char) :
    editDistance text other ≤ editDistance (c :: text) other + 1 := by
  rw [editDistance_comm text, editDistance_comm (c :: text)]
  exact editDistance_le_cons_right other text c

/-- Replacing the first character adds at most one to the distance. -/
theorem editDistance_replace_le (c d : Char) (text other : List Char) :
    editDistance (c :: text) other ≤ editDistance (d :: text) other + 1 := by
  induction other with
  | nil => simp [editDistance_nil_right]
  | cons e other ih =>
    have hinsert := editDistance_cons_left_le c text (e :: other)
    have hreplace : editDistance (c :: text) (e :: other) ≤ editDistance text other + 1 := by
      by_cases hce : c = e
      · rw [hce, editDistance_cons_self]
        omega
      · rw [editDistance_cons_of_ne hce]
        omega
    have hdelete : editDistance (c :: text) (e :: other) ≤ editDistance (c :: text) other + 1 := by
      rw [editDistance_comm (c :: text), editDistance_comm (c :: text)]
      exact editDistance_cons_left_le e other (c :: text)
    by_cases hde : d = e
    · rw [hde, editDistance_cons_self]
      exact hreplace
    · rw [editDistance_cons_of_ne hde]
      omega

/-- Where two texts differ in their distances by at most one, so they do behind a common
character. -/
theorem editDistance_cons_mono {text text' : List Char}
    (h : ∀ other, editDistance text other ≤ editDistance text' other + 1) (c : Char)
    (other : List Char) :
    editDistance (c :: text) other ≤ editDistance (c :: text') other + 1 := by
  induction other with
  | nil =>
    have hnil := h []
    simp only [editDistance_nil_right, List.length_cons] at hnil ⊢
    omega
  | cons d other ih =>
    by_cases heq : c = d
    · rw [heq, editDistance_cons_self, editDistance_cons_self]
      exact h other
    · have hwhole := h (d :: other)
      have hrest := h other
      rw [editDistance_cons_of_ne heq, editDistance_cons_of_ne heq]
      omega

/-- One edit, wherever it is made, makes a difference of at most one. -/
theorem Edit.editDistance_le {text text' : List Char} (h : Edit text text') (other : List Char) :
    editDistance text other ≤ editDistance text' other + 1 := by
  have hfront {back back' : List Char}
      (hback : ∀ other, editDistance back other ≤ editDistance back' other + 1)
      (front : List Char) (other : List Char) :
      editDistance (front ++ back) other ≤ editDistance (front ++ back') other + 1 := by
    induction front generalizing other with
    | nil => exact hback other
    | cons c front ih => exact editDistance_cons_mono ih c other
  cases h with
  | insert front back c => exact hfront (editDistance_le_cons_left c back) front other
  | delete front back c => exact hfront (editDistance_cons_left_le c back) front other
  | replace front back c d => exact hfront (editDistance_replace_le c d back) front other

theorem Edits.editDistance_le {n : Nat} {text other : List Char} (h : Edits n text other) :
    editDistance text other ≤ n := by
  induction h with
  | none text => exact Nat.le_of_eq (editDistance_self text)
  | more h _ ih => exact Nat.le_trans (h.editDistance_le _) (Nat.succ_le_succ ih)

theorem isLeast_editDistance (text other : List Char) :
    IsLeast {n | Edits n text other} (editDistance text other) :=
  ⟨edits_editDistance text other, fun _ h => h.editDistance_le⟩

end Sift
