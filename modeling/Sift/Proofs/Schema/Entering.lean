import Sift.Schema.Basic

/-!
Entering fields one after another into a list that is in the order of its names. The list is
determined by what is found in it under each name, and entering a field changes what is found under
the name of that field alone.
-/

namespace Sift

namespace Schema

variable {α : Type} {fields fields' : List (Field α)} {f g new : Field α} {name : String}

def Ordered (fields : List (Field α)) : Prop :=
  fields.Pairwise (fun f g => f.name < g.name)

def named (name : String) (fields : List (Field α)) : Option (Field α) :=
  fields.find? (fun f => f.name == name)

/-- The one that stays of an earlier field and a new one of the same name. -/
def preferred (earlier : Option (Field α)) (new : Field α) : Field α :=
  match earlier with
  | some f => if f.depth ≤ new.depth then f else new
  | none => new

theorem name_of_named (h : named name fields = some f) : f.name = name := by
  have hname := List.find?_some h
  exact beq_iff_eq.mp hname

theorem named_eq_none_iff : named name fields = none ↔ ∀ f ∈ fields, f.name ≠ name := by
  simp [named, List.find?_eq_none]

theorem named_cons :
    named name (f :: fields) = if f.name = name then some f else named name fields := by
  unfold named
  by_cases h : f.name = name
  · rw [List.find?_cons_of_pos (by simpa using h), if_pos h]
  · rw [List.find?_cons_of_neg (by simpa using h), if_neg h]

theorem preferred_eq_or (f new : Field α) :
    preferred (some f) new = f ∨ preferred (some f) new = new := by
  simp only [preferred]
  split
  · exact .inl rfl
  · exact .inr rfl

theorem preferred_comm (hdepth : f.depth ≠ g.depth) (earlier : Option (Field α)) :
    preferred (some (preferred earlier f)) g = preferred (some (preferred earlier g)) f := by
  cases earlier with
  | none =>
    unfold preferred
    simp only
    split <;> split <;> first | rfl | omega
  | some e =>
    unfold preferred
    simp only
    repeat' split
    all_goals first | rfl | omega

theorem Ordered.pairwise_ne (h : Ordered fields) :
    fields.Pairwise (fun f g => f.name ≠ g.name) := by
  apply List.Pairwise.imp ?_ h
  intro f g hlt heq
  rw [heq] at hlt
  exact String.lt_irrefl g.name hlt

theorem Ordered.named_of_mem (h : Ordered fields) (hf : f ∈ fields) :
    named f.name fields = some f := by
  induction fields with
  | nil => cases hf
  | cons g rest ih =>
    obtain ⟨hfirst, -⟩ := List.pairwise_cons.mp h.pairwise_ne
    rw [named_cons]
    rcases List.mem_cons.mp hf with rfl | hf
    · rw [if_pos rfl]
    · rw [if_neg (hfirst f hf)]
      exact ih (List.pairwise_cons.mp h).2 hf

theorem Ordered.named_eq_some_iff (h : Ordered fields) :
    named name fields = some f ↔ f ∈ fields ∧ f.name = name := by
  constructor
  · intro hnamed
    exact ⟨List.mem_of_find?_eq_some hnamed, name_of_named hnamed⟩
  · rintro ⟨hf, rfl⟩
    exact h.named_of_mem hf

/-- Ordered lists in which the same fields are found are the same. -/
theorem Ordered.ext (h : Ordered fields) (h' : Ordered fields')
    (hnamed : ∀ name, named name fields = named name fields') : fields = fields' := by
  have hmem (f : Field α) : f ∈ fields ↔ f ∈ fields' := by
    have hleft : named f.name fields = some f ↔ f ∈ fields ∧ f.name = f.name := h.named_eq_some_iff
    have hright : named f.name fields' = some f ↔ f ∈ fields' ∧ f.name = f.name :=
      h'.named_eq_some_iff
    rw [hnamed] at hleft
    simpa using hleft.symm.trans hright
  have hnodup {fields : List (Field α)} (h : Ordered fields) : fields.Nodup := by
    apply List.Pairwise.imp ?_ h.pairwise_ne
    intro f g hne heq
    exact hne (congrArg Field.name heq)
  have hperm := (List.perm_ext_iff_of_nodup (hnodup h) (hnodup h')).mpr hmem
  apply hperm.eq_of_pairwise ?_ h h'
  intro f g _ _ hfg hgf
  exact absurd hgf (String.lt_asymm hfg)

theorem enter_cons : enter (f :: fields) new =
    if f.name = new.name then preferred (some f) new :: fields
    else if new.name < f.name then new :: f :: fields
    else f :: enter fields new := rfl

theorem eq_or_mem_of_mem_enter (hf : f ∈ enter fields new) : f = new ∨ f ∈ fields := by
  induction fields with
  | nil => exact .inl (List.mem_singleton.mp hf)
  | cons g rest ih =>
    rw [enter_cons] at hf
    split at hf
    · rcases List.mem_cons.mp hf with rfl | hf
      · rcases preferred_eq_or g new with hstays | hnew
        · exact .inr (by simp [hstays])
        · exact .inl hnew
      · exact .inr (List.mem_cons_of_mem g hf)
    · split at hf
      · exact List.mem_cons.mp hf
      · rcases List.mem_cons.mp hf with rfl | hf
        · exact .inr List.mem_cons_self
        · exact (ih hf).imp_right (List.mem_cons_of_mem g)

theorem Ordered.enter (h : Ordered fields) (new : Field α) : Ordered (Schema.enter fields new) := by
  induction fields with
  | nil => exact List.pairwise_singleton _ new
  | cons f rest ih =>
    obtain ⟨hfirst, hrest⟩ := List.pairwise_cons.mp h
    rw [enter_cons]
    split
    · rename_i heq
      apply List.pairwise_cons.mpr ⟨?_, hrest⟩
      intro g hg
      rcases preferred_eq_or f new with hstays | hnew
      · rw [hstays]
        exact hfirst g hg
      · rw [hnew, ← heq]
        exact hfirst g hg
    · rename_i hne
      split
      · rename_i hlt
        apply List.pairwise_cons.mpr ⟨?_, h⟩
        intro g hg
        rcases List.mem_cons.mp hg with rfl | hg
        · exact hlt
        · exact String.lt_trans hlt (hfirst g hg)
      · rename_i hnot
        apply List.pairwise_cons.mpr ⟨?_, ih hrest⟩
        intro g hg
        rcases eq_or_mem_of_mem_enter hg with rfl | hg
        · apply String.not_le.mp
          intro hle
          exact hne (String.le_antisymm (String.not_lt.mp hnot) hle)
        · exact hfirst g hg

/-- What is found under the name of the entered field is the one of the two that stays. Under other
names the same is found as before. -/
theorem Ordered.named_enter (h : Ordered fields) (new : Field α) (name : String) :
    named name (Schema.enter fields new) =
      if new.name = name then some (preferred (named name fields) new) else named name fields := by
  induction fields with
  | nil => exact named_cons
  | cons f rest ih =>
    obtain ⟨hfirst, hrest⟩ := List.pairwise_cons.mp h
    rw [enter_cons]
    split
    · rename_i heq
      have hname : (preferred (some f) new).name = new.name := by
        rcases preferred_eq_or f new with hstays | hnew
        · rw [hstays, heq]
        · rw [hnew]
      rw [named_cons, named_cons, hname, heq]
      by_cases hentered : new.name = name
      · simp only [if_pos hentered]
      · simp only [if_neg hentered]
    · rename_i hne
      split
      · rename_i hlt
        rw [named_cons]
        by_cases hentered : new.name = name
        · have hnone : named name (f :: rest) = none := by
            apply named_eq_none_iff.mpr
            rintro g hg rfl
            rcases List.mem_cons.mp hg with rfl | hg
            · exact hne hentered.symm
            · rw [hentered] at hlt
              exact String.lt_asymm hlt (hfirst g hg)
          rw [if_pos hentered, if_pos hentered, hnone]
          rfl
        · rw [if_neg hentered, if_neg hentered]
      · rw [named_cons, named_cons, ih hrest]
        by_cases hfound : f.name = name
        · have hother : new.name ≠ name := by
            intro hentered
            exact hne (hfound.trans hentered.symm)
          rw [if_pos hfound, if_neg hother, if_pos hfound]
        · simp only [if_neg hfound]

/-- Two fields may be entered in either order, unless they have the same name and depth. -/
theorem Ordered.enter_comm (h : Ordered fields) (hdepth : f.depth ≠ g.depth) :
    Schema.enter (Schema.enter fields f) g = Schema.enter (Schema.enter fields g) f := by
  apply ((h.enter f).enter g).ext ((h.enter g).enter f)
  intro name
  rw [(h.enter f).named_enter, (h.enter g).named_enter, h.named_enter, h.named_enter]
  by_cases hf : f.name = name
  · by_cases hg : g.name = name
    · simp only [if_pos hf, if_pos hg, preferred_comm hdepth]
    · simp only [if_pos hf, if_neg hg]
  · simp only [if_neg hf]

end Schema

end Sift
