import Sift.Proofs.Schema.Composition
import Sift.Proofs.Filter.Meaning
import Sift.Proofs.Text.EditDistance
import Sift.Proofs.Text.Lowercase
import Sift.Proofs.Text.Utf8Order

namespace Sift

namespace Schema

theorem nearest?_eq_none_iff {candidates : List (String × Nat)} :
    nearest? candidates = none ↔ candidates = [] := by
  cases candidates with
  | nil => exact iff_of_true rfl rfl
  | cons candidate rest =>
    rw [nearest?]
    cases nearest? rest with
    | none => simp
    | some best =>
      simp only
      split <;> simp

/-- Those in front of the first of the nearest are farther away, and those behind it are not
nearer. -/
theorem exists_of_nearest? {candidates : List (String × Nat)} {best : String × Nat}
    (h : nearest? candidates = some best) :
    ∃ before after, candidates = before ++ best :: after ∧
      (∀ other ∈ before, best.2 < other.2) ∧ ∀ other ∈ after, best.2 ≤ other.2 := by
  induction candidates generalizing best with
  | nil => cases h
  | cons candidate rest ih =>
    rw [nearest?] at h
    cases hrest : nearest? rest with
    | none =>
      rw [hrest] at h
      cases h
      rw [nearest?_eq_none_iff] at hrest
      exact ⟨[], [], by rw [hrest]; rfl, by simp, by simp⟩
    | some nearer =>
      rw [hrest] at h
      obtain ⟨before, after, rfl, hbefore, hafter⟩ := ih hrest
      simp only at h
      split at h
      · rename_i hlt
        cases h
        exact ⟨candidate :: before, after, rfl, List.forall_mem_cons.mpr ⟨hlt, hbefore⟩, hafter⟩
      · rename_i hnot
        cases h
        have hle : candidate.2 ≤ nearer.2 := Nat.not_lt.mp hnot
        refine ⟨[], before ++ nearer :: after, rfl, by simp, ?_⟩
        rw [List.forall_mem_append, List.forall_mem_cons]
        exact ⟨fun other hother => Nat.le_trans hle (Nat.le_of_lt (hbefore other hother)), hle,
          fun other hother => Nat.le_trans hle (hafter other hother)⟩

def nameDistance (name other : String) : Nat := editDistance (lowercase name) (lowercase other)

section

variable {α β : Type}

/-- The name is one of those that are nearest, and the first of them in the order of bytes. -/
structure Nearest (schema : Schema α) (name c : String) : Prop where
  mem : c ∈ schema.names
  distance_le : ∀ other ∈ schema.names, nameDistance name c ≤ nameDistance name other
  bytes_le : ∀ other ∈ schema.names, nameDistance name other = nameDistance name c →
    c.toUTF8.data.toList ≤ other.toUTF8.data.toList

instance (schema : Schema α) (name c : String) : Decidable (schema.Nearest name c) :=
  decidable_of_iff
    (c ∈ schema.names ∧
      (∀ other ∈ schema.names, nameDistance name c ≤ nameDistance name other) ∧
      ∀ other ∈ schema.names, nameDistance name other = nameDistance name c →
        c.toUTF8.data.toList ≤ other.toUTF8.data.toList)
    ⟨fun h => ⟨h.1, h.2.1, h.2.2⟩, fun h => ⟨h.mem, h.distance_le, h.bytes_le⟩⟩

theorem toUTF8_le_iff {a b : String} : a.toUTF8.data.toList ≤ b.toUTF8.data.toList ↔ a ≤ b := by
  rw [← String.not_lt, ← Utf8.toUTF8_lt_iff]
  exact List.not_lt.symm

theorem Nearest.unique {schema : Schema α} {name c c' : String} (h : schema.Nearest name c)
    (h' : schema.Nearest name c') : c = c' := by
  have hdistance : nameDistance name c = nameDistance name c' :=
    Nat.le_antisymm (h.distance_le c' h'.mem) (h'.distance_le c h.mem)
  exact String.le_antisymm (toUTF8_le_iff.mp (h.bytes_le c' h'.mem hdistance.symm))
    (toUTF8_le_iff.mp (h'.bytes_le c h.mem hdistance))

/-- Schemas with the same names have the same nearest name. -/
theorem Nearest.of_names {schema : Schema α} {schema' : Schema β}
    (hnames : ∀ c, c ∈ schema.names ↔ c ∈ schema'.names) {name c : String}
    (h : schema.Nearest name c) : schema'.Nearest name c where
  mem := (hnames c).mp h.mem
  distance_le other hother := h.distance_le other ((hnames other).mpr hother)
  bytes_le other hother := h.bytes_le other ((hnames other).mpr hother)

/-- Of names in order the first one that is nearest is found. -/
theorem nearest_of_nearest? {schema : Schema α} (hordered : schema.names.Pairwise (· < ·))
    {name best : String} {distance : Nat}
    (h : nearest? (schema.names.map (fun c => (c, nameDistance name c))) = some (best, distance)) :
    schema.Nearest name best ∧ distance = nameDistance name best := by
  obtain ⟨before, after, hcandidates, hbefore, hafter⟩ := exists_of_nearest? h
  obtain ⟨front, rest, hnames, rfl, hrest⟩ := List.map_eq_append_iff.mp hcandidates
  obtain ⟨c, behind, rfl, hc, rfl⟩ := List.map_eq_cons_iff.mp hrest
  obtain ⟨rfl, rfl⟩ := Prod.mk.inj hc
  have hfarther : ∀ other ∈ front, nameDistance name c < nameDistance name other := by
    intro other hother
    exact hbefore _ (List.mem_map_of_mem hother)
  have hnotNearer : ∀ other ∈ behind, nameDistance name c ≤ nameDistance name other := by
    intro other hother
    exact hafter _ (List.mem_map_of_mem hother)
  rw [hnames] at hordered
  obtain ⟨-, hlater, -⟩ := List.pairwise_append.mp hordered
  refine ⟨⟨by simp [hnames], ?_, ?_⟩, rfl⟩
  · rw [hnames, List.forall_mem_append, List.forall_mem_cons]
    exact ⟨fun other hother => Nat.le_of_lt (hfarther other hother), Nat.le_refl _, hnotNearer⟩
  · rw [hnames, List.forall_mem_append, List.forall_mem_cons]
    refine ⟨?_, ?_, ?_⟩
    · intro other hother hsame
      exact absurd hsame (Nat.ne_of_gt (hfarther other hother))
    · intro _
      exact List.le_refl _
    · intro other hother _
      have hlt := (List.pairwise_cons.mp hlater).1 other hother
      exact toUTF8_le_iff.mpr (String.not_lt.mp (String.lt_asymm hlt))

theorem suggest_eq (schema : Schema α) (name : String) :
    schema.suggest name =
      (nearest? (schema.names.map (fun c => (c, nameDistance name c)))).bind
        (fun best => if best.1 ≠ name ∧ best.2 ≤ 3 then some best.1 else none) := by
  rw [suggest]
  simp only [nameDistance]
  cases nearest? _ <;> rfl

theorem suggest_eq_some_iff {schema : Schema α} (hordered : schema.names.Pairwise (· < ·))
    (name c : String) :
    schema.suggest name = some c ↔
      schema.Nearest name c ∧ nameDistance name c ≤ 3 ∧ c ≠ name := by
  rw [suggest_eq]
  cases hnearest : nearest? (schema.names.map (fun c => (c, nameDistance name c))) with
  | none =>
    rw [nearest?_eq_none_iff, List.map_eq_nil_iff] at hnearest
    constructor
    · intro h
      cases h
    · rintro ⟨h, -⟩
      have hmem := h.mem
      rw [hnearest] at hmem
      cases hmem
  | some best =>
    obtain ⟨best, distance⟩ := best
    obtain ⟨hbest, rfl⟩ := nearest_of_nearest? hordered hnearest
    rw [Option.bind_some]
    constructor
    · intro h
      split at h
      · rename_i hsuggested
        cases h
        exact ⟨hbest, hsuggested.2, hsuggested.1⟩
      · cases h
    · rintro ⟨h, hdistance, hne⟩
      obtain rfl := hbest.unique h
      rw [if_pos ⟨hne, hdistance⟩]

theorem pairwise_names (declarations : Declarations α) :
    (ofDeclarations declarations).names.Pairwise (· < ·) :=
  List.pairwise_map.mpr (ordered_ofDeclarations declarations)

theorem not_mem_names_of_resolve {declarations : Declarations α} {name : String}
    (h : (ofDeclarations declarations).resolve name = none) :
    name ∉ (ofDeclarations declarations).names := by
  rw [mem_names_ofDeclarations_iff, ← resolve_ofDeclarations_isSome_iff, h]
  simp

/-- If there are any names, one is the nearest. -/
theorem exists_nearest (declarations : Declarations α) (name : String) {c : String}
    (hc : c ∈ (ofDeclarations declarations).names) :
    ∃ best, (ofDeclarations declarations).Nearest name best := by
  cases hnearest : nearest?
      ((ofDeclarations declarations).names.map (fun c => (c, nameDistance name c))) with
  | none =>
    rw [nearest?_eq_none_iff, List.map_eq_nil_iff] at hnearest
    rw [hnearest] at hc
    cases hc
  | some best => exact ⟨best.1, (nearest_of_nearest? (pairwise_names declarations) hnearest).1⟩

theorem nameDistance_eq_zero {name c : String} (hcase : c.toLower = name.toLower)
    (hsigma : 'Σ' ∉ name.toList) : nameDistance name c = 0 := by
  rw [nameDistance, lowercase_eq_of_toLower_eq hcase.symm hsigma, editDistance_self]

/-- The name that is suggested for another one is the field name that is nearest to it by the least
number of edits, case left aside, and of those that are equally near the first in the order of
bytes. Capital letters count as their small letters, so a name that differs in the case of ASCII
letters only is no edit away; of a capital sigma the letters around it decide what it counts as. The
name is suggested if it is within three edits and is not the other name itself. So a name that is
not there gets a suggestion exactly if some field name is that near, and it is a name that is there.
The set of the field names determines the suggestion, whatever declares them and in whatever
order. -/
theorem suggests_nearest (declarations : Declarations α) (name : String) :
    IsLowerCase lowercase ∧
    (∀ c, IsLeast {n | Edits n (lowercase name) (lowercase c)} (nameDistance name c)) ∧
    (∀ c, c.toLower = name.toLower → 'Σ' ∉ name.toList → nameDistance name c = 0) ∧
    (∀ c, (ofDeclarations declarations).suggest name = some c ↔
      (ofDeclarations declarations).Nearest name c ∧ nameDistance name c ≤ 3 ∧ c ≠ name) ∧
    ((ofDeclarations declarations).resolve name = none →
      (((ofDeclarations declarations).suggest name).isSome ↔
        ∃ c ∈ (ofDeclarations declarations).names, nameDistance name c ≤ 3) ∧
      ∀ (op : Operator) (literal : Literal) (maxSize : Nat) (item : α),
        ((Filter.expr (.comparison name op literal)).matchesItem (ofDeclarations declarations)
          maxSize item).1 =
            .error (.mismatch name
              (.noSuchField ((ofDeclarations declarations).suggest name)))) ∧
    (∀ c, (ofDeclarations declarations).suggest name = some c →
      ((ofDeclarations declarations).resolve c).isSome) ∧
    ∀ {β : Type} (declarations' : Declarations β),
      (∀ c, c ∈ (ofDeclarations declarations).names ↔ c ∈ (ofDeclarations declarations').names) →
      (ofDeclarations declarations).suggest name = (ofDeclarations declarations').suggest name := by
  have hsuggest := suggest_eq_some_iff (pairwise_names declarations) name
  refine ⟨isLowerCase_lowercase, fun c => isLeast_editDistance _ _,
    fun c => nameDistance_eq_zero, hsuggest, ?_, ?_, ?_⟩
  · intro hresolve
    constructor
    · rw [Option.isSome_iff_exists]
      constructor
      · rintro ⟨c, hc⟩
        obtain ⟨hnearest, hdistance, -⟩ := (hsuggest c).mp hc
        exact ⟨c, hnearest.mem, hdistance⟩
      · rintro ⟨c, hc, hdistance⟩
        obtain ⟨best, hbest⟩ := exists_nearest declarations name hc
        have hne : best ≠ name := by
          rintro rfl
          exact not_mem_names_of_resolve hresolve hbest.mem
        exact ⟨best, (hsuggest best).mpr
          ⟨hbest, Nat.le_trans (hbest.distance_le c hc) hdistance, hne⟩⟩
    · intro op literal maxSize item
      rw [Expr.matchesItem_expr, Expr.meaning, comparand, hresolve]
      rfl
  · intro c hc
    rw [resolve_ofDeclarations_isSome_iff, ← mem_names_ofDeclarations_iff]
    exact ((hsuggest c).mp hc).1.mem
  · intro β declarations' hnames
    apply Option.ext
    intro c
    rw [hsuggest, suggest_eq_some_iff (pairwise_names declarations')]
    apply and_congr_left'
    exact ⟨fun h => h.of_names hnames, fun h => h.of_names (fun c => (hnames c).symm)⟩

end

/-- Items under names of two alphabets, one of them with a capital. -/
def tagged : Declarations String :=
  .field ⟨"name", none, none⟩ (.scalar .string id)
    (.field ⟨"tag", none, none⟩ (.scalar .string id)
      (.field ⟨"Tab", none, none⟩ (.scalar .string id)
        (.field ⟨"été", none, none⟩ (.scalar .string id) .nil)))

def taggedLast : Declarations String :=
  .field ⟨"été", none, none⟩ (.scalar .string id)
    (.field ⟨"Tab", none, none⟩ (.scalar .string id)
      (.field ⟨"name", none, none⟩ (.scalar .string id)
        (.field ⟨"tag", none, none⟩ (.scalar .string id) .nil)))

/-- Two names are one letter away from the first lookup, and the first of them in the order of bytes
is declared after the other. The capitals of the other lookups are no edits. The last lookup is too
far away from every name. -/
theorem suggests_nearest_tagged :
    (∃ c, (ofDeclarations tagged).suggest "TAD" = some c ∧
      ((ofDeclarations tagged).resolve c).isSome) ∧
    (ofDeclarations tagged).suggest "TAD" = some "Tab" ∧
    (ofDeclarations taggedLast).suggest "TAD" = some "Tab" ∧
    nameDistance "NAME" "name" = 0 ∧
    (ofDeclarations tagged).suggest "NAME" = some "name" ∧
    (ofDeclarations tagged).suggest "ÉTÉS" = some "été" ∧
    (ofDeclarations tagged).suggest "TAGGINGS" = none ∧
    lowercase "TAD" = ['t', 'a', 'd'] ∧ lowercase "É" = ['é'] := by
  have htab : (ofDeclarations tagged).suggest "TAD" = some "Tab" := by
    obtain ⟨-, -, -, hsuggest, -⟩ := suggests_nearest tagged "TAD"
    exact (hsuggest "Tab").mpr (by decide +kernel)
  obtain ⟨hlower, -⟩ := suggests_nearest tagged "TAD"
  refine ⟨?_, htab, ?_, ?_, ?_, ?_, ?_, ?_, ?_⟩
  · obtain ⟨-, -, -, -, hunknown, hresolves, -⟩ := suggests_nearest tagged "TAD"
    have hclose : ∃ c ∈ (ofDeclarations tagged).names, nameDistance "TAD" c ≤ 3 :=
      ⟨"tag", by decide +kernel, by decide +kernel⟩
    obtain ⟨c, hc⟩ := Option.isSome_iff_exists.mp ((hunknown rfl).1.mpr hclose)
    exact ⟨c, hc, hresolves c hc⟩
  · obtain ⟨-, -, -, -, -, -, hsame⟩ := suggests_nearest tagged "TAD"
    have hnames : (ofDeclarations tagged).names = (ofDeclarations taggedLast).names := by
      decide +kernel
    rw [← hsame taggedLast (fun c => by rw [hnames]), htab]
  · obtain ⟨-, -, hcase, -⟩ := suggests_nearest tagged "NAME"
    have hsame : "name".toLower = "NAME".toLower := by
      rw [← String.toList_inj, toList_toLower, toList_toLower]
      decide
    exact hcase "name" hsame (by decide)
  · obtain ⟨-, -, -, hsuggest, -⟩ := suggests_nearest tagged "NAME"
    exact (hsuggest "name").mpr (by decide +kernel)
  · obtain ⟨-, -, -, hsuggest, -⟩ := suggests_nearest tagged "ÉTÉS"
    exact (hsuggest "été").mpr (by decide +kernel)
  · obtain ⟨-, -, -, -, hunknown, -⟩ := suggests_nearest tagged "TAGGINGS"
    have hfar : ¬ ∃ c ∈ (ofDeclarations tagged).names, nameDistance "TAGGINGS" c ≤ 3 := by
      decide +kernel
    rwa [← (hunknown rfl).1, Option.not_isSome_iff_eq_none] at hfar
  · rw [hlower.ascii "TAD" (by simp), toList_toLower]
    decide
  · exact hlower.alphabet ⟨'À', 'Ö', 32⟩ (by simp [Unicode.alphabets]) 'É' (by decide) (by decide)

end Schema

end Sift
