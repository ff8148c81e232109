import Mathlib.Control.Monad.Basic
import Sift.Filter.Printer
import Sift.Params
import Sift.Proofs.QueryString.Serializing

/-!
The parameters in a query string. However pairs are written, each known key has the value that it
was given, and it is an error to give one twice. Other keys have no part in this.
-/

namespace Sift.Params

theorem Key.ofName?_eq_some_iff {name : String} {key : Key} :
    Key.ofName? name = some key ↔ key.name = name := by
  constructor
  · intro h
    have hname := List.find?_some h
    exact beq_iff_eq.mp hname
  · rintro rfl
    cases key <;> rfl

theorem Key.name_inj {key key' : Key} (h : key.name = key'.name) : key = key' := by
  have hkey : Key.ofName? key'.name = some key := ofName?_eq_some_iff.mpr h
  rw [ofName?_eq_some_iff.mpr rfl] at hkey
  exact (Option.some.inj hkey).symm

theorem get_set (params : Params) (value : String) (key key' : Key) :
    (params.set value key).get key' = if key' = key then some value else params.get key' := by
  cases key <;> cases key' <;> rfl

theorem get_empty (key : Key) : ({} : Params).get key = none := by
  cases key <;> rfl

theorem ext_get {params params' : Params} (h : ∀ key, params.get key = params'.get key) :
    params = params' := by
  cases params
  cases params'
  simp only [mk.injEq]
  exact ⟨h .filter, h .orderBy, h .fields, h .limit, h .offset, h .pageToken⟩

/-- What entering a pair can do. -/
theorem enter_cases (params : Params) (pair : String × String) :
    ((∀ key : Key, pair.1 ≠ key.name) ∧ params.enter pair = .ok params) ∨
    ∃ key : Key, pair.1 = key.name ∧
      ((∃ value, params.get key = some value ∧ params.enter pair = .error ⟨key⟩) ∨
        params.get key = none ∧ params.enter pair = .ok (params.set pair.2 key)) := by
  unfold enter
  cases hkey : Key.ofName? pair.1 with
  | none =>
    refine .inl ⟨?_, rfl⟩
    intro key hname
    rw [Key.ofName?_eq_some_iff.mpr hname.symm] at hkey
    cases hkey
  | some key =>
    refine .inr ⟨key, (Key.ofName?_eq_some_iff.mp hkey).symm, ?_⟩
    cases hget : params.get key with
    | none => exact .inr ⟨rfl, by simp [hget]⟩
    | some value => exact .inl ⟨value, rfl, by simp [hget]⟩

/-- How often a key is given, by parameters that are there and by pairs. -/
def timesGiven (params : Params) (pairs : List (String × String)) (key : Key) : Nat :=
  (params.get key).toList.length + pairs.countP (fun p => p.1 = key.name)

theorem timesGiven_empty (pairs : List (String × String)) (key : Key) :
    ({} : Params).timesGiven pairs key = pairs.countP (fun p => p.1 = key.name) := by
  rw [timesGiven, get_empty, Option.toList_none, List.length_nil, Nat.zero_add]

/-- Entering a pair does not change how often a key is given. -/
theorem timesGiven_set {params : Params} {pair : String × String} {key : Key}
    (hname : pair.1 = key.name) (hget : params.get key = none) (pairs : List (String × String))
    (key' : Key) :
    (params.set pair.2 key).timesGiven pairs key' = params.timesGiven (pair :: pairs) key' := by
  unfold timesGiven
  rw [get_set, List.countP_cons]
  by_cases hkey : key' = key
  · rw [hkey, if_pos rfl, hget, if_pos (by simpa using hname), Option.toList_some,
      Option.toList_none, List.length_singleton, List.length_nil]
    omega
  · have hother : ¬pair.1 = key'.name := by
      intro heq
      exact hkey (Key.name_inj (heq.symm.trans hname))
    rw [if_neg hkey, if_neg (by simpa using hother)]
    omega

/-- Nor does it change which values a key is given. -/
theorem get_set_or_mem {params : Params} {pair : String × String} {key : Key}
    (hname : pair.1 = key.name) (hget : params.get key = none) (pairs : List (String × String))
    (key' : Key) (value : String) :
    (params.set pair.2 key).get key' = some value ∨ (key'.name, value) ∈ pairs ↔
      params.get key' = some value ∨ (key'.name, value) ∈ pair :: pairs := by
  rw [get_set, List.mem_cons]
  by_cases hkey : key' = key
  · subst hkey
    have hpair : (key'.name, value) = pair ↔ some pair.2 = some value := by
      constructor
      · rintro rfl
        rfl
      · intro hvalue
        exact Prod.ext hname.symm (Option.some.inj hvalue).symm
    rw [if_pos rfl, hget, hpair]
    simp
  · have hpair : (key'.name, value) ≠ pair := by
      rintro rfl
      exact hkey (Key.name_inj hname)
    rw [if_neg hkey, or_iff_right hpair]

/-- Pairs are entered if no key is given twice, and then the parameters have the values of the pairs
besides those that they had. Otherwise the error is about a key that is given twice. -/
theorem foldlM_enter (params : Params) (pairs : List (String × String)) :
    (∃ params', pairs.foldlM enter params = .ok params' ∧
      (∀ key, params.timesGiven pairs key ≤ 1) ∧
      ∀ key value, params'.get key = some value ↔
        params.get key = some value ∨ (key.name, value) ∈ pairs) ∨
    ∃ key, pairs.foldlM enter params = .error ⟨key⟩ ∧ 2 ≤ params.timesGiven pairs key := by
  induction pairs generalizing params with
  | nil =>
    refine .inl ⟨params, rfl, ?_, by simp⟩
    intro key
    cases hget : params.get key <;> simp [timesGiven, hget]
  | cons pair pairs ih =>
    rw [List.foldlM_cons]
    rcases params.enter_cases pair with ⟨hunknown, henter⟩ | ⟨key, hname, htwice | hfree⟩
    · -- An unknown key counts for none.
      have htimes (key : Key) :
          params.timesGiven (pair :: pairs) key = params.timesGiven pairs key := by
        rw [timesGiven, List.countP_cons_of_neg (by simpa using hunknown key), timesGiven]
      have hmem (key : Key) (value : String) :
          (key.name, value) ∈ pair :: pairs ↔ (key.name, value) ∈ pairs := by
        rw [List.mem_cons, or_iff_right]
        rintro rfl
        exact hunknown key rfl
      simp only [henter, htimes, hmem]
      exact ih params
    · obtain ⟨value, hget, henter⟩ := htwice
      refine .inr ⟨key, by rw [henter]; rfl, ?_⟩
      rw [timesGiven, hget, List.countP_cons_of_pos (by simpa using hname), Option.toList_some,
        List.length_singleton]
      omega
    · obtain ⟨hget, henter⟩ := hfree
      simp only [henter, ← timesGiven_set hname hget, ← get_set_or_mem hname hget]
      exact ih (params.set pair.2 key)

/-- A question mark in front of a query string is passed over, and there is none within it. -/
theorem ofQuery_of_writes {pairs : List (String × String)} {text : List Char}
    (h : QueryString.Writes pairs text) {query : String}
    (hquery : query.toList = text ∨ query.toList = '?' :: text) :
    ofQuery query = pairs.foldlM enter {} := by
  have hpairs := h.pairs_eq
  unfold ofQuery
  split
  · rename_i rest hmark
    rcases hquery with hquery | hquery
    · rw [← hquery, hmark] at h
      exact absurd List.mem_cons_self h.not_mem
    · rw [hquery] at hmark
      cases hmark
      exact congrArg (List.foldlM enter {}) hpairs
  · rename_i hmark
    rcases hquery with hquery | hquery
    · rw [← hquery, String.ofList_toList] at hpairs
      exact congrArg (List.foldlM enter {}) hpairs
    · exact absurd hquery (hmark text)

/-- If no known key is given twice, the parameters have the values of the pairs. -/
theorem exists_ofQuery_eq_ok {pairs : List (String × String)} {text : List Char}
    (h : QueryString.Writes pairs text) {query : String}
    (hquery : query.toList = text ∨ query.toList = '?' :: text)
    (honce : ∀ key : Key, pairs.countP (fun p => p.1 = key.name) ≤ 1) :
    ∃ params, ofQuery query = .ok params ∧
      ∀ key value, params.get key = some value ↔ (key.name, value) ∈ pairs := by
  rw [ofQuery_of_writes h hquery]
  rcases foldlM_enter {} pairs with ⟨params, hparams, -, hget⟩ | ⟨key, -, htwice⟩
  · refine ⟨params, hparams, ?_⟩
    intro key value
    rw [hget, get_empty]
    simp
  · have hkey := honce key
    rw [timesGiven_empty] at htwice
    omega

theorem exists_ofQuery_eq_error {pairs : List (String × String)} {text : List Char}
    (h : QueryString.Writes pairs text) {query : String}
    (hquery : query.toList = text ∨ query.toList = '?' :: text) {key : Key}
    (htwice : 2 ≤ pairs.countP (fun p => p.1 = key.name)) :
    ∃ key : Key, ofQuery query = .error ⟨key⟩ ∧ 2 ≤ pairs.countP (fun p => p.1 = key.name) := by
  rw [ofQuery_of_writes h hquery]
  rcases foldlM_enter {} pairs with ⟨params, -, honce, -⟩ | ⟨key', herror, htwice'⟩
  · have hkey := honce key
    rw [timesGiven_empty] at hkey
    omega
  · rw [timesGiven_empty] at htwice'
    exact ⟨key', herror, htwice'⟩

/-- Among the pairs of known keys are all pairs of a known key. -/
theorem mem_filter_known {pairs : List (String × String)} (key : Key) (value : String) :
    (key.name, value) ∈ pairs.filter (fun p => (Key.ofName? p.1).isSome) ↔
      (key.name, value) ∈ pairs := by
  rw [List.mem_filter, Key.ofName?_eq_some_iff.mpr rfl]
  simp

theorem countP_filter_known (pairs : List (String × String)) (key : Key) :
    (pairs.filter (fun p => (Key.ofName? p.1).isSome)).countP (fun p => p.1 = key.name) =
      pairs.countP (fun p => p.1 = key.name) := by
  rw [List.countP_filter]
  apply List.countP_congr
  intro p _
  have hknown (hname : p.1 = key.name) : (Key.ofName? p.1).isSome = true := by
    rw [Key.ofName?_eq_some_iff.mpr hname.symm]
    rfl
  simpa using hknown

/-- However pairs are written as a query string, with or without a question mark in front, the
parameters have the values of the known keys and no others, if none of these keys is given twice;
otherwise it is an error. So neither the order of the pairs nor the pairs of other keys matter, and
the text of a filter that can be read is read as it was sent. -/
theorem ofQuery_writes {pairs : List (String × String)} {text : List Char}
    (hwrites : QueryString.Writes pairs text) {query : String}
    (hquery : query.toList = text ∨ query.toList = '?' :: text) :
    QueryString.Writes pairs (QueryString.serialize pairs) ∧
    ((∃ key : Key, 2 ≤ pairs.countP (fun p => p.1 = key.name)) →
      ∃ key : Key, ofQuery query = .error ⟨key⟩ ∧ 2 ≤ pairs.countP (fun p => p.1 = key.name)) ∧
    ((∀ key : Key, pairs.countP (fun p => p.1 = key.name) ≤ 1) →
      ∃ params, ofQuery query = .ok params ∧
        (∀ key value, params.get key = some value ↔ (key.name, value) ∈ pairs) ∧
        (∀ pairs' text' query', QueryString.Writes pairs' text' →
          (query'.toList = text' ∨ query'.toList = '?' :: text') →
          (pairs'.filter (fun p => (Key.ofName? p.1).isSome)).Perm
            (pairs.filter (fun p => (Key.ofName? p.1).isSome)) →
          ofQuery query' = .ok params) ∧
        ∀ (filter : Filter) (limits : Limits),
          (∃ g, Filter.parse (toString filter) limits = .ok g ∧ g.sameValue filter = true) →
          (Key.filter.name, toString filter) ∈ pairs →
          ∃ g, params.parseFilter limits = .ok g ∧ g.sameValue filter = true) := by
  refine ⟨QueryString.writes_serialize pairs, ?_, ?_⟩
  · rintro ⟨key, htwice⟩
    exact exists_ofQuery_eq_error hwrites hquery htwice
  · intro honce
    obtain ⟨params, hparams, hget⟩ := exists_ofQuery_eq_ok hwrites hquery honce
    refine ⟨params, hparams, hget, ?_, ?_⟩
    · intro pairs' text' query' hwrites' hquery' hperm
      have honce' (key : Key) : pairs'.countP (fun p => p.1 = key.name) ≤ 1 := by
        rw [← countP_filter_known, hperm.countP_eq, countP_filter_known]
        exact honce key
      obtain ⟨params', hparams', hget'⟩ := exists_ofQuery_eq_ok hwrites' hquery' honce'
      have hsame : params' = params := by
        apply ext_get
        intro key
        apply Option.ext
        intro value
        rw [hget', hget, ← mem_filter_known, hperm.mem_iff, mem_filter_known]
      rw [hparams', hsame]
    · rintro filter limits ⟨g, hparse, hsame⟩ hmem
      have hfilter : params.filter = some (toString filter) := (hget .filter _).mpr hmem
      refine ⟨g, ?_, hsame⟩
      rw [parseFilter, hfilter]
      exact hparse

/-- A filter with an ampersand, between a key without a value and keys that have no meaning. -/
theorem ofQuery_writes_ampersand :
    let query := "?_limit=&%3F_filter=1&_filter=name+%3D%3D+%27a%26b%27&%3F_filter=2"
    let filter : Filter := .expr (.comparison "name" .eq (.text "a&b"))
    (∃ params, ofQuery query = .ok params ∧
      params.limit = some "" ∧ params.offset = none ∧
      ofQuery "_filter=name+%3D%3D+%27a%26b%27&_limit=" = .ok params ∧
      ∃ g, params.parseFilter {} = .ok g ∧ g.sameValue filter = true) ∧
    ∃ key : Key, ofQuery (query ++ "&_limit=2") = .error ⟨key⟩ := by
  intro query filter
  have htext : toString filter = "name == 'a&b'" := by decide +kernel
  have hparse : Filter.parse (toString filter) {} = .ok filter := by
    rw [htext]
    decide +kernel
  let pairs :=
    [("_limit", ""), ("?_filter", "1"), ("_filter", toString filter), ("?_filter", "2")]
  constructor
  · have hquery : query.toList = '?' :: QueryString.serialize pairs := by decide +kernel
    obtain ⟨params, hparams, hget, hother, hfilter⟩ :=
      (ofQuery_writes (QueryString.writes_serialize pairs) (.inr hquery)).2.2
        (by intro key; cases key <;> decide +kernel)
    refine ⟨params, hparams, (hget .limit "").mpr (by simp [pairs, Key.name]), ?_, ?_, ?_⟩
    · apply Option.eq_none_iff_forall_ne_some.mpr
      intro value hvalue
      have hmem := (hget .offset value).mp hvalue
      simp [pairs, Key.name] at hmem
    · exact hother _ _ _ (QueryString.writes_serialize
        [("_filter", toString filter), ("_limit", "")]) (.inl (by decide +kernel))
        (by rw [htext]; decide +kernel)
    · exact hfilter filter {} ⟨filter, hparse, by decide +kernel⟩ (by simp [pairs, Key.name])
  · have hquery : (query ++ "&_limit=2").toList =
        '?' :: QueryString.serialize (pairs ++ [("_limit", "2")]) := by decide +kernel
    obtain ⟨key, herror, -⟩ := (ofQuery_writes (QueryString.writes_serialize _) (.inr hquery)).2.1
      ⟨.limit, by decide +kernel⟩
    exact ⟨key, herror⟩

end Sift.Params
