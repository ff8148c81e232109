import Sift.Proofs.Filter.Recognition

namespace Sift

namespace Parse

/-- The lexemes lead from one place to another where the limit on depth leaves room for them. -/
def Reaches (p : Parse) (ls : List Lexeme) (q : Parse) : Prop :=
  ∃ maxDepth, ls.foldlM (step maxDepth) p = .ok q

end Parse

namespace Grammar

open Parse

def bare (token : Token) : Lexeme := ⟨token, [], 0⟩

theorem map_token_bare (ts : List Token) : (ts.map bare).map Lexeme.token = ts := by
  rw [List.map_map]
  exact List.map_id ts

/-- Some sentence begins with the tokens. -/
def Viable (ts : List Token) : Prop := ∃ d : Disjunction, ts <+: d.tokens

theorem Viable.of_append {ts : List Token} (ts' : List Token) (h : Viable (ts ++ ts')) :
    Viable ts := by
  obtain ⟨d, hprefix⟩ := h
  exact ⟨d, (List.prefix_append ts ts').trans hprefix⟩

/-- Where an operand has been read, closing all parentheses makes a sentence. -/
theorem exists_closed {disjuncts : Option Expr} {conjuncts : Expr}
    {enclosing : List (Lexeme × Level)} {outer inner : List Token}
    (houter : ReadEnclosing enclosing outer)
    (hinner : ReadInnermost (.connective disjuncts conjuncts) inner) :
    ∃ d : Disjunction,
      d.tokens = outer ++ inner ++ List.replicate enclosing.length .rparen := by
  induction enclosing generalizing disjuncts conjuncts outer inner with
  | nil =>
    obtain rfl : outer = [] := houter
    obtain ⟨before, c, hor, -, rfl⟩ := hinner
    obtain ⟨d, -, htokens⟩ := exists_disjunction hor c
    exact ⟨d, by simp [htokens]⟩
  | cons opening enclosing ih =>
    obtain ⟨before, c, hor, -, rfl⟩ := hinner
    obtain ⟨d, -, htokens⟩ := exists_disjunction hor c
    obtain ⟨outer', level, houter', hlevel, rfl⟩ := houter
    obtain ⟨d', hclosed⟩ := ih houter' (readInnermost_connective hlevel (.group d))
    refine ⟨d', ?_⟩
    simp only [Primary.tokens, htokens] at hclosed
    simp [hclosed, List.replicate_succ]

theorem viable_of_connective {disjuncts : Option Expr} {conjuncts : Expr}
    {enclosing : List (Lexeme × Level)} {outer inner : List Token}
    (houter : ReadEnclosing enclosing outer)
    (hinner : ReadInnermost (.connective disjuncts conjuncts) inner) : Viable (outer ++ inner) := by
  obtain ⟨d, hclosed⟩ := exists_closed houter hinner
  refine ⟨d, ?_⟩
  rw [hclosed]
  exact List.prefix_append (outer ++ inner) _

/-- What has been read can be completed to a sentence. -/
theorem ReadSoFar.viable {p : Parse} {ts : List Token} (h : ReadSoFar p ts) : Viable ts := by
  obtain ⟨awaiting, enclosing⟩ := p
  obtain ⟨outer, inner, houter, hinner, rfl⟩ := h
  -- A comparison that has not been read to its end is completed with whatever fits.
  have hcompleted {level : Level} {before : List Token} (hlevel : ReadLevel level before)
      (field : String) (op : Operator) :
      Viable (outer ++ (before ++ [.name field, .operator op, .null])) :=
    viable_of_connective houter (readInnermost_connective hlevel (.comparison field op .null))
  cases awaiting with
  | operand level =>
    have h := hcompleted hinner "a" .eq
    rw [← List.append_assoc] at h
    exact h.of_append _
  | operator level field =>
    obtain ⟨before, hlevel, rfl⟩ := hinner
    have h := hcompleted hlevel field .eq
    apply Viable.of_append [.operator .eq, .null]
    simpa using h
  | literal level field op =>
    obtain ⟨before, hlevel, rfl⟩ := hinner
    have h := hcompleted hlevel field op
    apply Viable.of_append [.null]
    simpa using h
  | connective disjuncts conjuncts => exact viable_of_connective houter hinner

/-- The reader gets through some lexemes, if nothing limits its depth, exactly if a sentence begins
with their tokens. -/
theorem viable_iff_reaches (ls : List Lexeme) :
    Viable (ls.map Lexeme.token) ↔ ∃ q, Reaches Parse.start ls q := by
  constructor
  · rintro ⟨d, rest, htokens⟩
    have hls : (ls ++ rest.map bare).map Lexeme.token = d.tokens := by
      rw [← htokens, List.map_append, map_token_bare]
    obtain ⟨disjuncts, conjuncts, -, hreads⟩ := d.reads [] hls (Nat.zero_le d.nesting)
    unfold Reads at hreads
    rw [List.foldlM_append, within_of_le (by simp [depth, Level.empty]), bind_eq_ok_iff] at hreads
    obtain ⟨q, hfold, -⟩ := hreads
    exact ⟨q, d.nesting, hfold⟩
  · rintro ⟨q, maxDepth, hfold⟩
    exact (readSoFar_foldlM readSoFar_start hfold).viable

end Grammar

end Sift
