import Mathlib.Order.Bounds.Basic
import Sift.Proofs.Filter.Meaning
import Sift.Proofs.Filter.RoundTrip
import Sift.Proofs.Filter.Splitting

/-!
Filters put together as texts. A text keeps its lexemes in front of a text that does not go on its
last one, so texts in parentheses can be joined by connectives and negated: the result is read to
the expression that is joined from theirs, and needs one more level of depth for the parentheses and
one for a `not`.
-/

namespace Sift

/-- The text does not begin with a character that could go on a lexeme in front of it. -/
def Detached (text : List Char) : Prop :=
  ∀ c, text.head? = some c → Reading.isNamePart c = false ∧ c ≠ '.' ∧ c ≠ '='

theorem Delimited.detached {text : List Char} (h : Delimited text) : Detached text := by
  intro c hc
  rcases h c hc with rfl | rfl <;> decide

theorem isDigit_eq_false_of_isNamePart {c : Char} (h : Reading.isNamePart c = false) :
    c.isDigit = false := by
  simp only [Reading.isNamePart, Char.isAlphanum, Bool.or_eq_false_iff] at h
  exact h.1.2

/-- Two texts one behind the other begin with what the first or the second begins with. -/
theorem forall_head?_append {P : Char → Prop} {rest text : List Char}
    (hrest : ∀ c, rest.head? = some c → P c) (htext : ∀ c, text.head? = some c → P c) :
    ∀ c, (rest ++ text).head? = some c → P c := by
  intro c hc
  cases rest with
  | nil => exact htext c hc
  | cons d rest => exact hrest c hc

theorem Decimal.Stops.append_detached {fraction rest text : List Char}
    (h : Decimal.Stops fraction rest) (htext : Detached text) :
    Decimal.Stops fraction (rest ++ text) where
  digit := forall_head?_append h.digit
    (fun c hc => isDigit_eq_false_of_isNamePart (htext c hc).1)
  point := by
    intro hnil c more heq
    match rest with
    | [] => exact absurd rfl (htext '.' (by simp [show text = _ from heq])).2.1
    | [_] =>
      obtain ⟨-, rfl⟩ := List.cons.inj heq
      exact isDigit_eq_false_of_isNamePart (htext c rfl).1
    | _ :: _ :: rest =>
      obtain ⟨rfl, hcons⟩ := List.cons.inj heq
      obtain ⟨rfl, -⟩ := List.cons.inj hcons
      exact h.point hnil _ rest rfl

/-- A longest piece stays the longest where a detached text follows. -/
theorem Longest.append_detached {c : Char} {piece rest text : List Char}
    (hlexical : Lexical (c :: piece)) (h : Longest (c :: piece) rest) (htext : Detached text) :
    Longest (c :: piece) (rest ++ text) := by
  cases hlexical.kind with
  | parenthesis hc hpiece =>
    subst hpiece
    exact .parenthesis hc
  | quoted hc body hbody hpiece =>
    subst hc hpiece
    exact .quoted body
  | operator hc op hop =>
    rw [← hop] at h ⊢
    refine .operator (fun hprefix => ?_)
    have hrest : ∀ d, rest.head? = some d → d ≠ '=' := by
      rintro d hd rfl
      exact h.head?_ne hprefix hd
    intro hhead
    exact forall_head?_append hrest (fun d hd => (htext d hd).2.2) '=' hhead rfl
  | number hc d hd hspelling =>
    rw [← hspelling] at h ⊢
    exact .number hd ((h.stops hd).append_detached htext)
  | word hc hpiece =>
    exact .word hc (forall_head?_append (h.isNamePart_eq_false hc hpiece)
      (fun d hd => (htext d hd).1))

/-- A text that splits to its end is read as the same tokens in front of a detached text. -/
theorem Splits.scans_append {cursor stop : Cursor} {ls : List Lexeme} (h : Splits cursor ls stop)
    (hstop : stop.rest = []) {text : List Char} {us : List Token} (htext : Detached text)
    (hus : Scans text us) : Scans (cursor.rest ++ text) (ls.map Lexeme.token ++ us) := by
  induction h with
  | blanks hblanks =>
    obtain rfl : _ = [] := hstop
    rw [List.append_nil]
    exact Scans.blanks hblanks hus
  | @lexeme offset blanks rest l ls stop hblanks _ hspelling hlongest _ ih =>
    obtain ⟨token, spelling, position⟩ := l
    obtain ⟨c, piece, rfl⟩ := List.exists_cons_of_ne_nil hspelling.ne_nil
    have hlexical : Lexical (c :: piece) := .inl ⟨token, hspelling⟩
    have hread := Reading.ofText_of_hasSpelling hspelling (hlongest.append_detached hlexical htext)
    have hresult := congrArg Reading.result hread
    have htail : Scans (Reading.ofText c (piece ++ (rest ++ text))).rest
        (ls.map Lexeme.token ++ us) := by
      rw [hread]
      exact ih hstop
    have htokens := Scans.blanks hblanks (Scans.token hlexical.isBlank_eq_false hresult htail)
    simpa using htokens

theorem Spells.of_lexemes {text : String} {ls : List Lexeme} (h : lexemes text = .ok ls) :
    Spells text.toList (ls.map Lexeme.token) := by
  intro rest us hrest hus
  obtain ⟨stop, hstop, hsplits⟩ := exists_splits h
  exact hsplits.scans_append hstop hrest.detached hus

namespace Grammar

theorem Disjunction.Derives.spells {d : Disjunction} {text : String} (h : d.Derives text) :
    Spells text.toList d.tokens := by
  obtain ⟨ls, hlexemes, htokens⟩ := h
  rw [← htokens]
  exact .of_lexemes hlexemes

def Disjunction.group (d : Disjunction) : Unary := .primary (.group d)

def Disjunction.joinAnd (d d' : Disjunction) : Disjunction := (d.group.alone.snoc d'.group).alone

def Disjunction.joinOr (d d' : Disjunction) : Disjunction := d.group.alone.alone.snoc d'.group.alone

def Disjunction.negate (d : Disjunction) : Disjunction := (Unary.not d.group).alone.alone

theorem Disjunction.nesting_joinAnd (d d' : Disjunction) :
    (d.joinAnd d').nesting = max d.nesting d'.nesting + 1 := by
  simp only [joinAnd, Conjunction.nesting_alone, Conjunction.nesting_snoc, Unary.nesting_alone]
  exact Nat.succ_max_succ _ _

theorem Disjunction.nesting_joinOr (d d' : Disjunction) :
    (d.joinOr d').nesting = max d.nesting d'.nesting + 1 := by
  simp only [joinOr, Conjunction.nesting_alone, Disjunction.nesting_snoc, Unary.nesting_alone]
  exact Nat.succ_max_succ _ _

theorem Disjunction.nesting_negate (d : Disjunction) : d.negate.nesting = d.nesting + 2 := by
  simp only [negate, Conjunction.nesting_alone, Unary.nesting_alone]
  rfl

end Grammar

open Grammar

namespace Filter

def andText (text text' : String) : String := "(" ++ text ++ ") and (" ++ text' ++ ")"

def orText (text text' : String) : String := "(" ++ text ++ ") or (" ++ text' ++ ")"

def notText (text : String) : String := "not (" ++ text ++ ")"

section

variable {d d' : Disjunction} {text text' : String}

theorem derives_andText (h : d.Derives text) (h' : d'.Derives text') :
    (d.joinAnd d').Derives (andText text text') := by
  have hspells := (h.spells.parenthesized true).and (h'.spells.parenthesized true)
  apply Disjunction.derives_of_spells
  simpa [andText, parenthesized, Disjunction.joinAnd, Disjunction.group, Unary.tokens,
    Primary.tokens] using hspells

theorem derives_orText (h : d.Derives text) (h' : d'.Derives text') :
    (d.joinOr d').Derives (orText text text') := by
  have hspells := (h.spells.parenthesized true).or (h'.spells.parenthesized true)
  apply Disjunction.derives_of_spells
  simpa [orText, parenthesized, Disjunction.joinOr, Disjunction.group, Unary.tokens,
    Primary.tokens] using hspells

theorem derives_notText (h : d.Derives text) : d.negate.Derives (notText text) := by
  have hspells := (h.spells.parenthesized true).not
  apply Disjunction.derives_of_spells
  simpa [notText, parenthesized, Disjunction.negate, Disjunction.group, Unary.tokens,
    Primary.tokens] using hspells

/-- A sentence that fits the limit on length is read to its expression, or ends in the limit on
depth. -/
theorem parse_of_derives (h : d.Derives text) {limits : Limits}
    (hlength : text.utf8ByteSize ≤ limits.maxLength) :
    Filter.parse text limits =
      if d.nesting ≤ limits.maxDepth then .ok (.expr d.expr)
      else .error (.exceeds .depth limits.maxDepth) := by
  obtain ⟨ls, hlexemes, htokens⟩ := h
  obtain ⟨l, ls, rfl⟩ : ∃ l ls', ls = l :: ls' := by
    apply List.exists_cons_of_ne_nil
    rintro rfl
    exact d.tokens_ne_nil htokens.symm
  rw [Filter.parse, if_neg (Nat.not_lt.mpr hlength), hlexemes]
  change (Expr.ofLexemes limits.maxDepth text.utf8ByteSize (l :: ls)).map Filter.expr = _
  rw [d.ofLexemes_eq htokens, Parse.within]
  split <;> rfl

/-- No limits read a sentence to anything else. -/
theorem eq_expr_of_parse (h : d.Derives text) {limits : Limits} {f : Filter}
    (hparse : Filter.parse text limits = .ok f) : f = .expr d.expr := by
  by_cases hlength : text.utf8ByteSize ≤ limits.maxLength
  · rw [parse_of_derives h hlength] at hparse
    split at hparse
    · cases hparse
      rfl
    · cases hparse
  · rw [Filter.parse, if_pos (Nat.lt_of_not_le hlength)] at hparse
    cases hparse

/-- The limits on depth under which a text is read to an expression. -/
def admittingDepths (text : String) : Set Nat :=
  {n | ∃ limits e, limits.maxDepth = n ∧ Filter.parse text limits = .ok (.expr e)}

/-- The least of them is the nesting of the tree. -/
theorem isLeast_admittingDepths (h : d.Derives text) :
    IsLeast (admittingDepths text) d.nesting := by
  constructor
  · refine ⟨⟨text.utf8ByteSize, d.nesting, 0⟩, d.expr, rfl, ?_⟩
    rw [parse_of_derives h (Nat.le_refl _), if_pos (Nat.le_refl _)]
  · rintro n ⟨limits, e, rfl, hparse⟩
    obtain ⟨-, d', hderives, hnesting, -⟩ := (Filter.parse_eq_ok_expr_iff text limits e).mp hparse
    rwa [h.unique hderives]

end

theorem matchesItem_not {α : Type} (e : Expr) (schema : Schema α) (maxSize : Nat) (item : α) :
    ((Filter.expr (.not e)).matchesItem schema maxSize item).1 =
      ((Filter.expr e).matchesItem schema maxSize item).1.map (fun answer => !answer) := by
  rw [Expr.matchesItem_expr, Expr.matchesItem_expr, Expr.meaning]

/-- Filters can be put together as texts. Whatever two texts are read to, in parentheses they are
joined by the connectives and negated as operands of their own. What is put together takes the depth
of the deeper part and one more for the parentheses, and a `not` takes another one; with less it
ends in the limit. A negated text has the opposite answer on every item, or the same error. -/
theorem parse_joined {text text' : String} {limits limits' : Limits} {e e' : Expr}
    (h : Filter.parse text limits = .ok (.expr e))
    (h' : Filter.parse text' limits' = .ok (.expr e')) :
    ∃ needed needed', IsLeast (admittingDepths text) needed ∧
      IsLeast (admittingDepths text') needed' ∧
      (∀ outer : Limits, (andText text text').utf8ByteSize ≤ outer.maxLength →
        Filter.parse (andText text text') outer =
          if max needed needed' + 1 ≤ outer.maxDepth then .ok (.expr (.and e e'))
          else .error (.exceeds .depth outer.maxDepth)) ∧
      (∀ outer : Limits, (orText text text').utf8ByteSize ≤ outer.maxLength →
        Filter.parse (orText text text') outer =
          if max needed needed' + 1 ≤ outer.maxDepth then .ok (.expr (.or e e'))
          else .error (.exceeds .depth outer.maxDepth)) ∧
      (∀ outer : Limits, (notText text).utf8ByteSize ≤ outer.maxLength →
        Filter.parse (notText text) outer =
          if needed + 2 ≤ outer.maxDepth then .ok (.expr (.not e))
          else .error (.exceeds .depth outer.maxDepth)) ∧
      ∀ (outer : Limits) (negated : Filter), Filter.parse (notText text) outer = .ok negated →
        ∀ {α : Type} (schema : Schema α) (maxSize : Nat) (item : α),
          (negated.matchesItem schema maxSize item).1 =
            ((Filter.expr e).matchesItem schema maxSize item).1.map (fun answer => !answer) := by
  obtain ⟨-, d, hderives, -, rfl⟩ := (Filter.parse_eq_ok_expr_iff text limits e).mp h
  obtain ⟨-, d', hderives', -, rfl⟩ := (Filter.parse_eq_ok_expr_iff text' limits' e').mp h'
  have hnot := derives_notText hderives
  refine ⟨d.nesting, d'.nesting, isLeast_admittingDepths hderives,
    isLeast_admittingDepths hderives', ?_, ?_, ?_, ?_⟩
  · intro outer hlength
    rw [parse_of_derives (derives_andText hderives hderives') hlength,
      Disjunction.nesting_joinAnd]
    rfl
  · intro outer hlength
    rw [parse_of_derives (derives_orText hderives hderives') hlength, Disjunction.nesting_joinOr]
    rfl
  · intro outer hlength
    rw [parse_of_derives hnot hlength, Disjunction.nesting_negate]
    rfl
  · intro outer negated hparse α schema maxSize item
    rw [eq_expr_of_parse hnot hparse]
    exact matchesItem_not d.expr schema maxSize item

/-- The `or` stays in its parentheses and the `)` in its quotes. The `not` in the second text makes
it the deeper one. -/
theorem parse_joined_or_not :
    Filter.parse "(a == null or b == 'or') and ( not c ~ ')' )" { maxDepth := 2 } =
        .ok (.expr (.and (.or (.comparison "a" .eq .null) (.comparison "b" .eq (.text "or")))
          (.not (.comparison "c" .matching (.text ")"))))) ∧
      Filter.parse "(a == null or b == 'or') and ( not c ~ ')' )" { maxDepth := 1 } =
        .error (.exceeds .depth 1) := by
  let ls : List Lexeme :=
    [⟨.not, ['n', 'o', 't'], 1⟩, ⟨.name "c", ['c'], 5⟩, ⟨.operator .matching, ['~'], 7⟩,
      ⟨.text ")", ['\'', ')', '\''], 9⟩]
  let d : Disjunction :=
    (Unary.not (.primary (.comparison "c" .matching (.text ")")))).alone.alone
  have hd : d.Derives " not c ~ ')' " := ⟨ls, by decide +kernel, rfl⟩
  have hleft : Filter.parse "a == null or b == 'or'" { maxDepth := 0 } =
      .ok (.expr (.or (.comparison "a" .eq .null) (.comparison "b" .eq (.text "or")))) := by
    decide +kernel
  have hright : Filter.parse " not c ~ ')' " {} =
      .ok (.expr (.not (.comparison "c" .matching (.text ")")))) := by
    decide +kernel
  obtain ⟨needed, needed', hneeded, hneeded', hand, -⟩ := parse_joined hleft hright
  have hzero : needed ≤ 0 := hneeded.2 ⟨_, _, rfl, hleft⟩
  have hone : needed' = 1 := hneeded'.unique (isLeast_admittingDepths hd)
  have htext : andText "a == null or b == 'or'" " not c ~ ')' " =
      "(a == null or b == 'or') and ( not c ~ ')' )" := by
    decide +kernel
  rw [htext] at hand
  constructor
  · rw [hand { maxDepth := 2 } (by decide), if_pos (by simp; omega)]
  · rw [hand { maxDepth := 1 } (by decide), if_neg (by simp; omega)]

end Filter

end Sift
