import Sift.Proofs.Filter.BooleanLaws

/-!
The log of a pass. Evaluating a filter on an item logs the patterns that it reaches, each once, and
then the failure, if there is one. What a pass has kept shortens the log by the patterns that are
in it already, and changes nothing else: so the log of a selection is what the items log by
themselves, one after the other, without the repetitions.
-/

namespace Sift

/-- Those of the texts that are not known, each where it comes first. -/
def fresh (known texts : List String) : List String := (texts.filter (· ∉ known)).eraseDups

@[simp]
theorem fresh_nil (known : List String) : fresh known [] = [] := rfl

theorem fresh_of_nil (texts : List String) : fresh [] texts = texts.eraseDups := by
  have hall : texts.filter (· ∉ []) = texts := by simp
  rw [fresh, hall]

theorem fresh_cons_of_mem {known : List String} {text : String} (h : text ∈ known)
    (texts : List String) : fresh known (text :: texts) = fresh known texts := by
  simp [fresh, h]

theorem fresh_cons_of_not_mem {known : List String} {text : String} (h : text ∉ known)
    (texts : List String) :
    fresh known (text :: texts) = text :: fresh (text :: known) texts := by
  have hsame : (texts.filter (· ∉ known)).filter (fun other => !other == text) =
      texts.filter (· ∉ text :: known) := by
    rw [List.filter_filter]
    apply List.filter_congr
    intro other _
    by_cases heq : other = text <;> simp [heq]
  rw [fresh, List.filter_cons_of_pos (by simpa using h), List.eraseDups_cons, hsame, fresh]

theorem fresh_congr {known known' : List String} (h : ∀ text, text ∈ known ↔ text ∈ known')
    (texts : List String) : fresh known texts = fresh known' texts := by
  simp only [fresh, h]

theorem mem_cons_append_of_mem {known : List String} {text : String} (h : text ∈ known)
    (texts : List String) (other : String) :
    other ∈ text :: texts ++ known ↔ other ∈ texts ++ known := by
  simp only [List.cons_append, List.mem_cons, List.mem_append]
  constructor
  · rintro (rfl | hother)
    · exact .inr h
    · exact hother
  · exact .inr

theorem mem_cons_append (text : String) (texts known : List String) (other : String) :
    other ∈ text :: texts ++ known ↔ other ∈ texts ++ text :: known := by
  simp only [List.cons_append, List.mem_cons, List.mem_append]
  exact or_left_comm

/-- What comes later is fresh if it does not come earlier. -/
theorem fresh_append (known texts texts' : List String) :
    fresh known (texts ++ texts') = fresh known texts ++ fresh (texts ++ known) texts' := by
  induction texts generalizing known with
  | nil => rfl
  | cons text texts ih =>
    by_cases hmem : text ∈ known
    · rw [List.cons_append, fresh_cons_of_mem hmem, fresh_cons_of_mem hmem, ih,
        fresh_congr (mem_cons_append_of_mem hmem texts)]
    · rw [List.cons_append, fresh_cons_of_not_mem hmem, fresh_cons_of_not_mem hmem, ih,
        fresh_congr (mem_cons_append text texts known), List.cons_append]

/-- Repetitions that are left out first are not missed later. -/
theorem fresh_fresh {seen known : List String} (h : ∀ text ∈ seen, text ∈ known)
    (texts : List String) : fresh known (fresh seen texts) = fresh known texts := by
  induction texts generalizing seen known with
  | nil => rfl
  | cons text texts ih =>
    by_cases hseen : text ∈ seen
    · rw [fresh_cons_of_mem hseen, fresh_cons_of_mem (h text hseen), ih h]
    · rw [fresh_cons_of_not_mem hseen]
      by_cases hknown : text ∈ known
      · rw [fresh_cons_of_mem hknown, fresh_cons_of_mem hknown]
        exact ih (List.forall_mem_cons.mpr ⟨hknown, h⟩)
      · rw [fresh_cons_of_not_mem hknown, fresh_cons_of_not_mem hknown]
        congr 1
        exact ih (List.forall_mem_cons.mpr ⟨List.mem_cons_self,
          fun other hother => List.mem_cons_of_mem text (h other hother)⟩)

structure Comparison where
  field : String
  op : Operator
  literal : Literal

def Comparison.expr (c : Comparison) : Expr := .comparison c.field c.op c.literal

def Comparison.pattern? (c : Comparison) : Option String :=
  match c.op.takesPattern, c.literal with
  | true, .text pattern => some pattern
  | _, _ => none

section

variable {α : Type} (schema : Schema α) (maxSize : Nat) (item : α)

/-- The pattern that a comparison comes to compile: its field is there, and its type admits the
comparison. -/
def Schema.patternOf (c : Comparison) : Option String :=
  (schema.resolve c.field).bind
    (fun f => if f.type.admits c.op c.literal.kind then c.pattern? else none)

/-- The comparisons that evaluation reaches, from left to right. The right operand is reached if the
left one leaves the answer open. -/
def Expr.reached : Expr → List Comparison
  | .comparison field op literal => [⟨field, op, literal⟩]
  | .and left right =>
    left.reached ++
      match left.meaning schema maxSize item with
      | .ok true => right.reached
      | _ => []
  | .or left right =>
    left.reached ++
      match left.meaning schema maxSize item with
      | .ok false => right.reached
      | _ => []
  | .not operand => operand.reached

def Expr.patterns (e : Expr) : List String :=
  (e.reached schema maxSize item).filterMap schema.patternOf

/-- Comparisons that are made one after the other lead to an answer if each has one. The first one
that fails is the last to be made, and its error is what they lead to. -/
inductive LeadTo : List Comparison → Except FilterError Bool → Prop where
  | answer {cs : List Comparison} {answer : Bool}
    (hcs : ∀ c ∈ cs, ∃ answer, c.expr.meaning schema maxSize item = .ok answer) :
    LeadTo cs (.ok answer)
  | error {cs front : List Comparison} {c : Comparison} {error : FilterError}
    (hcs : cs = front ++ [c])
    (hfront : ∀ c ∈ front, ∃ answer, c.expr.meaning schema maxSize item = .ok answer)
    (hc : c.expr.meaning schema maxSize item = .error error) : LeadTo cs (.error error)

variable {schema maxSize item}

theorem LeadTo.answered {cs : List Comparison} {answer : Bool}
    (h : LeadTo schema maxSize item cs (.ok answer)) :
    ∀ c ∈ cs, ∃ answer, c.expr.meaning schema maxSize item = .ok answer := by
  cases h with
  | answer hcs => exact hcs

theorem LeadTo.behind {cs cs' : List Comparison} {outcome : Except FilterError Bool}
    (hcs : ∀ c ∈ cs, ∃ answer, c.expr.meaning schema maxSize item = .ok answer)
    (h : LeadTo schema maxSize item cs' outcome) :
    LeadTo schema maxSize item (cs ++ cs') outcome := by
  cases h with
  | answer hcs' => exact .answer (List.forall_mem_append.mpr ⟨hcs, hcs'⟩)
  | error hcs' hfront hc =>
    rw [hcs', ← List.append_assoc]
    exact .error rfl (List.forall_mem_append.mpr ⟨hcs, hfront⟩) hc

variable (schema maxSize item)

/-- The comparisons that are reached lead to the meaning of the expression. -/
theorem Expr.leadTo_meaning (e : Expr) :
    LeadTo schema maxSize item (e.reached schema maxSize item) (e.meaning schema maxSize item) := by
  induction e with
  | comparison field op literal =>
    cases hmeaning : (Expr.comparison field op literal).meaning schema maxSize item with
    | error error => exact .error (List.nil_append _).symm (by simp) hmeaning
    | ok answer => exact .answer (List.forall_mem_singleton.mpr ⟨answer, hmeaning⟩)
  | and left right ihl ihr =>
    simp only [Expr.reached, Expr.meaning]
    cases hleft : left.meaning schema maxSize item with
    | error error =>
      rw [hleft] at ihl
      rw [List.append_nil]
      exact ihl
    | ok answer =>
      rw [hleft] at ihl
      cases answer with
      | true => exact ihr.behind ihl.answered
      | false =>
        rw [List.append_nil]
        exact ihl
  | or left right ihl ihr =>
    simp only [Expr.reached, Expr.meaning]
    cases hleft : left.meaning schema maxSize item with
    | error error =>
      rw [hleft] at ihl
      rw [List.append_nil]
      exact ihl
    | ok answer =>
      rw [hleft] at ihl
      cases answer with
      | true =>
        rw [List.append_nil]
        exact ihl
      | false => exact ihr.behind ihl.answered
  | not operand ih =>
    simp only [Expr.reached, Expr.meaning]
    cases hoperand : operand.meaning schema maxSize item with
    | error error =>
      rw [hoperand] at ih
      exact ih
    | ok answer =>
      rw [hoperand] at ih
      exact .answer ih.answered

theorem Comparison.eq_of_pattern? {c : Comparison} {pattern : String}
    (h : c.pattern? = some pattern) : c.op.takesPattern = true ∧ c.literal = .text pattern := by
  unfold pattern? at h
  split at h
  · rename_i htakes hliteral
    cases h
    exact ⟨htakes, hliteral⟩
  · cases h

/-- A comparison that comes to compile a pattern has an answer if the pattern compiles, and fails
otherwise. -/
theorem Schema.meaning_of_patternOf {c : Comparison} {pattern : String}
    (h : schema.patternOf c = some pattern) :
    match Pattern.compile? maxSize pattern with
    | some _ => ∃ answer, c.expr.meaning schema maxSize item = .ok answer
    | none => c.expr.meaning schema maxSize item = .error (.badPattern pattern) := by
  rw [Schema.patternOf, Option.bind_eq_some_iff] at h
  obtain ⟨f, hresolve, hpattern⟩ := h
  split at hpattern
  · rename_i hadmits
    obtain ⟨htakes, hliteral⟩ := Comparison.eq_of_pattern? hpattern
    have hcheck := (f.type.check_eq_ok_iff c.op c.literal.kind).mpr hadmits
    rw [hliteral] at hcheck
    rw [Comparison.expr, Expr.meaning, Schema.comparand, hresolve, hliteral]
    simp only [hcheck, Literal.patternFor, htakes, if_true]
    cases Pattern.compile? maxSize pattern with
    | none => rfl
    | some compiled => exact ⟨_, rfl⟩
  · cases hpattern

end

def Pass.kept (pass : Pass) : List String := pass.patterns.map Prod.fst

/-- The second pass comes from the first one by reaching these patterns. Those that are not kept are
compiled once, in order, and kept if they compile. -/
structure Pass.Logs (maxSize : Nat) (pass : Pass) (patterns : List String) (next : Pass) :
    Prop where
  events_eq : next.events = pass.events ++ (fresh pass.kept patterns).map .compile
  mem_kept_iff : ∀ text, text ∈ next.kept ↔
    text ∈ pass.kept ∨ text ∈ patterns ∧ (Pattern.compile? maxSize text).isSome

namespace Pass

variable {maxSize : Nat} {pass next : Pass}

theorem logs_nil (pass : Pass) : pass.Logs maxSize [] pass where
  events_eq := by simp
  mem_kept_iff := by simp

theorem mem_kept_iff_lookup (pass : Pass) (text : String) :
    text ∈ pass.kept ↔ (pass.patterns.lookup text).isSome := by
  simp only [List.lookup_isSome_iff, kept, List.mem_map, beq_iff_eq]
  exact exists_congr (fun entry => and_congr_right' eq_comm)

theorem Logs.mem_kept_iff_append {patterns : List String} (h : pass.Logs maxSize patterns next)
    (hcompiles : ∀ text ∈ patterns, (Pattern.compile? maxSize text).isSome) (text : String) :
    text ∈ next.kept ↔ text ∈ patterns ++ pass.kept := by
  rw [h.mem_kept_iff, List.mem_append, or_comm]
  exact or_congr_left (and_iff_left_of_imp (hcompiles text))

/-- Where all patterns so far have compiled, more may be reached. -/
theorem Logs.append {later : Pass} {patterns patterns' : List String}
    (h : pass.Logs maxSize patterns next) (h' : next.Logs maxSize patterns' later)
    (hcompiles : ∀ text ∈ patterns, (Pattern.compile? maxSize text).isSome) :
    pass.Logs maxSize (patterns ++ patterns') later where
  events_eq := by
    rw [h'.events_eq, h.events_eq, fresh_append, List.map_append, List.append_assoc,
      fresh_congr (h.mem_kept_iff_append hcompiles)]
  mem_kept_iff := by
    intro text
    rw [h'.mem_kept_iff, h.mem_kept_iff, List.mem_append, or_and_right, or_assoc]

theorem logs_compile (pass : Pass) (text : String) :
    pass.Logs maxSize [text] (pass.compile maxSize text).2 := by
  have hkept := pass.mem_kept_iff_lookup text
  unfold compile
  cases hlookup : pass.patterns.lookup text with
  | some pattern =>
    rw [hlookup] at hkept
    have hmem : text ∈ pass.kept := hkept.mpr rfl
    constructor
    · simp [fresh_cons_of_mem hmem]
    · intro other
      rw [List.mem_singleton]
      constructor
      · exact .inl
      · rintro (h | ⟨rfl, -⟩)
        · exact h
        · exact hmem
  | none =>
    rw [hlookup] at hkept
    have hnot : text ∉ pass.kept := fun hmem => by cases hkept.mp hmem
    have hfresh : fresh pass.kept [text] = [text] := by
      rw [fresh_cons_of_not_mem hnot, fresh_nil]
    cases hcompile : Pattern.compile? maxSize text with
    | none =>
      constructor
      · rw [hfresh]
        rfl
      · intro other
        rw [List.mem_singleton]
        constructor
        · exact .inl
        · rintro (h | ⟨rfl, hsome⟩)
          · exact h
          · rw [hcompile] at hsome
            cases hsome
    | some pattern =>
      constructor
      · rw [hfresh]
        rfl
      · intro other
        have hnext : other ∈ text :: pass.kept ↔
            other ∈ pass.kept ∨ other ∈ [text] ∧ (Pattern.compile? maxSize other).isSome := by
          rw [List.mem_cons, List.mem_singleton, or_comm]
          refine or_congr_right (and_iff_left_of_imp ?_).symm
          rintro rfl
          rw [hcompile]
          rfl
        exact hnext

theorem logs_compileFor (pass : Pass) (c : Comparison) :
    pass.Logs maxSize c.pattern?.toList (pass.compileFor maxSize c.op c.literal).2 := by
  obtain ⟨field, op, literal⟩ := c
  cases htakes : op.takesPattern with
  | false => cases literal <;> simp [Pass.compileFor, Comparison.pattern?, htakes, logs_nil]
  | true =>
    cases literal with
    | text text =>
      have hlogs : pass.Logs maxSize [text] (pass.compile maxSize text).2 := pass.logs_compile text
      simp only [Pass.compileFor, Comparison.pattern?, htakes, Option.toList_some]
      rcases hcompile : pass.compile maxSize text with ⟨error | pattern, next⟩
      · rw [hcompile] at hlogs
        exact hlogs
      · rw [hcompile] at hlogs
        exact hlogs
    | number number | bool value | null =>
      simp [Pass.compileFor, Comparison.pattern?, logs_nil]

end Pass

section

variable {α : Type} {schema : Schema α} {maxSize : Nat} {item : α} {pass : Pass}

theorem Pass.logs_evaluateComparison (schema : Schema α) (item : α) (pass : Pass) (c : Comparison) :
    pass.Logs maxSize (schema.patternOf c).toList
      (evaluateComparison schema maxSize item c.field c.op c.literal pass).2 := by
  unfold evaluateComparison Schema.patternOf
  cases schema.resolve c.field with
  | none => exact pass.logs_nil
  | some f =>
    have hlogs : pass.Logs maxSize c.pattern?.toList (pass.compileFor maxSize c.op c.literal).2 :=
      pass.logs_compileFor c
    simp only [Option.bind_some]
    cases hcheck : f.type.check c.op c.literal.kind with
    | error fault =>
      have hadmits : ¬ f.type.admits c.op c.literal.kind = true := by
        rw [← f.type.check_eq_ok_iff, hcheck]
        simp
      rw [if_neg hadmits]
      exact pass.logs_nil
    | ok _ =>
      rw [if_pos ((f.type.check_eq_ok_iff c.op c.literal.kind).mp hcheck)]
      rcases hcompile : pass.compileFor maxSize c.op c.literal with ⟨error | pattern, next⟩
      · rw [hcompile] at hlogs
        exact hlogs
      · rw [hcompile] at hlogs
        exact hlogs

/-- Of comparisons that have an answer all patterns compile. -/
theorem Schema.isSome_of_mem_filterMap {cs : List Comparison}
    (h : ∀ c ∈ cs, ∃ answer, c.expr.meaning schema maxSize item = .ok answer) :
    ∀ text ∈ cs.filterMap schema.patternOf, (Pattern.compile? maxSize text).isSome := by
  intro text htext
  obtain ⟨c, hc, hpattern⟩ := List.mem_filterMap.mp htext
  obtain ⟨answer, hanswer⟩ := h c hc
  have hmeaning := schema.meaning_of_patternOf maxSize item hpattern
  cases hcompile : Pattern.compile? maxSize text with
  | none =>
    rw [hcompile] at hmeaning
    cases hanswer.symm.trans hmeaning
  | some pattern => rfl

theorem Expr.isSome_of_mem_patterns {e : Expr} {answer : Bool}
    (h : e.meaning schema maxSize item = .ok answer) :
    ∀ text ∈ e.patterns schema maxSize item, (Pattern.compile? maxSize text).isSome := by
  have hleads := e.leadTo_meaning schema maxSize item
  rw [h] at hleads
  exact schema.isSome_of_mem_filterMap hleads.answered

/-- Evaluation logs the patterns that it reaches. -/
theorem Pass.Sound.logs_evaluate (h : pass.Sound maxSize) (schema : Schema α) (item : α)
    (e : Expr) :
    pass.Logs maxSize (e.patterns schema maxSize item) (e.evaluate schema maxSize item pass).2 := by
  induction e generalizing pass with
  | comparison field op literal =>
    have hsingle (c : Comparison) :
        [c].filterMap schema.patternOf = (schema.patternOf c).toList := by
      cases hpattern : schema.patternOf c <;> simp [hpattern]
    rw [Expr.patterns, Expr.reached, hsingle]
    exact pass.logs_evaluateComparison schema item ⟨field, op, literal⟩
  | and left right ihl ihr =>
    obtain ⟨next, hleft, hsound⟩ := h.evaluate schema item left
    have hlogs := ihl h
    rw [hleft] at hlogs
    simp only [Expr.patterns, Expr.reached, Expr.evaluate, hleft, List.filterMap_append]
    cases hmeaning : left.meaning schema maxSize item with
    | error error =>
      rw [List.filterMap_nil, List.append_nil]
      exact hlogs
    | ok answer =>
      cases answer with
      | true => exact hlogs.append (ihr hsound) (Expr.isSome_of_mem_patterns hmeaning)
      | false =>
        rw [List.filterMap_nil, List.append_nil]
        exact hlogs
  | or left right ihl ihr =>
    obtain ⟨next, hleft, hsound⟩ := h.evaluate schema item left
    have hlogs := ihl h
    rw [hleft] at hlogs
    simp only [Expr.patterns, Expr.reached, Expr.evaluate, hleft, List.filterMap_append]
    cases hmeaning : left.meaning schema maxSize item with
    | error error =>
      rw [List.filterMap_nil, List.append_nil]
      exact hlogs
    | ok answer =>
      cases answer with
      | true =>
        rw [List.filterMap_nil, List.append_nil]
        exact hlogs
      | false => exact hlogs.append (ihr hsound) (Expr.isSome_of_mem_patterns hmeaning)
  | not operand ih =>
    obtain ⟨next, hoperand, hsound⟩ := h.evaluate schema item operand
    have hlogs := ih h
    rw [hoperand] at hlogs
    simp only [Expr.evaluate, hoperand]
    cases operand.meaning schema maxSize item with
    | error error => exact hlogs
    | ok answer => exact hlogs

def Expr.failure (e : Expr) : Except FilterError Bool → List Event
  | .ok _ => []
  | .error error => [.failed e error]

/-- A run of the whole expression logs the patterns and then the failure. -/
theorem Pass.Sound.events_run (h : pass.Sound maxSize) (schema : Schema α) (item : α) (e : Expr) :
    (e.run schema maxSize item pass).2.events =
      pass.events ++ ((fresh pass.kept (e.patterns schema maxSize item)).map .compile ++
        e.failure (e.meaning schema maxSize item)) := by
  obtain ⟨next, hevaluate, -⟩ := h.evaluate schema item e
  have hlogs := h.logs_evaluate schema item e
  rw [hevaluate] at hlogs
  rw [Expr.run, hevaluate, ← List.append_assoc, ← hlogs.events_eq]
  cases e.meaning schema maxSize item with
  | error error => rfl
  | ok answer => exact (List.append_nil _).symm

theorem Expr.log_eq (e : Expr) (schema : Schema α) (maxSize : Nat) (item : α) :
    ((Filter.expr e).matchesItem schema maxSize item).2 =
      (e.patterns schema maxSize item).eraseDups.map .compile ++
        e.failure (e.meaning schema maxSize item) := by
  have hevents := (Pass.sound_start maxSize).events_run schema item e
  rw [← fresh_of_nil]
  exact hevents

/-- If a pattern is reached that does not compile, it is the last one. -/
theorem Expr.exists_earlier (e : Expr) {text : String}
    (htext : text ∈ e.patterns schema maxSize item)
    (hcompile : Pattern.compile? maxSize text = none) :
    e.meaning schema maxSize item = .error (.badPattern text) ∧
      ∃ earlier, (e.patterns schema maxSize item).eraseDups = earlier ++ [text] ∧
        ∀ other ∈ earlier, (Pattern.compile? maxSize other).isSome := by
  obtain ⟨c, hc, hpattern⟩ := List.mem_filterMap.mp htext
  have hfails := schema.meaning_of_patternOf maxSize item hpattern
  rw [hcompile] at hfails
  have hleads := e.leadTo_meaning schema maxSize item
  cases hmeaning : e.meaning schema maxSize item with
  | ok answer =>
    rw [hmeaning] at hleads
    obtain ⟨answer, hanswer⟩ := hleads.answered c hc
    cases hanswer.symm.trans hfails
  | error error =>
    rw [hmeaning] at hleads
    cases hleads with
    | @error front last _ hreached hfront hlast =>
      rw [hreached, List.mem_append, List.mem_singleton] at hc
      rcases hc with hc | rfl
      · obtain ⟨answer, hanswer⟩ := hfront c hc
        cases hanswer.symm.trans hfails
      · obtain rfl := Except.error.inj (hlast.symm.trans hfails)
        have hearlier := schema.isSome_of_mem_filterMap hfront
        have hnot : text ∉ front.filterMap schema.patternOf := by
          intro hmem
          have hsome := hearlier text hmem
          rw [hcompile] at hsome
          cases hsome
        refine ⟨rfl, (front.filterMap schema.patternOf).eraseDups, ?_, ?_⟩
        · rw [Expr.patterns, hreached, List.filterMap_append, ← fresh_of_nil, fresh_append,
            fresh_of_nil]
          simp only [List.filterMap_cons, hpattern, List.filterMap_nil, List.append_nil,
            fresh_cons_of_not_mem hnot, fresh_nil]
        · intro other hother
          exact hearlier other (List.mem_eraseDups.mp hother)

end

def withoutRepeats (known : List String) : List Event → List Event
  | [] => []
  | .compile text :: events =>
    if text ∈ known then withoutRepeats known events
    else .compile text :: withoutRepeats (text :: known) events
  | .failed e error :: events => .failed e error :: withoutRepeats known events

theorem withoutRepeats_congr {known known' : List String} (h : ∀ text, text ∈ known ↔ text ∈ known')
    (events : List Event) : withoutRepeats known events = withoutRepeats known' events := by
  induction events generalizing known known' with
  | nil => rfl
  | cons event events ih =>
    cases event with
    | failed e error => rw [withoutRepeats, withoutRepeats, ih h]
    | compile text =>
      have hmore (other : String) : other ∈ text :: known ↔ other ∈ text :: known' := by
        rw [List.mem_cons, List.mem_cons, h]
      simp only [withoutRepeats, h, ih h, ih hmore]

/-- Of patterns compiled one after the other the fresh ones stay. -/
theorem withoutRepeats_compile_append (known texts : List String) (events : List Event) :
    withoutRepeats known (texts.map .compile ++ events) =
      (fresh known texts).map .compile ++ withoutRepeats (texts ++ known) events := by
  induction texts generalizing known with
  | nil => rfl
  | cons text texts ih =>
    rw [List.map_cons, List.cons_append, withoutRepeats]
    by_cases hmem : text ∈ known
    · rw [if_pos hmem, ih, fresh_cons_of_mem hmem,
        withoutRepeats_congr (mem_cons_append_of_mem hmem texts)]
    · rw [if_neg hmem, ih, fresh_cons_of_not_mem hmem,
        withoutRepeats_congr (mem_cons_append text texts known)]
      rfl

/-- Without repetitions no pattern is compiled twice, and none that is known. -/
theorem nodup_withoutRepeats (known : List String) (events : List Event) :
    (compiledPatterns (withoutRepeats known events)).Nodup ∧
      ∀ text ∈ compiledPatterns (withoutRepeats known events), text ∉ known := by
  induction events generalizing known with
  | nil => exact ⟨.nil, by simp [withoutRepeats, compiledPatterns]⟩
  | cons event events ih =>
    cases event with
    | failed e error => exact ih known
    | compile text =>
      rw [withoutRepeats]
      by_cases hmem : text ∈ known
      · rw [if_pos hmem]
        exact ih known
      · obtain ⟨hnodup, hnew⟩ := ih (text :: known)
        rw [if_neg hmem]
        have hcons : compiledPatterns (.compile text :: withoutRepeats (text :: known) events) =
            text :: compiledPatterns (withoutRepeats (text :: known) events) := rfl
        rw [hcons, List.nodup_cons, List.forall_mem_cons]
        refine ⟨⟨fun hagain => hnew text hagain List.mem_cons_self, hnodup⟩, hmem, ?_⟩
        intro other hother hknown
        exact hnew other hother (List.mem_cons_of_mem text hknown)

/-- Nothing comes to be in a log by leaving repetitions out. -/
theorem withoutRepeats_subset (known : List String) (events : List Event) :
    withoutRepeats known events ⊆ events := by
  induction events generalizing known with
  | nil => exact List.Subset.refl []
  | cons event events ih =>
    cases event with
    | failed e error => exact List.cons_subset_cons _ (ih known)
    | compile text =>
      rw [withoutRepeats]
      split
      · exact List.subset_cons_of_subset _ (ih known)
      · exact List.cons_subset_cons _ (ih (text :: known))

theorem mem_compiledPatterns_iff {text : String} {events : List Event} :
    text ∈ compiledPatterns events ↔ .compile text ∈ events := by
  rw [compiledPatterns, List.mem_filterMap]
  constructor
  · rintro ⟨event, hevent, htext⟩
    cases event with
    | compile other =>
      cases htext
      exact hevent
    | failed e error => cases htext
  · intro h
    exact ⟨.compile text, h, rfl⟩

section

variable {α : Type} {schema : Schema α} {maxSize : Nat}

/-- The items that a selection looks at: all up to the first one that a filter fails on, and that
one. -/
def Filter.considered (filter : Filter) (schema : Schema α) (maxSize : Nat) : List α → List α
  | [] => []
  | item :: items =>
    match (filter.matchesItem schema maxSize item).1 with
    | .ok _ => item :: filter.considered schema maxSize items
    | .error _ => [item]

def Filter.patterns (filter : Filter) (schema : Schema α) (maxSize : Nat) (item : α) :
    List String :=
  match filter with
  | .matchAll => []
  | .expr e => e.patterns schema maxSize item

theorem Filter.mem_patterns_of_compile (filter : Filter) {item : α} {text : String}
    (h : .compile text ∈ (filter.matchesItem schema maxSize item).2) :
    text ∈ filter.patterns schema maxSize item := by
  cases filter with
  | matchAll => cases h
  | expr e =>
    rw [e.log_eq, List.mem_append] at h
    rcases h with h | h
    · obtain ⟨other, hother, heq⟩ := List.mem_map.mp h
      cases heq
      exact List.mem_eraseDups.mp hother
    · cases hmeaning : e.meaning schema maxSize item with
      | error error =>
        rw [hmeaning] at h
        cases List.mem_singleton.mp h
      | ok answer =>
        rw [hmeaning] at h
        cases h

/-- A selection goes on with the log of its pass as the items log by themselves, without what is
kept already. -/
theorem Pass.Sound.events_select {pass : Pass} (h : pass.Sound maxSize) (schema : Schema α)
    (e : Expr) (items : List α) :
    (e.select schema maxSize items pass).2.events =
      pass.events ++ withoutRepeats pass.kept
        (((Filter.expr e).considered schema maxSize items).flatMap
          (fun item => ((Filter.expr e).matchesItem schema maxSize item).2)) := by
  induction items generalizing pass with
  | nil => exact (List.append_nil _).symm
  | cons item items ih =>
    obtain ⟨next, hevaluate, hsound⟩ := h.evaluate schema item e
    have hlogs := h.logs_evaluate schema item e
    rw [hevaluate] at hlogs
    have hitem (events : List Event) :
        withoutRepeats pass.kept
            ((e.patterns schema maxSize item).eraseDups.map .compile ++ events) =
          (fresh pass.kept (e.patterns schema maxSize item)).map .compile ++
            withoutRepeats ((e.patterns schema maxSize item).eraseDups ++ pass.kept) events := by
      rw [withoutRepeats_compile_append, ← fresh_of_nil, fresh_fresh (by simp)]
    simp only [Expr.select, Expr.run, hevaluate, Filter.considered, e.matchesItem_expr]
    cases hmeaning : e.meaning schema maxSize item with
    | error error =>
      simp only [List.flatMap_cons, List.flatMap_nil, List.append_nil, e.log_eq, hmeaning, hitem]
      rw [← List.append_assoc, ← hlogs.events_eq]
      rfl
    | ok answer =>
      have hkept (text : String) : text ∈ (e.patterns schema maxSize item).eraseDups ++ pass.kept ↔
          text ∈ next.kept := by
        rw [hlogs.mem_kept_iff_append (Expr.isSome_of_mem_patterns hmeaning), List.mem_append,
          List.mem_append, List.mem_eraseDups]
      simp only [List.flatMap_cons, e.log_eq schema maxSize item, hmeaning, Expr.failure,
        List.append_nil, hitem]
      rw [← List.append_assoc, ← hlogs.events_eq, withoutRepeats_congr hkept, ← ih hsound]
      rcases e.select schema maxSize items next with ⟨error | kept, later⟩
      · rfl
      · rfl

/-- What a pass logs is determined by the patterns that evaluation reaches from left to right, of
comparisons that their fields admit. An item logs each of them once, in the order in which they are
reached first, and then the whole filter if it fails. A pattern that does not compile is the last
one, and is the failure. A selection logs what the items log by themselves, up to the first failure,
without the patterns that are in the log already. So a pass compiles no pattern twice, and none that
is not reached. -/
theorem Filter.log_exact {α : Type} (schema : Schema α) (maxSize : Nat) :
    (∀ (e : Expr) (item : α),
      ((Filter.expr e).matchesItem schema maxSize item).2 =
        (e.patterns schema maxSize item).eraseDups.map .compile ++
          e.failure ((Filter.expr e).matchesItem schema maxSize item).1 ∧
      ∀ text ∈ e.patterns schema maxSize item, Pattern.compile? maxSize text = none →
        ((Filter.expr e).matchesItem schema maxSize item).1 = .error (.badPattern text) ∧
        ∃ earlier, (e.patterns schema maxSize item).eraseDups = earlier ++ [text] ∧
          ∀ other ∈ earlier, (Pattern.compile? maxSize other).isSome) ∧
    (∀ (filter : Filter) (items : List α),
      (filter.select schema maxSize items).2 =
        withoutRepeats [] ((filter.considered schema maxSize items).flatMap
          (fun item => (filter.matchesItem schema maxSize item).2)) ∧
      (compiledPatterns (filter.select schema maxSize items).2).Nodup ∧
      ∀ text ∈ compiledPatterns (filter.select schema maxSize items).2,
        ∃ item ∈ filter.considered schema maxSize items,
          text ∈ filter.patterns schema maxSize item) ∧
    ∀ (item : α) (items : List α), (Filter.matchAll.matchesItem schema maxSize item).2 = [] ∧
      (Filter.matchAll.select schema maxSize items).2 = [] := by
  have hselect (filter : Filter) (items : List α) :
      (filter.select schema maxSize items).2 =
        withoutRepeats [] ((filter.considered schema maxSize items).flatMap
          (fun item => (filter.matchesItem schema maxSize item).2)) := by
    cases filter with
    | matchAll =>
      have hnone : (Filter.matchAll.considered schema maxSize items).flatMap
          (fun item => (Filter.matchAll.matchesItem schema maxSize item).2) = [] :=
        List.flatMap_eq_nil_iff.mpr (fun _ _ => rfl)
      rw [hnone]
      rfl
    | expr e => exact (Pass.sound_start maxSize).events_select schema e items
  refine ⟨?_, ?_, fun _ _ => ⟨rfl, rfl⟩⟩
  · intro e item
    rw [e.matchesItem_expr]
    exact ⟨e.log_eq schema maxSize item, fun text htext hcompile => e.exists_earlier htext hcompile⟩
  · intro filter items
    refine ⟨hselect filter items, ?_, ?_⟩
    · rw [hselect]
      exact (nodup_withoutRepeats _ _).1
    · intro text htext
      rw [hselect] at htext
      have hevent := withoutRepeats_subset _ _ (mem_compiledPatterns_iff.mp htext)
      obtain ⟨item, hitem, hlogged⟩ := List.mem_flatMap.mp hevent
      exact ⟨item, hitem, filter.mem_patterns_of_compile hlogged⟩

end

/-- The first item stops at the first pattern and the second one at the second. The third one comes
to a pattern that does not compile, so the last one is not looked at. -/
theorem Filter.log_exact_unclosed :
    let e : Expr := .and (.comparison "name" .matching (.text "b"))
      (.or (.comparison "name" .matching (.text "a"))
        (.comparison "name" .notMatching (.text "(")))
    ((Filter.expr e).select Schema.ofName 1000 ["c", "ab", "b", "x"]).2 =
        [.compile "b", .compile "a", .compile "(", .failed e (.badPattern "(")] ∧
      ((Filter.expr e).matchesItem Schema.ofName 1000 "b").1 = .error (.badPattern "(") := by
  intro e
  obtain ⟨hitem, hselect, -⟩ := Filter.log_exact Schema.ofName 1000
  have hreached : "(" ∈ e.patterns Schema.ofName 1000 "b" := List.mem_of_mem_getLast? rfl
  exact ⟨(hselect (.expr e) ["c", "ab", "b", "x"]).1.trans rfl,
    ((hitem e "b").2 "(" hreached rfl).1⟩

end Sift
