import Sift.Proofs.Filter.LexicalGrammar

/-!
Reading follows the lexical grammar. What is read at the front of a text is the longest lexeme there
or the fault there, so the lexemes of a text are the only ones that it splits into, and the first
fault is reported where the splitting comes to a stop.
-/

namespace Sift

theorem Token.hasSpelling_ofWord {c : Char} {rest : List Char} (hc : Reading.isNameStart c = true)
    (hrest : ∀ d ∈ rest, Reading.isNamePart d = true) :
    (Token.ofWord (c :: rest)).HasSpelling (c :: rest) := by
  by_cases hkeyword : String.ofList (c :: rest) ∈ keywords
  · obtain ⟨word, hword⟩ : ∃ word, String.ofList (c :: rest) = word := ⟨_, rfl⟩
    have hlist : c :: rest = word.toList := by rw [← hword, String.toList_ofList]
    rw [hword] at hkeyword
    rw [hlist]
    simp only [keywords, List.mem_cons, List.not_mem_nil, or_false] at hkeyword
    rcases hkeyword with rfl | rfl | rfl | rfl | rfl | rfl
    all_goals exact .keyword (by decide)
  · rw [Token.ofWord_eq_name hkeyword]
    have hname : IsName (String.ofList (c :: rest)) :=
      ⟨⟨c, rest, String.toList_ofList, hc, hrest⟩, hkeyword⟩
    simpa using Token.HasSpelling.name hname

theorem Operator.length_text_le (op : Operator) : op.text.toList.length ≤ 2 := by
  cases op <;> simp [Operator.text]

/-- Only `>` and `<` are the beginning of another operator, which goes on with `=`. -/
theorem Operator.of_text_append {op longer : Operator} {d : Char}
    (h : longer.text.toList = op.text.toList ++ [d]) : (op = .gt ∨ op = .lt) ∧ d = '=' := by
  cases op <;> cases longer <;> simp [Operator.text] at h ⊢
  all_goals exact h.symm

theorem Operator.exists_longer {op : Operator} (hop : op = .gt ∨ op = .lt) :
    ∃ longer : Operator, longer.text.toList = op.text.toList ++ ['='] := by
  rcases hop with rfl | rfl
  · exact ⟨.ge, rfl⟩
  · exact ⟨.le, rfl⟩

namespace Longest

variable {c : Char} {piece rest : List Char}

theorem parenthesis (hc : c = '(' ∨ c = ')') : Longest [c] rest := by
  intro more hmore _ hlexical
  exact hmore (hlexical.nil_of_parenthesis hc)

theorem quoted (body : List Char) : Longest ('\'' :: body ++ ['\'']) rest := by
  intro more hmore _ hlexical
  obtain ⟨body', hbody', heq⟩ := hlexical.exists_body
  obtain ⟨front, last, rfl⟩ := (List.eq_nil_or_concat more).resolve_left hmore
  have hinit : body ++ ['\''] ++ front = body' := by
    have hsame : (body ++ ['\''] ++ front) ++ [last] = body' ++ ['\''] := by simpa using heq
    exact (List.append_inj' hsame rfl).1
  apply hbody'
  simp [← hinit]

theorem word (hc : Reading.isNameStart c = true)
    (hrest : ∀ d, rest.head? = some d → Reading.isNamePart d = false) :
    Longest (c :: piece) rest := by
  intro more hmore hprefix hlexical
  obtain ⟨d, more, rfl⟩ := List.exists_cons_of_ne_nil hmore
  obtain ⟨tail, rfl⟩ := hprefix
  have hpart := hlexical.isNamePart_of_mem hc d (by simp)
  rw [hrest d rfl] at hpart
  cases hpart

theorem isNamePart_eq_false (h : Longest (c :: piece) rest) (hc : Reading.isNameStart c = true)
    (hpiece : ∀ d ∈ piece, Reading.isNamePart d = true) :
    ∀ d, rest.head? = some d → Reading.isNamePart d = false := by
  intro d hd
  obtain ⟨tail, rfl⟩ := List.head?_eq_some_iff.mp hd
  by_contra hpart
  have hlonger : ∀ d' ∈ piece ++ [d], Reading.isNamePart d' = true := by
    rw [List.forall_mem_append, List.forall_mem_singleton]
    exact ⟨hpiece, by simpa using hpart⟩
  exact h [d] (by simp) ⟨tail, rfl⟩ (.inl ⟨_, Token.hasSpelling_ofWord hc hlonger⟩)

theorem number {d : Decimal} (hd : d.WellFormed) (hstops : Decimal.Stops d.fraction rest) :
    Longest d.spelling rest := by
  rintro more hmore ⟨tail, rfl⟩ hlexical
  obtain ⟨c, spelling, hspelling, hc⟩ := hd.exists_cons_spelling
  have hread := Decimal.read?_spelling_append hd hstops.of_append
  rw [hspelling, List.cons_append] at hlexical hread
  obtain ⟨d', hd', heq⟩ := hlexical.exists_decimal hc
  have hends : Decimal.Stops d'.fraction [] := ⟨by simp, by simp⟩
  have hread' := Decimal.read?_spelling_append hd' hends
  rw [List.append_nil, heq, hread] at hread'
  cases hread'
  exact hmore rfl

theorem stops {d : Decimal} (h : Longest d.spelling rest) (hd : d.WellFormed) :
    Decimal.Stops d.fraction rest := by
  by_contra hnot
  obtain ⟨more, hmore, hprefix, d', hd', hspelling⟩ := hd.exists_longer hnot
  exact h more hmore hprefix (.inr ⟨d', hd', hspelling.symm⟩)

theorem operator {op : Operator} (hrest : op = .gt ∨ op = .lt → rest.head? ≠ some '=') :
    Longest op.text.toList rest := by
  intro more hmore hprefix hlexical
  obtain ⟨c, tail, htext, hc⟩ := op.exists_cons_text
  rw [htext, List.cons_append] at hlexical
  obtain ⟨longer, hlonger⟩ := hlexical.exists_operator hc
  obtain ⟨d, more, rfl⟩ := List.exists_cons_of_ne_nil hmore
  -- No operator has more than two characters, so one character prolongs this one.
  have hlength := longer.length_text_le
  rw [hlonger] at hlength
  simp only [List.length_cons, List.length_append] at hlength
  obtain rfl : tail = [] := List.eq_nil_of_length_eq_zero (by omega)
  obtain rfl : more = [] := List.eq_nil_of_length_eq_zero (by omega)
  have happend : longer.text.toList = op.text.toList ++ [d] := by
    rw [hlonger, htext]
    rfl
  obtain ⟨hop, rfl⟩ := Operator.of_text_append happend
  obtain ⟨text, rfl⟩ := hprefix
  exact hrest hop rfl

theorem head?_ne {op : Operator} (h : Longest op.text.toList rest) (hop : op = .gt ∨ op = .lt) :
    rest.head? ≠ some '=' := by
  intro hhead
  obtain ⟨tail, rfl⟩ := List.head?_eq_some_iff.mp hhead
  obtain ⟨longer, hlonger⟩ := Operator.exists_longer hop
  have hlexical : Lexical longer.text.toList := .inl ⟨_, .operator longer⟩
  rw [hlonger] at hlexical
  exact h ['='] (by simp) ⟨tail, rfl⟩ hlexical

end Longest

namespace Reading

/-- What is read of a text is the longest lexeme at its front, or the fault there. -/
def Follows (reading : Reading) (text : List Char) : Prop :=
  match reading.result with
  | .ok token => token.HasSpelling reading.spelling ∧ Longest reading.spelling reading.rest
  | .error fault => FaultAt fault reading.spelling text

variable {reading : Reading} {text : List Char}

theorem follows_iff_of_ok {token : Token} (hresult : reading.result = .ok token) :
    reading.Follows text ↔
      token.HasSpelling reading.spelling ∧ Longest reading.spelling reading.rest := by
  unfold Follows
  rw [hresult]

theorem follows_iff_of_error {fault : SyntaxFault} (hresult : reading.result = .error fault) :
    reading.Follows text ↔ FaultAt fault reading.spelling text := by
  unfold Follows
  rw [hresult]

theorem follows_of_ok {token : Token} (hresult : reading.result = .ok token)
    (hspelling : token.HasSpelling reading.spelling)
    (hlongest : Longest reading.spelling reading.rest) : reading.Follows text :=
  (follows_iff_of_ok hresult).mpr ⟨hspelling, hlongest⟩

theorem follows_of_error {fault : SyntaxFault} (hresult : reading.result = .error fault)
    (hfault : FaultAt fault reading.spelling text) : reading.Follows text :=
  (follows_iff_of_error hresult).mpr hfault

theorem follows_word {c : Char} (hc : isNameStart c = true) (text : List Char) :
    (word (c :: text)).Follows (c :: text) := by
  have hpart := isNamePart_of_isNameStart hc
  have hparts : ∀ d ∈ text.takeWhile isNamePart, isNamePart d = true :=
    fun d hd => List.mem_takeWhile_imp hd
  have hend : ∀ d, (text.dropWhile isNamePart).head? = some d → isNamePart d = false := by
    intro d hd
    have hnot := List.head?_dropWhile_not isNamePart text
    rw [hd] at hnot
    simpa using hnot
  simp only [Follows, word, List.takeWhile_cons_of_pos hpart, List.dropWhile_cons_of_pos hpart]
  exact ⟨Token.hasSpelling_ofWord hc hparts, Longest.word hc hend⟩

theorem follows_quoted (text : List Char) : (quoted text).Follows ('\'' :: text) := by
  have hbody : '\'' ∉ text.takeWhile (· != '\'') := by
    intro hmem
    simpa using List.mem_takeWhile_imp hmem
  unfold quoted
  split
  · rename_i hdrop
    rw [List.dropWhile_eq_nil_iff] at hdrop
    have hnone : '\'' ∉ text := by
      intro hmem
      simpa using hdrop '\'' hmem
    exact .unterminated hnone
  · rename_i quote rest hdrop
    have hquote : quote = '\'' := by
      have hnot := List.head?_dropWhile_not (· != '\'') text
      rw [hdrop] at hnot
      simpa using hnot
    subst hquote
    exact ⟨.text hbody, Longest.quoted _⟩

theorem number_of_finite {d : Decimal} (h : d.toBinary64.isFinite = true) (rest : List Char) :
    number d rest = ⟨.ok (.number d.toBinary64), d.spelling, rest⟩ := by
  simp only [number, h, if_true]

theorem number_of_infinite {d : Decimal} (h : d.toBinary64.isFinite = false) (rest : List Char) :
    number d rest = ⟨.error .numberOutOfRange, d.spelling, rest⟩ := by
  simp only [number, h, Bool.false_eq_true, if_false]

theorem follows_number {d : Decimal} {rest : List Char} (hd : d.WellFormed)
    (hstops : Decimal.Stops d.fraction rest) :
    (number d rest).Follows (d.spelling ++ rest) := by
  have hlongest := Longest.number hd hstops
  cases hfinite : d.toBinary64.isFinite with
  | true =>
    rw [number_of_finite hfinite]
    exact follows_of_ok rfl (.number hd hfinite) hlongest
  | false =>
    rw [number_of_infinite hfinite]
    exact follows_of_error rfl (.number hd hfinite hlongest)

theorem follows_of_operator (op : Operator) {rest : List Char}
    (hrest : op = .gt ∨ op = .lt → rest.head? ≠ some '=') :
    (Reading.mk (.ok (.operator op)) op.text.toList rest).Follows text :=
  follows_of_ok rfl (.operator op) (Longest.operator hrest)

theorem follows_operator {c : Char} (hc : isOperatorStart c = true) (text : List Char) :
    (operator c text).Follows (c :: text) := by
  unfold operator
  split
  case h_1 => exact follows_of_operator .eq (by simp)
  case h_2 => exact follows_of_operator .ne (by simp)
  case h_3 => exact follows_of_operator .notMatching (by simp)
  case h_4 => exact follows_of_operator .ge (by simp)
  case h_5 => exact follows_of_operator .le (by simp)
  case h_6 rest hrest =>
    refine follows_of_operator .gt (fun _ hhead => ?_)
    obtain ⟨tail, rfl⟩ := List.head?_eq_some_iff.mp hhead
    exact hrest tail rfl
  case h_7 rest hrest =>
    refine follows_of_operator .lt (fun _ hhead => ?_)
    obtain ⟨tail, rfl⟩ := List.head?_eq_some_iff.mp hhead
    exact hrest tail rfl
  case h_8 => exact follows_of_operator .matching (by simp)
  case h_9 hgt hlt htilde hequals hexclamation hexclamation' _ _ =>
    simp only [isOperatorStart, Bool.or_eq_true, beq_iff_eq] at hc
    rcases hc with (((rfl | rfl) | rfl) | rfl) | rfl
    · refine follows_of_error rfl (.equals (fun hhead => ?_))
      obtain ⟨tail, rfl⟩ := List.head?_eq_some_iff.mp hhead
      exact hequals tail rfl rfl
    · refine follows_of_error rfl (.exclamation (fun hhead => ?_) (fun hhead => ?_))
      · obtain ⟨tail, rfl⟩ := List.head?_eq_some_iff.mp hhead
        exact hexclamation tail rfl rfl
      · obtain ⟨tail, rfl⟩ := List.head?_eq_some_iff.mp hhead
        exact hexclamation' tail rfl rfl
    · exact absurd rfl hgt
    · exact absurd rfl hlt
    · exact absurd rfl htilde

theorem ofText_of_isOperatorStart {c : Char} (hc : isOperatorStart c = true) (text : List Char) :
    ofText c text = operator c text := by
  simp only [isOperatorStart, Bool.or_eq_true, beq_iff_eq] at hc
  rcases hc with (((rfl | rfl) | rfl) | rfl) | rfl <;> rfl

theorem ofText_operator (op : Operator) {c : Char} {piece rest : List Char}
    (htext : op.text.toList = c :: piece) (hrest : op = .gt ∨ op = .lt → rest.head? ≠ some '=') :
    ofText c (piece ++ rest) = ⟨.ok (.operator op), c :: piece, rest⟩ := by
  cases op
  case gt =>
    obtain ⟨rfl, rfl⟩ : '>' = c ∧ [] = piece := List.cons.inj htext
    cases rest with
    | nil => rfl
    | cons d rest =>
      have hd : d ≠ '=' := by simpa using hrest
      rw [ofText_of_isOperatorStart rfl]
      simp [operator, hd]
  case lt =>
    obtain ⟨rfl, rfl⟩ : '<' = c ∧ [] = piece := List.cons.inj htext
    cases rest with
    | nil => rfl
    | cons d rest =>
      have hd : d ≠ '=' := by simpa using hrest
      rw [ofText_of_isOperatorStart rfl]
      simp [operator, hd]
  all_goals
    obtain ⟨rfl, rfl⟩ := List.cons.inj htext
    rfl

/-- Where nothing is read, nothing begins. -/
theorem not_lexical_prefix {c : Char} {text : List Char} (hparenthesis : c ≠ '(' ∧ c ≠ ')')
    (hquote : c ≠ '\'') (hoperator : isOperatorStart c ≠ true)
    (hnumber : Decimal.read? (c :: text) = none) (hname : isNameStart c ≠ true) :
    ∀ piece, piece ≠ [] → piece <+: c :: text → ¬ Lexical piece := by
  rintro piece hpiece ⟨tail, htail⟩ hlexical
  obtain ⟨d, rest, rfl⟩ := List.exists_cons_of_ne_nil hpiece
  obtain ⟨rfl, -⟩ : d = c ∧ rest ++ tail = text := by simpa using htail
  cases hlexical.kind with
  | parenthesis hc hrest => exact hc.elim hparenthesis.1 hparenthesis.2
  | quoted hc body hbody hrest => exact hquote hc
  | operator hc op hop => exact hoperator hc
  | number hc decimal hd hspelling =>
    have hread := hd.read?_ne_none tail
    rw [hspelling, htail] at hread
    exact hread hnumber
  | word hc hrest => exact hname hc

/-- Reading follows the lexical grammar. -/
theorem follows_ofText {c : Char} (hc : isBlank c = false) (text : List Char) :
    (ofText c text).Follows (c :: text) := by
  unfold ofText
  split
  · rename_i hopen
    subst hopen
    exact follows_of_ok rfl .lparen (Longest.parenthesis (.inl rfl))
  split
  · rename_i hclose
    subst hclose
    exact follows_of_ok rfl .rparen (Longest.parenthesis (.inr rfl))
  split
  · rename_i hquote
    subst hquote
    exact follows_quoted text
  split
  · rename_i hoperator
    exact follows_operator hoperator text
  split
  · rename_i hread
    obtain ⟨hd, hstops, htext⟩ := (Decimal.read?_eq_some_iff _ _ _).mp hread
    rw [htext]
    exact follows_number hd hstops
  split
  · rename_i hname
    exact follows_word hname text
  · rename_i hopen hclose hquote hoperator _ hread hname
    have hnone := not_lexical_prefix ⟨hopen, hclose⟩ hquote hoperator hread hname
    refine follows_of_error rfl (.character hc ?_ hnone)
    simp only [isOperatorStart, Bool.or_eq_true, beq_iff_eq, not_or] at hoperator
    simp [hquote, hoperator]

/-- A lexeme is read whatever stands behind it, as long as nothing there prolongs it. -/
theorem ofText_of_hasSpelling {token : Token} {c : Char} {piece rest : List Char}
    (h : token.HasSpelling (c :: piece)) (hlongest : Longest (c :: piece) rest) :
    ofText c (piece ++ rest) = ⟨.ok token, c :: piece, rest⟩ := by
  have hword (hc : isNameStart c = true) :
      ofText c (piece ++ rest) = ⟨.ok (Token.ofWord (c :: piece)), c :: piece, rest⟩ := by
    have hpiece := Lexical.isNamePart_of_mem (.inl ⟨token, h⟩) hc
    exact ofText_word hc hpiece (hlongest.isNamePart_eq_false hc hpiece)
  generalize hspelling : c :: piece = spelling at h
  cases h with
  | @name word hname =>
    obtain ⟨⟨first, tail, hlist, hfirst, -⟩, hkeyword⟩ := hname
    obtain ⟨rfl, rfl⟩ : c = first ∧ piece = tail := by simpa [hlist] using hspelling
    have hofList : String.ofList (c :: piece) = word := by rw [← hlist, String.ofList_toList]
    rw [hword hfirst, Token.ofWord_eq_name (by rwa [hofList]), hofList]
    rw [← hlist]
  | keyword hkeyword =>
    simp only [keywordTokens, List.mem_cons, Prod.mk.injEq, List.not_mem_nil, or_false] at hkeyword
    rcases hkeyword with
      ⟨rfl, rfl⟩ | ⟨rfl, rfl⟩ | ⟨rfl, rfl⟩ | ⟨rfl, rfl⟩ | ⟨rfl, rfl⟩ | ⟨rfl, rfl⟩
    all_goals
      obtain ⟨rfl, rfl⟩ := List.cons.inj hspelling
      exact hword (by decide)
  | text hbody =>
    obtain ⟨rfl, rfl⟩ : c = '\'' ∧ piece = _ := List.cons.inj hspelling
    change ofText '\'' ((_ ++ ['\'']) ++ rest) = _
    rw [List.append_assoc]
    exact ofText_quoted hbody rest
  | @number d hd hfinite =>
    rw [hspelling] at hlongest
    have hread := ofText_number hd hspelling.symm (hlongest.stops hd)
    rw [hread, number_of_finite hfinite]
  | operator op =>
    rw [hspelling] at hlongest
    rw [ofText_operator op hspelling.symm hlongest.head?_ne, hspelling]
  | lparen =>
    obtain ⟨rfl, rfl⟩ := List.cons.inj hspelling
    rfl
  | rparen =>
    obtain ⟨rfl, rfl⟩ := List.cons.inj hspelling
    rfl

theorem quoted_of_unterminated {body : List Char} (hbody : '\'' ∉ body) :
    quoted body = ⟨.error .unterminatedText, '\'' :: body, []⟩ := by
  have hdrop : body.dropWhile (· != '\'') = [] := by
    rw [List.dropWhile_eq_nil_iff]
    intro d hd
    have hne : d ≠ '\'' := fun heq => hbody (heq ▸ hd)
    simpa using hne
  unfold quoted
  rw [hdrop]

/-- Where nothing begins, there is no other fault. -/
theorem eq_unexpectedCharacter {fault : SyntaxFault} {piece : List Char} {c : Char}
    {text : List Char} (h : FaultAt fault piece (c :: text)) (hother : c ∉ ['\'', '=', '!'])
    (hnone : ∀ piece, piece ≠ [] → piece <+: c :: text → ¬ Lexical piece) :
    fault = .unexpectedCharacter c ∧ piece = [c] := by
  simp only [List.mem_cons, List.not_mem_nil, or_false, not_or] at hother
  generalize hwhole : c :: text = whole at h
  cases h with
  | unterminated => exact absurd (List.cons.inj hwhole).1 hother.1
  | equals => exact absurd (List.cons.inj hwhole).1 hother.2.1
  | exclamation => exact absurd (List.cons.inj hwhole).1 hother.2.2
  | number hd =>
    obtain ⟨first, piece, hspelling, -⟩ := hd.exists_cons_spelling
    have hne : Decimal.spelling _ ≠ [] := hspelling ▸ List.cons_ne_nil first piece
    exact absurd (.inr ⟨_, hd, rfl⟩) (hnone _ hne ⟨_, hwhole.symm⟩)
  | character =>
    obtain ⟨rfl, rfl⟩ := List.cons.inj hwhole
    exact ⟨rfl, rfl⟩

/-- A fault is read as what it is. -/
theorem ofText_of_faultAt {fault : SyntaxFault} {piece : List Char} {c : Char} {text : List Char}
    (h : FaultAt fault piece (c :: text)) :
    (ofText c text).result = .error fault ∧ (ofText c text).spelling = piece := by
  generalize hwhole : c :: text = whole at h
  cases h with
  | unterminated hbody =>
    obtain ⟨rfl, rfl⟩ := List.cons.inj hwhole
    change (quoted text).result = _ ∧ (quoted text).spelling = _
    rw [quoted_of_unterminated hbody]
    exact ⟨rfl, rfl⟩
  | equals heq =>
    obtain ⟨rfl, rfl⟩ := List.cons.inj hwhole
    rw [ofText_of_isOperatorStart rfl]
    cases text with
    | nil => exact ⟨rfl, rfl⟩
    | cons d text =>
      have hd : d ≠ '=' := by simpa using heq
      simp [operator, hd]
  | exclamation heq htilde =>
    obtain ⟨rfl, rfl⟩ := List.cons.inj hwhole
    rw [ofText_of_isOperatorStart rfl]
    cases text with
    | nil => exact ⟨rfl, rfl⟩
    | cons d text =>
      have hd : d ≠ '=' := by simpa using heq
      have hd' : d ≠ '~' := by simpa using htilde
      simp [operator, hd, hd']
  | @number d rest hd hinfinite hlongest =>
    obtain ⟨first, piece, hspelling, -⟩ := hd.exists_cons_spelling
    rw [hspelling, List.cons_append] at hwhole
    obtain ⟨rfl, rfl⟩ := List.cons.inj hwhole
    rw [ofText_number hd hspelling (hlongest.stops hd), number_of_infinite hinfinite]
    exact ⟨rfl, rfl⟩
  | character hblank hother hnone =>
    obtain ⟨rfl, rfl⟩ := List.cons.inj hwhole
    have hfollows := follows_ofText hblank text
    have happend := ofText_append c text
    cases hresult : (ofText c text).result with
    | ok token =>
      rw [follows_iff_of_ok hresult] at hfollows
      exact absurd (.inl ⟨token, hfollows.1⟩) (hnone _ happend.2 ⟨_, happend.1⟩)
    | error fault =>
      rw [follows_iff_of_error hresult] at hfollows
      obtain ⟨rfl, hpiece⟩ := eq_unexpectedCharacter hfollows hother hnone
      exact ⟨rfl, hpiece⟩

end Reading

theorem FaultAt.exists_cons {fault : SyntaxFault} {piece text : List Char}
    (h : FaultAt fault piece text) : ∃ c rest, text = c :: rest ∧ isBlank c = false := by
  cases h with
  | unterminated => exact ⟨_, _, rfl, by decide⟩
  | equals => exact ⟨_, _, rfl, by decide⟩
  | exclamation => exact ⟨_, _, rfl, by decide⟩
  | number hd =>
    obtain ⟨c, piece, hspelling, -⟩ := hd.exists_cons_spelling
    have hlexical : Lexical (c :: piece) := .inr ⟨_, hd, hspelling.symm⟩
    exact ⟨c, _, by rw [hspelling, List.cons_append], hlexical.isBlank_eq_false⟩
  | character hblank => exact ⟨_, _, rfl, hblank⟩

end Sift
