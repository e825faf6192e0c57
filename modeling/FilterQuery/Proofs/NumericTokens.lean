import FilterQuery.Proofs.PatternTexts
import FilterQuery.Proofs.Writer

/-!
# Numerals in queries

A field is compared with a number by writing its numeral after a colon. All characters of a numeral
can stand in a value without quotes, but for the plus sign of an exponent: there the value ends, and
the query is refused for what comes next. A numeral without a plus sign is read as its number.
-/

namespace FilterQuery

open Text Token Grammar

/-! ### The characters of numerals -/

namespace Decimal

/-- The characters of a numeral that are no digits. -/
def marks : List Char := ['-', '.', 'e', 'E', '+']

section Parts

variable {cs rest whole fraction : List Char}

lemma eq_of_run (h : run Char.isDigit cs = (whole, rest)) :
    cs = whole ++ rest ∧ ∀ c ∈ whole, c.isDigit = true := by
  obtain ⟨rfl, rfl⟩ := Prod.mk.inj h
  exact ⟨List.takeWhile_append_dropWhile.symm, fun c hc => List.mem_takeWhile_imp hc⟩

lemma eq_of_readSign (cs : List Char) :
    cs = (if (readSign cs).1 then ['-'] else []) ++ (readSign cs).2 := by
  unfold readSign
  split <;> rfl

lemma mem_pointed (hwhole : ∀ c ∈ whole, c.isDigit = true)
    (hfraction : ∀ c ∈ fraction, c.isDigit = true) :
    ∀ c ∈ whole ++ '.' :: fraction, c.isDigit = true ∨ c = '.' := by
  intro c hc
  obtain hc | rfl | hc := by simpa only [List.mem_append, List.mem_cons] using hc
  · exact .inl (hwhole c hc)
  · exact .inr rfl
  · exact .inl (hfraction c hc)

/-- The mantissa is made of digits and points, and is not empty. -/
lemma exists_of_readMantissa (h : readMantissa cs = some (whole, fraction, rest)) :
    ∃ m, cs = m ++ rest ∧ m ≠ [] ∧ ∀ c ∈ m, c.isDigit = true ∨ c = '.' := by
  unfold readMantissa at h
  split at h
  · rename_i tail hrun
    obtain ⟨rfl, hwhole⟩ := eq_of_run hrun
    split at h
    · cases h
    · rename_i hfraction
      cases h
      obtain ⟨rfl, hdigits⟩ := eq_of_run hfraction
      exact ⟨'.' :: fraction, rfl, List.cons_ne_nil _ _, mem_pointed hwhole hdigits⟩
  · cases h
  · rename_i tail _ hrun
    obtain ⟨rfl, hwhole⟩ := eq_of_run hrun
    cases hfraction : run Char.isDigit tail with
    | mk f r =>
      rw [hfraction] at h
      cases h
      obtain ⟨rfl, hdigits⟩ := eq_of_run hfraction
      exact ⟨whole ++ '.' :: fraction, by simp, by simp, mem_pointed hwhole hdigits⟩
  · rename_i hne _ hrun
    cases h
    obtain ⟨rfl, hwhole⟩ := eq_of_run hrun
    exact ⟨whole, rfl, fun hnil => hne hnil, fun c hc => .inl (hwhole c hc)⟩

lemma isDigit_of_readWhole {n : ℕ} (h : readWhole cs = some n) : ∀ c ∈ cs, c.isDigit = true := by
  unfold readWhole at h
  split_ifs at h with hdigits
  exact List.all_eq_true.mp hdigits.2

lemma mem_of_readExponent {e : ℤ} (h : readExponent cs = some e) :
    ∀ c ∈ cs, c.isDigit = true ∨ c ∈ marks := by
  unfold readExponent at h
  split at h
  · exact fun c hc => nomatch hc
  · rename_i first tail
    split_ifs at h with hfirst
    have hmark : first ∈ marks := by
      obtain rfl | rfl := hfirst <;> decide
    have htail : ∀ c ∈ tail, c.isDigit = true ∨ c ∈ marks := by
      have hsigned {sign : Char} {ds : List Char} {n : ℕ} (hsign : sign ∈ marks)
          (hread : readWhole ds = some n) : ∀ c ∈ sign :: ds, c.isDigit = true ∨ c ∈ marks := by
        intro c hc
        obtain rfl | hmem := List.mem_cons.mp hc
        · exact .inr hsign
        · exact .inl (isDigit_of_readWhole hread c hmem)
      split at h
      all_goals
        obtain ⟨n, hcast, -⟩ := Option.map_eq_some_iff.mp h
        obtain ⟨m, hread, -⟩ := Option.bind_eq_some_iff.mp hcast
      · exact hsigned (by decide) hread
      · exact hsigned (by decide) hread
      · exact fun c hc => .inl (isDigit_of_readWhole hread c hc)
    intro c hc
    obtain rfl | hmem := List.mem_cons.mp hc
    · exact .inr hmark
    · exact htail c hmem

end Parts

/-- A numeral is made of digits and marks, and does not start with a plus sign. -/
lemma mem_of_read? {cs : List Char} {d : Decimal} (h : read? cs = some d) :
    cs ≠ [] ∧ cs.head? ≠ some '+' ∧ ∀ c ∈ cs, c.isDigit = true ∨ c ∈ marks := by
  have hsplit := eq_of_readSign cs
  unfold read? at h
  dsimp only at h
  generalize readSign cs = signed at h hsplit
  obtain ⟨negative, body⟩ := signed
  dsimp only at h hsplit
  cases hmantissa : readMantissa body with
  | none =>
    rw [hmantissa] at h
    cases h
  | some parts =>
    obtain ⟨whole, fraction, rest⟩ := parts
    rw [hmantissa] at h
    obtain ⟨e, hexponent, -⟩ := Option.map_eq_some_iff.mp h
    obtain ⟨m, rfl, hne, hmem⟩ := exists_of_readMantissa hmantissa
    obtain ⟨first, tail, rfl⟩ := List.exists_cons_of_ne_nil hne
    have hplus : first ≠ '+' := by
      rintro rfl
      exact absurd (hmem '+' List.mem_cons_self) (by decide)
    refine ⟨?_, ?_, ?_⟩
    · rw [hsplit]
      simp
    · rw [hsplit]
      cases negative with
      | true => exact fun heq => absurd (Option.some.inj heq) (by decide)
      | false => exact fun heq => hplus (Option.some.inj heq)
    · intro c hc
      rw [hsplit] at hc
      obtain hsign | hc := List.mem_append.mp hc
      · split_ifs at hsign
        · rw [List.mem_singleton.mp hsign]
          exact .inr (by decide)
        · cases hsign
      obtain hc | hc := List.mem_append.mp hc
      · refine (hmem c hc).imp id ?_
        rintro rfl
        decide
      · exact mem_of_readExponent hexponent c hc

end Decimal

lemma Token.isBareChar_of_numeral {c : Char} (h : c.isDigit = true ∨ c ∈ Decimal.marks)
    (hplus : c ≠ '+') : isBareChar c = true ∧ c ≠ '*' := by
  obtain hdigit | hmark := h
  · have hword : Unicode.isWord c = true := by
      apply Unicode.isWord_of_isAlphanum
      rw [Char.isAlphanum, hdigit, Bool.or_true]
    refine ⟨isBareChar_of_isNameChar (isNameChar_of_isWord hword), ?_⟩
    rintro rfl
    exact absurd hdigit (by decide)
  · have hmarks : ∀ c ∈ Decimal.marks, (c == '+' || isBareChar c && c != '*') = true :=
      List.all_eq_true.mp (by decide)
    simpa [hplus] using hmarks c hmark

/-! ### A bare value after a colon -/

/-- A bare value without a star stands for a literal. -/
lemma Token.Value.exists_literal_bare {cs : List Char} (hbare : ∀ c ∈ cs, isBareChar c = true)
    (hstar : '*' ∉ cs) : ∃ value, (Token.Value.bare cs).literal = .ok value := by
  have hcontains : ¬cs.contains '*' = true := by simpa using hstar
  have hread : ∃ value, Literal.ofBare cs = .ok value := by
    unfold Literal.ofBare
    rw [if_neg hcontains]
    split_ifs <;> exact ⟨_, rfl⟩
  obtain ⟨value, hvalue⟩ := hread
  have htext : Literal.ofText false cs = .ok value := by
    cases cs with
    | nil => exact hvalue
    | cons c rest => rw [Pattern.ofText_bare (hbare c List.mem_cons_self), hvalue]
  simp only [literal]
  split
  · exact ⟨_, rfl⟩
  · rw [htext]
    exact ⟨value, rfl⟩

namespace Query

section Bare

variable {name : String} {cs rest : List Char} {value : Literal} {c : Char}

lemma trimStart_cons (hspace : Unicode.isSpace c = false) :
    trimStart (c :: rest) = c :: rest := by
  refine trimStart_of_head ?_
  rintro d ⟨⟩
  exact hspace

/-- No white space stands before a name. -/
lemma not_isSpace_head (hname : FieldName name) (after : List Char) :
    ∀ c ∈ (name.toList ++ after).head?, Unicode.isSpace c = false := by
  obtain ⟨d, tail, hcons⟩ := List.exists_cons_of_ne_nil hname.1
  have hd := not_isSpace_of_isNameChar (hname.2 d (hcons ▸ List.mem_cons_self))
  rw [hcons]
  rintro e ⟨⟩
  exact hd

lemma link_colon (hrun : LongestRun isBareChar cs rest) : Link [':'] none (cs ++ rest) := by
  obtain ⟨d, tail, rfl, hd⟩ := head_of_longestRun hrun
  have hcolon : LongestRun isComparatorChar [':'] ([] ++ (d :: tail ++ rest)) := by
    refine ⟨List.cons_ne_nil _ _, List.all_eq_true.mp rfl, ?_⟩
    rintro e ⟨⟩
    by_contra hcomparator
    rw [Bool.not_eq_false] at hcomparator
    rw [not_isBareChar_of_isComparatorChar hcomparator] at hd
    cases hd
  exact .comparator blank_nil hcolon ⟨[':'], by decide, .inl rfl⟩ blank_nil

/-- The value of a field ends where its run of characters ends, and the chain with it. -/
lemma toPair_readChain_bare (hname : FieldName name) (hrun : LongestRun isBareChar cs (c :: rest))
    (hspace : Unicode.isSpace c = false) (hvalue : (Token.Value.bare cs).literal = .ok value) :
    (readChain (name.toList ++ ':' :: cs ++ c :: rest)).toPair =
      (.ok (.field name value none), c :: rest) := by
  have hbare : isBareChar c = false := hrun.ends c rfl
  have hstart : trimStart (c :: rest) = c :: rest := trimStart_cons hspace
  have hword : Unicode.isWord c = false := by
    by_contra hword
    rw [Bool.not_eq_false] at hword
    rw [isBareChar_of_isNameChar (isNameChar_of_isWord hword)] at hbare
    cases hbare
  have hkeyword : keyword? (c :: rest) = none := by
    simp [keyword?, hstart, hword, Connective.ofKeyword?]
  have hflag : ([] ++ c :: rest).head? ≠ some 'i' := by
    intro heq
    rw [Option.some.inj heq] at hbare
    exact absurd hbare (by decide)
  obtain ⟨token, hcomparison, htoken⟩ :=
    comparison?_append (w := []) (link_colon hrun) (.bare hrun) blank_nil hflag
  have hleaf : ofComparison name.toList value none =
      .ok (.field (String.ofList name.toList) value none) :=
    ofComparison_of_leaf (.field hname.head_ne)
  rw [String.ofList_toList] at hleaf
  have htext : name.toList ++ ':' :: cs ++ c :: rest =
      name.toList ++ ([':'] ++ cs ++ ([] ++ c :: rest)) := by simp
  have hnameRun : LongestRun isNameChar name.toList ([':'] ++ cs ++ ([] ++ c :: rest)) :=
    longestRun_name hname none (cs ++ c :: rest)
  rw [htext, toPair_readChain, toPair_readPart_of_name (name?_append (.plain hnameRun)),
    toPair_readComparison, hcomparison]
  simp only [htoken, hvalue, hleaf, hstart, Except.mapError, hkeyword]

/-- After a field with a bare value only a parenthesis can close the query. -/
lemma toPair_readGroup_bare (hname : FieldName name) (hrun : LongestRun isBareChar cs (c :: rest))
    (hspace : Unicode.isSpace c = false) (hvalue : (Token.Value.bare cs).literal = .ok value) :
    (readGroup ('(' :: (name.toList ++ ':' :: cs ++ c :: rest))).toPair =
      if c = ')' then (.ok (.field name value none), rest)
      else (.error (.ofFault (c :: rest) .missingClose), c :: rest) := by
  have hopen : trimStart (name.toList ++ ':' :: cs ++ c :: rest) =
      name.toList ++ ':' :: cs ++ c :: rest := by
    rw [List.append_assoc]
    exact trimStart_of_head (not_isSpace_head hname _)
  rw [toPair_readGroup_cons, hopen, toPair_readChain_bare hname hrun hspace hvalue]
  dsimp only
  rw [trimStart_cons hspace]
  split_ifs with hclose
  · subst hclose
    rfl
  · split
    · rename_i heq
      exact absurd (List.cons.inj heq).1 hclose
    · rfl

end Bare

/-! ### Numerals after a colon -/

section Numerals

variable {name : String} {cs : List Char} {x : Double}

/-- There is no white space at either end of the query. -/
lemma trim_numeral (hname : FieldName name) (hne : cs ≠ [])
    (hmem : ∀ c ∈ cs, c.isDigit = true ∨ c ∈ Decimal.marks) :
    trim (name.toList ++ ':' :: cs) = name.toList ++ ':' :: cs := by
  have hlast : ∀ c ∈ (name.toList ++ ':' :: cs).getLast?, Unicode.isSpace c = false := by
    rw [List.getLast?_append_of_ne_nil _ (List.cons_ne_nil _ _), List.getLast?_cons_of_ne_nil hne]
    intro c hc
    by_cases hplus : c = '+'
    · rw [hplus]
      decide
    · have hbare := isBareChar_of_numeral (hmem c (List.mem_of_getLast? hc)) hplus
      exact not_isSpace_of_isBareChar hbare.1
  have htrim := trim_eq blank_nil blank_nil (not_isSpace_head hname _) hlast (by simp)
  rwa [List.nil_append, List.append_nil] at htrim

/-- The value is what comes before the first plus sign, whatever that is. -/
lemma toPair_readGroup_of_plus (hname : FieldName name) (hne : cs.head? ≠ some '+')
    (hmem : ∀ c ∈ cs, c.isDigit = true ∨ c ∈ Decimal.marks) (hplus : '+' ∈ cs) :
    (readGroup ('(' :: (name.toList ++ ':' :: cs ++ [')']))).toPair =
      (.error (.ofFault (cs.dropWhile (· != '+') ++ [')']) .missingClose),
        cs.dropWhile (· != '+') ++ [')']) := by
  obtain ⟨ds, rest, rfl, hds⟩ := List.eq_append_cons_of_mem hplus
  have hbare : ∀ c ∈ ds, isBareChar c = true ∧ c ≠ '*' := fun c hc =>
    isBareChar_of_numeral (hmem c (List.mem_append_left _ hc)) fun heq => hds (heq ▸ hc)
  have hnil : ds ≠ [] := by
    rintro rfl
    exact hne rfl
  have hrun : LongestRun isBareChar ds ('+' :: (rest ++ [')'])) :=
    ⟨hnil, fun c hc => (hbare c hc).1, by rintro c ⟨⟩; decide⟩
  obtain ⟨value, hvalue⟩ :=
    Token.Value.exists_literal_bare hrun.all fun hstar => (hbare '*' hstar).2 rfl
  have hbefore : ∀ c ∈ ds, (c != '+') = true := by
    intro c hc
    simpa using fun heq : c = '+' => hds (heq ▸ hc)
  have hsplit : run (· != '+') (ds ++ '+' :: rest) = (ds, '+' :: rest) :=
    run_append hbefore (by rintro c ⟨⟩; rfl)
  have hdrop : (ds ++ '+' :: rest).dropWhile (· != '+') = '+' :: rest := congrArg Prod.snd hsplit
  have htext : name.toList ++ ':' :: (ds ++ '+' :: rest) ++ [')'] =
      name.toList ++ ':' :: ds ++ '+' :: (rest ++ [')']) := by simp
  rw [htext, toPair_readGroup_bare hname hrun (by decide) hvalue, hdrop]
  rfl

lemma exists_of_readNumber? (h : Literal.readNumber? cs = some x) :
    ∃ d, Decimal.read? cs = some d := by
  unfold Literal.readNumber? at h
  split at h
  · exact ⟨_, by assumption⟩
  · cases h

lemma rest_wrap (hname : FieldName name) (hne : cs ≠ [])
    (hmem : ∀ c ∈ cs, c.isDigit = true ∨ c ∈ Decimal.marks) :
    (Parser.ofSource (wrap (String.ofList (name.toList ++ ':' :: cs)))).rest =
      '(' :: (name.toList ++ ':' :: cs ++ [')']) := by
  rw [wrap, String.toList_ofList, trim_numeral hname hne hmem]
  rfl

/-- The number of a numeral without a plus sign is what the field is compared with. -/
lemma parse_unsignedNumeral (hname : FieldName name) (h : Literal.readNumber? cs = some x)
    (hplus : '+' ∉ cs) :
    Query.parse (String.ofList (name.toList ++ ':' :: cs)) = .ok (.field name (.number x) none) := by
  obtain ⟨d, hread⟩ := exists_of_readNumber? h
  obtain ⟨hne, -, hmem⟩ := Decimal.mem_of_read? hread
  have hbare : ∀ c ∈ cs, isBareChar c = true := fun c hc =>
    (isBareChar_of_numeral (hmem c hc) fun heq => hplus (heq ▸ hc)).1
  have hrun : LongestRun isBareChar cs [')'] := ⟨hne, hbare, by rintro c ⟨⟩; decide⟩
  have hvalue : (Token.Value.bare cs).literal = .ok (.number x) := by
    simp only [Token.Value.literal, h]
  rw [Query.parse, Parser.parse_fst, rest_wrap hname hne hmem,
    toPair_readGroup_bare hname hrun (by decide) hvalue]
  rfl

/-- A field whose numeral has no plus sign is compared with the number. A plus sign ends the value
before it, and is refused together with what follows it. -/
theorem parse_numeral (hname : FieldName name) (h : Literal.readNumber? cs = some x) :
    Query.parse (String.ofList (name.toList ++ ':' :: cs)) =
      if '+' ∈ cs then .error (.ofFault (cs.dropWhile (· != '+') ++ [')']) .missingClose)
      else .ok (.field name (.number x) none) := by
  obtain ⟨d, hread⟩ := exists_of_readNumber? h
  obtain ⟨hne, hhead, hmem⟩ := Decimal.mem_of_read? hread
  split_ifs with hplus
  · rw [Query.parse, Parser.parse_fst, rest_wrap hname hne hmem,
      toPair_readGroup_of_plus hname hhead hmem hplus]
  · exact parse_unsignedNumeral hname h hplus

/-- Neither a digit before the point nor a sign of the exponent is needed. -/
theorem parse_numeral_fraction :
    Query.parse "a.b:-.5E1" =
      .ok (.field "a.b" (.number ⟨true, 0x4014000000000000, by decide⟩) none) := by
  have hname : FieldName "a.b" := ⟨by decide, List.all_eq_true.mp rfl⟩
  have hread : Literal.readNumber? "-.5E1".toList =
      some ⟨true, 0x4014000000000000, by decide⟩ := by
    decide +kernel
  have hparse := parse_numeral hname hread
  rwa [if_neg (by decide)] at hparse

/-- Not every numeral is read as a value: this one ends its value at the plus sign. -/
theorem not_forall_parse_numeral :
    ¬∀ (name : String) (cs : List Char) (x : Double), FieldName name →
      Literal.readNumber? cs = some x →
      Query.parse (String.ofList (name.toList ++ ':' :: cs)) =
        .ok (.field name (.number x) none) := by
  intro h
  have hname : FieldName "f" := ⟨by decide, List.all_eq_true.mp rfl⟩
  have hread : Literal.readNumber? "1e+5".toList =
      some ⟨false, 0x40F86A0000000000, by decide⟩ := by
    decide +kernel
  have hparse : Query.parse "f:1e+5" = .error (.grammar .missingClose "+5)") := by
    decide +kernel
  have hfield := h "f" "1e+5".toList _ hname hread
  rw [show String.ofList ("f".toList ++ ':' :: "1e+5".toList) = "f:1e+5" from rfl, hparse] at hfield
  cases hfield

end Numerals

end Query

end FilterQuery
