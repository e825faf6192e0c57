import FilterQuery.Proofs.Grammar
import FilterQuery.Query.TokenSuffix

/-!
# Tokens and the grammar

Each token function takes exactly what the grammar says off the head of a text. One lemma says that
a token of the grammar is found in front of any text that the grammar allows after it, another one
that what is found is a token of the grammar.
-/

namespace FilterQuery

namespace Unicode

lemma not_isWord_of_spaceTable :
    ∀ r ∈ spaceTable, ∀ n ∈ List.range' r.1 (r.2 + 1 - r.1), isWord (Char.ofNat n) = false := by
  decide +kernel

lemma not_isWord_of_isSpace {c : Char} (h : isSpace c = true) : isWord c = false := by
  obtain ⟨r, hr, hc⟩ := List.any_eq_true.mp h
  simp only [Bool.and_eq_true, decide_eq_true_eq] at hc
  have hn : c.toNat ∈ List.range' r.1 (r.2 + 1 - r.1) := by
    rw [List.mem_range'_1]
    omega
  have hw := not_isWord_of_spaceTable r hr c.toNat hn
  rwa [Char.ofNat_toNat] at hw

lemma isAlphanum_iff {c : Char} : c.isAlphanum = true ↔
    65 ≤ c.toNat ∧ c.toNat ≤ 90 ∨ 97 ≤ c.toNat ∧ c.toNat ≤ 122 ∨ 48 ≤ c.toNat ∧ c.toNat ≤ 57 := by
  change (decide (65 ≤ c.val ∧ c.val ≤ 90) || (decide (97 ≤ c.val) && decide (c.val ≤ 122)) ||
    (decide (48 ≤ c.val) && decide (c.val ≤ 57))) = true ↔ _
  simp [UInt32.le_iff_toNat_le, or_assoc]

lemma isWord_of_isAlphanum {c : Char} (h : c.isAlphanum = true) : isWord c = true := by
  have hlt : c.toNat < 0x80 := by
    have := isAlphanum_iff.mp h
    omega
  simp [isWord, hlt, h]

lemma isWord_of_toLower {c : Char} (h : c.toLower.isAlphanum = true) : isWord c = true := by
  apply isWord_of_isAlphanum
  unfold Char.toLower at h
  split at h
  · rename_i hc
    rw [isAlphanum_iff]
    left
    simpa [UInt32.le_iff_toNat_le, ← Char.toNat_val] using hc
  · exact h

end Unicode

namespace ObjectIdLiteral

open Text

variable {l : ObjectIdLiteral} {cs rest : List Char}

lemma after_eq_some {c : Char} (h : after c cs = some rest) : cs = c :: rest := by
  cases cs with
  | nil => cases h
  | cons d ds =>
    simp only [after] at h
    split at h
    · rename_i hd
      cases h
      rw [hd]
    · cases h

lemma append_of_isPrefixOf? {ds : List Char} (h : ds.isPrefixOf? cs = some rest) :
    cs = ds ++ rest := by
  induction ds generalizing cs with
  | nil => exact Option.some.inj h
  | cons d ds ih =>
    cases cs with
    | nil => cases h
    | cons c cs =>
      change (if d == c then ds.isPrefixOf? cs else none) = some rest at h
      split at h
      · rename_i hd
        rw [ih h, eq_of_beq hd, List.cons_append]
      · cases h

lemma isPrefixOf?_append (ds : List Char) : ds.isPrefixOf? (ds ++ rest) = some rest := by
  induction ds with
  | nil => rfl
  | cons d ds ih =>
    change (if d == d then ds.isPrefixOf? (ds ++ rest) else none) = some rest
    rw [if_pos (beq_self_eq_true d), ih]

lemma run_gap {w tail : List Char} {c : Char} (hw : Blank w) (hc : Unicode.isSpace c = false) :
    run Unicode.isSpace (w ++ c :: tail) = (w, c :: tail) :=
  run_append hw (by rintro d ⟨⟩; exact hc)

lemma read?_append (h : l.Spaced) (rest : List Char) : read? (l.text ++ rest) = some (l, rest) := by
  have hkey (tail : List Char) : run Unicode.isSpace (l.afterBrace ++ (keyText ++ tail)) =
      (l.afterBrace, keyText ++ tail) :=
    run_gap h.afterBrace (show Unicode.isSpace '"' = false by decide)
  have hcolon (tail : List Char) : run Unicode.isSpace (l.afterKey ++ ':' :: tail) =
      (l.afterKey, ':' :: tail) := run_gap h.afterKey (by decide)
  have hquote (tail : List Char) : run Unicode.isSpace (l.afterColon ++ '"' :: tail) =
      (l.afterColon, '"' :: tail) := run_gap h.afterColon (by decide)
  have hbrace (tail : List Char) : run Unicode.isSpace (l.afterValue ++ '\x7d' :: tail) =
      (l.afterValue, '\x7d' :: tail) := run_gap h.afterValue (by decide)
  have htake (tail : List Char) : (l.digits ++ tail).take 24 = l.digits :=
    List.take_left' l.digits_length
  have hdrop (tail : List Char) : (l.digits ++ tail).drop 24 = tail :=
    List.drop_left' l.digits_length
  simp only [text, List.cons_append, List.append_assoc, List.nil_append, read?, after, if_true,
    Option.bind_eq_bind, Option.bind_some, hkey, isPrefixOf?_append, hcolon, hquote, hbrace, htake,
    hdrop]
  rw [dif_pos ⟨l.digits_hex, l.digits_length⟩]

lemma text_of_read? (h : read? cs = some (l, rest)) : cs = l.text ++ rest ∧ l.Spaced := by
  simp only [read?, Option.bind_eq_bind, Option.bind_eq_some_iff, run_fst, run_snd] at h
  obtain ⟨c₁, h₁, c₂, h₂, c₃, h₃, c₄, h₄, c₅, h₅, c₆, h₆, h⟩ := h
  split at h
  · rename_i hd
    simp only [Option.some.injEq, Prod.mk.injEq] at h
    obtain ⟨rfl, rfl⟩ := h
    have hsplit (ds : List Char) :
        ds = ds.takeWhile Unicode.isSpace ++ ds.dropWhile Unicode.isSpace :=
      List.takeWhile_append_dropWhile.symm
    have hblank (ds : List Char) : Blank (ds.takeWhile Unicode.isSpace) :=
      fun _ hc => List.mem_takeWhile_imp hc
    refine ⟨?_, hblank _, hblank _, hblank _, hblank _⟩
    have e₁ := hsplit c₁
    have e₂ := hsplit c₂
    have e₃ := hsplit c₃
    have e₄ : c₄ = c₄.take 24 ++ c₄.drop 24 := (List.take_append_drop 24 c₄).symm
    have e₅ := hsplit c₅
    rw [append_of_isPrefixOf? h₂] at e₁
    rw [after_eq_some h₃] at e₂
    rw [after_eq_some h₄] at e₃
    rw [after_eq_some h₅] at e₄
    rw [after_eq_some h₆] at e₅
    rw [after_eq_some h₁]
    simp only [text, List.cons_append, List.append_assoc, List.nil_append, List.cons.injEq,
      true_and]
    rw [← e₅, ← e₄, ← e₃, ← e₂, ← e₁]
  · cases h

end ObjectIdLiteral

namespace Token

open Text Grammar

/-! ### Classes of characters -/

section Classes

variable {c : Char}

lemma not_isSpace_of_isBareChar (h : isBareChar c = true) : Unicode.isSpace c = false := by
  by_contra hs
  rw [Bool.not_eq_false] at hs
  simp only [isBareChar, isNameChar, Unicode.not_isWord_of_isSpace hs, Bool.or_false,
    Bool.or_eq_true, beq_iff_eq] at h
  rcases h with (rfl | rfl) | rfl
  · exact absurd hs (by decide)
  · exact absurd hs (by decide)
  · exact absurd hs (by decide)

lemma isBareChar_of_isNameChar (h : isNameChar c = true) : isBareChar c = true := by
  simp [isBareChar, h]

lemma not_isSpace_of_isNameChar (h : isNameChar c = true) : Unicode.isSpace c = false :=
  not_isSpace_of_isBareChar (isBareChar_of_isNameChar h)

lemma isNameChar_of_isWord (h : Unicode.isWord c = true) : isNameChar c = true := by
  simp [isNameChar, h]

lemma isComparatorChar_iff :
    isComparatorChar c = true ↔ c = ':' ∨ c = '>' ∨ c = '<' ∨ c = '!' ∨ c = '=' := by
  simp [isComparatorChar, or_assoc]

lemma not_isSpace_of_isComparatorChar (h : isComparatorChar c = true) :
    Unicode.isSpace c = false := by
  rcases isComparatorChar_iff.mp h with rfl | rfl | rfl | rfl | rfl <;> decide

lemma not_isBareChar_of_isComparatorChar (h : isComparatorChar c = true) :
    isBareChar c = false := by
  rcases isComparatorChar_iff.mp h with rfl | rfl | rfl | rfl | rfl <;> decide

end Classes

/-! ### Names -/

section Names

variable {name cs after rest : List Char}

lemma plainName?_append (h : LongestRun isNameChar name after) :
    plainName? (name ++ after) = some (name, after) := by
  rw [plainName?, h.run_eq]
  split
  · rename_i heq
    exact absurd (congrArg Prod.fst heq) h.ne_nil
  · rename_i heq
    rw [← heq]

lemma longestRun_of_plainName? (h : plainName? cs = some (name, rest)) :
    cs = name ++ rest ∧ LongestRun isNameChar name rest := by
  unfold plainName? at h
  split at h
  · simp at h
  · rename_i hne heq
    simp only [Option.some.injEq, Prod.mk.injEq] at h
    obtain ⟨rfl, rfl⟩ := h
    have hname := congrArg Prod.fst heq
    have hrest := congrArg Prod.snd heq
    simp only [run_fst, run_snd] at hname hrest
    have hnil : cs.takeWhile isNameChar ≠ [] := by
      rw [hname]
      exact fun he => hne (he ▸ rfl)
    have hrun := longestRun_takeWhile hnil
    rw [hname, hrest] at hrun
    refine ⟨?_, hrun⟩
    rw [← hname, ← hrest, List.takeWhile_append_dropWhile]

lemma head_of_longestRun {p : Char → Bool} (h : LongestRun p name after) :
    ∃ c tail, name = c :: tail ∧ p c = true := by
  obtain ⟨c, tail, rfl⟩ := List.exists_cons_of_ne_nil h.ne_nil
  exact ⟨c, tail, rfl, h.all c List.mem_cons_self⟩

lemma name?_append (h : Name name after) : name? (name ++ after) = some (name, after) := by
  cases h with
  | plain h =>
    obtain ⟨c, tail, rfl, hc⟩ := head_of_longestRun h
    have hd : c ≠ '$' := by
      rintro rfl
      exact absurd hc (by decide)
    rw [List.cons_append, name?]
    · exact plainName?_append h
    · rintro rest heq
      exact hd (List.cons.inj heq).1
  | dollars h =>
    simp [name?, plainName?_append h]

lemma name_of_name? (h : name? cs = some (name, rest)) : cs = name ++ rest ∧ Name name rest := by
  unfold name? at h
  split at h
  · rename_i tail
    simp only [Option.map_eq_some_iff, Prod.mk.injEq, Prod.exists] at h
    obtain ⟨core, r, hr, rfl, rfl⟩ := h
    obtain ⟨rfl, hrun⟩ := longestRun_of_plainName? hr
    exact ⟨rfl, .dollars hrun⟩
  · obtain ⟨rfl, hrun⟩ := longestRun_of_plainName? h
    exact ⟨rfl, .plain hrun⟩

end Names

/-! ### Keywords -/

section Keywords

variable {word v after cs rest : List Char} {op : Connective}

lemma isWord_of_keyword (h : Keyword word op) : ∀ c ∈ word, Unicode.isWord c = true := by
  intro c hc
  have hmem : c.toLower ∈ op.name.toList := h ▸ List.mem_map_of_mem hc
  have hall : op.name.toList.all Char.isAlphanum = true := by
    cases op <;> rfl
  exact Unicode.isWord_of_toLower (List.all_eq_true.mp hall _ hmem)

lemma keyword_ne_nil (h : Keyword word op) : word ≠ [] := by
  rintro rfl
  cases op <;> simp [Keyword, Connective.name] at h

lemma ofKeyword?_eq_some_iff : Connective.ofKeyword? word = some op ↔ Keyword word op := by
  unfold Connective.ofKeyword? Keyword
  constructor
  · intro h
    split at h
    · rename_i hw
      cases h
      exact hw
    · rename_i hw
      cases h
      exact hw
    · cases h
  · intro h
    rw [h]
    cases op <;> rfl

lemma keyword?_append (hv : Blank v) (hk : Keyword word op)
    (ha : ∀ c ∈ after.head?, Unicode.isWord c = false) :
    keyword? (v ++ word ++ after) = some (op, trimStart after) := by
  have hword := isWord_of_keyword hk
  have hstart : trimStart (v ++ word ++ after) = word ++ after := by
    rw [List.append_assoc, trimStart_append hv]
    apply trimStart_of_head
    obtain ⟨c, tail, rfl⟩ := List.exists_cons_of_ne_nil (keyword_ne_nil hk)
    rintro d ⟨⟩
    exact not_isSpace_of_isNameChar (isNameChar_of_isWord (hword c List.mem_cons_self))
  simp only [keyword?, hstart, run_append hword ha, ofKeyword?_eq_some_iff.mpr hk, Option.map_some]

lemma keyword_of_keyword? (h : keyword? cs = some (op, rest)) :
    ∃ v word w, cs = v ++ word ++ w ++ rest ∧ Blank v ∧ Keyword word op ∧ Blank w ∧
      ∀ c ∈ (w ++ rest).head?, Unicode.isWord c = false := by
  obtain ⟨v, hv, hcs⟩ := exists_blank_trimStart cs
  simp only [keyword?, run_fst, run_snd, Option.map_eq_some_iff, Prod.mk.injEq,
    ofKeyword?_eq_some_iff] at h
  obtain ⟨op', hk, rfl, hrest⟩ := h
  obtain ⟨w, hw, htail⟩ := exists_blank_trimStart ((trimStart cs).dropWhile Unicode.isWord)
  rw [hrest] at htail
  refine ⟨v, (trimStart cs).takeWhile Unicode.isWord, w, ?_, hv, hk, hw, ?_⟩
  · rw [List.append_assoc, ← htail, List.append_assoc, List.takeWhile_append_dropWhile]
    exact hcs
  · rw [← htail]
    exact head_dropWhile _ _

end Keywords

/-! ### Comparators -/

section Comparators

variable {token : List Char} {cmp : Option Comparator}

lemma comparator_of_token (h : ComparatorToken token cmp) : comparator token = .ok cmp := by
  obtain ⟨core, hmem, rfl | rfl⟩ := h
  all_goals
    simp only [comparators, List.mem_cons, Prod.mk.injEq, List.not_mem_nil, or_false] at hmem
    rcases hmem with ⟨rfl, rfl⟩ | ⟨rfl, rfl⟩ | ⟨rfl, rfl⟩ | ⟨rfl, rfl⟩ | ⟨rfl, rfl⟩ | ⟨rfl, rfl⟩ |
      ⟨rfl, rfl⟩ | ⟨rfl, rfl⟩ <;> rfl

lemma token_of_ofToken? {core : List Char} {c : Comparator}
    (h : Comparator.ofToken? core = some c) : (core, some c) ∈ comparators := by
  unfold Comparator.ofToken? at h
  split at h <;> cases h <;> decide

lemma token_of_comparator (ht : token ≠ []) (h : comparator token = .ok cmp) :
    ComparatorToken token cmp := by
  have hequality : ∀ core : List Char, core ≠ [] →
      core = [] ∨ core = [':'] ∨ core = ['='] ∨ core = ['=', '='] → (core, none) ∈ comparators := by
    rintro core hne (rfl | rfl | rfl | rfl)
    · exact absurd rfl hne
    all_goals decide
  unfold comparator at h
  split at h
  · rename_i c rest
    refine ⟨c :: rest, ?_, .inr rfl⟩
    dsimp only at h
    split at h
    · rename_i he
      cases h
      exact hequality _ (by simp) he
    · split at h
      · rename_i hc
        cases h
        exact token_of_ofToken? hc
      · cases h
  · refine ⟨token, ?_, .inl rfl⟩
    dsimp only at h
    split at h
    · rename_i he
      cases h
      exact hequality _ ht he
    · split at h
      · rename_i hc
        cases h
        exact token_of_ofToken? hc
      · cases h

lemma comparatorToken_ne_nil (h : ComparatorToken token cmp) : token ≠ [] := by
  rintro rfl
  obtain ⟨core, hmem, h | h⟩ := h
  · subst h
    simp [comparators] at hmem
  · cases h

end Comparators

/-! ### Values -/

section Values

variable {cs after rest : List Char} {v : Token.Value}

lemma regexBody?_append (h : RegexBody cs) (rest : List Char) :
    regexBody? (cs ++ '/' :: rest) = some (cs, rest) := by
  induction h with
  | nil => rfl
  | escape hc _ ih => simp [regexBody?, hc, ih]
  | char hs hb _ ih => simp [regexBody?, hb, ih]

lemma regexBody_of_regexBody? (h : regexBody? cs = some (after, rest)) :
    cs = after ++ '/' :: rest ∧ RegexBody after := by
  fun_induction regexBody? cs generalizing after rest with
  | case1 => simp at h
  | case2 tail =>
    simp only [Option.some.injEq, Prod.mk.injEq] at h
    obtain ⟨rfl, rfl⟩ := h
    exact ⟨rfl, .nil⟩
  | case3 => simp at h
  | case4 c tail hc ih =>
    simp only [Option.map_eq_some_iff, Prod.mk.injEq, Prod.exists] at h
    obtain ⟨b, r, hr, rfl, rfl⟩ := h
    obtain ⟨rfl, hb⟩ := ih hr
    exact ⟨rfl, .escape hc hb⟩
  | case5 => simp at h
  | case6 c tail hs _ hb ih =>
    simp only [Option.map_eq_some_iff, Prod.mk.injEq, Prod.exists] at h
    obtain ⟨b, r, hr, rfl, rfl⟩ := h
    obtain ⟨rfl, hbody⟩ := ih hr
    exact ⟨rfl, .char hs hb hbody⟩

lemma quotedBody?_append {q : Char} (h : q ∉ cs) (rest : List Char) :
    quotedBody? q (cs ++ q :: rest) = some (cs, rest) := by
  have hall : ∀ c ∈ cs, (c != q) = true := by
    intro c hc
    simpa using fun he : c = q => h (he ▸ hc)
  have hend : ∀ c ∈ (q :: rest).head?, (c != q) = false := by
    rintro c ⟨⟩
    simp
  rw [quotedBody?, run_append hall hend]

lemma quoted_of_quotedBody? {q : Char} (h : quotedBody? q cs = some (after, rest)) :
    cs = after ++ q :: rest ∧ q ∉ after := by
  unfold quotedBody? at h
  split at h
  · rename_i body d tail heq
    simp only [Option.some.injEq, Prod.mk.injEq] at h
    obtain ⟨rfl, rfl⟩ := h
    have hbody := congrArg Prod.fst heq
    have htail := congrArg Prod.snd heq
    simp only [run_fst, run_snd] at hbody htail
    have hd := head_dropWhile (· != q) cs d (by rw [htail]; rfl)
    have hdq : d = q := by simpa using hd
    refine ⟨?_, fun hq => ?_⟩
    · rw [← hdq, ← htail, ← hbody, List.takeWhile_append_dropWhile]
    · rw [← hbody] at hq
      have := List.mem_takeWhile_imp hq
      simp at this
  · cases h

/-- A value starts with a character that is neither white space nor part of a comparator. -/
lemma head_of_valueText (h : ValueText v cs after) :
    ∃ c tail, cs = c :: tail ∧ Unicode.isSpace c = false ∧ isComparatorChar c = false := by
  cases h with
  | objectId => exact ⟨_, _, rfl, by decide, by decide⟩
  | bare h =>
    obtain ⟨c, tail, rfl, hc⟩ := head_of_longestRun h
    refine ⟨c, tail, rfl, not_isSpace_of_isBareChar hc, ?_⟩
    by_contra hcmp
    rw [Bool.not_eq_false] at hcmp
    rw [not_isBareChar_of_isComparatorChar hcmp] at hc
    cases hc
  | quoted hq _ => rcases hq with rfl | rfl <;> exact ⟨_, _, rfl, by decide, by decide⟩
  | regex => exact ⟨_, _, rfl, by decide, by decide⟩
  | regexIgnoreCase => exact ⟨_, _, rfl, by decide, by decide⟩

/-- A value is found whole in front of any text but an `i`, which could be the flag of a pattern. -/
lemma valueText?_append (h : ValueText v cs after) (hi : after.head? ≠ some 'i') :
    valueText? (cs ++ after) = some (v, after) := by
  cases h with
  | @objectId l _ h =>
    change ((ObjectIdLiteral.read? (l.text ++ after)).map
      fun read => (Token.Value.objectId read.1, read.2)) = some (.objectId l, after)
    rw [ObjectIdLiteral.read?_append h]
    rfl
  | bare h =>
    obtain ⟨c, tail, rfl, hc⟩ := head_of_longestRun h
    have hbrace : c ≠ '\x7b' := by
      rintro rfl
      exact absurd hc (by decide)
    have hrun := h.run_eq
    simp only [run, Prod.mk.injEq, List.cons_append] at hrun
    simp [valueText?, hbrace, hc, hrun]
  | @quoted q body _ hq hbody =>
    have hread := quotedBody?_append hbody after
    rcases hq with rfl | rfl <;>
      simp [valueText?, isBareChar, isNameChar, Unicode.isWord, Literal.isQuote, hread]
  | @regex body _ hbody =>
    have hread := regexBody?_append hbody after
    have hflag : flag after = (false, after) := by
      unfold flag
      split
      · exact absurd rfl hi
      · rfl
    simp [valueText?, isBareChar, isNameChar, Unicode.isWord, Literal.isQuote, hread, hflag]
  | @regexIgnoreCase body _ hbody =>
    have hread := regexBody?_append hbody ('i' :: after)
    simp [valueText?, isBareChar, isNameChar, Unicode.isWord, Literal.isQuote, hread, flag]

lemma valueText_of_valueText? (h : valueText? cs = some (v, rest)) :
    ∃ text, cs = text ++ rest ∧ ValueText v text rest := by
  unfold valueText? at h
  split at h
  · cases h
  rename_i c tail
  split at h
  · simp only [Option.map_eq_some_iff, Prod.mk.injEq, Prod.exists] at h
    obtain ⟨l, r, hr, rfl, rfl⟩ := h
    obtain ⟨he, hl⟩ := ObjectIdLiteral.text_of_read? hr
    exact ⟨l.text, he, .objectId hl⟩
  split at h
  · rename_i hc
    simp only [Option.some.injEq, Prod.mk.injEq] at h
    obtain ⟨rfl, rfl⟩ := h
    refine ⟨_, List.takeWhile_append_dropWhile.symm, .bare (longestRun_takeWhile ?_)⟩
    simp [hc]
  split at h
  · rename_i hq
    simp only [Option.map_eq_some_iff, Prod.mk.injEq, Prod.exists] at h
    obtain ⟨body, r, hr, rfl, rfl⟩ := h
    obtain ⟨rfl, hbody⟩ := quoted_of_quotedBody? hr
    refine ⟨c :: body ++ [c], by simp, .quoted ?_ hbody⟩
    simpa [Literal.isQuote] using hq
  split at h
  · rename_i hc
    subst hc
    simp only [Option.map_eq_some_iff, Prod.mk.injEq, Prod.exists] at h
    obtain ⟨body, r, hr, rfl, rfl⟩ := h
    obtain ⟨rfl, hbody⟩ := regexBody_of_regexBody? hr
    unfold flag
    split
    · exact ⟨_, by simp, .regexIgnoreCase hbody⟩
    · exact ⟨_, by simp, .regex hbody⟩
  · cases h

end Values

/-! ### Comparisons -/

section Comparisons

variable {link text w cs after rest : List Char} {cmp : Option Comparator} {v : Token.Value}
  {c : Comparison}

/-- The comparator and the rest that a link leaves to be read. -/
lemma run_link (hl : Link link cmp (text ++ after)) (hv : ValueText v text after) :
    ∃ token tail, run isComparatorChar (trimStart (link ++ text ++ after)) = (token, tail) ∧
      trimStart tail = text ++ after ∧ comparator token = .ok cmp ∧
      (token = [] → link = []) := by
  obtain ⟨c, tail, rfl, hspace, hcmp⟩ := head_of_valueText hv
  have htrim : trimStart (c :: tail ++ after) = c :: tail ++ after :=
    trimStart_of_head (by rintro d ⟨⟩; exact hspace)
  cases hl with
  | direct =>
    refine ⟨[], c :: tail ++ after, ?_, htrim, rfl, fun _ => rfl⟩
    rw [List.nil_append, htrim]
    exact run_of_head (by rintro d ⟨⟩; exact hcmp)
  | @comparator v w token _ _ hb hrun htoken hw =>
    refine ⟨token, w ++ (c :: tail ++ after), ?_, ?_, comparator_of_token htoken, ?_⟩
    · have hhead :
          ∀ d ∈ (token ++ (w ++ (c :: tail ++ after))).head?, Unicode.isSpace d = false := by
        obtain ⟨d, ds, rfl, hd⟩ := head_of_longestRun hrun
        rintro e ⟨⟩
        exact not_isSpace_of_isComparatorChar hd
      simp only [List.append_assoc] at hhead ⊢
      rw [trimStart_append hb, trimStart_of_head hhead]
      simpa only [List.append_assoc] using hrun.run_eq
    · rw [trimStart_append hw, htrim]
    · exact fun h => absurd h hrun.ne_nil

lemma comparison?_append (hl : Link link cmp (text ++ (w ++ after)))
    (hv : ValueText v text (w ++ after)) (hw : Blank w) (hi : (w ++ after).head? ≠ some 'i') :
    ∃ token, comparison? (link ++ text ++ (w ++ after)) = some (⟨token, v⟩, trimStart after) ∧
      comparator token = .ok cmp := by
  obtain ⟨token, tail, hrun, htail, htoken, hlink⟩ := run_link hl hv
  refine ⟨token, ?_, htoken⟩
  have hdirect :
      ¬(token = [] ∧ (link ++ text ++ (w ++ after)).head?.any Unicode.isSpace = true) := by
    rintro ⟨ht, hspace⟩
    obtain ⟨c, ds, rfl, hc, -⟩ := head_of_valueText hv
    rw [hlink ht] at hspace
    simp [hc] at hspace
  simp only [comparison?, hrun, htail, valueText?_append hv hi, if_neg hdirect, trimStart_append hw]

lemma link_of_comparison? (h : comparison? cs = some (c, rest))
    (hc : comparator c.comparator = .ok cmp) :
    ∃ link text w, cs = link ++ text ++ (w ++ rest) ∧ Link link cmp (text ++ (w ++ rest)) ∧
      ValueText c.value text (w ++ rest) ∧ Blank w := by
  simp only [comparison?] at h
  split at h
  · cases h
  rename_i value tail hvalue
  split at h
  · cases h
  rename_i hdirect
  simp only [Option.some.injEq, Prod.mk.injEq] at h
  obtain ⟨rfl, rfl⟩ := h
  simp only [run_fst, run_snd] at hdirect hvalue hc
  obtain ⟨u, hu, hgap⟩ := exists_blank_trimStart ((trimStart cs).dropWhile isComparatorChar)
  obtain ⟨text, htext, hvt⟩ := valueText_of_valueText? hvalue
  obtain ⟨w, hw, htail⟩ := exists_blank_trimStart tail
  rw [htail] at htext hvt
  by_cases htoken : (trimStart cs).takeWhile isComparatorChar = []
  · -- Without a comparator there is no white space either, so the value comes at once.
    have hstart : trimStart cs = cs := by
      apply trimStart_of_head
      intro d hd
      by_contra hs
      rw [Bool.not_eq_false] at hs
      exact hdirect ⟨htoken, by rw [Option.mem_def.mp hd]; exact hs⟩
    have hrest : trimStart ((trimStart cs).dropWhile isComparatorChar) = cs := by
      have hsplit := List.takeWhile_append_dropWhile (p := isComparatorChar) (l := trimStart cs)
      rw [htoken, List.nil_append] at hsplit
      rw [hsplit, trimStart_trimStart, hstart]
    rw [hrest] at htext
    rw [htoken] at hc
    cases hc
    exact ⟨[], text, w, htext, .direct, hvt, hw⟩
  · obtain ⟨v, hv, hcs⟩ := exists_blank_trimStart cs
    rw [htext] at hgap
    refine ⟨v ++ (trimStart cs).takeWhile isComparatorChar ++ u, text, w, ?_, ?_, hvt, hw⟩
    · have hsplit := List.takeWhile_append_dropWhile (p := isComparatorChar) (l := trimStart cs)
      rw [hgap] at hsplit
      rw [← hsplit] at hcs
      simpa only [List.append_assoc] using hcs
    · refine .comparator hv ?_ (token_of_comparator htoken hc) hu
      rw [← hgap]
      exact longestRun_takeWhile htoken

end Comparisons

end Token

end FilterQuery
