import FilterQuery.Proofs.ProperTrees
import FilterQuery.Proofs.WrittenInstants
import FilterQuery.Proofs.WrittenNumbers
import Mathlib.Tactic.IntervalCases

/-!
# Written literals

Each kind of literal has a text from which the literal is read again: a word or a numeral, a text in
quotes that it does not contain, the pattern between its slashes, and the object of an identifier.
-/

namespace FilterQuery

open Text Token Grammar

/-! ### Identifiers -/

namespace ObjectId

lemma hexValue_hexDigit {n : Nat} (hn : n < 16) : hexValue (hexDigit n) = n := by
  interval_cases n <;> rfl

lemma isHexDigit_hexDigit {n : Nat} (hn : n < 16) : isHexDigit (hexDigit n) = true := by
  interval_cases n <;> rfl

lemma isHexDigit_of_mem_byteDigits (b : UInt8) : ∀ c ∈ byteDigits b, isHexDigit c = true := by
  have hb := b.toNat_lt
  intro c hc
  simp only [byteDigits, List.mem_cons, List.not_mem_nil, or_false] at hc
  obtain rfl | rfl := hc
  · exact isHexDigit_hexDigit (by omega)
  · exact isHexDigit_hexDigit (by omega)

lemma pairBytes_flatMap (bytes : List UInt8) : pairBytes (bytes.flatMap byteDigits) = bytes := by
  induction bytes with
  | nil => rfl
  | cons b bytes ih =>
    have hb := b.toNat_lt
    have hbyte : 16 * hexValue (hexDigit (b.toNat / 16)) + hexValue (hexDigit (b.toNat % 16)) =
        b.toNat := by
      rw [hexValue_hexDigit (by omega), hexValue_hexDigit (by omega)]
      omega
    change UInt8.ofNat _ :: pairBytes (bytes.flatMap byteDigits) = _
    rw [hbyte, ih, UInt8.ofNat_toNat]

lemma length_flatMap_byteDigits (bytes : List UInt8) :
    (bytes.flatMap byteDigits).length = 2 * bytes.length := by
  induction bytes with
  | nil => rfl
  | cons b bytes ih =>
    rw [List.flatMap_cons, List.length_append, ih, List.length_cons]
    change 2 + _ = _
    omega

end ObjectId

namespace ObjectIdLiteral

/-- The literal of an identifier, without white space. -/
def ofId (id : ObjectId) : ObjectIdLiteral where
  afterBrace := []
  afterKey := []
  afterColon := []
  afterValue := []
  digits := id.hexChars
  digits_hex := by
    rw [List.all_eq_true]
    intro c hc
    obtain ⟨b, -, hb⟩ := List.mem_flatMap.mp hc
    exact ObjectId.isHexDigit_of_mem_byteDigits b c hb
  digits_length := by
    rw [ObjectId.hexChars, ObjectId.length_flatMap_byteDigits, id.length_eq]

lemma spaced_ofId (id : ObjectId) : (ofId id).Spaced :=
  ⟨blank_nil, blank_nil, blank_nil, blank_nil⟩

lemma decode_ofId (id : ObjectId) : (ofId id).decode = .ok id := by
  have hgaps : firstStray [] (ofId id).gaps = none := rfl
  unfold decode
  rw [hgaps]
  obtain ⟨bytes, hlength⟩ := id
  change Except.ok (ObjectId.mk (ObjectId.pairBytes (bytes.flatMap ObjectId.byteDigits)) _) = _
  simp only [ObjectId.pairBytes_flatMap]

end ObjectIdLiteral

/-! ### Quoted texts and patterns -/

/-- The pattern of a source has this source and the given flag. -/
lemma Literal.ofSource_eq_ok_iff {cs : List Char} {ignoreCase : Bool} {p : Pattern} :
    ofSource cs ignoreCase = .ok (.regex p) ↔
      p.source.toList = cs ∧ p.ignoreCase = ignoreCase := by
  constructor
  · intro h
    unfold ofSource Pattern.ofSource? at h
    dsimp only at h
    split at h
    · rename_i q hq
      cases h
      split_ifs at hq
      cases hq
      exact ⟨String.toList_ofList, rfl⟩
    · cases h
  · rintro ⟨rfl, rfl⟩
    have hpattern : Pattern.ofSource? (String.ofList p.source.toList) p.ignoreCase = some p := by
      rw [String.ofList_toList]
      exact dif_pos p.compiles
    unfold ofSource
    dsimp only
    rw [hpattern]

namespace Token.Value

lemma literal_quoted {quote : Char} (hq : quote = '"' ∨ quote = '\'') (cs : List Char) :
    (quoted quote cs).literal = .ok (Literal.ofQuoted cs) := by
  have hquote : Literal.isQuote quote = true := by
    obtain rfl | rfl := hq <;> rfl
  have hslash : quote ≠ '/' := by
    obtain rfl | rfl := hq <;> decide
  have hend : Literal.unquoteEnd (cs ++ [quote]) = cs := by
    rw [Literal.unquoteEnd, List.getLast?_concat, Option.any_some, hquote, if_pos rfl,
      List.dropLast_concat]
  have htext : Literal.ofText false (quote :: cs ++ [quote]) = .ok (Literal.ofQuoted cs) := by
    change (if quote = '/' then _ else if Literal.isQuote quote = true then
      Except.ok (Literal.ofQuoted (Literal.unquoteEnd (cs ++ [quote]))) else _) = _
    rw [if_neg hslash, if_pos hquote, hend]
  simp only [literal]
  rw [htext]
  rfl

/-- The slash that ends a pattern literal is not a part of the source. -/
lemma ofText_slashes (cs : List Char) (ignoreCase : Bool) :
    Literal.ofText ignoreCase ('/' :: cs ++ ['/']) =
      Literal.ofSource (Pattern.unescapeSlashes cs) ignoreCase := by
  have htext : Literal.ofText ignoreCase ('/' :: cs ++ ['/']) =
      Literal.ofSource (Literal.regexSource (cs ++ ['/'])) ignoreCase := rfl
  rw [htext, Literal.regexSource, List.getLast?_concat, if_pos rfl, List.dropLast_concat]

lemma literal_regex (cs : List Char) (ignoreCase : Bool) :
    (regex cs ignoreCase).literal =
      (Literal.ofSource (Pattern.unescapeSlashes cs) ignoreCase).mapError
        (.invalidPattern · ignoreCase) :=
  congrArg (Except.mapError _) (ofText_slashes cs ignoreCase)

lemma literal_regex_eq_ok_iff {cs : List Char} {ignoreCase : Bool} {p : Pattern} :
    (regex cs ignoreCase).literal = .ok (.regex p) ↔
      p.source.toList = Pattern.unescapeSlashes cs ∧ p.ignoreCase = ignoreCase := by
  rw [literal_regex, ← Literal.ofSource_eq_ok_iff]
  cases Literal.ofSource (Pattern.unescapeSlashes cs) ignoreCase with
  | error s => exact iff_of_false (fun h => nomatch h) fun h => nomatch h
  | ok value =>
    constructor
    · rintro ⟨⟩
      rfl
    · rintro ⟨⟩
      rfl

end Token.Value

namespace Pattern

lemma escapeSlashes_cons_of_ne {c : Char} (hc : c ≠ '/') (cs : List Char) :
    escapeSlashes (c :: cs) = c :: escapeSlashes cs := by
  rw [escapeSlashes, List.flatMap_cons, if_neg hc]
  rfl

lemma head_escapeSlashes (cs : List Char) : (escapeSlashes cs).head? ≠ some '/' := by
  cases cs with
  | nil => exact fun h => nomatch h
  | cons c cs =>
    by_cases hc : c = '/'
    · rw [hc]
      exact fun h => nomatch h
    · rw [escapeSlashes_cons_of_ne hc, List.head?_cons, ne_eq, Option.some.injEq]
      exact hc

/-- A character stays as it is unless it is a backslash in front of a slash. -/
lemma unescapeSlashes_cons {c : Char} {cs : List Char} (h : c = '\\' → cs.head? ≠ some '/') :
    unescapeSlashes (c :: cs) = c :: unescapeSlashes cs := by
  rw [unescapeSlashes]
  rintro rest rfl rfl
  exact h rfl rfl

/-- The backslashes that are put in front of slashes can be taken away again, also where a backslash
stood there before. -/
lemma unescapeSlashes_escapeSlashes (cs : List Char) :
    unescapeSlashes (escapeSlashes cs) = cs := by
  induction cs with
  | nil => rfl
  | cons c cs ih =>
    by_cases hc : c = '/'
    · rw [hc]
      change '/' :: unescapeSlashes (escapeSlashes cs) = _
      rw [ih]
    · -- A backslash here is not taken for one that was added: no slash can follow it.
      rw [escapeSlashes_cons_of_ne hc, unescapeSlashes_cons fun _ => head_escapeSlashes cs, ih]

lemma text_eq (p : Pattern) :
    p.text = '/' :: escapeSlashes p.source.toList ++ ['/'] ++
      if p.ignoreCase then ['i'] else [] := by
  unfold text options
  split_ifs <;> simp

/-- If the escaped source can stand between slashes, then the text is one pattern literal. -/
lemma valueText_of_regexBody {p : Pattern} (h : RegexBody (escapeSlashes p.source.toList))
    (after : List Char) :
    ValueText (.regex (escapeSlashes p.source.toList) p.ignoreCase) p.text after := by
  rw [text_eq]
  cases p.ignoreCase with
  | true =>
    rw [if_pos rfl, List.append_assoc]
    exact .regexIgnoreCase h
  | false =>
    rw [if_neg Bool.false_ne_true, List.append_nil]
    exact .regex h

/-- If the text of a pattern is one pattern literal, then its body is the escaped source, and its
flag that of the pattern. -/
lemma valueText_text {p : Pattern} {body : List Char} {ignoreCase : Bool}
    (h : Token.valueText? p.text = some (.regex body ignoreCase, [])) (after : List Char) :
    ValueText (.regex (escapeSlashes p.source.toList) p.ignoreCase) p.text after := by
  apply valueText_of_regexBody
  obtain ⟨cs, hcs, htext⟩ := valueText_of_valueText? h
  rw [List.append_nil] at hcs
  subst hcs
  rw [text_eq] at htext
  generalize escapeSlashes p.source.toList = source at htext ⊢
  generalize hshape : '/' :: source ++ ['/'] ++ (if p.ignoreCase then ['i'] else []) = cs at htext
  cases hflag : p.ignoreCase with
  | true =>
    rw [hflag, if_pos rfl] at hshape
    cases htext with
    | regex hbody =>
      have hlast := congrArg List.getLast? hshape
      rw [List.getLast?_concat, List.getLast?_concat] at hlast
      exact absurd hlast (by decide)
    | regexIgnoreCase hbody =>
      have hsource : source = body := by simpa using hshape
      rwa [hsource]
  | false =>
    rw [hflag, if_neg (by decide)] at hshape
    cases htext with
    | regex hbody =>
      have hsource : source = body := by simpa using hshape
      rwa [hsource]
    | regexIgnoreCase hbody =>
      have hbodyText : '/' :: body ++ ['/', 'i'] = ('/' :: body ++ ['/']) ++ ['i'] := by simp
      have hlast := congrArg List.getLast? hshape
      rw [List.append_nil, hbodyText, List.getLast?_concat, List.getLast?_concat] at hlast
      exact absurd hlast (by decide)

end Pattern

/-! ### All literals -/

namespace Literal

/-- The quote for a string: a double one, unless the string has it. -/
def quoteFor (cs : List Char) : Char :=
  if '"' ∈ cs then '\'' else '"'

/-- The text of a literal. -/
def written : Literal → List Char
  | boolean b => (if b then "true" else "false").toList
  | number x => Shell.numberText x
  | string s => quoteFor s.toList :: s.toList ++ [quoteFor s.toList]
  | regex p => p.text
  | date t => '"' :: t.text ++ ['"']
  | objectId id =>
    '\x7b' :: ObjectIdLiteral.keyText ++ ':' :: '"' :: id.hexChars ++ ['"', '\x7d']

/-- The literals that can be written: finite numbers, strings without one of the quotes that are no
dates, dates with whole milliseconds up to the year 9999, and patterns whose text is one pattern
literal. -/
def Writable : Literal → Prop
  | number x => x.isFinite = true
  | string s => ('"' ∉ s.toList ∨ '\'' ∉ s.toList) ∧ Instant.read? s.toList = none
  | regex p => ∃ body ignoreCase, Token.valueText? p.text = some (.regex body ignoreCase, [])
  | date t =>
    t.nanos % 1000000 = 0 ∧ Instant.inRange t.day.year = true ∧ t.day.year ≤ 9999
  | _ => True

section Written

variable {after : List Char}

lemma exists_valueText_boolean (b : Bool) (ha : ∀ c ∈ after.head?, isBareChar c = false) :
    ∃ v, ValueText v (boolean b).written after ∧ v.literal = .ok (boolean b) := by
  have hbare : (boolean b).written.all isBareChar = true := by
    cases b <;> rfl
  have hne : (boolean b).written ≠ [] := by
    cases b <;> exact List.cons_ne_nil _ _
  refine ⟨.bare (boolean b).written, .bare ⟨hne, List.all_eq_true.mp hbare, ha⟩, ?_⟩
  cases b <;> rfl

lemma exists_valueText_number {x : Double} (hx : x.isFinite = true)
    (ha : ∀ c ∈ after.head?, isBareChar c = false) :
    ∃ v, ValueText v (number x).written after ∧ v.literal = .ok (number x) := by
  have hread := readNumber?_numberText hx
  have hne : Shell.numberText x ≠ [] := by
    intro hnil
    have hempty : readNumber? [] = none := rfl
    rw [hnil, hempty] at hread
    cases hread
  refine ⟨.bare (Shell.numberText x), .bare ⟨hne, ?_, ha⟩, ?_⟩
  · intro c hc
    obtain hdigit | rfl | rfl := Shell.mem_numberText hx c hc
    · exact isBareChar_of_isNameChar (isNameChar_of_isWord
        (Unicode.isWord_of_isAlphanum (by simp [Char.isAlphanum, hdigit])))
    · decide
    · decide
  · simp only [Token.Value.literal]
    rw [hread]

lemma exists_valueText_string {s : String} (hquotes : '"' ∉ s.toList ∨ '\'' ∉ s.toList)
    (hdate : Instant.read? s.toList = none) :
    ∃ v, ValueText v (string s).written after ∧ v.literal = .ok (string s) := by
  have hquote : quoteFor s.toList = '"' ∨ quoteFor s.toList = '\'' := by
    unfold quoteFor
    split_ifs
    · exact .inr rfl
    · exact .inl rfl
  have hbody : quoteFor s.toList ∉ s.toList := by
    unfold quoteFor
    split_ifs with hdouble
    · exact hquotes.resolve_left (not_not_intro hdouble)
    · exact hdouble
  refine ⟨_, .quoted hquote hbody, ?_⟩
  rw [Token.Value.literal_quoted hquote, ofQuoted, hdate, String.ofList_toList]

lemma exists_valueText_date {t : Instant} (hread : Instant.read? t.text = some t) :
    ∃ v, ValueText v (date t).written after ∧ v.literal = .ok (date t) := by
  refine ⟨_, .quoted (.inl rfl) t.quote_not_mem_text, ?_⟩
  rw [Token.Value.literal_quoted (.inl rfl), ofQuoted, hread]

lemma exists_valueText_objectId (id : ObjectId) :
    ∃ v, ValueText v (objectId id).written after ∧ v.literal = .ok (objectId id) := by
  have htext : (objectId id).written = (ObjectIdLiteral.ofId id).text := by
    change '\x7b' :: ObjectIdLiteral.keyText ++ ':' :: '"' :: id.hexChars ++ ['"', '\x7d'] = _
    simp only [ObjectIdLiteral.text, ObjectIdLiteral.ofId, List.append_assoc, List.cons_append,
      List.nil_append]
  rw [htext]
  refine ⟨_, .objectId (ObjectIdLiteral.spaced_ofId id), ?_⟩
  simp only [Token.Value.literal]
  rw [ObjectIdLiteral.decode_ofId]
  rfl

/-- The text of a literal is, in front of a character that ends a token, the text of a value that
stands for the literal. -/
theorem exists_valueText {value : Literal} (h : value.Writable)
    (ha : ∀ c ∈ after.head?, isBareChar c = false) :
    ∃ v, ValueText v value.written after ∧ v.literal = .ok value := by
  cases value with
  | boolean b => exact exists_valueText_boolean b ha
  | number x => exact exists_valueText_number h ha
  | string s => exact exists_valueText_string h.1 h.2
  | regex p =>
    obtain ⟨body, ignoreCase, htext⟩ := h
    have hsource := (Pattern.unescapeSlashes_escapeSlashes p.source.toList).symm
    exact ⟨_, Pattern.valueText_text htext after,
      Token.Value.literal_regex_eq_ok_iff.mpr ⟨hsource, rfl⟩⟩
  | date t => exact exists_valueText_date (Instant.read?_text h.1 h.2.2 h.2.1)
  | objectId id => exact exists_valueText_objectId id

end Written

end Literal

end FilterQuery
