import FilterQuery.Proofs.JsonGrammar
import FilterQuery.Proofs.LeafTexts

/-!
# White space in identifier literals

A query can hold an identifier literal with any white space in its four gaps, and the literal is an
object only if that is all white space of JSON. The first character that is not is refused with what
the object had to go on with there: the text before it begins some text of JSON, and the text up to
and with it begins none.
-/

namespace FilterQuery

open Text Json

/-! ### The identifier -/

namespace ObjectId

variable {c : Char} {cs : List Char}

/-- What holds of every digit is decided on the characters of ASCII. -/
lemma of_isHexDigit {P : Char → Prop} (h : isHexDigit c = true)
    (hsmall : ∀ n < 128, isHexDigit (Char.ofNat n) = true → P (Char.ofNat n)) : P c := by
  have hbound : c.toNat < 128 := by
    simp only [isHexDigit, Char.isDigit, Bool.or_eq_true, Bool.and_eq_true, decide_eq_true_eq,
      Char.le_def, UInt32.le_iff_toNat_le] at h
    change c.val.toNat < 128
    have hnine : '9'.val.toNat = 57 := rfl
    have hf : 'f'.val.toNat = 102 := rfl
    have hF : 'F'.val.toNat = 70 := rfl
    omega
  have hc := hsmall c.toNat hbound
  rw [Char.ofNat_toNat] at hc
  exact hc h

lemma hexDigit_hexValue (h : isHexDigit c = true) :
    hexValue c < 16 ∧ hexDigit (hexValue c) = c.toLower :=
  of_isHexDigit (P := fun c => hexValue c < 16 ∧ hexDigit (hexValue c) = c.toLower) h (by decide)

lemma isVisible_of_isHexDigit (h : isHexDigit c = true) : isVisible c = true :=
  of_isHexDigit (P := fun c => isVisible c = true) h (by decide)

lemma flatMap_pairBytes (heven : cs.length % 2 = 0) (hhex : ∀ c ∈ cs, isHexDigit c = true) :
    (pairBytes cs).flatMap byteDigits = cs.map Char.toLower := by
  fun_induction pairBytes cs with
  | case1 high low rest ih =>
    obtain ⟨hhigh, hhigh'⟩ := hexDigit_hexValue (hhex high (by simp))
    obtain ⟨hlow, hlow'⟩ := hexDigit_hexValue (hhex low (by simp))
    have hbyte : byteDigits (UInt8.ofNat (16 * hexValue high + hexValue low)) =
        [high.toLower, low.toLower] := by
      have hvalue : 16 * hexValue high + hexValue low < 256 := by omega
      have hquotient : (16 * hexValue high + hexValue low) / 16 = hexValue high := by omega
      have hremainder : (16 * hexValue high + hexValue low) % 16 = hexValue low := by omega
      rw [byteDigits, UInt8.toNat_ofNat_of_lt' hvalue, hquotient, hremainder, hhigh', hlow']
    simp only [List.length_cons] at heven
    have hrest := ih (by omega) fun c hc => hhex c (by simp [hc])
    rw [List.flatMap_cons, hbyte, hrest]
    rfl
  | case2 cs h =>
    obtain _ | ⟨high, _ | ⟨low, rest⟩⟩ := cs
    · rfl
    · cases heven
    · cases h high low rest rfl

lemma stringBody_of_hexDigits (h : ∀ c ∈ cs, isHexDigit c = true) : StringBody cs := by
  induction cs with
  | nil => exact .nil
  | cons c cs ih =>
    obtain ⟨hsize, hquote, hbackslash⟩ : 0x20 ≤ c.toNat ∧ c ≠ '"' ∧ c ≠ '\\' :=
      of_isHexDigit (P := fun c => 0x20 ≤ c.toNat ∧ c ≠ '"' ∧ c ≠ '\\') (h c List.mem_cons_self)
        (by decide)
    exact .char hsize hquote hbackslash (ih fun d hd => h d (List.mem_cons_of_mem c hd))

/-- An identifier is written with its digits in lower case. -/
lemma hexChars_ofDigits (hlength : cs.length = 24) (hhex : cs.all isHexDigit = true) :
    (ofDigits cs hlength).hexChars = cs.map Char.toLower :=
  flatMap_pairBytes (by rw [hlength]) (List.all_eq_true.mp hhex)

end ObjectId

/-! ### Places -/

/-- The place just behind a text: its lines end with line feeds, and what stands on the last line is
counted in bytes. -/
def Place.Follows (place : Place) (cs : List Char) : Prop :=
  place.line = 1 + cs.count '\n' ∧ ∃ lines line, cs = lines ++ line ∧
    (lines = [] ∨ lines.getLast? = some '\n') ∧ '\n' ∉ line ∧ place.column = 1 + utf8Size line

namespace ObjectIdLiteral

lemma follows_placeAfter (cs : List Char) : (placeAfter cs).Follows cs := by
  have hsplit : cs = (cs.reverse.dropWhile (· != '\n')).reverse ++
      (cs.reverse.takeWhile (· != '\n')).reverse := by
    rw [← List.reverse_append, List.takeWhile_append_dropWhile, List.reverse_reverse]
  refine ⟨rfl, _, _, hsplit, ?_, ?_, rfl⟩
  · rw [List.reverse_eq_nil_iff, List.getLast?_reverse]
    cases hrest : cs.reverse.dropWhile (· != '\n') with
    | nil => exact Or.inl rfl
    | cons d ds =>
      have hd := head_dropWhile (· != '\n') cs.reverse d (by rw [hrest]; rfl)
      exact Or.inr (congrArg some (by simpa using hd))
  · intro hmem
    simpa using List.mem_takeWhile_imp (List.mem_reverse.mp hmem)

/-! ### The gaps -/

variable {l : ObjectIdLiteral} {before after part gap tail v w : List Char} {c : Char}
  {expected : Expected} {later : List (List Char × List Char × Expected)} {reason : String}

lemma isJsonSpace_iff : isJsonSpace c = true ↔ c ∈ spaces := by
  simp [isJsonSpace, spaces, or_assoc]

lemma firstStray_gap (hgap : Gap gap) :
    firstStray before ((part, gap, expected) :: later) =
      firstStray (before ++ part ++ gap) later :=
  if_pos (List.all_eq_true.mpr fun d hd => isJsonSpace_iff.mpr (hgap d hd))

lemma firstStray_stray (hv : Gap v) (hc : IsStray c) :
    firstStray before ((part, v ++ c :: w, expected) :: later) =
      some (expected, placeAfter (before ++ part ++ v)) := by
  have hspaces : ∀ d ∈ v, isJsonSpace d = true := fun d hd => isJsonSpace_iff.mpr (hv d hd)
  have hstray : isJsonSpace c = false := by
    rw [Bool.eq_false_iff, ne_eq, isJsonSpace_iff]
    exact hc.2
  have hall : (v ++ c :: w).all isJsonSpace = false := by
    rw [List.all_append, List.all_cons, hstray, Bool.false_and, Bool.and_false]
  have htake : (v ++ c :: w).takeWhile isJsonSpace = v := by
    rw [List.takeWhile_append_of_pos hspaces, List.takeWhile_cons_of_neg (by rw [hstray]; decide),
      List.append_nil]
  rw [firstStray, hall, if_neg Bool.false_ne_true, htake]

/-- White space of JSON in all four gaps. -/
structure Plain (l : ObjectIdLiteral) : Prop where
  afterBrace : Gap l.afterBrace
  afterKey : Gap l.afterKey
  afterColon : Gap l.afterColon
  afterValue : Gap l.afterValue

lemma decode_of_plain (h : l.Plain) :
    l.decode = .ok (ObjectId.ofDigits l.digits l.digits_length) := by
  have hnone : firstStray [] l.gaps = none := by
    rw [gaps, firstStray_gap h.afterBrace, firstStray_gap h.afterKey, firstStray_gap h.afterColon,
      firstStray_gap h.afterValue, firstStray]
  rw [decode, hnone]

lemma stringBody_key : StringBody ['$', 'o', 'i', 'd'] :=
  .char (by decide) (by decide) (by decide) <| .char (by decide) (by decide) (by decide) <|
    .char (by decide) (by decide) (by decide) <| .char (by decide) (by decide) (by decide) .nil

lemma stringBody_digits (l : ObjectIdLiteral) : StringBody l.digits :=
  ObjectId.stringBody_of_hexDigits (List.all_eq_true.mp l.digits_hex)

/-- An object of JSON with the one key of identifiers. -/
lemma isText_text (h : l.Plain) : IsText l.text := by
  have hmembers := Derives.member h.afterBrace stringBody_key h.afterKey h.afterColon
    (.string l.stringBody_digits) h.afterValue
  refine ⟨[], l.text, [], List.forall_mem_nil _, ?_, List.forall_mem_nil _, by simp⟩
  have htext : l.text = '\x7b' :: (l.afterBrace ++ ('"' :: (['$', 'o', 'i', 'd'] ++ ['"']) ++
      (l.afterKey ++ ':' :: (l.afterColon ++ ('"' :: (l.digits ++ ['"']) ++ l.afterValue)))) ++
        ['\x7d']) := by
    simp [text, keyText]
  rw [htext]
  exact .object hmembers

/-! ### The first stray character -/

/-- `FirstAt l c before reason`: the character `c` stands behind the text `before` in one of the
gaps, there is only white space of JSON in the gaps before it, and `reason` is what the object has
to go on with in this gap. -/
inductive FirstAt (l : ObjectIdLiteral) (c : Char) : List Char → String → Prop where
  | brace {v w : List Char} :
      Gap v → l.afterBrace = v ++ c :: w → FirstAt l c ('\x7b' :: v) "key must be a string"
  | key {v w : List Char} :
      Gap l.afterBrace → Gap v → l.afterKey = v ++ c :: w →
      FirstAt l c ('\x7b' :: (l.afterBrace ++ (keyText ++ v))) "expected `:`"
  | colon {v w : List Char} :
      Gap l.afterBrace → Gap l.afterKey → Gap v → l.afterColon = v ++ c :: w →
      FirstAt l c ('\x7b' :: (l.afterBrace ++ (keyText ++ (l.afterKey ++ ':' :: v))))
        "expected value"
  | value {v w : List Char} :
      Gap l.afterBrace → Gap l.afterKey → Gap l.afterColon → Gap v →
      l.afterValue = v ++ c :: w →
      FirstAt l c
        ('\x7b' :: (l.afterBrace ++ (keyText ++ (l.afterKey ++ ':' :: (l.afterColon ++
          ('"' :: (l.digits ++ '"' :: v))))))) "expected `,` or `\x7d`"

namespace FirstAt

lemma firstStray_gaps (h : FirstAt l c before reason) (hc : IsStray c) :
    ∃ expected : Expected, expected.message = reason ∧
      firstStray [] l.gaps = some (expected, placeAfter before) := by
  cases h with
  | brace hv hgap =>
    refine ⟨.key, rfl, ?_⟩
    rw [gaps, hgap, firstStray_stray hv hc]
    rfl
  | key hbrace hv hgap =>
    refine ⟨.colon, rfl, ?_⟩
    rw [gaps, hgap, firstStray_gap hbrace, firstStray_stray hv hc]
    simp
  | colon hbrace hkey hv hgap =>
    refine ⟨.value, rfl, ?_⟩
    rw [gaps, hgap, firstStray_gap hbrace, firstStray_gap hkey, firstStray_stray hv hc]
    simp
  | value hbrace hkey hcolon hv hgap =>
    refine ⟨.close, rfl, ?_⟩
    rw [gaps, hgap, firstStray_gap hbrace, firstStray_gap hkey, firstStray_gap hcolon,
      firstStray_stray hv hc]
    simp

/-- The text in front of the character goes on as a literal that has no white space from there. -/
lemma exists_plain (h : FirstAt l c before reason) :
    ∃ l' : ObjectIdLiteral, l'.Plain ∧ ∃ tail, l'.text = before ++ tail := by
  have hnil : Gap [] := List.forall_mem_nil _
  cases h with
  | @brace v w hv hgap =>
    refine ⟨{ l with afterBrace := v, afterKey := [], afterColon := [], afterValue := [] },
      ⟨hv, hnil, hnil, hnil⟩, keyText ++ ':' :: '"' :: l.digits ++ ['"', '\x7d'], ?_⟩
    simp [text]
  | @key v w hbrace hv hgap =>
    refine ⟨{ l with afterKey := v, afterColon := [], afterValue := [] },
      ⟨hbrace, hv, hnil, hnil⟩, ':' :: '"' :: l.digits ++ ['"', '\x7d'], ?_⟩
    simp [text]
  | @colon v w hbrace hkey hv hgap =>
    refine ⟨{ l with afterColon := v, afterValue := [] },
      ⟨hbrace, hkey, hv, hnil⟩, '"' :: l.digits ++ ['"', '\x7d'], ?_⟩
    simp [text]
  | @value v w hbrace hkey hcolon hv hgap =>
    refine ⟨{ l with afterValue := v }, ⟨hbrace, hkey, hcolon, hv⟩, ['\x7d'], ?_⟩
    simp [text]

lemma exists_text (h : FirstAt l c before reason) : ∃ after, l.text = before ++ c :: after := by
  cases h with
  | @brace v w _ hgap =>
    refine ⟨w ++ (keyText ++ l.afterKey ++ ':' :: l.afterColon ++ '"' :: l.digits ++
      '"' :: l.afterValue ++ ['\x7d']), ?_⟩
    simp [text, hgap]
  | @key v w _ _ hgap =>
    refine ⟨w ++ (':' :: l.afterColon ++ '"' :: l.digits ++ '"' :: l.afterValue ++ ['\x7d']), ?_⟩
    simp [text, hgap]
  | @colon v w _ _ _ hgap =>
    refine ⟨w ++ ('"' :: l.digits ++ '"' :: l.afterValue ++ ['\x7d']), ?_⟩
    simp [text, hgap]
  | @value v w _ _ _ _ hgap =>
    refine ⟨w ++ ['\x7d'], ?_⟩
    simp [text, hgap]

lemma tidy (h : FirstAt l c before reason) : Mode.Tidy .outside before := by
  have hmark {d : Char} {cs : List Char} (hcs : Mode.Tidy .outside cs)
      (hd : d ≠ '"' ∧ isVisible d = true) : Mode.Tidy .outside (d :: cs) :=
    hcs.cons hd.1 (not_isStray_of_isVisible hd.2)
  have hkeyText : Mode.Tidy .outside keyText := tidy_string stringBody_key
  have hdigits := tidy_string l.stringBody_digits
  cases h with
  | brace hv => exact hmark (tidy_gap hv) (by decide)
  | key hbrace hv =>
    exact hmark ((tidy_gap hbrace).append (hkeyText.append (tidy_gap hv))) (by decide)
  | colon hbrace hkey hv =>
    have hcolon := (tidy_gap hkey).append (hmark (d := ':') (tidy_gap hv) (by decide))
    exact hmark ((tidy_gap hbrace).append (hkeyText.append hcolon)) (by decide)
  | @value v w hbrace hkey hcolon hv =>
    have hvalue := (tidy_gap hcolon).append (hdigits.append (tidy_gap hv))
    have hcolon' := (tidy_gap hkey).append (hmark (d := ':') hvalue (by decide))
    have htidy := hmark (d := '\x7b') ((tidy_gap hbrace).append (hkeyText.append hcolon'))
      (by decide)
    rw [List.cons_append, List.append_assoc] at htidy
    exact htidy

end FirstAt

/-! ### Finding it -/

lemma gap_or_stray (h : Blank gap) :
    Gap gap ∨ ∃ v c w, Gap v ∧ IsStray c ∧ gap = v ++ c :: w := by
  induction gap with
  | nil => exact Or.inl (List.forall_mem_nil _)
  | cons d ds ih =>
    obtain ⟨hd, hds⟩ := List.forall_mem_cons.mp h
    by_cases hspace : d ∈ spaces
    · obtain hgap | ⟨v, c, w, hv, hc, rfl⟩ := ih hds
      · exact Or.inl (List.forall_mem_cons.mpr ⟨hspace, hgap⟩)
      · exact Or.inr ⟨d :: v, c, w, List.forall_mem_cons.mpr ⟨hspace, hv⟩, hc, rfl⟩
    · exact Or.inr ⟨[], d, ds, List.forall_mem_nil _, ⟨hd, hspace⟩, rfl⟩

lemma plain_or_firstAt (h : l.Spaced) :
    l.Plain ∨ ∃ c before reason, IsStray c ∧ FirstAt l c before reason := by
  obtain hbrace | ⟨v, c, w, hv, hc, hgap⟩ := gap_or_stray h.afterBrace
  · obtain hkey | ⟨v, c, w, hv, hc, hgap⟩ := gap_or_stray h.afterKey
    · obtain hcolon | ⟨v, c, w, hv, hc, hgap⟩ := gap_or_stray h.afterColon
      · obtain hvalue | ⟨v, c, w, hv, hc, hgap⟩ := gap_or_stray h.afterValue
        · exact Or.inl ⟨hbrace, hkey, hcolon, hvalue⟩
        · exact Or.inr ⟨c, _, _, hc, .value hbrace hkey hcolon hv hgap⟩
      · exact Or.inr ⟨c, _, _, hc, .colon hbrace hkey hv hgap⟩
    · exact Or.inr ⟨c, _, _, hc, .key hbrace hv hgap⟩
  · exact Or.inr ⟨c, _, _, hc, .brace hv hgap⟩

lemma not_isStray_of_plain (h : l.Plain) : ∀ d ∈ l.text, ¬IsStray d := by
  have hgap {w : List Char} (hw : Gap w) : ∀ d ∈ w, ¬IsStray d := fun d hd hc => hc.2 (hw d hd)
  have hvisible {w : List Char} (hw : w.all isVisible = true) : ∀ d ∈ w, ¬IsStray d :=
    fun d hd => not_isStray_of_isVisible (List.all_eq_true.mp hw d hd)
  have hdigits := hvisible (List.all_eq_true.mpr fun d hd =>
    ObjectId.isVisible_of_isHexDigit (List.all_eq_true.mp l.digits_hex d hd))
  have hkey := hvisible (w := keyText) (by decide)
  have hmarks := hvisible (w := ['\x7b', ':', '"', '\x7d']) (by decide)
  simp only [text, List.forall_mem_append, List.forall_mem_cons] at hmarks ⊢
  obtain ⟨hopen, hcolon, hquote, hclose, hnil⟩ := hmarks
  have hbrace := And.intro hopen (hgap h.afterBrace)
  have hvalue := And.intro hcolon (hgap h.afterColon)
  exact ⟨⟨⟨⟨⟨⟨hbrace, hkey⟩, hgap h.afterKey⟩, hvalue⟩, hquote, hdigits⟩, hquote,
    hgap h.afterValue⟩, hclose, hnil⟩

lemma FirstAt.not_isStray (h : FirstAt l c before reason) : ∀ d ∈ before, ¬IsStray d := by
  obtain ⟨l', hplain, tail, htext⟩ := h.exists_plain
  intro d hd
  exact not_isStray_of_plain hplain d (by rw [htext]; exact List.mem_append_left tail hd)

/-- The first stray character of the text is the one of the gaps. -/
lemma firstAt_of_text (hl : l.Spaced) (hbefore : ∀ d ∈ before, ¬IsStray d) (hc : IsStray c)
    (htext : l.text = before ++ c :: after) : ∃ reason, FirstAt l c before reason := by
  obtain hplain | ⟨d, before', reason, hd, hfirst⟩ := plain_or_firstAt hl
  · exact absurd hc (not_isStray_of_plain hplain c (by rw [htext]; simp))
  · obtain ⟨after', htext'⟩ := hfirst.exists_text
    have hrun {cs ds : List Char} {e : Char} (hcs : ∀ d ∈ cs, ¬IsStray d) (he : IsStray e) :
        run (fun d => !decide (IsStray d)) (cs ++ e :: ds) = (cs, e :: ds) := by
      apply run_append
      · intro d hd
        simpa using hcs d hd
      · rintro d ⟨⟩
        simpa using he
    have hsame : run _ (before ++ c :: after) = _ := hrun hbefore hc
    rw [← htext, htext', hrun hfirst.not_isStray hd] at hsame
    cases hsame
    exact ⟨reason, hfirst⟩

/-! ### Decoding -/

lemma FirstAt.decode_eq (h : FirstAt l c before reason) (hc : IsStray c) :
    ∃ expected : Expected, expected.message = reason ∧ l.decode =
      .error (.invalidObjectId (String.ofList l.text) expected (placeAfter before)) := by
  obtain ⟨expected, hmessage, hstray⟩ := h.firstStray_gaps hc
  refine ⟨expected, hmessage, ?_⟩
  rw [decode, hstray]

lemma FirstAt.not_isText (h : FirstAt l c before reason) (hc : IsStray c) (tail : List Char) :
    ¬IsText (before ++ c :: tail) :=
  not_isText_of_isStray h.tidy hc tail

lemma plain_of_forall (hl : l.Spaced)
    (h : ∀ c before reason, IsStray c → ¬FirstAt l c before reason) : l.Plain := by
  obtain hplain | ⟨c, before, reason, hc, hfirst⟩ := plain_or_firstAt hl
  · exact hplain
  · exact absurd hfirst (h c before reason hc)

lemma exists_decode_iff_plain (hl : l.Spaced) : (∃ id, l.decode = .ok id) ↔ l.Plain := by
  constructor
  · rintro ⟨id, hid⟩
    apply plain_of_forall hl
    intro c before reason hc hfirst
    obtain ⟨expected, -, herror⟩ := hfirst.decode_eq hc
    rw [hid] at herror
    cases herror
  · exact fun hplain => ⟨_, decode_of_plain hplain⟩

lemma plain_iff_not_isStray (hl : l.Spaced) : l.Plain ↔ ∀ c ∈ l.text, ¬IsStray c := by
  constructor
  · exact not_isStray_of_plain
  · intro h
    apply plain_of_forall hl
    intro c before reason hc hfirst
    obtain ⟨after, htext⟩ := hfirst.exists_text
    exact h c (by rw [htext]; simp) hc

lemma plain_iff_isText (hl : l.Spaced) : l.Plain ↔ IsText l.text := by
  constructor
  · exact isText_text
  · intro h
    apply plain_of_forall hl
    intro c before reason hc hfirst
    obtain ⟨after, htext⟩ := hfirst.exists_text
    rw [htext] at h
    exact hfirst.not_isText hc after h

lemma text_of_valueText? {m rest : List Char}
    (h : Token.valueText? (m ++ rest) = some (.objectId l, rest)) : m = l.text ∧ l.Spaced := by
  obtain ⟨text, htext, hvalue⟩ := Token.valueText_of_valueText? h
  cases hvalue with
  | objectId hl => exact ⟨List.append_cancel_right htext, hl⟩

/-- A literal is decoded if all of its white space is white space of JSON, and it is a text of JSON
then. The identifier has the digits of the literal, in lower case. Otherwise the first other white
space is refused for a reason that tells the gap, at the place behind what comes before it, which is
how far the literal agrees with any text of JSON. -/
theorem decode_of_valueText {m rest : List Char}
    (h : Token.valueText? (m ++ rest) = some (.objectId l, rest)) :
    m = l.text ∧
    ((∃ id, l.decode = .ok id) ↔
      ∀ c ∈ m, Unicode.isSpace c = true → c ∈ [' ', '\t', '\n', '\r']) ∧
    ((∃ id, l.decode = .ok id) ↔ IsText m) ∧
    (∀ id, l.decode = .ok id → id.hexChars = l.digits.map Char.toLower) ∧
    ∀ before c after, m = before ++ c :: after → (∀ d ∈ before, ¬IsStray d) → IsStray c →
      ∃ (expected : Expected) (place : Place),
        l.decode = .error (.invalidObjectId (String.ofList m) expected place) ∧
        FirstAt l c before expected.message ∧ place.Follows before ∧
        (∃ tail, IsText (before ++ tail)) ∧ ∀ tail, ¬IsText (before ++ c :: tail) := by
  obtain ⟨rfl, hl⟩ := text_of_valueText? h
  refine ⟨rfl, ?_, (exists_decode_iff_plain hl).trans (plain_iff_isText hl), ?_, ?_⟩
  · rw [exists_decode_iff_plain hl, plain_iff_not_isStray hl]
    exact forall₂_congr fun c _ => by rw [IsStray, not_and_not_right]; rfl
  · intro id hid
    have hplain := (exists_decode_iff_plain hl).mp ⟨id, hid⟩
    rw [decode_of_plain hplain] at hid
    cases hid
    exact ObjectId.hexChars_ofDigits l.digits_length l.digits_hex
  · intro before c after htext hbefore hc
    obtain ⟨reason, hfirst⟩ := firstAt_of_text hl hbefore hc htext
    obtain ⟨expected, rfl, herror⟩ := hfirst.decode_eq hc
    obtain ⟨l', hplain, tail, htail⟩ := hfirst.exists_plain
    exact ⟨expected, placeAfter before, herror, hfirst, follows_placeAfter before,
      ⟨tail, htail ▸ isText_text hplain⟩, hfirst.not_isText hc⟩

/-- A no-break space on the second line. -/
theorem decode_of_valueText_noBreakSpace :
    let l : ObjectIdLiteral :=
      ⟨['\n', '\u00a0'], [], [' '], [], "5DE937ba34f907002406af7a".toList, by decide, rfl⟩
    Token.valueText? (l.text ++ " or".toList) = some (.objectId l, " or".toList) ∧
      ∃ (expected : Expected) (place : Place),
        l.decode = .error (.invalidObjectId (String.ofList l.text) expected place) ∧
        place.line = 2 ∧ ∀ tail, ¬IsText (['\x7b', '\n', '\u00a0'] ++ tail) := by
  intro l
  have hnoBreak : Unicode.isSpace '\u00a0' = true := rfl
  have hbrace : Blank ['\n', '\u00a0'] :=
    List.forall_mem_cons.mpr ⟨rfl, List.forall_mem_singleton.mpr hnoBreak⟩
  have hcolon : Blank [' '] := List.forall_mem_singleton.mpr rfl
  have hread : Token.valueText? (l.text ++ " or".toList) = some (.objectId l, " or".toList) :=
    Token.valueText?_append (.objectId ⟨hbrace, blank_nil, hcolon, blank_nil⟩) (by decide)
  obtain ⟨-, -, -, -, hstray⟩ := decode_of_valueText hread
  have hopen : ¬IsStray '\x7b' := not_isStray_of_isVisible (by decide)
  have hfeed : ¬IsStray '\n' := fun h => h.2 (by decide)
  have hbefore : ∀ d ∈ ['\x7b', '\n'], ¬IsStray d :=
    List.forall_mem_cons.mpr ⟨hopen, List.forall_mem_singleton.mpr hfeed⟩
  obtain ⟨expected, place, herror, -, hplace, -, hnot⟩ :=
    hstray ['\x7b', '\n'] '\u00a0' _ rfl hbefore ⟨hnoBreak, by decide⟩
  exact ⟨hread, expected, place, herror, hplace.1, hnot⟩

end ObjectIdLiteral

end FilterQuery
