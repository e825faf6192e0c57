import FilterQuery.Proofs.CursorWalk
import FilterQuery.Proofs.IdentifierSpaces

/-!
# Digits of identifiers

The texts of identifiers are those of 24 hexadecimal digits. Reading and writing are inverse to each
other but for the case of the digits, a text that is refused is refused for its first character that
is no digit or else for its length, and identifiers are in the order of their texts.
-/

namespace FilterQuery

namespace Text

/-- The bytes of a text from `start` up to `stop`, if both are between characters of the text. -/
def slice? (start stop : ℕ) (cs : List Char) : Option (List Char) := do
  let rest ← afterBytes? start cs
  let after ← afterBytes? stop cs
  some (rest.take (rest.length - after.length))

end Text

open Text

namespace ObjectId

def hexDigits : List Char :=
  "0123456789abcdefABCDEF".toList

/-- One more digit of a byte, which a byte need not have room for. -/
def pushDigit? (b : UInt8) (c : Char) : Option UInt8 :=
  if isHexDigit c && 16 * b.toNat + hexValue c < 256 then
    some (UInt8.ofNat (16 * b.toNat + hexValue c))
  else none

/-- Reads a byte from digits, of which there may be any number, after a plus sign or without one. -/
def readByte? (cs : List Char) : Option UInt8 :=
  let digits := if cs.head? = some '+' then cs.tail else cs
  if digits.isEmpty then none else digits.foldlM pushDigit? 0

/-- The twelve bytes of a text, each read from two bytes of it. There is no result if one of the
slices is not in the text or is not read. -/
def slicedBytes? (cs : List Char) : Option (List UInt8) :=
  (List.range 12).mapM fun i => (slice? (2 * i) (2 * i + 2) cs).bind readByte?

variable {c : Char} {cs : List Char}

lemma isHexDigit_iff : isHexDigit c = true ↔ c ∈ hexDigits := by
  constructor
  · intro h
    exact of_isHexDigit (P := fun c => c ∈ hexDigits) h (by decide)
  · intro h
    have hall : hexDigits.all isHexDigit = true := by decide
    exact List.all_eq_true.mp hall c h

lemma utf8Size_of_isHexDigit (h : isHexDigit c = true) : c.utf8Size = 1 :=
  of_isHexDigit (P := fun c => c.utf8Size = 1) h (by decide)

lemma utf8Size_of_hexDigits (h : ∀ c ∈ cs, isHexDigit c = true) : utf8Size cs = cs.length := by
  induction cs with
  | nil => rfl
  | cons c cs ih =>
    rw [utf8Size, utf8Size_of_isHexDigit (h c List.mem_cons_self),
      ih fun d hd => h d (List.mem_cons_of_mem c hd), List.length_cons, Nat.add_comm]

/-! ### Reading -/

lemma ofHex_of_digits (h : ∀ c ∈ cs, isHexDigit c = true) :
    ofHex cs = if hlength : cs.length = 24 then .ok (ofDigits cs hlength)
      else .error (.length cs.length) := by
  have hfind : cs.find? (fun c => !isHexDigit c) = none := by
    rw [List.find?_eq_none]
    intro c hc
    simp [h c hc]
  rw [ofHex, hfind, utf8Size_of_hexDigits h]

lemma ofHex_eq_character_iff :
    ofHex cs = .error (.character c) ↔
      ∃ before after, cs = before ++ c :: after ∧ (∀ d ∈ before, d ∈ hexDigits) ∧
        c ∉ hexDigits := by
  have hfind : ofHex cs = .error (.character c) ↔ cs.find? (fun c => !isHexDigit c) = some c := by
    unfold ofHex
    cases cs.find? fun c => !isHexDigit c with
    | none =>
      by_cases hlength : cs.length = 24 <;> simp [hlength]
    | some d => simp
  rw [hfind, List.find?_eq_some_iff_append]
  simp only [← isHexDigit_iff, Bool.not_not, Bool.not_eq_true', Bool.not_eq_true]
  constructor
  · rintro ⟨hc, before, after, heq, hbefore⟩
    exact ⟨before, after, heq, hbefore, hc⟩
  · rintro ⟨before, after, heq, hbefore, hc⟩
    exact ⟨hc, before, after, heq, hbefore⟩

/-- A text is refused for a character, or else all its characters are digits. -/
lemma digits_or_character (cs : List Char) :
    (∀ c ∈ cs, isHexDigit c = true) ∨
      ∃ c ∈ cs, isHexDigit c = false ∧ ofHex cs = .error (.character c) := by
  cases hfind : cs.find? fun c => !isHexDigit c with
  | none =>
    left
    intro c hc
    have hno := List.find?_eq_none.mp hfind c hc
    simpa using hno
  | some c =>
    right
    have hno := List.find?_some hfind
    exact ⟨c, List.mem_of_find?_eq_some hfind, by simpa using hno, by rw [ofHex, hfind]⟩

/-- Every outcome but the refusal of a character comes of a text of digits. -/
lemma ofHex_eq_iff_of_ne {result : Except Error ObjectId}
    (hne : ∀ c, result ≠ .error (.character c)) :
    ofHex cs = result ↔ (∀ c ∈ cs, isHexDigit c = true) ∧
      (if hlength : cs.length = 24 then .ok (ofDigits cs hlength)
        else .error (.length cs.length)) = result := by
  obtain hdigits | ⟨c, hc, hno, herror⟩ := digits_or_character cs
  · rw [ofHex_of_digits hdigits]
    exact (and_iff_right hdigits).symm
  · rw [herror]
    constructor
    · intro heq
      exact absurd heq.symm (hne c)
    · rintro ⟨hdigits, -⟩
      rw [hdigits c hc] at hno
      cases hno

lemma ofHex_eq_length_iff {n : ℕ} :
    ofHex cs = .error (.length n) ↔
      (∀ c ∈ cs, c ∈ hexDigits) ∧ cs.length ≠ 24 ∧ n = cs.length := by
  simp only [← isHexDigit_iff]
  rw [ofHex_eq_iff_of_ne (by rintro c ⟨⟩)]
  apply and_congr_right'
  by_cases hlength : cs.length = 24
  · simp [hlength]
  · rw [dif_neg hlength, and_iff_right hlength]
    constructor
    · rintro ⟨⟩
      rfl
    · rintro rfl
      rfl

lemma ofHex_eq_ok_iff {id : ObjectId} :
    ofHex cs = .ok id ↔
      (∀ c ∈ cs, isHexDigit c = true) ∧ ∃ hlength, ofDigits cs hlength = id := by
  rw [ofHex_eq_iff_of_ne (by rintro c ⟨⟩)]
  apply and_congr_right'
  by_cases hlength : cs.length = 24 <;> simp [hlength]

/-! ### Slices -/

lemma readByte?_pair {high low : Char} (hhigh : isHexDigit high = true)
    (hlow : isHexDigit low = true) :
    readByte? [high, low] = some (UInt8.ofNat (16 * hexValue high + hexValue low)) := by
  have hplus : high ≠ '+' := by
    rintro rfl
    cases hhigh
  obtain ⟨hhighvalue, -⟩ := hexDigit_hexValue hhigh
  obtain ⟨hlowvalue, -⟩ := hexDigit_hexValue hlow
  have hfirst : pushDigit? 0 high = some (UInt8.ofNat (hexValue high)) := by
    simp [pushDigit?, hhigh]
    omega
  have hbyte : (UInt8.ofNat (hexValue high)).toNat = hexValue high :=
    UInt8.toNat_ofNat_of_lt' (by simp only [UInt8.size]; omega)
  have hsecond : pushDigit? (UInt8.ofNat (hexValue high)) low =
      some (UInt8.ofNat (16 * hexValue high + hexValue low)) := by
    rw [pushDigit?, hbyte, hlow, if_pos]
    simp only [Bool.true_and, decide_eq_true_eq]
    omega
  simp [readByte?, hplus, hfirst, hsecond]

section Pairs

variable {high low : Char} {rest : List Char} (hhigh : isHexDigit high = true)
  (hlow : isHexDigit low = true)

include hhigh hlow

lemma afterBytes?_pair (n : ℕ) :
    afterBytes? (n + 2) (high :: low :: rest) = afterBytes? n rest := by
  simp [afterBytes?, utf8Size_of_isHexDigit hhigh, utf8Size_of_isHexDigit hlow]

lemma slice?_pair (start stop : ℕ) :
    slice? (start + 2) (stop + 2) (high :: low :: rest) = slice? start stop rest := by
  rw [slice?, afterBytes?_pair hhigh hlow, afterBytes?_pair hhigh hlow, slice?]

lemma slice?_first : slice? 0 2 (high :: low :: rest) = some [high, low] := by
  have htwo : rest.length + 1 + 1 - rest.length = 2 := by omega
  simp [slice?, afterBytes?, utf8Size_of_isHexDigit hhigh, utf8Size_of_isHexDigit hlow, htwo]

end Pairs

/-- By induction on the pairs: the first slice is the first pair, and the others are slices of what
follows it. -/
lemma mapM_slices {n : ℕ} (hlength : cs.length = 2 * n) (h : ∀ c ∈ cs, isHexDigit c = true) :
    ((List.range n).mapM fun i => (slice? (2 * i) (2 * i + 2) cs).bind readByte?) =
      some (pairBytes cs) := by
  induction n generalizing cs with
  | zero =>
    rw [List.length_eq_zero_iff.mp hlength]
    rfl
  | succ n ih =>
    obtain _ | ⟨high, _ | ⟨low, rest⟩⟩ := cs
    · simp at hlength
    · simp at hlength
      omega
    have hhigh := h high (by simp)
    have hlow := h low (by simp)
    simp only [List.length_cons] at hlength
    have hlength' : rest.length = 2 * n := by omega
    have hrest := ih hlength' fun c hc => h c (by simp [hc])
    have hnext (i : ℕ) : slice? (2 * (i + 1)) (2 * (i + 1) + 2) (high :: low :: rest) =
        slice? (2 * i) (2 * i + 2) rest :=
      slice?_pair hhigh hlow (2 * i) (2 * i + 2)
    rw [List.range_succ_eq_map, List.mapM_cons, List.mapM_map]
    simp only [Function.comp_def, Nat.succ_eq_add_one, hnext, hrest, Nat.mul_zero, Nat.zero_add,
      slice?_first hhigh hlow, Option.bind_some, readByte?_pair hhigh hlow]
    rfl

/-! ### Order -/

lemma hexDigit_lt_iff {m n : ℕ} (hm : m < 16) (hn : n < 16) :
    hexDigit m < hexDigit n ↔ m < n := by
  have hall : ∀ m < 16, ∀ n < 16, (hexDigit m < hexDigit n ↔ m < n) := by decide
  exact hall m hm n hn

lemma hexDigit_eq_iff {m n : ℕ} (hm : m < 16) (hn : n < 16) :
    hexDigit m = hexDigit n ↔ m = n := by
  constructor
  · intro h
    rw [← hexValue_hexDigit hm, h, hexValue_hexDigit hn]
  · exact congrArg hexDigit

/-- By induction on the bytes: the higher digit of a byte weighs more. -/
lemma flatMap_byteDigits_lt_iff (as bs : List UInt8) :
    as.flatMap byteDigits < bs.flatMap byteDigits ↔ as < bs := by
  induction as generalizing bs with
  | nil => cases bs <;> simp [byteDigits]
  | cons a as ih =>
    cases bs with
    | nil => simp
    | cons b bs =>
      have ha := a.toNat_lt
      have hb := b.toNat_lt
      have hlt : a < b ↔ a.toNat / 16 < b.toNat / 16 ∨
          a.toNat / 16 = b.toNat / 16 ∧ a.toNat % 16 < b.toNat % 16 := by
        rw [UInt8.lt_iff_toNat_lt]
        omega
      have heq : a = b ↔ a.toNat / 16 = b.toNat / 16 ∧ a.toNat % 16 = b.toNat % 16 := by
        rw [← UInt8.toNat_inj]
        omega
      simp only [List.flatMap_cons, byteDigits, List.cons_append, List.nil_append,
        List.cons_lt_cons_iff, ih]
      rw [hexDigit_lt_iff (by omega) (by omega), hexDigit_lt_iff (by omega) (by omega),
        hexDigit_eq_iff (by omega) (by omega), hexDigit_eq_iff (by omega) (by omega), hlt, heq]
      tauto

lemma compare_eq (a b : ObjectId) : compare a b = compare a.toHex b.toHex := by
  have hlt : a.bytes < b.bytes ↔ a.toHex < b.toHex := by
    rw [String.lt_iff, toHex, toHex, String.toList_ofList, String.toList_ofList]
    exact (flatMap_byteDigits_lt_iff a.bytes b.bytes).symm
  have heq : a.bytes = b.bytes ↔ a.toHex = b.toHex := by
    rw [toHex, toHex, String.ofList_inj]
    constructor
    · exact congrArg (List.flatMap byteDigits)
    · exact fun h => congrArg bytes (hexChars_injective h)
  change compareOfLessAndEq a.bytes b.bytes = compareOfLessAndEq a.toHex b.toHex
  simp only [compareOfLessAndEq, hlt, heq]

/-- The texts of identifiers are those of 24 digits, read from twelve slices that are all in the
text. Any other text is refused, for the first character that is no digit or else for its length.
What is written is read again, what is read is written in lower case, and the order is that of the
texts. -/
theorem ofHex_exact :
    (∀ cs, (∃ id, ofHex cs = .ok id) ↔ cs.length = 24 ∧ ∀ c ∈ cs, c ∈ hexDigits) ∧
      (∀ cs c, ofHex cs = .error (.character c) ↔ ∃ before after, cs = before ++ c :: after ∧
        (∀ d ∈ before, d ∈ hexDigits) ∧ c ∉ hexDigits) ∧
      (∀ cs n, ofHex cs = .error (.length n) ↔
        (∀ c ∈ cs, c ∈ hexDigits) ∧ cs.length ≠ 24 ∧ n = cs.length) ∧
      (∀ cs, (∀ c ∈ cs, c ∈ hexDigits) → utf8Size cs = 24 →
        ∃ id, slicedBytes? cs = some id.bytes ∧ ofHex cs = .ok id) ∧
      (∀ bytes length_eq, ofHex (toHex ⟨bytes, length_eq⟩).toList = .ok ⟨bytes, length_eq⟩) ∧
      (∀ cs id, ofHex cs = .ok id → id.toHex = String.ofList (cs.map Char.toLower)) ∧
      ∀ a b : ObjectId, compare a b = compare a.toHex b.toHex := by
  refine ⟨fun cs => ?_, fun cs c => ofHex_eq_character_iff, fun cs n => ofHex_eq_length_iff,
    fun cs hdigits hsize => ?_, fun bytes hlength => ?_, fun cs id h => ?_, compare_eq⟩
  · simp only [ofHex_eq_ok_iff, ← isHexDigit_iff]
    constructor
    · rintro ⟨id, hdigits, hlength, -⟩
      exact ⟨hlength, hdigits⟩
    · rintro ⟨hlength, hdigits⟩
      exact ⟨ofDigits cs hlength, hdigits, hlength, rfl⟩
  · simp only [← isHexDigit_iff] at hdigits
    rw [utf8Size_of_hexDigits hdigits] at hsize
    exact ⟨ofDigits cs hsize, mapM_slices hsize hdigits, ofHex_eq_ok_iff.mpr ⟨hdigits, hsize, rfl⟩⟩
  · rw [toHex, String.toList_ofList, ofHex_eq_ok_iff]
    refine ⟨fun c hc => ?_, ?_, ?_⟩
    · obtain ⟨b, -, hb⟩ := List.mem_flatMap.mp hc
      exact isHexDigit_of_mem_byteDigits b c hb
    · rw [hexChars, length_flatMap_byteDigits, hlength]
    · simp only [ofDigits, hexChars, pairBytes_flatMap]
  · obtain ⟨hdigits, hlength, rfl⟩ := ofHex_eq_ok_iff.mp h
    rw [toHex, hexChars_ofDigits hlength (List.all_eq_true.mpr hdigits)]

end ObjectId

end FilterQuery
