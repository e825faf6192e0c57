import FilterQuery.Document.Shell
import FilterQuery.Proofs.NearestDouble
import FilterQuery.Proofs.Runs
import FilterQuery.Query.Reading

/-!
# Written numbers

The digits that are chosen for a number are rounded to it, and a numeral is read as the decimal that
its digits, its point and its exponent denote. In every notation the text of a finite number is
therefore read as the number itself, its sign included.
-/

namespace FilterQuery

open Text (digits digitsValue)

namespace Double

/-! ### The chosen decimal -/

section Shortest

variable {m d : Nat} {p : Int}

lemma roundsTo_of_readsBack (h : readsBack m d p = true) :
    RoundsTo m (d * (10 : ℚ) ^ p * unitsPerOne) := by
  have hvalue : (d : ℚ) * 10 ^ p * unitsPerOne =
      ((d * unitsPerOne * 10 ^ p.toNat : Nat) : ℚ) / (10 ^ (-p).toNat : Nat) := by
    rw [zpow_eq_div]
    push_cast
    ring
  have hdouble : 2 * d * (unitsPerOne * 10 ^ p.toNat) = 2 * (d * unitsPerOne * 10 ^ p.toNat) := by
    ring
  unfold readsBack at h
  dsimp only at h
  rw [Nat.pow_eq, Nat.pow_eq, hdouble, Nat.add_mul, Nat.add_mul] at h
  rw [hvalue, roundsTo_div_iff (Nat.pow_pos (by decide))]
  split_ifs at h with heven
  · simp only [Bool.and_eq_true, decide_eq_true_eq] at h
    exact ⟨h.1, h.2, fun hodd => by omega⟩
  · simp only [Bool.and_eq_true, decide_eq_true_eq] at h
    exact ⟨h.1.le, h.2.le, fun _ => h⟩

lemma roundsTo_units (hm : 0 < m) : RoundsTo m (units m) := by
  have hlow : (units (m - 1) : ℚ) < units m := by
    have h := units_lt_units_succ (m - 1)
    rw [Nat.sub_add_cancel hm] at h
    exact_mod_cast h
  have hhigh : (units m : ℚ) < units (m + 1) := by
    exact_mod_cast units_lt_units_succ m
  exact ⟨by linarith, by linarith, fun _ => ⟨by linarith, by linarith⟩⟩

/-- The multiple on a grid reads back, if there is one. -/
lemma readsBack_of_onGrid? {tie : Tie} (h : onGrid? tie m p = some d) : readsBack m d p = true := by
  unfold onGrid? at h
  dsimp only at h
  generalize units m * Nat.pow 10 (-p).toNat = num at h
  generalize unitsPerOne * Nat.pow 10 p.toNat = step at h
  by_cases hlower : readsBack m (num / step) p = true
  · by_cases hupper : readsBack m (num / step + 1) p = true
    · rw [hlower, hupper, Bool.and_self, if_pos rfl, Option.some.injEq] at h
      -- Both neighbours read back, and the tie rule matters only for which of them is chosen.
      have hneighbour : d = num / step ∨ d = num / step + 1 := by
        rw [← h]
        cases tie with
        | toEven =>
          dsimp only
          split_ifs <;> omega
        | up =>
          dsimp only
          split_ifs <;> omega
      obtain rfl | rfl := hneighbour
      · exact hlower
      · exact hupper
    · rw [hlower, Bool.eq_false_of_not_eq_true hupper, Bool.and_false, if_neg (by decide),
        if_pos rfl, Option.some.injEq] at h
      exact h ▸ hlower
  · rw [Bool.eq_false_of_not_eq_true hlower, Bool.false_and, if_neg (by decide),
      if_neg (by decide), Option.ite_none_right_eq_some] at h
    exact Option.some.inj h.2 ▸ h.1

/-- The last resort has the value of the number. -/
lemma exact_value {k : Nat} (hunits : unitsPerOne = 2 ^ k) (m : Nat) :
    ((units m * 5 ^ k : Nat) : ℚ) * 10 ^ (-(k : Int)) * unitsPerOne = units m := by
  have hten : (10 : ℚ) ^ k = 5 ^ k * 2 ^ k := by
    rw [← mul_pow]
    norm_num
  have hpos : (10 : ℚ) ^ k ≠ 0 := pow_ne_zero _ (by norm_num)
  rw [hunits, zpow_neg, zpow_natCast]
  push_cast
  rw [mul_right_comm, mul_assoc (units m : ℚ), ← hten, mul_assoc, mul_inv_cancel₀ hpos, mul_one]

/-- The decimal that is chosen for a number is rounded to it. -/
lemma roundsTo_shortest (tie : Tie) (hm : 0 < m) :
    RoundsTo m ((shortest tie m).1 * (10 : ℚ) ^ (shortest tie m).2 * unitsPerOne) := by
  unfold shortest
  dsimp only
  generalize hfound : (List.range 17).findSome? (fun (n : Nat) =>
    (onGrid? tie m (decimalExponent m - n)).map fun d =>
      (d, decimalExponent m - (n : Int))) = found
  cases found with
  | none =>
    obtain ⟨k, hk, hunits⟩ := exists_unitsPerOne
    have hvalue := exact_value hunits m
    have hexponent : (-1074 : Int) = -(k : Int) := by omega
    rw [Option.getD_none]
    dsimp only
    rw [hexponent, ← hk, Nat.pow_eq, hvalue]
    exact roundsTo_units hm
  | some chosen =>
    obtain ⟨n, -, hn⟩ := List.exists_of_findSome?_eq_some hfound
    obtain ⟨d, hd, rfl⟩ := Option.map_eq_some_iff.mp hn
    exact roundsTo_of_readsBack (readsBack_of_onGrid? hd)

end Shortest

/-! ### Digits without zeros at the end -/

lemma exists_zeros (cs : List Char) :
    ∃ z, cs = (cs.reverse.dropWhile (· == '0')).reverse ++ List.replicate z '0' := by
  refine ⟨(cs.reverse.takeWhile (· == '0')).length, ?_⟩
  have hzeros : cs.reverse.takeWhile (· == '0') =
      List.replicate (cs.reverse.takeWhile (· == '0')).length '0' :=
    List.eq_replicate_of_mem fun c hc => by simpa using List.mem_takeWhile_imp hc
  have hsplit := congrArg List.reverse
    (List.takeWhile_append_dropWhile (p := (· == '0')) (l := cs.reverse))
  rw [List.reverse_reverse, List.reverse_append, hzeros, List.reverse_replicate] at hsplit
  exact hsplit.symm

/-- The digits of a number, with the exponent of the first one, denote a decimal that is rounded to
the number. -/
lemma significantDigits_spec (tie : Tie) {m : Nat} (hm : 0 < m) {ds : List Char} {e : Int}
    (h : significantDigits tie m = (ds, e)) :
    ds ≠ [] ∧ (∀ c ∈ ds, c.isDigit = true) ∧
      RoundsTo m (digitsValue ds * (10 : ℚ) ^ (e + 1 - ds.length) * unitsPerOne) := by
  have hrounds := roundsTo_shortest tie hm
  unfold significantDigits at h
  generalize shortest tie m = chosen at h hrounds
  obtain ⟨d, p⟩ := chosen
  dsimp only at h hrounds
  obtain ⟨hds, rfl⟩ := Prod.mk.inj h
  obtain ⟨z, hz⟩ := exists_zeros (digits d)
  rw [hds] at hz
  have hvalue : d = digitsValue ds * 10 ^ z := by
    rw [← Text.digitsValue_append_zeros, ← hz, Text.digitsValue_digits]
  have hlength : (digits d).length = ds.length + z := by
    rw [hz, List.length_append, List.length_replicate]
  refine ⟨?_, ?_, ?_⟩
  · rintro rfl
    have hzero : d = 0 := by rw [hvalue, show digitsValue [] = 0 from rfl, Nat.zero_mul]
    have hone := hrounds.one_le hm
    rw [hzero, Nat.cast_zero, zero_mul, zero_mul, mul_zero] at hone
    linarith
  · intro c hc
    apply Text.isDigit_of_mem_digits d
    rw [hz]
    exact List.mem_append_left _ hc
  · have hexponent : p + (digits d).length - 1 + 1 - ds.length = z + p := by omega
    rw [hexponent, zpow_add₀ (by norm_num), zpow_natCast, ← mul_assoc]
    rw [hvalue] at hrounds
    push_cast at hrounds
    exact hrounds

end Double

/-! ### Numerals -/

namespace Decimal

/-- The exponent of a numeral, with its sign. -/
def exponentText (e : Int) : List Char :=
  ['e', if e < 0 then '-' else '+'] ++ Text.digits e.natAbs

section Numerals

variable {cs whole fraction rest : List Char} {e : Int}

/-- A numeral without an exponent: some digits, or some digits, a point and further digits. -/
structure Positional (cs whole fraction : List Char) : Prop where
  ne_nil : whole ≠ []
  whole_digits : ∀ c ∈ whole, c.isDigit = true
  fraction_digits : ∀ c ∈ fraction, c.isDigit = true
  text : cs = whole ∧ fraction = [] ∨ cs = whole ++ '.' :: fraction

/-- A numeral, in which an exponent can come last. -/
inductive Numeral : List Char → List Char → List Char → Int → Prop where
  | plain {cs whole fraction : List Char} :
      Positional cs whole fraction → Numeral cs whole fraction 0
  | exponent {cs whole fraction : List Char} {e : Int} :
      Positional cs whole fraction → Numeral (cs ++ exponentText e) whole fraction e

lemma Positional.readMantissa_append (h : Positional cs whole fraction)
    (hrest : ∀ c ∈ rest.head?, c.isDigit = false ∧ c ≠ '.') :
    readMantissa (cs ++ rest) = some (whole, fraction, rest) := by
  have hdigit : ∀ c ∈ rest.head?, c.isDigit = false := fun c hc => (hrest c hc).1
  obtain ⟨c, tail, hcons⟩ := List.exists_cons_of_ne_nil h.ne_nil
  unfold readMantissa
  obtain ⟨rfl, rfl⟩ | rfl := h.text
  · rw [Text.run_append h.whole_digits hdigit, hcons]
    cases rest with
    | nil => rfl
    | cons d rest =>
      have hd := (hrest d rfl).2
      split
      · rename_i heq
        cases heq
      · rename_i heq
        cases heq
      · rename_i heq
        cases heq
        exact absurd rfl hd
      · rename_i heq
        cases heq
        rfl
  · have hpoint : ∀ d ∈ ('.' :: (fraction ++ rest)).head?, d.isDigit = false := by
      rintro d ⟨⟩
      decide
    rw [List.append_assoc, List.cons_append, Text.run_append h.whole_digits hpoint, hcons]
    change some (c :: tail, (Text.run Char.isDigit (fraction ++ rest)).1,
      (Text.run Char.isDigit (fraction ++ rest)).2) = _
    rw [Text.run_append h.fraction_digits hdigit]

lemma Positional.head (h : Positional cs whole fraction) (rest : List Char) :
    ∀ c ∈ (cs ++ rest).head?, c.isDigit = true := by
  have hhead : (cs ++ rest).head? = whole.head? := by
    obtain ⟨rfl, -⟩ | rfl := h.text
    · exact List.head?_append_of_ne_nil _ h.ne_nil
    · rw [List.append_assoc]
      exact List.head?_append_of_ne_nil _ h.ne_nil
  rw [hhead]
  exact fun c hc => h.whole_digits c (List.mem_of_mem_head? hc)

lemma Positional.mem (h : Positional cs whole fraction) :
    ∀ c ∈ cs, c.isDigit = true ∨ c = '.' := by
  intro c hc
  obtain ⟨rfl, -⟩ | rfl := h.text
  · exact .inl (h.whole_digits c hc)
  · rw [List.mem_append, List.mem_cons] at hc
    obtain hwhole | rfl | hfraction := hc
    · exact .inl (h.whole_digits c hwhole)
    · exact .inr rfl
    · exact .inl (h.fraction_digits c hfraction)

lemma Numeral.mem (h : Numeral cs whole fraction e) :
    ∀ c ∈ cs, c.isDigit = true ∨ c ∈ ['.', 'e', '-', '+'] := by
  intro c hc
  have hmantissa {ds : List Char} (hds : Positional ds whole fraction) (hmem : c ∈ ds) :
      c.isDigit = true ∨ c ∈ ['.', 'e', '-', '+'] := by
    refine (hds.mem c hmem).imp id ?_
    rintro rfl
    decide
  cases h with
  | plain htext => exact hmantissa htext hc
  | exponent htext =>
    obtain hmem | hmem := List.mem_append.mp hc
    · exact hmantissa htext hmem
    · obtain hsign | hdigit := List.mem_append.mp hmem
      · obtain rfl | rfl := List.mem_pair.mp hsign
        · exact .inr (by decide)
        · split_ifs <;> exact .inr (by decide)
      · exact .inl (Text.isDigit_of_mem_digits _ c hdigit)

lemma readSign_append (negative : Bool) (hcs : ∀ c ∈ cs.head?, c.isDigit = true) :
    readSign ((if negative then ['-'] else []) ++ cs) = (negative, cs) := by
  cases negative with
  | true => rfl
  | false =>
    cases cs with
    | nil => rfl
    | cons c cs =>
      have hc : c ≠ '-' := by
        rintro rfl
        exact absurd (hcs '-' rfl) (by decide)
      simp only [Bool.false_eq_true, if_false, List.nil_append]
      unfold readSign
      split
      · rename_i heq
        cases heq
        exact absurd rfl hc
      · rfl

lemma readWhole_digits (n : ℕ) : readWhole (Text.digits n) = some n := by
  have hne : Text.digits n ≠ [] := List.ne_nil_of_length_pos (Text.length_digits_pos n)
  have hall : (Text.digits n).all Char.isDigit = true :=
    List.all_eq_true.mpr (Text.isDigit_of_mem_digits n)
  rw [readWhole, if_pos ⟨hne, hall⟩, Text.digitsValue_digits]

lemma readExponent_exponentText (e : Int) : readExponent (exponentText e) = some e := by
  unfold exponentText
  split_ifs with he
  · simp only [List.cons_append, List.nil_append, readExponent, true_or, if_true, readWhole_digits,
      Option.bind_eq_bind, Option.bind_some, Option.pure_def, Option.map_some, Option.some.injEq]
    omega
  · simp only [List.cons_append, List.nil_append, readExponent, true_or, if_true, readWhole_digits,
      Option.bind_eq_bind, Option.bind_some, Option.pure_def, Option.map_some, Option.some.injEq]
    omega

lemma Positional.read?_append (h : Positional cs whole fraction) (negative : Bool)
    (hrest : ∀ c ∈ rest.head?, c.isDigit = false ∧ c ≠ '.') (he : readExponent rest = some e) :
    read? ((if negative then ['-'] else []) ++ (cs ++ rest)) =
      some ⟨negative, digitsValue (whole ++ fraction), e - fraction.length⟩ := by
  unfold read?
  rw [readSign_append negative (h.head rest)]
  dsimp only
  rw [h.readMantissa_append hrest]
  dsimp only
  rw [he, Option.map_some]

/-- A numeral is read as the decimal that it denotes. -/
lemma Numeral.read?_eq (h : Numeral cs whole fraction e) (negative : Bool) :
    read? ((if negative then ['-'] else []) ++ cs) =
      some ⟨negative, digitsValue (whole ++ fraction), e - fraction.length⟩ := by
  cases h with
  | plain htext =>
    have hend : ∀ c ∈ ([] : List Char).head?, c.isDigit = false ∧ c ≠ '.' := fun _ hc => nomatch hc
    have hread := htext.read?_append negative hend rfl
    rwa [List.append_nil] at hread
  | exponent htext =>
    refine htext.read?_append negative ?_ (readExponent_exponentText e)
    rintro c ⟨⟩
    decide

end Numerals

end Decimal

namespace Double

section Styles

variable (style : NumeralStyle) {ds : List Char} (e : Int)

/-- Digits are written as a numeral in which the first of them has the exponent `e`. -/
lemma positional_positionalText (pointZero : Bool) (hne : ds ≠ [])
    (hds : ∀ c ∈ ds, c.isDigit = true) :
    ∃ whole fraction, Decimal.Positional (positionalText pointZero ds e) whole fraction ∧
      (digitsValue (whole ++ fraction) : ℚ) * 10 ^ (0 - (fraction.length : Int)) =
        digitsValue ds * 10 ^ (e + 1 - ds.length) := by
  unfold positionalText
  dsimp only
  -- The point stands before the digits, behind them or among them. Behind them it is left out, or
  -- one more zero is written after it.
  split_ifs with he hlength hzero
  · refine ⟨['0'], List.replicate (-e - 1).toNat '0' ++ ds, ⟨by simp, ?_, ?_, .inr rfl⟩, ?_⟩
    · exact Text.isDigit_of_mem_zeros 1
    · intro c hc
      exact (List.mem_append.mp hc).elim (Text.isDigit_of_mem_zeros _ c) (hds c)
    · have hexponent : 0 - ((List.replicate (-e - 1).toNat '0' ++ ds).length : Int) =
          e + 1 - ds.length := by
        rw [List.length_append, List.length_replicate]
        omega
      rw [hexponent, ← List.replicate_one, Text.digitsValue_zeros_append,
        Text.digitsValue_zeros_append]
  · refine ⟨ds ++ List.replicate (e.toNat + 1 - ds.length) '0', ['0'],
      ⟨by simp [hne], ?_, Text.isDigit_of_mem_zeros 1, .inr rfl⟩, ?_⟩
    · intro c hc
      exact (List.mem_append.mp hc).elim (hds c) (Text.isDigit_of_mem_zeros _ c)
    · have hexponent : e + 1 - ds.length =
          ((e.toNat + 1 - ds.length + 1 : Nat) : Int) + (0 - (['0'].length : Int)) := by
        rw [List.length_singleton]
        omega
      rw [List.append_assoc, ← List.replicate_one, ← List.replicate_add,
        Text.digitsValue_append_zeros, hexponent, zpow_add₀ (by norm_num), zpow_natCast]
      push_cast
      ring
  · refine ⟨ds ++ List.replicate (e.toNat + 1 - ds.length) '0', [],
      ⟨by simp [hne], ?_, by simp, .inl ⟨by simp, rfl⟩⟩, ?_⟩
    · intro c hc
      exact (List.mem_append.mp hc).elim (hds c) (Text.isDigit_of_mem_zeros _ c)
    · have hexponent : e + 1 - ds.length = ((e.toNat + 1 - ds.length : Nat) : Int) := by omega
      rw [List.append_nil, Text.digitsValue_append_zeros, hexponent, zpow_natCast]
      simp
  · refine ⟨ds.take (e.toNat + 1), ds.drop (e.toNat + 1), ⟨by simp [hne], ?_, ?_, .inr rfl⟩, ?_⟩
    · exact fun c hc => hds c (List.mem_of_mem_take hc)
    · exact fun c hc => hds c (List.mem_of_mem_drop hc)
    · have hexponent : 0 - ((ds.drop (e.toNat + 1)).length : Int) = e + 1 - ds.length := by
        rw [List.length_drop]
        omega
      rw [List.take_append_drop, hexponent]

/-- The same value with one digit before the point. -/
lemma numeral_scientificText (hne : ds ≠ []) (hds : ∀ c ∈ ds, c.isDigit = true) :
    ∃ whole fraction, Decimal.Numeral (scientificText ds e) whole fraction e ∧
      (digitsValue (whole ++ fraction) : ℚ) * 10 ^ (e - (fraction.length : Int)) =
        digitsValue ds * 10 ^ (e + 1 - ds.length) := by
  obtain ⟨d, tail, rfl⟩ := List.exists_cons_of_ne_nil hne
  have hmantissa :
      Decimal.Positional ([d] ++ (if tail.isEmpty then [] else '.' :: tail)) [d] tail := by
    refine ⟨by simp, ?_, fun c hc => hds c (List.mem_cons_of_mem d hc), ?_⟩
    · exact fun c hc => hds c (List.mem_singleton.mp hc ▸ List.mem_cons_self)
    · cases tail with
      | nil => exact .inl ⟨rfl, rfl⟩
      | cons => exact .inr rfl
  have htext := Decimal.Numeral.exponent hmantissa (e := e)
  refine ⟨[d], tail, ?_, ?_⟩
  · simpa [scientificText, Decimal.exponentText] using htext
  · have hexponent : e - (tail.length : Int) = e + 1 - (d :: tail).length := by
      rw [List.length_cons]
      omega
    rw [hexponent]
    rfl

lemma positional_zero (pointZero : Bool) :
    ∃ fraction, Decimal.Positional ('0' :: (if pointZero then ['.', '0'] else [])) ['0'] fraction ∧
      digitsValue (['0'] ++ fraction) = 0 := by
  have hdigits := Text.isDigit_of_mem_zeros 1
  cases pointZero with
  | true => exact ⟨['0'], ⟨by simp, hdigits, hdigits, .inr rfl⟩, rfl⟩
  | false => exact ⟨[], ⟨by simp, hdigits, by simp, .inl ⟨rfl, rfl⟩⟩, rfl⟩

variable {m : Nat}

/-- A finite magnitude is written as a numeral that denotes it. -/
lemma numeral_magnitudeText (hm : m < infinityBits) :
    ∃ whole fraction e, Decimal.Numeral (magnitudeText style m) whole fraction e ∧
      ∀ negative, ofDecimal ⟨negative, digitsValue (whole ++ fraction), e - fraction.length⟩ =
        ofMagnitude negative m := by
  unfold magnitudeText
  by_cases hzero : m = 0
  · rw [if_pos hzero, hzero]
    obtain ⟨fraction, htext, hvalue⟩ := positional_zero style.pointZero
    exact ⟨_, fraction, 0, .plain htext, fun _ => ofDecimal_zero hvalue⟩
  · have hpos : 0 < m := Nat.pos_of_ne_zero hzero
    rw [if_neg hzero]
    generalize hdigits : significantDigits style.tie m = chosen
    obtain ⟨ds, e⟩ := chosen
    obtain ⟨hne, hds, hrounds⟩ := significantDigits_spec style.tie hpos hdigits
    have hread (d : Decimal)
        (hd : (d.digits : ℚ) * 10 ^ d.exponent = digitsValue ds * 10 ^ (e + 1 - ds.length)) :
        ofDecimal d = ofMagnitude d.negative m := by
      apply ofDecimal_eq hpos hm
      rw [hd]
      exact hrounds
    dsimp only
    split_ifs
    · obtain ⟨whole, fraction, htext, hvalue⟩ := positional_positionalText e style.pointZero hne hds
      exact ⟨whole, fraction, 0, .plain htext, fun negative => hread ⟨negative, _, _⟩ hvalue⟩
    · obtain ⟨whole, fraction, htext, hvalue⟩ := numeral_scientificText e hne hds
      exact ⟨whole, fraction, e, htext, fun negative => hread ⟨negative, _, _⟩ hvalue⟩

/-- A notation without exponents uses none. -/
lemma positional_magnitudeText {style : NumeralStyle} (hstyle : ∀ e, style.positional e = true) :
    ∃ whole fraction, Decimal.Positional (magnitudeText style m) whole fraction := by
  unfold magnitudeText
  by_cases hzero : m = 0
  · rw [if_pos hzero]
    obtain ⟨fraction, htext, -⟩ := positional_zero style.pointZero
    exact ⟨_, fraction, htext⟩
  · rw [if_neg hzero]
    generalize hdigits : significantDigits style.tie m = chosen
    obtain ⟨ds, e⟩ := chosen
    obtain ⟨hne, hds, -⟩ := significantDigits_spec style.tie (Nat.pos_of_ne_zero hzero) hdigits
    obtain ⟨whole, fraction, htext, -⟩ := positional_positionalText e style.pointZero hne hds
    dsimp only
    rw [if_pos (hstyle e)]
    exact ⟨whole, fraction, htext⟩

end Styles

end Double

/-- The text of a finite number is read as the number, in whatever notation it is. -/
theorem Literal.readNumber?_text (style : Double.NumeralStyle) {x : Double}
    (hx : x.isFinite = true) : Literal.readNumber? (x.text style) = some x := by
  have hm : x.magnitude < Double.infinityBits := of_decide_eq_true hx
  obtain ⟨whole, fraction, e, htext, hvalue⟩ := Double.numeral_magnitudeText style hm
  have hself : Double.ofMagnitude x.negative x.magnitude = x := by
    unfold Double.ofMagnitude
    cases x
    simp only [Double.mk.injEq, true_and]
    exact Nat.min_eq_left hm.le
  unfold Literal.readNumber? Double.text
  rw [htext.read?_eq]
  dsimp only
  rw [hvalue, hself, if_pos hx]

namespace Shell

variable {x : Double}

lemma numberText_of_finite (hx : x.isFinite = true) : numberText x = x.text numeral := by
  have hm : x.magnitude < Double.infinityBits := of_decide_eq_true hx
  have hnan : x.isNaN = false := decide_eq_false (by omega)
  have hinfinite : x.isInfinite = false := beq_false_of_ne (by omega)
  unfold numberText
  rw [hnan, hinfinite]
  rfl

lemma mem_numberText (hx : x.isFinite = true) :
    ∀ c ∈ numberText x, c.isDigit = true ∨ c = '.' ∨ c = '-' := by
  intro c hc
  rw [numberText_of_finite hx, Double.text, List.mem_append] at hc
  obtain hsign | hdigit := hc
  · split_ifs at hsign
    · exact .inr (.inr (List.mem_singleton.mp hsign))
    · cases hsign
  · have hstyle : ∀ e, numeral.positional e = true := fun _ => rfl
    obtain ⟨whole, fraction, htext⟩ := Double.positional_magnitudeText hstyle (m := x.magnitude)
    obtain hd | hpoint := htext.mem c hdigit
    · exact .inl hd
    · exact .inr (.inl hpoint)

end Shell

lemma Literal.readNumber?_numberText {x : Double} (hx : x.isFinite = true) :
    Literal.readNumber? (Shell.numberText x) = some x := by
  rw [Shell.numberText_of_finite hx]
  exact readNumber?_text Shell.numeral hx

end FilterQuery
