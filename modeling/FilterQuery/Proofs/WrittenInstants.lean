import FilterQuery.Proofs.CivilTimes

/-!
# Written instants

The text of an instant is the written form of its civil time in whole milliseconds. It is read as the
instant without the part below the millisecond, for all years up to 9999 that have instants. Later
years are written with a plus sign, which is not read.
-/

namespace FilterQuery

open Text (digits digitsValue paddedDigits)

namespace Instant

/-- The instant without its part below the millisecond. -/
def toMillis (t : Instant) : Instant :=
  ⟨t.seconds, t.nanos / 1000000 * 1000000, by have := t.nanos_lt; omega⟩

/-- The civil time that is written for an instant. -/
def civil (t : Instant) : CivilTime where
  year := t.day.year
  month := t.day.month
  day := t.day.day
  hour := t.secondOfDay / 3600
  minute := t.secondOfDay / 60 % 60
  second := t.secondOfDay % 60
  nanos := t.nanos / 1000000 * 1000000

/-! ### The parts of the text -/

lemma run_paddedDigits (rest : List Char) (width n : Nat) {c : Char} (hc : c.isDigit = false) :
    Text.run Char.isDigit (paddedDigits width n ++ c :: rest) =
      (paddedDigits width n, c :: rest) :=
  run_digits (Text.isDigit_of_mem_paddedDigits width n) hc rest

lemma yearDigits_paddedDigits (n : Nat) : CivilTime.YearDigits (paddedDigits 4 n) := by
  refine ⟨Text.isDigit_of_mem_paddedDigits 4 n, ?_⟩
  by_cases hn : n < 10000
  · exact .inl (Text.length_paddedDigits_of_lt 4 n (by decide) hn)
  · right
    have hlength : 4 < (digits n).length := by
      by_contra hshort
      have := (Text.length_digits_le_iff n (k := 4) (by decide)).mp (by omega)
      omega
    have hpadded : paddedDigits 4 n = digits n := by
      rw [paddedDigits, show 4 - (digits n).length = 0 by omega]
      rfl
    rw [hpadded]
    exact ⟨hlength, Text.head_digits_ne n (by omega)⟩

lemma yearText_spec {y : Int} (hy : y ≤ 9999) : CivilTime.YearText (yearText y) y := by
  unfold yearText
  by_cases hsign : 0 ≤ y
  · have hplain := CivilTime.YearText.plain (yearDigits_paddedDigits y.toNat)
    rw [Text.digitsValue_paddedDigits, Int.toNat_of_nonneg hsign] at hplain
    rwa [if_pos ⟨hsign, hy⟩]
  · have hminus := CivilTime.YearText.minus (yearDigits_paddedDigits y.natAbs)
    rw [Text.digitsValue_paddedDigits, show -(y.natAbs : Int) = y by omega] at hminus
    rwa [if_neg (by omega), if_pos (by omega)]

lemma fractionText_millis {n : Nat} (hn : n < 1000) :
    CivilTime.FractionText ('.' :: paddedDigits 3 n) (n * 1000000) := by
  have hlength := Text.length_paddedDigits_of_lt 3 n (by decide) hn
  have hnanos : digitsValue ((paddedDigits 3 n ++ List.replicate 9 '0').take 9) = n * 1000000 := by
    rw [List.take_append, List.take_of_length_le (by omega), hlength, List.take_replicate,
      Text.digitsValue_append_zeros, Text.digitsValue_paddedDigits]
    rfl
  rw [← hnanos]
  apply CivilTime.FractionText.digits (List.ne_nil_of_length_pos (by omega))
  exact Text.isDigit_of_mem_paddedDigits 3 n

/-! ### The whole text -/

lemma text_eq (t : Instant) :
    t.text = yearText t.day.year ++ '-' :: (paddedDigits 2 t.day.month ++ '-' ::
      (paddedDigits 2 t.day.day ++ 'T' :: (paddedDigits 2 (t.secondOfDay / 3600) ++ ':' ::
        (paddedDigits 2 (t.secondOfDay / 60 % 60) ++ ':' ::
          (paddedDigits 2 (t.secondOfDay % 60) ++ '.' ::
            (paddedDigits 3 (t.nanos / 1000000) ++ ['Z'])))))) := by
  simp only [text, List.append_assoc, List.cons_append]

section Civil

variable {t : Instant}

lemma written_text (hyear : t.day.year ≤ 9999) : t.civil.Written t.text := by
  have hnanos := t.nanos_lt
  exact ⟨_, _, ['Z'], yearText_spec hyear, fractionText_millis (by omega), .inr rfl, t.text_eq⟩

lemma secondOfDay_lt (t : Instant) : t.secondOfDay < 86400 := by
  unfold secondOfDay
  omega

lemma exists_civil (hrange : inRange t.day.year = true) : t.civil.Exists := by
  obtain ⟨hexists, -, hmonth⟩ := Calendar.Day.ofNumber_spec (t.seconds / 86400)
  have hseconds := t.secondOfDay_lt
  refine ⟨inRange_iff.mp hrange, hmonth, Calendar.Day.exists?_iff.mp hexists, ?_, ?_, ?_⟩
  · simp only [civil]
    omega
  · simp only [civil]
    omega
  · simp only [civil]
    omega

lemma denotes_civil {u : Instant} (hseconds : u.seconds = t.seconds)
    (hnanos : u.nanos = t.nanos / 1000000 * 1000000) : t.civil.Denotes u := by
  obtain ⟨hexists, hnumber, -⟩ := Calendar.Day.ofNumber_spec (t.seconds / 86400)
  refine ⟨t.seconds / 86400, (Calendar.Day.countedAs_iff hexists _).mpr hnumber, ?_, hnanos⟩
  simp only [civil, secondOfDay, hseconds]
  omega

/-- The day of an instant is the date of the civil time that denotes it. -/
lemma day_eq_of_denotes {c : CivilTime} (hexists : c.Exists) (hdenotes : c.Denotes t) :
    t.day = c.date := by
  obtain ⟨days, hdays, hseconds, -⟩ := hdenotes
  have hhour := hexists.hour
  have hminute := hexists.minute
  have hsecond := hexists.second
  rw [Calendar.Day.countedAs_iff hexists.exists?] at hdays
  rw [day, show t.seconds / 86400 = days by omega, ← hdays]
  exact Calendar.Day.ofNumber_number hexists.exists?

/-- The text of an instant is read as the instant, if nothing of its fraction is cut off and its
year is no greater than 9999. -/
theorem read?_text (hmillis : t.nanos % 1000000 = 0) (hyear : t.day.year ≤ 9999)
    (hrange : inRange t.day.year = true) : read? t.text = some t :=
  read?_of_written (written_text hyear) (exists_civil hrange) (denotes_civil rfl (by omega))

lemma readYear_plus (cs : List Char) : readYear ('+' :: cs) = none := rfl

lemma text_of_later (hyear : 9999 < t.day.year) : ∃ rest, t.text = '+' :: rest := by
  rw [text_eq, yearText, if_neg (by omega), if_neg (by omega)]
  exact ⟨_, rfl⟩

/-- An instant that is read has a text that is read, unless the year is greater than 9999: the text
then starts with a plus sign. What is read is the instant in whole milliseconds. -/
theorem read?_text_of_read? {cs : List Char} (h : read? cs = some t) :
    (t.day.exists? = true ∧ t.day.CountedAs (t.seconds / 86400)) ∧
      read? t.text = (if t.day.year ≤ 9999 then some t.toMillis else none) ∧
      (9999 < t.day.year → t.text.head? = some '+') := by
  obtain ⟨c, -, hexists, hdenotes⟩ := exists_written_of_read? h
  obtain ⟨hday, hnumber, -⟩ := Calendar.Day.ofNumber_spec (t.seconds / 86400)
  have hrange : inRange t.day.year = true := by
    rw [day_eq_of_denotes hexists hdenotes]
    exact inRange_iff.mpr hexists.year
  refine ⟨⟨hday, (Calendar.Day.countedAs_iff hday _).mpr hnumber⟩, ?_, ?_⟩
  · split_ifs with hyear
    · exact read?_of_written (written_text hyear) (exists_civil hrange) (denotes_civil rfl rfl)
    · obtain ⟨rest, hrest⟩ := text_of_later (Int.lt_of_not_ge hyear)
      rw [hrest, read?, readDay, readYear_plus]
      rfl
  · intro hyear
    obtain ⟨rest, hrest⟩ := text_of_later hyear
    rw [hrest, List.head?_cons]

end Civil

theorem read?_text_of_read?_leapDay :
    read? "-12024-02-29T23:59:59.9876Z".toList =
        some ⟨-441602841601, 987600000, by decide⟩ ∧
      read? (Instant.mk (-441602841601) 987600000 (by decide)).text =
        some ⟨-441602841601, 987000000, by decide⟩ := by
  have hread : read? "-12024-02-29T23:59:59.9876Z".toList =
      some ⟨-441602841601, 987600000, by decide⟩ := by
    decide +kernel
  have hyear : (Instant.mk (-441602841601) 987600000 (by decide)).day.year ≤ 9999 := by
    decide +kernel
  obtain ⟨-, htext, -⟩ := read?_text_of_read? hread
  rw [if_pos hyear] at htext
  exact ⟨hread, htext⟩

lemma quote_not_mem_text (t : Instant) : '"' ∉ t.text := by
  have hdigits (width n : Nat) : '"' ∉ paddedDigits width n := by
    intro hmem
    exact absurd (Text.isDigit_of_mem_paddedDigits width n _ hmem) (by decide)
  have hyear (y : Int) : '"' ∉ yearText y := by
    unfold yearText
    split_ifs <;> simp [hdigits]
  simp [text, hdigits, hyear]

end Instant

end FilterQuery
