import FilterQuery.Date.Instant
import FilterQuery.Proofs.DecimalDigits
import FilterQuery.Proofs.Runs
import FilterQuery.Proofs.SuccessiveDays
import Mathlib.Data.List.Basic

/-!
# Civil times

A `CivilTime` is a day of the calendar and a time of this day. A text is read as an instant exactly
if a civil time that exists is written there, and the seconds of the instant are found by counting
days. Instants are in the order of the civil times that they are read from.
-/

namespace FilterQuery

open Text (digits digitsValue paddedDigits)

structure CivilTime where
  year : Int
  month : Nat
  day : Nat
  hour : Nat
  minute : Nat
  second : Nat
  nanos : Nat

namespace CivilTime

/-- Four digits, or more of them when the first is not zero. -/
def YearDigits (ds : List Char) : Prop :=
  (∀ c ∈ ds, c.isDigit = true) ∧ (ds.length = 4 ∨ 4 < ds.length ∧ ds.head? ≠ some '0')

inductive YearText : List Char → Int → Prop where
  | plain {ds : List Char} : YearDigits ds → YearText ds (digitsValue ds)
  | minus {ds : List Char} : YearDigits ds → YearText ('-' :: ds) (-(digitsValue ds : Int))

/-- The fraction of a second and its nanoseconds: the first nine digits, with zeros after them if
there are fewer. -/
inductive FractionText : List Char → Nat → Prop where
  | absent : FractionText [] 0
  | digits {ds : List Char} :
      ds ≠ [] → (∀ c ∈ ds, c.isDigit = true) →
      FractionText ('.' :: ds) (digitsValue ((ds ++ List.replicate 9 '0').take 9))

/-- The text is the written form of the civil time. -/
def Written (c : CivilTime) (cs : List Char) : Prop :=
  ∃ year fraction mark, YearText year c.year ∧ FractionText fraction c.nanos ∧
    (mark = [] ∨ mark = ['Z']) ∧
    cs = year ++ '-' :: (paddedDigits 2 c.month ++ '-' :: (paddedDigits 2 c.day ++ 'T' ::
      (paddedDigits 2 c.hour ++ ':' :: (paddedDigits 2 c.minute ++ ':' ::
        (paddedDigits 2 c.second ++ (fraction ++ mark))))))

structure Exists (c : CivilTime) : Prop where
  year : -262143 ≤ c.year ∧ c.year ≤ 262142
  month : 1 ≤ c.month ∧ c.month ≤ 12
  day : 1 ≤ c.day ∧ c.day ≤ Calendar.monthLength c.year c.month
  hour : c.hour ≤ 23
  minute : c.minute ≤ 59
  second : c.second ≤ 59

def date (c : CivilTime) : Calendar.Day := ⟨c.year, c.month, c.day⟩

/-- The instant of a civil time, found by counting the days to its date. -/
def Denotes (c : CivilTime) (t : Instant) : Prop :=
  ∃ days : Int, c.date.CountedAs days ∧
    t.seconds = 86400 * days + 3600 * c.hour + 60 * c.minute + c.second ∧ t.nanos = c.nanos

/-- From the year down to the nanoseconds, so that the order of these lists is that of time. -/
def fields (c : CivilTime) : List Int :=
  [c.year, c.month, c.day, c.hour, c.minute, c.second, c.nanos]

lemma Exists.exists? {c : CivilTime} (h : c.Exists) : c.date.exists? = true :=
  Calendar.Day.exists?_iff.mpr h.day

end CivilTime

namespace Instant

def fields (t : Instant) : List Int := [t.seconds, t.nanos]

section Parts

variable {cs rest : List Char}

lemma readMark_eq_some_iff {mark : Char} : readMark mark cs = some rest ↔ cs = mark :: rest := by
  cases cs with
  | nil => exact iff_of_false (fun h => nomatch h) fun h => nomatch h
  | cons c tail =>
    change (if c = mark then some tail else none) = some rest ↔ _
    split_ifs with hc
    · rw [hc, Option.some.injEq, List.cons.injEq, eq_self, true_and]
    · exact iff_of_false (fun h => nomatch h) fun h => hc (List.cons.inj h).1

lemma readPair_append {low high n : Nat} (hlow : low ≤ n) (hhigh : n ≤ high) (hn : n < 100)
    (rest : List Char) : readPair low high (paddedDigits 2 n ++ rest) = some (n, rest) := by
  have hlength := Text.length_paddedDigits_of_lt 2 n (by decide) hn
  have hdigit := Text.isDigit_of_mem_paddedDigits 2 n
  have hvalue := Text.digitsValue_paddedDigits 2 n
  obtain ⟨a, b, hpair⟩ := List.length_eq_two.mp hlength
  rw [hpair] at hdigit hvalue ⊢
  have ha := hdigit a List.mem_cons_self
  have hb := hdigit b (List.mem_cons_of_mem a List.mem_cons_self)
  change (if _ then some (digitsValue [a, b], rest) else none) = _
  rw [hvalue, ha, hb, if_pos]
  simp [hlow, hhigh]

lemma readPair_eq_some_iff {low high n : Nat} (hhigh : high < 100) :
    readPair low high cs = some (n, rest) ↔
      low ≤ n ∧ n ≤ high ∧ cs = paddedDigits 2 n ++ rest := by
  constructor
  · intro h
    unfold readPair at h
    split at h
    · rename_i a b tail
      dsimp only at h
      split_ifs at h with hpair
      cases h
      simp only [Bool.and_eq_true, decide_eq_true_eq] at hpair
      obtain ⟨⟨⟨ha, hb⟩, hlow⟩, hle⟩ := hpair
      have hdigits : ∀ c ∈ [a, b], c.isDigit = true := by
        intro c hc
        obtain rfl | rfl := List.mem_pair.mp hc
        · exact ha
        · exact hb
      have hpadded := Text.paddedDigits_digitsValue (List.cons_ne_nil a [b]) hdigits
      refine ⟨hlow, hle, ?_⟩
      change a :: b :: rest = paddedDigits [a, b].length (digitsValue [a, b]) ++ rest
      rw [hpadded]
      rfl
    · cases h
  · rintro ⟨hlow, hle, rfl⟩
    exact readPair_append hlow hle (by omega) rest

/-! ### Years and fractions -/

lemma run_digits {ds : List Char} (hds : ∀ c ∈ ds, c.isDigit = true) {c : Char}
    (hc : c.isDigit = false) (rest : List Char) :
    Text.run Char.isDigit (ds ++ c :: rest) = (ds, c :: rest) := by
  apply Text.run_append hds
  rintro d ⟨⟩
  exact hc

lemma readYear_append {y : Int} {text : List Char} (h : CivilTime.YearText text y) {c : Char}
    (hc : c.isDigit = false) (rest : List Char) :
    readYear (text ++ c :: rest) = some (y, c :: rest) := by
  cases h with
  | plain hds =>
    have hrun := run_digits hds.1 hc rest
    have hhead : (text ++ c :: rest).head? ≠ some '-' := by
      have hlength := hds.2
      have hne : text ≠ [] := List.ne_nil_of_length_pos (by omega)
      rw [List.head?_append_of_ne_nil _ hne]
      intro hminus
      exact absurd (hds.1 '-' (List.mem_of_mem_head? hminus)) (by decide)
    -- The reader looks for a sign first, and there is none.
    unfold readYear
    split
    rename_i negative cs heq
    split at heq
    · rename_i hminus
      exact absurd (congrArg List.head? hminus) hhead
    · cases heq
      simp only [hrun]
      rw [if_pos hds.2]
      rfl
  | minus hds =>
    have hrun := run_digits hds.1 hc rest
    unfold readYear
    simp only [List.cons_append, hrun]
    rw [if_pos hds.2]
    rfl

lemma yearText_of_readYear {y : Int} (h : readYear cs = some (y, rest)) :
    ∃ text, cs = text ++ rest ∧ CivilTime.YearText text y := by
  have hrun (ds : List Char) :
      ds = ds.takeWhile Char.isDigit ++ ds.dropWhile Char.isDigit ∧
        ∀ c ∈ ds.takeWhile Char.isDigit, c.isDigit = true :=
    ⟨List.takeWhile_append_dropWhile.symm, fun c hc => List.mem_takeWhile_imp hc⟩
  unfold readYear at h
  split at h
  rename_i negative body heq
  dsimp only [Text.run] at h
  split_ifs at h with hlength hnegative
  all_goals
    obtain ⟨hsplit, hdigits⟩ := hrun body
    cases h
    split at heq
  · cases heq
    exact ⟨_, congrArg (List.cons '-') hsplit, .minus ⟨hdigits, hlength⟩⟩
  · cases heq
    cases hnegative
  · cases heq
    exact absurd rfl hnegative
  · cases heq
    exact ⟨_, hsplit, .plain ⟨hdigits, hlength⟩⟩

lemma fractionNanos_eq (ds : List Char) :
    fractionNanos ds = digitsValue ((ds ++ List.replicate 9 '0').take 9) := by
  rw [fractionNanos, List.take_append, List.take_replicate, Nat.min_eq_left (Nat.sub_le 9 _)]

lemma readFraction_eq_some_iff {n : Nat} {mark : List Char} (hmark : mark = [] ∨ mark = ['Z']) :
    readFraction cs = some (n, mark) ↔
      ∃ fraction, CivilTime.FractionText fraction n ∧ cs = fraction ++ mark := by
  have hdigit : ∀ c ∈ mark.head?, c.isDigit = false := by
    obtain rfl | rfl := hmark
    · exact fun c hc => nomatch hc
    · rintro c ⟨⟩
      decide
  constructor
  · intro h
    unfold readFraction at h
    split at h
    · rename_i tail
      dsimp only at h
      split_ifs at h with hempty
      simp only [Option.some.injEq, Prod.mk.injEq] at h
      obtain ⟨rfl, hrest⟩ := h
      rw [fractionNanos_eq]
      refine ⟨_, .digits ?_ fun c hc => List.mem_takeWhile_imp hc, ?_⟩
      · exact fun hnil => hempty (List.isEmpty_iff.mpr hnil)
      · rw [List.cons_append, ← hrest]
        exact congrArg (List.cons '.') List.takeWhile_append_dropWhile.symm
    · cases h
      exact ⟨[], .absent, rfl⟩
  · rintro ⟨fraction, hfraction, rfl⟩
    cases hfraction with
    | absent =>
      obtain rfl | rfl := hmark <;> rfl
    | @digits ds hne hds =>
      have hempty : ¬ds.isEmpty = true := fun h => hne (List.isEmpty_iff.mp h)
      change (if (Text.run Char.isDigit (ds ++ mark)).1.isEmpty then none
        else some (fractionNanos (Text.run Char.isDigit (ds ++ mark)).1,
          (Text.run Char.isDigit (ds ++ mark)).2)) = _
      rw [Text.run_append hds hdigit, if_neg hempty, fractionNanos_eq]

lemma fractionText_lt {fraction : List Char} {n : Nat} (h : CivilTime.FractionText fraction n) :
    n < 1000000000 := by
  cases h with
  | absent => decide
  | @digits ds _ hds =>
    have hlength : ((ds ++ List.replicate 9 '0').take 9).length = 9 := by
      rw [List.length_take, List.length_append, List.length_replicate]
      omega
    have hlt : digitsValue ((ds ++ List.replicate 9 '0').take 9) <
        10 ^ ((ds ++ List.replicate 9 '0').take 9).length := by
      apply Text.digitsValue_lt
      intro c hc
      obtain hc | hc := List.mem_append.mp (List.mem_of_mem_take hc)
      · exact hds c hc
      · exact Text.isDigit_of_mem_zeros 9 c hc
    rwa [hlength] at hlt

/-! ### Dates and times of day -/

lemma readDay_eq_some_iff {d : Calendar.Day} :
    readDay cs = some (d, rest) ↔
      (1 ≤ d.month ∧ d.month ≤ 12) ∧ (1 ≤ d.day ∧ d.day ≤ 31) ∧
      ∃ year, CivilTime.YearText year d.year ∧
        cs = year ++ '-' :: (paddedDigits 2 d.month ++ '-' ::
          (paddedDigits 2 d.day ++ 'T' :: rest)) := by
  constructor
  · intro h
    simp only [readDay, Option.bind_eq_bind, Option.bind_eq_some_iff, Prod.exists, Option.some.injEq,
      Prod.mk.injEq, readMark_eq_some_iff, readPair_eq_some_iff (show 12 < 100 by decide),
      readPair_eq_some_iff (show 31 < 100 by decide)] at h
    obtain ⟨y, _, hyear, _, rfl, month, _, ⟨hfirst, hlast, rfl⟩, _, rfl, day, _,
      ⟨hlow, hhigh, rfl⟩, _, rfl, rfl, rfl⟩ := h
    obtain ⟨text, rfl, htext⟩ := yearText_of_readYear hyear
    exact ⟨⟨hfirst, hlast⟩, ⟨hlow, hhigh⟩, text, htext, rfl⟩
  · rintro ⟨hmonth, hday, year, hyear, rfl⟩
    unfold readDay
    rw [readYear_append hyear (by decide)]
    simp only [Option.bind_eq_bind, Option.bind_some, readMark, if_true]
    rw [readPair_append hmonth.1 hmonth.2 (by omega)]
    simp only [Option.bind_some, if_true]
    rw [readPair_append hday.1 hday.2 (by omega)]
    simp only [Option.bind_some, if_true]

lemma readTime_eq_some_iff {s : Nat} :
    readTime cs = some (s, rest) ↔
      ∃ hour minute second, hour ≤ 23 ∧ minute ≤ 59 ∧ second ≤ 59 ∧
        s = 3600 * hour + 60 * minute + second ∧
        cs = paddedDigits 2 hour ++ ':' :: (paddedDigits 2 minute ++ ':' ::
          (paddedDigits 2 second ++ rest)) := by
  constructor
  · intro h
    simp only [readTime, Option.bind_eq_bind, Option.bind_eq_some_iff, Prod.exists,
      Option.some.injEq, Prod.mk.injEq, readMark_eq_some_iff,
      readPair_eq_some_iff (show 23 < 100 by decide),
      readPair_eq_some_iff (show 59 < 100 by decide)] at h
    obtain ⟨hour, _, ⟨-, hhour, rfl⟩, _, rfl, minute, _, ⟨-, hminute, rfl⟩, _, rfl, second, _,
      ⟨-, hsecond, rfl⟩, rfl, rfl⟩ := h
    exact ⟨hour, minute, second, hhour, hminute, hsecond, rfl, rfl⟩
  · rintro ⟨hour, minute, second, hhour, hminute, hsecond, rfl, rfl⟩
    unfold readTime
    rw [readPair_append (Nat.zero_le _) hhour (by omega)]
    simp only [Option.bind_eq_bind, Option.bind_some, readMark, if_true]
    rw [readPair_append (Nat.zero_le _) hminute (by omega)]
    simp only [Option.bind_some, if_true]
    rw [readPair_append (Nat.zero_le _) hsecond (by omega)]
    simp only [Option.bind_some]

end Parts

/-! ### Whole texts -/

section Whole

variable {cs : List Char} {t : Instant}

lemma inRange_iff {y : Int} : inRange y = true ↔ -262143 ≤ y ∧ y ≤ 262142 := by
  simp only [inRange, Bool.and_eq_true, decide_eq_true_eq]

lemma exists_written_of_read? (h : read? cs = some t) :
    ∃ c : CivilTime, c.Written cs ∧ c.Exists ∧ c.Denotes t := by
  unfold read? at h
  simp only [Option.bind_eq_bind, Option.bind_eq_some_iff, Prod.exists] at h
  obtain ⟨d, _, hday, s, _, htime, n, mark, hfraction, h⟩ := h
  split_ifs at h with hvalid
  obtain ⟨hmark, hexists, hrange, hnanos⟩ := hvalid
  obtain ⟨fraction, htext, rfl⟩ := (readFraction_eq_some_iff hmark).mp hfraction
  obtain ⟨hour, minute, second, hhour, hminute, hsecond, rfl, rfl⟩ := readTime_eq_some_iff.mp htime
  obtain ⟨hmonth, -, year, hyear, rfl⟩ := readDay_eq_some_iff.mp hday
  cases h
  refine ⟨⟨d.year, d.month, d.day, hour, minute, second, n⟩, ?_, ?_, ?_⟩
  · exact ⟨year, fraction, mark, hyear, htext, hmark, rfl⟩
  · exact ⟨inRange_iff.mp hrange, hmonth, Calendar.Day.exists?_iff.mp hexists, hhour, hminute,
      hsecond⟩
  · refine ⟨d.number, (Calendar.Day.countedAs_iff hexists _).mpr rfl, ?_, rfl⟩
    simp only [ofDay]
    push_cast
    omega

lemma read?_of_written {c : CivilTime} (hwritten : c.Written cs) (hexists : c.Exists)
    (hdenotes : c.Denotes t) : read? cs = some t := by
  obtain ⟨year, fraction, mark, hyear, hfraction, hmark, rfl⟩ := hwritten
  obtain ⟨days, hdays, hseconds, hnanos⟩ := hdenotes
  have hdate := (Calendar.Day.countedAs_iff hexists.exists? days).mp hdays
  have hbounds := Calendar.Day.day_bounds hexists.exists?
  have hday (rest : List Char) :
      readDay (year ++ '-' :: (paddedDigits 2 c.month ++ '-' ::
        (paddedDigits 2 c.day ++ 'T' :: rest))) = some (c.date, rest) :=
    readDay_eq_some_iff.mpr ⟨hexists.month, hbounds, year, hyear, rfl⟩
  unfold read?
  rw [hday]
  simp only [Option.bind_eq_bind, Option.bind_some]
  rw [readTime_eq_some_iff.mpr ⟨c.hour, c.minute, c.second, hexists.hour, hexists.minute,
    hexists.second, rfl, rfl⟩]
  simp only [Option.bind_some]
  rw [(readFraction_eq_some_iff hmark).mpr ⟨fraction, hfraction, rfl⟩]
  simp only [Option.bind_some]
  rw [dif_pos ⟨hmark, hexists.exists?, inRange_iff.mpr hexists.year, fractionText_lt hfraction⟩]
  cases t
  simp only [ofDay, Option.some.injEq, mk.injEq]
  simp only at hseconds hnanos
  refine ⟨?_, hnanos.symm⟩
  rw [hseconds, ← hdate]
  push_cast
  omega

end Whole

/-! ### The order of instants -/

lemma fields_lt_iff {c d : CivilTime} {t u : Instant} (hc : c.Exists) (hd : d.Exists)
    (ht : c.Denotes t) (hu : d.Denotes u) : t.fields < u.fields ↔ c.fields < d.fields := by
  obtain ⟨m, hm, htseconds, htnanos⟩ := ht
  obtain ⟨n, hn, huseconds, hunanos⟩ := hu
  rw [Calendar.Day.countedAs_iff hc.exists?] at hm
  rw [Calendar.Day.countedAs_iff hd.exists?] at hn
  have hlt := Calendar.Day.number_lt_iff hc.exists? hd.exists?
  have hgt := Calendar.Day.number_lt_iff hd.exists? hc.exists?
  have hcbounds := And.intro hc.hour (And.intro hc.minute hc.second)
  have hdbounds := And.intro hd.hour (And.intro hd.minute hd.second)
  simp only [CivilTime.date] at hlt hgt hm hn
  simp only [fields, CivilTime.fields, List.cons_lt_cons_iff, htseconds, huseconds, htnanos,
    hunanos, List.not_lt_nil, and_false, or_false]
  omega

lemma exists_denoted {c : CivilTime} (hexists : c.Exists) (hnanos : c.nanos < 1000000000) :
    ∃ t : Instant, c.Denotes t := by
  refine ⟨⟨86400 * c.date.number + 3600 * c.hour + 60 * c.minute + c.second, c.nanos, hnanos⟩,
    c.date.number, ?_, rfl, rfl⟩
  exact (Calendar.Day.countedAs_iff hexists.exists? _).mpr rfl

/-- The texts that are read are the written forms of the civil times that exist, each of them is
read as the instant that it denotes, and instants are in the order of their civil times. -/
theorem read?_eq_some_iff_written :
    (∀ (cs : List Char) (t : Instant),
      read? cs = some t ↔ ∃ c : CivilTime, c.Written cs ∧ c.Exists ∧ c.Denotes t) ∧
    (∀ (cs : List Char) (c : CivilTime), c.Written cs → c.Exists →
      ∃ t, read? cs = some t ∧ c.Denotes t) ∧
    ∀ (c d : CivilTime) (t u : Instant), c.Exists → d.Exists → c.Denotes t → d.Denotes u →
      (t.fields < u.fields ↔ c.fields < d.fields) := by
  refine ⟨fun cs t => ⟨exists_written_of_read?, ?_⟩, ?_, ?_⟩
  · rintro ⟨c, hwritten, hexists, hdenotes⟩
    exact read?_of_written hwritten hexists hdenotes
  · intro cs c hwritten hexists
    obtain ⟨_, _, _, _, hfraction, _⟩ := id hwritten
    obtain ⟨t, hdenotes⟩ := exists_denoted hexists (fractionText_lt hfraction)
    exact ⟨t, read?_of_written hwritten hexists hdenotes, hdenotes⟩
  · intro c d t u hc hd ht hu
    exact fields_lt_iff hc hd ht hu

end Instant

end FilterQuery
