import FilterQuery.Query.Token
import Mathlib.Data.List.TakeWhile
import Mathlib.Tactic.Lemma

/-!
# Longest runs and white space

A `LongestRun` is a run of characters that the text after it does not continue. Taking a run off
the head of a text finds exactly the longest one, and trimming takes away exactly the white space.
The white space characters are apart from all characters that a token is made of.
-/

namespace FilterQuery

namespace Text

/-- White space, or nothing at all. -/
def Blank (cs : List Char) : Prop :=
  ∀ c ∈ cs, Unicode.isSpace c = true

/-- A run of characters that is not empty and that `after` does not continue. -/
structure LongestRun (p : Char → Bool) (cs after : List Char) : Prop where
  ne_nil : cs ≠ []
  all : ∀ c ∈ cs, p c = true
  ends : ∀ c ∈ after.head?, p c = false

lemma blank_nil : Blank [] := by
  intro c hc
  simp at hc

lemma Blank.append {cs ds : List Char} (hc : Blank cs) (hd : Blank ds) : Blank (cs ++ ds) := by
  intro c h
  rcases List.mem_append.mp h with h | h
  · exact hc c h
  · exact hd c h

section Runs

variable {p : Char → Bool} {cs after : List Char}

lemma dropWhile_of_head (h : ∀ c ∈ after.head?, p c = false) : after.dropWhile p = after := by
  cases after with
  | nil => rfl
  | cons c rest => simp [h c rfl]

lemma takeWhile_of_head (h : ∀ c ∈ after.head?, p c = false) : after.takeWhile p = [] := by
  cases after with
  | nil => rfl
  | cons c rest => simp [h c rfl]

lemma head_dropWhile (p : Char → Bool) (cs : List Char) :
    ∀ c ∈ (cs.dropWhile p).head?, p c = false := by
  intro c hc
  have h := List.head?_dropWhile_not p cs
  rw [Option.mem_def.mp hc] at h
  exact h

lemma run_of_head (h : ∀ c ∈ after.head?, p c = false) : run p after = ([], after) := by
  rw [run, takeWhile_of_head h, dropWhile_of_head h]

lemma run_append (hp : ∀ c ∈ cs, p c = true) (ha : ∀ c ∈ after.head?, p c = false) :
    run p (cs ++ after) = (cs, after) := by
  rw [run, List.takeWhile_append_of_pos hp, List.dropWhile_append_of_pos hp,
    takeWhile_of_head ha, dropWhile_of_head ha, List.append_nil]

lemma LongestRun.run_eq (h : LongestRun p cs after) : run p (cs ++ after) = (cs, after) :=
  run_append h.all h.ends

lemma longestRun_takeWhile (h : cs.takeWhile p ≠ []) :
    LongestRun p (cs.takeWhile p) (cs.dropWhile p) :=
  ⟨h, fun _ hc => List.mem_takeWhile_imp hc, head_dropWhile p cs⟩

end Runs

section Trimming

variable {cs ds w : List Char}

lemma trimStart_append (hw : Blank w) (cs : List Char) : trimStart (w ++ cs) = trimStart cs :=
  List.dropWhile_append_of_pos hw

lemma trimStart_of_head (h : ∀ c ∈ cs.head?, Unicode.isSpace c = false) : trimStart cs = cs :=
  dropWhile_of_head h

lemma head_trimStart (cs : List Char) : ∀ c ∈ (trimStart cs).head?, Unicode.isSpace c = false :=
  head_dropWhile _ cs

lemma trimStart_trimStart (cs : List Char) : trimStart (trimStart cs) = trimStart cs :=
  trimStart_of_head (head_trimStart cs)

/-- Trimming takes away white space and nothing else. -/
lemma exists_blank_trimStart (cs : List Char) : ∃ w, Blank w ∧ cs = w ++ trimStart cs :=
  ⟨cs.takeWhile Unicode.isSpace, fun _ hc => List.mem_takeWhile_imp hc,
    List.takeWhile_append_dropWhile.symm⟩

/-- A text that follows white space, or is itself followed by it, is found by trimming. -/
lemma exists_blank_trim (cs : List Char) :
    ∃ v w, Blank v ∧ Blank w ∧ cs = v ++ trim cs ++ w := by
  obtain ⟨v, hv, hcs⟩ := exists_blank_trimStart cs
  obtain ⟨w, hw, hrev⟩ := exists_blank_trimStart (trimStart cs).reverse
  refine ⟨v, w.reverse, hv, fun c hc => hw c (List.mem_reverse.mp hc), ?_⟩
  have h := congrArg List.reverse hrev
  rw [List.reverse_reverse, List.reverse_append] at h
  rw [List.append_assoc, trim, ← h]
  exact hcs

lemma trim_eq (hv : Blank ds) (hw : Blank w) (hh : ∀ c ∈ cs.head?, Unicode.isSpace c = false)
    (hl : ∀ c ∈ cs.getLast?, Unicode.isSpace c = false) (hne : cs ≠ []) :
    trim (ds ++ cs ++ w) = cs := by
  have hstart : trimStart (ds ++ cs ++ w) = cs ++ w := by
    rw [List.append_assoc, trimStart_append hv]
    apply trimStart_of_head
    obtain ⟨c, rest, rfl⟩ := List.exists_cons_of_ne_nil hne
    exact hh
  have hend : trimStart (cs ++ w).reverse = cs.reverse := by
    rw [List.reverse_append, trimStart_append (fun c hc => hw c (List.mem_reverse.mp hc))]
    apply trimStart_of_head
    rwa [List.head?_reverse]
  rw [trim, hstart, hend, List.reverse_reverse]

lemma trimStart_of_blank (hw : Blank w) : trimStart w = [] := by
  rw [← List.append_nil w]
  exact trimStart_append hw []

lemma trim_eq_nil_iff : trim cs = [] ↔ Blank cs := by
  constructor
  · intro h
    obtain ⟨v, w, hv, hw, hcs⟩ := exists_blank_trim cs
    rw [hcs, h, List.append_nil]
    exact hv.append hw
  · intro h
    rw [trim, trimStart_of_blank h]
    rfl

/-- White space around a text does not change what trimming finds. -/
lemma trim_append_blank (hv : Blank ds) (hw : Blank w) : trim (ds ++ cs ++ w) = trim cs := by
  have hrev : Blank w.reverse := fun c hc => hw c (List.mem_reverse.mp hc)
  rw [trim, trim, List.append_assoc, trimStart_append hv]
  cases h : trimStart cs with
  | nil =>
    have hcs : Blank cs := trim_eq_nil_iff.mp (by rw [trim, h]; rfl)
    rw [trimStart_of_blank (hcs.append hw)]
  | cons c tail =>
    have hstart : trimStart (cs ++ w) = c :: tail ++ w := by
      rw [trimStart, List.dropWhile_append, ← trimStart, h]
      rfl
    rw [hstart, List.reverse_append, trimStart_append hrev]

end Trimming

end Text

end FilterQuery
