import FilterQuery.Text.Digits
import Mathlib.Tactic.Lemma
import Mathlib.Tactic.Ring

/-!
# Decimal digits and their value

The digits of a number have it as their value, and zeros at either end of some digits do to the
value what they do in positional notation. Padded digits have a fixed length.
-/

namespace FilterQuery.Text

lemma digitsValue_eq (cs : List Char) : digitsValue cs = Nat.ofDigitChars 10 cs 0 := rfl

lemma digitsValue_append (cs ds : List Char) :
    digitsValue (cs ++ ds) = digitsValue cs * 10 ^ ds.length + digitsValue ds := by
  rw [digitsValue_eq, Nat.ofDigitChars_append, Nat.ofDigitChars_eq_ofDigitChars_zero, Nat.mul_comm]
  rfl

lemma digitsValue_zeros (n : Nat) : digitsValue (List.replicate n '0') = 0 := by
  rw [digitsValue_eq, Nat.ofDigitChars_replicate_zero, Nat.mul_zero]

lemma digitsValue_zeros_append (n : Nat) (cs : List Char) :
    digitsValue (List.replicate n '0' ++ cs) = digitsValue cs := by
  rw [digitsValue_append, digitsValue_zeros, Nat.zero_mul, Nat.zero_add]

lemma digitsValue_append_zeros (cs : List Char) (n : Nat) :
    digitsValue (cs ++ List.replicate n '0') = digitsValue cs * 10 ^ n := by
  rw [digitsValue_append, digitsValue_zeros, List.length_replicate, Nat.add_zero]

lemma isDigit_of_mem_zeros (n : Nat) : ∀ c ∈ List.replicate n '0', c.isDigit = true := by
  intro c hc
  rw [List.eq_of_mem_replicate hc]
  decide

lemma digitValue_lt {c : Char} (h : c.isDigit = true) : digitsValue [c] < 10 := by
  have hbounds : 48 ≤ c.toNat ∧ c.toNat ≤ 57 := by
    simpa [Char.isDigit, UInt32.le_iff_toNat_le] using h
  change 10 * 0 + (c.toNat - 48) < 10
  omega

lemma digitsValue_lt {cs : List Char} (h : ∀ c ∈ cs, c.isDigit = true) :
    digitsValue cs < 10 ^ cs.length := by
  induction cs with
  | nil => decide
  | cons c cs ih =>
    have hc := digitValue_lt (h c List.mem_cons_self)
    have hcs := ih fun d hd => h d (List.mem_cons_of_mem c hd)
    rw [← List.singleton_append, digitsValue_append, List.length_append, List.length_singleton,
      Nat.pow_add]
    have hmul := Nat.mul_le_mul_right (10 ^ cs.length) (Nat.le_of_lt_succ hc)
    omega

lemma eq_of_digitValue {c d : Char} (hc : c.isDigit = true) (hd : d.isDigit = true)
    (h : digitsValue [c] = digitsValue [d]) : c = d := by
  have hbounds {e : Char} (he : e.isDigit = true) : 48 ≤ e.toNat := by
    have hdigit : 48 ≤ e.toNat ∧ e.toNat ≤ 57 := by
      simpa [Char.isDigit, UInt32.le_iff_toNat_le] using he
    exact hdigit.1
  have hlow := hbounds hc
  have hlow' := hbounds hd
  change 10 * 0 + (c.toNat - 48) = 10 * 0 + (d.toNat - 48) at h
  apply Char.toNat_inj.mp
  omega

lemma digitsValue_cons_div (c : Char) {cs : List Char} (h : ∀ d ∈ cs, d.isDigit = true) :
    digitsValue (c :: cs) / 10 ^ cs.length = digitsValue [c] ∧
      digitsValue (c :: cs) % 10 ^ cs.length = digitsValue cs := by
  apply (Nat.div_mod_unique (Nat.pow_pos (by decide))).mpr
  refine ⟨?_, digitsValue_lt h⟩
  rw [Nat.add_comm, Nat.mul_comm]
  exact (digitsValue_append [c] cs).symm

/-- Equally many digits with the same value are the same. -/
lemma eq_of_digitsValue {cs ds : List Char} (hcs : ∀ c ∈ cs, c.isDigit = true)
    (hds : ∀ c ∈ ds, c.isDigit = true) (hlength : cs.length = ds.length)
    (h : digitsValue cs = digitsValue ds) : cs = ds := by
  induction cs generalizing ds with
  | nil => exact (List.length_eq_zero_iff.mp hlength.symm).symm
  | cons c cs ih =>
    obtain ⟨d, ds, rfl⟩ := List.exists_cons_of_length_eq_add_one hlength.symm
    rw [List.length_cons, List.length_cons, Nat.add_right_cancel_iff] at hlength
    have hcs' := fun e he => hcs e (List.mem_cons_of_mem c he)
    have hds' := fun e he => hds e (List.mem_cons_of_mem d he)
    obtain ⟨hfirst, hrest⟩ := digitsValue_cons_div c hcs'
    obtain ⟨hfirst', hrest'⟩ := digitsValue_cons_div d hds'
    rw [h, hlength] at hfirst hrest
    have hhead := eq_of_digitValue (hcs c List.mem_cons_self) (hds d List.mem_cons_self)
      (hfirst.symm.trans hfirst')
    rw [hhead, ih hcs' hds' hlength (hrest.symm.trans hrest')]

section Digits

variable (n : Nat)

lemma digitsValue_digits : digitsValue (digits n) = n :=
  Nat.ofDigitChars_ten_toDigits

lemma isDigit_of_mem_digits : ∀ c ∈ digits n, c.isDigit = true := fun _ hc =>
  Nat.isDigit_of_mem_toDigits (by decide) (by decide) hc

lemma length_digits_pos : 0 < (digits n).length :=
  Nat.length_toDigits_pos

lemma length_digits_le_iff {k : Nat} (hk : 0 < k) : (digits n).length ≤ k ↔ n < 10 ^ k :=
  Nat.length_toDigits_le_iff (by decide) hk

lemma lt_pow_length_digits : n < 10 ^ (digits n).length :=
  (length_digits_le_iff n (length_digits_pos n)).mp (Nat.le_refl _)

lemma pow_length_digits_le (hn : n ≠ 0) : 10 ^ ((digits n).length - 1) ≤ n := by
  by_cases hone : (digits n).length - 1 = 0
  · rw [hone]
    omega
  · have hlen := length_digits_le_iff n (k := (digits n).length - 1) (by omega)
    by_contra hlt
    have := hlen.mpr (by omega)
    omega

lemma head_digits_ne (hn : n ≠ 0) : (digits n).head? ≠ some '0' := by
  intro hhead
  obtain ⟨ds, hds⟩ : ∃ ds, digits n = '0' :: ds := List.head?_eq_some_iff.mp hhead
  have hvalue : n = digitsValue ds := by
    rw [← digitsValue_digits n, hds]
    exact digitsValue_zeros_append 1 ds
  have hlt : digitsValue ds < 10 ^ ds.length := by
    refine digitsValue_lt fun c hc => isDigit_of_mem_digits n c ?_
    rw [hds]
    exact List.mem_cons_of_mem _ hc
  have hle := pow_length_digits_le n hn
  rw [hds, List.length_cons, Nat.add_sub_cancel] at hle
  omega

end Digits

section Padding

variable (width n : Nat)

lemma digitsValue_paddedDigits : digitsValue (paddedDigits width n) = n := by
  rw [paddedDigits, digitsValue_zeros_append, digitsValue_digits]

lemma isDigit_of_mem_paddedDigits : ∀ c ∈ paddedDigits width n, c.isDigit = true := by
  intro c hc
  rcases List.mem_append.mp hc with hzero | hdigit
  · exact isDigit_of_mem_zeros _ c hzero
  · exact isDigit_of_mem_digits n c hdigit

lemma length_paddedDigits : (paddedDigits width n).length = max width (digits n).length := by
  rw [paddedDigits, List.length_append, List.length_replicate]
  omega

lemma length_paddedDigits_of_lt (hwidth : 0 < width) (hn : n < 10 ^ width) :
    (paddedDigits width n).length = width := by
  have hlen := (length_digits_le_iff n hwidth).mpr hn
  rw [length_paddedDigits]
  omega

/-- Padding the value of some digits to their number gives the digits. -/
lemma paddedDigits_digitsValue {ds : List Char} (hne : ds ≠ []) (h : ∀ c ∈ ds, c.isDigit = true) :
    paddedDigits ds.length (digitsValue ds) = ds := by
  apply eq_of_digitsValue (isDigit_of_mem_paddedDigits _ _) h
  · exact length_paddedDigits_of_lt _ _ (List.length_pos_iff.mpr hne) (digitsValue_lt h)
  · exact digitsValue_paddedDigits _ _

end Padding

end FilterQuery.Text
