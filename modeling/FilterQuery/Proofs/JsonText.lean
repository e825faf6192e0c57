import FilterQuery.Json.Printer
import FilterQuery.Proofs.LeafTexts

/-!
# JSON text

No two values have the same text, be it on one line or on many. The first character of a text says
of which kind the value is, and among the numbers a point or an exponent sets the doubles apart from
the integers.
-/

namespace FilterQuery.Json

open Text

/-- To prove something of all values, it is enough to prove it of lists and objects in which it
holds of each value. -/
@[elab_as_elim]
theorem induction {motive : Json → Prop} (null : motive null)
    (boolean : ∀ b, motive (boolean b)) (integer : ∀ n, motive (integer n))
    (number : ∀ x finite, motive (number x finite)) (string : ∀ s, motive (string s))
    (array : ∀ items, (∀ j ∈ items, motive j) → motive (array items))
    (object : ∀ members, (∀ m ∈ members, motive m.2) → motive (object members)) (j : Json) :
    motive j :=
  match j with
  | .null => null
  | .boolean b => boolean b
  | .integer n => integer n
  | .number x finite => number x finite
  | .string s => string s
  | .array items => array items fun j _ =>
    induction null boolean integer number string array object j
  | .object members => object members fun m _ =>
    induction null boolean integer number string array object m.2
termination_by sizeOf j
decreasing_by
  · rename_i hmem
    have := List.sizeOf_lt_of_mem hmem
    simp only [Json.array.sizeOf_spec]
    omega
  · rename_i hmem
    have := List.sizeOf_lt_of_mem hmem
    cases m
    simp only [Json.object.sizeOf_spec, Prod.mk.sizeOf_spec] at this ⊢
    omega

/-! ### Numbers -/

section Numbers

lemma mem_integerText (n : ℤ) : ∀ c ∈ integerText n, c.isDigit = true ∨ c = '-' := by
  intro c hc
  obtain hsign | hdigit := List.mem_append.mp hc
  · split_ifs at hsign
    · exact .inr (List.mem_singleton.mp hsign)
    · cases hsign
  · exact .inl (isDigit_of_mem_digits _ c hdigit)

lemma isNumeralChar_of_mem_integerText (n : ℤ) : ∀ c ∈ integerText n, isNumeralChar c = true := by
  intro c hc
  obtain hdigit | rfl := mem_integerText n c hc
  · exact isNumeralChar_of_isDigit hdigit
  · rfl

lemma integerText_ne_nil (n : ℤ) : integerText n ≠ [] :=
  List.append_ne_nil_of_right_ne_nil _ (List.ne_nil_of_length_pos (length_digits_pos _))

lemma readSign_integerText (n : ℤ) :
    Decimal.readSign (integerText n) = (decide (n < 0), digits n.natAbs) := by
  have hhead : ∀ c ∈ (digits n.natAbs).head?, c.isDigit = true :=
    fun c hc => isDigit_of_mem_digits _ c (List.mem_of_mem_head? hc)
  have hread := Decimal.readSign_append (decide (n < 0)) hhead
  simpa [integerText] using hread

lemma integerText_injective {n m : ℤ} (h : integerText n = integerText m) : n = m := by
  have hread := readSign_integerText n
  rw [h, readSign_integerText, Prod.mk.injEq, decide_eq_decide] at hread
  obtain ⟨hsign, hdigits⟩ := hread
  have hvalue := congrArg digitsValue hdigits
  rw [digitsValue_digits, digitsValue_digits] at hvalue
  omega

lemma point_mem_positionalText (ds : List Char) (e : ℤ) :
    '.' ∈ Double.positionalText true ds e := by
  unfold Double.positionalText
  dsimp only
  split_ifs with he hlength hpoint
  · simp
  · simp
  · exact absurd rfl hpoint
  · simp

/-- A double is written with a point or an exponent. -/
lemma mark_mem_text (x : Double) : '.' ∈ x.text numeral ∨ 'e' ∈ x.text numeral := by
  have hmagnitude : '.' ∈ Double.magnitudeText numeral x.magnitude ∨
      'e' ∈ Double.magnitudeText numeral x.magnitude := by
    unfold Double.magnitudeText
    by_cases hzero : x.magnitude = 0
    · rw [if_pos hzero]
      exact .inl (by decide)
    · rw [if_neg hzero]
      cases Double.significantDigits numeral.tie x.magnitude with
      | mk ds e =>
        dsimp only
        split_ifs
        · exact .inl (point_mem_positionalText ds e)
        · exact .inr (by simp [Double.scientificText])
  exact hmagnitude.imp (List.mem_append_right _) (List.mem_append_right _)

lemma integerText_ne_text (n : ℤ) (x : Double) : integerText n ≠ x.text numeral := by
  intro heq
  have hmark := mark_mem_text x
  rw [← heq] at hmark
  obtain hpoint | hexponent := hmark
  · exact absurd (mem_integerText n _ hpoint) (by decide)
  · exact absurd (mem_integerText n _ hexponent) (by decide)

end Numbers

/-! ### Values -/

def kindOf : Json → Kind
  | null => .null
  | boolean _ => .boolean
  | integer _ => .number
  | number _ _ => .number
  | string _ => .string
  | array _ => .array
  | object _ => .object

section Print

variable {layout : Layout} {depth : ℕ} {r s : List Char}

lemma marked_print (j : Json) : Marked (print layout depth j) (kindOf j) := by
  cases j with
  | boolean b => cases b <;> exact ⟨_, _, rfl, rfl, rfl⟩
  | integer n => exact marked_numeral (integerText_ne_nil n) (isNumeralChar_of_mem_integerText n)
  | number x hx => exact Double.marked_text hx
  | array items => exact marked_array _
  | object members => exact marked_object _
  | _ => exact ⟨_, _, rfl, rfl, rfl⟩

lemma kind_eq {j k : Json} (h : print layout depth j ++ r = print layout depth k ++ s) :
    kindOf j = kindOf k :=
  (marked_print j).kind_eq (marked_print k) h

variable (layout depth)

lemma printItems_eq (items : List Json) :
    printItems layout depth items = items.map (print layout depth) := by
  induction items with
  | nil => rfl
  | cons j rest ih => rw [printItems, ih, List.map_cons]

def printMember (m : String × Json) : List Char :=
  quoted m.1.toList ++ layout.afterKey ++ print layout depth m.2

lemma printMembers_eq (members : List (String × Json)) :
    printMembers layout depth members = members.map (printMember layout depth) := by
  induction members with
  | nil => rfl
  | cons m rest ih =>
    rw [printMembers, ih, List.map_cons]
    rfl

variable {layout depth}

lemma determines_member {m m' : String × Json}
    (h : Determines (print layout depth) id m.2 m'.2) :
    Determines (printMember layout depth) id m m' := by
  intro r s hr hs heq
  simp only [printMember, List.append_assoc] at heq
  obtain ⟨hkey, hrest⟩ := quoted_append_inj heq
  rw [List.append_cancel_left_eq] at hrest
  obtain ⟨hvalue, hend⟩ := h r s hr hs hrest
  exact ⟨Prod.ext (String.toList_inj.mp hkey) hvalue, hend⟩

/-- By induction on the value, its text shows where it ends and what the value is: two texts that
begin alike are of values of one kind, and each kind has its own way to end. -/
theorem print_determines (hgap : layout.gap.Blank) (j k : Json) :
    Determines (print layout depth) id j k := by
  induction j using induction generalizing k depth with
  | null =>
    intro r s _ _ heq
    have hkind := kind_eq heq
    cases k with
    | null => exact ⟨rfl, List.append_cancel_left heq⟩
    | _ => cases hkind
  | boolean b =>
    intro r s _ _ heq
    have hkind := kind_eq heq
    cases k with
    | boolean b' =>
      cases b <;> cases b' <;> cases heq <;> exact ⟨rfl, rfl⟩
    | _ => cases hkind
  | integer n =>
    intro r s hr hs heq
    have hkind := kind_eq heq
    cases k with
    | integer m =>
      obtain ⟨htext, hend⟩ := numeral_append_inj (isNumeralChar_of_mem_integerText n)
        (isNumeralChar_of_mem_integerText m) hr hs heq
      exact ⟨congrArg integer (integerText_injective htext), hend⟩
    | number y hy =>
      obtain ⟨htext, -⟩ := numeral_append_inj (isNumeralChar_of_mem_integerText n)
        (Double.isNumeralChar_of_mem_text hy) hr hs heq
      exact absurd htext (integerText_ne_text n y)
    | _ => cases hkind
  | number x hx =>
    intro r s hr hs heq
    have hkind := kind_eq heq
    cases k with
    | integer m =>
      obtain ⟨htext, -⟩ := numeral_append_inj (Double.isNumeralChar_of_mem_text hx)
        (isNumeralChar_of_mem_integerText m) hr hs heq
      exact absurd htext.symm (integerText_ne_text m x)
    | number y hy =>
      obtain ⟨rfl, hend⟩ := Double.text_append_inj hx hy hr hs heq
      exact ⟨rfl, hend⟩
    | _ => cases hkind
  | string t =>
    intro r s _ _ heq
    have hkind := kind_eq heq
    cases k with
    | string u =>
      obtain ⟨htext, hend⟩ := quoted_append_inj heq
      exact ⟨congrArg string (String.toList_inj.mp htext), hend⟩
    | _ => cases hkind
  | array items ih =>
    intro r s _ _ heq
    have hkind := kind_eq heq
    cases k with
    | array items' =>
      simp only [print, printItems_eq] at heq
      obtain ⟨hitems, hend⟩ := enclose_append_inj hgap (.inl rfl)
        (fun j _ => (marked_print j).begins) (fun j _ => (marked_print j).begins)
        (fun j hj j' _ => ih j hj j') heq
      rw [List.map_id, List.map_id] at hitems
      exact ⟨congrArg array hitems, hend⟩
    | _ => cases hkind
  | object members ih =>
    intro r s _ _ heq
    have hkind := kind_eq heq
    cases k with
    | object members' =>
      simp only [print, printMembers_eq] at heq
      have hbegins (m : String × Json) : Begins (printMember layout (depth + 1) m) :=
        ⟨'"', _, rfl, rfl⟩
      obtain ⟨hmembers, hend⟩ := enclose_append_inj hgap (.inr rfl) (fun m _ => hbegins m)
        (fun m _ => hbegins m) (fun m hm m' _ => determines_member (ih m hm m'.2)) heq
      rw [List.map_id, List.map_id] at hmembers
      exact ⟨congrArg object hmembers, hend⟩
    | _ => cases hkind

end Print

/-- Different values have different texts. -/
theorem compact_injective {j k : Json} (h : j.compact = k.compact) : j = k :=
  (print_determines Break.blank_none j k).kept_eq h

theorem pretty_injective {j k : Json} (h : j.pretty = k.pretty) : j = k :=
  (print_determines Break.blank_line j k).kept_eq h

end FilterQuery.Json
