import FilterQuery.Proofs.ProperTrees
import FilterQuery.Proofs.WrittenLiterals

/-!
# Writing queries

Every tree with writable literals has a text that is read as this tree. The parts of a connective
are put in parentheses, and everything else ends where its value ends, so the reader stops exactly
in front of the closing parenthesis.
-/

namespace FilterQuery

open Text Token Grammar

/-- The token of a comparison. -/
def comparatorText : Option Comparator → List Char
  | none => [':']
  | some .gt => ['>']
  | some .lt => ['<']
  | some .gte => ['>', '=']
  | some .lte => ['<', '=']
  | some .ne => ['!', '=']

def Connective.word : Connective → List Char
  | .and => ['A', 'N', 'D']
  | .or => ['O', 'R']

namespace Query

/-- The text of a query. -/
def written : Query → List Char
  | join op left right =>
    '(' :: left.written ++ [')', ' '] ++ op.word ++ [' ', '('] ++ right.written ++ [')']
  | field name value comparator => name.toList ++ comparatorText comparator ++ value.written
  | variableMatch input p => input.toList ++ comparatorText none ++ (Literal.regex p).written
  | variableCompare input value comparator =>
    input.toList ++ comparatorText comparator ++ value.written

end Query

section Comparisons

variable {value : Literal} {tail : List Char}

lemma comparatorToken_comparatorText (cmp : Option Comparator) :
    ComparatorToken (comparatorText cmp) cmp := by
  refine ⟨comparatorText cmp, ?_, .inl rfl⟩
  cases cmp with
  | none => decide
  | some c => cases c <;> decide

lemma isComparatorChar_of_mem (cmp : Option Comparator) :
    ∀ c ∈ comparatorText cmp, isComparatorChar c = true := by
  rw [← List.all_eq_true]
  cases cmp with
  | none => rfl
  | some c => cases c <;> rfl

lemma comparatorText_ne_nil (cmp : Option Comparator) : comparatorText cmp ≠ [] :=
  comparatorToken_ne_nil (comparatorToken_comparatorText cmp)

lemma comparand_written (h : value.Writable) (cmp : Option Comparator) :
    Comparand (comparatorText cmp ++ value.written) value cmp (')' :: tail) := by
  have hclosing : ∀ c ∈ (')' :: tail).head?, isBareChar c = false := by
    rintro c ⟨⟩
    decide
  obtain ⟨v, htext, hvalue⟩ := Literal.exists_valueText h hclosing
  obtain ⟨c, cs, hcs, -, hhead⟩ := head_of_valueText htext
  have hrun : LongestRun isComparatorChar (comparatorText cmp)
      ([] ++ (value.written ++ [] ++ ')' :: tail)) := by
    refine ⟨comparatorText_ne_nil cmp, isComparatorChar_of_mem cmp, ?_⟩
    rw [hcs]
    rintro d ⟨⟩
    exact hhead
  have hlink := Link.comparator blank_nil hrun (comparatorToken_comparatorText cmp) blank_nil
  have hcomparand := Comparand.present hlink htext hvalue blank_nil
  simpa only [List.nil_append, List.append_nil] using hcomparand

lemma longestRun_name {name : String} (h : FieldName name) (cmp : Option Comparator)
    (after : List Char) : LongestRun isNameChar name.toList (comparatorText cmp ++ after) := by
  refine ⟨h.1, h.2, ?_⟩
  obtain ⟨c, cs, hcs⟩ := List.exists_cons_of_ne_nil (comparatorText_ne_nil cmp)
  have hc : isComparatorChar c = true := by
    apply isComparatorChar_of_mem cmp
    rw [hcs]
    exact List.mem_cons_self
  rw [hcs]
  rintro d ⟨⟩
  by_contra hname
  have hbare := isBareChar_of_isNameChar (Bool.eq_true_of_not_eq_false hname)
  rw [not_isBareChar_of_isComparatorChar hc] at hbare
  cases hbare

lemma toList_dollars (name : String) : ("$$" ++ name).toList = '$' :: '$' :: name.toList := by
  rw [String.toList_append]
  rfl

lemma derives_comparison {name : List Char} {cmp : Option Comparator} {q : Query}
    (hn : Name name (comparatorText cmp ++ (value.written ++ ')' :: tail))) (h : value.Writable)
    (hleaf : Leaf name value cmp q) :
    Derives .chain (name ++ comparatorText cmp ++ value.written) q (')' :: tail) := by
  rw [← List.append_assoc] at hn
  rw [List.append_assoc]
  exact .single (.comparison hn (comparand_written h cmp) hleaf)

end Comparisons

namespace Query

/-- By induction on the tree: its text is a chain in front of any closing parenthesis. -/
theorem derives_written {q : Query} (h : q.Proper Literal.Writable) (tail : List Char) :
    Derives .chain q.written q (')' :: tail) := by
  induction h generalizing tail with
  | @join op left right _ _ ihl ihr =>
    have hspace : Blank [' '] := by
      intro c hc
      rw [List.mem_singleton.mp hc]
      decide
    have hkeyword : Keyword op.word op := by
      cases op <;> rfl
    have hgroup {cs rest : List Char} {q : Query} (hcs : Derives .chain cs q (')' :: rest)) :
        Derives .group ('(' :: cs ++ [')']) q rest := by
      have hgroup := Derives.group blank_nil (w := []) hcs blank_nil
      simpa only [List.cons_append, List.nil_append, List.append_nil] using hgroup
    have hright := hgroup (ihr (')' :: tail))
    have hend : ∀ c ∈ ([' '] ++ ('(' :: right.written ++ [')']) ++ ')' :: tail).head?,
        Unicode.isWord c = false := by
      rintro c ⟨⟩
      decide
    have hjoin := Derives.join (.nested (hgroup (ihl _))) hspace hkeyword hend hspace
      (.single (.nested hright))
    rw [written]
    simpa only [List.append_assoc, List.cons_append, List.nil_append] using hjoin
  | @field name value cmp hname hvalue =>
    have hleaf : Leaf name.toList value cmp _ := .field hname.head_ne
    rw [String.ofList_toList] at hleaf
    exact derives_comparison (.plain (longestRun_name hname cmp _)) hvalue hleaf
  | @variableMatch name p hname hp =>
    have hleaf : Leaf ('$' :: '$' :: name.toList) (.regex p) none _ := .variableMatch
    rw [ofList_dollars, String.ofList_toList] at hleaf
    rw [written, toList_dollars]
    exact derives_comparison (.dollars (longestRun_name hname none _)) hp hleaf
  | @variableCompare name value cmp hname hvalue hregex =>
    have hleaf : Leaf ('$' :: '$' :: name.toList) value cmp _ := .variableCompare hregex
    rw [ofList_dollars, String.ofList_toList] at hleaf
    rw [written, toList_dollars]
    exact derives_comparison (.dollars (longestRun_name hname cmp _)) hvalue hleaf

/-! ### Reading what was written -/

lemma last_of_valueText {v : Token.Value} {cs after : List Char} (h : ValueText v cs after) :
    ∀ c ∈ cs.getLast?, Unicode.isSpace c = false := by
  cases h with
  | objectId =>
    unfold ObjectIdLiteral.text
    rw [List.getLast?_concat]
    rintro c ⟨⟩
    decide
  | bare hrun => exact fun c hc => not_isSpace_of_isBareChar (hrun.all c (List.mem_of_getLast? hc))
  | quoted hquote =>
    rw [List.getLast?_concat]
    rintro c ⟨⟩
    obtain rfl | rfl := hquote <;> decide
  | regex =>
    rw [List.getLast?_concat]
    rintro c ⟨⟩
    decide
  | @regexIgnoreCase body =>
    rw [show '/' :: body ++ ['/', 'i'] = ('/' :: body ++ ['/']) ++ ['i'] by simp,
      List.getLast?_concat]
    rintro c ⟨⟩
    decide

lemma last_of_comparison {value : Literal} (h : value.Writable) (cs : List Char) :
    ∀ c ∈ (cs ++ value.written).getLast?, Unicode.isSpace c = false := by
  have hnil : ∀ c ∈ ([] : List Char).head?, isBareChar c = false := fun c hc => nomatch hc
  obtain ⟨v, htext, -⟩ := Literal.exists_valueText h hnil
  obtain ⟨c, tail, hcs, -⟩ := head_of_valueText htext
  rw [List.getLast?_append_of_ne_nil _ (by simp [hcs])]
  exact last_of_valueText htext

lemma last_of_written {q : Query} (h : q.Proper Literal.Writable) :
    ∀ c ∈ q.written.getLast?, Unicode.isSpace c = false := by
  cases h with
  | join =>
    rw [written, List.getLast?_concat]
    rintro c ⟨⟩
    decide
  | field _ hvalue => exact last_of_comparison hvalue _
  | variableMatch _ hp => exact last_of_comparison hp _
  | variableCompare _ hvalue => exact last_of_comparison hvalue _

lemma trim_written {q : Query} (h : q.Proper Literal.Writable) : trim q.written = q.written := by
  obtain ⟨c, tail, hcs, hspace⟩ := head_of_derives (derives_written h [])
  have hhead : ∀ d ∈ q.written.head?, Unicode.isSpace d = false := by
    rw [hcs]
    rintro d ⟨⟩
    exact hspace
  have htrim := trim_eq blank_nil blank_nil hhead (last_of_written h) (by simp [hcs])
  rwa [List.nil_append, List.append_nil] at htrim

/-- What is written for a tree with writable literals is read as the tree. -/
theorem parse_written {q : Query} (h : q.Proper Literal.Writable) :
    Query.parse (String.ofList q.written) = .ok q := by
  have htrim : trim (String.ofList q.written).toList = q.written := by
    rw [String.toList_ofList]
    exact trim_written h
  exact parse_of_chain htrim (derives_written h [])

/-- A string that looks like the end of a query, and a negative number. -/
theorem parse_written_pair :
    Query.parse "(a.b!=\") OR (c\") AND ($$n:-1.5)" =
      .ok (.join .and (.field "a.b" (.string ") OR (c") (some .ne))
        (.variableCompare "$$n" (.number ⟨true, 0x3FF8000000000000, by decide⟩) none)) := by
  have hname : "$$n" = "$$" ++ "n" := by decide
  have hproper : Proper Literal.Writable (.join .and (.field "a.b" (.string ") OR (c") (some .ne))
      (.variableCompare "$$n" (.number ⟨true, 0x3FF8000000000000, by decide⟩) none)) := by
    have hfield : FieldName "a.b" := ⟨by decide, List.all_eq_true.mp rfl⟩
    have hvariable : FieldName "n" := ⟨by decide, List.all_eq_true.mp rfl⟩
    rw [hname]
    refine .join (.field hfield ⟨.inl (by decide), by decide⟩) ?_
    exact .variableCompare hvariable rfl (fun p hp => nomatch hp)
  refine Eq.trans (congrArg Query.parse ?_) (parse_written hproper)
  decide +kernel

end Query

end FilterQuery
