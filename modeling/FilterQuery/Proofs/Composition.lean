import FilterQuery.Document.OfQuery
import FilterQuery.Proofs.Recognition

/-!
# Composition

Queries that are put in parentheses and joined by keywords are again a query. Its tree joins their
trees to the right, and its document nests their documents, whatever white space is put around the
parentheses. This rests on derivations being local: the text after a query can be exchanged, as long
as it does not continue the query's last token.
-/

namespace FilterQuery

open Text Token Grammar

namespace Grammar

/-- If `after'` starts with a character that could continue a token, then `after` starts with the
same one. -/
def Cuts (after after' : List Char) : Prop :=
  ∀ c ∈ after'.head?, isBareChar c = true → c ∈ after.head?

section Cuts

variable {after after' : List Char}

lemma Cuts.append (h : Cuts after after') (cs : List Char) : Cuts (cs ++ after) (cs ++ after') := by
  cases cs with
  | nil => exact h
  | cons d ds => exact fun c hc _ => hc

/-- White space and a closing parenthesis can come after any query. -/
lemma cuts_closing {w : List Char} (hw : Blank w) (tail : List Char) :
    Cuts after (w ++ ')' :: tail) := by
  intro c hc hbare
  have hspace := not_isSpace_of_isBareChar hbare
  cases w with
  | nil =>
    cases hc
    exact absurd hbare (by decide)
  | cons d ds =>
    cases hc
    rw [hw c List.mem_cons_self] at hspace
    cases hspace

lemma longestRun_congr {p : Char → Bool} {cs : List Char} (h : LongestRun p cs after)
    (hp : ∀ c, p c = true → isBareChar c = true) (hc : Cuts after after') :
    LongestRun p cs after' := by
  refine ⟨h.ne_nil, h.all, fun c hmem => ?_⟩
  by_contra hpc
  rw [Bool.not_eq_false] at hpc
  rw [h.ends c (hc c hmem (hp c hpc))] at hpc
  cases hpc

lemma Name.congr {name : List Char} (h : Name name after) (hc : Cuts after after') :
    Name name after' := by
  cases h with
  | plain h => exact .plain (longestRun_congr h (fun _ => isBareChar_of_isNameChar) hc)
  | dollars h => exact .dollars (longestRun_congr h (fun _ => isBareChar_of_isNameChar) hc)

lemma ValueText.congr {v : Token.Value} {cs : List Char} (h : ValueText v cs after)
    (hc : Cuts after after') : ValueText v cs after' := by
  cases h with
  | objectId h => exact .objectId h
  | bare h => exact .bare (longestRun_congr h (fun _ h => h) hc)
  | quoted hq hbody => exact .quoted hq hbody
  | regex h => exact .regex h
  | regexIgnoreCase h => exact .regexIgnoreCase h

lemma Comparand.congr {cs : List Char} {value : Literal} {cmp : Option Comparator}
    (h : Comparand cs value cmp after) (hc : Cuts after after') :
    Comparand cs value cmp after' := by
  cases h with
  | absent => exact .absent
  | @present link text w _ _ v _ hlink htext hv hw =>
    refine .present ?_ (htext.congr (hc.append w)) hv hw
    obtain ⟨c, tail, rfl, -, -⟩ := head_of_valueText htext
    cases hlink with
    | direct => exact .direct
    | @comparator _ u _ _ _ hblank hrun htoken hu =>
      refine .comparator hblank ⟨hrun.ne_nil, hrun.all, ?_⟩ htoken hu
      cases u with
      | nil => exact hrun.ends
      | cons d ds => exact hrun.ends

/-- A derivation does not depend on the text after what is derived, as long as that text does not
continue the last token. -/
theorem Derives.congr {s : Symbol} {cs : List Char} {q : Query} (h : Derives s cs q after)
    (hc : Cuts after after') : Derives s cs q after' := by
  -- Inside a group the parenthesis cuts off whatever comes after, so `hc` is not needed there.
  induction h generalizing after' with
  | group hv _ hw ih => exact .group hv (ih (cuts_closing hw after')) hw
  | comparison hn hcmp hl => exact .comparison (hn.congr (hc.append _)) (hcmp.congr hc) hl
  | nested _ ih => exact .nested (ih hc)
  | single _ ih => exact .single (ih hc)
  | @join cs v word w ds after op left right _ hv hk hword hw hd ihl ihr =>
    refine .join (ihl (hc.append _)) hv hk ?_ hw (ihr hc)
    obtain ⟨c, tail, rfl, -⟩ := Query.head_of_derives hd
    cases w with
    | nil => exact hword
    | cons d ds => exact hword

end Cuts

end Grammar

namespace Query

/-- What is read as a query is a chain with white space around it. -/
lemma exists_chain_of_parse {text : String} {q : Query} (h : Query.parse text = .ok q) :
    ∃ v cs w, Blank v ∧ Blank w ∧ text.toList = v ++ cs ++ w ∧
      ∀ u tail, Blank u → Derives .chain cs q (u ++ ')' :: tail) := by
  rw [Query.parse, Parser.parse_eq_ok_iff_readGroup, readGroup_eq_ok_iff] at h
  obtain ⟨ds, hwrap, hderives⟩ := h
  rw [List.append_nil] at hwrap
  obtain ⟨v₀, w₀, hv₀, hw₀, htext⟩ := exists_blank_trim text.toList
  subst hwrap
  generalize hcs : wrap text = cs at hderives
  cases hderives with
  | @group v ds w _ _ hv hchain hw =>
    have htrim : trim text.toList = v ++ ds ++ w := by
      simp only [wrap, List.cons_append, List.append_assoc, List.cons.injEq, true_and] at hcs
      simpa [← List.append_assoc] using hcs
    refine ⟨v₀ ++ v, ds, w ++ w₀, hv₀.append hv, hw.append hw₀, ?_, fun u tail hu => ?_⟩
    · rw [htext, htrim]
      simp only [List.append_assoc]
    · exact hchain.congr (cuts_closing hu tail)

/-- A chain between parentheses is read as its tree. -/
lemma parse_of_chain {text : String} {cs : List Char} {q : Query} (htrim : trim text.toList = cs)
    (h : Derives .chain cs q [')']) : Query.parse text = .ok q := by
  rw [Query.parse, Parser.parse_eq_ok_iff_readGroup, readGroup_eq_ok_iff]
  refine ⟨wrap text, (List.append_nil _).symm, ?_⟩
  have hgroup : Derives .group ('(' :: [] ++ cs ++ [] ++ [')']) q [] :=
    .group blank_nil h blank_nil
  rwa [wrap, htrim, ← List.append_nil ('(' :: cs)]

end Query

/-! ### Queries joined by keywords -/

/-- A query that is put in parentheses, with white space inside and outside of them. -/
structure Operand where
  query : String
  tree : Query
  parse_query : Query.parse query = .ok tree
  before : List Char
  lead : List Char
  trail : List Char
  behind : List Char
  before_blank : Blank before
  lead_blank : Blank lead
  trail_blank : Blank trail
  behind_blank : Blank behind

/-- A keyword between two queries. -/
structure Joint where
  word : List Char
  op : Connective
  keyword : Keyword word op

namespace Operand

def group (o : Operand) : List Char :=
  '(' :: o.lead ++ o.query.toList ++ o.trail ++ [')']

def text (o : Operand) : List Char :=
  o.before ++ o.group ++ o.behind

def document (o : Operand) : Document :=
  o.tree.toDocument

lemma ofText_query (o : Operand) : Document.ofText o.query = .ok o.document := by
  rw [Document.ofText, o.parse_query]
  rfl

lemma derives_group (o : Operand) (after : List Char) : Derives .group o.group o.tree after := by
  obtain ⟨v, cs, w, hv, hw, htext, hchain⟩ := Query.exists_chain_of_parse o.parse_query
  have hgroup := Derives.group (o.lead_blank.append hv)
    (hchain (w ++ o.trail) after (hw.append o.trail_blank)) (hw.append o.trail_blank)
  rw [group, htext]
  simpa only [List.append_assoc, List.cons_append] using hgroup

/-- The text of some operands, with keywords between them. -/
def joinedText : Operand → List (Joint × Operand) → List Char
  | o, [] => o.text
  | o, (j, p) :: more => o.text ++ j.word ++ joinedText p more

/-- The tree of some operands, nested to the right. -/
def joinedTree : Operand → List (Joint × Operand) → Query
  | o, [] => o.tree
  | o, (j, p) :: more => .join j.op o.tree (joinedTree p more)

/-- The document of some operands, nested to the right. -/
def joinedDocument : Operand → List (Joint × Operand) → Document
  | o, [] => o.document
  | o, (j, p) :: more =>
    .single j.op.key (.array [o.document.toValue, (joinedDocument p more).toValue])

lemma toDocument_joinedTree (o : Operand) (more : List (Joint × Operand)) :
    (joinedTree o more).toDocument = joinedDocument o more := by
  induction more generalizing o with
  | nil => rfl
  | cons pair more ih =>
    obtain ⟨j, p⟩ := pair
    rw [joinedTree, Query.toDocument, ih p]
    rfl

/-- Between the white space at its two ends, the text is a chain that starts and ends with a
parenthesis. -/
lemma derives_joined (o : Operand) (more : List (Joint × Operand)) :
    ∃ cs w, joinedText o more = o.before ++ ('(' :: cs ++ [')']) ++ w ∧ Blank w ∧
      ∀ after, Derives .chain ('(' :: cs ++ [')']) (joinedTree o more) after := by
  induction more generalizing o with
  | nil =>
    refine ⟨o.lead ++ o.query.toList ++ o.trail, o.behind, ?_, o.behind_blank, fun after => ?_⟩
    · simp only [joinedText, text, group, List.cons_append, List.append_assoc]
    · have hgroup := o.derives_group after
      simp only [group, List.cons_append, List.append_assoc] at hgroup ⊢
      exact .single (.nested hgroup)
  | cons pair more ih =>
    obtain ⟨j, p⟩ := pair
    obtain ⟨cs, w, htext, hw, hchain⟩ := ih p
    refine ⟨o.lead ++ o.query.toList ++ o.trail ++ [')'] ++ o.behind ++ j.word ++ p.before ++
      '(' :: cs, w, ?_, hw, fun after => ?_⟩
    · simp only [joinedText, text, group, htext, List.cons_append, List.append_assoc]
    · have hend : ∀ c ∈ (p.before ++ ('(' :: cs ++ [')']) ++ after).head?,
          Unicode.isWord c = false := by
        cases hb : p.before with
        | nil =>
          rintro c ⟨⟩
          decide
        | cons d ds =>
          rintro c ⟨⟩
          have hd : d ∈ p.before := hb ▸ List.mem_cons_self
          exact Unicode.not_isWord_of_isSpace (p.before_blank d hd)
      have hjoin := Derives.join (.nested (o.derives_group _)) o.behind_blank j.keyword hend
        p.before_blank (hchain after)
      simp only [group, List.cons_append, List.append_assoc] at hjoin ⊢
      exact hjoin

/-- Queries in parentheses that are joined by keywords make up a query. Its tree and its document
nest those of the parts to the right, in the order in which they are written. -/
theorem parse_joinedText (o : Operand) (more : List (Joint × Operand)) :
    Query.parse (String.ofList (joinedText o more)) = .ok (joinedTree o more) ∧
      Document.ofText (String.ofList (joinedText o more)) = .ok (joinedDocument o more) ∧
      ∀ p ∈ o :: more.map (·.2), Document.ofText p.query = .ok p.document := by
  obtain ⟨cs, w, htext, hw, hchain⟩ := derives_joined o more
  have htrim : trim (String.ofList (joinedText o more)).toList = '(' :: cs ++ [')'] := by
    rw [String.toList_ofList, htext]
    apply trim_eq o.before_blank hw
    · rintro c ⟨⟩
      decide
    · intro c hc
      rw [List.getLast?_append] at hc
      cases hc
      decide
    · simp
  have hparse := Query.parse_of_chain htrim (hchain [')'])
  refine ⟨hparse, ?_, fun p _ => p.ofText_query⟩
  rw [Document.ofText, hparse, ← toDocument_joinedTree]
  rfl

/-- Two queries with white space inside the parentheses and none outside. -/
theorem parse_joinedText_pair :
    Query.parse "(a )oR( b>2)" = .ok (.join .or (.field "a" (.boolean true) none)
      (.field "b" (.number ⟨false, 0x4000000000000000, by decide⟩) (some .gt))) := by
  have htext : "(a )oR( b>2)" =
      String.ofList ['(', 'a', ' ', ')', 'o', 'R', '(', ' ', 'b', '>', '2', ')'] := rfl
  have hspace : Blank [' '] := by
    intro c hc
    rw [List.mem_singleton.mp hc]
    decide
  have h := parse_joinedText
    ⟨"a", .field "a" (.boolean true) none, by decide +kernel, [], [], [' '], [],
      blank_nil, blank_nil, hspace, blank_nil⟩
    [(⟨['o', 'R'], .or, rfl⟩,
      ⟨"b>2", .field "b" (.number ⟨false, 0x4000000000000000, by decide⟩) (some .gt),
        by decide +kernel, [], [' '], [], [], blank_nil, hspace, blank_nil, blank_nil⟩)]
  rw [htext]
  simpa [joinedText, text, group, joinedTree] using h.1

end Operand

end FilterQuery
