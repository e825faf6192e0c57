import FilterQuery.Command.Response
import FilterQuery.Proofs.ErrorMessages
import FilterQuery.Proofs.Runs

/-!
# Command lines

An `Invocation` is a subcommand with options around the place of a query. Its arguments are read as
the options say, in any of their spellings, and a query that does not start with a dash is taken as
it is. From there on it does not matter whether the query stood among the arguments or was read as
input: the response is what the library answers to the query without the white space around it.
-/

namespace FilterQuery

open Text

namespace Command

def Subcommand.name : Subcommand → String
  | compile => "compile"
  | parse => "parse"

def Format.name : Format → String
  | json => "json"
  | shell => "shell"

/-- How a format comes after its option: as the next argument, at once, or behind an equals sign. -/
inductive Attachment where
  | apart
  | atOnce
  | equals

def Attachment.words (option value : String) : Attachment → List String
  | apart => [option, value]
  | atOnce => [option ++ value]
  | equals => [option ++ ("=" ++ value)]

/-- An option of a subcommand as it is written. -/
inductive Switch where
  | pretty
  | prettyLong
  | format (how : Attachment) (f : Format)
  /-- Both short options behind one dash. -/
  | prettyFormat (how : Attachment) (f : Format)
  | formatLong (f : Format)
  | formatLongEquals (f : Format)

namespace Switch

def words : Switch → List String
  | pretty => ["-p"]
  | prettyLong => ["--pretty"]
  | format how f => how.words "-f" f.name
  | prettyFormat how f => how.words "-pf" f.name
  | formatLong f => ["--format", f.name]
  | formatLongEquals f => ["--format=" ++ f.name]

@[simp] def isPretty : Switch → Bool
  | pretty | prettyLong | prettyFormat _ _ => true
  | format _ _ | formatLong _ | formatLongEquals _ => false

@[simp] def format? : Switch → Option Format
  | pretty | prettyLong => none
  | format _ f | prettyFormat _ f | formatLong f | formatLongEquals f => some f

/-- Both options choose the same thing. -/
def Clashes (v w : Switch) : Prop :=
  v.isPretty ∧ w.isPretty ∨ v.format?.isSome ∧ w.format?.isSome

instance : DecidableRel Clashes :=
  fun _ _ => inferInstanceAs (Decidable (_ ∨ _))

end Switch

/-- A command line apart from its query: a subcommand with the options in front of the query and
behind it. Nothing is chosen twice, and a format only where there is a choice of formats. -/
structure Invocation where
  sub : Subcommand
  front : List Switch
  back : List Switch
  pairwise_not_clashes : (front ++ back).Pairwise fun v w => ¬v.Clashes w
  formats_of_isSome : ∀ w ∈ front ++ back, w.format?.isSome → sub.formats = true

namespace Invocation

variable (i : Invocation)

def args (query : Option String) : List String :=
  i.sub.name :: (i.front.flatMap Switch.words ++ (query.toList ++ i.back.flatMap Switch.words))

def pretty : Bool :=
  (i.front ++ i.back).any Switch.isPretty

def format? : Option Format :=
  (i.front ++ i.back).findSome? Switch.format?

/-- What the library gives for a query: its document in the chosen format, or its tree. -/
def answer (query : String) : Except ParseError String :=
  match i.sub, i.format?.getD .json, i.pretty with
  | .compile, .json, false => (Document.ofText query).map fun d => d.toJson.compact
  | .compile, .json, true => (Document.ofText query).map fun d => d.toJson.pretty
  | .compile, .shell, false => (Document.ofText query).map Shell.compact
  | .compile, .shell, true => (Document.ofText query).map Shell.pretty
  | .parse, _, false => (Query.parse query).map fun q => q.toJson.compact
  | .parse, _, true => (Query.parse query).map fun q => q.toJson.pretty

end Invocation

/-! ### Reading the arguments -/

namespace Settings

/-- The settings with what an option chooses, if that has not been chosen before. -/
def choose (s : Settings) (w : Switch) : Settings :=
  ⟨s.pretty || w.isPretty, s.format.or w.format?, s.query⟩

/-- An option does not choose again what has been chosen. -/
def Admits (s : Settings) (w : Switch) : Prop :=
  (w.isPretty → s.pretty = false) ∧ (w.format?.isSome → s.format = none)

variable {s : Settings}

lemma setPretty_eq (h : s.pretty = false) : s.setPretty = .ok { s with pretty := true } := by
  rw [setPretty, h]
  rfl

lemma setFormat_eq (f : Format) (h : s.format = none) :
    s.setFormat f.name.toList = .ok { s with format := some f } := by
  rw [setFormat, h]
  cases f <;> rfl

lemma foldl_choose (ws : List Switch) :
    ws.foldl choose s = ⟨s.pretty || ws.any Switch.isPretty,
      s.format.or (ws.findSome? Switch.format?), s.query⟩ := by
  induction ws generalizing s with
  | nil => simp
  | cons w ws ih =>
    rw [List.foldl_cons, ih, List.any_cons, List.findSome?_cons, choose, Bool.or_assoc,
      Option.or_assoc]
    cases w.format? <;> rfl

lemma admits_choose {v w : Switch} (hw : s.Admits w) (h : ¬v.Clashes w) :
    (s.choose v).Admits w := by
  constructor
  · intro hpretty
    have hv : v.isPretty = false := by
      by_contra hv
      exact h (.inl ⟨by simpa using hv, hpretty⟩)
    rw [choose, hw.1 hpretty, hv]
    rfl
  · intro hformat
    have hv : v.format? = none := by
      by_contra hv
      exact h (.inr ⟨Option.isSome_iff_ne_none.mpr hv, hformat⟩)
    rw [choose, hw.2 hformat, hv]
    rfl

lemma admits_foldl {ws : List Switch} {w : Switch} (hw : s.Admits w)
    (h : ∀ v ∈ ws, ¬v.Clashes w) : (ws.foldl choose s).Admits w := by
  induction ws generalizing s with
  | nil => exact hw
  | cons v ws ih =>
    apply ih
    · exact admits_choose hw (h v List.mem_cons_self)
    · exact fun u hu => h u (List.mem_cons_of_mem v hu)

end Settings

section Reading

variable {formats : Bool} {s : Settings} {arg : String} {c : Char} {cs : List Char}

lemma readSettings_short (rest : List String) (h : arg.toList = '-' :: c :: cs) (hc : c ≠ '-') :
    readSettings formats s false (arg :: rest) =
      (readShort formats s (c :: cs)).bind fun (s, awaiting) =>
        readSettings formats s awaiting rest := by
  rw [readSettings, if_neg Bool.false_ne_true, h]
  split <;> simp_all

lemma readSettings_long (rest : List String) (h : arg.toList = '-' :: '-' :: c :: cs) :
    readSettings formats s false (arg :: rest) =
      (readLong formats s (c :: cs)).bind fun (s, awaiting) =>
        readSettings formats s awaiting rest := by
  rw [readSettings, if_neg Bool.false_ne_true, h]
  rfl

lemma readSettings_query (rest : List String) (h : arg.toList.head? ≠ some '-')
    (hs : s.query = none) :
    readSettings formats s false (arg :: rest) =
      readSettings formats { s with query := some arg } false rest := by
  have hquery : s.setQuery arg = .ok { s with query := some arg } := by
    rw [Settings.setQuery, hs]
  rw [readSettings, if_neg Bool.false_ne_true]
  split <;> simp_all [Except.bind]

lemma readSettings_toList {query : Option String} (rest : List String)
    (hq : ∀ q ∈ query, q.toList.head? ≠ some '-') (hs : s.query = none) :
    readSettings formats s false (query.toList ++ rest) =
      readSettings formats { s with query } false rest := by
  cases query with
  | none =>
    obtain ⟨pretty, format, q⟩ := s
    cases hs
    rfl
  | some q => exact readSettings_query rest (hq q rfl) hs

lemma readSettings_name (f : Format) (rest : List String) (hs : s.format = none) :
    readSettings formats s true (f.name :: rest) =
      readSettings formats { s with format := some f } false rest := by
  rw [readSettings, if_pos rfl, Settings.setFormat_eq f hs]
  rfl

lemma readShort_pretty (hs : s.pretty = false) :
    readShort formats s ('p' :: cs) = readShort formats { s with pretty := true } cs := by
  conv => lhs; unfold readShort
  rw [if_pos rfl, Settings.setPretty_eq hs]
  rfl

lemma readShort_format (f : Format) (hs : s.format = none)
    (hcs : cs = f.name.toList ∨ cs = '=' :: f.name.toList) :
    readShort true s ('f' :: cs) = .ok ({ s with format := some f }, false) := by
  have hformat := congrArg (Except.map fun s => (s, false)) (Settings.setFormat_eq f hs)
  unfold readShort
  rw [if_neg (by decide), if_neg (by decide), if_pos ⟨rfl, rfl⟩]
  obtain rfl | rfl := hcs
  · cases f <;> exact hformat
  · exact hformat

/-- However the format comes after the letters of an option, it is read as the format. -/
lemma readSettings_attachment {t : Settings} {option : String} (how : Attachment) (f : Format)
    (rest : List String) (hoption : option.toList = '-' :: c :: cs) (hc : c ≠ '-')
    (hread : ∀ tail, readShort true s (c :: cs ++ tail) = readShort true t ('f' :: tail))
    (ht : t.format = none) :
    readSettings true s false (how.words option f.name ++ rest) =
      readSettings true { t with format := some f } false rest := by
  have hjoined {tail : String}
      (htail : tail.toList = f.name.toList ∨ tail.toList = '=' :: f.name.toList) :
      readSettings true s false ((option ++ tail) :: rest) =
        readSettings true { t with format := some f } false rest := by
    have harg : (option ++ tail).toList = '-' :: c :: (cs ++ tail.toList) := by
      rw [String.toList_append, hoption]
      rfl
    rw [readSettings_short rest harg hc, ← List.cons_append, hread, readShort_format f ht htail]
    rfl
  cases how with
  | apart =>
    have hletters := hread []
    rw [List.append_nil] at hletters
    change readSettings true s false (option :: f.name :: rest) = _
    rw [readSettings_short _ hoption hc, hletters]
    exact readSettings_name f rest ht
  | atOnce => exact hjoined (.inl rfl)
  | equals => exact hjoined (.inr String.toList_append)

/-- The words of an option are read as what it chooses. -/
lemma readSettings_words {w : Switch} (rest : List String) (hs : s.Admits w)
    (hformats : w.format?.isSome → formats = true) :
    readSettings formats s false (w.words ++ rest) =
      readSettings formats (s.choose w) false rest := by
  cases w with
  | pretty =>
    have harg : "-p".toList = ['-', 'p'] := rfl
    have hread : readShort formats s ['p'] = readShort formats { s with pretty := true } [] :=
      readShort_pretty (hs.1 rfl)
    change readSettings formats s false ("-p" :: rest) = _
    rw [readSettings_short rest harg (by decide), hread]
    simp [Settings.choose, readShort, Except.bind]
  | prettyLong =>
    have harg : "--pretty".toList = '-' :: '-' :: 'p' :: ['r', 'e', 't', 't', 'y'] := rfl
    change readSettings formats s false ("--pretty" :: rest) = _
    rw [readSettings_long rest harg]
    simp [Settings.choose, readLong, Settings.setPretty_eq (hs.1 rfl), Except.bind, Except.map]
  | format how f =>
    obtain rfl := hformats rfl
    have hnone := hs.2 rfl
    have harg : "-f".toList = '-' :: 'f' :: [] := rfl
    have hread := readSettings_attachment how f rest harg (by decide) (fun _ => rfl) hnone
    simpa [Switch.words, Settings.choose, hnone] using hread
  | prettyFormat how f =>
    obtain rfl := hformats rfl
    have hnone := hs.2 rfl
    have harg : "-pf".toList = '-' :: 'p' :: ['f'] := rfl
    have hread := readSettings_attachment how f rest harg (by decide)
      (fun tail => readShort_pretty (hs.1 rfl)) hnone
    simpa [Switch.words, Settings.choose, hnone] using hread
  | formatLong f =>
    obtain rfl := hformats rfl
    have hnone := hs.2 rfl
    have harg : "--format".toList = '-' :: '-' :: 'f' :: ['o', 'r', 'm', 'a', 't'] := rfl
    change readSettings true s false ("--format" :: f.name :: rest) = _
    rw [readSettings_long _ harg]
    simp [Settings.choose, readLong, Except.bind, hnone, readSettings_name f rest hnone]
  | formatLongEquals f =>
    obtain rfl := hformats rfl
    have hnone := hs.2 rfl
    have harg : ("--format=" ++ f.name).toList =
        '-' :: '-' :: 'f' :: (['o', 'r', 'm', 'a', 't'] ++ '=' :: f.name.toList) := by
      rw [String.toList_append]
      rfl
    change readSettings true s false (("--format=" ++ f.name) :: rest) = _
    rw [readSettings_long rest harg]
    simp [Settings.choose, readLong, Except.bind, Except.map, hnone, Settings.setFormat_eq f hnone]

/-- By induction on the options, none of which chooses again what one before it has chosen. -/
lemma readSettings_flatMap {ws : List Switch} (rest : List String) (hs : ∀ w ∈ ws, s.Admits w)
    (hws : ws.Pairwise fun v w => ¬v.Clashes w)
    (hformats : ∀ w ∈ ws, w.format?.isSome → formats = true) :
    readSettings formats s false (ws.flatMap Switch.words ++ rest) =
      readSettings formats (ws.foldl Settings.choose s) false rest := by
  induction ws generalizing s with
  | nil => rfl
  | cons w ws ih =>
    obtain ⟨hw, hrest⟩ := List.forall_mem_cons.mp hs
    obtain ⟨hwformats, hrestformats⟩ := List.forall_mem_cons.mp hformats
    obtain ⟨hclash, hpairwise⟩ := List.pairwise_cons.mp hws
    rw [List.flatMap_cons, List.append_assoc, readSettings_words _ hw hwformats, List.foldl_cons]
    exact ih (fun v hv => Settings.admits_choose (hrest v hv) (hclash v hv)) hpairwise hrestformats

end Reading

namespace Invocation

variable (i : Invocation)

section Args

variable {query : Option String} (hq : ∀ q ∈ query, q.toList.head? ≠ some '-')

include hq

lemma readSettings_args :
    readSettings i.sub.formats .initial false
        (i.front.flatMap Switch.words ++ (query.toList ++ i.back.flatMap Switch.words)) =
      .ok ⟨i.pretty, i.format?, query⟩ := by
  obtain ⟨hfront, hback, hclash⟩ := List.pairwise_append.mp i.pairwise_not_clashes
  obtain ⟨hfrontFormats, hbackFormats⟩ := List.forall_mem_append.mp i.formats_of_isSome
  have hinitial (w : Switch) : Settings.initial.Admits w := ⟨fun _ => rfl, fun _ => rfl⟩
  let s : Settings := ⟨i.front.any Switch.isPretty, i.front.findSome? Switch.format?, none⟩
  have hs : i.front.foldl Settings.choose .initial = s := Settings.foldl_choose i.front
  have hadmits : ∀ w ∈ i.back, s.Admits w := by
    intro w hw
    rw [← hs]
    exact Settings.admits_foldl (hinitial w) fun v hv => hclash v hv w hw
  have hlast : readSettings i.sub.formats { s with query } false _ = _ :=
    readSettings_flatMap [] hadmits hback hbackFormats
  rw [List.append_nil] at hlast
  rw [readSettings_flatMap _ (fun w _ => hinitial w) hfront hfrontFormats, hs,
    readSettings_toList _ hq rfl, hlast, Settings.foldl_choose, readSettings,
    if_neg Bool.false_ne_true, pretty, format?, List.any_append, List.findSome?_append]

theorem readArguments_args :
    readArguments (i.args query) = .ok (i.sub, ⟨i.pretty, i.format?, query⟩) := by
  have hread := i.readSettings_args hq
  unfold args
  cases hsub : i.sub with
  | compile =>
    rw [hsub] at hread
    exact congrArg (Except.map fun s => (Subcommand.compile, s)) hread
  | parse =>
    rw [hsub] at hread
    exact congrArg (Except.map fun s => (Subcommand.parse, s)) hread

lemma readsInput_args :
    readsInput (i.args query) = query.isNone := by
  rw [readsInput, i.readArguments_args hq]

end Args

/-! ### Responses -/

/-- A query in the form that is chosen. -/
def rendering (q : Query) : String :=
  match i.sub with
  | .compile => documentText (i.format?.getD .json) i.pretty q.toDocument
  | .parse => jsonText i.pretty q.toJson

lemma answer_eq (query : String) : i.answer query = (Query.parse query).map i.rendering := by
  unfold answer rendering Document.ofText
  cases i.sub <;> cases i.format?.getD .json <;> cases i.pretty <;> cases Query.parse query <;> rfl

lemma output_of_queryText {s : Settings} {stdin : Input} {text : String}
    (hpretty : s.pretty = i.pretty) (hformat : s.format = i.format?)
    (htext : queryText s stdin = .ok text) :
    output i.sub s stdin = (readQuery text).map i.rendering := by
  rw [output, htext]
  unfold rendering
  cases i.sub <;> simp only [Except.bind, compileText, parseText, hpretty, hformat]

lemma respond_args_eq {query : Option String} (wording : Wording)
    (hq : ∀ q ∈ query, q.toList.head? ≠ some '-') (stdin : Input) :
    respond wording (i.args query) stdin =
      match output i.sub ⟨i.pretty, i.format?, query⟩ stdin with
      | .ok out => ⟨0, out ++ "\n", ""⟩
      | .error e => ⟨1, "", e.message wording.explain ++ "\n"⟩ := by
  have hargs := i.readArguments_args hq
  cases houtput : output i.sub ⟨i.pretty, i.format?, query⟩ stdin with
  | ok out => simp only [respond, hargs, houtput]
  | error e => simp only [respond, hargs, houtput]

lemma respond_args_of_queryText {query : Option String} {stdin : Input} {text : String}
    (wording : Wording) (hq : ∀ q ∈ query, q.toList.head? ≠ some '-')
    (htext : queryText ⟨i.pretty, i.format?, query⟩ stdin = .ok text) :
    respond wording (i.args query) stdin =
      match (readQuery text).map i.rendering with
      | .ok out => ⟨0, out ++ "\n", ""⟩
      | .error e => ⟨1, "", e.message wording.explain ++ "\n"⟩ := by
  rw [i.respond_args_eq wording hq stdin, i.output_of_queryText rfl rfl htext]

lemma respond_args_of_queryText_error {stdin : Input} {e : Error} (wording : Wording)
    (h : queryText ⟨i.pretty, i.format?, none⟩ stdin = .error e) :
    respond wording (i.args none) stdin = ⟨1, "", e.message wording.explain ++ "\n"⟩ := by
  have houtput : output i.sub ⟨i.pretty, i.format?, none⟩ stdin = .error e := by
    rw [output, h]
    rfl
  rw [i.respond_args_eq wording (by rintro q ⟨⟩) stdin, houtput]

/-- At a terminal the query has to be an argument. -/
theorem respond_terminal (wording : Wording) :
    respond wording (i.args none) .terminal =
      ⟨1, "", "No query provided. Pass it as an argument or pipe it to stdin.\n"⟩ := by
  have hquery : queryText ⟨i.pretty, i.format?, none⟩ .terminal = .error .noQuery := rfl
  exact i.respond_args_of_queryText_error wording hquery

/-- Bytes that are no text are no query, whatever is asked for. -/
theorem respond_of_fromUTF8?_eq_none {bytes : ByteArray} (wording : Wording)
    (h : String.fromUTF8? bytes = none) :
    respond wording (i.args none) (.piped bytes) =
      ⟨1, "", "IO error: stream did not contain valid UTF-8\n"⟩ := by
  have hquery : queryText ⟨i.pretty, i.format?, none⟩ (.piped bytes) = .error .invalidInput := by
    simp only [queryText, h]
  exact i.respond_args_of_queryText_error wording hquery

end Invocation

lemma fromUTF8?_toUTF8 (text : String) : String.fromUTF8? text.toUTF8 = some text := by
  rw [String.fromUTF8?, String.toUTF8_eq_toByteArray, dif_pos text.isValidUTF8]
  rfl

section Padding

variable {query : String} {v w : List Char}

lemma parse_padded (hv : Blank v) (hw : Blank w) :
    Query.parse (String.ofList (v ++ query.toList ++ w)) = Query.parse query := by
  rw [Query.parse, Query.wrap, String.toList_ofList, trim_append_blank hv hw]
  rfl

lemma readQuery_padded (hv : Blank v) (hw : Blank w) (hquery : ¬Blank query.toList) :
    readQuery (String.ofList (v ++ query.toList ++ w)) =
      (Query.parse query).mapError .invalidQuery := by
  rw [readQuery, String.toList_ofList, trim_append_blank hv hw, parse_padded hv hw, if_neg]
  rw [List.isEmpty_iff, trim_eq_nil_iff]
  exact hquery

lemma readQuery_blank (hv : Blank v) (hw : Blank w) (hquery : Blank query.toList) :
    readQuery (String.ofList (v ++ query.toList ++ w)) = .error .noQuery := by
  rw [readQuery, String.toList_ofList, trim_append_blank hv hw, if_pos]
  rw [List.isEmpty_iff, trim_eq_nil_iff]
  exact hquery

lemma head_padded_ne (hv : Blank v) (hw : Blank w) (hquery : query.toList.head? ≠ some '-') :
    ∀ q ∈ some (String.ofList (v ++ query.toList ++ w)), q.toList.head? ≠ some '-' := by
  rintro q ⟨⟩
  have hblank {u : List Char} (hu : Blank u) : u.head? ≠ some '-' := by
    intro h
    exact absurd (hu '-' (List.mem_of_head? h)) (by decide)
  rw [String.toList_ofList, List.head?_append, List.head?_append]
  intro h
  obtain h | ⟨-, h⟩ := Option.or_eq_some_iff.mp h
  · obtain h | ⟨-, h⟩ := Option.or_eq_some_iff.mp h
    · exact hblank hv h
    · exact hquery h
  · exact hblank hw h

/-- The response to a query that is an argument, with white space around it. -/
lemma respond_args_padded (i : Invocation) (hv : Blank v) (hw : Blank w)
    (hhead : query.toList.head? ≠ some '-') (hquery : ¬Blank query.toList) (wording : Wording)
    (stdin : Input) :
    respond wording (i.args (some (String.ofList (v ++ query.toList ++ w)))) stdin =
      match Query.parse query with
      | .ok q => ⟨0, i.rendering q ++ "\n", ""⟩
      | .error e => ⟨1, "", "Invalid query: " ++ e.message wording.explain ++ "\n"⟩ := by
  rw [i.respond_args_of_queryText wording (head_padded_ne hv hw hhead) rfl,
    readQuery_padded hv hw hquery]
  cases Query.parse query <;> rfl

end Padding

/-- A query gets the same response as an argument, whatever the input is, and as the input itself.
White space around it does not count, and alone it is no query, which is reported. For any other
query, every subcommand succeeds if and only if the query can be parsed, and then writes what the
library answers in the chosen form. If not, the error of the library is reported and nothing is
written. -/
theorem respond_args (i j : Invocation) {query : String} (hquery : query.toList.head? ≠ some '-')
    {v w : List Char} (hv : Blank v) (hw : Blank w) (wording : Wording) (stdin : Input) :
    let text := String.ofList (v ++ query.toList ++ w)
    let response := respond wording (i.args (some text)) stdin
    respond wording (i.args none) (.piped text.toUTF8) = response ∧
      readsInput (i.args (some text)) = false ∧ readsInput (i.args none) = true ∧
      (Blank query.toList → response =
        ⟨1, "", "No query provided. Pass it as an argument or pipe it to stdin.\n"⟩) ∧
      (¬Blank query.toList →
        (response.code = 0 ↔ (respond wording (j.args (some text)) stdin).code = 0) ∧
        (response.code = 0 ↔ ∃ q, Query.parse query = .ok q) ∧
        match Query.parse query with
        | .ok _ => ∃ out, i.answer query = .ok out ∧ response = ⟨0, out ++ "\n", ""⟩
        | .error e => ∃ message, e.Says wording.explain message ∧
            response = ⟨1, "", "Invalid query: " ++ message ++ "\n"⟩) := by
  intro text response
  have hargument : ∀ q ∈ some text, q.toList.head? ≠ some '-' := head_padded_ne hv hw hquery
  have hnone : ∀ q ∈ (none : Option String), q.toList.head? ≠ some '-' := by
    rintro q ⟨⟩
  have hresponse : response = _ := i.respond_args_of_queryText wording hargument rfl
  have hinput : queryText ⟨i.pretty, i.format?, none⟩ (.piped text.toUTF8) = .ok text := by
    simp only [queryText, fromUTF8?_toUTF8]
  refine ⟨?_, i.readsInput_args hargument, i.readsInput_args hnone, fun hblank => ?_,
    fun hblank => ?_⟩
  · rw [i.respond_args_of_queryText wording hnone hinput]
    exact hresponse.symm
  · rw [hresponse, readQuery_blank hv hw hblank]
    rfl
  · have hi : response = _ := respond_args_padded i hv hw hquery hblank wording stdin
    have hj := respond_args_padded j hv hw hquery hblank wording stdin
    rw [hi, hj, i.answer_eq]
    cases Query.parse query with
    | ok q => exact ⟨Iff.rfl, iff_of_true rfl ⟨q, rfl⟩, i.rendering q, rfl, rfl⟩
    | error e =>
      refine ⟨Iff.rfl, iff_of_false Nat.one_ne_zero (by rintro ⟨q, ⟨⟩⟩),
        e.message wording.explain, ?_, rfl⟩
      exact ParseError.message_eq_iff_says.mp rfl

/-- White space is put around a query, and bytes that are no text come with the argument. -/
theorem respond_args_spaces :
    respond ⟨fun _ _ => "", fun _ => "", fun _ => ""⟩ ["compile", "-f=shell", " a>2\n"]
        (.piped ⟨#[255]⟩) =
        ⟨0, "\x7b a: \x7b $gt: 2 \x7d \x7d\n", ""⟩ ∧
      respond ⟨fun _ _ => "", fun _ => "", fun _ => ""⟩ ["compile", "-f=shell"]
        (.piped " a>2\n".toUTF8) =
        ⟨0, "\x7b a: \x7b $gt: 2 \x7d \x7d\n", ""⟩ := by
  have hbefore : Blank [' '] := by
    intro c hc
    rw [List.mem_singleton.mp hc]
    decide
  have hbehind : Blank ['\n'] := by
    intro c hc
    rw [List.mem_singleton.mp hc]
    decide
  have hblank : ¬Blank "a>2".toList := by
    intro h
    exact absurd (h 'a' List.mem_cons_self) (by decide)
  have hhead : "a>2".toList.head? ≠ some '-' := by decide
  have hparse : ∃ q, Query.parse "a>2" = .ok q :=
    ⟨.field "a" (.number ⟨false, 0x4000000000000000, by decide⟩) (some .gt), by decide +kernel⟩
  let shell : Invocation := ⟨.compile, [.format .equals .shell], [], by decide, by decide⟩
  let tree : Invocation := ⟨.parse, [], [], by decide, by decide⟩
  obtain ⟨hinput, -, -, -, hquery⟩ := respond_args shell tree hhead hbefore hbehind
    ⟨fun _ _ => "", fun _ => "", fun _ => ""⟩ (.piped ⟨#[255]⟩)
  obtain ⟨-, -, hresponse⟩ := hquery hblank
  obtain ⟨q, hq⟩ := hparse
  rw [hq] at hresponse
  obtain ⟨out, hanswer, hresponse⟩ := hresponse
  have hout : out = "\x7b a: \x7b $gt: 2 \x7d \x7d" := by
    have hshell : shell.answer "a>2" = .ok "\x7b a: \x7b $gt: 2 \x7d \x7d" := by decide +kernel
    rw [hshell] at hanswer
    exact (Except.ok.inj hanswer).symm
  rw [hout] at hresponse
  exact ⟨hresponse, hinput.trans hresponse⟩

example : respond ⟨fun _ _ => "group is not closed", fun _ => "", fun _ => ""⟩
    ["compile", "name:/(/"] .terminal =
      ⟨1, "", "Invalid query: invalid regular expression /(/: group is not closed\n"⟩ := by
  decide +kernel

end Command

end FilterQuery
