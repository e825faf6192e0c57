import FilterQuery.Json.Basic
import FilterQuery.Proofs.IdentifierDigits

/-!
# Decoding identifier literals in stages

The text of an identifier literal can be decoded by any reader of JSON: the text is read, the member
`$oid` of the object is looked up, and its string is read as an identifier. Only the first of the
three stages can refuse a literal that a query holds, and it refuses just the literals that are not
decoded at once.
-/

namespace FilterQuery

open Text

namespace Json

def member? (key : String) : Json → Option Json
  | object members => members.lookup key
  | _ => none

def asString? : Json → Option String
  | string s => some s
  | _ => none

/-- A character that stands for itself in a string of JSON. -/
def isPlainChar (c : Char) : Bool :=
  0x20 ≤ c.toNat && c != '"' && c != '\\'

lemma gap_takeWhile (cs : List Char) : Gap (cs.takeWhile ObjectIdLiteral.isJsonSpace) :=
  fun _ hc => ObjectIdLiteral.isJsonSpace_iff.mp (List.mem_takeWhile_imp hc)

/-- An object with one member, a string, and with white space around its parts. -/
structure OneMember where
  afterBrace : List Char
  key : List Char
  afterKey : List Char
  afterColon : List Char
  value : List Char
  afterValue : List Char
  gap_afterBrace : Gap afterBrace
  plain_key : ∀ c ∈ key, isPlainChar c = true
  gap_afterKey : Gap afterKey
  gap_afterColon : Gap afterColon
  plain_value : ∀ c ∈ value, isPlainChar c = true
  gap_afterValue : Gap afterValue

namespace OneMember

def text (o : OneMember) : List Char :=
  '\x7b' :: o.afterBrace ++ '"' :: o.key ++ '"' :: o.afterKey ++ ':' :: o.afterColon ++
    '"' :: o.value ++ '"' :: o.afterValue ++ ['\x7d']

def json (o : OneMember) : Json :=
  .object [(String.ofList o.key, .string (String.ofList o.value))]

/-- Takes an object with one member apart. -/
def read? (cs : List Char) : Option OneMember := do
  let afterBrace ← ObjectIdLiteral.after '\x7b' cs
  let key ← ObjectIdLiteral.after '"' (afterBrace.dropWhile ObjectIdLiteral.isJsonSpace)
  let afterKey ← ObjectIdLiteral.after '"' (key.dropWhile isPlainChar)
  let afterColon ← ObjectIdLiteral.after ':' (afterKey.dropWhile ObjectIdLiteral.isJsonSpace)
  let value ← ObjectIdLiteral.after '"' (afterColon.dropWhile ObjectIdLiteral.isJsonSpace)
  let afterValue ← ObjectIdLiteral.after '"' (value.dropWhile isPlainChar)
  let rest ← ObjectIdLiteral.after '\x7d' (afterValue.dropWhile ObjectIdLiteral.isJsonSpace)
  if rest = [] then
    some {
      afterBrace := afterBrace.takeWhile ObjectIdLiteral.isJsonSpace
      key := key.takeWhile isPlainChar
      afterKey := afterKey.takeWhile ObjectIdLiteral.isJsonSpace
      afterColon := afterColon.takeWhile ObjectIdLiteral.isJsonSpace
      value := value.takeWhile isPlainChar
      afterValue := afterValue.takeWhile ObjectIdLiteral.isJsonSpace
      gap_afterBrace := gap_takeWhile afterBrace
      plain_key := fun _ hc => List.mem_takeWhile_imp hc
      gap_afterKey := gap_takeWhile afterKey
      gap_afterColon := gap_takeWhile afterColon
      plain_value := fun _ hc => List.mem_takeWhile_imp hc
      gap_afterValue := gap_takeWhile afterValue }
  else none

lemma read?_text (o : OneMember) : read? o.text = some o := by
  have hgap {w tail : List Char} {c : Char} (hw : Gap w)
      (hc : ObjectIdLiteral.isJsonSpace c = false) :
      run ObjectIdLiteral.isJsonSpace (w ++ c :: tail) = (w, c :: tail) :=
    run_append (fun d hd => ObjectIdLiteral.isJsonSpace_iff.mpr (hw d hd)) (by rintro d ⟨⟩; exact hc)
  have hplain {cs tail : List Char} (hcs : ∀ c ∈ cs, isPlainChar c = true) :
      run isPlainChar (cs ++ '"' :: tail) = (cs, '"' :: tail) :=
    run_append hcs (by rintro d ⟨⟩; rfl)
  simp only [run, Prod.mk.injEq] at hgap hplain
  have hquote : ObjectIdLiteral.isJsonSpace '"' = false := rfl
  have hcolon : ObjectIdLiteral.isJsonSpace ':' = false := rfl
  have hbrace : ObjectIdLiteral.isJsonSpace '\x7d' = false := rfl
  simp only [text, read?, List.cons_append, List.append_assoc, ObjectIdLiteral.after, if_true,
    Option.bind_eq_bind, Option.bind_some,
    hgap o.gap_afterBrace hquote, hplain o.plain_key, hgap o.gap_afterKey hcolon,
    hgap o.gap_afterColon hquote, hplain o.plain_value, hgap o.gap_afterValue hbrace]

lemma text_of_read? {cs : List Char} {o : OneMember} (h : read? cs = some o) : cs = o.text := by
  simp only [read?, Option.bind_eq_bind, Option.bind_eq_some_iff] at h
  obtain ⟨c₁, h₁, c₂, h₂, c₃, h₃, c₄, h₄, c₅, h₅, c₆, h₆, c₇, h₇, h⟩ := h
  split at h
  · rename_i hnil
    obtain rfl := Option.some.inj h
    have hsplit {p : Char → Bool} {c : Char} {ds tail : List Char}
        (hc : ObjectIdLiteral.after c (ds.dropWhile p) = some tail) :
        ds = ds.takeWhile p ++ c :: tail := by
      rw [← ObjectIdLiteral.after_eq_some hc, List.takeWhile_append_dropWhile]
    have e₆ := hsplit h₇
    rw [hnil] at e₆
    rw [ObjectIdLiteral.after_eq_some h₁]
    simp only [text, List.cons_append, List.append_assoc, List.cons.injEq, true_and]
    rw [← e₆, ← hsplit h₆, ← hsplit h₅, ← hsplit h₄, ← hsplit h₃, ← hsplit h₂]
  · cases h

lemma isText_text (o : OneMember) : IsText o.text := by
  have hbody {cs : List Char} (h : ∀ c ∈ cs, isPlainChar c = true) : StringBody cs := by
    induction cs with
    | nil => exact .nil
    | cons c cs ih =>
      obtain ⟨hc, hcs⟩ := List.forall_mem_cons.mp h
      simp only [isPlainChar, Bool.and_eq_true, decide_eq_true_eq, bne_iff_ne] at hc
      exact .char hc.1.1 hc.1.2 hc.2 (ih hcs)
  have hmembers := Derives.member o.gap_afterBrace (hbody o.plain_key) o.gap_afterKey
    o.gap_afterColon (.string (hbody o.plain_value)) o.gap_afterValue
  refine ⟨[], o.text, [], List.forall_mem_nil _, ?_, List.forall_mem_nil _, by simp⟩
  have hobject := Derives.object hmembers
  simpa [text] using hobject

end OneMember

/-- A reader of JSON, as far as it is relied on: it reads an object with one member, and it refuses
what is no text of JSON. -/
structure Reader where
  read : List Char → Except String Json
  read_oneMember : ∀ o : OneMember, read o.text = .ok o.json
  refuses : ∀ cs, ¬IsText cs → ∃ reason, read cs = .error reason

/-- The reader that reads objects with one member and nothing else. -/
def Reader.oneMembers : Reader where
  read cs :=
    match OneMember.read? cs with
    | some o => .ok o.json
    | none => .error "expected value"
  read_oneMember o := by rw [o.read?_text]
  refuses cs h := by
    cases ho : OneMember.read? cs with
    | some o =>
      rw [OneMember.text_of_read? ho] at h
      exact absurd o.isText_text h
    | none => exact ⟨_, rfl⟩

end Json

namespace ObjectId

/-- Why a literal is not decoded. -/
inductive DecodeError where
  | json (reason : String)
  | missing
  | identifier (error : Error)

def DecodeError.message : DecodeError → String
  | json reason => reason
  | missing => "missing string `$oid`"
  | identifier error => error.message

/-- Decodes the text of a literal in three stages. -/
def decodeBy (reader : Json.Reader) (cs : List Char) : Except DecodeError ObjectId :=
  match reader.read cs with
  | .error reason => .error (.json reason)
  | .ok json =>
    match (json.member? "$oid").bind Json.asString? with
    | none => .error .missing
    | some hex => (ofHex hex.toList).mapError .identifier

end ObjectId

namespace ObjectIdLiteral

variable {l : ObjectIdLiteral}

/-- The object of a literal whose white space is white space of JSON. -/
def oneMember (l : ObjectIdLiteral) (h : l.Plain) : Json.OneMember where
  afterBrace := l.afterBrace
  key := ['$', 'o', 'i', 'd']
  afterKey := l.afterKey
  afterColon := l.afterColon
  value := l.digits
  afterValue := l.afterValue
  gap_afterBrace := h.afterBrace
  plain_key := List.all_eq_true.mp rfl
  gap_afterKey := h.afterKey
  gap_afterColon := h.afterColon
  plain_value c hc :=
    ObjectId.of_isHexDigit (P := fun c => Json.isPlainChar c = true)
      (List.all_eq_true.mp l.digits_hex c hc) (by decide)
  gap_afterValue := h.afterValue

lemma text_oneMember (h : l.Plain) : (l.oneMember h).text = l.text := by
  simp [Json.OneMember.text, oneMember, text, keyText]

/-- A literal is decoded, or it is refused since it is no text of JSON. -/
lemma plain_or_decode_eq_error (hl : l.Spaced) :
    l.Plain ∨ ¬Json.IsText l.text ∧ ∃ expected place,
      l.decode = .error (.invalidObjectId (String.ofList l.text) expected place) := by
  by_cases hplain : l.Plain
  · exact .inl hplain
  · right
    refine ⟨mt (plain_iff_isText hl).mpr hplain, ?_⟩
    cases hstray : firstStray [] l.gaps with
    | none =>
      have hok : l.decode = .ok (ObjectId.ofDigits l.digits l.digits_length) := by
        rw [decode, hstray]
      exact absurd ((exists_decode_iff_plain hl).mp ⟨_, hok⟩) hplain
    | some stray => exact ⟨stray.1, stray.2, by rw [decode, hstray]⟩

/-- A literal is decoded in stages as it is decoded at once, or else it is the reader of JSON that
refuses it. -/
theorem decodeBy_text (reader : Json.Reader) (hl : l.Spaced) :
    (∃ id, ObjectId.decodeBy reader l.text = .ok id ∧ l.decode = .ok id) ∨
      ∃ reason expected place, ObjectId.decodeBy reader l.text = .error (.json reason) ∧
        l.decode = .error (.invalidObjectId (String.ofList l.text) expected place) := by
  obtain hplain | ⟨hno, expected, place, herror⟩ := plain_or_decode_eq_error hl
  · left
    have hread := reader.read_oneMember (l.oneMember hplain)
    rw [text_oneMember] at hread
    have hhex : ObjectId.ofHex l.digits = .ok (ObjectId.ofDigits l.digits l.digits_length) :=
      ObjectId.ofHex_eq_ok_iff.mpr ⟨List.all_eq_true.mp l.digits_hex, l.digits_length, rfl⟩
    have hmember : ((l.oneMember hplain).json.member? "$oid").bind Json.asString? =
        some (String.ofList l.digits) := rfl
    refine ⟨_, ?_, decode_of_plain hplain⟩
    simp only [ObjectId.decodeBy, hread, hmember, String.toList_ofList, hhex]
    rfl
  · right
    obtain ⟨reason, hreason⟩ := reader.refuses l.text hno
    exact ⟨reason, expected, place, by rw [ObjectId.decodeBy, hreason], herror⟩

end ObjectIdLiteral

end FilterQuery
