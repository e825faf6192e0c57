import FilterQuery.Query.ParseError
import Mathlib.Tactic.Lemma

/-!
# Messages of errors

`ParseError.Says` lists the texts that report errors, one for each kind of them. The message of an
error is the one text that the list has for it.
-/

namespace FilterQuery

namespace ParseError

/-- `Says explain e text`: the error is reported by the text, in which `explain` has the words for a
source that is no regular expression. -/
inductive Says (explain : String → Bool → String) : ParseError → String → Prop where
  | missingOpen {near : String} :
      Says explain (.grammar .missingOpen near) ("missing opening '(' near `" ++ near ++ "`")
  | missingClose {near : String} :
      Says explain (.grammar .missingClose near) ("missing closing ')' near `" ++ near ++ "`")
  | unexpectedInput {near : String} :
      Says explain (.grammar .unexpectedInput near)
        ("unexpected input after expression near `" ++ near ++ "`")
  | unknownComparator {token near : String} :
      Says explain (.grammar (.unknownComparator token) near)
        ("unknown comparator `" ++ token ++ "` near `" ++ near ++ "`")
  | regexComparison {c : Comparator} {name input near : String} :
      (c, name) ∈ [(.gt, "gt"), (.lt, "lt"), (.gte, "gte"), (.lte, "lte"), (.ne, "ne")] →
      Says explain (.grammar (.regexComparison c input) near)
        ("comparator `" ++ name ++ "` cannot be used with a regular expression on " ++ input ++
          " near `" ++ near ++ "`")
  | invalidPattern {source : String} {ignoreCase : Bool} :
      Says explain (.invalidPattern source ignoreCase)
        ("invalid regular expression /" ++ source ++ "/: " ++ explain source ignoreCase)
  | invalidObjectId {literal reason : String} {expected : Expected} {place : Place} :
      (expected, reason) ∈ [(.key, "key must be a string"), (.colon, "expected `:`"),
        (.value, "expected value"), (.close, "expected `,` or `\x7d`")] →
      Says explain (.invalidObjectId literal expected place)
        ("invalid object id literal `" ++ literal ++ "`: " ++ (reason ++ " at line " ++
          toString place.line ++ " column " ++ toString place.column))

lemma append_append_of_eq {a b c d : String} (h : b ++ c = d) : a ++ b ++ c = a ++ d := by
  rw [String.append_assoc, h]

lemma locate_of_eq {message near text : String} (h : message ++ " near `" = text) :
    locate message near = text ++ near ++ "`" := by
  rw [locate, h]

lemma reason_eq (expected : Expected) (place : Place) :
    reason expected place = expected.message ++ " at line " ++ toString place.line ++ " column " ++
      toString place.column := by
  have hline (n : Nat) : String.ofList (Text.digits n) = toString n := rfl
  rw [reason, Place.message, hline, hline, ← String.append_assoc, ← String.append_assoc,
    ← String.append_assoc, append_append_of_eq (by decide : " at " ++ "line " = " at line ")]

variable {explain : String → Bool → String} {e : ParseError} {text : String}

lemma Says.message_eq (h : Says explain e text) : e.message explain = text := by
  cases h with
  | missingOpen => exact locate_of_eq (by decide)
  | missingClose => exact locate_of_eq (by decide)
  | unexpectedInput => exact locate_of_eq (by decide)
  | @unknownComparator token near =>
    have hnear : "unknown comparator `" ++ token ++ "`" ++ " near `" =
        "unknown comparator `" ++ token ++ "` near `" :=
      append_append_of_eq (by decide)
    exact locate_of_eq hnear
  | regexComparison h =>
    simp only [List.mem_cons, Prod.mk.injEq, List.not_mem_nil, or_false] at h
    obtain ⟨rfl, rfl⟩ | ⟨rfl, rfl⟩ | ⟨rfl, rfl⟩ | ⟨rfl, rfl⟩ | ⟨rfl, rfl⟩ := h <;> rfl
  | invalidPattern => rfl
  | @invalidObjectId literal name expected place h =>
    have hreason : reason expected place =
        name ++ " at line " ++ toString place.line ++ " column " ++ toString place.column := by
      rw [reason_eq]
      simp only [List.mem_cons, Prod.mk.injEq, List.not_mem_nil, or_false] at h
      obtain ⟨rfl, rfl⟩ | ⟨rfl, rfl⟩ | ⟨rfl, rfl⟩ | ⟨rfl, rfl⟩ := h <;> rfl
    exact congrArg ("invalid object id literal `" ++ literal ++ "`: " ++ ·) hreason

lemma exists_says (explain : String → Bool → String) (e : ParseError) :
    ∃ text, Says explain e text := by
  cases e with
  | grammar fault near =>
    cases fault with
    | missingOpen => exact ⟨_, .missingOpen⟩
    | missingClose => exact ⟨_, .missingClose⟩
    | unexpectedInput => exact ⟨_, .unexpectedInput⟩
    | unknownComparator token => exact ⟨_, .unknownComparator⟩
    | regexComparison c input =>
      have hname : (c, c.name) ∈ [(.gt, "gt"), (.lt, "lt"), (.gte, "gte"), (.lte, "lte"),
          (.ne, "ne")] := by
        cases c <;> decide
      exact ⟨_, .regexComparison hname⟩
  | invalidPattern source ignoreCase => exact ⟨_, .invalidPattern⟩
  | invalidObjectId literal expected place =>
    have hreason : (expected, expected.message) ∈ [(.key, "key must be a string"),
        (.colon, "expected `:`"), (.value, "expected value"),
        (.close, "expected `,` or `\x7d`")] := by
      cases expected <;> decide
    exact ⟨_, .invalidObjectId hreason⟩

/-- Every error is reported by its message and by no other text. -/
theorem message_eq_iff_says : e.message explain = text ↔ Says explain e text := by
  constructor
  · rintro rfl
    obtain ⟨text, h⟩ := exists_says explain e
    rwa [h.message_eq]
  · exact Says.message_eq

end ParseError

end FilterQuery
