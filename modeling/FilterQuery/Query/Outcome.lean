import FilterQuery.Query.Basic
import FilterQuery.Query.TokenSuffix

/-!
# Outcomes of reading

A reader makes a query or an error of a text, and leaves a suffix of it. The equations of `toPair`
say what each operation on outcomes does, without the proofs that an outcome carries.
-/

namespace FilterQuery

/-- What a reader makes of a text: a query or an error, and what it leaves. -/
structure Outcome (cs : List Char) where
  result : Except ParseError Query
  rest : List Char
  rest_suffix : rest <:+ cs

namespace Outcome

variable {cs : List Char}

/-- The outcome in front of `rest`, where a fault is noticed. -/
def settle (result : Except Fault Query) (rest : List Char) (h : rest <:+ cs) : Outcome cs :=
  ⟨result.mapError (.ofFault rest), rest, h⟩

/-- The outcome on a suffix, as one on the whole text. -/
def extend {ds : List Char} (o : Outcome ds) (h : ds <:+ cs) : Outcome cs :=
  ⟨o.result, o.rest, o.rest_suffix.trans h⟩

def map (f : Query → Query) (o : Outcome cs) : Outcome cs :=
  ⟨o.result.map f, o.rest, o.rest_suffix⟩

/-- Demands a closing parenthesis after a query. -/
def close (o : Outcome cs) : Outcome cs :=
  match o.result with
  | .error _ => o
  | .ok q =>
    have hs := (Text.trimStart_suffix o.rest).trans o.rest_suffix
    match h : Text.trimStart o.rest with
    | ')' :: rest => ⟨.ok q, rest, (List.suffix_cons ')' rest).trans (h ▸ hs)⟩
    | rest => settle (.error .missingClose) rest (h ▸ hs)

/-- The way on after the first part of a chain. -/
structure Continuation (cs : List Char) where
  left : Query
  op : Connective
  rest : List Char
  rest_suffix : rest <:+ cs
  rest_shorter : rest.length < cs.length

/-- Goes on if a connective comes after a query. -/
def continue? (o : Outcome cs) : Option (Continuation cs) :=
  match o.result, h : Token.keyword? o.rest with
  | .ok left, some (op, rest) =>
    have hk := Token.suffix_of_keyword? h
    some ⟨left, op, rest, hk.1.trans o.rest_suffix,
      Nat.lt_of_lt_of_le hk.2 o.rest_suffix.length_le⟩
  | _, _ => none

/-- The outcome without the proof about the rest. -/
def toPair (o : Outcome cs) : Except ParseError Query × List Char :=
  (o.result, o.rest)

@[simp] theorem toPair_extend {ds : List Char} (o : Outcome ds) (h : ds <:+ cs) :
    (o.extend h).toPair = o.toPair := rfl

@[simp] theorem toPair_settle (result : Except Fault Query) (rest : List Char) (h : rest <:+ cs) :
    (settle result rest h).toPair = (result.mapError (.ofFault rest), rest) := rfl

@[simp] theorem toPair_map (f : Query → Query) (o : Outcome cs) :
    (o.map f).toPair = (o.toPair.1.map f, o.toPair.2) := rfl

theorem toPair_close (o : Outcome cs) :
    o.close.toPair =
      match o.toPair with
      | (.error e, rest) => (.error e, rest)
      | (.ok q, rest) =>
        match Text.trimStart rest with
        | ')' :: rest => (.ok q, rest)
        | rest => (.error (.ofFault rest .missingClose), rest) := by
  obtain ⟨result, rest, h⟩ := o
  cases result with
  | error e => rfl
  | ok q =>
    simp only [close, toPair]
    split
    · rename_i hc
      simp [hc]
    · rename_i hc
      split
      · rename_i hd
        exact absurd hd (hc _)
      · rfl

theorem continue?_eq_none_of_error {o : Outcome cs} {e : ParseError} (h : o.result = .error e) :
    o.continue? = none := by
  unfold continue?
  split
  · simp_all
  · rfl

theorem continue?_eq_none_of_keyword? {o : Outcome cs} (h : Token.keyword? o.rest = none) :
    o.continue? = none := by
  unfold continue?
  split
  · simp_all
  · rfl

theorem continue?_eq_some {o : Outcome cs} {left : Query} {op : Connective} {rest : List Char}
    (hr : o.result = .ok left) (hk : Token.keyword? o.rest = some (op, rest)) :
    ∃ hs hl, o.continue? = some ⟨left, op, rest, hs, hl⟩ := by
  have h := Token.suffix_of_keyword? hk
  refine ⟨h.1.trans o.rest_suffix, Nat.lt_of_lt_of_le h.2 o.rest_suffix.length_le, ?_⟩
  unfold continue?
  split
  · simp_all
  · rename_i hn
    exact absurd hk (hn left op rest hr)

end Outcome

end FilterQuery
