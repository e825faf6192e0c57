import FilterQuery.Proofs.Runs
import FilterQuery.Query.Basic

/-!
# The grammar of queries

The grammar says which texts are queries and which tree each of them has, without saying how a text
is read. Every rule is about a text in front of some further text `after`, which matters only where
a run of characters has to be a longest one. A group is closed by its parenthesis, so what comes
after it does not matter at all.
-/

namespace FilterQuery

/-- White space in all four gaps of an identifier literal. -/
structure ObjectIdLiteral.Spaced (l : ObjectIdLiteral) : Prop where
  afterBrace : Text.Blank l.afterBrace
  afterKey : Text.Blank l.afterKey
  afterColon : Text.Blank l.afterColon
  afterValue : Text.Blank l.afterValue

namespace Grammar

open Text Token

/-- A name: a longest run of name characters, after two dollar signs or none. -/
inductive Name : List Char → List Char → Prop where
  | plain {name after : List Char} : LongestRun isNameChar name after → Name name after
  | dollars {name after : List Char} :
      LongestRun isNameChar name after → Name ('$' :: '$' :: name) after

/-- `and` or `or`, in any mixture of upper and lower case. -/
def Keyword (word : List Char) (op : Connective) : Prop :=
  word.map Char.toLower = op.name.toList

/-- The comparators that can be written, and what each of them asks for. -/
def comparators : List (List Char × Option Comparator) :=
  [([':'], none), (['='], none), (['=', '='], none), (['>'], some .gt), (['<'], some .lt),
    (['>', '='], some .gte), (['<', '='], some .lte), (['!', '='], some .ne)]

/-- A comparator token, which may have one more colon in front. -/
def ComparatorToken (token : List Char) (comparator : Option Comparator) : Prop :=
  ∃ core, (core, comparator) ∈ comparators ∧ (token = core ∨ token = ':' :: core)

/-- The text between the slashes of a pattern: a backslash takes the next character with it. -/
inductive RegexBody : List Char → Prop where
  | nil : RegexBody []
  | escape {c : Char} {cs : List Char} : c ≠ '\n' → RegexBody cs → RegexBody ('\\' :: c :: cs)
  | char {c : Char} {cs : List Char} : c ≠ '/' → c ≠ '\\' → RegexBody cs → RegexBody (c :: cs)

/-- The text of a value. -/
inductive ValueText : Token.Value → List Char → List Char → Prop where
  | objectId {l : ObjectIdLiteral} {after : List Char} :
      l.Spaced → ValueText (.objectId l) l.text after
  | bare {cs after : List Char} : LongestRun isBareChar cs after → ValueText (.bare cs) cs after
  | quoted {quote : Char} {cs after : List Char} :
      quote = '"' ∨ quote = '\'' → quote ∉ cs →
      ValueText (.quoted quote cs) (quote :: cs ++ [quote]) after
  | regex {cs after : List Char} :
      RegexBody cs → ValueText (.regex cs false) ('/' :: cs ++ ['/']) after
  | regexIgnoreCase {cs after : List Char} :
      RegexBody cs → ValueText (.regex cs true) ('/' :: cs ++ ['/', 'i']) after

/-- What stands between a name and its value: nothing, or a comparator with white space. -/
inductive Link : List Char → Option Comparator → List Char → Prop where
  | direct {after : List Char} : Link [] none after
  | comparator {v w token after : List Char} {comparator : Option Comparator} :
      Blank v → LongestRun isComparatorChar token (w ++ after) →
      ComparatorToken token comparator → Blank w → Link (v ++ token ++ w) comparator after

/-- What a name is compared with. A name alone is to be true. The text of a value has to stand for
a literal: a pattern has to compile, and an identifier has to be readable. -/
inductive Comparand : List Char → Literal → Option Comparator → List Char → Prop where
  | absent {after : List Char} : Comparand [] (.boolean true) none after
  | present {link text w after : List Char} {comparator : Option Comparator} {v : Token.Value}
      {value : Literal} :
      Link link comparator (text ++ w ++ after) → ValueText v text (w ++ after) →
      v.literal = .ok value → Blank w → Comparand (link ++ text ++ w) value comparator after

/-- The tree of a comparison. The name of a variable has dollar signs, and a variable cannot be
compared with a pattern by a comparator. -/
inductive Leaf : List Char → Literal → Option Comparator → Query → Prop where
  | field {name : List Char} {value : Literal} {comparator : Option Comparator} :
      name.head? ≠ some '$' →
      Leaf name value comparator (.field (String.ofList name) value comparator)
  | variableMatch {name : List Char} {p : Pattern} :
      Leaf ('$' :: '$' :: name) (.regex p) none
        (.variableMatch (String.ofList ('$' :: '$' :: name)) p)
  | variableCompare {name : List Char} {value : Literal} {comparator : Option Comparator} :
      (∀ p, value ≠ .regex p) →
      Leaf ('$' :: '$' :: name) value comparator
        (.variableCompare (String.ofList ('$' :: '$' :: name)) value comparator)

inductive Symbol where
  | group
  | part
  | chain
deriving DecidableEq

/-- `Derives s cs q after`: the text `cs`, in front of `after`, is an `s` with the tree `q`. -/
inductive Derives : Symbol → List Char → Query → List Char → Prop where
  | group {v cs w after : List Char} {q : Query} :
      Blank v → Derives .chain cs q (w ++ ')' :: after) → Blank w →
      Derives .group ('(' :: v ++ cs ++ w ++ [')']) q after
  | comparison {name cs after : List Char} {value : Literal} {comparator : Option Comparator}
      {q : Query} :
      Name name (cs ++ after) → Comparand cs value comparator after →
      Leaf name value comparator q → Derives .part (name ++ cs) q after
  | nested {cs after : List Char} {q : Query} :
      Derives .group cs q after → Derives .part cs q after
  | single {cs after : List Char} {q : Query} :
      Derives .part cs q after → Derives .chain cs q after
  | join {cs v word w ds after : List Char} {op : Connective} {left right : Query} :
      Derives .part cs left (v ++ word ++ w ++ ds ++ after) → Blank v → Keyword word op →
      (∀ c ∈ (w ++ ds ++ after).head?, Unicode.isWord c = false) → Blank w →
      Derives .chain ds right after →
      Derives .chain (cs ++ v ++ word ++ w ++ ds) (.join op left right) after

/-- The whole of a text is a query in parentheses. -/
def IsGroup (cs : List Char) (q : Query) : Prop :=
  Derives .group cs q []

end Grammar

end FilterQuery
