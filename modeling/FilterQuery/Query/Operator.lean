/-!
# Operators of queries
-/

namespace FilterQuery

/-- What joins two queries. -/
inductive Connective where
  | and
  | or
deriving DecidableEq

namespace Connective

def name : Connective → String
  | and => "and"
  | or => "or"

/-- The key under which a document holds the joined parts. -/
def key : Connective → String
  | and => "$and"
  | or => "$or"

/-- A keyword in any mixture of upper and lower case. -/
def ofKeyword? (cs : List Char) : Option Connective :=
  match cs.map Char.toLower with
  | ['a', 'n', 'd'] => some and
  | ['o', 'r'] => some or
  | _ => none

end Connective

/-- How a field is compared with a value, other than for equality. -/
inductive Comparator where
  | gt
  | lt
  | gte
  | lte
  | ne
deriving DecidableEq

namespace Comparator

def name : Comparator → String
  | gt => "gt"
  | lt => "lt"
  | gte => "gte"
  | lte => "lte"
  | ne => "ne"

def key : Comparator → String
  | gt => "$gt"
  | lt => "$lt"
  | gte => "$gte"
  | lte => "$lte"
  | ne => "$ne"

/-- The comparator that a token stands for; the tokens of equality stand for none. -/
def ofToken? : List Char → Option Comparator
  | ['>'] => some gt
  | ['<'] => some lt
  | ['>', '='] => some gte
  | ['<', '='] => some lte
  | ['!', '='] => some ne
  | _ => none

end Comparator

/-- The key of a comparison whose operands stand in a list, where equality has a key too. -/
def comparisonKey : Option Comparator → String
  | none => "$eq"
  | some c => c.key

end FilterQuery
