import FilterQuery.Pattern.Escape
import FilterQuery.Text.Digits
import FilterQuery.Unicode.Alphanumeric

/-!
# Reading patterns

A pattern is alternatives of sequences of pieces, and a piece is an atom with an optional
quantifier. What does not follow the rules is no pattern, and reading it gives nothing.
-/

namespace FilterQuery.Pattern

/-- The modes that letters behind `(?` switch on and off. -/
structure Modes where
  ignoreCase : Bool
  multiLine : Bool
  dotAll : Bool
  spaced : Bool
  swapGreed : Bool

def Modes.none : Modes := ⟨false, false, false, false, false⟩

/-- What reading carries along: the modes, how many groups were opened and how many repetitions
there are so far, the names of groups, and whether groups have been referred to by number. -/
structure Reading where
  modes : Modes
  groups : Nat
  loops : Nat
  names : List (List Char × Nat)
  byNumber : Bool

/-- What a reader makes of a text: an expression, the state after it, and the rest. -/
abbrev ReadResult := Option (Expr × Reading × List Char)

/-- Where the text between two pieces is. -/
inductive Gap where
  | outside
  | lineComment
  | groupComment

/-- Skips comments in groups, and in the spaced mode blanks and comments up to the end of a line. -/
def skipFrom (spaced : Bool) : Gap → List Char → Option (List Char)
  | .outside, '(' :: '?' :: '#' :: rest => skipFrom spaced .groupComment rest
  | .outside, c :: rest =>
    if spaced && [' ', '\t', '\n', '\r'].contains c then skipFrom spaced .outside rest
    else if spaced && c == '#' then skipFrom spaced .lineComment rest
    else some (c :: rest)
  | .lineComment, c :: rest => skipFrom spaced (if c = '\n' then .outside else .lineComment) rest
  | .groupComment, '\\' :: _ :: rest => skipFrom spaced .groupComment rest
  | .groupComment, c :: rest => skipFrom spaced (if c = ')' then .outside else .groupComment) rest
  | .groupComment, [] => none
  | _, [] => some []

def Modes.skip (m : Modes) (cs : List Char) : Option (List Char) :=
  skipFrom m.spaced .outside cs

/-! ### Quantifiers -/

/-- The greatest number that is read; as an upper bound it stands for no bound. -/
def maxNumber : Nat := 0xFFFFFFFFFFFFFFFF

def readNumber (cs : List Char) : Option (Nat × List Char) :=
  match Text.run Char.isDigit cs with
  | ([], _) => none
  | (ds, rest) =>
    let n := Text.digitsValue ds
    if n ≤ maxNumber then some (n, rest) else none

def upperBound (n : Nat) : Option Nat :=
  if n = maxNumber then none else some n

/-- The bounds of a counted repetition, read after its brace. -/
def readBounds (m : Modes) (cs : List Char) : Option (Nat × Option Nat × List Char) := do
  let (least, cs) ← readNumber (← m.skip cs)
  match ← m.skip cs with
  | '\x7d' :: rest => some (least, upperBound least, rest)
  | ',' :: rest =>
    let rest ← m.skip rest
    let (most, rest) := match readNumber rest with
      | some (n, rest) => (upperBound n, rest)
      | none => (none, rest)
    match ← m.skip rest with
    | '\x7d' :: rest => some (least, most, rest)
    | _ => none
  | _ => none

/-- A quantifier at the head of a text: its bounds and the rest. A brace that starts no quantifier
stands for itself. -/
def readQuantifier (m : Modes) : List Char → Option (Nat × Option Nat × List Char)
  | '?' :: rest => some (0, some 1, rest)
  | '*' :: rest => some (0, none, rest)
  | '+' :: rest => some (1, none, rest)
  | '\x7b' :: rest => readBounds m rest
  | _ => none

/-- A question mark makes a quantifier lazy, a plus sign after it makes it final. -/
def quantify (st : Reading) (e : Expr) (least : Nat) (most : Option Nat) (cs : List Char) :
    ReadResult := do
  if !e.isRepeatable then none
  let (lazy, cs) := match ← st.modes.skip cs with
    | '?' :: rest => (true, rest)
    | rest => (false, rest)
  let e := Expr.repeated st.loops e least most (lazy == st.modes.swapGreed)
  let st := { st with loops := st.loops + 1 }
  match cs with
  | '+' :: rest => some (.atomic e, st, rest)
  | _ => some (e, st, cs)

/-! ### References -/

/-- A reference by number. It has to be to a group that was opened, and to one that a pattern of
`size` bytes can hold. -/
def readReference (size : Nat) (st : Reading) (cs : List Char) : ReadResult := do
  let (n, rest) ← readNumber cs
  if n < size / 2 ∧ n ≤ st.groups then some (.back n, { st with byNumber := true }, rest) else none

def isNameChar (c : Char) : Bool :=
  c == '_' || Unicode.isAlphanumeric c

def readName (close : Char) (cs : List Char) : Option (List Char × List Char) :=
  match Text.run isNameChar cs with
  | ([], _) => none
  | (name, c :: rest) => if c = close then some (name, rest) else none
  | (_, []) => none

/-- The group of a name: one that was named before, or a number. -/
def groupOfName? (st : Reading) (name : List Char) : Option Nat :=
  match st.names.lookup name with
  | some n => some n
  | none =>
    match readNumber name with
    | some (n, []) => if n ≤ st.groups then some n else none
    | _ => none

/-- The group that is `n` groups back from here. -/
def groupBack? (st : Reading) (n : Nat) : Option Nat :=
  if n = 0 then some 0 else if n ≤ st.groups + 1 then some (st.groups + 1 - n) else none

/-- A reference by name, after the mark that opens the name. With a minus sign a number counts back
from here. -/
def readNamedReference (st : Reading) (close : Char) (relative : Bool) (cs : List Char) :
    ReadResult := do
  match relative, cs with
  | true, '-' :: rest =>
    let (name, rest) ← readName close rest
    match readNumber name with
    | some (n, []) => some (.back (← groupBack? st n), st, rest)
    | _ => none
  | _, _ =>
    let (name, rest) ← readName close cs
    some (.back (← groupOfName? st name), st, rest)

/-! ### Atoms -/

/-- An escape outside of classes, after its backslash. -/
def readEscapedAtom (size : Nat) (st : Reading) : List Char → ReadResult
  | [] => none
  | c :: rest =>
    let expr (e : Expr) : ReadResult := some (e, st, rest)
    let word (k : WordEdge) : ReadResult := expr (.assertion (.word k false))
    if c.isDigit then readReference size st (c :: rest)
    else
      match c with
      | 'k' =>
        match rest with
        | '<' :: rest => readNamedReference st '>' true rest
        | '\'' :: rest => readNamedReference st '\'' true rest
        | _ => none
      | 'A' => expr (.assertion .textStart)
      | 'z' => expr (.assertion .textEnd)
      | 'b' => if rest.head? = some '\x7b' then none else word .edge
      | 'B' => if rest.head? = some '\x7b' then none else word .noEdge
      | '<' => word .start
      | '>' => word .stop
      | 'G' => expr .searchStart
      | 'K' => expr .keepOut
      | _ => (readEscape st.modes.ignoreCase (c :: rest)).map fun (e, rest) => (e, st, rest)

/-- The smallest readable part. Nothing is taken where a sequence ends or a quantifier stands. -/
def readAtom (size : Nat) (group : Reading → List Char → ReadResult) (st : Reading)
    (cs : List Char) : ReadResult := do
  match ← st.modes.skip cs with
  | [] => some (.empty, st, [])
  | c :: rest =>
    match c with
    | '.' => some (.any st.modes.dotAll, st, rest)
    | '^' =>
      some (.assertion (if st.modes.multiLine then .lineStart false else .textStart), st, rest)
    | '$' => some (.assertion (if st.modes.multiLine then .lineEnd false else .textEnd), st, rest)
    | '(' => group st rest
    | '\\' => readEscapedAtom size st rest
    | '+' | '*' | '?' | '|' | ')' => some (.empty, st, c :: rest)
    | '[' => (readClass st.modes.ignoreCase rest).map fun (e, rest) => (e, st, rest)
    | _ => some (.literal c st.modes.ignoreCase, st, rest)

/-- An atom and its quantifier. -/
def readPiece (size : Nat) (group : Reading → List Char → ReadResult) (st : Reading)
    (cs : List Char) : ReadResult := do
  let (e, st, rest) ← readAtom size group st cs
  let rest ← st.modes.skip rest
  match readQuantifier st.modes rest with
  | none => some (e, st, rest)
  | some (least, most, rest) => quantify st e least most rest

/-! ### Sequences and alternatives -/

/-- Pieces up to a bar, a closing parenthesis or the end. Those that stand for nothing are left
out. -/
def readItems (size : Nat) (group : Reading → List Char → ReadResult) :
    Nat → Reading → List Char → Option (List Expr × Reading × List Char)
  | 0, _, _ => none
  | _ + 1, st, [] => some ([], st, [])
  | fuel + 1, st, c :: rest =>
    if c = '|' ∨ c = ')' then some ([], st, c :: rest)
    else do
      let (e, st, rest) ← readPiece size group st (c :: rest)
      let (es, st, rest) ← readItems size group fuel st rest
      some (if e.isEmpty then es else e :: es, st, rest)

/-- Sequences between bars. References by number and named groups exclude each other; this is
checked where there is no bar. -/
def readBranches (size : Nat) (group : Reading → List Char → ReadResult) :
    Nat → Bool → Reading → List Char → Option (List Expr × Reading × List Char)
  | 0, _, _, _ => none
  | fuel + 1, alone, st, cs => do
    let (es, st, rest) ← readItems size group (cs.length + 1) st cs
    let e := Expr.ofItems es
    match ← st.modes.skip rest with
    | '|' :: rest =>
      let (others, st, rest) ← readBranches size group fuel false st rest
      some (e :: others, st, rest)
    | rest => if alone && st.byNumber && !st.names.isEmpty then none else some ([e], st, rest)

/-! ### Groups -/

/-- The letters between `(?` and the mark that ends them: the modes and whether a group follows.
What was taken so far is given by the number of characters and by whether a minus sign was among
them. -/
def readModes : Nat → Nat → Bool → Modes → List Char → Option (Modes × Bool × List Char)
  | 0, _, _, _, _ => none
  | fuel + 1, taken, off, m, cs => do
    let on := !off
    let rest ← m.skip cs
    let taken := taken + (cs.length - rest.length)
    let switch (m : Modes) (rest : List Char) := readModes fuel (taken + 1) off m rest
    match rest with
    | [] => none
    | c :: rest =>
      match c with
      | 'i' => switch { m with ignoreCase := on } rest
      | 'm' => switch { m with multiLine := on } rest
      | 's' => switch { m with dotAll := on } rest
      | 'U' => switch { m with swapGreed := on } rest
      | 'x' => switch { m with spaced := on } rest
      | 'u' => if off then none else switch m rest
      | '-' => if off then none else readModes fuel (taken + 1) true m rest
      | ')' => if taken = 0 ∨ (off ∧ taken = 1) then none else some (m, false, rest)
      | ':' => if off ∧ taken = 1 then none else some (m, true, rest)
      | _ => none

/-- The body of a group and its closing parenthesis. -/
def readBody (expr : Reading → List Char → ReadResult) (build : Expr → Expr) (st : Reading)
    (cs : List Char) : ReadResult := do
  match ← expr st cs with
  | (e, st, ')' :: rest) => some (build e, st, rest)
  | _ => none

/-- A group that keeps its text under the next number, and under a name if it has one. -/
def readCapture (expr : Reading → List Char → ReadResult) (name : Option (List Char)) (st : Reading)
    (cs : List Char) : ReadResult :=
  let n := st.groups + 1
  let names := match name with
    | some s => (s, n) :: st.names
    | none => st.names
  readBody expr (.group n) { st with groups := n, names } cs

/-- What follows a closing parenthesis. -/
def closeGroup (st : Reading) (cs : List Char) : Option (List Char) := do
  match ← st.modes.skip cs with
  | ')' :: rest => some rest
  | _ => none

/-- The condition of a choice: the number or the name of a group, or any expression. A reference as
the condition asks whether the group has been entered. -/
def readCondition (size : Nat) (expr : Reading → List Char → ReadResult) (st : Reading)
    (cs : List Char) : ReadResult := do
  let (e, st, rest) ← match cs with
    | '\'' :: rest => readNamedReference st '\'' true rest
    | '<' :: rest => readNamedReference st '>' true rest
    | _ => if cs.head?.any Char.isDigit then readReference size st cs else expr st cs
  let e := match e with
    | .back n => .entered n
    | e => e
  some (e, st, ← closeGroup st rest)

/-- The choice by a condition. -/
def Expr.choose (condition : Expr) (branches : Expr) : Expr :=
  let (yes, no) := match branches with
    | .alt (e :: es) => (e, ofBranches es)
    | e => (e, .empty)
  if yes.isEmpty && no.isEmpty then condition else .conditional condition yes no

/-- A choice by a condition, after the parenthesis that opens the condition. Where nothing follows
the condition, it has to be a reference. -/
def readConditional (size : Nat) (expr : Reading → List Char → ReadResult) (st : Reading)
    (cs : List Char) : ReadResult := do
  let (condition, st, rest) ← readCondition size expr st cs
  let (branches, st, after) ← expr st rest
  let close ← closeGroup st after
  match condition with
  | .entered _ => some (condition.choose branches, st, close)
  | _ => if after.length = rest.length then none else some (condition.choose branches, st, close)

/-- A group, after its opening parenthesis. -/
def readGroup (size : Nat) (expr : Reading → List Char → ReadResult) (st : Reading)
    (cs : List Char) : ReadResult := do
  match ← st.modes.skip cs with
  | '?' :: '=' :: rest => readBody expr (.look false false) st rest
  | '?' :: '!' :: rest => readBody expr (.look false true) st rest
  | '?' :: '<' :: '=' :: rest => readBody expr (.look true false) st rest
  | '?' :: '<' :: '!' :: rest => readBody expr (.look true true) st rest
  | '?' :: '<' :: rest | '?' :: 'P' :: '<' :: rest =>
    let (name, rest) ← readName '>' rest
    readCapture expr (some name) st rest
  | '?' :: 'P' :: '=' :: rest => readNamedReference st ')' false rest
  | '?' :: '>' :: rest => readBody expr .atomic st rest
  | '?' :: '(' :: rest => readConditional size expr st rest
  | '?' :: rest =>
    let (m, grouped, rest) ← readModes (rest.length + 1) 0 false st.modes rest
    if grouped then
      let (e, inside, rest) ← readBody expr id { st with modes := m } rest
      some (e, { inside with modes := st.modes }, rest)
    else some (.empty, { st with modes := m }, rest)
  | rest => readCapture expr none st rest

/-- How deep groups may be nested. -/
def maxDepth : Nat := 63

/-- An expression in which groups are nested at most `depth` deep. -/
def readExpr (size : Nat) : Nat → Reading → List Char → ReadResult
  | 0, st, cs =>
    (readBranches size (fun _ _ => none) (cs.length + 1) true st cs).map fun (es, rest) =>
      (.ofBranches es, rest)
  | depth + 1, st, cs =>
    (readBranches size (readGroup size (readExpr size depth)) (cs.length + 1) true st cs).map
      fun (es, rest) => (.ofBranches es, rest)

/-- The expression that takes up the whole text, and the numbers of groups and of repetitions in
it. -/
def read? (cs : List Char) : Option (Expr × Nat × Nat) :=
  match readExpr (Text.utf8Size cs) maxDepth ⟨.none, 0, 0, [], false⟩ cs with
  | some (e, st, []) => some (e, st.groups, st.loops)
  | _ => none

end FilterQuery.Pattern
