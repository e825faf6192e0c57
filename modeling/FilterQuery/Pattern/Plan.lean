import FilterQuery.Pattern.Spelling
import FilterQuery.Regex.Reader
import FilterQuery.Regex.Search
import FilterQuery.Regex.Size

/-!
# Plans

A plan says how an expression is matched that is beyond the regular engine. Parts of it that are
not are left to that engine, which settles for the preferred match of the part: the plan does not
come back to them for another one. Which parts these are decides what a pattern matches.
-/

namespace FilterQuery.Pattern

/-- A regular part of a plan, with the machine for it. -/
structure RegularPart where
  regex : Regex
  machine : Regex.Machine
  machine_eq : machine = regex.machine

def RegularPart.ofRegex (r : Regex) : RegularPart :=
  ⟨r, r.machine, rfl⟩

inductive Plan where
  | nothing
  | text (cs : List Char)
  | any (lineFeed : Bool)
  | assertion (a : Assertion)
  /-- The preferred match of a regular expression. What some of its groups matched is kept, each
  under the number of a group of the pattern. -/
  | regular (part : RegularPart) (kept : List (Nat × Nat))
  | seq (first second : Plan)
  | alt (first second : Plan)
  /-- Keeps what the body matches under a number. -/
  | keep (index : Nat) (body : Plan)
  /-- Whether the body matches or not, some characters before the position or right after it. -/
  | look (steps : Nat) (negated : Bool) (body : Plan)
  /-- A repetition. If a round may be empty, there is a slot for the position of the latest
  round. -/
  | repeated (slot : Option Nat) (body : Plan) (least : Nat) (most : Option Nat) (greedy : Bool)
  | back (index : Nat)
  | atomic (body : Plan)
  | entered (index : Nat)
  | conditional (condition yes no : Plan)

namespace Plan

def sequence (ps : List Plan) : Plan :=
  ps.foldr seq nothing

/-- The choice between some plans, of which there is at least the first. -/
def choice (p : Plan) : List Plan → Plan
  | [] => p
  | q :: ps => alt p (choice q ps)

/-- Whether all regular parts fit into the room for their automata. -/
def fits : Plan → Bool
  | regular part _ => part.regex.fits
  | seq p q | alt p q => p.fits && q.fits
  | keep _ p | look _ _ p | repeated _ p _ _ _ | atomic p => p.fits
  | conditional c p q => c.fits && p.fits && q.fits
  | _ => true

end Plan

/-! ### References -/

mutual

/-- An expression and all parts of it, in the order in which they are written. -/
def Expr.parts : Expr → List Expr
  | .seq items => .seq items :: Expr.partsOfAll items
  | .alt branches => .alt branches :: Expr.partsOfAll branches
  | .group i e => .group i e :: e.parts
  | .look b n e => .look b n e :: e.parts
  | .repeated i e l m g => .repeated i e l m g :: e.parts
  | .atomic e => .atomic e :: e.parts
  | .conditional c y n => .conditional c y n :: (c.parts ++ y.parts ++ n.parts)
  | e => [e]

def Expr.partsOfAll : List Expr → List Expr
  | [] => []
  | e :: es => e.parts ++ Expr.partsOfAll es

end

/-- The groups that are referred to. -/
def Expr.references (e : Expr) : List Nat :=
  e.parts.filterMap fun
    | .back n | .entered n => some n
    | _ => none

/-- The numbers of groups in an expression. -/
def Expr.groupNumbers (e : Expr) : List Nat :=
  e.parts.filterMap fun
    | .group n _ => some n
    | _ => none

/-! ### Regular parts -/

mutual

/-- The text that an expression stands for, if it is nothing but a text. -/
def Expr.text? : Expr → Option (List Char)
  | .literal c false => some [c]
  | .seq items => Expr.textOfAll? items
  | _ => none

def Expr.textOfAll? : List Expr → Option (List Char)
  | [] => some []
  | e :: es => e.text?.bind fun cs => (Expr.textOfAll? es).map (cs ++ ·)

end

/-- What planning has to know: the groups whose texts are needed, and the first slot for loops. -/
structure Needs where
  groups : List Nat
  firstLoop : Nat

/-- The plan for some regular expressions in a row. -/
def planRegular (needs : Needs) (es : List Expr) : Option Plan :=
  if es.isEmpty then some .nothing
  else
    match Expr.textOfAll? es with
    | some cs => some (.text cs)
    | none => do
      let r ← Regex.read? false (es.flatMap (·.spell 1))
      let numbers := (es.flatMap Expr.groupNumbers).zipIdx 1
      let kept := (numbers.filter fun (n, _) => needs.groups.contains n).map fun (n, i) => (i, n)
      some (.regular (.ofRegex r) kept)

/-! ### Planning -/

/-- The numbers of items of a sequence that are left to the regular engine at its start and at its
end. When something regular is needed after the sequence, the end has to be fixed as the start
has. -/
def regularEnds (hard : Bool) (items : List Expr) : Nat × Nat :=
  let first := items.takeWhile fun e => e.shape.isFixed
  let last := (items.drop first.length).reverse.takeWhile fun e =>
    if hard then e.shape.isFixed else !e.shape.isHard
  (first.length, last.length)

/-- A condition on what is behind a position, with a body for each of some branches. -/
def joinBehind (negated : Bool) (ps : List Plan) : Plan :=
  match ps with
  | [] => .nothing
  | p :: ps => if negated then .sequence (p :: ps) else .choice p ps

mutual

/-- The plan for an expression. It is `hard` if it may have to be come back to. -/
def Expr.plan (needs : Needs) (hard : Bool) (e : Expr) : Option Plan :=
  if !hard && !e.shape.isHard then planRegular needs [e]
  else
    match e with
    | .empty | .keepOut => some .nothing
    | .any lineFeed => some (.any lineFeed)
    | .assertion a => some (.assertion a)
    | .searchStart => some (.assertion .textStart)
    | .literal c ignoreCase =>
      if ignoreCase then planRegular needs [.literal c true] else some (.text [c])
    | .spelled text ignoreCase => planRegular needs [.spelled text ignoreCase]
    | .seq items => do
      let (first, last) := regularEnds hard items
      let start ← planRegular needs (items.take first)
      let middle ← Expr.planMiddle needs first (items.length - first - last) items
      let stop ← planRegular needs (items.drop (items.length - last))
      some (.sequence (start :: middle ++ [stop]))
    | .alt branches => do
      match ← Expr.planAll needs hard branches with
      | [] => some .nothing
      | p :: ps => some (.choice p ps)
    | .group i e =>
      (e.plan needs hard).map fun p => if needs.groups.contains i then .keep i p else p
    | .look behind negated e =>
      if behind && !e.shape.isConst then
        (e.planBranches needs negated).map (joinBehind negated)
      else
        let steps := if behind then e.shape.minSize else 0
        (e.plan needs false).map (.look steps negated)
    | .repeated loop e least most greedy => do
      let body ← e.plan needs (hard || (e.shape.isHard && !(least == 0 && most == some 1)))
      let mayBeIdle := most.isNone && e.shape.minSize == 0
      let slot := if mayBeIdle then some (needs.firstLoop + loop) else none
      some (.repeated slot body least most greedy)
    | .back i => some (.back i)
    | .atomic e => (e.plan needs false).map .atomic
    | .entered i => some (.entered i)
    | .conditional c y n => do
      some (.conditional (← c.plan needs hard) (← y.plan needs hard) (← n.plan needs hard))

/-- The plans for some of the items of a sequence: those after a number of items. -/
def Expr.planMiddle (needs : Needs) : Nat → Nat → List Expr → Option (List Plan)
  | skipped + 1, n, _ :: es => Expr.planMiddle needs skipped n es
  | 0, n + 1, e :: es => do some ((← e.plan needs true) :: (← Expr.planMiddle needs 0 n es))
  | _, _, _ => some []

def Expr.planAll (needs : Needs) (hard : Bool) : List Expr → Option (List Plan)
  | [] => some []
  | e :: es => do some ((← e.plan needs hard) :: (← Expr.planAll needs hard es))

/-- The conditions that the branches of a choice are behind a position. -/
def Expr.planBranches (needs : Needs) (negated : Bool) : Expr → Option (List Plan)
  | .alt branches => Expr.planBehind needs negated branches
  | _ => none

/-- The condition for each of some expressions that it is behind a position. Its size must be
known. -/
def Expr.planBehind (needs : Needs) (negated : Bool) : List Expr → Option (List Plan)
  | [] => some []
  | e :: es => do
    if !e.shape.isConst then none
    let p ← e.plan needs false
    some (.look e.shape.minSize negated p :: (← Expr.planBehind needs negated es))

end

end FilterQuery.Pattern
