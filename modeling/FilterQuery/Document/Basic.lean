import FilterQuery.Query.Literal

/-!
# Documents

A document maps keys to values and keeps the order in which the keys came. A value may again be a
document.
-/

namespace FilterQuery

inductive Value where
  | boolean (b : Bool)
  | double (x : Double)
  | string (s : String)
  | regex (p : Pattern)
  | date (t : Instant)
  | objectId (id : ObjectId)
  | array (items : List Value)
  | document (entries : List (String × Value))

namespace Value

def ofLiteral : Literal → Value
  | .boolean b => boolean b
  | .number x => double x
  | .string s => string s
  | .regex p => regex p
  | .date t => date t
  | .objectId id => objectId id

mutual

/-- Equality of values, under which numbers are compared as numbers and the order of keys counts. -/
def same : Value → Value → Bool
  | boolean a, boolean b => a == b
  | double x, double y => x.numEq y
  | string s, string t => s == t
  | regex p, regex q => p == q
  | date t, date u => t == u
  | objectId a, objectId b => a == b
  | array xs, array ys => sameItems xs ys
  | document ds, document es => sameEntries ds es
  | _, _ => false

def sameItems : List Value → List Value → Bool
  | [], [] => true
  | x :: xs, y :: ys => x.same y && sameItems xs ys
  | _, _ => false

def sameEntries : List (String × Value) → List (String × Value) → Bool
  | [], [] => true
  | (k, v) :: ds, (l, w) :: es => k == l && v.same w && sameEntries ds es
  | _, _ => false

end

def asString? : Value → Option String
  | string s => some s
  | _ => none

def asArray? : Value → Option (List Value)
  | array items => some items
  | _ => none

def asDocument? : Value → Option (List (String × Value))
  | document entries => some entries
  | _ => none

end Value

/-- Entries with one value under a key: in place of the value that is there, or else at the end. -/
def insertEntry {α : Type} (key : String) (value : α) : List (String × α) → List (String × α)
  | [] => [(key, value)]
  | (k, v) :: rest =>
    if k = key then (k, value) :: rest else (k, v) :: insertEntry key value rest

theorem keys_insertEntry {α : Type} (key : String) (value : α) (entries : List (String × α)) :
    (insertEntry key value entries).map (·.1) =
      if key ∈ entries.map (·.1) then entries.map (·.1) else entries.map (·.1) ++ [key] := by
  induction entries with
  | nil => simp [insertEntry]
  | cons e rest ih =>
    obtain ⟨k, v⟩ := e
    by_cases hk : k = key
    · simp [insertEntry, hk]
    · have hk' : key ≠ k := fun h => hk h.symm
      by_cases hr : key ∈ rest.map (·.1)
      · rw [if_pos hr] at ih
        simp [insertEntry, hk, ih] at hr ⊢
        simp [hr]
      · rw [if_neg hr] at ih
        simp [insertEntry, hk, ih] at hr ⊢
        simp [hk', hr]

/-- A document: each key has one entry. -/
structure Document where
  entries : List (String × Value)
  keys_nodup : (entries.map (·.1)).Nodup

namespace Document

def empty : Document := ⟨[], by simp⟩

def keys (d : Document) : List String :=
  d.entries.map (·.1)

def size (d : Document) : Nat :=
  d.entries.length

def insert (d : Document) (key : String) (value : Value) : Document :=
  ⟨insertEntry key value d.entries, by
    rw [keys_insertEntry]
    split
    · exact d.keys_nodup
    · rename_i h
      exact List.nodup_append.mpr ⟨d.keys_nodup, by simp, by
        intro a ha b hb hab
        simp only [List.mem_singleton] at hb
        exact h (hb ▸ hab ▸ ha)⟩⟩

/-- The pairs inserted one after the other, so the last value of a key wins. -/
def ofList (pairs : List (String × Value)) : Document :=
  pairs.foldl (fun d p => d.insert p.1 p.2) empty

def get? (d : Document) (key : String) : Option Value :=
  d.entries.lookup key

def single (key : String) (value : Value) : Document :=
  ⟨[(key, value)], by simp⟩

def toValue (d : Document) : Value :=
  .document d.entries

/-- Equality entry by entry, under which numbers are compared as numbers. -/
def same (d e : Document) : Bool :=
  Value.sameEntries d.entries e.entries

/-- Whether each value equals the one found under its key, which a NaN never does. -/
def findsEach (d : Document) : Bool :=
  d.entries.all fun (k, v) => (d.get? k).any v.same

end Document

end FilterQuery
