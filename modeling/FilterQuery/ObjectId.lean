import FilterQuery.Text.Basic
import FilterQuery.Text.Digits
import FilterQuery.Text.Quoted
import FilterQuery.Text.CharName

/-!
# Document identifiers

An identifier is twelve bytes, written as 24 hexadecimal digits. Either case is read, and lower case
is written.
-/

namespace FilterQuery

structure ObjectId where
  bytes : List UInt8
  length_eq : bytes.length = 12
deriving DecidableEq

namespace ObjectId

/-- Why a text is no identifier. -/
inductive Error where
  | character (c : Char)
  | length (bytes : Nat)
deriving DecidableEq

def Error.message : Error → String
  | .character c => "invalid hex character " ++ String.ofList (Text.quotedChar c)
  | .length n => "expected 24 hex characters, got " ++ String.ofList (Text.digits n)

def isHexDigit (c : Char) : Bool :=
  c.isDigit || ('a' ≤ c && c ≤ 'f') || ('A' ≤ c && c ≤ 'F')

def hexValue (c : Char) : Nat :=
  if c.isDigit then c.toNat - 48 else if 'a' ≤ c then c.toNat - 87 else c.toNat - 55

/-- The bytes that the digits denote two by two. -/
def pairBytes : List Char → List UInt8
  | high :: low :: rest => UInt8.ofNat (16 * hexValue high + hexValue low) :: pairBytes rest
  | _ => []

theorem length_pairBytes (cs : List Char) : (pairBytes cs).length = cs.length / 2 := by
  fun_induction pairBytes cs with
  | case1 high low rest ih => simp [ih]; omega
  | case2 cs h =>
    match cs, h with
    | [], _ => rfl
    | [_], _ => simp
    | a :: b :: rest, h => exact absurd rfl (h a b rest)

def ofDigits (cs : List Char) (h : cs.length = 24) : ObjectId :=
  ⟨pairBytes cs, by rw [length_pairBytes, h]⟩

/-- Reads an identifier; a character that is no digit is reported before a wrong length. -/
def ofHex (cs : List Char) : Except Error ObjectId :=
  match cs.find? (fun c => !isHexDigit c) with
  | some c => .error (.character c)
  | none =>
    if h : cs.length = 24 then .ok (ofDigits cs h)
    else .error (.length (Text.utf8Size cs))

def byteDigits (b : UInt8) : List Char :=
  [Text.hexDigit (b.toNat / 16), Text.hexDigit (b.toNat % 16)]

def hexChars (id : ObjectId) : List Char :=
  id.bytes.flatMap byteDigits

def toHex (id : ObjectId) : String :=
  String.ofList id.hexChars

/-- Orders identifiers by their bytes, the first byte weighing most. -/
instance : Ord ObjectId where
  compare a b := compareOfLessAndEq a.bytes b.bytes

end ObjectId

end FilterQuery
