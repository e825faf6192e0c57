import FilterQuery.Unicode.Space

/-!
# Text as characters

Texts are taken apart and put together as lists of characters. Positions and lengths that are shown
to a user count the bytes of the UTF-8 encoding.
-/

namespace FilterQuery.Text

/-- The number of bytes of a text in UTF-8. -/
def utf8Size : List Char → Nat
  | [] => 0
  | c :: cs => c.utf8Size + utf8Size cs

@[simp] theorem utf8Size_append (cs ds : List Char) :
    utf8Size (cs ++ ds) = utf8Size cs + utf8Size ds := by
  induction cs with
  | nil => simp [utf8Size]
  | cons c cs ih => simp [utf8Size, ih, Nat.add_assoc]

/-- The longest run of characters with a property at the head of a text, and what follows it. -/
def run (p : Char → Bool) (cs : List Char) : List Char × List Char :=
  (cs.takeWhile p, cs.dropWhile p)

@[simp] theorem run_fst (p : Char → Bool) (cs : List Char) : (run p cs).1 = cs.takeWhile p := rfl

@[simp] theorem run_snd (p : Char → Bool) (cs : List Char) : (run p cs).2 = cs.dropWhile p := rfl

/-- What follows the leading white space. -/
def trimStart (cs : List Char) : List Char :=
  cs.dropWhile Unicode.isSpace

def trim (cs : List Char) : List Char :=
  (trimStart (trimStart cs).reverse).reverse

theorem trimStart_suffix (cs : List Char) : trimStart cs <:+ cs :=
  List.dropWhile_suffix _

end FilterQuery.Text
