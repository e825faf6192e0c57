import FilterQuery.Unicode.Category
import FilterQuery.Unicode.Letter
import FilterQuery.Unicode.Recent

/-!
# Letters and digits

The characters that names of groups are made of, those of the latest version of the standard
included.
-/

namespace FilterQuery.Unicode

def isAlphabetic (c : Char) : Bool :=
  alphabeticTable.contains c || recentAlphabeticTable.contains c

/-- Decimal digits, letter numbers and other numbers. -/
def isNumeric (c : Char) : Bool :=
  ["Nd", "Nl", "No"].contains (category c) || recentNumberTable.contains c

def isAlphanumeric (c : Char) : Bool :=
  isAlphabetic c || isNumeric c

end FilterQuery.Unicode
