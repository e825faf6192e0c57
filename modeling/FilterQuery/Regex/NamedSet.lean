import FilterQuery.Regex.CharSet
import FilterQuery.Text.Basic
import FilterQuery.Unicode.Age
import FilterQuery.Unicode.Category
import FilterQuery.Unicode.Grapheme
import FilterQuery.Unicode.Ignorable
import FilterQuery.Unicode.Letter
import FilterQuery.Unicode.Property
import FilterQuery.Unicode.Script
import FilterQuery.Unicode.Segment
import FilterQuery.Unicode.Space
import FilterQuery.Unicode.Word

/-!
# Sets with a name

The sets that a regular expression can name: by a letter such as `\d`, by a name between colons, and
by a property of the Unicode standard.
-/

namespace FilterQuery.CharSet

/-- The characters whose general category is among the given ones. -/
def ofCategories (codes : List String) : CharSet :=
  ofRanges (Unicode.labelRanges codes 0 Unicode.categoryRuns)

def digit : CharSet := ofCategories ["Nd"]

def space : CharSet := ⟨Unicode.spaceTable⟩

def word : CharSet :=
  ⟨(0x30, 0x39) :: (0x41, 0x5A) :: (0x5F, 0x5F) :: (0x61, 0x7A) :: Unicode.wordTable⟩

def inLine : CharSet := ⟨[(0, 0x9), (0xB, lastCode)]⟩

/-- All characters but the line feed and the carriage return. -/
def inCrlfLine : CharSet := ⟨[(0, 0x9), (0xB, 0xC), (0xE, lastCode)]⟩

def asciiDigit : CharSet := ⟨[(0x30, 0x39)]⟩

def asciiSpace : CharSet := ⟨[(0x9, 0xD), (0x20, 0x20)]⟩

def asciiWord : CharSet := ⟨[(0x30, 0x39), (0x41, 0x5A), (0x5F, 0x5F), (0x61, 0x7A)]⟩

/-- The classes that are named between colons; they have ASCII members only. -/
def ofAsciiName? : String → Option CharSet
  | "alnum" => some ⟨[(0x30, 0x39), (0x41, 0x5A), (0x61, 0x7A)]⟩
  | "alpha" => some ⟨[(0x41, 0x5A), (0x61, 0x7A)]⟩
  | "ascii" => some ⟨[(0, 0x7F)]⟩
  | "blank" => some ⟨[(0x9, 0x9), (0x20, 0x20)]⟩
  | "cntrl" => some ⟨[(0, 0x1F), (0x7F, 0x7F)]⟩
  | "digit" => some asciiDigit
  | "graph" => some ⟨[(0x21, 0x7E)]⟩
  | "lower" => some ⟨[(0x61, 0x7A)]⟩
  | "print" => some ⟨[(0x20, 0x7E)]⟩
  | "punct" => some ⟨[(0x21, 0x2F), (0x3A, 0x40), (0x5B, 0x60), (0x7B, 0x7E)]⟩
  | "space" => some asciiSpace
  | "upper" => some ⟨[(0x41, 0x5A)]⟩
  | "word" => some asciiWord
  | "xdigit" => some ⟨[(0x30, 0x39), (0x41, 0x46), (0x61, 0x66)]⟩
  | _ => none

/-- The names of the general categories, in lower case and without separators. -/
def categoryNames : List (List String × List String) := [
  (["lu", "uppercaseletter"], ["Lu"]), (["ll", "lowercaseletter"], ["Ll"]),
  (["lt", "titlecaseletter"], ["Lt"]), (["lc", "casedletter"], ["Lu", "Ll", "Lt"]),
  (["lm", "modifierletter"], ["Lm"]), (["lo", "otherletter"], ["Lo"]),
  (["l", "letter"], ["Lu", "Ll", "Lt", "Lm", "Lo"]),
  (["mn", "nonspacingmark"], ["Mn"]), (["mc", "spacingmark"], ["Mc"]),
  (["me", "enclosingmark"], ["Me"]), (["m", "mark", "combiningmark"], ["Mn", "Mc", "Me"]),
  (["nd", "decimalnumber", "digit"], ["Nd"]), (["nl", "letternumber"], ["Nl"]),
  (["no", "othernumber"], ["No"]), (["n", "number"], ["Nd", "Nl", "No"]),
  (["pc", "connectorpunctuation"], ["Pc"]), (["pd", "dashpunctuation"], ["Pd"]),
  (["ps", "openpunctuation"], ["Ps"]), (["pe", "closepunctuation"], ["Pe"]),
  (["pi", "initialpunctuation"], ["Pi"]), (["pf", "finalpunctuation"], ["Pf"]),
  (["po", "otherpunctuation"], ["Po"]),
  (["p", "punctuation", "punct"], ["Pc", "Pd", "Ps", "Pe", "Pi", "Pf", "Po"]),
  (["sm", "mathsymbol"], ["Sm"]), (["sc", "currencysymbol"], ["Sc"]),
  (["sk", "modifiersymbol"], ["Sk"]), (["so", "othersymbol"], ["So"]),
  (["s", "symbol"], ["Sm", "Sc", "Sk", "So"]),
  (["zs", "spaceseparator"], ["Zs"]), (["zl", "lineseparator"], ["Zl"]),
  (["zp", "paragraphseparator"], ["Zp"]), (["z", "separator"], ["Zs", "Zl", "Zp"]),
  (["cc", "control", "cntrl"], ["Cc"]), (["cf", "format"], ["Cf"]),
  (["co", "privateuse"], ["Co"]), (["cn", "unassigned"], ["Cn"]),
  (["c", "other"], ["Cc", "Cf", "Cs", "Co", "Cn"])]

def ofCategoryName? (name : String) : Option CharSet :=
  match name with
  | "any" => some all
  | "ascii" => some ⟨[(0, 0x7F)]⟩
  | "assigned" => some (ofCategories ["Cn"]).complement
  | _ => (categoryNames.find? (·.1.contains name)).map fun e => ofCategories e.2

/-- The four letters of the script with a given name. -/
def scriptCode? (name : String) : Option String :=
  (Unicode.scriptNames.find? (·.2.contains name)).map (·.1)

def ofScript (code : String) : CharSet :=
  ofRanges (Unicode.labelRanges [code] 0 Unicode.scriptRuns)

/-- The characters in use with a script: its own, unless they are kept for other scripts, and those
that it shares. -/
def ofScriptExtensions (code : String) : CharSet :=
  let shared := Unicode.sharedScripts.map fun (a, b, codes) =>
    ((a, b), (codes.splitOn " ").contains code)
  let own := (ofScript code).diff (ofRanges (shared.map (·.1)))
  own.union (ofRanges ((shared.filter (·.2)).map (·.1)))

/-- The characters that a version of the standard has. The name is the version as it is, or a `v`
and the digits. -/
def ofAge? (name : String) : Option CharSet :=
  let isNamed (version : String × String) : Bool :=
    name == version.1 || name == "v" ++ String.ofList (version.1.toList.filter Char.isDigit)
  (Unicode.versions.findIdx? isNamed).map fun i =>
    ofRanges (Unicode.labelRanges ((Unicode.versions.take (i + 1)).map (·.2)) 0 Unicode.ageRuns)

/-- The characters with a value of a property that is kept in runs. -/
def ofValueName? (names : List (String × List String)) (runs : List (String × Nat))
    (name : String) : Option CharSet :=
  (names.find? (·.2.contains name)).map fun e => ofRanges (Unicode.labelRanges [e.1] 0 runs)

def ofGraphemeBreak? : String → Option CharSet
  | "lv" => some (ofRanges (Unicode.hangulBlocks.map fun (first, _, _) => (first, first)))
  | "lvt" => some (ofRanges (Unicode.hangulBlocks.map (·.2)))
  | name => ofValueName? Unicode.graphemeBreakNames Unicode.graphemeBreakRuns name

def ofBinaryName? : String → Option CharSet
  | "alphabetic" | "alpha" => some ⟨Unicode.alphabeticTable⟩
  | "uppercase" | "upper" => some ⟨Unicode.uppercaseTable⟩
  | "lowercase" | "lower" => some ⟨Unicode.lowercaseTable⟩
  | "whitespace" | "wspace" | "space" => some space
  | "graphemeextend" | "grext" => some ⟨Unicode.graphemeExtendTable⟩
  | "defaultignorablecodepoint" | "di" => some ⟨Unicode.ignorableTable⟩
  | name => (Unicode.binaryTable? name).map fun t => ⟨t⟩

/-- Names are compared without regard to case, separators, characters beyond ASCII, and a leading
`is`. The name `isc` keeps its head, lest it be taken for `c`. -/
def normalName (cs : List Char) : String :=
  let plain (ds : List Char) :=
    (ds.filter fun c => c.toNat < 0x80 && c != ' ' && c != '_' && c != '-').map Char.toLower
  String.ofList (match cs with
    | i :: s :: rest =>
      if i.toLower = 'i' ∧ s.toLower = 's' then
        if plain rest = ['c'] then "isc".toList else plain rest
      else plain cs
    | _ => plain cs)

/-- The set of the characters that have a property, which is given by its name alone. -/
def ofPropertyName? (cs : List Char) : Option CharSet :=
  let name := normalName cs
  (ofBinaryName? name).or ((ofCategoryName? name).or ((scriptCode? name).map ofScript))

/-- The set of the characters for which a property has a value. -/
def ofPropertyValue? (property value : List Char) : Option CharSet :=
  let value := normalName value
  match normalName property with
  | "gc" | "generalcategory" => ofCategoryName? value
  | "sc" | "script" => (scriptCode? value).map ofScript
  | "scx" | "scriptextensions" => (scriptCode? value).map ofScriptExtensions
  | "age" => ofAge? value
  | "gcb" | "graphemeclusterbreak" => ofGraphemeBreak? value
  | "wb" | "wordbreak" => ofValueName? Unicode.wordBreakNames Unicode.wordBreakRuns value
  | "sb" | "sentencebreak" =>
    ofValueName? Unicode.sentenceBreakNames Unicode.sentenceBreakRuns value
  | _ => none

end FilterQuery.CharSet
