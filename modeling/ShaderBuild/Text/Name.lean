/-
  The names of code points (Unicode 14).

  Most names stand in tables, some are told by the number of the code point, and those of Korean
  syllables are put together from the letters.  Tables and numbers do not mind the case of letters;
  the names of unified ideographs and of syllables are taken as they stand.

  * `Names.find?`: the code point with a name, from the items of a table;
  * `Names.numbered?`, `Names.ideograph?`, `Names.syllable?`: names that are made by a rule;
  * `CodePoint.ofName?`: the code point with a name.
-/
import ShaderBuild.Text.Names.Alphabets
import ShaderBuild.Text.Names.Syllabaries
import ShaderBuild.Text.Names.Symbols
import ShaderBuild.Text.Names.Patterns
import ShaderBuild.Text.Names.Forms
import ShaderBuild.Text.Names.Scripts
import ShaderBuild.Text.Names.Notations
import ShaderBuild.Text.Names.Pictures
import ShaderBuild.Text.Names.Aliases
import ShaderBuild.Text.Numeral

namespace ShaderBuild.CodePoint

namespace Names

/-! ## Tables -/

/-- The words of the name that an item stands for, given those of the name before it.  A digit in
    front tells how many words the two have in common. -/
def wordsOf (before : List Text) (item : Text) : List Text :=
  match item with
  | [] => []
  | c :: rest =>
    if c.isDigit then before.take (c.val - 48) ++ Text.splitOn ' ' rest
    else Text.splitOn ' ' item

/-- The code point whose name has the given words, among items of a table: the numbers of code points,
    from which names go on, and names of code points that follow one another. -/
def find? (words : List Text) (next : Nat) (before : List Text) : List Text → Option Nat
  | [] => none
  | item :: items =>
    if (text "U+").isPrefixOf item then
      find? words ((Numeral.valueFrom? hexValue? 16 0 (item.drop 2)).getD 0) before items
    else
      let named := wordsOf before item
      if named = words then some next else find? words (next + 1) named items

/-- The items of all tables. -/
def items : List Text :=
  (alphabets ++ syllabaries ++ symbols ++ patterns ++ forms ++ scripts ++ notations ++ pictures
    ++ aliases).flatMap fun line => Text.splitOn ';' (text line)

/-! ## Rules -/

/-- The code points whose names end in their numbers, by what stands before the number. -/
def numbered : List (Text × Ranges) :=
  [(text "CJK COMPATIBILITY IDEOGRAPH-",
      [(0xF900, 0xFA6D), (0xFA70, 0xFAD9), (0x2F800, 0x2FA1D)]),
   (text "KHITAN SMALL SCRIPT CHARACTER-", [(0x18B00, 0x18CD5)]),
   (text "NUSHU CHARACTER-", [(0x1B170, 0x1B2FB)])]

/-- The code point of a name that ends in its number. -/
def numbered? (name : Text) : Option Nat :=
  numbered.findSome? fun (start, ranges) => do
    guard (start.isPrefixOf name)
    let number ← Numeral.valueFrom? hexValue? 16 0 (name.drop start.length)
    guard (ranges.contains number && name = start ++ Numeral.capitalHex 4 number)
    return number

/-- The unified ideographs. -/
def ideographs : Ranges :=
  [(0x3400, 0x4DBF), (0x4E00, 0x9FFF), (0x20000, 0x2A6DF), (0x2A700, 0x2B738), (0x2B740, 0x2B81D),
   (0x2B820, 0x2CEA1), (0x2CEB0, 0x2EBE0), (0x30000, 0x3134A)]

/-- The code point of the name of a unified ideograph: four or five digits tell it. -/
def ideograph? (name : Text) : Option Nat := do
  let start := text "CJK UNIFIED IDEOGRAPH-"
  let digits := name.drop start.length
  guard (start.isPrefixOf name && (digits.length = 4 || digits.length = 5)
    && digits.all fun c => c.isDigit || (65 ≤ c.val && c.val ≤ 70))
  let number ← Numeral.valueFrom? hexValue? 16 0 digits
  guard (ideographs.contains number)
  return number

/-- The letters that a Korean syllable starts with. -/
def leads : List String :=
  ["G", "GG", "N", "D", "DD", "R", "M", "B", "BB", "S", "SS", "", "J", "JJ", "C", "K", "T", "P",
   "H"]

/-- The vowels of a Korean syllable. -/
def vowels : List String :=
  ["A", "AE", "YA", "YAE", "EO", "E", "YEO", "YE", "O", "WA", "WAE", "OE", "YO", "U", "WEO", "WE",
   "WI", "YU", "EU", "YI", "I"]

/-- The letters that a Korean syllable ends with, if any. -/
def trails : List String :=
  ["", "G", "GG", "GS", "N", "NJ", "NH", "D", "L", "LG", "LM", "LB", "LS", "LT", "LP", "LH", "M",
   "B", "BS", "S", "SS", "NG", "J", "C", "K", "T", "P", "H"]

/-- The Korean syllables in the order of their code points. -/
def syllables : List Text :=
  leads.flatMap fun lead => vowels.flatMap fun vowel => trails.map fun trail =>
    text lead ++ text vowel ++ text trail

/-- The code point of the name of a Korean syllable. -/
def syllable? (name : Text) : Option Nat := do
  let start := text "HANGUL SYLLABLE "
  guard (start.isPrefixOf name)
  let index ← syllables.idxOf? (name.drop start.length)
  return 0xAC00 + index

end Names

/-- The capital letter of a letter in ASCII. -/
def toCapital (c : CodePoint) : CodePoint :=
  if 97 ≤ c.val ∧ c.val ≤ 122 then .ofNat (c.val - 32) else c

/-- The code point with a name. -/
def ofName? (name : Text) : Option CodePoint :=
  let capitals := name.map toCapital
  let number := ((Names.syllable? name).or (Names.ideograph? name)).or <|
    (Names.numbered? capitals).or (Names.find? (Text.splitOn ' ' capitals) 0 [] Names.items)
  number.map .ofNat

end ShaderBuild.CodePoint
