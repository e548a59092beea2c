import EntityBinding.Text.CaseTable

/-!
# Small letters

`lowercase` is the full lower case mapping of the character standard.  It maps
one character at a time, with two exceptions.

* `İ` becomes two characters, `i` and a combining dot above.
* `Σ` becomes `ς` at the end of a word and `σ` elsewhere.  It ends a word if,
  skipping the characters of *Case_Ignorable* on both sides, a cased letter
  stands before it and none stands after it.

`lowercaseString` is the same mapping on strings, and `equalsIgnoringAsciiCase`
compares two strings after mapping the letters `A` to `Z` alone.
-/

namespace EntityBinding.Text

/-- The small form of a code point, or the code point itself if it has none. -/
def lowerCode (n : Nat) : Nat := (capitals.findSome? (·.imageOf? n)).getD n

/-- The small form of a character, if it is one character. -/
def lowerChar (c : Char) : Char := Char.ofNat (lowerCode c.toNat)

/-- Whether the first character that is not *Case_Ignorable* is a cased letter. -/
def startsCased (cs : List Char) : Bool :=
  match cs.dropWhile caseIgnorableRanges.contains with
  | [] => false
  | c :: _ => casedRanges.contains c

/-- The small form of one character between the text before it, last character
first, and the text after it. -/
def lowerAt (before : List Char) (c : Char) (after : List Char) : List Char :=
  if c = 'Σ' then
    [if startsCased before && !startsCased after then 'ς' else 'σ']
  else if c = 'İ' then
    ['i', '\u0307']
  else
    [lowerChar c]

/-- The small form of a text that follows `before`, whose last character comes first. -/
def lowerAfter (before : List Char) : List Char → List Char
  | [] => []
  | c :: rest => lowerAt before c rest ++ lowerAfter (c :: before) rest

/-- A text in small letters. -/
def lowercase (cs : List Char) : List Char := lowerAfter [] cs

/-- A string in small letters. -/
def lowercaseString (s : String) : String := String.ofList (lowercase s.toList)

/-- Whether two strings differ at most in the case of the letters `A` to `Z`. -/
def equalsIgnoringAsciiCase (s t : String) : Bool :=
  s.toList.map Char.toLower == t.toList.map Char.toLower

end EntityBinding.Text
