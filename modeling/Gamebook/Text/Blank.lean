/-
This file holds the blank characters and what is cut away with them.
A character is blank exactly when it has the Unicode property White_Space.
-/

namespace Gamebook.Text

/-- The ranges of code points with the Unicode property White_Space. -/
def blankRanges : List (Nat × Nat) :=
  [(0x09, 0x0D), (0x20, 0x20), (0x85, 0x85), (0xA0, 0xA0), (0x1680, 0x1680),
   (0x2000, 0x200A), (0x2028, 0x2029), (0x202F, 0x202F), (0x205F, 0x205F), (0x3000, 0x3000)]

def isBlank (character : Char) : Bool :=
  blankRanges.any fun range =>
    decide (range.1 ≤ character.toNat) && decide (character.toNat ≤ range.2)

/-- This is the list without its leading and trailing blank characters. -/
def trimChars (characters : List Char) : List Char :=
  ((characters.dropWhile isBlank).reverse.dropWhile isBlank).reverse

def trim (text : String) : String :=
  String.ofList (trimChars text.toList)

/-- A text is blank when trimming leaves nothing of it. -/
def isBlankText (text : String) : Bool :=
  (trimChars text.toList).isEmpty

/-- An authored reference that is left blank names nothing. -/
def trimmed? (text : String) : Option String :=
  if isBlankText text then none else some (trim text)

/-- The accumulator holds the word that is being read, last character first. -/
def wordsFrom (current : List Char) : List Char → List String
  | [] => if current.isEmpty then [] else [String.ofList current.reverse]
  | character :: rest =>
      if isBlank character then
        if current.isEmpty then wordsFrom [] rest
        else String.ofList current.reverse :: wordsFrom [] rest
      else wordsFrom (character :: current) rest

/-- The words of a text are its maximal runs of characters that are not blank. -/
def words (text : String) : List String :=
  wordsFrom [] text.toList

end Gamebook.Text
