/-
This file makes the letters of a text small.
Each letter has one small form, but a capital sigma has another one at the end of a word,
and a capital I with a dot becomes two characters.
-/

import Gamebook.Text.Case.Mapping
import Gamebook.Text.Case.Property

namespace Gamebook.Text

/-- The nearest character that counts for the case of a word has a case. -/
def meetsCased (characters : List Char) : Bool :=
  (characters.dropWhile isCaseIgnorable).head?.any isCased

/-- The first argument holds the characters before the given ones, last character first. -/
def lowercaseFrom (before : List Char) : List Char → List Char
  | [] => []
  | character :: rest =>
      let small :=
        if character = 'Σ' then
          if meetsCased before && !meetsCased rest then ['ς'] else ['σ']
        else if character = 'İ' then ['i', Char.ofNat 0x307]
        else [Char.ofNat (smallCode character.toNat)]
      small ++ lowercaseFrom (character :: before) rest

def lowercase (text : String) : String :=
  String.ofList (lowercaseFrom [] text.toList)

end Gamebook.Text
