/-
This file compares texts without regard to the case of ASCII letters.
Characters outside ASCII fold to themselves.
-/

namespace Gamebook.Text

/-- This is the text with every ASCII capital made small. -/
def fold (text : String) : String :=
  String.ofList (text.toList.map Char.toLower)

/-- Two texts agree up to the case of their ASCII letters. -/
def sameFolded (left right : String) : Bool :=
  fold left == fold right

def startsWith (start text : String) : Bool :=
  start.toList.isPrefixOf text.toList

end Gamebook.Text
