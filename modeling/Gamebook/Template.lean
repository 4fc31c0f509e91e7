/-
This file puts the hero into authored text.
A token is a word of ASCII letters between braces. Ten tokens are known:
`he`, `him`, `his` and `himself` in small and capitalised form, `Name` and `Title`.
All other text stands for itself.
-/

namespace Gamebook

/-- The birth of the hero decides the pronouns of the text. -/
inductive Birth where
  | boy
  | girl
  | childOfOmen
  deriving DecidableEq

inductive Pronouns where
  | heHim
  | sheHer
  | theyThem
  deriving DecidableEq

def Birth.pronouns : Birth → Pronouns
  | .boy => .heHim
  | .girl => .sheHer
  | .childOfOmen => .theyThem

namespace Pronouns

def subject : Pronouns → String
  | .heHim => "he"
  | .sheHer => "she"
  | .theyThem => "they"

def object : Pronouns → String
  | .heHim => "him"
  | .sheHer => "her"
  | .theyThem => "them"

def possessive : Pronouns → String
  | .heHim => "his"
  | .sheHer => "her"
  | .theyThem => "their"

def reflexive : Pronouns → String
  | .heHim => "himself"
  | .sheHer => "herself"
  | .theyThem => "themselves"

end Pronouns

/-- The pronouns are ASCII words, so only an ASCII first letter has to be raised. -/
def capitalized (word : String) : String :=
  match word.toList with
  | [] => ""
  | first :: rest => String.ofList (first.toUpper :: rest)

/-- This is what authored text can say about the hero. -/
structure TemplateContext where
  birth : Birth
  name : String
  title : String
  deriving DecidableEq

namespace TemplateContext

/-- The neutral context keeps the tokens for the name and the title as they are written. -/
def neutral : TemplateContext := ⟨.childOfOmen, "\x7bName\x7d", "\x7bTitle\x7d"⟩

/-- These are the known tokens with the texts that they stand for. -/
def forms (context : TemplateContext) : List (String × String) :=
  let pronouns := context.birth.pronouns
  [("he", pronouns.subject), ("He", capitalized pronouns.subject),
   ("him", pronouns.object), ("Him", capitalized pronouns.object),
   ("his", pronouns.possessive), ("His", capitalized pronouns.possessive),
   ("himself", pronouns.reflexive), ("Himself", capitalized pronouns.reflexive),
   ("Name", context.name), ("Title", context.title)]

def value? (context : TemplateContext) (word : String) : Option String :=
  context.forms.lookup word

end TemplateContext

/-- A template is a sequence of plain characters and tokens. -/
inductive Piece where
  | plain (character : Char)
  | token (word : List Char)
  deriving DecidableEq

namespace Piece

/-- This is the text in which the piece was written. -/
def source : Piece → List Char
  | .plain character => [character]
  | .token word => '{' :: (word ++ ['}'])

/-- An unknown token is shown as it was written. -/
def render (context : TemplateContext) : Piece → List Char
  | .plain character => [character]
  | .token word =>
      match context.value? (String.ofList word) with
      | some value => value.toList
      | none => (Piece.token word).source

end Piece

/-- The first argument holds the letters since a brace was opened, last letter first. -/
def piecesFrom : Option (List Char) → List Char → List Piece
  | none, [] => []
  | some letters, [] => .plain '{' :: letters.reverse.map .plain
  | none, character :: rest =>
      if character = '{' then piecesFrom (some []) rest
      else .plain character :: piecesFrom none rest
  | some letters, character :: rest =>
      if character.isAlpha then piecesFrom (some (character :: letters)) rest
      else if character = '}' ∧ letters ≠ [] then
        .token letters.reverse :: piecesFrom none rest
      else
        .plain '{' :: (letters.reverse.map .plain ++
          if character = '{' then piecesFrom (some []) rest
          else .plain character :: piecesFrom none rest)

def pieces (text : String) : List Piece :=
  piecesFrom none text.toList

/-- Values that are put in for tokens are not searched for tokens again. -/
def TemplateContext.render (context : TemplateContext) (text : String) : String :=
  String.ofList ((pieces text).flatMap (Piece.render context))

end Gamebook
