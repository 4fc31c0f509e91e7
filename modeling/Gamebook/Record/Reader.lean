/-
This file holds the readers of the record notation and what may stand between its tokens.
A reader takes a value from the front of a text and leaves the rest.
Blanks of the notation are spaces, tabs and line ends. Comments run to the end of the line or
stand between `/*` and `*/`, where they may be nested.
-/

namespace Gamebook.Record

/-- A missing field is told apart from all other faults of the notation. -/
inductive ReadFault where
  | malformed
  | missingField (field : String)
  deriving DecidableEq

abbrev Reader (A : Type) : Type := List Char → Except ReadFault (A × List Char)

/-- The rest of the text is read by a reader that depends on the value before it. -/
def Reader.andThen {A B : Type} (first : Reader A) (next : A → Reader B) : Reader B :=
  fun input =>
    match first input with
    | .ok (value, rest) => next value rest
    | .error fault => .error fault

def Reader.map {A B : Type} (reader : Reader A) (change : A → B) : Reader B :=
  fun input =>
    match reader input with
    | .ok (value, rest) => .ok (change value, rest)
    | .error fault => .error fault

def Reader.ofOption {A : Type} (read : List Char → Option (A × List Char)) : Reader A :=
  fun input =>
    match read input with
    | some result => .ok result
    | none => .error .malformed

def isSpace (character : Char) : Bool :=
  character == ' ' || character == '\t' || character == '\n' || character == '\r'

/-- This is where a text stands with regard to comments. -/
inductive Comment where
  | outside
  | line
  /-- The depth counts the block comments around the current one. -/
  | block (depth : Nat)
  deriving DecidableEq

/-- This skips blanks and comments. A block comment that is not closed is a fault. -/
def skipFrom : Comment → List Char → Option (List Char)
  | .block _, [] => none
  | _, [] => some []
  | .outside, '/' :: '/' :: rest => skipFrom .line rest
  | .outside, '/' :: '*' :: rest => skipFrom (.block 0) rest
  | .outside, character :: rest =>
      if isSpace character then skipFrom .outside rest
      else if character = '/' then none
      else some (character :: rest)
  | .line, character :: rest =>
      if character = '\n' then skipFrom .outside rest else skipFrom .line rest
  | .block depth, '/' :: '*' :: rest => skipFrom (.block (depth + 1)) rest
  | .block 0, '*' :: '/' :: rest => skipFrom .outside rest
  | .block (depth + 1), '*' :: '/' :: rest => skipFrom (.block depth) rest
  | .block depth, _ :: rest => skipFrom (.block depth) rest

def skip : Reader Unit :=
  Reader.ofOption fun input => (skipFrom .outside input).map fun rest => ((), rest)

/-- This reads exactly one given character. -/
def symbol (expected : Char) : Reader Unit
  | character :: rest => if character = expected then .ok ((), rest) else .error .malformed
  | [] => .error .malformed

/-- This reads an optional comma with what may stand around it. -/
def comma : Reader Bool :=
  skip.andThen fun _ input =>
    match input with
    | ',' :: rest => (skip.map fun _ => true) rest
    | rest => .ok (false, rest)

def isNameStart (character : Char) : Bool :=
  character.isAlpha || character == '_'

def isNameChar (character : Char) : Bool :=
  character.isAlphanum || character == '_'

/-- A raw name may also hold these three signs. -/
def isRawNameChar (character : Char) : Bool :=
  isNameChar character || character == '.' || character == '+' || character == '-'

/-- A plain name must not be followed by a sign of raw names. -/
def name : Reader String
  | 'r' :: '#' :: rest =>
      let word := rest.takeWhile isRawNameChar
      if word.isEmpty then .error .malformed
      else .ok (String.ofList word, rest.dropWhile isRawNameChar)
  | input =>
      let word := input.takeWhile isNameChar
      let rest := input.dropWhile isNameChar
      if (input.head?.any isNameStart) && !(rest.head?.any isRawNameChar) then
        .ok (String.ofList word, rest)
      else .error .malformed

end Gamebook.Record
