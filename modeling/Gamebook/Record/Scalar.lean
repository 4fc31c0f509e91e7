/-
This file reads the texts, numbers and flags of the record notation.
-/

import Gamebook.Binary32.Decimal
import Gamebook.Record.Reader

namespace Gamebook.Record

/-- These are the escapes of one character. -/
def escape? : Char → Option Char
  | '\'' => some '\''
  | '"' => some '"'
  | '\\' => some '\\'
  | 'n' => some '\n'
  | 'r' => some '\r'
  | 't' => some '\t'
  | '0' => some (Char.ofNat 0)
  | _ => none

/-- Not every number is a code point of a character. -/
def codePoint? (value : Nat) : Option Char :=
  if value.isValidChar then some (Char.ofNat value) else none

def hexPair? (high low : Char) : Option Char :=
  match Numeral.digitValue? high, Numeral.digitValue? low with
  | some high, some low => some (Char.ofNat (high * 16 + low))
  | _, _ => none

def prepend (character : Option Char) (result : Option (List Char × List Char)) :
    Option (List Char × List Char) :=
  match character, result with
  | some character, some (characters, rest) => some (character :: characters, rest)
  | _, _ => none

/-- The first argument holds the number of digits and the value of an open code point escape. -/
def quotedFrom : Option (Nat × Nat) → List Char → Option (List Char × List Char)
  | _, [] => none
  | none, '"' :: rest => some ([], rest)
  | none, '\\' :: 'u' :: '{' :: rest => quotedFrom (some (0, 0)) rest
  | none, '\\' :: 'x' :: high :: low :: rest =>
      prepend (hexPair? high low) (quotedFrom none rest)
  | none, '\\' :: letter :: rest => prepend (escape? letter) (quotedFrom none rest)
  | none, character :: rest =>
      if character = '\\' then none else prepend (some character) (quotedFrom none rest)
  | some (count, value), character :: rest =>
      if character = '}' then
        if count = 0 then none else prepend (codePoint? value) (quotedFrom none rest)
      else if count = 6 then none
      else
        match Numeral.digitValue? character with
        | some digit => quotedFrom (some (count + 1, value * 16 + digit)) rest
        | none => none

/-- A raw text ends at a quote that is followed by as many hashes as stand before it. -/
def rawFrom (hashes : Nat) : List Char → Option (List Char × List Char)
  | [] => none
  | character :: rest =>
      if character = '"' ∧ rest.take hashes = List.replicate hashes '#' then
        some ([], rest.drop hashes)
      else prepend (some character) (rawFrom hashes rest)

def rawText (input : List Char) : Option (List Char × List Char) :=
  match input.dropWhile (· == '#') with
  | '"' :: rest => rawFrom (input.takeWhile (· == '#')).length rest
  | _ => none

def text : Reader String :=
  (Reader.ofOption fun
    | '"' :: rest => quotedFrom none rest
    | 'r' :: rest => rawText rest
    | _ => none).map String.ofList

def flag : Reader Bool
  | 't' :: 'r' :: 'u' :: 'e' :: rest => .ok (true, rest)
  | 'f' :: 'a' :: 'l' :: 's' :: 'e' :: rest => .ok (false, rest)
  | _ => .error .malformed

def isWholeChar (character : Char) : Bool :=
  (Numeral.digitValue? character).isSome || character == '_'

/-- The sign is applied before the range is checked. -/
def bounded? (negative : Bool) (magnitude : Nat) : Option Int32 :=
  let value : Int := if negative then -(magnitude : Int) else magnitude
  if Numeral.inRange32 value then some (Int32.ofInt value) else none

/-- The digits may be divided by underscores but do not begin with one. -/
def wholeDigits (negative : Bool) (base : Nat) : Reader Int32 :=
  Reader.ofOption fun input =>
    let run := input.takeWhile isWholeChar
    if run.head? = some '_' then none
    else
      match Numeral.natural? base (run.filter (· != '_')) with
      | none => none
      | some magnitude =>
          (bounded? negative magnitude).map fun value => (value, input.dropWhile isWholeChar)

/-- The base is ten unless the digits begin with a mark for another one. -/
def unsignedWhole (negative : Bool) : Reader Int32
  | '0' :: 'x' :: rest => wholeDigits negative 16 rest
  | '0' :: 'b' :: rest => wholeDigits negative 2 rest
  | '0' :: 'o' :: rest => wholeDigits negative 8 rest
  | rest => wholeDigits negative 10 rest

def whole : Reader Int32
  | '+' :: rest => unsignedWhole false rest
  | '-' :: rest => unsignedWhole true rest
  | rest => unsignedWhole false rest

/-- These words stand for numbers that have no digits. -/
def numberWords : List (String × Binary32) :=
  [("inf", Binary32.ofCode false Binary32.infinityCode),
   ("+inf", Binary32.ofCode false Binary32.infinityCode),
   ("-inf", Binary32.ofCode true Binary32.infinityCode),
   ("NaN", Binary32.ofCode false 2143289344),
   ("+NaN", Binary32.ofCode false 2143289344),
   ("-NaN", Binary32.ofCode true 2143289344)]

/-- A word counts only where no further character of a name follows it. -/
def numberWord? (input : List Char) : Option (Binary32 × List Char) :=
  numberWords.findSome? fun entry =>
    let word := entry.1.toList
    let rest := input.drop word.length
    if word.isPrefixOf input && !(rest.head?.any isNameChar) then some (entry.2, rest) else none

def isNumberChar (character : Char) : Bool :=
  character.isDigit || ['e', 'E', '.', '+', '-', '_'].contains character

def number : Reader Binary32 :=
  Reader.ofOption fun input =>
    match numberWord? input with
    | some result => some result
    | none =>
        (Binary32.ofText? (input.takeWhile isNumberChar)).map fun value =>
          (value, input.dropWhile isNumberChar)

end Gamebook.Record
