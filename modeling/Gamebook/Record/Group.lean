/-
This file reads the lists, maps and records of the record notation.
Their elements are divided by commas, and a comma may also follow the last one.
The first argument of each loop bounds its steps. A text has fewer elements than characters,
so its length is a bound that is never met.
-/

import Gamebook.Node.Neighbours
import Gamebook.Record.Scalar

namespace Gamebook.Record

def elementsFrom {A : Type} (close : Char) (element : Reader A) : Nat → Bool → Reader (List A)
  | 0, _, _ => .error .malformed
  | steps + 1, afterComma, input =>
      skip.andThen (fun _ input =>
        match input with
        | [] => .error .malformed
        | character :: rest =>
            if character = close then .ok ([], rest)
            else if afterComma then
              element.andThen (fun value =>
                comma.andThen fun found =>
                  (elementsFrom close element steps found).map fun values => value :: values)
                (character :: rest)
            else .error .malformed) input

/-- This reads a group of elements up to its closing character. -/
def elements {A : Type} (close : Char) (element : Reader A) : Reader (List A) :=
  fun input => elementsFrom close element (input.length + 1) true input

def list {A : Type} (element : Reader A) : Reader (List A) :=
  (symbol '[').andThen fun _ => elements ']' element

/-- The colon stands between a key and its value. -/
def colon : Reader Unit :=
  skip.andThen fun _ => (symbol ':').andThen fun _ => skip

def weights : Reader Neighbours :=
  (symbol '{').andThen fun _ =>
    (elements '}' (text.andThen fun key => colon.andThen fun _ =>
      number.map fun weight => (key, weight))).map Neighbours.ofList

/-- A field reads its value into a record that is being filled. -/
structure Field (A : Type) where
  name : String
  isRequired : Bool
  read : Reader (A → A)

def Field.required {A B : Type} (name : String) (reader : Reader B) (set : B → A → A) : Field A :=
  ⟨name, true, reader.map set⟩

def Field.optional {A B : Type} (name : String) (reader : Reader B) (set : B → A → A) : Field A :=
  ⟨name, false, reader.map set⟩

/-- The record must not close before all required fields have been seen. -/
def closeRecord {A : Type} (fields : List (Field A)) (seen : List String) (record : A) : Reader A :=
  fun rest =>
    match fields.find? fun field => field.isRequired && !seen.contains field.name with
    | some field => .error (.missingField field.name)
    | none => .ok (record, rest)

/-- A field that is not known or was seen before is a fault. -/
def freshField {A : Type} (fields : List (Field A)) (seen : List String) (key : String) :
    Reader (Field A) :=
  Reader.ofOption fun rest =>
    (fields.find? fun field => field.name == key && !seen.contains key).map fun field =>
      (field, rest)

def fieldsFrom {A : Type} (fields : List (Field A)) :
    Nat → Bool → List String → A → Reader A
  | 0, _, _, _, _ => .error .malformed
  | steps + 1, afterComma, seen, record, input =>
      skip.andThen (fun _ input =>
        match input with
        | [] => .error .malformed
        | character :: rest =>
            if character = ')' then closeRecord fields seen record rest
            else if afterComma then
              name.andThen (fun key =>
                (freshField fields seen key).andThen fun field =>
                  colon.andThen fun _ =>
                    field.read.andThen fun update =>
                      comma.andThen fun found =>
                        fieldsFrom fields steps found (key :: seen) (update record))
                (character :: rest)
            else .error .malformed) input

/-- The title of a record may be left out, but a wrong one is a fault. -/
def recordTitle (title : String) : Reader Unit
  | character :: rest =>
      if isNameChar character then
        name.andThen (fun found rest =>
          if found = title then .ok ((), rest) else .error .malformed) (character :: rest)
      else .ok ((), character :: rest)
  | [] => .error .malformed

/-- The fields are read into the given record, which holds the values of absent fields. -/
def record {A : Type} (title : String) (fields : List (Field A)) (absent : A) : Reader A :=
  (recordTitle title).andThen fun _ => skip.andThen fun _ => (symbol '(').andThen fun _ input =>
    fieldsFrom fields (input.length + 1) true [] absent input

/-- The extensions change nothing in the notation of content files. -/
def extensionNames : List String :=
  ["unwrap_newtypes", "implicit_some", "unwrap_variant_newtypes"]

def extension : Reader Unit :=
  name.andThen fun found rest =>
    if extensionNames.contains found then .ok ((), rest) else .error .malformed

/-- These are the symbols that open a line of extensions, with what may stand between them. -/
def extensionOpening : Reader Unit :=
  let token (expected : Char) : Reader Unit := (symbol expected).andThen fun _ => skip
  let word : Reader Unit := Reader.ofOption fun input =>
    if "enable".toList.isPrefixOf input then some ((), input.drop 6) else none
  (token '#').andThen fun _ => (token '!').andThen fun _ => (token '[').andThen fun _ =>
    word.andThen fun _ => skip.andThen fun _ => token '('

/-- At least one extension stands between the brackets. -/
def extensionLine : Reader Unit :=
  extensionOpening.andThen fun _ => extension.andThen fun _ => comma.andThen fun found input =>
    match (if found then elements ')' extension input else (symbol ')').map (fun _ => []) input) with
    | .ok (_, rest) => (skip.andThen fun _ => symbol ']') rest
    | .error fault => .error fault

def extensionLines : Nat → Reader Unit
  | 0, _ => .error .malformed
  | steps + 1, input =>
      match input with
      | '#' :: _ =>
          (extensionLine.andThen fun _ => skip.andThen fun _ => extensionLines steps) input
      | _ => .ok ((), input)

/-- A document is one value with nothing but blanks and comments around it. -/
def document {A : Type} (value : Reader A) (input : List Char) : Except ReadFault A :=
  let whole := skip.andThen fun _ => (extensionLines (input.length + 1)).andThen fun _ =>
    value.andThen fun result => skip.map fun _ => result
  match whole input with
  | .ok (result, []) => .ok result
  | .ok _ => .error .malformed
  | .error fault => .error fault

end Gamebook.Record
