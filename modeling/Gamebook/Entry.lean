/-
This file reads the entries of condition, cost and effect lists.
An entry is a key and a value with a colon between them.
Every entry of a field is read, and every entry that is refused is reported.
-/

import Gamebook.Gather
import Gamebook.Numeral
import Gamebook.Text.Blank
import Gamebook.Vocabulary

namespace Gamebook

/-- The kind of a field decides which keys and values its entries may have. -/
inductive FieldKind where
  | condition
  | cost
  | effect
  deriving DecidableEq

/-- These are the keys of a field in the order in which they are listed to authors. -/
def FieldKind.keys (kind : FieldKind) : List String :=
  Stat.all.map Stat.key ++
    match kind with
    | .condition => ["item", "title", "node_kind"]
    | .cost => []
    | .effect => ["event", "item", "title"]

/-- The suggestion is the first key that starts with what the author wrote. -/
def FieldKind.suggestion? (kind : FieldKind) (key : String) : Option String :=
  if key.isEmpty then none
  else kind.keys.find? fun candidate => Text.startsWith (Text.fold key) candidate

/-- These are the reasons for which an entry is refused. -/
inductive EntryFault where
  | missingColon (entry : String)
  | missingValue (key : String)
  | unknownKey (kind : FieldKind) (key : String)
  | badCost (stat : Stat) (value : String)
  | badChange (stat : Stat) (value : String)
  | badThreshold (value : String)
  | negativeThreshold (value : String)
  /-- The value is a plus sign in front of a count. -/
  | signedThreshold (stat : Stat) (count : String)
  deriving DecidableEq

def FieldKind.unknownKeyText : FieldKind → String
  | .condition => "unknown condition key"
  | .cost => "unknown stat"
  | .effect => "unknown effect token"

def FieldKind.listingText : FieldKind → String
  | .condition => "Valid keys are"
  | .cost => "Valid stat keys are"
  | .effect => "Valid effect tokens are"

def EntryFault.message (field : String) : EntryFault → String
  | .missingColon entry => s!"bad {field} entry '{entry}'. Expected key:value."
  | .missingValue key => s!"missing value for '{key}' in {field}. Expected '{key}:<id>'."
  | .unknownKey kind key =>
      let listed := String.intercalate ", " kind.keys
      let hint :=
        match kind.suggestion? key with
        | some suggestion => s!" Did you mean '{suggestion}'?"
        | none => ""
      s!"{kind.unknownKeyText} '{key}' in {field}. {kind.listingText}: {listed}.{hint}"
  | .badCost stat value =>
      s!"bad amount '{value}' in {field}. Expected a whole number of zero or more, like '{stat.key}:2'."
  | .badChange stat value =>
      s!"bad amount '{value}' in {field}. Expected a signed whole number, like '{stat.key}:+3' or '{stat.key}:-2'."
  | .badThreshold value =>
      s!"bad amount '{value}' in {field}. Expected a whole number of zero or more."
  | .negativeThreshold value =>
      s!"bad amount '{value}' in {field}: thresholds cannot be negative. Use Costs or Effects to spend or change stats."
  | .signedThreshold stat count =>
      s!"bad amount '+{count}' in {field}: conditions are minimum thresholds and do not allow a '+' sign. Use '{stat.key}:{count}' instead."

/-- A refused entry is reported with the name of its field. -/
structure EntryError where
  field : String
  fault : EntryFault
  deriving DecidableEq

def EntryError.message (error : EntryError) : String :=
  error.fault.message error.field

/-- This cuts at the first colon. -/
def splitAtColon? : List Char → Option (List Char × List Char)
  | [] => none
  | character :: rest =>
      if character = ':' then some ([], rest)
      else (splitAtColon? rest).map fun parts => (character :: parts.1, parts.2)

/-- A key that names something needs a value that is not empty. -/
def requireValue {A : Type} (key value : String) (build : String → A) : Except EntryFault A :=
  if value.isEmpty then .error (.missingValue key) else .ok (build value)

def Condition.ofThreshold (stat : Stat) (value : String) : Except EntryFault Condition :=
  match Numeral.unsigned? value with
  | some minimum => .ok (.threshold stat minimum)
  | none =>
      match value.toList with
      | '+' :: count =>
          if (Numeral.unsigned? (String.ofList count)).isSome then
            .error (.signedThreshold stat (String.ofList count))
          else .error (.badThreshold value)
      | '-' :: _ => .error (.negativeThreshold value)
      | _ => .error (.badThreshold value)

/-- The key and the value are already trimmed. -/
def Condition.ofPair (key value : String) : Except EntryFault Condition :=
  if Text.fold key = "item" then requireValue key value .hasItem
  else if Text.fold key = "title" then requireValue key value .hasTitle
  else if Text.fold key = "node_kind" then requireValue key value .atNode
  else
    match Stat.ofKey? key with
    | none => .error (.unknownKey .condition key)
    | some stat => Condition.ofThreshold stat value

/-- The key and the value are already trimmed. -/
def StatAmount.ofPair (key value : String) : Except EntryFault StatAmount :=
  match Stat.ofKey? key with
  | none => .error (.unknownKey .cost key)
  | some stat =>
      match Numeral.unsigned? value with
      | none => .error (.badCost stat value)
      | some amount => .ok ⟨stat, amount⟩

/-- The key and the value are already trimmed. -/
def Effect.ofPair (key value : String) : Except EntryFault Effect :=
  if Text.fold key = "event" then requireValue key value .triggerEvent
  else if Text.fold key = "item" then requireValue key value .grantItem
  else if Text.fold key = "title" then requireValue key value .changeTitle
  else
    match Stat.ofKey? key with
    | none => .error (.unknownKey .effect key)
    | some stat =>
        match Numeral.signed? value with
        | none => .error (.badChange stat value)
        | some amount => .ok (.statChange stat amount)

/-- The key and the value are trimmed after the entry was cut at its first colon. -/
def readEntry {A : Type} (ofPair : String → String → Except EntryFault A) (field entry : String) :
    Except EntryError A :=
  match splitAtColon? (Text.trimChars entry.toList) with
  | none => .error ⟨field, .missingColon (Text.trim entry)⟩
  | some parts =>
      match ofPair (Text.trim (String.ofList parts.1)) (Text.trim (String.ofList parts.2)) with
      | .ok value => .ok value
      | .error fault => .error ⟨field, fault⟩

/-- Blank entries are skipped. -/
def readEntries {A : Type} (ofPair : String → String → Except EntryFault A) (field : String)
    (entries : List String) : Except (List EntryError) (List A) :=
  gather ((entries.filter fun entry => !Text.isBlankText entry).map (readEntry ofPair field))

def readConditions (field : String) (entries : List String) :
    Except (List EntryError) (List Condition) :=
  readEntries Condition.ofPair field entries

def readCosts (field : String) (entries : List String) :
    Except (List EntryError) (List StatAmount) :=
  readEntries StatAmount.ofPair field entries

def readEffects (field : String) (entries : List String) :
    Except (List EntryError) (List Effect) :=
  readEntries Effect.ofPair field entries

end Gamebook
