/-
This file sorts the arguments of a command into options, flags and all else.
An option has a value behind an equals sign or in the next argument. An argument that begins with
a dash is never taken as such a value, unless it is the dash alone. No option or flag is repeated.
Two dashes end the options.
-/

namespace Gamebook

/-- These are the names that a command knows, without their leading dashes. -/
structure ArgumentNames where
  options : List String
  flags : List String
  /-- Each short flag stands for a flag with a long name. -/
  shortFlags : List (Char × String)
  deriving DecidableEq

structure Arguments where
  plain : List String
  options : List (String × String)
  flags : List String
  deriving DecidableEq

namespace Arguments

def empty : Arguments := ⟨[], [], []⟩

def withPlain (arguments : Arguments) (value : String) : Arguments :=
  { arguments with plain := arguments.plain ++ [value] }

def withOption? (arguments : Arguments) (name value : String) : Option Arguments :=
  if (arguments.options.lookup name).isSome then none
  else some { arguments with options := (name, value) :: arguments.options }

def withFlag? (arguments : Arguments) (name : String) : Option Arguments :=
  if arguments.flags.contains name then none
  else some { arguments with flags := name :: arguments.flags }

def option? (arguments : Arguments) (name : String) : Option String :=
  arguments.options.lookup name

end Arguments

/-- These are the ways in which one argument can be meant. -/
inductive ArgumentForm where
  | endOfOptions
  | long (name : String) (value : Option String)
  | short (letters : List Char)
  | plain (value : String)
  deriving DecidableEq

def splitAtEquals : List Char → List Char × Option (List Char)
  | [] => ([], none)
  | character :: rest =>
      if character = '=' then ([], some rest)
      else (character :: (splitAtEquals rest).1, (splitAtEquals rest).2)

def ArgumentForm.ofText (argument : String) : ArgumentForm :=
  match argument.toList with
  | ['-', '-'] => .endOfOptions
  | '-' :: '-' :: rest =>
      .long (String.ofList (splitAtEquals rest).1) ((splitAtEquals rest).2.map String.ofList)
  | '-' :: first :: rest => .short (first :: rest)
  | _ => .plain argument

/-- An argument can be the value of the option before it when it is plain. -/
def plainValue? (argument : String) : Option String :=
  match ArgumentForm.ofText argument with
  | .plain value => some value
  | _ => none

/-- A flag takes no value, and only one short flag stands behind a dash. -/
def ArgumentNames.flag? (names : ArgumentNames) (arguments : Arguments) :
    ArgumentForm → Option Arguments
  | .long name none => if names.flags.contains name then arguments.withFlag? name else none
  | .short [letter] => (names.shortFlags.lookup letter).bind arguments.withFlag?
  | _ => none

/-- There is no result when the arguments do not fit the names. -/
def ArgumentNames.sort? (names : ArgumentNames) (arguments : Arguments) :
    List String → Option Arguments
  | [] => some arguments
  | argument :: rest =>
      match ArgumentForm.ofText argument with
      | .endOfOptions => some (rest.foldl Arguments.withPlain arguments)
      | .plain value => names.sort? (arguments.withPlain value) rest
      | .long name value =>
          if names.options.contains name then
            match value with
            | some value => (arguments.withOption? name value).bind fun known => names.sort? known rest
            | none =>
                match rest with
                | [] => none
                | next :: others =>
                    match plainValue? next with
                    | none => none
                    | some value =>
                        (arguments.withOption? name value).bind fun known =>
                          names.sort? known others
          else (names.flag? arguments (.long name value)).bind fun known => names.sort? known rest
      | .short letters =>
          (names.flag? arguments (.short letters)).bind fun known => names.sort? known rest

end Gamebook
