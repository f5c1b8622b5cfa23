import SchemaTransfer.Text.Find

/-!
# Arguments

Options are read from the front of a list of arguments up to the first word that is none. The
value of an option may be a part of its argument or the argument after it; then it may not look
like an option itself. An option that is unknown, repeated or given a value that it does not take
makes the arguments unusable.
-/

namespace SchemaTransfer.CommandLine

/-- What an option takes. -/
inductive Operand where
  | nothing
  | text
  /-- A path, which is never empty. -/
  | path
  deriving DecidableEq

/-- An option. -/
structure OptionSpec where
  name : String
  /-- The letter that stands for the name. -/
  letter : Option Char := none
  operand : Operand
  deriving DecidableEq

/-- The options that were given, each with its value. -/
abbrev Given := List (String × String)

namespace OptionSpec

/-- What an argument says about an option: nothing, or its value if it has one. -/
def valueIn? (o : OptionSpec) (argument : List Char) : Option (Option (List Char)) :=
  match argument with
  | '-' :: '-' :: long =>
    match Text.cutAt? ['='] long with
    | some (name, value) => if name = o.name.toList then some (some value) else none
    | none => if long = o.name.toList then some none else none
  | '-' :: letter :: rest =>
    if o.letter = some letter then
      match rest with
      | [] => some none
      | '=' :: value => some (some value)
      | value => some (some value)
    else none
  | _ => none

/-- Whether the option takes a value. -/
def takes (o : OptionSpec) (value : String) : Bool :=
  match o.operand with
  | .nothing => false
  | .text => true
  | .path => value != ""

end OptionSpec

/-- Whether an argument looks like an option. -/
def looksLikeOption (argument : String) : Bool :=
  match argument.toList with
  | '-' :: _ :: _ => true
  | _ => false

/-- The option that an argument names, with the value that is a part of the argument. -/
def named? (options : List OptionSpec) (argument : String) :
    Option (OptionSpec × Option String) :=
  options.findSome? fun o =>
    (o.valueIn? argument.toList).map fun value => (o, value.map String.ofList)

/-- Adds an option, which may not be given already. -/
def Given.add? (given : Given) (o : OptionSpec) (value : String) : Option Given :=
  if (given.lookup o.name).isSome then none else some (given ++ [(o.name, value)])

/-- Reads options up to the first argument that does not look like one, or that is two dashes;
gives this argument and those after it. -/
def readOptions (options : List OptionSpec) (given : Given) :
    List String → Option (Given × List String)
  | [] => some (given, [])
  | argument :: rest =>
    if argument = "--" ∨ looksLikeOption argument = false then some (given, argument :: rest)
    else
      match named? options argument with
      | none => none
      | some (o, some value) =>
        if o.takes value then
          (given.add? o value).bind fun given => readOptions options given rest
        else none
      | some (o, none) =>
        if o.operand = .nothing then
          (given.add? o "").bind fun given => readOptions options given rest
        else
          match rest with
          | next :: rest =>
            if looksLikeOption next = false ∧ o.takes next = true then
              (given.add? o next).bind fun given => readOptions options given rest
            else none
          | [] => none

end SchemaTransfer.CommandLine
