/-!
# Command line grammar

A command knows options, with a long and possibly a short name, and a number of positional
arguments. A value stands behind its option as an argument of its own, behind an equals sign, or
right behind a short name; an argument that starts with a dash is no value. Short names of options
without a value may be written together. Two dashes end the options. An option is given at most
once, unless it collects values.
-/

namespace DeviceBus.Cli

/-- How an option takes values. -/
inductive Arity where
  /-- It has no value. -/
  | switch
  /-- It has one value. -/
  | single
  /-- It has a value each time it is given. -/
  | many
  deriving DecidableEq, Repr

/-- An option. -/
structure OptionSpec where
  name : String
  short : Option Char := none
  arity : Arity := .single
  /-- Which values it accepts. -/
  accepts : String → Bool := fun _ => true

/-- What a command knows. -/
structure Grammar where
  options : List OptionSpec
  /-- The number of positional arguments it takes. -/
  positionals : Nat
  /-- Whether the first positional argument ends the command's own part. -/
  isOuter : Bool := false

/-- What was found on a command line. -/
structure Matches where
  /-- The options given and their values, in order. -/
  options : List (String × String)
  positionals : List String
  /-- What the command leaves to an inner one. -/
  rest : List String
  deriving DecidableEq, Repr

namespace Matches

/-- Nothing was found. -/
def empty : Matches := ⟨[], [], []⟩

/-- The value of an option. -/
def value? (name : String) (found : Matches) : Option String := found.options.lookup name

/-- Every value of an option. -/
def values (name : String) (found : Matches) : List String :=
  (found.options.filter (·.1 == name)).map (·.2)

/-- Whether an option was given. -/
def has (name : String) (found : Matches) : Bool := (found.value? name).isSome

end Matches

/-- Why a command line is not followed. -/
inductive Halt where
  /-- It does not fit the grammar. -/
  | misuse
  /-- It asks for the version. -/
  | version
  deriving DecidableEq, Repr

/-- The name of the option that asks for the version. -/
def versionOption : String := "version"

/-- Take in an option. -/
def accept (spec : OptionSpec) (value : String) (found : Matches) : Except Halt Matches :=
  if !spec.accepts value || (spec.arity != .many && found.has spec.name) then .error .misuse
  else if spec.arity = .switch && spec.name == versionOption then .error .version
  else .ok { found with options := found.options ++ [(spec.name, value)] }

/-- Take in a positional argument. -/
def acceptPositional (grammar : Grammar) (argument : String) (found : Matches) :
    Except Halt Matches :=
  if found.positionals.length < grammar.positionals then
    .ok { found with positionals := found.positionals ++ [argument] }
  else .error .misuse

/-- Whether an argument is an option and not a value. -/
def isOption (argument : String) : Bool :=
  match argument.toList with
  | '-' :: _ :: _ => true
  | _ => false

/-- Take in a long option with its attached value, without the two dashes. An option that has to
have a value and brings none is the second part of the result. -/
def readLong (grammar : Grammar) (body : List Char) (found : Matches) :
    Except Halt (Matches × Option OptionSpec) :=
  let name := String.ofList (body.takeWhile (· != '='))
  match grammar.options.find? (·.name == name), body.dropWhile (· != '=') with
  | none, _ => .error .misuse
  | some spec, '=' :: value =>
    if spec.arity = .switch then .error .misuse
    else (accept spec (String.ofList value) found).map (·, none)
  | some spec, _ =>
    if spec.arity = .switch then (accept spec "" found).map (·, none)
    else .ok (found, some spec)

/-- Take in short options, without the dash. A switch may be followed by further short options, any
other option takes what is left as its value. One that brings no value is the second part of the
result. -/
def readShort (grammar : Grammar) :
    List Char → Matches → Except Halt (Matches × Option OptionSpec)
  | [], found => .ok (found, none)
  | short :: body, found =>
    match grammar.options.find? (·.short == some short) with
    | none => .error .misuse
    | some spec =>
      if spec.arity = .switch then (accept spec "" found).bind (readShort grammar body)
      else
        match body with
        | [] => .ok (found, some spec)
        | '=' :: value => (accept spec (String.ofList value) found).map (·, none)
        | value => (accept spec (String.ofList value) found).map (·, none)

/-- Take in the options of one argument. -/
def readOptions (grammar : Grammar) (argument : String) (found : Matches) :
    Except Halt (Matches × Option OptionSpec) :=
  match argument.toList with
  | '-' :: '-' :: body => readLong grammar body found
  | '-' :: body => readShort grammar body found
  | _ => .error .misuse

/-- Match arguments against a grammar. -/
def scan (grammar : Grammar) : List String → Matches → Except Halt Matches
  | [], found => .ok found
  | argument :: rest, found =>
    if argument = "--" then
      if grammar.isOuter then .error .misuse
      else rest.foldlM (fun found argument => acceptPositional grammar argument found) found
    else if isOption argument then
      match readOptions grammar argument found, rest with
      | .error halt, _ => .error halt
      | .ok (found, none), rest => scan grammar rest found
      | .ok (found, some spec), value :: rest =>
        if isOption value then .error .misuse
        else (accept spec value found).bind (scan grammar rest)
      | .ok (_, some _), [] => .error .misuse
    else if grammar.isOuter then
      .ok { found with positionals := [argument], rest }
    else (acceptPositional grammar argument found).bind (scan grammar rest)

end DeviceBus.Cli
