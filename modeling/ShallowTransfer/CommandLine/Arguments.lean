/-!
Arguments of commands. An option has a long name and possibly a letter, and either takes a value or
is a switch. A value is the rest of its argument or the next argument, unless that looks like an
option itself. Two hyphens end the options.
-/

namespace ShallowTransfer.CommandLine

/-- An option: its name, its letter, and whether it takes a value and has to be given. -/
structure OptionSpec where
  name : String
  letter : Option Char
  takesValue : Bool
  required : Bool
deriving Repr, DecidableEq

/-- What a command accepts: its options, and how many further arguments. -/
structure Usage where
  options : List OptionSpec
  positionals : Nat
deriving Repr, DecidableEq

/-- Why a command is not run: it was used wrongly, or only its description was asked for. -/
inductive Refusal where
  | misuse
  | description
deriving Repr, DecidableEq

/-- The arguments of a command so far. An option without the value it takes is recorded too, since
the description may still be asked for. -/
structure Arguments where
  values : List (String × String)
  switches : List String
  positionals : List String
  valueless : List String
deriving Repr, DecidableEq

namespace Arguments

/-- No arguments. -/
def empty : Arguments := ⟨[], [], [], []⟩

/-- The value of an option. -/
def value? (a : Arguments) (name : String) : Option String :=
  a.values.lookup name

/-- How often an option was given. -/
def occurrences (a : Arguments) (name : String) : Nat :=
  (a.values.map (·.1)).count name + a.switches.count name + a.valueless.count name

/-- Whether the options of a command were given as often as they have to and may be. -/
def complete (a : Arguments) (u : Usage) : Bool :=
  a.valueless.isEmpty && u.options.all fun o =>
    Nat.ble (a.occurrences o.name) 1 && (!o.required || a.occurrences o.name = 1)

/-- One more value. -/
def addValue (a : Arguments) (name value : String) : Arguments :=
  { a with values := a.values ++ [(name, value)] }

/-- One more switch. -/
def addSwitch (a : Arguments) (name : String) : Arguments :=
  { a with switches := a.switches ++ [name] }

/-- One more option without the value it takes. -/
def addValueless (a : Arguments) (name : String) : Arguments :=
  { a with valueless := a.valueless ++ [name] }

/-- One more argument that is no option, if there may be one more. -/
def addPositional (a : Arguments) (u : Usage) (text : String) : Except Refusal Arguments :=
  if a.positionals.length < u.positionals then
    .ok { a with positionals := a.positionals ++ [text] }
  else .error .misuse

end Arguments

/-- The letters and names that ask for the description of a command. -/
def isDescription (name : String) : Bool :=
  name = "help" || name = "version"

/-- The value that the next argument gives, and the arguments behind it. -/
def nextValue : List String → Option (String × List String)
  | [] => none
  | next :: rest =>
    if next.startsWith "-" && next ≠ "-" then none else some (next, rest)

/-- Takes an option with its value from the arguments behind it. -/
def takeValue (a : Arguments) (name : String) (rest : List String) : Arguments × List String :=
  match nextValue rest with
  | some (value, rest') => (a.addValue name value, rest')
  | none => (a.addValueless name, rest)

/-- Splits a long option into its name and the value attached to it. -/
def splitLong (body : List Char) : String × Option String :=
  let name := String.ofList (body.takeWhile fun c => c ≠ '=')
  match body.dropWhile fun c => c ≠ '=' with
  | [] => (name, none)
  | _ :: value => (name, some (String.ofList value))

/-- Reads a long option, given without its hyphens. -/
def readLong (u : Usage) (a : Arguments) (body : List Char) (rest : List String) :
    Except Refusal (Arguments × List String) :=
  let (name, attached) := splitLong body
  match u.options.find? fun o => o.name = name with
  | some o =>
    match o.takesValue, attached with
    | true, some value => .ok (a.addValue name value, rest)
    | true, none => .ok (takeValue a name rest)
    | false, none => .ok (a.addSwitch name, rest)
    | false, some _ => .error .misuse
  | none => if isDescription name && attached.isNone then .error .description else .error .misuse

/-- The value attached to a letter, which an equals sign may go before. -/
def attachedToLetter : List Char → String
  | '=' :: value => String.ofList value
  | value => String.ofList value

/-- Reads letters of options, given without their hyphen. -/
def readLetters (u : Usage) (a : Arguments) (rest : List String) :
    List Char → Except Refusal (Arguments × List String)
  | [] => .ok (a, rest)
  | c :: more =>
    match u.options.find? fun o => o.letter = some c with
    | some o =>
      if o.takesValue then
        if more.isEmpty then .ok (takeValue a o.name rest)
        else .ok (a.addValue o.name (attachedToLetter more), rest)
      else readLetters u (a.addSwitch o.name) rest more
    | none => if c = 'h' || c = 'V' then .error .description else .error .misuse

/-- Reads arguments that are no options. -/
def readPositionals (u : Usage) (a : Arguments) : List String → Except Refusal Arguments
  | [] => .ok a
  | text :: rest =>
    match a.addPositional u text with
    | .ok a' => readPositionals u a' rest
    | .error e => .error e

/-- Reads arguments; the number bounds how many there are. -/
def readArguments (u : Usage) : Nat → Arguments → List String → Except Refusal Arguments
  | 0, a, _ => .ok a
  | _, a, [] => .ok a
  | fuel + 1, a, text :: rest =>
    match text.toList with
    | ['-', '-'] => readPositionals u a rest
    | '-' :: '-' :: body =>
      match readLong u a body rest with
      | .ok (a', rest') => readArguments u fuel a' rest'
      | .error e => .error e
    | '-' :: c :: body =>
      match readLetters u a rest (c :: body) with
      | .ok (a', rest') => readArguments u fuel a' rest'
      | .error e => .error e
    | _ =>
      match a.addPositional u text with
      | .ok a' => readArguments u fuel a' rest
      | .error e => .error e

/-- The arguments of a command, if they are as its usage asks. -/
def Usage.parse (u : Usage) (args : List String) : Except Refusal Arguments :=
  match readArguments u args.length .empty args with
  | .error e => .error e
  | .ok a => if a.complete u then .ok a else .error .misuse

end ShallowTransfer.CommandLine
