import PrinterRoster.Text.Numeral

/-! The command line. There are two commands, each with options of its own, and
one option that may stand before or after the command. The value of an option
stands in the same word after an equals sign or is the next word that does not
begin with a dash. After the word `--` no word is an option. -/
namespace PrinterRoster.CommandLine
open Text

inductive Command
  | discover (seconds : Nat) (hosts : List String)
  | probe (host : String)
deriving DecidableEq

structure Invocation where
  config : Option String
  command : Command
deriving DecidableEq

inductive Refusal
  | helpAsked
  | versionAsked
  | nothingGiven
  | commandMissing
  | unknownCommand
  | unknownArgument
  | valueMissing
  | valueMalformed
  | valueUnneeded
  | argumentMissing
  | argumentRepeated
deriving DecidableEq

def Refusal.kind : Refusal → String
  | helpAsked => "DisplayHelp"
  | versionAsked => "DisplayVersion"
  | nothingGiven => "DisplayHelpOnMissingArgumentOrSubcommand"
  | commandMissing => "MissingSubcommand"
  | unknownCommand => "InvalidSubcommand"
  | unknownArgument => "UnknownArgument"
  | valueMissing => "InvalidValue"
  | valueMalformed => "ValueValidation"
  | valueUnneeded => "TooManyValues"
  | argumentMissing => "MissingRequiredArgument"
  | argumentRepeated => "ArgumentConflict"

/-- The exit code after a refusal: to show what was asked for is no failure. -/
def Refusal.exitCode : Refusal → Nat
  | helpAsked | versionAsked => 0
  | _ => 2

inductive Level
  | top
  | discover
  | probe
deriving DecidableEq

inductive Parameter
  | config
  | seconds
  | host
deriving DecidableEq

def Level.parameter? (level : Level) (name : List Char) : Option Parameter :=
  if name = "config".toList then some .config
  else if level = .discover && name = "seconds".toList then some .seconds
  else if level = .discover && name = "host".toList then some .host
  else none

/-- What the words of one level have given. An option whose value is yet to come,
or has come and is yet to be read, is pending. -/
structure Given where
  config : Option String := none
  seconds : Option Nat := none
  hosts : List String := []
  target : Option String := none
  pending : Option (Parameter × Option String) := none

def seconds? (text : String) : Option Nat :=
  let digits := match text.toList with
    | '+' :: rest => rest
    | all => all
  (Decimal.value? digits).filter (· < UInt64.size)

namespace Given

def assign (given : Given) (value : String) : Parameter → Except Refusal Given
  | .config =>
    if given.config.isSome then .error .argumentRepeated
    else if value.isEmpty then .error .valueMissing
    else .ok { given with config := some value }
  | .seconds =>
    if given.seconds.isSome then .error .argumentRepeated
    else
      match seconds? value with
      | some seconds => .ok { given with seconds := some seconds }
      | none => .error .valueMalformed
  | .host => .ok { given with hosts := given.hosts ++ [value] }

def resolve (given : Given) : Except Refusal Given :=
  match given.pending with
  | none => .ok given
  | some (_, none) => .error .valueMissing
  | some (parameter, some value) => assign { given with pending := none } value parameter

def awaitsValue (given : Given) : Bool :=
  match given.pending with
  | some (_, none) => true
  | _ => false

def supply (given : Given) (value : String) : Given :=
  { given with pending := given.pending.map fun pending => (pending.1, some value) }

def takeOption (given : Given) (level : Level) (name : List Char) (value : Option String) :
    Except Refusal Given :=
  match level.parameter? name with
  | some parameter => do
    let given ← given.resolve
    match value with
    | some value => given.assign value parameter
    | none => return { given with pending := some (parameter, none) }
  | none =>
    if name = "help".toList || level = .top && name = "version".toList then
      if value.isSome then .error .valueUnneeded
      else do
        let _ ← given.resolve
        throw (if name = "help".toList then .helpAsked else .versionAsked)
    else .error .unknownArgument

def takeLetters (given : Given) (level : Level) (letter : Char) : Except Refusal Given :=
  if letter = 'h' then do
    let _ ← given.resolve
    throw .helpAsked
  else if level = .top && letter = 'V' then do
    let _ ← given.resolve
    throw .versionAsked
  else .error .unknownArgument

end Given

inductive Shape
  | divider
  | long (name : List Char) (value : Option String)
  | letters (first : Char)
  | plain

def shape (word : String) : Shape :=
  match word.toList with
  | ['-', '-'] => .divider
  | '-' :: '-' :: rest =>
    let name := rest.takeWhile (· != '=')
    .long name
      (if name.length = rest.length then none else some (String.ofList (rest.drop (name.length + 1))))
  | '-' :: letter :: _ => .letters letter
  | _ => .plain

def isCommandName (word : String) : Bool := word = "discover" || word = "probe" || word = "help"

def takePlain (level : Level) (given : Given) (word : String) : Except Refusal Given :=
  if level = .probe && given.target.isNone then do
    let given ← given.resolve
    return { given with target := some word }
  else .error .unknownArgument

def readLevel (level : Level) (given : Given) (divided : Bool) : List String → Except Refusal Given
  | [] => given.resolve
  | word :: others => do
    if divided then readLevel level (← takePlain level given word) divided others
    else
      match shape word with
      | .divider => readLevel level given true others
      | .long name value => readLevel level (← given.takeOption level name value) divided others
      | .letters letter => readLevel level (← given.takeLetters level letter) divided others
      | .plain =>
        if given.awaitsValue then readLevel level (given.supply word) divided others
        else readLevel level (← takePlain level given word) divided others

def defaultSeconds : Nat := 10

def chosen (level : Level) (given : Given) : Except Refusal Command :=
  if level = .discover then .ok (.discover (given.seconds.getD defaultSeconds) given.hosts)
  else
    match given.target with
    | some host => .ok (.probe host)
    | none => .error .argumentMissing

/-- Reads the words after a command into an invocation. An option that stands
before and after the command has the value that stands after it. -/
def readCommand (outer : Given) (level : Level) (words : List String) :
    Except Refusal Invocation := do
  let inner ← readLevel level {} false words
  let command ← chosen level inner
  let outer ← outer.resolve
  return ⟨inner.config.or outer.config, command⟩

def readHelp : List String → Refusal
  | [] => .helpAsked
  | [word] => if isCommandName word then .helpAsked else .unknownCommand
  | _ => .unknownCommand

def readTop (given : Given) (divided : Bool) : List String → Except Refusal Invocation
  | [] => do
    let given ← given.resolve
    throw (if given.config.isSome then .commandMissing else .nothingGiven)
  | word :: others => do
    if divided then throw (if isCommandName word then .unknownArgument else .unknownCommand)
    else
      match shape word with
      | .divider => readTop given true others
      | .long name value => readTop (← given.takeOption .top name value) divided others
      | .letters letter => readTop (← given.takeLetters .top letter) divided others
      | .plain =>
        if given.awaitsValue then readTop (given.supply word) divided others
        else if word = "discover" then readCommand given .discover others
        else if word = "probe" then readCommand given .probe others
        else if word = "help" then throw (readHelp others)
        else throw .unknownCommand

def parse (words : List String) : Except Refusal Invocation := readTop {} false words

end PrinterRoster.CommandLine
