import ReportSearch.Text.Blank

/-!
# Words of a command line

A command line is read word by word. An option has a long name and perhaps a letter; its value is
attached to it or is the next word. A value is checked only when the next option, a word that has
its own place or the end comes, so that of two faults the later word may be the one that is told.
After two dashes every word has its own place.
-/

set_option autoImplicit false

namespace ReportSearch

open Text

/-- Why a command line is refused, or answered with help. -/
inductive UsageFault where
  | help
  /-- Nothing was given where something has to be, which is answered with help. -/
  | helpForNothing
  | unknownArgument
  | unknownCommand
  | missingCommand
  /-- An option that may be given once was given again. -/
  | conflict
  | badValue
  | missingValue
  /-- A flag was given a value. -/
  | tooManyValues
  deriving DecidableEq, Repr

/-- An option that takes a value. -/
structure ValueOption where
  name : String
  letter : Option Char := none
  isRepeated : Bool := false
  /-- What is wrong with a value. -/
  fault? : String → Option UsageFault := fun _ => none

/-- What may stand on a command line. -/
structure ArgumentGrammar where
  options : List ValueOption := []
  flags : List String := []
  /-- The number of words that have their own place. -/
  wordCount : Nat := 0
  commands : List String := []

/-- What was read so far. -/
structure Arguments where
  /-- The values that were accepted, each under the name of its option. -/
  values : List (String × String) := []
  flags : List String := []
  words : List String := []
  /-- The option that was read last, with its value once it has one. -/
  waiting : Option (ValueOption × Option String) := none
  /-- Whether the two dashes have come. -/
  isPastDashes : Bool := false

namespace Arguments

def valuesOf (arguments : Arguments) (name : String) : List String :=
  (arguments.values.filter (·.1 = name)).map (·.2)

def has (arguments : Arguments) (name : String) : Bool := arguments.values.any (·.1 = name)

def accept (arguments : Arguments) (option : ValueOption) (value : String) :
    Except UsageFault Arguments :=
  if !option.isRepeated && arguments.has option.name then .error .conflict
  else match option.fault? value with
    | some fault => .error fault
    | none => .ok { arguments with values := arguments.values ++ [(option.name, value)] }

/-- Accepts the value of the option that was read last. -/
def settle (arguments : Arguments) : Except UsageFault Arguments :=
  match arguments.waiting with
  | none => .ok arguments
  | some (_, none) => .error .missingValue
  | some (option, some value) => { arguments with waiting := none }.accept option value

def awaitsValue (arguments : Arguments) : Bool :=
  match arguments.waiting with
  | some (_, none) => true
  | _ => false

/-- Takes an option with the value that is attached to it, if one is. -/
def takeOption (arguments : Arguments) (option : ValueOption) (value : Option (List Char)) :
    Except UsageFault Arguments := do
  let settled ← arguments.settle
  match value with
  | some value => settled.accept option (String.ofList value)
  | none => return { settled with waiting := some (option, none) }

def takeHelp (arguments : Arguments) : Except UsageFault Arguments := do
  let _ ← arguments.settle
  throw .help

def takeFlag (arguments : Arguments) (name : String) : Except UsageFault Arguments := do
  let settled ← arguments.settle
  if settled.flags.contains name then throw .conflict
  return { settled with flags := settled.flags ++ [name] }

/-- Takes what follows two dashes: a name, and perhaps an equals sign and a value. -/
def takeLong (grammar : ArgumentGrammar) (arguments : Arguments) (text : List Char) :
    Except UsageFault Arguments :=
  let (name, value) := match cutAt? '=' text with
    | some (name, value) => (String.ofList name, some value)
    | none => (String.ofList text, none)
  match grammar.options.find? (·.name = name) with
  | some option => arguments.takeOption option value
  | none =>
    if name = "help" || grammar.flags.contains name then
      if value.isSome then .error .tooManyValues
      else if name = "help" then arguments.takeHelp
      else arguments.takeFlag name
    else .error .unknownArgument

def attached : List Char → Option (List Char)
  | [] => none
  | '=' :: value => some value
  | value => some value

/-- Takes what follows one dash: a letter, and perhaps a value. -/
def takeShort (grammar : ArgumentGrammar) (arguments : Arguments) (letter : Char)
    (rest : List Char) : Except UsageFault Arguments :=
  match grammar.options.find? (·.letter = some letter) with
  | some option => arguments.takeOption option (attached rest)
  | none => if letter = 'h' then arguments.takeHelp else .error .unknownArgument

def takePlaced (grammar : ArgumentGrammar) (arguments : Arguments) (word : String) :
    Except UsageFault Arguments :=
  if arguments.words.length < grammar.wordCount then
    arguments.settle.map fun settled => { settled with words := settled.words ++ [word] }
  else if grammar.commands.isEmpty || grammar.commands.contains word then .error .unknownArgument
  else .error .unknownCommand

/-- Takes a word that neither is an option nor has its own place because of the two dashes. -/
def takePlain (grammar : ArgumentGrammar) (arguments : Arguments) (word : String) :
    Except UsageFault Arguments :=
  match arguments.waiting with
  | some (option, none) => .ok { arguments with waiting := some (option, some word) }
  | _ => arguments.takePlaced grammar word

def take (grammar : ArgumentGrammar) (arguments : Arguments) (word : String) :
    Except UsageFault Arguments :=
  if arguments.isPastDashes then arguments.takePlaced grammar word
  else match word.toList with
    | ['-', '-'] => .ok { arguments with isPastDashes := true }
    | '-' :: '-' :: text => arguments.takeLong grammar text
    | '-' :: letter :: rest => arguments.takeShort grammar letter rest
    | _ => arguments.takePlain grammar word

/-- Takes words up to a command, which ends the reading; what follows it is left. -/
def takeUntilCommand (grammar : ArgumentGrammar) :
    Arguments → List String → Except UsageFault (Arguments × Option (String × List String))
  | arguments, [] => .ok (arguments, none)
  | arguments, word :: rest =>
    if !arguments.isPastDashes && !arguments.awaitsValue && grammar.commands.contains word then
      .ok (arguments, some (word, rest))
    else do takeUntilCommand grammar (← arguments.take grammar word) rest

/-- Reads all words of a command that has no commands of its own. -/
def ofWords (grammar : ArgumentGrammar) (words : List String) : Except UsageFault Arguments := do
  let (arguments, _) ← takeUntilCommand grammar {} words
  arguments.settle

end Arguments

end ReportSearch
