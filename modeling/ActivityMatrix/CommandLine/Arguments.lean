/-!
# Command line arguments

Arguments are options and operands. An option is called by a word after two dashes or by a letter
after one dash; letters can be joined. The value of an option follows an equals sign after the word,
or is what is left after the letter, or else is the next argument, whatever that looks like. Two
dashes alone end the options, and one dash alone is an operand.
-/

namespace ActivityMatrix.CommandLine

/-- An option: the word and the letter it is called by, and whether it has a value. -/
structure OptionRule where
  /-- The word, without dashes. -/
  word : String
  letter : Option Char := none
  hasValue : Bool := false
  deriving DecidableEq, Repr, Inhabited

/-- Why arguments are refused. -/
inductive UsageError where
  | unknownOption (name : String)
  | missingValue (word : String)
  /-- A value is given to an option that has none. -/
  | needlessValue (word : String)
  | unknownCommand (name : String)
  | missingCommand
  | missingOperand
  | needlessOperand (text : String)
  /-- A directory is given where a file is needed. -/
  | directoryGiven (path : String)
  deriving DecidableEq, Repr, Inhabited

namespace UsageError

/-- What is wrong, in words. -/
def message : UsageError → String
  | unknownOption name => s!"No such option: {name}"
  | missingValue word => s!"Option --{word} requires an argument"
  | needlessValue word => s!"Option --{word} does not take a value"
  | unknownCommand name => s!"No such command: {name}"
  | missingCommand => "Missing command"
  | missingOperand => "Missing argument: the file of the matrix"
  | needlessOperand text => s!"Unexpected argument: {text}"
  | directoryGiven path => s!"Not a file but a directory: {path}"

end UsageError

/-- Arguments as they are given: options by their words, with their values, and operands. -/
structure Arguments where
  options : List (String × Option String) := []
  operands : List String := []
  deriving DecidableEq, Repr, Inhabited

namespace Arguments

def has (given : Arguments) (word : String) : Bool :=
  given.options.any (·.1 == word)

/-- The value that is given last to an option. -/
def value? (given : Arguments) (word : String) : Option String :=
  (given.options.reverse.lookup word).join

/-- The arguments with more options in front. -/
def withOptions (given : Arguments) (options : List (String × Option String)) : Arguments :=
  { given with options := options ++ given.options }

/-- The arguments with an operand in front. -/
def withOperand (given : Arguments) (operand : String) : Arguments :=
  { given with operands := operand :: given.operands }

/-- What an argument that starts with a dash says: the options it gives, and one whose value is the
next argument. -/
structure OptionGroup where
  complete : List (String × Option String) := []
  waiting : Option OptionRule := none
  deriving DecidableEq, Repr, Inhabited

/-- An option that is called by its word, with what follows the dashes. -/
def ofWord (rules : List OptionRule) (text : List Char) : Except UsageError OptionGroup :=
  let word := String.ofList (text.takeWhile (· != '='))
  match rules.find? (·.word == word), text.dropWhile (· != '=') with
  | none, _ => .error (.unknownOption ("--" ++ word))
  | some rule, '=' :: value =>
      if rule.hasValue then .ok { complete := [(word, some (String.ofList value))] }
      else .error (.needlessValue word)
  | some rule, _ =>
      if rule.hasValue then .ok { waiting := some rule } else .ok { complete := [(word, none)] }

/-- Options that are called by their letters. -/
def ofLetters (rules : List OptionRule) : List Char → Except UsageError OptionGroup
  | [] => .ok {}
  | letter :: rest =>
      match rules.find? (·.letter == some letter) with
      | none => .error (.unknownOption (String.ofList ['-', letter]))
      | some rule =>
          if !rule.hasValue then do
            let group ← ofLetters rules rest
            return { group with complete := (rule.word, none) :: group.complete }
          else if rest.isEmpty then .ok { waiting := some rule }
          else .ok { complete := [(rule.word, some (String.ofList rest))] }

/-- What an argument says: options, or nothing if it is an operand. -/
def optionGroup? (rules : List OptionRule) (text : List Char) :
    Except UsageError (Option OptionGroup) :=
  match text with
  | '-' :: '-' :: word => (ofWord rules word).map some
  | '-' :: letter :: letters => (ofLetters rules (letter :: letters)).map some
  | _ => .ok none

/-- Reads arguments. Unless options may follow operands, the first operand ends the options. -/
def read (rules : List OptionRule) (mixed : Bool) : List String → Except UsageError Arguments
  | [] => .ok {}
  | argument :: rest =>
      if argument == "--" then .ok { operands := rest }
      else do
        match ← optionGroup? rules argument.toList with
        | none =>
            if mixed then return (← read rules mixed rest).withOperand argument
            else return { operands := argument :: rest }
        | some group =>
            match group.waiting, rest with
            | none, rest => return (← read rules mixed rest).withOptions group.complete
            | some rule, [] => throw (.missingValue rule.word)
            -- the next argument is the value, whatever it looks like
            | some rule, value :: rest =>
                return (← read rules mixed rest).withOptions
                  (group.complete ++ [(rule.word, some value)])

end Arguments

end ActivityMatrix.CommandLine
