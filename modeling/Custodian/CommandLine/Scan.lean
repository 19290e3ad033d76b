import Custodian.Text.Basic

/-!
# Scanning a command line

A command line is scanned word by word against a form: which switches there are and how many plain
arguments. A switch with a value takes it from the same word after an equals sign or from the next word.
Two hyphens end the switches. Words are settled late: a value is checked when the next switch or
argument begins, so of two mistakes it is not always the first that is reported.
-/

namespace Custodian.CommandLine

/-- Why a command line is refused. -/
inductive UsageError where
  | help
  | helpForNothing
  | unknownCommand
  | noCommand
  | missingArgument
  | unknownArgument
  | badValue
  | unwantedValue
  | repeated
deriving DecidableEq

def UsageError.message : UsageError → Text
  | .help => "Usage: custodian [--config <PATH>] <COMMAND>"
  | .helpForNothing => "Usage: custodian [--config <PATH>] <COMMAND>"
  | .unknownCommand => "there is no such command"
  | .noCommand => "a command is missing"
  | .missingArgument => "an argument is missing"
  | .unknownArgument => "an argument is not expected"
  | .badValue => "a value is missing or empty"
  | .unwantedValue => "a value is not expected"
  | .repeated => "a switch is given twice"

/-- Whether a value may be empty. -/
inductive ValueKind where
  | text
  | path
deriving DecidableEq

/-- Whether a value is acceptable: a path is not empty. -/
def ValueKind.accepts (kind : ValueKind) (value : Text) : Bool :=
  kind = .text || !value.isEmpty

/-- A switch; one without a value kind takes no value. -/
structure Switch where
  name : Text
  value : Option ValueKind

/-- The switches and plain arguments of a command. -/
structure Form where
  switches : List Switch
  arguments : List ValueKind
  /-- The commands that may follow. -/
  commands : List Text

/-- What has been read but not settled. -/
inductive Pending where
  | nothing
  /-- A switch that still waits for its value. -/
  | awaiting (name : Text) (kind : ValueKind)
  | value (name : Text) (kind : ValueKind) (v : Text)
  | argument (kind : ValueKind) (v : Text)

/-- What has been settled: the switches with their values, and the plain arguments. -/
structure Scanned where
  switches : List (Text × Text)
  arguments : List Text

/-- The state of a scan. -/
structure Scan where
  settled : Scanned
  pending : Pending
  /-- Whether two hyphens have ended the switches. -/
  ended : Bool

namespace Scan

def initial : Scan := ⟨⟨[], []⟩, .nothing, false⟩

/-- Whether the next word is the value of a switch. -/
def isAwaiting (s : Scan) : Bool :=
  match s.pending with
  | .awaiting .. => true
  | _ => false

/-- How many plain arguments have been read. -/
def count (s : Scan) : Nat :=
  s.settled.arguments.length + match s.pending with
    | .argument .. => 1
    | _ => 0

/-- Settles a switch, which must be new, with its value. -/
def addSwitch (s : Scan) (name : Text) (kind : ValueKind) (v : Text) : Except UsageError Scan :=
  if s.settled.switches.any fun e => e.1 = name then .error .repeated
  else if kind.accepts v then
    .ok { s with
      settled := { s.settled with switches := s.settled.switches ++ [(name, v)] }
      pending := .nothing }
  else .error .badValue

def settle (s : Scan) : Except UsageError Scan :=
  match s.pending with
  | .nothing => .ok s
  | .awaiting .. => .error .badValue
  | .value name kind v => s.addSwitch name kind v
  | .argument kind v =>
    if kind.accepts v then
      .ok { s with
        settled := { s.settled with arguments := s.settled.arguments ++ [v] }
        pending := .nothing }
    else .error .badValue

/-! ### Words -/

def helpName : Text := "help"

/-- A long switch: its name and the value after an equals sign. -/
def long? (word : Text) : Option (Text × Option Text) :=
  match word with
  | '-' :: '-' :: name =>
    if name.isEmpty then none
    else some (name.takeWhile (· ≠ '='), Text.after? ['='] (name.dropWhile (· ≠ '=')))
  | _ => none

/-- The first letter of a short switch. -/
def short? (word : Text) : Option Char :=
  match word with
  | '-' :: c :: _ => if c = '-' then none else some c
  | _ => none

/-- Shows the help, after settling what is pending. -/
def showHelp {α : Type} (s : Scan) : Except UsageError α := do
  let _ ← s.settle
  .error .help

def readLong (form : Form) (s : Scan) (name : Text) (value : Option Text) : Except UsageError Scan :=
  match form.switches.find? (·.name == name), value with
  | none, value =>
    if name = helpName then if value.isSome then .error .unwantedValue else s.showHelp
    else .error .unknownArgument
  | some ⟨_, none⟩, some _ => .error .unwantedValue
  | some ⟨_, none⟩, none => do (← s.settle).addSwitch name .text []
  | some ⟨_, some kind⟩, some v => do (← s.settle).addSwitch name kind v
  | some ⟨_, some kind⟩, none => do return { ← s.settle with pending := .awaiting name kind }

/-- Reads a short switch; only the help has one. -/
def readShort (s : Scan) (letter : Char) : Except UsageError Scan :=
  if letter = 'h' then s.showHelp else .error .unknownArgument

/-- What is wrong with a word for which there is no place. -/
def noPlace (form : Form) (s : Scan) (word : Text) : UsageError :=
  if form.commands.isEmpty || (s.ended && form.commands.contains word) then .unknownArgument
  else .unknownCommand

def readArgument (form : Form) (s : Scan) (word : Text) : Except UsageError Scan :=
  match form.arguments[s.count]? with
  | none => .error (s.noPlace form word)
  | some kind => do return { ← s.settle with pending := .argument kind word }

/-- Reads a word that is no command. -/
def readWord (form : Form) (s : Scan) (word : Text) : Except UsageError Scan :=
  if s.ended then s.readArgument form word
  else if word = ['-', '-'] then .ok { s with ended := true }
  else match long? word, short? word with
    | some (name, value), _ => s.readLong form name value
    | none, some letter => s.readShort letter
    | none, none =>
      match s.pending with
      | .awaiting name kind => .ok { s with pending := .value name kind word }
      | _ => s.readArgument form word

/-- Whether a word in a state is a command. -/
def isCommand (form : Form) (s : Scan) (word : Text) : Bool :=
  !s.ended && !s.isAwaiting && form.commands.contains word

/-- Reads words up to a command: what was settled, and the command with the words after it. -/
def readWords (form : Form) (s : Scan) :
    List Text → Except UsageError (Scan × Option (Text × List Text))
  | [] => .ok (s, none)
  | word :: words =>
    if s.isCommand form word then .ok (s, some (word, words))
    else do readWords form (← s.readWord form word) words

end Scan

end Custodian.CommandLine
