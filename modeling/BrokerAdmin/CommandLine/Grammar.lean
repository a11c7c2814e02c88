import BrokerAdmin.Text

/-!
# Reading a command line

A command line is a list of words. Words that begin with a dash name options; an option may take a
value, in the same word behind an equals sign or as the next word. Other words are operands, or the
name of a command, whose own words follow. Behind the word `--` every word is an operand.

## Why a value waits

A value that stands in a word of its own is put aside and looked at only when the next option or
operand is settled. A word that nobody knows is reported at once, and so it is reported rather than
what is wrong with a value before it. The waiting option is therefore a part of the state.

## Main definitions

* `OptionRule`, `Rules`: what may be written.
* `Matches`: what has been written.
* `UsageFault`: why a command line is refused.
* `Rules.read`, `Rules.complete`: reading words, and what the environment adds to them.
-/

namespace BrokerAdmin.CommandLine

/-- Why a command line is refused. -/
inductive UsageFault where
  /-- An explanation is asked for. -/
  | help
  /-- A word has no meaning here. -/
  | unknownArgument
  /-- Options exclude each other, or one is given twice. -/
  | conflict
  /-- An option that takes no value has one. -/
  | unexpectedValue
  /-- An option has no value, or an empty one where that means nothing. -/
  | missingValue
  /-- A value is none of those allowed. -/
  | invalidValue
  /-- An option or operand is missing. -/
  | missingArgument
  /-- There is no such command. -/
  | unknownCommand
  /-- No command is given. -/
  | missingCommand
  deriving DecidableEq, Repr

/-- What an option takes. -/
inductive OptionForm where
  /-- Nothing: it is there or not. -/
  | flag
  /-- A value. -/
  | value
  /-- Values with commas between them; it may be repeated. -/
  | values
  deriving DecidableEq, Repr

/-- What may be written for an option. -/
structure OptionRule where
  /-- The name, behind two dashes. -/
  name : String
  /-- What it takes. -/
  form : OptionForm := .value
  /-- The letter that stands for it, behind one dash. -/
  letter : Option Char := none
  /-- The variable of the environment that stands in for it. -/
  standIn : Option String := none
  /-- Why a value is refused, if it is. -/
  refuses : String → Option UsageFault := fun _ => none

/-- What may be written for a command. -/
structure Rules where
  /-- The options. -/
  options : List OptionRule := []
  /-- The number of operands. -/
  operands : Nat := 0
  /-- The names of commands that may follow. -/
  commands : List String := []

/-- What has been written. -/
structure Matches where
  /-- The values of the options, by their names. A flag that is set has the value `true`. -/
  options : List (String × List String) := []
  /-- The operands. -/
  operands : List String := []
  deriving DecidableEq, Repr

namespace Matches

/-- The values of an option. -/
def values (m : Matches) (name : String) : List String :=
  ((m.options.find? (·.1 = name)).map (·.2)).getD []

/-- The value of an option. -/
def value? (m : Matches) (name : String) : Option String := (m.values name).head?

/-- Whether an option is given. -/
def has (m : Matches) (name : String) : Bool := m.options.any (·.1 = name)

/-- Whether a flag is set. -/
def flag (m : Matches) (name : String) : Bool := m.value? name = some "true"

/-- The operand at a place. -/
def operand (m : Matches) (place : Nat) : String := (m.operands[place]?).getD ""

/-- Add values to an option. -/
def add (m : Matches) (name : String) (values : List String) : Matches :=
  { m with
    options := (name, m.values name ++ values) :: m.options.filter (·.1 != name) }

end Matches

namespace OptionRule

/-- The values in a text. -/
def split (rule : OptionRule) (text : String) : List String :=
  match rule.form with
  | .values => (splitFields ',' text.toList).map String.ofList
  | _ => [text]

/-- Settle an option with the text of its value. -/
def store (rule : OptionRule) (m : Matches) (text : String) : Except UsageFault Matches :=
  if rule.form != .values && m.has rule.name then .error .conflict
  else
    match (rule.split text).findSome? rule.refuses with
    | some fault => .error fault
    | none => .ok (m.add rule.name (rule.split text))

end OptionRule

/-- A command line in the middle of being read. -/
structure Reading where
  /-- What has been settled. -/
  settled : Matches := {}
  /-- An option that waits, and its value if that has been read. -/
  waiting : Option (OptionRule × Option String) := none
  /-- Whether all that follows are operands. -/
  onlyOperands : Bool := false

namespace Reading

/-- Settle the option that waits. -/
def settle (r : Reading) : Except UsageFault Reading :=
  match r.waiting with
  | none => .ok r
  | some (_, none) => .error .missingValue
  | some (rule, some text) => do
    let m ← rule.store r.settled text
    .ok { r with settled := m, waiting := none }

/-- Whether the next word is the value of an option. -/
def wantsValue (r : Reading) : Bool :=
  match r.waiting with
  | some (_, none) => !r.onlyOperands
  | _ => false

/-- The option that waits gets its value. -/
def give (r : Reading) (text : String) : Reading :=
  { r with waiting := r.waiting.map fun (rule, _) => (rule, some text) }

/-- An option is named, perhaps with a value in the same word. -/
def name (r : Reading) (rule : OptionRule) (attached : Option String) :
    Except UsageFault Reading :=
  match rule.form, attached with
  | .flag, some _ => .error .unexpectedValue
  | .flag, none => do
    let r ← r.settle
    let m ← rule.store r.settled "true"
    .ok { r with settled := m }
  | _, some text => do
    let r ← r.settle
    let m ← rule.store r.settled text
    .ok { r with settled := m }
  | _, none => do
    let r ← r.settle
    .ok { r with waiting := some (rule, none) }

end Reading

/-- What a word is, by its dashes. -/
inductive Word where
  /-- The two dashes before operands. -/
  | dashes
  /-- The name of an option, and the value behind an equals sign. -/
  | long (name : String) (attached : Option String)
  /-- The letters of options, the first one apart. -/
  | short (letter : Char) (rest : List Char)
  /-- Any other word. -/
  | plain
  deriving DecidableEq, Repr

/-- What a word is. A dash alone is nothing special. -/
def Word.ofText (s : String) : Word :=
  match s.toList with
  | ['-', '-'] => .dashes
  | '-' :: '-' :: cs =>
    .long (String.ofList (cs.takeWhile (· != '=')))
      (match cs.dropWhile (· != '=') with
        | [] => none
        | _ :: value => some (String.ofList value))
  | '-' :: c :: cs => .short c cs
  | _ => .plain

/-- The variables of the environment with their values. -/
abbrev Environment := List (String × String)

/-- The value of a variable. -/
def Environment.lookUp (environment : Environment) (name : String) : Option String :=
  (environment.find? (·.1 = name)).map (·.2)

/-- Refuse an empty value. -/
def refuseEmpty (s : String) : Option UsageFault := if s.isEmpty then some .missingValue else none

namespace Rules

/-- The option of a name. -/
def named (rules : Rules) (name : String) : Option OptionRule := rules.options.find? (·.name = name)

/-- The option of a letter. -/
def lettered (rules : Rules) (letter : Char) : Option OptionRule :=
  rules.options.find? (·.letter = some letter)

/-- An option is named by its name. Every command can explain itself. -/
def readLong (rules : Rules) (r : Reading) (name : String) (attached : Option String) :
    Except UsageFault Reading :=
  match rules.named name with
  | some rule => r.name rule attached
  | none =>
    if name = "help" then
      if attached.isSome then .error .unexpectedValue
      else do
        let _ ← r.settle
        .error .help
    else .error .unknownArgument

/-- Options are named by their letters. What follows the letter of an option with a value is the
value. -/
def readLetters (rules : Rules) : Reading → List Char → Except UsageFault Reading
  | r, [] => .ok r
  | r, c :: cs =>
    match rules.lettered c with
    | some rule =>
      if rule.form = .flag then do
        let r ← r.name rule none
        rules.readLetters r cs
      else
        match cs with
        | [] => r.name rule none
        | '=' :: value => r.name rule (some (String.ofList value))
        | value => r.name rule (some (String.ofList value))
    | none =>
      if c = 'h' then do
        let _ ← r.settle
        .error .help
      else .error .unknownArgument

/-- A word is an operand. -/
def readOperand (rules : Rules) (r : Reading) (word : String) : Except UsageFault Reading :=
  if r.settled.operands.length < rules.operands then do
    let r ← r.settle
    .ok { r with settled := { r.settled with operands := r.settled.operands ++ [word] } }
  else if rules.commands.isEmpty then .error .unknownArgument
  else .error .unknownCommand

/-- One word that names no command. -/
def readWord (rules : Rules) (r : Reading) (word : String) : Except UsageFault Reading :=
  if r.onlyOperands then rules.readOperand r word
  else
    match Word.ofText word with
    | .dashes => .ok { r with onlyOperands := true }
    | .long name attached => rules.readLong r name attached
    | .short c cs => rules.readLetters r (c :: cs)
    | .plain => if r.wantsValue then .ok (r.give word) else rules.readOperand r word

/-- Whether a word names a command here. -/
def isCommand (rules : Rules) (r : Reading) (word : String) : Bool :=
  !r.onlyOperands && !r.wantsValue &&
    (rules.commands.contains word || (word = "help" && !rules.commands.isEmpty))

/-- Read words up to the name of a command. What is left are the command and its own words. -/
def readWords (rules : Rules) : Reading → List String → Except UsageFault (Matches × List String)
  | r, [] => do
    let r ← r.settle
    .ok (r.settled, [])
  | r, word :: words =>
    if rules.isCommand r word then do
      let r ← r.settle
      .ok (r.settled, word :: words)
    else do
      let r ← rules.readWord r word
      rules.readWords r words

/-- Read words up to the name of a command. -/
def read (rules : Rules) (words : List String) : Except UsageFault (Matches × List String) :=
  rules.readWords {} words

/-- Add the value of the variable that stands in for an option, if the option is not given. -/
def stepIn (environment : Environment) (m : Matches) (rule : OptionRule) :
    Except UsageFault Matches :=
  if m.has rule.name then .ok m
  else
    match rule.standIn.bind (environment.lookUp ·) with
    | some text => rule.store m text
    | none => .ok m

/-- Add what the environment holds. -/
def complete (rules : Rules) (environment : Environment) (m : Matches) : Except UsageFault Matches :=
  rules.options.foldlM (stepIn environment) m

end Rules

end BrokerAdmin.CommandLine
