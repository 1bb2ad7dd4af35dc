/-
Reading a command line. Options may stand anywhere behind the word of
their command, with their value attached or as the next argument, and
two dashes end them. The configuration file can be given before the
command as well as behind it; the later one counts.
-/
import FileDepot.CommandLine.Slot

namespace FileDepot.CommandLine

-- =========================================================== arguments

/-- How an argument reads by itself. A long option has a word, a short
one a letter, and either may have a value attached. -/
inductive Argument where
  | dashes
  | long (word : String) (attached : Option String)
  | short (letter : Char) (attached : Option String)
  | plain (text : String)
  deriving DecidableEq, Repr

/-- The value attached to a letter; an equals sign in front of it is
not part of it. -/
def attachedTo : List Char → Option String
  | [] => none
  | '=' :: rest => some (String.ofList rest)
  | cs => some (String.ofList cs)

/-- Reads an argument by itself. A single dash is plain. -/
def Argument.ofText (text : String) : Argument :=
  match text.toList with
  | ['-', '-'] => .dashes
  | '-' :: '-' :: rest =>
    let word := String.ofList (rest.takeWhile (· != '='))
    match rest.dropWhile (· != '=') with
    | [] => .long word none
    | _ :: value => .long word (some (String.ofList value))
  | '-' :: letter :: rest => .short letter (attachedTo rest)
  | _ => .plain text

/-- What an option stands for. -/
inductive Meaning where
  | slot (slot : Slot)
  | help
  | version
  | unknown
  deriving DecidableEq, Repr

/-- The meaning of a long option where some slots can be given; the
version can be asked for before a command only. -/
def longMeaning (slots : List Slot) (atRoot : Bool) (word : String) :
    Meaning :=
  match slots.find? fun s => s.long? == some word with
  | some slot => .slot slot
  | none =>
    if word = "help" then .help
    else if word = "version" ∧ atRoot = true then .version
    else .unknown

/-- The meaning of a short option. -/
def shortMeaning (slots : List Slot) (atRoot : Bool) (letter : Char) :
    Meaning :=
  match slots.find? fun s => s.short? == some letter with
  | some slot => .slot slot
  | none =>
    if letter = 'h' then .help
    else if letter = 'V' ∧ atRoot = true then .version
    else .unknown

/-- Takes an option in. Help and the version are shown once what came
before is in order; a word for them has no value. -/
def takeOption (command : Option CommandName) (meaning : Meaning)
    (attached : Option String) (isLong : Bool) (i : Intake) :
    Except UsageFault Intake :=
  match meaning with
  | .slot slot => i.begin? slot attached
  | .unknown => .error .unknownArgument
  | .help =>
    if isLong && attached.isSome then .error .tooManyValues
    else do
      let _ ← i.settle
      .error (.help command)
  | .version =>
    if isLong && attached.isSome then .error .tooManyValues
    else do
      let _ ← i.settle
      .error .version

-- ============================================================ commands

/-- Takes an argument that is given by its position. -/
def takePath (command : CommandName) (text : String) (i : Intake) :
    Except UsageFault Intake :=
  let isTaken :=
    (i.value? .path).isSome || (i.pending.map (·.1)) == some .path
  if command.takesPath && !isTaken then do
    let i ← i.settle
    .ok { i with pending := some (.path, some text) }
  else .error .unknownArgument

/-- Reads the arguments of a command; behind two dashes they are all
given by position. -/
def readArguments (command : CommandName) :
    Bool → Intake → List String → Except UsageFault Intake
  | _, i, [] => i.settle
  | true, i, text :: rest => do
    let i ← takePath command text i
    readArguments command true i rest
  | false, i, text :: rest => do
    match Argument.ofText text with
    | .dashes => readArguments command true i rest
    | .long word attached =>
      let meaning := longMeaning command.options false word
      let i ← takeOption (some command) meaning attached true i
      readArguments command false i rest
    | .short letter attached =>
      let meaning := shortMeaning command.options false letter
      let i ← takeOption (some command) meaning attached false i
      readArguments command false i rest
    | .plain _ =>
      if i.isWaiting then readArguments command false (i.supply text) rest
      else do
        let i ← takePath command text i
        readArguments command false i rest

/-- Reads what stands behind the word of a command. -/
def readCommand (command : CommandName) (env : Option String)
    (arguments : List String) : Except UsageFault Intake := do
  let i ← readArguments command false {} arguments
  i.checkDefault .config env
  if command.required.all fun slot => (i.value? slot).isSome then .ok i
  else .error .missingRequired

/-- The days where none are given. -/
def defaultDays : Nat := 30

/-- The command that the values taken in make. -/
def Intake.command (i : Intake) (command : CommandName) : Command :=
  let text := fun slot => (i.value? slot).getD ""
  let location : Location := ⟨text .bucket, text .name⟩
  match command with
  | .store => .store location (text .path)
  | .download => .download location (text .path)
  | .describe => .describe location
  | .clean =>
    .clean (text .bucket)
      (((i.value? .days).bind Slot.days?).getD defaultDays)
  | .initSchema => .initSchema

-- ================================================================ root

/-- The word that asks for help. -/
def helpWord : String := "help"

/-- Help on what the words behind `help` name: nothing, one command, or
help itself. -/
def readHelp : List String → UsageFault
  | [] => .help none
  | [word] =>
    match CommandName.ofWord? word with
    | some command => .help (some command)
    | none => if word = helpWord then .help none else .invalidSubcommand
  | _ :: _ :: _ => .invalidSubcommand

/-- What stands before a command, once all of it is read: the slots it
has and the command with its own. -/
structure Reading where
  root : Intake
  command : Option (CommandName × Intake)

/-- Ends the reading of the root: what is pending is taken in, then the
environment is checked. -/
def finishRoot (env : Option String) (i : Intake)
    (command : Option (CommandName × Intake)) :
    Except UsageFault Reading := do
  let i ← i.settle
  i.checkDefault .config env
  .ok ⟨i, command⟩

/-- Reads a command line from its start. -/
def readRoot (env : Option String) :
    Bool → Intake → List String → Except UsageFault Reading
  | _, i, [] => finishRoot env i none
  | true, _, text :: _ =>
    if (CommandName.ofWord? text).isSome ∨ text = helpWord then
      .error .unknownArgument
    else .error .invalidSubcommand
  | false, i, text :: rest => do
    match Argument.ofText text with
    | .dashes => readRoot env true i rest
    | .long word attached =>
      let i ← takeOption none (longMeaning [.config] true word) attached
        true i
      readRoot env false i rest
    | .short letter attached =>
      let i ← takeOption none (shortMeaning [.config] true letter) attached
        false i
      readRoot env false i rest
    | .plain _ =>
      if i.isWaiting then readRoot env false (i.supply text) rest
      else
        match CommandName.ofWord? text with
        | some command => do
          let inner ← readCommand command env rest
          finishRoot env i (some (command, inner))
        | none =>
          if text = helpWord then .error (readHelp rest)
          else .error .invalidSubcommand

/-- The configuration file that counts: the one behind the command,
else the one before it, else that of the environment. -/
def configOf (env : Option String) (root inner : Intake) : Option String :=
  match inner.value? .config with
  | some path => some path
  | none =>
    match root.value? .config with
    | some path => some path
    | none => env

/-- Reads a command line, given the value of the environment variable
for the configuration file. -/
def parse (env : Option String) (arguments : List String) :
    Except UsageFault Invocation := do
  let reading ← readRoot env false {} arguments
  match reading.command with
  | some (command, inner) =>
    .ok ⟨inner.command command, configOf env reading.root inner⟩
  | none =>
    if reading.root.values.isEmpty && env.isNone then .error .helpOnMissing
    else .error .missingSubcommand

/-- The environment variable for the configuration file. -/
def configVariable : String := "BLOBVAULT_CONFIG"

end FileDepot.CommandLine
