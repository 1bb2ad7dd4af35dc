/-
Help: what the program prints about itself. Options are listed with
what they stand for in a column of its own, and text that runs over the
line goes on in that column.
-/
import FileDepot.CommandLine.Reading

namespace FileDepot.CommandLine

/-- The version line. -/
def versionText : String := "blobvault 0.1.0\n"

/-- The columns of a line. -/
def lineWidth : Nat := 100

/-- Blanks. -/
def blanks (n : Nat) : String := String.ofList (List.replicate n ' ')

/-- Sets words into lines, the first of which has some columns taken;
further lines start in that column. -/
def wrapGo (indent : Nat) : Nat → List String → String
  | _, [] => ""
  | column, word :: rest =>
    if column = indent then word ++ wrapGo indent (column + word.length) rest
    else if column + 1 + word.length ≤ lineWidth then
      " " ++ word ++ wrapGo indent (column + 1 + word.length) rest
    else
      "\n" ++ blanks indent ++ word
        ++ wrapGo indent (indent + word.length) rest

/-- A text in the column behind an indent. -/
def wrapped (indent : Nat) (text : String) : String :=
  wrapGo indent indent (text.splitOn " ")

/-- What a command does. -/
def CommandName.about : CommandName → String
  | .store =>
    "Upload a local file, replacing any previous content at the location"
  | .download => "Write the stored content to a local path"
  | .describe => "Print metadata of a stored file as JSON"
  | .clean =>
    "Delete files of a bucket not modified within the retention period"
  | .initSchema =>
    "Create the backing table of the database backend if it is missing"

/-- What the program does. -/
def about : String :=
  "Store and retrieve files through the configured storage backend"

/-- How an option with a value is written. -/
def Slot.usage (slot : Slot) (value : String) : String :=
  (match slot.short? with
    | some letter => "  -" ++ String.ofList [letter] ++ ", "
    | none => "      ")
    ++ "--" ++ slot.long?.getD "" ++ " <" ++ value ++ ">"

/-- The name of a value. -/
def Slot.valueName : Slot → String
  | .config => "CONFIG"
  | .bucket => "BUCKET"
  | .name => "NAME"
  | .days => "DAYS"
  | .path => "PATH"

/-- What an option stands for, in a command; the configuration file
shows the value of its environment variable. -/
def Slot.about (env : Option String) (command : Option CommandName) :
    Slot → String
  | .config =>
    "Configuration file (default: <config dir>/blobvault/config.toml) [env: "
      ++ configVariable ++ "=" ++ env.getD "" ++ "]"
  | .bucket =>
    if command = some .clean then "" else "Logical grouping of the file"
  | .name => "File name within the bucket"
  | .days => "Retention period in days [default: 30]"
  | .path =>
    if command = some .download then
      "Destination path; parent directories are created"
    else "Local file to upload"

/-- Rows of two columns. -/
def columns (rows : List (String × String)) : String :=
  let width := (rows.map (·.1.length)).foldl max 0
  String.join
    (rows.map fun (left, right) =>
      left ++ blanks (width - left.length) ++ "  "
        ++ wrapped (width + 2) right ++ "\n")

/-- The rows of the options of a command or of the program. -/
def optionRows (env : Option String) (command : Option CommandName) :
    List (String × String) :=
  let slots : List Slot :=
    match command with
    | none | some .initSchema => [.config]
    | some .clean => [.bucket, .config, .days]
    | some .store | some .download | some .describe =>
      [.bucket, .config, .name]
  slots.map (fun s => (s.usage s.valueName, s.about env command))
    ++ [("  -h, --help", "Print help")]
    ++ (if command.isNone then [("  -V, --version", "Print version")] else [])

/-- The path argument of a command. -/
def pathName : CommandName → Option String
  | .store => some "<FILE>"
  | .download => some "<TARGET>"
  | .describe | .clean | .initSchema => none

/-- The line that shows how a command is used. -/
def usageLine (command : CommandName) : String :=
  let needed :=
    (command.required.filter (· != .path)).map fun s =>
      " --" ++ s.long?.getD "" ++ " <" ++ s.valueName ++ ">"
  "Usage: blobvault " ++ command.word ++ " [OPTIONS]" ++ String.join needed
    ++ ((pathName command).map (" " ++ ·)).getD "" ++ "\n"

/-- Help on a command. -/
def commandHelp (env : Option String) (command : CommandName) : String :=
  command.about ++ "\n\n" ++ usageLine command
    ++ (match pathName command with
        | some name =>
          "\nArguments:\n"
            ++ columns [("  " ++ name, Slot.path.about env (some command))]
        | none => "")
    ++ "\nOptions:\n" ++ columns (optionRows env (some command))

/-- Help on the program. -/
def rootHelp (env : Option String) : String :=
  about ++ "\n\nUsage: blobvault [OPTIONS] <COMMAND>\n\nCommands:\n"
    ++ columns
      ((CommandName.all.map fun c => ("  " ++ c.word, c.about))
        ++ [("  " ++ helpWord,
          "Print this message or the help of the given subcommand(s)")])
    ++ "\nOptions:\n" ++ columns (optionRows env none)

/-- What is printed for a command line that asks for no command. -/
def shown (fault : UsageFault) (env : Option String) : String :=
  match fault with
  | .version => versionText
  | .help none => rootHelp env
  | .help (some command) => commandHelp env command
  | _ => ""

end FileDepot.CommandLine
