/-
Log filters. A filter is a row of directives, each a level for a part
of the program or for all of it. For an event, the directive with the
longest part that its target starts with decides; of two for the same
part, the later. Where only parts are given, all else is off.
-/
import FileDepot.Event
import FileDepot.Text.Number

namespace FileDepot

/-- What a directive lets through: nothing, or events from a level
on. -/
inductive Threshold where
  | off
  | from (level : Level)
  deriving DecidableEq, Repr

namespace Threshold

/-- An event of the level passes. -/
def passes (t : Threshold) (level : Level) : Bool :=
  match t with
  | .off => false
  | .from least => least.rank ≤ level.rank

/-- The threshold of a number from 0 to 5. -/
def ofNumber? (n : Int) : Option Threshold :=
  if n = 0 then some .off
  else if n = 1 then some (.from .error)
  else if n = 2 then some (.from .warn)
  else if n = 3 then some (.from .info)
  else if n = 4 then some (.from .debug)
  else if n = 5 then some (.from .trace)
  else none

/-- The threshold of a name in any case or of a number without a minus
sign. -/
def ofText? (text : String) : Option Threshold :=
  let key := Text.lowerAscii text
  if key = "off" then some .off
  else if key = "error" then some (.from .error)
  else if key = "warn" then some (.from .warn)
  else if key = "info" then some (.from .info)
  else if key = "debug" then some (.from .debug)
  else if key = "trace" then some (.from .trace)
  else if text.toList.head? = some '-' then none
  else (Text.signed? text).bind ofNumber?

end Threshold

/-- A threshold for the events whose target starts with a part. -/
structure Directive where
  part : String
  threshold : Threshold
  deriving DecidableEq, Repr

namespace Directive

/-- A character that a directive may start with. -/
def isStart (c : Char) : Bool :=
  c.isAlphanum || c == '-' || c == ':' || c == '_' || 0x80 ≤ c.toNat

/-- A directive without an equals sign: a level, or a part whose events
all pass. -/
def ofWord (word : String) : Directive :=
  match Threshold.ofText? word with
  | some t => ⟨"", t⟩
  | none => ⟨word, .from .trace⟩

/-- Reads one directive: a word, or a part and its level around an
equals sign, whose place is counted without blanks in front. -/
def ofText? (text : String) : Option Directive :=
  let trimmed := (Text.trim text).toList
  let word := trimmed.takeWhile fun c => c != '=' && c != '['
  if (trimmed.head?.map isStart).getD false = false then none
  else
    match trimmed.drop word.length with
    | [] => some (ofWord text)
    | '=' :: _ =>
      let part := String.ofList (text.toList.take word.length)
      let level := String.ofList (text.toList.drop (word.length + 1))
      if level.isEmpty then some ⟨part, .from .trace⟩
      else (Threshold.ofText? level).map fun t => ⟨part, t⟩
    | _ => none

end Directive

/-- A log filter. -/
abbrev LogFilter := List Directive

namespace LogFilter

/-- The directives between commas; an empty one does not count. -/
def ofText? (text : String) : Option LogFilter :=
  let words :=
    (text.toList.splitBy fun a b => a != ',' && b != ',').filter (· != [','])
  (words.map String.ofList).mapM Directive.ofText?

/-- The filter where none is set, or none that can be read. -/
def standard : LogFilter :=
  [⟨"", .from .debug⟩, ⟨"bv_infra", .from .debug⟩, ⟨"r2d2", .from .warn⟩]

/-- The filter of an environment variable. -/
def ofVariable (value : Option String) : LogFilter :=
  match value with
  | none => standard
  | some text => (ofText? text).getD standard

/-- The directive that decides over a target. -/
def deciding (filter : LogFilter) (target : String) : Option Directive :=
  (filter.filter fun d => d.part.toList.isPrefixOf target.toList).foldl
    (fun best d =>
      match best with
      | none => some d
      | some b => if b.part.length ≤ d.part.length then some d else some b)
    none

/-- The event passes the filter. -/
def passes (filter : LogFilter) (e : Event) : Bool :=
  match filter.deciding e.target with
  | none => false
  | some d => d.threshold.passes e.level

/-- The environment variable for the filter. -/
def variableName : String := "RUST_LOG"

end LogFilter

end FileDepot
