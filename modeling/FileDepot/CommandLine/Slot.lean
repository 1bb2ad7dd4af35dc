/-
Slots: the values a command line can give, each with the options that
name it and the values it takes. A value is taken in when the next
option or argument shows that it is complete; only then is it checked.
-/
import FileDepot.CommandLine.Command
import FileDepot.Text.Number

namespace FileDepot.CommandLine

/-- What a value is given for. -/
inductive Slot where
  | config
  | bucket
  | name
  | days
  | path
  deriving DecidableEq, Repr

namespace Slot

/-- The word of the long option; the path has none, it is given by its
position. -/
def long? : Slot → Option String
  | config => some "config"
  | bucket => some "bucket"
  | name => some "name"
  | days => some "days"
  | path => none

/-- The letter of the short option. -/
def short? : Slot → Option Char
  | bucket => some 'b'
  | name => some 'n'
  | config | days | path => none

/-- The most days there can be. -/
def maxDays : Int := 4294967295

/-- The days a text spells. -/
def days? (text : String) : Option Nat :=
  match Text.signed? text with
  | some n => if 0 ≤ n ∧ n ≤ maxDays then some n.toNat else none
  | none => none

/-- Checks a value. Paths are not empty, days are a number. -/
def check (slot : Slot) (value : String) : Except UsageFault Unit :=
  match slot with
  | config | path => if value.isEmpty then .error .invalidValue else .ok ()
  | days => if (days? value).isSome then .ok () else .error .valueValidation
  | bucket | name => .ok ()

end Slot

namespace CommandName

/-- The options of a command. -/
def options : CommandName → List Slot
  | store | download | describe => [.bucket, .name, .config]
  | clean => [.bucket, .days, .config]
  | initSchema => [.config]

/-- The command takes a path. -/
def takesPath : CommandName → Bool
  | store | download => true
  | describe | clean | initSchema => false

/-- What a command cannot do without. -/
def required : CommandName → List Slot
  | store | download => [.bucket, .name, .path]
  | describe => [.bucket, .name]
  | clean => [.bucket]
  | initSchema => []

end CommandName

-- ============================================================== intake

/-- What has been taken in: the checked values, and the slot that was
given last with its value, once that has come. -/
structure Intake where
  values : List (Slot × String) := []
  pending : Option (Slot × Option String) := none
  deriving DecidableEq, Repr

namespace Intake

/-- The value of a slot. -/
def value? (i : Intake) (slot : Slot) : Option String :=
  i.values.lookup slot

/-- Takes in a value. A slot takes one value only. -/
def accept (i : Intake) (slot : Slot) (value : String) :
    Except UsageFault Intake :=
  if (i.value? slot).isSome then .error .argumentConflict
  else do
    slot.check value
    .ok { i with values := i.values ++ [(slot, value)] }

/-- Takes in what is pending. An option whose value never came is
refused. -/
def settle (i : Intake) : Except UsageFault Intake :=
  match i.pending with
  | none => .ok i
  | some (_, none) => .error .invalidValue
  | some (slot, some value) => accept { i with pending := none } slot value

/-- An option waits for its value. -/
def isWaiting (i : Intake) : Bool :=
  match i.pending with
  | some (_, none) => true
  | _ => false

/-- Begins a slot, with its value if that is attached. -/
def begin? (i : Intake) (slot : Slot) (attached : Option String) :
    Except UsageFault Intake := do
  let i ← i.settle
  match attached with
  | some value => i.accept slot value
  | none => .ok { i with pending := some (slot, none) }

/-- Gives the waiting option its value. -/
def supply (i : Intake) (value : String) : Intake :=
  match i.pending with
  | some (slot, none) => { i with pending := some (slot, some value) }
  | _ => i

/-- Checks the value that stands in for a slot that was not given. -/
def checkDefault (i : Intake) (slot : Slot) (value : Option String) :
    Except UsageFault Unit :=
  match value with
  | none => .ok ()
  | some value =>
    if (i.value? slot).isSome then .ok () else slot.check value

end Intake

end FileDepot.CommandLine
