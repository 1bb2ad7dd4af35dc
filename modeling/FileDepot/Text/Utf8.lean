/-
Bytes as text. Well-formed UTF-8 is read as it is; where bytes are not
well formed, the longest start of a character among them becomes one
replacement character and reading goes on behind it.
-/
import FileDepot.Text.Blank

namespace FileDepot.Text

/-- The replacement character. -/
def replacement : Char := Char.ofNat 0xFFFD

/-- The bytes a first byte asks for behind it, and the range the first
of these must lie in. -/
def sequenceOf (first : Nat) : Option (Nat × Nat × Nat) :=
  if 0xC2 ≤ first ∧ first ≤ 0xDF then some (1, 0x80, 0xBF)
  else if first = 0xE0 then some (2, 0xA0, 0xBF)
  else if first = 0xED then some (2, 0x80, 0x9F)
  else if 0xE1 ≤ first ∧ first ≤ 0xEF then some (2, 0x80, 0xBF)
  else if first = 0xF0 then some (3, 0x90, 0xBF)
  else if 0xF1 ≤ first ∧ first ≤ 0xF3 then some (3, 0x80, 0xBF)
  else if first = 0xF4 then some (3, 0x80, 0x8F)
  else none

/-- Where reading stands inside a character: the value so far, the
bytes still wanted and the range of the next. -/
structure Pending where
  value : Nat
  wanted : Nat
  low : Nat
  high : Nat

/-- What a byte at the start of a character does. -/
def startByte (b : Nat) : List Char × Option Pending :=
  if b < 0x80 then ([Char.ofNat b], none)
  else
    match sequenceOf b with
    | none => ([replacement], none)
    | some (wanted, low, high) =>
      ([], some ⟨b % (64 >>> wanted), wanted, low, high⟩)

/-- What a byte does. -/
def stepByte (b : Nat) : Option Pending → List Char × Option Pending
  | none => startByte b
  | some p =>
    if p.low ≤ b ∧ b ≤ p.high then
      let value := p.value * 64 + b % 64
      if p.wanted ≤ 1 then ([Char.ofNat value], none)
      else ([], some ⟨value, p.wanted - 1, 0x80, 0xBF⟩)
    else
      let (out, next) := startByte b
      (replacement :: out, next)

/-- Reads bytes with what stands open before them; what was read so far
comes last first. -/
def decodeGo : Option Pending → List Char → List UInt8 → List Char
  | open?, read, [] =>
    (if open?.isSome then replacement :: read else read).reverse
  | open?, read, b :: rest =>
    let (out, next) := stepByte b.toNat open?
    decodeGo next (out.reverse ++ read) rest

/-- Bytes as a text. -/
def ofBytes (bytes : List UInt8) : String :=
  String.ofList (decodeGo none [] bytes)

end FileDepot.Text
