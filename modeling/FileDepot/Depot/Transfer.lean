/-
Transfers: the payload of a record leaves the database slice by slice
until as many bytes are out as the record says it has. A slice that
comes empty before that ends the transfer with a fault.
-/
import FileDepot.Database.Access

namespace FileDepot

/-- The bytes of a payload from an offset on, at most so many. -/
def slice (data : Bytes) (offset count : Nat) : Bytes :=
  (data.drop offset).take count

/-- What a transfer comes to: the bytes that went out and the fault
that ended it, if one did. -/
structure Transfer where
  sent : Bytes
  fault : Option DatabaseFault
  deriving DecidableEq, Repr

namespace Record

/-- The fault of an empty slice after so many bytes. A payload without
any bytes has no slices at all. -/
def emptySlice (r : Record) (written : Nat) : DatabaseFault :=
  if r.data = [] then .missingValue else .shortPayload r.id written r.length

/-- Sends what is left of a payload, in at most so many slices; the
bytes sent so far come last first. -/
def sendGo (r : Record) (count : Nat) :
    Nat → Nat → Bytes → Bytes → Transfer
  | 0, _, sent, _ => ⟨sent.reverse, none⟩
  | n + 1, written, sent, rest =>
    if r.length ≤ written then ⟨sent.reverse, none⟩
    else
      match slice rest 0 count with
      | [] => ⟨sent.reverse, some (r.emptySlice written)⟩
      | b :: more =>
        sendGo r count n (written + (b :: more).length)
          ((b :: more).reverse ++ sent) (rest.drop count)

/-- The largest slice that can be asked for. -/
def maxSlice : Nat := 9223372036854775807

/-- Sends the payload of a record in slices of a given size. -/
def send (r : Record) (chunkBytes : Nat) : Transfer :=
  r.sendGo (min (max chunkBytes 1) maxSlice) (r.data.length + 1) 0 [] r.data

end Record

end FileDepot
