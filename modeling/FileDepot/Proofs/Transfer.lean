/-
What of its payload a record sends, in slices of any size.

The loop invariant: what is out and what is left make up the payload,
and the count of bytes written is the size of what is out. A slice is
empty only when nothing is left. So a transfer ends when the length of
the record is reached, or with the whole payload out and the length not
reached (`send_carries`); and a record that knows the size of its
payload is sent whole (`send_complete`).
-/
import FileDepot.Depot.Transfer

namespace FileDepot

/-- A transfer sends a front part of the payload, which reaches the
length of the record unless the payload is too short for that. -/
structure Transfer.Carries (x : Transfer) (r : Record) : Prop where
  front : x.sent <+: r.data
  reached : x.fault = none → r.length ≤ x.sent.length
  short : ∀ fault, x.fault = some fault →
    x.sent = r.data ∧ (r.data.length : Int) < r.length
      ∧ fault = r.emptySlice r.data.length

namespace Record

variable {r : Record} {count : Nat}

/-- Where something is left, a slice from the front is not empty. -/
theorem slice_ne_nil {rest : Bytes} (hrest : rest ≠ []) (hc : 0 < count) :
    slice rest 0 count ≠ [] := by
  unfold slice
  rw [List.drop_zero, Ne, List.take_eq_nil_iff]
  intro h
  rcases h with h | h
  · omega
  · exact hrest h

/-- The loop goes on from what is out with what is left. -/
theorem sendGo_carries (hc : 0 < count) :
    ∀ (steps : Nat) (sent rest : Bytes), rest.length < steps →
      sent.reverse ++ rest = r.data →
        (r.sendGo count steps sent.length sent rest).Carries r := by
  intro steps
  induction steps with
  | zero => intro sent rest hlt; omega
  | succ steps ih =>
      intro sent rest hlt hdata
      unfold sendGo
      by_cases hdone : r.length ≤ sent.length
      · rw [if_pos hdone]
        refine ⟨⟨rest, hdata⟩, fun _ => ?_, fun fault h => by cases h⟩
        simpa using hdone
      · rw [if_neg hdone]
        cases hs : slice rest 0 count with
        | nil =>
            have hnil : rest = [] :=
              Decidable.byContradiction fun h => slice_ne_nil h hc hs
            rw [hnil, List.append_nil] at hdata
            have hsize : r.data.length = sent.length := by
              rw [← hdata, List.length_reverse]
            refine ⟨⟨[], by simpa using hdata⟩, fun h => ?_, fun fault h => ?_⟩
            · cases h
            · exact ⟨hdata, by omega, by rw [hsize, ← Option.some.inj h]⟩
        | cons b more =>
            have htake : b :: more = rest.take count := by
              rw [← hs]
              rfl
            have hpos : 0 < rest.length := by
              refine List.length_pos_iff.mpr ?_
              rintro rfl
              simp at htake
            dsimp only
            have hsize : sent.length + (b :: more).length
                = ((b :: more).reverse ++ sent).length := by
              rw [List.length_append, List.length_reverse, Nat.add_comm]
            rw [hsize]
            refine ih _ _ (by rw [List.length_drop]; omega) ?_
            rw [List.reverse_append, List.reverse_reverse, htake,
              List.append_assoc, List.take_append_drop, hdata]

/-- What a record sends of its payload. -/
theorem send_carries (r : Record) (chunkBytes : Nat) :
    (r.send chunkBytes).Carries r := by
  have hc : 0 < min (max chunkBytes 1) maxSlice := by
    unfold maxSlice
    omega
  exact sendGo_carries hc _ [] r.data (by omega) rfl

/-- A record that knows the size of its payload is sent whole. -/
theorem send_complete (hlen : r.length = r.data.length) (chunkBytes : Nat) :
    r.send chunkBytes = ⟨r.data, none⟩ := by
  have hcarries := r.send_carries chunkBytes
  cases hx : r.send chunkBytes with
  | mk sent fault =>
      rw [hx] at hcarries
      cases fault with
      | some fault =>
          have hshort := (hcarries.short fault rfl).2.1
          omega
      | none =>
          have hreached : r.length ≤ sent.length := hcarries.reached rfl
          rw [show sent = r.data from
            hcarries.front.eq_of_length_le (show r.data.length ≤ sent.length by
              omega)]

end Record

end FileDepot
