/-
A transfer slice by slice: how it runs, that it ends, and where.

`Record.round` is one turn of the loop that sends a payload. It asks for
the slice at an offset that counts from one, and it keeps the count of
bytes written. Both are numbers of a machine, which end at some top, so a
number beyond the top is an outcome of its own. `Runs` has no rule for
that outcome: a transfer that runs has come to its end and has never left
the numbers there are.

# The course of a run

After `k` rounds `min |D| (count * k)` bytes of the payload `D` are out
(`after`). The loop goes on exactly while `count * k` is below the
payload and the length of the record (`round_goesOn`), so it takes as
many rounds as slices go into the smaller of the two. Then either the
length is reached, or the payload is out and the next slice comes empty
(`runs`). What is sent is what this loop sends (`sendGo_of_runs`), for a
top above both sizes and hence for every record.
-/
import FileDepot.Proofs.Lookup
import Mathlib.Algebra.Order.Floor.Div

namespace FileDepot

-- =============================================================== loop

/-- Where a transfer stands between two slices: the count of bytes
written, and the bytes. -/
structure Progress where
  written : Int
  out : Bytes

/-- What one round of a transfer comes to. -/
inductive Round where
  | goesOn (p : Progress)
  | stops (x : Transfer)
  | overflows

/-- A count where numbers end at a top. -/
def within? (top n : Int) : Option Int :=
  if 0 ≤ n ∧ n ≤ top then some n else none

theorem within?_eq {top n : Int} (hn : 0 ≤ n) (htop : n ≤ top) :
    within? top n = some n := by
  unfold within?
  rw [if_pos ⟨hn, htop⟩]

theorem eq_of_within? {top n m : Int} (h : within? top n = some m) :
    m = n := by
  unfold within? at h
  split at h
  · exact (Option.some.inj h).symm
  · cases h

/-- The bytes of a payload from an offset on, at most so many. The first
byte has the offset one. -/
def sliceAt (data : Bytes) (offset : Int) (count : Nat) : Bytes :=
  slice data (offset - 1).toNat count

/-- A slice behind some bytes is the front of what is left. -/
theorem sliceAt_eq (data : Bytes) (n count : Nat) :
    sliceAt data ((n : Int) + 1) count = slice (data.drop n) 0 count := by
  unfold sliceAt slice
  rw [List.drop_zero]
  congr 2
  omega

/-- The size of the slices that are asked for. -/
def sliceSize (chunkBytes : Nat) : Nat :=
  min (max chunkBytes 1) Record.maxSlice

theorem sliceSize_pos (chunkBytes : Nat) : 0 < sliceSize chunkBytes := by
  unfold sliceSize Record.maxSlice
  omega

/-- Fewer slices than a number of bytes takes do not reach it. -/
theorem mul_lt_of_lt_ceilDiv {n k count : Nat} (hcount : 0 < count)
    (h : k < n ⌈/⌉ count) : count * k < n := by
  have hslices := ceilDiv_le_iff_le_mul (b := n) (c := k) hcount
  omega

/-- As many slices as a number of bytes takes reach it. -/
theorem le_mul_ceilDiv {count : Nat} (hcount : 0 < count) (n : Nat) :
    n ≤ count * (n ⌈/⌉ count) :=
  (ceilDiv_le_iff_le_mul hcount).mp (Nat.le_refl _)

namespace Record

/-- One round of a transfer: it stops when the length of the record is
reached or the next slice comes empty. -/
def round (r : Record) (count : Nat) (top : Int) (p : Progress) : Round :=
  if r.length ≤ p.written then .stops ⟨p.out, none⟩
  else
    match within? top (p.written + 1) with
    | none => .overflows
    | some offset =>
      match sliceAt r.data offset count with
      | [] => .stops ⟨p.out, some (r.emptySlice p.written.toNat)⟩
      | b :: more =>
        match within? top (p.written + (b :: more).length) with
        | none => .overflows
        | some written => .goesOn ⟨written, p.out ++ b :: more⟩

/-- The rounds from somewhere in a transfer to its end. -/
inductive Runs (r : Record) (count : Nat) (top : Int) :
    Progress → Transfer → Prop
  | stops {p : Progress} {x : Transfer}
      (h : r.round count top p = .stops x) : Runs r count top p x
  | goesOn {p q : Progress} {x : Transfer}
      (h : r.round count top p = .goesOn q) (hq : Runs r count top q x) :
      Runs r count top p x

variable {r : Record} {count k : Nat} {top : Int}

-- ====================================================== its rounds

/-- Where a transfer stands after so many slices. -/
def after (r : Record) (count k : Nat) : Progress :=
  ⟨(min r.data.length (count * k) : Nat), r.data.take (count * k)⟩

/-- Below the payload the next slice has a first byte, and it ends where
the one behind it begins. -/
theorem slice_after (hcount : 0 < count) (hdata : count * k < r.data.length) :
    ∃ b more, sliceAt r.data ((count * k : Nat) + 1) count = b :: more
      ∧ r.data.take (count * k) ++ b :: more
        = r.data.take (count * (k + 1))
      ∧ count * k + (b :: more).length
        = min r.data.length (count * (k + 1)) := by
  have hslice : sliceAt r.data ((count * k : Nat) + 1) count
      = (r.data.drop (count * k)).take count := by
    rw [sliceAt_eq, slice, List.drop_zero]
  have hsize : ((r.data.drop (count * k)).take count).length
      = min count (r.data.length - count * k) := by
    rw [List.length_take, List.length_drop]
  cases htake : (r.data.drop (count * k)).take count with
  | nil =>
      rw [htake, List.length_nil] at hsize
      omega
  | cons b more =>
      rw [htake] at hsize
      refine ⟨b, more, by rw [hslice, htake], ?_, ?_⟩
      · rw [← htake, Nat.mul_succ, List.take_add]
      · rw [hsize, Nat.mul_succ]
        omega

/-- While slices end below the payload and the length of the record, a
transfer goes on. -/
theorem round_goesOn (hcount : 0 < count) (hlength : r.length ≤ top)
    (htop : (r.data.length : Int) ≤ top)
    (hdata : count * k < r.data.length)
    (hbelow : ((count * k : Nat) : Int) < r.length) :
    r.round count top (r.after count k)
      = .goesOn (r.after count (k + 1)) := by
  obtain ⟨b, more, hslice, hout, hwritten⟩ :=
    slice_after (r := r) hcount hdata
  have hat : r.after count k
      = ⟨(count * k : Nat), r.data.take (count * k)⟩ := by
    unfold after
    rw [Nat.min_eq_right (Nat.le_of_lt hdata)]
  have hnext : ((count * k : Nat) : Int) + ((b :: more).length : Nat)
      = (min r.data.length (count * (k + 1)) : Nat) := by
    omega
  unfold round
  rw [hat]
  dsimp only
  rw [if_neg (by omega), within?_eq (by omega) (by omega)]
  dsimp only
  rw [hslice]
  dsimp only
  rw [hnext, within?_eq (by omega) (by omega), hout]
  rfl

/-- Once the length is reached, a transfer stops. -/
theorem round_reached
    (h : r.length ≤ (min r.data.length (count * k) : Nat)) :
    r.round count top (r.after count k)
      = .stops ⟨r.data.take (count * k), none⟩ := by
  unfold round after
  rw [if_pos h]

/-- With the payload out and the length not reached, a transfer stops
with a fault. -/
theorem round_short (hlength : r.length ≤ top)
    (hshort : (r.data.length : Int) < r.length)
    (hout : r.data.length ≤ count * k) :
    r.round count top (r.after count k)
      = .stops ⟨r.data, some (r.emptySlice r.data.length)⟩ := by
  have hat : r.after count k = ⟨r.data.length, r.data⟩ := by
    unfold after
    rw [Nat.min_eq_left hout, List.take_of_length_le hout]
  have hslice : sliceAt r.data ((r.data.length : Int) + 1) count = [] := by
    rw [sliceAt_eq, slice, List.drop_length, List.drop_nil, List.take_nil]
  unfold round
  rw [hat]
  dsimp only
  rw [if_neg (by omega), within?_eq (by omega) (by omega)]
  dsimp only
  rw [hslice, Int.toNat_natCast]

/-- Rounds that go on, and then one that stops, are a run. -/
theorem runs_of_rounds {n : Nat} {x : Transfer}
    (hrounds : ∀ k, k < n → r.round count top (r.after count k)
      = .goesOn (r.after count (k + 1)))
    (hlast : r.round count top (r.after count n) = .stops x) :
    r.Runs count top (r.after count 0) x := by
  -- backwards, on the rounds that are left
  suffices h : ∀ left k, k + left = n →
      r.Runs count top (r.after count k) x by
    exact h n 0 (Nat.zero_add n)
  intro left
  induction left with
  | zero =>
      intro k hk
      rw [Nat.add_zero] at hk
      rw [hk]
      exact .stops hlast
  | succ left ih =>
      intro k hk
      exact .goesOn (hrounds k (by omega)) (ih (k + 1) (by omega))

-- ========================================================== its end

/-- How a transfer in slices of a size ends: with the whole payload out
and a fault where the length is beyond it, else with the slices that
reach the length. -/
def sentIn (r : Record) (count : Nat) : Transfer :=
  if (r.data.length : Int) < r.length then
    ⟨r.data, some (r.emptySlice r.data.length)⟩
  else
    ⟨r.data.take
      (min r.data.length (count * (r.length.toNat ⌈/⌉ count))), none⟩

/-- A transfer ends so where numbers reach the length and the size of
the payload. -/
theorem runs (hcount : 0 < count) (hlength : r.length ≤ top)
    (htop : (r.data.length : Int) ≤ top) :
    r.Runs count top ⟨0, []⟩ (r.sentIn count) := by
  have hstart : r.after count 0 = ⟨0, []⟩ := by
    unfold after
    rw [Nat.mul_zero, Nat.min_zero, List.take_zero]
    rfl
  rw [← hstart]
  unfold sentIn
  by_cases hshort : (r.data.length : Int) < r.length
  · rw [if_pos hshort]
    refine runs_of_rounds (n := r.data.length ⌈/⌉ count) ?_ ?_
    · intro k hk
      have hdata := mul_lt_of_lt_ceilDiv hcount hk
      exact round_goesOn hcount hlength htop hdata (by omega)
    · exact round_short hlength hshort (le_mul_ceilDiv hcount _)
  · rw [if_neg hshort]
    refine runs_of_rounds (n := r.length.toNat ⌈/⌉ count) ?_ ?_
    · intro k hk
      have hbelow := mul_lt_of_lt_ceilDiv hcount hk
      exact round_goesOn hcount hlength htop (by omega) (by omega)
    · have hreached := le_mul_ceilDiv hcount r.length.toNat
      rw [round_reached (by omega), List.take_eq_take_min, Nat.min_comm]

/-- What a round says of the slice it asked for. -/
theorem round_cases (r : Record) (count : Nat) (top : Int) {p : Progress}
    {n : Nat} (hp : p.written = n) :
    r.round count top p = .overflows
      ∨ (r.length ≤ n ∧ r.round count top p = .stops ⟨p.out, none⟩)
      ∨ (¬r.length ≤ n ∧ slice (r.data.drop n) 0 count = []
        ∧ r.round count top p = .stops ⟨p.out, some (r.emptySlice n)⟩)
      ∨ ∃ b more, ¬r.length ≤ n
        ∧ slice (r.data.drop n) 0 count = b :: more
        ∧ r.round count top p
          = .goesOn ⟨(n + (b :: more).length : Nat), p.out ++ b :: more⟩ := by
  unfold round
  rw [hp]
  by_cases hreached : r.length ≤ n
  · rw [if_pos hreached]
    exact .inr (.inl ⟨hreached, rfl⟩)
  · rw [if_neg hreached]
    cases hoffset : within? top ((n : Int) + 1) with
    | none => exact .inl rfl
    | some offset =>
        rw [eq_of_within? hoffset]
        dsimp only
        rw [sliceAt_eq]
        cases hslice : slice (r.data.drop n) 0 count with
        | nil =>
            refine .inr (.inr (.inl ⟨hreached, rfl, ?_⟩))
            rw [Int.toNat_natCast]
        | cons b more =>
            dsimp only
            cases hwritten : within? top ((n : Int) + (b :: more).length) with
            | none => exact .inl rfl
            | some written =>
                refine .inr (.inr (.inr ⟨b, more, hreached, rfl, ?_⟩))
                rw [eq_of_within? hwritten, Int.natCast_add]

/-- Behind a slice as much is left as behind its bytes. -/
theorem drop_slice {rest chunk : Bytes} (h : slice rest 0 count = chunk) :
    rest.drop count = rest.drop chunk.length := by
  have hsize : chunk.length = min count rest.length := by
    rw [← h, slice, List.drop_zero, List.length_take]
  by_cases hle : count ≤ rest.length
  · rw [hsize, Nat.min_eq_left hle]
  · rw [hsize, Nat.min_eq_right (by omega), List.drop_length,
      List.drop_eq_nil_of_le (by omega)]

/-- A run of the loop sends what the record sends. -/
theorem sendGo_of_runs {p : Progress} {x : Transfer}
    (h : r.Runs count top p x) :
    ∀ (n steps : Nat), p.written = n → r.data.length - n < steps →
      r.sendGo count steps n p.out.reverse (r.data.drop n) = x := by
  induction h with
  | stops h =>
      intro n steps hp hsteps
      obtain ⟨left, rfl⟩ := Nat.exists_eq_succ_of_ne_zero (n := steps)
        (by omega)
      unfold sendGo
      rcases r.round_cases count top hp with
        hround | ⟨hreached, hround⟩ | ⟨hreached, hslice, hround⟩
          | ⟨b, more, -, -, hround⟩
      · rw [hround] at h
        cases h
      · rw [hround] at h
        cases h
        rw [if_pos hreached, List.reverse_reverse]
      · rw [hround] at h
        cases h
        rw [if_neg hreached, hslice, List.reverse_reverse]
      · rw [hround] at h
        cases h
  | goesOn h hq ih =>
      intro n steps hp hsteps
      obtain ⟨left, rfl⟩ := Nat.exists_eq_succ_of_ne_zero (n := steps)
        (by omega)
      unfold sendGo
      rcases r.round_cases count top hp with
        hround | ⟨hreached, hround⟩ | ⟨hreached, hslice, hround⟩
          | ⟨b, more, hreached, hslice, hround⟩
      · rw [hround] at h
        cases h
      · rw [hround] at h
        cases h
      · rw [hround] at h
        cases h
      · rw [hround] at h
        cases h
        rw [if_neg hreached, hslice]
        dsimp only
        rw [drop_slice hslice, List.drop_drop, ← List.reverse_append]
        refine ih _ left rfl ?_
        -- the slice is not empty, so it came from what was left
        have hfront : (b :: more).length ≤ r.data.length - n := by
          rw [← hslice, slice, List.drop_zero, List.length_take,
            List.length_drop]
          omega
        rw [List.length_cons] at hfront ⊢
        omega

/-- What a record sends, in slices of any size. -/
theorem send_eq (r : Record) (chunkBytes : Nat) :
    r.send chunkBytes = r.sentIn (sliceSize chunkBytes) := by
  have hruns : r.Runs (sliceSize chunkBytes) (max r.length r.data.length)
      ⟨0, []⟩ (r.sentIn (sliceSize chunkBytes)) :=
    runs (sliceSize_pos chunkBytes) (by omega) (by omega)
  exact sendGo_of_runs hruns 0 (r.data.length + 1) rfl (by omega)

end Record

-- =========================================================== delivery

namespace Depot

/-- What a delivery leaves: how it ended, and the bytes at the target. -/
structure Leaves (out : Except Failure Unit × FileTree) (target : String)
    (result : Except Failure Unit) (content : Bytes) : Prop where
  ended : out.1 = result
  content : out.2.read target = .ok content

/-- A delivery to a target that can be written leaves what the record
sends. -/
theorem leaves_deliver (d : Depot) (r : Record) {target : String}
    {files : FileTree} {place : Place}
    (hplace : files.targetPlace target = .ok place) :
    Leaves (d.deliver r target files) target
      (r.sentIn (sliceSize d.options.chunkBytes)).ending
      (r.sentIn (sliceSize d.options.chunkBytes)).sent := by
  rw [← r.send_eq]
  rcases deliver_cases d r target files with
    ⟨fault, hwrite, -⟩ | ⟨written, -, hread, hdeliver⟩
  · unfold FileTree.write at hwrite
    rw [hplace] at hwrite
    cases hwrite
  · rw [hdeliver]
    exact ⟨rfl, hread⟩

/-- A delivery of any record to a target that can be written.

In numbers of 64 bits, which hold its length and the size of its payload,
the loop runs to its end and leaves them nowhere. A length of nothing or
less leaves an empty target. A length within the payload leaves the
slices that reach it. A length beyond the payload leaves the whole
payload and fails with a fault of the database. So a record that knows
the size of its payload leaves exactly that. -/
theorem deliver_in_slices (d : Depot) (r : Record) {target : String}
    {files : FileTree} {place : Place}
    (hplace : files.targetPlace target = .ok place) :
    let count := sliceSize d.options.chunkBytes
    (r.length ≤ Text.maxSigned → (r.data.length : Int) ≤ Text.maxSigned →
        ∃ x, r.Runs count Text.maxSigned ⟨0, []⟩ x
          ∧ Leaves (d.deliver r target files) target x.ending x.sent)
      ∧ (r.length ≤ 0 →
        Leaves (d.deliver r target files) target (.ok ()) [])
      ∧ (0 < r.length → r.length ≤ r.data.length →
        Leaves (d.deliver r target files) target (.ok ())
          (r.data.take
            (min r.data.length (count * (r.length.toNat ⌈/⌉ count)))))
      ∧ (r.data.length < r.length →
        Leaves (d.deliver r target files) target
          (.error (.database (r.emptySlice r.data.length))) r.data)
      ∧ (r.length = r.data.length →
        Leaves (d.deliver r target files) target (.ok ()) r.data) := by
  intro count
  have hcount : 0 < count := sliceSize_pos d.options.chunkBytes
  have hleaves := leaves_deliver d r hplace
  have hwithin : ¬(r.data.length : Int) < r.length →
      Leaves (d.deliver r target files) target (.ok ())
        (r.data.take
          (min r.data.length (count * (r.length.toNat ⌈/⌉ count)))) := by
    intro h
    unfold Record.sentIn at hleaves
    rw [if_neg h] at hleaves
    exact hleaves
  refine ⟨?runs, ?nothing, ?within, ?beyond, ?whole⟩
  case runs =>
    intro hlength hdata
    exact ⟨_, r.runs hcount hlength hdata, hleaves⟩
  case nothing =>
    intro h
    have hzero : r.length.toNat = 0 := by omega
    have hleft := hwithin (by omega)
    rw [hzero, zero_ceilDiv, Nat.mul_zero, Nat.min_zero,
      List.take_zero] at hleft
    exact hleft
  case within =>
    intro hpos h
    exact hwithin (by omega)
  case beyond =>
    intro h
    unfold Record.sentIn at hleaves
    rw [if_pos h] at hleaves
    exact hleaves
  case whole =>
    intro h
    have hleft := hwithin (by omega)
    have hreach : r.data.length ≤ count * (r.length.toNat ⌈/⌉ count) := by
      have hslices := le_mul_ceilDiv hcount r.length.toNat
      omega
    rw [Nat.min_eq_left hreach, List.take_length] at hleft
    exact hleft

/-- A record of five bytes that says it has three. -/
def shortRecord : Record :=
  ⟨{ Draft.ofFile ⟨"b", "n"⟩ [1, 2, 3, 4, 5] "{}" 0 with length := 3 }, 1⟩

/-- Slices of two bytes reach its length with four bytes. -/
theorem deliver_in_slices_short :
    let d := (smallStore 0).depot
    tableScene.files.targetPlace "out" = .ok ["out"]
      ∧ (∃ x, shortRecord.Runs 2 Text.maxSigned ⟨0, []⟩ x
        ∧ Leaves (d.deliver shortRecord "out" tableScene.files) "out"
          x.ending x.sent)
      ∧ Leaves (d.deliver shortRecord "out" tableScene.files) "out"
        (.ok ()) [1, 2, 3, 4] := by
  intro d
  have hplace : tableScene.files.targetPlace "out" = .ok ["out"] := by
    decide +kernel
  obtain ⟨hruns, -, hwithin, -⟩ := deliver_in_slices d shortRecord hplace
  have hleft := hwithin (by decide) (by decide)
  rw [show shortRecord.data.take _ = [1, 2, 3, 4] by decide +kernel] at hleft
  exact ⟨hplace, hruns (by decide) (by decide), hleft⟩

end Depot

end FileDepot
