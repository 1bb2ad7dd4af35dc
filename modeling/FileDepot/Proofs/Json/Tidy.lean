/-
What reading leaves: values whose whole numbers fit a 64-bit word and
whose objects are in order.

Nothing is asked of the text here. Of several fields of one key only the
last one is left, so a text may hold a float that its value does not,
and what a value needs in order to be printed and read again is better
read off the value than off the text: `Tidy` it is in any case, and
where it is `Integral` as well, it is `Plain`.

Both loops are followed by what one turn of them keeps, a property of
every item read so far or of the state.
-/
import FileDepot.Proofs.Json.Objects

namespace FileDepot.Json

-- ========================================================== numbers

/-- A significand and a power of ten give a float. -/
theorem float_of_floatOf {neg : Bool} {n : Nat} {exp : Int} {v : Json}
    (h : floatOf neg n exp = .ok v) : ∃ x, v = .float x := by
  unfold floatOf at h
  split at h
  · cases h
    exact ⟨_, rfl⟩
  · cases h

/-- A number with an exponent is a float. -/
theorem float_of_exponent {neg : Bool} {n : Nat} {start : Int}
    {cs rest : List Char} {v : Json}
    (h : exponent neg n start cs = .ok (v, rest)) : ∃ x, v = .float x := by
  unfold exponent at h
  split at h
  obtain ⟨⟨ds, tail⟩, -, h⟩ := bind_ok h
  dsimp only at h
  split at h
  · obtain ⟨w, hw, hend⟩ := bind_ok h
    cases hend
    exact float_of_floatOf hw
  · split at h
    · cases h
    · cases h
      exact ⟨_, rfl⟩

/-- A number whose significand ends behind a point is a float. -/
theorem float_of_finish {neg : Bool} {n : Nat} {exp : Int}
    {cs rest : List Char} {v : Json}
    (h : finish neg n exp cs = .ok (v, rest)) : ∃ x, v = .float x := by
  unfold finish at h
  split at h
  · exact float_of_exponent h
  · exact float_of_exponent h
  · obtain ⟨w, hw, hend⟩ := bind_ok h
    cases hend
    exact float_of_floatOf hw

/-- A number with a fraction is a float. -/
theorem float_of_fraction {neg : Bool} {n : Nat} {exp : Int}
    {cs rest : List Char} {v : Json}
    (h : fraction neg n exp cs = .ok (v, rest)) : ∃ x, v = .float x := by
  unfold fraction at h
  obtain ⟨⟨ds, tail⟩, -, h⟩ := bind_ok h
  exact float_of_finish h

/-- Digits are absorbed only as far as a 64-bit word holds them. -/
theorem absorb_le {ds : List Char} {n : Nat} (h : n ≤ maxWord) :
    (absorb n ds).1 ≤ maxWord := by
  induction ds generalizing n with
  | nil => exact h
  | cons d ds ih =>
      rw [absorb]
      split
      · next hle => exact ih hle
      · exact h

-- ============================================================ loops

/-- What holds of an item that is read and of those behind it holds of
all of them. -/
theorem forall_mem_of_item {α : Type} {item : Reader α} {P : α → Prop}
    (hitem : ∀ {cs v rest}, item cs = .ok (v, rest) → P v)
    {steps : Nat} {rest : List Char}
    (hloop : ∀ {cs vs}, itemsGo item steps false cs = .ok (vs, rest) →
      ∀ v ∈ vs, P v)
    {cs : List Char} {vs : List α}
    (h : (do
      let (v, rest) ← item cs
      let (vs, rest) ← itemsGo item steps false rest
      .ok (v :: vs, rest) : Except Fault (List α × List Char))
      = .ok (vs, rest)) : ∀ v ∈ vs, P v := by
  obtain ⟨⟨v, a⟩, hv, h⟩ := bind_ok h
  obtain ⟨⟨ws, b⟩, hws, hend⟩ := bind_ok h
  cases hend
  exact List.forall_mem_cons.mpr ⟨hitem hv, hloop hws⟩

/-- What holds of each item that is read holds of all items of an
array. -/
theorem forall_mem_of_itemsGo {α : Type} {item : Reader α} {P : α → Prop}
    (hitem : ∀ {cs v rest}, item cs = .ok (v, rest) → P v)
    {steps : Nat} {first : Bool} {cs rest : List Char} {vs : List α}
    (h : itemsGo item steps first cs = .ok (vs, rest)) : ∀ v ∈ vs, P v := by
  induction steps generalizing first cs vs with
  | zero => cases h
  | succ steps ih =>
      rw [itemsGo] at h
      dsimp only at h
      split at h
      · cases h
      split at h
      · cases h
        exact nofun
      split at h
      · exact forall_mem_of_item hitem ih h
      split at h
      · split at h
        · cases h
        split at h
        · cases h
        · exact forall_mem_of_item hitem ih h
      · cases h

/-- What reading one field keeps of the state is kept by a key with its
field and the fields behind it. -/
theorem invariant_of_field {σ : Type} {field : σ → String → Reader σ}
    {I : σ → Prop}
    (hfield : ∀ {state key cs out rest}, I state →
      field state key cs = .ok (out, rest) → I out)
    {steps : Nat} {out : σ} {rest : List Char}
    (hloop : ∀ {cs state}, I state →
      fieldsGo field steps false state cs = .ok (out, rest) → I out)
    {state : σ} {cs : List Char} (hi : I state)
    (h : (do
      let (key, rest) ← string cs
      let (state, rest) ← field state key rest
      fieldsGo field steps false state rest) = .ok (out, rest)) :
    I out := by
  obtain ⟨⟨key, a⟩, -, h⟩ := bind_ok h
  obtain ⟨⟨state', b⟩, hstate, h⟩ := bind_ok h
  exact hloop (hfield hi hstate) h

/-- What reading one field keeps of the state holds of the state in
which an object is closed. -/
theorem invariant_of_fieldsGo {σ : Type} {field : σ → String → Reader σ}
    {I : σ → Prop}
    (hfield : ∀ {state key cs out rest}, I state →
      field state key cs = .ok (out, rest) → I out)
    {steps : Nat} {first : Bool} {state out : σ} {cs rest : List Char}
    (hi : I state)
    (h : fieldsGo field steps first state cs = .ok (out, rest)) :
    I out := by
  induction steps generalizing first cs state with
  | zero => cases h
  | succ steps ih =>
      rw [fieldsGo] at h
      dsimp only at h
      split at h
      · cases h
      split at h
      · cases h
        exact hi
      split at h
      · split at h
        · exact invariant_of_field hfield ih hi h
        · cases h
      split at h
      · split at h
        · cases h
        split at h
        · exact invariant_of_field hfield ih hi h
        · cases h
      · cases h

-- =========================================================== values

/-- A value as reading leaves it: its whole numbers fit a 64-bit word
and its objects are in order. -/
inductive Tidy : Json → Prop
  | null : Tidy .null
  | bool {b} : Tidy (.bool b)
  | int {n} : FitsWord n → Tidy (.int n)
  | float {x} : Tidy (.float x)
  | str {s} : Tidy (.str s)
  | arr {vs} : (∀ v ∈ vs, Tidy v) → Tidy (.arr vs)
  | obj {fs} : Ascending fs → (∀ f ∈ fs, Tidy f.2) → Tidy (.obj fs)

/-- All numbers of a value are whole. -/
inductive Integral : Json → Prop
  | null : Integral .null
  | bool {b} : Integral (.bool b)
  | int {n} : Integral (.int n)
  | str {s} : Integral (.str s)
  | arr {vs} : (∀ v ∈ vs, Integral v) → Integral (.arr vs)
  | obj {fs} : (∀ f ∈ fs, Integral f.2) → Integral (.obj fs)

/-- A value as reading leaves it can be written and read back as it is,
if its numbers are whole. -/
theorem Tidy.plain {v : Json} (h : v.Tidy) (hint : v.Integral) :
    v.Plain := by
  induction h with
  | null => exact .null
  | bool => exact .bool
  | int hn => exact .int hn
  | float => cases hint
  | str => exact .str
  | arr _ ih =>
      cases hint with
      | arr hint => exact .arr fun v hv => ih v hv (hint v hv)
  | obj hasc _ ih =>
      cases hint with
      | obj hint => exact .obj hasc fun f hf => ih f hf (hint f hf)

/-- What is read as a number is a float or fits a 64-bit word. -/
theorem tidy_of_number {neg : Bool} {cs rest : List Char} {v : Json}
    (h : number neg cs = .ok (v, rest)) : v.Tidy := by
  have hfloat : (∃ x, v = .float x) → v.Tidy := by
    rintro ⟨x, rfl⟩
    exact .float
  unfold number at h
  obtain ⟨⟨ds, tail⟩, -, h⟩ := bind_ok h
  dsimp only at h
  split at h
  · cases h
  have hle : (absorb 0 ds).1 ≤ maxWord := absorb_le (Nat.zero_le maxWord)
  split at h
  · exact hfloat (float_of_fraction h)
  · exact hfloat (float_of_exponent h)
  · exact hfloat (float_of_exponent h)
  · split at h
    · cases h
      unfold maxWord at hle
      unfold whole
      split
      · exact .int (by unfold FitsWord Binary64.minInt maxWord; omega)
      · split
        · exact .float
        · next hsmall =>
          refine .int ?_
          unfold maxWord at hsmall
          unfold FitsWord Binary64.minInt maxWord
          omega
    · obtain ⟨w, hw, hend⟩ := bind_ok h
      cases hend
      exact hfloat (float_of_floatOf hw)

/-- Fields in order that hold tidy values. -/
def TidyFields (fs : List (String × Json)) : Prop :=
  Ascending fs ∧ ∀ f ∈ fs, f.2.Tidy

theorem TidyFields.nil : TidyFields [] := ⟨.nil, nofun⟩

/-- One more field that holds a tidy value. -/
theorem TidyFields.insertField {fs : List (String × Json)} {v : Json}
    (h : TidyFields fs) (key : String) (hv : v.Tidy) :
    TidyFields (insertField key v fs) := by
  refine ⟨h.1.insertField key v, fun f hf => ?_⟩
  rcases mem_of_mem_insertField (k := f.1) (v := f.2) hf with hf | hf
  · rw [(Prod.mk.inj hf).2]
    exact hv
  · exact h.2 f hf

/-- A word is read as what it stands for. -/
private theorem eq_of_word {w cs rest : List Char} {v out : Json}
    (h : (do
      let (_, rest) ← expect w cs
      .ok (v, rest) : Except Fault (Json × List Char)) = .ok (out, rest)) :
    out = v := by
  obtain ⟨⟨u, a⟩, -, hend⟩ := bind_ok h
  cases hend
  rfl

/-- Whatever is read is tidy. -/
theorem tidy_of_value {d : Nat} {cs rest : List Char} {v : Json}
    (h : value d cs = .ok (v, rest)) : v.Tidy := by
  induction d using Nat.strongRecOn generalizing cs rest v with
  | ind d ih =>
      rw [value.eq_def] at h
      dsimp only at h
      split at h
      · cases h
      split at h
      · rw [eq_of_word h]
        exact .null
      split at h
      · rw [eq_of_word h]
        exact .bool
      split at h
      · rw [eq_of_word h]
        exact .bool
      split at h
      · exact tidy_of_number h
      split at h
      · exact tidy_of_number h
      split at h
      · obtain ⟨⟨s, a⟩, -, hend⟩ := bind_ok h
        cases hend
        exact .str
      split at h
      · cases d with
        | zero => cases h
        | succ d =>
            obtain ⟨⟨vs, a⟩, hvs, hend⟩ := bind_ok h
            cases hend
            exact .arr (forall_mem_of_itemsGo
              (fun hv => ih d (Nat.lt_succ_self d) hv) hvs)
      split at h
      · cases d with
        | zero => cases h
        | succ d =>
            obtain ⟨⟨fs, a⟩, hfs, hend⟩ := bind_ok h
            cases hend
            have hfields : TidyFields fs := by
              refine invariant_of_fieldsGo (I := TidyFields) ?_ .nil hfs
              intro kept key cs out rest hkept h
              obtain ⟨⟨u, b⟩, -, h⟩ := bind_ok h
              obtain ⟨⟨w, c⟩, hw, hend⟩ := bind_ok h
              cases hend
              exact hkept.insertField key (ih d (Nat.lt_succ_self d) hw)
            exact .obj hfields.1 hfields.2
      · cases h

end FileDepot.Json
