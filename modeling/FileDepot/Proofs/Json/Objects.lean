/-
Objects: the fields of a value stand in ascending order of their keys,
each key once, and of several fields of one key the last one is kept.

`mem_ofPairs` says which fields an object has that was made from fields
in any order, and `Ascending.ofPairs_eq` that fields already in order
stay as they are. `Plain` are the values that can be written and read
back as they are; the value of a tree whose numbers are whole is one of
them, and nests no deeper than the tree.
-/
import FileDepot.Proofs.Json.Numbers

namespace FileDepot.Json

-- =========================================================== fields

/-- Fields in ascending order of their keys, each key once. -/
def Ascending (fields : List (String × Json)) : Prop :=
  fields.Pairwise fun f g => f.1 < g.1

/-- What stands under a key, in order. -/
def valuesAt {α : Type} (key : String) (fields : List (String × α)) :
    List α :=
  (fields.filter fun f => f.1 == key).map (·.2)

theorem valuesAt_cons_self {α : Type} (key : String) (v : α)
    (fields : List (String × α)) :
    valuesAt key ((key, v) :: fields) = v :: valuesAt key fields := by
  unfold valuesAt
  rw [List.filter_cons_of_pos (by simp), List.map_cons]

theorem valuesAt_cons_of_ne {α : Type} {key k : String} (h : k ≠ key)
    (v : α) (fields : List (String × α)) :
    valuesAt key ((k, v) :: fields) = valuesAt key fields := by
  unfold valuesAt
  rw [List.filter_cons_of_neg (by simpa using h)]

theorem mem_valuesAt {α : Type} {key : String} {v : α}
    {fields : List (String × α)} :
    v ∈ valuesAt key fields ↔ (key, v) ∈ fields := by
  unfold valuesAt
  constructor
  · intro h
    obtain ⟨⟨k, w⟩, hmem, rfl⟩ := List.mem_map.mp h
    obtain ⟨hmem, hkey⟩ := List.mem_filter.mp hmem
    rw [← eq_of_beq hkey]
    exact hmem
  · intro h
    exact List.mem_map.mpr ⟨(key, v), List.mem_filter.mpr ⟨h, by simp⟩, rfl⟩

theorem valuesAt_append {α : Type} (key : String)
    (fields gs : List (String × α)) :
    valuesAt key (fields ++ gs) = valuesAt key fields ++ valuesAt key gs := by
  unfold valuesAt
  rw [List.filter_append, List.map_append]

theorem valuesAt_map {α β : Type} (key : String) (g : α → β)
    (fields : List (String × α)) :
    valuesAt key (fields.map fun f => (f.1, g f.2))
      = (valuesAt key fields).map g := by
  unfold valuesAt
  rw [List.filter_map, List.map_map, List.map_map]
  rfl

variable {key k : String} {value v : Json} {fields : List (String × Json)}

/-- A field that was put in is the new one or an old one. -/
theorem mem_of_mem_insertField
    (h : (k, v) ∈ insertField key value fields) :
    (k, v) = (key, value) ∨ (k, v) ∈ fields := by
  induction fields with
  | nil => exact .inl (List.mem_singleton.mp h)
  | cons f fields ih =>
      obtain ⟨l, w⟩ := f
      rw [insertField] at h
      split at h
      · rcases List.mem_cons.mp h with h | h
        · exact .inl h
        · exact .inr (List.mem_cons_of_mem _ h)
      · split at h
        · exact List.mem_cons.mp h
        · rcases List.mem_cons.mp h with h | h
          · exact .inr (List.mem_cons.mpr (.inl h))
          · exact (ih h).imp_right (List.mem_cons_of_mem _)

/-- A key that is neither equal nor smaller is greater. -/
private theorem gt_of_ne_of_not_lt {a b : String} (hne : a ≠ b)
    (hlt : ¬a < b) : b < a := by
  by_cases h : b < a
  · exact h
  · exact absurd (String.le_antisymm (String.not_lt.mp h)
      (String.not_lt.mp hlt)) hne

/-- Putting in a field keeps the order. -/
theorem Ascending.insertField (h : Ascending fields) (key : String)
    (value : Json) : Ascending (insertField key value fields) := by
  unfold Ascending at *
  induction fields with
  | nil => exact List.pairwise_singleton _ _
  | cons f fields ih =>
      obtain ⟨l, w⟩ := f
      obtain ⟨hhead, htail⟩ := List.pairwise_cons.mp h
      rw [Json.insertField]
      by_cases heq : key = l
      · rw [if_pos heq, heq]
        exact List.pairwise_cons.mpr ⟨hhead, htail⟩
      rw [if_neg heq]
      by_cases hlt : key < l
      · rw [if_pos hlt]
        refine List.pairwise_cons.mpr ⟨fun g hg => ?_, h⟩
        rcases List.mem_cons.mp hg with rfl | hg
        · exact hlt
        · exact String.lt_trans hlt (hhead g hg)
      · rw [if_neg hlt]
        refine List.pairwise_cons.mpr ⟨fun g hg => ?_, ih htail⟩
        rcases mem_of_mem_insertField (k := g.1) (v := g.2) hg with hg | hg
        · rw [show g = (key, value) from hg]
          exact gt_of_ne_of_not_lt heq hlt
        · exact hhead g hg

/-- Which fields there are once one was put in. -/
theorem Ascending.mem_insertField (h : Ascending fields) :
    (k, v) ∈ Json.insertField key value fields
      ↔ if k = key then v = value else (k, v) ∈ fields := by
  unfold Ascending at h
  induction fields with
  | nil =>
      rw [Json.insertField, List.mem_singleton, Prod.mk.injEq]
      split
      · next hk => exact ⟨And.right, fun hv => ⟨hk, hv⟩⟩
      · next hk => exact ⟨fun hv => absurd hv.1 hk, nofun⟩
  | cons f fields ih =>
      obtain ⟨l, w⟩ := f
      obtain ⟨hhead, htail⟩ := List.pairwise_cons.mp h
      have hfresh : ∀ u, (l, u) ∉ fields := fun u hu =>
        String.lt_irrefl l (hhead _ hu)
      rw [Json.insertField]
      by_cases heq : key = l
      · subst heq
        rw [if_pos rfl, List.mem_cons, List.mem_cons]
        split
        · next hk =>
          subst hk
          simp [hfresh v]
        · next hk => simp [hk]
      rw [if_neg heq]
      by_cases hlt : key < l
      · -- all keys from here on are greater
        have hkey : ∀ u, (key, u) ∉ (l, w) :: fields := by
          intro u hu
          rcases List.mem_cons.mp hu with hu | hu
          · exact heq (Prod.mk.inj hu).1
          · exact String.lt_asymm hlt (hhead _ hu)
        rw [if_pos hlt, List.mem_cons]
        split
        · next hk =>
          subst hk
          simp [hkey v]
        · next hk => simp [hk]
      · rw [if_neg hlt, List.mem_cons, ih htail, List.mem_cons]
        split
        · next hk =>
          subst hk
          simp [heq]
        · rfl

/-- Fields made from pairs are in order. -/
theorem ascending_ofPairs (pairs : List (String × Json)) :
    Ascending (ofPairs pairs) := by
  suffices key : ∀ start, Ascending start → Ascending
      (pairs.foldl (fun fs p => Json.insertField p.1 p.2 fs) start) from
    key [] List.Pairwise.nil
  induction pairs with
  | nil => exact fun start h => h
  | cons p pairs ih => exact fun start h => ih _ (h.insertField p.1 p.2)

/-- Of the pairs of each key the last one is a field. -/
theorem mem_ofPairs {pairs : List (String × Json)} :
    (k, v) ∈ ofPairs pairs ↔ (valuesAt k pairs).getLast? = some v := by
  -- what was there before counts only where no pair has the key
  suffices key : ∀ start, Ascending start →
      ((k, v) ∈ pairs.foldl (fun fs p => Json.insertField p.1 p.2 fs) start
        ↔ (valuesAt k pairs).getLast? = some v
          ∨ valuesAt k pairs = [] ∧ (k, v) ∈ start) by
    refine (key [] List.Pairwise.nil).trans (or_iff_left ?_)
    exact fun h => absurd h.2 List.not_mem_nil
  induction pairs with
  | nil => exact fun start _ => by simp [valuesAt]
  | cons p pairs ih =>
      intro start h
      obtain ⟨l, w⟩ := p
      rw [List.foldl_cons, ih _ (h.insertField l w), h.mem_insertField]
      by_cases hk : l = k
      · subst hk
        rw [valuesAt_cons_self, if_pos rfl, List.getLast?_cons]
        rcases hvals : valuesAt l pairs with _ | ⟨u, us⟩
        · simp [eq_comm]
        · simp [List.getLast?_cons]
      · rw [valuesAt_cons_of_ne hk, if_neg (Ne.symm hk)]

/-- Fields made from pairs are among the pairs. -/
theorem mem_of_mem_ofPairs {pairs : List (String × Json)}
    {f : String × Json} (h : f ∈ ofPairs pairs) : f ∈ pairs :=
  mem_valuesAt.mp (List.mem_of_getLast? (mem_ofPairs.mp h))

/-- A field behind all others is put at the end. -/
private theorem insertField_append (h : ∀ f ∈ fields, f.1 < key) :
    Json.insertField key value fields = fields ++ [(key, value)] := by
  induction fields with
  | nil => rfl
  | cons f fields ih =>
      obtain ⟨l, w⟩ := f
      have hlt : l < key := h (l, w) List.mem_cons_self
      have hne : key ≠ l := by
        rintro rfl
        exact String.lt_irrefl key hlt
      rw [Json.insertField, if_neg hne, if_neg (String.lt_asymm hlt),
        ih fun g hg => h g (List.mem_cons_of_mem _ hg)]
      rfl

/-- Fields in order stay as they are. -/
theorem Ascending.ofPairs_eq (h : Ascending fields) :
    ofPairs fields = fields := by
  suffices key : ∀ start, Ascending (start ++ fields) →
      fields.foldl (fun fs p => Json.insertField p.1 p.2 fs) start
        = start ++ fields from key [] h
  clear h
  induction fields with
  | nil => exact fun start _ => (List.append_nil start).symm
  | cons f fields ih =>
      intro start h
      have hlast : ∀ g ∈ start, g.1 < f.1 := fun g hg =>
        (List.pairwise_append.mp h).2.2 g hg f List.mem_cons_self
      rw [List.append_cons] at h
      rw [List.foldl_cons, insertField_append hlast, ih _ h,
        ← List.append_cons]

-- =========================================================== values

/-- A value without floats, whose numbers fit a 64-bit word and whose
objects are in order. -/
inductive Plain : Json → Prop
  | null : Plain .null
  | bool {b} : Plain (.bool b)
  | int {n} : FitsWord n → Plain (.int n)
  | str {s} : Plain (.str s)
  | arr {vs} : (∀ v ∈ vs, Plain v) → Plain (.arr vs)
  | obj {fs} : Ascending fs → (∀ f ∈ fs, Plain f.2) → Plain (.obj fs)

/-- A value nests at most so many arrays and objects inside one
another. -/
inductive Within : Nat → Json → Prop
  | null {d} : Within d .null
  | bool {d b} : Within d (.bool b)
  | int {d n} : Within d (.int n)
  | float {d x} : Within d (.float x)
  | str {d s} : Within d (.str s)
  | arr {d vs} : (∀ v ∈ vs, Within d v) → Within (d + 1) (.arr vs)
  | obj {d fs} : (∀ f ∈ fs, Within d f.2) → Within (d + 1) (.obj fs)

/-- A field of a tree's object is one of the tree's fields. -/
theorem exists_of_mem_fieldValues {fs : List (String × Tree)}
    {f : String × Json} (h : f ∈ ofPairs (fieldValues fs)) :
    ∃ g ∈ fs, f.2 = g.2.value := by
  have hmem := mem_of_mem_ofPairs h
  rw [fieldValues_eq_map] at hmem
  obtain ⟨g, hg, rfl⟩ := List.mem_map.mp hmem
  exact ⟨g, hg, rfl⟩

/-- The value of a tree with whole numbers is plain. -/
theorem Tree.Whole.value_plain {t : Tree} (h : t.Whole) : t.value.Plain := by
  induction h with
  | null => exact .null
  | bool => exact .bool
  | @number n hn =>
      rw [Tree.value, wholeValue_renderInt]
      exact .int hn
  | str => exact .str
  | @arr ts _ ih =>
      rw [Tree.value, itemValues_eq_map]
      refine .arr fun v hv => ?_
      obtain ⟨t, ht, rfl⟩ := List.mem_map.mp hv
      exact ih t ht
  | @obj fs _ ih =>
      rw [Tree.value]
      refine .obj (ascending_ofPairs _) fun f hf => ?_
      obtain ⟨g, hg, hval⟩ := exists_of_mem_fieldValues hf
      rw [hval]
      exact ih g hg

/-- The value of a tree nests no deeper than the tree. -/
theorem Tree.Within.value_within {d : Nat} {t : Tree} (h : t.Within d) :
    t.value.Within d := by
  induction h with
  | null => exact .null
  | bool => exact .bool
  | number => exact .int
  | str => exact .str
  | @arr d ts _ ih =>
      rw [Tree.value, itemValues_eq_map]
      refine .arr fun v hv => ?_
      obtain ⟨t, ht, rfl⟩ := List.mem_map.mp hv
      exact ih t ht
  | @obj d fs _ ih =>
      rw [Tree.value]
      refine .obj fun f hf => ?_
      obtain ⟨g, hg, hval⟩ := exists_of_mem_fieldValues hf
      rw [hval]
      exact ih g hg

end FileDepot.Json
