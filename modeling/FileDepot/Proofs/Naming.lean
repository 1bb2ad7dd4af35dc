/-
The names of a table and of its two indexes, compared without regard to
case.

An index is named by the name of its table between two fixed ends, so
two index names are the same only when they are of one kind and the
tables have the same name. Nothing else has an index name: the counter
book does not, and neither does the table itself. So far the ends decide
alone; which spellings are accepted as a name is decided letter by
letter and hence does not depend on case either (`isTableName_congr`).
-/
import FileDepot.Database.Schema
import FileDepot.Proofs.Table

namespace FileDepot

-- =========================================================== letters

/-- Names are compared letter by letter. -/
theorem sameName_iff_map {a b : String} :
    sameName a b = true
      ↔ a.toList.map Text.asciiLower = b.toList.map Text.asciiLower := by
  rw [sameName_iff, Text.lowerAscii, Text.lowerAscii, ← String.toList_inj,
    String.toList_ofList, String.toList_ofList]

/-- A capital letter and its lower-case form. -/
private theorem asciiLower_cases (c : Char) :
    ('A' ≤ c ∧ c ≤ 'Z' ∧ 'a' ≤ Text.asciiLower c ∧ Text.asciiLower c ≤ 'z')
      ∨ Text.asciiLower c = c := by
  unfold Text.asciiLower
  split
  · next h =>
    have h₁ : 65 ≤ c.toNat := h.1
    have h₂ : c.toNat ≤ 90 := h.2
    have hvalid : (c.toNat + 32).isValidChar := .inl (by omega)
    have hval : (Char.ofNat (c.toNat + 32)).toNat = c.toNat + 32 := by
      unfold Char.ofNat
      rw [dif_pos hvalid]
      rfl
    refine .inl ⟨h.1, h.2, ?_, ?_⟩
    · show 97 ≤ (Char.ofNat (c.toNat + 32)).toNat
      omega
    · show (Char.ofNat (c.toNat + 32)).toNat ≤ 122
      omega
  · exact .inr rfl

private theorem isNameStart_asciiLower (c : Char) :
    isNameStart (Text.asciiLower c) = isNameStart c := by
  rcases asciiLower_cases c with ⟨h₁, h₂, h₃, h₄⟩ | h
  · simp [isNameStart, h₁, h₂, h₃, h₄]
  · rw [h]

private theorem isNamePart_asciiLower (c : Char) :
    isNamePart (Text.asciiLower c) = isNamePart c := by
  rcases asciiLower_cases c with ⟨h₁, h₂, h₃, h₄⟩ | h
  · simp [isNamePart, isNameStart, h₁, h₂, h₃, h₄]
  · rw [h]

private theorem utf8Size_asciiLower (c : Char) :
    (Text.asciiLower c).utf8Size = c.utf8Size := by
  rcases asciiLower_cases c with ⟨h₁, h₂, h₃, h₄⟩ | h
  · have hsize : ∀ d : Char, d.toNat ≤ 127 → d.utf8Size = 1 := by
      intro d hd
      exact Char.utf8Size_eq_one_iff.mpr hd
    have h₂' : c.toNat ≤ 90 := h₂
    have h₄' : (Text.asciiLower c).toNat ≤ 122 := h₄
    rw [hsize _ (by omega), hsize _ (by omega)]
  · rw [h]

private theorem utf8ByteSize_asciiLower (cs : List Char) :
    (String.ofList (cs.map Text.asciiLower)).utf8ByteSize
      = (String.ofList cs).utf8ByteSize := by
  have hcons : ∀ (c : Char) (rest : List Char),
      (String.ofList (c :: rest)).utf8ByteSize
        = c.utf8Size + (String.ofList rest).utf8ByteSize := by
    intro c rest
    have hsplit : String.ofList (c :: rest)
        = String.singleton c ++ String.ofList rest := by
      rw [← String.toList_inj]
      simp
    rw [hsplit, String.utf8ByteSize_append, String.utf8ByteSize_singleton]
  induction cs with
  | nil => rfl
  | cons c rest ih =>
      rw [List.map_cons, hcons, hcons, ih, utf8Size_asciiLower]

/-- A name is accepted when its lower-case form is. -/
private theorem isTableName_lowerAscii (a : String) :
    isTableName (Text.lowerAscii a) = isTableName a := by
  have hsize : (Text.lowerAscii a).utf8ByteSize = a.utf8ByteSize := by
    unfold Text.lowerAscii
    rw [utf8ByteSize_asciiLower, String.ofList_toList]
  unfold isTableName
  rw [hsize, Text.lowerAscii, String.toList_ofList]
  cases a.toList with
  | nil => rfl
  | cons c rest =>
      simp only [List.map_cons, List.all_map]
      rw [isNameStart_asciiLower,
        show isNamePart ∘ Text.asciiLower = isNamePart from
          funext isNamePart_asciiLower]

/-- Spellings of one name are accepted together. -/
theorem isTableName_congr {a b : String} (h : sameName a b = true) :
    isTableName a = isTableName b := by
  rw [← isTableName_lowerAscii a, sameName_iff.mp h, isTableName_lowerAscii]

-- ========================================================= index names

namespace Database

theorem isKeyword_congr {a b : String} (h : sameName a b = true) :
    isKeyword a = isKeyword b := by
  unfold isKeyword
  rw [sameName_iff.mp h]

theorem isGuardWord_congr {a b : String} (h : sameName a b = true) :
    isGuardWord a = isGuardWord b := by
  unfold isGuardWord
  rw [sameName_iff.mp h]

theorem isInternal_congr {a b : String} (h : sameName a b = true) :
    isInternal a = isInternal b := by
  unfold isInternal
  rw [sameName_iff.mp h]

/-- What stands around two names does not tell them apart. -/
private theorem sameName_around (front back a b : String) :
    sameName (front ++ a ++ back) (front ++ b ++ back) = sameName a b := by
  rw [Bool.eq_iff_iff, sameName_iff_map, sameName_iff_map]
  simp [List.append_assoc]

@[simp]
theorem sameName_locationIndex (a b : String) :
    sameName (locationIndex a) (locationIndex b) = sameName a b :=
  sameName_around ..

@[simp]
theorem sameName_modifiedIndex (a b : String) :
    sameName (modifiedIndex a) (modifiedIndex b) = sameName a b :=
  sameName_around ..

/-- The two kinds of indexes end in different letters. -/
@[simp]
theorem sameName_location_modified (a b : String) :
    sameName (locationIndex a) (modifiedIndex b) = false := by
  rw [Bool.eq_false_iff, Ne, sameName_iff_map]
  intro h
  have hlast := congrArg List.getLast? h
  simp only [locationIndex, modifiedIndex, String.toList_append,
    List.map_append, List.getLast?_append] at hlast
  simp [Text.asciiLower] at hlast

@[simp]
theorem sameName_modified_location (a b : String) :
    sameName (modifiedIndex a) (locationIndex b) = false := by
  rw [sameName_comm, sameName_location_modified]

/-- The names of the indexes of a table. -/
def indexNames (name : String) : List String :=
  [locationIndex name, modifiedIndex name]

/-- A table does not have the name of one of its indexes, which is
longer. -/
theorem sameName_indexName {name i : String} (h : i ∈ indexNames name) :
    sameName name i = false := by
  rw [Bool.eq_false_iff, Ne, sameName_iff_map]
  intro hsame
  have hlength := congrArg List.length hsame
  simp only [indexNames, List.mem_cons, List.not_mem_nil, or_false] at h
  rcases h with rfl | rfl
  all_goals
    simp [locationIndex, modifiedIndex] at hlength
    omega

/-- The counter book does not have the name of an index, which starts
with another letter. -/
theorem sameName_counterBook {name i : String} (h : i ∈ indexNames name) :
    sameName counterBook i = false := by
  rw [Bool.eq_false_iff, Ne, sameName_iff_map]
  intro hsame
  have hhead := congrArg List.head? hsame
  simp only [indexNames, List.mem_cons, List.not_mem_nil, or_false] at h
  rcases h with rfl | rfl
  all_goals
    simp only [locationIndex, modifiedIndex, String.toList_append,
      List.map_append, List.head?_append] at hhead
    simp [counterBook, Text.asciiLower] at hhead

end Database

end FileDepot
