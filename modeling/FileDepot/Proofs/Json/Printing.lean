/-
Compact text: what is printed for a plain value is a text of the
grammar, and says that value.

The tree of a value (`tree`) has its fields in the same order and its
numbers in the spelling they are printed in, so printing follows it
token by token. Fields are printed as they come; only reading them back
as the same object needs them in order.
-/
import FileDepot.Proofs.Json.Objects

namespace FileDepot.Json

-- ============================================================ trees

mutual

/-- The tree that the text of a value says. -/
def tree : Json → Tree
  | .null => .null
  | .bool b => .bool b
  | .int n => .number (renderInt n)
  | .float x => .number x.jsonText
  | .str s => .str s
  | .arr vs => .arr (itemTrees vs)
  | .obj fs => .obj (fieldTrees fs)

/-- The trees of the items of an array. -/
def itemTrees : List Json → List Tree
  | [] => []
  | v :: vs => tree v :: itemTrees vs

/-- The trees of the fields of an object. -/
def fieldTrees : List (String × Json) → List (String × Tree)
  | [] => []
  | (k, v) :: fs => (k, tree v) :: fieldTrees fs

end

@[simp] theorem itemTrees_eq_map (vs : List Json) :
    itemTrees vs = vs.map tree := by
  induction vs with
  | nil => rfl
  | cons v vs ih => rw [itemTrees, ih, List.map_cons]

@[simp] theorem fieldTrees_eq_map (fs : List (String × Json)) :
    fieldTrees fs = fs.map fun f => (f.1, tree f.2) := by
  induction fs with
  | nil => rfl
  | cons f fs ih => rw [fieldTrees, ih, List.map_cons]

/-- The numbers in the text of a plain value are whole. -/
theorem Plain.tree_whole {v : Json} (h : v.Plain) : v.tree.Whole := by
  induction h with
  | null => exact .null
  | bool => exact .bool
  | int hn => exact .number hn
  | str => exact .str
  | arr _ ih =>
      rw [tree, itemTrees_eq_map]
      refine .arr fun t ht => ?_
      obtain ⟨v, hv, rfl⟩ := List.mem_map.mp ht
      exact ih v hv
  | obj _ _ ih =>
      rw [tree, fieldTrees_eq_map]
      refine .obj fun f hf => ?_
      obtain ⟨g, hg, rfl⟩ := List.mem_map.mp hf
      exact ih g hg

/-- The text of a value nests no deeper than the value. -/
theorem Within.tree_within {d : Nat} {v : Json} (h : v.Within d) :
    v.tree.Within d := by
  induction h with
  | null => exact .null
  | bool => exact .bool
  | int | float => exact .number
  | str => exact .str
  | arr _ ih =>
      rw [tree, itemTrees_eq_map]
      refine .arr fun t ht => ?_
      obtain ⟨v, hv, rfl⟩ := List.mem_map.mp ht
      exact ih v hv
  | obj _ ih =>
      rw [tree, fieldTrees_eq_map]
      refine .obj fun f hf => ?_
      obtain ⟨g, hg, rfl⟩ := List.mem_map.mp hf
      exact ih g hg

/-- The trees of fields have their values, if the tree of each value
has. -/
theorem fieldValues_fieldTrees {fs : List (String × Json)}
    (h : ∀ f ∈ fs, f.2.tree.value = f.2) :
    fieldValues (fieldTrees fs) = fs := by
  rw [fieldTrees_eq_map, fieldValues_eq_map, List.map_map]
  refine (List.map_congr_left fun f hf => ?_).trans (List.map_id fs)
  exact Prod.ext rfl (h f hf)

/-- The tree of a plain value has that value. -/
theorem Plain.tree_value {v : Json} (h : v.Plain) : v.tree.value = v := by
  induction h with
  | null => rfl
  | bool => rfl
  | int _ => rw [tree, Tree.value, wholeValue_renderInt]
  | str => rfl
  | @arr vs _ ih =>
      have hitems : itemValues (itemTrees vs) = vs := by
        rw [itemTrees_eq_map, itemValues_eq_map, List.map_map]
        exact (List.map_congr_left ih).trans (List.map_id vs)
      rw [tree, Tree.value, hitems]
  | @obj fs hasc _ ih =>
      rw [tree, Tree.value, fieldValues_fieldTrees ih, hasc.ofPairs_eq]

-- ========================================================== strings

/-- A written string in front of more text. -/
theorem renderString_append (s : String) (rest : List Char) :
    renderString s ++ rest
      = '"' :: (s.toList.flatMap escapeChar ++ '"' :: rest) := by
  unfold renderString
  simp

/-- A hexadecimal digit has its value. -/
theorem hexValue?_hexDigit :
    ∀ n, n < 16 → hexValue? (Text.hexDigit n) = some n := by
  decide

/-- The number of a control character is spelt with four digits. -/
theorem quad_control {n : Nat} (h : n < 32) (rest : List Char) :
    Quad n ('0' :: '0' :: Text.hexDigit (n / 16)
      :: Text.hexDigit (n % 16) :: rest) rest := by
  have h₀ : hexValue? '0' = some 0 := by decide
  have h₁ := hexValue?_hexDigit (n / 16) (by omega)
  have h₂ := hexValue?_hexDigit (n % 16) (by omega)
  have hquad : Quad _ _ rest := .digits h₀ h₀ h₁ h₂
  have hn : 0 * 4096 + 0 * 256 + n / 16 * 16 + n % 16 = n := by omega
  rwa [hn] at hquad

/-- A printed character stands for itself. -/
theorem chars_escapeChar {c : Char} {s cs rest : List Char}
    (h : Chars s cs rest) : Chars (c :: s) (escapeChar c ++ cs) rest := by
  have named : ∀ {e : Char} {n : Nat}, c.toNat = n →
      plainEscape? e = some (Char.ofNat n) →
      Chars (c :: s) ('\\' :: e :: cs) rest := by
    intro e n hn he
    rw [← hn, Char.ofNat_toNat] at he
    exact .letter he h
  unfold escapeChar
  by_cases hquote : c = '"'
  · rw [if_pos hquote, hquote]
    exact .letter rfl h
  rw [if_neg hquote]
  by_cases hslash : c = '\\'
  · rw [if_pos hslash, hslash]
    exact .letter rfl h
  rw [if_neg hslash]
  split
  · next hn => exact named hn rfl
  split
  · next hn => exact named hn rfl
  split
  · next hn => exact named hn rfl
  split
  · next hn => exact named hn rfl
  split
  · next hn => exact named hn rfl
  split
  · next hcontrol =>
    have hcode := Chars.code (quad_control hcontrol cs) (fun hh => by
      unfold IsHigh at hh
      omega) (fun hl => by
      unfold IsLow at hl
      omega) h
    rw [Char.ofNat_toNat] at hcode
    exact hcode
  · next hcontrol => exact .plain hquote hslash (by omega) h

/-- The characters of a printed string are those of the string. -/
theorem chars_render (s rest : List Char) :
    Chars s (s.flatMap escapeChar ++ '"' :: rest) rest := by
  induction s with
  | nil => exact .close
  | cons c s ih =>
      rw [List.flatMap_cons, List.append_assoc]
      exact chars_escapeChar ih

-- =========================================================== values

section

variable {vs : List Json} {fs : List (String × Json)}

/-- Printed items, if each one is printed as a text. -/
theorem items_renderItems
    (h : ∀ v ∈ vs, ∀ rest, Spelt v.tree (render v ++ rest) rest)
    (rest : List Char) :
    Items false (vs.map tree) (renderItems vs ++ rest) rest := by
  induction vs with
  | nil => exact .close .none
  | cons v vs ih =>
      have hrest := ih fun w hw => h w (List.mem_cons_of_mem v hw)
      rw [renderItems, List.cons_append, List.cons_append,
        List.append_assoc]
      exact .next .none .none (h v List.mem_cons_self _) hrest

/-- A printed colon and value, if the value is printed as a text. -/
theorem valued_render {v : Json}
    (h : ∀ rest, Spelt v.tree (render v ++ rest) rest) (rest : List Char) :
    Valued v.tree (':' :: (render v ++ rest)) rest :=
  .colon .none .none (h rest)

/-- Printed fields, if the value of each is printed as a text. -/
theorem members_renderFields
    (h : ∀ f ∈ fs, ∀ rest, Spelt f.2.tree (render f.2 ++ rest) rest)
    (rest : List Char) :
    Members false (fs.map fun f => (f.1, f.2.tree))
      (renderFields fs ++ rest) rest := by
  induction fs with
  | nil => exact .close .none
  | cons f fs ih =>
      obtain ⟨k, v⟩ := f
      have hrest := ih fun g hg => h g (List.mem_cons_of_mem _ hg)
      have hvalue := valued_render (h (k, v) List.mem_cons_self)
      have htext : renderFields ((k, v) :: fs) ++ rest
          = ',' :: '"' :: (k.toList.flatMap escapeChar ++ '"' :: ':'
            :: (render v ++ (renderFields fs ++ rest))) := by
        rw [renderFields, renderString]
        simp only [List.cons_append, List.nil_append, List.append_assoc]
      rw [htext]
      exact .next .none .none (chars_render _ _) (hvalue _) hrest

/-- A printed object, in whatever order its fields are, if the value of
each is printed as a text. -/
theorem spelt_render_obj
    (h : ∀ f ∈ fs, ∀ rest, Spelt f.2.tree (render f.2 ++ rest) rest)
    (rest : List Char) :
    Spelt (tree (.obj fs)) (render (.obj fs) ++ rest) rest := by
  rw [tree, fieldTrees_eq_map]
  cases fs with
  | nil => exact .obj (.close .none)
  | cons f fs =>
      obtain ⟨k, v⟩ := f
      have hrest := members_renderFields
        fun g hg => h g (List.mem_cons_of_mem _ hg)
      have hvalue := valued_render (h (k, v) List.mem_cons_self)
      have htext : render (.obj ((k, v) :: fs)) ++ rest
          = '\x7b' :: '"' :: (k.toList.flatMap escapeChar ++ '"' :: ':'
            :: (render v ++ (renderFields fs ++ rest))) := by
        rw [render, renderString]
        simp only [List.cons_append, List.nil_append, List.append_assoc]
      rw [htext]
      exact .obj (.first .none (chars_render _ _) (hvalue _) (hrest rest))

end

/-- What is printed for a plain value is a text of its tree. -/
theorem Plain.spelt_render {v : Json} (h : v.Plain) (rest : List Char) :
    Spelt v.tree (render v ++ rest) rest := by
  induction h generalizing rest with
  | null => exact .null
  | @bool b =>
      cases b with
      | true => exact .yes
      | false => exact .no
  | @int n _ => exact .number (numeral_renderInt n)
  | @str s =>
      rw [render, renderString_append]
      exact .str (chars_render _ _)
  | @arr vs _ ih =>
      rw [tree, itemTrees_eq_map]
      cases vs with
      | nil => exact .arr (.close .none)
      | cons v vs =>
          have hrest := items_renderItems
            fun w hw => ih w (List.mem_cons_of_mem v hw)
          rw [render, List.cons_append, List.cons_append, List.append_assoc]
          exact .arr (.first .none (ih v List.mem_cons_self _) (hrest rest))
  | obj _ _ ih => exact spelt_render_obj ih rest

/-- The text of an object starts and ends with a brace. -/
theorem render_obj_ends (fs : List (String × Json)) :
    ∃ mid, render (.obj fs) = '\x7b' :: mid ++ ['\x7d'] := by
  have hend : ∀ fs, ∃ mid, renderFields fs = mid ++ ['\x7d'] := by
    intro fs
    induction fs with
    | nil => exact ⟨[], rfl⟩
    | cons f fs ih =>
        obtain ⟨mid, hmid⟩ := ih
        rw [renderFields, hmid]
        exact ⟨_, (List.append_assoc _ mid _).symm⟩
  cases fs with
  | nil => exact ⟨[], rfl⟩
  | cons f fs =>
      obtain ⟨mid, hmid⟩ := hend fs
      rw [render, hmid]
      exact ⟨_, (List.append_assoc _ mid _).symm⟩

end FileDepot.Json
