/-
Indented text: what is printed line by line for a plain value is a text
of the same tree as its compact text.

Printing goes through the value as `render` does, and only the blanks
are new: a line break stands in front of every item, every key and
every closing bracket, and one blank behind every colon. Both texts therefore
are texts of one tree (`Plain.spelt_render`, `Plain.spelt_renderAt`), and
reading cannot tell them apart.
-/
import FileDepot.Proofs.Json.Printing

namespace FileDepot.Json

-- =========================================================== blanks

/-- A line break and what it is followed by are blanks. -/
theorem blanks_lineBreak (depth : Nat) (rest : List Char) :
    Blanks (lineBreak depth ++ rest) rest := by
  have hspaces : ∀ count,
      Blanks (List.replicate count ' ' ++ rest) rest := by
    intro count
    induction count with
    | zero => exact .none
    | succ count ih =>
        rw [List.replicate_succ, List.cons_append]
        exact .more rfl ih
  exact .more rfl (hspaces _)

-- =========================================================== values

section

variable {depth : Nat} {vs : List Json} {fs : List (String × Json)}

/-- Items printed on lines of their own, if each one is printed as a
text. -/
theorem items_renderItemsAt
    (h : ∀ v ∈ vs, ∀ rest,
      Spelt v.tree (renderAt (depth + 1) v ++ rest) rest)
    (rest : List Char) :
    Items false (vs.map tree) (renderItemsAt depth vs ++ rest) rest := by
  induction vs with
  | nil =>
      rw [renderItemsAt, List.append_assoc]
      exact .close (blanks_lineBreak depth _)
  | cons v vs ih =>
      have hrest := ih fun w hw => h w (List.mem_cons_of_mem v hw)
      have htext : renderItemsAt depth (v :: vs) ++ rest
          = ',' :: (lineBreak (depth + 1) ++ (renderAt (depth + 1) v
            ++ (renderItemsAt depth vs ++ rest))) := by
        rw [renderItemsAt]
        simp only [List.cons_append, List.append_assoc]
      rw [htext]
      exact .next .none (blanks_lineBreak _ _) (h v List.mem_cons_self _)
        hrest

/-- A colon, a blank and a value, if the value is printed as a text. -/
theorem valued_renderAt {v : Json}
    (h : ∀ rest, Spelt v.tree (renderAt depth v ++ rest) rest)
    (rest : List Char) :
    Valued v.tree (':' :: ' ' :: (renderAt depth v ++ rest)) rest :=
  .colon .none (.more rfl .none) (h rest)

/-- Fields printed on lines of their own, if the value of each is
printed as a text. -/
theorem members_renderFieldsAt
    (h : ∀ f ∈ fs, ∀ rest,
      Spelt f.2.tree (renderAt (depth + 1) f.2 ++ rest) rest)
    (rest : List Char) :
    Members false (fs.map fun f => (f.1, f.2.tree))
      (renderFieldsAt depth fs ++ rest) rest := by
  induction fs with
  | nil =>
      rw [renderFieldsAt, List.append_assoc]
      exact .close (blanks_lineBreak depth _)
  | cons f fs ih =>
      obtain ⟨k, v⟩ := f
      have hrest := ih fun g hg => h g (List.mem_cons_of_mem _ hg)
      have hvalue := valued_renderAt (h (k, v) List.mem_cons_self)
      have htext : renderFieldsAt depth ((k, v) :: fs) ++ rest
          = ',' :: (lineBreak (depth + 1)
            ++ '"' :: (k.toList.flatMap escapeChar ++ '"' :: ':' :: ' '
            :: (renderAt (depth + 1) v
              ++ (renderFieldsAt depth fs ++ rest)))) := by
        rw [renderFieldsAt, renderString]
        simp only [List.cons_append, List.nil_append, List.append_assoc]
      rw [htext]
      exact .next .none (blanks_lineBreak _ _) (chars_render _ _)
        (hvalue _) hrest

/-- An object printed line by line, in whatever order its fields are,
if the value of each is printed as a text. -/
theorem spelt_renderAt_obj
    (h : ∀ f ∈ fs, ∀ rest,
      Spelt f.2.tree (renderAt (depth + 1) f.2 ++ rest) rest)
    (rest : List Char) :
    Spelt (tree (.obj fs)) (renderAt depth (.obj fs) ++ rest) rest := by
  rw [tree, fieldTrees_eq_map]
  cases fs with
  | nil => exact .obj (.close .none)
  | cons f fs =>
      obtain ⟨k, v⟩ := f
      have hrest := members_renderFieldsAt
        fun g hg => h g (List.mem_cons_of_mem _ hg)
      have hvalue := valued_renderAt (h (k, v) List.mem_cons_self)
      have htext : renderAt depth (.obj ((k, v) :: fs)) ++ rest
          = '\x7b' :: (lineBreak (depth + 1)
            ++ '"' :: (k.toList.flatMap escapeChar ++ '"' :: ':' :: ' '
            :: (renderAt (depth + 1) v
              ++ (renderFieldsAt depth fs ++ rest)))) := by
        rw [renderAt, renderString]
        simp only [List.cons_append, List.nil_append, List.append_assoc]
      rw [htext]
      exact .obj (.first (blanks_lineBreak _ _) (chars_render _ _)
        (hvalue _) (hrest rest))

end

/-- What is printed line by line for a plain value is a text of its
tree, however deep it stands. -/
theorem Plain.spelt_renderAt {v : Json} (h : v.Plain) (depth : Nat)
    (rest : List Char) : Spelt v.tree (renderAt depth v ++ rest) rest := by
  induction h generalizing depth rest with
  | null => exact .null
  | @bool b =>
      cases b with
      | true => exact .yes
      | false => exact .no
  | @int n _ => exact .number (numeral_renderInt n)
  | @str s =>
      rw [renderAt, renderString_append]
      exact .str (chars_render _ _)
  | @arr vs _ ih =>
      rw [tree, itemTrees_eq_map]
      cases vs with
      | nil => exact .arr (.close .none)
      | cons v vs =>
          have hrest := items_renderItemsAt
            fun w hw => ih w (List.mem_cons_of_mem v hw) (depth + 1)
          have htext : renderAt depth (.arr (v :: vs)) ++ rest
              = '[' :: (lineBreak (depth + 1) ++ (renderAt (depth + 1) v
                ++ (renderItemsAt depth vs ++ rest))) := by
            rw [renderAt]
            simp only [List.cons_append, List.append_assoc]
          rw [htext]
          exact .arr (.first (blanks_lineBreak _ _)
            (ih v List.mem_cons_self _ _) (hrest rest))
  | obj _ _ ih =>
      exact spelt_renderAt_obj (fun f hf => ih f hf (depth + 1)) rest

end FileDepot.Json
