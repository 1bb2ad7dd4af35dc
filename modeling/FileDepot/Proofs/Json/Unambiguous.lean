/-
The grammar is unambiguous: a text says one tree only.

Two derivations over the same text go on in step, because the first
character behind the blanks decides which rule there is. A number alone
has no end of its own, so the rules for values ask that nothing goes on
with a number where the value ends, and the rules around them always
give that (`Items.delimited`, `Members.delimited`).
-/
import FileDepot.Proofs.Json.Values

namespace FileDepot.Json

-- =========================================================== tokens

/-- The first character behind the blanks, and what follows it. -/
theorem Blanks.cons_inj {cs a b : List Char} {c d : Char}
    (h : Blanks cs (c :: a)) (h' : Blanks cs (d :: b))
    (hc : isSpace c = false) (hd : isSpace d = false) : c = d ∧ a = b := by
  have heq : c :: a = d :: b := by
    rw [← h.skipSpace_cons hc, ← h'.skipSpace_cons hd]
  exact List.cons.inj heq

/-- A string is spelt by its text only. -/
theorem Chars.unique {s s' : String} {cs a b : List Char}
    (h : Chars s.toList cs a) (h' : Chars s'.toList cs b) :
    s = s' ∧ a = b := by
  have heq := (string_iff.mpr h).symm.trans (string_iff.mpr h')
  simpa using heq

/-- A text that starts otherwise does not start with a number. -/
theorem Numeral.cons_ne {s cs rest : List Char} {c : Char}
    (h : Numeral s) (hc : Json.inNumber c = false) : s ++ rest ≠ c :: cs := by
  obtain ⟨d, tail, rfl, -⟩ := h.head
  intro heq
  have hd := h.inNumber d List.mem_cons_self
  rw [(List.cons.inj heq).1, hc] at hd
  cases hd

/-- Values behind the same blanks start in the same place. -/
theorem Spelt.start_eq {t u : Tree} {cs a b ra rb : List Char}
    (ha : Blanks cs a) (hb : Blanks cs b) (ht : Spelt t a ra)
    (hu : Spelt u b rb) : a = b := by
  obtain ⟨c, tail, rfl, hc, -⟩ := ht.head
  obtain ⟨d, tail', rfl, hd, -⟩ := hu.head
  obtain ⟨rfl, rfl⟩ := ha.cons_inj hb hc hd
  rfl

/-- No item of an array starts where the array is closed. -/
theorem Spelt.not_close {t : Tree} {cs a rest r : List Char} (ht : Spelt t a r)
    (ha : Blanks cs a) : ¬Blanks cs (']' :: rest) := by
  intro hb
  obtain ⟨c, tail, rfl, hc, hne⟩ := ht.head
  exact hne (ha.cons_inj hb hc rfl).1

-- =========================================================== values

mutual

/-- A text of a value is one of that value only. -/
theorem Spelt.unique {t u : Tree} {cs cs' a b : List Char} :
    Spelt t cs a → Spelt u cs' b → cs = cs' → Delimited a → Delimited b →
      t = u ∧ a = b
  -- the first character rules out all other forms; that of a number is
  -- not fixed and is told from the rest by `Numeral.cons_ne`
  | .null, hu, heq, _, _ => by
      cases hu with
      | null =>
          cases heq
          exact ⟨rfl, rfl⟩
      | number hs => exact absurd heq.symm (hs.cons_ne rfl)
      | _ => cases heq
  | .yes, hu, heq, _, _ => by
      cases hu with
      | yes =>
          cases heq
          exact ⟨rfl, rfl⟩
      | number hs => exact absurd heq.symm (hs.cons_ne rfl)
      | _ => cases heq
  | .no, hu, heq, _, _ => by
      cases hu with
      | no =>
          cases heq
          exact ⟨rfl, rfl⟩
      | number hs => exact absurd heq.symm (hs.cons_ne rfl)
      | _ => cases heq
  | .number hs, hu, heq, ha, hb => by
      cases hu with
      | number hs' =>
          obtain ⟨rfl, rfl⟩ := hs.append_inj hs' ha hb heq
          exact ⟨rfl, rfl⟩
      | _ => exact absurd heq (hs.cons_ne rfl)
  | .str hs, hu, heq, _, _ => by
      cases hu with
      | str hs' =>
          cases heq
          obtain ⟨rfl, rfl⟩ := hs.unique hs'
          exact ⟨rfl, rfl⟩
      | number hs' => exact absurd heq.symm (hs'.cons_ne rfl)
      | _ => cases heq
  | .arr hts, hu, heq, _, _ => by
      cases hu with
      | arr hus =>
          cases heq
          obtain ⟨rfl, rfl⟩ := hts.unique hus
          exact ⟨rfl, rfl⟩
      | number hs => exact absurd heq.symm (hs.cons_ne rfl)
      | _ => cases heq
  | .obj hfs, hu, heq, _, _ => by
      cases hu with
      | obj hgs =>
          cases heq
          obtain ⟨rfl, rfl⟩ := hfs.unique hgs
          exact ⟨rfl, rfl⟩
      | number hs => exact absurd heq.symm (hs.cons_ne rfl)
      | _ => cases heq
termination_by structural h => h

/-- A text of items is one of those items only. -/
theorem Items.unique {first : Bool} {ts us : List Tree}
    {cs a b : List Char} :
    Items first ts cs a → Items first us cs b → ts = us ∧ a = b
  | .close hb, hus => by
      cases hus with
      | close hb' => exact ⟨rfl, (hb.cons_inj hb' rfl rfl).2⟩
      | first ha hu _ => exact absurd hb (hu.not_close ha)
      | next hb' _ _ _ => exact absurd (hb.cons_inj hb' rfl rfl).1 (by decide)
  | .first ha ht hts, hus => by
      cases hus with
      | close hb => exact absurd hb (ht.not_close ha)
      | first ha' hu hus =>
          obtain ⟨rfl, rfl⟩ := ht.unique hu (Spelt.start_eq ha ha' ht hu)
            hts.delimited hus.delimited
          obtain ⟨rfl, rfl⟩ := hts.unique hus
          exact ⟨rfl, rfl⟩
  | .next hb ha ht hts, hus => by
      cases hus with
      | close hb' => exact absurd (hb.cons_inj hb' rfl rfl).1 (by decide)
      | next hb' ha' hu hus =>
          obtain ⟨-, rfl⟩ := hb.cons_inj hb' rfl rfl
          obtain ⟨rfl, rfl⟩ := ht.unique hu (Spelt.start_eq ha ha' ht hu)
            hts.delimited hus.delimited
          obtain ⟨rfl, rfl⟩ := hts.unique hus
          exact ⟨rfl, rfl⟩
termination_by structural h => h

/-- A text of fields is one of those fields only. -/
theorem Members.unique {first : Bool} {fs gs : List (String × Tree)}
    {cs a b : List Char} :
    Members first fs cs a → Members first gs cs b → fs = gs ∧ a = b
  | .close hb, hgs => by
      cases hgs with
      | close hb' => exact ⟨rfl, (hb.cons_inj hb' rfl rfl).2⟩
      | first hb' _ _ _ => exact absurd (hb.cons_inj hb' rfl rfl).1 (by decide)
      | next hb' _ _ _ _ => exact absurd (hb.cons_inj hb' rfl rfl).1 (by decide)
  | .first hb hk hv hfs, hgs => by
      cases hgs with
      | close hb' => exact absurd (hb.cons_inj hb' rfl rfl).1 (by decide)
      | first hb' hl hw hgs =>
          obtain ⟨-, rfl⟩ := hb.cons_inj hb' rfl rfl
          obtain ⟨rfl, rfl⟩ := hk.unique hl
          obtain ⟨rfl, rfl⟩ := hv.unique hw hfs.delimited hgs.delimited
          obtain ⟨rfl, rfl⟩ := hfs.unique hgs
          exact ⟨rfl, rfl⟩
  | .next hb hq hk hv hfs, hgs => by
      cases hgs with
      | close hb' => exact absurd (hb.cons_inj hb' rfl rfl).1 (by decide)
      | next hb' hq' hl hw hgs =>
          obtain ⟨-, rfl⟩ := hb.cons_inj hb' rfl rfl
          obtain ⟨-, rfl⟩ := hq.cons_inj hq' rfl rfl
          obtain ⟨rfl, rfl⟩ := hk.unique hl
          obtain ⟨rfl, rfl⟩ := hv.unique hw hfs.delimited hgs.delimited
          obtain ⟨rfl, rfl⟩ := hfs.unique hgs
          exact ⟨rfl, rfl⟩
termination_by structural h => h

/-- A text of a field's value is one of that value only. -/
theorem Valued.unique {t u : Tree} {cs a b : List Char} :
    Valued t cs a → Valued u cs b → Delimited a → Delimited b →
      t = u ∧ a = b
  | .colon hc hs ht, hu, ha, hb => by
      cases hu with
      | colon hc' hs' hu =>
          obtain ⟨-, rfl⟩ := hc.cons_inj hc' rfl rfl
          exact ht.unique hu (Spelt.start_eq hs hs' ht hu) ha hb
termination_by structural h => h

end

-- ====================================================== whole texts

/-- Nothing goes on with a number at the end of a text. -/
theorem Blanks.delimited {cs : List Char} (h : Blanks cs []) :
    Delimited cs := by
  cases h with
  | none => exact .nil
  | more hc _ => exact .of_isSpace hc _

/-- A text says one tree only. -/
theorem Tree.IsSaidBy.unique {t u : Tree} {text : String}
    (ht : t.IsSaidBy text) (hu : u.IsSaidBy text) : t = u := by
  obtain ⟨a, b, ha, hspelt, hb⟩ := ht
  obtain ⟨a', b', ha', hspelt', hb'⟩ := hu
  have hstart := Spelt.start_eq ha ha' hspelt hspelt'
  exact (hspelt.unique hspelt' hstart hb.delimited hb'.delimited).1

end FileDepot.Json
