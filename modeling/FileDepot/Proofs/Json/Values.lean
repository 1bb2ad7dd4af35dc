/-
Values: the reader reads a text of the grammar as the value of its tree,
and reads nothing else.

Arrays and objects are read by loops that take the reader of one item or
of one field, so what the loops do is stated for any such reader. For a
reader of fields that is one hypothesis, `Follows`: on a written field
it does what a step on trees does. The loop then is that step, folded
over the fields. A value and a metadata object are two instances.

Reading of values recurs on the nesting that is left, and both
directions are inductions on it. The value read is right only where all
numbers are whole and fit a 64-bit word; that what is read is written in
the grammar needs no such thing.
-/
import FileDepot.Proofs.Json.Numbers

namespace FileDepot.Json

-- ============================================ shape of written texts

/-- A number starts with a minus or a digit. -/
theorem Numeral.head {s : List Char} (h : Numeral s) :
    ∃ c tail, s = c :: tail ∧ (c = '-' ∨ c.isDigit = true) := by
  cases h with
  | negative _ => exact ⟨'-', _, rfl, .inl rfl⟩
  | plain h =>
      obtain ⟨⟨⟨hne, hdigit⟩, -⟩, -, -⟩ := h
      obtain ⟨c, ds, rfl⟩ := List.exists_cons_of_ne_nil hne
      exact ⟨c, _, rfl, .inr (hdigit c List.mem_cons_self)⟩

/-- A character by which a value starts: no blank, and nothing that
ends an array. -/
theorem Spelt.head {t : Tree} {cs rest : List Char} (h : Spelt t cs rest) :
    ∃ c tail, cs = c :: tail ∧ isSpace c = false ∧ c ≠ ']' := by
  cases h with
  | number hs =>
      obtain ⟨c, tail, rfl, rfl | hc⟩ := hs.head
      · exact ⟨'-', _, rfl, rfl, by decide⟩
      · exact ⟨c, _, rfl, isSpace_of_isDigit hc, ne_of_isDigit hc _ rfl⟩
  | _ => exact ⟨_, _, rfl, rfl, by decide⟩

/-- Nothing goes on with a number where blanks stand in front of
something else. -/
private theorem delimited_of_blanks {cs rest : List Char} {c : Char}
    (h : Blanks cs (c :: rest)) (hc : inNumber c = false) :
    Delimited cs := by
  obtain ⟨d, tail, rfl, hspace | rfl⟩ := h.head
  · exact .of_isSpace hspace tail
  · exact .cons hc tail

/-- No further item goes on with the number in front of it. -/
theorem Items.delimited {ts : List Tree} {cs rest : List Char}
    (h : Items false ts cs rest) : Delimited cs := by
  cases h with
  | close hb => exact delimited_of_blanks hb rfl
  | next hb _ _ _ => exact delimited_of_blanks hb rfl

/-- No further field goes on with the number in front of it. -/
theorem Members.delimited {fs : List (String × Tree)} {cs rest : List Char}
    (h : Members false fs cs rest) : Delimited cs := by
  cases h with
  | close hb => exact delimited_of_blanks hb rfl
  | next hb _ _ _ _ => exact delimited_of_blanks hb rfl

mutual

/-- A value takes up at least one character. -/
theorem Spelt.length_lt {t : Tree} {cs rest : List Char} :
    Spelt t cs rest → rest.length < cs.length
  | .null | .yes | .no => by
      simp only [List.length_cons]
      omega
  | .number hs => by
      obtain ⟨c, tail, rfl, -⟩ := hs.head
      simp only [List.length_append, List.length_cons]
      omega
  | .str hs => by
      have := hs.length_lt
      simp only [List.length_cons]
      omega
  | .arr hs => by
      have := hs.length_lt
      simp only [List.length_cons]
      omega
  | .obj hs => by
      have := hs.length_lt
      simp only [List.length_cons]
      omega

/-- Items take up at least their own count and the closing bracket. -/
theorem Items.length_lt {first : Bool} {ts : List Tree}
    {cs rest : List Char} :
    Items first ts cs rest → rest.length + ts.length < cs.length
  | .close hb => by
      have := hb.length_le
      simp only [List.length_cons, List.length_nil] at *
      omega
  | .first hb ht hts => by
      have := hb.length_le
      have := ht.length_lt
      have := hts.length_lt
      simp only [List.length_cons]
      omega
  | .next hb hb' ht hts => by
      have := hb.length_le
      have := hb'.length_le
      have := ht.length_lt
      have := hts.length_lt
      simp only [List.length_cons] at *
      omega

/-- Fields take up at least their own count and the closing brace. -/
theorem Members.length_lt {first : Bool} {fs : List (String × Tree)}
    {cs rest : List Char} :
    Members first fs cs rest → rest.length + fs.length < cs.length
  | .close hb => by
      have := hb.length_le
      simp only [List.length_cons, List.length_nil] at *
      omega
  | .first hb hk ht hfs => by
      have := hb.length_le
      have := hk.length_lt
      have := ht.length_lt
      have := hfs.length_lt
      simp only [List.length_cons] at *
      omega
  | .next hb hb' hk ht hfs => by
      have := hb.length_le
      have := hb'.length_le
      have := hk.length_lt
      have := ht.length_lt
      have := hfs.length_lt
      simp only [List.length_cons] at *
      omega

/-- A colon and a value take up at least one character. -/
theorem Valued.length_lt {t : Tree} {cs rest : List Char} :
    Valued t cs rest → rest.length < cs.length
  | .colon hb hb' ht => by
      have := hb.length_le
      have := hb'.length_le
      have := ht.length_lt
      simp only [List.length_cons] at *
      omega

end

-- ============================================== the loops, complete

/-- The items of an array are read one by one. -/
theorem Items.itemsGo_eq {item : Reader Json} {first : Bool}
    {ts : List Tree} {cs rest : List Char} (h : Items first ts cs rest)
    (hitem : ∀ t ∈ ts, ∀ a b, Spelt t a b → Delimited b →
      item a = .ok (t.value, b))
    {steps : Nat} (hs : ts.length < steps) :
    itemsGo item steps first cs = .ok (ts.map Tree.value, rest) := by
  induction ts generalizing first cs steps with
  | nil =>
      obtain ⟨n, rfl⟩ := Nat.exists_eq_add_one.mpr hs
      cases h with
      | close hb =>
          rw [itemsGo, hb.skipSpace_cons rfl]
          rfl
  | cons t ts ih =>
      rw [List.length_cons] at hs
      obtain ⟨n, rfl⟩ := Nat.exists_eq_add_one.mpr (by omega : 0 < steps)
      have hrest : ∀ a, Items false ts a rest →
          itemsGo item n false a = .ok (ts.map Tree.value, rest) :=
        fun a ha => ih ha (fun u hu => hitem u (List.mem_cons_of_mem t hu))
          (by omega)
      have hhead := hitem t List.mem_cons_self
      cases h with
      | first hb ht hts =>
          obtain ⟨c, tail, rfl, hc, hne⟩ := ht.head
          rw [itemsGo, hb.skipSpace_cons hc]
          dsimp only
          rw [if_neg hne, if_pos rfl, hhead _ _ ht hts.delimited]
          show (itemsGo item n false _ >>= _) = _
          rw [hrest _ hts]
          rfl
      | next hb hb' ht hts =>
          obtain ⟨c, tail, rfl, hc, hne⟩ := ht.head
          rw [itemsGo, hb.skipSpace_cons rfl]
          dsimp only
          rw [if_neg (by decide), if_neg (by simp), if_pos rfl,
            hb'.skipSpace_cons hc]
          dsimp only
          rw [if_neg hne, hhead _ _ ht hts.delimited]
          show (itemsGo item n false _ >>= _) = _
          rw [hrest _ hts]
          rfl

section Fields

variable {σ : Type} {field : σ → String → Reader σ}
  {step : σ → String × Tree → Option σ}

/-- On a written field a reader of fields does what a step on trees
does; which fault it finds where the step fails is left open. -/
def Follows (field : σ → String → Reader σ)
    (step : σ → String × Tree → Option σ) (f : String × Tree) : Prop :=
  ∀ state a b, Valued f.2 a b → Delimited b →
    (field state f.1 a).toOption = (step state f).map (·, b)

/-- The loop over the fields of an object folds the step. -/
theorem Members.toOption_fieldsGo {first : Bool}
    {fs : List (String × Tree)} {cs rest : List Char}
    (h : Members first fs cs rest) (hfield : ∀ f ∈ fs, Follows field step f)
    {steps : Nat} (hs : fs.length < steps) (state : σ) :
    (fieldsGo field steps first state cs).toOption
      = (fs.foldlM step state).map (·, rest) := by
  induction fs generalizing first cs steps state with
  | nil =>
      obtain ⟨n, rfl⟩ := Nat.exists_eq_add_one.mpr hs
      cases h with
      | close hb =>
          rw [fieldsGo, hb.skipSpace_cons rfl]
          rfl
  | cons f fs ih =>
      rw [List.length_cons] at hs
      obtain ⟨n, rfl⟩ := Nat.exists_eq_add_one.mpr (by omega : 0 < steps)
      -- one field behind its key, and the loop over the others
      have hone : ∀ a b, Valued f.2 a b → Members false fs b rest →
          (field state f.1 a
            >>= fun p => fieldsGo field n false p.1 p.2).toOption
            = ((f :: fs).foldlM step state).map (·, rest) := by
        intro a b hv hfs
        rw [toOption_bind,
          hfield f List.mem_cons_self state a b hv hfs.delimited,
          List.foldlM_cons]
        cases step state f with
        | none => rfl
        | some state' =>
            exact ih hfs (fun g hg => hfield g (List.mem_cons_of_mem f hg))
              (by omega) state'
      cases h with
      | first hb hk hv hfs =>
          rw [fieldsGo, hb.skipSpace_cons rfl]
          dsimp only
          rw [if_neg (by decide), if_pos rfl, if_pos rfl, string_iff.mpr hk]
          exact hone _ _ hv hfs
      | next hb hb' hk hv hfs =>
          rw [fieldsGo, hb.skipSpace_cons rfl]
          dsimp only
          rw [if_neg (by decide), if_neg (by simp), if_pos rfl,
            hb'.skipSpace_cons rfl]
          dsimp only
          rw [if_pos rfl, string_iff.mpr hk]
          exact hone _ _ hv hfs

/-- The fields of an object are the step, folded over them. -/
theorem Members.toOption_fields {fs : List (String × Tree)}
    {cs rest : List Char} (h : Members true fs cs rest)
    (hfield : ∀ f ∈ fs, Follows field step f) (state : σ) :
    (fields field state cs).toOption
      = (fs.foldlM step state).map (·, rest) := by
  have hlen := h.length_lt
  exact h.toOption_fieldsGo hfield (by omega) state

end Fields

-- ============================================= the values, complete

/-- A colon behind blanks is read. -/
theorem Blanks.colon_eq {cs a : List Char} (h : Blanks cs (':' :: a)) :
    colon cs = .ok ((), a) := by
  unfold colon
  rw [h.skipSpace_cons rfl]
  rfl

/-- Blanks in front of a value make no difference. -/
theorem Blanks.value_eq {cs a : List Char} (h : Blanks cs a) (d : Nat) :
    value d cs = value d a := by
  unfold value
  rw [h.skipSpace_eq]

/-- A field's value is read behind its colon as what its text is read
as. -/
theorem Valued.toOption_colon {α β : Type} {item : Reader α}
    {t : Tree} {cs rest : List Char} (h : Valued t cs rest)
    (v? : Option α) (hblanks : ∀ {a b}, Blanks a b → item a = item b)
    (hitem : ∀ {a}, Spelt t a rest → (item a).toOption = v?.map (·, rest))
    (g : α → β) :
    (do
      let (_, cs) ← Json.colon cs
      let (v, rest) ← item cs
      .ok (g v, rest) : Except Fault (β × List Char)).toOption
      = (v?.map g).map (·, rest) := by
  cases h with
  | colon hcolon hb hs =>
      rw [hcolon.colon_eq]
      show (item _ >>= _).toOption = _
      rw [hblanks hb, toOption_bind, hitem hs]
      cases v? <;> rfl

/-- The reader of one field of an object that is kept as a value. -/
def keepField (d : Nat) (kept : List (String × Json)) (key : String) :
    Reader (List (String × Json)) := fun cs => do
  let (_, cs) ← colon cs
  let (v, rest) ← value d cs
  .ok (insertField key v kept, rest)

/-- One field of a tree put among the fields of an object. -/
def putField (kept : List (String × Json)) (f : String × Tree) :
    List (String × Json) :=
  insertField f.1 f.2.value kept

/-- Fields put one by one are the object of all of them. -/
theorem foldl_putField (fs : List (String × Tree)) :
    fs.foldl putField [] = ofPairs (fieldValues fs) := by
  unfold ofPairs
  rw [fieldValues_eq_map, List.foldl_map]
  rfl

theorem foldlM_putField (fs : List (String × Tree)) :
    fs.foldlM (fun kept f => some (putField kept f)) []
      = some (ofPairs (fieldValues fs)) := by
  rw [← foldl_putField]
  exact List.foldlM_pure

/-- A field is kept with its value, if its value is read. -/
theorem follows_keepField {d : Nat} {f : String × Tree}
    (hvalue : ∀ a b, Spelt f.2 a b → Delimited b →
      value d a = .ok (f.2.value, b)) :
    Follows (keepField d) (fun kept f => some (putField kept f)) f := by
  intro kept a b hv hdelimited
  exact hv.toOption_colon (some f.2.value) (fun hb => hb.value_eq d)
    (fun hs => by rw [hvalue _ _ hs hdelimited]; rfl)
    fun v => insertField f.1 v kept

/-- A text of the grammar whose numbers are whole and fit a 64-bit word
is read as the value of its tree. -/
theorem Spelt.value_eq {d : Nat} {t : Tree} {cs rest : List Char}
    (h : Spelt t cs rest) (hw : t.Whole) (hd : t.Within d)
    (hr : Delimited rest) : value d cs = .ok (t.value, rest) := by
  -- on the nesting that is left: an item is read with one level less
  induction d using Nat.strongRecOn generalizing t cs rest with
  | ind d ih =>
      cases h with
      | null => rw [value]; rfl
      | yes => rw [value]; rfl
      | no => rw [value]; rfl
      | number _ =>
          cases hw with
          | number hn =>
              rw [value_renderInt hn hr, Tree.value, wholeValue_renderInt]
      | str hs =>
          rw [value]
          show (string _ >>= _) = _
          rw [string_iff.mpr hs]
          rfl
      | arr hts =>
          rw [value.eq_def]
          cases hd with
          | @arr d _ hd =>
              cases hw with
              | arr hw =>
                  have hlen := hts.length_lt
                  show (itemsGo (value d) _ Bool.true _ >>= _) = _
                  rw [hts.itemsGo_eq (fun t ht a b hs hb =>
                    ih d (Nat.lt_succ_self d) hs (hw t ht) (hd t ht) hb)
                    (by omega)]
                  show _ = Except.ok (Json.arr (itemValues _), rest)
                  rw [itemValues_eq_map]
                  rfl
      | obj hfs =>
          rw [value.eq_def]
          cases hd with
          | @obj d _ hd =>
              cases hw with
              | obj hw =>
                  have hfold := hfs.toOption_fields
                    (fun f hf => follows_keepField fun a b hs hb =>
                      ih d (Nat.lt_succ_self d) hs (hw f hf) (hd f hf) hb)
                    []
                  rw [foldlM_putField] at hfold
                  show (fields (keepField d) [] _ >>= _) = _
                  rw [toOption_eq_some.mp hfold]
                  rfl

-- ================================================ reading is sound

theorem Blanks.trans {a b c : List Char} (h : Blanks a b)
    (h' : Blanks b c) : Blanks a c := by
  induction h with
  | none => exact h'
  | more hc _ ih => exact .more hc (ih h')

/-- What one item and the loop behind it read is a value and the items
behind it. -/
theorem items_of_item {α : Type} {item : Reader α} {P : Tree → Prop}
    (hitem : ∀ {a v b}, item a = .ok (v, b) →
      ∃ c t, Blanks a c ∧ Spelt t c b ∧ P t)
    {steps : Nat} {rest : List Char}
    (hloop : ∀ {cs vs}, itemsGo item steps false cs = .ok (vs, rest) →
      ∃ ts, Items false ts cs rest ∧ ∀ t ∈ ts, P t)
    {cs : List Char} {vs : List α}
    (h : (do
      let (v, rest) ← item cs
      let (vs, rest) ← itemsGo item steps false rest
      .ok (v :: vs, rest) : Except Fault (List α × List Char))
      = .ok (vs, rest)) :
    ∃ a b t ts, Blanks cs a ∧ Spelt t a b ∧ Items false ts b rest
      ∧ ∀ t' ∈ t :: ts, P t' := by
  obtain ⟨⟨v, b⟩, hv, h'⟩ := bind_ok h
  obtain ⟨a, t, ha, ht, hp⟩ := hitem hv
  obtain ⟨⟨vs', b'⟩, hvs, hend⟩ := bind_ok h'
  cases hend
  obtain ⟨ts, hts, hps⟩ := hloop hvs
  exact ⟨a, b, t, ts, ha, ht, hts, List.forall_mem_cons.mpr ⟨hp, hps⟩⟩

/-- What the loop reads is the items of an array, if what the reader of
one item reads is a value. -/
theorem items_of_itemsGo {α : Type} {item : Reader α} {P : Tree → Prop}
    (hitem : ∀ {a v b}, item a = .ok (v, b) →
      ∃ c t, Blanks a c ∧ Spelt t c b ∧ P t)
    {steps : Nat} {first : Bool} {cs rest : List Char} {vs : List α}
    (h : itemsGo item steps first cs = .ok (vs, rest)) :
    ∃ ts, Items first ts cs rest ∧ ∀ t ∈ ts, P t := by
  induction steps generalizing first cs vs with
  | zero => cases h
  | succ steps ih =>
      rw [itemsGo] at h
      dsimp only at h
      split at h
      · cases h
      next c tail hskip =>
      have hb := blanks_of_skipSpace hskip
      by_cases hclose : c = ']'
      · rw [if_pos hclose] at h
        cases h
        rw [hclose] at hb
        exact ⟨[], .close hb, nofun⟩
      rw [if_neg hclose] at h
      cases first with
      | true =>
          rw [if_pos rfl] at h
          obtain ⟨a, b, t, ts, ha, ht, hts, hps⟩ := items_of_item hitem ih h
          exact ⟨t :: ts, .first (hb.trans ha) ht hts, hps⟩
      | false =>
          rw [if_neg (by simp)] at h
          by_cases hcomma : c = ','
          · rw [if_pos hcomma] at h
            rw [hcomma] at hb
            split at h
            · cases h
            next d tail' hskip' =>
            have hb' := blanks_of_skipSpace hskip'
            split at h
            · cases h
            obtain ⟨a, b, t, ts, ha, ht, hts, hps⟩ :=
              items_of_item hitem ih h
            exact ⟨t :: ts, .next hb (hb'.trans ha) ht hts, hps⟩
          · rw [if_neg hcomma] at h
            cases h

/-- What one field and the loop behind it read is a key, its value and
the fields behind it. -/
theorem members_of_field {σ : Type} {field : σ → String → Reader σ}
    {P : Tree → Prop}
    (hfield : ∀ {s k a s' b}, field s k a = .ok (s', b) →
      ∃ t, Valued t a b ∧ P t)
    {steps : Nat} {out : σ} {rest : List Char}
    (hloop : ∀ {state cs},
      fieldsGo field steps false state cs = .ok (out, rest) →
      ∃ fs, Members false fs cs rest ∧ ∀ f ∈ fs, P f.2)
    {state : σ} {cs : List Char}
    (h : (do
      let (key, rest) ← string cs
      let (state, rest) ← field state key rest
      fieldsGo field steps false state rest) = .ok (out, rest)) :
    ∃ k a b t fs, Chars (String.toList k) cs a ∧ Valued t a b
      ∧ Members false fs b rest ∧ ∀ f ∈ (k, t) :: fs, P f.2 := by
  obtain ⟨⟨k, a⟩, hk, h'⟩ := bind_ok h
  obtain ⟨⟨s, b⟩, hs, hrest⟩ := bind_ok h'
  obtain ⟨t, ht, hp⟩ := hfield hs
  obtain ⟨fs, hfs, hps⟩ := hloop hrest
  exact ⟨k, a, b, t, fs, string_iff.mp hk, ht, hfs,
    List.forall_mem_cons.mpr ⟨hp, hps⟩⟩

/-- What the loop reads is the fields of an object, if what the reader
of one field reads is a colon and a value. -/
theorem members_of_fieldsGo {σ : Type} {field : σ → String → Reader σ}
    {P : Tree → Prop}
    (hfield : ∀ {s k a s' b}, field s k a = .ok (s', b) →
      ∃ t, Valued t a b ∧ P t)
    {steps : Nat} {first : Bool} {state out : σ} {cs rest : List Char}
    (h : fieldsGo field steps first state cs = .ok (out, rest)) :
    ∃ fs, Members first fs cs rest ∧ ∀ f ∈ fs, P f.2 := by
  induction steps generalizing first cs state with
  | zero => cases h
  | succ steps ih =>
      rw [fieldsGo] at h
      dsimp only at h
      split at h
      · cases h
      next c tail hskip =>
      have hb := blanks_of_skipSpace hskip
      by_cases hclose : c = '\x7d'
      · rw [if_pos hclose] at h
        cases h
        rw [hclose] at hb
        exact ⟨[], .close hb, nofun⟩
      rw [if_neg hclose] at h
      cases first with
      | true =>
          rw [if_pos rfl] at h
          by_cases hquote : c = '"'
          · rw [if_pos hquote] at h
            rw [hquote] at hb
            obtain ⟨k, a, b, t, fs, hk, ht, hfs, hps⟩ :=
              members_of_field hfield ih h
            exact ⟨(k, t) :: fs, .first hb hk ht hfs, hps⟩
          · rw [if_neg hquote] at h
            cases h
      | false =>
          rw [if_neg (by simp)] at h
          by_cases hcomma : c = ','
          · rw [if_pos hcomma] at h
            rw [hcomma] at hb
            split at h
            · cases h
            next d tail' hskip' =>
            have hb' := blanks_of_skipSpace hskip'
            by_cases hquote : d = '"'
            · rw [if_pos hquote] at h
              rw [hquote] at hb'
              obtain ⟨k, a, b, t, fs, hk, ht, hfs, hps⟩ :=
                members_of_field hfield ih h
              exact ⟨(k, t) :: fs, .next hb hb' hk ht hfs, hps⟩
            · rw [if_neg hquote] at h
              cases h
          · rw [if_neg hcomma] at h
            cases h

/-- A colon that is read stands behind blanks. -/
theorem blanks_of_colon {cs a : List Char} {u : Unit}
    (h : colon cs = .ok (u, a)) : Blanks cs (':' :: a) := by
  unfold colon at h
  split at h
  · cases h
  next c tail hskip =>
  split at h
  · next hc =>
    cases h
    rw [← hc]
    exact blanks_of_skipSpace hskip
  · cases h

/-- What a colon and one item behind it read is a field's value. -/
theorem valued_of_colon {α β : Type} {item : Reader α} {P : Tree → Prop}
    (hitem : ∀ {a v b}, item a = .ok (v, b) →
      ∃ c t, Blanks a c ∧ Spelt t c b ∧ P t)
    {g : α → β} {out : β} {cs rest : List Char}
    (h : (do
      let (_, cs) ← colon cs
      let (v, rest) ← item cs
      .ok (g v, rest) : Except Fault (β × List Char)) = .ok (out, rest)) :
    ∃ t, Valued t cs rest ∧ P t := by
  obtain ⟨⟨u, a⟩, hcolon, h'⟩ := bind_ok h
  obtain ⟨⟨v, b⟩, hv, hend⟩ := bind_ok h'
  cases hend
  obtain ⟨c, t, hb, ht, hp⟩ := hitem hv
  exact ⟨t, .colon (blanks_of_colon hcolon) hb ht, hp⟩

/-- A word that is read stands there. -/
private theorem rest_of_word {w cs rest : List Char} {v out : Json}
    (h : (do
      let (_, rest) ← expect w cs
      .ok (v, rest) : Except Fault (Json × List Char)) = .ok (out, rest)) :
    cs = w ++ rest := by
  obtain ⟨⟨u, a⟩, ha, hend⟩ := bind_ok h
  cases hend
  exact (expect_iff ..).mp ha

/-- What is read as a value is one of the grammar, and nests no deeper
than was allowed. -/
theorem spelt_of_value {d : Nat} {cs rest : List Char} {v : Json}
    (h : value d cs = .ok (v, rest)) :
    ∃ a t, Blanks cs a ∧ Spelt t a rest ∧ t.Within d := by
  induction d using Nat.strongRecOn generalizing cs rest v with
  | ind d ih =>
      -- the first character behind the blanks decides on the rule
      rw [value.eq_def] at h
      dsimp only at h
      split at h
      · cases h
      next c tail hskip =>
      have hb := blanks_of_skipSpace hskip
      by_cases hnull : c = 'n'
      · subst hnull
        rw [if_pos rfl] at h
        rw [rest_of_word h] at hb
        exact ⟨_, .null, hb, .null, .null⟩
      rw [if_neg hnull] at h
      by_cases htrue : c = 't'
      · subst htrue
        rw [if_pos rfl] at h
        rw [rest_of_word h] at hb
        exact ⟨_, .bool true, hb, .yes, .bool⟩
      rw [if_neg htrue] at h
      by_cases hfalse : c = 'f'
      · subst hfalse
        rw [if_pos rfl] at h
        rw [rest_of_word h] at hb
        exact ⟨_, .bool false, hb, .no, .bool⟩
      rw [if_neg hfalse] at h
      by_cases hminus : c = '-'
      · subst hminus
        obtain ⟨s, hs, rfl⟩ := number_ok h
        exact ⟨_, .number ('-' :: s), hb, .number (.negative hs), .number⟩
      rw [if_neg hminus] at h
      by_cases hdigit : c.isDigit = true
      · rw [if_pos hdigit] at h
        obtain ⟨s, hs, heq⟩ := number_ok h
        rw [heq] at hb
        exact ⟨_, .number s, hb, .number (.plain hs), .number⟩
      rw [if_neg hdigit] at h
      by_cases hquote : c = '"'
      · subst hquote
        obtain ⟨⟨s, a⟩, hs, hend⟩ := bind_ok h
        cases hend
        exact ⟨_, .str s, hb, .str (string_iff.mp hs), .str⟩
      rw [if_neg hquote] at h
      by_cases hbracket : c = '['
      · subst hbracket
        rw [if_pos rfl] at h
        cases d with
        | zero => cases h
        | succ d =>
            obtain ⟨⟨vs, a⟩, hvs, hend⟩ := bind_ok h
            cases hend
            obtain ⟨ts, hts, hd⟩ := items_of_itemsGo (P := Tree.Within d)
              (fun hv => ih d (Nat.lt_succ_self d) hv) hvs
            exact ⟨_, .arr ts, hb, .arr hts, .arr hd⟩
      rw [if_neg hbracket] at h
      by_cases hbrace : c = '\x7b'
      · subst hbrace
        rw [if_pos rfl] at h
        cases d with
        | zero => cases h
        | succ d =>
            obtain ⟨⟨fs, a⟩, hfs, hend⟩ := bind_ok h
            cases hend
            have hfield : ∀ {kept k a out b},
                keepField d kept k a = .ok (out, b) →
                ∃ t, Valued t a b ∧ t.Within d := by
              intro kept k a out b hf
              exact valued_of_colon (g := fun v => insertField k v kept)
                (fun hv => ih d (Nat.lt_succ_self d) hv) hf
            obtain ⟨fs, hfs, hd⟩ := members_of_fieldsGo hfield hfs
            exact ⟨_, .obj fs, hb, .obj hfs, .obj hd⟩
      · rw [if_neg hbrace] at h
        cases h

end FileDepot.Json
