/-
Reading of metadata: what a metadata text must say, and what it is read
as.

The reader takes the fields of the object one by one. On a field of a
tree that is one step, `lift`, and the fold of this step over all fields
falls into three parts that do not meet: the values under the key of the
host, those under the key of the path, and the fields of all other keys
(`foldlM_lift`). The first two parts go through only where they are at
most one text or null (`Lone`), the third always does, and so the
provenance that a text gives is a function of its fields (`ofFields`).
-/
import FileDepot.Proofs.Json.Objects
import FileDepot.Proofs.Json.Unambiguous
import FileDepot.Provenance

namespace FileDepot

-- ============================================= texts and nulls

namespace Json

/-- What a tree says where a text or null is wanted. -/
def Tree.text? : Tree → Option (Option String)
  | .null => some none
  | .str s => some (some s)
  | _ => none

/-- A text of a value is read as the text or null it says, and as
nothing else. -/
theorem Spelt.toOption_optionalText {t : Tree} {cs rest : List Char}
    (h : Spelt t cs rest) :
    (optionalText cs).toOption = t.text?.map (·, rest) := by
  -- a character by which no text and no null starts
  have hother : ∀ {c : Char} {tail : List Char}, isSpace c = false →
      c ≠ 'n' → c ≠ '"' → (optionalText (c :: tail)).toOption = none := by
    intro c tail hc hn hq
    unfold optionalText textValue
    rw [skipSpace_cons hc]
    dsimp only
    rw [if_neg hn, skipSpace_cons hc]
    dsimp only
    rw [if_neg hq]
    rfl
  have hhead := h.head
  cases h with
  | null => rfl
  | yes | no | arr | obj => exact hother rfl (by decide) (by decide)
  | str hs =>
      show (string _ >>= _).toOption = _
      rw [string_iff.mpr hs]
      rfl
  | number hs =>
      obtain ⟨c, tail, htext, hspace, -⟩ := hhead
      rw [htext]
      refine hother hspace ?_ ?_ <;> rintro rfl
      · exact hs.cons_ne rfl htext
      · exact hs.cons_ne rfl htext

/-- Blanks in front of a text or null make no difference. -/
theorem Blanks.optionalText_eq {cs a : List Char} (h : Blanks cs a) :
    optionalText cs = optionalText a := by
  unfold optionalText
  rw [h.skipSpace_eq]

/-- What is read as a text or null is one. -/
theorem spelt_of_optionalText {cs rest : List Char} {s : Option String}
    (h : optionalText cs = .ok (s, rest)) :
    ∃ a t, Blanks cs a ∧ Spelt t a rest ∧ t.text? = some s := by
  unfold optionalText at h
  split at h
  · next c tail hskip =>
    have hb := blanks_of_skipSpace hskip
    split at h
    · next hc =>
      obtain ⟨⟨u, a⟩, ha, hend⟩ := bind_ok h
      cases hend
      rw [(expect_iff ..).mp ha, hc] at hb
      exact ⟨_, .null, hb, .null, rfl⟩
    · obtain ⟨⟨s, a⟩, hs, hend⟩ := bind_ok h
      cases hend
      unfold textValue at hs
      split at hs
      · next d tail' hskip' =>
        have hb' := hb.trans (blanks_of_skipSpace hskip')
        split at hs
        · next hd =>
          rw [hd] at hb'
          exact ⟨_, .str s, hb', .str (string_iff.mp hs), rfl⟩
        · cases hs
      · cases hs
  · cases h

/-- A text that says something is not empty. -/
theorem Tree.IsSaidBy.ne_empty {t : Tree} {text : String}
    (h : t.IsSaidBy text) : text ≠ "" := by
  rintro rfl
  obtain ⟨a, b, ha, hspelt, -⟩ := h
  obtain ⟨c, tail, rfl, -⟩ := hspelt.head
  cases ha

end Json

namespace Provenance

open Json (Tree Spelt Valued Follows Delimited Blanks valuesAt)

-- ================================================= a known key

/-- What is known of a key once one more value of it was read. -/
def seeText (seen : Option (Option String)) (t : Tree) :
    Option (Option (Option String)) :=
  if seen.isSome then none else t.text?.map some

/-- At most one value, and that a text or null. -/
def Lone (ts : List Tree) : Prop :=
  ts = [] ∨ ts = [.null] ∨ ∃ s, ts = [.str s]

/-- The text among at most one value. -/
def loneText : List Tree → Option String
  | [.str s] => some s
  | _ => none

/-- The values of a known key go through where they are at most one
text or null. -/
theorem foldlM_seeText (ts : List Tree) (s : Option String) :
    (ts.foldlM seeText none).map (·.getD none) = some s
      ↔ Lone ts ∧ s = loneText ts := by
  unfold Lone
  rcases ts with _ | ⟨t, _ | ⟨u, ts⟩⟩
  · simp [loneText, eq_comm]
  · cases t <;> simp [seeText, loneText, Tree.text?, eq_comm]
  · cases t <;> simp [seeText, Tree.text?]

-- ================================================== the fields

/-- The fields whose keys are not known. -/
def others {α : Type} (fields : List (String × α)) : List (String × α) :=
  fields.filter fun f => f.1 ≠ hostKey ∧ f.1 ≠ pathKey

section

variable {α : Type} (v : α) (fields : List (String × α))

theorem others_cons_host :
    others ((hostKey, v) :: fields) = others fields := by
  unfold others
  rw [List.filter_cons_of_neg (by simp)]

theorem others_cons_path :
    others ((pathKey, v) :: fields) = others fields := by
  unfold others
  rw [List.filter_cons_of_neg (by simp)]

theorem others_cons_of_ne {k : String} (hhost : k ≠ hostKey)
    (hpath : k ≠ pathKey) :
    others ((k, v) :: fields) = (k, v) :: others fields := by
  unfold others
  rw [List.filter_cons_of_pos (by simp [hhost, hpath])]

end

/-- What one field of a tree adds to what has been read. -/
def lift (seen : Partial) (f : String × Tree) : Option Partial :=
  if f.1 = hostKey then
    (seeText seen.host f.2).map fun s => { seen with host := s }
  else if f.1 = pathKey then
    (seeText seen.path f.2).map fun s => { seen with path := s }
  else some { seen with extra := Json.putField seen.extra f }

/-- The fields of the two known keys and the others are read apart from
one another. -/
theorem foldlM_lift (fs : List (String × Tree)) (seen : Partial) :
    fs.foldlM lift seen
      = ((valuesAt hostKey fs).foldlM seeText seen.host).bind fun host =>
          ((valuesAt pathKey fs).foldlM seeText seen.path).bind fun path =>
            some ⟨host, path,
              (others fs).foldl Json.putField seen.extra⟩ := by
  induction fs generalizing seen with
  | nil => rfl
  | cons f fs ih =>
      obtain ⟨k, t⟩ := f
      rw [List.foldlM_cons]
      unfold lift
      dsimp only
      by_cases hhost : k = hostKey
      · subst hhost
        rw [if_pos rfl, Json.valuesAt_cons_self,
          Json.valuesAt_cons_of_ne (by decide), others_cons_host,
          List.foldlM_cons]
        cases seeText seen.host t with
        | none => rfl
        | some s => exact ih _
      by_cases hpath : k = pathKey
      · subst hpath
        rw [if_neg hhost, if_pos rfl, Json.valuesAt_cons_of_ne hhost,
          Json.valuesAt_cons_self, others_cons_path, List.foldlM_cons]
        cases seeText seen.path t with
        | none =>
            -- whatever the fields behind say of the host
            cases (valuesAt hostKey fs).foldlM seeText seen.host <;> rfl
        | some s => exact ih _
      · rw [if_neg hhost, if_neg hpath, Json.valuesAt_cons_of_ne hhost,
          Json.valuesAt_cons_of_ne hpath, others_cons_of_ne t fs hhost hpath]
        exact ih _

/-- The provenance that the fields of a metadata object give: the texts
of the known keys, and of every other key the last value. -/
def ofFields (fs : List (String × Tree)) : Provenance :=
  ⟨loneText (valuesAt hostKey fs), loneText (valuesAt pathKey fs),
    Json.ofPairs (Json.fieldValues (others fs))⟩

/-- What has been read, once all fields are. -/
def Partial.result (seen : Partial) : Provenance :=
  ⟨seen.host.getD none, seen.path.getD none, seen.extra⟩

/-- The fields of a metadata object go through where each known key has
at most one value, and that a text or null. -/
theorem foldlM_lift_result {fs : List (String × Tree)} {p : Provenance} :
    (fs.foldlM lift ⟨none, none, []⟩).map Partial.result = some p
      ↔ Lone (valuesAt hostKey fs) ∧ Lone (valuesAt pathKey fs)
        ∧ p = ofFields fs := by
  have hhost := foldlM_seeText (valuesAt hostKey fs)
  have hpath := foldlM_seeText (valuesAt pathKey fs)
  rw [foldlM_lift, Json.foldl_putField]
  unfold ofFields
  generalize (valuesAt hostKey fs).foldlM seeText none = host at hhost ⊢
  generalize (valuesAt pathKey fs).foldlM seeText none = path at hpath ⊢
  -- a key that is refused cannot be alone, as then it would go through
  rcases host with _ | host
  · have hrefused : ¬Lone (valuesAt hostKey fs) := fun h =>
      nomatch (hhost _).mpr ⟨h, rfl⟩
    exact ⟨nofun, fun h => absurd h.1 hrefused⟩
  rcases path with _ | path
  · have hrefused : ¬Lone (valuesAt pathKey fs) := fun h =>
      nomatch (hpath _).mpr ⟨h, rfl⟩
    exact ⟨nofun, fun h => absurd h.2.1 hrefused⟩
  obtain ⟨hlone, htext⟩ := (hhost _).mp rfl
  obtain ⟨hlone', htext'⟩ := (hpath _).mp rfl
  rw [← htext, ← htext']
  exact ⟨fun h => ⟨hlone, hlone', (Option.some.inj h).symm⟩,
    fun h => congrArg some h.2.2.symm⟩

-- ================================================== the object

/-- A written field is read as one step on trees, if its numbers are
whole and its nesting is allowed. -/
theorem follows_lift {d : Nat} {f : String × Tree} (hw : f.2.Whole)
    (hd : f.2.Within d) : Follows (readField d) lift f := by
  obtain ⟨k, t⟩ := f
  intro seen a b hv hdelimited
  unfold readField lift seeText
  dsimp only
  by_cases hhost : k = hostKey
  · rw [if_pos hhost, if_pos hhost]
    by_cases hseen : seen.host.isSome = true
    · rw [if_pos hseen, if_pos hseen]
      rfl
    · rw [if_neg hseen, if_neg hseen]
      refine (hv.toOption_colon t.text? Blanks.optionalText_eq
        Spelt.toOption_optionalText
        fun s => { seen with host := some s }).trans ?_
      cases t.text? <;> rfl
  rw [if_neg hhost, if_neg hhost]
  by_cases hpath : k = pathKey
  · rw [if_pos hpath, if_pos hpath]
    by_cases hseen : seen.path.isSome = true
    · rw [if_pos hseen, if_pos hseen]
      rfl
    · rw [if_neg hseen, if_neg hseen]
      refine (hv.toOption_colon t.text? Blanks.optionalText_eq
        Spelt.toOption_optionalText
        fun s => { seen with path := some s }).trans ?_
      cases t.text? <;> rfl
  rw [if_neg hpath, if_neg hpath]
  exact hv.toOption_colon (some t.value) (fun hb => hb.value_eq d)
    (fun hs => by rw [hs.value_eq hw hd hdelimited]; rfl)
    fun v => { seen with extra := Json.insertField k v seen.extra }

/-- The object of a metadata text is read by one step for each of its
fields. -/
theorem toOption_reader {d : Nat} {fs : List (String × Tree)}
    {cs a rest : List Char} (hb : Blanks cs a)
    (h : Spelt (.obj fs) a rest) (hw : (Tree.obj fs).Whole)
    (hd : (Tree.obj fs).Within d) :
    (reader d cs).toOption
      = ((fs.foldlM lift ⟨none, none, []⟩).map Partial.result).map
          (·, rest) := by
  cases h with
  | obj hfs =>
      cases hw with
      | obj hw =>
          cases hd with
          | @obj d _ hd =>
              unfold reader
              rw [hb.skipSpace_cons rfl]
              show (Json.fields _ _ _ >>= _).toOption = _
              rw [toOption_bind, hfs.toOption_fields
                fun f hf => follows_lift (hw f hf) (hd f hf)]
              cases fs.foldlM lift ⟨none, none, []⟩ <;> rfl

/-- What is read as a field is a colon and a value. -/
theorem valued_of_readField {d : Nat} {seen out : Partial} {k : String}
    {cs rest : List Char} (h : readField d seen k cs = .ok (out, rest)) :
    ∃ t, Valued t cs rest ∧ t.Within d := by
  -- a text or null nests nothing
  have htext : ∀ {a s b}, Json.optionalText a = .ok (s, b) →
      ∃ c t, Blanks a c ∧ Spelt t c b ∧ t.Within d := by
    intro a s b hs
    obtain ⟨c, t, hb, ht, htext⟩ := Json.spelt_of_optionalText hs
    refine ⟨c, t, hb, ht, ?_⟩
    cases t with
    | null => exact .null
    | str => exact .str
    | _ => cases htext
  unfold readField at h
  split at h
  · split at h
    · cases h
    · exact Json.valued_of_colon
        (g := fun s => { seen with host := some s }) htext h
  split at h
  · split at h
    · cases h
    · exact Json.valued_of_colon
        (g := fun s => { seen with path := some s }) htext h
  · exact Json.valued_of_colon
      (g := fun v => { seen with extra := Json.insertField k v seen.extra })
      Json.spelt_of_value h

/-- What is read as a metadata object is one. -/
theorem spelt_of_reader {d : Nat} {cs rest : List Char} {p : Provenance}
    (h : reader d cs = .ok (p, rest)) :
    ∃ a fs, Blanks cs a ∧ Spelt (.obj fs) a rest
      ∧ (Tree.obj fs).Within d := by
  unfold reader at h
  split at h
  · cases h
  next c tail hskip =>
  have hb := Json.blanks_of_skipSpace hskip
  split at h
  · next hbrace =>
    subst hbrace
    cases d with
    | zero => cases h
    | succ d =>
        obtain ⟨⟨seen, a⟩, hfields, hend⟩ := bind_ok h
        cases hend
        obtain ⟨fs, hfs, hd⟩ := Json.members_of_fieldsGo
          (P := Tree.Within d) valued_of_readField hfields
        exact ⟨_, fs, hb, .obj hfs, .obj hd⟩
  · cases h

-- ==================================================== the text

/-- A text of blanks holds nothing. -/
theorem decode_blank {text : String} (h : Text.trim text = "") :
    decode (some text) = .ok empty := by
  unfold decode
  rw [Option.map_some, h]
  rfl

/-- Any other text is read without the blanks around it. -/
theorem decode_text {text : String} (h : Text.trim text ≠ "") :
    decode (some text)
      = Json.readAll (reader Json.maxDepth) (Text.trim text) := by
  unfold decode
  rw [Option.map_some]
  dsimp only
  rw [if_neg (by simpa using h)]

/-- A text of an object gives what its fields give, if it gives
anything. -/
theorem decode_iff {text : String} {fs : List (String × Tree)}
    (h : (Tree.obj fs).IsSaidBy (Text.trim text))
    (hw : (Tree.obj fs).Whole) (hd : (Tree.obj fs).Within Json.maxDepth)
    {p : Provenance} :
    decode (some text) = .ok p
      ↔ Lone (valuesAt hostKey fs) ∧ Lone (valuesAt pathKey fs)
        ∧ p = ofFields fs := by
  rw [decode_text h.ne_empty]
  obtain ⟨a, b, ha, hspelt, hb⟩ := h
  have hread := toOption_reader ha hspelt hw hd
  rw [← foldlM_lift_result,
    ← toOption_eq_some]
  unfold Json.readAll
  rw [toOption_bind, hread]
  cases (fs.foldlM lift ⟨none, none, []⟩).map Partial.result with
  | none => exact Iff.rfl
  | some q =>
      show (Json.finished b >>= _).toOption = _ ↔ _
      rw [(Json.finished_iff b).mpr hb]
      exact Iff.rfl

/-- What can be read is blank or an object whose nesting is allowed. -/
theorem said_of_decode {text : String} {p : Provenance}
    (h : decode (some text) = .ok p) :
    Text.trim text = "" ∧ p = empty
      ∨ ∃ fs, (Tree.obj fs).IsSaidBy (Text.trim text)
        ∧ (Tree.obj fs).Within Json.maxDepth := by
  by_cases hblank : Text.trim text = ""
  · rw [decode_blank hblank] at h
    cases h
    exact .inl ⟨hblank, rfl⟩
  · rw [decode_text hblank] at h
    obtain ⟨⟨q, b⟩, hread, h'⟩ := bind_ok h
    obtain ⟨u, hfinished, hend⟩ := bind_ok h'
    obtain ⟨a, fs, ha, hspelt, hd⟩ := spelt_of_reader hread
    have hb := (Json.finished_iff b).mp hfinished
    exact .inr ⟨fs, ⟨a, b, ha, hspelt, hb⟩, hd⟩

end Provenance

end FileDepot
