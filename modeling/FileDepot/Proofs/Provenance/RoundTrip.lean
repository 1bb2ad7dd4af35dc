/-
Writing and reading of metadata: which provenances are read back from
the text they are written as.

The text of a provenance says its fields as they are written, the known
keys first and then all further ones, so reading it back is a matter of
what stands under each known key (`valuesAt_host`, `valuesAt_path`). A
further field that is spelt like a known one is the only thing that can
go wrong. What a store records has no further fields and always comes
back.
-/
import FileDepot.Proofs.Json.Printing
import FileDepot.Proofs.Provenance.Reading

namespace FileDepot

/-- A text with no blank at either end is its own trimming. -/
theorem Text.trim_of_ends {first last : Char} {mid : List Char}
    (hf : isBlank first = false) (hl : isBlank last = false) :
    trim (String.ofList (first :: mid ++ [last]))
      = String.ofList (first :: mid ++ [last]) := by
  have hstart : trimStart (first :: mid ++ [last])
      = first :: mid ++ [last] := by
    unfold trimStart
    rw [List.cons_append, List.dropWhile_cons, hf, if_neg (by simp)]
  have hend : trimEnd (first :: mid ++ [last]) = first :: mid ++ [last] := by
    unfold trimEnd
    rw [List.reverse_append, List.reverse_singleton, List.singleton_append,
      List.dropWhile_cons, hl, if_neg (by simp), List.reverse_cons,
      List.reverse_reverse]
  unfold trim
  rw [String.toList_ofList, hstart, hend]

namespace Provenance

open Json (Tree valuesAt fieldTrees Ascending)

variable {p : Provenance}

/-- A provenance whose further fields are in order and hold plain
values. -/
structure Plain (p : Provenance) : Prop where
  ascending : Ascending p.extra
  values : ∀ f ∈ p.extra, f.2.Plain

-- ============================================== the written text

/-- A written text has no blanks around it. -/
theorem trim_encode (p : Provenance) : Text.trim p.encode = p.encode := by
  obtain ⟨mid, hmid⟩ := Json.render_obj_ends p.fields
  unfold encode Json.compact json
  rw [hmid]
  exact Text.trim_of_ends (by decide) (by decide)

/-- What holds of all texts and of the further fields holds of every
field. -/
theorem forall_mem_fields {P : Json → Prop} (hstr : ∀ s, P (.str s))
    (h : ∀ f ∈ p.extra, P f.2) : ∀ f ∈ p.fields, P f.2 := by
  have hfield : ∀ key value, ∀ f ∈ field key value, P f.2 := by
    intro key value f hf
    cases value with
    | none => cases hf
    | some s =>
        rw [List.mem_singleton.mp hf]
        exact hstr s
  unfold fields
  simp only [List.forall_mem_append]
  exact ⟨⟨hfield _ _, hfield _ _⟩, h⟩

theorem Plain.fields (hp : p.Plain) : ∀ f ∈ p.fields, f.2.Plain :=
  forall_mem_fields (fun _ => .str) hp.values

/-- A text nests one level deeper than the further fields. -/
theorem within_json {d : Nat} (h : ∀ f ∈ p.extra, f.2.Within d) :
    p.json.Within (d + 1) :=
  .obj (forall_mem_fields (fun _ => .str) h)

/-- The text of a plain provenance says its fields. -/
theorem Plain.said (hp : p.Plain) :
    (Tree.obj (fieldTrees p.fields)).IsSaidBy p.encode := by
  refine ⟨Json.render p.json, [], ?_, ?_, .none⟩
  · unfold encode Json.compact
    rw [String.toList_ofList]
    exact .none
  · have h := Json.spelt_render_obj
      (fun f hf => (hp.fields f hf).spelt_render) []
    rwa [List.append_nil] at h

/-- The numbers in the text of a plain provenance are whole. -/
theorem Plain.whole (hp : p.Plain) :
    (Tree.obj (fieldTrees p.fields)).Whole := by
  rw [Json.fieldTrees_eq_map]
  refine .obj fun f hf => ?_
  obtain ⟨g, hg, rfl⟩ := List.mem_map.mp hf
  exact (hp.fields g hg).tree_whole

-- ============================================= the fields it says

theorem valuesAt_field_self (key : String) (value : Option String) :
    valuesAt key (field key value) = value.toList.map .str := by
  cases value with
  | none => rfl
  | some s => exact Json.valuesAt_cons_self key _ []

theorem valuesAt_field_of_ne {key k : String} (h : k ≠ key)
    (value : Option String) : valuesAt key (field k value) = [] := by
  cases value with
  | none => rfl
  | some s => exact Json.valuesAt_cons_of_ne h _ []

/-- Under the key of the host stand the host and any further field of
that key. -/
theorem valuesAt_host (p : Provenance) :
    valuesAt hostKey p.fields
      = p.host.toList.map .str ++ valuesAt hostKey p.extra := by
  unfold fields
  rw [Json.valuesAt_append, Json.valuesAt_append, valuesAt_field_self,
    valuesAt_field_of_ne (by decide), List.append_nil]

/-- Under the key of the path stand the path and any further field of
that key. -/
theorem valuesAt_path (p : Provenance) :
    valuesAt pathKey p.fields
      = p.path.toList.map .str ++ valuesAt pathKey p.extra := by
  unfold fields
  rw [Json.valuesAt_append, Json.valuesAt_append, valuesAt_field_self,
    valuesAt_field_of_ne (by decide), List.nil_append]

/-- The other fields of the text are the further ones with other
keys. -/
theorem others_fieldTrees (p : Provenance) :
    others (fieldTrees p.fields) = fieldTrees (others p.extra) := by
  have hfield : ∀ {key : String} {value : Option String},
      key = hostKey ∨ key = pathKey → others (field key value) = [] := by
    rintro key (_ | s) (rfl | rfl) <;> rfl
  have hmap : ∀ fs, others (fieldTrees fs) = fieldTrees (others fs) := by
    intro fs
    unfold others
    rw [Json.fieldTrees_eq_map, Json.fieldTrees_eq_map, List.filter_map]
    rfl
  rw [hmap]
  congr 1
  unfold fields
  rw [others, List.filter_append, List.filter_append]
  show others _ ++ others _ ++ others _ = _
  rw [hfield (.inl rfl), hfield (.inr rfl)]
  rfl

/-- Of the further fields of a plain provenance those with other keys
are read as they are. -/
theorem Plain.ofPairs_others (hp : p.Plain) :
    Json.ofPairs (Json.fieldValues (fieldTrees (others p.extra)))
      = others p.extra := by
  have hsub : (others p.extra).Sublist p.extra := List.filter_sublist
  have hasc : Ascending (others p.extra) := hp.ascending.sublist hsub
  rw [Json.fieldValues_fieldTrees fun f hf =>
    (hp.values f (hsub.subset hf)).tree_value, hasc.ofPairs_eq]

-- ================================================ what is read back

/-- What is read back under a known key, from the typed value and those
of the further fields of that key. Behind a typed value such a field is
a second one and is refused; alone, its text moves to the typed value, a
null leaves nothing, and nothing else is allowed. -/
def rereadKey : Option String → List Json → Option (Option String)
  | typed, [] => some typed
  | none, [.null] => some none
  | none, [.str s] => some (some s)
  | _, _ => none

/-- What is read back from the text of a provenance, if anything. -/
def reread (p : Provenance) : Option Provenance := do
  let host ← rereadKey p.host (valuesAt hostKey p.extra)
  let path ← rereadKey p.path (valuesAt pathKey p.extra)
  some ⟨host, path, others p.extra⟩

/-- What is read back under a known key is the text or null that stands
there alone. -/
theorem rereadKey_eq_some {typed s : Option String} {vs : List Json} :
    rereadKey typed vs = some s
      ↔ Lone ((typed.toList.map Json.str ++ vs).map Json.tree)
        ∧ s = loneText ((typed.toList.map Json.str ++ vs).map Json.tree) := by
  unfold Lone
  rcases typed with _ | t <;> rcases vs with _ | ⟨v, _ | ⟨w, vs⟩⟩
  · simp [rereadKey, loneText, eq_comm]
  · cases v <;> simp [rereadKey, loneText, Json.tree, eq_comm]
  · cases v <;> simp [rereadKey]
  · simp [rereadKey, loneText, Json.tree, eq_comm]
  · cases v <;> simp [rereadKey]
  · cases v <;> simp [rereadKey]

/-- The text of a plain provenance whose nesting is allowed gives what
is read back from it, and nothing else. -/
theorem Plain.decode_encode (hp : p.Plain)
    (hd : p.json.Within Json.maxDepth) {q : Provenance} :
    decode (some p.encode) = .ok q ↔ p.reread = some q := by
  have hwithin : (Tree.obj (fieldTrees p.fields)).Within Json.maxDepth := by
    have h := hd.tree_within
    rwa [json, Json.tree] at h
  have hsaid := hp.said
  rw [← trim_encode] at hsaid
  rw [decode_iff hsaid hp.whole hwithin]
  unfold ofFields
  rw [others_fieldTrees, hp.ofPairs_others, Json.fieldTrees_eq_map,
    Json.valuesAt_map, Json.valuesAt_map, valuesAt_host, valuesAt_path]
  unfold reread
  constructor
  · rintro ⟨hhost, hpath, rfl⟩
    rw [rereadKey_eq_some.mpr ⟨hhost, rfl⟩, rereadKey_eq_some.mpr ⟨hpath, rfl⟩]
    rfl
  · intro h
    obtain ⟨host, hhost, h'⟩ := Option.bind_eq_some_iff.mp h
    obtain ⟨path, hpath, hq⟩ := Option.bind_eq_some_iff.mp h'
    cases hq
    obtain ⟨hlone, rfl⟩ := rereadKey_eq_some.mp hhost
    obtain ⟨hlone', rfl⟩ := rereadKey_eq_some.mp hpath
    exact ⟨hlone, hlone', rfl⟩

/-- What is read back is the provenance itself where no further field
has a known key, and only there. -/
theorem reread_eq_self :
    p.reread = some p ↔ ∀ f ∈ p.extra, f.1 ≠ hostKey ∧ f.1 ≠ pathKey := by
  unfold reread
  constructor
  · intro h
    obtain ⟨host, -, h'⟩ := Option.bind_eq_some_iff.mp h
    obtain ⟨path, -, hq⟩ := Option.bind_eq_some_iff.mp h'
    have hothers : others p.extra = p.extra :=
      congrArg Provenance.extra (Option.some.inj hq)
    intro f hf
    rw [← hothers] at hf
    simpa using (List.mem_filter.mp hf).2
  · intro h
    have hnone : ∀ key, key = hostKey ∨ key = pathKey →
        valuesAt key p.extra = [] := by
      intro key hkey
      refine List.eq_nil_iff_forall_not_mem.mpr fun v hv => ?_
      have hne := h _ (Json.mem_valuesAt.mp hv)
      rcases hkey with rfl | rfl
      · exact hne.1 rfl
      · exact hne.2 rfl
    have hothers : others p.extra = p.extra :=
      List.filter_eq_self.mpr fun f hf => by simpa using h f hf
    rw [hnone _ (.inl rfl), hnone _ (.inr rfl), hothers]
    rfl

/-- A plain provenance whose text nests less than 128 levels deep comes
back from its text as it is exactly where no further field has a known
key. What comes back in any case is `reread`. -/
theorem decode_encode_iff (hp : p.Plain) (hd : p.json.Within 127) :
    (decode (some p.encode) = .ok p
        ↔ ∀ f ∈ p.extra, f.1 ≠ hostKey ∧ f.1 ≠ pathKey)
      ∧ (decode (some p.encode)).toOption = p.reread := by
  refine ⟨(hp.decode_encode hd).trans reread_eq_self, ?_⟩
  ext q
  exact toOption_eq_some.trans (hp.decode_encode hd)

/-- A nested value with the least whole number and characters that are
escaped comes back; a second host is refused. -/
theorem decode_encode_nested :
    decode (some (encode ⟨some "nas", none,
        [("tags", .arr [.int Binary64.minInt, .obj [("k", .str "\"\\\n")]])]⟩))
      = .ok ⟨some "nas", none,
        [("tags", .arr [.int Binary64.minInt, .obj [("k", .str "\"\\\n")]])]⟩
    ∧ (decode (some (encode ⟨some "nas", none,
        [(hostKey, .str "other")]⟩))).toOption = none := by
  have hplain : Json.Plain
      (.arr [.int Binary64.minInt, .obj [("k", .str "\"\\\n")]]) := by
    refine .arr fun v hv => ?_
    simp only [List.mem_cons, List.not_mem_nil, or_false] at hv
    rcases hv with rfl | rfl
    · exact .int (by decide)
    · exact .obj (List.pairwise_singleton _ _)
        (List.forall_mem_singleton.mpr .str)
  have hwithin : Json.Within 126
      (.arr [.int Binary64.minInt, .obj [("k", .str "\"\\\n")]]) := by
    refine .arr fun v hv => ?_
    simp only [List.mem_cons, List.not_mem_nil, or_false] at hv
    rcases hv with rfl | rfl
    · exact .int
    · exact .obj (List.forall_mem_singleton.mpr .str)
  have hone : ∀ {key : String} {v : Json}, v.Plain →
      Plain ⟨some "nas", none, [(key, v)]⟩ :=
    fun hv => ⟨List.pairwise_singleton _ _, List.forall_mem_singleton.mpr hv⟩
  have hobj : ∀ {key : String} {v : Json}, v.Within 126 →
      (json ⟨some "nas", none, [(key, v)]⟩).Within 127 :=
    fun hv => within_json (List.forall_mem_singleton.mpr hv)
  constructor
  · refine (decode_encode_iff (hone hplain) (hobj hwithin)).1.mpr ?_
    exact List.forall_mem_singleton.mpr (by decide)
  · rw [(decode_encode_iff (hone .str) (hobj .str)).2]
    rfl

/-- What a store records is read back. -/
theorem decode_encode_origin (host path : String) :
    decode (some (origin host path).encode) = .ok (origin host path) := by
  have hp : (origin host path).Plain := ⟨.nil, nofun⟩
  have hd : (origin host path).json.Within Json.maxDepth := within_json nofun
  exact (hp.decode_encode hd).mpr (reread_eq_self.mpr nofun)

end Provenance

end FileDepot
